import McrxCore.Roster.Fairness

/-!
# Failed receives

A receive scan that fails leaves the cursor where it was.  The scans after it come to the
member that failed before they come to the joined members behind it.
-/

namespace McrxCore

variable {κ : Type}

def polled (sweeps : List Sweep) : List Nat := sweeps.flatMap fun sweep => sweep.polls.map Prod.fst

/-- A receive call that failed because the receive of the member at `index` did. -/
structure RosterCall.FailsOn (index : Nat) (call : RosterCall κ) : Prop where
  request : call.request = .receive
  failed : ∃ e, call.reply = .err e ∧ ∃ sweep ∈ call.sweeps, (index, .error e) ∈ sweep.polls

/-- The scans come to every other one of `joined` before they come to `index` again, so one
of them that is ready is returned. -/
structure Yields (index : Nat) (joined : List Nat) (sweeps : List Sweep) : Prop where
  polled : ∀ before after, polled sweeps = before ++ index :: after → index ∉ before →
    ∀ other ∈ joined, other ≠ index → other ∈ before
  returned : index ∈ McrxCore.polled sweeps → ∀ other ∈ joined, other ≠ index →
    (∀ sweep ∈ sweeps, sweep.Finds other) → ∃ sweep ∈ sweeps, sweep.Returns other

namespace Roster

/-- The joined members in the order in which the next scan comes to them. -/
def joinedQueue (members : List (Member κ)) (cursor : Nat) : List Nat :=
  RoundRobin.readyQueue (view members) cursor

section Sweep

variable {members : List (Member κ)} {index cursor cursor' : Nat} {sweeps : List Sweep}

theorem joinedQueue_perm (members : List (Member κ)) (cursor : Nat) :
    (joinedQueue members cursor).Perm (joined members) :=
  ((List.rotate_perm _ _).filter _).map _

theorem joinedQueue_nodup (members : List (Member κ)) (cursor : Nat) :
    (joinedQueue members cursor).Nodup := by
  refine (joinedQueue_perm members cursor).nodup_iff.mpr ?_
  have hnodup : ((view members).map Prod.fst).Nodup := map_fst_view members ▸ List.nodup_range
  exact hnodup.sublist ((List.filter_sublist ..).map Prod.fst)

theorem not_mem_ahead {ahead behind : List Nat}
    (hqueue : joinedQueue members cursor = ahead ++ index :: behind) : index ∉ ahead := by
  have hnodup := joinedQueue_nodup members cursor
  rw [hqueue] at hnodup
  exact fun hmem => (List.nodup_append.mp hnodup).2.2 index hmem index List.mem_cons_self rfl

theorem map_fst_polls {τ : Type} (joined : List Nat)
    (outcome : Option (Except McrxError (Option (Nat × τ))))
    (polls : List (Nat × Except McrxError (Option τ))) :
    (Sweep.of joined outcome polls).polls.map Prod.fst = polls.map Prod.fst := by
  show (polls.map pollOutcome).map Prod.fst = polls.map Prod.fst
  rw [List.map_map]
  rfl

/-- Scans poll joined members only. -/
theorem Sweeps.joined_of_polled (h : Sweeps members cursor sweeps cursor')
    (hmem : index ∈ polled sweeps) : index ∈ joined members := by
  induction h with
  | nil => exact absurd hmem List.not_mem_nil
  | @cons τ outcome polls cursor cursor' last sweeps hswept _ ih =>
    rw [polled, List.flatMap_cons, map_fst_polls] at hmem
    rcases List.mem_append.mp hmem with hmem | hmem
    · exact (joinedQueue_perm members cursor).mem_iff.mp (hswept.ready_of_polled hmem)
    · exact ih hmem

/-- A poll that finds a packet makes its scan return it. -/
theorem Sweeps.returns_of_polled (h : Sweeps members cursor sweeps cursor') {sweep : Sweep}
    (hsweep : sweep ∈ sweeps) (hmem : (index, .ok true) ∈ sweep.polls) : sweep.Returns index := by
  induction h with
  | nil => exact absurd hsweep List.not_mem_nil
  | @cons τ outcome polls cursor cursor' last sweeps hswept _ ih =>
    rcases List.mem_cons.mp hsweep with rfl | hsweep
    · obtain ⟨⟨i, result⟩, hpoll, heq⟩ := List.mem_map.mp hmem
      obtain ⟨rfl, hresult⟩ := Prod.mk.inj heq
      match result with
      | .ok (some item) =>
        have houtcome := hswept.served_of_polled hpoll
        subst houtcome
        rfl
      | .ok none => cases hresult
      | .error e => cases hresult
    · exact ih hsweep

/-- Until the scans come to a joined member, they poll what stands ahead of it, by
induction on the scans: each of them polls a part of it and leaves the rest ahead. -/
theorem Sweeps.mem_before_iff (h : Sweeps members cursor sweeps cursor') {ahead behind : List Nat}
    (hqueue : joinedQueue members cursor = ahead ++ index :: behind) {before after : List Nat}
    (hpolled : polled sweeps = before ++ index :: after) (hbefore : index ∉ before) (other : Nat) :
    other ∈ before ↔ other ∈ ahead := by
  induction h generalizing ahead behind before with
  | nil => exact absurd hpolled.symm (List.append_ne_nil_of_right_ne_nil _ (List.cons_ne_nil _ _))
  | @cons τ outcome polls cursor cursor' last sweeps hswept _ ih =>
    have hahead := not_mem_ahead hqueue
    rw [polled, List.flatMap_cons, map_fst_polls] at hpolled
    rw [show members.length = (view members).length from (List.length_mapIdx).symm] at hswept
    rcases hswept.ahead hqueue with ⟨later, hlater⟩ | ⟨ahead', behind', hqueue', hsame⟩
    · rw [hlater, List.append_assoc, List.cons_append] at hpolled
      rw [RoundRobin.before_unique hpolled hahead hbefore]
    · -- The scan stopped ahead of the member, so the polls of the others go on.
      have hnot : index ∉ polls.map Prod.fst := fun hmem => hahead ((hsame index).mpr (.inl hmem))
      rcases List.append_eq_append_iff.mp hpolled with
          ⟨between, rfl, hrest⟩ | ⟨between, hsplit, hrest⟩
      · have hbetween : index ∉ between := fun hmem => hbefore (List.mem_append_right _ hmem)
        rw [List.mem_append, hsame, ih hqueue' hrest hbetween]
      · cases between with
        | nil =>
          rw [List.append_nil] at hsplit
          have hnext : other ∈ [] ↔ other ∈ ahead' :=
            ih hqueue' hrest.symm List.not_mem_nil
          rw [← hsplit, hsame, ← hnext]
          exact ⟨Or.inl, fun hmem => hmem.resolve_right List.not_mem_nil⟩
        | cons first between =>
          obtain ⟨rfl, -⟩ := List.cons.inj hrest
          exact absurd (hsplit ▸ List.mem_append_right _ List.mem_cons_self) hnot

/-- The scans yield to the others when nobody stands behind the member that failed, and
only then. -/
theorem Sweeps.yields_iff (h : Sweeps members cursor sweeps cursor')
    (hagain : index ∈ polled sweeps) :
    Yields index (joined members) sweeps ↔
      (joinedQueue members cursor).getLast? = some index := by
  have hjoined : ∀ other, other ∈ joined members ↔ other ∈ joinedQueue members cursor :=
      fun other =>
    (joinedQueue_perm members cursor).mem_iff.symm
  obtain ⟨ahead, behind, hqueue, -⟩ :=
    List.eq_append_cons_of_mem ((hjoined index).mp (h.joined_of_polled hagain))
  have hnodup := joinedQueue_nodup members cursor
  rw [hqueue] at hnodup
  obtain ⟨before, after, hpolled, hbefore⟩ := List.eq_append_cons_of_mem hagain
  constructor
  · intro hyields
    have hbehind : behind = [] := by
      refine List.eq_nil_iff_forall_not_mem.mpr fun other hother => ?_
      have hne : other ≠ index := fun heq =>
        (List.nodup_cons.mp (List.nodup_append.mp hnodup).2.1).1 (heq ▸ hother)
      have hmem : other ∈ joined members := by
        rw [hjoined, hqueue]
        exact List.mem_append_right _ (List.mem_cons_of_mem _ hother)
      have hahead := (h.mem_before_iff hqueue hpolled hbefore other).mp
        (hyields.polled before after hpolled hbefore other hmem hne)
      exact (List.nodup_append.mp hnodup).2.2 other hahead other (List.mem_cons_of_mem _ hother) rfl
    rw [hqueue, hbehind]
    exact List.getLast?_concat
  · intro hlast
    obtain ⟨others, hothers⟩ := List.getLast?_eq_some_iff.mp hlast
    have hcovered : ∀ before after, polled sweeps = before ++ index :: after → index ∉ before →
        ∀ other ∈ joined members, other ≠ index → other ∈ before := by
      intro before after hpolled hbefore other hother hne
      rw [h.mem_before_iff hothers hpolled hbefore other]
      rw [hjoined, hothers] at hother
      exact (List.mem_append.mp hother).resolve_right fun hmem => hne (List.mem_singleton.mp hmem)
    refine ⟨hcovered, fun _ other hother hne hfinds => ?_⟩
    have hmem : other ∈ polled sweeps :=
      hpolled ▸ List.mem_append_left _ (hcovered before after hpolled hbefore other hother hne)
    obtain ⟨sweep, hsweep, hindex⟩ := List.mem_flatMap.mp hmem
    obtain ⟨⟨_, result⟩, hpoll, rfl⟩ := List.mem_map.mp hindex
    have hfound : result = .ok true := hfinds sweep hsweep result hpoll
    exact ⟨sweep, hsweep, h.returns_of_polled hsweep (hfound ▸ hpoll)⟩

/-- While the receive of a member fails, the scans come to it and to what stood ahead of
it, and never to the members behind it. -/
theorem Sweeps.ahead_of_polled (h : Sweeps members cursor sweeps cursor') {ahead behind : List Nat}
    (hqueue : joinedQueue members cursor = ahead ++ index :: behind)
    (hfails : ∀ sweep ∈ sweeps, ∀ result, (index, result) ∈ sweep.polls → ∃ e, result = .error e)
    {other : Nat} (hother : other ∈ polled sweeps) : other = index ∨ other ∈ ahead := by
  induction h generalizing ahead behind with
  | nil => exact absurd hother List.not_mem_nil
  | @cons τ outcome polls cursor cursor' last sweeps hswept _ ih =>
    have hlater := fun sweep hsweep => hfails sweep (List.mem_cons_of_mem _ hsweep)
    rw [polled, List.flatMap_cons, map_fst_polls] at hother
    rw [show members.length = (view members).length from (List.length_mapIdx).symm] at hswept
    rcases hswept.ahead hqueue with ⟨later, hpolls⟩ | ⟨ahead', behind', hqueue', hsame⟩
    · have hindex : index ∈ polls.map Prod.fst :=
        hpolls ▸ List.mem_append_right _ List.mem_cons_self
      obtain ⟨⟨_, result⟩, hpoll, rfl⟩ := List.mem_map.mp hindex
      obtain ⟨e, he⟩ := hfails _ List.mem_cons_self _ (List.mem_map.mpr ⟨_, hpoll, rfl⟩)
      obtain ⟨e', rfl⟩ : ∃ e', result = .error e' := by
        cases result with
        | error e' => exact ⟨e', rfl⟩
        | ok found => cases he
      -- The failed scan leaves the cursor, so the rest meets the same members ahead.
      obtain ⟨rfl, before, after, hpolled, hsplit⟩ := hswept.failed_of_polled hpoll
      have hsame := hqueue.symm.trans hsplit
      rw [hpolled, ← RoundRobin.before_unique hsame (not_mem_ahead hqueue) (not_mem_ahead hsplit)]
        at hother
      rcases List.mem_append.mp hother with hother | hother
      · exact (List.mem_append.mp hother).symm.imp_left List.mem_singleton.mp
      · exact ih hqueue hlater hother
    · rcases List.mem_append.mp hother with hother | hother
      · exact .inr ((hsame other).mpr (.inl hother))
      · exact (ih hqueue' hlater hother).imp_right fun hmem => (hsame other).mpr (.inr hmem)

end Sweep

/-! ## Calls -/

theorem Step.receives {valid : κ → Prop} {r r' : Roster κ} {reply : Outcome RosterReply}
    {sweeps : List Sweep} (h : Step valid r .receive reply sweeps r') : Receives r sweeps r' := by
  cases h with
  | received hsweeps => exact ⟨rfl, hsweeps⟩

/-- The scans of a window of receive calls are one row of scans. -/
theorem Runs.receives {valid : κ → Prop} {r r' : Roster κ} {calls : List (RosterCall κ)}
    (h : Runs valid r calls r') (hreceive : ∀ call ∈ calls, call.request = .receive) :
    Receives r (calls.flatMap RosterCall.sweeps) r' := by
  induction h with
  | nil r => exact .refl r
  | @cons call calls last hstep _ ih =>
    rw [hreceive call List.mem_cons_self] at hstep
    have hrest := ih fun c hc => hreceive c (List.mem_cons_of_mem _ hc)
    exact hstep.receives.trans hrest

theorem Runs.yields_iff {valid : κ → Prop} {r r' : Roster κ} {calls : List (RosterCall κ)}
    (h : Runs valid r calls r') (hreceive : ∀ call ∈ calls, call.request = .receive) {index : Nat}
    (hagain : index ∈ polled (calls.flatMap RosterCall.sweeps)) :
    Yields index (joined r.members) (calls.flatMap RosterCall.sweeps) ↔
      (joinedQueue r.members r.nextRecvIndex).getLast? = some index :=
  (h.receives hreceive).cursor.yields_iff hagain

/-- Receive calls never come to the members behind one whose receive fails every time. -/
theorem Runs.blocked {valid : κ → Prop} {r r' : Roster κ} {calls : List (RosterCall κ)}
    (h : Runs valid r calls r') (hreceive : ∀ call ∈ calls, call.request = .receive) {index : Nat}
    {ahead behind : List Nat}
    (hqueue : joinedQueue r.members r.nextRecvIndex = ahead ++ index :: behind)
    (hfails : ∀ sweep ∈ calls.flatMap RosterCall.sweeps, ∀ result,
      (index, result) ∈ sweep.polls → ∃ e, result = .error e) :
    ∀ other ∈ behind, other ∉ polled (calls.flatMap RosterCall.sweeps) := by
  intro other hother hpolled
  have hnodup := joinedQueue_nodup r.members r.nextRecvIndex
  rw [hqueue] at hnodup
  obtain ⟨-, hbehind, hdisjoint⟩ := List.nodup_append.mp hnodup
  rcases (h.receives hreceive).cursor.ahead_of_polled hqueue hfails hpolled with rfl | hahead
  · exact (List.nodup_cons.mp hbehind).1 hother
  · exact hdisjoint other hahead other (List.mem_cons_of_mem _ hother) rfl

end Roster

end McrxCore
