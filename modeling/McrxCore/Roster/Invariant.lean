import McrxCore.Roster

/-!
# The invariant of a roster

What holds after every run of calls, with the calls so far: identifiers are handed out
once, configurations are unique, and a member is joined when its last successful join is
later than its last successful leave.
-/

namespace McrxCore

variable {κ : Type}

namespace RosterCall

def handed (call : RosterCall κ) : Option SubscriptionId :=
  match call.reply with
  | .ok (.added id) => some id
  | _ => none

def isAdd (call : RosterCall κ) : Bool :=
  match call.request with
  | .add _ => true
  | _ => false

/-- A successful join of `id`. -/
structure Joins (id : SubscriptionId) (call : RosterCall κ) : Prop where
  request : call.request = .join id
  reply : call.reply = .ok .joined

/-- A successful leave of `id`. -/
structure Leaves (id : SubscriptionId) (call : RosterCall κ) : Prop where
  request : call.request = .leave id
  reply : call.reply = .ok .left

/-- A removal drops the named member and keeps every other one, once and as it was, or
finds no such member and does nothing. -/
def RemovesExactly (call : RosterCall κ) : Prop :=
  ∀ id, call.request = .remove id →
    (call.reply = .ok (.removed true) ∧
      ∃ member, member.id = id ∧ call.before.members.Perm (member :: call.after.members)) ∨
    (call.reply = .ok (.removed false) ∧ call.after = call.before ∧
      ∀ member ∈ call.before.members, member.id ≠ id)

/-- An add, a join or a leave that fails changes nothing. -/
def FailsAtomically (call : RosterCall κ) : Prop :=
  ∀ e, call.reply = .err e → call.request ≠ .receive → call.after = call.before

end RosterCall

/-- The last successful join of `id` is later than its last successful leave. -/
def JoinedLast (id : SubscriptionId) (calls : List (RosterCall κ)) : Prop :=
  ∃ past call later, calls = past ++ call :: later ∧ call.Joins id ∧
    ∀ other ∈ later, ¬ other.Leaves id

def adds (calls : List (RosterCall κ)) : Nat := calls.countP RosterCall.isAdd

structure Kept (valid : κ → Prop) (calls : List (RosterCall κ)) (r : Roster κ) : Prop where
  ids : (r.members.map Member.id).Nodup
  ids_lt : adds calls < 2 ^ 64 - 1 → ∀ member ∈ r.members, member.id.val < r.nextSubscriptionId
  handed : (calls.filterMap RosterCall.handed).Nodup
  configs : (r.members.map Member.config).Nodup
  validated : ∀ member ∈ r.members, valid member.config
  cursor : r.InRange
  noPanic : ∀ call ∈ calls, call.reply ≠ .panic
  removals : ∀ call ∈ calls, call.RemovesExactly
  joined : ∀ member ∈ r.members, member.state = .joined ↔ JoinedLast member.id calls
  failures : ∀ call ∈ calls, call.FailsAtomically

/-! ## Histories -/

section History

variable {id : SubscriptionId} {past : List (RosterCall κ)} {call : RosterCall κ}

/-- A call decides whether `id` is joined last, or leaves it as it was. -/
theorem joinedLast_append_singleton :
    JoinedLast id (past ++ [call]) ↔ call.Joins id ∨ JoinedLast id past ∧ ¬ call.Leaves id := by
  constructor
  · rintro ⟨before, join, later, hsplit, hjoins, hlater⟩
    rcases List.eq_nil_or_concat later with rfl | ⟨later, last, rfl⟩
    · obtain ⟨-, hcall⟩ := List.append_inj' hsplit rfl
      obtain rfl := List.singleton_inj.mp hcall
      exact .inl hjoins
    · rw [List.concat_eq_append, ← List.cons_append, ← List.append_assoc] at hsplit
      obtain ⟨rfl, hcall⟩ := List.append_inj' hsplit rfl
      obtain rfl := List.singleton_inj.mp hcall
      rw [List.concat_eq_append] at hlater
      exact .inr ⟨⟨before, join, later, rfl, hjoins, fun other hother =>
        hlater other (List.mem_append_left _ hother)⟩,
        hlater _ (List.mem_append_right _ List.mem_cons_self)⟩
  · rintro (hjoins | ⟨⟨before, join, later, rfl, hjoins, hlater⟩, hleaves⟩)
    · exact ⟨past, call, [], rfl, hjoins, fun _ h => absurd h List.not_mem_nil⟩
    · refine ⟨before, join, later ++ [call], ?_, hjoins, ?_⟩
      · rw [List.append_assoc, List.cons_append]
      · intro other hother
        rcases List.mem_append.mp hother with hother | hother
        · exact hlater other hother
        · rwa [List.mem_singleton.mp hother]

theorem joinedLast_of_not (hjoins : ¬ call.Joins id) (hleaves : ¬ call.Leaves id) :
    JoinedLast id (past ++ [call]) ↔ JoinedLast id past := by
  rw [joinedLast_append_singleton]
  exact ⟨fun h => (h.resolve_left hjoins).1, fun h => .inr ⟨h, hleaves⟩⟩

end History

/-! ## One call -/

namespace Roster

variable {valid : κ → Prop}

/-- The invariant of runs, after `count` adds that succeeded. -/
structure Tracks (valid : κ → Prop) (count : Nat) (calls : List (RosterCall κ)) (r : Roster κ) :
    Prop where
  handed : calls.filterMap RosterCall.handed = (List.range' 1 count).map SubscriptionId.mk
  count_le : count ≤ adds calls
  next : r.nextSubscriptionId = (count + 1) % 2 ^ 64
  ids : (r.members.map Member.id).Nodup
  ids_le : ∀ member ∈ r.members, member.id.val ≤ count
  configs : (r.members.map Member.config).Nodup
  validated : ∀ member ∈ r.members, valid member.config
  cursor : r.InRange
  joined : ∀ member ∈ r.members, member.state = .joined ↔ JoinedLast member.id calls
  joins_le : ∀ call ∈ calls, ∀ id, call.Joins id → id.val ≤ count

theorem tracks_empty : Tracks valid 0 [] (empty : Roster κ) where
  handed := rfl
  count_le := Nat.le_refl 0
  next := rfl
  ids := .nil
  ids_le := fun _ h => absurd h List.not_mem_nil
  configs := .nil
  validated := fun _ h => absurd h List.not_mem_nil
  cursor := inRange_empty
  joined := fun _ h => absurd h List.not_mem_nil
  joins_le := fun _ h => absurd h List.not_mem_nil

theorem adds_append_singleton (past : List (RosterCall κ)) (call : RosterCall κ) :
    adds (past ++ [call]) = adds past + if call.isAdd then 1 else 0 := by
  rw [adds, List.countP_append, List.countP_singleton]
  rfl

/-- A call that hands out nothing keeps what the invariant says of the past. -/
theorem Tracks.quiet {count : Nat} {past : List (RosterCall κ)} {call : RosterCall κ}
    (h : Tracks valid count past call.before) (hhanded : call.handed = none)
    (hnext : call.after.nextSubscriptionId = call.before.nextSubscriptionId)
    (hids : (call.after.members.map Member.id).Nodup)
    (hids_le : ∀ member ∈ call.after.members, member.id.val ≤ count)
    (hconfigs : (call.after.members.map Member.config).Nodup)
    (hvalidated : ∀ member ∈ call.after.members, valid member.config)
    (hcursor : call.after.InRange)
    (hjoined : ∀ member ∈ call.after.members,
      member.state = .joined ↔ JoinedLast member.id (past ++ [call]))
    (hjoins : ∀ id, call.Joins id → id.val ≤ count) :
    Tracks valid count (past ++ [call]) call.after where
  handed := by
    rw [List.filterMap_append, h.handed]
    show _ ++ [call].filterMap RosterCall.handed = _
    rw [List.filterMap_cons, hhanded]
    exact List.append_nil _
  count_le := by
    rw [adds_append_singleton]
    exact h.count_le.trans (Nat.le_add_right _ _)
  next := hnext.trans h.next
  ids := hids
  ids_le := hids_le
  configs := hconfigs
  validated := hvalidated
  cursor := hcursor
  joined := hjoined
  joins_le := by
    intro other hother id hid
    rcases List.mem_append.mp hother with hother | hother
    · exact h.joins_le other hother id hid
    · rw [List.mem_singleton.mp hother] at hid
      exact hjoins id hid

/-- A call that only drops members, and neither joins nor leaves. -/
theorem Tracks.dropped {count : Nat} {past : List (RosterCall κ)} {call : RosterCall κ}
    (h : Tracks valid count past call.before) (hhanded : call.handed = none)
    (hnext : call.after.nextSubscriptionId = call.before.nextSubscriptionId)
    {gone : List (Member κ)} (hperm : call.before.members.Perm (gone ++ call.after.members))
    (hcursor : call.after.InRange) (hjoins : ∀ id, ¬ call.Joins id)
    (hleaves : ∀ id, ¬ call.Leaves id) : Tracks valid count (past ++ [call]) call.after := by
  have hmem : ∀ member ∈ call.after.members, member ∈ call.before.members := fun member hmember =>
    hperm.mem_iff.mpr (List.mem_append_right _ hmember)
  have hids := (hperm.map Member.id).nodup_iff.mp h.ids
  have hconfigs := (hperm.map Member.config).nodup_iff.mp h.configs
  rw [List.map_append] at hids hconfigs
  refine h.quiet hhanded hnext (List.nodup_append.mp hids).2.1 (fun m hm => h.ids_le m (hmem m hm))
    (List.nodup_append.mp hconfigs).2.1 (fun m hm => h.validated m (hmem m hm)) hcursor
    (fun m hm => ?_) (fun id hid => (hjoins id hid).elim)
  rw [joinedLast_of_not (hjoins _) (hleaves _)]
  exact h.joined m (hmem m hm)

/-- A call that sets the state of one member. -/
theorem Tracks.marked {count : Nat} {past : List (RosterCall κ)} {call : RosterCall κ}
    (h : Tracks valid count past call.before) (hhanded : call.handed = none)
    {before rest : List (Member κ)} {member : Member κ} {state : SubscriptionState}
    (hsplit : call.before.members = before ++ member :: rest)
    (hafter : call.after =
      { call.before with members := before ++ { member with state := state } :: rest })
    (hcursor : call.after.InRange)
    (hjoins : ∀ id, call.Joins id ↔ id = member.id ∧ state = .joined)
    (hleaves : ∀ id, call.Leaves id ↔ id = member.id ∧ state = .bound) :
    Tracks valid count (past ++ [call]) call.after := by
  have hmembers : call.after.members = before ++ { member with state := state } :: rest :=
    congrArg Roster.members hafter
  have hmem : member ∈ call.before.members := by
    rw [hsplit]
    exact List.mem_append_right _ List.mem_cons_self
  have hids : call.after.members.map Member.id = call.before.members.map Member.id := by
    rw [hmembers, hsplit, List.map_append, List.map_append, List.map_cons, List.map_cons]
  have hconfigs : call.after.members.map Member.config = call.before.members.map Member.config := by
    rw [hmembers, hsplit, List.map_append, List.map_append, List.map_cons, List.map_cons]
  -- A member of the new roster is an old one, but for its state.
  have hold : ∀ m ∈ call.after.members,
      m = { member with state := state } ∨ m ∈ call.before.members ∧ m.id ≠ member.id := by
    intro m hm
    have hnodup := h.ids
    rw [hsplit, List.map_append, List.map_cons] at hnodup
    have hnot := List.nodup_middle.mp hnodup
    rw [← List.map_append] at hnot
    have hne : ∀ m ∈ before ++ rest, m.id ≠ member.id := fun m hm heq =>
      (List.nodup_cons.mp hnot).1 (heq ▸ List.mem_map_of_mem hm)
    rw [hmembers, List.mem_append, List.mem_cons] at hm
    rw [hsplit]
    rcases hm with hm | rfl | hm
    · exact .inr ⟨List.mem_append_left _ hm, hne m (List.mem_append_left _ hm)⟩
    · exact .inl rfl
    · exact .inr ⟨List.mem_append_right _ (List.mem_cons_of_mem _ hm),
        hne m (List.mem_append_right _ hm)⟩
  refine h.quiet hhanded (by rw [hafter]) (hids ▸ h.ids) (fun m hm => ?_)
    (hconfigs ▸ h.configs) (fun m hm => ?_) hcursor (fun m hm => ?_) (fun id hid => ?_)
  · rcases hold m hm with rfl | ⟨hm, -⟩
    · exact h.ids_le member hmem
    · exact h.ids_le m hm
  · rcases hold m hm with rfl | ⟨hm, -⟩
    · exact h.validated member hmem
    · exact h.validated m hm
  · rcases hold m hm with rfl | ⟨hm, hne⟩
    · show state = .joined ↔ JoinedLast member.id _
      rw [joinedLast_append_singleton, hjoins, hleaves]
      cases state with
      | joined => exact iff_of_true rfl (.inl ⟨rfl, rfl⟩)
      | bound => exact iff_of_false nofun fun h => h.elim (nomatch ·.2) fun h => h.2 ⟨rfl, rfl⟩
    · rw [joinedLast_of_not (fun hj => hne ((hjoins _).mp hj).1)
        (fun hl => hne ((hleaves _).mp hl).1)]
      exact h.joined m hm
  · rw [((hjoins id).mp hid).1]
    exact h.ids_le member hmem

/-- A successful add hands out the next identifier. -/
theorem Tracks.added {count : Nat} {past : List (RosterCall κ)} {call : RosterCall κ}
    (h : Tracks valid count past call.before) {config : κ} (hvalid : valid config)
    (hfresh : ∀ member ∈ call.before.members, member.config ≠ config)
    (hrequest : call.request = .add config)
    (hreply : call.reply = .ok (.added ⟨call.before.nextSubscriptionId⟩))
    (hafter : call.after =
      { call.before with
        members := call.before.members ++ [⟨⟨call.before.nextSubscriptionId⟩, config, .bound⟩]
        nextSubscriptionId := (call.before.nextSubscriptionId + 1) % 2 ^ 64 })
    (hcursor : call.after.InRange) (hadds : adds (past ++ [call]) < 2 ^ 64) :
    Tracks valid (count + 1) (past ++ [call]) call.after := by
  have hisAdd : call.isAdd = true := by rw [RosterCall.isAdd, hrequest]
  rw [adds_append_singleton, hisAdd, if_pos rfl] at hadds
  have hlt : count + 1 < 2 ^ 64 := by
    have hle := h.count_le
    omega
  have hnext : call.before.nextSubscriptionId = count + 1 := by
    rw [h.next, Nat.mod_eq_of_lt hlt]
  rw [hnext] at hreply hafter
  have hmembers : call.after.members = call.before.members ++ [⟨⟨count + 1⟩, config, .bound⟩] :=
    congrArg Roster.members hafter
  have hjoins : ∀ id, ¬ call.Joins id := fun id hj => nomatch hrequest.symm.trans hj.request
  have hleaves : ∀ id, ¬ call.Leaves id := fun id hl => nomatch hrequest.symm.trans hl.request
  have hnew : (⟨count + 1⟩ : SubscriptionId) ∉ call.before.members.map Member.id := by
    intro hmem
    obtain ⟨member, hmember, hid⟩ := List.mem_map.mp hmem
    have hle := h.ids_le member hmember
    rw [hid] at hle
    exact Nat.not_succ_le_self count hle
  have hold : ∀ m ∈ call.after.members,
      m = ⟨⟨count + 1⟩, config, .bound⟩ ∨ m ∈ call.before.members := by
    intro m hm
    rw [hmembers, List.mem_append, List.mem_singleton] at hm
    exact hm.symm
  refine ⟨?_, ?_, ?_, ?_, ?_, ?_, ?_, hcursor, ?_, ?_⟩
  · rw [List.filterMap_append, h.handed, List.range'_concat, List.map_append]
    show _ ++ [call].filterMap RosterCall.handed = _
    have hhanded : call.handed = some ⟨1 + 1 * count⟩ := by
      rw [RosterCall.handed, hreply, Nat.one_mul, Nat.add_comm]
    rw [List.filterMap_cons, hhanded]
    rfl
  · rw [adds_append_singleton, hisAdd, if_pos rfl]
    exact Nat.succ_le_succ h.count_le
  · exact congrArg Roster.nextSubscriptionId hafter
  · rw [hmembers, List.map_append]
    exact List.nodup_append_comm.mpr (List.nodup_cons.mpr ⟨hnew, h.ids⟩)
  · intro m hm
    rcases hold m hm with rfl | hm
    · exact Nat.le_refl _
    · exact (h.ids_le m hm).trans (Nat.le_succ _)
  · rw [hmembers, List.map_append]
    refine List.nodup_append_comm.mpr (List.nodup_cons.mpr ⟨fun hmem => ?_, h.configs⟩)
    obtain ⟨member, hmember, hconfig⟩ := List.mem_map.mp hmem
    exact hfresh member hmember hconfig
  · intro m hm
    rcases hold m hm with rfl | hm
    · exact hvalid
    · exact h.validated m hm
  · intro m hm
    rw [joinedLast_of_not (hjoins _) (hleaves _)]
    rcases hold m hm with rfl | hm
    · refine iff_of_false nofun ?_
      rintro ⟨before, join, later, rfl, hjoin, -⟩
      have hle := h.joins_le join (List.mem_append_right _ List.mem_cons_self) _ hjoin
      exact Nat.not_succ_le_self count hle
    · exact h.joined m hm
  · intro other hother id hid
    rcases List.mem_append.mp hother with hother | hother
    · exact (h.joins_le other hother id hid).trans (Nat.le_succ _)
    · rw [List.mem_singleton.mp hother] at hid
      exact (hjoins id hid).elim

/-- Every call keeps the invariant. -/
theorem Tracks.step {count : Nat} {past : List (RosterCall κ)} {call : RosterCall κ}
    (h : Tracks valid count past call.before)
    (hstep : Step valid call.before call.request call.reply call.sweeps call.after)
    (hadds : adds (past ++ [call]) < 2 ^ 64) :
    ∃ count', Tracks valid count' (past ++ [call]) call.after := by
  have hcursor := hstep.inRange h.cursor
  obtain ⟨before, request, reply, sweeps, after⟩ := call
  change Step valid before request reply sweeps after at hstep
  change after.InRange at hcursor
  have hquiet : ∀ gone : List (Member κ), before.members.Perm (gone ++ after.members) →
      after.nextSubscriptionId = before.nextSubscriptionId →
      (RosterCall.mk before request reply sweeps after).handed = none →
      (∀ id, request ≠ .join id ∨ reply ≠ .ok .joined) →
      (∀ id, request ≠ .leave id ∨ reply ≠ .ok .left) →
      ∃ count', Tracks valid count' (past ++ [⟨before, request, reply, sweeps, after⟩]) after :=
    fun gone hperm hnext hhanded hjoins hleaves =>
      ⟨count, h.dropped hhanded hnext hperm hcursor
        (fun id hj => (hjoins id).elim (· hj.request) (· hj.reply))
        (fun id hl => (hleaves id).elim (· hl.request) (· hl.reply))⟩
  cases hstep with
  | added hvalid hfresh => exact ⟨count + 1, h.added hvalid hfresh rfl rfl rfl hcursor hadds⟩
  | removed hperm =>
    exact hquiet [_] hperm rfl rfl (fun _ => .inl nofun) (fun _ => .inl nofun)
  | joined hsplit =>
    refine ⟨count, h.marked rfl hsplit rfl hcursor (fun id => ?_) (fun id => ?_)⟩
    · refine ⟨fun hj => ⟨?_, rfl⟩, fun ⟨hid, _⟩ => ⟨by rw [hid], rfl⟩⟩
      exact (RosterRequest.join.inj hj.request).symm
    · exact iff_of_false (fun hl => nomatch hl.request) (fun hl => nomatch hl.2)
  | left hsplit =>
    refine ⟨count, h.marked rfl hsplit rfl hcursor (fun id => ?_) (fun id => ?_)⟩
    · exact iff_of_false (fun hj => nomatch hj.request) (fun hj => nomatch hj.2)
    · refine ⟨fun hl => ⟨?_, rfl⟩, fun ⟨hid, _⟩ => ⟨by rw [hid], rfl⟩⟩
      exact (RosterRequest.leave.inj hl.request).symm
  | received hsweeps hreply =>
    refine hquiet [] (.refl _) rfl ?_ (fun _ => .inl nofun) (fun _ => .inl nofun)
    rcases hreply with rfl | ⟨e, rfl⟩ <;> rfl
  | addFailed | absent | joinFailed | leaveFailed =>
    exact hquiet [] (.refl _) rfl rfl (fun _ => .inr nofun) (fun _ => .inr nofun)

/-- Every run keeps the invariant. -/
theorem Runs.tracks {r r' : Roster κ} {calls : List (RosterCall κ)} (h : Runs valid r calls r')
    {count : Nat} {past : List (RosterCall κ)} (hpast : Tracks valid count past r)
    (hadds : adds (past ++ calls) < 2 ^ 64) : ∃ count', Tracks valid count' (past ++ calls) r' := by
  induction h generalizing count past with
  | nil r =>
    rw [List.append_nil]
    exact ⟨count, hpast⟩
  | @cons call calls last hstep _ ih =>
    have hsplit : past ++ call :: calls = past ++ [call] ++ calls := by
      rw [List.append_assoc, List.singleton_append]
    rw [hsplit] at hadds ⊢
    have hfirst : adds (past ++ [call]) < 2 ^ 64 := by
      rw [adds, List.countP_append] at hadds
      exact Nat.lt_of_le_of_lt (Nat.le_add_right _ _) hadds
    obtain ⟨count', hnext⟩ := hpast.step hstep hfirst
    exact ih hnext hadds

/-! ## What the calls so far make of a roster -/

theorem Step.noPanic {r r' : Roster κ} {request : RosterRequest κ} {reply : Outcome RosterReply}
    {sweeps : List Sweep} (h : Step valid r request reply sweeps r') : reply ≠ .panic := by
  cases h with
  | received _ hreply => rcases hreply with rfl | ⟨e, rfl⟩ <;> exact nofun
  | _ => exact nofun

theorem Step.removesExactly {call : RosterCall κ}
    (h : Step valid call.before call.request call.reply call.sweeps call.after) :
    call.RemovesExactly := by
  obtain ⟨before, request, reply, sweeps, after⟩ := call
  change Step valid before request reply sweeps after at h
  rintro id rfl
  cases h with
  | removed hperm => exact .inl ⟨rfl, _, rfl, hperm⟩
  | absent habsent => exact .inr ⟨rfl, rfl, habsent⟩

theorem Step.failsAtomically {call : RosterCall κ}
    (h : Step valid call.before call.request call.reply call.sweeps call.after) :
    call.FailsAtomically := by
  obtain ⟨before, request, reply, sweeps, after⟩ := call
  change Step valid before request reply sweeps after at h
  rintro e rfl hreceive
  cases h with
  | received => exact absurd rfl hreceive
  | _ => rfl

theorem Runs.forall_step {r r' : Roster κ} {calls : List (RosterCall κ)}
    (h : Runs valid r calls r') :
    ∀ call ∈ calls, Step valid call.before call.request call.reply call.sweeps call.after := by
  induction h with
  | nil => exact fun _ h => absurd h List.not_mem_nil
  | cons hstep _ ih => exact List.forall_mem_cons.mpr ⟨hstep, ih⟩

/-- A run from the empty roster keeps all of it. -/
theorem Runs.kept {r : Roster κ} {calls : List (RosterCall κ)} (h : Runs valid empty calls r)
    (hadds : adds calls < 2 ^ 64) : Kept valid calls r := by
  obtain ⟨count, htracks⟩ := h.tracks tracks_empty hadds
  have hsteps := h.forall_step
  refine
    { ids := htracks.ids
      ids_lt := fun hlt member hmember => ?_
      handed := ?_
      configs := htracks.configs
      validated := htracks.validated
      cursor := htracks.cursor
      noPanic := fun call hcall => (hsteps call hcall).noPanic
      removals := fun call hcall => (hsteps call hcall).removesExactly
      joined := htracks.joined
      failures := fun call hcall => (hsteps call hcall).failsAtomically }
  · have hle : count ≤ adds calls := htracks.count_le
    rw [htracks.next, Nat.mod_eq_of_lt (by omega)]
    exact Nat.lt_succ_of_le (htracks.ids_le member hmember)
  · have hhanded : calls.filterMap RosterCall.handed = _ := htracks.handed
    rw [hhanded]
    exact List.Nodup.map (fun _ _ => SubscriptionId.mk.inj) (List.nodup_range' 1)

end Roster

end McrxCore
