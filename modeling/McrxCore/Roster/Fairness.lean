import McrxCore.Lib.Vec
import McrxCore.Roster

/-!
# Turns of a roster

Over a window of receive calls and of joins and leaves of others, a member that is joined
and always has a packet keeps its place in the queue seen from the cursor.
-/

namespace McrxCore

variable {κ : Type}

/-- The call receives, or joins or leaves a subscription other than `id`. -/
def RosterRequest.Spares (id : SubscriptionId) : RosterRequest κ → Prop
  | .receive => True
  | .join other => other ≠ id
  | .leave other => other ≠ id
  | .add _ => False
  | .remove _ => False

instance (id : SubscriptionId) (request : RosterRequest κ) : Decidable (request.Spares id) :=
  match request with
  | .receive => inferInstanceAs (Decidable True)
  | .join other => inferInstanceAs (Decidable (other ≠ id))
  | .leave other => inferInstanceAs (Decidable (other ≠ id))
  | .add _ => inferInstanceAs (Decidable False)
  | .remove _ => inferInstanceAs (Decidable False)

/-- Every poll of the member at `index` found a packet. -/
def Sweep.Finds (index : Nat) (sweep : Sweep) : Prop :=
  ∀ result, (index, result) ∈ sweep.polls → result = .ok true

def Sweep.Fails (sweep : Sweep) : Prop := ∃ e, sweep.outcome = .err e

def Sweep.Returns (index : Nat) (sweep : Sweep) : Prop := sweep.outcome = .ok (some index)

instance (index : Nat) (sweep : Sweep) : Decidable (sweep.Finds index) :=
  decidable_of_iff (∀ poll ∈ sweep.polls, poll.1 = index → poll.2 = .ok true)
    ⟨fun h _ hpoll => h _ hpoll rfl, fun h _ hpoll hindex => h _ (hindex ▸ hpoll)⟩

instance (sweep : Sweep) : Decidable sweep.Fails :=
  match h : sweep.outcome with
  | .err e => isTrue ⟨e, h⟩
  | .ok _ => isFalse fun ⟨_, he⟩ => nomatch h.symm.trans he
  | .panic => isFalse fun ⟨_, he⟩ => nomatch h.symm.trans he

instance (index : Nat) (sweep : Sweep) : Decidable (sweep.Returns index) :=
  inferInstanceAs (Decidable (_ = _))

/-- A window in which the subscription `id`, at `index`, waits for its turn. -/
structure Waits (id : SubscriptionId) (index : Nat) (calls : List (RosterCall κ)) : Prop where
  spares : ∀ call ∈ calls, call.request.Spares id
  finds : ∀ call ∈ calls, ∀ sweep ∈ call.sweeps, sweep.Finds index
  succeeds : ∀ call ∈ calls, ∀ sweep ∈ call.sweeps, ¬ sweep.Fails

namespace Roster

/-- The indices in the order in which the next scan comes to them. -/
def queue (members : List (Member κ)) (cursor : Nat) : List Nat :=
  (List.range members.length).rotate cursor

theorem map_fst_view (members : List (Member κ)) :
    (view members).map Prod.fst = List.range members.length :=
  RoundRobin.map_fst_indexed members

theorem mem_view {members : List (Member κ)} {index : Nat} {member : Member κ}
    (hget : members[index]? = some member) (hjoined : member.state = .joined) :
    (index, true) ∈ view members := by
  refine List.mem_of_getElem? (i := index) ?_
  rw [view, RoundRobin.indexed, List.getElem?_mapIdx, hget, Option.map_some]
  exact congrArg some (Prod.ext rfl (beq_iff_eq.mpr hjoined))

section Sweep

variable {members : List (Member κ)} {index : Nat} {member : Member κ} {cursor cursor' : Nat}

/-- The scans of one call serve members in turn. -/
theorem Sweeps.turns {sweeps : List Sweep} (h : Sweeps members cursor sweeps cursor')
    (hget : members[index]? = some member) (hjoined : member.state = .joined)
    (hfinds : ∀ sweep ∈ sweeps, sweep.Finds index) (hsucceeds : ∀ sweep ∈ sweeps, ¬ sweep.Fails)
    {later : List Nat} (hlater : RoundRobin.Turns index (queue members cursor') later) :
    ∃ served, sweeps.map Sweep.outcome = served.map (fun i => .ok (some i)) ∧
      RoundRobin.Turns index (queue members cursor) (served ++ later) := by
  induction h with
  | nil => exact ⟨[], rfl, hlater⟩
  | @cons τ outcome polls cursor cursor' last sweeps hswept _ ih =>
    obtain ⟨served, houtcomes, hturns⟩ := ih (fun sweep hs => hfinds sweep
      (List.mem_cons_of_mem _ hs))
      (fun sweep hs => hsucceeds sweep (List.mem_cons_of_mem _ hs)) hlater
    rw [show members.length = (view members).length from (List.length_mapIdx).symm] at hswept
    have hnodup : ((view members).map Prod.fst).Nodup := map_fst_view members ▸ List.nodup_range
    obtain ⟨before, i, item, rest, rfl, hbefore, hfirst, hnext⟩ :=
      hswept.turn hnodup (mem_view hget hjoined)
        (fun hpoll => by
          have hfound := hfinds _ List.mem_cons_self (.ok false)
            (List.mem_map.mpr ⟨_, hpoll, rfl⟩)
          exact nomatch hfound)
        (fun e he => by
          subst he
          exact hsucceeds _ List.mem_cons_self ⟨e, rfl⟩)
    rw [map_fst_view] at hfirst hnext
    refine ⟨i :: served, congrArg _ houtcomes, ?_⟩
    rw [queue, hnext] at hturns
    rw [queue, hfirst]
    exact .cons hbefore hturns

end Sweep

/-- A call of a window keeps the member that waits, and the others in place. -/
theorem Step.spared {valid : κ → Prop} {r r' : Roster κ} {request : RosterRequest κ}
    {reply : Outcome RosterReply} {sweeps : List Sweep} (h : Step valid r request reply sweeps r')
    {index : Nat} {member : Member κ} (hget : r.members[index]? = some member)
    (hspares : request.Spares member.id) :
    r'.members[index]? = some member ∧ r'.members.length = r.members.length ∧
      Sweeps r.members r.nextRecvIndex sweeps r'.nextRecvIndex := by
  cases h with
  | added | addFailed | removed | absent => exact hspares.elim
  | @joined before rest other hsplit | @left before rest other hsplit =>
    have hne : index ≠ before.length := by
      rintro rfl
      rw [hsplit, List.getElem?_append_right (Nat.le_refl _), Nat.sub_self,
        List.getElem?_cons_zero] at hget
      exact hspares (congrArg Member.id (Option.some.inj hget))
    refine ⟨?_, ?_, .nil _⟩
    · rw [← hget, hsplit]
      exact Vec.getElem?_replaced _ _ hne
    · rw [hsplit, List.length_append, List.length_append, List.length_cons, List.length_cons]
  | joinFailed | leaveFailed => exact ⟨hget, rfl, .nil _⟩
  | received hsweeps => exact ⟨hget, rfl, hsweeps⟩

/-- The scans of a window serve members in turn, by induction on its calls. -/
theorem Runs.turns {valid : κ → Prop} {r r' : Roster κ} {calls : List (RosterCall κ)}
    (h : Runs valid r calls r') {index : Nat} {member : Member κ}
    (hget : r.members[index]? = some member) (hjoined : member.state = .joined)
    (hwaits : Waits member.id index calls) :
    ∃ served, (calls.flatMap RosterCall.sweeps).map Sweep.outcome =
        served.map (fun i => .ok (some i)) ∧
      RoundRobin.Turns index (queue r.members r.nextRecvIndex) served := by
  induction h with
  | nil r => exact ⟨[], rfl, .nil _⟩
  | @cons call calls last hstep _ ih =>
    obtain ⟨hget', hlength, hsweeps⟩ := hstep.spared hget (hwaits.spares call List.mem_cons_self)
    obtain ⟨later, houtcomes, hlater⟩ := ih hget'
      ⟨fun c hc => hwaits.spares c (List.mem_cons_of_mem _ hc),
       fun c hc => hwaits.finds c (List.mem_cons_of_mem _ hc),
       fun c hc => hwaits.succeeds c (List.mem_cons_of_mem _ hc)⟩
    rw [queue, hlength] at hlater
    obtain ⟨served, hfirst, hturns⟩ := hsweeps.turns hget hjoined
      (hwaits.finds call List.mem_cons_self) (hwaits.succeeds call List.mem_cons_self) hlater
    refine ⟨served ++ later, ?_, hturns⟩
    rw [List.flatMap_cons, List.map_append, List.map_append, hfirst, houtcomes]

/-- The scans of a window are fair to the member that waits: it is returned before the
queue has gone round, and between two of its packets everybody else is returned at most
once. -/
theorem Runs.fair {valid : κ → Prop} {r r' : Roster κ} {calls : List (RosterCall κ)}
    (h : Runs valid r calls r') {index : Nat} {member : Member κ}
    (hget : r.members[index]? = some member) (hjoined : member.state = .joined)
    (hwaits : Waits member.id index calls) :
    let sweeps := calls.flatMap RosterCall.sweeps
    (r.members.length ≤ sweeps.length →
      ∃ sweep ∈ sweeps.take r.members.length, sweep.Returns index) ∧
    ∀ early between late, sweeps = early ++ (between ++ late) →
      (∀ sweep ∈ between, ¬ sweep.Returns index) →
      ∀ other, between.countP (fun sweep => sweep.Returns other) ≤ 1 := by
  intro sweeps
  obtain ⟨served, houtcomes, hturns⟩ := h.turns hget hjoined hwaits
  have hqueue : (queue r.members r.nextRecvIndex).length = r.members.length := by
    rw [queue, List.length_rotate, List.length_range]
  have hin : index ∈ queue r.members r.nextRecvIndex :=
    List.mem_rotate.mpr (List.mem_range.mpr (List.getElem?_eq_some_iff.mp hget).1)
  have hlength : sweeps.length = served.length := by
    simpa only [List.length_map] using congrArg List.length houtcomes
  refine ⟨fun hlong => ?_, fun early between late hsplit hnot other => ?_⟩
  · have htake := hturns.mem_take hin (by rw [hqueue, ← hlength]; exact hlong)
    have hprefix := congrArg (List.take r.members.length) houtcomes
    rw [hqueue] at htake
    rw [← List.map_take, ← List.map_take] at hprefix
    have hreturned : Outcome.ok (some index) ∈
        (sweeps.take r.members.length).map Sweep.outcome :=
      hprefix ▸ List.mem_map_of_mem htake
    obtain ⟨sweep, hsweep, heq⟩ := List.mem_map.mp hreturned
    exact ⟨sweep, hsweep, heq⟩
  · rw [show calls.flatMap RosterCall.sweeps = early ++ (between ++ late) from hsplit,
      List.map_append, List.map_append] at houtcomes
    obtain ⟨early', rest, rfl, -, hrest⟩ := List.map_eq_append_iff.mp houtcomes.symm
    obtain ⟨between', late', rfl, hbetween, -⟩ := List.map_eq_append_iff.mp hrest
    have hwaiting : index ∉ between' := fun hmem => by
      have hreturned : Outcome.ok (some index) ∈ between.map Sweep.outcome :=
        hbetween ▸ List.mem_map_of_mem hmem
      obtain ⟨sweep, hsweep, heq⟩ := List.mem_map.mp hreturned
      exact hnot sweep hsweep heq
    have honce : between'.Nodup :=
      hturns.nodup hin (List.nodup_rotate.mpr List.nodup_range) rfl hwaiting
    calc between.countP (fun sweep => sweep.Returns other)
        = (between.map Sweep.outcome).countP (fun outcome => outcome = .ok (some other)) := by
          rw [List.countP_map]
          rfl
      _ = between'.countP (fun i => Outcome.ok (some i) = Outcome.ok (some other)) := by
          rw [← hbetween, List.countP_map]
          rfl
      _ = between'.count other := by
          rw [List.count]
          exact List.countP_congr fun i _ => by simp
      _ ≤ 1 := List.nodup_iff_count_le_one.mp honce other

/-! ## Scans that return nothing -/

/-- A scan of `members`, which returns nothing only after it polled every joined one once
and found nothing. -/
structure Exhausts (members : List (Member κ)) (sweep : Sweep) : Prop where
  joined : sweep.joined = Roster.joined members
  polled : sweep.outcome = .ok none → (sweep.polls.map Prod.fst).Perm sweep.joined
  nothing : sweep.outcome = .ok none → ∀ poll ∈ sweep.polls, poll.2 = .ok false

theorem swept_exhausts {τ : Type}
    {members : List (Member κ)} {outcome : Option (Except McrxError (Option (Nat × τ)))}
    {polls : List (Nat × Except McrxError (Option τ))} {cursor cursor' : Nat}
    (h : RoundRobin.Swept members.length cursor cursor ((view members).rotate cursor) outcome
      polls cursor') :
    Exhausts members (.of (joined members) outcome polls) := by
  have hpassed : scanOutcome outcome = .ok none →
      polls = RoundRobin.passed ((view members).rotate cursor) := by
    intro hnone
    match outcome, hnone with
    | some (.ok none), _ => exact h.polls_eq
  refine ⟨rfl, fun hnone => ?_, fun hnone => ?_⟩
  · show ((polls.map pollOutcome).map Prod.fst).Perm
      (((view members).filter Prod.snd).map Prod.fst)
    rw [hpassed hnone, RoundRobin.passed, List.map_map, List.map_map]
    exact ((List.rotate_perm _ _).filter _).map _
  · show ∀ poll ∈ polls.map pollOutcome, poll.2 = .ok false
    rw [hpassed hnone]
    rintro poll hpoll
    obtain ⟨_, hmem, rfl⟩ := List.mem_map.mp hpoll
    obtain ⟨_, -, rfl⟩ := List.mem_map.mp hmem
    rfl

theorem Sweeps.exhausts {members : List (Member κ)} {cursor cursor' : Nat} {sweeps : List Sweep}
    (h : Sweeps members cursor sweeps cursor') : ∀ sweep ∈ sweeps, Exhausts members sweep := by
  induction h with
  | nil => exact nofun
  | cons hswept _ ih => exact List.forall_mem_cons.mpr ⟨swept_exhausts hswept, ih⟩

theorem Step.exhausts {valid : κ → Prop} {r r' : Roster κ} {request : RosterRequest κ}
    {reply : Outcome RosterReply} {sweeps : List Sweep} (h : Step valid r request reply sweeps r') :
    ∀ sweep ∈ sweeps, Exhausts r.members sweep := by
  cases h with
  | received hsweeps => exact hsweeps.exhausts
  | _ => exact nofun

theorem Runs.exhausts {valid : κ → Prop} {r r' : Roster κ} {calls : List (RosterCall κ)}
    (h : Runs valid r calls r') :
    ∀ call ∈ calls, ∀ sweep ∈ call.sweeps, Exhausts call.before.members sweep := by
  induction h with
  | nil => exact nofun
  | cons hstep _ ih => exact List.forall_mem_cons.mpr ⟨hstep.exhausts, ih⟩

end Roster

end McrxCore
