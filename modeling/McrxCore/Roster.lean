import McrxCore.Lib.Journal
import McrxCore.Lib.RoundRobin
import McrxCore.Packet

/-!
# Rosters

What `Context` and `RawContext` are for, without sockets, packets and metrics: members
with an identifier, a configuration of type `κ` and a lifecycle state, and the cursor of
the receive scan.  `Roster.Step` says what a call may do; both contexts refine it.
-/

namespace McrxCore

/-- What one receive scan did, which the code does not keep: the indices of the joined
members, the polls with whether they gave a packet, and whose packet it returned. -/
structure Sweep where
  joined : List Nat
  polls : List (Nat × Except McrxError Bool)
  outcome : Outcome (Option Nat)
  deriving Repr

section Scan

variable {τ : Type}

def scanResult (outcome : Option (Except McrxError (Option (Nat × τ)))) : Outcome (Option τ) :=
  match outcome with
  | none => .panic
  | some (.error e) => .err e
  | some (.ok found) => .ok (found.map Prod.snd)

def scanOutcome (outcome : Option (Except McrxError (Option (Nat × τ)))) : Outcome (Option Nat) :=
  match outcome with
  | none => .panic
  | some (.error e) => .err e
  | some (.ok found) => .ok (found.map Prod.fst)

def pollOutcome (poll : Nat × Except McrxError (Option τ)) : Nat × Except McrxError Bool :=
  (poll.1, poll.2.map Option.isSome)

def Sweep.of (joined : List Nat) (outcome : Option (Except McrxError (Option (Nat × τ))))
    (polls : List (Nat × Except McrxError (Option τ))) : Sweep :=
  { joined := joined, polls := polls.map pollOutcome, outcome := scanOutcome outcome }

end Scan

structure Member (κ : Type) where
  id : SubscriptionId
  config : κ
  state : SubscriptionState
  deriving DecidableEq, Repr

structure Roster (κ : Type) where
  members : List (Member κ)
  nextSubscriptionId : Nat
  nextRecvIndex : Nat
  deriving DecidableEq, Repr

inductive RosterRequest (κ : Type) where
  | add (config : κ)
  | remove (id : SubscriptionId)
  | join (id : SubscriptionId)
  | leave (id : SubscriptionId)
  | receive
  deriving DecidableEq, Repr

inductive RosterReply where
  | added (id : SubscriptionId)
  | removed (existed : Bool)
  | joined
  | left
  | received
  deriving DecidableEq, Repr

structure RosterCall (κ : Type) where
  before : Roster κ
  request : RosterRequest κ
  reply : Outcome RosterReply
  sweeps : List Sweep
  after : Roster κ

variable {κ : Type}

def Member.isJoined (member : Member κ) : Bool := member.state == .joined

namespace Roster

def empty : Roster κ := { members := [], nextSubscriptionId := 1, nextRecvIndex := 0 }

def view (members : List (Member κ)) : List (Nat × Bool) :=
  RoundRobin.indexed Member.isJoined members

def joined (members : List (Member κ)) : List Nat :=
  RoundRobin.readyIndices Member.isJoined members

inductive Sweeps (members : List (Member κ)) : Nat → List Sweep → Nat → Prop
  | nil (cursor : Nat) : Sweeps members cursor [] cursor
  | cons {τ : Type} {outcome : Option (Except McrxError (Option (Nat × τ)))}
    {polls : List (Nat × Except McrxError (Option τ))} {cursor cursor' last : Nat}
    {sweeps : List Sweep}
    (hswept : RoundRobin.Swept members.length cursor cursor ((view members).rotate cursor)
      outcome polls cursor')
    (h : Sweeps members cursor' sweeps last) :
    Sweeps members cursor (.of (joined members) outcome polls :: sweeps) last

/-- What a call may do to a roster.  A call that fails leaves it as it was, but for the
cursor of a receive call. -/
inductive Step (valid : κ → Prop) :
    Roster κ → RosterRequest κ → Outcome RosterReply → List Sweep → Roster κ → Prop
  | added {r : Roster κ} {config : κ} (hvalid : valid config)
    (hfresh : ∀ member ∈ r.members, member.config ≠ config) :
    Step valid r (.add config) (.ok (.added ⟨r.nextSubscriptionId⟩)) []
      { r with
        members := r.members ++ [⟨⟨r.nextSubscriptionId⟩, config, .bound⟩]
        nextSubscriptionId := (r.nextSubscriptionId + 1) % 2 ^ 64 }
  | addFailed {r : Roster κ} {config : κ} {e : McrxError} : Step valid r (.add config) (.err e) [] r
  | removed {r : Roster κ} {member : Member κ} {rest : List (Member κ)}
    (hperm : r.members.Perm (member :: rest)) :
    Step valid r (.remove member.id) (.ok (.removed true)) []
      { r with
        members := rest
        nextRecvIndex := if rest.isEmpty then 0 else r.nextRecvIndex % rest.length }
  | absent {r : Roster κ} {id : SubscriptionId} (habsent : ∀ member ∈ r.members, member.id ≠ id) :
    Step valid r (.remove id) (.ok (.removed false)) [] r
  | joined {r : Roster κ} {before rest : List (Member κ)} {member : Member κ}
    (hsplit : r.members = before ++ member :: rest) :
    Step valid r (.join member.id) (.ok .joined) []
      { r with members := before ++ { member with state := .joined } :: rest }
  | joinFailed {r : Roster κ} {id : SubscriptionId} {e : McrxError} :
    Step valid r (.join id) (.err e) [] r
  | left {r : Roster κ} {before rest : List (Member κ)} {member : Member κ}
    (hsplit : r.members = before ++ member :: rest) :
    Step valid r (.leave member.id) (.ok .left) []
      { r with members := before ++ { member with state := .bound } :: rest }
  | leaveFailed {r : Roster κ} {id : SubscriptionId} {e : McrxError} :
    Step valid r (.leave id) (.err e) [] r
  | received {r : Roster κ} {sweeps : List Sweep} {cursor : Nat} {reply : Outcome RosterReply}
    (hsweeps : Sweeps r.members r.nextRecvIndex sweeps cursor)
    (hreply : reply = .ok .received ∨ ∃ e, reply = .err e) :
    Step valid r .receive reply sweeps { r with nextRecvIndex := cursor }

inductive Runs (valid : κ → Prop) : Roster κ → List (RosterCall κ) → Roster κ → Prop
  | nil (r : Roster κ) : Runs valid r [] r
  | cons {call : RosterCall κ} {calls : List (RosterCall κ)} {last : Roster κ}
    (hstep : Step valid call.before call.request call.reply call.sweeps call.after)
    (h : Runs valid call.after calls last) : Runs valid call.before (call :: calls) last

/-- The cursor is that of a member, so the next scan does not index out of range. -/
def InRange (r : Roster κ) : Prop :=
  r.nextRecvIndex < r.members.length ∨ r.members = [] ∧ r.nextRecvIndex = 0

theorem inRange_empty : (empty : Roster κ).InRange := .inr ⟨rfl, rfl⟩

/-- The cursor stays with the members in each scan. -/
theorem Sweeps.cursor_lt {members : List (Member κ)} {cursor cursor' : Nat} {sweeps : List Sweep}
    (h : Sweeps members cursor sweeps cursor') (hcursor : cursor < members.length) :
    cursor' < members.length := by
  induction h with
  | nil => exact hcursor
  | cons hswept _ ih => exact ih (hswept.cursor_lt hcursor)

theorem Swept.cursor_eq {τ : Type} {outcome : Option (Except McrxError (Option (Nat × τ)))}
    {polls : List (Nat × Except McrxError (Option τ))} {cursor cursor' : Nat}
    (h : RoundRobin.Swept 0 cursor cursor [] outcome polls cursor') : cursor' = cursor := by
  generalize hvisited : ([] : List (Nat × Bool)) = visited at h
  cases h with
  | nothing => rfl
  | served before => exact absurd hvisited.symm (List.append_ne_nil_of_right_ne_nil before nofun)
  | failed => rfl

theorem Sweeps.cursor_eq {cursor cursor' : Nat} {sweeps : List Sweep}
    (h : Sweeps ([] : List (Member κ)) cursor sweeps cursor') : cursor' = cursor := by
  induction h with
  | nil => rfl
  | cons hswept _ ih => exact ih.trans (Swept.cursor_eq hswept)

theorem Sweeps.append {members : List (Member κ)} {cursor middle cursor' : Nat}
    {first second : List Sweep} (h : Sweeps members cursor first middle)
    (hsecond : Sweeps members middle second cursor') :
    Sweeps members cursor (first ++ second) cursor' := by
  induction h with
  | nil => exact hsecond
  | cons hswept _ ih => exact .cons hswept (ih hsecond)

theorem isEmpty_mod_inRange {members : List (Member κ)} {next cursor : Nat} :
    ({ members := members
       nextSubscriptionId := next
       nextRecvIndex := if members.isEmpty then 0 else cursor % members.length } :
      Roster κ).InRange := by
  cases members with
  | nil => exact .inr ⟨rfl, rfl⟩
  | cons member members => exact .inl (Nat.mod_lt _ (Nat.succ_pos _))

/-- Every call keeps the cursor in range. -/
theorem Step.inRange {valid : κ → Prop} {r r' : Roster κ} {request : RosterRequest κ}
    {reply : Outcome RosterReply} {sweeps : List Sweep} (h : Step valid r request reply sweeps r')
    (hrange : r.InRange) : r'.InRange := by
  cases h with
  | added =>
    refine .inl ?_
    show r.nextRecvIndex < (r.members ++ [_]).length
    rw [List.length_append, List.length_singleton]
    rcases hrange with h | ⟨hnil, hzero⟩ <;> omega
  | removed => exact isEmpty_mod_inRange
  | joined hsplit | left hsplit =>
    rw [InRange, hsplit] at hrange
    refine .inl ?_
    show r.nextRecvIndex < (_ ++ _ :: _).length
    rw [List.length_append, List.length_cons]
    rcases hrange with h | ⟨hnil, -⟩
    · rwa [List.length_append, List.length_cons] at h
    · exact absurd hnil (List.append_ne_nil_of_right_ne_nil _ nofun)
  | received hsweeps =>
    rcases hrange with h | ⟨hnil, hzero⟩
    · exact .inl (hsweeps.cursor_lt h)
    · rw [hnil] at hsweeps
      exact .inr ⟨hnil, hsweeps.cursor_eq.trans hzero⟩
  | addFailed | absent | joinFailed | leaveFailed => exact hrange

/-- Only receive calls scan. -/
theorem Step.sweeps_eq_nil {valid : κ → Prop} {r r' : Roster κ} {request : RosterRequest κ}
    {reply : Outcome RosterReply} {sweeps : List Sweep} (h : Step valid r request reply sweeps r')
    (hrequest : request ≠ .receive) : sweeps = [] := by
  cases h with
  | received => exact absurd rfl hrequest
  | _ => rfl

/-- Receive scans move the cursor only. -/
structure Receives (r : Roster κ) (sweeps : List Sweep) (r' : Roster κ) : Prop where
  kept : r' = { r with nextRecvIndex := r'.nextRecvIndex }
  cursor : Sweeps r.members r.nextRecvIndex sweeps r'.nextRecvIndex

theorem Receives.refl (r : Roster κ) : Receives r [] r := ⟨rfl, .nil _⟩

theorem Receives.trans {r r₁ r₂ : Roster κ} {first second : List Sweep}
    (h : Receives r first r₁) (hsecond : Receives r₁ second r₂) :
    Receives r (first ++ second) r₂ := by
  refine ⟨?_, ?_⟩
  · rw [hsecond.kept, h.kept]
  · have hcursor := hsecond.cursor
    rw [h.kept] at hcursor
    exact h.cursor.append hcursor

theorem Receives.step {valid : κ → Prop} {r r' : Roster κ} {sweeps : List Sweep}
    (h : Receives r sweeps r') {α : Type} {outcome : Outcome α} (hpanic : outcome ≠ .panic) :
    Step valid r .receive (outcome.map fun _ => .received) sweeps r' := by
  rw [h.kept]
  match outcome with
  | .ok _ => exact .received h.cursor (.inl rfl)
  | .err e => exact .received h.cursor (.inr ⟨e, rfl⟩)

theorem Receives.inRange {r r' : Roster κ} {sweeps : List Sweep} (h : Receives r sweeps r')
    (hrange : r.InRange) : r'.InRange := by
  have hstep : Step (fun _ => True) r .receive (.ok .received) sweeps r' :=
    @step _ (fun _ => True) _ _ _ h _ (.ok ()) nofun
  exact hstep.inRange hrange

end Roster

def RosterCall.of {σ α ρ : Type} (roster : σ → Roster κ) (request : α → RosterRequest κ)
    (reply : ρ → Outcome RosterReply) (sweeps : σ → List Sweep) (call : Journal.Call σ α ρ) :
    RosterCall κ :=
  { before := roster call.before
    request := request call.action
    reply := reply call.response
    sweeps := sweeps call.after
    after := roster call.after }

/-- The calls of a machine that steps as rosters do are a run of its rosters. -/
theorem Roster.runs_calls {σ α ρ : Type} {step : α → σ → ρ × σ} (roster : σ → Roster κ)
    (request : α → RosterRequest κ) (reply : ρ → Outcome RosterReply) (sweeps : σ → List Sweep)
    {valid : κ → Prop}
    (hstep : ∀ a s, (roster s).InRange → Roster.Step valid (roster s) (request a)
      (reply (step a s).1) (sweeps (step a s).2) (roster (step a s).2))
    (actions : List α) {s : σ} (hrange : (roster s).InRange) :
    Roster.Runs valid (roster s)
        ((Journal.calls step actions s).map (RosterCall.of roster request reply sweeps))
        (roster (Journal.final step actions s)) ∧
      (roster (Journal.final step actions s)).InRange := by
  induction actions generalizing s with
  | nil => exact ⟨.nil _, hrange⟩
  | cons a actions ih =>
    have hfirst := hstep a s hrange
    obtain ⟨hruns, hlast⟩ := ih (hfirst.inRange hrange)
    exact ⟨@Runs.cons _ _ (.of roster request reply sweeps (Journal.call step a s)) _ _
      hfirst hruns,
      hlast⟩

/-- A scan of the entries that stand for the members is a scan of the roster. -/
theorem scan_sweeps {ι ω τ : Type} {ready : ι → Bool}
    {poll : ι → ω → Except McrxError (Option τ) × ι × ω} {member : ι → Member κ}
    (hready : ∀ entry, ready entry = (member entry).isJoined)
    (hpoll : ∀ entry w, member (poll entry w).2.1 = member entry) {entries : List ι} {cursor : Nat}
    (hcursor : cursor < entries.length ∨ entries = []) (w : ω) :
    let scan := RoundRobin.scan ready poll entries cursor w
    scan.entries.map member = entries.map member ∧ scan.outcome ≠ none ∧
      Roster.Sweeps (entries.map member) cursor
        [.of (RoundRobin.readyIndices ready entries) scan.outcome scan.polls] scan.cursor := by
  have hkept : ∀ entry w, ready (poll entry w).2.1 = ready entry := fun entry w =>
    (hready _).trans ((congrArg Member.isJoined (hpoll entry w)).trans (hready entry).symm)
  have hswept := RoundRobin.scan_swept hkept hcursor w
  refine ⟨?_, hswept.outcome_ne_none, ?_⟩
  · refine RoundRobin.scanFrom_invariant (P := fun left _ => left.map member = entries.map member)
      (fun left w index entry hleft hget _ => ?_) rfl
    rw [RoundRobin.map_set_eq member hget (hpoll entry w), hleft]
  · have hview : RoundRobin.indexed ready entries = Roster.view (entries.map member) := by
      rw [Roster.view, RoundRobin.indexed_map, funext hready]
    have hjoined : RoundRobin.readyIndices ready entries = Roster.joined (entries.map member) := by
      rw [Roster.joined, RoundRobin.readyIndices, RoundRobin.readyIndices, hview]
      rfl
    rw [hview, ← List.length_map member] at hswept
    rw [hjoined]
    exact .cons hswept (.nil _)

end McrxCore
