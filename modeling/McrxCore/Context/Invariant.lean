import McrxCore.Context.Refinement
import McrxCore.Roster.Invariant

/-!
# The invariant of the contexts

Both contexts are rosters, so the invariant of a roster holds after every run of either.
Its bound on the number of adds is sharp: the last identifier wraps the counter.
-/

namespace McrxCore

/-- Every run of fewer than `2 ^ 64` adds, of either context, keeps the invariant; the
identifiers are below the next one until the counter wraps. -/
theorem contexts_keep_invariant :
    (∀ {W : Type} (os : UdpSystem W) (w : W) (operations : List Context.Operation),
      let calls := (Journal.calls (Context.step os) operations (Context.start w)).map
        Context.Call.roster
      adds calls < 2 ^ 64 → Kept Context.Valid calls
        (Journal.final (Context.step os) operations (Context.start w)).context.roster) ∧
    (∀ {S W : Type} (backend : RawBackend S W) (w : W) (operations : List RawContext.Operation),
      let calls := (Journal.calls (RawContext.step backend) operations (RawContext.start w)).map
        RawContext.Call.roster
      adds calls < 2 ^ 64 → Kept RawContext.Valid calls
        (Journal.final (RawContext.step backend) operations
          (RawContext.start w)).context.roster) := by
  refine ⟨?_, ?_⟩
  · intro W os w operations calls hadds
    exact (@Context.runs_calls W os operations (Context.start w) Roster.inRange_empty).1.kept hadds
  · intro S W backend w operations calls hadds
    exact (@RawContext.runs_calls S W backend operations (RawContext.start w)
      Roster.inRange_empty).1.kept hadds

def quietSockets : UdpSystem Unit :=
  .granting { ip := unspecifiedAddr .ipv4, port := 5000 } .wouldBlock

def quietBackend : RawBackend Unit Unit := .granting none

/-- A subscription that is joined, one that is removed, and one that is not found. -/
def invariantRun : List Context.Operation :=
  [.addSubscription (.asm (.v4 (.new 239 1 2 3)) 5000), .joinSubscription ⟨1⟩,
    .addSubscriptionWithSocket (.asm (.v4 (.new 239 1 2 4)) 5000) 3, .removeSubscription ⟨2⟩,
    .takeSubscription ⟨3⟩, .tryRecvAny]

def invariantRawRun : List RawContext.Operation :=
  [.addSubscription (.asm (.v4 (.new 239 1 2 3))), .joinSubscription ⟨1⟩,
    .addSubscription (.asm (.v4 (.new 239 1 2 3))), .removeSubscription ⟨2⟩, .tryRecvAny]

theorem contexts_keep_invariant_short_runs :
    Kept Context.Valid
      ((Journal.calls (Context.step quietSockets) invariantRun (Context.start ())).map
        Context.Call.roster)
      (Journal.final (Context.step quietSockets) invariantRun (Context.start ())).context.roster ∧
    Kept RawContext.Valid
      ((Journal.calls (RawContext.step quietBackend) invariantRawRun (RawContext.start ())).map
        RawContext.Call.roster)
      (Journal.final (RawContext.step quietBackend) invariantRawRun
        (RawContext.start ())).context.roster :=
  ⟨contexts_keep_invariant.1 _ () invariantRun (by decide),
    contexts_keep_invariant.2 _ () invariantRawRun (by decide)⟩

/-! ## Runs that wrap the counter -/

namespace RawContext

def churnConfig : RawSubscriptionConfig := .asm (.v4 (.new 239 1 2 3))

/-- `n` adds from identifier `id` on, each of them removed. -/
def churn : Nat → Nat → List Operation
  | 0, _ => []
  | n + 1, id => .addSubscription churnConfig :: .removeSubscription ⟨id⟩ :: churn n (id + 1)

/-- A context without subscriptions whose next identifier is `id`. -/
def vacant (id : Nat) : System Unit Unit :=
  { context := { subscriptions := [], nextSubscriptionId := id, nextRecvIndex := 0 }
    world := ()
    sweeps := [] }

/-- The only subscription of a context takes the identifier, and the counter wraps. -/
def occupied (id : Nat) : System Unit Unit :=
  { context :=
      { subscriptions := [.new ⟨id⟩ churnConfig ()]
        nextSubscriptionId := (id + 1) % 2 ^ 64
        nextRecvIndex := 0 }
    world := ()
    sweeps := [] }

theorem step_add_vacant (id : Nat) :
    (step quietBackend (.addSubscription churnConfig) (vacant id)).2 = occupied id := by
  have hvalid : churnConfig.validate = .ok () := by decide
  simp only [step, addSubscription, vacant, hvalid]
  rfl

theorem step_remove_occupied {id : Nat} (h : id + 1 < 2 ^ 64) :
    (step quietBackend (.removeSubscription ⟨id⟩) (occupied id)).2 = vacant (id + 1) := by
  have hfind : (occupied id).context.subscriptions.findIdx?
      (fun subscription => subscription.id == ⟨id⟩) = some 0 := by
    exact if_pos (beq_self_eq_true _)
  have hnext : (occupied id).context.nextSubscriptionId = id + 1 := Nat.mod_eq_of_lt h
  simp only [step, removeSubscription, hfind]
  rw [vacant, ← hnext]
  rfl

theorem final_churn {n id : Nat} (h : id + n < 2 ^ 64) :
    Journal.final (step quietBackend) (churn n id) (vacant id) = vacant (id + n) := by
  induction n generalizing id with
  | zero => rfl
  | succ n ih =>
    rw [churn, Journal.final, Journal.final, step_add_vacant, step_remove_occupied (by omega),
      ih (by omega), Nat.add_right_comm, Nat.add_assoc]

theorem adds_churn (n id : Nat) (s : System Unit Unit) :
    adds ((Journal.calls (step quietBackend) (churn n id) s).map Call.roster) = n := by
  induction n generalizing id s with
  | zero => rfl
  | succ n ih =>
    rw [churn, Journal.calls, Journal.calls, List.map_cons, List.map_cons, adds, List.countP_cons,
      List.countP_cons]
    exact congrArg (· + 1) (ih _ _)

/-- The adds of `churn`, and a last one that is not removed. -/
def wrappingRun : List Operation := churn (2 ^ 64 - 2) 1 ++ [.addSubscription churnConfig]

theorem identifier_not_below_next :
    adds ((Journal.calls (step quietBackend) wrappingRun (start ())).map Call.roster) < 2 ^ 64 ∧
    ¬ ∀ member ∈ (Journal.final (step quietBackend) wrappingRun (start ())).context.roster.members,
      member.id.val <
        (Journal.final (step quietBackend) wrappingRun (start ())).context.nextSubscriptionId := by
  have hfinal : Journal.final (step quietBackend) wrappingRun (start ()) =
      occupied (2 ^ 64 - 1) := by
    rw [wrappingRun, Journal.final_append, show start () = vacant 1 from rfl,
      final_churn (by omega)]
    exact step_add_vacant _
  refine ⟨?_, fun hbelow => ?_⟩
  · rw [wrappingRun, Journal.calls_append, List.map_append, adds, List.countP_append]
    have hchurn := adds_churn (2 ^ 64 - 2) 1 (start ())
    rw [adds] at hchurn
    rw [hchurn]
    decide
  · rw [hfinal] at hbelow
    have hlt := hbelow (occupied (2 ^ 64 - 1)).context.roster.members[0] (List.getElem_mem _)
    exact absurd hlt (by decide)

end RawContext

end McrxCore
