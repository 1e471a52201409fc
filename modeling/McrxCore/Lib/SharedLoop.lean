import McrxCore.Lib.Transition

/-!
# A loop that callers share

Any number of callers run one loop over a state that they share, a turn of one of them at a
time.  A caller keeps a state of its own from its call to its result.  What the reads bring in
is accounted for: it is in the results, or in stock in the shared state.
-/

namespace SharedLoop

variable {σ κ ρ β π : Type*}

inductive Effect (σ κ β : Type*) where
  | next (shared : σ) (own : κ)
  | leave (shared : σ) (result : β)

/-- A turn that makes no read, or one. -/
inductive Turn (σ κ ρ β : Type*) where
  | silent (effect : Effect σ κ β)
  | read (effect : ρ → Effect σ κ β)

structure Loop (σ κ ρ β : Type*) where
  enter : κ
  turn : σ → κ → Turn σ κ ρ β

/-- The shared state, the callers that run, the reads, each with the state of its caller, and
the results, each with its caller. -/
structure Calls (σ κ ρ β : Type*) where
  shared : σ
  running : Nat → Option κ
  reads : List (κ × ρ)
  results : List (Nat × β)

inductive Action (ρ : Type*) where
  | enter (caller : Nat)
  | turn (caller : Nat) (answer : ρ)
  deriving DecidableEq, Repr

namespace Calls

def start (shared : σ) : Calls σ κ ρ β where
  shared := shared
  running := fun _ => none
  reads := []
  results := []

def take (s : Calls σ κ ρ β) (caller : Nat) : Effect σ κ β → Calls σ κ ρ β
  | .next shared own =>
    { s with shared := shared, running := Function.update s.running caller (some own) }
  | .leave shared result =>
    { s with
      shared := shared
      running := Function.update s.running caller none
      results := s.results ++ [(caller, result)] }

def read (s : Calls σ κ ρ β) (own : κ) (answer : ρ) : Calls σ κ ρ β :=
  { s with reads := s.reads ++ [(own, answer)] }

end Calls

section Turns

variable (loop : Loop σ κ ρ β)

def enter (caller : Nat) (s : Calls σ κ ρ β) : Option (Calls σ κ ρ β) :=
  match s.running caller with
  | some _ => none
  | none => some { s with running := Function.update s.running caller (some loop.enter) }

def turn (caller : Nat) (answer : ρ) (s : Calls σ κ ρ β) : Option (Calls σ κ ρ β) :=
  match s.running caller with
  | none => none
  | some own =>
    match loop.turn s.shared own with
    | .silent effect => some (s.take caller effect)
    | .read effect => some ((s.read own answer).take caller (effect answer))

def step : Action ρ → Calls σ κ ρ β → Option (Calls σ κ ρ β)
  | .enter caller, s => enter loop caller s
  | .turn caller answer, s => turn loop caller answer s

end Turns

/-- What a read brings in, what a result carries out, and what a shared state has in stock. -/
structure Account (σ κ ρ β π : Type*) where
  income : κ → ρ → List π
  outgo : β → List π
  stock : σ → List π

namespace Account

variable (account : Account σ κ ρ β π)

def received (reads : List (κ × ρ)) : List π :=
  reads.flatMap fun read => account.income read.1 read.2

def returned (results : List (Nat × β)) : List π :=
  results.flatMap fun result => account.outgo result.2

/-- An effect keeps the invariant of the shared state, and what was in stock or came in is
carried out or stays in stock, in order. -/
def Settled (P : σ → Prop) (sound : β → Prop) (shared : σ) (income : List π) :
    Effect σ κ β → Prop
  | .next shared' _ => P shared' ∧ account.stock shared ++ income = account.stock shared'
  | .leave shared' result =>
    P shared' ∧ sound result ∧
      account.stock shared ++ income = account.outgo result ++ account.stock shared'

structure Balances (loop : Loop σ κ ρ β) (P : σ → Prop) (fits : ρ → Prop) (sound : β → Prop) :
    Prop where
  silent : ∀ shared own effect, P shared → loop.turn shared own = .silent effect →
    account.Settled P sound shared [] effect
  read : ∀ shared own effect answer, P shared → loop.turn shared own = .read effect →
    fits answer → account.Settled P sound shared (account.income own answer) (effect answer)

def Fits (fits : ρ → Prop) : Action ρ → Prop
  | .enter _ => True
  | .turn _ answer => fits answer

/-- The books of calls that started with a stock. -/
structure Balanced (P : σ → Prop) (fits : ρ → Prop) (sound : β → Prop) (start : List π)
    (s : Calls σ κ ρ β) : Prop where
  shared : P s.shared
  fits : ∀ read ∈ s.reads, fits read.2
  sound : ∀ result ∈ s.results, sound result.2
  balance : start ++ account.received s.reads = account.returned s.results ++ account.stock s.shared

variable {account} {loop : Loop σ κ ρ β} {P : σ → Prop} {fits : ρ → Prop} {sound : β → Prop}
  {start : List π} {s s' : Calls σ κ ρ β}

theorem received_read (s : Calls σ κ ρ β) (own : κ) (answer : ρ) :
    account.received (s.read own answer).reads =
      account.received s.reads ++ account.income own answer := by
  show account.received (s.reads ++ [(own, answer)]) = _
  rw [received, List.flatMap_append, List.flatMap_singleton]
  rfl

theorem returned_append (results : List (Nat × β)) (caller : Nat) (result : β) :
    account.returned (results ++ [(caller, result)]) =
      account.returned results ++ account.outgo result := by
  rw [returned, List.flatMap_append, List.flatMap_singleton]
  rfl

/-- An effect that settles keeps the books; the income is that of the read just made. -/
theorem Balanced.take {income : List π} (hfits : ∀ read ∈ s.reads, fits read.2)
    (hsound : ∀ result ∈ s.results, sound result.2)
    (hbalance : start ++ account.received s.reads =
      account.returned s.results ++ account.stock s.shared ++ income)
    (caller : Nat) {effect : Effect σ κ β}
    (hsettled : account.Settled P sound s.shared income effect) :
    account.Balanced P fits sound start (s.take caller effect) := by
  cases effect with
  | next shared own =>
    refine ⟨hsettled.1, hfits, hsound, ?_⟩
    show start ++ account.received s.reads = account.returned s.results ++ account.stock shared
    rw [hbalance, List.append_assoc, hsettled.2]
  | leave shared result =>
    refine ⟨hsettled.1, hfits, ?_, ?_⟩
    · intro entry hentry
      rcases List.mem_append.mp hentry with hold | hnew
      · exact hsound entry hold
      · rw [List.mem_singleton.mp hnew]
        exact hsettled.2.1
    · show start ++ account.received s.reads =
        account.returned (s.results ++ [(caller, result)]) ++ account.stock shared
      rw [hbalance, returned_append, List.append_assoc, hsettled.2.2, List.append_assoc]

theorem Balanced.step (hbalances : account.Balances loop P fits sound)
    (h : account.Balanced P fits sound start s) {action : Action ρ} (hfits : Fits fits action)
    (hstep : SharedLoop.step loop action s = some s') :
    account.Balanced P fits sound start s' := by
  cases action with
  | enter caller =>
    have henter : SharedLoop.enter loop caller s = some s' := hstep
    unfold SharedLoop.enter at henter
    split at henter
    · cases henter
    · exact Option.some.inj henter ▸ ⟨h.shared, h.fits, h.sound, h.balance⟩
  | turn caller answer =>
    have hturn : SharedLoop.turn loop caller answer s = some s' := hstep
    unfold SharedLoop.turn at hturn
    split at hturn
    · cases hturn
    next own _ =>
      split at hturn
      next effect hsilent =>
        refine Option.some.inj hturn ▸ Balanced.take h.fits h.sound ?_ caller
          (hbalances.silent s.shared own effect h.shared hsilent)
        rw [List.append_nil]
        exact h.balance
      next effect hturn' =>
        have hsettled := hbalances.read s.shared own effect answer h.shared hturn' hfits
        have hread : ∀ read ∈ (s.read own answer).reads, fits read.2 := by
          intro read hmem
          rcases List.mem_append.mp hmem with hold | hnew
          · exact h.fits read hold
          · rw [List.mem_singleton.mp hnew]
            exact hfits
        refine Option.some.inj hturn ▸ Balanced.take (s := s.read own answer) hread h.sound ?_
          caller hsettled
        rw [received_read, ← List.append_assoc, h.balance]
        rfl

/-- Whatever turns the callers take, the books are balanced. -/
theorem balanced_run (hbalances : account.Balances loop P fits sound) {shared : σ}
    (hshared : P shared) {actions : List (Action ρ)} (hfits : ∀ action ∈ actions, Fits fits action)
    (h : Transition.run (SharedLoop.step loop) actions (Calls.start shared) = some s) :
    account.Balanced P fits sound (account.stock shared) s := by
  have hmeets : Transition.Meets (SharedLoop.step loop) (fun _ action => Fits fits action) actions
      (Calls.start shared) :=
    Transition.meets_of_mem (fun action hmem _ => hfits action hmem) _
  have hstart : account.Balanced P fits sound (account.stock shared) (Calls.start shared) := by
    refine ⟨hshared, ?_, ?_, ?_⟩
    · intro read hmem
      cases hmem
    · intro result hmem
      cases hmem
    · show account.stock shared ++ [] = [] ++ account.stock shared
      rw [List.append_nil, List.nil_append]
  exact Transition.invariant_of_meets (fun _ _ _ ha hs hstep => hs.step hbalances ha hstep) hmeets
    hstart h

end Account

end SharedLoop
