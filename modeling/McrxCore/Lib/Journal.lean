import Mathlib

/-!
# Journals

A machine answers every call and is in some state after it.  The journal of a run keeps
each call with the states around it.
-/

namespace Journal

variable {σ α ρ : Type*}

structure Call (σ α ρ : Type*) where
  before : σ
  action : α
  response : ρ
  after : σ

variable (step : α → σ → ρ × σ)

def call (a : α) (s : σ) : Call σ α ρ :=
  { before := s, action := a, response := (step a s).1, after := (step a s).2 }

def calls : List α → σ → List (Call σ α ρ)
  | [], _ => []
  | a :: actions, s => call step a s :: calls actions (step a s).2

def final : List α → σ → σ
  | [], s => s
  | a :: actions, s => final actions (step a s).2

variable {step}

theorem final_append (first second : List α) (s : σ) :
    final step (first ++ second) s = final step second (final step first s) := by
  induction first generalizing s with
  | nil => rfl
  | cons a first ih => exact ih _

theorem calls_append (first second : List α) (s : σ) :
    calls step (first ++ second) s =
      calls step first s ++ calls step second (final step first s) := by
  induction first generalizing s with
  | nil => rfl
  | cons a first ih => exact congrArg _ (ih _)

theorem action_mem {actions : List α} {s : σ} {call : Call σ α ρ}
    (h : call ∈ calls step actions s) : call.action ∈ actions := by
  induction actions generalizing s with
  | nil => exact absurd h List.not_mem_nil
  | cons a actions ih =>
    rcases List.mem_cons.mp h with rfl | h
    · exact List.mem_cons_self
    · exact List.mem_cons_of_mem _ (ih h)

/-- What every call does from a state of an invariant that the steps keep, every call of a
run does. -/
theorem forall_calls {P : Call σ α ρ → Prop} {Q : σ → Prop}
    (hstep : ∀ a s, Q s → P (call step a s) ∧ Q (step a s).2) (actions : List α) {s : σ} (h : Q s) :
    ∀ call ∈ calls step actions s, P call := by
  induction actions generalizing s with
  | nil => exact List.forall_mem_nil P
  | cons a actions ih =>
    obtain ⟨hcall, hnext⟩ := hstep a s h
    exact List.forall_mem_cons.mpr ⟨hcall, ih hnext⟩

/-- What holds of the journal and the state so far, and is kept by every call, holds after
every run. -/
theorem invariant {P : List (Call σ α ρ) → σ → Prop} {allowed : α → Prop}
    (hstep : ∀ past s a, allowed a → P past s → P (past ++ [call step a s]) (step a s).2)
    {actions : List α} (hallowed : ∀ a ∈ actions, allowed a) {past : List (Call σ α ρ)} {s : σ}
    (h : P past s) : P (past ++ calls step actions s) (final step actions s) := by
  induction actions generalizing past s with
  | nil =>
    rw [calls, List.append_nil]
    exact h
  | cons a actions ih =>
    have hnext := hstep past s a (hallowed a List.mem_cons_self) h
    have hrest := ih (fun b hb => hallowed b (List.mem_cons_of_mem _ hb)) hnext
    rwa [List.append_assoc] at hrest

end Journal
