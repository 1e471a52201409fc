import Mathlib

/-!
# Loops that read

A turn of the loop ends it, goes on without a read, or reads and then does one of these.
The results of the reads are a sequence that knows nothing of the loop, and a loop that
ends is charged for its reads.
-/

namespace ReadLoop

variable {σ ρ β : Type*}

inductive Turn (σ β : Type*) where
  | next (state : σ)
  | leave (result : β)

inductive Move (σ ρ β : Type*) where
  | silent (turn : Turn σ β)
  | read (turn : ρ → Turn σ β)

variable (body : σ → Move σ ρ β) (reads : ℕ → ρ)

/-- The loop with so many turns left, after `made` reads.  It returns the result with the
number of all reads made. -/
def run : ℕ → ℕ → σ → Option (β × ℕ)
  | 0, _, _ => none
  | turns + 1, made, state =>
    match body state with
    | .silent (.leave result) => some (result, made)
    | .silent (.next state) => run turns made state
    | .read turn =>
      match turn (reads made) with
      | .leave result => some (result, made + 1)
      | .next state => run turns (made + 1) state

/-- The loop ends, with at most `limit` reads in all. -/
def EndsWithin (limit made : ℕ) (state : σ) : Prop :=
  ∃ turns result total, run body reads turns made state = some (result, total) ∧ total ≤ limit

variable {body reads} {limit made : ℕ} {state : σ}

theorem run_silent_next {state' : σ} (h : body state = .silent (.next state')) (turns : ℕ) :
    run body reads (turns + 1) made state = run body reads turns made state' := by
  rw [run, h]

theorem run_read_next {turn : ρ → Turn σ β} {state' : σ} (h : body state = .read turn)
    (hturn : turn (reads made) = .next state') (turns : ℕ) :
    run body reads (turns + 1) made state = run body reads turns (made + 1) state' := by
  rw [run, h]
  simp only [hturn]

theorem run_silent_leave {result : β} (h : body state = .silent (.leave result)) (turns : ℕ) :
    run body reads (turns + 1) made state = some (result, made) := by
  rw [run, h]

theorem run_read_leave {turn : ρ → Turn σ β} {result : β} (h : body state = .read turn)
    (hturn : turn (reads made) = .leave result) (turns : ℕ) :
    run body reads (turns + 1) made state = some (result, made + 1) := by
  rw [run, h]
  simp only [hturn]

/-- Where one turn is a step to another state, the two states end alike. -/
theorem endsWithin_congr {made' : ℕ} {state' : σ}
    (h : ∀ turns, run body reads (turns + 1) made state = run body reads turns made' state') :
    EndsWithin body reads limit made state ↔ EndsWithin body reads limit made' state' := by
  constructor
  · rintro ⟨turns, result, total, hrun, htotal⟩
    cases turns with
    | zero => cases hrun
    | succ turns => exact ⟨turns, result, total, (h turns).symm.trans hrun, htotal⟩
  · rintro ⟨turns, result, total, hrun, htotal⟩
    exact ⟨turns + 1, result, total, (h turns).trans hrun, htotal⟩

theorem endsWithin_of_leave {result : β} {total : ℕ}
    (h : ∀ turns, run body reads (turns + 1) made state = some (result, total)) :
    EndsWithin body reads limit made state ↔ total ≤ limit := by
  constructor
  · rintro ⟨turns, result', total', hrun, htotal⟩
    cases turns with
    | zero => cases hrun
    | succ turns =>
      rw [h turns] at hrun
      cases hrun
      exact htotal
  · exact fun hle => ⟨1, result, total, h 0, hle⟩

/-- No loop makes fewer reads than it has made. -/
theorem made_le_of_run {turns total : ℕ} {result : β}
    (h : run body reads turns made state = some (result, total)) : made ≤ total := by
  induction turns generalizing made state with
  | zero => cases h
  | succ turns ih =>
    cases hbody : body state with
    | silent turn =>
      cases turn with
      | next state' =>
        rw [run_silent_next hbody] at h
        exact ih h
      | leave result =>
        rw [run_silent_leave hbody] at h
        cases h
        exact Nat.le_refl _
    | read turn =>
      cases hturn : turn (reads made) with
      | next state' =>
        rw [run_read_next hbody hturn] at h
        exact (Nat.le_succ _).trans (ih h)
      | leave result =>
        rw [run_read_leave hbody hturn] at h
        cases h
        exact Nat.le_succ _

/-- A loop that is about to read ends with a read more. -/
theorem not_endsWithin_of_read {turn : ρ → Turn σ β} (h : body state = .read turn)
    (hmade : limit ≤ made) : ¬ EndsWithin body reads limit made state := by
  rintro ⟨turns, result, total, hrun, htotal⟩
  cases turns with
  | zero => cases hrun
  | succ turns =>
    cases hturn : turn (reads made) with
    | next state' =>
      rw [run_read_next h hturn] at hrun
      have hle := made_le_of_run hrun
      omega
    | leave result =>
      rw [run_read_leave h hturn] at hrun
      cases hrun
      omega

/-- A loop that counts every read it goes on after, and leaves when the count is full, ends
within its limit. -/
theorem endsWithin_of_counted {body : ℕ → Move ℕ ρ β}
    (hbody : ∀ count, ∃ turn, body count = .read turn ∧ ∀ answer,
      (∃ result, turn answer = .leave result) ∨
        count + 1 < limit ∧ turn answer = .next (count + 1))
    {count : ℕ} (hmade : made ≤ count) (hcount : count < limit) :
    EndsWithin body reads limit made count := by
  obtain ⟨rest, hrest⟩ : ∃ rest, limit = count + 1 + rest := ⟨limit - (count + 1), by omega⟩
  induction rest generalizing made count with
  | zero =>
    obtain ⟨turn, hread, hturn⟩ := hbody count
    rcases hturn (reads made) with ⟨result, hleave⟩ | ⟨hless, -⟩
    · exact (endsWithin_of_leave (run_read_leave hread hleave)).mpr (by omega)
    · omega
  | succ rest ih =>
    obtain ⟨turn, hread, hturn⟩ := hbody count
    rcases hturn (reads made) with ⟨result, hleave⟩ | ⟨hless, hnext⟩
    · exact (endsWithin_of_leave (run_read_leave hread hleave)).mpr (by omega)
    · exact (endsWithin_congr (run_read_next hread hnext)).mpr
        (ih (by omega) hless (by omega))

end ReadLoop
