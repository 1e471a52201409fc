import Mathlib

/-!
# Slices that check their bounds

An index or a range outside a slice, a sum beyond the machine word, and a loop without
end are faults.  Code written with the operations of this module that has no fault
stays inside its slices and ends.
-/

namespace Slice

inductive Fault where
  | outOfRange
  | overflow
  | diverges
  deriving DecidableEq, Repr

variable {α : Type}

/-- `slice[i]`. -/
def index (slice : List α) (i : Nat) : Except Fault α :=
  match slice[i]? with
  | some value => .ok value
  | none => .error .outOfRange

/-- `&slice[start..stop]`. -/
def range (slice : List α) (start stop : Nat) : Except Fault (List α) :=
  if start ≤ stop ∧ stop ≤ slice.length then .ok ((slice.drop start).take (stop - start))
  else .error .outOfRange

/-- `slice.get(start..)`. -/
def getFrom (slice : List α) (start : Nat) : Option (List α) :=
  if start ≤ slice.length then some (slice.drop start) else none

/-- `slice.get(start..stop)`. -/
def getRange (slice : List α) (start stop : Nat) : Option (List α) :=
  if start ≤ stop ∧ stop ≤ slice.length then some ((slice.drop start).take (stop - start))
  else none

/-- `a.checked_add(b)` on 64 bits. -/
def checkedAdd (a b : Nat) : Option Nat := if a + b < 2 ^ 64 then some (a + b) else none

/-- `a + b` on 64 bits. -/
def add (a b : Nat) : Except Fault Nat :=
  match checkedAdd a b with
  | some sum => .ok sum
  | none => .error .overflow

theorem ok_bind {β : Type} (value : α) (f : α → Except Fault β) :
    (Except.ok value >>= f) = f value := rfl

theorem index_eq {slice : List α} {i : Nat} (h : i < slice.length) :
    index slice i = .ok slice[i] := by
  rw [index, List.getElem?_eq_getElem h]

theorem range_eq {slice : List α} {start stop : Nat} (h : start ≤ stop) (hs : stop ≤ slice.length) :
    range slice start stop = .ok ((slice.drop start).take (stop - start)) :=
  if_pos ⟨h, hs⟩

theorem getFrom_eq {slice : List α} {start : Nat} (h : start ≤ slice.length) :
    getFrom slice start = some (slice.drop start) :=
  if_pos h

theorem getRange_eq {slice : List α} {start stop : Nat} (h : start ≤ stop)
    (hs : stop ≤ slice.length) :
    getRange slice start stop = some ((slice.drop start).take (stop - start)) :=
  if_pos ⟨h, hs⟩

theorem getRange_append {slice before middle after : List α} {start stop : Nat}
    (h : slice = before ++ (middle ++ after)) (hstart : start = before.length)
    (hstop : stop = start + middle.length) : getRange slice start stop = some middle := by
  subst h hstart hstop
  rw [getRange_eq (Nat.le_add_right _ _) (by simp only [List.length_append]; omega),
    List.drop_left, Nat.add_sub_cancel_left, List.take_left]

theorem checkedAdd_eq {a b : Nat} (h : a + b < 2 ^ 64) : checkedAdd a b = some (a + b) :=
  if_pos h

theorem add_eq {a b : Nat} (h : a + b < 2 ^ 64) : add a b = .ok (a + b) := by
  rw [add, checkedAdd_eq h]

/-! ## Loops -/

/-- How one turn of a `while` loop ends. -/
inductive Turn (State Result : Type) where
  | next (state : State)
  | leave (result : Result)

variable {State Result : Type}

def loop (body : State → Except Fault (Turn State Result)) : Nat → State → Except Fault Result
  | 0, _ => .error .diverges
  | turns + 1, state =>
    match body state with
    | .error fault => .error fault
    | .ok (.leave result) => .ok result
    | .ok (.next state) => loop body turns state

/-- A loop whose turns leave with a result that `Q` allows, or pass on what `Q` allows, ends
with such a result.  The measure `m` falls as long as the loop goes on. -/
theorem loop_spec {body : State → Except Fault (Turn State Result)} {P : State → Prop}
    {m : State → Nat} {Q : State → Result → Prop}
    (hbody : ∀ state, P state → (∃ result, body state = .ok (.leave result) ∧ Q state result) ∨
      ∃ state', body state = .ok (.next state') ∧ P state' ∧ m state' < m state ∧
        ∀ result, Q state' result → Q state result)
    {turns : Nat} {state : State} (hstate : P state) (hturns : m state < turns) :
    ∃ result, loop body turns state = .ok result ∧ Q state result := by
  induction turns generalizing state with
  | zero => exact absurd hturns (Nat.not_lt_zero _)
  | succ turns ih =>
    rw [loop]
    rcases hbody state hstate with ⟨result, hleave, hresult⟩ |
      ⟨state', hnext, hstate', hless, hpass⟩
    · rw [hleave]
      exact ⟨result, rfl, hresult⟩
    · rw [hnext]
      obtain ⟨result, hrun, hresult⟩ := ih hstate' (by omega)
      exact ⟨result, hrun, hpass result hresult⟩

/-- A loop computes `f` if each turn leaves with it or keeps it. -/
theorem loop_eq {body : State → Except Fault (Turn State Result)} {P : State → Prop}
    {m : State → Nat} {f : State → Result}
    (hbody : ∀ state, P state → body state = .ok (.leave (f state)) ∨
      ∃ state', body state = .ok (.next state') ∧ P state' ∧ m state' < m state ∧
        f state' = f state)
    {turns : Nat} {state : State} (hstate : P state) (hturns : m state < turns) :
    loop body turns state = .ok (f state) := by
  obtain ⟨result, hrun, hresult⟩ := loop_spec (P := P) (m := m)
    (Q := fun state result => result = f state) (fun state hstate => by
      rcases hbody state hstate with hleave | ⟨state', hnext, hstate', hless, hsame⟩
      · exact .inl ⟨_, hleave, rfl⟩
      · exact .inr ⟨state', hnext, hstate', hless, fun result h => h.trans hsame⟩) hstate hturns
  rw [hrun, hresult]

end Slice
