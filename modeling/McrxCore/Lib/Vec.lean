import Mathlib

/-!
# Vectors as lists

`swap_remove` and the update of the first element that passes a test, with the lemmas
that say where the other elements are.
-/

namespace Vec

variable {α β : Type*}

/-- The removed element and what is left; `none` is the panic of an index out of range. -/
def swapRemove (l : List α) (index : Nat) : Option (α × List α) :=
  match l[index]?, l.getLast? with
  | some removed, some last => some (removed, (l.set index last).dropLast)
  | _, _ => none

/-- `iter_mut().find(..)` and an assignment. -/
def replaceFirst (p : α → Bool) (b : α) : List α → List α
  | [] => []
  | a :: l => if p a then b :: l else a :: replaceFirst p b l

theorem swapRemove_append_singleton (l : List α) (a : α) :
    swapRemove (l ++ [a]) l.length = some (a, l) := by
  simp [swapRemove]

theorem swapRemove_append_cons (before between : List α) (a last : α) :
    swapRemove (before ++ a :: (between ++ [last])) before.length =
      some (a, before ++ last :: between) := by
  have hget : (before ++ a :: (between ++ [last]))[before.length]? = some a := by simp
  have hlast : (before ++ a :: (between ++ [last])).getLast? = some last := by
    rw [← List.cons_append, ← List.append_assoc, List.getLast?_concat]
  simp only [swapRemove, hget, hlast]
  rw [List.set_append_right _ _ (Nat.le_refl _), Nat.sub_self, List.set_cons_zero,
    ← List.cons_append, ← List.append_assoc, List.dropLast_concat]

/-- Every element but the removed one stays, once. -/
theorem swapRemove_perm {l : List α} {index : Nat} (h : index < l.length) :
    ∃ removed rest, swapRemove l index = some (removed, rest) ∧ l[index]? = some removed ∧
      l.Perm (removed :: rest) := by
  have hget : l[index]? = some l[index] := List.getElem?_eq_getElem h
  have hsplit : l = l.take index ++ l[index] :: l.drop (index + 1) := by
    rw [← List.drop_eq_getElem_cons h, List.take_append_drop]
  have hlength : (l.take index).length = index := List.length_take_of_le (Nat.le_of_lt h)
  generalize l[index] = removed at hget hsplit
  generalize l.take index = before at hsplit hlength
  rcases List.eq_nil_or_concat (l.drop (index + 1)) with hnil | ⟨between, last, hlast⟩
  · refine ⟨removed, before, ?_, hget, ?_⟩
    · rw [hsplit, hnil, ← hlength, swapRemove_append_singleton]
    · rw [hsplit, hnil]
      exact List.perm_append_comm
  · refine ⟨removed, before ++ last :: between, ?_, hget, ?_⟩
    · rw [hsplit, hlast, List.concat_eq_append, ← hlength, swapRemove_append_cons]
    · rw [hsplit, hlast, List.concat_eq_append]
      calc
        (before ++ removed :: (between ++ [last])).Perm
            (removed :: (before ++ (between ++ [last]))) := List.perm_middle
        _ = removed :: ((before ++ between) ++ [last]) := by rw [List.append_assoc]
        (removed :: ((before ++ between) ++ [last])).Perm
            (removed :: (last :: (before ++ between))) :=
          (List.perm_append_singleton last _).cons removed
        (removed :: (last :: (before ++ between))).Perm
            (removed :: (before ++ last :: between)) := List.perm_middle.symm.cons removed

theorem replaceFirst_append {p : α → Bool} {before rest : List α} {a : α} (b : α)
    (hbefore : ∀ x ∈ before, p x = false) (ha : p a = true) :
    replaceFirst p b (before ++ a :: rest) = before ++ b :: rest := by
  induction before with
  | nil => exact if_pos ha
  | cons x before ih =>
    have hx : ¬ p x = true := Bool.eq_false_iff.mp (hbefore x List.mem_cons_self)
    rw [List.cons_append, replaceFirst, if_neg hx, ih fun y hy =>
      hbefore y (List.mem_cons_of_mem _ hy)]
    rfl

/-- The element that is replaced is the one that a search finds. -/
theorem find?_replaceFirst {p : α → Bool} {l : List α} {a : α} (h : l.find? p = some a) :
    ∃ before rest, l = before ++ a :: rest ∧ p a = true ∧
      ∀ b, replaceFirst p b l = before ++ b :: rest := by
  obtain ⟨ha, before, rest, rfl, hbefore⟩ := List.find?_eq_some_iff_append.mp h
  refine ⟨before, rest, rfl, ha, fun b => replaceFirst_append b (fun x hx => ?_) ha⟩
  simpa using hbefore x hx

theorem mem_of_mem_replaceFirst {p : α → Bool} {b x : α} {l : List α}
    (h : x ∈ replaceFirst p b l) : x = b ∨ x ∈ l := by
  induction l with
  | nil => exact absurd h List.not_mem_nil
  | cons a l ih =>
    rw [replaceFirst] at h
    split at h
    · exact (List.mem_cons.mp h).imp_right (List.mem_cons_of_mem a)
    · rcases List.mem_cons.mp h with rfl | h
      · exact .inr List.mem_cons_self
      · exact (ih h).imp_right (List.mem_cons_of_mem a)

/-- An element that is set keeps its place. -/
theorem getElem?_set {l : List α} {index : Nat} {a : α} (h : l[index]? = some a) :
    ∃ before rest, l = before ++ a :: rest ∧ ∀ b, l.set index b = before ++ b :: rest := by
  obtain ⟨hlt, rfl⟩ := List.getElem?_eq_some_iff.mp h
  refine ⟨l.take index, l.drop (index + 1), ?_, fun b => ?_⟩
  · rw [← List.drop_eq_getElem_cons hlt, List.take_append_drop]
  · rw [List.set_eq_take_append_cons_drop, if_pos hlt]

/-- Elements before and behind a replaced one stay. -/
theorem getElem?_replaced {before rest : List α} {index : Nat} (a b : α)
    (hne : index ≠ before.length) :
    (before ++ b :: rest)[index]? = (before ++ a :: rest)[index]? := by
  by_cases hlt : index < before.length
  · rw [List.getElem?_append_left hlt, List.getElem?_append_left hlt]
  · have hle : before.length ≤ index := Nat.le_of_not_lt hlt
    obtain ⟨k, hk⟩ : ∃ k, index - before.length = k + 1 := ⟨index - before.length - 1, by omega⟩
    rw [List.getElem?_append_right hle, List.getElem?_append_right hle, hk,
      List.getElem?_cons_succ, List.getElem?_cons_succ]

end Vec
