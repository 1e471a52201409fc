import Mathlib

/-!
# Terminated lines

A list cut behind each occurrence of a terminator: the lines that it ends, and the tail
that it does not.
-/

namespace Lines

variable {α : Type*} [DecidableEq α]

/-- The terminated lines, and the tail. -/
def cut (sep : α) : List α → List (List α) × List α
  | [] => ([], [])
  | a :: l =>
    match cut sep l with
    | ([], tail) => if a = sep then ([[]], tail) else ([], a :: tail)
    | (line :: lines, tail) =>
      if a = sep then ([] :: line :: lines, tail) else ((a :: line) :: lines, tail)

variable {sep : α}

theorem cut_cons_sep (l : List α) : cut sep (sep :: l) = ([] :: (cut sep l).1, (cut sep l).2) := by
  rw [cut]
  match cut sep l with
  | ([], _) => exact if_pos rfl
  | (_ :: _, _) => exact if_pos rfl

/-- A symbol that is no terminator goes to the first line, or to the tail where there is
none. -/
theorem cut_cons_of_ne {a : α} (h : a ≠ sep) {l : List α} {line : List α} {lines : List (List α)}
    {tail : List α} (hcut : cut sep l = (line :: lines, tail)) :
    cut sep (a :: l) = ((a :: line) :: lines, tail) := by
  rw [cut, hcut]
  exact if_neg h

theorem cut_cons_of_ne_nil {a : α} (h : a ≠ sep) {l tail : List α} (hcut : cut sep l = ([], tail)) :
    cut sep (a :: l) = ([], a :: tail) := by
  rw [cut, hcut]
  exact if_neg h

theorem cut_of_notMem {l : List α} (h : sep ∉ l) : cut sep l = ([], l) := by
  induction l with
  | nil => rfl
  | cons a l ih =>
    obtain ⟨hne, hl⟩ := not_or.mp (mt List.mem_cons.mpr h)
    exact cut_cons_of_ne_nil (Ne.symm hne) (ih hl)

/-- A terminated line ends the tail before it, by induction on what stands before it. -/
theorem cut_append_line {line : List α} (hline : sep ∉ line) (l rest : List α) :
    cut sep (l ++ (line ++ sep :: rest)) =
      ((cut sep l).1 ++ ((cut sep l).2 ++ line) :: (cut sep rest).1, (cut sep rest).2) := by
  induction l with
  | nil =>
    show cut sep (line ++ sep :: rest) = (line :: (cut sep rest).1, (cut sep rest).2)
    induction line with
    | nil => exact cut_cons_sep rest
    | cons a line ih =>
      obtain ⟨hne, hline⟩ := not_or.mp (mt List.mem_cons.mpr hline)
      exact cut_cons_of_ne (Ne.symm hne) (ih hline)
  | cons a l ih =>
    by_cases ha : a = sep
    · subst ha
      rw [List.cons_append, cut_cons_sep, cut_cons_sep, ih]
      rfl
    · match hcut : cut sep l with
      | ([], tail) =>
        rw [hcut] at ih
        rw [List.cons_append, cut_cons_of_ne ha ih, cut_cons_of_ne_nil ha hcut]
        rfl
      | (first :: lines, tail) =>
        rw [hcut] at ih
        rw [List.cons_append, cut_cons_of_ne ha ih, cut_cons_of_ne ha hcut]
        rfl

theorem cut_flatMap {lines : List (List α)} (h : ∀ line ∈ lines, sep ∉ line) :
    cut sep (lines.flatMap fun line => line ++ [sep]) = (lines, []) := by
  induction lines with
  | nil => rfl
  | cons line lines ih =>
    have hrest := ih fun other hother => h other (List.mem_cons_of_mem _ hother)
    rw [List.flatMap_cons, List.append_assoc]
    show cut sep ([] ++ (line ++ sep :: lines.flatMap fun line => line ++ [sep])) = _
    rw [cut_append_line (h line List.mem_cons_self), hrest]
    rfl

end Lines
