import Mathlib

/-!
# Words

A list cut at its separators, without the empty pieces, and what stands behind the last
occurrence of a symbol.
-/

namespace Words

variable {α : Type*}

def words (p : α → Bool) (l : List α) : List (List α) :=
  (l.splitOnP p).filter fun word => !word.isEmpty

/-- A word of the list that `words` gives. -/
structure IsWord (p : α → Bool) (word : List α) : Prop where
  nonempty : word ≠ []
  plain : ∀ a ∈ word, p a = false

section Words

variable {p : α → Bool} {sep : α}

@[simp] theorem words_nil : words p [] = [] := by simp [words]

theorem words_append_cons (hsep : p sep = true) (l rest : List α) :
    words p (l ++ sep :: rest) = words p l ++ words p rest := by
  rw [words, List.splitOnP_append_cons l rest hsep, List.filter_append]
  rfl

theorem words_cons (hsep : p sep = true) (l : List α) : words p (sep :: l) = words p l := by
  have h := words_append_cons hsep [] l
  rw [List.nil_append, words_nil, List.nil_append] at h
  exact h

theorem words_concat (hsep : p sep = true) (l : List α) : words p (l ++ [sep]) = words p l := by
  rw [words_append_cons hsep, words_nil, List.append_nil]

theorem words_dropWhile (l : List α) : words p (l.dropWhile p) = words p l := by
  induction l with
  | nil => rfl
  | cons a l ih =>
    by_cases ha : p a = true
    · rw [List.dropWhile_cons_of_pos ha, ih, words_cons ha]
    · rw [List.dropWhile_cons_of_neg ha]

theorem words_rdropWhile (l : List α) : words p (l.rdropWhile p) = words p l := by
  induction l using List.reverseRecOn with
  | nil => rw [List.rdropWhile_nil]
  | append_singleton l a ih =>
    by_cases ha : p a = true
    · rw [List.rdropWhile_concat_pos p l a ha, ih, words_concat ha]
    · rw [List.rdropWhile_concat_neg p l a ha]

theorem words_word {word : List α} (h : IsWord p word) : words p word = [word] := by
  rw [words, List.splitOnP_eq_singleton h.plain]
  simp [h.nonempty]

/-- Words with a separator before each of them are read back. -/
theorem words_flatMap (hsep : p sep = true) {list : List (List α)}
    (h : ∀ word ∈ list, IsWord p word) : words p (list.flatMap (sep :: ·)) = list := by
  induction list with
  | nil => exact words_nil
  | cons word rest ih =>
    have hword := words_word (h word List.mem_cons_self)
    have hrest := ih fun other hother => h other (List.mem_cons_of_mem word hother)
    rw [List.flatMap_cons, List.cons_append, words_cons hsep]
    cases rest with
    | nil => rw [List.flatMap_nil, List.append_nil, hword]
    | cons next rest =>
      rw [List.flatMap_cons, List.cons_append] at hrest ⊢
      rw [words_append_cons hsep, hword]
      rw [words_cons hsep] at hrest
      rw [hrest]
      rfl

end Words

/-! ## The last occurrence -/

variable [DecidableEq α]

def afterLast (a : α) : List α → Option (List α)
  | [] => none
  | b :: rest =>
    match afterLast a rest with
    | some after => some after
    | none => if b = a then some rest else none

theorem afterLast_none {a : α} {l : List α} (h : a ∉ l) : afterLast a l = none := by
  induction l with
  | nil => rfl
  | cons b rest ih =>
    obtain ⟨hne, hrest⟩ := not_or.mp (mt List.mem_cons.mpr h)
    rw [afterLast, ih hrest]
    exact if_neg (Ne.symm hne)

/-- Whatever stands before the last occurrence. -/
theorem afterLast_append {a : α} {after : List α} (h : a ∉ after) (before : List α) :
    afterLast a (before ++ a :: after) = some after := by
  induction before with
  | nil =>
    rw [List.nil_append, afterLast, afterLast_none h]
    exact if_pos rfl
  | cons b before ih => rw [List.cons_append, afterLast, ih]

end Words
