import Mathlib

/-!
# Strictly increasing lists

A set kept as a strictly increasing list: binary search for the place of an
element, and the merge of two such lists.  Two strictly increasing lists with the
same elements are equal, so everything else about them is read off membership.
-/

namespace SortedList

theorem insertIdx_eq_take_drop {α : Type*} (xs : List α) (a : α) (index : Nat)
    (h : index ≤ xs.length) :
    xs.insertIdx index a = xs.take index ++ a :: xs.drop index := by
  induction xs generalizing index with
  | nil =>
    obtain rfl : index = 0 := by simpa using h
    rfl
  | cons x xs ih =>
    cases index with
    | zero => rfl
    | succ index => simp [ih index (by simpa using h)]

variable {α : Type*} [LinearOrder α]

abbrev Increasing (xs : List α) : Prop := xs.Pairwise (· < ·)

theorem Increasing.nodup {xs : List α} (h : Increasing xs) : xs.Nodup :=
  h.imp fun hlt => ne_of_lt hlt

/-- A strictly increasing list is determined by its elements. -/
theorem Increasing.eq_of_mem_iff {xs ys : List α} (hx : Increasing xs) (hy : Increasing ys)
    (h : ∀ a, a ∈ xs ↔ a ∈ ys) : xs = ys := by
  have hperm : xs.Perm ys := (List.perm_ext_iff_of_nodup hx.nodup hy.nodup).mpr h
  exact hperm.eq_of_pairwise (fun a b _ _ hab hba => absurd hba (lt_asymm hab)) hx hy

theorem Increasing.getElem_lt {xs : List α} (h : Increasing xs) {i j : Nat} (hij : i < j)
    (hj : j < xs.length) : xs[i] < xs[j] :=
  List.pairwise_iff_getElem.mp h i j (by omega) hj hij

theorem Increasing.getElem_le {xs : List α} (h : Increasing xs) {i j : Nat} (hij : i ≤ j)
    (hj : j < xs.length) : xs[i] ≤ xs[j] := by
  rcases Nat.lt_or_eq_of_le hij with hlt | rfl
  · exact le_of_lt (h.getElem_lt hlt hj)
  · exact le_refl _

/-! ## Binary search -/

/-- The halving loop of slice binary search.  `size` elements from `base` on are
still candidates, and `fuel` bounds the rounds. -/
def searchLoop (xs : List α) (a : α) : Nat → Nat → Nat → Nat
  | 0, _, base => base
  | fuel + 1, size, base =>
    if size ≤ 1 then base
    else
      let half := size / 2
      match xs[base + half]? with
      | none => base
      | some x => searchLoop xs a fuel (size - half) (if a < x then base else base + half)

/-- `slice::binary_search`: the index of `a`, or the index where `a` belongs. -/
def binarySearch (xs : List α) (a : α) : Except Nat Nat :=
  let base := searchLoop xs a xs.length xs.length 0
  match xs[base]? with
  | none => .error 0
  | some x => if x = a then .ok base else .error (base + if x < a then 1 else 0)

/-- What the loop keeps: the elements past the candidates are above `a`, and the
base element, unless it is the first one, is not above `a`. -/
structure SearchInv (xs : List α) (a : α) (size base : Nat) : Prop where
  size_pos : 0 < size
  bound : base + size ≤ xs.length
  above : ∀ i (h : i < xs.length), base + size ≤ i → a < xs[i]
  base_le : base = 0 ∨ ∃ h : base < xs.length, xs[base] ≤ a

theorem searchLoop_inv {xs : List α} (hs : Increasing xs) (a : α) (fuel size base : Nat)
    (hfuel : size ≤ fuel + 1) (h : SearchInv xs a size base) :
    SearchInv xs a 1 (searchLoop xs a fuel size base) := by
  induction fuel generalizing size base with
  | zero =>
    have hone : size = 1 := Nat.le_antisymm hfuel h.size_pos
    subst hone
    exact h
  | succ fuel ih =>
    have hbound := h.bound
    rw [searchLoop]
    by_cases hsize : size ≤ 1
    · have hone : size = 1 := Nat.le_antisymm hsize h.size_pos
      subst hone
      rw [if_pos (Nat.le_refl 1)]
      exact h
    · have hmid : base + size / 2 < xs.length := by omega
      simp only [if_neg hsize, List.getElem?_eq_getElem hmid]
      by_cases hlt : a < xs[base + size / 2]
      · rw [if_pos hlt]
        refine ih _ _ (by omega) ⟨by omega, by omega, fun i hi hle => ?_, h.base_le⟩
        exact lt_of_lt_of_le hlt (hs.getElem_le (by omega) hi)
      · rw [if_neg hlt]
        refine ih _ _ (by omega) ⟨by omega, by omega, fun i hi hle => ?_, Or.inr ⟨hmid, ?_⟩⟩
        · exact h.above i hi (by omega)
        · exact not_lt.mp hlt

theorem binarySearch_inv {xs : List α} (hs : Increasing xs) (a : α) (hne : xs ≠ []) :
    SearchInv xs a 1 (searchLoop xs a xs.length xs.length 0) := by
  have hpos := List.length_pos_iff.mpr hne
  exact searchLoop_inv hs a _ _ _ (Nat.le_succ _)
    ⟨hpos, by omega, fun i hi hle => by omega, Or.inl rfl⟩

theorem binarySearch_ok {xs : List α} {a : α} {index : Nat}
    (h : binarySearch xs a = .ok index) : xs[index]? = some a := by
  simp only [binarySearch] at h
  split at h
  · cases h
  · rename_i x hx
    split at h
    · rename_i heq
      cases h
      rw [hx, heq]
    · cases h

/-- The error index separates the smaller elements from the larger ones. -/
theorem binarySearch_error {xs : List α} (hs : Increasing xs) {a : α} {index : Nat}
    (h : binarySearch xs a = .error index) :
    (∀ b ∈ xs.take index, b < a) ∧ (∀ b ∈ xs.drop index, a < b) := by
  rcases eq_or_ne xs [] with rfl | hne
  · simp
  have hinv := binarySearch_inv hs a hne
  simp only [binarySearch] at h
  generalize hb : searchLoop xs a xs.length xs.length 0 = base at h hinv
  have hbase : base < xs.length := by have := hinv.bound; omega
  rw [List.getElem?_eq_getElem hbase] at h
  simp only at h
  split at h
  · cases h
  · rename_i hxa
    cases h
    by_cases hlt : xs[base] < a
    · rw [if_pos hlt]
      constructor
      · intro b hb
        obtain ⟨i, hi, rfl⟩ := List.mem_take_iff_getElem.mp hb
        exact lt_of_le_of_lt (hs.getElem_le (by omega) hbase) hlt
      · intro b hb
        obtain ⟨i, hi, rfl⟩ := List.mem_drop_iff_getElem.mp hb
        exact hinv.above _ (by omega) (by omega)
    · have hgt : a < xs[base] := lt_of_le_of_ne (not_lt.mp hlt) (Ne.symm hxa)
      have hzero : base = 0 := by
        rcases hinv.base_le with h0 | ⟨_, hle⟩
        · exact h0
        · exact absurd hgt (not_lt.mpr hle)
      subst hzero
      rw [if_neg hlt]
      refine ⟨by simp, fun b hb => ?_⟩
      obtain ⟨i, hi, rfl⟩ := List.mem_drop_iff_getElem.mp hb
      exact lt_of_lt_of_le hgt (hs.getElem_le (Nat.zero_le _) (by omega))

theorem binarySearch_notMem {xs : List α} (hs : Increasing xs) {a : α} {index : Nat}
    (h : binarySearch xs a = .error index) : a ∉ xs := by
  obtain ⟨hbelow, habove⟩ := binarySearch_error hs h
  intro ha
  rw [← List.take_append_drop index xs, List.mem_append] at ha
  rcases ha with ha | ha
  · exact lt_irrefl a (hbelow a ha)
  · exact lt_irrefl a (habove a ha)

/-! ## Insertion and removal -/

def insert (xs : List α) (a : α) : List α :=
  match binarySearch xs a with
  | .ok _ => xs
  | .error index => xs.insertIdx index a

def remove (xs : List α) (a : α) : List α :=
  match binarySearch xs a with
  | .ok index => xs.eraseIdx index
  | .error _ => xs

theorem binarySearch_error_le {xs : List α} (hs : Increasing xs) {a : α} {index : Nat}
    (h : binarySearch xs a = .error index) : index ≤ xs.length := by
  rcases eq_or_ne xs [] with rfl | hne
  · cases h
    exact Nat.le_refl 0
  have hbound := (binarySearch_inv hs a hne).bound
  simp only [binarySearch] at h
  split at h
  · cases h
    exact Nat.zero_le _
  · split at h
    · cases h
    · cases h
      split <;> omega

theorem mem_insert {xs : List α} (hs : Increasing xs) {a b : α} :
    b ∈ insert xs a ↔ b = a ∨ b ∈ xs := by
  rw [insert]
  split
  · rename_i index h
    have ha : a ∈ xs := List.mem_of_getElem? (binarySearch_ok h)
    exact ⟨Or.inr, fun hb => hb.elim (fun he => he ▸ ha) id⟩
  · rename_i index h
    rw [List.mem_insertIdx (binarySearch_error_le hs h)]

theorem insert_increasing {xs : List α} (hs : Increasing xs) (a : α) :
    Increasing (insert xs a) := by
  rw [insert]
  split
  · exact hs
  · rename_i index h
    obtain ⟨hbelow, habove⟩ := binarySearch_error hs h
    rw [insertIdx_eq_take_drop xs a index (binarySearch_error_le hs h)]
    refine List.pairwise_append.mpr ⟨hs.sublist (List.take_sublist _ _),
      List.pairwise_cons.mpr ⟨habove, hs.sublist (List.drop_sublist _ _)⟩, ?_⟩
    intro b hb c hc
    rcases List.mem_cons.mp hc with rfl | hc
    · exact hbelow b hb
    · exact lt_trans (hbelow b hb) (habove c hc)

theorem mem_remove {xs : List α} (hs : Increasing xs) {a b : α} :
    b ∈ remove xs a ↔ b ≠ a ∧ b ∈ xs := by
  rw [remove]
  split
  · rename_i index h
    have hget := binarySearch_ok h
    obtain ⟨hindex, ha⟩ := List.getElem?_eq_some_iff.mp hget
    rw [← ha, ← List.Nodup.erase_getElem hs.nodup index hindex, List.Nodup.mem_erase_iff hs.nodup]
  · rename_i index h
    have hnot := binarySearch_notMem hs h
    exact ⟨fun hb => ⟨fun he => hnot (he ▸ hb), hb⟩, fun hb => hb.2⟩

theorem remove_increasing {xs : List α} (hs : Increasing xs) (a : α) :
    Increasing (remove xs a) := by
  rw [remove]
  split
  · exact hs.sublist (List.eraseIdx_sublist _ _)
  · exact hs

/-! ## Merging -/

/-- Merge two lists, keeping an element that heads both of them once. -/
def merge : List α → List α → List α
  | [], ys => ys
  | xs, [] => xs
  | x :: xs, y :: ys =>
    if x < y then x :: merge xs (y :: ys)
    else if y < x then y :: merge (x :: xs) ys
    else x :: merge xs ys
termination_by xs ys => xs.length + ys.length

theorem mem_merge {xs ys : List α} {a : α} : a ∈ merge xs ys ↔ a ∈ xs ∨ a ∈ ys := by
  fun_induction merge xs ys with
  | case1 ys => simp
  | case2 xs hne => simp
  | case3 x xs y ys hlt ih =>
    rw [List.mem_cons, ih, List.mem_cons, List.mem_cons, or_assoc]
  | case4 x xs y ys hlt hgt ih =>
    rw [List.mem_cons, ih, List.mem_cons, List.mem_cons]
    exact or_left_comm
  | case5 x xs y ys hlt hgt ih =>
    have heq : x = y := le_antisymm (not_lt.mp hgt) (not_lt.mp hlt)
    rw [List.mem_cons, ih, List.mem_cons, List.mem_cons, heq]
    tauto

theorem merge_increasing {xs ys : List α} (hx : Increasing xs) (hy : Increasing ys) :
    Increasing (merge xs ys) := by
  fun_induction merge xs ys with
  | case1 ys => exact hy
  | case2 xs hne => exact hx
  | case3 x xs y ys hlt ih =>
    obtain ⟨hxs, hx'⟩ := List.pairwise_cons.mp hx
    refine List.pairwise_cons.mpr ⟨fun a ha => ?_, ih hx' hy⟩
    rcases mem_merge.mp ha with ha | ha
    · exact hxs a ha
    · rcases List.mem_cons.mp ha with rfl | ha
      · exact hlt
      · exact lt_trans hlt ((List.pairwise_cons.mp hy).1 a ha)
  | case4 x xs y ys hlt hgt ih =>
    obtain ⟨hys, hy'⟩ := List.pairwise_cons.mp hy
    refine List.pairwise_cons.mpr ⟨fun a ha => ?_, ih hx hy'⟩
    rcases mem_merge.mp ha with ha | ha
    · rcases List.mem_cons.mp ha with rfl | ha
      · exact hgt
      · exact lt_trans hgt ((List.pairwise_cons.mp hx).1 a ha)
    · exact hys a ha
  | case5 x xs y ys hlt hgt ih =>
    have heq : x = y := le_antisymm (not_lt.mp hgt) (not_lt.mp hlt)
    obtain ⟨hxs, hx'⟩ := List.pairwise_cons.mp hx
    obtain ⟨hys, hy'⟩ := List.pairwise_cons.mp hy
    refine List.pairwise_cons.mpr ⟨fun a ha => ?_, ih hx' hy'⟩
    rcases mem_merge.mp ha with ha | ha
    · exact hxs a ha
    · exact heq ▸ hys a ha

end SortedList
