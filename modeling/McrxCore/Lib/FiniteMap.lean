import Mathlib

/-!
# Finite maps and reference counts

`tally g m k` counts the entries of a finite map that a classification `g` puts
into class `k`.  `Counts` says that a second map, from classes to records with a
reference count, holds exactly the occupied classes, each with its tally.  The
update rules of both are stated for the three ways an entry of the classified map
changes: a new entry, a changed entry, and an erased one.
-/

abbrev FiniteMap (κ ν : Type*) := Finmap (fun _ : κ => ν)

namespace FiniteMap

variable {κ ν ι ρ : Type*} [DecidableEq κ] [DecidableEq ι]

theorem erase_insert {m : FiniteMap κ ν} {a : κ} (h : a ∉ m) (v : ν) :
    (m.insert a v).erase a = m := by
  refine Finmap.ext_lookup fun x => ?_
  by_cases hx : x = a
  · subst hx
    rw [Finmap.lookup_erase, Finmap.lookup_eq_none.mpr h]
  · rw [Finmap.lookup_erase_ne hx, Finmap.lookup_insert_of_ne _ hx]

theorem insert_erase {m : FiniteMap κ ν} {a : κ} {v : ν} (h : m.lookup a = some v) :
    (m.erase a).insert a v = m := by
  refine Finmap.ext_lookup fun x => ?_
  by_cases hx : x = a
  · subst hx
    rw [Finmap.lookup_insert, h]
  · rw [Finmap.lookup_insert_of_ne _ hx, Finmap.lookup_erase_ne hx]

theorem insert_erase_self (m : FiniteMap κ ν) (a : κ) (v : ν) :
    (m.erase a).insert a v = m.insert a v := by
  refine Finmap.ext_lookup fun x => ?_
  by_cases hx : x = a
  · subst hx
    rw [Finmap.lookup_insert, Finmap.lookup_insert]
  · rw [Finmap.lookup_insert_of_ne _ hx, Finmap.lookup_insert_of_ne _ hx,
      Finmap.lookup_erase_ne hx]

/-- One lookup in an updated map. -/
theorem lookup_insert_ite (m : FiniteMap κ ν) (a x : κ) (v : ν) :
    (m.insert a v).lookup x = if x = a then some v else m.lookup x := by
  by_cases hx : x = a
  · subst hx
    rw [if_pos rfl, Finmap.lookup_insert]
  · rw [if_neg hx, Finmap.lookup_insert_of_ne _ hx]

theorem lookup_erase_ite (m : FiniteMap κ ν) (a x : κ) :
    (m.erase a).lookup x = if x = a then none else m.lookup x := by
  by_cases hx : x = a
  · subst hx
    rw [if_pos rfl, Finmap.lookup_erase]
  · rw [if_neg hx, Finmap.lookup_erase_ne hx]

/-! ## Size -/

def len (m : FiniteMap κ ν) : Nat := m.entries.card

def isEmpty (m : FiniteMap κ ν) : Bool := decide (m.len = 0)

theorem isEmpty_iff {m : FiniteMap κ ν} : m.isEmpty = true ↔ ∀ a, m.lookup a = none := by
  rw [isEmpty, decide_eq_true_eq, len, Multiset.card_eq_zero]
  constructor
  · intro h a
    obtain rfl : m = ∅ := Finmap.ext h
    exact Finmap.lookup_empty a
  · intro h
    obtain rfl : m = ∅ := Finmap.ext_lookup fun a => by rw [h a, Finmap.lookup_empty]
    rfl

/-! ## Tallies -/

/-- How many entries of `m` the classification `g` puts into class `k`. -/
def tally (g : ν → Option ι) (m : FiniteMap κ ν) (k : ι) : Nat :=
  m.entries.countP fun e => g e.2 = some k

/-- The contribution of one value to a tally. -/
def share (g : ν → Option ι) (v : ν) (k : ι) : Nat := if g v = some k then 1 else 0

omit [DecidableEq κ] in
theorem tally_empty (g : ν → Option ι) (k : ι) : tally g (∅ : FiniteMap κ ν) k = 0 := rfl

theorem tally_insert_of_notMem (g : ν → Option ι) {m : FiniteMap κ ν} {a : κ} (h : a ∉ m)
    (v : ν) (k : ι) : tally g (m.insert a v) k = tally g m k + share g v k := by
  rw [tally, Finmap.entries_insert_of_notMem h, Multiset.countP_cons]
  rfl

theorem tally_erase (g : ν → Option ι) {m : FiniteMap κ ν} {a : κ} {v : ν}
    (h : m.lookup a = some v) (k : ι) : tally g (m.erase a) k + share g v k = tally g m k := by
  rw [← tally_insert_of_notMem g Finmap.notMem_erase_self v k, insert_erase h]

theorem tally_insert (g : ν → Option ι) {m : FiniteMap κ ν} {a : κ} {v : ν}
    (h : m.lookup a = some v) (w : ν) (k : ι) :
    tally g (m.insert a w) k + share g v k = tally g m k + share g w k := by
  have herase := tally_erase g h k
  have hinsert := tally_insert_of_notMem g (Finmap.notMem_erase_self (s := m) (a := a)) w k
  rw [insert_erase_self] at hinsert
  omega

theorem mem_entries_iff {m : FiniteMap κ ν} {a : κ} {v : ν} :
    (⟨a, v⟩ : Sigma fun _ : κ => ν) ∈ m.entries ↔ m.lookup a = some v :=
  Finmap.lookup_eq_some_iff.symm

theorem tally_pos_iff {g : ν → Option ι} {m : FiniteMap κ ν} {k : ι} :
    0 < tally g m k ↔ ∃ a v, m.lookup a = some v ∧ g v = some k := by
  rw [tally, Multiset.countP_pos]
  constructor
  · intro h
    obtain ⟨⟨a, v⟩, hmem, hg⟩ := h
    exact ⟨a, v, mem_entries_iff.mp hmem, by simpa using hg⟩
  · intro h
    obtain ⟨a, v, hlookup, hg⟩ := h
    exact ⟨⟨a, v⟩, mem_entries_iff.mpr hlookup, by simpa using hg⟩

theorem tally_eq_zero_iff {g : ν → Option ι} {m : FiniteMap κ ν} {k : ι} :
    tally g m k = 0 ↔ ∀ a v, m.lookup a = some v → g v ≠ some k := by
  constructor
  · intro h a v hlookup hg
    have hpos : 0 < tally g m k := tally_pos_iff.mpr ⟨a, v, hlookup, hg⟩
    omega
  · intro h
    refine Nat.eq_zero_of_not_pos fun hpos => ?_
    obtain ⟨a, v, hlookup, hg⟩ := tally_pos_iff.mp hpos
    exact h a v hlookup hg

/-! ## Reference counts -/

/-- The table holds exactly the classes with a positive count, each with its
count. -/
def Counts (refs : ρ → Nat) (table : FiniteMap ι ρ) (n : ι → Nat) : Prop :=
  ∀ k, (∀ r, table.lookup k = some r → refs r = n k ∧ 0 < n k) ∧
    (table.lookup k = none → n k = 0)

theorem Counts.lookup_pos {refs : ρ → Nat} {table : FiniteMap ι ρ} {n : ι → Nat}
    (h : Counts refs table n) {k : ι} (hk : 0 < n k) :
    ∃ r, table.lookup k = some r ∧ refs r = n k := by
  cases hl : table.lookup k with
  | none =>
    have hzero := (h k).2 hl
    omega
  | some r => exact ⟨r, rfl, ((h k).1 r hl).1⟩

theorem Counts.mem_iff {refs : ρ → Nat} {table : FiniteMap ι ρ} {n : ι → Nat}
    (h : Counts refs table n) {k : ι} : (∃ r, table.lookup k = some r) ↔ 0 < n k := by
  constructor
  · intro hr
    obtain ⟨r, hr⟩ := hr
    exact ((h k).1 r hr).2
  · intro hk
    obtain ⟨r, hr, -⟩ := h.lookup_pos hk
    exact ⟨r, hr⟩

/-- What a table of counts shows for a class: its count, and no entry for an empty
class. -/
def counted (count : Nat) : Option Nat := if count = 0 then none else some count

theorem Counts.lookup_map {refs : ρ → Nat} {table : FiniteMap ι ρ} {n : ι → Nat}
    (h : Counts refs table n) (k : ι) : (table.lookup k).map refs = counted (n k) := by
  rw [counted]
  cases hl : table.lookup k with
  | none =>
    rw [if_pos ((h k).2 hl)]
    rfl
  | some r =>
    obtain ⟨hrefs, hpos⟩ := (h k).1 r hl
    rw [if_neg (by omega), Option.map_some, hrefs]

theorem Counts.congr {refs : ρ → Nat} {table : FiniteMap ι ρ} {n n' : ι → Nat}
    (h : Counts refs table n) (hn : ∀ k, n' k = n k) : Counts refs table n' := by
  have heq : n' = n := funext hn
  rw [heq]
  exact h

/-- One class gets a new record, and every other count stays. -/
theorem Counts.insert {refs : ρ → Nat} {table : FiniteMap ι ρ} {n n' : ι → Nat}
    (h : Counts refs table n) {k : ι} {r : ρ} (hr : refs r = n' k) (hpos : 0 < n' k)
    (hn : ∀ j, j ≠ k → n' j = n j) : Counts refs (table.insert k r) n' := by
  intro j
  rw [lookup_insert_ite]
  by_cases hj : j = k
  · subst hj
    rw [if_pos rfl]
    refine ⟨fun s hs => ?_, fun hs => absurd hs (Option.some_ne_none r)⟩
    obtain rfl : r = s := Option.some.inj hs
    exact ⟨hr, hpos⟩
  · rw [if_neg hj, hn j hj]
    exact h j

/-- One class is dropped at count zero, and every other count stays. -/
theorem Counts.erase {refs : ρ → Nat} {table : FiniteMap ι ρ} {n n' : ι → Nat}
    (h : Counts refs table n) {k : ι} (hk : n' k = 0) (hn : ∀ j, j ≠ k → n' j = n j) :
    Counts refs (table.erase k) n' := by
  intro j
  rw [lookup_erase_ite]
  by_cases hj : j = k
  · subst hj
    rw [if_pos rfl]
    exact ⟨fun s hs => absurd hs (Option.some_ne_none s).symm, fun _ => hk⟩
  · rw [if_neg hj, hn j hj]
    exact h j

theorem Counts.empty (refs : ρ → Nat) : Counts refs (∅ : FiniteMap ι ρ) fun _ => 0 := by
  intro k
  refine ⟨fun r hr => ?_, fun _ => rfl⟩
  rw [Finmap.lookup_empty] at hr
  cases hr

end FiniteMap
