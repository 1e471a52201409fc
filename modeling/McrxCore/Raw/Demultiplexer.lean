import McrxCore.Lib.FiniteMap
import McrxCore.Lib.SortedList
import McrxCore.Packet

/-!
# The demultiplexing index

The two-level `(group, source)` index of a shared capture, as in `raw/shared.rs`.
Its meaning is `CaptureDemultiplexer.ids`, the id list held under a group and an
optional source; insertion and removal change one such list, and a lookup merges
the any-source list of a group with the list of the packet's source.
-/

namespace McrxCore

open SortedList (Increasing)

instance : LE SubscriptionId := ⟨fun a b => a.val ≤ b.val⟩

instance : LT SubscriptionId := ⟨fun a b => a.val < b.val⟩

/-- Ids are compared by their number. -/
instance : LinearOrder SubscriptionId where
  le_refl a := Nat.le_refl a.val
  le_trans _ _ _ hab hbc := Nat.le_trans hab hbc
  lt_iff_le_not_ge _ _ := Nat.lt_iff_le_and_not_ge
  le_antisymm a b hab hba := by
    cases a
    cases b
    exact congrArg SubscriptionId.mk (Nat.le_antisymm hab hba)
  le_total a b := Nat.le_total a.val b.val
  toDecidableLE a b := inferInstanceAs (Decidable (a.val ≤ b.val))
  toDecidableLT a b := inferInstanceAs (Decidable (a.val < b.val))
  toDecidableEq := inferInstance

def insertId (ids : List SubscriptionId) (id : SubscriptionId) : List SubscriptionId :=
  SortedList.insert ids id

def removeId (ids : List SubscriptionId) (id : SubscriptionId) : List SubscriptionId :=
  SortedList.remove ids id

def mergeIds (first second : List SubscriptionId) : List SubscriptionId :=
  SortedList.merge first second

/-! ## Matching ids -/

inductive MatchingSubscriptionIds where
  | one (id : SubscriptionId)
  | many (ids : List SubscriptionId)
  deriving DecidableEq, Repr

namespace MatchingSubscriptionIds

def fromSortedSlices (first second : List SubscriptionId) : Option MatchingSubscriptionIds :=
  match first.length + second.length with
  | 0 => none
  | 1 =>
    match first.head? with
    | some id => some (.one id)
    | none => second.head?.map .one
  | _ => some (.many (mergeIds first second))

def asSlice : MatchingSubscriptionIds → List SubscriptionId
  | .one id => [id]
  | .many ids => ids

/-- `none` is the out-of-bounds index of an empty slice. -/
def first (ids : MatchingSubscriptionIds) : Option SubscriptionId := ids.asSlice.head?

/-- `none` is the `unreachable!` arm, and an index past the end. -/
def removeExisting (ids : MatchingSubscriptionIds) (index : Nat) :
    Option MatchingSubscriptionIds :=
  match ids with
  | .one _ => none
  | .many ids =>
    if index < ids.length then
      match ids.eraseIdx index with
      | [id] => some (.one id)
      | ids => some (.many ids)
    else none

def ofIds : List SubscriptionId → Option MatchingSubscriptionIds
  | [] => none
  | [id] => some (.one id)
  | ids => some (.many ids)

theorem asSlice_of_ofIds {ids : List SubscriptionId} {m : MatchingSubscriptionIds}
    (h : ofIds ids = some m) : m.asSlice = ids := by
  match ids, h with
  | [_], rfl => rfl
  | _ :: _ :: _, rfl => rfl

theorem ofIds_eq_none {ids : List SubscriptionId} : ofIds ids = none ↔ ids = [] := by
  match ids with
  | [] => simp [ofIds]
  | [_] => simp [ofIds]
  | _ :: _ :: _ => simp [ofIds]

theorem ofIds_of_two_le {ids : List SubscriptionId} (h : 2 ≤ ids.length) :
    ofIds ids = some (.many ids) := by
  match ids, h with
  | _ :: _ :: _, _ => rfl

theorem merge_length {first second : List SubscriptionId}
    (h : ∀ id, id ∈ first → id ∉ second) :
    (mergeIds first second).length = first.length + second.length := by
  unfold mergeIds
  fun_induction SortedList.merge first second with
  | case1 ys => simp
  | case2 xs hne => simp
  | case3 x xs y ys hlt ih =>
    rw [List.length_cons, ih fun id hid => h id (List.mem_cons_of_mem _ hid)]
    simp only [List.length_cons]
    omega
  | case4 x xs y ys hlt hgt ih =>
    rw [List.length_cons, ih fun id hid hy => h id hid (List.mem_cons_of_mem _ hy)]
    simp only [List.length_cons]
    omega
  | case5 x xs y ys hlt hgt ih =>
    have heq : x = y := le_antisymm (not_lt.mp hgt) (not_lt.mp hlt)
    exact absurd (heq ▸ List.mem_cons_self) (h x List.mem_cons_self)

/-- The lookup result is the merged list, in its own representation. -/
theorem fromSortedSlices_eq {first second : List SubscriptionId}
    (h : ∀ id, id ∈ first → id ∉ second) :
    fromSortedSlices first second = ofIds (mergeIds first second) := by
  have hlen := merge_length h
  rcases first with _ | ⟨x, xs⟩
  · have hmerge : mergeIds [] second = second := by rw [mergeIds, SortedList.merge]
    rw [hmerge]
    rcases second with _ | ⟨y, _ | ⟨z, rest⟩⟩
    · rfl
    · rfl
    · show some (MatchingSubscriptionIds.many (mergeIds [] (y :: z :: rest))) = _
      rw [hmerge]
      rfl
  rcases second with _ | ⟨y, ys⟩
  · have hmerge : mergeIds (x :: xs) [] = x :: xs := by simp [mergeIds, SortedList.merge]
    rw [hmerge]
    rcases xs with _ | ⟨y, rest⟩
    · rfl
    · show some (MatchingSubscriptionIds.many (mergeIds (x :: y :: rest) [])) = _
      rw [hmerge]
      rfl
  · have htwo : 2 ≤ (mergeIds (x :: xs) (y :: ys)).length := by
      rw [hlen, List.length_cons, List.length_cons]
      omega
    rw [ofIds_of_two_le htwo, fromSortedSlices]
    split
    · rename_i hzero
      rw [← hlen] at hzero
      omega
    · rename_i hone
      rw [← hlen] at hone
      omega
    · rfl

/-- Removing a member of a list of at least two leaves the representation of the
rest. -/
theorem removeExisting_eq {ids : List SubscriptionId} {m : MatchingSubscriptionIds}
    (hm : ofIds ids = some m) {index : Nat} (hindex : index < ids.length)
    (htwo : 2 ≤ ids.length) : m.removeExisting index = ofIds (ids.eraseIdx index) := by
  match ids, hm with
  | a :: b :: rest, rfl =>
    rw [removeExisting, if_pos hindex]
    have hlen := List.length_eraseIdx_of_lt hindex
    match he : (a :: b :: rest).eraseIdx index, hlen with
    | [_], _ => rfl
    | _ :: _ :: _, _ => rfl
    | [], hlen =>
      simp only [List.length_cons, List.length_nil] at hlen
      omega

end MatchingSubscriptionIds

/-! ## The index of one group -/

structure GroupDemultiplexer where
  anySource : List SubscriptionId
  sources : FiniteMap IpAddr (List SubscriptionId)

namespace GroupDemultiplexer

def empty : GroupDemultiplexer := { anySource := [], sources := ∅ }

def insert (group : GroupDemultiplexer) (id : SubscriptionId) (source : Option IpAddr) :
    GroupDemultiplexer :=
  match source with
  | some source =>
    let ids := (group.sources.lookup source).getD []
    { group with sources := group.sources.insert source (insertId ids id) }
  | none => { group with anySource := insertId group.anySource id }

def remove (group : GroupDemultiplexer) (id : SubscriptionId) (source : Option IpAddr) :
    GroupDemultiplexer :=
  match source with
  | some source =>
    match group.sources.lookup source with
    | none => group
    | some ids =>
      let ids := removeId ids id
      if ids.isEmpty then { group with sources := group.sources.erase source }
      else { group with sources := group.sources.insert source ids }
  | none => { group with anySource := removeId group.anySource id }

def isEmpty (group : GroupDemultiplexer) : Bool :=
  group.anySource.isEmpty && group.sources.isEmpty

/-- `matches`. -/
def matching (group : GroupDemultiplexer) (source : IpAddr) :
    Option MatchingSubscriptionIds :=
  MatchingSubscriptionIds.fromSortedSlices group.anySource
    ((group.sources.lookup source).getD [])

def ids (group : GroupDemultiplexer) : Option IpAddr → List SubscriptionId
  | none => group.anySource
  | some source => (group.sources.lookup source).getD []

/-- No source is kept with an empty list. -/
def Compact (group : GroupDemultiplexer) : Prop :=
  ∀ source, group.sources.lookup source ≠ some []

theorem ids_empty (source : Option IpAddr) : empty.ids source = [] := by
  cases source <;> rfl

theorem ids_insert (group : GroupDemultiplexer) (id : SubscriptionId)
    (source source' : Option IpAddr) :
    (group.insert id source).ids source' =
      if source' = source then insertId (group.ids source) id else group.ids source' := by
  cases source with
  | none => cases source' <;> rfl
  | some source =>
    cases source' with
    | none => rfl
    | some source' =>
      simp only [insert, ids, FiniteMap.lookup_insert_ite, Option.some.injEq]
      split <;> rfl

theorem ids_remove (group : GroupDemultiplexer) (id : SubscriptionId)
    (source source' : Option IpAddr) :
    (group.remove id source).ids source' =
      if source' = source then removeId (group.ids source) id else group.ids source' := by
  cases source with
  | none => cases source' <;> rfl
  | some source =>
    cases hl : group.sources.lookup source with
    | none =>
      have hsame : group.remove id (some source) = group := by simp only [remove, hl]
      rw [hsame]
      split
      · rename_i heq
        subst heq
        simp only [ids, hl]
        rfl
      · rfl
    | some held =>
      simp only [remove, hl]
      by_cases hempty : (removeId held id).isEmpty = true
      · rw [if_pos hempty]
        cases source' with
        | none => rfl
        | some source' =>
          simp only [ids, hl, FiniteMap.lookup_erase_ite, Option.some.injEq]
          split
          · exact (List.isEmpty_iff.mp hempty).symm
          · rfl
      · rw [if_neg hempty]
        cases source' with
        | none => rfl
        | some source' =>
          simp only [ids, hl, FiniteMap.lookup_insert_ite, Option.some.injEq]
          split <;> rfl

theorem compact_empty : empty.Compact := by
  intro source
  rw [empty, Finmap.lookup_empty]
  exact Option.some_ne_none [] |>.symm

theorem insertId_ne_nil {ids : List SubscriptionId} (h : Increasing ids) (id : SubscriptionId) :
    insertId ids id ≠ [] :=
  List.ne_nil_of_mem ((SortedList.mem_insert h).mpr (Or.inl rfl))

theorem compact_insert {group : GroupDemultiplexer} (h : group.Compact) (id : SubscriptionId)
    {source : Option IpAddr} (hids : Increasing (group.ids source)) :
    (group.insert id source).Compact := by
  cases source with
  | none => exact h
  | some source =>
    intro source'
    simp only [insert, FiniteMap.lookup_insert_ite]
    split
    · intro hs
      exact insertId_ne_nil hids id (Option.some.inj hs)
    · exact h source'

theorem compact_remove {group : GroupDemultiplexer} (h : group.Compact) (id : SubscriptionId)
    (source : Option IpAddr) : (group.remove id source).Compact := by
  cases source with
  | none => exact h
  | some source =>
    intro source'
    simp only [remove]
    split
    · exact h source'
    · split
      · rw [FiniteMap.lookup_erase_ite]
        split
        · exact (Option.some_ne_none []).symm
        · exact h source'
      · rename_i hempty
        rw [FiniteMap.lookup_insert_ite]
        split
        · intro hs
          exact hempty (List.isEmpty_iff.mpr (Option.some.inj hs))
        · exact h source'

/-- A compact group index is empty exactly when it holds no id. -/
theorem isEmpty_iff {group : GroupDemultiplexer} (h : group.Compact) :
    group.isEmpty = true ↔ ∀ source, group.ids source = [] := by
  rw [isEmpty, Bool.and_eq_true, List.isEmpty_iff, FiniteMap.isEmpty_iff]
  constructor
  · intro hboth source
    obtain ⟨hany, hsources⟩ := hboth
    cases source with
    | none => exact hany
    | some source => simp only [ids, hsources source, Option.getD_none]
  · intro hids
    refine ⟨hids none, fun source => ?_⟩
    have hnil := hids (some source)
    simp only [ids] at hnil
    cases hl : group.sources.lookup source with
    | none => rfl
    | some held =>
      rw [hl, Option.getD_some] at hnil
      exact absurd (hnil ▸ hl) (h source)

end GroupDemultiplexer

/-! ## The index of a capture -/

structure CaptureDemultiplexer where
  groups : FiniteMap IpAddr GroupDemultiplexer

namespace CaptureDemultiplexer

def empty : CaptureDemultiplexer := { groups := ∅ }

def insert (demultiplexer : CaptureDemultiplexer) (id : SubscriptionId)
    (config : RawSubscriptionConfig) : CaptureDemultiplexer :=
  let group := (demultiplexer.groups.lookup config.group).getD .empty
  { groups := demultiplexer.groups.insert config.group (group.insert id config.sourceAddr) }

def remove (demultiplexer : CaptureDemultiplexer) (id : SubscriptionId)
    (config : RawSubscriptionConfig) : CaptureDemultiplexer :=
  match demultiplexer.groups.lookup config.group with
  | none => demultiplexer
  | some group =>
    let group := group.remove id config.sourceAddr
    if group.isEmpty then { groups := demultiplexer.groups.erase config.group }
    else { groups := demultiplexer.groups.insert config.group group }

/-- `matches`. -/
def matching (demultiplexer : CaptureDemultiplexer) (group source : IpAddr) :
    Option MatchingSubscriptionIds :=
  match demultiplexer.groups.lookup group with
  | none => none
  | some index => index.matching source

def group (demultiplexer : CaptureDemultiplexer) (group : IpAddr) : GroupDemultiplexer :=
  (demultiplexer.groups.lookup group).getD .empty

def ids (demultiplexer : CaptureDemultiplexer) (group : IpAddr) (source : Option IpAddr) :
    List SubscriptionId :=
  (demultiplexer.group group).ids source

/-- No group is kept without an id, and no source with an empty list. -/
def Compact (demultiplexer : CaptureDemultiplexer) : Prop :=
  ∀ group index, demultiplexer.groups.lookup group = some index →
    index.Compact ∧ index.isEmpty = false

theorem matching_eq (demultiplexer : CaptureDemultiplexer) (group source : IpAddr) :
    demultiplexer.matching group source =
      MatchingSubscriptionIds.fromSortedSlices (demultiplexer.ids group none)
        (demultiplexer.ids group (some source)) := by
  rw [matching, ids, ids, CaptureDemultiplexer.group]
  cases demultiplexer.groups.lookup group with
  | none => rfl
  | some index => rfl

theorem ids_empty (group : IpAddr) (source : Option IpAddr) : empty.ids group source = [] := by
  rw [ids, CaptureDemultiplexer.group, empty, Finmap.lookup_empty]
  exact GroupDemultiplexer.ids_empty source

theorem group_insert (demultiplexer : CaptureDemultiplexer) (id : SubscriptionId)
    (config : RawSubscriptionConfig) (g : IpAddr) :
    (demultiplexer.insert id config).group g =
      if g = config.group then (demultiplexer.group config.group).insert id config.sourceAddr
      else demultiplexer.group g := by
  simp only [CaptureDemultiplexer.group, insert, FiniteMap.lookup_insert_ite]
  split <;> rfl

theorem ids_insert (demultiplexer : CaptureDemultiplexer) (id : SubscriptionId)
    (config : RawSubscriptionConfig) (g : IpAddr) (source : Option IpAddr) :
    (demultiplexer.insert id config).ids g source =
      if g = config.group ∧ source = config.sourceAddr then
        insertId (demultiplexer.ids config.group config.sourceAddr) id
      else demultiplexer.ids g source := by
  rw [ids, group_insert]
  by_cases hg : g = config.group
  · subst hg
    rw [if_pos rfl, GroupDemultiplexer.ids_insert]
    simp only [true_and, ids]
  · rw [if_neg hg, if_neg fun h => hg h.1, ids]

/-- Removal from the group's index, whether or not the group stays. -/
theorem ids_remove {demultiplexer : CaptureDemultiplexer} (h : demultiplexer.Compact)
    (id : SubscriptionId) (config : RawSubscriptionConfig) (g : IpAddr)
    (source : Option IpAddr) :
    (demultiplexer.remove id config).ids g source =
      if g = config.group ∧ source = config.sourceAddr then
        removeId (demultiplexer.ids config.group config.sourceAddr) id
      else demultiplexer.ids g source := by
  cases hl : demultiplexer.groups.lookup config.group with
  | none =>
    have hsame : demultiplexer.remove id config = demultiplexer := by simp only [remove, hl]
    rw [hsame]
    split
    · rename_i hboth
      obtain ⟨rfl, rfl⟩ := hboth
      rw [ids, CaptureDemultiplexer.group, hl, Option.getD_none, GroupDemultiplexer.ids_empty]
      rfl
    · rfl
  | some index =>
    have hcompact := GroupDemultiplexer.compact_remove (h _ _ hl).1 id config.sourceAddr
    have hindex : demultiplexer.group config.group = index := by
      rw [CaptureDemultiplexer.group, hl, Option.getD_some]
    by_cases hg : g = config.group
    · subst hg
      have hids : (demultiplexer.remove id config).ids config.group source =
          (index.remove id config.sourceAddr).ids source := by
        simp only [remove, hl]
        split
        · rename_i hempty
          rw [ids, CaptureDemultiplexer.group, FiniteMap.lookup_erase_ite, if_pos rfl,
            Option.getD_none, GroupDemultiplexer.ids_empty,
            (GroupDemultiplexer.isEmpty_iff hcompact).mp hempty source]
        · rw [ids, CaptureDemultiplexer.group, FiniteMap.lookup_insert_ite, if_pos rfl,
            Option.getD_some]
      rw [hids, GroupDemultiplexer.ids_remove]
      simp only [true_and, ids, hindex]
    · rw [if_neg fun hboth => hg hboth.1]
      simp only [remove, hl]
      split
      · rw [ids, CaptureDemultiplexer.group, FiniteMap.lookup_erase_ite, if_neg hg]
        rfl
      · rw [ids, CaptureDemultiplexer.group, FiniteMap.lookup_insert_ite, if_neg hg]
        rfl

theorem compact_empty : empty.Compact := by
  intro group index hl
  rw [empty, Finmap.lookup_empty] at hl
  exact nomatch hl

theorem compact_insert {demultiplexer : CaptureDemultiplexer} (h : demultiplexer.Compact)
    (id : SubscriptionId) {config : RawSubscriptionConfig}
    (hids : Increasing (demultiplexer.ids config.group config.sourceAddr)) :
    (demultiplexer.insert id config).Compact := by
  intro g index hl
  simp only [insert, FiniteMap.lookup_insert_ite] at hl
  split at hl
  · have hgroup : (demultiplexer.group config.group).Compact := by
      rw [CaptureDemultiplexer.group]
      cases hg : demultiplexer.groups.lookup config.group with
      | none => exact GroupDemultiplexer.compact_empty
      | some index => exact (h _ _ hg).1
    obtain rfl : (demultiplexer.group config.group).insert id config.sourceAddr = index :=
      Option.some.inj hl
    have hcompact := GroupDemultiplexer.compact_insert hgroup id hids
    refine ⟨hcompact, ?_⟩
    rw [Bool.eq_false_iff]
    intro hempty
    have hnil := (GroupDemultiplexer.isEmpty_iff hcompact).mp hempty config.sourceAddr
    rw [GroupDemultiplexer.ids_insert, if_pos rfl] at hnil
    exact GroupDemultiplexer.insertId_ne_nil hids id hnil
  · exact h g index hl

theorem compact_remove {demultiplexer : CaptureDemultiplexer} (h : demultiplexer.Compact)
    (id : SubscriptionId) (config : RawSubscriptionConfig) :
    (demultiplexer.remove id config).Compact := by
  intro g index hl
  simp only [remove] at hl
  split at hl
  · exact h g index hl
  · rename_i group hgroup
    split at hl
    · rw [FiniteMap.lookup_erase_ite] at hl
      split at hl
      · exact nomatch hl
      · exact h g index hl
    · rename_i hempty
      rw [FiniteMap.lookup_insert_ite] at hl
      split at hl
      · obtain rfl : group.remove id config.sourceAddr = index := Option.some.inj hl
        exact ⟨GroupDemultiplexer.compact_remove (h _ _ hgroup).1 id _,
          Bool.eq_false_iff.mpr hempty⟩
      · exact h g index hl

/-! ## The index of a set of memberships -/

/-- The index holds exactly the ids `held` gives for each group and source. -/
structure Indexes (demultiplexer : CaptureDemultiplexer)
    (held : IpAddr → Option IpAddr → SubscriptionId → Prop) : Prop where
  mem_ids : ∀ group source id, id ∈ demultiplexer.ids group source ↔ held group source id
  increasing : ∀ group source, Increasing (demultiplexer.ids group source)
  compact : demultiplexer.Compact

variable {demultiplexer : CaptureDemultiplexer}
  {held held' : IpAddr → Option IpAddr → SubscriptionId → Prop}

theorem Indexes.congr (h : demultiplexer.Indexes held)
    (heq : ∀ group source id, held' group source id ↔ held group source id) :
    demultiplexer.Indexes held' := by
  refine ⟨fun group source id => ?_, h.increasing, h.compact⟩
  rw [h.mem_ids, heq]

theorem Indexes.empty : empty.Indexes fun _ _ _ => False := by
  refine ⟨fun group source id => ?_, fun group source => ?_, compact_empty⟩
  · rw [ids_empty]
    simp
  · rw [ids_empty]
    exact List.Pairwise.nil

theorem Indexes.insert (h : demultiplexer.Indexes held) (id : SubscriptionId)
    (config : RawSubscriptionConfig) :
    (demultiplexer.insert id config).Indexes fun group source other =>
      (group = config.group ∧ source = config.sourceAddr ∧ other = id) ∨
        held group source other := by
  have hinc := h.increasing config.group config.sourceAddr
  refine ⟨fun group source other => ?_, fun group source => ?_, compact_insert h.compact id hinc⟩
  · rw [ids_insert]
    split
    · rename_i hboth
      obtain ⟨rfl, rfl⟩ := hboth
      rw [insertId, SortedList.mem_insert hinc, h.mem_ids]
      simp only [true_and]
    · rename_i hne
      rw [h.mem_ids]
      exact ⟨Or.inr, fun hor => hor.resolve_left fun hall => hne ⟨hall.1, hall.2.1⟩⟩
  · rw [ids_insert]
    split
    · exact SortedList.insert_increasing hinc id
    · exact h.increasing group source

theorem Indexes.remove (h : demultiplexer.Indexes held) (id : SubscriptionId)
    (config : RawSubscriptionConfig) :
    (demultiplexer.remove id config).Indexes fun group source other =>
      ¬ (group = config.group ∧ source = config.sourceAddr ∧ other = id) ∧
        held group source other := by
  have hinc := h.increasing config.group config.sourceAddr
  refine ⟨fun group source other => ?_, fun group source => ?_, compact_remove h.compact id config⟩
  · rw [ids_remove h.compact]
    split
    · rename_i hboth
      obtain ⟨rfl, rfl⟩ := hboth
      rw [removeId, SortedList.mem_remove hinc, h.mem_ids]
      simp only [true_and, ne_eq]
    · rename_i hne
      rw [h.mem_ids]
      exact ⟨fun hheld => ⟨fun hall => hne ⟨hall.1, hall.2.1⟩, hheld⟩, fun hand => hand.2⟩
  · rw [ids_remove h.compact]
    split
    · exact SortedList.remove_increasing hinc id
    · exact h.increasing group source

/-- A lookup gives the representation of an increasing list of exactly the ids
held for the group with no source or with the packet's. -/
theorem Indexes.matching_eq_ofIds (h : demultiplexer.Indexes held) (group source : IpAddr)
    (hdisjoint : ∀ id, held group none id → ¬ held group (some source) id) :
    ∃ ids, demultiplexer.matching group source = MatchingSubscriptionIds.ofIds ids ∧
      Increasing ids ∧ ∀ id, id ∈ ids ↔ held group none id ∨ held group (some source) id := by
  refine ⟨mergeIds (demultiplexer.ids group none) (demultiplexer.ids group (some source)),
    ?_, ?_, fun id => ?_⟩
  · rw [matching_eq, MatchingSubscriptionIds.fromSortedSlices_eq]
    intro id hnone hsome
    exact hdisjoint id ((h.mem_ids _ _ _).mp hnone) ((h.mem_ids _ _ _).mp hsome)
  · exact SortedList.merge_increasing (h.increasing _ _) (h.increasing _ _)
  · rw [mergeIds, SortedList.mem_merge, h.mem_ids, h.mem_ids]

end CaptureDemultiplexer

end McrxCore
