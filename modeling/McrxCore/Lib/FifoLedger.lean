import Mathlib

/-!
# Ledgers of a queue

A ledger keeps every item that ever entered a queue, in order, with its fate: still
queued, handed to the consumer, or dropped from the queue.  Items enter at the back,
leave at the front, and may be edited or dropped in place.  In a ledger run by these
operations the items not dropped are those handed over followed by those queued.
-/

namespace FifoLedger

variable {α β : Type*}

inductive Fate where
  | queued
  | handed
  | dropped
  deriving DecidableEq, Repr

structure Entry (α : Type*) where
  item : α
  fate : Fate
  deriving DecidableEq, Repr

def itemsOf (fate : Fate) (entries : List (Entry α)) : List α :=
  (entries.filter fun entry => entry.fate == fate).map Entry.item

def liveItems (entries : List (Entry α)) : List α :=
  (entries.filter fun entry => entry.fate != .dropped).map Entry.item

/-- Nothing was handed over ahead of an item still queued. -/
def Ordered (entries : List (Entry α)) : Prop :=
  entries.Pairwise fun first second => first.fate = .queued → second.fate ≠ .handed

/-- The dropped items are those `keep` rejects. -/
def Settled (keep : α → Bool) (entries : List (Entry α)) : Prop :=
  ∀ entry ∈ entries, entry.fate = .dropped ↔ keep entry.item = false

def Entry.arrived (item : α) : Entry α := { item := item, fate := .queued }

def arrive (items : List α) (entries : List (Entry α)) : List (Entry α) :=
  entries ++ items.map Entry.arrived

/-- The first `n` queued items are handed over. -/
def handOver : Nat → List (Entry α) → List (Entry α)
  | 0, entries => entries
  | _ + 1, [] => []
  | n + 1, entry :: rest =>
    if entry.fate = .queued then { entry with fate := .handed } :: handOver n rest
    else entry :: handOver (n + 1) rest

/-- A queued item is edited, and dropped unless `keep` holds of it afterwards. -/
def Entry.edit (f : α → α) (keep : α → Bool) (entry : Entry α) : Entry α :=
  if entry.fate = .queued then
    { item := f entry.item, fate := if keep (f entry.item) then .queued else .dropped }
  else entry

/-! ## Items by fate -/

theorem itemsOf_cons (fate : Fate) (entry : Entry α) (rest : List (Entry α)) :
    itemsOf fate (entry :: rest) =
      (if entry.fate = fate then [entry.item] else []) ++ itemsOf fate rest := by
  by_cases h : entry.fate = fate
  · rw [itemsOf, List.filter_cons_of_pos (by simp [h]), if_pos h]
    rfl
  · rw [itemsOf, List.filter_cons_of_neg (by simp [h]), if_neg h]
    rfl

theorem liveItems_cons (entry : Entry α) (rest : List (Entry α)) :
    liveItems (entry :: rest) =
      (if entry.fate = .dropped then [] else [entry.item]) ++ liveItems rest := by
  by_cases h : entry.fate = .dropped
  · rw [liveItems, List.filter_cons_of_neg (by simp [h]), if_pos h]
    rfl
  · rw [liveItems, List.filter_cons_of_pos (by simp [h]), if_neg h]
    rfl

theorem itemsOf_append (fate : Fate) (first second : List (Entry α)) :
    itemsOf fate (first ++ second) = itemsOf fate first ++ itemsOf fate second := by
  rw [itemsOf, List.filter_append, List.map_append]
  rfl

/-- Behind a queued item nothing is handed over. -/
theorem Ordered.itemsOf_handed_eq_nil {entry : Entry α} {rest : List (Entry α)}
    (h : Ordered (entry :: rest)) (hqueued : entry.fate = .queued) :
    itemsOf .handed rest = [] := by
  rw [itemsOf, List.map_eq_nil_iff, List.filter_eq_nil_iff]
  intro other hother heq
  exact List.rel_of_pairwise_cons h hother hqueued (by simpa using heq)

/-- What is not dropped was handed over or is queued, in this order. -/
theorem Ordered.liveItems_eq {entries : List (Entry α)} (h : Ordered entries) :
    liveItems entries = itemsOf .handed entries ++ itemsOf .queued entries := by
  induction entries with
  | nil => rfl
  | cons entry rest ih =>
    have hrest := ih h.of_cons
    rw [liveItems_cons, itemsOf_cons, itemsOf_cons, hrest]
    match hfate : entry.fate with
    | .queued =>
      rw [h.itemsOf_handed_eq_nil hfate]
      rfl
    | .handed => simp
    | .dropped => simp

/-! ## Arriving -/

theorem itemsOf_arrived (fate : Fate) (items : List α) :
    itemsOf fate (items.map Entry.arrived) = if fate = .queued then items else [] := by
  induction items with
  | nil => simp [itemsOf]
  | cons item rest ih =>
    rw [List.map_cons, itemsOf_cons, ih]
    by_cases h : fate = .queued
    · subst h
      rfl
    · rw [if_neg h, if_neg h, if_neg (show (Entry.arrived item).fate ≠ fate
        from fun heq => h heq.symm)]
      rfl

theorem itemsOf_queued_arrive (items : List α) (entries : List (Entry α)) :
    itemsOf .queued (arrive items entries) = itemsOf .queued entries ++ items := by
  rw [arrive, itemsOf_append, itemsOf_arrived, if_pos rfl]

theorem itemsOf_handed_arrive (items : List α) (entries : List (Entry α)) :
    itemsOf .handed (arrive items entries) = itemsOf .handed entries := by
  rw [arrive, itemsOf_append, itemsOf_arrived, if_neg (by decide), List.append_nil]

theorem Ordered.arrive {entries : List (Entry α)} (h : Ordered entries) (items : List α) :
    Ordered (arrive items entries) := by
  have hnew : ∀ entry ∈ items.map Entry.arrived, entry.fate ≠ .handed := by
    intro entry hentry
    obtain ⟨item, -, rfl⟩ := List.mem_map.mp hentry
    exact nofun
  refine List.pairwise_append.mpr ⟨h, ?_, fun first _ second hsecond _ => hnew second hsecond⟩
  exact List.pairwise_of_forall_mem_list fun first _ second hsecond _ => hnew second hsecond

theorem Settled.arrive {keep : α → Bool} {entries : List (Entry α)} (h : Settled keep entries)
    {items : List α} (hitems : ∀ item ∈ items, keep item = true) :
    Settled keep (arrive items entries) := by
  intro entry hentry
  rcases List.mem_append.mp hentry with hentry | hentry
  · exact h entry hentry
  · obtain ⟨item, hitem, rfl⟩ := List.mem_map.mp hentry
    simp [Entry.arrived, hitems item hitem]

/-! ## Handing over -/

theorem itemsOf_queued_handOver (n : Nat) (entries : List (Entry α)) :
    itemsOf .queued (handOver n entries) = (itemsOf .queued entries).drop n := by
  induction entries generalizing n with
  | nil => cases n <;> simp [handOver, itemsOf]
  | cons entry rest ih =>
    match n with
    | 0 => rfl
    | n + 1 =>
      rw [handOver]
      by_cases h : entry.fate = .queued
      · rw [if_pos h, itemsOf_cons, itemsOf_cons, if_pos h, if_neg (by simp), ih]
        rfl
      · rw [if_neg h, itemsOf_cons, itemsOf_cons, if_neg h, ih]
        rfl

theorem Ordered.itemsOf_handed_handOver {entries : List (Entry α)} (h : Ordered entries) (n : Nat) :
    itemsOf .handed (handOver n entries) =
      itemsOf .handed entries ++ (itemsOf .queued entries).take n := by
  induction entries generalizing n with
  | nil => cases n <;> simp [handOver, itemsOf]
  | cons entry rest ih =>
    match n with
    | 0 => rw [handOver, List.take_zero, List.append_nil]
    | n + 1 =>
      rw [handOver]
      by_cases hq : entry.fate = .queued
      · have hnil := h.itemsOf_handed_eq_nil hq
        rw [if_pos hq, itemsOf_cons, itemsOf_cons, itemsOf_cons, if_pos rfl, if_pos hq,
          if_neg (by simp [hq]), ih h.of_cons, hnil]
        rfl
      · rw [if_neg hq, itemsOf_cons, itemsOf_cons, itemsOf_cons, if_neg hq, ih h.of_cons,
          List.nil_append, List.append_assoc]

theorem mem_handOver {n : Nat} {entries : List (Entry α)} {entry : Entry α}
    (h : entry ∈ handOver n entries) :
    entry ∈ entries ∨ ∃ before ∈ entries, before.fate = .queued ∧
      entry = { before with fate := .handed } := by
  induction entries generalizing n with
  | nil =>
    cases n with
    | zero => exact Or.inl h
    | succ n => exact nomatch h
  | cons first rest ih =>
    match n with
    | 0 => exact Or.inl h
    | n + 1 =>
      rw [handOver] at h
      have hmem : ∀ {m : Nat}, entry ∈ handOver m rest → entry ∈ first :: rest ∨
          ∃ before ∈ first :: rest, before.fate = .queued ∧
            entry = { before with fate := .handed } := by
        intro m hm
        rcases ih hm with hin | ⟨before, hbefore, hfate, heq⟩
        · exact Or.inl (List.mem_cons_of_mem _ hin)
        · exact Or.inr ⟨before, List.mem_cons_of_mem _ hbefore, hfate, heq⟩
      by_cases hq : first.fate = .queued
      · rw [if_pos hq] at h
        rcases List.mem_cons.mp h with heq | hin
        · exact Or.inr ⟨first, List.mem_cons_self, hq, heq⟩
        · exact hmem hin
      · rw [if_neg hq] at h
        rcases List.mem_cons.mp h with heq | hin
        · exact Or.inl (heq ▸ List.mem_cons_self)
        · exact hmem hin

/-- Handing over takes from the front, so it keeps the order. -/
theorem Ordered.handOver {entries : List (Entry α)} (h : Ordered entries) (n : Nat) :
    Ordered (handOver n entries) := by
  induction entries generalizing n with
  | nil =>
    cases n with
    | zero => exact h
    | succ n => exact List.Pairwise.nil
  | cons first rest ih =>
    match n with
    | 0 => exact h
    | n + 1 =>
      rw [FifoLedger.handOver]
      by_cases hq : first.fate = .queued
      · rw [if_pos hq]
        exact List.pairwise_cons.mpr ⟨fun other _ hqueued => (nomatch hqueued), ih h.of_cons n⟩
      · rw [if_neg hq]
        exact List.pairwise_cons.mpr ⟨fun other _ hqueued => absurd hqueued hq,
          ih h.of_cons (n + 1)⟩

theorem Settled.handOver {keep : α → Bool} {entries : List (Entry α)} (h : Settled keep entries)
    (n : Nat) : Settled keep (handOver n entries) := by
  intro entry hentry
  rcases mem_handOver hentry with hin | ⟨before, hbefore, hfate, rfl⟩
  · exact h entry hin
  · have hsettled := h before hbefore
    rw [hfate] at hsettled
    simpa using hsettled

theorem map_handOver (g : α → β) (n : Nat) (entries : List (Entry α)) :
    (handOver n entries).map (fun entry => g entry.item) =
      entries.map fun entry => g entry.item := by
  induction entries generalizing n with
  | nil => cases n <;> rfl
  | cons first rest ih =>
    match n with
    | 0 => rfl
    | n + 1 =>
      rw [handOver]
      by_cases hq : first.fate = .queued
      · rw [if_pos hq, List.map_cons, List.map_cons, ih]
      · rw [if_neg hq, List.map_cons, List.map_cons, ih]

/-! ## Editing -/

section Editing

variable {f : α → α} {keep : α → Bool}

theorem Entry.edit_of_ne {entry : Entry α} (h : entry.fate ≠ .queued) :
    entry.edit f keep = entry := if_neg h

theorem Entry.edit_of_queued {entry : Entry α} (h : entry.fate = .queued) :
    entry.edit f keep =
      { item := f entry.item, fate := if keep (f entry.item) then .queued else .dropped } :=
  if_pos h

theorem Entry.edit_fate_ne {entry : Entry α} (h : entry.fate ≠ .handed) :
    (entry.edit f keep).fate ≠ .handed := by
  by_cases hq : entry.fate = .queued
  · rw [Entry.edit_of_queued hq]
    show (if keep (f entry.item) then Fate.queued else .dropped) ≠ .handed
    split <;> exact nofun
  · rw [Entry.edit_of_ne hq]
    exact h

theorem Entry.queued_of_edit {entry : Entry α} (h : (entry.edit f keep).fate = .queued) :
    entry.fate = .queued := by
  by_contra hq
  rw [Entry.edit_of_ne hq] at h
  exact hq h

theorem itemsOf_queued_edit (entries : List (Entry α)) :
    itemsOf .queued (entries.map (Entry.edit f keep)) =
      ((itemsOf .queued entries).map f).filter keep := by
  induction entries with
  | nil => rfl
  | cons entry rest ih =>
    rw [List.map_cons, itemsOf_cons, itemsOf_cons, ih]
    by_cases hq : entry.fate = .queued
    · rw [Entry.edit_of_queued hq, if_pos hq, List.singleton_append, List.map_cons]
      by_cases hkeep : keep (f entry.item) = true
      · rw [List.filter_cons_of_pos hkeep]
        simp [hkeep]
      · rw [List.filter_cons_of_neg hkeep]
        simp [hkeep]
    · rw [Entry.edit_of_ne hq, if_neg hq, List.nil_append, List.nil_append]

theorem itemsOf_handed_edit (entries : List (Entry α)) :
    itemsOf .handed (entries.map (Entry.edit f keep)) = itemsOf .handed entries := by
  induction entries with
  | nil => rfl
  | cons entry rest ih =>
    rw [List.map_cons, itemsOf_cons, itemsOf_cons, ih]
    by_cases hq : entry.fate = .queued
    · rw [if_neg (Entry.edit_fate_ne (by simp [hq])), if_neg (by simp [hq])]
    · rw [Entry.edit_of_ne hq]

theorem Ordered.edit {entries : List (Entry α)} (h : Ordered entries) :
    Ordered (entries.map (Entry.edit f keep)) := by
  refine List.Pairwise.map _ (fun first second hpair hqueued => ?_) h
  exact Entry.edit_fate_ne (hpair (Entry.queued_of_edit hqueued))

theorem Settled.edit {entries : List (Entry α)} (h : Settled keep entries) :
    Settled keep (entries.map (Entry.edit f keep)) := by
  intro entry hentry
  obtain ⟨before, hbefore, rfl⟩ := List.mem_map.mp hentry
  by_cases hq : before.fate = .queued
  · rw [Entry.edit_of_queued hq]
    by_cases hkeep : keep (f before.item) = true
    · simp [hkeep]
    · simp [hkeep]
  · rw [Entry.edit_of_ne hq]
    exact h before hbefore

/-- What an edit leaves of each item stays on the ledger. -/
theorem map_edit {g : α → β} (hg : ∀ item, g (f item) = g item) (entries : List (Entry α)) :
    (entries.map (Entry.edit f keep)).map (fun entry => g entry.item) =
      entries.map fun entry => g entry.item := by
  rw [List.map_map]
  refine List.map_congr_left fun entry _ => ?_
  show g (entry.edit f keep).item = g entry.item
  by_cases hq : entry.fate = .queued
  · rw [Entry.edit_of_queued hq]
    exact hg entry.item
  · rw [Entry.edit_of_ne hq]

end Editing

end FifoLedger
