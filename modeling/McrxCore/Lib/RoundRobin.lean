import Mathlib

/-!
# Round-robin scans

A scan goes once round a vector from a persistent cursor, polls the entries that are
ready, and serves the first item it finds; the cursor then stands behind the served
entry.  Seen from the cursor the entries are a queue whose served entry goes to the back,
and fairness is about that queue.
-/

namespace RoundRobin

variable {ι κ ω τ ε : Type*}

/-! ## Scans -/

/-- What a scan returns and leaves, with a record of its polls by index.  The outcome is
`none` where the scan indexed out of range. -/
structure Scan (ι ω τ ε : Type*) where
  outcome : Option (Except ε (Option (Nat × τ)))
  entries : List ι
  cursor : Nat
  world : ω
  polls : List (Nat × Except ε (Option τ))

/-- A scan whose first poll found nothing. -/
def Scan.after (scan : Scan ι ω τ ε) (index : Nat) : Scan ι ω τ ε :=
  { scan with polls := (index, .ok none) :: scan.polls }

section Scan

variable (ready : ι → Bool) (poll : ι → ω → Except ε (Option τ) × ι × ω)

def indexed (entries : List ι) : List (Nat × Bool) :=
  entries.mapIdx fun index entry => (index, ready entry)

def readyIndices (entries : List ι) : List Nat :=
  ((indexed ready entries).filter Prod.snd).map Prod.fst

def next (count index : Nat) : Nat := if index + 1 = count then 0 else index + 1

/-- The part of a scan that has `remaining` entries left. -/
def scanFrom (count cursor : Nat) : Nat → Nat → List ι → ω → Scan ι ω τ ε
  | 0, _, entries, w =>
    { outcome := some (.ok none), entries := entries, cursor := cursor, world := w, polls := [] }
  | remaining + 1, index, entries, w =>
    match entries[index]? with
    | none => { outcome := none, entries := entries, cursor := cursor, world := w, polls := [] }
    | some entry =>
      if !ready entry then scanFrom count cursor remaining (next count index) entries w
      else
        match poll entry w with
        | (.ok (some item), polled, w) =>
          { outcome := some (.ok (some (index, item)))
            entries := entries.set index polled
            cursor := (index + 1) % count
            world := w
            polls := [(index, .ok (some item))] }
        | (.ok none, polled, w) =>
          (scanFrom count cursor remaining (next count index) (entries.set index polled) w).after
            index
        | (.error e, polled, w) =>
          { outcome := some (.error e)
            entries := entries.set index polled
            cursor := cursor
            world := w
            polls := [(index, .error e)] }

def scan (entries : List ι) (cursor : Nat) (w : ω) : Scan ι ω τ ε :=
  scanFrom ready poll entries.length cursor entries.length cursor entries w

end Scan

/-! ## What a scan does -/

def passed (visited : List (κ × Bool)) : List (κ × Except ε (Option τ)) :=
  (visited.filter Prod.snd).map fun entry => (entry.1, .ok none)

/-- What a scan reports for the entries it comes to, each with its readiness: it polls the
ready ones until one of them has an item or fails. -/
inductive Swept (count cursor start : Nat) : List (κ × Bool) →
    Option (Except ε (Option (κ × τ))) → List (κ × Except ε (Option τ)) → Nat → Prop
  | nothing (visited : List (κ × Bool)) :
    Swept count cursor start visited (some (.ok none)) (passed visited) cursor
  | served (before : List (κ × Bool)) (k : κ) (item : τ) (rest : List (κ × Bool)) :
    Swept count cursor start (before ++ (k, true) :: rest) (some (.ok (some (k, item))))
      (passed before ++ [(k, .ok (some item))]) ((start + before.length + 1) % count)
  | failed (before : List (κ × Bool)) (k : κ) (e : ε) (rest : List (κ × Bool)) :
    Swept count cursor start (before ++ (k, true) :: rest) (some (.error e))
      (passed before ++ [(k, .error e)]) cursor

section Swept

variable {count cursor start : Nat} {visited : List (κ × Bool)}
  {outcome : Option (Except ε (Option (κ × τ)))} {polls : List (κ × Except ε (Option τ))}
  {cursor' : Nat}

theorem next_add_mod (n : Nat) :
    (next count start + n + 1) % count = (start + (n + 1) + 1) % count := by
  unfold next
  split
  · next hend =>
    rw [show start + (n + 1) + 1 = n + 1 + count by omega, Nat.add_mod_right, Nat.zero_add]
  · congr 1
    omega

/-- An entry that is not ready is skipped. -/
theorem Swept.skip (h : Swept count cursor (next count start) visited outcome polls cursor')
    (k : κ) :
    Swept count cursor start ((k, false) :: visited) outcome polls cursor' := by
  cases h with
  | nothing => exact .nothing ((k, false) :: visited)
  | served before k' item rest =>
    rw [next_add_mod]
    exact .served ((k, false) :: before) k' item rest
  | failed before k' e rest => exact .failed ((k, false) :: before) k' e rest

/-- An entry with nothing is recorded. -/
theorem Swept.pass (h : Swept count cursor (next count start) visited outcome polls cursor')
    (k : κ) :
    Swept count cursor start ((k, true) :: visited) outcome ((k, .ok none) :: polls) cursor' := by
  cases h with
  | nothing => exact .nothing ((k, true) :: visited)
  | served before k' item rest =>
    rw [next_add_mod]
    exact .served ((k, true) :: before) k' item rest
  | failed before k' e rest => exact .failed ((k, true) :: before) k' e rest

end Swept

section Scan

variable {ready : ι → Bool} {poll : ι → ω → Except ε (Option τ) × ι × ω}

/-- Seen from index `start`, the entry there comes first. -/
theorem rotate_eq_cons {l : List ι} {start : Nat} {entry : ι} (h : l[start]? = some entry) :
    ∃ rest, l.rotate start = entry :: rest ∧ l.length = rest.length + 1 ∧
      l.rotate (next l.length start) = rest ++ [entry] := by
  obtain ⟨hlt, rfl⟩ := List.getElem?_eq_some_iff.mp h
  have hhead := List.head?_rotate hlt
  rw [h] at hhead
  obtain ⟨rest, hrest⟩ := List.head?_eq_some_iff.mp hhead
  refine ⟨rest, hrest, ?_, ?_⟩
  · rw [← List.length_rotate l start, hrest, List.length_cons]
  · have hone : l.rotate (start + 1) = rest ++ [l[start]] := by
      rw [← List.rotate_rotate, hrest, List.rotate_cons_succ, List.rotate_zero]
    unfold next
    split
    · next hend => rw [← hone, hend, List.rotate_length, List.rotate_zero]
    · exact hone

theorem next_lt {count index : Nat} (h : index < count) : next count index < count := by
  unfold next
  split <;> omega

/-- Polling changes no view of the entries that it keeps of each entry. -/
theorem map_set_eq {β : Type*} (view : ι → β) {entries : List ι} {index : Nat} {entry polled : ι}
    (hget : entries[index]? = some entry) (h : view polled = view entry) :
    (entries.set index polled).map view = entries.map view := by
  obtain ⟨hlt, rfl⟩ := List.getElem?_eq_some_iff.mp hget
  have hlt' : index < (entries.map view).length := by rwa [List.length_map]
  rw [List.map_set, h, ← List.getElem_map view (h := hlt'), List.set_getElem_self]

theorem indexed_set {entries : List ι} {index : Nat} {entry polled : ι}
    (hget : entries[index]? = some entry) (h : ready polled = ready entry) :
    indexed ready (entries.set index polled) = indexed ready entries := by
  obtain ⟨hlt, rfl⟩ := List.getElem?_eq_some_iff.mp hget
  refine List.ext_getElem? fun i => ?_
  rw [indexed, indexed, List.getElem?_mapIdx, List.getElem?_mapIdx, List.getElem?_set]
  split
  · next hi =>
    subst hi
    rw [hget, Option.map_some, Option.map_some, h]
  · rfl

theorem indexed_map {α : Type*} (f : α → ι) (entries : List α) :
    indexed ready (entries.map f) = indexed (fun entry => ready (f entry)) entries := by
  refine List.ext_getElem? fun i => ?_
  rw [indexed, indexed, List.getElem?_mapIdx, List.getElem?_mapIdx, List.getElem?_map,
    Option.map_map]
  rfl

theorem map_fst_indexed (entries : List ι) :
    (indexed ready entries).map Prod.fst = List.range entries.length := by
  refine List.ext_getElem? fun i => ?_
  rw [indexed, List.getElem?_map, List.getElem?_mapIdx]
  by_cases hi : i < entries.length
  · rw [List.getElem?_eq_getElem hi, List.getElem?_range hi]
    rfl
  · rw [List.getElem?_eq_none (Nat.le_of_not_lt hi),
      List.getElem?_eq_none (by rw [List.length_range]; exact Nat.le_of_not_lt hi)]
    rfl

/-- A scan reports on the entries from its start on, by induction on the entries left. -/
theorem scanFrom_swept (hready : ∀ entry w, ready (poll entry w).2.1 = ready entry) (cursor : Nat)
    {count remaining index : Nat} {entries : List ι} {w : ω} (hcount : entries.length = count)
    (hindex : index < count) (hremaining : remaining ≤ count) :
    let scan := scanFrom ready poll count cursor remaining index entries w
    Swept count cursor index (((indexed ready entries).rotate index).take remaining) scan.outcome
      scan.polls scan.cursor := by
  induction remaining generalizing index entries w with
  | zero => exact .nothing []
  | succ remaining ih =>
    obtain ⟨entry, hget⟩ : ∃ entry, entries[index]? = some entry :=
      ⟨_, List.getElem?_eq_getElem (hcount ▸ hindex)⟩
    have hview : (indexed ready entries)[index]? = some (index, ready entry) := by
      rw [indexed, List.getElem?_mapIdx, hget, Option.map_some]
    obtain ⟨rest, hrotate, hlength, hnext⟩ := rotate_eq_cons hview
    have hcount' : (indexed ready entries).length = count := (List.length_mapIdx).trans hcount
    rw [hcount'] at hlength hnext
    have hvisited : ((indexed ready entries).rotate (next count index)).take remaining =
        rest.take remaining := by
      rw [hnext, List.take_append_of_le_length (by omega)]
    rw [hrotate, List.take_succ_cons]
    simp only [scanFrom, hget]
    cases hr : ready entry with
    | false =>
      have hrest := ih (w := w) hcount (next_lt hindex) (by omega)
      rw [hvisited] at hrest
      exact hrest.skip _
    | true =>
      cases hpoll : poll entry w with
      | mk result left =>
        obtain ⟨polled, w'⟩ := left
        match result with
        | .ok (some item) => exact .served [] index item _
        | .error e => exact .failed [] index e _
        | .ok none =>
          have hkept : ready polled = ready entry := by
            have hr := hready entry w
            rwa [hpoll] at hr
          have hrest := @ih (next count index) (entries.set index polled) w'
            ((List.length_set ..).trans hcount) (next_lt hindex) (by omega)
          rw [indexed_set hget hkept, hvisited] at hrest
          exact hrest.pass _

/-- What every poll keeps, a scan keeps. -/
theorem scanFrom_invariant {P : List ι → ω → Prop}
    (hpoll : ∀ entries w index entry, P entries w → entries[index]? = some entry →
      ready entry = true → P (entries.set index (poll entry w).2.1) (poll entry w).2.2)
    {count cursor remaining index : Nat} {entries : List ι} {w : ω} (h : P entries w) :
    let scan := scanFrom ready poll count cursor remaining index entries w
    P scan.entries scan.world := by
  induction remaining generalizing index entries w with
  | zero => exact h
  | succ remaining ih =>
    simp only [scanFrom]
    split
    · exact h
    · next entry hget =>
      cases hr : ready entry with
      | false => exact ih h
      | true =>
        have hset := hpoll entries w index entry h hget hr
        cases hp : poll entry w with
        | mk result left =>
          obtain ⟨polled, w'⟩ := left
          rw [hp] at hset
          match result with
          | .ok (some item) => exact hset
          | .error e => exact hset
          | .ok none => exact ih hset

/-- A relation between what a scan starts from and what it returns and leaves: a scan may
end at once, with the poll that decides it, or go on after a poll that found nothing. -/
theorem scanFrom_rule {R : List ι → ω → Option (Except ε (Option τ)) → List ι → ω → Prop}
    (hdone : ∀ entries w, R entries w (some (.ok none)) entries w)
    (hstuck : ∀ entries w, R entries w none entries w)
    (hstop : ∀ entries w index entry, entries[index]? = some entry → ready entry = true →
      (poll entry w).1 ≠ .ok none →
      R entries w (some (poll entry w).1) (entries.set index (poll entry w).2.1) (poll entry w).2.2)
    (hpass : ∀ entries w index entry outcome entries' w', entries[index]? = some entry →
      ready entry = true → (poll entry w).1 = .ok none →
      R (entries.set index (poll entry w).2.1) (poll entry w).2.2 outcome entries' w' →
      R entries w outcome entries' w')
    {count cursor remaining index : Nat} {entries : List ι} {w : ω} :
    let scan := scanFrom ready poll count cursor remaining index entries w
    R entries w (scan.outcome.map fun result => result.map fun found => found.map Prod.snd)
      scan.entries scan.world := by
  induction remaining generalizing index entries w with
  | zero => exact hdone entries w
  | succ remaining ih =>
    simp only [scanFrom]
    split
    · exact hstuck entries w
    · next entry hget =>
      cases hr : ready entry with
      | false => exact ih
      | true =>
        have hstop' := hstop entries w index entry hget hr
        have hpass' := fun outcome entries' w' =>
          hpass entries w index entry outcome entries' w' hget hr
        cases hp : poll entry w with
        | mk result left =>
          obtain ⟨polled, w'⟩ := left
          rw [hp] at hstop' hpass'
          cases result with
          | error e => exact hstop' (fun h => by cases h)
          | ok found =>
            cases found with
            | some item => exact hstop' (fun h => by cases h)
            | none => exact hpass' _ _ _ rfl ih

/-- The item that a scan returns was read by the entry at its index, as far as the polls
before it keep what `view` shows of an entry. -/
theorem scanFrom_read {β : Type*} {view : ι → β}
    (hkept : ∀ entry w, view (poll entry w).2.1 = view entry) {count cursor remaining index : Nat}
    {entries : List ι} {w : ω} {i : Nat} {item : τ}
    (h : (scanFrom ready poll count cursor remaining index entries w).outcome =
      some (.ok (some (i, item)))) :
    ∃ entry w, (entries.map view)[i]? = some (view entry) ∧
      (poll entry w).1 = .ok (some item) := by
  induction remaining generalizing index entries w with
  | zero => cases h
  | succ remaining ih =>
    rw [scanFrom] at h
    split at h
    · cases h
    · next entry hget =>
      cases hr : ready entry with
      | false =>
        rw [hr] at h
        exact ih h
      | true =>
        rw [hr] at h
        have hview := hkept entry w
        cases hp : poll entry w with
        | mk result left =>
          obtain ⟨polled, w'⟩ := left
          rw [hp] at h hview
          cases result with
          | error e => cases h
          | ok found =>
            cases found with
            | some item' =>
              cases h
              refine ⟨entry, w, ?_, by rw [hp]⟩
              rw [List.getElem?_map, hget, Option.map_some]
            | none =>
              obtain ⟨entry', w'', hentry, hread⟩ := ih h
              rw [map_set_eq view hget hview] at hentry
              exact ⟨entry', w'', hentry, hread⟩

def found {α : Type*} : Except ε (Option α) → Nat
  | .ok (some _) => 1
  | .ok none => 0
  | .error _ => 0

/-- What every poll adds for what it finds, a scan adds for what it returns. -/
theorem scanFrom_count {f : ω → Nat}
    (hpoll : ∀ entry w, f (poll entry w).2.2 = f w + found (poll entry w).1)
    {count cursor remaining index : Nat} {entries : List ι} {w : ω} :
    let scan := scanFrom ready poll count cursor remaining index entries w
    f scan.world = f w + scan.outcome.elim 0 found := by
  induction remaining generalizing index entries w with
  | zero => rfl
  | succ remaining ih =>
    simp only [scanFrom]
    split
    · rfl
    · next entry hget =>
      cases hr : ready entry with
      | false => exact ih
      | true =>
        have hone := hpoll entry w
        cases hp : poll entry w with
        | mk result left =>
          obtain ⟨polled, w'⟩ := left
          rw [hp] at hone
          match result with
          | .ok (some item) => exact hone
          | .error e => exact hone
          | .ok none =>
            have hrest := @ih (next count index) (entries.set index polled) w'
            rw [show f w' = f w from hone] at hrest
            exact hrest

/-- A scan of all entries reports on each of them, from the cursor on. -/
theorem scan_swept (hready : ∀ entry w, ready (poll entry w).2.1 = ready entry)
    {entries : List ι} {cursor : Nat} (hcursor : cursor < entries.length ∨ entries = []) (w : ω) :
    let scan := scan ready poll entries cursor w
    Swept entries.length cursor cursor ((indexed ready entries).rotate cursor) scan.outcome
      scan.polls scan.cursor := by
  rcases hcursor with hcursor | rfl
  · have hscan := scanFrom_swept (w := w) hready cursor rfl hcursor (Nat.le_refl _)
    rwa [List.take_of_length_le (by rw [List.length_rotate, indexed, List.length_mapIdx])] at hscan
  · exact .nothing []

end Scan

/-! ## Entries of a queue -/

/-- Of two entries of a list, the second is the first one or stands before it, or it stands
behind it. -/
theorem split_cases {before rest ahead behind : List κ} {k x : κ}
    (h : before ++ x :: rest = ahead ++ k :: behind) :
    (∃ later, before ++ [x] = ahead ++ k :: later) ∨
      ∃ between, ahead = before ++ x :: between ∧ rest = between ++ k :: behind := by
  rcases List.append_eq_append_iff.mp h with ⟨between, hb, hr⟩ | ⟨between, hb, hr⟩
  · cases between with
    | nil =>
      obtain ⟨rfl, -⟩ := List.cons.inj hr
      exact .inl ⟨[], by rw [hb, List.append_nil]⟩
    | cons first between =>
      obtain ⟨rfl, hrest⟩ := List.cons.inj hr
      exact .inr ⟨between, hb, hrest⟩
  · cases between with
    | nil =>
      obtain ⟨rfl, -⟩ := List.cons.inj hr
      exact .inl ⟨[], by rw [hb, List.append_nil]⟩
    | cons first between =>
      obtain ⟨rfl, -⟩ := List.cons.inj hr
      exact .inl ⟨between ++ [x], by rw [hb, List.append_assoc, List.cons_append]⟩

/-- Seen from behind an entry, the entry comes last. -/
theorem rotate_behind {α : Type*} {l before rest : List α} {x : α} {cursor : Nat}
    (h : l.rotate cursor = before ++ x :: rest) :
    l.rotate ((cursor + before.length + 1) % l.length) = rest ++ before ++ [x] := by
  rw [List.rotate_mod, ← List.rotate_rotate, ← List.rotate_rotate, h,
    List.rotate_append_length_eq, List.cons_append, List.rotate_cons_succ, List.rotate_zero]

/-! ## Fairness -/

/-- Entries served in turn, seen from the cursor: nothing is served past `k`. -/
inductive Turns (k : κ) : List κ → List κ → Prop
  | nil (queue : List κ) : Turns k queue []
  | cons {before rest served : List κ} {k' : κ} (hbefore : k ∉ before)
    (h : Turns k (rest ++ before ++ [k']) served) :
    Turns k (before ++ k' :: rest) (k' :: served)

section Turns

variable {k : κ} {queue served : List κ}

/-- Until `k` is served, what is served stands before it, in order and once. -/
theorem Turns.sublist (h : Turns k queue served) (hserved : k ∉ served) {before rest : List κ}
    (hqueue : queue = before ++ k :: rest) (hbefore : k ∉ before) : served.Sublist before := by
  induction h generalizing before rest with
  | nil => exact List.nil_sublist before
  | @cons skipped rest' served k' hskipped _ ih =>
    obtain ⟨hne, hserved⟩ := not_or.mp (mt List.mem_cons.mpr hserved)
    -- The served entry is one of those before `k`.
    have hsplit : ∃ between, before = skipped ++ k' :: between ∧
        rest' = between ++ k :: rest := by
      rcases split_cases hqueue with ⟨later, hlater⟩ | hsplit
      · have hmem : k ∈ skipped ++ [k'] := hlater ▸ List.mem_append_right _ List.mem_cons_self
        rcases List.mem_append.mp hmem with hmem | hmem
        · exact absurd hmem hskipped
        · exact absurd (List.mem_singleton.mp hmem) hne
      · exact hsplit
    obtain ⟨between, rfl, rfl⟩ := hsplit
    have hbetween : k ∉ between := fun hmem =>
      hbefore (List.mem_append_right _ (List.mem_cons_of_mem _ hmem))
    have hqueue' : between ++ k :: rest ++ skipped ++ [k'] =
        between ++ k :: (rest ++ skipped ++ [k']) := by
      simp only [List.append_assoc, List.cons_append]
    have hrest := ih hserved hqueue' hbetween
    exact (hrest.cons_cons k').trans (List.sublist_append_right skipped _)

theorem Turns.early {late : List κ} (h : Turns k queue (served ++ late)) :
    Turns k queue served := by
  induction served generalizing queue with
  | nil => exact .nil queue
  | cons k' served ih =>
    cases h with
    | cons hbefore h => exact .cons hbefore (ih h)

theorem Turns.late {early : List κ} (h : Turns k queue (early ++ served)) :
    ∃ queue', queue'.Perm queue ∧ Turns k queue' served := by
  induction early generalizing queue with
  | nil => exact ⟨queue, .refl queue, h⟩
  | cons k' early ih =>
    cases h with
    | @cons before rest _ _ _ h =>
      obtain ⟨queue', hperm, hturns⟩ := ih h
      refine ⟨queue', hperm.trans ?_, hturns⟩
      rw [List.append_assoc]
      calc (rest ++ (before ++ [k'])).Perm (before ++ [k'] ++ rest) := List.perm_append_comm
        _ = before ++ k' :: rest := by rw [List.append_assoc, List.singleton_append]

/-- `k` has its turn before the queue has gone round. -/
theorem Turns.mem_take (h : Turns k queue served) (hmem : k ∈ queue)
    (hlength : queue.length ≤ served.length) : k ∈ served.take queue.length := by
  by_contra hnot
  obtain ⟨before, rest, hqueue, hbefore⟩ := List.eq_append_cons_of_mem hmem
  have hturns : Turns k queue (served.take queue.length) :=
    @Turns.early _ _ _ _ (served.drop queue.length) (by rwa [List.take_append_drop])
  have hle := (hturns.sublist hnot hqueue hbefore).length_le
  have hlt : before.length < queue.length := by
    rw [hqueue, List.length_append, List.length_cons]
    omega
  rw [List.length_take_of_le hlength] at hle
  omega

/-- Between two turns of `k` every other entry has one at most. -/
theorem Turns.nodup (h : Turns k queue served) (hmem : k ∈ queue) (hqueue : queue.Nodup)
    {early between late : List κ} (hserved : served = early ++ (between ++ late))
    (hbetween : k ∉ between) : between.Nodup := by
  rw [hserved] at h
  obtain ⟨queue', hperm, h⟩ := h.late
  obtain ⟨before, rest, hsplit, hbefore⟩ := List.eq_append_cons_of_mem (hperm.mem_iff.mpr hmem)
  have hnodup : (before ++ k :: rest).Nodup := hsplit ▸ hperm.nodup_iff.mpr hqueue
  exact (List.nodup_append.mp hnodup).1.sublist (h.early.sublist hbetween hsplit hbefore)

end Turns

section Swept

variable {entries : List (κ × Bool)} {cursor cursor' : Nat} {k : κ}
  {outcome : Option (Except ε (Option (κ × τ)))} {polls : List (κ × Except ε (Option τ))}

theorem mem_passed {visited : List (κ × Bool)} (h : (k, true) ∈ visited) :
    (k, .ok none) ∈ (passed visited : List (κ × Except ε (Option τ))) :=
  List.mem_map.mpr ⟨(k, true), List.mem_filter.mpr ⟨h, rfl⟩, rfl⟩

theorem Swept.outcome_ne_none {count start : Nat} {visited : List (κ × Bool)}
    (h : Swept count cursor start visited outcome polls cursor') : outcome ≠ none := by
  cases h <;> exact nofun

/-- A scan that fails or finds nothing leaves the cursor, and any scan keeps it in range. -/
theorem Swept.cursor_lt {count start : Nat} {visited : List (κ × Bool)}
    (h : Swept count cursor start visited outcome polls cursor') (hcursor : cursor < count) :
    cursor' < count := by
  cases h with
  | nothing => exact hcursor
  | served => exact Nat.mod_lt _ (Nat.zero_lt_of_lt hcursor)
  | failed => exact hcursor

/-- A scan that finds nothing polled every ready entry once. -/
theorem Swept.polls_eq {count start : Nat} {visited : List (κ × Bool)}
    (h : Swept count cursor start visited (some (.ok none)) polls cursor') :
    polls = passed visited := by
  cases h with
  | nothing => rfl

/-- An entry that is ready and would be found keeps its place until it is served. -/
theorem Swept.turn (h : Swept entries.length cursor cursor (entries.rotate cursor) outcome polls
      cursor') (hnodup : (entries.map Prod.fst).Nodup) (hmem : (k, true) ∈ entries)
    (hfound : (k, .ok none) ∉ polls) (hfailed : ∀ e, outcome ≠ some (.error e)) :
    ∃ before k' item rest, outcome = some (.ok (some (k', item))) ∧ k ∉ before ∧
      (entries.map Prod.fst).rotate cursor = before ++ k' :: rest ∧
      (entries.map Prod.fst).rotate cursor' = rest ++ before ++ [k'] := by
  generalize hvisited : entries.rotate cursor = visited at h
  have hmem' : (k, true) ∈ visited := hvisited ▸ List.mem_rotate.mpr hmem
  have hkeys : (entries.map Prod.fst).rotate cursor = visited.map Prod.fst := by
    rw [← List.map_rotate, hvisited]
  cases h with
  | nothing => exact absurd (mem_passed hmem') hfound
  | failed before k' e rest => exact absurd rfl (hfailed e)
  | served before k' item rest =>
    refine ⟨before.map Prod.fst, k', item, rest.map Prod.fst, rfl, fun hk => ?_, ?_, ?_⟩
    · -- `k` is ready wherever it stands, so it would have been polled.
      obtain ⟨⟨k'', flag⟩, hb, rfl⟩ := List.mem_map.mp hk
      have hb' : (k'', flag) ∈ entries :=
        List.mem_rotate.mp (hvisited ▸ List.mem_append_left _ hb)
      have hflag : (k'', flag) = (k'', true) := List.inj_on_of_nodup_map hnodup hb' hmem rfl
      exact hfound (List.mem_append_left _ (mem_passed (hflag ▸ hb)))
    · rw [hkeys, List.map_append, List.map_cons]
    · rw [List.map_append, List.map_cons] at hkeys
      have hbehind := rotate_behind hkeys
      rwa [List.length_map, List.length_map] at hbehind

end Swept

/-! ## What stands ahead of an entry -/

section Ahead

variable {k : κ} {entries : List (κ × Bool)} {cursor cursor' : Nat}
  {outcome : Option (Except ε (Option (κ × τ)))} {polls : List (κ × Except ε (Option τ))}

/-- The ready entries in the order in which a scan from the cursor comes to them. -/
def readyQueue (entries : List (κ × Bool)) (cursor : Nat) : List κ :=
  ((entries.rotate cursor).filter Prod.snd).map Prod.fst

/-- What stands before the first occurrence. -/
theorem before_unique {ahead behind before after : List κ}
    (h : ahead ++ k :: behind = before ++ k :: after) (hahead : k ∉ ahead) (hbefore : k ∉ before) :
    ahead = before := by
  rcases split_cases h with ⟨later, hlater⟩ | ⟨between, hsplit, -⟩
  · rcases List.eq_nil_or_concat later with rfl | ⟨later, last, rfl⟩
    · exact (List.append_inj' hlater rfl).1
    · rw [List.concat_eq_append, ← List.cons_append, ← List.append_assoc] at hlater
      obtain ⟨rfl, -⟩ := List.append_inj' hlater rfl
      exact absurd (List.mem_append_right _ List.mem_cons_self) hahead
  · exact absurd (hsplit ▸ List.mem_append_right _ List.mem_cons_self) hbefore

theorem map_fst_passed (visited : List (κ × Bool)) :
    (passed visited : List (κ × Except ε (Option τ))).map Prod.fst =
      (visited.filter Prod.snd).map Prod.fst := by
  rw [passed, List.map_map]
  rfl

/-- What a scan polls is ready. -/
theorem Swept.ready_of_polled {count start : Nat} {visited : List (κ × Bool)}
    (h : Swept count cursor start visited outcome polls cursor') (hmem : k ∈ polls.map Prod.fst) :
    k ∈ (visited.filter Prod.snd).map Prod.fst := by
  cases h with
  | nothing => rwa [map_fst_passed] at hmem
  | served before k' item rest | failed before k' e rest =>
    rw [List.map_append, map_fst_passed] at hmem
    rw [List.filter_append, List.map_append, List.filter_cons_of_pos rfl, List.map_cons]
    rcases List.mem_append.mp hmem with hmem | hmem
    · exact List.mem_append_left _ hmem
    · rw [List.mem_singleton.mp hmem]
      exact List.mem_append_right _ List.mem_cons_self

theorem not_mem_passed {visited : List (κ × Bool)} {result : Except ε (Option τ)}
    (h : result ≠ .ok none) : (k, result) ∉ passed visited := by
  intro hmem
  obtain ⟨_, -, heq⟩ := List.mem_map.mp hmem
  exact h (Prod.mk.inj heq).2.symm

/-- A poll that finds an item ends the scan. -/
theorem Swept.served_of_polled {count start : Nat} {visited : List (κ × Bool)} {item : τ}
    (h : Swept count cursor start visited outcome polls cursor')
    (hmem : (k, .ok (some item)) ∈ polls) : outcome = some (.ok (some (k, item))) := by
  have hnot : (.ok (some item) : Except ε (Option τ)) ≠ .ok none := fun heq => (by cases heq)
  cases h with
  | nothing => exact absurd hmem (not_mem_passed hnot)
  | served before k' item' rest =>
    rcases List.mem_append.mp hmem with hmem | hmem
    · exact absurd hmem (not_mem_passed hnot)
    · cases List.mem_singleton.mp hmem
      rfl
  | failed before k' e rest =>
    rcases List.mem_append.mp hmem with hmem | hmem
    · exact absurd hmem (not_mem_passed hnot)
    · cases List.mem_singleton.mp hmem

/-- A poll that fails ends the scan, and leaves the cursor. -/
theorem Swept.failed_of_polled {count start : Nat} {visited : List (κ × Bool)} {e : ε}
    (h : Swept count cursor start visited outcome polls cursor') (hmem : (k, .error e) ∈ polls) :
    cursor' = cursor ∧ ∃ before after, polls.map Prod.fst = before ++ [k] ∧
      (visited.filter Prod.snd).map Prod.fst = before ++ k :: after := by
  have hnot : (.error e : Except ε (Option τ)) ≠ .ok none := fun heq => (by cases heq)
  cases h with
  | nothing => exact absurd hmem (not_mem_passed hnot)
  | served before k' item rest =>
    rcases List.mem_append.mp hmem with hmem | hmem
    · exact absurd hmem (not_mem_passed hnot)
    · cases List.mem_singleton.mp hmem
  | failed before k' e' rest =>
    rcases List.mem_append.mp hmem with hmem | hmem
    · exact absurd hmem (not_mem_passed hnot)
    · cases List.mem_singleton.mp hmem
      refine ⟨rfl, (before.filter Prod.snd).map Prod.fst, (rest.filter Prod.snd).map Prod.fst,
        ?_, ?_⟩
      · rw [List.map_append, map_fst_passed]
        rfl
      · rw [List.filter_append, List.map_append, List.filter_cons_of_pos rfl, List.map_cons]

/-- A scan comes to `k` after everything ahead of it, or stops ahead of `k` and leaves
ahead of it what it did not poll. -/
theorem Swept.ahead
    (h : Swept entries.length cursor cursor (entries.rotate cursor) outcome polls cursor')
    {ahead behind : List κ} (hqueue : readyQueue entries cursor = ahead ++ k :: behind) :
    (∃ later, polls.map Prod.fst = ahead ++ k :: later) ∨
      ∃ ahead' behind', readyQueue entries cursor' = ahead' ++ k :: behind' ∧
        ∀ other, other ∈ ahead ↔ other ∈ polls.map Prod.fst ∨ other ∈ ahead' := by
  rw [readyQueue] at hqueue
  generalize hvisited : entries.rotate cursor = visited at h hqueue
  cases h with
  | nothing => exact .inl ⟨behind, (map_fst_passed visited).trans hqueue⟩
  | served before k' item rest =>
    rw [List.filter_append, List.map_append, List.filter_cons_of_pos rfl, List.map_cons] at hqueue
    rw [List.map_append, map_fst_passed]
    rcases split_cases hqueue with hpolled | ⟨between, rfl, hrest⟩
    · exact .inl hpolled
    · refine .inr ⟨between, behind ++ ((before.filter Prod.snd).map Prod.fst ++ [k']), ?_,
        fun other => ?_⟩
      · rw [readyQueue, rotate_behind hvisited, List.filter_append, List.filter_append,
          List.filter_cons_of_pos rfl, List.filter_nil, List.map_append, List.map_append, hrest,
          List.append_assoc, List.append_assoc, List.cons_append]
        rfl
      · rw [← List.mem_append, List.append_assoc]
        rfl
  | failed before k' e rest =>
    rw [List.filter_append, List.map_append, List.filter_cons_of_pos rfl, List.map_cons] at hqueue
    rw [List.map_append, map_fst_passed]
    rcases split_cases hqueue with hpolled | ⟨between, rfl, hrest⟩
    · exact .inl hpolled
    · -- The cursor stays, so the next scan meets the same entries.
      refine .inr ⟨(before.filter Prod.snd).map Prod.fst ++ k' :: between, behind, ?_,
        fun other => ?_⟩
      · rw [readyQueue, hvisited, List.filter_append, List.map_append,
          List.filter_cons_of_pos rfl, List.map_cons, hqueue]
      · refine ⟨Or.inr, fun hmem => hmem.elim (fun hmem => ?_) id⟩
        rw [List.append_cons]
        exact List.mem_append_left _ hmem

end Ahead

/-! ## Removing an entry -/

section Remove

variable [DecidableEq κ] {k : κ} {entries : List κ} {cursor : Nat}

/-- The removal of `k` costs no other entry its turn: the next entry stays the next one, or
is the successor of `k`, and the others keep their cyclic order. -/
structure KeepsTurns (k : κ) (entries : List κ) (cursor : Nat) (entries' : List κ)
    (cursor' : Nat) : Prop where
  others : ∀ current, entries[cursor]? = some current → current ≠ k →
    entries'[cursor']? = some current
  successor : entries[cursor]? = some k →
    ∀ following, entries[(cursor + 1) % entries.length]? = some following → following ≠ k →
      entries'[cursor']? = some following
  order : entries' ~r entries.erase k

/-- What stands at an index after a removal. -/
theorem getElem?_erase (i : Nat) :
    (entries.erase k)[i]? = if i < entries.idxOf k then entries[i]? else entries[i + 1]? := by
  rw [List.erase_eq_eraseIdx_of_idxOf rfl, List.getElem?_eraseIdx]

theorem getElem?_idxOf_of_mem (hmem : k ∈ entries) : entries[entries.idxOf k]? = some k := by
  rw [List.getElem?_eq_getElem (List.idxOf_lt_length_iff.mpr hmem), List.getElem_idxOf]

/-- A removal at the cursor or behind it. -/
theorem keepsTurns_of_le (hnodup : entries.Nodup) (hcursor : cursor < entries.length)
    (hle : cursor ≤ entries.idxOf k) (hmem : k ∈ entries) :
    KeepsTurns k entries cursor (entries.erase k) (cursor % (entries.erase k).length) := by
  have hlength : (entries.erase k).length = entries.length - 1 := List.length_erase_of_mem hmem
  have hidx : entries.idxOf k < entries.length := List.idxOf_lt_length_iff.mpr hmem
  have hk := getElem?_idxOf_of_mem hmem
  refine ⟨fun current hcurrent hne => ?_, fun hcurrent following hfollowing hne => ?_,
    List.IsRotated.refl _⟩
  · have hless : cursor < entries.idxOf k := by
      refine Nat.lt_of_le_of_ne hle fun heq => hne ?_
      rw [heq, hk] at hcurrent
      exact (Option.some.inj hcurrent).symm
    rw [Nat.mod_eq_of_lt (by omega), getElem?_erase, if_pos hless, hcurrent]
  · have heq : cursor = entries.idxOf k :=
      (List.getElem?_inj hcursor hnodup).mp (hcurrent.trans hk.symm)
    by_cases hlast : cursor + 1 = entries.length
    · rw [hlast, Nat.mod_self] at hfollowing
      have hpos : 0 < entries.idxOf k := by
        refine Nat.pos_of_ne_zero fun hzero => hne ?_
        rw [← hzero, hk] at hfollowing
        exact (Option.some.inj hfollowing).symm
      rw [hlength, ← hlast, Nat.add_sub_cancel, Nat.mod_self, getElem?_erase, if_pos hpos,
        hfollowing]
    · rw [Nat.mod_eq_of_lt (by omega)] at hfollowing
      rw [Nat.mod_eq_of_lt (by omega), getElem?_erase, if_neg (by omega), hfollowing]

/-- A removal before the cursor: the entry at the cursor moves, and the cursor stays. -/
theorem keepsTurns_iff_of_lt (hnodup : entries.Nodup) (hcursor : cursor < entries.length)
    (hlt : entries.idxOf k < cursor) (hmem : k ∈ entries) :
    KeepsTurns k entries cursor (entries.erase k) (cursor % (entries.erase k).length) ↔
      entries.length ≤ 2 := by
  have hlength : (entries.erase k).length = entries.length - 1 := List.length_erase_of_mem hmem
  have hk := getElem?_idxOf_of_mem hmem
  have hcurrent : entries[cursor]? = some entries[cursor] := List.getElem?_eq_getElem hcursor
  have hne : entries[cursor] ≠ k := by
    intro heq
    rw [heq] at hcurrent
    have hsame := (List.getElem?_inj hcursor hnodup).mp (hcurrent.trans hk.symm)
    omega
  constructor
  · intro h
    have hnext := (h.others _ hcurrent hne).trans hcurrent.symm
    rw [getElem?_erase] at hnext
    split at hnext
    · have hsame := (List.getElem?_inj hcursor hnodup).mp hnext.symm
      omega
    · have hsame := (List.getElem?_inj hcursor hnodup).mp hnext.symm
      by_cases hlast : cursor < (entries.erase k).length
      · rw [Nat.mod_eq_of_lt hlast] at hsame
        omega
      · -- The cursor was at the last entry, and is at the first now.
        rw [show cursor = (entries.erase k).length by omega, Nat.mod_self] at hsame
        omega
  · intro htwo
    refine ⟨fun current h _ => ?_, fun h => absurd (hcurrent.symm.trans h) fun heq =>
      hne (Option.some.inj heq), List.IsRotated.refl _⟩
    have hone : cursor = 1 := by omega
    rw [hlength, show entries.length - 1 = 1 by omega, Nat.mod_one, getElem?_erase,
      if_neg (by omega), ← h, hone]

theorem keepsTurns_iff (hnodup : entries.Nodup) (hcursor : cursor < entries.length)
    (hmem : k ∈ entries) :
    KeepsTurns k entries cursor (entries.erase k) (cursor % (entries.erase k).length) ↔
      cursor ≤ entries.idxOf k ∨ entries.length ≤ 2 := by
  rcases Nat.lt_or_ge (entries.idxOf k) cursor with hlt | hle
  · rw [keepsTurns_iff_of_lt hnodup hcursor hlt hmem]
    exact ⟨Or.inr, fun h => h.resolve_left (Nat.not_le.mpr hlt)⟩
  · exact ⟨fun _ => .inl hle, fun _ => keepsTurns_of_le hnodup hcursor hle hmem⟩

end Remove

end RoundRobin
