import McrxCore.Python.RecvAsync

/-!
# Awaited receives, in any order

Whatever order the calls run in, and however their awaits end: each descriptor that was
duplicated is closed once by the call that waits on it, and each packet that was taken is
returned by the call that took it.
-/

namespace McrxCore

namespace Python

namespace Receivers

def Waits (r : Receivers) (i : Nat) (fd : Fd) : Prop :=
  ∃ done, (r.calls i).state = .waiting fd done

/-- The call owes nothing: it neither waits nor has it returned a packet. -/
def idle : RecvState → Bool
  | .waiting _ _ | .returned _ => false
  | .created | .running | .sleeping | .raised _ => true

/-- The descriptors held are those of the calls that wait, each with its reader, and the
refused ones; the packets taken are those returned, one by each call that returned. -/
structure Conserved (r : Receivers) : Prop where
  disciplined : Handles.Disciplined r.descriptors
  held : ∀ fd, fd ∈ Handles.held r.descriptors ↔ fd ∈ r.refused ∨ ∃ i, r.Waits i fd
  unique : ∀ i j fd, r.Waits i fd → r.Waits j fd → i = j
  kept : ∀ i fd, r.Waits i fd → fd ∉ r.refused
  readers : ∀ fd i, (fd, i) ∈ r.readers ↔ r.loopClosed = false ∧ r.Waits i fd
  supported : ∀ i fd, r.Waits i fd → r.readerSupport = .supported
  taken : ∀ i packet, (i, packet) ∈ r.taken ↔ (r.calls i).state = .returned packet
  once : (r.taken.map Prod.fst).Nodup

theorem conserved_start (subscription : Subscription) (loopClosed : Bool)
    (readerSupport : ReaderSupport) :
    Conserved (start subscription loopClosed readerSupport) := by
  have hwaits : ∀ i fd, ¬ (start subscription loopClosed readerSupport).Waits i fd := by
    rintro i fd ⟨done, hstate⟩
    cases hstate
  refine ⟨Handles.disciplined_nil, ?_, ?_, ?_, ?_, ?_, ?_, List.nodup_nil⟩
  · intro fd
    refine iff_of_false (List.not_mem_nil) ?_
    rintro (hmem | ⟨i, hi⟩)
    · cases hmem
    · exact hwaits i fd hi
  · exact fun i j fd hi => absurd hi (hwaits i fd)
  · exact fun i fd hi => absurd hi (hwaits i fd)
  · exact fun fd i => iff_of_false List.not_mem_nil fun h => hwaits i fd h.2
  · exact fun i fd hi => absurd hi (hwaits i fd)
  · exact fun i packet => iff_of_false List.not_mem_nil fun h => by cases h

variable {r r' : Receivers} {i : Nat} {fd : Fd}

/-! ## Changes of one call -/

theorem setState_self (r : Receivers) (i : Nat) (state : RecvState) :
    ((r.setState i state).calls i).state = state := by
  simp [setState]

theorem setState_of_ne {j : Nat} (h : j ≠ i) (r : Receivers) (state : RecvState) :
    (r.setState i state).calls j = r.calls j := by
  rw [setState]
  exact Function.update_of_ne h _ _

theorem setSelectorAvailable_state (r : Receivers) (i j : Nat) (available : Bool) :
    ((r.setSelectorAvailable i available).calls j).state = (r.calls j).state := by
  by_cases h : j = i
  · subst h
    simp [setSelectorAvailable]
  · rw [setSelectorAvailable]
    exact congrArg RecvCall.state (Function.update_of_ne h _ _)

/-- The invariant sees of a call what it waits on and what it returned. -/
theorem Conserved.congr (h : Conserved r) (hwaits : ∀ i fd, r'.Waits i fd ↔ r.Waits i fd)
    (hreturned : ∀ i packet,
      (r'.calls i).state = .returned packet ↔ (r.calls i).state = .returned packet)
    (hdescriptors : r'.descriptors = r.descriptors) (hrefused : r'.refused = r.refused)
    (hreaders : r'.readers = r.readers) (hclosed : r'.loopClosed = r.loopClosed)
    (hsupport : r'.readerSupport = r.readerSupport) (htaken : r'.taken = r.taken) :
    Conserved r' := by
  refine ⟨?_, ?_, ?_, ?_, ?_, ?_, ?_, ?_⟩
  · rw [hdescriptors]
    exact h.disciplined
  · intro fd
    rw [hdescriptors, hrefused, h.held]
    simp only [hwaits]
  · intro i j fd hi hj
    exact h.unique i j fd ((hwaits i fd).mp hi) ((hwaits j fd).mp hj)
  · intro i fd hi
    rw [hrefused]
    exact h.kept i fd ((hwaits i fd).mp hi)
  · intro fd i
    rw [hreaders, hclosed, hwaits]
    exact h.readers fd i
  · intro i fd hi
    rw [hsupport]
    exact h.supported i fd ((hwaits i fd).mp hi)
  · intro i packet
    rw [htaken, hreturned]
    exact h.taken i packet
  · rw [htaken]
    exact h.once

theorem Conserved.setSelectorAvailable (h : Conserved r) (i : Nat) (available : Bool) :
    Conserved (r.setSelectorAvailable i available) := by
  apply h.congr
  · intro j fd
    simp only [Waits, setSelectorAvailable_state]
  · intro j packet
    rw [setSelectorAvailable_state]
  all_goals rfl

theorem not_waits_of_idle (h : idle (r.calls i).state = true) (fd : Fd) : ¬ r.Waits i fd := by
  rintro ⟨done, hdone⟩
  rw [hdone] at h
  cases h

theorem not_returned_of_idle {state : RecvState} (h : idle state = true) (packet : Packet) :
    state ≠ .returned packet := by
  rintro rfl
  cases h

/-- A call that owes nothing goes on to owe nothing. -/
theorem Conserved.setState (h : Conserved r) (hidle : idle (r.calls i).state = true)
    {state : RecvState} (hstate : idle state = true) : Conserved (r.setState i state) := by
  apply h.congr
  · intro j fd
    by_cases hj : j = i
    · subst hj
      refine iff_of_false (not_waits_of_idle ?_ fd) (not_waits_of_idle hidle fd)
      rw [setState_self]
      exact hstate
    · simp only [Waits, setState_of_ne hj]
  · intro j packet
    by_cases hj : j = i
    · subst hj
      rw [setState_self]
      exact iff_of_false (not_returned_of_idle hstate packet) (not_returned_of_idle hidle packet)
    · rw [setState_of_ne hj]
  all_goals rfl

theorem Conserved.remove (h : Conserved r) :
    Conserved { r with subscription := { r.subscription with removed := true } } :=
  ⟨h.disciplined, h.held, h.unique, h.kept, h.readers, h.supported, h.taken, h.once⟩

theorem Conserved.loopClose (h : Conserved r) :
    Conserved { r with loopClosed := true, readers := [] } := by
  refine ⟨h.disciplined, h.held, h.unique, h.kept, ?_, h.supported, h.taken, h.once⟩
  intro fd i
  exact iff_of_false List.not_mem_nil fun hopen => Bool.false_ne_true hopen.1.symm

theorem onReady_cases (r : Receivers) (fd : Fd) (i : Nat) :
    r.onReady fd i = r ∨
      r.Waits i fd ∧ r.onReady fd i = r.setState i (.waiting fd true) := by
  unfold onReady
  split
  next readerFd done hwaiting =>
    split
    next heq =>
      subst heq
      exact .inr ⟨⟨done, hwaiting⟩, rfl⟩
    next => exact .inl rfl
  next => exact .inl rfl

theorem Conserved.onReady (h : Conserved r) (fd : Fd) (i : Nat) : Conserved (r.onReady fd i) := by
  rcases onReady_cases r fd i with heq | ⟨⟨done, hwaits⟩, heq⟩
  · rw [heq]
    exact h
  · rw [heq]
    apply h.congr
    · intro j fd'
      by_cases hj : j = i
      · subst hj
        simp only [Waits, setState_self, hwaits, RecvState.waiting.injEq]
        constructor
        · rintro ⟨d, hfd, _⟩
          exact ⟨done, hfd, rfl⟩
        · rintro ⟨d, hfd, _⟩
          exact ⟨true, hfd, rfl⟩
      · simp only [Waits, setState_of_ne hj]
    · intro j packet
      by_cases hj : j = i
      · subst hj
        rw [setState_self, hwaits]
        exact iff_of_false (fun h => by cases h) (fun h => by cases h)
      · rw [setState_of_ne hj]
    all_goals rfl

/-! ## Descriptors -/

theorem closeReaderFd_supported (hsupport : r.readerSupport = .supported) (fd : Fd) :
    r.closeReaderFd fd =
      (.ok (), { r with
        readers := if r.loopClosed then r.readers else r.readers.filter (·.1 ≠ fd)
        descriptors := r.descriptors ++ [.release fd] }) := by
  cases hclosed : r.loopClosed with
  | true => simp [closeReaderFd, removeReaderFd, hclosed]
  | false => simp [closeReaderFd, removeReaderFd, hclosed, hsupport]

theorem Waits.eq {fd' : Fd} (h : r.Waits i fd) (h' : r.Waits i fd') : fd = fd' := by
  obtain ⟨done, hdone⟩ := h
  obtain ⟨done', hdone'⟩ := h'
  rw [hdone] at hdone'
  cases hdone'
  rfl

/-- The end of a wait releases what the call held. -/
theorem Conserved.endWait (h : Conserved r) (hwaits : r.Waits i fd) :
    ∃ r', (r.setState i .running).closeReaderFd fd = (.ok (), r') ∧ Conserved r' ∧
      idle (r'.calls i).state = true := by
  have hsupport : (r.setState i .running).readerSupport = .supported := h.supported i fd hwaits
  have hheld : fd ∈ Handles.held r.descriptors := (h.held fd).mpr (.inr ⟨i, hwaits⟩)
  have hdisciplined : Handles.Disciplined (r.descriptors ++ [.release fd]) :=
    h.disciplined.append hheld
  refine ⟨_, closeReaderFd_supported hsupport fd, ?_, ?_⟩
  · have hother : ∀ j fd', (r.setState i .running).Waits j fd' ↔ j ≠ i ∧ r.Waits j fd' := by
      intro j fd'
      by_cases hj : j = i
      · subst hj
        simp [Waits, setState_self]
      · simp [Waits, setState_of_ne hj, hj]
    refine ⟨hdisciplined, ?_, ?_, ?_, ?_, ?_, ?_, h.once⟩
    · intro fd'
      show fd' ∈ Handles.held (r.descriptors ++ [.release fd]) ↔
        fd' ∈ r.refused ∨ ∃ j, (r.setState i .running).Waits j fd'
      rw [h.disciplined.mem_held_release, h.held]
      simp only [hother]
      constructor
      · rintro ⟨hne, hrefused | ⟨j, hj⟩⟩
        · exact .inl hrefused
        · refine .inr ⟨j, ?_, hj⟩
          rintro rfl
          exact hne (hj.eq hwaits)
      · rintro (hrefused | ⟨j, hne, hj⟩)
        · refine ⟨?_, .inl hrefused⟩
          rintro rfl
          exact h.kept i fd' hwaits hrefused
        · refine ⟨?_, .inr ⟨j, hj⟩⟩
          rintro rfl
          exact hne (h.unique j i fd' hj hwaits)
    · intro j k fd' hj hk
      exact h.unique j k fd' ((hother j fd').mp hj).2 ((hother k fd').mp hk).2
    · intro j fd' hj
      exact h.kept j fd' ((hother j fd').mp hj).2
    · intro fd' j
      show (fd', j) ∈ (if r.loopClosed then r.readers else r.readers.filter (·.1 ≠ fd)) ↔
        r.loopClosed = false ∧ (r.setState i .running).Waits j fd'
      rw [hother]
      cases hclosed : r.loopClosed with
      | true =>
        rw [if_pos rfl, h.readers, hclosed]
        simp
      | false =>
        rw [if_neg Bool.false_ne_true, List.mem_filter, h.readers, hclosed]
        simp only [ne_eq, decide_not, Bool.not_eq_true', decide_eq_false_iff_not, true_and]
        constructor
        · rintro ⟨hj, hne⟩
          refine ⟨?_, hj⟩
          rintro rfl
          exact hne (hj.eq hwaits)
        · rintro ⟨hne, hj⟩
          refine ⟨hj, ?_⟩
          rintro rfl
          exact hne (h.unique j i fd' hj hwaits)
    · intro j fd' hj
      exact h.supported j fd' ((hother j fd').mp hj).2
    · intro j packet
      show (j, packet) ∈ r.taken ↔ ((r.setState i .running).calls j).state = .returned packet
      rw [h.taken]
      by_cases hj : j = i
      · subst hj
        obtain ⟨done, hdone⟩ := hwaits
        rw [setState_self, hdone]
        exact iff_of_false (fun h => by cases h) (fun h => by cases h)
      · rw [setState_of_ne hj]
  · show idle ((r.setState i .running).calls i).state = true
    rw [setState_self]
    rfl

/-- A call that owes nothing waits on a descriptor that is new. -/
theorem Conserved.wait (h : Conserved r) (hidle : idle (r.calls i).state = true)
    (hnew : fd ∉ Handles.held r.descriptors) (hopen : r.loopClosed = false)
    (hsupport : r.readerSupport = .supported) :
    Conserved ({ r.dup fd with
      readers := (fd, i) :: r.readers.filter (·.1 ≠ fd) }.setState i (.waiting fd false)) := by
  have hfree : ∀ j, ¬ r.Waits j fd := fun j hj => hnew ((h.held fd).mpr (.inr ⟨j, hj⟩))
  have hwaits : ∀ j fd', ({ r.dup fd with
      readers := (fd, i) :: r.readers.filter (·.1 ≠ fd) }.setState i (.waiting fd false)).Waits
        j fd' ↔ (j = i ∧ fd' = fd) ∨ r.Waits j fd' := by
    intro j fd'
    by_cases hj : j = i
    · subst hj
      have hnot := not_waits_of_idle hidle fd'
      simp only [Waits, setState_self, RecvState.waiting.injEq]
      constructor
      · rintro ⟨done, heq, _⟩
        exact .inl ⟨trivial, heq.symm⟩
      · rintro (⟨_, heq⟩ | hold)
        · exact ⟨false, heq.symm, rfl⟩
        · exact absurd hold hnot
    · simp only [Waits, setState_of_ne hj, hj, false_and, false_or]
      rfl
  refine ⟨h.disciplined.append hnew, ?_, ?_, ?_, ?_, ?_, ?_, h.once⟩
  · intro fd'
    show fd' ∈ Handles.held (r.descriptors ++ [.acquire fd]) ↔ fd' ∈ r.refused ∨ _
    rw [Handles.mem_held_acquire, h.held]
    simp only [hwaits]
    constructor
    · rintro (heq | hrefused | ⟨j, hj⟩)
      · exact .inr ⟨i, .inl ⟨rfl, heq⟩⟩
      · exact .inl hrefused
      · exact .inr ⟨j, .inr hj⟩
    · rintro (hrefused | ⟨j, ⟨_, heq⟩ | hj⟩)
      · exact .inr (.inl hrefused)
      · exact .inl heq
      · exact .inr (.inr ⟨j, hj⟩)
  · intro j k fd' hj hk
    rcases (hwaits j fd').mp hj with ⟨rfl, rfl⟩ | hjOld
    · rcases (hwaits k fd').mp hk with ⟨rfl, _⟩ | hkOld
      · rfl
      · exact absurd hkOld (hfree k)
    · rcases (hwaits k fd').mp hk with ⟨rfl, rfl⟩ | hkOld
      · exact absurd hjOld (hfree j)
      · exact h.unique j k fd' hjOld hkOld
  · intro j fd' hj
    rcases (hwaits j fd').mp hj with ⟨rfl, rfl⟩ | hj
    · exact fun hrefused => hnew ((h.held fd').mpr (.inl hrefused))
    · exact h.kept j fd' hj
  · intro fd' j
    show (fd', j) ∈ (fd, i) :: r.readers.filter (·.1 ≠ fd) ↔ r.loopClosed = false ∧ _
    rw [hwaits, List.mem_cons, List.mem_filter, h.readers, Prod.mk.injEq]
    simp only [hopen, true_and, ne_eq, decide_not, Bool.not_eq_true', decide_eq_false_iff_not]
    constructor
    · rintro (⟨hfd, hj⟩ | ⟨hj, _⟩)
      · exact .inl ⟨hj, hfd⟩
      · exact .inr hj
    · rintro (⟨hj, hfd⟩ | hj)
      · exact .inl ⟨hfd, hj⟩
      · refine .inr ⟨hj, ?_⟩
        rintro rfl
        exact hfree j hj
  · intro j fd' hj
    exact hsupport
  · intro j packet
    show (j, packet) ∈ r.taken ↔ _
    rw [h.taken]
    by_cases hj : j = i
    · subst hj
      rw [setState_self]
      exact iff_of_false (not_returned_of_idle hidle packet) (fun h => by cases h)
    · rw [setState_of_ne hj]
      rfl

/-- A descriptor that is duplicated and closed leaves nothing behind. -/
theorem Conserved.dupClose (h : Conserved r) (hnew : fd ∉ Handles.held r.descriptors) :
    Conserved { r with descriptors := r.descriptors ++ [.acquire fd] ++ [.release fd] } := by
  have hdup : Handles.Disciplined (r.descriptors ++ [.acquire fd]) := h.disciplined.append hnew
  refine ⟨hdup.append ?_, ?_, h.unique, h.kept, h.readers, h.supported, h.taken, h.once⟩
  · exact (Handles.mem_held_acquire _ _ _).mpr (.inl rfl)
  · intro fd'
    show fd' ∈ Handles.held (r.descriptors ++ [.acquire fd] ++ [.release fd]) ↔
      fd' ∈ r.refused ∨ ∃ j, r.Waits j fd'
    rw [hdup.mem_held_release, Handles.mem_held_acquire, ← h.held]
    constructor
    · rintro ⟨hne, heq | hheld⟩
      · exact absurd heq hne
      · exact hheld
    · intro hheld
      refine ⟨?_, .inr hheld⟩
      rintro rfl
      exact hnew hheld

/-- A registration that is refused leaves its descriptor open. -/
theorem Conserved.refuse (h : Conserved r) (hnew : fd ∉ Handles.held r.descriptors) :
    Conserved { r.dup fd with refused := fd :: r.refused } := by
  refine ⟨h.disciplined.append hnew, ?_, h.unique, ?_, h.readers, h.supported, h.taken, h.once⟩
  · intro fd'
    show fd' ∈ Handles.held (r.descriptors ++ [.acquire fd]) ↔
      fd' ∈ fd :: r.refused ∨ ∃ j, r.Waits j fd'
    rw [Handles.mem_held_acquire, h.held, List.mem_cons, or_assoc]
  · intro j fd' hj hrefused
    rcases List.mem_cons.mp hrefused with rfl | hrefused
    · exact hnew ((h.held fd').mpr (.inr ⟨j, hj⟩))
    · exact h.kept j fd' hj hrefused

/-- A call that owes nothing returns the packet that it takes. -/
theorem Conserved.take (h : Conserved r) (hidle : idle (r.calls i).state = true)
    (packet : Packet) :
    Conserved ({ r with taken := r.taken ++ [(i, packet)] }.setState i (.returned packet)) := by
  have hwaits : ∀ j fd, ({ r with taken := r.taken ++ [(i, packet)] }.setState i
      (.returned packet)).Waits j fd ↔ r.Waits j fd := by
    intro j fd
    by_cases hj : j = i
    · subst hj
      refine iff_of_false ?_ (not_waits_of_idle hidle fd)
      rintro ⟨done, hdone⟩
      rw [setState_self] at hdone
      cases hdone
    · simp only [Waits, setState_of_ne hj]
  have huntaken : ∀ packet, (i, packet) ∉ r.taken := fun packet hmem =>
    not_returned_of_idle hidle packet ((h.taken i packet).mp hmem)
  refine ⟨h.disciplined, ?_, ?_, ?_, ?_, ?_, ?_, ?_⟩
  · intro fd
    simp only [hwaits]
    exact h.held fd
  · intro j k fd hj hk
    exact h.unique j k fd ((hwaits j fd).mp hj) ((hwaits k fd).mp hk)
  · intro j fd hj
    exact h.kept j fd ((hwaits j fd).mp hj)
  · intro fd j
    rw [hwaits]
    exact h.readers fd j
  · intro j fd hj
    exact h.supported j fd ((hwaits j fd).mp hj)
  · intro j packet'
    show (j, packet') ∈ r.taken ++ [(i, packet)] ↔ _
    rw [List.mem_append, List.mem_singleton, h.taken, Prod.mk.injEq]
    by_cases hj : j = i
    · subst hj
      rw [setState_self, RecvState.returned.injEq]
      constructor
      · rintro (hreturned | ⟨_, heq⟩)
        · exact absurd hreturned (not_returned_of_idle hidle packet')
        · exact heq.symm
      · exact fun heq => .inr ⟨rfl, heq.symm⟩
    · rw [setState_of_ne hj]
      constructor
      · rintro (hreturned | ⟨heq, _⟩)
        · exact hreturned
        · exact absurd heq hj
      · exact .inl
  · show ((r.taken ++ [(i, packet)]).map Prod.fst).Nodup
    rw [List.map_append, List.nodup_append]
    refine ⟨h.once, List.nodup_singleton i, ?_⟩
    intro j hj k hk
    obtain ⟨entry, hentry, rfl⟩ := List.mem_map.mp hj
    obtain rfl := List.mem_singleton.mp hk
    intro heq
    exact huntaken entry.2 (heq ▸ hentry)

/-! ## Between two awaits -/

theorem addReader_cases (r : Receivers) (i : Nat) (fd : Fd) (refused : Option PyException) :
    (r.loopClosed = false ∧ r.readerSupport = .supported ∧
      r.addReader i fd refused =
        .ok { r with readers := (fd, i) :: r.readers.filter (·.1 ≠ fd) }) ∨
    ∃ exc, r.addReader i fd refused = .error exc := by
  unfold addReader
  cases hsupport : r.readerSupport with
  | missing => exact .inr ⟨_, rfl⟩
  | notImplemented => exact .inr ⟨_, rfl⟩
  | supported =>
    dsimp only
    cases hclosed : r.loopClosed with
    | true => exact .inr ⟨_, rfl⟩
    | false =>
      cases refused with
      | some exc => exact .inr ⟨exc, rfl⟩
      | none => exact .inl ⟨rfl, rfl, rfl⟩

/-- A descriptor with no reader is closed and nothing else. -/
theorem closeReaderFd_snd (r : Receivers) (hreaders : ∀ i, (fd, i) ∉ r.readers) :
    (r.closeReaderFd fd).2 = { r with descriptors := r.descriptors ++ [.release fd] } := by
  have hfilter : r.readers.filter (·.1 ≠ fd) = r.readers := by
    apply List.filter_eq_self.mpr
    intro reader hmem
    refine decide_eq_true ?_
    rintro rfl
    exact hreaders reader.2 hmem
  have hremoved : (r.removeReaderFd fd).2 = r := by
    unfold removeReaderFd
    split
    · rfl
    · split
      · rfl
      · rfl
      · rw [hfilter]
  rw [closeReaderFd]
  cases hresult : r.removeReaderFd fd with
  | mk result r' =>
    rw [hresult] at hremoved
    subst hremoved
    rfl

theorem Conserved.register (h : Conserved r) (hidle : idle (r.calls i).state = true)
    (hnew : fd ∉ Handles.held r.descriptors) (refused : Option PyException) :
    Conserved ((r.dup fd).register i fd refused) := by
  have hfree : ∀ j, (fd, j) ∉ r.readers := fun j hmem =>
    hnew ((h.held fd).mpr (.inr ⟨j, ((h.readers fd j).mp hmem).2⟩))
  unfold Receivers.register
  cases hadd : (r.dup fd).addReader i fd refused with
  | ok added =>
    rcases addReader_cases (r.dup fd) i fd refused with ⟨hopen, hsupport, heq⟩ | ⟨exc, heq⟩
    · rw [heq] at hadd
      cases hadd
      exact h.wait hidle hnew hopen hsupport
    · rw [heq] at hadd
      cases hadd
  | error exc =>
    dsimp only
    split
    · have hclosed := (h.setSelectorAvailable i false).dupClose hnew
      have hidle' : idle ((r.setSelectorAvailable i false).calls i).state = true := by
        rw [setSelectorAvailable_state]
        exact hidle
      have hsnd := closeReaderFd_snd ((r.dup fd).setSelectorAvailable i false) hfree
      cases hclose : ((r.dup fd).setSelectorAvailable i false).closeReaderFd fd with
      | mk result r' =>
        rw [hclose] at hsnd
        dsimp only at hsnd
        subst hsnd
        cases result with
        | error exc => exact hclosed.setState hidle' rfl
        | ok _ => exact hclosed.setState hidle' rfl
    · exact (h.refuse hnew).setState hidle rfl

theorem Conserved.receive (h : Conserved r) (hidle : idle (r.calls i).state = true)
    {found : Found} (hreceive : r.receive i found = some r') : Conserved r' := by
  unfold Receivers.receive at hreceive
  split at hreceive
  · cases hreceive
    exact h.setState hidle rfl
  · split at hreceive
    next exc => exact Option.some.inj hreceive ▸ h.setState hidle rfl
    next => exact Option.some.inj hreceive ▸ h.take hidle _
    next =>
      split at hreceive
      · exact Option.some.inj hreceive ▸ h.setState hidle rfl
      · split at hreceive
        next exc =>
          split at hreceive
          · refine Option.some.inj hreceive ▸ (h.setSelectorAvailable i false).setState ?_ rfl
            rw [setSelectorAvailable_state]
            exact hidle
          · exact Option.some.inj hreceive ▸ h.setState hidle rfl
        next fd =>
          split at hreceive
          · cases hreceive
          next hnew => exact Option.some.inj hreceive ▸ h.register hidle hnew found.refused

theorem Conserved.afterWait (h : Conserved r) (hwaits : r.Waits i fd)
    {thrown : Option PyException} {found : Found}
    (hafter : r.afterWait i fd thrown found = some r') : Conserved r' := by
  obtain ⟨closed, hclose, hconserved, hidle⟩ := h.endWait hwaits
  rw [Receivers.afterWait, hclose] at hafter
  cases thrown with
  | some exc => exact Option.some.inj hafter ▸ hconserved.setState hidle rfl
  | none => exact hconserved.receive hidle hafter

/-- By cases of where the call is and how its await ends. -/
theorem Conserved.resume (h : Conserved r) {wake : Wake} {found : Found}
    (hresume : r.resume i wake found = some r') : Conserved r' := by
  unfold Receivers.resume at hresume
  split at hresume
  next hstate =>
    refine (h.setSelectorAvailable i _).receive ?_ hresume
    rw [setSelectorAvailable_state, hstate]
    rfl
  next hstate => exact Option.some.inj hresume ▸ h.setState (by rw [hstate]; rfl) rfl
  next hstate => exact Option.some.inj hresume ▸ h.setState (by rw [hstate]; rfl) rfl
  next hstate => exact h.receive (by rw [hstate]; rfl) hresume
  next hstate => exact h.afterWait ⟨_, hstate⟩ hresume
  next hstate => exact h.afterWait ⟨_, hstate⟩ hresume
  next hstate => exact h.afterWait ⟨_, hstate⟩ hresume
  next => cases hresume

theorem Conserved.step (h : Conserved r) {action : Action} (hstep : step action r = some r') :
    Conserved r' := by
  cases action with
  | resume i wake found => exact h.resume hstep
  | ready fd i =>
    have hready : (if (fd, i) ∈ r.readers then some (r.onReady fd i) else none) = some r' := hstep
    split at hready
    · exact Option.some.inj hready ▸ h.onReady fd i
    · cases hready
  | loopClose => exact Option.some.inj hstep ▸ h.loopClose
  | remove => exact Option.some.inj hstep ▸ h.remove

/-! ## Removal -/

/-- A call that goes on after its subscription is removed ends. -/
theorem receive_removed (hremoved : r.subscription.removed = true) (found : Found) :
    r.receive i found = some (r.setState i (.raised .lookupError)) := by
  rw [Receivers.receive, if_pos hremoved]

theorem closeReaderFd_same (r : Receivers) (fd : Fd) :
    (r.closeReaderFd fd).2.subscription = r.subscription ∧
      (r.closeReaderFd fd).2.taken = r.taken ∧ (r.closeReaderFd fd).2.refused = r.refused ∧
      (r.closeReaderFd fd).2.loopClosed = r.loopClosed := by
  have hremoved : (r.removeReaderFd fd).2.subscription = r.subscription ∧
      (r.removeReaderFd fd).2.taken = r.taken ∧ (r.removeReaderFd fd).2.refused = r.refused ∧
      (r.removeReaderFd fd).2.loopClosed = r.loopClosed := by
    unfold removeReaderFd
    split
    · exact ⟨rfl, rfl, rfl, rfl⟩
    · split
      · exact ⟨rfl, rfl, rfl, rfl⟩
      · exact ⟨rfl, rfl, rfl, rfl⟩
      · exact ⟨rfl, rfl, rfl, rfl⟩
  rw [closeReaderFd]
  cases hresult : r.removeReaderFd fd with
  | mk result r' =>
    rw [hresult] at hremoved
    exact hremoved

def Raised (r : Receivers) (i : Nat) : Prop := ∃ exc, (r.calls i).state = .raised exc

theorem raised_setState (r : Receivers) (i : Nat) (exc : PyException) :
    (r.setState i (.raised exc)).Raised i :=
  ⟨exc, setState_self r i _⟩

theorem ends_afterWait (hremoved : r.subscription.removed = true) {thrown : Option PyException}
    {found : Found} (h : r.afterWait i fd thrown found = some r') :
    r'.Raised i ∧ r'.taken = r.taken := by
  have hsame := closeReaderFd_same (r.setState i .running) fd
  unfold Receivers.afterWait at h
  cases hclose : (r.setState i .running).closeReaderFd fd with
  | mk result closed =>
    rw [hclose] at h hsame
    cases result with
    | error exc =>
      exact Option.some.inj h ▸ ⟨raised_setState closed i exc, hsame.2.1⟩
    | ok _ =>
      cases thrown with
      | some exc => exact Option.some.inj h ▸ ⟨raised_setState closed i exc, hsame.2.1⟩
      | none =>
        have hclosed : closed.subscription.removed = true := by
          rw [show closed.subscription = r.subscription from hsame.1]
          exact hremoved
        have hend : closed.receive i found = some r' := h
        rw [receive_removed hclosed] at hend
        exact Option.some.inj hend ▸ ⟨raised_setState closed i _, hsame.2.1⟩

/-- Every call that is resumed after the removal ends, and takes no packet. -/
theorem ends_of_removed (hremoved : r.subscription.removed = true) {wake : Wake} {found : Found}
    (h : r.resume i wake found = some r') : r'.Raised i ∧ r'.taken = r.taken := by
  unfold Receivers.resume at h
  split at h
  next =>
    rw [receive_removed (r := r.setSelectorAvailable i _) hremoved] at h
    exact Option.some.inj h ▸ ⟨raised_setState _ i _, rfl⟩
  next => exact Option.some.inj h ▸ ⟨raised_setState _ i _, rfl⟩
  next => exact Option.some.inj h ▸ ⟨raised_setState _ i _, rfl⟩
  next =>
    rw [receive_removed hremoved] at h
    exact Option.some.inj h ▸ ⟨raised_setState _ i _, rfl⟩
  next => exact ends_afterWait hremoved h
  next => exact ends_afterWait hremoved h
  next => exact ends_afterWait hremoved h
  next => cases h

/-! ## Refused registrations -/

def Unrefused (r : Receivers) : Prop := r.loopClosed = false ∧ r.refused = []

/-- The loop stays open in the step, and its selector raises nothing. -/
def Registers : Action → Prop
  | .resume _ _ found => found.refused = none
  | .loopClose => False
  | .ready _ _ | .remove => True

theorem Unrefused.closeReaderFd (h : r.Unrefused) (fd : Fd) :
    (r.closeReaderFd fd).2.Unrefused := by
  obtain ⟨_, _, hrefused, hclosed⟩ := closeReaderFd_same r fd
  exact ⟨hclosed.trans h.1, hrefused.trans h.2⟩

theorem Unrefused.register (h : r.Unrefused) (i : Nat) (fd : Fd) :
    (r.register i fd none).Unrefused := by
  have hcaught : ∀ exc, r.addReader i fd none = .error exc →
      (exc.isInstance .attributeError || exc.isInstance .notImplementedError) = true := by
    intro exc hadd
    unfold Receivers.addReader at hadd
    cases hsupport : r.readerSupport with
    | missing =>
      rw [hsupport] at hadd
      cases hadd
      rfl
    | notImplemented =>
      rw [hsupport] at hadd
      cases hadd
      rfl
    | supported =>
      rw [hsupport, h.1] at hadd
      cases hadd
  unfold Receivers.register
  rcases addReader_cases r i fd none with ⟨_, _, heq⟩ | ⟨exc, heq⟩
  · rw [heq]
    exact h
  · rw [heq]
    dsimp only
    rw [if_pos (hcaught exc heq)]
    have hunrefused : (r.setSelectorAvailable i false).Unrefused := h
    have hclose := hunrefused.closeReaderFd fd
    cases hresult : (r.setSelectorAvailable i false).closeReaderFd fd with
    | mk result closed =>
      rw [hresult] at hclose
      cases result with
      | error exc => exact hclose
      | ok _ => exact hclose

theorem Unrefused.receive (h : r.Unrefused) {found : Found} (hfound : found.refused = none)
    (hreceive : r.receive i found = some r') : r'.Unrefused := by
  unfold Receivers.receive at hreceive
  split at hreceive
  · exact Option.some.inj hreceive ▸ h
  · split at hreceive
    · exact Option.some.inj hreceive ▸ h
    · exact Option.some.inj hreceive ▸ h
    · split at hreceive
      · exact Option.some.inj hreceive ▸ h
      · split at hreceive
        · split at hreceive
          · exact Option.some.inj hreceive ▸ h
          · exact Option.some.inj hreceive ▸ h
        next fd _ =>
          split at hreceive
          · cases hreceive
          · rw [hfound] at hreceive
            exact Option.some.inj hreceive ▸ Unrefused.register (r := r.dup fd) h i fd

theorem Unrefused.afterWait (h : r.Unrefused) {thrown : Option PyException} {found : Found}
    (hfound : found.refused = none) (hafter : r.afterWait i fd thrown found = some r') :
    r'.Unrefused := by
  have hunrefused : (r.setState i .running).Unrefused := h
  have hclose := hunrefused.closeReaderFd fd
  unfold Receivers.afterWait at hafter
  cases hresult : (r.setState i .running).closeReaderFd fd with
  | mk result closed =>
    rw [hresult] at hafter hclose
    cases result with
    | error exc => exact Option.some.inj hafter ▸ hclose
    | ok _ =>
      cases thrown with
      | some exc => exact Option.some.inj hafter ▸ hclose
      | none => exact Unrefused.receive hclose hfound hafter

theorem Unrefused.step (h : r.Unrefused) {action : Action} (haction : Registers action)
    (hstep : step action r = some r') : r'.Unrefused := by
  cases action with
  | resume i wake found =>
    have hresume : r.resume i wake found = some r' := hstep
    unfold Receivers.resume at hresume
    split at hresume
    next => exact Unrefused.receive (r := r.setSelectorAvailable i _) h haction hresume
    next => exact Option.some.inj hresume ▸ h
    next => exact Option.some.inj hresume ▸ h
    next => exact h.receive haction hresume
    next => exact h.afterWait haction hresume
    next => exact h.afterWait haction hresume
    next => exact h.afterWait haction hresume
    next => cases hresume
  | ready fd i =>
    have hready : (if (fd, i) ∈ r.readers then some (r.onReady fd i) else none) = some r' := hstep
    split at hready
    · rcases onReady_cases r fd i with heq | ⟨_, heq⟩
      · rw [heq] at hready
        exact Option.some.inj hready ▸ h
      · rw [heq] at hready
        exact Option.some.inj hready ▸ h
    · cases hready
  | loopClose => exact absurd haction id
  | remove => exact Option.some.inj hstep ▸ h

/-! ## Runs -/

/-- In every run of calls on a subscription: the descriptors and packets are conserved, a
descriptor that no call waits on was closed as often as it was duplicated, unless the loop
refused it, which it does only after it is closed or where the selector raises; and once the
subscription is removed, every call that is resumed ends without a packet. -/
theorem recv_async_conserves {subscription : Subscription} {loopClosed : Bool}
    {readerSupport : ReaderSupport} {actions : List Action}
    (h : Transition.run step actions (start subscription loopClosed readerSupport) = some r) :
    Conserved r ∧
    (∀ fd, fd ∉ r.refused → (∀ i, ¬ r.Waits i fd) →
      r.descriptors.count (.acquire fd) = r.descriptors.count (.release fd)) ∧
    (loopClosed = false → (∀ action ∈ actions, Registers action) → r.refused = []) ∧
    (r.subscription.removed = true → ∀ i wake found r',
      r.resume i wake found = some r' → r'.Raised i ∧ r'.taken = r.taken) := by
  have hconserved : Conserved r :=
    Transition.invariant (fun _ _ _ hr hstep => hr.step hstep)
      (conserved_start subscription loopClosed readerSupport) h
  refine ⟨hconserved, ?_, ?_, ?_⟩
  · intro fd hrefused hwaits
    rw [hconserved.disciplined.count_acquire, if_neg]
    · rfl
    · rw [hconserved.held]
      rintro (hmem | ⟨i, hi⟩)
      · exact hrefused hmem
      · exact hwaits i hi
  · intro hopen hregisters
    have hmeets : Transition.Meets step (fun _ action => Registers action) actions
        (start subscription loopClosed readerSupport) :=
      Transition.meets_of_mem (fun action hmem _ => hregisters action hmem) _
    exact (Transition.invariant_of_meets (fun _ _ _ ha hr hstep => Unrefused.step hr ha hstep)
      hmeets (⟨hopen, rfl⟩ : Unrefused _) h).2
  · intro hremoved i wake found r' hresume
    exact ends_of_removed hremoved hresume

def takenPacket : Packet :=
  { subscriptionId := ⟨1⟩
    source := { ip := .v4 (.new 10 0 0 1), port := 4000 }
    group := .v4 (.new 239 1 2 3)
    dstPort := 5000
    payload := [1] }

def nothingYet (fd : Fd) : Found := { answer := .none, duplicated := .ok fd, refused := none }

def nativeSubscription : Subscription :=
  { removed := false, hasFileno := true, stateCallable := true }

/-- Two calls wait, the packet goes to the second and the first is cancelled; a third call
finds the subscription removed. -/
def twoWaits : List Action :=
  [.resume 0 .returns (nothingYet 3), .resume 1 .returns (nothingYet 4), .ready 4 1,
    .resume 1 .returns { nothingYet 5 with answer := .packet takenPacket },
    .resume 0 (.raises { classes := [], text := "" }) (nothingYet 5), .remove,
    .resume 2 .returns (nothingYet 5)]

theorem recv_async_conserves_two_waits :
    ∃ r, Transition.run step twoWaits (start nativeSubscription false .supported) = some r ∧
      Conserved r ∧ r.taken = [(1, takenPacket)] ∧
      r.descriptors = [.acquire 3, .acquire 4, .release 4, .release 3] ∧ r.refused = [] := by
  have hend : (Transition.run step twoWaits (start nativeSubscription false .supported)).any
      (fun r => decide (r.taken = [(1, takenPacket)] ∧
        r.descriptors = [.acquire 3, .acquire 4, .release 4, .release 3])) = true := by
    decide +kernel
  obtain ⟨r, hrun, hr⟩ := Transition.exists_of_run_any hend
  have hconserves := recv_async_conserves hrun
  have hregisters : ∀ action ∈ twoWaits, Registers action := by
    intro action hmem
    fin_cases hmem <;> first | exact rfl | exact trivial
  obtain ⟨htaken, hdescriptors⟩ := of_decide_eq_true hr
  exact ⟨r, hrun, hconserves.1, htaken, hdescriptors, hconserves.2.2.1 rfl hregisters⟩

end Receivers

end Python

end McrxCore
