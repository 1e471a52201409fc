import McrxCore.Python.Asyncio

/-!
# Closing a reader

Each piece of the module's code is a sequence of moves on the reader, and no move takes a
packet or starts a callback once the handle is closed.  What a move keeps holds after every
run.
-/

namespace McrxCore

namespace Python

def Event.IsClose : Event → Prop
  | .closeEntered _ => True
  | _ => False

/-- A packet is taken from the subscription, or a packet callback is started. -/
def Event.IsActivity : Event → Prop
  | .packetTaken _ | .callbackStarted _ => True
  | _ => False

/-- No packet is taken and no callback is started after a call of `close`. -/
def Silent (journal : List Event) : Prop :=
  journal.Pairwise fun earlier later => earlier.IsClose → ¬ later.IsActivity

def Registration.fds : Registration → List Fd
  | .selector fd => [fd]
  | .polling => []

/-- What holds of a reader between any two moves. -/
structure Sound (w : World) : Prop where
  timers : ∀ timer ∈ w.loop.timers, w.reader.timer = some timer.id
  callable : ∀ timer ∈ w.loop.timers, timer.callback = .checkSubscriptionLifetime →
    w.subscription.stateCallable = true
  unarmed : w.reader.closed = true → w.loop.timers = []
  silent : Silent w.reader.journal
  entered : w.reader.closed = false → ∀ event ∈ w.reader.journal, ¬ event.IsClose
  single : w.descriptors.duplicated.length ≤ 1
  selected : ∀ fd, w.reader.registration = .selector fd →
    w.descriptors.duplicated = [fd] ∧ w.loop.readerSupport ≠ .missing ∧
      (w.reader.closed = false → w.descriptors.closes = [])
  closes : (w.reader.closed = true ∨ w.reader.registration = .polling) →
    w.descriptors.closes = w.descriptors.duplicated

/-- One move on a reader.  Arming a timer is not among them. -/
inductive Move : World → World → Prop
  | close (closer : Closer) (w : World) : Move w (close closer w).2
  | remove (w : World) : Move w w.remove
  | active (w : World) (event : Event) (hopen : w.reader.closed = false) (h : ¬ event.IsClose) :
      Move w (w.record event)
  | note (w : World) (event : Event) (h : ¬ event.IsClose) (hnote : ¬ event.IsActivity) :
      Move w (w.record event)

abbrev Moves : World → World → Prop := Relation.ReflTransGen Move

section Close

variable {w : World}

theorem cancelTimer_eq (h : ∀ timer ∈ w.loop.timers, w.reader.timer = some timer.id) :
    w.cancelTimer = { w with loop := { w.loop with timers := [] } } := by
  rw [World.cancelTimer]
  cases htimer : w.reader.timer with
  | none =>
    have hempty : w.loop.timers = [] := by
      refine List.eq_nil_iff_forall_not_mem.mpr fun timer hmem => ?_
      have := h timer hmem
      rw [htimer] at this
      cases this
    rw [← hempty]
  | some id =>
    have hempty : w.loop.timers.filter (·.id ≠ id) = [] := by
      refine List.filter_eq_nil_iff.mpr fun timer hmem => ?_
      have := h timer hmem
      rw [htimer] at this
      cases this
      simp
    show { w with loop := w.loop.cancel id } = _
    rw [EventLoop.cancel, hempty]

/-- No removal of a descriptor from a loop with `add_reader` raises. -/
theorem removeReaderFd_ok (h : w.loop.readerSupport ≠ .missing) (fd : Fd) :
    ∃ readers, removeReaderFd fd w =
      (.ok (), { w with loop := { w.loop with readers := readers } }) := by
  rw [removeReaderFd]
  by_cases hclosed : w.loop.closed = true
  · exact ⟨w.loop.readers, if_pos hclosed⟩
  · rw [if_neg hclosed]
    cases hsupport : w.loop.readerSupport with
    | missing => exact absurd hsupport h
    | notImplemented =>
      have hremove : w.loop.removeReader fd = .error .notImplementedError := by
        rw [EventLoop.removeReader, hsupport]
      rw [hremove]
      exact ⟨w.loop.readers, rfl⟩
    | supported =>
      have hremove : w.loop.removeReader fd =
          .ok { w.loop with readers := w.loop.readers.filter (· ≠ fd) } := by
        simp [EventLoop.removeReader, hsupport, hclosed]
      rw [hremove]
      exact ⟨_, rfl⟩

/-- The reader's `close_cb`. -/
theorem closeCb_ok (h : ∀ timer ∈ w.loop.timers, w.reader.timer = some timer.id)
    (hsupport : ∀ fd, w.reader.registration = .selector fd → w.loop.readerSupport ≠ .missing) :
    ∃ readers, closeCb w =
      (.ok (),
        { w with
          loop := { w.loop with readers := readers, timers := [] }
          descriptors :=
            { w.descriptors with
              closes := w.descriptors.closes ++ w.reader.registration.fds } }) := by
  cases hregistration : w.reader.registration with
  | selector fd =>
    obtain ⟨readers, hremove⟩ := removeReaderFd_ok (hsupport fd hregistration) fd
    refine ⟨readers, ?_⟩
    rw [closeCb, hregistration]
    simp only [closeReaderFd, hremove]
    exact congrArg (Prod.mk _) (cancelTimer_eq h)
  | polling =>
    refine ⟨w.loop.readers, ?_⟩
    rw [closeCb, hregistration]
    simp only [cancelTimer_eq h, Registration.fds, List.append_nil]

theorem close_of_closed (hclosed : w.reader.closed = true) (closer : Closer) :
    close closer w = (.ok (), w.record (.closeEntered closer)) := if_pos hclosed

/-- The first call of `close`. -/
theorem close_of_open (h : Sound w) (hopen : w.reader.closed = false) (closer : Closer) :
    ∃ readers, close closer w =
      (.ok (),
        { w with
          loop := { w.loop with readers := readers, timers := [] }
          descriptors := { w.descriptors with closes := w.descriptors.duplicated }
          reader :=
            { w.reader with
              closed := true
              journal := w.reader.journal ++ [.closeEntered closer] } }) := by
  have hrecord : (w.record (.closeEntered closer)).reader.closed = false := hopen
  obtain ⟨readers, hclose⟩ := closeCb_ok
    (w := { w.record (.closeEntered closer) with
      reader := { (w.record (.closeEntered closer)).reader with closed := true } })
    h.timers fun fd hregistration => (h.selected fd hregistration).2.1
  refine ⟨readers, ?_⟩
  have hcloses : w.descriptors.closes ++ w.reader.registration.fds = w.descriptors.duplicated := by
    cases hregistration : w.reader.registration with
    | selector fd =>
      obtain ⟨hduplicated, -, hcloses⟩ := h.selected fd hregistration
      rw [hcloses hopen, hduplicated]
      rfl
    | polling =>
      rw [h.closes (.inr hregistration)]
      exact List.append_nil _
  rw [close, if_neg (by rw [hrecord]; exact Bool.false_ne_true)]
  refine hclose.trans (congrArg (fun closes => (Except.ok (),
    { w with
      loop := { w.loop with readers := readers, timers := [] }
      descriptors := { w.descriptors with closes := closes }
      reader :=
        { w.reader with
          closed := true
          journal := w.reader.journal ++ [Event.closeEntered closer] } })) hcloses)

/-- What `close` does to a reader, as far as its callers can tell. -/
theorem close_spec (h : Sound w) (closer : Closer) :
    (close closer w).1 = .ok () ∧ (close closer w).2.reader.closed = true ∧
      (close closer w).2.reader.timer = w.reader.timer ∧
      (close closer w).2.reader.journal = w.reader.journal ++ [.closeEntered closer] ∧
      (close closer w).2.subscription = w.subscription := by
  cases hclosed : w.reader.closed with
  | true =>
    rw [close_of_closed hclosed]
    exact ⟨rfl, hclosed, rfl, rfl, rfl⟩
  | false =>
    obtain ⟨readers, hclose⟩ := close_of_open h hclosed closer
    rw [hclose]
    exact ⟨rfl, rfl, rfl, rfl, rfl⟩

end Close

/-! ## Moves -/

section Moves

variable {w w' : World}

theorem silent_append {journal : List Event} {event : Event} (h : Silent journal)
    (hevent : ∀ earlier ∈ journal, earlier.IsClose → ¬ event.IsActivity) :
    Silent (journal ++ [event]) := by
  refine List.pairwise_append.mpr ⟨h, List.pairwise_singleton .., ?_⟩
  intro earlier hearlier later hlater
  rw [List.mem_singleton.mp hlater]
  exact hevent earlier hearlier

theorem Sound.record {event : Event} (h : Sound w) (hclose : ¬ event.IsClose)
    (hevent : w.reader.closed = true → ¬ event.IsActivity) : Sound (w.record event) where
  timers := h.timers
  callable := h.callable
  unarmed := h.unarmed
  silent := silent_append h.silent fun earlier hearlier hearlierClose => by
    refine hevent ?_
    by_contra hopen
    exact h.entered (Bool.eq_false_iff.mpr hopen) earlier hearlier hearlierClose
  entered hopen later hlater := by
    rcases List.mem_append.mp hlater with hlater | hlater
    · exact h.entered hopen later hlater
    · rw [List.mem_singleton.mp hlater]
      exact hclose
  single := h.single
  selected := h.selected
  closes := h.closes

theorem Sound.close (h : Sound w) (closer : Closer) : Sound (Python.close closer w).2 := by
  have hactivity : ¬ (Event.closeEntered closer).IsActivity := fun h => h
  cases hclosed : w.reader.closed with
  | true =>
    rw [close_of_closed hclosed]
    exact {
      timers := h.timers
      callable := h.callable
      unarmed := h.unarmed
      silent := silent_append h.silent fun _ _ _ => hactivity
      entered := fun hopen => absurd (hclosed.symm.trans hopen) (by decide)
      single := h.single
      selected := h.selected
      closes := h.closes }
  | false =>
    obtain ⟨readers, hclose⟩ := close_of_open h hclosed closer
    rw [hclose]
    exact {
      timers := fun _ hmem => absurd hmem List.not_mem_nil
      callable := fun _ hmem => absurd hmem List.not_mem_nil
      unarmed := fun _ => rfl
      silent := silent_append h.silent fun _ _ _ => hactivity
      entered := fun hopen => by cases hopen
      single := h.single
      selected := fun fd hregistration =>
        ⟨(h.selected fd hregistration).1, (h.selected fd hregistration).2.1,
          fun hopen => by cases hopen⟩
      closes := fun _ => rfl }

theorem Sound.remove (h : Sound w) : Sound w.remove := { h with }

/-- A move keeps what holds of a reader, and the variable of its closures. -/
theorem Move.sound (hmove : Move w w') (h : Sound w) :
    Sound w' ∧ w'.reader.timer = w.reader.timer := by
  cases hmove with
  | close closer => exact ⟨h.close closer, (close_spec h closer).2.2.1⟩
  | remove => exact ⟨h.remove, rfl⟩
  | active _ event hopen hevent =>
    refine ⟨h.record hevent fun hclosed => ?_, rfl⟩
    rw [hopen] at hclosed
    cases hclosed
  | note _ event hevent hnote => exact ⟨h.record hevent fun _ => hnote, rfl⟩

theorem Moves.sound (hmoves : Moves w w') (h : Sound w) :
    Sound w' ∧ w'.reader.timer = w.reader.timer := by
  induction hmoves with
  | refl => exact ⟨h, rfl⟩
  | tail _ hmove ih =>
    obtain ⟨hsound, htimer⟩ := hmove.sound ih.1
    exact ⟨hsound, htimer.trans ih.2⟩

end Moves

/-! ## The module's code as moves -/

theorem runEffects_moves (effects : List Effect) (w : World) : Moves w (runEffects effects w) := by
  induction effects generalizing w with
  | nil => exact .refl
  | cons effect effects ih =>
    cases effect with
    | close => exact (ih _).head (.close .user w)
    | remove => exact (ih _).head (.remove w)

theorem callExceptionHandler_moves (message : String) (exc : PyException) (handler : HandlerRun)
    (w : World) : Moves w (callExceptionHandler message exc handler w).2 := by
  have hmoves := (runEffects_moves handler.effects (w.record (.reported message exc))).head
    (.note w _ id id)
  rw [callExceptionHandler]
  cases handler.raised with
  | none => exact hmoves
  | some raised =>
    by_cases hleaves : raised.leavesLoop = true
    · simp only [hleaves, if_true]
      exact hmoves
    · simp only [hleaves, Bool.false_eq_true, if_false]
      exact hmoves

theorem handleRun_moves (handler : HandlerRun) (run : Run) :
    Moves run.2 (handleRun handler run) := by
  obtain ⟨result, w⟩ := run
  cases result with
  | ok value => exact .refl
  | error exc =>
    rw [handleRun]
    by_cases hleaves : exc.leavesLoop = true
    · rw [if_pos hleaves]
    · rw [if_neg hleaves]
      exact callExceptionHandler_moves _ exc handler w

theorem exceptClauses_moves (message : String) (handler : HandlerRun) (run : Run) :
    Moves run.2 (exceptClauses message handler run).2 := by
  obtain ⟨result, w⟩ := run
  cases result with
  | ok value => exact .refl
  | error exc =>
    rw [exceptClauses]
    by_cases hlookup : exc.isInstance .lookupError = true
    · rw [if_pos hlookup]
      exact .single (.close .reader w)
    · rw [if_neg hlookup]
      by_cases hexception : exc.isInstance .exception = true
      · rw [if_pos hexception]
        have hmoves := callExceptionHandler_moves message exc handler w
        cases hreport : callExceptionHandler message exc handler w with
        | mk result w₁ =>
          rw [hreport] at hmoves
          cases result with
          | ok value => exact hmoves.tail (.close .reader w₁)
          | error raised => exact hmoves
      · rw [if_neg hexception]

section Receive

variable {answer : Answer} {w w₁ : World}

theorem recvNowait_error {exc : PyException} (h : recvNowait answer w = (.error exc, w₁)) :
    w₁ = w.record (.subscriptionRaised exc) ∧
      (w.subscription.removed = true ∧ exc = .lookupError ∨
        w.subscription.removed = false ∧ answer = .raises exc) := by
  rw [recvNowait.eq_def] at h
  cases hremoved : w.subscription.removed with
  | true =>
    rw [hremoved] at h
    cases h
    exact ⟨rfl, .inl ⟨rfl, rfl⟩⟩
  | false =>
    rw [hremoved] at h
    cases answer with
    | packet packet => cases h
    | none => cases h
    | raises exc =>
      cases h
      exact ⟨rfl, .inr ⟨rfl, rfl⟩⟩

theorem recvNowait_ok {found : Option Packet} (h : recvNowait answer w = (.ok found, w₁)) :
    w.subscription.removed = false ∧
      (found = none ∧ answer = .none ∧ w₁ = w ∨
        ∃ packet, found = some packet ∧ answer = .packet packet ∧
          w₁ = w.record (.packetTaken packet)) := by
  rw [recvNowait.eq_def] at h
  cases hremoved : w.subscription.removed with
  | true =>
    rw [hremoved] at h
    cases h
  | false =>
    rw [hremoved] at h
    refine ⟨rfl, ?_⟩
    cases answer with
    | packet packet =>
      cases h
      exact .inr ⟨packet, rfl, rfl, rfl⟩
    | none =>
      cases h
      exact .inl ⟨rfl, rfl, rfl⟩
    | raises exc => cases h

theorem recvNowait_none (h : recvNowait answer w = (.ok none, w₁)) :
    w.subscription.removed = false ∧ answer = .none ∧ w₁ = w := by
  obtain ⟨hremoved, ⟨-, hnone⟩ | ⟨packet, hfound, -⟩⟩ := recvNowait_ok h
  · exact ⟨hremoved, hnone⟩
  · cases hfound

theorem recvNowait_some {packet : Packet} (h : recvNowait answer w = (.ok (some packet), w₁)) :
    w.subscription.removed = false ∧ answer = .packet packet ∧
      w₁ = w.record (.packetTaken packet) := by
  obtain ⟨hremoved, ⟨hfound, -⟩ | ⟨packet', hfound, hsome⟩⟩ := recvNowait_ok h
  · cases hfound
  · cases hfound
    exact ⟨hremoved, hsome⟩

end Receive

section Call

variable {packet : Packet} {callback : CallbackRun} {w w' : World}
  {result : Except PyException Unit}

/-- What a call of the packet callback does after its effects. -/
theorem scheduleCallbackResult_inv (h : scheduleCallbackResult packet callback w = (result, w')) :
    ∃ w₁, w₁ = runEffects callback.effects (w.record (.callbackStarted packet)) ∧
      (result = .ok () ∧ w' = w₁ ∧
          (callback.outcome = .returns ∨ callback.outcome = .returnsAwaitable) ∨
        result = .error .foreignFuture ∧ w' = w₁ ∧ callback.outcome = .returnsForeignFuture ∨
        ∃ exc, result = .error exc ∧ w' = w₁.record (.callbackRaised exc) ∧
          callback.outcome = .raises exc) := by
  refine ⟨_, rfl, ?_⟩
  rw [scheduleCallbackResult] at h
  cases houtcome : callback.outcome with
  | returns =>
    rw [houtcome] at h
    cases h
    exact .inl ⟨rfl, rfl, .inl rfl⟩
  | returnsAwaitable =>
    rw [houtcome] at h
    cases h
    exact .inl ⟨rfl, rfl, .inr rfl⟩
  | returnsForeignFuture =>
    rw [houtcome] at h
    cases h
    exact .inr (.inl ⟨rfl, rfl, rfl⟩)
  | raises exc =>
    rw [houtcome] at h
    cases h
    exact .inr (.inr ⟨exc, rfl, rfl, rfl⟩)

theorem scheduleCallbackResult_moves (hopen : w.reader.closed = false)
    (h : scheduleCallbackResult packet callback w = (result, w')) : Moves w w' := by
  have hmoves := (runEffects_moves callback.effects (w.record (.callbackStarted packet))).head
    (.active w _ hopen id)
  obtain ⟨w₁, rfl, ⟨-, rfl, -⟩ | ⟨-, rfl, -⟩ | ⟨exc, -, rfl, -⟩⟩ := scheduleCallbackResult_inv h
  · exact hmoves
  · exact hmoves
  · exact hmoves.tail (.note _ _ id id)

end Call

/-- The answer to the next call of `recv_nowait`. -/
def firstAnswer : List Turn → Answer
  | [] => .none
  | turn :: _ => turn.answer

inductive Drains (onNone : World → World) : List Turn → World → Run → Prop
  | closed {turns : List Turn} {w : World} (hclosed : w.reader.closed = true) :
      Drains onNone turns w (.ok (), w)
  | failed {turns : List Turn} {w w₁ : World} {exc : PyException}
      (hopen : w.reader.closed = false)
      (hrecv : recvNowait (firstAnswer turns) w = (.error exc, w₁)) :
      Drains onNone turns w (.error exc, w₁)
  | empty {turns : List Turn} {w w₁ : World} (hopen : w.reader.closed = false)
      (hrecv : recvNowait (firstAnswer turns) w = (.ok none, w₁)) :
      Drains onNone turns w (.ok (), onNone w₁)
  | raised {turn : Turn} {turns : List Turn} {w w₁ w₂ : World} {packet : Packet}
      {exc : PyException} (hopen : w.reader.closed = false)
      (hrecv : recvNowait turn.answer w = (.ok (some packet), w₁))
      (hcall : scheduleCallbackResult packet turn.callback w₁ = (.error exc, w₂)) :
      Drains onNone (turn :: turns) w (.error exc, w₂)
  | next {turn : Turn} {turns : List Turn} {w w₁ w₂ : World} {packet : Packet} {run : Run}
      (hopen : w.reader.closed = false)
      (hrecv : recvNowait turn.answer w = (.ok (some packet), w₁))
      (hcall : scheduleCallbackResult packet turn.callback w₁ = (.ok (), w₂))
      (hrest : Drains onNone turns w₂ run) :
      Drains onNone (turn :: turns) w run

theorem drain_drains (onNone : World → World) (turns : List Turn) (w : World) :
    Drains onNone turns w (drain onNone turns w) := by
  induction turns generalizing w with
  | nil =>
    rw [drain]
    by_cases hclosed : w.reader.closed = true
    · rw [if_pos hclosed]
      exact .closed hclosed
    · have hopen := Bool.eq_false_iff.mpr hclosed
      rw [if_neg hclosed]
      cases hrecv : recvNowait .none w with
      | mk answer w₁ =>
        cases answer with
        | error exc => exact .failed hopen hrecv
        | ok packet =>
          obtain ⟨-, ⟨rfl, -⟩ | ⟨packet, -, hanswer, -⟩⟩ := recvNowait_ok hrecv
          · exact .empty hopen hrecv
          · cases hanswer
  | cons turn turns ih =>
    rw [drain]
    by_cases hclosed : w.reader.closed = true
    · rw [if_pos hclosed]
      exact .closed hclosed
    · have hopen := Bool.eq_false_iff.mpr hclosed
      rw [if_neg hclosed]
      cases hrecv : recvNowait turn.answer w with
      | mk answer w₁ =>
        cases answer with
        | error exc => exact .failed hopen hrecv
        | ok packet =>
          cases packet with
          | none => exact .empty hopen hrecv
          | some packet =>
            cases hcall : scheduleCallbackResult packet turn.callback w₁ with
            | mk result w₂ =>
              simp only [hcall]
              cases result with
              | error exc => exact .raised hopen hrecv hcall
              | ok value => exact .next hopen hrecv hcall (ih w₂)

/-- The loop over packets ends in moves alone, or with its last step at an open handle. -/
theorem Drains.cases {onNone : World → World} {turns : List Turn} {w : World} {run : Run}
    (h : Drains onNone turns w run) :
    Moves w run.2 ∨
      ∃ w₁, Moves w w₁ ∧ w₁.reader.closed = false ∧ run = (.ok (), onNone w₁) := by
  induction h with
  | closed hclosed => exact .inl .refl
  | failed hopen hrecv =>
    rw [(recvNowait_error hrecv).1]
    exact .inl (.single (.note _ _ id id))
  | empty hopen hrecv =>
    rw [(recvNowait_none hrecv).2.2]
    exact .inr ⟨_, .refl, hopen, rfl⟩
  | raised hopen hrecv hcall =>
    obtain ⟨-, -, rfl⟩ := recvNowait_some hrecv
    have hcalled := scheduleCallbackResult_moves (by exact hopen) hcall
    exact .inl (hcalled.head (.active _ _ hopen id))
  | next hopen hrecv hcall hrest ih =>
    obtain ⟨-, -, rfl⟩ := recvNowait_some hrecv
    have hcalled := scheduleCallbackResult_moves (by exact hopen) hcall
    have hturn := hcalled.head (.active _ _ hopen id)
    rcases ih with hrest | ⟨w₁, hrest, hlast⟩
    · exact .inl (hturn.trans hrest)
    · exact .inr ⟨w₁, hturn.trans hrest, hlast⟩

/-! ## Steps and runs -/

section Steps

variable {w w' : World}

theorem Sound.callLater (h : Sound w) (hopen : w.reader.closed = false)
    (htimer : w.reader.timer = none) {callback : TimerCallback}
    (hcallable : callback = .checkSubscriptionLifetime → w.subscription.stateCallable = true) :
    Sound (w.callLater callback) where
  timers timer hmem := by
    rcases List.mem_cons.mp hmem with rfl | hmem
    · rfl
    · have hset := h.timers timer hmem
      rw [htimer] at hset
      cases hset
  callable timer hmem hcallback := by
    rcases List.mem_cons.mp hmem with rfl | hmem
    · exact hcallable hcallback
    · exact h.callable timer hmem hcallback
  unarmed hclosed := absurd (hopen.symm.trans hclosed) (by decide)
  silent := h.silent
  entered := h.entered
  single := h.single
  selected := h.selected
  closes := h.closes

theorem Sound.schedulePoll (h : Sound w) (htimer : w.reader.timer = none) :
    Sound (schedulePoll w) := by
  rw [Python.schedulePoll]
  by_cases hguard : (!w.reader.closed && !w.loop.closed) = true
  · rw [if_pos hguard]
    simp only [Bool.and_eq_true, Bool.not_eq_true'] at hguard
    exact h.callLater hguard.1 htimer fun hcallback => by cases hcallback
  · rw [if_neg hguard]
    exact h

theorem Sound.scheduleLifetimeCheck (h : Sound w) (htimer : w.reader.timer = none) :
    Sound (scheduleLifetimeCheck w) := by
  rw [Python.scheduleLifetimeCheck]
  by_cases hguard : (!w.reader.closed && !w.loop.closed && w.subscription.stateCallable) = true
  · rw [if_pos hguard]
    simp only [Bool.and_eq_true, Bool.not_eq_true'] at hguard
    exact h.callLater hguard.1.1 htimer fun _ => hguard.2
  · rw [if_neg hguard]
    exact h

/-- The reader's callbacks keep what holds of it, where their last step does. -/
theorem exceptClauses_drain_sound {onNone : World → World} (turns : List Turn)
    (message : String) (handler outer : HandlerRun) (h : Sound w)
    (hlast : ∀ w₁, Sound w₁ → w₁.reader.timer = w.reader.timer → Sound (onNone w₁)) :
    Sound (handleRun outer (exceptClauses message handler (drain onNone turns w))) := by
  rcases (drain_drains onNone turns w).cases with hmoves | ⟨w₁, hmoves, -, hdrain⟩
  · have hclauses := hmoves.trans (exceptClauses_moves message handler _)
    exact (Moves.sound (hclauses.trans (handleRun_moves outer _)) h).1
  · obtain ⟨hsound, htimer⟩ := Moves.sound hmoves h
    rw [hdrain]
    exact hlast w₁ hsound htimer

/-- A timer that runs is no longer armed, and its callback forgets it first. -/
theorem Sound.fired (h : Sound w) {id : Nat} {callback : TimerCallback}
    (hmem : { id := id, callback := callback } ∈ w.loop.timers) :
    Sound ({ w with loop := w.loop.cancel id }.setTimer none) where
  timers timer hleft := by
    obtain ⟨hleft, hne⟩ := List.mem_filter.mp hleft
    have hset := (h.timers timer hleft).symm.trans (h.timers _ hmem)
    cases hset
    simp at hne
  callable timer hleft := h.callable timer (List.mem_filter.mp hleft).1
  unarmed hclosed := by
    have hempty := h.unarmed hclosed
    show w.loop.timers.filter _ = []
    rw [hempty]
    rfl
  silent := h.silent
  entered := h.entered
  single := h.single
  selected := h.selected
  closes := h.closes

theorem Sound.poll (h : Sound (w.setTimer none)) (turns : List Turn)
    (handler outer : HandlerRun) : Sound (handleRun outer (poll turns handler w)) := by
  have htimer : (w.setTimer none).reader.timer = none := rfl
  rw [Python.poll]
  generalize w.setTimer none = w₀ at h htimer ⊢
  by_cases hclosed : w₀.reader.closed = true
  · rw [if_pos hclosed]
    exact h
  · rw [if_neg hclosed]
    exact exceptClauses_drain_sound turns callbackFailed handler outer h
      fun w₁ hsound hsame => hsound.schedulePoll (hsame.trans htimer)

/-- What `state()` does. -/
theorem subscriptionState_cases (raised : Option PyException) (w : World) :
    (∃ exc, subscriptionState raised w = (.error exc, w.record (.subscriptionRaised exc)) ∧
        (w.subscription.removed = true → exc = .lookupError)) ∨
      w.subscription.removed = false ∧ subscriptionState raised w = (.ok (), w) := by
  rw [subscriptionState.eq_def]
  cases w.subscription.removed with
  | true => exact .inl ⟨.lookupError, rfl, fun _ => rfl⟩
  | false =>
    cases raised with
    | some exc => exact .inl ⟨exc, rfl, fun h => by cases h⟩
    | none => exact .inr ⟨rfl, rfl⟩

theorem Sound.checkSubscriptionLifetime (h : Sound (w.setTimer none))
    (raised : Option PyException) (handler outer : HandlerRun) :
    Sound (handleRun outer (checkSubscriptionLifetime raised handler w)) := by
  have htimer : (w.setTimer none).reader.timer = none := rfl
  rw [Python.checkSubscriptionLifetime]
  generalize w.setTimer none = w₀ at h htimer ⊢
  by_cases hclosed : w₀.reader.closed = true
  · rw [if_pos hclosed]
    exact h
  · rw [if_neg hclosed]
    by_cases hcallable : (!w₀.subscription.stateCallable) = true
    · rw [if_pos hcallable]
      exact h
    · rw [if_neg hcallable]
      rcases subscriptionState_cases raised w₀ with ⟨exc, hstate, -⟩ | ⟨-, hstate⟩
      · rw [hstate]
        have hnote : Moves w₀ (w₀.record (.subscriptionRaised exc)) := .single (.note _ _ id id)
        have hclauses := hnote.trans
          (exceptClauses_moves lifetimeCheckFailed handler (.error exc, _))
        exact (Moves.sound (hclauses.trans (handleRun_moves outer _)) h).1
      · rw [hstate]
        exact h.scheduleLifetimeCheck htimer

theorem Sound.loopClose (h : Sound w) : Sound { w with loop := w.loop.close } where
  timers _ hmem := absurd hmem List.not_mem_nil
  callable _ hmem := absurd hmem List.not_mem_nil
  unarmed _ := rfl
  silent := h.silent
  entered := h.entered
  single := h.single
  selected := h.selected
  closes := h.closes

theorem fire_eq_some {id : Nat} {callback : TimerCallback} {body : World → World}
    (h : fire id callback body w = some w') :
    { id := id, callback := callback } ∈ w.loop.timers ∧
      w' = body { w with loop := w.loop.cancel id } := by
  rw [fire] at h
  by_cases hguard : !w.loop.closed ∧ { id := id, callback := callback } ∈ w.loop.timers
  · rw [if_pos hguard] at h
    cases h
    exact ⟨hguard.2, rfl⟩
  · rw [if_neg hguard] at h
    cases h

theorem readable_eq_some {turns : List Turn} {handler outer : HandlerRun}
    (h : readable turns handler outer w = some w') :
    w' = handleRun outer (onReady turns handler w) := by
  rw [readable] at h
  cases hregistration : w.reader.registration with
  | polling =>
    rw [hregistration] at h
    cases h
  | selector fd =>
    simp only [hregistration] at h
    by_cases hguard : !w.loop.closed ∧ fd ∈ w.loop.readers
    · rw [if_pos hguard] at h
      cases h
      rfl
    · rw [if_neg hguard] at h
      cases h

/-- Every step keeps what holds of a reader. -/
theorem Sound.step {action : Action} (h : Sound w) (hstep : step action w = some w') :
    Sound w' := by
  cases action with
  | readable turns handler outer =>
    rw [readable_eq_some hstep]
    exact exceptClauses_drain_sound turns callbackFailed handler outer h fun w₁ hsound _ => hsound
  | pollTimer timer turns handler outer =>
    rw [Python.step] at hstep
    obtain ⟨hmem, rfl⟩ := fire_eq_some hstep
    exact (h.fired hmem).poll turns handler outer
  | lifetimeTimer timer raised handler outer =>
    rw [Python.step] at hstep
    obtain ⟨hmem, rfl⟩ := fire_eq_some hstep
    exact (h.fired hmem).checkSubscriptionLifetime raised handler outer
  | loopClose =>
    cases hstep
    exact h.loopClose
  | close =>
    cases hstep
    exact h.close .user
  | remove =>
    cases hstep
    exact h.remove

end Steps

/-! ## Starting -/

section Starting

variable {start : Start} {w : World}

theorem sound_world (start : Start) : Sound (start.world .polling) where
  timers _ hmem := absurd hmem List.not_mem_nil
  callable _ hmem := absurd hmem List.not_mem_nil
  unarmed _ := rfl
  silent := List.Pairwise.nil
  entered _ _ hmem := absurd hmem List.not_mem_nil
  single := Nat.zero_le _
  selected fd h := by cases h
  closes _ := rfl

theorem sound_selector (start : Start) (fd : Fd) (loop : EventLoop) (htimers : loop.timers = [])
    (hsupport : loop.readerSupport ≠ .missing) :
    Sound
      { start.world (.selector fd) with
        loop := loop
        descriptors := { duplicated := [fd], closes := [] } } where
  timers _ hmem := by
    rw [htimers] at hmem
    cases hmem
  callable _ hmem := by
    rw [htimers] at hmem
    cases hmem
  unarmed h := by cases h
  silent := List.Pairwise.nil
  entered _ _ hmem := absurd hmem List.not_mem_nil
  single := Nat.le_refl _
  selected fd' h := by
    cases h
    exact ⟨rfl, hsupport, fun _ => rfl⟩
  closes h := by
    rcases h with h | h
    · cases h
    · cases h

/-- The polling reader that takes the place of a reader that is closed. -/
theorem Sound.startPollReader (h : Sound w)
    (hclosed : w.reader.closed = true ∨ w.reader.registration = .polling)
    (htimers : w.loop.timers = []) : Sound (startPollReader w) := by
  refine Sound.schedulePoll ?_ rfl
  exact {
    timers := fun timer hmem => by
      rw [show w.loop.timers = [] from htimers] at hmem
      cases hmem
    callable := h.callable
    unarmed := fun h => by cases h
    silent := List.Pairwise.nil
    entered := fun _ _ hmem => absurd hmem List.not_mem_nil
    single := h.single
    selected := fun fd h => by cases h
    closes := fun _ => h.closes hclosed }

theorem addReader_eq_ok {loop loop' : EventLoop} {fd : Fd} {refused : Option PyException}
    (h : loop.addReader fd refused = .ok loop') :
    loop'.timers = loop.timers ∧ loop'.readerSupport = .supported := by
  rw [EventLoop.addReader.eq_def] at h
  cases hsupport : loop.readerSupport with
  | missing =>
    rw [hsupport] at h
    cases h
  | notImplemented =>
    rw [hsupport] at h
    cases h
  | supported =>
    simp only [hsupport] at h
    by_cases hclosed : loop.closed = true
    · rw [if_pos hclosed] at h
      cases h
    · rw [if_neg hclosed] at h
      cases refused with
      | some exc => cases h
      | none =>
        cases h
        exact ⟨rfl, rfl⟩

inductive Started : World → Prop
  | polling {w : World} (h : Sound w)
      (hclosed : w.reader.closed = true ∨ w.reader.registration = .polling)
      (htimers : w.loop.timers = []) : Started (startPollReader w)
  | selector {w : World} (h : Sound w) (htimer : w.reader.timer = none)
      (hjournal : w.reader.journal = []) : Started (scheduleLifetimeCheck w)

theorem started_of_addSelectorReader {fd : Fd} (hsupport : start.readerSupport ≠ .missing)
    (h : addSelectorReader start fd = .ok w) : Started w := by
  rw [addSelectorReader] at h
  cases hadd : (start.world (.selector fd)).loop.addReader fd start.refused with
  | ok loop =>
    simp only [hadd] at h
    cases h
    obtain ⟨htimers, hsupported⟩ := addReader_eq_ok hadd
    refine .selector (sound_selector start fd loop htimers ?_) rfl rfl
    rw [hsupported]
    decide
  | error exc =>
    simp only [hadd] at h
    by_cases hcaught : (exc.isInstance .attributeError || exc.isInstance .notImplementedError)
      = true
    · rw [if_pos hcaught] at h
      have hsound := sound_selector start fd (start.world (.selector fd)).loop rfl hsupport
      obtain ⟨hok, hclosed, -⟩ := close_spec hsound .reader
      have hafter := hsound.close .reader
      split at h
      · rename_i hclose
        cases hok.symm.trans (congrArg Prod.fst hclose)
      · rename_i w₁ hclose
        obtain rfl : _ = w₁ := congrArg Prod.snd hclose
        cases h
        exact .polling hafter (.inl hclosed) (hafter.unarmed hclosed)
    · rw [if_neg hcaught] at h
      cases h

theorem started_of_addReader (h : addReader start = .ok w) : Started w := by
  have hpolling : Started (startPollReader (start.world .polling)) :=
    .polling (sound_world start) (.inr rfl) rfl
  rw [addReader] at h
  by_cases hselector : start.readerSupport ≠ .missing ∧ start.subscription.hasFileno
  · rw [if_pos hselector] at h
    cases hduplicate : duplicateReaderFd start with
    | error exc =>
      rw [hduplicate] at h
      cases h
    | ok duplicated =>
      rw [hduplicate] at h
      cases duplicated with
      | none =>
        cases h
        exact hpolling
      | some fd => exact started_of_addSelectorReader hselector.1 h
  · rw [if_neg hselector] at h
    cases h
    exact hpolling

/-- A reader that `add_reader` returns is sound. -/
theorem Started.sound (h : Started w) : Sound w := by
  cases h with
  | polling h hclosed htimers => exact h.startPollReader hclosed htimers
  | selector h htimer => exact h.scheduleLifetimeCheck htimer

end Starting

/-! ## Removal -/

section Removal

variable {w w' : World} (handler outer : HandlerRun)

theorem closed_of_lookupError (h : Sound w) (message : String) :
    (handleRun outer (exceptClauses message handler (.error .lookupError, w))).reader.closed =
      true := by
  obtain ⟨hok, hclosed, -⟩ := close_spec h .reader
  rw [exceptClauses, if_pos (by decide)]
  cases hclose : close .reader w with
  | mk result w₁ =>
    rw [hclose] at hok hclosed
    cases hok
    exact hclosed

/-- The loop over the packets of a subscription that is removed closes the handle. -/
theorem drain_removed (h : Sound w) (hremoved : w.subscription.removed = true)
    (onNone : World → World) (turns : List Turn) (message : String) :
    (handleRun outer (exceptClauses message handler (drain onNone turns w))).reader.closed =
      true := by
  have hpresent : w.subscription.removed ≠ false := Bool.ne_false_iff.mpr hremoved
  cases hrun : drain onNone turns w with
  | mk result w₁ =>
    have hdrains := drain_drains onNone turns w
    rw [hrun] at hdrains
    cases hdrains with
    | closed hclosed => exact hclosed
    | failed hopen hrecv =>
      obtain ⟨rfl, ⟨-, rfl⟩ | ⟨hfalse, -⟩⟩ := recvNowait_error hrecv
      · exact closed_of_lookupError handler outer (h.record id fun _ => id) message
      · exact absurd hfalse hpresent
    | empty hopen hrecv => exact absurd (recvNowait_none hrecv).1 hpresent
    | raised hopen hrecv hcall => exact absurd (recvNowait_some hrecv).1 hpresent
    | next hopen hrecv hcall hrest => exact absurd (recvNowait_some hrecv).1 hpresent

/-- Once the subscription is removed, the next callback of the loop closes the handle. -/
theorem closed_of_removed {action : Action} (h : Sound w) (hremoved : w.subscription.removed = true)
    (haction : action.IsCallback) (hstep : step action w = some w') : w'.reader.closed = true := by
  cases action with
  | readable turns handler outer =>
    rw [readable_eq_some hstep]
    exact drain_removed handler outer h hremoved id turns callbackFailed
  | pollTimer timer turns handler outer =>
    rw [Python.step] at hstep
    obtain ⟨hmem, rfl⟩ := fire_eq_some hstep
    have hfired := h.fired hmem
    rw [poll]
    by_cases hclosed : w.reader.closed = true
    · rw [if_pos (by exact hclosed)]
      exact hclosed
    · rw [if_neg (by exact hclosed)]
      exact drain_removed handler outer hfired hremoved schedulePoll turns callbackFailed
  | lifetimeTimer timer raised handler outer =>
    rw [Python.step] at hstep
    obtain ⟨hmem, rfl⟩ := fire_eq_some hstep
    have hfired := h.fired hmem
    have hcallable := h.callable _ hmem rfl
    rw [checkSubscriptionLifetime]
    by_cases hclosed : w.reader.closed = true
    · rw [if_pos (by exact hclosed)]
      exact hclosed
    · rw [if_neg (by exact hclosed), if_neg (by simp [World.setTimer, hcallable])]
      rcases subscriptionState_cases raised ({ w with loop := w.loop.cancel timer }.setTimer none)
        with ⟨exc, hstate, hexc⟩ | ⟨hpresent, -⟩
      · cases hexc hremoved
        rw [hstate]
        exact closed_of_lookupError handler outer (hfired.record id fun _ => id)
          lifetimeCheckFailed
      · exact absurd (hremoved.symm.trans hpresent) (by decide)
  | loopClose => exact haction.elim
  | close => exact haction.elim
  | remove => exact haction.elim

end Removal

section Runs

variable {w w' : World} {actions : List Action}

theorem sound_of_run (h : Sound w) (hrun : Transition.run step actions w = some w') : Sound w' := by
  have hmeets : Transition.Meets step (fun _ _ => True) actions w :=
    Transition.meets_of_mem (fun _ _ _ => trivial) w
  exact Transition.invariant_of_meets (fun _ _ _ _ hsound hstep => hsound.step hstep) hmeets h hrun

theorem Sound.count_closes (h : Sound w) (hclosed : w.reader.closed = true) {fd : Fd}
    (hmem : fd ∈ w.descriptors.duplicated) : w.descriptors.closes.count fd = 1 := by
  rw [h.closes (.inl hclosed)]
  have hpositive := List.count_pos_iff.mpr hmem
  have hle := (List.count_le_length (a := fd) (l := w.descriptors.duplicated)).trans h.single
  omega

theorem Sound.count_closes_le (h : Sound w) (fd : Fd) : w.descriptors.closes.count fd ≤ 1 := by
  have hle := (List.count_le_length (a := fd) (l := w.descriptors.duplicated)).trans h.single
  cases hregistration : w.reader.registration with
  | polling => rwa [h.closes (.inr hregistration)]
  | selector fd' =>
    cases hclosed : w.reader.closed with
    | true => rwa [h.closes (.inl hclosed)]
    | false =>
      rw [(h.selected fd' hregistration).2.2 hclosed]
      exact Nat.zero_le _

end Runs

/-- A handle on which `close` has been called starts no callback, takes no packet, has no timer
armed and its duplicated descriptor closed, and a descriptor is never closed twice.  Once the
subscription is removed, the next callback of the loop closes the handle. -/
theorem reader_close_is_silent (start : Start) (w w' : World) (actions : List Action)
    (hstart : addReader start = .ok w) (hrun : Transition.run step actions w = some w') :
    Silent w'.reader.journal ∧
      ((∃ event ∈ w'.reader.journal, event.IsClose) →
        w'.reader.closed = true ∧ w'.loop.timers = [] ∧
          ∀ fd ∈ w'.descriptors.duplicated, w'.descriptors.closes.count fd = 1) ∧
      (∀ fd, w'.descriptors.closes.count fd ≤ 1) ∧
      ∀ action w'', w'.subscription.removed = true → action.IsCallback →
        step action w' = some w'' → w''.reader.closed = true := by
  have h : Sound w' := sound_of_run (started_of_addReader hstart).sound hrun
  refine ⟨h.silent, ?_, h.count_closes_le, ?_⟩
  · rintro ⟨event, hmem, hevent⟩
    have hclosed : w'.reader.closed = true := by
      by_contra hopen
      exact h.entered (Bool.eq_false_iff.mpr hopen) event hmem hevent
    exact ⟨hclosed, h.unarmed hclosed, fun fd => h.count_closes hclosed⟩
  · exact fun action w'' hremoved haction hstep => closed_of_removed h hremoved haction hstep

def selectorStart : Start :=
  { subscription := { removed := false, hasFileno := true, stateCallable := true }
    loopClosed := false
    readerSupport := .supported
    duplicated := .ok 7
    refused := none }

def samplePacket : Packet :=
  { subscriptionId := ⟨1⟩
    source := { ip := .v4 (.new 192 0 2 1), port := 4000 }
    group := .v4 (.new 239 1 2 5)
    dstPort := 55132
    payload := [1, 2, 3] }

def quietHandler : HandlerRun := { effects := [], raised := none }

/-- Two packets are there, and the callback closes the handle at the first. -/
def closingTurns : List Turn :=
  [{ answer := .packet samplePacket, callback := { effects := [.close], outcome := .returns } },
    { answer := .packet samplePacket, callback := { effects := [], outcome := .returns } }]

def selectorWorld : World :=
  { subscription := selectorStart.subscription
    loop :=
      { closed := false
        readerSupport := .supported
        readers := [7]
        timers := [{ id := 0, callback := .checkSubscriptionLifetime }]
        nextTimer := 1 }
    descriptors := { duplicated := [7], closes := [] }
    reader := { newReader (.selector 7) with timer := some 0 } }

/-- The second packet is left to the subscription. -/
def closedWorld : World :=
  { subscription := selectorStart.subscription
    loop :=
      { closed := false, readerSupport := .supported, readers := [], timers := [], nextTimer := 1 }
    descriptors := { duplicated := [7], closes := [7] }
    reader :=
      { registration := .selector 7
        closed := true
        timer := some 0
        journal :=
          [.packetTaken samplePacket, .callbackStarted samplePacket, .closeEntered .user,
            .closeEntered .user] } }

theorem reader_close_is_silent_in_callback :
    Silent closedWorld.reader.journal ∧ closedWorld.reader.closed = true :=
  ⟨(reader_close_is_silent selectorStart selectorWorld closedWorld
      [.readable closingTurns quietHandler quietHandler, .close] (by decide) (by decide)).1, rfl⟩

end Python

end McrxCore
