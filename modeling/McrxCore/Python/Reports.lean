import McrxCore.Python.Reader

/-!
# What becomes of an exception

A journal in which no exception of a packet callback is swallowed, and which of them the
`except` clauses of a reader report.  They take a `LookupError` for the removal of the
subscription, wherever it comes from.
-/

namespace McrxCore

namespace Python

/-! ## Journals -/

/-- A call of `close` by the user. -/
def Event.IsUserClose : Event → Prop
  | .closeEntered .user => True
  | _ => False

/-- A report, or a `LookupError` of the subscription's own. -/
def Event.ExplainsClose : Event → Prop
  | .reported _ _ => True
  | .subscriptionRaised exc => exc.isInstance .lookupError = true
  | _ => False

/-- The last event is one that explains why the reader closes, calls of `close` by the user
apart. -/
def Explained (journal : List Event) : Prop :=
  ∃ before cause users, journal = before ++ cause :: users ∧ cause.ExplainsClose ∧
    ∀ event ∈ users, event.IsUserClose

/-- Every exception of the packet callback is reported, with no close in between, and every
close by the reader is explained. -/
structure NeverSwallows (journal : List Event) : Prop where
  reported : ∀ before exc after, journal = before ++ .callbackRaised exc :: after →
    ∃ between message rest, after = between ++ .reported message exc :: rest ∧
      ∀ event ∈ between, ¬ event.IsClose
  explained : ∀ before after, journal = before ++ .closeEntered .reader :: after →
    Explained before

section Journals

variable {journal users : List Event} {event : Event}

theorem append_singleton_eq {before after : List Event} {last : Event}
    (h : journal ++ [last] = before ++ event :: after) :
    (journal = before ∧ last = event ∧ after = []) ∨
      ∃ rest, after = rest ++ [last] ∧ journal = before ++ event :: rest := by
  rcases List.eq_nil_or_concat after with rfl | ⟨rest, last', rfl⟩
  · obtain ⟨hbefore, hlast⟩ := List.append_inj' h rfl
    cases hlast
    exact .inl ⟨hbefore, rfl, rfl⟩
  · rw [List.concat_eq_append, ← List.cons_append, ← List.append_assoc] at h
    obtain ⟨hbefore, hlast⟩ := List.append_inj' h rfl
    cases hlast
    exact .inr ⟨rest, List.concat_eq_append, hbefore⟩

theorem NeverSwallows.nil : NeverSwallows [] where
  reported before exc after h := by cases before <;> cases h
  explained before after h := by cases before <;> cases h

/-- An exception of the callback is still reported when the journal goes on. -/
theorem reported_append {exc : PyException} {last : Event} {rest : List Event}
    (h : ∃ between message rest', rest = between ++ .reported message exc :: rest' ∧
      ∀ event ∈ between, ¬ event.IsClose) :
    ∃ between message rest', rest ++ [last] = between ++ .reported message exc :: rest' ∧
      ∀ event ∈ between, ¬ event.IsClose := by
  obtain ⟨between, message, rest', rfl, hbetween⟩ := h
  exact ⟨between, message, rest' ++ [last], by rw [List.append_assoc, List.cons_append], hbetween⟩

/-- An event that is neither an exception of the callback nor a close by the reader. -/
theorem NeverSwallows.append (h : NeverSwallows journal) (event : Event)
    (hraised : ∀ exc, event ≠ .callbackRaised exc) (hclose : event ≠ .closeEntered .reader) :
    NeverSwallows (journal ++ [event]) where
  reported before exc after hsplit := by
    rcases append_singleton_eq hsplit with ⟨-, hevent, -⟩ | ⟨rest, rfl, hjournal⟩
    · exact absurd hevent (hraised exc)
    · exact reported_append (h.reported before exc rest hjournal)
  explained before after hsplit := by
    rcases append_singleton_eq hsplit with ⟨-, hevent, -⟩ | ⟨rest, rfl, hjournal⟩
    · exact absurd hevent hclose
    · exact h.explained before rest hjournal

/-- An exception of the callback that is reported at once. -/
theorem NeverSwallows.append_reported (h : NeverSwallows journal) (message : String)
    (exc : PyException) :
    NeverSwallows (journal ++ [.callbackRaised exc] ++ [.reported message exc]) where
  reported before exc' after hsplit := by
    rcases append_singleton_eq hsplit with ⟨-, hevent, -⟩ | ⟨rest, rfl, hraised⟩
    · cases hevent
    · rcases append_singleton_eq hraised with ⟨-, hevent, rfl⟩ | ⟨rest', rfl, hjournal⟩
      · cases hevent
        exact ⟨[], message, [], rfl, fun _ hmem => absurd hmem List.not_mem_nil⟩
      · exact reported_append (reported_append (h.reported before exc' rest' hjournal))
  explained before after hsplit := by
    rcases append_singleton_eq hsplit with ⟨-, hevent, -⟩ | ⟨rest, rfl, hraised⟩
    · cases hevent
    · rcases append_singleton_eq hraised with ⟨-, hevent, -⟩ | ⟨rest', rfl, hjournal⟩
      · cases hevent
      · exact h.explained before rest' hjournal

/-- A close by the reader that is explained. -/
theorem NeverSwallows.append_close (h : NeverSwallows journal) (hexplained : Explained journal) :
    NeverSwallows (journal ++ [.closeEntered .reader]) where
  reported before exc after hsplit := by
    rcases append_singleton_eq hsplit with ⟨-, hevent, -⟩ | ⟨rest, rfl, hjournal⟩
    · cases hevent
    · exact reported_append (h.reported before exc rest hjournal)
  explained before after hsplit := by
    rcases append_singleton_eq hsplit with ⟨rfl, -, -⟩ | ⟨rest, rfl, hjournal⟩
    · exact hexplained
    · exact h.explained before rest hjournal

theorem NeverSwallows.append_users (h : NeverSwallows journal)
    (husers : ∀ event ∈ users, event.IsUserClose) : NeverSwallows (journal ++ users) := by
  induction users generalizing journal with
  | nil => rwa [List.append_nil]
  | cons event users ih =>
    have hevent := husers event List.mem_cons_self
    have hquiet : NeverSwallows (journal ++ [event]) := by
      refine h.append event ?_ ?_
      · rintro exc rfl
        exact hevent
      · rintro rfl
        exact hevent
    have hrest := ih hquiet fun event hmem => husers event (List.mem_cons_of_mem _ hmem)
    rwa [List.append_assoc] at hrest

theorem NeverSwallows.append_report (h : NeverSwallows journal) (message : String)
    (exc : PyException) : NeverSwallows (journal ++ [.reported message exc]) :=
  h.append _ (fun _ h => by cases h) fun h => by cases h

/-- What a report leads to: calls of `close` by the user, and then perhaps by the reader. -/
theorem NeverSwallows.append_tail {message : String} {exc : PyException} {tail : List Event}
    (h : NeverSwallows (journal ++ [.reported message exc]))
    (husers : ∀ event ∈ users, event.IsUserClose)
    (htail : tail = [] ∨ tail = [.closeEntered .reader]) :
    NeverSwallows (journal ++ [.reported message exc] ++ users ++ tail) := by
  have hall := h.append_users husers
  rcases htail with rfl | rfl
  · rwa [List.append_nil]
  · refine hall.append_close ⟨journal, .reported message exc, users, ?_, trivial, husers⟩
    rw [List.append_assoc, List.singleton_append]

/-- An exception of the callback that no report follows is swallowed. -/
theorem not_neverSwallows {exc : PyException} {after : List Event}
    (hafter : ∀ message, .reported message exc ∉ after) :
    ¬ NeverSwallows (journal ++ .callbackRaised exc :: after) := by
  intro h
  obtain ⟨between, message, rest, rfl, -⟩ := h.reported journal exc after rfl
  exact hafter message (List.mem_append_right _ List.mem_cons_self)

end Journals

/-! ## Outside code -/

/-- Outside code enters nothing in the journal but its calls of `close`. -/
theorem runEffects_spec (effects : List Effect) {w : World} (h : Sound w) :
    ∃ users, (runEffects effects w).reader.journal = w.reader.journal ++ users ∧
      (∀ event ∈ users, event.IsUserClose) ∧
      (runEffects effects w).reader.closed = (w.reader.closed || decide (.close ∈ effects)) ∧
      (runEffects effects w).subscription.removed =
        (w.subscription.removed || decide (.remove ∈ effects)) := by
  induction effects generalizing w with
  | nil => exact ⟨[], by simp [runEffects]⟩
  | cons effect effects ih =>
    cases effect with
    | close =>
      obtain ⟨-, hclosed, -, hjournal, hsubscription⟩ := close_spec h .user
      obtain ⟨users, hrest, husers, hclosed', hremoved⟩ := ih (h.close .user)
      refine ⟨.closeEntered .user :: users, ?_, ?_, ?_, ?_⟩
      · rw [runEffects, hrest, hjournal, List.append_assoc, List.singleton_append]
      · intro event hmem
        rcases List.mem_cons.mp hmem with rfl | hmem
        · trivial
        · exact husers event hmem
      · rw [runEffects, hclosed', hclosed]
        simp
      · rw [runEffects, hremoved, hsubscription]
        simp
    | remove =>
      obtain ⟨users, hrest, husers, hclosed, hremoved⟩ := ih h.remove
      refine ⟨users, hrest, husers, ?_, ?_⟩
      · rw [runEffects, hclosed]
        simp [World.remove]
      · rw [runEffects, hremoved]
        simp [World.remove]

/-- The handler is passed the exception first, and what leaves it leaves the loop. -/
theorem callExceptionHandler_cases (message : String) (exc : PyException) (handler : HandlerRun)
    {w : World} (h : Sound w) :
    ∃ w₁ users, Sound w₁ ∧
      w₁.reader.journal = w.reader.journal ++ [.reported message exc] ++ users ∧
      (∀ event ∈ users, event.IsUserClose) ∧
      (callExceptionHandler message exc handler w = (.ok (), w₁) ∨
        ∃ raised, raised.leavesLoop = true ∧
          callExceptionHandler message exc handler w = (.error raised, w₁)) := by
  have hreport : Sound (w.record (.reported message exc)) := h.record id fun _ => id
  obtain ⟨users, hjournal, husers, -⟩ := runEffects_spec handler.effects hreport
  have hsound := (Moves.sound (runEffects_moves handler.effects _) hreport).1
  refine ⟨_, users, hsound, hjournal, husers, ?_⟩
  rw [callExceptionHandler]
  cases handler.raised with
  | none => exact .inl rfl
  | some raised =>
    by_cases hleaves : raised.leavesLoop = true
    · exact .inr ⟨raised, hleaves, if_pos hleaves⟩
    · exact .inl (if_neg hleaves)

/-! ## The except clauses -/

/-- The `except` clauses report the exception, or the event loop does. -/
def PyException.Reportable (exc : PyException) : Prop :=
  exc.isInstance .lookupError = false ∧
    (exc.isInstance .exception = true ∨ exc.leavesLoop = false)

inductive Aftermath (exc : PyException) (journal : List Event) : List Event → Prop
  | closed (h : exc.isInstance .lookupError = true) :
      Aftermath exc journal (journal ++ [.closeEntered .reader])
  | reported {message : String} {users tail : List Event} (h : exc.Reportable)
      (husers : ∀ event ∈ users, event.IsUserClose)
      (htail : tail = [] ∨ tail = [.closeEntered .reader]) :
      Aftermath exc journal (journal ++ [.reported message exc] ++ users ++ tail)
  | lost (h : ¬ exc.Reportable) (hlookup : exc.isInstance .lookupError = false) :
      Aftermath exc journal journal

theorem aftermath (message : String) (exc : PyException) (handler outer : HandlerRun) {w : World}
    (h : Sound w) :
    Aftermath exc w.reader.journal
      (handleRun outer (exceptClauses message handler (.error exc, w))).reader.journal := by
  rw [exceptClauses]
  by_cases hlookup : exc.isInstance .lookupError = true
  · rw [if_pos hlookup]
    obtain ⟨hok, -, -, hjournal, -⟩ := close_spec h .reader
    cases hclose : close .reader w with
    | mk result w₁ =>
      rw [hclose] at hok hjournal
      cases hok
      show Aftermath exc _ w₁.reader.journal
      rw [hjournal]
      exact .closed hlookup
  · rw [if_neg hlookup]
    have hlookup := Bool.eq_false_iff.mpr hlookup
    by_cases hexception : exc.isInstance .exception = true
    · rw [if_pos hexception]
      have hreportable : exc.Reportable := ⟨hlookup, .inl hexception⟩
      obtain ⟨w₁, users, hsound, hjournal, husers, hcall | ⟨raised, hleaves, hcall⟩⟩ :=
        callExceptionHandler_cases message exc handler h
      · rw [hcall]
        obtain ⟨hok, -, -, hclosing, -⟩ := close_spec hsound .reader
        cases hclose : close .reader w₁ with
        | mk result w₂ =>
          rw [hclose] at hok hclosing
          cases hok
          show Aftermath exc _ (handleRun outer (close .reader w₁)).reader.journal
          rw [hclose]
          show Aftermath exc _ w₂.reader.journal
          rw [hclosing, hjournal]
          exact .reported hreportable husers (.inr rfl)
      · rw [hcall]
        show Aftermath exc _ (if raised.leavesLoop then w₁ else _).reader.journal
        rw [if_pos hleaves, hjournal, ← List.append_nil (_ ++ users)]
        exact .reported hreportable husers (.inl rfl)
    · rw [if_neg hexception, handleRun]
      by_cases hleaves : exc.leavesLoop = true
      · rw [if_pos hleaves]
        refine .lost ?_ hlookup
        rintro ⟨-, hexception' | hstays⟩
        · exact hexception hexception'
        · rw [hleaves] at hstays
          cases hstays
      · rw [if_neg hleaves]
        have hreportable : exc.Reportable := ⟨hlookup, .inr (Bool.eq_false_iff.mpr hleaves)⟩
        obtain ⟨w₁, users, -, hjournal, husers, hcall | ⟨raised, -, hcall⟩⟩ :=
          callExceptionHandler_cases "Exception in callback" exc outer h
        · rw [hcall, hjournal, ← List.append_nil (_ ++ users)]
          exact .reported hreportable husers (.inl rfl)
        · rw [hcall, hjournal, ← List.append_nil (_ ++ users)]
          exact .reported hreportable husers (.inl rfl)

/-! ## Drains -/

/-- What the packet callback raises in the loop over packets, which ends there.  The flags say
whether the handle is closed and the subscription removed. -/
def callbackError : List Turn → Bool → Bool → Option PyException
  | [], _, _ => none
  | turn :: turns, closed, removed =>
    if closed || removed then none
    else
      match turn.answer, turn.callback.outcome with
      | .packet _, .raises exc => some exc
      | .packet _, .returns | .packet _, .returnsAwaitable =>
        callbackError turns (decide (.close ∈ turn.callback.effects))
          (decide (.remove ∈ turn.callback.effects))
      | _, _ => none

/-- The end of a loop over packets, whose callback has raised the exception or none. -/
inductive DrainEnd (raised : Option PyException) : Run → Prop
  | done {w : World} (hnone : raised = none) (h : NeverSwallows w.reader.journal) :
      DrainEnd raised (.ok (), w)
  | refused {w : World} {journal : List Event} {exc : PyException} (hnone : raised = none)
      (h : NeverSwallows journal)
      (hjournal : w.reader.journal = journal ++ [.subscriptionRaised exc]) :
      DrainEnd raised (.error exc, w)
  | foreign {w : World} (hnone : raised = none) (h : NeverSwallows w.reader.journal) :
      DrainEnd raised (.error .foreignFuture, w)
  | raised {w : World} {journal : List Event} {exc : PyException} (hsome : raised = some exc)
      (h : NeverSwallows journal)
      (hjournal : w.reader.journal = journal ++ [.callbackRaised exc]) :
      DrainEnd raised (.error exc, w)

section Drains

variable {turn : Turn} {turns : List Turn} {w : World}

theorem callbackError_closed (removed : Bool) : callbackError turns true removed = none := by
  cases turns with
  | nil => rfl
  | cons turn turns => rfl

theorem callbackError_removed (closed : Bool) : callbackError turns closed true = none := by
  cases turns with
  | nil => rfl
  | cons turn turns => rw [callbackError, Bool.or_true, if_pos rfl]

theorem callbackError_of_no_packet (closed removed : Bool)
    (h : ∀ packet, firstAnswer turns ≠ .packet packet) :
    callbackError turns closed removed = none := by
  cases turns with
  | nil => rfl
  | cons turn turns =>
    rw [callbackError]
    by_cases hflag : (closed || removed) = true
    · rw [if_pos hflag]
    · rw [if_neg hflag]
      cases hanswer : turn.answer with
      | packet packet => exact absurd hanswer (h packet)
      | none => rfl
      | raises exc => rfl

section Cons

variable {packet : Packet} (hanswer : turn.answer = .packet packet)
include hanswer

theorem callbackError_of_raises {exc : PyException} (h : turn.callback.outcome = .raises exc) :
    callbackError (turn :: turns) false false = some exc := by
  rw [callbackError, if_neg (by decide), hanswer, h]

theorem callbackError_of_foreign (h : turn.callback.outcome = .returnsForeignFuture) :
    callbackError (turn :: turns) false false = none := by
  rw [callbackError, if_neg (by decide), hanswer, h]

theorem callbackError_of_returns
    (h : turn.callback.outcome = .returns ∨ turn.callback.outcome = .returnsAwaitable) :
    callbackError (turn :: turns) false false =
      callbackError turns (decide (.close ∈ turn.callback.effects))
        (decide (.remove ∈ turn.callback.effects)) := by
  rw [callbackError, if_neg (by decide), hanswer]
  rcases h with h | h
  · rw [h]
  · rw [h]

end Cons

/-- A turn up to the effects of the callback. -/
theorem call_spec {w₁ : World} {packet : Packet} {effects : List Effect}
    (hgood : NeverSwallows w.reader.journal) (h : Sound w) (hopen : w.reader.closed = false)
    (hpresent : w.subscription.removed = false)
    (hw₁ : w₁ = runEffects effects
      ((w.record (.packetTaken packet)).record (.callbackStarted packet))) :
    Sound w₁ ∧ NeverSwallows w₁.reader.journal ∧
      w₁.reader.closed = decide (.close ∈ effects) ∧
      w₁.subscription.removed = decide (.remove ∈ effects) := by
  have htaken : Sound (w.record (.packetTaken packet)) := (Move.sound (.active w _ hopen id) h).1
  have hstarted : Sound ((w.record (.packetTaken packet)).record (.callbackStarted packet)) :=
    (Move.sound (.active _ _ (by exact hopen) id) htaken).1
  obtain ⟨users, hjournal, husers, hclosed, hremoved⟩ := runEffects_spec effects hstarted
  subst hw₁
  refine ⟨(Moves.sound (runEffects_moves effects _) hstarted).1, ?_, ?_, ?_⟩
  · rw [hjournal]
    refine NeverSwallows.append_users ?_ husers
    have hquiet := hgood.append (.packetTaken packet) (fun exc h => by cases h)
      (fun h => by cases h)
    exact hquiet.append (.callbackStarted packet) (fun exc h => by cases h)
      (fun h => by cases h)
  · rw [hclosed]
    show (w.reader.closed || _) = _
    rw [hopen, Bool.false_or]
  · rw [hremoved]
    show (w.subscription.removed || _) = _
    rw [hpresent, Bool.false_or]

theorem Drains.drainEnd {onNone : World → World} {run : Run} (hdrains : Drains onNone turns w run)
    (hjournal : ∀ w, (onNone w).reader.journal = w.reader.journal) (h : Sound w)
    (hgood : NeverSwallows w.reader.journal) :
    DrainEnd (callbackError turns w.reader.closed w.subscription.removed) run := by
  induction hdrains with
  | closed hclosed =>
    rw [hclosed]
    exact .done (callbackError_closed _) hgood
  | failed hopen hrecv =>
    obtain ⟨rfl, ⟨hremoved, rfl⟩ | ⟨-, hanswer⟩⟩ := recvNowait_error hrecv
    · rw [hremoved]
      exact .refused (callbackError_removed _) hgood rfl
    · refine .refused (callbackError_of_no_packet _ _ fun packet hpacket => ?_) hgood rfl
      rw [hanswer] at hpacket
      cases hpacket
  | empty hopen hrecv =>
    obtain ⟨-, hanswer, rfl⟩ := recvNowait_none hrecv
    refine .done (callbackError_of_no_packet _ _ fun packet hpacket => ?_) ?_
    · rw [hanswer] at hpacket
      cases hpacket
    · rw [hjournal]
      exact hgood
  | raised hopen hrecv hcall =>
    obtain ⟨hpresent, hanswer, rfl⟩ := recvNowait_some hrecv
    obtain ⟨w₁, hw₁, hend⟩ := scheduleCallbackResult_inv hcall
    obtain ⟨-, hgood₁, -⟩ := call_spec hgood h hopen hpresent hw₁
    rw [hopen, hpresent]
    rcases hend with ⟨hresult, -⟩ | ⟨hresult, rfl, houtcome⟩ | ⟨exc, hresult, rfl, houtcome⟩
    · cases hresult
    · cases hresult
      exact .foreign (callbackError_of_foreign hanswer houtcome) hgood₁
    · cases hresult
      exact .raised (callbackError_of_raises hanswer houtcome) hgood₁ rfl
  | next hopen hrecv hcall hrest ih =>
    obtain ⟨hpresent, hanswer, rfl⟩ := recvNowait_some hrecv
    obtain ⟨w₁, hw₁, hend⟩ := scheduleCallbackResult_inv hcall
    obtain ⟨hsound₁, hgood₁, hclosed₁, hremoved₁⟩ := call_spec hgood h hopen hpresent hw₁
    rw [hopen, hpresent]
    rcases hend with ⟨-, rfl, houtcome⟩ | ⟨hresult, -⟩ | ⟨exc, hresult, -⟩
    · rw [callbackError_of_returns hanswer houtcome, ← hclosed₁, ← hremoved₁]
      exact ih hsound₁ hgood₁
    · cases hresult
    · cases hresult

/-- The reader's `except` clauses, and the event loop after them, swallow nothing exactly when
what the callback has raised is reported. -/
theorem DrainEnd.neverSwallows_iff {raised : Option PyException} {run : Run}
    (hend : DrainEnd raised run) (h : ∀ exc w, run = (.error exc, w) → Sound w)
    (message : String) (handler outer : HandlerRun) :
    NeverSwallows (handleRun outer (exceptClauses message handler run)).reader.journal ↔
      ∀ exc, raised = some exc → exc.Reportable := by
  cases hend with
  | done hnone hgood =>
    exact iff_of_true hgood fun exc hsome => by rw [hnone] at hsome; cases hsome
  | refused hnone hgood hjournal =>
    rename_i w journal exc
    have hrefused : NeverSwallows w.reader.journal := by
      rw [hjournal]
      exact hgood.append (.subscriptionRaised exc) (fun exc h => by cases h) fun h => by cases h
    refine iff_of_true ?_ fun exc hsome => by rw [hnone] at hsome; cases hsome
    have hafter := aftermath message exc handler outer (h exc w rfl)
    generalize (handleRun outer _).reader.journal = after at hafter ⊢
    cases hafter with
    | closed hlookup =>
      exact hrefused.append_close ⟨journal, _, [], hjournal, hlookup, fun _ hmem =>
        absurd hmem List.not_mem_nil⟩
    | reported _ husers htail =>
      exact (hrefused.append_report _ exc).append_tail husers htail
    | lost => exact hrefused
  | foreign hnone hgood =>
    refine iff_of_true ?_ fun exc hsome => by rw [hnone] at hsome; cases hsome
    have hafter := aftermath message .foreignFuture handler outer (h _ _ rfl)
    generalize (handleRun outer _).reader.journal = after at hafter ⊢
    cases hafter with
    | closed hlookup => cases hlookup
    | reported _ husers htail =>
      exact (hgood.append_report _ .foreignFuture).append_tail husers htail
    | lost => exact hgood
  | raised hsome hgood hjournal =>
    rename_i w journal exc
    have hreportable : (∀ exc, raised = some exc → exc.Reportable) ↔ exc.Reportable := by
      rw [hsome]
      exact ⟨fun h => h exc rfl, fun h _ heq => Option.some.inj heq ▸ h⟩
    rw [hreportable]
    have hafter := aftermath message exc handler outer (h exc w rfl)
    rw [hjournal] at hafter
    generalize (handleRun outer _).reader.journal = after at hafter ⊢
    cases hafter with
    | closed hlookup =>
      refine iff_of_false ?_ fun hreportable => ?_
      · rw [List.append_assoc]
        exact not_neverSwallows fun message hmem => by simp at hmem
      · rw [hreportable.1] at hlookup
        cases hlookup
    | reported hreportable husers htail =>
      exact iff_of_true ((hgood.append_reported _ exc).append_tail husers htail) hreportable
    | lost hlost =>
      exact iff_of_false (not_neverSwallows fun message => List.not_mem_nil) hlost

theorem drain_neverSwallows_iff {onNone : World → World} (turns : List Turn) (message : String)
    (handler outer : HandlerRun) (hjournal : ∀ w, (onNone w).reader.journal = w.reader.journal)
    (h : Sound w) (hgood : NeverSwallows w.reader.journal) :
    NeverSwallows
        (handleRun outer (exceptClauses message handler (drain onNone turns w))).reader.journal ↔
      ∀ exc, callbackError turns w.reader.closed w.subscription.removed = some exc →
        exc.Reportable := by
  have hdrains := drain_drains onNone turns w
  refine (hdrains.drainEnd hjournal h hgood).neverSwallows_iff ?_ message handler outer
  intro exc w₁ hrun
  rw [hrun] at hdrains
  rcases hdrains.cases with hmoves | ⟨w₂, -, -, hdone⟩
  · exact (Moves.sound hmoves h).1
  · cases hdone

end Drains

/-! ## Steps and runs -/

def raisedIn (w : World) : Action → Option PyException
  | .readable turns _ _ | .pollTimer _ turns _ _ =>
    callbackError turns w.reader.closed w.subscription.removed
  | .lifetimeTimer .. | .loopClose | .close | .remove => none

/-- A step that the loop cannot take raises nothing. -/
def Reports (w : World) (action : Action) : Prop :=
  (step action w).isSome = true → ∀ exc, raisedIn w action = some exc → exc.Reportable

section Steps

variable {w w' : World}

theorem schedulePoll_journal (w : World) : (schedulePoll w).reader.journal = w.reader.journal := by
  rw [schedulePoll]
  by_cases hguard : (!w.reader.closed && !w.loop.closed) = true
  · rw [if_pos hguard]
    rfl
  · rw [if_neg hguard]

theorem scheduleLifetimeCheck_journal (w : World) :
    (scheduleLifetimeCheck w).reader.journal = w.reader.journal := by
  rw [scheduleLifetimeCheck]
  by_cases hguard : (!w.reader.closed && !w.loop.closed && w.subscription.stateCallable) = true
  · rw [if_pos hguard]
    rfl
  · rw [if_neg hguard]

theorem checkSubscriptionLifetime_neverSwallows (raised : Option PyException)
    (handler outer : HandlerRun) (h : Sound (w.setTimer none))
    (hgood : NeverSwallows (w.setTimer none).reader.journal) :
    NeverSwallows
      (handleRun outer (checkSubscriptionLifetime raised handler w)).reader.journal := by
  rw [checkSubscriptionLifetime]
  generalize w.setTimer none = w₀ at h hgood ⊢
  by_cases hclosed : w₀.reader.closed = true
  · rw [if_pos hclosed]
    exact hgood
  · rw [if_neg hclosed]
    by_cases hcallable : (!w₀.subscription.stateCallable) = true
    · rw [if_pos hcallable]
      exact hgood
    · rw [if_neg hcallable]
      rcases subscriptionState_cases raised w₀ with ⟨exc, hstate, -⟩ | ⟨-, hstate⟩
      · rw [hstate]
        have hend : DrainEnd none (.error exc, w₀.record (.subscriptionRaised exc)) :=
          .refused rfl hgood rfl
        refine (hend.neverSwallows_iff ?_ lifetimeCheckFailed handler outer).mpr
          fun exc h => by cases h
        intro exc w₁ hrun
        cases hrun
        exact h.record id fun _ => id
      · rw [hstate]
        show NeverSwallows (scheduleLifetimeCheck w₀).reader.journal
        rw [scheduleLifetimeCheck_journal]
        exact hgood

/-- A step swallows nothing exactly when it reports what the callback raises in it. -/
theorem reports_iff {action : Action} (h : Sound w) (hgood : NeverSwallows w.reader.journal)
    (hstep : step action w = some w') :
    Reports w action ↔ NeverSwallows w'.reader.journal := by
  have henabled : Reports w action ↔ ∀ exc, raisedIn w action = some exc → exc.Reportable := by
    rw [Reports, hstep]
    exact ⟨fun h => h rfl, fun h _ => h⟩
  rw [henabled]
  cases action with
  | readable turns handler outer =>
    rw [readable_eq_some hstep]
    exact (drain_neverSwallows_iff turns callbackFailed handler outer (fun _ => rfl) h hgood).symm
  | pollTimer timer turns handler outer =>
    rw [step] at hstep
    obtain ⟨hmem, rfl⟩ := fire_eq_some hstep
    rw [poll]
    by_cases hclosed : w.reader.closed = true
    · rw [if_pos (by exact hclosed), raisedIn, hclosed, callbackError_closed]
      exact iff_of_true (fun exc h => by cases h) hgood
    · rw [if_neg (by exact hclosed)]
      exact (drain_neverSwallows_iff turns callbackFailed handler outer schedulePoll_journal
        (h.fired hmem) hgood).symm
  | lifetimeTimer timer raised handler outer =>
    rw [step] at hstep
    obtain ⟨hmem, rfl⟩ := fire_eq_some hstep
    refine iff_of_true (fun exc h => by cases h) ?_
    exact checkSubscriptionLifetime_neverSwallows raised handler outer (h.fired hmem) hgood
  | loopClose =>
    cases hstep
    exact iff_of_true (fun exc h => by cases h) hgood
  | close =>
    cases hstep
    refine iff_of_true (fun exc h => by cases h) ?_
    rw [(close_spec h .user).2.2.2.1]
    exact hgood.append _ (fun _ h => by cases h) fun h => by cases h
  | remove =>
    cases hstep
    exact iff_of_true (fun exc h => by cases h) hgood

end Steps

theorem Started.journal {w : World} (h : Started w) : w.reader.journal = [] := by
  cases h with
  | polling => rw [startPollReader, schedulePoll_journal, newReader]
  | selector _ _ hjournal => rw [scheduleLifetimeCheck_journal, hjournal]

/-- In a run of a reader nothing is swallowed exactly when every step reports what the packet
callback raises in it. -/
theorem reader_neverSwallows_iff (start : Start) (w : World) (actions : List Action)
    (hstart : addReader start = .ok w) :
    Transition.Meets step Reports actions w ↔
      ∀ n w', Transition.run step (actions.take n) w = some w' →
        NeverSwallows w'.reader.journal := by
  have hnil : NeverSwallows w.reader.journal := by
    rw [(started_of_addReader hstart).journal]
    exact .nil
  refine Transition.meets_iff_of_invariant (I := Sound)
    (P := fun w => NeverSwallows w.reader.journal) ?_ ?_ ?_ (started_of_addReader hstart).sound hnil
  · exact fun w action w' hsound hstep => hsound.step hstep
  · intro w action hdisabled henabled
    rw [hdisabled] at henabled
    cases henabled
  · exact fun w action w' hsound hgood hstep => reports_iff hsound hgood hstep

def raisingTurns (exc : PyException) : List Turn :=
  [{ answer := .packet samplePacket, callback := { effects := [], outcome := .raises exc } }]

def valueError : PyException := { classes := [.valueError, .exception], text := "bad payload" }

theorem reader_neverSwallows_iff_valueError :
    Transition.Meets step Reports [.readable (raisingTurns valueError) quietHandler quietHandler]
        selectorWorld ↔
      ∀ n w', Transition.run step
          (List.take n [.readable (raisingTurns valueError) quietHandler quietHandler])
          selectorWorld = some w' →
        NeverSwallows w'.reader.journal :=
  reader_neverSwallows_iff selectorStart selectorWorld _ (by decide)

/-- A `KeyError` is a `LookupError`. -/
def keyError : PyException := { classes := [.lookupError, .exception], text := "'seq'" }

def swallowedWorld : World :=
  { closedWorld with
    reader :=
      { closedWorld.reader with
        journal :=
          [.packetTaken samplePacket, .callbackStarted samplePacket] ++
            [.callbackRaised keyError, .closeEntered .reader] } }

/-- A callback that fails with `KeyError` closes the reader, and nobody hears of it. -/
theorem keyError_swallowed :
    addReader selectorStart = .ok selectorWorld ∧
      Transition.run step [.readable (raisingTurns keyError) quietHandler quietHandler]
        selectorWorld = some swallowedWorld ∧
      ¬ NeverSwallows swallowedWorld.reader.journal :=
  ⟨by decide, by decide, not_neverSwallows fun message hmem => by simp at hmem⟩

end Python

end McrxCore
