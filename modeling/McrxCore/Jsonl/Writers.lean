import McrxCore.Lib.Transition
import McrxCore.Jsonl.SampleLog

/-!
# Writers of one path

Any number of callers work on one file, and the lock lets one of their open files in at a
time.  A call goes from one system call to the next, with those of the others in between.
-/

namespace McrxCore

namespace Jsonl

namespace Writers

section Json

variable {Value : Type} (json : SerdeJson Value)

/-- Where a caller stands: without a call, with the file open, with the lock, before it
writes the header, before it writes the sample (and whether it wrote the header), as a
`MetricsJsonlWriter`, or before it closes the file. -/
inductive Caller where
  | idle
  | opened (call : CheckedCall json)
  | locked (call : CheckedCall json)
  | missing (call : CheckedCall json)
  | headed (header : Header json) (sample : Sample json) (wrote : Bool)
  | writer
  | closing

structure State where
  path : Path
  lock : Option Nat
  callers : Nat → Caller json
  answers : List (Answer Value)

inductive Action (Value : Type) where
  | call (t : Nat) (call : LogCall Value)
  | openFails (t : Nat) (call : PathCall Value Value) (e : JsonlError)
  | tryLock (t : Nat)
  | lockFails (t : Nat) (e : JsonlError)
  | readHeader (t : Nat)
  | readFails (t : Nat) (e : JsonlError)
  | writeHeader (t : Nat)
  | writeSample (t : Nat)
  | close (t : Nat)

def State.initial (path : Path) : State json :=
  { path := path, lock := none, callers := fun _ => .idle, answers := [] }

def checkHeader (header : Value) : Except JsonlError (Header json) :=
  match h : validateRequestedHeader json header with
  | .ok () => .ok ⟨header, h⟩
  | .error e => .error e

def checkSample (sample : Value) : Except JsonlError (Sample json) :=
  match h : validateSampleRow json sample with
  | .ok () => .ok ⟨sample, h⟩
  | .error e => .error e

def check : PathCall Value Value → Except JsonlError (CheckedCall json)
  | .open header => return .open (← checkHeader json header)
  | .ensureSingleHeader header => return .ensureSingleHeader (← checkHeader json header)
  | .appendJsonlSampleRow header sample =>
    return .appendJsonlSampleRow (← checkHeader json header) (← checkSample json sample)

variable {json}

namespace State

def file (s : State json) : List UInt8 := s.path.getD []

def write (s : State json) (value : Value) : State json :=
  { s with path := some (writeJsonLine json value s.file) }

def goto (s : State json) (t : Nat) (caller : Caller json) : State json :=
  { s with callers := Function.update s.callers t caller }

def answer (s : State json) (answer : Answer Value) : State json :=
  { s with answers := s.answers ++ [answer] }

/-- A call that returns an error has written nothing. -/
def refuse (s : State json) (call : LogCall Value) (held : Bool) (e : JsonlError) : State json :=
  s.answer { call := call, held := held, result := .error e, lines := [] }

def succeed (s : State json) (call : LogCall Value) (lines : List Value) : State json :=
  s.answer { call := call, held := false, result := .ok (), lines := lines }

end State

/-- The header line of a call that wrote it. -/
def headerLines (header : Header json) (wrote : Bool) : List Value :=
  if wrote then [header.val] else []

/-- `ensure_header_in_locked_file` returned. -/
def ensured (t : Nat) (call : CheckedCall json) (wrote : Bool) (s : State json) : State json :=
  match call with
  | .open header => (s.succeed (.onPath call.raw) (headerLines header wrote)).goto t .writer
  | .ensureSingleHeader header =>
    (s.succeed (.onPath call.raw) (headerLines header wrote)).goto t .closing
  | .appendJsonlSampleRow header sample => s.goto t (.headed header sample wrote)

/-- `ensure_header_in_locked_file` up to its write. -/
def readHeader (t : Nat) (call : CheckedCall json) (s : State json) : State json :=
  match validateHeaderReader json s.file call.scanSamples with
  | .error e => (s.refuse (.onPath call.raw) false e).goto t .closing
  | .ok (some existing) =>
    if !headersAreCompatible json existing call.header.val then
      (s.refuse (.onPath call.raw) false headerMismatch).goto t .closing
    else ensured t call false s
  | .ok none => s.goto t (.missing call)

/-- One step of a caller; `none` where it cannot happen. -/
def step (action : Action Value) (s : State json) : Option (State json) :=
  match action with
  | .call t (.onPath call) =>
    match s.callers t, check json call with
    | .idle, .error e => some (s.refuse (.onPath call) false e)
    | .idle, .ok checked => some (State.goto { s with path := some s.file } t (.opened checked))
    | _, _ => none
  | .call t (.appendSampleRow sample) =>
    match s.callers t, checkSample json sample with
    | .writer, .error e => some (s.refuse (.appendSampleRow sample) false e)
    | .writer, .ok _ => some ((s.write sample).succeed (.appendSampleRow sample) [sample])
    | _, _ => none
  | .openFails t call e =>
    match s.callers t, check json call with
    | .idle, .ok _ => some (s.refuse (.onPath call) false e)
    | _, _ => none
  | .tryLock t =>
    match s.callers t, s.lock with
    | .opened call, some _ => some ((s.refuse (.onPath call.raw) true jsonlLockError).goto t .idle)
    | .opened call, none => some (State.goto { s with lock := some t } t (.locked call))
    | _, _ => none
  | .lockFails t e =>
    match s.callers t with
    | .opened call => some ((s.refuse (.onPath call.raw) false e).goto t .idle)
    | _ => none
  | .readHeader t =>
    match s.callers t with
    | .locked call => some (readHeader t call s)
    | _ => none
  | .readFails t e =>
    match s.callers t with
    | .locked call => some ((s.refuse (.onPath call.raw) false e).goto t .closing)
    | _ => none
  | .writeHeader t =>
    match s.callers t with
    | .missing call => some (ensured t call true (s.write call.header.val))
    | _ => none
  | .writeSample t =>
    match s.callers t with
    | .headed header sample wrote =>
      some (((s.write sample.val).succeed (.onPath (.appendJsonlSampleRow header.val sample.val))
        (headerLines header wrote ++ [sample.val])).goto t .closing)
    | _ => none
  | .close t =>
    match s.callers t with
    | .writer => some (State.goto { s with lock := none } t .idle)
    | .closing => some (State.goto { s with lock := none } t .idle)
    | _ => none

/-! ## The steps of a call are those of its function -/

variable {s s' s₁ : State json} {t : Nat}

def Action.caller : Action Value → Nat
  | .call t _ => t
  | .openFails t _ _ => t
  | .tryLock t => t
  | .lockFails t _ => t
  | .readHeader t => t
  | .readFails t _ => t
  | .writeHeader t => t
  | .writeSample t => t
  | .close t => t

/-- The caller goes from one state to the other, with no step of another one. -/
def Alone (t : Nat) (s s' : State json) : Prop :=
  ∃ actions : List (Action Value), (∀ action ∈ actions, action.caller = t) ∧
    Transition.run step actions s = some s'

theorem Alone.refl (t : Nat) (s : State json) : Alone t s s := ⟨[], fun _ h => (nomatch h), rfl⟩

theorem Alone.cons {action : Action Value} (hcaller : action.caller = t)
    (hstep : step action s = some s₁) (h : Alone t s₁ s') : Alone t s s' := by
  obtain ⟨actions, hactions, hrun⟩ := h
  refine ⟨action :: actions, ?_, ?_⟩
  · intro other hother
    rcases List.mem_cons.mp hother with rfl | hother
    · exact hcaller
    · exact hactions other hother
  · rw [Transition.run, hstep]
    exact hrun

def callFunction (json : SerdeJson Value) (held : Bool) (call : PathCall Value Value)
    (path : Path) :
    Except JsonlError Unit × Path :=
  match call with
  | .open header => MetricsJsonlWriter.«open» json held header path
  | .ensureSingleHeader header => ensureSingleHeader json held header path
  | .appendJsonlSampleRow header sample => appendJsonlSampleRow json held header sample path

/-- The call returned what its function returns, and left the file that it leaves. -/
structure Returned (s s' : State json) (call : LogCall Value)
    (result : Except JsonlError Unit × Path) : Prop where
  path : s'.path = result.2
  answers : ∃ held lines, s'.answers =
    s.answers ++ [{ call := call, held := held, result := result.1, lines := lines }]

theorem goto_callers (s : State json) (t : Nat) (caller : Caller json) :
    (s.goto t caller).callers t = caller := Function.update_self ..

theorem checkHeader_cases (header : Value) :
    (∃ e, checkHeader json header = .error e ∧ validateRequestedHeader json header = .error e) ∨
      ∃ h, checkHeader json header = .ok ⟨header, h⟩ := by
  unfold checkHeader
  split
  · next h => exact .inr ⟨h, rfl⟩
  · next e h => exact .inl ⟨e, rfl, h⟩

theorem checkSample_cases (sample : Value) :
    (∃ e, checkSample json sample = .error e ∧ validateSampleRow json sample = .error e) ∨
      ∃ h, checkSample json sample = .ok ⟨sample, h⟩ := by
  unfold checkSample
  split
  · next h => exact .inr ⟨h, rfl⟩
  · next e h => exact .inl ⟨e, rfl, h⟩

/-- The check of a call is what its function starts with. -/
theorem check_cases (call : PathCall Value Value) :
    (∃ e, check json call = .error e ∧ ∀ held path,
      callFunction json held call path = (.error e, path)) ∨
      ∃ checked : CheckedCall json, check json call = .ok checked ∧ checked.raw = call := by
  cases call with
  | «open» header =>
    rcases @checkHeader_cases _ json header with ⟨e, hcheck, herror⟩ | ⟨h, hcheck⟩
    · refine .inl ⟨e, by rw [check, hcheck]; rfl, fun held path => ?_⟩
      simp only [callFunction, MetricsJsonlWriter.«open», herror]
    · exact .inr ⟨.open ⟨header, h⟩, by rw [check, hcheck]; rfl, rfl⟩
  | ensureSingleHeader header =>
    rcases @checkHeader_cases _ json header with ⟨e, hcheck, herror⟩ | ⟨h, hcheck⟩
    · refine .inl ⟨e, by rw [check, hcheck]; rfl, fun held path => ?_⟩
      simp only [callFunction, ensureSingleHeader, herror]
    · exact .inr ⟨.ensureSingleHeader ⟨header, h⟩, by rw [check, hcheck]; rfl, rfl⟩
  | appendJsonlSampleRow header sample =>
    rcases @checkHeader_cases _ json header with ⟨e, hcheck, herror⟩ | ⟨h, hcheck⟩
    · refine .inl ⟨e, by rw [check, hcheck]; rfl, fun held path => ?_⟩
      simp only [callFunction, appendJsonlSampleRow, herror]
    · rcases @checkSample_cases _ json sample with ⟨e, hsample, herror⟩ | ⟨h', hsample⟩
      · refine .inl ⟨e, by rw [check, hcheck, hsample]; rfl, fun held path => ?_⟩
        simp only [callFunction, appendJsonlSampleRow, h, herror]
      · exact .inr ⟨.appendJsonlSampleRow ⟨header, h⟩ ⟨sample, h'⟩,
          by rw [check, hcheck, hsample]; rfl, rfl⟩

def ended (call : CheckedCall json) (file : List UInt8) : List UInt8 :=
  match call.raw.sample with
  | none => file
  | some sample => writeJsonLine json sample file

theorem callFunction_checked (call : CheckedCall json) (held : Bool) (path : Path) :
    callFunction json held call.raw path =
      match openLockedJsonlFile held path with
      | (.error e, file) => (.error e, some file)
      | (.ok (), file) =>
        match ensureHeaderInLockedFile json call.header.val call.scanSamples file with
        | (.error e, file) => (.error e, some file)
        | (.ok (), file) => (.ok (), some (ended call file)) := by
  cases call with
  | «open» header =>
    simp only [CheckedCall.raw, callFunction, MetricsJsonlWriter.«open», header.property,
      PathCall.header, PathCall.scanSamples]
    obtain ⟨_ | _, file⟩ := openLockedJsonlFile held path
    · rfl
    · cases hensure : ensureHeaderInLockedFile json header.val true file with
      | mk result file' => cases result <;> simp only [hensure]; rfl
  | ensureSingleHeader header =>
    simp only [CheckedCall.raw, callFunction, ensureSingleHeader, header.property,
      PathCall.header, PathCall.scanSamples]
    obtain ⟨_ | _, file⟩ := openLockedJsonlFile held path
    · rfl
    · cases hensure : ensureHeaderInLockedFile json header.val true file with
      | mk result file' => cases result <;> simp only [hensure]; rfl
  | appendJsonlSampleRow header sample =>
    simp only [CheckedCall.raw, callFunction, appendJsonlSampleRow, header.property,
      sample.property,
      PathCall.header, PathCall.scanSamples]
    obtain ⟨_ | _, file⟩ := openLockedJsonlFile held path
    · rfl
    · cases hensure : ensureHeaderInLockedFile json header.val false file with
      | mk result file' => cases result <;> simp only [hensure]; rfl

variable {file : List UInt8} {call : CheckedCall json}

theorem Returned.of_answers {call : LogCall Value} {result : Except JsonlError Unit × Path}
    (h : Returned s₁ s' call result) (hanswers : s₁.answers = s.answers) :
    Returned s s' call result :=
  ⟨h.path, hanswers ▸ h.answers⟩

/-- What is left of a call that ensured its header. -/
theorem ensured_alone (hpath : s.path = some file) (t : Nat) (call : CheckedCall json)
    (wrote : Bool) : ∃ s', Alone t (ensured t call wrote s) s' ∧
      Returned s s' (.onPath call.raw) (.ok (), some (ended call file)) := by
  cases call with
  | «open» header => exact ⟨_, .refl t _, hpath, _, _, rfl⟩
  | ensureSingleHeader header => exact ⟨_, .refl t _, hpath, _, _, rfl⟩
  | appendJsonlSampleRow header sample =>
    have hcaller := goto_callers s t (.headed header sample wrote)
    have hstep : step (.writeSample t) (s.goto t (.headed header sample wrote)) = some
        (((s.goto t (.headed header sample wrote)).write sample.val).succeed
          (.onPath (.appendJsonlSampleRow header.val sample.val))
          (headerLines header wrote ++ [sample.val]) |>.goto t .closing) := by
      simp only [step, hcaller]
    have hfile : s.file = file := by rw [State.file, hpath, Option.getD_some]
    refine ⟨_, .cons rfl hstep (.refl t _), ?_, _, _, rfl⟩
    show some (writeJsonLine json sample.val s.file) = some (writeJsonLine json sample.val file)
    rw [hfile]

/-- What is left of a call that has the lock. -/
theorem locked_alone (hpath : s.path = some file) (hcaller : s.callers t = .locked call) :
    ∃ s', Alone t s s' ∧ Returned s s' (.onPath call.raw)
      (match ensureHeaderInLockedFile json call.header.val call.scanSamples file with
        | (.error e, file) => (.error e, some file)
        | (.ok (), file) => (.ok (), some (ended call file))) := by
  have hstep : step (.readHeader t) s = some (readHeader t call s) := by simp only [step, hcaller]
  suffices hread : ∃ s', Alone t (readHeader t call s) s' ∧ Returned s s' (.onPath call.raw) _ by
    obtain ⟨s', halone, hreturned⟩ := hread
    exact ⟨s', .cons rfl hstep halone, hreturned⟩
  have hfile : s.file = file := by rw [State.file, hpath, Option.getD_some]
  rw [readHeader, ensureHeaderInLockedFile, hfile]
  cases validateHeaderReader json file call.scanSamples with
  | error e => exact ⟨_, .refl t _, hpath, _, _, rfl⟩
  | ok found =>
    cases found with
    | none =>
      have hmissing := goto_callers s t (.missing call)
      have hwrite : step (.writeHeader t) (s.goto t (.missing call)) =
          some (ensured t call true ((s.goto t (.missing call)).write call.header.val)) := by
        simp only [step, hmissing]
      have hwritten : ((s.goto t (.missing call)).write call.header.val).path =
          some (writeJsonLine json call.header.val file) := by
        rw [← hfile]
        rfl
      obtain ⟨s', halone, hreturned⟩ := ensured_alone hwritten t call true
      exact ⟨s', .cons rfl hwrite halone, hreturned.of_answers rfl⟩
    | some existing =>
      cases hcompatible : headersAreCompatible json existing call.header.val with
      | false =>
        simp only [hcompatible]
        exact ⟨_, .refl t _, hpath, _, _, rfl⟩
      | true =>
        simp only [hcompatible]
        exact ensured_alone hpath t call false

/-- What is left of a call that opened its file. -/
theorem opened_alone (hpath : s.path = some file) (hcaller : s.callers t = .opened call) :
    ∃ s', Alone t s s' ∧
      Returned s s' (.onPath call.raw) (callFunction json s.lock.isSome call.raw s.path) := by
  rw [callFunction_checked, hpath]
  cases hlock : s.lock with
  | some u =>
    have hstep : step (.tryLock t) s =
        some ((s.refuse (.onPath call.raw) true jsonlLockError).goto t .idle) := by
      simp only [step, hcaller, hlock]
    exact ⟨_, .cons rfl hstep (.refl t _), hpath, _, _, rfl⟩
  | none =>
    have hstep : step (.tryLock t) s =
        some (State.goto { s with lock := some t } t (.locked call)) := by
      simp only [step, hcaller, hlock]
    have hlocked := goto_callers { s with lock := some t } t (.locked call)
    obtain ⟨s', halone, hreturned⟩ := locked_alone
      (s := State.goto { s with lock := some t } t (.locked call)) hpath hlocked
    exact ⟨s', .cons rfl hstep halone, hreturned.of_answers rfl⟩

/-- A call that nothing interrupts does what its function does. -/
theorem call_alone (hidle : s.callers t = .idle) (call : PathCall Value Value) :
    ∃ s', Alone t s s' ∧
      Returned s s' (.onPath call) (callFunction json s.lock.isSome call s.path) := by
  rcases @check_cases _ json call with ⟨e, hcheck, hfunction⟩ | ⟨checked, hcheck, hraw⟩
  · have hstep : step (.call t (.onPath call)) s = some (s.refuse (.onPath call) false e) := by
      simp only [step, hidle, hcheck]
    rw [hfunction]
    exact ⟨_, .cons rfl hstep (.refl t _), rfl, _, _, rfl⟩
  · have hstep : step (.call t (.onPath call)) s =
        some (State.goto { s with path := some s.file } t (.opened checked)) := by
      simp only [step, hidle, hcheck]
    have hopened := goto_callers { s with path := some s.file } t (.opened checked)
    obtain ⟨s', halone, hreturned⟩ := opened_alone
      (s := State.goto { s with path := some s.file } t (.opened checked)) rfl hopened
    refine ⟨s', .cons rfl hstep halone, ?_⟩
    rw [callFunction_checked] at hreturned
    rw [← hraw, callFunction_checked]
    exact hreturned.of_answers rfl

/-- So does an append of an open writer. -/
theorem appendSampleRow_alone (hwriter : s.callers t = .writer) (sample : Value) :
    ∃ s', Alone t s s' ∧ s'.file = (MetricsJsonlWriter.appendSampleRow json sample s.file).2 ∧
      ∃ lines, s'.answers = s.answers ++ [{
        call := .appendSampleRow sample
        held := false
        result := (MetricsJsonlWriter.appendSampleRow json sample s.file).1
        lines := lines }] := by
  rw [MetricsJsonlWriter.appendSampleRow]
  rcases @checkSample_cases _ json sample with ⟨e, hcheck, herror⟩ | ⟨h, hcheck⟩
  · have hstep : step (.call t (.appendSampleRow sample)) s =
        some (s.refuse (.appendSampleRow sample) false e) := by
      simp only [step, hwriter, hcheck]
    rw [herror]
    exact ⟨_, .cons rfl hstep (.refl t _), rfl, _, rfl⟩
  · have hstep : step (.call t (.appendSampleRow sample)) s =
        some ((s.write sample).succeed (.appendSampleRow sample) [sample]) := by
      simp only [step, hwriter, hcheck]
    rw [h]
    exact ⟨_, .cons rfl hstep (.refl t _), rfl, _, rfl⟩

end Json

end Writers

end Jsonl

end McrxCore
