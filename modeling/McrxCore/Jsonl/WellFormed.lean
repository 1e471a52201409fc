import McrxCore.Jsonl.Append
import McrxCore.Jsonl.Writers

/-!
# The log stays well formed

Whatever the callers do, the answered calls lead to one log, and the file shows that log
with at most the header of the call under the lock.
-/

namespace McrxCore

namespace Jsonl

namespace Writers

section Json

variable {Value : Type} {json : SerdeJson Value}

/-! ## The file under the lock -/

def withHeader (log : SampleLog json) (header : Header json) (wrote : Bool) : SampleLog json :=
  match wrote with
  | true => .headed header []
  | false => log

/-- A call wrote its header to the empty log, or found one that does not differ. -/
def FoundHeader (log : SampleLog json) (header : Header json) (wrote : Bool) : Prop :=
  match wrote with
  | true => log = .empty
  | false => ∃ existing rows, log = .headed existing rows ∧
      headersAreCompatible json existing.val header.val = true

namespace Caller

def locks : Caller json → Bool
  | idle => false
  | opened _ => false
  | _ => true

/-- What the caller wrote in a call that it goes on with. -/
def lines : Caller json → List Value
  | headed header _ wrote => headerLines header wrote
  | _ => []

/-- The log that stands in the file, with the line that the caller wrote. -/
def seen (log : SampleLog json) : Caller json → SampleLog json
  | headed header _ wrote => withHeader log header wrote
  | _ => log

def Found (log : SampleLog json) : Caller json → Prop
  | missing _ => log = .empty
  | headed header _ wrote => FoundHeader log header wrote
  | writer => log.header.isSome = true
  | _ => True

end Caller

def State.holder (s : State json) : Caller json :=
  match s.lock with
  | none => .idle
  | some t => s.callers t

/-- The answered calls lead to the log, only the holder of the lock is behind it, and the
file shows both. -/
structure Invariant (s : State json) (log : SampleLog json) : Prop where
  history : History s.answers log
  locks_iff : ∀ t, (s.callers t).locks = true ↔ s.lock = some t
  found : s.holder.Found log
  file : s.file = printed json (s.holder.seen log).documents

variable {s s' : State json} {log log' : SampleLog json} {t : Nat} {caller : Caller json}

theorem holder_eq (hlock : s.lock = some t) : s.holder = s.callers t := by
  rw [State.holder, hlock]

theorem invariant_initial {path : Path} (hempty : path.getD [] = []) :
    Invariant (.initial json path) .empty where
  history := .nil
  locks_iff := fun _ => iff_of_false nofun nofun
  found := trivial
  file := hempty

def Kept (before after : SampleLog json) : Prop :=
  ∀ header, before.header = some header → after.header = some header

theorem kept_of_takes {call : LogCall Value} {lines : List Value}
    (h : Takes log call lines log') : Kept log log' := by
  intro header hheader
  rw [h.header.1, hheader]
  rfl

/-- The state leads on to another one, and its log to one that keeps the header. -/
def Leads (log : SampleLog json) (s s' : State json) : Prop :=
  ∃ log', Invariant s' log' ∧ Kept (s.holder.seen log) (s'.holder.seen log')

/-- A step of a caller without the lock. -/
theorem Invariant.outside (h : Invariant s log) (hfree : (s.callers t).locks = false)
    (hcaller : caller.locks = false) (hanswers : History s'.answers log)
    (hcallers : s'.callers = Function.update s.callers t caller) (hlock : s'.lock = s.lock)
    (hfile : s'.file = s.file) :
    Invariant s' log ∧ Kept (s.holder.seen log) (s'.holder.seen log) := by
  have hholder : s'.holder = s.holder := by
    rw [State.holder, State.holder, hlock]
    cases hheld : s.lock with
    | none => rfl
    | some u =>
      have hne : u ≠ t := by
        rintro rfl
        exact nomatch hfree.symm.trans ((h.locks_iff u).mpr hheld)
      show s'.callers u = s.callers u
      rw [hcallers, Function.update_of_ne hne]
  refine ⟨⟨hanswers, fun u => ?_, ?_, ?_⟩, ?_⟩
  · rw [hlock, hcallers, ← h.locks_iff]
    by_cases hu : u = t
    · rw [hu, Function.update_self, hcaller, hfree]
    · rw [Function.update_of_ne hu]
  · rw [hholder]
    exact h.found
  · rw [hholder, hfile]
    exact h.file
  · rw [hholder]
    exact fun _ => id

/-- The other callers are without the lock. -/
theorem Invariant.locks_iff_update (h : Invariant s log) (hother : ∀ u, s.lock = some u → u = t)
    (u : Nat) : (Function.update s.callers t caller u).locks = true ↔
      u = t ∧ caller.locks = true := by
  by_cases hu : u = t
  · rw [hu, Function.update_self]
    exact (and_iff_right rfl).symm
  · rw [Function.update_of_ne hu, h.locks_iff]
    exact iff_of_false (fun hlock => hu (hother u hlock)) fun hboth => hu hboth.1

/-- A step of the caller with the lock. -/
theorem Invariant.inside (h : Invariant s log) (hheld : s.lock = some t)
    (hcaller : caller.locks = true) (hanswers : History s'.answers log')
    (hcallers : s'.callers = Function.update s.callers t caller) (hlock : s'.lock = s.lock)
    (hfound : caller.Found log') (hfile : s'.file = printed json (caller.seen log').documents)
    (hkept : Kept ((s.callers t).seen log) (caller.seen log')) :
    Invariant s' log' ∧ Kept (s.holder.seen log) (s'.holder.seen log') := by
  have hholder : s'.holder = caller := by
    rw [holder_eq (hlock.trans hheld), hcallers, Function.update_self]
  refine ⟨⟨hanswers, fun u => ?_, ?_, ?_⟩, ?_⟩
  · rw [hlock, hcallers, h.locks_iff_update fun u hu => Option.some.inj (hu.symm.trans hheld),
      hheld]
    exact ⟨fun hboth => congrArg some hboth.1.symm, fun hu => ⟨(Option.some.inj hu).symm, hcaller⟩⟩
  · rwa [hholder]
  · rwa [hholder]
  · rwa [hholder, holder_eq hheld]

/-- A caller takes the lock. -/
theorem Invariant.acquire (h : Invariant s log) (hfree : s.lock = none) (t : Nat)
    (call : CheckedCall json)
    (hstate : s' = State.goto { s with lock := some t } t (.locked call)) :
    Invariant s' log ∧ Kept (s.holder.seen log) (s'.holder.seen log) := by
  have hfile := h.file
  have hbefore : s.holder = .idle := by rw [State.holder, hfree]
  have hafter : s'.holder = .locked call := by
    subst hstate
    exact Function.update_self ..
  rw [hbefore] at hfile
  rw [hbefore, hafter]
  refine ⟨⟨?_, fun u => ?_, ?_, ?_⟩, fun _ => id⟩
  · subst hstate
    exact h.history
  · subst hstate
    show (Function.update s.callers t (.locked call) u).locks = true ↔ some t = some u
    rw [h.locks_iff_update fun u hu => (nomatch hu.symm.trans hfree)]
    exact ⟨fun hboth => congrArg some hboth.1.symm, fun hu => ⟨(Option.some.inj hu).symm, rfl⟩⟩
  · rw [hafter]
    trivial
  · rw [hafter]
    subst hstate
    exact hfile

/-- The caller closes its file, which releases the lock. -/
theorem Invariant.release (h : Invariant s log) (hheld : s.lock = some t)
    (hseen : (s.callers t).seen log = log)
    (hstate : s' = State.goto { s with lock := none } t .idle) :
    Invariant s' log ∧ Kept (s.holder.seen log) (s'.holder.seen log) := by
  have hfile := h.file
  rw [holder_eq hheld, hseen] at hfile
  rw [holder_eq hheld, hseen]
  subst hstate
  refine ⟨⟨h.history, fun u => ?_, trivial, hfile⟩, fun _ => id⟩
  show (Function.update s.callers t .idle u).locks = true ↔ none = some u
  rw [h.locks_iff_update fun u hu => Option.some.inj (hu.symm.trans hheld)]
  exact iff_of_false (fun hboth => nomatch hboth.2) nofun

/-! ## The steps -/

/-- The log takes a call that ensured its header. -/
theorem takes_of_foundHeader {call : CheckedCall json} {wrote : Bool}
    (hfound : FoundHeader log call.header wrote) :
    ∃ log', Takes log (.onPath call.raw)
        (headerLines call.header wrote ++ call.raw.sample.toList) log' ∧
      log'.documents = (withHeader log call.header wrote).documents ++ call.raw.sample.toList ∧
      Kept (withHeader log call.header wrote) log' := by
  cases wrote with
  | true =>
    obtain rfl : log = .empty := hfound
    have htakes := Takes.first call
    exact ⟨_, htakes, htakes.documents, fun _ => id⟩
  | false =>
    obtain ⟨existing, rows, rfl, hcompatible⟩ := hfound
    have htakes := Takes.later existing rows call hcompatible
    exact ⟨_, htakes, htakes.documents, fun _ => id⟩

theorem kept_withHeader {header : Header json} {wrote : Bool}
    (hfound : FoundHeader log header wrote) : Kept log (withHeader log header wrote) := by
  cases wrote with
  | true =>
    obtain rfl : log = .empty := hfound
    exact fun _ hnone => nomatch hnone
  | false => exact fun _ => id

/-- A call that fails wrote nothing, and its caller keeps the lock. -/
theorem Invariant.refused (h : Invariant s log) (hheld : s.lock = some t)
    (hseen : (s.callers t).seen log = log) (call : LogCall Value) (held : Bool) (e : JsonlError)
    (hcaller : caller.locks = true) (hfound : caller.Found log) (hafter : caller.seen log = log) :
    Invariant ((s.refuse call held e).goto t caller) log ∧
      Kept (s.holder.seen log) (((s.refuse call held e).goto t caller).holder.seen log) := by
  have hfile := h.file
  rw [holder_eq hheld, hseen] at hfile
  refine h.inside hheld hcaller (h.history.snoc (.refused log call held e)) rfl rfl hfound ?_ ?_
  · rw [hafter]
    exact hfile
  · rw [hseen, hafter]
    exact fun _ => id

/-- A call that asked for the header alone succeeds. -/
theorem Invariant.concluded (h : Invariant s log) (hheld : s.lock = some t)
    (hseen : (s.callers t).seen log = log) (call : CheckedCall json) {wrote : Bool}
    (hfound : FoundHeader log call.header wrote) {path : Path}
    (hfile : path.getD [] = printed json (withHeader log call.header wrote).documents)
    (hnone : call.raw.sample = none) (hcaller : caller.locks = true)
    (hcallerFound : ∀ log' : SampleLog json, log'.header.isSome = true → caller.Found log')
    (hcallerSeen : ∀ log' : SampleLog json, caller.seen log' = log')
    (hstate : s' = (State.succeed { s with path := path } (.onPath call.raw)
      (headerLines call.header wrote)).goto t caller) :
    Leads log s s' := by
  obtain ⟨log', htakes, hdocuments, -⟩ := takes_of_foundHeader hfound
  rw [hnone, Option.toList_none, List.append_nil] at htakes hdocuments
  subst hstate
  refine ⟨log', h.inside hheld hcaller (h.history.snoc (.taken htakes)) rfl rfl
    (hcallerFound log' htakes.header.2) ?_ ?_⟩
  · rw [hcallerSeen, hdocuments]
    exact hfile
  · rw [hseen, hcallerSeen]
    exact kept_of_takes htakes

/-- A caller with the lock ensured its header. -/
theorem Invariant.ensured (h : Invariant s log) (hheld : s.lock = some t)
    (hseen : (s.callers t).seen log = log) (call : CheckedCall json) {wrote : Bool}
    (hfound : FoundHeader log call.header wrote) {path : Path}
    (hfile : path.getD [] = printed json (withHeader log call.header wrote).documents)
    (hstate : s' = ensured t call wrote { s with path := path }) :
    Leads log s s' := by
  cases call with
  | «open» header =>
    exact h.concluded hheld hseen (.open header) hfound hfile rfl
      (show Caller.writer.locks = true from rfl) (fun _ => id) (fun _ => rfl) hstate
  | ensureSingleHeader header =>
    exact h.concluded hheld hseen (.ensureSingleHeader header) hfound hfile rfl
      (show Caller.closing.locks = true from rfl) (fun _ _ => trivial) (fun _ => rfl) hstate
  | appendJsonlSampleRow header sample =>
    subst hstate
    refine ⟨log, h.inside hheld (show (Caller.headed header sample wrote).locks = true from rfl)
      h.history rfl rfl hfound hfile ?_⟩
    rw [hseen]
    exact kept_withHeader hfound

/-- A caller with the lock reads the header. -/
theorem Invariant.readHeader (hprints : SerdeJson.Prints json) (h : Invariant s log)
    (hheld : s.lock = some t) (hseen : (s.callers t).seen log = log) (call : CheckedCall json)
    (hstate : s' = readHeader t call s) :
    Leads log s s' := by
  have hfile := h.file
  rw [holder_eq hheld, hseen] at hfile
  have hread : validateHeaderReader json s.file call.scanSamples = .ok log.header := by
    rw [hfile]
    exact validateHeaderReader_printed hprints log call.scanSamples
  rw [Writers.readHeader, hread] at hstate
  cases log with
  | empty =>
    subst hstate
    refine ⟨.empty, h.inside hheld (show (Caller.missing call).locks = true from rfl) h.history rfl
      rfl rfl hfile ?_⟩
    rw [hseen]
    exact fun _ => id
  | headed existing rows =>
    cases hcompatible : headersAreCompatible json existing.val call.header.val with
    | false =>
      simp only [SampleLog.header, hcompatible] at hstate
      subst hstate
      exact ⟨_, h.refused hheld hseen (.onPath call.raw) false headerMismatch rfl trivial rfl⟩
    | true =>
      simp only [SampleLog.header, hcompatible] at hstate
      have hfound : FoundHeader (.headed existing rows) call.header false :=
        ⟨existing, rows, rfl, hcompatible⟩
      exact h.ensured hheld hseen call hfound hfile hstate

theorem Invariant.lock_eq (h : Invariant s log) (hcaller : s.callers t = caller)
    (hlocks : caller.locks = true) : s.lock = some t :=
  (h.locks_iff t).mp (hcaller ▸ hlocks)

/-- The caller found no header and writes its own. -/
theorem Invariant.writeHeader (h : Invariant s log) {call : CheckedCall json}
    (hcaller : s.callers t = .missing call)
    (hstate : s' = Writers.ensured t call true (s.write call.header.val)) :
    Leads log s s' := by
  have hheld := h.lock_eq hcaller rfl
  have hfile := h.file
  have hfound := h.found
  rw [holder_eq hheld, hcaller] at hfile hfound
  obtain rfl : log = .empty := hfound
  have hwritten : (s.write call.header.val).file = printed json [call.header.val] := by
    show writeJsonLine json call.header.val s.file = _
    rw [hfile]
    exact writeJsonLine_printed call.header.val []
  exact h.ensured hheld (by rw [hcaller]; rfl) call
    (show FoundHeader .empty call.header true from rfl)
    hwritten hstate

/-- The stateless append writes its sample. -/
theorem Invariant.writeSample (h : Invariant s log) {header : Header json} {sample : Sample json}
    {wrote : Bool} (hcaller : s.callers t = .headed header sample wrote)
    (hstate : s' = ((s.write sample.val).succeed
      (.onPath (.appendJsonlSampleRow header.val sample.val))
      (headerLines header wrote ++ [sample.val])).goto t .closing) :
    Leads log s s' := by
  have hheld := h.lock_eq hcaller rfl
  have hfile := h.file
  have hfound := h.found
  rw [holder_eq hheld, hcaller] at hfile hfound
  have hcall : FoundHeader log (PathCall.appendJsonlSampleRow header sample).header wrote := hfound
  obtain ⟨log', htakes, hdocuments, hkept⟩ := takes_of_foundHeader hcall
  have hanswers := h.history.snoc (.taken htakes)
  subst hstate
  refine ⟨log', h.inside hheld (show Caller.closing.locks = true from rfl) hanswers rfl rfl trivial
    ?_ ?_⟩
  · show writeJsonLine json sample.val s.file = printed json log'.documents
    rw [hfile, writeJsonLine_printed, hdocuments]
    rfl
  · rw [hcaller]
    exact hkept

/-- An open writer appends a sample. -/
theorem Invariant.appendSampleRow (h : Invariant s log) (hcaller : s.callers t = .writer)
    (sample : Sample json)
    (hstate : s' = (s.write sample.val).succeed (.appendSampleRow sample.val) [sample.val]) :
    Leads log s s' := by
  have hheld := h.lock_eq hcaller rfl
  have hfile := h.file
  have hfound := h.found
  rw [holder_eq hheld, hcaller] at hfile hfound
  cases log with
  | empty => exact nomatch hfound
  | headed header rows =>
    have htakes := Takes.row header rows sample
    have hcallers : s'.callers = Function.update s.callers t .writer := by
      rw [← hcaller, Function.update_eq_self, hstate]
      rfl
    subst hstate
    refine ⟨.headed header (rows ++ [sample]), h.inside hheld
      (show Caller.writer.locks = true from rfl) (h.history.snoc (.taken htakes)) hcallers rfl rfl
      ?_ ?_⟩
    · show writeJsonLine json sample.val s.file = printed json _
      rw [hfile, writeJsonLine_printed]
      exact congrArg _ htakes.documents.symm
    · rw [hcaller]
      exact fun _ => id

theorem checkSample_ok {sample : Value} {checked : Sample json}
    (h : checkSample json sample = .ok checked) : checked.val = sample := by
  unfold checkSample at h
  split at h
  · cases h
    rfl
  · exact nomatch h

/-- A caller without the lock whose call fails. -/
theorem Invariant.refusedOutside (h : Invariant s log) (hcaller : s.callers t = caller)
    (hfree : caller.locks = false) (call : LogCall Value) (held : Bool) (e : JsonlError) :
    Invariant ((s.refuse call held e).goto t .idle) log ∧
      Kept (s.holder.seen log) (((s.refuse call held e).goto t .idle).holder.seen log) :=
  h.outside (hcaller ▸ hfree) (show Caller.idle.locks = false from rfl)
    (h.history.snoc (.refused log call held e)) rfl rfl rfl

theorem goto_self (hcaller : s.callers t = caller) : s.goto t caller = s := by
  rw [State.goto, ← hcaller, Function.update_eq_self]

/-- A step leads from the log to one that keeps its header. -/
theorem Invariant.step (hprints : SerdeJson.Prints json) (h : Invariant s log)
    {action : Action Value} (hstep : step action s = some s') :
    Leads log s s' := by
  unfold Writers.step at hstep
  split at hstep
  · next t call =>
    split at hstep
    · next e hcaller _ =>
      cases hstep
      have hidle := goto_self (s := s.refuse (.onPath call) false e) hcaller
      rw [← hidle]
      exact ⟨log, h.refusedOutside hcaller rfl (.onPath call) false e⟩
    · next checked hcaller _ =>
      cases hstep
      exact ⟨log, h.outside (hcaller ▸ rfl) (show (Caller.opened checked).locks = false from rfl)
        h.history rfl rfl rfl⟩
    · exact nomatch hstep
  · next t sample =>
    split at hstep
    · next e hcaller _ =>
      cases hstep
      have hheld := h.lock_eq hcaller rfl
      have hfound := h.found
      rw [holder_eq hheld, hcaller] at hfound
      have hwriter := goto_self (s := s.refuse (.appendSampleRow sample) false e) hcaller
      rw [← hwriter]
      exact ⟨log, h.refused hheld (by rw [hcaller]; rfl) (.appendSampleRow sample)
        false e rfl hfound
        rfl⟩
    · next checked hcaller hchecked =>
      cases hstep
      obtain rfl := checkSample_ok hchecked
      exact h.appendSampleRow hcaller checked rfl
    · exact nomatch hstep
  · next t call e =>
    split at hstep
    · next hcaller _ =>
      cases hstep
      have hidle := goto_self (s := s.refuse (.onPath call) false e) hcaller
      rw [← hidle]
      exact ⟨log, h.refusedOutside hcaller rfl (.onPath call) false e⟩
    · exact nomatch hstep
  · next t =>
    split at hstep
    · next call _ hcaller _ =>
      cases hstep
      exact ⟨log, h.refusedOutside hcaller rfl (.onPath call.raw) true jsonlLockError⟩
    · next call hcaller hfree =>
      cases hstep
      exact ⟨log, h.acquire hfree t call rfl⟩
    · exact nomatch hstep
  · next t e =>
    split at hstep
    · next call hcaller =>
      cases hstep
      exact ⟨log, h.refusedOutside hcaller rfl (.onPath call.raw) false e⟩
    · exact nomatch hstep
  · next t =>
    split at hstep
    · next call hcaller =>
      cases hstep
      have hheld := h.lock_eq hcaller rfl
      exact h.readHeader hprints hheld (by rw [hcaller]; rfl) call rfl
    · exact nomatch hstep
  · next t e =>
    split at hstep
    · next call hcaller =>
      cases hstep
      exact ⟨log, h.refused (h.lock_eq hcaller rfl) (by rw [hcaller]; rfl)
        (.onPath call.raw) false e
        rfl trivial rfl⟩
    · exact nomatch hstep
  · next t =>
    split at hstep
    · next call hcaller =>
      cases hstep
      exact h.writeHeader hcaller rfl
    · exact nomatch hstep
  · next t =>
    split at hstep
    · next header sample wrote hcaller =>
      cases hstep
      exact h.writeSample hcaller rfl
    · exact nomatch hstep
  · next t =>
    split at hstep
    · next hcaller =>
      cases hstep
      exact ⟨log, h.release (h.lock_eq hcaller rfl) (by rw [hcaller]; rfl) rfl⟩
    · next hcaller =>
      cases hstep
      exact ⟨log, h.release (h.lock_eq hcaller rfl) (by rw [hcaller]; rfl) rfl⟩
    · exact nomatch hstep

/-! ## Every run -/

theorem invariant_of_run (hprints : SerdeJson.Prints json) {actions : List (Action Value)}
    (h : Invariant s log) (hrun : Transition.run step actions s = some s') :
    Leads log s s' := by
  have hstep : ∀ (s₁ : State json) action s₂, True → Leads log s s₁ → step action s₁ = some s₂ →
      Leads log s s₂ := by
    rintro s₁ action s₂ - ⟨log₁, h₁, hkept₁⟩ hstep
    obtain ⟨log₂, h₂, hkept₂⟩ := h₁.step hprints hstep
    exact ⟨log₂, h₂, fun header hheader => hkept₂ header (hkept₁ header hheader)⟩
  have hmeets : Transition.Meets step (fun _ _ => True) actions s :=
    Transition.meets_of_mem (fun _ _ _ => trivial) s
  exact Transition.invariant_of_meets hstep hmeets ⟨log, h, fun _ => id⟩ hrun

namespace State

/-- What the calls wrote, in the order of their answers, and the call under the lock. -/
def written (s : State json) : List Value := s.answers.flatMap Answer.lines ++ s.holder.lines

def header (s : State json) : Option Value := s.written.head?

def samples (s : State json) : List Value :=
  (successes s.answers).flatMap fun answer => answer.call.sample.toList

end State

theorem documents_seen (hfound : caller.Found log) :
    (caller.seen log).documents = log.documents ++ caller.lines := by
  cases caller with
  | headed header sample wrote =>
    cases wrote with
    | true =>
      obtain rfl : log = .empty := hfound
      rfl
    | false => exact (List.append_nil _).symm
  | _ => exact (List.append_nil _).symm

theorem rows_seen (hfound : caller.Found log) : (caller.seen log).rows = log.rows := by
  cases caller with
  | headed header sample wrote =>
    cases wrote with
    | true =>
      obtain rfl : log = .empty := hfound
      rfl
    | false => rfl
  | _ => rfl

theorem Invariant.written (h : Invariant s log) : s.written = (s.holder.seen log).documents := by
  rw [documents_seen h.found, h.history.documents]
  rfl

theorem Invariant.header (h : Invariant s log) : s.header = (s.holder.seen log).header := by
  rw [State.header, h.written, SampleLog.head?_documents]

theorem Invariant.samples (h : Invariant s log) : s.samples = (s.holder.seen log).rows := by
  rw [rows_seen h.found, h.history.rows]
  rfl

theorem Invariant.written_eq (h : Invariant s log) : s.written = s.header.toList ++ s.samples := by
  rw [h.written, h.header, h.samples]
  rfl

/-- The log of the calls so far: its file, its header and the calls that it refused. -/
structure WellFormed (s : State json) : Prop where
  file : s.file = printed json (s.header.toList ++ s.samples)
  headed : s.header = none → s.samples = []
  rows : rows json s.file = s.samples
  existing : validateExistingHeader json s.path = .ok s.header
  headerLine : validateHeaderReader json s.file false = validateHeaderReader json s.file true
  unwritten : s.header = none ↔ (∀ answer ∈ s.answers, answer.lines = []) ∧ s.holder.lines = []
  first : ∀ answer, (successes s.answers).head? = some answer → s.header = answer.call.header
  /-- Before the first call that succeeds the header is the one of the call under the lock. -/
  pending : successes s.answers = [] → ∀ value, s.header = some value →
    ∃ header sample, s.holder = .headed header sample true ∧ header.val = value
  kept : ∀ later s', Transition.run step later s = some s' →
    ∀ value, s.header = some value → s'.header = some value
  refused : ∀ answer ∈ s.answers, answer.held = true ∨ ¬ Welcome json s.header answer.call →
    ∃ e, answer.result = .error e
  unchanged : ∀ answer ∈ s.answers, ∀ e, answer.result = .error e → answer.lines = []
  lines : s.written = s.header.toList ++ s.samples

theorem Invariant.existing (hprints : SerdeJson.Prints json) (h : Invariant s log) :
    validateExistingHeader json s.path = .ok s.header := by
  have hread := validateHeaderReader_printed hprints (s.holder.seen log) true
  rw [← h.file, ← h.header] at hread
  cases hpath : s.path with
  | none =>
    rw [State.file, hpath] at hread
    exact hread
  | some content =>
    rw [State.file, hpath] at hread
    exact hread

/-- A header that no answered call left is one that the caller under the lock wrote. -/
theorem seen_header_cases (hfound : caller.Found log) :
    (caller.seen log).header = log.header ∨
      log = .empty ∧ ∃ header sample, caller = .headed header sample true := by
  cases caller with
  | headed header sample wrote =>
    cases wrote with
    | true => exact .inr ⟨hfound, header, sample, rfl⟩
    | false => exact .inl rfl
  | _ => exact .inl rfl

theorem Invariant.header_of_success (h : Invariant s log) {answer : Answer Value}
    (hfirst : (successes s.answers).head? = some answer) : s.header = answer.call.header := by
  rw [h.header]
  rcases seen_header_cases h.found with hseen | ⟨rfl, -⟩
  · rw [hseen, h.history.header, hfirst]
    rfl
  · rw [h.history.successes_eq_nil rfl] at hfirst
    exact nomatch hfirst

theorem Invariant.header_pending (h : Invariant s log) (hnone : successes s.answers = [])
    {value : Value} (hvalue : s.header = some value) :
    ∃ header sample, s.holder = .headed header sample true ∧ header.val = value := by
  rw [h.header] at hvalue
  rcases seen_header_cases h.found with hseen | ⟨-, header, sample, hholder⟩
  · rw [hseen, h.history.header, hnone] at hvalue
    exact nomatch hvalue
  · rw [hholder] at hvalue
    exact ⟨header, sample, hholder, Option.some.inj hvalue⟩

/-- A call that returned `Ok` met no held lock and was welcome to the log. -/
theorem Invariant.welcome (hprints : SerdeJson.Prints json) (h : Invariant s log)
    {answer : Answer Value} (hanswer : answer ∈ s.answers) (hok : answer.result = .ok ()) :
    answer.held = false ∧ Welcome json s.header answer.call := by
  have hmem : answer ∈ successes s.answers := by
    rw [successes, List.mem_filter, hok]
    exact ⟨hanswer, rfl⟩
  rw [h.header]
  rcases seen_header_cases h.found with hseen | ⟨rfl, -⟩
  · rw [hseen]
    exact h.history.welcome hprints answer hmem
  · rw [h.history.successes_eq_nil rfl] at hmem
    cases hmem

theorem log_stays_well_formed (hprints : SerdeJson.Prints json) {path : Path}
    (hempty : path.getD [] = []) {actions : List (Action Value)}
    (hrun : Transition.run step actions (.initial json path) = some s) : WellFormed s := by
  obtain ⟨log, h, -⟩ := invariant_of_run hprints (invariant_initial hempty) hrun
  have hfile : s.file = printed json s.written := by rw [h.file, h.written]
  refine
    { file := ?_
      headed := fun hnone => ?_
      rows := ?_
      existing := h.existing hprints
      headerLine := ?_
      unwritten := ?_
      first := fun answer => h.header_of_success
      pending := fun hnone value => h.header_pending hnone
      kept := fun later s' hlater => ?_
      refused := fun answer hanswer hunwelcome => ?_
      unchanged := h.history.lines_of_error
      lines := h.written_eq }
  · rw [hfile, h.written_eq]
  · rw [h.header] at hnone
    rw [h.samples]
    cases hseen : s.holder.seen log with
    | empty => rfl
    | headed header rows =>
      rw [hseen] at hnone
      cases hnone
  · rw [Jsonl.rows, hfile, documents_printed hprints, h.written, h.samples]
    cases s.holder.seen log <;> rfl
  · rw [h.file, validateHeaderReader_printed hprints, validateHeaderReader_printed hprints]
  · rw [State.header, List.head?_eq_none_iff, State.written, List.append_eq_nil_iff,
      List.flatMap_eq_nil_iff]
  · obtain ⟨log', h', hkept⟩ := invariant_of_run hprints h hlater
    rw [h.header, h'.header]
    exact hkept
  · cases hresult : answer.result with
    | error e => exact ⟨e, rfl⟩
    | ok _ =>
      obtain ⟨hheld, hwelcome⟩ := h.welcome hprints hanswer hresult
      rcases hunwelcome with hlocked | hnot
      · rw [hheld] at hlocked
        cases hlocked
      · exact absurd hwelcome hnot

end Json

/-- A writer appends a sample and a row that is none, and another caller meets its lock. -/
def contendedActions : List (Action LogValue) :=
  [.call 0 (.onPath (.open .header)), .tryLock 0, .readHeader 0, .writeHeader 0,
    .call 0 (.appendSampleRow .sample),
    .call 1 (.onPath (.appendJsonlSampleRow .header .sample)), .tryLock 1,
    .call 0 (.appendSampleRow .nodeId), .close 0]

theorem log_stays_well_formed_contended :
    ∃ s, Transition.run step contendedActions (.initial logJson none) = some s ∧
      s.samples = [.sample] ∧ WellFormed s := by
  obtain ⟨s, hrun, hsamples⟩ := @Transition.exists_of_run_any _ _ step contendedActions
    (.initial logJson none) (fun s => s.samples == [.sample]) (by decide +kernel)
  exact ⟨s, hrun, beq_iff_eq.mp hsamples,
    log_stays_well_formed logJson_prints rfl hrun⟩

end Writers

end Jsonl

end McrxCore
