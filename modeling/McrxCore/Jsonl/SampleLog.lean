import McrxCore.Jsonl.Reader

/-!
# The sample log

What the file stands for: nothing, or one header and the samples behind it.  A call that
succeeds takes effect at once: it adds its header where there is none, and its sample.
-/

namespace McrxCore

namespace Jsonl

section Json

variable {Value : Type} (json : SerdeJson Value)

abbrev Header := { header : Value // validateRequestedHeader json header = .ok () }

abbrev Sample := { sample : Value // validateSampleRow json sample = .ok () }

inductive SampleLog where
  | empty
  | headed (header : Header json) (rows : List (Sample json))

def printed (values : List Value) : List UInt8 :=
  values.flatMap fun value => encode (json.toString value) ++ [LF]

variable {json}

namespace SampleLog

def header : SampleLog json → Option Value
  | empty => none
  | headed header _ => some header.val

def rows : SampleLog json → List Value
  | empty => []
  | headed _ rows => rows.map Subtype.val

def documents (log : SampleLog json) : List Value := log.header.toList ++ log.rows

theorem head?_documents (log : SampleLog json) : log.documents.head? = log.header := by
  cases log <;> rfl

end SampleLog

/-! ## Reading what was printed -/

theorem writeJsonLine_printed (value : Value) (values : List Value) :
    writeJsonLine json value (printed json values) = printed json (values ++ [value]) := by
  rw [writeJsonLine, printed, printed, List.flatMap_append, List.flatMap_singleton]

theorem lines_printed (hprints : SerdeJson.Prints json) (values : List Value) :
    lines (printed json values) = values.map fun value => encode (json.toString value) := by
  have hprinted : printed json values =
      (values.map fun value => encode (json.toString value)).flatMap fun line => line ++ [LF] := by
    rw [printed, List.flatMap_map]
  have hline : ∀ line ∈ values.map fun value => encode (json.toString value), LF ∉ line := by
    intro line hline
    obtain ⟨value, -, rfl⟩ := List.mem_map.mp hline
    exact LF_not_mem_encode hprints.toCompact value
  rw [lines, hprinted, Lines.cut_flatMap hline]
  show (values.map _).map stripCr ++ [] = _
  rw [List.append_nil, List.map_map]
  refine List.map_congr_left fun value _ => ?_
  exact stripCr_append hprints.toCompact value []

theorem documents_printed (hprints : SerdeJson.Prints json) (values : List Value) :
    documents json (printed json values) = values := by
  rw [documents, lines_printed hprints, List.filterMap_map]
  have hdocument : document json ∘ (fun value => encode (json.toString value)) = some := by
    funext value
    show document json (encode (json.toString value)) = some value
    rw [document, decode_encode, Option.bind_some, hprints.notBlank, hprints.parses value]
    rfl
  rw [hdocument]
  exact List.filterMap_some

/-- Samples behind a header are read to the end. -/
theorem validateLines_samples (hprints : SerdeJson.Prints json) (rows : List (Sample json))
    (n : Nat)
    (header : Option Value) :
    validateLines json true (n + 1) header
      (rows.map fun row => encode (json.toString row.val)) = .ok header := by
  induction rows generalizing n with
  | nil => rfl
  | cons row rows ih =>
    rw [List.map_cons, validateLines_sample (decode_encode _) (hprints.notBlank row.val)
      (hprints.parses row.val) (sample_of_validateSampleRow row.property).2]
    exact ih (n + 1)

theorem isHeaderObject_of_validateRequestedHeader {header : Value}
    (h : validateRequestedHeader json header = .ok ()) : isHeaderObject json header = true := by
  unfold validateRequestedHeader at h
  split at h
  · next hheader => exact hheader
  · exact nomatch h

/-- Both depths of the check find the header of the log. -/
theorem validateHeaderReader_printed (hprints : SerdeJson.Prints json) (log : SampleLog json)
    (scan : Bool) : validateHeaderReader json (printed json log.documents) scan =
      .ok log.header := by
  rw [validateHeaderReader, lines_printed hprints]
  cases log with
  | empty => rfl
  | headed header rows =>
    have hvalid := isHeaderObject_of_validateRequestedHeader header.property
    show validateLines json scan 0 none
      (encode (json.toString header.val) :: (rows.map Subtype.val).map _) = .ok (some header.val)
    rw [validateLines_header (decode_encode _) (hprints.notBlank header.val)
      (hprints.parses header.val) hvalid, List.map_map]
    cases scan with
    | false => rfl
    | true => exact validateLines_samples hprints rows 0 (some header.val)

/-! ## Calls and their answers -/

/-- The calls that take a header. -/
inductive PathCall (Header Sample : Type) where
  | «open» (header : Header)
  | ensureSingleHeader (header : Header)
  | appendJsonlSampleRow (header : Header) (sample : Sample)
  deriving DecidableEq, Repr

namespace PathCall

variable {Header Sample : Type}

def header : PathCall Header Sample → Header
  | «open» header => header
  | ensureSingleHeader header => header
  | appendJsonlSampleRow header _ => header

def sample : PathCall Header Sample → Option Sample
  | «open» _ => none
  | ensureSingleHeader _ => none
  | appendJsonlSampleRow _ sample => some sample

/-- The stateless append reads the header line alone. -/
def scanSamples : PathCall Header Sample → Bool
  | «open» _ => true
  | ensureSingleHeader _ => true
  | appendJsonlSampleRow _ _ => false

end PathCall

abbrev CheckedCall (json : SerdeJson Value) := PathCall (Header json) (Sample json)

def CheckedCall.raw : CheckedCall json → PathCall Value Value
  | .open header => .open header.val
  | .ensureSingleHeader header => .ensureSingleHeader header.val
  | .appendJsonlSampleRow header sample => .appendJsonlSampleRow header.val sample.val

/-- All calls: the last is one of an open writer. -/
inductive LogCall (Value : Type) where
  | onPath (call : PathCall Value Value)
  | appendSampleRow (sample : Value)
  deriving DecidableEq, Repr

namespace LogCall

def header : LogCall Value → Option Value
  | onPath call => some call.header
  | appendSampleRow _ => none

def sample : LogCall Value → Option Value
  | onPath call => call.sample
  | appendSampleRow sample => some sample

end LogCall

/-- An answered call: whether it met a held lock, what it returned and the values that it
wrote. -/
structure Answer (Value : Type) where
  call : LogCall Value
  held : Bool
  result : Except JsonlError Unit
  lines : List Value

def successes (answers : List (Answer Value)) : List (Answer Value) :=
  answers.filter fun answer => answer.result.isOk

inductive Takes : SampleLog json → LogCall Value → List Value → SampleLog json → Prop where
  | first (call : CheckedCall json) :
      Takes .empty (.onPath call.raw) (call.header.val :: call.raw.sample.toList)
        (.headed call.header call.sample.toList)
  | later (header : Header json) (rows : List (Sample json)) (call : CheckedCall json)
      (hcompatible : headersAreCompatible json header.val call.header.val = true) :
      Takes (.headed header rows) (.onPath call.raw) call.raw.sample.toList
        (.headed header (rows ++ call.sample.toList))
  | row (header : Header json) (rows : List (Sample json)) (sample : Sample json) :
      Takes (.headed header rows) (.appendSampleRow sample.val) [sample.val]
        (.headed header (rows ++ [sample]))

/-- An answer leaves the log, or is that of a call that the log takes. -/
inductive Answered : SampleLog json → Answer Value → SampleLog json → Prop where
  | refused (log : SampleLog json) (call : LogCall Value) (held : Bool) (e : JsonlError) :
      Answered log { call := call, held := held, result := .error e, lines := [] } log
  | taken {log log' : SampleLog json} {call : LogCall Value} {lines : List Value}
      (htakes : Takes log call lines log') :
      Answered log { call := call, held := false, result := .ok (), lines := lines } log'

/-- The answers, one after the other, lead from the empty log to this one. -/
inductive History : List (Answer Value) → SampleLog json → Prop where
  | nil : History [] .empty
  | snoc {answers : List (Answer Value)} {log log' : SampleLog json} {answer : Answer Value}
      (hhistory : History answers log) (hanswered : Answered log answer log') :
      History (answers ++ [answer]) log'

/-! ## What the log keeps of its answers -/

@[simp]
theorem CheckedCall.raw_header (call : CheckedCall json) : call.raw.header = call.header.val := by
  cases call <;> rfl

@[simp]
theorem CheckedCall.raw_sample (call : CheckedCall json) :
    call.raw.sample = call.sample.map Subtype.val := by
  cases call <;> rfl

/-- The samples of a call, in the log and on its lines. -/
theorem map_sample (call : CheckedCall json) :
    call.sample.toList.map Subtype.val = call.raw.sample.toList := by
  rw [CheckedCall.raw_sample]
  cases call.sample <;> rfl

namespace Takes

variable {log log' : SampleLog json} {call : LogCall Value} {lines : List Value}

theorem documents (h : Takes log call lines log') : log'.documents = log.documents ++ lines := by
  cases h with
  | first call =>
    show call.header.val :: call.sample.toList.map Subtype.val = _
    rw [map_sample]
    rfl
  | later header rows call =>
    show header.val :: (rows ++ call.sample.toList).map Subtype.val = _
    rw [List.map_append, map_sample]
    rfl
  | row header rows sample =>
    show header.val :: (rows ++ [sample]).map Subtype.val = _
    rw [List.map_append]
    rfl

theorem rows (h : Takes log call lines log') : log'.rows = log.rows ++ call.sample.toList := by
  cases h with
  | first call => exact map_sample call
  | later header rows call =>
    show (rows ++ call.sample.toList).map Subtype.val = _
    rw [List.map_append, map_sample]
    rfl
  | row header rows sample => exact List.map_append

/-- The call finds the header that it leaves, or brings it. -/
theorem header (h : Takes log call lines log') :
    log'.header = log.header.or call.header ∧ log'.header.isSome = true := by
  cases h with
  | first call => exact ⟨(congrArg some call.raw_header).symm, rfl⟩
  | later header rows call => exact ⟨rfl, rfl⟩
  | row header rows sample => exact ⟨rfl, rfl⟩

end Takes

/-- The call is well formed and its header does not differ from the one of the log. -/
structure Welcome (json : SerdeJson Value) (header : Option Value) (call : LogCall Value) :
    Prop where
  headerValid : ∀ requested ∈ call.header, validateRequestedHeader json requested = .ok ()
  sampleValid : ∀ sample ∈ call.sample, validateSampleRow json sample = .ok ()
  compatible : ∀ requested ∈ call.header, ∀ existing ∈ header,
    headersAreCompatible json existing requested = true

theorem headersAreCompatible_refl (hcompact : SerdeJson.Compact json) (header : Value) :
    headersAreCompatible json header header = true := by
  refine List.all_eq_true.mpr fun key _ => ?_
  cases json.get header key with
  | none => rfl
  | some field => exact hcompact.eq_refl field

theorem CheckedCall.welcome (call : CheckedCall json) {header : Value}
    (hcompatible : headersAreCompatible json header call.header.val = true) :
    Welcome json (some header) (.onPath call.raw) := by
  refine ⟨?_, ?_, ?_⟩
  · rintro _ ⟨⟩
    rw [raw_header]
    exact call.header.property
  · intro sample hsample
    rw [LogCall.sample, raw_sample] at hsample
    obtain ⟨checked, -, rfl⟩ := Option.map_eq_some_iff.mp hsample
    exact checked.property
  · rintro _ ⟨⟩ _ ⟨⟩
    rw [raw_header]
    exact hcompatible

theorem Takes.welcome (hprints : SerdeJson.Prints json) {log log' : SampleLog json}
    {call : LogCall Value} {lines : List Value} (h : Takes log call lines log') :
    Welcome json log'.header call := by
  cases h with
  | first call => exact call.welcome (headersAreCompatible_refl hprints.toCompact call.header.val)
  | later header rows call hcompatible => exact call.welcome hcompatible
  | row header rows sample =>
    refine ⟨fun _ h => (nomatch h), ?_, fun _ h => (nomatch h)⟩
    rintro _ ⟨⟩
    exact sample.property

/-- An answer adds its lines to the log, and its sample where the call succeeded. -/
theorem Answered.documents {log log' : SampleLog json} {answer : Answer Value}
    (h : Answered log answer log') : log'.documents = log.documents ++ answer.lines := by
  cases h with
  | refused => exact (List.append_nil _).symm
  | taken htakes => exact htakes.documents

namespace History

variable {answers : List (Answer Value)} {log : SampleLog json} (h : History answers log)
include h

theorem documents : log.documents = answers.flatMap Answer.lines := by
  induction h with
  | nil => rfl
  | snoc hhistory hanswered ih =>
    rw [hanswered.documents, ih, List.flatMap_append, List.flatMap_singleton]

theorem rows : log.rows = (successes answers).flatMap fun answer => answer.call.sample.toList := by
  induction h with
  | nil => rfl
  | snoc hhistory hanswered ih =>
    rw [successes, List.filter_append, ← successes, List.flatMap_append, ← ih]
    cases hanswered with
    | refused => exact (List.append_nil _).symm
    | taken htakes =>
      rw [htakes.rows]
      exact congrArg _ (List.append_nil _).symm

theorem successes_eq_nil (hnone : log.header = none) : successes answers = [] := by
  induction h with
  | nil => rfl
  | snoc hhistory hanswered ih =>
    cases hanswered with
    | refused =>
      rw [successes, List.filter_append, ← successes, ih hnone]
      rfl
    | taken htakes =>
      obtain ⟨-, hsome⟩ := htakes.header
      rw [hnone] at hsome
      exact nomatch hsome

/-- The header is the one of the first call that succeeded. -/
theorem header : log.header = (successes answers).head?.bind fun answer => answer.call.header := by
  induction h with
  | nil => rfl
  | @snoc answers log _ _ hhistory hanswered ih =>
    rw [successes, List.filter_append, ← successes, List.head?_append]
    cases hanswered with
    | refused =>
      rw [ih]
      exact congrArg (Option.bind · _) Option.or_none.symm
    | taken htakes =>
      obtain ⟨hheader, -⟩ := htakes.header
      rw [hheader]
      cases hsuccesses : successes answers with
      | nil =>
        rw [ih, hsuccesses]
        rfl
      | cons first rest =>
        cases hlog : log.header with
        | none => exact nomatch hsuccesses.symm.trans (hhistory.successes_eq_nil hlog)
        | some existing =>
          rw [hlog, hsuccesses] at ih
          exact ih

/-- A call that succeeded met no held lock and was welcome to the log. -/
theorem welcome (hprints : SerdeJson.Prints json) : ∀ answer ∈ successes answers,
    answer.held = false ∧ Welcome json log.header answer.call := by
  induction h with
  | nil => exact fun _ h => absurd h List.not_mem_nil
  | @snoc answers log _ _ hhistory hanswered ih =>
    intro answer hanswer
    rw [successes, List.filter_append, ← successes] at hanswer
    cases hanswered with
    | refused =>
      rcases List.mem_append.mp hanswer with hold | hnew
      · exact ih answer hold
      · cases hnew
    | taken htakes =>
      rcases List.mem_append.mp hanswer with hold | hnew
      · obtain ⟨hheld, hwelcome⟩ := ih answer hold
        refine ⟨hheld, hwelcome.headerValid, hwelcome.sampleValid, ?_⟩
        intro requested hrequested existing hexisting
        refine hwelcome.compatible requested hrequested existing ?_
        -- The log had a header, since a call had succeeded.
        cases hlog : log.header with
        | none =>
          rw [hhistory.successes_eq_nil hlog] at hold
          cases hold
        | some header =>
          rw [htakes.header.1, hlog] at hexisting
          exact hexisting
      · obtain rfl := List.mem_singleton.mp hnew
        exact ⟨rfl, htakes.welcome hprints⟩

/-- A call that failed wrote nothing. -/
theorem lines_of_error : ∀ answer ∈ answers, ∀ e, answer.result = .error e → answer.lines = [] := by
  induction h with
  | nil => exact fun _ h => (nomatch h)
  | snoc hhistory hanswered ih =>
    intro answer hanswer e he
    rcases List.mem_append.mp hanswer with hold | hnew
    · exact ih answer hold e he
    · obtain rfl := List.mem_singleton.mp hnew
      cases hanswered with
      | refused => rfl
      | taken htakes => exact nomatch he

end History

end Json

end Jsonl

end McrxCore
