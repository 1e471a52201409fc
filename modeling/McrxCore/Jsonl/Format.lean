import McrxCore.Jsonl.Append

/-!
# The format the reader accepts

The writers check a sample row with `validateSampleRow`, the reader with
`repeatedHeaderField` alone.  What the reader accepts is described here by the lines of a
file, with the check of a row as a parameter.
-/

namespace McrxCore

namespace Jsonl

/-- A line of whitespace.  One that is not UTF-8 is not blank. -/
def isBlankLine (line : List UInt8) : Bool := (decode line).any isBlank

def written (lines : List (List UInt8)) : List (List UInt8) :=
  lines.filter fun line => !isBlankLine line

section Json

variable {Value : Type} (json : SerdeJson Value)

def parsedLine (line : List UInt8) : Option Value :=
  (decode line).bind fun text => (json.fromStr text).toOption

/-- A header line, and behind it lines with a value each that passes the check of a row. -/
def HeaderThenRows (row : Value → Prop) (lines : List (List UInt8)) (header : Value) : Prop :=
  ∃ first rest, lines = first :: rest ∧ parsedLine json first = some header ∧
    isHeaderObject json header = true ∧
    ∀ line ∈ rest, ∃ value, parsedLine json line = some value ∧ row value

/-- The single-header format with the row check of the writers. -/
def FileFormat (content : List UInt8) (header : Value) : Prop :=
  HeaderThenRows json (fun value => validateSampleRow json value = .ok ())
    (written (lines content)) header

def RepeatsNoHeaderField (value : Value) : Prop := repeatedHeaderField json value = none

variable {json}

/-! ## One line -/

theorem written_cons_blank {line : List UInt8} {text : String} (hdecode : decode line = some text)
    (hblank : isBlank text = true) (rest : List (List UInt8)) :
    written (line :: rest) = written rest := by
  have hline : isBlankLine line = true := by
    rw [isBlankLine, hdecode]
    exact hblank
  rw [written, List.filter_cons_of_neg (by rw [hline]; decide)]
  rfl

theorem written_cons {line : List UInt8} (hline : isBlankLine line = false)
    (rest : List (List UInt8)) : written (line :: rest) = line :: written rest := by
  rw [written, List.filter_cons_of_pos (by rw [hline]; rfl)]
  rfl

/-- The loop skips a line, or finds its value, or fails at it. -/
theorem line_cases (json : SerdeJson Value) (line : List UInt8) :
    (∃ text, decode line = some text ∧ isBlank text = true) ∨
      isBlankLine line = false ∧
        ((∃ text value, decode line = some text ∧ isBlank text = false ∧
            json.fromStr text = .ok value ∧ parsedLine json line = some value) ∨
          parsedLine json line = none ∧ ∀ scan n header rest,
            ∃ e, validateLines json scan n header (line :: rest) = .error e) := by
  cases hdecode : decode line with
  | none =>
    refine .inr ⟨by rw [isBlankLine, hdecode]; rfl, .inr ⟨by rw [parsedLine, hdecode]; rfl, ?_⟩⟩
    intro scan n header rest
    exact ⟨invalidUtf8, by rw [validateLines, hdecode]⟩
  | some text =>
    cases hblank : isBlank text with
    | true => exact .inl ⟨text, rfl, hblank⟩
    | false =>
      refine .inr ⟨by rw [isBlankLine, hdecode]; exact hblank, ?_⟩
      cases hparse : json.fromStr text with
      | ok value =>
        refine .inl ⟨text, value, rfl, hblank, hparse, ?_⟩
        rw [parsedLine, hdecode, Option.bind_some, hparse]
        rfl
      | error err =>
        refine .inr ⟨?_, fun scan n header rest => ⟨_,
          validateLines_bad hdecode hblank hparse rest⟩⟩
        rw [parsedLine, hdecode, Option.bind_some, hparse]
        rfl

theorem validateLines_repeated {scan : Bool} {n : Nat} {header : Option Value} {line : List UInt8}
    {text key : String} {value : Value} (hdecode : decode line = some text)
    (hblank : isBlank text = false) (hparse : json.fromStr text = .ok value)
    (hrepeated : repeatedHeaderField json value = some key) (rest : List (List UInt8)) :
    ∃ e, validateLines json scan (n + 1) header (line :: rest) = .error e := by
  simp [validateLines, hdecode, hblank, hparse, hrepeated]

theorem validateLines_noHeader {scan : Bool} {header : Option Value} {line : List UInt8}
    {text : String} {value : Value} (hdecode : decode line = some text)
    (hblank : isBlank text = false) (hparse : json.fromStr text = .ok value)
    (hvalid : isHeaderObject json value = false) (rest : List (List UInt8)) :
    ∃ e, validateLines json scan 0 header (line :: rest) = .error e := by
  simp [validateLines, hdecode, hblank, hparse, hvalid]

/-! ## All lines -/

/-- Behind the header the loop accepts the lines whose rows pass the reader's check. -/
theorem validateLines_rows {n : Nat} {header result : Option Value} {lines : List (List UInt8)} :
    validateLines json true (n + 1) header lines = .ok result ↔
      result = header ∧ ∀ line ∈ written lines, ∃ value, parsedLine json line = some value ∧
        RepeatsNoHeaderField json value := by
  induction lines generalizing n with
  | nil =>
    constructor
    · intro h
      cases h
      exact ⟨rfl, fun line hmem => (by cases hmem)⟩
    · rintro ⟨rfl, -⟩
      rfl
  | cons line rest ih =>
    rcases line_cases json line with ⟨text, hdecode, hblank⟩ | ⟨hline, hvalue | hbad⟩
    · rw [validateLines_blank hdecode hblank, written_cons_blank hdecode hblank]
      exact ih
    · obtain ⟨text, value, hdecode, hblank, hparse, hparsed⟩ := hvalue
      rw [written_cons hline, List.forall_mem_cons]
      cases hrepeated : repeatedHeaderField json value with
      | none =>
        rw [validateLines_sample hdecode hblank hparse hrepeated, ih]
        exact ⟨fun h => ⟨h.1, ⟨value, hparsed, hrepeated⟩, h.2⟩, fun h => ⟨h.1, h.2.2⟩⟩
      | some key =>
        obtain ⟨e, he⟩ := validateLines_repeated hdecode hblank hparse hrepeated rest
        rw [he]
        refine ⟨fun h => (by cases h), fun h => ?_⟩
        obtain ⟨-, ⟨found, hfound, hnone⟩, -⟩ := h
        obtain rfl := Option.some.inj (hparsed.symm.trans hfound)
        exact absurd (hrepeated.symm.trans hnone) (Option.some_ne_none key)
    · obtain ⟨hparsed, herror⟩ := hbad
      obtain ⟨e, he⟩ := herror true (n + 1) header rest
      rw [he, written_cons hline, List.forall_mem_cons]
      refine ⟨fun h => (by cases h), fun h => ?_⟩
      obtain ⟨-, ⟨found, hfound, -⟩, -⟩ := h
      exact absurd (hparsed.symm.trans hfound).symm (Option.some_ne_none found)

/-- The reader's answer, by the lines that are not blank. -/
theorem validateLines_format (json : SerdeJson Value) (lines : List (List UInt8)) :
    (validateLines json true 0 none lines = .ok none ↔ written lines = []) ∧
      ∀ header, validateLines json true 0 none lines = .ok (some header) ↔
        HeaderThenRows json (RepeatsNoHeaderField json) (written lines) header := by
  induction lines with
  | nil =>
    refine ⟨⟨fun _ => rfl, fun _ => rfl⟩, fun header => ⟨fun h => (by cases h), ?_⟩⟩
    rintro ⟨first, rest, h, -⟩
    cases h
  | cons line rest ih =>
    rcases line_cases json line with ⟨text, hdecode, hblank⟩ | ⟨hline, hvalue | hbad⟩
    · rw [validateLines_blank hdecode hblank, written_cons_blank hdecode hblank]
      exact ih
    · obtain ⟨text, value, hdecode, hblank, hparse, hparsed⟩ := hvalue
      rw [written_cons hline]
      cases hvalid : isHeaderObject json value with
      | true =>
        rw [validateLines_header hdecode hblank hparse hvalid, if_pos rfl]
        refine ⟨⟨fun h => ?_, fun h => (by cases h)⟩, fun header => ?_⟩
        · cases (validateLines_rows.mp h).1
        · rw [validateLines_rows]
          constructor
          · rintro ⟨hheader, hrows⟩
            cases hheader
            exact ⟨line, written rest, rfl, hparsed, hvalid, hrows⟩
          · rintro ⟨first, others, hsplit, hfirst, -, hrows⟩
            cases hsplit
            exact ⟨hfirst.symm.trans hparsed, hrows⟩
      | false =>
        obtain ⟨e, he⟩ :=
          @validateLines_noHeader _ json true none _ _ _ hdecode hblank hparse hvalid rest
        rw [he]
        refine ⟨⟨fun h => (by cases h), fun h => (by cases h)⟩,
          fun header => ⟨fun h => (by cases h), ?_⟩⟩
        rintro ⟨first, others, hsplit, hfirst, hheader, -⟩
        cases hsplit
        obtain rfl := Option.some.inj (hparsed.symm.trans hfirst)
        exact absurd (hvalid.symm.trans hheader) Bool.false_ne_true
    · obtain ⟨hparsed, herror⟩ := hbad
      obtain ⟨e, he⟩ := herror true 0 none rest
      rw [he, written_cons hline]
      refine ⟨⟨fun h => (by cases h), fun h => (by cases h)⟩,
        fun header => ⟨fun h => (by cases h), ?_⟩⟩
      rintro ⟨first, others, hsplit, hfirst, -⟩
      cases hsplit
      exact absurd (hparsed.symm.trans hfirst).symm (Option.some_ne_none header)

/-! ## The rows that only the reader accepts -/

theorem validateSampleRow_ok_iff {value : Value} :
    validateSampleRow json value = .ok () ↔
      json.isObject value = true ∧ RepeatsNoHeaderField json value := by
  refine ⟨sample_of_validateSampleRow, ?_⟩
  rintro ⟨hobject, hrepeats⟩
  rw [RepeatsNoHeaderField] at hrepeats
  rw [validateSampleRow, hobject, hrepeats]
  rfl

variable (json)

/-- A header line and rows that the reader's check passes, with a row that is no object. -/
def HasBareRow (content : List UInt8) : Prop :=
  ∃ header, HeaderThenRows json (RepeatsNoHeaderField json) (written (lines content)) header ∧
    ∃ line ∈ (written (lines content)).tail, ∃ value, parsedLine json line = some value ∧
      json.isObject value = false

variable {json}

/-- What the writers would write, the reader accepts. -/
theorem HeaderThenRows.of_fileFormat {content : List UInt8} {header : Value}
    (h : FileFormat json content header) :
    HeaderThenRows json (RepeatsNoHeaderField json) (written (lines content)) header := by
  obtain ⟨first, rest, hsplit, hfirst, hheader, hrows⟩ := h
  refine ⟨first, rest, hsplit, hfirst, hheader, fun line hmem => ?_⟩
  obtain ⟨value, hparsed, hrow⟩ := hrows line hmem
  exact ⟨value, hparsed, (validateSampleRow_ok_iff.mp hrow).2⟩

theorem fileFormat_iff {content : List UInt8} {header : Value}
    (h : HeaderThenRows json (RepeatsNoHeaderField json) (written (lines content)) header) :
    FileFormat json content header ↔ ¬ HasBareRow json content := by
  obtain ⟨first, rest, hsplit, hfirst, hheader, hrows⟩ := h
  constructor
  · rintro ⟨first', rest', hsplit', -, -, hsamples⟩ ⟨_, -, line, hmem, value, hparsed, hbare⟩
    rw [hsplit', List.tail_cons] at hmem
    obtain ⟨found, hfound, hrow⟩ := hsamples line hmem
    obtain rfl := Option.some.inj (hparsed.symm.trans hfound)
    exact absurd (hbare.symm.trans (validateSampleRow_ok_iff.mp hrow).1) Bool.false_ne_true
  · intro hbare
    refine ⟨first, rest, hsplit, hfirst, hheader, fun line hmem => ?_⟩
    obtain ⟨value, hparsed, hrow⟩ := hrows line hmem
    refine ⟨value, hparsed, validateSampleRow_ok_iff.mpr ⟨?_, hrow⟩⟩
    cases hobject : json.isObject value with
    | true => rfl
    | false =>
      refine absurd ⟨header, ⟨first, rest, hsplit, hfirst, hheader, hrows⟩, line, ?_, value,
        hparsed, hobject⟩ hbare
      rw [hsplit]
      exact hmem

variable (json)

/-- `validate_existing_header` accepts exactly the format that the writers enforce. -/
def ReaderMeetsFormat (content : List UInt8) : Prop :=
  (∀ header, validateExistingHeader json (some content) = .ok (some header) ↔
      FileFormat json content header) ∧
    (validateExistingHeader json (some content) = .ok none ↔ written (lines content) = [])

/-- The reader meets the format exactly where no row is there that is no object. -/
theorem reader_meets_format_iff (content : List UInt8) :
    ReaderMeetsFormat json content ↔ ¬ HasBareRow json content := by
  obtain ⟨hempty, hheader⟩ := validateLines_format json (lines content)
  constructor
  · rintro ⟨haccepts, -⟩ hbare
    obtain ⟨header, hrows, -⟩ := id hbare
    exact (fileFormat_iff hrows).mp ((haccepts header).mp ((hheader header).mpr hrows)) hbare
  · intro hbare
    refine ⟨fun header => ⟨fun h => ?_, fun h => ?_⟩, hempty⟩
    · exact (fileFormat_iff ((hheader header).mp h)).mpr hbare
    · exact (hheader header).mpr (.of_fileFormat h)

end Json

/-- A log with the number `1.0` as its row. -/
def numberRowLog : List UInt8 := writeJsonLine logJson .createdAt headerLog

theorem hasBareRow_numberRowLog :
    HasBareRow logJson numberRowLog ∧
      HeaderThenRows logJson (RepeatsNoHeaderField logJson) (written (lines numberRowLog))
        .header := by
  have hcompact := logJson_parses.toCompact
  obtain ⟨first, rest, hsplit, hfirst, hheader, hrows⟩ :=
    ((validateLines_format logJson (lines headerLog)).2 .header).mp validateHeaderReader_headerLog
  have hclean : unterminated headerLog = [] := (cut_writeJsonLine hcompact .header []).2
  obtain ⟨hterminated, hclean'⟩ := cut_writeJsonLine hcompact .createdAt headerLog
  have hline : isBlankLine (encode (logJson.toString .createdAt)) = false := by
    rw [isBlankLine, decode_encode]
    exact hcompact.notBlank .createdAt
  have hwritten : written (lines numberRowLog) =
      first :: (rest ++ [encode (logJson.toString .createdAt)]) := by
    rw [numberRowLog, lines_of_terminated hclean', hterminated, ← lines_of_terminated hclean,
      hclean, List.nil_append, written, List.filter_append, ← written, hsplit, ← written,
      written_cons hline]
    rfl
  have hparsed : parsedLine logJson (encode (logJson.toString .createdAt)) = some .createdAt := by
    rw [parsedLine, decode_encode, Option.bind_some, logJson_prints.parses .createdAt]
    rfl
  have hloose : HeaderThenRows logJson (RepeatsNoHeaderField logJson)
      (written (lines numberRowLog)) .header := by
    refine ⟨first, _, hwritten, hfirst, hheader, fun line hmem => ?_⟩
    rcases List.mem_append.mp hmem with hmem | hmem
    · exact hrows line hmem
    · rw [List.mem_singleton.mp hmem]
      exact ⟨.createdAt, hparsed, rfl⟩
  refine ⟨⟨.header, hloose, _, ?_, .createdAt, hparsed, rfl⟩, hloose⟩
  rw [hwritten]
  exact List.mem_append_right _ (List.mem_singleton_self _)

theorem reader_accepts_number_row :
    validateExistingHeader logJson (some numberRowLog) = .ok (some .header) ∧
      ¬ ReaderMeetsFormat logJson numberRowLog := by
  obtain ⟨hbare, hloose⟩ := hasBareRow_numberRowLog
  have haccepts : validateExistingHeader logJson (some numberRowLog) = .ok (some .header) :=
    ((validateLines_format logJson (lines numberRowLog)).2 .header).mpr hloose
  exact ⟨haccepts, fun h => (fileFormat_iff hloose).mp ((h.1 .header).mp haccepts) hbare⟩

end Jsonl

end McrxCore
