import McrxCore.Jsonl

/-!
# What the reader accepts

The reader takes a log line by line, so what it makes of a log with a line behind it
follows from what it makes of the log and of the line.
-/

namespace McrxCore

namespace Jsonl

/-! ## Text -/

/-- A text is its bytes, where they are UTF-8. -/
theorem decode_eq_some_iff {bytes : List UInt8} {text : String} :
    decode bytes = some text ↔ encode text = bytes := by
  constructor
  · intro h
    unfold decode String.fromUTF8? at h
    split at h
    · cases h
      exact List.toList_data_toByteArray
    · exact nomatch h
  · rintro rfl
    have hbytes : (encode text).toByteArray = text.toByteArray :=
      ByteArray.ext (Array.toList_inj.mp List.toList_data_toByteArray)
    unfold decode String.fromUTF8?
    rw [hbytes]
    exact dif_pos text.isValidUTF8

theorem decode_eq_none_iff {bytes : List UInt8} :
    decode bytes = none ↔ ¬ bytes.toByteArray.IsValidUTF8 := by
  unfold decode String.fromUTF8?
  split
  · next h => exact iff_of_false (Option.some_ne_none _) fun hnot => hnot h
  · next h => exact iff_of_true rfl h

theorem decode_encode (text : String) : decode (encode text) = some text :=
  decode_eq_some_iff.mpr rfl

theorem encode_append (first second : String) :
    encode (first ++ second) = encode first ++ encode second := by
  rw [encode, String.toByteArray_append, ByteArray.toList_data_append]
  rfl

theorem decode_append {bytes : List UInt8} {text : String} (h : decode bytes = some text)
    (more : String) : decode (bytes ++ encode more) = some (text ++ more) := by
  rw [decode_eq_some_iff, encode_append, decode_eq_some_iff.mp h]

theorem isBlank_append (first second : String) :
    isBlank (first ++ second) = (isBlank first && isBlank second) := by
  rw [isBlank, String.toList_append, List.all_append]
  rfl

section Json

variable {Value : Type} {json : SerdeJson Value}

/-- What the module relies on when it writes: a printed value has no control characters and
is not blank. -/
structure SerdeJson.Compact (json : SerdeJson Value) : Prop where
  printable : ∀ value, ∀ byte ∈ encode (json.toString value), 32 ≤ byte
  notBlank : ∀ value, isBlank (json.toString value) = false
  eq_refl : ∀ value, json.eq value value = true

def ReadsBack (json : SerdeJson Value) (value : Value) : Prop :=
  json.fromStr (json.toString value) = .ok value

structure SerdeJson.Prints (json : SerdeJson Value) : Prop extends SerdeJson.Compact json where
  parses : ∀ value, ReadsBack json value

theorem sample_of_validateSampleRow {value : Value} (h : validateSampleRow json value = .ok ()) :
    json.isObject value = true ∧ repeatedHeaderField json value = none := by
  unfold validateSampleRow at h
  split at h
  · exact nomatch h
  · next hobject =>
    rw [Bool.not_eq_true, Bool.not_eq_false'] at hobject
    split at h
    · exact nomatch h
    · next hrepeated => exact ⟨hobject, hrepeated⟩

/-! ## Printed lines -/

section Printed

variable (hcompact : SerdeJson.Compact json) (value : Value)
include hcompact

theorem LF_not_mem_encode : LF ∉ encode (json.toString value) := by
  intro hmem
  have hle := hcompact.printable value LF hmem
  exact absurd hle (by decide)

theorem encode_toString_ne_nil : encode (json.toString value) ≠ [] := by
  intro hnil
  have hempty : json.toString value = "" := by
    have hdecode := decode_encode (json.toString value)
    rw [hnil] at hdecode
    exact Option.some.inj (hdecode.symm.trans (decode_encode ""))
  have hblank := hcompact.notBlank value
  rw [hempty] at hblank
  exact absurd hblank (by decide)

/-- No carriage return is dropped from a line that ends in a printed value. -/
theorem stripCr_append (tail : List UInt8) :
    stripCr (tail ++ encode (json.toString value)) = tail ++ encode (json.toString value) := by
  refine if_neg fun hlast => ?_
  have hlast' := List.getLast?_eq_some_getLast (encode_toString_ne_nil hcompact value)
  rw [List.getLast?_append, hlast', Option.some_or] at hlast
  have hle := hcompact.printable value CR (List.mem_of_getLast? (hlast'.trans hlast))
  exact absurd hle (by decide)

end Printed

/-! ## One line after the other -/

def document (json : SerdeJson Value) (line : List UInt8) : Option Value :=
  (decode line).bind fun text => if isBlank text then none else (json.fromStr text).toOption

/-- The values on the lines that are not blank: the header and the sample rows. -/
def documents (json : SerdeJson Value) (content : List UInt8) : List Value :=
  (lines content).filterMap (document json)

def rows (json : SerdeJson Value) (content : List UInt8) : List Value :=
  (documents json content).tail

theorem validateLines_blank {scan : Bool} {n : Nat} {header : Option Value} {line : List UInt8}
    {text : String} (hdecode : decode line = some text) (hblank : isBlank text = true)
    (rest : List (List UInt8)) :
    validateLines json scan n header (line :: rest) = validateLines json scan n header rest := by
  simp only [validateLines, hdecode, hblank, if_true]

theorem validateLines_bad {scan : Bool} {n : Nat} {header : Option Value} {line : List UInt8}
    {text err : String} (hdecode : decode line = some text) (hblank : isBlank text = false)
    (hparse : json.fromStr text = .error err) (rest : List (List UInt8)) :
    validateLines json scan n header (line :: rest) = .error (invalidJson (n + 1) err) := by
  simp only [validateLines, hdecode, hblank, hparse]
  rfl

theorem validateLines_header {header : Option Value} {line : List UInt8} {text : String}
    {value : Value} (hdecode : decode line = some text) (hblank : isBlank text = false)
    (hparse : json.fromStr text = .ok value) (hvalid : isHeaderObject json value = true)
    (scan : Bool) (rest : List (List UInt8)) :
    validateLines json scan 0 header (line :: rest) =
      if scan then validateLines json true 1 (some value) rest else .ok (some value) := by
  cases scan <;> simp [validateLines, hdecode, hblank, hparse, hvalid]

theorem validateLines_sample {scan : Bool} {n : Nat} {header : Option Value} {line : List UInt8}
    {text : String} {value : Value} (hdecode : decode line = some text)
    (hblank : isBlank text = false) (hparse : json.fromStr text = .ok value)
    (hvalid : repeatedHeaderField json value = none) (rest : List (List UInt8)) :
    validateLines json scan (n + 1) header (line :: rest) =
      validateLines json scan (n + 2) header rest := by
  simp [validateLines, hdecode, hblank, hparse, hvalid]

/-- A line that the reader accepts is blank, or the value of the header or of a sample. -/
theorem validateLines_cons_cases {n : Nat} {header result : Option Value} {line : List UInt8}
    {rest : List (List UInt8)} (h : validateLines json true n header (line :: rest) = .ok result) :
    ∃ text, decode line = some text ∧
      (isBlank text = true ∧ document json line = none ∧
          validateLines json true n header rest = .ok result ∨
        ∃ value, isBlank text = false ∧ json.fromStr text = .ok value ∧
          document json line = some value ∧
          (n = 0 ∧ isHeaderObject json value = true ∧
              validateLines json true 1 (some value) rest = .ok result ∨
            n ≠ 0 ∧ repeatedHeaderField json value = none ∧
              validateLines json true (n + 1) header rest = .ok result)) := by
  simp only [validateLines] at h
  split at h
  · exact nomatch h
  · next text hdecode =>
    refine ⟨text, hdecode, ?_⟩
    split at h
    · next hblank =>
      refine .inl ⟨hblank, ?_, h⟩
      rw [document, hdecode, Option.bind_some, if_pos hblank]
    · next hblank =>
      rw [Bool.not_eq_true] at hblank
      split at h
      · exact nomatch h
      · next value hparse =>
        refine .inr ⟨value, hblank, hparse, ?_, ?_⟩
        · rw [document, hdecode, Option.bind_some, hblank, hparse]
          rfl
        · split at h
          · next hzero =>
            obtain rfl : n = 0 := by omega
            split at h
            · exact nomatch h
            · next hvalid =>
              rw [Bool.not_eq_true, Bool.not_eq_false'] at hvalid
              exact .inl ⟨rfl, hvalid, h⟩
          · next hzero =>
            split at h
            · exact nomatch h
            · next hvalid => exact .inr ⟨by omega, hvalid, h⟩

/-- Lines behind accepted ones are read from the index and header that these leave, by
induction on the accepted lines. -/
theorem validateLines_append {n : Nat} {header result : Option Value} {before : List (List UInt8)}
    (h : validateLines json true n header before = .ok result) (rest : List (List UInt8)) :
    validateLines json true n header (before ++ rest) =
      validateLines json true (n + (before.filterMap (document json)).length) result rest := by
  induction before generalizing n header with
  | nil =>
    cases h
    rfl
  | cons line before ih =>
    obtain ⟨text, hdecode, ⟨hblank, hdocument, h⟩ | ⟨value, hblank, hparse, hdocument, hcase⟩⟩ :=
      validateLines_cons_cases h
    · rw [List.cons_append, validateLines_blank hdecode hblank, ih h, List.filterMap_cons,
        hdocument]
    · rw [List.cons_append, List.filterMap_cons, hdocument, List.length_cons]
      rcases hcase with ⟨rfl, hvalid, h⟩ | ⟨hzero, hvalid, h⟩
      · rw [validateLines_header hdecode hblank hparse hvalid, if_pos rfl, ih h, Nat.zero_add,
          Nat.add_comm]
      · obtain ⟨m, rfl⟩ := Nat.exists_eq_succ_of_ne_zero hzero
        rw [validateLines_sample hdecode hblank hparse hvalid, ih h]
        exact congrArg (validateLines json true · result rest) (by omega)

/-- The lines before others that are accepted are accepted. -/
theorem validateLines_of_append {n : Nat} {header result : Option Value}
    {before rest : List (List UInt8)}
    (h : validateLines json true n header (before ++ rest) = .ok result) :
    ∃ result', validateLines json true n header before = .ok result' := by
  induction before generalizing n header with
  | nil => exact ⟨header, rfl⟩
  | cons line before ih =>
    obtain ⟨text, hdecode, ⟨hblank, -, h⟩ | ⟨value, hblank, hparse, -, hcase⟩⟩ :=
      validateLines_cons_cases h
    · rw [validateLines_blank hdecode hblank]
      exact ih h
    · rcases hcase with ⟨rfl, hvalid, h⟩ | ⟨hzero, hvalid, h⟩
      · rw [validateLines_header hdecode hblank hparse hvalid, if_pos rfl]
        exact ih h
      · obtain ⟨m, rfl⟩ := Nat.exists_eq_succ_of_ne_zero hzero
        rw [validateLines_sample hdecode hblank hparse hvalid]
        exact ih h

/-- Later lines leave the header. -/
theorem validateLines_header_eq {n : Nat} {header result : Option Value}
    {content : List (List UInt8)}
    (h : validateLines json true (n + 1) header content = .ok result) : result = header := by
  induction content generalizing n with
  | nil =>
    cases h
    rfl
  | cons line content ih =>
    obtain ⟨text, -, ⟨-, -, h⟩ | ⟨value, -, -, -, ⟨hzero, -⟩ | ⟨-, -, h⟩⟩⟩ :=
      validateLines_cons_cases h
    · exact ih h
    · exact nomatch hzero
    · exact ih h

/-- The header is the first value, and the check of the header alone finds it too. -/
theorem validateLines_ok {result : Option Value} {content : List (List UInt8)}
    (h : validateLines json true 0 none content = .ok result) :
    result = (content.filterMap (document json)).head? ∧
      validateLines json false 0 none content = .ok result := by
  induction content with
  | nil =>
    cases h
    exact ⟨rfl, rfl⟩
  | cons line content ih =>
    obtain ⟨text, hdecode, ⟨hblank, hdocument, h⟩ | ⟨value, hblank, hparse, hdocument, hcase⟩⟩ :=
      validateLines_cons_cases h
    · rw [List.filterMap_cons, hdocument, validateLines_blank hdecode hblank]
      exact ih h
    · rcases hcase with ⟨-, hvalid, h⟩ | ⟨hzero, -⟩
      · rw [List.filterMap_cons, hdocument, validateLines_header hdecode hblank hparse hvalid,
          validateLines_header_eq h]
        exact ⟨rfl, rfl⟩
      · exact absurd rfl hzero

/-! ## A line behind a log -/

def terminated (content : List UInt8) : List (List UInt8) := (Lines.cut LF content).1.map stripCr

/-- What stands behind the last line feed. -/
def unterminated (content : List UInt8) : List UInt8 := (Lines.cut LF content).2

theorem lines_eq (content : List UInt8) :
    lines content = terminated content ++
      if (unterminated content).isEmpty then [] else [unterminated content] := rfl

theorem lines_of_terminated {content : List UInt8} (h : unterminated content = []) :
    lines content = terminated content := by
  rw [lines_eq, h]
  exact List.append_nil _

/-- A header that no line feed ends is accepted. -/
theorem validateHeaderReader_unterminated (hcompact : SerdeJson.Compact json) {header : Value}
    (hheader : isHeaderObject json header = true) (hback : ReadsBack json header) :
    unterminated (encode (json.toString header)) = encode (json.toString header) ∧
      validateHeaderReader json (encode (json.toString header)) true = .ok (some header) := by
  have hcut := Lines.cut_of_notMem (LF_not_mem_encode hcompact header)
  have hunterminated : unterminated (encode (json.toString header)) =
      encode (json.toString header) := by
    rw [unterminated, hcut]
  have hterminated : terminated (encode (json.toString header)) = [] := by
    rw [terminated, hcut]
    rfl
  refine ⟨hunterminated, ?_⟩
  rw [validateHeaderReader, lines_eq, hterminated, hunterminated,
    List.isEmpty_eq_false_iff.mpr (encode_toString_ne_nil hcompact header), if_neg nofun,
    List.nil_append]
  exact validateLines_header (decode_encode _) (hcompact.notBlank header) hback hheader true []

/-- A value is written behind what no line feed ends. -/
theorem cut_writeJsonLine (hcompact : SerdeJson.Compact json) (value : Value)
    (content : List UInt8) :
    terminated (writeJsonLine json value content) =
        terminated content ++ [unterminated content ++ encode (json.toString value)] ∧
      unterminated (writeJsonLine json value content) = [] := by
  have hcut := Lines.cut_append_line (LF_not_mem_encode hcompact value) content []
  refine ⟨?_, ?_⟩
  · rw [terminated, writeJsonLine, hcut, List.map_append, ← terminated]
    show _ ++ [stripCr (unterminated content ++ _)] = _
    rw [stripCr_append hcompact]
  · rw [unterminated, writeJsonLine, hcut]
    rfl

/-- The unterminated tail of an accepted log is blank, or the value of its last line. -/
theorem validateHeaderReader_cases {content : List UInt8} {old : Option Value}
    (h : validateHeaderReader json content true = .ok old) :
    ∃ text before, decode (unterminated content) = some text ∧
      validateLines json true 0 none (terminated content) = .ok before ∧
      (isBlank text = true ∧ before = old ∧
          documents json content = (terminated content).filterMap (document json) ∨
        isBlank text = false ∧ ∃ value, json.fromStr text = .ok value) := by
  rw [validateHeaderReader, lines_eq] at h
  obtain ⟨before, hbefore⟩ := validateLines_of_append h
  rw [validateLines_append hbefore] at h
  by_cases hempty : unterminated content = []
  · refine ⟨"", before, ?_, hbefore, .inl ⟨rfl, ?_, ?_⟩⟩
    · rw [hempty]
      exact decode_encode ""
    · rw [hempty] at h
      cases h
      rfl
    · rw [documents, lines_of_terminated hempty]
  · rw [List.isEmpty_eq_false_iff.mpr hempty, if_neg nofun] at h
    obtain ⟨text, hdecode, ⟨hblank, hdocument, h⟩ | ⟨value, hblank, hparse, -, -⟩⟩ :=
      validateLines_cons_cases h
    · refine ⟨text, before, hdecode, hbefore, .inl ⟨hblank, ?_, ?_⟩⟩
      · cases h
        rfl
      · rw [documents, lines_eq, List.isEmpty_eq_false_iff.mpr hempty, if_neg nofun,
          List.filterMap_append, List.filterMap_cons, hdocument]
        exact List.append_nil _
    · exact ⟨text, before, hdecode, hbefore, .inr ⟨hblank, value, hparse⟩⟩

end Json

end Jsonl

end McrxCore
