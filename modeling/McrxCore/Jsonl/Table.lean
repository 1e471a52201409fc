import McrxCore.Jsonl.Reader

/-!
# The texts of JSON values

What the JSON grammar says of a parser, and a `serde_json` that knows finitely many values,
each by its text.  Where no text is the beginning of another one it parses as the grammar
says.
-/

namespace McrxCore

namespace Jsonl

/-! ## The grammar -/

def isJsonWhitespace (c : Char) : Bool := c == ' ' || c == '\t' || c == '\n' || c == '\r'

def isJsonBlank (text : String) : Bool := text.toList.all isJsonWhitespace

theorem isWhitespace_of_isJsonWhitespace {c : Char} (h : isJsonWhitespace c = true) :
    isWhitespace c = true := by
  simp only [isJsonWhitespace, Bool.or_eq_true, beq_iff_eq] at h
  rcases h with ((rfl | rfl) | rfl) | rfl <;> decide

theorem isBlank_of_isJsonBlank {text : String} (h : isJsonBlank text = true) :
    isBlank text = true := by
  rw [isJsonBlank, List.all_eq_true] at h
  rw [isBlank, List.all_eq_true]
  intro c hc
  exact isWhitespace_of_isJsonWhitespace (h c hc)

section Json

variable {Value : Type} {json : SerdeJson Value}

/-- What the JSON grammar says of the parser: it skips leading whitespace, no other
whitespace starts a value, and nothing stands behind a value. -/
structure SerdeJson.Parses (json : SerdeJson Value) : Prop extends SerdeJson.Compact json where
  skips : ∀ ws text value, isJsonBlank ws = true →
    (json.fromStr (ws ++ text) = .ok value ↔ json.fromStr text = .ok value)
  noValue : ∀ ws text, isBlank ws = true → isJsonBlank ws = false →
    ∃ err, json.fromStr (ws ++ text) = .error err
  trailing : ∀ text value rest, json.fromStr text = .ok value →
    ∃ err, json.fromStr (text ++ ("\x7b" ++ rest)) = .error err
  object : ∀ value, json.isObject value = true → ∃ rest, json.toString value = "\x7b" ++ rest
  get_object : ∀ value key, (json.get value key).isSome = true → json.isObject value = true

theorem isObject_of_isHeaderObject (hparses : SerdeJson.Parses json) {value : Value}
    (h : isHeaderObject json value = true) : json.isObject value = true := by
  refine hparses.get_object value "flags" ?_
  simp only [isHeaderObject, Bool.and_eq_true] at h
  cases hflags : json.get value "flags" with
  | none =>
    rw [hflags] at h
    exact nomatch h.2
  | some _ => rfl

end Json

/-- Only whitespace of the grammar is skipped before a value. -/
theorem dropWhile_of_isBlank {ws : List Char} (hblank : ws.all isWhitespace = true)
    (hspace : ws.all isJsonWhitespace = false) :
    ∃ c rest, ws.dropWhile isJsonWhitespace = c :: rest ∧ isWhitespace c = true := by
  induction ws with
  | nil => exact nomatch hspace
  | cons c ws ih =>
    rw [List.all_cons, Bool.and_eq_true] at hblank
    cases hc : isJsonWhitespace c with
    | true =>
      rw [List.all_cons, hc, Bool.true_and] at hspace
      rw [List.dropWhile_cons_of_pos hc]
      exact ih hblank.2 hspace
    | false =>
      rw [List.dropWhile_cons_of_neg (by rw [hc]; exact nofun)]
      exact ⟨c, ws, rfl, hblank.1⟩

/-! ## Tables -/

def ascii (text : String) : List Char := (encode text).map fun byte => Char.ofNat byte.toNat

theorem encode_ofList (symbols : List Char) :
    encode (String.ofList symbols) = symbols.flatMap String.utf8EncodeChar := by
  rw [encode, String.toByteArray_ofList, List.utf8Encode]
  simp

theorem utf8EncodeChar_ascii {c : Char} (h : c.toNat < 128) :
    String.utf8EncodeChar c = [UInt8.ofNat c.toNat] := by
  have hsize : c.utf8Size = 1 := by
    rw [Char.utf8Size_eq_one_iff]
    apply UInt32.le_iff_toNat_le.mpr
    have hval : c.val.toNat < 128 := h
    simp
    omega
  rw [String.utf8EncodeChar_eq_singleton hsize]
  rfl

structure JsonTable (Value : Type) where
  all : List Value
  chars : Value → List Char
  get : Value → String → Option Value
  asStr : Value → Option String
  asF64 : Value → Option UInt64
  isObject : Value → Bool

namespace JsonTable

variable {Value : Type} (table : JsonTable Value)

def text (value : Value) : String := String.ofList (table.chars value)

/-- A value stands behind JSON whitespace. -/
def parse (text : String) : Except String Value :=
  match table.all.find? fun value =>
      table.chars value == text.toList.dropWhile isJsonWhitespace with
  | some value => .ok value
  | none => .error "expected value"

def json [DecidableEq Value] : SerdeJson Value where
  get := table.get
  asStr := table.asStr
  asF64 := table.asF64
  isObject := table.isObject
  eq first second := first == second
  toString := table.text
  fromStr := table.parse

/-- The texts are a prefix code of printable ASCII, and objects start with a brace. -/
structure Valid : Prop where
  mem_all : ∀ value, value ∈ table.all
  code : ∀ value ∈ table.all, ∀ other ∈ table.all,
    (table.chars value).isPrefixOf (table.chars other) = true → value = other
  head : ∀ value ∈ table.all,
    (table.chars value).head?.any (fun c => !isWhitespace c) = true
  printable : ∀ value ∈ table.all,
    (table.chars value).all (fun c => Nat.ble 32 c.toNat && Nat.blt c.toNat 128) = true
  brace : ∀ value ∈ table.all, table.isObject value = true →
    (table.chars value).head? = some '\x7b'
  get_object : ∀ value key, (table.get value key).isSome = true → table.isObject value = true

variable {table}

theorem toList_text (value : Value) : (table.text value).toList = table.chars value :=
  String.toList_ofList

theorem Valid.eq_of_prefix (h : table.Valid) {value other : Value}
    (hprefixed : table.chars value <+: table.chars other) : value = other := by
  apply h.code value (h.mem_all value) other (h.mem_all other)
  exact List.isPrefixOf_iff_prefix.mpr hprefixed

theorem Valid.parse_ok_iff (h : table.Valid) {text : String} {value : Value} :
    table.parse text = .ok value ↔
      text.toList.dropWhile isJsonWhitespace = table.chars value := by
  constructor
  · intro hparse
    unfold parse at hparse
    split at hparse
    · next hfind =>
      cases hparse
      have hfound := List.find?_some hfind
      exact (beq_iff_eq.mp hfound).symm
    · cases hparse
  · intro htext
    unfold parse
    split
    · next found hfind =>
      have hfound := List.find?_some hfind
      have hsame : found = value := by
        apply h.eq_of_prefix
        rw [(beq_iff_eq.mp hfound).trans htext]
      rw [hsame]
    · next hnone =>
      have hnot := List.find?_eq_none.mp hnone value (h.mem_all value)
      exact absurd (beq_iff_eq.mpr htext.symm) hnot

theorem Valid.parse_error_iff (h : table.Valid) {text : String} :
    (∃ err, table.parse text = .error err) ↔
      ∀ value, text.toList.dropWhile isJsonWhitespace ≠ table.chars value := by
  constructor
  · rintro ⟨err, herr⟩ value htext
    rw [h.parse_ok_iff.mpr htext] at herr
    cases herr
  · intro hnot
    cases hparse : table.parse text with
    | error err => exact ⟨err, rfl⟩
    | ok value => exact absurd (h.parse_ok_iff.mp hparse) (hnot value)

/-- A value starts with a symbol that is no whitespace. -/
theorem Valid.text_head (h : table.Valid) (value : Value) :
    ∃ c rest, table.chars value = c :: rest ∧ isWhitespace c = false := by
  have hhead := h.head value (h.mem_all value)
  cases htext : table.chars value with
  | nil =>
    rw [htext] at hhead
    cases hhead
  | cons c rest =>
    rw [htext] at hhead
    exact ⟨c, rest, rfl, (Bool.not_eq_true' _).mp hhead⟩

/-- No value is another one with a brace behind it. -/
theorem Valid.text_trailing (h : table.Valid) (value other : Value) (rest : List Char) :
    table.chars value ++ '\x7b' :: rest ≠ table.chars other := by
  intro htext
  have hsame : value = other := h.eq_of_prefix ⟨'\x7b' :: rest, htext⟩
  have hlength := congrArg List.length htext
  rw [hsame, List.length_append, List.length_cons] at hlength
  omega

theorem Valid.readsBack [DecidableEq Value] (h : table.Valid) (value : Value) :
    ReadsBack table.json value := by
  obtain ⟨c, rest, htext, hc⟩ := h.text_head value
  show table.parse (table.text value) = .ok value
  rw [h.parse_ok_iff, toList_text, htext]
  apply List.dropWhile_cons_of_neg
  intro hspace
  rw [isWhitespace_of_isJsonWhitespace hspace] at hc
  cases hc

theorem Valid.parses [DecidableEq Value] (h : table.Valid) : SerdeJson.Parses table.json where
  printable value byte hbyte := by
    have hencode : encode (table.text value) = _ := encode_ofList (table.chars value)
    rw [show table.json.toString value = table.text value from rfl, hencode] at hbyte
    obtain ⟨c, hc, hmem⟩ := List.mem_flatMap.mp hbyte
    have hascii := List.all_eq_true.mp (h.printable value (h.mem_all value)) c hc
    rw [Bool.and_eq_true, Nat.ble_eq, Nat.blt_eq] at hascii
    obtain ⟨hlow, hhigh⟩ := hascii
    rw [utf8EncodeChar_ascii hhigh] at hmem
    obtain rfl := List.mem_singleton.mp hmem
    apply UInt8.le_iff_toNat_le.mpr
    rw [UInt8.toNat_ofNat_of_lt' (by show c.toNat < 256; omega)]
    exact hlow
  notBlank value := by
    obtain ⟨c, rest, htext, hc⟩ := h.text_head value
    show (table.text value).toList.all isWhitespace = false
    rw [toList_text, htext, List.all_cons, hc, Bool.false_and]
  eq_refl value := beq_self_eq_true value
  skips ws text value hspace := by
    show table.parse (ws ++ text) = .ok value ↔ table.parse text = .ok value
    rw [h.parse_ok_iff, h.parse_ok_iff, String.toList_append,
      List.dropWhile_append_of_pos (List.all_eq_true.mp hspace)]
  noValue ws text hblank hspace := by
    apply h.parse_error_iff.mpr
    intro value hvalue
    obtain ⟨c, rest, hdrop, hc⟩ := dropWhile_of_isBlank hblank hspace
    obtain ⟨d, more, htext, hd⟩ := h.text_head value
    rw [String.toList_append, List.dropWhile_append, hdrop, htext] at hvalue
    obtain ⟨rfl, -⟩ := List.cons.inj hvalue
    rw [hc] at hd
    cases hd
  trailing text value rest hparse := by
    apply h.parse_error_iff.mpr
    intro other hother
    have htail := h.parse_ok_iff.mp hparse
    obtain ⟨c, more, htext, -⟩ := h.text_head value
    rw [String.toList_append, List.dropWhile_append, htail, htext] at hother
    apply h.text_trailing value other rest.toList
    rw [htext, ← hother, String.toList_append]
    rfl
  object value hobject := by
    have hhead := h.brace value (h.mem_all value) hobject
    obtain ⟨rest, hrest⟩ := List.head?_eq_some_iff.mp hhead
    refine ⟨String.ofList rest, String.toList_inj.mp ?_⟩
    show (table.text value).toList = _
    rw [toList_text, hrest, String.toList_append, String.toList_ofList, String.toList_ofList]
    rfl
  get_object value key hget := h.get_object value key hget

end JsonTable

end Jsonl

end McrxCore
