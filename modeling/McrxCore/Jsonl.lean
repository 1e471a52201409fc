import McrxCore.Lib.Lines

/-!
# The JSONL metrics log

`jsonl.rs`, on the bytes of one file.  `serde_json` is a parameter: its values with the
accessors that the module uses, its printer and its parser.
-/

namespace McrxCore

/-- `serde_json::Value` and the functions of the crate on it.  `asF64` gives the bits of
the number, `fromStr` the text of its error. -/
structure SerdeJson (Value : Type) where
  get : Value → String → Option Value
  asStr : Value → Option String
  asF64 : Value → Option UInt64
  isObject : Value → Bool
  eq : Value → Value → Bool
  toString : Value → String
  fromStr : String → Except String Value

/-- The kinds of `std::io::Error` that the module makes, and any other. -/
inductive ErrorKind where
  | invalidData
  | invalidInput
  | wouldBlock
  | other
  deriving DecidableEq, Repr

structure JsonlError where
  kind : ErrorKind
  message : String
  deriving DecidableEq, Repr

namespace Jsonl

def HEIMDALL_JSONL_SCHEMA : String := "heimdall-jsonl-v1"

def HEADER_ONLY_KEYS : List String := ["schema", "artifact_type", "node_id", "producer", "flags"]

/-! ## Lines of text -/

def encode (text : String) : List UInt8 := text.toByteArray.data.toList

def decode (bytes : List UInt8) : Option String := String.fromUTF8? bytes.toByteArray

/-- `char::is_whitespace`, the Unicode property. -/
def isWhitespace (c : Char) : Bool :=
  let n := c.val
  (9 ≤ n && n ≤ 13) || n == 0x20 || n == 0x85 || n == 0xA0 || n == 0x1680 ||
    (0x2000 ≤ n && n ≤ 0x200A) || n == 0x2028 || n == 0x2029 || n == 0x202F || n == 0x205F ||
    n == 0x3000

/-- `line.trim().is_empty()`. -/
def isBlank (line : String) : Bool := line.toList.all isWhitespace

def LF : UInt8 := 10

def CR : UInt8 := 13

/-- `BufRead::lines` drops the carriage return of a terminated line. -/
def stripCr (line : List UInt8) : List UInt8 :=
  if line.getLast? = some CR then line.dropLast else line

/-- `BufRead::lines`, before it decodes them. -/
def lines (content : List UInt8) : List (List UInt8) :=
  let (lines, tail) := Lines.cut LF content
  lines.map stripCr ++ if tail.isEmpty then [] else [tail]

section Json

variable {Value : Type} (json : SerdeJson Value)

/-! ## Headers and samples -/

/-- `f64::is_finite`: the exponent is not all ones. -/
def isFinite (bits : UInt64) : Bool := (bits >>> 52) &&& 0x7ff != 0x7ff

def isHeaderObject (value : Value) : Bool :=
  let schema := (json.get value "schema").bind json.asStr
  let artifactType := (json.get value "artifact_type").bind json.asStr
  let nodeId := (json.get value "node_id").bind json.asStr
  let producer := (json.get value "producer").bind json.asStr
  let createdAt := (json.get value "created_at").bind json.asF64
  let flags := json.get value "flags"
  schema == some HEIMDALL_JSONL_SCHEMA && artifactType.any (fun text => !text.isEmpty) &&
    nodeId.any (fun text => !text.isEmpty) && producer.any (fun text => !text.isEmpty) &&
    createdAt.any isFinite && flags.any json.isObject

def repeatedHeaderField (value : Value) : Option String :=
  if json.isObject value then HEADER_ONLY_KEYS.find? fun key => (json.get value key).isSome
  else none

/-- `Option<&Value>` compared with `==`. -/
def sameField : Option Value → Option Value → Bool
  | some existing, some expected => json.eq existing expected
  | none, none => true
  | _, _ => false

def headersAreCompatible (existing expected : Value) : Bool :=
  HEADER_ONLY_KEYS.all fun key => sameField json (json.get existing key) (json.get expected key)

def validateRequestedHeader (header : Value) : Except JsonlError Unit :=
  if isHeaderObject json header then .ok ()
  else .error
    { kind := .invalidInput
      message := "requested JSONL header is not a valid Heimdall header object" }

def validateSampleRow (sample : Value) : Except JsonlError Unit :=
  if !json.isObject sample then
    .error { kind := .invalidInput, message := "JSONL sample row must be an object" }
  else
    match repeatedHeaderField json sample with
    | some key => .error
      { kind := .invalidInput
        message := "JSONL sample row must not repeat header field '" ++ key ++ "'" }
    | none => .ok ()

/-! ## Reading -/

def invalidUtf8 : JsonlError :=
  { kind := .invalidData, message := "stream did not contain valid UTF-8" }

def invalidJson (nonEmptyLineIndex : Nat) (err : String) : JsonlError :=
  { kind := .invalidData
    message :=
      if nonEmptyLineIndex = 1 then "existing JSONL header is invalid JSON: " ++ err
      else "existing JSONL sample line " ++ ToString.toString nonEmptyLineIndex ++
        " is invalid JSON: " ++ err }

/-- The loop of `validate_header_reader` on the lines left, after some lines that are not
blank. -/
def validateLines (scanSamples : Bool) :
    Nat → Option Value → List (List UInt8) → Except JsonlError (Option Value)
  | _, parsedHeader, [] => .ok parsedHeader
  | nonEmptyLineIndex, parsedHeader, line :: rest =>
    match decode line with
    | none => .error invalidUtf8
    | some text =>
      if isBlank text then validateLines scanSamples nonEmptyLineIndex parsedHeader rest
      else
        match json.fromStr text with
        | .error err => .error (invalidJson (nonEmptyLineIndex + 1) err)
        | .ok parsed =>
          if nonEmptyLineIndex + 1 = 1 then
            if !isHeaderObject json parsed then
              .error
                { kind := .invalidData
                  message := "existing JSONL file does not start with a Heimdall header object" }
            else if !scanSamples then .ok (some parsed)
            else validateLines scanSamples (nonEmptyLineIndex + 1) (some parsed) rest
          else
            match repeatedHeaderField json parsed with
            | some key => .error
              { kind := .invalidData
                message := "existing JSONL sample row repeats header field '" ++ key ++ "'" }
            | none => validateLines scanSamples (nonEmptyLineIndex + 1) parsedHeader rest

def validateHeaderReader (content : List UInt8) (scanSamples : Bool) :
    Except JsonlError (Option Value) :=
  validateLines json scanSamples 0 none (lines content)

/-- The file at the path; `none` is `NotFound`. -/
abbrev Path := Option (List UInt8)

def validateExistingHeader (path : Path) : Except JsonlError (Option Value) :=
  match path with
  | none => .ok none
  | some content => validateHeaderReader json content true

/-! ## Writing -/

/-- The conflict that `flock` reports. -/
def jsonlLockError : JsonlError :=
  { kind := .wouldBlock
    message := "JSONL output is already locked by another writer: " ++
      "Resource temporarily unavailable (os error 11)" }

/-- Opening creates the file; the lock is `held` where another open file has it. -/
def openLockedJsonlFile (held : Bool) (path : Path) : Except JsonlError Unit × List UInt8 :=
  (if held then .error jsonlLockError else .ok (), path.getD [])

/-- One write at the end of the file. -/
def writeJsonLine (value : Value) (file : List UInt8) : List UInt8 :=
  file ++ (encode (json.toString value) ++ [LF])

def headerMismatch : JsonlError :=
  { kind := .invalidData
    message := "existing JSONL header does not match the requested schema metadata" }

def ensureHeaderInLockedFile (header : Value) (scanSamples : Bool) (file : List UInt8) :
    Except JsonlError Unit × List UInt8 :=
  match validateHeaderReader json file scanSamples with
  | .error e => (.error e, file)
  | .ok (some existing) =>
    if !headersAreCompatible json existing header then (.error headerMismatch, file)
    else (.ok (), file)
  | .ok none => (.ok (), writeJsonLine json header file)

def ensureSingleHeader (held : Bool) (header : Value) (path : Path) :
    Except JsonlError Unit × Path :=
  match validateRequestedHeader json header with
  | .error e => (.error e, path)
  | .ok () =>
    match openLockedJsonlFile held path with
    | (.error e, file) => (.error e, some file)
    | (.ok (), file) =>
      let (result, file) := ensureHeaderInLockedFile json header true file
      (result, some file)

def appendJsonlSampleRow (held : Bool) (header sample : Value) (path : Path) :
    Except JsonlError Unit × Path :=
  match validateRequestedHeader json header with
  | .error e => (.error e, path)
  | .ok () =>
    match validateSampleRow json sample with
    | .error e => (.error e, path)
    | .ok () =>
      match openLockedJsonlFile held path with
      | (.error e, file) => (.error e, some file)
      | (.ok (), file) =>
        match ensureHeaderInLockedFile json header false file with
        | (.error e, file) => (.error e, some file)
        | (.ok (), file) => (.ok (), some (writeJsonLine json sample file))

namespace MetricsJsonlWriter

/-- A writer that opens keeps the lock. -/
def «open» (held : Bool) (header : Value) (path : Path) : Except JsonlError Unit × Path :=
  match validateRequestedHeader json header with
  | .error e => (.error e, path)
  | .ok () =>
    match openLockedJsonlFile held path with
    | (.error e, file) => (.error e, some file)
    | (.ok (), file) =>
      let (result, file) := ensureHeaderInLockedFile json header true file
      (result, some file)

def appendSampleRow (sample : Value) (file : List UInt8) : Except JsonlError Unit × List UInt8 :=
  match validateSampleRow json sample with
  | .error e => (.error e, file)
  | .ok () => (.ok (), writeJsonLine json sample file)

end MetricsJsonlWriter

end Json

end Jsonl

end McrxCore
