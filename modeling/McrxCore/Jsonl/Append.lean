import McrxCore.Jsonl.Table

/-!
# Appending to an existing log

A writer appends behind whatever stands in the file.  Behind a line that no line feed
ends, the appended value stands on that line.
-/

namespace McrxCore

namespace Jsonl

section Json

variable {Value : Type} {json : SerdeJson Value}

/-- The value may stand behind a log with the header. -/
def Fits (json : SerdeJson Value) (old : Option Value) (value : Value) : Prop :=
  match old with
  | none => isHeaderObject json value = true
  | some _ => repeatedHeaderField json value = none

/-- The line that no line feed ends holds JSON whitespace only. -/
def EndsClean (content : List UInt8) : Prop :=
  ∃ text, decode (unterminated content) = some text ∧ isJsonBlank text = true

theorem endsClean_of_terminated {content : List UInt8} (h : unterminated content = []) :
    EndsClean content := by
  refine ⟨"", ?_, rfl⟩
  rw [h]
  exact decode_encode ""

theorem EndsClean.documents {content : List UInt8} (h : EndsClean content) :
    documents json content = (terminated content).filterMap (document json) := by
  obtain ⟨text, htail, hspace⟩ := h
  rw [Jsonl.documents, lines_eq]
  split
  · rw [List.append_nil]
  · have hnone : document json (unterminated content) = none := by
      rw [document, htail, Option.bind_some, if_pos (isBlank_of_isJsonBlank hspace)]
    rw [List.filterMap_append, List.filterMap_cons, hnone]
    exact List.append_nil _

def readBack (json : SerdeJson Value) (value : Value) : Option Value :=
  (json.fromStr (json.toString value)).toOption

theorem readBack_eq_some_iff {value other : Value} :
    readBack json value = some other ↔ json.fromStr (json.toString value) = .ok other := by
  rw [readBack]
  cases json.fromStr (json.toString value) with
  | ok found =>
    show some found = some other ↔ Except.ok found = Except.ok other
    rw [Option.some.injEq, Except.ok.injEq]
  | error err =>
    constructor
    · intro h
      cases h
    · intro h
      cases h

/-- Whitespace of the grammar before a value is skipped. -/
theorem toOption_skips (hparses : SerdeJson.Parses json) {ws : String}
    (hspace : isJsonBlank ws = true) (text : String) :
    (json.fromStr (ws ++ text)).toOption = (json.fromStr text).toOption := by
  have hskips := fun value => hparses.skips ws text value hspace
  cases hparse : json.fromStr text with
  | ok value => rw [(hskips value).mpr hparse]
  | error err =>
    cases hall : json.fromStr (ws ++ text) with
    | error err' => rfl
    | ok value =>
      rw [(hskips value).mp hall] at hparse
      cases hparse

/-- A value behind a clean tail. -/
theorem document_line (hparses : SerdeJson.Parses json) {tail : List UInt8} {text : String}
    (htail : decode tail = some text) (hspace : isJsonBlank text = true) (value : Value) :
    document json (tail ++ encode (json.toString value)) = readBack json value := by
  have hline : isBlank (text ++ json.toString value) = false := by
    rw [isBlank_append, hparses.notBlank, Bool.and_false]
  rw [document, decode_append htail, Option.bind_some, hline, if_neg (by decide),
    toOption_skips hparses hspace, readBack]

theorem endsClean_writeJsonLine (hparses : SerdeJson.Parses json) (value : Value)
    (content : List UInt8) : EndsClean (writeJsonLine json value content) :=
  endsClean_of_terminated (cut_writeJsonLine hparses.toCompact value content).2

/-- Behind a clean tail the log has one more value, if its text is read. -/
theorem documents_writeJsonLine (hparses : SerdeJson.Parses json) {content : List UInt8}
    (hclean : EndsClean content) (value : Value) :
    documents json (writeJsonLine json value content) =
      documents json content ++ (readBack json value).toList := by
  obtain ⟨hterminated, -⟩ := cut_writeJsonLine hparses.toCompact value content
  obtain ⟨text, htail, hspace⟩ := id hclean
  rw [(endsClean_writeJsonLine hparses value content).documents, hterminated, hclean.documents,
    List.filterMap_append, List.filterMap_cons, document_line hparses htail hspace]
  cases readBack json value <;> rfl

/-- Values written one after the other, by induction on them. -/
theorem documents_foldl (hparses : SerdeJson.Parses json) {content : List UInt8}
    (hclean : EndsClean content) (values : List Value) :
    documents json (values.foldl (fun content value => writeJsonLine json value content) content) =
      documents json content ++ values.filterMap (readBack json) := by
  induction values generalizing content with
  | nil => exact (List.append_nil _).symm
  | cons value values ih =>
    rw [List.foldl_cons, ih (endsClean_writeJsonLine hparses value content),
      documents_writeJsonLine hparses hclean, List.append_assoc]
    congr 1
    rw [List.filterMap_cons]
    cases readBack json value <;> rfl

/-- A partial map that keeps a list maps each entry to itself. -/
theorem eq_some_of_filterMap_eq {α : Type} {f : α → Option α} {l : List α}
    (h : l.filterMap f = l) : ∀ x ∈ l, f x = some x := by
  induction l with
  | nil => exact List.forall_mem_nil _
  | cons x l ih =>
    rw [List.filterMap_cons] at h
    cases hx : f x with
    | none =>
      rw [hx] at h
      have hlength : (l.filterMap f).length = (x :: l).length := congrArg List.length h
      have hle := List.length_filterMap_le f l
      rw [List.length_cons] at hlength
      omega
    | some y =>
      rw [hx] at h
      obtain ⟨rfl, hrest⟩ := List.cons.inj h
      exact List.forall_mem_cons.mpr ⟨hx, ih hrest⟩

/-- Behind an accepted log whose tail is clean a value becomes its last one. -/
theorem write_ok (hparses : SerdeJson.Parses json) {content : List UInt8} {old : Option Value}
    (haccept : validateHeaderReader json content true = .ok old) (hclean : EndsClean content)
    {value : Value} (hback : ReadsBack json value) (hfits : Fits json old value) :
    validateHeaderReader json (writeJsonLine json value content) true =
        .ok (some (old.getD value)) ∧
      documents json (writeJsonLine json value content) = documents json content ++ [value] := by
  obtain ⟨text, htail, hspace⟩ := id hclean
  have hblank := isBlank_of_isJsonBlank hspace
  obtain ⟨text', before, htail', hbefore, ⟨-, rfl, -⟩ | ⟨hfalse, -⟩⟩ :=
    validateHeaderReader_cases haccept
  · obtain ⟨hterminated, hunterminated⟩ := cut_writeJsonLine hparses.toCompact value content
    have hdecode := decode_append htail (json.toString value)
    have hline : isBlank (text ++ json.toString value) = false := by
      rw [isBlank_append, hparses.notBlank, Bool.and_false]
    have hparse : json.fromStr (text ++ json.toString value) = .ok value :=
      (hparses.skips _ _ _ hspace).mpr hback
    refine ⟨?_, ?_⟩
    · rw [validateHeaderReader, lines_of_terminated hunterminated, hterminated,
        validateLines_append hbefore, Nat.zero_add]
      obtain ⟨hhead, -⟩ := validateLines_ok hbefore
      cases before with
      | none =>
        rw [List.head?_eq_none_iff.mp hhead.symm]
        exact validateLines_header hdecode hline hparse hfits true []
      | some header =>
        obtain ⟨rest, hrest⟩ := List.head?_eq_some_iff.mp hhead.symm
        rw [hrest]
        exact validateLines_sample hdecode hline hparse hfits []
    · rw [documents_writeJsonLine hparses hclean, readBack_eq_some_iff.mpr hback]
      rfl
  · obtain rfl : text = text' := Option.some.inj (htail.symm.trans htail')
    rw [hblank] at hfalse
    cases hfalse

/-- Behind a tail that is not JSON whitespace the line of the value does not parse. -/
theorem write_bad (hparses : SerdeJson.Parses json) {content : List UInt8} {old : Option Value}
    (haccept : validateHeaderReader json content true = .ok old) {text : String}
    (htail : decode (unterminated content) = some text) (hspace : isJsonBlank text = false)
    {value : Value} (hobject : json.isObject value = true) (rest : List (List UInt8)) :
    ∃ e, validateLines json true 0 none (terminated (writeJsonLine json value content) ++ rest) =
      .error e := by
  obtain ⟨text', before, htail', hbefore, hcase⟩ := validateHeaderReader_cases haccept
  obtain rfl : text = text' := Option.some.inj (htail.symm.trans htail')
  obtain ⟨hterminated, -⟩ := cut_writeJsonLine hparses.toCompact value content
  have hdecode := decode_append htail (json.toString value)
  have hline : isBlank (text ++ json.toString value) = false := by
    rw [isBlank_append, hparses.notBlank, Bool.and_false]
  have hparse : ∃ err, json.fromStr (text ++ json.toString value) = .error err := by
    rcases hcase with ⟨hblank, -⟩ | ⟨-, last, hlast⟩
    · exact hparses.noValue text _ hblank hspace
    · obtain ⟨more, hmore⟩ := hparses.object value hobject
      rw [hmore]
      exact hparses.trailing text last more hlast
  obtain ⟨err, herr⟩ := hparse
  rw [hterminated, List.append_assoc, validateLines_append hbefore]
  exact ⟨_, validateLines_bad hdecode hline herr rest⟩

/-! ## The values of one log -/

inductive LogValue where
  | header
  | sample
  | artifactType
  | createdAt
  | flags
  | nodeId
  | producer
  | schema
  deriving DecidableEq, Repr

namespace LogValue

/-- Kept folded, since its texts are long to decode. -/
@[irreducible]
def text : LogValue → String
  | header => "\x7b\"artifact_type\":\"mcrx-network\",\"created_at\":1.0,\"flags\":\x7b\x7d," ++
      "\"node_id\":\"client-a\",\"producer\":\"mcrx-core/test\"," ++
      "\"schema\":\"heimdall-jsonl-v1\"\x7d"
  | sample => "\x7b\"ts\":1.0\x7d"
  | artifactType => "\"mcrx-network\""
  | createdAt => "1.0"
  | flags => "\x7b\x7d"
  | nodeId => "\"client-a\""
  | producer => "\"mcrx-core/test\""
  | schema => "\"heimdall-jsonl-v1\""

def table : JsonTable LogValue where
  all := [header, sample, artifactType, createdAt, flags, nodeId, producer, schema]
  chars value := ascii value.text
  get
    | header, "artifact_type" => some artifactType
    | header, "created_at" => some createdAt
    | header, "flags" => some flags
    | header, "node_id" => some nodeId
    | header, "producer" => some producer
    | header, "schema" => some schema
    | sample, "ts" => some createdAt
    | _, _ => none
  asStr
    | artifactType => some "mcrx-network"
    | nodeId => some "client-a"
    | producer => some "mcrx-core/test"
    | schema => some "heimdall-jsonl-v1"
    | _ => none
  asF64
    | createdAt => some 0x3ff0000000000000
    | _ => none
  isObject value := value == header || value == sample || value == flags

theorem table_code : ∀ value ∈ table.all, ∀ other ∈ table.all,
    (table.chars value).isPrefixOf (table.chars other) = true → value = other := by
  decide +kernel

theorem table_head : ∀ value ∈ table.all,
    (table.chars value).head?.any (fun c => !isWhitespace c) = true := by
  decide +kernel

theorem table_printable : ∀ value ∈ table.all,
    (table.chars value).all (fun c => Nat.ble 32 c.toNat && Nat.blt c.toNat 128) = true := by
  decide +kernel

theorem table_brace : ∀ value ∈ table.all, table.isObject value = true →
    (table.chars value).head? = some '\x7b' := by
  decide +kernel

theorem table_get_object (value : LogValue) (key : String)
    (h : (table.get value key).isSome = true) : table.isObject value = true := by
  cases value with
  | header => rfl
  | sample => rfl
  | _ => cases h

theorem table_valid : table.Valid where
  mem_all value := by cases value <;> decide
  code := table_code
  head := table_head
  printable := table_printable
  brace := table_brace
  get_object := table_get_object

end LogValue

def logJson : SerdeJson LogValue := LogValue.table.json

theorem logJson_parses : SerdeJson.Parses logJson := LogValue.table_valid.parses

theorem logJson_prints : SerdeJson.Prints logJson :=
  { logJson_parses.toCompact with parses := LogValue.table_valid.readsBack }

/-! ## The appending calls -/

/-- The calls that append: the header where there is none, and a sample. -/
inductive AppendCall (Value : Type) where
  | ensureSingleHeader
  | openThenAppend (sample : Value)
  | appendJsonlSampleRow (sample : Value)
  deriving DecidableEq, Repr

def AppendCall.sample : AppendCall Value → Option Value
  | .ensureSingleHeader => none
  | .openThenAppend sample => some sample
  | .appendJsonlSampleRow sample => some sample

def perform (json : SerdeJson Value) (held : Bool) (header : Value) (call : AppendCall Value)
    (path : Path) : Except JsonlError Unit × Path :=
  match call with
  | .ensureSingleHeader => ensureSingleHeader json held header path
  | .openThenAppend sample =>
    match MetricsJsonlWriter.«open» json held header path with
    | (.error e, path) => (.error e, path)
    | (.ok (), path) =>
      let (result, file) := MetricsJsonlWriter.appendSampleRow json sample (path.getD [])
      (result, some file)
  | .appendJsonlSampleRow sample => appendJsonlSampleRow json held header sample path

def headed (json : SerdeJson Value) (old : Option Value) (header : Value) (content : List UInt8) :
    List UInt8 :=
  match old with
  | none => writeJsonLine json header content
  | some _ => content

def appended (json : SerdeJson Value) (old : Option Value) (header : Value)
    (call : AppendCall Value) (content : List UInt8) : List UInt8 :=
  match call.sample with
  | none => headed json old header content
  | some sample => writeJsonLine json sample (headed json old header content)

def Compatible (json : SerdeJson Value) (old : Option Value) (header : Value) : Prop :=
  ∀ existing, old = some existing → headersAreCompatible json existing header = true

def addedValues (old : Option Value) (header : Value) (call : AppendCall Value) : List Value :=
  (if old.isNone then [header] else []) ++ call.sample.toList

/-- The call writes its values one after the other. -/
theorem appended_eq {old : Option Value} {header : Value} {call : AppendCall Value}
    {content : List UInt8} :
    appended json old header call content =
      (addedValues old header call).foldl (fun content value => writeJsonLine json value content)
        content := by
  cases old <;> cases hcall : call.sample <;> simp [appended, headed, addedValues, hcall]

theorem validateHeaderReader_scan {content : List UInt8} {old : Option Value}
    (h : validateHeaderReader json content true = .ok old) (scan : Bool) :
    validateHeaderReader json content scan = .ok old := by
  cases scan with
  | true => exact h
  | false => exact (validateLines_ok h).2

/-- Both depths of the check ensure the header in the same way. -/
theorem ensureHeaderInLockedFile_ok {content : List UInt8} {old : Option Value}
    (haccept : validateHeaderReader json content true = .ok old) {header : Value}
    (hcompatible : Compatible json old header) (scan : Bool) :
    ensureHeaderInLockedFile json header scan content =
      (.ok (), headed json old header content) := by
  rw [ensureHeaderInLockedFile, validateHeaderReader_scan haccept]
  match old, hcompatible with
  | none, _ => rfl
  | some existing, hcompatible =>
    have hsame := hcompatible existing rfl
    simp only [hsame]
    rfl

theorem ensureHeaderInLockedFile_incompatible {content : List UInt8} {old : Option Value}
    (haccept : validateHeaderReader json content true = .ok old) {header : Value}
    (hcompatible : ¬ Compatible json old header) (scan : Bool) :
    ∃ e, ensureHeaderInLockedFile json header scan content = (.error e, content) := by
  rw [ensureHeaderInLockedFile, validateHeaderReader_scan haccept]
  match old, hcompatible with
  | none, hnot => exact absurd nofun hnot
  | some existing, hnot =>
    have hdiffers : headersAreCompatible json existing header = false := by
      by_contra hsame
      rw [Bool.not_eq_false] at hsame
      exact hnot fun other hother => Option.some.inj hother ▸ hsame
    simp only [hdiffers]
    exact ⟨_, rfl⟩

section Perform

variable {content : List UInt8} {old : Option Value} {header : Value} {call : AppendCall Value}

/-- A call on an accepted log, with a valid header and sample, that gets the lock. -/
theorem perform_unlocked (haccept : validateHeaderReader json content true = .ok old)
    (hheader : isHeaderObject json header = true)
    (hsample : ∀ sample ∈ call.sample, validateSampleRow json sample = .ok ()) :
    (Compatible json old header →
      perform json false header call (some content) =
        (.ok (), some (appended json old header call content))) ∧
    (¬ Compatible json old header →
      ∃ e path, perform json false header call (some content) = (.error e, path)) := by
  have hrequested : validateRequestedHeader json header = .ok () := if_pos hheader
  have hopen : openLockedJsonlFile false (some content) = (.ok (), content) := rfl
  refine ⟨fun hcompatible => ?_, fun hcompatible => ?_⟩
  · have hensure := ensureHeaderInLockedFile_ok haccept hcompatible
    cases call with
    | ensureSingleHeader =>
      simp only [perform, ensureSingleHeader, hrequested, hopen, hensure]
      rfl
    | openThenAppend sample =>
      simp only [perform, MetricsJsonlWriter.«open», hrequested, hopen, hensure, Option.getD_some,
        MetricsJsonlWriter.appendSampleRow, hsample sample rfl]
      rfl
    | appendJsonlSampleRow sample =>
      simp only [perform, appendJsonlSampleRow, hrequested, hopen, hensure, hsample sample rfl]
      rfl
  · cases call with
    | ensureSingleHeader =>
      obtain ⟨e, he⟩ := ensureHeaderInLockedFile_incompatible haccept hcompatible true
      simp only [perform, ensureSingleHeader, hrequested, hopen, he]
      exact ⟨e, _, rfl⟩
    | openThenAppend sample =>
      obtain ⟨e, he⟩ := ensureHeaderInLockedFile_incompatible haccept hcompatible true
      simp only [perform, MetricsJsonlWriter.«open», hrequested, hopen, he]
      exact ⟨e, _, rfl⟩
    | appendJsonlSampleRow sample =>
      obtain ⟨e, he⟩ := ensureHeaderInLockedFile_incompatible haccept hcompatible false
      simp only [perform, appendJsonlSampleRow, hrequested, hopen, he, hsample sample rfl]
      exact ⟨e, _, rfl⟩

/-- The calls meet a lock that another writer holds. -/
theorem perform_locked (hheader : isHeaderObject json header = true)
    (hsample : ∀ sample ∈ call.sample, validateSampleRow json sample = .ok ()) :
    perform json true header call (some content) = (.error jsonlLockError, some content) := by
  have hrequested : validateRequestedHeader json header = .ok () := if_pos hheader
  have hopen : openLockedJsonlFile true (some content) = (.error jsonlLockError, content) := rfl
  cases call with
  | ensureSingleHeader => simp only [perform, ensureSingleHeader, hrequested, hopen]
  | openThenAppend sample => simp only [perform, MetricsJsonlWriter.«open», hrequested, hopen]
  | appendJsonlSampleRow sample =>
    simp only [perform, appendJsonlSampleRow, hrequested, hopen, hsample sample rfl]

/-- The calls succeed unless the lock is held or the header differs. -/
theorem perform_ok_iff (haccept : validateHeaderReader json content true = .ok old)
    (hheader : isHeaderObject json header = true)
    (hsample : ∀ sample ∈ call.sample, validateSampleRow json sample = .ok ()) (held : Bool)
    (path : Path) :
    perform json held header call (some content) = (.ok (), path) ↔
      held = false ∧ Compatible json old header ∧
        path = some (appended json old header call content) := by
  cases held with
  | true =>
    rw [perform_locked hheader hsample]
    exact iff_of_false (fun h => nomatch congrArg Prod.fst h) fun h => nomatch h.1
  | false =>
    obtain ⟨hok, herr⟩ := perform_unlocked haccept hheader hsample
    by_cases hcompatible : Compatible json old header
    · rw [hok hcompatible]
      exact ⟨fun h => ⟨rfl, hcompatible, (congrArg Prod.snd h).symm⟩,
        fun ⟨_, _, hpath⟩ => by rw [hpath]⟩
    · obtain ⟨e, path', he⟩ := herr hcompatible
      rw [he]
      exact iff_of_false (fun h => nomatch congrArg Prod.fst h) fun h => hcompatible h.2.1

/-- The call kept the log: its header is the old one, or the requested one if there was
none, and the sample is its last row. -/
structure Preserves (json : SerdeJson Value) (old : Option Value) (header : Value)
    (call : AppendCall Value) (content : List UInt8) (path : Path) : Prop where
  accepted : validateExistingHeader json path = .ok (some (old.getD header))
  rows : rows json (path.getD []) = rows json content ++ call.sample.toList

/-- The call writes behind the log. -/
def Writes (old : Option Value) (call : AppendCall Value) : Prop :=
  old = none ∨ call.sample.isSome = true

theorem documents_of_none (haccept : validateHeaderReader json content true = .ok none) :
    documents json content = [] :=
  List.head?_eq_none_iff.mp (validateLines_ok haccept).1.symm

theorem documents_of_some {existing : Value}
    (haccept : validateHeaderReader json content true = .ok (some existing)) :
    documents json content = existing :: rows json content := by
  obtain ⟨rest, hrest⟩ := List.head?_eq_some_iff.mp (validateLines_ok haccept).1.symm
  show (lines content).filterMap _ = existing :: ((lines content).filterMap _).tail
  rw [hrest]
  rfl

/-- The header behind a clean tail. -/
theorem headed_ok (hparses : SerdeJson.Parses json)
    (haccept : validateHeaderReader json content true = .ok old)
    (hheader : isHeaderObject json header = true)
    (hclean : old = none → EndsClean content ∧ ReadsBack json header) :
    validateHeaderReader json (headed json old header content) true =
        .ok (some (old.getD header)) ∧
      documents json (headed json old header content) = old.getD header :: rows json content := by
  cases old with
  | some existing => exact ⟨haccept, documents_of_some haccept⟩
  | none =>
    obtain ⟨hends, hback⟩ := hclean rfl
    obtain ⟨hvalid, hdocuments⟩ := write_ok hparses haccept hends hback
      (show Fits json none header from hheader)
    refine ⟨hvalid, ?_⟩
    show documents json (writeJsonLine json header content) = _
    rw [hdocuments, rows, documents_of_none haccept]
    rfl

theorem headed_endsClean (hparses : SerdeJson.Parses json) (header : Value)
    (hclean : EndsClean content) : EndsClean (headed json old header content) := by
  cases old with
  | some _ => exact hclean
  | none => exact endsClean_writeJsonLine hparses header content

/-- Behind a clean tail the calls keep the log, if their values are read back. -/
theorem appended_preserves (hparses : SerdeJson.Parses json)
    (haccept : validateHeaderReader json content true = .ok old)
    (hheader : isHeaderObject json header = true)
    (hsample : ∀ sample ∈ call.sample, validateSampleRow json sample = .ok ())
    (hclean : Writes old call →
      EndsClean content ∧ ∀ value ∈ addedValues old header call, ReadsBack json value) :
    Preserves json old header call content (some (appended json old header call content)) := by
  obtain ⟨hheaded, hdocuments⟩ := headed_ok hparses haccept hheader fun hnone => by
    obtain ⟨hends, hback⟩ := hclean (.inl hnone)
    refine ⟨hends, hback header ?_⟩
    rw [addedValues, hnone]
    exact List.mem_append_left _ List.mem_cons_self
  cases hcall : call.sample with
  | none =>
    have happended : appended json old header call content = headed json old header content := by
      rw [appended, hcall]
    rw [happended]
    refine ⟨hheaded, ?_⟩
    show (documents json (headed json old header content)).tail = _
    rw [hdocuments, hcall, Option.toList_none, List.append_nil]
    rfl
  | some sample =>
    have happended : appended json old header call content =
        writeJsonLine json sample (headed json old header content) := by
      rw [appended, hcall]
    obtain ⟨hends, hback⟩ := hclean (.inr (by rw [hcall]; rfl))
    have hsampleBack : ReadsBack json sample := by
      apply hback
      rw [addedValues, hcall]
      exact List.mem_append_right _ List.mem_cons_self
    obtain ⟨-, hrepeated⟩ := sample_of_validateSampleRow (hsample sample hcall)
    obtain ⟨hvalid, hrows⟩ := write_ok hparses hheaded
      (@headed_endsClean _ _ _ old hparses header hends) hsampleBack
      (show Fits json (some (old.getD header)) sample from hrepeated)
    rw [happended]
    refine ⟨hvalid, ?_⟩
    show (documents json (writeJsonLine json sample (headed json old header content))).tail = _
    rw [hrows, hdocuments, hcall]
    rfl

/-- Behind a clean tail a call that keeps the log wrote values that are read back. -/
theorem readsBack_of_preserves (hparses : SerdeJson.Parses json)
    (haccept : validateHeaderReader json content true = .ok old) (hends : EndsClean content)
    (h : Preserves json old header call content (some (appended json old header call content))) :
    ∀ value ∈ addedValues old header call, ReadsBack json value := by
  have haccepted : documents json (appended json old header call content) =
      old.getD header :: rows json (appended json old header call content) :=
    documents_of_some h.accepted
  have hrows : rows json (appended json old header call content) =
      rows json content ++ call.sample.toList := h.rows
  have hread : documents json (appended json old header call content) =
      documents json content ++ (addedValues old header call).filterMap (readBack json) := by
    rw [appended_eq]
    exact documents_foldl hparses hends _
  have hall : (addedValues old header call).filterMap (readBack json) =
      addedValues old header call := by
    apply @List.append_cancel_left _ (documents json content)
    rw [← hread, haccepted, hrows]
    cases old with
    | none =>
      have hnone := documents_of_none haccept
      rw [rows, hnone]
      rfl
    | some existing => rw [documents_of_some haccept]; rfl
  intro value hvalue
  exact readBack_eq_some_iff.mp (eq_some_of_filterMap_eq hall value hvalue)

/-- Behind any other tail a call that writes damages the log. -/
theorem appended_damages (hparses : SerdeJson.Parses json)
    (haccept : validateHeaderReader json content true = .ok old)
    (hheader : isHeaderObject json header = true)
    (hsample : ∀ sample ∈ call.sample, validateSampleRow json sample = .ok ())
    (hwrites : Writes old call) (hclean : ¬ EndsClean content) :
    ∃ e, validateHeaderReader json (appended json old header call content) true = .error e := by
  obtain ⟨text, before, htail, -⟩ := validateHeaderReader_cases haccept
  have hspace : isJsonBlank text = false := by
    by_contra hspace
    rw [Bool.not_eq_false] at hspace
    exact hclean ⟨text, htail, hspace⟩
  have hbad : ∀ value, json.isObject value = true → ∀ rest, ∃ e, validateLines json true 0 none
      (terminated (writeJsonLine json value content) ++ rest) = .error e :=
      fun value hobject rest =>
    write_bad hparses haccept htail hspace hobject rest
  have hone : ∀ value, lines (writeJsonLine json value content) =
      terminated (writeJsonLine json value content) ++ [] := fun value => by
    rw [lines_of_terminated (cut_writeJsonLine hparses.toCompact value content).2, List.append_nil]
  cases hcall : call.sample with
  | none =>
    rcases hwrites with rfl | hsome
    · rw [appended, hcall]
      show ∃ e, validateLines json true 0 none
        (lines (writeJsonLine json header content)) = .error e
      rw [hone]
      exact hbad header (isObject_of_isHeaderObject hparses hheader) []
    · rw [hcall] at hsome
      exact nomatch hsome
  | some sample =>
    obtain ⟨hobject, -⟩ := sample_of_validateSampleRow (hsample sample hcall)
    rw [appended, hcall]
    match old with
    | some _ =>
      show ∃ e, validateLines json true 0 none
        (lines (writeJsonLine json sample content)) = .error e
      rw [hone]
      exact hbad sample hobject []
    | none =>
      -- The sample stands on a line of its own, behind the broken one.
      obtain ⟨hterminated, hunterminated⟩ :=
        cut_writeJsonLine hparses.toCompact sample (writeJsonLine json header content)
      show ∃ e, validateLines json true 0 none
        (lines (writeJsonLine json sample (writeJsonLine json header content))) = .error e
      rw [lines_of_terminated hunterminated, hterminated]
      exact hbad header (isObject_of_isHeaderObject hparses hheader) _

/-- The calls that succeed keep an accepted log if and only if those that write find a
clean tail and write values that the parser reads back. -/
theorem append_preserves_iff (hparses : SerdeJson.Parses json)
    (haccept : validateExistingHeader json (some content) = .ok old)
    (hheader : isHeaderObject json header = true)
    (hsample : ∀ sample ∈ call.sample, validateSampleRow json sample = .ok ()) (held : Bool) :
    (∀ path, perform json held header call (some content) = (.ok (), path) →
        Preserves json old header call content path) ↔
      (held = false → Compatible json old header → Writes old call →
        EndsClean content ∧ ∀ value ∈ addedValues old header call, ReadsBack json value) := by
  have hok := perform_ok_iff haccept hheader hsample held
  constructor
  · intro hpreserves hfree hcompatible hwrites
    have hpreserved := hpreserves _ ((hok _).mpr ⟨hfree, hcompatible, rfl⟩)
    have hclean : EndsClean content := by
      by_contra hclean
      obtain ⟨e, he⟩ := appended_damages hparses haccept hheader hsample hwrites hclean
      have haccepted : validateHeaderReader json (appended json old header call content) true =
          .ok (some (old.getD header)) := hpreserved.accepted
      rw [he] at haccepted
      cases haccepted
    exact ⟨hclean, readsBack_of_preserves hparses haccept hclean hpreserved⟩
  · intro hclean path hperform
    obtain ⟨hfree, hcompatible, rfl⟩ := (hok path).mp hperform
    exact appended_preserves hparses haccept hheader hsample (hclean hfree hcompatible)

end Perform

end Json

/-- The header of the log, and the log that holds it alone. -/
def headerLine : List UInt8 := encode (logJson.toString .header)

def headerLog : List UInt8 := writeJsonLine logJson .header []

theorem isHeaderObject_logJson : isHeaderObject logJson .header = true := by decide +kernel

theorem validateSampleRow_logJson : validateSampleRow logJson .sample = .ok () := by
  decide +kernel

theorem compatible_logJson : Compatible logJson (some .header) .header := by
  rintro _ ⟨⟩
  decide +kernel

theorem validateHeaderReader_headerLog :
    validateHeaderReader logJson headerLog true = .ok (some .header) :=
  (@headed_ok _ logJson [] none .header logJson_parses rfl isHeaderObject_logJson
    fun _ => ⟨endsClean_of_terminated rfl, logJson_prints.parses .header⟩).1

theorem append_preserves_headerLog :
    Preserves logJson (some .header) .header (.appendJsonlSampleRow .sample) headerLog
      (some (writeJsonLine logJson .sample headerLog)) := by
  have hsample : ∀ value ∈ (AppendCall.appendJsonlSampleRow LogValue.sample).sample,
      validateSampleRow logJson value = .ok () := by
    rintro _ ⟨⟩
    exact validateSampleRow_logJson
  refine (append_preserves_iff logJson_parses validateHeaderReader_headerLog
    isHeaderObject_logJson hsample false).mpr (fun _ _ _ => ⟨?_, fun value _ => ?_⟩) _ ?_
  · exact endsClean_writeJsonLine logJson_parses .header []
  · exact logJson_prints.parses value
  · rw [perform_ok_iff validateHeaderReader_headerLog isHeaderObject_logJson hsample]
    exact ⟨rfl, compatible_logJson, rfl⟩

/-- A header without its line feed is accepted and the append succeeds, and what it leaves
is rejected. -/
theorem append_damages_headerLine :
    validateExistingHeader logJson (some headerLine) = .ok (some .header) ∧
      ∃ path, perform logJson false .header (.appendJsonlSampleRow .sample) (some headerLine) =
          (.ok (), path) ∧
        ∃ e, validateExistingHeader logJson path = .error e := by
  have hsample : ∀ value ∈ (AppendCall.appendJsonlSampleRow LogValue.sample).sample,
      validateSampleRow logJson value = .ok () := by
    rintro _ ⟨⟩
    exact validateSampleRow_logJson
  obtain ⟨hunterminated, haccept⟩ :=
    validateHeaderReader_unterminated logJson_parses.toCompact isHeaderObject_logJson
      (logJson_prints.parses .header)
  refine ⟨haccept, _, (perform_ok_iff haccept isHeaderObject_logJson hsample false _).mpr
    ⟨rfl, compatible_logJson, rfl⟩, ?_⟩
  refine appended_damages logJson_parses haccept isHeaderObject_logJson hsample (.inr rfl) ?_
  rintro ⟨text, htext, hspace⟩
  rw [hunterminated, decode_encode] at htext
  obtain rfl := Option.some.inj htext
  exact absurd hspace (by decide +kernel)

end Jsonl

end McrxCore
