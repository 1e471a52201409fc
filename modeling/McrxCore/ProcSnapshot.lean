import McrxCore.AddrText.RoundTrip
import McrxCore.Jsonl.Reader
import McrxCore.Lib.Utf8
import McrxCore.Lib.Words

/-!
# The process as `/proc` shows it

`read_proc_snapshot` of `metrics.rs` takes the numbers of a process out of texts that the
kernel writes.  The name of the program stands in the first one byte by byte as it is, with
blanks and parentheses, and need not be text at all.
-/

namespace McrxCore

open Words

/-! ## Text -/

/-- `str::split_whitespace`. -/
def splitWhitespace (text : List Char) : List (List Char) := words Jsonl.isWhitespace text

/-- `str::trim`. -/
def trim (text : List Char) : List Char :=
  (text.dropWhile Jsonl.isWhitespace).rdropWhile Jsonl.isWhitespace

def stripCarriageReturn (line : List Char) : List Char :=
  if line.getLast? = some '\r' then line.dropLast else line

/-- `str::lines`. -/
def textLines (text : List Char) : List (List Char) :=
  let (lines, tail) := Lines.cut '\n' text
  lines.map stripCarriageReturn ++ if tail.isEmpty then [] else [tail]

/-- `str::strip_prefix`. -/
def stripPrefix (label line : List Char) : Option (List Char) :=
  if label <+: line then some (line.drop label.length) else none

/-- `str::parse` of an `i64`, with the text of its error. -/
def parseI64 (value : List Char) : Except String Int :=
  match value with
  | [] => .error ParseIntError.empty.display
  | ['+'] | ['-'] => .error ParseIntError.invalidDigit.display
  | '-' :: digits =>
    match parseDigits (2 ^ 63 + 1) digits 0 with
    | .ok n => .ok (-n)
    | .error .posOverflow => .error "number too small to fit in target type"
    | .error e => .error e.display
  | '+' :: digits =>
    match parseDigits (2 ^ 63) digits 0 with
    | .ok n => .ok n
    | .error e => .error e.display
  | digits =>
    match parseDigits (2 ^ 63) digits 0 with
    | .ok n => .ok n
    | .error e => .error e.display

/-! ## The snapshot -/

structure ProcSnapshot where
  utimeTicks : Nat
  stimeTicks : Nat
  minflt : Nat
  majflt : Nat
  numThreads : Nat
  vsizeBytes : Nat
  rssBytes : Nat
  voluntaryCtxtSwitches : Nat
  nonvoluntaryCtxtSwitches : Nat
  openFds : Nat
  deriving DecidableEq, Repr

/-- The contents of `/proc/self/stat` and `/proc/self/status`, and the number of entries of
`/proc/self/fd`. -/
structure ProcSelf where
  stat : Except IoError (List UInt8)
  status : Except IoError (List UInt8)
  fd : Except IoError Nat

inductive ProcError where
  | io (error : IoError)
  | invalidData (message : String)

def notUtf8 : ProcError := .invalidData "stream did not contain valid UTF-8"

/-- `fs::read_to_string`. -/
def readToString : Except IoError (List UInt8) → Except ProcError (List Char)
  | .error e => .error (.io e)
  | .ok content =>
    match Jsonl.decode content with
    | some text => .ok text.toList
    | none => .error notUtf8

/-- The fields behind the name: what stands behind the last parenthesis is a slice from a
character on, so that taking it cannot fail. -/
def statFields (statContent : List Char) : Except ProcError (List (List Char)) :=
  if '(' ∉ statContent then .error (.invalidData "missing '(' in /proc/self/stat")
  else
    match afterLast ')' statContent with
    | none => .error (.invalidData "missing ')' in /proc/self/stat")
    | some suffix =>
      let fields := splitWhitespace (trim suffix)
      if fields.length < 22 then .error (.invalidData "too few fields in /proc/self/stat")
      else .ok fields

def failedToParse (name error : String) : ProcError :=
  .invalidData ("failed to parse " ++ name ++ " from /proc/self/stat: " ++ error)

def statU64 (fields : List (List Char)) (index : Nat) (name : String) : Except ProcError Nat :=
  (parseUnsigned (2 ^ 64) (fields.getD index [])).mapError fun e => failedToParse name e.display

def statI64 (fields : List (List Char)) (index : Nat) (name : String) : Except ProcError Int :=
  (parseI64 (fields.getD index [])).mapError (failedToParse name)

/-- `"voluntary_ctxt_switches:"`. -/
def VOLUNTARY : List Char :=
  ['v', 'o', 'l', 'u', 'n', 't', 'a', 'r', 'y', '_', 'c', 't', 'x', 't', '_', 's', 'w', 'i', 't',
    'c', 'h', 'e', 's', ':']

/-- `"nonvoluntary_ctxt_switches:"`. -/
def NONVOLUNTARY : List Char := 'n' :: 'o' :: 'n' :: VOLUNTARY

def switchesU64 (name : String) (value : List Char) : Except ProcError Nat :=
  (parseUnsigned (2 ^ 64) (trim value)).mapError fun e =>
    .invalidData ("failed to parse " ++ name ++ ": " ++ e.display)

def statusLine (counts : Nat × Nat) (line : List Char) : Except ProcError (Nat × Nat) :=
  match stripPrefix VOLUNTARY line with
  | some value => do
    let voluntary ← switchesU64 "voluntary_ctxt_switches" value
    .ok (voluntary, counts.2)
  | none =>
    match stripPrefix NONVOLUNTARY line with
    | some value => do
      let nonvoluntary ← switchesU64 "nonvoluntary_ctxt_switches" value
      .ok (counts.1, nonvoluntary)
    | none => .ok counts

def readProcSnapshot (proc : ProcSelf) (pageSize : Nat) : Except ProcError ProcSnapshot := do
  let statContent ← readToString proc.stat
  let fields ← statFields statContent
  let minflt ← statU64 fields 7 "minflt"
  let majflt ← statU64 fields 9 "majflt"
  let utimeTicks ← statU64 fields 11 "utime"
  let stimeTicks ← statU64 fields 12 "stime"
  let numThreads ← statU64 fields 17 "num_threads"
  let vsizeBytes ← statU64 fields 20 "vsize"
  let rssPages ← statI64 fields 21 "rss"
  let rssBytes := if rssPages ≤ 0 then 0 else min (rssPages.toNat * pageSize) WORD_MAX
  let statusContent ← readToString proc.status
  let counts ← (textLines statusContent).foldlM statusLine (0, 0)
  let entries ← proc.fd.mapError .io
  .ok
    { utimeTicks := utimeTicks
      stimeTicks := stimeTicks
      minflt := minflt
      majflt := majflt
      numThreads := numThreads
      vsizeBytes := vsizeBytes
      rssBytes := rssBytes
      voluntaryCtxtSwitches := counts.1
      nonvoluntaryCtxtSwitches := counts.2
      openFds := entries - 1 }

/-! ## The texts of the kernel -/

/-- A field of `/proc/self/stat`. -/
structure Token where
  val : List Char
  word : IsWord Jsonl.isWhitespace val
  noParenthesis : ')' ∉ val

theorem isWhitespace_isDigit {c : Char} (h : c.isDigit = true) : Jsonl.isWhitespace c = false := by
  simp only [Char.isDigit, Bool.and_eq_true, decide_eq_true_eq] at h
  have hlow : 48 ≤ c.toNat := h.1
  have hhigh : c.toNat ≤ 57 := h.2
  simp [Jsonl.isWhitespace, UInt32.le_iff_toNat_le, ← UInt32.toNat_inj]
  omega

theorem isDigit_of_mem {n : Nat} {c : Char} (h : c ∈ Nat.toDigits 10 n) : c.isDigit = true :=
  Nat.isDigit_of_mem_toDigits (by decide) (by decide) h

namespace Token

def ofNat (n : Nat) : Token where
  val := Nat.toDigits 10 n
  word := ⟨Nat.toDigits_ne_nil, fun _ h => isWhitespace_isDigit (isDigit_of_mem h)⟩
  noParenthesis h := absurd (isDigit_of_mem h) (by decide)

/-- `{}` of a signed number. -/
def ofInt (n : Int) : Token where
  val := if n < 0 then '-' :: Nat.toDigits 10 n.natAbs else Nat.toDigits 10 n.natAbs
  word := by
    split
    · refine ⟨List.cons_ne_nil _ _, fun c h => ?_⟩
      rcases List.mem_cons.mp h with rfl | h
      · decide
      · exact isWhitespace_isDigit (isDigit_of_mem h)
    · exact (ofNat n.natAbs).word
  noParenthesis := by
    split
    · intro h
      rcases List.mem_cons.mp h with h | h
      · exact absurd h (by decide)
      · exact (ofNat n.natAbs).noParenthesis h
    · exact (ofNat n.natAbs).noParenthesis

end Token

/-- A line of the status that is about no context switches. -/
structure StatusLine where
  val : List Char
  line : '\n' ∉ val
  notVoluntary : ¬ VOLUNTARY <+: val
  notNonvoluntary : ¬ NONVOLUNTARY <+: val

/-- A process, with the fields and lines that the snapshot does not read: `other` gives the
field at a position. -/
structure Process where
  pid : Nat
  comm : List UInt8
  other : Nat → Token
  minflt : UInt64
  majflt : UInt64
  utime : UInt64
  stime : UInt64
  numThreads : UInt64
  vsize : UInt64
  rss : Int64
  furtherFields : List Token
  firstLines : List StatusLine
  voluntary : UInt64
  linesBetween : List StatusLine
  nonvoluntary : UInt64
  lastLines : List StatusLine
  openFds : Nat

namespace Process

variable (p : Process)

def tokens : List Token :=
  [p.other 0, p.other 1, p.other 2, p.other 3, p.other 4, p.other 5, p.other 6,
    .ofNat p.minflt.toNat, p.other 8, .ofNat p.majflt.toNat, p.other 10, .ofNat p.utime.toNat,
    .ofNat p.stime.toNat, p.other 13, p.other 14, p.other 15, p.other 16,
    .ofNat p.numThreads.toNat, p.other 18, p.other 19, .ofNat p.vsize.toNat,
    .ofInt p.rss.toInt] ++ p.furtherFields

def statBefore : List Char := Nat.toDigits 10 p.pid ++ [' ', '(']

def statBehind : List Char := ')' :: ((p.tokens.map Token.val).flatMap (' ' :: ·) ++ ['\n'])

def stat : List UInt8 :=
  Jsonl.encode (String.ofList p.statBefore) ++
    (p.comm ++ Jsonl.encode (String.ofList p.statBehind))

def countLine (label : List Char) (count : UInt64) : List Char :=
  label ++ '\t' :: Nat.toDigits 10 count.toNat

def statusLines : List (List Char) :=
  p.firstLines.map StatusLine.val ++ countLine VOLUNTARY p.voluntary ::
    (p.linesBetween.map StatusLine.val ++ countLine NONVOLUNTARY p.nonvoluntary ::
      p.lastLines.map StatusLine.val)

def statusText : List Char := p.statusLines.flatMap (· ++ ['\n'])

def status : List UInt8 := Jsonl.encode (String.ofList p.statusText)

/-- What the kernel shows of the process while its directory of descriptors is read, which
opens one more. -/
def shown : ProcSelf :=
  { stat := .ok p.stat
    status := .ok p.status
    fd := .ok (p.openFds + 1) }

def snapshot (pageSize : Nat) : ProcSnapshot :=
  { utimeTicks := p.utime.toNat
    stimeTicks := p.stime.toNat
    minflt := p.minflt.toNat
    majflt := p.majflt.toNat
    numThreads := p.numThreads.toNat
    vsizeBytes := p.vsize.toNat
    rssBytes := min (p.rss.toInt.toNat * pageSize) WORD_MAX
    voluntaryCtxtSwitches := p.voluntary.toNat
    nonvoluntaryCtxtSwitches := p.nonvoluntary.toNat
    openFds := p.openFds }

/-! ## Reading back -/

theorem splitWhitespace_trim (text : List Char) :
    splitWhitespace (trim text) = splitWhitespace text := by
  rw [splitWhitespace, trim, words_rdropWhile, words_dropWhile]
  rfl

theorem splitWhitespace_stat : splitWhitespace
    ((p.tokens.map Token.val).flatMap (' ' :: ·) ++ ['\n']) = p.tokens.map Token.val := by
  rw [splitWhitespace, words_concat (by decide)]
  refine words_flatMap (by decide) fun word hword => ?_
  obtain ⟨token, -, rfl⟩ := List.mem_map.mp hword
  exact token.word

theorem statFields_stat (name : List Char) :
    statFields (p.statBefore ++ (name ++ p.statBehind)) = .ok (p.tokens.map Token.val) := by
  have hopen : '(' ∈ p.statBefore ++ (name ++ p.statBehind) := by simp [statBefore]
  have hnone : ')' ∉ (p.tokens.map Token.val).flatMap (' ' :: ·) ++ ['\n'] := by
    intro h
    rcases List.mem_append.mp h with h | h
    · obtain ⟨word, hword, hmem⟩ := List.mem_flatMap.mp h
      obtain ⟨token, -, rfl⟩ := List.mem_map.mp hword
      rcases List.mem_cons.mp hmem with hblank | hmem
      · exact absurd hblank (by decide)
      · exact token.noParenthesis hmem
    · exact absurd (List.mem_singleton.mp h) (by decide)
  have hsuffix : afterLast ')' (p.statBefore ++ (name ++ p.statBehind)) =
      some ((p.tokens.map Token.val).flatMap (' ' :: ·) ++ ['\n']) := by
    rw [← List.append_assoc, statBehind]
    exact afterLast_append hnone _
  have hlength : ¬ (p.tokens.map Token.val).length < 22 := by
    simp [tokens]
  rw [statFields, if_neg (fun h => h hopen), hsuffix]
  dsimp only
  rw [splitWhitespace_trim, splitWhitespace_stat, if_neg hlength]

/-- The content is text where the name is. -/
theorem readToString_stat : readToString (.ok p.stat) =
    match Jsonl.decode p.comm with
    | some name => .ok (p.statBefore ++ (name.toList ++ p.statBehind))
    | none => .error notUtf8 := by
  cases hname : Jsonl.decode p.comm with
  | some name =>
    have hstat : p.stat = Jsonl.encode
        (String.ofList p.statBefore ++ (name ++ String.ofList p.statBehind)) := by
      rw [stat, Jsonl.encode_append, Jsonl.encode_append, Jsonl.decode_eq_some_iff.mp hname]
    rw [readToString, hstat, Jsonl.decode_encode]
    dsimp only
    rw [String.toList_append, String.toList_append, String.toList_ofList, String.toList_ofList]
  | none =>
    have hstat : Jsonl.decode p.stat = none := by
      have hbytes : p.stat.toByteArray = p.statBefore.utf8Encode ++
          (p.comm.toByteArray ++ p.statBehind.utf8Encode) := by
        apply ByteArray.ext
        apply Array.toList_inj.mp
        simp only [stat, Jsonl.encode, String.toByteArray_ofList, ByteArray.toList_data_append,
          List.toList_data_toByteArray]
      have hbehind : p.statBehind ≠ [] := List.cons_ne_nil _ _
      rw [Jsonl.decode_eq_none_iff] at hname ⊢
      rw [hbytes, Utf8.isValidUTF8_between hbehind]
      exact hname
    rw [readToString, hstat]

theorem statU64_ofNat {fields : List (List Char)} {index : Nat} {count : UInt64}
    (h : fields.getD index [] = (Token.ofNat count.toNat).val) (name : String) :
    statU64 fields index name = .ok count.toNat := by
  rw [statU64, h]
  show (parseUnsigned (2 ^ 64) (Nat.toDigits 10 count.toNat)).mapError _ = _
  rw [parseUnsigned_toDigits count.toNat_lt]
  rfl

theorem statI64_ofInt {fields : List (List Char)} {index : Nat} {count : Int64}
    (h : fields.getD index [] = (Token.ofInt count.toInt).val) (name : String) :
    statI64 fields index name = .ok count.toInt := by
  have hlow := count.le_toInt
  have hhigh := count.toInt_lt
  have hparse : parseI64 (Token.ofInt count.toInt).val = .ok count.toInt := by
    by_cases hnegative : count.toInt < 0
    · have hdigits := parseDigits_toDigits (show count.toInt.natAbs < 2 ^ 63 + 1 by omega)
      have hval : (Token.ofInt count.toInt).val = '-' :: Nat.toDigits 10 count.toInt.natAbs :=
        if_pos hnegative
      rw [hval]
      cases htext : Nat.toDigits 10 count.toInt.natAbs with
      | nil => exact absurd htext Nat.toDigits_ne_nil
      | cons c rest =>
        rw [htext] at hdigits
        simp only [parseI64, hdigits]
        congr 1
        omega
    · have hdigits := parseDigits_toDigits (show count.toInt.natAbs < 2 ^ 63 by omega)
      have hval : (Token.ofInt count.toInt).val = Nat.toDigits 10 count.toInt.natAbs :=
        if_neg hnegative
      rw [hval]
      cases htext : Nat.toDigits 10 count.toInt.natAbs with
      | nil => exact absurd htext Nat.toDigits_ne_nil
      | cons c rest =>
        have hdigit : c.isDigit = true := isDigit_of_mem (htext ▸ List.mem_cons_self)
        have hplus : c ≠ '+' := by
          rintro rfl
          exact absurd hdigit (by decide)
        have hminus : c ≠ '-' := by
          rintro rfl
          exact absurd hdigit (by decide)
        rw [htext] at hdigits
        rw [parseI64.eq_def]
        split
        · contradiction
        · simp_all
        · simp_all
        · simp_all
        · simp_all
        · rw [hdigits]
          exact congrArg Except.ok (show (count.toInt.natAbs : Int) = count.toInt by omega)
  rw [statI64, h, hparse]
  rfl

/-! ## The status -/

theorem trim_plain {text : List Char} (h : ∀ c ∈ text, Jsonl.isWhitespace c = false) :
    trim text = text := by
  have hfront : text.dropWhile Jsonl.isWhitespace = text := by
    cases text with
    | nil => rfl
    | cons c rest =>
      rw [List.dropWhile_cons_of_neg]
      rw [h c List.mem_cons_self]
      exact Bool.false_ne_true
  rw [trim, hfront, List.rdropWhile_eq_self_iff]
  intro hne
  rw [h _ (List.getLast_mem hne)]
  exact Bool.false_ne_true

theorem switchesU64_tab (name : String) (count : UInt64) :
    switchesU64 name ('\t' :: Nat.toDigits 10 count.toNat) = .ok count.toNat := by
  have htrim : trim ('\t' :: Nat.toDigits 10 count.toNat) = Nat.toDigits 10 count.toNat := by
    have htab : trim ('\t' :: Nat.toDigits 10 count.toNat) =
        trim (Nat.toDigits 10 count.toNat) := by
      rw [trim, List.dropWhile_cons_of_pos (by decide)]
      rfl
    rw [htab, trim_plain fun c hc => isWhitespace_isDigit (isDigit_of_mem hc)]
  rw [switchesU64, htrim, parseUnsigned_toDigits count.toNat_lt]
  rfl

theorem stripPrefix_append (label value : List Char) :
    stripPrefix label (label ++ value) = some value := by
  rw [stripPrefix, if_pos (List.prefix_append label value), List.drop_left]

theorem notMem_countLine {c : Char} (hdigit : c.isDigit = false) (htab : c ≠ '\t')
    {label : List Char} (hlabel : c ∉ label) (count : UInt64) : c ∉ countLine label count := by
  intro h
  rcases List.mem_append.mp h with h | h
  · exact hlabel h
  · rcases List.mem_cons.mp h with h | h
    · exact htab h
    · rw [isDigit_of_mem h] at hdigit
      cases hdigit

theorem stripCarriageReturn_eq {line : List Char} (h : '\r' ∉ line) :
    stripCarriageReturn line = line :=
  if_neg fun hlast => h (List.mem_of_getLast? hlast)

theorem stripCarriageReturn_prefix (line : List Char) : stripCarriageReturn line <+: line := by
  rw [stripCarriageReturn]
  split
  · exact List.dropLast_prefix line
  · exact List.prefix_refl line

theorem statusLine_other (line : StatusLine) (counts : Nat × Nat) :
    statusLine counts (stripCarriageReturn line.val) = .ok counts := by
  have hprefix := stripCarriageReturn_prefix line.val
  have hvoluntary : stripPrefix VOLUNTARY (stripCarriageReturn line.val) = none :=
    if_neg fun h => line.notVoluntary (h.trans hprefix)
  have hnonvoluntary : stripPrefix NONVOLUNTARY (stripCarriageReturn line.val) = none :=
    if_neg fun h => line.notNonvoluntary (h.trans hprefix)
  rw [statusLine, hvoluntary]
  dsimp only
  rw [hnonvoluntary]

theorem foldlM_others (lines : List StatusLine) (counts : Nat × Nat) :
    ((lines.map StatusLine.val).map stripCarriageReturn).foldlM statusLine counts =
      .ok counts := by
  induction lines with
  | nil => rfl
  | cons line lines ih =>
    rw [List.map_cons, List.map_cons, List.foldlM_cons, statusLine_other line counts]
    exact ih

theorem statusLine_voluntary (counts : Nat × Nat) (count : UInt64) :
    statusLine counts (countLine VOLUNTARY count) = .ok (count.toNat, counts.2) := by
  rw [statusLine, countLine, stripPrefix_append]
  dsimp only
  rw [switchesU64_tab]
  rfl

theorem statusLine_nonvoluntary (counts : Nat × Nat) (count : UInt64) :
    statusLine counts (countLine NONVOLUNTARY count) = .ok (counts.1, count.toNat) := by
  have hother : stripPrefix VOLUNTARY (countLine NONVOLUNTARY count) = none := by
    refine if_neg fun h => ?_
    obtain ⟨rest, hrest⟩ := h
    have hhead : some 'v' = some 'n' := congrArg List.head? hrest
    exact absurd hhead (by decide)
  rw [statusLine, hother]
  dsimp only
  rw [countLine, stripPrefix_append]
  dsimp only
  rw [switchesU64_tab]
  rfl

theorem not_newline_mem_statusLines : ∀ line ∈ p.statusLines, '\n' ∉ line := by
  have hothers : ∀ (lines : List StatusLine), ∀ line ∈ lines.map StatusLine.val, '\n' ∉ line := by
    intro lines line h
    obtain ⟨other, -, rfl⟩ := List.mem_map.mp h
    exact other.line
  intro line h
  rcases List.mem_append.mp h with h | h
  · exact hothers _ line h
  · rcases List.mem_cons.mp h with rfl | h
    · exact notMem_countLine (by decide) (by decide) (by decide) p.voluntary
    · rcases List.mem_append.mp h with h | h
      · exact hothers _ line h
      · rcases List.mem_cons.mp h with rfl | h
        · exact notMem_countLine (by decide) (by decide) (by decide) p.nonvoluntary
        · exact hothers _ line h

theorem foldlM_status : (textLines p.statusText).foldlM statusLine (0, 0) =
    .ok (p.voluntary.toNat, p.nonvoluntary.toNat) := by
  have hlines : textLines p.statusText = p.statusLines.map stripCarriageReturn := by
    rw [textLines, statusText, Lines.cut_flatMap p.not_newline_mem_statusLines]
    exact List.append_nil _
  have hvoluntary : stripCarriageReturn (countLine VOLUNTARY p.voluntary) =
      countLine VOLUNTARY p.voluntary :=
    stripCarriageReturn_eq (notMem_countLine (by decide) (by decide) (by decide) p.voluntary)
  have hnonvoluntary : stripCarriageReturn (countLine NONVOLUNTARY p.nonvoluntary) =
      countLine NONVOLUNTARY p.nonvoluntary :=
    stripCarriageReturn_eq (notMem_countLine (by decide) (by decide) (by decide) p.nonvoluntary)
  rw [hlines, statusLines, List.map_append, List.map_cons, List.map_append, List.map_cons,
    hvoluntary, hnonvoluntary, List.foldlM_append, foldlM_others]
  show List.foldlM statusLine (0, 0) _ = _
  rw [List.foldlM_cons, statusLine_voluntary]
  show List.foldlM statusLine (p.voluntary.toNat, 0) _ = _
  rw [List.foldlM_append, foldlM_others]
  show List.foldlM statusLine (p.voluntary.toNat, 0) _ = _
  rw [List.foldlM_cons, statusLine_nonvoluntary]
  exact foldlM_others p.lastLines _

/-- Whatever the kernel shows of a process, the snapshot has its numbers if the name of the
program is text, and fails if it is not. -/
theorem proc_snapshot_reads_back (pageSize : Nat) :
    readProcSnapshot p.shown pageSize =
      if (Jsonl.decode p.comm).isSome then .ok (p.snapshot pageSize) else .error notUtf8 := by
  have hminflt := @statU64_ofNat (p.tokens.map Token.val) 7 p.minflt rfl "minflt"
  have hmajflt := @statU64_ofNat (p.tokens.map Token.val) 9 p.majflt rfl "majflt"
  have hutime := @statU64_ofNat (p.tokens.map Token.val) 11 p.utime rfl "utime"
  have hstime := @statU64_ofNat (p.tokens.map Token.val) 12 p.stime rfl "stime"
  have hthreads := @statU64_ofNat (p.tokens.map Token.val) 17 p.numThreads rfl "num_threads"
  have hvsize := @statU64_ofNat (p.tokens.map Token.val) 20 p.vsize rfl "vsize"
  have hrss := @statI64_ofInt (p.tokens.map Token.val) 21 p.rss rfl "rss"
  have hbytes : (if p.rss.toInt ≤ 0 then 0 else min (p.rss.toInt.toNat * pageSize) WORD_MAX) =
      min (p.rss.toInt.toNat * pageSize) WORD_MAX := by
    by_cases hnone : p.rss.toInt ≤ 0
    · rw [if_pos hnone, Int.toNat_of_nonpos hnone, Nat.zero_mul, Nat.zero_min]
    · exact if_neg hnone
  have hstat : readToString p.shown.stat = _ := p.readToString_stat
  have hstatus : readToString p.shown.status = .ok p.statusText := by
    show readToString (.ok (Jsonl.encode (String.ofList p.statusText))) = _
    rw [readToString, Jsonl.decode_encode]
    dsimp only
    rw [String.toList_ofList]
  have hfd : p.shown.fd.mapError ProcError.io = .ok (p.openFds + 1) := rfl
  have hbind : ∀ {α β : Type} (value : α) (next : α → Except ProcError β),
      (Except.ok value >>= next) = next value := fun _ _ => rfl
  cases hname : Jsonl.decode p.comm with
  | none =>
    rw [hname] at hstat
    rw [readProcSnapshot, hstat]
    rfl
  | some name =>
    rw [hname] at hstat
    rw [readProcSnapshot, hstat, hbind, p.statFields_stat, hbind, hminflt, hbind, hmajflt, hbind,
      hutime, hbind, hstime, hbind, hthreads, hbind, hvsize, hbind, hrss, hbind, hstatus, hbind,
      p.foldlM_status, hbind, hfd, hbind, hbytes]
    rfl

end Process

end McrxCore
