import McrxCore.AddrText
import McrxCore.Lib.ArgList

/-!
# Receiver command lines

`bin/common/recv_args.rs`, which the receiver binaries share.  An interface value under an
IPv6 group is an address, a scoped address or a bare index, and a bare index leaves the
address out.
-/

namespace McrxCore

namespace RecvArgs

open ArgList

structure ReceiveCliArgs where
  group : IpAddr
  dstPort : UInt16
  source : Option IpAddr
  interface : Option IpAddr
  interfaceIndex : Option UInt32
  deriving DecidableEq, Repr

structure RawReceiveCliArgs where
  group : IpAddr
  source : Option IpAddr
  interface : Option IpAddr
  interfaceIndex : Option UInt32
  deriving DecidableEq, Repr

abbrev ParsedInterface := Option IpAddr × Option UInt32

structure ParsedSourceAndInterface where
  source : Option IpAddr
  interface : Option IpAddr
  interfaceIndex : Option UInt32
  deriving DecidableEq, Repr

/-! ## Values -/

def parseIp (name value : String) : Except String IpAddr :=
  match parseIpAddr value.toList with
  | .error err => .error ("invalid " ++ name ++ " '" ++ value ++ "': " ++ err.display)
  | .ok addr => .ok addr

/-- `str::rsplit_once`: the parts around the last separator. -/
def rsplitOnce (separator : Char) : List Char → Option (List Char × List Char)
  | [] => none
  | c :: rest =>
    match rsplitOnce separator rest with
    | some (before, after) => some (c :: before, after)
    | none => if c = separator then some ([], rest) else none

/-- The `if_nametoindex` of the platform: zero where no interface has the name. -/
abbrev IfNameToIndex := List Char → UInt32

variable (ifNameToIndex : IfNameToIndex)

def interfaceNameToIndex (name : List Char) : Except String UInt32 :=
  if '\x00' ∈ name then .error "interface name must not contain NUL bytes"
  else if ifNameToIndex name = 0 then .error "unknown interface name"
  else .ok (ifNameToIndex name)

def parseInterfaceScope (value : List Char) : Except String UInt32 :=
  if value.all Char.isDigit then
    match parseUnsigned (2 ^ 32) value with
    | .error err =>
      .error ("invalid interface index '" ++ String.ofList value ++ "': " ++ err.display)
    | .ok scope =>
      if scope = 0 then .error "interface index must not be 0" else .ok (.ofNat scope)
  else
    match interfaceNameToIndex ifNameToIndex value with
    | .error err => .error ("invalid interface scope '" ++ String.ofList value ++ "': " ++ err)
    | .ok index => .ok index

def parseInterfaceAddr (value : String) : Except String ParsedInterface := do
  let addr ← parseIp "interface" value
  .ok (some addr, none)

def parseInterfaceValue (group : IpAddr) (value : String) : Except String ParsedInterface :=
  match group with
  | .v4 _ => parseInterfaceAddr value
  | .v6 _ =>
    match rsplitOnce '%' value.toList with
    | some (addr, scope) =>
      match parseIpv6Addr addr with
      | .error err => .error ("invalid interface '" ++ value ++ "': " ++ err.display)
      | .ok addr => do
        let scope ← parseInterfaceScope ifNameToIndex scope
        .ok (some (.v6 addr), some scope)
    | none =>
      if value.toList.all Char.isDigit then do
        let scope ← parseInterfaceScope ifNameToIndex value.toList
        .ok (none, some scope)
      else parseInterfaceAddr value

def parsePort (value : String) : Except String UInt16 :=
  match parseUnsigned (2 ^ 16) value.toList with
  | .error err => .error ("invalid dst_port '" ++ value ++ "': " ++ err.display)
  | .ok port => if port = 0 then .error "dst_port must not be 0" else .ok (.ofNat port)

/-! ## Arguments -/

/-- The loop of `parse_flag_args`, with what the flags so far have set. -/
def parseFlagArgs (group : IpAddr) :
    List String → ParsedSourceAndInterface → Except String ParsedSourceAndInterface
  | [], parsed => .ok parsed
  | flag :: rest, parsed =>
    if flag = "--source" then
      match rest with
      | [] => .error "missing value after --source"
      | value :: rest => do
        let source ← parseIp "source" value
        parseFlagArgs group rest { parsed with source := some source }
    else if flag = "--interface" then
      match rest with
      | [] => .error "missing value after --interface"
      | value :: rest => do
        let (interface, interfaceIndex) ← parseInterfaceValue ifNameToIndex group value
        parseFlagArgs group rest
          { parsed with interface := interface, interfaceIndex := interfaceIndex }
    else .error ("unexpected argument '" ++ flag ++ "'")

/-- `starts_with("--")`. -/
def isFlag (arg : String) : Bool := ['-', '-'].isPrefixOf arg.toList

/-- The first loop of `parse_mixed_args`: the positional arguments, and the flags with their
values. -/
def splitMixedArgs : List String → Except String (List String × List String)
  | [] => .ok ([], [])
  | arg :: rest =>
    if isFlag arg then
      match rest with
      | [] => .error ("missing value after " ++ arg)
      | value :: rest => do
        let (positional, flagged) ← splitMixedArgs rest
        .ok (positional, arg :: value :: flagged)
    else do
      let (positional, flagged) ← splitMixedArgs rest
      .ok (arg :: positional, flagged)

/-- A missing source is the next positional argument, if there is one. -/
def fillSource (parsed : ParsedSourceAndInterface) (positional : List String) :
    Except String (ParsedSourceAndInterface × List String) :=
  match parsed.source, positional with
  | none, value :: positional => do
    let source ← parseIp "source" value
    .ok ({ parsed with source := some source }, positional)
  | _, positional => .ok (parsed, positional)

/-- `interface.is_none()` looks at the address alone. -/
def fillInterface (group : IpAddr) (parsed : ParsedSourceAndInterface)
    (positional : List String) : Except String (ParsedSourceAndInterface × List String) :=
  match parsed.interface, positional with
  | none, value :: positional => do
    let (interface, interfaceIndex) ← parseInterfaceValue ifNameToIndex group value
    .ok ({ parsed with interface := interface, interfaceIndex := interfaceIndex }, positional)
  | _, positional => .ok (parsed, positional)

def parseMixedArgs (group : IpAddr) (remainder : List String) :
    Except String ParsedSourceAndInterface := do
  let (positional, flagged) ← splitMixedArgs remainder
  let parsed ← parseFlagArgs ifNameToIndex group flagged
    { source := none, interface := none, interfaceIndex := none }
  let (parsed, positional) ← fillSource parsed positional
  let (parsed, positional) ← fillInterface ifNameToIndex group parsed positional
  match positional with
  | [] => .ok parsed
  | _ :: _ => .error "invalid arguments"

def notMulticast (group : IpAddr) : String :=
  "group address " ++ group.display ++ " is not multicast"

def parseReceiveCliArgs (args : List String) : Except String ReceiveCliArgs :=
  match args with
  | _ :: group :: dstPort :: remainder => do
    let group ← parseIp "group" group
    let dstPort ← parsePort dstPort
    let parsed ← parseMixedArgs ifNameToIndex group remainder
    if !group.isMulticast then .error (notMulticast group)
    else
      .ok
        { group := group
          dstPort := dstPort
          source := parsed.source
          interface := parsed.interface
          interfaceIndex := parsed.interfaceIndex }
  | _ => .error "invalid arguments"

def parseRawReceiveCliArgs (args : List String) : Except String RawReceiveCliArgs :=
  match args with
  | _ :: group :: remainder => do
    let group ← parseIp "group" group
    let parsed ← parseMixedArgs ifNameToIndex group remainder
    if !group.isMulticast then .error (notMulticast group)
    else
      .ok
        { group := group
          source := parsed.source
          interface := parsed.interface
          interfaceIndex := parsed.interfaceIndex }
  | _ => .error "invalid arguments"

/-! ## What a parse takes -/

theorem exists_of_bind_eq_ok {α β : Type} {x : Except String α} {f : α → Except String β} {b : β}
    (h : x >>= f = .ok b) : ∃ a, x = .ok a ∧ f a = .ok b := by
  cases x with
  | error err => cases h
  | ok a => exact ⟨a, rfl, h⟩

theorem eq_of_guard_eq_ok {α : Type} {guard : Prop} [Decidable guard] {err : String}
    {value result : α}
    (h : (if guard then .error err else .ok value : Except String α) = .ok result) :
    value = result := by
  by_cases hguard : guard
  · rw [if_pos hguard] at h
    cases h
  · rw [if_neg hguard] at h
    exact Except.ok.inj h

def isBareIndex (group : IpAddr) (value : String) : Bool :=
  match group with
  | .v4 _ => false
  | .v6 _ => value.toList.all Char.isDigit

theorem rsplitOnce_eq_none {separator : Char} {value : List Char} (h : separator ∉ value) :
    rsplitOnce separator value = none := by
  induction value with
  | nil => rfl
  | cons c rest ih =>
    rw [List.mem_cons, not_or] at h
    rw [rsplitOnce, ih h.2]
    exact if_neg (Ne.symm h.1)

theorem parseInterfaceAddr_isSome {value : String} {parsed : ParsedInterface}
    (h : parseInterfaceAddr value = .ok parsed) : parsed.1.isSome = true := by
  obtain ⟨addr, -, h⟩ := exists_of_bind_eq_ok h
  cases h
  rfl

/-- Only a bare index leaves the address out. -/
theorem parseInterfaceValue_isSome {group : IpAddr} {value : String} {parsed : ParsedInterface}
    (h : parseInterfaceValue ifNameToIndex group value = .ok parsed) :
    parsed.1.isSome = !isBareIndex group value := by
  cases group with
  | v4 group => exact parseInterfaceAddr_isSome h
  | v6 group =>
    rw [parseInterfaceValue] at h
    cases hdigits : value.toList.all Char.isDigit with
    | true =>
      have hpercent : '%' ∉ value.toList := fun hmem => by
        have hdigit := List.all_eq_true.mp hdigits '%' hmem
        revert hdigit
        decide
      rw [rsplitOnce_eq_none hpercent] at h
      simp only [hdigits, if_true] at h
      obtain ⟨scope, -, h⟩ := exists_of_bind_eq_ok h
      cases h
      rw [isBareIndex, hdigits]
      rfl
    | false =>
      rw [isBareIndex, hdigits]
      cases hsplit : rsplitOnce '%' value.toList with
      | none =>
        simp only [hsplit, hdigits, Bool.false_eq_true, if_false] at h
        exact parseInterfaceAddr_isSome h
      | some split =>
        obtain ⟨addr, scope⟩ := split
        simp only [hsplit] at h
        cases haddr : parseIpv6Addr addr with
        | error err =>
          rw [haddr] at h
          cases h
        | ok addr =>
          simp only [haddr] at h
          obtain ⟨scope, -, h⟩ := exists_of_bind_eq_ok h
          cases h
          rfl

def sourceOf (value : String) : Except String (Option IpAddr) := (parseIp "source" value).map some

section Flags

variable {group : IpAddr} {parsed result : ParsedSourceAndInterface}

/-- The flags set the source and the interface each to its last value. -/
theorem parseFlagArgs_lastValue {args : List String}
    (h : parseFlagArgs ifNameToIndex group args parsed = .ok result) :
    (lastValue "--source" (pairs args)).elim (.ok parsed.source) sourceOf = .ok result.source ∧
      (lastValue "--interface" (pairs args)).elim (.ok (parsed.interface, parsed.interfaceIndex))
          (parseInterfaceValue ifNameToIndex group) =
        .ok (result.interface, result.interfaceIndex) := by
  induction args using pairs.induct generalizing parsed with
  | case1 flag value rest ih =>
    rw [pairs]
    by_cases hsource : flag = "--source"
    · subst hsource
      obtain ⟨source, hparse, h⟩ := exists_of_bind_eq_ok h
      obtain ⟨ihSource, ihInterface⟩ := ih h
      rw [lastValue_elim_cons_self, lastValue_cons_of_ne (by decide), sourceOf, hparse]
      exact ⟨ihSource, ihInterface⟩
    · by_cases hinterface : flag = "--interface"
      · subst hinterface
        obtain ⟨⟨interface, interfaceIndex⟩, hparse, h⟩ := exists_of_bind_eq_ok h
        obtain ⟨ihSource, ihInterface⟩ := ih h
        rw [lastValue_elim_cons_self, lastValue_cons_of_ne (by decide), hparse]
        exact ⟨ihSource, ihInterface⟩
      · rw [parseFlagArgs, if_neg hsource, if_neg hinterface] at h
        cases h
  | case2 args hargs =>
    cases args with
    | nil =>
      cases h
      exact ⟨rfl, rfl⟩
    | cons flag rest =>
      cases rest with
      | cons value rest => exact absurd rfl (hargs flag value rest)
      | nil =>
        rw [parseFlagArgs] at h
        by_cases hsource : flag = "--source"
        · rw [if_pos hsource] at h
          cases h
        · by_cases hinterface : flag = "--interface"
          · rw [if_neg hsource, if_pos hinterface] at h
            cases h
          · rw [if_neg hsource, if_neg hinterface] at h
            cases h

end Flags

/-- The first loop keeps every positional argument and every flag with its value. -/
theorem splitMixedArgs_ok {remainder positional flat : List String}
    (h : splitMixedArgs remainder = .ok (positional, flat)) :
    positional = positionals isFlag remainder ∧ pairs flat = flagged isFlag remainder := by
  induction remainder using splitMixedArgs.induct generalizing positional flat with
  | case1 =>
    cases h
    exact ⟨rfl, rfl⟩
  | case2 arg hflag =>
    rw [splitMixedArgs, if_pos hflag] at h
    cases h
  | case3 arg hflag value rest ih =>
    rw [splitMixedArgs, if_pos hflag] at h
    obtain ⟨⟨positional', flat'⟩, hsplit, h⟩ := exists_of_bind_eq_ok h
    cases h
    obtain ⟨hpositional, hflat⟩ := ih hsplit
    rw [positionals_cons_of_flag hflag, flagged_cons_of_flag hflag, pairs, hflat]
    exact ⟨hpositional, rfl⟩
  | case4 arg rest hflag ih =>
    rw [splitMixedArgs.eq_def] at h
    simp only [if_neg hflag] at h
    obtain ⟨⟨positional', flat'⟩, hsplit, h⟩ := exists_of_bind_eq_ok h
    cases h
    obtain ⟨hpositional, hflat⟩ := ih hsplit
    have hflag : isFlag arg = false := by simpa using hflag
    rw [positionals_cons_of_not_flag hflag, flagged_cons_of_not_flag hflag, hpositional]
    exact ⟨rfl, hflat⟩

section Fill

variable {group : IpAddr} {parsed parsed' : ParsedSourceAndInterface}
  {positional positional' : List String}

theorem fillSource_ok (h : fillSource parsed positional = .ok (parsed', positional')) :
    parsed'.interface = parsed.interface ∧ parsed'.interfaceIndex = parsed.interfaceIndex ∧
      ((parsed.source ≠ none ∨ positional = []) ∧ parsed'.source = parsed.source ∧
          positional' = positional ∨
        parsed.source = none ∧
          ∃ value, positional = value :: positional' ∧ sourceOf value = .ok parsed'.source) := by
  rw [fillSource.eq_def] at h
  cases hsource : parsed.source with
  | some source =>
    rw [hsource] at h
    cases h
    exact ⟨rfl, rfl, .inl ⟨.inl (by simp), hsource, rfl⟩⟩
  | none =>
    rw [hsource] at h
    cases positional with
    | nil =>
      cases h
      exact ⟨rfl, rfl, .inl ⟨.inr rfl, hsource, rfl⟩⟩
    | cons value rest =>
      obtain ⟨source, hparse, h⟩ := exists_of_bind_eq_ok h
      cases h
      refine ⟨rfl, rfl, .inr ⟨rfl, value, rfl, ?_⟩⟩
      rw [sourceOf, hparse]
      rfl

theorem fillInterface_ok
    (h : fillInterface ifNameToIndex group parsed positional = .ok (parsed', positional')) :
    parsed'.source = parsed.source ∧
      ((parsed.interface ≠ none ∨ positional = []) ∧
          (parsed'.interface = parsed.interface ∧ parsed'.interfaceIndex = parsed.interfaceIndex) ∧
          positional' = positional ∨
        parsed.interface = none ∧ ∃ value, positional = value :: positional' ∧
          parseInterfaceValue ifNameToIndex group value =
            .ok (parsed'.interface, parsed'.interfaceIndex)) := by
  rw [fillInterface.eq_def] at h
  cases hinterface : parsed.interface with
  | some interface =>
    rw [hinterface] at h
    cases h
    exact ⟨rfl, .inl ⟨.inl (by simp), ⟨hinterface, rfl⟩, rfl⟩⟩
  | none =>
    rw [hinterface] at h
    cases positional with
    | nil =>
      cases h
      exact ⟨rfl, .inl ⟨.inr rfl, ⟨hinterface, rfl⟩, rfl⟩⟩
    | cons value rest =>
      obtain ⟨⟨interface, interfaceIndex⟩, hparse, h⟩ := exists_of_bind_eq_ok h
      cases h
      exact ⟨rfl, .inr ⟨rfl, value, rfl, hparse⟩⟩

end Fill

def lastFlag (flag : String) (remainder : List String) : Option String :=
  lastValue flag (flagged isFlag remainder)

/-- A flagged interface and source are what the flags say, with no positional argument
beside both, and without flags the positional arguments are the source and the interface. -/
def FlagsKept (group : IpAddr) (remainder : List String) (parsed : ParsedSourceAndInterface) :
    Prop :=
  (∀ value, lastFlag "--interface" remainder = some value →
      parseInterfaceValue ifNameToIndex group value =
          .ok (parsed.interface, parsed.interfaceIndex) ∧
        ∀ source, lastFlag "--source" remainder = some source →
          sourceOf source = .ok parsed.source ∧ positionals isFlag remainder = []) ∧
    ((∀ arg ∈ remainder, isFlag arg = false) →
      remainder.length ≤ 2 ∧
        remainder[0]?.elim (.ok none) sourceOf = .ok parsed.source ∧
        remainder[1]?.elim (.ok (none, none)) (parseInterfaceValue ifNameToIndex group) =
          .ok (parsed.interface, parsed.interfaceIndex))

/-- No positional argument takes the place of a bare index: none stands beside a flagged
source, and else a second one says the same. -/
def IndexKept (group : IpAddr) (remainder : List String) : Prop :=
  ∀ value, lastFlag "--interface" remainder = some value → isBareIndex group value = true →
    (lastFlag "--source" remainder ≠ none → positionals isFlag remainder = []) ∧
      (lastFlag "--source" remainder = none → ∀ other,
        (positionals isFlag remainder)[1]? = some other →
        parseInterfaceValue ifNameToIndex group other =
          parseInterfaceValue ifNameToIndex group value)

section Mixed

variable {group : IpAddr} {remainder : List String} {parsed : ParsedSourceAndInterface}

/-- What the flags set, and what the positional arguments fill in. -/
theorem parseMixedArgs_ok (h : parseMixedArgs ifNameToIndex group remainder = .ok parsed) :
    ∃ flags filled : ParsedSourceAndInterface, ∃ left,
      (lastFlag "--source" remainder).elim (.ok none) sourceOf = .ok flags.source ∧
      (lastFlag "--interface" remainder).elim (.ok (none, none))
          (parseInterfaceValue ifNameToIndex group) =
        .ok (flags.interface, flags.interfaceIndex) ∧
      fillSource flags (positionals isFlag remainder) = .ok (filled, left) ∧
      fillInterface ifNameToIndex group filled left = .ok (parsed, []) := by
  obtain ⟨⟨positional, flat⟩, hsplit, h⟩ := exists_of_bind_eq_ok h
  obtain ⟨flags, hflags, h⟩ := exists_of_bind_eq_ok h
  obtain ⟨⟨filled, left⟩, hsource, h⟩ := exists_of_bind_eq_ok h
  obtain ⟨⟨result, leftOver⟩, hinterface, h⟩ := exists_of_bind_eq_ok h
  obtain ⟨rfl, hflat⟩ := splitMixedArgs_ok hsplit
  obtain ⟨hlastSource, hlastInterface⟩ := parseFlagArgs_lastValue ifNameToIndex hflags
  rw [hflat] at hlastSource hlastInterface
  cases leftOver with
  | cons value rest => cases h
  | nil =>
    cases h
    exact ⟨flags, filled, left, hlastSource, hlastInterface, hsource, hinterface⟩

theorem sourceOf_ne_none {value : String} {source : Option IpAddr}
    (h : sourceOf value = .ok source) : source ≠ none := by
  rw [sourceOf] at h
  cases hparse : parseIp "source" value with
  | error err =>
    rw [hparse] at h
    cases h
  | ok addr =>
    rw [hparse] at h
    cases h
    exact Option.some_ne_none addr

theorem elim_sourceOf_eq_none_iff {flagged : Option String} {source : Option IpAddr}
    (h : flagged.elim (.ok none) sourceOf = .ok source) : source = none ↔ flagged = none := by
  cases flagged with
  | none =>
    cases h
    exact iff_of_true rfl rfl
  | some value => exact iff_of_false (sourceOf_ne_none h) (by simp)

/-- Where no positional argument takes the place of the index, the flags decide. -/
theorem flagged_kept (h : parseMixedArgs ifNameToIndex group remainder = .ok parsed)
    (hkept : IndexKept ifNameToIndex group remainder) {value : String}
    (hvalue : lastFlag "--interface" remainder = some value) :
    parseInterfaceValue ifNameToIndex group value =
        .ok (parsed.interface, parsed.interfaceIndex) ∧
      ∀ source, lastFlag "--source" remainder = some source →
        sourceOf source = .ok parsed.source ∧ positionals isFlag remainder = [] := by
  obtain ⟨flags, filled, left, hlastSource, hlastInterface, hfillSource, hfillInterface⟩ :=
    parseMixedArgs_ok ifNameToIndex h
  obtain ⟨hfilled, hfilledIndex, hfill⟩ := fillSource_ok hfillSource
  obtain ⟨hsource, hinterface⟩ := fillInterface_ok ifNameToIndex hfillInterface
  rw [hvalue] at hlastInterface
  have hbare := parseInterfaceValue_isSome ifNameToIndex hlastInterface
  -- The positional argument that takes the place of the interface finds a bare index.
  have htaken : filled.interface = none → isBareIndex group value = true := by
    intro hnone
    rw [hfilled] at hnone
    simpa [hnone] using hbare
  refine ⟨?_, ?_⟩
  · rcases hinterface with ⟨-, ⟨hsame, hsameIndex⟩, -⟩ | ⟨hnone, other, rfl, hother⟩
    · rw [hsame, hsameIndex, hfilled, hfilledIndex]
      exact hlastInterface
    · obtain ⟨hbeside, hsays⟩ := hkept value hvalue (htaken hnone)
      rcases hfill with ⟨hset, -, hleft⟩ | ⟨hunset, first, hpositionals, -⟩
      · have hpositionals : positionals isFlag remainder ≠ [] := by simp [← hleft]
        have hflagged := hset.resolve_right hpositionals
        rw [Ne, elim_sourceOf_eq_none_iff hlastSource] at hflagged
        exact absurd (hbeside hflagged) hpositionals
      · rw [elim_sourceOf_eq_none_iff hlastSource] at hunset
        rw [← hsays hunset other (by rw [hpositionals]; rfl), hother]
  · intro source hflagged
    rw [hflagged] at hlastSource
    have hset := sourceOf_ne_none hlastSource
    rcases hfill with ⟨-, hfilledSource, rfl⟩ | ⟨hunset, -⟩
    · rw [hsource, hfilledSource]
      refine ⟨hlastSource, ?_⟩
      rcases hinterface with ⟨-, -, hleft⟩ | ⟨hnone, -⟩
      · exact hleft.symm
      · exact (hkept value hvalue (htaken hnone)).1 (by simp [hflagged])
    · exact absurd hunset hset

/-- Flags that are kept leave no positional argument to take the place of the index. -/
theorem indexKept_of_flagsKept (h : parseMixedArgs ifNameToIndex group remainder = .ok parsed)
    (hkept : FlagsKept ifNameToIndex group remainder parsed) :
    IndexKept ifNameToIndex group remainder := by
  intro value hvalue hbare
  obtain ⟨flags, filled, left, hlastSource, hlastInterface, hfillSource, hfillInterface⟩ :=
    parseMixedArgs_ok ifNameToIndex h
  obtain ⟨hfilled, -, hfill⟩ := fillSource_ok hfillSource
  obtain ⟨-, hinterface⟩ := fillInterface_ok ifNameToIndex hfillInterface
  obtain ⟨hparsed, hbeside⟩ := hkept.1 value hvalue
  rw [hvalue] at hlastInterface
  have hnone : flags.interface = none := by
    have hsome := parseInterfaceValue_isSome ifNameToIndex hlastInterface
    rw [hbare] at hsome
    simpa using hsome
  refine ⟨?_, ?_⟩
  · intro hflagged
    obtain ⟨source, hsource⟩ := Option.ne_none_iff_exists'.mp hflagged
    exact (hbeside source hsource).2
  · intro hunflagged other hother
    have hunset := (elim_sourceOf_eq_none_iff hlastSource).mpr hunflagged
    rcases hfill with ⟨hset | hempty, -, -⟩ | ⟨-, first, hpositionals, -⟩
    · exact absurd hunset hset
    · rw [hempty] at hother
      cases hother
    · rw [hpositionals] at hother
      rcases hinterface with ⟨hset | hempty, -, hleft⟩ | ⟨-, taken, rfl, htaken⟩
      · exact absurd (hfilled.trans hnone) hset
      · rw [hempty] at hother
        cases hother
      · cases hother
        rw [htaken, hparsed]

/-- Without flags the positional arguments are the source and the interface. -/
theorem unflagged_kept (h : parseMixedArgs ifNameToIndex group remainder = .ok parsed)
    (hunflagged : ∀ arg ∈ remainder, isFlag arg = false) :
    remainder.length ≤ 2 ∧
      remainder[0]?.elim (.ok none) sourceOf = .ok parsed.source ∧
      remainder[1]?.elim (.ok (none, none)) (parseInterfaceValue ifNameToIndex group) =
        .ok (parsed.interface, parsed.interfaceIndex) := by
  obtain ⟨flags, filled, left, hlastSource, hlastInterface, hfillSource, hfillInterface⟩ :=
    parseMixedArgs_ok ifNameToIndex h
  obtain ⟨hfilled, hfilledIndex, hfill⟩ := fillSource_ok hfillSource
  obtain ⟨hsource, hinterface⟩ := fillInterface_ok ifNameToIndex hfillInterface
  rw [lastFlag, flagged_eq_nil hunflagged] at hlastSource hlastInterface
  rw [positionals_eq_self hunflagged] at hfill
  have hunset : none = flags.source := Except.ok.inj hlastSource
  have hnone : (none, none) = (flags.interface, flags.interfaceIndex) :=
    Except.ok.inj hlastInterface
  obtain ⟨hnone, hnoIndex⟩ := Prod.mk.inj hnone
  rw [← hnone] at hfilled
  rw [← hnoIndex] at hfilledIndex
  have htaken : (left = [] ∧ (parsed.interface, parsed.interfaceIndex) = (none, none)) ∨
      ∃ other, left = [other] ∧ parseInterfaceValue ifNameToIndex group other =
        .ok (parsed.interface, parsed.interfaceIndex) := by
    rcases hinterface with ⟨-, ⟨hsame, hsameIndex⟩, rfl⟩ | ⟨-, other, hother⟩
    · rw [hsame, hsameIndex, hfilled, hfilledIndex]
      exact .inl ⟨rfl, rfl⟩
    · exact .inr ⟨other, hother⟩
  rcases hfill with ⟨hset | rfl, hfilledSource, rfl⟩ | ⟨-, first, rfl, hfirst⟩
  · exact absurd hunset.symm hset
  · rcases htaken with ⟨-, hempty⟩ | ⟨other, hleft, -⟩
    · rw [hsource, hfilledSource, ← hunset, hempty]
      exact ⟨Nat.zero_le _, rfl, rfl⟩
    · cases hleft
  · rw [hsource]
    rcases htaken with ⟨rfl, hempty⟩ | ⟨other, rfl, hother⟩
    · rw [hempty]
      exact ⟨Nat.le_succ 1, hfirst, rfl⟩
    · exact ⟨Nat.le_refl 2, hfirst, hother⟩

theorem flagsKept_iff (h : parseMixedArgs ifNameToIndex group remainder = .ok parsed) :
    FlagsKept ifNameToIndex group remainder parsed ↔ IndexKept ifNameToIndex group remainder := by
  constructor
  · exact indexKept_of_flagsKept ifNameToIndex h
  · intro hkept
    exact ⟨fun value hvalue => flagged_kept ifNameToIndex h hkept hvalue,
      unflagged_kept ifNameToIndex h⟩

end Mixed

/-! ## Command lines -/

namespace ReceiveCliArgs

def selection (args : ReceiveCliArgs) : ParsedSourceAndInterface :=
  { source := args.source, interface := args.interface, interfaceIndex := args.interfaceIndex }

end ReceiveCliArgs

namespace RawReceiveCliArgs

def selection (args : RawReceiveCliArgs) : ParsedSourceAndInterface :=
  { source := args.source, interface := args.interface, interfaceIndex := args.interfaceIndex }

end RawReceiveCliArgs

theorem parseReceiveCliArgs_ok {args : List String} {parsed : ReceiveCliArgs}
    (h : parseReceiveCliArgs ifNameToIndex args = .ok parsed) :
    parseMixedArgs ifNameToIndex parsed.group (args.drop 3) = .ok parsed.selection := by
  rw [parseReceiveCliArgs.eq_def] at h
  rcases args with _ | ⟨program, _ | ⟨group, _ | ⟨dstPort, remainder⟩⟩⟩
  · cases h
  · cases h
  · cases h
  · obtain ⟨groupAddr, -, h⟩ := exists_of_bind_eq_ok h
    obtain ⟨port, -, h⟩ := exists_of_bind_eq_ok h
    obtain ⟨selection, hselection, h⟩ := exists_of_bind_eq_ok h
    rw [← eq_of_guard_eq_ok h]
    exact hselection

theorem parseRawReceiveCliArgs_ok {args : List String} {parsed : RawReceiveCliArgs}
    (h : parseRawReceiveCliArgs ifNameToIndex args = .ok parsed) :
    parseMixedArgs ifNameToIndex parsed.group (args.drop 2) = .ok parsed.selection := by
  rw [parseRawReceiveCliArgs.eq_def] at h
  rcases args with _ | ⟨program, _ | ⟨group, remainder⟩⟩
  · cases h
  · cases h
  · obtain ⟨groupAddr, -, h⟩ := exists_of_bind_eq_ok h
    obtain ⟨selection, hselection, h⟩ := exists_of_bind_eq_ok h
    rw [← eq_of_guard_eq_ok h]
    exact hselection

/-- Each receiver keeps what the flags say exactly when no positional argument takes the
place of a bare index. -/
theorem cliArgs_flagsKept_iff (args : List String) :
    (∀ parsed, parseReceiveCliArgs ifNameToIndex args = .ok parsed →
      (FlagsKept ifNameToIndex parsed.group (args.drop 3) parsed.selection ↔
        IndexKept ifNameToIndex parsed.group (args.drop 3))) ∧
    (∀ parsed, parseRawReceiveCliArgs ifNameToIndex args = .ok parsed →
      (FlagsKept ifNameToIndex parsed.group (args.drop 2) parsed.selection ↔
        IndexKept ifNameToIndex parsed.group (args.drop 2))) :=
  ⟨fun _ h => flagsKept_iff ifNameToIndex (parseReceiveCliArgs_ok ifNameToIndex h),
    fun _ h => flagsKept_iff ifNameToIndex (parseRawReceiveCliArgs_ok ifNameToIndex h)⟩

def loopbackOnly : IfNameToIndex := fun name => if name = ['l', 'o'] then 1 else 0

def scopedArgs : List String :=
  ["mcrx-recv", "ff12::8000:1234", "5000", "2001:db8::10", "--interface", "fe80::1%lo"]

def scopedParsed : ReceiveCliArgs :=
  { group := .v6 (.ofSegments [0xff12, 0, 0, 0, 0, 0, 0x8000, 0x1234])
    dstPort := 5000
    source := some (.v6 (.ofSegments [0x2001, 0xdb8, 0, 0, 0, 0, 0, 0x10]))
    interface := some (.v6 (.ofSegments [0xfe80, 0, 0, 0, 0, 0, 0, 1]))
    interfaceIndex := some 1 }

theorem cliArgs_flagsKept_iff_scoped :
    FlagsKept loopbackOnly scopedParsed.group (scopedArgs.drop 3) scopedParsed.selection ↔
      IndexKept loopbackOnly scopedParsed.group (scopedArgs.drop 3) :=
  (cliArgs_flagsKept_iff loopbackOnly scopedArgs).1 scopedParsed (by decide +kernel)

def overriddenArgs : List String :=
  ["mcrx-recv", "ff1e::8000:1234", "5000", "2001:db8::10", "10", "--interface", "9"]

def overriddenParsed : ReceiveCliArgs :=
  { group := .v6 (.ofSegments [0xff1e, 0, 0, 0, 0, 0, 0x8000, 0x1234])
    dstPort := 5000
    source := some (.v6 (.ofSegments [0x2001, 0xdb8, 0, 0, 0, 0, 0, 0x10]))
    interface := none
    interfaceIndex := some 10 }

/-- The positional index `10` takes the place of the flagged `9`. -/
theorem flagged_index_overridden :
    parseReceiveCliArgs loopbackOnly overriddenArgs = .ok overriddenParsed ∧
      ¬ FlagsKept loopbackOnly overriddenParsed.group (overriddenArgs.drop 3)
        overriddenParsed.selection := by
  refine ⟨by decide +kernel, fun hkept => ?_⟩
  have hflagged : lastFlag "--interface" (overriddenArgs.drop 3) = some "9" := by decide +kernel
  have hparsed : parseInterfaceValue loopbackOnly overriddenParsed.group "9" ≠
      .ok (none, some 10) := by decide +kernel
  exact hparsed (hkept.1 "9" hflagged).1

end RecvArgs

end McrxCore
