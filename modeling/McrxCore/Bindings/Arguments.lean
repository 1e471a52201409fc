import McrxCore.AddrText.RoundTrip
import McrxCore.Platform.Membership
import McrxCore.Python.Asyncio
import McrxCore.RecvArgs

/-!
# Subscriptions as text

The C interface and the Python module take a subscription as text, as the command line does.
Both bindings have the same functions; they differ in what they make of a message.
-/

namespace McrxCore

namespace Bindings

open RecvArgs

/-! ## Arguments -/

section Arguments

variable {ε : Type} (invalidArgument : String → ε) (ifNameToIndex : IfNameToIndex)

def parseIpAddr (raw field : String) : Except ε IpAddr :=
  match McrxCore.parseIpAddr raw.toList with
  | .error _ => .error (invalidArgument ("invalid " ++ field ++ " IP address: " ++ raw))
  | .ok addr => .ok addr

def parseOptionalIpAddr (raw : Option String) (field : String) : Except ε (Option IpAddr) :=
  match raw with
  | none => .ok none
  | some value => (parseIpAddr invalidArgument value field).map some

def interfaceNameToIndex (raw : List Char) : Except ε UInt32 :=
  if '\x00' ∈ raw then .error (invalidArgument "interface name must not contain NUL bytes")
  else if ifNameToIndex raw = 0 then
    .error (invalidArgument ("unknown interface name: " ++ String.ofList raw))
  else .ok (ifNameToIndex raw)

def parseInterfaceScope (raw : List Char) : Except ε UInt32 :=
  if raw.all Char.isDigit then
    match parseUnsigned (2 ^ 32) raw with
    | .error _ =>
      .error (invalidArgument ("invalid interface scope index: " ++ String.ofList raw))
    | .ok scope =>
      if scope = 0 then .error (invalidArgument "interface scope index must not be 0")
      else .ok (.ofNat scope)
  else interfaceNameToIndex invalidArgument ifNameToIndex raw

def parseInterfaceSelector (group : IpAddr) (raw : Option String) : Except ε ParsedInterface :=
  match raw with
  | none => .ok (none, none)
  | some raw =>
    match group with
    | .v4 _ => (parseIpAddr invalidArgument raw "interface").map fun addr => (some addr, none)
    | .v6 _ =>
      match rsplitOnce '%' raw.toList with
      | some (addr, scope) =>
        match parseIpv6Addr addr with
        | .error _ => .error (invalidArgument ("invalid interface IP address: " ++ raw))
        | .ok addr =>
          (parseInterfaceScope invalidArgument ifNameToIndex scope).map fun scope =>
            (some (.v6 addr), some scope)
      | none =>
        if raw.toList.all Char.isDigit then
          (parseInterfaceScope invalidArgument ifNameToIndex raw.toList).map fun scope =>
            (none, some scope)
        else (parseIpAddr invalidArgument raw "interface").map fun addr => (some addr, none)

def buildSubscriptionConfig (group : String) (dstPort : UInt16) (source interface : Option String) :
    Except ε SubscriptionConfig := do
  let group ← parseIpAddr invalidArgument group "group"
  let sourceAddr ← parseOptionalIpAddr invalidArgument source "source"
  let (interfaceAddr, interfaceIndex) ←
    parseInterfaceSelector invalidArgument ifNameToIndex group interface
  let config :=
    match sourceAddr with
    | some sourceAddr => SubscriptionConfig.ssm group sourceAddr dstPort
    | none => SubscriptionConfig.asm group dstPort
  .ok { config with interface := interfaceAddr, interfaceIndex := interfaceIndex }

end Arguments

end Bindings

namespace Ffi

/-- The functions of `mcrx-core-ffi` return the message. -/
def buildSubscriptionConfig (ifNameToIndex : RecvArgs.IfNameToIndex) (group : String)
    (dstPort : UInt16) (source interface : Option String) : Except String SubscriptionConfig :=
  Bindings.buildSubscriptionConfig id ifNameToIndex group dstPort source interface

end Ffi

namespace Python

/-- `invalid_argument`: a `ValueError` with the message. -/
def invalidArgument (message : String) : PyException :=
  { classes := [.valueError, .exception], text := message }

def buildSubscriptionConfig (ifNameToIndex : RecvArgs.IfNameToIndex) (group : String)
    (dstPort : UInt16) (source interface : Option String) :
    Except PyException SubscriptionConfig :=
  Bindings.buildSubscriptionConfig invalidArgument ifNameToIndex group dstPort source interface

end Python

/-- The configuration that `run` of `mcrx_recv` makes of its arguments. -/
def RecvArgs.ReceiveCliArgs.config (args : RecvArgs.ReceiveCliArgs) : SubscriptionConfig :=
  let config :=
    match args.source with
    | some source => SubscriptionConfig.ssm args.group source args.dstPort
    | none => SubscriptionConfig.asm args.group args.dstPort
  { config with interface := args.interface, interfaceIndex := args.interfaceIndex }

namespace Bindings

open RecvArgs

/-! ## The front ends agree -/

section Agreement

variable {ε : Type} (invalidArgument : String → ε) (ifNameToIndex : IfNameToIndex)

/-- Two front ends read the same value, whatever they say of a text without one. -/
def SameValue {ε ε' α : Type} (x : Except ε α) (y : Except ε' α) : Prop :=
  ∀ value, x = .ok value ↔ y = .ok value

theorem SameValue.map {ε ε' α β : Type} {x : Except ε α} {y : Except ε' α} (h : SameValue x y)
    (f : α → β) : SameValue (x.map f) (y.map f) := by
  intro value
  cases x with
  | ok a =>
    rw [(h a).mp rfl]
    simp [Except.map]
  | error e =>
    cases y with
    | ok a => exact absurd ((h a).mpr rfl) (by simp)
    | error e' => simp [Except.map]

theorem sameValue_parseIp (name field raw : String) :
    SameValue (parseIp name raw) (parseIpAddr invalidArgument raw field) := by
  intro value
  rw [parseIp, parseIpAddr]
  cases McrxCore.parseIpAddr raw.toList with
  | error e => simp
  | ok addr => simp

theorem sameValue_interfaceNameToIndex (raw : List Char) :
    SameValue (RecvArgs.interfaceNameToIndex ifNameToIndex raw)
      (interfaceNameToIndex invalidArgument ifNameToIndex raw) := by
  intro value
  rw [RecvArgs.interfaceNameToIndex, interfaceNameToIndex]
  split
  · simp
  · split
    · simp
    · simp

theorem sameValue_parseInterfaceScope (raw : List Char) :
    SameValue (RecvArgs.parseInterfaceScope ifNameToIndex raw)
      (parseInterfaceScope invalidArgument ifNameToIndex raw) := by
  intro value
  rw [RecvArgs.parseInterfaceScope, parseInterfaceScope]
  by_cases hdigits : raw.all Char.isDigit = true
  · rw [if_pos hdigits, if_pos hdigits]
    cases parseUnsigned (2 ^ 32) raw with
    | error e => simp
    | ok scope =>
      dsimp only
      split
      · simp
      · simp
  · rw [if_neg hdigits, if_neg hdigits]
    have hname := sameValue_interfaceNameToIndex invalidArgument ifNameToIndex raw
    cases hcli : RecvArgs.interfaceNameToIndex ifNameToIndex raw with
    | error e =>
      rw [hcli] at hname
      simpa using hname value
    | ok index =>
      rw [hcli] at hname
      exact hname value

theorem bind_ok_eq_map {ε α β : Type} (x : Except ε α) (f : α → β) :
    (x >>= fun value => .ok (f value)) = x.map f := by
  cases x <;> rfl

theorem sameValue_parseInterfaceSelector (group : IpAddr) (raw : String) :
    SameValue (parseInterfaceValue ifNameToIndex group raw)
      (parseInterfaceSelector invalidArgument ifNameToIndex group (some raw)) := by
  have haddr : SameValue (parseInterfaceAddr raw)
      ((parseIpAddr invalidArgument raw "interface").map fun addr => (some addr, none)) := by
    rw [parseInterfaceAddr, bind_ok_eq_map]
    exact (sameValue_parseIp invalidArgument "interface" "interface" raw).map _
  cases group with
  | v4 group => exact haddr
  | v6 group =>
    rw [parseInterfaceValue, parseInterfaceSelector]
    cases rsplitOnce '%' raw.toList with
    | none =>
      by_cases hdigits : raw.toList.all Char.isDigit = true
      · rw [if_pos hdigits, if_pos hdigits, bind_ok_eq_map]
        exact (sameValue_parseInterfaceScope invalidArgument ifNameToIndex _).map _
      · rw [if_neg hdigits, if_neg hdigits]
        exact haddr
    | some parts =>
      obtain ⟨addr, scope⟩ := parts
      dsimp only
      cases parseIpv6Addr addr with
      | error e => intro value; simp
      | ok addr =>
        dsimp only
        rw [bind_ok_eq_map]
        exact (sameValue_parseInterfaceScope invalidArgument ifNameToIndex scope).map _

/-- What the texts of the arguments stand for, by the functions of the command line. -/
structure Selects (group : String) (source interface : Option String) (groupAddr : IpAddr)
    (sourceAddr : Option IpAddr) (selector : ParsedInterface) : Prop where
  group : parseIp "group" group = .ok groupAddr
  source : source.elim (.ok none) sourceOf = .ok sourceAddr
  interface : interface.elim (.ok (none, none)) (parseInterfaceValue ifNameToIndex groupAddr) =
    .ok selector

/-- The configuration that a front end makes of its arguments. -/
def selectedConfig (groupAddr : IpAddr) (dstPort : UInt16) (sourceAddr : Option IpAddr)
    (selector : ParsedInterface) : SubscriptionConfig :=
  let config :=
    match sourceAddr with
    | some source => SubscriptionConfig.ssm groupAddr source dstPort
    | none => SubscriptionConfig.asm groupAddr dstPort
  { config with interface := selector.1, interfaceIndex := selector.2 }

theorem selectedConfig_group (groupAddr : IpAddr) (dstPort : UInt16) (sourceAddr : Option IpAddr)
    (selector : ParsedInterface) :
    (selectedConfig groupAddr dstPort sourceAddr selector).group = groupAddr := by
  cases sourceAddr <;> rfl

theorem sameValue_parseOptionalIpAddr (source : Option String) :
    SameValue (source.elim (.ok none) sourceOf)
      (parseOptionalIpAddr invalidArgument source "source") := by
  cases source with
  | none => intro value; exact ⟨fun h => congrArg Except.ok (Except.ok.inj h), fun h =>
      congrArg Except.ok (Except.ok.inj h)⟩
  | some source => exact (sameValue_parseIp invalidArgument "source" "source" source).map some

theorem sameValue_selector (group : IpAddr) (interface : Option String) :
    SameValue (interface.elim (.ok (none, none)) (parseInterfaceValue ifNameToIndex group))
      (parseInterfaceSelector invalidArgument ifNameToIndex group interface) := by
  cases interface with
  | none => intro value; exact ⟨fun h => congrArg Except.ok (Except.ok.inj h), fun h =>
      congrArg Except.ok (Except.ok.inj h)⟩
  | some raw => exact sameValue_parseInterfaceSelector invalidArgument ifNameToIndex group raw

theorem bind_eq_ok_iff {ε α β : Type} {x : Except ε α} {f : α → Except ε β} {b : β} :
    x >>= f = .ok b ↔ ∃ a, x = .ok a ∧ f a = .ok b := by
  constructor
  · intro h
    cases x with
    | error e => cases h
    | ok a => exact ⟨a, rfl, h⟩
  · rintro ⟨a, rfl, h⟩
    exact h

theorem buildSubscriptionConfig_ok_iff {group : String} {dstPort : UInt16}
    {source interface : Option String} {config : SubscriptionConfig} :
    buildSubscriptionConfig invalidArgument ifNameToIndex group dstPort source interface =
        .ok config ↔
      ∃ groupAddr sourceAddr selector,
        Selects ifNameToIndex group source interface groupAddr sourceAddr selector ∧
        selectedConfig groupAddr dstPort sourceAddr selector = config := by
  rw [buildSubscriptionConfig, bind_eq_ok_iff]
  constructor
  · rintro ⟨groupAddr, hgroup, h⟩
    obtain ⟨sourceAddr, hsource, h⟩ := bind_eq_ok_iff.mp h
    obtain ⟨selector, hselector, h⟩ := bind_eq_ok_iff.mp h
    refine ⟨groupAddr, sourceAddr, selector, ⟨?_, ?_, ?_⟩, Except.ok.inj h⟩
    · exact (sameValue_parseIp invalidArgument "group" "group" group groupAddr).mpr hgroup
    · exact (sameValue_parseOptionalIpAddr invalidArgument source sourceAddr).mpr hsource
    · exact (sameValue_selector invalidArgument ifNameToIndex groupAddr interface selector).mpr
        hselector
  · rintro ⟨groupAddr, sourceAddr, selector, hselects, rfl⟩
    refine ⟨groupAddr, (sameValue_parseIp invalidArgument "group" "group" group groupAddr).mp
      hselects.group, bind_eq_ok_iff.mpr ⟨sourceAddr, ?_, bind_eq_ok_iff.mpr ⟨selector, ?_, rfl⟩⟩⟩
    · exact (sameValue_parseOptionalIpAddr invalidArgument source sourceAddr).mp hselects.source
    · exact (sameValue_selector invalidArgument ifNameToIndex groupAddr interface selector).mp
        hselects.interface

def flagArgs (source interface : Option String) : List String :=
  source.elim [] (fun value => ["--source", value]) ++
    interface.elim [] (fun value => ["--interface", value])

theorem splitMixedArgs_flagArgs (source interface : Option String) :
    splitMixedArgs (flagArgs source interface) = .ok ([], flagArgs source interface) := by
  have hsource : isFlag "--source" = true := by decide
  have hinterface : isFlag "--interface" = true := by decide
  cases source <;> cases interface <;>
    simp [flagArgs, splitMixedArgs, hsource, hinterface] <;> rfl

theorem fillSource_nil (parsed : ParsedSourceAndInterface) :
    fillSource parsed [] = .ok (parsed, []) := by
  rw [fillSource.eq_def]
  cases parsed.source <;> rfl

theorem fillInterface_nil (group : IpAddr) (parsed : ParsedSourceAndInterface) :
    fillInterface ifNameToIndex group parsed [] = .ok (parsed, []) := by
  rw [fillInterface.eq_def]
  cases parsed.interface <;> rfl

/-- Flags leave no positional argument to fill in. -/
theorem parseMixedArgs_flagArgs (group : IpAddr) (source interface : Option String) :
    parseMixedArgs ifNameToIndex group (flagArgs source interface) =
      parseFlagArgs ifNameToIndex group (flagArgs source interface)
        { source := none, interface := none, interfaceIndex := none } := by
  rw [parseMixedArgs, splitMixedArgs_flagArgs]
  show (parseFlagArgs ifNameToIndex group (flagArgs source interface) _ >>= _) = _
  cases parseFlagArgs ifNameToIndex group (flagArgs source interface)
      { source := none, interface := none, interfaceIndex := none } with
  | error e => rfl
  | ok parsed =>
    show (fillSource parsed [] >>= _) = _
    rw [fillSource_nil]
    show (fillInterface ifNameToIndex group parsed [] >>= _) = _
    rw [fillInterface_nil]
    rfl

theorem parseFlagArgs_interface (group : IpAddr) (interface : Option String)
    (parsed : ParsedSourceAndInterface) (hnone : parsed.interface = none)
    (hnoIndex : parsed.interfaceIndex = none) :
    parseFlagArgs ifNameToIndex group (interface.elim [] fun value => ["--interface", value])
        parsed =
      (interface.elim (.ok (none, none)) (parseInterfaceValue ifNameToIndex group)).map
        fun selector =>
          { parsed with interface := selector.1, interfaceIndex := selector.2 } := by
  cases interface with
  | none =>
    obtain ⟨source, interface, index⟩ := parsed
    cases hnone
    cases hnoIndex
    rfl
  | some value =>
    rw [Option.elim_some, Option.elim_some, parseFlagArgs, if_neg (by decide), if_pos rfl]
    cases parseInterfaceValue ifNameToIndex group value with
    | error e => rfl
    | ok selector => rfl

theorem parseMixedArgs_flagArgs_iff {group : IpAddr} {source interface : Option String}
    {parsed : ParsedSourceAndInterface} :
    parseMixedArgs ifNameToIndex group (flagArgs source interface) = .ok parsed ↔
      source.elim (.ok none) sourceOf = .ok parsed.source ∧
        interface.elim (.ok (none, none)) (parseInterfaceValue ifNameToIndex group) =
          .ok (parsed.interface, parsed.interfaceIndex) := by
  have hflags : parseFlagArgs ifNameToIndex group (flagArgs source interface)
      { source := none, interface := none, interfaceIndex := none } =
        (source.elim (.ok none) sourceOf >>= fun source =>
          (interface.elim (.ok (none, none)) (parseInterfaceValue ifNameToIndex group)).map
            fun selector =>
              { source := source, interface := selector.1, interfaceIndex := selector.2 }) := by
    cases source with
    | none => exact parseFlagArgs_interface ifNameToIndex group interface _ rfl rfl
    | some value =>
      show parseFlagArgs ifNameToIndex group ("--source" :: value ::
        interface.elim [] fun value => ["--interface", value]) _ = _
      rw [parseFlagArgs, if_pos rfl, Option.elim_some, sourceOf]
      cases parseIp "source" value with
      | error e => rfl
      | ok addr => exact parseFlagArgs_interface ifNameToIndex group interface _ rfl rfl
  rw [parseMixedArgs_flagArgs, hflags, bind_eq_ok_iff]
  constructor
  · rintro ⟨sourceAddr, hsource, h⟩
    cases hselector : interface.elim (.ok (none, none)) (parseInterfaceValue ifNameToIndex group)
      with
    | error e =>
      rw [hselector] at h
      cases h
    | ok selector =>
      rw [hselector] at h
      cases h
      exact ⟨hsource, rfl⟩
  · rintro ⟨hsource, hinterface⟩
    refine ⟨parsed.source, hsource, ?_⟩
    rw [hinterface]
    rfl

/-- A command line with flags and a binding with the same texts make the same configuration;
the command line also checks the group and reads the port. -/
theorem commandLine_iff_binding (program group dstPort : String) (source interface : Option String)
    (config : SubscriptionConfig) :
    (∃ parsed, parseReceiveCliArgs ifNameToIndex
        (program :: group :: dstPort :: flagArgs source interface) = .ok parsed ∧
        parsed.config = config) ↔
      config.group.isMulticast = true ∧ ∃ port, parsePort dstPort = .ok port ∧
        buildSubscriptionConfig invalidArgument ifNameToIndex group port source interface =
          .ok config := by
  constructor
  · rintro ⟨parsed, h, rfl⟩
    rw [parseReceiveCliArgs] at h
    obtain ⟨groupAddr, hgroup, h⟩ := bind_eq_ok_iff.mp h
    obtain ⟨port, hport, h⟩ := bind_eq_ok_iff.mp h
    obtain ⟨selection, hselection, h⟩ := bind_eq_ok_iff.mp h
    obtain ⟨hsource, hinterface⟩ := (parseMixedArgs_flagArgs_iff ifNameToIndex).mp hselection
    by_cases hmulticast : groupAddr.isMulticast = true
    · rw [hmulticast] at h
      cases h
      refine ⟨?_, port, hport, (buildSubscriptionConfig_ok_iff invalidArgument
        ifNameToIndex).mpr ⟨groupAddr, selection.source, _, ⟨hgroup, hsource, hinterface⟩, rfl⟩⟩
      have hsame := selectedConfig_group groupAddr port selection.source
        (selection.interface, selection.interfaceIndex)
      exact (congrArg IpAddr.isMulticast hsame).trans hmulticast
    · rw [Bool.not_eq_true] at hmulticast
      rw [hmulticast] at h
      cases h
  · rintro ⟨hmulticast, port, hport, h⟩
    obtain ⟨groupAddr, sourceAddr, selector, hselects, rfl⟩ :=
      (buildSubscriptionConfig_ok_iff invalidArgument ifNameToIndex).mp h
    rw [selectedConfig_group] at hmulticast
    have hmixed : parseMixedArgs ifNameToIndex groupAddr (flagArgs source interface) =
        .ok
          { source := sourceAddr
            interface := selector.1
            interfaceIndex := selector.2 } :=
      (parseMixedArgs_flagArgs_iff ifNameToIndex).mpr ⟨hselects.source, hselects.interface⟩
    refine ⟨
      { group := groupAddr
        dstPort := port
        source := sourceAddr
        interface := selector.1
        interfaceIndex := selector.2 }, ?_, rfl⟩
    rw [parseReceiveCliArgs, hselects.group]
    show (parsePort dstPort >>= _) = _
    rw [hport]
    show (parseMixedArgs ifNameToIndex groupAddr (flagArgs source interface) >>= _) = _
    rw [hmixed]
    show (if (!groupAddr.isMulticast) = true then _ else _) = _
    rw [hmulticast]
    rfl

end Agreement

/-! ## Writing a configuration -/

def selectorText : Option IpAddr → Option UInt32 → Option String
  | none, none => none
  | some addr, none => some addr.display
  | none, some index => some (toString index.toNat)
  | some addr, some index => some (addr.display ++ "%" ++ toString index.toNat)

theorem rsplitOnce_append {separator : Char} {scope : List Char} (h : separator ∉ scope)
    (value : List Char) :
    rsplitOnce separator (value ++ separator :: scope) = some (value, scope) := by
  induction value with
  | nil =>
    rw [List.nil_append, rsplitOnce, rsplitOnce_eq_none h]
    exact if_pos rfl
  | cons c rest ih =>
    rw [List.cons_append, rsplitOnce, ih]

theorem all_isDigit_toDigits (n : Nat) : (Nat.toDigits 10 n).all Char.isDigit = true :=
  List.all_eq_true.mpr fun _ h => Nat.isDigit_of_mem_toDigits (by decide) (by decide) h

theorem percent_not_mem_toDigits (n : Nat) : '%' ∉ Nat.toDigits 10 n :=
  not_mem_toDigits (by decide) (by decide) (by decide) n

variable (ifNameToIndex : IfNameToIndex)

theorem parseIp_display (name : String) (addr : IpAddr) :
    parseIp name addr.display = .ok addr := by
  rw [parseIp, parseIpAddr_display]

theorem parseInterfaceScope_toDigits {index : UInt32} (h : index ≠ 0) :
    RecvArgs.parseInterfaceScope ifNameToIndex (Nat.toDigits 10 index.toNat) = .ok index := by
  have hnonzero : index.toNat ≠ 0 := fun hzero => h (UInt32.toNat_inj.mp hzero)
  rw [RecvArgs.parseInterfaceScope, if_pos (all_isDigit_toDigits _),
    parseUnsigned_toDigits index.toNat_lt]
  dsimp only
  rw [if_neg hnonzero, UInt32.ofNat_toNat]

theorem parseInterfaceAddr_display (addr : IpAddr) :
    parseInterfaceAddr addr.display = .ok (some addr, none) := by
  rw [parseInterfaceAddr, parseIp_display]
  rfl

/-- An IPv6 address of the interface, alone and with its zone. -/
theorem parseInterfaceValue_display (group addr : Ipv6Addr) :
    parseInterfaceValue ifNameToIndex (.v6 group) addr.display = .ok (some (.v6 addr), none) := by
  have hdigits : ¬ addr.display.toList.all Char.isDigit = true := fun hall => by
    have hcolon := List.all_eq_true.mp hall ':' addr.colon_mem_display
    revert hcolon
    decide
  rw [parseInterfaceValue, rsplitOnce_eq_none addr.percent_not_mem_display]
  dsimp only
  rw [if_neg hdigits]
  exact parseInterfaceAddr_display (.v6 addr)

theorem parseInterfaceValue_scoped (group addr : Ipv6Addr) {index : UInt32} (h : index ≠ 0) :
    parseInterfaceValue ifNameToIndex (.v6 group)
        (addr.display ++ "%" ++ toString index.toNat) =
      .ok (some (.v6 addr), some index) := by
  have htext : (addr.display ++ "%" ++ toString index.toNat).toList =
      addr.display.toList ++ '%' :: Nat.toDigits 10 index.toNat := by
    rw [String.toList_append, String.toList_append, toList_toString, List.append_assoc]
    rfl
  rw [parseInterfaceValue, htext, rsplitOnce_append (percent_not_mem_toDigits _)]
  dsimp only
  rw [parseIpv6Addr_display]
  dsimp only
  rw [parseInterfaceScope_toDigits ifNameToIndex h]
  rfl

theorem parseInterfaceValue_index (group : Ipv6Addr) {index : UInt32} (h : index ≠ 0) :
    parseInterfaceValue ifNameToIndex (.v6 group) (toString index.toNat) =
      .ok (none, some index) := by
  rw [parseInterfaceValue, toList_toString, rsplitOnce_eq_none (percent_not_mem_toDigits _)]
  dsimp only
  rw [if_pos (all_isDigit_toDigits _), parseInterfaceScope_toDigits ifNameToIndex h]
  rfl

theorem index_ne_zero_of_validate {config : SubscriptionConfig} (h : config.validate = .ok ())
    {index : UInt32} (hindex : config.interfaceIndex = some index) : index ≠ 0 := by
  have hchecked := Membership.validateMulticastSelection_interface
    (Membership.selection_of_validate h)
  rw [hindex, validateInterface.eq_def] at hchecked
  rintro rfl
  split at hchecked
  · cases hchecked
  · cases hchecked

/-- The interface of a validated configuration is read back from its text. -/
theorem parseInterfaceValue_selectorText {config : SubscriptionConfig}
    (h : config.validate = .ok ()) :
    (selectorText config.interface config.interfaceIndex).elim (.ok (none, none))
        (parseInterfaceValue ifNameToIndex config.group) =
      .ok (config.interface, config.interfaceIndex) := by
  obtain ⟨hfamily, hipv4⟩ := Membership.validateInterface_eq_ok
    (Membership.validateMulticastSelection_interface (Membership.selection_of_validate h))
  have hindex := @index_ne_zero_of_validate config h
  obtain ⟨group, source, dstPort, interface, interfaceIndex⟩ := config
  dsimp only at hfamily hipv4 hindex ⊢
  cases group with
  | v4 group =>
    cases hipv4 rfl
    cases interface with
    | none => rfl
    | some addr => exact parseInterfaceAddr_display addr
  | v6 group =>
    cases interface with
    | none =>
      cases interfaceIndex with
      | none => rfl
      | some index => exact parseInterfaceValue_index ifNameToIndex group (hindex rfl)
    | some addr =>
      cases addr with
      | v4 addr => cases hfamily _ rfl
      | v6 addr =>
        cases interfaceIndex with
        | none => exact parseInterfaceValue_display ifNameToIndex group addr
        | some index => exact parseInterfaceValue_scoped ifNameToIndex group addr (hindex rfl)

theorem selects_display {config : SubscriptionConfig} (h : config.validate = .ok ()) :
    Selects ifNameToIndex config.group.display (config.sourceAddr.map IpAddr.display)
      (selectorText config.interface config.interfaceIndex) config.group config.sourceAddr
      (config.interface, config.interfaceIndex) where
  group := parseIp_display "group" config.group
  source := by
    cases config.sourceAddr with
    | none => rfl
    | some source =>
      show sourceOf source.display = _
      rw [sourceOf, parseIp_display]
      rfl
  interface := parseInterfaceValue_selectorText ifNameToIndex h

theorem selectedConfig_eq (config : SubscriptionConfig) :
    selectedConfig config.group config.dstPort config.sourceAddr
      (config.interface, config.interfaceIndex) = config := by
  obtain ⟨group, source, dstPort, interface, interfaceIndex⟩ := config
  cases source <;> rfl

theorem buildSubscriptionConfig_display {ε : Type} (invalidArgument : String → ε)
    {config : SubscriptionConfig} (h : config.validate = .ok ()) :
    buildSubscriptionConfig invalidArgument ifNameToIndex config.group.display config.dstPort
        (config.sourceAddr.map IpAddr.display)
        (selectorText config.interface config.interfaceIndex) = .ok config :=
  (buildSubscriptionConfig_ok_iff invalidArgument ifNameToIndex).mpr
    ⟨config.group, config.sourceAddr, _, selects_display ifNameToIndex h, selectedConfig_eq config⟩

theorem parsePort_toString {port : UInt16} (h : port ≠ 0) :
    parsePort (toString port.toNat) = .ok port := by
  have hnonzero : port.toNat ≠ 0 := fun hzero => h (UInt16.toNat_inj.mp hzero)
  rw [parsePort, toList_toString, parseUnsigned_toDigits port.toNat_lt]
  dsimp only
  rw [if_neg hnonzero, UInt16.ofNat_toNat]

theorem dstPort_ne_zero_of_validate {config : SubscriptionConfig} (h : config.validate = .ok ()) :
    config.dstPort ≠ 0 := by
  intro hzero
  rw [SubscriptionConfig.validate, if_pos hzero] at h
  cases h

end Bindings

open Bindings RecvArgs in
/-- Every configuration that a context accepts can be given as text, to the C interface, to the
Python module and on the command line. -/
theorem front_ends_read_back (ifNameToIndex : IfNameToIndex) (program : String)
    (config : SubscriptionConfig) (h : config.validate = .ok ()) :
    Ffi.buildSubscriptionConfig ifNameToIndex config.group.display config.dstPort
        (config.sourceAddr.map IpAddr.display)
        (selectorText config.interface config.interfaceIndex) = .ok config ∧
      Python.buildSubscriptionConfig ifNameToIndex config.group.display config.dstPort
        (config.sourceAddr.map IpAddr.display)
        (selectorText config.interface config.interfaceIndex) = .ok config ∧
      ∃ parsed, parseReceiveCliArgs ifNameToIndex (program :: config.group.display ::
          toString config.dstPort.toNat :: flagArgs (config.sourceAddr.map IpAddr.display)
            (selectorText config.interface config.interfaceIndex)) = .ok parsed ∧
        parsed.config = config := by
  have hffi := buildSubscriptionConfig_display ifNameToIndex id h
  have hport := parsePort_toString (dstPort_ne_zero_of_validate h)
  have hmulticast := validateMulticastSelection_isMulticast (Membership.selection_of_validate h)
  exact ⟨hffi, buildSubscriptionConfig_display ifNameToIndex Python.invalidArgument h,
    (commandLine_iff_binding id ifNameToIndex program _ _ _ _ config).mpr
      ⟨hmulticast, config.dstPort, hport, hffi⟩⟩

def scopedConfig : SubscriptionConfig :=
  { group := .v6 (.ofSegments [0xff12, 0, 0, 0, 0, 0, 0x8000, 0x1234])
    source := .any
    dstPort := 5000
    interface := some (.v6 (.ofSegments [0xfe80, 0, 0, 0, 0, 0, 0, 1]))
    interfaceIndex := some 7 }

open Bindings RecvArgs in
theorem front_ends_read_back_scoped :
    Ffi.buildSubscriptionConfig loopbackOnly scopedConfig.group.display 5000 none
        (some "fe80::1%7") = .ok scopedConfig ∧
      Python.buildSubscriptionConfig loopbackOnly scopedConfig.group.display 5000 none
        (some "fe80::1%7") = .ok scopedConfig ∧
      ∃ parsed, parseReceiveCliArgs loopbackOnly
          ["mcrx-recv", scopedConfig.group.display, "5000", "--interface", "fe80::1%7"] =
            .ok parsed ∧ parsed.config = scopedConfig := by
  have htext : selectorText scopedConfig.interface scopedConfig.interfaceIndex =
      some "fe80::1%7" := by decide +kernel
  have hport : toString scopedConfig.dstPort.toNat = "5000" := by decide +kernel
  have h := front_ends_read_back loopbackOnly "mcrx-recv" scopedConfig (by decide +kernel)
  rw [htext, hport] at h
  exact h

open Bindings RecvArgs in
/-- The bindings take the same texts, and the command line the same but for its own checks. -/
theorem front_ends_agree (ifNameToIndex : IfNameToIndex)
    (program group dstPort : String) (source interface : Option String)
    (config : SubscriptionConfig) :
    (∀ port, Python.buildSubscriptionConfig ifNameToIndex group port source interface =
        .ok config ↔
      Ffi.buildSubscriptionConfig ifNameToIndex group port source interface = .ok config) ∧
    ((∃ parsed, parseReceiveCliArgs ifNameToIndex
        (program :: group :: dstPort :: flagArgs source interface) = .ok parsed ∧
        parsed.config = config) ↔
      config.group.isMulticast = true ∧ ∃ port, parsePort dstPort = .ok port ∧
        Ffi.buildSubscriptionConfig ifNameToIndex group port source interface = .ok config) :=
  ⟨fun _ => (buildSubscriptionConfig_ok_iff _ ifNameToIndex).trans
      (buildSubscriptionConfig_ok_iff _ ifNameToIndex).symm,
    commandLine_iff_binding id ifNameToIndex program group dstPort source interface config⟩

end McrxCore
