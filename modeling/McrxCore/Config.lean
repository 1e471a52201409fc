import McrxCore.Error

/-!
# Addresses and subscription configurations

The address types are the octet arrays of `std::net`, with the classification
predicates the configuration checks call.  `RawSubscriptionConfig` and its
`validate` follow `raw/config.rs`, and both configuration types share
`validateMulticastSelection` from `config.rs`.
-/

namespace McrxCore

/-! ## Addresses -/

structure Ipv4Addr where
  octets : Vector UInt8 4
  deriving DecidableEq, Repr

structure Ipv6Addr where
  octets : Vector UInt8 16
  deriving DecidableEq, Repr

inductive IpAddr where
  | v4 (addr : Ipv4Addr)
  | v6 (addr : Ipv6Addr)
  deriving DecidableEq, Repr

namespace Ipv4Addr

def new (a b c d : UInt8) : Ipv4Addr := ⟨#v[a, b, c, d]⟩

/-- `224.0.0.0/4`. -/
def isMulticast (addr : Ipv4Addr) : Bool :=
  decide ((224 : UInt8) ≤ addr.octets[0]) && decide (addr.octets[0] ≤ (239 : UInt8))

def isUnspecified (addr : Ipv4Addr) : Bool := addr == new 0 0 0 0

def isBroadcast (addr : Ipv4Addr) : Bool := addr == new 255 255 255 255

end Ipv4Addr

namespace Ipv6Addr

def unspecified : Ipv6Addr := ⟨Vector.replicate 16 0⟩

/-- `ff00::/8`. -/
def isMulticast (addr : Ipv6Addr) : Bool := addr.octets[0] == 0xff

def isUnspecified (addr : Ipv6Addr) : Bool := addr == unspecified

end Ipv6Addr

namespace IpAddr

def isMulticast : IpAddr → Bool
  | .v4 addr => addr.isMulticast
  | .v6 addr => addr.isMulticast

/-- The address bytes in network order. -/
def octets : IpAddr → List UInt8
  | .v4 addr => addr.octets.toList
  | .v6 addr => addr.octets.toList

end IpAddr

/-! ## Configurations -/

inductive SubscriptionAddressFamily where
  | ipv4
  | ipv6
  deriving DecidableEq, Repr

def IpAddr.family : IpAddr → SubscriptionAddressFamily
  | .v4 _ => .ipv4
  | .v6 _ => .ipv6

inductive SourceFilter where
  | any
  | source (addr : IpAddr)
  deriving DecidableEq, Repr

structure SubscriptionConfig where
  group : IpAddr
  source : SourceFilter
  dstPort : UInt16
  interface : Option IpAddr
  interfaceIndex : Option UInt32
  deriving DecidableEq, Repr

structure RawSubscriptionConfig where
  group : IpAddr
  source : SourceFilter
  interface : Option IpAddr
  interfaceIndex : Option UInt32
  deriving DecidableEq, Repr

def sameFamily : IpAddr → IpAddr → Bool
  | .v4 _, .v4 _ => true
  | .v6 _, .v6 _ => true
  | _, _ => false

def isIpv4SsmGroup (group : Ipv4Addr) : Bool := group.octets[0] == 232

def isIpv6SsmGroup (group : Ipv6Addr) : Bool :=
  group.octets[0] == 0xff && group.octets[1] >>> 4 == 0x3 &&
    group.octets[2] == 0 && group.octets[3] == 0

def isValidSourceAddress : IpAddr → Bool
  | .v4 source => !source.isUnspecified && !source.isMulticast && !source.isBroadcast
  | .v6 source => !source.isUnspecified && !source.isMulticast

def groupIsSsm : IpAddr → Bool
  | .v4 group => isIpv4SsmGroup group
  | .v6 group => isIpv6SsmGroup group

/-- The source-filter block of `validate_multicast_selection`. -/
def validateSource (group : IpAddr) : SourceFilter → Except McrxError Unit
  | .any => .ok ()
  | .source source =>
    if !isValidSourceAddress source then .error .invalidSourceAddress
    else if !sameFamily group source then .error .sourceAddressFamilyMismatch
    else match group, source with
      | .v4 group, .v4 _ =>
        if !isIpv4SsmGroup group then .error .invalidIpv4SsmGroup else .ok ()
      | .v6 group, .v6 _ =>
        if !isIpv6SsmGroup group then .error .invalidIpv6SsmGroup else .ok ()
      | _, _ => .ok ()

/-- The interface-address and interface-index blocks of
`validate_multicast_selection`. -/
def validateInterface (group : IpAddr) (interface : Option IpAddr)
    (interfaceIndex : Option UInt32) : Except McrxError Unit :=
  if interface.any (fun addr => !sameFamily group addr) then
    .error .interfaceAddressFamilyMismatch
  else match interfaceIndex with
    | none => .ok ()
    | some index =>
      if index = 0 then .error .invalidInterfaceIndex
      else match group with
        | .v6 _ => .ok ()
        | .v4 _ => .error .interfaceIndexRequiresIpv6

def validateMulticastSelection (group : IpAddr) (source : SourceFilter)
    (interface : Option IpAddr) (interfaceIndex : Option UInt32) :
    Except McrxError Unit :=
  if !group.isMulticast then .error .invalidMulticastGroup
  else if source = .any ∧ groupIsSsm group then .error .ssmGroupRequiresSource
  else match validateSource group source with
    | .error e => .error e
    | .ok () => validateInterface group interface interfaceIndex

namespace SubscriptionConfig

def family (config : SubscriptionConfig) : SubscriptionAddressFamily := config.group.family

/-- `SubscriptionConfig::asm_ip`. -/
def asm (group : IpAddr) (dstPort : UInt16) : SubscriptionConfig :=
  { group := group, source := .any, dstPort := dstPort, interface := none, interfaceIndex := none }

/-- `SubscriptionConfig::ssm_ip`. -/
def ssm (group source : IpAddr) (dstPort : UInt16) : SubscriptionConfig :=
  { group := group
    source := .source source
    dstPort := dstPort
    interface := none
    interfaceIndex := none }

def validate (config : SubscriptionConfig) : Except McrxError Unit :=
  if config.dstPort = 0 then .error .invalidDestinationPort
  else validateMulticastSelection config.group config.source config.interface
    config.interfaceIndex

end SubscriptionConfig

namespace RawSubscriptionConfig

def validate (config : RawSubscriptionConfig) : Except McrxError Unit :=
  validateMulticastSelection config.group config.source config.interface
    config.interfaceIndex

def family (config : RawSubscriptionConfig) : SubscriptionAddressFamily :=
  config.group.family

def isIpv4 (config : RawSubscriptionConfig) : Bool := config.family == .ipv4

def sourceAddr (config : RawSubscriptionConfig) : Option IpAddr :=
  match config.source with
  | .any => none
  | .source source => some source

/-- `RawSubscriptionConfig::asm_ip`. -/
def asm (group : IpAddr) : RawSubscriptionConfig :=
  { group := group, source := .any, interface := none, interfaceIndex := none }

/-- `RawSubscriptionConfig::ssm_ip`. -/
def ssm (group source : IpAddr) : RawSubscriptionConfig :=
  { group := group, source := .source source, interface := none, interfaceIndex := none }

def membershipCompatConfig (config : RawSubscriptionConfig) : SubscriptionConfig :=
  { group := config.group
    source := config.source
    dstPort := 1
    interface := config.interface
    interfaceIndex := config.interfaceIndex }

end RawSubscriptionConfig

/-! ## What validation establishes -/

theorem sameFamily_eq (a b : IpAddr) : sameFamily a b = decide (a.family = b.family) := by
  cases a <;> cases b <;> rfl

theorem validateMulticastSelection_isMulticast {group : IpAddr} {source : SourceFilter}
    {interface : Option IpAddr} {interfaceIndex : Option UInt32}
    (h : validateMulticastSelection group source interface interfaceIndex = .ok ()) :
    group.isMulticast = true := by
  unfold validateMulticastSelection at h
  by_cases hg : group.isMulticast = true
  · exact hg
  · rw [if_pos (by simpa using hg)] at h
    cases h

/-- A validated source belongs to the family of the group. -/
theorem validateSource_family {group source : IpAddr}
    (h : validateSource group (.source source) = .ok ()) : source.family = group.family := by
  simp only [validateSource] at h
  split at h
  · cases h
  · by_cases hf : sameFamily group source = true
    · rw [sameFamily_eq, decide_eq_true_eq] at hf
      exact hf.symm
    · rw [if_pos (by simpa using hf)] at h
      cases h

theorem validateMulticastSelection_source {group : IpAddr} {source : SourceFilter}
    {interface : Option IpAddr} {interfaceIndex : Option UInt32}
    (h : validateMulticastSelection group source interface interfaceIndex = .ok ()) :
    validateSource group source = .ok () := by
  unfold validateMulticastSelection at h
  split at h
  · cases h
  · split at h
    · cases h
    · split at h
      · cases h
      · assumption

namespace RawSubscriptionConfig

variable {config : RawSubscriptionConfig}

theorem isMulticast_of_validate (h : config.validate = .ok ()) :
    config.group.isMulticast = true :=
  validateMulticastSelection_isMulticast h

/-- Every source a validated configuration filters on has the group's family. -/
theorem source_family_of_validate (h : config.validate = .ok ()) {source : IpAddr}
    (hs : config.source = .source source) : source.family = config.family :=
  validateSource_family (hs ▸ validateMulticastSelection_source h)

theorem source_eq_of_sourceAddr {source : IpAddr} (hs : config.sourceAddr = some source) :
    config.source = .source source := by
  unfold sourceAddr at hs
  split at hs
  · cases hs
  · cases hs
    assumption

theorem sourceAddr_family_of_validate (h : config.validate = .ok ()) {source : IpAddr}
    (hs : config.sourceAddr = some source) : source.family = config.family :=
  source_family_of_validate h (source_eq_of_sourceAddr hs)

end RawSubscriptionConfig

end McrxCore
