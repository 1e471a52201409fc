import McrxCore.Lib.BigEndian
import McrxCore.Packet

/-!
# Parsing captured IP datagrams

`parseIpDatagram` reads the header fields the receive paths use, and
`packetMatchesConfig` is the per-subscription filter over them.
-/

namespace McrxCore

open BigEndian

structure ParsedIpDatagram where
  sourceIp : IpAddr
  destinationIp : IpAddr
  protocol : UInt8
  datagramLen : Nat
  deriving DecidableEq, Repr

def parseIpv4Datagram (datagram : List UInt8) : Option ParsedIpDatagram :=
  if h : datagram.length < 20 then none
  else
    let ihl := (datagram[0] &&& 0x0f).toNat * 4
    if ihl < 20 ∨ datagram.length < ihl then none
    else
      let datagramLen := be16 datagram[2] datagram[3]
      if datagramLen < ihl ∨ datagram.length < datagramLen then none
      else some
        { sourceIp := .v4 (.new datagram[12] datagram[13] datagram[14] datagram[15])
          destinationIp := .v4 (.new datagram[16] datagram[17] datagram[18] datagram[19])
          protocol := datagram[9]
          datagramLen := datagramLen }

/-- The sixteen bytes from `start` as an address. -/
def ipv6AddrAt (datagram : List UInt8) (start : Nat) (h : start + 16 ≤ datagram.length) :
    Ipv6Addr :=
  ⟨⟨((datagram.drop start).take 16).toArray, by simp; omega⟩⟩

def parseIpv6Datagram (datagram : List UInt8) : Option ParsedIpDatagram :=
  if h : datagram.length < 40 then none
  else
    let payloadLen := be16 datagram[4] datagram[5]
    -- A jumbogram: zero payload length with a hop-by-hop header.
    if payloadLen = 0 ∧ datagram[6] = 0 then none
    else
      let datagramLen := 40 + payloadLen
      if datagram.length < datagramLen then none
      else some
        { sourceIp := .v6 (ipv6AddrAt datagram 8 (by omega))
          destinationIp := .v6 (ipv6AddrAt datagram 24 (by omega))
          protocol := datagram[6]
          datagramLen := datagramLen }

def parseIpDatagram (datagram : List UInt8) : Option ParsedIpDatagram :=
  match datagram.head?.map (· >>> (4 : UInt8)) with
  | none => none
  | some version =>
    if version = 4 then parseIpv4Datagram datagram
    else if version = 6 then parseIpv6Datagram datagram
    else none

def packetMatchesConfig (parsed : ParsedIpDatagram) (config : RawSubscriptionConfig) : Bool :=
  if config.family ≠ parsed.destinationIp.family then false
  else if parsed.destinationIp ≠ config.group then false
  else match config.source with
    | .any => true
    | .source source => parsed.sourceIp == source

def rawPacketFromParts (subscriptionId : SubscriptionId) (datagram : List UInt8)
    (parsed : ParsedIpDatagram) (metadata : ReceiveMetadata) : RawPacket :=
  { subscriptionId := subscriptionId
    datagram := datagram.take parsed.datagramLen
    sourceIp := some parsed.sourceIp
    group := some parsed.destinationIp
    ipProtocol := some parsed.protocol
    metadata := metadata }

/-! ## Where the parsed fields stand in the datagram -/

/-- `octets` are the bytes of `datagram` from `start`. -/
def BytesAt (datagram : List UInt8) (start : Nat) (octets : List UInt8) : Prop :=
  (datagram.drop start).take octets.length = octets

theorem BytesAt.getElem? {datagram octets : List UInt8} {start i : Nat}
    (h : BytesAt datagram start octets) (hi : i < octets.length) :
    datagram[start + i]? = octets[i]? := by
  have hslice : ((datagram.drop start).take octets.length)[i]? = octets[i]? := by rw [h]
  rwa [List.getElem?_take_of_lt hi, List.getElem?_drop] at hslice

theorem take_four_drop {datagram : List UInt8} (start : Nat)
    (h : start + 3 < datagram.length) :
    (datagram.drop start).take 4 =
      [datagram[start], datagram[start + 1], datagram[start + 2], datagram[start + 3]] := by
  apply List.ext_getElem
  · simp; omega
  · intro i h₁ h₂
    simp only [List.length_cons, List.length_nil] at h₂
    rw [List.getElem_take, List.getElem_drop]
    rcases (by omega : i = 0 ∨ i = 1 ∨ i = 2 ∨ i = 3) with rfl | rfl | rfl | rfl <;> rfl

def ipVersion : SubscriptionAddressFamily → UInt8
  | .ipv4 => 4
  | .ipv6 => 6

def ipHeaderLen : SubscriptionAddressFamily → Nat
  | .ipv4 => 20
  | .ipv6 => 40

def sourceStart : SubscriptionAddressFamily → Nat
  | .ipv4 => 12
  | .ipv6 => 8

def destinationStart : SubscriptionAddressFamily → Nat
  | .ipv4 => 16
  | .ipv6 => 24

/-- The header layout of an accepted datagram: the version nibble, the length
bounds, and the two addresses at their offsets. -/
structure HeaderLayout (datagram : List UInt8) (parsed : ParsedIpDatagram)
    (family : SubscriptionAddressFamily) : Prop where
  version : datagram.head?.map (· >>> (4 : UInt8)) = some (ipVersion family)
  sourceFamily : parsed.sourceIp.family = family
  destinationFamily : parsed.destinationIp.family = family
  headerLen_le : ipHeaderLen family ≤ parsed.datagramLen
  datagramLen_le : parsed.datagramLen ≤ datagram.length
  source : BytesAt datagram (sourceStart family) parsed.sourceIp.octets
  destination : BytesAt datagram (destinationStart family) parsed.destinationIp.octets

/-- What `parseIpv4Datagram` accepts. -/
theorem parseIpv4Datagram_some {datagram : List UInt8} {parsed : ParsedIpDatagram}
    (h : parseIpv4Datagram datagram = some parsed) :
    ∃ hlen : 20 ≤ datagram.length,
      20 ≤ (datagram[0] &&& 0x0f).toNat * 4 ∧
      (datagram[0] &&& 0x0f).toNat * 4 ≤ be16 datagram[2] datagram[3] ∧
      be16 datagram[2] datagram[3] ≤ datagram.length ∧
      parsed =
        { sourceIp := .v4 (.new datagram[12] datagram[13] datagram[14] datagram[15])
          destinationIp := .v4 (.new datagram[16] datagram[17] datagram[18] datagram[19])
          protocol := datagram[9]
          datagramLen := be16 datagram[2] datagram[3] } := by
  simp only [parseIpv4Datagram] at h
  split at h
  · cases h
  · rename_i hlen
    split at h
    · cases h
    · rename_i hihl
      split at h
      · cases h
      · rename_i htotal
        cases h
        exact ⟨by omega, by omega, by omega, by omega, rfl⟩

theorem parseIpv4Datagram_layout {datagram : List UInt8} {parsed : ParsedIpDatagram}
    (hv : datagram.head?.map (· >>> (4 : UInt8)) = some 4)
    (h : parseIpv4Datagram datagram = some parsed) : HeaderLayout datagram parsed .ipv4 := by
  obtain ⟨hlen, hihl, htotal, hend, rfl⟩ := parseIpv4Datagram_some h
  exact ⟨hv, rfl, rfl, hihl.trans htotal, hend, take_four_drop 12 (by omega),
    take_four_drop 16 (by omega)⟩

theorem ipv6AddrAt_octets {datagram : List UInt8} {start : Nat}
    (h : start + 16 ≤ datagram.length) :
    BytesAt datagram start (IpAddr.v6 (ipv6AddrAt datagram start h)).octets := by
  simp [BytesAt, ipv6AddrAt, IpAddr.octets, Vector.toList]

/-- What `parseIpv6Datagram` accepts. -/
theorem parseIpv6Datagram_some {datagram : List UInt8} {parsed : ParsedIpDatagram}
    (h : parseIpv6Datagram datagram = some parsed) :
    ∃ hlen : 40 ≤ datagram.length,
      ¬ (be16 datagram[4] datagram[5] = 0 ∧ datagram[6] = 0) ∧
      40 + be16 datagram[4] datagram[5] ≤ datagram.length ∧
      parsed =
        { sourceIp := .v6 (ipv6AddrAt datagram 8 (by omega))
          destinationIp := .v6 (ipv6AddrAt datagram 24 (by omega))
          protocol := datagram[6]
          datagramLen := 40 + be16 datagram[4] datagram[5] } := by
  simp only [parseIpv6Datagram] at h
  split at h
  · cases h
  · rename_i hlen
    split at h
    · cases h
    · rename_i hjumbo
      split at h
      · cases h
      · rename_i htotal
        cases h
        exact ⟨by omega, hjumbo, by omega, rfl⟩

theorem parseIpv6Datagram_layout {datagram : List UInt8} {parsed : ParsedIpDatagram}
    (hv : datagram.head?.map (· >>> (4 : UInt8)) = some 6)
    (h : parseIpv6Datagram datagram = some parsed) : HeaderLayout datagram parsed .ipv6 := by
  obtain ⟨hlen, -, hend, rfl⟩ := parseIpv6Datagram_some h
  exact ⟨hv, rfl, rfl, Nat.le_add_right _ _, hend, ipv6AddrAt_octets _, ipv6AddrAt_octets _⟩

/-- Every accepted datagram has the IPv4 or the IPv6 layout. -/
theorem parseIpDatagram_layout {datagram : List UInt8} {parsed : ParsedIpDatagram}
    (h : parseIpDatagram datagram = some parsed) :
    HeaderLayout datagram parsed parsed.destinationIp.family := by
  unfold parseIpDatagram at h
  split at h
  · cases h
  · rename_i version hv
    split at h
    · rename_i h4
      have hlayout := parseIpv4Datagram_layout (h4 ▸ hv) h
      rwa [hlayout.destinationFamily]
    · split at h
      · rename_i h6
        have hlayout := parseIpv6Datagram_layout (h6 ▸ hv) h
        rwa [hlayout.destinationFamily]
      · cases h

theorem packetMatchesConfig_iff {parsed : ParsedIpDatagram} {config : RawSubscriptionConfig} :
    packetMatchesConfig parsed config = true ↔
      parsed.destinationIp = config.group ∧
        ∀ source, config.sourceAddr = some source → parsed.sourceIp = source := by
  unfold packetMatchesConfig
  by_cases hg : parsed.destinationIp = config.group
  · have hf : config.family = parsed.destinationIp.family := by
      rw [hg, RawSubscriptionConfig.family]
    rw [if_neg (by simp [hf]), if_neg (by simp [hg])]
    cases hs : config.source with
    | any => simp [hg, RawSubscriptionConfig.sourceAddr, hs]
    | source source => simp [hg, RawSubscriptionConfig.sourceAddr, hs]
  · by_cases hf : config.family = parsed.destinationIp.family
    · simp [hf, hg]
    · simp [hf, hg]

end McrxCore
