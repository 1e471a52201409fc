import McrxCore.Lib.Slice
import McrxCore.Platform.Datagram

/-!
# Trimming captured datagrams

The parsers of `platform/raw.rs` as they index, each index and range checked, have no
fault and are the parsers of `Platform/Datagram.lean`.  The bytes that a packet keeps
are a prefix code: what stands behind them changes nothing, and none of their proper
prefixes is a datagram.
-/

namespace McrxCore

open BigEndian Slice

/-- The largest datagram, `40 + u16::MAX`. -/
def MAX_IP_DATAGRAM_SIZE : Nat := 40 + 65535

/-- The length of the IP header that the first byte announces. -/
def headerLen (datagram : List UInt8) : Nat :=
  match datagram.head? with
  | none => 0
  | some first => if first >>> (4 : UInt8) = 4 then (first &&& 0x0f).toNat * 4 else 40

/-! ## The functions as they index -/

namespace Indexed

def parseIpv4Datagram (datagram : List UInt8) : Except Fault (Option ParsedIpDatagram) :=
  if datagram.length < 20 then .ok none
  else do
    let ihl := ((← index datagram 0) &&& 0x0f).toNat * 4
    if ihl < 20 ∨ datagram.length < ihl then .ok none
    else do
      let datagramLen := be16 (← index datagram 2) (← index datagram 3)
      if datagramLen < ihl ∨ datagram.length < datagramLen then .ok none
      else do
        let source := Ipv4Addr.new (← index datagram 12) (← index datagram 13)
          (← index datagram 14) (← index datagram 15)
        let destination := Ipv4Addr.new (← index datagram 16) (← index datagram 17)
          (← index datagram 18) (← index datagram 19)
        let protocol ← index datagram 9
        .ok (some
          { sourceIp := .v4 source
            destinationIp := .v4 destination
            protocol := protocol
            datagramLen := datagramLen })

/-- `<[u8; 16]>::try_from`. -/
def addressOctets (octets : List UInt8) : Option Ipv6Addr :=
  if h : octets.length = 16 then some ⟨⟨octets.toArray, by simpa using h⟩⟩ else none

def parseIpv6Datagram (datagram : List UInt8) : Except Fault (Option ParsedIpDatagram) :=
  if datagram.length < 40 then .ok none
  else do
    let source := addressOctets (← range datagram 8 24)
    let destination := addressOctets (← range datagram 24 40)
    match source, destination with
    | some source, some destination =>
      let payloadLen := be16 (← index datagram 4) (← index datagram 5)
      let nextHeader ← index datagram 6
      -- A jumbogram: zero payload length with a hop-by-hop header.
      if payloadLen = 0 ∧ nextHeader = 0 then .ok none
      else match checkedAdd 40 payloadLen with
        | none => .ok none
        | some datagramLen =>
          if datagram.length < datagramLen then .ok none
          else .ok (some
            { sourceIp := .v6 source
              destinationIp := .v6 destination
              protocol := nextHeader
              datagramLen := datagramLen })
    | _, _ => .ok none

def parseIpDatagram (datagram : List UInt8) : Except Fault (Option ParsedIpDatagram) :=
  match datagram.head?.map (· >>> (4 : UInt8)) with
  | none => .ok none
  | some version =>
    if version = 4 then parseIpv4Datagram datagram
    else if version = 6 then parseIpv6Datagram datagram
    else .ok none

def rawPacketFromParts (subscriptionId : SubscriptionId) (datagram : List UInt8)
    (parsed : ParsedIpDatagram) (metadata : ReceiveMetadata) : Except Fault RawPacket := do
  let datagram ← range datagram 0 parsed.datagramLen
  .ok
    { subscriptionId := subscriptionId
      datagram := datagram
      sourceIp := some parsed.sourceIp
      group := some parsed.destinationIp
      ipProtocol := some parsed.protocol
      metadata := metadata }

end Indexed

theorem indexed_parseIpv4Datagram (datagram : List UInt8) :
    Indexed.parseIpv4Datagram datagram = .ok (parseIpv4Datagram datagram) := by
  rw [Indexed.parseIpv4Datagram, parseIpv4Datagram]
  by_cases hlen : datagram.length < 20
  · rw [if_pos hlen, dif_pos hlen]
  · rw [if_neg hlen, dif_neg hlen]
    simp (disch := omega) only [index_eq, ok_bind]
    split
    · rfl
    · split <;> rfl

theorem addressOctets_eq {datagram : List UInt8} {start : Nat} (h : start + 16 ≤ datagram.length) :
    Indexed.addressOctets ((datagram.drop start).take 16) = some (ipv6AddrAt datagram start h) := by
  rw [Indexed.addressOctets, dif_pos (by rw [List.length_take, List.length_drop]; omega)]
  rfl

theorem indexed_parseIpv6Datagram (datagram : List UInt8) :
    Indexed.parseIpv6Datagram datagram = .ok (parseIpv6Datagram datagram) := by
  rw [Indexed.parseIpv6Datagram, parseIpv6Datagram]
  by_cases hlen : datagram.length < 40
  · rw [if_pos hlen, dif_pos hlen]
  · have hsum : be16 datagram[4] datagram[5] < 65536 := be16_lt _ _
    rw [if_neg hlen, dif_neg hlen]
    simp (disch := omega) only [index_eq, range_eq, checkedAdd_eq, ok_bind, Nat.reduceSub,
      addressOctets_eq (show 8 + 16 ≤ datagram.length by omega),
      addressOctets_eq (show 24 + 16 ≤ datagram.length by omega)]
    split
    · rfl
    · split <;> rfl

/-- No index and no range of the parser is out of range. -/
theorem indexed_parseIpDatagram (datagram : List UInt8) :
    Indexed.parseIpDatagram datagram = .ok (parseIpDatagram datagram) := by
  rw [Indexed.parseIpDatagram, parseIpDatagram]
  cases datagram.head?.map (· >>> (4 : UInt8)) with
  | none => rfl
  | some version =>
    simp only [indexed_parseIpv4Datagram, indexed_parseIpv6Datagram]
    split
    · rfl
    · split <;> rfl

theorem indexed_rawPacketFromParts {datagram : List UInt8} {parsed : ParsedIpDatagram}
    (h : parsed.datagramLen ≤ datagram.length) (subscriptionId : SubscriptionId)
    (metadata : ReceiveMetadata) :
    Indexed.rawPacketFromParts subscriptionId datagram parsed metadata =
      .ok (rawPacketFromParts subscriptionId datagram parsed metadata) := by
  rw [Indexed.rawPacketFromParts, range_eq (Nat.zero_le _) h]
  rfl

/-! ## Datagrams that agree on the bytes a packet keeps -/

theorem getElem_of_take_eq {datagram other : List UInt8} {n i : Nat}
    (hagree : other.take n = datagram.take n) (hi : i < n) (hd : i < datagram.length)
    (ho : i < other.length) : other[i] = datagram[i] := by
  have hboth : (other.take n)[i]? = (datagram.take n)[i]? := by rw [hagree]
  rw [List.getElem?_take_of_lt hi, List.getElem?_take_of_lt hi, List.getElem?_eq_getElem ho,
    List.getElem?_eq_getElem hd] at hboth
  exact Option.some.inj hboth

theorem ipv6AddrAt_of_take_eq {datagram other : List UInt8} {n start : Nat}
    (hagree : other.take n = datagram.take n) (hn : start + 16 ≤ n)
    (hd : start + 16 ≤ datagram.length) (ho : start + 16 ≤ other.length) :
    ipv6AddrAt other start ho = ipv6AddrAt datagram start hd := by
  have hslice : ∀ l : List UInt8, (l.drop start).take 16 = ((l.take n).drop start).take 16 := by
    intro l
    rw [List.drop_take, List.take_take, Nat.min_eq_left (by omega)]
  simp only [ipv6AddrAt, hslice other, hslice datagram, hagree]

section Agreeing

variable {datagram other : List UInt8} {parsed : ParsedIpDatagram} {m : Nat}

/-- Where `parseIpv4Datagram` succeeds, its answer on a datagram that agrees on the header
depends on the length alone. -/
theorem parseIpv4Datagram_agree (h : parseIpv4Datagram datagram = some parsed)
    (hagree : other.take m = datagram.take m) (hm : 20 ≤ m) (hother : 20 ≤ other.length) :
    parseIpv4Datagram other =
      if other.length < parsed.datagramLen then none else some parsed := by
  obtain ⟨hlen, hihl, htotal, hend, rfl⟩ := parseIpv4Datagram_some h
  have hbyte : ∀ i (hi : i < 20) (hd : i < datagram.length) (ho : i < other.length),
      other[i] = datagram[i] :=
    fun i hi hd ho => getElem_of_take_eq hagree (by omega) hd ho
  rw [parseIpv4Datagram, dif_neg (by omega)]
  simp (disch := omega) only [hbyte]
  by_cases hshort : other.length < be16 datagram[2] datagram[3]
  · rw [if_pos hshort]
    split
    · rfl
    · rw [if_pos (Or.inr hshort)]
  · rw [if_neg hshort, if_neg (by omega), if_neg (by omega)]

theorem parseIpv6Datagram_agree (h : parseIpv6Datagram datagram = some parsed)
    (hagree : other.take m = datagram.take m) (hm : 40 ≤ m) (hother : 40 ≤ other.length) :
    parseIpv6Datagram other =
      if other.length < parsed.datagramLen then none else some parsed := by
  obtain ⟨hlen, hjumbo, hend, rfl⟩ := parseIpv6Datagram_some h
  have hbyte : ∀ i (hi : i < 40) (hd : i < datagram.length) (ho : i < other.length),
      other[i] = datagram[i] :=
    fun i hi hd ho => getElem_of_take_eq hagree (by omega) hd ho
  rw [parseIpv6Datagram, dif_neg (by omega)]
  simp (disch := omega) only [hbyte, if_neg hjumbo,
    ipv6AddrAt_of_take_eq hagree (show 8 + 16 ≤ m by omega) (by omega) (by omega),
    ipv6AddrAt_of_take_eq hagree (show 24 + 16 ≤ m by omega) (by omega) (by omega)]

/-- The bytes that the packet keeps decide the answer, as far as `other` has them. -/
theorem parseIpDatagram_agree (h : parseIpDatagram datagram = some parsed)
    (hagree : other.take m = datagram.take m) (hm : min other.length parsed.datagramLen ≤ m) :
    parseIpDatagram other =
      if other.length < parsed.datagramLen then none else some parsed := by
  have hlayout := parseIpDatagram_layout h
  have hheader : 20 ≤ ipHeaderLen parsed.destinationIp.family := by
    cases parsed.destinationIp.family <;> decide
  have hlong := hlayout.headerLen_le
  have hhead : 0 < other.length → other.head? = datagram.head? := by
    intro hpos
    have hfirst : (other.take m)[0]? = (datagram.take m)[0]? := by rw [hagree]
    rw [List.getElem?_take_of_lt (by omega), List.getElem?_take_of_lt (by omega)] at hfirst
    rw [List.head?_eq_getElem?, List.head?_eq_getElem?, hfirst]
  cases other with
  | nil => exact (if_pos (show 0 < parsed.datagramLen by omega)).symm
  | cons first rest =>
    have hversion := hlayout.version
    rw [← hhead (Nat.succ_pos _)] at hversion
    have hsame := hlayout.version
    cases hfamily : parsed.destinationIp.family with
    | ipv4 =>
      rw [hfamily] at hversion hsame hlong
      have hparse : parseIpv4Datagram datagram = some parsed := by
        rw [parseIpDatagram, hsame] at h
        exact h
      rw [parseIpDatagram, hversion]
      show parseIpv4Datagram (first :: rest) = _
      by_cases hshort : (first :: rest).length < 20
      · rw [parseIpv4Datagram, dif_pos hshort, if_pos (Nat.lt_of_lt_of_le hshort hlong)]
      · have hlong' : 20 ≤ parsed.datagramLen := hlong
        exact parseIpv4Datagram_agree hparse hagree (by omega) (by omega)
    | ipv6 =>
      rw [hfamily] at hversion hsame hlong
      have hparse : parseIpv6Datagram datagram = some parsed := by
        rw [parseIpDatagram, hsame] at h
        exact h
      rw [parseIpDatagram, hversion]
      show parseIpv6Datagram (first :: rest) = _
      by_cases hshort : (first :: rest).length < 40
      · rw [parseIpv6Datagram, dif_pos hshort, if_pos (Nat.lt_of_lt_of_le hshort hlong)]
      · have hlong' : 40 ≤ parsed.datagramLen := hlong
        exact parseIpv6Datagram_agree hparse hagree (by omega) (by omega)

end Agreeing

/-! ## The prefix code -/

theorem headerLen_eq {datagram : List UInt8} {version : UInt8} (hpos : 0 < datagram.length)
    (hversion : datagram.head?.map (· >>> (4 : UInt8)) = some version) :
    headerLen datagram = if version = 4 then (datagram[0] &&& 0x0f).toNat * 4 else 40 := by
  have hfirst : datagram.head? = some datagram[0] := by
    rw [List.head?_eq_getElem?, List.getElem?_eq_getElem]
  rw [hfirst] at hversion
  rw [headerLen, hfirst, ← Option.some.inj hversion]

theorem parseIpv4Datagram_bounds {datagram : List UInt8} {parsed : ParsedIpDatagram}
    (hversion : datagram.head?.map (· >>> (4 : UInt8)) = some 4)
    (h : parseIpv4Datagram datagram = some parsed) :
    headerLen datagram ≤ parsed.datagramLen ∧ parsed.datagramLen ≤ MAX_IP_DATAGRAM_SIZE := by
  obtain ⟨hlen, -, htotal, -, rfl⟩ := parseIpv4Datagram_some h
  have hmax : be16 datagram[2] datagram[3] < 65536 := be16_lt _ _
  rw [headerLen_eq (by omega) hversion, if_pos rfl, MAX_IP_DATAGRAM_SIZE]
  refine ⟨htotal, ?_⟩
  show be16 datagram[2] datagram[3] ≤ 40 + 65535
  omega

theorem parseIpv6Datagram_bounds {datagram : List UInt8} {parsed : ParsedIpDatagram}
    (hversion : datagram.head?.map (· >>> (4 : UInt8)) = some 6)
    (h : parseIpv6Datagram datagram = some parsed) :
    headerLen datagram ≤ parsed.datagramLen ∧ parsed.datagramLen ≤ MAX_IP_DATAGRAM_SIZE := by
  obtain ⟨hlen, -, -, rfl⟩ := parseIpv6Datagram_some h
  have hmax : be16 datagram[4] datagram[5] < 65536 := be16_lt _ _
  rw [headerLen_eq (by omega) hversion, if_neg (by decide), MAX_IP_DATAGRAM_SIZE]
  refine ⟨Nat.le_add_right _ _, ?_⟩
  show 40 + be16 datagram[4] datagram[5] ≤ 40 + 65535
  omega

theorem parseIpDatagram_bounds {datagram : List UInt8} {parsed : ParsedIpDatagram}
    (h : parseIpDatagram datagram = some parsed) :
    headerLen datagram ≤ parsed.datagramLen ∧ parsed.datagramLen ≤ MAX_IP_DATAGRAM_SIZE := by
  have hversion := (parseIpDatagram_layout h).version
  rw [parseIpDatagram] at h
  cases hfamily : parsed.destinationIp.family with
  | ipv4 =>
    rw [hfamily] at hversion
    rw [hversion] at h
    exact parseIpv4Datagram_bounds hversion h
  | ipv6 =>
    rw [hfamily] at hversion
    rw [hversion] at h
    exact parseIpv6Datagram_bounds hversion h

/-- `datagram` begins with an IP datagram of the fields `parsed`, cut exactly. -/
structure Delimits (datagram : List UInt8) (parsed : ParsedIpDatagram) : Prop where
  headerLen_le : headerLen datagram ≤ parsed.datagramLen
  datagramLen_le : parsed.datagramLen ≤ datagram.length
  datagramLen_le_max : parsed.datagramLen ≤ MAX_IP_DATAGRAM_SIZE
  padded : ∀ padding,
    parseIpDatagram (datagram.take parsed.datagramLen ++ padding) = some parsed
  packet : ∀ subscriptionId metadata, ∃ packet : RawPacket,
    Indexed.rawPacketFromParts subscriptionId datagram parsed metadata = .ok packet ∧
      packet.datagram = datagram.take parsed.datagramLen ∧
      parseIpDatagram packet.datagram = some parsed ∧
      packet.sourceIp = some parsed.sourceIp ∧ packet.group = some parsed.destinationIp ∧
      packet.ipProtocol = some parsed.protocol ∧
      Indexed.rawPacketFromParts subscriptionId packet.datagram parsed metadata = .ok packet
  truncated : ∀ cut, cut <+: datagram.take parsed.datagramLen →
    cut ≠ datagram.take parsed.datagramLen → parseIpDatagram cut = none

/-- What stands behind the bytes of the packet changes nothing. -/
theorem parseIpDatagram_of_take_eq {datagram other : List UInt8} {parsed : ParsedIpDatagram}
    (h : parseIpDatagram datagram = some parsed) (hlen : parsed.datagramLen ≤ other.length)
    (hagree : other.take parsed.datagramLen = datagram.take parsed.datagramLen) :
    parseIpDatagram other = some parsed := by
  rw [parseIpDatagram_agree h hagree (Nat.min_le_right _ _), if_neg (Nat.not_lt.mpr hlen)]

theorem parseIpDatagram_padded {datagram : List UInt8} {parsed : ParsedIpDatagram}
    (h : parseIpDatagram datagram = some parsed) (padding : List UInt8) :
    parseIpDatagram (datagram.take parsed.datagramLen ++ padding) = some parsed := by
  have hlen := (parseIpDatagram_layout h).datagramLen_le
  have hkept : (datagram.take parsed.datagramLen).length = parsed.datagramLen := by
    rw [List.length_take]
    omega
  refine parseIpDatagram_of_take_eq h (by rw [List.length_append]; omega) ?_
  rw [List.take_append_of_le_length (by omega), List.take_take, Nat.min_self]

theorem parseIpDatagram_truncated {datagram cut : List UInt8} {parsed : ParsedIpDatagram}
    (h : parseIpDatagram datagram = some parsed)
    (hcut : cut <+: datagram.take parsed.datagramLen)
    (hne : cut ≠ datagram.take parsed.datagramLen) : parseIpDatagram cut = none := by
  have hlen := (parseIpDatagram_layout h).datagramLen_le
  have hkept : (datagram.take parsed.datagramLen).length = parsed.datagramLen := by
    rw [List.length_take]
    omega
  have hshort : cut.length < parsed.datagramLen := by
    refine Nat.lt_of_le_of_ne (hkept ▸ hcut.length_le) fun heq => hne ?_
    exact hcut.eq_of_length (heq.trans hkept.symm)
  have hagree : cut.take cut.length = datagram.take cut.length := by
    rw [List.take_length]
    exact List.prefix_iff_eq_take.mp (hcut.trans (List.take_prefix _ _))
  rw [parseIpDatagram_agree h hagree (Nat.min_le_left _ _), if_pos hshort]

/-- The parser stays inside its slice, and what it accepts is a prefix code that packets
are cut by. -/
theorem ip_datagrams_are_delimited :
    (∀ datagram, Indexed.parseIpDatagram datagram = .ok (parseIpDatagram datagram)) ∧
      ∀ datagram parsed, parseIpDatagram datagram = some parsed → Delimits datagram parsed := by
  refine ⟨indexed_parseIpDatagram, fun datagram parsed h => ?_⟩
  have hlen := (parseIpDatagram_layout h).datagramLen_le
  obtain ⟨hheader, hmax⟩ := parseIpDatagram_bounds h
  refine ⟨hheader, hlen, hmax, parseIpDatagram_padded h, fun subscriptionId metadata => ?_,
    fun _ => parseIpDatagram_truncated h⟩
  refine ⟨_, indexed_rawPacketFromParts hlen subscriptionId metadata, rfl, ?_, rfl, rfl, rfl, ?_⟩
  · have hpadded := parseIpDatagram_padded h []
    rwa [List.append_nil] at hpadded
  · have htrimmed : parsed.datagramLen ≤ (datagram.take parsed.datagramLen).length := by
      rw [List.length_take]
      omega
    refine (indexed_rawPacketFromParts htrimmed subscriptionId metadata).trans ?_
    simp only [rawPacketFromParts, List.take_take, Nat.min_self]

def paddedDatagram : List UInt8 :=
  [0x45, 0, 0, 20, 0, 0, 0, 0, 0, 17, 0, 0, 10, 1, 2, 3, 239, 1, 2, 3] ++ List.replicate 12 0

theorem ip_datagrams_are_delimited_padded :
    Delimits paddedDatagram
      { sourceIp := .v4 (.new 10 1 2 3)
        destinationIp := .v4 (.new 239 1 2 3)
        protocol := 17
        datagramLen := 20 } :=
  ip_datagrams_are_delimited.2 _ _ (by decide)

end McrxCore
