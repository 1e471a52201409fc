import McrxCore.Platform.Trim

/-!
# Ethernet decapsulation

`stripEthernetLinkLayer` reads the ethertypes of a frame from its offset 12 on, past
every VLAN tag.  `decapsulate` says the same of the bytes themselves: it takes the tags
off one by one.
-/

namespace McrxCore

open BigEndian Slice

/-- `matches!(ethertype, 0x8100 | 0x88a8 | 0x9100)`. -/
def isTagProtocol (ethertype : Nat) : Bool :=
  ethertype == 0x8100 || ethertype == 0x88a8 || ethertype == 0x9100

/-- `matches!(ethertype, 0x0800 | 0x86dd)`. -/
def isIpEthertype (ethertype : Nat) : Bool := ethertype == 0x0800 || ethertype == 0x86dd

structure TagCursor where
  ethertype : Nat
  payloadOffset : Nat
  deriving DecidableEq, Repr

def tagTurn (frame : List UInt8) (cursor : TagCursor) :
    Except Fault (Turn TagCursor (Option TagCursor)) :=
  if isTagProtocol cursor.ethertype then
    if frame.length < cursor.payloadOffset + 4 then .ok (.leave none)
    else do
      let first ← index frame (cursor.payloadOffset + 2)
      let second ← index frame (cursor.payloadOffset + 3)
      .ok (.next { ethertype := be16 first second, payloadOffset := cursor.payloadOffset + 4 })
  else .ok (.leave (some cursor))

/-- The tag loop never makes as many turns as the frame has bytes. -/
def stripEthernetLinkLayer (frame : List UInt8) : Except Fault (Option (List UInt8)) :=
  if frame.length < 14 then .ok none
  else do
    let first ← index frame 12
    let second ← index frame 13
    let cursor : TagCursor := { ethertype := be16 first second, payloadOffset := 14 }
    match ← loop (tagTurn frame) frame.length cursor with
    | none => .ok none
    | some cursor =>
      if isIpEthertype cursor.ethertype then .ok (getFrom frame cursor.payloadOffset)
      else .ok none

/-! ## Taking the tags off -/

/-- The innermost ethertype and the bytes behind it. -/
def untag : Nat → List UInt8 → Option (Nat × List UInt8)
  | ethertype, t₁ :: t₂ :: first :: second :: rest =>
    if isTagProtocol ethertype then untag (be16 first second) rest
    else some (ethertype, t₁ :: t₂ :: first :: second :: rest)
  | ethertype, bytes => if isTagProtocol ethertype then none else some (ethertype, bytes)

def readEthertype : List UInt8 → Option (Nat × List UInt8)
  | first :: second :: rest => untag (be16 first second) rest
  | _ => none

def innermost (frame : List UInt8) : Option (Nat × List UInt8) := readEthertype (frame.drop 12)

def decapsulate (frame : List UInt8) : Option (List UInt8) :=
  match innermost frame with
  | none => none
  | some (ethertype, payload) => if isIpEthertype ethertype then some payload else none

theorem untag_of_not {ethertype : Nat} (h : isTagProtocol ethertype = false)
    (bytes : List UInt8) : untag ethertype bytes = some (ethertype, bytes) := by
  unfold untag
  split <;> simp [h]

theorem untag_tag {ethertype : Nat} (h : isTagProtocol ethertype = true)
    (t₁ t₂ first second : UInt8) (rest : List UInt8) :
    untag ethertype (t₁ :: t₂ :: first :: second :: rest) = untag (be16 first second) rest := by
  rw [untag, if_pos h]

theorem untag_short {ethertype : Nat} (h : isTagProtocol ethertype = true) {bytes : List UInt8}
    (hlen : bytes.length < 4) : untag ethertype bytes = none := by
  rcases bytes with _ | ⟨a, _ | ⟨b, _ | ⟨c, _ | ⟨d, rest⟩⟩⟩⟩
  · rw [untag, if_pos h]; simp
  · rw [untag, if_pos h]; simp
  · rw [untag, if_pos h]; simp
  · rw [untag, if_pos h]; simp
  · simp only [List.length_cons] at hlen
    omega

theorem readEthertype_short {bytes : List UInt8} (hlen : bytes.length < 2) :
    readEthertype bytes = none := by
  rcases bytes with _ | ⟨a, _ | ⟨b, rest⟩⟩
  · rfl
  · rfl
  · simp only [List.length_cons] at hlen
    omega

theorem drop_eq_four {frame : List UInt8} {start : Nat} (h : start + 4 ≤ frame.length) :
    frame.drop start =
      frame[start] :: frame[start + 1] :: frame[start + 2] :: frame[start + 3] ::
        frame.drop (start + 4) := by
  rw [List.drop_eq_getElem_cons (by omega), List.drop_eq_getElem_cons (by omega),
    List.drop_eq_getElem_cons (by omega), List.drop_eq_getElem_cons (by omega)]

def untagged (frame : List UInt8) (cursor : TagCursor) : Option TagCursor :=
  (untag cursor.ethertype (frame.drop cursor.payloadOffset)).map fun found =>
    { ethertype := found.1, payloadOffset := frame.length - found.2.length }

/-- The loop takes the tags off, and each of its turns goes four bytes on. -/
theorem loop_tagTurn {frame : List UInt8} {turns : Nat} {cursor : TagCursor}
    (hoffset : cursor.payloadOffset ≤ frame.length)
    (hturns : frame.length - cursor.payloadOffset < turns) :
    loop (tagTurn frame) turns cursor = .ok (untagged frame cursor) := by
  refine loop_eq (P := fun cursor => cursor.payloadOffset ≤ frame.length)
    (m := fun cursor => frame.length - cursor.payloadOffset)
    (fun cursor hcursor => ?_) hoffset hturns
  cases htag : isTagProtocol cursor.ethertype with
  | false =>
    refine Or.inl ?_
    rw [tagTurn, htag, if_neg (by decide), untagged, untag_of_not htag, Option.map_some,
      List.length_drop, Nat.sub_sub_self hcursor]
  | true =>
    rw [tagTurn, if_pos htag]
    by_cases hshort : frame.length < cursor.payloadOffset + 4
    · refine Or.inl ?_
      rw [if_pos hshort, untagged, untag_short htag (by rw [List.length_drop]; omega),
        Option.map_none]
    · have hnext : tagTurn frame cursor = .ok (.next
          { ethertype := be16 frame[cursor.payloadOffset + 2] frame[cursor.payloadOffset + 3]
            payloadOffset := cursor.payloadOffset + 4 }) := by
        rw [tagTurn, if_pos htag, if_neg hshort]
        simp (disch := omega) only [index_eq, ok_bind]
      rw [tagTurn, if_pos htag] at hnext
      refine Or.inr ⟨_, hnext, by dsimp only; omega, by dsimp only; omega, ?_⟩
      rw [untagged, untagged, @drop_eq_four frame cursor.payloadOffset (by omega),
        untag_tag htag]

theorem untag_suffix {ethertype : Nat} {bytes : List UInt8} {found : Nat × List UInt8}
    (h : untag ethertype bytes = some found) :
    found.2 <:+ bytes := by
  fun_induction untag ethertype bytes with
  | case1 ethertype t₁ t₂ first second rest htag ih =>
    exact (ih h).trans ⟨[t₁, t₂, first, second], rfl⟩
  | case2 ethertype t₁ t₂ first second rest htag =>
    cases h
    exact List.suffix_rfl
  | case3 => cases h
  | case4 =>
    cases h
    exact List.suffix_rfl

theorem innermost_eq {frame : List UInt8} (h : 14 ≤ frame.length) :
    innermost frame = untag (be16 frame[12] frame[13]) (frame.drop 14) := by
  rw [innermost, List.drop_eq_getElem_cons (by omega), List.drop_eq_getElem_cons (by omega),
    readEthertype]

/-- The loop ends, no index is out of range, and the bytes found are those behind the
tags. -/
theorem stripEthernetLinkLayer_eq (frame : List UInt8) :
    stripEthernetLinkLayer frame = .ok (decapsulate frame) := by
  rw [stripEthernetLinkLayer, decapsulate]
  by_cases hlen : frame.length < 14
  · rw [if_pos hlen, innermost, readEthertype_short (by rw [List.length_drop]; omega)]
  · rw [if_neg hlen, innermost_eq (by omega), index_eq (show 12 < frame.length by omega),
      index_eq (show 13 < frame.length by omega)]
    have hloop := @loop_tagTurn frame frame.length
      { ethertype := be16 frame[12] frame[13], payloadOffset := 14 } (by dsimp only; omega)
      (by dsimp only; omega)
    simp only [ok_bind, hloop, untagged]
    cases hfound : untag (be16 frame[12] frame[13]) (frame.drop 14) with
    | none => rfl
    | some found =>
      have hsuffix := (untag_suffix hfound).trans (List.drop_suffix 14 frame)
      have hpayload : getFrom frame (frame.length - found.2.length) = some found.2 := by
        rw [getFrom_eq (Nat.sub_le _ _), ← List.suffix_iff_eq_drop.mp hsuffix]
      simp only [Option.map_some, hpayload]
      split <;> rfl

/-! ## Encapsulation -/

inductive TagProtocol where
  | customer
  | service
  | doubleTagged
  deriving DecidableEq, Repr

def TagProtocol.value : TagProtocol → UInt16
  | .customer => 0x8100
  | .service => 0x88a8
  | .doubleTagged => 0x9100

structure VlanTag where
  protocol : TagProtocol
  tci : UInt16
  deriving DecidableEq, Repr

def VlanTag.bytes (tag : VlanTag) : List UInt8 := bytes16 tag.protocol.value ++ bytes16 tag.tci

/-- An Ethernet header.  Its own ethertype is the one behind the tags. -/
structure EthernetHeader where
  destination : Vector UInt8 6
  source : Vector UInt8 6
  tags : List VlanTag
  ethertype : UInt16
  untagged : isTagProtocol ethertype.toNat = false
  deriving DecidableEq, Repr

def EthernetHeader.protocolBytes (header : EthernetHeader) : List UInt8 :=
  header.tags.flatMap VlanTag.bytes ++ bytes16 header.ethertype

def EthernetHeader.bytes (header : EthernetHeader) : List UInt8 :=
  header.destination.toList ++ header.source.toList ++ header.protocolBytes

theorem isTagProtocol_value (protocol : TagProtocol) :
    isTagProtocol protocol.value.toNat = true := by
  cases protocol <;> rfl

/-- A tag in front changes nothing. -/
theorem readEthertype_tag (tag : VlanTag) (rest : List UInt8) :
    readEthertype (tag.bytes ++ rest) = readEthertype rest := by
  have htag : isTagProtocol (be16 (tag.protocol.value >>> 8).toUInt8
      tag.protocol.value.toUInt8) = true := by
    rw [be16_bytes16]
    exact isTagProtocol_value tag.protocol
  show untag _ ((tag.tci >>> 8).toUInt8 :: tag.tci.toUInt8 :: rest) = _
  rcases rest with _ | ⟨a, _ | ⟨b, rest⟩⟩
  · exact untag_short htag (Nat.lt_of_sub_eq_succ rfl)
  · exact untag_short htag (Nat.lt_of_sub_eq_succ rfl)
  · exact untag_tag htag _ _ a b rest

/-- Two or three bytes of a tag are not enough. -/
theorem readEthertype_cutTag (tag : VlanTag) {length : Nat} (h : length < 4) :
    readEthertype (tag.bytes.take length) = none := by
  have htag : isTagProtocol (be16 (tag.protocol.value >>> 8).toUInt8
      tag.protocol.value.toUInt8) = true := by
    rw [be16_bytes16]
    exact isTagProtocol_value tag.protocol
  by_cases hlen : length < 2
  · exact readEthertype_short (by rw [List.length_take]; omega)
  · obtain ⟨more, rfl⟩ : ∃ more, length = more + 2 := ⟨length - 2, by omega⟩
    show untag _ ((bytes16 tag.tci).take more) = none
    exact untag_short htag (by rw [List.length_take]; omega)

theorem readEthertype_tags (tags : List VlanTag) {ethertype : UInt16}
    (h : isTagProtocol ethertype.toNat = false) (payload : List UInt8) :
    readEthertype (tags.flatMap VlanTag.bytes ++ bytes16 ethertype ++ payload) =
      some (ethertype.toNat, payload) := by
  induction tags with
  | nil =>
    show untag (be16 (ethertype >>> 8).toUInt8 ethertype.toUInt8) payload = _
    rw [be16_bytes16, untag_of_not h]
  | cons tag tags ih =>
    rw [List.flatMap_cons, List.append_assoc, List.append_assoc, readEthertype_tag,
      ← List.append_assoc]
    exact ih

theorem readEthertype_cut (tags : List VlanTag) (ethertype : UInt16) (payload : List UInt8)
    {length : Nat} (h : length < (tags.flatMap VlanTag.bytes ++ bytes16 ethertype).length) :
    readEthertype ((tags.flatMap VlanTag.bytes ++ bytes16 ethertype ++ payload).take length) =
      none := by
  induction tags generalizing length with
  | nil =>
    have hlen : length < 2 := h
    exact readEthertype_short (by rw [List.length_take]; omega)
  | cons tag tags ih =>
    have hbytes : tag.bytes.length = 4 := rfl
    rw [List.flatMap_cons, List.append_assoc, List.append_assoc, List.take_append]
    rw [List.flatMap_cons, List.append_assoc, List.length_append] at h
    by_cases hlen : length < 4
    · rw [show length - tag.bytes.length = 0 by omega, List.take_zero, List.append_nil]
      exact readEthertype_cutTag tag hlen
    · rw [List.take_of_length_le (by omega), readEthertype_tag, ← List.append_assoc]
      exact ih (by omega)

theorem EthernetHeader.drop_bytes (header : EthernetHeader) (payload : List UInt8) :
    (header.bytes ++ payload).drop 12 = header.protocolBytes ++ payload := by
  have hmacs : (header.destination.toList ++ header.source.toList).length = 12 := by simp
  rw [EthernetHeader.bytes, List.append_assoc, ← hmacs, List.drop_left]

theorem decapsulate_encapsulated (header : EthernetHeader) (payload : List UInt8) :
    decapsulate (header.bytes ++ payload) =
      if isIpEthertype header.ethertype.toNat then some payload else none := by
  rw [decapsulate, innermost, header.drop_bytes, EthernetHeader.protocolBytes,
    readEthertype_tags header.tags header.untagged]

theorem decapsulate_truncated (header : EthernetHeader) (payload : List UInt8) {length : Nat}
    (h : length < header.bytes.length) :
    decapsulate ((header.bytes ++ payload).take length) = none := by
  have hmacs : (header.destination.toList ++ header.source.toList).length = 12 := by simp
  rw [EthernetHeader.bytes, List.length_append, hmacs] at h
  have hnone : readEthertype ((header.protocolBytes ++ payload).take (length - 12)) = none := by
    by_cases hlen : length < 12
    · rw [show length - 12 = 0 by omega, List.take_zero]
      rfl
    · exact readEthertype_cut header.tags header.ethertype payload (by
        rw [EthernetHeader.protocolBytes] at h
        omega)
  rw [decapsulate, innermost, List.drop_take, header.drop_bytes, hnone]

/-- Decapsulation takes off what encapsulation puts on, accepts no cut header, and has no
fault; a datagram comes out of its frame as it is, padding or not. -/
theorem ethernet_decapsulation_inverts :
    (∀ (header : EthernetHeader) (payload : List UInt8),
      stripEthernetLinkLayer (header.bytes ++ payload) =
        .ok (if header.ethertype = 0x0800 ∨ header.ethertype = 0x86dd then some payload
          else none)) ∧
    (∀ (header : EthernetHeader) (payload : List UInt8) (length : Nat),
      length < header.bytes.length →
        stripEthernetLinkLayer ((header.bytes ++ payload).take length) = .ok none) ∧
    (∀ frame, ∃ result, stripEthernetLinkLayer frame = .ok result) ∧
    ∀ (header : EthernetHeader) (datagram padding : List UInt8) (parsed : ParsedIpDatagram),
      header.ethertype = 0x0800 ∨ header.ethertype = 0x86dd →
      parseIpDatagram datagram = some parsed →
      ∃ stripped, stripEthernetLinkLayer (header.bytes ++ (datagram ++ padding)) =
          .ok (some stripped) ∧
        Indexed.parseIpDatagram stripped = .ok (some parsed) ∧
        ∀ subscriptionId metadata, ∃ packet,
          Indexed.rawPacketFromParts subscriptionId stripped parsed metadata = .ok packet ∧
            packet.datagram = datagram.take parsed.datagramLen := by
  have hethertype : ∀ ethertype : UInt16, isIpEthertype ethertype.toNat = true ↔
      ethertype = 0x0800 ∨ ethertype = 0x86dd := by
    intro ethertype
    rw [isIpEthertype, Bool.or_eq_true, beq_iff_eq, beq_iff_eq, ← UInt16.toNat_inj,
      ← UInt16.toNat_inj]
    rfl
  have hstrip : ∀ (header : EthernetHeader) (payload : List UInt8),
      stripEthernetLinkLayer (header.bytes ++ payload) =
        .ok (if header.ethertype = 0x0800 ∨ header.ethertype = 0x86dd then some payload
          else none) := by
    intro header payload
    rw [stripEthernetLinkLayer_eq, decapsulate_encapsulated]
    simp only [hethertype]
  refine ⟨hstrip, fun header payload length h => ?_,
    fun frame => ⟨_, stripEthernetLinkLayer_eq frame⟩,
    fun header datagram padding parsed hip h => ?_⟩
  · rw [stripEthernetLinkLayer_eq, decapsulate_truncated header payload h]
  have hlen := (parseIpDatagram_layout h).datagramLen_le
  have hagree : (datagram ++ padding).take parsed.datagramLen =
      datagram.take parsed.datagramLen := List.take_append_of_le_length hlen
  refine ⟨datagram ++ padding, ?_, ?_, ?_⟩
  · rw [hstrip, if_pos hip]
  · rw [indexed_parseIpDatagram]
    exact congrArg _ (parseIpDatagram_of_take_eq h (by rw [List.length_append]; omega) hagree)
  · exact fun subscriptionId metadata => ⟨_,
      indexed_rawPacketFromParts (by rw [List.length_append]; omega)
        subscriptionId metadata, hagree⟩

/-- The tagged IPv6 header of the test in `platform/raw.rs`. -/
def vlanIpv6Header : EthernetHeader :=
  { destination := #v[0, 1, 2, 3, 4, 5]
    source := #v[6, 7, 8, 9, 10, 11]
    tags := [{ protocol := .customer, tci := 1 }]
    ethertype := 0x86dd
    untagged := by decide }

theorem ethernet_decapsulation_inverts_vlan :
    stripEthernetLinkLayer ((vlanIpv6Header.bytes ++ paddedDatagram).take 17) = .ok none ∧
      ∃ stripped, stripEthernetLinkLayer (vlanIpv6Header.bytes ++ (paddedDatagram ++ [1, 2])) =
          .ok (some stripped) ∧ (Indexed.parseIpDatagram stripped).isOk = true := by
  obtain ⟨-, hcut, -, hround⟩ := ethernet_decapsulation_inverts
  obtain ⟨stripped, hstrip, hparse, -⟩ := hround vlanIpv6Header paddedDatagram [1, 2]
    { sourceIp := .v4 (.new 10 1 2 3)
      destinationIp := .v4 (.new 239 1 2 3)
      protocol := 17
      datagramLen := 20 } (by decide) (by decide)
  exact ⟨hcut _ _ _ (by decide), stripped, hstrip, by rw [hparse]; rfl⟩

end McrxCore
