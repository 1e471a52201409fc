import McrxCore.Lib.Align
import McrxCore.Platform.AppleFilter

/-!
# Blocks of BPF records

A read of a BPF device fills a buffer with records: a header, the captured frame, and
padding.  `nextMatchingAppleBpfPacket` walks the records from an offset to the first one
that the subscription takes, and the next call goes on from the offset it returns.  Machine
words have 64 bits and little-endian order.
-/

namespace McrxCore

open Align BigEndian Slice

/-- The end of `bh_hdrlen` in `libc::bpf_hdr`. -/
def APPLE_BPF_HEADER_FIELDS_LEN : Nat := 18

/-- `offset_of!(libc::bpf_hdr, bh_caplen)`. -/
def BH_CAPLEN : Nat := 8

/-- `offset_of!(libc::bpf_hdr, bh_hdrlen)`. -/
def BH_HDRLEN : Nat := 16

def BPF_ALIGNMENT : Nat := 4

def bpfWordAlign (value : Nat) : Except Fault Nat := do
  let sum ← add value BPF_ALIGNMENT
  .ok ((sum - 1) &&& notWord 64 (BPF_ALIGNMENT - 1))

/-- `u32::from_ne_bytes` of a slice of four bytes. -/
def u32FromNeBytes : List UInt8 → Option Nat
  | [a, b, c, d] => some (be32 d c b a)
  | _ => none

/-- `u16::from_ne_bytes` of a slice of two bytes. -/
def u16FromNeBytes : List UInt8 → Option Nat
  | [a, b] => some (be16 b a)
  | _ => none

/-- The header length and the captured length of the record at `offset`. -/
def readAppleBpfRecordHeader (bytes : List UInt8) (offset : Nat) : Option (Nat × Nat) := do
  let header ← getRange bytes offset (← checkedAdd offset APPLE_BPF_HEADER_FIELDS_LEN)
  let capturedLen ← u32FromNeBytes (← getRange header BH_CAPLEN (BH_CAPLEN + 4))
  let headerLen ← u16FromNeBytes (← getRange header BH_HDRLEN (BH_HDRLEN + 2))
  some (headerLen, capturedLen)

/-- The arguments of `next_matching_apple_bpf_packet` that a drain does not change. -/
structure AppleCapture where
  datalink : UInt32
  interfaceIndex : Option UInt32
  subscriptionId : SubscriptionId
  config : RawSubscriptionConfig
  deriving DecidableEq, Repr

namespace AppleCapture

variable (capture : AppleCapture)

def metadata (parsed : ParsedIpDatagram) : ReceiveMetadata :=
  { socketLocalAddr := none
    configuredInterface := capture.config.interface
    configuredInterfaceIndex := capture.config.interfaceIndex
    destinationLocalIp := some parsed.destinationIp
    ingressInterfaceIndex := capture.interfaceIndex }

/-- What the loop makes of one frame: `none` where it continues with the next record. -/
def packetOfFrame (frame : List UInt8) : Except Fault (Except McrxError (Option RawPacket)) := do
  match ← stripAppleLinkLayer frame capture.datalink with
  | .error error => .ok (.error error)
  | .ok none => .ok (.ok none)
  | .ok (some datagram) =>
    match ← Indexed.parseIpDatagram datagram with
    | none => .ok (.ok none)
    | some parsed =>
      if packetMatchesConfig parsed capture.config then do
        let packet ← Indexed.rawPacketFromParts capture.subscriptionId datagram parsed
          (capture.metadata parsed)
        .ok (.ok (some packet))
      else .ok (.ok none)

/-- One turn of the loop of `next_matching_apple_bpf_packet`. -/
def recordTurn (packetBlock : List UInt8) (offset : Nat) :
    Except Fault (Turn Nat (Except McrxError (Option RawPacket × Nat))) := do
  if packetBlock.length < (← add offset APPLE_BPF_HEADER_FIELDS_LEN) then
    .ok (.leave (.ok (none, offset)))
  else
    match readAppleBpfRecordHeader packetBlock offset with
    | none => .ok (.leave (.ok (none, packetBlock.length)))
    | some (headerLen, capturedLen) =>
      match checkedAdd headerLen capturedLen with
      | none => .ok (.leave (.ok (none, packetBlock.length)))
      | some recordLen => do
        let nextOffset := (checkedAdd offset (← bpfWordAlign recordLen)).getD packetBlock.length
        if headerLen < APPLE_BPF_HEADER_FIELDS_LEN then
          .ok (.leave (.ok (none, packetBlock.length)))
        else
          match checkedAdd offset headerLen with
          | none => .ok (.leave (.ok (none, packetBlock.length)))
          | some dataStart =>
            match checkedAdd dataStart capturedLen with
            | none => .ok (.leave (.ok (none, packetBlock.length)))
            | some dataEnd =>
              if packetBlock.length < dataEnd then .ok (.leave (.ok (none, packetBlock.length)))
              else do
                let frame ← range packetBlock dataStart dataEnd
                match ← capture.packetOfFrame frame with
                | .error error => .ok (.leave (.error error))
                | .ok none => .ok (.next nextOffset)
                | .ok (some packet) => .ok (.leave (.ok (some packet, nextOffset)))

def nextMatchingAppleBpfPacket (packetBlock : List UInt8) (startOffset : Nat) :
    Except Fault (Except McrxError (Option RawPacket × Nat)) :=
  loop (capture.recordTurn packetBlock) (packetBlock.length + 1) startOffset

/-- A turn of the caller: it keeps the packet and the offset for the next call. -/
def drainTurn (packetBlock : List UInt8) (state : Nat × List RawPacket) :
    Except Fault (Turn (Nat × List RawPacket) (Except McrxError (List RawPacket))) := do
  match ← capture.nextMatchingAppleBpfPacket packetBlock state.1 with
  | .error error => .ok (.leave (.error error))
  | .ok (none, _) => .ok (.leave (.ok state.2))
  | .ok (some packet, nextOffset) => .ok (.next (nextOffset, state.2 ++ [packet]))

/-- All calls on one block, up to the first that returns no packet. -/
def drain (packetBlock : List UInt8) : Except Fault (Except McrxError (List RawPacket)) :=
  loop (capture.drainTurn packetBlock) (packetBlock.length + 4) (0, [])

end AppleCapture

/-! ## The frames of a block -/

/-- The frame of the record at `offset` and the offset behind the record, where the record
is well formed and complete. -/
def frameAt (packetBlock : List UInt8) (offset : Nat) : Option (List UInt8 × Nat) :=
  match readAppleBpfRecordHeader packetBlock offset with
  | none => none
  | some (headerLen, capturedLen) =>
    if APPLE_BPF_HEADER_FIELDS_LEN ≤ headerLen ∧
        offset + headerLen + capturedLen ≤ packetBlock.length then
      some ((packetBlock.drop (offset + headerLen)).take capturedLen,
        offset + alignUp BPF_ALIGNMENT (headerLen + capturedLen))
    else none

theorem bpfWordAlign_eq {value : Nat} (h : value + 4 < 2 ^ 64) :
    bpfWordAlign value = .ok (alignUp BPF_ALIGNMENT value) := by
  rw [bpfWordAlign, add_eq (b := BPF_ALIGNMENT) h]
  exact congrArg Except.ok (@land_notWord_eq_alignUp 64 2 value (by decide) (by omega))

theorem u32FromNeBytes_lt {bytes : List UInt8} {n : Nat} (h : u32FromNeBytes bytes = some n) :
    n < 2 ^ 32 := by
  unfold u32FromNeBytes at h
  split at h
  · cases h
    exact be32_lt _ _ _ _
  · cases h

theorem u16FromNeBytes_lt {bytes : List UInt8} {n : Nat} (h : u16FromNeBytes bytes = some n) :
    n < 2 ^ 16 := by
  unfold u16FromNeBytes at h
  split at h
  · cases h
    exact be16_lt _ _
  · cases h

theorem readAppleBpfRecordHeader_bounds {bytes : List UInt8} {offset headerLen capturedLen : Nat}
    (h : readAppleBpfRecordHeader bytes offset = some (headerLen, capturedLen)) :
    offset + 18 ≤ bytes.length ∧ headerLen < 2 ^ 16 ∧ capturedLen < 2 ^ 32 := by
  simp only [readAppleBpfRecordHeader, Option.bind_eq_bind, Option.bind_eq_some_iff] at h
  obtain ⟨stop, hstop, header, hheader, capturedBytes, -, captured, hcaptured, headerBytes, -,
    length, hlength, hpair⟩ := h
  cases hpair
  refine ⟨?_, u16FromNeBytes_lt hlength, u32FromNeBytes_lt hcaptured⟩
  rw [checkedAdd] at hstop
  split at hstop
  · cases hstop
    rw [getRange] at hheader
    split at hheader
    · rename_i hrange
      exact hrange.2
    · cases hheader
  · cases hstop

/-- The walk goes forward, and at most the padding of the last record beyond the block. -/
theorem frameAt_bounds {packetBlock frame : List UInt8} {offset nextOffset : Nat}
    (h : frameAt packetBlock offset = some (frame, nextOffset)) :
    offset + 18 ≤ packetBlock.length ∧ offset < nextOffset ∧
      nextOffset ≤ packetBlock.length + 3 := by
  unfold frameAt at h
  split at h
  · cases h
  · rename_i headerLen capturedLen hheader
    have hread := (readAppleBpfRecordHeader_bounds hheader).1
    split at h
    · rename_i hfits
      cases h
      have hmin : 18 ≤ headerLen := hfits.1
      have hlow := @le_alignUp BPF_ALIGNMENT (headerLen + capturedLen) (by decide)
      have hhigh : alignUp BPF_ALIGNMENT (headerLen + capturedLen) ≤ headerLen + capturedLen + 3 :=
        alignUp_le
      omega
    · cases h

/-- The frames of the records from `offset` on. -/
def framesFrom (packetBlock : List UInt8) (offset : Nat) : List (List UInt8) :=
  match _h : frameAt packetBlock offset with
  | none => []
  | some (frame, nextOffset) => frame :: framesFrom packetBlock nextOffset
termination_by packetBlock.length - offset
decreasing_by
  have hbounds := frameAt_bounds _h
  omega

theorem framesFrom_none {packetBlock : List UInt8} {offset : Nat}
    (h : frameAt packetBlock offset = none) : framesFrom packetBlock offset = [] := by
  rw [framesFrom]
  split
  · rfl
  · rename_i hsome
    rw [h] at hsome
    cases hsome

theorem framesFrom_some {packetBlock frame : List UInt8} {offset nextOffset : Nat}
    (h : frameAt packetBlock offset = some (frame, nextOffset)) :
    framesFrom packetBlock offset = frame :: framesFrom packetBlock nextOffset := by
  rw [framesFrom]
  split
  · rename_i hnone
    rw [h] at hnone
    cases hnone
  · rename_i hsome
    rw [h] at hsome
    cases hsome
    rfl

/-! ## One call -/

def linkPayload (datalink : UInt32) (frame : List UInt8) : Option (List UInt8) :=
  if datalink = DLT_RAW then some frame
  else if datalink = DLT_NULL ∨ datalink = DLT_LOOP then getFrom frame 4
  else if datalink = DLT_EN10MB then decapsulate frame
  else none

def SUPPORTED_DATALINKS : List UInt32 := [DLT_RAW, DLT_NULL, DLT_LOOP, DLT_EN10MB]

theorem stripAppleLinkLayer_eq (frame : List UInt8) (datalink : UInt32) :
    stripAppleLinkLayer frame datalink =
      .ok (if datalink ∈ SUPPORTED_DATALINKS then .ok (linkPayload datalink frame)
        else .error (unsupportedDatalink datalink)) := by
  simp only [stripAppleLinkLayer, linkPayload, SUPPORTED_DATALINKS, List.mem_cons,
    List.not_mem_nil, or_false, stripEthernetLinkLayer_eq]
  by_cases hraw : datalink = DLT_RAW
  · simp [hraw]
  · by_cases hnull : datalink = DLT_NULL ∨ datalink = DLT_LOOP
    · simp [hraw, hnull, ← or_assoc]
    · by_cases hethernet : datalink = DLT_EN10MB
      · rw [if_neg hraw, if_neg hnull, if_pos hethernet,
          if_pos (Or.inr (Or.inr (Or.inr hethernet))), if_neg hraw, if_neg hnull,
          if_pos hethernet]
        rfl
      · simp only [hraw, hethernet, or_false, hnull, if_false]

namespace AppleCapture

variable (capture : AppleCapture)

def matchingPacket (frame : List UInt8) : Option RawPacket :=
  match linkPayload capture.datalink frame with
  | none => none
  | some datagram =>
    match parseIpDatagram datagram with
    | none => none
    | some parsed =>
      if packetMatchesConfig parsed capture.config then
        some (rawPacketFromParts capture.subscriptionId datagram parsed (capture.metadata parsed))
      else none

theorem packetOfFrame_eq (frame : List UInt8) :
    capture.packetOfFrame frame =
      .ok (if capture.datalink ∈ SUPPORTED_DATALINKS then .ok (capture.matchingPacket frame)
        else .error (unsupportedDatalink capture.datalink)) := by
  rw [packetOfFrame, stripAppleLinkLayer_eq, matchingPacket, ok_bind]
  by_cases hsupported : capture.datalink ∈ SUPPORTED_DATALINKS
  · rw [if_pos hsupported, if_pos hsupported]
    cases linkPayload capture.datalink frame with
    | none => rfl
    | some datagram =>
      simp only [indexed_parseIpDatagram, ok_bind]
      cases hparse : parseIpDatagram datagram with
      | none => rfl
      | some parsed =>
        have hlen := (parseIpDatagram_layout hparse).datagramLen_le
        simp only [indexed_rawPacketFromParts hlen, ok_bind]
        split <;> rfl
  · rw [if_neg hsupported, if_neg hsupported]

theorem recordTurn_end {packetBlock : List UInt8} {offset : Nat}
    (hword : offset + APPLE_BPF_HEADER_FIELDS_LEN < 2 ^ 64)
    (hend : packetBlock.length < offset + APPLE_BPF_HEADER_FIELDS_LEN) :
    capture.recordTurn packetBlock offset = .ok (.leave (.ok (none, offset))) := by
  rw [recordTurn, add_eq hword, ok_bind, if_pos hend]

def frameTurn (nextOffset : Nat) :
    Option RawPacket → Turn Nat (Except McrxError (Option RawPacket × Nat))
  | none => .next nextOffset
  | some packet => .leave (.ok (some packet, nextOffset))

/-- A turn with a malformed or incomplete record leaves, one with a whole record looks at
its frame. -/
theorem recordTurn_record {packetBlock : List UInt8} {offset : Nat}
    (hlen : packetBlock.length < 2 ^ 63)
    (hoffset : offset + APPLE_BPF_HEADER_FIELDS_LEN ≤ packetBlock.length) :
    (frameAt packetBlock offset = none ∧
        capture.recordTurn packetBlock offset = .ok (.leave (.ok (none, packetBlock.length)))) ∨
      ∃ frame nextOffset, frameAt packetBlock offset = some (frame, nextOffset) ∧
        capture.recordTurn packetBlock offset = .ok
          (if capture.datalink ∈ SUPPORTED_DATALINKS then
            frameTurn nextOffset (capture.matchingPacket frame)
          else .leave (.error (unsupportedDatalink capture.datalink))) := by
  rw [recordTurn, add_eq (by omega), ok_bind, if_neg (Nat.not_lt.mpr hoffset), frameAt]
  cases hheader : readAppleBpfRecordHeader packetBlock offset with
  | none => exact .inl ⟨rfl, rfl⟩
  | some lengths =>
    obtain ⟨headerLen, capturedLen⟩ := lengths
    obtain ⟨-, hheaderLen, hcapturedLen⟩ := readAppleBpfRecordHeader_bounds hheader
    have halign : alignUp BPF_ALIGNMENT (headerLen + capturedLen) ≤ headerLen + capturedLen + 3 :=
      alignUp_le
    simp (disch := omega) only [checkedAdd_eq, bpfWordAlign_eq, ok_bind, Option.getD_some]
    by_cases hshort : headerLen < APPLE_BPF_HEADER_FIELDS_LEN
    · rw [if_pos hshort, if_neg (by omega)]
      exact .inl ⟨rfl, rfl⟩
    · by_cases hcut : packetBlock.length < offset + headerLen + capturedLen
      · rw [if_neg hshort, if_pos hcut, if_neg (by omega)]
        exact .inl ⟨rfl, rfl⟩
      · rw [if_neg hshort, if_neg hcut, if_pos (by omega), range_eq (by omega) (by omega), ok_bind,
          packetOfFrame_eq, ok_bind, Nat.add_sub_cancel_left]
        refine .inr ⟨_, _, rfl, ?_⟩
        by_cases hsupported : capture.datalink ∈ SUPPORTED_DATALINKS
        · simp only [if_pos hsupported]
          cases capture.matchingPacket _ <;> rfl
        · simp only [if_neg hsupported]

/-- The packets that a drain still has to return when it stands at `offset`. -/
def pendingPackets (packetBlock : List UInt8) (offset : Nat) : List RawPacket :=
  (framesFrom packetBlock offset).filterMap capture.matchingPacket

/-- A correct answer to a call at `offset`. -/
inductive Answers (packetBlock : List UInt8) (offset : Nat) :
    Except McrxError (Option RawPacket × Nat) → Prop where
  | unsupported (h : capture.datalink ∉ SUPPORTED_DATALINKS) :
      Answers packetBlock offset (.error (unsupportedDatalink capture.datalink))
  | nothing (nextOffset : Nat) (h : capture.pendingPackets packetBlock offset = []) :
      Answers packetBlock offset (.ok (none, nextOffset))
  | packet (packet : RawPacket) (nextOffset : Nat) (hless : offset < nextOffset)
      (hend : nextOffset ≤ packetBlock.length + 3)
      (h : capture.pendingPackets packetBlock offset =
        packet :: capture.pendingPackets packetBlock nextOffset) :
      Answers packetBlock offset (.ok (some packet, nextOffset))

theorem pendingPackets_none {packetBlock : List UInt8} {offset : Nat}
    (h : frameAt packetBlock offset = none) : capture.pendingPackets packetBlock offset = [] := by
  rw [pendingPackets, framesFrom_none h]
  rfl

theorem pendingPackets_some {packetBlock frame : List UInt8} {offset nextOffset : Nat}
    (h : frameAt packetBlock offset = some (frame, nextOffset)) :
    capture.pendingPackets packetBlock offset =
      (capture.matchingPacket frame).toList ++ capture.pendingPackets packetBlock nextOffset := by
  rw [pendingPackets, framesFrom_some h, List.filterMap_cons, pendingPackets]
  cases capture.matchingPacket frame <;> rfl

variable {capture}

/-- What answers a call behind a record without a packet answers one at the record. -/
theorem Answers.skip {packetBlock frame : List UInt8} {offset nextOffset : Nat}
    {result : Except McrxError (Option RawPacket × Nat)}
    (hframe : frameAt packetBlock offset = some (frame, nextOffset))
    (hskip : capture.matchingPacket frame = none)
    (h : capture.Answers packetBlock nextOffset result) :
    capture.Answers packetBlock offset result := by
  have hpending : capture.pendingPackets packetBlock offset =
      capture.pendingPackets packetBlock nextOffset := by
    rw [capture.pendingPackets_some hframe, hskip]
    rfl
  have hless := (frameAt_bounds hframe).2.1
  cases h with
  | unsupported h => exact .unsupported h
  | nothing stop h => exact .nothing stop (hpending.trans h)
  | packet packet stop hless' hend h =>
    exact .packet packet stop (Nat.lt_trans hless hless') hend (hpending.trans h)

variable (capture)

/-- A call has no fault, ends, and answers correctly. -/
theorem nextMatchingAppleBpfPacket_answers {packetBlock : List UInt8} {startOffset : Nat}
    (hlen : packetBlock.length < 2 ^ 63)
    (hword : startOffset + APPLE_BPF_HEADER_FIELDS_LEN < 2 ^ 64) :
    ∃ result, capture.nextMatchingAppleBpfPacket packetBlock startOffset = .ok result ∧
      capture.Answers packetBlock startOffset result := by
  have hfields : APPLE_BPF_HEADER_FIELDS_LEN = 18 := rfl
  refine loop_spec (P := fun offset => offset + APPLE_BPF_HEADER_FIELDS_LEN < 2 ^ 64)
    (m := fun offset => packetBlock.length - offset) (fun offset hoffset => ?_) hword (by omega)
  by_cases hend : packetBlock.length < offset + APPLE_BPF_HEADER_FIELDS_LEN
  · refine .inl ⟨_, capture.recordTurn_end hoffset hend, .nothing _ ?_⟩
    refine capture.pendingPackets_none ?_
    cases hframe : frameAt packetBlock offset with
    | none => rfl
    | some found =>
      obtain ⟨frame, nextOffset⟩ := found
      have hbounds := frameAt_bounds hframe
      omega
  · rcases capture.recordTurn_record hlen (Nat.le_of_not_lt hend) with
      ⟨hframe, hturn⟩ | ⟨frame, nextOffset, hframe, hturn⟩
    · exact .inl ⟨_, hturn, .nothing _ (capture.pendingPackets_none hframe)⟩
    · have hbounds := frameAt_bounds hframe
      by_cases hsupported : capture.datalink ∈ SUPPORTED_DATALINKS
      · rw [if_pos hsupported] at hturn
        cases hpacket : capture.matchingPacket frame with
        | none =>
          rw [hpacket] at hturn
          exact .inr ⟨nextOffset, hturn, by omega, by omega, fun result => .skip hframe hpacket⟩
        | some packet =>
          rw [hpacket] at hturn
          refine .inl ⟨_, hturn, .packet packet nextOffset hbounds.2.1 hbounds.2.2 ?_⟩
          rw [capture.pendingPackets_some hframe, hpacket]
          rfl
      · rw [if_neg hsupported] at hturn
        exact .inl ⟨_, hturn, .unsupported hsupported⟩

/-! ## All calls on a block -/

/-- A turn moves the first pending packet to the packets returned. -/
theorem drainTurn_step {packetBlock : List UInt8} (hlen : packetBlock.length < 2 ^ 63)
    (packets : List RawPacket) {offset : Nat} (hoffset : offset ≤ packetBlock.length + 3) :
    (∃ result, capture.drainTurn packetBlock (offset, packets) = .ok (.leave result) ∧
        (capture.datalink ∈ SUPPORTED_DATALINKS →
          result = .ok (packets ++ capture.pendingPackets packetBlock offset))) ∨
      ∃ nextOffset packet,
        capture.drainTurn packetBlock (offset, packets) =
          .ok (.next (nextOffset, packets ++ [packet])) ∧
        offset < nextOffset ∧ nextOffset ≤ packetBlock.length + 3 ∧
        capture.pendingPackets packetBlock offset =
          packet :: capture.pendingPackets packetBlock nextOffset := by
  obtain ⟨result, hcall, hanswer⟩ :=
    capture.nextMatchingAppleBpfPacket_answers hlen (show offset + 18 < 2 ^ 64 by omega)
  rw [drainTurn, hcall, ok_bind]
  cases hanswer with
  | unsupported h => exact .inl ⟨_, rfl, fun hsupported => absurd hsupported h⟩
  | nothing stop h =>
    refine .inl ⟨_, rfl, fun _ => ?_⟩
    rw [h, List.append_nil]
  | packet packet nextOffset hless hend h => exact .inr ⟨nextOffset, packet, rfl, hless, hend, h⟩

/-- The drain ends, and returns what the block has for the subscription. -/
theorem drain_eq {packetBlock : List UInt8} (hlen : packetBlock.length < 2 ^ 63) :
    ∃ result, capture.drain packetBlock = .ok result ∧
      (capture.datalink ∈ SUPPORTED_DATALINKS →
        result = .ok (capture.pendingPackets packetBlock 0)) := by
  refine loop_spec (P := fun state : Nat × List RawPacket => state.1 ≤ packetBlock.length + 3)
    (m := fun state : Nat × List RawPacket => packetBlock.length + 3 - state.1)
    (Q := fun state (result : Except McrxError (List RawPacket)) =>
      capture.datalink ∈ SUPPORTED_DATALINKS →
        result = .ok (state.2 ++ capture.pendingPackets packetBlock state.1))
    (fun state hstate => ?_) (Nat.zero_le _) (Nat.lt_succ_self _)
  rcases capture.drainTurn_step hlen state.2 hstate with
    hleave | ⟨nextOffset, packet, hturn, hless, hend, hpending⟩
  · exact .inl hleave
  · refine .inr ⟨_, hturn, hend, by dsimp only; omega, fun result hresult hsupported => ?_⟩
    rw [hresult hsupported, hpending, List.append_assoc]
    rfl

end AppleCapture

/-! ## Blocks made of records -/

def u32ToNeBytes (n : UInt32) : List UInt8 := (bytes32 n).reverse

def u16ToNeBytes (n : UInt16) : List UInt8 := (bytes16 n).reverse

/-- A record: its frame, and in the header the fields and any bytes behind them. -/
structure BpfRecord where
  timestamp : Vector UInt8 8
  originalLen : UInt32
  extra : List UInt8
  frame : List UInt8
  headerFits : APPLE_BPF_HEADER_FIELDS_LEN + extra.length < 2 ^ 16
  frameFits : frame.length < 2 ^ 32

namespace BpfRecord

def headerLen (record : BpfRecord) : Nat := APPLE_BPF_HEADER_FIELDS_LEN + record.extra.length

def fields (record : BpfRecord) : List UInt8 :=
  record.timestamp.toList ++ (u32ToNeBytes (.ofNat record.frame.length) ++
    (u32ToNeBytes record.originalLen ++ u16ToNeBytes (.ofNat record.headerLen)))

def bytes (record : BpfRecord) : List UInt8 := record.fields ++ (record.extra ++ record.frame)

end BpfRecord

/-- The records fill the block.  Each is padded, with any bytes, but the last need not be. -/
inductive BlockOf : List BpfRecord → List UInt8 → Prop where
  | empty : BlockOf [] []
  | unpadded (record : BpfRecord) : BlockOf [record] record.bytes
  | cons (record : BpfRecord) (padding : List UInt8) {records : List BpfRecord}
      {packetBlock : List UInt8}
      (hpadding : record.bytes.length + padding.length =
        alignUp BPF_ALIGNMENT record.bytes.length)
      (h : BlockOf records packetBlock) :
      BlockOf (record :: records) (record.bytes ++ (padding ++ packetBlock))

theorem u32FromNeBytes_toNeBytes (n : UInt32) : u32FromNeBytes (u32ToNeBytes n) = some n.toNat :=
  congrArg some (be32_bytes32 n)

theorem u16FromNeBytes_toNeBytes (n : UInt16) : u16FromNeBytes (u16ToNeBytes n) = some n.toNat :=
  congrArg some (be16_bytes16 n)

theorem BpfRecord.length_fields (record : BpfRecord) :
    record.fields.length = APPLE_BPF_HEADER_FIELDS_LEN := by
  simp [fields, u32ToNeBytes, u16ToNeBytes, bytes32, bytes16, APPLE_BPF_HEADER_FIELDS_LEN]

theorem BpfRecord.length_bytes (record : BpfRecord) :
    record.bytes.length = record.headerLen + record.frame.length := by
  rw [bytes, List.length_append, List.length_append, record.length_fields, headerLen,
    Nat.add_assoc]

theorem readAppleBpfRecordHeader_record (record : BpfRecord) {before after : List UInt8}
    (hword : before.length + APPLE_BPF_HEADER_FIELDS_LEN < 2 ^ 64) :
    readAppleBpfRecordHeader (before ++ (record.bytes ++ after)) before.length =
      some (record.headerLen, record.frame.length) := by
  have hheader : getRange (before ++ (record.bytes ++ after)) before.length
      (before.length + APPLE_BPF_HEADER_FIELDS_LEN) = some record.fields :=
    getRange_append (by rw [BpfRecord.bytes, List.append_assoc]) rfl
      (by rw [record.length_fields])
  have hcaptured : getRange record.fields BH_CAPLEN (BH_CAPLEN + 4) =
      some (u32ToNeBytes (.ofNat record.frame.length)) :=
    getRange_append rfl record.timestamp.length_toList.symm rfl
  have hlength : getRange record.fields BH_HDRLEN (BH_HDRLEN + 2) =
      some (u16ToNeBytes (.ofNat record.headerLen)) := by
    have hsplit : record.fields = (record.timestamp.toList ++
        (u32ToNeBytes (.ofNat record.frame.length) ++ u32ToNeBytes record.originalLen)) ++
          (u16ToNeBytes (.ofNat record.headerLen) ++ []) := by
      simp [BpfRecord.fields]
    refine getRange_append hsplit ?_ rfl
    rw [List.length_append, record.timestamp.length_toList]
    rfl
  rw [readAppleBpfRecordHeader, checkedAdd_eq hword]
  simp only [Option.bind_eq_bind, Option.bind_some, hheader, hcaptured, hlength,
    u32FromNeBytes_toNeBytes, u16FromNeBytes_toNeBytes]
  rw [UInt32.toNat_ofNat_of_lt' record.frameFits,
    UInt16.toNat_ofNat_of_lt' (show record.headerLen < _ from record.headerFits)]

theorem frameAt_record (record : BpfRecord) {before after : List UInt8}
    (hword : before.length + APPLE_BPF_HEADER_FIELDS_LEN < 2 ^ 64) :
    frameAt (before ++ (record.bytes ++ after)) before.length =
      some (record.frame, before.length + alignUp BPF_ALIGNMENT record.bytes.length) := by
  have hlength := record.length_bytes
  have hfits : APPLE_BPF_HEADER_FIELDS_LEN ≤ record.headerLen := Nat.le_add_right _ _
  have hsplit : before ++ (record.bytes ++ after) =
      (before ++ (record.fields ++ record.extra)) ++ (record.frame ++ after) := by
    simp only [BpfRecord.bytes, List.append_assoc]
  have hheader : (before ++ (record.fields ++ record.extra)).length =
      before.length + record.headerLen := by
    rw [List.length_append, List.length_append, record.length_fields]
    rfl
  have hdrop : (before ++ (record.bytes ++ after)).drop (before.length + record.headerLen) =
      record.frame ++ after := by
    rw [hsplit, ← hheader, List.drop_left]
  rw [frameAt, readAppleBpfRecordHeader_record record hword]
  simp only [List.length_append]
  rw [if_pos ⟨hfits, by omega⟩, hdrop, List.take_left, hlength]

/-- The walk finds the frames of the records. -/
theorem framesFrom_block {records : List BpfRecord} {packetBlock : List UInt8}
    (h : BlockOf records packetBlock) (before : List UInt8)
    (hlen : before.length + packetBlock.length < 2 ^ 63) :
    framesFrom (before ++ packetBlock) before.length = records.map BpfRecord.frame := by
  have hfields : APPLE_BPF_HEADER_FIELDS_LEN = 18 := rfl
  -- Behind the last record the bytes do not suffice for a header.
  have hend : ∀ (bytes : List UInt8) (offset : Nat), bytes.length ≤ offset →
      framesFrom bytes offset = [] := by
    intro bytes offset hoffset
    refine framesFrom_none ?_
    cases hframe : frameAt bytes offset with
    | none => rfl
    | some found =>
      obtain ⟨frame, nextOffset⟩ := found
      have hbounds := frameAt_bounds hframe
      omega
  induction h generalizing before with
  | empty => exact hend _ _ (by simp)
  | unpadded record =>
    have hframe := @frameAt_record record before [] (by omega)
    rw [List.append_nil] at hframe
    rw [framesFrom_some hframe, hend]
    · rfl
    · rw [List.length_append]
      exact Nat.add_le_add_left (le_alignUp (by decide)) _
  | @cons record padding records packetBlock hpadding h ih =>
    have hframe := @frameAt_record record before (padding ++ packetBlock) (by omega)
    have hnext : before.length + alignUp BPF_ALIGNMENT record.bytes.length =
        (before ++ (record.bytes ++ padding)).length := by
      rw [← hpadding, List.length_append, List.length_append]
    have hrest : before ++ (record.bytes ++ (padding ++ packetBlock)) =
        (before ++ (record.bytes ++ padding)) ++ packetBlock := by
      simp only [List.append_assoc]
    rw [framesFrom_some hframe, hnext, hrest, ih]
    · rfl
    · simp only [List.length_append] at hlen ⊢
      omega

/-- The frames that the subscription takes, of the records of a block, in order. -/
def AppleCapture.matchingPackets (capture : AppleCapture) (records : List BpfRecord) :
    List RawPacket :=
  records.filterMap fun record => capture.matchingPacket record.frame

/-- A drain returns every matching record of a block exactly once, and on any bytes at all
calls stay inside the block, end and go forward. -/
theorem bpf_block_drains (capture : AppleCapture) :
    (∀ records packetBlock, BlockOf records packetBlock → packetBlock.length < 2 ^ 63 →
      capture.datalink ∈ SUPPORTED_DATALINKS →
      capture.drain packetBlock = .ok (.ok (capture.matchingPackets records))) ∧
    (∀ packetBlock startOffset, packetBlock.length < 2 ^ 63 →
      startOffset + APPLE_BPF_HEADER_FIELDS_LEN < 2 ^ 64 →
      ∃ result, capture.nextMatchingAppleBpfPacket packetBlock startOffset = .ok result ∧
        ∀ packet nextOffset, result = .ok (some packet, nextOffset) →
          startOffset < nextOffset ∧ nextOffset ≤ packetBlock.length + 3) ∧
    ∀ packetBlock, packetBlock.length < 2 ^ 63 →
      ∃ result, capture.drain packetBlock = .ok result := by
  refine ⟨fun records packetBlock hblock hlen hsupported => ?_,
    fun packetBlock startOffset hlen hword => ?_, fun packetBlock hlen => ?_⟩
  · obtain ⟨result, hdrain, hresult⟩ := capture.drain_eq hlen
    have hframes := framesFrom_block hblock [] (by simpa using hlen)
    rw [hdrain, hresult hsupported, AppleCapture.pendingPackets]
    rw [List.nil_append] at hframes
    rw [show (0 : Nat) = ([] : List UInt8).length from rfl, hframes, List.filterMap_map]
    rfl
  · obtain ⟨result, hcall, hanswer⟩ := capture.nextMatchingAppleBpfPacket_answers hlen hword
    refine ⟨result, hcall, fun packet nextOffset hresult => ?_⟩
    subst hresult
    cases hanswer with
    | packet _ _ hless hend _ => exact ⟨hless, hend⟩
  · obtain ⟨result, hdrain, -⟩ := capture.drain_eq hlen
    exact ⟨result, hdrain⟩

def paddedRecord : BpfRecord :=
  { timestamp := .replicate 8 0
    originalLen := 32
    extra := []
    frame := paddedDatagram
    headerFits := by decide
    frameFits := by decide }

def rawCapture : AppleCapture :=
  { datalink := DLT_RAW
    interfaceIndex := some 7
    subscriptionId := ⟨1⟩
    config := .asm (.v4 (.new 239 1 2 3)) }

theorem bpf_block_drains_twice :
    rawCapture.drain (paddedRecord.bytes ++ ([0, 0] ++ paddedRecord.bytes)) =
        .ok (.ok (rawCapture.matchingPackets [paddedRecord, paddedRecord])) ∧
      (rawCapture.matchingPackets [paddedRecord, paddedRecord]).length = 2 ∧
      (∃ result, rawCapture.nextMatchingAppleBpfPacket [1, 2, 3] 0 = .ok result ∧
        ∀ packet nextOffset, result = .ok (some packet, nextOffset) →
          0 < nextOffset ∧ nextOffset ≤ 6) ∧
      ∃ result, rawCapture.drain [1, 2, 3] = .ok result := by
  obtain ⟨hdrain, hcall, hends⟩ := bpf_block_drains rawCapture
  exact ⟨hdrain _ _ (.cons paddedRecord [0, 0] (by decide) (.unpadded paddedRecord)) (by decide)
    (by decide), by decide, hcall [1, 2, 3] 0 (by decide) (by decide), hends [1, 2, 3] (by decide)⟩

end McrxCore
