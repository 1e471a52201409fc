import McrxCore.Platform.Ethernet
import McrxCore.Platform.FilterCorrect

/-!
# The capture filter of a BPF device

`appleSubscriptionFilter` puts a prologue of nine instructions, its jumps written by
hand, in front of the generated filter where frames have an Ethernet header.  Every frame
whose datagram the userspace path would deliver passes the filter, and on untagged frames
the filter and the userspace path agree.
-/

namespace McrxCore

open BigEndian ClassicBpf Slice

def DLT_NULL : UInt32 := 0
def DLT_EN10MB : UInt32 := 1
def DLT_RAW : UInt32 := 12
def DLT_LOOP : UInt32 := 108

def BPF_H : UInt16 := 0x08

def unsupportedDatalink (datalink : UInt32) : McrxError :=
  .rawPacketReceiveUnsupported s!"macOS BPF datalink type {datalink} is not supported yet"

def ethernetPrologue (expectedEthertype : UInt32) : List Instruction :=
  [bpfStatement (BPF_LD ||| BPF_H ||| BPF_ABS) 12,
    { code := BPF_JMP ||| BPF_JEQ ||| BPF_K, jt := 7, jf := 0, k := expectedEthertype },
    { code := BPF_JMP ||| BPF_JEQ ||| BPF_K, jt := 0, jf := 1, k := 0x8100 },
    bpfStatement (BPF_RET ||| BPF_K) 0xffffffff,
    { code := BPF_JMP ||| BPF_JEQ ||| BPF_K, jt := 0, jf := 1, k := 0x88a8 },
    bpfStatement (BPF_RET ||| BPF_K) 0xffffffff,
    { code := BPF_JMP ||| BPF_JEQ ||| BPF_K, jt := 0, jf := 1, k := 0x9100 },
    bpfStatement (BPF_RET ||| BPF_K) 0xffffffff,
    bpfStatement (BPF_RET ||| BPF_K) 0]

def appleSubscriptionFilter (datalink : UInt32) (config : RawSubscriptionConfig) :
    Except McrxError (List Instruction) :=
  if datalink = DLT_RAW then .ok (bpfIpFilter config 0)
  else if datalink = DLT_NULL ∨ datalink = DLT_LOOP then .ok (bpfIpFilter config 4)
  else if datalink = DLT_EN10MB then
    let expectedEthertype := if config.isIpv4 then 0x0800 else 0x86dd
    .ok (ethernetPrologue expectedEthertype ++ bpfIpFilter config 14)
  else .error (unsupportedDatalink datalink)

def stripAppleLinkLayer (frame : List UInt8) (datalink : UInt32) :
    Except Fault (Except McrxError (Option (List UInt8))) :=
  if datalink = DLT_RAW then .ok (.ok (some frame))
  else if datalink = DLT_NULL ∨ datalink = DLT_LOOP then .ok (.ok (getFrom frame 4))
  else if datalink = DLT_EN10MB then do
    let datagram ← stripEthernetLinkLayer frame
    .ok (.ok datagram)
  else .ok (.error (unsupportedDatalink datalink))

/-! ## The Ethernet prologue -/

/-- The ethertype that an Ethernet header carries at offset 12. -/
def outerEthertype (frame : List UInt8) : Option Nat := loadH frame 12

def familyEthertype : SubscriptionAddressFamily → Nat
  | .ipv4 => 0x0800
  | .ipv6 => 0x86dd

def Untagged (frame : List UInt8) : Prop :=
  ∀ ethertype, outerEthertype frame = some ethertype → isTagProtocol ethertype = false

/-- An equality jump over the accept instruction behind it. -/
theorem exec_acceptIf (frame : List UInt8) {k : UInt32} {ethertype : Nat}
    (hk : k.toNat = ethertype) (rest : List Instruction) (acc : Nat) :
    exec frame ({ code := BPF_JMP ||| BPF_JEQ ||| BPF_K, jt := 0, jf := 1, k := k } ::
        bpfStatement (BPF_RET ||| BPF_K) 0xffffffff :: rest) 0 acc =
      if acc = ethertype then some (.returned 0xffffffff) else exec frame rest 0 acc := by
  subst hk
  show exec frame (_ :: rest) (if acc = k.toNat then 0 else 1) acc = _
  split <;> rfl

theorem exec_tagChecks (frame : List UInt8) (rest : List Instruction) (ethertype : Nat) :
    exec frame ((ethernetPrologue 0).drop 2 ++ rest) 0 ethertype =
      if isTagProtocol ethertype then some (.returned 0xffffffff) else some (.returned 0) := by
  refine (@exec_acceptIf frame 0x8100 0x8100 rfl _ ethertype).trans ?_
  by_cases hcustomer : ethertype = 0x8100
  · rw [hcustomer]
    rfl
  · rw [if_neg hcustomer]
    refine (@exec_acceptIf frame 0x88a8 0x88a8 rfl _ ethertype).trans ?_
    by_cases hservice : ethertype = 0x88a8
    · rw [hservice]
      rfl
    · rw [if_neg hservice]
      refine (@exec_acceptIf frame 0x9100 0x9100 rfl _ ethertype).trans ?_
      by_cases hdouble : ethertype = 0x9100
      · rw [hdouble]
        rfl
      · rw [if_neg hdouble, isTagProtocol, beq_false_of_ne hcustomer, beq_false_of_ne hservice,
          beq_false_of_ne hdouble]
        rfl

/-- The prologue hands frames of the expected ethertype to the filter and accepts what is
tagged. -/
theorem run_ethernetPrologue (frame : List UInt8) (expected : UInt32)
    (filter : List Instruction) :
    run (ethernetPrologue expected ++ filter) frame =
      match outerEthertype frame with
      | none => some .outOfRange
      | some ethertype =>
        if ethertype = expected.toNat then exec frame filter 0 ethertype
        else if isTagProtocol ethertype then some (.returned 0xffffffff)
        else some (.returned 0) := by
  have hload : load frame (BPF_LD ||| BPF_H ||| BPF_ABS) (12 : UInt32).toNat =
      some (outerEthertype frame) := rfl
  rw [run, ethernetPrologue, List.cons_append, exec]
  simp only [bpfStatement, hload]
  cases outerEthertype frame with
  | none => rfl
  | some ethertype =>
    show exec frame (_ ++ filter) (if ethertype = expected.toNat then 7 else 0) ethertype = _
    by_cases hexpected : ethertype = expected.toNat
    · rw [if_pos hexpected]
      simp only [if_pos hexpected]
      rfl
    · rw [if_neg hexpected]
      simp only [if_neg hexpected]
      exact exec_tagChecks frame filter ethertype

theorem jumpsLand_ethernetPrologue (expected : UInt32) {filter : List Instruction}
    (hpos : 0 < filter.length) (h : JumpsLand filter) :
    JumpsLand (ethernetPrologue expected ++ filter) := by
  have hjump : BPF_JMP ||| BPF_JEQ ||| BPF_K = jeqK := rfl
  have hload : BPF_LD ||| BPF_H ||| BPF_ABS ≠ jeqK := by decide
  have hret : BPF_RET ||| BPF_K ≠ jeqK := by decide
  simp only [ethernetPrologue, List.cons_append, List.nil_append, JumpsLand, bpfStatement,
    List.length_cons]
  refine ⟨fun heq => absurd heq hload, fun _ => ⟨?_, ?_⟩, fun _ => ⟨?_, ?_⟩,
    fun heq => absurd heq hret, fun _ => ⟨?_, ?_⟩, fun heq => absurd heq hret,
    fun _ => ⟨?_, ?_⟩, fun heq => absurd heq hret, fun heq => absurd heq hret, h⟩
  all_goals
    simp only [UInt8.reduceToNat]
    omega

theorem jumpsLand_bpfIpFilter (config : RawSubscriptionConfig) (ipOffset : UInt32) :
    JumpsLand (bpfIpFilter config ipOffset) := by
  rw [bpfIpFilter_eq_compile]
  exact jumpsLand_compile _ (ipFilterTests_wellFormed config ipOffset)

/-! ## The filter against the userspace path -/

/-- On a frame whose link layer comes off `ipOffset` bytes long, the generated filter
answers what `packetMatchesConfig` answers. -/
theorem exec_bpfIpFilter_drop {config : RawSubscriptionConfig} (hvalid : config.validate = .ok ())
    {ipOffset : UInt32} (hoffset : ipOffset.toNat ≤ 14) {frame : List UInt8}
    (hlen : ipOffset.toNat ≤ frame.length) {parsed : ParsedIpDatagram}
    (h : parseIpDatagram (frame.drop ipOffset.toNat) = some parsed) (acc : Nat) :
    (exec frame (bpfIpFilter config ipOffset) 0 acc).any Verdict.accepts = true ↔
      packetMatchesConfig parsed config = true := by
  have hp : (frame.take ipOffset.toNat).length = ipOffset.toNat := by
    rw [List.length_take]
    omega
  have htests := ipFilterTests_hold hvalid hp (by omega) h
  rw [List.take_append_drop] at htests
  rw [← htests, bpfIpFilter_eq_compile, exec_compile (ipFilterTests_wellFormed config ipOffset)
    (by have hcount := ipFilter_length config ipOffset; rw [compile_length]; omega),
    Option.any_some]
  exact verdict_accepts (by decide) _

theorem outerEthertype_of_innermost {frame : List UInt8} {found : Nat × List UInt8}
    (h : innermost frame = some found) :
    ∃ ethertype, outerEthertype frame = some ethertype ∧ 14 ≤ frame.length ∧
      untag ethertype (frame.drop 14) = some found := by
  by_cases hlen : frame.length < 14
  · rw [innermost, readEthertype_short (by rw [List.length_drop]; omega)] at h
    cases h
  · rw [innermost_eq (by omega)] at h
    refine ⟨_, ?_, by omega, h⟩
    rw [outerEthertype, loadH, List.drop_eq_getElem_cons (by omega),
      List.drop_eq_getElem_cons (by omega)]

theorem innermost_of_decapsulate {frame datagram : List UInt8}
    (h : decapsulate frame = some datagram) :
    ∃ ethertype, innermost frame = some (ethertype, datagram) := by
  rw [decapsulate] at h
  cases hfound : innermost frame with
  | none =>
    rw [hfound] at h
    cases h
  | some found =>
    rw [hfound] at h
    dsimp only at h
    split at h
    · cases h
      exact ⟨_, rfl⟩
    · cases h

theorem familyEthertype_eq (config : RawSubscriptionConfig) :
    (if config.isIpv4 then 0x0800 else 0x86dd : UInt32).toNat = familyEthertype config.family := by
  rw [RawSubscriptionConfig.isIpv4]
  cases config.family <;> rfl

theorem isTagProtocol_familyEthertype (family : SubscriptionAddressFamily) :
    isTagProtocol (familyEthertype family) = false := by
  cases family <;> rfl

/-- `program` is a capture filter for the subscription: it loses no frame, admits nothing
else of what is untagged, and jumps to its own instructions only. -/
structure Captures (datalink : UInt32) (config : RawSubscriptionConfig)
    (program : List Instruction) : Prop where
  keeps : ∀ frame datagram parsed,
    stripAppleLinkLayer frame datalink = .ok (.ok (some datagram)) →
    parseIpDatagram datagram = some parsed → packetMatchesConfig parsed config = true →
    (datalink = DLT_EN10MB →
      (innermost frame).map Prod.fst = some (familyEthertype parsed.destinationIp.family)) →
    accepts program frame = true
  admits : ∀ frame datagram parsed,
    stripAppleLinkLayer frame datalink = .ok (.ok (some datagram)) →
    parseIpDatagram datagram = some parsed → (datalink = DLT_EN10MB → Untagged frame) →
    accepts program frame = true → packetMatchesConfig parsed config = true
  jumps : ∀ index instruction, program[index]? = some instruction →
    instruction.code = BPF_JMP ||| BPF_JEQ ||| BPF_K →
    index + 1 + instruction.jt.toNat < program.length ∧
      index + 1 + instruction.jf.toNat < program.length

/-- Without an Ethernet header the program is the generated filter. -/
theorem captures_offset {config : RawSubscriptionConfig} (hvalid : config.validate = .ok ())
    {datalink ipOffset : UInt32} (hoffset : ipOffset.toNat ≤ 14)
    (hstrip : ∀ frame datagram, stripAppleLinkLayer frame datalink = .ok (.ok (some datagram)) →
      ipOffset.toNat ≤ frame.length ∧ datagram = frame.drop ipOffset.toNat) :
    Captures datalink config (bpfIpFilter config ipOffset) := by
  refine ⟨fun frame datagram parsed hframe h hmatches _ => ?_,
    fun frame datagram parsed hframe h _ haccepts => ?_,
    fun index instruction => (jumpsLand_bpfIpFilter config ipOffset).getElem?⟩
  · obtain ⟨hlen, rfl⟩ := hstrip frame datagram hframe
    exact (exec_bpfIpFilter_drop hvalid hoffset hlen h 0).mpr hmatches
  · obtain ⟨hlen, rfl⟩ := hstrip frame datagram hframe
    exact (exec_bpfIpFilter_drop hvalid hoffset hlen h 0).mp haccepts

theorem captures_ethernet {config : RawSubscriptionConfig} (hvalid : config.validate = .ok ()) :
    Captures DLT_EN10MB config
      (ethernetPrologue (if config.isIpv4 then 0x0800 else 0x86dd) ++ bpfIpFilter config 14) := by
  have hpos : 0 < (bpfIpFilter config 14).length := by
    rw [bpfIpFilter_eq_compile, compile_length]
    omega
  have hstrip : ∀ frame datagram, stripAppleLinkLayer frame DLT_EN10MB =
      .ok (.ok (some datagram)) → ∃ outer inner, outerEthertype frame = some outer ∧
        14 ≤ frame.length ∧ innermost frame = some (inner, datagram) ∧
        untag outer (frame.drop 14) = some (inner, datagram) := by
    intro frame datagram hframe
    have hdecapsulate : decapsulate frame = some datagram := by
      have hrun : stripAppleLinkLayer frame DLT_EN10MB = .ok (.ok (decapsulate frame)) := by
        show (stripEthernetLinkLayer frame >>= _) = _
        rw [stripEthernetLinkLayer_eq]
        rfl
      exact Except.ok.inj (Except.ok.inj (hrun.symm.trans hframe))
    obtain ⟨inner, hinner⟩ := innermost_of_decapsulate hdecapsulate
    obtain ⟨outer, houter, hlen, huntag⟩ := outerEthertype_of_innermost hinner
    exact ⟨outer, inner, houter, hlen, hinner, huntag⟩
  refine ⟨fun frame datagram parsed hframe h hmatches hagrees => ?_,
    fun frame datagram parsed hframe h huntagged haccepts => ?_,
    fun index instruction => (jumpsLand_ethernetPrologue _ hpos
      (jumpsLand_bpfIpFilter config 14)).getElem?⟩
  · obtain ⟨outer, inner, houter, hlen, hinner, huntag⟩ := hstrip frame datagram hframe
    have hfamily : parsed.destinationIp.family = config.family := by
      rw [(packetMatchesConfig_iff.mp hmatches).1]
      rfl
    have hinnerType : inner = familyEthertype config.family := by
      have hfirst := hagrees rfl
      rw [hinner, hfamily] at hfirst
      exact Option.some.inj hfirst
    rw [accepts, run_ethernetPrologue, houter]
    simp only [familyEthertype_eq]
    cases htag : isTagProtocol outer with
    | true =>
      have hne : outer ≠ familyEthertype config.family := by
        rintro rfl
        rw [isTagProtocol_familyEthertype] at htag
        cases htag
      rw [if_neg hne]
      rfl
    | false =>
      rw [untag_of_not htag] at huntag
      cases huntag
      rw [if_pos hinnerType]
      exact (@exec_bpfIpFilter_drop config hvalid 14 (by decide) frame hlen parsed h _).mpr hmatches
  · obtain ⟨outer, inner, houter, hlen, hinner, huntag⟩ := hstrip frame datagram hframe
    have htag := huntagged rfl outer houter
    rw [untag_of_not htag] at huntag
    cases huntag
    rw [accepts, run_ethernetPrologue, houter] at haccepts
    simp only [familyEthertype_eq] at haccepts
    by_cases houterType : outer = familyEthertype config.family
    · rw [if_pos houterType] at haccepts
      exact (@exec_bpfIpFilter_drop config hvalid 14 (by decide) frame hlen parsed h _).mp haccepts
    · rw [if_neg houterType, htag] at haccepts
      cases haccepts

/-- Every supported device gets a filter that captures for its subscription. -/
theorem appleSubscriptionFilter_captures {config : RawSubscriptionConfig}
    (hvalid : config.validate = .ok ()) {datalink : UInt32}
    (hsupported : datalink ∈ [DLT_RAW, DLT_NULL, DLT_LOOP, DLT_EN10MB]) :
    ∃ program, appleSubscriptionFilter datalink config = .ok program ∧
      Captures datalink config program := by
  have hskip : ∀ frame datagram : List UInt8, getFrom frame 4 = some datagram →
      4 ≤ frame.length ∧ datagram = frame.drop 4 := by
    intro frame datagram hframe
    rw [getFrom] at hframe
    split at hframe
    · rename_i hlen
      exact ⟨hlen, (Option.some.inj hframe).symm⟩
    · cases hframe
  simp only [List.mem_cons, List.not_mem_nil, or_false] at hsupported
  rcases hsupported with rfl | rfl | rfl | rfl
  · refine ⟨_, rfl, captures_offset hvalid (by decide) fun frame datagram hframe => ?_⟩
    obtain rfl : frame = datagram := Option.some.inj (Except.ok.inj (Except.ok.inj hframe))
    exact ⟨Nat.zero_le _, rfl⟩
  · exact ⟨_, rfl, captures_offset hvalid (by decide) fun frame datagram hframe =>
      hskip frame datagram (Except.ok.inj (Except.ok.inj hframe))⟩
  · exact ⟨_, rfl, captures_offset hvalid (by decide) fun frame datagram hframe =>
      hskip frame datagram (Except.ok.inj (Except.ok.inj hframe))⟩
  · exact ⟨_, rfl, captures_ethernet hvalid⟩

theorem appleSubscriptionFilter_captures_ssm :
    ∃ program, appleSubscriptionFilter DLT_EN10MB
        (.ssm (.v4 (.new 232 1 2 3)) (.v4 (.new 10 1 2 3))) = .ok program ∧
      Captures DLT_EN10MB (.ssm (.v4 (.new 232 1 2 3)) (.v4 (.new 10 1 2 3))) program :=
  appleSubscriptionFilter_captures (by decide) (by decide)

end McrxCore
