import McrxCore.Lib.ClassicBpf
import McrxCore.Platform.Datagram

/-!
# The kernel filter programs

`bpfIpFilter` and `bpfIpMulticastFamilyFilter` follow the instruction-pushing
code of `platform/raw.rs`, reject indices and back-patching included.  Both are
shown equal to a compiled conjunction of comparisons, and everything about their
runs is read off that conjunction.
-/

namespace McrxCore

open BigEndian ClassicBpf

def BPF_LD : UInt16 := 0x00
def BPF_W : UInt16 := 0x00
def BPF_B : UInt16 := 0x10
def BPF_ABS : UInt16 := 0x20
def BPF_ALU : UInt16 := 0x04
def BPF_AND : UInt16 := 0x50
def BPF_JMP : UInt16 := 0x05
def BPF_JEQ : UInt16 := 0x10
def BPF_K : UInt16 := 0x00
def BPF_RET : UInt16 := 0x06

def bpfStatement (code : UInt16) (value : UInt32) : Instruction :=
  { code := code, jt := 0, jf := 0, k := value }

/-- The instructions pushed so far and the indices of the jumps that reject. -/
structure FilterBuffer where
  instructions : List Instruction
  rejects : List Nat

def FilterBuffer.push (buffer : FilterBuffer) (instruction : Instruction) : FilterBuffer :=
  { buffer with instructions := buffer.instructions ++ [instruction] }

/-- `rejects.push(instructions.len())`. -/
def FilterBuffer.markReject (buffer : FilterBuffer) : FilterBuffer :=
  { buffer with rejects := buffer.rejects ++ [buffer.instructions.length] }

def addComparison (buffer : FilterBuffer) (offset expected : UInt32) : FilterBuffer :=
  ((buffer.push (bpfStatement (BPF_LD ||| BPF_W ||| BPF_ABS) offset)).markReject).push
    (bpfStatement (BPF_JMP ||| BPF_JEQ ||| BPF_K) expected)

/-- The loop over `octets.chunks_exact(4).enumerate()`, from chunk `word` on. -/
def addAddress (offset : UInt32) (word : Nat) : List UInt8 → FilterBuffer → FilterBuffer
  | a :: b :: c :: d :: rest, buffer =>
    addAddress offset (word + 1) rest
      (addComparison buffer (offset + UInt32.ofNat word * 4) (UInt32.ofNat (be32 a b c d)))
  | _, buffer => buffer

/-- The index of the reject instruction, once the accept instruction is pushed. -/
def FilterBuffer.rejectIndex (buffer : FilterBuffer) : Nat :=
  (buffer.push (bpfStatement (BPF_RET ||| BPF_K) 0xffffffff)).instructions.length

/-- The two return instructions, and the jump offsets of the recorded
comparisons. -/
def FilterBuffer.finish (buffer : FilterBuffer) : List Instruction :=
  let rejectIndex := buffer.rejectIndex
  let buffer := (buffer.push (bpfStatement (BPF_RET ||| BPF_K) 0xffffffff)).push
    (bpfStatement (BPF_RET ||| BPF_K) 0)
  buffer.rejects.foldl (fun instructions comparisonIndex =>
    instructions.modify comparisonIndex (fun instruction =>
      { instruction with jf := UInt8.ofNat (rejectIndex - comparisonIndex - 1) }))
    buffer.instructions

def versionComparison (ipOffset version : UInt32) : FilterBuffer :=
  ((({ instructions := [bpfStatement (BPF_LD ||| BPF_B ||| BPF_ABS) ipOffset,
        bpfStatement (BPF_ALU ||| BPF_AND ||| BPF_K) 0xf0], rejects := [] } :
      FilterBuffer).markReject).push
    (bpfStatement (BPF_JMP ||| BPF_JEQ ||| BPF_K) version))

/-- The buffer `bpf_ip_filter` has built before the return instructions. -/
def ipFilterBuffer (config : RawSubscriptionConfig) (ipOffset : UInt32) : FilterBuffer :=
  let buffer := versionComparison ipOffset (if config.isIpv4 then 0x40 else 0x60)
  let (sourceOffset, destinationOffset) :=
    if config.isIpv4 then (ipOffset + 12, ipOffset + 16) else (ipOffset + 8, ipOffset + 24)
  let buffer := addAddress destinationOffset 0 config.group.octets buffer
  match config.source with
  | .any => buffer
  | .source source => addAddress sourceOffset 0 source.octets buffer

def bpfIpFilter (config : RawSubscriptionConfig) (ipOffset : UInt32) : List Instruction :=
  (ipFilterBuffer config ipOffset).finish

def familyFilterBuffer (family : SubscriptionAddressFamily) (ipOffset : UInt32) :
    FilterBuffer :=
  let (version, destinationOffset, destinationMask, destinationValue) :=
    match family with
    | .ipv4 => ((0x40 : UInt32), ipOffset + 16, some (0xf0 : UInt32), (0xe0 : UInt32))
    | .ipv6 => (0x60, ipOffset + 24, none, 0xff)
  let buffer := versionComparison ipOffset version
  let buffer := buffer.push (bpfStatement (BPF_LD ||| BPF_B ||| BPF_ABS) destinationOffset)
  let buffer := match destinationMask with
    | some mask => buffer.push (bpfStatement (BPF_ALU ||| BPF_AND ||| BPF_K) mask)
    | none => buffer
  buffer.markReject.push (bpfStatement (BPF_JMP ||| BPF_JEQ ||| BPF_K) destinationValue)

def bpfIpMulticastFamilyFilter (family : SubscriptionAddressFamily) (ipOffset : UInt32) :
    List Instruction :=
  (familyFilterBuffer family ipOffset).finish

/-! ## The comparisons behind a buffer -/

/-- The buffer holds exactly the comparisons `tests`. -/
structure FilterBuffer.Holds (buffer : FilterBuffer) (tests : List Test) : Prop where
  instructions : buffer.instructions = emit tests
  rejects : buffer.rejects = rejectIndices 0 tests

theorem FilterBuffer.Holds.finish {buffer : FilterBuffer} {tests : List Test}
    (h : buffer.Holds tests) : buffer.finish = compile 0xffffffff tests := by
  have hpatch := patch_emit 0xffffffff [] tests 0 rfl
    (show (emit tests).length + 1 = 0 + (emit tests).length + 1 by omega)
  rw [List.nil_append, List.nil_append] at hpatch
  rw [← hpatch]
  simp only [FilterBuffer.finish, FilterBuffer.rejectIndex, FilterBuffer.push, h.instructions,
    h.rejects, patch, List.append_assoc, List.length_append, List.length_cons, List.length_nil]
  rfl

/-- Two tests appended to a buffer: the one instruction list grows by the code of
the test, and the reject list by the index of its jump. -/
theorem FilterBuffer.Holds.append {buffer : FilterBuffer} {tests : List Test}
    (h : buffer.Holds tests) (t : Test) :
    FilterBuffer.Holds
      { instructions := buffer.instructions ++ (t.loadCode ++ [jump t 0])
        rejects := buffer.rejects ++ [buffer.instructions.length + t.loadCode.length] }
      (tests ++ [t]) := by
  constructor
  · rw [emit_append, h.instructions]
    rfl
  · show buffer.rejects ++ [buffer.instructions.length + t.loadCode.length] = _
    rw [rejectIndices_append, h.rejects, h.instructions, Nat.zero_add]
    rfl

def wordTest (offset expected : UInt32) : Test :=
  { code := ldW, offset := offset, mask := none, expected := expected }

theorem addComparison_holds {buffer : FilterBuffer} {tests : List Test} (h : buffer.Holds tests)
    (offset expected : UInt32) :
    (addComparison buffer offset expected).Holds (tests ++ [wordTest offset expected]) := by
  have happ := h.append (wordTest offset expected)
  have heq : addComparison buffer offset expected =
      { instructions := buffer.instructions ++
          ((wordTest offset expected).loadCode ++ [jump (wordTest offset expected) 0])
        rejects := buffer.rejects ++
          [buffer.instructions.length + (wordTest offset expected).loadCode.length] } := by
    simp only [addComparison, FilterBuffer.push, FilterBuffer.markReject, List.length_append,
      List.append_assoc]
    rfl
  rw [heq]
  exact happ

theorem addAddress_holds {buffer : FilterBuffer} {tests : List Test} (h : buffer.Holds tests)
    (offset : UInt32) (word : Nat) (octets : List UInt8) :
    (addAddress offset word octets buffer).Holds (tests ++ wordTests offset word octets) := by
  fun_induction wordTests offset word octets generalizing buffer tests with
  | case1 word a b c d rest ih =>
    have hstep := ih (addComparison_holds h (offset + UInt32.ofNat word * 4)
      (UInt32.ofNat (be32 a b c d)))
    rw [List.append_assoc] at hstep
    exact hstep
  | case2 octets word hshort =>
    rw [List.append_nil]
    rcases octets with _ | ⟨a, _ | ⟨b, _ | ⟨c, _ | ⟨d, rest⟩⟩⟩⟩
    · exact h
    · exact h
    · exact h
    · exact h
    · exact absurd rfl (hshort a b c d rest)

def versionTest (ipOffset version : UInt32) : Test :=
  { code := ldB, offset := ipOffset, mask := some 0xf0, expected := version }

theorem versionComparison_holds (ipOffset version : UInt32) :
    (versionComparison ipOffset version).Holds [versionTest ipOffset version] := by
  constructor <;> rfl

/-! ## The comparisons of the two programs -/

def familyVersion : SubscriptionAddressFamily → UInt32
  | .ipv4 => 0x40
  | .ipv6 => 0x60

def sourceTests (config : RawSubscriptionConfig) (ipOffset : UInt32) : List Test :=
  match config.source with
  | .any => []
  | .source source => wordTests (ipOffset + UInt32.ofNat (sourceStart config.family)) 0
      source.octets

def ipFilterTests (config : RawSubscriptionConfig) (ipOffset : UInt32) : List Test :=
  versionTest ipOffset (familyVersion config.family) ::
    (wordTests (ipOffset + UInt32.ofNat (destinationStart config.family)) 0 config.group.octets ++
      sourceTests config ipOffset)

theorem ipFilterBuffer_eq (config : RawSubscriptionConfig) (ipOffset : UInt32) :
    ipFilterBuffer config ipOffset =
      match config.source with
      | .any => addAddress (ipOffset + UInt32.ofNat (destinationStart config.family)) 0
          config.group.octets
          (versionComparison ipOffset (familyVersion config.family))
      | .source source =>
        addAddress (ipOffset + UInt32.ofNat (sourceStart config.family)) 0 source.octets
          (addAddress (ipOffset + UInt32.ofNat (destinationStart config.family)) 0
            config.group.octets
            (versionComparison ipOffset (familyVersion config.family))) := by
  unfold ipFilterBuffer RawSubscriptionConfig.isIpv4
  cases config.family <;> rfl

theorem ipFilterBuffer_holds (config : RawSubscriptionConfig) (ipOffset : UInt32) :
    (ipFilterBuffer config ipOffset).Holds (ipFilterTests config ipOffset) := by
  have hdestination := addAddress_holds
    (versionComparison_holds ipOffset (familyVersion config.family))
    (ipOffset + UInt32.ofNat (destinationStart config.family)) 0 config.group.octets
  rw [ipFilterBuffer_eq, ipFilterTests, sourceTests]
  cases config.source with
  | any =>
    rw [List.append_nil]
    exact hdestination
  | source source =>
    exact addAddress_holds hdestination (ipOffset + UInt32.ofNat (sourceStart config.family)) 0
      source.octets

theorem bpfIpFilter_eq_compile (config : RawSubscriptionConfig) (ipOffset : UInt32) :
    bpfIpFilter config ipOffset = compile 0xffffffff (ipFilterTests config ipOffset) :=
  (ipFilterBuffer_holds config ipOffset).finish

def multicastTest (ipOffset : UInt32) : SubscriptionAddressFamily → Test
  | .ipv4 => { code := ldB, offset := ipOffset + 16, mask := some 0xf0, expected := 0xe0 }
  | .ipv6 => { code := ldB, offset := ipOffset + 24, mask := none, expected := 0xff }

def familyTests (family : SubscriptionAddressFamily) (ipOffset : UInt32) : List Test :=
  [versionTest ipOffset (familyVersion family), multicastTest ipOffset family]

theorem bpfIpMulticastFamilyFilter_eq_compile (family : SubscriptionAddressFamily)
    (ipOffset : UInt32) :
    bpfIpMulticastFamilyFilter family ipOffset =
      compile 0xffffffff (familyTests family ipOffset) := by
  refine FilterBuffer.Holds.finish ?_
  cases family <;> constructor <;> rfl

end McrxCore
