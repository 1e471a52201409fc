import McrxCore.Lib.Align
import McrxCore.Lib.Slice
import McrxCore.Packet

/-!
# Control messages on Windows

`apply_receive_ancillary_data` walks the control messages of a `WSAMSG` by pointers.  The
model has the whole memory, logs every read with its address, and checks each address
computation.  `NULL` is address 0.
-/

namespace McrxCore

namespace WindowsControl

open Align Slice

inductive Target where
  | bits32
  | bits64
  deriving DecidableEq, Repr

namespace Target

/-- `size_of::<usize>()`. -/
def pointerSize : Target → Nat
  | bits32 => 4
  | bits64 => 8

def bits (target : Target) : Nat := 8 * target.pointerSize

/-- `size_of::<CMSGHDR>()`: a `usize` length and the level and type, four bytes each. -/
def sizeofCmsghdr (target : Target) : Nat := target.pointerSize + 8

/-- `align_of::<CMSGHDR>()`. -/
def alignofCmsghdr (target : Target) : Nat := target.pointerSize

/-- `a.checked_add(b)`. -/
def checkedAdd (target : Target) (a b : Nat) : Option Nat :=
  if a + b < 2 ^ target.bits then some (a + b) else none

/-- `a + b`. -/
def add (target : Target) (a b : Nat) : Except Fault Nat :=
  match target.checkedAdd a b with
  | some sum => .ok sum
  | none => .error .overflow

end Target

def NULL : Nat := 0

/-- `WSAMSG`, as far as `Control` goes, and the memory it points into. -/
structure Wsamsg where
  memory : Nat → UInt8
  buf : Nat
  len : UInt32

structure Span where
  address : Nat
  size : Nat
  deriving DecidableEq, Repr

/-- Code that reads memory, with the log of its reads. -/
abbrev Access := StateT (List Span) (Except Fault)

/-! ## Reading fields -/

def numberAt (memory : Nat → UInt8) (address : Nat) : Nat → Nat
  | 0 => 0
  | size + 1 => (memory address).toNat + 256 * numberAt memory (address + 1) size

def logRead (address size : Nat) : Access Unit :=
  modify fun reads => reads ++ [{ address := address, size := size }]

section Fields

variable (target : Target) (msg : Wsamsg)

/-- `(*cmsg).cmsg_len`. -/
def cmsgLen (cmsg : Nat) : Access Nat := do
  logRead cmsg target.pointerSize
  return numberAt msg.memory cmsg target.pointerSize

/-- `(*cmsg).cmsg_level`. -/
def cmsgLevel (cmsg : Nat) : Access Nat := do
  let address ← target.add cmsg target.pointerSize
  logRead address 4
  return numberAt msg.memory address 4

/-- `(*cmsg).cmsg_type`. -/
def cmsgType (cmsg : Nat) : Access Nat := do
  let address ← target.add cmsg (target.pointerSize + 4)
  logRead address 4
  return numberAt msg.memory address 4

/-! ## The helpers of the walk -/

def wsaCmsgAlign (length : Nat) : Except Fault Nat := do
  let sum ← target.add length target.alignofCmsghdr
  .ok ((sum - 1) &&& notWord target.bits (target.alignofCmsghdr - 1))

def wsaCmsgSpace (length : Nat) : Except Fault Nat := do
  target.add (← wsaCmsgAlign target target.sizeofCmsghdr) (← wsaCmsgAlign target length)

def wsaCmsgLen (length : Nat) : Except Fault Nat := do
  target.add (← wsaCmsgAlign target target.sizeofCmsghdr) length

/-- `control_message_contains::<T>` for a `T` of `size` bytes. -/
def controlMessageContains (cmsg size : Nat) : Access Bool := do
  let length ← cmsgLen target msg cmsg
  let needed ← wsaCmsgLen target size
  return decide (needed ≤ length)

def wsaCmsgFirsthdr : Except Fault Nat :=
  if msg.buf = NULL then .ok NULL
  else do
    if msg.len.toNat < (← wsaCmsgSpace target 0) then .ok NULL else .ok msg.buf

def wsaCmsgNxthdr (cmsg : Nat) : Access Nat :=
  if cmsg = NULL then wsaCmsgFirsthdr target msg
  else
    match target.checkedAdd msg.buf msg.len.toNat, target.checkedAdd cmsg target.sizeofCmsghdr with
    | some max, some currentHeaderEnd =>
      if cmsg < msg.buf ∨ max < currentHeaderEnd then return NULL
      else do
        let currentLen ← cmsgLen target msg cmsg
        if currentLen < (← wsaCmsgLen target 0) then return NULL
        else
          let mask := notWord target.bits (target.alignofCmsghdr - 1)
          match (target.checkedAdd currentLen (target.alignofCmsghdr - 1)).map (· &&& mask) with
          | none => return NULL
          | some alignedLen =>
            match target.checkedAdd cmsg alignedLen with
            | none => return NULL
            | some next => do
              let header ← wsaCmsgAlign target target.sizeofCmsghdr
              match target.checkedAdd next header with
              | none => return NULL
              | some nextEnd => return if max < nextEnd then NULL else next
    | _, _ => return NULL

def wsaCmsgData (cmsg : Nat) : Except Fault Nat := do
  target.add cmsg (← wsaCmsgAlign target target.sizeofCmsghdr)

end Fields

/-! ## The walk -/

def IPPROTO_IP : Nat := 0
def IPPROTO_IPV6 : Nat := 41
def IP_PKTINFO : Nat := 19
def IPV6_PKTINFO : Nat := 19

def pktinfoLevel : SubscriptionAddressFamily → Nat
  | .ipv4 => IPPROTO_IP
  | .ipv6 => IPPROTO_IPV6

def pktinfoType : SubscriptionAddressFamily → Nat
  | .ipv4 => IP_PKTINFO
  | .ipv6 => IPV6_PKTINFO

/-- The size of the address at the start of `IN_PKTINFO` and `IN6_PKTINFO`. -/
def sizeofPktinfoAddr : SubscriptionAddressFamily → Nat
  | .ipv4 => 4
  | .ipv6 => 16

/-- `size_of::<IN_PKTINFO>()` and `size_of::<IN6_PKTINFO>()`: the address and the interface
index. -/
def sizeofPktinfo (family : SubscriptionAddressFamily) : Nat := sizeofPktinfoAddr family + 4

def pktinfoAddr (memory : Nat → UInt8) (address : Nat) : SubscriptionAddressFamily → IpAddr
  | .ipv4 => .v4 ⟨Vector.ofFn fun i : Fin 4 => memory (address + i.val)⟩
  | .ipv6 => .v6 ⟨Vector.ofFn fun i : Fin 16 => memory (address + i.val)⟩

def withPktinfo (memory : Nat → UInt8) (address : Nat) (family : SubscriptionAddressFamily)
    (metadata : ReceiveMetadata) : ReceiveMetadata :=
  let ifindex := numberAt memory (address + sizeofPktinfoAddr family) 4
  { metadata with
    destinationLocalIp := some (pktinfoAddr memory address family)
    ingressInterfaceIndex :=
      if ifindex ≠ 0 then some (.ofNat ifindex) else metadata.ingressInterfaceIndex }

/-- `std::ptr::read_unaligned` of the packet info, into the metadata. -/
def readPktinfo (msg : Wsamsg) (address : Nat) (family : SubscriptionAddressFamily)
    (metadata : ReceiveMetadata) : Access ReceiveMetadata := do
  logRead address (sizeofPktinfo family)
  return withPktinfo msg.memory address family metadata

section Loop

variable (target : Target) (msg : Wsamsg) (family : SubscriptionAddressFamily)

def applyHeader (cmsg : Nat) (metadata : ReceiveMetadata) : Access ReceiveMetadata := do
  if (← cmsgLevel target msg cmsg) = pktinfoLevel family then
    if (← cmsgType target msg cmsg) = pktinfoType family then
      if ← controlMessageContains target msg cmsg (sizeofPktinfo family) then
        readPktinfo msg (← wsaCmsgData target cmsg) family metadata
      else return metadata
    else return metadata
  else return metadata

/-- The variables of the loop, with the headers visited and the reads so far. -/
structure Walk where
  cmsg : Nat
  metadata : ReceiveMetadata
  visited : List Nat
  reads : List Span

def walkTurn (walk : Walk) : Except Fault (Turn Walk Walk) :=
  if walk.cmsg = NULL then .ok (.leave walk)
  else do
    let (metadata, reads) ← (applyHeader target msg family walk.cmsg walk.metadata).run walk.reads
    let (next, reads) ← (wsaCmsgNxthdr target msg walk.cmsg).run reads
    .ok (.next
      { cmsg := next
        metadata := metadata
        visited := walk.visited ++ [walk.cmsg]
        reads := reads })

def applyReceiveAncillaryData (metadata : ReceiveMetadata) : Except Fault Walk := do
  let first ← wsaCmsgFirsthdr target msg
  loop (walkTurn target msg family) (msg.len.toNat + 2)
    { cmsg := first
      metadata := metadata
      visited := []
      reads := [] }

end Loop

/-! ## The arithmetic of the helpers -/

namespace Target

theorem checkedAdd_eq {target : Target} {a b : Nat} (h : a + b < 2 ^ target.bits) :
    target.checkedAdd a b = some (a + b) :=
  if_pos h

theorem checkedAdd_none {target : Target} {a b : Nat} (h : 2 ^ target.bits ≤ a + b) :
    target.checkedAdd a b = none :=
  if_neg (Nat.not_lt.mpr h)

theorem add_eq {target : Target} {a b : Nat} (h : a + b < 2 ^ target.bits) :
    target.add a b = .ok (a + b) := by
  rw [add, checkedAdd_eq h]

end Target

theorem wsaCmsgAlign_sizeofCmsghdr (target : Target) :
    wsaCmsgAlign target target.sizeofCmsghdr = .ok target.sizeofCmsghdr := by
  cases target <;> rfl

theorem wsaCmsgSpace_zero (target : Target) :
    wsaCmsgSpace target 0 = .ok target.sizeofCmsghdr := by
  cases target <;> rfl

theorem wsaCmsgLen_eq {target : Target} {length : Nat}
    (h : target.sizeofCmsghdr + length < 2 ^ target.bits) :
    wsaCmsgLen target length = .ok (target.sizeofCmsghdr + length) := by
  rw [wsaCmsgLen, wsaCmsgAlign_sizeofCmsghdr, ok_bind, Target.add_eq h]

theorem wsaCmsgData_eq {target : Target} {cmsg : Nat}
    (h : cmsg + target.sizeofCmsghdr < 2 ^ target.bits) :
    wsaCmsgData target cmsg = .ok (cmsg + target.sizeofCmsghdr) := by
  rw [wsaCmsgData, wsaCmsgAlign_sizeofCmsghdr, ok_bind, Target.add_eq h]

/-! ## Runs of the accesses -/

/-- The `cmsg_len` of the header at an address. -/
def lenAt (target : Target) (msg : Wsamsg) (cmsg : Nat) : Nat :=
  numberAt msg.memory cmsg target.pointerSize

section Runs

variable {α β : Type} {reads reads' : List Span}

theorem run_bind {access : Access α} {value : α} (h : access.run reads = .ok (value, reads'))
    (next : α → Access β) : (access >>= next).run reads = (next value).run reads' := by
  rw [StateT.run_bind, h]
  rfl

theorem run_lift_bind {computed : Except Fault α} {value : α} (h : computed = .ok value)
    (next : α → Access β) :
    ((liftM computed : Access α) >>= next).run reads = (next value).run reads := by
  rw [h]
  rfl

end Runs

section Runs

variable {target : Target} (msg : Wsamsg) (cmsg : Nat) (reads : List Span)

theorem run_cmsgLen (target : Target) : (cmsgLen target msg cmsg).run reads =
    .ok (lenAt target msg cmsg,
      reads ++ [{ address := cmsg, size := target.pointerSize }]) := rfl

theorem run_cmsgLevel {cmsg : Nat} (h : cmsg + target.pointerSize < 2 ^ target.bits) :
    (cmsgLevel target msg cmsg).run reads =
      .ok (numberAt msg.memory (cmsg + target.pointerSize) 4,
        reads ++ [{ address := cmsg + target.pointerSize, size := 4 }]) := by
  rw [cmsgLevel, run_lift_bind (Target.add_eq h)]
  rfl

theorem run_cmsgType {cmsg : Nat} (h : cmsg + (target.pointerSize + 4) < 2 ^ target.bits) :
    (cmsgType target msg cmsg).run reads =
      .ok (numberAt msg.memory (cmsg + (target.pointerSize + 4)) 4,
        reads ++ [{ address := cmsg + (target.pointerSize + 4), size := 4 }]) := by
  rw [cmsgType, run_lift_bind (Target.add_eq h)]
  rfl

theorem run_controlMessageContains {size : Nat}
    (h : target.sizeofCmsghdr + size < 2 ^ target.bits) :
    (controlMessageContains target msg cmsg size).run reads =
      .ok (decide (target.sizeofCmsghdr + size ≤ lenAt target msg cmsg),
        reads ++ [{ address := cmsg, size := target.pointerSize }]) := by
  rw [controlMessageContains, run_bind (run_cmsgLen msg cmsg reads target),
    run_lift_bind (wsaCmsgLen_eq h)]
  rfl

theorem run_readPktinfo (family : SubscriptionAddressFamily) (metadata : ReceiveMetadata) :
    (readPktinfo msg cmsg family metadata).run reads =
      .ok (withPktinfo msg.memory cmsg family metadata,
        reads ++ [{ address := cmsg, size := sizeofPktinfo family }]) := rfl

end Runs

/-! ## One header -/

section Headers

variable (target : Target) (msg : Wsamsg) (family : SubscriptionAddressFamily)

/-- The header at an address claims to carry the packet info of the family. -/
def ClaimsPktinfo (cmsg : Nat) : Prop :=
  numberAt msg.memory (cmsg + target.pointerSize) 4 = pktinfoLevel family ∧
    numberAt msg.memory (cmsg + (target.pointerSize + 4)) 4 = pktinfoType family ∧
    target.sizeofCmsghdr + sizeofPktinfo family ≤ lenAt target msg cmsg

instance (cmsg : Nat) : Decidable (ClaimsPktinfo target msg family cmsg) :=
  inferInstanceAs (Decidable (_ ∧ _ ∧ _))

/-- Where the header at an address says that the next one is, if `Control` has it. -/
def nextHeader (cmsg : Nat) : Option Nat :=
  let next := cmsg + alignUp target.alignofCmsghdr (lenAt target msg cmsg)
  if target.sizeofCmsghdr ≤ lenAt target msg cmsg ∧
      next + target.sizeofCmsghdr ≤ msg.buf + msg.len.toNat then some next
  else none

def fieldReads (cmsg : Nat) : List Span :=
  { address := cmsg + target.pointerSize, size := 4 } ::
    if numberAt msg.memory (cmsg + target.pointerSize) 4 = pktinfoLevel family then
      { address := cmsg + (target.pointerSize + 4), size := 4 } ::
        if numberAt msg.memory (cmsg + (target.pointerSize + 4)) 4 = pktinfoType family then
          [{ address := cmsg, size := target.pointerSize }]
        else []
    else []

def pktinfoReads (cmsg : Nat) : List Span :=
  if ClaimsPktinfo target msg family cmsg then
    [{ address := cmsg + target.sizeofCmsghdr, size := sizeofPktinfo family }]
  else []

def headerMetadata (metadata : ReceiveMetadata) (cmsg : Nat) : ReceiveMetadata :=
  if ClaimsPktinfo target msg family cmsg then
    withPktinfo msg.memory (cmsg + target.sizeofCmsghdr) family metadata
  else metadata

variable {target msg}

theorem applyHeader_run {cmsg : Nat} (hword : cmsg + target.sizeofCmsghdr < 2 ^ target.bits)
    (metadata : ReceiveMetadata) (reads : List Span) :
    (applyHeader target msg family cmsg metadata).run reads =
      .ok (headerMetadata target msg family metadata cmsg,
        reads ++ (fieldReads target msg family cmsg ++ pktinfoReads target msg family cmsg)) := by
  have hsize : target.sizeofCmsghdr = target.pointerSize + 8 := rfl
  have hlevel : cmsg + target.pointerSize < 2 ^ target.bits := by omega
  have htype : cmsg + (target.pointerSize + 4) < 2 ^ target.bits := by omega
  have hcontains : target.sizeofCmsghdr + sizeofPktinfo family < 2 ^ target.bits := by
    cases target <;> cases family <;> decide
  rw [applyHeader, run_bind (run_cmsgLevel msg reads hlevel), headerMetadata, fieldReads,
    pktinfoReads]
  by_cases hlevelIs : numberAt msg.memory (cmsg + target.pointerSize) 4 = pktinfoLevel family
  · rw [if_pos hlevelIs, if_pos hlevelIs, run_bind (run_cmsgType msg _ htype)]
    by_cases htypeIs :
        numberAt msg.memory (cmsg + (target.pointerSize + 4)) 4 = pktinfoType family
    · rw [if_pos htypeIs, if_pos htypeIs,
        run_bind (run_controlMessageContains msg cmsg _ hcontains)]
      by_cases hclaims : target.sizeofCmsghdr + sizeofPktinfo family ≤ lenAt target msg cmsg
      · have hpktinfo : ClaimsPktinfo target msg family cmsg := ⟨hlevelIs, htypeIs, hclaims⟩
        rw [if_pos hpktinfo, if_pos hpktinfo, if_pos (decide_eq_true hclaims),
          run_lift_bind (wsaCmsgData_eq hword), run_readPktinfo]
        simp only [List.append_assoc]
        rfl
      · have hpktinfo : ¬ ClaimsPktinfo target msg family cmsg := fun h => hclaims h.2.2
        rw [if_neg hpktinfo, if_neg hpktinfo, if_neg (by simpa using hclaims), List.append_nil]
        simp only [List.append_assoc]
        rfl
    · have hpktinfo : ¬ ClaimsPktinfo target msg family cmsg := fun h => htypeIs h.2.1
      rw [if_neg htypeIs, if_neg htypeIs, if_neg hpktinfo, if_neg hpktinfo, List.append_nil]
      simp only [List.append_assoc]
      rfl
  · have hpktinfo : ¬ ClaimsPktinfo target msg family cmsg := fun h => hlevelIs h.1
    rw [if_neg hlevelIs, if_neg hlevelIs, if_neg hpktinfo, if_neg hpktinfo, List.append_nil]
    rfl

/-- The header at an address lies in `Control`. -/
def InControl (target : Target) (msg : Wsamsg) (cmsg : Nat) : Prop :=
  msg.buf ≤ cmsg ∧ cmsg + target.sizeofCmsghdr ≤ msg.buf + msg.len.toNat

theorem land_alignofCmsghdr {length : Nat}
    (h : length + (target.alignofCmsghdr - 1) < 2 ^ target.bits) :
    (length + (target.alignofCmsghdr - 1)) &&& notWord target.bits (target.alignofCmsghdr - 1) =
      alignUp target.alignofCmsghdr length := by
  cases target with
  | bits32 => exact @land_notWord_eq_alignUp 32 2 length (by decide) h
  | bits64 => exact @land_notWord_eq_alignUp 64 3 length (by decide) h

/-- The next header, or `NULL`; no sum overflows unchecked. -/
theorem wsaCmsgNxthdr_run (hbuf : msg.buf ≠ NULL)
    (hword : msg.buf + msg.len.toNat < 2 ^ target.bits) {cmsg : Nat}
    (hin : InControl target msg cmsg) (reads : List Span) :
    (wsaCmsgNxthdr target msg cmsg).run reads =
      .ok ((nextHeader target msg cmsg).getD NULL,
        reads ++ [{ address := cmsg, size := target.pointerSize }]) := by
  obtain ⟨hlow, hhigh⟩ := hin
  have hnull : cmsg ≠ NULL := by
    have hzero : NULL = 0 := rfl
    omega
  have hzero : target.sizeofCmsghdr + 0 < 2 ^ target.bits := by omega
  rw [wsaCmsgNxthdr, if_neg hnull, Target.checkedAdd_eq hword,
    Target.checkedAdd_eq (show cmsg + target.sizeofCmsghdr < 2 ^ target.bits by omega)]
  dsimp only
  rw [if_neg (by omega), run_bind (run_cmsgLen msg cmsg reads target),
    run_lift_bind (wsaCmsgLen_eq hzero), Nat.add_zero, nextHeader]
  by_cases hshort : lenAt target msg cmsg < target.sizeofCmsghdr
  · rw [if_pos hshort, if_neg (fun h => Nat.not_le.mpr hshort h.1)]
    rfl
  · have halign : lenAt target msg cmsg ≤ alignUp target.alignofCmsghdr (lenAt target msg cmsg) :=
      le_alignUp (by cases target <;> decide)
    have hless : target.alignofCmsghdr ≤ target.sizeofCmsghdr := Nat.le_add_right _ _
    rw [if_neg hshort]
    by_cases hsum : lenAt target msg cmsg + (target.alignofCmsghdr - 1) < 2 ^ target.bits
    · rw [Target.checkedAdd_eq hsum, Option.map_some, land_alignofCmsghdr hsum]
      dsimp only
      by_cases hnext :
          cmsg + alignUp target.alignofCmsghdr (lenAt target msg cmsg) < 2 ^ target.bits
      · rw [Target.checkedAdd_eq hnext]
        dsimp only
        rw [run_lift_bind (wsaCmsgAlign_sizeofCmsghdr target)]
        by_cases hend : msg.buf + msg.len.toNat <
            cmsg + alignUp target.alignofCmsghdr (lenAt target msg cmsg) + target.sizeofCmsghdr
        · rw [if_neg (fun h => Nat.not_le.mpr hend h.2)]
          by_cases hnextEnd : cmsg + alignUp target.alignofCmsghdr (lenAt target msg cmsg) +
              target.sizeofCmsghdr < 2 ^ target.bits
          · rw [Target.checkedAdd_eq hnextEnd]
            dsimp only
            rw [if_pos hend]
            rfl
          · rw [Target.checkedAdd_none (Nat.le_of_not_lt hnextEnd)]
            rfl
        · rw [Target.checkedAdd_eq (by omega)]
          dsimp only
          rw [if_neg hend, if_pos ⟨Nat.le_of_not_lt hshort, Nat.le_of_not_lt hend⟩]
          rfl
      · rw [Target.checkedAdd_none (Nat.le_of_not_lt hnext), if_neg (by omega)]
        rfl
    · rw [Target.checkedAdd_none (Nat.le_of_not_lt hsum), if_neg (by omega)]
      rfl

/-! ## The chain of headers -/

theorem nextHeader_bounds {cmsg next : Nat} (h : nextHeader target msg cmsg = some next) :
    cmsg + target.sizeofCmsghdr ≤ next ∧
      next + target.sizeofCmsghdr ≤ msg.buf + msg.len.toNat := by
  rw [nextHeader] at h
  split at h
  · rename_i hfits
    cases h
    have halign : lenAt target msg cmsg ≤ alignUp target.alignofCmsghdr (lenAt target msg cmsg) :=
      le_alignUp (by cases target <;> decide)
    omega
  · cases h

theorem sizeofCmsghdr_pos (target : Target) : 0 < target.sizeofCmsghdr :=
  Nat.succ_pos _

variable (target msg)

/-- The chain from a header on: each header says where the next one is. -/
def headersFrom (cmsg : Nat) : List Nat :=
  match _h : nextHeader target msg cmsg with
  | none => [cmsg]
  | some next => cmsg :: headersFrom next
termination_by msg.buf + msg.len.toNat - cmsg
decreasing_by
  have hbounds := nextHeader_bounds _h
  have hpos := sizeofCmsghdr_pos target
  omega

/-- The headers of `Control`: the first at its start, if there is room for one. -/
def headers : List Nat :=
  if msg.buf = NULL ∨ msg.len.toNat < target.sizeofCmsghdr then []
  else headersFrom target msg msg.buf

variable {target msg}

theorem headersFrom_none {cmsg : Nat} (h : nextHeader target msg cmsg = none) :
    headersFrom target msg cmsg = [cmsg] := by
  rw [headersFrom]
  split
  · rfl
  · rename_i hsome
    rw [h] at hsome
    cases hsome

theorem headersFrom_some {cmsg next : Nat} (h : nextHeader target msg cmsg = some next) :
    headersFrom target msg cmsg = cmsg :: headersFrom target msg next := by
  rw [headersFrom]
  split
  · rename_i hnone
    rw [h] at hnone
    cases hnone
  · rename_i hsome
    rw [h] at hsome
    cases hsome
    rfl

/-- Behind a header in `Control` all headers are in `Control`, each beyond the one before. -/
theorem headersFrom_chain {cmsg : Nat} (hin : InControl target msg cmsg) :
    (headersFrom target msg cmsg).Pairwise (· < ·) ∧
      ∀ header ∈ headersFrom target msg cmsg, cmsg ≤ header ∧ InControl target msg header := by
  induction hroom : msg.buf + msg.len.toNat - cmsg using Nat.strong_induction_on
    generalizing cmsg with
  | _ room ih =>
    have hpos := sizeofCmsghdr_pos target
    cases hnext : nextHeader target msg cmsg with
    | none =>
      rw [headersFrom_none hnext]
      refine ⟨List.pairwise_singleton _ _, fun header hmem => ?_⟩
      rw [List.mem_singleton.mp hmem]
      exact ⟨Nat.le_refl _, hin⟩
    | some next =>
      obtain ⟨hstep, hend⟩ := nextHeader_bounds hnext
      have hinNext : InControl target msg next := ⟨by have := hin.1; omega, hend⟩
      obtain ⟨hsorted, hrest⟩ := ih (msg.buf + msg.len.toNat - next) (by omega) hinNext rfl
      rw [headersFrom_some hnext]
      refine ⟨List.pairwise_cons.mpr ⟨fun header hmem => ?_, hsorted⟩, fun header hmem => ?_⟩
      · have hlow := (hrest header hmem).1
        omega
      · rcases List.mem_cons.mp hmem with rfl | hmem
        · exact ⟨Nat.le_refl _, hin⟩
        · have hlow := hrest header hmem
          exact ⟨by omega, hlow.2⟩

/-! ## The loop -/

variable (target msg)

def turnReads (cmsg : Nat) : List Span :=
  fieldReads target msg family cmsg ++ pktinfoReads target msg family cmsg ++
    [{ address := cmsg, size := target.pointerSize }]

def remaining (cmsg : Nat) : List Nat := if cmsg = NULL then [] else headersFrom target msg cmsg

def finish (walk : Walk) : Walk :=
  { cmsg := NULL
    metadata := (remaining target msg walk.cmsg).foldl (headerMetadata target msg family)
      walk.metadata
    visited := walk.visited ++ remaining target msg walk.cmsg
    reads := walk.reads ++ (remaining target msg walk.cmsg).flatMap (turnReads target msg family) }

variable {target msg}

theorem walkTurn_header (hbuf : msg.buf ≠ NULL)
    (hword : msg.buf + msg.len.toNat < 2 ^ target.bits) {walk : Walk}
    (hin : InControl target msg walk.cmsg) :
    walkTurn target msg family walk = .ok (.next
      { cmsg := (nextHeader target msg walk.cmsg).getD NULL
        metadata := headerMetadata target msg family walk.metadata walk.cmsg
        visited := walk.visited ++ [walk.cmsg]
        reads := walk.reads ++ turnReads target msg family walk.cmsg }) := by
  have hnull : walk.cmsg ≠ NULL := by
    have hlow := hin.1
    have hzero : NULL = 0 := rfl
    omega
  rw [walkTurn, if_neg hnull, applyHeader_run family (by have := hin.2; omega), ok_bind]
  dsimp only
  rw [wsaCmsgNxthdr_run hbuf hword hin, ok_bind, List.append_assoc]
  rfl

theorem finish_null {walk : Walk} (h : walk.cmsg = NULL) :
    finish target msg family walk = walk := by
  obtain ⟨cmsg, metadata, visited, reads⟩ := walk
  subst h
  rw [finish, remaining, if_pos rfl, List.foldl_nil, List.flatMap_nil, List.append_nil,
    List.append_nil]

/-- What is left of the loop after a turn. -/
theorem finish_header {walk : Walk} (hnull : walk.cmsg ≠ NULL)
    (hnext : ∀ next, nextHeader target msg walk.cmsg = some next → next ≠ NULL) :
    finish target msg family
        { cmsg := (nextHeader target msg walk.cmsg).getD NULL
          metadata := headerMetadata target msg family walk.metadata walk.cmsg
          visited := walk.visited ++ [walk.cmsg]
          reads := walk.reads ++ turnReads target msg family walk.cmsg } =
      finish target msg family walk := by
  have hremaining : remaining target msg walk.cmsg =
      walk.cmsg :: remaining target msg ((nextHeader target msg walk.cmsg).getD NULL) := by
    rw [remaining, if_neg hnull]
    cases h : nextHeader target msg walk.cmsg with
    | none =>
      rw [headersFrom_none h]
      rfl
    | some next => rw [headersFrom_some h, Option.getD_some, remaining, if_neg (hnext next h)]
  rw [finish, finish, hremaining]
  simp only [List.foldl_cons, List.flatMap_cons, List.append_assoc, List.singleton_append]

theorem loop_walkTurn (hbuf : msg.buf ≠ NULL)
    (hword : msg.buf + msg.len.toNat < 2 ^ target.bits) {turns : Nat} {walk : Walk}
    (hstart : walk.cmsg = NULL ∨ InControl target msg walk.cmsg)
    (hturns : msg.len.toNat + 1 < turns) :
    loop (walkTurn target msg family) turns walk = .ok (finish target msg family walk) := by
  have hzero : NULL = 0 := rfl
  have hpos := sizeofCmsghdr_pos target
  refine loop_eq (P := fun walk : Walk => walk.cmsg = NULL ∨ InControl target msg walk.cmsg)
    (m := fun walk => if walk.cmsg = NULL then 0 else msg.buf + msg.len.toNat + 1 - walk.cmsg)
    (fun walk hwalk => ?_) hstart ?_
  · by_cases hnull : walk.cmsg = NULL
    · refine .inl ?_
      rw [walkTurn, if_pos hnull, finish_null family hnull]
    · have hin := hwalk.resolve_left hnull
      have hnext : ∀ next, nextHeader target msg walk.cmsg = some next → next ≠ NULL := by
        intro next h
        have hbounds := nextHeader_bounds h
        omega
      refine .inr ⟨_, walkTurn_header family hbuf hword hin, ?_, ?_,
        finish_header family hnull hnext⟩
      · cases h : nextHeader target msg walk.cmsg with
        | none => exact .inl rfl
        | some next =>
          have hlow := hin.1
          have hbounds := nextHeader_bounds h
          exact .inr ⟨by dsimp only [Option.getD_some]; omega, hbounds.2⟩
      · have hhigh := hin.2
        dsimp only
        rw [if_neg hnull]
        cases h : nextHeader target msg walk.cmsg with
        | none =>
          rw [Option.getD_none, if_pos rfl]
          omega
        | some next =>
          have hbounds := nextHeader_bounds h
          rw [Option.getD_some, if_neg (hnext next h)]
          omega
  · split
    · omega
    · have hlow := (hstart.resolve_left ‹_›).1
      omega

/-- The whole walk: it visits the headers, and its reads are those of their turns. -/
theorem applyReceiveAncillaryData_eq (hword : msg.buf + msg.len.toNat < 2 ^ target.bits)
    (metadata : ReceiveMetadata) :
    applyReceiveAncillaryData target msg family metadata = .ok
      { cmsg := NULL
        metadata := (headers target msg).foldl (headerMetadata target msg family) metadata
        visited := headers target msg
        reads := (headers target msg).flatMap (turnReads target msg family) } := by
  have hfirst : wsaCmsgFirsthdr target msg = .ok
      (if msg.buf = NULL ∨ msg.len.toNat < target.sizeofCmsghdr then NULL else msg.buf) := by
    rw [wsaCmsgFirsthdr, wsaCmsgSpace_zero, ok_bind]
    by_cases hbuf : msg.buf = NULL
    · rw [if_pos hbuf, if_pos (Or.inl hbuf)]
    · rw [if_neg hbuf]
      by_cases hshort : msg.len.toNat < target.sizeofCmsghdr
      · rw [if_pos hshort, if_pos (Or.inr hshort)]
      · rw [if_neg hshort, if_neg (not_or.mpr ⟨hbuf, hshort⟩)]
  rw [applyReceiveAncillaryData, hfirst, ok_bind, headers]
  by_cases hnone : msg.buf = NULL ∨ msg.len.toNat < target.sizeofCmsghdr
  · rw [if_pos hnone, if_pos hnone, loop, walkTurn, if_pos rfl]
    rfl
  · obtain ⟨hbuf, hroom⟩ := not_or.mp hnone
    rw [if_neg hnone, if_neg hnone, loop_walkTurn family hbuf hword (.inr ⟨Nat.le_refl _, by
      dsimp only
      omega⟩) (by omega), finish, remaining, if_neg hbuf]
    rfl

end Headers

/-! ## Where the reads stay -/

/-- The bytes of a read have offsets in `[0, Control.len)`. -/
def Inside (msg : Wsamsg) (span : Span) : Prop :=
  msg.buf ≤ span.address ∧ span.address + span.size ≤ msg.buf + msg.len.toNat

section Inside

variable {target : Target} {msg : Wsamsg} {cmsg : Nat} (family : SubscriptionAddressFamily)

theorem fieldReads_inside (hin : InControl target msg cmsg) {span : Span}
    (h : span ∈ fieldReads target msg family cmsg) : Inside msg span := by
  obtain ⟨hlow, hhigh⟩ := hin
  have hsize : target.sizeofCmsghdr = target.pointerSize + 8 := rfl
  rw [fieldReads] at h
  rcases List.mem_cons.mp h with rfl | h
  · exact ⟨by dsimp only; omega, by dsimp only; omega⟩
  · split at h
    · rcases List.mem_cons.mp h with rfl | h
      · exact ⟨by dsimp only; omega, by dsimp only; omega⟩
      · split at h
        · rw [List.mem_singleton.mp h]
          exact ⟨hlow, by dsimp only; omega⟩
        · cases h
    · cases h

/-- Only the packet info can lie beyond the end. -/
theorem turnReads_inside_iff (hin : InControl target msg cmsg) :
    (∀ span ∈ turnReads target msg family cmsg, Inside msg span) ↔
      (ClaimsPktinfo target msg family cmsg →
        cmsg + target.sizeofCmsghdr + sizeofPktinfo family ≤ msg.buf + msg.len.toNat) := by
  have hsize : target.sizeofCmsghdr = target.pointerSize + 8 := rfl
  constructor
  · intro h hclaims
    have hmem : { address := cmsg + target.sizeofCmsghdr, size := sizeofPktinfo family } ∈
        turnReads target msg family cmsg := by
      rw [turnReads, pktinfoReads, if_pos hclaims]
      simp
    exact (h _ hmem).2
  · intro hfits span hmem
    rcases List.mem_append.mp hmem with hmem | hmem
    · rcases List.mem_append.mp hmem with hmem | hmem
      · exact fieldReads_inside family hin hmem
      · rw [pktinfoReads] at hmem
        split at hmem
        · rename_i hclaims
          rw [List.mem_singleton.mp hmem]
          exact ⟨Nat.le_trans hin.1 (Nat.le_add_right _ _), hfits hclaims⟩
        · cases hmem
    · rw [List.mem_singleton.mp hmem]
      exact ⟨hin.1, by have := hin.2; dsimp only; omega⟩

theorem headers_chain (target : Target) (msg : Wsamsg) :
    (headers target msg).Pairwise (· < ·) ∧
      ∀ header ∈ headers target msg, InControl target msg header := by
  rw [headers]
  split
  · exact ⟨List.Pairwise.nil, fun header h => by cases h⟩
  · rename_i hfirst
    have hroom := (not_or.mp hfirst).2
    have hin : InControl target msg msg.buf := ⟨Nat.le_refl _, by omega⟩
    obtain ⟨hsorted, hrest⟩ := headersFrom_chain hin
    exact ⟨hsorted, fun header hmem => (hrest header hmem).2⟩

end Inside

/-- The walk ends, goes forward through the headers of `Control`, and reads inside
`Control` exactly if no header claims packet info that `Control` cuts off. -/
theorem control_walk_inside_iff (target : Target) (msg : Wsamsg)
    (family : SubscriptionAddressFamily) (metadata : ReceiveMetadata)
    (hword : msg.buf + msg.len.toNat < 2 ^ target.bits) :
    ∃ walk, applyReceiveAncillaryData target msg family metadata = .ok walk ∧
      walk.visited.Pairwise (· < ·) ∧
      (∀ cmsg ∈ walk.visited, InControl target msg cmsg) ∧
      ((∀ span ∈ walk.reads, Inside msg span) ↔
        ∀ cmsg ∈ headers target msg, ClaimsPktinfo target msg family cmsg →
          cmsg + target.sizeofCmsghdr + sizeofPktinfo family ≤ msg.buf + msg.len.toNat) := by
  obtain ⟨hsorted, hin⟩ := headers_chain target msg
  refine ⟨_, applyReceiveAncillaryData_eq family hword metadata, hsorted, hin, ?_⟩
  constructor
  · intro h cmsg hmem
    refine (turnReads_inside_iff family (hin cmsg hmem)).mp fun span hspan => ?_
    exact h span (List.mem_flatMap.mpr ⟨cmsg, hmem, hspan⟩)
  · intro h span hspan
    obtain ⟨cmsg, hmem, hspan⟩ := List.mem_flatMap.mp hspan
    exact (turnReads_inside_iff family (hin cmsg hmem)).mpr (h cmsg hmem) span hspan

/-- A control buffer of 24 bytes, of which 16 are reported: a header that claims 24 bytes
of packet info. -/
def cutMessage : Wsamsg :=
  { memory := fun address => if address = 4096 then 24 else if address = 4108 then 19 else 0
    buf := 4096
    len := 16 }

def noMetadata : ReceiveMetadata :=
  { socketLocalAddr := none
    configuredInterface := none
    configuredInterfaceIndex := none
    destinationLocalIp := none
    ingressInterfaceIndex := none }

theorem control_walk_leaves_control :
    ¬ ∀ (target : Target) (msg : Wsamsg) (family : SubscriptionAddressFamily)
      (metadata : ReceiveMetadata), msg.buf % target.alignofCmsghdr = 0 →
      msg.buf + msg.len.toNat < 2 ^ target.bits →
      ∃ walk, applyReceiveAncillaryData target msg family metadata = .ok walk ∧
        ∀ span ∈ walk.reads, Inside msg span := by
  intro h
  obtain ⟨walk, hwalk, hinside⟩ := h .bits64 cutMessage .ipv4 noMetadata rfl (by decide)
  have hrun := applyReceiveAncillaryData_eq .ipv4
    (show cutMessage.buf + cutMessage.len.toNat < 2 ^ Target.bits64.bits by decide) noMetadata
  have hfirst : cutMessage.buf ∈ headers .bits64 cutMessage := by
    rw [headers, if_neg (by decide), headersFrom_none (by decide)]
    exact List.mem_singleton_self _
  have hclaims : ClaimsPktinfo .bits64 cutMessage .ipv4 cutMessage.buf := by decide
  rw [hrun] at hwalk
  cases hwalk
  have hin : InControl .bits64 cutMessage cutMessage.buf := ⟨by decide, by decide⟩
  have hfits := (turnReads_inside_iff .ipv4 hin).mp
    (fun span hspan => hinside span (List.mem_flatMap.mpr ⟨_, hfirst, hspan⟩)) hclaims
  revert hfits
  decide

theorem control_walk_inside_iff_cut :
    ∃ walk, applyReceiveAncillaryData .bits64 cutMessage .ipv4 noMetadata = .ok walk ∧
      walk.visited.Pairwise (· < ·) ∧
      (∀ cmsg ∈ walk.visited, InControl .bits64 cutMessage cmsg) ∧
      ((∀ span ∈ walk.reads, Inside cutMessage span) ↔
        ∀ cmsg ∈ headers .bits64 cutMessage, ClaimsPktinfo .bits64 cutMessage .ipv4 cmsg →
          cmsg + 16 + 8 ≤ 4096 + 16) :=
  control_walk_inside_iff .bits64 cutMessage .ipv4 noMetadata (by decide)

end WindowsControl

end McrxCore
