import McrxCore.Platform.Udp
import McrxCore.Platform.WindowsControl

/-!
# Control messages in memory

The layout that the walk over `Control` takes apart: each message is a `CMSGHDR` and its
data, and stands where the one before it ends, aligned.  The walk reads every message of
a layout and nothing else, and the metadata that it makes is that of a list of messages.
-/

namespace McrxCore

namespace WindowsControl

open Align Slice

/-! ## Bytes in memory -/

def Holds (memory : Nat → UInt8) : Nat → List UInt8 → Prop
  | _, [] => True
  | address, byte :: bytes => memory address = byte ∧ Holds memory (address + 1) bytes

def leBytes : Nat → Nat → List UInt8
  | 0, _ => []
  | size + 1, value => .ofNat value :: leBytes size (value / 256)

@[simp] theorem length_leBytes (size value : Nat) : (leBytes size value).length = size := by
  induction size generalizing value with
  | zero => rfl
  | succ size ih => rw [leBytes, List.length_cons, ih]

section Bytes

variable {memory : Nat → UInt8} {address : Nat}

theorem holds_append (bytes rest : List UInt8) :
    Holds memory address (bytes ++ rest) ↔
      Holds memory address bytes ∧ Holds memory (address + bytes.length) rest := by
  induction bytes generalizing address with
  | nil => simp [Holds]
  | cons byte bytes ih =>
    have haddress : address + 1 + bytes.length = address + (byte :: bytes).length := by
      rw [List.length_cons]
      omega
    rw [List.cons_append, Holds, Holds, ih, haddress, and_assoc]

/-- The number at the address of its bytes. -/
theorem numberAt_leBytes {size value : Nat} (h : Holds memory address (leBytes size value))
    (hvalue : value < 256 ^ size) : numberAt memory address size = value := by
  induction size generalizing address value with
  | zero =>
    rw [Nat.pow_zero] at hvalue
    rw [numberAt]
    omega
  | succ size ih =>
    obtain ⟨hbyte, hrest⟩ := h
    have hlow : (memory address).toNat = value % 256 := by
      rw [hbyte]
      exact UInt8.toNat_ofNat'
    have hhigh : value / 256 < 256 ^ size := by
      rw [Nat.pow_succ] at hvalue
      exact Nat.div_lt_of_lt_mul (by omega)
    rw [numberAt, ih hrest hhigh, hlow]
    omega

/-- A memory with the bytes at an address, and zero elsewhere. -/
def memoryOf (address : Nat) (bytes : List UInt8) : Nat → UInt8 := fun i =>
  if i < address then 0 else bytes.getD (i - address) 0

theorem holds_of_getD {bytes : List UInt8}
    (h : ∀ i, i < bytes.length → memory (address + i) = bytes.getD i 0) :
    Holds memory address bytes := by
  induction bytes generalizing address with
  | nil => exact trivial
  | cons byte bytes ih =>
    refine ⟨h 0 (Nat.succ_pos _), ih fun i hi => ?_⟩
    have hat := h (i + 1) (Nat.succ_lt_succ hi)
    rw [Nat.add_assoc, Nat.add_comm 1 i, hat, List.getD_cons_succ]

theorem holds_memoryOf (address : Nat) (bytes : List UInt8) :
    Holds (memoryOf address bytes) address bytes := by
  refine holds_of_getD fun i hi => ?_
  rw [memoryOf, if_neg (by omega), Nat.add_sub_cancel_left]

theorem Holds.get {bytes : List UInt8} (h : Holds memory address bytes) {i : Nat}
    (hi : i < bytes.length) : memory (address + i) = bytes[i] := by
  induction bytes generalizing address i with
  | nil => exact absurd hi (Nat.not_lt_zero i)
  | cons byte bytes ih =>
    obtain ⟨hbyte, hrest⟩ := h
    cases i with
    | zero => exact hbyte
    | succ i =>
      rw [List.length_cons] at hi
      have hat := ih hrest (show i < bytes.length by omega)
      rw [Nat.add_assoc, Nat.add_comm 1 i] at hat
      exact hat

/-- The octets at the address of an address. -/
theorem ofFn_octets {n : Nat} {octets : Vector UInt8 n} (h : Holds memory address octets.toList) :
    Vector.ofFn (fun i : Fin n => memory (address + i.val)) = octets := by
  ext i hi
  have hat := h.get (show i < octets.toList.length by rw [Vector.length_toList]; exact hi)
  rw [Vector.getElem_ofFn, hat]
  simp

/-- An address and the interface index behind it. -/
theorem ofFn_octets_leBytes {n : Nat} {octets : Vector UInt8 n} {ifindex : UInt32}
    (h : Holds memory address (octets.toList ++ leBytes 4 ifindex.toNat)) :
    Vector.ofFn (fun i : Fin n => memory (address + i.val)) = octets ∧
      numberAt memory (address + n) 4 = ifindex.toNat := by
  obtain ⟨hoctets, hifindex⟩ := (holds_append _ _).mp h
  rw [Vector.length_toList] at hifindex
  exact ⟨ofFn_octets hoctets, numberAt_leBytes hifindex ifindex.toNat_lt⟩

end Bytes

/-! ## Messages -/

def IsPktinfo (level type : UInt32) (data : List UInt8) : Prop :=
  ∃ family, level.toNat = pktinfoLevel family ∧ type.toNat = pktinfoType family ∧
    sizeofPktinfo family ≤ data.length

/-- What the system writes for a datagram. -/
inductive Cmsg where
  | ipPktinfo (addr : Ipv4Addr) (ifindex : UInt32)
  | ipv6Pktinfo (addr : Ipv6Addr) (ifindex : UInt32)
  | other (level type : UInt32) (data : List UInt8) (h : ¬ IsPktinfo level type data)

namespace Cmsg

def level : Cmsg → Nat
  | ipPktinfo .. => pktinfoLevel .ipv4
  | ipv6Pktinfo .. => pktinfoLevel .ipv6
  | other level .. => level.toNat

def type : Cmsg → Nat
  | ipPktinfo .. => pktinfoType .ipv4
  | ipv6Pktinfo .. => pktinfoType .ipv6
  | other _ type .. => type.toNat

def data : Cmsg → List UInt8
  | ipPktinfo addr ifindex => addr.octets.toList ++ leBytes 4 ifindex.toNat
  | ipv6Pktinfo addr ifindex => addr.octets.toList ++ leBytes 4 ifindex.toNat
  | other _ _ data _ => data

/-- The message as the Unix builds take it out of the control buffer. -/
def message : Cmsg → ControlMessage
  | ipPktinfo addr ifindex => .ipPktinfo addr ifindex
  | ipv6Pktinfo addr ifindex => .ipv6Pktinfo addr ifindex
  | other .. => .other

variable (target : Target)

/-- `cmsg_len`. -/
def len (cmsg : Cmsg) : Nat := target.sizeofCmsghdr + cmsg.data.length

def bytes (cmsg : Cmsg) : List UInt8 :=
  leBytes target.pointerSize (cmsg.len target) ++
    (leBytes 4 cmsg.level ++ (leBytes 4 cmsg.type ++ cmsg.data))

/-- The length with the bytes that align what follows. -/
def space (cmsg : Cmsg) : Nat := alignUp target.alignofCmsghdr (cmsg.len target)

theorem level_lt (cmsg : Cmsg) : cmsg.level < 256 ^ 4 := by
  cases cmsg with
  | ipPktinfo =>
    show pktinfoLevel .ipv4 < 256 ^ 4
    decide
  | ipv6Pktinfo =>
    show pktinfoLevel .ipv6 < 256 ^ 4
    decide
  | other level => exact level.toNat_lt

theorem type_lt (cmsg : Cmsg) : cmsg.type < 256 ^ 4 := by
  cases cmsg with
  | ipPktinfo =>
    show pktinfoType .ipv4 < 256 ^ 4
    decide
  | ipv6Pktinfo =>
    show pktinfoType .ipv6 < 256 ^ 4
    decide
  | other _ type => exact type.toNat_lt

end Cmsg

/-- The messages stand in memory from an address on, before the limit, and behind them is no
room for a further header. -/
def Laid (target : Target) (memory : Nat → UInt8) (limit : Nat) : Nat → List Cmsg → Prop
  | address, [] => limit < address + target.sizeofCmsghdr
  | address, cmsg :: rest =>
    Holds memory address (cmsg.bytes target) ∧ address + cmsg.len target ≤ limit ∧
      Laid target memory limit (address + cmsg.space target) rest

def encode (target : Target) (messages : List Cmsg) : List UInt8 :=
  messages.flatMap fun cmsg =>
    cmsg.bytes target ++ List.replicate (cmsg.space target - cmsg.len target) 0

def starts (target : Target) : Nat → List Cmsg → List Nat
  | _, [] => []
  | address, cmsg :: rest => address :: starts target (address + cmsg.space target) rest

/-! ## One message -/

section Message

variable {target : Target} {msg : Wsamsg} {address limit : Nat} {cmsg : Cmsg}

/-- The fields of a header and the data behind it. -/
theorem holds_bytes (hlen : cmsg.len target < 2 ^ target.bits)
    (h : Holds msg.memory address (cmsg.bytes target)) :
    lenAt target msg address = cmsg.len target ∧
      numberAt msg.memory (address + target.pointerSize) 4 = cmsg.level ∧
      numberAt msg.memory (address + (target.pointerSize + 4)) 4 = cmsg.type ∧
      Holds msg.memory (address + target.sizeofCmsghdr) cmsg.data := by
  rw [Cmsg.bytes, holds_append, holds_append, holds_append, length_leBytes, length_leBytes,
    length_leBytes, Nat.add_assoc (address + target.pointerSize), Nat.add_assoc address] at h
  obtain ⟨hlenBytes, hlevel, htype, hdata⟩ := h
  have hword : cmsg.len target < 256 ^ target.pointerSize := by
    cases target <;> exact hlen
  refine ⟨numberAt_leBytes hlenBytes hword, numberAt_leBytes hlevel cmsg.level_lt, ?_, hdata⟩
  rw [← Nat.add_assoc]
  exact numberAt_leBytes htype cmsg.type_lt

theorem withPktinfo_eq {memory : Nat → UInt8} {family : SubscriptionAddressFamily} {addr : IpAddr}
    {ifindex : UInt32} (haddr : pktinfoAddr memory address family = addr)
    (hifindex : numberAt memory (address + sizeofPktinfoAddr family) 4 = ifindex.toNat)
    (metadata : ReceiveMetadata) : withPktinfo memory address family metadata =
      withIngress { metadata with destinationLocalIp := some addr } ifindex := by
  have hzero : ifindex.toNat ≠ 0 ↔ ifindex ≠ 0 := by
    rw [Ne, Ne, ← UInt32.toNat_inj]
    rfl
  unfold withPktinfo withIngress
  dsimp only
  rw [haddr, hifindex, UInt32.ofNat_toNat]
  by_cases hifindex : ifindex ≠ 0
  · rw [if_pos hifindex, if_pos (hzero.mpr hifindex)]
  · rw [if_neg hifindex, if_neg (fun h => hifindex (hzero.mp h))]

/-- The walk makes of a message what it is to a Unix build. -/
theorem headerMetadata_holds (hlen : cmsg.len target < 2 ^ target.bits)
    (h : Holds msg.memory address (cmsg.bytes target)) (family : SubscriptionAddressFamily)
    (metadata : ReceiveMetadata) :
    headerMetadata target msg family metadata address =
      applyControlMessage .linux family metadata cmsg.message := by
  obtain ⟨hlenAt, hlevel, htype, hdata⟩ := holds_bytes hlen h
  have hclaims : ClaimsPktinfo target msg family address ↔
      cmsg.level = pktinfoLevel family ∧ cmsg.type = pktinfoType family ∧
        sizeofPktinfo family ≤ cmsg.data.length := by
    rw [ClaimsPktinfo, hlevel, htype, hlenAt, Cmsg.len, Nat.add_le_add_iff_left]
  have hother : cmsg.level ≠ pktinfoLevel family → headerMetadata target msg family metadata
      address = metadata := fun hne => by
    rw [headerMetadata, if_neg (fun h => hne (hclaims.mp h).1)]
  cases cmsg with
  | ipPktinfo addr ifindex =>
    cases family with
    | ipv4 =>
      obtain ⟨hoctets, hifindex⟩ := ofFn_octets_leBytes hdata
      have haddr : pktinfoAddr msg.memory (address + target.sizeofCmsghdr) .ipv4 = .v4 addr :=
        congrArg (fun octets => IpAddr.v4 ⟨octets⟩) hoctets
      have hsize : sizeofPktinfo .ipv4 ≤ (Cmsg.data (.ipPktinfo addr ifindex)).length := by
        simp [Cmsg.data, sizeofPktinfo, sizeofPktinfoAddr]
      rw [headerMetadata, if_pos (hclaims.mpr ⟨rfl, rfl, hsize⟩)]
      exact withPktinfo_eq haddr hifindex metadata
    | ipv6 => exact hother (show pktinfoLevel .ipv4 ≠ pktinfoLevel .ipv6 by decide)
  | ipv6Pktinfo addr ifindex =>
    cases family with
    | ipv4 => exact hother (show pktinfoLevel .ipv6 ≠ pktinfoLevel .ipv4 by decide)
    | ipv6 =>
      obtain ⟨hoctets, hifindex⟩ := ofFn_octets_leBytes hdata
      have haddr : pktinfoAddr msg.memory (address + target.sizeofCmsghdr) .ipv6 = .v6 addr :=
        congrArg (fun octets => IpAddr.v6 ⟨octets⟩) hoctets
      have hsize : sizeofPktinfo .ipv6 ≤ (Cmsg.data (.ipv6Pktinfo addr ifindex)).length := by
        simp [Cmsg.data, sizeofPktinfo, sizeofPktinfoAddr]
      rw [headerMetadata, if_pos (hclaims.mpr ⟨rfl, rfl, hsize⟩)]
      exact withPktinfo_eq haddr hifindex metadata
  | other level type data hdifferent =>
    rw [headerMetadata, if_neg (fun h => hdifferent ⟨family, hclaims.mp h⟩)]
    cases family <;> rfl

end Message

/-! ## The walk over a layout -/

section Walk

variable {target : Target} {msg : Wsamsg}

theorem sizeofCmsghdr_le_len (target : Target) (cmsg : Cmsg) :
    target.sizeofCmsghdr ≤ cmsg.len target :=
  Nat.le_add_right _ _

/-- The headers from the first message on are the starts of the messages, by induction on
those behind it. -/
theorem headersFrom_laid (hword : msg.buf + msg.len.toNat < 2 ^ target.bits) {address : Nat}
    {cmsg : Cmsg} {rest : List Cmsg}
    (h : Laid target msg.memory (msg.buf + msg.len.toNat) address (cmsg :: rest)) :
    headersFrom target msg address = starts target address (cmsg :: rest) := by
  induction rest generalizing address cmsg with
  | nil =>
    obtain ⟨hbytes, hend, hroom⟩ := h
    have hlen := (holds_bytes (by omega) hbytes).1
    have hnext : nextHeader target msg address = none := by
      rw [nextHeader, hlen]
      refine if_neg fun hfits => ?_
      have hhigh := hfits.2
      have hlow : msg.buf + msg.len.toNat < address + cmsg.space target + target.sizeofCmsghdr :=
        hroom
      rw [Cmsg.space] at hlow
      omega
    exact headersFrom_none hnext
  | cons next rest ih =>
    obtain ⟨hbytes, hend, hrest⟩ := h
    have hlen := (holds_bytes (by omega) hbytes).1
    have hnext : nextHeader target msg address = some (address + cmsg.space target) := by
      rw [nextHeader, hlen]
      refine if_pos ⟨sizeofCmsghdr_le_len target cmsg, ?_⟩
      have hhigh := hrest.2.1
      have hsize := sizeofCmsghdr_le_len target next
      rw [Cmsg.space] at hhigh
      omega
    rw [headersFrom_some hnext, ih hrest]
    rfl

theorem foldl_starts (hword : msg.buf + msg.len.toNat < 2 ^ target.bits)
    (family : SubscriptionAddressFamily) {address : Nat} {messages : List Cmsg}
    (h : Laid target msg.memory (msg.buf + msg.len.toNat) address messages)
    (metadata : ReceiveMetadata) :
    (starts target address messages).foldl (headerMetadata target msg family) metadata =
      (messages.map Cmsg.message).foldl (applyControlMessage .linux family) metadata := by
  induction messages generalizing address metadata with
  | nil => rfl
  | cons cmsg rest ih =>
    obtain ⟨hbytes, hend, hrest⟩ := h
    rw [starts, List.foldl_cons, headerMetadata_holds (by omega) hbytes, ih hrest]
    rfl

/-- No message of a layout claims packet info that `Control` cuts off. -/
theorem claims_laid (hword : msg.buf + msg.len.toNat < 2 ^ target.bits)
    (family : SubscriptionAddressFamily) {address : Nat} {messages : List Cmsg}
    (h : Laid target msg.memory (msg.buf + msg.len.toNat) address messages) {start : Nat}
    (hmem : start ∈ starts target address messages)
    (hclaims : ClaimsPktinfo target msg family start) :
    start + target.sizeofCmsghdr + sizeofPktinfo family ≤ msg.buf + msg.len.toNat := by
  induction messages generalizing address with
  | nil => cases hmem
  | cons cmsg rest ih =>
    obtain ⟨hbytes, hend, hrest⟩ := h
    rcases List.mem_cons.mp hmem with rfl | hmem
    · have hfits := hclaims.2.2
      rw [(holds_bytes (by omega) hbytes).1] at hfits
      omega
    · exact ih hrest hmem

theorem headers_laid (hbuf : msg.buf ≠ NULL)
    (hword : msg.buf + msg.len.toNat < 2 ^ target.bits) {messages : List Cmsg}
    (h : Laid target msg.memory (msg.buf + msg.len.toNat) msg.buf messages) :
    headers target msg = starts target msg.buf messages := by
  rw [headers]
  cases messages with
  | nil =>
    have hroom : msg.buf + msg.len.toNat < msg.buf + target.sizeofCmsghdr := h
    exact if_pos (.inr (by omega))
  | cons cmsg rest =>
    have hend := h.2.1
    have hsize := sizeofCmsghdr_le_len target cmsg
    rw [if_neg (not_or.mpr ⟨hbuf, by omega⟩), headersFrom_laid hword h]

/-- The walk over a layout visits every message and reads nothing else, and its metadata is
that of the list of messages. -/
theorem applyReceiveAncillaryData_laid (hbuf : msg.buf ≠ NULL)
    (hword : msg.buf + msg.len.toNat < 2 ^ target.bits) (family : SubscriptionAddressFamily)
    {messages : List Cmsg}
    (h : Laid target msg.memory (msg.buf + msg.len.toNat) msg.buf messages)
    (metadata : ReceiveMetadata) :
    ∃ walk, applyReceiveAncillaryData target msg family metadata = .ok walk ∧
      walk.visited = starts target msg.buf messages ∧
      walk.metadata = McrxCore.applyReceiveAncillaryData .linux family
        (messages.map Cmsg.message) metadata ∧
      ∀ span ∈ walk.reads, Inside msg span := by
  have hheaders := headers_laid hbuf hword h
  refine ⟨_, applyReceiveAncillaryData_eq family hword metadata, hheaders, ?_, ?_⟩
  · dsimp only
    rw [hheaders, foldl_starts hword family h]
    rfl
  · intro span hspan
    obtain ⟨start, hmem, hspan⟩ := List.mem_flatMap.mp hspan
    have hin := (headers_chain target msg).2 start hmem
    rw [hheaders] at hmem
    exact (turnReads_inside_iff family hin).mpr (claims_laid hword family h hmem) span hspan

end Walk

/-! ## Laying out -/

section Encode

variable {target : Target} {memory : Nat → UInt8}

@[simp] theorem Cmsg.length_bytes (target : Target) (cmsg : Cmsg) :
    (cmsg.bytes target).length = cmsg.len target := by
  have hsize : target.sizeofCmsghdr = target.pointerSize + 8 := rfl
  rw [Cmsg.bytes, List.length_append, List.length_append, List.length_append, length_leBytes,
    length_leBytes, length_leBytes, Cmsg.len]
  omega

theorem Cmsg.len_le_space (target : Target) (cmsg : Cmsg) :
    cmsg.len target ≤ cmsg.space target :=
  le_alignUp (by cases target <;> decide)

/-- Memory that holds the bytes of the messages lays them out. -/
theorem laid_encode {limit address : Nat} {messages : List Cmsg}
    (h : Holds memory address (encode target messages))
    (hend : address + (encode target messages).length ≤ limit)
    (hroom : limit < address + (encode target messages).length + target.sizeofCmsghdr) :
    Laid target memory limit address messages := by
  induction messages generalizing address with
  | nil => exact hroom
  | cons cmsg rest ih =>
    have hspace := cmsg.len_le_space target
    have hencode : encode target (cmsg :: rest) = cmsg.bytes target ++
        (List.replicate (cmsg.space target - cmsg.len target) 0 ++ encode target rest) := by
      rw [encode, List.flatMap_cons, List.append_assoc]
      rfl
    have hlength : (encode target (cmsg :: rest)).length =
        cmsg.space target + (encode target rest).length := by
      rw [hencode, List.length_append, List.length_append, List.length_replicate,
        Cmsg.length_bytes]
      omega
    rw [hencode, holds_append, holds_append, List.length_replicate, Cmsg.length_bytes,
      Nat.add_assoc, Nat.add_sub_cancel' hspace] at h
    obtain ⟨hbytes, -, hrest⟩ := h
    rw [hlength] at hend hroom
    exact ⟨hbytes, by omega, ih hrest (by omega) (by omega)⟩

end Encode

/-- Control messages laid out in a buffer are read back: the walk visits each of them and no
other address, keeps inside of the buffer, and its metadata is that of their list. -/
theorem control_messages_read_back (target : Target) (buf : Nat) (messages : List Cmsg)
    (hbuf : buf ≠ NULL) (hword : buf + (encode target messages).length < 2 ^ target.bits)
    (hlen : (encode target messages).length < 2 ^ 32) (family : SubscriptionAddressFamily)
    (metadata : ReceiveMetadata) :
    let msg : Wsamsg :=
      { memory := memoryOf buf (encode target messages)
        buf := buf
        len := .ofNat (encode target messages).length }
    ∃ walk, applyReceiveAncillaryData target msg family metadata = .ok walk ∧
      walk.visited = starts target buf messages ∧
      walk.metadata = McrxCore.applyReceiveAncillaryData .linux family
        (messages.map Cmsg.message) metadata ∧
      ∀ span ∈ walk.reads, Inside msg span := by
  intro msg
  have hmsg : msg.len.toNat = (encode target messages).length :=
    UInt32.toNat_ofNat_of_lt' hlen
  have hpos := sizeofCmsghdr_pos target
  have hlaid : Laid target msg.memory (msg.buf + msg.len.toNat) msg.buf messages := by
    rw [hmsg]
    exact laid_encode (holds_memoryOf buf _) (Nat.le_refl _) (by omega)
  exact applyReceiveAncillaryData_laid hbuf (by rw [hmsg]; exact hword) family hlaid metadata

def ttlAndPktinfo : List Cmsg :=
  [.other 0 21 [64, 0, 0, 0] (by
    rintro ⟨family, hlevel, htype, -⟩
    cases family with
    | ipv4 => exact absurd htype (by decide)
    | ipv6 => exact absurd hlevel (by decide)),
    .ipPktinfo (.new 239 1 2 3) 7]

theorem control_messages_read_back_ttl :
    let msg : Wsamsg :=
      { memory := memoryOf 4096 (encode .bits64 ttlAndPktinfo)
        buf := 4096
        len := .ofNat (encode .bits64 ttlAndPktinfo).length }
    ∃ walk, applyReceiveAncillaryData .bits64 msg .ipv4 noMetadata = .ok walk ∧
      walk.visited = [4096, 4120] ∧
      walk.metadata = McrxCore.applyReceiveAncillaryData .linux .ipv4
        [.other, .ipPktinfo (.new 239 1 2 3) 7] noMetadata ∧
      ∀ span ∈ walk.reads, Inside msg span :=
  control_messages_read_back .bits64 4096 ttlAndPktinfo (by decide) (by decide) (by decide) .ipv4
    noMetadata

end WindowsControl

end McrxCore
