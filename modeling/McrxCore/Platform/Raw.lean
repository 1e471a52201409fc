import McrxCore.Platform.Filter

/-!
# Raw capture sockets

The Linux shared-capture backend of `platform/raw.rs` over an arbitrary operating
system.  Each system call is a function of a world, which it may change, so that
every pattern of results is some operating system.
-/

namespace McrxCore

open ClassicBpf (Instruction)

structure RawReceiveSocket where
  receiveSocket : Fd
  membershipSocket : Option Fd
  deriving DecidableEq, Repr

structure RawSharedCaptureKey where
  family : SubscriptionAddressFamily
  interfaceIndex : UInt32
  deriving DecidableEq, Repr

structure RawCapturedDatagram where
  datagram : List UInt8
  sourceIp : IpAddr
  group : IpAddr
  ipProtocol : UInt8
  ingressInterfaceIndex : Option UInt32
  deriving DecidableEq, Repr

/-- What `recvfrom` reports: no datagram, another error, or a datagram with the
`sll_ifindex` of its address. -/
inductive RecvResult where
  | wouldBlock
  | failed (error : IoError)
  | received (bytes : List UInt8) (sllIfindex : Int32)
  deriving DecidableEq, Repr

/-- The system calls of the backend, on worlds of type `W`. -/
structure OperatingSystem (W : Type) where
  resolveIpv4InterfaceIndex : Ipv4Addr → W → Except McrxError UInt32 × W
  resolveIpv6InterfaceIndex : Ipv6Addr → W → Except McrxError UInt32 × W
  openLinuxPacketSocketWithFilter : UInt32 → List Instruction → W → Except McrxError Fd × W
  openMembershipSocket : SubscriptionAddressFamily → W → Except McrxError Fd × W
  joinMulticastGroup : Fd → SubscriptionConfig → W → Except McrxError Unit × W
  leaveMulticastGroup : Fd → SubscriptionConfig → W → Except McrxError Unit × W
  recvfrom : Fd → W → RecvResult × W
  close : Fd → W → W

/-- An operating system that grants every request and gives the same result to every
read.  Its world is the next file descriptor. -/
def OperatingSystem.granting (result : RecvResult) : OperatingSystem Fd :=
  { resolveIpv4InterfaceIndex := fun _ w => (.ok 1, w)
    resolveIpv6InterfaceIndex := fun _ w => (.ok 1, w)
    openLinuxPacketSocketWithFilter := fun _ _ w => (.ok w, w + 1)
    openMembershipSocket := fun _ w => (.ok w, w + 1)
    joinMulticastGroup := fun _ _ w => (.ok (), w)
    leaveMulticastGroup := fun _ _ w => (.ok (), w)
    recvfrom := fun _ w => (result, w)
    close := fun _ w => w }

variable {W : Type} (os : OperatingSystem W)

/-! ## Opening a capture -/

def resolvePacketInterfaceIndex (config : RawSubscriptionConfig) (w : W) :
    Except McrxError (Option UInt32) × W :=
  match config.interfaceIndex, config.interface with
  | some interfaceIndex, _ => (.ok (some interfaceIndex), w)
  | none, some (.v6 interface) =>
    if interface.isUnspecified then (.ok none, w)
    else
      let (result, w) := os.resolveIpv6InterfaceIndex interface w
      (result.map some, w)
  | none, some (.v4 interface) =>
    if interface.isUnspecified then (.ok none, w)
    else
      let (result, w) := os.resolveIpv4InterfaceIndex interface w
      (result.map some, w)
  | none, none => (.ok none, w)

def resolveLinuxPacketInterfaceIndex (config : RawSubscriptionConfig) (w : W) :
    Except McrxError UInt32 × W :=
  let (result, w) := resolvePacketInterfaceIndex os config w
  (result.map fun index => index.getD 0, w)

def sharedRawCaptureKey (config : RawSubscriptionConfig) (w : W) :
    Except McrxError RawSharedCaptureKey × W :=
  match config.validate with
  | .error e => (.error e, w)
  | .ok () =>
    match resolveLinuxPacketInterfaceIndex os config w with
    | (.error e, w) => (.error e, w)
    | (.ok interfaceIndex, w) =>
      (.ok { family := config.family, interfaceIndex := interfaceIndex }, w)

def openSharedRawSocket (key : RawSharedCaptureKey) (w : W) :
    Except McrxError RawReceiveSocket × W :=
  match os.openLinuxPacketSocketWithFilter key.interfaceIndex
      (bpfIpMulticastFamilyFilter key.family 0) w with
  | (.error e, w) => (.error e, w)
  | (.ok packetSocket, w) =>
    match os.openMembershipSocket key.family w with
    -- The packet socket is dropped on this exit.
    | (.error e, w) => (.error e, os.close packetSocket w)
    | (.ok membershipSocket, w) =>
      (.ok { receiveSocket := packetSocket, membershipSocket := some membershipSocket }, w)

def RawReceiveSocket.drop (socket : RawReceiveSocket) (w : W) : W :=
  let w := os.close socket.receiveSocket w
  match socket.membershipSocket with
  | some membershipSocket => os.close membershipSocket w
  | none => w

theorem sharedRawCaptureKey_family {config : RawSubscriptionConfig} {key : RawSharedCaptureKey}
    {w w' : W} (h : sharedRawCaptureKey os config w = (.ok key, w')) :
    key.family = config.family := by
  simp only [sharedRawCaptureKey] at h
  split at h
  · exact nomatch h
  · split at h
    · exact nomatch h
    · cases h
      rfl

/-! ## Kernel memberships -/

def noMembershipSocket : McrxError :=
  .rawPacketReceiveUnsupported "raw multicast membership sockets are not available on this platform"

def joinRawMulticastGroup (socket : RawReceiveSocket) (config : RawSubscriptionConfig) (w : W) :
    Except McrxError Unit × W :=
  match socket.membershipSocket with
  | none => (.error noMembershipSocket, w)
  | some membershipSocket => os.joinMulticastGroup membershipSocket config.membershipCompatConfig w

def leaveRawMulticastGroup (socket : RawReceiveSocket) (config : RawSubscriptionConfig) (w : W) :
    Except McrxError Unit × W :=
  match socket.membershipSocket with
  | none => (.error noMembershipSocket, w)
  | some membershipSocket => os.leaveMulticastGroup membershipSocket config.membershipCompatConfig w

/-! ## Receiving -/

def MAX_RAW_FILTERED_READS_PER_RECV : Nat := 256

/-- What the receive loop makes of one read: the parse and the family check. -/
def sharedRawDatagram (key : RawSharedCaptureKey) (bytes : List UInt8) (sllIfindex : Int32) :
    Option RawCapturedDatagram :=
  match parseIpDatagram bytes with
  | none => none
  | some parsed =>
    if key.family ≠ parsed.destinationIp.family then none
    else some
      { datagram := bytes.take parsed.datagramLen
        sourceIp := parsed.sourceIp
        group := parsed.destinationIp
        ipProtocol := parsed.protocol
        ingressInterfaceIndex := if 0 < sllIfindex then some sllIfindex.toUInt32 else none }

/-- The loop of `recv_shared_raw_datagram` with `reads` filtered reads left: the
last one of them exhausts the budget. -/
def recvSharedRawLoop (socket : RawReceiveSocket) (key : RawSharedCaptureKey) :
    Nat → W → Except McrxError (Option RawCapturedDatagram) × W
  | 0, w => (.ok none, w)
  | reads + 1, w =>
    match os.recvfrom socket.receiveSocket w with
    | (.wouldBlock, w) => (.ok none, w)
    | (.failed error, w) => (.error (.receiveFailed error), w)
    | (.received bytes sllIfindex, w) =>
      match sharedRawDatagram key bytes sllIfindex with
      | some captured => (.ok (some captured), w)
      | none => recvSharedRawLoop socket key reads w

def recvSharedRawDatagram (socket : RawReceiveSocket) (key : RawSharedCaptureKey) (w : W) :
    Except McrxError (Option RawCapturedDatagram) × W :=
  recvSharedRawLoop os socket key MAX_RAW_FILTERED_READS_PER_RECV w

end McrxCore
