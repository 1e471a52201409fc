import McrxCore.Packet

/-!
# UDP receive sockets

The socket setup and the receive loop of `platform/mod.rs` on Unix, over an arbitrary
operating system: each system call is a function of a world, which it may change.
-/

namespace McrxCore

/-- The builds whose control messages differ. -/
inductive UnixTarget where
  | linux
  | bsd
  deriving DecidableEq, Repr

/-- The options that socket setup turns on, and the one it turns off. -/
inductive SocketOption where
  | onlyV6
  | reuseAddress
  | reusePort
  | nonblocking
  | multicastAllOff (family : SubscriptionAddressFamily)
  | ipPktinfo
  | ipRecvdstaddr
  | ipRecvif
  | ipv6RecvPktinfo
  deriving DecidableEq, Repr

/-- A control message that holds its whole payload. -/
inductive ControlMessage where
  | ipPktinfo (addr : Ipv4Addr) (ifindex : UInt32)
  | ipRecvdstaddr (addr : Ipv4Addr)
  | ipRecvif (index : UInt16)
  | ipv6Pktinfo (addr : Ipv6Addr) (ifindex : UInt32)
  | other
  deriving DecidableEq, Repr

/-- A datagram as `recvmsg` writes it. -/
structure ReceivedMessage where
  payload : List UInt8
  source : Option SocketAddr
  control : List ControlMessage
  deriving DecidableEq, Repr

inductive RecvmsgResult where
  | wouldBlock
  | failed (error : IoError)
  | received (message : ReceivedMessage)
  deriving DecidableEq, Repr

/-- The system calls of UDP sockets, on worlds of type `W`. -/
structure UdpSystem (W : Type) where
  target : UnixTarget
  createSocket : SubscriptionAddressFamily → W → Except IoError Fd × W
  setOption : Fd → SocketOption → W → Except IoError Unit × W
  bind : Fd → SocketAddr → W → Except IoError Unit × W
  localAddr : Fd → W → Except IoError (Option SocketAddr) × W
  joinMulticastGroup : Fd → SubscriptionConfig → W → Except McrxError Unit × W
  leaveMulticastGroup : Fd → SubscriptionConfig → W → Except McrxError Unit × W
  recvmsg : Fd → W → RecvmsgResult × W

/-- A Linux system whose sockets are bound to the address, that grants every request and
gives the same result to every read. -/
def UdpSystem.granting (addr : SocketAddr) (result : RecvmsgResult) : UdpSystem Unit :=
  { target := .linux
    createSocket := fun _ w => (.ok 3, w)
    setOption := fun _ _ w => (.ok (), w)
    bind := fun _ _ w => (.ok (), w)
    localAddr := fun _ w => (.ok (some addr), w)
    joinMulticastGroup := fun _ _ w => (.ok (), w)
    leaveMulticastGroup := fun _ _ w => (.ok (), w)
    recvmsg := fun _ w => (result, w) }

def andThen {W α β : Type} (call : Except McrxError α × W)
    (next : α → W → Except McrxError β × W) : Except McrxError β × W :=
  match call with
  | (.error e, w) => (.error e, w)
  | (.ok a, w) => next a w

structure ReceiveSocket where
  socket : Fd
  localAddr : Option SocketAddr
  setupError : Option String
  deriving DecidableEq, Repr

variable {W : Type} (os : UdpSystem W)

/-! ## Setup -/

def setSocketOption (socket : Fd) (option : SocketOption) (w : W) : Except McrxError Unit × W :=
  let (result, w) := os.setOption socket option w
  (result.mapError .socketOptionFailed, w)

def trySocketLocalAddr (socket : Fd) (w : W) : Except McrxError SocketAddr × W :=
  match os.localAddr socket w with
  | (.error e, w) => (.error (.socketLocalAddrFailed e), w)
  | (.ok none, w) => (.error .nonIpSocketAddress, w)
  | (.ok (some addr), w) => (.ok addr, w)

def restrictMulticastDeliveryToSocketMemberships (socket : Fd)
    (family : SubscriptionAddressFamily) (w : W) : Except McrxError Unit × W :=
  match os.target with
  | .linux => setSocketOption os socket (.multicastAllOff family) w
  | .bsd => (.ok (), w)

def enableReceiveMetadata (socket : Fd) (family : SubscriptionAddressFamily) (w : W) :
    Except McrxError Unit × W :=
  match family, os.target with
  | .ipv4, .linux => setSocketOption os socket .ipPktinfo w
  | .ipv4, .bsd =>
    andThen (setSocketOption os socket .ipRecvdstaddr w) fun _ w =>
      setSocketOption os socket .ipRecvif w
  | .ipv6, _ => setSocketOption os socket .ipv6RecvPktinfo w

def configureDetailedReceive (socket : Fd) (w : W) : Except McrxError Unit × W :=
  match trySocketLocalAddr os socket w with
  | (.error _, w) => (.error .existingSocketAddressFamilyMismatch, w)
  | (.ok addr, w) => enableReceiveMetadata os socket addr.ip.family w

def ReceiveSocket.tryAdopt (socket : Fd) (config : SubscriptionConfig) (w : W) :
    Except McrxError ReceiveSocket × W :=
  andThen (config.validate, w) fun _ w =>
  andThen (restrictMulticastDeliveryToSocketMemberships os socket config.family w) fun _ w =>
  andThen (setSocketOption os socket .nonblocking w) fun _ w =>
  andThen (trySocketLocalAddr os socket w) fun localAddr w =>
  andThen (configureDetailedReceive os socket w) fun _ w =>
  (.ok { socket := socket, localAddr := some localAddr, setupError := none }, w)

def prepareExistingSocket (socket : Fd) (config : SubscriptionConfig) (w : W) :
    Except McrxError ReceiveSocket × W :=
  andThen (trySocketLocalAddr os socket w) fun localAddr w =>
  if localAddr.ip.family ≠ config.family then (.error .existingSocketAddressFamilyMismatch, w)
  else if localAddr.port ≠ config.dstPort then
    (.error (.existingSocketPortMismatch config.dstPort localAddr.port), w)
  else
    andThen (ReceiveSocket.tryAdopt os socket config w) fun receiveSocket w =>
    (.ok { receiveSocket with localAddr := some localAddr }, w)

/-- `Ipv4Addr::UNSPECIFIED` or `Ipv6Addr::UNSPECIFIED`. -/
def unspecifiedAddr : SubscriptionAddressFamily → IpAddr
  | .ipv4 => .v4 (.new 0 0 0 0)
  | .ipv6 => .v6 .unspecified

def createFamilySocket (family : SubscriptionAddressFamily) (w : W) : Except McrxError Fd × W :=
  match os.createSocket family w with
  | (.error e, w) => (.error (.socketCreateFailed e), w)
  | (.ok socket, w) =>
    match family with
    | .ipv4 => (.ok socket, w)
    | .ipv6 => andThen (setSocketOption os socket .onlyV6 w) fun _ w => (.ok socket, w)

def bindSocket (socket : Fd) (config : SubscriptionConfig) (w : W) : Except McrxError Unit × W :=
  let (result, w) :=
    os.bind socket { ip := unspecifiedAddr config.family, port := config.dstPort } w
  (result.mapError .socketBindFailed, w)

def openBoundSocket (config : SubscriptionConfig) (w : W) : Except McrxError ReceiveSocket × W :=
  andThen (createFamilySocket os config.family w) fun socket w =>
  andThen (setSocketOption os socket .reuseAddress w) fun _ w =>
  andThen (setSocketOption os socket .reusePort w) fun _ w =>
  andThen (bindSocket os socket config w) fun _ w =>
  prepareExistingSocket os socket config w

/-! ## Metadata -/

/-- `std::io::Error::other`, which has no raw code. -/
def IoError.other : IoError := ⟨0⟩

namespace ReceiveSocket

def ensureReady (socket : ReceiveSocket) : Except McrxError Unit :=
  match socket.setupError with
  | some message => .error (.receiveSocketSetupFailed message)
  | none => .ok ()

def boundAddr (socket : ReceiveSocket) (w : W) : Except McrxError SocketAddr × W :=
  match socket.localAddr with
  | some addr => (.ok addr, w)
  | none =>
    match trySocketLocalAddr os socket.socket w with
    | (.ok addr, w) => (.ok addr, w)
    | (.error _, w) => (.error (.socketLocalAddrFailed .other), w)

def baseMetadata (socket : ReceiveSocket) (config : SubscriptionConfig) (w : W) :
    Except McrxError ReceiveMetadata × W :=
  andThen (socket.boundAddr os w) fun addr w =>
  (.ok
    { socketLocalAddr := some addr
      configuredInterface := config.interface
      configuredInterfaceIndex := config.interfaceIndex
      destinationLocalIp := none
      ingressInterfaceIndex := none }, w)

end ReceiveSocket

/-- An index of zero names no interface. -/
def withIngress (metadata : ReceiveMetadata) (index : UInt32) : ReceiveMetadata :=
  if index ≠ 0 then { metadata with ingressInterfaceIndex := some index } else metadata

def applyControlMessage (target : UnixTarget) (family : SubscriptionAddressFamily)
    (metadata : ReceiveMetadata) (message : ControlMessage) : ReceiveMetadata :=
  match family, target, message with
  | .ipv4, .linux, .ipPktinfo addr ifindex =>
    withIngress { metadata with destinationLocalIp := some (.v4 addr) } ifindex
  | .ipv4, .bsd, .ipRecvdstaddr addr => { metadata with destinationLocalIp := some (.v4 addr) }
  | .ipv4, .bsd, .ipRecvif index => withIngress metadata index.toUInt32
  | .ipv6, _, .ipv6Pktinfo addr ifindex =>
    withIngress { metadata with destinationLocalIp := some (.v6 addr) } ifindex
  | _, _, _ => metadata

def applyReceiveAncillaryData (target : UnixTarget) (family : SubscriptionAddressFamily)
    (control : List ControlMessage) (metadata : ReceiveMetadata) : ReceiveMetadata :=
  control.foldl (applyControlMessage target family) metadata

/-! ## Receiving -/

def sourceRejected (filter : SourceFilter) (source : IpAddr) : Bool :=
  match filter with
  | .source expected => decide (source ≠ expected)
  | .any => false

/-- A configured index accepts no datagram of unknown ingress. -/
def ingressRejected (expected ingress : Option UInt32) : Bool :=
  match expected with
  | some expected => decide (ingress ≠ some expected)
  | none => false

def packetMatchesSubscription (source : SocketAddr) (metadata : ReceiveMetadata)
    (config : SubscriptionConfig) : Except McrxError Bool :=
  match metadata.destinationLocalIp with
  | none => .error .receiveMetadataUnavailable
  | some destination =>
    if destination ≠ config.group then .ok false
    else if sourceRejected config.source source.ip then .ok false
    else if ingressRejected config.interfaceIndex metadata.ingressInterfaceIndex then .ok false
    else .ok true

def MAX_FILTERED_DATAGRAMS_PER_RECEIVE : Nat := 256

def ANCILLARY_STACK_BUFFER_SIZE : Nat := 256

/-- `CMSG_SPACE` of the control messages, on 64-bit Linux and on Apple systems. -/
def ancillaryBufferSize (target : UnixTarget) (family : SubscriptionAddressFamily) : Nat :=
  match target, family with
  | .linux, .ipv4 => 32
  | .linux, .ipv6 => 40
  | .bsd, .ipv4 => 48
  | .bsd, .ipv6 => 32

/-- The buffers of one receive call, which every read of it writes from the start. -/
structure ReceiveBuffers where
  buf : List UInt8
  control : List ControlMessage

/-- The length of `buf`. -/
def RECEIVE_BUFFER_SIZE : Nat := 65535

namespace ReceiveBuffers

def uninit : ReceiveBuffers := { buf := List.replicate RECEIVE_BUFFER_SIZE 0, control := [] }

/-- The number of bytes that `recvmsg` reports. -/
def receivedLen (message : ReceivedMessage) : Nat := min message.payload.length RECEIVE_BUFFER_SIZE

/-- `recvmsg` overwrites the start of both buffers and leaves the rest. -/
def fill (buffers : ReceiveBuffers) (message : ReceivedMessage) : ReceiveBuffers :=
  { buf := message.payload.take RECEIVE_BUFFER_SIZE ++ buffers.buf.drop (receivedLen message)
    control := message.control ++ buffers.control.drop message.control.length }

end ReceiveBuffers

/-- The body of the receive loop after a read: `none` is a filtered datagram. -/
def receiveMessage (socket : ReceiveSocket) (subscriptionId : SubscriptionId)
    (config : SubscriptionConfig) (buffers : ReceiveBuffers) (message : ReceivedMessage) (w : W) :
    Except McrxError (Option PacketWithMetadata) × W :=
  match message.source with
  | none => (.error .nonIpSocketAddress, w)
  | some source =>
    andThen (socket.baseMetadata os config w) fun base w =>
    let controlLen := message.control.length
    let metadata :=
      if controlLen ≠ 0 then
        applyReceiveAncillaryData os.target config.family (buffers.control.take controlLen) base
      else base
    match packetMatchesSubscription source metadata config with
    | .error e => (.error e, w)
    | .ok false => (.ok none, w)
    | .ok true =>
      let packet : Packet :=
        { subscriptionId := subscriptionId
          source := source
          group := config.group
          dstPort := config.dstPort
          payload := buffers.buf.take (ReceiveBuffers.receivedLen message) }
      (.ok (some { packet := packet, metadata := metadata }), w)

/-- The loop of `recv_packet_with_metadata_unix` with `datagrams` filtered datagrams
left: the last one of them exhausts the budget. -/
def receiveLoop (socket : ReceiveSocket) (subscriptionId : SubscriptionId)
    (config : SubscriptionConfig) :
    Nat → ReceiveBuffers → W → Except McrxError (Option PacketWithMetadata) × W
  | 0, _, w => (.ok none, w)
  | datagrams + 1, buffers, w =>
    match os.recvmsg socket.socket w with
    | (.wouldBlock, w) => (.ok none, w)
    | (.failed error, w) => (.error (.receiveFailed error), w)
    | (.received message, w) =>
      let buffers := buffers.fill message
      match receiveMessage os socket subscriptionId config buffers message w with
      | (.error e, w) => (.error e, w)
      | (.ok (some packet), w) => (.ok (some packet), w)
      | (.ok none, w) => receiveLoop socket subscriptionId config datagrams buffers w

def ancillaryBufferTooSmall (controlSize : Nat) : McrxError :=
  .receiveSocketSetupFailed ("ancillary buffer requirement " ++ toString controlSize ++
    " exceeds " ++ toString ANCILLARY_STACK_BUFFER_SIZE ++ " bytes")

def recvPacketWithMetadataUnix (socket : ReceiveSocket) (subscriptionId : SubscriptionId)
    (config : SubscriptionConfig) (w : W) : Except McrxError (Option PacketWithMetadata) × W :=
  let controlSize := ancillaryBufferSize os.target config.family
  if ANCILLARY_STACK_BUFFER_SIZE < controlSize then
    (.error (ancillaryBufferTooSmall controlSize), w)
  else
    receiveLoop os socket subscriptionId config MAX_FILTERED_DATAGRAMS_PER_RECEIVE .uninit w

def recvPacketWithMetadata (socket : ReceiveSocket) (subscriptionId : SubscriptionId)
    (config : SubscriptionConfig) (w : W) : Except McrxError (Option PacketWithMetadata) × W :=
  match socket.ensureReady with
  | .error e => (.error e, w)
  | .ok () => recvPacketWithMetadataUnix os socket subscriptionId config w

def recvPacket (socket : ReceiveSocket) (subscriptionId : SubscriptionId)
    (config : SubscriptionConfig) (w : W) : Except McrxError (Option Packet) × W :=
  let (result, w) := recvPacketWithMetadata os socket subscriptionId config w
  (result.map (·.map PacketWithMetadata.intoPacket), w)

/-! ## What setup establishes -/

/-- A socket that setup succeeded for. -/
structure ReceiveSocket.Ready (socket : ReceiveSocket) : Prop where
  setup : socket.setupError = none
  bound : socket.localAddr ≠ none

theorem andThen_eq_ok {α β : Type} {call : Except McrxError α × W}
    {next : α → W → Except McrxError β × W} {b : β} {w' : W}
    (h : andThen call next = (.ok b, w')) : ∃ a w, call = (.ok a, w) ∧ next a w = (.ok b, w') := by
  match call, h with
  | (.ok a, w), h => exact ⟨a, w, rfl, h⟩

theorem prepareExistingSocket_ready {socket : Fd} {config : SubscriptionConfig} {w w' : W}
    {receiveSocket : ReceiveSocket}
    (h : prepareExistingSocket os socket config w = (.ok receiveSocket, w')) :
    receiveSocket.Ready := by
  obtain ⟨localAddr, w₁, -, h⟩ := andThen_eq_ok h
  split at h
  · exact nomatch h
  · split at h
    · exact nomatch h
    · obtain ⟨adopted, w₂, hadopt, h⟩ := andThen_eq_ok h
      obtain ⟨-, _, -, hadopt⟩ := andThen_eq_ok hadopt
      obtain ⟨-, _, -, hadopt⟩ := andThen_eq_ok hadopt
      obtain ⟨-, _, -, hadopt⟩ := andThen_eq_ok hadopt
      obtain ⟨_, _, -, hadopt⟩ := andThen_eq_ok hadopt
      obtain ⟨-, _, -, hadopt⟩ := andThen_eq_ok hadopt
      cases hadopt
      cases h
      exact ⟨rfl, nofun⟩

theorem openBoundSocket_ready {config : SubscriptionConfig} {w w' : W}
    {receiveSocket : ReceiveSocket}
    (h : openBoundSocket os config w = (.ok receiveSocket, w')) : receiveSocket.Ready := by
  obtain ⟨_, _, -, h⟩ := andThen_eq_ok h
  obtain ⟨-, _, -, h⟩ := andThen_eq_ok h
  obtain ⟨-, _, -, h⟩ := andThen_eq_ok h
  obtain ⟨-, _, -, h⟩ := andThen_eq_ok h
  exact prepareExistingSocket_ready os h

end McrxCore
