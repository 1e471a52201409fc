import McrxCore.Platform.ControlMessages
import McrxCore.Platform.UdpReceive

/-!
# UDP receive sockets on Windows

The receive loop around `WSARecvMsg`, which writes the control messages of a datagram into
memory.  A read of the loop outside of `Control` is a fault.  Over a system that lays out
the control messages that Linux would hand over, the loop receives what it does on Linux.
-/

namespace McrxCore

namespace WindowsUdp

open WindowsControl Slice

/-! ## The system -/

/-- What `WSARecvMsg` leaves: a datagram, and the memory with its control messages. -/
structure WsaMessage where
  payload : List UInt8
  source : Option SocketAddr
  memory : Nat → UInt8
  controlLen : UInt32

inductive WsaResult where
  | wouldBlock
  | failed (error : IoError)
  | received (message : WsaMessage)

/-- The calls on sockets and `WSARecvMsg`, which gets the length of the control buffer.  The
buffer is at `control`. -/
structure WsaSystem (W : Type) where
  target : Target
  control : Nat
  sockets : UdpSystem W
  wsarecvmsg : Fd → Nat → W → WsaResult × W

/-- A receive socket, and whether setup found the `WSARecvMsg` function.  It looks for it
last: without it `try_adopt` fails, and `adopt` keeps the error. -/
structure WindowsSocket extends ReceiveSocket where
  wsarecvmsg : Bool
  found : setupError = none → wsarecvmsg = true

abbrev Returns := Except Fault (Except McrxError (Option PacketWithMetadata))

/-! ## Receiving -/

def ancillaryBufferSize (target : Target) (family : SubscriptionAddressFamily) :
    Except Fault Nat :=
  wsaCmsgSpace target (sizeofPktinfo family)

instance (msg : Wsamsg) (span : Span) : Decidable (Inside msg span) :=
  inferInstanceAs (Decidable (_ ∧ _))

/-- The metadata with what the control messages say, read inside of `Control`. -/
def ancillaryMetadata (target : Target) (msg : Wsamsg) (family : SubscriptionAddressFamily)
    (metadata : ReceiveMetadata) : Except Fault ReceiveMetadata :=
  if msg.buf ≠ NULL ∧ msg.len ≠ 0 then do
    let walk ← WindowsControl.applyReceiveAncillaryData target msg family metadata
    if ∀ span ∈ walk.reads, Inside msg span then .ok walk.metadata else .error .outOfRange
  else .ok metadata

/-- `bytes_received`. -/
def bytesReceived (message : WsaMessage) : Nat := min message.payload.length RECEIVE_BUFFER_SIZE

/-- `WSARecvMsg` overwrites the start of `buf` and leaves the rest. -/
def fill (buf : List UInt8) (message : WsaMessage) : List UInt8 :=
  message.payload.take RECEIVE_BUFFER_SIZE ++ buf.drop (bytesReceived message)

section Receive

variable {W : Type} (os : WsaSystem W) (socket : WindowsSocket) (subscriptionId : SubscriptionId)
  (config : SubscriptionConfig) (controlSize : Nat)

/-- `msg.Control` after the call. -/
def controlOf (message : WsaMessage) : Wsamsg :=
  { memory := message.memory
    buf := os.control
    len := .ofNat (min message.controlLen.toNat controlSize) }

/-- The body of the loop after a read: `none` is a filtered datagram. -/
def receiveMessage (buf : List UInt8) (message : WsaMessage) (w : W) : Returns × W :=
  match message.source with
  | none => (.ok (.error .nonIpSocketAddress), w)
  | some source =>
    match socket.toReceiveSocket.baseMetadata os.sockets config w with
    | (.error e, w) => (.ok (.error e), w)
    | (.ok base, w) =>
      match ancillaryMetadata os.target (controlOf os controlSize message) config.family base with
      | .error fault => (.error fault, w)
      | .ok metadata =>
        match packetMatchesSubscription source metadata config with
        | .error e => (.ok (.error e), w)
        | .ok false => (.ok (.ok none), w)
        | .ok true =>
          let packet : Packet :=
            { subscriptionId := subscriptionId
              source := source
              group := config.group
              dstPort := config.dstPort
              payload := buf.take (bytesReceived message) }
          (.ok (.ok (some { packet := packet, metadata := metadata })), w)

/-- The loop of `recv_packet_with_metadata_windows` with `datagrams` filtered datagrams
left: the last one of them exhausts the budget. -/
def receiveLoop : Nat → List UInt8 → W → Returns × W
  | 0, _, w => (.ok (.ok none), w)
  | datagrams + 1, buf, w =>
    match os.wsarecvmsg socket.socket controlSize w with
    | (.wouldBlock, w) => (.ok (.ok none), w)
    | (.failed error, w) => (.ok (.error (.receiveFailed error)), w)
    | (.received message, w) =>
      let buf := fill buf message
      match receiveMessage os socket subscriptionId config controlSize buf message w with
      | (.error fault, w) => (.error fault, w)
      | (.ok (.error e), w) => (.ok (.error e), w)
      | (.ok (.ok (some packet)), w) => (.ok (.ok (some packet)), w)
      | (.ok (.ok none), w) => receiveLoop datagrams buf w

def recvPacketWithMetadataWindows (w : W) : Returns × W :=
  if socket.wsarecvmsg then
    match ancillaryBufferSize os.target config.family with
    | .error fault => (.error fault, w)
    | .ok controlSize =>
      if ANCILLARY_STACK_BUFFER_SIZE < controlSize then
        (.ok (.error (ancillaryBufferTooSmall controlSize)), w)
      else
        receiveLoop os socket subscriptionId config controlSize
          MAX_FILTERED_DATAGRAMS_PER_RECEIVE (List.replicate RECEIVE_BUFFER_SIZE 0) w
  else (.ok (.error (.receiveSocketSetupFailed "WSARecvMsg is unavailable")), w)

def recvPacketWithMetadata (w : W) : Returns × W :=
  match socket.ensureReady with
  | .error e => (.ok (.error e), w)
  | .ok () => recvPacketWithMetadataWindows os socket subscriptionId config w

end Receive

/-! ## Control buffers -/

/-- The length of the control buffer: one message of packet info. -/
def controlSize (target : Target) (family : SubscriptionAddressFamily) : Nat :=
  target.sizeofCmsghdr + Align.alignUp target.alignofCmsghdr (sizeofPktinfo family)

theorem ancillaryBufferSize_eq (target : Target) (family : SubscriptionAddressFamily) :
    ancillaryBufferSize target family = .ok (controlSize target family) := by
  cases target <;> cases family <;> rfl

theorem controlSize_le (target : Target) (family : SubscriptionAddressFamily) :
    controlSize target family ≤ ANCILLARY_STACK_BUFFER_SIZE := by
  cases target <;> cases family <;> decide

/-! ## The same reads as on Linux -/

def received (message : WsaMessage) (messages : List Cmsg) : ReceivedMessage :=
  { payload := message.payload
    source := message.source
    control := messages.map Cmsg.message }

/-- Where a read on Linux hands over a list of control messages, one on Windows lays them
out in the control buffer. -/
inductive SameRead (target : Target) (control controlSize : Nat) :
    WsaResult → RecvmsgResult → Prop where
  | wouldBlock : SameRead target control controlSize .wouldBlock .wouldBlock
  | failed (error : IoError) : SameRead target control controlSize (.failed error) (.failed error)
  | received {message : WsaMessage} {messages : List Cmsg}
    (laid : Laid target message.memory (control + min message.controlLen.toNat controlSize) control
      messages) :
    SameRead target control controlSize (.received message) (.received (received message messages))

/-- The reads of a family's sockets on Windows are those on Linux, through control storage
that is inside of the address space, and so are their addresses. -/
structure LaysOut {W : Type} (os : WsaSystem W) (linux : UdpSystem W)
    (family : SubscriptionAddressFamily) : Prop where
  target : linux.target = .linux
  localAddr : os.sockets.localAddr = linux.localAddr
  buffer : os.control ≠ NULL
  word : os.control + ANCILLARY_STACK_BUFFER_SIZE < 2 ^ os.target.bits
  world : ∀ socket w, (os.wsarecvmsg socket (controlSize os.target family) w).2 =
    (linux.recvmsg socket w).2
  read : ∀ socket w, SameRead os.target os.control (controlSize os.target family)
    (os.wsarecvmsg socket (controlSize os.target family) w).1 (linux.recvmsg socket w).1

def sound {W : Type} (call : Except McrxError (Option PacketWithMetadata) × W) : Returns × W :=
  (.ok call.1, call.2)

section Same

variable {W : Type} {os : WsaSystem W} {linux : UdpSystem W} {socket : WindowsSocket}
  (subscriptionId : SubscriptionId) (config : SubscriptionConfig)

theorem ancillaryMetadata_laid (h : LaysOut os linux config.family) {message : WsaMessage}
    {messages : List Cmsg}
    (hlaid : Laid os.target message.memory
      (os.control + min message.controlLen.toNat (controlSize os.target config.family)) os.control
      messages) (metadata : ReceiveMetadata) :
    ancillaryMetadata os.target (controlOf os (controlSize os.target config.family) message)
        config.family metadata =
      .ok (McrxCore.applyReceiveAncillaryData .linux config.family
        (messages.map Cmsg.message) metadata) := by
  have hsize := controlSize_le os.target config.family
  have hstorage : ANCILLARY_STACK_BUFFER_SIZE = 256 := rfl
  have hlen : (controlOf os (controlSize os.target config.family) message).len.toNat =
      min message.controlLen.toNat (controlSize os.target config.family) :=
    UInt32.toNat_ofNat_of_lt' (by rw [UInt32.size]; omega)
  have hword := h.word
  have hat : Laid os.target (controlOf os (controlSize os.target config.family) message).memory
      ((controlOf os (controlSize os.target config.family) message).buf +
        (controlOf os (controlSize os.target config.family) message).len.toNat) os.control
      messages := by
    rw [hlen]
    exact hlaid
  obtain ⟨walk, hwalk, -, hmetadata, hinside⟩ := applyReceiveAncillaryData_laid h.buffer
    (show os.control + (controlOf os (controlSize os.target config.family) message).len.toNat <
      2 ^ os.target.bits by omega) config.family hat metadata
  rw [ancillaryMetadata]
  by_cases hempty : (controlOf os (controlSize os.target config.family) message).len = 0
  · rw [if_neg (fun hboth => hboth.2 hempty)]
    have hzero : min message.controlLen.toNat (controlSize os.target config.family) = 0 := by
      rw [← hlen, hempty]
      rfl
    cases messages with
    | nil => rfl
    | cons cmsg rest =>
      have hend := hlaid.2.1
      have hheader := sizeofCmsghdr_le_len os.target cmsg
      have hpos := sizeofCmsghdr_pos os.target
      omega
  · rw [if_pos ⟨h.buffer, hempty⟩, hwalk, ok_bind, if_pos hinside, hmetadata]

variable (linux) in
/-- Linux makes the metadata of the control messages that are there, none included. -/
theorem unixMetadata_eq (htarget : linux.target = .linux) (buffers : ReceiveBuffers)
    (received : ReceivedMessage) (family : SubscriptionAddressFamily)
    (metadata : ReceiveMetadata) :
    (if received.control.length ≠ 0 then
        McrxCore.applyReceiveAncillaryData linux.target family
          ((buffers.fill received).control.take received.control.length) metadata
      else metadata) =
      McrxCore.applyReceiveAncillaryData .linux family received.control metadata := by
  have hcontrol : (buffers.fill received).control.take received.control.length =
      received.control := List.take_left' rfl
  rw [hcontrol, htarget]
  by_cases hnone : received.control.length = 0
  · rw [if_neg (fun h => h hnone), List.length_eq_zero_iff.mp hnone]
    rfl
  · exact if_pos hnone

theorem baseMetadata_linux (h : LaysOut os linux config.family) (w : W) :
    socket.toReceiveSocket.baseMetadata os.sockets config w =
      socket.toReceiveSocket.baseMetadata linux config w := by
  simp only [ReceiveSocket.baseMetadata, ReceiveSocket.boundAddr, trySocketLocalAddr, h.localAddr]

theorem receiveMessage_linux (h : LaysOut os linux config.family) (buffers : ReceiveBuffers)
    {message : WsaMessage} {messages : List Cmsg}
    (hlaid : Laid os.target message.memory
      (os.control + min message.controlLen.toNat (controlSize os.target config.family)) os.control
      messages) (w : W) :
    receiveMessage os socket subscriptionId config (controlSize os.target config.family)
        (fill buffers.buf message) message w =
      sound (McrxCore.receiveMessage linux socket.toReceiveSocket subscriptionId config
        (buffers.fill (received message messages)) (received message messages) w) := by
  rw [receiveMessage, McrxCore.receiveMessage, baseMetadata_linux config h]
  cases hsource : message.source with
  | none =>
    rw [show (received message messages).source = none from hsource]
    rfl
  | some source =>
    rw [show (received message messages).source = some source from hsource]
    rcases hbase : socket.toReceiveSocket.baseMetadata linux config w with ⟨result, w'⟩
    simp only [andThen]
    cases result with
    | error e => rfl
    | ok base =>
      dsimp only
      rw [ancillaryMetadata_laid config h hlaid, unixMetadata_eq linux h.target]
      dsimp only
      cases hmatches : packetMatchesSubscription source
          (McrxCore.applyReceiveAncillaryData .linux config.family (messages.map Cmsg.message)
            base) config with
      | error e =>
        rw [show (received message messages).control = messages.map Cmsg.message from rfl,
          hmatches]
        rfl
      | ok matching =>
        rw [show (received message messages).control = messages.map Cmsg.message from rfl,
          hmatches]
        cases matching <;> rfl

/-- The loop by induction on what is left of its budget: the buffers hold the same bytes. -/
theorem receiveLoop_linux (h : LaysOut os linux config.family) (datagrams : Nat)
    (buffers : ReceiveBuffers) (w : W) :
    receiveLoop os socket subscriptionId config (controlSize os.target config.family) datagrams
        buffers.buf w =
      sound (McrxCore.receiveLoop linux socket.toReceiveSocket subscriptionId config datagrams
        buffers w) := by
  induction datagrams generalizing buffers w with
  | zero => rfl
  | succ datagrams ih =>
    have hworld := h.world socket.socket w
    have hread := h.read socket.socket w
    rw [receiveLoop, McrxCore.receiveLoop]
    rcases hwindows : os.wsarecvmsg socket.socket (controlSize os.target config.family) w
      with ⟨read, w₁⟩
    rcases hlinux : linux.recvmsg socket.socket w with ⟨read', w₂⟩
    rw [hwindows, hlinux] at hworld hread
    obtain rfl : w₁ = w₂ := hworld
    cases hread with
    | wouldBlock => rfl
    | failed error => rfl
    | @received message messages hlaid =>
      dsimp only
      rw [receiveMessage_linux subscriptionId config h buffers hlaid]
      rcases hbody : McrxCore.receiveMessage linux socket.toReceiveSocket subscriptionId config
        (buffers.fill (received message messages)) (received message messages) w₁ with ⟨result, w₃⟩
      cases result with
      | error e => rfl
      | ok found =>
        cases found with
        | some packet => rfl
        | none => exact ih (buffers.fill (received message messages)) w₃

/-- A receive call on Windows returns what it does on Linux over the same reads, is never at
fault, and reads no byte outside of the control messages. -/
theorem windows_receives_like_linux (h : LaysOut os linux config.family) (w : W) :
    recvPacketWithMetadata os socket subscriptionId config w =
      sound (McrxCore.recvPacketWithMetadata linux socket.toReceiveSocket subscriptionId config
        w) := by
  have hwindows : ¬ ANCILLARY_STACK_BUFFER_SIZE < controlSize os.target config.family :=
    Nat.not_lt.mpr (controlSize_le ..)
  have hlinux : ¬ ANCILLARY_STACK_BUFFER_SIZE <
      McrxCore.ancillaryBufferSize linux.target config.family :=
    Nat.not_lt.mpr (ancillaryBufferSize_le ..)
  rw [recvPacketWithMetadata, McrxCore.recvPacketWithMetadata]
  cases hsetup : socket.setupError with
  | some message =>
    simp only [ReceiveSocket.ensureReady, hsetup]
    rfl
  | none =>
    simp only [ReceiveSocket.ensureReady, hsetup]
    rw [recvPacketWithMetadataWindows, if_pos (socket.found hsetup), ancillaryBufferSize_eq,
      recvPacketWithMetadataUnix, if_neg hlinux]
    dsimp only
    rw [if_neg hwindows]
    exact receiveLoop_linux subscriptionId config h _ .uninit w

end Same

def pktinfo : List Cmsg := [.ipPktinfo (.new 239 1 2 3) 7]

/-- A datagram whose packet info fills the control buffer of a 64-bit build. -/
def pktinfoMessage : WsaMessage :=
  { payload := [1, 2, 3]
    source := some { ip := .v4 (.new 10 0 0 1), port := 5000 }
    memory := memoryOf 4096 (encode .bits64 pktinfo)
    controlLen := 24 }

def pktinfoLinux : UdpSystem Unit :=
  .granting { ip := .v4 (.new 0 0 0 0), port := 5000 } (.received (received pktinfoMessage pktinfo))

def pktinfoWindows : WsaSystem Unit :=
  { target := .bits64
    control := 4096
    sockets := pktinfoLinux
    wsarecvmsg := fun _ _ w => (.received pktinfoMessage, w) }

theorem pktinfo_laysOut : LaysOut pktinfoWindows pktinfoLinux .ipv4 where
  target := rfl
  localAddr := rfl
  buffer := by decide
  word := by decide
  world _ _ := rfl
  read _ _ := .received (laid_encode (holds_memoryOf 4096 _) (by decide) (by decide))

def pktinfoSocket : WindowsSocket :=
  { socket := 3
    localAddr := some { ip := .v4 (.new 0 0 0 0), port := 5000 }
    setupError := none
    wsarecvmsg := true
    found := fun _ => rfl }

theorem windows_receives_like_linux_pktinfo :
    recvPacketWithMetadata pktinfoWindows pktinfoSocket ⟨0⟩ (.asm (.v4 (.new 239 1 2 3)) 5000) () =
      sound (McrxCore.recvPacketWithMetadata pktinfoLinux pktinfoSocket.toReceiveSocket ⟨0⟩
        (.asm (.v4 (.new 239 1 2 3)) 5000) ()) :=
  windows_receives_like_linux ⟨0⟩ (.asm (.v4 (.new 239 1 2 3)) 5000) pktinfo_laysOut ()

end WindowsUdp

end McrxCore
