import McrxCore.Bindings.Arguments
import McrxCore.Ffi.Poll

/-!
# Packets as the bindings show them

The C interface hands its callback a view of the packet, the Python module an object.  Both
have the addresses as text and read the same texts back as arguments, and both leave out
the flow label and the scope of an IPv6 socket address.
-/

namespace McrxCore

namespace Ffi

/-- `McrxPacketView`, with the strings that its pointers point to. -/
structure McrxPacketView where
  payload : List UInt8
  payloadLen : Nat
  subscriptionId : Nat
  sourceIp : String
  sourcePort : UInt16
  groupIp : String
  dstPort : UInt16
  socketLocalIp : Option String
  socketLocalPort : UInt16
  configuredInterfaceIp : Option String
  configuredInterfaceIndex : UInt32
  hasConfiguredInterfaceIndex : UInt8
  destinationLocalIp : Option String
  ingressInterfaceIndex : UInt32
  hasIngressInterfaceIndex : UInt8
  deriving DecidableEq, Repr

def optIpCstring (addr : Option IpAddr) : Option String :=
  addr.map fun addr => cstringLossy addr.display

def optSocketIpCstring (addr : Option SocketAddr) : Option String :=
  addr.map fun addr => cstringLossy addr.ip.display

def socketPort (addr : Option SocketAddr) : UInt16 := addr.elim 0 SocketAddr.port

/-- `is_some() as u8`. -/
def hasIndex (index : Option UInt32) : UInt8 := if index.isSome then 1 else 0

def packetView (packet : PacketWithMetadata) (sourceIp groupIp : String)
    (socketLocalIp configuredInterfaceIp destinationLocalIp : Option String) : McrxPacketView :=
  let metadata := packet.metadata
  { payload := packet.packet.payload
    payloadLen := packet.packet.payload.length
    subscriptionId := packet.packet.subscriptionId.val
    sourceIp := sourceIp
    sourcePort := packet.packet.source.port
    groupIp := groupIp
    dstPort := packet.packet.dstPort
    socketLocalIp := socketLocalIp
    socketLocalPort := socketPort metadata.socketLocalAddr
    configuredInterfaceIp := configuredInterfaceIp
    configuredInterfaceIndex := metadata.configuredInterfaceIndex.getD 0
    hasConfiguredInterfaceIndex := hasIndex metadata.configuredInterfaceIndex
    destinationLocalIp := destinationLocalIp
    ingressInterfaceIndex := metadata.ingressInterfaceIndex.getD 0
    hasIngressInterfaceIndex := hasIndex metadata.ingressInterfaceIndex }

/-- The view that `call_packet_callback` makes. -/
def callbackView (packet : PacketWithMetadata) : McrxPacketView :=
  packetView packet (cstringLossy packet.packet.source.ip.display)
    (cstringLossy packet.packet.group.display)
    (optSocketIpCstring packet.metadata.socketLocalAddr)
    (optIpCstring packet.metadata.configuredInterface)
    (optIpCstring packet.metadata.destinationLocalIp)

end Ffi

namespace Python

structure PyPacket where
  subscriptionId : Nat
  sourceAddr : String
  sourcePort : UInt16
  group : String
  dstPort : UInt16
  payload : List UInt8
  deriving DecidableEq, Repr

structure PyReceiveMetadata where
  socketLocalAddr : Option (String × UInt16)
  configuredInterface : Option String
  configuredInterfaceIndex : Option UInt32
  destinationLocalIp : Option String
  ingressInterfaceIndex : Option UInt32
  deriving DecidableEq, Repr

structure PyPacketWithMetadata where
  packet : PyPacket
  metadata : PyReceiveMetadata
  deriving DecidableEq, Repr

def addrToTuple (addr : SocketAddr) : String × UInt16 := (addr.ip.display, addr.port)

def PyPacket.ofPacket (packet : Packet) : PyPacket :=
  { subscriptionId := packet.subscriptionId.val
    sourceAddr := packet.source.ip.display
    sourcePort := packet.source.port
    group := packet.group.display
    dstPort := packet.dstPort
    payload := packet.payload }

def PyReceiveMetadata.ofMetadata (metadata : ReceiveMetadata) : PyReceiveMetadata :=
  { socketLocalAddr := metadata.socketLocalAddr.map addrToTuple
    configuredInterface := metadata.configuredInterface.map IpAddr.display
    configuredInterfaceIndex := metadata.configuredInterfaceIndex
    destinationLocalIp := metadata.destinationLocalIp.map IpAddr.display
    ingressInterfaceIndex := metadata.ingressInterfaceIndex }

def PyPacketWithMetadata.ofPacket (packet : PacketWithMetadata) : PyPacketWithMetadata :=
  { packet := .ofPacket packet.packet, metadata := .ofMetadata packet.metadata }

end Python

/-! ## Reading a packet back -/

namespace Bindings

def readAddr (text : String) : Except String IpAddr := parseIpAddr id text "packet"

def readOptionalAddr (text : Option String) : Except String (Option IpAddr) :=
  parseOptionalIpAddr id text "packet"

def readSocketAddr (text : Option String) (port : UInt16) : Except String (Option SocketAddr) :=
  (readOptionalAddr text).map fun addr => addr.map fun ip => { ip := ip, port := port }

def readIndex (present : UInt8) (index : UInt32) : Option UInt32 :=
  if present = 0 then none else some index

def readPacket (subscriptionId : Nat) (source : String) (sourcePort : UInt16) (group : String)
    (dstPort : UInt16) (payload : List UInt8) : Except String Packet := do
  let source ← readAddr source
  let group ← readAddr group
  .ok
    { subscriptionId := ⟨subscriptionId⟩
      source := { ip := source, port := sourcePort }
      group := group
      dstPort := dstPort
      payload := payload }

def readMetadata (socketLocalIp : Option String) (socketLocalPort : UInt16)
    (configuredInterface : Option String) (configuredInterfaceIndex : Option UInt32)
    (destinationLocalIp : Option String) (ingressInterfaceIndex : Option UInt32) :
    Except String ReceiveMetadata := do
  let socketLocalAddr ← readSocketAddr socketLocalIp socketLocalPort
  let configuredInterface ← readOptionalAddr configuredInterface
  let destinationLocalIp ← readOptionalAddr destinationLocalIp
  .ok
    { socketLocalAddr := socketLocalAddr
      configuredInterface := configuredInterface
      configuredInterfaceIndex := configuredInterfaceIndex
      destinationLocalIp := destinationLocalIp
      ingressInterfaceIndex := ingressInterfaceIndex }

/-- What a C host can make of a view: every address is a text that it could pass back. -/
def readView (view : Ffi.McrxPacketView) : Except String PacketWithMetadata := do
  let packet ← readPacket view.subscriptionId view.sourceIp view.sourcePort view.groupIp
    view.dstPort (view.payload.take view.payloadLen)
  let metadata ← readMetadata view.socketLocalIp view.socketLocalPort view.configuredInterfaceIp
    (readIndex view.hasConfiguredInterfaceIndex view.configuredInterfaceIndex)
    view.destinationLocalIp (readIndex view.hasIngressInterfaceIndex view.ingressInterfaceIndex)
  .ok { packet := packet, metadata := metadata }

def readPyPacket (packet : Python.PyPacketWithMetadata) : Except String PacketWithMetadata := do
  let metadata := packet.metadata
  let packet ← readPacket packet.packet.subscriptionId packet.packet.sourceAddr
    packet.packet.sourcePort packet.packet.group packet.packet.dstPort packet.packet.payload
  let metadata ← readMetadata (metadata.socketLocalAddr.map Prod.fst)
    (metadata.socketLocalAddr.elim 0 Prod.snd) metadata.configuredInterface
    metadata.configuredInterfaceIndex metadata.destinationLocalIp metadata.ingressInterfaceIndex
  .ok { packet := packet, metadata := metadata }

def unscoped (addr : SocketAddr) : SocketAddr := { ip := addr.ip, port := addr.port }

/-- The packet without the flow labels and the scopes of its socket addresses. -/
def shown (packet : PacketWithMetadata) : PacketWithMetadata :=
  { packet := { packet.packet with source := unscoped packet.packet.source }
    metadata :=
      { packet.metadata with
        socketLocalAddr := packet.metadata.socketLocalAddr.map unscoped } }

theorem cstringLossy_display (addr : IpAddr) : Ffi.cstringLossy addr.display = addr.display := by
  rw [Ffi.cstringLossy, String.contains_char_eq, if_neg]
  rw [decide_eq_true_eq]
  exact addr.nul_not_mem_display

theorem readAddr_display (addr : IpAddr) : readAddr addr.display = .ok addr := by
  rw [readAddr, parseIpAddr, parseIpAddr_display]

theorem readOptionalAddr_display (addr : Option IpAddr) :
    readOptionalAddr (addr.map IpAddr.display) = .ok addr := by
  cases addr with
  | none => rfl
  | some addr =>
    show (parseIpAddr id addr.display "packet").map some = _
    rw [parseIpAddr, parseIpAddr_display]
    rfl

/-- The port of a missing address does not matter. -/
theorem readSocketAddr_display (addr : Option SocketAddr) :
    readSocketAddr (addr.map fun addr => addr.ip.display) (addr.elim 0 SocketAddr.port) =
      .ok (addr.map unscoped) := by
  have htext : addr.map (fun addr => addr.ip.display) =
      (addr.map SocketAddr.ip).map IpAddr.display := by
    rw [Option.map_map]
    rfl
  rw [readSocketAddr, htext, readOptionalAddr_display]
  cases addr <;> rfl

theorem readIndex_hasIndex (index : Option UInt32) :
    readIndex (Ffi.hasIndex index) (index.getD 0) = index := by
  cases index <;> rfl

theorem readPacket_display (packet : Packet) :
    readPacket packet.subscriptionId.val packet.source.ip.display packet.source.port
      packet.group.display packet.dstPort packet.payload =
        .ok { packet with source := unscoped packet.source } := by
  rw [readPacket, readAddr_display, readAddr_display]
  rfl

theorem readMetadata_display (metadata : ReceiveMetadata) :
    readMetadata (metadata.socketLocalAddr.map fun addr => addr.ip.display)
        (metadata.socketLocalAddr.elim 0 SocketAddr.port)
        (metadata.configuredInterface.map IpAddr.display) metadata.configuredInterfaceIndex
        (metadata.destinationLocalIp.map IpAddr.display) metadata.ingressInterfaceIndex =
      .ok { metadata with socketLocalAddr := metadata.socketLocalAddr.map unscoped } := by
  rw [readMetadata, readSocketAddr_display, readOptionalAddr_display, readOptionalAddr_display]
  rfl

theorem readView_callbackView (packet : PacketWithMetadata) :
    readView (Ffi.callbackView packet) = .ok (shown packet) := by
  have hpacket := readPacket_display packet.packet
  have hmetadata := readMetadata_display packet.metadata
  simp only [readView, Ffi.callbackView, Ffi.packetView, Ffi.optSocketIpCstring,
    Ffi.optIpCstring, Ffi.socketPort, cstringLossy_display, readIndex_hasIndex,
    List.take_length]
  rw [hpacket]
  show (readMetadata _ _ _ _ _ _ >>= _) = _
  rw [hmetadata]
  rfl

theorem readPyPacket_ofPacket (packet : PacketWithMetadata) :
    readPyPacket (.ofPacket packet) = .ok (shown packet) := by
  have hpacket := readPacket_display packet.packet
  have hmetadata := readMetadata_display packet.metadata
  have htext : (packet.metadata.socketLocalAddr.map Python.addrToTuple).map Prod.fst =
      packet.metadata.socketLocalAddr.map fun addr => addr.ip.display := by
    rw [Option.map_map]
    rfl
  have hport : (packet.metadata.socketLocalAddr.map Python.addrToTuple).elim 0 Prod.snd =
      packet.metadata.socketLocalAddr.elim 0 SocketAddr.port := by
    cases packet.metadata.socketLocalAddr <;> rfl
  simp only [readPyPacket, Python.PyPacketWithMetadata.ofPacket, Python.PyPacket.ofPacket,
    Python.PyReceiveMetadata.ofMetadata, htext, hport]
  rw [hpacket]
  show (readMetadata _ _ _ _ _ _ >>= _) = _
  rw [hmetadata]
  rfl

theorem callbackView_shown (packet : PacketWithMetadata) :
    Ffi.callbackView (shown packet) = Ffi.callbackView packet := by
  rcases packet with ⟨packet, addr, _, _, _, _⟩
  cases addr <;> rfl

theorem ofPacket_shown (packet : PacketWithMetadata) :
    Python.PyPacketWithMetadata.ofPacket (shown packet) = .ofPacket packet := by
  rcases packet with ⟨packet, addr, _, _, _, _⟩
  cases addr <;> rfl

end Bindings

/-- A packet loses nothing but the flow labels and the scopes of its socket addresses on its
way to a C callback or to Python: whoever reads the texts back as the bindings do has the
rest of the packet with its metadata, and packets look the same only if they differ in
nothing else. -/
theorem packet_views_read_back (packet other : PacketWithMetadata) :
    Bindings.readView (Ffi.callbackView packet) = .ok (Bindings.shown packet) ∧
      Bindings.readPyPacket (.ofPacket packet) = .ok (Bindings.shown packet) ∧
      (Ffi.callbackView packet = Ffi.callbackView other ↔
        Bindings.shown packet = Bindings.shown other) ∧
      (Python.PyPacketWithMetadata.ofPacket packet = .ofPacket other ↔
        Bindings.shown packet = Bindings.shown other) := by
  refine ⟨Bindings.readView_callbackView packet, Bindings.readPyPacket_ofPacket packet, ?_, ?_⟩
  · constructor
    · intro hview
      have hread := congrArg Bindings.readView hview
      rw [Bindings.readView_callbackView, Bindings.readView_callbackView] at hread
      exact Except.ok.inj hread
    · intro hshown
      rw [← Bindings.callbackView_shown packet, hshown, Bindings.callbackView_shown]
  · constructor
    · intro hobject
      have hread := congrArg Bindings.readPyPacket hobject
      rw [Bindings.readPyPacket_ofPacket, Bindings.readPyPacket_ofPacket] at hread
      exact Except.ok.inj hread
    · intro hshown
      rw [← Bindings.ofPacket_shown packet, hshown, Bindings.ofPacket_shown]

end McrxCore
