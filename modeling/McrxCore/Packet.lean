import McrxCore.Config

/-!
# Packets and receive metadata
-/

namespace McrxCore

/-- `usize::MAX` and `u64::MAX`. -/
def WORD_MAX : Nat := 2 ^ 64 - 1

abbrev Fd := Nat

/-- `SubscriptionId(u64)`. -/
structure SubscriptionId where
  val : Nat
  deriving DecidableEq, Repr

inductive SubscriptionState where
  | bound
  | joined
  deriving DecidableEq, Repr

/-- `std::net::SocketAddr`; an IPv6 address has a flow label and a scope as well. -/
structure SocketAddr where
  ip : IpAddr
  port : UInt16
  flowinfo : UInt32 := 0
  scopeId : UInt32 := 0
  deriving DecidableEq, Repr

structure ReceiveMetadata where
  socketLocalAddr : Option SocketAddr
  configuredInterface : Option IpAddr
  configuredInterfaceIndex : Option UInt32
  destinationLocalIp : Option IpAddr
  ingressInterfaceIndex : Option UInt32
  deriving DecidableEq, Repr

structure Packet where
  subscriptionId : SubscriptionId
  source : SocketAddr
  group : IpAddr
  dstPort : UInt16
  payload : List UInt8
  deriving DecidableEq, Repr

structure PacketWithMetadata where
  packet : Packet
  metadata : ReceiveMetadata
  deriving DecidableEq, Repr

/-- `PacketWithMetadata::into_packet`. -/
def PacketWithMetadata.intoPacket (packet : PacketWithMetadata) : Packet := packet.packet

structure RawPacket where
  subscriptionId : SubscriptionId
  datagram : List UInt8
  sourceIp : Option IpAddr
  group : Option IpAddr
  ipProtocol : Option UInt8
  metadata : ReceiveMetadata
  deriving DecidableEq, Repr

end McrxCore
