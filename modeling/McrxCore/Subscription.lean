import McrxCore.Platform.Udp

/-!
# Subscriptions

`Subscription` of `subscription.rs` with its metrics.  The metrics are atomics behind a
shared reference, so a receive returns the subscription it leaves.
-/

namespace McrxCore

/-- `AtomicU64`, by the sum of what was ever added to it. -/
structure AtomicU64 where
  added : Nat
  deriving DecidableEq, Repr

namespace AtomicU64

def zero : AtomicU64 := { added := 0 }

/-- `fetch_add` wraps, which `load` shows. -/
def fetchAdd (counter : AtomicU64) (n : Nat) : AtomicU64 := { added := counter.added + n }

def load (counter : AtomicU64) : Nat := counter.added % 2 ^ 64

end AtomicU64

structure SubscriptionMetricsInner where
  packetsReceived : AtomicU64
  bytesReceived : AtomicU64
  wouldBlockCount : AtomicU64
  receiveErrors : AtomicU64
  joinCount : AtomicU64
  leaveCount : AtomicU64
  lastPayloadLen : Nat
  lastSource : Option SocketAddr
  deriving DecidableEq, Repr

def SubscriptionMetricsInner.default : SubscriptionMetricsInner :=
  { packetsReceived := .zero
    bytesReceived := .zero
    wouldBlockCount := .zero
    receiveErrors := .zero
    joinCount := .zero
    leaveCount := .zero
    lastPayloadLen := WORD_MAX
    lastSource := none }

structure Subscription where
  id : SubscriptionId
  config : SubscriptionConfig
  socket : ReceiveSocket
  state : SubscriptionState
  metrics : SubscriptionMetricsInner
  deriving DecidableEq, Repr

namespace Subscription

def withSocket (id : SubscriptionId) (config : SubscriptionConfig) (socket : ReceiveSocket) :
    Subscription :=
  { id := id, config := config, socket := socket, state := .bound, metrics := .default }

def fromReceiveSocket (id : SubscriptionId) (config : SubscriptionConfig)
    (socket : ReceiveSocket) : Subscription :=
  withSocket id config socket

def isJoined (subscription : Subscription) : Bool := subscription.state == .joined

def recordReceivedPacket (subscription : Subscription) (packet : Packet) : Subscription :=
  let metrics := subscription.metrics
  { subscription with
    metrics :=
      { metrics with
        packetsReceived := metrics.packetsReceived.fetchAdd 1
        bytesReceived := metrics.bytesReceived.fetchAdd packet.payload.length
        lastPayloadLen := packet.payload.length
        lastSource := some packet.source } }

def recordWouldBlock (subscription : Subscription) : Subscription :=
  let metrics := subscription.metrics
  { subscription with
    metrics := { metrics with wouldBlockCount := metrics.wouldBlockCount.fetchAdd 1 } }

def recordReceiveError (subscription : Subscription) : Subscription :=
  let metrics := subscription.metrics
  { subscription with
    metrics := { metrics with receiveErrors := metrics.receiveErrors.fetchAdd 1 } }

/-- `try_recv` and `try_recv_with_metadata`, which differ in the platform function they
call and in where its result has the packet. -/
def receiveWith {W T : Type}
    (recv : ReceiveSocket → SubscriptionId → SubscriptionConfig → W →
      Except McrxError (Option T) × W)
    (packetOf : T → Packet) (subscription : Subscription) (w : W) :
    Except McrxError (Option T) × Subscription × W :=
  if !subscription.isJoined then (.error .subscriptionNotJoined, subscription, w)
  else
    match recv subscription.socket subscription.id subscription.config w with
    | (.ok (some packet), w) =>
      (.ok (some packet), subscription.recordReceivedPacket (packetOf packet), w)
    | (.ok none, w) => (.ok none, subscription.recordWouldBlock, w)
    | (.error e, w) => (.error e, subscription.recordReceiveError, w)

section Receive

variable {W : Type} (os : UdpSystem W)

def tryRecv (subscription : Subscription) (w : W) :
    Except McrxError (Option Packet) × Subscription × W :=
  receiveWith (recvPacket os) (fun packet => packet) subscription w

def tryRecvWithMetadata (subscription : Subscription) (w : W) :
    Except McrxError (Option PacketWithMetadata) × Subscription × W :=
  receiveWith (recvPacketWithMetadata os) PacketWithMetadata.packet subscription w

end Receive

def markJoined (subscription : Subscription) : Except McrxError Subscription :=
  if subscription.state = .joined then .error .subscriptionAlreadyJoined
  else
    let metrics := subscription.metrics
    .ok
      { subscription with
        state := .joined
        metrics := { metrics with joinCount := metrics.joinCount.fetchAdd 1 } }

def markBound (subscription : Subscription) : Except McrxError Subscription :=
  if subscription.state = .bound then .error .subscriptionNotJoined
  else
    let metrics := subscription.metrics
    .ok
      { subscription with
        state := .bound
        metrics := { metrics with leaveCount := metrics.leaveCount.fetchAdd 1 } }

/-- After the checks of the context, the marks cannot fail. -/
theorem markJoined_eq {subscription : Subscription} (h : ¬ subscription.isJoined = true) :
    subscription.markJoined =
      .ok
        { subscription with
          state := .joined
          metrics :=
            { subscription.metrics with
              joinCount := subscription.metrics.joinCount.fetchAdd 1 } } :=
  if_neg fun hjoined => h (beq_iff_eq.mpr hjoined)

theorem markBound_eq {subscription : Subscription} (h : subscription.isJoined = true) :
    subscription.markBound =
      .ok
        { subscription with
          state := .bound
          metrics :=
            { subscription.metrics with
              leaveCount := subscription.metrics.leaveCount.fetchAdd 1 } } := by
  refine if_neg fun hbound => ?_
  rw [isJoined, hbound] at h
  exact nomatch h

end Subscription

end McrxCore
