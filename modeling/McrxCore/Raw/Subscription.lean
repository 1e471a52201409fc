import McrxCore.Packet

/-!
# Raw subscriptions

`RawSubscription` of `raw/subscription.rs` over an arbitrary platform.  The four
functions of `platform/raw.rs` that it calls have a body for each platform; a backend is
one choice of them, on the worlds of its operating system.
-/

namespace McrxCore

/-- The functions of a platform, on sockets of type `S`. -/
structure RawBackend (S W : Type) where
  openRawSocket : RawSubscriptionConfig → W → Except McrxError S × W
  joinRawMulticastGroup : S → RawSubscriptionConfig → W → Except McrxError Unit × W
  leaveRawMulticastGroup : S → RawSubscriptionConfig → W → Except McrxError Unit × W
  recvRawPacket :
    S → SubscriptionId → RawSubscriptionConfig → W → Except McrxError (Option RawPacket) × W

/-- A platform that grants every request and gives the same packet to every receive. -/
def RawBackend.granting (packet : Option RawPacket) : RawBackend Unit Unit :=
  { openRawSocket := fun _ w => (.ok (), w)
    joinRawMulticastGroup := fun _ _ w => (.ok (), w)
    leaveRawMulticastGroup := fun _ _ w => (.ok (), w)
    recvRawPacket := fun _ _ _ w => (.ok packet, w) }

structure RawSubscription (S : Type) where
  id : SubscriptionId
  config : RawSubscriptionConfig
  socket : S
  state : SubscriptionState
  deriving DecidableEq, Repr

namespace RawSubscription

variable {S W : Type} (backend : RawBackend S W)

def new (id : SubscriptionId) (config : RawSubscriptionConfig) (socket : S) : RawSubscription S :=
  { id := id, config := config, socket := socket, state := .bound }

def isJoined (subscription : RawSubscription S) : Bool := subscription.state == .joined

def tryRecv (subscription : RawSubscription S) (w : W) :
    Except McrxError (Option RawPacket) × W :=
  if !subscription.isJoined then (.error .subscriptionNotJoined, w)
  else backend.recvRawPacket subscription.socket subscription.id subscription.config w

def join (subscription : RawSubscription S) (w : W) :
    Except McrxError Unit × RawSubscription S × W :=
  if subscription.isJoined then (.error .subscriptionAlreadyJoined, subscription, w)
  else
    match backend.joinRawMulticastGroup subscription.socket subscription.config w with
    | (.error e, w) => (.error e, subscription, w)
    | (.ok (), w) => (.ok (), { subscription with state := .joined }, w)

def leave (subscription : RawSubscription S) (w : W) :
    Except McrxError Unit × RawSubscription S × W :=
  if !subscription.isJoined then (.error .subscriptionNotJoined, subscription, w)
  else
    match backend.leaveRawMulticastGroup subscription.socket subscription.config w with
    | (.error e, w) => (.error e, subscription, w)
    | (.ok (), w) => (.ok (), { subscription with state := .bound }, w)

end RawSubscription

end McrxCore
