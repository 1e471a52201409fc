import McrxCore.Lib.Journal
import McrxCore.Lib.Vec
import McrxCore.Roster
import McrxCore.Subscription

/-!
# The context

`Context` of `context.rs` with its metrics, as explicit state passing over an arbitrary
operating system.  The receive scan is a round-robin scan that records every poll in the
metrics of the context.
-/

namespace McrxCore

structure ContextMetricsInner where
  subscriptionsAdded : AtomicU64
  subscriptionsRemoved : AtomicU64
  totalPacketsReceived : AtomicU64
  totalBytesReceived : AtomicU64
  totalWouldBlockCount : AtomicU64
  totalReceiveErrors : AtomicU64
  totalJoinCount : AtomicU64
  totalLeaveCount : AtomicU64
  batchCalls : AtomicU64
  batchPacketsReceived : AtomicU64
  deriving DecidableEq, Repr

namespace ContextMetricsInner

def default : ContextMetricsInner :=
  { subscriptionsAdded := .zero
    subscriptionsRemoved := .zero
    totalPacketsReceived := .zero
    totalBytesReceived := .zero
    totalWouldBlockCount := .zero
    totalReceiveErrors := .zero
    totalJoinCount := .zero
    totalLeaveCount := .zero
    batchCalls := .zero
    batchPacketsReceived := .zero }

def recordReceivedPacket (metrics : ContextMetricsInner) (payloadLen : Nat) :
    ContextMetricsInner :=
  { metrics with
    totalPacketsReceived := metrics.totalPacketsReceived.fetchAdd 1
    totalBytesReceived := metrics.totalBytesReceived.fetchAdd payloadLen }

def recordWouldBlock (metrics : ContextMetricsInner) : ContextMetricsInner :=
  { metrics with totalWouldBlockCount := metrics.totalWouldBlockCount.fetchAdd 1 }

def recordReceiveError (metrics : ContextMetricsInner) : ContextMetricsInner :=
  { metrics with totalReceiveErrors := metrics.totalReceiveErrors.fetchAdd 1 }

def recordBatchCall (metrics : ContextMetricsInner) : ContextMetricsInner :=
  { metrics with batchCalls := metrics.batchCalls.fetchAdd 1 }

def recordBatchPacketsReceived (metrics : ContextMetricsInner) (packetCount : Nat) :
    ContextMetricsInner :=
  { metrics with batchPacketsReceived := metrics.batchPacketsReceived.fetchAdd packetCount }

end ContextMetricsInner

structure Context where
  subscriptions : List Subscription
  nextSubscriptionId : Nat
  nextRecvIndex : Nat
  metrics : ContextMetricsInner
  deriving DecidableEq, Repr

def MAX_DRAIN_PACKETS_PER_CALL : Nat := 4096

/-- `ContextMetricsSnapshot`, without its time. -/
structure ContextMetricsSnapshot where
  subscriptionsAdded : Nat
  subscriptionsRemoved : Nat
  activeSubscriptions : Nat
  joinedSubscriptions : Nat
  totalPacketsReceived : Nat
  totalBytesReceived : Nat
  totalWouldBlockCount : Nat
  totalReceiveErrors : Nat
  totalJoinCount : Nat
  totalLeaveCount : Nat
  batchCalls : Nat
  batchPacketsReceived : Nat
  deriving DecidableEq, Repr

namespace Context

/-- The context, the world of its operating system, and the receive scans of the current
call. -/
structure System (W : Type) where
  context : Context
  world : W
  sweeps : List Sweep

def new : Context :=
  { subscriptions := [], nextSubscriptionId := 1, nextRecvIndex := 0, metrics := .default }

def metricsSnapshot (c : Context) : ContextMetricsSnapshot :=
  { subscriptionsAdded := c.metrics.subscriptionsAdded.load
    subscriptionsRemoved := c.metrics.subscriptionsRemoved.load
    activeSubscriptions := c.subscriptions.length
    joinedSubscriptions := c.subscriptions.countP Subscription.isJoined
    totalPacketsReceived := c.metrics.totalPacketsReceived.load
    totalBytesReceived := c.metrics.totalBytesReceived.load
    totalWouldBlockCount := c.metrics.totalWouldBlockCount.load
    totalReceiveErrors := c.metrics.totalReceiveErrors.load
    totalJoinCount := c.metrics.totalJoinCount.load
    totalLeaveCount := c.metrics.totalLeaveCount.load
    batchCalls := c.metrics.batchCalls.load
    batchPacketsReceived := c.metrics.batchPacketsReceived.load }

/-! ## Adding and removing -/

def ensureSubscriptionConfigIsUnique (config : SubscriptionConfig) (c : Context) :
    Except McrxError Unit :=
  if c.subscriptions.any fun subscription => subscription.config == config then
    .error .duplicateSubscription
  else .ok ()

def insertSubscription (config : SubscriptionConfig) (socket : ReceiveSocket) (c : Context) :
    SubscriptionId × Context :=
  let id : SubscriptionId := ⟨c.nextSubscriptionId⟩
  let metrics := c.metrics
  (id,
    { c with
      nextSubscriptionId := (c.nextSubscriptionId + 1) % 2 ^ 64
      subscriptions := c.subscriptions ++ [.fromReceiveSocket id config socket]
      metrics := { metrics with subscriptionsAdded := metrics.subscriptionsAdded.fetchAdd 1 } })

/-- `none` is the panic of `swap_remove`. -/
def finishSubscriptionRemoval (index : Nat) (c : Context) : Option (Subscription × Context) :=
  match Vec.swapRemove c.subscriptions index with
  | none => none
  | some (removed, subscriptions) =>
    let metrics := c.metrics
    some (removed,
      { c with
        subscriptions := subscriptions
        nextRecvIndex := if subscriptions.isEmpty then 0 else c.nextRecvIndex % subscriptions.length
        metrics :=
          { metrics with subscriptionsRemoved := metrics.subscriptionsRemoved.fetchAdd 1 } })

def takeSubscription (id : SubscriptionId) (c : Context) :
    Outcome (Option Subscription) × Context :=
  match c.subscriptions.findIdx? fun subscription => subscription.id == id with
  | none => (.ok none, c)
  | some index =>
    match finishSubscriptionRemoval index c with
    | none => (.panic, c)
    | some (removed, c) => (.ok (some removed), c)

def removeSubscription (id : SubscriptionId) (c : Context) : Outcome Bool × Context :=
  let (taken, c) := takeSubscription id c
  (taken.map Option.isSome, c)

section Calls

variable {W : Type} (os : UdpSystem W)

/-- The end of both adding calls: `open` makes the socket of the subscription. -/
def addWith (config : SubscriptionConfig) (openSocket : W → Except McrxError ReceiveSocket × W)
    (s : System W) : Outcome SubscriptionId × System W :=
  match config.validate with
  | .error e => (.err e, s)
  | .ok () =>
    match ensureSubscriptionConfigIsUnique config s.context with
    | .error e => (.err e, s)
    | .ok () =>
      match openSocket s.world with
      | (.error e, w) => (.err e, { s with world := w })
      | (.ok socket, w) =>
        let (id, c) := insertSubscription config socket s.context
        (.ok id, { s with context := c, world := w })

def addSubscription (config : SubscriptionConfig) (s : System W) :
    Outcome SubscriptionId × System W :=
  addWith config (openBoundSocket os config) s

def addSubscriptionWithSocket (config : SubscriptionConfig) (socket : Fd) (s : System W) :
    Outcome SubscriptionId × System W :=
  addWith config (prepareExistingSocket os socket config) s

/-! ## Joining and leaving -/

def joinSubscription (id : SubscriptionId) (s : System W) : Outcome Unit × System W :=
  let c := s.context
  match c.subscriptions.find? fun subscription => subscription.id == id with
  | none => (.err .subscriptionNotFound, s)
  | some subscription =>
    if subscription.isJoined then (.err .subscriptionAlreadyJoined, s)
    else
      match os.joinMulticastGroup subscription.socket.socket subscription.config s.world with
      | (.error e, w) => (.err e, { s with world := w })
      | (.ok (), w) =>
        match subscription.markJoined with
        | .error e => (.err e, { s with world := w })
        | .ok subscription =>
          let metrics := c.metrics
          (.ok (), { s with
            world := w
            context :=
              { c with
                subscriptions := Vec.replaceFirst (fun other => other.id == id) subscription
                  c.subscriptions
                metrics := { metrics with totalJoinCount := metrics.totalJoinCount.fetchAdd 1 } } })

def leaveSubscription (id : SubscriptionId) (s : System W) : Outcome Unit × System W :=
  let c := s.context
  match c.subscriptions.find? fun subscription => subscription.id == id with
  | none => (.err .subscriptionNotFound, s)
  | some subscription =>
    if !subscription.isJoined then (.err .subscriptionNotJoined, s)
    else
      match os.leaveMulticastGroup subscription.socket.socket subscription.config s.world with
      | (.error e, w) => (.err e, { s with world := w })
      | (.ok (), w) =>
        match subscription.markBound with
        | .error e => (.err e, { s with world := w })
        | .ok subscription =>
          let metrics := c.metrics
          (.ok (), { s with
            world := w
            context :=
              { c with
                subscriptions := Vec.replaceFirst (fun other => other.id == id) subscription
                  c.subscriptions
                metrics :=
                  { metrics with totalLeaveCount := metrics.totalLeaveCount.fetchAdd 1 } } })

/-! ## Receiving -/

/-- A poll of the scan: what `recv` returns is recorded in the metrics of the context. -/
def recvAndRecord {T : Type}
    (recv : Subscription → W → Except McrxError (Option T) × Subscription × W)
    (packetLen : T → Nat) (subscription : Subscription) (state : ContextMetricsInner × W) :
    Except McrxError (Option T) × Subscription × ContextMetricsInner × W :=
  let (metrics, w) := state
  match recv subscription w with
  | (.ok (some packet), subscription, w) =>
    (.ok (some packet), subscription, metrics.recordReceivedPacket (packetLen packet), w)
  | (.ok none, subscription, w) => (.ok none, subscription, metrics.recordWouldBlock, w)
  | (.error e, subscription, w) => (.error e, subscription, metrics.recordReceiveError, w)

/-- The loop runs once for each subscription, so not at all without subscriptions. -/
def tryRecvFromJoined {T : Type}
    (recv : Subscription → W → Except McrxError (Option T) × Subscription × W)
    (packetLen : T → Nat) (s : System W) : Outcome (Option T) × System W :=
  let c := s.context
  let scan := RoundRobin.scan Subscription.isJoined (recvAndRecord recv packetLen) c.subscriptions
    c.nextRecvIndex (c.metrics, s.world)
  let joined := RoundRobin.readyIndices Subscription.isJoined c.subscriptions
  (scanResult scan.outcome,
    { context :=
        { c with
          subscriptions := scan.entries
          nextRecvIndex := scan.cursor
          metrics := scan.world.1 }
      world := scan.world.2
      sweeps := s.sweeps ++ [.of joined scan.outcome scan.polls] })

def tryRecvAny (s : System W) : Outcome (Option Packet) × System W :=
  tryRecvFromJoined (Subscription.tryRecv os) (fun packet => packet.payload.length) s

def tryRecvAnyWithMetadata (s : System W) : Outcome (Option PacketWithMetadata) × System W :=
  tryRecvFromJoined (Subscription.tryRecvWithMetadata os)
    (fun packet => packet.packet.payload.length) s

def withMetrics (s : System W) (metrics : ContextMetricsInner) : System W :=
  { s with context := { s.context with metrics := metrics } }

/-- The loop of a batch receive with `maxPackets` rounds left, on the packets pushed so
far. -/
def batchLoop {T : Type} (recvAny : System W → Outcome (Option T) × System W) :
    Nat → Nat → List T → System W → Outcome Nat × List T × System W
  | 0, received, out, s => (.ok received, out, s)
  | maxPackets + 1, received, out, s =>
    match recvAny s with
    | (.ok (some packet), s) => batchLoop recvAny maxPackets (received + 1) (out ++ [packet]) s
    | (.ok none, s) => (.ok received, out, s)
    | (.err e, s) => (.err e, out, s)
    | (.panic, s) => (.panic, out, s)

/-- `try_recv_batch_into_impl` and its variant with metadata. -/
def batchIntoImpl {T : Type} (recvAny : System W → Outcome (Option T) × System W)
    (maxPackets : Nat) (out : List T) (s : System W) : Outcome Nat × List T × System W :=
  match batchLoop recvAny maxPackets 0 out s with
  | (.ok received, out, s) =>
    (.ok received, out, withMetrics s (s.context.metrics.recordBatchPacketsReceived received))
  | (.err e, out, s) => (.err e, out, s)
  | (.panic, out, s) => (.panic, out, s)

/-- A public batch call counts itself first. -/
def batchInto {T : Type} (recvAny : System W → Outcome (Option T) × System W)
    (maxPackets : Nat) (out : List T) (s : System W) : Outcome Nat × List T × System W :=
  batchIntoImpl recvAny maxPackets out (withMetrics s s.context.metrics.recordBatchCall)

def tryRecvBatchInto (out : List Packet) (maxPackets : Nat) (s : System W) :
    Outcome Nat × List Packet × System W :=
  batchInto (tryRecvAny os) maxPackets out s

def tryRecvBatchWithMetadataInto (out : List PacketWithMetadata) (maxPackets : Nat)
    (s : System W) : Outcome Nat × List PacketWithMetadata × System W :=
  batchInto (tryRecvAnyWithMetadata os) maxPackets out s

def tryRecvAllInto (out : List Packet) (s : System W) : Outcome Nat × List Packet × System W :=
  batchInto (tryRecvAny os) MAX_DRAIN_PACKETS_PER_CALL out s

def tryRecvAllWithMetadataInto (out : List PacketWithMetadata) (s : System W) :
    Outcome Nat × List PacketWithMetadata × System W :=
  batchInto (tryRecvAnyWithMetadata os) MAX_DRAIN_PACKETS_PER_CALL out s

end Calls

/-! ## Runs -/

inductive Operation where
  | addSubscription (config : SubscriptionConfig)
  | addSubscriptionWithSocket (config : SubscriptionConfig) (socket : Fd)
  | removeSubscription (id : SubscriptionId)
  | takeSubscription (id : SubscriptionId)
  | joinSubscription (id : SubscriptionId)
  | leaveSubscription (id : SubscriptionId)
  | tryRecvAny
  | tryRecvAnyWithMetadata
  | tryRecvBatchInto (maxPackets : Nat)
  | tryRecvBatchWithMetadataInto (maxPackets : Nat)
  | tryRecvAllInto
  | tryRecvAllWithMetadataInto
  deriving DecidableEq, Repr

inductive Answer where
  | added (id : SubscriptionId)
  | removed (existed : Bool)
  | taken (subscription : Option Subscription)
  | joined
  | left
  | packet (packet : Option Packet)
  | packetWithMetadata (packet : Option PacketWithMetadata)
  | received (count : Nat)
  deriving DecidableEq, Repr

/-- The result of a call and the packets it appended to the vector of the caller. -/
structure Response where
  outcome : Outcome Answer
  packets : List Packet
  packetsWithMetadata : List PacketWithMetadata
  deriving DecidableEq, Repr

def Response.of (outcome : Outcome Answer) : Response :=
  { outcome := outcome, packets := [], packetsWithMetadata := [] }

section Step

variable {W : Type} (os : UdpSystem W)

/-- One call of the context; the scans start anew with every call. -/
def step (operation : Operation) (s : System W) : Response × System W :=
  let s := { s with sweeps := [] }
  match operation with
  | .addSubscription config =>
    let (outcome, s) := addSubscription os config s
    (.of (outcome.map .added), s)
  | .addSubscriptionWithSocket config socket =>
    let (outcome, s) := addSubscriptionWithSocket os config socket s
    (.of (outcome.map .added), s)
  | .removeSubscription id =>
    let (outcome, c) := removeSubscription id s.context
    (.of (outcome.map .removed), { s with context := c })
  | .takeSubscription id =>
    let (outcome, c) := takeSubscription id s.context
    (.of (outcome.map .taken), { s with context := c })
  | .joinSubscription id =>
    let (outcome, s) := joinSubscription os id s
    (.of (outcome.map fun _ => .joined), s)
  | .leaveSubscription id =>
    let (outcome, s) := leaveSubscription os id s
    (.of (outcome.map fun _ => .left), s)
  | .tryRecvAny =>
    let (outcome, s) := tryRecvAny os s
    (.of (outcome.map .packet), s)
  | .tryRecvAnyWithMetadata =>
    let (outcome, s) := tryRecvAnyWithMetadata os s
    (.of (outcome.map .packetWithMetadata), s)
  | .tryRecvBatchInto maxPackets =>
    let (outcome, out, s) := tryRecvBatchInto os [] maxPackets s
    ({ Response.of (outcome.map .received) with packets := out }, s)
  | .tryRecvBatchWithMetadataInto maxPackets =>
    let (outcome, out, s) := tryRecvBatchWithMetadataInto os [] maxPackets s
    ({ Response.of (outcome.map .received) with packetsWithMetadata := out }, s)
  | .tryRecvAllInto =>
    let (outcome, out, s) := tryRecvAllInto os [] s
    ({ Response.of (outcome.map .received) with packets := out }, s)
  | .tryRecvAllWithMetadataInto =>
    let (outcome, out, s) := tryRecvAllWithMetadataInto os [] s
    ({ Response.of (outcome.map .received) with packetsWithMetadata := out }, s)

end Step

def start {W : Type} (w : W) : System W := { context := .new, world := w, sweeps := [] }

abbrev Call (W : Type) := Journal.Call (System W) Operation Response

end Context

end McrxCore
