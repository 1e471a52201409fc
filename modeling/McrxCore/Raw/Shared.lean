import McrxCore.Platform.Raw
import McrxCore.Raw.Demultiplexer

/-!
# The shared raw context

`SharedRawContext` of `raw/shared.rs` as explicit state passing over an arbitrary
operating system.  A call returns a value, an error or a panic; the panics are the
source's `expect`s, its `unreachable!`, its indexing and its `debug_assert`.  A call
also records the events a caller cannot see in its result: which captures were
opened and closed, which kernel memberships were requested, and what was read.
-/

namespace McrxCore

def saturatingAdd (a b : Nat) : Nat := min (a + b) WORD_MAX

structure SharedRawContextLimits where
  maxSubscriptions : Nat
  maxPendingPackets : Nat
  deriving DecidableEq, Repr

/-- `SharedRawContextLimits::default`. -/
def SharedRawContextLimits.default : SharedRawContextLimits :=
  { maxSubscriptions := 4096, maxPendingPackets := 1024 }

structure SharedRawSubscription where
  id : SubscriptionId
  config : RawSubscriptionConfig
  captureKey : RawSharedCaptureKey
  state : SubscriptionState
  deriving DecidableEq, Repr

namespace SharedRawSubscription

def new (id : SubscriptionId) (config : RawSubscriptionConfig)
    (captureKey : RawSharedCaptureKey) : SharedRawSubscription :=
  { id := id, config := config, captureKey := captureKey, state := .bound }

def isJoined (subscription : SharedRawSubscription) : Bool := subscription.state == .joined

end SharedRawSubscription

structure SharedRawPacket where
  packet : RawPacket
  matchingSubscriptionIds : MatchingSubscriptionIds
  deriving DecidableEq, Repr

structure KernelMembershipKey where
  group : IpAddr
  source : Option IpAddr
  deriving DecidableEq, Repr

def KernelMembershipKey.of (config : RawSubscriptionConfig) : KernelMembershipKey :=
  { group := config.group, source := config.sourceAddr }

structure KernelMembership where
  references : Nat
  joinedConfig : RawSubscriptionConfig
  deriving DecidableEq, Repr

structure CaptureSelector where
  family : SubscriptionAddressFamily
  interface : Option IpAddr
  interfaceIndex : Option UInt32
  deriving DecidableEq, Repr

def CaptureSelector.of (config : RawSubscriptionConfig) : CaptureSelector :=
  { family := config.family
    interface := config.interface
    interfaceIndex := config.interfaceIndex }

structure ResolvedCaptureKey where
  key : RawSharedCaptureKey
  references : Nat
  deriving DecidableEq, Repr

structure SharedCaptureSocket where
  socket : RawReceiveSocket
  memberships : Nat
  kernelMemberships : FiniteMap KernelMembershipKey KernelMembership
  demultiplexer : CaptureDemultiplexer

def SharedCaptureSocket.new (socket : RawReceiveSocket) : SharedCaptureSocket :=
  { socket := socket, memberships := 0, kernelMemberships := ∅, demultiplexer := .empty }

structure SharedRawCaptureMetrics where
  receivedPacketsTotal : Nat := 0
  unmatchedPacketsTotal : Nat := 0
  demultiplexMatchesTotal : Nat := 0
  deriving DecidableEq, Repr

structure SharedRawContext where
  subscriptions : FiniteMap SubscriptionId SharedRawSubscription
  resolvedCaptureKeys : FiniteMap CaptureSelector ResolvedCaptureKey
  captures : FiniteMap RawSharedCaptureKey SharedCaptureSocket
  captureOrder : List RawSharedCaptureKey
  pendingPackets : List SharedRawPacket
  limits : SharedRawContextLimits
  nextSubscriptionId : Nat
  nextCaptureIndex : Nat
  metrics : SharedRawCaptureMetrics

namespace SharedCaptureSocket

/-- The end of a successful join: one more reference to the kernel membership, an
index entry, and one more membership. -/
def recordJoin (capture : SharedCaptureSocket) (id : SubscriptionId)
    (config : RawSubscriptionConfig) : SharedCaptureSocket :=
  let key := KernelMembershipKey.of config
  let membership : KernelMembership :=
    match capture.kernelMemberships.lookup key with
    | some membership => { membership with references := membership.references + 1 }
    | none => { references := 1, joinedConfig := config }
  { capture with
    kernelMemberships := capture.kernelMemberships.insert key membership
    demultiplexer := capture.demultiplexer.insert id config
    memberships := capture.memberships + 1 }

/-- The end of a leave, once the kernel membership is released.  `none` is the
`checked_sub` of the membership count and the `debug_assert_eq` after it. -/
def recordLeave (capture : SharedCaptureSocket) (id : SubscriptionId)
    (config : RawSubscriptionConfig) : Option SharedCaptureSocket :=
  if capture.memberships = 0 then none
  else
    let memberships := capture.memberships - 1
    if decide (memberships = 0) ≠ capture.kernelMemberships.isEmpty then none
    else some
      { capture with
        demultiplexer := capture.demultiplexer.remove id config
        memberships := memberships }

end SharedCaptureSocket

def SharedRawContext.withLimits (limits : SharedRawContextLimits) :
    Except McrxError SharedRawContext :=
  if limits.maxSubscriptions = 0 ∨ limits.maxPendingPackets = 0 then
    .error .invalidSharedRawCaptureLimits
  else .ok
    { subscriptions := ∅
      resolvedCaptureKeys := ∅
      captures := ∅
      captureOrder := []
      pendingPackets := []
      limits := limits
      nextSubscriptionId := 1
      nextCaptureIndex := 0
      metrics := {} }

/-- `SharedRawContext::new`. -/
def SharedRawContext.new : SharedRawContext :=
  { subscriptions := ∅
    resolvedCaptureKeys := ∅
    captures := ∅
    captureOrder := []
    pendingPackets := []
    limits := .default
    nextSubscriptionId := 1
    nextCaptureIndex := 0
    metrics := {} }

/-- The `expect` of `SharedRawContext::new` holds. -/
theorem SharedRawContext.withLimits_default :
    SharedRawContext.withLimits .default = .ok .new := rfl

/-! ## Calls -/

inductive Event where
  | captureOpened (key : RawSharedCaptureKey)
  | captureClosed (key : RawSharedCaptureKey)
  | kernelJoin (key : RawSharedCaptureKey) (config : RawSubscriptionConfig) (succeeded : Bool)
  | kernelLeave (key : RawSharedCaptureKey) (config : RawSubscriptionConfig) (succeeded : Bool)
  | received (key : RawSharedCaptureKey) (captured : RawCapturedDatagram)
  deriving DecidableEq, Repr

/-- The context, the world of its operating system, and the events of the current
call. -/
structure System (W : Type) where
  context : SharedRawContext
  world : W
  events : List Event

namespace System

variable {W : Type}

def withContext (s : System W) (context : SharedRawContext) : System W :=
  { s with context := context }

/-- A system call returned in world `w`, with an event to record. -/
def observe (s : System W) (w : W) (event : Event) : System W :=
  { s with world := w, events := s.events ++ [event] }

end System

namespace SharedRawContext

/-! ## Adding -/

section Adding

variable {W : Type} (os : OperatingSystem W)

def resolveCaptureKey (config : RawSubscriptionConfig) (s : System W) :
    Outcome RawSharedCaptureKey × System W :=
  let c := s.context
  let selector := CaptureSelector.of config
  match c.resolvedCaptureKeys.lookup selector with
  | some resolved =>
    let resolved := { resolved with references := resolved.references + 1 }
    (.ok resolved.key, s.withContext
      { c with resolvedCaptureKeys := c.resolvedCaptureKeys.insert selector resolved })
  | none =>
    match sharedRawCaptureKey os config s.world with
    | (.error e, w) => (.err e, { s with world := w })
    | (.ok key, w) =>
      let resolved := { key := key, references := 1 }
      (.ok key, { s with
        world := w
        context :=
          { c with resolvedCaptureKeys := c.resolvedCaptureKeys.insert selector resolved } })

def addSubscription (config : RawSubscriptionConfig) (s : System W) :
    Outcome SubscriptionId × System W :=
  match config.validate with
  | .error e => (.err e, s)
  | .ok () =>
    if s.context.limits.maxSubscriptions ≤ s.context.subscriptions.len then
      (.err (.sharedRawCaptureSubscriptionLimitExceeded s.context.limits.maxSubscriptions), s)
    else
      match resolveCaptureKey os config s with
      | (.err e, s) => (.err e, s)
      | (.panic, s) => (.panic, s)
      | (.ok captureKey, s) =>
        let c := s.context
        let id : SubscriptionId := ⟨c.nextSubscriptionId⟩
        (.ok id, s.withContext
          { c with
            nextSubscriptionId := (c.nextSubscriptionId + 1) % 2 ^ 64
            subscriptions := c.subscriptions.insert id (.new id config captureKey) })

end Adding

/-! ## Joining and leaving -/

def setState (c : SharedRawContext) (id : SubscriptionId) (state : SubscriptionState) :
    Option SharedRawContext :=
  match c.subscriptions.lookup id with
  | none => none
  | some subscription => some
    { c with subscriptions := c.subscriptions.insert id { subscription with state := state } }

/-- The vacant arm of the capture entry, once its sockets are open. -/
def openCapture (c : SharedRawContext) (key : RawSharedCaptureKey) (socket : RawReceiveSocket) :
    SharedRawContext :=
  { c with
    captures := c.captures.insert key (.new socket)
    captureOrder := c.captureOrder ++ [key] }

/-- `remove_capture` on the context.  `none` is the `expect` on the position of the
key in the capture order. -/
def withoutCapture (c : SharedRawContext) (key : RawSharedCaptureKey) :
    Option SharedRawContext :=
  match c.captureOrder.idxOf? key with
  | none => none
  | some index =>
    let captureOrder := c.captureOrder.eraseIdx index
    some { c with
      captures := c.captures.erase key
      captureOrder := captureOrder
      nextCaptureIndex :=
        if captureOrder.isEmpty then 0 else c.nextCaptureIndex % captureOrder.length }

/-- The end of `join_subscription`, from the lookup of the joined capture on. -/
def finishJoin (c : SharedRawContext) (id : SubscriptionId) (key : RawSharedCaptureKey)
    (config : RawSubscriptionConfig) : Option SharedRawContext :=
  match c.captures.lookup key with
  | none => none
  | some capture =>
    setState { c with captures := c.captures.insert key (capture.recordJoin id config) } id .joined

/-- What `remove_pending_membership` does to one queued packet: `some none` drops
it, and `none` is a panic. -/
def withoutMember (subscriptions : FiniteMap SubscriptionId SharedRawSubscription)
    (id : SubscriptionId) (queued : SharedRawPacket) : Option (Option SharedRawPacket) :=
  match queued.matchingSubscriptionIds.asSlice.idxOf? id with
  | none => some (some queued)
  | some index =>
    if queued.matchingSubscriptionIds.asSlice.length = 1 then some none
    else
      match queued.matchingSubscriptionIds.removeExisting index with
      | none => none
      | some matchingIds =>
        match matchingIds.first with
        | none => none
        | some primaryId =>
          if queued.packet.subscriptionId ≠ primaryId then
            match subscriptions.lookup primaryId with
            | none => none
            | some primary =>
              let metadata :=
                { queued.packet.metadata with
                  configuredInterface := primary.config.interface
                  configuredInterfaceIndex := primary.config.interfaceIndex }
              some (some
                { packet := { queued.packet with subscriptionId := primaryId, metadata := metadata }
                  matchingSubscriptionIds := matchingIds })
          else some (some { queued with matchingSubscriptionIds := matchingIds })

/-- The `retain_mut` of `remove_pending_membership`. -/
def retainPending (subscriptions : FiniteMap SubscriptionId SharedRawSubscription)
    (id : SubscriptionId) : List SharedRawPacket → Option (List SharedRawPacket)
  | [] => some []
  | queued :: rest =>
    match withoutMember subscriptions id queued with
    | none => none
    | some none => retainPending subscriptions id rest
    | some (some queued) => (retainPending subscriptions id rest).map (queued :: ·)

def removePendingMembership (c : SharedRawContext) (id : SubscriptionId) :
    Option SharedRawContext :=
  match retainPending c.subscriptions id c.pendingPackets with
  | none => none
  | some pendingPackets => some { c with pendingPackets := pendingPackets }

/-- The end of `leave_subscription` before an empty capture is removed. -/
def finishLeave (c : SharedRawContext) (id : SubscriptionId) (key : RawSharedCaptureKey)
    (capture : SharedCaptureSocket) : Option SharedRawContext :=
  match setState { c with captures := c.captures.insert key capture } id .bound with
  | none => none
  | some c => c.removePendingMembership id

def releaseCaptureKey (c : SharedRawContext) (config : RawSubscriptionConfig) :
    Option SharedRawContext :=
  let selector := CaptureSelector.of config
  match c.resolvedCaptureKeys.lookup selector with
  | none => none
  | some resolved =>
    if resolved.references = 0 then none
    else
      let references := resolved.references - 1
      if references = 0 then
        some { c with resolvedCaptureKeys := c.resolvedCaptureKeys.erase selector }
      else
        let resolved := { resolved with references := references }
        some { c with resolvedCaptureKeys := c.resolvedCaptureKeys.insert selector resolved }

section Membership

variable {W : Type} (os : OperatingSystem W)

/-- The capture entry of `join_subscription`; the value says whether it was vacant. -/
def ensureCapture (key : RawSharedCaptureKey) (s : System W) : Outcome Bool × System W :=
  match s.context.captures.lookup key with
  | some _ => (.ok false, s)
  | none =>
    match openSharedRawSocket os key s.world with
    | (.error e, w) => (.err e, { s with world := w })
    | (.ok socket, w) =>
      (.ok true, (s.observe w (.captureOpened key)).withContext (s.context.openCapture key socket))

/-- The kernel join of `join_subscription`, unless the membership is held already. -/
def kernelJoin (key : RawSharedCaptureKey) (config : RawSubscriptionConfig) (s : System W) :
    Outcome Unit × System W :=
  match s.context.captures.lookup key with
  | none => (.panic, s)
  | some capture =>
    match capture.kernelMemberships.lookup (.of config) with
    | some _ => (.ok (), s)
    | none =>
      match joinRawMulticastGroup os capture.socket config s.world with
      | (.error e, w) => (.err e, s.observe w (.kernelJoin key config false))
      | (.ok (), w) => (.ok (), s.observe w (.kernelJoin key config true))

def removeCapture (key : RawSharedCaptureKey) (s : System W) : Outcome Unit × System W :=
  let s :=
    match s.context.captures.lookup key with
    | none => s
    | some capture => s.observe (capture.socket.drop os s.world) (.captureClosed key)
  match s.context.withoutCapture key with
  | none => (.panic, s)
  | some c => (.ok (), s.withContext c)

def joinSubscription (id : SubscriptionId) (s : System W) : Outcome Unit × System W :=
  match s.context.subscriptions.lookup id with
  | none => (.err .subscriptionNotFound, s)
  | some subscription =>
    if subscription.isJoined then (.err .subscriptionAlreadyJoined, s)
    else
      match ensureCapture os subscription.captureKey s with
      | (.err e, s) => (.err e, s)
      | (.panic, s) => (.panic, s)
      | (.ok createdCapture, s) =>
        match kernelJoin os subscription.captureKey subscription.config s with
        | (.panic, s) => (.panic, s)
        | (.err e, s) =>
          if createdCapture then
            match removeCapture os subscription.captureKey s with
            | (.panic, s) => (.panic, s)
            | (_, s) => (.err e, s)
          else (.err e, s)
        | (.ok (), s) =>
          match s.context.finishJoin id subscription.captureKey subscription.config with
          | none => (.panic, s)
          | some c => (.ok (), s.withContext c)

/-- The kernel membership of `config` with one reference less; the last one is left
in the kernel first. -/
def releaseMembership (key : RawSharedCaptureKey) (capture : SharedCaptureSocket)
    (config : RawSubscriptionConfig) (s : System W) : Outcome SharedCaptureSocket × System W :=
  let membershipKey := KernelMembershipKey.of config
  match capture.kernelMemberships.lookup membershipKey with
  | none => (.panic, s)
  | some membership =>
    if membership.references = 1 then
      match leaveRawMulticastGroup os capture.socket membership.joinedConfig s.world with
      | (.error e, w) => (.err e, s.observe w (.kernelLeave key membership.joinedConfig false))
      | (.ok (), w) =>
        (.ok { capture with kernelMemberships := capture.kernelMemberships.erase membershipKey },
          s.observe w (.kernelLeave key membership.joinedConfig true))
    -- The subtraction would underflow.
    else if membership.references = 0 then (.panic, s)
    else
      let membership := { membership with references := membership.references - 1 }
      (.ok { capture with
        kernelMemberships := capture.kernelMemberships.insert membershipKey membership }, s)

def leaveSubscription (id : SubscriptionId) (s : System W) : Outcome Unit × System W :=
  match s.context.subscriptions.lookup id with
  | none => (.err .subscriptionNotFound, s)
  | some subscription =>
    if !subscription.isJoined then (.err .subscriptionNotJoined, s)
    else
      match s.context.captures.lookup subscription.captureKey with
      | none => (.panic, s)
      | some capture =>
        match releaseMembership os subscription.captureKey capture subscription.config s with
        | (.err e, s) => (.err e, s)
        | (.panic, s) => (.panic, s)
        | (.ok capture, s) =>
          match capture.recordLeave id subscription.config with
          | none => (.panic, s)
          | some capture =>
            match s.context.finishLeave id subscription.captureKey capture with
            | none => (.panic, s)
            | some c =>
              if capture.memberships = 0 then
                removeCapture os subscription.captureKey (s.withContext c)
              else (.ok (), s.withContext c)

def removeSubscription (id : SubscriptionId) (s : System W) : Outcome Bool × System W :=
  match s.context.subscriptions.lookup id with
  | none => (.ok false, s)
  | some subscription =>
    match (if subscription.isJoined then leaveSubscription os id s else (.ok (), s)) with
    | (.err e, s) => (.err e, s)
    | (.panic, s) => (.panic, s)
    | (.ok (), s) =>
      match s.context.subscriptions.lookup id with
      | none => (.panic, s)
      | some removed =>
        match releaseCaptureKey
            { s.context with subscriptions := s.context.subscriptions.erase id }
            removed.config with
        | none => (.panic, s)
        | some c => (.ok true, s.withContext c)

end Membership

/-! ## Receiving -/

def recordReceivedPacket (c : SharedRawContext) : SharedRawContext :=
  { c with metrics :=
    { c.metrics with
      receivedPacketsTotal := saturatingAdd c.metrics.receivedPacketsTotal 1 } }

def recordUnmatchedPacket (c : SharedRawContext) : SharedRawContext :=
  { c with metrics :=
    { c.metrics with
      unmatchedPacketsTotal := saturatingAdd c.metrics.unmatchedPacketsTotal 1 } }

def recordDemultiplexMatches (c : SharedRawContext) (count : Nat) : SharedRawContext :=
  { c with metrics :=
    { c.metrics with
      demultiplexMatchesTotal := saturatingAdd c.metrics.demultiplexMatchesTotal count } }

def rawPacketFromCaptured (subscriptionId : SubscriptionId) (config : RawSubscriptionConfig)
    (captured : RawCapturedDatagram) : RawPacket :=
  { subscriptionId := subscriptionId
    datagram := captured.datagram
    sourceIp := some captured.sourceIp
    group := some captured.group
    ipProtocol := some captured.ipProtocol
    metadata :=
      { socketLocalAddr := none
        configuredInterface := config.interface
        configuredInterfaceIndex := config.interfaceIndex
        destinationLocalIp := some captured.group
        ingressInterfaceIndex := captured.ingressInterfaceIndex } }

/-- What `fill_pending` does with one datagram read from `capture`; the value says
whether a packet was queued, and `none` is a panic. -/
def queueCaptured (c : SharedRawContext) (capture : SharedCaptureSocket)
    (captured : RawCapturedDatagram) : Option (Bool × SharedRawContext) :=
  let c := c.recordReceivedPacket
  match capture.demultiplexer.matching captured.group captured.sourceIp with
  | none => some (false, c.recordUnmatchedPacket)
  | some matchingIds =>
    let c := c.recordDemultiplexMatches matchingIds.asSlice.length
    match matchingIds.first with
    | none => none
    | some primaryId =>
      match c.subscriptions.lookup primaryId with
      | none => none
      | some primary =>
        let queued : SharedRawPacket :=
          { packet := rawPacketFromCaptured primaryId primary.config captured
            matchingSubscriptionIds := matchingIds }
        some (true, { c with pendingPackets := c.pendingPackets ++ [queued] })

/-- `drain_pending_into`, on the packets handed over so far. -/
def drainPendingInto (c : SharedRawContext) (packets : List SharedRawPacket) (maxPackets : Nat) :
    Nat × List SharedRawPacket × SharedRawContext :=
  let drained := min maxPackets c.pendingPackets.length
  (drained, packets ++ c.pendingPackets.take drained,
    { c with pendingPackets := c.pendingPackets.drop drained })

/-- The counters of one `fill_pending` call and the system they run on. -/
structure Fill (W : Type) where
  queuedPackets : Nat
  capturedDatagrams : Nat
  system : System W

/-- How the inner loop of `fill_pending` ends: with the next capture, with
`break 'captures`, with an error, or with a panic. -/
inductive PollExit where
  | nextCapture
  | breakCaptures
  | err (error : McrxError)
  | panic
  deriving DecidableEq, Repr

section Receiving

variable {W : Type} (os : OperatingSystem W)

/-- The inner loop of `fill_pending`, with the given number of rounds left. -/
def pollCapture (target captureBudget : Nat) (key : RawSharedCaptureKey) :
    Nat → Fill W → PollExit × Fill W
  | 0, f => (.nextCapture, f)
  | rounds + 1, f =>
    if f.queuedPackets = target ∨ f.capturedDatagrams = captureBudget then (.breakCaptures, f)
    else
      match f.system.context.captures.lookup key with
      | none => (.panic, f)
      | some capture =>
        match recvSharedRawDatagram os capture.socket key f.system.world with
        | (.error e, w) => (.err e, { f with system := { f.system with world := w } })
        | (.ok none, w) => (.nextCapture, { f with system := { f.system with world := w } })
        | (.ok (some captured), w) =>
          let s := f.system.observe w (.received key captured)
          match s.context.queueCaptured capture captured with
          | none => (.panic, { f with system := s })
          | some (queued, c) =>
            pollCapture target captureBudget key rounds
              { queuedPackets := if queued then f.queuedPackets + 1 else f.queuedPackets
                capturedDatagrams := f.capturedDatagrams + 1
                system := s.withContext c }

def advanceCursor (c : SharedRawContext) (captureCount : Nat) : SharedRawContext :=
  { c with nextCaptureIndex := (c.nextCaptureIndex + 1) % captureCount }

/-- The outer loop of `fill_pending`, with the given number of captures left. -/
def fillCaptures (target captureBudget captureCount : Nat) :
    Nat → Fill W → Outcome Nat × System W
  | 0, f => (.ok f.queuedPackets, f.system)
  | captures + 1, f =>
    let c := f.system.context
    match c.captureOrder[c.nextCaptureIndex]? with
    | none => (.panic, f.system)
    | some key =>
      let s := f.system.withContext (c.advanceCursor captureCount)
      match pollCapture os target captureBudget key target { f with system := s } with
      | (.nextCapture, f) => fillCaptures target captureBudget captureCount captures f
      | (.breakCaptures, f) => (.ok f.queuedPackets, f.system)
      | (.err e, f) => (.err e, f.system)
      | (.panic, f) => (.panic, f.system)

/-- The number of packets one `fill_pending` call aims at. -/
def fillTarget (c : SharedRawContext) (maxNewPackets : Nat) : Nat :=
  min maxNewPackets (c.limits.maxPendingPackets - c.pendingPackets.length)

def fillPending (maxNewPackets : Nat) (s : System W) : Outcome Nat × System W :=
  let target := s.context.fillTarget maxNewPackets
  if s.context.captureOrder.isEmpty ∨ target = 0 then (.ok 0, s)
  else
    let captureCount := s.context.captureOrder.length
    let captureBudget := saturatingAdd target captureCount
    fillCaptures os target captureBudget captureCount captureCount
      { queuedPackets := 0, capturedDatagrams := 0, system := s }

def popFront (s : System W) : Option SharedRawPacket × System W :=
  match s.context.pendingPackets with
  | [] => (none, s)
  | packet :: rest => (some packet, s.withContext { s.context with pendingPackets := rest })

def tryRecvAny (s : System W) : Outcome (Option SharedRawPacket) × System W :=
  match popFront s with
  | (some packet, s) => (.ok (some packet), s)
  | (none, s) =>
    match fillPending os 1 s with
    | (.err e, s) => (.err e, s)
    | (.panic, s) => (.panic, s)
    | (.ok _, s) =>
      let (packet, s) := popFront s
      (.ok packet, s)

/-! What a fill reports as queued is pending afterwards, so the refill loop of a
batch call makes progress. -/

theorem queueCaptured_queued {c c' : SharedRawContext} {capture : SharedCaptureSocket}
    {captured : RawCapturedDatagram} {queued : Bool}
    (h : c.queueCaptured capture captured = some (queued, c')) :
    c'.pendingPackets.length = c.pendingPackets.length + if queued then 1 else 0 := by
  simp only [queueCaptured] at h
  split at h
  · cases h
    rfl
  · split at h
    · exact nomatch h
    · split at h
      · exact nomatch h
      · cases h
        simp [recordDemultiplexMatches, recordReceivedPacket]

theorem pollCapture_queued {target captureBudget rounds : Nat} {key : RawSharedCaptureKey}
    {f f' : Fill W} {exit : PollExit}
    (h : pollCapture os target captureBudget key rounds f = (exit, f'))
    (hexit : exit = .nextCapture ∨ exit = .breakCaptures) :
    f'.queuedPackets + f.system.context.pendingPackets.length =
      f.queuedPackets + f'.system.context.pendingPackets.length := by
  induction rounds generalizing f with
  | zero =>
    cases h
    rfl
  | succ rounds ih =>
    simp only [pollCapture] at h
    split at h
    · cases h
      rfl
    · split at h
      · cases h
        simp at hexit
      · split at h
        · cases h
          simp at hexit
        · cases h
          rfl
        · split at h
          · cases h
            simp at hexit
          · rename_i queued c hq
            have hstep := ih h
            have hlen := queueCaptured_queued hq
            simp only [System.withContext, System.observe] at hstep hlen
            rw [hlen] at hstep
            cases queued <;> simp at hstep <;> omega

theorem fillCaptures_queued {target captureBudget captureCount captures : Nat} {f : Fill W}
    {queued : Nat} {s : System W}
    (h : fillCaptures os target captureBudget captureCount captures f = (.ok queued, s)) :
    queued + f.system.context.pendingPackets.length =
      f.queuedPackets + s.context.pendingPackets.length := by
  induction captures generalizing f with
  | zero =>
    cases h
    rfl
  | succ captures ih =>
    simp only [fillCaptures] at h
    split at h
    · exact nomatch h
    · split at h
      · rename_i f' hpoll
        have hone := pollCapture_queued os hpoll (Or.inl rfl)
        have hrest := ih h
        simp only [System.withContext, advanceCursor] at hone
        omega
      · rename_i f' hpoll
        have hone := pollCapture_queued os hpoll (Or.inr rfl)
        cases h
        simpa only [System.withContext, advanceCursor] using hone
      · exact nomatch h
      · exact nomatch h

theorem fillPending_queued_le {maxNewPackets queued : Nat} {s s' : System W}
    (h : fillPending os maxNewPackets s = (.ok queued, s')) :
    queued ≤ s'.context.pendingPackets.length := by
  simp only [fillPending] at h
  split at h
  · cases h
    exact Nat.zero_le _
  · have hqueued := fillCaptures_queued os h
    simp only at hqueued
    omega

/-- The loop of `try_recv_batch_into`, once `received` packets are handed over. -/
def batchLoop (maxPackets received : Nat) (packets : List SharedRawPacket) (s : System W) :
    Outcome Nat × List SharedRawPacket × System W :=
  if _hlt : received < maxPackets then
    match _hfill : fillPending os (maxPackets - received) s with
    | (.err e, s) => (.err e, packets, s)
    | (.panic, s) => (.panic, packets, s)
    | (.ok queued, s) =>
      if _hzero : queued = 0 then (.ok received, packets, s)
      else
        let drain := s.context.drainPendingInto packets (maxPackets - received)
        batchLoop maxPackets (received + drain.1) drain.2.1 (s.withContext drain.2.2)
  else (.ok received, packets, s)
termination_by maxPackets - received
decreasing_by
  have hqueued := fillPending_queued_le os _hfill
  simp only [drainPendingInto]
  omega

def tryRecvBatchInto (packets : List SharedRawPacket) (maxPackets : Nat) (s : System W) :
    Outcome Nat × List SharedRawPacket × System W :=
  if maxPackets = 0 then (.ok 0, packets, s)
  else
    let (received, packets, c) := s.context.drainPendingInto packets maxPackets
    batchLoop os maxPackets received packets (s.withContext c)

end Receiving

end SharedRawContext

/-! ## Runs -/

inductive Operation where
  | addSubscription (config : RawSubscriptionConfig)
  | joinSubscription (id : SubscriptionId)
  | leaveSubscription (id : SubscriptionId)
  | removeSubscription (id : SubscriptionId)
  | tryRecvAny
  | tryRecvBatchInto (maxPackets : Nat)
  deriving DecidableEq, Repr

inductive Answer where
  | added (id : SubscriptionId)
  | joined
  | left
  | removed (existed : Bool)
  | packet (packet : Option SharedRawPacket)
  | received (count : Nat)
  deriving DecidableEq, Repr

/-- The result of an operation, and the packets it handed to the caller. -/
structure Response where
  outcome : Outcome Answer
  packets : List SharedRawPacket
  deriving DecidableEq, Repr

namespace System

variable {W : Type} (os : OperatingSystem W)

/-- One call of the context; the events start anew with every call. -/
def step (operation : Operation) (s : System W) : Response × System W :=
  let s := { s with events := [] }
  match operation with
  | .addSubscription config =>
    let (outcome, s) := SharedRawContext.addSubscription os config s
    ({ outcome := outcome.map .added, packets := [] }, s)
  | .joinSubscription id =>
    let (outcome, s) := SharedRawContext.joinSubscription os id s
    ({ outcome := outcome.map fun _ => .joined, packets := [] }, s)
  | .leaveSubscription id =>
    let (outcome, s) := SharedRawContext.leaveSubscription os id s
    ({ outcome := outcome.map fun _ => .left, packets := [] }, s)
  | .removeSubscription id =>
    let (outcome, s) := SharedRawContext.removeSubscription os id s
    ({ outcome := outcome.map .removed, packets := [] }, s)
  | .tryRecvAny =>
    let (outcome, s) := SharedRawContext.tryRecvAny os s
    let packets := match outcome with
      | .ok (some packet) => [packet]
      | _ => []
    ({ outcome := outcome.map .packet, packets := packets }, s)
  | .tryRecvBatchInto maxPackets =>
    let (outcome, packets, s) := SharedRawContext.tryRecvBatchInto os [] maxPackets s
    ({ outcome := outcome.map .received, packets := packets }, s)

def run : List Operation → System W → System W
  | [], s => s
  | operation :: operations, s => run operations (step os operation s).2

def Initial (s : System W) : Prop :=
  ∃ limits, SharedRawContext.withLimits limits = .ok s.context

def new (w : W) : System W := { context := .new, world := w, events := [] }

theorem initial_new (w : W) : Initial (new w) := ⟨.default, SharedRawContext.withLimits_default⟩

def adds (operations : List Operation) : Nat :=
  operations.countP fun operation => operation matches .addSubscription _

/-- The states of all runs with fewer than `2 ^ 64` adds. -/
def Reachable (s : System W) : Prop :=
  ∃ start operations, Initial start ∧ adds operations < 2 ^ 64 ∧ run os operations start = s

end System

end McrxCore
