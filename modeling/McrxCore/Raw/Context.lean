import McrxCore.Lib.Journal
import McrxCore.Lib.Vec
import McrxCore.Roster
import McrxCore.Raw.Subscription

/-!
# The raw context

`RawContext` of `raw/context.rs`, over an arbitrary platform backend.
-/

namespace McrxCore

structure RawContext (S : Type) where
  subscriptions : List (RawSubscription S)
  nextSubscriptionId : Nat
  nextRecvIndex : Nat
  deriving DecidableEq, Repr

namespace RawContext

/-- The context, the world of its operating system, and the receive scans of the current
call. -/
structure System (S W : Type) where
  context : RawContext S
  world : W
  sweeps : List Sweep

variable {S W : Type}

def new : RawContext S := { subscriptions := [], nextSubscriptionId := 1, nextRecvIndex := 0 }

def ensureSubscriptionConfigIsUnique (config : RawSubscriptionConfig) (c : RawContext S) :
    Except McrxError Unit :=
  if c.subscriptions.any fun subscription => subscription.config == config then
    .error .duplicateSubscription
  else .ok ()

def removeSubscription (id : SubscriptionId) (c : RawContext S) : Outcome Bool × RawContext S :=
  match c.subscriptions.findIdx? fun subscription => subscription.id == id with
  | none => (.ok false, c)
  | some index =>
    match Vec.swapRemove c.subscriptions index with
    | none => (.panic, c)
    | some (_, subscriptions) =>
      (.ok true,
        { c with
          subscriptions := subscriptions
          nextRecvIndex :=
            if subscriptions.isEmpty then 0 else c.nextRecvIndex % subscriptions.length })

section Calls

variable (backend : RawBackend S W)

def addSubscription (config : RawSubscriptionConfig) (s : System S W) :
    Outcome SubscriptionId × System S W :=
  match config.validate with
  | .error e => (.err e, s)
  | .ok () =>
    match ensureSubscriptionConfigIsUnique config s.context with
    | .error e => (.err e, s)
    | .ok () =>
      match backend.openRawSocket config s.world with
      | (.error e, w) => (.err e, { s with world := w })
      | (.ok socket, w) =>
        let c := s.context
        let id : SubscriptionId := ⟨c.nextSubscriptionId⟩
        (.ok id, { s with
          world := w
          context :=
            { c with
              nextSubscriptionId := (c.nextSubscriptionId + 1) % 2 ^ 64
              subscriptions := c.subscriptions ++ [.new id config socket] } })

/-- A call on the subscription that `get_subscription_mut` finds. -/
def onSubscription (id : SubscriptionId)
    (act : RawSubscription S → W → Except McrxError Unit × RawSubscription S × W)
    (s : System S W) : Outcome Unit × System S W :=
  let c := s.context
  match c.subscriptions.find? fun subscription => subscription.id == id with
  | none => (.err .subscriptionNotFound, s)
  | some subscription =>
    let (result, subscription, w) := act subscription s.world
    let subscriptions :=
      Vec.replaceFirst (fun other => other.id == id) subscription c.subscriptions
    let s := { s with world := w, context := { c with subscriptions := subscriptions } }
    match result with
    | .error e => (.err e, s)
    | .ok () => (.ok (), s)

def joinSubscription (id : SubscriptionId) (s : System S W) : Outcome Unit × System S W :=
  onSubscription id (RawSubscription.join backend) s

def leaveSubscription (id : SubscriptionId) (s : System S W) : Outcome Unit × System S W :=
  onSubscription id (RawSubscription.leave backend) s

/-- A poll of the scan, which changes no subscription. -/
def recv (subscription : RawSubscription S) (w : W) :
    Except McrxError (Option RawPacket) × RawSubscription S × W :=
  let (result, w) := subscription.tryRecv backend w
  (result, subscription, w)

/-- The loop runs once for each subscription, so not at all without subscriptions. -/
def tryRecvAny (s : System S W) : Outcome (Option RawPacket) × System S W :=
  let c := s.context
  let scan := RoundRobin.scan RawSubscription.isJoined (recv backend) c.subscriptions
    c.nextRecvIndex s.world
  let joined := RoundRobin.readyIndices RawSubscription.isJoined c.subscriptions
  (scanResult scan.outcome,
    { context := { c with subscriptions := scan.entries, nextRecvIndex := scan.cursor }
      world := scan.world
      sweeps := s.sweeps ++ [.of joined scan.outcome scan.polls] })

end Calls

/-! ## Runs -/

inductive Operation where
  | addSubscription (config : RawSubscriptionConfig)
  | removeSubscription (id : SubscriptionId)
  | joinSubscription (id : SubscriptionId)
  | leaveSubscription (id : SubscriptionId)
  | tryRecvAny
  deriving DecidableEq, Repr

inductive Answer where
  | added (id : SubscriptionId)
  | removed (existed : Bool)
  | joined
  | left
  | packet (packet : Option RawPacket)
  deriving DecidableEq, Repr

def step (backend : RawBackend S W) (operation : Operation) (s : System S W) :
    Outcome Answer × System S W :=
  let s := { s with sweeps := [] }
  match operation with
  | .addSubscription config =>
    let (outcome, s) := addSubscription backend config s
    (outcome.map .added, s)
  | .removeSubscription id =>
    let (outcome, c) := removeSubscription id s.context
    (outcome.map .removed, { s with context := c })
  | .joinSubscription id =>
    let (outcome, s) := joinSubscription backend id s
    (outcome.map fun _ => .joined, s)
  | .leaveSubscription id =>
    let (outcome, s) := leaveSubscription backend id s
    (outcome.map fun _ => .left, s)
  | .tryRecvAny =>
    let (outcome, s) := tryRecvAny backend s
    (outcome.map .packet, s)

def start (w : W) : System S W := { context := .new, world := w, sweeps := [] }

abbrev Call (S W : Type) := Journal.Call (System S W) Operation (Outcome Answer)

end RawContext

end McrxCore
