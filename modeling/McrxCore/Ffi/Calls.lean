import McrxCore.Bindings.Arguments
import McrxCore.Context.Refinement
import McrxCore.Ffi.Poll

/-!
# Calls of the C interface

The calls on a context besides polling, and what a host can reach with all of them.  A packet
callback of a poll may call the interface again, and any thread may receive in between.
-/

namespace McrxCore.Ffi

/-! ## Arguments -/

/-- The bytes of a C string before its terminator, if the pointer is not null. -/
abbrev CString := Option (List UInt8)

def requiredStr (raw : CString) (field : String) : Except String String :=
  match raw with
  | none => .error (field ++ " must not be null")
  | some bytes =>
    match String.fromUTF8? ⟨bytes.toArray⟩ with
    | none => .error (field ++ " must be valid UTF-8")
    | some text => .ok text

def optionalStr (raw : CString) (field : String) : Except String (Option String) :=
  match raw with
  | none => .ok none
  | some _ => (requiredStr raw field).map some

/-- What `mcrx_context_add_subscription` makes of its texts, with the message of the first
that it refuses. -/
def addArguments (ifNameToIndex : RecvArgs.IfNameToIndex) (group : CString) (dstPort : UInt16)
    (source interface : CString) : Except String SubscriptionConfig := do
  let group ← requiredStr group "group"
  let source ← optionalStr source "source"
  let interface ← optionalStr interface "interface"
  buildSubscriptionConfig ifNameToIndex group dstPort source interface

/-! ## Calls -/

/-- A call of a host that starts no worker, besides `mcrx_context_poll`, with what its pointers
point to. -/
inductive Request where
  | addSubscription (group : CString) (dstPort : UInt16) (source interface : CString)
    (subscriptionIdOutIsNull : Bool)
  | joinSubscription (subscriptionId : Nat)
  | leaveSubscription (subscriptionId : Nat)
  | removeSubscription (subscriptionId : Nat)
  deriving DecidableEq, Repr

/-- A status, and what was written to `subscription_id_out`. -/
structure Reply where
  status : Nat
  subscriptionIdOut : Option Nat
  deriving DecidableEq, Repr

section Calls

variable {W : Type} (os : UdpSystem W) (ioMessage : IoError → String)
  (ifNameToIndex : RecvArgs.IfNameToIndex)

namespace Host

/-- `Err(status)` of `context_from_mut_ptr`. -/
def nullContext (host : Host W) : Nat × Host W :=
  host.setLastErrorWithStatus "context pointer must not be null" MCRX_STATUS_INVALID_ARGUMENT

/-- A panic unwinds to `ffi_status` with the lock held. -/
def panicked (host : Host W) : Nat × Host W :=
  { host with poisoned := true }.setLastErrorWithStatus "panic crossed mcrx-core-ffi boundary"
    MCRX_STATUS_PANIC

end Host

/-- `status_from_mcrx_result` of what a context answers. -/
def statusFromOutcome {α : Type} (outcome : Outcome α) (host : Host W) : Nat × Host W :=
  match outcome with
  | .ok _ => (MCRX_STATUS_OK, host.clearError)
  | .err e => host.setError (e.display ioMessage)
  | .panic => host.panicked

def lockedCall {α : Type} (run : Context.System W → Outcome α × Context.System W)
    (finish : Outcome α → Host W → Nat × Host W) (host : Host W) : Nat × Host W :=
  match host.lockContext with
  | .error message => host.setError message
  | .ok context =>
    let (outcome, context) := run context
    finish outcome { host with context := context }

def mcrxContextAddSubscription (group : CString) (dstPort : UInt16) (source interface : CString)
    (subscriptionIdOutIsNull : Bool) (host : Host W) : Reply × Host W :=
  if subscriptionIdOutIsNull then
    let (status, host) := host.setInvalidArgument "subscription_id_out must not be null"
    ({ status := status, subscriptionIdOut := none }, host)
  else
    match addArguments ifNameToIndex group dstPort source interface with
    | .error message =>
      let (status, host) := host.setInvalidArgument message
      ({ status := status, subscriptionIdOut := none }, host)
    | .ok config =>
      match host.lockContext with
      | .error message =>
        let (status, host) := host.setError message
        ({ status := status, subscriptionIdOut := none }, host)
      | .ok context =>
        let (outcome, context) := Context.addSubscription os config context
        let (status, host) := statusFromOutcome ioMessage outcome { host with context := context }
        ({ status := status
           subscriptionIdOut :=
            match outcome with
            | .ok id => some id.val
            | _ => none }, host)

def mcrxContextJoinSubscription (subscriptionId : Nat) (host : Host W) : Nat × Host W :=
  lockedCall (Context.joinSubscription os ⟨subscriptionId⟩) (statusFromOutcome ioMessage) host

def mcrxContextLeaveSubscription (subscriptionId : Nat) (host : Host W) : Nat × Host W :=
  lockedCall (Context.leaveSubscription os ⟨subscriptionId⟩) (statusFromOutcome ioMessage) host

/-- `remove_subscription` says whether there was one. -/
def removalStatus (outcome : Outcome Bool) (host : Host W) : Nat × Host W :=
  match outcome with
  | .ok false => host.setError (McrxError.subscriptionNotFound.display ioMessage)
  | outcome => statusFromOutcome ioMessage outcome host

def removeLocked (id : SubscriptionId) (s : Context.System W) : Outcome Bool × Context.System W :=
  let (outcome, context) := Context.removeSubscription id s.context
  (outcome, { s with context := context })

def mcrxContextRemoveSubscription (subscriptionId : Nat) (host : Host W) : Nat × Host W :=
  lockedCall (removeLocked ⟨subscriptionId⟩) (removalStatus ioMessage) host

def mcrxContextSubscriptionCount (contextIsNull : Bool) (host : Host W) : Nat :=
  if contextIsNull then 0
  else
    match host.lockContext with
    | .error _ => 0
    | .ok context => context.context.subscriptions.length

def call (contextIsNull : Bool) (request : Request) (host : Host W) : Reply × Host W :=
  if contextIsNull then
    let (status, host) := host.nullContext
    ({ status := status, subscriptionIdOut := none }, host)
  else
    match request with
    | .addSubscription group dstPort source interface subscriptionIdOutIsNull =>
      mcrxContextAddSubscription os ioMessage ifNameToIndex group dstPort source interface
        subscriptionIdOutIsNull host
    | .joinSubscription id =>
      let (status, host) := mcrxContextJoinSubscription os ioMessage id host
      ({ status := status, subscriptionIdOut := none }, host)
    | .leaveSubscription id =>
      let (status, host) := mcrxContextLeaveSubscription os ioMessage id host
      ({ status := status, subscriptionIdOut := none }, host)
    | .removeSubscription id =>
      let (status, host) := mcrxContextRemoveSubscription ioMessage id host
      ({ status := status, subscriptionIdOut := none }, host)

/-- `mcrx_context_new`, which clears the last error of its thread. -/
def mcrxContextNew (w : W) (receivedOut : Nat) : Host W :=
  { context := Context.start w
    poisoned := false
    lastError := none
    handleAlive := true
    threadError := none
    receivedOut := receivedOut }

end Calls

/-! ## Runs of a host -/

section Runs

variable {W : Type} (os : UdpSystem W) (ioMessage : IoError → String)
  (ifNameToIndex : RecvArgs.IfNameToIndex)

/-- What a host that starts no worker can make of a context: it calls, it polls with a callback
that does the same, another thread receives, and it frees the context. -/
inductive Reaches : Host W → Host W → Prop
  | refl (host : Host W) : Reaches host host
  | call {start host : Host W} (h : Reaches start host) (contextIsNull : Bool) (request : Request) :
    Reaches start (Ffi.call os ioMessage ifNameToIndex contextIsNull request host).2
  | poll {start host : Host W} (h : Reaches start host) (contextIsNull : Bool) (maxPackets : Nat)
    (callback : Option (PacketCallback W)) (receivedOutIsNull : Bool)
    (hcallback : ∀ f, callback = some f → ∀ packet host, Reaches host (f packet host)) :
    Reaches start
      (mcrxContextPoll os ioMessage contextIsNull maxPackets callback receivedOutIsNull host).1.2
  | receive {start host : Host W} (h : Reaches start host) :
    Reaches start (receiveOne os ioMessage host).2
  | free {start host : Host W} (h : Reaches start host) : Reaches start (mcrxContextFree host)

/-- A callback that makes calls of the interface and nothing else. -/
def Calls (callback : PacketCallback W) : Prop :=
  ∀ packet host, Reaches os ioMessage ifNameToIndex host (callback packet host)

/-- A state of the context that calls of its own reach from a new one. -/
def Reached (w : W) (s : Context.System W) : Prop :=
  ∃ operations sweeps,
    s = { Journal.final (Context.step os) operations (Context.start w) with sweeps := sweeps }

end Runs

/-! ## The context behind the calls -/

section Context

variable {W : Type} {os : UdpSystem W} {w : W} {s : Context.System W}

theorem Reached.inRange (h : Reached os w s) : s.context.roster.InRange := by
  obtain ⟨operations, sweeps, rfl⟩ := h
  exact (@Context.runs_calls W os operations (Context.start w) Roster.inRange_empty).2

/-- One more operation, however the sweeps before it are counted. -/
theorem Reached.step (h : Reached os w s) (operation : Context.Operation)
    {s' : Context.System W}
    (hstep : ∃ sweeps, s' = { (Context.step os operation s).2 with sweeps := sweeps }) :
    Reached os w s' := by
  obtain ⟨operations, sweeps, rfl⟩ := h
  obtain ⟨sweeps', rfl⟩ := hstep
  refine ⟨operations ++ [operation], sweeps', ?_⟩
  rw [Journal.final_append]
  rfl

theorem addSubscription_sweeps (config : SubscriptionConfig) (s : Context.System W) :
    ∃ sweeps, (Context.addSubscription os config s).2 =
      { (Context.step os (.addSubscription config) s).2 with sweeps := sweeps } := by
  refine ⟨s.sweeps, ?_⟩
  show (Context.addSubscription os config s).2 =
    { (Context.addSubscription os config { s with sweeps := [] }).2 with sweeps := s.sweeps }
  unfold Context.addSubscription Context.addWith
  split
  · rfl
  · dsimp only
    split
    · rfl
    · split <;> rfl

theorem joinSubscription_sweeps (id : SubscriptionId) (s : Context.System W) :
    ∃ sweeps, (Context.joinSubscription os id s).2 =
      { (Context.step os (.joinSubscription id) s).2 with sweeps := sweeps } := by
  refine ⟨s.sweeps, ?_⟩
  show (Context.joinSubscription os id s).2 =
    { (Context.joinSubscription os id { s with sweeps := [] }).2 with sweeps := s.sweeps }
  unfold Context.joinSubscription
  dsimp only
  split
  · rfl
  · split
    · rfl
    · split
      · rfl
      · split <;> rfl

theorem leaveSubscription_sweeps (id : SubscriptionId) (s : Context.System W) :
    ∃ sweeps, (Context.leaveSubscription os id s).2 =
      { (Context.step os (.leaveSubscription id) s).2 with sweeps := sweeps } := by
  refine ⟨s.sweeps, ?_⟩
  show (Context.leaveSubscription os id s).2 =
    { (Context.leaveSubscription os id { s with sweeps := [] }).2 with sweeps := s.sweeps }
  unfold Context.leaveSubscription
  dsimp only
  split
  · rfl
  · split
    · rfl
    · split
      · rfl
      · split <;> rfl

theorem removeLocked_sweeps (id : SubscriptionId) (s : Context.System W) :
    ∃ sweeps, (removeLocked id s).2 =
      { (Context.step os (.removeSubscription id) s).2 with sweeps := sweeps } :=
  ⟨s.sweeps, rfl⟩

theorem tryRecvAnyWithMetadata_sweeps (s : Context.System W) :
    ∃ sweeps, (Context.tryRecvAnyWithMetadata os s).2 =
      { (Context.step os .tryRecvAnyWithMetadata s).2 with sweeps := sweeps } :=
  ⟨_, rfl⟩

end Context

end McrxCore.Ffi
