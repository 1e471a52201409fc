import McrxCore.Lib.Transition
import McrxCore.Platform.UdpReceive
import McrxCore.Subscription

/-!
# The Tokio adapter

`TokioSubscription` of `tokio_adapter.rs` on Unix.  Tokio's `AsyncFd` is an edge-triggered
flag: an arrival sets it, `clear_ready` clears it unless an arrival came after it was
observed.  A receive call steps from one `recvmsg` to the next, and datagrams arrive in
between.
-/

namespace McrxCore

inductive TokioReceiveError where
  | readiness (error : IoError)
  | receive (error : McrxError)
  deriving DecidableEq, Repr

inductive ReceiveMethod where
  | recv
  | recvWithMetadata
  deriving DecidableEq, Repr

inductive Received where
  | packet (packet : Packet)
  | packetWithMetadata (packet : PacketWithMetadata)
  deriving DecidableEq, Repr

/-- Why `try_recv` returned `Ok(None)`, which the adapter does not see. -/
inductive NoPacket where
  | wouldBlock
  | budgetExhausted
  deriving DecidableEq, Repr

namespace TokioSubscription

/-- The receive task: without a call, in `readable_mut().await`, in `try_recv` with
`datagrams` filtered datagrams left of its budget, or before `clear_ready`. -/
inductive Task where
  | idle (result : Option (Except TokioReceiveError Received))
  | awaiting (method : ReceiveMethod)
  | receiving (method : ReceiveMethod) (datagrams : Nat) (buffers : ReceiveBuffers)
  | clearing (method : ReceiveMethod) (cause : NoPacket)

/-- The socket queue, the readiness flag and whether an arrival came after it was
observed, the wrapped subscription, the task, and the world of the system. -/
structure State (W : Type) where
  queue : List UdpDatagram
  ready : Bool
  arrived : Bool
  inner : Subscription
  task : Task
  world : W

inductive Action where
  | arrive (datagram : UdpDatagram)
  | call (method : ReceiveMethod)
  | poll
  | readinessFails (error : IoError)
  | read
  | readFails (error : IoError)
  | clearReady
  | cancel

/-- `recv` drops the metadata. -/
def received (method : ReceiveMethod) (packet : PacketWithMetadata) : Received :=
  match method with
  | .recv => .packet packet.intoPacket
  | .recvWithMetadata => .packetWithMetadata packet

def returned (method : ReceiveMethod) (result : Except McrxError PacketWithMetadata) : Task :=
  .idle (some (match result with
    | .ok packet => .ok (received method packet)
    | .error e => .error (.receive e)))

variable {W : Type} (os : UdpSystem W)

/-- `try_recv` up to its first `recvmsg`. -/
def enter (method : ReceiveMethod) (inner : Subscription) : Task × Subscription :=
  if !inner.isJoined then (returned method (.error .subscriptionNotJoined), inner)
  else
    match inner.socket.ensureReady with
    | .error e => (returned method (.error e), inner.recordReceiveError)
    | .ok () =>
      let controlSize := ancillaryBufferSize os.target inner.config.family
      if ANCILLARY_STACK_BUFFER_SIZE < controlSize then
        (returned method (.error (ancillaryBufferTooSmall controlSize)), inner.recordReceiveError)
      else (.receiving method MAX_FILTERED_DATAGRAMS_PER_RECEIVE .uninit, inner)

/-- One `recvmsg` of `try_recv` and the loop body on its datagram. -/
def readOne (method : ReceiveMethod) (datagrams : Nat) (buffers : ReceiveBuffers) (s : State W) :
    State W :=
  match s.queue with
  | [] => { s with task := .clearing method .wouldBlock, inner := s.inner.recordWouldBlock }
  | datagram :: queue =>
    let s := { s with queue := queue }
    let buffers := buffers.fill datagram.message
    match receiveMessage os s.inner.socket s.inner.id s.inner.config buffers datagram.message
        s.world with
    | (.error e, w) =>
      { s with
        task := returned method (.error e)
        inner := s.inner.recordReceiveError
        world := w }
    | (.ok (some packet), w) =>
      { s with
        task := returned method (.ok packet)
        inner := s.inner.recordReceivedPacket packet.packet
        world := w }
    | (.ok none, w) =>
      match datagrams with
      | 0 | 1 =>
        { s with
          task := .clearing method .budgetExhausted
          inner := s.inner.recordWouldBlock
          world := w }
      | datagrams + 2 => { s with task := .receiving method (datagrams + 1) buffers, world := w }

/-- One step of the task or of its surroundings; `none` where it cannot happen. -/
def step (action : Action) (s : State W) : Option (State W) :=
  match action, s.task with
  | .arrive datagram, _ =>
    some { s with queue := s.queue ++ [datagram], ready := true, arrived := true }
  | .call method, .idle _ => some { s with task := .awaiting method }
  | .poll, .awaiting method =>
    if s.ready then
      let (task, inner) := enter os method s.inner
      some { s with arrived := false, task := task, inner := inner }
    else none
  | .readinessFails error, .awaiting _ =>
    some { s with task := .idle (some (.error (.readiness error))) }
  | .read, .receiving method datagrams buffers => some (readOne os method datagrams buffers s)
  | .readFails error, .receiving method _ _ =>
    some { s with
      task := returned method (.error (.receiveFailed error))
      inner := s.inner.recordReceiveError }
  -- The loop goes round to `readable_mut().await`.
  | .clearReady, .clearing method _ => some { s with ready := s.arrived, task := .awaiting method }
  | .cancel, .awaiting _ => some { s with task := .idle none }
  | _, _ => none

/-! ## The steps of a call are those of `try_recv` -/

def beside {α : Type} (queue : List UdpDatagram) (result : α × W) : α × List UdpDatagram × W :=
  (result.1, queue, result.2)

/-- A system whose sockets read a queue of datagrams beside its world. -/
def overQueue : UdpSystem (List UdpDatagram × W) :=
  { target := os.target
    createSocket := fun family s => beside s.1 (os.createSocket family s.2)
    setOption := fun fd option s => beside s.1 (os.setOption fd option s.2)
    bind := fun fd addr s => beside s.1 (os.bind fd addr s.2)
    localAddr := fun fd s => beside s.1 (os.localAddr fd s.2)
    joinMulticastGroup := fun fd config s => beside s.1 (os.joinMulticastGroup fd config s.2)
    leaveMulticastGroup := fun fd config s => beside s.1 (os.leaveMulticastGroup fd config s.2)
    recvmsg := fun _ s =>
      match s with
      | ([], w) => (.wouldBlock, [], w)
      | (datagram :: queue, w) => (.received datagram.message, queue, w) }

theorem andThen_beside {α β : Type} {queue : List UdpDatagram} {call : Except McrxError α × W}
    {next : α → W → Except McrxError β × W}
    {next' : α → List UdpDatagram × W → Except McrxError β × List UdpDatagram × W}
    (h : ∀ a w, next' a (queue, w) = beside queue (next a w)) :
    andThen (beside queue call) next' = beside queue (andThen call next) := by
  match call with
  | (.error e, w) => rfl
  | (.ok a, w) => exact h a w

theorem trySocketLocalAddr_overQueue (socket : Fd) (queue : List UdpDatagram) (w : W) :
    trySocketLocalAddr (overQueue os) socket (queue, w) =
      beside queue (trySocketLocalAddr os socket w) := by
  have hcall : (overQueue os).localAddr socket (queue, w) =
      beside queue (os.localAddr socket w) := rfl
  rw [trySocketLocalAddr, trySocketLocalAddr, hcall]
  match os.localAddr socket w with
  | (.error _, _) => rfl
  | (.ok none, _) => rfl
  | (.ok (some _), _) => rfl

theorem boundAddr_overQueue (socket : ReceiveSocket) (queue : List UdpDatagram) (w : W) :
    socket.boundAddr (overQueue os) (queue, w) = beside queue (socket.boundAddr os w) := by
  rw [ReceiveSocket.boundAddr, ReceiveSocket.boundAddr]
  cases socket.localAddr with
  | some addr => rfl
  | none =>
    simp only [trySocketLocalAddr_overQueue]
    obtain ⟨_ | _, _⟩ := trySocketLocalAddr os socket.socket w <;> rfl

theorem receiveMessage_overQueue (socket : ReceiveSocket) (id : SubscriptionId)
    (config : SubscriptionConfig) (buffers : ReceiveBuffers) (message : ReceivedMessage)
    (queue : List UdpDatagram) (w : W) :
    receiveMessage (overQueue os) socket id config buffers message (queue, w) =
      beside queue (receiveMessage os socket id config buffers message w) := by
  rw [receiveMessage, receiveMessage]
  cases message.source with
  | none => rfl
  | some source =>
    have hbase : socket.baseMetadata (overQueue os) config (queue, w) =
        beside queue (socket.baseMetadata os config w) := by
      rw [ReceiveSocket.baseMetadata, boundAddr_overQueue]
      exact andThen_beside fun _ _ => rfl
    rw [hbase]
    refine andThen_beside fun base w => ?_
    have htarget : (overQueue os).target = os.target := rfl
    simp only [htarget]
    split <;> rfl

/-- The state in which `try_recv` left the adapter. -/
structure Concludes (ready : Bool) (s : State W) (method : ReceiveMethod)
    (result : Except McrxError (Option PacketWithMetadata)) (inner : Subscription)
    (left : List UdpDatagram × W) : Prop where
  inner : s.inner = inner
  queue : s.queue = left.1
  world : s.world = left.2
  flag : s.ready = ready
  task :
    match result with
    | .ok (some packet) => s.task = returned method (.ok packet)
    | .ok none => ∃ cause, s.task = .clearing method cause
    | .error e => s.task = returned method (.error e)

/-- What `try_recv` makes of a result of the platform. -/
def record (inner : Subscription) : Except McrxError (Option PacketWithMetadata) → Subscription
  | .ok (some packet) => inner.recordReceivedPacket packet.packet
  | .ok none => inner.recordWouldBlock
  | .error _ => inner.recordReceiveError

/-- The receive loop of the platform from the state of a receiving task. -/
def loopFrom (datagrams : Nat) (buffers : ReceiveBuffers) (s : State W) :
    Except McrxError (Option PacketWithMetadata) × List UdpDatagram × W :=
  receiveLoop (overQueue os) s.inner.socket s.inner.id s.inner.config datagrams buffers
    (s.queue, s.world)

/-- One read is one turn of the loop: it decides the result, or the loop goes on with one
filtered datagram less. -/
theorem readOne_loopFrom (method : ReceiveMethod) (datagrams : Nat) (buffers : ReceiveBuffers)
    (s : State W) :
    let loop := loopFrom os (datagrams + 1) buffers s
    let s' := readOne os method (datagrams + 1) buffers s
    Concludes s.ready s' method loop.1 (record s.inner loop.1) loop.2 ∨
      ∃ rest buffers', datagrams = rest + 1 ∧ s'.task = .receiving method datagrams buffers' ∧
        s'.inner = s.inner ∧ s'.ready = s.ready ∧ loop = loopFrom os datagrams buffers' s' := by
  obtain ⟨queue, ready, arrived, inner, task, w⟩ := s
  cases queue with
  | nil => exact .inl ⟨rfl, rfl, rfl, rfl, .wouldBlock, rfl⟩
  | cons datagram queue =>
    have hrecv : (overQueue os).recvmsg inner.socket.socket (datagram :: queue, w) =
        (.received datagram.message, queue, w) := rfl
    simp only [loopFrom, receiveLoop, hrecv, receiveMessage_overQueue, readOne]
    obtain ⟨e | _ | packet, w⟩ := receiveMessage os inner.socket inner.id inner.config
      (buffers.fill datagram.message) datagram.message w
    · exact .inl ⟨rfl, rfl, rfl, rfl, rfl⟩
    · cases datagrams with
      | zero => exact .inl ⟨rfl, rfl, rfl, rfl, .budgetExhausted, rfl⟩
      | succ rest => exact .inr ⟨rest, buffers.fill datagram.message, rfl, rfl, rfl, rfl, rfl⟩
    · exact .inl ⟨rfl, rfl, rfl, rfl, rfl⟩

theorem step_read {method : ReceiveMethod} {datagrams : Nat} {buffers : ReceiveBuffers}
    {s : State W} (htask : s.task = .receiving method datagrams buffers) :
    step os .read s = some (readOne os method datagrams buffers s) := by
  obtain ⟨queue, ready, arrived, inner, task, w⟩ := s
  cases htask
  rfl

/-- Reads without arrivals in between are the receive loop, by induction on its budget. -/
theorem reads_loopFrom {datagrams : Nat} {method : ReceiveMethod} {buffers : ReceiveBuffers}
    {s : State W} (htask : s.task = .receiving method (datagrams + 1) buffers) :
    ∃ n s', Transition.run (step os) (List.replicate n .read) s = some s' ∧
      let loop := loopFrom os (datagrams + 1) buffers s
      Concludes s.ready s' method loop.1 (record s.inner loop.1) loop.2 := by
  induction datagrams generalizing buffers s with
  | zero =>
    refine ⟨1, _, by rw [List.replicate_one, Transition.run, step_read os htask]; rfl, ?_⟩
    rcases readOne_loopFrom os method 0 buffers s with h | ⟨_, _, hzero, -⟩
    · exact h
    · cases hzero
  | succ datagrams ih =>
    rcases readOne_loopFrom os method (datagrams + 1) buffers s with
      h | ⟨_, buffers', -, htask', hinner, hready, hloop⟩
    · exact ⟨1, _, by rw [List.replicate_one, Transition.run, step_read os htask]; rfl, h⟩
    · obtain ⟨n, s', hrun, hconcludes⟩ := ih htask'
      refine ⟨n + 1, s', ?_, ?_⟩
      · rw [List.replicate_succ, Transition.run, step_read os htask]
        exact hrun
      · rw [hinner, ← hloop] at hconcludes
        exact { hconcludes with flag := hconcludes.flag.trans hready }

theorem step_poll {method : ReceiveMethod} {s : State W} (htask : s.task = .awaiting method)
    (hready : s.ready = true) :
    step os .poll s =
      some { s with
        arrived := false
        task := (enter os method s.inner).1
        inner := (enter os method s.inner).2 } := by
  obtain ⟨queue, ready, arrived, inner, task, w⟩ := s
  cases htask
  cases hready
  rfl

/-- A poll that finds the flag set and the reads after it are `try_recv`. -/
theorem poll_tryRecvWithMetadata {method : ReceiveMethod} {s : State W}
    (htask : s.task = .awaiting method) (hready : s.ready = true) :
    ∃ n s', Transition.run (step os) (.poll :: List.replicate n .read) s = some s' ∧
      let receive := s.inner.tryRecvWithMetadata (overQueue os) (s.queue, s.world)
      Concludes s.ready s' method receive.1 receive.2.1 receive.2.2 := by
  have hpoll := step_poll os htask hready
  simp only [Transition.run, hpoll, Option.bind_some, Subscription.tryRecvWithMetadata,
    Subscription.receiveWith, recvPacketWithMetadata, enter]
  by_cases hjoined : (!s.inner.isJoined) = true
  · rw [if_pos hjoined, if_pos hjoined]
    exact ⟨0, _, rfl, rfl, rfl, rfl, rfl, rfl⟩
  rw [if_neg hjoined, if_neg hjoined]
  cases hsetup : s.inner.socket.ensureReady with
  | error e => exact ⟨0, _, rfl, rfl, rfl, rfl, rfl, rfl⟩
  | ok =>
    simp only [recvPacketWithMetadataUnix]
    have htarget : (overQueue os).target = os.target := rfl
    rw [htarget]
    by_cases hsize : ANCILLARY_STACK_BUFFER_SIZE <
        ancillaryBufferSize os.target s.inner.config.family
    · rw [if_pos hsize, if_pos hsize]
      exact ⟨0, _, rfl, rfl, rfl, rfl, rfl, rfl⟩
    · rw [if_neg hsize, if_neg hsize]
      obtain ⟨n, s', hrun, hconcludes⟩ := @reads_loopFrom W os 255 method .uninit
        { s with
          arrived := false
          task := .receiving method MAX_FILTERED_DATAGRAMS_PER_RECEIVE .uninit } rfl
      refine ⟨n, s', hrun, ?_⟩
      have hloop : loopFrom os 256 .uninit s =
          receiveLoop (overQueue os) s.inner.socket s.inner.id s.inner.config
            MAX_FILTERED_DATAGRAMS_PER_RECEIVE .uninit (s.queue, s.world) := rfl
      rw [← hloop]
      change Concludes s.ready s' method (loopFrom os 256 .uninit s).1
        (record s.inner (loopFrom os 256 .uninit s).1) (loopFrom os 256 .uninit s).2 at hconcludes
      generalize loopFrom os 256 .uninit s = loop at hconcludes ⊢
      obtain ⟨_ | _ | _, _⟩ := loop <;> exact hconcludes

/-! ## Lost wake-ups -/

/-- A suspended task whose flag is cleared leaves no datagram of its subscription. -/
def NoLostWakeup (s : State W) : Prop :=
  ∀ method, s.task = .awaiting method → s.ready = false →
    ∀ datagram ∈ s.queue, ¬ datagram.Matches os.target s.inner.config

/-- The adapter before its first call; a queue that is not empty has set the flag. -/
structure Initial (s : State W) : Prop where
  task : ∃ result, s.task = .idle result
  ready : s.ready = false → s.queue = []

/-- `clear_ready` clears the flag for a `try_recv` that ended at its filter budget, with a
datagram of the subscription behind the filtered ones and no arrival since the flag was
observed. -/
structure GivesUp (s : State W) (action : Action) : Prop where
  action : action = .clearReady
  task : ∃ method, s.task = .clearing method .budgetExhausted
  quiet : s.arrived = false
  left : ∃ datagram ∈ s.queue, datagram.Matches os.target s.inner.config

/-- The invariant: a cleared flag means that nothing is missed. -/
structure Watched (s : State W) : Prop where
  cleared : s.ready = false → ∀ datagram ∈ s.queue, ¬ datagram.Matches os.target s.inner.config
  blocked : ∀ method, s.task = .clearing method .wouldBlock → s.arrived = false → s.queue = []

theorem Initial.watched {s : State W} (h : Initial s) : Watched os s := by
  obtain ⟨result, htask⟩ := h.task
  refine ⟨fun hready => ?_, fun method hclearing => ?_⟩
  · rw [h.ready hready]
    exact nofun
  · exact nomatch htask.symm.trans hclearing

/-- What a read keeps: the flag and the configuration; it only takes from the queue, and
would block only when that is empty. -/
structure ReadKeeps (s s' : State W) : Prop where
  ready : s'.ready = s.ready
  arrived : s'.arrived = s.arrived
  config : s'.inner.config = s.inner.config
  queue : ∀ datagram ∈ s'.queue, datagram ∈ s.queue
  blocked : ∀ method, s'.task = .clearing method .wouldBlock → s'.queue = []

theorem readOne_keeps (method : ReceiveMethod) (datagrams : Nat) (buffers : ReceiveBuffers)
    (s : State W) : ReadKeeps s (readOne os method datagrams buffers s) := by
  obtain ⟨queue, ready, arrived, inner, task, w⟩ := s
  cases queue with
  | nil => exact ⟨rfl, rfl, rfl, fun _ h => h, fun _ _ => rfl⟩
  | cons datagram queue =>
    simp only [readOne]
    match receiveMessage os inner.socket inner.id inner.config (buffers.fill datagram.message)
        datagram.message w with
    | (.error e, w) =>
      exact ⟨rfl, rfl, rfl, fun _ h => List.mem_cons_of_mem _ h, fun _ h => nomatch h⟩
    | (.ok (some packet), w) =>
      exact ⟨rfl, rfl, rfl, fun _ h => List.mem_cons_of_mem _ h, fun _ h => nomatch h⟩
    | (.ok none, w) =>
      match datagrams with
      | 0 => exact ⟨rfl, rfl, rfl, fun _ h => List.mem_cons_of_mem _ h, fun _ h => nomatch h⟩
      | 1 => exact ⟨rfl, rfl, rfl, fun _ h => List.mem_cons_of_mem _ h, fun _ h => nomatch h⟩
      | _ + 2 => exact ⟨rfl, rfl, rfl, fun _ h => List.mem_cons_of_mem _ h, fun _ h => nomatch h⟩

theorem enter_keeps (method : ReceiveMethod) (inner : Subscription) :
    (enter os method inner).2.config = inner.config ∧
      ∀ m cause, (enter os method inner).1 ≠ .clearing m cause := by
  unfold enter
  split
  · exact ⟨rfl, fun _ _ h => nomatch h⟩
  · split
    · exact ⟨rfl, fun _ _ h => nomatch h⟩
    · simp only []
      split
      · exact ⟨rfl, fun _ _ h => nomatch h⟩
      · exact ⟨rfl, fun _ _ h => nomatch h⟩

/-- Every step that does not give up keeps the invariant. -/
theorem Watched.step {s s' : State W} {action : Action} (h : Watched os s)
    (hallowed : ¬ GivesUp os s action) (hstep : step os action s = some s') : Watched os s' := by
  unfold TokioSubscription.step at hstep
  split at hstep
  · cases hstep
    exact ⟨nofun, fun _ _ harrived => nomatch harrived⟩
  · cases hstep
    exact ⟨h.cleared, fun _ hclearing => nomatch hclearing⟩
  · next method htask =>
    split at hstep
    · cases hstep
      obtain ⟨hconfig, hnot⟩ := enter_keeps os method s.inner
      refine ⟨?_, fun m hclearing => absurd hclearing (hnot m _)⟩
      show s.ready = false → ∀ datagram ∈ s.queue,
          ¬ datagram.Matches os.target (enter os method s.inner).2.config
      rw [hconfig]
      exact h.cleared
    · exact nomatch hstep
  · cases hstep
    exact ⟨h.cleared, fun _ hclearing => nomatch hclearing⟩
  · next method datagrams buffers htask =>
    cases hstep
    have hkeeps := readOne_keeps os method datagrams buffers s
    refine ⟨fun hready datagram hmem => ?_, fun m hclearing _ => hkeeps.blocked m hclearing⟩
    rw [hkeeps.config]
    exact h.cleared (hkeeps.ready.symm.trans hready) datagram (hkeeps.queue datagram hmem)
  · cases hstep
    exact ⟨h.cleared, fun _ hclearing => nomatch hclearing⟩
  · next method cause htask =>
    cases hstep
    refine ⟨fun harrived datagram hmem hmatches => ?_, fun _ hclearing => nomatch hclearing⟩
    cases cause with
    | wouldBlock =>
      have hempty : s.queue = [] := h.blocked method htask harrived
      change datagram ∈ s.queue at hmem
      rw [hempty] at hmem
      exact absurd hmem List.not_mem_nil
    | budgetExhausted => exact hallowed ⟨rfl, ⟨method, htask⟩, harrived, datagram, hmem, hmatches⟩
  · cases hstep
    exact ⟨h.cleared, fun _ hclearing => nomatch hclearing⟩
  · exact nomatch hstep

theorem Watched.noLostWakeup {s : State W} (h : Watched os s) : NoLostWakeup os s :=
  fun _ _ hready => h.cleared hready

/-- Giving up loses the wake-up. -/
theorem GivesUp.lost {s : State W} {action : Action} (h : GivesUp os s action) :
    ∃ s', step os action s = some s' ∧ ¬ NoLostWakeup os s' := by
  obtain ⟨rfl, ⟨method, htask⟩, hquiet, datagram, hmem, hmatches⟩ := h
  refine ⟨{ s with ready := s.arrived, task := .awaiting method }, ?_, fun hno => ?_⟩
  · obtain ⟨queue, ready, arrived, inner, task, w⟩ := s
    cases htask
    rfl
  · exact hno method rfl hquiet datagram hmem hmatches

/-- A run of the adapter loses no wake-up if and only if no step of it gives up. -/
theorem noLostWakeup_iff {s : State W} (h : Initial s) (actions : List Action) :
    Transition.Meets (step os) (fun s action => ¬ GivesUp os s action) actions s ↔
      ∀ n s', Transition.run (step os) (actions.take n) s = some s' → NoLostWakeup os s' := by
  constructor
  · intro hmeets n s' hrun
    exact (Transition.invariant_of_meets (fun _ _ _ hallowed hwatched => hwatched.step os hallowed)
      (hmeets.take n) (h.watched os) hrun).noLostWakeup
  · exact fun hall => Transition.meets_of_forall_take
      (fun s action hgives => (not_not.mp hgives).lost) hall

/-! ## A run that loses a wake-up -/

def joinedInner : Subscription :=
  { Subscription.withSocket ⟨1⟩ (.asm (.v4 (.new 239 1 2 3)) 5000) boundSocket with
    state := .joined }

def idleAdapter : State (List UdpDatagram) :=
  { queue := []
    ready := false
    arrived := false
    inner := joinedInner
    task := .idle none
    world := [] }

theorem initial_idleAdapter : Initial idleAdapter := ⟨⟨none, rfl⟩, fun _ => rfl⟩

def otherDatagram : UdpDatagram := datagramTo (.new 239 9 9 9) 1

def ownDatagram : UdpDatagram := datagramTo (.new 239 1 2 3) 2

def servedRun : List Action :=
  [.call .recv, .arrive ownDatagram, .poll, .read, .call .recvWithMetadata, .poll, .read,
    .clearReady]

theorem noLostWakeup_iff_served :
    (∃ s', Transition.run (step (queueSystem quietSystem)) servedRun idleAdapter = some s') ∧
      ∀ n s', Transition.run (step (queueSystem quietSystem)) (servedRun.take n) idleAdapter =
        some s' → NoLostWakeup (queueSystem quietSystem) s' := by
  refine ⟨⟨_, rfl⟩, (noLostWakeup_iff _ initial_idleAdapter servedRun).mp ?_⟩
  refine Transition.meets_of_check (P := fun _ => True) (p := fun s action =>
    match action, s.task with
    | .clearReady, .clearing _ .budgetExhausted => false
    | _, _ => true) (fun s action _ hp hgives => ?_) (fun _ _ _ _ _ _ => trivial) trivial ?_
  · obtain ⟨rfl, ⟨method, htask⟩, -, -⟩ := hgives
    rw [htask] at hp
    exact nomatch hp
  · rfl

/-- As many datagrams as one call may filter, and one of the subscription behind them. -/
def strandingRun : List Action :=
  List.replicate 256 (.arrive otherDatagram) ++
    ([.arrive ownDatagram, .call .recv, .poll] ++ (List.replicate 256 .read ++ [.clearReady]))

theorem run_arrivals (n : Nat) (datagram : UdpDatagram) (s : State W) :
    ∃ ready arrived, Transition.run (step os) (List.replicate n (.arrive datagram)) s =
      some { s with
        queue := s.queue ++ List.replicate n datagram
        ready := ready
        arrived := arrived } := by
  induction n generalizing s with
  | zero =>
    refine ⟨s.ready, s.arrived, ?_⟩
    have hqueue : s.queue ++ List.replicate 0 datagram = s.queue := List.append_nil _
    rw [hqueue]
    rfl
  | succ n ih =>
    obtain ⟨ready, arrived, hrun⟩ :=
      ih { s with queue := s.queue ++ [datagram], ready := true, arrived := true }
    refine ⟨ready, arrived, ?_⟩
    rw [List.append_assoc, List.singleton_append, ← List.replicate_succ] at hrun
    exact hrun

theorem receiveMessage_other (buffers : ReceiveBuffers) (w : List UdpDatagram) :
    receiveMessage (queueSystem quietSystem) joinedInner.socket joinedInner.id joinedInner.config
      (buffers.fill otherDatagram.message) otherDatagram.message w = (.ok none, w) := by
  have hfate : fate joinedInner.id joinedInner.config quietSystem.target boundSocket otherDatagram =
      .ok none := by decide
  have hone := receiveMessage_datagram quietSystem joinedInner.id joinedInner.config
    ready_boundSocket buffers otherDatagram w
  rwa [hfate] at hone

/-- Reads of filtered datagrams until the budget is exhausted, by induction on it. -/
theorem run_filtered (n : Nat) {method : ReceiveMethod} {buffers : ReceiveBuffers}
    {rest : List UdpDatagram} {s : State (List UdpDatagram)} (hinner : s.inner = joinedInner)
    (hqueue : s.queue = List.replicate (n + 1) otherDatagram ++ rest)
    (htask : s.task = .receiving method (n + 1) buffers) :
    Transition.run (step (queueSystem quietSystem)) (List.replicate (n + 1) .read) s =
      some { s with
        queue := rest
        inner := joinedInner.recordWouldBlock
        task := .clearing method .budgetExhausted } := by
  obtain ⟨queue, ready, arrived, inner, task, w⟩ := s
  subst hinner hqueue htask
  induction n generalizing buffers with
  | zero =>
    have hqueue : List.replicate (0 + 1) otherDatagram ++ rest = otherDatagram :: rest := rfl
    rw [List.replicate_one, Transition.run, step_read _ rfl, hqueue]
    simp only [readOne, receiveMessage_other]
    rfl
  | succ n ih =>
    rw [List.replicate_succ, Transition.run, step_read _ rfl]
    simp only [readOne, List.replicate_succ, List.cons_append, receiveMessage_other,
      Option.bind_some]
    exact ih

theorem filtered_budget_strands_packet :
    Initial idleAdapter ∧ ∃ s', Transition.run (step (queueSystem quietSystem)) strandingRun
      idleAdapter = some s' ∧ ¬ NoLostWakeup (queueSystem quietSystem) s' := by
  obtain ⟨ready, arrived, harrivals⟩ :=
    run_arrivals (queueSystem quietSystem) 256 otherDatagram idleAdapter
  refine ⟨initial_idleAdapter, ?_⟩
  have hpolled : Transition.run (step (queueSystem quietSystem))
      [.arrive ownDatagram, .call .recv, .poll]
      { idleAdapter with
        queue := idleAdapter.queue ++ List.replicate 256 otherDatagram
        ready := ready
        arrived := arrived } =
      some { idleAdapter with
        queue := List.replicate 256 otherDatagram ++ [ownDatagram]
        ready := true
        task := .receiving .recv 256 .uninit } := rfl
  have hread := run_filtered 255 (s := { idleAdapter with
        queue := List.replicate 256 otherDatagram ++ [ownDatagram]
        ready := true
        task := .receiving .recv 256 .uninit }) rfl rfl rfl
  refine ⟨_, Transition.run_append_eq_some harrivals (Transition.run_append_eq_some hpolled
    (Transition.run_append_eq_some hread rfl)), fun hno => ?_⟩
  exact hno .recv rfl rfl ownDatagram List.mem_cons_self (by decide)

end TokioSubscription

end McrxCore
