import McrxCore.Context.Blocking
import McrxCore.Context.Ledger

/-!
# The batch metrics of the context

A batch call counts itself first and its packets last, so a batch that a receive error ends
leaves the packets before the error out of `batch_packets_received`.
-/

namespace McrxCore

namespace Context

variable {W : Type} {os : UdpSystem W}

/-! ## What a call counts -/

/-- The counters of packets and batches after some batch calls, with the packets that the
batches counted and all packets received. -/
structure Counts (batches counted received : Nat) (metrics metrics' : ContextMetricsInner) :
    Prop where
  batches : metrics'.batchCalls.added = metrics.batchCalls.added + batches
  counted : metrics'.batchPacketsReceived.added = metrics.batchPacketsReceived.added + counted
  received : metrics'.totalPacketsReceived.added = metrics.totalPacketsReceived.added + received

theorem Counts.refl (metrics : ContextMetricsInner) : Counts 0 0 0 metrics metrics :=
  ⟨rfl, rfl, rfl⟩

theorem Counts.trans {batches counted received batches' counted' received' : Nat}
    {metrics metrics₁ metrics₂ : ContextMetricsInner}
    (h : Counts batches counted received metrics metrics₁)
    (hnext : Counts batches' counted' received' metrics₁ metrics₂) :
    Counts (batches + batches') (counted + counted') (received + received') metrics metrics₂ where
  batches := by rw [hnext.batches, h.batches, Nat.add_assoc]
  counted := by rw [hnext.counted, h.counted, Nat.add_assoc]
  received := by rw [hnext.received, h.received, Nat.add_assoc]

def delivered {T : Type} : Outcome (Option T) → Nat
  | .ok (some _) => 1
  | .ok none => 0
  | .err _ => 0
  | .panic => 0

theorem delivered_scanResult {T : Type}
    (outcome : Option (Except McrxError (Option (Nat × T)))) :
    delivered (scanResult outcome) = outcome.elim 0 RoundRobin.found := by
  match outcome with
  | none => rfl
  | some (.error e) => rfl
  | some (.ok none) => rfl
  | some (.ok (some (index, packet))) => rfl

theorem recvAndRecord_counts {T : Type}
    (recv : Subscription → W → Except McrxError (Option T) × Subscription × W)
    (packetLen : T → Nat) (subscription : Subscription) (state : ContextMetricsInner × W) :
    Counts 0 0 (RoundRobin.found (recvAndRecord recv packetLen subscription state).1) state.1
      (recvAndRecord recv packetLen subscription state).2.2.1 := by
  obtain ⟨metrics, w⟩ := state
  simp only [recvAndRecord]
  split <;> exact ⟨rfl, rfl, rfl⟩

/-- A scan counts the packet that it returns. -/
theorem tryRecvFromJoined_counts {T : Type}
    (recv : Subscription → W → Except McrxError (Option T) × Subscription × W)
    (packetLen : T → Nat) (s : System W) :
    Counts 0 0 (delivered (tryRecvFromJoined recv packetLen s).1) s.context.metrics
      (tryRecvFromJoined recv packetLen s).2.context.metrics := by
  have hpoll := recvAndRecord_counts recv packetLen
  have hkept : ∀ (f : ContextMetricsInner → Nat),
      (∀ subscription (state : ContextMetricsInner × W),
        f (recvAndRecord recv packetLen subscription state).2.2.1 = f state.1) →
      f (tryRecvFromJoined recv packetLen s).2.context.metrics = f s.context.metrics := by
    intro f hf
    refine RoundRobin.scanFrom_invariant
      (P := fun _ (state : ContextMetricsInner × W) => f state.1 = f s.context.metrics)
      (fun _ state _ _ h _ _ => ?_) rfl
    exact (hf _ _).trans h
  refine ⟨hkept (fun metrics => metrics.batchCalls.added) fun subscription state =>
      (hpoll subscription state).batches,
    hkept (fun metrics => metrics.batchPacketsReceived.added) fun subscription state =>
      (hpoll subscription state).counted, ?_⟩
  show _ = _ + delivered (scanResult _)
  rw [delivered_scanResult]
  exact RoundRobin.scanFrom_count (f := fun state => state.1.totalPacketsReceived.added)
    fun subscription state => (hpoll subscription state).received

/-- The loop of a batch appends what its receives return, and counts nothing as a batch. -/
theorem batchLoop_counts {T : Type} {recvAny : System W → Outcome (Option T) × System W}
    (hrecv : ∀ s, Counts 0 0 (delivered (recvAny s).1) s.context.metrics
      (recvAny s).2.context.metrics)
    {maxPackets received : Nat} {out out' : List T} {s s' : System W} {outcome : Outcome Nat}
    (h : batchLoop recvAny maxPackets received out s = (outcome, out', s')) :
    ∃ appended, out'.length = out.length + appended ∧
      Counts 0 0 appended s.context.metrics s'.context.metrics ∧
      ∀ count, outcome = .ok count → count = received + appended := by
  induction maxPackets generalizing received out s with
  | zero =>
    cases h
    exact ⟨0, rfl, .refl _, fun count hcount => (Outcome.ok.inj hcount).symm⟩
  | succ maxPackets ih =>
    have hfirst := hrecv s
    rw [batchLoop] at h
    cases hone : recvAny s with
    | mk first s₁ =>
      rw [hone] at h hfirst
      cases first with
      | ok found =>
        cases found with
        | some packet =>
          obtain ⟨appended, hlength, hcounts, hcount⟩ := ih h
          refine ⟨1 + appended, ?_, hfirst.trans hcounts, fun count heq => ?_⟩
          · rw [hlength, List.length_append, List.length_singleton, Nat.add_assoc]
          · rw [hcount count heq, Nat.add_assoc]
        | none =>
          cases h
          exact ⟨0, rfl, hfirst, fun count hcount => (Outcome.ok.inj hcount).symm⟩
      | err _ | panic =>
        cases h
        exact ⟨0, rfl, hfirst, fun count hcount => (by cases hcount)⟩

/-- A batch call counts itself, every packet in the total, and its packets as those of a
batch when it returns `Ok`. -/
theorem batchInto_counts {T : Type} {recvAny : System W → Outcome (Option T) × System W}
    (hrecv : ∀ s, Counts 0 0 (delivered (recvAny s).1) s.context.metrics
      (recvAny s).2.context.metrics)
    (maxPackets : Nat) (s : System W) :
    let batch := batchInto recvAny maxPackets [] s
    Counts 1 (if batch.1.isOk then batch.2.1.length else 0) batch.2.1.length s.context.metrics
      batch.2.2.context.metrics := by
  have hcall : Counts 1 0 0 s.context.metrics
      (withMetrics s s.context.metrics.recordBatchCall).context.metrics := ⟨rfl, rfl, rfl⟩
  rw [batchInto, batchIntoImpl]
  cases hloop : batchLoop recvAny maxPackets 0 []
      (withMetrics s s.context.metrics.recordBatchCall) with
  | mk result rest =>
    obtain ⟨out, s₁⟩ := rest
    obtain ⟨appended, hlength, hcounts, hcount⟩ := batchLoop_counts hrecv hloop
    rw [List.length_nil, Nat.zero_add] at hlength
    have hboth : Counts 1 0 out.length s.context.metrics s₁.context.metrics := by
      simpa only [Nat.add_zero, Nat.zero_add, hlength] using hcall.trans hcounts
    cases result with
    | ok received =>
      have hreceived : received = out.length := by rw [hcount received rfl, Nat.zero_add, hlength]
      have hrecord : Counts 0 out.length 0 s₁.context.metrics
          (withMetrics s₁
            (s₁.context.metrics.recordBatchPacketsReceived received)).context.metrics :=
        ⟨rfl, congrArg (s₁.context.metrics.batchPacketsReceived.added + ·) hreceived, rfl⟩
      have hall := hboth.trans hrecord
      rwa [Nat.add_zero, Nat.zero_add, Nat.add_zero] at hall
    | err _ => exact hboth
    | panic => exact hboth

/-! ## Calls that receive nothing -/

theorem addWith_counts (config : SubscriptionConfig)
    (openSocket : W → Except McrxError ReceiveSocket × W) (s : System W) :
    Counts 0 0 0 s.context.metrics (addWith config openSocket s).2.context.metrics := by
  unfold addWith
  split
  · exact .refl _
  · split
    · exact .refl _
    · split
      · exact .refl _
      · exact ⟨rfl, rfl, rfl⟩

theorem takeSubscription_counts (id : SubscriptionId) (c : Context) :
    Counts 0 0 0 c.metrics (takeSubscription id c).2.metrics := by
  unfold takeSubscription
  split
  · exact .refl _
  · split
    · exact .refl _
    · next removed c' hfinish =>
      rw [finishSubscriptionRemoval] at hfinish
      split at hfinish
      · cases hfinish
      · cases hfinish
        exact ⟨rfl, rfl, rfl⟩

theorem joinSubscription_counts (id : SubscriptionId) (s : System W) :
    Counts 0 0 0 s.context.metrics (joinSubscription os id s).2.context.metrics := by
  simp only [joinSubscription]
  split
  · exact .refl _
  · split
    · exact .refl _
    · split
      · exact .refl _
      · split <;> exact ⟨rfl, rfl, rfl⟩

theorem leaveSubscription_counts (id : SubscriptionId) (s : System W) :
    Counts 0 0 0 s.context.metrics (leaveSubscription os id s).2.context.metrics := by
  simp only [leaveSubscription]
  split
  · exact .refl _
  · split
    · exact .refl _
    · split
      · exact .refl _
      · split <;> exact ⟨rfl, rfl, rfl⟩

/-! ## Every call -/

def Operation.isBatch : Operation → Bool
  | .tryRecvBatchInto _ => true
  | .tryRecvBatchWithMetadataInto _ => true
  | .tryRecvAllInto => true
  | .tryRecvAllWithMetadataInto => true
  | _ => false

/-- The packets that the call appended to the vector of its caller. -/
def Response.appended (response : Response) : Nat :=
  response.packets.length + response.packetsWithMetadata.length

/-- The packets that the call returned by themselves. -/
def Response.returned (response : Response) : Nat :=
  match response.outcome with
  | .ok (.packet packet) => delivered (.ok packet)
  | .ok (.packetWithMetadata packet) => delivered (.ok packet)
  | _ => 0

/-- The packets that a batch appended before a receive error ended it. -/
def Response.lost (response : Response) : Nat :=
  if response.outcome.isOk then 0 else response.appended

theorem Response.lost_add_counted (response : Response) :
    response.lost + (if response.outcome.isOk then response.appended else 0) =
      response.appended := by
  rw [Response.lost]
  split
  · exact Nat.zero_add _
  · rfl

theorem isOk_map {α β : Type} (f : α → β) (outcome : Outcome α) :
    (outcome.map f).isOk = outcome.isOk := by
  cases outcome <;> rfl

def Counted (operation : Operation) (response : Response)
    (metrics metrics' : ContextMetricsInner) : Prop :=
  Counts (if operation.isBatch then 1 else 0)
    (if response.outcome.isOk then response.appended else 0)
    (response.appended + response.returned) metrics metrics'

theorem returned_eq_zero {α : Type} {answer : α → Answer}
    (hanswer : ∀ a, (Response.of (.ok (answer a))).returned = 0) (outcome : Outcome α) :
    (Response.of (outcome.map answer)).returned = 0 := by
  cases outcome with
  | ok a => exact hanswer a
  | err _ => rfl
  | panic => rfl

/-- A call that is no batch appends nothing. -/
theorem counted_of {operation : Operation} {outcome : Outcome Answer} {returned : Nat}
    {metrics metrics' : ContextMetricsInner} (h : Counts 0 0 returned metrics metrics')
    (hbatch : operation.isBatch = false) (hreturned : (Response.of outcome).returned = returned) :
    Counted operation (.of outcome) metrics metrics' := by
  rw [Counted, hbatch, hreturned]
  show Counts 0 (if _ then 0 else 0) (0 + returned) metrics metrics'
  rwa [ite_self, Nat.zero_add]

theorem counted_batch {T : Type} {operation : Operation} {response : Response}
    {batch : Outcome Nat × List T × System W} {metrics : ContextMetricsInner}
    (h : Counts 1 (if batch.1.isOk then batch.2.1.length else 0) batch.2.1.length metrics
      batch.2.2.context.metrics) (hbatch : operation.isBatch = true)
    (houtcome : response.outcome = batch.1.map .received)
    (happended : response.appended = batch.2.1.length) :
    Counted operation response metrics batch.2.2.context.metrics := by
  have hreturned : response.returned = 0 := by
    rw [Response.returned, houtcome]
    cases batch.1 <;> rfl
  rw [Counted, hbatch, hreturned, houtcome, isOk_map, happended]
  exact h

variable (os) in
theorem step_counted (operation : Operation) (s : System W) :
    Counted operation (step os operation s).1 s.context.metrics
      (step os operation s).2.context.metrics := by
  cases operation with
  | addSubscription config =>
    exact counted_of (addWith_counts config (openBoundSocket os config) { s with sweeps := [] }) rfl
      (returned_eq_zero (fun _ => rfl) _)
  | addSubscriptionWithSocket config socket =>
    exact counted_of
      (addWith_counts config (prepareExistingSocket os socket config) { s with sweeps := [] }) rfl
      (returned_eq_zero (fun _ => rfl) _)
  | removeSubscription id | takeSubscription id =>
    exact counted_of (takeSubscription_counts id s.context) rfl (returned_eq_zero (fun _ => rfl) _)
  | joinSubscription id =>
    exact counted_of (@joinSubscription_counts W os id { s with sweeps := [] }) rfl
      (returned_eq_zero (fun _ => rfl) _)
  | leaveSubscription id =>
    exact counted_of (@leaveSubscription_counts W os id { s with sweeps := [] }) rfl
      (returned_eq_zero (fun _ => rfl) _)
  | tryRecvAny =>
    refine counted_of (tryRecvFromJoined_counts _ _ { s with sweeps := [] }) rfl ?_
    show (Response.of ((tryRecvAny os { s with sweeps := [] }).1.map .packet)).returned =
      delivered (tryRecvAny os { s with sweeps := [] }).1
    cases (tryRecvAny os { s with sweeps := [] }).1 <;> rfl
  | tryRecvAnyWithMetadata =>
    refine counted_of (tryRecvFromJoined_counts _ _ { s with sweeps := [] }) rfl ?_
    show (Response.of ((tryRecvAnyWithMetadata os
      { s with sweeps := [] }).1.map .packetWithMetadata)).returned =
        delivered (tryRecvAnyWithMetadata os { s with sweeps := [] }).1
    cases (tryRecvAnyWithMetadata os { s with sweeps := [] }).1 <;> rfl
  | tryRecvBatchInto maxPackets =>
    exact counted_batch (batchInto_counts (tryRecvFromJoined_counts _ _) maxPackets
      { s with sweeps := [] }) rfl rfl rfl
  | tryRecvBatchWithMetadataInto maxPackets =>
    exact counted_batch (batchInto_counts (tryRecvFromJoined_counts _ _) maxPackets
      { s with sweeps := [] }) rfl rfl (Nat.zero_add _)
  | tryRecvAllInto =>
    exact counted_batch (batchInto_counts (tryRecvFromJoined_counts _ _) MAX_DRAIN_PACKETS_PER_CALL
      { s with sweeps := [] }) rfl rfl rfl
  | tryRecvAllWithMetadataInto =>
    exact counted_batch (batchInto_counts (tryRecvFromJoined_counts _ _) MAX_DRAIN_PACKETS_PER_CALL
      { s with sweeps := [] }) rfl rfl (Nat.zero_add _)

/-! ## Runs -/

def appended (calls : List (Call W)) : Nat := (calls.map fun call => call.response.appended).sum

def returned (calls : List (Call W)) : Nat := (calls.map fun call => call.response.returned).sum

/-- The packets that batches appended before a receive error ended them. -/
def lost (calls : List (Call W)) : Nat := (calls.map fun call => call.response.lost).sum

def batches (calls : List (Call W)) : Nat := calls.countP fun call => call.action.isBatch

/-- The counters after some calls: the lost packets are those that no batch counted. -/
structure Totals (calls : List (Call W)) (s : System W) : Prop where
  batches : s.context.metrics.batchCalls.added = batches calls
  counted : s.context.metrics.batchPacketsReceived.added + lost calls = appended calls
  received : s.context.metrics.totalPacketsReceived.added = appended calls + returned calls

theorem sum_append_call (f : Response → Nat) (calls : List (Call W)) (operation : Operation)
    (s : System W) :
    ((calls ++ [Journal.call (step os) operation s]).map fun call => f call.response).sum =
      (calls.map fun call => f call.response).sum + f (step os operation s).1 := by
  rw [List.map_append, List.sum_append, List.map_singleton, List.sum_singleton]
  rfl

theorem Totals.step {calls : List (Call W)} {s : System W} (h : Totals calls s)
    (operation : Operation) :
    Totals (calls ++ [Journal.call (Context.step os) operation s])
      (Context.step os operation s).2 := by
  have hcounts : Counts _ _ _ _ _ := step_counted os operation s
  refine ⟨?_, ?_, ?_⟩
  · rw [hcounts.batches, h.batches, Context.batches, Context.batches, List.countP_append,
      List.countP_singleton]
    rfl
  · have hsplit := (Context.step os operation s).1.lost_add_counted
    have hold := h.counted
    rw [hcounts.counted, lost, appended, sum_append_call, sum_append_call]
    unfold lost appended at hold
    omega
  · have hold := h.received
    rw [hcounts.received, appended, returned, sum_append_call, sum_append_call]
    unfold appended returned at hold
    omega

theorem totals_calls (os : UdpSystem W) (operations : List Operation) (w : W) :
    Totals (Journal.calls (step os) operations (start w))
      (Journal.final (step os) operations (start w)) :=
  @Journal.invariant _ _ _ (step os) Totals (fun _ => True)
    (fun _ _ operation _ h => h.step operation) operations (fun _ _ => trivial) [] (start w)
    ⟨rfl, rfl, rfl⟩

/-- The snapshot counts every batch call and every packet of a batch, up to the width of
the counters. -/
structure BatchesCounted (calls : List (Call W)) (snapshot : ContextMetricsSnapshot) : Prop where
  packets : snapshot.batchPacketsReceived = appended calls % 2 ^ 64
  batches : snapshot.batchCalls = batches calls % 2 ^ 64
  total : (snapshot.batchPacketsReceived + returned calls) % 2 ^ 64 = snapshot.totalPacketsReceived

theorem Totals.batchesCounted_iff {calls : List (Call W)} {s : System W} (h : Totals calls s) :
    BatchesCounted calls s.context.metricsSnapshot ↔ 2 ^ 64 ∣ lost calls := by
  obtain ⟨hbatches, hcounted, hreceived⟩ := h
  constructor
  · intro h
    have hpackets : _ % 2 ^ 64 = appended calls % 2 ^ 64 := h.packets
    omega
  · intro hlost
    refine ⟨?_, congrArg (· % 2 ^ 64) hbatches, ?_⟩
    · show _ % 2 ^ 64 = appended calls % 2 ^ 64
      omega
    · show (_ % 2 ^ 64 + returned calls) % 2 ^ 64 = _ % 2 ^ 64
      omega

theorem lost_eq_zero_iff {calls : List (Call W)} :
    lost calls = 0 ↔ ∀ call ∈ calls, call.response.outcome.isOk = false →
      call.response.appended = 0 := by
  rw [lost, List.sum_eq_zero_iff, List.forall_mem_map]
  refine forall₂_congr fun call _ => ?_
  rw [Response.lost]
  cases call.response.outcome.isOk with
  | true => exact ⟨fun _ h => (by cases h), fun _ => rfl⟩
  | false => exact ⟨fun h _ => h, fun h => h rfl⟩

/-- After every run the snapshot counts its batches exactly if they lost a multiple of what
the counters hold; below that, if no batch failed after it had appended a packet. -/
theorem batches_counted_iff (os : UdpSystem W) (w : W) (operations : List Operation) :
    let calls := Journal.calls (step os) operations (start w)
    let snapshot := (Journal.final (step os) operations (start w)).context.metricsSnapshot
    (BatchesCounted calls snapshot ↔ 2 ^ 64 ∣ lost calls) ∧
      (appended calls < 2 ^ 64 →
        (BatchesCounted calls snapshot ↔
          ∀ call ∈ calls, call.response.outcome.isOk = false → call.response.appended = 0)) := by
  intro calls snapshot
  have htotals : Totals calls (Journal.final (step os) operations (start w)) :=
    totals_calls os operations w
  refine ⟨htotals.batchesCounted_iff, fun hbound => ?_⟩
  have hle : lost calls ≤ appended calls := htotals.counted ▸ Nat.le_add_left _ _
  rw [htotals.batchesCounted_iff, ← lost_eq_zero_iff]
  exact ⟨fun hdvd => Nat.eq_zero_of_dvd_of_lt hdvd (Nat.lt_of_le_of_lt hle hbound),
    fun hzero => hzero ▸ Nat.dvd_zero _⟩

/-- Both subscriptions have packets, and the batch takes three. -/
def readyRun : List Operation :=
  fairHistory ++ [.tryRecvBatchInto 3, .tryRecvAny, .tryRecvBatchWithMetadataInto 1]

theorem batches_counted_ready :
    BatchesCounted (Journal.calls (step (twoSockets readyDatagram readyDatagram))
      readyRun (start 0))
      (Journal.final (step (twoSockets readyDatagram readyDatagram)) readyRun
        (start 0)).context.metricsSnapshot :=
  ((batches_counted_iff (twoSockets readyDatagram readyDatagram) 0 readyRun).2 (by decide)).mpr
    (by decide)

/-- The batch appends the packet of the first subscription and then fails on the second one:
the packet is in the total, and neither a batch nor a single receive counts it. -/
theorem failed_batch_not_counted :
    let os := twoSockets readyDatagram (.failed ⟨12⟩)
    let calls := Journal.calls (step os) (fairHistory ++ [.tryRecvBatchInto 8]) (start 0)
    let snapshot :=
      (Journal.final (step os) (fairHistory ++ [.tryRecvBatchInto 8])
        (start 0)).context.metricsSnapshot
    appended calls = 1 ∧ returned calls = 0 ∧ snapshot.totalPacketsReceived = 1 ∧
      snapshot.batchPacketsReceived = 0 ∧ ¬ BatchesCounted calls snapshot := by
  refine ⟨by decide, by decide, by decide, by decide, fun h => ?_⟩
  exact absurd h.packets (by decide)

end Context

end McrxCore
