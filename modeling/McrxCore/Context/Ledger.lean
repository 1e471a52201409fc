import McrxCore.Context.Invariant

/-!
# The metrics ledger of the context

The context and its subscriptions count the same events in different functions.  A ledger
keeps them together: every call books the same amounts on both sides.
-/

namespace McrxCore

/-- The counters that a subscription and its context both have. -/
inductive SharedCounter where
  | packetsReceived
  | bytesReceived
  | wouldBlockCount
  | receiveErrors
  | joinCount
  | leaveCount
  deriving DecidableEq, Repr

inductive ContextCounter where
  | subscriptionsAdded
  | subscriptionsRemoved
  | total (counter : SharedCounter)
  | batchCalls
  | batchPacketsReceived
  deriving DecidableEq, Repr

def SubscriptionMetricsInner.counter (metrics : SubscriptionMetricsInner) :
    SharedCounter → AtomicU64
  | .packetsReceived => metrics.packetsReceived
  | .bytesReceived => metrics.bytesReceived
  | .wouldBlockCount => metrics.wouldBlockCount
  | .receiveErrors => metrics.receiveErrors
  | .joinCount => metrics.joinCount
  | .leaveCount => metrics.leaveCount

def ContextMetricsInner.counter (metrics : ContextMetricsInner) : ContextCounter → AtomicU64
  | .subscriptionsAdded => metrics.subscriptionsAdded
  | .subscriptionsRemoved => metrics.subscriptionsRemoved
  | .total .packetsReceived => metrics.totalPacketsReceived
  | .total .bytesReceived => metrics.totalBytesReceived
  | .total .wouldBlockCount => metrics.totalWouldBlockCount
  | .total .receiveErrors => metrics.totalReceiveErrors
  | .total .joinCount => metrics.totalJoinCount
  | .total .leaveCount => metrics.totalLeaveCount
  | .batchCalls => metrics.batchCalls
  | .batchPacketsReceived => metrics.batchPacketsReceived

def ContextMetricsSnapshot.counter (snapshot : ContextMetricsSnapshot) : ContextCounter → Nat
  | .subscriptionsAdded => snapshot.subscriptionsAdded
  | .subscriptionsRemoved => snapshot.subscriptionsRemoved
  | .total .packetsReceived => snapshot.totalPacketsReceived
  | .total .bytesReceived => snapshot.totalBytesReceived
  | .total .wouldBlockCount => snapshot.totalWouldBlockCount
  | .total .receiveErrors => snapshot.totalReceiveErrors
  | .total .joinCount => snapshot.totalJoinCount
  | .total .leaveCount => snapshot.totalLeaveCount
  | .batchCalls => snapshot.batchCalls
  | .batchPacketsReceived => snapshot.batchPacketsReceived

theorem metricsSnapshot_counter (c : Context) (k : ContextCounter) :
    c.metricsSnapshot.counter k = (c.metrics.counter k).load := by
  match k with
  | .total k => cases k <;> rfl
  | .subscriptionsAdded | .subscriptionsRemoved | .batchCalls | .batchPacketsReceived => rfl

/-! ## The ledger -/

def Subscription.booked (k : SharedCounter) (subscription : Subscription) : Nat :=
  (subscription.metrics.counter k).added

/-- The joins of the subscription that a leave has not ended. -/
def Subscription.Settled (subscription : Subscription) : Prop :=
  subscription.booked .joinCount =
    subscription.booked .leaveCount + if subscription.isJoined then 1 else 0

/-- The accounts of the subscriptions in the context and of those that left it: every
identifier ever handed out is that of one of them. -/
structure Ledger (handed : List SubscriptionId) (departed active : List Subscription)
    (metrics : ContextMetricsInner) : Prop where
  members : handed.Perm ((departed ++ active).map Subscription.id)
  added : metrics.subscriptionsAdded.added = handed.length
  removed : metrics.subscriptionsRemoved.added = departed.length
  totals : ∀ k, (metrics.counter (.total k)).added =
    ((departed ++ active).map (Subscription.booked k)).sum
  settled : ∀ subscription ∈ departed ++ active, subscription.Settled

theorem ledger_new : Ledger [] [] [] .default where
  members := .nil
  added := rfl
  removed := rfl
  totals := fun k => by cases k <;> rfl
  settled := fun _ h => absurd h List.not_mem_nil

/-- No counter of the context is less than before. -/
def ContextMetricsInner.Grows (metrics metrics' : ContextMetricsInner) : Prop :=
  ∀ k, (metrics.counter k).added ≤ (metrics'.counter k).added

theorem ContextMetricsInner.Grows.refl (metrics : ContextMetricsInner) : metrics.Grows metrics :=
  fun _ => Nat.le_refl _

theorem ContextMetricsInner.Grows.trans {metrics metrics₁ metrics₂ : ContextMetricsInner}
    (h : metrics.Grows metrics₁) (hnext : metrics₁.Grows metrics₂) : metrics.Grows metrics₂ :=
  fun k => (h k).trans (hnext k)

/-- The subscription and the context counted the same events, and nothing else. -/
structure Recorded (subscription updated : Subscription) (metrics metrics' : ContextMetricsInner) :
    Prop where
  id : updated.id = subscription.id
  settled : subscription.Settled → updated.Settled
  amounts : ∃ amount : SharedCounter → Nat, ∀ k,
    updated.booked k = subscription.booked k + amount k ∧
    (metrics'.counter (.total k)).added = (metrics.counter (.total k)).added + amount k
  others : ∀ k, (∀ shared, k ≠ .total shared) → metrics'.counter k = metrics.counter k

/-- The counters that no subscription has. -/
theorem others_eq {metrics metrics' : ContextMetricsInner}
    (hadded : metrics'.subscriptionsAdded = metrics.subscriptionsAdded)
    (hremoved : metrics'.subscriptionsRemoved = metrics.subscriptionsRemoved)
    (hcalls : metrics'.batchCalls = metrics.batchCalls)
    (hpackets : metrics'.batchPacketsReceived = metrics.batchPacketsReceived) (k : ContextCounter)
    (hk : ∀ shared, k ≠ .total shared) : metrics'.counter k = metrics.counter k := by
  cases k with
  | subscriptionsAdded => exact hadded
  | subscriptionsRemoved => exact hremoved
  | total shared => exact absurd rfl (hk shared)
  | batchCalls => exact hcalls
  | batchPacketsReceived => exact hpackets

theorem Recorded.grows {subscription updated : Subscription}
    {metrics metrics' : ContextMetricsInner}
    (h : Recorded subscription updated metrics metrics') : metrics.Grows metrics' := by
  obtain ⟨amount, hamount⟩ := h.amounts
  intro k
  by_cases hk : ∃ shared, k = .total shared
  · obtain ⟨shared, rfl⟩ := hk
    exact (hamount shared).2 ▸ Nat.le_add_right _ _
  · exact (congrArg AtomicU64.added (h.others k fun shared heq => hk ⟨shared, heq⟩)).ge

/-- What the snapshot says of the subscriptions in the context and of those that left. -/
structure Balances (departed : List Subscription) (c : Context) : Prop where
  totals : ∀ k, c.metricsSnapshot.counter (.total k) =
    ((departed ++ c.subscriptions).map fun subscription =>
      (subscription.metrics.counter k).load).sum
  active : c.metricsSnapshot.subscriptionsAdded =
    c.metricsSnapshot.subscriptionsRemoved + c.metricsSnapshot.activeSubscriptions
  joined : c.metricsSnapshot.totalJoinCount =
    c.metricsSnapshot.totalLeaveCount + c.metricsSnapshot.joinedSubscriptions +
      departed.countP Subscription.isJoined

section Ledger

variable {handed : List SubscriptionId} {departed active : List Subscription}
  {metrics metrics' : ContextMetricsInner}

/-- Events of one subscription, which stays where it is. -/
theorem Ledger.record {before rest : List Subscription} {subscription updated : Subscription}
    (h : Ledger handed departed (before ++ subscription :: rest) metrics)
    (hrecorded : Recorded subscription updated metrics metrics') :
    Ledger handed departed (before ++ updated :: rest) metrics' := by
  obtain ⟨amount, hamount⟩ := hrecorded.amounts
  have hold : subscription ∈ departed ++ (before ++ subscription :: rest) :=
    List.mem_append_right _ (List.mem_append_right _ List.mem_cons_self)
  refine ⟨?_, ?_, ?_, fun k => ?_, fun other hother => ?_⟩
  · have hmembers := h.members
    rw [List.map_append, List.map_append, List.map_cons, ← hrecorded.id] at hmembers
    rwa [List.map_append, List.map_append, List.map_cons]
  · rw [← h.added]
    exact congrArg AtomicU64.added (hrecorded.others .subscriptionsAdded nofun)
  · rw [← h.removed]
    exact congrArg AtomicU64.added (hrecorded.others .subscriptionsRemoved nofun)
  · have htotal := h.totals k
    obtain ⟨hsub, hctx⟩ := hamount k
    simp only [List.map_append, List.map_cons, List.sum_append, List.sum_cons] at htotal ⊢
    omega
  · rw [List.mem_append, List.mem_append, List.mem_cons] at hother
    rcases hother with hother | hother | rfl | hother
    · exact h.settled other (List.mem_append_left _ hother)
    · exact h.settled other (List.mem_append_right _ (List.mem_append_left _ hother))
    · exact hrecorded.settled (h.settled subscription hold)
    · exact h.settled other
        (List.mem_append_right _ (List.mem_append_right _ (List.mem_cons_of_mem _ hother)))

/-- A removal moves the subscription to those that left. -/
theorem Ledger.remove {rest : List Subscription} {removed : Subscription}
    (h : Ledger handed departed active metrics) (hperm : active.Perm (removed :: rest)) :
    Ledger handed (departed ++ [removed]) rest
      { metrics with subscriptionsRemoved := metrics.subscriptionsRemoved.fetchAdd 1 } := by
  have hall : (departed ++ active).Perm (departed ++ [removed] ++ rest) := by
    rw [List.append_assoc]
    exact hperm.append_left departed
  refine ⟨h.members.trans (hall.map _), h.added, ?_, fun k => ?_, fun other hother => ?_⟩
  · show metrics.subscriptionsRemoved.added + 1 = (departed ++ [removed]).length
    rw [h.removed, List.length_append, List.length_singleton]
  · rw [← (hall.map _).sum_eq, ← h.totals k]
    cases k <;> rfl
  · exact h.settled other (hall.mem_iff.mpr hother)

/-- Counters that the ledger is not about. -/
theorem Ledger.congr (h : Ledger handed departed active metrics)
    (hsame : ∀ k, k ≠ .batchCalls → k ≠ .batchPacketsReceived →
      metrics'.counter k = metrics.counter k) : Ledger handed departed active metrics' where
  members := h.members
  added := (congrArg AtomicU64.added (hsame .subscriptionsAdded nofun nofun)).trans h.added
  removed := (congrArg AtomicU64.added (hsame .subscriptionsRemoved nofun nofun)).trans h.removed
  totals := fun k => (congrArg AtomicU64.added (hsame (.total k) nofun nofun)).trans (h.totals k)
  settled := h.settled

theorem sum_settled {subscriptions : List Subscription}
    (h : ∀ subscription ∈ subscriptions, subscription.Settled) :
    (subscriptions.map (Subscription.booked .joinCount)).sum =
      (subscriptions.map (Subscription.booked .leaveCount)).sum +
        subscriptions.countP Subscription.isJoined := by
  induction subscriptions with
  | nil => rfl
  | cons subscription subscriptions ih =>
    have hfirst : subscription.Settled := h subscription List.mem_cons_self
    have hrest := ih fun other hother => h other (List.mem_cons_of_mem _ hother)
    rw [Subscription.Settled] at hfirst
    rw [List.map_cons, List.map_cons, List.sum_cons, List.sum_cons, List.countP_cons]
    omega

/-- Counters that have not wrapped show what was added to them. -/
theorem Ledger.balances {c : Context}
    (h : Ledger handed departed c.subscriptions c.metrics)
    (hno : ∀ k, (c.metrics.counter k).added < 2 ^ 64) : Balances departed c := by
  have hload : ∀ k, c.metricsSnapshot.counter k = (c.metrics.counter k).added := fun k =>
    (metricsSnapshot_counter c k).trans (Nat.mod_eq_of_lt (hno k))
  have hbooked : ∀ k, ∀ subscription ∈ departed ++ c.subscriptions,
      (subscription.metrics.counter k).load = subscription.booked k := by
    intro k subscription hmem
    refine Nat.mod_eq_of_lt (Nat.lt_of_le_of_lt ?_ (hno (.total k)))
    rw [h.totals k]
    exact List.le_sum_of_mem (List.mem_map_of_mem hmem)
  refine ⟨fun k => ?_, ?_, ?_⟩
  · rw [hload, h.totals k]
    exact congrArg List.sum (List.map_congr_left fun s hs => (hbooked k s hs).symm)
  · have hadded := (hload .subscriptionsAdded).trans h.added
    have hremoved := (hload .subscriptionsRemoved).trans h.removed
    have hmembers := h.members.length_eq
    rw [List.length_map, List.length_append] at hmembers
    show c.metricsSnapshot.counter .subscriptionsAdded =
      c.metricsSnapshot.counter .subscriptionsRemoved + c.subscriptions.length
    omega
  · have hjoins := (hload (.total .joinCount)).trans (h.totals .joinCount)
    have hleaves := (hload (.total .leaveCount)).trans (h.totals .leaveCount)
    have hsum := sum_settled h.settled
    rw [List.countP_append] at hsum
    show c.metricsSnapshot.counter (.total .joinCount) =
      c.metricsSnapshot.counter (.total .leaveCount) + c.subscriptions.countP _ + _
    omega

end Ledger

namespace Context

/-! ## One call -/

/-- The identifier that a call hands out. -/
def handed : Outcome Answer → Option SubscriptionId
  | .ok (.added id) => some id
  | _ => none

/-- The subscription that a call drops. -/
def Operation.departing (c : Context) : Operation → Option Subscription
  | .removeSubscription id => c.subscriptions.find? fun subscription => subscription.id == id
  | .takeSubscription id => c.subscriptions.find? fun subscription => subscription.id == id
  | _ => none

theorem handed_map {α : Type} (outcome : Outcome α) {answer : α → Answer}
    (h : ∀ a id, answer a ≠ .added id) : handed (outcome.map answer) = none := by
  match outcome with
  | .ok a =>
    show handed (.ok (answer a)) = none
    cases ha : answer a with
    | added id => exact absurd ha (h a id)
    | _ => rfl
  | .err _ => rfl
  | .panic => rfl

/-- A call books what it hands out and who leaves. -/
structure Posts (added : Option SubscriptionId) (gone : Option Subscription) (c c' : Context) :
    Prop where
  ledger : ∀ handed departed, Ledger handed departed c.subscriptions c.metrics →
    Ledger (handed ++ added.toList) (departed ++ gone.toList) c'.subscriptions c'.metrics
  grows : c.metrics.Grows c'.metrics

theorem Posts.quiet {c c' : Context} (hledger : ∀ handed departed,
      Ledger handed departed c.subscriptions c.metrics →
      Ledger handed departed c'.subscriptions c'.metrics)
    (hgrows : c.metrics.Grows c'.metrics) : Posts none none c c' where
  ledger := fun handed departed h => by
    rw [Option.toList_none, Option.toList_none, List.append_nil, List.append_nil]
    exact hledger handed departed h
  grows := hgrows

theorem Posts.refl (c : Context) : Posts none none c c := .quiet (fun _ _ h => h) (.refl _)

theorem Posts.trans {c c₁ c₂ : Context} (h : Posts none none c c₁) (hnext : Posts none none c₁ c₂) :
    Posts none none c c₂ := by
  refine .quiet (fun handed departed hledger => ?_) (h.grows.trans hnext.grows)
  have hfirst := h.ledger handed departed hledger
  have hsecond := hnext.ledger _ _ hfirst
  simpa only [Option.toList_none, List.append_nil] using hsecond

/-- A call whose answer hands out no identifier. -/
theorem Posts.answers {gone : Option Subscription} {c c' : Context} (h : Posts none gone c c')
    {α : Type} (outcome : Outcome α) (answer : α → Answer)
    (hanswer : ∀ a id, answer a ≠ .added id) :
    Posts (handed (outcome.map answer)) gone c c' := by
  rw [handed_map outcome hanswer]
  exact h

variable {W : Type} {os : UdpSystem W}

theorem insertSubscription_posts (config : SubscriptionConfig) (socket : ReceiveSocket)
    (c : Context) :
    Posts (some ⟨c.nextSubscriptionId⟩) none c (insertSubscription config socket c).2 where
  ledger := fun handed departed h => by
    rw [Option.toList_none, List.append_nil, Option.toList_some]
    -- The new subscription has counted nothing.
    have hfresh : ∀ k, (Subscription.fromReceiveSocket ⟨c.nextSubscriptionId⟩ config
        socket).booked k = 0 := fun k => by cases k <;> rfl
    refine ⟨?_, ?_, h.removed, fun k => ?_, fun other hother => ?_⟩
    · show (handed ++ [_]).Perm ((departed ++ (c.subscriptions ++ [_])).map Subscription.id)
      rw [← List.append_assoc, List.map_append]
      exact h.members.append_right _
    · show c.metrics.subscriptionsAdded.added + 1 = (handed ++ [_]).length
      rw [h.added, List.length_append, List.length_singleton]
    · have hsame : (insertSubscription config socket c).2.metrics.counter (.total k) =
          c.metrics.counter (.total k) := by cases k <;> rfl
      rw [hsame]
      show _ = ((departed ++ (c.subscriptions ++ [_])).map (Subscription.booked k)).sum
      rw [← List.append_assoc, List.map_append, List.sum_append, ← h.totals k, List.map_singleton,
        List.sum_singleton, hfresh, Nat.add_zero]
    · change other ∈ departed ++ (c.subscriptions ++ [_]) at hother
      rw [← List.append_assoc, List.mem_append, List.mem_singleton] at hother
      rcases hother with hother | rfl
      · exact h.settled other hother
      · rfl
  grows := fun k => by
    match k with
    | .subscriptionsAdded => exact Nat.le_succ _
    | .total k => cases k <;> exact Nat.le_refl _
    | .subscriptionsRemoved | .batchCalls | .batchPacketsReceived => exact Nat.le_refl _

theorem addWith_posts {config : SubscriptionConfig}
    {openSocket : W → Except McrxError ReceiveSocket × W} {s s' : System W}
    {outcome : Outcome SubscriptionId} (h : addWith config openSocket s = (outcome, s')) :
    Posts (handed (outcome.map .added)) none s.context s'.context := by
  unfold addWith at h
  split at h
  · cases h
    exact .refl _
  · split at h
    · cases h
      exact .refl _
    · split at h
      · cases h
        exact .refl _
      · cases h
        exact insertSubscription_posts _ _ _

theorem takeSubscription_posts {id : SubscriptionId} {c c' : Context}
    {outcome : Outcome (Option Subscription)} (h : takeSubscription id c = (outcome, c')) :
    Posts none (c.subscriptions.find? fun subscription => subscription.id == id) c c' := by
  have hfind := @List.find?_eq_bind_findIdx?_getElem? _ c.subscriptions
    (fun subscription => subscription.id == id)
  unfold takeSubscription at h
  split at h
  · next hnone =>
    cases h
    rw [hfind, hnone]
    exact .refl _
  · next index hindex =>
    obtain ⟨hlt, -, -⟩ := List.findIdx?_eq_some_iff_getElem.mp hindex
    obtain ⟨removed, rest, hremove, hget, hperm⟩ := Vec.swapRemove_perm hlt
    simp only [finishSubscriptionRemoval, hremove] at h
    cases h
    rw [hfind, hindex, Option.bind_some, hget]
    refine ⟨fun handed departed hledger => ?_, fun k => ?_⟩
    · rw [Option.toList_none, List.append_nil, Option.toList_some]
      exact hledger.remove hperm
    · cases k with
      | subscriptionsRemoved => exact Nat.le_succ _
      | total k => cases k <;> exact Nat.le_refl _
      | subscriptionsAdded | batchCalls | batchPacketsReceived => exact Nat.le_refl _

theorem removeSubscription_posts {id : SubscriptionId} {c c' : Context} {outcome : Outcome Bool}
    (h : removeSubscription id c = (outcome, c')) :
    Posts none (c.subscriptions.find? fun subscription => subscription.id == id) c c' := by
  cases htake : takeSubscription id c with
  | mk taken c₁ =>
    have hposts := takeSubscription_posts htake
    rw [removeSubscription, htake] at h
    cases h
    exact hposts

/-- Events of one subscription. -/
theorem posts_record {c c' : Context} {before rest : List Subscription}
    {subscription updated : Subscription}
    (hbefore : c.subscriptions = before ++ subscription :: rest)
    (hafter : c'.subscriptions = before ++ updated :: rest)
    (hrecorded : Recorded subscription updated c.metrics c'.metrics) : Posts none none c c' := by
  refine .quiet (fun handed departed h => ?_) hrecorded.grows
  rw [hbefore] at h
  rw [hafter]
  exact h.record hrecorded

/-- Events of the subscription that a join or a leave finds. -/
theorem posts_replaceFirst {id : SubscriptionId} {c : Context}
    {subscription updated : Subscription} {metrics : ContextMetricsInner}
    (hfind : c.subscriptions.find? (fun other => other.id == id) = some subscription)
    (hrecorded : Recorded subscription updated c.metrics metrics) :
    Posts none none c
      { c with
        subscriptions := Vec.replaceFirst (fun other => other.id == id) updated c.subscriptions
        metrics := metrics } := by
  obtain ⟨before, rest, hsplit, -, hreplace⟩ := Vec.find?_replaceFirst hfind
  exact posts_record hsplit (hreplace updated) hrecorded

theorem joinSubscription_posts {id : SubscriptionId} {s s' : System W} {outcome : Outcome Unit}
    (h : joinSubscription os id s = (outcome, s')) : Posts none none s.context s'.context := by
  simp only [joinSubscription] at h
  split at h
  · cases h
    exact .refl _
  · next subscription hfind =>
    split at h
    · cases h
      exact .refl _
    · next hjoined =>
      rw [Subscription.markJoined_eq hjoined] at h
      split at h
      · cases h
        exact .refl _
      · cases h
        refine posts_replaceFirst hfind ⟨rfl, fun hsettled => ?_, ?_, others_eq rfl rfl rfl rfl⟩
        · have hbooked : subscription.booked .joinCount = subscription.booked .leaveCount := by
            rw [hsettled, if_neg hjoined, Nat.add_zero]
          exact congrArg (· + 1) hbooked
        · refine ⟨fun k => if k = .joinCount then 1 else 0, fun k => ?_⟩
          cases k <;> exact ⟨rfl, rfl⟩

theorem leaveSubscription_posts {id : SubscriptionId} {s s' : System W} {outcome : Outcome Unit}
    (h : leaveSubscription os id s = (outcome, s')) : Posts none none s.context s'.context := by
  simp only [leaveSubscription] at h
  split at h
  · cases h
    exact .refl _
  · next subscription hfind =>
    split at h
    · cases h
      exact .refl _
    · next hjoined =>
      rw [Bool.not_eq_true, Bool.not_eq_false'] at hjoined
      rw [Subscription.markBound_eq hjoined] at h
      split at h
      · cases h
        exact .refl _
      · cases h
        refine posts_replaceFirst hfind ⟨rfl, fun hsettled => ?_, ?_, others_eq rfl rfl rfl rfl⟩
        · have hbooked : subscription.booked .joinCount = subscription.booked .leaveCount + 1 := by
            rw [hsettled, if_pos hjoined]
          exact hbooked
        · refine ⟨fun k => if k = .leaveCount then 1 else 0, fun k => ?_⟩
          cases k <;> exact ⟨rfl, rfl⟩

/-! ### Receiving -/

theorem recorded_receivedPacket (subscription : Subscription) (metrics : ContextMetricsInner)
    {packet : Packet} {payloadLen : Nat} (hlen : payloadLen = packet.payload.length) :
    Recorded subscription (subscription.recordReceivedPacket packet) metrics
      (metrics.recordReceivedPacket payloadLen) where
  id := rfl
  settled := id
  amounts := by
    subst hlen
    refine ⟨fun | .packetsReceived => 1 | .bytesReceived => packet.payload.length | _ => 0,
      fun k => ?_⟩
    cases k <;> exact ⟨rfl, rfl⟩
  others := others_eq rfl rfl rfl rfl

theorem recorded_wouldBlock (subscription : Subscription) (metrics : ContextMetricsInner) :
    Recorded subscription subscription.recordWouldBlock metrics metrics.recordWouldBlock where
  id := rfl
  settled := id
  amounts := by
    refine ⟨fun | .wouldBlockCount => 1 | _ => 0, fun k => ?_⟩
    cases k <;> exact ⟨rfl, rfl⟩
  others := others_eq rfl rfl rfl rfl

theorem recorded_receiveError (subscription : Subscription) (metrics : ContextMetricsInner) :
    Recorded subscription subscription.recordReceiveError metrics metrics.recordReceiveError where
  id := rfl
  settled := id
  amounts := by
    refine ⟨fun | .receiveErrors => 1 | _ => 0, fun k => ?_⟩
    cases k <;> exact ⟨rfl, rfl⟩
  others := others_eq rfl rfl rfl rfl

def Books {T : Type} (recv : Subscription → W → Except McrxError (Option T) × Subscription × W)
    (packetLen : T → Nat) : Prop :=
  ∀ subscription metrics w, subscription.isJoined = true →
    Recorded subscription (recvAndRecord recv packetLen subscription (metrics, w)).2.1 metrics
      (recvAndRecord recv packetLen subscription (metrics, w)).2.2.1

theorem books_receiveWith {T : Type}
    {recv : ReceiveSocket → SubscriptionId → SubscriptionConfig → W →
      Except McrxError (Option T) × W} {packetOf : T → Packet} {packetLen : T → Nat}
    (hlen : ∀ packet, packetLen packet = (packetOf packet).payload.length) :
    Books (Subscription.receiveWith recv packetOf) packetLen := by
  intro subscription metrics w hjoined
  have hready : ¬ (!subscription.isJoined) = true := by
    rw [hjoined]
    decide
  cases hrecv : recv subscription.socket subscription.id subscription.config w with
  | mk result w' =>
    simp only [recvAndRecord, Subscription.receiveWith, if_neg hready, hrecv]
    cases result with
    | ok received =>
      cases received with
      | some packet => exact recorded_receivedPacket subscription metrics (hlen packet)
      | none => exact recorded_wouldBlock subscription metrics
    | error _ => exact recorded_receiveError subscription metrics

/-- A scan books what its polls book. -/
theorem tryRecvFromJoined_posts {T : Type}
    {recv : Subscription → W → Except McrxError (Option T) × Subscription × W}
    {packetLen : T → Nat} (hbooks : Books recv packetLen) (s : System W) :
    Posts none none s.context (tryRecvFromJoined recv packetLen s).2.context := by
  let P : List Subscription → ContextMetricsInner × W → Prop := fun left state =>
    ∀ cursor, Posts none none s.context
      { s.context with subscriptions := left, nextRecvIndex := cursor, metrics := state.1 }
  have hpoll : ∀ left state index subscription, P left state →
      left[index]? = some subscription → subscription.isJoined = true →
      P (left.set index (recvAndRecord recv packetLen subscription state).2.1)
        (recvAndRecord recv packetLen subscription state).2.2 := by
    intro left state index subscription hleft hget hjoined cursor
    obtain ⟨before, rest, hsplit, hset⟩ := Vec.getElem?_set hget
    exact (hleft cursor).trans (posts_record hsplit (hset _)
      (hbooks subscription state.1 state.2 hjoined))
  have hscan := @RoundRobin.scanFrom_invariant _ _ _ _ Subscription.isJoined
    (recvAndRecord recv packetLen) P hpoll s.context.subscriptions.length s.context.nextRecvIndex
    s.context.subscriptions.length s.context.nextRecvIndex s.context.subscriptions
    (s.context.metrics, s.world) (fun _ => .quiet (fun _ _ h => h) (.refl _))
  exact hscan _

theorem withMetrics_posts {s : System W} {metrics : ContextMetricsInner}
    (hsame : ∀ k, k ≠ .batchCalls → k ≠ .batchPacketsReceived →
      metrics.counter k = s.context.metrics.counter k)
    (hgrows : s.context.metrics.Grows metrics) :
    Posts none none s.context (withMetrics s metrics).context :=
  .quiet (fun _ _ h => h.congr hsame) hgrows

theorem batchLoop_posts {T : Type} {recvAny : System W → Outcome (Option T) × System W}
    (hrecv : ∀ s, Posts none none s.context (recvAny s).2.context) {maxPackets received : Nat}
    {out : List T} {s : System W} :
    Posts none none s.context (batchLoop recvAny maxPackets received out s).2.2.context := by
  induction maxPackets generalizing received out s with
  | zero => exact .refl _
  | succ maxPackets ih =>
    have hfirst := hrecv s
    rw [batchLoop]
    cases hone : recvAny s with
    | mk first s₁ =>
      rw [hone] at hfirst
      cases first with
      | ok received =>
        cases received with
        | some packet => exact hfirst.trans ih
        | none => exact hfirst
      | err e => exact hfirst
      | panic => exact hfirst

theorem recordBatchCall_posts (s : System W) :
    Posts none none s.context (withMetrics s s.context.metrics.recordBatchCall).context := by
  refine withMetrics_posts (fun k hcalls hpackets => ?_) (fun k => ?_)
  · match k with
    | .total k => cases k <;> rfl
    | .subscriptionsAdded | .subscriptionsRemoved => rfl
    | .batchCalls => exact absurd rfl hcalls
    | .batchPacketsReceived => exact absurd rfl hpackets
  · match k with
    | .total k => cases k <;> exact Nat.le_refl _
    | .batchCalls => exact Nat.le_succ _
    | .subscriptionsAdded | .subscriptionsRemoved | .batchPacketsReceived => exact Nat.le_refl _

theorem recordBatchPacketsReceived_posts (s : System W) (received : Nat) :
    Posts none none s.context
      (withMetrics s (s.context.metrics.recordBatchPacketsReceived received)).context := by
  refine withMetrics_posts (fun k hcalls hpackets => ?_) (fun k => ?_)
  · match k with
    | .total k => cases k <;> rfl
    | .subscriptionsAdded | .subscriptionsRemoved => rfl
    | .batchCalls => exact absurd rfl hcalls
    | .batchPacketsReceived => exact absurd rfl hpackets
  · match k with
    | .total k => cases k <;> exact Nat.le_refl _
    | .batchPacketsReceived => exact Nat.le_add_right _ _
    | .subscriptionsAdded | .subscriptionsRemoved | .batchCalls => exact Nat.le_refl _

theorem batchInto_posts {T : Type} {recvAny : System W → Outcome (Option T) × System W}
    (hrecv : ∀ s, Posts none none s.context (recvAny s).2.context) (maxPackets : Nat)
    (out : List T) (s : System W) :
    Posts none none s.context (batchInto recvAny maxPackets out s).2.2.context := by
  have hloop := (recordBatchCall_posts s).trans (@batchLoop_posts _ _ _ hrecv maxPackets 0 out _)
  rw [batchInto, batchIntoImpl]
  cases hone : batchLoop recvAny maxPackets 0 out
      (withMetrics s s.context.metrics.recordBatchCall) with
  | mk result rest =>
    obtain ⟨out₁, s₁⟩ := rest
    rw [hone] at hloop
    cases result with
    | ok received => exact hloop.trans (recordBatchPacketsReceived_posts s₁ received)
    | err _ => exact hloop
    | panic => exact hloop

theorem tryRecvAny_posts (s : System W) :
    Posts none none s.context (tryRecvAny os s).2.context :=
  tryRecvFromJoined_posts (books_receiveWith fun _ => rfl) s

theorem tryRecvAnyWithMetadata_posts (s : System W) :
    Posts none none s.context (tryRecvAnyWithMetadata os s).2.context :=
  tryRecvFromJoined_posts (books_receiveWith fun _ => rfl) s

/-- Every call of the context. -/
theorem step_posts (operation : Operation) (s : System W) :
    Posts (handed (step os operation s).1.outcome) (operation.departing s.context) s.context
      (step os operation s).2.context := by
  cases operation with
  | addSubscription config => exact @addWith_posts W _ _ { s with sweeps := [] } _ _ rfl
  | addSubscriptionWithSocket config socket =>
    exact @addWith_posts W _ _ { s with sweeps := [] } _ _ rfl
  | removeSubscription id =>
    exact (@removeSubscription_posts id s.context _ _ rfl).answers _ .removed
      fun _ _ h => nomatch h
  | takeSubscription id =>
    exact (@takeSubscription_posts id s.context _ _ rfl).answers _ .taken fun _ _ h => nomatch h
  | joinSubscription id =>
    exact (@joinSubscription_posts W os id { s with sweeps := [] } _ _ rfl).answers _
      (fun _ => .joined) fun _ _ h => nomatch h
  | leaveSubscription id =>
    exact (@leaveSubscription_posts W os id { s with sweeps := [] } _ _ rfl).answers _
      (fun _ => .left) fun _ _ h => nomatch h
  | tryRecvAny =>
    exact (tryRecvAny_posts { s with sweeps := [] }).answers _ .packet fun _ _ h => nomatch h
  | tryRecvAnyWithMetadata =>
    exact (tryRecvAnyWithMetadata_posts { s with sweeps := [] }).answers _ .packetWithMetadata
      fun _ _ h => nomatch h
  | tryRecvBatchInto maxPackets =>
    exact (batchInto_posts tryRecvAny_posts maxPackets [] { s with sweeps := [] }).answers _
      .received fun _ _ h => nomatch h
  | tryRecvBatchWithMetadataInto maxPackets =>
    exact (batchInto_posts tryRecvAnyWithMetadata_posts maxPackets []
      { s with sweeps := [] }).answers _ .received fun _ _ h => nomatch h
  | tryRecvAllInto =>
    exact (batchInto_posts tryRecvAny_posts MAX_DRAIN_PACKETS_PER_CALL []
      { s with sweeps := [] }).answers _ .received fun _ _ h => nomatch h
  | tryRecvAllWithMetadataInto =>
    exact (batchInto_posts tryRecvAnyWithMetadata_posts MAX_DRAIN_PACKETS_PER_CALL []
      { s with sweeps := [] }).answers _ .received fun _ _ h => nomatch h

/-! ## Runs -/

def Call.handed (call : Call W) : Option SubscriptionId := Context.handed call.response.outcome

/-- The subscription that the call removed or handed to its caller. -/
def Call.departed (call : Call W) : Option Subscription :=
  call.action.departing call.before.context

structure Booked (calls : List (Call W)) (s : System W) : Prop where
  ledger : Ledger (calls.filterMap Call.handed) (calls.filterMap Call.departed)
    s.context.subscriptions s.context.metrics
  grows : ∀ call ∈ calls, call.before.context.metrics.Grows call.after.context.metrics ∧
    call.after.context.metrics.Grows s.context.metrics

theorem Booked.step {calls : List (Call W)} {s : System W} (h : Booked calls s)
    (operation : Operation) :
    Booked (calls ++ [Journal.call (Context.step os) operation s])
      (Context.step os operation s).2 := by
  have hposts := @step_posts W os operation s
  refine ⟨?_, fun call hcall => ?_⟩
  · have hledger := hposts.ledger _ _ h.ledger
    have hsingle : ∀ {α : Type} (f : Call W → Option α) (call : Call W),
        (calls ++ [call]).filterMap f = calls.filterMap f ++ (f call).toList := by
      intro α f call
      rw [List.filterMap_append, List.filterMap_cons]
      cases f call <;> rfl
    rw [hsingle, hsingle]
    exact hledger
  · rcases List.mem_append.mp hcall with hcall | hcall
    · obtain ⟨hcall, hlast⟩ := h.grows call hcall
      exact ⟨hcall, hlast.trans hposts.grows⟩
    · rw [List.mem_singleton.mp hcall]
      exact ⟨hposts.grows, .refl _⟩

theorem booked_calls (os : UdpSystem W) (operations : List Operation) (w : W) :
    Booked (Journal.calls (step os) operations (start w))
      (Journal.final (step os) operations (start w)) :=
  @Journal.invariant _ _ _ (step os) Booked (fun _ => True)
    (fun _ _ operation _ h => h.step operation) operations (fun _ _ => trivial) [] (start w)
    ⟨ledger_new, fun _ h => absurd h List.not_mem_nil⟩

/-- After every run in which no counter wraps, the snapshot agrees with the subscriptions
ever added, and no total of it was ever greater. -/
theorem metrics_agree_with_subscriptions (os : UdpSystem W) (w : W) (operations : List Operation)
    (hno : ∀ k, ((Journal.final (step os) operations (start w)).context.metrics.counter k).added <
      2 ^ 64) :
    let calls := Journal.calls (step os) operations (start w)
    let c := (Journal.final (step os) operations (start w)).context
    let departed := calls.filterMap Call.departed
    (calls.filterMap Call.handed).Perm ((departed ++ c.subscriptions).map Subscription.id) ∧
    Balances departed c ∧
    ∀ call ∈ calls, ∀ k,
      call.before.context.metricsSnapshot.counter k ≤
        call.after.context.metricsSnapshot.counter k := by
  intro calls c departed
  have hbooked := booked_calls os operations w
  refine ⟨hbooked.ledger.members, hbooked.ledger.balances hno, fun call hcall k => ?_⟩
  obtain ⟨hgrows, hlast⟩ := hbooked.grows call hcall
  have hafter : (call.after.context.metrics.counter k).added < 2 ^ 64 :=
    Nat.lt_of_le_of_lt (hlast k) (hno k)
  rw [metricsSnapshot_counter, metricsSnapshot_counter, AtomicU64.load, AtomicU64.load,
    Nat.mod_eq_of_lt hafter, Nat.mod_eq_of_lt (Nat.lt_of_le_of_lt (hgrows k) hafter)]
  exact hgrows k

/-- A subscription that is taken while joined, and one whose scans find nothing. -/
def ledgerRun : List Operation :=
  [.addSubscription (.asm (.v4 (.new 239 1 2 3)) 5000), .joinSubscription ⟨1⟩, .tryRecvAny,
    .takeSubscription ⟨1⟩, .addSubscription (.asm (.v4 (.new 239 1 2 4)) 5000),
    .joinSubscription ⟨2⟩, .tryRecvBatchInto 3]

theorem metrics_agree_with_subscriptions_taken :
    Balances
      ((Journal.calls (step quietSockets) ledgerRun (start ())).filterMap Call.departed)
      (Journal.final (step quietSockets) ledgerRun (start ())).context := by
  have hno : ∀ k, ((Journal.final (step quietSockets) ledgerRun
      (start ())).context.metrics.counter k).added < 2 ^ 64 := by
    intro k
    match k with
    | .total k => cases k <;> decide
    | .subscriptionsAdded | .subscriptionsRemoved | .batchCalls | .batchPacketsReceived => decide
  exact (metrics_agree_with_subscriptions quietSockets () ledgerRun hno).2.1

end Context

end McrxCore
