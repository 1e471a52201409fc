import McrxCore.Context.Ledger
import McrxCore.Platform.UdpReads

/-!
# The deliveries of the context

Every read of a socket belongs to one poll of a subscription, and a context that is asked
for packets returns what its polls found, in order.  Polls are booked once, beside the
reads, the packets and the counters that they explain.
-/

namespace McrxCore

/-- What a call may not change of a subscription that it polls. -/
def Subscription.profile (subscription : Subscription) :
    Member SubscriptionConfig × ReceiveSocket :=
  (subscription.member, subscription.socket)

structure Poll where
  subscription : Subscription
  reads : List RecvmsgResult
  result : Except McrxError (Option PacketWithMetadata)

namespace Poll

def packet (poll : Poll) : Option PacketWithMetadata := poll.result.toOption.join

def socketReads (poll : Poll) : List (Fd × RecvmsgResult) :=
  poll.reads.map (poll.subscription.socket.socket, ·)

/-- The packets that the reads of the poll have for its subscription. -/
def wanted (target : UnixTarget) (poll : Poll) : List PacketWithMetadata :=
  poll.reads.filterMap
    (packetOfRead target poll.subscription.socket poll.subscription.id poll.subscription.config)

/-- The subscription is joined, and the reads explain the result. -/
structure Sound (target : UnixTarget) (poll : Poll) : Prop where
  joined : poll.subscription.isJoined = true
  explained : Explained target poll.subscription.socket poll.subscription.id
    poll.subscription.config MAX_FILTERED_DATAGRAMS_PER_RECEIVE poll.reads poll.result

def amount (poll : Poll) : SharedCounter → Nat
  | .packetsReceived => poll.packet.toList.length
  | .bytesReceived => (poll.packet.toList.map fun found => found.packet.payload.length).sum
  | .wouldBlockCount => if poll.result = .ok none then 1 else 0
  | .receiveErrors => if poll.result.toOption = none then 1 else 0
  | .joinCount => 0
  | .leaveCount => 0

theorem Sound.packet {target : UnixTarget} {poll : Poll} (h : poll.Sound target) :
    poll.wanted target = poll.packet.toList := h.explained.packets

end Poll

namespace Context

variable {W T : Type}

/-! ## The state of polls -/

structure PollState (W : Type) where
  subscriptions : List Subscription
  metrics : ContextMetricsInner
  world : Traced W

def System.pollState (s : System (Traced W)) : PollState W :=
  { subscriptions := s.context.subscriptions, metrics := s.context.metrics, world := s.world }

def PollState.Ready (state : PollState W) : Prop :=
  ∀ subscription ∈ state.subscriptions, subscription.socket.Ready

/-- The polls, one after the other, lead from the state to later ones. -/
structure Polled (target : UnixTarget) (polls : List Poll) (before after : PollState W) : Prop where
  sound : ∀ poll ∈ polls, poll.Sound target
  polled : ∀ poll ∈ polls,
    poll.subscription.profile ∈ before.subscriptions.map Subscription.profile
  profiles :
    after.subscriptions.map Subscription.profile = before.subscriptions.map Subscription.profile
  reads : after.world.reads = before.world.reads ++ polls.flatMap Poll.socketReads
  totals : ∀ k, (after.metrics.counter (.total k)).added =
    (before.metrics.counter (.total k)).added + (polls.map fun poll => poll.amount k).sum

section Polled

variable {target : UnixTarget} {polls polls' : List Poll} {before middle after : PollState W}

theorem Polled.refl (target : UnixTarget) (state : PollState W) : Polled target [] state state where
  sound := fun _ h => absurd h List.not_mem_nil
  polled := fun _ h => absurd h List.not_mem_nil
  profiles := rfl
  reads := (List.append_nil _).symm
  totals := fun _ => rfl

theorem Polled.trans (h : Polled target polls before middle)
    (hnext : Polled target polls' middle after) :
    Polled target (polls ++ polls') before after where
  sound := by
    intro poll hpoll
    rcases List.mem_append.mp hpoll with hpoll | hpoll
    · exact h.sound poll hpoll
    · exact hnext.sound poll hpoll
  polled := by
    intro poll hpoll
    rcases List.mem_append.mp hpoll with hpoll | hpoll
    · exact h.polled poll hpoll
    · exact h.profiles ▸ hnext.polled poll hpoll
  profiles := hnext.profiles.trans h.profiles
  reads := by rw [hnext.reads, h.reads, List.flatMap_append, List.append_assoc]
  totals := by
    intro k
    rw [hnext.totals, h.totals, List.map_append, List.sum_append, Nat.add_assoc]

theorem Polled.ready (h : Polled target polls before after) (hready : before.Ready) :
    after.Ready := by
  intro subscription hmem
  have hprofile : subscription.profile ∈ before.subscriptions.map Subscription.profile :=
    h.profiles ▸ List.mem_map_of_mem hmem
  obtain ⟨other, hother, hsame⟩ := List.mem_map.mp hprofile
  have hsocket : other.socket = subscription.socket := congrArg Prod.snd hsame
  rw [← hsocket]
  exact hready other hother

/-- A call that does not poll may change the counters of batches. -/
theorem Polled.uncounted (h : Polled target polls before after) {metrics : ContextMetricsInner}
    (hsame : ∀ k, metrics.counter (.total k) = after.metrics.counter (.total k)) :
    Polled target polls before { after with metrics := metrics } :=
  { h with totals := fun k => (congrArg AtomicU64.added (hsame k)).trans (h.totals k) }

end Polled

/-! ## One poll -/

/-- The receive function of a subscription, which returns a view of the packet. -/
structure Polls (os : UdpSystem W)
    (recv : Subscription → Traced W → Except McrxError (Option T) × Subscription × Traced W)
    (packetLen : T → Nat) (view : PacketWithMetadata → T) : Prop where
  polled : ∀ subscription w, subscription.isJoined = true → subscription.socket.Ready →
    ∃ poll : Poll, poll.subscription = subscription ∧ poll.Sound os.target ∧
      (recv subscription w).1 = poll.result.map (·.map view) ∧
      (recv subscription w).2.2.reads = w.reads ++ poll.socketReads
  profile : ∀ subscription w, (recv subscription w).2.1.profile = subscription.profile
  len : ∀ packet, packetLen (view packet) = packet.packet.payload.length

theorem profile_receiveWith
    (recv : ReceiveSocket → SubscriptionId → SubscriptionConfig → Traced W →
      Except McrxError (Option T) × Traced W) (packetOf : T → Packet) (subscription : Subscription)
    (w : Traced W) :
    (Subscription.receiveWith recv packetOf subscription w).2.1.profile = subscription.profile := by
  unfold Subscription.receiveWith
  split
  · rfl
  · split <;> rfl

/-- A joined subscription returns what the platform function does. -/
theorem receiveWith_joined
    {recv : ReceiveSocket → SubscriptionId → SubscriptionConfig → Traced W →
      Except McrxError (Option T) × Traced W} {packetOf : T → Packet} {subscription : Subscription}
    (hjoined : subscription.isJoined = true) (w : Traced W) :
    (Subscription.receiveWith recv packetOf subscription w).1 =
        (recv subscription.socket subscription.id subscription.config w).1 ∧
      (Subscription.receiveWith recv packetOf subscription w).2.2 =
        (recv subscription.socket subscription.id subscription.config w).2 := by
  have hcheck : (!subscription.isJoined) = false := by rw [hjoined]; rfl
  simp only [Subscription.receiveWith, hcheck]
  rcases recv subscription.socket subscription.id subscription.config w with ⟨result, w'⟩
  cases result with
  | error e => exact ⟨rfl, rfl⟩
  | ok found => cases found <;> exact ⟨rfl, rfl⟩

theorem map_id_result {α : Type} (result : Except McrxError (Option α)) :
    result.map (fun found => found.map id) = result := by
  cases result with
  | error e => rfl
  | ok found => cases found <;> rfl

theorem polls_tryRecvWithMetadata (os : UdpSystem W) :
    Polls os (Subscription.tryRecvWithMetadata os.traced)
      (fun packet => packet.packet.payload.length) id where
  polled := by
    intro subscription w hjoined hready
    obtain ⟨reads, hexplained, hreads⟩ := recvPacketWithMetadata_explained subscription.id
      subscription.config os hready w
    obtain ⟨hresult, hworld⟩ := @receiveWith_joined _ _ (recvPacketWithMetadata os.traced)
      PacketWithMetadata.packet _ hjoined w
    refine ⟨⟨subscription, reads, _⟩, rfl, ⟨hjoined, hexplained⟩, ?_, ?_⟩
    · exact hresult.trans (map_id_result _).symm
    · rw [Subscription.tryRecvWithMetadata, hworld]
      exact hreads
  profile := fun subscription w => profile_receiveWith _ _ subscription w
  len := fun _ => rfl

theorem polls_tryRecv (os : UdpSystem W) :
    Polls os (Subscription.tryRecv os.traced) (fun packet => packet.payload.length)
      PacketWithMetadata.intoPacket where
  polled := by
    intro subscription w hjoined hready
    obtain ⟨reads, hexplained, hreads⟩ := recvPacketWithMetadata_explained subscription.id
      subscription.config os hready w
    obtain ⟨hresult, hworld⟩ := @receiveWith_joined _ _ (recvPacket os.traced)
      (fun packet => packet)
      _ hjoined w
    refine ⟨⟨subscription, reads, _⟩, rfl, ⟨hjoined, hexplained⟩, ?_, ?_⟩
    · exact hresult
    · rw [Subscription.tryRecv, hworld]
      exact hreads
  profile := fun subscription w => profile_receiveWith _ _ subscription w
  len := fun _ => rfl

/-- The context records what the subscription returned. -/
theorem recvAndRecord_total {recv : Subscription → Traced W →
      Except McrxError (Option T) × Subscription × Traced W}
    {packetLen : T → Nat} {view : PacketWithMetadata → T}
    (hlen : ∀ packet, packetLen (view packet) = packet.packet.payload.length) {poll : Poll}
    {metrics : ContextMetricsInner} {w : Traced W}
    (hresult : (recv poll.subscription w).1 = poll.result.map (·.map view)) (k : SharedCounter) :
    ((recvAndRecord recv packetLen poll.subscription (metrics, w)).2.2.1.counter
        (.total k)).added = (metrics.counter (.total k)).added + poll.amount k := by
  rcases poll with ⟨subscription, reads, result⟩
  simp only [recvAndRecord]
  rcases hrecv : recv subscription w with ⟨answer, updated, w'⟩
  rw [hrecv] at hresult
  cases result with
  | error e =>
    obtain rfl : answer = .error e := hresult
    cases k <;> rfl
  | ok found =>
    cases found with
    | none =>
      obtain rfl : answer = .ok none := hresult
      cases k <;> rfl
    | some packet =>
      obtain rfl : answer = .ok (some (view packet)) := hresult
      cases k with
      | bytesReceived =>
        show metrics.totalBytesReceived.added + packetLen (view packet) = _
        rw [hlen]
        rfl
      | packetsReceived => rfl
      | wouldBlockCount => rfl
      | receiveErrors => rfl
      | joinCount => rfl
      | leaveCount => rfl

/-- A poll of the scan is booked. -/
theorem recvAndRecord_polled {os : UdpSystem W}
    {recv : Subscription → Traced W → Except McrxError (Option T) × Subscription × Traced W}
    {packetLen : T → Nat} {view : PacketWithMetadata → T} (h : Polls os recv packetLen view)
    {subscriptions : List Subscription} {metrics : ContextMetricsInner} {w : Traced W} {index : Nat}
    {subscription : Subscription} (hget : subscriptions[index]? = some subscription)
    (hjoined : subscription.isJoined = true) (hready : subscription.socket.Ready) :
    let answer := recvAndRecord recv packetLen subscription (metrics, w)
    ∃ poll : Poll, answer.1 = poll.result.map (·.map view) ∧
      Polled os.target [poll] ⟨subscriptions, metrics, w⟩
        ⟨subscriptions.set index answer.2.1, answer.2.2.1, answer.2.2.2⟩ := by
  intro answer
  obtain ⟨poll, rfl, hsound, hresult, hreads⟩ := h.polled subscription w hjoined hready
  have hprofile := h.profile poll.subscription w
  have hanswer : answer.1 = (recv poll.subscription w).1 ∧
      answer.2.1 = (recv poll.subscription w).2.1 ∧
      answer.2.2.2 = (recv poll.subscription w).2.2 := by
    simp only [answer, recvAndRecord]
    split <;> rename_i heq <;> rw [heq] <;> exact ⟨rfl, rfl, rfl⟩
  refine ⟨poll, hanswer.1.trans hresult, ?_, ?_, ?_, ?_, ?_⟩
  · exact List.forall_mem_singleton.mpr hsound
  · exact List.forall_mem_singleton.mpr (List.mem_map_of_mem (List.mem_of_getElem? hget))
  · rw [hanswer.2.1]
    exact RoundRobin.map_set_eq Subscription.profile hget hprofile
  · rw [hanswer.2.2, hreads, List.flatMap_singleton]
  · intro k
    rw [List.map_singleton, List.sum_singleton, recvAndRecord_total h.len hresult k]

/-! ## Receiving -/

def received : Outcome (Option T) → List T
  | .ok found => found.toList
  | .err _ => []
  | .panic => []

def scanned (outcome : Option (Except McrxError (Option T))) : List T :=
  (outcome.bind Except.toOption).join.toList

theorem received_scanResult (outcome : Option (Except McrxError (Option (Nat × T)))) :
    received (scanResult outcome) =
      scanned (outcome.map fun result => result.map fun found => found.map Prod.snd) := by
  cases outcome with
  | none => rfl
  | some result => cases result <;> rfl

theorem scanned_map (result : Except McrxError (Option PacketWithMetadata))
    (view : PacketWithMetadata → T) :
    scanned (some (result.map fun found => found.map view)) =
      result.toOption.join.toList.map view := by
  cases result with
  | error e => rfl
  | ok found => cases found <;> rfl

theorem filterMap_packet_cons (poll : Poll) (polls : List Poll) :
    (poll :: polls).filterMap Poll.packet = poll.packet.toList ++ polls.filterMap Poll.packet :=
  filterMap_cons_toList _ _ _

/-- Polls lead from `s` to `s'` and found these packets. -/
def Reports (os : UdpSystem W) (view : PacketWithMetadata → T) (s : System (Traced W))
    (found : List T) (s' : System (Traced W)) : Prop :=
  s.pollState.Ready →
    ∃ polls, Polled os.target polls s.pollState s'.pollState ∧
      found = (polls.filterMap Poll.packet).map view

variable {os : UdpSystem W} {view : PacketWithMetadata → T}

/-- A scan polls until a poll decides its result. -/
theorem tryRecvFromJoined_reports
    {recv : Subscription → Traced W → Except McrxError (Option T) × Subscription × Traced W}
    {packetLen : T → Nat} (h : Polls os recv packetLen view) (s : System (Traced W)) :
    Reports os view s (received (tryRecvFromJoined recv packetLen s).1)
      (tryRecvFromJoined recv packetLen s).2 := by
  have hscan := @RoundRobin.scanFrom_rule _ _ _ _ Subscription.isJoined
    (recvAndRecord recv packetLen)
    (fun subscriptions state outcome subscriptions' state' =>
      (∀ subscription ∈ subscriptions, subscription.socket.Ready) →
        ∃ polls, Polled os.target polls ⟨subscriptions, state.1, state.2⟩
            ⟨subscriptions', state'.1, state'.2⟩ ∧
          scanned outcome = (polls.filterMap Poll.packet).map view)
    (fun _ _ _ => ⟨[], .refl _ _, rfl⟩) (fun _ _ _ => ⟨[], .refl _ _, rfl⟩)
    (by
      rintro subscriptions ⟨metrics, w⟩ index subscription hget hjoined - hready
      obtain ⟨poll, hresult, hpolled⟩ := recvAndRecord_polled h hget hjoined
        (hready subscription (List.mem_of_getElem? hget))
      refine ⟨[poll], hpolled, ?_⟩
      rw [hresult, scanned_map, filterMap_packet_cons, List.filterMap_nil, List.append_nil]
      rfl)
    (by
      rintro subscriptions ⟨metrics, w⟩ index subscription outcome subscriptions' state' hget
        hjoined hnothing hrest hready
      obtain ⟨poll, hresult, hpolled⟩ := recvAndRecord_polled h hget hjoined
        (hready subscription (List.mem_of_getElem? hget))
      obtain ⟨polls, hpolls, hfound⟩ := hrest (hpolled.ready hready)
      refine ⟨poll :: polls, hpolled.trans hpolls, ?_⟩
      -- The poll found nothing, so the packet is one of a later poll.
      have hempty : poll.packet.toList.map view = [] := by
        show poll.result.toOption.join.toList.map view = []
        rw [← scanned_map, ← hresult, hnothing]
        rfl
      rw [hfound, filterMap_packet_cons, List.map_append, hempty, List.nil_append])
    s.context.subscriptions.length s.context.nextRecvIndex s.context.subscriptions.length
    s.context.nextRecvIndex s.context.subscriptions (s.context.metrics, s.world)
  intro hready
  obtain ⟨polls, hpolled, hfound⟩ := hscan hready
  refine ⟨polls, hpolled, ?_⟩
  rw [← hfound]
  exact received_scanResult _

/-- The loop of a batch pushes what its receives found. -/
theorem batchLoop_reports {recvAny : System (Traced W) → Outcome (Option T) × System (Traced W)}
    (hrecv : ∀ s, Reports os view s (received (recvAny s).1) (recvAny s).2)
    (maxPackets count : Nat) (out : List T) (s : System (Traced W)) :
    ∃ found, (batchLoop recvAny maxPackets count out s).2.1 = out ++ found ∧
      Reports os view s found (batchLoop recvAny maxPackets count out s).2.2 := by
  induction maxPackets generalizing count out s with
  | zero => exact ⟨[], (List.append_nil _).symm, fun _ => ⟨[], .refl _ _, rfl⟩⟩
  | succ maxPackets ih =>
    have hone := hrecv s
    rw [batchLoop]
    rcases hcall : recvAny s with ⟨outcome, s₁⟩
    rw [hcall] at hone
    cases outcome with
    | err e => exact ⟨[], (List.append_nil _).symm, hone⟩
    | panic => exact ⟨[], (List.append_nil _).symm, hone⟩
    | ok result =>
      cases result with
      | none => exact ⟨[], (List.append_nil _).symm, hone⟩
      | some packet =>
        obtain ⟨found, hout, hrest⟩ := ih (count + 1) (out ++ [packet]) s₁
        refine ⟨packet :: found, ?_, fun hready => ?_⟩
        · rw [hout, List.append_assoc]
          rfl
        · obtain ⟨polls, hpolled, hpacket⟩ := hone hready
          obtain ⟨polls', hpolled', hfound⟩ := hrest (hpolled.ready hready)
          refine ⟨polls ++ polls', hpolled.trans hpolled', ?_⟩
          rw [List.filterMap_append, List.map_append, ← hpacket, ← hfound]
          rfl

theorem batchInto_reports {recvAny : System (Traced W) → Outcome (Option T) × System (Traced W)}
    (hrecv : ∀ s, Reports os view s (received (recvAny s).1) (recvAny s).2) (maxPackets : Nat)
    (s : System (Traced W)) :
    Reports os view s (batchInto recvAny maxPackets [] s).2.1
      (batchInto recvAny maxPackets [] s).2.2 := by
  obtain ⟨found, hout, hreports⟩ := batchLoop_reports hrecv maxPackets 0 []
    (withMetrics s s.context.metrics.recordBatchCall)
  intro hready
  obtain ⟨polls, hpolled, hfound⟩ := hreports hready
  have hfirst : Polled os.target polls s.pollState
      (batchLoop recvAny maxPackets 0 []
        (withMetrics s s.context.metrics.recordBatchCall)).2.2.pollState :=
    { hpolled with totals := fun k => (hpolled.totals k).trans (by cases k <;> rfl) }
  refine ⟨polls, ?_, ?_⟩
  · rw [batchInto, batchIntoImpl]
    rcases hloop : batchLoop recvAny maxPackets 0 []
      (withMetrics s s.context.metrics.recordBatchCall) with ⟨outcome, out, s'⟩
    rw [hloop] at hfirst
    cases outcome with
    | ok count => exact hfirst.uncounted fun k => by cases k <;> rfl
    | err e => exact hfirst
    | panic => exact hfirst
  · rw [← hfound, ← List.nil_append found, ← hout, batchInto, batchIntoImpl]
    rcases hloop : batchLoop recvAny maxPackets 0 []
      (withMetrics s s.context.metrics.recordBatchCall) with ⟨outcome, out, s'⟩
    cases outcome <;> rfl

/-! ## Calls that receive nothing -/

/-- A call that polls no subscription. -/
structure Quiet (before after : PollState W) : Prop where
  ready : before.Ready → after.Ready
  reads : after.world.reads = before.world.reads
  totals : ∀ k, k ≠ .joinCount → k ≠ .leaveCount →
    after.metrics.counter (.total k) = before.metrics.counter (.total k)

theorem Quiet.refl (state : PollState W) : Quiet state state := ⟨fun h => h, rfl, fun _ _ _ => rfl⟩

theorem addWith_quiet (config : SubscriptionConfig)
    {openSocket : Traced W → Except McrxError ReceiveSocket × Traced W}
    (hsilent : ReadsNothing openSocket)
    (hready : ∀ w socket w', openSocket w = (.ok socket, w') → socket.Ready)
    (s : System (Traced W)) : Quiet s.pollState (addWith config openSocket s).2.pollState := by
  have hreads := hsilent s.world
  unfold addWith
  split
  · exact .refl _
  · split
    · exact .refl _
    · split
      · rename_i heq
        rw [heq] at hreads
        exact ⟨fun h => h, hreads, fun _ _ _ => rfl⟩
      · rename_i socket w heq
        rw [heq] at hreads
        refine ⟨fun h => ?_, hreads, fun k _ _ => by cases k <;> rfl⟩
        intro subscription hmem
        rcases List.mem_append.mp hmem with hmem | hmem
        · exact h subscription hmem
        · rw [List.mem_singleton.mp hmem]
          exact hready _ _ _ heq

theorem takeSubscription_quiet (id : SubscriptionId) (s : System (Traced W)) :
    Quiet s.pollState
      (System.pollState { s with context := (takeSubscription id s.context).2 }) := by
  unfold takeSubscription
  split
  · exact .refl _
  · next index hindex =>
    obtain ⟨hlt, -, -⟩ := List.findIdx?_eq_some_iff_getElem.mp hindex
    obtain ⟨removed, rest, hremove, -, hperm⟩ := Vec.swapRemove_perm hlt
    simp only [finishSubscriptionRemoval, hremove]
    refine ⟨fun h subscription hmem => ?_, rfl, fun k _ _ => by cases k <;> rfl⟩
    exact h subscription (hperm.mem_iff.mpr (List.mem_cons_of_mem removed hmem))

/-- A subscription that is marked keeps its socket. -/
theorem ready_replaceFirst {id : SubscriptionId} {subscriptions : List Subscription}
    {subscription updated : Subscription}
    (hfind : subscriptions.find? (fun other => other.id == id) = some subscription)
    (hsocket : updated.socket = subscription.socket)
    (h : ∀ other ∈ subscriptions, other.socket.Ready) :
    ∀ other ∈ Vec.replaceFirst (fun other => other.id == id) updated subscriptions,
      other.socket.Ready := by
  intro other hmem
  rcases Vec.mem_of_mem_replaceFirst hmem with rfl | hmem
  · rw [hsocket]
    exact h subscription (List.mem_of_find?_eq_some hfind)
  · exact h other hmem

theorem joinSubscription_quiet (id : SubscriptionId) (s : System (Traced W)) :
    Quiet s.pollState (joinSubscription os.traced id s).2.pollState := by
  have hjoin : ∀ subscription : Subscription, (os.traced.joinMulticastGroup
      subscription.socket.socket subscription.config s.world).2.reads = s.world.reads :=
    fun _ => rfl
  simp only [joinSubscription]
  split
  · exact .refl _
  · next subscription hfind =>
    split
    · exact .refl _
    · next hjoined =>
      have hreads := hjoin subscription
      rw [Subscription.markJoined_eq hjoined]
      split
      · rename_i heq
        rw [heq] at hreads
        exact ⟨fun h => h, hreads, fun _ _ _ => rfl⟩
      · rename_i heq
        rw [heq] at hreads
        refine ⟨ready_replaceFirst hfind rfl, hreads, fun k hjoins _ => ?_⟩
        cases k with
        | joinCount => exact absurd rfl hjoins
        | packetsReceived => rfl
        | bytesReceived => rfl
        | wouldBlockCount => rfl
        | receiveErrors => rfl
        | leaveCount => rfl

theorem leaveSubscription_quiet (id : SubscriptionId) (s : System (Traced W)) :
    Quiet s.pollState (leaveSubscription os.traced id s).2.pollState := by
  have hleave : ∀ subscription : Subscription, (os.traced.leaveMulticastGroup
      subscription.socket.socket subscription.config s.world).2.reads = s.world.reads :=
    fun _ => rfl
  simp only [leaveSubscription]
  split
  · exact .refl _
  · next subscription hfind =>
    split
    · exact .refl _
    · next hjoined =>
      have hreads := hleave subscription
      rw [Bool.not_eq_true, Bool.not_eq_false'] at hjoined
      rw [Subscription.markBound_eq hjoined]
      split
      · rename_i heq
        rw [heq] at hreads
        exact ⟨fun h => h, hreads, fun _ _ _ => rfl⟩
      · rename_i heq
        rw [heq] at hreads
        refine ⟨ready_replaceFirst hfind rfl, hreads, fun k _ hleaves => ?_⟩
        cases k with
        | leaveCount => exact absurd rfl hleaves
        | packetsReceived => rfl
        | bytesReceived => rfl
        | wouldBlockCount => rfl
        | receiveErrors => rfl
        | joinCount => rfl

/-! ## Every call -/

/-- The packets that a call handed to its caller, with their metadata where it asked for
them. -/
def Response.handed (response : Response) : List (Packet × Option ReceiveMetadata) :=
  response.packets.map (·, none) ++
    response.packetsWithMetadata.map (fun found => (found.packet, some found.metadata)) ++
    match response.outcome with
    | .ok (.packet (some packet)) => [(packet, none)]
    | .ok (.packetWithMetadata (some found)) => [(found.packet, some found.metadata)]
    | _ => []

def Shows (handed : Packet × Option ReceiveMetadata) (found : PacketWithMetadata) : Prop :=
  handed.1 = found.packet ∧ ∀ metadata ∈ handed.2, metadata = found.metadata

/-- The polls of a call explain what it read, handed out and counted. -/
structure Explains (os : UdpSystem W) (polls : List Poll) (response : Response)
    (before after : PollState W) : Prop where
  ready : after.Ready
  sound : ∀ poll ∈ polls, poll.Sound os.target
  polled : ∀ poll ∈ polls,
    poll.subscription.profile ∈ before.subscriptions.map Subscription.profile
  reads : after.world.reads = before.world.reads ++ polls.flatMap Poll.socketReads
  handed : List.Forall₂ Shows response.handed (polls.filterMap Poll.packet)
  totals : ∀ k, k ≠ .joinCount → k ≠ .leaveCount → (after.metrics.counter (.total k)).added =
    (before.metrics.counter (.total k)).added + (polls.map fun poll => poll.amount k).sum

theorem Quiet.explains {before after : PollState W} {response : Response}
    (h : Quiet before after) (hready : before.Ready) (hhanded : response.handed = []) :
    Explains os [] response before after where
  ready := h.ready hready
  sound := fun _ h => absurd h List.not_mem_nil
  polled := fun _ h => absurd h List.not_mem_nil
  reads := h.reads.trans (List.append_nil _).symm
  handed := by
    rw [hhanded]
    exact .nil
  totals := fun k hjoins hleaves => congrArg AtomicU64.added (h.totals k hjoins hleaves)

/-- A call that polls hands out a view of each packet found. -/
theorem Reports.explains {s s' : System (Traced W)} {found : List T} {response : Response}
    (h : Reports os view s found s') (hready : s.pollState.Ready)
    {shown : T → Packet × Option ReceiveMetadata} (hhanded : response.handed = found.map shown)
    (hshows : ∀ packet, Shows (shown (view packet)) packet) :
    ∃ polls, Explains os polls response s.pollState s'.pollState := by
  obtain ⟨polls, hpolled, hfound⟩ := h hready
  refine ⟨polls, hpolled.ready hready, hpolled.sound, hpolled.polled, hpolled.reads, ?_,
    fun k _ _ => hpolled.totals k⟩
  rw [hhanded, hfound, List.map_map, List.forall₂_map_left_iff]
  exact List.forall₂_same.mpr fun packet _ => hshows packet

theorem handed_of_map {α : Type} (outcome : Outcome α) {answer : α → Answer}
    (hanswer : ∀ a, (Response.of (.ok (answer a))).handed = []) :
    (Response.of (outcome.map answer)).handed = [] := by
  cases outcome with
  | ok a => exact hanswer a
  | err e => rfl
  | panic => rfl

theorem handed_packet (outcome : Outcome (Option Packet)) :
    (Response.of (outcome.map .packet)).handed = (received outcome).map (·, none) := by
  cases outcome with
  | ok found => cases found <;> rfl
  | err e => rfl
  | panic => rfl

theorem handed_packetWithMetadata (outcome : Outcome (Option PacketWithMetadata)) :
    (Response.of (outcome.map .packetWithMetadata)).handed =
      (received outcome).map fun found => (found.packet, some found.metadata) := by
  cases outcome with
  | ok found => cases found <;> rfl
  | err e => rfl
  | panic => rfl

theorem handed_packets (outcome : Outcome Nat) (out : List Packet) :
    ({ Response.of (outcome.map .received) with packets := out } : Response).handed =
      out.map (·, none) := by
  cases outcome <;> exact (List.append_nil _).trans (List.append_nil _)

theorem handed_packetsWithMetadata (outcome : Outcome Nat) (out : List PacketWithMetadata) :
    ({ Response.of (outcome.map .received) with packetsWithMetadata := out } : Response).handed =
      out.map fun found => (found.packet, some found.metadata) := by
  cases outcome <;> exact List.append_nil _

theorem shows_packet (found : PacketWithMetadata) : Shows (found.intoPacket, none) found :=
  ⟨rfl, fun _ h => by cases h⟩

theorem shows_packetWithMetadata (found : PacketWithMetadata) :
    Shows (found.packet, some found.metadata) found :=
  ⟨rfl, fun _ h => (Option.some.inj h).symm⟩

variable (os) in
/-- Every call is explained by its polls. -/
theorem step_explains (operation : Operation) {s : System (Traced W)}
    (hready : s.pollState.Ready) :
    ∃ polls, Explains os polls (step os.traced operation s).1 s.pollState
      (step os.traced operation s).2.pollState := by
  have hany : ∀ s : System (Traced W), Reports os PacketWithMetadata.intoPacket s
      (received (tryRecvAny os.traced s).1) (tryRecvAny os.traced s).2 :=
    tryRecvFromJoined_reports (polls_tryRecv os)
  have hmetadata : ∀ s : System (Traced W), Reports os id s
      (received (tryRecvAnyWithMetadata os.traced s).1) (tryRecvAnyWithMetadata os.traced s).2 :=
    tryRecvFromJoined_reports (polls_tryRecvWithMetadata os)
  cases operation with
  | addSubscription config =>
    exact ⟨[], (addWith_quiet config (readsNothing_openBoundSocket config)
      (fun _ _ _ h => openBoundSocket_ready _ h) { s with sweeps := [] }).explains hready
        (handed_of_map _ fun _ => rfl)⟩
  | addSubscriptionWithSocket config socket =>
    exact ⟨[], (addWith_quiet config (readsNothing_prepareExistingSocket socket config)
      (fun _ _ _ h => prepareExistingSocket_ready _ h) { s with sweeps := [] }).explains hready
        (handed_of_map _ fun _ => rfl)⟩
  | removeSubscription id =>
    exact ⟨[], (takeSubscription_quiet id { s with sweeps := [] }).explains hready
      (handed_of_map _ fun _ => rfl)⟩
  | takeSubscription id =>
    exact ⟨[], (takeSubscription_quiet id { s with sweeps := [] }).explains hready
      (handed_of_map _ fun _ => rfl)⟩
  | joinSubscription id =>
    exact ⟨[], (joinSubscription_quiet id { s with sweeps := [] }).explains hready
      (handed_of_map _ fun _ => rfl)⟩
  | leaveSubscription id =>
    exact ⟨[], (leaveSubscription_quiet id { s with sweeps := [] }).explains hready
      (handed_of_map _ fun _ => rfl)⟩
  | tryRecvAny =>
    exact (hany { s with sweeps := [] }).explains hready (handed_packet _) shows_packet
  | tryRecvAnyWithMetadata =>
    exact (hmetadata { s with sweeps := [] }).explains hready (handed_packetWithMetadata _)
      shows_packetWithMetadata
  | tryRecvBatchInto maxPackets =>
    exact (batchInto_reports hany maxPackets { s with sweeps := [] }).explains hready
      (handed_packets _ _) shows_packet
  | tryRecvBatchWithMetadataInto maxPackets =>
    exact (batchInto_reports hmetadata maxPackets { s with sweeps := [] }).explains hready
      (handed_packetsWithMetadata _ _) shows_packetWithMetadata
  | tryRecvAllInto =>
    exact (batchInto_reports hany _ { s with sweeps := [] }).explains hready
      (handed_packets _ _) shows_packet
  | tryRecvAllWithMetadataInto =>
    exact (batchInto_reports hmetadata _ { s with sweeps := [] }).explains hready
      (handed_packetsWithMetadata _ _) shows_packetWithMetadata

/-! ## Runs -/

/-- The polls of all calls so far explain what they read, handed out and counted. -/
structure Accounts (target : UnixTarget) (polls : List Poll) (calls : List (Call (Traced W)))
    (s : System (Traced W)) : Prop where
  ready : s.pollState.Ready
  sound : ∀ poll ∈ polls, poll.Sound target
  polled : ∀ poll ∈ polls, ∃ call ∈ calls,
    poll.subscription.profile ∈ call.before.context.subscriptions.map Subscription.profile
  reads : s.world.reads = polls.flatMap Poll.socketReads
  handed : List.Forall₂ Shows (calls.flatMap fun call => call.response.handed)
    (polls.filterMap Poll.packet)
  totals : ∀ k, k ≠ .joinCount → k ≠ .leaveCount →
    (s.context.metrics.counter (.total k)).added = (polls.map fun poll => poll.amount k).sum

theorem Accounts.step {polls : List Poll} {calls : List (Call (Traced W))}
    {s : System (Traced W)} (h : Accounts os.target polls calls s) (operation : Operation) :
    ∃ polls', Accounts os.target polls'
      (calls ++ [Journal.call (Context.step os.traced) operation s])
      (Context.step os.traced operation s).2 := by
  obtain ⟨later, hlater⟩ := step_explains os operation h.ready
  refine ⟨polls ++ later, hlater.ready, ?_, ?_, ?_, ?_, ?_⟩
  · intro poll hpoll
    rcases List.mem_append.mp hpoll with hpoll | hpoll
    · exact h.sound poll hpoll
    · exact hlater.sound poll hpoll
  · intro poll hpoll
    rcases List.mem_append.mp hpoll with hpoll | hpoll
    · obtain ⟨call, hcall, hprofile⟩ := h.polled poll hpoll
      exact ⟨call, List.mem_append_left _ hcall, hprofile⟩
    · exact ⟨_, List.mem_append_right _ List.mem_cons_self, hlater.polled poll hpoll⟩
  · rw [List.flatMap_append, ← h.reads]
    exact hlater.reads
  · rw [List.flatMap_append, List.flatMap_singleton, List.filterMap_append]
    exact List.rel_append h.handed hlater.handed
  · intro k hjoins hleaves
    rw [List.map_append, List.sum_append, ← h.totals k hjoins hleaves]
    exact hlater.totals k hjoins hleaves

theorem accounts_calls (os : UdpSystem W) (operations : List Operation) (w : W) :
    ∃ polls, Accounts os.target polls
      (Journal.calls (step os.traced) operations (start ⟨w, []⟩))
      (Journal.final (step os.traced) operations (start ⟨w, []⟩)) := by
  have hstart : Accounts os.target [] [] (start (⟨w, []⟩ : Traced W)) := by
    refine ⟨?_, ?_, ?_, rfl, .nil, fun k _ _ => by cases k <;> rfl⟩
    · exact fun _ h => absurd h List.not_mem_nil
    · exact fun _ h => absurd h List.not_mem_nil
    · exact fun _ h => absurd h List.not_mem_nil
  exact @Journal.invariant _ _ _ (step os.traced)
    (fun calls s => ∃ polls, Accounts os.target polls calls s) (fun _ => True)
    (fun _ _ operation _ h => h.elim fun _ h => h.step operation) operations (fun _ _ => trivial)
    [] (start ⟨w, []⟩) ⟨[], hstart⟩

theorem filterMap_packet {target : UnixTarget} {polls : List Poll}
    (h : ∀ poll ∈ polls, poll.Sound target) :
    polls.filterMap Poll.packet = polls.flatMap (Poll.wanted target) := by
  induction polls with
  | nil => rfl
  | cons poll polls ih =>
    rw [filterMap_packet_cons, List.flatMap_cons, (h poll List.mem_cons_self).packet,
      ih fun other hother => h other (List.mem_cons_of_mem _ hother)]

/-- Whatever a context is asked to do, its reads are those of polls of joined subscriptions.
It hands out every packet that these reads have for the subscription polled, once and in
order, and its counters are those of the polls. -/
theorem deliveries_are_reads (os : UdpSystem W) (w : W) (operations : List Operation) :
    let calls := Journal.calls (step os.traced) operations (start ⟨w, []⟩)
    let last := Journal.final (step os.traced) operations (start ⟨w, []⟩)
    ∃ polls : List Poll,
      (∀ poll ∈ polls, poll.Sound os.target ∧ ∃ call ∈ calls,
        poll.subscription.profile ∈ call.before.context.subscriptions.map Subscription.profile) ∧
      last.world.reads = polls.flatMap Poll.socketReads ∧
      List.Forall₂ Shows (calls.flatMap fun call => call.response.handed)
        (polls.flatMap (Poll.wanted os.target)) ∧
      ∀ k, k ≠ .joinCount → k ≠ .leaveCount → last.context.metricsSnapshot.counter (.total k) =
        (polls.map fun poll => poll.amount k).sum % 2 ^ 64 := by
  intro calls last
  obtain ⟨polls, haccounts⟩ := accounts_calls os operations w
  refine ⟨polls, fun poll hpoll => ⟨haccounts.sound poll hpoll, haccounts.polled poll hpoll⟩,
    haccounts.reads, ?_, fun k hjoins hleaves => ?_⟩
  · rw [← filterMap_packet haccounts.sound]
    exact haccounts.handed
  · rw [metricsSnapshot_counter, AtomicU64.load]
    exact congrArg (· % 2 ^ 64) (haccounts.totals k hjoins hleaves)

end Context

end McrxCore
