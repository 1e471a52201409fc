import McrxCore.Lib.FifoLedger
import McrxCore.Raw.Shared.Run

/-!
# The packet ledger

A journal follows every datagram that matched a subscription when it was read, from
the queue to the caller or to the leave of its last matching subscription.  It is
built from what a caller and the operating system see of the calls; the context
keeps it: the packets handed over and then the queue are the journal without its
dropped entries.
-/

namespace McrxCore

open FifoLedger

/-- A datagram that was read, with the ids it matched then. -/
structure Match where
  read : Read
  ids : List SubscriptionId
  deriving DecidableEq, Repr

def matchOf (subscriptions : Subscriptions) (read : Read) : Match :=
  { read := read, ids := matchingIds subscriptions read.1 read.2 }

def matchesOf (subscriptions : Subscriptions) (reads : List Read) : List Match :=
  (reads.map (matchOf subscriptions)).filter fun found => !found.ids.isEmpty

/-- A matched datagram, and those of its ids that did not leave while it was queued. -/
structure Tracked where
  origin : Match
  remaining : List SubscriptionId
  deriving DecidableEq, Repr

namespace Tracked

def of (origin : Match) : Tracked := { origin := origin, remaining := origin.ids }

def without (id : SubscriptionId) (tracked : Tracked) : Tracked :=
  { tracked with remaining := tracked.remaining.erase id }

def isHeld (tracked : Tracked) : Bool := !tracked.remaining.isEmpty

/-- The packet is the tracked datagram for the remaining ids. -/
def Describes (tracked : Tracked) (queued : SharedRawPacket) : Prop :=
  ∃ primaryId config, tracked.remaining.head? = some primaryId ∧
    queued.packet =
      SharedRawContext.rawPacketFromCaptured primaryId config tracked.origin.read.2 ∧
    queued.matchingSubscriptionIds.asSlice = tracked.remaining

/-- The packet queued for the tracked datagram, all of whose remaining ids are
joined. -/
def QueuedAs (subscriptions : Subscriptions) (tracked : Tracked) (queued : SharedRawPacket) :
    Prop :=
  JoinedIds subscriptions tracked.remaining ∧
    queuedPacket subscriptions tracked.origin.read.2 tracked.remaining = some queued

end Tracked

/-- The metrics after the given numbers of datagrams, unmatched datagrams and
matches. -/
def SharedRawCaptureMetrics.ofCounts (received unmatched found : Nat) : SharedRawCaptureMetrics :=
  { receivedPacketsTotal := min received WORD_MAX
    unmatchedPacketsTotal := min unmatched WORD_MAX
    demultiplexMatchesTotal := min found WORD_MAX }

def SharedRawContext.isJoinedIn (c : SharedRawContext) (id : SubscriptionId) : Bool :=
  (c.subscriptions.lookup id).any SharedRawSubscription.isJoined

namespace System

/-! ## The journal -/

def Call.reads (call : Call) : List Read := call.events.filterMap Event.asRead

def Call.matched (call : Call) : List Match := matchesOf call.before.subscriptions call.reads

def Call.departed (call : Call) : Option SubscriptionId :=
  match call.operation with
  | .leaveSubscription id | .removeSubscription id =>
    if call.before.isJoinedIn id && !call.after.isJoinedIn id then some id else none
  | _ => none

structure Journal where
  entries : List (Entry Tracked)
  handed : List SharedRawPacket

namespace Journal

def empty : Journal := { entries := [], handed := [] }

/-- A leave takes the id from every queued entry, and drops an entry left without
ids. -/
def depart (id : SubscriptionId) (journal : Journal) : Journal :=
  { journal with entries := journal.entries.map (Entry.edit (Tracked.without id) Tracked.isHeld) }

/-- The matched datagrams are queued, and then the oldest entries handed over. -/
def deliver (found : List Match) (packets : List SharedRawPacket) (journal : Journal) : Journal :=
  { entries := handOver packets.length (arrive (found.map Tracked.of) journal.entries)
    handed := journal.handed ++ packets }

def record (journal : Journal) (call : Call) : Journal :=
  let journal := match call.departed with
    | none => journal
    | some id => journal.depart id
  journal.deliver call.matched call.response.packets

structure Tracks (journal : Journal) (c : SharedRawContext) : Prop where
  ordered : Ordered journal.entries
  settled : Settled Tracked.isHeld journal.entries
  pending : List.Forall₂ (Tracked.QueuedAs c.subscriptions) (itemsOf .queued journal.entries)
    c.pendingPackets
  handed : List.Forall₂ Tracked.Describes (itemsOf .handed journal.entries) journal.handed
  metrics : ∃ unmatched, c.metrics = .ofCounts (unmatched + journal.entries.length) unmatched
    (journal.entries.map fun entry => entry.item.origin.ids.length).sum

end Journal

end System

/-! ## Queued packets and tracked datagrams -/

section Tracked

variable {subscriptions subscriptions' : Subscriptions} {tracked : Tracked}
  {queued : SharedRawPacket}

theorem Tracked.QueuedAs.describes (h : tracked.QueuedAs subscriptions queued) :
    tracked.Describes queued := by
  obtain ⟨-, hqueued⟩ := h
  obtain ⟨primaryId, primary, matchingIds, hhead, -, hm, rfl⟩ := queuedPacket_eq_some hqueued
  exact ⟨primaryId, primary.config, hhead, rfl, MatchingSubscriptionIds.asSlice_of_ofIds hm⟩

theorem Tracked.QueuedAs.congr (h : tracked.QueuedAs subscriptions queued)
    (hsame : ∀ id subscription, subscriptions.lookup id = some subscription →
      subscription.isJoined = true →
        ∃ subscription', subscriptions'.lookup id = some subscription' ∧
        subscription'.isJoined = true ∧ subscription'.config = subscription.config) :
    tracked.QueuedAs subscriptions' queued := by
  obtain ⟨hids, hqueued⟩ := h
  refine ⟨⟨hids.increasing, fun id hid => ?_⟩, ?_⟩
  · obtain ⟨subscription, hl, hj⟩ := hids.joined id hid
    obtain ⟨subscription', hl', hj', -⟩ := hsame id subscription hl hj
    exact ⟨subscription', hl', hj'⟩
  · rw [← hqueued]
    refine queuedPacket_congr fun id hid => ?_
    obtain ⟨subscription, hl, hj⟩ := hids.joined id hid
    obtain ⟨subscription', hl', -, hconfig⟩ := hsame id subscription hl hj
    rw [hl, hl', Option.map_some, Option.map_some, hconfig]

/-- A queue edited by a leave is the queue of the tracked datagrams without the
leaving id. -/
theorem forall₂_demoted {id : SubscriptionId} {subscription : SharedRawSubscription}
    (hl : subscriptions.lookup id = some subscription) {tracked : List Tracked}
    {pending : List SharedRawPacket}
    (h : List.Forall₂ (Tracked.QueuedAs subscriptions) tracked pending) :
    List.Forall₂ (Tracked.QueuedAs (subscriptions.insert id (subscription.withState .bound)))
      ((tracked.map (Tracked.without id)).filter Tracked.isHeld)
      (pending.filterMap
        (demoted (subscriptions.insert id (subscription.withState .bound)) id)) := by
  induction h with
  | nil => exact List.Forall₂.nil
  | @cons first queued tracked pending hfirst _ ih =>
    obtain ⟨hids, hqueued⟩ := hfirst
    have hmember := withoutMember_eq id hids hqueued (lookup_withState_config hl .bound)
    have hdemoted : demoted (subscriptions.insert id (subscription.withState .bound)) id queued =
        queuedPacket (subscriptions.insert id (subscription.withState .bound))
          first.origin.read.2 (first.remaining.erase id) := by
      rw [demoted, hmember, Option.getD_some]
    rw [List.map_cons, List.filterMap_cons, hdemoted]
    by_cases hnil : first.remaining.erase id = []
    · have hdropped : (first.without id).isHeld = false := by
        rw [Tracked.isHeld, Tracked.without, hnil]
        rfl
      rw [List.filter_cons_of_neg (by simp [hdropped]), hnil, queuedPacket_nil]
      exact ih
    · have hheld : (first.without id).isHeld = true := by
        simp [Tracked.isHeld, Tracked.without, hnil]
      have herased : JoinedIds (subscriptions.insert id (subscription.withState .bound))
          (first.remaining.erase id) := hids.erase
      obtain ⟨packet, hpacket⟩ := queuedPacket_isSome first.origin.read.2 herased hnil
      rw [List.filter_cons_of_pos hheld, hpacket]
      exact List.Forall₂.cons ⟨herased, hpacket⟩ ih

/-- The packets of datagrams just read are those of the matched ones, with all the
ids remaining. -/
theorem forall₂_matchesOf (subscriptions : Subscriptions) (reads : List Read) :
    List.Forall₂ (Tracked.QueuedAs subscriptions)
      ((matchesOf subscriptions reads).map Tracked.of)
      (reads.filterMap (packetOf subscriptions)) := by
  induction reads with
  | nil => exact List.Forall₂.nil
  | cons read rest ih =>
    have hids := matchingIds_joined subscriptions read.1 read.2
    rw [matchesOf, List.map_cons]
    by_cases hnil : matchingIds subscriptions read.1 read.2 = []
    · have hnone : packetOf subscriptions read = none := by
        rw [packetOf, hnil, queuedPacket_nil]
      rw [List.filter_cons_of_neg (by simp [matchOf, hnil]), List.filterMap_cons_none hnone]
      exact ih
    · obtain ⟨queued, hqueued⟩ := queuedPacket_isSome read.2 hids hnil
      have hpacket : packetOf subscriptions read = some queued := hqueued
      rw [List.filter_cons_of_pos (by simp [matchOf, hnil]), List.map_cons,
        List.filterMap_cons_some hpacket]
      exact List.Forall₂.cons ⟨hids, hqueued⟩ ih

theorem isHeld_of_mem_matchesOf {reads : List Read} {found : Match}
    (h : found ∈ matchesOf subscriptions reads) : (Tracked.of found).isHeld = true :=
  (List.mem_filter.mp h).2

end Tracked

/-! ## Metrics -/

theorem saturatingAdd_min (a b : Nat) : saturatingAdd (min a WORD_MAX) b =
    min (a + b) WORD_MAX := by
  rw [saturatingAdd]
  omega

namespace SharedRawCaptureMetrics

theorem recordRead_zero (received unmatched found : Nat) :
    (ofCounts received unmatched found).recordRead 0 =
      ofCounts (received + 1) (unmatched + 1) found := by
  simp only [recordRead, ofCounts, saturatingAdd_min, if_true]

theorem recordRead_pos (received unmatched found : Nat) {count : Nat} (h : count ≠ 0) :
    (ofCounts received unmatched found).recordRead count =
      ofCounts (received + 1) unmatched (found + count) := by
  simp only [recordRead, ofCounts, saturatingAdd_min, if_neg h]

/-- The metrics count every read, and of the matched ones every match. -/
theorem foldl_recordRead (subscriptions : Subscriptions) (reads : List Read)
    (unmatched entries found : Nat) :
    ∃ unmatched', reads.foldl (fun metrics read =>
        metrics.recordRead (matchingIds subscriptions read.1 read.2).length)
        (ofCounts (unmatched + entries) unmatched found) =
      ofCounts (unmatched' + (entries + (matchesOf subscriptions reads).length)) unmatched'
        (found + ((matchesOf subscriptions reads).map fun m => m.ids.length).sum) := by
  induction reads generalizing unmatched entries found with
  | nil => exact ⟨unmatched, rfl⟩
  | cons read rest ih =>
    rw [List.foldl_cons, matchesOf, List.map_cons]
    by_cases hnil : matchingIds subscriptions read.1 read.2 = []
    · obtain ⟨unmatched', hrest⟩ := ih (unmatched + 1) entries found
      have hcount : unmatched + entries + 1 = unmatched + 1 + entries := by omega
      rw [List.filter_cons_of_neg (by simp [matchOf, hnil]), hnil, List.length_nil,
        recordRead_zero, hcount]
      exact ⟨unmatched', hrest⟩
    · obtain ⟨unmatched', hrest⟩ := ih unmatched (entries + 1)
        (found + (matchingIds subscriptions read.1 read.2).length)
      have hne : (matchingIds subscriptions read.1 read.2).length ≠ 0 := by
        simpa [List.length_eq_zero_iff] using hnil
      rw [List.filter_cons_of_pos (by simp [matchOf, hnil]), recordRead_pos _ _ _ hne,
        Nat.add_assoc, hrest]
      refine ⟨unmatched', ?_⟩
      rw [List.length_cons, List.map_cons, List.sum_cons]
      congr 1
      · show unmatched' + (entries + 1 + (matchesOf subscriptions rest).length) =
          unmatched' + (entries + ((matchesOf subscriptions rest).length + 1))
        omega
      · exact Nat.add_assoc _ _ _

end SharedRawCaptureMetrics

/-! ## One call -/

namespace SharedRawContext

variable {c c' : SharedRawContext} {id : SubscriptionId} {events : List Event}

theorem JoinStep.no_reads {r : Outcome Unit} (h : JoinStep c id r c' events) :
    events.filterMap Event.asRead = [] := by
  cases h <;> rfl

theorem LeaveStep.no_reads {r : Outcome Unit} (h : LeaveStep c id r c' events) :
    events.filterMap Event.asRead = [] := by
  cases h <;> rfl

theorem RemoveStep.no_reads {r : Outcome Bool} (h : RemoveStep c id r c' events) :
    events.filterMap Event.asRead = [] := by
  cases h with
  | missing => rfl
  | leaveFailed hleave => exact hleave.no_reads
  | removedBound => rfl
  | leftRemoved _ _ hleave => exact hleave.no_reads

theorem LeaveStep.metrics {r : Outcome Unit} (h : LeaveStep c id r c' events) :
    c'.metrics = c.metrics := by
  cases h <;> rfl

theorem filterMap_asRead_ofRead (reads : List Read) :
    (reads.map Event.ofRead).filterMap Event.asRead = reads := by
  rw [List.filterMap_map]
  exact List.filterMap_some

end SharedRawContext

namespace System

open SharedRawContext

namespace Journal

variable {journal : Journal} {c c' : SharedRawContext}

theorem deliver_nil (journal : Journal) : journal.deliver [] [] = journal := by
  simp only [deliver, List.map_nil, arrive, List.append_nil, List.length_nil, handOver]

theorem map_depart {β : Type} (g : Match → β) (id : SubscriptionId) (journal : Journal) :
    ((journal.depart id).entries.map fun entry => g entry.item.origin) =
      journal.entries.map fun entry => g entry.item.origin := by
  have hkept : ∀ tracked : Tracked, g (tracked.without id).origin = g tracked.origin :=
    fun _ => rfl
  exact map_edit (g := fun tracked => g tracked.origin) hkept journal.entries

/-- The joined subscriptions with their configurations are all a queue depends on. -/
theorem Tracks.congr (h : journal.Tracks c) (hpending : c'.pendingPackets = c.pendingPackets)
    (hmetrics : c'.metrics = c.metrics)
    (hsame : ∀ id subscription, c.subscriptions.lookup id = some subscription →
      subscription.isJoined = true → ∃ subscription',
        c'.subscriptions.lookup id = some subscription' ∧ subscription'.isJoined = true ∧
          subscription'.config = subscription.config) : journal.Tracks c' := by
  refine ⟨h.ordered, h.settled, ?_, h.handed, ?_⟩
  · rw [hpending]
    exact h.pending.imp fun _ _ hqueued => hqueued.congr hsame
  · rw [hmetrics]
    exact h.metrics

theorem Tracks.depart (h : journal.Tracks c) {id : SubscriptionId} {events : List Event}
    (hleave : LeaveStep c id (.ok ()) c' events) : (journal.depart id).Tracks c' := by
  obtain ⟨subscription, hl, -, hsubscriptions, hpending, -⟩ := hleave.subscriptions_of_ok
  refine ⟨h.ordered.edit, h.settled.edit, ?_, ?_, ?_⟩
  · rw [hpending, hsubscriptions]
    show List.Forall₂ _ (itemsOf .queued (journal.entries.map _)) _
    rw [itemsOf_queued_edit]
    exact forall₂_demoted hl h.pending
  · show List.Forall₂ _ (itemsOf .handed (journal.entries.map _)) _
    rw [itemsOf_handed_edit]
    exact h.handed
  · obtain ⟨unmatched, hmetrics⟩ := h.metrics
    refine ⟨unmatched, ?_⟩
    rw [hleave.metrics, hmetrics, Journal.depart, List.length_map]
    exact congrArg _ (congrArg List.sum
      (map_depart (fun origin => origin.ids.length) id journal).symm)

theorem Tracks.removed (h : journal.Tracks c) {id : SubscriptionId}
    {subscription : SharedRawSubscription} (hl : c.subscriptions.lookup id = some subscription)
    (hbound : subscription.isJoined = false) {config : RawSubscriptionConfig}
    {resolved : ResolvedCaptureKey} : journal.Tracks (c.removed id config resolved) := by
  refine h.congr rfl rfl fun other found hfound hj => ⟨found, ?_, hj, rfl⟩
  show (c.subscriptions.erase id).lookup other = some found
  rw [FiniteMap.lookup_erase_ite, if_neg, hfound]
  intro heq
  rw [heq, hl] at hfound
  obtain rfl := Option.some.inj hfound
  rw [hbound] at hj
  exact nomatch hj

theorem Tracks.deliver (h : journal.Tracks c) {packets : List SharedRawPacket}
    {reads : List Read} (hreceived : c.Received packets reads c') :
    (journal.deliver (matchesOf c.subscriptions reads) packets).Tracks c' := by
  have harrived : List.Forall₂ (Tracked.QueuedAs c.subscriptions)
      (itemsOf .queued (arrive ((matchesOf c.subscriptions reads).map Tracked.of) journal.entries))
      (packets ++ c'.pendingPackets) := by
    rw [itemsOf_queued_arrive, hreceived.pending]
    exact List.rel_append h.pending (forall₂_matchesOf c.subscriptions reads)
  have hordered := h.ordered.arrive ((matchesOf c.subscriptions reads).map Tracked.of)
  refine ⟨hordered.handOver _, ?_, ?_, ?_, ?_⟩
  · refine (h.settled.arrive fun tracked htracked => ?_).handOver _
    obtain ⟨found, hfound, rfl⟩ := List.mem_map.mp htracked
    exact isHeld_of_mem_matchesOf hfound
  · have hrest := List.forall₂_drop packets.length harrived
    rw [List.drop_left] at hrest
    rw [hreceived.subscriptions]
    show List.Forall₂ _ (itemsOf .queued (handOver packets.length _)) _
    rw [itemsOf_queued_handOver]
    exact hrest
  · have hfirst := List.forall₂_take packets.length harrived
    rw [List.take_left] at hfirst
    show List.Forall₂ _ (itemsOf .handed (handOver packets.length _)) (journal.handed ++ packets)
    rw [hordered.itemsOf_handed_handOver, itemsOf_handed_arrive]
    exact List.rel_append h.handed (hfirst.imp fun _ _ hqueued => hqueued.describes)
  · obtain ⟨unmatched, hmetrics⟩ := h.metrics
    obtain ⟨unmatched', hfold⟩ := SharedRawCaptureMetrics.foldl_recordRead c.subscriptions reads
      unmatched journal.entries.length
      (journal.entries.map fun entry => entry.item.origin.ids.length).sum
    refine ⟨unmatched', ?_⟩
    rw [hreceived.metrics]
    show reads.foldl _ c.metrics = _
    rw [hmetrics, hfold]
    have hlength : ((journal.deliver (matchesOf c.subscriptions reads) packets).entries).length =
        journal.entries.length + (matchesOf c.subscriptions reads).length := by
      have hmap := congrArg List.length (map_handOver (fun _ : Tracked => ()) packets.length
        (arrive ((matchesOf c.subscriptions reads).map Tracked.of) journal.entries))
      rw [List.length_map, List.length_map] at hmap
      rw [Journal.deliver, hmap, arrive, List.length_append, List.length_map, List.length_map]
    have hsum : ((journal.deliver (matchesOf c.subscriptions reads) packets).entries.map
          fun entry => entry.item.origin.ids.length) =
        (journal.entries.map fun entry => entry.item.origin.ids.length) ++
          (matchesOf c.subscriptions reads).map fun found => found.ids.length := by
      rw [Journal.deliver, map_handOver (fun tracked : Tracked => tracked.origin.ids.length),
        arrive, List.map_append, List.map_map, List.map_map]
      rfl
    rw [hlength, hsum, List.sum_append]

/-- A call without a departure, a read or a packet leaves the journal as it is. -/
theorem Tracks.record_quiet {call : Call} (hdeparted : call.departed = none)
    (hreads : call.reads = []) (hpackets : call.response.packets = [])
    (h : journal.Tracks c) : (journal.record call).Tracks c := by
  rw [Journal.record, hdeparted, Call.matched, hreads, hpackets]
  show (journal.deliver [] []).Tracks c
  rw [deliver_nil]
  exact h

theorem Tracks.record_departed {call : Call} (id : SubscriptionId)
    (hdeparted : call.departed = some id) (hreads : call.reads = [])
    (hpackets : call.response.packets = []) (h : (journal.depart id).Tracks c) :
    (journal.record call).Tracks c := by
  rw [Journal.record, hdeparted, Call.matched, hreads, hpackets]
  show ((journal.depart id).deliver [] []).Tracks c
  rw [deliver_nil]
  exact h

theorem Tracks.record_received {call : Call} (hdeparted : call.departed = none)
    {reads : List Read} (hreads : call.events = reads.map Event.ofRead)
    (h : journal.Tracks call.before)
    (hreceived : call.before.Received call.response.packets reads c) :
    (journal.record call).Tracks c := by
  rw [Journal.record, hdeparted, Call.matched, Call.reads, hreads, filterMap_asRead_ofRead]
  exact h.deliver hreceived

theorem departed_of_same {call : Call} (h : call.after = call.before) : call.departed = none := by
  rw [Call.departed]
  split
  · rw [h, if_neg (by simp)]
  · rw [h, if_neg (by simp)]
  · rfl

theorem isJoinedIn_of_lookup {id : SubscriptionId} {subscription : SharedRawSubscription}
    (hl : c.subscriptions.lookup id = some subscription) :
    c.isJoinedIn id = subscription.isJoined := by
  rw [isJoinedIn, hl, Option.any_some]

theorem isJoinedIn_removed (c : SharedRawContext) (id : SubscriptionId)
    (config : RawSubscriptionConfig) (resolved : ResolvedCaptureKey) :
    (c.removed id config resolved).isJoinedIn id = false := by
  rw [isJoinedIn, SharedRawContext.removed, Finmap.lookup_erase, Option.any_none]

/-- A sound call keeps the journal and the context in agreement. -/
theorem Tracks.record {call : Call} (h : journal.Tracks call.before) (hsound : call.Sound) :
    (journal.record call).Tracks call.after := by
  have hstep := hsound.step
  have hfresh := hsound.fresh
  obtain ⟨before, operation, response, events, after⟩ := call
  simp only at h hstep hfresh ⊢
  cases hstep with
  | added hadd =>
    refine .record_quiet rfl rfl rfl ?_
    cases hadd with
    | refused => exact h
    | added hvalid hroom href =>
      refine h.congr rfl rfl fun other found hfound hj => ⟨found, ?_, hj, rfl⟩
      show (before.subscriptions.insert _ _).lookup other = some found
      rw [FiniteMap.lookup_insert_ite, if_neg, hfound]
      intro heq
      rw [heq, hfresh _ rfl] at hfound
      exact nomatch hfound
  | @joined id r _ _ hjoin =>
    refine .record_quiet rfl hjoin.no_reads rfl ?_
    match r, hjoin with
    | .err e, hjoin =>
      rw [hjoin.context_of_err]
      exact h
    | .ok (), hjoin =>
      obtain ⟨subscription, capture, captureOrder, hl, -, -, rfl⟩ := hjoin.ready
      refine h.congr rfl rfl fun other found hfound hj => ?_
      show ∃ subscription', (before.subscriptions.insert id _).lookup other = _ ∧ _
      rw [FiniteMap.lookup_insert_ite]
      split
      · rename_i heq
        rw [heq, hl] at hfound
        obtain rfl := Option.some.inj hfound
        exact ⟨_, rfl, rfl, rfl⟩
      · exact ⟨found, hfound, hj, rfl⟩
  | @left id r _ _ hleave =>
    match r, hleave with
    | .err e, hleave =>
      refine .record_quiet (departed_of_same hleave.context_of_err) hleave.no_reads rfl ?_
      rw [hleave.context_of_err]
      exact h
    | .ok (), hleave =>
      obtain ⟨subscription, hl, hj, hsubscriptions, -⟩ := hleave.subscriptions_of_ok
      have hafter : after.subscriptions.lookup id = some (subscription.withState .bound) := by
        rw [hsubscriptions, Finmap.lookup_insert]
      have hjoined := isJoinedIn_of_lookup hl
      have hbound := isJoinedIn_of_lookup hafter
      rw [hj] at hjoined
      refine .record_departed id ?_ hleave.no_reads rfl (h.depart hleave)
      simp [Call.departed, hjoined, hbound]
  | @removed id r _ _ hremove =>
    have hreads := hremove.no_reads
    cases hremove with
    | missing => exact .record_quiet (departed_of_same rfl) rfl rfl h
    | leaveFailed hleave =>
      refine .record_quiet (departed_of_same hleave.context_of_err) hreads rfl ?_
      rw [hleave.context_of_err]
      exact h
    | removedBound hl hbound =>
      have hbefore := isJoinedIn_of_lookup hl
      rw [hbound] at hbefore
      refine .record_quiet ?_ rfl rfl (h.removed hl hbound)
      simp [Call.departed, hbefore]
    | leftRemoved hl hj hleave hl' =>
      have hjoined := isJoinedIn_of_lookup hl
      rw [hj] at hjoined
      refine .record_departed id ?_ hreads rfl ((h.depart hleave).removed hl' rfl)
      simp [Call.departed, hjoined, isJoinedIn_removed]
  | receivedAny _ hreceived => exact .record_received rfl rfl h hreceived
  | receivedBatch _ hreceived => exact .record_received rfl rfl h hreceived

theorem tracks_withLimits {limits : SharedRawContextLimits}
    (h : SharedRawContext.withLimits limits = .ok c) : Journal.empty.Tracks c := by
  simp only [SharedRawContext.withLimits] at h
  split at h
  · cases h
  · cases h
    exact ⟨List.Pairwise.nil, fun _ hentry => absurd hentry List.not_mem_nil,
      List.Forall₂.nil, List.Forall₂.nil,
      0, rfl⟩

theorem bounded_withLimits {limits : SharedRawContextLimits}
    (h : SharedRawContext.withLimits limits = .ok c) : c.Bounded := by
  simp only [SharedRawContext.withLimits] at h
  split at h
  · cases h
  · cases h
    exact Nat.zero_le _

/-! ## What the journal keeps of the calls -/

theorem record_origins (journal : Journal) (call : Call) :
    ((journal.record call).entries.map fun entry => entry.item.origin) =
      (journal.entries.map fun entry => entry.item.origin) ++ call.matched := by
  have hdeliver : ∀ (j : Journal), ((j.deliver call.matched call.response.packets).entries.map
      fun entry => entry.item.origin) =
        (j.entries.map fun entry => entry.item.origin) ++ call.matched := by
    intro j
    rw [deliver, map_handOver (fun tracked : Tracked => tracked.origin), arrive, List.map_append,
      List.map_map, List.map_map]
    congr 1
    exact List.map_id _
  rw [record, hdeliver]
  congr 1
  cases call.departed with
  | none => rfl
  | some id =>
    exact map_depart (fun origin => origin) id journal

theorem record_handed (journal : Journal) (call : Call) :
    (journal.record call).handed = journal.handed ++ call.response.packets := by
  rw [record, deliver]
  cases call.departed <;> rfl

/-- The journal of a run lists the matched datagrams and the packets handed over,
both in the order of the calls. -/
theorem foldl_record (calls : List Call) (journal : Journal) :
    ((calls.foldl Journal.record journal).entries.map fun entry => entry.item.origin) =
        (journal.entries.map fun entry => entry.item.origin) ++ calls.flatMap Call.matched ∧
      (calls.foldl Journal.record journal).handed =
        journal.handed ++ calls.flatMap fun call => call.response.packets := by
  induction calls generalizing journal with
  | nil => simp
  | cons call rest ih =>
    obtain ⟨horigins, hhanded⟩ := ih (journal.record call)
    rw [List.foldl_cons, List.flatMap_cons, List.flatMap_cons]
    constructor
    · rw [horigins, record_origins, List.append_assoc]
    · rw [hhanded, record_handed, List.append_assoc]

end Journal

/-! ## One fill -/

section Fill

variable {W : Type} (os : OperatingSystem W)

/-- The events of a fill since `start` are its datagrams, no more than the budget. -/
def Fill.Counted (start budget : Nat) (f : Fill W) : Prop :=
  f.system.events.length = start + f.capturedDatagrams ∧ f.capturedDatagrams ≤ budget

theorem Fill.Counted.events_le {start budget : Nat} {f : Fill W} (h : Fill.Counted start budget f) :
    f.system.events.length ≤ start + budget := by
  obtain ⟨hevents, hle⟩ := h
  omega

/-- The inner loop keeps the count, except that the datagram it panics on is not
counted. -/
theorem pollCapture_counted {target start budget rounds : Nat} {key : RawSharedCaptureKey}
    {f f' : Fill W} {exit : PollExit} (h : Fill.Counted start budget f)
    (hpoll : pollCapture os target budget key rounds f = (exit, f')) :
    f'.system.events.length ≤ start + budget ∧
      (exit = .nextCapture → Fill.Counted start budget f') := by
  induction rounds generalizing f with
  | zero =>
    cases hpoll
    exact ⟨h.events_le, fun _ => h⟩
  | succ rounds ih =>
    simp only [pollCapture] at hpoll
    split at hpoll
    · cases hpoll
      exact ⟨h.events_le, fun _ => h⟩
    · rename_i hroom
      rw [not_or] at hroom
      split at hpoll
      · cases hpoll
        exact ⟨h.events_le, fun _ => h⟩
      · split at hpoll
        · cases hpoll
          exact ⟨h.events_le, fun _ => h⟩
        · cases hpoll
          exact ⟨h.events_le, fun _ => h⟩
        · obtain ⟨hevents, hle⟩ := h
          have hnext : ∀ event, (f.system.events ++ [event]).length =
              start + (f.capturedDatagrams + 1) := by
            intro event
            rw [List.length_append, hevents]
            rfl
          split at hpoll
          · cases hpoll
            refine ⟨?_, nofun⟩
            show (f.system.events ++ [_]).length ≤ _
            rw [hnext]
            omega
          · refine ih ⟨hnext _, ?_⟩ hpoll
            show f.capturedDatagrams + 1 ≤ budget
            omega

theorem fillCaptures_counted {target start budget captureCount captures : Nat} {f : Fill W}
    (h : Fill.Counted start budget f) :
    (fillCaptures os target budget captureCount captures f).2.events.length ≤ start + budget := by
  induction captures generalizing f with
  | zero => exact h.events_le
  | succ captures ih =>
    simp only [fillCaptures]
    split
    · exact h.events_le
    · rename_i key _
      have hadvanced : Fill.Counted start budget
          { f with
            system := f.system.withContext (f.system.context.advanceCursor captureCount) } := h
      split
      · rename_i f₁ hpoll
        exact ih ((pollCapture_counted os hadvanced hpoll).2 rfl)
      · rename_i f₁ hpoll
        exact (pollCapture_counted os hadvanced hpoll).1
      · rename_i e f₁ hpoll
        exact (pollCapture_counted os hadvanced hpoll).1
      · rename_i f₁ hpoll
        exact (pollCapture_counted os hadvanced hpoll).1

/-- From any state, one fill reads no more datagrams than its target and one for each
capture. -/
theorem fillPending_reads_le (maxNewPackets : Nat) (s : System W) :
    (fillPending os maxNewPackets s).2.events.length ≤
      s.events.length + (s.context.fillTarget maxNewPackets + s.context.captureOrder.length) := by
  simp only [fillPending]
  split
  · exact Nat.le_add_right _ _
  · have hstart : Fill.Counted s.events.length
        (saturatingAdd (s.context.fillTarget maxNewPackets) s.context.captureOrder.length)
        { queuedPackets := 0, capturedDatagrams := 0, system := s } := ⟨rfl, Nat.zero_le _⟩
    refine Nat.le_trans (fillCaptures_counted os hstart) ?_
    exact Nat.add_le_add_left (Nat.min_le_left _ _) _

end Fill

/-! ## The ledger of a run -/

/-- What the journal of a run says of its calls and of the context at the end. -/
structure PacketLedger (calls : List Call) (journal : Journal) (c : SharedRawContext) : Prop where
  matched : (journal.entries.map fun entry => entry.item.origin) = calls.flatMap Call.matched
  handed : journal.handed = calls.flatMap fun call => call.response.packets
  conserved : List.Forall₂ Tracked.Describes (liveItems journal.entries)
    (journal.handed ++ c.pendingPackets)
  dropped : ∀ entry ∈ journal.entries, entry.fate = .dropped ↔ entry.item.remaining = []
  bounded : c.pendingPackets.length ≤ c.limits.maxPendingPackets
  received : c.metrics.receivedPacketsTotal < WORD_MAX →
    c.metrics.receivedPacketsTotal - c.metrics.unmatchedPacketsTotal =
      (calls.flatMap Call.matched).length
  found : c.metrics.demultiplexMatchesTotal < WORD_MAX → c.metrics.demultiplexMatchesTotal =
    ((calls.flatMap Call.matched).map fun found => found.ids.length).sum

/-- A call returns, and a batch call appends at most what was asked and says how
much. -/
structure Call.Delivers (call : Call) : Prop where
  returns : call.response.outcome ≠ .panic
  atMost : ∀ maxPackets, call.operation = .tryRecvBatchInto maxPackets →
    call.response.packets.length ≤ maxPackets
  count : ∀ received, call.response.outcome = .ok (.received received) →
    received = call.response.packets.length

theorem Outcome.map_eq_ok {α β : Type} {f : α → β} {r : Outcome α} {b : β}
    (h : r.map f = .ok b) : ∃ a, r = .ok a ∧ f a = b := by
  match r, h with
  | .ok a, h => exact ⟨a, rfl, Outcome.ok.inj h⟩

theorem Call.Sound.delivers {call : Call} (h : call.Sound) : call.Delivers := by
  have hstep := h.step
  obtain ⟨before, operation, response, events, after⟩ := call
  simp only at hstep
  refine ⟨hstep.noPanic, fun maxPackets hop => ?_, fun received hok => ?_⟩
  · cases hstep with
    | receivedBatch hr hreceived hbounded hle hcount =>
      cases hop
      exact hle
    | added => exact nomatch hop
    | joined => exact nomatch hop
    | left => exact nomatch hop
    | removed => exact nomatch hop
    | receivedAny => exact nomatch hop
  · cases hstep with
    | receivedBatch hr hreceived hbounded hle hcount =>
      obtain ⟨count, hcount', heq⟩ := Outcome.map_eq_ok hok
      cases heq
      exact hcount _ hcount'
    | added =>
      obtain ⟨_, -, heq⟩ := Outcome.map_eq_ok hok
      exact nomatch heq
    | joined =>
      obtain ⟨_, -, heq⟩ := Outcome.map_eq_ok hok
      exact nomatch heq
    | left =>
      obtain ⟨_, -, heq⟩ := Outcome.map_eq_ok hok
      exact nomatch heq
    | removed =>
      obtain ⟨_, -, heq⟩ := Outcome.map_eq_ok hok
      exact nomatch heq
    | receivedAny =>
      obtain ⟨_, -, heq⟩ := Outcome.map_eq_ok hok
      exact nomatch heq

theorem Journal.Tracks.ledger {calls : List Call} {c : SharedRawContext}
    (h : (calls.foldl Journal.record .empty).Tracks c) (hbounded : c.Bounded) :
    PacketLedger calls (calls.foldl Journal.record .empty) c := by
  obtain ⟨horigins, hhanded⟩ := Journal.foldl_record calls .empty
  have hmatched : ((calls.foldl Journal.record .empty).entries.map fun entry => entry.item.origin) =
      calls.flatMap Call.matched := horigins
  obtain ⟨unmatched, hmetrics⟩ := h.metrics
  have hlength : (calls.foldl Journal.record .empty).entries.length =
      (calls.flatMap Call.matched).length := by rw [← hmatched, List.length_map]
  have hsum : ((calls.foldl Journal.record .empty).entries.map
      fun entry => entry.item.origin.ids.length) =
        (calls.flatMap Call.matched).map fun found => found.ids.length := by
    rw [← hmatched, List.map_map]
    rfl
  rw [hlength, hsum] at hmetrics
  refine ⟨hmatched, hhanded, ?_, fun entry hentry => ?_, hbounded, ?_, ?_⟩
  · rw [h.ordered.liveItems_eq]
    exact List.rel_append h.handed (h.pending.imp fun _ _ hqueued => hqueued.describes)
  · rw [h.settled entry hentry, Tracked.isHeld, Bool.not_eq_false', List.isEmpty_iff]
  · rw [hmetrics]
    simp only [SharedRawCaptureMetrics.ofCounts]
    omega
  · rw [hmetrics]
    simp only [SharedRawCaptureMetrics.ofCounts]
    omega

/-- In every run the packets handed over and then the queue are the datagrams that
matched when they were read, in order and each once, except the queued ones dropped
when their last matching subscription left. -/
theorem packet_ledger {W : Type} {os : OperatingSystem W} {operations : List Operation}
    {s : System W} (hinitial : Initial s) (hn : adds operations < 2 ^ 64) :
    PacketLedger (calls os operations s) ((calls os operations s).foldl Journal.record .empty)
        (run os operations s).context ∧
      (∀ call ∈ calls os operations s, call.Delivers) ∧
      ∀ (maxNewPackets : Nat) (s' : System W),
        (fillPending os maxNewPackets s').2.events.length ≤ s'.events.length +
          (s'.context.fillTarget maxNewPackets + s'.context.captureOrder.length) := by
  obtain ⟨limits, hlimits⟩ := id hinitial
  obtain ⟨⟨htracks, hbounded⟩, -, hdelivers⟩ := fold_calls_initial os Journal.record
    (P := fun journal c => journal.Tracks c ∧ c.Bounded) (Q := Call.Delivers) (g := .empty)
    (fun journal call hsound h =>
      ⟨⟨h.1.record hsound, hsound.step.bounded h.2⟩, hsound.delivers⟩)
    hinitial hn ⟨Journal.tracks_withLimits hlimits, Journal.bounded_withLimits hlimits⟩
  exact ⟨htracks.ledger hbounded, hdelivers, fillPending_reads_le os⟩

def batchAndOne : List Operation :=
  [.addSubscription (allNodesOn 1), .joinSubscription ⟨1⟩, .tryRecvBatchInto 5, .tryRecvAny,
    .removeSubscription ⟨1⟩]

theorem packet_ledger_batch :
    PacketLedger (calls flooded batchAndOne (.new 3))
        ((calls flooded batchAndOne (.new 3)).foldl Journal.record .empty)
        (run flooded batchAndOne (.new 3)).context ∧
      ∀ call ∈ calls flooded batchAndOne (.new 3), call.Delivers := by
  obtain ⟨hledger, hdelivers, -⟩ :=
    @packet_ledger _ flooded batchAndOne _ (initial_new 3) (by decide)
  exact ⟨hledger, hdelivers⟩

end System

end McrxCore
