import McrxCore.Raw.Shared.Representation

/-!
# Leaving and the queue

A leave edits the queued packets in place.  The edit is the one a fresh
demultiplexing would make: capturing datagrams and then leaving gives the queue of
leaving first and capturing afterwards.
-/

namespace McrxCore

open SortedList (Increasing)
open SharedRawContext

/-! ## Matching ids without a member -/

/-- The matching ids after a leave are those before without the leaving id. -/
theorem matchingIds_left {subscriptions : Subscriptions} {id : SubscriptionId}
    {subscription : SharedRawSubscription} (hl : subscriptions.lookup id = some subscription)
    (key : RawSharedCaptureKey) (captured : RawCapturedDatagram) :
    matchingIds (subscriptions.insert id (subscription.withState .bound)) key captured =
      (matchingIds subscriptions key captured).erase id := by
  have hincreasing : Increasing (matchingIds subscriptions key captured) := matchingIds_increasing
  refine matchingIds_increasing.eq_of_mem_iff (hincreasing.sublist List.erase_sublist)
    fun other => ?_
  rw [List.Nodup.mem_erase_iff hincreasing.nodup, mem_matchingIds, mem_matchingIds]
  simp only [FiniteMap.lookup_insert_ite]
  by_cases heq : other = id
  · subst heq
    simp [SharedRawSubscription.admits, SharedRawSubscription.joinedCapture_bound]
  · simp [heq]

/-- One datagram: its packet before the leave, edited, is its packet after it. -/
theorem packetOf_left {subscriptions : Subscriptions} {id : SubscriptionId}
    {subscription : SharedRawSubscription} (hl : subscriptions.lookup id = some subscription)
    (read : Read) :
    (packetOf subscriptions read).bind
        (demoted (subscriptions.insert id (subscription.withState .bound)) id) =
      packetOf (subscriptions.insert id (subscription.withState .bound)) read := by
  rw [packetOf, packetOf, matchingIds_left hl]
  cases hqueued : queuedPacket subscriptions read.2 (matchingIds subscriptions read.1 read.2) with
  | none =>
    have hnil : matchingIds subscriptions read.1 read.2 = [] := by
      have hunmatched := packetOf_eq_none_iff.mp hqueued
      simpa [matched] using hunmatched
    rw [hnil]
    rfl
  | some queued =>
    have hmember := withoutMember_eq id (matchingIds_joined subscriptions read.1 read.2) hqueued
      (lookup_withState_config hl .bound)
    rw [Option.bind_some, demoted, hmember, Option.getD_some]

theorem filterMap_packetOf_left {subscriptions : Subscriptions} {id : SubscriptionId}
    {subscription : SharedRawSubscription} (hl : subscriptions.lookup id = some subscription)
    (reads : List Read) :
    (reads.filterMap (packetOf subscriptions)).filterMap
        (demoted (subscriptions.insert id (subscription.withState .bound)) id) =
      reads.filterMap
        (packetOf (subscriptions.insert id (subscription.withState .bound))) := by
  rw [List.filterMap_filterMap]
  exact List.filterMap_congr fun read _ => packetOf_left hl read

/-! ## Capturing -/

namespace SharedRawContext

/-- A datagram presented to the context: what a fill does with it where the capture
is open, and nothing where it is not. -/
def present (c : SharedRawContext) (read : Read) : Option SharedRawContext :=
  match c.captures.lookup read.1 with
  | none => some c
  | some capture => (c.queueCaptured capture read.2).map Prod.snd

def presentAll : List Read → SharedRawContext → Option SharedRawContext
  | [], c => some c
  | read :: reads, c => (c.present read).bind (presentAll reads)

theorem packetOf_of_closed {c : SharedRawContext} (h : c.Invariant) {read : Read}
    (hcapture : c.captures.lookup read.1 = none) : packetOf c.subscriptions read = none := by
  rw [packetOf_eq_none_iff, matched, Bool.not_eq_false', List.isEmpty_iff]
  refine List.eq_nil_iff_forall_not_mem.mpr fun id hid => ?_
  obtain ⟨subscription, hl, hadmits⟩ := mem_matchingIds.mp hid
  simp only [SharedRawSubscription.admits, Bool.and_eq_true, decide_eq_true_eq] at hadmits
  exact FiniteMap.tally_eq_zero_iff.mp (h.tally_of_lookup_none hcapture) id subscription hl
    hadmits.1.1

theorem present_eq {c : SharedRawContext} (h : c.Invariant) (read : Read) :
    ∃ reads c', c.present read = some c' ∧ c.Received [] reads c' ∧
      reads.filterMap (packetOf c.subscriptions) = [read].filterMap (packetOf c.subscriptions) := by
  cases hcapture : c.captures.lookup read.1 with
  | none =>
    refine ⟨[], c, ?_, Received.refl h.cursor, ?_⟩
    · rw [present, hcapture]
    · rw [List.filterMap_cons_none (packetOf_of_closed h hcapture)]
  | some capture =>
    refine ⟨[read], c.receiveAll [read], ?_, ⟨rfl, rfl, h.cursor, fun other hother => ?_⟩, rfl⟩
    · rw [present, hcapture]
      simp only [queueCaptured_eq (h.consistent read.1 capture hcapture), Option.map_some]
    · rw [List.mem_singleton.mp hother]
      exact ⟨capture, hcapture⟩

/-- Presenting datagrams appends their packets to the queue. -/
theorem presentAll_eq {c : SharedRawContext} (h : c.Invariant) (reads : List Read) :
    ∃ c', presentAll reads c = some c' ∧ c'.Invariant ∧ c'.subscriptions = c.subscriptions ∧
      c'.captures = c.captures ∧
      c'.pendingPackets = c.pendingPackets ++ reads.filterMap (packetOf c.subscriptions) := by
  induction reads generalizing c with
  | nil => exact ⟨c, rfl, h, rfl, rfl, by simp⟩
  | cons read rest ih =>
    obtain ⟨seen, c₁, hpresent, hreceived, hpackets⟩ := present_eq h read
    obtain ⟨c', hrest, hinv, hsubscriptions, hcaptures, hpending⟩ := ih (hreceived.invariant h)
    have hfirst := hreceived.pending
    rw [List.nil_append, hpackets] at hfirst
    refine ⟨c', ?_, hinv, hsubscriptions.trans hreceived.subscriptions,
      hcaptures.trans hreceived.captures, ?_⟩
    · rw [presentAll, hpresent, Option.bind_some, hrest]
    · rw [hpending, hreceived.subscriptions, hfirst, List.append_assoc, ← List.filterMap_append,
        List.singleton_append]

/-- Presenting datagrams does not change what a leave is asked to do. -/
theorem leave_after_present {c c₁ cl cr : SharedRawContext} {id : SubscriptionId}
    {eventsl eventsr : List Event} {reads : List Read} (h : c.Invariant)
    (hpresent : presentAll reads c = some c₁) (hafter : LeaveStep c₁ id (.ok ()) cl eventsl)
    (hfirst : LeaveStep c id (.ok ()) cr eventsr) :
    ∃ c', presentAll reads cr = some c' ∧ c'.pendingPackets = cl.pendingPackets := by
  obtain ⟨c₁', hpresent', hinv₁, hsubscriptions₁, -, hpending₁⟩ := presentAll_eq h reads
  obtain rfl : c₁ = c₁' := Option.some.inj (hpresent.symm.trans hpresent')
  obtain ⟨subscription, hl, -, hsubscriptionsr, hpendingr, -⟩ := hfirst.subscriptions_of_ok
  obtain ⟨subscription', hl', -, hsubscriptionsl, hpendingl, -⟩ := hafter.subscriptions_of_ok
  rw [hsubscriptions₁] at hl' hsubscriptionsl
  obtain rfl : subscription = subscription' := Option.some.inj (hl.symm.trans hl')
  obtain ⟨c', hpresentr, -, -, -, hpending'⟩ := presentAll_eq (hfirst.invariant h) reads
  refine ⟨c', hpresentr, ?_⟩
  rw [hpending', hpendingr, hpendingl, hpending₁, hsubscriptionsr, hsubscriptionsl,
    List.filterMap_append, filterMap_packetOf_left hl]

structure QueuedWell (c : SharedRawContext) (queued : SharedRawPacket) : Prop where
  nonempty : queued.matchingSubscriptionIds.asSlice ≠ []
  increasing : Increasing queued.matchingSubscriptionIds.asSlice
  joined : ∀ id ∈ queued.matchingSubscriptionIds.asSlice, ∃ subscription,
    c.subscriptions.lookup id = some subscription ∧ subscription.state = .joined
  primary : queued.matchingSubscriptionIds.first = some queued.packet.subscriptionId
  metadata : ∃ subscription,
    c.subscriptions.lookup queued.packet.subscriptionId = some subscription ∧
      queued.packet.metadata.configuredInterface = subscription.config.interface ∧
      queued.packet.metadata.configuredInterfaceIndex = subscription.config.interfaceIndex

theorem Invariant.queuedWell {c : SharedRawContext} (h : c.Invariant) {queued : SharedRawPacket}
    (hq : queued ∈ c.pendingPackets) : c.QueuedWell queued := by
  obtain ⟨captured, ids, hids, hqueued⟩ := h.pending queued hq
  obtain ⟨primaryId, primary, matchingIds, hhead, hl, hm, rfl⟩ := queuedPacket_eq_some hqueued
  have hslice := MatchingSubscriptionIds.asSlice_of_ofIds hm
  refine ⟨?_, ?_, ?_, ?_, primary, hl, rfl, rfl⟩
  · rw [hslice]
    intro hnil
    rw [hnil] at hhead
    exact nomatch hhead
  · rw [hslice]
    exact hids.increasing
  · rw [hslice]
    intro id hid
    obtain ⟨subscription, hl, hj⟩ := hids.joined id hid
    exact ⟨subscription, hl, isJoined_iff.mp hj⟩
  · rw [MatchingSubscriptionIds.first, hslice, hhead]
    rfl

end SharedRawContext

namespace System

variable {W : Type} {os : OperatingSystem W}

/-- Every queued packet names joined subscriptions and describes its primary one, and
no leave panics on one.  For any datagrams, capturing them and then leaving gives the
queue of leaving first and presenting the same datagrams to what stays open. -/
theorem leaving_commutes_with_capturing {s : System W} (h : Reachable os s) :
    (∀ queued ∈ s.context.pendingPackets, s.context.QueuedWell queued) ∧
    (∀ id, (step os (.leaveSubscription id) s).1.outcome ≠ .panic) ∧
    ∀ (id : SubscriptionId) (reads : List Read),
      ∃ captured, presentAll reads s.context = some captured ∧
        ∀ (w₁ w₂ : W) (s₁ s₂ : System W),
          leaveSubscription os id { context := captured, world := w₁, events := [] } =
            (.ok (), s₁) →
          leaveSubscription os id { context := s.context, world := w₂, events := [] } =
            (.ok (), s₂) →
          ∃ c, presentAll reads s₂.context = some c ∧
            c.pendingPackets = s₁.context.pendingPackets := by
  have hinv := h.invariant
  refine ⟨fun queued hq => hinv.queuedWell hq,
    fun id => (step_cases os (.leaveSubscription id) hinv).noPanic, fun id reads => ?_⟩
  obtain ⟨captured, hpresent, hinv₁, -⟩ := presentAll_eq hinv reads
  refine ⟨captured, hpresent, fun w₁ w₂ s₁ s₂ hafter hfirst => ?_⟩
  have hleft := leaveSubscription_cases
    (s := { context := captured, world := w₁, events := [] }) hinv₁ rfl hafter
  have hleft' := leaveSubscription_cases
    (s := { context := s.context, world := w₂, events := [] }) hinv rfl hfirst
  exact leave_after_present hinv hpresent hleft hleft'

theorem leaving_commutes_with_capturing_twoCaptures :
    ∃ captured, presentAll [(captureOn 1, emptyCaptured), (captureOn 2, emptyCaptured)]
        twoCaptures.context = some captured ∧
      ∀ (w₁ w₂ : Fd) (s₁ s₂ : System Fd),
        leaveSubscription flooded ⟨1⟩ { context := captured, world := w₁, events := [] } =
          (.ok (), s₁) →
        leaveSubscription flooded ⟨1⟩
            { context := twoCaptures.context, world := w₂, events := [] } = (.ok (), s₂) →
        ∃ c, presentAll [(captureOn 1, emptyCaptured), (captureOn 2, emptyCaptured)] s₂.context =
            some c ∧ c.pendingPackets = s₁.context.pendingPackets :=
  (leaving_commutes_with_capturing twoCaptures_reachable).2.2 ⟨1⟩
    [(captureOn 1, emptyCaptured), (captureOn 2, emptyCaptured)]

end System

end McrxCore
