import McrxCore.Raw.Shared.Join

/-!
# Leaving and removing

`LeaveStep` and `RemoveStep` list what one call can do from a state with the
invariant.  The queue is edited packet by packet: a queued packet becomes the one
its datagram determines with the leaving id erased.
-/

namespace McrxCore

open FiniteMap (tally share Counts)
open SortedList (Increasing)

/-! ## Queued packets without one id -/

section Pending

variable {subscriptions subscriptions' : Subscriptions} {captured : RawCapturedDatagram}
  {ids : List SubscriptionId} {queued : SharedRawPacket}

theorem queuedPacket_eq_some (h : queuedPacket subscriptions captured ids = some queued) :
    ∃ primaryId primary matchingIds, ids.head? = some primaryId ∧
      subscriptions.lookup primaryId = some primary ∧
      MatchingSubscriptionIds.ofIds ids = some matchingIds ∧
      queued =
        { packet := SharedRawContext.rawPacketFromCaptured primaryId primary.config captured
          matchingSubscriptionIds := matchingIds } := by
  simp only [queuedPacket] at h
  split at h
  · cases h
  · rename_i primaryId hhead
    split at h
    · rename_i primary matchingIds hl hm
      exact ⟨primaryId, primary, matchingIds, hhead, hl, hm, (Option.some.inj h).symm⟩
    · cases h

/-- Joined ids, if there are any, have their packet. -/
theorem queuedPacket_isSome (captured : RawCapturedDatagram)
    (hids : JoinedIds subscriptions ids) (hne : ids ≠ []) :
    ∃ queued, queuedPacket subscriptions captured ids = some queued := by
  cases ids with
  | nil => exact absurd rfl hne
  | cons id rest =>
    obtain ⟨primary, hl, -⟩ := hids.joined id List.mem_cons_self
    simp only [queuedPacket, List.head?_cons, hl]
    cases hm : MatchingSubscriptionIds.ofIds (id :: rest) with
    | none => cases MatchingSubscriptionIds.ofIds_eq_none.mp hm
    | some matchingIds => exact ⟨_, rfl⟩

theorem queuedPacket_nil : queuedPacket subscriptions captured [] = none := rfl

/-- One queued packet across a leave: the packet of the remaining ids, which is
none when the leaving id was the only one. -/
theorem withoutMember_eq (id : SubscriptionId) (hids : JoinedIds subscriptions ids)
    (hqueued : queuedPacket subscriptions captured ids = some queued)
    (hconfig : ∀ id, (subscriptions'.lookup id).map SharedRawSubscription.config =
      (subscriptions.lookup id).map SharedRawSubscription.config) :
    SharedRawContext.withoutMember subscriptions' id queued =
      some (queuedPacket subscriptions' captured (ids.erase id)) := by
  obtain ⟨primaryId, primary, matchingIds, hhead, hl, hm, rfl⟩ := queuedPacket_eq_some hqueued
  have hslice := MatchingSubscriptionIds.asSlice_of_ofIds hm
  have hsame : queuedPacket subscriptions' captured ids = queuedPacket subscriptions captured ids :=
    queuedPacket_congr fun id _ => hconfig id
  simp only [SharedRawContext.withoutMember, hslice]
  rw [List.erase_eq_eraseIdx]
  cases hindex : ids.idxOf? id with
  | none => simp only [hsame, hqueued]
  | some index =>
    have hlt : index < ids.length := (List.idxOf?_eq_some_iff.mp hindex).1
    simp only
    split
    · rename_i hone
      have hnil : ids.eraseIdx index = [] := by
        rw [← List.length_eq_zero_iff, List.length_eraseIdx_of_lt hlt, hone]
      rw [hnil, queuedPacket_nil]
    · rename_i hone
      rw [MatchingSubscriptionIds.removeExisting_eq hm hlt (by omega)]
      have hsub : ∀ other ∈ ids.eraseIdx index, other ∈ ids :=
        fun other hother => (List.eraseIdx_sublist _ _).subset hother
      -- The rest is not empty, and its first id is a stored subscription.
      match hrest : ids.eraseIdx index with
      | [] =>
        have hlen := List.length_eraseIdx_of_lt hlt
        rw [hrest, List.length_nil] at hlen
        omega
      | next :: others =>
        have hnext : next ∈ ids := hsub next (hrest ▸ List.mem_cons_self)
        obtain ⟨found, hfound, -⟩ := hids.joined next hnext
        have hfound' := hconfig next
        rw [hfound, Option.map_some, Option.map_eq_some_iff] at hfound'
        obtain ⟨primary', hl', hprimary'⟩ := hfound'
        cases hm' : MatchingSubscriptionIds.ofIds (next :: others) with
        | none => exact nomatch MatchingSubscriptionIds.ofIds_eq_none.mp hm'
        | some remaining =>
          have hfirst : remaining.first = some next := by
            rw [MatchingSubscriptionIds.first, MatchingSubscriptionIds.asSlice_of_ofIds hm',
              List.head?_cons]
          simp only [hfirst, queuedPacket, List.head?_cons, hl', hm']
          split
          · rfl
          · rename_i heq
            rw [Decidable.not_not] at heq
            obtain rfl : primaryId = next := heq
            obtain rfl : primary = found := Option.some.inj (hl.symm.trans hfound)
            simp only [hprimary']

/-- A queued packet across a leave of `id`, when no panic strikes. -/
def demoted (subscriptions : Subscriptions) (id : SubscriptionId) (queued : SharedRawPacket) :
    Option SharedRawPacket :=
  (SharedRawContext.withoutMember subscriptions id queued).getD none

theorem retainPending_eq (id : SubscriptionId) {pending : List SharedRawPacket}
    (h : ∀ queued ∈ pending, PendingConsistent subscriptions queued)
    (hconfig : ∀ id, (subscriptions'.lookup id).map SharedRawSubscription.config =
      (subscriptions.lookup id).map SharedRawSubscription.config) :
    SharedRawContext.retainPending subscriptions' id pending =
      some (pending.filterMap (demoted subscriptions' id)) := by
  induction pending with
  | nil => rfl
  | cons queued rest ih =>
    obtain ⟨captured, ids, hids, hqueued⟩ := h queued List.mem_cons_self
    have hmember := withoutMember_eq id hids hqueued hconfig
    have hrest := ih fun other hother => h other (List.mem_cons_of_mem _ hother)
    have hdemoted : demoted subscriptions' id queued =
        queuedPacket subscriptions' captured (ids.erase id) := by
      rw [demoted, hmember, Option.getD_some]
    rw [SharedRawContext.retainPending, hmember, List.filterMap_cons, hdemoted, hrest]
    cases queuedPacket subscriptions' captured (ids.erase id) with
    | none => rfl
    | some packet => rfl

end Pending

theorem JoinedIds.erase {subscriptions : Subscriptions} {ids : List SubscriptionId}
    {id : SubscriptionId} {subscription : SharedRawSubscription}
    (h : JoinedIds subscriptions ids) :
    JoinedIds (subscriptions.insert id (subscription.withState .bound)) (ids.erase id) := by
  refine ⟨h.increasing.sublist List.erase_sublist, fun other hother => ?_⟩
  obtain ⟨hne, hmem⟩ := (List.Nodup.mem_erase_iff h.increasing.nodup).mp hother
  obtain ⟨found, hfound, hj⟩ := h.joined other hmem
  exact ⟨found, by rw [FiniteMap.lookup_insert_ite, if_neg hne, hfound], hj⟩

/-- What is left of a consistent queue is consistent with the leaving id bound. -/
theorem PendingConsistent.demoted {subscriptions : Subscriptions} {id : SubscriptionId}
    {subscription : SharedRawSubscription} (hl : subscriptions.lookup id = some subscription)
    {queued packet : SharedRawPacket} (h : PendingConsistent subscriptions queued)
    (hdemoted : McrxCore.demoted (subscriptions.insert id (subscription.withState .bound))
      id queued =
      some packet) :
    PendingConsistent (subscriptions.insert id (subscription.withState .bound)) packet := by
  obtain ⟨captured, ids, hids, hqueued⟩ := h
  rw [McrxCore.demoted, withoutMember_eq id hids hqueued (lookup_withState_config hl .bound),
    Option.getD_some] at hdemoted
  exact ⟨captured, ids.erase id, hids.erase, hdemoted⟩

/-! ## Captures across a leave -/

namespace SharedCaptureSocket

def releaseKernel (capture : SharedCaptureSocket) (config : RawSubscriptionConfig)
    (membership : KernelMembership) : FiniteMap KernelMembershipKey KernelMembership :=
  if membership.references = 1 then capture.kernelMemberships.erase (.of config)
  else capture.kernelMemberships.insert (.of config)
    { membership with references := membership.references - 1 }

def recordLeft (capture : SharedCaptureSocket) (id : SubscriptionId)
    (config : RawSubscriptionConfig) (membership : KernelMembership) : SharedCaptureSocket :=
  { capture with
    kernelMemberships := capture.releaseKernel config membership
    demultiplexer := capture.demultiplexer.remove id config
    memberships := capture.memberships - 1 }

end SharedCaptureSocket

section CaptureConsistent

variable {subscriptions : Subscriptions} {id : SubscriptionId}
  {subscription : SharedRawSubscription} {key : RawSharedCaptureKey}
  {capture : SharedCaptureSocket} {membership : KernelMembership}

/-- A consistent capture without memberships has no kernel membership, and
conversely. -/
theorem CaptureConsistent.isEmpty_iff (h : CaptureConsistent subscriptions key capture) :
    capture.kernelMemberships.isEmpty = true ↔ capture.memberships = 0 := by
  rw [FiniteMap.isEmpty_iff, h.memberships, tally_joinedCapture_eq_zero_iff]
  constructor
  · intro hnone membership
    exact (h.kernel membership).2 (hnone membership)
  · intro hzero membership
    cases hm : capture.kernelMemberships.lookup membership with
    | none => rfl
    | some entry =>
      have hpos := ((h.kernel membership).1 entry hm).2
      have hz := hzero membership
      omega

theorem membershipOn_of_isJoined (hjoined : subscription.isJoined = true) :
    subscription.membershipOn subscription.captureKey = some (.of subscription.config) :=
  SharedRawSubscription.membershipOn_eq_some.mpr
    ⟨SharedRawSubscription.joinedCapture_of_isJoined hjoined, rfl⟩

theorem membershipOn_bound (subscription : SharedRawSubscription) :
    (subscription.withState .bound).membershipOn subscription.captureKey = none :=
  SharedRawSubscription.membershipOn_of_ne (by
    rw [SharedRawSubscription.joinedCapture_bound]
    exact (Option.some_ne_none _).symm)

theorem CaptureConsistent.recordLeft
    (h : CaptureConsistent subscriptions subscription.captureKey capture)
    (hl : subscriptions.lookup id = some subscription) (hjoined : subscription.isJoined = true)
    (hheld : capture.kernelMemberships.lookup (.of subscription.config) = some membership) :
    CaptureConsistent (subscriptions.insert id (subscription.withState .bound))
      subscription.captureKey (capture.recordLeft id subscription.config membership) := by
  have hbefore := membershipOn_of_isJoined hjoined
  have hrefs := ((h.kernel _).1 membership hheld).1
  refine ⟨?_, ?_, (h.index.remove id subscription.config).congr fun group source other => ?_⟩
  · have htally := tally_bound hl SharedRawSubscription.joinedCapture_bound subscription.captureKey
    rw [if_pos (SharedRawSubscription.joinedCapture_of_isJoined hjoined)] at htally
    have hcount := h.memberships
    show capture.memberships - 1 = _
    omega
  · have htally := tally_bound hl (membershipOn_bound subscription)
    have hsame : ∀ other, other ≠ KernelMembershipKey.of subscription.config →
        tally (SharedRawSubscription.membershipOn subscription.captureKey)
          (subscriptions.insert id (subscription.withState .bound)) other =
        tally (SharedRawSubscription.membershipOn subscription.captureKey) subscriptions other := by
      intro other hother
      have ht := htally other
      rw [hbefore, if_neg fun heq => hother (Option.some.inj heq).symm] at ht
      omega
    have hone := htally (.of subscription.config)
    rw [hbefore, if_pos rfl] at hone
    show Counts _ (capture.releaseKernel subscription.config membership) _
    rw [SharedCaptureSocket.releaseKernel]
    split
    · exact Counts.erase h.kernel (by omega) hsame
    · refine Counts.insert h.kernel ?_ (by omega) hsame
      show membership.references - 1 = _
      omega
  · rw [holds_insert]
    split
    · rename_i heq
      subst heq
      rw [membershipOn_bound]
      constructor
      · intro hm
        cases hm
      · intro hand
        obtain ⟨hnot, held, hheld', hm⟩ := hand
        obtain rfl : subscription = held := Option.some.inj (hl.symm.trans hheld')
        rw [hbefore, Option.some.injEq, KernelMembershipKey.of_eq_iff] at hm
        exact absurd ⟨hm.1, hm.2, rfl⟩ hnot
    · rename_i hne
      exact ⟨fun hholds => ⟨fun hall => hne hall.2.2, hholds⟩, fun hand => hand.2⟩

/-- A bound subscription takes nothing with it that counts on a capture. -/
theorem CaptureConsistent.erase_bound (h : CaptureConsistent subscriptions key capture)
    (hl : subscriptions.lookup id = some subscription) (hbound : subscription.isJoined = false) :
    CaptureConsistent (subscriptions.erase id) key capture := by
  have hnone := SharedRawSubscription.joinedCapture_of_not_isJoined hbound
  have hmembership : subscription.membershipOn key = none :=
    SharedRawSubscription.membershipOn_of_ne (by simp [hnone])
  refine ⟨?_, h.kernel.congr fun membership => ?_, h.index.congr fun group source other => ?_⟩
  · have htally := FiniteMap.tally_erase SharedRawSubscription.joinedCapture hl key
    rw [share, hnone, if_neg (by simp)] at htally
    rw [h.memberships]
    omega
  · have htally := FiniteMap.tally_erase (SharedRawSubscription.membershipOn key) hl membership
    rw [share, hmembership, if_neg (by simp)] at htally
    omega
  · constructor
    · intro hholds
      obtain ⟨held, hheld, hm⟩ := hholds
      rw [FiniteMap.lookup_erase_ite] at hheld
      split at hheld
      · cases hheld
      · exact ⟨held, hheld, hm⟩
    · intro hholds
      obtain ⟨held, hheld, hm⟩ := hholds
      refine ⟨held, ?_, hm⟩
      rw [FiniteMap.lookup_erase_ite, if_neg, hheld]
      intro heq
      rw [heq, hl] at hheld
      obtain rfl := Option.some.inj hheld
      rw [hmembership] at hm
      cases hm

end CaptureConsistent

namespace SharedRawContext

variable {W : Type} {os : OperatingSystem W}

/-! ## Leaving -/

def left (c : SharedRawContext) (id : SubscriptionId) (subscription : SharedRawSubscription)
    (capture : SharedCaptureSocket) : SharedRawContext :=
  let subscriptions := c.subscriptions.insert id (subscription.withState .bound)
  { c with
    captures := c.captures.insert subscription.captureKey capture
    subscriptions := subscriptions
    pendingPackets := c.pendingPackets.filterMap (demoted subscriptions id) }

inductive LeaveStep (c : SharedRawContext) (id : SubscriptionId) :
    Outcome Unit → SharedRawContext → List Event → Prop
  | refused (e : McrxError) : LeaveStep c id (.err e) c []
  | leaveFailed {subscription : SharedRawSubscription} {capture : SharedCaptureSocket}
      {membership : KernelMembership} (e : McrxError)
      (hl : c.subscriptions.lookup id = some subscription)
      (hjoined : subscription.isJoined = true)
      (hcapture : c.captures.lookup subscription.captureKey = some capture)
      (hheld : capture.kernelMemberships.lookup (.of subscription.config) = some membership)
      (hlast : membership.references = 1) :
      LeaveStep c id (.err e) c
        [.kernelLeave subscription.captureKey membership.joinedConfig false]
  | leftShared {subscription : SharedRawSubscription} {capture : SharedCaptureSocket}
      {membership : KernelMembership} (hl : c.subscriptions.lookup id = some subscription)
      (hjoined : subscription.isJoined = true)
      (hcapture : c.captures.lookup subscription.captureKey = some capture)
      (hheld : capture.kernelMemberships.lookup (.of subscription.config) = some membership)
      (hshared : membership.references ≠ 1) (hopen : capture.memberships ≠ 1) :
      LeaveStep c id (.ok ())
        (c.left id subscription (capture.recordLeft id subscription.config membership)) []
  | leftLast {subscription : SharedRawSubscription} {capture : SharedCaptureSocket}
      {membership : KernelMembership} (hl : c.subscriptions.lookup id = some subscription)
      (hjoined : subscription.isJoined = true)
      (hcapture : c.captures.lookup subscription.captureKey = some capture)
      (hheld : capture.kernelMemberships.lookup (.of subscription.config) = some membership)
      (hlast : membership.references = 1) (hopen : capture.memberships ≠ 1) :
      LeaveStep c id (.ok ())
        (c.left id subscription (capture.recordLeft id subscription.config membership))
        [.kernelLeave subscription.captureKey membership.joinedConfig true]
  | closed {subscription : SharedRawSubscription} {capture : SharedCaptureSocket}
      {membership : KernelMembership} (hl : c.subscriptions.lookup id = some subscription)
      (hjoined : subscription.isJoined = true)
      (hcapture : c.captures.lookup subscription.captureKey = some capture)
      (hheld : capture.kernelMemberships.lookup (.of subscription.config) = some membership)
      (hlast : membership.references = 1) (hone : capture.memberships = 1) :
      LeaveStep c id (.ok ())
        ((c.left id subscription
          (capture.recordLeft id subscription.config membership)).closeCapture
            subscription.captureKey)
        [.kernelLeave subscription.captureKey membership.joinedConfig true,
          .captureClosed subscription.captureKey]

theorem LeaveStep.context_of_err {c c' : SharedRawContext} {id : SubscriptionId} {e : McrxError}
    {events : List Event} (h : LeaveStep c id (.err e) c' events) : c' = c := by
  cases h with
  | refused => rfl
  | leaveFailed => rfl

/-- The subscription of a successful leave, before and after. -/
theorem LeaveStep.subscriptions_of_ok {c c' : SharedRawContext} {id : SubscriptionId}
    {events : List Event} (h : LeaveStep c id (.ok ()) c' events) :
    ∃ subscription, c.subscriptions.lookup id = some subscription ∧
      subscription.isJoined = true ∧
      c'.subscriptions = c.subscriptions.insert id (subscription.withState .bound) ∧
      c'.pendingPackets = c.pendingPackets.filterMap (demoted c'.subscriptions id) ∧
      c'.nextSubscriptionId = c.nextSubscriptionId := by
  cases h with
  | leftShared hl hjoined => exact ⟨_, hl, hjoined, rfl, rfl, rfl⟩
  | leftLast hl hjoined => exact ⟨_, hl, hjoined, rfl, rfl, rfl⟩
  | closed hl hjoined => exact ⟨_, hl, hjoined, rfl, rfl, rfl⟩

theorem Invariant.capture_of_joined {c : SharedRawContext} (h : c.Invariant)
    {id : SubscriptionId} {subscription : SharedRawSubscription}
    (hl : c.subscriptions.lookup id = some subscription) (hjoined : subscription.isJoined = true) :
    ∃ capture membership, c.captures.lookup subscription.captureKey = some capture ∧
      capture.kernelMemberships.lookup (.of subscription.config) = some membership := by
  obtain ⟨capture, hcapture, -⟩ := h.counted.lookup_pos
    (FiniteMap.tally_pos_iff.mpr ⟨id, subscription, hl,
      SharedRawSubscription.joinedCapture_of_isJoined hjoined⟩)
  obtain ⟨membership, hheld, -⟩ := (h.consistent _ _ hcapture).kernel.lookup_pos
    (FiniteMap.tally_pos_iff.mpr ⟨id, subscription, hl, membershipOn_of_isJoined hjoined⟩)
  exact ⟨capture, membership, hcapture, hheld⟩

theorem releaseMembership_cases {key : RawSharedCaptureKey} {capture : SharedCaptureSocket}
    {config : RawSubscriptionConfig} {membership : KernelMembership} {s s' : System W}
    {r : Outcome SharedCaptureSocket}
    (hheld : capture.kernelMemberships.lookup (.of config) = some membership)
    (hpos : 0 < membership.references)
    (h : releaseMembership os key capture config s = (r, s')) :
    s'.context = s.context ∧
      ((∃ e, r = .err e ∧ membership.references = 1 ∧
          s'.events = s.events ++ [.kernelLeave key membership.joinedConfig false]) ∨
        (r = .ok { capture with kernelMemberships := capture.releaseKernel config membership } ∧
          ((membership.references = 1 ∧
              s'.events = s.events ++ [.kernelLeave key membership.joinedConfig true]) ∨
            (membership.references ≠ 1 ∧ s'.events = s.events)))) := by
  simp only [releaseMembership, hheld] at h
  split at h
  · rename_i hlast
    split at h
    · rename_i e w hleave
      cases h
      exact ⟨rfl, Or.inl ⟨e, rfl, hlast, rfl⟩⟩
    · rename_i w hleave
      cases h
      refine ⟨rfl, Or.inr ⟨?_, Or.inl ⟨hlast, rfl⟩⟩⟩
      rw [SharedCaptureSocket.releaseKernel, if_pos hlast]
  · rename_i hshared
    rw [if_neg (by omega)] at h
    cases h
    refine ⟨rfl, Or.inr ⟨?_, Or.inr ⟨hshared, rfl⟩⟩⟩
    rw [SharedCaptureSocket.releaseKernel, if_neg hshared]

/-- With consistent counts the subtraction and the assertion of a leave succeed. -/
theorem recordLeave_eq {subscriptions : Subscriptions} {id : SubscriptionId}
    {subscription : SharedRawSubscription} {capture : SharedCaptureSocket}
    {membership : KernelMembership}
    (h : CaptureConsistent subscriptions subscription.captureKey capture)
    (hl : subscriptions.lookup id = some subscription) (hjoined : subscription.isJoined = true)
    (hheld : capture.kernelMemberships.lookup (.of subscription.config) = some membership) :
    ({ capture with kernelMemberships :=
        capture.releaseKernel subscription.config membership } : SharedCaptureSocket).recordLeave
        id subscription.config =
      some (capture.recordLeft id subscription.config membership) := by
  have hpos : 0 < capture.memberships := by
    rw [h.memberships]
    exact FiniteMap.tally_pos_iff.mpr
      ⟨id, subscription, hl, SharedRawSubscription.joinedCapture_of_isJoined hjoined⟩
  have hempty := (h.recordLeft hl hjoined hheld).isEmpty_iff
  simp only [SharedCaptureSocket.recordLeft] at hempty
  have hassert : decide (capture.memberships - 1 = 0) =
      (capture.releaseKernel subscription.config membership).isEmpty := by
    rw [Bool.eq_iff_iff, decide_eq_true_eq, hempty]
  rw [SharedCaptureSocket.recordLeave, if_neg (by simp only; omega)]
  simp only [hassert, ne_eq, not_true_eq_false, if_false]
  rfl

theorem finishLeave_eq {c : SharedRawContext} (h : c.Invariant) {id : SubscriptionId}
    {subscription : SharedRawSubscription} {capture : SharedCaptureSocket}
    (hl : c.subscriptions.lookup id = some subscription) :
    c.finishLeave id subscription.captureKey capture = some (c.left id subscription capture) := by
  have hretain := retainPending_eq id h.pending (lookup_withState_config hl .bound)
  simp only [SharedRawSubscription.withState] at hretain
  simp only [finishLeave, setState, hl, removePendingMembership, hretain]
  rfl

theorem leaveSubscription_cases {id : SubscriptionId} {s s' : System W} {r : Outcome Unit}
    (hinv : s.context.Invariant) (hevents : s.events = [])
    (h : leaveSubscription os id s = (r, s')) :
    LeaveStep s.context id r s'.context s'.events := by
  simp only [leaveSubscription] at h
  split at h
  · cases h
    rw [hevents]
    exact .refused _
  · rename_i subscription hl
    by_cases hjoined : subscription.isJoined = true
    · rw [if_neg (by simp [hjoined])] at h
      obtain ⟨capture, membership, hcapture, hheld⟩ := hinv.capture_of_joined hl hjoined
      have hconsistent := hinv.consistent _ _ hcapture
      have hpos : 0 < membership.references := by
        have hcount := (hconsistent.kernel _).1 membership hheld
        omega
      simp only [hcapture] at h
      split at h
      · rename_i e s₁ hrelease
        cases h
        obtain ⟨hc, ⟨_, -, hlast, he⟩ | ⟨hr, -⟩⟩ := releaseMembership_cases hheld hpos hrelease
        · rw [hc, he, hevents]
          exact .leaveFailed e hl hjoined hcapture hheld hlast
        · exact nomatch hr
      · rename_i s₁ hrelease
        obtain ⟨-, ⟨_, hr, -⟩ | ⟨hr, -⟩⟩ := releaseMembership_cases hheld hpos hrelease
        · exact nomatch hr
        · exact nomatch hr
      · rename_i released s₁ hrelease
        obtain ⟨hc, ⟨_, hr, -⟩ | ⟨hr, hor⟩⟩ := releaseMembership_cases hheld hpos hrelease
        · exact nomatch hr
        · cases hr
          simp only [recordLeave_eq hconsistent hl hjoined hheld, hc, finishLeave_eq hinv hl] at h
          have hafter := hconsistent.recordLeft hl hjoined hheld
          split at h
          · -- The capture has no membership left, so the leave was the last one.
            rename_i hzero
            have hempty := hafter.isEmpty_iff.mpr hzero
            have hone : capture.memberships = 1 := by
              have hmemberships := hconsistent.memberships
              have htally := FiniteMap.tally_pos_iff.mpr ⟨id, subscription, hl,
                SharedRawSubscription.joinedCapture_of_isJoined hjoined⟩
              simp only [SharedCaptureSocket.recordLeft] at hzero
              omega
            have hlast : membership.references = 1 := by
              by_contra hshared
              simp only [SharedCaptureSocket.recordLeft, SharedCaptureSocket.releaseKernel,
                if_neg hshared] at hempty
              have hnone := FiniteMap.isEmpty_iff.mp hempty (.of subscription.config)
              rw [Finmap.lookup_insert] at hnone
              exact nomatch hnone
            have hmem : subscription.captureKey ∈ (s.context.left id subscription
                (capture.recordLeft id subscription.config membership)).captureOrder :=
              (hinv.mem_order _).mpr ⟨capture, hcapture⟩
            have hopen : (s.context.left id subscription
                (capture.recordLeft id subscription.config membership)).captures.lookup
                  subscription.captureKey =
                some (capture.recordLeft id subscription.config membership) :=
              Finmap.lookup_insert _
            simp only [removeCapture, System.withContext, hopen, System.observe,
              withoutCapture_eq hmem] at h
            cases h
            rcases hor with ⟨-, he⟩ | ⟨hshared, -⟩
            · simp only [he, hevents]
              exact .closed hl hjoined hcapture hheld hlast hone
            · exact absurd hlast hshared
          · rename_i hzero
            have hopen : capture.memberships ≠ 1 := by
              simp only [SharedCaptureSocket.recordLeft] at hzero
              omega
            cases h
            rcases hor with ⟨hlast, he⟩ | ⟨hshared, he⟩
            · simp only [System.withContext, he, hevents]
              exact .leftLast hl hjoined hcapture hheld hlast hopen
            · simp only [System.withContext, he, hevents]
              exact .leftShared hl hjoined hcapture hheld hshared hopen
    · rw [if_pos (by simpa using hjoined)] at h
      cases h
      rw [hevents]
      exact .refused _

/-! ## The invariant across a leave -/

section Left

variable {c : SharedRawContext} {id : SubscriptionId} {subscription : SharedRawSubscription}
  {capture : SharedCaptureSocket}

/-- The parts of the invariant that do not mention the captures. -/
theorem Invariant.of_left (h : c.Invariant) (hl : c.subscriptions.lookup id = some subscription)
    {c' : SharedRawContext}
    (hsubscriptions : c'.subscriptions = c.subscriptions.insert id (subscription.withState .bound))
    (hresolved : c'.resolvedCaptureKeys = c.resolvedCaptureKeys)
    (hpending : c'.pendingPackets = c.pendingPackets.filterMap (demoted c'.subscriptions id))
    (horder_nodup : c'.captureOrder.Nodup)
    (hmem_order : ∀ key, key ∈ c'.captureOrder ↔ ∃ capture, c'.captures.lookup key = some capture)
    (hcursor : c'.nextCaptureIndex < c'.captureOrder.length ∨
      c'.captureOrder = [] ∧ c'.nextCaptureIndex = 0)
    (hcounted : Counts SharedCaptureSocket.memberships c'.captures
      (tally SharedRawSubscription.joinedCapture c'.subscriptions))
    (hconsistent : ∀ key capture, c'.captures.lookup key = some capture →
      CaptureConsistent c'.subscriptions key capture) : c'.Invariant := by
  refine
    { order_nodup := horder_nodup
      mem_order := hmem_order
      cursor := hcursor
      counted := hcounted
      consistent := hconsistent
      selectors := ?_
      resolved := ?_
      resolvedKey := fun other found resolved hfound hr => ?_
      subscription_id := fun other found hfound => ?_
      validated := fun other found hfound => ?_
      pending := fun packet hpacket => ?_ }
  · rw [hresolved, hsubscriptions]
    exact h.selectors.congr (tally_withState hl .bound rfl)
  · rw [hresolved]
    exact h.resolved
  · rw [hsubscriptions] at hfound
    obtain ⟨before, hbefore, -, hconfig, hkey⟩ := lookup_withState hl hfound
    rw [hresolved, hconfig] at hr
    rw [hkey]
    exact h.resolvedKey other before resolved hbefore hr
  · rw [hsubscriptions] at hfound
    obtain ⟨before, hbefore, hid, -, -⟩ := lookup_withState hl hfound
    rw [hid]
    exact h.subscription_id other before hbefore
  · rw [hsubscriptions] at hfound
    obtain ⟨before, hbefore, -, hconfig, -⟩ := lookup_withState hl hfound
    rw [hconfig]
    exact h.validated other before hbefore
  · rw [hpending, List.mem_filterMap] at hpacket
    obtain ⟨queued, hq, hdemoted⟩ := hpacket
    rw [hsubscriptions] at hdemoted ⊢
    exact (h.pending queued hq).demoted hl hdemoted

/-- The tallies of the captures across a leave. -/
theorem tally_left (hl : c.subscriptions.lookup id = some subscription)
    (hjoined : subscription.isJoined = true) (key : RawSharedCaptureKey) :
    tally SharedRawSubscription.joinedCapture
          (c.subscriptions.insert id (subscription.withState .bound)) key +
        (if subscription.captureKey = key then 1 else 0) =
      tally SharedRawSubscription.joinedCapture c.subscriptions key := by
  have h := tally_bound hl SharedRawSubscription.joinedCapture_bound key
  simp only [SharedRawSubscription.joinedCapture_of_isJoined hjoined, Option.some.injEq] at h
  exact h

theorem Invariant.left (h : c.Invariant) (hl : c.subscriptions.lookup id = some subscription)
    (hjoined : subscription.isJoined = true)
    (hcapture : c.captures.lookup subscription.captureKey = some capture)
    {membership : KernelMembership}
    (hheld : capture.kernelMemberships.lookup (.of subscription.config) = some membership)
    (hopen : capture.memberships ≠ 1) :
    (c.left id subscription
      (capture.recordLeft id subscription.config membership)).Invariant := by
  have hbefore := h.consistent _ _ hcapture
  have hafter := hbefore.recordLeft hl hjoined hheld
  have htally := tally_left hl hjoined
  refine h.of_left hl rfl rfl rfl h.order_nodup (fun key => ?_) h.cursor ?_
    fun key other hother => ?_
  · simp only [SharedRawContext.left, FiniteMap.lookup_insert_ite]
    rw [h.mem_order]
    split
    · rename_i heq
      subst heq
      simp [hcapture]
    · rfl
  · refine Counts.insert h.counted hafter.memberships ?_ fun key hkey => ?_
    · have hone := htally subscription.captureKey
      rw [if_pos rfl] at hone
      have hmemberships := hbefore.memberships
      simp only [SharedRawContext.left]
      omega
    · have hsame := htally key
      rw [if_neg (Ne.symm hkey)] at hsame
      exact hsame
  · simp only [SharedRawContext.left, FiniteMap.lookup_insert_ite] at hother
    split at hother
    · rename_i heq
      subst heq
      obtain rfl := Option.some.inj hother
      exact hafter
    · rename_i hne
      exact (h.consistent key other hother).withState_of_ne hl .bound (Ne.symm hne)

/-- The cursor `remove_capture` leaves is an index of the remaining order. -/
theorem wrappedCursor (captureOrder : List RawSharedCaptureKey) (index : Nat) :
    (if captureOrder.isEmpty then 0 else index % captureOrder.length) < captureOrder.length ∨
      captureOrder = [] ∧
        (if captureOrder.isEmpty then 0 else index % captureOrder.length) = 0 := by
  cases captureOrder with
  | nil => exact Or.inr ⟨rfl, rfl⟩
  | cons first rest => exact Or.inl (Nat.mod_lt _ (Nat.succ_pos _))

theorem Invariant.closed (h : c.Invariant) (hl : c.subscriptions.lookup id = some subscription)
    (hjoined : subscription.isJoined = true)
    (hcapture : c.captures.lookup subscription.captureKey = some capture)
    (hone : capture.memberships = 1) {capture' : SharedCaptureSocket} :
    ((c.left id subscription capture').closeCapture subscription.captureKey).Invariant := by
  have hbefore := h.consistent _ _ hcapture
  have htally := tally_left hl hjoined
  have hlookup : ∀ key, ((c.left id subscription capture').closeCapture
      subscription.captureKey).captures.lookup key =
        if key = subscription.captureKey then none else c.captures.lookup key := by
    intro key
    simp only [closeCapture, SharedRawContext.left, FiniteMap.lookup_erase_ite,
      FiniteMap.lookup_insert_ite]
    split
    · rfl
    · rfl
  refine h.of_left hl rfl rfl rfl (h.order_nodup.erase _) (fun key => ?_) ?_ ?_
    fun key other hother => ?_
  · rw [hlookup]
    show key ∈ c.captureOrder.erase subscription.captureKey ↔ _
    rw [List.Nodup.mem_erase_iff h.order_nodup, h.mem_order]
    split
    · rename_i heq
      simp [heq]
    · rename_i hne
      simp [hne]
  · exact wrappedCursor _ _
  · intro key
    rw [hlookup]
    split
    · rename_i heq
      subst heq
      refine ⟨fun capture hnone => absurd hnone (Option.some_ne_none _).symm, fun _ => ?_⟩
      have hkey := htally subscription.captureKey
      rw [if_pos rfl, ← hbefore.memberships, hone] at hkey
      simp only [closeCapture, SharedRawContext.left]
      omega
    · rename_i hne
      have hsame := htally key
      rw [if_neg (Ne.symm hne), Nat.add_zero] at hsame
      simp only [closeCapture, SharedRawContext.left, hsame]
      exact h.counted key
  · rw [hlookup] at hother
    split at hother
    · cases hother
    · rename_i hne
      exact (h.consistent key other hother).withState_of_ne hl .bound (Ne.symm hne)

theorem LeaveStep.invariant {c' : SharedRawContext} {r : Outcome Unit} {events : List Event}
    (hstep : LeaveStep c id r c' events) (h : c.Invariant) : c'.Invariant := by
  cases hstep with
  | refused => exact h
  | leaveFailed => exact h
  | leftShared hl hjoined hcapture hheld _ hopen => exact h.left hl hjoined hcapture hheld hopen
  | leftLast hl hjoined hcapture hheld _ hopen => exact h.left hl hjoined hcapture hheld hopen
  | closed hl hjoined hcapture _ _ hone => exact h.closed hl hjoined hcapture hone

theorem LeaveStep.idsUpTo {c' : SharedRawContext} {r : Outcome Unit} {events : List Event}
    (hstep : LeaveStep c id r c' events) {n : Nat} (h : c.IdsUpTo n) : c'.IdsUpTo n := by
  match r with
  | .err e =>
    rw [hstep.context_of_err]
    exact h
  | .panic => exact nomatch hstep
  | .ok () =>
    obtain ⟨subscription, hl, -, hsubscriptions, -, hnextId⟩ := hstep.subscriptions_of_ok
    obtain ⟨m, hm, hnext, hids⟩ := h
    refine ⟨m, hm, hnextId.trans hnext, fun other found hfound => ?_⟩
    rw [hsubscriptions] at hfound
    obtain ⟨before, hbefore, -⟩ := lookup_withState hl hfound
    exact hids other before hbefore

end Left

/-! ## Removing -/

def releaseResolved (c : SharedRawContext) (config : RawSubscriptionConfig)
    (resolved : ResolvedCaptureKey) : FiniteMap CaptureSelector ResolvedCaptureKey :=
  if resolved.references = 1 then c.resolvedCaptureKeys.erase (.of config)
  else c.resolvedCaptureKeys.insert (.of config)
    { resolved with references := resolved.references - 1 }

def removed (c : SharedRawContext) (id : SubscriptionId) (config : RawSubscriptionConfig)
    (resolved : ResolvedCaptureKey) : SharedRawContext :=
  { c with
    subscriptions := c.subscriptions.erase id
    resolvedCaptureKeys := c.releaseResolved config resolved }

inductive RemoveStep (c : SharedRawContext) (id : SubscriptionId) :
    Outcome Bool → SharedRawContext → List Event → Prop
  | missing (hnone : c.subscriptions.lookup id = none) : RemoveStep c id (.ok false) c []
  | leaveFailed {c' : SharedRawContext} {e : McrxError} {events : List Event}
      (hleave : LeaveStep c id (.err e) c' events) : RemoveStep c id (.err e) c' events
  | removedBound {subscription : SharedRawSubscription} {resolved : ResolvedCaptureKey}
      (hl : c.subscriptions.lookup id = some subscription)
      (hbound : subscription.isJoined = false)
      (hresolved : c.resolvedCaptureKeys.lookup (.of subscription.config) = some resolved) :
      RemoveStep c id (.ok true) (c.removed id subscription.config resolved) []
  | leftRemoved {subscription : SharedRawSubscription} {c' : SharedRawContext}
      {events : List Event} {resolved : ResolvedCaptureKey}
      (hl : c.subscriptions.lookup id = some subscription)
      (hjoined : subscription.isJoined = true) (hleave : LeaveStep c id (.ok ()) c' events)
      (hl' : c'.subscriptions.lookup id = some (subscription.withState .bound))
      (hresolved : c'.resolvedCaptureKeys.lookup (.of subscription.config) = some resolved) :
      RemoveStep c id (.ok true) (c'.removed id subscription.config resolved) events

theorem Invariant.resolved_of_lookup {c : SharedRawContext} (h : c.Invariant)
    {id : SubscriptionId} {subscription : SharedRawSubscription}
    (hl : c.subscriptions.lookup id = some subscription) :
    ∃ resolved, c.resolvedCaptureKeys.lookup (.of subscription.config) = some resolved ∧
      0 < resolved.references := by
  have hpos : 0 < tally SharedRawSubscription.selector c.subscriptions
      (.of subscription.config) := FiniteMap.tally_pos_iff.mpr ⟨id, subscription, hl, rfl⟩
  obtain ⟨resolved, hresolved, hrefs⟩ := h.selectors.lookup_pos hpos
  exact ⟨resolved, hresolved, by omega⟩

theorem releaseCaptureKey_eq {c : SharedRawContext} {id : SubscriptionId}
    {config : RawSubscriptionConfig} {resolved : ResolvedCaptureKey}
    (hresolved : c.resolvedCaptureKeys.lookup (.of config) = some resolved)
    (hpos : 0 < resolved.references) :
    ({ c with subscriptions := c.subscriptions.erase id } : SharedRawContext).releaseCaptureKey
        config =
      some (c.removed id config resolved) := by
  simp only [releaseCaptureKey, hresolved, removed, releaseResolved]
  rw [if_neg (by omega)]
  by_cases hlast : resolved.references = 1
  · rw [if_pos (by omega), if_pos hlast]
  · rw [if_neg (by omega), if_neg hlast]

theorem removeSubscription_cases {id : SubscriptionId} {s s' : System W} {r : Outcome Bool}
    (hinv : s.context.Invariant) (hevents : s.events = [])
    (h : removeSubscription os id s = (r, s')) :
    RemoveStep s.context id r s'.context s'.events := by
  simp only [removeSubscription] at h
  split at h
  · rename_i hnone
    cases h
    rw [hevents]
    exact .missing hnone
  · rename_i subscription hl
    by_cases hjoined : subscription.isJoined = true
    · rw [if_pos hjoined] at h
      cases hleft : leaveSubscription os id s with
      | mk outcome s₁ =>
        have hleave := leaveSubscription_cases hinv hevents hleft
        rw [hleft] at h
        match outcome, hleave with
        | .err e, hleave =>
          cases h
          exact .leaveFailed hleave
        | .ok (), hleave =>
          obtain ⟨before, hbefore, -, hsubscriptions, -⟩ := hleave.subscriptions_of_ok
          obtain rfl : subscription = before := Option.some.inj (hl.symm.trans hbefore)
          have hl₁ : s₁.context.subscriptions.lookup id =
              some (subscription.withState .bound) := by
            rw [hsubscriptions, Finmap.lookup_insert]
          obtain ⟨resolved, hresolved, hpos⟩ :=
            (hleave.invariant hinv).resolved_of_lookup hl₁
          simp only [hl₁, releaseCaptureKey_eq hresolved hpos] at h
          cases h
          have hstep := RemoveStep.leftRemoved hl hjoined hleave hl₁ hresolved
          exact hstep
    · rw [if_neg hjoined] at h
      obtain ⟨resolved, hresolved, hpos⟩ := hinv.resolved_of_lookup hl
      simp only [hl, releaseCaptureKey_eq hresolved hpos] at h
      cases h
      simp only [System.withContext, hevents]
      exact .removedBound hl (by simpa using hjoined) hresolved

theorem RemoveStep.context_of_err {c c' : SharedRawContext} {id : SubscriptionId} {e : McrxError}
    {events : List Event} (h : RemoveStep c id (.err e) c' events) : c' = c := by
  cases h with
  | leaveFailed hleave => exact hleave.context_of_err

section Removed

variable {c : SharedRawContext} {id : SubscriptionId} {subscription : SharedRawSubscription}
  {resolved : ResolvedCaptureKey}

theorem lookup_erase {subscriptions : Subscriptions} {other : SubscriptionId}
    {found : SharedRawSubscription} (h : (subscriptions.erase id).lookup other = some found) :
    subscriptions.lookup other = some found := by
  rw [FiniteMap.lookup_erase_ite] at h
  split at h
  · exact nomatch h
  · exact h

/-- Whatever the cache still holds was there before, with the same key. -/
theorem lookup_releaseResolved
    (hresolved : c.resolvedCaptureKeys.lookup (.of subscription.config) = some resolved)
    {selector : CaptureSelector} {entry : ResolvedCaptureKey}
    (h : (c.releaseResolved subscription.config resolved).lookup selector = some entry) :
    ∃ before, c.resolvedCaptureKeys.lookup selector = some before ∧ before.key = entry.key := by
  rw [releaseResolved] at h
  split at h
  · rw [FiniteMap.lookup_erase_ite] at h
    split at h
    · exact nomatch h
    · exact ⟨entry, h, rfl⟩
  · rw [FiniteMap.lookup_insert_ite] at h
    split at h
    · rename_i heq
      obtain rfl := Option.some.inj h
      exact ⟨resolved, heq ▸ hresolved, rfl⟩
    · exact ⟨entry, h, rfl⟩

theorem Invariant.selectors_removed (h : c.Invariant)
    (hl : c.subscriptions.lookup id = some subscription)
    (hresolved : c.resolvedCaptureKeys.lookup (.of subscription.config) = some resolved) :
    Counts ResolvedCaptureKey.references (c.releaseResolved subscription.config resolved)
      (tally SharedRawSubscription.selector (c.subscriptions.erase id)) := by
  have hrefs := (h.selectors _).1 resolved hresolved
  have htally : ∀ selector, tally SharedRawSubscription.selector
      (c.subscriptions.erase id) selector +
      (if some (CaptureSelector.of subscription.config) = some selector then 1 else 0) =
        tally SharedRawSubscription.selector c.subscriptions selector :=
    FiniteMap.tally_erase SharedRawSubscription.selector hl
  have hsame : ∀ selector, selector ≠ CaptureSelector.of subscription.config →
      tally SharedRawSubscription.selector (c.subscriptions.erase id) selector =
        tally SharedRawSubscription.selector c.subscriptions selector := by
    intro selector hne
    have ht := htally selector
    rw [if_neg fun heq => hne (Option.some.inj heq).symm] at ht
    exact ht
  have hone := htally (.of subscription.config)
  rw [if_pos rfl] at hone
  rw [releaseResolved]
  split
  · exact Counts.erase h.selectors (by omega) hsame
  · refine Counts.insert h.selectors ?_ (by omega) hsame
    show resolved.references - 1 = _
    omega

theorem Invariant.removed (h : c.Invariant) (hl : c.subscriptions.lookup id = some subscription)
    (hbound : subscription.isJoined = false)
    (hresolved : c.resolvedCaptureKeys.lookup (.of subscription.config) = some resolved) :
    (c.removed id subscription.config resolved).Invariant := by
  refine
    { order_nodup := h.order_nodup
      mem_order := h.mem_order
      cursor := h.cursor
      counted := h.counted.congr fun key => ?_
      consistent := fun key capture hcapture =>
        (h.consistent key capture hcapture).erase_bound hl hbound
      selectors := h.selectors_removed hl hresolved
      resolved := fun selector entry hentry => ?_
      resolvedKey := fun other found entry hfound hentry => ?_
      subscription_id := fun other found hfound =>
        h.subscription_id other found (lookup_erase hfound)
      validated := fun other found hfound => h.validated other found (lookup_erase hfound)
      pending := fun queued hq => ?_ }
  · have hcapture := FiniteMap.tally_erase SharedRawSubscription.joinedCapture hl key
    rw [share, SharedRawSubscription.joinedCapture_of_not_isJoined hbound, if_neg (by simp)]
      at hcapture
    exact hcapture
  · obtain ⟨before, hbefore, hkey⟩ := lookup_releaseResolved hresolved hentry
    rw [← hkey]
    exact h.resolved selector before hbefore
  · obtain ⟨before, hbefore, hkey⟩ := lookup_releaseResolved hresolved hentry
    rw [← hkey]
    exact h.resolvedKey other found before (lookup_erase hfound) hbefore
  · refine (h.pending queued hq).congr fun other found hfound hj => ⟨found, ?_, hj, rfl⟩
    show (c.subscriptions.erase id).lookup other = some found
    rw [FiniteMap.lookup_erase_ite, if_neg, hfound]
    intro heq
    rw [heq, hl] at hfound
    obtain rfl := Option.some.inj hfound
    rw [hbound] at hj
    cases hj

theorem IdsUpTo.removed {n : Nat} (h : c.IdsUpTo n) {config : RawSubscriptionConfig} :
    (c.removed id config resolved).IdsUpTo n := by
  obtain ⟨m, hm, hnext, hids⟩ := h
  exact ⟨m, hm, hnext, fun other found hfound => hids other found (lookup_erase hfound)⟩

theorem RemoveStep.invariant {c' : SharedRawContext} {r : Outcome Bool} {events : List Event}
    (hstep : RemoveStep c id r c' events) (h : c.Invariant) : c'.Invariant := by
  cases hstep with
  | missing => exact h
  | leaveFailed hleave => exact hleave.invariant h
  | removedBound hl hbound hresolved => exact h.removed hl hbound hresolved
  | leftRemoved hl hjoined hleave hl' hresolved =>
    have hremoved := (hleave.invariant h).removed hl' rfl hresolved
    exact hremoved

theorem RemoveStep.idsUpTo {c' : SharedRawContext} {r : Outcome Bool} {events : List Event}
    (hstep : RemoveStep c id r c' events) {n : Nat} (h : c.IdsUpTo n) : c'.IdsUpTo n := by
  cases hstep with
  | missing => exact h
  | leaveFailed hleave => exact hleave.idsUpTo h
  | removedBound => exact h.removed
  | leftRemoved _ _ hleave => exact (hleave.idsUpTo h).removed

end Removed

end SharedRawContext

end McrxCore
