import McrxCore.Raw.Shared

/-!
# The representation invariant

The subscription map is the one table the others are derived from.  A joined
subscription counts on one capture and holds one kernel membership there, and every
subscription references its selector: the capture counts, the kernel references,
the demultiplexing index and the selector cache are the tallies of these
classifications.  A queued packet is the one its datagram and its ids determine.
-/

namespace McrxCore

open FiniteMap (tally share Counts)
open SortedList (Increasing)

abbrev Subscriptions := FiniteMap SubscriptionId SharedRawSubscription

namespace SharedRawSubscription

/-- The capture a joined subscription counts on. -/
def joinedCapture (subscription : SharedRawSubscription) : Option RawSharedCaptureKey :=
  if subscription.isJoined then some subscription.captureKey else none

/-- The kernel membership a joined subscription holds on capture `key`. -/
def membershipOn (key : RawSharedCaptureKey) (subscription : SharedRawSubscription) :
    Option KernelMembershipKey :=
  if subscription.joinedCapture = some key then some (.of subscription.config) else none

def selector (subscription : SharedRawSubscription) : Option CaptureSelector :=
  some (.of subscription.config)

def withState (subscription : SharedRawSubscription) (state : SubscriptionState) :
    SharedRawSubscription :=
  { subscription with state := state }

variable {subscription : SharedRawSubscription} {key : RawSharedCaptureKey}

@[simp] theorem withState_id (state : SubscriptionState) :
    (subscription.withState state).id = subscription.id := rfl

@[simp] theorem withState_config (state : SubscriptionState) :
    (subscription.withState state).config = subscription.config := rfl

@[simp] theorem withState_captureKey (state : SubscriptionState) :
    (subscription.withState state).captureKey = subscription.captureKey := rfl

@[simp] theorem withState_isJoined (state : SubscriptionState) :
    (subscription.withState state).isJoined = (state == .joined) := rfl

theorem joinedCapture_of_isJoined (h : subscription.isJoined = true) :
    subscription.joinedCapture = some subscription.captureKey := if_pos h

theorem joinedCapture_of_not_isJoined (h : subscription.isJoined = false) :
    subscription.joinedCapture = none := by
  rw [joinedCapture, if_neg (by simp [h])]

theorem joinedCapture_joined :
    (subscription.withState .joined).joinedCapture = some subscription.captureKey := rfl

theorem joinedCapture_bound : (subscription.withState .bound).joinedCapture = none := rfl

theorem joinedCapture_eq_some :
    subscription.joinedCapture = some key ↔
      subscription.isJoined = true ∧ subscription.captureKey = key := by
  rw [joinedCapture]
  split
  · rename_i h
    simp [h]
  · rename_i h
    simp [h]

theorem membershipOn_eq_some {membership : KernelMembershipKey} :
    subscription.membershipOn key = some membership ↔
      subscription.joinedCapture = some key ∧
        KernelMembershipKey.of subscription.config = membership := by
  rw [membershipOn]
  split
  · rename_i h
    simp [h]
  · rename_i h
    simp [h]

theorem membershipOn_of_ne (h : subscription.joinedCapture ≠ some key) :
    subscription.membershipOn key = none := if_neg h

end SharedRawSubscription

/-- Subscription `id` holds the membership `(group, source)` on capture `key`. -/
def Holds (subscriptions : Subscriptions) (key : RawSharedCaptureKey) (group : IpAddr)
    (source : Option IpAddr) (id : SubscriptionId) : Prop :=
  ∃ subscription, subscriptions.lookup id = some subscription ∧
    subscription.membershipOn key = some { group := group, source := source }

/-- The capture counts what the joined subscriptions hold on it. -/
structure CaptureConsistent (subscriptions : Subscriptions) (key : RawSharedCaptureKey)
    (capture : SharedCaptureSocket) : Prop where
  memberships : capture.memberships =
    tally SharedRawSubscription.joinedCapture subscriptions key
  kernel : Counts KernelMembership.references capture.kernelMemberships
    (tally (SharedRawSubscription.membershipOn key) subscriptions)
  index : capture.demultiplexer.Indexes (Holds subscriptions key)

/-- The packet queued for a datagram that matched `ids`. -/
def queuedPacket (subscriptions : Subscriptions) (captured : RawCapturedDatagram)
    (ids : List SubscriptionId) : Option SharedRawPacket :=
  match ids.head? with
  | none => none
  | some primaryId =>
    match subscriptions.lookup primaryId, MatchingSubscriptionIds.ofIds ids with
    | some primary, some matchingIds => some
      { packet := SharedRawContext.rawPacketFromCaptured primaryId primary.config captured
        matchingSubscriptionIds := matchingIds }
    | _, _ => none

/-- A set of ids a queued packet may name: joined, and in increasing order. -/
structure JoinedIds (subscriptions : Subscriptions) (ids : List SubscriptionId) : Prop where
  increasing : Increasing ids
  joined : ∀ id ∈ ids, ∃ subscription, subscriptions.lookup id = some subscription ∧
    subscription.isJoined = true

/-- A queued packet is the one of some datagram and some joined ids. -/
def PendingConsistent (subscriptions : Subscriptions) (queued : SharedRawPacket) : Prop :=
  ∃ captured ids, JoinedIds subscriptions ids ∧
    queuedPacket subscriptions captured ids = some queued

namespace SharedRawContext

structure Invariant (c : SharedRawContext) : Prop where
  order_nodup : c.captureOrder.Nodup
  mem_order : ∀ key, key ∈ c.captureOrder ↔ ∃ capture, c.captures.lookup key = some capture
  cursor : c.nextCaptureIndex < c.captureOrder.length ∨
    c.captureOrder = [] ∧ c.nextCaptureIndex = 0
  counted : Counts SharedCaptureSocket.memberships c.captures
    (tally SharedRawSubscription.joinedCapture c.subscriptions)
  consistent : ∀ key capture, c.captures.lookup key = some capture →
    CaptureConsistent c.subscriptions key capture
  selectors : Counts ResolvedCaptureKey.references c.resolvedCaptureKeys
    (tally SharedRawSubscription.selector c.subscriptions)
  resolved : ∀ selector resolved, c.resolvedCaptureKeys.lookup selector = some resolved →
    resolved.key.family = selector.family
  resolvedKey : ∀ id subscription resolved, c.subscriptions.lookup id = some subscription →
    c.resolvedCaptureKeys.lookup (.of subscription.config) = some resolved →
    subscription.captureKey = resolved.key
  subscription_id : ∀ id subscription, c.subscriptions.lookup id = some subscription →
    subscription.id = id
  validated : ∀ id subscription, c.subscriptions.lookup id = some subscription →
    subscription.config.validate = .ok ()
  pending : ∀ queued ∈ c.pendingPackets, PendingConsistent c.subscriptions queued

/-- The ids given out so far are `1` to some `m ≤ n`. -/
def IdsUpTo (n : Nat) (c : SharedRawContext) : Prop :=
  ∃ m, m ≤ n ∧ c.nextSubscriptionId = (m + 1) % 2 ^ 64 ∧
    ∀ id subscription, c.subscriptions.lookup id = some subscription → 1 ≤ id.val ∧ id.val ≤ m

end SharedRawContext

/-! ## The empty context -/

theorem SharedRawContext.invariant_withLimits {limits : SharedRawContextLimits}
    {c : SharedRawContext} (h : SharedRawContext.withLimits limits = .ok c) : c.Invariant := by
  simp only [SharedRawContext.withLimits] at h
  split at h
  · exact nomatch h
  · cases h
    exact
      { order_nodup := List.nodup_nil
        mem_order := fun key => by simp
        cursor := Or.inr ⟨rfl, rfl⟩
        counted := (Counts.empty _).congr fun _ => FiniteMap.tally_empty _ _
        consistent := fun key capture hl => by simp at hl
        selectors := (Counts.empty _).congr fun _ => FiniteMap.tally_empty _ _
        resolved := fun selector resolved hl => by simp at hl
        resolvedKey := fun id subscription resolved hl => by simp at hl
        subscription_id := fun id subscription hl => by simp at hl
        validated := fun id subscription hl => by simp at hl
        pending := fun queued hq => by simp at hq }

theorem SharedRawContext.idsUpTo_withLimits {limits : SharedRawContextLimits}
    {c : SharedRawContext} (h : SharedRawContext.withLimits limits = .ok c) : c.IdsUpTo 0 := by
  simp only [SharedRawContext.withLimits] at h
  split at h
  · exact nomatch h
  · cases h
    exact ⟨0, Nat.le_refl 0, rfl, fun id subscription hl => by simp at hl⟩

/-! ## Counts across a change of state -/

section StateChange

variable {subscriptions : Subscriptions} {id : SubscriptionId}
  {subscription : SharedRawSubscription} {key : RawSharedCaptureKey}

/-- Joining adds one to the tally of the class the joined subscription falls in. -/
theorem tally_joined {ι : Type} [DecidableEq ι] {g : SharedRawSubscription → Option ι}
    (hl : subscriptions.lookup id = some subscription) (hbefore : g subscription = none) (k : ι) :
    tally g (subscriptions.insert id (subscription.withState .joined)) k =
      tally g subscriptions k +
        if g (subscription.withState .joined) = some k then 1 else 0 := by
  have h := FiniteMap.tally_insert g hl (subscription.withState .joined) k
  simp only [share, hbefore, reduceCtorEq, if_false, Nat.add_zero] at h
  exact h

/-- Leaving takes one from the tally of the class it fell in. -/
theorem tally_bound {ι : Type} [DecidableEq ι] {g : SharedRawSubscription → Option ι}
    (hl : subscriptions.lookup id = some subscription)
    (hafter : g (subscription.withState .bound) = none) (k : ι) :
    tally g (subscriptions.insert id (subscription.withState .bound)) k +
        (if g subscription = some k then 1 else 0) =
      tally g subscriptions k := by
  have h := FiniteMap.tally_insert g hl (subscription.withState .bound) k
  simp only [share, hafter, reduceCtorEq, if_false, Nat.add_zero] at h
  exact h

/-- A change of state leaves every tally that ignores the state. -/
theorem tally_withState {ι : Type} [DecidableEq ι] {g : SharedRawSubscription → Option ι}
    (hl : subscriptions.lookup id = some subscription) (state : SubscriptionState)
    (hsame : g (subscription.withState state) = g subscription) (k : ι) :
    tally g (subscriptions.insert id (subscription.withState state)) k =
      tally g subscriptions k := by
  have h := FiniteMap.tally_insert g hl (subscription.withState state) k
  simp only [share, hsame] at h
  omega

theorem holds_insert {updated : SharedRawSubscription} {group : IpAddr}
    {source : Option IpAddr} {other : SubscriptionId} :
    Holds (subscriptions.insert id updated) key group source other ↔
      if other = id then updated.membershipOn key = some { group := group, source := source }
      else Holds subscriptions key group source other := by
  simp only [Holds, FiniteMap.lookup_insert_ite]
  split
  · simp
  · rfl

/-- No subscription is joined on `key` exactly when no membership is held there. -/
theorem tally_joinedCapture_eq_zero_iff :
    tally SharedRawSubscription.joinedCapture subscriptions key = 0 ↔
      ∀ membership, tally (SharedRawSubscription.membershipOn key) subscriptions
        membership = 0 := by
  simp only [FiniteMap.tally_eq_zero_iff]
  constructor
  · intro h membership id subscription hl hm
    exact h id subscription hl (SharedRawSubscription.membershipOn_eq_some.mp hm).1
  · intro h id subscription hl hk
    exact h (.of subscription.config) id subscription hl
      (SharedRawSubscription.membershipOn_eq_some.mpr ⟨hk, rfl⟩)

end StateChange

end McrxCore
