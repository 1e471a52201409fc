import McrxCore.Raw.Shared.Invariant

/-!
# Adding and joining

`AddStep` and `JoinStep` list what one call can do from a state with the invariant,
its events included.  A failed call leaves the context as it was: a capture opened
for a join the kernel refuses is closed again, and the capture order and the cursor
are those of before.
-/

namespace McrxCore

open FiniteMap (tally share Counts)

/-! ## Captures across a join -/

section CaptureConsistent

variable {subscriptions : Subscriptions} {id : SubscriptionId}
  {subscription : SharedRawSubscription} {key : RawSharedCaptureKey}
  {capture : SharedCaptureSocket}

theorem CaptureConsistent.new (socket : RawReceiveSocket)
    (h : tally SharedRawSubscription.joinedCapture subscriptions key = 0) :
    CaptureConsistent subscriptions key (.new socket) := by
  refine ⟨h.symm, (Counts.empty _).congr fun membership => ?_, ?_⟩
  · exact tally_joinedCapture_eq_zero_iff.mp h membership
  · refine CaptureDemultiplexer.Indexes.empty.congr fun group source id => ?_
    constructor
    · intro hholds
      obtain ⟨subscription, hl, hm⟩ := hholds
      exact FiniteMap.tally_eq_zero_iff.mp h id subscription hl
        (SharedRawSubscription.membershipOn_eq_some.mp hm).1
    · exact False.elim

/-- A change of state on one capture is invisible on the others. -/
theorem CaptureConsistent.withState_of_ne (h : CaptureConsistent subscriptions key capture)
    (hl : subscriptions.lookup id = some subscription) (state : SubscriptionState)
    (hne : subscription.captureKey ≠ key) :
    CaptureConsistent (subscriptions.insert id (subscription.withState state)) key capture := by
  have hcapture : ∀ other : SharedRawSubscription, other.captureKey = subscription.captureKey →
      other.joinedCapture ≠ some key := by
    intro other hother hjoined
    exact hne (hother ▸ (SharedRawSubscription.joinedCapture_eq_some.mp hjoined).2)
  have hbefore := hcapture subscription rfl
  have hafter := hcapture (subscription.withState state) rfl
  have hmembership : (subscription.withState state).membershipOn key =
      subscription.membershipOn key := by
    rw [SharedRawSubscription.membershipOn_of_ne hafter,
      SharedRawSubscription.membershipOn_of_ne hbefore]
  refine ⟨?_, h.kernel.congr (tally_withState hl state hmembership),
    h.index.congr fun group source other => ?_⟩
  · have htally := FiniteMap.tally_insert SharedRawSubscription.joinedCapture hl
      (subscription.withState state) key
    rw [share, share, if_neg hbefore, if_neg hafter] at htally
    rw [h.memberships]
    omega
  · rw [holds_insert]
    split
    · rename_i heq
      subst heq
      rw [hmembership]
      constructor
      · intro hm
        exact ⟨subscription, hl, hm⟩
      · intro hholds
        obtain ⟨held, hheld, hm⟩ := hholds
        obtain rfl : subscription = held := Option.some.inj (hl.symm.trans hheld)
        exact hm
    · rfl

theorem KernelMembershipKey.of_eq_iff {config : RawSubscriptionConfig} {group : IpAddr}
    {source : Option IpAddr} :
    KernelMembershipKey.of config = { group := group, source := source } ↔
      group = config.group ∧ source = config.sourceAddr := by
  simp only [KernelMembershipKey.of, KernelMembershipKey.mk.injEq]
  exact ⟨fun h => ⟨h.1.symm, h.2.symm⟩, fun h => ⟨h.1.symm, h.2.symm⟩⟩

/-- The join of a bound subscription, on its own capture. -/
theorem CaptureConsistent.recordJoin
    (h : CaptureConsistent subscriptions subscription.captureKey capture)
    (hl : subscriptions.lookup id = some subscription) (hbound : subscription.isJoined = false) :
    CaptureConsistent (subscriptions.insert id (subscription.withState .joined))
      subscription.captureKey (capture.recordJoin id subscription.config) := by
  have hnone := SharedRawSubscription.joinedCapture_of_not_isJoined hbound
  have hbefore : subscription.membershipOn subscription.captureKey = none :=
    SharedRawSubscription.membershipOn_of_ne (by simp [hnone])
  have hafter : (subscription.withState .joined).membershipOn subscription.captureKey =
      some (.of subscription.config) :=
    SharedRawSubscription.membershipOn_eq_some.mpr
      ⟨SharedRawSubscription.joinedCapture_joined, rfl⟩
  refine ⟨?_, ?_, (h.index.insert id subscription.config).congr fun group source other => ?_⟩
  · rw [tally_joined hl hnone, SharedRawSubscription.joinedCapture_joined, if_pos rfl,
      ← h.memberships]
    rfl
  · have hcount := tally_joined hl hbefore (.of subscription.config)
    rw [if_pos hafter] at hcount
    refine Counts.insert h.kernel ?_ (by omega) fun other hother => ?_
    · rw [hcount]
      split
      · rename_i membership hm
        rw [← ((h.kernel _).1 membership hm).1]
      · rename_i hm
        rw [(h.kernel _).2 hm]
    · rw [tally_joined hl hbefore, hafter, if_neg fun heq => hother (Option.some.inj heq).symm,
        Nat.add_zero]
  · rw [holds_insert]
    split
    · rename_i heq
      subst heq
      rw [hafter, Option.some.injEq, KernelMembershipKey.of_eq_iff]
      constructor
      · intro hmatch
        exact Or.inl ⟨hmatch.1, hmatch.2, rfl⟩
      · intro hor
        rcases hor with hmatch | hholds
        · exact ⟨hmatch.1, hmatch.2.1⟩
        · obtain ⟨held, hheld, hm⟩ := hholds
          obtain rfl : subscription = held := Option.some.inj (hl.symm.trans hheld)
          rw [hbefore] at hm
          cases hm
    · rename_i hne
      exact ⟨Or.inr, fun hor => hor.resolve_left fun hmatch => hne hmatch.2.2⟩

theorem notMem_of_lookup_eq_none (h : subscriptions.lookup id = none) : id ∉ subscriptions :=
  Finmap.lookup_eq_none.mp h

/-- A new bound subscription leaves the captures consistent. -/
theorem CaptureConsistent.insert_bound (h : CaptureConsistent subscriptions key capture)
    (hfresh : subscriptions.lookup id = none) (hbound : subscription.isJoined = false) :
    CaptureConsistent (subscriptions.insert id subscription) key capture := by
  have hnone := SharedRawSubscription.joinedCapture_of_not_isJoined hbound
  have hmembership : subscription.membershipOn key = none :=
    SharedRawSubscription.membershipOn_of_ne (by simp [hnone])
  have hnotMem := notMem_of_lookup_eq_none hfresh
  refine ⟨?_, h.kernel.congr fun membership => ?_, h.index.congr fun group source other => ?_⟩
  · rw [FiniteMap.tally_insert_of_notMem _ hnotMem, share, hnone, if_neg (by simp),
      h.memberships, Nat.add_zero]
  · rw [FiniteMap.tally_insert_of_notMem _ hnotMem, share, hmembership, if_neg (by simp),
      Nat.add_zero]
  · rw [holds_insert]
    split
    · rename_i heq
      subst heq
      rw [hmembership]
      constructor
      · intro hm
        cases hm
      · intro hholds
        obtain ⟨held, hheld, -⟩ := hholds
        rw [hfresh] at hheld
        cases hheld
    · rfl

end CaptureConsistent

/-! ## Queued packets across a membership operation -/

/-- A queued packet depends on the configuration of its primary id only. -/
theorem queuedPacket_congr {subscriptions subscriptions' : Subscriptions}
    {captured : RawCapturedDatagram} {ids : List SubscriptionId}
    (h : ∀ id ∈ ids, (subscriptions'.lookup id).map SharedRawSubscription.config =
      (subscriptions.lookup id).map SharedRawSubscription.config) :
    queuedPacket subscriptions' captured ids = queuedPacket subscriptions captured ids := by
  match ids with
  | [] => rfl
  | id :: rest =>
    have hid := h id List.mem_cons_self
    simp only [queuedPacket, List.head?_cons]
    cases hl : subscriptions.lookup id with
    | none =>
      rw [hl, Option.map_none, Option.map_eq_none_iff] at hid
      rw [hid]
    | some primary =>
      rw [hl, Option.map_some, Option.map_eq_some_iff] at hid
      obtain ⟨primary', hl', hconfig⟩ := hid
      rw [hl']
      cases MatchingSubscriptionIds.ofIds (id :: rest) with
      | none => rfl
      | some matchingIds => simp only [hconfig]

theorem lookup_withState_config {subscriptions : Subscriptions} {id : SubscriptionId}
    {subscription : SharedRawSubscription} (hl : subscriptions.lookup id = some subscription)
    (state : SubscriptionState) (other : SubscriptionId) :
    ((subscriptions.insert id (subscription.withState state)).lookup other).map
        SharedRawSubscription.config =
      (subscriptions.lookup other).map SharedRawSubscription.config := by
  rw [FiniteMap.lookup_insert_ite]
  split
  · rename_i heq
    rw [heq, hl]
    rfl
  · rfl

theorem PendingConsistent.congr {subscriptions subscriptions' : Subscriptions}
    {queued : SharedRawPacket} (h : PendingConsistent subscriptions queued)
    (hsame : ∀ id subscription, subscriptions.lookup id = some subscription →
      subscription.isJoined = true →
        ∃ subscription', subscriptions'.lookup id = some subscription' ∧
        subscription'.isJoined = true ∧ subscription'.config = subscription.config) :
    PendingConsistent subscriptions' queued := by
  obtain ⟨captured, ids, hids, hqueued⟩ := h
  refine ⟨captured, ids, ⟨hids.increasing, fun id hid => ?_⟩, ?_⟩
  · obtain ⟨subscription, hl, hj⟩ := hids.joined id hid
    obtain ⟨subscription', hl', hj', -⟩ := hsame id subscription hl hj
    exact ⟨subscription', hl', hj'⟩
  · rw [← hqueued]
    refine queuedPacket_congr fun id hid => ?_
    obtain ⟨subscription, hl, hj⟩ := hids.joined id hid
    obtain ⟨subscription', hl', -, hconfig⟩ := hsame id subscription hl hj
    rw [hl, hl', Option.map_some, Option.map_some, hconfig]

namespace SharedRawContext

variable {W : Type} {os : OperatingSystem W}

/-! ## Adding -/

def added (c : SharedRawContext) (config : RawSubscriptionConfig)
    (resolved : ResolvedCaptureKey) : SharedRawContext :=
  { c with
    resolvedCaptureKeys := c.resolvedCaptureKeys.insert (.of config) resolved
    nextSubscriptionId := (c.nextSubscriptionId + 1) % 2 ^ 64
    subscriptions :=
      c.subscriptions.insert ⟨c.nextSubscriptionId⟩
        (.new ⟨c.nextSubscriptionId⟩ config resolved.key) }

/-- The cache entry of a selector with one more reference: the entry that was
there, or a newly resolved key. -/
def References (c : SharedRawContext) (config : RawSubscriptionConfig)
    (resolved : ResolvedCaptureKey) : Prop :=
  (∃ cached, c.resolvedCaptureKeys.lookup (.of config) = some cached ∧
    resolved = { cached with references := cached.references + 1 }) ∨
  (c.resolvedCaptureKeys.lookup (.of config) = none ∧ resolved.references = 1 ∧
    resolved.key.family = config.family)

inductive AddStep (c : SharedRawContext) (config : RawSubscriptionConfig) :
    Outcome SubscriptionId → SharedRawContext → Prop
  | refused (e : McrxError) : AddStep c config (.err e) c
  | added {resolved : ResolvedCaptureKey} (hvalid : config.validate = .ok ())
      (hroom : c.subscriptions.len < c.limits.maxSubscriptions)
      (href : c.References config resolved) :
      AddStep c config (.ok ⟨c.nextSubscriptionId⟩) (c.added config resolved)

theorem resolveCaptureKey_cases {config : RawSubscriptionConfig} {s s' : System W}
    {r : Outcome RawSharedCaptureKey} (h : resolveCaptureKey os config s = (r, s')) :
    s'.events = s.events ∧
      ((∃ e, r = .err e ∧ s'.context = s.context) ∨
        ∃ resolved, r = .ok resolved.key ∧ s.context.References config resolved ∧
          s'.context = { s.context with
            resolvedCaptureKeys := s.context.resolvedCaptureKeys.insert (.of config)
              resolved }) := by
  simp only [resolveCaptureKey] at h
  split at h
  · rename_i cached hcached
    cases h
    exact ⟨rfl, Or.inr ⟨{ cached with references := cached.references + 1 }, rfl,
      Or.inl ⟨cached, hcached, rfl⟩, rfl⟩⟩
  · rename_i hnone
    split at h
    · rename_i e w hkey
      cases h
      exact ⟨rfl, Or.inl ⟨e, rfl, rfl⟩⟩
    · rename_i key w hkey
      cases h
      exact ⟨rfl, Or.inr ⟨{ key := key, references := 1 }, rfl,
        Or.inr ⟨hnone, rfl, sharedRawCaptureKey_family os hkey⟩, rfl⟩⟩

theorem addSubscription_cases {config : RawSubscriptionConfig} {s s' : System W}
    {r : Outcome SubscriptionId} (h : addSubscription os config s = (r, s')) :
    AddStep s.context config r s'.context ∧ s'.events = s.events := by
  simp only [addSubscription] at h
  split at h
  · rename_i e he
    cases h
    exact ⟨.refused e, rfl⟩
  · rename_i hvalid
    split at h
    · cases h
      exact ⟨.refused _, rfl⟩
    · rename_i hroom
      split at h
      · rename_i e s₁ hkey
        cases h
        obtain ⟨hevents, hor⟩ := resolveCaptureKey_cases hkey
        rcases hor with ⟨e', -, hcontext⟩ | ⟨resolved, hr, -, -⟩
        · rw [hcontext]
          exact ⟨.refused e, hevents⟩
        · exact nomatch hr
      · rename_i s₁ hkey
        obtain ⟨-, hor⟩ := resolveCaptureKey_cases hkey
        rcases hor with ⟨e', hr, -⟩ | ⟨resolved, hr, -, -⟩
        · exact nomatch hr
        · exact nomatch hr
      · rename_i captureKey s₁ hkey
        cases h
        obtain ⟨hevents, hor⟩ := resolveCaptureKey_cases hkey
        rcases hor with ⟨e', hr, -⟩ | ⟨resolved, hr, href, hcontext⟩
        · exact nomatch hr
        · obtain rfl : captureKey = resolved.key := by
            cases hr
            rfl
          refine ⟨?_, hevents⟩
          have hadd := AddStep.added hvalid (Nat.lt_of_not_le hroom) href
          simpa only [System.withContext, hcontext, SharedRawContext.added] using hadd

section Added

variable {c : SharedRawContext} {config : RawSubscriptionConfig} {resolved : ResolvedCaptureKey}

theorem IdsUpTo.fresh {n : Nat} (h : c.IdsUpTo n) (hn : n + 1 < 2 ^ 64) :
    c.subscriptions.lookup ⟨c.nextSubscriptionId⟩ = none := by
  obtain ⟨m, hm, hnext, hids⟩ := h
  cases hl : c.subscriptions.lookup ⟨c.nextSubscriptionId⟩ with
  | none => rfl
  | some subscription =>
    have hle := (hids _ _ hl).2
    rw [Nat.mod_eq_of_lt (by omega)] at hnext
    simp only at hle
    omega

theorem IdsUpTo.mono {n m : Nat} (h : c.IdsUpTo n) (hle : n ≤ m) : c.IdsUpTo m := by
  obtain ⟨k, hk, hrest⟩ := h
  exact ⟨k, Nat.le_trans hk hle, hrest⟩

theorem IdsUpTo.added {n : Nat} (h : c.IdsUpTo n) (hn : n + 1 < 2 ^ 64) :
    (c.added config resolved).IdsUpTo (n + 1) := by
  obtain ⟨m, hm, hnext, hids⟩ := h
  rw [Nat.mod_eq_of_lt (by omega)] at hnext
  refine ⟨m + 1, by omega, ?_, fun id subscription hl => ?_⟩
  · simp only [SharedRawContext.added, hnext]
  · simp only [SharedRawContext.added, FiniteMap.lookup_insert_ite] at hl
    split at hl
    · rename_i heq
      subst heq
      simp only [hnext]
      omega
    · have hid := hids id subscription hl
      omega

theorem lookup_added {id : SubscriptionId} {subscription : SharedRawSubscription}
    (h : (c.added config resolved).subscriptions.lookup id = some subscription) :
    (id = ⟨c.nextSubscriptionId⟩ ∧
      subscription = .new ⟨c.nextSubscriptionId⟩ config resolved.key) ∨
    (id ≠ ⟨c.nextSubscriptionId⟩ ∧ c.subscriptions.lookup id = some subscription) := by
  simp only [SharedRawContext.added, FiniteMap.lookup_insert_ite] at h
  split at h
  · rename_i heq
    exact Or.inl ⟨heq, (Option.some.inj h).symm⟩
  · rename_i hne
    exact Or.inr ⟨hne, h⟩

/-- The cached key, where there is one, keeps its value. -/
theorem References.key_eq (href : c.References config resolved) {cached : ResolvedCaptureKey}
    (hcached : c.resolvedCaptureKeys.lookup (.of config) = some cached) :
    resolved.key = cached.key := by
  rcases href with ⟨cached', hc, rfl⟩ | ⟨hnone, -, -⟩
  · obtain rfl : cached' = cached := Option.some.inj (hc.symm.trans hcached)
    rfl
  · rw [hnone] at hcached
    exact nomatch hcached

theorem Invariant.selectors_added (h : c.Invariant)
    (hfresh : c.subscriptions.lookup ⟨c.nextSubscriptionId⟩ = none)
    (href : c.References config resolved) :
    Counts ResolvedCaptureKey.references (c.added config resolved).resolvedCaptureKeys
      (tally SharedRawSubscription.selector (c.added config resolved).subscriptions) := by
  have htally : ∀ k, tally SharedRawSubscription.selector
      (c.added config resolved).subscriptions k =
        tally SharedRawSubscription.selector c.subscriptions k +
          if some (CaptureSelector.of config) = some k then 1 else 0 :=
    fun k => FiniteMap.tally_insert_of_notMem _ (notMem_of_lookup_eq_none hfresh) _ k
  refine Counts.insert h.selectors ?_ ?_ fun other hother => ?_
  · rw [htally, if_pos rfl]
    rcases href with ⟨cached, hc, rfl⟩ | ⟨hnone, hone, -⟩
    · rw [← ((h.selectors _).1 cached hc).1]
    · rw [hone, (h.selectors _).2 hnone]
  · rw [htally, if_pos rfl]
    omega
  · rw [htally, if_neg fun heq => hother (Option.some.inj heq).symm, Nat.add_zero]

theorem Invariant.resolved_added (h : c.Invariant) (href : c.References config resolved)
    {selector : CaptureSelector} {resolved' : ResolvedCaptureKey}
    (hl : (c.added config resolved).resolvedCaptureKeys.lookup selector = some resolved') :
    resolved'.key.family = selector.family := by
  simp only [SharedRawContext.added, FiniteMap.lookup_insert_ite] at hl
  split at hl
  · rename_i heq
    subst heq
    obtain rfl : resolved = resolved' := Option.some.inj hl
    rcases href with ⟨cached, hc, rfl⟩ | ⟨-, -, hfamily⟩
    · exact h.resolved _ cached hc
    · exact hfamily
  · exact h.resolved _ _ hl

theorem Invariant.resolvedKey_added (h : c.Invariant) (href : c.References config resolved)
    {id : SubscriptionId} {subscription : SharedRawSubscription} {resolved' : ResolvedCaptureKey}
    (hl : (c.added config resolved).subscriptions.lookup id = some subscription)
    (hr : (c.added config resolved).resolvedCaptureKeys.lookup (.of subscription.config) =
      some resolved') : subscription.captureKey = resolved'.key := by
  simp only [SharedRawContext.added, FiniteMap.lookup_insert_ite] at hr
  rcases lookup_added hl with ⟨rfl, rfl⟩ | ⟨-, hold⟩
  · simp only [SharedRawSubscription.new, if_true] at hr
    obtain rfl : resolved = resolved' := Option.some.inj hr
    rfl
  · split at hr
    · rename_i heq
      obtain rfl : resolved = resolved' := Option.some.inj hr
      obtain ⟨cached, hc, -⟩ := h.selectors.lookup_pos
        (FiniteMap.tally_pos_iff.mpr ⟨id, subscription, hold, rfl⟩)
      rw [h.resolvedKey id subscription cached hold hc, href.key_eq (heq ▸ hc)]
    · exact h.resolvedKey id subscription resolved' hold hr

theorem Invariant.added (h : c.Invariant)
    (hfresh : c.subscriptions.lookup ⟨c.nextSubscriptionId⟩ = none)
    (hvalid : config.validate = .ok ()) (href : c.References config resolved) :
    (c.added config resolved).Invariant := by
  have hnotMem := notMem_of_lookup_eq_none hfresh
  have hbound : (SharedRawSubscription.new ⟨c.nextSubscriptionId⟩ config resolved.key).isJoined
      = false := rfl
  refine
    { order_nodup := h.order_nodup
      mem_order := h.mem_order
      cursor := h.cursor
      counted := h.counted.congr fun key => ?_
      consistent := fun key capture hl => (h.consistent key capture hl).insert_bound hfresh hbound
      selectors := h.selectors_added hfresh href
      resolved := fun selector resolved' => h.resolved_added href
      resolvedKey := fun id subscription resolved' => h.resolvedKey_added href
      subscription_id := fun id subscription hl => ?_
      validated := fun id subscription hl => ?_
      pending := fun queued hq => (h.pending queued hq).congr fun id subscription hl hj => ?_ }
  · rw [SharedRawContext.added, FiniteMap.tally_insert_of_notMem _ hnotMem, share,
      SharedRawSubscription.joinedCapture_of_not_isJoined hbound, if_neg (by simp), Nat.add_zero]
  · rcases lookup_added hl with ⟨rfl, rfl⟩ | ⟨-, hold⟩
    · rfl
    · exact h.subscription_id id subscription hold
  · rcases lookup_added hl with ⟨rfl, rfl⟩ | ⟨-, hold⟩
    · exact hvalid
    · exact h.validated id subscription hold
  · refine ⟨subscription, ?_, hj, rfl⟩
    have hne : id ≠ ⟨c.nextSubscriptionId⟩ := by
      intro heq
      rw [heq, hfresh] at hl
      cases hl
    rw [SharedRawContext.added, FiniteMap.lookup_insert_ite, if_neg hne, hl]

end Added

/-! ## Joining -/

def joined (c : SharedRawContext) (id : SubscriptionId) (subscription : SharedRawSubscription)
    (capture : SharedCaptureSocket) (captureOrder : List RawSharedCaptureKey) :
    SharedRawContext :=
  { c with
    captures :=
      c.captures.insert subscription.captureKey (capture.recordJoin id subscription.config)
    captureOrder := captureOrder
    subscriptions := c.subscriptions.insert id (subscription.withState .joined) }

/-- The capture a join installs its membership on: the open one, or a new one. -/
def Ready (c : SharedRawContext) (key : RawSharedCaptureKey) (capture : SharedCaptureSocket)
    (captureOrder : List RawSharedCaptureKey) : Prop :=
  (c.captures.lookup key = some capture ∧ captureOrder = c.captureOrder) ∨
  (c.captures.lookup key = none ∧ captureOrder = c.captureOrder ++ [key] ∧
    ∃ socket, capture = .new socket)

inductive JoinStep (c : SharedRawContext) (id : SubscriptionId) :
    Outcome Unit → SharedRawContext → List Event → Prop
  | refused (e : McrxError) : JoinStep c id (.err e) c []
  | joinFailed {subscription : SharedRawSubscription} {capture : SharedCaptureSocket}
      (e : McrxError) (hl : c.subscriptions.lookup id = some subscription)
      (hbound : subscription.isJoined = false)
      (hcapture : c.captures.lookup subscription.captureKey = some capture)
      (hnew : capture.kernelMemberships.lookup (.of subscription.config) = none) :
      JoinStep c id (.err e) c
        [.kernelJoin subscription.captureKey subscription.config false]
  | openedJoinFailed {subscription : SharedRawSubscription} (e : McrxError)
      (hl : c.subscriptions.lookup id = some subscription)
      (hbound : subscription.isJoined = false)
      (hcapture : c.captures.lookup subscription.captureKey = none) :
      JoinStep c id (.err e) c
        [.captureOpened subscription.captureKey,
          .kernelJoin subscription.captureKey subscription.config false,
          .captureClosed subscription.captureKey]
  | joinedHeld {subscription : SharedRawSubscription} {capture : SharedCaptureSocket}
      {membership : KernelMembership} (hl : c.subscriptions.lookup id = some subscription)
      (hbound : subscription.isJoined = false)
      (hcapture : c.captures.lookup subscription.captureKey = some capture)
      (hheld : capture.kernelMemberships.lookup (.of subscription.config) = some membership) :
      JoinStep c id (.ok ()) (c.joined id subscription capture c.captureOrder) []
  | joinedFirst {subscription : SharedRawSubscription} {capture : SharedCaptureSocket}
      (hl : c.subscriptions.lookup id = some subscription)
      (hbound : subscription.isJoined = false)
      (hcapture : c.captures.lookup subscription.captureKey = some capture)
      (hnew : capture.kernelMemberships.lookup (.of subscription.config) = none) :
      JoinStep c id (.ok ()) (c.joined id subscription capture c.captureOrder)
        [.kernelJoin subscription.captureKey subscription.config true]
  | opened {subscription : SharedRawSubscription} (socket : RawReceiveSocket)
      (hl : c.subscriptions.lookup id = some subscription)
      (hbound : subscription.isJoined = false)
      (hcapture : c.captures.lookup subscription.captureKey = none) :
      JoinStep c id (.ok ())
        (c.joined id subscription (.new socket) (c.captureOrder ++ [subscription.captureKey]))
        [.captureOpened subscription.captureKey,
          .kernelJoin subscription.captureKey subscription.config true]

/-- Every successful join puts its subscription on a ready capture. -/
theorem JoinStep.ready {c c' : SharedRawContext} {id : SubscriptionId} {events : List Event}
    (h : JoinStep c id (.ok ()) c' events) :
    ∃ subscription capture captureOrder, c.subscriptions.lookup id = some subscription ∧
      subscription.isJoined = false ∧ c.Ready subscription.captureKey capture captureOrder ∧
      c' = c.joined id subscription capture captureOrder := by
  cases h with
  | joinedHeld hl hbound hcapture hheld =>
    exact ⟨_, _, _, hl, hbound, Or.inl ⟨hcapture, rfl⟩, rfl⟩
  | joinedFirst hl hbound hcapture hnew =>
    exact ⟨_, _, _, hl, hbound, Or.inl ⟨hcapture, rfl⟩, rfl⟩
  | opened socket hl hbound hcapture =>
    exact ⟨_, _, _, hl, hbound, Or.inr ⟨hcapture, rfl, socket, rfl⟩, rfl⟩

theorem JoinStep.context_of_err {c c' : SharedRawContext} {id : SubscriptionId} {e : McrxError}
    {events : List Event} (h : JoinStep c id (.err e) c' events) : c' = c := by
  cases h with
  | refused => rfl
  | joinFailed => rfl
  | openedJoinFailed => rfl

theorem finishJoin_eq {c : SharedRawContext} {id : SubscriptionId}
    {subscription : SharedRawSubscription} {capture : SharedCaptureSocket}
    (hl : c.subscriptions.lookup id = some subscription)
    (hcapture : c.captures.lookup subscription.captureKey = some capture) :
    c.finishJoin id subscription.captureKey subscription.config =
      some (c.joined id subscription capture c.captureOrder) := by
  simp only [finishJoin, hcapture, setState, hl]
  rfl

def closeCapture (c : SharedRawContext) (key : RawSharedCaptureKey) : SharedRawContext :=
  { c with
    captures := c.captures.erase key
    captureOrder := c.captureOrder.erase key
    nextCaptureIndex :=
      if (c.captureOrder.erase key).isEmpty then 0
      else c.nextCaptureIndex % (c.captureOrder.erase key).length }

theorem withoutCapture_eq {c : SharedRawContext} {key : RawSharedCaptureKey}
    (hkey : key ∈ c.captureOrder) : c.withoutCapture key = some (c.closeCapture key) := by
  rw [withoutCapture, closeCapture, List.erase_eq_eraseIdx]
  cases hindex : c.captureOrder.idxOf? key with
  | none => exact absurd hkey (List.idxOf?_eq_none_iff.mp hindex)
  | some index => rfl

/-- Closing the capture that was just opened undoes the opening. -/
theorem withoutCapture_openCapture {c : SharedRawContext} (h : c.Invariant)
    {key : RawSharedCaptureKey} (hcapture : c.captures.lookup key = none)
    (socket : RawReceiveSocket) : (c.openCapture key socket).withoutCapture key = some c := by
  have hnotMem : key ∉ c.captureOrder := by
    intro hmem
    obtain ⟨capture, hl⟩ := (h.mem_order key).mp hmem
    rw [hcapture] at hl
    exact nomatch hl
  have hmem : key ∈ (c.openCapture key socket).captureOrder :=
    List.mem_append_right _ (List.mem_singleton_self key)
  have horder : (c.captureOrder ++ [key]).erase key = c.captureOrder := by
    rw [List.erase_append_right _ hnotMem, List.erase_cons_head, List.append_nil]
  have hcaptures : (c.captures.insert key (.new socket)).erase key = c.captures :=
    FiniteMap.erase_insert (Finmap.lookup_eq_none.mp hcapture) _
  have hcursor : (if c.captureOrder.isEmpty then 0
      else c.nextCaptureIndex % c.captureOrder.length) = c.nextCaptureIndex := by
    rcases h.cursor with hlt | ⟨hnil, hzero⟩
    · rw [if_neg (by simpa using List.ne_nil_of_length_pos (by omega)), Nat.mod_eq_of_lt hlt]
    · rw [if_pos (by rw [hnil]; rfl), hzero]
  rw [withoutCapture_eq hmem]
  simp only [closeCapture, openCapture, horder, hcaptures, hcursor]

theorem removeCapture_openCapture {c : SharedRawContext} (h : c.Invariant)
    {key : RawSharedCaptureKey} (hcapture : c.captures.lookup key = none)
    {socket : RawReceiveSocket} {s s' : System W} {r : Outcome Unit}
    (hs : s.context = c.openCapture key socket)
    (hremove : removeCapture os key s = (r, s')) :
    r = .ok () ∧ s'.context = c ∧ s'.events = s.events ++ [.captureClosed key] := by
  have hopen : (c.openCapture key socket).captures.lookup key = some (.new socket) :=
    Finmap.lookup_insert _
  simp only [removeCapture, hs, hopen, System.observe, withoutCapture_openCapture h hcapture]
    at hremove
  cases hremove
  exact ⟨rfl, rfl, rfl⟩

theorem ensureCapture_cases {key : RawSharedCaptureKey} {s s' : System W} {r : Outcome Bool}
    (h : ensureCapture os key s = (r, s')) :
    (∃ capture, r = .ok false ∧ s' = s ∧ s.context.captures.lookup key = some capture) ∨
    (∃ e, r = .err e ∧ s'.context = s.context ∧ s'.events = s.events) ∨
    (∃ socket, r = .ok true ∧ s.context.captures.lookup key = none ∧
      s'.context = s.context.openCapture key socket ∧
      s'.events = s.events ++ [.captureOpened key]) := by
  simp only [ensureCapture] at h
  split at h
  · rename_i capture hcapture
    cases h
    exact Or.inl ⟨capture, rfl, rfl, hcapture⟩
  · rename_i hcapture
    split at h
    · rename_i e w hopen
      cases h
      exact Or.inr (Or.inl ⟨e, rfl, rfl, rfl⟩)
    · rename_i socket w hopen
      cases h
      exact Or.inr (Or.inr ⟨socket, rfl, hcapture, rfl, rfl⟩)

theorem kernelJoin_cases {key : RawSharedCaptureKey} {config : RawSubscriptionConfig}
    {s s' : System W} {r : Outcome Unit} {capture : SharedCaptureSocket}
    (hcapture : s.context.captures.lookup key = some capture)
    (h : kernelJoin os key config s = (r, s')) :
    s'.context = s.context ∧
      ((∃ membership, r = .ok () ∧ s'.events = s.events ∧
          capture.kernelMemberships.lookup (.of config) = some membership) ∨
        (capture.kernelMemberships.lookup (.of config) = none ∧
          ((∃ e, r = .err e ∧ s'.events = s.events ++ [.kernelJoin key config false]) ∨
            (r = .ok () ∧ s'.events = s.events ++ [.kernelJoin key config true])))) := by
  simp only [kernelJoin, hcapture] at h
  split at h
  · rename_i membership hheld
    cases h
    exact ⟨rfl, Or.inl ⟨membership, rfl, rfl, hheld⟩⟩
  · rename_i hnew
    split at h
    · rename_i e w hjoin
      cases h
      exact ⟨rfl, Or.inr ⟨hnew, Or.inl ⟨e, rfl, rfl⟩⟩⟩
    · rename_i w hjoin
      cases h
      exact ⟨rfl, Or.inr ⟨hnew, Or.inr ⟨rfl, rfl⟩⟩⟩

/-- A join on a capture that was just opened. -/
theorem joined_openCapture {c : SharedRawContext} {id : SubscriptionId}
    {subscription : SharedRawSubscription} (socket : RawReceiveSocket) :
    (c.openCapture subscription.captureKey socket).joined id subscription (.new socket)
        (c.captureOrder ++ [subscription.captureKey]) =
      c.joined id subscription (.new socket) (c.captureOrder ++ [subscription.captureKey]) := by
  simp only [joined, openCapture, Finmap.insert_insert]

theorem joinSubscription_cases {id : SubscriptionId} {s s' : System W} {r : Outcome Unit}
    (hinv : s.context.Invariant) (hevents : s.events = [])
    (h : joinSubscription os id s = (r, s')) :
    JoinStep s.context id r s'.context s'.events := by
  simp only [joinSubscription] at h
  split at h
  · cases h
    rw [hevents]
    exact .refused _
  · rename_i subscription hl
    split at h
    · cases h
      rw [hevents]
      exact .refused _
    · rename_i hbound
      rw [Bool.not_eq_true] at hbound
      split at h
      · rename_i e s₁ hensure
        cases h
        rcases ensureCapture_cases hensure with ⟨_, hr, -⟩ | ⟨_, -, hc, he⟩ | ⟨_, hr, -⟩
        · cases hr
        · rw [hc, he, hevents]
          exact .refused e
        · cases hr
      · rename_i s₁ hensure
        rcases ensureCapture_cases hensure with ⟨_, hr, -⟩ | ⟨_, hr, -⟩ | ⟨_, hr, -⟩
        · cases hr
        · cases hr
        · cases hr
      · rename_i created s₁ hensure
        rcases ensureCapture_cases hensure with
          ⟨capture, hr, rfl, hcapture⟩ | ⟨_, hr, -⟩ | ⟨socket, hr, hcapture, hc, he⟩
        · -- The capture was open.
          cases hr
          split at h
          · rename_i s₂ hjoin
            rcases kernelJoin_cases hcapture hjoin with ⟨-, ⟨_, hr, -⟩ | ⟨-, ⟨_, hr, -⟩ | ⟨hr, -⟩⟩⟩
            · cases hr
            · cases hr
            · cases hr
          · rename_i e s₂ hjoin
            rcases kernelJoin_cases hcapture hjoin with
              ⟨hc, ⟨_, hr, -⟩ | ⟨hnew, ⟨_, -, he⟩ | ⟨hr, -⟩⟩⟩
            · cases hr
            · cases h
              rw [hc, he, hevents]
              exact .joinFailed e hl hbound hcapture hnew
            · cases hr
          · rename_i s₂ hjoin
            obtain ⟨hc, hor⟩ := kernelJoin_cases hcapture hjoin
            rw [hc, finishJoin_eq hl hcapture] at h
            cases h
            rcases hor with ⟨membership, -, he, hheld⟩ | ⟨hnew, ⟨_, hr, -⟩ | ⟨-, he⟩⟩
            · simp only [System.withContext, he, hevents]
              exact .joinedHeld hl hbound hcapture hheld
            · cases hr
            · simp only [System.withContext, he, hevents]
              exact .joinedFirst hl hbound hcapture hnew
        · cases hr
        · -- The capture is new, so no membership is held on it.
          cases hr
          have hopen : s₁.context.captures.lookup subscription.captureKey = some (.new socket) := by
            rw [hc]
            exact Finmap.lookup_insert _
          have hempty : (SharedCaptureSocket.new socket).kernelMemberships.lookup
              (.of subscription.config) = none := Finmap.lookup_empty _
          split at h
          · rename_i s₂ hjoin
            rcases kernelJoin_cases hopen hjoin with ⟨-, ⟨_, hr, -⟩ | ⟨-, ⟨_, hr, -⟩ | ⟨hr, -⟩⟩⟩
            · cases hr
            · cases hr
            · cases hr
          · rename_i e s₂ hjoin
            rcases kernelJoin_cases hopen hjoin with
              ⟨hc₂, ⟨_, hr, -⟩ | ⟨-, ⟨_, -, he₂⟩ | ⟨hr, -⟩⟩⟩
            · cases hr
            · rw [if_pos rfl] at h
              cases hremove : removeCapture os subscription.captureKey s₂ with
              | mk outcome s₃ =>
                obtain ⟨hok, hc₃, he₃⟩ :=
                  removeCapture_openCapture hinv hcapture (hc₂.trans hc) hremove
                subst hok
                simp only [hremove] at h
                cases h
                rw [hc₃, he₃, he₂, he, hevents]
                exact .openedJoinFailed e hl hbound hcapture
            · cases hr
          · rename_i s₂ hjoin
            obtain ⟨hc₂, hor⟩ := kernelJoin_cases hopen hjoin
            have hl₂ : s₂.context.subscriptions.lookup id = some subscription := by
              rw [hc₂, hc]
              exact hl
            rw [finishJoin_eq hl₂ (hc₂ ▸ hopen)] at h
            cases h
            rcases hor with ⟨membership, -, -, hheld⟩ | ⟨-, ⟨_, hr, -⟩ | ⟨-, he₂⟩⟩
            · rw [hempty] at hheld
              cases hheld
            · cases hr
            · simp only [System.withContext, he₂, he, hevents, hc₂, hc]
              have hstep := JoinStep.opened (c := s.context) socket hl hbound hcapture
              rwa [← joined_openCapture] at hstep

section Joined

variable {c : SharedRawContext} {id : SubscriptionId} {subscription : SharedRawSubscription}
  {capture : SharedCaptureSocket} {captureOrder : List RawSharedCaptureKey}

theorem Invariant.tally_of_lookup_none (h : c.Invariant) {key : RawSharedCaptureKey}
    (hcapture : c.captures.lookup key = none) :
    tally SharedRawSubscription.joinedCapture c.subscriptions key = 0 :=
  (h.counted key).2 hcapture

theorem Ready.consistent (hready : c.Ready subscription.captureKey capture captureOrder)
    (h : c.Invariant) : CaptureConsistent c.subscriptions subscription.captureKey capture := by
  rcases hready with ⟨hcapture, -⟩ | ⟨hcapture, -, socket, rfl⟩
  · exact h.consistent _ _ hcapture
  · exact CaptureConsistent.new socket (h.tally_of_lookup_none hcapture)

theorem Ready.mem_order {key : RawSharedCaptureKey} (hready : c.Ready key capture captureOrder)
    (h : c.Invariant) (other : RawSharedCaptureKey) :
    other ∈ captureOrder ↔ other = key ∨ other ∈ c.captureOrder := by
  rcases hready with ⟨hcapture, rfl⟩ | ⟨-, rfl, -⟩
  · constructor
    · exact Or.inr
    · intro hor
      rcases hor with rfl | hmem
      · exact (h.mem_order _).mpr ⟨capture, hcapture⟩
      · exact hmem
  · rw [List.mem_append, List.mem_singleton, or_comm]

theorem Ready.order_nodup {key : RawSharedCaptureKey}
    (hready : c.Ready key capture captureOrder) (h : c.Invariant) : captureOrder.Nodup := by
  rcases hready with ⟨-, rfl⟩ | ⟨hcapture, rfl, -⟩
  · exact h.order_nodup
  · refine List.nodup_append.mpr ⟨h.order_nodup, List.nodup_singleton key, ?_⟩
    intro a ha b hb hab
    obtain rfl : b = key := List.mem_singleton.mp hb
    obtain ⟨capture, hl⟩ := (h.mem_order b).mp (hab ▸ ha)
    rw [hcapture] at hl
    exact nomatch hl

theorem Ready.cursor {key : RawSharedCaptureKey} (hready : c.Ready key capture captureOrder)
    (h : c.Invariant) :
    c.nextCaptureIndex < captureOrder.length ∨
      captureOrder = [] ∧ c.nextCaptureIndex = 0 := by
  rcases hready with ⟨-, rfl⟩ | ⟨-, rfl, -⟩
  · exact h.cursor
  · refine Or.inl ?_
    rw [List.length_append, List.length_singleton]
    rcases h.cursor with hlt | ⟨-, hzero⟩
    · omega
    · omega

/-- A change of state of one subscription, on its capture and on the queued
packets, keeps the parts of the invariant that ignore the state. -/
theorem lookup_withState {state : SubscriptionState} {other : SubscriptionId}
    {found : SharedRawSubscription} (hl : c.subscriptions.lookup id = some subscription)
    (hfound : (c.subscriptions.insert id (subscription.withState state)).lookup other =
      some found) :
    ∃ before, c.subscriptions.lookup other = some before ∧ found.id = before.id ∧
      found.config = before.config ∧ found.captureKey = before.captureKey := by
  rw [FiniteMap.lookup_insert_ite] at hfound
  split at hfound
  · rename_i heq
    obtain rfl : subscription.withState state = found := Option.some.inj hfound
    exact ⟨subscription, heq ▸ hl, rfl, rfl, rfl⟩
  · exact ⟨found, hfound, rfl, rfl, rfl⟩

theorem Invariant.joined (h : c.Invariant) (hl : c.subscriptions.lookup id = some subscription)
    (hbound : subscription.isJoined = false)
    (hready : c.Ready subscription.captureKey capture captureOrder) :
    (c.joined id subscription capture captureOrder).Invariant := by
  have hnone := SharedRawSubscription.joinedCapture_of_not_isJoined hbound
  have hconsistent := (hready.consistent h).recordJoin hl hbound
  have htally : ∀ key, tally SharedRawSubscription.joinedCapture
      (c.joined id subscription capture captureOrder).subscriptions key =
        tally SharedRawSubscription.joinedCapture c.subscriptions key +
          if some subscription.captureKey = some key then 1 else 0 := tally_joined hl hnone
  refine
    { order_nodup := hready.order_nodup h
      mem_order := fun key => ?_
      cursor := hready.cursor h
      counted := ?_
      consistent := fun key other hother => ?_
      selectors := h.selectors.congr (tally_withState hl .joined rfl)
      resolved := h.resolved
      resolvedKey := fun other found resolved hfound hr => ?_
      subscription_id := fun other found hfound => ?_
      validated := fun other found hfound => ?_
      pending := fun queued hq => ?_ }
  · simp only [SharedRawContext.joined, FiniteMap.lookup_insert_ite]
    rw [hready.mem_order h]
    split
    · rename_i heq
      simp [heq]
    · rename_i hne
      rw [h.mem_order]
      simp [hne]
  · refine Counts.insert h.counted hconsistent.memberships ?_ fun key hkey => ?_
    · rw [htally, if_pos rfl]
      omega
    · rw [htally, if_neg fun heq => hkey (Option.some.inj heq).symm, Nat.add_zero]
  · simp only [SharedRawContext.joined, FiniteMap.lookup_insert_ite] at hother
    split at hother
    · rename_i heq
      subst heq
      obtain rfl : capture.recordJoin id subscription.config = other := Option.some.inj hother
      exact hconsistent
    · rename_i hne
      exact (h.consistent key other hother).withState_of_ne hl .joined (Ne.symm hne)
  · obtain ⟨before, hbefore, -, hconfig, hkey⟩ := lookup_withState hl hfound
    rw [hkey]
    exact h.resolvedKey other before resolved hbefore (hconfig ▸ hr)
  · obtain ⟨before, hbefore, hid, -, -⟩ := lookup_withState hl hfound
    rw [hid]
    exact h.subscription_id other before hbefore
  · obtain ⟨before, hbefore, -, hconfig, -⟩ := lookup_withState hl hfound
    rw [hconfig]
    exact h.validated other before hbefore
  · refine (h.pending queued hq).congr fun other found hfound hj => ?_
    simp only [SharedRawContext.joined, FiniteMap.lookup_insert_ite]
    split
    · rename_i heq
      subst heq
      obtain rfl : subscription = found := Option.some.inj (hl.symm.trans hfound)
      exact ⟨_, rfl, rfl, rfl⟩
    · exact ⟨found, hfound, hj, rfl⟩

theorem IdsUpTo.joined {n : Nat} (h : c.IdsUpTo n)
    (hl : c.subscriptions.lookup id = some subscription) :
    (c.joined id subscription capture captureOrder).IdsUpTo n := by
  obtain ⟨m, hm, hnext, hids⟩ := h
  refine ⟨m, hm, hnext, fun other found hfound => ?_⟩
  obtain ⟨before, hbefore, -⟩ := lookup_withState hl hfound
  exact hids other before hbefore

end Joined

end SharedRawContext

end McrxCore
