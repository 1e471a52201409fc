import McrxCore.Raw.Shared.Leave

/-!
# Receiving

The ids a datagram matches are a function of the subscriptions, and so is the packet
it is queued as.  `Received` says what a receive call does with the datagrams it
reads and the packets it hands over: the packets handed over and the queue after
the call are the queue before it and the packets of the datagrams, in order.
-/

namespace McrxCore

open SortedList (Increasing)

/-- The subscription is joined on `key`, and its group and source admit the
datagram. -/
def SharedRawSubscription.admits (key : RawSharedCaptureKey) (captured : RawCapturedDatagram)
    (subscription : SharedRawSubscription) : Bool :=
  decide (subscription.joinedCapture = some key) &&
    subscription.config.group == captured.group &&
    (subscription.config.sourceAddr == none ||
      subscription.config.sourceAddr == some captured.sourceIp)

/-- The ids of the subscriptions a datagram of capture `key` matches. -/
def matchingIds (subscriptions : Subscriptions) (key : RawSharedCaptureKey)
    (captured : RawCapturedDatagram) : List SubscriptionId :=
  (subscriptions.keys.filter fun id =>
    (subscriptions.lookup id).any (SharedRawSubscription.admits key captured)).sort (· ≤ ·)

abbrev Read := RawSharedCaptureKey × RawCapturedDatagram

/-- The packet a datagram is queued as, unless it matches nothing. -/
def packetOf (subscriptions : Subscriptions) (read : Read) : Option SharedRawPacket :=
  queuedPacket subscriptions read.2 (matchingIds subscriptions read.1 read.2)

def matched (subscriptions : Subscriptions) (read : Read) : Bool :=
  !(matchingIds subscriptions read.1 read.2).isEmpty

def Event.ofRead (read : Read) : Event := .received read.1 read.2

def Event.asRead : Event → Option Read
  | .received key captured => some (key, captured)
  | _ => none

section Matching

variable {subscriptions : Subscriptions} {key : RawSharedCaptureKey}
  {captured : RawCapturedDatagram}

theorem mem_matchingIds {id : SubscriptionId} :
    id ∈ matchingIds subscriptions key captured ↔
      ∃ subscription, subscriptions.lookup id = some subscription ∧
        subscription.admits key captured = true := by
  rw [matchingIds, Finset.mem_sort, Finset.mem_filter, Finmap.mem_keys]
  constructor
  · intro h
    obtain ⟨-, hany⟩ := h
    rw [Option.any_eq_true] at hany
    exact hany
  · intro h
    obtain ⟨subscription, hl, hadmits⟩ := h
    refine ⟨Finmap.mem_of_lookup_eq_some hl, ?_⟩
    rw [hl]
    exact hadmits

theorem matchingIds_increasing : Increasing (matchingIds subscriptions key captured) := by
  have hsorted := Finset.pairwise_sort (subscriptions.keys.filter fun id =>
    (subscriptions.lookup id).any (SharedRawSubscription.admits key captured)) (· ≤ ·)
  have hnodup := Finset.sort_nodup (subscriptions.keys.filter fun id =>
    (subscriptions.lookup id).any (SharedRawSubscription.admits key captured)) (· ≤ ·)
  exact (hsorted.and hnodup).imp fun hab => lt_of_le_of_ne hab.1 hab.2

theorem admits_eq_true {subscription : SharedRawSubscription} :
    subscription.admits key captured = true ↔
      subscription.membershipOn key = some { group := captured.group, source := none } ∨
        subscription.membershipOn key =
          some { group := captured.group, source := some captured.sourceIp } := by
  simp only [SharedRawSubscription.admits, Bool.and_eq_true, Bool.or_eq_true, decide_eq_true_eq,
    beq_iff_eq, SharedRawSubscription.membershipOn_eq_some, KernelMembershipKey.of,
    KernelMembershipKey.mk.injEq]
  tauto

theorem matchingIds_joined (subscriptions : Subscriptions) (key : RawSharedCaptureKey)
    (captured : RawCapturedDatagram) :
    JoinedIds subscriptions (matchingIds subscriptions key captured) := by
  refine ⟨matchingIds_increasing, fun id hid => ?_⟩
  obtain ⟨subscription, hl, hadmits⟩ := mem_matchingIds.mp hid
  refine ⟨subscription, hl, ?_⟩
  simp only [SharedRawSubscription.admits, Bool.and_eq_true, decide_eq_true_eq] at hadmits
  exact (SharedRawSubscription.joinedCapture_eq_some.mp hadmits.1.1).1

/-- A consistent index looks up the matching ids. -/
theorem CaptureConsistent.matching_eq {capture : SharedCaptureSocket}
    (h : CaptureConsistent subscriptions key capture) :
    capture.demultiplexer.matching captured.group captured.sourceIp =
      MatchingSubscriptionIds.ofIds (matchingIds subscriptions key captured) := by
  have hdisjoint : ∀ id, Holds subscriptions key captured.group none id →
      ¬ Holds subscriptions key captured.group (some captured.sourceIp) id := by
    intro id hnone hsome
    obtain ⟨subscription, hl, hm⟩ := hnone
    obtain ⟨subscription', hl', hm'⟩ := hsome
    obtain rfl : subscription = subscription' := Option.some.inj (hl.symm.trans hl')
    rw [hm] at hm'
    simp at hm'
  obtain ⟨ids, hmatching, hincreasing, hmem⟩ :=
    h.index.matching_eq_ofIds captured.group captured.sourceIp hdisjoint
  have hids : ids = matchingIds subscriptions key captured := by
    refine hincreasing.eq_of_mem_iff matchingIds_increasing fun id => ?_
    rw [hmem, mem_matchingIds]
    constructor
    · intro hor
      rcases hor with ⟨subscription, hl, hm⟩ | ⟨subscription, hl, hm⟩
      · exact ⟨subscription, hl, admits_eq_true.mpr (Or.inl hm)⟩
      · exact ⟨subscription, hl, admits_eq_true.mpr (Or.inr hm)⟩
    · intro hex
      obtain ⟨subscription, hl, hadmits⟩ := hex
      exact (admits_eq_true.mp hadmits).imp (fun hm => ⟨subscription, hl, hm⟩)
        fun hm => ⟨subscription, hl, hm⟩
  rw [hmatching, hids]

theorem packetOf_eq_none_iff {read : Read} :
    packetOf subscriptions read = none ↔ matched subscriptions read = false := by
  rw [packetOf, matched, Bool.not_eq_false', List.isEmpty_iff]
  constructor
  · intro hnone
    by_contra hne
    obtain ⟨queued, hqueued⟩ := queuedPacket_isSome read.2
      (matchingIds_joined subscriptions read.1 read.2) hne
    rw [hnone] at hqueued
    exact nomatch hqueued
  · intro hnil
    rw [hnil, queuedPacket_nil]

/-- The queued packets are as many as the matched datagrams. -/
theorem length_filterMap_packetOf (reads : List Read) :
    (reads.filterMap (packetOf subscriptions)).length =
      (reads.filter (matched subscriptions)).length := by
  induction reads with
  | nil => rfl
  | cons read rest ih =>
    cases hp : packetOf subscriptions read with
    | none =>
      rw [List.filterMap_cons_none hp, List.filter_cons_of_neg, ih]
      rw [packetOf_eq_none_iff.mp hp]
      exact Bool.false_ne_true
    | some packet =>
      have hmatched : matched subscriptions read = true := by
        rw [← Bool.not_eq_false, ← packetOf_eq_none_iff, hp]
        exact Option.some_ne_none packet
      rw [List.filterMap_cons_some hp, List.filter_cons_of_pos hmatched, List.length_cons,
        List.length_cons, ih]

end Matching

/-! ## What a read does to the context -/

/-- The metrics of one read datagram with `count` matching ids. -/
def SharedRawCaptureMetrics.recordRead (metrics : SharedRawCaptureMetrics) (count : Nat) :
    SharedRawCaptureMetrics :=
  let metrics := { metrics with
    receivedPacketsTotal := saturatingAdd metrics.receivedPacketsTotal 1 }
  if count = 0 then
    { metrics with unmatchedPacketsTotal := saturatingAdd metrics.unmatchedPacketsTotal 1 }
  else
    { metrics with
      demultiplexMatchesTotal := saturatingAdd metrics.demultiplexMatchesTotal count }

namespace SharedRawContext

def receiveAll (c : SharedRawContext) (reads : List Read) : SharedRawContext :=
  { c with
    pendingPackets := c.pendingPackets ++ reads.filterMap (packetOf c.subscriptions)
    metrics := reads.foldl (fun metrics read =>
      metrics.recordRead (matchingIds c.subscriptions read.1 read.2).length) c.metrics }

theorem receiveAll_nil (c : SharedRawContext) : c.receiveAll [] = c := by
  simp only [receiveAll, List.filterMap_nil, List.append_nil, List.foldl_nil]

theorem receiveAll_append (c : SharedRawContext) (first second : List Read) :
    c.receiveAll (first ++ second) = (c.receiveAll first).receiveAll second := by
  simp only [receiveAll, List.filterMap_append, List.foldl_append, List.append_assoc]

/-- On a consistent capture a datagram is queued as its packet, without a panic. -/
theorem queueCaptured_eq {c : SharedRawContext} {key : RawSharedCaptureKey}
    {capture : SharedCaptureSocket} (h : CaptureConsistent c.subscriptions key capture)
    (captured : RawCapturedDatagram) :
    c.queueCaptured capture captured =
      some (matched c.subscriptions (key, captured), c.receiveAll [(key, captured)]) := by
  simp only [queueCaptured, h.matching_eq, matched, receiveAll, List.filterMap_cons,
    List.filterMap_nil, List.foldl_cons, List.foldl_nil, packetOf]
  have hjoined := matchingIds_joined c.subscriptions key captured
  cases hids : matchingIds c.subscriptions key captured with
  | nil =>
    simp only [MatchingSubscriptionIds.ofIds, queuedPacket_nil, List.append_nil,
      SharedRawCaptureMetrics.recordRead, List.length_nil, if_true]
    rfl
  | cons id rest =>
    rw [hids] at hjoined
    obtain ⟨primary, hl, -⟩ := hjoined.joined id List.mem_cons_self
    cases hm : MatchingSubscriptionIds.ofIds (id :: rest) with
    | none => cases MatchingSubscriptionIds.ofIds_eq_none.mp hm
    | some matchingIds =>
      have hslice := MatchingSubscriptionIds.asSlice_of_ofIds hm
      have hfirst : matchingIds.first = some id := by
        rw [MatchingSubscriptionIds.first, hslice, List.head?_cons]
      have hl' : (c.recordReceivedPacket.recordDemultiplexMatches
          (id :: rest).length).subscriptions.lookup id = some primary := hl
      simp only [hfirst, hslice, hl', queuedPacket, List.head?_cons, hl, hm,
        SharedRawCaptureMetrics.recordRead]
      rw [if_neg (by simp)]
      rfl

/-- A call read `reads` and handed `packets` over. -/
structure Received (c : SharedRawContext) (packets : List SharedRawPacket) (reads : List Read)
    (c' : SharedRawContext) : Prop where
  context : c' = { c.receiveAll reads with
    pendingPackets := c'.pendingPackets
    nextCaptureIndex := c'.nextCaptureIndex }
  pending : packets ++ c'.pendingPackets =
    c.pendingPackets ++ reads.filterMap (packetOf c.subscriptions)
  cursor : c'.nextCaptureIndex < c'.captureOrder.length ∨
    c'.captureOrder = [] ∧ c'.nextCaptureIndex = 0
  open_keys : ∀ read ∈ reads, ∃ capture, c.captures.lookup read.1 = some capture

section Received

variable {c c₁ c₂ : SharedRawContext} {packets packets₁ packets₂ : List SharedRawPacket}
  {reads reads₁ reads₂ : List Read}

theorem Received.subscriptions (h : c.Received packets reads c₁) :
    c₁.subscriptions = c.subscriptions := by rw [h.context]; rfl

theorem Received.captures (h : c.Received packets reads c₁) : c₁.captures = c.captures := by
  rw [h.context]; rfl

theorem Received.captureOrder (h : c.Received packets reads c₁) :
    c₁.captureOrder = c.captureOrder := by rw [h.context]; rfl

theorem Received.resolvedCaptureKeys (h : c.Received packets reads c₁) :
    c₁.resolvedCaptureKeys = c.resolvedCaptureKeys := by rw [h.context]; rfl

theorem Received.limits (h : c.Received packets reads c₁) : c₁.limits = c.limits := by
  rw [h.context]; rfl

theorem Received.nextSubscriptionId (h : c.Received packets reads c₁) :
    c₁.nextSubscriptionId = c.nextSubscriptionId := by rw [h.context]; rfl

theorem Received.metrics (h : c.Received packets reads c₁) :
    c₁.metrics = (c.receiveAll reads).metrics := by rw [h.context]

theorem Received.refl (h : c.nextCaptureIndex < c.captureOrder.length ∨
    c.captureOrder = [] ∧ c.nextCaptureIndex = 0) : c.Received [] [] c := by
  refine ⟨?_, by simp, h, fun read hread => nomatch hread⟩
  rw [receiveAll_nil]

theorem Received.trans (h₁ : c.Received packets₁ reads₁ c₁)
    (h₂ : c₁.Received packets₂ reads₂ c₂) :
    c.Received (packets₁ ++ packets₂) (reads₁ ++ reads₂) c₂ := by
  refine ⟨?_, ?_, h₂.cursor, fun read hread => ?_⟩
  · rw [h₂.context, receiveAll_append, h₁.context]
    simp only [receiveAll]
  · rw [List.append_assoc, h₂.pending, ← List.append_assoc, h₁.pending, h₁.subscriptions,
      List.filterMap_append, List.append_assoc]
  · rcases List.mem_append.mp hread with hread | hread
    · exact h₁.open_keys read hread
    · have hopen := h₂.open_keys read hread
      rwa [h₁.captures] at hopen

/-- Every packet still queued was queued before, or is the packet of a read. -/
theorem Received.mem_pending (h : c.Received packets reads c₁) {queued : SharedRawPacket}
    (hq : queued ∈ c₁.pendingPackets) :
    queued ∈ c.pendingPackets ∨ ∃ read ∈ reads, packetOf c.subscriptions read = some queued := by
  have hmem : queued ∈ packets ++ c₁.pendingPackets := List.mem_append_right _ hq
  rw [h.pending, List.mem_append, List.mem_filterMap] at hmem
  exact hmem

theorem Received.invariant (h : c.Received packets reads c₁) (hinv : c.Invariant) :
    c₁.Invariant := by
  refine
    { order_nodup := h.captureOrder ▸ hinv.order_nodup
      mem_order := ?_
      cursor := h.cursor
      counted := ?_
      consistent := ?_
      selectors := ?_
      resolved := h.resolvedCaptureKeys ▸ hinv.resolved
      resolvedKey := ?_
      subscription_id := h.subscriptions ▸ hinv.subscription_id
      validated := h.subscriptions ▸ hinv.validated
      pending := fun queued hq => ?_ }
  · rw [h.captureOrder, h.captures]
    exact hinv.mem_order
  · rw [h.captures, h.subscriptions]
    exact hinv.counted
  · rw [h.captures, h.subscriptions]
    exact hinv.consistent
  · rw [h.resolvedCaptureKeys, h.subscriptions]
    exact hinv.selectors
  · rw [h.resolvedCaptureKeys, h.subscriptions]
    exact hinv.resolvedKey
  · rw [h.subscriptions]
    rcases h.mem_pending hq with hq | ⟨read, -, hread⟩
    · exact hinv.pending queued hq
    · exact ⟨read.2, _, matchingIds_joined _ _ _, hread⟩

theorem Received.idsUpTo (h : c.Received packets reads c₁) {n : Nat} (hids : c.IdsUpTo n) :
    c₁.IdsUpTo n := by
  obtain ⟨m, hm, hnext, hle⟩ := hids
  refine ⟨m, hm, h.nextSubscriptionId.trans hnext, ?_⟩
  rw [h.subscriptions]
  exact hle

end Received

/-! ## One fill -/

variable {W : Type} {os : OperatingSystem W}

/-- The inner or outer loop of a fill read `reads`. -/
structure Fetched (reads : List Read) (f f' : Fill W) : Prop where
  received : f.system.context.Received [] reads f'.system.context
  events : f'.system.events = f.system.events ++ reads.map Event.ofRead
  queued : f'.queuedPackets =
    f.queuedPackets + (reads.filter (matched f.system.context.subscriptions)).length
  captured : f'.capturedDatagrams = f.capturedDatagrams + reads.length

theorem Fetched.refl {f : Fill W} (h : f.system.context.Invariant) (w : W) :
    Fetched [] f { f with system := { f.system with world := w } } :=
  ⟨Received.refl h.cursor, by simp, by simp, by simp⟩

theorem Fetched.trans {reads₁ reads₂ : List Read} {f f₁ f₂ : Fill W} (h₁ : Fetched reads₁ f f₁)
    (h₂ : Fetched reads₂ f₁ f₂) : Fetched (reads₁ ++ reads₂) f f₂ := by
  refine ⟨h₁.received.trans h₂.received, ?_, ?_, ?_⟩
  · rw [h₂.events, h₁.events, List.map_append, List.append_assoc]
  · rw [h₂.queued, h₁.queued, h₁.received.subscriptions, List.filter_append, List.length_append]
    omega
  · rw [h₂.captured, h₁.captured, List.length_append]
    omega

/-- The bounds a fill keeps: no more packets than the target, no more datagrams
than the budget. -/
def Fill.Within (target captureBudget : Nat) (f : Fill W) : Prop :=
  f.queuedPackets ≤ target ∧ f.capturedDatagrams ≤ captureBudget

def Fill.afterRead (f : Fill W) (read : Read) (w : W) : Fill W :=
  { queuedPackets :=
      if matched f.system.context.subscriptions read then f.queuedPackets + 1
      else f.queuedPackets
    capturedDatagrams := f.capturedDatagrams + 1
    system :=
      { context := f.system.context.receiveAll [read]
        world := w
        events := f.system.events ++ [.ofRead read] } }

theorem Fetched.one {f : Fill W} (hinv : f.system.context.Invariant) {key : RawSharedCaptureKey}
    {capture : SharedCaptureSocket} (hcapture : f.system.context.captures.lookup key = some capture)
    (captured : RawCapturedDatagram) (w : W) :
    Fetched [(key, captured)] f (f.afterRead (key, captured) w) := by
  refine ⟨⟨rfl, rfl, hinv.cursor, fun read hread => ?_⟩, rfl, ?_, rfl⟩
  · rw [List.mem_singleton.mp hread]
    exact ⟨capture, hcapture⟩
  · rw [Fill.afterRead]
    cases hm : matched f.system.context.subscriptions (key, captured) with
    | true => simp [hm]
    | false => simp [hm]

theorem Fill.Within.afterRead {target captureBudget : Nat} {f : Fill W}
    (h : f.Within target captureBudget)
    (hroom : ¬ (f.queuedPackets = target ∨ f.capturedDatagrams = captureBudget)) (read : Read)
    (w : W) : (f.afterRead read w).Within target captureBudget := by
  obtain ⟨hq, hc⟩ := h
  rw [not_or] at hroom
  constructor
  · simp only [Fill.afterRead]
    split
    · omega
    · exact hq
  · simp only [Fill.afterRead]
    omega

/-- One round of the inner loop that reads a datagram. -/
theorem pollCapture_read {target captureBudget rounds : Nat} {key : RawSharedCaptureKey}
    {f : Fill W} {capture : SharedCaptureSocket} {captured : RawCapturedDatagram} {w : W}
    (hinv : f.system.context.Invariant)
    (hcapture : f.system.context.captures.lookup key = some capture)
    (hroom : ¬ (f.queuedPackets = target ∨ f.capturedDatagrams = captureBudget))
    (hrecv : recvSharedRawDatagram os capture.socket key f.system.world =
      (.ok (some captured), w)) :
    pollCapture os target captureBudget key (rounds + 1) f =
      pollCapture os target captureBudget key rounds (f.afterRead (key, captured) w) := by
  have hconsistent := hinv.consistent key capture hcapture
  simp only [pollCapture, hcapture, if_neg hroom, hrecv, System.observe,
    queueCaptured_eq hconsistent]
  rfl

theorem pollCapture_cases {target captureBudget rounds : Nat} {key : RawSharedCaptureKey}
    {f f' : Fill W} {exit : PollExit} (hinv : f.system.context.Invariant)
    {capture : SharedCaptureSocket} (hcapture : f.system.context.captures.lookup key = some capture)
    (hwithin : f.Within target captureBudget)
    (h : pollCapture os target captureBudget key rounds f = (exit, f')) :
    exit ≠ .panic ∧ f'.Within target captureBudget ∧
      ∃ datagrams : List RawCapturedDatagram, Fetched (datagrams.map (key, ·)) f f' := by
  induction rounds generalizing f with
  | zero =>
    cases h
    exact ⟨by simp, hwithin, [], Fetched.refl hinv _⟩
  | succ rounds ih =>
    by_cases hroom : f.queuedPackets = target ∨ f.capturedDatagrams = captureBudget
    · rw [pollCapture, if_pos hroom] at h
      cases h
      exact ⟨by simp, hwithin, [], Fetched.refl hinv _⟩
    · cases hrecv : recvSharedRawDatagram os capture.socket key f.system.world with
      | mk result w =>
        rcases result with e | _ | captured
        · simp only [pollCapture, if_neg hroom, hcapture, hrecv] at h
          cases h
          exact ⟨by simp, hwithin, [], Fetched.refl hinv _⟩
        · simp only [pollCapture, if_neg hroom, hcapture, hrecv] at h
          cases h
          exact ⟨by simp, hwithin, [], Fetched.refl hinv _⟩
        · rw [pollCapture_read hinv hcapture hroom hrecv] at h
          have hone := Fetched.one hinv hcapture captured w
          obtain ⟨hexit, hfinal, datagrams, hrest⟩ := ih (hone.received.invariant hinv) hcapture
            (hwithin.afterRead hroom _ w) h
          exact ⟨hexit, hfinal, captured :: datagrams, hone.trans hrest⟩

def Fill.advanced (f : Fill W) (captureCount : Nat) : Fill W :=
  { f with system := f.system.withContext (f.system.context.advanceCursor captureCount) }

theorem Fetched.advance {f : Fill W} {captureCount : Nat}
    (hcount : captureCount = f.system.context.captureOrder.length) (hpos : 0 < captureCount) :
    Fetched [] f (f.advanced captureCount) := by
  refine ⟨⟨?_, by simp [Fill.advanced, advanceCursor, System.withContext], Or.inl ?_,
    fun read hread => nomatch hread⟩, by simp [Fill.advanced, System.withContext],
    by simp [Fill.advanced], by simp [Fill.advanced]⟩
  · rw [receiveAll_nil]
    rfl
  · subst hcount
    exact Nat.mod_lt _ hpos

theorem Invariant.polled {c : SharedRawContext} (h : c.Invariant)
    (hne : c.captureOrder ≠ []) :
    ∃ key capture, c.captureOrder[c.nextCaptureIndex]? = some key ∧
      c.captures.lookup key = some capture := by
  have hlt : c.nextCaptureIndex < c.captureOrder.length :=
    h.cursor.resolve_right fun hnil => hne hnil.1
  obtain ⟨capture, hcapture⟩ := (h.mem_order _).mp (List.getElem_mem hlt)
  exact ⟨_, capture, List.getElem?_eq_getElem hlt, hcapture⟩

theorem fillCaptures_cases {target captureBudget captureCount captures : Nat} {f : Fill W}
    {s : System W} {r : Outcome Nat} (hinv : f.system.context.Invariant)
    (hcount : captureCount = f.system.context.captureOrder.length) (hpos : 0 < captureCount)
    (hwithin : f.Within target captureBudget)
    (h : fillCaptures os target captureBudget captureCount captures f = (r, s)) :
    r ≠ .panic ∧ ∃ reads f', Fetched reads f f' ∧ f'.Within target captureBudget ∧
      f'.system = s ∧ ∀ queued, r = .ok queued → queued = f'.queuedPackets := by
  induction captures generalizing f with
  | zero =>
    cases h
    exact ⟨by simp, [], f, Fetched.refl hinv _, hwithin, rfl,
      fun queued hq => by cases hq; rfl⟩
  | succ captures ih =>
    have hne : f.system.context.captureOrder ≠ [] := List.ne_nil_of_length_pos (hcount ▸ hpos)
    obtain ⟨key, capture, hkey, hcapture⟩ := hinv.polled hne
    have hadvance := Fetched.advance hcount hpos
    simp only [fillCaptures, hkey] at h
    cases hpoll : pollCapture os target captureBudget key target (f.advanced captureCount) with
    | mk exit f₁ =>
      obtain ⟨hexit, hwithin₁, datagrams, hfetched⟩ :=
        pollCapture_cases (hadvance.received.invariant hinv) hcapture hwithin hpoll
      have hone := hadvance.trans hfetched
      rw [Fill.advanced] at hpoll
      rw [hpoll] at h
      cases exit with
      | nextCapture =>
        have hcount₁ : captureCount = f₁.system.context.captureOrder.length := by
          rw [hone.received.captureOrder]
          exact hcount
        obtain ⟨hr, reads, f', hrest, hwithin', hs, hqueued⟩ :=
          ih (hone.received.invariant hinv) hcount₁ hwithin₁ h
        exact ⟨hr, _, f', hone.trans hrest, hwithin', hs, hqueued⟩
      | breakCaptures =>
        cases h
        exact ⟨by simp, _, f₁, hone, hwithin₁, rfl,
          fun queued hq => by cases hq; rfl⟩
      | err e =>
        cases h
        exact ⟨by simp, _, f₁, hone, hwithin₁, rfl,
          fun queued hq => by cases hq⟩
      | panic => exact absurd rfl hexit

/-- What one fill does: the datagrams read are at most the target and one for each
capture, the packets queued at most the target. -/
structure FillStep (s : System W) (maxNewPackets : Nat) (r : Outcome Nat) (reads : List Read)
    (s' : System W) : Prop where
  noPanic : r ≠ .panic
  received : s.context.Received [] reads s'.context
  events : s'.events = s.events ++ reads.map Event.ofRead
  reads_le : reads.length ≤ s.context.fillTarget maxNewPackets + s.context.captureOrder.length
  matched_le : (reads.filter (matched s.context.subscriptions)).length ≤
    s.context.fillTarget maxNewPackets
  queued : ∀ queued, r = .ok queued →
    queued = (reads.filter (matched s.context.subscriptions)).length

theorem fillPending_cases {s s' : System W} {maxNewPackets : Nat} {r : Outcome Nat}
    (hinv : s.context.Invariant) (h : fillPending os maxNewPackets s = (r, s')) :
    ∃ reads, FillStep s maxNewPackets r reads s' := by
  simp only [fillPending] at h
  split at h
  · cases h
    exact ⟨[], by simp, Received.refl hinv.cursor, by simp, by simp, by simp,
      fun queued hq => by cases hq; simp⟩
  · rename_i hopen
    rw [not_or, List.isEmpty_iff] at hopen
    have hpos := List.length_pos_iff.mpr hopen.1
    obtain ⟨hr, reads, f', hfetched, hwithin, rfl, hqueued⟩ :=
      fillCaptures_cases (f := { queuedPackets := 0, capturedDatagrams := 0, system := s })
        hinv rfl hpos ⟨Nat.zero_le _, Nat.zero_le _⟩ h
    obtain ⟨hq, hc⟩ := hwithin
    have hqueued' := hfetched.queued
    have hcaptured := hfetched.captured
    simp only [Nat.zero_add] at hqueued' hcaptured
    refine ⟨reads, hr, hfetched.received, hfetched.events, ?_, ?_, fun queued hok => ?_⟩
    · rw [← hcaptured]
      exact Nat.le_trans hc (Nat.min_le_left _ _)
    · rw [← hqueued']
      exact hq
    · rw [← hqueued']
      exact hqueued queued hok

end SharedRawContext

end McrxCore
