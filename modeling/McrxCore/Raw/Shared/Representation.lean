import McrxCore.Raw.Shared.Run

/-!
# The derived tables

In every reachable state the capture map, the capture order, the kernel reference
counts, the demultiplexers and the selector cache are determined by the
subscriptions, and a membership operation that fails changes none of them.
-/

namespace McrxCore

open FiniteMap (tally counted)
open SortedList (Increasing)

namespace SharedRawContext

/-- The tables of a context, in terms of its subscriptions. -/
structure Representation (c : SharedRawContext) : Prop where
  /-- The capture order lists the captures once each. -/
  order_nodup : c.captureOrder.Nodup
  mem_order : ∀ key, key ∈ c.captureOrder ↔ key ∈ c.captures
  /-- The cursor is an index of the order, and zero when there is none. -/
  cursor_lt : c.captureOrder ≠ [] → c.nextCaptureIndex < c.captureOrder.length
  cursor_zero : c.captureOrder = [] → c.nextCaptureIndex = 0
  /-- A capture is open exactly while a subscription is joined on it. -/
  capture_iff : ∀ key, key ∈ c.captures ↔ ∃ id subscription,
    c.subscriptions.lookup id = some subscription ∧ subscription.captureKey = key ∧
      subscription.state = .joined
  memberships : ∀ key capture, c.captures.lookup key = some capture →
    capture.memberships = tally SharedRawSubscription.joinedCapture c.subscriptions key
  /-- Every kernel membership counts its holders, and none is without one. -/
  kernel : ∀ key capture, c.captures.lookup key = some capture → ∀ membership,
    (capture.kernelMemberships.lookup membership).map KernelMembership.references =
      counted (tally (SharedRawSubscription.membershipOn key) c.subscriptions membership)
  /-- The index holds a joined id under its own group and source and nowhere else. -/
  mem_ids : ∀ key capture, c.captures.lookup key = some capture → ∀ group source id,
    id ∈ capture.demultiplexer.ids group source ↔ ∃ subscription,
      c.subscriptions.lookup id = some subscription ∧ subscription.captureKey = key ∧
        subscription.state = .joined ∧ subscription.config.group = group ∧
        subscription.config.sourceAddr = source
  increasing : ∀ key capture, c.captures.lookup key = some capture → ∀ group source,
    Increasing (capture.demultiplexer.ids group source)
  /-- No group is kept without ids, and no source with an empty list. -/
  compact : ∀ key capture, c.captures.lookup key = some capture → capture.demultiplexer.Compact
  /-- The selector cache counts the subscriptions of each selector, with their key. -/
  selectors : ∀ selector,
    (c.resolvedCaptureKeys.lookup selector).map ResolvedCaptureKey.references =
      counted (tally SharedRawSubscription.selector c.subscriptions selector)
  resolved : ∀ id subscription, c.subscriptions.lookup id = some subscription →
    (c.resolvedCaptureKeys.lookup (.of subscription.config)).map ResolvedCaptureKey.key =
      some subscription.captureKey
  subscription_id : ∀ id subscription, c.subscriptions.lookup id = some subscription →
    subscription.id = id

theorem isJoined_iff {subscription : SharedRawSubscription} :
    subscription.isJoined = true ↔ subscription.state = .joined := by
  rw [SharedRawSubscription.isJoined, beq_iff_eq]

theorem Invariant.representation {c : SharedRawContext} (h : c.Invariant) : c.Representation := by
  have hopen : ∀ key, key ∈ c.captures ↔ ∃ capture, c.captures.lookup key = some capture := by
    intro key
    rw [← Finmap.lookup_isSome, Option.isSome_iff_exists]
  refine
    { order_nodup := h.order_nodup
      mem_order := fun key => (h.mem_order key).trans (hopen key).symm
      cursor_lt := fun hne => h.cursor.resolve_right fun hnil => hne hnil.1
      cursor_zero := fun hnil => ?_
      capture_iff := fun key => ?_
      memberships := fun key capture hcapture => (h.consistent key capture hcapture).memberships
      kernel := fun key capture hcapture => (h.consistent key capture hcapture).kernel.lookup_map
      mem_ids := fun key capture hcapture group source id => ?_
      increasing := fun key capture hcapture => (h.consistent key capture hcapture).index.increasing
      compact := fun key capture hcapture => (h.consistent key capture hcapture).index.compact
      selectors := h.selectors.lookup_map
      resolved := fun id subscription hl => ?_
      subscription_id := h.subscription_id }
  · rcases h.cursor with hlt | ⟨-, hzero⟩
    · rw [hnil] at hlt
      exact absurd hlt (Nat.not_lt_zero _)
    · exact hzero
  · rw [hopen, h.counted.mem_iff, FiniteMap.tally_pos_iff]
    simp only [SharedRawSubscription.joinedCapture_eq_some, isJoined_iff]
    constructor
    · intro hex
      obtain ⟨id, subscription, hl, hj, hkey⟩ := hex
      exact ⟨id, subscription, hl, hkey, hj⟩
    · intro hex
      obtain ⟨id, subscription, hl, hkey, hj⟩ := hex
      exact ⟨id, subscription, hl, hj, hkey⟩
  · rw [(h.consistent key capture hcapture).index.mem_ids, Holds]
    simp only [SharedRawSubscription.membershipOn_eq_some,
      SharedRawSubscription.joinedCapture_eq_some, isJoined_iff, KernelMembershipKey.of,
      KernelMembershipKey.mk.injEq]
    constructor
    · intro hex
      obtain ⟨subscription, hl, ⟨hj, hkey⟩, hgroup, hsource⟩ := hex
      exact ⟨subscription, hl, hkey, hj, hgroup, hsource⟩
    · intro hex
      obtain ⟨subscription, hl, hkey, hj, hgroup, hsource⟩ := hex
      exact ⟨subscription, hl, ⟨hj, hkey⟩, hgroup, hsource⟩
  · obtain ⟨resolved, hresolved, -⟩ := h.resolved_of_lookup hl
    rw [hresolved, Option.map_some, h.resolvedKey id subscription resolved hl hresolved]

end SharedRawContext

namespace System

open SharedRawContext

variable {W : Type} {os : OperatingSystem W}

/-- The tables of every reachable context are those of its subscriptions. -/
theorem reachable_representation {s : System W} (h : Reachable os s) :
    s.context.Representation :=
  h.invariant.representation

theorem reachable_representation_twoCaptures : twoCaptures.context.Representation :=
  reachable_representation twoCaptures_reachable

def Operation.isMembership : Operation → Bool
  | .addSubscription _ => true
  | .joinSubscription _ => true
  | .leaveSubscription _ => true
  | .removeSubscription _ => true
  | .tryRecvAny => false
  | .tryRecvBatchInto _ => false

theorem Outcome.map_eq_err {α β : Type} {f : α → β} {r : Outcome α} {e : McrxError}
    (h : r.map f = .err e) : r = .err e := by
  cases r with
  | ok value => exact nomatch h
  | err error =>
    cases h
    rfl
  | panic => exact nomatch h

theorem CallStep.context_of_err {c c' : SharedRawContext} {operation : Operation}
    {response : Response} {events : List Event} (h : CallStep c operation response c' events)
    (hop : Operation.isMembership operation = true) {e : McrxError}
    (herr : response.outcome = .err e) : c' = c := by
  cases h with
  | added h =>
    cases Outcome.map_eq_err herr
    cases h with
    | refused => rfl
  | joined h =>
    cases Outcome.map_eq_err herr
    exact h.context_of_err
  | left h =>
    cases Outcome.map_eq_err herr
    exact h.context_of_err
  | removed h =>
    cases Outcome.map_eq_err herr
    exact h.context_of_err
  | receivedAny => exact nomatch hop
  | receivedBatch => exact nomatch hop

/-- A membership operation that returns an error leaves the whole context as it was. -/
theorem failed_operation_keeps_context {s : System W} (h : Reachable os s) {operation : Operation}
    (hop : Operation.isMembership operation = true) {e : McrxError}
    (herr : (step os operation s).1.outcome = .err e) :
    (step os operation s).2.context = s.context :=
  (step_cases os operation h.invariant).context_of_err hop herr

/-- `ENOBUFS` on every kernel join. -/
def exhausted : OperatingSystem Fd :=
  { flooded with joinMulticastGroup := fun _ _ w => (.error (.multicastJoinFailed ⟨105⟩), w) }

theorem failed_operation_keeps_context_exhausted :
    (step exhausted (.joinSubscription ⟨1⟩)
        (run exhausted [.addSubscription (allNodesOn 1)] (.new 3))).2.context =
      (run exhausted [.addSubscription (allNodesOn 1)] (.new 3)).context :=
  failed_operation_keeps_context (e := .multicastJoinFailed ⟨105⟩)
    ⟨.new 3, _, initial_new 3, by decide, rfl⟩ rfl (by decide +kernel)

end System

end McrxCore
