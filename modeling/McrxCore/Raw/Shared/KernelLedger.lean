import McrxCore.Raw.Shared.Representation

/-!
# The kernel membership ledger

The ledger is what the membership sockets hold, replayed from the events: for each
capture and each membership the configuration it was joined with.  A kernel join of
a held membership, a kernel leave of one not held, and a leave with another
configuration than the join's have no replay.
-/

namespace McrxCore

open FiniteMap (tally)
open SharedRawContext

/-- What the membership socket of each capture holds, with the configurations the
memberships were joined with. -/
abbrev KernelLedger := RawSharedCaptureKey → KernelMembershipKey → Option RawSubscriptionConfig

namespace KernelLedger

def empty : KernelLedger := fun _ _ => none

def set (ledger : KernelLedger) (key : RawSharedCaptureKey) (membership : KernelMembershipKey)
    (entry : Option RawSubscriptionConfig) : KernelLedger :=
  fun key' membership' =>
    if key' = key ∧ membership' = membership then entry else ledger key' membership'

def clear (ledger : KernelLedger) (key : RawSharedCaptureKey) : KernelLedger :=
  fun key' membership => if key' = key then none else ledger key' membership

def apply (ledger : KernelLedger) : Event → Option KernelLedger
  | .captureOpened key => some (ledger.clear key)
  | .captureClosed key => some (ledger.clear key)
  | .kernelJoin key config succeeded =>
    if ledger key (.of config) = none then
      some (if succeeded then ledger.set key (.of config) (some config) else ledger)
    else none
  | .kernelLeave key config succeeded =>
    if ledger key (.of config) = some config then
      some (if succeeded then ledger.set key (.of config) none else ledger)
    else none
  | .received _ _ => some ledger

def replay : List Event → KernelLedger → Option KernelLedger
  | [], ledger => some ledger
  | event :: events, ledger => (ledger.apply event).bind (replay events)

/-- The ledger after a run, if every kernel call of the run was legal. -/
def after (calls : List System.Call) : Option KernelLedger :=
  calls.foldl (fun ledger call => ledger.bind (replay call.events)) (some empty)

def Keyed (ledger : KernelLedger) : Prop :=
  ∀ key membership config, ledger key membership = some config →
    KernelMembershipKey.of config = membership

theorem set_self (ledger : KernelLedger) (key : RawSharedCaptureKey)
    (membership : KernelMembershipKey) :
    ledger.set key membership (ledger key membership) = ledger := by
  funext key' membership'
  rw [set]
  split
  · rename_i hboth
    rw [hboth.1, hboth.2]
  · rfl

theorem clear_eq {ledger : KernelLedger} {key : RawSharedCaptureKey}
    (h : ∀ membership, ledger key membership = none) : ledger.clear key = ledger := by
  funext key' membership
  rw [clear]
  split
  · rename_i heq
    rw [heq, h]
  · rfl

theorem Keyed.set {ledger : KernelLedger} (h : ledger.Keyed) (key : RawSharedCaptureKey)
    {membership : KernelMembershipKey} {entry : Option RawSubscriptionConfig}
    (hentry : ∀ config, entry = some config → KernelMembershipKey.of config = membership) :
    (ledger.set key membership entry).Keyed := by
  intro key' membership' config hset
  rw [KernelLedger.set] at hset
  split at hset
  · rename_i hboth
    rw [hboth.2]
    exact hentry config hset
  · exact h key' membership' config hset

theorem Keyed.clear {ledger : KernelLedger} (h : ledger.Keyed) (key : RawSharedCaptureKey) :
    (ledger.clear key).Keyed := by
  intro key' membership config hclear
  rw [KernelLedger.clear] at hclear
  split at hclear
  · exact nomatch hclear
  · exact h key' membership config hclear

theorem apply_join_new {ledger : KernelLedger} {key : RawSharedCaptureKey}
    {config : RawSubscriptionConfig} (h : ledger key (.of config) = none) (succeeded : Bool) :
    ledger.apply (.kernelJoin key config succeeded) =
      some (if succeeded then ledger.set key (.of config) (some config) else ledger) := if_pos h

theorem apply_leave_held {ledger : KernelLedger} {key : RawSharedCaptureKey}
    {config : RawSubscriptionConfig} (h : ledger key (.of config) = some config)
    (succeeded : Bool) :
    ledger.apply (.kernelLeave key config succeeded) =
      some (if succeeded then ledger.set key (.of config) none else ledger) := if_pos h

theorem replay_reads (reads : List Read) (ledger : KernelLedger) :
    replay (reads.map Event.ofRead) ledger = some ledger := by
  induction reads with
  | nil => rfl
  | cons read rest ih =>
    rw [List.map_cons, replay, Event.ofRead, apply, Option.bind_some, ih]

end KernelLedger

namespace SharedRawContext

open KernelLedger

/-- The kernel memberships the context remembers, with their configurations. -/
def remembered (c : SharedRawContext) : KernelLedger := fun key membership =>
  (c.captures.lookup key).bind fun capture =>
    (capture.kernelMemberships.lookup membership).map KernelMembership.joinedConfig

section Remembered

variable {c c' : SharedRawContext} {key : RawSharedCaptureKey} {capture : SharedCaptureSocket}
  {id : SubscriptionId} {events : List Event}

theorem remembered_open (hcapture : c.captures.lookup key = some capture)
    (membership : KernelMembershipKey) :
    c.remembered key membership =
      (capture.kernelMemberships.lookup membership).map KernelMembership.joinedConfig := by
  rw [remembered, hcapture, Option.bind_some]

theorem remembered_closed (hcapture : c.captures.lookup key = none)
    (membership : KernelMembershipKey) : c.remembered key membership = none := by
  rw [remembered, hcapture, Option.bind_none]

/-- One capture is replaced, and one of its memberships differs. -/
theorem remembered_set (updated : SharedCaptureSocket) {membership : KernelMembershipKey}
    {entry : Option RawSubscriptionConfig}
    (hcaptures : ∀ key', c'.captures.lookup key' =
      if key' = key then some updated else c.captures.lookup key')
    (hupdated : ∀ membership',
      (updated.kernelMemberships.lookup membership').map KernelMembership.joinedConfig =
        if membership' = membership then entry else c.remembered key membership') :
    c'.remembered = c.remembered.set key membership entry := by
  funext key' membership'
  rw [remembered, hcaptures, KernelLedger.set]
  by_cases hkey : key' = key
  · subst hkey
    rw [if_pos rfl, Option.bind_some, hupdated]
    simp only [true_and]
  · rw [if_neg hkey, if_neg fun hboth => hkey hboth.1, remembered]

/-- A recorded join changes the entry of its own membership. -/
theorem remembered_joined (id : SubscriptionId) {subscription : SharedRawSubscription}
    (captureOrder : List RawSharedCaptureKey) (capture : SharedCaptureSocket)
    (hready : ∀ membership, c.remembered subscription.captureKey membership =
      (capture.kernelMemberships.lookup membership).map KernelMembership.joinedConfig) :
    (c.joined id subscription capture captureOrder).remembered =
      c.remembered.set subscription.captureKey (.of subscription.config)
        (some ((c.remembered subscription.captureKey (.of subscription.config)).getD
          subscription.config)) := by
  refine remembered_set (capture.recordJoin id subscription.config)
    (fun key' => FiniteMap.lookup_insert_ite _ _ _ _) fun membership' => ?_
  simp only [SharedCaptureSocket.recordJoin, FiniteMap.lookup_insert_ite]
  split
  · rw [hready]
    cases capture.kernelMemberships.lookup (.of subscription.config) with
    | none => rfl
    | some entry => rfl
  · rw [hready]

/-- A recorded leave drops the entry of its membership with the last reference. -/
theorem remembered_left (id : SubscriptionId) {subscription : SharedRawSubscription}
    (membership : KernelMembership)
    (hcapture : c.captures.lookup subscription.captureKey = some capture) :
    (c.left id subscription
        (capture.recordLeft id subscription.config membership)).remembered =
      c.remembered.set subscription.captureKey (.of subscription.config)
        (if membership.references = 1 then none else some membership.joinedConfig) := by
  refine remembered_set (capture.recordLeft id subscription.config membership)
    (fun key' => FiniteMap.lookup_insert_ite _ _ _ _) fun membership' => ?_
  rw [remembered_open hcapture]
  simp only [SharedCaptureSocket.recordLeft, SharedCaptureSocket.releaseKernel]
  by_cases hlast : membership.references = 1
  · rw [if_pos hlast, if_pos hlast, FiniteMap.lookup_erase_ite]
    split
    · rfl
    · rfl
  · rw [if_neg hlast, if_neg hlast, FiniteMap.lookup_insert_ite]
    split
    · rfl
    · rfl

theorem remembered_closeCapture (key : RawSharedCaptureKey) :
    (c.closeCapture key).remembered = c.remembered.clear key := by
  funext key' membership
  simp only [remembered, closeCapture, FiniteMap.lookup_erase_ite, KernelLedger.clear]
  split
  · rfl
  · rfl

/-! ## One call -/

theorem JoinStep.replay {r : Outcome Unit} (hstep : JoinStep c id r c' events)
    (hkeyed : c.remembered.Keyed) :
    KernelLedger.replay events c.remembered = some c'.remembered ∧ c'.remembered.Keyed := by
  have hset : ∀ (subscription : SharedRawSubscription) (entry : RawSubscriptionConfig),
      KernelMembershipKey.of entry = .of subscription.config →
      (c.remembered.set subscription.captureKey (.of subscription.config) (some entry)).Keyed := by
    intro subscription entry heq
    refine hkeyed.set _ fun config hconfig => ?_
    rw [← Option.some.inj hconfig, heq]
  cases hstep with
  | refused => exact ⟨rfl, hkeyed⟩
  | @joinFailed subscription _ e hl hbound hcapture hnew =>
    have hnone : c.remembered subscription.captureKey (.of subscription.config) = none := by
      rw [remembered_open hcapture, hnew, Option.map_none]
    refine ⟨?_, hkeyed⟩
    rw [KernelLedger.replay, apply_join_new hnone]
    rfl
  | openedJoinFailed e hl hbound hcapture =>
    have hclear := clear_eq (remembered_closed hcapture)
    refine ⟨?_, hkeyed⟩
    simp only [KernelLedger.replay, KernelLedger.apply, hclear, Option.bind_some,
      remembered_closed hcapture, if_true, Bool.false_eq_true, if_false]
  | @joinedHeld subscription _ _ hl hbound hcapture hheld =>
    have hentry := remembered_open hcapture (.of subscription.config)
    rw [hheld, Option.map_some] at hentry
    have hjoined := remembered_joined id c.captureOrder _ (remembered_open hcapture)
    rw [hentry, Option.getD_some, ← hentry, set_self] at hjoined
    rw [hjoined]
    exact ⟨rfl, hkeyed⟩
  | @joinedFirst subscription _ hl hbound hcapture hnew =>
    have hnone : c.remembered subscription.captureKey (.of subscription.config) = none := by
      rw [remembered_open hcapture, hnew, Option.map_none]
    have hjoined := remembered_joined id c.captureOrder _ (remembered_open hcapture)
    rw [hnone, Option.getD_none] at hjoined
    rw [hjoined, KernelLedger.replay, apply_join_new hnone]
    exact ⟨rfl, hset _ _ rfl⟩
  | @opened subscription socket hl hbound hcapture =>
    have hnone := remembered_closed hcapture
    have hclear := clear_eq hnone
    have hjoined := remembered_joined (c := c) id (c.captureOrder ++ [subscription.captureKey])
      (.new socket) fun membership =>
        (hnone membership).trans (Finmap.lookup_empty membership ▸ rfl)
    rw [hnone, Option.getD_none] at hjoined
    rw [hjoined]
    refine ⟨?_, hset _ _ rfl⟩
    simp only [KernelLedger.replay, KernelLedger.apply, hclear, Option.bind_some, hnone, if_true]

theorem LeaveStep.replay {r : Outcome Unit} (hstep : LeaveStep c id r c' events)
    (hkeyed : c.remembered.Keyed) :
    KernelLedger.replay events c.remembered = some c'.remembered ∧ c'.remembered.Keyed := by
  have hnone : ∀ (subscription : SharedRawSubscription),
      (c.remembered.set subscription.captureKey (.of subscription.config) none).Keyed :=
    fun subscription => hkeyed.set _ fun config hconfig => nomatch hconfig
  have hheldEntry : ∀ {subscription : SharedRawSubscription} {capture : SharedCaptureSocket}
      {membership : KernelMembership},
      c.captures.lookup subscription.captureKey = some capture →
      capture.kernelMemberships.lookup (.of subscription.config) = some membership →
      c.remembered subscription.captureKey (.of subscription.config) =
          some membership.joinedConfig ∧
        KernelMembershipKey.of membership.joinedConfig = .of subscription.config := by
    intro subscription capture membership hcapture hheld
    have hentry := remembered_open hcapture (.of subscription.config)
    rw [hheld, Option.map_some] at hentry
    exact ⟨hentry, hkeyed _ _ _ hentry⟩
  cases hstep with
  | refused => exact ⟨rfl, hkeyed⟩
  | leaveFailed e hl hjoined hcapture hheld hlast =>
    obtain ⟨hentry, hof⟩ := hheldEntry hcapture hheld
    refine ⟨?_, hkeyed⟩
    rw [KernelLedger.replay, apply_leave_held (by rw [hof, hentry])]
    rfl
  | @leftShared _ _ membership hl hjoined hcapture hheld hshared hopen =>
    obtain ⟨hentry, -⟩ := hheldEntry hcapture hheld
    have hleft := remembered_left id membership hcapture
    rw [if_neg hshared, ← hentry, set_self] at hleft
    rw [hleft]
    exact ⟨rfl, hkeyed⟩
  | @leftLast _ _ membership hl hjoined hcapture hheld hlast hopen =>
    obtain ⟨hentry, hof⟩ := hheldEntry hcapture hheld
    have hleft := remembered_left id membership hcapture
    rw [if_pos hlast] at hleft
    rw [hleft, KernelLedger.replay, apply_leave_held (by rw [hof, hentry]), hof]
    exact ⟨rfl, hnone _⟩
  | @closed _ _ membership hl hjoined hcapture hheld hlast hone =>
    obtain ⟨hentry, hof⟩ := hheldEntry hcapture hheld
    have hleft := remembered_left id membership hcapture
    rw [if_pos hlast] at hleft
    rw [remembered_closeCapture, hleft, KernelLedger.replay,
      apply_leave_held (by rw [hof, hentry]), hof]
    exact ⟨rfl, (hnone _).clear _⟩

end Remembered

/-! ## Logical holders -/

def holders (c : SharedRawContext) (key : RawSharedCaptureKey)
    (membership : KernelMembershipKey) : Nat :=
  tally (SharedRawSubscription.membershipOn key) c.subscriptions membership

/-- The kernel calls of one call are the ones its change of holders needs: a join is
issued for a first holder only and a leave for a last one only, and no first holder
joins and no last one leaves without them. -/
structure KernelCallsExact (c c' : SharedRawContext) (events : List Event) : Prop where
  join : ∀ key config succeeded, .kernelJoin key config succeeded ∈ events →
    c.holders key (.of config) = 0 ∧
      c'.holders key (.of config) = if succeeded then 1 else 0
  leave : ∀ key config succeeded, .kernelLeave key config succeeded ∈ events →
    c.holders key (.of config) = 1 ∧
      c'.holders key (.of config) = if succeeded then 0 else 1
  first : ∀ key membership, c.holders key membership = 0 → 0 < c'.holders key membership →
    ∃ config, KernelMembershipKey.of config = membership ∧ .kernelJoin key config true ∈ events
  last : ∀ key membership, 0 < c.holders key membership → c'.holders key membership = 0 →
    ∃ config, KernelMembershipKey.of config = membership ∧ .kernelLeave key config true ∈ events

section Holders

variable {c c' : SharedRawContext} {id : SubscriptionId} {subscription : SharedRawSubscription}
  {capture : SharedCaptureSocket} {events : List Event}

theorem membershipOn_eq (subscription : SharedRawSubscription) (key : RawSharedCaptureKey)
    (membership : KernelMembershipKey) (hjoined : subscription.isJoined = true) :
    subscription.membershipOn key = some membership ↔
      key = subscription.captureKey ∧ membership = .of subscription.config := by
  rw [SharedRawSubscription.membershipOn_eq_some, SharedRawSubscription.joinedCapture_eq_some]
  constructor
  · intro h
    exact ⟨h.1.2.symm, h.2.symm⟩
  · intro h
    exact ⟨⟨hjoined, h.1.symm⟩, h.2.symm⟩

theorem holders_joined (hl : c.subscriptions.lookup id = some subscription)
    (hbound : subscription.isJoined = false) (capture : SharedCaptureSocket)
    (captureOrder : List RawSharedCaptureKey) (key : RawSharedCaptureKey)
    (membership : KernelMembershipKey) :
    (c.joined id subscription capture captureOrder).holders key membership =
      c.holders key membership +
        if key = subscription.captureKey ∧ membership = .of subscription.config then 1 else 0 := by
  have hnone : subscription.membershipOn key = none := by
    refine SharedRawSubscription.membershipOn_of_ne ?_
    rw [SharedRawSubscription.joinedCapture_of_not_isJoined hbound]
    exact (Option.some_ne_none key).symm
  have htally := tally_joined hl hnone membership
  simp only [membershipOn_eq (subscription.withState .joined) key membership rfl]
    at htally
  exact htally

theorem holders_bound (hl : c.subscriptions.lookup id = some subscription)
    (hjoined : subscription.isJoined = true)
    (hsubscriptions : c'.subscriptions = c.subscriptions.insert id (subscription.withState .bound))
    (key : RawSharedCaptureKey) (membership : KernelMembershipKey) :
    c'.holders key membership +
        (if key = subscription.captureKey ∧ membership = .of subscription.config then 1 else 0) =
      c.holders key membership := by
  have hnone : (subscription.withState .bound).membershipOn key = none := by
    refine SharedRawSubscription.membershipOn_of_ne ?_
    rw [SharedRawSubscription.joinedCapture_bound]
    exact (Option.some_ne_none key).symm
  have htally := tally_bound hl hnone membership
  simp only [membershipOn_eq subscription key membership hjoined] at htally
  rw [holders, hsubscriptions]
  exact htally

/-- A call that leaves the holders alone may still have asked for a join or a leave
the kernel refused. -/
theorem KernelCallsExact.of_same (hsame : ∀ key membership,
      c'.holders key membership = c.holders key membership)
    (hjoin : ∀ key config succeeded, .kernelJoin key config succeeded ∈ events →
      succeeded = false ∧ c.holders key (.of config) = 0)
    (hleave : ∀ key config succeeded, .kernelLeave key config succeeded ∈ events →
      succeeded = false ∧ c.holders key (.of config) = 1) : KernelCallsExact c c' events := by
  refine ⟨fun key config succeeded hmem => ?_, fun key config succeeded hmem => ?_,
    fun key membership hzero hpos => ?_, fun key membership hpos hzero => ?_⟩
  · obtain ⟨rfl, hzero⟩ := hjoin key config succeeded hmem
    rw [hsame]
    exact ⟨hzero, hzero⟩
  · obtain ⟨rfl, hone⟩ := hleave key config succeeded hmem
    rw [hsame]
    exact ⟨hone, hone⟩
  · rw [hsame] at hpos
    omega
  · rw [hsame] at hzero
    omega

theorem KernelCallsExact.nil (hsame : ∀ key membership,
    c'.holders key membership = c.holders key membership) : KernelCallsExact c c' [] :=
  .of_same hsame (fun _ _ _ hmem => nomatch hmem) fun _ _ _ hmem => nomatch hmem

/-- A successful first join. -/
theorem KernelCallsExact.joinedFirst {captureOrder : List RawSharedCaptureKey}
    (hl : c.subscriptions.lookup id = some subscription) (hbound : subscription.isJoined = false)
    (hzero : c.holders subscription.captureKey (.of subscription.config) = 0)
    (hjoin : ∀ key config succeeded, .kernelJoin key config succeeded ∈ events ↔
      key = subscription.captureKey ∧ config = subscription.config ∧ succeeded = true)
    (hleave : ∀ key config succeeded, .kernelLeave key config succeeded ∉ events) :
    KernelCallsExact c (c.joined id subscription capture captureOrder) events := by
  have hholders := holders_joined hl hbound capture captureOrder
  refine ⟨fun key config succeeded hmem => ?_, fun key config succeeded hmem => ?_,
    fun key membership hnone hpos => ?_, fun key membership hpos hnone => ?_⟩
  · obtain ⟨rfl, rfl, rfl⟩ := (hjoin key config succeeded).mp hmem
    rw [hholders, hzero]
    simp
  · exact absurd hmem (hleave key config succeeded)
  · rw [hholders, hnone] at hpos
    split at hpos
    · rename_i hboth
      obtain ⟨rfl, rfl⟩ := hboth
      exact ⟨_, rfl, (hjoin _ _ _).mpr ⟨rfl, rfl, rfl⟩⟩
    · omega
  · rw [hholders] at hnone
    omega

/-- A join of a membership that has holders. -/
theorem KernelCallsExact.joinedHeld {captureOrder : List RawSharedCaptureKey}
    (hl : c.subscriptions.lookup id = some subscription) (hbound : subscription.isJoined = false)
    (hpos : 0 < c.holders subscription.captureKey (.of subscription.config)) :
    KernelCallsExact c (c.joined id subscription capture captureOrder) [] := by
  have hholders := holders_joined hl hbound capture captureOrder
  refine ⟨fun _ _ _ hmem => (nomatch hmem), fun _ _ _ hmem => (nomatch hmem),
    fun key membership hnone hafter => ?_, fun key membership hbefore hnone => ?_⟩
  · rw [hholders, hnone] at hafter
    split at hafter
    · rename_i hboth
      obtain ⟨rfl, rfl⟩ := hboth
      omega
    · omega
  · rw [hholders] at hnone
    omega

/-- A successful last leave. -/
theorem KernelCallsExact.leftLast (hl : c.subscriptions.lookup id = some subscription)
    (hjoined : subscription.isJoined = true)
    (hsubscriptions : c'.subscriptions = c.subscriptions.insert id (subscription.withState .bound))
    (hone : c.holders subscription.captureKey (.of subscription.config) = 1)
    {used : RawSubscriptionConfig} (hused : KernelMembershipKey.of used = .of subscription.config)
    (hjoin : ∀ key config succeeded, .kernelJoin key config succeeded ∉ events)
    (hleave : ∀ key config succeeded, .kernelLeave key config succeeded ∈ events ↔
      key = subscription.captureKey ∧ config = used ∧ succeeded = true) :
    KernelCallsExact c c' events := by
  have hholders := holders_bound hl hjoined hsubscriptions
  refine ⟨fun key config succeeded hmem => ?_, fun key config succeeded hmem => ?_,
    fun key membership hnone hpos => ?_, fun key membership hpos hnone => ?_⟩
  · exact absurd hmem (hjoin key config succeeded)
  · obtain ⟨rfl, rfl, rfl⟩ := (hleave key config succeeded).mp hmem
    have hkey := hholders subscription.captureKey (.of subscription.config)
    rw [if_pos ⟨rfl, rfl⟩] at hkey
    rw [hused, if_pos rfl]
    omega
  · have hkey := hholders key membership
    omega
  · have hkey := hholders key membership
    split at hkey
    · rename_i hboth
      obtain ⟨rfl, rfl⟩ := hboth
      exact ⟨used, hused, (hleave _ _ _).mpr ⟨rfl, rfl, rfl⟩⟩
    · omega

/-- A leave of a membership that keeps holders. -/
theorem KernelCallsExact.leftShared (hl : c.subscriptions.lookup id = some subscription)
    (hjoined : subscription.isJoined = true)
    (hsubscriptions : c'.subscriptions = c.subscriptions.insert id (subscription.withState .bound))
    (htwo : c.holders subscription.captureKey (.of subscription.config) ≠ 1) :
    KernelCallsExact c c' [] := by
  have hholders := holders_bound hl hjoined hsubscriptions
  refine ⟨fun _ _ _ hmem => (nomatch hmem), fun _ _ _ hmem => (nomatch hmem),
    fun key membership hnone hpos => ?_, fun key membership hpos hnone => ?_⟩
  · have hkey := hholders key membership
    omega
  · have hkey := hholders key membership
    split at hkey
    · rename_i hboth
      obtain ⟨rfl, rfl⟩ := hboth
      omega
    · omega

theorem KernelCallsExact.congr (h : KernelCallsExact c c' events) {c'' : SharedRawContext}
    (hsame : ∀ key membership, c''.holders key membership = c'.holders key membership) :
    KernelCallsExact c c'' events := by
  refine ⟨?_, ?_, ?_, ?_⟩
  · simp only [hsame]
    exact h.join
  · simp only [hsame]
    exact h.leave
  · simp only [hsame]
    exact h.first
  · simp only [hsame]
    exact h.last

end Holders

end SharedRawContext

namespace System

open KernelLedger

variable {W : Type} {os : OperatingSystem W}

theorem CallStep.replay {c c' : SharedRawContext} {operation : Operation} {response : Response}
    {events : List Event} (h : CallStep c operation response c' events)
    (hkeyed : c.remembered.Keyed) :
    KernelLedger.replay events c.remembered = some c'.remembered ∧ c'.remembered.Keyed := by
  cases h with
  | added h =>
    cases h with
    | refused => exact ⟨rfl, hkeyed⟩
    | added => exact ⟨rfl, hkeyed⟩
  | joined h => exact h.replay hkeyed
  | left h => exact h.replay hkeyed
  | removed h =>
    cases h with
    | missing => exact ⟨rfl, hkeyed⟩
    | leaveFailed hleave => exact hleave.replay hkeyed
    | removedBound => exact ⟨rfl, hkeyed⟩
    | leftRemoved hl hjoined hleave => exact hleave.replay hkeyed
  | receivedAny hr h =>
    have hsame : c'.remembered = c.remembered := by
      funext key membership
      rw [remembered, remembered, h.captures]
    rw [hsame]
    exact ⟨replay_reads _ _, hkeyed⟩
  | receivedBatch hr h =>
    have hsame : c'.remembered = c.remembered := by
      funext key membership
      rw [remembered, remembered, h.captures]
    rw [hsame]
    exact ⟨replay_reads _ _, hkeyed⟩

end System

end McrxCore
