import McrxCore.Context.Answers

/-!
# Fair receiving

The receive scans of both contexts, in any mix of single and batch calls, take the joined
subscriptions in turn, and the calls answer with them.
-/

namespace McrxCore

/-- The scans return the member at `index` before they went round the others, and nobody
else twice between two of its packets. -/
structure FairTo (index count : Nat) (sweeps : List Sweep) : Prop where
  turn : count ≤ sweeps.length → ∃ sweep ∈ sweeps.take count, sweep.Returns index
  once : ∀ early between late, sweeps = early ++ (between ++ late) →
    (∀ sweep ∈ between, ¬ sweep.Returns index) →
    ∀ other, between.countP (fun sweep => sweep.Returns other) ≤ 1

theorem Context.inRange_final {W : Type} (os : UdpSystem W) (operations : List Operation) (w : W) :
    (Journal.final (step os) operations (start w)).context.roster.InRange :=
  (@runs_calls W os operations (start w) Roster.inRange_empty).2

theorem RawContext.inRange_final {S W : Type} (backend : RawBackend S W)
    (operations : List Operation) (w : W) :
    (Journal.final (step backend) operations (start w)).context.roster.InRange :=
  (@runs_calls S W backend operations (start w) Roster.inRange_empty).2

theorem Roster.Runs.fairTo {κ : Type} {valid : κ → Prop} {r r' : Roster κ}
    {calls : List (RosterCall κ)} (h : Runs valid r calls r') {index : Nat} {member : Member κ}
    (hget : r.members[index]? = some member) (hjoined : member.isJoined = true)
    (hwaits : Waits member.id index calls) :
    FairTo index r.members.length (calls.flatMap RosterCall.sweeps) := by
  obtain ⟨hturn, honce⟩ := h.fair hget (beq_iff_eq.mp hjoined) hwaits
  exact ⟨hturn, honce⟩

/-- In every window after every run, of either context, the scans are fair to each joined
subscription that always has a packet.  In every run a scan that returns nothing polled
each joined subscription once and found nothing, and the calls answer with their scans: a
single receive makes one, a batch one for each packet and one more below its limit. -/
theorem receive_scans_are_fair :
    (∀ {W : Type} (os : UdpSystem W) (w : W) (history window : List Context.Operation)
      (index : Nat) (subscription : Subscription),
      let s := Journal.final (Context.step os) history (Context.start w)
      let calls := (Journal.calls (Context.step os) window s).map Context.Call.roster
      s.context.subscriptions[index]? = some subscription → subscription.isJoined = true →
      Waits subscription.id index calls →
      FairTo index s.context.subscriptions.length (calls.flatMap RosterCall.sweeps)) ∧
    (∀ {W : Type} (os : UdpSystem W) (w : W) (history : List Context.Operation),
      ∀ call ∈ (Journal.calls (Context.step os) history (Context.start w)).map Context.Call.roster,
      ∀ sweep ∈ call.sweeps, Roster.Exhausts call.before.members sweep) ∧
    (∀ {S W : Type} (backend : RawBackend S W) (w : W) (history window : List RawContext.Operation)
      (index : Nat) (subscription : RawSubscription S),
      let s := Journal.final (RawContext.step backend) history (RawContext.start w)
      let calls := (Journal.calls (RawContext.step backend) window s).map RawContext.Call.roster
      s.context.subscriptions[index]? = some subscription → subscription.isJoined = true →
      Waits subscription.id index calls →
      FairTo index s.context.subscriptions.length (calls.flatMap RosterCall.sweeps)) ∧
    (∀ {S W : Type} (backend : RawBackend S W) (w : W) (history : List RawContext.Operation),
      ∀ call ∈ (Journal.calls (RawContext.step backend) history (RawContext.start w)).map
        RawContext.Call.roster,
      ∀ sweep ∈ call.sweeps, Roster.Exhausts call.before.members sweep) ∧
    (∀ {W : Type} (os : UdpSystem W) (w : W) (history : List Context.Operation),
      ∀ call ∈ Journal.calls (Context.step os) history (Context.start w),
      Context.Call.Explained os call) ∧
    (∀ {S W : Type} (backend : RawBackend S W) (w : W) (history : List RawContext.Operation),
      ∀ call ∈ Journal.calls (RawContext.step backend) history (RawContext.start w),
      RawContext.Call.Explained backend call) := by
  refine ⟨?_, ?_, ?_, ?_, ?_, ?_⟩
  · intro W os w history window index subscription s calls hget hjoined hwaits
    have hruns := (@Context.runs_calls W os window _ (Context.inRange_final os history w)).1
    have hmember : s.context.roster.members[index]? = some subscription.member := by
      show (s.context.subscriptions.map Subscription.member)[index]? = _
      rw [List.getElem?_map, hget, Option.map_some]
    have hfair := hruns.fairTo hmember hjoined hwaits
    rwa [show s.context.roster.members.length = s.context.subscriptions.length from
      List.length_map _] at hfair
  · intro W os w history
    exact (@Context.runs_calls W os history (Context.start w) Roster.inRange_empty).1.exhausts
  · intro S W backend w history window index subscription s calls hget hjoined hwaits
    have hruns := (@RawContext.runs_calls S W backend window _
      (RawContext.inRange_final backend history w)).1
    have hmember : s.context.roster.members[index]? = some subscription.member := by
      show (s.context.subscriptions.map RawSubscription.member)[index]? = _
      rw [List.getElem?_map, hget, Option.map_some]
    have hfair := hruns.fairTo hmember hjoined hwaits
    rwa [show s.context.roster.members.length = s.context.subscriptions.length from
      List.length_map _] at hfair
  · intro S W backend w history
    exact (@RawContext.runs_calls S W backend history (RawContext.start w)
      Roster.inRange_empty).1.exhausts
  · intro W os w history
    exact @Context.calls_explained W os history (Context.start w) Roster.inRange_empty
  · intro S W backend w history
    exact @RawContext.calls_explained S W backend history (RawContext.start w)
      Roster.inRange_empty

/-! ## A window of two subscriptions -/

/-- The group `239.1.2.3` at port 5000, on one interface or any. -/
def fairConfig (interface : Option Ipv4Addr) : SubscriptionConfig :=
  { SubscriptionConfig.asm (.v4 (.new 239 1 2 3)) 5000 with interface := interface.map .v4 }

/-- A system that has a datagram for both subscriptions at every read. -/
def fairSystem : UdpSystem Unit :=
  .granting { ip := unspecifiedAddr .ipv4, port := 5000 }
    (.received
      { payload := []
        source := some { ip := .v4 (.new 10 0 0 7), port := 4000 }
        control := [.ipPktinfo (.new 239 1 2 3) 2] })

def fairHistory : List Context.Operation :=
  [.addSubscription (fairConfig none), .addSubscription (fairConfig (some (.new 10 0 0 1))),
    .joinSubscription ⟨1⟩, .joinSubscription ⟨2⟩]

/-- The other subscription leaves between the scans. -/
def fairWindow : List Context.Operation :=
  [.tryRecvAny, .tryRecvBatchInto 2, .leaveSubscription ⟨2⟩, .tryRecvAnyWithMetadata]

def fairBackend : RawBackend Unit Unit :=
  .granting (some
    { subscriptionId := ⟨1⟩
      datagram := []
      sourceIp := none
      group := none
      ipProtocol := none
      metadata :=
        { socketLocalAddr := none
          configuredInterface := none
          configuredInterfaceIndex := none
          destinationLocalIp := none
          ingressInterfaceIndex := none } })

def fairRawHistory : List RawContext.Operation :=
  [.addSubscription (.asm (.v4 (.new 239 1 2 3))), .addSubscription (.asm (.v4 (.new 239 1 2 4))),
    .joinSubscription ⟨1⟩, .joinSubscription ⟨2⟩]

def fairRawWindow : List RawContext.Operation := [.tryRecvAny, .leaveSubscription ⟨2⟩, .tryRecvAny]

theorem receive_scans_are_fair_two :
    FairTo 0 2
      (((Journal.calls (Context.step fairSystem) fairWindow
        (Journal.final (Context.step fairSystem) fairHistory (Context.start ()))).map
          Context.Call.roster).flatMap RosterCall.sweeps) ∧
    FairTo 0 2
      (((Journal.calls (RawContext.step fairBackend) fairRawWindow
        (Journal.final (RawContext.step fairBackend) fairRawHistory (RawContext.start ()))).map
          RawContext.Call.roster).flatMap RosterCall.sweeps) := by
  refine ⟨?_, ?_⟩
  · obtain ⟨subscription, hget⟩ : ∃ subscription,
        (Journal.final (Context.step fairSystem) fairHistory
          (Context.start ())).context.subscriptions[0]? = some subscription := ⟨_, rfl⟩
    have hid : subscription.id = ⟨1⟩ ∧ subscription.isJoined = true := by
      cases hget
      exact ⟨rfl, rfl⟩
    have hfair := receive_scans_are_fair.1 fairSystem () fairHistory fairWindow 0 subscription hget
      hid.2 (by rw [hid.1]; exact ⟨by decide, by decide, by decide⟩)
    rwa [show (Journal.final (Context.step fairSystem) fairHistory
      (Context.start ())).context.subscriptions.length = 2 by decide] at hfair
  · obtain ⟨subscription, hget⟩ : ∃ subscription,
        (Journal.final (RawContext.step fairBackend) fairRawHistory
          (RawContext.start ())).context.subscriptions[0]? = some subscription := ⟨_, rfl⟩
    have hid : subscription.id = ⟨1⟩ ∧ subscription.isJoined = true := by
      cases hget
      exact ⟨rfl, rfl⟩
    exact receive_scans_are_fair.2.2.1 fairBackend () fairRawHistory fairRawWindow 0 subscription
      hget hid.2 (by rw [hid.1]; exact ⟨by decide, by decide, by decide⟩)

end McrxCore
