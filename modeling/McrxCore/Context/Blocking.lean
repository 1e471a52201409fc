import McrxCore.Context.Fairness
import McrxCore.Roster.Blocking

/-!
# Subscriptions that fail

What a subscription whose receive fails does to the turns of the others, in both contexts.
-/

namespace McrxCore

/-! ## Calls that fail -/

theorem Roster.Sweeps.error_of_outcome {κ : Type} {members : List (Member κ)}
    {cursor cursor' : Nat} {sweeps : List Sweep} (h : Sweeps members cursor sweeps cursor')
    {sweep : Sweep} (hsweep : sweep ∈ sweeps) {e : McrxError} (houtcome : sweep.outcome = .err e) :
    ∃ index, (index, .error e) ∈ sweep.polls := by
  induction h with
  | nil => exact absurd hsweep List.not_mem_nil
  | @cons τ outcome polls cursor cursor' last sweeps hswept _ ih =>
    rcases List.mem_cons.mp hsweep with rfl | hsweep
    · generalize (view members).rotate cursor = visited at hswept
      cases hswept with
      | nothing => cases houtcome
      | served before index item rest => cases houtcome
      | failed before index e' rest =>
        cases houtcome
        exact ⟨index, List.mem_map.mpr ⟨(index, .error e),
          List.mem_append_right _ List.mem_cons_self, rfl⟩⟩
    · exact ih hsweep

namespace Context

variable {W : Type} {os : UdpSystem W}

theorem map_eq_err {α β : Type} {f : α → β} {outcome : Outcome α} {e : McrxError}
    (h : outcome.map f = .err e) : outcome = .err e := by
  cases outcome with
  | ok value => cases h
  | err e' =>
    cases h
    rfl
  | panic => cases h

/-- A receive that fails made a scan that failed. -/
theorem step_fails (os : UdpSystem W) {operation : Operation}
    (hreceive : operation.request = .receive) {s : System W} (hrange : s.context.roster.InRange)
    {e : McrxError} (h : (step os operation s).1.outcome = .err e) :
    ∃ sweep ∈ (step os operation s).2.sweeps, sweep.outcome = .err e := by
  have hexplained := step_explained os hrange operation
  cases operation with
  | addSubscription | addSubscriptionWithSocket | removeSubscription | takeSubscription
  | joinSubscription | leaveSubscription => cases hreceive
  | tryRecvAny | tryRecvAnyWithMetadata =>
    obtain ⟨outcome, sweep, houtcome, hsweeps, hanswers⟩ := hexplained
    obtain rfl := map_eq_err (houtcome.symm.trans h)
    exact ⟨sweep, hsweeps ▸ List.mem_cons_self, hanswers.err⟩
  | tryRecvBatchInto | tryRecvBatchWithMetadataInto | tryRecvAllInto
  | tryRecvAllWithMetadataInto =>
    obtain ⟨outcome, houtcome, hbatch⟩ := hexplained
    obtain rfl := map_eq_err (houtcome.symm.trans h)
    exact hbatch.err

/-- Every receive call that fails does so because one subscription did. -/
theorem exists_failsOn (os : UdpSystem W) (w : W) (history : List Operation)
    {operation : Operation} (hreceive : operation.request = .receive) {e : McrxError}
    (h : (step os operation (Journal.final (step os) history (start w))).1.outcome = .err e) :
    ∃ index, (Call.roster (Journal.call (step os) operation
      (Journal.final (step os) history (start w)))).FailsOn index := by
  have hstep := step_roster os operation (inRange_final os history w)
  rw [hreceive] at hstep
  obtain ⟨sweep, hsweep, houtcome⟩ := step_fails os hreceive (inRange_final os history w) h
  obtain ⟨index, hpoll⟩ := hstep.receives.cursor.error_of_outcome hsweep houtcome
  exact ⟨index, hreceive, e, congrArg (Outcome.map Answer.reply) h, sweep, hsweep, hpoll⟩

end Context

namespace RawContext

variable {S W : Type}

/-- Every receive call that fails does so because one subscription did. -/
theorem exists_failsOn (backend : RawBackend S W) (w : W) (history : List Operation)
    {e : McrxError} (h : (step backend .tryRecvAny
      (Journal.final (step backend) history (start w))).1 = .err e) :
    ∃ index, (Call.roster (Journal.call (step backend) .tryRecvAny
      (Journal.final (step backend) history (start w)))).FailsOn index := by
  have hstep := step_roster backend .tryRecvAny (inRange_final backend history w)
  obtain ⟨outcome, sweep, houtcome, hsweeps, hanswers⟩ :=
    step_explained backend .tryRecvAny (inRange_final backend history w)
  obtain rfl := Context.map_eq_err (houtcome.symm.trans h)
  have hsweep : sweep ∈ (step backend .tryRecvAny
      (Journal.final (step backend) history (start w))).2.sweeps :=
    hsweeps ▸ List.mem_cons_self
  obtain ⟨index, hpoll⟩ := hstep.receives.cursor.error_of_outcome hsweep hanswers.err
  exact ⟨index, rfl, e, congrArg (Outcome.map Answer.reply) h, sweep, hsweep, hpoll⟩

end RawContext

/-! ## The calls after a failure -/

/-- After every receive call of either context that failed on a subscription, receive calls
that come back to it came to every other joined subscription first, exactly if nobody
joined stands behind it in the order of the scan. -/
theorem failed_receive_yields_iff {W S V : Type} (os : UdpSystem W) (w : W)
    (backend : RawBackend S V) (v : V) (index : Nat) :
    (∀ (history window : List Context.Operation) (operation : Context.Operation),
      let call := Journal.call (Context.step os) operation
        (Journal.final (Context.step os) history (Context.start w))
      let sweeps := ((Journal.calls (Context.step os) window call.after).map
        Context.Call.roster).flatMap RosterCall.sweeps
      let members := call.after.context.roster.members
      (Context.Call.roster call).FailsOn index →
      (∀ operation ∈ window, operation.request = .receive) → index ∈ polled sweeps →
      (Yields index (Roster.joined members) sweeps ↔
        (Roster.joinedQueue members call.after.context.nextRecvIndex).getLast? = some index)) ∧
    (∀ (history window : List RawContext.Operation) (operation : RawContext.Operation),
      let call := Journal.call (RawContext.step backend) operation
        (Journal.final (RawContext.step backend) history (RawContext.start v))
      let sweeps := ((Journal.calls (RawContext.step backend) window call.after).map
        RawContext.Call.roster).flatMap RosterCall.sweeps
      let members := call.after.context.roster.members
      (RawContext.Call.roster call).FailsOn index →
      (∀ operation ∈ window, operation.request = .receive) → index ∈ polled sweeps →
      (Yields index (Roster.joined members) sweeps ↔
        (Roster.joinedQueue members call.after.context.nextRecvIndex).getLast? = some index)) := by
  refine ⟨?_, ?_⟩
  · intro history window operation call sweeps members _ hwindow hagain
    have hstep := (Context.step_roster os operation (Context.inRange_final os history w)).inRange
      (Context.inRange_final os history w)
    refine (@Context.runs_calls W os window _ hstep).1.yields_iff (fun c hc => ?_) hagain
    obtain ⟨later, hlater, rfl⟩ := List.mem_map.mp hc
    exact hwindow later.action (Journal.action_mem hlater)
  · intro history window operation call sweeps members _ hwindow hagain
    have hstep := (RawContext.step_roster backend operation
      (RawContext.inRange_final backend history v)).inRange
        (RawContext.inRange_final backend history v)
    refine (@RawContext.runs_calls S V backend window _ hstep).1.yields_iff (fun c hc => ?_) hagain
    obtain ⟨later, hlater, rfl⟩ := List.mem_map.mp hc
    exact hwindow later.action (Journal.action_mem hlater)

/-! ## Two subscriptions -/

/-- A system whose first socket gives one result to every read, and whose others give
another one. -/
def twoSockets (first second : RecvmsgResult) : UdpSystem Nat :=
  { target := .linux
    createSocket := fun _ opened => (.ok (3 + opened), opened + 1)
    setOption := fun _ _ w => (.ok (), w)
    bind := fun _ _ w => (.ok (), w)
    localAddr := fun _ w => (.ok (some { ip := unspecifiedAddr .ipv4, port := 5000 }), w)
    joinMulticastGroup := fun _ _ w => (.ok (), w)
    leaveMulticastGroup := fun _ _ w => (.ok (), w)
    recvmsg := fun socket w => (if socket = 3 then first else second, w) }

def readyDatagram : RecvmsgResult :=
  .received
    { payload := []
      source := some { ip := .v4 (.new 10 0 0 7), port := 4000 }
      control := [.ipPktinfo (.new 239 1 2 3) 2] }

def twoRawSockets (first second : Except McrxError (Option RawPacket)) : RawBackend Unit Unit :=
  { RawBackend.granting none with
    recvRawPacket := fun _ id _ w => (if id = ⟨1⟩ then first else second, w) }

def readyRawPacket : RawPacket :=
  { subscriptionId := ⟨2⟩
    datagram := []
    sourceIp := none
    group := none
    ipProtocol := none
    metadata :=
      { socketLocalAddr := none
        configuredInterface := none
        configuredInterfaceIndex := none
        destinationLocalIp := none
        ingressInterfaceIndex := none } }

/-- The subscription that failed has nobody joined behind it: the first one had nothing. -/
theorem failed_receive_yields_last :
    (let os := twoSockets .wouldBlock (.failed ⟨12⟩)
     let call := Journal.call (Context.step os) (.tryRecvBatchInto 8)
        (Journal.final (Context.step os) fairHistory (Context.start 0))
     Yields 1 [0, 1] (((Journal.calls (Context.step os) [.tryRecvAny, .tryRecvAllInto]
      call.after).map Context.Call.roster).flatMap RosterCall.sweeps)) ∧
    (let backend := twoRawSockets (.ok none) (.error (.receiveFailed ⟨12⟩))
     let call := Journal.call (RawContext.step backend) .tryRecvAny
        (Journal.final (RawContext.step backend) fairRawHistory (RawContext.start ()))
     Yields 1 [0, 1] (((Journal.calls (RawContext.step backend) [.tryRecvAny, .tryRecvAny]
      call.after).map RawContext.Call.roster).flatMap RosterCall.sweeps)) :=
  ⟨((failed_receive_yields_iff (twoSockets .wouldBlock (.failed ⟨12⟩)) 0
      (twoRawSockets (.ok none) (.error (.receiveFailed ⟨12⟩))) () 1).1 fairHistory
        [.tryRecvAny, .tryRecvAllInto] (.tryRecvBatchInto 8)
        ⟨rfl, .receiveFailed ⟨12⟩, by decide, by decide⟩ (by decide) (by decide)).mpr (by decide),
    ((failed_receive_yields_iff (twoSockets .wouldBlock (.failed ⟨12⟩)) 0
      (twoRawSockets (.ok none) (.error (.receiveFailed ⟨12⟩))) () 1).2 fairRawHistory
        [.tryRecvAny, .tryRecvAny] .tryRecvAny
        ⟨rfl, .receiveFailed ⟨12⟩, by decide, by decide⟩ (by decide) (by decide)).mpr (by decide)⟩

/-- The first subscription fails at every read, and the second one, which always has a
packet, is never polled: neither after a single receive nor after a batch, in either
context. -/
theorem failing_receive_blocks_ready :
    (let os := twoSockets (.failed ⟨12⟩) readyDatagram
     let call := Journal.call (Context.step os) .tryRecvAny
        (Journal.final (Context.step os) fairHistory (Context.start 0))
     let sweeps := ((Journal.calls (Context.step os)
        [.tryRecvAny, .tryRecvAllInto, .tryRecvAnyWithMetadata] call.after).map
        Context.Call.roster).flatMap RosterCall.sweeps
     (Context.Call.roster call).FailsOn 0 ∧
      Roster.joined call.after.context.roster.members = [0, 1] ∧ polled sweeps = [0, 0, 0] ∧
      ¬ Yields 0 [0, 1] sweeps ∧ ∀ sweep ∈ sweeps, ¬ sweep.Returns 1) ∧
    (let backend := twoRawSockets (.error (.receiveFailed ⟨12⟩)) (.ok (some readyRawPacket))
     let call := Journal.call (RawContext.step backend) .tryRecvAny
        (Journal.final (RawContext.step backend) fairRawHistory (RawContext.start ()))
     let sweeps := ((Journal.calls (RawContext.step backend) [.tryRecvAny, .tryRecvAny]
        call.after).map RawContext.Call.roster).flatMap RosterCall.sweeps
     (RawContext.Call.roster call).FailsOn 0 ∧
      Roster.joined call.after.context.roster.members = [0, 1] ∧ polled sweeps = [0, 0] ∧
      ¬ Yields 0 [0, 1] sweeps ∧ ∀ sweep ∈ sweeps, ¬ sweep.Returns 1) := by
  refine ⟨⟨⟨rfl, .receiveFailed ⟨12⟩, by decide, by decide⟩, by decide, by decide, fun h => ?_,
    by decide⟩, ⟨⟨rfl, .receiveFailed ⟨12⟩, by decide, by decide⟩, by decide, by decide,
    fun h => ?_, by decide⟩⟩
  · exact absurd (h.polled [] [0, 0] (by decide) List.not_mem_nil 1 (by decide) (by decide))
      List.not_mem_nil
  · exact absurd (h.polled [] [0] (by decide) List.not_mem_nil 1 (by decide) (by decide))
      List.not_mem_nil

end McrxCore
