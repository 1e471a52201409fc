import McrxCore.Context.Invariant
import McrxCore.Ffi.Calls

/-!
# The C interface over a context

Whatever a host does with a context of the interface, the context behind it is one that calls
of its own reach, no panic crosses the boundary, and the last error says of the last call
whether it failed.
-/

namespace McrxCore.Ffi

variable {W : Type} {os : UdpSystem W} {ioMessage : IoError → String}
  {ifNameToIndex : RecvArgs.IfNameToIndex} {w : W} {host : Host W}

/-- The context of a host is reached by its own calls, and its lock is not poisoned. -/
structure Sound (os : UdpSystem W) (w : W) (host : Host W) : Prop where
  reached : Reached os w host.context
  intact : host.poisoned = false

theorem sound_new (os : UdpSystem W) (w : W) (receivedOut : Nat) :
    Sound os w (mcrxContextNew w receivedOut) where
  reached := ⟨[], [], rfl⟩
  intact := rfl

theorem Sound.lockContext (h : Sound os w host) : host.lockContext = .ok host.context := by
  rw [Host.lockContext, h.intact]
  rfl

/-! ## One call -/

/-- What a call leaves: a status that is no panic, and the last error of the context, which is
there if the call failed. -/
structure Answered (host : Host W) (status : Nat) : Prop where
  noPanic : status ≠ MCRX_STATUS_PANIC
  lastError : host.lastError = none ↔ status = MCRX_STATUS_OK

theorem answered_clearError (host : Host W) : Answered host.clearError MCRX_STATUS_OK where
  noPanic := by decide
  lastError := ⟨fun _ => rfl, fun _ => rfl⟩

theorem answered_setError (host : Host W) (message : String) :
    Answered (host.setError message).2 (host.setError message).1 where
  noPanic := by
    show MCRX_STATUS_ERROR ≠ MCRX_STATUS_PANIC
    decide
  lastError := by
    refine iff_of_false ?_ ?_
    · show some (cstringLossy message) ≠ none
      exact Option.some_ne_none _
    · show MCRX_STATUS_ERROR ≠ MCRX_STATUS_OK
      decide

theorem answered_setInvalidArgument (host : Host W) (message : String) :
    Answered (host.setInvalidArgument message).2 (host.setInvalidArgument message).1 where
  noPanic := by
    show MCRX_STATUS_INVALID_ARGUMENT ≠ MCRX_STATUS_PANIC
    decide
  lastError := by
    refine iff_of_false ?_ ?_
    · show some (cstringLossy message) ≠ none
      exact Option.some_ne_none _
    · show MCRX_STATUS_INVALID_ARGUMENT ≠ MCRX_STATUS_OK
      decide

variable (ioMessage) in
/-- The statuses of an outcome that is no panic. -/
theorem statusFromOutcome_cases {α : Type} {outcome : Outcome α} (hpanic : outcome ≠ .panic)
    (host : Host W) :
    Answered (statusFromOutcome ioMessage outcome host).2
        (statusFromOutcome ioMessage outcome host).1 ∧
      (statusFromOutcome ioMessage outcome host).2.context = host.context ∧
      (statusFromOutcome ioMessage outcome host).2.poisoned = host.poisoned ∧
      ((statusFromOutcome ioMessage outcome host).1 = MCRX_STATUS_OK ↔
        ∃ value, outcome = .ok value) := by
  cases outcome with
  | ok value => exact ⟨answered_clearError host, rfl, rfl, iff_of_true rfl ⟨value, rfl⟩⟩
  | err e =>
    refine ⟨answered_setError host _, rfl, rfl, iff_of_false ?_ ?_⟩
    · show MCRX_STATUS_ERROR ≠ MCRX_STATUS_OK
      decide
    · rintro ⟨value, hvalue⟩
      cases hvalue
  | panic => exact absurd rfl hpanic

variable (ioMessage) in
theorem removalStatus_cases {outcome : Outcome Bool} (hpanic : outcome ≠ .panic) (host : Host W) :
    Answered (removalStatus ioMessage outcome host).2 (removalStatus ioMessage outcome host).1 ∧
      (removalStatus ioMessage outcome host).2.context = host.context ∧
      (removalStatus ioMessage outcome host).2.poisoned = host.poisoned ∧
      ((removalStatus ioMessage outcome host).1 = MCRX_STATUS_OK ↔ outcome = .ok true) := by
  cases outcome with
  | ok existed =>
    cases existed with
    | true => exact ⟨answered_clearError host, rfl, rfl, iff_of_true rfl rfl⟩
    | false =>
      refine ⟨answered_setError host _, rfl, rfl, iff_of_false ?_ ?_⟩
      · show MCRX_STATUS_ERROR ≠ MCRX_STATUS_OK
        decide
      · intro h
        cases h
  | err e =>
    refine ⟨answered_setError host _, rfl, rfl, iff_of_false ?_ ?_⟩
    · show MCRX_STATUS_ERROR ≠ MCRX_STATUS_OK
      decide
    · intro h
      cases h
  | panic => exact absurd rfl hpanic

/-! ## Steps of the roster -/

section Roster

variable {r r' : Roster SubscriptionConfig} {sweeps : List Sweep}

theorem reply_ne_panic {request : RosterRequest SubscriptionConfig} {reply : Outcome RosterReply}
    (h : Roster.Step Context.Valid r request reply sweeps r') : reply ≠ .panic := by
  cases h with
  | received _ hreply =>
    rcases hreply with rfl | ⟨e, rfl⟩
    · intro h
      cases h
    · intro h
      cases h
  | _ =>
    intro h
    cases h

theorem ne_panic_of_map {α β : Type} {outcome : Outcome α} {f : α → β}
    (h : outcome.map f ≠ .panic) : outcome ≠ .panic := by
  rintro rfl
  exact h rfl

def changesMembers : RosterRequest SubscriptionConfig → Bool
  | .receive => false
  | _ => true

/-- Only a call that succeeds changes the members, the next identifier or the cursor. -/
theorem roster_eq_of_err {request : RosterRequest SubscriptionConfig} {e : McrxError}
    (hrequest : changesMembers request = true)
    (h : Roster.Step Context.Valid r request (.err e) sweeps r') : r' = r := by
  cases h with
  | addFailed => rfl
  | joinFailed => rfl
  | leaveFailed => rfl
  | received => cases hrequest

theorem roster_eq_of_absent {id : SubscriptionId}
    (h : Roster.Step Context.Valid r (.remove id) (.ok (.removed false)) sweeps r') : r' = r := by
  cases h with
  | absent => rfl

theorem members_of_added {config : SubscriptionConfig} {id : SubscriptionId}
    (h : Roster.Step Context.Valid r (.add config) (.ok (.added id)) sweeps r') :
    config.validate = .ok () ∧ r'.members = r.members ++ [⟨id, config, .bound⟩] := by
  cases h with
  | added hvalid => exact ⟨hvalid, rfl⟩

end Roster

/-! ## Calls besides polling -/

/-- What a call of the interface does: it keeps the host sound, the last error says whether it
failed, and one that failed leaves the subscriptions and the cursor as they were. -/
structure Performs (os : UdpSystem W) (w : W) (host : Host W) (status : Nat) (host' : Host W) :
    Prop where
  sound : Sound os w host'
  answered : Answered host' status
  unchanged : status ≠ MCRX_STATUS_OK →
    host'.context.context.roster = host.context.context.roster

theorem lockedCall_eq {α : Type} (h : Sound os w host)
    (run : Context.System W → Outcome α × Context.System W)
    (finish : Outcome α → Host W → Nat × Host W) :
    lockedCall run finish host =
      finish (run host.context).1 { host with context := (run host.context).2 } := by
  rw [lockedCall, h.lockContext]

/-- The end of a call that changed the context by a step of its roster. -/
theorem performs_status {α : Type} {outcome : Outcome α} {s : Context.System W}
    (h : Sound os w host) (hreached : Reached os w s)
    {request : RosterRequest SubscriptionConfig} {reply : α → RosterReply}
    (hrequest : changesMembers request = true)
    (hstep : Context.Refines host.context request (outcome.map reply) s) :
    Performs os w host (statusFromOutcome ioMessage outcome { host with context := s }).1
      (statusFromOutcome ioMessage outcome { host with context := s }).2 := by
  obtain ⟨sweeps, -, hroster⟩ := hstep
  have hpanic : outcome ≠ .panic := ne_panic_of_map (reply_ne_panic hroster)
  obtain ⟨hanswered, hcontext, hpoisoned, hok⟩ :=
    statusFromOutcome_cases ioMessage hpanic { host with context := s }
  refine ⟨⟨?_, hpoisoned.trans h.intact⟩, hanswered, fun hfailed => ?_⟩
  · rw [hcontext]
    exact hreached
  · rw [hcontext]
    cases outcome with
    | ok value => exact absurd (hok.mpr ⟨value, rfl⟩) hfailed
    | err e => exact roster_eq_of_err hrequest hroster
    | panic => exact absurd rfl hpanic

theorem performs_join (h : Sound os w host) (id : Nat) :
    Performs os w host (mcrxContextJoinSubscription os ioMessage id host).1
      (mcrxContextJoinSubscription os ioMessage id host).2 := by
  have hreached := h.reached.step (.joinSubscription ⟨id⟩) (joinSubscription_sweeps ⟨id⟩ _)
  have hstep := @Context.joinSubscription_refines W os ⟨id⟩ host.context _ _ rfl
  rw [mcrxContextJoinSubscription, lockedCall_eq h]
  exact performs_status h hreached rfl hstep

theorem performs_leave (h : Sound os w host) (id : Nat) :
    Performs os w host (mcrxContextLeaveSubscription os ioMessage id host).1
      (mcrxContextLeaveSubscription os ioMessage id host).2 := by
  have hreached := h.reached.step (.leaveSubscription ⟨id⟩) (leaveSubscription_sweeps ⟨id⟩ _)
  have hstep := @Context.leaveSubscription_refines W os ⟨id⟩ host.context _ _ rfl
  rw [mcrxContextLeaveSubscription, lockedCall_eq h]
  exact performs_status h hreached rfl hstep

theorem performs_remove (h : Sound os w host) (id : Nat) :
    Performs os w host (mcrxContextRemoveSubscription ioMessage id host).1
      (mcrxContextRemoveSubscription ioMessage id host).2 := by
  have hreached := h.reached.step (.removeSubscription ⟨id⟩) (removeLocked_sweeps ⟨id⟩ _)
  have hroster : Roster.Step Context.Valid host.context.context.roster (.remove ⟨id⟩)
      ((removeLocked ⟨id⟩ host.context).1.map .removed) []
      (removeLocked ⟨id⟩ host.context).2.context.roster :=
    Context.removeSubscription_step rfl
  have hpanic : (removeLocked ⟨id⟩ host.context).1 ≠ .panic :=
    ne_panic_of_map (reply_ne_panic hroster)
  obtain ⟨hanswered, hcontext, hpoisoned, hok⟩ :=
    removalStatus_cases ioMessage hpanic
      { host with context := (removeLocked ⟨id⟩ host.context).2 }
  rw [mcrxContextRemoveSubscription, lockedCall_eq h]
  refine ⟨⟨?_, hpoisoned.trans h.intact⟩, hanswered, fun hfailed => ?_⟩
  · rw [hcontext]
    exact hreached
  · rw [hcontext]
    cases hresult : (removeLocked ⟨id⟩ host.context).1 with
    | ok existed =>
      rw [hresult] at hroster
      cases existed with
      | true => exact absurd (hok.mpr hresult) hfailed
      | false => exact roster_eq_of_absent hroster
    | err e =>
      rw [hresult] at hroster
      exact roster_eq_of_err rfl hroster
    | panic => exact absurd hresult hpanic

/-- A refused argument changes nothing but the last error. -/
theorem performs_invalidArgument (h : Sound os w host) (message : String) :
    Performs os w host (host.setInvalidArgument message).1 (host.setInvalidArgument message).2 :=
  ⟨⟨h.reached, h.intact⟩, answered_setInvalidArgument host message, fun _ => rfl⟩

/-- The configuration that an add got, and the subscription it made of it. -/
def AddsBound (ifNameToIndex : RecvArgs.IfNameToIndex) (request : Request) (host : Host W)
    (reply : Reply) (host' : Host W) : Prop :=
  ∀ id, reply.subscriptionIdOut = some id →
    ∃ group dstPort source interface config,
      request = .addSubscription group dstPort source interface false ∧
      addArguments ifNameToIndex group dstPort source interface = .ok config ∧
      config.validate = .ok () ∧ reply.status = MCRX_STATUS_OK ∧
      host'.context.context.roster.members =
        host.context.context.roster.members ++ [⟨⟨id⟩, config, .bound⟩]

theorem performs_add (h : Sound os w host) (group : CString) (dstPort : UInt16)
    (source interface : CString) (outIsNull : Bool) :
    Performs os w host
      (mcrxContextAddSubscription os ioMessage ifNameToIndex group dstPort source interface
        outIsNull host).1.status
      (mcrxContextAddSubscription os ioMessage ifNameToIndex group dstPort source interface
        outIsNull host).2 ∧
    AddsBound ifNameToIndex (.addSubscription group dstPort source interface outIsNull) host
      (mcrxContextAddSubscription os ioMessage ifNameToIndex group dstPort source interface
        outIsNull host).1
      (mcrxContextAddSubscription os ioMessage ifNameToIndex group dstPort source interface
        outIsNull host).2 := by
  have hrefused : ∀ id, (none : Option Nat) ≠ some id := fun id hid => by cases hid
  rw [mcrxContextAddSubscription]
  by_cases hnull : outIsNull = true
  · rw [if_pos hnull]
    exact ⟨performs_invalidArgument h _, fun id hid => absurd hid (hrefused id)⟩
  · rw [if_neg hnull]
    rw [Bool.not_eq_true] at hnull
    subst hnull
    cases hargs : addArguments ifNameToIndex group dstPort source interface with
    | error message =>
      exact ⟨performs_invalidArgument h message, fun id hid => absurd hid (hrefused id)⟩
    | ok config =>
      have hreached := h.reached.step (.addSubscription config)
        (addSubscription_sweeps config _)
      have hstep : Context.Refines host.context (.add config)
          ((Context.addSubscription os config host.context).1.map .added)
          (Context.addSubscription os config host.context).2 :=
        Context.addWith_refines rfl
      dsimp only
      rw [h.lockContext]
      dsimp only
      refine ⟨performs_status h hreached rfl hstep, fun id hid => ?_⟩
      cases houtcome : (Context.addSubscription os config host.context).1 with
      | ok added =>
        rw [houtcome] at hid hstep
        obtain ⟨sweeps, -, hroster⟩ := hstep
        cases hid
        obtain ⟨hvalid, hmembers⟩ := members_of_added hroster
        exact ⟨group, dstPort, source, interface, config, rfl, hargs, hvalid, rfl, hmembers⟩
      | err e =>
        rw [houtcome] at hid
        exact absurd hid (hrefused id)
      | panic =>
        rw [houtcome] at hid
        exact absurd hid (hrefused id)

theorem performs_call (h : Sound os w host) (request : Request) :
    Performs os w host (call os ioMessage ifNameToIndex false request host).1.status
        (call os ioMessage ifNameToIndex false request host).2 ∧
      AddsBound ifNameToIndex request host (call os ioMessage ifNameToIndex false request host).1
        (call os ioMessage ifNameToIndex false request host).2 := by
  cases request with
  | addSubscription group dstPort source interface outIsNull =>
    exact performs_add h group dstPort source interface outIsNull
  | joinSubscription id => exact ⟨performs_join h id, fun id hid => by cases hid⟩
  | leaveSubscription id => exact ⟨performs_leave h id, fun id hid => by cases hid⟩
  | removeSubscription id => exact ⟨performs_remove h id, fun id hid => by cases hid⟩

/-! ## Polling -/

variable (ioMessage) in
theorem receiveOne_sound (h : Sound os w host) :
    Sound os w (receiveOne os ioMessage host).2 ∧ (receiveOne os ioMessage host).1 ≠ .panic := by
  have hreached := h.reached.step .tryRecvAnyWithMetadata (tryRecvAnyWithMetadata_sweeps _)
  have hpanic : (Context.tryRecvAnyWithMetadata os host.context).1 ≠ .panic :=
    (Context.tryRecvAnyWithMetadata_receives h.reached.inRange rfl).1
  rw [receiveOne, h.lockContext]
  dsimp only
  cases hreceive : Context.tryRecvAnyWithMetadata os host.context with
  | mk outcome context =>
    rw [hreceive] at hreached hpanic
    cases outcome with
    | ok packet =>
      refine ⟨⟨hreached, h.intact⟩, ?_⟩
      intro hresult
      cases hresult
    | err e =>
      refine ⟨⟨hreached, h.intact⟩, ?_⟩
      intro hresult
      cases hresult
    | panic => exact absurd rfl hpanic

variable (ioMessage) in
/-- The loop by induction on its rounds: a callback that keeps the host sound runs between the
receives. -/
theorem pollLoop_sound {callback : PacketCallback W}
    (hcallback : ∀ packet host, Sound os w host → Sound os w (callback packet host))
    (maxPackets received : Nat) (h : Sound os w host) :
    Sound os w (pollLoop os ioMessage callback maxPackets received host).host ∧
      (pollLoop os ioMessage callback maxPackets received host).exit ≠ .panicked := by
  induction maxPackets generalizing received host with
  | zero =>
    refine ⟨h, ?_⟩
    intro hexit
    cases hexit
  | succ maxPackets ih =>
    obtain ⟨hone, hpanic⟩ := receiveOne_sound ioMessage h
    rw [pollLoop]
    cases hreceive : receiveOne os ioMessage host with
    | mk result host' =>
      rw [hreceive] at hone hpanic
      cases result with
      | panic => exact absurd rfl hpanic
      | err message =>
        refine ⟨hone, ?_⟩
        intro hexit
        cases hexit
      | ok packet =>
        cases packet with
        | none =>
          refine ⟨hone, ?_⟩
          intro hexit
          cases hexit
        | some packet =>
          have hafter := hcallback packet host' hone
          dsimp only
          split
          · refine ⟨hafter, ?_⟩
            intro hexit
            cases hexit
          · exact ih (received + 1) hafter

theorem finish_sound {loop : PollLoop W} (h : Sound os w loop.host)
    (hexit : loop.exit ≠ .panicked) :
    Sound os w loop.finish.2 ∧ Answered loop.finish.2 loop.finish.1 := by
  rw [PollLoop.finish]
  cases hloop : loop.exit with
  | done =>
    exact ⟨⟨h.reached, h.intact⟩,
      answered_clearError { loop.host with receivedOut := loop.received }⟩
  | failed message => exact ⟨⟨h.reached, h.intact⟩, answered_setError loop.host message⟩
  | panicked => exact absurd hloop hexit

theorem poll_sound {callback : Option (PacketCallback W)}
    (hcallback : ∀ f, callback = some f → ∀ packet host, Sound os w host →
      Sound os w (f packet host))
    (maxPackets : Nat) (receivedOutIsNull : Bool) (h : Sound os w host) :
    Sound os w
        (mcrxContextPoll os ioMessage false maxPackets callback receivedOutIsNull host).1.2 ∧
      Answered (mcrxContextPoll os ioMessage false maxPackets callback receivedOutIsNull host).1.2
        (mcrxContextPoll os ioMessage false maxPackets callback receivedOutIsNull host).1.1 := by
  rw [mcrxContextPoll, if_neg Bool.false_ne_true]
  by_cases hnull : receivedOutIsNull = true
  · rw [if_pos hnull]
    exact ⟨⟨h.reached, h.intact⟩, answered_setInvalidArgument host _⟩
  · rw [if_neg hnull]
    have hcleared : Sound os w { host with receivedOut := 0 } := ⟨h.reached, h.intact⟩
    cases callback with
    | none =>
      dsimp only
      split
      · exact ⟨⟨h.reached, h.intact⟩, answered_clearError { host with receivedOut := 0 }⟩
      · exact ⟨⟨h.reached, h.intact⟩, answered_setInvalidArgument { host with receivedOut := 0 } _⟩
    | some f =>
      obtain ⟨hloop, hexit⟩ :=
        pollLoop_sound ioMessage (hcallback f rfl) maxPackets 0 hcleared
      exact finish_sound hloop hexit

/-! ## Runs -/

/-- Nothing that a host does makes its context unsound, by induction on the run; the
hypothesis of a poll is about its callbacks. -/
theorem Reaches.sound {start host : Host W} (h : Reaches os ioMessage ifNameToIndex start host)
    (hstart : Sound os w start) : Sound os w host := by
  induction h with
  | refl => exact hstart
  | @call start host _ contextIsNull request ih =>
    cases contextIsNull with
    | true => exact ⟨(ih hstart).reached, (ih hstart).intact⟩
    | false => exact (performs_call (ih hstart) request).1.sound
  | @poll start host _ contextIsNull maxPackets callback receivedOutIsNull _ ih ihCallback =>
    cases contextIsNull with
    | true => exact ⟨(ih hstart).reached, (ih hstart).intact⟩
    | false => exact (poll_sound ihCallback maxPackets receivedOutIsNull (ih hstart)).1
  | receive _ ih => exact (receiveOne_sound ioMessage (ih hstart)).1
  | free _ ih => exact ⟨(ih hstart).reached, (ih hstart).intact⟩

/-- Whatever a host has done since it made its context, in its callbacks too: the context is
one that calls of its own reach and no panic has poisoned it, the next call that fails leaves
its subscriptions alone and says so, and an add that returns an identifier has appended the
subscription of its arguments. -/
theorem host_keeps_context {receivedOut : Nat}
    (h : Reaches os ioMessage ifNameToIndex (mcrxContextNew w receivedOut) host) :
    Sound os w host ∧
    (∀ request, Performs os w host (call os ioMessage ifNameToIndex false request host).1.status
        (call os ioMessage ifNameToIndex false request host).2 ∧
      AddsBound ifNameToIndex request host (call os ioMessage ifNameToIndex false request host).1
        (call os ioMessage ifNameToIndex false request host).2) ∧
    ∀ (maxPackets : Nat) (callback : Option (PacketCallback W)) (receivedOutIsNull : Bool),
      (∀ f, callback = some f → Calls os ioMessage ifNameToIndex f) →
      Sound os w
        (mcrxContextPoll os ioMessage false maxPackets callback receivedOutIsNull host).1.2 ∧
      Answered (mcrxContextPoll os ioMessage false maxPackets callback receivedOutIsNull host).1.2
        (mcrxContextPoll os ioMessage false maxPackets callback receivedOutIsNull host).1.1 := by
  have hsound : Sound os w host := h.sound (sound_new os w receivedOut)
  refine ⟨hsound, performs_call hsound, ?_⟩
  intro maxPackets callback receivedOutIsNull hcallback
  apply poll_sound
  · intro f hf packet host hhost
    exact (hcallback f hf packet host).sound hhost
  · exact hsound

def addedHost : Reply × Host Unit :=
  call quietSockets (fun _ => "") (fun _ => 0) false
    (.addSubscription (some "239.1.2.3".toUTF8.toList) 5000 none none false)
    (mcrxContextNew () 0)

def removingCallback : PacketCallback Unit := fun packet host =>
  (call quietSockets (fun _ => "") (fun _ => 0) false
    (.removeSubscription packet.packet.subscriptionId.val) host).2

theorem host_keeps_context_added :
    addedHost.1 = { status := MCRX_STATUS_OK, subscriptionIdOut := some 1 } ∧
      mcrxContextSubscriptionCount false addedHost.2 = 1 ∧
      Sound quietSockets () addedHost.2 ∧
      Answered
        (mcrxContextPoll quietSockets (fun _ => "") false 8 (some removingCallback) false
          addedHost.2).1.2
        (mcrxContextPoll quietSockets (fun _ => "") false 8 (some removingCallback) false
          addedHost.2).1.1 := by
  have hreaches :
      Reaches quietSockets (fun _ => "") (fun _ => 0) (mcrxContextNew () 0) addedHost.2 :=
    .call (.refl (mcrxContextNew () 0)) false _
  have hcontext := host_keeps_context hreaches
  refine ⟨by decide +kernel, by decide +kernel, hcontext.1, ?_⟩
  refine (hcontext.2.2 8 (some removingCallback) false ?_).2
  intro f hf packet host
  cases hf
  exact .call (.refl host) false _

end McrxCore.Ffi
