import McrxCore.Context.Blocking

/-!
# Polling through the C interface

`mcrx_context_poll` with its loop of receives and callbacks.  The callback is the host's: it
may do anything to the context, which is not locked while it runs, and may free it.
-/

namespace McrxCore.Ffi

def MCRX_STATUS_OK : Nat := 0

def MCRX_STATUS_INVALID_ARGUMENT : Nat := 1

def MCRX_STATUS_ERROR : Nat := 2

def MCRX_STATUS_PANIC : Nat := 4

/-- What a poll and its callbacks work on: the `ContextState` with the world of its
operating system, the last error of the calling thread, and the memory of the host that
`received_out` points to. -/
structure Host (W : Type) where
  context : Context.System W
  poisoned : Bool
  lastError : Option String
  handleAlive : Bool
  threadError : Option String
  receivedOut : Nat

/-- The callback with its `user_data`.  The packet view that it gets is made of the
packet. -/
abbrev PacketCallback (W : Type) := PacketWithMetadata → Host W → Host W

/-- What `receive_one` returns, or its panic. -/
inductive Received where
  | ok (packet : Option PacketWithMetadata)
  | err (message : String)
  | panic
  deriving DecidableEq, Repr

/-- What a poll does, in order: its receives, and its callbacks with whether the context
was alive after them. -/
inductive PollEvent where
  | receive (result : Received)
  | callback (packet : PacketWithMetadata) (alive : Bool)
  deriving DecidableEq, Repr

/-- How the loop is left: by its end or a `break`, by an error, or by a panic. -/
inductive Exit where
  | done
  | failed (message : String)
  | panicked
  deriving DecidableEq, Repr

structure PollLoop (W : Type) where
  exit : Exit
  received : Nat
  host : Host W
  events : List PollEvent

def cstringLossy (message : String) : String :=
  if message.contains '\x00' then "mcrx error contained an interior nul byte" else message

section Poll

variable {W : Type}

namespace Host

def clearError (host : Host W) : Host W := { host with lastError := none }

def setError (host : Host W) (message : String) : Nat × Host W :=
  (MCRX_STATUS_ERROR, { host with lastError := some (cstringLossy message) })

def setInvalidArgument (host : Host W) (message : String) : Nat × Host W :=
  (MCRX_STATUS_INVALID_ARGUMENT, { host with lastError := some (cstringLossy message) })

def setLastErrorWithStatus (host : Host W) (message : String) (status : Nat) : Nat × Host W :=
  (status, { host with threadError := some (cstringLossy message) })

def lockContext (host : Host W) : Except String (Context.System W) :=
  if host.poisoned then .error "mcrx context mutex is poisoned" else .ok host.context

end Host

/-- What `mcrx_context_free` does to the state that a poll holds. -/
def mcrxContextFree (host : Host W) : Host W := { host with handleAlive := false }

variable (os : UdpSystem W) (ioMessage : IoError → String)

/-- A panic with the lock held poisons it. -/
def receiveOne (host : Host W) : Received × Host W :=
  match host.lockContext with
  | .error message => (.err message, host)
  | .ok context =>
    match Context.tryRecvAnyWithMetadata os context with
    | (.ok packet, context) => (.ok packet, { host with context := context })
    | (.err e, context) => (.err (e.display ioMessage), { host with context := context })
    | (.panic, context) => (.panic, { host with context := context, poisoned := true })

/-- The loop with `maxPackets` rounds left. -/
def pollLoop (callback : PacketCallback W) : Nat → Nat → Host W → PollLoop W
  | 0, received, host => { exit := .done, received := received, host := host, events := [] }
  | maxPackets + 1, received, host =>
    match receiveOne os ioMessage host with
    | (.err message, host) =>
      { exit := .failed message
        received := received
        host := host
        events := [.receive (.err message)] }
    | (.panic, host) =>
      { exit := .panicked, received := received, host := host, events := [.receive .panic] }
    | (.ok none, host) =>
      { exit := .done, received := received, host := host, events := [.receive (.ok none)] }
    | (.ok (some packet), host) =>
      let host := callback packet host
      let events := [.receive (.ok (some packet)), .callback packet host.handleAlive]
      if !host.handleAlive then
        { exit := .done, received := received + 1, host := host, events := events }
      else
        let rest := pollLoop callback maxPackets (received + 1) host
        { rest with events := events ++ rest.events }

/-- What a poll does behind its loop.  Only the end of the loop writes `received_out`; an
error returns at once, and a panic unwinds to `ffi_status`. -/
def PollLoop.finish (loop : PollLoop W) : Nat × Host W :=
  match loop.exit with
  | .failed message => loop.host.setError message
  | .panicked =>
    loop.host.setLastErrorWithStatus "panic crossed mcrx-core-ffi boundary" MCRX_STATUS_PANIC
  | .done => (MCRX_STATUS_OK, { loop.host with receivedOut := loop.received }.clearError)

/-- `mcrx_context_poll`: the status it returns and what it did. -/
def mcrxContextPoll (contextIsNull : Bool) (maxPackets : Nat) (callback : Option (PacketCallback W))
    (receivedOutIsNull : Bool) (host : Host W) : (Nat × Host W) × List PollEvent :=
  if contextIsNull then
    (host.setLastErrorWithStatus "context pointer must not be null" MCRX_STATUS_INVALID_ARGUMENT,
      [])
  else if receivedOutIsNull then
    (host.setInvalidArgument "received_out must not be null", [])
  else
    let host := { host with receivedOut := 0 }
    match callback with
    | none =>
      if maxPackets = 0 then ((MCRX_STATUS_OK, host.clearError), [])
      else
        (host.setInvalidArgument "callback must not be null when max_packets is non-zero", [])
    | some callback =>
      let loop := pollLoop os ioMessage callback maxPackets 0 host
      (loop.finish, loop.events)

end Poll

/-! ## What a poll does -/

namespace PollEvent

def isCallback : PollEvent → Bool
  | receive _ => false
  | callback _ _ => true

def fails : PollEvent → Bool
  | receive (.ok _) => false
  | receive (.err _) => true
  | receive .panic => true
  | callback _ _ => false

/-- The outcomes that end the loop: no packet, a failed receive, and a callback that freed
the context. -/
def ends : PollEvent → Bool
  | receive (.ok packet) => packet.isNone
  | receive (.err _) => true
  | receive .panic => true
  | callback _ alive => !alive

end PollEvent

def callbacks (events : List PollEvent) : Nat := events.countP PollEvent.isCallback

/-- What `received_out` says of a poll: it counts the callbacks, which the limit bounds, and
there is none after the outcome that ended the loop. -/
structure Reports (maxPackets receivedOut : Nat) (events : List PollEvent) : Prop where
  counted : receivedOut = callbacks events
  bounded : callbacks events ≤ maxPackets
  stopped : events.Pairwise fun earlier later => earlier.ends = true → later.isCallback = false

/-- No receive fails after a callback. -/
def FailsFirst (events : List PollEvent) : Prop :=
  events.Pairwise fun earlier later => earlier.isCallback = true → later.fails = false

instance (events : List PollEvent) : Decidable (FailsFirst events) :=
  inferInstanceAs (Decidable (events.Pairwise _))

/-- The loops of at most `maxPackets` rounds, by how they are left. -/
inductive Polls : Nat → List PollEvent → Exit → Prop
  | limit : Polls 0 [] .done
  | empty (maxPackets : Nat) : Polls (maxPackets + 1) [.receive (.ok none)] .done
  | failed (maxPackets : Nat) (message : String) :
    Polls (maxPackets + 1) [.receive (.err message)] (.failed message)
  | panicked (maxPackets : Nat) : Polls (maxPackets + 1) [.receive .panic] .panicked
  | freed (maxPackets : Nat) (packet : PacketWithMetadata) :
    Polls (maxPackets + 1) [.receive (.ok (some packet)), .callback packet false] .done
  | next {maxPackets : Nat} {events : List PollEvent} {exit : Exit} (packet : PacketWithMetadata)
    (h : Polls maxPackets events exit) :
    Polls (maxPackets + 1) (.receive (.ok (some packet)) :: .callback packet true :: events) exit

section Polls

variable {maxPackets : Nat} {events : List PollEvent} {exit : Exit}

theorem callbacks_cons (event : PollEvent) (events : List PollEvent) :
    callbacks (event :: events) = callbacks events + if event.isCallback then 1 else 0 :=
  List.countP_cons

theorem Polls.bounded (h : Polls maxPackets events exit) : callbacks events ≤ maxPackets := by
  induction h with
  | limit => exact Nat.le_refl 0
  | empty | failed | panicked => exact Nat.zero_le _
  | freed maxPackets packet => exact Nat.succ_le_succ (Nat.zero_le _)
  | next packet _ ih =>
    rw [callbacks_cons, callbacks_cons]
    exact Nat.succ_le_succ ih

theorem Polls.stopped (h : Polls maxPackets events exit) :
    events.Pairwise fun earlier later => earlier.ends = true → later.isCallback = false := by
  induction h with
  | limit => exact .nil
  | empty | failed | panicked => exact List.pairwise_singleton _ _
  | freed maxPackets packet =>
    refine .cons (fun later _ hends => (by cases hends)) (List.pairwise_singleton _ _)
  | next packet _ ih =>
    exact .cons (fun later _ hends => (by cases hends))
      (.cons (fun later _ hends => (by cases hends)) ih)

/-- A loop that ends by itself has no failed receive. -/
theorem Polls.fails_eq_false (h : Polls maxPackets events exit) (hexit : exit = .done) :
    ∀ event ∈ events, event.fails = false := by
  induction h with
  | limit => exact fun _ hmem => absurd hmem List.not_mem_nil
  | empty => decide
  | freed maxPackets packet =>
    exact List.forall_mem_cons.mpr ⟨rfl, List.forall_mem_singleton.mpr rfl⟩
  | failed | panicked => cases hexit
  | next packet _ ih =>
    exact List.forall_mem_cons.mpr ⟨rfl, List.forall_mem_cons.mpr ⟨rfl, ih hexit⟩⟩

/-- A loop that does not end by itself ends with a failed receive. -/
theorem Polls.exists_fails (h : Polls maxPackets events exit) (hexit : exit ≠ .done) :
    ∃ event ∈ events, event.fails = true := by
  induction h with
  | limit | empty | freed => exact absurd rfl hexit
  | failed | panicked => exact ⟨_, List.mem_cons_self, rfl⟩
  | next packet _ ih =>
    obtain ⟨event, hevent, hfails⟩ := ih hexit
    exact ⟨event, List.mem_cons_of_mem _ (List.mem_cons_of_mem _ hevent), hfails⟩

/-- A failed receive comes before every callback only if there is none. -/
theorem Polls.failsFirst_iff (h : Polls maxPackets events exit) (hexit : exit ≠ .done) :
    FailsFirst events ↔ callbacks events = 0 := by
  cases h with
  | limit | empty | freed => exact absurd rfl hexit
  | failed | panicked => exact ⟨fun _ => rfl, fun _ => List.pairwise_singleton _ _⟩
  | next packet h =>
    obtain ⟨event, hevent, hfails⟩ := h.exists_fails hexit
    refine ⟨fun hfirst => ?_, fun hzero => ?_⟩
    · have hnot := (List.pairwise_cons.mp (List.pairwise_cons.mp hfirst).2).1 event hevent rfl
      rw [hfails] at hnot
      cases hnot
    · rw [callbacks_cons, callbacks_cons] at hzero
      cases hzero

theorem failsFirst_of_forall (h : ∀ event ∈ events, event.fails = false) : FailsFirst events :=
  List.pairwise_of_forall_mem_list fun _ _ later hlater _ => h later hlater

/-- The limit and the end of the loop are kept in any case. -/
theorem Polls.reports_iff (h : Polls maxPackets events exit) {receivedOut : Nat} :
    Reports maxPackets receivedOut events ↔ receivedOut = callbacks events :=
  ⟨Reports.counted, fun hcounted => ⟨hcounted, h.bounded, h.stopped⟩⟩

end Polls

section Loop

variable {W : Type} {os : UdpSystem W} {ioMessage : IoError → String}

/-- The callback leaves the memory that `received_out` points to as it is. -/
def LeavesOut (callback : PacketCallback W) : Prop :=
  ∀ packet host, (callback packet host).receivedOut = host.receivedOut

theorem receiveOne_receivedOut (host : Host W) :
    (receiveOne os ioMessage host).2.receivedOut = host.receivedOut := by
  unfold receiveOne
  split
  · rfl
  · split <;> rfl

section Packet

variable {callback : PacketCallback W} {maxPackets received : Nat} {host host' : Host W}
  {packet : PacketWithMetadata}

theorem pollLoop_freed (hone : receiveOne os ioMessage host = (.ok (some packet), host'))
    (halive : (callback packet host').handleAlive = false) :
    pollLoop os ioMessage callback (maxPackets + 1) received host =
      { exit := .done
        received := received + 1
        host := callback packet host'
        events := [.receive (.ok (some packet)), .callback packet false] } := by
  simp only [pollLoop, hone, halive, Bool.not_false, if_true]

theorem pollLoop_next (hone : receiveOne os ioMessage host = (.ok (some packet), host'))
    (halive : (callback packet host').handleAlive = true) :
    pollLoop os ioMessage callback (maxPackets + 1) received host =
      let rest := pollLoop os ioMessage callback maxPackets (received + 1) (callback packet host')
      { rest with
        events := .receive (.ok (some packet)) :: .callback packet true :: rest.events } := by
  simp only [pollLoop, hone, halive, Bool.not_true, Bool.false_eq_true, if_false, List.cons_append,
    List.nil_append]

end Packet

/-- Every loop is one of those, by induction on the rounds left. -/
theorem pollLoop_polls (callback : PacketCallback W) (maxPackets received : Nat) (host : Host W) :
    let loop := pollLoop os ioMessage callback maxPackets received host
    Polls maxPackets loop.events loop.exit ∧ loop.received = received + callbacks loop.events := by
  induction maxPackets generalizing received host with
  | zero => exact ⟨.limit, rfl⟩
  | succ maxPackets ih =>
    cases hone : receiveOne os ioMessage host with
    | mk result host' =>
      match result with
      | .ok (some packet) =>
        cases halive : (callback packet host').handleAlive with
        | false =>
          rw [pollLoop_freed hone halive]
          exact ⟨.freed maxPackets packet, rfl⟩
        | true =>
          obtain ⟨hpolls, hreceived⟩ := ih (received + 1) (callback packet host')
          rw [pollLoop_next hone halive]
          refine ⟨.next packet hpolls, hreceived.trans ?_⟩
          show received + 1 + _ = received + callbacks (_ :: _ :: _)
          rw [callbacks_cons, callbacks_cons, Nat.add_right_comm]
          rfl
      | .ok none =>
        simp only [pollLoop, hone]
        exact ⟨.empty maxPackets, rfl⟩
      | .err message =>
        simp only [pollLoop, hone]
        exact ⟨.failed maxPackets message, rfl⟩
      | .panic =>
        simp only [pollLoop, hone]
        exact ⟨.panicked maxPackets, rfl⟩

theorem pollLoop_receivedOut {callback : PacketCallback W} (hleaves : LeavesOut callback)
    (maxPackets received : Nat) (host : Host W) :
    (pollLoop os ioMessage callback maxPackets received host).host.receivedOut =
      host.receivedOut := by
  induction maxPackets generalizing received host with
  | zero => rfl
  | succ maxPackets ih =>
    have hreceive := @receiveOne_receivedOut W os ioMessage host
    cases hone : receiveOne os ioMessage host with
    | mk result host' =>
      rw [hone] at hreceive
      match result with
      | .ok (some packet) =>
        have hcall := (hleaves packet host').trans hreceive
        cases halive : (callback packet host').handleAlive with
        | false =>
          rw [pollLoop_freed hone halive]
          exact hcall
        | true =>
          rw [pollLoop_next hone halive]
          exact (ih (received + 1) (callback packet host')).trans hcall
      | .ok none | .err message | .panic =>
        simp only [pollLoop, hone]
        exact hreceive

theorem receivedOut_finish (loop : PollLoop W) :
    loop.finish.2.receivedOut =
      if loop.exit = .done then loop.received else loop.host.receivedOut := by
  unfold PollLoop.finish
  split
  · next hexit => rw [hexit, if_neg (fun h => (by cases h))]; rfl
  · next hexit => rw [hexit, if_neg (fun h => (by cases h))]; rfl
  · next hexit => rw [hexit, if_pos rfl]; rfl

theorem loop_reports (callback : PacketCallback W) (maxPackets : Nat) {host : Host W}
    (hout : host.receivedOut = 0) :
    let loop := pollLoop os ioMessage callback maxPackets 0 host
    ((∀ event ∈ loop.events, event.fails = false) →
      Reports maxPackets loop.finish.2.receivedOut loop.events) ∧
    (LeavesOut callback →
      (Reports maxPackets loop.finish.2.receivedOut loop.events ↔ FailsFirst loop.events)) := by
  intro loop
  obtain ⟨hpolls, hreceived⟩ : Polls maxPackets loop.events loop.exit ∧
    loop.received = 0 + callbacks loop.events := pollLoop_polls callback maxPackets 0 host
  rw [receivedOut_finish, hpolls.reports_iff]
  by_cases hexit : loop.exit = .done
  · have hcounted := hreceived.trans (Nat.zero_add _)
    have hfirst := failsFirst_of_forall (hpolls.fails_eq_false hexit)
    rw [if_pos hexit]
    exact ⟨fun _ => hcounted, fun _ => ⟨fun _ => hfirst, fun _ => hcounted⟩⟩
  · rw [if_neg hexit]
    refine ⟨fun hnone => ?_, fun hleaves => ?_⟩
    · obtain ⟨event, hevent, hfails⟩ := hpolls.exists_fails hexit
      rw [hnone event hevent] at hfails
      cases hfails
    · rw [pollLoop_receivedOut hleaves, hout, hpolls.failsFirst_iff hexit]
      exact eq_comm

/-- Whatever the receives return and the callback does, a poll that checked `received_out`
counts its callbacks in it when no receive fails; when the callback leaves that memory
alone, exactly if no receive fails after a callback. -/
theorem poll_reports_iff {W : Type} (os : UdpSystem W) (ioMessage : IoError → String)
    (maxPackets : Nat) (callback : Option (PacketCallback W)) (host : Host W) :
    let call := mcrxContextPoll os ioMessage false maxPackets callback false host
    ((∀ event ∈ call.2, event.fails = false) → Reports maxPackets call.1.2.receivedOut call.2) ∧
    ((∀ run ∈ callback, LeavesOut run) →
      (Reports maxPackets call.1.2.receivedOut call.2 ↔ FailsFirst call.2)) := by
  cases callback with
  | none =>
    have hreports : Reports maxPackets 0 [] := ⟨rfl, Nat.zero_le _, .nil⟩
    simp only [mcrxContextPoll, Bool.false_eq_true, if_false]
    split <;>
      exact ⟨fun _ => hreports, fun _ => ⟨fun _ => .nil, fun _ => hreports⟩⟩
  | some run =>
    obtain ⟨hcounts, hiff⟩ := @loop_reports W os ioMessage run maxPackets
      { host with receivedOut := 0 } rfl
    exact ⟨hcounts, fun hleaves => hiff (hleaves run rfl)⟩

end Loop

def joinedHost (os : UdpSystem Nat) : Host Nat :=
  { context := Journal.final (Context.step os) fairHistory (Context.start 0)
    poisoned := false
    lastError := none
    handleAlive := true
    threadError := none
    receivedOut := 7 }

/-- Both subscriptions have packets, and the first callback frees the context. -/
theorem poll_reports_freed :
    let os := twoSockets readyDatagram readyDatagram
    let call := mcrxContextPoll os (fun _ => "") false 8 (some fun _ host => mcrxContextFree host)
      false (joinedHost os)
    callbacks call.2 = 1 ∧ Reports 8 call.1.2.receivedOut call.2 ∧ FailsFirst call.2 := by
  have hreports := poll_reports_iff (twoSockets readyDatagram readyDatagram) (fun _ => "") 8
    (some fun _ host => mcrxContextFree host) (joinedHost (twoSockets readyDatagram readyDatagram))
  refine ⟨by decide, hreports.1 (by decide), (hreports.2 ?_).mp (hreports.1 (by decide))⟩
  rintro run hrun packet host
  cases Option.mem_some.mp hrun
  rfl

/-- One callback gets a packet, and then the receive of the second subscription fails: the
poll returns an error and reports no packet. -/
theorem failed_poll_reports_none :
    let os := twoSockets readyDatagram (.failed ⟨12⟩)
    let call := mcrxContextPoll os (fun _ => "") false 8 (some fun _ host => host) false
      (joinedHost os)
    call.1.1 = MCRX_STATUS_ERROR ∧ call.1.2.receivedOut = 0 ∧ callbacks call.2 = 1 ∧
      ¬ Reports 8 call.1.2.receivedOut call.2 := by
  refine ⟨by decide, by decide, by decide, fun h => ?_⟩
  exact absurd h.counted (by decide)

end McrxCore.Ffi
