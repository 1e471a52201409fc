import McrxCore.Raw.Shared.Receive

/-!
# Calls and runs

`CallStep` collects what each operation can do, and every fact about runs is an
induction over it: the representation invariant, the bound on the queue, and that
no call panics.
-/

namespace McrxCore

namespace SharedRawContext

variable {W : Type} {os : OperatingSystem W}

def Bounded (c : SharedRawContext) : Prop :=
  c.pendingPackets.length ≤ c.limits.maxPendingPackets

/-- A receive call handed `packets` over and read `reads`. -/
structure ReceiveStep (s : System W) (packets : List SharedRawPacket) (reads : List Read)
    (s' : System W) : Prop where
  received : s.context.Received packets reads s'.context
  events : s'.events = s.events ++ reads.map Event.ofRead
  bounded : s.context.Bounded → s'.context.Bounded

theorem ReceiveStep.refl {s : System W} (hinv : s.context.Invariant) : ReceiveStep s [] [] s :=
  ⟨Received.refl hinv.cursor, by simp, id⟩

theorem ReceiveStep.trans {s s₁ s₂ : System W} {packets₁ packets₂ : List SharedRawPacket}
    {reads₁ reads₂ : List Read} (h₁ : ReceiveStep s packets₁ reads₁ s₁)
    (h₂ : ReceiveStep s₁ packets₂ reads₂ s₂) :
    ReceiveStep s (packets₁ ++ packets₂) (reads₁ ++ reads₂) s₂ := by
  refine ⟨h₁.received.trans h₂.received, ?_, fun h => h₂.bounded (h₁.bounded h)⟩
  rw [h₂.events, h₁.events, List.map_append, List.append_assoc]

theorem FillStep.receiveStep {s s' : System W} {maxNewPackets : Nat} {r : Outcome Nat}
    {reads : List Read} (h : FillStep s maxNewPackets r reads s') : ReceiveStep s [] reads s' := by
  refine ⟨h.received, h.events, fun hbounded => ?_⟩
  have hpending := congrArg List.length h.received.pending
  have htarget := h.matched_le
  rw [List.nil_append, List.length_append, length_filterMap_packetOf] at hpending
  rw [Bounded, h.received.limits, hpending]
  have hmin : s.context.fillTarget maxNewPackets ≤
      s.context.limits.maxPendingPackets - s.context.pendingPackets.length := Nat.min_le_right _ _
  rw [Bounded] at hbounded
  omega

/-- Handing the head of the queue over. -/
theorem receiveStep_take {s : System W} (hinv : s.context.Invariant) (count : Nat) :
    ReceiveStep s (s.context.pendingPackets.take count) []
      (s.withContext
        { s.context with pendingPackets := s.context.pendingPackets.drop count }) := by
  refine ⟨⟨?_, ?_, hinv.cursor, fun read hread => nomatch hread⟩, ?_, fun hbounded => ?_⟩
  · rw [receiveAll_nil]
    rfl
  · simp [System.withContext]
  · simp [System.withContext]
  · rw [Bounded] at hbounded ⊢
    simp only [System.withContext, List.length_drop]
    omega

theorem popFront_cases {s s' : System W} {r : Option SharedRawPacket}
    (hinv : s.context.Invariant) (h : popFront s = (r, s')) :
    ReceiveStep s r.toList [] s' ∧ (r = none → s' = s ∧ s.context.pendingPackets = []) := by
  simp only [popFront] at h
  split at h
  · rename_i hnil
    cases h
    exact ⟨ReceiveStep.refl hinv, fun _ => ⟨rfl, hnil⟩⟩
  · rename_i packet rest hcons
    cases h
    have hone := receiveStep_take hinv 1
    rw [hcons] at hone
    exact ⟨hone, fun hnone => nomatch hnone⟩

def handed : Outcome (Option SharedRawPacket) → List SharedRawPacket
  | .ok packet => packet.toList
  | _ => []

theorem tryRecvAny_cases {s s' : System W} {r : Outcome (Option SharedRawPacket)}
    (hinv : s.context.Invariant) (h : tryRecvAny os s = (r, s')) :
    r ≠ .panic ∧ ∃ reads, ReceiveStep s (handed r) reads s' := by
  simp only [tryRecvAny] at h
  cases hpop : popFront s with
  | mk popped s₁ =>
    obtain ⟨hfirst, hnone⟩ := popFront_cases hinv hpop
    rw [hpop] at h
    match popped with
    | some packet =>
      cases h
      exact ⟨nofun, [], hfirst⟩
    | none =>
      obtain ⟨rfl, -⟩ := hnone rfl
      cases hfill : fillPending os 1 s₁ with
      | mk outcome s₂ =>
        obtain ⟨reads, hstep⟩ := fillPending_cases hinv hfill
        have hreceived := hstep.receiveStep
        simp only [hfill] at h
        match outcome with
        | .err e =>
          cases h
          exact ⟨nofun, reads, hreceived⟩
        | .panic => exact absurd rfl hstep.noPanic
        | .ok queued =>
          cases hlast : popFront s₂ with
          | mk packet s₃ =>
            obtain ⟨hsecond, -⟩ :=
              popFront_cases (hreceived.received.invariant hinv) hlast
            simp only [hlast] at h
            cases h
            have hboth := hreceived.trans hsecond
            rw [List.nil_append, List.append_nil] at hboth
            exact ⟨nofun, reads, hboth⟩

/-- What a batch call does after `received` packets. -/
structure BatchStep (s : System W) (maxPackets received : Nat) (packets : List SharedRawPacket)
    (r : Outcome Nat) (packets' : List SharedRawPacket) (s' : System W) : Prop where
  noPanic : r ≠ .panic
  step : ∃ handed reads, packets' = packets ++ handed ∧ ReceiveStep s handed reads s' ∧
    received + handed.length ≤ maxPackets ∧
    ∀ count, r = .ok count → count = received + handed.length

theorem BatchStep.done {s : System W} {maxPackets received : Nat}
    {packets : List SharedRawPacket} (hinv : s.context.Invariant) (hle : received ≤ maxPackets) :
    BatchStep s maxPackets received packets (.ok received) packets s :=
  ⟨nofun, [], [], by simp, ReceiveStep.refl hinv, hle, fun count hc => by cases hc; rfl⟩

/-- A fill and a drain before the rest of a batch call. -/
theorem BatchStep.of_drain {s s₁ s' : System W} {maxPackets received : Nat}
    {packets packets' : List SharedRawPacket} {r : Outcome Nat} {reads : List Read}
    (hfirst : ReceiveStep s [] reads s₁) (hinv₁ : s₁.context.Invariant)
    (h : BatchStep
      (s₁.withContext (s₁.context.drainPendingInto packets (maxPackets - received)).2.2) maxPackets
      (received + (s₁.context.drainPendingInto packets (maxPackets - received)).1)
      (s₁.context.drainPendingInto packets (maxPackets - received)).2.1 r packets' s') :
    BatchStep s maxPackets received packets r packets' s' := by
  obtain ⟨hr, handed, reads', hpackets, hrest, hle, hcount⟩ := h
  have hdrain := receiveStep_take hinv₁
    (min (maxPackets - received) s₁.context.pendingPackets.length)
  have hlen : (s₁.context.pendingPackets.take
      (min (maxPackets - received) s₁.context.pendingPackets.length)).length =
        min (maxPackets - received) s₁.context.pendingPackets.length := by
    rw [List.length_take]
    omega
  simp only [drainPendingInto] at hpackets hle hcount hrest
  have hall := (hfirst.trans hdrain).trans hrest
  rw [List.nil_append] at hall
  refine ⟨hr, _, _, ?_, hall, ?_, fun count hok => ?_⟩
  · rw [hpackets, List.append_assoc]
  · rw [List.length_append, hlen]
    omega
  · rw [hcount count hok, List.length_append, hlen]
    omega

theorem batchLoop_cases {s s' : System W} {maxPackets received : Nat}
    {packets packets' : List SharedRawPacket} {r : Outcome Nat} (hinv : s.context.Invariant)
    (hle : received ≤ maxPackets)
    (h : batchLoop os maxPackets received packets s = (r, packets', s')) :
    BatchStep s maxPackets received packets r packets' s' := by
  induction hn : maxPackets - received using Nat.strong_induction_on
    generalizing received packets s with
  | _ n ih =>
    rw [batchLoop] at h
    split at h
    · rename_i hlt
      split at h
      · rename_i e s₁ hfill
        cases h
        obtain ⟨reads, hstep⟩ := fillPending_cases hinv hfill
        exact ⟨by simp, [], reads, by simp, hstep.receiveStep, hle,
          fun count hc => by cases hc⟩
      · rename_i s₁ hfill
        obtain ⟨reads, hstep⟩ := fillPending_cases hinv hfill
        exact absurd rfl hstep.noPanic
      · rename_i queued s₁ hfill
        obtain ⟨reads, hstep⟩ := fillPending_cases hinv hfill
        have hfirst := hstep.receiveStep
        split at h
        · cases h
          exact ⟨by simp, [], reads, by simp, hfirst, hle,
            fun count hc => by cases hc; rfl⟩
        · rename_i hzero
          have hqueued := fillPending_queued_le os hfill
          have hinv₁ := hfirst.received.invariant hinv
          have hdrained := (receiveStep_take hinv₁
            (min (maxPackets - received) s₁.context.pendingPackets.length)).received.invariant hinv₁
          refine BatchStep.of_drain hfirst hinv₁ (ih _ ?_ hdrained ?_ h rfl)
          · simp only [drainPendingInto]
            omega
          · simp only [drainPendingInto]
            omega
    · cases h
      exact BatchStep.done hinv hle

theorem tryRecvBatchInto_cases {s s' : System W} {maxPackets : Nat}
    {packets packets' : List SharedRawPacket} {r : Outcome Nat} (hinv : s.context.Invariant)
    (h : tryRecvBatchInto os packets maxPackets s = (r, packets', s')) :
    BatchStep s maxPackets 0 packets r packets' s' := by
  rw [tryRecvBatchInto] at h
  split at h
  · rename_i hzero
    cases h
    exact BatchStep.done hinv (Nat.zero_le _)
  · have hdrained := (receiveStep_take hinv
      (min maxPackets s.context.pendingPackets.length)).received.invariant hinv
    refine BatchStep.of_drain (ReceiveStep.refl hinv) hinv ?_
    rw [Nat.zero_add, Nat.sub_zero]
    refine batchLoop_cases hdrained ?_ h
    simp only [drainPendingInto]
    omega

theorem LeaveStep.bounded {c c' : SharedRawContext} {id : SubscriptionId} {r : Outcome Unit}
    {events : List Event} (h : LeaveStep c id r c' events) (hb : c.Bounded) : c'.Bounded := by
  have hfilter : ∀ f : SharedRawPacket → Option SharedRawPacket,
      (c.pendingPackets.filterMap f).length ≤ c.limits.maxPendingPackets :=
    fun f => Nat.le_trans (List.length_filterMap_le f _) hb
  cases h with
  | refused => exact hb
  | leaveFailed => exact hb
  | leftShared => exact hfilter _
  | leftLast => exact hfilter _
  | closed => exact hfilter _

end SharedRawContext

/-! ## One call -/

namespace System

open SharedRawContext

variable {W : Type} {os : OperatingSystem W}

inductive CallStep (c : SharedRawContext) :
    Operation → Response → SharedRawContext → List Event → Prop
  | added {config : RawSubscriptionConfig} {r : Outcome SubscriptionId} {c' : SharedRawContext}
      (h : AddStep c config r c') :
      CallStep c (.addSubscription config)
        { outcome := r.map .added, packets := [] } c' []
  | joined {id : SubscriptionId} {r : Outcome Unit} {c' : SharedRawContext} {events : List Event}
      (h : JoinStep c id r c' events) :
      CallStep c (.joinSubscription id)
        { outcome := r.map fun _ => .joined, packets := [] } c' events
  | left {id : SubscriptionId} {r : Outcome Unit} {c' : SharedRawContext} {events : List Event}
      (h : LeaveStep c id r c' events) :
      CallStep c (.leaveSubscription id)
        { outcome := r.map fun _ => .left, packets := [] } c' events
  | removed {id : SubscriptionId} {r : Outcome Bool} {c' : SharedRawContext}
      {events : List Event} (h : RemoveStep c id r c' events) :
      CallStep c (.removeSubscription id)
        { outcome := r.map .removed, packets := [] } c' events
  | receivedAny {r : Outcome (Option SharedRawPacket)} {c' : SharedRawContext}
      {reads : List Read} (hr : r ≠ .panic) (h : c.Received (handed r) reads c')
      (hbounded : c.Bounded → c'.Bounded) :
      CallStep c .tryRecvAny { outcome := r.map .packet, packets := handed r } c'
        (reads.map Event.ofRead)
  | receivedBatch {maxPackets : Nat} {r : Outcome Nat} {packets : List SharedRawPacket}
      {c' : SharedRawContext} {reads : List Read} (hr : r ≠ .panic)
      (h : c.Received packets reads c') (hbounded : c.Bounded → c'.Bounded)
      (hle : packets.length ≤ maxPackets)
      (hcount : ∀ count, r = .ok count → count = packets.length) :
      CallStep c (.tryRecvBatchInto maxPackets)
        { outcome := r.map .received, packets := packets } c' (reads.map Event.ofRead)

theorem step_cases (os : OperatingSystem W) (operation : Operation) {s : System W}
    (hinv : s.context.Invariant) :
    CallStep s.context operation (step os operation s).1 (step os operation s).2.context
      (step os operation s).2.events := by
  cases operation with
  | addSubscription config =>
    simp only [step]
    cases h : addSubscription os config { s with events := [] } with
    | mk r s' =>
      obtain ⟨hstep, hevents⟩ := addSubscription_cases h
      simp only [hevents]
      exact .added hstep
  | joinSubscription id =>
    simp only [step]
    cases h : joinSubscription os id { s with events := [] } with
    | mk r s' => exact .joined (joinSubscription_cases (s := { s with events := [] }) hinv rfl h)
  | leaveSubscription id =>
    simp only [step]
    cases h : leaveSubscription os id { s with events := [] } with
    | mk r s' => exact .left (leaveSubscription_cases (s := { s with events := [] }) hinv rfl h)
  | removeSubscription id =>
    simp only [step]
    cases h : removeSubscription os id { s with events := [] } with
    | mk r s' => exact .removed (removeSubscription_cases (s := { s with events := [] }) hinv rfl h)
  | tryRecvAny =>
    simp only [step]
    cases h : tryRecvAny os { s with events := [] } with
    | mk r s' =>
      obtain ⟨hr, reads, hstep⟩ :=
        tryRecvAny_cases (s := { s with events := [] }) hinv h
      have hcall := CallStep.receivedAny hr hstep.received hstep.bounded
      have hevents := hstep.events
      rw [List.nil_append] at hevents
      rw [← hevents] at hcall
      match r, hr with
      | .ok none, _ => exact hcall
      | .ok (some packet), _ => exact hcall
      | .err e, _ => exact hcall
  | tryRecvBatchInto maxPackets =>
    simp only [step]
    cases h : tryRecvBatchInto os [] maxPackets { s with events := [] } with
    | mk r rest =>
      obtain ⟨packets, s'⟩ := rest
      obtain ⟨hr, handed, reads, hpackets, hstep, hle, hcount⟩ :=
        tryRecvBatchInto_cases (s := { s with events := [] }) hinv h
      rw [List.nil_append] at hpackets
      rw [Nat.zero_add] at hle hcount
      subst hpackets
      have hcall := CallStep.receivedBatch hr hstep.received hstep.bounded hle hcount
      have hevents := hstep.events
      rw [List.nil_append] at hevents
      rwa [← hevents] at hcall

def Fresh (operation : Operation) (c : SharedRawContext) : Prop :=
  ∀ config, operation = .addSubscription config →
    c.subscriptions.lookup ⟨c.nextSubscriptionId⟩ = none

section CallStep

variable {c c' : SharedRawContext} {operation : Operation} {response : Response}
  {events : List Event}

theorem CallStep.invariant (h : CallStep c operation response c' events) (hinv : c.Invariant)
    (hfresh : Fresh operation c) : c'.Invariant := by
  cases h with
  | added h =>
    cases h with
    | refused => exact hinv
    | added hvalid hroom href => exact hinv.added (hfresh _ rfl) hvalid href
  | @joined id r _ _ h =>
    match r, h with
    | .err e, h =>
      rw [h.context_of_err]
      exact hinv
    | .ok (), h =>
      obtain ⟨subscription, capture, captureOrder, hl, hbound, hready, rfl⟩ := h.ready
      exact hinv.joined hl hbound hready
  | left h => exact h.invariant hinv
  | removed h => exact h.invariant hinv
  | receivedAny _ h => exact h.invariant hinv
  | receivedBatch _ h => exact h.invariant hinv

theorem CallStep.idsUpTo (h : CallStep c operation response c' events) {n : Nat}
    (hids : c.IdsUpTo n) (hn : n + adds [operation] < 2 ^ 64) :
    c'.IdsUpTo (n + adds [operation]) := by
  cases h with
  | added h =>
    cases h with
    | refused => exact hids.mono (Nat.le_add_right _ _)
    | added hvalid hroom href => exact hids.added hn
  | @joined id r _ _ h =>
    match r, h with
    | .err e, h =>
      rw [h.context_of_err]
      exact hids
    | .ok (), h =>
      obtain ⟨subscription, capture, captureOrder, hl, hbound, hready, rfl⟩ := h.ready
      exact hids.joined hl
  | left h => exact h.idsUpTo hids
  | removed h => exact h.idsUpTo hids
  | receivedAny _ h => exact h.idsUpTo hids
  | receivedBatch _ h => exact h.idsUpTo hids

theorem Outcome.map_ne_panic {α β : Type} {f : α → β} {r : Outcome α} (h : r ≠ .panic) :
    r.map f ≠ .panic := by
  cases r with
  | ok value => exact nofun
  | err error => exact nofun
  | panic => exact absurd rfl h

theorem CallStep.noPanic (h : CallStep c operation response c' events) :
    response.outcome ≠ .panic := by
  cases h with
  | added h => cases h <;> exact nofun
  | joined h => cases h <;> exact nofun
  | left h => cases h <;> exact nofun
  | removed h =>
    cases h with
    | missing => exact nofun
    | leaveFailed => exact nofun
    | removedBound => exact nofun
    | leftRemoved => exact nofun
  | receivedAny hr => exact Outcome.map_ne_panic hr
  | receivedBatch hr => exact Outcome.map_ne_panic hr

end CallStep

/-! ## Runs -/

structure Call where
  before : SharedRawContext
  operation : Operation
  response : Response
  events : List Event
  after : SharedRawContext

structure Call.Sound (call : Call) : Prop where
  invariant : call.before.Invariant
  fresh : Fresh call.operation call.before
  step : CallStep call.before call.operation call.response call.after call.events

def calls (os : OperatingSystem W) : List Operation → System W → List Call
  | [], _ => []
  | operation :: operations, s =>
    { before := s.context
      operation := operation
      response := (step os operation s).1
      events := (step os operation s).2.events
      after := (step os operation s).2.context } :: calls os operations (step os operation s).2

theorem adds_cons (operation : Operation) (operations : List Operation) :
    adds (operation :: operations) = adds [operation] + adds operations := by
  rw [adds, adds, adds, ← List.countP_append]
  rfl

theorem IdsUpTo.fresh_operation {c : SharedRawContext} {n : Nat} (h : c.IdsUpTo n)
    (operation : Operation) (hn : n + adds [operation] < 2 ^ 64) : Fresh operation c := by
  intro config heq
  subst heq
  exact h.fresh hn

/-- The run rule.  A relation between a value folded over the calls and the context
that holds at the start and that every sound call preserves holds at the end, and
what it implies about each call holds of every call. -/
theorem fold_calls (os : OperatingSystem W) {γ : Type} (observe : γ → Call → γ)
    {P : γ → SharedRawContext → Prop}
    {Q : Call → Prop}
    (hstep : ∀ g call, call.Sound → P g call.before → P (observe g call) call.after ∧ Q call)
    {operations : List Operation} {s : System W} {n : Nat} {g : γ}
    (hinv : s.context.Invariant) (hids : s.context.IdsUpTo n)
    (hn : n + adds operations < 2 ^ 64) (h : P g s.context) :
    P ((calls os operations s).foldl observe g) (run os operations s).context ∧
      (run os operations s).context.Invariant ∧ ∀ call ∈ calls os operations s, Q call := by
  induction operations generalizing s n g with
  | nil => exact ⟨h, hinv, fun call hcall => nomatch hcall⟩
  | cons operation operations ih =>
    rw [adds_cons] at hn
    have hcall := step_cases os operation hinv
    have hfresh := IdsUpTo.fresh_operation hids operation (by omega)
    have hids' := hcall.idsUpTo hids (by omega)
    obtain ⟨hafter, hq⟩ := hstep g
      { before := s.context
        operation := operation
        response := (step os operation s).1
        events := (step os operation s).2.events
        after := (step os operation s).2.context } ⟨hinv, hfresh, hcall⟩ h
    obtain ⟨hP, hinv', hQ⟩ := ih (hcall.invariant hinv hfresh) hids' (by omega) hafter
    refine ⟨hP, hinv', fun call hmem => ?_⟩
    rcases List.mem_cons.mp hmem with rfl | hmem
    · exact hq
    · exact hQ call hmem

/-- The run rule from a new context. -/
theorem fold_calls_initial (os : OperatingSystem W) {γ : Type} (observe : γ → Call → γ)
    {P : γ → SharedRawContext → Prop} {Q : Call → Prop}
    (hstep : ∀ g call, call.Sound → P g call.before → P (observe g call) call.after ∧ Q call)
    {operations : List Operation} {s : System W} {g : γ} (hinitial : Initial s)
    (hn : adds operations < 2 ^ 64) (h : P g s.context) :
    P ((calls os operations s).foldl observe g) (run os operations s).context ∧
      (run os operations s).context.Invariant ∧ ∀ call ∈ calls os operations s, Q call := by
  obtain ⟨limits, hlimits⟩ := hinitial
  exact fold_calls os observe hstep (invariant_withLimits hlimits) (idsUpTo_withLimits hlimits)
    (by omega) h

theorem Reachable.invariant {s : System W} (h : Reachable os s) : s.context.Invariant := by
  obtain ⟨start, operations, hinitial, hn, rfl⟩ := h
  exact (fold_calls_initial os (P := fun _ _ => True) (Q := fun _ => True) (g := ()) (fun _ _ => ())
    (fun _ _ _ _ => ⟨trivial, trivial⟩) hinitial hn trivial).2.1

theorem CallStep.bounded {c c' : SharedRawContext} {operation : Operation} {response : Response}
    {events : List Event} (h : CallStep c operation response c' events) (hb : c.Bounded) :
    c'.Bounded := by
  cases h with
  | added h =>
    cases h with
    | refused => exact hb
    | added => exact hb
  | @joined id r _ _ h =>
    match r, h with
    | .err e, h =>
      rw [h.context_of_err]
      exact hb
    | .ok (), h =>
      obtain ⟨subscription, capture, captureOrder, -, -, -, rfl⟩ := h.ready
      exact hb
  | left h => exact h.bounded hb
  | removed h =>
    cases h with
    | missing => exact hb
    | leaveFailed hleave => exact hleave.bounded hb
    | removedBound => exact hb
    | leftRemoved _ _ hleave => exact hleave.bounded hb
  | receivedAny _ _ hbounded => exact hbounded hb
  | receivedBatch _ _ hbounded => exact hbounded hb

/-! ## A run with two captures -/

/-- `ff02::1`. -/
def allNodes : Ipv6Addr := ⟨#v[0xff, 0x02, 0, 0, 0, 0, 0, 0, 0, 0, 0, 0, 0, 0, 0, 1]⟩

/-- A datagram from `fe80::2` to `ff02::1` without a payload. -/
def emptyDatagram : List UInt8 :=
  [0x60, 0, 0, 0, 0, 0, 59, 1] ++
    [0xfe, 0x80, 0, 0, 0, 0, 0, 0, 0, 0, 0, 0, 0, 0, 0, 2] ++ allNodes.octets.toList

def emptyCaptured : RawCapturedDatagram :=
  { datagram := emptyDatagram
    sourceIp := .v6 ⟨#v[0xfe, 0x80, 0, 0, 0, 0, 0, 0, 0, 0, 0, 0, 0, 0, 0, 2]⟩
    group := .v6 allNodes
    ipProtocol := 59
    ingressInterfaceIndex := none }

def allNodesOn (interfaceIndex : UInt32) : RawSubscriptionConfig :=
  { group := .v6 allNodes
    source := .any
    interface := none
    interfaceIndex := some interfaceIndex }

def flooded : OperatingSystem Fd := .granting (.received emptyDatagram 0)

/-- A context with a joined subscription on each of two interfaces. -/
def twoCaptures : System Fd :=
  run flooded
    [.addSubscription (allNodesOn 1), .addSubscription (allNodesOn 2), .joinSubscription ⟨1⟩,
      .joinSubscription ⟨2⟩]
    (.new 3)

def captureOn (interfaceIndex : UInt32) : RawSharedCaptureKey :=
  { family := .ipv6, interfaceIndex := interfaceIndex }

theorem twoCaptures_reachable : Reachable flooded twoCaptures :=
  ⟨.new 3, _, initial_new 3, by decide, rfl⟩

end System

end McrxCore
