import McrxCore.Context.Refinement
import McrxCore.Roster.Fairness

/-!
# Scans and answers

What the receive scans of a call have to do with its response, in both contexts.
-/

namespace McrxCore

section Answers

variable {τ : Type}

/-- The receive answers with what the scan found: a packet that the member at its index
read, nothing, or an error. -/
inductive Sweep.Answers (reads : Nat → τ → Prop) (sweep : Sweep) : Outcome (Option τ) → Prop
  | packet {index : Nat} {packet : τ} (hreturns : sweep.Returns index)
    (hreads : reads index packet) : Answers reads sweep (.ok (some packet))
  | nothing (hnothing : sweep.outcome = .ok none) : Answers reads sweep (.ok none)
  | failed {e : McrxError} (hfailed : sweep.outcome = .err e) : Answers reads sweep (.err e)

def Gathers (reads : Nat → τ → Prop) (sweeps : List Sweep) (packets : List τ) : Prop :=
  List.Forall₂ (fun sweep packet => sweep.Answers reads (.ok (some packet))) sweeps packets

/-- A batch of at most `limit` packets: one scan for each packet and, below the limit, one
more that ends the batch with nothing or an error. -/
inductive BatchAnswers (reads : Nat → τ → Prop) (limit : Nat) :
    List Sweep → Outcome Nat → List τ → Prop
  | full {sweeps : List Sweep} {packets : List τ} (hgathers : Gathers reads sweeps packets)
    (hlimit : packets.length = limit) : BatchAnswers reads limit sweeps (.ok limit) packets
  | drained {sweeps : List Sweep} {packets : List τ} {last : Sweep}
    (hgathers : Gathers reads sweeps packets) (hlimit : packets.length < limit)
    (hlast : last.Answers reads (.ok none)) :
    BatchAnswers reads limit (sweeps ++ [last]) (.ok packets.length) packets
  | failed {sweeps : List Sweep} {packets : List τ} {last : Sweep} {e : McrxError}
    (hgathers : Gathers reads sweeps packets) (hlimit : packets.length < limit)
    (hlast : last.Answers reads (.err e)) :
    BatchAnswers reads limit (sweeps ++ [last]) (.err e) packets

variable {reads : Nat → τ → Prop} {limit : Nat}

theorem BatchAnswers.cons {sweep : Sweep} {packet : τ} {sweeps : List Sweep}
    {packets : List τ} {answer : Outcome Nat} (hfirst : sweep.Answers reads (.ok (some packet)))
    (h : BatchAnswers reads limit sweeps answer packets) :
    BatchAnswers reads (limit + 1) (sweep :: sweeps) (answer.map (· + 1)) (packet :: packets) := by
  cases h with
  | full hgathers hlimit =>
    exact .full (.cons hfirst hgathers) (congrArg (· + 1) hlimit)
  | @drained sweeps packets last hgathers hlimit hlast =>
    exact @BatchAnswers.drained _ _ _ (sweep :: sweeps) _ _ (.cons hfirst hgathers)
      (Nat.succ_lt_succ hlimit) hlast
  | @failed sweeps packets last e hgathers hlimit hlast =>
    exact @BatchAnswers.failed _ _ _ (sweep :: sweeps) _ _ _ (.cons hfirst hgathers)
      (Nat.succ_lt_succ hlimit) hlast

theorem Sweep.Answers.err {sweep : Sweep} {e : McrxError} (h : sweep.Answers reads (.err e)) :
    sweep.outcome = .err e := by
  cases h with
  | failed hfailed => exact hfailed

theorem BatchAnswers.err {sweeps : List Sweep} {packets : List τ} {e : McrxError}
    (h : BatchAnswers reads limit sweeps (.err e) packets) :
    ∃ sweep ∈ sweeps, sweep.outcome = .err e := by
  cases h with
  | failed hgathers hlimit hlast =>
    exact ⟨_, List.mem_append_right _ List.mem_cons_self, hlast.err⟩

/-- A scan answers with its outcome. -/
theorem Sweep.answers_of {joined : List Nat}
    {outcome : Option (Except McrxError (Option (Nat × τ)))}
    {polls : List (Nat × Except McrxError (Option τ))} (hpanic : outcome ≠ none)
    (hreads : ∀ index packet, outcome = some (.ok (some (index, packet))) → reads index packet) :
    (Sweep.of joined outcome polls).Answers reads (scanResult outcome) := by
  cases outcome with
  | none => exact absurd rfl hpanic
  | some result =>
    cases result with
    | error e => exact .failed rfl
    | ok found =>
      cases found with
      | none => exact .nothing rfl
      | some served => exact .packet rfl (hreads served.1 served.2 rfl)

end Answers

/-- A poll of a subscription that shows as the member at the index gave the packet. -/
def ReadBy {ι κ ω τ : Type} (recv : ι → ω → Except McrxError (Option τ) × ι × ω)
    (member : ι → Member κ) (members : List (Member κ)) (index : Nat) (packet : τ) : Prop :=
  ∃ entry w, members[index]? = some (member entry) ∧ (recv entry w).1 = .ok (some packet)

/-! ## The context -/

namespace Context

variable {W T : Type}

/-- One more scan, whose outcome the receive returns. -/
def AnswersOnce (reads : Nat → T → Prop) (s s' : System W) (outcome : Outcome (Option T)) : Prop :=
  ∃ sweep, s'.sweeps = s.sweeps ++ [sweep] ∧ sweep.Answers reads outcome

theorem fst_recvAndRecord
    (recv : Subscription → W → Except McrxError (Option T) × Subscription × W)
    (packetLen : T → Nat) (subscription : Subscription) (state : ContextMetricsInner × W) :
    (recvAndRecord recv packetLen subscription state).1 = (recv subscription state.2).1 := by
  simp only [recvAndRecord]
  split <;> next heq => rw [heq]

theorem tryRecvFromJoined_answers
    {recv : Subscription → W → Except McrxError (Option T) × Subscription × W}
    (hrecv : KeepsMember recv) {packetLen : T → Nat} {s s' : System W}
    {outcome : Outcome (Option T)} (hrange : s.context.roster.InRange)
    (h : tryRecvFromJoined recv packetLen s = (outcome, s')) :
    AnswersOnce (ReadBy recv Subscription.member s.context.roster.members) s s' outcome := by
  have hpanic := (tryRecvFromJoined_receives hrecv hrange h).1
  cases h
  refine ⟨_, rfl, Sweep.answers_of (fun hnone => hpanic ?_) fun index packet hserved => ?_⟩
  · show scanResult _ = _
    rw [hnone]
    rfl
  · obtain ⟨entry, state, hentry, hread⟩ := RoundRobin.scanFrom_read
      (recvAndRecord_member hrecv packetLen) hserved
    exact ⟨entry, state.2, hentry, (fst_recvAndRecord recv packetLen entry state).symm.trans hread⟩

theorem tryRecvAny_answers {os : UdpSystem W} {s s' : System W}
    {outcome : Outcome (Option Packet)} (hrange : s.context.roster.InRange)
    (h : tryRecvAny os s = (outcome, s')) :
    AnswersOnce (ReadBy (Subscription.tryRecv os) Subscription.member s.context.roster.members)
      s s' outcome :=
  tryRecvFromJoined_answers (keepsMember_receiveWith _ _) hrange h

theorem tryRecvAnyWithMetadata_answers {os : UdpSystem W} {s s' : System W}
    {outcome : Outcome (Option PacketWithMetadata)} (hrange : s.context.roster.InRange)
    (h : tryRecvAnyWithMetadata os s = (outcome, s')) :
    AnswersOnce (ReadBy (Subscription.tryRecvWithMetadata os) Subscription.member
      s.context.roster.members) s s' outcome :=
  tryRecvFromJoined_answers (keepsMember_receiveWith _ _) hrange h

section Batch

variable {reads : List (Member SubscriptionConfig) → Nat → T → Prop}
  {recvAny : System W → Outcome (Option T) × System W}
  (hreceives : ∀ s s' outcome, s.context.roster.InRange → recvAny s = (outcome, s') →
    outcome ≠ .panic ∧ Receives s s')
  (hanswers : ∀ s s' outcome, s.context.roster.InRange → recvAny s = (outcome, s') →
    AnswersOnce (reads s.context.roster.members) s s' outcome)

include hreceives hanswers

/-- The loop makes one scan in each round, by induction on the rounds left. -/
theorem batchLoop_answers {maxPackets received : Nat} {out out' : List T} {s s' : System W}
    {outcome : Outcome Nat} (hrange : s.context.roster.InRange)
    (h : batchLoop recvAny maxPackets received out s = (outcome, out', s')) :
    ∃ sweeps packets answer, s'.sweeps = s.sweeps ++ sweeps ∧ out' = out ++ packets ∧
      outcome = answer.map (· + received) ∧
      BatchAnswers (reads s.context.roster.members) maxPackets sweeps answer packets := by
  induction maxPackets generalizing received out s with
  | zero =>
    cases h
    refine ⟨[], [], .ok 0, (List.append_nil _).symm, (List.append_nil _).symm, ?_, .full .nil rfl⟩
    exact congrArg Outcome.ok (Nat.zero_add received).symm
  | succ maxPackets ih =>
    rw [batchLoop] at h
    cases hone : recvAny s with
    | mk first s₁ =>
      obtain ⟨hpanic, hfirst⟩ := hreceives s s₁ first hrange hone
      obtain ⟨sweep, hsweep, hanswer⟩ := hanswers s s₁ first hrange hone
      rw [hone] at h
      cases hanswer with
      | @packet index packet hreturns hreads =>
        obtain ⟨sweeps, packets, answer, hsweeps, hout, houtcome, hrest⟩ :=
          ih (hfirst.inRange hrange) h
        rw [hfirst.members] at hrest
        refine ⟨sweep :: sweeps, packet :: packets, answer.map (· + 1), ?_, ?_, ?_,
          .cons (.packet hreturns hreads) hrest⟩
        · rw [hsweeps, hsweep, List.append_assoc]
          rfl
        · rw [hout, List.append_assoc]
          rfl
        · rw [houtcome, Outcome.map_map]
          congr 1
          funext count
          show count + (received + 1) = count + 1 + received
          omega
      | nothing hnothing =>
        cases h
        refine ⟨[sweep], [], .ok 0, hsweep, (List.append_nil _).symm, ?_,
          @BatchAnswers.drained _ _ _ [] [] _ .nil (Nat.succ_pos _) (.nothing hnothing)⟩
        exact congrArg Outcome.ok (Nat.zero_add received).symm
      | failed hfailed =>
        cases h
        exact ⟨[sweep], [], .err _, hsweep, (List.append_nil _).symm, rfl,
          @BatchAnswers.failed _ _ _ [] [] _ _ .nil (Nat.succ_pos _) (.failed hfailed)⟩

/-- A batch call makes one scan for each packet and, below the limit, one more. -/
theorem batchInto_answers (maxPackets : Nat) {s : System W} (hrange : s.context.roster.InRange)
    (hsweeps : s.sweeps = []) :
    let batch := batchInto recvAny maxPackets [] s
    BatchAnswers (reads s.context.roster.members) maxPackets batch.2.2.sweeps
      batch.1 batch.2.1 := by
  have hcount := receives_withMetrics s s.context.metrics.recordBatchCall
  rw [batchInto, batchIntoImpl]
  cases hloop : batchLoop recvAny maxPackets 0 []
      (withMetrics s s.context.metrics.recordBatchCall) with
  | mk result rest =>
    obtain ⟨out, s₁⟩ := rest
    obtain ⟨sweeps, packets, answer, hswept, hout, houtcome, hbatch⟩ :=
      batchLoop_answers hreceives hanswers (hcount.inRange hrange) hloop
    have hanswer : result = answer := by
      rw [houtcome]
      cases answer <;> rfl
    have hall : s₁.sweeps = sweeps := by
      rw [hswept]
      show s.sweeps ++ sweeps = sweeps
      rw [hsweeps, List.nil_append]
    rw [List.nil_append] at hout
    subst hout hanswer hall
    cases result with
    | ok received | err e | panic => exact hbatch

end Batch

/-! ### Every call -/

/-- What the scans of a call have to do with its response, for a call on `members`. -/
def Operation.Explained (os : UdpSystem W) (members : List (Member SubscriptionConfig))
    (sweeps : List Sweep) (response : Response) (operation : Operation) : Prop :=
  let plain := ReadBy (Subscription.tryRecv os) Subscription.member members
  let detailed := ReadBy (Subscription.tryRecvWithMetadata os) Subscription.member members
  match operation with
  | .tryRecvAny =>
    ∃ outcome sweep, response.outcome = outcome.map .packet ∧ sweeps = [sweep] ∧
      sweep.Answers plain outcome
  | .tryRecvAnyWithMetadata =>
    ∃ outcome sweep, response.outcome = outcome.map .packetWithMetadata ∧ sweeps = [sweep] ∧
      sweep.Answers detailed outcome
  | .tryRecvBatchInto maxPackets =>
    ∃ outcome, response.outcome = outcome.map .received ∧
      BatchAnswers plain maxPackets sweeps outcome response.packets
  | .tryRecvBatchWithMetadataInto maxPackets =>
    ∃ outcome, response.outcome = outcome.map .received ∧
      BatchAnswers detailed maxPackets sweeps outcome response.packetsWithMetadata
  | .tryRecvAllInto =>
    ∃ outcome, response.outcome = outcome.map .received ∧
      BatchAnswers plain MAX_DRAIN_PACKETS_PER_CALL sweeps outcome response.packets
  | .tryRecvAllWithMetadataInto =>
    ∃ outcome, response.outcome = outcome.map .received ∧
      BatchAnswers detailed MAX_DRAIN_PACKETS_PER_CALL sweeps outcome response.packetsWithMetadata
  | .addSubscription _ => sweeps = []
  | .addSubscriptionWithSocket _ _ => sweeps = []
  | .removeSubscription _ => sweeps = []
  | .takeSubscription _ => sweeps = []
  | .joinSubscription _ => sweeps = []
  | .leaveSubscription _ => sweeps = []

def Call.Explained (os : UdpSystem W) (call : Call W) : Prop :=
  call.action.Explained os call.before.context.roster.members call.after.sweeps call.response

section Step

variable (os : UdpSystem W) (limit : Nat) {s : System W} (hrange : s.context.roster.InRange)

include hrange

theorem plainBatch_answers :
    let batch := batchInto (tryRecvAny os) limit [] { s with sweeps := [] }
    BatchAnswers (ReadBy (Subscription.tryRecv os) Subscription.member s.context.roster.members)
      limit batch.2.2.sweeps batch.1 batch.2.1 :=
  @batchInto_answers _ _ (ReadBy (Subscription.tryRecv os) Subscription.member) (tryRecvAny os)
    (fun _ _ _ => tryRecvAny_receives) (fun _ _ _ => tryRecvAny_answers) limit
    { s with sweeps := [] } hrange rfl

theorem detailedBatch_answers :
    let batch := batchInto (tryRecvAnyWithMetadata os) limit [] { s with sweeps := [] }
    BatchAnswers
      (ReadBy (Subscription.tryRecvWithMetadata os) Subscription.member s.context.roster.members)
      limit batch.2.2.sweeps batch.1 batch.2.1 :=
  @batchInto_answers _ _ (ReadBy (Subscription.tryRecvWithMetadata os) Subscription.member)
    (tryRecvAnyWithMetadata os) (fun _ _ _ => tryRecvAnyWithMetadata_receives)
    (fun _ _ _ => tryRecvAnyWithMetadata_answers) limit { s with sweeps := [] } hrange rfl

theorem step_explained (operation : Operation) :
    operation.Explained os s.context.roster.members (step os operation s).2.sweeps
      (step os operation s).1 := by
  have hstep := step_roster os operation hrange
  cases operation with
  | addSubscription | addSubscriptionWithSocket | removeSubscription | takeSubscription
  | joinSubscription | leaveSubscription => exact hstep.sweeps_eq_nil (fun h => by cases h)
  | tryRecvAny =>
    obtain ⟨sweep, hsweeps, hanswers⟩ :=
      @tryRecvAny_answers W os { s with sweeps := [] } _ _ hrange rfl
    exact ⟨_, sweep, rfl, hsweeps, hanswers⟩
  | tryRecvAnyWithMetadata =>
    obtain ⟨sweep, hsweeps, hanswers⟩ :=
      @tryRecvAnyWithMetadata_answers W os { s with sweeps := [] } _ _ hrange rfl
    exact ⟨_, sweep, rfl, hsweeps, hanswers⟩
  | tryRecvBatchInto maxPackets => exact ⟨_, rfl, plainBatch_answers os maxPackets hrange⟩
  | tryRecvBatchWithMetadataInto maxPackets =>
    exact ⟨_, rfl, detailedBatch_answers os maxPackets hrange⟩
  | tryRecvAllInto => exact ⟨_, rfl, plainBatch_answers os MAX_DRAIN_PACKETS_PER_CALL hrange⟩
  | tryRecvAllWithMetadataInto =>
    exact ⟨_, rfl, detailedBatch_answers os MAX_DRAIN_PACKETS_PER_CALL hrange⟩

end Step

theorem calls_explained (os : UdpSystem W) (operations : List Operation) {s : System W}
    (hrange : s.context.roster.InRange) :
    ∀ call ∈ Journal.calls (step os) operations s, Call.Explained os call :=
  Journal.forall_calls (Q := fun s => s.context.roster.InRange) (fun operation _ hs =>
    ⟨step_explained os hs operation, (step_roster os operation hs).inRange hs⟩) operations hrange

end Context

/-! ## The raw context -/

namespace RawContext

variable {S W : Type}

/-- What the scans of a call have to do with its outcome, for a call on `members`. -/
def Operation.Explained (backend : RawBackend S W) (members : List (Member RawSubscriptionConfig))
    (sweeps : List Sweep) (answer : Outcome Answer) (operation : Operation) : Prop :=
  match operation with
  | .tryRecvAny =>
    ∃ outcome sweep, answer = outcome.map .packet ∧ sweeps = [sweep] ∧
      sweep.Answers (ReadBy (recv backend) RawSubscription.member members) outcome
  | .addSubscription _ => sweeps = []
  | .removeSubscription _ => sweeps = []
  | .joinSubscription _ => sweeps = []
  | .leaveSubscription _ => sweeps = []

def Call.Explained (backend : RawBackend S W) (call : Call S W) : Prop :=
  call.action.Explained backend call.before.context.roster.members call.after.sweeps call.response

variable (backend : RawBackend S W)

theorem tryRecvAny_answers {s : System S W} (hrange : s.context.roster.InRange)
    (hsweeps : s.sweeps = []) :
    ∃ sweep, (tryRecvAny backend s).2.sweeps = [sweep] ∧
      sweep.Answers (ReadBy (recv backend) RawSubscription.member s.context.roster.members)
        (tryRecvAny backend s).1 := by
  have hpanic := (@tryRecvAny_receives _ _ backend s _ _ hrange rfl).1
  refine ⟨_, congrArg (· ++ [_]) hsweeps, Sweep.answers_of (fun hnone => hpanic ?_)
    fun index packet hserved => ?_⟩
  · show scanResult _ = _
    rw [hnone]
    rfl
  · exact RoundRobin.scanFrom_read (fun _ _ => rfl) hserved

theorem step_explained (operation : Operation) {s : System S W}
    (hrange : s.context.roster.InRange) :
    operation.Explained backend s.context.roster.members (step backend operation s).2.sweeps
      (step backend operation s).1 := by
  have hstep := step_roster backend operation hrange
  cases operation with
  | addSubscription | removeSubscription | joinSubscription | leaveSubscription =>
    exact hstep.sweeps_eq_nil (fun h => by cases h)
  | tryRecvAny =>
    obtain ⟨sweep, hsweeps, hanswers⟩ :=
      tryRecvAny_answers backend (s := { s with sweeps := [] }) hrange rfl
    exact ⟨_, sweep, rfl, hsweeps, hanswers⟩

theorem calls_explained (operations : List Operation) {s : System S W}
    (hrange : s.context.roster.InRange) :
    ∀ call ∈ Journal.calls (step backend) operations s, Call.Explained backend call :=
  Journal.forall_calls (Q := fun s => s.context.roster.InRange) (fun operation _ hs =>
    ⟨step_explained backend operation hs, (step_roster backend operation hs).inRange hs⟩)
    operations hrange

end RawContext

end McrxCore
