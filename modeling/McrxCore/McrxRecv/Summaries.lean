import McrxCore.McrxRecv

/-!
# What the summaries count

The program has one joined subscription, so every turn of its loop finds a packet or
nothing.  The differences of its summaries add up to what was printed and to the turns that
found nothing, as long as the clock of the snapshots is not set back.
-/

namespace McrxCore

namespace McrxRecv

open Jsonl Metrics

variable {W Value : Type} {host : Host W Value}

/-! ## The context of the program -/

/-- The counters after so many packets and bytes, and so many turns that found nothing. -/
def tally (packets bytes idle : Nat) : ContextMetricsInner :=
  { ContextMetricsInner.default with
    subscriptionsAdded := { added := 1 }
    totalJoinCount := { added := 1 }
    totalPacketsReceived := { added := packets }
    totalBytesReceived := { added := bytes }
    totalWouldBlockCount := { added := idle } }

/-- The context has one subscription, which is joined, and these counters. -/
structure Serving (packets bytes idle : Nat) (c : Context) : Prop where
  alone : ∃ subscription, c.subscriptions = [subscription] ∧ subscription.isJoined = true
  cursor : c.nextRecvIndex = 0
  metrics : c.metrics = tally packets bytes idle

def payloadBytes (packets : List Packet) : Nat :=
  (packets.map fun packet => packet.payload.length).sum

theorem payloadBytes_append (first second : List Packet) :
    payloadBytes (first ++ second) = payloadBytes first + payloadBytes second := by
  rw [payloadBytes, List.map_append, List.sum_append]
  rfl

/-- The first subscription of a context has the first identifier. -/
theorem addSubscription_start {config : SubscriptionConfig} {w : W} {id : SubscriptionId}
    {system : Context.System W}
    (h : Context.addSubscription host.os config (Context.start w) = (.ok id, system)) :
    id = ⟨1⟩ ∧ ∃ socket,
      system.context = (Context.insertSubscription config socket Context.new).2 := by
  unfold Context.addSubscription Context.addWith at h
  split at h
  · cases h
  · split at h
    · cases h
    · split at h
      · cases h
      · next socket _ _ =>
        cases h
        exact ⟨rfl, socket, rfl⟩

theorem subscribe_serving {config : SubscriptionConfig} {w : W} {system : Context.System W}
    (h : subscribe host config w = .ok system) : Serving 0 0 0 system.context := by
  unfold subscribe at h
  split at h
  · cases h
  · cases h
  · next id added hadd =>
    obtain ⟨rfl, socket, hcontext⟩ := addSubscription_start hadd
    split at h
    · cases h
    · cases h
    · next joined hjoin =>
      cases h
      have hfind : (Context.insertSubscription config socket Context.new).2.subscriptions.find?
          (fun subscription => subscription.id == ⟨1⟩) =
            some (.fromReceiveSocket ⟨1⟩ config socket) := rfl
      have hbound : (Subscription.fromReceiveSocket ⟨1⟩ config socket).isJoined = false := rfl
      simp only [Context.joinSubscription, hcontext, hfind, hbound] at hjoin
      rw [if_neg Bool.false_ne_true] at hjoin
      split at hjoin
      · cases hjoin
      · rw [Subscription.markJoined_eq (by rw [hbound]; exact Bool.false_ne_true)] at hjoin
        cases hjoin
        exact ⟨⟨_, rfl, rfl⟩, rfl, rfl⟩

/-- A receive polls the subscription once. -/
theorem tryRecvAny_serving {packets bytes idle : Nat} {s s' : Context.System W}
    {outcome : Outcome (Option Packet)} (h : Serving packets bytes idle s.context)
    (hrecv : Context.tryRecvAny host.os s = (outcome, s')) :
    outcome ≠ .panic ∧ ∀ found, outcome = .ok found →
      Serving (packets + found.toList.length) (bytes + payloadBytes found.toList)
        (idle + if found.isNone then 1 else 0) s'.context := by
  obtain ⟨subscription, hsubscriptions, hjoined⟩ := h.alone
  have hprofile : ∀ w, (Subscription.tryRecv host.os subscription w).2.1.isJoined = true := by
    intro w
    unfold Subscription.tryRecv Subscription.receiveWith
    split
    · exact hjoined
    · split <;> exact hjoined
  have hpolled := hprofile s.world
  rcases hpoll : Subscription.tryRecv host.os subscription s.world with ⟨result, polled, w⟩
  rw [hpoll] at hpolled
  unfold Context.tryRecvAny Context.tryRecvFromJoined at hrecv
  have hready : (!subscription.isJoined) = false := by rw [hjoined]; rfl
  simp only [hsubscriptions, h.cursor, h.metrics, RoundRobin.scan, List.length_singleton,
    RoundRobin.scanFrom, List.getElem?_cons_zero, hready, Context.recvAndRecord, hpoll] at hrecv
  cases result with
  | error e =>
    obtain rfl : outcome = .err e := (congrArg Prod.fst hrecv).symm
    exact ⟨fun h => (by cases h), fun found h => (by cases h)⟩
  | ok item =>
    cases item with
    | none =>
      obtain rfl : outcome = .ok none := (congrArg Prod.fst hrecv).symm
      obtain rfl := congrArg Prod.snd hrecv
      refine ⟨fun h => (by cases h), fun found hfound => ?_⟩
      cases hfound
      exact ⟨⟨polled, rfl, hpolled⟩, rfl, rfl⟩
    | some packet =>
      obtain rfl : outcome = .ok (some packet) := (congrArg Prod.fst hrecv).symm
      obtain rfl := congrArg Prod.snd hrecv
      refine ⟨fun h => (by cases h), fun found hfound => ?_⟩
      cases hfound
      exact ⟨⟨polled, rfl, hpolled⟩, rfl, rfl⟩

/-! ## Differences -/

def tallied (packets bytes idle : Nat) : DeltaCounter → Nat
  | .total .packetsReceived => packets
  | .total .bytesReceived => bytes
  | .total .wouldBlockCount => idle
  | .total .joinCount => 1
  | _ => 0

theorem metricsSnapshot_tallied {packets bytes idle : Nat} {c : Context}
    (h : Serving packets bytes idle c) (hpackets : packets < 2 ^ 64) (hbytes : bytes < 2 ^ 64)
    (hidle : idle < 2 ^ 64) (capturedAt : SystemTime) (k : DeltaCounter) :
    (metricsSnapshot c capturedAt).counter k = tallied packets bytes idle k := by
  rcases k with k | _ | _
  · cases k with
    | packetsReceived =>
      show c.metrics.totalPacketsReceived.load = packets
      rw [h.metrics]
      exact Nat.mod_eq_of_lt hpackets
    | bytesReceived =>
      show c.metrics.totalBytesReceived.load = bytes
      rw [h.metrics]
      exact Nat.mod_eq_of_lt hbytes
    | wouldBlockCount =>
      show c.metrics.totalWouldBlockCount.load = idle
      rw [h.metrics]
      exact Nat.mod_eq_of_lt hidle
    | receiveErrors =>
      show c.metrics.totalReceiveErrors.load = 0
      rw [h.metrics]
      rfl
    | joinCount =>
      show c.metrics.totalJoinCount.load = 1
      rw [h.metrics]
      rfl
    | leaveCount =>
      show c.metrics.totalLeaveCount.load = 0
      rw [h.metrics]
      rfl
  · show c.metrics.batchCalls.load = 0
    rw [h.metrics]
    rfl
  · show c.metrics.batchPacketsReceived.load = 0
    rw [h.metrics]
    rfl

/-- A sample of later counters has their differences, unless the clock was set back. -/
theorem sample_tallied {sampler : ContextMetricsSampler}
    {baseline current : Metrics.ContextMetricsSnapshot}
    {packets bytes idle packets' bytes' idle' : Nat}
    (hprevious : sampler.previous = some baseline)
    (hbaseline : ∀ k, baseline.counter k = tallied packets bytes idle k)
    (hcurrent : ∀ k, current.counter k = tallied packets' bytes' idle' k)
    (hpackets : packets ≤ packets') (hbytes : bytes ≤ bytes') (hidle : idle ≤ idle') :
    ((sampler.sample current).1 = none → current.capturedAt < baseline.capturedAt) ∧
      ∀ delta, (sampler.sample current).1 = some delta →
        delta.packetsReceived + packets = packets' ∧ delta.bytesReceived + bytes = bytes' ∧
          delta.wouldBlockCount + idle = idle' := by
  have hsample : (sampler.sample current).1 = current.deltaSince baseline := by
    simp only [ContextMetricsSampler.sample, hprevious]
  rw [hsample]
  constructor
  · intro hnone
    rcases (context_differences.none_iff current baseline).mp hnone with hlt | ⟨k, hk⟩
    · exact hlt
    · rw [hcurrent, hbaseline] at hk
      -- No counter is less than before.
      rcases k with k | _ | _
      · cases k <;> simp only [tallied] at hk <;> omega
      · simp only [tallied] at hk
        omega
      · simp only [tallied] at hk
        omega
  · intro delta hdelta
    have hadd : ∀ k, delta.counter k + tallied packets bytes idle k =
        tallied packets' bytes' idle' k := by
      intro k
      rw [← hbaseline, ← hcurrent]
      exact context_differences.amount_add current baseline delta hdelta k
    exact ⟨hadd (.total .packetsReceived), hadd (.total .bytesReceived),
      hadd (.total .wouldBlockCount)⟩

/-! ## One turn -/

/-- The sum of a counter over the summaries that the program reported. -/
def reported (amount : ContextMetricsDelta → Nat)
    (summaries : List (Metrics.ContextMetricsSnapshot × ContextMetricsDelta)) : Nat :=
  (summaries.map fun summary => amount summary.2).sum

/-- The summaries report no more than these counts, and all of them as long as the clock is
not set back. -/
structure Counted (clock : Prop) (packets bytes idle : Nat)
    (summaries : List (Metrics.ContextMetricsSnapshot × ContextMetricsDelta)) : Prop where
  packets_le : reported ContextMetricsDelta.packetsReceived summaries ≤ packets
  bytes_le : reported ContextMetricsDelta.bytesReceived summaries ≤ bytes
  idle_le : reported ContextMetricsDelta.wouldBlockCount summaries ≤ idle
  all : clock → packets ≤ reported ContextMetricsDelta.packetsReceived summaries ∧
    bytes ≤ reported ContextMetricsDelta.bytesReceived summaries ∧
    idle ≤ reported ContextMetricsDelta.wouldBlockCount summaries

/-- The program after so many turns, `idle` of which found nothing. -/
structure Running (clock : Prop) (turns idle : Nat) (baseline : Metrics.ContextMetricsSnapshot)
    (r : Receiver W) : Prop where
  serving : Serving r.printed.length (payloadBytes r.printed) idle r.system.context
  turns : r.printed.length + idle = turns
  previous : r.metricsSampler.previous = some baseline
  shown : ∃ packets bytes idle', packets ≤ r.printed.length ∧ bytes ≤ payloadBytes r.printed ∧
    idle' ≤ idle ∧ (∀ k, baseline.counter k = tallied packets bytes idle' k) ∧
    Counted clock packets bytes idle' r.summaries

theorem reported_append (amount : ContextMetricsDelta → Nat)
    (first second : List (Metrics.ContextMetricsSnapshot × ContextMetricsDelta)) :
    reported amount (first ++ second) = reported amount first + reported amount second := by
  rw [reported, List.map_append, List.sum_append]
  rfl

/-- A summary is reported, or ends the program. -/
theorem report_cases (snapshot : Metrics.ContextMetricsSnapshot) (delta : ContextMetricsDelta)
    (r : Receiver W) :
    (report host snapshot delta r).2.printed = r.printed ∧
      (report host snapshot delta r).2.system = r.system ∧
      (report host snapshot delta r).2.metricsSampler = r.metricsSampler ∧
      ((∃ exit, (report host snapshot delta r).1 = .error exit) ∧
          (report host snapshot delta r).2.summaries = r.summaries ∨
        (report host snapshot delta r).1 = .ok () ∧
          (report host snapshot delta r).2.summaries = r.summaries ++ [(snapshot, delta)]) := by
  cases hnetwork : r.network with
  | none =>
    simp only [report, hnetwork]
    exact ⟨trivial, trivial, trivial, .inr ⟨trivial, trivial⟩⟩
  | some file =>
    rcases hwrite : writeMetricsSummaryJsonl host snapshot delta file with ⟨written, file'⟩
    cases written with
    | error e =>
      simp only [report, hnetwork, hwrite]
      exact ⟨trivial, trivial, trivial, .inl ⟨⟨_, rfl⟩, trivial⟩⟩
    | ok _ =>
      simp only [report, hnetwork, hwrite]
      exact ⟨trivial, trivial, trivial, .inr ⟨trivial, trivial⟩⟩

/-- A turn that is due samples the counters, and reports the difference where there is one
unless the write of the summary ends the program. -/
theorem summarize_cases (interval : Nat) (t : Turn) (r : Receiver W) :
    (summarize host interval t r).2.printed = r.printed ∧
      (summarize host interval t r).2.system = r.system ∧
      ((∃ exit, (summarize host interval t r).1 = .error exit) ∧
          (summarize host interval t r).2.summaries = r.summaries ∨
        (summarize host interval t r).2.metricsSampler =
            (r.metricsSampler.sample (metricsSnapshot r.system.context t.capturedAt)).2 ∧
          (summarize host interval t r).2.summaries = r.summaries ++
            ((r.metricsSampler.sample (metricsSnapshot r.system.context t.capturedAt)).1.map
              (metricsSnapshot r.system.context t.capturedAt, ·)).toList) := by
  rcases hsample : r.metricsSampler.sample (metricsSnapshot r.system.context t.capturedAt) with
    ⟨delta, sampler⟩
  cases delta with
  | none =>
    cases hhardware : t.hardware with
    | error message =>
      simp only [summarize, hsample, hhardware]
      exact ⟨trivial, trivial, .inr ⟨trivial, (List.append_nil _).symm⟩⟩
    | ok _ =>
      simp only [summarize, hsample, hhardware]
      exact ⟨trivial, trivial, .inr ⟨trivial, (List.append_nil _).symm⟩⟩
  | some delta =>
    obtain ⟨hprinted, hsystem, hsampler, hreported⟩ := @report_cases _ _ host
      (metricsSnapshot r.system.context t.capturedAt) delta { r with metricsSampler := sampler }
    rcases hreport : report host (metricsSnapshot r.system.context t.capturedAt) delta
      { r with metricsSampler := sampler } with ⟨written, r'⟩
    rw [hreport] at hprinted hsystem hsampler hreported
    cases written with
    | error exit =>
      simp only [summarize, hsample, hreport]
      refine ⟨hprinted, hsystem, .inl ⟨⟨exit, rfl⟩, ?_⟩⟩
      rcases hreported with ⟨-, hsame⟩ | ⟨hok, -⟩
      · exact hsame
      · cases hok
    | ok _ =>
      have hsummaries : r'.summaries =
          r.summaries ++ [(metricsSnapshot r.system.context t.capturedAt, delta)] := by
        rcases hreported with ⟨⟨exit, herror⟩, -⟩ | ⟨-, hsummaries⟩
        · cases herror
        · exact hsummaries
      cases hhardware : t.hardware with
      | error message =>
        simp only [summarize, hsample, hreport, hhardware]
        exact ⟨hprinted, hsystem, .inr ⟨hsampler, hsummaries⟩⟩
      | ok _ =>
        simp only [summarize, hsample, hreport, hhardware]
        exact ⟨hprinted, hsystem, .inr ⟨hsampler, hsummaries⟩⟩

/-- What a turn does: it fails to receive, or receives without a summary, or takes one. -/
theorem turn_cases (interval : Option Nat) (t : Turn) (r : Receiver W) :
    (turn host interval t r).2.printed = r.printed ∧
        (turn host interval t r).2.summaries = r.summaries ∧
        (∃ exit, (turn host interval t r).1 = .error exit) ∨
      ∃ found system, Context.tryRecvAny host.os r.system = (.ok found, system) ∧
        ((turn host interval t r).2 =
            { r with system := system, printed := r.printed ++ found.toList } ∨
          ∃ length, turn host interval t r = summarize host length t
            { r with system := system, printed := r.printed ++ found.toList }) := by
  rcases hrecv : Context.tryRecvAny host.os r.system with ⟨outcome, system⟩
  cases outcome with
  | err e =>
    simp only [turn, hrecv]
    exact .inl ⟨trivial, trivial, _, rfl⟩
  | panic =>
    simp only [turn, hrecv]
    exact .inl ⟨trivial, trivial, _, rfl⟩
  | ok found =>
    refine .inr ⟨found, system, rfl, ?_⟩
    simp only [turn, hrecv]
    cases interval with
    | none => exact .inl rfl
    | some interval =>
      cases r.nextSummaryAt with
      | none => exact .inl rfl
      | some deadline =>
        by_cases hdue : deadline ≤ t.now
        · simp only [if_pos hdue]
          exact .inr ⟨interval, rfl⟩
        · simp only [if_neg hdue]
          exact .inl trivial

structure Complete (turns : Nat) (r : Receiver W) : Prop where
  packets : reported ContextMetricsDelta.packetsReceived r.summaries = r.printed.length
  bytes : reported ContextMetricsDelta.bytesReceived r.summaries = payloadBytes r.printed
  turns : reported ContextMetricsDelta.packetsReceived r.summaries +
    reported ContextMetricsDelta.wouldBlockCount r.summaries = turns

section Turn

variable {clock : Prop} {turns idle : Nat} {baseline : Metrics.ContextMetricsSnapshot}
  {interval : Option Nat} {t : Turn} {r : Receiver W}

/-- The counts never grow by less than what was printed. -/
theorem Running.received (h : Running clock turns idle baseline r) {found : Option Packet}
    {system : Context.System W} (hrecv : Context.tryRecvAny host.os r.system =
      (.ok found, system)) :
    Running clock (turns + 1) (idle + if found.isNone then 1 else 0) baseline
      { r with system := system, printed := r.printed ++ found.toList } := by
  obtain ⟨-, hserving⟩ := tryRecvAny_serving h.serving hrecv
  obtain ⟨packets, bytes, idle', hpackets, hbytes, hidle, hbaseline, hcounted⟩ := h.shown
  have hturns := h.turns
  refine ⟨?_, ?_, h.previous, packets, bytes, idle', ?_, ?_, ?_, hbaseline, hcounted⟩
  · show Serving (r.printed ++ found.toList).length (payloadBytes (r.printed ++ found.toList)) _ _
    rw [List.length_append, payloadBytes_append]
    exact hserving found rfl
  · show (r.printed ++ found.toList).length + _ = _
    rw [List.length_append]
    cases found with
    | none =>
      show r.printed.length + 0 + (idle + 1) = turns + 1
      omega
    | some packet =>
      show r.printed.length + 1 + (idle + 0) = turns + 1
      omega
  · show packets ≤ (r.printed ++ found.toList).length
    rw [List.length_append]
    omega
  · show bytes ≤ payloadBytes (r.printed ++ found.toList)
    rw [payloadBytes_append]
    omega
  · omega

/-- A sample makes the counters its baseline. -/
theorem Running.sampled (h : Running clock turns idle baseline r) (hturns : turns < 2 ^ 64)
    (hbytes : payloadBytes r.printed < 2 ^ 64)
    (hclock : clock → baseline.capturedAt.nanos ≤ t.capturedAt.nanos) {r' : Receiver W}
    (hprinted : r'.printed = r.printed) (hsystem : r'.system = r.system)
    (hsampler : r'.metricsSampler =
      (r.metricsSampler.sample (metricsSnapshot r.system.context t.capturedAt)).2)
    (hsummaries : r'.summaries = r.summaries ++
      ((r.metricsSampler.sample (metricsSnapshot r.system.context t.capturedAt)).1.map
        (metricsSnapshot r.system.context t.capturedAt, ·)).toList) :
    Running clock turns idle (metricsSnapshot r.system.context t.capturedAt) r' ∧
      (clock → Complete turns r') := by
  obtain ⟨packets, bytes, idle', hpackets, hbytes', hidle, hbaseline, hcounted⟩ := h.shown
  have hall := h.turns
  have hcurrent := metricsSnapshot_tallied h.serving (by omega) hbytes (by omega) t.capturedAt
  obtain ⟨hnone, hsome⟩ := sample_tallied h.previous hbaseline hcurrent hpackets hbytes' hidle
  have hcounted' : Counted clock r.printed.length (payloadBytes r.printed) idle r'.summaries := by
    have hle := hcounted.packets_le
    have hle' := hcounted.bytes_le
    have hle'' := hcounted.idle_le
    rw [hsummaries]
    cases hdelta : (r.metricsSampler.sample (metricsSnapshot r.system.context t.capturedAt)).1 with
    | none =>
      -- Without a difference the clock was set back.
      have hback : t.capturedAt.nanos < baseline.capturedAt.nanos := hnone hdelta
      rw [Option.map_none, Option.toList_none, List.append_nil]
      refine ⟨by omega, by omega, by omega, fun h => ?_⟩
      have hforward := hclock h
      omega
    | some delta =>
      obtain ⟨hp, hb, hi⟩ := hsome delta hdelta
      have hone : ∀ amount : ContextMetricsDelta → Nat,
          reported amount [(metricsSnapshot r.system.context t.capturedAt, delta)] =
            amount delta := fun amount => Nat.add_zero _
      refine ⟨?_, ?_, ?_, fun h => ?_⟩
      · rw [Option.map_some, Option.toList_some, reported_append, hone]
        omega
      · rw [Option.map_some, Option.toList_some, reported_append, hone]
        omega
      · rw [Option.map_some, Option.toList_some, reported_append, hone]
        omega
      · obtain ⟨hp', hb', hi'⟩ := hcounted.all h
        simp only [Option.map_some, Option.toList_some, reported_append, hone]
        omega
  refine ⟨⟨?_, ?_, ?_, r.printed.length, payloadBytes r.printed, idle, ?_, ?_, Nat.le_refl _,
    hcurrent, hcounted'⟩, fun h => ?_⟩
  · rw [hprinted, hsystem]
    exact h.serving
  · rw [hprinted]
    exact h.turns
  · rw [hsampler]
    rfl
  · rw [hprinted]
  · rw [hprinted]
  · obtain ⟨hp, hb, hi⟩ := hcounted'.all h
    have hple := hcounted'.packets_le
    have hble := hcounted'.bytes_le
    have hile := hcounted'.idle_le
    refine ⟨?_, ?_, ?_⟩
    · rw [hprinted]
      omega
    · rw [hprinted]
      omega
    · omega

/-- What a turn keeps.  One that ends the program before it reports reports nothing. -/
theorem turn_running (h : Running clock turns idle baseline r) (hturns : turns + 1 < 2 ^ 64)
    (hbytes : payloadBytes (turn host interval t r).2.printed < 2 ^ 64)
    (hclock : clock → baseline.capturedAt.nanos ≤ t.capturedAt.nanos) :
    ((∃ exit, (turn host interval t r).1 = .error exit) ∧
        (turn host interval t r).2.summaries = r.summaries) ∨
      ∃ idle' baseline', Running clock (turns + 1) idle' baseline' (turn host interval t r).2 ∧
        (baseline' = baseline ∨ baseline'.capturedAt = t.capturedAt) ∧
        ((turn host interval t r).2.summaries ≠ r.summaries → clock →
          Complete (turns + 1) (turn host interval t r).2) := by
  rcases @turn_cases _ _ host interval t r with ⟨-, hsame, hexit⟩ | ⟨found, system, hrecv, hturn⟩
  · exact .inl ⟨hexit, hsame⟩
  · have hreceived := h.received hrecv
    rcases hturn with hturn | ⟨length, hturn⟩
    · refine .inr ⟨idle + if found.isNone then 1 else 0, baseline, ?_, .inl rfl, ?_⟩
      · rw [hturn]
        exact hreceived
      · intro hreported
        rw [hturn] at hreported
        exact absurd rfl hreported
    · obtain ⟨hprinted, hsystem, hcase⟩ := @summarize_cases _ _ host length t
        { r with system := system, printed := r.printed ++ found.toList }
      rw [hturn] at hbytes ⊢
      rw [hprinted] at hbytes
      rcases hcase with ⟨hexit, hsame⟩ | ⟨hsampler, hsummaries⟩
      · exact .inl ⟨hexit, hsame⟩
      · obtain ⟨hrunning, hcomplete⟩ := hreceived.sampled hturns hbytes hclock hprinted hsystem
          hsampler hsummaries
        exact .inr ⟨_, _, hrunning, .inr rfl, fun _ => hcomplete⟩

end Turn

/-! ## The loop -/

theorem turn_printed (interval : Option Nat) (t : Turn) (r : Receiver W) :
    r.printed <+: (turn host interval t r).2.printed := by
  rcases @turn_cases _ _ host interval t r with ⟨hsame, -⟩ | ⟨found, system, -, hturn⟩
  · rw [hsame]
  · rcases hturn with hturn | ⟨length, hturn⟩
    · rw [hturn]
      exact List.prefix_append _ _
    · obtain ⟨hprinted, -⟩ := @summarize_cases _ _ host length t
        { r with system := system, printed := r.printed ++ found.toList }
      rw [hturn, hprinted]
      exact List.prefix_append _ _

theorem loop_printed (interval : Option Nat) (turns : List Turn) (r : Receiver W) :
    r.printed <+: (loop host interval turns r).2.printed := by
  induction turns generalizing r with
  | nil => exact List.prefix_refl _
  | cons t turns ih =>
    have hone := @turn_printed _ _ host interval t r
    rw [loop]
    rcases hturn : turn host interval t r with ⟨ended, r'⟩
    rw [hturn] at hone
    cases ended with
    | error exit => exact hone
    | ok _ => exact hone.trans (ih r')

theorem payloadBytes_le {first second : List Packet} (h : first <+: second) :
    payloadBytes first ≤ payloadBytes second := by
  obtain ⟨rest, rfl⟩ := h
  rw [payloadBytes_append]
  exact Nat.le_add_right _ _

theorem loop_append_error {interval : Option Nat} {turns : List Turn} {r r' : Receiver W}
    {exit : Exit} (h : loop host interval turns r = (.error exit, r')) (later : List Turn) :
    loop host interval (turns ++ later) r = (.error exit, r') := by
  induction turns generalizing r with
  | nil => cases h
  | cons t turns ih =>
    rw [loop] at h
    rw [List.cons_append, loop]
    rcases hturn : turn host interval t r with ⟨ended, r₁⟩
    rw [hturn] at h
    cases ended with
    | error e => exact h
    | ok _ => exact ih h

theorem loop_append_ok {interval : Option Nat} {turns : List Turn} {r r' : Receiver W}
    (h : loop host interval turns r = (.ok (), r')) (later : List Turn) :
    loop host interval (turns ++ later) r = loop host interval later r' := by
  induction turns generalizing r with
  | nil =>
    cases h
    rfl
  | cons t turns ih =>
    rw [loop] at h
    rw [List.cons_append, loop]
    rcases hturn : turn host interval t r with ⟨ended, r₁⟩
    rw [hturn] at h
    cases ended with
    | error e => cases h
    | ok _ => exact ih h

structure Bounded (r : Receiver W) : Prop where
  packets : reported ContextMetricsDelta.packetsReceived r.summaries ≤ r.printed.length
  bytes : reported ContextMetricsDelta.bytesReceived r.summaries ≤ payloadBytes r.printed

theorem Running.bounded {clock : Prop} {turns idle : Nat}
    {baseline : Metrics.ContextMetricsSnapshot} {r : Receiver W}
    (h : Running clock turns idle baseline r) : Bounded r := by
  obtain ⟨packets, bytes, idle', hpackets, hbytes, -, -, hcounted⟩ := h.shown
  exact ⟨hcounted.packets_le.trans hpackets, hcounted.bytes_le.trans hbytes⟩

def NotSetBack (times : List SystemTime) : Prop := times.Pairwise fun a b => a.nanos ≤ b.nanos

/-- What the turns of the loop keep, by induction on them. -/
theorem loop_running {clock : Prop} {interval : Option Nat} {turns : List Turn} {n idle : Nat}
    {baseline : Metrics.ContextMetricsSnapshot} {r : Receiver W}
    (h : Running clock n idle baseline r) (hturns : n + turns.length < 2 ^ 64)
    (hbytes : payloadBytes (loop host interval turns r).2.printed < 2 ^ 64)
    (hclock : clock → NotSetBack (baseline.capturedAt :: turns.map Turn.capturedAt)) :
    Bounded (loop host interval turns r).2 ∧
      ((loop host interval turns r).1 = .ok () → ∃ idle' baseline',
        Running clock (n + turns.length) idle' baseline' (loop host interval turns r).2 ∧
          baseline'.capturedAt ∈ baseline.capturedAt :: turns.map Turn.capturedAt) := by
  induction turns generalizing n idle baseline r with
  | nil => exact ⟨h.bounded, fun _ => ⟨idle, baseline, h, List.mem_cons_self⟩⟩
  | cons t turns ih =>
    have hone : n + 1 + turns.length < 2 ^ 64 := by
      rw [List.length_cons] at hturns
      omega
    have hprinted := @loop_printed _ _ host interval (t :: turns) r
    have hfirst := @turn_printed _ _ host interval t r
    have hstep := @turn_running _ _ host clock n idle baseline interval t r h (by omega)
    rw [loop] at hbytes ⊢
    rcases hturn : turn host interval t r with ⟨ended, r'⟩
    rw [hturn] at hbytes hstep hfirst
    have hbytes' : payloadBytes r'.printed < 2 ^ 64 := by
      cases ended with
      | error exit => exact hbytes
      | ok _ => exact Nat.lt_of_le_of_lt (payloadBytes_le (loop_printed interval turns r')) hbytes
    have hnow : clock → baseline.capturedAt.nanos ≤ t.capturedAt.nanos := by
      intro hc
      have hall := hclock hc
      rw [List.map_cons] at hall
      exact (List.pairwise_cons.mp hall).1 _ List.mem_cons_self
    rcases hstep hbytes' hnow with ⟨⟨exit, hexit⟩, hsame⟩ | ⟨idle', baseline', hrunning, hbase, -⟩
    · obtain rfl : ended = .error exit := hexit
      have hbounded := h.bounded
      have hlonger := hfirst.length_le
      have hmore := payloadBytes_le hfirst
      refine ⟨⟨?_, ?_⟩, fun hok => by cases hok⟩
      · show reported _ r'.summaries ≤ _
        rw [hsame]
        exact hbounded.packets.trans hlonger
      · show reported _ r'.summaries ≤ _
        rw [hsame]
        exact hbounded.bytes.trans hmore
    · cases ended with
      | error exit => exact ⟨hrunning.bounded, fun hok => by cases hok⟩
      | ok _ =>
        have hlater : clock → NotSetBack (baseline'.capturedAt :: turns.map Turn.capturedAt) := by
          intro hc
          have hall := hclock hc
          rw [List.map_cons] at hall
          rcases hbase with rfl | htime
          · exact hall.sublist (List.Sublist.cons_cons _ (List.sublist_cons_self _ _))
          · rw [htime]
            exact (List.pairwise_cons.mp hall).2
        obtain ⟨hbounded, hok⟩ := ih hrunning hone hbytes hlater
        refine ⟨hbounded, fun hend => ?_⟩
        obtain ⟨idle'', baseline'', hrunning', hmem⟩ := hok hend
        refine ⟨idle'', baseline'', ?_, ?_⟩
        · rw [List.length_cons, Nat.add_comm turns.length 1, ← Nat.add_assoc]
          exact hrunning'
        · rw [List.map_cons]
          rcases List.mem_cons.mp hmem with hmem | hmem
          · rcases hbase with rfl | htime
            · exact List.mem_cons.mpr (.inl hmem)
            · rw [hmem, htime]
              exact List.mem_cons_of_mem _ List.mem_cons_self
          · exact List.mem_cons_of_mem _ (List.mem_cons_of_mem _ hmem)

/-! ## The program -/

/-- The loop starts with nothing printed, and with the counters as its baseline. -/
theorem start_running {session : Session W Value} {path path' : Path} {r : Receiver W}
    (h : start host session path = (.ok r, path')) (clock : Prop) :
    r.printed = [] ∧ r.summaries = [] ∧
      ∃ baseline, Running clock 0 0 baseline r ∧ baseline.capturedAt = session.baselineAt := by
  unfold start at h
  split at h
  · cases h
  · next system hsubscribe =>
    have hserving := subscribe_serving hsubscribe
    split at h
    · cases h
    · dsimp only at h
      split at h
      · cases h
      · split at h
        · cases h
        · cases h
          have hbaseline := metricsSnapshot_tallied hserving (by decide) (by decide) (by decide)
            session.baselineAt
          refine ⟨rfl, rfl, metricsSnapshot system.context session.baselineAt, ?_, rfl⟩
          refine ⟨hserving, rfl, rfl, 0, 0, 0, Nat.le_refl _, Nat.le_refl _, Nat.le_refl _,
            hbaseline, ?_⟩
          exact ⟨Nat.le_refl _, Nat.le_refl _, Nat.le_refl _,
            fun _ => ⟨Nat.le_refl _, Nat.le_refl _, Nat.le_refl _⟩⟩

/-- The summaries of a session never report more packets or bytes than it printed.  Unless
the clock was set back, a turn that reports one completes them: every packet printed so far
is in one difference, and so is every turn, as a packet or as a turn that found nothing. -/
theorem summaries_account (host : Host W Value) (session : Session W Value) (turns : List Turn)
    (t : Turn) (path : Path) (hturns : turns.length + 1 < 2 ^ 64)
    (hbytes : payloadBytes (run host { session with turns := turns ++ [t] } path).printed <
      2 ^ 64) :
    let before := run host { session with turns := turns } path
    let after := run host { session with turns := turns ++ [t] } path
    reported ContextMetricsDelta.packetsReceived after.summaries ≤ after.printed.length ∧
    reported ContextMetricsDelta.bytesReceived after.summaries ≤ payloadBytes after.printed ∧
    (NotSetBack (session.baselineAt :: (turns ++ [t]).map Turn.capturedAt) →
      after.summaries ≠ before.summaries →
      reported ContextMetricsDelta.packetsReceived after.summaries = after.printed.length ∧
      reported ContextMetricsDelta.bytesReceived after.summaries = payloadBytes after.printed ∧
      reported ContextMetricsDelta.packetsReceived after.summaries +
        reported ContextMetricsDelta.wouldBlockCount after.summaries = turns.length + 1) := by
  intro before after
  have hstart : ∀ turns, start host { session with turns := turns } path =
      start host session path := fun _ => rfl
  rcases hstarted : start host session path with ⟨started, path'⟩
  cases started with
  | error exit =>
    have hempty : ∀ turns, (run host { session with turns := turns } path).summaries = [] := by
      intro turns
      simp only [run, hstart, hstarted]
    have hafter : after.summaries = [] := hempty _
    rw [hafter]
    refine ⟨Nat.zero_le _, Nat.zero_le _, fun _ hne => ?_⟩
    exact absurd (hempty turns).symm hne
  | ok r =>
    have hrun : ∀ turns, (run host { session with turns := turns } path).summaries =
          (loop host session.interval turns r).2.summaries ∧
        (run host { session with turns := turns } path).printed =
          (loop host session.interval turns r).2.printed := by
      intro turns
      simp only [run, hstart, hstarted]
      exact ⟨trivial, trivial⟩
    obtain ⟨hsummaries, hprinted⟩ := hrun (turns ++ [t])
    rw [hprinted] at hbytes
    have hsummaries' : after.summaries = _ := hsummaries
    have hprinted' : after.printed = _ := hprinted
    have hbefore : before.summaries = _ := (hrun turns).1
    rw [hsummaries', hprinted', hbefore]
    obtain ⟨-, -, baseline, hrunning, hbase⟩ := start_running hstarted
      (NotSetBack (session.baselineAt :: (turns ++ [t]).map Turn.capturedAt))
    rw [← hbase] at hrunning ⊢
    have hlength : 0 + (turns ++ [t]).length < 2 ^ 64 := by
      rw [List.length_append, List.length_singleton, Nat.zero_add]
      exact hturns
    obtain ⟨hbounded, -⟩ := loop_running hrunning hlength hbytes fun h => h
    refine ⟨hbounded.packets, hbounded.bytes, fun hclock hne => ?_⟩
    rcases hloop : loop host session.interval turns r with ⟨ended, r'⟩
    cases ended with
    | error exit =>
      rw [loop_append_error hloop, hloop] at hne
      exact absurd rfl hne
    | ok _ =>
      have hlast : loop host session.interval (turns ++ [t]) r =
          loop host session.interval [t] r' := loop_append_ok hloop [t]
      have hturn : (loop host session.interval [t] r').2 =
          (turn host session.interval t r').2 := by
        rw [loop]
        rcases turn host session.interval t r' with ⟨_ | _, _⟩
        · rfl
        · rfl
      rw [hlast, hturn] at hbytes hne ⊢
      rw [hloop] at hne
      -- The turns before the last one keep their counts too.
      have hshorter : payloadBytes (loop host session.interval turns r).2.printed < 2 ^ 64 := by
        rw [hloop]
        exact Nat.lt_of_le_of_lt (payloadBytes_le (turn_printed session.interval t r')) hbytes
      have hsub : List.Sublist (baseline.capturedAt :: turns.map Turn.capturedAt)
          (baseline.capturedAt :: (turns ++ [t]).map Turn.capturedAt) := by
        rw [List.map_append]
        exact List.Sublist.cons_cons _ (List.sublist_append_left _ _)
      obtain ⟨-, hok⟩ := @loop_running _ _ host _ session.interval turns 0 0 baseline r hrunning
        (by omega) hshorter fun h => List.Pairwise.sublist hsub h
      obtain ⟨idle', baseline', hrunning', hmem⟩ := hok (by rw [hloop])
      rw [hloop, Nat.zero_add] at hrunning'
      have hnow : baseline'.capturedAt.nanos ≤ t.capturedAt.nanos := by
        have hall : NotSetBack ((baseline.capturedAt :: turns.map Turn.capturedAt) ++
            [t.capturedAt]) := by
          rw [List.cons_append, ← List.map_singleton, ← List.map_append]
          exact hclock
        exact (List.pairwise_append.mp hall).2.2 _ hmem _ List.mem_cons_self
      rcases turn_running hrunning' hturns hbytes (fun _ => hnow) with
        ⟨-, hsame⟩ | ⟨_, _, -, -, hcomplete⟩
      · exact absurd hsame hne
      · have hall := hcomplete hne hclock
        exact ⟨hall.packets, hall.bytes, hall.turns⟩

def chattySockets : UdpSystem Unit :=
  .granting { ip := unspecifiedAddr .ipv4, port := 5000 }
    (.received
      { payload := [104, 105]
        source := some { ip := .v4 (.new 10 0 0 7), port := 4000 }
        control := [.ipPktinfo (.new 239 1 2 3) 2] })

/-- The summaries are printed, so that no JSON is made. -/
def chattyHost : Host Unit Unit :=
  { os := chattySockets
    ioMessage := fun _ => ""
    json :=
      { get := fun _ _ => none
        asStr := fun _ => none
        asF64 := fun _ => none
        isObject := fun _ => false
        eq := fun _ _ => true
        toString := fun _ => "null"
        fromStr := fun _ => .ok () }
    make :=
      { string := fun _ => ()
        number := fun _ => ()
        float := fun _ => ()
        object := fun _ => () } }

def chattySession : Session Unit Unit :=
  { world := ()
    config := .asm (.v4 (.new 239 1 2 3)) 5000
    interval := some 1000000000
    output := .ok none
    baselineAt := { nanos := 0 }
    hardwareInit := .ok ()
    createdAt := { nanos := 0 }
    held := false
    hardwareOpen := .ok ()
    startedAt := 0
    turns := [] }

def turnAt (seconds : Nat) : Turn :=
  { now := seconds * 1000000000
    capturedAt := { nanos := seconds * 1000000000 }
    hardware := .ok ()
    restartedAt := seconds * 1000000000 }

/-- The first turn comes before the deadline, and the second reports the packets of both. -/
theorem summaries_account_two_turns :
    let after := run chattyHost { chattySession with turns := [turnAt 0, turnAt 1] } none
    reported ContextMetricsDelta.packetsReceived after.summaries = after.printed.length ∧
    reported ContextMetricsDelta.bytesReceived after.summaries = payloadBytes after.printed ∧
    reported ContextMetricsDelta.packetsReceived after.summaries +
      reported ContextMetricsDelta.wouldBlockCount after.summaries = 2 := by
  refine (summaries_account chattyHost chattySession [turnAt 0] (turnAt 1) none (by decide)
    (by decide +kernel)).2.2 (by unfold NotSetBack; decide) fun h => ?_
  have hlength := congrArg List.length h
  exact absurd hlength (by decide +kernel)

end McrxRecv

end McrxCore
