import McrxCore.Bindings.Arguments
import McrxCore.Jsonl.Append
import McrxCore.Metrics

/-!
# The receiver program

`bin/mcrx_recv.rs` with metrics: one subscription, a loop that prints what it receives and
takes a summary whenever one is due, and the JSONL log that the summaries go to.  What the
clocks say and what becomes of the hardware half of a summary is given for every turn.
-/

namespace McrxCore

/-- What `json!` makes of texts, numbers and fields. -/
structure JsonMacro (Value : Type) where
  string : String → Value
  number : Nat → Value
  float : Float → Value
  object : List (String × Value) → Value

namespace Metrics

def ratePerSec (count : Nat) (intervalSecs : Float) : Float :=
  if intervalSecs > 0.0 then Float.ofNat count / intervalSecs else 0.0

namespace ContextMetricsDelta

def packetsPerSec (delta : ContextMetricsDelta) : Float :=
  ratePerSec delta.packetsReceived delta.intervalSecs

def bytesPerSec (delta : ContextMetricsDelta) : Float :=
  ratePerSec delta.bytesReceived delta.intervalSecs

def wouldBlockPerSec (delta : ContextMetricsDelta) : Float :=
  ratePerSec delta.wouldBlockCount delta.intervalSecs

def receiveErrorsPerSec (delta : ContextMetricsDelta) : Float :=
  ratePerSec delta.receiveErrors delta.intervalSecs

end ContextMetricsDelta

end Metrics

namespace Jsonl

def NETWORK_ARTIFACT_TYPE : String := "mcrx-network"

def unixTimestampSecs (time : Metrics.SystemTime) : Float :=
  match time.durationSince { nanos := 0 } with
  | some duration => duration.asSecsF64
  | none => 0.0

def headerJson {Value : Type} (json : JsonMacro Value) (artifactType producer nodeId : String)
    (createdAt : Metrics.SystemTime) (flags : List (String × Value)) : Value :=
  json.object
    [("schema", json.string HEIMDALL_JSONL_SCHEMA),
      ("artifact_type", json.string artifactType),
      ("node_id", json.string nodeId),
      ("producer", json.string producer),
      ("created_at", json.float (unixTimestampSecs createdAt)),
      ("flags", json.object flags)]

end Jsonl

namespace McrxRecv

open Jsonl Metrics

def RECEIVER_PRODUCER : String := "mcrx-core/mcrx_recv"

/-- What the program runs on: the sockets, the messages of their errors, and `serde_json`. -/
structure Host (W Value : Type) where
  os : UdpSystem W
  ioMessage : IoError → String
  json : SerdeJson Value
  make : JsonMacro Value

/-- `MetricsJsonlOutputConfig`, for one path. -/
structure Output (Value : Type) where
  nodeId : String
  flags : List (String × Value)

/-- A turn of the loop: when it looks for a deadline, the time of the snapshot, what the
hardware half of a summary returns, and when the next interval starts. -/
structure Turn where
  now : Nat
  capturedAt : SystemTime
  hardware : Except String Unit
  restartedAt : Nat

/-- One start of the program, up to some turn of its loop. -/
structure Session (W Value : Type) where
  world : W
  config : SubscriptionConfig
  interval : Option Nat
  output : Except String (Option (Output Value))
  baselineAt : SystemTime
  hardwareInit : Except String Unit
  createdAt : SystemTime
  held : Bool
  hardwareOpen : Except JsonlError Unit
  startedAt : Nat
  turns : List Turn

inductive Exit where
  | failed (message : String)
  | panicked
  deriving DecidableEq, Repr

/-- The program in its loop, with the file of its writer, the packets that it printed and
the summaries that it reported. -/
structure Receiver (W : Type) where
  system : Context.System W
  metricsSampler : ContextMetricsSampler
  network : Option (List UInt8)
  nextSummaryAt : Option Nat
  printed : List Packet
  summaries : List (Metrics.ContextMetricsSnapshot × ContextMetricsDelta)

variable {W Value : Type}

/-! ## Summaries -/

def metricsSummary (json : JsonMacro Value) (snapshot : Metrics.ContextMetricsSnapshot)
    (delta : ContextMetricsDelta) : Value :=
  json.object
    [("ts", json.float (unixTimestampSecs snapshot.capturedAt)),
      ("interval_secs", json.float delta.intervalSecs),
      ("active_subscriptions", json.number snapshot.activeSubscriptions),
      ("joined_subscriptions", json.number snapshot.joinedSubscriptions),
      ("packets_received_total", json.number snapshot.totalPacketsReceived),
      ("bytes_received_total", json.number snapshot.totalBytesReceived),
      ("packets_received_delta", json.number delta.packetsReceived),
      ("bytes_received_delta", json.number delta.bytesReceived),
      ("would_block_count_total", json.number snapshot.totalWouldBlockCount),
      ("would_block_count_delta", json.number delta.wouldBlockCount),
      ("receive_errors_total", json.number snapshot.totalReceiveErrors),
      ("receive_errors_delta", json.number delta.receiveErrors),
      ("join_count_total", json.number snapshot.totalJoinCount),
      ("join_count_delta", json.number delta.joinCount),
      ("leave_count_total", json.number snapshot.totalLeaveCount),
      ("leave_count_delta", json.number delta.leaveCount),
      ("batch_calls_total", json.number snapshot.batchCalls),
      ("batch_calls_delta", json.number delta.batchCalls),
      ("batch_packets_received_total", json.number snapshot.batchPacketsReceived),
      ("batch_packets_received_delta", json.number delta.batchPacketsReceived),
      ("packets_per_sec", json.float delta.packetsPerSec),
      ("bytes_per_sec", json.float delta.bytesPerSec),
      ("would_block_per_sec", json.float delta.wouldBlockPerSec),
      ("receive_errors_per_sec", json.float delta.receiveErrorsPerSec)]

variable (host : Host W Value)

def writeMetricsSummaryJsonl (snapshot : Metrics.ContextMetricsSnapshot)
    (delta : ContextMetricsDelta) (file : List UInt8) : Except JsonlError Unit × List UInt8 :=
  MetricsJsonlWriter.appendSampleRow host.json (metricsSummary host.make snapshot delta) file

/-- A summary goes to the log where there is one, and is printed where there is none. -/
def report (snapshot : Metrics.ContextMetricsSnapshot) (delta : ContextMetricsDelta)
    (r : Receiver W) : Except Exit Unit × Receiver W :=
  match r.network with
  | none => (.ok (), { r with summaries := r.summaries ++ [(snapshot, delta)] })
  | some file =>
    match writeMetricsSummaryJsonl host snapshot delta file with
    | (.error e, file) =>
      (.error (.failed ("failed to write metrics summary: " ++ e.message)),
        { r with network := some file })
    | (.ok (), file) =>
      (.ok (), { r with network := some file, summaries := r.summaries ++ [(snapshot, delta)] })

/-- `Context::metrics_snapshot` with its time. -/
def metricsSnapshot (c : Context) (capturedAt : SystemTime) :
    Metrics.ContextMetricsSnapshot :=
  { c.metricsSnapshot with capturedAt := capturedAt }

/-- The end of a turn at which a summary is due. -/
def summarize (interval : Nat) (t : Turn) (r : Receiver W) : Except Exit Unit × Receiver W :=
  let snapshot := metricsSnapshot r.system.context t.capturedAt
  let (delta, sampler) := r.metricsSampler.sample snapshot
  let r := { r with metricsSampler := sampler }
  let (reported, r) :=
    match delta with
    | some delta => report host snapshot delta r
    | none => (.ok (), r)
  match reported with
  | .error exit => (.error exit, r)
  | .ok () =>
    match t.hardware with
    | .error message => (.error (.failed message), r)
    | .ok () => (.ok (), { r with nextSummaryAt := some (t.restartedAt + interval) })

/-! ## The loop -/

def turn (interval : Option Nat) (t : Turn) (r : Receiver W) : Except Exit Unit × Receiver W :=
  match Context.tryRecvAny host.os r.system with
  | (.err e, system) =>
    (.error (.failed ("receive failed: " ++ e.display host.ioMessage)), { r with system := system })
  | (.panic, system) => (.error .panicked, { r with system := system })
  | (.ok found, system) =>
    let r := { r with system := system, printed := r.printed ++ found.toList }
    match interval, r.nextSummaryAt with
    | some interval, some deadline =>
      if deadline ≤ t.now then summarize host interval t r else (.ok (), r)
    | _, _ => (.ok (), r)

/-- The turns so far; the loop ends with the first one that fails. -/
def loop (interval : Option Nat) : List Turn → Receiver W → Except Exit Unit × Receiver W
  | [], r => (.ok (), r)
  | t :: turns, r =>
    match turn host interval t r with
    | (.error exit, r) => (.error exit, r)
    | (.ok (), r) => loop interval turns r

/-! ## The program -/

def networkHeader (session : Session W Value) (output : Output Value) : Value :=
  headerJson host.make NETWORK_ARTIFACT_TYPE RECEIVER_PRODUCER output.nodeId session.createdAt
    output.flags

/-- The network writer; the hardware writer has a path of its own. -/
def metricsJsonlWritersFromOutput (session : Session W Value) (output : Output Value)
    (path : Path) : Except JsonlError (List UInt8) × Path :=
  match MetricsJsonlWriter.open host.json session.held (networkHeader host session output) path with
  | (.error e, path) => (.error e, path)
  | (.ok (), path) =>
    match session.hardwareOpen with
    | .error e => (.error e, path)
    | .ok () => (.ok (path.getD []), path)

def openOutput (session : Session W Value) (output : Option (Output Value)) (path : Path) :
    Except Exit (Option (List UInt8)) × Path :=
  match output with
  | none => (.ok none, path)
  | some output =>
    match metricsJsonlWritersFromOutput host session output path with
    | (.error e, path) =>
      (.error (.failed ("failed to initialize metrics JSONL output: " ++ e.message)), path)
    | (.ok file, path) => (.ok (some file), path)

def subscribe (config : SubscriptionConfig) (world : W) : Except Exit (Context.System W) :=
  match Context.addSubscription host.os config (Context.start world) with
  | (.err e, _) => .error (.failed ("failed to add subscription: " ++ e.display host.ioMessage))
  | (.panic, _) => .error .panicked
  | (.ok id, system) =>
    match Context.joinSubscription host.os id system with
    | (.err e, _) => .error (.failed ("failed to join subscription: " ++ e.display host.ioMessage))
    | (.panic, _) => .error .panicked
    | (.ok (), system) => .ok system

/-- `run` up to its loop. -/
def start (session : Session W Value) (path : Path) : Except Exit (Receiver W) × Path :=
  match subscribe host session.config session.world with
  | .error exit => (.error exit, path)
  | .ok system =>
    match session.output with
    | .error message => (.error (.failed message), path)
    | .ok output =>
      let baseline := metricsSnapshot system.context session.baselineAt
      let (_, sampler) := ContextMetricsSampler.new.sample baseline
      match session.hardwareInit with
      | .error message => (.error (.failed message), path)
      | .ok () =>
        match openOutput host session output path with
        | (.error exit, path) => (.error exit, path)
        | (.ok network, path) =>
          (.ok
            { system := system
              metricsSampler := sampler
              network := network
              nextSummaryAt := session.interval.map (session.startedAt + ·)
              printed := []
              summaries := [] }, path)

/-- What a session leaves: how it ended, where it did, what it printed and reported, and the
log. -/
structure Trace where
  ended : Except Exit Unit
  printed : List Packet
  summaries : List (Metrics.ContextMetricsSnapshot × ContextMetricsDelta)
  path : Path

def run (session : Session W Value) (path : Path) : Trace :=
  match start host session path with
  | (.error exit, path) => { ended := .error exit, printed := [], summaries := [], path := path }
  | (.ok r, path) =>
    let (ended, r) := loop host session.interval session.turns r
    { ended := ended
      printed := r.printed
      summaries := r.summaries
      path := if r.network.isSome then r.network else path }

end McrxRecv

end McrxCore
