import McrxCore.Jsonl.SampleLog
import McrxCore.Jsonl.Table
import McrxCore.Lib.Journal
import McrxCore.McrxRecv

/-!
# The log across restarts

The program is started again and again on one file.  Wherever a session ends, in its setup
or in a turn of its loop, the file stays a log that the next one accepts.
-/

namespace McrxCore

namespace McrxRecv

open Jsonl Metrics

variable {W Value : Type} {host : Host W Value}

/-! ## Logs -/

/-- The file is a log with the header, where it has one, and with these sample rows. -/
structure Log (json : SerdeJson Value) (header : Option Value) (logged : List Value)
    (path : Path) : Prop where
  accepted : validateExistingHeader json path = .ok header
  rows : rows json (path.getD []) = logged
  ends : EndsClean (path.getD [])

section Json

variable {json : SerdeJson Value} {old : Option Value} {logged : List Value} {path : Path}

/-- A file that is not there is as good as an empty one. -/
theorem validateExistingHeader_getD (json : SerdeJson Value) (path : Path) :
    validateExistingHeader json path = validateHeaderReader json (path.getD []) true := by
  cases path with
  | none => rfl
  | some content => rfl

theorem Log.content (h : Log json old logged path) :
    validateHeaderReader json (path.getD []) true = .ok old := by
  rw [← validateExistingHeader_getD]
  exact h.accepted

/-- Opening creates the file. -/
theorem Log.created (h : Log json old logged path) : Log json old logged (some (path.getD [])) :=
  ⟨h.content, h.rows, h.ends⟩

theorem Log.headed (hparses : SerdeJson.Parses json) (h : Log json old logged path)
    {header : Value} (hheader : isHeaderObject json header = true)
    (hback : ReadsBack json header) :
    Log json (some (old.getD header)) logged
      (some (Jsonl.headed json old header (path.getD []))) := by
  obtain ⟨haccepted, hdocuments⟩ := headed_ok hparses h.content hheader fun _ => ⟨h.ends, hback⟩
  refine ⟨haccepted, ?_, headed_endsClean hparses header h.ends⟩
  show (documents json (Jsonl.headed json old header (path.getD []))).tail = logged
  rw [hdocuments]
  exact h.rows

/-- A writer that opens finds the log or starts it; one that does not leaves it. -/
theorem open_log (hparses : SerdeJson.Parses json) (h : Log json old logged path) {held : Bool}
    {header : Value} (hback : ReadsBack json header) {result : Except JsonlError Unit}
    {path' : Path} (hopen : MetricsJsonlWriter.open json held header path = (result, path')) :
    (∃ e, result = .error e) ∧ Log json old logged path' ∨
      result = .ok () ∧ Compatible json old header ∧
        Log json (some (old.getD header)) logged path' := by
  unfold MetricsJsonlWriter.open at hopen
  split at hopen
  · next e hinvalid =>
    cases hopen
    exact .inl ⟨⟨e, rfl⟩, h⟩
  · next hvalid =>
    have hheader := isHeaderObject_of_validateRequestedHeader hvalid
    cases held with
    | true =>
      cases hopen
      exact .inl ⟨⟨_, rfl⟩, h.created⟩
    | false =>
      by_cases hcompatible : Compatible json old header
      · have hensure := ensureHeaderInLockedFile_ok h.content hcompatible true
        simp only [openLockedJsonlFile, Bool.false_eq_true, if_false, hensure] at hopen
        cases hopen
        exact .inr ⟨rfl, hcompatible, h.headed hparses hheader hback⟩
      · obtain ⟨e, hensure⟩ := ensureHeaderInLockedFile_incompatible h.content hcompatible true
        simp only [openLockedJsonlFile, Bool.false_eq_true, if_false, hensure] at hopen
        cases hopen
        exact .inl ⟨⟨e, rfl⟩, h.created⟩

/-- A row that is appended is the last one of the log. -/
theorem append_log (hparses : SerdeJson.Parses json) {header : Value} {file file' : List UInt8}
    (h : Log json (some header) logged (some file)) {sample : Value}
    {result : Except JsonlError Unit}
    (happend : MetricsJsonlWriter.appendSampleRow json sample file = (result, file')) :
    (∃ e, result = .error e) ∧ file' = file ∨
      result = .ok () ∧
        (ReadsBack json sample → Log json (some header) (logged ++ [sample]) (some file')) := by
  unfold MetricsJsonlWriter.appendSampleRow at happend
  split at happend
  · next e hinvalid =>
    cases happend
    exact .inl ⟨⟨e, rfl⟩, rfl⟩
  · next hvalid =>
    cases happend
    have hcontent : validateHeaderReader json file true = .ok (some header) := h.content
    obtain ⟨-, hrepeated⟩ := sample_of_validateSampleRow hvalid
    refine .inr ⟨rfl, fun hback => ?_⟩
    obtain ⟨haccepted, hdocuments⟩ := write_ok hparses hcontent h.ends hback
      (show Fits json (some header) sample from hrepeated)
    refine ⟨haccepted, ?_, ?_⟩
    · show (documents json (writeJsonLine json sample file)).tail = logged ++ [sample]
      have hrows : rows json file = logged := h.rows
      rw [hdocuments, documents_of_some hcontent, hrows]
      rfl
    · exact endsClean_writeJsonLine hparses sample file

end Json

/-! ## The loop -/

abbrev Summaries := List (Metrics.ContextMetricsSnapshot × ContextMetricsDelta)

variable (host) in
/-- A report keeps what is said of the file of the writer and the summaries so far. -/
def ReportKeeps (P : Option (List UInt8) → Summaries → Prop) : Prop :=
  ∀ snapshot delta (r : Receiver W), P r.network r.summaries →
    P (report host snapshot delta r).2.network (report host snapshot delta r).2.summaries

section Loop

variable {P : Option (List UInt8) → Summaries → Prop} {r : Receiver W}

theorem ReportKeeps.summarize (hkeeps : ReportKeeps host P) (h : P r.network r.summaries)
    (interval : Nat) (t : Turn) :
    P (summarize host interval t r).2.network (summarize host interval t r).2.summaries := by
  rcases hsample : r.metricsSampler.sample (metricsSnapshot r.system.context t.capturedAt) with
    ⟨delta, sampler⟩
  cases delta with
  | none =>
    cases hhardware : t.hardware with
    | error message =>
      simp only [McrxRecv.summarize, hsample, hhardware]
      exact h
    | ok _ =>
      simp only [McrxRecv.summarize, hsample, hhardware]
      exact h
  | some delta =>
    have hreported := hkeeps (metricsSnapshot r.system.context t.capturedAt) delta
      { r with metricsSampler := sampler } h
    rcases hreport : report host (metricsSnapshot r.system.context t.capturedAt) delta
      { r with metricsSampler := sampler } with ⟨written, r'⟩
    rw [hreport] at hreported
    cases written with
    | error exit =>
      simp only [McrxRecv.summarize, hsample, hreport]
      exact hreported
    | ok _ =>
      cases hhardware : t.hardware with
      | error message =>
        simp only [McrxRecv.summarize, hsample, hreport, hhardware]
        exact hreported
      | ok _ =>
        simp only [McrxRecv.summarize, hsample, hreport, hhardware]
        exact hreported

theorem ReportKeeps.turn (hkeeps : ReportKeeps host P) (h : P r.network r.summaries)
    (interval : Option Nat) (t : Turn) :
    P (turn host interval t r).2.network (turn host interval t r).2.summaries := by
  rcases hrecv : Context.tryRecvAny host.os r.system with ⟨outcome, system⟩
  cases outcome with
  | err e =>
    simp only [McrxRecv.turn, hrecv]
    exact h
  | panic =>
    simp only [McrxRecv.turn, hrecv]
    exact h
  | ok found =>
    simp only [McrxRecv.turn, hrecv]
    cases interval with
    | none => exact h
    | some interval =>
      cases r.nextSummaryAt with
      | none => exact h
      | some deadline =>
        by_cases hdue : deadline ≤ t.now
        · simp only [if_pos hdue]
          apply hkeeps.summarize
          exact h
        · simp only [if_neg hdue]
          exact h

theorem ReportKeeps.loop (hkeeps : ReportKeeps host P) (h : P r.network r.summaries)
    (interval : Option Nat) (turns : List Turn) :
    P (loop host interval turns r).2.network (loop host interval turns r).2.summaries := by
  induction turns generalizing r with
  | nil => exact h
  | cons t turns ih =>
    have hturn := hkeeps.turn h interval t
    rw [McrxRecv.loop]
    rcases hended : McrxRecv.turn host interval t r with ⟨ended, r'⟩
    rw [hended] at hturn
    cases ended with
    | error exit => exact hturn
    | ok _ => exact ih hturn

/-- Without a writer the summaries are printed. -/
theorem report_unlogged : ReportKeeps host fun network _ => network = none := by
  intro snapshot delta r hnetwork
  simp only [report, hnetwork]

end Loop

variable (host) in
def reportedRows (summaries : Summaries) : List Value :=
  summaries.map fun summary => metricsSummary host.make summary.1 summary.2

variable (host) in
/-- The writer has the log, and the rows that the session reported are its last ones. -/
def Logging (header : Value) (logged : List Value) (network : Option (List UInt8))
    (summaries : Summaries) : Prop :=
  ∃ file, network = some file ∧
    Log host.json (some header) (logged ++ reportedRows host summaries) (some file)

variable (host) in
/-- A report adds a summary or none. -/
theorem report_summaries (snapshot : Metrics.ContextMetricsSnapshot) (delta : ContextMetricsDelta)
    (r : Receiver W) :
    ∃ added, (report host snapshot delta r).2.summaries = r.summaries ++ added := by
  cases hnetwork : r.network with
  | none =>
    simp only [report, hnetwork]
    exact ⟨_, rfl⟩
  | some file =>
    rcases hwrite : writeMetricsSummaryJsonl host snapshot delta file with ⟨result, file'⟩
    cases result with
    | error e =>
      simp only [report, hnetwork, hwrite]
      exact ⟨[], (List.append_nil _).symm⟩
    | ok _ =>
      simp only [report, hnetwork, hwrite]
      exact ⟨_, rfl⟩

variable (host) in
def RowsReadBack (summaries : Summaries) : Prop :=
  ∀ row ∈ reportedRows host summaries, ReadsBack host.json row

theorem RowsReadBack.of_append {summaries added : Summaries}
    (h : RowsReadBack host (summaries ++ added)) : RowsReadBack host summaries := by
  intro row hrow
  apply h
  rw [reportedRows, List.map_append]
  exact List.mem_append_left _ hrow

/-- As long as the rows are read back. -/
theorem report_logging (hparses : SerdeJson.Parses host.json) (header : Value)
    (logged : List Value) :
    ReportKeeps host fun network summaries =>
      RowsReadBack host summaries → Logging host header logged network summaries := by
  intro snapshot delta r hlogging hback
  obtain ⟨added, hadded⟩ := report_summaries host snapshot delta r
  obtain ⟨file, hnetwork, hlog⟩ := hlogging (RowsReadBack.of_append (hadded ▸ hback))
  rcases hwrite : writeMetricsSummaryJsonl host snapshot delta file with ⟨result, file'⟩
  rcases append_log hparses hlog hwrite with ⟨⟨e, rfl⟩, rfl⟩ | ⟨rfl, hlog'⟩
  · simp only [report, hnetwork, hwrite]
    exact ⟨file', rfl, hlog⟩
  · simp only [report, hnetwork, hwrite] at hback ⊢
    refine ⟨file', rfl, ?_⟩
    rw [reportedRows, List.map_append, ← List.append_assoc]
    apply hlog'
    apply hback
    rw [reportedRows, List.map_append]
    exact List.mem_append_right _ List.mem_cons_self

/-! ## Starts -/

/-- The header is the old one, or that of the session where there was none, and the session
has a writer. -/
def HeaderOf (host : Host W Value) (session : Session W Value) (old : Option Value)
    (header : Value) : Prop :=
  ∃ output, session.output = .ok (some output) ∧
    header = old.getD (networkHeader host session output) ∧
    Compatible host.json old (networkHeader host session output)

section Start

variable {session : Session W Value} {old : Option Value} {logged : List Value} {path : Path}

/-- A start that fails leaves the log as it is, or with a header, and one that does not has
the log in its loop. -/
theorem start_log (hparses : SerdeJson.Parses host.json) (h : Log host.json old logged path)
    (hback : ∀ output, session.output = .ok (some output) →
      ReadsBack host.json (networkHeader host session output))
    {started : Except Exit (Receiver W)} {path' : Path}
    (hstart : start host session path = (started, path')) :
    (∃ exit, started = .error exit) ∧ (Log host.json old logged path' ∨
        ∃ header, HeaderOf host session old header ∧ Log host.json (some header) logged path') ∨
      ∃ r, started = .ok r ∧ r.summaries = [] ∧
        (session.output = .ok none ∧ r.network = none ∧ Log host.json old logged path' ∨
          ∃ header, HeaderOf host session old header ∧
            Logging host header logged r.network r.summaries) := by
  unfold start at hstart
  split at hstart
  · cases hstart
    exact .inl ⟨⟨_, rfl⟩, .inl h⟩
  · next system hsubscribe =>
    split at hstart
    · cases hstart
      exact .inl ⟨⟨_, rfl⟩, .inl h⟩
    · next output houtput =>
      dsimp only at hstart
      split at hstart
      · cases hstart
        exact .inl ⟨⟨_, rfl⟩, .inl h⟩
      · cases output with
        | none =>
          cases hstart
          exact .inr ⟨_, rfl, rfl, .inl ⟨houtput, rfl, h⟩⟩
        | some output =>
          rcases hopen : MetricsJsonlWriter.open host.json session.held
            (networkHeader host session output) path with ⟨result, opened⟩
          rcases open_log hparses h (hback output houtput) hopen with
            ⟨⟨e, rfl⟩, hlog⟩ | ⟨rfl, hcompatible, hlog⟩
          · simp only [openOutput, metricsJsonlWritersFromOutput, hopen] at hstart
            cases hstart
            exact .inl ⟨⟨_, rfl⟩, .inl hlog⟩
          · have hheader : HeaderOf host session old _ := ⟨output, houtput, rfl, hcompatible⟩
            cases hhardware : session.hardwareOpen with
            | error e =>
              simp only [openOutput, metricsJsonlWritersFromOutput, hopen, hhardware] at hstart
              cases hstart
              exact .inl ⟨⟨_, rfl⟩, .inr ⟨_, hheader, hlog⟩⟩
            | ok _ =>
              simp only [openOutput, metricsJsonlWritersFromOutput, hopen, hhardware] at hstart
              cases hstart
              refine .inr ⟨_, rfl, rfl, .inr ⟨_, hheader, _, rfl, ?_⟩⟩
              show Log host.json _ (logged ++ []) _
              rw [List.append_nil]
              exact hlog.created

end Start

/-! ## Restarts -/

section Restarts

variable (host : Host W Value)

def restart (session : Session W Value) (path : Path) : Trace × Path :=
  (run host session path, (run host session path).path)

/-- The rows that a session wrote: its summaries, where it has a writer. -/
def loggedRows (session : Session W Value) (trace : Trace) : List Value :=
  match session.output with
  | .ok (some _) => reportedRows host trace.summaries
  | _ => []

structure SessionReadsBack (session : Session W Value) (trace : Trace) : Prop where
  header : ∀ output, session.output = .ok (some output) →
    ReadsBack host.json (networkHeader host session output)
  rows : ∀ row ∈ loggedRows host session trace, ReadsBack host.json row

abbrev Start (W Value : Type) := Journal.Call Path (Session W Value) Trace

/-- What the sessions make of the header: an old one stays, a new one is that of one of
them, and those that wrote rows asked for it. -/
structure Heads (old : Option Value) (calls : List (Start W Value)) (header : Option Value) :
    Prop where
  keeps : ∀ existing ∈ old, header = some existing
  origin : ∀ value ∈ header, value ∈ old ∨ ∃ call ∈ calls, ∃ output,
    call.action.output = .ok (some output) ∧ value = networkHeader host call.action output
  rows : ∀ call ∈ calls, loggedRows host call.action call.response ≠ [] →
    ∃ output existing, call.action.output = .ok (some output) ∧ header = some existing ∧
      headersAreCompatible host.json existing (networkHeader host call.action output) = true

end Restarts

section Heads

variable {old header header' : Option Value} {calls : List (Start W Value)} {call : Start W Value}

theorem Heads.silent (hrows : loggedRows host call.action call.response = []) :
    Heads host old [call] old where
  keeps _ hold := hold
  origin _ hold := .inl hold
  rows other hother hsome := by
    obtain rfl := List.mem_singleton.mp hother
    exact absurd hrows hsome

theorem HeaderOf.heads (hparses : SerdeJson.Parses host.json) {value : Value}
    (h : HeaderOf host call.action old value) : Heads host old [call] (some value) := by
  obtain ⟨output, houtput, rfl, hcompatible⟩ := h
  refine ⟨?_, ?_, ?_⟩
  · rintro existing hold
    rw [Option.mem_def.mp hold]
    rfl
  · rintro value hvalue
    obtain rfl := Option.some.inj hvalue
    cases old with
    | none => exact .inr ⟨call, List.mem_singleton_self _, output, houtput, rfl⟩
    | some existing => exact .inl rfl
  · rintro other hother -
    obtain rfl := List.mem_singleton.mp hother
    refine ⟨output, _, houtput, rfl, ?_⟩
    cases old with
    | none => exact headersAreCompatible_refl hparses.toCompact _
    | some existing => exact hcompatible existing rfl

theorem Heads.snoc (h : Heads host old calls header) (hlast : Heads host header [call] header') :
    Heads host old (calls ++ [call]) header' where
  keeps existing hold := hlast.keeps existing (h.keeps existing hold)
  origin value hvalue := by
    rcases hlast.origin value hvalue with hheader | ⟨other, hother, horigin⟩
    · rcases h.origin value hheader with hold | ⟨other, hother, horigin⟩
      · exact .inl hold
      · exact .inr ⟨other, List.mem_append_left _ hother, horigin⟩
    · exact .inr ⟨other, List.mem_append_right _ hother, horigin⟩
  rows other hother hsome := by
    rcases List.mem_append.mp hother with hother | hother
    · obtain ⟨output, existing, houtput, hheader, hcompatible⟩ := h.rows other hother hsome
      exact ⟨output, existing, houtput, hlast.keeps existing hheader, hcompatible⟩
    · exact hlast.rows other hother hsome

end Heads

/-- What one session does to the log. -/
theorem restart_log (hparses : SerdeJson.Parses host.json) {old : Option Value}
    {logged : List Value} {path : Path} (h : Log host.json old logged path)
    {session : Session W Value} (hback : SessionReadsBack host session (run host session path)) :
    ∃ header, Heads host old [Journal.call (restart host) session path] header ∧
      Log host.json header (logged ++ loggedRows host session (run host session path))
        (run host session path).path := by
  have hreports : ∀ trace : Trace, trace.summaries = [] → loggedRows host session trace = [] := by
    intro trace hnone
    unfold loggedRows
    split
    · rw [hnone]
      rfl
    · rfl
  rcases hstart : start host session path with ⟨started, path'⟩
  rcases start_log hparses h hback.header hstart with ⟨⟨exit, rfl⟩, hlog⟩ | ⟨r, rfl, hnone, hlog⟩
  · have hrun : run host session path =
        { ended := .error exit, printed := [], summaries := [], path := path' } := by
      simp only [run, hstart]
    have hrows : loggedRows host session (run host session path) = [] := by
      apply hreports
      rw [hrun]
    rw [hrows, List.append_nil, hrun]
    rcases hlog with hlog | ⟨header, hheader, hlog⟩
    · exact ⟨old, .silent hrows, hlog⟩
    · exact ⟨some header, HeaderOf.heads hparses hheader, hlog⟩
  · rcases hloop : loop host session.interval session.turns r with ⟨ended, r'⟩
    have hrun : run host session path =
        { ended := ended
          printed := r'.printed
          summaries := r'.summaries
          path := if r'.network.isSome then r'.network else path' } := by
      simp only [run, hstart, hloop]
    rcases hlog with ⟨houtput, hnetwork, hlog⟩ | ⟨header, hheader, hlogging⟩
    · have hunlogged := (@report_unlogged _ _ host).loop hnetwork session.interval
        session.turns
      rw [hloop] at hunlogged
      have hrows : ∀ trace, loggedRows host session trace = [] := by
        intro trace
        rw [loggedRows, houtput]
      rw [hrows, List.append_nil, hrun, hunlogged]
      exact ⟨old, .silent (hrows _), hlog⟩
    · have hlogged := (report_logging hparses header logged).loop (fun _ => hlogging)
        session.interval session.turns
      rw [hloop] at hlogged
      obtain ⟨output, houtput, -⟩ := id hheader
      have hrows : ∀ trace, loggedRows host session trace = reportedRows host trace.summaries := by
        intro trace
        rw [loggedRows, houtput]
      have hread := hback.rows
      rw [hrows, hrun] at hread
      obtain ⟨file, hfile, hlog⟩ := hlogged hread
      refine ⟨some header, HeaderOf.heads hparses hheader, ?_⟩
      rw [hrows, hrun, hfile]
      exact hlog

/-- However often the program is started on an accepted log whose last line is complete,
and wherever its sessions end, the file stays such a log, if the parser reads back what the
sessions write.  Its rows are the old ones and, in their order, those of the summaries that
the sessions reported. -/
theorem restarts_keep_log (hparses : SerdeJson.Parses host.json) {old : Option Value}
    {logged : List Value} {path : Path} (h : Log host.json old logged path)
    (sessions : List (Session W Value))
    (hback : ∀ call ∈ Journal.calls (restart host) sessions path,
      SessionReadsBack host call.action call.response) :
    let calls := Journal.calls (restart host) sessions path
    ∃ header, Heads host old calls header ∧
      Log host.json header
        (logged ++ calls.flatMap fun call => loggedRows host call.action call.response)
        (Journal.final (restart host) sessions path) := by
  have hrun := @Journal.invariant _ _ _ (restart host)
    (fun past path => (∀ call ∈ past, SessionReadsBack host call.action call.response) →
      ∃ header, Heads host old past header ∧
        Log host.json header
          (logged ++ past.flatMap fun call => loggedRows host call.action call.response) path)
    (fun _ => True) ?_ sessions (fun _ _ => trivial) [] path fun _ => ⟨old, ?_, ?_⟩
  · rw [List.nil_append] at hrun
    exact hrun hback
  · intro past path session _ hpast hread
    obtain ⟨header, hheads, hlog⟩ := hpast fun call hcall =>
      hread call (List.mem_append_left _ hcall)
    have hlast := hread (Journal.call (restart host) session path)
      (List.mem_append_right _ List.mem_cons_self)
    obtain ⟨header', hheads', hlog'⟩ := restart_log hparses hlog hlast
    refine ⟨header', hheads.snoc hheads', ?_⟩
    rw [List.flatMap_append, List.flatMap_singleton, ← List.append_assoc]
    exact hlog'
  · exact ⟨fun _ hold => hold, fun _ hold => .inl hold,
      fun call hcall => absurd hcall List.not_mem_nil⟩
  · rw [List.flatMap_nil, List.append_nil]
    exact h

/-! ## A log of one summary -/

/-- The values of a log with one summary, of four bytes in two packets and one second. -/
inductive SummaryValue where
  | header
  | row
  | artifactType
  | nodeId
  | producer
  | schema
  | flags
  | seconds
  | count
  deriving DecidableEq, Repr

namespace SummaryValue

/-- Kept folded, since its texts are long to decode. -/
@[irreducible]
def text : SummaryValue → String
  | header => "\x7b\"artifact_type\":\"mcrx-network\",\"created_at\":1.0,\"flags\":\x7b\x7d," ++
      "\"node_id\":\"client-a\",\"producer\":\"mcrx-core/mcrx_recv\"," ++
      "\"schema\":\"heimdall-jsonl-v1\"\x7d"
  | row => "\x7b\"active_subscriptions\":1,\"batch_calls_delta\":0,\"batch_calls_total\":0," ++
      "\"batch_packets_received_delta\":0,\"batch_packets_received_total\":0," ++
      "\"bytes_per_sec\":4.0,\"bytes_received_delta\":4,\"bytes_received_total\":4," ++
      "\"interval_secs\":1.0,\"join_count_delta\":0,\"join_count_total\":1," ++
      "\"joined_subscriptions\":1,\"leave_count_delta\":0,\"leave_count_total\":0," ++
      "\"packets_per_sec\":2.0,\"packets_received_delta\":2,\"packets_received_total\":2," ++
      "\"receive_errors_delta\":0,\"receive_errors_per_sec\":0.0,\"receive_errors_total\":0," ++
      "\"ts\":1.0,\"would_block_count_delta\":0,\"would_block_count_total\":0," ++
      "\"would_block_per_sec\":0.0\x7d"
  | artifactType => "\"mcrx-network\""
  | nodeId => "\"client-a\""
  | producer => "\"mcrx-core/mcrx_recv\""
  | schema => "\"heimdall-jsonl-v1\""
  | flags => "\x7b\x7d"
  | seconds => "1.0"
  | count => "0"

def table : JsonTable SummaryValue where
  all := [header, row, artifactType, nodeId, producer, schema, flags, seconds, count]
  chars value := ascii value.text
  get
    | header, "artifact_type" => some artifactType
    | header, "created_at" => some seconds
    | header, "flags" => some flags
    | header, "node_id" => some nodeId
    | header, "producer" => some producer
    | header, "schema" => some schema
    | row, "ts" => some seconds
    | _, _ => none
  asStr
    | artifactType => some "mcrx-network"
    | nodeId => some "client-a"
    | producer => some RECEIVER_PRODUCER
    | schema => some HEIMDALL_JSONL_SCHEMA
    | _ => none
  asF64
    | seconds => some 0x3ff0000000000000
    | count => some 0
    | _ => none
  isObject value := value == header || value == row || value == flags

theorem table_code : ∀ value ∈ table.all, ∀ other ∈ table.all,
    (table.chars value).isPrefixOf (table.chars other) = true → value = other := by
  decide +kernel

theorem table_head : ∀ value ∈ table.all,
    (table.chars value).head?.any (fun c => !isWhitespace c) = true := by
  decide +kernel

theorem table_printable : ∀ value ∈ table.all,
    (table.chars value).all (fun c => Nat.ble 32 c.toNat && Nat.blt c.toNat 128) = true := by
  decide +kernel

theorem table_brace : ∀ value ∈ table.all, table.isObject value = true →
    (table.chars value).head? = some '\x7b' := by
  decide +kernel

theorem table_get_object (value : SummaryValue) (key : String)
    (h : (table.get value key).isSome = true) : table.isObject value = true := by
  cases value with
  | header => rfl
  | row => rfl
  | _ => cases h

theorem table_valid : table.Valid where
  mem_all value := by cases value <;> decide
  code := table_code
  head := table_head
  printable := table_printable
  brace := table_brace
  get_object := table_get_object

def make : JsonMacro SummaryValue where
  string
    | "mcrx-network" => artifactType
    | "mcrx-core/mcrx_recv" => producer
    | "heimdall-jsonl-v1" => schema
    | _ => nodeId
  number _ := count
  float _ := seconds
  object fields :=
    if fields.isEmpty then flags
    else if fields.any fun field => field.1 == "schema" then header
    else row

end SummaryValue

def loggingHost : Host Unit SummaryValue :=
  { os := .granting { ip := unspecifiedAddr .ipv4, port := 5000 }
      (.received
        { payload := [104, 105]
          source := some { ip := .v4 (.new 10 0 0 7), port := 4000 }
          control := [.ipPktinfo (.new 239 1 2 3) 2] })
    ioMessage := fun _ => ""
    json := SummaryValue.table.json
    make := SummaryValue.make }

def loggingSession : Session Unit SummaryValue :=
  { world := ()
    config := .asm (.v4 (.new 239 1 2 3)) 5000
    interval := some 1000000000
    output := .ok (some { nodeId := "client-a", flags := [] })
    baselineAt := { nanos := 0 }
    hardwareInit := .ok ()
    createdAt := { nanos := 1000000000 }
    held := false
    hardwareOpen := .ok ()
    startedAt := 0
    turns :=
      [{ now := 0, capturedAt := { nanos := 0 }, hardware := .ok (), restartedAt := 0 },
        { now := 1000000000
          capturedAt := { nanos := 1000000000 }
          hardware := .ok ()
          restartedAt := 1000000000 }] }

/-- Only the second of three starts finds the lock free. -/
theorem restarts_keep_log_three_starts :
    ∃ header, Log loggingHost.json header [.row]
      (Journal.final (restart loggingHost)
        [{ loggingSession with held := true }, loggingSession,
          { loggingSession with held := true }] none) := by
  have hempty : Log loggingHost.json none [] none :=
    ⟨rfl, rfl, endsClean_of_terminated rfl⟩
  obtain ⟨header, -, hlog⟩ := restarts_keep_log SummaryValue.table_valid.parses hempty
    [{ loggingSession with held := true }, loggingSession, { loggingSession with held := true }]
    fun call _ => ⟨fun output _ => SummaryValue.table_valid.readsBack _,
      fun value _ => SummaryValue.table_valid.readsBack value⟩
  exact ⟨header, hlog⟩

end McrxRecv

end McrxCore
