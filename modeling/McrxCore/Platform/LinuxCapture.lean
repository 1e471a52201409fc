import McrxCore.Platform.RawDelivery

/-!
# Linux captures from their opening on

A packet socket receives from the call that creates it: from all interfaces until it is
bound, and without a filter until one is attached.  The captures of `platform/raw.rs` are
opened one call at a time here, while datagrams arrive.  The packet sockets are the kernel's;
what is used of them is what their documentation says, `PacketKernel.Documented`.
-/

namespace McrxCore

namespace LinuxCapture

open ClassicBpf (Instruction accepts)
open RawReceive
open ParallelLoop (Calls)

/-! ## Packet sockets -/

/-- A datagram behind its link-layer header, with the index of its interface. -/
structure Arrival where
  datagram : List UInt8
  sllIfindex : Int32
  deriving DecidableEq, Repr

/-- What the documentation of packet sockets speaks about. -/
structure SocketView where
  filter : Option (List Instruction)
  boundTo : Option UInt32
  queue : List Arrival
  deriving DecidableEq, Repr

namespace SocketView

def unbound : SocketView := { filter := none, boundTo := none, queue := [] }

/-- The index zero stands for every interface. -/
def hears (shown : SocketView) (arrival : Arrival) : Bool :=
  match shown.boundTo with
  | none => true
  | some interfaceIndex => interfaceIndex == 0 || arrival.sllIfindex == interfaceIndex.toInt32

def keeps (shown : SocketView) (arrival : Arrival) : Bool :=
  match shown.filter with
  | none => true
  | some program => accepts program arrival.datagram

/-- What a `recvfrom` answers and leaves. -/
inductive Reads : SocketView → RecvResult → SocketView → Prop where
  | received {shown : SocketView} {arrival : Arrival} {queue : List Arrival}
      (head : shown.queue = arrival :: queue) :
      Reads shown (.received arrival.datagram arrival.sllIfindex) { shown with queue := queue }
  | wouldBlock {shown : SocketView} (empty : shown.queue = []) : Reads shown .wouldBlock shown
  | failed {shown : SocketView} (error : IoError) : Reads shown (.failed error) shown

end SocketView

/-- The packet sockets of a kernel, whatever their states are. -/
structure PacketKernel (Q : Type) where
  view : Q → SocketView
  room : Q → Arrival → Bool
  socket : Q
  attachFilter : List Instruction → Q → Q
  bind : UInt32 → Q → Q
  arrive : Arrival → Q → Q
  recvfrom : Q → RecvResult × Q

def PacketKernel.heard {Q : Type} (kernel : PacketKernel Q) (socket : Q) (arrival : Arrival) :
    List Arrival :=
  if (kernel.view socket).hears arrival && kernel.room socket arrival then [arrival] else []

/-- A packet socket does what its documentation says: it queues, in order, what is of its
interface, passes its filter and finds room, and a read takes the first of the queue. -/
structure PacketKernel.Documented {Q : Type} (kernel : PacketKernel Q) : Prop where
  socket : kernel.view kernel.socket = .unbound
  attachFilter : ∀ program q,
    kernel.view (kernel.attachFilter program q) = { kernel.view q with filter := some program }
  bind : ∀ interfaceIndex q,
    kernel.view (kernel.bind interfaceIndex q) =
      { kernel.view q with boundTo := some interfaceIndex }
  arrive : ∀ arrival q,
    kernel.view (kernel.arrive arrival q) =
      if (kernel.view q).hears arrival && (kernel.view q).keeps arrival &&
          kernel.room q arrival then
        { kernel.view q with queue := (kernel.view q).queue ++ [arrival] }
      else kernel.view q
  recvfrom : ∀ q,
    (kernel.view q).Reads (kernel.recvfrom q).1 (kernel.view (kernel.recvfrom q).2)

/-! ## Opening -/

inductive OpenCall where
  | packetSocket
  | attachFilter
  | bindPacketSocket
  | membershipSocket
  | setOnlyV6
  | setNonblocking
  | bindMembershipSocket
  deriving DecidableEq, Repr

def OpenCall.failure : OpenCall → IoError → McrxError
  | packetSocket => .rawSocketCreateFailed
  | attachFilter => .socketOptionFailed
  | bindPacketSocket => .rawSocketBindFailed
  | membershipSocket => .socketCreateFailed
  | setOnlyV6 => .socketOptionFailed
  | setNonblocking => .socketOptionFailed
  | bindMembershipSocket => .socketBindFailed

def openLinuxPacketSocketWithFilter : List OpenCall :=
  [.packetSocket, .attachFilter, .bindPacketSocket]

def openMembershipSocket : SubscriptionAddressFamily → List OpenCall
  | .ipv4 => [.membershipSocket, .setNonblocking, .bindMembershipSocket]
  | .ipv6 => [.membershipSocket, .setOnlyV6, .setNonblocking, .bindMembershipSocket]

/-- `open_raw_socket` and `open_shared_raw_socket`, behind the interface index. -/
def openRawSocket (family : SubscriptionAddressFamily) : List OpenCall :=
  openLinuxPacketSocketWithFilter ++ openMembershipSocket family

/-- What is opened, and what its receives make of a datagram.  The filter rejects nothing
that is wanted. -/
structure Capture (β : Type) where
  family : SubscriptionAddressFamily
  interfaceIndex : UInt32
  instructions : List Instruction
  packet : List UInt8 → Int32 → Option β
  wanted : β → Bool
  transparent : ∀ datagram sllIfindex, accepts instructions datagram = false →
    ∀ item ∈ packet datagram sllIfindex, wanted item = false

def rawCapture (id : SubscriptionId)
    (config : { config : RawSubscriptionConfig // config.validate = .ok () })
    (interfaceIndex : UInt32) : Capture RawPacket where
  family := config.val.family
  interfaceIndex := interfaceIndex
  instructions := bpfIpFilter config.val 0
  packet := linuxPacket id config.val
  wanted _ := true
  transparent datagram sllIfindex hrejected item hitem := by
    rw [linuxPacket_of_rejected config.property id datagram sllIfindex hrejected] at hitem
    cases hitem

/-- A datagram of a shared capture that its filter rejects is not multicast. -/
theorem sharedRawDatagram_of_rejected {key : RawSharedCaptureKey} {datagram : List UInt8}
    {sllIfindex : Int32} {captured : RawCapturedDatagram}
    (hrejected : accepts (bpfIpMulticastFamilyFilter key.family 0) datagram = false)
    (hcaptured : captured ∈ sharedRawDatagram key datagram sllIfindex) :
    captured.group.isMulticast = false := by
  rw [Option.mem_def] at hcaptured
  unfold sharedRawDatagram at hcaptured
  split at hcaptured
  · cases hcaptured
  · next parsed hparse =>
    split at hcaptured
    · cases hcaptured
    · next hfamily =>
      cases hcaptured
      rw [Decidable.not_not] at hfamily
      by_contra hmulticast
      rw [Bool.not_eq_false] at hmulticast
      have hkeeps := familyFilter_keeps hparse hmulticast
      rw [← hfamily, hrejected] at hkeeps
      cases hkeeps

def sharedCapture (key : RawSharedCaptureKey) : Capture RawCapturedDatagram where
  family := key.family
  interfaceIndex := key.interfaceIndex
  instructions := bpfIpMulticastFamilyFilter key.family 0
  packet := sharedRawDatagram key
  wanted captured := captured.group.isMulticast
  transparent _ _ hrejected _ hcaptured := sharedRawDatagram_of_rejected hrejected hcaptured

variable {Q β : Type}

/-! ## Steps -/

inductive Opening where
  | pending (calls : List OpenCall)
  | failed (error : McrxError)
  deriving DecidableEq, Repr

/-- The capture with what it heard before and after it was bound, where there was room in
its queue, and with the receives on it. -/
structure State (Q β : Type) where
  opening : Opening
  socket : Option Q
  early : List Arrival
  late : List Arrival
  calls : Calls Nat RecvResult (Except McrxError (Option β))

inductive Action where
  | call (result : Except IoError Unit)
  | arrive (arrival : Arrival)
  | enter (caller : Nat)
  | read (caller : Nat)
  | finish (caller : Nat)

def Action.caller : Action → Option Nat
  | .call _ | .arrive _ => none
  | .enter caller | .read caller | .finish caller => some caller

def start (capture : Capture β) : State Q β :=
  { opening := .pending (openRawSocket capture.family)
    socket := none
    early := []
    late := []
    calls := ParallelLoop.start }

section Step

variable (kernel : PacketKernel Q) (capture : Capture β)

def perform : OpenCall → Option Q → Option Q
  | .packetSocket, _ => some kernel.socket
  | .attachFilter, socket => socket.map (kernel.attachFilter capture.instructions)
  | .bindPacketSocket, socket => socket.map (kernel.bind capture.interfaceIndex)
  | .membershipSocket, socket | .setOnlyV6, socket | .setNonblocking, socket
  | .bindMembershipSocket, socket => socket

/-- The next call of the opening.  One that fails drops what was opened. -/
def call (result : Except IoError Unit) (s : State Q β) : Option (State Q β) :=
  match s.opening, result with
  | .pending (next :: calls), .ok () =>
    some { s with opening := .pending calls, socket := perform kernel capture next s.socket }
  | .pending (next :: _), .error e =>
    some { s with opening := .failed (next.failure e), socket := none }
  | .pending [], _ => none
  | .failed _, _ => none

/-- Without room in the queue, or in earshot, a datagram is lost. -/
def arrive (arrival : Arrival) (s : State Q β) : State Q β :=
  match s.socket with
  | none => s
  | some socket =>
    let heard := kernel.heard socket arrival
    let s := { s with socket := some (kernel.arrive arrival socket) }
    match (kernel.view socket).boundTo with
    | none => { s with early := s.early ++ heard }
    | some _ => { s with late := s.late ++ heard }

def read (caller : Nat) (s : State Q β) : Option (State Q β) :=
  match s.opening, s.socket with
  | .pending [], some socket =>
    let (answer, socket) := kernel.recvfrom socket
    (ParallelLoop.read caller answer s.calls).map fun calls =>
      { s with socket := some socket, calls := calls }
  | _, _ => none

/-- A step of a receive that reads nothing. -/
def work (receive : Calls Nat RecvResult (Except McrxError (Option β)) →
    Option (Calls Nat RecvResult (Except McrxError (Option β)))) (s : State Q β) :
    Option (State Q β) :=
  match s.opening with
  | .pending [] => (receive s.calls).map fun calls => { s with calls := calls }
  | _ => none

def enter (caller : Nat) : State Q β → Option (State Q β) :=
  work (ParallelLoop.enter (datagramCalls capture.packet) caller)

def finish (caller : Nat) : State Q β → Option (State Q β) :=
  work (ParallelLoop.finish (datagramCalls capture.packet) caller)

def step : Action → State Q β → Option (State Q β)
  | .call result, s => call kernel capture result s
  | .arrive arrival, s => some (arrive kernel arrival s)
  | .enter caller, s => enter capture caller s
  | .read caller, s => read kernel caller s
  | .finish caller, s => finish capture caller s

end Step

/-! ## What is handed out -/

def State.handed (s : State Q β) : List β := packetsOf s.calls.results

/-- What the receives make of some arrivals. -/
def Capture.packets (capture : Capture β) (arrivals : List Arrival) : List β :=
  arrivals.filterMap fun arrival => capture.packet arrival.datagram arrival.sllIfindex

def Capture.held (capture : Capture β) (s : State Q β) : List β :=
  (datagramAccount capture.packet).received s.calls.holding

theorem Capture.packets_append (capture : Capture β) (first second : List Arrival) :
    capture.packets (first ++ second) = capture.packets first ++ capture.packets second :=
  List.filterMap_append

def Capture.expected (capture : Capture β) (arrivals : List Arrival) : List β :=
  (capture.packets arrivals).filter capture.wanted

theorem Capture.expected_append (capture : Capture β) (first second : List Arrival) :
    capture.expected (first ++ second) = capture.expected first ++ capture.expected second := by
  rw [expected, packets_append, List.filter_append]
  rfl

/-- What the filter rejects is not expected. -/
theorem Capture.expected_of_rejected (capture : Capture β) {arrival : Arrival}
    (h : accepts capture.instructions arrival.datagram = false) :
    capture.expected [arrival] = [] := by
  have hunwanted := capture.transparent arrival.datagram arrival.sllIfindex h
  rw [expected, packets, List.filter_eq_nil_iff]
  intro item hitem
  obtain ⟨other, hother, hpacket⟩ := List.mem_filterMap.mp hitem
  obtain rfl := List.mem_singleton.mp hother
  rw [hunwanted item hpacket]
  exact Bool.false_ne_true

def State.reads (s : State Q β) : List Arrival :=
  (datagramsOf (s.calls.reads.map ParallelLoop.Read.entry)).map fun frame => ⟨frame.1, frame.2⟩

theorem Capture.received_reads (capture : Capture β) (s : State Q β) :
    (datagramAccount capture.packet).received s.calls.reads = capture.packets s.reads := by
  have hreceived := received_datagrams capture.packet
    (s.calls.reads.map ParallelLoop.Read.entry)
  rw [List.flatMap_map] at hreceived
  rw [packets, State.reads, List.filterMap_map]
  exact hreceived

def Capture.OnInterface (capture : Capture β) (arrival : Arrival) : Prop :=
  capture.interfaceIndex = 0 ∨ arrival.sllIfindex = capture.interfaceIndex.toInt32

/-! ## Invariant -/

/-- A socket with these calls of the opening still to come. -/
structure Hearing (capture : Capture β) (calls : List OpenCall) (shown : SocketView)
    (s : State Q β) : Prop where
  nodup : (OpenCall.packetSocket :: calls).Nodup
  filter : shown.filter =
    if OpenCall.attachFilter ∈ calls then none else some capture.instructions
  boundTo : shown.boundTo =
    if OpenCall.bindPacketSocket ∈ calls then none else some capture.interfaceIndex
  unbound : OpenCall.bindPacketSocket ∈ calls → s.late = []
  late : ∀ arrival ∈ s.late, capture.OnInterface arrival
  conserved : capture.expected (s.reads ++ shown.queue) = capture.expected (s.early ++ s.late)

/-- An opening that failed has no socket, and nothing was received. -/
def Opened (kernel : PacketKernel Q) (capture : Capture β) (s : State Q β) : Prop :=
  match s.opening with
  | .failed _ => s.socket = none ∧ s.calls = ParallelLoop.start
  | .pending calls => ∃ socket, s.socket = some socket ∧
      Hearing capture calls (kernel.view socket) s ∧ (calls ≠ [] → s.calls = ParallelLoop.start)

/-- Before the first call nothing is heard. -/
def Invariant (kernel : PacketKernel Q) (capture : Capture β) (s : State Q β) : Prop :=
  s = start capture ∨ Opened kernel capture s

section Steps

variable {kernel : PacketKernel Q} {capture : Capture β} {s s' : State Q β}

theorem openRawSocket_nodup (family : SubscriptionAddressFamily) :
    (openRawSocket family).Nodup := by
  cases family <;> decide

/-- The first call creates the socket. -/
theorem call_start (hkernel : kernel.Documented) {result : Except IoError Unit}
    (h : call kernel capture result (start capture) = some s') : Opened kernel capture s' := by
  have hcalls : ∃ rest, openRawSocket capture.family = .packetSocket :: rest ∧
      .attachFilter ∈ rest ∧ .bindPacketSocket ∈ rest := by
    rw [openRawSocket]
    refine ⟨_, rfl, ?_, ?_⟩ <;> cases capture.family <;> decide
  obtain ⟨rest, hrest, hattach, hbind⟩ := hcalls
  have hnodup := openRawSocket_nodup capture.family
  rw [hrest] at hnodup
  unfold call start at h
  rw [hrest] at h
  cases result with
  | error e =>
    cases h
    exact ⟨rfl, rfl⟩
  | ok _ =>
    cases h
    refine ⟨kernel.socket, rfl, ?_, fun _ => rfl⟩
    rw [hkernel.socket]
    refine ⟨hnodup, ?_, ?_, fun _ => rfl, ?_, rfl⟩
    · rw [if_pos hattach]
      rfl
    · rw [if_pos hbind]
      rfl
    · intro arrival harrival
      cases harrival

section Perform

variable {next : OpenCall} {calls : List OpenCall} {socket : Q}

/-- A call that does nothing to the socket. -/
theorem Hearing.skip {shown : SocketView} (h : Hearing capture (next :: calls) shown s)
    (hattach : next ≠ .attachFilter) (hbind : next ≠ .bindPacketSocket)
    (hnodup : (OpenCall.packetSocket :: calls).Nodup) : Hearing capture calls shown s := by
  have hfilter := h.filter
  have hbound := h.boundTo
  refine ⟨hnodup, ?_, ?_, fun hmem => h.unbound (List.mem_cons_of_mem _ hmem), h.late,
    h.conserved⟩
  · simpa [List.mem_cons, hattach.symm] using hfilter
  · simpa [List.mem_cons, hbind.symm] using hbound

/-- A later call attaches the filter, binds the socket, or leaves it. -/
theorem Hearing.perform (hkernel : kernel.Documented)
    (h : Hearing capture (next :: calls) (kernel.view socket) s) :
    ∃ socket', perform kernel capture next (some socket) = some socket' ∧
      Hearing capture calls (kernel.view socket') s := by
  have hnodup := h.nodup
  rw [List.nodup_cons, List.nodup_cons, List.mem_cons, not_or] at hnodup
  obtain ⟨⟨hne, hcreated⟩, hnext, hcalls⟩ := hnodup
  have hnodup' : (OpenCall.packetSocket :: calls).Nodup := List.nodup_cons.mpr ⟨hcreated, hcalls⟩
  cases next with
  | packetSocket => exact absurd rfl hne
  | attachFilter =>
    have hbound := h.boundTo
    refine ⟨kernel.attachFilter capture.instructions socket, rfl, ?_⟩
    rw [hkernel.attachFilter]
    refine ⟨hnodup', ?_, ?_, ?_, h.late, h.conserved⟩
    · rw [if_neg hnext]
    · simpa using hbound
    · intro hmem
      exact h.unbound (List.mem_cons_of_mem _ hmem)
  | bindPacketSocket =>
    have hfilter := h.filter
    refine ⟨kernel.bind capture.interfaceIndex socket, rfl, ?_⟩
    rw [hkernel.bind]
    refine ⟨hnodup', ?_, ?_, ?_, h.late, h.conserved⟩
    · simpa using hfilter
    · rw [if_neg hnext]
    · intro hmem
      exact absurd hmem hnext
  | membershipSocket => exact ⟨socket, rfl, h.skip (by decide) (by decide) hnodup'⟩
  | setOnlyV6 => exact ⟨socket, rfl, h.skip (by decide) (by decide) hnodup'⟩
  | setNonblocking => exact ⟨socket, rfl, h.skip (by decide) (by decide) hnodup'⟩
  | bindMembershipSocket => exact ⟨socket, rfl, h.skip (by decide) (by decide) hnodup'⟩

end Perform

theorem Opened.call (hkernel : kernel.Documented) (h : Opened kernel capture s)
    {result : Except IoError Unit} (hcall : LinuxCapture.call kernel capture result s = some s') :
    Opened kernel capture s' := by
  cases hopening : s.opening with
  | failed error =>
    simp only [LinuxCapture.call, hopening] at hcall
    cases hcall
  | pending calls =>
    simp only [Opened, hopening] at h
    obtain ⟨socket, hsocket, hhearing, hquiet⟩ := h
    cases calls with
    | nil =>
      simp only [LinuxCapture.call, hopening] at hcall
      cases hcall
    | cons next calls =>
      have hstarted := hquiet (List.cons_ne_nil _ _)
      cases result with
      | error e =>
        simp only [LinuxCapture.call, hopening] at hcall
        cases hcall
        exact ⟨rfl, hstarted⟩
      | ok _ =>
        obtain ⟨socket', hperform, hhearing'⟩ := hhearing.perform hkernel
        simp only [LinuxCapture.call, hopening, hsocket, hperform] at hcall
        cases hcall
        refine ⟨socket', rfl, ?_, fun _ => hstarted⟩
        exact ⟨hhearing'.nodup, hhearing'.filter, hhearing'.boundTo, hhearing'.unbound,
          hhearing'.late, hhearing'.conserved⟩

/-- A socket queues what it hears unless it is unwanted. -/
theorem expected_arrive (hkernel : kernel.Documented) {socket : Q}
    (hfilter : ∀ program ∈ (kernel.view socket).filter, program = capture.instructions)
    (reads : List Arrival) (arrival : Arrival) :
    capture.expected (reads ++ (kernel.view (kernel.arrive arrival socket)).queue) =
      capture.expected (reads ++ (kernel.view socket).queue) ++
        capture.expected (kernel.heard socket arrival) := by
  rw [hkernel.arrive, PacketKernel.heard]
  cases hhears : (kernel.view socket).hears arrival && kernel.room socket arrival with
  | false =>
    have hlost : ((kernel.view socket).hears arrival && (kernel.view socket).keeps arrival &&
        kernel.room socket arrival) = false := by
      grind
    rw [if_neg (Bool.eq_false_iff.mp hlost), if_neg Bool.false_ne_true]
    exact (List.append_nil _).symm
  | true =>
    rw [Bool.and_eq_true] at hhears
    rw [hhears.1, hhears.2, Bool.true_and, Bool.and_true, if_pos rfl]
    cases hkeeps : (kernel.view socket).keeps arrival with
    | true =>
      rw [if_pos rfl]
      show capture.expected (reads ++ ((kernel.view socket).queue ++ [arrival])) = _
      rw [← List.append_assoc, capture.expected_append]
    | false =>
      rw [if_neg Bool.false_ne_true]
      unfold SocketView.keeps at hkeeps
      cases hprogram : (kernel.view socket).filter with
      | none =>
        rw [hprogram] at hkeeps
        cases hkeeps
      | some program =>
        rw [hprogram] at hkeeps
        obtain rfl := hfilter program hprogram
        rw [capture.expected_of_rejected hkeeps, List.append_nil]

theorem arrive_kept (hkernel : kernel.Documented) (arrival : Arrival) (socket : Q) :
    (kernel.view (kernel.arrive arrival socket)).filter = (kernel.view socket).filter ∧
      (kernel.view (kernel.arrive arrival socket)).boundTo = (kernel.view socket).boundTo := by
  rw [hkernel.arrive]
  split <;> exact ⟨rfl, rfl⟩

theorem Opened.arrive (hkernel : kernel.Documented) (h : Opened kernel capture s)
    (arrival : Arrival) : Opened kernel capture (arrive kernel arrival s) := by
  cases hopening : s.opening with
  | failed error =>
    simp only [Opened, hopening] at h
    simp only [LinuxCapture.arrive, h.1, Opened, hopening]
    exact ⟨trivial, h.2⟩
  | pending calls =>
    simp only [Opened, hopening] at h
    obtain ⟨socket, hsocket, hhearing, hquiet⟩ := h
    have hfilter : ∀ program ∈ (kernel.view socket).filter, program = capture.instructions := by
      intro program hprogram
      rw [hhearing.filter] at hprogram
      split at hprogram
      · cases hprogram
      · exact (Option.some.inj hprogram).symm
    obtain ⟨hfilter', hboundTo'⟩ := arrive_kept hkernel arrival socket
    have hconserved := expected_arrive hkernel hfilter s.reads arrival
    rw [hhearing.conserved] at hconserved
    have hbound := hhearing.boundTo
    simp only [LinuxCapture.arrive, hsocket]
    cases hboundTo : (kernel.view socket).boundTo with
    | none =>
      have hbinding : .bindPacketSocket ∈ calls := by
        by_contra hbinding
        rw [hboundTo, if_neg hbinding] at hbound
        cases hbound
      have hnone := hhearing.unbound hbinding
      simp only [Opened, hopening]
      refine ⟨_, rfl, ⟨hhearing.nodup, ?_, ?_, hhearing.unbound, hhearing.late, ?_⟩, hquiet⟩
      · rw [hfilter']
        exact hhearing.filter
      · rw [hboundTo']
        exact hhearing.boundTo
      · show capture.expected (s.reads ++ _) =
          capture.expected (s.early ++ kernel.heard socket arrival ++ s.late)
        rw [hconserved, hnone, List.append_nil, List.append_nil, capture.expected_append]
    | some interfaceIndex =>
      have hbinding : .bindPacketSocket ∉ calls := by
        intro hbinding
        rw [hboundTo, if_pos hbinding] at hbound
        cases hbound
      rw [hboundTo, if_neg hbinding] at hbound
      have hinterface := Option.some.inj hbound
      simp only [Opened, hopening]
      refine ⟨_, rfl, ⟨hhearing.nodup, ?_, ?_, fun hmem => absurd hmem hbinding, ?_, ?_⟩, hquiet⟩
      · rw [hfilter']
        exact hhearing.filter
      · rw [hboundTo']
        exact hhearing.boundTo
      · intro other hother
        rcases List.mem_append.mp hother with hold | hnew
        · exact hhearing.late other hold
        · rw [PacketKernel.heard] at hnew
          split at hnew
          · next hheard =>
            obtain rfl := List.mem_singleton.mp hnew
            have hhears := (Bool.and_eq_true_iff.mp hheard).1
            rw [SocketView.hears, hboundTo, hinterface] at hhears
            simpa [Capture.OnInterface] using hhears
          · cases hnew
      · show capture.expected (s.reads ++ _) =
          capture.expected (s.early ++ (s.late ++ kernel.heard socket arrival))
        rw [hconserved, ← List.append_assoc, capture.expected_append (s.early ++ s.late)]

theorem reads_append (s : State Q β) {calls : Calls Nat RecvResult (Except McrxError (Option β))}
    {read : ParallelLoop.Read Nat RecvResult} (h : calls.reads = s.calls.reads ++ [read]) :
    State.reads { s with calls := calls } = s.reads ++
      (datagramsOf [read.entry]).map fun frame => ⟨frame.1, frame.2⟩ := by
  simp only [State.reads, h, List.map_append, datagramsOf, List.filterMap_append, List.map_cons,
    List.map_nil]

/-- What a read takes off the queue is among the reads. -/
theorem Reads.conserved {shown shown' : SocketView} {answer : RecvResult}
    (h : shown.Reads answer shown') (caller own : Nat) :
    ((datagramsOf [(ParallelLoop.Read.mk caller own answer).entry]).map fun frame =>
        Arrival.mk frame.1 frame.2) ++ shown'.queue = shown.queue ∧
      shown'.filter = shown.filter ∧ shown'.boundTo = shown.boundTo := by
  cases h with
  | received head => exact ⟨head.symm, rfl, rfl⟩
  | wouldBlock empty => exact ⟨rfl, rfl, rfl⟩
  | failed error => exact ⟨rfl, rfl, rfl⟩

theorem Opened.read (hkernel : kernel.Documented) (h : Opened kernel capture s) {caller : Nat}
    (hread : LinuxCapture.read kernel caller s = some s') : Opened kernel capture s' := by
  unfold LinuxCapture.read at hread
  split at hread
  · next socket hopening hsocket =>
    simp only [Opened, hopening] at h
    obtain ⟨socket', hsocket', hhearing, -⟩ := h
    obtain rfl := Option.some.inj (hsocket.symm.trans hsocket')
    obtain ⟨calls, hcalls, rfl⟩ := Option.map_eq_some_iff.mp hread
    obtain ⟨own, hreads, -, -⟩ := ParallelLoop.read_eq hcalls
    obtain ⟨hqueue, hfilter, hboundTo⟩ :=
      Reads.conserved (hkernel.recvfrom socket) caller own
    simp only [Opened, hopening]
    refine ⟨_, rfl, ⟨hhearing.nodup, ?_, ?_, hhearing.unbound, hhearing.late, ?_⟩,
      fun hne => absurd rfl hne⟩
    · rw [hfilter]
      exact hhearing.filter
    · rw [hboundTo]
      exact hhearing.boundTo
    · have hconserved := hhearing.conserved
      rw [← hqueue, ← List.append_assoc] at hconserved
      rw [← hconserved]
      exact congrArg (fun reads => capture.expected (reads ++ _)) (reads_append s hreads)
  · cases hread

theorem Opened.work (h : Opened kernel capture s) (hopening : s.opening = .pending [])
    {calls : Calls Nat RecvResult (Except McrxError (Option β))}
    (hreads : calls.reads = s.calls.reads) : Opened kernel capture { s with calls := calls } := by
  simp only [Opened, hopening] at h
  obtain ⟨socket, hsocket, hhearing, -⟩ := h
  simp only [Opened, hopening]
  refine ⟨socket, hsocket, ⟨hhearing.nodup, hhearing.filter, hhearing.boundTo, hhearing.unbound,
    hhearing.late, ?_⟩, fun hne => absurd rfl hne⟩
  have hconserved := hhearing.conserved
  unfold State.reads at hconserved ⊢
  rw [hreads]
  exact hconserved

theorem work_split {receive : Calls Nat RecvResult (Except McrxError (Option β)) →
    Option (Calls Nat RecvResult (Except McrxError (Option β)))} (h : work receive s = some s') :
    ∃ calls, s.opening = .pending [] ∧ receive s.calls = some calls ∧
      s' = { s with calls := calls } := by
  unfold work at h
  split at h
  · next hopening =>
    obtain ⟨calls, hcalls, rfl⟩ := Option.map_eq_some_iff.mp h
    exact ⟨calls, hopening, hcalls, rfl⟩
  · cases h

theorem Invariant.step (hkernel : kernel.Documented) (h : Invariant kernel capture s)
    {action : Action} (hstep : step kernel capture action s = some s') :
    Invariant kernel capture s' := by
  rcases h with rfl | h
  · cases action with
    | call result => exact .inr (call_start hkernel hstep)
    | arrive arrival =>
      cases hstep
      exact .inl rfl
    | enter caller => cases hstep
    | read caller => cases hstep
    | finish caller => cases hstep
  · cases action with
    | call result => exact .inr (h.call hkernel hstep)
    | arrive arrival =>
      cases hstep
      exact .inr (h.arrive hkernel arrival)
    | enter caller =>
      obtain ⟨calls, hopening, hcalls, rfl⟩ := work_split hstep
      exact .inr (h.work hopening (ParallelLoop.enter_eq hcalls).1)
    | read caller => exact .inr (h.read hkernel hstep)
    | finish caller =>
      obtain ⟨calls, hopening, hcalls, rfl⟩ := work_split hstep
      exact .inr (h.work hopening (ParallelLoop.finish_eq hcalls).1)

theorem call_calls {result : Except IoError Unit} (h : call kernel capture result s = some s') :
    s'.calls = s.calls := by
  unfold call at h
  split at h
  · cases h
    rfl
  · cases h
    rfl
  · cases h
  · cases h

theorem arrive_calls (kernel : PacketKernel Q) (arrival : Arrival) (s : State Q β) :
    (arrive kernel arrival s).calls = s.calls := by
  unfold arrive
  split
  · rfl
  · dsimp only
    split <;> rfl

/-- A step leaves the receives, or is a step of theirs. -/
theorem calls_step {action : Action} (h : step kernel capture action s = some s') :
    s'.calls = s.calls ∨ ∃ work : ParallelLoop.Action RecvResult,
      action.caller = some work.caller ∧
      ParallelLoop.step (datagramCalls capture.packet) work s.calls = some s'.calls := by
  cases action with
  | call result => exact .inl (call_calls h)
  | arrive arrival =>
    cases h
    exact .inl (arrive_calls kernel arrival s)
  | enter caller =>
    obtain ⟨calls, -, hcalls, rfl⟩ := work_split h
    exact .inr ⟨.enter caller, rfl, hcalls⟩
  | read caller =>
    have hread : read kernel caller s = some s' := h
    unfold read at hread
    split at hread
    · next socket _ _ =>
      obtain ⟨calls, hcalls, rfl⟩ := Option.map_eq_some_iff.mp hread
      exact .inr ⟨.read caller (kernel.recvfrom socket).1, rfl, hcalls⟩
    · cases hread
  | finish caller =>
    obtain ⟨calls, -, hcalls, rfl⟩ := work_split h
    exact .inr ⟨.finish caller, rfl, hcalls⟩

variable {actions : List Action}

/-- What a run of the opening and the receives keeps. -/
theorem reached (hkernel : kernel.Documented)
    (h : Transition.run (step kernel capture) actions (start capture) = some s) :
    Invariant kernel capture s ∧ (datagramAccount capture.packet).Books s.calls := by
  refine @Transition.invariant _ _ (step kernel capture) _ _ _
    (fun s => Invariant kernel capture s ∧ (datagramAccount capture.packet).Books s.calls)
    ?_ ⟨.inl rfl, ParallelLoop.Account.books_start⟩ h
  rintro s₁ action s₂ ⟨hinvariant, hbooks⟩ hstep
  refine ⟨hinvariant.step hkernel hstep, ?_⟩
  rcases calls_step hstep with hcalls | ⟨work, -, hwork⟩
  · rw [hcalls]
    exact hbooks
  · exact hbooks.step (datagramCalls_balances capture.packet) hwork

/-- One caller at a time, and always the same. -/
theorem reached_alone {caller : Nat}
    (halone : ∀ action ∈ actions, ∀ other ∈ action.caller, other = caller)
    (h : Transition.run (step kernel capture) actions (start capture) = some s) :
    ParallelLoop.Alone caller s.calls := by
  have hmeets : Transition.Meets (step kernel capture)
      (fun _ action => ∀ other ∈ action.caller, other = caller) actions (start capture) :=
    Transition.meets_of_mem (fun action hmem _ => halone action hmem) (start capture)
  refine @Transition.invariant_of_meets _ _ (step kernel capture) _ _ _ _
    (fun s => ParallelLoop.Alone caller s.calls) ?_ hmeets ParallelLoop.alone_start h
  intro s₁ action s₂ hcaller h₁ hstep
  rcases calls_step hstep with hcalls | ⟨work, haction, hwork⟩
  · rw [hcalls]
    exact h₁
  · exact h₁.step (hcaller work.caller haction) hwork

/-- An opening that fails leaves no socket, and nothing is received without one.  What a
socket had read or queued is in its wanted part what it heard. -/
theorem reached_hearing (hkernel : kernel.Documented)
    (h : Transition.run (step kernel capture) actions (start capture) = some s) :
    (∀ error, s.opening = .failed error → s.socket = none) ∧
    (s.socket = none → s.calls = ParallelLoop.start) ∧
    ∀ socket, s.socket = some socket →
      capture.expected (s.reads ++ (kernel.view socket).queue) =
        capture.expected (s.early ++ s.late) ∧
      ∀ arrival ∈ s.late, capture.OnInterface arrival := by
  obtain ⟨hinvariant, -⟩ := reached hkernel h
  rcases hinvariant with rfl | hopened
  · refine ⟨?_, fun _ => rfl, ?_⟩
    · intro error hopening
      cases hopening
    · intro socket hsocket
      cases hsocket
  · cases hopening : s.opening with
    | failed error =>
      simp only [Opened, hopening] at hopened
      obtain ⟨hnone, hcalls⟩ := hopened
      refine ⟨fun _ _ => hnone, fun _ => hcalls, ?_⟩
      intro socket hsocket
      rw [hnone] at hsocket
      cases hsocket
    | pending calls =>
      simp only [Opened, hopening] at hopened
      obtain ⟨socket, hsocket, hhearing, -⟩ := hopened
      refine ⟨?_, ?_, ?_⟩
      · intro error hfailed
        cases hfailed
      · intro hnone
        rw [hsocket] at hnone
        cases hnone
      · intro socket' hsocket'
        obtain rfl := Option.some.inj (hsocket.symm.trans hsocket')
        exact ⟨hhearing.conserved, hhearing.late⟩

end Steps

/-! ## Captures of subscriptions -/

/-- The interface of a packet is that of its arrival. -/
theorem linuxPacket_ingress {id : SubscriptionId} {config : RawSubscriptionConfig}
    {datagram : List UInt8} {sllIfindex : Int32} {packet : RawPacket}
    (h : linuxPacket id config datagram sllIfindex = some packet) :
    packet.metadata.ingressInterfaceIndex =
      if 0 < sllIfindex then some sllIfindex.toUInt32 else none := by
  unfold linuxPacket at h
  split at h
  · cases h
  · split at h
    · cases h
    · cases h
      rfl

theorem sharedRawDatagram_ingress {key : RawSharedCaptureKey} {datagram : List UInt8}
    {sllIfindex : Int32} {captured : RawCapturedDatagram}
    (h : sharedRawDatagram key datagram sllIfindex = some captured) :
    captured.ingressInterfaceIndex = if 0 < sllIfindex then some sllIfindex.toUInt32 else none := by
  unfold sharedRawDatagram at h
  split at h
  · cases h
  · split at h
    · cases h
    · cases h
      rfl

/-- An arrival on the interface of the capture shows its index. -/
theorem Capture.OnInterface.ingress {capture : Capture β} {arrival : Arrival}
    (h : capture.OnInterface arrival) (hpositive : 0 < capture.interfaceIndex.toInt32) :
    (if 0 < arrival.sllIfindex then some arrival.sllIfindex.toUInt32 else none) =
      some capture.interfaceIndex := by
  rcases h with hany | hindex
  · rw [hany] at hpositive
    cases hpositive
  · rw [hindex, if_pos hpositive]
    simp

section RawCapture

variable {kernel : PacketKernel Q} {id : SubscriptionId}
  {config : { config : RawSubscriptionConfig // config.validate = .ok () }}
  {interfaceIndex : UInt32} {actions : List Action} {s : State Q RawPacket} {socket : Q}

theorem expected_rawCapture (arrivals : List Arrival) :
    (rawCapture id config interfaceIndex).expected arrivals =
      (rawCapture id config interfaceIndex).packets arrivals :=
  List.filter_eq_self.mpr fun _ _ => rfl

variable (hkernel : kernel.Documented)
  (h : Transition.run (step kernel (rawCapture id config interfaceIndex)) actions
    (start (rawCapture id config interfaceIndex)) = some s)
  (hsocket : s.socket = some socket)

include hkernel h hsocket

/-- What was read and what waits in the queue is what was heard. -/
theorem rawCapture_heard :
    let capture := rawCapture id config interfaceIndex
    capture.packets s.reads ++ capture.packets (kernel.view socket).queue =
      capture.packets (s.early ++ s.late) := by
  intro capture
  obtain ⟨-, -, hheard⟩ := reached_hearing hkernel h
  have hconserved := (hheard socket hsocket).1
  rw [expected_rawCapture, expected_rawCapture, capture.packets_append] at hconserved
  exact hconserved

theorem rawCapture_perm :
    let capture := rawCapture id config interfaceIndex
    (s.handed ++ capture.held s ++ capture.packets (kernel.view socket).queue).Perm
      (capture.packets (s.early ++ s.late)) := by
  intro capture
  have heachOnce := (reached hkernel h).2.eachOnce
  rw [capture.received_reads] at heachOnce
  rw [← rawCapture_heard hkernel h hsocket]
  exact heachOnce.symm.append_right _

theorem rawCapture_sublist (caller : Nat) :
    (packetsOf (s.calls.results.filter fun result => result.1 == caller)).Sublist
      ((rawCapture id config interfaceIndex).packets (s.early ++ s.late)) := by
  have hown : (packetsOf (s.calls.results.filter fun result => result.1 == caller)).Sublist
      ((datagramAccount (rawCapture id config interfaceIndex).packet).received
        (s.calls.reads.filter (ParallelLoop.Read.isOf caller))) := by
    rw [(reached hkernel h).2.inOrder caller]
    exact List.sublist_append_left _ _
  have hall : ((datagramAccount (rawCapture id config interfaceIndex).packet).received
      (s.calls.reads.filter (ParallelLoop.Read.isOf caller))).Sublist
      ((rawCapture id config interfaceIndex).packets s.reads) := by
    rw [← Capture.received_reads]
    exact List.filter_sublist.flatMap _
  rw [← rawCapture_heard hkernel h hsocket]
  exact (hown.trans hall).trans (List.sublist_append_left _ _)

/-- The packets of late arrivals show the interface. -/
theorem rawCapture_late (hpositive : 0 < interfaceIndex.toInt32) {packet : RawPacket}
    (hpacket : packet ∈ (rawCapture id config interfaceIndex).packets s.late) :
    packet.metadata.ingressInterfaceIndex = some interfaceIndex := by
  obtain ⟨-, -, hheard⟩ := reached_hearing hkernel h
  obtain ⟨arrival, harrival, hlinux⟩ := List.mem_filterMap.mp hpacket
  rw [linuxPacket_ingress hlinux]
  exact ((hheard socket hsocket).2 arrival harrival).ingress hpositive

theorem rawCapture_others (hpositive : 0 < interfaceIndex.toInt32) :
    (s.handed.filter fun packet =>
      packet.metadata.ingressInterfaceIndex != some interfaceIndex).Subperm
      ((rawCapture id config interfaceIndex).packets s.early) := by
  have hhanded : s.handed.Subperm
      ((rawCapture id config interfaceIndex).packets (s.early ++ s.late)) := by
    apply List.Subperm.trans _ (rawCapture_perm hkernel h hsocket).subperm
    rw [List.append_assoc]
    exact (List.sublist_append_left _ _).subperm
  have hlate : ((rawCapture id config interfaceIndex).packets s.late).filter (fun packet =>
      packet.metadata.ingressInterfaceIndex != some interfaceIndex) = [] := by
    apply List.filter_eq_nil_iff.mpr
    intro packet hpacket
    rw [rawCapture_late hkernel h hsocket hpositive hpacket, bne_self_eq_false]
    exact Bool.false_ne_true
  have hothers := hhanded.filter fun packet =>
    packet.metadata.ingressInterfaceIndex != some interfaceIndex
  rw [Capture.packets_append, List.filter_append, hlate, List.append_nil] at hothers
  exact hothers.trans List.filter_sublist.subperm

end RawCapture

/-- However the datagrams that arrive fall between the calls that open the capture of a raw
subscription and the steps of the threads in its receive, an opening that fails leaves no
socket, and nothing is received without one.  The threads return each packet of what the
socket heard once, but for those that they hold or that wait in the queue, and each thread
returns its own in order: the filter loses none, whether it was attached in time or not.
The packets of other interfaces are among what arrived before the socket was bound. -/
theorem raw_capture_conserves {kernel : PacketKernel Q} (hkernel : kernel.Documented)
    (id : SubscriptionId)
    (config : { config : RawSubscriptionConfig // config.validate = .ok () })
    (interfaceIndex : UInt32) {actions : List Action} {s : State Q RawPacket}
    (h : Transition.run (step kernel (rawCapture id config interfaceIndex)) actions
      (start (rawCapture id config interfaceIndex)) = some s) :
    let capture := rawCapture id config interfaceIndex
    (∀ error, s.opening = .failed error → s.socket = none) ∧
    (s.socket = none → s.calls.results = []) ∧
    (∀ socket, s.socket = some socket →
      (s.handed ++ capture.held s ++ capture.packets (kernel.view socket).queue).Perm
        (capture.packets (s.early ++ s.late))) ∧
    (∀ caller, (packetsOf (s.calls.results.filter fun result => result.1 == caller)).Sublist
      (capture.packets (s.early ++ s.late))) ∧
    (0 < interfaceIndex.toInt32 →
      (s.handed.filter fun packet =>
        packet.metadata.ingressInterfaceIndex != some interfaceIndex).Subperm
        (capture.packets s.early)) := by
  intro capture
  obtain ⟨hfailed, hsilent, -⟩ := reached_hearing hkernel h
  have hnone : s.socket = none → s.calls.results = [] := by
    intro hsocket
    rw [hsilent hsocket]
    rfl
  refine ⟨hfailed, hnone, fun socket hsocket => rawCapture_perm hkernel h hsocket, ?_, ?_⟩
  · intro caller
    cases hsocket : s.socket with
    | none =>
      rw [hnone hsocket]
      exact List.nil_sublist _
    | some socket => exact rawCapture_sublist hkernel h hsocket caller
  · intro hpositive
    cases hsocket : s.socket with
    | none =>
      rw [State.handed, hnone hsocket]
      exact List.nil_subperm
    | some socket => exact rawCapture_others hkernel h hsocket hpositive

/-- A packet socket that is no more than what its documentation speaks about. -/
def plainKernel : PacketKernel SocketView where
  view := id
  room := fun _ _ => true
  socket := .unbound
  attachFilter := fun program shown => { shown with filter := some program }
  bind := fun interfaceIndex shown => { shown with boundTo := some interfaceIndex }
  arrive := fun arrival shown =>
    if shown.hears arrival && shown.keeps arrival then
      { shown with queue := shown.queue ++ [arrival] }
    else shown
  recvfrom := fun shown =>
    match shown.queue with
    | [] => (.wouldBlock, shown)
    | arrival :: queue =>
      (.received arrival.datagram arrival.sllIfindex, { shown with queue := queue })

theorem plainKernel_documented : plainKernel.Documented where
  socket := rfl
  attachFilter := fun _ _ => rfl
  bind := fun _ _ => rfl
  arrive := by
    intro arrival shown
    show (if shown.hears arrival && shown.keeps arrival then _ else shown) =
      if shown.hears arrival && shown.keeps arrival && true then _ else shown
    rw [Bool.and_true]
    rfl
  recvfrom := by
    intro shown
    show shown.Reads (plainKernel.recvfrom shown).1 (plainKernel.recvfrom shown).2
    unfold plainKernel
    dsimp only
    split
    · next hqueue => exact .wouldBlock hqueue
    · next hqueue => exact .received hqueue

/-- A capture on interface 7 that is slow to open: a datagram of interface 9 gets in before
the filter, and one of interface 7 behind the bind. -/
def slowOpening : List Action :=
  [.call (.ok ()), .arrive ⟨paddedDatagram, 9⟩, .arrive ⟨[1, 2], 9⟩, .call (.ok ()),
    .call (.ok ()), .arrive ⟨paddedDatagram, 9⟩, .call (.ok ()), .arrive ⟨paddedDatagram, 7⟩,
    .call (.ok ()), .call (.ok ())]

def twoReceivers : List Action :=
  [.enter 0, .enter 1, .read 0, .read 1, .finish 1, .read 1, .finish 1, .finish 0]

def slowConfig : { config : RawSubscriptionConfig // config.validate = .ok () } :=
  ⟨.asm (.v4 (.new 239 1 2 3)), by decide⟩

theorem raw_capture_conserves_slow_opening :
    ∃ s, Transition.run (step plainKernel (rawCapture ⟨1⟩ slowConfig 7))
        (slowOpening ++ twoReceivers) (start (rawCapture ⟨1⟩ slowConfig 7)) = some s ∧
      s.handed.map (fun packet => packet.metadata.ingressInterfaceIndex) = [some 7, some 9] ∧
      (s.handed.filter fun packet =>
        packet.metadata.ingressInterfaceIndex != some 7).Subperm
        ((rawCapture ⟨1⟩ slowConfig 7).packets s.early) := by
  have hend : (Transition.run (step plainKernel (rawCapture ⟨1⟩ slowConfig 7))
      (slowOpening ++ twoReceivers) (start (rawCapture ⟨1⟩ slowConfig 7))).any (fun s => decide
        (s.handed.map (fun packet => packet.metadata.ingressInterfaceIndex) =
          [some 7, some 9])) = true := by
    decide +kernel
  obtain ⟨s, hrun, hs⟩ := Transition.exists_of_run_any hend
  have hconserve := raw_capture_conserves plainKernel_documented ⟨1⟩ slowConfig 7 hrun
  exact ⟨s, hrun, of_decide_eq_true hs, hconserve.2.2.2.2 (by decide)⟩

section SharedCapture

variable {kernel : PacketKernel Q} {key : RawSharedCaptureKey} {caller : Nat}
  {actions : List Action} {s : State Q RawCapturedDatagram}

/-- What one receiver returned and holds, and what waits in the queue, in order. -/
theorem sharedCapture_heard (hkernel : kernel.Documented)
    (halone : ∀ action ∈ actions, ∀ other ∈ action.caller, other = caller)
    (h : Transition.run (step kernel (sharedCapture key)) actions (start (sharedCapture key)) =
      some s) {socket : Q} (hsocket : s.socket = some socket) :
    let capture := sharedCapture key
    s.handed.filter capture.wanted ++ (capture.held s).filter capture.wanted ++
      capture.expected (kernel.view socket).queue = capture.expected (s.early ++ s.late) := by
  intro capture
  obtain ⟨-, -, hheard⟩ := reached_hearing hkernel h
  have hreads := (reached hkernel h).2.alone (reached_alone halone h)
  rw [capture.received_reads] at hreads
  rw [← List.filter_append, ← (hheard socket hsocket).1, capture.expected_append]
  exact congrArg (fun packets => packets.filter capture.wanted ++ _) hreads.symm

end SharedCapture

/-- The same of a shared capture and the multicast datagrams of its family.  Its receive
borrows the context for itself, so that there is one receiver, which returns them in order. -/
theorem shared_capture_conserves {kernel : PacketKernel Q} (hkernel : kernel.Documented)
    (key : RawSharedCaptureKey) {caller : Nat} {actions : List Action}
    (halone : ∀ action ∈ actions, ∀ other ∈ action.caller, other = caller)
    {s : State Q RawCapturedDatagram}
    (h : Transition.run (step kernel (sharedCapture key)) actions (start (sharedCapture key)) =
      some s) :
    let capture := sharedCapture key
    let multicast := List.filter fun captured : RawCapturedDatagram => captured.group.isMulticast
    (∀ error, s.opening = .failed error → s.socket = none) ∧
    (s.socket = none → s.calls.results = []) ∧
    (∀ socket, s.socket = some socket →
      multicast s.handed ++ multicast (capture.held s) ++
          multicast (capture.packets (kernel.view socket).queue) =
        multicast (capture.packets (s.early ++ s.late))) ∧
    (0 < key.interfaceIndex.toInt32 →
      ∀ captured ∈ (multicast s.handed).drop (multicast (capture.packets s.early)).length,
        captured.ingressInterfaceIndex = some key.interfaceIndex) := by
  intro capture multicast
  obtain ⟨hfailed, hsilent, hheard⟩ := reached_hearing hkernel h
  have hnone : s.socket = none → s.calls.results = [] := by
    intro hsocket
    rw [hsilent hsocket]
    rfl
  refine ⟨hfailed, hnone, fun socket hsocket => sharedCapture_heard hkernel halone h hsocket, ?_⟩
  intro hpositive captured hcaptured
  cases hsocket : s.socket with
  | none =>
    rw [State.handed, hnone hsocket] at hcaptured
    change captured ∈ List.drop _ [] at hcaptured
    rw [List.drop_nil] at hcaptured
    cases hcaptured
  | some socket =>
    have hconserved := sharedCapture_heard hkernel halone h hsocket
    have hmem : captured ∈ capture.expected s.late := by
      have hdrop := congrArg (List.drop (capture.expected s.early).length) hconserved
      rw [capture.expected_append s.early, List.drop_left] at hdrop
      rw [← hdrop, List.append_assoc, List.drop_append]
      exact List.mem_append_left _ hcaptured
    obtain ⟨arrival, harrival, hshared⟩ := List.mem_filterMap.mp (List.mem_of_mem_filter hmem)
    rw [sharedRawDatagram_ingress hshared]
    exact ((hheard socket hsocket).2 arrival harrival).ingress hpositive

def oneReceiver : List Action :=
  [.enter 0, .read 0, .finish 0, .enter 0, .read 0, .finish 0, .read 0, .finish 0]

theorem shared_capture_conserves_slow_opening :
    ∃ s, Transition.run (step plainKernel (sharedCapture ⟨.ipv4, 7⟩))
        (slowOpening ++ oneReceiver) (start (sharedCapture ⟨.ipv4, 7⟩)) = some s ∧
      s.handed.map (fun captured => captured.ingressInterfaceIndex) = [some 9, some 7] ∧
      ∀ captured ∈ (s.handed.filter fun captured => captured.group.isMulticast).drop
          (((sharedCapture ⟨.ipv4, 7⟩).packets s.early).filter fun captured =>
            captured.group.isMulticast).length,
        captured.ingressInterfaceIndex = some 7 := by
  have hend : (Transition.run (step plainKernel (sharedCapture ⟨.ipv4, 7⟩))
      (slowOpening ++ oneReceiver) (start (sharedCapture ⟨.ipv4, 7⟩))).any (fun s => decide
        (s.handed.map (fun captured => captured.ingressInterfaceIndex) =
          [some 9, some 7])) = true := by
    decide +kernel
  obtain ⟨s, hrun, hs⟩ := Transition.exists_of_run_any hend
  have halone : ∀ action ∈ slowOpening ++ oneReceiver, ∀ other ∈ action.caller, other = 0 := by
    decide +kernel
  have hconserve := shared_capture_conserves plainKernel_documented ⟨.ipv4, 7⟩ halone hrun
  exact ⟨s, hrun, of_decide_eq_true hs, hconserve.2.2.2 (by decide)⟩

end LinuxCapture

end McrxCore
