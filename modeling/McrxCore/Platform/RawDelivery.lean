import McrxCore.Lib.ParallelLoop
import McrxCore.Lib.SharedLoop
import McrxCore.Platform.FilterCorrect
import McrxCore.Platform.RawReceive

/-!
# Raw receivers on one socket

A raw subscription receives through a shared reference, so that any number of threads may be in
its receive call at once.  On Linux and Windows a turn of the call is one read, which the thread
then has to itself.  On macOS it is one pass of the loop with the mutex of the buffer held.
-/

namespace McrxCore

namespace RawReceive

open ClassicBpf (accepts)
open ParallelLoop (Read)

def packetOf {β : Type} : Except McrxError (Option β) → List β
  | .ok packet => packet.toList
  | .error _ => []

def packetsOf {β : Type} (results : List (Nat × Except McrxError (Option β))) : List β :=
  results.flatMap fun result => packetOf result.2

/-! ## Loops over datagrams -/

/-- The calls of `recv_raw_packet` on Linux and of `recv_shared_raw_datagram`. -/
def datagramCalls {β : Type} (packet : List UInt8 → Int32 → Option β) :
    ParallelLoop.Loop Nat RecvResult (Except McrxError (Option β)) where
  enter := 0
  turn := datagramTurn packet

def packetOfRead {β : Type} (packet : List UInt8 → Int32 → Option β) : RecvResult → List β
  | .received datagram sllIfindex => (packet datagram sllIfindex).toList
  | .wouldBlock | .failed _ => []

def datagramAccount {β : Type} (packet : List UInt8 → Int32 → Option β) :
    ParallelLoop.Account Nat RecvResult (Except McrxError (Option β)) β where
  income := fun _ answer => packetOfRead packet answer
  outgo := packetOf

theorem carried_filtered {β : Type} (packet : List UInt8 → Int32 → Option β)
    (filteredReads : Nat) :
    (datagramAccount packet).carried (filtered (β := β) filteredReads) = [] := by
  rcases filtered_cases (β := β) filteredReads with ⟨_, heq⟩ | ⟨_, heq⟩
  · rw [heq]
    rfl
  · rw [heq]
    rfl

theorem carried_datagramTurn {β : Type} (packet : List UInt8 → Int32 → Option β)
    (filteredReads : Nat) (answer : RecvResult) :
    (datagramAccount packet).carried (datagramTurn packet filteredReads answer) =
      packetOfRead packet answer := by
  cases answer with
  | wouldBlock => rfl
  | failed error => rfl
  | received datagram sllIfindex =>
    rw [datagramTurn, packetOfRead]
    cases hpacket : packet datagram sllIfindex with
    | none => exact carried_filtered packet filteredReads
    | some packet => rfl

theorem datagramCalls_balances {β : Type} (packet : List UInt8 → Int32 → Option β) :
    (datagramAccount packet).Balances (datagramCalls packet) :=
  carried_datagramTurn packet

/-! ## Linux -/

def datagramsOf {κ : Type} (reads : List (κ × RecvResult)) : List (List UInt8 × Int32) :=
  reads.filterMap fun read =>
    match read.2 with
    | .received datagram sllIfindex => some (datagram, sllIfindex)
    | .wouldBlock | .failed _ => none

theorem received_datagrams {κ : Type} {β : Type} (packet : List UInt8 → Int32 → Option β)
    (reads : List (κ × RecvResult)) :
    (reads.flatMap fun read => packetOfRead packet read.2) =
      (datagramsOf reads).filterMap fun datagram => packet datagram.1 datagram.2 := by
  induction reads with
  | nil => rfl
  | cons read reads ih =>
    rw [List.flatMap_cons, ih]
    cases hread : read.2 with
    | wouldBlock => simp [datagramsOf, packetOfRead, hread]
    | failed error => simp [datagramsOf, packetOfRead, hread]
    | received datagram sllIfindex =>
      cases hpacket : packet datagram sllIfindex <;>
        simp [datagramsOf, packetOfRead, hread, hpacket]

/-- What the kernel filter of a subscription rejects has no packet for it. -/
theorem linuxPacket_of_rejected {config : RawSubscriptionConfig}
    (hvalid : config.validate = .ok ()) (subscriptionId : SubscriptionId) (datagram : List UInt8)
    (sllIfindex : Int32) (hrejected : accepts (bpfIpFilter config 0) datagram = false) :
    linuxPacket subscriptionId config datagram sllIfindex = none := by
  have hdelivers : userspaceDelivers config datagram = false := by
    by_contra h
    rw [Bool.not_eq_false] at h
    have haccepts := (@bpfIpFilter_agrees config hvalid [] 0 rfl (by decide)).2.1 datagram h
    rw [List.nil_append, hrejected] at haccepts
    cases haccepts
  unfold linuxPacket
  unfold userspaceDelivers at hdelivers
  cases hparse : parseIpDatagram datagram with
  | none => rfl
  | some parsed =>
    rw [hparse] at hdelivers
    have hmatches : packetMatchesConfig parsed config = false := hdelivers
    simp only [hmatches, Bool.not_false, if_true]

theorem filterMap_filtered {config : RawSubscriptionConfig} (hvalid : config.validate = .ok ())
    (subscriptionId : SubscriptionId) (wire : List (List UInt8 × Int32)) :
    ((wire.filter fun frame => accepts (bpfIpFilter config 0) frame.1).filterMap fun frame =>
        linuxPacket subscriptionId config frame.1 frame.2) =
      wire.filterMap fun frame => linuxPacket subscriptionId config frame.1 frame.2 := by
  induction wire with
  | nil => rfl
  | cons frame wire ih =>
    cases haccepts : accepts (bpfIpFilter config 0) frame.1 with
    | true =>
      simp only [List.filter_cons, haccepts, if_true, List.filterMap_cons, ih]
    | false =>
      have hnone := linuxPacket_of_rejected hvalid subscriptionId frame.1 frame.2 haccepts
      simp only [List.filter_cons, haccepts, Bool.false_eq_true, if_false, List.filterMap_cons,
        hnone, ih]

def linuxPackets (subscriptionId : SubscriptionId) (config : RawSubscriptionConfig)
    (reads : List (Read Nat RecvResult)) : List RawPacket :=
  reads.flatMap fun read => packetOfRead (linuxPacket subscriptionId config) read.answer

theorem linuxPackets_eq (subscriptionId : SubscriptionId) (config : RawSubscriptionConfig)
    (reads : List (Read Nat RecvResult)) :
    linuxPackets subscriptionId config reads =
      (datagramsOf (reads.map Read.entry)).filterMap fun frame =>
        linuxPacket subscriptionId config frame.1 frame.2 := by
  rw [← received_datagrams, List.flatMap_map]
  rfl

/-- Whatever steps the threads in a Linux receive call take, each thread returns the packets of
the datagrams that it read, in order, but for the one that it still holds, and all together
return each packet once.  Where the reads are what the kernel filter of the subscription
accepts, these are the packets of everything on the wire. -/
theorem linux_receivers_conserve (subscriptionId : SubscriptionId) (config : RawSubscriptionConfig)
    {actions : List (ParallelLoop.Action RecvResult)}
    {s : ParallelLoop.Calls Nat RecvResult (Except McrxError (Option RawPacket))}
    (h : Transition.run
      (ParallelLoop.step (datagramCalls (linuxPacket subscriptionId config))) actions
      ParallelLoop.start = some s) :
    let packets := linuxPackets subscriptionId config
    (∀ caller,
      packetsOf (s.results.filter fun result => result.1 == caller) ++
          packets (s.holding.filter (Read.isOf caller)) =
        packets (s.reads.filter (Read.isOf caller))) ∧
      (packetsOf s.results ++ packets s.holding).Perm (packets s.reads) ∧
      (config.validate = .ok () → ∀ wire : List (List UInt8 × Int32),
        datagramsOf (s.reads.map Read.entry) =
          (wire.filter fun frame => accepts (bpfIpFilter config 0) frame.1) →
        (packetsOf s.results ++ packets s.holding).Perm
          (wire.filterMap fun frame => linuxPacket subscriptionId config frame.1 frame.2)) := by
  intro packets
  have hbooks := ParallelLoop.Account.books_run
    (datagramCalls_balances (linuxPacket subscriptionId config)) h
  have heachOnce : (packetsOf s.results ++ packets s.holding).Perm (packets s.reads) :=
    hbooks.eachOnce.symm
  refine ⟨fun caller => (hbooks.inOrder caller).symm, heachOnce, ?_⟩
  intro hvalid wire hwire
  have hreads : packets s.reads =
      wire.filterMap fun frame => linuxPacket subscriptionId config frame.1 frame.2 := by
    rw [← filterMap_filtered hvalid, ← hwire]
    exact linuxPackets_eq subscriptionId config s.reads
  rw [← hreads]
  exact heachOnce

/-- Two threads read a packet each, and the one that read first returns last. -/
def twoThreads : List (ParallelLoop.Action RecvResult) :=
  [.enter 0, .enter 1, .read 0 (.received paddedDatagram 4),
    .read 1 (.received paddedDatagram 5), .finish 1, .finish 0]

/-- The filter rejects the first one. -/
def threeFrames : List (List UInt8 × Int32) :=
  [([1, 2], 0), (paddedDatagram, 4), (paddedDatagram, 5)]

theorem linux_receivers_conserve_two_threads :
    ∃ s, Transition.run
        (ParallelLoop.step (datagramCalls (linuxPacket ⟨1⟩ rawCapture.config))) twoThreads
        ParallelLoop.start = some s ∧
      s.results.map Prod.fst = [1, 0] ∧
      (packetsOf s.results ++ linuxPackets ⟨1⟩ rawCapture.config s.holding).Perm
        (threeFrames.filterMap fun frame =>
          linuxPacket ⟨1⟩ rawCapture.config frame.1 frame.2) := by
  have hend : (Transition.run
      (ParallelLoop.step (datagramCalls (linuxPacket ⟨1⟩ rawCapture.config))) twoThreads
      ParallelLoop.start).any (fun s => decide
        (s.results.map Prod.fst = [1, 0] ∧
          datagramsOf (s.reads.map Read.entry) =
            threeFrames.filter fun frame =>
              accepts (bpfIpFilter rawCapture.config 0) frame.1)) = true := by
    decide +kernel
  obtain ⟨s, hrun, hs⟩ := Transition.exists_of_run_any hend
  obtain ⟨hresults, hreads⟩ := of_decide_eq_true hs
  exact ⟨s, hrun, hresults, (linux_receivers_conserve ⟨1⟩ rawCapture.config hrun).2.2
    (by decide) threeFrames hreads⟩

/-! ## Windows -/

def IPPROTO_UDP : UInt8 := 17

/-- The socket that a call of `recv_raw_packet` reads, with the count of filtered reads. -/
inductive WindowsPhase where
  | receiveSocket (filteredReads : Nat)
  | windowsUdpReceiveSocket (filteredReads : Nat)
  deriving DecidableEq, Repr

def WindowsPhase.excludedProtocol : WindowsPhase → Option UInt8
  | .receiveSocket _ => some IPPROTO_UDP
  | .windowsUdpReceiveSocket _ => none

def WindowsPhase.isUdp : WindowsPhase → Bool
  | .receiveSocket _ => false
  | .windowsUdpReceiveSocket _ => true

variable (subscriptionId : SubscriptionId) (config : RawSubscriptionConfig)

/-- `recv_raw_packet_from_windows_socket` of the first socket, and of the second if the first
has no packet. -/
def windowsTurn (phase : WindowsPhase) (answer : RecvResult) :
    ReadLoop.Turn WindowsPhase (Except McrxError (Option RawPacket)) :=
  match phase with
  | .receiveSocket filteredReads =>
    match datagramTurn (windowsPacket subscriptionId config (some IPPROTO_UDP)) filteredReads
        answer with
    | .next filteredReads => .next (.receiveSocket filteredReads)
    | .leave (.ok none) => .next (.windowsUdpReceiveSocket 0)
    | .leave result => .leave result
  | .windowsUdpReceiveSocket filteredReads =>
    match datagramTurn (windowsPacket subscriptionId config none) filteredReads answer with
    | .next filteredReads => .next (.windowsUdpReceiveSocket filteredReads)
    | .leave result => .leave result

def windowsCalls :
    ParallelLoop.Loop WindowsPhase RecvResult (Except McrxError (Option RawPacket)) where
  enter := .receiveSocket 0
  turn := windowsTurn subscriptionId config

def windowsAccount :
    ParallelLoop.Account WindowsPhase RecvResult (Except McrxError (Option RawPacket))
      RawPacket where
  income := fun phase => packetOfRead (windowsPacket subscriptionId config phase.excludedProtocol)
  outgo := packetOf

theorem windowsCalls_balances :
    (windowsAccount subscriptionId config).Balances (windowsCalls subscriptionId config) := by
  intro phase answer
  show (windowsAccount subscriptionId config).carried (windowsTurn subscriptionId config phase
    answer) = packetOfRead (windowsPacket subscriptionId config phase.excludedProtocol) answer
  cases phase with
  | receiveSocket filteredReads =>
    have hcarried := carried_datagramTurn
      (windowsPacket subscriptionId config (some IPPROTO_UDP)) filteredReads answer
    rw [windowsTurn]
    cases hresult : datagramTurn (windowsPacket subscriptionId config (some IPPROTO_UDP))
        filteredReads answer with
    | next filteredReads =>
      rw [hresult] at hcarried
      exact hcarried
    | leave result =>
      rw [hresult] at hcarried
      cases result with
      | error e => exact hcarried
      | ok packet => cases packet <;> exact hcarried
  | windowsUdpReceiveSocket filteredReads =>
    have hcarried := carried_datagramTurn (windowsPacket subscriptionId config none)
      filteredReads answer
    rw [windowsTurn]
    cases hresult : datagramTurn (windowsPacket subscriptionId config none) filteredReads
        answer with
    | next filteredReads =>
      rw [hresult] at hcarried
      exact hcarried
    | leave result =>
      rw [hresult] at hcarried
      exact hcarried

def isUdpDatagram (datagram : List UInt8) : Bool :=
  (parseIpDatagram datagram).any fun parsed => parsed.protocol == IPPROTO_UDP

/-- A datagram has its packet on one of the sockets. -/
theorem windowsPacket_split (datagram : List UInt8) (sllIfindex : Int32) :
    windowsPacket subscriptionId config none datagram sllIfindex =
      if isUdpDatagram datagram then windowsPacket subscriptionId config none datagram sllIfindex
      else windowsPacket subscriptionId config (some IPPROTO_UDP) datagram sllIfindex := by
  unfold windowsPacket isUdpDatagram
  cases hparse : parseIpDatagram datagram with
  | none => rfl
  | some parsed =>
    cases hudp : parsed.protocol == IPPROTO_UDP with
    | true => simp [hudp]
    | false =>
      have hne : ¬ IPPROTO_UDP = parsed.protocol := by
        intro heq
        rw [heq, beq_self_eq_true] at hudp
        cases hudp
      simp [hudp, hne]

theorem windowsPacket_of_udp {datagram : List UInt8} (hudp : isUdpDatagram datagram = true)
    (sllIfindex : Int32) :
    windowsPacket subscriptionId config (some IPPROTO_UDP) datagram sllIfindex = none := by
  unfold isUdpDatagram at hudp
  unfold windowsPacket
  cases hparse : parseIpDatagram datagram with
  | none => rfl
  | some parsed =>
    rw [hparse] at hudp
    have heq : parsed.protocol = IPPROTO_UDP := beq_iff_eq.mp hudp
    simp only [heq, if_true]

/-- The datagrams of a stream that are not UDP have their packets on the first socket, the
others on the second. -/
theorem windows_packets_split (wire : List (List UInt8 × Int32)) :
    ((wire.filterMap fun frame =>
        windowsPacket subscriptionId config (some IPPROTO_UDP) frame.1 frame.2) ++
      (wire.filter fun frame => isUdpDatagram frame.1).filterMap fun frame =>
        windowsPacket subscriptionId config none frame.1 frame.2).Perm
      (wire.filterMap fun frame => windowsPacket subscriptionId config none frame.1 frame.2) := by
  induction wire with
  | nil => exact .nil
  | cons frame wire ih =>
    have hsplit := windowsPacket_split subscriptionId config frame.1 frame.2
    cases hudp : isUdpDatagram frame.1 with
    | true =>
      simp only [List.filter_cons, hudp, if_true, List.filterMap_cons,
        windowsPacket_of_udp subscriptionId config hudp frame.2]
      cases windowsPacket subscriptionId config none frame.1 frame.2 with
      | none => exact ih
      | some packet => exact List.perm_middle.trans (ih.cons packet)
    | false =>
      rw [hudp, if_neg Bool.false_ne_true] at hsplit
      simp only [List.filter_cons, hudp, Bool.false_eq_true, if_false, List.filterMap_cons, hsplit]
      cases windowsPacket subscriptionId config (some IPPROTO_UDP) frame.1 frame.2 with
      | none => exact ih
      | some packet => exact ih.cons packet

/-- The packets of some reads, in order: without UDP those of the first socket, all those of
the second. -/
def windowsPackets (reads : List (Read WindowsPhase RecvResult)) : List RawPacket :=
  reads.flatMap fun read =>
    packetOfRead (windowsPacket subscriptionId config read.own.excludedProtocol) read.answer

def readsOf (udp : Bool) (reads : List (Read WindowsPhase RecvResult)) :
    List (Read WindowsPhase RecvResult) :=
  reads.filter fun read => read.own.isUdp == udp

theorem windowsPackets_readsOf (reads : List (Read WindowsPhase RecvResult)) :
    (windowsPackets subscriptionId config reads).Perm
      (((datagramsOf ((readsOf false reads).map Read.entry)).filterMap fun frame =>
          windowsPacket subscriptionId config (some IPPROTO_UDP) frame.1 frame.2) ++
        (datagramsOf ((readsOf true reads).map Read.entry)).filterMap fun frame =>
          windowsPacket subscriptionId config none frame.1 frame.2) := by
  rw [← received_datagrams, ← received_datagrams]
  induction reads with
  | nil => exact .nil
  | cons read reads ih =>
    rcases read with ⟨caller, phase, answer⟩
    cases phase with
    | receiveSocket filteredReads =>
      show (packetOfRead (windowsPacket subscriptionId config (some IPPROTO_UDP)) answer ++
        windowsPackets subscriptionId config reads).Perm
        ((packetOfRead (windowsPacket subscriptionId config (some IPPROTO_UDP)) answer ++ _) ++ _)
      rw [List.append_assoc]
      exact ih.append_left _
    | windowsUdpReceiveSocket filteredReads =>
      show (packetOfRead (windowsPacket subscriptionId config none) answer ++
        windowsPackets subscriptionId config reads).Perm
        (_ ++ (packetOfRead (windowsPacket subscriptionId config none) answer ++ _))
      exact (ih.append_left _).trans (List.perm_append_comm_assoc _ _ _)

/-- Whatever steps the threads in a Windows receive call take, each thread returns the packets
of the datagrams that it read, in order, but for the one that it still holds, and all together
return each packet once.  Where the second socket sees the UDP datagrams of the first, each
datagram gives its packet once. -/
theorem windows_receivers_conserve {actions : List (ParallelLoop.Action RecvResult)}
    {s : ParallelLoop.Calls WindowsPhase RecvResult (Except McrxError (Option RawPacket))}
    (h : Transition.run (ParallelLoop.step (windowsCalls subscriptionId config)) actions
      ParallelLoop.start = some s) :
    let packets := windowsPackets subscriptionId config
    (∀ caller,
      packetsOf (s.results.filter fun result => result.1 == caller) ++
          packets (s.holding.filter (Read.isOf caller)) =
        packets (s.reads.filter (Read.isOf caller))) ∧
      (packetsOf s.results ++ packets s.holding).Perm (packets s.reads) ∧
      ∀ wire : List (List UInt8 × Int32),
        datagramsOf ((readsOf false s.reads).map Read.entry) = wire →
        datagramsOf ((readsOf true s.reads).map Read.entry) =
          (wire.filter fun frame => isUdpDatagram frame.1) →
        (packetsOf s.results ++ packets s.holding).Perm
          (wire.filterMap fun frame =>
            windowsPacket subscriptionId config none frame.1 frame.2) := by
  intro packets
  have hbooks := ParallelLoop.Account.books_run (windowsCalls_balances subscriptionId config) h
  have heachOnce : (packetsOf s.results ++ packets s.holding).Perm (packets s.reads) :=
    hbooks.eachOnce.symm
  refine ⟨fun caller => (hbooks.inOrder caller).symm, heachOnce, ?_⟩
  intro wire hfirst hsecond
  have hsplit := windowsPackets_readsOf subscriptionId config s.reads
  rw [hfirst, hsecond] at hsplit
  exact heachOnce.trans (hsplit.trans (windows_packets_split subscriptionId config wire))

/-- A UDP datagram that both sockets see, and one of another protocol. -/
def otherDatagram : List UInt8 :=
  [0x45, 0, 0, 20, 0, 0, 0, 0, 1, 103, 0, 0, 10, 0, 0, 1, 239, 1, 2, 3]

def udpDatagram : List UInt8 :=
  [0x45, 0, 0, 20, 0, 0, 0, 0, 1, 17, 0, 0, 10, 0, 0, 1, 239, 1, 2, 3]

/-- Caller 1 comes to the second socket while caller 0 holds its packet of the first. -/
def twoSockets : List (ParallelLoop.Action RecvResult) :=
  [.enter 0, .read 0 (.received udpDatagram 0), .finish 0, .read 0 (.received otherDatagram 0),
    .enter 1, .read 1 .wouldBlock, .finish 1, .read 1 (.received udpDatagram 0), .finish 1,
    .finish 0]

theorem windows_receivers_conserve_two_sockets :
    ∃ s, Transition.run (ParallelLoop.step (windowsCalls ⟨1⟩ rawCapture.config)) twoSockets
        ParallelLoop.start = some s ∧
      s.results.map Prod.fst = [1, 0] ∧
      (packetsOf s.results ++ windowsPackets ⟨1⟩ rawCapture.config s.holding).Perm
        ([(udpDatagram, 0), (otherDatagram, 0)].filterMap fun frame =>
          windowsPacket ⟨1⟩ rawCapture.config none frame.1 frame.2) := by
  have hend : (Transition.run (ParallelLoop.step (windowsCalls ⟨1⟩ rawCapture.config)) twoSockets
      ParallelLoop.start).any (fun s => decide
        (s.results.map Prod.fst = [1, 0] ∧
          datagramsOf ((readsOf false s.reads).map Read.entry) =
            [(udpDatagram, 0), (otherDatagram, 0)] ∧
          datagramsOf ((readsOf true s.reads).map Read.entry) = [(udpDatagram, 0)])) = true := by
    decide +kernel
  obtain ⟨s, hrun, hs⟩ := Transition.exists_of_run_any hend
  obtain ⟨hresults, hfirst, hsecond⟩ := of_decide_eq_true hs
  refine ⟨s, hrun, hresults,
    (windows_receivers_conserve ⟨1⟩ rawCapture.config hrun).2.2 _ hfirst ?_⟩
  rw [hsecond]
  decide +kernel

/-! ## macOS -/

section MacOs

open SharedLoop
open SharedLoop.Account (Fits)

def appleEffect (state : AppleBpfState) :
    ReadLoop.Turn AppleLoop AppleResult →
      Effect AppleBpfState Nat (Except Slice.Fault (Except McrxError (Option RawPacket)))
  | .next (state, filteredReads) => .next state filteredReads
  | .leave (.ok (result, state)) => .leave state (.ok result)
  | .leave (.error fault) => .leave state (.error fault)

/-- The calls of `recv_raw_packet` on macOS.  A turn holds the mutex of the buffer. -/
def appleCalls (capture : AppleCapture) :
    Loop AppleBpfState Nat RecvResult
      (Except Slice.Fault (Except McrxError (Option RawPacket))) where
  enter := 0
  turn := fun state filteredReads =>
    match appleLoop capture (state, filteredReads) with
    | .silent turn => .silent (appleEffect state turn)
    | .read turn => .read fun answer => appleEffect state (turn answer)

def packetsOfBlock (capture : AppleCapture) : RecvResult → List RawPacket
  | .received block _ => capture.pendingPackets block 0
  | .wouldBlock | .failed _ => []

def appleAccount (capture : AppleCapture) :
    Account AppleBpfState Nat RecvResult
      (Except Slice.Fault (Except McrxError (Option RawPacket))) RawPacket where
  income := fun _ answer => packetsOfBlock capture answer
  outgo := fun result =>
    match result with
    | .ok result => packetOf result
    | .error _ => []
  stock := fun state => capture.pendingPackets state.block state.nextOffset

/-- The buffer fits the address space, and the walk is at most the padding of the last record
beyond its filled part. -/
structure InBounds (state : AppleBpfState) : Prop where
  length : state.block.length < 2 ^ 63
  offset : state.nextOffset ≤ state.block.length + 3

def FitsBuffer : RecvResult → Prop
  | .received block _ => block.length < 2 ^ 63
  | .wouldBlock | .failed _ => True

def NoFault (result : Except Slice.Fault (Except McrxError (Option RawPacket))) : Prop :=
  ∃ answer, result = .ok answer

section Apple

variable {capture : AppleCapture}

theorem pendingPackets_idle {state : AppleBpfState} (hidle : ¬ state.Pending) :
    capture.pendingPackets state.block state.nextOffset = [] := by
  apply capture.pendingPackets_none
  cases hframe : frameAt state.block state.nextOffset with
  | none => rfl
  | some found =>
    have hbounds := (frameAt_bounds hframe).1
    have hend : state.block.length ≤ state.nextOffset := Nat.le_of_not_lt hidle
    omega

theorem pendingPackets_nil : capture.pendingPackets [] 0 = [] :=
  capture.pendingPackets_none rfl

/-- A pass over a pending block carries out its first packet, or leaves nothing of it. -/
theorem recordsTurn_settled (hsupported : capture.datalink ∈ SUPPORTED_DATALINKS)
    {state : AppleBpfState} (hstate : InBounds state) (hpending : state.Pending)
    (filteredReads : Nat) :
    (appleAccount capture).Settled InBounds NoFault state []
      (appleEffect state (recordsTurn capture state filteredReads)) := by
  have hoffset : state.nextOffset < state.block.length := hpending
  have hlen := hstate.length
  have hfields : APPLE_BPF_HEADER_FIELDS_LEN = 18 := rfl
  have hempty : InBounds { block := [], nextOffset := 0 } := ⟨by decide, by decide⟩
  have hnone : ∀ h : capture.pendingPackets state.block state.nextOffset = [],
      (appleAccount capture).stock state ++ [] =
        [] ++ (appleAccount capture).stock { block := [], nextOffset := 0 } := by
    intro h
    show capture.pendingPackets state.block state.nextOffset ++ [] =
      [] ++ capture.pendingPackets [] 0
    rw [h, pendingPackets_nil]
  obtain ⟨result, hcall, hanswer⟩ := capture.nextMatchingAppleBpfPacket_answers hlen
    (show state.nextOffset + APPLE_BPF_HEADER_FIELDS_LEN < 2 ^ 64 by omega)
  rw [recordsTurn, hcall]
  cases hanswer with
  | unsupported h => exact absurd hsupported h
  | nothing nextOffset h =>
    dsimp only
    cases hexhausted : rawFilterBudgetExhausted filteredReads with
    | mk exhausted filteredReads' =>
      cases exhausted with
      | true => exact ⟨hempty, ⟨_, rfl⟩, hnone h⟩
      | false => exact ⟨hempty, hnone h⟩
  | packet packet nextOffset hless hend h =>
    refine ⟨⟨hlen, hend⟩, ⟨_, rfl⟩, ?_⟩
    show capture.pendingPackets state.block state.nextOffset ++ [] =
      [packet] ++ capture.pendingPackets state.block nextOffset
    rw [h, List.append_nil]
    rfl

theorem blockTurn_settled {state : AppleBpfState} (hstate : InBounds state)
    (hidle : ¬ state.Pending) (filteredReads : Nat) {answer : RecvResult}
    (hfits : FitsBuffer answer) :
    (appleAccount capture).Settled InBounds NoFault state (packetsOfBlock capture answer)
      (appleEffect state (blockTurn state filteredReads answer)) := by
  have hstock : (appleAccount capture).stock state = [] := pendingPackets_idle hidle
  cases answer with
  | wouldBlock => exact ⟨hstate, ⟨_, rfl⟩, by rw [hstock]; rfl⟩
  | failed error => exact ⟨hstate, ⟨_, rfl⟩, by rw [hstock]; rfl⟩
  | received block sllIfindex =>
    refine ⟨⟨hfits, Nat.zero_le _⟩, ?_⟩
    rw [hstock]
    rfl

theorem appleCalls_balances (hsupported : capture.datalink ∈ SUPPORTED_DATALINKS) :
    (appleAccount capture).Balances (appleCalls capture) InBounds FitsBuffer NoFault where
  silent := by
    intro state filteredReads effect hstate hturn
    by_cases hpending : state.Pending
    · have hloop : appleLoop capture (state, filteredReads) =
          .silent (recordsTurn capture state filteredReads) := if_pos hpending
      simp only [appleCalls, hloop] at hturn
      cases hturn
      exact recordsTurn_settled hsupported hstate hpending filteredReads
    · have hloop : appleLoop capture (state, filteredReads) =
          .read (blockTurn state filteredReads) := if_neg hpending
      simp only [appleCalls, hloop] at hturn
      cases hturn
  read := by
    intro state filteredReads effect answer hstate hturn hfits
    by_cases hpending : state.Pending
    · have hloop : appleLoop capture (state, filteredReads) =
          .silent (recordsTurn capture state filteredReads) := if_pos hpending
      simp only [appleCalls, hloop] at hturn
      cases hturn
    · have hloop : appleLoop capture (state, filteredReads) =
          .read (blockTurn state filteredReads) := if_neg hpending
      simp only [appleCalls, hloop] at hturn
      cases hturn
      exact blockTurn_settled hstate hpending filteredReads hfits

theorem pendingPackets_block {records : List BpfRecord} {block : List UInt8}
    (hblock : BlockOf records block) (hlen : block.length < 2 ^ 63) :
    capture.pendingPackets block 0 = capture.matchingPackets records := by
  have hframes := framesFrom_block hblock [] (by simpa using hlen)
  rw [List.nil_append] at hframes
  rw [AppleCapture.pendingPackets, show (0 : Nat) = ([] : List UInt8).length from rfl, hframes,
    List.filterMap_map]
  rfl

/-- The packets of blocks in the format of the kernel, by induction on the reads. -/
theorem matchingPackets_reads {reads : List (Nat × RecvResult)}
    (hfits : ∀ read ∈ reads, FitsBuffer read.2) {records : List (List BpfRecord)}
    (hblocks : List.Forall₂ BlockOf records ((datagramsOf reads).map Prod.fst)) :
    (reads.flatMap fun read => packetsOfBlock capture read.2) =
      records.flatMap capture.matchingPackets := by
  induction reads generalizing records with
  | nil =>
    cases hblocks
    rfl
  | cons read reads ih =>
    have hrest : ∀ read ∈ reads, FitsBuffer read.2 := fun read hmem =>
      hfits read (List.mem_cons_of_mem _ hmem)
    rcases read with ⟨filteredReads, answer⟩
    cases answer with
    | wouldBlock => exact ih hrest hblocks
    | failed error => exact ih hrest hblocks
    | received block sllIfindex =>
      cases hblocks with
      | cons hblock hblocks =>
        have hlen : block.length < 2 ^ 63 := hfits _ List.mem_cons_self
        rw [List.flatMap_cons, List.flatMap_cons, ih hrest hblocks]
        exact congrArg (· ++ _) (pendingPackets_block hblock hlen)

/-- Whatever turns the threads in a macOS receive call take, none of them panics, and the
packets that they return, followed by those that the buffer still has, are those of the blocks
read, in order: of every record of theirs that matches. -/
theorem apple_receivers_conserve (hsupported : capture.datalink ∈ SUPPORTED_DATALINKS)
    {actions : List (Action RecvResult)} (hfits : ∀ action ∈ actions, Fits FitsBuffer action)
    {s : Calls AppleBpfState Nat RecvResult
      (Except Slice.Fault (Except McrxError (Option RawPacket)))}
    (h : Transition.run (SharedLoop.step (appleCalls capture)) actions
      (Calls.start { block := [], nextOffset := 0 }) = some s) :
    (∀ result ∈ s.results, NoFault result.2) ∧
    (s.reads.flatMap fun read => packetsOfBlock capture read.2) =
      (s.results.flatMap fun result => (appleAccount capture).outgo result.2) ++
        capture.pendingPackets s.shared.block s.shared.nextOffset ∧
    ∀ records, List.Forall₂ BlockOf records ((datagramsOf s.reads).map Prod.fst) →
      records.flatMap capture.matchingPackets =
        (s.results.flatMap fun result => (appleAccount capture).outgo result.2) ++
          capture.pendingPackets s.shared.block s.shared.nextOffset := by
  have hstart : InBounds { block := [], nextOffset := 0 } := ⟨by decide, by decide⟩
  have hbalanced := Account.balanced_run (appleCalls_balances hsupported) hstart hfits h
  have hbalance := hbalanced.balance
  rw [show (appleAccount capture).stock { block := [], nextOffset := 0 } = [] from
    pendingPackets_nil, List.nil_append] at hbalance
  refine ⟨hbalanced.sound, hbalance, ?_⟩
  intro records hblocks
  rw [← matchingPackets_reads hbalanced.fits hblocks]
  exact hbalance

end Apple

/-- One thread reads a block of two records, and another takes the first of them. -/
def twoTurns : List (Action RecvResult) :=
  [.enter 0, .enter 1,
    .turn 0 (.received (paddedRecord.bytes ++ ([0, 0] ++ paddedRecord.bytes)) 0),
    .turn 1 .wouldBlock]

theorem apple_receivers_conserve_two_turns :
    ∃ s, Transition.run (SharedLoop.step (appleCalls rawCapture)) twoTurns
        (Calls.start { block := [], nextOffset := 0 }) = some s ∧
      rawCapture.matchingPackets [paddedRecord, paddedRecord] =
        (s.results.flatMap fun result => (appleAccount rawCapture).outgo result.2) ++
          rawCapture.pendingPackets s.shared.block s.shared.nextOffset ∧
      s.results.map Prod.fst = [1] := by
  have hend : (Transition.run (SharedLoop.step (appleCalls rawCapture)) twoTurns
      (Calls.start { block := [], nextOffset := 0 })).any (fun s => decide
        ((datagramsOf s.reads).map Prod.fst =
            [paddedRecord.bytes ++ ([0, 0] ++ paddedRecord.bytes)] ∧
          s.results.map Prod.fst = [1])) = true := by
    decide +kernel
  obtain ⟨s, hrun, hs⟩ := Transition.exists_of_run_any hend
  obtain ⟨hreads, hresults⟩ := of_decide_eq_true hs
  have hfits : ∀ action ∈ twoTurns, Fits FitsBuffer action := by
    intro action hmem
    fin_cases hmem
    · trivial
    · trivial
    · show (paddedRecord.bytes ++ ([0, 0] ++ paddedRecord.bytes)).length < 2 ^ 63
      decide
    · trivial
  have hconserve := (apple_receivers_conserve (by decide) hfits hrun).2.2
    [[paddedRecord, paddedRecord]] (by
      rw [hreads]
      exact .cons (.cons paddedRecord [0, 0] (by decide) (.unpadded paddedRecord)) .nil)
  rw [List.flatMap_singleton] at hconserve
  exact ⟨s, hrun, hconserve, hresults⟩

end MacOs

end RawReceive

end McrxCore
