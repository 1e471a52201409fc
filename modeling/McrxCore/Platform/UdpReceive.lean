import McrxCore.Platform.Udp

/-!
# Delivery from a datagram queue

The receive calls of one set-up socket over a queue of datagrams.  Every datagram has one
fate: it is delivered, it is filtered, or it has no destination and raises an error.
-/

namespace McrxCore

/-! ## Datagrams -/

/-- A queued datagram.  The length field of UDP has sixteen bits. -/
structure UdpDatagram where
  source : SocketAddr
  control : List ControlMessage
  payload : List UInt8
  length_le : payload.length ≤ RECEIVE_BUFFER_SIZE

def ControlMessage.destination (target : UnixTarget) (family : SubscriptionAddressFamily) :
    ControlMessage → Option IpAddr
  | .ipPktinfo addr _ => if target = .linux ∧ family = .ipv4 then some (.v4 addr) else none
  | .ipRecvdstaddr addr => if target = .bsd ∧ family = .ipv4 then some (.v4 addr) else none
  | .ipv6Pktinfo addr _ => if family = .ipv6 then some (.v6 addr) else none
  | .ipRecvif _ => none
  | .other => none

def ControlMessage.ingress (target : UnixTarget) (family : SubscriptionAddressFamily) :
    ControlMessage → Option UInt32
  | .ipPktinfo _ index =>
    if target = .linux ∧ family = .ipv4 ∧ index ≠ 0 then some index else none
  | .ipRecvif index =>
    if target = .bsd ∧ family = .ipv4 ∧ index ≠ 0 then some index.toUInt32 else none
  | .ipv6Pktinfo _ index => if family = .ipv6 ∧ index ≠ 0 then some index else none
  | .ipRecvdstaddr _ => none
  | .other => none

namespace UdpDatagram

/-- What `recvmsg` makes of a datagram. -/
def message (datagram : UdpDatagram) : ReceivedMessage :=
  { payload := datagram.payload, source := some datagram.source, control := datagram.control }

theorem message_source (datagram : UdpDatagram) :
    datagram.message.source = some datagram.source := rfl

theorem message_control (datagram : UdpDatagram) :
    datagram.message.control = datagram.control := rfl

def destination (target : UnixTarget) (family : SubscriptionAddressFamily)
    (datagram : UdpDatagram) : Option IpAddr :=
  (datagram.control.filterMap (ControlMessage.destination target family)).getLast?

def ingress (target : UnixTarget) (family : SubscriptionAddressFamily)
    (datagram : UdpDatagram) : Option UInt32 :=
  (datagram.control.filterMap (ControlMessage.ingress target family)).getLast?

structure Matches (target : UnixTarget) (config : SubscriptionConfig) (datagram : UdpDatagram) :
    Prop where
  destination : datagram.destination target config.family = some config.group
  source : ∀ expected, config.source = .source expected → datagram.source.ip = expected
  ingress : ∀ expected, config.interfaceIndex = some expected →
    datagram.ingress target config.family = some expected

/-- A datagram for another group, from another source or through another interface. -/
structure Filtered (target : UnixTarget) (config : SubscriptionConfig) (datagram : UdpDatagram) :
    Prop where
  destination : datagram.destination target config.family ≠ none
  mismatch : ¬ datagram.Matches target config

def delivered (target : UnixTarget) (socket : ReceiveSocket) (id : SubscriptionId)
    (config : SubscriptionConfig) (datagram : UdpDatagram) : PacketWithMetadata :=
  { packet :=
      { subscriptionId := id
        source := datagram.source
        group := config.group
        dstPort := config.dstPort
        payload := datagram.payload }
    metadata :=
      { socketLocalAddr := socket.localAddr
        configuredInterface := config.interface
        configuredInterfaceIndex := config.interfaceIndex
        destinationLocalIp := datagram.destination target config.family
        ingressInterfaceIndex := datagram.ingress target config.family } }

end UdpDatagram

theorem sourceRejected_eq_false_iff {filter : SourceFilter} {source : IpAddr} :
    sourceRejected filter source = false ↔
      ∀ expected, filter = .source expected → source = expected := by
  cases filter <;> simp [sourceRejected]

theorem ingressRejected_eq_false_iff {expected ingress : Option UInt32} :
    ingressRejected expected ingress = false ↔
      ∀ index, expected = some index → ingress = some index := by
  cases expected <;> simp [ingressRejected]

theorem UdpDatagram.matches_iff {target : UnixTarget} {config : SubscriptionConfig}
    {datagram : UdpDatagram} : datagram.Matches target config ↔
      datagram.destination target config.family = some config.group ∧
        sourceRejected config.source datagram.source.ip = false ∧
        ingressRejected config.interfaceIndex (datagram.ingress target config.family) = false :=
  ⟨fun h => ⟨h.destination, sourceRejected_eq_false_iff.mpr h.source,
    ingressRejected_eq_false_iff.mpr h.ingress⟩,
   fun h => ⟨h.1, sourceRejected_eq_false_iff.mp h.2.1, ingressRejected_eq_false_iff.mp h.2.2⟩⟩

instance (target : UnixTarget) (config : SubscriptionConfig) (datagram : UdpDatagram) :
    Decidable (datagram.Matches target config) :=
  decidable_of_iff _ UdpDatagram.matches_iff.symm

/-- A system whose `recvmsg` pops a queue of datagrams. -/
def queueSystem (os : UdpSystem (List UdpDatagram)) : UdpSystem (List UdpDatagram) :=
  { os with
    recvmsg := fun _ queue =>
      match queue with
      | [] => (.wouldBlock, [])
      | datagram :: rest => (.received datagram.message, rest) }

/-! ## One datagram -/

section Datagram

variable {target : UnixTarget} {family : SubscriptionAddressFamily}

theorem getLast?_toList_append {α : Type} (a : Option α) (l : List α) :
    (a.toList ++ l).getLast? = l.getLast?.or a := by
  cases a with
  | none => exact (Option.or_none ..).symm
  | some a =>
    show (a :: l).getLast? = _
    rw [List.getLast?_cons]
    cases l.getLast? <;> rfl

theorem filterMap_cons_toList {α β : Type} (f : α → Option β) (a : α) (l : List α) :
    (a :: l).filterMap f = (f a).toList ++ l.filterMap f := by
  rw [List.filterMap_cons]
  cases f a <;> rfl

theorem toUInt32_eq_zero_iff {index : UInt16} : index.toUInt32 = 0 ↔ index = 0 :=
  UInt16.toUInt32_inj (b := 0)

theorem applyControlMessage_eq (metadata : ReceiveMetadata) (message : ControlMessage) :
    applyControlMessage target family metadata message =
      { metadata with
        destinationLocalIp := (message.destination target family).or metadata.destinationLocalIp
        ingressInterfaceIndex := (message.ingress target family).or
          metadata.ingressInterfaceIndex } := by
  cases family <;> cases target <;> cases message <;>
    simp [applyControlMessage, withIngress, ControlMessage.destination, ControlMessage.ingress,
      toUInt32_eq_zero_iff] <;>
    split <;> simp_all

/-- The last message that names an address or an interface decides it. -/
theorem applyReceiveAncillaryData_eq (control : List ControlMessage) (metadata : ReceiveMetadata) :
    applyReceiveAncillaryData target family control metadata =
      { metadata with
        destinationLocalIp :=
          (control.filterMap (ControlMessage.destination target family)).getLast?.or
            metadata.destinationLocalIp
        ingressInterfaceIndex :=
          (control.filterMap (ControlMessage.ingress target family)).getLast?.or
            metadata.ingressInterfaceIndex } := by
  induction control generalizing metadata with
  | nil => rfl
  | cons message control ih =>
    show applyReceiveAncillaryData target family control
      (applyControlMessage target family metadata message) = _
    rw [ih, applyControlMessage_eq]
    simp only [filterMap_cons_toList, getLast?_toList_append, Option.or_assoc]

end Datagram

/-- The buffers hold the last message from their start, whatever they held before. -/
theorem ReceiveBuffers.fill_buf (buffers : ReceiveBuffers) (datagram : UdpDatagram) :
    (buffers.fill datagram.message).buf.take (receivedLen datagram.message) =
      datagram.payload := by
  have hlen : receivedLen datagram.message = datagram.payload.length :=
    Nat.min_eq_left datagram.length_le
  show (datagram.payload.take RECEIVE_BUFFER_SIZE ++ _).take _ = _
  rw [List.take_of_length_le datagram.length_le, hlen, List.take_left']
  rfl

theorem ReceiveBuffers.fill_control (buffers : ReceiveBuffers) (datagram : UdpDatagram) :
    (buffers.fill datagram.message).control.take datagram.control.length = datagram.control :=
  List.take_left' rfl

section Receive

variable (os : UdpSystem (List UdpDatagram)) {socket : ReceiveSocket} (id : SubscriptionId)
  (config : SubscriptionConfig)

/-- What the loop body makes of one datagram. -/
def fate (target : UnixTarget) (socket : ReceiveSocket) (datagram : UdpDatagram) :
    Except McrxError (Option PacketWithMetadata) :=
  if datagram.destination target config.family = none then .error .receiveMetadataUnavailable
  else if datagram.Matches target config then
    .ok (some (datagram.delivered target socket id config))
  else .ok none

theorem packetMatchesSubscription_eq (target : UnixTarget) (datagram : UdpDatagram)
    {metadata : ReceiveMetadata}
    (hdest : metadata.destinationLocalIp = datagram.destination target config.family)
    (hingress : metadata.ingressInterfaceIndex = datagram.ingress target config.family) :
    packetMatchesSubscription datagram.source metadata config =
      if datagram.destination target config.family = none then .error .receiveMetadataUnavailable
      else .ok (decide (datagram.Matches target config)) := by
  have hiff := @UdpDatagram.matches_iff target config datagram
  unfold packetMatchesSubscription
  rw [hdest, hingress]
  cases hd : datagram.destination target config.family with
  | none => rfl
  | some destination =>
    simp only [hd, Option.some.injEq] at hiff
    simp only [reduceCtorEq, if_false, decide_eq_decide.mpr hiff]
    split
    · simp_all
    · split
      · simp_all
      · split <;> simp_all

/-- The metadata of a received datagram is its own, with or without control messages. -/
theorem receivedMetadata_eq (target : UnixTarget) (socket : ReceiveSocket)
    (datagram : UdpDatagram) {base : ReceiveMetadata}
    (hbase : base =
      { socketLocalAddr := socket.localAddr
        configuredInterface := config.interface
        configuredInterfaceIndex := config.interfaceIndex
        destinationLocalIp := none
        ingressInterfaceIndex := none }) :
    (if datagram.control.length ≠ 0 then
        applyReceiveAncillaryData target config.family datagram.control base
      else base) = (datagram.delivered target socket id config).metadata := by
  have happly : applyReceiveAncillaryData target config.family datagram.control base =
      (datagram.delivered target socket id config).metadata := by
    rw [applyReceiveAncillaryData_eq, hbase]
    simp only [Option.or_none]
    rfl
  split
  · exact happly
  · next hlen =>
    have hnil : datagram.control = [] := List.length_eq_zero_iff.mp (not_not.mp hlen)
    rw [← happly, hnil]
    rfl

theorem receiveMessage_datagram (hready : socket.Ready) (buffers : ReceiveBuffers)
    (datagram : UdpDatagram) (queue : List UdpDatagram) :
    receiveMessage (queueSystem os) socket id config (buffers.fill datagram.message)
      datagram.message queue = (fate id config os.target socket datagram, queue) := by
  obtain ⟨addr, haddr⟩ := Option.ne_none_iff_exists'.mp hready.bound
  have hmetadata := receivedMetadata_eq id config os.target socket datagram rfl
  have htarget : (queueSystem os).target = os.target := rfl
  have hmatches := @packetMatchesSubscription_eq config os.target datagram
    (datagram.delivered os.target socket id config).metadata rfl rfl
  simp only [receiveMessage, UdpDatagram.message_source, UdpDatagram.message_control,
    ReceiveSocket.baseMetadata, ReceiveSocket.boundAddr, haddr, andThen,
    ReceiveBuffers.fill_control, ReceiveBuffers.fill_buf, htarget]
  rw [← haddr, hmetadata, hmatches, fate]
  by_cases hdest : datagram.destination os.target config.family = none
  · rw [if_pos hdest, if_pos hdest]
  · rw [if_neg hdest, if_neg hdest]
    by_cases hmatch : datagram.Matches os.target config
    · rw [if_pos hmatch, decide_eq_true hmatch]
      rfl
    · rw [if_neg hmatch, decide_eq_false hmatch]

/-! ## One call -/

/-- The datagrams that a call takes and the answer it gives for them: it filters datagrams
until one of them decides the answer, or there is nothing left to take. -/
inductive Takes (target : UnixTarget) (socket : ReceiveSocket) :
    List UdpDatagram → Except McrxError (Option PacketWithMetadata) → Prop
  | nothing {filtered : List UdpDatagram} (hfiltered : ∀ d ∈ filtered, d.Filtered target config) :
    Takes target socket filtered (.ok none)
  | packet {filtered : List UdpDatagram} {datagram : UdpDatagram}
    (hfiltered : ∀ d ∈ filtered, d.Filtered target config) (h : datagram.Matches target config) :
    Takes target socket (filtered ++ [datagram])
      (.ok (some (datagram.delivered target socket id config)))
  | unavailable {filtered : List UdpDatagram} {datagram : UdpDatagram}
    (hfiltered : ∀ d ∈ filtered, d.Filtered target config)
    (h : datagram.destination target config.family = none) :
    Takes target socket (filtered ++ [datagram]) (.error .receiveMetadataUnavailable)

variable {id config} in
theorem Takes.cons {target : UnixTarget} {datagram : UdpDatagram} {taken : List UdpDatagram}
    {result : Except McrxError (Option PacketWithMetadata)}
    (hfiltered : datagram.Filtered target config) (h : Takes id config target socket taken result) :
    Takes id config target socket (datagram :: taken) result := by
  cases h with
  | nothing hrest => exact .nothing (List.forall_mem_cons.mpr ⟨hfiltered, hrest⟩)
  | packet hrest h => exact .packet (List.forall_mem_cons.mpr ⟨hfiltered, hrest⟩) h
  | unavailable hrest h => exact .unavailable (List.forall_mem_cons.mpr ⟨hfiltered, hrest⟩) h

/-- One turn of the loop. -/
theorem receiveLoop_datagram (hready : socket.Ready) (budget : Nat) (buffers : ReceiveBuffers)
    (datagram : UdpDatagram) (queue : List UdpDatagram) :
    receiveLoop (queueSystem os) socket id config (budget + 1) buffers (datagram :: queue) =
      match fate id config os.target socket datagram with
      | .error e => (Except.error e, queue)
      | .ok (some packet) => (Except.ok (some packet), queue)
      | .ok none =>
        receiveLoop (queueSystem os) socket id config budget (buffers.fill datagram.message)
          queue := by
  have hrecv : (queueSystem os).recvmsg socket.socket (datagram :: queue) =
      (.received datagram.message, queue) := rfl
  simp only [receiveLoop, hrecv, receiveMessage_datagram os id config hready]
  cases fate id config os.target socket datagram with
  | error e => rfl
  | ok packet => cases packet <;> rfl

/-- What the loop takes from the queue, by induction on what is left of its budget. -/
theorem receiveLoop_takes (hready : socket.Ready) (budget : Nat) (buffers : ReceiveBuffers)
    (queue : List UdpDatagram) :
    ∃ taken rest result,
      receiveLoop (queueSystem os) socket id config budget buffers queue = (result, rest) ∧
      queue = taken ++ rest ∧ taken.length ≤ budget ∧
      Takes id config os.target socket taken result ∧
      (0 < budget → queue ≠ [] → taken ≠ []) := by
  induction budget generalizing buffers queue with
  | zero => exact ⟨[], queue, .ok none, rfl, rfl, Nat.le_refl 0, .nothing nofun, nofun⟩
  | succ budget ih =>
    cases queue with
    | nil => exact ⟨[], [], .ok none, rfl, rfl, Nat.zero_le _,
        .nothing nofun, fun _ h => (h rfl).elim⟩
    | cons datagram queue =>
      have hone : ([datagram] : List UdpDatagram).length ≤ budget + 1 := Nat.le_add_left 1 budget
      rw [receiveLoop_datagram os id config hready]
      by_cases hdest : datagram.destination os.target config.family = none
      · rw [fate, if_pos hdest]
        exact ⟨[datagram], queue, _, rfl, rfl, hone,
          @Takes.unavailable _ _ _ _ [] _ nofun hdest, nofun⟩
      · by_cases hmatch : datagram.Matches os.target config
        · rw [fate, if_neg hdest, if_pos hmatch]
          exact ⟨[datagram], queue, _, rfl, rfl, hone,
            @Takes.packet _ _ _ _ [] _ nofun hmatch, nofun⟩
        · rw [fate, if_neg hdest, if_neg hmatch]
          obtain ⟨taken, rest, result, heq, hqueue, hlen, htakes, -⟩ :=
            ih (buffers.fill datagram.message) queue
          exact ⟨datagram :: taken, rest, result, heq, congrArg _ hqueue, Nat.succ_le_succ hlen,
            htakes.cons ⟨hdest, hmatch⟩, nofun⟩

theorem ancillaryBufferSize_le (target : UnixTarget) (family : SubscriptionAddressFamily) :
    ancillaryBufferSize target family ≤ ANCILLARY_STACK_BUFFER_SIZE := by
  cases target <;> cases family <;> decide

/-- What one call takes from the queue. -/
theorem recvPacketWithMetadata_takes (hready : socket.Ready) (queue : List UdpDatagram) :
    ∃ taken rest result,
      recvPacketWithMetadata (queueSystem os) socket id config queue = (result, rest) ∧
      queue = taken ++ rest ∧ taken.length ≤ MAX_FILTERED_DATAGRAMS_PER_RECEIVE ∧
      Takes id config os.target socket taken result ∧ (queue ≠ [] → taken ≠ []) := by
  have hsize : ¬ ANCILLARY_STACK_BUFFER_SIZE < ancillaryBufferSize os.target config.family :=
    Nat.not_lt.mpr (ancillaryBufferSize_le ..)
  have hcall : recvPacketWithMetadata (queueSystem os) socket id config queue =
      receiveLoop (queueSystem os) socket id config MAX_FILTERED_DATAGRAMS_PER_RECEIVE .uninit
        queue := by
    simp only [recvPacketWithMetadata, ReceiveSocket.ensureReady, hready.setup]
    exact if_neg hsize
  obtain ⟨taken, rest, result, heq, hqueue, hlen, htakes, hprogress⟩ :=
    receiveLoop_takes os id config hready MAX_FILTERED_DATAGRAMS_PER_RECEIVE .uninit queue
  exact ⟨taken, rest, result, hcall.trans heq, hqueue, hlen, htakes, hprogress (by decide)⟩

/-! ## Repeated calls -/

structure ReceiveCall where
  before : List UdpDatagram
  result : Except McrxError (Option PacketWithMetadata)
  after : List UdpDatagram

def ReceiveCall.packet (call : ReceiveCall) : Option PacketWithMetadata :=
  match call.result with
  | .ok packet => packet
  | .error _ => none

def ReceiveCall.isUnavailable (call : ReceiveCall) : Bool :=
  match call.result with
  | .error .receiveMetadataUnavailable => true
  | _ => false

variable (socket) in
def receiveCalls : Nat → List UdpDatagram → List ReceiveCall × List UdpDatagram
  | 0, queue => ([], queue)
  | n + 1, queue =>
    let (result, rest) := recvPacketWithMetadata (queueSystem os) socket id config queue
    let (calls, final) := receiveCalls n rest
    ({ before := queue, result := result, after := rest } :: calls, final)

def deliverable (target : UnixTarget) (socket : ReceiveSocket) (queue : List UdpDatagram) :
    List PacketWithMetadata :=
  (queue.filter fun d => d.Matches target config).map (·.delivered target socket id config)

def withoutDestination (target : UnixTarget) (queue : List UdpDatagram) : Nat :=
  queue.countP fun d => (d.destination target config.family).isNone

section Takes

variable {id config} {target : UnixTarget} {filtered : List UdpDatagram} {datagram : UdpDatagram}

theorem deliverable_filtered (h : ∀ d ∈ filtered, d.Filtered target config) :
    deliverable id config target socket filtered = [] := by
  have hnone : filtered.filter (fun d => d.Matches target config) = [] :=
    List.filter_eq_nil_iff.mpr fun d hd hmatch => (h d hd).mismatch (of_decide_eq_true hmatch)
  rw [deliverable, hnone, List.map_nil]

theorem withoutDestination_filtered (h : ∀ d ∈ filtered, d.Filtered target config) :
    withoutDestination config target filtered = 0 :=
  List.countP_eq_zero.mpr fun d hd hnone => (h d hd).destination
    (Option.isNone_iff_eq_none.mp hnone)

theorem deliverable_append (queue later : List UdpDatagram) :
    deliverable id config target socket (queue ++ later) =
      deliverable id config target socket queue ++ deliverable id config target socket later := by
  rw [deliverable, List.filter_append, List.map_append]
  rfl

variable (config target) in
theorem withoutDestination_append (queue later : List UdpDatagram) :
    withoutDestination config target (queue ++ later) =
      withoutDestination config target queue + withoutDestination config target later :=
  List.countP_append

theorem deliverable_singleton :
    deliverable id config target socket [datagram] =
      if datagram.Matches target config then [datagram.delivered target socket id config]
      else [] := by
  by_cases h : datagram.Matches target config
  · rw [if_pos h]
    simp [deliverable, h]
  · rw [if_neg h]
    simp [deliverable, h]

theorem withoutDestination_singleton :
    withoutDestination config target [datagram] =
      if datagram.destination target config.family = none then 1 else 0 := by
  rw [withoutDestination, List.countP_singleton]
  simp only [Option.isNone_iff_eq_none]

/-- A call returns what it takes for the subscription, and raises one error for a datagram
without destination. -/
theorem Takes.accounts {call : ReceiveCall} {taken : List UdpDatagram}
    (h : Takes id config target socket taken call.result) :
    deliverable id config target socket taken = call.packet.toList ∧
      withoutDestination config target taken = if call.isUnavailable then 1 else 0 := by
  obtain ⟨before, result, after⟩ := call
  cases h with
  | nothing hfiltered =>
    exact ⟨deliverable_filtered hfiltered, withoutDestination_filtered hfiltered⟩
  | @packet filtered datagram hfiltered h =>
    have hdest : datagram.destination target config.family ≠ none := by
      rw [h.destination]
      exact nofun
    rw [deliverable_append, deliverable_filtered hfiltered, deliverable_singleton, if_pos h,
      withoutDestination_append, withoutDestination_filtered hfiltered,
      withoutDestination_singleton, if_neg hdest]
    exact ⟨rfl, rfl⟩
  | @unavailable filtered datagram hfiltered h =>
    have hmismatch : ¬ datagram.Matches target config := by
      intro hmatch
      exact nomatch h.symm.trans hmatch.destination
    rw [deliverable_append, deliverable_filtered hfiltered, deliverable_singleton,
      if_neg hmismatch, withoutDestination_append, withoutDestination_filtered hfiltered,
      withoutDestination_singleton, if_pos h]
    exact ⟨rfl, rfl⟩

end Takes

/-- Calls deliver, in order, what the queue loses. -/
theorem receiveCalls_accounts (hready : socket.Ready) (n : Nat) (queue : List UdpDatagram) :
    let run := receiveCalls os socket id config n queue
    run.1.filterMap ReceiveCall.packet ++ deliverable id config os.target socket run.2 =
        deliverable id config os.target socket queue ∧
      run.1.countP ReceiveCall.isUnavailable + withoutDestination config os.target run.2 =
        withoutDestination config os.target queue ∧
      run.2.length ≤ queue.length - n := by
  induction n generalizing queue with
  | zero => exact ⟨rfl, Nat.zero_add _, Nat.le_refl _⟩
  | succ n ih =>
    obtain ⟨taken, rest, result, heq, hqueue, -, htakes, hprogress⟩ :=
      recvPacketWithMetadata_takes os id config hready queue
    obtain ⟨hpackets, hunavailable, hlen⟩ := ih rest
    have hcalls : receiveCalls os socket id config (n + 1) queue =
        (⟨queue, result, rest⟩ :: (receiveCalls os socket id config n rest).1,
          (receiveCalls os socket id config n rest).2) := by
      rw [receiveCalls, heq]
    obtain ⟨hdelivered, hmissing⟩ := @Takes.accounts _ _ _ _ ⟨queue, result, rest⟩ _ htakes
    rw [hcalls]
    refine ⟨?_, ?_, ?_⟩
    · show (_ :: _).filterMap ReceiveCall.packet ++ _ = _
      rw [filterMap_cons_toList, List.append_assoc, hpackets, ← hdelivered, ← deliverable_append,
        ← hqueue]
    · have hsplit := withoutDestination_append config os.target taken rest
      rw [← hqueue] at hsplit
      show (_ :: _).countP ReceiveCall.isUnavailable +
        withoutDestination config os.target (receiveCalls os socket id config n rest).2 = _
      rw [List.countP_cons]
      omega
    · have hlength : queue.length = taken.length + rest.length := by
        rw [hqueue, List.length_append]
      have hpos : 0 < queue.length → 0 < taken.length := fun h =>
        List.length_pos_iff.mpr (hprogress (List.length_pos_iff.mp h))
      show (receiveCalls os socket id config n rest).2.length ≤ _
      omega

theorem receiveCalls_takes (hready : socket.Ready) (n : Nat) (queue : List UdpDatagram) :
    ∀ call ∈ (receiveCalls os socket id config n queue).1, ∃ taken,
      call.before = taken ++ call.after ∧
        taken.length ≤ MAX_FILTERED_DATAGRAMS_PER_RECEIVE ∧
        Takes id config os.target socket taken call.result := by
  induction n generalizing queue with
  | zero => exact fun _ h => absurd h List.not_mem_nil
  | succ n ih =>
    obtain ⟨taken, rest, result, heq, hqueue, hlen, htakes, -⟩ :=
      recvPacketWithMetadata_takes os id config hready queue
    intro call hcall
    simp only [receiveCalls, heq, List.mem_cons] at hcall
    rcases hcall with rfl | hcall
    · exact ⟨taken, hqueue, hlen, htakes⟩
    · exact ih rest call hcall

/-- Calls until the queue is empty return its matching datagrams, in order and each once,
and raise one error for each datagram without destination. -/
theorem queue_is_delivered (hready : socket.Ready) (queue : List UdpDatagram) (n : Nat) :
    let run := receiveCalls os socket id config n queue
    (∀ call ∈ run.1, ∃ taken, call.before = taken ++ call.after ∧
      taken.length ≤ 256 ∧ Takes id config os.target socket taken call.result) ∧
    (queue.length ≤ n → run.2 = []) ∧
    (run.2 = [] →
      run.1.filterMap ReceiveCall.packet =
        (queue.filter fun d => d.Matches os.target config).map
          (·.delivered os.target socket id config) ∧
      run.1.countP ReceiveCall.isUnavailable =
        queue.countP fun d => (d.destination os.target config.family).isNone) := by
  intro run
  obtain ⟨hpackets, hunavailable, hlen⟩ := receiveCalls_accounts os id config hready n queue
  refine ⟨receiveCalls_takes os id config hready n queue, fun hn => ?_, fun hempty => ?_⟩
  · have hzero : run.2.length = 0 := by
      have : run.2.length ≤ queue.length - n := hlen
      omega
    exact List.length_eq_zero_iff.mp hzero
  · have hrest : (receiveCalls os socket id config n queue).2 = [] := hempty
    rw [hrest] at hpackets hunavailable
    exact ⟨(List.append_nil _).symm.trans hpackets, hunavailable⟩

end Receive

def quietSystem : UdpSystem (List UdpDatagram) :=
  { target := .linux
    createSocket := fun _ queue => (.ok 3, queue)
    setOption := fun _ _ queue => (.ok (), queue)
    bind := fun _ _ queue => (.ok (), queue)
    localAddr := fun _ queue => (.ok none, queue)
    joinMulticastGroup := fun _ _ queue => (.ok (), queue)
    leaveMulticastGroup := fun _ _ queue => (.ok (), queue)
    recvmsg := fun _ queue => (.wouldBlock, queue) }

def boundSocket : ReceiveSocket :=
  { socket := 3
    localAddr := some { ip := unspecifiedAddr .ipv4, port := 5000 }
    setupError := none }

theorem ready_boundSocket : boundSocket.Ready := ⟨rfl, nofun⟩

/-- A datagram from 10.0.0.7, to the given group and through interface 2. -/
def datagramTo (group : Ipv4Addr) (payload : UInt8) : UdpDatagram :=
  { source := { ip := .v4 (.new 10 0 0 7), port := 4000 }
    control := [.ipPktinfo group 2]
    payload := [payload]
    length_le := by simp [RECEIVE_BUFFER_SIZE] }

theorem queue_is_delivered_other_group :
    (receiveCalls quietSystem boundSocket ⟨1⟩ (.asm (.v4 (.new 239 1 2 3)) 5000) 2
      [datagramTo (.new 239 9 9 9) 1, datagramTo (.new 239 1 2 3) 2]).1.filterMap
        ReceiveCall.packet =
      [(datagramTo (.new 239 1 2 3) 2).delivered .linux boundSocket ⟨1⟩
        (.asm (.v4 (.new 239 1 2 3)) 5000)] := by
  have hdelivered := queue_is_delivered quietSystem ⟨1⟩ (.asm (.v4 (.new 239 1 2 3)) 5000)
    ready_boundSocket [datagramTo (.new 239 9 9 9) 1, datagramTo (.new 239 1 2 3) 2] 2
  have hother : ¬ (datagramTo (.new 239 9 9 9) 1).Matches quietSystem.target
      (.asm (.v4 (.new 239 1 2 3)) 5000) := by
    decide
  have hgroup : (datagramTo (.new 239 1 2 3) 2).Matches quietSystem.target
      (.asm (.v4 (.new 239 1 2 3)) 5000) := by
    decide
  rw [(hdelivered.2.2 (hdelivered.2.1 (Nat.le_refl 2))).1,
    List.filter_cons_of_neg (by rwa [decide_eq_true_eq]),
    List.filter_cons_of_pos (by rwa [decide_eq_true_eq]), List.filter_nil]
  rfl

end McrxCore
