import McrxCore.Platform.UdpReceive

/-!
# What a receive call reads

The receive call of one set-up socket over an arbitrary operating system whose reads are
kept.  The reads of a call explain its result, and nothing else that the crate asks of the
system reads a socket.
-/

namespace McrxCore

/-! ## Keeping the reads -/

structure Traced (W : Type) where
  world : W
  reads : List (Fd × RecvmsgResult)

def Traced.lift {W β : Type} (call : W → β × W) (w : Traced W) : β × Traced W :=
  ((call w.world).1, { w with world := (call w.world).2 })

def UdpSystem.traced {W : Type} (os : UdpSystem W) : UdpSystem (Traced W) :=
  { target := os.target
    createSocket := fun family => Traced.lift (os.createSocket family)
    setOption := fun socket option => Traced.lift (os.setOption socket option)
    bind := fun socket addr => Traced.lift (os.bind socket addr)
    localAddr := fun socket => Traced.lift (os.localAddr socket)
    joinMulticastGroup := fun socket config => Traced.lift (os.joinMulticastGroup socket config)
    leaveMulticastGroup := fun socket config => Traced.lift (os.leaveMulticastGroup socket config)
    recvmsg := fun socket w =>
      ((os.recvmsg socket w.world).1,
        { world := (os.recvmsg socket w.world).2
          reads := w.reads ++ [(socket, (os.recvmsg socket w.world).1)] }) }

section ReadsNothing

variable {W α β : Type} {os : UdpSystem W}

def ReadsNothing (call : Traced W → β × Traced W) : Prop := ∀ w, (call w).2.reads = w.reads

theorem readsNothing_result (b : β) : ReadsNothing fun w : Traced W => (b, w) := fun _ => rfl

theorem readsNothing_andThen {call : Traced W → Except McrxError α × Traced W}
    {next : α → Traced W → Except McrxError β × Traced W} (hcall : ReadsNothing call)
    (hnext : ∀ a, ReadsNothing (next a)) : ReadsNothing fun w => andThen (call w) next := by
  intro w
  have hfirst := hcall w
  show (andThen (call w) next).2.reads = w.reads
  rcases hcalled : call w with ⟨result, w₁⟩
  rw [hcalled] at hfirst
  cases result with
  | error e => exact hfirst
  | ok a => exact (hnext a w₁).trans hfirst

theorem readsNothing_setSocketOption (socket : Fd) (option : SocketOption) :
    ReadsNothing (setSocketOption os.traced socket option) := fun _ => rfl

theorem readsNothing_trySocketLocalAddr (socket : Fd) :
    ReadsNothing (trySocketLocalAddr os.traced socket) := by
  intro w
  have hlocal : (os.traced.localAddr socket w).2.reads = w.reads := rfl
  unfold trySocketLocalAddr
  split <;> rename_i heq <;> rwa [heq] at hlocal

theorem readsNothing_restrictMulticastDelivery (socket : Fd) (family : SubscriptionAddressFamily) :
    ReadsNothing (restrictMulticastDeliveryToSocketMemberships os.traced socket family) := by
  intro w
  unfold restrictMulticastDeliveryToSocketMemberships
  split
  · exact readsNothing_setSocketOption socket _ w
  · rfl

theorem readsNothing_enableReceiveMetadata (socket : Fd) (family : SubscriptionAddressFamily) :
    ReadsNothing (enableReceiveMetadata os.traced socket family) := by
  intro w
  unfold enableReceiveMetadata
  split
  · exact readsNothing_setSocketOption socket _ w
  · exact readsNothing_andThen (readsNothing_setSocketOption socket _)
      (fun _ => readsNothing_setSocketOption socket _) w
  · exact readsNothing_setSocketOption socket _ w

theorem readsNothing_configureDetailedReceive (socket : Fd) :
    ReadsNothing (configureDetailedReceive os.traced socket) := by
  intro w
  have haddr : (trySocketLocalAddr os.traced socket w).2.reads = w.reads :=
    readsNothing_trySocketLocalAddr socket w
  unfold configureDetailedReceive
  split
  · rename_i heq
    rwa [heq] at haddr
  · rename_i addr w₁ heq
    rw [heq] at haddr
    exact (readsNothing_enableReceiveMetadata socket addr.ip.family w₁).trans haddr

theorem readsNothing_tryAdopt (socket : Fd) (config : SubscriptionConfig) :
    ReadsNothing (ReceiveSocket.tryAdopt os.traced socket config) :=
  readsNothing_andThen (readsNothing_result _) fun _ =>
    readsNothing_andThen (readsNothing_restrictMulticastDelivery socket config.family) fun _ =>
      readsNothing_andThen (readsNothing_setSocketOption socket _) fun _ =>
        readsNothing_andThen (readsNothing_trySocketLocalAddr socket) fun _ =>
          readsNothing_andThen (readsNothing_configureDetailedReceive socket) fun _ =>
            readsNothing_result _

theorem readsNothing_prepareExistingSocket (socket : Fd) (config : SubscriptionConfig) :
    ReadsNothing (prepareExistingSocket os.traced socket config) := by
  apply readsNothing_andThen (readsNothing_trySocketLocalAddr socket)
  intro addr w
  dsimp only
  split
  · rfl
  · split
    · rfl
    · exact readsNothing_andThen (readsNothing_tryAdopt socket config)
        (fun _ => readsNothing_result _) w

theorem readsNothing_createFamilySocket (family : SubscriptionAddressFamily) :
    ReadsNothing (createFamilySocket os.traced family) := by
  intro w
  have hcreate : (os.traced.createSocket family w).2.reads = w.reads := rfl
  unfold createFamilySocket
  split
  · rename_i heq
    rwa [heq] at hcreate
  · rename_i socket w₁ heq
    rw [heq] at hcreate
    cases family with
    | ipv4 => exact hcreate
    | ipv6 =>
      exact (readsNothing_andThen (readsNothing_setSocketOption socket _)
        (fun _ => readsNothing_result _) w₁).trans hcreate

theorem readsNothing_openBoundSocket (config : SubscriptionConfig) :
    ReadsNothing (openBoundSocket os.traced config) :=
  readsNothing_andThen (readsNothing_createFamilySocket config.family) fun socket =>
    readsNothing_andThen (readsNothing_setSocketOption socket _) fun _ =>
      readsNothing_andThen (readsNothing_setSocketOption socket _) fun _ =>
        readsNothing_andThen (fun _ => rfl) fun _ =>
          readsNothing_prepareExistingSocket socket config

end ReadsNothing

/-! ## One message -/

/-- The datagram of a message that has an IP source.  The buffer has its first bytes. -/
def ReceivedMessage.datagram (message : ReceivedMessage) : Option UdpDatagram :=
  message.source.map fun source =>
    { source := source
      control := message.control
      payload := message.payload.take RECEIVE_BUFFER_SIZE
      length_le := List.length_take_le _ _ }

section Receive

variable (target : UnixTarget) (socket : ReceiveSocket) (id : SubscriptionId)
  (config : SubscriptionConfig)

def messageFate (message : ReceivedMessage) : Except McrxError (Option PacketWithMetadata) :=
  match message.datagram with
  | none => .error .nonIpSocketAddress
  | some datagram => fate id config target socket datagram

def packetOfRead (read : RecvmsgResult) : Option PacketWithMetadata :=
  match read with
  | .wouldBlock => none
  | .failed _ => none
  | .received message =>
    message.datagram.bind fun datagram =>
      if datagram.Matches target config then some (datagram.delivered target socket id config)
      else none

/-- The reads of a loop with so many datagrams left, and the result that they decide. -/
inductive Explained :
    Nat → List RecvmsgResult → Except McrxError (Option PacketWithMetadata) → Prop
  | spent : Explained 0 [] (.ok none)
  | wouldBlock {budget : Nat} : Explained (budget + 1) [.wouldBlock] (.ok none)
  | failed {budget : Nat} (error : IoError) :
    Explained (budget + 1) [.failed error] (.error (.receiveFailed error))
  | decided {budget : Nat} {message : ReceivedMessage}
    {result : Except McrxError (Option PacketWithMetadata)}
    (hfate : messageFate target socket id config message = result)
    (hdecides : result ≠ .ok none) : Explained (budget + 1) [.received message] result
  | filtered {budget : Nat} {message : ReceivedMessage} {reads : List RecvmsgResult}
    {result : Except McrxError (Option PacketWithMetadata)}
    (hfate : messageFate target socket id config message = .ok none)
    (h : Explained budget reads result) : Explained (budget + 1) (.received message :: reads) result

variable {target socket id config}

theorem packetOfRead_received (message : ReceivedMessage) :
    packetOfRead target socket id config (.received message) =
      (messageFate target socket id config message).toOption.join := by
  show (message.datagram.bind fun datagram => if datagram.Matches target config then _ else _) = _
  cases hdatagram : message.datagram with
  | none =>
    rw [messageFate, hdatagram]
    rfl
  | some datagram =>
    rw [messageFate, hdatagram, Option.bind_some]
    show _ = (fate id config target socket datagram).toOption.join
    unfold fate
    by_cases hmatch : datagram.Matches target config
    · have hdest : datagram.destination target config.family ≠ none := by
        rw [hmatch.destination]
        exact Option.some_ne_none _
      rw [if_pos hmatch, if_neg hdest, if_pos hmatch]
      rfl
    · rw [if_neg hmatch]
      split
      · rfl
      · rfl

/-- A call returns the packets that its reads have for the subscription, at most one. -/
theorem Explained.packets {budget : Nat} {reads : List RecvmsgResult}
    {result : Except McrxError (Option PacketWithMetadata)}
    (h : Explained target socket id config budget reads result) :
    reads.filterMap (packetOfRead target socket id config) = result.toOption.join.toList := by
  induction h with
  | spent => rfl
  | wouldBlock => rfl
  | failed error => rfl
  | decided hfate =>
    rw [filterMap_cons_toList, packetOfRead_received, hfate]
    exact List.append_nil _
  | filtered hfate _ ih =>
    rw [filterMap_cons_toList, packetOfRead_received, hfate]
    exact ih

variable {W : Type} (id config)

/-- The body of the loop asks the system for nothing, so it does not depend on it. -/
theorem receiveMessage_system (os : UdpSystem W) (hready : socket.Ready)
    (buffers : ReceiveBuffers) (message : ReceivedMessage) (w : W) :
    receiveMessage os socket id config buffers message w =
      ((receiveMessage (queueSystem { quietSystem with target := os.target }) socket id config
        buffers message []).1, w) := by
  obtain ⟨addr, haddr⟩ := Option.ne_none_iff_exists'.mp hready.bound
  have htarget : (queueSystem { quietSystem with target := os.target }).target = os.target := rfl
  simp only [receiveMessage, ReceiveSocket.baseMetadata, ReceiveSocket.boundAddr, haddr, andThen,
    htarget]
  cases message.source with
  | none => rfl
  | some source =>
    dsimp only
    split <;> rfl

/-- The buffers keep of a message what they keep of its datagram. -/
theorem receiveMessage_truncated (os : UdpSystem W) (buffers : ReceiveBuffers)
    {message : ReceivedMessage} {datagram : UdpDatagram}
    (h : message.datagram = some datagram) (w : W) :
    receiveMessage os socket id config (buffers.fill message) message w =
      receiveMessage os socket id config (buffers.fill datagram.message) datagram.message w := by
  obtain ⟨source, hsource, hdatagram⟩ := Option.map_eq_some_iff.mp h
  have hlen : ReceiveBuffers.receivedLen datagram.message =
      ReceiveBuffers.receivedLen message := by
    rw [← hdatagram]
    show min (message.payload.take RECEIVE_BUFFER_SIZE).length _ = min message.payload.length _
    rw [List.length_take, Nat.min_comm RECEIVE_BUFFER_SIZE, Nat.min_assoc, Nat.min_self]
  have hfill : buffers.fill datagram.message = buffers.fill message := by
    unfold ReceiveBuffers.fill
    rw [hlen, ← hdatagram]
    simp only [UdpDatagram.message, List.take_take, Nat.min_self]
  have hsame : datagram.message.source = message.source ∧
      datagram.message.control = message.control := by
    rw [hsource, ← hdatagram]
    exact ⟨rfl, rfl⟩
  unfold receiveMessage
  rw [hfill, hlen, hsame.1, hsame.2]

theorem receiveMessage_fate (os : UdpSystem W) (hready : socket.Ready)
    (buffers : ReceiveBuffers) (message : ReceivedMessage) (w : W) :
    receiveMessage os socket id config (buffers.fill message) message w =
      (messageFate os.target socket id config message, w) := by
  cases hdatagram : message.datagram with
  | none =>
    have hsource : message.source = none := Option.map_eq_none_iff.mp hdatagram
    simp only [receiveMessage, messageFate, hsource, hdatagram]
  | some datagram =>
    rw [receiveMessage_truncated id config os buffers hdatagram,
      receiveMessage_system id config os hready, receiveMessage_datagram _ id config hready,
      messageFate, hdatagram]

/-- The reads of the loop explain its result, by induction on what is left of its budget. -/
theorem receiveLoop_explained (os : UdpSystem W) (hready : socket.Ready) (budget : Nat)
    (buffers : ReceiveBuffers) (w : Traced W) :
    ∃ reads, Explained os.target socket id config budget reads
        (receiveLoop os.traced socket id config budget buffers w).1 ∧
      (receiveLoop os.traced socket id config budget buffers w).2.reads =
        w.reads ++ reads.map (socket.socket, ·) := by
  induction budget generalizing buffers w with
  | zero => exact ⟨[], .spent, (List.append_nil _).symm⟩
  | succ budget ih =>
    have hread : (os.traced.recvmsg socket.socket w).2.reads =
        w.reads ++ [(socket.socket, (os.traced.recvmsg socket.socket w).1)] := rfl
    rcases hrecv : os.traced.recvmsg socket.socket w with ⟨read, w₁⟩
    rw [hrecv] at hread
    cases read with
    | wouldBlock =>
      simp only [receiveLoop, hrecv]
      exact ⟨[.wouldBlock], .wouldBlock, hread⟩
    | failed error =>
      simp only [receiveLoop, hrecv]
      exact ⟨[.failed error], .failed error, hread⟩
    | received message =>
      simp only [receiveLoop, hrecv, receiveMessage_fate id config os.traced hready]
      cases hfate : messageFate os.traced.target socket id config message with
      | error e =>
        exact ⟨[.received message], .decided hfate (fun h => by cases h), hread⟩
      | ok found =>
        cases found with
        | some packet =>
          exact ⟨[.received message], .decided hfate (fun h => by cases h), hread⟩
        | none =>
          obtain ⟨reads, hexplained, hreads⟩ := ih (buffers.fill message) w₁
          refine ⟨.received message :: reads, .filtered hfate hexplained, ?_⟩
          rw [hreads, hread, List.append_assoc]
          rfl

/-- The reads of a receive call explain its result. -/
theorem recvPacketWithMetadata_explained (os : UdpSystem W) (hready : socket.Ready)
    (w : Traced W) :
    ∃ reads, Explained os.target socket id config MAX_FILTERED_DATAGRAMS_PER_RECEIVE reads
        (recvPacketWithMetadata os.traced socket id config w).1 ∧
      (recvPacketWithMetadata os.traced socket id config w).2.reads =
        w.reads ++ reads.map (socket.socket, ·) := by
  have hsize : ¬ ANCILLARY_STACK_BUFFER_SIZE <
      ancillaryBufferSize os.traced.target config.family :=
    Nat.not_lt.mpr (ancillaryBufferSize_le ..)
  have hcall : recvPacketWithMetadata os.traced socket id config w =
      receiveLoop os.traced socket id config MAX_FILTERED_DATAGRAMS_PER_RECEIVE .uninit w := by
    simp only [recvPacketWithMetadata, ReceiveSocket.ensureReady, hready.setup]
    exact if_neg hsize
  rw [hcall]
  exact receiveLoop_explained id config os hready _ _ w

end Receive

end McrxCore
