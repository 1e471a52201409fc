import McrxCore.Lib.ReadLoop
import McrxCore.Platform.AppleBpf
import McrxCore.Platform.Raw

/-!
# Raw receive calls

The four receive loops of `platform/raw.rs`, from one read to the next.  Three of them
charge the budget for every read that they go on after.  The macOS loop charges it for
every block without a packet, and a read of zero bytes leaves no block.
-/

namespace McrxCore

namespace RawReceive

open ReadLoop

/-- The new count of filtered reads, and whether it exhausts the budget. -/
def rawFilterBudgetExhausted (filteredReads : Nat) : Bool × Nat :=
  (decide (MAX_RAW_FILTERED_READS_PER_RECV ≤ filteredReads + 1), filteredReads + 1)

/-- `if raw_filter_budget_exhausted(..) { return Ok(None); } continue;` -/
def filtered {β : Type} (filteredReads : Nat) : Turn Nat (Except McrxError (Option β)) :=
  let (exhausted, filteredReads) := rawFilterBudgetExhausted filteredReads
  if exhausted then .leave (.ok none) else .next filteredReads

/-- The turn of a loop that looks at each datagram alone: `none` is one that it filters. -/
def datagramTurn {β : Type} (packet : List UInt8 → Int32 → Option β) (filteredReads : Nat) :
    RecvResult → Turn Nat (Except McrxError (Option β))
  | .wouldBlock => .leave (.ok none)
  | .failed error => .leave (.error (.receiveFailed error))
  | .received datagram sllIfindex =>
    match packet datagram sllIfindex with
    | none => filtered filteredReads
    | some packet => .leave (.ok (some packet))

def configuredMetadata (config : RawSubscriptionConfig) (parsed : ParsedIpDatagram)
    (ingressInterfaceIndex : Option UInt32) : ReceiveMetadata :=
  { socketLocalAddr := none
    configuredInterface := config.interface
    configuredInterfaceIndex := config.interfaceIndex
    destinationLocalIp := some parsed.destinationIp
    ingressInterfaceIndex := ingressInterfaceIndex }

/-- `recv_raw_packet` on Linux. -/
def linuxPacket (subscriptionId : SubscriptionId) (config : RawSubscriptionConfig)
    (datagram : List UInt8) (sllIfindex : Int32) : Option RawPacket :=
  match parseIpDatagram datagram with
  | none => none
  | some parsed =>
    if !packetMatchesConfig parsed config then none
    else some (rawPacketFromParts subscriptionId datagram parsed
      (configuredMetadata config parsed
        (if 0 < sllIfindex then some sllIfindex.toUInt32 else none)))

/-- `recv_raw_packet_from_windows_socket`, where a read has no address. -/
def windowsPacket (subscriptionId : SubscriptionId) (config : RawSubscriptionConfig)
    (excludedProtocol : Option UInt8) (datagram : List UInt8) (_sllIfindex : Int32) :
    Option RawPacket :=
  match parseIpDatagram datagram with
  | none => none
  | some parsed =>
    if excludedProtocol = some parsed.protocol then none
    else if !packetMatchesConfig parsed config then none
    else some (rawPacketFromParts subscriptionId datagram parsed
      (configuredMetadata config parsed none))

def datagramLoop {β : Type} (packet : List UInt8 → Int32 → Option β) (filteredReads : Nat) :
    Move Nat RecvResult (Except McrxError (Option β)) :=
  .read (datagramTurn packet filteredReads)

/-! ## macOS -/

/-- The filled part of the buffer and the offset of the next record. -/
structure AppleBpfState where
  block : List UInt8
  nextOffset : Nat
  deriving DecidableEq, Repr

namespace AppleBpfState

/-- A block that is not used up. -/
def Pending (state : AppleBpfState) : Prop := state.nextOffset < state.block.length

instance (state : AppleBpfState) : Decidable state.Pending :=
  inferInstanceAs (Decidable (_ < _))

end AppleBpfState

/-- What the call returns, and the state it leaves behind the mutex. -/
abbrev AppleResult := Except Slice.Fault (Except McrxError (Option RawPacket) × AppleBpfState)

/-- The state of the loop: the buffer and the count of filtered reads. -/
abbrev AppleLoop := AppleBpfState × Nat

def recordsTurn (capture : AppleCapture) (state : AppleBpfState) (filteredReads : Nat) :
    Turn AppleLoop AppleResult :=
  match capture.nextMatchingAppleBpfPacket state.block state.nextOffset with
  | .error fault => .leave (.error fault)
  | .ok (.error error) => .leave (.ok (.error error, state))
  | .ok (.ok (some packet, nextOffset)) =>
    .leave (.ok (.ok (some packet), { state with nextOffset := nextOffset }))
  | .ok (.ok (none, _)) =>
    let state : AppleBpfState := { block := [], nextOffset := 0 }
    let (exhausted, filteredReads) := rawFilterBudgetExhausted filteredReads
    if exhausted then .leave (.ok (.ok none, state)) else .next (state, filteredReads)

def blockTurn (state : AppleBpfState) (filteredReads : Nat) :
    RecvResult → Turn AppleLoop AppleResult
  | .wouldBlock => .leave (.ok (.ok none, state))
  | .failed error => .leave (.ok (.error (.receiveFailed error), state))
  | .received block _ => .next ({ block := block, nextOffset := 0 }, filteredReads)

/-- `recv_raw_packet` on macOS.  No call panics with the mutex held, so it is never
poisoned. -/
def appleLoop (capture : AppleCapture) : AppleLoop → Move AppleLoop RecvResult AppleResult
  | (state, filteredReads) =>
    if state.Pending then .silent (recordsTurn capture state filteredReads)
    else .read (blockTurn state filteredReads)

/-! ## Calls -/

/-- The results of the reads of a call.  A buffer has at most `isize::MAX` bytes. -/
structure Reads where
  result : ℕ → RecvResult
  length_lt : ∀ i bytes sllIfindex, result i = .received bytes sllIfindex → bytes.length < 2 ^ 63

/-- A raw receive call, with the state that it finds. -/
inductive RawCall where
  | linux (subscriptionId : SubscriptionId) (config : RawSubscriptionConfig)
  | shared (key : RawSharedCaptureKey)
  | windows (subscriptionId : SubscriptionId) (config : RawSubscriptionConfig)
      (excludedProtocol : Option UInt8)
  | macos (capture : AppleCapture) (state : AppleBpfState) (hlen : state.block.length < 2 ^ 63)

/-- The call returns after at most `limit` reads. -/
def RawCall.EndsWithin (call : RawCall) (limit : ℕ) (reads : Reads) : Prop :=
  match call with
  | .linux subscriptionId config =>
    ReadLoop.EndsWithin (datagramLoop (linuxPacket subscriptionId config)) reads.result limit 0 0
  | .shared key => ReadLoop.EndsWithin (datagramLoop (sharedRawDatagram key)) reads.result limit 0 0
  | .windows subscriptionId config excludedProtocol =>
    ReadLoop.EndsWithin (datagramLoop (windowsPacket subscriptionId config excludedProtocol))
      reads.result limit 0 0
  | .macos capture state _ => ReadLoop.EndsWithin (appleLoop capture) reads.result limit 0
    (state, 0)

/-- No record from the offset on has a packet, and the walk has no error. -/
def Passes (capture : AppleCapture) (block : List UInt8) (offset : Nat) : Prop :=
  ∃ nextOffset, capture.nextMatchingAppleBpfPacket block offset = .ok (.ok (none, nextOffset))

/-- A read whose result ends the macOS loop: anything but an empty block and a block that
passes. -/
def Settles (capture : AppleCapture) : RecvResult → Prop
  | .wouldBlock | .failed _ => True
  | .received block _ => block ≠ [] ∧ ¬ Passes capture block 0

def isEmptyBlock : RecvResult → Bool
  | .received [] _ => true
  | _ => false

/-- The number of empty blocks among the reads from `start` on, up to `stop`. -/
def emptyBlocks (reads : Reads) (start stop : ℕ) : ℕ :=
  (List.range' start (stop - start)).countP fun i => isEmptyBlock (reads.result i)

/-- The macOS call settles on its pending block or on one of the first 256 reads, or at most
as many of these are empty as there was a block pending. -/
def RawCall.Charged (call : RawCall) (reads : Reads) : Prop :=
  match call with
  | .linux .. | .shared _ | .windows .. => True
  | .macos capture state _ =>
    (state.Pending ∧ ¬ Passes capture state.block state.nextOffset) ∨
    (∃ i < 256, Settles capture (reads.result i)) ∨
    emptyBlocks reads 0 256 ≤ if state.Pending then 1 else 0

/-! ## Loops over datagrams -/

theorem filtered_cases {β : Type} (filteredReads : Nat) :
    (256 ≤ filteredReads + 1 ∧ filtered (β := β) filteredReads = .leave (.ok none)) ∨
      filteredReads + 1 < 256 ∧ filtered (β := β) filteredReads = .next (filteredReads + 1) := by
  rw [filtered, rawFilterBudgetExhausted]
  dsimp only
  by_cases h : MAX_RAW_FILTERED_READS_PER_RECV ≤ filteredReads + 1
  · rw [decide_eq_true h]
    exact .inl ⟨h, rfl⟩
  · rw [decide_eq_false h]
    exact .inr ⟨Nat.not_le.mp h, rfl⟩

/-- Each read of a loop over datagrams ends it or is charged. -/
theorem datagramTurn_cases {β : Type} (packet : List UInt8 → Int32 → Option β)
    (filteredReads : Nat) (answer : RecvResult) :
    (∃ result, datagramTurn packet filteredReads answer = .leave result) ∨
      filteredReads + 1 < 256 ∧
        datagramTurn packet filteredReads answer = .next (filteredReads + 1) := by
  cases answer with
  | wouldBlock => exact .inl ⟨_, rfl⟩
  | failed error => exact .inl ⟨_, rfl⟩
  | received datagram sllIfindex =>
    rw [datagramTurn]
    cases packet datagram sllIfindex with
    | none => exact (filtered_cases filteredReads).imp_left fun h => ⟨_, h.2⟩
    | some packet => exact .inl ⟨_, rfl⟩

theorem datagramLoop_endsWithin {β : Type} (packet : List UInt8 → Int32 → Option β)
    (reads : ℕ → RecvResult) : EndsWithin (datagramLoop packet) reads 256 0 0 :=
  endsWithin_of_counted (fun filteredReads => ⟨_, rfl, datagramTurn_cases packet filteredReads⟩)
    (Nat.le_refl 0) (by decide)

/-! ## The macOS loop -/

theorem emptyBlocks_step (reads : Reads) {start stop : ℕ} (h : start < stop) :
    emptyBlocks reads start stop =
      (if isEmptyBlock (reads.result start) then 1 else 0) +
        emptyBlocks reads (start + 1) stop := by
  have hlength : stop - start = stop - (start + 1) + 1 := by omega
  rw [emptyBlocks, emptyBlocks, hlength, List.range'_succ, List.countP_cons, Nat.add_comm]

theorem emptyBlocks_le (reads : Reads) (start stop : ℕ) :
    emptyBlocks reads start stop ≤ stop - start := by
  have hle := List.countP_le_length
    (p := fun i => isEmptyBlock (reads.result i)) (l := List.range' start (stop - start))
  rwa [List.length_range'] at hle

section Records

variable (capture : AppleCapture) {state : AppleBpfState}

/-- A pending block ends the call, or it has no packet and is charged. -/
theorem recordsTurn_cases (hlen : state.block.length < 2 ^ 63) (hpending : state.Pending)
    (filteredReads : Nat) :
    (¬ Passes capture state.block state.nextOffset ∧
        ∃ result, recordsTurn capture state filteredReads = .leave result) ∨
      Passes capture state.block state.nextOffset ∧
        ((256 ≤ filteredReads + 1 ∧
            ∃ result, recordsTurn capture state filteredReads = .leave result) ∨
          (filteredReads + 1 < 256 ∧ recordsTurn capture state filteredReads =
            .next ({ block := [], nextOffset := 0 }, filteredReads + 1))) := by
  have hfields : APPLE_BPF_HEADER_FIELDS_LEN = 18 := rfl
  have hoffset : state.nextOffset < state.block.length := hpending
  obtain ⟨answer, hanswer, -⟩ := capture.nextMatchingAppleBpfPacket_answers hlen
    (show state.nextOffset + APPLE_BPF_HEADER_FIELDS_LEN < 2 ^ 64 by omega)
  rw [recordsTurn, Passes, hanswer]
  rcases answer with error | ⟨_ | packet, nextOffset⟩
  · refine .inl ⟨?_, _, rfl⟩
    rintro ⟨next, h⟩
    cases h
  · refine .inr ⟨⟨nextOffset, rfl⟩, ?_⟩
    dsimp only [rawFilterBudgetExhausted]
    by_cases h : MAX_RAW_FILTERED_READS_PER_RECV ≤ filteredReads + 1
    · rw [decide_eq_true h]
      exact .inl ⟨h, _, rfl⟩
    · rw [decide_eq_false h]
      exact .inr ⟨Nat.not_le.mp h, rfl⟩
  · refine .inl ⟨?_, _, rfl⟩
    rintro ⟨next, h⟩
    cases h

/-- The call at a pending block. -/
theorem endsWithin_pending (hlen : state.block.length < 2 ^ 63) (hpending : state.Pending)
    (reads : ℕ → RecvResult) {made filteredReads : Nat} (hmade : made ≤ 256) :
    EndsWithin (appleLoop capture) reads 256 made (state, filteredReads) ↔
      (Passes capture state.block state.nextOffset → filteredReads + 1 < 256 →
        EndsWithin (appleLoop capture) reads 256 made
          ({ block := [], nextOffset := 0 }, filteredReads + 1)) := by
  have hbody : appleLoop capture (state, filteredReads) =
      .silent (recordsTurn capture state filteredReads) := if_pos hpending
  rcases recordsTurn_cases capture hlen hpending filteredReads with
    ⟨hsettles, result, hleave⟩ | ⟨hpasses, ⟨hfull, result, hleave⟩ | ⟨hless, hnext⟩⟩
  · rw [hleave] at hbody
    exact iff_of_true ((endsWithin_of_leave (run_silent_leave hbody)).mpr hmade)
      fun hpasses => absurd hpasses hsettles
  · rw [hleave] at hbody
    exact iff_of_true ((endsWithin_of_leave (run_silent_leave hbody)).mpr hmade)
      fun _ hless => absurd hless (Nat.not_lt.mpr hfull)
  · rw [hnext] at hbody
    rw [endsWithin_congr (run_silent_next hbody)]
    exact ⟨fun h _ _ => h, fun h => h hpasses hless⟩

theorem exists_settles_step (reads : Reads) {made : Nat} (hmade : made < 256) :
    (∃ i, made ≤ i ∧ i < 256 ∧ Settles capture (reads.result i)) ↔
      Settles capture (reads.result made) ∨
        ∃ i, made + 1 ≤ i ∧ i < 256 ∧ Settles capture (reads.result i) := by
  constructor
  · rintro ⟨i, hle, hlt, hsettles⟩
    rcases Nat.eq_or_lt_of_le hle with rfl | hless
    · exact .inl hsettles
    · exact .inr ⟨i, hless, hlt, hsettles⟩
  · rintro (hsettles | ⟨i, hle, hlt, hsettles⟩)
    · exact ⟨made, Nat.le_refl _, hmade, hsettles⟩
    · exact ⟨i, Nat.le_of_succ_le hle, hlt, hsettles⟩

/-- The call before a read: it settles on one of the reads left, or so few of them are empty
that the others use up the budget. -/
theorem endsWithin_idle (reads : Reads) (hidle : ¬ state.Pending) {made filteredReads : Nat}
    (hmade : made ≤ 256) (hfiltered : filteredReads < 256) :
    EndsWithin (appleLoop capture) reads.result 256 made (state, filteredReads) ↔
      (∃ i, made ≤ i ∧ i < 256 ∧ Settles capture (reads.result i)) ∨
        made + emptyBlocks reads made 256 ≤ filteredReads := by
  obtain ⟨rest, hrest⟩ : ∃ rest, 256 = made + rest := ⟨256 - made, by omega⟩
  induction rest generalizing made filteredReads state with
  | zero =>
    have hbody : appleLoop capture (state, filteredReads) = .read (blockTurn state filteredReads) :=
      if_neg hidle
    refine iff_of_false (not_endsWithin_of_read hbody (by omega)) ?_
    rintro (⟨i, hle, hlt, -⟩ | hle) <;> omega
  | succ rest ih =>
    have hbody : appleLoop capture (state, filteredReads) = .read (blockTurn state filteredReads) :=
      if_neg hidle
    have hbound := emptyBlocks_le reads (made + 1) 256
    rw [exists_settles_step capture reads (by omega), emptyBlocks_step reads (by omega)]
    cases hanswer : reads.result made with
    | wouldBlock =>
      have hleave : blockTurn state filteredReads (reads.result made) =
          .leave (.ok (.ok none, state)) := by rw [hanswer, blockTurn]
      exact iff_of_true ((endsWithin_of_leave (run_read_leave hbody hleave)).mpr (by omega))
        (.inl (.inl trivial))
    | failed error =>
      have hleave : blockTurn state filteredReads (reads.result made) =
          .leave (.ok (.error (.receiveFailed error), state)) := by rw [hanswer, blockTurn]
      exact iff_of_true ((endsWithin_of_leave (run_read_leave hbody hleave)).mpr (by omega))
        (.inl (.inl trivial))
    | received block sllIfindex =>
      have hnext : blockTurn state filteredReads (reads.result made) =
          .next ({ block := block, nextOffset := 0 }, filteredReads) := by rw [hanswer, blockTurn]
      have hidle' : ¬ ({ block := [], nextOffset := 0 } : AppleBpfState).Pending := by decide
      rw [endsWithin_congr (run_read_next hbody hnext)]
      cases block with
      | nil =>
        -- An empty block goes back to the read without a charge.
        rw [ih hidle' (by omega) hfiltered (by omega)]
        simp only [Settles, isEmptyBlock, ne_eq, not_true_eq_false, false_and, false_or, if_true]
        rw [← Nat.add_assoc]
      | cons first rest' =>
        have hpending :
            ({ block := first :: rest', nextOffset := 0 } : AppleBpfState).Pending :=
          Nat.succ_pos _
        rw [endsWithin_pending capture (reads.length_lt made _ _ hanswer) hpending _ (by omega)]
        by_cases hpasses : Passes capture (first :: rest') 0
        · simp only [Settles, isEmptyBlock, hpasses, not_true_eq_false, and_false, false_or,
            Bool.false_eq_true, if_false, forall_const, Nat.zero_add]
          by_cases hless : filteredReads + 1 < 256
          · rw [forall_prop_of_true hless, ih hidle' (by omega) hless (by omega)]
            exact or_congr_right (by omega)
          · exact iff_of_true (fun h => absurd h hless) (.inr (by omega))
        · exact iff_of_true (fun h => absurd h hpasses) (.inl (.inl ⟨by simp, hpasses⟩))

end Records

/-- A raw receive call returns after at most 256 reads exactly when its budget is charged
for them. -/
theorem rawCall_endsWithin_iff (call : RawCall) (reads : Reads) :
    call.EndsWithin 256 reads ↔ call.Charged reads := by
  cases call with
  | linux subscriptionId config => exact iff_of_true (datagramLoop_endsWithin _ _) trivial
  | shared key => exact iff_of_true (datagramLoop_endsWithin _ _) trivial
  | windows subscriptionId config excludedProtocol =>
    exact iff_of_true (datagramLoop_endsWithin _ _) trivial
  | macos capture state hlen =>
    rw [RawCall.EndsWithin, RawCall.Charged]
    by_cases hpending : state.Pending
    · have hidle : ¬ ({ block := [], nextOffset := 0 } : AppleBpfState).Pending := by decide
      rw [endsWithin_pending capture hlen hpending _ (Nat.zero_le _),
        endsWithin_idle capture reads hidle (Nat.zero_le _) (by decide), if_pos hpending]
      simp only [hpending, true_and, Nat.zero_le, Nat.zero_add, show 1 < 256 by decide,
        forall_const, imp_iff_not_or]
    · rw [endsWithin_idle capture reads hpending (Nat.zero_le _) (by decide), if_neg hpending]
      simp only [hpending, false_and, false_or, Nat.zero_le, true_and, Nat.zero_add]

/-- An Ethernet device that captures for a subscription to `239.1.2.3`. -/
def etherCapture : AppleCapture :=
  { datalink := DLT_EN10MB
    interfaceIndex := some 4
    subscriptionId := ⟨1⟩
    config := .asm (.v4 (.new 239 1 2 3)) }

def emptyReads : Reads :=
  { result := fun _ => .received [] 0
    length_lt := by
      intro i bytes sllIfindex h
      cases h
      decide }

/-- A call whose reads all return zero bytes never returns. -/
theorem empty_reads_never_return :
    ¬ ∃ limit, (RawCall.macos etherCapture { block := [], nextOffset := 0 } (by decide)).EndsWithin
      limit emptyReads := by
  rintro ⟨limit, turns, result, total, hrun, -⟩
  have hdiverges : ∀ turns made, run (appleLoop etherCapture) emptyReads.result turns made
      ({ block := [], nextOffset := 0 }, 0) = none := by
    intro turns
    induction turns with
    | zero => exact fun _ => rfl
    | succ turns ih => exact fun made => ih (made + 1)
  rw [hdiverges] at hrun
  cases hrun

/-! ## Reads of a socket -/

section Worlds

variable {W : Type} (os : OperatingSystem W) (socket : RawReceiveSocket)
  (key : RawSharedCaptureKey)

/-- The world before the read `i` of the socket. -/
def worldBefore (w : W) : ℕ → W
  | 0 => w
  | i + 1 => (os.recvfrom socket.receiveSocket (worldBefore w i)).2

def socketReads (w : W) (i : ℕ) : RecvResult :=
  (os.recvfrom socket.receiveSocket (worldBefore os socket w i)).1

variable {w w' : W} {answer : RecvResult} {left filteredReads : Nat}

/-- The turn that ends the loop over reads ends `recvSharedRawLoop`. -/
theorem recvSharedRawLoop_of_leave {result : Except McrxError (Option RawCapturedDatagram)}
    (hread : os.recvfrom socket.receiveSocket w = (answer, w'))
    (hleft : filteredReads + left + 1 = 256)
    (h : datagramTurn (sharedRawDatagram key) filteredReads answer = .leave result) :
    recvSharedRawLoop os socket key (left + 1) w = (result, w') := by
  rw [recvSharedRawLoop, hread]
  cases answer with
  | wouldBlock =>
    cases h
    rfl
  | failed error =>
    cases h
    rfl
  | received bytes sllIfindex =>
    rw [datagramTurn] at h
    cases hpacket : sharedRawDatagram key bytes sllIfindex with
    | some captured =>
      rw [hpacket] at h
      cases h
      simp only [hpacket]
    | none =>
      rw [hpacket] at h
      rcases filtered_cases (β := RawCapturedDatagram) filteredReads with
        ⟨hfull, hleave⟩ | ⟨-, hnext⟩
      · obtain rfl : left = 0 := by omega
        rw [hleave] at h
        cases h
        simp only [hpacket]
        rfl
      · rw [hnext] at h
        cases h

/-- A turn that goes on leaves one filtered read fewer. -/
theorem recvSharedRawLoop_of_next {next : Nat}
    (hread : os.recvfrom socket.receiveSocket w = (answer, w'))
    (h : datagramTurn (sharedRawDatagram key) filteredReads answer = .next next) :
    recvSharedRawLoop os socket key (left + 1) w = recvSharedRawLoop os socket key left w' := by
  rw [recvSharedRawLoop, hread]
  cases answer with
  | wouldBlock => cases h
  | failed error => cases h
  | received bytes sllIfindex =>
    rw [datagramTurn] at h
    cases hpacket : sharedRawDatagram key bytes sllIfindex with
    | some captured =>
      rw [hpacket] at h
      cases h
    | none => simp only [hpacket]

/-- The loop over the reads of a socket is `recvSharedRawLoop`, which takes them from the
world one at a time. -/
theorem recvSharedRawLoop_run (hleft : filteredReads + left + 1 = 256) :
    ∃ turns total, run (datagramLoop (sharedRawDatagram key)) (socketReads os socket w)
        turns filteredReads filteredReads =
      some ((recvSharedRawLoop os socket key (left + 1)
        (worldBefore os socket w filteredReads)).1, total) := by
  induction left generalizing filteredReads with
  | zero =>
    rcases datagramTurn_cases (sharedRawDatagram key) filteredReads
      (socketReads os socket w filteredReads) with ⟨result, hleave⟩ | ⟨hless, -⟩
    · rw [recvSharedRawLoop_of_leave os socket key rfl (by omega) hleave]
      exact ⟨1, filteredReads + 1, run_read_leave rfl hleave 0⟩
    · omega
  | succ left ih =>
    rcases datagramTurn_cases (sharedRawDatagram key) filteredReads
      (socketReads os socket w filteredReads) with ⟨result, hleave⟩ | ⟨-, hnext⟩
    · rw [recvSharedRawLoop_of_leave os socket key rfl hleft hleave]
      exact ⟨1, filteredReads + 1, run_read_leave rfl hleave 0⟩
    · rw [recvSharedRawLoop_of_next os socket key rfl hnext]
      obtain ⟨turns, total, hrun⟩ := @ih (filteredReads + 1) (by omega)
      exact ⟨turns + 1, total, (run_read_next rfl hnext turns).trans hrun⟩

end Worlds

end RawReceive

end McrxCore
