import McrxCore.Raw.Shared.Run

/-!
# Turns of the captures

A fill gives the captures their turns in the order of the capture list, from the
cursor on.  It moves the cursor before it tests its limits, so a capture whose turn
comes when a limit is met already is passed over, and its next turn comes one round
later.  A capture with a matching datagram at the head of its queue is served in as
many calls as there are captures, unless one of its turns is passed over.
-/

namespace McrxCore

namespace SharedRawContext

variable {W : Type} (os : OperatingSystem W)

/-- The capture is open, and the next datagram of its socket matches a joined
subscription. -/
def HeadMatches (c : SharedRawContext) (key : RawSharedCaptureKey) (w : W) : Prop :=
  ∃ capture captured w', c.captures.lookup key = some capture ∧
    recvSharedRawDatagram os capture.socket key w = (.ok (some captured), w') ∧
    matched c.subscriptions (key, captured) = true

/-- Receiving on the socket of another capture leaves the head of this capture's
queue in place. -/
def ReadsApart (c : SharedRawContext) (key : RawSharedCaptureKey) : Prop :=
  ∀ w other capture, other ≠ key → c.captures.lookup other = some capture →
    HeadMatches os c key w →
    HeadMatches os c key (recvSharedRawDatagram os capture.socket other w).2

/-- The turn of the capture is `distance` captures ahead of the cursor. -/
def Ahead (c : SharedRawContext) (key : RawSharedCaptureKey) (distance : Nat) : Prop :=
  c.captureOrder[(c.nextCaptureIndex + distance) % c.captureOrder.length]? = some key

def ReadFrom (c : SharedRawContext) (key : RawSharedCaptureKey) (events : List Event) : Prop :=
  ∃ captured, Event.received key captured ∈ events ∧ matched c.subscriptions (key, captured) = true

/-- The outer loop of a fill comes to the capture when a limit is met already. -/
def loopPassesOver (key : RawSharedCaptureKey) (target captureBudget captureCount : Nat) :
    Nat → Fill W → Bool
  | 0, _ => false
  | captures + 1, f =>
    let c := f.system.context
    match c.captureOrder[c.nextCaptureIndex]? with
    | none => false
    | some current =>
      if current = key ∧ (f.queuedPackets = target ∨ f.capturedDatagrams = captureBudget) then true
      else
        match pollCapture os target captureBudget current target (f.advanced captureCount) with
        | (.nextCapture, f) => loopPassesOver key target captureBudget captureCount captures f
        | _ => false

def fillPassesOver (key : RawSharedCaptureKey) (maxNewPackets : Nat) (s : System W) : Bool :=
  let target := s.context.fillTarget maxNewPackets
  let captureCount := s.context.captureOrder.length
  loopPassesOver os key target (saturatingAdd target captureCount) captureCount captureCount
    { queuedPackets := 0, capturedDatagrams := 0, system := s }

/-- The fills of the batch loop: it asks for so many packets in such a state. -/
inductive BatchFill (maxPackets : Nat) : Nat → System W → Nat → System W → Prop
  | here {received : Nat} {s : System W} (hlt : received < maxPackets) :
      BatchFill maxPackets received s (maxPackets - received) s
  | later {received queued count : Nat} {s s₁ s' : System W} (hlt : received < maxPackets)
      (hfill : fillPending os (maxPackets - received) s = (.ok queued, s₁)) (hqueued : queued ≠ 0)
      (h : BatchFill maxPackets
        (received + (s₁.context.drainPendingInto [] (maxPackets - received)).1)
        (s₁.withContext (s₁.context.drainPendingInto [] (maxPackets - received)).2.2) count s') :
      BatchFill maxPackets received s count s'

end SharedRawContext

/-- A receive call that asks for a packet. -/
def Operation.receives : Operation → Prop
  | .tryRecvAny => True
  | .tryRecvBatchInto maxPackets => 1 ≤ maxPackets
  | _ => False

namespace System

open SharedRawContext

variable {W : Type} (os : OperatingSystem W)

/-- One of the fills of the call passes over a turn of the capture. -/
def PassesOver (key : RawSharedCaptureKey) (operation : Operation) (s : System W) : Prop :=
  match operation with
  | .tryRecvAny =>
    s.context.pendingPackets = [] ∧ fillPassesOver os key 1 { s with events := [] } = true
  | .tryRecvBatchInto maxPackets =>
    ∃ count s', BatchFill os maxPackets
        (s.context.drainPendingInto [] maxPackets).1
        { s with context := (s.context.drainPendingInto [] maxPackets).2.2, events := [] }
          count s' ∧
      fillPassesOver os key count s' = true
  | _ => False

/-- Every call of the window receives without an error, and finds a matching datagram
at the head of the capture's queue. -/
def Waiting (key : RawSharedCaptureKey) : List Operation → System W → Prop
  | [], _ => True
  | operation :: operations, s =>
    operation.receives ∧ HeadMatches os s.context key s.world ∧
      (∀ e, (step os operation s).1.outcome ≠ .err e) ∧
      Waiting key operations (step os operation s).2

def TurnsKept (key : RawSharedCaptureKey) : List Operation → System W → Prop
  | [], _ => True
  | operation :: operations, s =>
    ¬ PassesOver os key operation s ∧ TurnsKept key operations (step os operation s).2

def Call.Serves (key : RawSharedCaptureKey) (call : Call) : Prop :=
  ∃ captured packet, Event.received key captured ∈ call.events ∧
    packetOf call.before.subscriptions (key, captured) = some packet ∧
    packet ∈ call.response.packets

end System

/-! ## One turn -/

namespace SharedRawContext

variable {W : Type} {os : OperatingSystem W} {c c' : SharedRawContext}
  {key : RawSharedCaptureKey}

theorem Received.headMatches {packets : List SharedRawPacket} {reads : List Read}
    (h : c.Received packets reads c') (w : W) :
    HeadMatches os c' key w ↔ HeadMatches os c key w := by
  rw [HeadMatches, HeadMatches, h.captures, h.subscriptions]

theorem Received.readsApart {packets : List SharedRawPacket} {reads : List Read}
    (h : c.Received packets reads c') (hapart : ReadsApart os c key) : ReadsApart os c' key := by
  intro w other capture hne hcapture hhead
  rw [h.captures] at hcapture
  rw [h.headMatches] at hhead ⊢
  exact hapart w other capture hne hcapture hhead

theorem Received.readFrom {packets : List SharedRawPacket} {reads : List Read}
    (h : c.Received packets reads c') (events : List Event) :
    ReadFrom c' key events ↔ ReadFrom c key events := by
  rw [ReadFrom, ReadFrom, h.subscriptions]

theorem ReadFrom.mono {events events' : List Event} (h : ReadFrom c key events)
    (hsub : ∀ event ∈ events, event ∈ events') : ReadFrom c key events' := by
  obtain ⟨captured, hmem, hmatched⟩ := h
  exact ⟨captured, hsub _ hmem, hmatched⟩

/-- The turn of another capture leaves the head of this one's queue in place. -/
theorem pollCapture_other {target captureBudget rounds : Nat} {other : RawSharedCaptureKey}
    {f f' : Fill W} {exit : PollExit} {capture : SharedCaptureSocket}
    (hinv : f.system.context.Invariant) (hne : other ≠ key)
    (hcapture : f.system.context.captures.lookup other = some capture)
    (hapart : ReadsApart os f.system.context key)
    (hhead : HeadMatches os f.system.context key f.system.world)
    (h : pollCapture os target captureBudget other rounds f = (exit, f')) :
    HeadMatches os f'.system.context key f'.system.world := by
  induction rounds generalizing f with
  | zero =>
    cases h
    exact hhead
  | succ rounds ih =>
    by_cases hroom : f.queuedPackets = target ∨ f.capturedDatagrams = captureBudget
    · rw [pollCapture, if_pos hroom] at h
      cases h
      exact hhead
    · have hkept := hapart f.system.world other capture hne hcapture hhead
      cases hrecv : recvSharedRawDatagram os capture.socket other f.system.world with
      | mk result w =>
        rw [hrecv] at hkept
        rcases result with e | _ | captured
        · simp only [pollCapture, if_neg hroom, hcapture, hrecv] at h
          cases h
          exact hkept
        · simp only [pollCapture, if_neg hroom, hcapture, hrecv] at h
          cases h
          exact hkept
        · rw [pollCapture_read hinv hcapture hroom hrecv] at h
          have hone := (Fetched.one hinv hcapture captured w).received
          have hkept' : HeadMatches os (f.afterRead (other, captured) w).system.context key w :=
            (hone.headMatches w).mpr hkept
          exact ih (hone.invariant hinv) hcapture (hone.readsApart hapart) hkept' h

/-- Only the outer loop moves the cursor. -/
theorem pollCapture_cursor {target captureBudget rounds : Nat} {other : RawSharedCaptureKey}
    {f f' : Fill W} {exit : PollExit} {capture : SharedCaptureSocket}
    (hinv : f.system.context.Invariant)
    (hcapture : f.system.context.captures.lookup other = some capture)
    (h : pollCapture os target captureBudget other rounds f = (exit, f')) :
    f'.system.context.nextCaptureIndex = f.system.context.nextCaptureIndex := by
  induction rounds generalizing f with
  | zero =>
    cases h
    rfl
  | succ rounds ih =>
    by_cases hroom : f.queuedPackets = target ∨ f.capturedDatagrams = captureBudget
    · rw [pollCapture, if_pos hroom] at h
      cases h
      rfl
    · cases hrecv : recvSharedRawDatagram os capture.socket other f.system.world with
      | mk result w =>
        rcases result with e | _ | captured
        · simp only [pollCapture, if_neg hroom, hcapture, hrecv] at h
          cases h
          rfl
        · simp only [pollCapture, if_neg hroom, hcapture, hrecv] at h
          cases h
          rfl
        · rw [pollCapture_read hinv hcapture hroom hrecv] at h
          have hone := (Fetched.one hinv hcapture captured w).received
          have hrest := ih (hone.invariant hinv) hcapture h
          exact hrest

/-- A turn with room reads the datagram at the head of the queue. -/
theorem pollCapture_head {target captureBudget rounds : Nat} {f f' : Fill W} {exit : PollExit}
    (hinv : f.system.context.Invariant) (hwithin : f.Within target captureBudget)
    (hhead : HeadMatches os f.system.context key f.system.world)
    (hroom : ¬ (f.queuedPackets = target ∨ f.capturedDatagrams = captureBudget))
    (hrounds : 0 < rounds)
    (h : pollCapture os target captureBudget key rounds f = (exit, f')) :
    ReadFrom f.system.context key f'.system.events := by
  obtain ⟨capture, captured, w, hcapture, hrecv, hmatched⟩ := hhead
  match rounds, hrounds with
  | rounds + 1, _ =>
    rw [pollCapture_read hinv hcapture hroom hrecv] at h
    have hone := (Fetched.one hinv hcapture captured w).received
    obtain ⟨-, -, datagrams, hrest⟩ := pollCapture_cases (hone.invariant hinv) hcapture
      (hwithin.afterRead hroom _ w) h
    refine ⟨captured, ?_, hmatched⟩
    rw [hrest.events]
    refine List.mem_append_left _ (List.mem_append_right _ ?_)
    exact List.mem_singleton_self _

theorem Ahead.zero (h : c.Ahead key 0) (hinv : c.Invariant) :
    c.captureOrder[c.nextCaptureIndex]? = some key := by
  rcases hinv.cursor with hlt | ⟨hnil, -⟩
  · rwa [Ahead, Nat.add_zero, Nat.mod_eq_of_lt hlt] at h
  · rw [Ahead, hnil] at h
    exact nomatch h

/-- The capture at the cursor is another one when the turn is further ahead. -/
theorem Ahead.ne {distance : Nat} {current : RawSharedCaptureKey} (h : c.Ahead key (distance + 1))
    (hinv : c.Invariant) (hlt : distance + 1 < c.captureOrder.length)
    (hcurrent : c.captureOrder[c.nextCaptureIndex]? = some current) : current ≠ key := by
  intro heq
  subst heq
  rw [Ahead] at h
  have hcursor : c.nextCaptureIndex < c.captureOrder.length :=
    (List.getElem?_eq_some_iff.mp hcurrent).1
  have hsame := (List.getElem?_inj hcursor hinv.order_nodup).mp (hcurrent.trans h.symm)
  rcases Nat.lt_or_ge (c.nextCaptureIndex + (distance + 1)) c.captureOrder.length with hin | hout
  · rw [Nat.mod_eq_of_lt hin] at hsame
    omega
  · rw [Nat.mod_eq_sub_mod hout, Nat.mod_eq_of_lt (by omega)] at hsame
    omega

theorem Ahead.advance {distance : Nat} (h : c.Ahead key (distance + 1)) :
    (c.advanceCursor c.captureOrder.length).Ahead key distance := by
  rw [Ahead] at h
  show c.captureOrder[((c.nextCaptureIndex + 1) % c.captureOrder.length + distance) %
    c.captureOrder.length]? = some key
  rw [Nat.mod_add_mod, Nat.add_assoc, Nat.add_comm 1 distance]
  exact h

/-! ## One fill -/

/-- What waiting for the turn comes to: it is taken, passed over, or closer. -/
def Approaches (os : OperatingSystem W) (key : RawSharedCaptureKey) (distance : Nat)
    (s : System W) : Prop :=
  ∃ closer < distance, s.context.Ahead key closer ∧ HeadMatches os s.context key s.world

theorem Approaches.mono {distance distance' : Nat} {s : System W}
    (h : Approaches os key distance s) (hle : distance ≤ distance') :
    Approaches os key distance' s := by
  obtain ⟨closer, hlt, hrest⟩ := h
  exact ⟨closer, by omega, hrest⟩

theorem fillCaptures_turn {target captureBudget captureCount captures distance queued : Nat}
    {f : Fill W} {s : System W} (hinv : f.system.context.Invariant)
    (hcount : captureCount = f.system.context.captureOrder.length)
    (hwithin : f.Within target captureBudget) (htarget : 0 < target)
    (hcaptures : captures ≤ captureCount) (hdistance : distance < captures)
    (hapart : ReadsApart os f.system.context key)
    (hahead : f.system.context.Ahead key distance)
    (hhead : HeadMatches os f.system.context key f.system.world)
    (h : fillCaptures os target captureBudget captureCount captures f = (.ok queued, s)) :
    ReadFrom f.system.context key s.events ∨
      loopPassesOver os key target captureBudget captureCount captures f = true ∨
      Approaches os key distance s := by
  induction captures generalizing f distance with
  | zero => exact absurd hdistance (Nat.not_lt_zero _)
  | succ captures ih =>
    have hpos : 0 < captureCount := by omega
    have hne : f.system.context.captureOrder ≠ [] := List.ne_nil_of_length_pos (hcount ▸ hpos)
    obtain ⟨current, capture, hcurrent, hcapture⟩ := hinv.polled hne
    have hadvance := Fetched.advance hcount hpos
    have hinv₁ := hadvance.received.invariant hinv
    have hhead₁ : HeadMatches os (f.advanced captureCount).system.context key
        (f.advanced captureCount).system.world := (hadvance.received.headMatches _).mpr hhead
    have hapart₁ := hadvance.received.readsApart hapart
    simp only [fillCaptures, hcurrent] at h
    rw [loopPassesOver]
    simp only [hcurrent]
    cases hpoll : pollCapture os target captureBudget current target (f.advanced captureCount) with
    | mk exit f₁ =>
      obtain ⟨hexit, hwithin₁, datagrams, hfetched⟩ :=
        pollCapture_cases hinv₁ hcapture hwithin hpoll
      have hone := hadvance.trans hfetched
      have hpoll' := hpoll
      rw [Fill.advanced] at hpoll'
      rw [hpoll'] at h
      rcases distance with _ | distance
      · obtain rfl : current = key :=
          Option.some.inj (hcurrent.symm.trans (hahead.zero hinv))
        by_cases hroom : f.queuedPackets = target ∨ f.capturedDatagrams = captureBudget
        · exact Or.inr (Or.inl (by rw [if_pos ⟨rfl, hroom⟩]))
        · have hread := pollCapture_head hinv₁ hwithin hhead₁ hroom htarget hpoll
          refine Or.inl (((hadvance.received.readFrom _).mp hread).mono ?_)
          rcases exit with _ | _ | e | _
          · obtain ⟨-, reads, f', hrest, -, rfl, -⟩ := fillCaptures_cases
              (hone.received.invariant hinv) (hone.received.captureOrder.symm ▸ hcount) hpos
              hwithin₁ h
            intro event hevent
            rw [hrest.events]
            exact List.mem_append_left _ hevent
          · cases h
            exact fun event hevent => hevent
          · cases h
          · cases h
      · have hother : current ≠ key := hahead.ne hinv (by omega) hcurrent
        have hcloser : f₁.system.context.Ahead key distance := by
          have hadvanced : (f.advanced captureCount).system.context.Ahead key distance := by
            subst hcount
            exact hahead.advance
          rw [Ahead, hfetched.received.captureOrder, pollCapture_cursor hinv₁ hcapture hpoll]
          exact hadvanced
        have hhead₂ := pollCapture_other hinv₁ hother hcapture hapart₁ hhead₁ hpoll
        rw [if_neg fun hkey => hother hkey.1]
        rcases exit with _ | _ | e | _
        · have hrest := ih (hone.received.invariant hinv)
            (hone.received.captureOrder.symm ▸ hcount) hwithin₁ (by omega) (by omega)
            (hone.received.readsApart hapart) hcloser hhead₂ h
          rcases hrest with hread | hpassed | hcloser
          · exact Or.inl ((hone.received.readFrom _).mp hread)
          · exact Or.inr (Or.inl hpassed)
          · exact Or.inr (Or.inr (hcloser.mono (Nat.le_succ _)))
        · cases h
          exact Or.inr (Or.inr ⟨distance, Nat.lt_succ_self _, hcloser, hhead₂⟩)
        · cases h
        · cases h

theorem fillPending_turn {maxNewPackets distance queued : Nat} {s s' : System W}
    (hinv : s.context.Invariant) (hpos : 0 < s.context.fillTarget maxNewPackets)
    (hdistance : distance < s.context.captureOrder.length)
    (hapart : ReadsApart os s.context key) (hahead : s.context.Ahead key distance)
    (hhead : HeadMatches os s.context key s.world)
    (h : fillPending os maxNewPackets s = (.ok queued, s')) :
    ReadFrom s.context key s'.events ∨ fillPassesOver os key maxNewPackets s = true ∨
      Approaches os key distance s' := by
  have hopen : ¬ (s.context.captureOrder.isEmpty = true ∨
      s.context.fillTarget maxNewPackets = 0) := by
    rw [not_or, List.isEmpty_iff]
    exact ⟨List.ne_nil_of_length_pos (by omega), by omega⟩
  simp only [fillPending, if_neg hopen] at h
  exact fillCaptures_turn (f := { queuedPackets := 0, capturedDatagrams := 0, system := s })
      hinv rfl
    ⟨Nat.zero_le _, Nat.zero_le _⟩ hpos (Nat.le_refl _) hdistance hapart hahead hhead h

/-! ## One call -/

/-- A fill of an empty queue that ends without an error queues at most what it was
asked for. -/
theorem fillPending_pending {maxNewPackets queued : Nat} {s s' : System W}
    (hinv : s.context.Invariant) (hempty : s.context.pendingPackets = [])
    (h : fillPending os maxNewPackets s = (.ok queued, s')) :
    s'.context.pendingPackets.length = queued ∧ queued ≤ maxNewPackets := by
  obtain ⟨reads, hstep⟩ := fillPending_cases hinv h
  have hqueued := hstep.queued queued rfl
  have hpending := congrArg List.length hstep.received.pending
  have hmatched := hstep.matched_le
  have htarget : s.context.fillTarget maxNewPackets ≤ maxNewPackets := Nat.min_le_left _ _
  rw [hempty, List.nil_append, List.nil_append, length_filterMap_packetOf] at hpending
  omega

theorem fillTarget_pos {maxNewPackets : Nat} (hempty : c.pendingPackets = [])
    (hlimit : 0 < c.limits.maxPendingPackets) (hmax : 0 < maxNewPackets) :
    0 < c.fillTarget maxNewPackets := by
  rw [fillTarget, hempty, List.length_nil]
  omega

theorem tryRecvAny_turn {distance : Nat} {s s' : System W} {packet : Option SharedRawPacket}
    (hinv : s.context.Invariant) (hlimit : 0 < s.context.limits.maxPendingPackets)
    (hempty : s.context.pendingPackets = [])
    (hdistance : distance < s.context.captureOrder.length)
    (hapart : ReadsApart os s.context key) (hahead : s.context.Ahead key distance)
    (hhead : HeadMatches os s.context key s.world)
    (h : tryRecvAny os s = (.ok packet, s')) :
    s'.context.pendingPackets = [] ∧
      (ReadFrom s.context key s'.events ∨ fillPassesOver os key 1 s = true ∨
        Approaches os key distance s') := by
  have hpop : popFront s = (none, s) := by
    simp only [popFront, hempty]
  simp only [tryRecvAny, hpop] at h
  cases hfill : fillPending os 1 s with
  | mk outcome s₁ =>
    rw [hfill] at h
    rcases outcome with queued | e | _
    · obtain ⟨hlength, hqueued⟩ := fillPending_pending hinv hempty hfill
      have hturn := fillPending_turn hinv (fillTarget_pos hempty hlimit Nat.one_pos) hdistance
        hapart hahead hhead hfill
      simp only [popFront] at h
      split at h
      · rename_i hnil
        cases h
        exact ⟨hnil, hturn⟩
      · rename_i first rest hcons
        cases h
        rw [hcons, List.length_cons] at hlength
        have hrest : rest = [] := List.length_eq_zero_iff.mp (by omega)
        exact ⟨hrest, hturn⟩
    · cases h
    · cases h

/-- Between two fills of a batch the queue is drained. -/
theorem drained_eq_nil {count : Nat} (h : c.pendingPackets.length ≤ count) :
    c.pendingPackets.drop (min count c.pendingPackets.length) = [] :=
  List.drop_eq_nil_of_le (by omega)

theorem batchLoop_pending {maxPackets received count : Nat}
    {packets packets' : List SharedRawPacket} {s s' : System W}
    (hinv : s.context.Invariant) (hempty : s.context.pendingPackets = [])
    (h : batchLoop os maxPackets received packets s = (.ok count, packets', s')) :
    s'.context.pendingPackets = [] := by
  induction hn : maxPackets - received using Nat.strong_induction_on
    generalizing received packets s with
  | _ n ih =>
    rw [batchLoop] at h
    split at h
    · rename_i hlt
      split at h
      · exact nomatch h
      · exact nomatch h
      · rename_i queued s₁ hfill
        obtain ⟨hlength, hqueued⟩ := fillPending_pending hinv hempty hfill
        obtain ⟨reads, hstep⟩ := fillPending_cases hinv hfill
        split at h
        · rename_i hzero
          cases h
          exact List.length_eq_zero_iff.mp (by omega)
        · have hinv₁ := hstep.received.invariant hinv
          have hdrain := receiveStep_take hinv₁
            (min (maxPackets - received) s₁.context.pendingPackets.length)
          simp only [drainPendingInto] at h
          exact ih _ (by omega) (hdrain.received.invariant hinv₁)
            (drained_eq_nil (by omega)) h rfl
    · cases h
      exact hempty

theorem batchLoop_turn {maxPackets received count distance : Nat}
    {packets packets' : List SharedRawPacket} {s s' : System W}
    (hinv : s.context.Invariant) (hlimit : 0 < s.context.limits.maxPendingPackets)
    (hempty : s.context.pendingPackets = []) (hlt : received < maxPackets)
    (hdistance : distance < s.context.captureOrder.length)
    (hapart : ReadsApart os s.context key) (hahead : s.context.Ahead key distance)
    (hhead : HeadMatches os s.context key s.world)
    (h : batchLoop os maxPackets received packets s = (.ok count, packets', s')) :
    ReadFrom s.context key s'.events ∨
      (∃ count s₁, BatchFill os maxPackets received s count s₁ ∧
        fillPassesOver os key count s₁ = true) ∨
      Approaches os key distance s' := by
  induction hn : maxPackets - received using Nat.strong_induction_on
    generalizing received packets s distance with
  | _ n ih =>
    rw [batchLoop, dif_pos hlt] at h
    split at h
    · exact nomatch h
    · exact nomatch h
    · rename_i queued s₁ hfill
      obtain ⟨hlength, hqueued⟩ := fillPending_pending hinv hempty hfill
      have hturn := fillPending_turn hinv (fillTarget_pos hempty hlimit (by omega)) hdistance
        hapart hahead hhead hfill
      obtain ⟨reads, hstep⟩ := fillPending_cases hinv hfill
      split at h
      · rename_i hzero
        cases h
        rcases hturn with hread | hpassed | hcloser
        · exact Or.inl hread
        · exact Or.inr (Or.inl ⟨_, s, .here hlt, hpassed⟩)
        · exact Or.inr (Or.inr hcloser)
      · rename_i hzero
        have hinv₁ := hstep.received.invariant hinv
        have hdrain := receiveStep_take hinv₁
          (min (maxPackets - received) s₁.context.pendingPackets.length)
        have hinv₂ := hdrain.received.invariant hinv₁
        have hboth := hstep.received.trans hdrain.received
        simp only [drainPendingInto] at h
        rcases hturn with hread | hpassed | hcloser
        · obtain ⟨-, _, _, -, hrest, -⟩ := batchLoop_cases hinv₂ (by omega) h
          refine Or.inl (hread.mono fun event hevent => ?_)
          rw [hrest.events]
          exact List.mem_append_left _ hevent
        · exact Or.inr (Or.inl ⟨_, s, .here hlt, hpassed⟩)
        · obtain ⟨closer, hcloser, hahead₂, hhead₂⟩ := hcloser
          by_cases hmore : received + min (maxPackets - received)
              s₁.context.pendingPackets.length < maxPackets
          · have hlimit₂ : 0 < s₁.context.limits.maxPendingPackets :=
              hstep.received.limits.symm ▸ hlimit
            have horder := congrArg List.length hstep.received.captureOrder
            have hrest := ih _ (by omega) hinv₂ hlimit₂ (drained_eq_nil (by omega)) hmore
              (show closer < s₁.context.captureOrder.length by omega)
              (hboth.readsApart hapart) hahead₂ hhead₂ h rfl
            rcases hrest with hread | ⟨count, s₂, hbatch, hpassed⟩ | hcloser₂
            · exact Or.inl ((hboth.readFrom _).mp hread)
            · exact Or.inr (Or.inl ⟨count, s₂, .later hlt hfill hzero hbatch, hpassed⟩)
            · exact Or.inr (Or.inr (hcloser₂.mono (Nat.le_of_lt hcloser)))
          · rw [batchLoop, dif_neg hmore] at h
            cases h
            exact Or.inr (Or.inr ⟨closer, hcloser, hahead₂, hhead₂⟩)

end SharedRawContext

namespace System

open SharedRawContext

variable {W : Type} {os : OperatingSystem W} {key : RawSharedCaptureKey}

/-- What a receive call read and handed over. -/
theorem CallStep.received_of_receives {c c' : SharedRawContext} {operation : Operation}
    {response : Response} {events : List Event} (h : CallStep c operation response c' events)
    (hop : operation.receives) :
    ∃ reads, events = reads.map Event.ofRead ∧ c.Received response.packets reads c' := by
  cases h with
  | receivedAny _ hreceived => exact ⟨_, rfl, hreceived⟩
  | receivedBatch _ hreceived => exact ⟨_, rfl, hreceived⟩
  | added => exact nomatch hop
  | joined => exact nomatch hop
  | left => exact nomatch hop
  | removed => exact nomatch hop

/-- A call that empties the queue returns every matching datagram it read. -/
theorem Call.Sound.serves {call : Call} (h : call.Sound) (hop : call.operation.receives)
    (hbefore : call.before.pendingPackets = []) (hafter : call.after.pendingPackets = [])
    (hread : ReadFrom call.before key call.events) : call.Serves key := by
  obtain ⟨reads, hevents, hreceived⟩ := h.step.received_of_receives hop
  obtain ⟨captured, hmem, hmatched⟩ := hread
  rw [hevents, List.mem_map] at hmem
  obtain ⟨read, hin, heq⟩ := hmem
  obtain rfl : read = (key, captured) := by
    cases heq
    rfl
  have hpending := hreceived.pending
  rw [hbefore, hafter, List.append_nil, List.nil_append] at hpending
  cases hpacket : packetOf call.before.subscriptions (key, captured) with
  | none =>
    rw [packetOf_eq_none_iff, hmatched] at hpacket
    exact nomatch hpacket
  | some packet =>
    refine ⟨captured, packet, ?_, hpacket, ?_⟩
    · rw [hevents]
      exact List.mem_map_of_mem hin
    · rw [hpending]
      exact List.mem_filterMap.mpr ⟨_, hin, hpacket⟩

theorem step_turn {operation : Operation} {distance : Nat} {s : System W}
    (hinv : s.context.Invariant) (hlimit : 0 < s.context.limits.maxPendingPackets)
    (hempty : s.context.pendingPackets = []) (hop : operation.receives)
    (hok : ∀ e, (step os operation s).1.outcome ≠ .err e)
    (hdistance : distance < s.context.captureOrder.length)
    (hapart : ReadsApart os s.context key) (hahead : s.context.Ahead key distance)
    (hhead : HeadMatches os s.context key s.world) :
    (step os operation s).2.context.pendingPackets = [] ∧
      (ReadFrom s.context key (step os operation s).2.events ∨ PassesOver os key operation s ∨
        Approaches os key distance (step os operation s).2) := by
  have hnoPanic := (step_cases os operation hinv).noPanic
  cases operation with
  | tryRecvAny =>
    simp only [step] at hok hnoPanic ⊢
    cases h : tryRecvAny os { s with events := [] } with
    | mk r s' =>
      rw [h] at hok hnoPanic
      cases r with
      | ok packet =>
        obtain ⟨hpending, hturn⟩ := tryRecvAny_turn (s := { s with events := [] })
          hinv hlimit hempty
          hdistance hapart hahead hhead h
        refine ⟨hpending, hturn.imp_right fun hrest => hrest.imp_left fun hpassed => ?_⟩
        exact ⟨hempty, hpassed⟩
      | err e => exact absurd rfl (hok e)
      | panic => exact absurd rfl hnoPanic
  | tryRecvBatchInto maxPackets =>
    simp only [step] at hok hnoPanic ⊢
    cases h : tryRecvBatchInto os [] maxPackets { s with events := [] } with
    | mk r rest =>
      obtain ⟨packets, s'⟩ := rest
      rw [h] at hok hnoPanic
      cases r with
      | ok count =>
        have hdrained : s.context.drainPendingInto [] maxPackets = (0, [], s.context) := by
          simp only [drainPendingInto, hempty, List.length_nil, Nat.min_zero, List.take_nil,
            List.append_nil, List.drop_nil]
          rw [← hempty]
        have hmax' : maxPackets ≠ 0 := Nat.one_le_iff_ne_zero.mp hop
        rw [tryRecvBatchInto, if_neg hmax'] at h
        simp only [hdrained] at h
        refine ⟨batchLoop_pending (s := { s with events := [] }) hinv hempty h, ?_⟩
        have hturn := batchLoop_turn (s := { s with events := [] }) hinv hlimit hempty hop
          hdistance hapart hahead hhead h
        refine hturn.imp_right fun hrest => hrest.imp_left fun hpassed => ?_
        rw [PassesOver, hdrained]
        exact hpassed
      | err e => exact absurd rfl (hok e)
      | panic => exact absurd rfl hnoPanic
  | addSubscription | joinSubscription | leaveSubscription | removeSubscription =>
    exact hop.elim

theorem CallStep.limits {c c' : SharedRawContext} {operation : Operation} {response : Response}
    {events : List Event} (h : CallStep c operation response c' events) :
    c'.limits = c.limits := by
  have hleft : ∀ {id : SubscriptionId} {r : Outcome Unit} {c' : SharedRawContext}
      {events : List Event}, LeaveStep c id r c' events → c'.limits = c.limits := by
    intro id r c' events hleave
    cases hleave <;> rfl
  cases h with
  | added h => cases h <;> rfl
  | @joined id r _ _ h =>
    match r, h with
    | .err e, h => rw [h.context_of_err]
    | .ok (), h =>
      obtain ⟨subscription, capture, captureOrder, -, -, -, rfl⟩ := h.ready
      rfl
  | left h => exact hleft h
  | removed h =>
    cases h with
    | missing => rfl
    | leaveFailed hleave => exact hleft hleave
    | removedBound => rfl
    | leftRemoved _ _ hleave =>
      have hlimits := hleft hleave
      exact hlimits
  | receivedAny _ h => exact h.limits
  | receivedBatch _ h => exact h.limits

theorem limits_pos_withLimits {limits : SharedRawContextLimits} {c : SharedRawContext}
    (h : SharedRawContext.withLimits limits = .ok c) : 0 < c.limits.maxPendingPackets := by
  simp only [SharedRawContext.withLimits] at h
  split at h
  · cases h
  · rename_i hpos
    cases h
    exact Nat.pos_of_ne_zero fun hzero => hpos (Or.inr hzero)

theorem Reachable.limits_pos {s : System W} (h : Reachable os s) :
    0 < s.context.limits.maxPendingPackets := by
  obtain ⟨start, operations, hinitial, hn, rfl⟩ := h
  obtain ⟨limits, hlimits⟩ := id hinitial
  exact (fold_calls_initial os (fun _ _ => ()) (P := fun _ c => 0 < c.limits.maxPendingPackets)
    (Q := fun _ => True) (g := ())
    (fun _ call hsound hpos => ⟨hsound.step.limits.symm ▸ hpos, trivial⟩) hinitial hn
    (limits_pos_withLimits hlimits)).1

/-! ## A window of calls -/

/-- A turn fewer captures ahead than there are calls is taken, unless it is passed
over. -/
theorem window_serves {operations : List Operation} {distance : Nat} {s : System W}
    (hinv : s.context.Invariant) (hlimit : 0 < s.context.limits.maxPendingPackets)
    (hempty : s.context.pendingPackets = [])
    (hdistance : distance < s.context.captureOrder.length) (hlt : distance < operations.length)
    (hapart : ReadsApart os s.context key) (hahead : s.context.Ahead key distance)
    (hwaiting : Waiting os key operations s) (hkept : TurnsKept os key operations s) :
    ∃ call ∈ calls os operations s, call.Serves key := by
  induction operations generalizing distance s with
  | nil => exact absurd hlt (Nat.not_lt_zero _)
  | cons operation operations ih =>
    obtain ⟨hop, hhead, hok, hwaiting⟩ := hwaiting
    obtain ⟨hnotPassed, hkept⟩ := hkept
    obtain ⟨hpending, hturn⟩ :=
      step_turn hinv hlimit hempty hop hok hdistance hapart hahead hhead
    have hcall := step_cases os operation hinv
    obtain ⟨reads, -, hreceived⟩ := hcall.received_of_receives hop
    have hfresh : Fresh operation s.context := by
      intro config heq
      subst heq
      exact nomatch hop
    rcases hturn with hread | hpassed | ⟨closer, hcloser, hahead', -⟩
    · refine ⟨_, List.mem_cons_self, ?_⟩
      exact Call.Sound.serves ⟨hinv, hfresh, hcall⟩ hop hempty hpending hread
    · exact absurd hpassed hnotPassed
    · have horder := congrArg List.length hreceived.captureOrder
      rw [List.length_cons] at hlt
      obtain ⟨call, hmem, hserves⟩ := ih (hreceived.invariant hinv)
        (hreceived.limits.symm ▸ hlimit) hpending (by omega) (by omega)
        (hreceived.readsApart hapart) hahead' hwaiting hkept
      exact ⟨call, List.mem_cons_of_mem _ hmem, hserves⟩

/-- Every open capture has a turn ahead. -/
theorem exists_ahead {c : SharedRawContext} (hinv : c.Invariant) (hkey : key ∈ c.captureOrder) :
    ∃ distance < c.captureOrder.length, c.Ahead key distance := by
  obtain ⟨index, hindex, hget⟩ := List.getElem_of_mem hkey
  have hcursor : c.nextCaptureIndex < c.captureOrder.length :=
    hinv.cursor.resolve_right fun hnil => by simp [hnil.1] at hkey
  refine ⟨(index + (c.captureOrder.length - c.nextCaptureIndex)) % c.captureOrder.length,
    Nat.mod_lt _ (by omega), ?_⟩
  have hturn : c.nextCaptureIndex + (index + (c.captureOrder.length - c.nextCaptureIndex)) =
      index + c.captureOrder.length := by omega
  rw [Ahead, Nat.add_mod_mod, hturn, Nat.add_mod_right, Nat.mod_eq_of_lt hindex,
    List.getElem?_eq_getElem hindex, hget]

/-- In as many receive calls as there are captures, a capture with a matching datagram
at the head of its queue is served when no fill passes over its turn. -/
theorem waiting_capture_served {s : System W} (h : Reachable os s) {capture : SharedCaptureSocket}
    (hcapture : s.context.captures.lookup key = some capture)
    (hempty : s.context.pendingPackets = []) {operations : List Operation}
    (hlength : operations.length = s.context.captureOrder.length)
    (hapart : ReadsApart os s.context key) (hwaiting : Waiting os key operations s)
    (hkept : TurnsKept os key operations s) :
    ∃ call ∈ calls os operations s, call.Serves key := by
  have hinv := h.invariant
  obtain ⟨distance, hdistance, hahead⟩ := exists_ahead hinv
    ((hinv.mem_order key).mpr ⟨capture, hcapture⟩)
  exact window_serves hinv h.limits_pos hempty hdistance (by omega) hapart hahead hwaiting hkept

/-! ## Two captures that always have a datagram -/

theorem headMatches_flooded {c : SharedRawContext} {key : RawSharedCaptureKey}
    (hopen : (c.captures.lookup key).isSome = true) (id : SubscriptionId)
    (hmatch : (sharedRawDatagram key emptyDatagram 0).any (fun captured =>
      (c.subscriptions.lookup id).any (SharedRawSubscription.admits key captured)) = true)
    (w : Fd) : HeadMatches flooded c key w := by
  obtain ⟨capture, hcapture⟩ := Option.isSome_iff_exists.mp hopen
  obtain ⟨captured, hread, hany⟩ := (Option.any_eq_true ..).mp hmatch
  obtain ⟨subscription, hl, hadmits⟩ := (Option.any_eq_true ..).mp hany
  refine ⟨capture, captured, w, hcapture, ?_, ?_⟩
  · simp only [recvSharedRawDatagram, MAX_RAW_FILTERED_READS_PER_RECV, recvSharedRawLoop, flooded,
      OperatingSystem.granting, hread]
  · have hid := mem_matchingIds.mpr ⟨subscription, hl, hadmits⟩
    rw [matched, Bool.not_eq_true', List.isEmpty_eq_false_iff]
    exact List.ne_nil_of_mem hid

theorem Outcome.ne_err_of_isOk {α : Type} {r : Outcome α} (h : r.isOk = true) (e : McrxError) :
    r ≠ .err e := by
  intro heq
  rw [heq] at h
  exact nomatch h

theorem recvSharedRawLoop_flooded (socket : RawReceiveSocket) (key : RawSharedCaptureKey)
    (reads : Nat) (w : Fd) : (recvSharedRawLoop flooded socket key reads w).2 = w := by
  induction reads with
  | zero => rfl
  | succ reads ih =>
    simp only [recvSharedRawLoop, flooded, OperatingSystem.granting]
    split
    · rfl
    · exact ih

theorem readsApart_flooded (c : SharedRawContext) (key : RawSharedCaptureKey) :
    ReadsApart flooded c key := by
  intro w other capture _ _ hhead
  rw [recvSharedRawDatagram, recvSharedRawLoop_flooded]
  exact hhead

/-- In a window of two calls the first capture is served twice and the second, whose
turn each fill passes over, not at all. -/
theorem second_capture_starves :
    Reachable flooded twoCaptures ∧ twoCaptures.context.pendingPackets = [] ∧
      [Operation.tryRecvAny, .tryRecvAny].length = twoCaptures.context.captureOrder.length ∧
      (twoCaptures.context.captures.lookup (captureOn 2)).isSome = true ∧
      ReadsApart flooded twoCaptures.context (captureOn 2) ∧
      Waiting flooded (captureOn 2) [.tryRecvAny, .tryRecvAny] twoCaptures ∧
      ¬ ∃ call ∈ calls flooded [.tryRecvAny, .tryRecvAny] twoCaptures,
        call.Serves (captureOn 2) := by
  refine ⟨twoCaptures_reachable, by decide +kernel, by decide +kernel, by decide +kernel,
    readsApart_flooded _ _, ⟨trivial, ?_, ?_, trivial, ?_, ?_, trivial⟩, ?_⟩
  · exact headMatches_flooded (by decide +kernel) ⟨2⟩ (by decide +kernel) _
  · exact Outcome.ne_err_of_isOk (by decide +kernel)
  · exact headMatches_flooded (by decide +kernel) ⟨2⟩ (by decide +kernel) _
  · exact Outcome.ne_err_of_isOk (by decide +kernel)
  · have hother : ∀ call ∈ calls flooded [.tryRecvAny, .tryRecvAny] twoCaptures,
        ∀ event ∈ call.events, event.asRead.map Prod.fst ≠ some (captureOn 2) := by
      decide +kernel
    rintro ⟨call, hmem, captured, packet, hevent, -⟩
    exact hother call hmem _ hevent rfl

/-- The same window serves the first capture. -/
theorem waiting_capture_served_first :
    ∃ call ∈ calls flooded [.tryRecvAny, .tryRecvAny] twoCaptures, call.Serves (captureOn 1) := by
  obtain ⟨capture, hcapture⟩ : ∃ capture, twoCaptures.context.captures.lookup (captureOn 1) =
      some capture := Option.isSome_iff_exists.mp (by decide +kernel)
  refine waiting_capture_served twoCaptures_reachable hcapture (by decide +kernel)
    (by decide +kernel) (readsApart_flooded _ _) ⟨trivial, ?_, ?_, trivial, ?_, ?_, trivial⟩
    ⟨?_, ?_, trivial⟩
  · exact headMatches_flooded (by decide +kernel) ⟨1⟩ (by decide +kernel) _
  · exact Outcome.ne_err_of_isOk (by decide +kernel)
  · exact headMatches_flooded (by decide +kernel) ⟨1⟩ (by decide +kernel) _
  · exact Outcome.ne_err_of_isOk (by decide +kernel)
  · exact fun hpassed => absurd hpassed.2 (by decide +kernel)
  · exact fun hpassed => absurd hpassed.2 (by decide +kernel)

end System

end McrxCore
