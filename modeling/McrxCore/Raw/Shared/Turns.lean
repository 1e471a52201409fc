import McrxCore.Lib.RoundRobin
import McrxCore.Raw.Shared.Run

/-!
# Turns across a closed capture

The last leave of a capture takes it out of the capture order, and the cursor is only
brought back into range.  A capture that closes before the cursor moves the later ones one
place forward under it.
-/

namespace McrxCore

open RoundRobin

namespace SharedRawContext

section Closing

variable {c c' : SharedRawContext} {id : SubscriptionId} {events : List Event}
  {key : RawSharedCaptureKey}

/-- `c'` is `c` with the order and the cursor that `remove_capture` leaves. -/
def TurnsWithout (c c' : SharedRawContext) (key : RawSharedCaptureKey) : Prop :=
  key ∈ c.captureOrder ∧ c'.captureOrder = c.captureOrder.erase key ∧
    c'.nextCaptureIndex =
      if (c.captureOrder.erase key).isEmpty then 0
      else c.nextCaptureIndex % (c.captureOrder.erase key).length

theorem LeaveStep.turnsWithout {r : Outcome Unit} (h : LeaveStep c id r c' events)
    (hinv : c.Invariant) (hclosed : .captureClosed key ∈ events) : TurnsWithout c c' key := by
  cases h with
  | refused => cases hclosed
  | leaveFailed => simp at hclosed
  | leftShared => cases hclosed
  | leftLast => simp at hclosed
  | closed hl hjoined hcapture hheld hlast hone =>
    simp only [List.mem_cons, reduceCtorEq, Event.captureClosed.injEq, List.not_mem_nil, or_false,
      false_or] at hclosed
    subst hclosed
    exact ⟨(hinv.mem_order _).mpr ⟨_, hcapture⟩, rfl, rfl⟩

theorem RemoveStep.turnsWithout {r : Outcome Bool} (h : RemoveStep c id r c' events)
    (hinv : c.Invariant) (hclosed : .captureClosed key ∈ events) : TurnsWithout c c' key := by
  cases h with
  | missing => cases hclosed
  | leaveFailed hleave => exact hleave.turnsWithout hinv hclosed
  | removedBound => cases hclosed
  | leftRemoved hl hjoined hleave hl' hresolved => exact hleave.turnsWithout hinv hclosed

theorem TurnsWithout.keepsTurns_iff (h : TurnsWithout c c' key) (hinv : c.Invariant) :
    KeepsTurns key c.captureOrder c.nextCaptureIndex c'.captureOrder c'.nextCaptureIndex ↔
      c.nextCaptureIndex ≤ c.captureOrder.idxOf key ∨ c.captureOrder.length ≤ 2 := by
  obtain ⟨hmem, horder, hindex⟩ := h
  have hcursor : c.nextCaptureIndex < c.captureOrder.length := by
    rcases hinv.cursor with hlt | ⟨hnil, -⟩
    · exact hlt
    · rw [hnil] at hmem
      cases hmem
  have hwrapped : c'.nextCaptureIndex =
      c.nextCaptureIndex % (c.captureOrder.erase key).length := by
    rw [hindex]
    split
    · rename_i hempty
      have hlength := List.length_erase_of_mem hmem
      rw [List.isEmpty_iff.mp hempty, List.length_nil] at hlength
      rw [List.isEmpty_iff.mp hempty, List.length_nil, Nat.mod_zero]
      omega
    · rfl
  rw [horder, hwrapped]
  exact RoundRobin.keepsTurns_iff hinv.order_nodup hcursor hmem

end Closing

end SharedRawContext

def Operation.leaves : Operation → Prop
  | .leaveSubscription _ => True
  | .removeSubscription _ => True
  | _ => False

namespace System

open SharedRawContext

variable {W : Type} {os : OperatingSystem W}

theorem CallStep.turnsWithout {c c' : SharedRawContext} {operation : Operation}
    {response : Response} {events : List Event} {key : RawSharedCaptureKey}
    (h : CallStep c operation response c' events) (hop : operation.leaves) (hinv : c.Invariant)
    (hclosed : .captureClosed key ∈ events) : TurnsWithout c c' key := by
  cases h with
  | left hleave => exact hleave.turnsWithout hinv hclosed
  | removed hremove => exact hremove.turnsWithout hinv hclosed
  | added => exact hop.elim
  | joined => exact hop.elim
  | receivedAny => exact hop.elim
  | receivedBatch => exact hop.elim

/-- Closing a capture costs no other its turn exactly if the capture was at the cursor or
behind it, or no more than two were open. -/
theorem closed_capture_keeps_turns_iff {s : System W} (h : Reachable os s)
    {operation : Operation} (hop : operation.leaves) {key : RawSharedCaptureKey}
    (hclosed : .captureClosed key ∈ (step os operation s).2.events) :
    KeepsTurns key s.context.captureOrder s.context.nextCaptureIndex
        (step os operation s).2.context.captureOrder
        (step os operation s).2.context.nextCaptureIndex ↔
      s.context.nextCaptureIndex ≤ s.context.captureOrder.idxOf key ∨
        s.context.captureOrder.length ≤ 2 :=
  (CallStep.turnsWithout (step_cases os operation h.invariant) hop h.invariant
    hclosed).keepsTurns_iff h.invariant

/-! ## Three captures -/

/-- A context with a joined subscription on each of three interfaces, after a receive. -/
def threeCaptures : System Fd :=
  run flooded
    [.addSubscription (allNodesOn 1), .addSubscription (allNodesOn 2),
      .addSubscription (allNodesOn 3), .joinSubscription ⟨1⟩, .joinSubscription ⟨2⟩,
      .joinSubscription ⟨3⟩, .tryRecvAny]
    (.new 3)

theorem threeCaptures_reachable : Reachable flooded threeCaptures :=
  ⟨.new 3, _, initial_new 3, by decide, rfl⟩

/-- The third capture is next.  The first one closes, and the second is next. -/
theorem closed_capture_costs_a_turn :
    Reachable flooded threeCaptures ∧
      .captureClosed (captureOn 1) ∈ (step flooded (.leaveSubscription ⟨1⟩)
        threeCaptures).2.events ∧
      ¬ KeepsTurns (captureOn 1) threeCaptures.context.captureOrder
        threeCaptures.context.nextCaptureIndex
        (step flooded (.leaveSubscription ⟨1⟩) threeCaptures).2.context.captureOrder
        (step flooded (.leaveSubscription ⟨1⟩) threeCaptures).2.context.nextCaptureIndex := by
  refine ⟨threeCaptures_reachable, by decide +kernel, fun h => ?_⟩
  have hnext := h.others (captureOn 3) (by decide +kernel) (by decide)
  revert hnext
  decide +kernel

/-- Closing the capture at the cursor keeps the turns of the others. -/
theorem closed_capture_keeps_turns_third :
    KeepsTurns (captureOn 3) threeCaptures.context.captureOrder
        threeCaptures.context.nextCaptureIndex
        (step flooded (.removeSubscription ⟨3⟩) threeCaptures).2.context.captureOrder
        (step flooded (.removeSubscription ⟨3⟩) threeCaptures).2.context.nextCaptureIndex ∧
      threeCaptures.context.captureOrder.length = 3 := by
  have hop : (Operation.removeSubscription ⟨3⟩).leaves := trivial
  exact ⟨(closed_capture_keeps_turns_iff threeCaptures_reachable hop (by decide +kernel)).mpr
    (.inl (by decide +kernel)), by decide +kernel⟩

end System

end McrxCore
