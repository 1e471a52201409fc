import McrxCore.Context.Ledger
import McrxCore.Lib.Sampler

/-!
# Metrics deltas

The snapshots of `metrics.rs`, their deltas and the two samplers.
-/

namespace McrxCore

namespace Metrics

/-- `std::time::SystemTime`, in nanoseconds since the epoch. -/
structure SystemTime where
  nanos : Int
  deriving DecidableEq, Repr

instance : LT SystemTime := ⟨fun time earlier => time.nanos < earlier.nanos⟩

/-- `std::time::Duration`, in nanoseconds. -/
structure Duration where
  nanos : Nat
  deriving DecidableEq, Repr

/-- `None` where the source has an error: `earlier` is later. -/
def SystemTime.durationSince (time earlier : SystemTime) : Option Duration :=
  if earlier.nanos ≤ time.nanos then some { nanos := (time.nanos - earlier.nanos).toNat } else none

def Duration.asSecsF64 (duration : Duration) : Float :=
  Float.ofNat (duration.nanos / 1000000000) + Float.ofNat (duration.nanos % 1000000000) / 1e9

def checkedSub (a b : Nat) : Option Nat := if b ≤ a then some (a - b) else none

/-! ## Subscriptions -/

structure SubscriptionMetricsSnapshot where
  packetsReceived : Nat
  bytesReceived : Nat
  wouldBlockCount : Nat
  receiveErrors : Nat
  joinCount : Nat
  leaveCount : Nat
  lastPayloadLen : Option Nat
  lastSource : Option SocketAddr
  lastReceiveAt : Option SystemTime
  capturedAt : SystemTime
  deriving DecidableEq, Repr

structure SubscriptionMetricsDelta where
  intervalSecs : Float
  packetsReceived : Nat
  bytesReceived : Nat
  wouldBlockCount : Nat
  receiveErrors : Nat
  joinCount : Nat
  leaveCount : Nat

def SubscriptionMetricsSnapshot.deltaSince (snapshot earlier : SubscriptionMetricsSnapshot) :
    Option SubscriptionMetricsDelta := do
  let duration ← snapshot.capturedAt.durationSince earlier.capturedAt
  some
    { intervalSecs := duration.asSecsF64
      packetsReceived := ← checkedSub snapshot.packetsReceived earlier.packetsReceived
      bytesReceived := ← checkedSub snapshot.bytesReceived earlier.bytesReceived
      wouldBlockCount := ← checkedSub snapshot.wouldBlockCount earlier.wouldBlockCount
      receiveErrors := ← checkedSub snapshot.receiveErrors earlier.receiveErrors
      joinCount := ← checkedSub snapshot.joinCount earlier.joinCount
      leaveCount := ← checkedSub snapshot.leaveCount earlier.leaveCount }

structure SubscriptionMetricsSampler where
  previous : Option SubscriptionMetricsSnapshot

namespace SubscriptionMetricsSampler

def new : SubscriptionMetricsSampler := { previous := none }

def sample (current : SubscriptionMetricsSnapshot) (sampler : SubscriptionMetricsSampler) :
    Option SubscriptionMetricsDelta × SubscriptionMetricsSampler :=
  let delta :=
    match sampler.previous with
    | some previous => current.deltaSince previous
    | none => none
  (delta, { previous := some current })

def reset (_sampler : SubscriptionMetricsSampler) : SubscriptionMetricsSampler :=
  { previous := none }

def machine :
    Sampler.Machine SubscriptionMetricsSampler SubscriptionMetricsSnapshot
      SubscriptionMetricsDelta :=
  { new := new, sample := sample, reset := reset }

end SubscriptionMetricsSampler

/-! ## Contexts -/

/-- The snapshot with its time. -/
structure ContextMetricsSnapshot extends McrxCore.ContextMetricsSnapshot where
  capturedAt : SystemTime
  deriving DecidableEq, Repr

structure ContextMetricsDelta where
  intervalSecs : Float
  packetsReceived : Nat
  bytesReceived : Nat
  wouldBlockCount : Nat
  receiveErrors : Nat
  joinCount : Nat
  leaveCount : Nat
  batchCalls : Nat
  batchPacketsReceived : Nat

def ContextMetricsSnapshot.deltaSince (snapshot earlier : ContextMetricsSnapshot) :
    Option ContextMetricsDelta := do
  let duration ← snapshot.capturedAt.durationSince earlier.capturedAt
  some
    { intervalSecs := duration.asSecsF64
      packetsReceived := ← checkedSub snapshot.totalPacketsReceived earlier.totalPacketsReceived
      bytesReceived := ← checkedSub snapshot.totalBytesReceived earlier.totalBytesReceived
      wouldBlockCount := ← checkedSub snapshot.totalWouldBlockCount earlier.totalWouldBlockCount
      receiveErrors := ← checkedSub snapshot.totalReceiveErrors earlier.totalReceiveErrors
      joinCount := ← checkedSub snapshot.totalJoinCount earlier.totalJoinCount
      leaveCount := ← checkedSub snapshot.totalLeaveCount earlier.totalLeaveCount
      batchCalls := ← checkedSub snapshot.batchCalls earlier.batchCalls
      batchPacketsReceived :=
        ← checkedSub snapshot.batchPacketsReceived earlier.batchPacketsReceived }

structure ContextMetricsSampler where
  previous : Option ContextMetricsSnapshot

namespace ContextMetricsSampler

def new : ContextMetricsSampler := { previous := none }

def sample (current : ContextMetricsSnapshot) (sampler : ContextMetricsSampler) :
    Option ContextMetricsDelta × ContextMetricsSampler :=
  let delta :=
    match sampler.previous with
    | some previous => current.deltaSince previous
    | none => none
  (delta, { previous := some current })

def reset (_sampler : ContextMetricsSampler) : ContextMetricsSampler := { previous := none }

def machine :
    Sampler.Machine ContextMetricsSampler ContextMetricsSnapshot ContextMetricsDelta :=
  { new := new, sample := sample, reset := reset }

end ContextMetricsSampler

/-! ## The counters -/

inductive DeltaCounter where
  | total (counter : SharedCounter)
  | batchCalls
  | batchPacketsReceived
  deriving DecidableEq, Repr

def SubscriptionMetricsSnapshot.counter :
    SharedCounter → SubscriptionMetricsSnapshot → Nat
  | .packetsReceived, snapshot => snapshot.packetsReceived
  | .bytesReceived, snapshot => snapshot.bytesReceived
  | .wouldBlockCount, snapshot => snapshot.wouldBlockCount
  | .receiveErrors, snapshot => snapshot.receiveErrors
  | .joinCount, snapshot => snapshot.joinCount
  | .leaveCount, snapshot => snapshot.leaveCount

def SubscriptionMetricsDelta.counter : SharedCounter → SubscriptionMetricsDelta → Nat
  | .packetsReceived, delta => delta.packetsReceived
  | .bytesReceived, delta => delta.bytesReceived
  | .wouldBlockCount, delta => delta.wouldBlockCount
  | .receiveErrors, delta => delta.receiveErrors
  | .joinCount, delta => delta.joinCount
  | .leaveCount, delta => delta.leaveCount

def ContextMetricsSnapshot.counter : DeltaCounter → ContextMetricsSnapshot → Nat
  | .total .packetsReceived, snapshot => snapshot.totalPacketsReceived
  | .total .bytesReceived, snapshot => snapshot.totalBytesReceived
  | .total .wouldBlockCount, snapshot => snapshot.totalWouldBlockCount
  | .total .receiveErrors, snapshot => snapshot.totalReceiveErrors
  | .total .joinCount, snapshot => snapshot.totalJoinCount
  | .total .leaveCount, snapshot => snapshot.totalLeaveCount
  | .batchCalls, snapshot => snapshot.batchCalls
  | .batchPacketsReceived, snapshot => snapshot.batchPacketsReceived

def ContextMetricsDelta.counter : DeltaCounter → ContextMetricsDelta → Nat
  | .total .packetsReceived, delta => delta.packetsReceived
  | .total .bytesReceived, delta => delta.bytesReceived
  | .total .wouldBlockCount, delta => delta.wouldBlockCount
  | .total .receiveErrors, delta => delta.receiveErrors
  | .total .joinCount, delta => delta.joinCount
  | .total .leaveCount, delta => delta.leaveCount
  | .batchCalls, delta => delta.batchCalls
  | .batchPacketsReceived, delta => delta.batchPacketsReceived

theorem durationSince_bind_eq_none_iff {D : Type} {time earlier : SystemTime}
    {f : Duration → Option D} :
    (time.durationSince earlier).bind f = none ↔
      time < earlier ∨ f { nanos := (time.nanos - earlier.nanos).toNat } = none := by
  rw [SystemTime.durationSince]
  by_cases h : earlier.nanos ≤ time.nanos
  · have hlt : ¬ time < earlier := Int.not_lt.mpr h
    rw [if_pos h, Option.bind_some]
    simp only [hlt, false_or]
  · have hlt : time < earlier := Int.not_le.mp h
    rw [if_neg h]
    exact iff_of_true rfl (.inl hlt)

theorem checkedSub_bind_eq_none_iff {D : Type} {a b : Nat} {f : Nat → Option D} :
    (checkedSub a b).bind f = none ↔ a < b ∨ f (a - b) = none := by
  rw [checkedSub]
  by_cases h : b ≤ a
  · rw [if_pos h, Option.bind_some]
    simp only [Nat.not_lt.mpr h, false_or]
  · rw [if_neg h]
    exact iff_of_true rfl (.inl (Nat.not_le.mp h))

theorem checkedSub_eq_some_iff {a b c : Nat} : checkedSub a b = some c ↔ c + b = a := by
  rw [checkedSub]
  by_cases h : b ≤ a
  · rw [if_pos h, Option.some_inj]
    omega
  · rw [if_neg h]
    simp only [reduceCtorEq, false_iff]
    omega

theorem subscription_differences :
    Sampler.Differences SubscriptionMetricsSnapshot.deltaSince
      SubscriptionMetricsSnapshot.capturedAt SubscriptionMetricsSnapshot.counter
      SubscriptionMetricsDelta.counter where
  none_iff := by
    intro current previous
    simp only [SubscriptionMetricsSnapshot.deltaSince, Option.bind_eq_bind,
      durationSince_bind_eq_none_iff, checkedSub_bind_eq_none_iff, reduceCtorEq, or_false]
    refine or_congr_right ⟨?_, ?_⟩
    · rintro (h | h | h | h | h | h)
      exacts [⟨.packetsReceived, h⟩, ⟨.bytesReceived, h⟩, ⟨.wouldBlockCount, h⟩,
        ⟨.receiveErrors, h⟩, ⟨.joinCount, h⟩, ⟨.leaveCount, h⟩]
    · rintro ⟨k, h⟩
      cases k <;> simp only [SubscriptionMetricsSnapshot.counter] at h <;> omega
  amount_add := by
    intro current previous difference h k
    simp only [SubscriptionMetricsSnapshot.deltaSince, Option.bind_eq_bind,
      Option.bind_eq_some_iff, checkedSub_eq_some_iff] at h
    obtain ⟨duration, -, _, hpackets, _, hbytes, _, hblocks, _, herrors, _, hjoins,
      _, hleaves, hdelta⟩ := h
    cases hdelta
    cases k with
    | packetsReceived => exact hpackets
    | bytesReceived => exact hbytes
    | wouldBlockCount => exact hblocks
    | receiveErrors => exact herrors
    | joinCount => exact hjoins
    | leaveCount => exact hleaves

theorem context_differences :
    Sampler.Differences ContextMetricsSnapshot.deltaSince ContextMetricsSnapshot.capturedAt
      ContextMetricsSnapshot.counter ContextMetricsDelta.counter where
  none_iff := by
    intro current previous
    simp only [ContextMetricsSnapshot.deltaSince, Option.bind_eq_bind,
      durationSince_bind_eq_none_iff, checkedSub_bind_eq_none_iff, reduceCtorEq, or_false]
    refine or_congr_right ⟨?_, ?_⟩
    · rintro (h | h | h | h | h | h | h | h)
      exacts [⟨.total .packetsReceived, h⟩, ⟨.total .bytesReceived, h⟩,
        ⟨.total .wouldBlockCount, h⟩, ⟨.total .receiveErrors, h⟩, ⟨.total .joinCount, h⟩,
        ⟨.total .leaveCount, h⟩, ⟨.batchCalls, h⟩, ⟨.batchPacketsReceived, h⟩]
    · rintro ⟨k, h⟩
      rcases k with k | _ | _
      · cases k <;> simp only [ContextMetricsSnapshot.counter] at h <;> omega
      all_goals simp only [ContextMetricsSnapshot.counter] at h; omega
  amount_add := by
    intro current previous difference h k
    simp only [ContextMetricsSnapshot.deltaSince, Option.bind_eq_bind, Option.bind_eq_some_iff,
      checkedSub_eq_some_iff] at h
    obtain ⟨duration, -, _, hpackets, _, hbytes, _, hblocks, _, herrors, _, hjoins, _, hleaves,
      _, hcalls,
      _, hbatched, hdelta⟩ := h
    cases hdelta
    rcases k with k | _ | _
    · cases k with
      | packetsReceived => exact hpackets
      | bytesReceived => exact hbytes
      | wouldBlockCount => exact hblocks
      | receiveErrors => exact herrors
      | joinCount => exact hjoins
      | leaveCount => exact hleaves
    · exact hcalls
    · exact hbatched

/-! ## The samplers -/

theorem SubscriptionMetricsSampler.keeps :
    Sampler.Keeps machine previous SubscriptionMetricsSnapshot.deltaSince where
  new := rfl
  sample := by
    rintro current ⟨_ | previous⟩ <;> rfl
  rebased := fun _ _ => rfl
  reset := fun _ => rfl

theorem ContextMetricsSampler.keeps :
    Sampler.Keeps machine previous ContextMetricsSnapshot.deltaSince where
  new := rfl
  sample := by
    rintro current ⟨_ | previous⟩ <;> rfl
  rebased := fun _ _ => rfl
  reset := fun _ => rfl

/-- After any history of samples and resets, both samplers miss and repeat no event. -/
theorem sampler_deltas_telescope :
    Sampler.Telescopes ContextMetricsSampler.machine ContextMetricsSampler.previous
      ContextMetricsSnapshot.capturedAt ContextMetricsSnapshot.counter ContextMetricsDelta.counter ∧
    Sampler.Telescopes SubscriptionMetricsSampler.machine SubscriptionMetricsSampler.previous
      SubscriptionMetricsSnapshot.capturedAt SubscriptionMetricsSnapshot.counter
      SubscriptionMetricsDelta.counter :=
  ⟨ContextMetricsSampler.keeps.telescopes context_differences,
    SubscriptionMetricsSampler.keeps.telescopes subscription_differences⟩

end Metrics

end McrxCore
