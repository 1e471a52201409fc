import McrxCore.Ffi.Replacement

/-!
# What a stop waits for

A stop joins the worker whose handle it finds in the slot.  A worker whose handle
another stop has taken, or that was detached by a stop in its own callback, is not
waited for.
-/

namespace McrxCore.Ffi

open Transition (run Meets)

namespace State

/-- Worker `g` was spawned and has not exited. -/
def Running (s : State) (g : Generation) : Prop :=
  ∃ point, s.workers g = some point ∧ point ≠ .exited

/-- Worker `g` has exited: its callback is over, and none will begin. -/
def Exited (s : State) (g : Generation) : Prop := s.workers g = some .exited

theorem exited_of_not_running {s : State} {g : Generation} (hspawned : s.workers g ≠ none)
    (h : ¬ s.Running g) : s.Exited g := by
  obtain ⟨point, hpoint⟩ := Option.ne_none_iff_exists'.mp hspawned
  by_contra hexited
  refine h ⟨point, hpoint, fun heq => hexited ?_⟩
  rw [Exited, hpoint, heq]

end State

/-- The stop of a host thread takes the slot while a worker runs whose handle is not in
it: another stop is joining that worker, or a stop in its own callback detached it. -/
def LeavesRunning (s : State) (a : Action) : Prop :=
  ∃ n g, a = .proceed (.external n) ∧ s.controls (.external n) = .stop .stop .take ∧
    s.Running g ∧ s.worker ≠ some g

/-! ## Exits are final -/

variable {m : Nat} {s s' : State} {g : Generation}

theorem State.Exited.step {a : Action} (h : s.Exited g) (hallocated : s.Allocated m)
    (hstep : Ffi.step a s = some s') : s'.Exited g := by
  cases step_point hstep g with
  | worked input ha hwork =>
    rw [State.Exited] at h
    simp only [workStep, h] at hwork
    cases hwork
  | kept heq => rwa [State.Exited, heq]
  | notified heq =>
    have hworkers : s.notifyAll.workers g =
        if s.workers g = some .parked then some .waitRelock else s.workers g := rfl
    rw [State.Exited, heq, hworkers, h, if_neg (by decide)]
  | spawned t hspawn heq =>
    -- A generation about to be spawned has no worker yet.
    obtain ⟨-, -, hnone⟩ := hallocated.pending t g (by rw [hspawn]; rfl)
    rw [State.Exited, hnone] at h
    cases h

/-- A spawned worker stays in the system. -/
theorem spawned_step {a : Action} (h : s.workers g ≠ none) (hstep : step a s = some s') :
    s'.workers g ≠ none := by
  intro hnone
  refine h ?_
  cases step_frame hstep with
  | work hwork => exact (hwork.workers g).mp hnone
  | call t hcall => exact ((hcall.workers g).mp hnone).1
  | fetchUpdate t _ _ heq =>
    subst heq
    exact hnone

/-! ## The stop of a host thread -/

/-- What a stop of host thread `n` knows of the workers spawned before it, from its
store to its return. -/
def Awaited (n : Nat) (spawned : Generation → Prop) (s : State) : Prop :=
  match s.controls (.external n) with
  | .stop .stop (.unlock handle) => ∀ g, spawned g → s.Exited g ∨ handle = some g
  | .stop .stop (.join handle) => ∀ g, spawned g → s.Exited g ∨ handle = g
  | .stop .stop .clearError => ∀ g, spawned g → s.Exited g
  | .returned .stop _ => ∀ g, spawned g → s.Exited g
  | .stop .stop _ => True
  | .idle => True
  | _ => False

/-- Steps of others keep what a stop knows. -/
theorem Awaited.of_same {n : Nat} {spawned : Generation → Prop} (h : Awaited n spawned s)
    (hcontrol : s'.controls (.external n) = s.controls (.external n))
    (hexited : ∀ g, s.Exited g → s'.Exited g) : Awaited n spawned s' := by
  rw [Awaited, hcontrol]
  rw [Awaited] at h
  split at h
  · exact fun g hg => (h g hg).imp_left (hexited g)
  · exact fun g hg => (h g hg).imp_left (hexited g)
  · exact fun g hg => hexited g (h g hg)
  · exact fun g hg => hexited g (h g hg)
  · trivial
  · trivial
  · exact h

/-- The steps of the stop itself.  It takes a handle that covers every running worker,
and goes on only when that worker has exited. -/
theorem Awaited.proceed {n : Nat} {spawned : Generation → Prop} (h : Awaited n spawned s)
    (hspawned : ∀ g, spawned g → s.workers g ≠ none)
    (hcovered : ¬ LeavesRunning s (.proceed (.external n)))
    (hstep : callStep (.external n) s = some s') : Awaited n spawned s' := by
  have hself : ∀ (s₁ : State) control,
      (s₁.goto (.external n) control).controls (.external n) = control :=
    fun _ _ => Function.update_self ..
  rw [Awaited] at h
  simp only [callStep] at hstep
  split at hstep
  · cases hstep
  · rename_i hcontrol
    rw [hcontrol] at h
    exact h.elim
  · rename_i call point hcontrol
    rw [hcontrol] at h
    cases call with
    | free =>
      cases point <;> exact h.elim
    | stop =>
      cases point with
      | store =>
        cases hstep
        rw [Awaited, hself]
        trivial
      | notify =>
        cases hstep
        rw [Awaited, hself]
        trivial
      | lock =>
        simp only [stopStep] at hstep
        split at hstep
        · cases hstep
          rw [Awaited, hself]
          trivial
        · cases hstep
      | take =>
        cases hstep
        rw [Awaited, hself]
        intro g hg
        by_cases hrunning : s.Running g
        · by_contra hnot
          rw [not_or] at hnot
          exact hcovered ⟨n, g, rfl, hcontrol, hrunning, hnot.2⟩
        · exact Or.inl (State.exited_of_not_running (hspawned g hg) hrunning)
      | unlock handle =>
        cases hstep
        rcases afterUnlock_cases (.external n) .stop handle with hfinish | ⟨g₀, rfl, -, hjoin⟩
        · have hnone : handle = none := by
            cases handle with
            | none => rfl
            | some g₀ =>
              rw [afterUnlock, if_neg fun hself => by cases hself] at hfinish
              cases hfinish
          subst hnone
          rw [Awaited, hself]
          exact fun g hg => (h g hg).resolve_right fun hnone => by cases hnone
        · rw [hjoin, Awaited, hself]
          exact fun g hg => (h g hg).imp_right Option.some.inj
      | join handle =>
        simp only [stopStep] at hstep
        split at hstep
        · rename_i hexited
          cases hstep
          rw [Awaited, hself]
          intro g hg
          rcases h g hg with hgone | heq
          · exact hgone
          · rw [heq] at hexited
            exact hexited
        · cases hstep
      | clearError =>
        cases hstep
        rw [Awaited, hself]
        exact h
  · rename_i point hcontrol
    rw [hcontrol] at h
    exact h.elim
  · cases hstep
    rw [Awaited, hself]
    trivial

structure Awaiting (n : Nat) (spawned : Generation → Prop) (m : Nat) (s : State) : Prop where
  allocated : s.Allocated m
  present : ∀ g, spawned g → s.workers g ≠ none
  awaited : Awaited n spawned s

theorem Awaiting.step {n : Nat} {spawned : Generation → Prop} {a : Action}
    (h : Awaiting n spawned m s) (hm : m + a.starts < 2 ^ 64)
    (hbegin : ∀ call, a ≠ .begin (.external n) call) (hcovered : ¬ LeavesRunning s a)
    (hstep : Ffi.step a s = some s') : Awaiting n spawned (m + a.starts) s' := by
  refine ⟨h.allocated.step hm (step_frame hstep), fun g hg => spawned_step (h.present g hg) hstep,
    ?_⟩
  have hexited : ∀ g, s.Exited g → s'.Exited g := fun g hg => hg.step h.allocated hstep
  cases a with
  | begin t call =>
    have hne : .external n ≠ t := fun heq => hbegin call (by rw [heq])
    exact h.awaited.of_same ((beginCall_frame hstep).others _ hne) hexited
  | proceed t =>
    by_cases hself : .external n = t
    · subst hself
      exact h.awaited.proceed h.present hcovered hstep
    · exact h.awaited.of_same ((callStep_frame hstep).others _ hself) hexited
  | fetchUpdate t =>
    obtain ⟨hcontrol, heq⟩ := fetchUpdate_eq_some hstep
    by_cases hself : .external n = t
    · have hfalse := h.awaited
      rw [Awaited, hself, hcontrol] at hfalse
      exact hfalse.elim
    · refine h.awaited.of_same ?_ hexited
      rw [heq]
      exact Function.update_of_ne hself _ _
  | work g input =>
    exact h.awaited.of_same (congrFun (workStep_frame hstep).controls _) hexited

/-! ## Runs -/

variable {actions later after : List Action} {s₀ s₁ s₂ s₃ : State}

theorem allocated_of_run (hrun : run step actions .new = some s)
    (hstarts : starts actions < 2 ^ 64) : s.Allocated (starts actions) := by
  have h := Transition.invariant_of_weight Action.starts (2 ^ 64)
    (P := fun m s => s.Allocated m) (n := 0)
    (fun _ _ _ _ hm _ h hstep => h.step hm (step_frame hstep))
    (by rwa [Nat.zero_add]) (meets_true _) State.allocated_new hrun
  rwa [Nat.zero_add] at h

/-- Exits are final over runs. -/
theorem exited_of_run (hallocated : s.Allocated m) (hexited : s.Exited g)
    (hrun : run step later s = some s') (hstarts : m + starts later < 2 ^ 64) : s'.Exited g := by
  have h := Transition.invariant_of_weight Action.starts (2 ^ 64)
    (P := fun m s => s.Allocated m ∧ s.Exited g)
    (fun _ _ _ _ hm _ h hstep => ⟨h.1.step hm (step_frame hstep), h.2.step h.1 hstep⟩)
    hstarts (meets_true _) ⟨hallocated, hexited⟩ hrun
  exact h.2

/-- When a stop of a host thread never takes the slot while a worker runs whose handle
is not in it, then at its return every worker spawned before it has exited, and stays
so. -/
theorem stop_awaits_workers {n : Nat} (hbefore : run step actions .new = some s₀)
    (hbegin : step (.begin (.external n) .stop) s₀ = some s₁)
    (hrun : run step later s₁ = some s₂)
    (hcall : ∀ a ∈ later, ∀ call, a ≠ .begin (.external n) call)
    (hcovered : Meets step (fun s a => ¬ LeavesRunning s a) later s₁)
    (hreturned : s₂.controls (.external n) = .returned .stop .ok)
    (hafter : run step after s₂ = some s₃)
    (hstarts : starts actions + starts later + starts after < 2 ^ 64) :
    ∀ g, s₀.workers g ≠ none → s₂.Exited g ∧ s₃.Exited g := by
  intro g hspawned
  have hallocated := allocated_of_run hbefore (by omega)
  have hcontrol : s₁.controls (.external n) = .stop .stop .store := by
    simp only [step, beginCall] at hbegin
    split at hbegin
    · cases hbegin
      exact Function.update_self ..
    · cases hbegin
  have hfirst : Awaiting n (fun g => s₀.workers g ≠ none) (starts actions) s₁ := by
    refine ⟨hallocated.step (by show _ + 0 < _; omega) (step_frame hbegin),
      fun g hg => spawned_step hg hbegin, ?_⟩
    rw [Awaited, hcontrol]
    trivial
  have hmeets : Meets step (fun s a => (∀ call, a ≠ .begin (.external n) call) ∧
      ¬ LeavesRunning s a) later s₁ := by
    exact (Transition.meets_of_mem (fun a ha _ => hcall a ha) s₁).and hcovered
  have hlast := Transition.invariant_of_weight Action.starts (2 ^ 64)
    (P := Awaiting n fun g => s₀.workers g ≠ none)
    (fun _ _ _ _ hm hmeets h hstep => h.step hm hmeets.1 hmeets.2 hstep)
    (show starts actions + starts later < 2 ^ 64 by omega) hmeets hfirst hrun
  have hexited : s₂.Exited g := by
    have hawaited := hlast.awaited
    rw [Awaited, hreturned] at hawaited
    exact hawaited g hspawned
  exact ⟨hexited, exited_of_run hlast.allocated hexited hafter hstarts⟩

/-- Host thread `n` stops, up to the return when it finds no handle. -/
def stopActions (n : Nat) : List Action := List.replicate 6 (.proceed (.external n))

/-- The rest of a stop of host thread 0 that joins the first worker, which leaves its
callback and exits. -/
def joinedStop : List Action :=
  List.replicate 5 (.proceed (.external 0)) ++ [.work 1 .go, .work 1 .go] ++
    List.replicate 2 (.proceed (.external 0))

/-- A host thread that takes the slot finds the first worker in it. -/
def findsFirst (s : State) : Action → Bool
  | .proceed (.external n) =>
    decide (s.controls (.external n) = .stop .stop .take → s.worker = some 1)
  | _ => true

theorem not_leavesRunning_of_findsFirst {a : Action} (hallocated : s.Allocated 1)
    (h : findsFirst s a = true) : ¬ LeavesRunning s a := by
  rintro ⟨n, g, rfl, htake, ⟨point, hpoint, -⟩, hslot⟩
  obtain ⟨hpos, hle⟩ := hallocated.started g (by rw [hpoint]; exact nofun)
  obtain rfl : 1 = g := Nat.le_antisymm hpos hle
  exact hslot (of_decide_eq_true h htake)

theorem stop_awaits_workers_callback :
    ∃ s₀ s₁ s₂, s₀.workers 1 = some .callback ∧
      step (.begin (.external 0) .stop) s₀ = some s₁ ∧ run step joinedStop s₁ = some s₂ ∧
      s₂.controls (.external 0) = .returned .stop .ok ∧ s₂.Exited 1 := by
  have hend : (run step (startActions (.external 0) ++ [.work 1 .go, .work 1 .packet]) .new).any
      (fun s₀ => decide (s₀.workers 1 = some .callback) &&
        (step (.begin (.external 0) .stop) s₀).any fun s₁ =>
          Transition.check step findsFirst joinedStop s₁ &&
          (run step joinedStop s₁).any fun s₂ =>
            decide (s₂.controls (.external 0) = .returned .stop .ok)) = true := by decide
  obtain ⟨s₀, hbefore, hs₀⟩ := Transition.exists_of_run_any hend
  obtain ⟨hcallback, hs₀⟩ := Bool.and_eq_true_iff.mp hs₀
  obtain ⟨s₁, hbegin, hs₁⟩ := (Option.any_eq_true ..).mp hs₀
  obtain ⟨hcheck, hs₁⟩ := Bool.and_eq_true_iff.mp hs₁
  obtain ⟨s₂, hrun, hs₂⟩ := Transition.exists_of_run_any hs₁
  have hreturned := of_decide_eq_true hs₂
  have hallocated : s₁.Allocated 1 :=
    (allocated_of_run hbefore (by decide)).step (by decide) (step_frame hbegin)
  have hcovered : Meets step (fun s a => ¬ LeavesRunning s a) joinedStop s₁ := by
    refine Transition.meets_of_check (P := fun s => s.Allocated 1)
      (fun s a h hp => not_leavesRunning_of_findsFirst h hp) (fun s a s' ha h hstep => ?_)
      hallocated hcheck
    have hstarts : ∀ a ∈ joinedStop, a.starts = 0 := by decide
    have hkept := h.step (by rw [hstarts a ha]; decide) (step_frame hstep)
    rwa [hstarts a ha] at hkept
  have hworker : s₀.workers 1 ≠ none := by
    rw [of_decide_eq_true hcallback]
    exact nofun
  have hexited := stop_awaits_workers hbefore hbegin hrun (by simp [joinedStop]) hcovered hreturned
    (show run step [] s₂ = some s₂ from rfl) (by decide) 1 hworker
  exact ⟨s₀, s₁, s₂, of_decide_eq_true hcallback, hbegin, hrun, hreturned, hexited.1⟩

/-! ## A second stop -/

/-- The first worker is in its callback while host thread 0 has taken its handle; then
host thread 1 stops. -/
def stoppedTwice : List Action :=
  startActions (.external 0) ++ [.work 1 .go, .work 1 .packet] ++
    [.begin (.external 0) .stop] ++ List.replicate 5 (.proceed (.external 0))

/-- The second stop returns while the worker is in its callback. -/
theorem second_stop_returns_early :
    ∃ s₀ s₁ s₂, run step stoppedTwice .new = some s₀ ∧ s₀.workers 1 ≠ none ∧
      step (.begin (.external 1) .stop) s₀ = some s₁ ∧ run step (stopActions 1) s₁ = some s₂ ∧
      s₂.controls (.external 1) = .returned .stop .ok ∧ s₂.workers 1 = some .callback ∧
      ¬ s₂.Exited 1 := by
  have hend : (run step stoppedTwice .new).any
      (fun s₀ => decide (s₀.workers 1 ≠ none) &&
        (step (.begin (.external 1) .stop) s₀).any fun s₁ =>
          (run step (stopActions 1) s₁).any fun s₂ =>
            decide (s₂.controls (.external 1) = .returned .stop .ok ∧
              s₂.workers 1 = some .callback)) = true := by decide
  obtain ⟨s₀, hbefore, hs₀⟩ := Transition.exists_of_run_any hend
  obtain ⟨hworker, hs₀⟩ := Bool.and_eq_true_iff.mp hs₀
  obtain ⟨s₁, hbegin, hs₁⟩ := (Option.any_eq_true ..).mp hs₀
  obtain ⟨s₂, hrun, hs₂⟩ := Transition.exists_of_run_any hs₁
  obtain ⟨hreturned, hcallback⟩ := of_decide_eq_true hs₂
  refine ⟨s₀, s₁, s₂, hbefore, of_decide_eq_true hworker, hbegin, hrun, hreturned, hcallback, ?_⟩
  rw [State.Exited, hcallback]
  exact nofun

end McrxCore.Ffi
