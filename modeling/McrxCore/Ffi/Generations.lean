import McrxCore.Ffi.Worker

/-!
# Generations

A generation is given out once, and is pending until its worker is spawned; handles
name spawned workers only.  A stop that takes a handle while no generation is active
joins a worker that is on its way out.  Nothing else invalidates the handle it takes:
a generation stored between the store of a stop and its take is joined while active.
-/

namespace McrxCore.Ffi

open Transition (run Meets)

/-! ## What a caller holds -/

namespace Control

/-- The handle the caller has taken out of the slot. -/
def held : Control → Option Generation
  | .stop _ (.unlock handle) => handle
  | .stop _ (.join handle) => some handle
  | .start (.isFinished handle) => some handle
  | _ => none

/-- The generation given out to the caller and not spawned yet. -/
def pending : Control → Option Generation
  | .start (.store generation) => some generation
  | .start (.spawn generation) => some generation
  | _ => none

/-- The caller is in `stop_worker`, after the store and before the take. -/
def beforeTake : Control → Bool
  | .stop _ .notify => true
  | .stop _ .lock => true
  | .stop _ .take => true
  | _ => false

/-- The worker that the caller `t` is about to join, or is joining. -/
def joins (t : Thread) : Control → Option Generation
  | .stop _ (.unlock handle) => handle.filter fun g => t ≠ .worker g
  | .stop _ (.join handle) => some handle
  | _ => none

end Control

/-- A step stores a generation while a stop stands between its store and its take. -/
def SlipsIntoStop (s : State) (a : Action) : Prop :=
  ∃ t generation, a = .proceed t ∧ s.controls t = .start (.store generation) ∧
    ∃ t', (s.controls t').beforeTake = true

/-! ## What a step does -/

/-- What a step of the call of thread `t` does to handles and generations. -/
structure CallFrame (t : Thread) (s s' : State) : Prop where
  others : ∀ t', t' ≠ t → s'.controls t' = s.controls t'
  next : s'.nextWorkerGeneration = s.nextWorkerGeneration
  workers : ∀ g, s'.workers g = none ↔ s.workers g = none ∧ s.controls t ≠ .start (.spawn g)
  slot : ∀ g, s'.worker = some g →
    s.worker = some g ∨ (s.controls t).held = some g ∨ s.controls t = .start (.spawn g)
  held : ∀ g, (s'.controls t).held = some g → s.worker = some g ∨ (s.controls t).held = some g
  pending : ∀ g, (s'.controls t).pending = some g →
    (s.controls t).pending = some g ∧ s.controls t ≠ .start (.spawn g)
  active : s'.activeWorkerGeneration = s.activeWorkerGeneration ∨ s'.activeWorkerGeneration = 0 ∨
    s.controls t = .start (.store s'.activeWorkerGeneration)
  beforeTake : (s'.controls t).beforeTake = true → s'.activeWorkerGeneration = 0 ∨
    (s.controls t).beforeTake = true ∧ s'.activeWorkerGeneration = s.activeWorkerGeneration
  joins : ∀ g, (s'.controls t).joins t = some g →
    s'.activeWorkerGeneration = s.activeWorkerGeneration ∧
      ((s.controls t).joins t = some g ∨ (s.controls t).beforeTake = true)

theorem notifyAll_workers_eq_none {s : State} {g : Generation} :
    s.notifyAll.workers g = none ↔ s.workers g = none := by
  show (if s.workers g = some .parked then some .waitRelock else s.workers g) = none ↔ _
  split
  · rename_i hparked
    simp [hparked]
  · rfl

/-- A step that moves thread `t` on and leaves the workers, with the conditions that
depend on the move. -/
theorem CallFrame.of_goto {t : Thread} {s s₁ : State} {control : Control}
    (hcontrols : s₁.controls = s.controls)
    (hnext : s₁.nextWorkerGeneration = s.nextWorkerGeneration)
    (hworkers : ∀ g, s₁.workers g = none ↔ s.workers g = none)
    (hspawn : ∀ g, s.controls t ≠ .start (.spawn g))
    (hslot : ∀ g, s₁.worker = some g → s.worker = some g ∨ (s.controls t).held = some g)
    (hheld : ∀ g, control.held = some g → s.worker = some g ∨ (s.controls t).held = some g)
    (hpending : ∀ g, control.pending = some g → (s.controls t).pending = some g)
    (hactive : s₁.activeWorkerGeneration = s.activeWorkerGeneration ∨
      s₁.activeWorkerGeneration = 0 ∨ s.controls t = .start (.store s₁.activeWorkerGeneration))
    (hbefore : control.beforeTake = true → s₁.activeWorkerGeneration = 0 ∨
      (s.controls t).beforeTake = true ∧
        s₁.activeWorkerGeneration = s.activeWorkerGeneration)
    (hjoins : ∀ g, control.joins t = some g →
      s₁.activeWorkerGeneration = s.activeWorkerGeneration ∧
        ((s.controls t).joins t = some g ∨ (s.controls t).beforeTake = true)) :
    CallFrame t s (s₁.goto t control) := by
  have hcontrol : (s₁.goto t control).controls t = control := Function.update_self ..
  refine ⟨fun t' hne => ?_, hnext, fun g => ?_, fun g hg => ?_, fun g hg => ?_, fun g hg => ?_,
    hactive, fun hb => ?_, fun g hg => ?_⟩
  · show Function.update s₁.controls t control t' = s.controls t'
    rw [Function.update_of_ne hne, hcontrols]
  · exact (hworkers g).trans (and_iff_left (hspawn g)).symm
  · exact (hslot g hg).imp_right Or.inl
  · rw [hcontrol] at hg
    exact hheld g hg
  · rw [hcontrol] at hg
    exact ⟨hpending g hg, hspawn g⟩
  · rw [hcontrol] at hb
    exact hbefore hb
  · rw [hcontrol] at hg
    exact hjoins g hg

/-- A place that holds no handle and no generation, and neither joins nor is on the way to. -/
structure Control.Free (t : Thread) (control : Control) : Prop where
  held : control.held = none
  pending : control.pending = none
  beforeTake : control.beforeTake = false
  joins : control.joins t = none

/-- A step that only moves thread `t` on, to a free place. -/
theorem CallFrame.of_free {t : Thread} {s s₁ : State} {control : Control}
    (hcontrols : s₁.controls = s.controls)
    (hnext : s₁.nextWorkerGeneration = s.nextWorkerGeneration)
    (hworkers : s₁.workers = s.workers) (hworker : s₁.worker = s.worker)
    (hactive : s₁.activeWorkerGeneration = s.activeWorkerGeneration)
    (hspawn : ∀ g, s.controls t ≠ .start (.spawn g)) (hfree : control.Free t) :
    CallFrame t s (s₁.goto t control) := by
  refine .of_goto hcontrols hnext (fun g => ?_) hspawn (fun g hg => ?_) (fun g hg => ?_)
    (fun g hg => ?_) (Or.inl hactive) (fun hb => ?_) (fun g hg => ?_)
  · rw [hworkers]
  · rw [← hworker]
    exact Or.inl hg
  · exact nomatch hfree.held.symm.trans hg
  · exact nomatch hfree.pending.symm.trans hg
  · exact nomatch hfree.beforeTake.symm.trans hb
  · exact nomatch hfree.joins.symm.trans hg

theorem StopCall.free_finish (t : Thread) (call : StopCall) : call.finish.Free t := by
  cases call <;> exact ⟨rfl, rfl, rfl, rfl⟩

theorem afterUnlock_cases (t : Thread) (call : StopCall) (handle : Option Generation) :
    afterUnlock t call handle = call.finish ∨
      ∃ g, handle = some g ∧ t ≠ .worker g ∧ afterUnlock t call handle = .stop call (.join g) := by
  cases handle with
  | none => exact Or.inl rfl
  | some g =>
    by_cases hself : t = .worker g
    · exact Or.inl (if_pos hself)
    · exact Or.inr ⟨g, rfl, hself, if_neg hself⟩

theorem stopStep_frame {t : Thread} {call : StopCall} {point : StopPoint} {s s' : State}
    (hcontrol : s.controls t = .stop call point) (h : stopStep t call s point = some s') :
    CallFrame t s s' := by
  have hspawn : ∀ g, s.controls t ≠ .start (.spawn g) := by
    intro g heq
    rw [hcontrol] at heq
    exact nomatch heq
  have hunchanged : ∀ g, s.worker = some g → s.worker = some g ∨ (s.controls t).held = some g :=
    fun g hg => Or.inl hg
  cases point with
  | store =>
    cases h
    refine .of_goto rfl rfl (fun _ => Iff.rfl) hspawn hunchanged nofun nofun
      (Or.inr (Or.inl rfl)) (fun _ => Or.inl rfl) nofun
  | notify =>
    cases h
    refine .of_goto rfl rfl (fun _ => notifyAll_workers_eq_none) hspawn hunchanged nofun nofun
      (Or.inl rfl) (fun _ => Or.inr ⟨?_, rfl⟩) nofun
    rw [hcontrol]
    rfl
  | lock =>
    simp only [stopStep] at h
    split at h
    · cases h
      refine .of_goto rfl rfl (fun _ => Iff.rfl) hspawn hunchanged nofun nofun
        (Or.inl rfl) (fun _ => Or.inr ⟨?_, rfl⟩) nofun
      rw [hcontrol]
      rfl
    · exact nomatch h
  | take =>
    cases h
    refine .of_goto rfl rfl (fun _ => Iff.rfl) hspawn nofun (fun g hg => Or.inl hg) nofun
      (Or.inl rfl) nofun (fun g hg => ⟨rfl, Or.inr ?_⟩)
    rw [hcontrol]
    rfl
  | unlock handle =>
    cases h
    rcases afterUnlock_cases t call handle with hfinish | ⟨g, rfl, hne, hjoin⟩
    · rw [hfinish]
      exact .of_free rfl rfl rfl rfl rfl hspawn (call.free_finish t)
    · have hheld : (s.controls t).held = some g := by
        rw [hcontrol]
        rfl
      have hjoins : (s.controls t).joins t = some g := by
        rw [hcontrol, Control.joins, Option.filter_some, if_pos (by simpa using hne)]
      rw [hjoin]
      exact .of_goto rfl rfl (fun _ => Iff.rfl) hspawn hunchanged
        (fun _ hg => Or.inr (hheld.trans hg)) nofun (Or.inl rfl) nofun
        fun _ hg => ⟨rfl, Or.inl (hjoins.trans hg)⟩
  | join handle =>
    simp only [stopStep] at h
    split at h
    · cases h
      exact .of_free rfl rfl rfl rfl rfl hspawn (call.free_finish t)
    · exact nomatch h
  | clearError =>
    cases h
    exact .of_free rfl rfl rfl rfl rfl hspawn ⟨rfl, rfl, rfl, rfl⟩

theorem startStep_frame {t : Thread} {point : StartPoint} {s s' : State}
    (hcontrol : s.controls t = .start point) (h : startStep t s point = some s') :
    CallFrame t s s' := by
  have hspawn : (∀ g, point ≠ .spawn g) → ∀ g, s.controls t ≠ .start (.spawn g) := by
    intro hne g heq
    rw [hcontrol] at heq
    exact hne g (Control.start.inj heq)
  have hunchanged : ∀ g, s.worker = some g → s.worker = some g ∨ (s.controls t).held = some g :=
    fun g hg => Or.inl hg
  cases point with
  | lock =>
    simp only [startStep] at h
    split at h
    · cases h
      exact .of_free rfl rfl rfl rfl rfl (hspawn nofun) ⟨rfl, rfl, rfl, rfl⟩
    · exact nomatch h
  | take =>
    simp only [startStep] at h
    split at h
    · cases h
      exact .of_free rfl rfl rfl rfl rfl (hspawn nofun) ⟨rfl, rfl, rfl, rfl⟩
    · rename_i handle hslot
      cases h
      exact .of_goto rfl rfl (fun _ => Iff.rfl) (hspawn nofun) nofun
        (fun _ hg => Or.inl (hslot.trans hg)) nofun (Or.inl rfl) nofun nofun
  | isFinished handle =>
    have hheld : (s.controls t).held = some handle := by
      rw [hcontrol]
      rfl
    simp only [startStep] at h
    split at h
    · cases h
      exact .of_free rfl rfl rfl rfl rfl (hspawn nofun) ⟨rfl, rfl, rfl, rfl⟩
    · cases h
      exact .of_goto rfl rfl (fun _ => Iff.rfl) (hspawn nofun)
        (fun _ hg => Or.inr (hheld.trans hg)) nofun nofun (Or.inl rfl) nofun nofun
  | fetchUpdate => exact nomatch h
  | store generation =>
    cases h
    refine .of_goto rfl rfl (fun _ => Iff.rfl) (hspawn nofun) hunchanged nofun (fun _ hg => ?_)
      (Or.inr (Or.inr hcontrol)) nofun nofun
    rw [hcontrol]
    exact hg
  | spawn generation =>
    cases h
    refine ⟨fun t' hne => Function.update_of_ne hne _ _, rfl, fun g => ?_, fun g hg => ?_, ?_, ?_,
      Or.inl rfl, ?_, ?_⟩
    · show Function.update s.workers generation (some .head) g = none ↔ _
      by_cases heq : g = generation
      · subst heq
        simp [hcontrol]
      · rw [Function.update_of_ne heq, hcontrol]
        refine (and_iff_left fun hspawn => heq ?_).symm
        exact (StartPoint.spawn.inj (Control.start.inj hspawn)).symm
    · obtain rfl : generation = g := Option.some.inj hg
      exact Or.inr (Or.inr hcontrol)
    all_goals
      simp only [State.goto, Function.update_self]
      exact nofun
  | clearError =>
    cases h
    exact .of_free rfl rfl rfl rfl rfl (hspawn nofun) ⟨rfl, rfl, rfl, rfl⟩
  | unlock status =>
    cases h
    exact .of_free rfl rfl rfl rfl rfl (hspawn nofun) ⟨rfl, rfl, rfl, rfl⟩

theorem callStep_frame {t : Thread} {s s' : State} (h : callStep t s = some s') :
    CallFrame t s s' := by
  rw [callStep] at h
  split at h
  · exact nomatch h
  · rename_i hcontrol
    cases h
    refine .of_free rfl rfl rfl rfl rfl (fun g heq => ?_) ⟨rfl, rfl, rfl, rfl⟩
    rw [hcontrol] at heq
    exact nomatch heq
  · rename_i hcontrol
    exact stopStep_frame hcontrol h
  · rename_i hcontrol
    exact startStep_frame hcontrol h
  · rename_i hcontrol
    cases h
    refine .of_free rfl rfl rfl rfl rfl (fun g heq => ?_) ⟨rfl, rfl, rfl, rfl⟩
    rw [hcontrol] at heq
    exact nomatch heq

theorem move_workers (s : State) (g : Generation) (point : WorkerPoint) :
    (s.move g point).workers g = some point := Function.update_self ..

theorem move_workers_of_ne (s : State) {g other : Generation} (point : WorkerPoint)
    (h : other ≠ g) : (s.move g point).workers other = s.workers other :=
  Function.update_of_ne h ..

/-- A bound on the steps of a worker whose generation is not active. -/
def WorkerPoint.remaining : WorkerPoint → Nat
  | .exited => 0
  | .head => 1
  | .errorNotify => 1
  | .callback => 2
  | .waitUnlock => 2
  | .errorRecord _ => 2
  | .waitLoad => 3
  | .waitPredicate => 3
  | .errorExchange _ => 3
  | .waitLock => 4
  | .waitRelock => 4
  | .receive => 5
  | .parked => 5
  | .waitPark => 6

/-- What a step of worker `g` from `before` to `after` does. -/
structure WorkStep (g : Generation) (before after : WorkerPoint) (s s' : State) : Prop where
  stood : s.workers g = some before
  stands : s'.workers g = some after
  controls : s'.controls = s.controls
  next : s'.nextWorkerGeneration = s.nextWorkerGeneration
  slot : s'.worker = s.worker
  others : ∀ other, other ≠ g → s'.workers other = s.workers other ∨
    s'.workers other = s.notifyAll.workers other
  active : s'.activeWorkerGeneration = s.activeWorkerGeneration ∨
    s.activeWorkerGeneration = g ∧ s'.activeWorkerGeneration = 0 ∧
      ∃ message, after = .errorRecord message
  looked : after = .waitPark → s.activeWorkerGeneration = g
  parks : after = .parked → before = .waitPark
  remaining : s.activeWorkerGeneration ≠ g → after.remaining < before.remaining

theorem WorkStep.of_move {g : Generation} {before after : WorkerPoint} {s : State}
    (idleWait : Option Generation) (hbefore : s.workers g = some before)
    (hlooked : after = .waitPark → s.activeWorkerGeneration = g)
    (hparks : after = .parked → before = .waitPark)
    (hremaining : s.activeWorkerGeneration ≠ g → after.remaining < before.remaining) :
    WorkStep g before after s ({ s with idleWait := idleWait }.move g after) :=
  ⟨hbefore, move_workers _ _ _, rfl, rfl, rfl, fun _ hne => Or.inl (move_workers_of_ne _ _ hne),
    Or.inl rfl, hlooked, hparks, hremaining⟩

/-- Every step of a worker moves it from one point to another. -/
theorem workStep_cases {g : Generation} {input : Input} {s s' : State}
    (h : workStep g input s = some s') : ∃ before after, WorkStep g before after s s' := by
  simp only [workStep] at h
  split at h
  case h_1 hpoint =>
    cases h
    by_cases hactive : s.activeWorkerGeneration = g
    · rw [if_pos hactive]
      exact ⟨_, _, .of_move _ hpoint nofun nofun fun hne => absurd hactive hne⟩
    · rw [if_neg hactive]
      exact ⟨_, _, .of_move _ hpoint nofun nofun fun _ => by decide⟩
  case h_2 hpoint =>
    cases h
    exact ⟨_, _, .of_move _ hpoint nofun nofun fun _ => by decide⟩
  case h_3 hpoint =>
    cases h
    exact ⟨_, _, .of_move _ hpoint nofun nofun fun _ => by decide⟩
  case h_4 message hpoint =>
    cases h
    exact ⟨_, _, .of_move _ hpoint nofun nofun fun _ => by simp [WorkerPoint.remaining]⟩
  case h_5 hpoint =>
    split at h
    · cases h
      exact ⟨_, _, .of_move _ hpoint nofun nofun fun _ => by decide⟩
    · exact nomatch h
  case h_6 hpoint =>
    split at h
    · cases h
      exact ⟨_, _, .of_move _ hpoint nofun nofun fun _ => by decide⟩
    · exact nomatch h
  case h_7 message hpoint =>
    cases h
    exact ⟨_, _, .of_move _ hpoint nofun nofun fun _ => by simp [WorkerPoint.remaining]⟩
  case h_8 hpoint =>
    cases h
    by_cases hactive : s.activeWorkerGeneration = g
    · rw [if_pos hactive]
      exact ⟨_, _, .of_move _ hpoint nofun nofun fun hne => absurd hactive hne⟩
    · rw [if_neg hactive]
      exact ⟨_, _, .of_move _ hpoint nofun nofun fun _ => by decide⟩
  case h_9 hpoint =>
    cases h
    by_cases hactive : s.activeWorkerGeneration = g
    · rw [if_pos hactive]
      exact ⟨_, _, .of_move _ hpoint (fun _ => hactive) nofun fun hne => absurd hactive hne⟩
    · rw [if_neg hactive]
      exact ⟨_, _, .of_move _ hpoint nofun nofun fun _ => by decide⟩
  case h_10 hpoint =>
    cases h
    exact ⟨_, _, .of_move _ hpoint nofun nofun fun _ => by decide⟩
  case h_11 hpoint =>
    cases h
    exact ⟨_, _, .of_move _ hpoint nofun (fun _ => rfl) fun _ => by decide⟩
  case h_12 hpoint =>
    cases h
    exact ⟨_, _, .of_move _ hpoint nofun nofun fun _ => by decide⟩
  case h_13 hpoint =>
    cases h
    exact ⟨_, _, .of_move _ hpoint nofun nofun fun _ => by decide⟩
  case h_14 hpoint =>
    split at h
    · cases h
      exact ⟨_, _, .of_move _ hpoint nofun nofun fun _ => by decide⟩
    · exact nomatch h
  case h_15 message hpoint =>
    cases h
    exact ⟨_, _, .of_move _ hpoint nofun nofun fun _ => by simp [WorkerPoint.remaining]⟩
  case h_16 hpoint =>
    cases h
    exact ⟨_, _, .of_move _ hpoint nofun nofun fun _ => by decide⟩
  case h_17 message hpoint =>
    split at h
    · rename_i hactive
      cases h
      exact ⟨_, _, hpoint, move_workers _ _ _, rfl, rfl, rfl,
        fun _ hne => Or.inl (move_workers_of_ne _ _ hne), Or.inr ⟨hactive, rfl, message, rfl⟩,
      nofun,
        nofun, fun hne => absurd hactive hne⟩
    · cases h
      exact ⟨_, _, .of_move _ hpoint nofun nofun fun _ => by simp [WorkerPoint.remaining]⟩
  case h_18 message hpoint =>
    cases h
    exact ⟨_, _, hpoint, move_workers _ _ _, rfl, rfl, rfl,
      fun _ hne => Or.inl (move_workers_of_ne _ _ hne), Or.inl rfl, nofun, nofun,
      fun _ => by simp [WorkerPoint.remaining]⟩
  case h_19 hpoint =>
    cases h
    exact ⟨_, _, hpoint, move_workers _ _ _, rfl, rfl, rfl,
      fun _ hne => Or.inr (move_workers_of_ne _ _ hne), Or.inl rfl,
      nofun, nofun, fun _ => by decide⟩
  case h_20 => exact nomatch h

/-- What a step of a worker leaves, whichever it is. -/
structure WorkFrame (s s' : State) : Prop where
  controls : s'.controls = s.controls
  next : s'.nextWorkerGeneration = s.nextWorkerGeneration
  slot : s'.worker = s.worker
  workers : ∀ g, s'.workers g = none ↔ s.workers g = none
  active : s'.activeWorkerGeneration = s.activeWorkerGeneration ∨ s'.activeWorkerGeneration = 0

theorem workStep_frame {g : Generation} {input : Input} {s s' : State}
    (h : workStep g input s = some s') : WorkFrame s s' := by
  obtain ⟨before, after, hstep⟩ := workStep_cases h
  refine ⟨hstep.controls, hstep.next, hstep.slot, fun other => ?_, ?_⟩
  · by_cases heq : other = g
    · subst heq
      rw [hstep.stood, hstep.stands]
      simp
    · rcases hstep.others other heq with hsame | hnotified
      · rw [hsame]
      · rw [hnotified, notifyAll_workers_eq_none]
  · exact hstep.active.imp_right fun hstop => hstop.2.1

/-- The entry of a call holds nothing. -/
theorem beginCall_frame {t : Thread} {call : Call} {s s' : State}
    (h : beginCall t call s = some s') : CallFrame t s s' := by
  simp only [beginCall] at h
  split at h
  · rename_i hidle
    cases h
    have hspawn : ∀ g, s.controls t ≠ .start (.spawn g) := by
      intro g heq
      rw [hidle.1] at heq
      exact nomatch heq
    cases call with
    | start =>
      exact .of_goto rfl rfl (fun _ => Iff.rfl) hspawn (fun _ hg => Or.inl hg) nofun nofun
        (Or.inl rfl) nofun nofun
    | stop =>
      exact .of_goto rfl rfl (fun _ => Iff.rfl) hspawn (fun _ hg => Or.inl hg) nofun nofun
        (Or.inl rfl) nofun nofun
    | free =>
      exact .of_goto rfl rfl (fun _ => Iff.rfl) hspawn (fun _ hg => Or.inl hg) nofun nofun
        (Or.inl rfl) nofun nofun
  · exact nomatch h

theorem fetchUpdate_eq_some {t : Thread} {s s' : State} (h : fetchUpdate t s = some s') :
    s.controls t = .start .fetchUpdate ∧
      s' = { s with
        nextWorkerGeneration := max ((s.nextWorkerGeneration + 1) % 2 ^ 64) 1
        controls := Function.update s.controls t (.start (.store s.nextWorkerGeneration)) } := by
  simp only [fetchUpdate] at h
  split at h
  · rename_i hcontrol
    exact ⟨hcontrol, (Option.some.inj h).symm⟩
  · exact nomatch h

/-- Every step is a step of a worker, of a call, or the `fetch_update` of a start. -/
inductive StepFrame (s : State) (a : Action) (s' : State) : Prop
  | work (h : WorkFrame s s') (hstarts : a.starts = 0)
  | call (t : Thread) (h : CallFrame t s s') (hstarts : a.starts = 0)
      (hproceed : ∀ g, s.controls t = .start (.store g) → a = .proceed t)
  | fetchUpdate (t : Thread) (hcontrol : s.controls t = .start .fetchUpdate)
      (hstarts : a.starts = 1)
      (heq : s' = { s with
        nextWorkerGeneration := max ((s.nextWorkerGeneration + 1) % 2 ^ 64) 1
        controls := Function.update s.controls t (.start (.store s.nextWorkerGeneration)) })

theorem step_frame {a : Action} {s s' : State} (h : step a s = some s') : StepFrame s a s' := by
  cases a with
  | begin t call =>
    refine .call t (beginCall_frame h) rfl fun g hstore => ?_
    simp only [step, beginCall, hstore] at h
    simp at h
  | proceed t => exact .call t (callStep_frame h) rfl fun _ _ => rfl
  | fetchUpdate t =>
    obtain ⟨hcontrol, heq⟩ := fetchUpdate_eq_some h
    exact .fetchUpdate t hcontrol rfl heq
  | work g input => exact .work (workStep_frame h) rfl

/-- A generation becomes active only by the store of a start. -/
theorem StepFrame.inactive {g : Generation} {a : Action} {s s' : State}
    (hframe : StepFrame s a s') (hpos : g ≠ 0) (hinactive : s.activeWorkerGeneration ≠ g)
    (hstored : ∀ t, s.controls t ≠ .start (.store g)) : s'.activeWorkerGeneration ≠ g := by
  cases hframe with
  | work hwork =>
    rcases hwork.active with hsame | hzero
    · rwa [hsame]
    · rw [hzero]
      exact hpos.symm
  | call t hcall =>
    rcases hcall.active with hsame | hzero | hstore
    · rwa [hsame]
    · rw [hzero]
      exact hpos.symm
    · intro heq
      rw [heq] at hstore
      exact hstored t hstore
  | fetchUpdate t hcontrol _ heq =>
    subst heq
    exact hinactive

/-! ## Generations given out -/

namespace State

/-- `m` generations were given out, and none of them twice. -/
structure Allocated (m : Nat) (s : State) : Prop where
  next : s.nextWorkerGeneration = max ((m + 1) % 2 ^ 64) 1
  started : ∀ g, s.workers g ≠ none → 1 ≤ g ∧ g ≤ m
  slot : ∀ g, s.worker = some g → s.workers g ≠ none
  held : ∀ t g, (s.controls t).held = some g → s.workers g ≠ none
  pending : ∀ t g, (s.controls t).pending = some g → 1 ≤ g ∧ g ≤ m ∧ s.workers g = none
  unique : ∀ t t' g, (s.controls t).pending = some g → (s.controls t').pending = some g → t = t'

theorem allocated_new : State.new.Allocated 0 :=
  ⟨rfl, fun _ h => absurd rfl h, nofun, nofun, nofun, nofun⟩

variable {m : Nat} {s s' : State}

theorem Allocated.work (h : s.Allocated m) (hframe : WorkFrame s s') : s'.Allocated m := by
  refine ⟨hframe.next.trans h.next, fun g hg => ?_, fun g hg => ?_, fun t g hg => ?_,
    fun t g hg => ?_, ?_⟩
  · exact h.started g (mt (hframe.workers g).mpr hg)
  · rw [hframe.slot] at hg
    exact mt (hframe.workers g).mp (h.slot g hg)
  · rw [hframe.controls] at hg
    exact mt (hframe.workers g).mp (h.held t g hg)
  · rw [hframe.controls] at hg
    obtain ⟨hpos, hle, hnone⟩ := h.pending t g hg
    exact ⟨hpos, hle, (hframe.workers g).mpr hnone⟩
  · rw [hframe.controls]
    exact h.unique

theorem Allocated.call (h : s.Allocated m) {t : Thread} (hframe : CallFrame t s s') :
    s'.Allocated m := by
  have hpending : ∀ t' g, (s'.controls t').pending = some g →
      (s.controls t').pending = some g ∧ (t' = t → s.controls t ≠ .start (.spawn g)) := by
    intro t' g hg
    by_cases heq : t' = t
    · subst heq
      obtain ⟨hbefore, hspawn⟩ := hframe.pending g hg
      exact ⟨hbefore, fun _ => hspawn⟩
    · rw [hframe.others t' heq] at hg
      exact ⟨hg, fun h => absurd h heq⟩
  -- A generation at its spawn is pending, so a worker of it is new.
  have hspawned : ∀ g, s.controls t = .start (.spawn g) → 1 ≤ g ∧ g ≤ m := by
    intro g hspawn
    obtain ⟨hpos, hle, -⟩ := h.pending t g (by rw [hspawn]; rfl)
    exact ⟨hpos, hle⟩
  have hkept : ∀ g, s.workers g ≠ none → s'.workers g ≠ none :=
    fun g hg hnone => hg ((hframe.workers g).mp hnone).1
  refine ⟨hframe.next.trans h.next, fun g hg => ?_, fun g hg => ?_, fun t' g hg => ?_,
    fun t' g hg => ?_, fun t₁ t₂ g h₁ h₂ => ?_⟩
  · by_cases hnone : s.workers g = none
    · by_cases hspawn : s.controls t = .start (.spawn g)
      · exact hspawned g hspawn
      · exact absurd ((hframe.workers g).mpr ⟨hnone, hspawn⟩) hg
    · exact h.started g hnone
  · rcases hframe.slot g hg with hslot | hheld | hspawn
    · exact hkept g (h.slot g hslot)
    · exact hkept g (h.held t g hheld)
    · exact fun hnone => ((hframe.workers g).mp hnone).2 hspawn
  · by_cases heq : t' = t
    · subst heq
      rcases hframe.held g hg with hslot | hheld
      · exact hkept g (h.slot g hslot)
      · exact hkept g (h.held t' g hheld)
    · rw [hframe.others t' heq] at hg
      exact hkept g (h.held t' g hg)
  · obtain ⟨hbefore, hself⟩ := hpending t' g hg
    obtain ⟨hpos, hle, hnone⟩ := h.pending t' g hbefore
    refine ⟨hpos, hle, (hframe.workers g).mpr ⟨hnone, fun hspawn => ?_⟩⟩
    have hsame := h.unique t' t g hbefore (by rw [hspawn]; rfl)
    exact hself hsame hspawn
  · exact h.unique t₁ t₂ g (hpending t₁ g h₁).1 (hpending t₂ g h₂).1

theorem Allocated.next_eq (h : s.Allocated m) (hm : m + 1 < 2 ^ 64) :
    s.nextWorkerGeneration = m + 1 := by
  rw [h.next, Nat.mod_eq_of_lt hm]
  exact Nat.max_eq_left (Nat.succ_pos m)

theorem Allocated.fetchUpdate (h : s.Allocated m) (hm : m + 1 < 2 ^ 64) {t : Thread}
    (heq : s' = { s with
      nextWorkerGeneration := max ((s.nextWorkerGeneration + 1) % 2 ^ 64) 1
      controls := Function.update s.controls t (.start (.store s.nextWorkerGeneration)) }) :
    s'.Allocated (m + 1) := by
  have hnext := h.next_eq hm
  subst heq
  have hpending : ∀ t' g, (Function.update s.controls t
      (.start (.store s.nextWorkerGeneration)) t').pending = some g →
        t' = t ∧ g = m + 1 ∨ t' ≠ t ∧ (s.controls t').pending = some g := by
    intro t' g hg
    by_cases heq : t' = t
    · subst heq
      rw [Function.update_self, hnext] at hg
      exact Or.inl ⟨rfl, (Option.some.inj hg).symm⟩
    · rw [Function.update_of_ne heq] at hg
      exact Or.inr ⟨heq, hg⟩
  have hfresh : s.workers (m + 1) = none := by
    by_contra hne
    exact Nat.not_succ_le_self m (h.started _ hne).2
  refine ⟨?_, fun g hg => ?_, h.slot, fun t' g hg => ?_, fun t' g hg => ?_,
    fun t₁ t₂ g h₁ h₂ => ?_⟩
  · show max ((s.nextWorkerGeneration + 1) % 2 ^ 64) 1 = _
    rw [hnext]
  · obtain ⟨hpos, hle⟩ := h.started g hg
    exact ⟨hpos, Nat.le_succ_of_le hle⟩
  · by_cases heq : t' = t
    · subst heq
      simp only [Function.update_self] at hg
      exact nomatch hg
    · simp only [Function.update_of_ne heq] at hg
      exact h.held t' g hg
  · rcases hpending t' g hg with ⟨-, rfl⟩ | ⟨-, hbefore⟩
    · exact ⟨Nat.succ_pos m, Nat.le_refl _, hfresh⟩
    · obtain ⟨hpos, hle, hnone⟩ := h.pending t' g hbefore
      exact ⟨hpos, Nat.le_succ_of_le hle, hnone⟩
  · have hbelow : ∀ t', (s.controls t').pending = some (m + 1) → False := by
      intro t' ht'
      exact Nat.not_succ_le_self m (h.pending t' _ ht').2.1
    rcases hpending t₁ g h₁ with ⟨rfl, rfl⟩ | ⟨-, hbefore₁⟩ <;>
      rcases hpending t₂ _ h₂ with ⟨rfl, heq⟩ | ⟨-, hbefore₂⟩
    · rfl
    · exact absurd hbefore₂ (hbelow t₂)
    · subst heq
      exact absurd hbefore₁ (hbelow t₁)
    · exact h.unique t₁ t₂ g hbefore₁ hbefore₂

theorem Allocated.step {a : Action} (h : s.Allocated m) (hm : m + a.starts < 2 ^ 64)
    (hframe : StepFrame s a s') : s'.Allocated (m + a.starts) := by
  cases hframe with
  | work hwork hstarts =>
    rw [hstarts]
    exact h.work hwork
  | call t hcall hstarts =>
    rw [hstarts]
    exact h.call hcall
  | fetchUpdate t hcontrol hstarts heq =>
    rw [hstarts] at hm ⊢
    exact h.fetchUpdate hm heq

/-! ## Handles that are joined -/

/-- A stop past its store sees no active generation, and joins an invalidated one. -/
structure Invalidated (s : State) : Prop where
  beforeTake : ∀ t, (s.controls t).beforeTake = true → s.activeWorkerGeneration = 0
  joins : ∀ t g, (s.controls t).joins t = some g → s.activeWorkerGeneration ≠ g

theorem invalidated_new : State.new.Invalidated := ⟨nofun, nofun⟩

theorem Control.held_of_joins {t : Thread} {control : Control} {g : Generation}
    (h : control.joins t = some g) : control.held = some g := by
  match control, h with
  | .stop _ (.unlock (some handle)), h =>
    have hfilter : (some handle).filter (fun g => t ≠ .worker g) = some g := h
    exact (Option.filter_eq_some_iff.mp hfilter).1
  | .stop _ (.join handle), h => exact h

/-- A handle names a spawned worker, whose generation is not zero. -/
theorem Allocated.joins_ne_zero (h : s.Allocated m) {t : Thread} {g : Generation}
    (hjoins : (s.controls t).joins t = some g) : g ≠ 0 := by
  have hpos := (h.started g (h.held t g (Control.held_of_joins hjoins))).1
  exact Nat.one_le_iff_ne_zero.mp hpos

theorem Invalidated.step {a : Action} (h : s.Invalidated) (hallocated : s.Allocated m)
    (hslip : ¬ SlipsIntoStop s a) (hframe : StepFrame s a s') : s'.Invalidated := by
  cases hframe with
  | work hwork =>
    refine ⟨fun t ht => ?_, fun t g hg => ?_⟩
    · rw [hwork.controls] at ht
      rcases hwork.active with hsame | hzero
      · exact hsame.trans (h.beforeTake t ht)
      · exact hzero
    · rw [hwork.controls] at hg
      rcases hwork.active with hsame | hzero
      · rw [hsame]
        exact h.joins t g hg
      · rw [hzero]
        exact (hallocated.joins_ne_zero hg).symm
  | call t hcall _ hproceed =>
    refine ⟨fun t' ht' => ?_, fun t' g hg => ?_⟩
    · by_cases hself : t' = t
      · subst hself
        rcases hcall.beforeTake ht' with hzero | ⟨hbefore, hsame⟩
        · exact hzero
        · exact hsame.trans (h.beforeTake t' hbefore)
      · rw [hcall.others t' hself] at ht'
        rcases hcall.active with hsame | hzero | hstore
        · exact hsame.trans (h.beforeTake t' ht')
        · exact hzero
        · exact absurd ⟨t, _, hproceed _ hstore, hstore, t', ht'⟩ hslip
    · by_cases hself : t' = t
      · subst hself
        obtain ⟨hsame, hbefore⟩ := hcall.joins g hg
        rw [hsame]
        rcases hbefore with hjoins | htake
        · exact h.joins t' g hjoins
        · have hstarted : s.workers g ≠ none :=
            (hcall.held g (Control.held_of_joins hg)).elim (hallocated.slot g)
              (hallocated.held t' g)
          rw [h.beforeTake t' htake]
          exact (Nat.one_le_iff_ne_zero.mp (hallocated.started g hstarted).1).symm
      · rw [hcall.others t' hself] at hg
        rcases hcall.active with hsame | hzero | hstore
        · rw [hsame]
          exact h.joins t' g hg
        · rw [hzero]
          exact (hallocated.joins_ne_zero hg).symm
        · -- The generation stored has no worker yet, the joined one has.
          obtain ⟨-, -, hnone⟩ := hallocated.pending t _ (by rw [hstore]; rfl)
          intro heq
          rw [heq] at hnone
          exact hallocated.held t' g (Control.held_of_joins hg) hnone
  | fetchUpdate t hcontrol _ heq =>
    subst heq
    refine ⟨fun t' ht' => ?_, fun t' g hg => ?_⟩
    · by_cases hself : t' = t
      · subst hself
        simp only [Function.update_self] at ht'
        exact nomatch ht'
      · simp only [Function.update_of_ne hself] at ht'
        exact h.beforeTake t' ht'
    · by_cases hself : t' = t
      · subst hself
        simp only [Function.update_self] at hg
        exact nomatch hg
      · simp only [Function.update_of_ne hself] at hg
        exact h.joins t' g hg

/-- The generation was given out, is not active and will not be stored again. -/
structure Retired (m : Nat) (g : Generation) (s : State) : Prop where
  pos : g ≠ 0
  given : g ≤ m
  inactive : s.activeWorkerGeneration ≠ g
  stored : ∀ t, (s.controls t).pending ≠ some g

theorem Retired.step {g : Generation} {a : Action} (h : s.Retired m g)
    (hallocated : s.Allocated m) (hm : m + a.starts < 2 ^ 64) (hframe : StepFrame s a s') :
    s'.Retired (m + a.starts) g := by
  refine ⟨h.pos, Nat.le_add_right_of_le h.given, ?_, fun t hg => ?_⟩
  · refine hframe.inactive h.pos h.inactive fun t hstore => h.stored t ?_
    rw [hstore]
    rfl
  · cases hframe with
    | work hwork =>
      rw [hwork.controls] at hg
      exact h.stored t hg
    | call t' hcall =>
      by_cases hself : t = t'
      · subst hself
        exact h.stored t (hcall.pending g hg).1
      · rw [hcall.others t hself] at hg
        exact h.stored t hg
    | fetchUpdate t' hcontrol hstarts heq =>
      subst heq
      by_cases hself : t = t'
      · subst hself
        rw [hstarts] at hm
        simp only [Function.update_self, hallocated.next_eq hm] at hg
        have hnew : m + 1 = g := Option.some.inj hg
        have hle := h.given
        rw [← hnew] at hle
        exact Nat.not_succ_le_self m hle
      · simp only [Function.update_of_ne hself] at hg
        exact h.stored t hg

theorem Retired.of_joins (h : s.Invalidated) (hallocated : s.Allocated m) {t : Thread}
    {g : Generation} (hjoins : (s.controls t).joins t = some g) : s.Retired m g := by
  have hstarted := hallocated.held t g (Control.held_of_joins hjoins)
  refine ⟨hallocated.joins_ne_zero hjoins, (hallocated.started g hstarted).2, h.joins t g hjoins,
    fun t' hpending => ?_⟩
  exact hstarted (hallocated.pending t' g hpending).2.2

end State

/-! ## Runs -/

variable {actions : List Action} {s : State}

/-- A run gives out as many generations as it has starts, and if none of them is stored
within a stop, the handles that are joined are invalidated. -/
theorem invalidated_of_run (hrun : run step actions .new = some s)
    (hstarts : starts actions < 2 ^ 64)
    (hslip : Meets step (fun s a => ¬ SlipsIntoStop s a) actions .new) :
    s.Allocated (starts actions) ∧ s.Invalidated := by
  have h := Transition.invariant_of_weight Action.starts (2 ^ 64)
    (P := fun m s => s.Allocated m ∧ s.Invalidated) (n := 0)
    (fun _ _ _ _ hm hslip h hstep =>
      ⟨h.1.step hm (step_frame hstep), h.2.step h.1 hslip (step_frame hstep)⟩)
    (by rwa [Nat.zero_add]) hslip ⟨State.allocated_new, State.invalidated_new⟩ hrun
  rwa [Nat.zero_add] at h

theorem retired_of_run {later : List Action} {s' : State} {m : Nat} {g : Generation}
    (hallocated : s.Allocated m) (hretired : s.Retired m g) (hrun : run step later s = some s')
    (hstarts : m + starts later < 2 ^ 64) : s'.Retired (m + starts later) g := by
  have hall : Meets step (fun _ _ => True) later s :=
    Transition.meets_of_invariant (P := fun _ => True) (fun _ _ _ => trivial)
      (fun _ _ _ _ _ _ => trivial) trivial
  have h := Transition.invariant_of_weight Action.starts (2 ^ 64)
    (P := fun m s => s.Allocated m ∧ s.Retired m g)
    (fun _ _ _ _ hm _ h hstep =>
      ⟨h.1.step hm (step_frame hstep), h.2.step h.1 hm (step_frame hstep)⟩)
    hstarts hall ⟨hallocated, hretired⟩ hrun
  exact h.2

/-- When no start stores a generation while a stop stands between its store and its
take, every worker that a stop is about to join or is joining has been invalidated: its
generation is not active and never will be again, and each of its steps brings it
closer to its exit. -/
theorem stop_joins_invalidated_worker (hrun : run step actions .new = some s)
    (hstarts : starts actions < 2 ^ 64)
    (hslip : Meets step (fun s a => ¬ SlipsIntoStop s a) actions .new)
    {t : Thread} {g : Generation} (hjoins : (s.controls t).joins t = some g) :
    s.activeWorkerGeneration ≠ g ∧
      ∀ later s', run step later s = some s' → starts actions + starts later < 2 ^ 64 →
        s'.activeWorkerGeneration ≠ g ∧
        ∀ input s'', workStep g input s' = some s'' → ∃ before after,
          s'.workers g = some before ∧ s''.workers g = some after ∧
            after.remaining < before.remaining := by
  obtain ⟨hallocated, hinvalidated⟩ := invalidated_of_run hrun hstarts hslip
  have hretired := State.Retired.of_joins hinvalidated hallocated hjoins
  refine ⟨hretired.inactive, fun later s' hlater hmore => ?_⟩
  have hretired' := retired_of_run hallocated hretired hlater hmore
  refine ⟨hretired'.inactive, fun input s'' h => ?_⟩
  obtain ⟨before, after, hstep⟩ := workStep_cases h
  exact ⟨before, after, hstep.stood, hstep.stands, hstep.remaining hretired'.inactive⟩

/-! ## A start from a callback -/

/-- All steps of a start on thread `t` that finds no handle. -/
def startActions (t : Thread) : List Action :=
  [.begin t .start, .proceed t, .proceed t, .fetchUpdate t] ++ List.replicate 5 (.proceed t)

/-- The host's stop stores zero; then the callback of the first worker stops, which
detaches its own handle, and starts; then the host's stop goes on. -/
def slippedStart : List Action :=
  startActions (.external 0) ++ [.work 1 .go, .work 1 .packet] ++
    [.begin (.external 0) .stop, .proceed (.external 0)] ++
    [.begin (.worker 1) .stop] ++ List.replicate 7 (.proceed (.worker 1)) ++
    startActions (.worker 1) ++ List.replicate 4 (.proceed (.external 0))

/-- The host joins the second worker while its generation is active. -/
theorem slipped_start_is_joined :
    ∃ s, run step slippedStart .new = some s ∧ starts slippedStart < 2 ^ 64 ∧
      s.controls (.external 0) = .stop .stop (.join 2) ∧ s.activeWorkerGeneration = 2 := by
  have hend : (run step slippedStart .new).any (fun s =>
      decide (s.controls (.external 0) = .stop .stop (.join 2) ∧ s.activeWorkerGeneration = 2)) =
        true := by decide
  obtain ⟨s, hrun, hs⟩ := Transition.exists_of_run_any hend
  obtain ⟨hjoin, hactive⟩ := of_decide_eq_true hs
  exact ⟨s, hrun, by decide, hjoin, hactive⟩

/-- Callers that are idle stay so while another one makes all calls. -/
theorem step_idle {t : Thread} {a : Action} {s s' : State}
    (hcaller : ∀ t' call, a = .begin t' call → t' = t)
    (hidle : ∀ t', t' ≠ t → s.controls t' = .idle) (h : step a s = some s') :
    ∀ t', t' ≠ t → s'.controls t' = .idle := by
  intro t' hne
  have hself : ∀ t₁, s.controls t₁ ≠ .idle → t₁ = t := by
    intro t₁ hbusy
    by_contra hother
    exact hbusy (hidle t₁ hother)
  have hkept : ∀ t₁, t₁ = t → CallFrame t₁ s s' → s'.controls t' = .idle := by
    rintro t₁ rfl hframe
    rw [hframe.others t' hne]
    exact hidle t' hne
  cases a with
  | begin t₁ call => exact hkept t₁ (hcaller t₁ call rfl) (beginCall_frame h)
  | proceed t₁ =>
    refine hkept t₁ (hself t₁ fun hi => ?_) (callStep_frame h)
    simp only [step, callStep, hi] at h
    exact nomatch h
  | fetchUpdate t₁ =>
    obtain ⟨hcontrol, rfl⟩ := fetchUpdate_eq_some h
    obtain rfl := hself t₁ (by rw [hcontrol]; exact nofun)
    exact (Function.update_of_ne hne _ _).trans (hidle t' hne)
  | work g input =>
    rw [(workStep_frame h).controls]
    exact hidle t' hne

/-- One caller never stores a generation within its own stop. -/
theorem meets_of_one_caller (t : Thread)
    (hcaller : ∀ a ∈ actions, ∀ t' call, a = .begin t' call → t' = t)
    (hidle : ∀ t', t' ≠ t → s.controls t' = .idle) :
    Meets step (fun s a => ¬ SlipsIntoStop s a) actions s := by
  refine Transition.meets_of_invariant (P := fun s => ∀ t', t' ≠ t → s.controls t' = .idle)
    (fun s a hidle => ?_) (fun s a s' ha hidle h => step_idle (hcaller a ha) hidle h) hidle
  rintro ⟨t₁, g, -, hstore, t₂, hbefore⟩
  have hfirst : t₁ = t := by
    by_contra hne
    rw [hidle t₁ hne] at hstore
    exact nomatch hstore
  have hsecond : t₂ = t := by
    by_contra hne
    rw [hidle t₂ hne] at hbefore
    exact nomatch hbefore
  rw [hsecond, ← hfirst, hstore] at hbefore
  exact nomatch hbefore

def startedAndStopped : List Action :=
  startActions (.external 0) ++ [.begin (.external 0) .stop] ++
    List.replicate 5 (.proceed (.external 0))

theorem stop_joins_invalidated_worker_alone :
    ∃ s, run step startedAndStopped .new = some s ∧
      s.controls (.external 0) = .stop .stop (.join 1) ∧ s.activeWorkerGeneration ≠ 1 := by
  have hend : (run step startedAndStopped .new).any (fun s =>
      decide (s.controls (.external 0) = .stop .stop (.join 1))) = true := by decide
  obtain ⟨s, hrun, hs⟩ := Transition.exists_of_run_any hend
  have hjoin := of_decide_eq_true hs
  have hslip : Meets step (fun s a => ¬ SlipsIntoStop s a) startedAndStopped .new :=
    meets_of_one_caller (.external 0) (by simp [startedAndStopped, startActions])
      fun _ _ => rfl
  have hjoins : (s.controls (.external 0)).joins (.external 0) = some 1 := by
    rw [hjoin]
    rfl
  exact ⟨s, hrun, hjoin, (stop_joins_invalidated_worker hrun (by decide) hslip hjoins).1⟩

end McrxCore.Ffi
