import McrxCore.Ffi.Generations

/-!
# A replaced worker

A worker looks at its generation before each receive and inside each wait, so once its
generation is over it reaches no new receive.  Only an exchange that found its
generation active lets it record an error.
-/

namespace McrxCore.Ffi

open Transition (run cost Meets)

/-- The receives a worker at this point makes without looking at its generation. -/
def WorkerPoint.committed : WorkerPoint → Nat
  | .receive => 1
  | _ => 0

/-- The receives worker `g` is committed to. -/
def State.committed (s : State) (g : Generation) : Nat :=
  (s.workers g).elim 0 WorkerPoint.committed

/-- The receives of worker `g` in one action. -/
def receives (g : Generation) (s : State) : Action → Nat
  | .work g' _ => if g' = g ∧ s.workers g = some .receive then 1 else 0
  | _ => 0

/-- Worker `g` won the exchange of its error stop, and has not recorded its error. -/
def State.Recording (s : State) (g : Generation) : Prop :=
  ∃ message, s.workers g = some (.errorRecord message)

/-- Generation `g` is the one that workers find active. -/
def State.Active (s : State) (g : Generation) : Prop :=
  g ≠ 0 ∧ s.activeWorkerGeneration = g

/-! ## Steps of a worker whose generation is over -/

/-- What a step of worker `g` does when its generation is not active. -/
structure StaleStep (g : Generation) (s s' : State) : Prop where
  active : s'.activeWorkerGeneration = s.activeWorkerGeneration
  committed : s'.committed g = 0
  notRecording : ¬ s'.Recording g
  lastError : ¬ s.Recording g → s'.lastError = s.lastError

theorem StaleStep.of_move {g : Generation} {s s₁ : State} {after : WorkerPoint}
    (hactive : s₁.activeWorkerGeneration = s.activeWorkerGeneration)
    (hcommitted : after.committed = 0) (hrecord : ∀ message, after ≠ .errorRecord message)
    (herror : ¬ s.Recording g → s₁.lastError = s.lastError) : StaleStep g s (s₁.move g after) := by
  have hpoint : (s₁.move g after).workers g = some after := move_workers _ _ _
  refine ⟨hactive, ?_, ?_, herror⟩
  · rw [State.committed, hpoint]
    exact hcommitted
  · rintro ⟨message, hmessage⟩
    rw [hpoint] at hmessage
    exact hrecord message (Option.some.inj hmessage)

theorem workStep_stale {g : Generation} {input : Input} {s s' : State}
    (hne : s.activeWorkerGeneration ≠ g) (h : workStep g input s = some s') :
    StaleStep g s s' := by
  simp only [workStep, if_neg hne] at h
  split at h
  case h_5 | h_6 | h_14 =>
    split at h
    · cases h
      exact .of_move rfl rfl (fun _ hnew => by cases hnew) fun _ => rfl
    · cases h
  case h_18 message hpoint =>
    cases h
    exact .of_move rfl rfl (fun _ hnew => by cases hnew) fun hnot => absurd ⟨message, hpoint⟩ hnot
  case h_20 => cases h
  all_goals
    cases h
    exact .of_move rfl rfl (fun _ hnew => by cases hnew) fun _ => rfl

/-- The exchange that leads a worker to record its error stores zero. -/
theorem workStep_recording {g : Generation} {input : Input} {s s' : State}
    (h : workStep g input s = some s') (hrecording : s'.Recording g) :
    s'.activeWorkerGeneration = 0 := by
  obtain ⟨message, hmessage⟩ := hrecording
  simp only [workStep] at h
  split at h
  case h_17 =>
    split at h
    · cases h
      rfl
    · cases h
      simp [move_workers] at hmessage
  case h_5 | h_6 | h_14 =>
    split at h
    · cases h
      simp [move_workers] at hmessage
    · cases h
  case h_20 => cases h
  case h_1 | h_8 | h_9 =>
    cases h
    rw [move_workers] at hmessage
    split at hmessage <;> cases hmessage
  all_goals
    cases h
    simp [move_workers] at hmessage

/-! ## What a step does to the point of a worker -/

/-- A step is a step of worker `g` itself, spawns it, or leaves it where it stands but
for a notification. -/
inductive PointStep (g : Generation) (s : State) (a : Action) (s' : State) : Prop
  | worked (input : Input) (ha : a = .work g input) (h : workStep g input s = some s')
  | kept (h : s'.workers g = s.workers g)
  | notified (h : s'.workers g = s.notifyAll.workers g)
  | spawned (t : Thread) (hspawn : s.controls t = .start (.spawn g))
      (h : s'.workers g = some .head)

theorem callStep_point {t : Thread} {s s' : State} (h : callStep t s = some s')
    (g : Generation) : PointStep g s (.proceed t) s' := by
  simp only [callStep] at h
  split at h
  · cases h
  · cases h
    exact .kept rfl
  · rename_i call point hcontrol
    cases point with
    | notify =>
      cases h
      exact .notified rfl
    | lock | join =>
      simp only [stopStep] at h
      split at h
      · cases h
        exact .kept rfl
      · cases h
    | store | take | unlock | clearError =>
      cases h
      exact .kept rfl
  · rename_i point hcontrol
    cases point with
    | lock | isFinished =>
      simp only [startStep] at h
      split at h
      all_goals first
        | contradiction
        | cases h; exact .kept rfl
    | take =>
      simp only [startStep] at h
      split at h <;>
        · cases h
          exact .kept rfl
    | fetchUpdate => cases h
    | spawn generation =>
      cases h
      by_cases heq : g = generation
      · subst heq
        exact .spawned t hcontrol (move_workers _ _ _)
      · exact .kept (move_workers_of_ne _ _ heq)
    | store | clearError | unlock =>
      cases h
      exact .kept rfl
  · cases h
    exact .kept rfl

theorem step_point {a : Action} {s s' : State} (h : step a s = some s') (g : Generation) :
    PointStep g s a s' := by
  cases a with
  | begin t call =>
    simp only [step, beginCall] at h
    split at h
    · cases h
      exact .kept rfl
    · cases h
  | proceed t => exact callStep_point h g
  | fetchUpdate t =>
    obtain ⟨-, rfl⟩ := fetchUpdate_eq_some h
    exact .kept rfl
  | work g' input =>
    by_cases heq : g' = g
    · subst heq
      exact .worked input rfl h
    · obtain ⟨before, after, hstep⟩ := workStep_cases h
      rcases hstep.others g (Ne.symm heq) with hkept | hnotified
      · exact .kept hkept
      · exact .notified hnotified

/-- A notification moves parked workers only. -/
theorem notifyAll_point {s : State} {g : Generation} {point : WorkerPoint}
    (h : s.notifyAll.workers g = some point) (hne : point ≠ .waitRelock) :
    s.workers g = some point := by
  have hworkers : s.notifyAll.workers g =
      if s.workers g = some .parked then some .waitRelock else s.workers g := rfl
  rw [hworkers] at h
  split at h
  · exact absurd (Option.some.inj h).symm hne
  · exact h

/-- Only its own steps bring a worker to a point other than the head of its loop and
the wait. -/
theorem PointStep.before {g : Generation} {s s' : State} {a : Action}
    (h : PointStep g s a s') (hown : ∀ input, a ≠ .work g input) {point : WorkerPoint}
    (hpoint : s'.workers g = some point) (hrelock : point ≠ .waitRelock) (hhead : point ≠ .head) :
    s.workers g = some point := by
  cases h with
  | worked input ha => exact absurd ha (hown input)
  | kept h => rwa [h] at hpoint
  | notified h =>
    rw [h] at hpoint
    exact notifyAll_point hpoint hrelock
  | spawned t hspawn h =>
    rw [h] at hpoint
    exact absurd (Option.some.inj hpoint).symm hhead

theorem PointStep.committed_le {g : Generation} {s s' : State} {a : Action}
    (h : PointStep g s a s') (hown : ∀ input, a ≠ .work g input) :
    s'.committed g ≤ s.committed g := by
  by_cases hreceive : s'.workers g = some .receive
  · have hbefore := h.before hown hreceive nofun nofun
    have hsame : s'.committed g = s.committed g := by
      rw [State.committed, State.committed, hreceive, hbefore]
    exact Nat.le_of_eq hsame
  · have hzero : s'.committed g = 0 := by
      rw [State.committed]
      cases hpoint : s'.workers g with
      | none => rfl
      | some point =>
        rw [hpoint] at hreceive
        cases point with
        | receive => exact absurd rfl hreceive
        | _ => rfl
    omega

theorem PointStep.recording {g : Generation} {s s' : State} {a : Action}
    (h : PointStep g s a s') (hown : ∀ input, a ≠ .work g input) (hrecording : s'.Recording g) :
    s.Recording g := by
  obtain ⟨message, hmessage⟩ := hrecording
  exact ⟨message, h.before hown hmessage nofun nofun⟩

/-! ## Runs after the end of a generation -/

namespace State

variable {m : Nat} {g : Generation} {s s' : State}

/-- A worker that records its error has ended its own generation. -/
def ErrorStopped (s : State) : Prop := ∀ g, s.Recording g → s.activeWorkerGeneration ≠ g

theorem errorStopped_new : State.new.ErrorStopped := fun _ ⟨_, h⟩ => nomatch h

theorem ErrorStopped.step {a : Action} (h : s.ErrorStopped) (hallocated : s.Allocated m)
    (hstep : Ffi.step a s = some s') : s'.ErrorStopped := by
  intro g hrecording
  have hpoint := step_point hstep g
  by_cases hown : ∀ input, a ≠ .work g input
  · have hbefore := hpoint.recording hown hrecording
    have hworker : s.workers g ≠ none := by
      obtain ⟨message, hmessage⟩ := hbefore
      rw [hmessage]
      exact nofun
    have hpos := Nat.one_le_iff_ne_zero.mp (hallocated.started g hworker).1
    cases step_frame hstep with
    | work hwork =>
      rcases hwork.active with hsame | hzero
      · rw [hsame]
        exact h g hbefore
      · rw [hzero]
        exact hpos.symm
    | call t hcall =>
      rcases hcall.active with hsame | hzero | hstore
      · rw [hsame]
        exact h g hbefore
      · rw [hzero]
        exact hpos.symm
      · -- The generation stored has no worker yet.
        obtain ⟨-, -, hnone⟩ := hallocated.pending t _ (by rw [hstore]; rfl)
        intro heq
        rw [heq] at hnone
        exact hworker hnone
    | fetchUpdate t hcontrol _ heq =>
      subst heq
      exact h g hbefore
  · push Not at hown
    obtain ⟨input, rfl⟩ := hown
    rw [workStep_recording hstep hrecording]
    obtain ⟨before, after, hwork⟩ := workStep_cases hstep
    have hworker : s.workers g ≠ none := by
      rw [hwork.stood]
      exact nofun
    exact (Nat.one_le_iff_ne_zero.mp (hallocated.started g hworker).1).symm

end State

theorem Control.pending_eq_some {control : Control} {g : Generation}
    (h : control.pending = some g) : control = .start (.store g) ∨ control = .start (.spawn g) := by
  match control, h with
  | .start (.store _), h => exact Or.inl (by rw [Option.some.inj h])
  | .start (.spawn _), h => exact Or.inr (by rw [Option.some.inj h])

/-- Only the `fetch_update` of a start leads a caller to the store of a generation. -/
theorem CallFrame.storing {t : Thread} {s s' : State} (h : CallFrame t s s') {g : Generation}
    (hstore : s'.controls t = .start (.store g)) : s.controls t = .start (.store g) := by
  obtain ⟨hpending, hspawn⟩ := h.pending g (by rw [hstore]; rfl)
  exact (Control.pending_eq_some hpending).resolve_right hspawn

theorem store_eq_some {t : Thread} {s s' : State} {g : Generation}
    (hstore : s.controls t = .start (.store g)) (h : step (.proceed t) s = some s') :
    s'.activeWorkerGeneration = g ∧ s'.controls t = .start (.spawn g) := by
  simp only [step, callStep, hstore, startStep] at h
  cases h
  exact ⟨rfl, Function.update_self ..⟩

namespace State

variable {m : Nat} {g : Generation} {s s' : State}

/-- The active generation was given out, and no start is about to store it. -/
structure Current (m : Nat) (s : State) : Prop where
  given : s.activeWorkerGeneration ≤ m
  stored : ∀ t, s.controls t ≠ .start (.store s.activeWorkerGeneration)

theorem current_new : State.new.Current 0 := ⟨Nat.le_refl 0, nofun⟩

/-- The state of no active generation. -/
theorem Current.of_zero (hallocated : s.Allocated m) (hzero : s.activeWorkerGeneration = 0) :
    s.Current m := by
  refine ⟨by rw [hzero]; exact Nat.zero_le m, fun t hstore => ?_⟩
  rw [hzero] at hstore
  exact absurd (hallocated.pending t 0 (by rw [hstore]; rfl)).1 (by decide)

/-- No step leads to the store of a generation that was given out. -/
theorem Allocated.stored_of_given {a : Action} (h : s.Allocated m) (hm : m + a.starts < 2 ^ 64)
    (hframe : StepFrame s a s') (hgiven : g ≤ m)
    (hstored : ∀ t, s.controls t ≠ .start (.store g)) (t : Thread) :
    s'.controls t ≠ .start (.store g) := by
  intro hstore
  cases hframe with
  | work hwork =>
    rw [hwork.controls] at hstore
    exact hstored t hstore
  | call t' hcall =>
    by_cases hself : t = t'
    · subst hself
      exact hstored t (hcall.storing hstore)
    · rw [hcall.others t hself] at hstore
      exact hstored t hstore
  | fetchUpdate t' hcontrol hstarts heq =>
    subst heq
    by_cases hself : t = t'
    · subst hself
      rw [hstarts] at hm
      simp only [Function.update_self, h.next_eq hm] at hstore
      have hnew : m + 1 = g := StartPoint.store.inj (Control.start.inj hstore)
      rw [← hnew] at hgiven
      exact Nat.not_succ_le_self m hgiven
    · simp only [Function.update_of_ne hself] at hstore
      exact hstored t hstore

theorem Current.step {a : Action} (h : s.Current m) (hallocated : s.Allocated m)
    (hm : m + a.starts < 2 ^ 64) (hstep : Ffi.step a s = some s') :
    s'.Current (m + a.starts) := by
  have hframe := step_frame hstep
  have hallocated' := hallocated.step hm hframe
  by_cases hsame : s'.activeWorkerGeneration = s.activeWorkerGeneration
  · refine ⟨?_, fun t => ?_⟩
    · rw [hsame]
      exact Nat.le_add_right_of_le h.given
    · rw [hsame]
      exact hallocated.stored_of_given hm hframe h.given h.stored t
  cases hframe with
  | work hwork hstarts => exact .of_zero hallocated' (hwork.active.resolve_left hsame)
  | call t hcall hstarts hproceed =>
    rcases hcall.active.resolve_left hsame with hzero | hstore
    · exact .of_zero hallocated' hzero
    · have hpending : (s.controls t).pending = some s'.activeWorkerGeneration := by
        rw [hstore]
        rfl
      refine ⟨Nat.le_add_right_of_le (hallocated.pending t _ hpending).2.1, fun t' hother => ?_⟩
      by_cases hself : t' = t
      · subst hself
        rw [hproceed _ hstore] at hstep
        rw [(store_eq_some hstore hstep).2] at hother
        exact nomatch hother
      · rw [hcall.others t' hself] at hother
        exact hself (hallocated.unique t' t _ (by rw [hother]; rfl) hpending)
  | fetchUpdate t hcontrol hstarts heq =>
    subst heq
    exact absurd rfl hsame

structure Over (m : Nat) (g : Generation) (s : State) : Prop where
  pos : g ≠ 0
  given : g ≤ m
  inactive : s.activeWorkerGeneration ≠ g
  stored : ∀ t, s.controls t ≠ .start (.store g)

/-- A step that ends the active generation ends it for good. -/
theorem Current.ended {a : Action} (h : s.Current m) (hpos : s.activeWorkerGeneration ≠ 0)
    (hstep : Ffi.step a s = some s')
    (hended : s'.activeWorkerGeneration ≠ s.activeWorkerGeneration) :
    s'.Over (m + a.starts) s.activeWorkerGeneration := by
  refine ⟨hpos, Nat.le_add_right_of_le h.given, hended, fun t hstore => ?_⟩
  cases step_frame hstep with
  | work hwork =>
    rw [hwork.controls] at hstore
    exact h.stored t hstore
  | call t' hcall =>
    by_cases hself : t = t'
    · subst hself
      exact h.stored t (hcall.storing hstore)
    · rw [hcall.others t hself] at hstore
      exact h.stored t hstore
  | fetchUpdate t' _ _ heq =>
    subst heq
    exact hended rfl

theorem Over.step {a : Action} (h : s.Over m g) (hallocated : s.Allocated m)
    (hm : m + a.starts < 2 ^ 64) (hstep : Ffi.step a s = some s') :
    s'.Over (m + a.starts) g := by
  refine ⟨h.pos, Nat.le_add_right_of_le h.given, ?_, fun t hstore => ?_⟩
  · exact (step_frame hstep).inactive h.pos h.inactive h.stored
  · exact hallocated.stored_of_given hm (step_frame hstep) h.given h.stored t hstore

end State

structure Stale (g : Generation) (m : Nat) (s : State) : Prop where
  allocated : s.Allocated m
  ended : s.Over m g
  errorStopped : s.ErrorStopped

variable {actions later : List Action} {s s₁ s₂ : State} {g : Generation}

theorem Stale.step {m : Nat} {a : Action} (h : Stale g m s) (hm : m + a.starts < 2 ^ 64)
    (hstep : step a s = some s₁) : Stale g (m + a.starts) s₁ :=
  ⟨h.allocated.step hm (step_frame hstep), h.ended.step h.allocated hm hstep,
    h.errorStopped.step h.allocated hstep⟩

/-- Each receive of the worker uses up what it was committed to. -/
theorem Stale.receives_add_committed_le {m : Nat} {a : Action} (h : Stale g m s)
    (hstep : Ffi.step a s = some s₁) : receives g s a + s₁.committed g ≤ s.committed g := by
  have hpoint := step_point hstep g
  by_cases hown : ∀ input, a ≠ .work g input
  · have hzero : receives g s a = 0 := by
      match a, hown with
      | .work g' input, hown => exact if_neg fun heq => hown input (by rw [heq.1])
      | .begin _ _, _ => rfl
      | .proceed _, _ => rfl
      | .fetchUpdate _, _ => rfl
    have hle := hpoint.committed_le hown
    omega
  · push Not at hown
    obtain ⟨input, rfl⟩ := hown
    have hstale := (workStep_stale h.ended.inactive hstep).committed
    by_cases hreceive : s.workers g = some .receive
    · have hone : s.committed g = 1 := by
        rw [State.committed, hreceive]
        rfl
      have hreceives : receives g s (.work g input) = 1 := if_pos ⟨rfl, hreceive⟩
      omega
    · have hreceives : receives g s (.work g input) = 0 := if_neg fun heq => hreceive heq.2
      omega

theorem Stale.notRecording {m : Nat} {a : Action} (h : Stale g m s)
    (hrecording : ¬ s.Recording g) (hstep : Ffi.step a s = some s₁) : ¬ s₁.Recording g := by
  by_cases hown : ∀ input, a ≠ .work g input
  · exact fun hlater => hrecording ((step_point hstep g).recording hown hlater)
  · push Not at hown
    obtain ⟨input, rfl⟩ := hown
    exact (workStep_stale h.ended.inactive hstep).notRecording

/-- The steps of a run without a condition. -/
theorem meets_true (s : State) : Meets step (fun _ _ => True) actions s :=
  Transition.meets_of_mem (fun _ _ _ => trivial) s

/-- Once the active generation `g` is over it is never active again; its worker makes
at most the receive it was committed to, none from its callback or its idle wait; and
unless the step that ended `g` was the worker's own error stop, no later step of the
worker changes the active generation or the last error. -/
theorem replaced_worker_is_inert {a : Action} (hrun : run step actions .new = some s)
    (hactive : s.Active g) (hstep : step a s = some s₁) (hended : ¬ s₁.Active g)
    (hlater : run step later s₁ = some s₂)
    (hstarts : starts actions + a.starts + starts later < 2 ^ 64) :
    (¬ s₂.Active g ∧ ∀ g₁ g₂, s₂.Active g₁ → s₂.Active g₂ → g₁ = g₂) ∧
      cost step (receives g) later s₁ ≤ (if s₁.workers g = some .receive then 1 else 0) ∧
      ((∀ input, a ≠ .work g input) → ∀ input s₃, step (.work g input) s₂ = some s₃ →
        s₃.activeWorkerGeneration = s₂.activeWorkerGeneration ∧ s₃.lastError = s₂.lastError) := by
  obtain ⟨hpos, rfl⟩ := hactive
  have hm : starts actions + a.starts < 2 ^ 64 :=
    Nat.lt_of_le_of_lt (Nat.le_add_right _ _) hstarts
  have hhistory : starts actions < 2 ^ 64 := Nat.lt_of_le_of_lt (Nat.le_add_right _ _) hm
  have hfirst := Transition.invariant_of_weight Action.starts (2 ^ 64)
    (P := fun m s => s.Allocated m ∧ s.Current m ∧ s.ErrorStopped) (n := 0)
    (fun _ _ _ _ hm _ h hstep =>
      ⟨h.1.step hm (step_frame hstep), h.2.1.step h.1 hm hstep, h.2.2.step h.1 hstep⟩)
    (by rw [Nat.zero_add]; exact hhistory)
    (meets_true _) ⟨State.allocated_new, State.current_new, State.errorStopped_new⟩ hrun
  rw [Nat.zero_add] at hfirst
  obtain ⟨hallocated, hcurrent, herror⟩ := hfirst
  have hended' : s₁.activeWorkerGeneration ≠ s.activeWorkerGeneration :=
    fun heq => hended ⟨hpos, heq⟩
  have hstale : Stale s.activeWorkerGeneration (starts actions + a.starts) s₁ :=
    ⟨hallocated.step hm (step_frame hstep), hcurrent.ended hpos hstep hended',
      herror.step hallocated hstep⟩
  have hend := Transition.invariant_of_weight Action.starts (2 ^ 64)
    (P := fun m s' => Stale s.activeWorkerGeneration m s' ∧
      (¬ s₁.Recording s.activeWorkerGeneration → ¬ s'.Recording s.activeWorkerGeneration))
    (fun _ _ _ _ hm _ h hstep =>
      ⟨h.1.step hm hstep, fun hnot => h.1.notRecording (h.2 hnot) hstep⟩)
    hstarts (meets_true _) ⟨hstale, id⟩ hlater
  obtain ⟨hstale₂, hrecording⟩ := hend
  refine ⟨⟨fun hactive => hstale₂.ended.inactive hactive.2, fun g₁ g₂ h₁ h₂ => ?_⟩, ?_,
    fun hown input s₃ hwork => ?_⟩
  · exact h₁.2.symm.trans h₂.2
  · have hcost := Transition.cost_le_of_potential Action.starts (2 ^ 64)
      (fun _ _ _ _ hm h hstep => ⟨h.step hm hstep, h.receives_add_committed_le hstep⟩)
      hstarts hstale hlater
    refine Nat.le_trans hcost ?_
    rw [State.committed]
    cases s₁.workers s.activeWorkerGeneration with
    | none => exact Nat.zero_le _
    | some point => cases point <;> exact Nat.le_refl _
  · have hnot : ¬ s₁.Recording s.activeWorkerGeneration := by
      intro hlate
      exact herror _ ((step_point hstep _).recording hown hlate) rfl
    have hwork' := workStep_stale hstale₂.ended.inactive hwork
    exact ⟨hwork'.active, hwork'.lastError (hrecording hnot)⟩

/-- The host starts, and the worker is in its callback when the host's stop stores
zero. -/
def stoppedInCallback : List Action :=
  startActions (.external 0) ++ [.work 1 .go, .work 1 .packet] ++ [.begin (.external 0) .stop]

theorem replaced_worker_is_inert_callback :
    ∃ s₁ s₂, s₁.workers 1 = some .callback ∧
      run step [.work 1 .go, .work 1 .go] s₁ = some s₂ ∧ ¬ s₂.Active 1 ∧
      cost step (receives 1) [.work 1 .go, .work 1 .go] s₁ ≤ 0 := by
  have hend : (run step stoppedInCallback .new).any (fun s =>
      decide (s.activeWorkerGeneration = 1 ∧ (step (.proceed (.external 0)) s).any (fun s₁ =>
        decide (s₁.activeWorkerGeneration = 0 ∧ s₁.workers 1 = some .callback ∧
          (run step [.work 1 .go, .work 1 .go] s₁).isSome = true)) = true)) = true := by decide
  obtain ⟨s, hrun, hs⟩ := Transition.exists_of_run_any hend
  obtain ⟨hactive, hrest⟩ := of_decide_eq_true hs
  obtain ⟨s₁, hstep, hs₁⟩ := (Option.any_eq_true ..).mp hrest
  obtain ⟨hzero, hcallback, hsome⟩ := of_decide_eq_true hs₁
  obtain ⟨s₂, hlater⟩ := Option.isSome_iff_exists.mp hsome
  have hended : ¬ s₁.Active 1 := by
    intro h
    rw [State.Active, hzero] at h
    exact absurd h.2 (by decide)
  obtain ⟨⟨hinactive, -⟩, hcost, -⟩ :=
    replaced_worker_is_inert hrun ⟨by decide, hactive⟩ hstep hended hlater (by decide)
  rw [hcallback, if_neg nofun] at hcost
  exact ⟨s₁, s₂, hcallback, hlater, hinactive, hcost⟩

end McrxCore.Ffi
