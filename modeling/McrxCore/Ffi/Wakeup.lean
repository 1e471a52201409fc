import McrxCore.Ffi.Generations

/-!
# Waking an idle worker

A worker parks after it saw its generation active, without looking again, and the
notification of a stop reaches only the workers already parked.  A worker between the
look and the park is asleep to it: a stop that stores and notifies in between leaves it
parked until the idle interval is over.
-/

namespace McrxCore.Ffi

open Transition (run Meets)

namespace State

/-- Worker `g` is parked, or parks without looking at its generation again. -/
def Asleep (s : State) (g : Generation) : Prop :=
  s.workers g = some .waitPark ∨ s.workers g = some .parked

/-- A stop has stored zero and is about to notify. -/
def NotifyPending (s : State) : Prop := ∃ t call, s.controls t = .stop call .notify

/-- Every sleeping worker has its generation active, or is about to be notified. -/
def Wakeful (s : State) : Prop :=
  ∀ g, s.Asleep g → s.activeWorkerGeneration = g ∨ s.NotifyPending

end State

/-- The notification of thread `t`, while the generation of a worker that is about to
park is not active and no other notification is to come. -/
def NotifiesEarly (s : State) (a : Action) : Prop :=
  ∃ t call g, a = .proceed t ∧ s.controls t = .stop call .notify ∧
    s.workers g = some .waitPark ∧ s.activeWorkerGeneration ≠ g ∧
    ∀ t' call', t' ≠ t → s.controls t' ≠ .stop call' .notify

/-- A start stores its generation over that of a sleeping worker, with no notification
to come. -/
def StoresOverSleeper (s : State) (a : Action) : Prop :=
  ∃ t generation g, a = .proceed t ∧ s.controls t = .start (.store generation) ∧
    s.Asleep g ∧ s.activeWorkerGeneration = g ∧ ¬ s.NotifyPending

/-- The step leaves a worker asleep without a notification to come. -/
def LosesWakeup (s : State) (a : Action) : Prop := NotifiesEarly s a ∨ StoresOverSleeper s a

/-! ## What a step does to sleeping workers -/

theorem asleep_notifyAll {s : State} {g : Generation} (h : s.notifyAll.Asleep g) :
    s.workers g = some .waitPark := by
  have hworkers : s.notifyAll.workers g =
      if s.workers g = some .parked then some .waitRelock else s.workers g := rfl
  rw [State.Asleep, hworkers] at h
  split at h
  · simp at h
  · rename_i hparked
    exact h.resolve_right hparked

/-- A worker falls asleep only after it saw its generation active. -/
theorem workStep_asleep {g other : Generation} {input : Input} {s s' : State}
    (h : workStep g input s = some s') (hasleep : s'.Asleep other) :
    s'.activeWorkerGeneration = other ∨ s.Asleep other ∧
      (s'.activeWorkerGeneration = s.activeWorkerGeneration ∨
        s.activeWorkerGeneration ≠ other) := by
  obtain ⟨before, after, hstep⟩ := workStep_cases h
  by_cases heq : other = g
  · subst heq
    have hpoint : after = .waitPark ∨ after = .parked := by
      rw [State.Asleep, hstep.stands] at hasleep
      exact hasleep.imp Option.some.inj Option.some.inj
    have hsame : s'.activeWorkerGeneration = s.activeWorkerGeneration := by
      rcases hstep.active with hsame | ⟨-, -, message, hrecord⟩
      · exact hsame
      · rw [hrecord] at hpoint
        exact hpoint.elim nofun nofun
    rcases hpoint with hpark | hparked
    · exact Or.inl (hsame.trans (hstep.looked hpark))
    · have hbefore := hstep.stood
      rw [hstep.parks hparked] at hbefore
      exact Or.inr ⟨Or.inl hbefore, Or.inl hsame⟩
  · have hbefore : s.Asleep other := by
      rcases hstep.others other heq with hsame | hnotified
      · rwa [State.Asleep, hsame] at hasleep
      · refine Or.inl (asleep_notifyAll ?_)
        rwa [State.Asleep, hnotified] at hasleep
    refine Or.inr ⟨hbefore, hstep.active.imp_right fun hstop => ?_⟩
    rw [hstop.1]
    exact fun hg => heq hg.symm

/-- What a step of a call does to sleeping workers: it stores zero and has a
notification to come, it notifies, it stores a generation, or it leaves them. -/
inductive CallWakes (t : Thread) (s s' : State) : Prop
  | stored (call : StopCall) (hnotify : s'.controls t = .stop call .notify)
      (hworkers : s'.workers = s.workers)
  | notified (call : StopCall) (hnotify : s.controls t = .stop call .notify)
      (hactive : s'.activeWorkerGeneration = s.activeWorkerGeneration)
      (hworkers : s'.workers = s.notifyAll.workers)
  | started (generation : Generation) (hstore : s.controls t = .start (.store generation))
      (hworkers : s'.workers = s.workers)
  | left (hnotify : ∀ call, s.controls t ≠ .stop call .notify)
      (hactive : s'.activeWorkerGeneration = s.activeWorkerGeneration)
      (hasleep : ∀ g, s'.Asleep g → s.Asleep g)

theorem asleep_move_head {s : State} {g other : Generation}
    (h : (s.move g .head).Asleep other) : s.Asleep other := by
  by_cases heq : other = g
  · subst heq
    rw [State.Asleep, move_workers] at h
    simp at h
  · rwa [State.Asleep, move_workers_of_ne _ _ heq] at h

theorem callStep_wakes {t : Thread} {s s' : State} (h : callStep t s = some s') :
    CallWakes t s s' := by
  simp only [callStep] at h
  split at h
  · cases h
  · rename_i hcontrol
    cases h
    exact .left (fun call hcall => by rw [hcontrol] at hcall; cases hcall) rfl fun _ => id
  · rename_i call point hcontrol
    have hother : point ≠ .notify → ∀ call, s.controls t ≠ .stop call .notify := by
      intro hne call' heq
      rw [hcontrol] at heq
      exact hne (Control.stop.inj heq).2
    cases point with
    | store =>
      cases h
      exact .stored call (Function.update_self ..) rfl
    | notify =>
      cases h
      exact .notified call hcontrol rfl rfl
    | lock =>
      simp only [stopStep] at h
      split at h
      · cases h
        exact .left (hother fun hpoint => by cases hpoint) rfl fun _ => id
      · cases h
    | take =>
      cases h
      exact .left (hother fun hpoint => by cases hpoint) rfl fun _ => id
    | unlock handle =>
      cases h
      exact .left (hother fun hpoint => by cases hpoint) rfl fun _ => id
    | join handle =>
      simp only [stopStep] at h
      split at h
      · cases h
        exact .left (hother fun hpoint => by cases hpoint) rfl fun _ => id
      · cases h
    | clearError =>
      cases h
      exact .left (hother fun hpoint => by cases hpoint) rfl fun _ => id
  · rename_i point hcontrol
    have hother : ∀ call, s.controls t ≠ .stop call .notify := by
      intro call heq
      rw [hcontrol] at heq
      cases heq
    cases point with
    | lock =>
      simp only [startStep] at h
      split at h
      · cases h
        exact .left hother rfl fun _ => id
      · cases h
    | take =>
      simp only [startStep] at h
      split at h
      · cases h
        exact .left hother rfl fun _ => id
      · cases h
        exact .left hother rfl fun _ => id
    | isFinished handle =>
      simp only [startStep] at h
      split at h
      · cases h
        exact .left hother rfl fun _ => id
      · cases h
        exact .left hother rfl fun _ => id
    | fetchUpdate => cases h
    | store generation =>
      cases h
      exact .started generation hcontrol rfl
    | spawn generation =>
      cases h
      exact .left hother rfl fun _ => asleep_move_head
    | clearError =>
      cases h
      exact .left hother rfl fun _ => id
    | unlock status =>
      cases h
      exact .left hother rfl fun _ => id
  · rename_i hcontrol
    cases h
    exact .left (fun call hcall => by rw [hcontrol] at hcall; cases hcall) rfl fun _ => id

/-- No step of a call puts a worker to sleep. -/
theorem CallWakes.asleep {t : Thread} {s s' : State} (h : CallWakes t s s') {g : Generation}
    (hasleep : s'.Asleep g) : s.Asleep g := by
  cases h with
  | stored call hnotify hworkers => rwa [State.Asleep, hworkers] at hasleep
  | notified call hnotify hactive hworkers =>
    refine Or.inl (asleep_notifyAll ?_)
    rwa [State.Asleep, hworkers] at hasleep
  | started generation hstore hworkers => rwa [State.Asleep, hworkers] at hasleep
  | left hnotify hactive hkept => exact hkept g hasleep

/-! ## Runs -/

namespace State

variable {s s' : State}

theorem wakeful_new : State.new.Wakeful := fun _ hasleep => hasleep.elim nofun nofun

/-- A notification to come is still to come after a step of another thread, or of a
thread that is not about to notify. -/
theorem NotifyPending.kept {t : Thread} (h : s.NotifyPending)
    (hothers : ∀ t', t' ≠ t → s'.controls t' = s.controls t')
    (hnotify : ∀ call, s.controls t ≠ .stop call .notify) : s'.NotifyPending := by
  obtain ⟨t', call, hpending⟩ := h
  have hne : t' ≠ t := by
    intro heq
    rw [heq] at hpending
    exact hnotify call hpending
  exact ⟨t', call, (hothers t' hne).trans hpending⟩

theorem Wakeful.call (h : s.Wakeful) {t : Thread} (hothers : ∀ t', t' ≠ t →
    s'.controls t' = s.controls t') (hwakes : CallWakes t s s')
    (hkept : ¬ LosesWakeup s (.proceed t)) : s'.Wakeful := by
  intro g hasleep
  cases hwakes with
  | stored call hnotify hworkers => exact Or.inr ⟨t, call, hnotify⟩
  | notified call hnotify hactive hworkers =>
    have hpark : s.workers g = some .waitPark := by
      apply asleep_notifyAll
      rwa [Asleep, hworkers] at hasleep
    rw [hactive]
    by_contra hlost
    rw [not_or] at hlost
    refine hkept (Or.inl ⟨t, call, g, rfl, hnotify, hpark, hlost.1,
      fun t' call' hne hpending => ?_⟩)
    exact hlost.2 ⟨t', call', (hothers t' hne).trans hpending⟩
  | started generation hstore hworkers =>
    have hbefore : s.Asleep g := by rwa [Asleep, hworkers] at hasleep
    have hpending : s.NotifyPending := by
      by_contra hnone
      rcases h g hbefore with hactive | hpending
      · exact hkept (Or.inr ⟨t, generation, g, rfl, hstore, hbefore, hactive, hnone⟩)
      · exact hnone hpending
    exact Or.inr (hpending.kept hothers (by rw [hstore]; exact nofun))
  | left hnotify hactive hasleep' =>
    rw [hactive]
    exact (h g (hasleep' g hasleep)).imp_right fun hpending => hpending.kept hothers hnotify

theorem Wakeful.work (h : s.Wakeful) {g : Generation} {input : Input}
    (hstep : workStep g input s = some s') : s'.Wakeful := by
  intro other hasleep
  have hcontrols := (workStep_frame hstep).controls
  rcases workStep_asleep hstep hasleep with hactive | ⟨hbefore, hactive⟩
  · exact Or.inl hactive
  · have hpending : s.NotifyPending → s'.NotifyPending := by
      rintro ⟨t, call, hnotify⟩
      exact ⟨t, call, by rw [hcontrols, hnotify]⟩
    rcases h other hbefore with hsame | hnotify
    · rcases hactive with hkept | hne
      · exact Or.inl (hkept.trans hsame)
      · exact absurd hsame hne
    · exact Or.inr (hpending hnotify)

theorem Wakeful.step {a : Action} (h : s.Wakeful) (hkept : ¬ LosesWakeup s a)
    (hstep : Ffi.step a s = some s') : s'.Wakeful := by
  cases a with
  | begin t call =>
    have hframe := beginCall_frame hstep
    simp only [Ffi.step, beginCall] at hstep
    split at hstep
    · rename_i hidle
      cases hstep
      intro g hasleep
      refine (h g hasleep).imp_right fun hpending => hpending.kept hframe.others ?_
      rw [hidle.1]
      exact fun _ hcall => by cases hcall
    · cases hstep
  | proceed t =>
    exact h.call (callStep_frame hstep).others (callStep_wakes hstep) hkept
  | fetchUpdate t =>
    obtain ⟨hcontrol, rfl⟩ := fetchUpdate_eq_some hstep
    intro g hasleep
    refine (h g hasleep).imp_right fun hpending => hpending.kept (t := t)
      (fun t' hne => Function.update_of_ne hne ..) ?_
    rw [hcontrol]
    exact fun _ hcall => by cases hcall
  | work g input => exact h.work hstep

end State

/-- When no step leaves a worker asleep without a notification to come, a parked worker
has its generation active or is about to be notified. -/
theorem parked_worker_is_notified {actions : List Action} {s : State}
    (hrun : run step actions .new = some s)
    (hkept : Meets step (fun s a => ¬ LosesWakeup s a) actions .new) {g : Generation}
    (hparked : s.workers g = some .parked) :
    s.activeWorkerGeneration = g ∨ ∃ t call, s.controls t = .stop call .notify := by
  have hwakeful : s.Wakeful := Transition.invariant_of_meets
    (fun _ _ _ hkept h hstep => h.step hkept hstep) hkept State.wakeful_new hrun
  exact hwakeful g (Or.inr hparked)

/-- Calls alone lose no wake-up while no worker sleeps. -/
theorem meets_of_calls {actions : List Action} {s : State}
    (hcalls : ∀ a ∈ actions, ∀ g input, a ≠ .work g input) (hawake : ∀ g, ¬ s.Asleep g) :
    Meets step (fun s a => ¬ LosesWakeup s a) actions s := by
  refine Transition.meets_of_invariant (P := fun s => ∀ g, ¬ s.Asleep g)
    (fun s a hawake => ?_) (fun s a s' ha hawake h g hasleep => ?_) hawake
  · rintro (⟨t, call, g, -, -, hpark, -⟩ | ⟨t, generation, g, -, -, hasleep, -⟩)
    · exact hawake g (Or.inl hpark)
    · exact hawake g hasleep
  · cases a with
    | begin t call =>
      simp only [step, beginCall] at h
      split at h
      · cases h
        exact hawake g hasleep
      · cases h
    | proceed t => exact hawake g ((callStep_wakes h).asleep hasleep)
    | fetchUpdate t =>
      obtain ⟨-, rfl⟩ := fetchUpdate_eq_some h
      exact hawake g hasleep
    | work g input => exact absurd rfl (hcalls _ ha g input)

/-- A worker that finds nothing to receive, up to the look before it parks. -/
def lookActions : List Action :=
  [.work 1 .go, .work 1 .empty, .work 1 .go, .work 1 .go, .work 1 .go]

theorem parked_worker_is_notified_idle :
    ∃ s, run step (startActions (.external 0) ++ (lookActions ++ [.work 1 .go])) .new = some s ∧
      s.workers 1 = some .parked ∧
      (s.activeWorkerGeneration = 1 ∨ ∃ t call, s.controls t = .stop call .notify) := by
  have hend : (run step (startActions (.external 0) ++ (lookActions ++ [.work 1 .go])) .new).any
      (fun s => decide (s.workers 1 = some .parked)) = true := by decide
  obtain ⟨s, hrun, hs⟩ := Transition.exists_of_run_any hend
  have hparked := of_decide_eq_true hs
  have hcalls : Meets step (fun s a => ¬ LosesWakeup s a) (startActions (.external 0)) .new :=
    meets_of_calls (by simp [startActions]) fun g hasleep => hasleep.elim nofun nofun
  have hwork : ∀ s, Meets step (fun s a => ¬ LosesWakeup s a) (lookActions ++ [.work 1 .go]) s := by
    intro s
    refine Transition.meets_of_mem (fun a ha s => ?_) s
    have hnotProceed : ∀ t, a ≠ .proceed t := by
      intro t heq
      rw [heq] at ha
      simp [lookActions] at ha
    rintro (⟨t, _, _, heq, -⟩ | ⟨t, _, _, heq, -⟩)
    · exact hnotProceed t heq
    · exact hnotProceed t heq
  exact ⟨s, hrun, hparked, parked_worker_is_notified hrun (hcalls.append hwork) hparked⟩

/-! ## A stop before the park -/

/-- The worker looks at its generation, the host's stop stores zero and notifies, and
the worker parks. -/
def stoppedBeforePark : List Action :=
  startActions (.external 0) ++ lookActions ++
    [.begin (.external 0) .stop, .proceed (.external 0), .proceed (.external 0)] ++ [.work 1 .go]

/-- The worker is parked, its generation is not active, and no notification is to
come. -/
theorem stopped_worker_parks :
    ∃ s, run step stoppedBeforePark .new = some s ∧ s.workers 1 = some .parked ∧
      s.activeWorkerGeneration ≠ 1 ∧ ¬ ∃ t call, s.controls t = .stop call .notify := by
  have hend : (run step stoppedBeforePark .new).any (fun s =>
      decide (s.workers 1 = some .parked ∧ s.activeWorkerGeneration ≠ 1 ∧
        s.controls (.external 0) = .stop .stop .lock)) = true := by decide
  obtain ⟨s, hrun, hs⟩ := Transition.exists_of_run_any hend
  obtain ⟨hparked, hactive, hlock⟩ := of_decide_eq_true hs
  have hone : Meets step (fun _ a => ∀ t' call, a = .begin t' call → t' = .external 0)
      stoppedBeforePark .new :=
    Transition.meets_of_mem (by simp [stoppedBeforePark, startActions, lookActions]) _
  have hidle : ∀ t', t' ≠ .external 0 → s.controls t' = .idle :=
    Transition.invariant_of_meets
      (P := fun s => ∀ t' : Thread, t' ≠ .external 0 → s.controls t' = .idle)
      (fun _ _ _ hcaller hidle hstep => step_idle hcaller hidle hstep) hone (fun _ _ => rfl) hrun
  refine ⟨s, hrun, hparked, hactive, ?_⟩
  rintro ⟨t, call, hnotify⟩
  by_cases heq : t = .external 0
  · rw [heq, hlock] at hnotify
    cases hnotify
  · rw [hidle t heq] at hnotify
    cases hnotify

end McrxCore.Ffi
