import Mathlib

/-!
# Runs of a transition system

A system is a partial step function on states and actions.  A run takes a list of
actions in turn, and is there only when every action is enabled.  A condition on steps
that every step of a run meets is one the invariants of that run may use.
-/

namespace Transition

variable {σ α : Type*} (step : α → σ → Option σ)

def run : List α → σ → Option σ
  | [], s => some s
  | a :: actions, s => (step a s).bind (run actions)

def Meets (allowed : σ → α → Prop) : List α → σ → Prop
  | [], _ => True
  | a :: actions, s => allowed s a ∧ ∀ s', step a s = some s' → Meets allowed actions s'

variable {step} {allowed : σ → α → Prop} {actions : List α} {s s' : σ}

theorem run_cons_eq_some {a : α} (h : run step (a :: actions) s = some s') :
    ∃ s₁, step a s = some s₁ ∧ run step actions s₁ = some s' :=
  Option.bind_eq_some_iff.mp h

theorem run_append_eq_some {later : List α} {s'' : σ} (h : run step actions s = some s')
    (hlater : run step later s' = some s'') : run step (actions ++ later) s = some s'' := by
  induction actions generalizing s with
  | nil =>
    obtain rfl : s = s' := Option.some.inj h
    exact hlater
  | cons a actions ih =>
    obtain ⟨s₁, hstep, hrest⟩ := run_cons_eq_some h
    rw [List.cons_append, run, hstep, Option.bind_some]
    exact ih hrest

/-- The invariant rule, with a number that each action adds its weight to. -/
theorem invariant_of_weight (weight : α → Nat) (limit : Nat) {P : Nat → σ → Prop}
    (hstep : ∀ n s a s', n + weight a < limit → allowed s a → P n s → step a s = some s' →
      P (n + weight a) s') {n : Nat} (hn : n + (actions.map weight).sum < limit)
    (hmeets : Meets step allowed actions s) (hP : P n s) (h : run step actions s = some s') :
    P (n + (actions.map weight).sum) s' := by
  induction actions generalizing s n with
  | nil =>
    obtain rfl : s = s' := Option.some.inj h
    exact hP
  | cons a actions ih =>
    obtain ⟨s₁, hfirst, hrest⟩ := run_cons_eq_some h
    obtain ⟨hallowed, hmeets⟩ := hmeets
    rw [List.map_cons, List.sum_cons, ← Nat.add_assoc] at hn ⊢
    exact ih hn (hmeets s₁ hfirst) (hstep n s a s₁ (by omega) hallowed hP hfirst) hrest

/-- The invariant rule for runs whose steps meet a condition. -/
theorem invariant_of_meets {P : σ → Prop}
    (hstep : ∀ s a s', allowed s a → P s → step a s = some s' → P s')
    (hmeets : Meets step allowed actions s) (hP : P s) (h : run step actions s = some s') :
    P s' := by
  induction actions generalizing s with
  | nil =>
    obtain rfl : s = s' := Option.some.inj h
    exact hP
  | cons a actions ih =>
    obtain ⟨s₁, hfirst, hrest⟩ := run_cons_eq_some h
    obtain ⟨hallowed, hmeets⟩ := hmeets
    exact ih (hmeets s₁ hfirst) (hstep s a s₁ hallowed hP hfirst) hrest

/-- A condition that holds of every step from a state with an invariant is met by
every run from such a state. -/
theorem meets_of_invariant {P : σ → Prop} (hallowed : ∀ s a, P s → allowed s a)
    (hstep : ∀ s a s', a ∈ actions → P s → step a s = some s' → P s') (hP : P s) :
    Meets step allowed actions s := by
  induction actions generalizing s with
  | nil => trivial
  | cons a actions ih =>
    refine ⟨hallowed s a hP, fun s' h => ih (fun s a s' ha => ?_) ?_⟩
    · exact hstep s a s' (List.mem_cons_of_mem _ ha)
    · exact hstep s a s' List.mem_cons_self hP h

/-- A condition on actions that holds of every action of a run is met by the run. -/
theorem meets_of_mem (h : ∀ a ∈ actions, ∀ s, allowed s a) (s : σ) :
    Meets step allowed actions s := by
  induction actions generalizing s with
  | nil => trivial
  | cons a actions ih =>
    refine ⟨h a List.mem_cons_self s, fun s' _ => ih (fun b hb => ?_) s'⟩
    exact h b (List.mem_cons_of_mem _ hb)

/-- The invariant rule. -/
theorem invariant {P : σ → Prop} (hstep : ∀ s a s', P s → step a s = some s' → P s') (hP : P s)
    (h : run step actions s = some s') : P s' := by
  have hmeets : Meets step (fun _ _ => True) actions s := meets_of_mem (fun _ _ _ => trivial) s
  exact invariant_of_meets (fun s a s' _ hs hfirst => hstep s a s' hs hfirst) hmeets hP h

variable (actions) in
/-- Where a condition on steps is exactly what keeps an invariant, a run meets it if
and only if the invariant holds after every prefix of the run. -/
theorem meets_iff_forall_take {P : σ → Prop} (hexists : ∀ s a, ∃ s', step a s = some s')
    (hstep : ∀ s a s', P s → step a s = some s' → (allowed s a ↔ P s')) (hP : P s) :
    Meets step allowed actions s ↔
      ∀ n s', run step (actions.take n) s = some s' → P s' := by
  induction actions generalizing s with
  | nil =>
    refine ⟨fun _ n s' h => ?_, fun _ => trivial⟩
    rw [List.take_nil] at h
    obtain rfl : s = s' := Option.some.inj h
    exact hP
  | cons a actions ih =>
    obtain ⟨s₁, hs₁⟩ := hexists s a
    have hrun : ∀ n, run step ((a :: actions).take (n + 1)) s = run step (actions.take n) s₁ := by
      intro n
      rw [List.take_succ_cons, run, hs₁, Option.bind_some]
    constructor
    · rintro ⟨hallowed, hmeets⟩ n s' h
      have hP₁ := (hstep s a s₁ hP hs₁).mp hallowed
      cases n with
      | zero =>
        obtain rfl : s = s' := Option.some.inj h
        exact hP
      | succ n =>
        rw [hrun] at h
        exact (ih hP₁).mp (hmeets s₁ hs₁) n s' h
    · intro h
      have hP₁ : P s₁ := h 1 s₁ (by rw [hrun]; rfl)
      refine ⟨(hstep s a s₁ hP hs₁).mpr hP₁, fun s' hs' => ?_⟩
      obtain rfl : s₁ = s' := Option.some.inj (hs₁.symm.trans hs')
      exact (ih hP₁).mpr fun n s'' hn => h (n + 1) s'' (by rw [hrun]; exact hn)

/-- A part of a run meets what the run meets. -/
theorem Meets.take (h : Meets step allowed actions s) (n : Nat) :
    Meets step allowed (actions.take n) s := by
  induction actions generalizing s n with
  | nil =>
    rw [List.take_nil]
    trivial
  | cons a actions ih =>
    cases n with
    | zero => trivial
    | succ n => exact ⟨h.1, fun s' hs' => ih (h.2 s' hs') n⟩

/-- Where a step that breaks the condition leads to a state that is not good, a run whose
states are all good meets the condition. -/
theorem meets_of_forall_take {good : σ → Prop}
    (hbad : ∀ s a, ¬ allowed s a → ∃ s', step a s = some s' ∧ ¬ good s')
    (h : ∀ n s', run step (actions.take n) s = some s' → good s') :
    Meets step allowed actions s := by
  induction actions generalizing s with
  | nil => trivial
  | cons a actions ih =>
    refine ⟨?_, fun s₁ hs₁ => ih fun n s' hrun => h (n + 1) s' ?_⟩
    · by_contra hnot
      obtain ⟨s₁, hs₁, hgood⟩ := hbad s a hnot
      exact hgood (h 1 s₁ (by rw [List.take_succ_cons, run, hs₁]; rfl))
    · rw [List.take_succ_cons, run, hs₁]
      exact hrun

/-- Where, under an invariant, a condition on steps is exactly what keeps a property, a run
meets it if and only if the property holds after every prefix of the run. -/
theorem meets_iff_of_invariant {I P : σ → Prop}
    (hinvariant : ∀ s a s', I s → step a s = some s' → I s')
    (hdisabled : ∀ s a, step a s = none → allowed s a)
    (hstep : ∀ s a s', I s → P s → step a s = some s' → (allowed s a ↔ P s'))
    (hI : I s) (hP : P s) :
    Meets step allowed actions s ↔
      ∀ n s', run step (actions.take n) s = some s' → P s' := by
  constructor
  · intro hmeets n s' h
    have hkept : ∀ s a s', allowed s a → I s ∧ P s → step a s = some s' → I s' ∧ P s' :=
      fun s a s' hallowed hboth hfirst =>
        ⟨hinvariant s a s' hboth.1 hfirst, (hstep s a s' hboth.1 hboth.2 hfirst).mp hallowed⟩
    exact (invariant_of_meets hkept (hmeets.take n) ⟨hI, hP⟩ h).2
  · intro h
    induction actions generalizing s with
    | nil => trivial
    | cons a actions ih =>
      have hrest : ∀ s₁, step a s = some s₁ → ∀ n s', run step (actions.take n) s₁ = some s' →
          P s' := by
        intro s₁ hfirst n s' hrun
        refine h (n + 1) s' ?_
        rw [List.take_succ_cons, run, hfirst]
        exact hrun
      refine ⟨?_, fun s₁ hfirst => ?_⟩
      · cases hfirst : step a s with
        | none => exact hdisabled s a hfirst
        | some s₁ => exact (hstep s a s₁ hI hP hfirst).mpr (hrest s₁ hfirst 0 s₁ rfl)
      · exact ih (hinvariant s a s₁ hI hfirst) (hrest s₁ hfirst 0 s₁ rfl) (hrest s₁ hfirst)

/-- A run that meets two conditions meets both at once. -/
theorem Meets.and {other : σ → α → Prop} (h : Meets step allowed actions s)
    (hother : Meets step other actions s) :
    Meets step (fun s a => allowed s a ∧ other s a) actions s := by
  induction actions generalizing s with
  | nil => trivial
  | cons a actions ih =>
    exact ⟨⟨h.1, hother.1⟩, fun s' hs' => ih (h.2 s' hs') (hother.2 s' hs')⟩

/-- A run meets a condition when its two parts do. -/
theorem Meets.append {later : List α} (h : Meets step allowed actions s)
    (hlater : ∀ s', Meets step allowed later s') : Meets step allowed (actions ++ later) s := by
  induction actions generalizing s with
  | nil => exact hlater s
  | cons a actions ih => exact ⟨h.1, fun s' hs' => ih (h.2 s' hs')⟩

/-- A test of each step of a run. -/
def check (step : α → σ → Option σ) (p : σ → α → Bool) : List α → σ → Bool
  | [], _ => true
  | a :: actions, s => p s a && (step a s).all (check step p actions)

/-- A run whose steps pass a test meets the conditions that the test decides. -/
theorem meets_of_check {P : σ → Prop} {p : σ → α → Bool}
    (hp : ∀ s a, P s → p s a = true → allowed s a)
    (hstep : ∀ s a s', a ∈ actions → P s → step a s = some s' → P s') (hP : P s)
    (h : check step p actions s = true) : Meets step allowed actions s := by
  induction actions generalizing s with
  | nil => trivial
  | cons a actions ih =>
    obtain ⟨hfirst, hrest⟩ := Bool.and_eq_true_iff.mp h
    refine ⟨hp s a hP hfirst, fun s' hs' => ih (fun s a s' ha => ?_) ?_ ?_⟩
    · exact hstep s a s' (List.mem_cons_of_mem _ ha)
    · exact hstep s a s' List.mem_cons_self hP hs'
    · rwa [hs', Option.all_some] at hrest

/-! ## Costs -/

def cost (step : α → σ → Option σ) (price : σ → α → Nat) : List α → σ → Nat
  | [], _ => 0
  | a :: actions, s => price s a + (step a s).elim 0 (cost step price actions)

/-- A potential that pays for each step bounds the cost of a run. -/
theorem cost_le_of_potential (weight : α → Nat) (limit : Nat) {P : Nat → σ → Prop}
    {price : σ → α → Nat} {potential : σ → Nat}
    (hstep : ∀ n s a s', n + weight a < limit → P n s → step a s = some s' →
      P (n + weight a) s' ∧ price s a + potential s' ≤ potential s)
    {n : Nat} (hn : n + (actions.map weight).sum < limit) (hP : P n s)
    (h : run step actions s = some s') : cost step price actions s ≤ potential s := by
  induction actions generalizing s n with
  | nil => exact Nat.zero_le _
  | cons a actions ih =>
    obtain ⟨s₁, hfirst, hrest⟩ := run_cons_eq_some h
    rw [List.map_cons, List.sum_cons, ← Nat.add_assoc] at hn
    obtain ⟨hP₁, hpaid⟩ := hstep n s a s₁ (by omega) hP hfirst
    have hlater := ih hn hP₁ hrest
    show price s a + (step a s).elim 0 (cost step price actions) ≤ potential s
    rw [hfirst, Option.elim_some]
    omega

/-- A run that passes a test ends in a state that does. -/
theorem exists_of_run_any {p : σ → Bool} (h : (run step actions s).any p = true) :
    ∃ s', run step actions s = some s' ∧ p s' = true :=
  (Option.any_eq_true ..).mp h

end Transition
