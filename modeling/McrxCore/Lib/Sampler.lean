import McrxCore.Lib.Journal

/-!
# Samplers

A sampler keeps the last snapshot it was given as its baseline and answers a snapshot with
the difference to the baseline.  Where a difference is taken counter by counter, the
differences of a stretch of samples add up to the difference of its ends.
-/

namespace Sampler

variable {σ S D K T : Type*}

/-- The functions of a sampler with state `σ`, snapshots `S` and differences `D`. -/
structure Machine (σ S D : Type*) where
  new : σ
  sample : S → σ → Option D × σ
  reset : σ → σ

inductive Operation (S : Type*) where
  | sample (current : S)
  | reset

namespace Machine

variable (machine : Machine σ S D)

def step : Operation S → σ → Option D × σ
  | .sample current, s => machine.sample current s
  | .reset, s => (none, machine.reset s)

def after (past : List (Operation S)) : σ := Journal.final machine.step past machine.new

def answers (stretch : List S) (s : σ) : List (Option D) :=
  (Journal.calls machine.step (stretch.map .sample) s).map Journal.Call.response

end Machine

/-- A sampler that keeps its baseline in `previous` and takes differences by `delta`. -/
structure Keeps (machine : Machine σ S D) (previous : σ → Option S) (delta : S → S → Option D) :
    Prop where
  new : previous machine.new = none
  sample : ∀ current s, (machine.sample current s).1 = (previous s).bind (delta current)
  rebased : ∀ current s, previous (machine.sample current s).2 = some current
  reset : ∀ s, previous (machine.reset s) = none

/-- Differences are taken counter by counter: there is none when the time or a counter went
backwards. -/
structure Differences [LT T] (delta : S → S → Option D) (time : S → T) (counter : K → S → Nat)
    (amount : K → D → Nat) : Prop where
  none_iff : ∀ current previous, delta current previous = none ↔
    time current < time previous ∨ ∃ k, counter k current < counter k previous
  amount_add : ∀ current previous difference, delta current previous = some difference →
    ∀ k, amount k difference + counter k previous = counter k current

/-- Every snapshot becomes the baseline, a sample has no difference exactly when there is no
baseline or something went backwards, and the differences of a stretch telescope. -/
structure Telescopes [LT T] (machine : Machine σ S D) (previous : σ → Option S) (time : S → T)
    (counter : K → S → Nat) (amount : K → D → Nat) : Prop where
  none_iff : ∀ past current, (machine.sample current (machine.after past)).1 = none ↔
    past = [] ∨ past.getLast? = some .reset ∨ ∃ baseline,
      past.getLast? = some (.sample baseline) ∧
      (time current < time baseline ∨ ∃ k, counter k current < counter k baseline)
  rebased : ∀ past current, previous (machine.sample current (machine.after past)).2 = some current
  sums : ∀ past (stretch : List S) (differences : List D),
    machine.answers stretch (machine.after past) = differences.map some →
    ∀ last, stretch.getLast? = some last → ∃ first, past.getLast? = some (.sample first) ∧
      ∀ k, counter k first ≤ counter k last ∧
        (differences.map (amount k)).sum = counter k last - counter k first

/-! ## Baselines -/

/-- The snapshot that the last operation of a history left. -/
def baseline (past : List (Operation S)) : Option S :=
  past.getLast?.bind fun
    | .sample current => some current
    | .reset => none

theorem baseline_eq_some_iff {past : List (Operation S)} {first : S} :
    baseline past = some first ↔ past.getLast? = some (.sample first) := by
  rw [baseline]
  cases past.getLast? with
  | none => simp
  | some operation => cases operation <;> simp

theorem baseline_eq_none_iff {past : List (Operation S)} :
    baseline past = none ↔ past = [] ∨ past.getLast? = some .reset := by
  rw [baseline, ← List.getLast?_eq_none_iff]
  cases past.getLast? with
  | none => simp
  | some operation => cases operation <;> simp

namespace Keeps

variable {machine : Machine σ S D} {previous : σ → Option S} {delta : S → S → Option D}

theorem previous_after (h : Keeps machine previous delta) (past : List (Operation S)) :
    previous (machine.after past) = baseline past := by
  rcases List.eq_nil_or_concat past with rfl | ⟨earlier, operation, rfl⟩
  · exact h.new
  · rw [Machine.after, List.concat_eq_append, Journal.final_append, baseline,
      List.getLast?_concat]
    cases operation with
    | sample current => exact h.rebased current _
    | reset => exact h.reset _

section Sums

variable [LT T] {time : S → T} {counter : K → S → Nat} {amount : K → D → Nat}

/-- A stretch that starts from a baseline. -/
theorem sum_answers (h : Keeps machine previous delta)
    (hdelta : Differences delta time counter amount) {stretch : List S} {differences : List D}
    {s : σ} {first : S} (hs : previous s = some first)
    (hanswers : machine.answers stretch s = differences.map some) (k : K) :
    (differences.map (amount k)).sum + counter k first =
      counter k ((first :: stretch).getLast (List.cons_ne_nil _ _)) := by
  induction stretch generalizing s first differences with
  | nil =>
    obtain rfl : differences = [] := List.map_eq_nil_iff.mp hanswers.symm
    exact Nat.zero_add _
  | cons current stretch ih =>
    cases differences with
    | nil => cases hanswers
    | cons difference differences =>
      obtain ⟨hfirst, hrest⟩ := List.cons.inj hanswers
      have hdifference : (machine.sample current s).1 = some difference := hfirst
      rw [h.sample, hs, Option.bind_some] at hdifference
      have hadd := hdelta.amount_add _ _ _ hdifference k
      have hsum := ih (h.rebased current s) hrest
      rw [List.getLast_cons (List.cons_ne_nil _ _), ← hsum, List.map_cons, List.sum_cons]
      omega

/-- A stretch whose first sample has a difference starts from a baseline. -/
theorem previous_of_answers (h : Keeps machine previous delta) {stretch : List S}
    {differences : List D} {s : σ} (hstretch : stretch ≠ [])
    (hanswers : machine.answers stretch s = differences.map some) :
    ∃ first, previous s = some first := by
  obtain ⟨current, rest, rfl⟩ := List.exists_cons_of_ne_nil hstretch
  cases differences with
  | nil => cases hanswers
  | cons difference differences =>
    have hfirst : (machine.sample current s).1 = some difference := (List.cons.inj hanswers).1
    rw [h.sample] at hfirst
    obtain ⟨first, hprevious, -⟩ := Option.bind_eq_some_iff.mp hfirst
    exact ⟨first, hprevious⟩

theorem telescopes (h : Keeps machine previous delta)
    (hdelta : Differences delta time counter amount) :
    Telescopes machine previous time counter amount where
  none_iff := by
    intro past current
    rw [h.sample, h.previous_after]
    cases hbaseline : baseline past with
    | none =>
      have hnone := baseline_eq_none_iff.mp hbaseline
      refine iff_of_true rfl ?_
      rcases hnone with hnil | hreset
      · exact .inl hnil
      · exact .inr (.inl hreset)
    | some first =>
      have hlast := baseline_eq_some_iff.mp hbaseline
      have hne : past ≠ [] := by
        rintro rfl
        cases hlast
      rw [Option.bind_some, hdelta.none_iff]
      simp [hlast, hne]
  rebased := fun past current => h.rebased current _
  sums := by
    intro past stretch differences hanswers last hlast
    have hne : stretch ≠ [] := by
      rintro rfl
      cases hlast
    obtain ⟨first, hfirst⟩ := h.previous_of_answers hne hanswers
    refine ⟨first, baseline_eq_some_iff.mp ((h.previous_after past).symm.trans hfirst), ?_⟩
    intro k
    have hsum := h.sum_answers hdelta hfirst hanswers k
    rw [List.getLast_cons hne, List.getLast_of_getLast?_eq_some hlast] at hsum
    omega

end Sums

end Keeps

end Sampler
