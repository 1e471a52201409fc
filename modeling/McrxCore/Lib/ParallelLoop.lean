import McrxCore.Lib.ReadLoop
import McrxCore.Lib.Transition

/-!
# A loop that callers run in parallel

Any number of callers run one loop without a lock.  A turn is two steps, a read and what the
caller makes of its answer, and others may take theirs in between, so that the caller that
read first may return last.  What the reads bring in is in the results, or with the callers
that still hold an answer.
-/

namespace ParallelLoop

variable {κ ρ β π : Type*}

structure Loop (κ ρ β : Type*) where
  enter : κ
  turn : κ → ρ → ReadLoop.Turn κ β

/-- A read with its caller and the state in which the caller made it. -/
structure Read (κ ρ : Type*) where
  caller : Nat
  own : κ
  answer : ρ

/-- The callers that are about to read, the reads that their callers still hold, all reads,
and the results, each with its caller. -/
structure Calls (κ ρ β : Type*) where
  running : Nat → Option κ
  holding : List (Read κ ρ)
  reads : List (Read κ ρ)
  results : List (Nat × β)

inductive Action (ρ : Type*) where
  | enter (caller : Nat)
  | read (caller : Nat) (answer : ρ)
  | finish (caller : Nat)
  deriving DecidableEq, Repr

def Action.caller : Action ρ → Nat
  | .enter caller => caller
  | .read caller _ => caller
  | .finish caller => caller

def start : Calls κ ρ β where
  running := fun _ => none
  holding := []
  reads := []
  results := []

def Read.entry (read : Read κ ρ) : κ × ρ := (read.own, read.answer)

def Read.isOf (caller : Nat) (read : Read κ ρ) : Bool := read.caller == caller

variable (loop : Loop κ ρ β)

/-- A caller has one call at a time. -/
def enter (caller : Nat) (s : Calls κ ρ β) : Option (Calls κ ρ β) :=
  if (s.running caller).isSome || s.holding.any (Read.isOf caller) then none
  else some { s with running := Function.update s.running caller (some loop.enter) }

def read (caller : Nat) (answer : ρ) (s : Calls κ ρ β) : Option (Calls κ ρ β) :=
  match s.running caller with
  | none => none
  | some own =>
    let read : Read κ ρ := { caller := caller, own := own, answer := answer }
    some
      { s with
        running := Function.update s.running caller none
        holding := s.holding ++ [read]
        reads := s.reads ++ [read] }

def finish (caller : Nat) (s : Calls κ ρ β) : Option (Calls κ ρ β) :=
  match s.holding.find? (Read.isOf caller) with
  | none => none
  | some read =>
    let holding := s.holding.eraseP (Read.isOf caller)
    match loop.turn read.own read.answer with
    | .next own =>
      some
        { s with
          running := Function.update s.running caller (some own)
          holding := holding }
    | .leave result =>
      some { s with holding := holding, results := s.results ++ [(caller, result)] }

def step : Action ρ → Calls κ ρ β → Option (Calls κ ρ β)
  | .enter caller, s => enter loop caller s
  | .read caller answer, s => read caller answer s
  | .finish caller, s => finish loop caller s

section Steps

variable {loop} {s s' : Calls κ ρ β} {caller : Nat}

theorem enter_eq (h : enter loop caller s = some s') :
    s'.reads = s.reads ∧ s'.holding = s.holding ∧ s'.results = s.results := by
  unfold enter at h
  split at h
  · cases h
  · cases h
    exact ⟨rfl, rfl, rfl⟩

theorem read_eq {answer : ρ} (h : read caller answer s = some s') :
    ∃ own, s'.reads = s.reads ++ [⟨caller, own, answer⟩] ∧
      s'.holding = s.holding ++ [⟨caller, own, answer⟩] ∧ s'.results = s.results := by
  unfold read at h
  split at h
  · cases h
  · next own _ =>
    cases h
    exact ⟨own, rfl, rfl, rfl⟩

theorem finish_eq (h : finish loop caller s = some s') :
    s'.reads = s.reads ∧ s'.holding = s.holding.eraseP (Read.isOf caller) ∧
      ∃ added, s'.results = s.results ++ added ∧ ∀ result ∈ added, result.1 = caller := by
  unfold finish at h
  split at h
  · cases h
  · dsimp only at h
    split at h
    · cases h
      exact ⟨rfl, rfl, [], (List.append_nil _).symm, List.forall_mem_nil _⟩
    · next result _ =>
      cases h
      refine ⟨rfl, rfl, [(caller, result)], rfl, fun added hadded => ?_⟩
      rw [List.mem_singleton.mp hadded]

/-- No caller but this one took a step. -/
structure Alone (caller : Nat) (s : Calls κ ρ β) : Prop where
  reads : ∀ read ∈ s.reads, read.caller = caller
  holding : ∀ read ∈ s.holding, read.caller = caller
  results : ∀ result ∈ s.results, result.1 = caller

theorem alone_start : Alone caller (start : Calls κ ρ β) :=
  ⟨List.forall_mem_nil _, List.forall_mem_nil _, List.forall_mem_nil _⟩

theorem Alone.enter (h : Alone caller s) (hstep : ParallelLoop.enter loop caller s = some s') :
    Alone caller s' := by
  obtain ⟨hreads, hholding, hresults⟩ := enter_eq hstep
  exact ⟨hreads ▸ h.reads, hholding ▸ h.holding, hresults ▸ h.results⟩

theorem Alone.read (h : Alone caller s) {answer : ρ}
    (hstep : ParallelLoop.read caller answer s = some s') : Alone caller s' := by
  obtain ⟨own, hreads, hholding, hresults⟩ := read_eq hstep
  refine ⟨?_, ?_, hresults ▸ h.results⟩
  · rw [hreads]
    exact List.forall_mem_append.mpr ⟨h.reads, List.forall_mem_singleton.mpr rfl⟩
  · rw [hholding]
    exact List.forall_mem_append.mpr ⟨h.holding, List.forall_mem_singleton.mpr rfl⟩

theorem Alone.finish (h : Alone caller s) (hstep : ParallelLoop.finish loop caller s = some s') :
    Alone caller s' := by
  obtain ⟨hreads, hholding, added, hresults, hadded⟩ := finish_eq hstep
  refine ⟨hreads ▸ h.reads, ?_, ?_⟩
  · rw [hholding]
    exact fun read hread => h.holding read (List.mem_of_mem_eraseP hread)
  · rw [hresults]
    exact List.forall_mem_append.mpr ⟨h.results, hadded⟩

theorem Alone.step (h : Alone caller s) {action : Action ρ} (hcaller : action.caller = caller)
    (hstep : ParallelLoop.step loop action s = some s') : Alone caller s' := by
  subst hcaller
  cases action with
  | enter caller => exact h.enter hstep
  | read caller answer => exact h.read hstep
  | finish caller => exact h.finish hstep

end Steps

/-! ## Accounts -/

/-- What a read brings in, and what a result carries out. -/
structure Account (κ ρ β π : Type*) where
  income : κ → ρ → List π
  outgo : β → List π

namespace Account

variable (account : Account κ ρ β π)

def received (reads : List (Read κ ρ)) : List π :=
  reads.flatMap fun read => account.income read.own read.answer

def returned (results : List (Nat × β)) : List π :=
  results.flatMap fun result => account.outgo result.2

def carried : ReadLoop.Turn κ β → List π
  | .next _ => []
  | .leave result => account.outgo result

def Balances (loop : Loop κ ρ β) : Prop :=
  ∀ own answer, account.carried (loop.turn own answer) = account.income own answer

/-- The books after some steps: those of each caller, in order, and those of all. -/
structure Books (s : Calls κ ρ β) : Prop where
  inOrder : ∀ caller, account.received (s.reads.filter (Read.isOf caller)) =
    account.returned (s.results.filter fun result => result.1 == caller) ++
      account.received (s.holding.filter (Read.isOf caller))
  eachOnce : (account.received s.reads).Perm
    (account.returned s.results ++ account.received s.holding)

variable {account} {loop : Loop κ ρ β} {s s' : Calls κ ρ β}

theorem received_append (first second : List (Read κ ρ)) :
    account.received (first ++ second) = account.received first ++ account.received second :=
  List.flatMap_append

theorem returned_append (first second : List (Nat × β)) :
    account.returned (first ++ second) = account.returned first ++ account.returned second :=
  List.flatMap_append

theorem books_start : account.Books (start : Calls κ ρ β) := ⟨fun _ => rfl, .nil⟩

theorem Books.enter (h : account.Books s) {caller : Nat}
    (hstep : ParallelLoop.enter loop caller s = some s') : account.Books s' := by
  obtain ⟨hreads, hholding, hresults⟩ := enter_eq hstep
  refine ⟨?_, ?_⟩
  · rw [hreads, hholding, hresults]
    exact h.inOrder
  · rw [hreads, hholding, hresults]
    exact h.eachOnce

/-- A read is held by its caller. -/
theorem Books.read (h : account.Books s) {caller : Nat} {answer : ρ}
    (hstep : ParallelLoop.read caller answer s = some s') : account.Books s' := by
  obtain ⟨own, hreads, hholding, hresults⟩ := read_eq hstep
  refine ⟨fun other => ?_, ?_⟩
  · rw [hreads, hholding, hresults, List.filter_append, List.filter_append, received_append,
      received_append, h.inOrder, List.append_assoc]
  · rw [hreads, hholding, hresults, received_append, received_append, ← List.append_assoc]
    exact h.eachOnce.append_right _

/-- The read that a caller finishes, and what the others hold. -/
theorem find?_split {reads : List (Read κ ρ)} {caller : Nat} {read : Read κ ρ}
    (h : reads.find? (Read.isOf caller) = some read) :
    ∃ before behind, reads = before ++ read :: behind ∧
      reads.eraseP (Read.isOf caller) = before ++ behind ∧ read.caller = caller ∧
      before.filter (Read.isOf caller) = [] := by
  obtain ⟨hread, before, behind, rfl, hbefore⟩ := List.find?_eq_some_iff_append.mp h
  have hothers : ∀ other ∈ before, ¬ Read.isOf caller other = true := by
    intro other hother
    have hnot := hbefore other hother
    rw [Bool.not_eq_true'] at hnot
    rw [hnot]
    exact Bool.false_ne_true
  refine ⟨before, behind, rfl, ?_, beq_iff_eq.mp hread, List.filter_eq_nil_iff.mpr hothers⟩
  rw [List.eraseP_append_right _ hothers, List.eraseP_cons_of_pos hread]

/-- A caller gives up the read that it holds for results that carry out as much. -/
theorem Books.release (h : account.Books s) {before behind : List (Read κ ρ)} {read : Read κ ρ}
    (hholding : s.holding = before ++ read :: behind)
    (hbefore : before.filter (Read.isOf read.caller) = []) {added : List (Nat × β)}
    (hcaller : ∀ result ∈ added, result.1 = read.caller)
    (hadded : account.returned added = account.income read.own read.answer)
    (hreads : s'.reads = s.reads) (hresults : s'.results = s.results ++ added)
    (hholding' : s'.holding = before ++ behind) : account.Books s' := by
  have hread : ∀ rest, account.received (read :: rest) =
      account.returned added ++ account.received rest := by
    intro rest
    rw [received, List.flatMap_cons, ← hadded]
    rfl
  refine ⟨fun other => ?_, ?_⟩
  · have hinOrder := h.inOrder other
    rw [hholding, List.filter_append] at hinOrder
    rw [hreads, hresults, hholding', List.filter_append, List.filter_append, returned_append,
      hinOrder]
    by_cases hother : read.caller = other
    · subst hother
      have hall : added.filter (fun result => result.1 == read.caller) = added := by
        apply List.filter_eq_self.mpr
        intro result hresult
        exact beq_iff_eq.mpr (hcaller result hresult)
      have hkept : Read.isOf read.caller read = true := beq_self_eq_true read.caller
      rw [hall, hbefore, List.nil_append, List.nil_append, List.append_assoc,
        List.filter_cons_of_pos hkept, hread]
    · have hnone : added.filter (fun result => result.1 == other) = [] := by
        apply List.filter_eq_nil_iff.mpr
        intro result hresult hsame
        exact hother ((hcaller result hresult).symm.trans (beq_iff_eq.mp hsame))
      have hskip : ¬ Read.isOf other read = true := by
        intro hsame
        exact hother (beq_iff_eq.mp hsame)
      rw [hnone, List.filter_cons_of_neg hskip]
      show _ = _ ++ [] ++ _
      rw [List.append_nil]
  · have heachOnce := h.eachOnce
    rw [hholding, received_append, hread] at heachOnce
    rw [hreads, hresults, hholding', returned_append, received_append, List.append_assoc]
    apply heachOnce.trans
    apply List.Perm.append_left
    exact List.perm_append_comm_assoc _ _ _

/-- A turn that leaves carries out its read, and one that goes on had nothing to. -/
theorem Books.finish (hbalances : account.Balances loop) (h : account.Books s) {caller : Nat}
    (hstep : ParallelLoop.finish loop caller s = some s') : account.Books s' := by
  unfold ParallelLoop.finish at hstep
  split at hstep
  · cases hstep
  · next read hfind =>
    obtain ⟨before, behind, hholding, herase, rfl, hbefore⟩ := find?_split hfind
    have hcarried := hbalances read.own read.answer
    simp only [herase] at hstep
    cases hturn : loop.turn read.own read.answer with
    | next own =>
      rw [hturn] at hstep hcarried
      cases hstep
      refine h.release hholding hbefore (List.forall_mem_nil _) hcarried ?_ ?_ ?_
      · rfl
      · exact (List.append_nil _).symm
      · rfl
    | leave result =>
      rw [hturn] at hstep hcarried
      cases hstep
      have hcaller : ∀ added ∈ [(read.caller, result)], added.1 = read.caller := by
        intro added hmem
        rw [List.mem_singleton.mp hmem]
      have hadded : account.returned [(read.caller, result)] =
          account.income read.own read.answer := by
        rw [returned, List.flatMap_singleton]
        exact hcarried
      exact h.release hholding hbefore hcaller hadded rfl rfl rfl

/-- The books of a caller that is alone are those of all. -/
theorem Books.alone (h : account.Books s) {caller : Nat} (halone : Alone caller s) :
    account.received s.reads = account.returned s.results ++ account.received s.holding := by
  have hinOrder := h.inOrder caller
  have hreads : s.reads.filter (Read.isOf caller) = s.reads :=
    List.filter_eq_self.mpr fun read hread => beq_iff_eq.mpr (halone.reads read hread)
  have hholding : s.holding.filter (Read.isOf caller) = s.holding :=
    List.filter_eq_self.mpr fun read hread => beq_iff_eq.mpr (halone.holding read hread)
  have hresults : s.results.filter (fun result => result.1 == caller) = s.results :=
    List.filter_eq_self.mpr fun result hresult => beq_iff_eq.mpr (halone.results result hresult)
  rw [hreads, hholding, hresults] at hinOrder
  exact hinOrder

theorem Books.step (hbalances : account.Balances loop) (h : account.Books s) {action : Action ρ}
    (hstep : ParallelLoop.step loop action s = some s') : account.Books s' := by
  cases action with
  | enter caller => exact h.enter hstep
  | read caller answer => exact h.read hstep
  | finish caller => exact h.finish hbalances hstep

/-- However the steps of the callers fall, the books are kept. -/
theorem books_run (hbalances : account.Balances loop) {actions : List (Action ρ)}
    (h : Transition.run (ParallelLoop.step loop) actions start = some s) : account.Books s :=
  Transition.invariant (fun _ _ _ hs hstep => hs.step hbalances hstep) books_start h

end Account

end ParallelLoop
