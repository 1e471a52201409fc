import Mathlib

/-!
# Argument lists with flags

Each flag takes the argument after it as its value, whatever that looks like.  What is left
is positional.  A flag may be given more than once, and the last value counts.
-/

namespace ArgList

variable {α β : Type*} (isFlag : α → Bool)

def positionals : List α → List α
  | [] => []
  | arg :: rest =>
    if isFlag arg then
      match rest with
      | [] => []
      | _ :: rest => positionals rest
    else arg :: positionals rest

def flagged : List α → List (α × α)
  | [] => []
  | arg :: rest =>
    if isFlag arg then
      match rest with
      | [] => []
      | value :: rest => (arg, value) :: flagged rest
    else flagged rest

variable {isFlag} {arg : α} {rest : List α}

theorem positionals_cons_of_flag (h : isFlag arg = true) (value : α) (rest : List α) :
    positionals isFlag (arg :: value :: rest) = positionals isFlag rest := by
  rw [positionals, if_pos h]

theorem positionals_cons_of_not_flag (h : isFlag arg = false) :
    positionals isFlag (arg :: rest) = arg :: positionals isFlag rest := by
  cases rest with
  | nil => simp [positionals, h]
  | cons value rest => simp [positionals, h]

theorem flagged_cons_of_flag (h : isFlag arg = true) (value : α) (rest : List α) :
    flagged isFlag (arg :: value :: rest) = (arg, value) :: flagged isFlag rest := by
  rw [flagged, if_pos h]

theorem flagged_cons_of_not_flag (h : isFlag arg = false) :
    flagged isFlag (arg :: rest) = flagged isFlag rest := by
  cases rest with
  | nil => simp [flagged, h]
  | cons value rest => simp [flagged, h]

/-- Without flags every argument is positional. -/
theorem positionals_eq_self {args : List α} (h : ∀ arg ∈ args, isFlag arg = false) :
    positionals isFlag args = args := by
  induction args with
  | nil => rfl
  | cons arg rest ih =>
    rw [positionals_cons_of_not_flag (h arg List.mem_cons_self),
      ih fun arg hmem => h arg (List.mem_cons_of_mem _ hmem)]

theorem flagged_eq_nil {args : List α} (h : ∀ arg ∈ args, isFlag arg = false) :
    flagged isFlag args = [] := by
  induction args with
  | nil => rfl
  | cons arg rest ih =>
    rw [flagged_cons_of_not_flag (h arg List.mem_cons_self),
      ih fun arg hmem => h arg (List.mem_cons_of_mem _ hmem)]

def pairs : List α → List (α × α)
  | flag :: value :: rest => (flag, value) :: pairs rest
  | _ => []

section Values

variable [DecidableEq α]

def values (flag : α) (given : List (α × α)) : List α :=
  (given.filter fun pair => pair.1 = flag).map Prod.snd

/-- The value of a flag that counts. -/
def lastValue (flag : α) (given : List (α × α)) : Option α := (values flag given).getLast?

/-- What the first value sets, a later one replaces. -/
theorem lastValue_elim_cons_self (flag value : α) (given : List (α × α)) (initial : β)
    (set : α → β) :
    (lastValue flag ((flag, value) :: given)).elim initial set =
      (lastValue flag given).elim (set value) set := by
  have hvalues : values flag ((flag, value) :: given) = value :: values flag given := by
    simp [values]
  rw [lastValue, hvalues, List.getLast?_cons, lastValue]
  cases (values flag given).getLast? with
  | none => rfl
  | some last => rfl

theorem lastValue_cons_of_ne {flag flag' : α} (h : flag' ≠ flag) (value : α)
    (given : List (α × α)) :
    lastValue flag ((flag', value) :: given) = lastValue flag given := by
  rw [lastValue, lastValue, values, values, List.filter_cons_of_neg (by simpa using h)]

end Values

end ArgList
