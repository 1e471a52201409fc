import Mathlib

/-!
# Handles that are acquired and released

The journal of a table of handles.  It is disciplined if nothing is acquired that is held and
nothing is released that is not.
-/

namespace Handles

inductive Op (α : Type*) where
  | acquire (handle : α)
  | release (handle : α)
  deriving DecidableEq, Repr

variable {α : Type*} [DecidableEq α]

def after (held : List α) : Op α → List α
  | .acquire handle => handle :: held
  | .release handle => held.erase handle

def held (ops : List (Op α)) : List α := ops.foldl after []

def Fits (held : List α) : Op α → Prop
  | .acquire handle => handle ∉ held
  | .release handle => handle ∈ held

/-- Every operation fits what those before it leave held. -/
def Disciplined (ops : List (Op α)) : Prop :=
  ∀ before op, before ++ [op] <+: ops → Fits (held before) op

variable {ops : List (Op α)} {op : Op α}

@[simp]
theorem held_nil : held ([] : List (Op α)) = [] := rfl

@[simp]
theorem held_append_singleton (ops : List (Op α)) (op : Op α) :
    held (ops ++ [op]) = after (held ops) op := by
  rw [held, List.foldl_append]
  rfl

theorem disciplined_nil : Disciplined ([] : List (Op α)) := by
  intro before op h
  exact absurd (List.prefix_nil.mp h) (List.append_ne_nil_of_right_ne_nil _ (List.cons_ne_nil _ _))

theorem Disciplined.append (h : Disciplined ops) (hfits : Fits (held ops) op) :
    Disciplined (ops ++ [op]) := by
  intro before op' hpre
  rcases List.prefix_concat_iff.mp hpre with heq | hpre
  · obtain ⟨rfl, hop⟩ := List.append_inj' heq rfl
    obtain rfl := List.singleton_inj.mp hop
    exact hfits
  · exact h before op' hpre

theorem Disciplined.init (h : Disciplined (ops ++ [op])) : Disciplined ops :=
  fun before op' hpre => h before op' (hpre.trans (List.prefix_append _ _))

theorem Disciplined.last (h : Disciplined (ops ++ [op])) : Fits (held ops) op :=
  h ops op (List.prefix_refl _)

/-- A handle is never held twice. -/
theorem Disciplined.nodup_held (h : Disciplined ops) : (held ops).Nodup := by
  induction ops using List.reverseRecOn with
  | nil => exact List.nodup_nil
  | append_singleton ops op ih =>
    rw [held_append_singleton]
    cases op with
    | acquire handle => exact List.nodup_cons.mpr ⟨h.last, ih h.init⟩
    | release handle => exact (ih h.init).erase handle

theorem mem_held_acquire (ops : List (Op α)) (handle a : α) :
    a ∈ held (ops ++ [.acquire handle]) ↔ a = handle ∨ a ∈ held ops := by
  rw [held_append_singleton]
  exact List.mem_cons

theorem Disciplined.mem_held_release (h : Disciplined ops) (handle a : α) :
    a ∈ held (ops ++ [.release handle]) ↔ a ≠ handle ∧ a ∈ held ops := by
  rw [held_append_singleton]
  exact h.nodup_held.mem_erase_iff

/-- Every acquired handle is released once, or held. -/
theorem Disciplined.count_acquire (h : Disciplined ops) (a : α) :
    ops.count (.acquire a) = ops.count (.release a) + if a ∈ held ops then 1 else 0 := by
  induction ops using List.reverseRecOn with
  | nil => rfl
  | append_singleton ops op ih =>
    rw [List.count_append, List.count_append, ih h.init]
    cases op with
    | acquire handle =>
      have hfree : handle ∉ held ops := h.last
      by_cases heq : a = handle
      · subst heq
        simp [after, hfree]
      · have hne : handle ≠ a := fun h => heq h.symm
        simp [after, heq, hne]
    | release handle =>
      have hheld : handle ∈ held ops := h.last
      by_cases heq : a = handle
      · subst heq
        simp [after, hheld, h.init.nodup_held.mem_erase_iff]
      · have hne : handle ≠ a := fun h => heq h.symm
        simp [after, heq, hne, h.init.nodup_held.mem_erase_iff]

end Handles
