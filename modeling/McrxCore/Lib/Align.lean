import Mathlib

/-!
# Alignment

Rounding up to a power of two with a mask on a machine word, `(value + align - 1) &
!(align - 1)`, as arithmetic.
-/

namespace Align

/-- `!mask` on a word of `w` bits. -/
def notWord (w mask : Nat) : Nat := 2 ^ w - 1 - mask

/-- The least multiple of `alignment` that is not below `value`. -/
def alignUp (alignment value : Nat) : Nat := (value + (alignment - 1)) / alignment * alignment

variable {w k alignment value : Nat}

theorem testBit_notWord (hk : k ≤ w) (i : Nat) :
    (notWord w (2 ^ k - 1)).testBit i = (decide (i < w) && !decide (i < k)) := by
  have hmask : 2 ^ k - 1 < 2 ^ w := by
    have hpow : 2 ^ k ≤ 2 ^ w := Nat.pow_le_pow_right (by decide) hk
    have hpos := Nat.two_pow_pos k
    omega
  rw [notWord, Nat.sub_sub, Nat.add_comm 1, Nat.testBit_two_pow_sub_succ hmask,
    Nat.testBit_two_pow_sub_one]

/-- The mask clears the low bits. -/
theorem land_notWord (hk : k ≤ w) (h : value < 2 ^ w) :
    value &&& notWord w (2 ^ k - 1) = value / 2 ^ k * 2 ^ k := by
  refine Nat.eq_of_testBit_eq fun i => ?_
  rw [← Nat.shiftLeft_eq, Nat.testBit_shiftLeft, Nat.testBit_div_two_pow, Nat.testBit_and,
    testBit_notWord hk]
  by_cases hlow : k ≤ i
  · rw [Nat.sub_add_cancel hlow, decide_eq_true hlow, decide_eq_false (Nat.not_lt.mpr hlow)]
    by_cases hhigh : i < w
    · simp [hhigh]
    · have hpow : 2 ^ w ≤ 2 ^ i := Nat.pow_le_pow_right (by decide) (Nat.le_of_not_lt hhigh)
      rw [Nat.testBit_lt_two_pow (Nat.lt_of_lt_of_le h hpow)]
      rfl
  · simp [hlow, Nat.lt_of_not_le hlow]

/-- The masked sum rounds up, where it does not overflow. -/
theorem land_notWord_eq_alignUp (hk : k ≤ w) (h : value + (2 ^ k - 1) < 2 ^ w) :
    (value + (2 ^ k - 1)) &&& notWord w (2 ^ k - 1) = alignUp (2 ^ k) value :=
  land_notWord hk h

theorem le_alignUp (h : 0 < alignment) : value ≤ alignUp alignment value := by
  have hdiv := Nat.div_add_mod (value + (alignment - 1)) alignment
  have hmod := Nat.mod_lt (value + (alignment - 1)) h
  rw [alignUp, Nat.mul_comm]
  omega

theorem alignUp_le : alignUp alignment value ≤ value + (alignment - 1) :=
  Nat.div_mul_le_self _ _

end Align
