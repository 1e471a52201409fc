import Mathlib

/-!
# Big-endian numbers

Network byte order as arithmetic on the byte values.
-/

namespace BigEndian

def be16 (a b : UInt8) : Nat := a.toNat * 256 + b.toNat

def be32 (a b c d : UInt8) : Nat :=
  ((a.toNat * 256 + b.toNat) * 256 + c.toNat) * 256 + d.toNat

theorem be16_lt (a b : UInt8) : be16 a b < 65536 := by
  have ha := a.toNat_lt
  have hb := b.toNat_lt
  unfold be16
  omega

theorem be32_lt (a b c d : UInt8) : be32 a b c d < 2 ^ 32 := by
  have ha := a.toNat_lt
  have hb := b.toNat_lt
  have hc := c.toNat_lt
  have hd := d.toNat_lt
  unfold be32
  omega

theorem be32_inj {a b c d a' b' c' d' : UInt8} (h : be32 a b c d = be32 a' b' c' d') :
    a = a' ∧ b = b' ∧ c = c' ∧ d = d' := by
  have ha := a.toNat_lt
  have hb := b.toNat_lt
  have hc := c.toNat_lt
  have hd := d.toNat_lt
  have ha' := a'.toNat_lt
  have hb' := b'.toNat_lt
  have hc' := c'.toNat_lt
  have hd' := d'.toNat_lt
  unfold be32 at h
  simp only [← UInt8.toNat_inj]
  omega

def bytes16 (n : UInt16) : List UInt8 := [(n >>> 8).toUInt8, n.toUInt8]

theorem be16_bytes16 (n : UInt16) : be16 (n >>> 8).toUInt8 n.toUInt8 = n.toNat := by
  have hn := n.toNat_lt
  rw [be16, UInt16.toNat_toUInt8, UInt16.toNat_toUInt8, UInt16.toNat_shiftRight]
  show n.toNat >>> 8 % 256 * 256 + n.toNat % 256 = n.toNat
  rw [Nat.shiftRight_eq_div_pow]
  omega

def bytes32 (n : UInt32) : List UInt8 :=
  [(n >>> 24).toUInt8, (n >>> 16).toUInt8, (n >>> 8).toUInt8, n.toUInt8]

theorem be32_bytes32 (n : UInt32) :
    be32 (n >>> 24).toUInt8 (n >>> 16).toUInt8 (n >>> 8).toUInt8 n.toUInt8 = n.toNat := by
  have hn := n.toNat_lt
  simp only [be32, UInt32.toNat_toUInt8, UInt32.toNat_shiftRight]
  show ((n.toNat >>> 24 % 256 * 256 + n.toNat >>> 16 % 256) * 256 + n.toNat >>> 8 % 256) * 256 +
    n.toNat % 256 = n.toNat
  simp only [Nat.shiftRight_eq_div_pow]
  omega

/-! ## Nibbles -/

/-- A statement about a byte is checked at its 256 values. -/
theorem forall_byte {P : UInt8 → Prop} (h : ∀ n : Fin 256, P (UInt8.ofNat n.val)) (b : UInt8) :
    P b := by
  have hb := h ⟨b.toNat, b.toNat_lt⟩
  rwa [UInt8.ofNat_toNat] at hb

/-- Masking with `0xf0` keeps the high nibble in place. -/
theorem and_f0 (b : UInt8) : b.toNat &&& 0xf0 = 16 * (b >>> (4 : UInt8)).toNat := by
  revert b
  apply forall_byte
  decide +kernel

end BigEndian
