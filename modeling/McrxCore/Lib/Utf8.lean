import Mathlib

/-!
# UTF-8 inside of UTF-8

Bytes between two texts make a text of the whole if and only if they are a text themselves.
A text is cut off in front because no encoded symbol is the start of another one, and at the
end because no symbol starts inside of another one.
-/

namespace Utf8

theorem isValidUTF8_utf8Encode_append {symbols : List Char} {bytes : ByteArray} :
    (symbols.utf8Encode ++ bytes).IsValidUTF8 ↔ bytes.IsValidUTF8 := by
  induction symbols with
  | nil => rw [List.utf8Encode_nil, ByteArray.empty_append]
  | cons c symbols ih =>
    rw [List.utf8Encode_cons, ByteArray.append_assoc,
      ByteArray.isValidUTF8_utf8Encode_singleton_append_iff]
    exact ih

/-- What stands in an encoded symbol behind its first byte starts no symbol. -/
theorem not_isUTF8FirstByte_of_append {c : Char} {front back : List UInt8} {byte : UInt8}
    (h : String.utf8EncodeChar c = front ++ byte :: back) (hfront : front ≠ []) :
    ¬ byte.IsUTF8FirstByte := by
  intro hfirst
  have hlength : front.length < (String.utf8EncodeChar c).length := by
    rw [h, List.length_append, List.length_cons]
    omega
  have hbyte : (String.utf8EncodeChar c)[front.length] = byte := by
    simp only [h, List.getElem_append_right (Nat.le_refl _), Nat.sub_self, List.getElem_cons_zero]
  have hzero := UInt8.isUTF8FirstByte_getElem_utf8EncodeChar.mp (hbyte ▸ hfirst)
  exact hfront (List.length_eq_zero_iff.mp hzero)

theorem utf8EncodeChar_eq_cons (c : Char) :
    ∃ byte back, String.utf8EncodeChar c = byte :: back ∧ byte.IsUTF8FirstByte := by
  have hpos : 0 < (String.utf8EncodeChar c).length := by
    rw [String.length_utf8EncodeChar]
    exact c.utf8Size_pos
  cases hbytes : String.utf8EncodeChar c with
  | nil =>
    rw [hbytes] at hpos
    cases hpos
  | cons byte back =>
    have hbyte : (String.utf8EncodeChar c)[0] = byte := by
      simp only [hbytes, List.getElem_cons_zero]
    exact ⟨byte, back, rfl, hbyte ▸ UInt8.isUTF8FirstByte_getElem_zero_utf8EncodeChar⟩

/-- What stands before a symbol of a text is a text, by induction on the whole. -/
theorem exists_flatMap_of_append {whole : List Char} {bytes : List UInt8} {c : Char}
    {behind : List UInt8}
    (h : whole.flatMap String.utf8EncodeChar = bytes ++ (String.utf8EncodeChar c ++ behind)) :
    ∃ front : List Char, front.flatMap String.utf8EncodeChar = bytes := by
  obtain ⟨byte, back, hc, hfirst⟩ := utf8EncodeChar_eq_cons c
  induction whole generalizing bytes with
  | nil =>
    rw [hc] at h
    have hnil : [] = bytes ++ (byte :: back ++ behind) := h
    simp at hnil
  | cons d whole ih =>
    rw [List.flatMap_cons, List.append_eq_append_iff] at h
    rcases h with ⟨rest, hbytes, hrest⟩ | ⟨rest, hd, hrest⟩
    · obtain ⟨front, hfront⟩ := ih hrest
      exact ⟨d :: front, by rw [List.flatMap_cons, hfront, hbytes]⟩
    · cases rest with
      | nil => exact ⟨[d], by rw [List.flatMap_singleton, hd, List.append_nil]⟩
      | cons other rest =>
        -- The symbol behind the bytes would start inside of this one.
        rw [hc] at hrest
        obtain rfl : byte = other := (List.cons.inj hrest).1
        cases bytes with
        | nil => exact ⟨[], rfl⟩
        | cons first bytes =>
          exact absurd hfirst (not_isUTF8FirstByte_of_append hd (List.cons_ne_nil _ _))

theorem isValidUTF8_append_utf8Encode {bytes : ByteArray} {symbols : List Char}
    (hne : symbols ≠ []) : (bytes ++ symbols.utf8Encode).IsValidUTF8 ↔ bytes.IsValidUTF8 := by
  constructor
  · rintro ⟨whole, hwhole⟩
    obtain ⟨c, behind, rfl⟩ := List.exists_cons_of_ne_nil hne
    have hlist := congrArg (fun b : ByteArray => b.data.toList) hwhole
    simp only [List.utf8Encode, ByteArray.toList_data_append, List.toList_data_toByteArray,
      List.flatMap_cons] at hlist
    obtain ⟨front, hfront⟩ := exists_flatMap_of_append hlist.symm
    refine ⟨front, ?_⟩
    apply ByteArray.ext
    apply Array.toList_inj.mp
    rw [List.utf8Encode, List.toList_data_toByteArray, hfront]
  · intro h
    exact h.append ByteArray.isValidUTF8_utf8Encode

/-- The bytes between two texts. -/
theorem isValidUTF8_between {before after : List Char} {bytes : ByteArray} (hne : after ≠ []) :
    (before.utf8Encode ++ (bytes ++ after.utf8Encode)).IsValidUTF8 ↔ bytes.IsValidUTF8 := by
  rw [isValidUTF8_utf8Encode_append, isValidUTF8_append_utf8Encode hne]

end Utf8
