import McrxCore.AddrText

/-!
# Reading back a displayed address

`FromStr` takes the text that `Display` writes, and gives back the address it was written
from.  Both readers are greedy, so each lemma says what may stand behind the text it takes.
-/

namespace McrxCore

/-! ## Digits -/

/-- A text that goes on with no digit of the radix. -/
def EndsDigits (radix : Nat) (rest : List Char) : Prop :=
  ∀ c, rest.head? = some c → toDigit radix c = none

theorem endsDigits_nil (radix : Nat) : EndsDigits radix [] := by
  intro c h
  cases h

theorem endsDigits_cons {radix : Nat} {c : Char} (h : toDigit radix c = none)
    (rest : List Char) : EndsDigits radix (c :: rest) := by
  intro c' hhead
  cases hhead
  exact h

theorem toDigit_digitChar {radix digit : Nat} (hradix : radix ≤ 16) (h : digit < radix) :
    toDigit radix digit.digitChar = some digit := by
  have hall : ∀ radix ≤ 16, ∀ digit < radix, toDigit radix digit.digitChar = some digit := by
    decide
  exact hall radix hradix digit h

section Digits

variable {radix : Nat} (hone : 1 < radix) (hradix : radix ≤ 16)

include hone hradix

theorem isSome_toDigit_of_mem {n : Nat} {c : Char} (h : c ∈ Nat.toDigits radix n) :
    (toDigit radix c).isSome = true := by
  induction n using Nat.strong_induction_on with
  | _ n ih =>
    rw [Nat.toDigits_eq_if hone] at h
    by_cases hlt : n < radix
    · rw [if_pos hlt, List.mem_singleton] at h
      rw [h, toDigit_digitChar hradix hlt]
      rfl
    · rw [if_neg hlt, List.mem_append, List.mem_singleton] at h
      rcases h with h | h
      · exact ih (n / radix) (Nat.div_lt_self (by omega) hone) h
      · rw [h, toDigit_digitChar hradix (Nat.mod_lt _ (by omega))]
        rfl

theorem not_mem_toDigits {c : Char} (h : toDigit radix c = none) (n : Nat) :
    c ∉ Nat.toDigits radix n := fun hmem => by
  have hdigit := isSome_toDigit_of_mem hone hradix hmem
  rw [h] at hdigit
  cases hdigit

/-- The digits of a number count up to it. -/
theorem foldl_toDigits (n : Nat) :
    (Nat.toDigits radix n).foldl (fun result c => result * radix + (toDigit radix c).getD 0) 0 =
      n := by
  induction n using Nat.strong_induction_on with
  | _ n ih =>
    rw [Nat.toDigits_eq_if hone]
    by_cases hlt : n < radix
    · rw [if_pos hlt, List.foldl_cons, List.foldl_nil, toDigit_digitChar hradix hlt,
        Option.getD_some, Nat.zero_mul, Nat.zero_add]
    · have hdigit : n % radix < radix := Nat.mod_lt _ (by omega)
      rw [if_neg hlt, List.foldl_append, ih (n / radix) (Nat.div_lt_self (by omega) hone),
        List.foldl_cons, List.foldl_nil, toDigit_digitChar hradix hdigit, Option.getD_some]
      exact Nat.div_add_mod' n radix

/-- Only zero is written with a zero in front. -/
theorem head?_toDigits_ne_zero {n : Nat} (h : n ≠ 0) :
    (Nat.toDigits radix n).head? ≠ some '0' := by
  induction n using Nat.strong_induction_on with
  | _ n ih =>
    rw [Nat.toDigits_eq_if hone]
    by_cases hlt : n < radix
    · rw [if_pos hlt]
      intro hhead
      have hdigit : n.digitChar = '0' := Option.some.inj hhead
      have hvalue := toDigit_digitChar hradix hlt
      have hzero : toDigit radix '0' = some 0 :=
        toDigit_digitChar hradix (show 0 < radix by omega)
      rw [hdigit, hzero] at hvalue
      exact h (Option.some.inj hvalue).symm
    · have hquot : n / radix ≠ 0 := by
        have := Nat.div_pos (Nat.not_lt.mp hlt) (by omega)
        omega
      rw [if_neg hlt, List.head?_append_of_ne_nil _ Nat.toDigits_ne_nil]
      exact ih (n / radix) (Nat.div_lt_self (by omega) hone) hquot

theorem takeWhile_toDigits (n : Nat) {rest : List Char} (hrest : EndsDigits radix rest) :
    (Nat.toDigits radix n ++ rest).takeWhile (fun c => (toDigit radix c).isSome) =
      Nat.toDigits radix n := by
  rw [List.takeWhile_append_of_pos fun c hc => isSome_toDigit_of_mem hone hradix hc]
  cases rest with
  | nil => exact List.append_nil _
  | cons c rest =>
    have hc : toDigit radix c = none := hrest c rfl
    rw [List.takeWhile_cons_of_neg (by rw [hc]; exact Bool.false_ne_true), List.append_nil]

theorem readNumber_toDigits {maxDigits limit n : Nat} (allowZeroPrefix : Bool)
    (hdigits : 0 < maxDigits) (hlength : n < radix ^ maxDigits) (hlimit : n < limit)
    {rest : List Char} (hrest : EndsDigits radix rest) :
    readNumber radix maxDigits allowZeroPrefix limit (Nat.toDigits radix n ++ rest) =
      some (n, rest) := by
  have hlen : ¬ maxDigits < (Nat.toDigits radix n).length :=
    Nat.not_lt.mpr ((Nat.length_toDigits_le_iff hone hdigits).mpr hlength)
  have hzero : ¬ ((!allowZeroPrefix) = true ∧ (Nat.toDigits radix n).head? = some '0' ∧
      1 < (Nat.toDigits radix n).length) := by
    rintro ⟨-, hhead, hlong⟩
    by_cases hn : n = 0
    · rw [hn, Nat.toDigits_zero] at hlong
      exact Nat.lt_irrefl 1 hlong
    · exact head?_toDigits_ne_zero hone hradix hn hhead
  rw [readNumber, takeWhile_toDigits hone hradix n hrest, foldl_toDigits hone hradix]
  rw [if_neg (not_or.mpr ⟨Nat.toDigits_ne_nil, hlen⟩), if_neg hzero,
    if_neg (Nat.not_le.mpr hlimit), List.drop_left]

omit hone hradix in
theorem readNumber_none {input : List Char} (h : EndsDigits radix input)
    (maxDigits : Nat) (allowZeroPrefix : Bool) (limit : Nat) :
    readNumber radix maxDigits allowZeroPrefix limit input = none := by
  have hnil : input.takeWhile (fun c => (toDigit radix c).isSome) = [] := by
    cases input with
    | nil => rfl
    | cons c rest =>
      have hc : toDigit radix c = none := h c rfl
      exact List.takeWhile_cons_of_neg (by rw [hc]; exact Bool.false_ne_true)
  rw [readNumber, hnil]
  exact if_pos (Or.inl rfl)

end Digits

/-! ## Unsigned integers -/

theorem le_foldl_digits (radix : Nat) (hone : 1 < radix) (digits : List Char) (result : Nat) :
    result ≤ digits.foldl (fun result c => result * radix + (toDigit radix c).getD 0) result := by
  induction digits generalizing result with
  | nil => exact Nat.le_refl result
  | cons c rest ih =>
    rw [List.foldl_cons]
    exact Nat.le_trans (Nat.le_trans (Nat.le_mul_of_pos_right result (by omega))
      (Nat.le_add_right _ _)) (ih _)

/-- The loop of the parser passes its check at every digit if the whole number does. -/
theorem parseDigits_eq {limit : Nat} {digits : List Char}
    (hdigits : ∀ c ∈ digits, (toDigit 10 c).isSome = true) {result : Nat}
    (hlimit : digits.foldl (fun result c => result * 10 + (toDigit 10 c).getD 0) result < limit) :
    parseDigits limit digits result =
      .ok (digits.foldl (fun result c => result * 10 + (toDigit 10 c).getD 0) result) := by
  induction digits generalizing result with
  | nil => rfl
  | cons c rest ih =>
    obtain ⟨digit, hdigit⟩ := Option.isSome_iff_exists.mp (hdigits c List.mem_cons_self)
    rw [List.foldl_cons, hdigit, Option.getD_some] at hlimit ⊢
    have hsmall : result * 10 + digit < limit :=
      Nat.lt_of_le_of_lt (le_foldl_digits 10 (by decide) rest _) hlimit
    rw [parseDigits, hdigit]
    dsimp only
    rw [if_neg (Nat.not_le.mpr hsmall)]
    exact ih (fun c hc => hdigits c (List.mem_cons_of_mem _ hc)) hlimit

theorem parseDigits_toDigits {limit n : Nat} (h : n < limit) :
    parseDigits limit (Nat.toDigits 10 n) 0 = .ok n := by
  have hdigits : ∀ c ∈ Nat.toDigits 10 n, (toDigit 10 c).isSome = true :=
    fun c hc => isSome_toDigit_of_mem (by decide) (by decide) hc
  have hvalue : (Nat.toDigits 10 n).foldl
      (fun result c => result * 10 + (toDigit 10 c).getD 0) 0 = n :=
    foldl_toDigits (by decide) (by decide) n
  rw [parseDigits_eq hdigits (by rw [hvalue]; exact h), hvalue]

theorem parseUnsigned_toDigits {limit n : Nat} (h : n < limit) :
    parseUnsigned limit (Nat.toDigits 10 n) = .ok n := by
  have hdigits : ∀ c ∈ Nat.toDigits 10 n, (toDigit 10 c).isSome = true :=
    fun c hc => isSome_toDigit_of_mem (by decide) (by decide) hc
  have hparse := parseDigits_toDigits h
  cases htext : Nat.toDigits 10 n with
  | nil => exact absurd htext Nat.toDigits_ne_nil
  | cons c rest =>
    rw [htext] at hparse hdigits
    have hc := hdigits c List.mem_cons_self
    have hplus : c ≠ '+' := by
      rintro rfl
      revert hc
      decide
    have hminus : c ≠ '-' := by
      rintro rfl
      revert hc
      decide
    rw [parseUnsigned.eq_def]
    split
    · contradiction
    · simp_all
    · simp_all
    · simp_all
    · exact hparse

/-! ## IPv4 -/

theorem readSeparator_zero {α : Type} (separator : Char)
    (inner : List Char → Option (α × List Char)) (input : List Char) :
    readSeparator separator 0 inner input = inner input := rfl

theorem readSeparator_cons {α : Type} (separator : Char) {index : Nat} (h : index ≠ 0)
    (inner : List Char → Option (α × List Char)) (input : List Char) :
    readSeparator separator index inner (separator :: input) = inner input := by
  rw [readSeparator, if_neg h]
  exact if_pos rfl

theorem readSeparator_none {α : Type} {separator : Char} {index : Nat} (h : index ≠ 0)
    (inner : List Char → Option (α × List Char)) {input : List Char}
    (hinput : separator ∉ input) : readSeparator separator index inner input = none := by
  rw [readSeparator.eq_def, if_neg h]
  cases input with
  | nil => rfl
  | cons c rest => exact if_neg fun hc : c = separator => hinput (List.mem_cons.mpr (.inl hc.symm))

theorem readIpv4Addr_none_of_endsDigits {input : List Char} (h : EndsDigits 10 input) :
    readIpv4Addr input = none := by
  rw [readIpv4Addr, readIpv4Octet, readSeparator_zero, readNumber_none h]
  rfl

/-- A text without a dot does not start with an IPv4 address. -/
theorem readIpv4Addr_none {input : List Char} (h : '.' ∉ input) : readIpv4Addr input = none := by
  rw [readIpv4Addr]
  cases hfirst : readIpv4Octet 0 input with
  | none => rfl
  | some first =>
    obtain ⟨a, rest⟩ := first
    have hrest : '.' ∉ rest := by
      rw [readIpv4Octet, readSeparator_zero, readNumber] at hfirst
      split at hfirst
      · cases hfirst
      · split at hfirst
        · cases hfirst
        · split at hfirst
          · cases hfirst
          · cases hfirst
            exact fun hmem => h (List.mem_of_mem_drop hmem)
    have hsecond : readIpv4Octet 1 rest = none := readSeparator_none (by decide) _ hrest
    show (readIpv4Octet 1 rest >>= _) = none
    rw [hsecond]
    rfl

def octetChars (octet : UInt8) : List Char := Nat.toDigits 10 octet.toNat

theorem readNumber_octetChars (octet : UInt8) {rest : List Char} (hrest : EndsDigits 10 rest) :
    readNumber 10 3 false 256 (octetChars octet ++ rest) = some (octet.toNat, rest) := by
  have hbound : octet.toNat < 256 := octet.toNat_lt
  exact readNumber_toDigits (by decide) (by decide) false (by decide)
    (by have hpow : (10 : Nat) ^ 3 = 1000 := rfl; omega) hbound hrest

theorem readIpv4Octet_cons {index : Nat} (h : index ≠ 0) (octet : UInt8) {rest : List Char}
    (hrest : EndsDigits 10 rest) :
    readIpv4Octet index ('.' :: (octetChars octet ++ rest)) = some (octet.toNat, rest) := by
  rw [readIpv4Octet, readSeparator_cons '.' h]
  exact readNumber_octetChars octet hrest

def dottedChars (a b c d : UInt8) : List Char :=
  octetChars a ++ '.' :: (octetChars b ++ '.' :: (octetChars c ++ '.' :: octetChars d))

theorem not_mem_dottedChars {char : Char} (hdigit : toDigit 10 char = none) (hdot : char ≠ '.')
    (a b c d : UInt8) : char ∉ dottedChars a b c d := by
  have hoctet : ∀ octet : UInt8, char ∉ octetChars octet := fun octet =>
    not_mem_toDigits (by decide) (by decide) hdigit octet.toNat
  simp only [dottedChars, List.mem_append, List.mem_cons, not_or]
  exact ⟨hoctet a, hdot, hoctet b, hdot, hoctet c, hdot, hoctet d⟩

theorem readIpv4Addr_dottedChars (a b c d : UInt8) {rest : List Char}
    (hrest : EndsDigits 10 rest) :
    readIpv4Addr (dottedChars a b c d ++ rest) = some (.new a b c d, rest) := by
  have hdot : ∀ rest, EndsDigits 10 ('.' :: rest) := endsDigits_cons (by decide)
  have hfirst : readIpv4Octet 0 (dottedChars a b c d ++ rest) = some (a.toNat,
      '.' :: (octetChars b ++ '.' :: (octetChars c ++ '.' :: (octetChars d ++ rest)))) := by
    rw [readIpv4Octet, readSeparator_zero, dottedChars]
    simp only [List.append_assoc, List.cons_append]
    exact readNumber_octetChars a (hdot _)
  rw [readIpv4Addr, hfirst]
  simp only [Option.bind_eq_bind, Option.bind_some]
  rw [readIpv4Octet_cons (by decide) b (hdot _)]
  simp only [Option.bind_some]
  rw [readIpv4Octet_cons (by decide) c (hdot _)]
  simp only [Option.bind_some]
  rw [readIpv4Octet_cons (by decide) d hrest]
  simp only [Option.bind_some, UInt8.ofNat_toNat]

theorem Ipv4Addr.exists_eq_new (addr : Ipv4Addr) : ∃ a b c d, addr = .new a b c d := by
  obtain ⟨octets⟩ := addr
  refine ⟨octets[0], octets[1], octets[2], octets[3], ?_⟩
  rw [Ipv4Addr.new, Ipv4Addr.mk.injEq]
  ext i hi
  have hcases : i = 0 ∨ i = 1 ∨ i = 2 ∨ i = 3 := by omega
  rcases hcases with rfl | rfl | rfl | rfl <;> rfl

theorem toList_toString (n : Nat) : (toString n).toList = Nat.toDigits 10 n := Nat.toList_repr

theorem display_dotted (a b c d : UInt8) :
    (".".intercalate ([a, b, c, d].map fun octet => toString octet.toNat)).toList =
      dottedChars a b c d := by
  rw [String.toList_intercalate]
  simp only [List.map_cons, List.map_nil, toList_toString]
  simp [dottedChars, octetChars, List.intercalate_cons_cons]

theorem Ipv4Addr.toList_display_new (a b c d : UInt8) :
    (Ipv4Addr.new a b c d).display.toList = dottedChars a b c d :=
  display_dotted a b c d

theorem readIpv4Addr_display (addr : Ipv4Addr) :
    readIpv4Addr addr.display.toList = some (addr, []) := by
  obtain ⟨a, b, c, d, rfl⟩ := addr.exists_eq_new
  have h := readIpv4Addr_dottedChars a b c d (endsDigits_nil 10)
  rw [List.append_nil, ← Ipv4Addr.toList_display_new] at h
  exact h

/-! ## Groups of an IPv6 address -/

/-- The text of groups from group `i` on: a colon stands before every group but the first. -/
def groupChars (i : Nat) : List Nat → List Char
  | [] => []
  | segment :: rest =>
    (if i = 0 then [] else [':']) ++ (Nat.toDigits 16 segment ++ groupChars (i + 1) rest)

theorem groupChars_succ (i : Nat) (segments : List Nat) :
    groupChars (i + 1) segments = groupChars 1 segments := by
  induction segments generalizing i with
  | nil => rfl
  | cons segment rest ih =>
    rw [groupChars, groupChars, ih (i + 1), ih 1, if_neg (Nat.succ_ne_zero i),
      if_neg Nat.one_ne_zero]

theorem toList_fmtSubslice (segments : List Nat) :
    (Ipv6Addr.fmtSubslice segments).toList = groupChars 0 segments := by
  rw [Ipv6Addr.fmtSubslice, String.toList_intercalate, List.map_map]
  induction segments with
  | nil => rfl
  | cons segment rest ih =>
    cases rest with
    | nil =>
      rw [List.map_cons, List.map_nil, List.intercalate_singleton]
      simp [groupChars]
    | cons next rest =>
      rw [List.map_cons] at ih ⊢
      rw [List.map_cons, List.intercalate_cons_cons, ih, groupChars, groupChars, groupChars,
        groupChars_succ]
      simp [groupChars_succ]

/-- The characters of groups are hexadecimal digits and colons. -/
theorem not_mem_groupChars {c : Char} (hdigit : toDigit 16 c = none) (hcolon : c ≠ ':')
    (i : Nat) (segments : List Nat) : c ∉ groupChars i segments := by
  induction segments generalizing i with
  | nil => exact List.not_mem_nil
  | cons segment rest ih =>
    rw [groupChars, List.mem_append, List.mem_append, not_or, not_or]
    refine ⟨?_, not_mem_toDigits (by decide) (by decide) hdigit segment, ih (i + 1)⟩
    split
    · exact List.not_mem_nil
    · exact fun hmem => hcolon (List.mem_singleton.mp hmem)

theorem dot_not_mem_groupChars (i : Nat) (segments : List Nat) : '.' ∉ groupChars i segments :=
  not_mem_groupChars (by decide) (by decide) i segments

/-- A text behind which no further group is read. -/
def EndsGroups (rest : List Char) : Prop :=
  rest = [] ∨ ∃ tail, rest = ':' :: ':' :: tail

theorem EndsGroups.endsDigits {rest : List Char} (h : EndsGroups rest) : EndsDigits 16 rest := by
  rcases h with rfl | ⟨tail, rfl⟩
  · exact endsDigits_nil 16
  · exact endsDigits_cons (by decide) _

theorem readSeparator_group_none (i : Nat) {rest : List Char} (h : EndsGroups rest) :
    readSeparator ':' i (readNumber 16 4 true 65536) rest = none := by
  by_cases hi : i = 0
  · rw [hi, readSeparator_zero]
    exact readNumber_none h.endsDigits _ _ _
  · rcases h with rfl | ⟨tail, rfl⟩
    · rw [readSeparator, if_neg hi]
    · rw [readSeparator_cons ':' hi]
      exact readNumber_none (endsDigits_cons (by decide) _) _ _ _

theorem readSeparator_lead {α : Type} (i : Nat) (inner : List Char → Option (α × List Char))
    (input : List Char) :
    readSeparator ':' i inner ((if i = 0 then [] else [':']) ++ input) = inner input := by
  by_cases hi : i = 0
  · rw [hi]
    rfl
  · rw [if_neg hi]
    exact readSeparator_cons ':' hi inner input

theorem readSeparator_ipv4_none (i : Nat) {input : List Char} (h : '.' ∉ input) :
    readSeparator ':' i readIpv4Addr input = none := by
  rw [readSeparator.eq_def]
  split
  · exact readIpv4Addr_none h
  · cases input with
    | nil => rfl
    | cons c rest =>
      dsimp only
      split
      · exact readIpv4Addr_none fun hmem => h (List.mem_cons_of_mem _ hmem)
      · rfl

theorem endsDigits_groupChars (i : Nat) (segments : List Nat) {rest : List Char}
    (h : EndsGroups rest) : EndsDigits 16 (groupChars (i + 1) segments ++ rest) := by
  cases segments with
  | nil => exact h.endsDigits
  | cons segment segments => exact endsDigits_cons (by decide) _

/-- The groups are read up to the double colon or the end, by induction on what is left of
them. -/
theorem readGroups_groupChars (i : Nat) {remaining : Nat} {segments : List Nat}
    {rest : List Char} (hroom : segments.length ≤ remaining)
    (hbound : ∀ segment ∈ segments, segment < 65536) (hends : EndsGroups rest)
    (hdot : '.' ∉ rest) :
    readGroups i remaining (groupChars i segments ++ rest) = (segments, false, rest) := by
  induction segments generalizing i remaining with
  | nil =>
    cases remaining with
    | zero => rfl
    | succ remaining =>
      have hipv4 : (if 0 < remaining then readSeparator ':' i readIpv4Addr rest else none) =
          none := by
        split
        · exact readSeparator_ipv4_none i hdot
        · rfl
      rw [groupChars, List.nil_append, readGroups, hipv4]
      dsimp only
      rw [readSeparator_group_none i hends]
  | cons segment segments ih =>
    cases remaining with
    | zero => exact absurd hroom (Nat.not_succ_le_zero _)
    | succ remaining =>
      have hdots : '.' ∉ groupChars i (segment :: segments) ++ rest := by
        rw [List.mem_append, not_or]
        exact ⟨dot_not_mem_groupChars i _, hdot⟩
      have hipv4 : (if 0 < remaining then readSeparator ':' i readIpv4Addr
          (groupChars i (segment :: segments) ++ rest) else none) = none := by
        split
        · exact readSeparator_ipv4_none i hdots
        · rfl
      have hsegment : segment < 65536 := hbound segment List.mem_cons_self
      have hgroup : readSeparator ':' i (readNumber 16 4 true 65536)
          (groupChars i (segment :: segments) ++ rest) =
            some (segment, groupChars (i + 1) segments ++ rest) := by
        rw [groupChars, List.append_assoc, List.append_assoc, readSeparator_lead]
        exact readNumber_toDigits (by decide) (by decide) true (by decide) hsegment hsegment
          (endsDigits_groupChars i segments hends)
      rw [readGroups, hipv4]
      dsimp only
      rw [hgroup]
      dsimp only
      rw [ih (i + 1) (Nat.le_of_succ_le_succ hroom)
        fun segment hmem => hbound segment (List.mem_cons_of_mem _ hmem)]

/-! ## Segments -/

namespace Ipv6Addr

theorem length_segments (addr : Ipv6Addr) : addr.segments.length = 8 := by
  rw [segments, List.length_map, List.length_range]

theorem segments_lt {addr : Ipv6Addr} {segment : Nat} (h : segment ∈ addr.segments) :
    segment < 65536 := by
  obtain ⟨i, -, rfl⟩ := List.mem_map.mp h
  have hhigh := (addr.octets.toList.getD (2 * i) 0).toNat_lt
  have hlow := (addr.octets.toList.getD (2 * i + 1) 0).toNat_lt
  omega

theorem getD_segments (addr : Ipv6Addr) {i : Nat} (h : i < 8) :
    addr.segments.getD i 0 =
      (addr.octets.toList.getD (2 * i) 0).toNat * 256 +
        (addr.octets.toList.getD (2 * i + 1) 0).toNat := by
  rw [List.getD_eq_getElem?_getD, segments, List.getElem?_map, List.getElem?_range h]
  rfl

theorem ofSegments_segments (addr : Ipv6Addr) : ofSegments addr.segments = addr := by
  obtain ⟨octets⟩ := addr
  rw [ofSegments, Ipv6Addr.mk.injEq]
  ext i hi
  have hhalf : i / 2 < 8 := by omega
  have hoctet : octets.toList.getD i 0 = octets[i] := by
    rw [List.getD_eq_getElem?_getD, List.getElem?_eq_getElem (by simpa using hi),
      Option.getD_some, Vector.getElem_toList]
  rw [Vector.getElem_ofFn]
  dsimp only
  rw [getD_segments _ hhalf]
  dsimp only
  by_cases heven : i % 2 = 0
  · have hindex : 2 * (i / 2) = i := by omega
    have hlow := (octets.toList.getD (i + 1) 0).toNat_lt
    rw [if_pos heven, hindex, hoctet,
      show (octets[i].toNat * 256 + (octets.toList.getD (i + 1) 0).toNat) / 256 =
        octets[i].toNat by omega, UInt8.ofNat_toNat]
  · have hindex : 2 * (i / 2) + 1 = i := by omega
    have hlow := octets[i].toNat_lt
    rw [if_neg heven, hindex, hoctet, Nat.mul_add_mod', Nat.mod_eq_of_lt hlow, UInt8.ofNat_toNat]

/-! ## The longest run of zeros -/

def Zeros (segments : List Nat) (span : Span) : Prop :=
  ∀ i, span.start ≤ i → i < span.start + span.len → segments[i]? = some 0

theorem zeros_empty (segments : List Nat) (start : Nat) :
    Zeros segments { start := start, len := 0 } := by
  intro i hlow hhigh
  dsimp only at hlow hhigh
  omega

/-- The run that ends before segment `i`, with that segment. -/
def Span.grow (current : Span) (i : Nat) : Span :=
  if current.len = 0 then { start := i, len := 1 }
  else { current with len := current.len + 1 }

theorem Span.grow_end {current : Span} {i : Nat}
    (hend : current.len = 0 ∨ current.start + current.len = i) :
    (current.grow i).start + (current.grow i).len = i + 1 := by
  rw [grow]
  split
  · rfl
  · have hstart := hend.resolve_left ‹_›
    dsimp only
    omega

theorem zeros_grow {segments : List Nat} {current : Span} {i : Nat}
    (hcurrent : Zeros segments current) (hend : current.len = 0 ∨ current.start + current.len = i)
    (hzero : segments[i]? = some 0) : Zeros segments (current.grow i) := by
  intro j hlow hhigh
  by_cases hj : j = i
  · rw [hj]
    exact hzero
  · rw [Span.grow_end hend] at hhigh
    rw [Span.grow] at hlow
    split at hlow
    · dsimp only at hlow
      omega
    · have hstart := hend.resolve_left ‹_›
      exact hcurrent j hlow (by omega)

theorem zeros_longestZeros {segments rest : List Nat} {longest current : Span} {i : Nat}
    (hrest : rest = segments.drop i) (hlongest : Zeros segments longest)
    (hcurrent : Zeros segments current)
    (hend : current.len = 0 ∨ current.start + current.len = i) :
    Zeros segments (longestZeros longest current i rest) := by
  induction rest generalizing longest current i with
  | nil => exact hlongest
  | cons segment rest ih =>
    have hhead : segments[i]? = some segment := by
      rw [← List.head?_drop, ← hrest]
      rfl
    have htail : rest = segments.drop (i + 1) := by
      rw [← List.tail_drop, ← hrest]
      rfl
    rw [longestZeros]
    by_cases hzero : segment = 0
    · rw [hzero] at hhead
      have hgrown := zeros_grow hcurrent hend hhead
      rw [if_pos hzero]
      show Zeros segments (longestZeros
        (if longest.len < (current.grow i).len then current.grow i else longest)
        (current.grow i) (i + 1) rest)
      refine ih htail ?_ hgrown (.inr (Span.grow_end hend))
      split
      · exact hgrown
      · exact hlongest
    · rw [if_neg hzero]
      exact ih htail hlongest (zeros_empty segments 0) (.inl rfl)

/-- A list around a span of zeros. -/
theorem take_replicate_drop {segments : List Nat} {span : Span} (h : Zeros segments span)
    (hpos : 0 < span.len) :
    span.start + span.len ≤ segments.length ∧
      segments.take span.start ++ List.replicate span.len 0 ++
        segments.drop (span.start + span.len) = segments := by
  have hlast := h (span.start + span.len - 1) (by omega) (by omega)
  have hroom : span.start + span.len ≤ segments.length := by
    obtain ⟨hlt, -⟩ := List.getElem?_eq_some_iff.mp hlast
    omega
  refine ⟨hroom, ?_⟩
  have hmiddle : (segments.drop span.start).take span.len = List.replicate span.len 0 := by
    refine List.eq_replicate_iff.mpr ⟨?_, fun segment hmem => ?_⟩
    · rw [List.length_take, List.length_drop]
      omega
    · obtain ⟨j, hj, rfl⟩ := List.mem_iff_getElem.mp hmem
      rw [List.length_take] at hj
      have hzero := h (span.start + j) (by omega) (by omega)
      rw [List.getElem_take, List.getElem_drop]
      exact (List.getElem?_eq_some_iff.mp hzero).2
  rw [← hmiddle, List.append_assoc, ← List.drop_drop, List.take_append_drop,
    List.take_append_drop]

end Ipv6Addr

/-! ## IPv6 -/

theorem head_colon_endsDigits (rest : List Char) : EndsDigits 10 (':' :: rest) :=
  endsDigits_cons (by decide) rest

theorem readIpv6Addr_doubleColon {input rest after : List Char} {head tail : List Nat}
    {tailIpv4 : Bool} (hhead : readGroups 0 8 input = (head, false, ':' :: ':' :: rest))
    (hlength : head.length ≠ 8)
    (htail : readGroups 0 (8 - (head.length + 1)) rest = (tail, tailIpv4, after)) :
    readIpv6Addr input =
      some (.ofSegments (head ++ List.replicate (8 - head.length - tail.length) 0 ++ tail),
        after) := by
  rw [readIpv6Addr, hhead]
  simp only [if_neg hlength, Bool.false_eq_true, if_false, htail]

/-- Groups around a double colon. -/
theorem readIpv6Addr_compressed {head tail : List Nat}
    (hhead : ∀ segment ∈ head, segment < 65536) (htail : ∀ segment ∈ tail, segment < 65536)
    (hroom : head.length + tail.length < 8) :
    readIpv6Addr (groupChars 0 head ++ ':' :: ':' :: groupChars 0 tail) =
      some (.ofSegments (head ++ List.replicate (8 - head.length - tail.length) 0 ++ tail),
        []) := by
  have hdot : '.' ∉ ':' :: ':' :: groupChars 0 tail := by
    rw [List.mem_cons, List.mem_cons, not_or, not_or]
    exact ⟨by decide, by decide, dot_not_mem_groupChars 0 tail⟩
  have hfirst := readGroups_groupChars 0 (show head.length ≤ 8 by omega) hhead
    (.inr ⟨groupChars 0 tail, rfl⟩) hdot
  have hsecond := readGroups_groupChars 0 (show tail.length ≤ 8 - (head.length + 1) by omega)
    htail (.inl rfl) List.not_mem_nil
  rw [List.append_nil] at hsecond
  exact readIpv6Addr_doubleColon hfirst (by omega) hsecond

theorem readIpv6Addr_full {segments : List Nat} (hlength : segments.length = 8)
    (hbound : ∀ segment ∈ segments, segment < 65536) :
    readIpv6Addr (groupChars 0 segments) = some (.ofSegments segments, []) := by
  have hgroups := readGroups_groupChars 0 (Nat.le_of_eq hlength) hbound (.inl rfl)
    List.not_mem_nil
  rw [List.append_nil] at hgroups
  rw [readIpv6Addr, hgroups]
  exact if_pos hlength

/-- The groups of a mapped address: an embedded IPv4 address is two of them. -/
theorem readGroups_mapped (a b c d : UInt8) :
    readGroups 0 (8 - (([] : List Nat).length + 1)) ("ffff:".toList ++ dottedChars a b c d) =
      ([0xffff, a.toNat * 256 + b.toNat, c.toNat * 256 + d.toNat], true, []) := by
  have hgroup : readNumber 16 4 true 65536 ("ffff:".toList ++ dottedChars a b c d) =
      some (0xffff, ':' :: dottedChars a b c d) :=
    readNumber_toDigits (n := 0xffff) (by decide) (by decide) true (by decide) (by decide)
      (by decide) (endsDigits_cons (c := ':') (by decide) (dottedChars a b c d))
  have hipv4 : readSeparator ':' 1 readIpv4Addr (':' :: dottedChars a b c d) =
      some (.new a b c d, []) := by
    have h := readIpv4Addr_dottedChars a b c d (endsDigits_nil 10)
    rw [List.append_nil] at h
    rw [readSeparator_cons ':' Nat.one_ne_zero, h]
  have hfirst : readSeparator ':' 0 readIpv4Addr ("ffff:".toList ++ dottedChars a b c d) = none :=
    readIpv4Addr_none_of_endsDigits (endsDigits_cons (c := 'f') (by decide) _)
  have hsecond : readGroups 1 6 (':' :: dottedChars a b c d) =
      ([a.toNat * 256 + b.toNat, c.toNat * 256 + d.toNat], true, []) := by
    rw [readGroups, if_pos (by decide), hipv4]
    rfl
  rw [show 8 - (([] : List Nat).length + 1) = 7 from rfl, readGroups, if_pos (by decide), hfirst]
  dsimp only
  rw [readSeparator_zero, hgroup]
  dsimp only
  rw [hsecond]

theorem readIpv6Addr_mapped (a b c d : UInt8) :
    readIpv6Addr (':' :: ':' :: ("ffff:".toList ++ dottedChars a b c d)) =
      some (.ofSegments
        [0, 0, 0, 0, 0, 0xffff, a.toNat * 256 + b.toNat, c.toNat * 256 + d.toNat], []) := by
  have hfirst : readGroups 0 8 (':' :: ':' :: ("ffff:".toList ++ dottedChars a b c d)) =
      ([], false, ':' :: ':' :: ("ffff:".toList ++ dottedChars a b c d)) := by
    have hipv4 : readSeparator ':' 0 readIpv4Addr
        (':' :: ':' :: ("ffff:".toList ++ dottedChars a b c d)) = none :=
      readIpv4Addr_none_of_endsDigits (head_colon_endsDigits _)
    have hgroup := readSeparator_group_none 0
      (.inr ⟨"ffff:".toList ++ dottedChars a b c d, rfl⟩)
    rw [readGroups, if_pos (by decide), hipv4]
    dsimp only
    rw [hgroup]
  rw [readIpv6Addr_doubleColon hfirst (by decide) (readGroups_mapped a b c d)]
  rfl

/-! ## Display -/

namespace Ipv6Addr

theorem getD_octets (addr : Ipv6Addr) {i : Nat} (h : i < 16) :
    addr.octets.toList.getD i 0 = addr.octets[i] := by
  rw [List.getD_eq_getElem?_getD, List.getElem?_eq_getElem (by simpa using h),
    Option.getD_some, Vector.getElem_toList]

/-- The octets of the embedded address. -/
theorem drop_octets (addr : Ipv6Addr) :
    addr.octets.toList.drop 12 =
      [addr.octets[12], addr.octets[13], addr.octets[14], addr.octets[15]] := by
  refine List.ext_getElem (by simp) fun i hleft hright => ?_
  have hcases : i = 0 ∨ i = 1 ∨ i = 2 ∨ i = 3 := by
    have hlength : i < 4 := hright
    omega
  rw [List.getElem_drop, Vector.getElem_toList]
  rcases hcases with rfl | rfl | rfl | rfl <;> rfl

theorem segments_mapped {addr : Ipv6Addr} (h : addr.isIpv4Mapped = true) :
    addr.segments =
      [0, 0, 0, 0, 0, 0xffff, addr.octets[12].toNat * 256 + addr.octets[13].toNat,
        addr.octets[14].toNat * 256 + addr.octets[15].toNat] := by
  have htake : addr.segments.take 6 = [0, 0, 0, 0, 0, 0xffff] := eq_of_beq h
  have hdrop : addr.segments.drop 6 =
      [(addr.octets.toList.getD 12 0).toNat * 256 + (addr.octets.toList.getD 13 0).toNat,
        (addr.octets.toList.getD 14 0).toNat * 256 + (addr.octets.toList.getD 15 0).toNat] := rfl
  rw [getD_octets addr (by decide), getD_octets addr (by decide), getD_octets addr (by decide),
    getD_octets addr (by decide)] at hdrop
  rw [← List.take_append_drop 6 addr.segments, htake, hdrop]
  rfl

/-- The three forms of the text. -/
theorem toList_display (addr : Ipv6Addr) :
    (addr.isIpv4Mapped = true ∧ addr.display.toList = ':' :: ':' :: ("ffff:".toList ++
      dottedChars addr.octets[12] addr.octets[13] addr.octets[14] addr.octets[15])) ∨
    (∃ span, Zeros addr.segments span ∧ 1 < span.len ∧ addr.display.toList =
      groupChars 0 (addr.segments.take span.start) ++
        ':' :: ':' :: groupChars 0 (addr.segments.drop (span.start + span.len))) ∨
    addr.display.toList = groupChars 0 addr.segments := by
  rw [display]
  by_cases hmapped : addr.isIpv4Mapped = true
  · refine .inl ⟨hmapped, ?_⟩
    rw [if_pos hmapped, String.toList_append, drop_octets, display_dotted]
    rfl
  · refine .inr ?_
    dsimp only
    rw [if_neg hmapped]
    by_cases hlen : 1 < (longestZeros { start := 0, len := 0 } { start := 0, len := 0 } 0
        addr.segments).len
    · refine .inl ⟨_, zeros_longestZeros rfl (zeros_empty _ 0) (zeros_empty _ 0) (.inl rfl),
        hlen, ?_⟩
      rw [if_pos hlen, String.toList_append, String.toList_append, toList_fmtSubslice,
        toList_fmtSubslice, List.append_assoc]
      rfl
    · refine .inr ?_
      rw [if_neg hlen, toList_fmtSubslice]

theorem readIpv6Addr_display (addr : Ipv6Addr) :
    readIpv6Addr addr.display.toList = some (addr, []) := by
  have hbound : ∀ segment ∈ addr.segments, segment < 65536 := fun _ h => segments_lt h
  rcases toList_display addr with ⟨hmapped, htext⟩ | ⟨span, hzeros, hlen, htext⟩ | htext
  · rw [htext, readIpv6Addr_mapped, ← segments_mapped hmapped, ofSegments_segments]
  · obtain ⟨hroom, hparts⟩ := take_replicate_drop hzeros (by omega)
    have hlength := length_segments addr
    have hhead : (addr.segments.take span.start).length = span.start := by
      rw [List.length_take]
      omega
    have htail : (addr.segments.drop (span.start + span.len)).length =
        8 - (span.start + span.len) := by
      rw [List.length_drop, hlength]
    rw [htext, readIpv6Addr_compressed (fun _ h => hbound _ (List.mem_of_mem_take h))
      (fun _ h => hbound _ (List.mem_of_mem_drop h)) (by omega), hhead, htail,
      show 8 - span.start - (8 - (span.start + span.len)) = span.len by omega, hparts,
      ofSegments_segments]
  · rw [htext, readIpv6Addr_full (length_segments addr) hbound, ofSegments_segments]

/-- The characters of the text are hexadecimal digits, colons and dots. -/
theorem not_mem_display {c : Char} (hhex : toDigit 16 c = none) (hdecimal : toDigit 10 c = none)
    (hcolon : c ≠ ':') (hdot : c ≠ '.') (addr : Ipv6Addr) : c ∉ addr.display.toList := by
  have hdotted := not_mem_dottedChars hdecimal hdot addr.octets[12] addr.octets[13]
    addr.octets[14] addr.octets[15]
  rcases toList_display addr with ⟨-, htext⟩ | ⟨span, -, -, htext⟩ | htext
  · have hprefix : c ∉ "ffff:".toList := fun hmem => by
      have hcases : c = 'f' ∨ c = ':' := by simpa using hmem
      rcases hcases with rfl | rfl
      · revert hhex
        decide
      · exact hcolon rfl
    rw [htext, List.mem_cons, List.mem_cons, List.mem_append, not_or, not_or, not_or]
    exact ⟨hcolon, hcolon, hprefix, hdotted⟩
  · have hgroups := not_mem_groupChars hhex hcolon 0
    rw [htext, List.mem_append, List.mem_cons, List.mem_cons, not_or, not_or, not_or]
    exact ⟨hgroups _, hcolon, hcolon, hgroups _⟩
  · rw [htext]
    exact not_mem_groupChars hhex hcolon 0 _

/-- The zone of a scoped address is not part of the address. -/
theorem percent_not_mem_display (addr : Ipv6Addr) : '%' ∉ addr.display.toList :=
  not_mem_display (by decide) (by decide) (by decide) (by decide) addr

theorem colon_mem_display (addr : Ipv6Addr) : ':' ∈ addr.display.toList := by
  rcases toList_display addr with ⟨-, htext⟩ | ⟨span, -, -, htext⟩ | htext
  · rw [htext]
    exact List.mem_cons_self
  · rw [htext]
    exact List.mem_append_right _ List.mem_cons_self
  · have hlength := length_segments addr
    rw [htext]
    cases hsegments : addr.segments with
    | nil =>
      rw [hsegments] at hlength
      cases hlength
    | cons first rest =>
      cases rest with
      | nil =>
        rw [hsegments] at hlength
        cases hlength
      | cons second rest =>
        rw [groupChars, groupChars]
        exact List.mem_append_right _ (List.mem_append_right _ List.mem_cons_self)

/-- No text of an IPv6 address starts with an IPv4 address. -/
theorem readIpv4Addr_display_none (addr : Ipv6Addr) :
    readIpv4Addr addr.display.toList = none := by
  rcases toList_display addr with ⟨-, htext⟩ | ⟨span, -, -, htext⟩ | htext
  · rw [htext]
    exact readIpv4Addr_none_of_endsDigits (head_colon_endsDigits _)
  · rw [htext]
    refine readIpv4Addr_none ?_
    rw [List.mem_append, List.mem_cons, List.mem_cons, not_or, not_or, not_or]
    exact ⟨dot_not_mem_groupChars 0 _, by decide, by decide, dot_not_mem_groupChars 0 _⟩
  · rw [htext]
    exact readIpv4Addr_none (dot_not_mem_groupChars 0 _)

end Ipv6Addr

theorem Ipv4Addr.not_mem_display {c : Char} (hdigit : toDigit 10 c = none) (hdot : c ≠ '.')
    (addr : Ipv4Addr) : c ∉ addr.display.toList := by
  obtain ⟨p, q, r, s, rfl⟩ := addr.exists_eq_new
  rw [Ipv4Addr.toList_display_new]
  exact not_mem_dottedChars hdigit hdot p q r s

theorem IpAddr.nul_not_mem_display (addr : IpAddr) : '\x00' ∉ addr.display.toList := by
  cases addr with
  | v4 addr => exact Ipv4Addr.not_mem_display (by decide) (by decide) addr
  | v6 addr =>
    exact Ipv6Addr.not_mem_display (by decide) (by decide) (by decide) (by decide) addr

theorem parseIpv6Addr_display (addr : Ipv6Addr) :
    parseIpv6Addr addr.display.toList = .ok addr := by
  rw [parseIpv6Addr, parseWith, addr.readIpv6Addr_display]

/-- Every address is read back from its own text. -/
theorem parseIpAddr_display (addr : IpAddr) : parseIpAddr addr.display.toList = .ok addr := by
  rw [parseIpAddr, parseWith]
  cases addr with
  | v4 addr => rw [IpAddr.display, readIpAddr, readIpv4Addr_display]
  | v6 addr =>
    rw [IpAddr.display, readIpAddr, addr.readIpv4Addr_display_none, addr.readIpv6Addr_display]
    rfl

end McrxCore
