import McrxCore.Lib.BigEndian

/-!
# Classic BPF

A machine for the part of classic BPF that packet filters of this kind use:
absolute loads of one, two, and four bytes, masking, the equality jump, and
return.  Jumps are relative and go forward only, so a program runs by structural
recursion on its instruction list with a count of instructions still to skip.  A
load outside the packet ends the run and rejects.

Over the machine sits a source language with one construct, the conjunction of
masked comparisons.  `compile` is its translation, with every failing comparison
jumping to one shared reject instruction, and `exec_compile` is its correctness.
`patch_emit` covers the assembler that emits the comparisons with empty jumps and
fills them in afterwards.
-/

namespace ClassicBpf

open BigEndian

/-- `struct sock_filter`. -/
structure Instruction where
  code : UInt16
  jt : UInt8
  jf : UInt8
  k : UInt32
  deriving DecidableEq, Repr

/-! ## The opcodes the machine knows -/

def ldB : UInt16 := 0x30
def ldH : UInt16 := 0x28
def ldW : UInt16 := 0x20
def andK : UInt16 := 0x54
def jeqK : UInt16 := 0x15
def retK : UInt16 := 0x06

/-- A run ends at a return instruction or at a load outside the packet. -/
inductive Verdict where
  | returned (value : UInt32)
  | outOfRange
  deriving DecidableEq, Repr

def Verdict.accepts : Verdict → Bool
  | .returned value => value != 0
  | .outOfRange => false

def loadB (packet : List UInt8) (offset : Nat) : Option Nat :=
  packet[offset]?.map UInt8.toNat

def loadH (packet : List UInt8) (offset : Nat) : Option Nat :=
  match packet.drop offset with
  | a :: b :: _ => some (be16 a b)
  | _ => none

def loadW (packet : List UInt8) (offset : Nat) : Option Nat :=
  match packet.drop offset with
  | a :: b :: c :: d :: _ => some (be32 a b c d)
  | _ => none

def load (packet : List UInt8) (code : UInt16) (offset : Nat) : Option (Option Nat) :=
  if code = ldB then some (loadB packet offset)
  else if code = ldH then some (loadH packet offset)
  else if code = ldW then some (loadW packet offset)
  else none

/-- Run a program: `skip` instructions are still to be jumped over and the
accumulator holds `acc`.  `none` is an unknown opcode or a run off the end. -/
def exec (packet : List UInt8) : List Instruction → Nat → Nat → Option Verdict
  | [], _, _ => none
  | _ :: rest, skip + 1, acc => exec packet rest skip acc
  | i :: rest, 0, acc =>
    match load packet i.code i.k.toNat with
    | some (some value) => exec packet rest 0 value
    | some none => some .outOfRange
    | none =>
      if i.code = andK then exec packet rest 0 (acc &&& i.k.toNat)
      else if i.code = jeqK then
        exec packet rest (if acc = i.k.toNat then i.jt.toNat else i.jf.toNat) acc
      else if i.code = retK then some (.returned i.k)
      else none

def run (program : List Instruction) (packet : List UInt8) : Option Verdict :=
  exec packet program 0 0

def accepts (program : List Instruction) (packet : List UInt8) : Bool :=
  (run program packet).any Verdict.accepts

theorem exec_append_skip (packet : List UInt8) (pre rest : List Instruction) (acc : Nat) :
    exec packet (pre ++ rest) pre.length acc = exec packet rest 0 acc := by
  induction pre with
  | nil => rfl
  | cons i pre ih => exact ih

/-- A returned value is the operand of a return instruction of the program. -/
theorem exec_returned {packet : List UInt8} {program : List Instruction} {skip acc : Nat}
    {value : UInt32} (h : exec packet program skip acc = some (.returned value)) :
    ∃ i ∈ program, i.code = retK ∧ i.k = value := by
  induction program generalizing skip acc with
  | nil => cases h
  | cons i rest ih =>
    have tail : ∀ {skip acc}, exec packet rest skip acc = some (.returned value) →
        ∃ j ∈ i :: rest, j.code = retK ∧ j.k = value := by
      intro skip acc hr
      obtain ⟨j, hj, hc⟩ := ih hr
      exact ⟨j, List.mem_cons_of_mem _ hj, hc⟩
    cases skip with
    | succ skip => exact tail h
    | zero =>
      simp only [exec] at h
      split at h
      · exact tail h
      · cases h
      · split at h
        · exact tail h
        · split at h
          · exact tail h
          · split at h
            · rename_i hret
              cases h
              exact ⟨i, List.mem_cons_self, hret, rfl⟩
            · cases h

/-! ## Conjunctions of comparisons -/

structure Test where
  code : UInt16
  offset : UInt32
  mask : Option UInt32
  expected : UInt32
  deriving DecidableEq, Repr

namespace Test

def statement (code : UInt16) (k : UInt32) : Instruction :=
  { code := code, jt := 0, jf := 0, k := k }

def loadCode (t : Test) : List Instruction :=
  statement t.code t.offset :: (t.mask.map (statement andK)).toList

def applyMask (t : Test) (value : Nat) : Nat :=
  match t.mask with
  | none => value
  | some mask => value &&& mask.toNat

/-- The comparison reads inside the packet and finds the expected value. -/
def holds (packet : List UInt8) (t : Test) : Prop :=
  ∃ value, load packet t.code t.offset.toNat = some (some value) ∧
    t.applyMask value = t.expected.toNat

def inRange (packet : List UInt8) (t : Test) : Prop :=
  ∃ value, load packet t.code t.offset.toNat = some (some value)

def wellFormed (t : Test) : Prop := t.code = ldB ∨ t.code = ldH ∨ t.code = ldW

theorem load_isSome {t : Test} (h : t.wellFormed) (packet : List UInt8) (offset : Nat) :
    ∃ r, load packet t.code offset = some r := by
  unfold load
  rcases h with h | h | h <;> rw [h] <;> exact ⟨_, rfl⟩

end Test

def jump (t : Test) (jf : UInt8) : Instruction :=
  { code := jeqK, jt := 0, jf := jf, k := t.expected }

/-- Comparisons in order, then accept, then reject.  The false branch of every
comparison lands on the last instruction. -/
def compile (accept : UInt32) : List Test → List Instruction
  | [] => [Test.statement retK accept, Test.statement retK 0]
  | t :: ts =>
    let rest := compile accept ts
    t.loadCode ++ jump t (UInt8.ofNat (rest.length - 1)) :: rest

def verdict (packet : List UInt8) (accept : UInt32) : List Test → Verdict
  | [] => .returned accept
  | t :: ts =>
    match load packet t.code t.offset.toNat with
    | some (some value) =>
      if t.applyMask value = t.expected.toNat then verdict packet accept ts else .returned 0
    | _ => .outOfRange

theorem compile_length_pos (accept : UInt32) (ts : List Test) :
    2 ≤ (compile accept ts).length := by
  cases ts with
  | nil => exact Nat.le_refl 2
  | cons t ts => simp [compile, Test.loadCode]; have := compile_length_pos accept ts; omega

/-- The reject instruction closes the compiled program. -/
theorem compile_reject (accept : UInt32) (ts : List Test) :
    ∃ pre, compile accept ts = pre ++ [Test.statement retK 0] := by
  induction ts with
  | nil => exact ⟨[Test.statement retK accept], rfl⟩
  | cons t ts ih =>
    obtain ⟨pre, hpre⟩ := ih
    refine ⟨t.loadCode ++ jump t (UInt8.ofNat ((compile accept ts).length - 1)) :: pre, ?_⟩
    simp only [compile, hpre, List.append_assoc, List.cons_append]

/-- Jumping to the last instruction of a compiled program rejects. -/
theorem exec_compile_reject (packet : List UInt8) (accept : UInt32) (ts : List Test) (acc : Nat) :
    exec packet (compile accept ts) ((compile accept ts).length - 1) acc =
      some (.returned 0) := by
  obtain ⟨pre, hpre⟩ := compile_reject accept ts
  have hlen : (compile accept ts).length - 1 = pre.length := by rw [hpre]; simp
  rw [hlen, hpre, exec_append_skip]
  rfl

/-- Loading and masking leave the masked value in the accumulator. -/
theorem exec_loadCode {packet : List UInt8} {t : Test} {value : Nat}
    (h : load packet t.code t.offset.toNat = some (some value))
    (rest : List Instruction) (acc : Nat) :
    exec packet (t.loadCode ++ rest) 0 acc = exec packet rest 0 (t.applyMask value) := by
  cases hm : t.mask with
  | none => simp [Test.loadCode, Test.statement, Test.applyMask, exec, h, hm]
  | some mask =>
    have hand : load packet andK mask.toNat = none := rfl
    simp [Test.loadCode, Test.statement, Test.applyMask, exec, h, hm, hand]

theorem exec_jump (packet : List UInt8) (t : Test) (jf : UInt8) (rest : List Instruction)
    (acc : Nat) :
    exec packet (jump t jf :: rest) 0 acc =
      exec packet rest (if acc = t.expected.toNat then 0 else jf.toNat) acc := rfl

/-- A compiled conjunction answers its verdict as long as its jumps fit a byte. -/
theorem exec_compile {packet : List UInt8} {accept : UInt32} {ts : List Test}
    (hts : ∀ t ∈ ts, t.wellFormed) (hlen : (compile accept ts).length ≤ 256) (acc : Nat) :
    exec packet (compile accept ts) 0 acc = some (verdict packet accept ts) := by
  induction ts generalizing acc with
  | nil => rfl
  | cons t ts ih =>
    have hrest : (compile accept ts).length ≤ 256 := by
      simp only [compile, List.length_append, List.length_cons] at hlen
      omega
    have hpos := compile_length_pos accept ts
    obtain ⟨r, hr⟩ := Test.load_isSome (hts t List.mem_cons_self) packet t.offset.toNat
    simp only [compile, verdict]
    cases r with
    | none => simp [Test.loadCode, Test.statement, exec, hr]
    | some value =>
      rw [exec_loadCode hr, hr, exec_jump]
      by_cases he : t.applyMask value = t.expected.toNat
      · simpa [he] using ih (fun u hu => hts u (List.mem_cons_of_mem _ hu)) hrest _
      · have hjf : (UInt8.ofNat ((compile accept ts).length - 1)).toNat =
            (compile accept ts).length - 1 := by
          rw [UInt8.toNat_ofNat']
          exact Nat.mod_eq_of_lt (by omega)
        simp only [if_neg he, hjf]
        exact exec_compile_reject packet accept ts _

theorem verdict_accepts {packet : List UInt8} {accept : UInt32} (ha : accept ≠ 0)
    (ts : List Test) :
    (verdict packet accept ts).accepts = true ↔ ∀ t ∈ ts, t.holds packet := by
  induction ts with
  | nil => simp [verdict, Verdict.accepts, ha]
  | cons t ts ih =>
    rw [verdict, List.forall_mem_cons]
    cases hl : load packet t.code t.offset.toNat with
    | none => simp [Verdict.accepts, Test.holds, hl]
    | some r =>
      cases r with
      | none => simp [Verdict.accepts, Test.holds, hl]
      | some value =>
        by_cases he : t.applyMask value = t.expected.toNat
        · have ht : t.holds packet := ⟨value, hl, he⟩
          simp [he, ih, ht]
        · have ht : ¬ t.holds packet := by
            rintro ⟨v, hv, hve⟩
            rw [hl] at hv
            cases hv
            exact he hve
          simp [he, ht, Verdict.accepts]

/-- If every comparison that is reached reads inside the packet, the run ends at
a return. -/
theorem verdict_returned {packet : List UInt8} (accept : UInt32) {ts : List Test}
    (h : (∀ t ∈ ts, t.inRange packet) ∨
      ∃ t us, ts = t :: us ∧ t.inRange packet ∧ ¬ t.holds packet) :
    ∃ value, verdict packet accept ts = .returned value := by
  rcases h with h | ⟨t, us, rfl, ⟨value, hv⟩, hn⟩
  · induction ts with
    | nil => exact ⟨accept, rfl⟩
    | cons t ts ih =>
      obtain ⟨value, hv⟩ := h t List.mem_cons_self
      simp only [verdict, hv]
      by_cases he : t.applyMask value = t.expected.toNat
      · rw [if_pos he]
        exact ih (fun u hu => h u (List.mem_cons_of_mem _ hu))
      · exact ⟨0, by rw [if_neg he]⟩
  · have he : t.applyMask value ≠ t.expected.toNat := fun e => hn ⟨value, hv, e⟩
    exact ⟨0, by simp [verdict, hv, he]⟩

/-! ## Jump targets -/

/-- Both branches of every jump land on an instruction: a branch skips that many of the
instructions behind the jump. -/
def JumpsLand : List Instruction → Prop
  | [] => True
  | i :: rest =>
    (i.code = jeqK → i.jt.toNat < rest.length ∧ i.jf.toNat < rest.length) ∧ JumpsLand rest

theorem JumpsLand.getElem? {program : List Instruction} (h : JumpsLand program) {index : Nat}
    {i : Instruction} (hi : program[index]? = some i) (hcode : i.code = jeqK) :
    index + 1 + i.jt.toNat < program.length ∧ index + 1 + i.jf.toNat < program.length := by
  induction program generalizing index with
  | nil => cases hi
  | cons first rest ih =>
    rw [List.length_cons]
    cases index with
    | zero =>
      obtain rfl : first = i := Option.some.inj hi
      obtain ⟨htrue, hfalse⟩ := h.1 hcode
      omega
    | succ index =>
      have hrest := ih h.2 hi
      omega

theorem JumpsLand.statements {code : List Instruction} (hcode : ∀ i ∈ code, i.code ≠ jeqK)
    {rest : List Instruction} (h : JumpsLand rest) : JumpsLand (code ++ rest) := by
  induction code with
  | nil => exact h
  | cons i code ih =>
    obtain ⟨hi, hrest⟩ := List.forall_mem_cons.mp hcode
    exact ⟨fun hjump => absurd hjump hi, ih hrest⟩

theorem Test.loadCode_no_jump {t : Test} (h : t.wellFormed) : ∀ i ∈ t.loadCode, i.code ≠ jeqK := by
  rw [Test.loadCode, List.forall_mem_cons]
  constructor
  · show t.code ≠ jeqK
    rcases h with h | h | h <;> rw [h] <;> decide
  · cases t.mask with
    | none => exact fun i hi => absurd hi List.not_mem_nil
    | some mask =>
      intro i hi
      rw [List.mem_singleton.mp hi]
      exact (by decide : andK ≠ jeqK)

/-- A compiled conjunction jumps to its last instruction only. -/
theorem jumpsLand_compile (accept : UInt32) {ts : List Test} (hts : ∀ t ∈ ts, t.wellFormed) :
    JumpsLand (compile accept ts) := by
  induction ts with
  | nil =>
    have hne : retK ≠ jeqK := by decide
    exact ⟨fun h => absurd h hne, fun h => absurd h hne, trivial⟩
  | cons t ts ih =>
    obtain ⟨ht, hrest⟩ := List.forall_mem_cons.mp hts
    have hpos := compile_length_pos accept ts
    refine .statements (Test.loadCode_no_jump ht) ⟨fun _ => ⟨?_, ?_⟩, ih hrest⟩
    · show 0 < (compile accept ts).length
      omega
    · show (UInt8.ofNat ((compile accept ts).length - 1)).toNat < (compile accept ts).length
      rw [UInt8.toNat_ofNat']
      have hle := Nat.mod_le ((compile accept ts).length - 1) (2 ^ 8)
      omega

/-! ## Back-patching

An assembler that does not know the reject index yet emits the comparisons with
empty jumps, remembers where they are, and fills in their false branches once
the program is complete. -/

/-- The comparisons with empty jumps. -/
def emit : List Test → List Instruction
  | [] => []
  | t :: ts => t.loadCode ++ jump t 0 :: emit ts

/-- Indices of the jumps of `emit ts` placed after `start` instructions. -/
def rejectIndices (start : Nat) : List Test → List Nat
  | [] => []
  | t :: ts =>
    (start + t.loadCode.length) :: rejectIndices (start + t.loadCode.length + 1) ts

/-- Point the false branch of each listed instruction at `rejectIndex`.  The
distance is cut to a byte. -/
def patch (rejectIndex : Nat) (rejects : List Nat) (program : List Instruction) :
    List Instruction :=
  rejects.foldl (fun program index =>
    program.modify index (fun i => { i with jf := UInt8.ofNat (rejectIndex - index - 1) })) program

theorem emit_append (ts us : List Test) : emit (ts ++ us) = emit ts ++ emit us := by
  induction ts with
  | nil => rfl
  | cons t ts ih => simp [emit, ih]

theorem rejectIndices_append (start : Nat) (ts us : List Test) :
    rejectIndices start (ts ++ us) =
      rejectIndices start ts ++ rejectIndices (start + (emit ts).length) us := by
  induction ts generalizing start with
  | nil => rfl
  | cons t ts ih =>
    simp only [List.cons_append, rejectIndices, emit, ih, List.length_append, List.length_cons]
    congr 3
    omega

theorem mem_rejectIndices {start index : Nat} {ts : List Test}
    (h : index ∈ rejectIndices start ts) :
    start ≤ index ∧ index < start + (emit ts).length := by
  induction ts generalizing start with
  | nil => simp [rejectIndices] at h
  | cons t ts ih =>
    rw [rejectIndices, List.mem_cons] at h
    simp only [emit, List.length_append, List.length_cons]
    rcases h with h | h
    · omega
    · have hrest := ih h
      omega

theorem compile_length (accept : UInt32) (ts : List Test) :
    (compile accept ts).length = (emit ts).length + 2 := by
  induction ts with
  | nil => rfl
  | cons t ts ih => simp only [compile, emit, List.length_append, List.length_cons, ih]; omega

theorem modify_append_cons {pre post : List Instruction} {index : Nat} (i : Instruction)
    (f : Instruction → Instruction) (h : index = pre.length) :
    (pre ++ i :: post).modify index f = pre ++ f i :: post := by
  subst h
  induction pre with
  | nil => rfl
  | cons j pre ih => simp [ih]

theorem patch_cons (rejectIndex index : Nat) (rejects : List Nat)
    (program : List Instruction) :
    patch rejectIndex (index :: rejects) program =
      patch rejectIndex rejects (program.modify index
        (fun i => { i with jf := UInt8.ofNat (rejectIndex - index - 1) })) := rfl

/-- Back-patching the emitted comparisons gives the compiled program. -/
theorem patch_emit (accept : UInt32) (pre : List Instruction) (ts : List Test)
    (start : Nat) {rejectIndex : Nat} (hs : start = pre.length)
    (hr : rejectIndex = start + (emit ts).length + 1) :
    patch rejectIndex (rejectIndices start ts)
        (pre ++ (emit ts ++ [Test.statement retK accept, Test.statement retK 0])) =
      pre ++ compile accept ts := by
  induction ts generalizing pre start with
  | nil => rfl
  | cons t ts ih =>
    -- The first jump of `emit (t :: ts)` gets its distance and joins the prefix.
    let first := jump t (UInt8.ofNat ((compile accept ts).length - 1))
    simp only [emit, List.length_append, List.length_cons] at hr
    have hdist : rejectIndex - (start + t.loadCode.length) - 1 =
        (compile accept ts).length - 1 := by
      rw [compile_length]
      omega
    have hprogram : pre ++ (emit (t :: ts) ++
          [Test.statement retK accept, Test.statement retK 0]) =
        (pre ++ t.loadCode) ++ jump t 0 ::
          (emit ts ++ [Test.statement retK accept, Test.statement retK 0]) := by
      simp [emit]
    have hnext := ih (pre ++ t.loadCode ++ [first]) (start + t.loadCode.length + 1)
      (by simp only [List.length_append, List.length_cons, List.length_nil]; omega) (by omega)
    rw [rejectIndices, patch_cons, hprogram,
      modify_append_cons _ _ (by rw [List.length_append, hs]), hdist]
    simpa [compile, first, jump] using hnext

/-! ## Comparing a byte string word by word -/

/-- One comparison for each word of `bytes`, the first one `word` words past
`offset`. -/
def wordTests (offset : UInt32) (word : Nat) : List UInt8 → List Test
  | a :: b :: c :: d :: rest =>
    { code := ldW, offset := offset + UInt32.ofNat word * 4, mask := none,
      expected := UInt32.ofNat (be32 a b c d) } :: wordTests offset (word + 1) rest
  | _ => []

theorem wordTests_wellFormed (offset : UInt32) (word : Nat) (bytes : List UInt8) :
    ∀ t ∈ wordTests offset word bytes, t.wellFormed := by
  fun_induction wordTests offset word bytes with
  | case1 word a b c d rest ih =>
    rw [List.forall_mem_cons]
    exact ⟨Or.inr (Or.inr rfl), ih⟩
  | case2 => simp

theorem emit_wordTests_length (offset : UInt32) (word : Nat) (bytes : List UInt8) :
    (emit (wordTests offset word bytes)).length = 2 * (bytes.length / 4) := by
  fun_induction wordTests offset word bytes with
  | case1 word a b c d rest ih =>
    simp only [emit, Test.loadCode, Option.map_none, Option.toList_none, List.length_append,
      List.length_cons, List.length_nil, ih]
    omega
  | case2 bytes word hshort =>
    have hlt : bytes.length < 4 := by
      match bytes, hshort with
      | [], _ | [_], _ | [_, _], _ | [_, _, _], _ => simp
      | a :: b :: c :: d :: rest, h => exact absurd rfl (h a b c d rest)
    simp only [emit, List.length_nil]
    omega

theorem wordOffset_toNat {offset : UInt32} {word : Nat} (h : offset.toNat + 4 * word < 2 ^ 32) :
    (offset + UInt32.ofNat word * 4).toNat = offset.toNat + 4 * word := by
  rw [UInt32.toNat_add, UInt32.toNat_mul, UInt32.toNat_ofNat']
  have h4 : (4 : UInt32).toNat = 4 := rfl
  rw [h4]
  omega

theorem loadW_eq_be32 {packet : List UInt8} {offset : Nat} {a b c d : UInt8} :
    loadW packet offset = some (be32 a b c d) ↔
      (packet.drop offset).take 4 = [a, b, c, d] := by
  unfold loadW
  match packet.drop offset with
  | [] | [_] | [_, _] | [_, _, _] => simp
  | x :: y :: z :: w :: rest =>
    simp only [Option.some.injEq, List.take_succ_cons, List.take_zero, List.cons.injEq, and_true]
    constructor
    · exact be32_inj
    · rintro ⟨rfl, rfl, rfl, rfl⟩
      rfl

theorem loadW_isSome (packet : List UInt8) (offset : Nat) (h : offset + 4 ≤ packet.length) :
    ∃ value, loadW packet offset = some value := by
  have hlen : 4 ≤ (packet.drop offset).length := by rw [List.length_drop]; omega
  unfold loadW
  match packet.drop offset, hlen with
  | _ :: _ :: _ :: _ :: _, _ => exact ⟨_, rfl⟩

theorem wordTests_holds {packet : List UInt8} {offset : UInt32} {word : Nat}
    {bytes : List UInt8} (h4 : 4 ∣ bytes.length)
    (hoffset : offset.toNat + 4 * word + bytes.length ≤ 2 ^ 32) :
    (∀ t ∈ wordTests offset word bytes, t.holds packet) ↔
      (packet.drop (offset.toNat + 4 * word)).take bytes.length = bytes := by
  fun_induction wordTests offset word bytes with
  | case1 word a b c d rest ih =>
    simp only [List.length_cons] at h4 hoffset
    have hstep : offset.toNat + 4 * (word + 1) = offset.toNat + 4 * word + 4 := by omega
    rw [List.forall_mem_cons, ih (by omega) (by omega), hstep]
    have hhead : Test.holds packet
        { code := ldW, offset := offset + UInt32.ofNat word * 4, mask := none,
          expected := UInt32.ofNat (be32 a b c d) } ↔
        (packet.drop (offset.toNat + 4 * word)).take 4 = [a, b, c, d] := by
      have hk : (UInt32.ofNat (be32 a b c d)).toNat = be32 a b c d := by
        rw [UInt32.toNat_ofNat']
        exact Nat.mod_eq_of_lt (be32_lt a b c d)
      have hw : (offset + UInt32.ofNat word * 4).toNat = offset.toNat + 4 * word :=
        wordOffset_toNat (by omega)
      rw [← loadW_eq_be32, ← hw]
      constructor
      · rintro ⟨value, hv, he⟩
        rw [← hk, ← he]
        exact Option.some.inj hv
      · intro h
        exact ⟨be32 a b c d, congrArg some h, hk.symm⟩
    have hdrop : packet.drop (offset.toNat + 4 * word + 4) =
        (packet.drop (offset.toNat + 4 * word)).drop 4 := by rw [List.drop_drop]
    rw [hhead, hdrop]
    match packet.drop (offset.toNat + 4 * word) with
    | [] | [_] | [_, _] | [_, _, _] => simp
    | x :: y :: z :: w :: q => simp [and_assoc]
  | case2 bytes word hshort =>
    match bytes, hshort, h4 with
    | [], _, _ => simp
    | [_], _, h | [_, _], _, h | [_, _, _], _, h => simp at h
    | a :: b :: c :: d :: rest, h, _ => exact absurd rfl (h a b c d rest)

theorem wordTests_inRange {packet : List UInt8} {offset : UInt32} {word : Nat}
    {bytes : List UInt8} (hoffset : offset.toNat + 4 * word + bytes.length ≤ 2 ^ 32)
    (hpacket : offset.toNat + 4 * word + bytes.length ≤ packet.length) :
    ∀ t ∈ wordTests offset word bytes, t.inRange packet := by
  fun_induction wordTests offset word bytes with
  | case1 word a b c d rest ih =>
    simp only [List.length_cons] at hoffset hpacket
    rw [List.forall_mem_cons]
    refine ⟨?_, ih (by omega) (by omega)⟩
    obtain ⟨value, hvalue⟩ := loadW_isSome packet (offset.toNat + 4 * word) (by omega)
    refine ⟨value, ?_⟩
    simp only [wordOffset_toNat (show offset.toNat + 4 * word < 2 ^ 32 by omega)]
    exact congrArg some hvalue
  | case2 => simp

end ClassicBpf
