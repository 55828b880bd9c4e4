import ArcadiaTio.Lib.ReflectedCrc

/-!
# CRC-32C

The table-driven reflected CRC of the format (`format.rs`, end of file): polynomial
`0x82F63B78`, initial state all ones, final complement.
-/

namespace ArcadiaTio.Ocb

/-- The polynomial, with its bits reflected. -/
def crc32cPoly : UInt32 := 0x82F63B78

/-- One bit of the table construction. -/
def crc32cTableBit (crc : UInt32) : UInt32 :=
  if crc &&& 1 ≠ 0 then (crc >>> 1) ^^^ crc32cPoly else crc >>> 1

/-- The 256-entry lookup table: the entry of `i` is `i` shifted through eight bits. -/
def crc32cTable (i : Fin 256) : UInt32 := Nat.repeat crc32cTableBit 8 i.val.toUInt32

/-- The state before any byte. -/
def crc32cInit : UInt32 := 0xFFFFFFFF

/-- Feed one byte to the running state. -/
def crc32cStep (state : UInt32) (byte : UInt8) : UInt32 :=
  crc32cTable (Fin.ofNat 256 ((state ^^^ byte.toUInt32) &&& 0xFF).toNat) ^^^ (state >>> 8)

/-- Feed a block of bytes to the running state. -/
def crc32cUpdate (state : UInt32) (bytes : List UInt8) : UInt32 := bytes.foldl crc32cStep state

/-- The checksum of a state. -/
def crc32cFinish (state : UInt32) : UInt32 := ~~~ state

/-- The checksum of some bytes. -/
def crc32c (bytes : List UInt8) : UInt32 := crc32cFinish (crc32cUpdate crc32cInit bytes)

@[simp] lemma crc32cUpdate_nil (state : UInt32) : crc32cUpdate state [] = state := rfl

/-- Feeding a block in two parts is feeding it at once. -/
lemma crc32cUpdate_append (state : UInt32) (a b : List UInt8) :
    crc32cUpdate state (a ++ b) = crc32cUpdate (crc32cUpdate state a) b :=
  List.foldl_append

-- The check value of the CRC-32C parameter set, for the ASCII digits `1` to `9`.
example : crc32c [49, 50, 51, 52, 53, 54, 55, 56, 57] = 0xE3069283 := by decide +kernel

/-! ### The step as eight shifts

One bit of the table construction is linear in exclusive or, and it loses nothing: the highest bit
of the result tells which of its two branches was taken.  The table entry of the low byte together
with the state moved down by eight places is therefore eight such bits of the whole word
(`crc32cStep_eq`), and feeding a byte is injective both in the state and in the byte. -/

/-- Eight bits of the table construction, on a whole word. -/
def crc32cShift8 (word : UInt32) : UInt32 := Nat.repeat crc32cTableBit 8 word

lemma and_one_eq_zero (x : UInt32) : x &&& 1 = 0 ↔ x.toBitVec.getLsbD 0 = false := by
  have hbit : (x &&& 1).toBitVec = BitVec.setWidth 32 (BitVec.ofBool (x.toBitVec.getLsbD 0)) :=
    BitVec.and_one_eq_setWidth_ofBool_getLsbD
  rw [← UInt32.toBitVec_inj, hbit]
  cases x.toBitVec.getLsbD 0 <;> simp

/-- One bit of the table construction, on bit vectors. -/
lemma toBitVec_crc32cTableBit (x : UInt32) : (crc32cTableBit x).toBitVec =
    if x.toBitVec.getLsbD 0 then (x.toBitVec >>> 1) ^^^ crc32cPoly.toBitVec
      else x.toBitVec >>> 1 := by
  rw [crc32cTableBit]
  cases hlow : x.toBitVec.getLsbD 0 with
  | false =>
    rw [if_neg (fun h => h ((and_one_eq_zero x).mpr hlow))]
    rfl
  | true =>
    rw [if_pos (by rw [Ne, and_one_eq_zero, hlow]; decide)]
    rfl

lemma crc32cTableBit_xor (x y : UInt32) :
    crc32cTableBit (x ^^^ y) = crc32cTableBit x ^^^ crc32cTableBit y := by
  apply UInt32.toBitVec_inj.mp
  rw [UInt32.toBitVec_xor]
  simp only [toBitVec_crc32cTableBit, UInt32.toBitVec_xor, BitVec.getLsbD_xor,
    BitVec.ushiftRight_xor_distrib]
  generalize crc32cPoly.toBitVec = p
  cases x.toBitVec.getLsbD 0 <;> cases y.toBitVec.getLsbD 0
  · rfl
  · simp [BitVec.xor_assoc]
  · simp only [Bool.bne_false, if_true, Bool.false_eq_true, if_false]
    ac_rfl
  · have hp : ∀ a b : BitVec 32, a ^^^ p ^^^ (b ^^^ p) = a ^^^ b := by
      intro a b
      rw [BitVec.xor_comm b p, BitVec.xor_assoc, ← BitVec.xor_assoc p p b, BitVec.xor_self,
        BitVec.zero_xor]
    simp [hp]

/-- The highest bit of the result is the lowest bit of the word. -/
lemma getLsbD_crc32cTableBit (x : UInt32) :
    (crc32cTableBit x).toBitVec.getLsbD 31 = x.toBitVec.getLsbD 0 := by
  have hpoly : crc32cPoly.toBitVec.getLsbD 31 = true := by decide
  rw [toBitVec_crc32cTableBit]
  cases x.toBitVec.getLsbD 0 with
  | false => simp
  | true => simp [hpoly]

lemma crc32cTableBit_injective {x y : UInt32} (h : crc32cTableBit x = crc32cTableBit y) :
    x = y := by
  have hlow : x.toBitVec.getLsbD 0 = y.toBitVec.getLsbD 0 := by
    rw [← getLsbD_crc32cTableBit, h, getLsbD_crc32cTableBit]
  have hshift : x.toBitVec >>> 1 = y.toBitVec >>> 1 := by
    have hbits := congrArg UInt32.toBitVec h
    rw [toBitVec_crc32cTableBit, toBitVec_crc32cTableBit, hlow] at hbits
    cases hy : y.toBitVec.getLsbD 0 with
    | false =>
      rw [hy] at hbits
      simpa only [Bool.false_eq_true, if_false] using hbits
    | true =>
      rw [hy] at hbits
      simpa only [if_true, BitVec.xor_left_inj] using hbits
  apply UInt32.toBitVec_inj.mp
  apply BitVec.eq_of_getLsbD_eq
  intro i hi
  rcases i with _ | i
  · exact hlow
  · have hbit := congrArg (fun v : BitVec 32 => v.getLsbD i) hshift
    simpa [BitVec.getLsbD_ushiftRight, Nat.add_comm] using hbit

section Repeat

variable (k : ℕ) (x y : UInt32)

lemma repeat_crc32cTableBit_xor : Nat.repeat crc32cTableBit k (x ^^^ y) =
    Nat.repeat crc32cTableBit k x ^^^ Nat.repeat crc32cTableBit k y := by
  induction k with
  | zero => rfl
  | succ k ih => rw [Nat.repeat, ih, crc32cTableBit_xor, Nat.repeat, Nat.repeat]

variable {k x y} in
lemma repeat_crc32cTableBit_injective
    (h : Nat.repeat crc32cTableBit k x = Nat.repeat crc32cTableBit k y) : x = y := by
  induction k with
  | zero => exact h
  | succ k ih => exact ih (crc32cTableBit_injective h)

/-- A word whose low byte is zero only moves down. -/
lemma repeat_crc32cTableBit_of_low (hlow : ∀ i < 8, x.toBitVec.getLsbD i = false) (hk : k ≤ 8) :
    (Nat.repeat crc32cTableBit k x).toBitVec = x.toBitVec >>> k := by
  induction k with
  | zero => rw [Nat.repeat, BitVec.ushiftRight_zero]
  | succ k ih =>
    have hbit : (x.toBitVec >>> k).getLsbD 0 = false := by
      rw [BitVec.getLsbD_ushiftRight]
      exact hlow _ (by omega)
    rw [Nat.repeat, toBitVec_crc32cTableBit, ih (by omega), hbit, if_neg (by decide),
      BitVec.shiftRight_add]

end Repeat

/-- The low byte of a word and the rest of it. -/
lemma eq_low_xor_high (x : UInt32) : x = (x &&& 0xFF) ^^^ (x &&& ~~~0xFF) := by
  apply UInt32.toBitVec_inj.mp
  ext i hi
  simp only [UInt32.toBitVec_xor, UInt32.toBitVec_and, UInt32.toBitVec_not, BitVec.getElem_xor,
    BitVec.getElem_and, BitVec.getElem_not]
  cases x.toBitVec[i] <;> cases (UInt32.toBitVec 0xFF)[i] <;> rfl

lemma getLsbD_byteMask (i : ℕ) : (UInt32.toBitVec 0xFF).getLsbD i = decide (i < 8) := by
  have hmask : UInt32.toBitVec 0xFF = BitVec.ofNat 32 (2 ^ 8 - 1) := by decide
  rw [hmask, BitVec.getLsbD_ofNat, Nat.testBit_two_pow_sub_one]
  by_cases h : i < 8
  · simp [h, show i < 32 by omega]
  · simp [h]

/-- A byte does not reach the part of the state that is moved down. -/
lemma shiftRight_xor_byte (state : UInt32) (byte : UInt8) :
    ((state ^^^ byte.toUInt32) &&& ~~~0xFF).toBitVec >>> 8 = (state >>> 8).toBitVec := by
  have hstate : (state >>> 8).toBitVec = state.toBitVec >>> 8 := rfl
  have hbyte : ∀ i, 8 ≤ i → byte.toUInt32.toBitVec.getLsbD i = false := by
    intro i hi
    simp only [UInt8.toBitVec_toUInt32, BitVec.getLsbD_setWidth]
    rw [BitVec.getLsbD_of_ge _ _ hi, Bool.and_false]
  rw [hstate]
  apply BitVec.eq_of_getLsbD_eq
  intro i hi
  simp only [BitVec.getLsbD_ushiftRight, UInt32.toBitVec_and, UInt32.toBitVec_xor,
    UInt32.toBitVec_not, BitVec.getLsbD_and, BitVec.getLsbD_xor, BitVec.getLsbD_not,
    getLsbD_byteMask, hbyte (8 + i) (by omega)]
  by_cases hlt : 8 + i < 32
  · simp [hlt]
  · simp [BitVec.getLsbD_of_ge state.toBitVec (8 + i) (by omega)]

/-- Feeding a byte is eight bits of the table construction on the word it is added to. -/
lemma crc32cStep_eq (state : UInt32) (byte : UInt8) :
    crc32cStep state byte = crc32cShift8 (state ^^^ byte.toUInt32) := by
  have hlow : ∀ i < 8, ((state ^^^ byte.toUInt32) &&& ~~~0xFF).toBitVec.getLsbD i = false := by
    intro i hi
    rw [UInt32.toBitVec_and, UInt32.toBitVec_not, BitVec.getLsbD_and, BitVec.getLsbD_not,
      getLsbD_byteMask, decide_eq_true hi, Bool.not_true, Bool.and_false, Bool.and_false]
  have hhigh : Nat.repeat crc32cTableBit 8 ((state ^^^ byte.toUInt32) &&& ~~~0xFF) =
      state >>> 8 := by
    apply UInt32.toBitVec_inj.mp
    rw [repeat_crc32cTableBit_of_low _ _ hlow (by omega), shiftRight_xor_byte]
  have hindex : ((Fin.ofNat 256 ((state ^^^ byte.toUInt32) &&& 0xFF).toNat).val).toUInt32 =
      (state ^^^ byte.toUInt32) &&& 0xFF := by
    have hlt : ((state ^^^ byte.toUInt32) &&& 0xFF).toNat < 256 := by
      rw [UInt32.toNat_and]
      exact Nat.lt_of_le_of_lt Nat.and_le_right (by decide)
    rw [Fin.val_ofNat, Nat.mod_eq_of_lt hlt]
    simp
  have hsplit : crc32cShift8 (state ^^^ byte.toUInt32) =
      Nat.repeat crc32cTableBit 8 ((state ^^^ byte.toUInt32) &&& 0xFF) ^^^
        Nat.repeat crc32cTableBit 8 ((state ^^^ byte.toUInt32) &&& ~~~0xFF) := by
    rw [crc32cShift8, ← repeat_crc32cTableBit_xor, ← eq_low_xor_high]
  rw [hsplit, hhigh, crc32cStep, crc32cTable, hindex]

lemma crc32cStep_state_injective {s t : UInt32} {byte : UInt8}
    (h : crc32cStep s byte = crc32cStep t byte) : s = t := by
  rw [crc32cStep_eq, crc32cStep_eq] at h
  exact (UInt32.xor_left_inj _).mp (repeat_crc32cTableBit_injective h)

lemma crc32cStep_byte_injective {state : UInt32} {a b : UInt8}
    (h : crc32cStep state a = crc32cStep state b) : a = b := by
  rw [crc32cStep_eq, crc32cStep_eq] at h
  have hword : a.toUInt32 = b.toUInt32 :=
    (UInt32.xor_right_inj _).mp (repeat_crc32cTableBit_injective h)
  apply UInt8.toNat_inj.mp
  have hnat := congrArg UInt32.toNat hword
  simpa using hnat

lemma crc32cUpdate_state_injective {s t : UInt32} {bytes : List UInt8}
    (h : crc32cUpdate s bytes = crc32cUpdate t bytes) : s = t := by
  induction bytes generalizing s t with
  | nil => exact h
  | cons b bytes ih => exact crc32cStep_state_injective (ih h)

lemma crc32cFinish_injective {s t : UInt32} (h : crc32cFinish s = crc32cFinish t) : s = t :=
  UInt32.not_inj.mp h

/-- Two strings that differ in exactly one byte have different checksums. -/
theorem crc32c_ne_of_ne {pre post : List UInt8} {a b : UInt8} (hab : a ≠ b) :
    crc32c (pre ++ a :: post) ≠ crc32c (pre ++ b :: post) := by
  intro h
  have hupdate := crc32cFinish_injective h
  rw [crc32cUpdate_append, crc32cUpdate_append] at hupdate
  exact hab (crc32cStep_byte_injective (crc32cUpdate_state_injective hupdate))

/-! ### The bitwise definition -/

open ArcadiaTio.Lib ReflectedCrc

/-- The reflected CRC of the polynomial `0x82F63B78`, bit by bit: the register starts with all
ones and is complemented at the end. -/
def crc32cBitwise (bytes : List UInt8) : UInt32 :=
  .ofBitVec (~~~ feedBits 0x82F63B78#32 (BitVec.allOnes 32) (messageBits bytes))

lemma toBitVec_repeat_crc32cTableBit (k : ℕ) (x : UInt32) :
    (Nat.repeat crc32cTableBit k x).toBitVec =
      Nat.repeat (shiftBit crc32cPoly.toBitVec) k x.toBitVec := by
  induction k with
  | zero => rfl
  | succ k ih => rw [Nat.repeat, toBitVec_crc32cTableBit, ih, Nat.repeat, shiftBit]

/-- Feeding a byte through the table is feeding its eight bits. -/
lemma toBitVec_crc32cStep (state : UInt32) (byte : UInt8) : (crc32cStep state byte).toBitVec =
    feedBits crc32cPoly.toBitVec state.toBitVec (lowBits 8 byte.toBitVec) := by
  have hbits : lowBits 8 byte.toBitVec = lowBits 8 byte.toUInt32.toBitVec := by
    refine List.map_congr_left fun i hi => ?_
    have hlt := List.mem_range.mp hi
    rw [UInt8.toBitVec_toUInt32, BitVec.getLsbD_setWidth, decide_eq_true (by omega),
      Bool.true_and]
  have hbyte : byte.toUInt32.toBitVec >>> 8 = 0 := by
    apply BitVec.eq_of_toNat_eq
    rw [BitVec.toNat_ushiftRight, UInt32.toNat_toBitVec, UInt8.toNat_toUInt32,
      Nat.shiftRight_eq_div_pow]
    exact Nat.div_eq_of_lt byte.toNat_lt
  rw [crc32cStep_eq, crc32cShift8, toBitVec_repeat_crc32cTableBit, hbits,
    feedBits_lowBits_of_shiftRight_eq_zero _ hbyte, UInt32.toBitVec_xor]

lemma toBitVec_crc32cUpdate (state : UInt32) (bytes : List UInt8) :
    (crc32cUpdate state bytes).toBitVec =
      feedBits crc32cPoly.toBitVec state.toBitVec (messageBits bytes) := by
  induction bytes generalizing state with
  | nil => rfl
  | cons b bytes ih =>
    rw [messageBits_cons, feedBits_append, ← toBitVec_crc32cStep]
    exact ih _

/-- The table-driven checksum is the bitwise one. -/
lemma crc32c_eq_crc32cBitwise (bytes : List UInt8) : crc32c bytes = crc32cBitwise bytes := by
  apply UInt32.toBitVec_inj.mp
  rw [crc32c, crc32cFinish, UInt32.toBitVec_not, toBitVec_crc32cUpdate, crc32cBitwise]
  rfl

/-- Feeding any list of blocks is feeding them joined. -/
lemma foldl_crc32cUpdate (state : UInt32) (blocks : List (List UInt8)) :
    blocks.foldl crc32cUpdate state = crc32cUpdate state blocks.flatten := by
  induction blocks generalizing state with
  | nil => rfl
  | cons block blocks ih => rw [List.foldl_cons, ih, List.flatten_cons, crc32cUpdate_append]

end ArcadiaTio.Ocb
