import Mathlib.Tactic.Lemma
import Mathlib.Data.Nat.Notation

/-!
# Reflected cyclic redundancy checks, bit by bit

A reflected CRC is a shift register: the bits of the message enter at the low end, least
significant bit of each byte first, and whenever a one is shifted out the polynomial is added.
`feedBits` is that register, for any width and polynomial.

Tables do not follow the message bit by bit; they add a whole piece of it to the register and shift
afterwards.  `feedBits_lowBits` says that this is the same: adding `n` bits at once and shifting
`n` times is feeding them one by one.
-/

namespace ArcadiaTio.Lib.ReflectedCrc

variable {w : ℕ} (poly : BitVec w)

/-- Shift a register by one place, with no message bit. -/
def shiftBit (s : BitVec w) : BitVec w := if s.getLsbD 0 then (s >>> 1) ^^^ poly else s >>> 1

/-- Feed one message bit to the register. -/
def feedBit (s : BitVec w) (bit : Bool) : BitVec w :=
  if s.getLsbD 0 ^^ bit then (s >>> 1) ^^^ poly else s >>> 1

/-- Feed message bits to the register, in order. -/
def feedBits (s : BitVec w) (bits : List Bool) : BitVec w := bits.foldl (feedBit poly) s

/-- The `n` low bits of a word, least significant first. -/
def lowBits {v : ℕ} (n : ℕ) (x : BitVec v) : List Bool := (List.range n).map x.getLsbD

/-- The message bits of a string of bytes. -/
def messageBits (bytes : List UInt8) : List Bool := bytes.flatMap fun b => lowBits 8 b.toBitVec

@[simp] lemma messageBits_nil : messageBits [] = [] := rfl

@[simp] lemma messageBits_cons (b : UInt8) (bytes : List UInt8) :
    messageBits (b :: bytes) = lowBits 8 b.toBitVec ++ messageBits bytes := rfl

@[simp] lemma feedBits_nil (s : BitVec w) : feedBits poly s [] = s := rfl

lemma feedBits_append (s : BitVec w) (a b : List Bool) :
    feedBits poly s (a ++ b) = feedBits poly (feedBits poly s a) b := List.foldl_append

lemma lowBits_succ {v : ℕ} (n : ℕ) (x : BitVec v) :
    lowBits (n + 1) x = lowBits n x ++ [x.getLsbD n] := by
  rw [lowBits, List.range_succ, List.map_append]
  rfl

/-- What is left of an added word after the register has moved past it. -/
lemma feedBit_xor_shiftRight (s x : BitVec w) (n : ℕ) :
    feedBit poly (s ^^^ (x >>> n)) (x.getLsbD n) = shiftBit poly s ^^^ (x >>> (n + 1)) := by
  have hlow : ((s ^^^ (x >>> n)).getLsbD 0 ^^ x.getLsbD n) = s.getLsbD 0 := by
    rw [BitVec.getLsbD_xor, BitVec.getLsbD_ushiftRight, Nat.add_zero]
    cases s.getLsbD 0 <;> cases x.getLsbD n <;> rfl
  have hshift : (s ^^^ (x >>> n)) >>> 1 = (s >>> 1) ^^^ (x >>> (n + 1)) := by
    rw [BitVec.ushiftRight_xor_distrib, BitVec.shiftRight_add]
  rw [feedBit, shiftBit, hlow, hshift]
  cases s.getLsbD 0 with
  | false => rfl
  | true =>
    rw [if_pos rfl, if_pos rfl, BitVec.xor_assoc, BitVec.xor_assoc,
      BitVec.xor_comm (x >>> (n + 1)) poly]

/-- Adding a word to the register and shifting `n` times is feeding the low bits of the word one
by one; what lies above them is still added. -/
lemma feedBits_lowBits (s x : BitVec w) (n : ℕ) :
    feedBits poly s (lowBits n x) = Nat.repeat (shiftBit poly) n (s ^^^ x) ^^^ (x >>> n) := by
  induction n with
  | zero =>
    rw [Nat.repeat, BitVec.ushiftRight_zero, BitVec.xor_assoc, BitVec.xor_self, BitVec.xor_zero]
    rfl
  | succ n ih =>
    rw [lowBits_succ, feedBits_append, ih]
    exact feedBit_xor_shiftRight poly _ x n

/-- A word with no further bits is fed completely. -/
lemma feedBits_lowBits_of_shiftRight_eq_zero {s x : BitVec w} {n : ℕ} (h : x >>> n = 0) :
    feedBits poly s (lowBits n x) = Nat.repeat (shiftBit poly) n (s ^^^ x) := by
  rw [feedBits_lowBits, h]
  exact BitVec.xor_zero

end ArcadiaTio.Lib.ReflectedCrc
