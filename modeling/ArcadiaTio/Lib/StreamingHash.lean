import Mathlib.Tactic.Lemma
import Mathlib.Data.Nat.Notation

/-!
# Hashes that are fed in pieces

A hash function is a state that bytes are fed to, and feeding it two pieces is feeding it both at
once (`update_append`).  Digests are written in hexadecimal digits, which determine them
(`hexChars_injective`).
-/

namespace ArcadiaTio.Lib

/-- A hash function, by its running state. -/
structure StreamingHash (State : Type) where
  new : State
  update : State → List UInt8 → State
  update_nil : ∀ s, update s [] = s
  update_append : ∀ s a b, update s (a ++ b) = update (update s a) b

namespace StreamingHash

variable {State : Type} (hash : StreamingHash State)

/-- The state after some bytes. -/
def whole (bytes : List UInt8) : State := hash.update hash.new bytes

end StreamingHash

/-! ### Hexadecimal digits -/

/-- The number that hexadecimal digits stand for. -/
def hexValue (digits : List Char) : ℕ :=
  digits.foldl (fun value c => 16 * value + "0123456789abcdef".toList.idxOf c) 0

lemma hexValue_concat (digits : List Char) (c : Char) :
    hexValue (digits ++ [c]) = 16 * hexValue digits + "0123456789abcdef".toList.idxOf c := by
  simp [hexValue]

lemma idxOf_digitChar : ∀ n < 16, "0123456789abcdef".toList.idxOf n.digitChar = n := by decide

lemma hexValue_toDigits (n : ℕ) : hexValue (Nat.toDigits 16 n) = n := by
  induction n using Nat.strongRecOn with
  | ind n ih =>
    rcases Nat.lt_or_ge n 16 with hn | hn
    · have hsingle := hexValue_concat [] n.digitChar
      rw [List.nil_append, idxOf_digitChar n hn] at hsingle
      rw [Nat.toDigits_of_lt_base hn, hsingle]
      simp [hexValue]
    · rw [Nat.toDigits_of_base_le (by decide) hn, hexValue_concat, ih _ (by omega),
        idxOf_digitChar _ (by omega)]
      omega

lemma toLower_digitChar : ∀ n < 16, n.digitChar.toLower = n.digitChar := by decide

lemma map_toLower_toDigits (n : ℕ) :
    (Nat.toDigits 16 n).map Char.toLower = Nat.toDigits 16 n := by
  induction n using Nat.strongRecOn with
  | ind n ih =>
    rcases Nat.lt_or_ge n 16 with hn | hn
    · simp [Nat.toDigits_of_lt_base hn, toLower_digitChar n hn]
    · have hlast := toLower_digitChar (n % 16) (by omega)
      rw [Nat.toDigits_of_base_le (by decide) hn, List.map_append, ih _ (by omega),
        List.map_singleton, hlast]

/-- Zeros in front do not change the number. -/
lemma hexValue_leftpad (n : ℕ) (digits : List Char) :
    hexValue (List.leftpad n '0' digits) = hexValue digits := by
  rw [List.leftpad]
  induction n - digits.length with
  | zero => simp
  | succ k ih => simpa [List.replicate_succ, hexValue] using ih

/-- The lower-case digit of a number below 16. -/
def hexDigit (n : ℕ) : Char := "0123456789abcdef".toList.getD n '0'

/-- Two digits for every byte, the high one first. -/
def hexChars (bytes : List UInt8) : List Char :=
  bytes.flatMap fun (byte : UInt8) => [hexDigit (byte.toNat >>> 4), hexDigit (byte.toNat &&& 0x0f)]

@[simp] lemma hexChars_nil : hexChars [] = [] := rfl

@[simp] lemma hexChars_cons (byte : UInt8) (bytes : List UInt8) : hexChars (byte :: bytes) =
    hexDigit (byte.toNat >>> 4) :: hexDigit (byte.toNat &&& 0x0f) :: hexChars bytes := rfl

lemma toLower_hexDigit : ∀ n < 16, (hexDigit n).toLower = hexDigit n := by decide

lemma hexDigit_injective : ∀ m < 16, ∀ n < 16, hexDigit m = hexDigit n → m = n := by decide

/-- The two digits of a byte are below 16 and determine it. -/
lemma digits_of_byte (byte : UInt8) : byte.toNat >>> 4 < 16 ∧ byte.toNat &&& 0x0f < 16 ∧
    byte.toNat = 16 * (byte.toNat >>> 4) + (byte.toNat &&& 0x0f) := by
  have hlt := byte.toNat_lt
  have hlow : byte.toNat &&& 0x0f = byte.toNat % 16 := Nat.and_two_pow_sub_one_eq_mod _ 4
  rw [hlow, Nat.shiftRight_eq_div_pow]
  omega

/-- Written out, bytes are in lower case. -/
lemma map_toLower_hexChars (bytes : List UInt8) :
    (hexChars bytes).map Char.toLower = hexChars bytes := by
  induction bytes with
  | nil => rfl
  | cons byte rest ih =>
    obtain ⟨hhigh, hlow, -⟩ := digits_of_byte byte
    simp [ih, toLower_hexDigit _ hhigh, toLower_hexDigit _ hlow]

/-- The digits determine the bytes. -/
lemma hexChars_injective {a b : List UInt8} (h : hexChars a = hexChars b) : a = b := by
  induction a generalizing b with
  | nil =>
    cases b with
    | nil => rfl
    | cons byte rest => simp at h
  | cons x xs ih =>
    cases b with
    | nil => simp at h
    | cons y ys =>
      obtain ⟨hhigh, hlow, hx⟩ := digits_of_byte x
      obtain ⟨hhigh', hlow', hy⟩ := digits_of_byte y
      rw [hexChars_cons, hexChars_cons, List.cons.injEq, List.cons.injEq] at h
      have hhighs := hexDigit_injective _ hhigh _ hhigh' h.1
      have hlows := hexDigit_injective _ hlow _ hlow' h.2.1
      have hsame : x.toNat = y.toNat := by omega
      rw [UInt8.toNat_inj.mp hsame, ih h.2.2]

end ArcadiaTio.Lib
