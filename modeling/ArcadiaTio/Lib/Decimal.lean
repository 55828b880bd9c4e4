import Mathlib.Tactic.Lemma
import Mathlib.Tactic.Ring
import Mathlib.Data.Nat.Notation

/-!
# Decimal numbers in texts

Numbers are printed in decimal and parsed back, and several of them are joined by a separator.
A parser takes an optional sign and then digits only, and refuses what does not fit its width; what
was printed is read back (`parseUnsigned_repr`, `parseSigned_repr`), alone and from a joined text
(`splitText_joinText`).
-/

namespace ArcadiaTio.Lib

/-! ### Digits -/

/-- The value of a nonempty list of decimal digits. -/
def digitsValue (cs : List Char) : Option ℕ :=
  if !cs.isEmpty && cs.all Char.isDigit then some (Nat.ofDigitChars 10 cs 0) else none

lemma isDigit_of_mem_toList_repr {n : ℕ} {c : Char} (h : c ∈ n.repr.toList) : c.isDigit := by
  rw [Nat.toList_repr] at h
  exact Nat.isDigit_of_mem_toDigits (by decide) (by decide) h

lemma digitsValue_toList_repr (n : ℕ) : digitsValue n.repr.toList = some n := by
  have hdigits : n.repr.toList.all Char.isDigit = true :=
    List.all_eq_true.mpr fun c hc => isDigit_of_mem_toList_repr hc
  have hne : n.repr.toList.isEmpty = false := by
    rw [List.isEmpty_eq_false_iff, Nat.toList_repr]
    exact Nat.toDigits_ne_nil
  rw [digitsValue, hdigits, hne, Bool.not_false, Bool.and_self, if_pos rfl, Nat.toList_repr,
    Nat.ofDigitChars_ten_toDigits]

/-- A printed number starts with a digit. -/
lemma exists_toList_repr (n : ℕ) : ∃ c cs, n.repr.toList = c :: cs ∧ c.isDigit := by
  cases h : n.repr.toList with
  | nil =>
    rw [Nat.toList_repr] at h
    exact absurd h Nat.toDigits_ne_nil
  | cons c cs => exact ⟨c, cs, rfl, isDigit_of_mem_toList_repr (h ▸ List.mem_cons_self)⟩

/-! ### Unsigned and signed numbers -/

/-- Leave out one leading plus sign. -/
def stripPlus : List Char → List Char
  | '+' :: cs => cs
  | cs => cs

lemma stripPlus_of_isDigit {c : Char} {cs : List Char} (h : c.isDigit) :
    stripPlus (c :: cs) = c :: cs := by
  have hne : c ≠ '+' := by
    rintro rfl
    exact absurd h (by decide)
  unfold stripPlus
  split
  · rename_i heq
    exact absurd (List.cons.inj heq).1 hne
  · rfl

/-- Parse an unsigned number of the given width. -/
def parseUnsigned (bits : ℕ) (text : String) : Option ℕ :=
  (digitsValue (stripPlus text.toList)).bind fun n => if n < 2 ^ bits then some n else none

/-- Parse a two's complement number of the given width. -/
def parseSigned (bits : ℕ) (text : String) : Option ℤ :=
  match text.toList with
  | '-' :: cs => (digitsValue cs).bind fun n => if n ≤ 2 ^ (bits - 1) then some (-n) else none
  | cs => (digitsValue (stripPlus cs)).bind fun n => if n < 2 ^ (bits - 1) then some n else none

lemma parseUnsigned_repr {bits n : ℕ} (h : n < 2 ^ bits) : parseUnsigned bits n.repr = some n := by
  obtain ⟨c, cs, hcs, hc⟩ := exists_toList_repr n
  have hvalue := digitsValue_toList_repr n
  rw [parseUnsigned, hcs, stripPlus_of_isDigit hc, ← hcs, hvalue, Option.bind_some, if_pos h]

lemma parseSigned_repr {bits : ℕ} {i : ℤ} (hlow : -2 ^ (bits - 1) ≤ i)
    (hhigh : i < 2 ^ (bits - 1)) : parseSigned bits i.repr = some i := by
  cases i with
  | ofNat n =>
    obtain ⟨c, cs, hcs, hc⟩ := exists_toList_repr n
    have hvalue := digitsValue_toList_repr n
    have hlt : n < 2 ^ (bits - 1) := by
      have : ((n : ℕ) : ℤ) < 2 ^ (bits - 1) := hhigh
      exact_mod_cast this
    change parseSigned bits n.repr = _
    rw [parseSigned, hcs]
    split
    · rename_i heq
      obtain ⟨rfl, -⟩ := List.cons.inj heq
      exact absurd hc (by decide)
    · rw [stripPlus_of_isDigit hc, ← hcs, hvalue, Option.bind_some, if_pos hlt]
      rfl
  | negSucc n =>
    have hle : n + 1 ≤ 2 ^ (bits - 1) := by
      have : -((2 : ℤ) ^ (bits - 1)) ≤ -((n : ℤ) + 1) := by
        rw [Int.negSucc_eq] at hlow
        exact hlow
      have hcast : ((n + 1 : ℕ) : ℤ) ≤ ((2 ^ (bits - 1) : ℕ) : ℤ) := by
        push_cast
        omega
      exact_mod_cast hcast
    have htext : (Int.negSucc n).repr.toList = '-' :: (n + 1).repr.toList := by
      change ("-" ++ Nat.repr (n + 1)).toList = _
      rw [String.toList_append]
      rfl
    rw [parseSigned, htext]
    change (digitsValue (n + 1).repr.toList).bind _ = _
    rw [digitsValue_toList_repr, Option.bind_some, if_pos hle]
    congr 1

/-! ### Joined texts -/

/-- Texts with a separator between them. -/
def joinText (separator : Char) (parts : List String) : String :=
  String.ofList ([separator].intercalate (parts.map String.toList))

/-- The pieces of a text between its separators. -/
def splitText (separator : Char) (text : String) : List String :=
  (text.toList.splitOn separator).map String.ofList

lemma splitText_joinText {separator : Char} {parts : List String}
    (h : ∀ part ∈ parts, separator ∉ part.toList) (hne : parts ≠ []) :
    splitText separator (joinText separator parts) = parts := by
  rw [splitText, joinText, String.toList_ofList, List.splitOn_intercalate, List.map_map]
  · exact (List.map_congr_left fun s _ => String.ofList_toList).trans (List.map_id _)
  · rintro l hl
    obtain ⟨part, hpart, rfl⟩ := List.mem_map.mp hl
    exact h part hpart
  · simpa using hne

lemma joinText_ne_empty {separator : Char} {parts : List String}
    (h : ∀ part ∈ parts, part ≠ "") (hne : parts ≠ []) : joinText separator parts ≠ "" := by
  obtain ⟨part, parts, rfl⟩ := List.exists_cons_of_ne_nil hne
  intro hempty
  have hlist : [separator].intercalate ((part :: parts).map String.toList) = [] := by
    have := congrArg String.toList hempty
    rwa [joinText, String.toList_ofList] at this
  have hpart : part.toList = [] := by
    rw [List.map_cons] at hlist
    cases parts with
    | nil => simpa [List.intercalate] using hlist
    | cons next rest => simp [List.intercalate] at hlist
  exact h part List.mem_cons_self (by rw [← String.toList_inj, hpart]; rfl)

/-! ### Surrounding white space -/

/-- The Unicode property `White_Space`. -/
def isWhiteSpace (c : Char) : Bool :=
  (9 ≤ c.toNat && c.toNat ≤ 13) || c.toNat == 0x20 || c.toNat == 0x85 || c.toNat == 0xA0 ||
    c.toNat == 0x1680 || (0x2000 ≤ c.toNat && c.toNat ≤ 0x200A) || c.toNat == 0x2028 ||
    c.toNat == 0x2029 || c.toNat == 0x202F || c.toNat == 0x205F || c.toNat == 0x3000

/-- A text without the white space at its ends. -/
def trimText (text : String) : String :=
  String.ofList ((text.toList.dropWhile isWhiteSpace).reverse.dropWhile isWhiteSpace).reverse

lemma trimText_of_forall {text : String} (h : ∀ c ∈ text.toList, isWhiteSpace c = false) :
    trimText text = text := by
  have hdrop : ∀ cs : List Char, (∀ c ∈ cs, isWhiteSpace c = false) →
      cs.dropWhile isWhiteSpace = cs := by
    intro cs hcs
    cases cs with
    | nil => rfl
    | cons c cs => exact List.dropWhile_cons_of_neg (by rw [hcs c List.mem_cons_self]; simp)
  rw [trimText, hdrop _ h, hdrop _ (fun c hc => h c (List.mem_reverse.mp hc)),
    List.reverse_reverse, String.ofList_toList]

/-- A digit is no white space. -/
lemma isWhiteSpace_of_isDigit {c : Char} (h : c.isDigit = true) : isWhiteSpace c = false := by
  simp only [Char.isDigit, Bool.and_eq_true, decide_eq_true_eq] at h
  have hlow : 48 ≤ c.toNat := h.1
  have hhigh : c.toNat ≤ 57 := h.2
  simp only [isWhiteSpace, Bool.or_eq_false_iff, Bool.and_eq_false_iff, decide_eq_false_iff_not,
    beq_eq_false_iff_ne]
  omega

end ArcadiaTio.Lib
