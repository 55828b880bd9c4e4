import Mathlib.Tactic.Ring

/-!
# Checked machine arithmetic

Counters and running totals are natural numbers; what a machine word adds is that an
operation whose exact result does not fit is *reported*.  `checkedAdd w`, `checkedMul w` and
`checkedSub` are the checked operations of a `w`-bit unsigned word.
-/

namespace ArcadiaTio.Lib

variable {w a b c : ℕ}

/-- Addition of `w`-bit words, or `none` on overflow. -/
def checkedAdd (w a b : ℕ) : Option ℕ := if a + b < 2 ^ w then some (a + b) else none

/-- Multiplication of `w`-bit words, or `none` on overflow. -/
def checkedMul (w a b : ℕ) : Option ℕ := if a * b < 2 ^ w then some (a * b) else none

/-- Subtraction of unsigned words, or `none` on underflow. -/
def checkedSub (a b : ℕ) : Option ℕ := if b ≤ a then some (a - b) else none

/-- Addition of `w`-bit words that stops at the largest word. -/
def saturatingAdd (w a b : ℕ) : ℕ := min (a + b) (2 ^ w - 1)

/-- The product of two words, cut at the largest word. -/
def saturatingMul (w a b : ℕ) : ℕ := min (a * b) (2 ^ w - 1)

lemma checkedAdd_eq_some : checkedAdd w a b = some c ↔ c = a + b ∧ a + b < 2 ^ w := by
  by_cases h : a + b < 2 ^ w <;> simp [checkedAdd, h, eq_comm]

lemma checkedAdd_eq_none : checkedAdd w a b = none ↔ 2 ^ w ≤ a + b := by
  by_cases h : a + b < 2 ^ w
  · simp [checkedAdd, h]
  · simp [checkedAdd, h, Nat.le_of_not_lt h]

lemma checkedMul_eq_some : checkedMul w a b = some c ↔ c = a * b ∧ a * b < 2 ^ w := by
  by_cases h : a * b < 2 ^ w <;> simp [checkedMul, h, eq_comm]

lemma checkedMul_eq_none : checkedMul w a b = none ↔ 2 ^ w ≤ a * b := by
  by_cases h : a * b < 2 ^ w
  · simp [checkedMul, h]
  · simp [checkedMul, h, Nat.le_of_not_lt h]

lemma checkedSub_eq_some : checkedSub a b = some c ↔ c = a - b ∧ b ≤ a := by
  by_cases h : b ≤ a <;> simp [checkedSub, h, eq_comm]

lemma checkedAdd_of_lt (h : a + b < 2 ^ w) : checkedAdd w a b = some (a + b) := if_pos h

lemma checkedMul_of_lt (h : a * b < 2 ^ w) : checkedMul w a b = some (a * b) := if_pos h

/-! ### Sums -/

/-- The sum of words, or `none` when a partial sum does not fit. -/
def checkedSum (w : ℕ) (l : List ℕ) : Option ℕ := l.foldlM (checkedAdd w) 0

lemma foldlM_checkedAdd {l : List ℕ} (h : a + l.sum < 2 ^ w) :
    l.foldlM (checkedAdd w) a = some (a + l.sum) := by
  induction l generalizing a with
  | nil => rfl
  | cons b l ih =>
    rw [List.sum_cons, ← Nat.add_assoc] at h
    have hstep : checkedAdd w a b = some (a + b) := checkedAdd_of_lt (by omega)
    rw [List.foldlM_cons, hstep, List.sum_cons, ← Nat.add_assoc]
    exact ih h

/-- Words whose sum fits are added exactly. -/
lemma checkedSum_of_lt {l : List ℕ} (h : l.sum < 2 ^ w) : checkedSum w l = some l.sum := by
  have hsum := foldlM_checkedAdd (w := w) (a := 0) (by rwa [Nat.zero_add])
  rwa [Nat.zero_add] at hsum

/-- The sum of words is the exact one, and there is none when it does not fit. -/
lemma checkedSum_eq_some {l : List ℕ} {total : ℕ} :
    checkedSum w l = some total ↔ total = l.sum ∧ l.sum < 2 ^ w := by
  constructor
  · intro h
    suffices hsum : ∀ start, start < 2 ^ w → l.foldlM (checkedAdd w) start = some total →
        total = start + l.sum ∧ start + l.sum < 2 ^ w by
      simpa using hsum 0 (Nat.two_pow_pos w) h
    clear h
    induction l with
    | nil =>
      intro start hstart h
      simpa [eq_comm, hstart] using h
    | cons b l ih =>
      intro start hstart h
      rw [List.foldlM_cons] at h
      obtain ⟨next, hnext, hrest⟩ := Option.bind_eq_some_iff.mp h
      obtain ⟨rfl, hfit⟩ := checkedAdd_eq_some.mp hnext
      rw [List.sum_cons, ← Nat.add_assoc]
      exact ih _ hfit hrest
  · rintro ⟨rfl, hfit⟩
    exact checkedSum_of_lt hfit

/-- A sum that is cut at every step is the exact one, cut once at the end. -/
lemma foldl_saturatingAdd {α : Type} (f : α → ℕ) (l : List α) (h : a ≤ 2 ^ w - 1) :
    l.foldl (fun total x => saturatingAdd w total (f x)) a =
      min (a + (l.map f).sum) (2 ^ w - 1) := by
  induction l generalizing a with
  | nil =>
    rw [List.foldl_nil, List.map_nil, List.sum_nil]
    omega
  | cons x l ih =>
    have hle : saturatingAdd w a (f x) ≤ 2 ^ w - 1 := Nat.min_le_right _ _
    rw [List.foldl_cons, ih hle, List.map_cons, List.sum_cons, saturatingAdd]
    omega

end ArcadiaTio.Lib
