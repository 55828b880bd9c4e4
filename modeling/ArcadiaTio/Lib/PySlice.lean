import Mathlib.Tactic.Lemma
import Mathlib.Tactic.Ring
import Mathlib.Data.Nat.Notation

/-!
# Slices with a step

The slice semantics of Python over unbounded integers: a negative bound counts from the end, both
bounds are clamped to the sequence, and the positions from the first bound on are selected as long
as they stay before the second one (`indices`).

`progression` is the list of positions, by its length; a loop that moves on by the step meets it
one position at a time (`progression_of_lt`, `progression_of_gt`).
-/

namespace ArcadiaTio.Lib.PySlice

/-! ### Progressions -/

/-- How many positions an upward slice has. -/
def countUp (start stop step : ℤ) : ℕ :=
  if start < stop then ((stop - start - 1) / step + 1).toNat else 0

/-- How many positions a slice has; downwards, it is an upward one with all signs changed. -/
def count (start stop step : ℤ) : ℕ :=
  if 0 < step then countUp start stop step else countUp (-start) (-stop) (-step)

/-- The positions from `start` on, before `stop`. -/
def progression (start stop step : ℤ) : List ℤ :=
  (List.range (count start stop step)).map fun k : ℕ => start + k * step

section Progression

variable {start stop step : ℤ}

lemma countUp_of_le (h : stop ≤ start) : countUp start stop step = 0 := if_neg (not_lt.mpr h)

/-- One position fewer is left after one step. -/
lemma countUp_of_lt (hstep : 0 < step) (h : start < stop) :
    countUp start stop step = countUp (start + step) stop step + 1 := by
  have hpos : 0 ≤ (stop - start - 1) / step := Int.ediv_nonneg (by omega) hstep.le
  rw [countUp, if_pos h]
  by_cases hnext : start + step < stop
  · have hdiv : (stop - start - 1) / step = (stop - (start + step) - 1) / step + 1 := by
      rw [show stop - start - 1 = stop - (start + step) - 1 + 1 * step by ring,
        Int.add_mul_ediv_right _ _ hstep.ne']
    have hrest : 0 ≤ (stop - (start + step) - 1) / step := Int.ediv_nonneg (by omega) hstep.le
    rw [countUp, if_pos hnext, hdiv]
    omega
  · have hzero : (stop - start - 1) / step = 0 := Int.ediv_eq_zero_of_lt (by omega) (by omega)
    rw [countUp_of_le (not_lt.mp hnext), hzero]
    rfl

lemma countUp_le (hstep : 0 < step) (h : start ≤ stop) :
    (countUp start stop step : ℤ) ≤ stop - start := by
  by_cases hlt : start < stop
  · have hle : (stop - start - 1) / step ≤ stop - start - 1 :=
      Int.ediv_le_self _ (by omega)
    have hpos : 0 ≤ (stop - start - 1) / step := Int.ediv_nonneg (by omega) hstep.le
    rw [countUp, if_pos hlt]
    omega
  · rw [countUp_of_le (not_lt.mp hlt)]
    omega

/-- A slice with a position left consists of it and of the slice from the next one on. -/
lemma progression_of_count (h : count start stop step = count (start + step) stop step + 1) :
    progression start stop step = start :: progression (start + step) stop step := by
  rw [progression, h, List.range_succ_eq_map, List.map_cons, List.map_map, progression]
  congr 1
  · simp
  · refine List.map_congr_left fun k _ => ?_
    simp only [Function.comp_apply, Nat.succ_eq_add_one, Nat.cast_add, Nat.cast_one]
    ring

lemma progression_of_lt (hstep : 0 < step) (h : start < stop) :
    progression start stop step = start :: progression (start + step) stop step := by
  apply progression_of_count
  rw [count, count, if_pos hstep, if_pos hstep, countUp_of_lt hstep h]

lemma progression_of_ge (hstep : 0 < step) (h : stop ≤ start) :
    progression start stop step = [] := by
  rw [progression, count, if_pos hstep, countUp_of_le h]
  rfl

lemma progression_of_gt (hstep : step < 0) (h : stop < start) :
    progression start stop step = start :: progression (start + step) stop step := by
  apply progression_of_count
  rw [count, count, if_neg (by omega), if_neg (by omega), countUp_of_lt (by omega) (by omega),
    show -start + -step = -(start + step) by ring]

lemma progression_of_le (hstep : step < 0) (h : start ≤ stop) :
    progression start stop step = [] := by
  rw [progression, count, if_neg (by omega), countUp_of_le (by omega)]
  rfl

lemma length_progression : (progression start stop step).length = count start stop step := by
  rw [progression, List.length_map, List.length_range]

end Progression

/-! ### Slices of a sequence -/

/-- A bound of a slice of a sequence of length `len`. -/
def bound (len step value : ℤ) : ℤ :=
  let value := if value < 0 then value + len else value
  if 0 < step then max 0 (min value len) else max (-1) (min value (len - 1))

/-- The positions that a slice selects. -/
def indices (len start stop step : ℤ) : List ℤ :=
  progression (bound len step start) (bound len step stop) step

section Indices

variable {len start stop step : ℤ}

lemma bound_up (hstep : 0 < step) (hlen : 0 ≤ len) (value : ℤ) :
    0 ≤ bound len step value ∧ bound len step value ≤ len := by
  simp only [bound, if_pos hstep]
  omega

lemma bound_down (hstep : step < 0) (hlen : 0 ≤ len) (value : ℤ) :
    -1 ≤ bound len step value ∧ bound len step value ≤ len - 1 := by
  simp only [bound, if_neg (show ¬ 0 < step by omega)]
  omega

/-- The selected positions lie in the progression's interval. -/
lemma mem_progression_up {k : ℤ} (hstep : 0 < step) (h : k ∈ progression start stop step) :
    start ≤ k ∧ k < stop := by
  obtain ⟨n, hn⟩ : ∃ n : ℕ, (stop - start).toNat = n := ⟨_, rfl⟩
  induction n using Nat.strong_induction_on generalizing start with
  | _ n ih =>
    by_cases hlt : start < stop
    · rw [progression_of_lt hstep hlt] at h
      rcases List.mem_cons.mp h with rfl | h
      · exact ⟨le_refl _, hlt⟩
      · have hrest := ih _ (by omega) h rfl
        omega
    · rw [progression_of_ge hstep (not_lt.mp hlt)] at h
      cases h

lemma mem_progression_down {k : ℤ} (hstep : step < 0) (h : k ∈ progression start stop step) :
    stop < k ∧ k ≤ start := by
  obtain ⟨n, hn⟩ : ∃ n : ℕ, (start - stop).toNat = n := ⟨_, rfl⟩
  induction n using Nat.strong_induction_on generalizing start with
  | _ n ih =>
    by_cases hlt : stop < start
    · rw [progression_of_gt hstep hlt] at h
      rcases List.mem_cons.mp h with rfl | h
      · exact ⟨hlt, le_refl _⟩
      · have hrest := ih _ (by omega) h rfl
        omega
    · rw [progression_of_le hstep (not_lt.mp hlt)] at h
      cases h

/-- A slice selects positions of the sequence. -/
lemma mem_indices {k : ℤ} (hlen : 0 ≤ len) (hstep : step ≠ 0)
    (h : k ∈ indices len start stop step) : 0 ≤ k ∧ k < len := by
  rcases lt_or_gt_of_ne hstep with hneg | hpos
  · have hstart := bound_down hneg hlen start
    have hstop := bound_down hneg hlen stop
    have hmem := mem_progression_down hneg h
    omega
  · have hstart := bound_up hpos hlen start
    have hstop := bound_up hpos hlen stop
    have hmem := mem_progression_up hpos h
    omega

/-- A slice is no longer than the sequence. -/
lemma length_indices_le (hlen : 0 ≤ len) (hstep : step ≠ 0) :
    ((indices len start stop step).length : ℤ) ≤ len := by
  rw [indices, length_progression, count]
  rcases lt_or_gt_of_ne hstep with hneg | hpos
  · have hstart := bound_down hneg hlen start
    have hstop := bound_down hneg hlen stop
    rw [if_neg (by omega)]
    by_cases hle : bound len step stop ≤ bound len step start
    · have hup : 0 < -step := by omega
      have hcount := countUp_le hup (neg_le_neg hle)
      omega
    · rw [countUp_of_le (by omega)]
      omega
  · have hstart := bound_up hpos hlen start
    have hstop := bound_up hpos hlen stop
    rw [if_pos hpos]
    by_cases hle : bound len step start ≤ bound len step stop
    · have hcount := countUp_le hpos hle
      omega
    · rw [countUp_of_le (by omega)]
      omega

end Indices

-- From the second position on, backwards from the last one, and past the end.
example : indices 5 1 5 2 = [1, 3] ∧ indices 5 (-1) (-6) (-2) = [4, 2, 0] ∧
    indices 5 7 9 1 = [] := by decide

end ArcadiaTio.Lib.PySlice
