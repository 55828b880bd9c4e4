import Mathlib.Tactic.Ring

/-!
# Ranges that tile an interval

A table that is cut into consecutive ranges is described by the list of their starts and
lengths.  `Tiles s l e` says that the ranges of `l` follow one another from `s` to `e`, in this
order, with no gap and no overlap; an empty range is allowed.
-/

namespace ArcadiaTio.Lib

/-- The ranges `(start, length)` of a list follow one another from `s` to `e`. -/
inductive Tiles : ℕ → List (ℕ × ℕ) → ℕ → Prop
  | nil (s : ℕ) : Tiles s [] s
  | cons {s len e : ℕ} {rest : List (ℕ × ℕ)} (h : Tiles (s + len) rest e) :
      Tiles s ((s, len) :: rest) e

namespace Tiles

variable {s e : ℕ} {l : List (ℕ × ℕ)}

lemma le (h : Tiles s l e) : s ≤ e := by
  induction h with
  | nil => exact Nat.le_refl _
  | cons _ ih => omega

/-- Every range lies inside the interval. -/
lemma bounds (h : Tiles s l e) {r : ℕ × ℕ} (hr : r ∈ l) : s ≤ r.1 ∧ r.1 + r.2 ≤ e := by
  induction h with
  | nil => cases hr
  | cons h ih =>
    rcases List.mem_cons.mp hr with rfl | hr
    · exact ⟨Nat.le_refl _, h.le⟩
    · have := ih hr
      omega

/-- The lengths add up to the length of the interval. -/
lemma sum_eq (h : Tiles s l e) : s + (l.map Prod.snd).sum = e := by
  induction h with
  | nil => rfl
  | cons _ ih =>
    rw [List.map_cons, List.sum_cons, ← ih]
    omega

/-- Every point of the interval lies in exactly one of the ranges. -/
theorem existsUnique_range (h : Tiles s l e) {x : ℕ} (hs : s ≤ x) (he : x < e) :
    ∃! i : ℕ, ∃ r : ℕ × ℕ, l[i]? = some r ∧ r.1 ≤ x ∧ x < r.1 + r.2 := by
  induction h with
  | nil => omega
  | @cons s len e rest h ih =>
    by_cases hx : x < s + len
    · refine ⟨0, ⟨(s, len), rfl, hs, hx⟩, ?_⟩
      rintro (_ | i) ⟨r, hr, hle, hlt⟩
      · rfl
      · have := (h.bounds (List.mem_of_getElem? hr)).1
        omega
    · obtain ⟨i, ⟨r, hr, hle, hlt⟩, hunique⟩ := ih (by omega) he
      refine ⟨i + 1, ⟨r, hr, hle, hlt⟩, ?_⟩
      rintro (_ | j) ⟨r', hr', hle', hlt'⟩
      · obtain rfl : (s, len) = r' := Option.some.inj hr'
        exact absurd hlt' hx
      · rw [hunique j ⟨r', hr', hle', hlt'⟩]

end Tiles

end ArcadiaTio.Lib
