import Mathlib.Tactic.Ring
import Mathlib.Data.List.Perm.Subperm
import Mathlib.Algebra.Order.BigOperators.Group.List

/-!
# The largest elements of a list

Sorting a list downwards and adding up its first `k` elements gives the largest sum that any `k` of
them have, so that a bound for this one sum is a bound for all choices (`sum_largest_le_iff`).
-/

namespace ArcadiaTio.Lib

variable {α : Type*}

/-- The `k` elements with the largest values. -/
def largest (f : α → ℕ) (k : ℕ) (l : List α) : List α :=
  (l.mergeSort fun a b => decide (f b ≤ f a)).take k

/-- In a list that goes down, no choice has a larger sum than the beginning. -/
lemma sum_le_sum_take {l part : List ℕ} {k : ℕ} (hl : l.Pairwise (· ≥ ·)) (hpart : part.Sublist l)
    (hk : part.length ≤ k) : part.sum ≤ (l.take k).sum := by
  induction hl generalizing part k with
  | nil =>
    rw [List.sublist_nil.mp hpart]
    exact Nat.zero_le _
  | @cons a rest ha _ ih =>
    cases part with
    | nil => exact Nat.zero_le _
    | cons b part =>
      obtain ⟨k, rfl⟩ : ∃ n, k = n + 1 := ⟨k - 1, by rw [List.length_cons] at hk; omega⟩
      rw [List.length_cons] at hk
      rw [List.take_succ_cons, List.sum_cons, List.sum_cons]
      -- the first element of the list is at least the first one that was chosen
      have hb : b ≤ a := by
        rcases List.mem_cons.mp (hpart.subset List.mem_cons_self) with rfl | hmem
        · exact le_rfl
        · exact ha b hmem
      exact Nat.add_le_add hb (ih hpart.of_cons_cons (by omega))

lemma pairwise_largest (f : α → ℕ) (l : List α) :
    ((l.mergeSort fun a b => decide (f b ≤ f a)).map f).Pairwise (· ≥ ·) := by
  rw [List.pairwise_map]
  refine (List.pairwise_mergeSort (fun a b c hab hbc => ?_) (fun a b => ?_) l).imp fun h => ?_
  · rw [decide_eq_true_eq] at hab hbc ⊢
    exact hbc.trans hab
  · rw [Bool.or_eq_true, decide_eq_true_eq, decide_eq_true_eq]
    exact le_total _ _
  · exact of_decide_eq_true h

/-- A bound for the largest elements is a bound for all choices of as many elements. -/
theorem sum_largest_le_iff (f : α → ℕ) (k bound : ℕ) (l : List α) :
    ((largest f k l).map f).sum ≤ bound ↔
      ∀ part : List α, part.Sublist l → part.length ≤ k → (part.map f).sum ≤ bound := by
  have hperm := List.mergeSort_perm l fun a b => decide (f b ≤ f a)
  constructor
  · intro hbound part hpart hk
    obtain ⟨part', hsame, hpart'⟩ := hpart.subperm.trans hperm.symm.subperm
    have hlength : (part'.map f).length ≤ k := by
      rwa [List.length_map, hsame.length_eq]
    have hle := sum_le_sum_take (pairwise_largest f l) (hpart'.map f) hlength
    rw [← List.map_take, (hsame.map f).sum_eq] at hle
    exact hle.trans hbound
  · intro hall
    obtain ⟨part, hsame, hpart⟩ := (List.take_sublist k _).subperm.trans hperm.subperm
    have hk : part.length ≤ k := by
      rw [hsame.length_eq]
      exact List.length_take_le _ _
    rw [largest, ← (hsame.map f).sum_eq]
    exact hall part hpart hk

/-- The choices from a list do not depend on its order. -/
lemma forall_choice_perm {f : α → ℕ} {k bound : ℕ} {l l' : List α} (h : l.Perm l')
    (hall : ∀ part : List α, part.Sublist l → part.length ≤ k → (part.map f).sum ≤ bound)
    {part : List α} (hpart : part.Sublist l') (hk : part.length ≤ k) :
    (part.map f).sum ≤ bound := by
  obtain ⟨part', hsame, hpart'⟩ := hpart.subperm.trans h.symm.subperm
  rw [← (hsame.map f).sum_eq]
  exact hall part' hpart' (hsame.length_eq ▸ hk)

end ArcadiaTio.Lib
