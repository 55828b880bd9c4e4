import Mathlib.Algebra.BigOperators.Group.Finset.Basic
import Mathlib.Logic.Relation
import Mathlib.Order.WellFounded

/-!
# Interleaved runs

States reached by an arbitrary interleaving of steps, the induction rule for their invariants, and
sums over a family of parties of which a step changes one.
-/

namespace ArcadiaTio.Lib

/-! ### Reachable states -/

section Reachable

variable {σ : Type*} {step : σ → σ → Prop} {init : σ}

/-- What holds initially and is kept by every step holds in every reachable state. -/
lemma invariant_of_reachable {P : σ → Prop} (hinit : P init)
    (hstep : ∀ s t, P s → step s t → P t) {s : σ} (h : Relation.ReflTransGen step init s) :
    P s := by
  induction h with
  | refl => exact hinit
  | tail _ hst ih => exact hstep _ _ ih hst

end Reachable

/-! ### Runs that end -/

section Runs

variable {σ : Type*} {act idle : σ → σ → Prop}

/-- Steps that decrease the first of three measures that they change cannot go on for ever. -/
lemma wellFounded_of_measures (d n l : σ → ℕ)
    (h : ∀ s t, act s t → d t < d s ∨ d t = d s ∧ (n t < n s ∨ n t = n s ∧ l t < l s)) :
    WellFounded fun t s => act s t := by
  have hwf : WellFounded (Prod.Lex (· < ·) (Prod.Lex (· < ·) (· < ·)) : ℕ × ℕ × ℕ → _ → Prop) :=
    WellFounded.prod_lex Nat.lt_wfRel.wf (WellFounded.prod_lex Nat.lt_wfRel.wf Nat.lt_wfRel.wf)
  refine Subrelation.wf ?_ (InvImage.wf (fun s => (d s, n s, l s)) hwf)
  intro t s hact
  rcases h s t hact with hd | ⟨hd, hn | ⟨hn, hl⟩⟩
  · exact Prod.Lex.left _ _ hd
  · simp only [InvImage, hd]
    exact Prod.Lex.right _ (Prod.Lex.left _ _ hn)
  · simp only [InvImage, hd, hn]
    exact Prod.Lex.right _ (Prod.Lex.right _ hl)

/-- A run of a system whose steps are actions or idle moves; a state without an action may repeat.
An action is taken again and again unless the run has become final. -/
structure IsRun (act idle : σ → σ → Prop) (run : ℕ → σ) : Prop where
  step : ∀ k, act (run k) (run (k + 1)) ∨ idle (run k) (run (k + 1)) ∨
    run (k + 1) = run k ∧ ∀ t, ¬ act (run k) t

/-- When actions cannot go on for ever and a state that is not final has an action, a run with
finitely many idle moves becomes final. -/
theorem IsRun.exists_final {run : ℕ → σ} (h : IsRun act idle run) (final : σ → Prop)
    (hwf : WellFounded fun t s => act s t)
    (hprogress : ∀ k, ¬ final (run k) → ∃ t, act (run k) t)
    {K : ℕ} (hidle : ∀ k, K ≤ k → ¬ idle (run k) (run (k + 1))) : ∃ k, final (run k) := by
  by_contra hnever
  have hact : ∀ k, K ≤ k → act (run k) (run (k + 1)) := by
    intro k hk
    rcases h.step k with hact | hmove | ⟨-, hstuck⟩
    · exact hact
    · exact absurd hmove (hidle k hk)
    · obtain ⟨t, ht⟩ := hprogress k fun hfinal => hnever ⟨k, hfinal⟩
      exact absurd ht (hstuck t)
  obtain ⟨m, ⟨k, hk, rfl⟩, hmin⟩ :=
    hwf.has_min {s | ∃ k, K ≤ k ∧ run k = s} ⟨run K, K, le_rfl, rfl⟩
  exact hmin (run (k + 1)) ⟨k + 1, by omega, rfl⟩ (hact k hk)

end Runs

/-! ### Sums over the parties -/

section Sums

variable {ι A M : Type*} [Fintype ι] [DecidableEq ι] [AddCommMonoid M]

/-- When one summand changes, its contribution to a sum is replaced. -/
lemma sum_add_of_eq_off {f g : ι → M} {i : ι} (h : ∀ j, j ≠ i → g j = f j) :
    ∑ j, g j + f i = ∑ j, f j + g i := by
  rw [← Finset.add_sum_erase _ g (Finset.mem_univ i),
    ← Finset.add_sum_erase _ f (Finset.mem_univ i)]
  have hrest : ∑ j ∈ Finset.univ.erase i, g j = ∑ j ∈ Finset.univ.erase i, f j :=
    Finset.sum_congr rfl fun j hj => h j (Finset.ne_of_mem_erase hj)
  rw [hrest, add_comm (g i), add_comm (f i), add_right_comm]

/-- When one party changes, its contribution to a sum is replaced. -/
lemma sum_update_add (f : A → M) (g : ι → A) (i : ι) (a : A) :
    ∑ j, f (Function.update g i a j) + f (g i) = ∑ j, f (g j) + f a := by
  have hsum := sum_add_of_eq_off (f := fun j => f (g j))
    (g := fun j => f (Function.update g i a j)) (i := i) fun j hj => by
      rw [Function.update_of_ne hj]
  rw [hsum, Function.update_self]

end Sums

end ArcadiaTio.Lib
