import Mathlib.Algebra.BigOperators.Group.List.Basic
import Mathlib.Data.List.GetD
import Mathlib.Tactic.Ring

/-!
# Row-major order

A shape is a list of axis lengths, and a multi-index of a shape has one position for each axis.
`ravel` numbers the multi-indices of a shape in row-major order and `unravel` is its inverse.  The
*odometer* `advance` moves a multi-index to its successor, from the last axis on with a carry; it
runs through the multi-indices in the order of their numbers (`advance_unravel`).
-/

namespace ArcadiaTio.Lib.RowMajor

variable {shape index : List ℕ}

/-! ### Multi-indices and their numbers -/

/-- Every position of a multi-index is below the length of its axis. -/
def InBounds (shape index : List ℕ) : Prop := List.Forall₂ (· < ·) index shape

instance (shape index : List ℕ) : Decidable (InBounds shape index) := by
  unfold InBounds
  infer_instance

/-- The number of a multi-index in row-major order. -/
def ravel : List ℕ → List ℕ → ℕ
  | _ :: shape, i :: index => i * shape.prod + ravel shape index
  | _, _ => 0

/-- The multi-index of a number in row-major order. -/
def unravel : List ℕ → ℕ → List ℕ
  | [], _ => []
  | _ :: shape, k => k / shape.prod :: unravel shape (k % shape.prod)

@[simp] lemma inBounds_nil : InBounds [] index ↔ index = [] := List.forall₂_nil_right_iff

@[simp] lemma inBounds_cons {n i : ℕ} :
    InBounds (n :: shape) (i :: index) ↔ i < n ∧ InBounds shape index := List.forall₂_cons

@[simp] lemma not_inBounds_cons_nil {n : ℕ} : ¬ InBounds (n :: shape) [] := by
  rintro ⟨⟩

lemma InBounds.length_eq (h : InBounds shape index) : index.length = shape.length :=
  List.Forall₂.length_eq h

lemma InBounds.getElem? (h : InBounds shape index) {a n : ℕ} (hn : shape[a]? = some n) :
    ∃ i, index[a]? = some i ∧ i < n := by
  induction h generalizing a with
  | nil => simp at hn
  | @cons i m index shape hi _ ih =>
    cases a with
    | zero =>
      obtain rfl : m = n := by simpa using hn
      exact ⟨i, rfl, hi⟩
    | succ a => exact ih (by simpa using hn)

lemma InBounds.getD_lt (h : InBounds shape index) {a : ℕ} (ha : a < shape.length) :
    index.getD a 0 < shape.getD a 0 := by
  obtain ⟨i, hi, hlt⟩ := h.getElem? (List.getElem?_eq_getElem ha)
  rw [List.getD_eq_getElem?_getD, hi, List.getD_eq_getElem?_getD, List.getElem?_eq_getElem ha]
  exact hlt

/-- The position on an axis whose length was replaced. -/
lemma InBounds.getD_set_lt {a m : ℕ} (h : InBounds (shape.set a m) index)
    (ha : a < shape.length) : index.getD a 0 < m := by
  have hlen : a < (shape.set a m).length := by rwa [List.length_set]
  have hlt := h.getD_lt hlen
  rwa [List.getD_eq_getElem _ _ hlen, List.getElem_set_self] at hlt

lemma inBounds_iff_getD : InBounds shape index ↔ index.length = shape.length ∧
    ∀ a < shape.length, index.getD a 0 < shape.getD a 0 := by
  refine ⟨fun h => ⟨h.length_eq, fun a ha => h.getD_lt ha⟩, ?_⟩
  rintro ⟨hlen, h⟩
  refine List.forall₂_iff_get.mpr ⟨hlen, fun a ha hshape => ?_⟩
  have := h a hshape
  rwa [List.getD_eq_getElem _ _ ha, List.getD_eq_getElem _ _ hshape] at this

/-- Replace the position and the length of one axis. -/
lemma InBounds.set (h : InBounds shape index) {a i n : ℕ} (hi : i < n) :
    InBounds (shape.set a n) (index.set a i) := by
  induction h generalizing a with
  | nil => exact List.Forall₂.nil
  | cons hhead hrest ih =>
    cases a with
    | zero => exact List.Forall₂.cons hi hrest
    | succ a => exact List.Forall₂.cons hhead ih

lemma InBounds.prod_pos (h : InBounds shape index) : 0 < shape.prod := by
  induction h with
  | nil => simp
  | cons hi _ ih =>
    rw [List.prod_cons]
    exact Nat.mul_pos (by omega) ih

lemma ravel_lt (h : InBounds shape index) : ravel shape index < shape.prod := by
  induction h with
  | nil => simp [ravel]
  | @cons i n index shape hi _ ih =>
    rw [ravel, List.prod_cons]
    calc i * shape.prod + ravel shape index
        < i * shape.prod + shape.prod := by omega
      _ = (i + 1) * shape.prod := by ring
      _ ≤ n * shape.prod := Nat.mul_le_mul_right _ hi

lemma unravel_ravel (h : InBounds shape index) : unravel shape (ravel shape index) = index := by
  induction h with
  | nil => rfl
  | @cons i n index shape hi hrest ih =>
    have hlt : ravel shape index < shape.prod := ravel_lt hrest
    have hpos := InBounds.prod_pos hrest
    rw [ravel, unravel, Nat.add_comm, Nat.add_mul_div_right _ _ hpos, Nat.div_eq_of_lt hlt,
      Nat.zero_add, Nat.add_mul_mod_self_right, Nat.mod_eq_of_lt hlt, ih]

lemma inBounds_unravel {k : ℕ} (h : k < shape.prod) : InBounds shape (unravel shape k) := by
  induction shape generalizing k with
  | nil => exact List.Forall₂.nil
  | cons n shape ih =>
    rw [List.prod_cons] at h
    have hpos : 0 < shape.prod := Nat.pos_of_ne_zero fun hzero => by simp [hzero] at h
    rw [unravel, inBounds_cons]
    exact ⟨Nat.div_lt_of_lt_mul (by rwa [Nat.mul_comm]), ih (Nat.mod_lt _ hpos)⟩

lemma ravel_unravel {k : ℕ} (h : k < shape.prod) : ravel shape (unravel shape k) = k := by
  induction shape generalizing k with
  | nil =>
    have : k = 0 := by simpa using h
    rw [this]
    rfl
  | cons n shape ih =>
    rw [List.prod_cons] at h
    have hpos : 0 < shape.prod := Nat.pos_of_ne_zero fun hzero => by simp [hzero] at h
    rw [unravel, ravel, ih (Nat.mod_lt _ hpos), Nat.div_add_mod']

@[simp] lemma length_unravel {k : ℕ} : (unravel shape k).length = shape.length := by
  induction shape generalizing k with
  | nil => rfl
  | cons n shape ih => rw [unravel, List.length_cons, ih, List.length_cons]

lemma unravel_zero : unravel shape 0 = List.replicate shape.length 0 := by
  induction shape with
  | nil => rfl
  | cons n shape ih =>
    rw [unravel, Nat.zero_div, Nat.zero_mod, ih, List.length_cons, List.replicate_succ]

/-! ### The odometer -/

/-- The successor of a multi-index, from the last axis on; the flag says that an axis took the
carry, so that the axes before it stay as they are. -/
def advance : List ℕ → List ℕ → List ℕ × Bool
  | n :: shape, i :: index =>
    match advance shape index with
    | (index', true) => (i :: index', true)
    | (index', false) => if i + 1 < n then ((i + 1) :: index', true) else (0 :: index', false)
  | _, index => (index, false)

/-- The odometer steps to the next number, and from the last one back to zero. -/
lemma advance_eq (h : InBounds shape index) : advance shape index =
    if ravel shape index + 1 < shape.prod then (unravel shape (ravel shape index + 1), true)
    else (List.replicate shape.length 0, false) := by
  induction h with
  | nil => rfl
  | @cons i n index shape hi hrest ih =>
    have hlt : ravel shape index < shape.prod := ravel_lt hrest
    have hpos := InBounds.prod_pos hrest
    rw [advance, ih, ravel, List.prod_cons]
    by_cases hinner : ravel shape index + 1 < shape.prod
    · -- the carry ends in the tail
      have houter : i * shape.prod + ravel shape index + 1 < n * shape.prod := by
        calc i * shape.prod + ravel shape index + 1
            < i * shape.prod + shape.prod := by omega
          _ = (i + 1) * shape.prod := by ring
          _ ≤ n * shape.prod := Nat.mul_le_mul_right _ hi
      rw [if_pos hinner, if_pos houter, unravel, Nat.add_assoc, Nat.add_comm (i * _),
        Nat.add_mul_div_right _ _ hpos, Nat.div_eq_of_lt hinner, Nat.zero_add,
        Nat.add_mul_mod_self_right, Nat.mod_eq_of_lt hinner]
    · -- the tail is full and starts again
      have hfull : i * shape.prod + ravel shape index + 1 = (i + 1) * shape.prod := by
        rw [Nat.add_assoc, show ravel shape index + 1 = shape.prod by omega]
        ring
      rw [if_neg hinner, hfull]
      dsimp only
      by_cases hnext : i + 1 < n
      · rw [if_pos hnext, if_pos (Nat.mul_lt_mul_of_pos_right hnext hpos), unravel,
          Nat.mul_div_cancel _ hpos, Nat.mul_mod_left, unravel_zero]
      · have hlast : i + 1 = n := by omega
        rw [if_neg hnext, hlast, if_neg (lt_irrefl _), List.length_cons, List.replicate_succ]

/-- The odometer enumerates the multi-indices in row-major order. -/
lemma advance_unravel {k : ℕ} (h : k + 1 < shape.prod) :
    (advance shape (unravel shape k)).1 = unravel shape (k + 1) := by
  have hk : k < shape.prod := by omega
  rw [advance_eq (inBounds_unravel hk), ravel_unravel hk, if_pos h]

/-! ### Arrays gathered from arrays -/

/-- The array `out` of one shape holds, at every multi-index, the entry of `values`, an array of
another shape, at the source of that multi-index. -/
structure Gathered {α : Type} (inShape outShape : List ℕ) (source : List ℕ → List ℕ)
    (values out : List α) : Prop where
  length_eq : out.length = outShape.prod
  inBounds : ∀ index, InBounds outShape index → InBounds inShape (source index)
  entry : ∀ index, InBounds outShape index →
    out[ravel outShape index]? = values[ravel inShape (source index)]?

namespace Gathered

variable {α β : Type} {s₁ s₂ s₃ : List ℕ} {f g : List ℕ → List ℕ} {values mid out out' : List α}

/-- An array is determined by its entries at the multi-indices. -/
lemma ext_entries (hlen : out.length = shape.prod) (hlen' : out'.length = shape.prod)
    (h : ∀ index, InBounds shape index → out[ravel shape index]? = out'[ravel shape index]?) :
    out = out' := by
  apply List.ext_getElem?
  intro k
  by_cases hk : k < shape.prod
  · have := h _ (inBounds_unravel hk)
    rwa [ravel_unravel hk] at this
  · rw [List.getElem?_eq_none (by omega), List.getElem?_eq_none (by omega)]

lemma refl (hlen : values.length = s₁.prod) : Gathered s₁ s₁ id values values :=
  ⟨hlen, fun _ h => h, fun _ _ => rfl⟩

lemma congr (h : Gathered s₁ s₂ f values out) (hfg : ∀ index, InBounds s₂ index → f index = g index) :
    Gathered s₁ s₂ g values out where
  length_eq := h.length_eq
  inBounds index hindex := hfg index hindex ▸ h.inBounds index hindex
  entry index hindex := hfg index hindex ▸ h.entry index hindex

protected lemma map (h : Gathered s₁ s₂ f values out) (e : α → β) :
    Gathered s₁ s₂ f (values.map e) (out.map e) where
  length_eq := by rw [List.length_map, h.length_eq]
  inBounds := h.inBounds
  entry index hindex := by rw [List.getElem?_map, List.getElem?_map, h.entry index hindex]

end Gathered

end ArcadiaTio.Lib.RowMajor
