import Mathlib.Algebra.BigOperators.Ring.List
import ArcadiaTio.Tensor.Ops

/-!
# Shapes, strides and axes

What the checked arithmetic of shapes computes: a running product is the product when every
product on the way fits (`ProductFits`), the strides are the products of the later axes, and the
linear offset of a multi-index is its row-major number.  An axis argument denotes an axis of a
rank, counted from the start or, when negative, from the end (`AxisDenotes`).
-/

namespace ArcadiaTio.Tio

open ArcadiaTio.Lib ArcadiaTio.Lib.RowMajor

variable {shape index : List ℕ}

/-! ### Running products -/

/-- Every product on the way to the element count fits a word. -/
def ProductFits (shape : List ℕ) : Prop := ∀ pre, pre <+: shape → pre.prod < 2 ^ usizeBits

lemma ProductFits.prod_lt (h : ProductFits shape) : shape.prod < 2 ^ usizeBits :=
  h shape (List.prefix_refl _)

lemma foldlM_checkedMul_eq_ok {e : TioError} {p r : ℕ} (hp : p < 2 ^ usizeBits) :
    shape.foldlM (fun product dim => okOr (checkedMul usizeBits product dim) e) p = .ok r ↔
      r = p * shape.prod ∧ ∀ pre, pre <+: shape → p * pre.prod < 2 ^ usizeBits := by
  induction shape generalizing p with
  | nil =>
    simp only [List.foldlM_nil, pure_eq_ok, Except.ok.injEq, List.prod_nil, mul_one,
      List.prefix_nil, forall_eq]
    exact ⟨fun h => ⟨h.symm, hp⟩, fun h => h.1.symm⟩
  | cons n shape ih =>
    have hstep : ∀ pre, p * (n :: pre).prod = p * n * pre.prod := by
      intro pre
      rw [List.prod_cons, Nat.mul_assoc]
    rw [List.foldlM_cons, bind_eq_ok]
    constructor
    · rintro ⟨q, hq, hrest⟩
      obtain ⟨rfl, hlt⟩ := checkedMul_eq_some.mp (okOr_eq_ok.mp hq)
      obtain ⟨rfl, hfits⟩ := (ih hlt).mp hrest
      refine ⟨(hstep shape).symm, fun pre hpre => ?_⟩
      rcases List.prefix_cons_iff.mp hpre with rfl | ⟨tail, rfl, htail⟩
      · simpa using hp
      · rw [hstep]
        exact hfits tail htail
    · rintro ⟨rfl, hfits⟩
      have hlt : p * n < 2 ^ usizeBits := by
        have := hfits [n] (by simp)
        simpa using this
      refine ⟨p * n, okOr_eq_ok.mpr (checkedMul_of_lt hlt), (ih hlt).mpr ⟨hstep shape, ?_⟩⟩
      intro pre hpre
      rw [← hstep]
      exact hfits (n :: pre) (List.prefix_cons_inj n |>.mpr hpre)

lemma shapeProductUsize_eq_ok {r : ℕ} :
    shapeProductUsize shape = .ok r ↔ r = shape.prod ∧ ProductFits shape := by
  rw [shapeProductUsize, foldlM_checkedMul_eq_ok (by decide), one_mul]
  simp only [one_mul, ProductFits]

lemma shapeElementLen_eq_ok {shape : List UInt64} {r : ℕ} : shapeElementLen shape = .ok r ↔
    r = (shapeU64ToUsize shape).prod ∧ ProductFits (shapeU64ToUsize shape) := by
  have hmap : shapeElementLen shape = (shapeU64ToUsize shape).foldlM
      (fun product dim => okOr (checkedMul usizeBits product dim)
        (invalidArgument "shape element count overflows usize")) 1 := by
    rw [shapeElementLen, shapeU64ToUsize, List.foldlM_map]
  rw [hmap, foldlM_checkedMul_eq_ok (by decide), one_mul]
  simp only [one_mul, ProductFits]

lemma prod_pos_of_zero_notMem (h : 0 ∉ shape) : 0 < shape.prod := by
  induction shape with
  | nil => simp
  | cons n shape ih =>
    rw [List.mem_cons, not_or] at h
    rw [List.prod_cons]
    exact Nat.mul_pos (Nat.pos_of_ne_zero (Ne.symm h.1)) (ih h.2)

lemma prod_le_of_initial {pre : List ℕ} (h : 0 ∉ shape) (hpre : pre <+: shape) :
    pre.prod ≤ shape.prod := by
  obtain ⟨suf, rfl⟩ := hpre
  rw [List.prod_append]
  exact Nat.le_mul_of_pos_right _ (prod_pos_of_zero_notMem fun hmem => h (by simp [hmem]))

lemma prod_le_of_suffix {suf : List ℕ} (h : 0 ∉ shape) (hsuf : suf <:+ shape) :
    suf.prod ≤ shape.prod := by
  obtain ⟨pre, rfl⟩ := hsuf
  rw [List.prod_append]
  exact Nat.le_mul_of_pos_left _ (prod_pos_of_zero_notMem fun hmem => h (by simp [hmem]))

/-- Without an axis of length zero, only the whole product can be too large. -/
lemma productFits_iff (h : 0 ∉ shape) : ProductFits shape ↔ shape.prod < 2 ^ usizeBits :=
  ⟨ProductFits.prod_lt, fun hlt _ hpre => (prod_le_of_initial h hpre).trans_lt hlt⟩

lemma zero_notMem_of_prod_ne_zero (h : shape.prod ≠ 0) : 0 ∉ shape :=
  fun hmem => h (List.prod_eq_zero hmem)

/-! ### Strides and offsets -/

/-- The strides of a shape: the number of entries behind one position of each axis. -/
def strides : List ℕ → List ℕ
  | [] => []
  | _ :: shape => shape.prod :: strides shape

@[simp] lemma length_strides : (strides shape).length = shape.length := by
  induction shape with
  | nil => rfl
  | cons n shape ih => rw [strides, List.length_cons, ih, List.length_cons]

/-- Every stride fits a word. -/
def StridesFit (shape : List ℕ) : Prop := ∀ suf, suf <:+ shape.tail → suf.prod < 2 ^ usizeBits

lemma rowMajorStrides_eq_ok {result : List ℕ} :
    rowMajorStrides shape = .ok result ↔ result = strides shape ∧ StridesFit shape := by
  induction shape generalizing result with
  | nil => simp [rowMajorStrides, strides, StridesFit, usizeBits, eq_comm]
  | cons m shape ih =>
    cases shape with
    | nil => simp [rowMajorStrides, strides, StridesFit, usizeBits, eq_comm]
    | cons n shape =>
      have hfits : StridesFit (m :: n :: shape) ↔
          n * shape.prod < 2 ^ usizeBits ∧ StridesFit (n :: shape) := by
        constructor
        · intro h
          exact ⟨by simpa using h (n :: shape) (List.suffix_refl _),
            fun suf hsuf => h suf (hsuf.trans (List.suffix_cons n shape))⟩
        · rintro ⟨hfirst, h⟩ suf hsuf
          rcases List.suffix_cons_iff.mp hsuf with rfl | hsuf
          · simpa using hfirst
          · exact h suf hsuf
      rw [rowMajorStrides, bind_eq_ok, hfits]
      constructor
      · rintro ⟨later, hlater, h⟩
        obtain ⟨rfl, hlaterFits⟩ := ih.mp hlater
        obtain ⟨stride, hstride, h⟩ := bind_eq_ok.mp h
        obtain ⟨rfl, hlt⟩ := checkedMul_eq_some.mp (okOr_eq_ok.mp hstride)
        cases h
        exact ⟨by simp [strides], by simpa [strides] using hlt, hlaterFits⟩
      · rintro ⟨rfl, hlt, hlaterFits⟩
        refine ⟨_, ih.mpr ⟨rfl, hlaterFits⟩, ?_⟩
        have hmul : checkedMul usizeBits n ((strides (n :: shape)).headD 1) =
            some (n * shape.prod) := checkedMul_of_lt hlt
        rw [hmul]
        simp [strides]

lemma stridesFit_of_prod_lt (h : 0 ∉ shape) (hlt : shape.prod < 2 ^ usizeBits) :
    StridesFit shape := by
  intro suf hsuf
  exact (prod_le_of_suffix h (hsuf.trans (List.tail_suffix shape))).trans_lt hlt

lemma linearFromIndicesFrom_eq {linear : ℕ} (h : InBounds shape index)
    (hlt : linear + ravel shape index < 2 ^ usizeBits) :
    linearFromIndicesFrom index (strides shape) shape linear =
      .ok (linear + ravel shape index) := by
  induction h generalizing linear with
  | nil => rfl
  | @cons i n index shape hi _ ih =>
    rw [ravel] at hlt ⊢
    rw [strides, linearFromIndicesFrom, failIf_neg (not_le.mpr hi), ok_bind,
      checkedMul_of_lt (by omega), okOr_some, ok_bind, checkedAdd_of_lt (by omega), okOr_some,
      ok_bind, ih (by omega), Nat.add_assoc]

/-- The linear offset of a multi-index is its row-major number. -/
lemma linearFromIndices_eq (h : InBounds shape index) (hlt : shape.prod < 2 ^ usizeBits) :
    linearFromIndices index (strides shape) shape = .ok (ravel shape index) := by
  have hravel := ravel_lt h
  rw [linearFromIndices, failIf_neg (by simp [h.length_eq]), ok_bind,
    linearFromIndicesFrom_eq h (by omega), Nat.zero_add]

/-! ### Axes -/

/-- An axis argument denotes an axis of a rank, from the start or from the end. -/
def AxisDenotes (rank : ℕ) (axis : Int64) (a : ℕ) : Prop :=
  a < rank ∧ (axis.toInt = a ∨ axis.toInt = a - rank)

/-- An axis argument denotes one of the places where an axis can be inserted. -/
def InsertAxisDenotes (rank : ℕ) (axis : Int64) (a : ℕ) : Prop :=
  a ≤ rank ∧ (axis.toInt = a ∨ axis.toInt = a - rank - 1)

lemma isizeTryFrom_eq {value : ℕ} {message : String} (h : value < 2 ^ 63) :
    isizeTryFrom value message = .ok (value : ℤ) := by
  rw [isizeTryFrom, failIf_neg (not_le.mpr h)]
  rfl

lemma normalizeAxis_eq_ok {rank a : ℕ} {axis : Int64} (hrank : rank < 2 ^ 63) :
    normalizeAxis axis rank = .ok a ↔ AxisDenotes rank axis a := by
  have hlow := axis.le_toInt
  have hhigh := axis.toInt_lt
  rw [normalizeAxis, isizeTryFrom_eq hrank, ok_bind, AxisDenotes]
  by_cases hneg : axis.toInt < 0
  · rw [if_pos hneg, checkedAddIsize, if_pos (by omega), okOr_some, ok_bind, bind_eq_ok]
    simp only [failIf_eq_ok, pure_eq_ok, Except.ok.injEq, exists_const]
    omega
  · rw [if_neg hneg, pure_eq_ok, ok_bind, bind_eq_ok]
    simp only [failIf_eq_ok, pure_eq_ok, Except.ok.injEq, exists_const]
    omega

lemma normalizeInsertAxis_eq_ok {rank a : ℕ} {axis : Int64} (hrank : rank < 2 ^ 63) :
    normalizeInsertAxis axis rank = .ok a ↔ InsertAxisDenotes rank axis a := by
  have hlow := axis.le_toInt
  have hhigh := axis.toInt_lt
  rw [normalizeInsertAxis, isizeTryFrom_eq hrank, ok_bind, InsertAxisDenotes]
  by_cases hneg : axis.toInt < 0
  · rw [if_pos hneg, checkedAddIsize, if_pos (by omega), Option.bind_some, checkedAddIsize,
      if_pos (by omega), okOr_some, ok_bind, bind_eq_ok]
    simp only [failIf_eq_ok, pure_eq_ok, Except.ok.injEq, exists_const]
    omega
  · rw [if_neg hneg, pure_eq_ok, ok_bind, bind_eq_ok]
    simp only [failIf_eq_ok, pure_eq_ok, Except.ok.injEq, exists_const]
    omega

lemma AxisDenotes.unique {rank a b : ℕ} {axis : Int64} (ha : AxisDenotes rank axis a)
    (hb : AxisDenotes rank axis b) : a = b := by
  unfold AxisDenotes at ha hb
  omega

end ArcadiaTio.Tio
