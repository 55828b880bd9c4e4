import Mathlib.Data.List.InsertIdx
import ArcadiaTio.Tensor.Stack

/-!
# Reshaping tensors

`reshape` and its relatives change the shape of a tensor and hand its payload on as it is.  A run
of them reaches exactly the valid tensors of the same dtype and payload, all of them in a single
step (`runShapeOps_iff`).  An axis of length one may be inserted or removed anywhere: it changes
neither the number of elements nor whether the running product overflows on the way
(`productFits_longAxes`).
-/

namespace ArcadiaTio.Tio

open ArcadiaTio.Lib ArcadiaTio.Lib.RowMajor

/-! ### Operations -/

namespace Tensor

variable (t : Tensor)

/-- Validate and clone an already-owned row-major tensor. -/
def toContiguous : Result Tensor := do
  t.validate
  return t

/-- Reshape a tensor in row-major order. -/
def reshape (shape : List UInt64) : Result Tensor := do
  t.validate
  validateShapeRank shape
  let expected ← shapeElementLen shape
  failIf (expected ≠ t.data.len) (invalidArgument
    ("reshape element count " ++ toString expected ++ " does not match tensor element count " ++
      toString t.data.len))
  tensorFromData t.dtype shape t.data

/-- Flatten a tensor to a one-dimensional owned tensor. -/
def flatten : Result Tensor := do
  t.validate
  let len ← usizeToU64 t.data.len
  t.reshape [len]

/-- The second name of the flattened tensor. -/
def ravelView : Result Tensor := t.flatten

/-- Insert a length-1 axis. -/
def expandDims (axis : Int64) : Result Tensor := do
  t.validate
  let axis ← normalizeInsertAxis axis t.shape.length
  tensorFromData t.dtype (t.shape.insertIdx axis 1) t.data

/-- Remove all length-1 axes. -/
def squeeze : Result Tensor := do
  t.validate
  let shape := t.shape.filter fun dim => dim ≠ 1
  failIf (shape = []) (invalidArgument "squeeze would produce a rank-0 tensor")
  tensorFromData t.dtype shape t.data

end Tensor

/-- The operations that change nothing but the shape. -/
inductive ShapeOp
  | toContiguous
  | reshape (shape : List UInt64)
  | flatten
  | ravelView
  | expandDims (axis : Int64)
  | squeeze
  | squeezeAxis (axis : Int64)

/-- What an operation makes of a tensor. -/
def ShapeOp.apply (t : Tensor) : ShapeOp → Result Tensor
  | toContiguous => t.toContiguous
  | reshape shape => t.reshape shape
  | flatten => t.flatten
  | ravelView => t.ravelView
  | expandDims axis => t.expandDims axis
  | squeeze => t.squeeze
  | squeezeAxis axis => t.squeezeAxis axis

/-- Apply the operations one after the other. -/
def runShapeOps (t : Tensor) (ops : List ShapeOp) : Result Tensor := ops.foldlM ShapeOp.apply t

/-! ### Axes of length one -/

section LongAxes

variable {shape : List ℕ} {a p : ℕ}

/-- The axes that are not of length one. -/
def longAxes (shape : List ℕ) : List ℕ := shape.filter fun n => n ≠ 1

lemma longAxes_cons_one : longAxes (1 :: shape) = longAxes shape := rfl

lemma longAxes_cons_of_ne {n : ℕ} (hn : n ≠ 1) : longAxes (n :: shape) = n :: longAxes shape :=
  List.filter_cons_of_pos (by simpa using hn)

lemma longAxes_insertIdx_one : longAxes (shape.insertIdx a 1) = longAxes shape := by
  induction shape generalizing a with
  | nil =>
    cases a with
    | zero => rfl
    | succ a => rfl
  | cons n shape ih =>
    cases a with
    | zero => rfl
    | succ a =>
      rw [List.insertIdx_succ_cons]
      by_cases hn : n = 1
      · rw [hn, longAxes_cons_one, longAxes_cons_one, ih]
      · rw [longAxes_cons_of_ne hn, longAxes_cons_of_ne hn, ih]

lemma longAxes_eraseIdx (ha : a < shape.length) (hone : shape.getD a 0 = 1) :
    longAxes (shape.eraseIdx a) = longAxes shape := by
  conv_rhs => rw [← insertIdx_eraseIdx_getD ha, hone, longAxes_insertIdx_one]

@[simp] lemma longAxes_longAxes : longAxes (longAxes shape) = longAxes shape := by
  rw [longAxes, longAxes, List.filter_filter]
  simp

lemma prod_longAxes : (longAxes shape).prod = shape.prod := by
  induction shape with
  | nil => rfl
  | cons n shape ih =>
    by_cases hn : n = 1
    · rw [hn, longAxes_cons_one, ih, List.prod_cons, Nat.one_mul]
    · rw [longAxes_cons_of_ne hn, List.prod_cons, List.prod_cons, ih]

/-- Every product on the way from `p` fits a word. -/
def ProductFitsFrom (p : ℕ) (shape : List ℕ) : Prop :=
  ∀ pre, pre <+: shape → p * pre.prod < 2 ^ usizeBits

lemma productFitsFrom_cons {n : ℕ} : ProductFitsFrom p (n :: shape) ↔
    p < 2 ^ usizeBits ∧ ProductFitsFrom (p * n) shape := by
  constructor
  · intro h
    refine ⟨by simpa using h [] List.nil_prefix, fun pre hpre => ?_⟩
    have hlt := h (n :: pre) ((List.prefix_cons_inj n).mpr hpre)
    rwa [List.prod_cons, ← Nat.mul_assoc] at hlt
  · rintro ⟨hp, h⟩ pre hpre
    rcases List.prefix_cons_iff.mp hpre with rfl | ⟨tail, rfl, htail⟩
    · simpa using hp
    · rw [List.prod_cons, ← Nat.mul_assoc]
      exact h tail htail

lemma ProductFitsFrom.start_lt (h : ProductFitsFrom p shape) : p < 2 ^ usizeBits := by
  simpa using h [] List.nil_prefix

lemma productFitsFrom_longAxes : ProductFitsFrom p (longAxes shape) ↔ ProductFitsFrom p shape := by
  induction shape generalizing p with
  | nil => exact Iff.rfl
  | cons n shape ih =>
    by_cases hn : n = 1
    · rw [hn, longAxes_cons_one, ih, productFitsFrom_cons, Nat.mul_one]
      exact ⟨fun h => ⟨h.start_lt, h⟩, And.right⟩
    · rw [longAxes_cons_of_ne hn, productFitsFrom_cons, productFitsFrom_cons, ih]

/-- Axes of length one do not matter to the running product. -/
lemma productFits_longAxes : ProductFits (longAxes shape) ↔ ProductFits shape := by
  have h := @productFitsFrom_longAxes shape 1
  simpa only [ProductFitsFrom, ProductFits, Nat.one_mul] using h

lemma productFits_congr {shape' : List ℕ} (h : longAxes shape = longAxes shape') :
    ProductFits shape ↔ ProductFits shape' := by
  rw [← productFits_longAxes, h, productFits_longAxes]

lemma prod_congr {shape' : List ℕ} (h : longAxes shape = longAxes shape') :
    shape.prod = shape'.prod := by
  rw [← prod_longAxes, h, prod_longAxes]

end LongAxes

/-! ### One operation -/

/-- The place of a new axis is, under the same argument, the place of the axis once it is there. -/
lemma InsertAxisDenotes.axisDenotes {rank a : ℕ} {axis : Int64}
    (h : InsertAxisDenotes rank axis a) : AxisDenotes (rank + 1) axis a := by
  unfold InsertAxisDenotes at h
  exact ⟨by omega, by omega⟩

namespace Tensor

variable {t u out : Tensor} {shape : List UInt64} {axis : Int64} {a : ℕ}

/-- A tensor of the same dtype and payload that passes its validation. -/
structure SamePayload (t u : Tensor) : Prop where
  dtype_eq : u.dtype = t.dtype
  data_eq : u.data = t.data
  valid : u.validate = .ok ()

namespace SamePayload

lemma refl (h : t.validate = .ok ()) : t.SamePayload t := ⟨rfl, rfl, h⟩

lemma trans (h : t.SamePayload u) (h' : u.SamePayload out) : t.SamePayload out :=
  ⟨h'.dtype_eq.trans h.dtype_eq, h'.data_eq.trans h.data_eq, h'.valid⟩

lemma eq_mk (h : t.SamePayload u) : u = ⟨t.dtype, u.shape, t.data⟩ := by
  rw [← h.dtype_eq, ← h.data_eq]

/-- The elements keep their row-major numbers. -/
lemma element_eq (h : t.SamePayload u) (ht : t.validate = .ok ()) {k : ℕ} (hk : k < t.data.len) :
    u.element (unravel u.dims k) = t.element (unravel t.dims k) := by
  obtain ⟨-, -, -, hlen⟩ := validateTensorParts_eq_ok.mp ht
  obtain ⟨-, -, -, hlenOut⟩ := validateTensorParts_eq_ok.mp h.valid
  rw [h.data_eq] at hlenOut
  have hkOut : k < u.dims.prod := hk.trans_eq hlenOut
  have hkIn : k < t.dims.prod := hk.trans_eq hlen
  rw [element, element, ravel_unravel hkOut, ravel_unravel hkIn, h.data_eq]

end SamePayload

lemma tensorFromData_self_eq_ok : tensorFromData t.dtype shape t.data = .ok out ↔
    t.SamePayload out ∧ out.shape = shape := by
  rw [tensorFromData_eq_ok]
  constructor
  · rintro ⟨rfl, hvalid⟩
    exact ⟨⟨rfl, rfl, hvalid⟩, rfl⟩
  · rintro ⟨h, rfl⟩
    exact ⟨h.eq_mk, h.valid⟩

/-- Reshaping a tensor gives the tensor of the same payload with the given shape, if there is
one. -/
lemma reshape_eq_ok (ht : t.validate = .ok ()) :
    t.reshape shape = .ok out ↔ t.SamePayload out ∧ out.shape = shape := by
  rw [reshape, ht, ok_bind, validateShapeRank]
  simp only [bind_eq_ok, failIf_eq_ok, shapeElementLen_eq_ok, tensorFromData_self_eq_ok, not_not,
    exists_const]
  constructor
  · rintro ⟨-, -, -, -, h⟩
    exact h
  · rintro ⟨h, rfl⟩
    obtain ⟨hne, -, hfits, hlen⟩ := validateTensorParts_eq_ok.mp h.valid
    rw [h.data_eq] at hlen
    exact ⟨hne, _, ⟨rfl, hfits⟩, hlen.symm, h, rfl⟩

/-- A shape of the right number of elements, without an overflow on the way, can be reshaped to. -/
lemma isOk_reshape_iff (ht : t.validate = .ok ()) : IsOk (t.reshape shape) ↔
    shape ≠ [] ∧ ProductFits (shapeU64ToUsize shape) ∧
      (shapeU64ToUsize shape).prod = t.dims.prod := by
  obtain ⟨-, hdtype, -, hlen⟩ := validateTensorParts_eq_ok.mp ht
  constructor
  · rintro ⟨out, h⟩
    obtain ⟨hsame, rfl⟩ := (reshape_eq_ok ht).mp h
    obtain ⟨hne, -, hfits, hlenOut⟩ := validateTensorParts_eq_ok.mp hsame.valid
    rw [hsame.data_eq, hlen] at hlenOut
    exact ⟨hne, hfits, hlenOut.symm⟩
  · rintro ⟨hne, hfits, hprod⟩
    refine ⟨⟨t.dtype, shape, t.data⟩, (reshape_eq_ok ht).mpr ⟨⟨rfl, rfl, ?_⟩, rfl⟩⟩
    exact validateTensorParts_eq_ok.mpr ⟨hne, hdtype, hfits, hlen.trans hprod.symm⟩

/-- A shape with the same axes of other lengths than one can be reshaped to. -/
lemma samePayload_of_longAxes (ht : t.validate = .ok ()) (hne : shape ≠ [])
    (h : longAxes (shapeU64ToUsize shape) = longAxes t.dims) :
    t.SamePayload ⟨t.dtype, shape, t.data⟩ := by
  obtain ⟨-, -, hfits, -⟩ := validateTensorParts_eq_ok.mp ht
  obtain ⟨out, hout⟩ := (isOk_reshape_iff ht).mpr
    ⟨hne, (productFits_congr h).mpr hfits, prod_congr h⟩
  obtain ⟨hsame, rfl⟩ := (reshape_eq_ok ht).mp hout
  exact hsame.eq_mk ▸ hsame

/-- A valid tensor can always be flattened. -/
lemma isOk_flatten (ht : t.validate = .ok ()) : IsOk t.flatten := by
  obtain ⟨-, -, hfits, hlen⟩ := validateTensorParts_eq_ok.mp ht
  have hlt : t.data.len < 2 ^ 64 := by
    rw [hlen]
    exact hfits.prod_lt
  have hword : shapeU64ToUsize [t.data.len.toUInt64] = [t.data.len] := by
    rw [shapeU64ToUsize, List.map_singleton, UInt64.toNat_ofNat_of_lt' hlt]
  rw [flatten, ht, ok_bind, usizeToU64, failIf_neg (not_le.mpr hlt), ok_bind, pure_eq_ok, ok_bind,
    isOk_reshape_iff ht, hword]
  refine ⟨List.cons_ne_nil _ _, fun pre hpre => ?_, by rw [List.prod_singleton]; exact hlen⟩
  rcases List.prefix_cons_iff.mp hpre with rfl | ⟨tail, rfl, htail⟩
  · decide
  · rw [List.prefix_nil.mp htail, List.prod_singleton]
    exact hlt

/-! ### A new axis of length one -/

/-- The tensor with a new axis of length one. -/
def withUnitAxis (a : ℕ) (t : Tensor) : Tensor := ⟨t.dtype, t.shape.insertIdx a 1, t.data⟩

lemma dims_withUnitAxis : (t.withUnitAxis a).dims = t.dims.insertIdx a 1 := by
  rw [dims, withUnitAxis, shapeU64ToUsize, List.map_insertIdx]
  rfl

lemma length_dims_withUnitAxis (ha : a ≤ t.dims.length) :
    (t.withUnitAxis a).dims.length = t.dims.length + 1 := by
  rw [dims_withUnitAxis, List.length_insertIdx, if_pos ha]

lemma getD_withUnitAxis (ha : a ≤ t.dims.length) :
    (t.withUnitAxis a).shape.getD a 0 = 1 := by
  have ha : a ≤ t.shape.length := t.length_dims ▸ ha
  rw [withUnitAxis, List.getD_eq_getElem _ _ (by rw [List.length_insertIdx, if_pos ha]; omega),
    List.getElem_insertIdx_self]

lemma samePayload_withUnitAxis (ht : t.validate = .ok ()) (ha : a ≤ t.dims.length) :
    t.SamePayload (t.withUnitAxis a) := by
  refine samePayload_of_longAxes ht ?_ ?_
  · rw [← List.length_pos_iff, List.length_insertIdx, if_pos (t.length_dims ▸ ha)]
    omega
  · rw [shapeU64ToUsize, List.map_insertIdx]
    exact longAxes_insertIdx_one

lemma Valid.withUnitAxis (ht : t.Valid) (ha : a ≤ t.dims.length)
    (hroom : t.shape.length + 1 < 2 ^ 63) : (t.withUnitAxis a).Valid := by
  have hrank : (t.withUnitAxis a).shape.length = t.shape.length + 1 :=
    (List.length_insertIdx ..).trans (if_pos (t.length_dims ▸ ha))
  exact ⟨(samePayload_withUnitAxis ht.parts ha).valid, hrank.trans_lt hroom, ht.len_lt⟩

lemma expandDims_eq_ok (ht : t.Valid) : t.expandDims axis = .ok out ↔
    ∃ a, InsertAxisDenotes t.dims.length axis a ∧ out = t.withUnitAxis a := by
  have hrank : t.shape.length = t.dims.length := t.length_dims.symm
  rw [expandDims, ht.parts, ok_bind, bind_eq_ok, hrank]
  simp only [normalizeInsertAxis_eq_ok ht.rank_dims_lt, tensorFromData_self_eq_ok]
  refine exists_congr fun a => and_congr_right fun ha => ?_
  constructor
  · rintro ⟨h, hshape⟩
    rw [withUnitAxis, ← hshape]
    exact h.eq_mk
  · rintro rfl
    exact ⟨samePayload_withUnitAxis ht.parts ha.1, rfl⟩

/-! ### Removing axes of length one -/

lemma getD_dims_eq_one (ha : a < t.dims.length) :
    t.dims.getD a 0 = 1 ↔ t.shape.getD a 0 = 1 := by
  rw [List.getD_eq_getElem _ _ ha, List.getD_eq_getElem _ _ (t.length_dims ▸ ha)]
  simp only [dims, shapeU64ToUsize, List.getElem_map]
  exact UInt64.toNat_inj (b := 1)

lemma squeezeAxis_eq_ok (ht : t.Valid) : t.squeezeAxis axis = .ok out ↔
    ∃ a, AxisDenotes t.dims.length axis a ∧ t.shape.getD a 0 = 1 ∧ t.dims.length ≠ 1 ∧
      out = ⟨t.dtype, t.shape.eraseIdx a, t.data⟩ := by
  have hrank : t.shape.length = t.dims.length := t.length_dims.symm
  rw [squeezeAxis, ht.parts, ok_bind, bind_eq_ok, hrank]
  simp only [normalizeAxis_eq_ok ht.rank_dims_lt, bind_eq_ok, failIf_eq_ok,
    tensorFromData_self_eq_ok, not_not, exists_const]
  refine exists_congr fun a => and_congr_right fun ha => and_congr_right fun hone => ?_
  have hlen : (t.shape.eraseIdx a).length + 1 = t.dims.length := by
    rw [List.length_eraseIdx, if_pos (hrank ▸ ha.1), hrank]
    have := ha.1
    omega
  have hnil : t.shape.eraseIdx a = [] ↔ t.dims.length = 1 := by
    rw [← List.length_eq_zero_iff]
    omega
  constructor
  · rintro ⟨hne, h, hshape⟩
    rw [← hshape]
    exact ⟨fun hsingle => hne (hnil.mpr hsingle), h.eq_mk⟩
  · rintro ⟨hne, rfl⟩
    have hne' : t.shape.eraseIdx a ≠ [] := fun hempty => hne (hnil.mp hempty)
    refine ⟨hne', samePayload_of_longAxes ht.parts hne' ?_, rfl⟩
    rw [shapeU64ToUsize, ← List.eraseIdx_map]
    exact longAxes_eraseIdx ha.1 ((getD_dims_eq_one ha.1).mpr hone)

lemma longAxes_dims : longAxes t.dims = shapeU64ToUsize (t.shape.filter fun dim => dim ≠ 1) := by
  rw [longAxes, dims, shapeU64ToUsize, shapeU64ToUsize, List.filter_map]
  congr 1
  refine List.filter_congr fun dim _ => ?_
  simp [← UInt64.toNat_inj]

lemma squeeze_eq_ok (ht : t.validate = .ok ()) : t.squeeze = .ok out ↔
    longAxes t.dims ≠ [] ∧ out = ⟨t.dtype, t.shape.filter fun dim => dim ≠ 1, t.data⟩ := by
  have hnil : (t.shape.filter fun dim => dim ≠ 1) = [] ↔ longAxes t.dims = [] := by
    rw [longAxes_dims, shapeU64ToUsize, List.map_eq_nil_iff]
  rw [squeeze, ht, ok_bind, bind_eq_ok]
  simp only [failIf_eq_ok, tensorFromData_self_eq_ok, exists_const]
  rw [hnil]
  refine and_congr_right fun hne => ?_
  constructor
  · rintro ⟨h, hshape⟩
    rw [← hshape]
    exact h.eq_mk
  · rintro rfl
    refine ⟨samePayload_of_longAxes ht (fun hempty => hne (hnil.mp hempty)) ?_, rfl⟩
    rw [← longAxes_dims, longAxes_longAxes]

end Tensor

/-! ### A run -/

section Run

variable {t u out : Tensor}

/-- No operation changes the payload. -/
lemma ShapeOp.samePayload_of_apply {op : ShapeOp} (h : op.apply t = .ok out) :
    t.SamePayload out := by
  cases op with
  | toContiguous =>
    obtain ⟨_, ht, h⟩ := bind_eq_ok.mp h
    cases h
    exact .refl ht
  | reshape shape =>
    obtain ⟨_, ht, -⟩ := bind_eq_ok.mp h
    exact ((Tensor.reshape_eq_ok ht).mp h).1
  | flatten =>
    obtain ⟨_, ht, h⟩ := bind_eq_ok.mp h
    obtain ⟨len, -, h⟩ := bind_eq_ok.mp h
    exact ((Tensor.reshape_eq_ok ht).mp h).1
  | ravelView =>
    obtain ⟨_, ht, h⟩ := bind_eq_ok.mp h
    obtain ⟨len, -, h⟩ := bind_eq_ok.mp h
    exact ((Tensor.reshape_eq_ok ht).mp h).1
  | expandDims axis =>
    obtain ⟨_, -, h⟩ := bind_eq_ok.mp h
    obtain ⟨a, -, h⟩ := bind_eq_ok.mp h
    exact (Tensor.tensorFromData_self_eq_ok.mp h).1
  | squeeze =>
    obtain ⟨_, -, h⟩ := bind_eq_ok.mp h
    obtain ⟨_, -, h⟩ := bind_eq_ok.mp h
    exact (Tensor.tensorFromData_self_eq_ok.mp h).1
  | squeezeAxis axis =>
    obtain ⟨_, -, h⟩ := bind_eq_ok.mp h
    obtain ⟨a, -, h⟩ := bind_eq_ok.mp h
    obtain ⟨_, -, h⟩ := bind_eq_ok.mp h
    obtain ⟨_, -, h⟩ := bind_eq_ok.mp h
    exact (Tensor.tensorFromData_self_eq_ok.mp h).1

/-- No run changes the payload. -/
lemma samePayload_of_runShapeOps {ops : List ShapeOp} (ht : t.validate = .ok ())
    (h : runShapeOps t ops = .ok out) : t.SamePayload out := by
  induction ops generalizing t with
  | nil =>
    cases h
    exact .refl ht
  | cons op ops ih =>
    obtain ⟨u, hop, hrest⟩ := bind_eq_ok.mp h
    have hsame := ShapeOp.samePayload_of_apply hop
    exact hsame.trans (ih hsame.valid hrest)

/-- The tensors that runs reach are the valid ones of the same dtype and payload.  Each is reached
by reshaping once, each run is undone by reshaping once, and the elements keep their row-major
numbers. -/
theorem runShapeOps_iff (ht : t.validate = .ok ()) :
    ((∃ ops, runShapeOps t ops = .ok u) ↔
      u.validate = .ok () ∧ u.dtype = t.dtype ∧ u.data = t.data) ∧
    ∀ ops, runShapeOps t ops = .ok u → t.reshape u.shape = .ok u ∧ u.reshape t.shape = .ok t ∧
      ∀ k < t.data.len, u.element (unravel u.dims k) = t.element (unravel t.dims k) := by
  refine ⟨⟨?_, ?_⟩, fun ops h => ?_⟩
  · rintro ⟨ops, h⟩
    have hsame := samePayload_of_runShapeOps ht h
    exact ⟨hsame.valid, hsame.dtype_eq, hsame.data_eq⟩
  · rintro ⟨hvalid, hdtype, hdata⟩
    refine ⟨[.reshape u.shape], ?_⟩
    have hreshape := (Tensor.reshape_eq_ok ht).mpr ⟨⟨hdtype, hdata, hvalid⟩, rfl⟩
    rw [runShapeOps, List.foldlM_cons, ShapeOp.apply, hreshape]
    rfl
  · have hsame := samePayload_of_runShapeOps ht h
    refine ⟨(Tensor.reshape_eq_ok ht).mpr ⟨hsame, rfl⟩,
      (Tensor.reshape_eq_ok hsame.valid).mpr ⟨⟨hsame.dtype_eq.symm, hsame.data_eq.symm, ht⟩, rfl⟩,
      fun k hk => hsame.element_eq ht hk⟩

/-- A matrix, its transposed shape and a run that goes through a vector. -/
theorem runShapeOps_iff_sampleMatrix :
    (∃ ops, runShapeOps Tensor.sampleMatrix ops = .ok ⟨.i32, [3, 2], .i32 [1, 2, 3, 4, 5, 6]⟩) ∧
    (⟨.i32, [1, 3, 2], .i32 [1, 2, 3, 4, 5, 6]⟩ : Tensor).reshape [2, 3] =
      .ok Tensor.sampleMatrix := by
  have hvalid : Tensor.sampleMatrix.validate = .ok () := rfl
  refine ⟨(runShapeOps_iff hvalid).1.mpr ⟨rfl, rfl, rfl⟩, ?_⟩
  have hrun : runShapeOps Tensor.sampleMatrix [.flatten, .reshape [3, 2], .expandDims 0] =
      .ok ⟨.i32, [1, 3, 2], .i32 [1, 2, 3, 4, 5, 6]⟩ := by decide
  exact ((runShapeOps_iff hvalid).2 _ hrun).2.1

end Run

/-! ### When an operation succeeds -/

namespace Tensor

variable {t u out : Tensor} {axis : Int64}

/-- A valid tensor can be reshaped to any shape of as many elements, flattened, given a new axis at
any place, and squeezed as long as an axis remains. -/
theorem isOk_shapeOps_iff (ht : t.Valid) :
    (∀ shape, IsOk (t.reshape shape) ↔ shape ≠ [] ∧ ProductFits (shapeU64ToUsize shape) ∧
      (shapeU64ToUsize shape).prod = t.dims.prod) ∧
    IsOk t.flatten ∧ t.ravelView = t.flatten ∧
    (∀ axis, IsOk (t.expandDims axis) ↔ ∃ a, InsertAxisDenotes t.dims.length axis a) ∧
    (∀ axis, IsOk (t.squeezeAxis axis) ↔ ∃ a, AxisDenotes t.dims.length axis a ∧
      t.dims.getD a 0 = 1 ∧ t.dims.length ≠ 1) ∧
    (IsOk t.squeeze ↔ ∃ n ∈ t.dims, n ≠ 1) := by
  refine ⟨fun shape => isOk_reshape_iff ht.parts, isOk_flatten ht.parts, rfl, fun axis => ?_,
    fun axis => ?_, ?_⟩
  · simp only [IsOk, expandDims_eq_ok ht]
    constructor
    · rintro ⟨_, a, ha, -⟩
      exact ⟨a, ha⟩
    · rintro ⟨a, ha⟩
      exact ⟨_, a, ha, rfl⟩
  · simp only [IsOk, squeezeAxis_eq_ok ht]
    constructor
    · rintro ⟨_, a, ha, hone, hne, -⟩
      exact ⟨a, ha, (getD_dims_eq_one ha.1).mpr hone, hne⟩
    · rintro ⟨a, ha, hone, hne⟩
      exact ⟨_, a, ha, (getD_dims_eq_one ha.1).mp hone, hne, rfl⟩
  · simp only [IsOk, squeeze_eq_ok ht.parts, exists_and_left, exists_eq, and_true]
    rw [longAxes, ne_eq, List.filter_eq_nil_iff]
    simp

/-- The matrix has no axis to squeeze, and room for a new one at its end. -/
theorem isOk_shapeOps_iff_sampleMatrix :
    ¬ IsOk (sampleMatrix.squeezeAxis 0) ∧ IsOk sampleMatrix.squeeze ∧
      IsOk (sampleMatrix.expandDims (-1)) := by
  obtain ⟨-, -, -, hexpand, haxis, hsqueeze⟩ := isOk_shapeOps_iff sampleMatrix_valid
  refine ⟨?_, hsqueeze.mpr ⟨2, by decide, by decide⟩, (hexpand _).mpr ⟨2, by decide, by decide⟩⟩
  rw [haxis]
  rintro ⟨a, ⟨hlt, -⟩, hone, -⟩
  have hlt : a < 2 := hlt
  obtain rfl | rfl : a = 0 ∨ a = 1 := by omega
  · exact absurd hone (by decide)
  · exact absurd hone (by decide)

/-! ### Undoing an operation -/

/-- The axis that was inserted is squeezed with the same argument. -/
lemma squeezeAxis_withUnitAxis {a : ℕ} (ht : t.Valid) (hu : (t.withUnitAxis a).Valid)
    (h : InsertAxisDenotes t.dims.length axis a) : (t.withUnitAxis a).squeezeAxis axis = .ok t := by
  have hpos : 0 < t.dims.length := List.length_pos_iff.mpr ht.dims_ne_nil
  rw [squeezeAxis_eq_ok hu, length_dims_withUnitAxis h.1]
  refine ⟨a, h.axisDenotes, getD_withUnitAxis h.1, by omega, ?_⟩
  rw [withUnitAxis, List.eraseIdx_insertIdx_self]

/-- The squeezed tensor is the same for all shapes with the same long axes, and for no other. -/
lemma squeeze_eq_squeeze_iff (ht : t.validate = .ok ()) (h : t.SamePayload u) :
    u.squeeze = t.squeeze ↔ longAxes u.dims = longAxes t.dims := by
  constructor
  · intro heq
    rcases hout : t.squeeze with e | out
    · have hnil : ∀ {v : Tensor}, v.validate = .ok () → v.squeeze = .error e →
          longAxes v.dims = [] := by
        intro v hv he
        by_contra hne
        rw [(squeeze_eq_ok hv).mpr ⟨hne, rfl⟩] at he
        cases he
      rw [hnil h.valid (heq.trans hout), hnil ht hout]
    · obtain ⟨-, hu⟩ := (squeeze_eq_ok h.valid).mp (heq.trans hout)
      obtain ⟨-, rfl⟩ := (squeeze_eq_ok ht).mp hout
      rw [longAxes_dims, longAxes_dims, (Tensor.mk.inj hu).2.1]
  · intro heq
    rw [longAxes_dims, longAxes_dims, shapeU64ToUsize, shapeU64ToUsize] at heq
    have hshape := List.map_injective_iff.mpr (fun a b => UInt64.toNat_inj.mp) heq
    rw [squeeze, squeeze, h.valid, ht, hshape, h.dtype_eq, h.data_eq]

/-- Inserting an axis and squeezing it are inverse to each other, for one axis argument, and the
squeezed tensor stands for all tensors of the same payload whose shapes differ in axes of length
one only. -/
theorem expandDims_iff_squeezeAxis (ht : t.Valid) (hu : u.Valid) :
    (t.expandDims axis = .ok u ↔ u.squeezeAxis axis = .ok t) ∧
    (u.dtype = t.dtype → u.data = t.data →
      (u.squeeze = t.squeeze ↔ longAxes u.dims = longAxes t.dims)) ∧
    (t.squeeze = .ok u → u.squeeze = .ok u) := by
  refine ⟨?_, fun hdtype hdata => squeeze_eq_squeeze_iff ht.parts ⟨hdtype, hdata, hu.parts⟩, ?_⟩
  · constructor
    · intro h
      obtain ⟨a, ha, rfl⟩ := (expandDims_eq_ok ht).mp h
      exact squeezeAxis_withUnitAxis ht hu ha
    · intro h
      obtain ⟨a, ⟨ha, haxis⟩, hone, hne, rfl⟩ := (squeezeAxis_eq_ok hu).mp h
      rw [u.length_dims] at ha haxis
      have hrank : (Tensor.mk u.dtype (u.shape.eraseIdx a) u.data).dims.length + 1 =
          u.shape.length := by
        rw [length_dims]
        change (u.shape.eraseIdx a).length + 1 = u.shape.length
        rw [List.length_eraseIdx, if_pos ha]
        omega
      refine (expandDims_eq_ok ht).mpr ⟨a, ⟨by omega, by omega⟩, ?_⟩
      rw [List.getD_eq_getElem _ _ ha] at hone
      have hshape := List.insertIdx_eraseIdx_getElem ha
      rw [hone] at hshape
      rw [withUnitAxis, hshape]
  · intro h
    obtain ⟨hne, rfl⟩ := (squeeze_eq_ok ht.parts).mp h
    refine (squeeze_eq_ok hu.parts).mpr ⟨?_, ?_⟩
    · rw [dims, ← longAxes_dims, longAxes_longAxes]
      exact hne
    · rw [List.filter_filter]
      simp

/-- The matrix, with a new axis in its middle. -/
theorem expandDims_iff_squeezeAxis_sampleMatrix :
    (⟨.i32, [2, 1, 3], .i32 [1, 2, 3, 4, 5, 6]⟩ : Tensor).squeezeAxis (-2) =
      .ok sampleMatrix :=
  (expandDims_iff_squeezeAxis sampleMatrix_valid ⟨rfl, by decide, by decide⟩).1.mp (by decide)

end Tensor

end ArcadiaTio.Tio
