import ArcadiaTio.Tensor.Exact
import ArcadiaTio.Tensor.FibreFolds

/-!
# Reductions fold every fibre once and in order

`Tensor.ReducedExactly` collects what an accepted reduction computes, for a tensor of any rank and
dtype.  The element-wise facts are stated on scalars, so that the four dtypes share them; `Payload`
says what one of them has to offer.
-/

namespace ArcadiaTio.Tio

open ArcadiaTio.Lib ArcadiaTio.Lib.RowMajor

/-! ### Scalars -/

namespace Scalar

/-- The start of a sum. -/
def zero : DType → Scalar
  | .f32 => .f32 0
  | .f64 => .f64 0
  | .i32 => .i32 0
  | .i64 => .i64 0

/-- The sum of two scalars of one dtype, if it is a value of that dtype. -/
def add (ops : FloatArith) : Scalar → Scalar → Option Scalar
  | f32 a, f32 b => some (.f32 (ops.f32 .add a b))
  | f64 a, f64 b => some (.f64 (ops.f64 .add a b))
  | i32 a, i32 b => (toI32 (a.toInt + b.toInt)).map .i32
  | i64 a, i64 b => (toI64 (a.toInt + b.toInt)).map .i64
  | _, _ => none

/-- The place of a scalar in the order of its dtype. -/
def rank : Scalar → Option ℤ
  | f32 bits => f32Rank bits
  | f64 bits => f64Rank bits
  | i32 value => i32Rank value
  | i64 value => i64Rank value

end Scalar

/-- What a dtype offers to reductions, and how it looks among the scalars. -/
structure Payload (α : Type) where
  dtype : DType
  toData : List α → TensorData
  toScalar : α → Scalar
  zero : α
  add : FloatArith → String → α → α → Result α
  rank : α → Option ℤ
  dtype_toData : ∀ values, (toData values).dtype = dtype
  len_toData : ∀ values, (toData values).len = values.length
  scalars_toData : ∀ values, (toData values).scalars = values.map toScalar
  toScalar_zero : toScalar zero = Scalar.zero dtype
  add_toScalar : ∀ ops message a b,
    Scalar.add ops (toScalar a) (toScalar b) = (add ops message a b).toOption.map toScalar
  rank_toScalar : ∀ a, (toScalar a).rank = rank a
  /-- the message of an overflow does not change what succeeds -/
  add_message : ∀ ops message message' a b r,
    add ops message a b = .ok r ↔ add ops message' a b = .ok r
  /-- additions never fail, or adding to the start changes nothing -/
  add_zero : ∀ ops, (∀ message a b, IsOk (add ops message a b)) ∨
    ∀ message a, add ops message zero a = .ok a

namespace Payload

/-- The payload of floats. -/
def f32 : Payload UInt32 where
  dtype := .f32
  toData := .f32
  toScalar := .f32
  zero := 0
  add ops _ a b := .ok (ops.f32 .add a b)
  rank := f32Rank
  dtype_toData _ := rfl
  len_toData _ := rfl
  scalars_toData _ := rfl
  toScalar_zero := rfl
  add_toScalar _ _ _ _ := rfl
  rank_toScalar _ := rfl
  add_message _ _ _ _ _ _ := Iff.rfl
  add_zero _ := Or.inl fun _ _ _ => ⟨_, rfl⟩

/-- The payload of doubles. -/
def f64 : Payload UInt64 where
  dtype := .f64
  toData := .f64
  toScalar := .f64
  zero := 0
  add ops _ a b := .ok (ops.f64 .add a b)
  rank := f64Rank
  dtype_toData _ := rfl
  len_toData _ := rfl
  scalars_toData _ := rfl
  toScalar_zero := rfl
  add_toScalar _ _ _ _ := rfl
  rank_toScalar _ := rfl
  add_message _ _ _ _ _ _ := Iff.rfl
  add_zero _ := Or.inl fun _ _ _ => ⟨_, rfl⟩

lemma toOption_okOr {β : Type} {o : Option β} {e : TioError} : (okOr o e).toOption = o := by
  cases o <;> rfl

/-- The payload of 32-bit integers. -/
def i32 : Payload Int32 where
  dtype := .i32
  toData := .i32
  toScalar := .i32
  zero := 0
  add _ := addI32
  rank := i32Rank
  dtype_toData _ := rfl
  len_toData _ := rfl
  scalars_toData _ := rfl
  toScalar_zero := rfl
  add_toScalar _ _ _ _ := by rw [addI32, checkedI32, toOption_okOr]; rfl
  rank_toScalar _ := rfl
  add_message _ _ _ _ _ _ := by simp only [addI32, checkedI32, okOr_eq_ok]
  add_zero _ := Or.inr fun message a => by
    rw [addI32, checkedI32, okOr_eq_ok, toI32_eq_some]
    exact (Int.zero_add _).symm

/-- The payload of 64-bit integers. -/
def i64 : Payload Int64 where
  dtype := .i64
  toData := .i64
  toScalar := .i64
  zero := 0
  add _ := addI64
  rank := i64Rank
  dtype_toData _ := rfl
  len_toData _ := rfl
  scalars_toData _ := rfl
  toScalar_zero := rfl
  add_toScalar _ _ _ _ := by rw [addI64, checkedI64, toOption_okOr]; rfl
  rank_toScalar _ := rfl
  add_message _ _ _ _ _ _ := by simp only [addI64, checkedI64, okOr_eq_ok]
  add_zero _ := Or.inr fun message a => by
    rw [addI64, checkedI64, okOr_eq_ok, toI64_eq_some]
    exact (Int.zero_add _).symm

variable {α : Type} (p : Payload α) (t : Tensor) (values : List α)

/-! ### The operations on one dtype -/

/-- The common frame of the reductions: a plan, the output shape, the payload, the validation. -/
def reduced (dtype : DType) (axes : Option (List Int64)) (keepdims : Bool)
    (payload : ReductionPlan → Result TensorData) : Result Tensor := do
  let shape ← validatedShape t
  let plan ← ReductionPlan.new shape axes keepdims
  let outShape ← shapeUsizeToU64 plan.outShape
  let data ← payload plan
  tensorFromData dtype outShape data

/-- The operations on the tensor are the generic ones on its values. -/
structure Carries : Prop where
  data_eq : t.data = p.toData values
  sum_eq : ∀ ops axes keepdims, t.sum ops axes keepdims = reduced t t.dtype axes keepdims fun plan =>
    p.toData <$> reduceSumValues plan t.dims values p.zero (p.add ops "integer reduction overflow")
  extreme_eq : ∀ axes keepdims takeMax, t.extreme axes keepdims takeMax =
    reduced t t.dtype axes keepdims fun plan =>
      p.toData <$> reduceExtremeValues plan t.dims p.rank values takeMax
  argReduce_eq : ∀ axes keepdims takeMax, t.argReduce axes keepdims takeMax =
    reduced t .i64 axes keepdims fun plan =>
      TensorData.i64 <$> argReduceValues plan t.dims p.rank values takeMax
  cumsum_eq : ∀ ops axis, t.cumsum ops (some axis) = (do
    let shape ← validatedShape t
    let axis ← normalizeAxis axis shape.length
    let out ← cumulativeAxisValues (p.add ops "integer cumulative sum overflow") values shape axis
    tensorFromData p.dtype t.shape (p.toData out))

end Payload

section Carries

variable {t : Tensor} (ht : t.Valid)

include ht

/-- The operations on the tensor are the generic ones on the values of its dtype. -/
lemma Payload.carries_data : match t.data with
    | .f32 values => Payload.f32.Carries t values
    | .f64 values => Payload.f64.Carries t values
    | .i32 values => Payload.i32.Carries t values
    | .i64 values => Payload.i64.Carries t values := by
  have hshape := ht.validatedShape_eq
  obtain ⟨dtype, shape, data⟩ := t
  cases data <;> constructor
  case f32.data_eq | f64.data_eq | i32.data_eq | i64.data_eq => rfl
  case f32.sum_eq | f64.sum_eq | i32.sum_eq | i64.sum_eq =>
    intro ops axes keepdims
    rw [Tensor.sum, Payload.reduced, hshape]
    rfl
  case f32.extreme_eq | f64.extreme_eq | i32.extreme_eq | i64.extreme_eq =>
    intro axes keepdims takeMax
    rw [Tensor.extreme, Payload.reduced, hshape]
    rfl
  case f32.argReduce_eq | f64.argReduce_eq | i32.argReduce_eq | i64.argReduce_eq =>
    intro axes keepdims takeMax
    rw [Tensor.argReduce, Payload.reduced, hshape]
    simp only [ok_bind, bind_map_left]
    rfl
  case f32.cumsum_eq | f64.cumsum_eq | i32.cumsum_eq | i64.cumsum_eq =>
    intro ops axis
    simp only [Tensor.cumsum, Tensor.cumulativeOp, Tensor.cumulativeShape, cumulativeValues,
      Option.elim_some, ok_bind, bind_assoc]
    rfl

lemma Payload.carries_i32 {values : List Int32} (hdata : t.data = .i32 values) :
    Payload.i32.Carries t values := by
  have hcarries := Payload.carries_data ht
  rwa [hdata] at hcarries

lemma Payload.carries_i64 {values : List Int64} (hdata : t.data = .i64 values) :
    Payload.i64.Carries t values := by
  have hcarries := Payload.carries_data ht
  rwa [hdata] at hcarries

/-- Every tensor carries the values of one dtype. -/
lemma Tensor.Valid.exists_carries :
    ∃ (α : Type) (p : Payload α) (values : List α), p.Carries t values := by
  have hcarries := Payload.carries_data ht
  cases hdata : t.data with
  | f32 values => exact ⟨UInt32, .f32, values, by rwa [hdata] at hcarries⟩
  | f64 values => exact ⟨UInt64, .f64, values, by rwa [hdata] at hcarries⟩
  | i32 values => exact ⟨Int32, .i32, values, by rwa [hdata] at hcarries⟩
  | i64 values => exact ⟨Int64, .i64, values, by rwa [hdata] at hcarries⟩

end Carries

/-! ### The frame of a reduction -/

/-- The values of a fibre of a tensor. -/
def Tensor.fibre (t : Tensor) (plan : ReductionPlan) (o : ℕ) : List Scalar :=
  Tio.fibre plan.reduceMask t.dims t.data.scalars o

/-- A valid output of a reduction, with one scalar in each cell. -/
structure Tensor.HasCells (out : Tensor) (dtype : DType) (plan : ReductionPlan)
    (cell : ℕ → Scalar → Prop) : Prop where
  valid : out.validate = .ok ()
  dtype_eq : out.dtype = dtype
  dims_eq : out.dims = plan.outShape
  cell : ∀ o < plan.outElems, ∃ s, cell o s ∧ out.data.scalars[o]? = some s

section Frame

variable {t : Tensor} {axes : Option (List Int64)} {keepdims : Bool} {plan : ReductionPlan}

variable (ht : t.Valid) (hne : t.data.len ≠ 0)
  (hplan : ReductionPlan.new t.dims axes keepdims = .ok plan)

include ht hne hplan

lemma splits_of_new : plan.Splits t.dims ∧ plan.keepdims = keepdims ∧
    ∃ reduced, reducedAxes axes t.dims.length = .ok reduced ∧
      plan.reduceMask = reduceMaskOf reduced t.dims.length :=
  ReductionPlan.splits_of_new (ht.zero_notMem hne) ht.prod_lt hplan

lemma outShape_lt : ∀ n ∈ plan.outShape, n < 2 ^ 64 := by
  intro n hn
  rw [(splits_of_new ht hne hplan).1.outShape_eq] at hn
  rcases mem_reducedShape hn with rfl | hmem
  · decide
  · exact Tensor.dims_lt t n hmem

lemma prod_outShape : plan.outShape.prod = plan.outElems := by
  have hsplits := (splits_of_new ht hne hplan).1
  rw [hsplits.outShape_eq, prod_reducedShape hsplits.length_eq, hsplits.outElems_eq]

lemma productFits_outShape : ProductFits plan.outShape := by
  have hsplits := (splits_of_new ht hne hplan).1
  have hzero : 0 ∉ plan.outShape := by
    intro hmem
    rw [hsplits.outShape_eq] at hmem
    rcases mem_reducedShape hmem with h | h
    · cases h
    · exact ht.zero_notMem hne h
  rw [productFits_iff hzero, prod_outShape ht hne hplan, hsplits.outElems_eq]
  exact (prod_pick_le hsplits.length_eq (ht.zero_notMem hne)).trans_lt ht.prod_lt

/-- What a reduction makes of a payload with one value for each cell. -/
lemma exists_reduced (dtype : DType) (payload : ReductionPlan → Result TensorData)
    (cell : ℕ → Scalar → Prop) {data : TensorData} (hdata : payload plan = .ok data)
    (hdtype : data.dtype = dtype) (hlen : data.len = plan.outElems)
    (hcell : ∀ o < plan.outElems, ∃ s, cell o s ∧ data.scalars[o]? = some s) :
    ∃ out, Payload.reduced t dtype axes keepdims payload = .ok out ∧
      out.HasCells dtype plan cell ∧ out.data = data := by
  have hlt := outShape_lt ht hne hplan
  have hback : shapeU64ToUsize (plan.outShape.map Nat.toUInt64) = plan.outShape :=
    shapeU64ToUsize_map hlt
  have hvalid : (⟨dtype, plan.outShape.map Nat.toUInt64, data⟩ : Tensor).validate = .ok () := by
    refine Tensor.validateTensorParts_eq_ok.mpr ⟨?_, hdtype, ?_, ?_⟩
    · rw [Ne, List.map_eq_nil_iff]
      exact (splits_of_new ht hne hplan).1.outShape_ne_nil
    · rw [hback]
      exact productFits_outShape ht hne hplan
    · rw [hback, prod_outShape ht hne hplan, hlen]
  refine ⟨_, ?_, ⟨hvalid, rfl, hback, hcell⟩, rfl⟩
  rw [Payload.reduced, ht.validatedShape_eq, ok_bind, hplan, ok_bind,
    shapeUsizeToU64_eq_ok.mpr ⟨hlt, rfl⟩, ok_bind, hdata, ok_bind]
  exact Tensor.tensorFromData_eq_ok.mpr ⟨rfl, hvalid⟩

/-- The payload behind a reduction that succeeds. -/
lemma of_reduced {dtype : DType} {payload : ReductionPlan → Result TensorData} {out : Tensor}
    (h : Payload.reduced t dtype axes keepdims payload = .ok out) :
    payload plan = .ok out.data := by
  rw [Payload.reduced, ht.validatedShape_eq, ok_bind, hplan, ok_bind,
    shapeUsizeToU64_eq_ok.mpr ⟨outShape_lt ht hne hplan, rfl⟩, ok_bind, bind_eq_ok] at h
  obtain ⟨data, hdata, h⟩ := h
  obtain ⟨rfl, -⟩ := Tensor.tensorFromData_eq_ok.mp h
  exact hdata

end Frame

/-! ### Sums -/

section Sums

variable {t : Tensor} {axes : Option (List Int64)} {keepdims : Bool} {plan : ReductionPlan}
  {ops : FloatArith} {α : Type} {p : Payload α} {values : List α}

lemma Payload.Carries.length_eq (hp : p.Carries t values) (ht : t.Valid) :
    values.length = t.dims.prod := by
  rw [← p.len_toData, ← hp.data_eq, ht.len_eq]

lemma Payload.Carries.dtype_eq (hp : p.Carries t values) (ht : t.Valid) : t.dtype = p.dtype := by
  rw [← ht.dtype_eq, hp.data_eq, p.dtype_toData]

lemma Payload.Carries.fibre_eq (hp : p.Carries t values) (o : ℕ) :
    t.fibre plan o = (Tio.fibre plan.reduceMask t.dims values o).map p.toScalar := by
  rw [Tensor.fibre, hp.data_eq, p.scalars_toData, fibre_map]

/-- The fold of a fibre of scalars is the one of its values. -/
lemma Payload.Carries.foldlM_add (hp : p.Carries t values) (ht : t.Valid) (message : String)
    (o : ℕ) : (t.fibre plan o).foldlM (Scalar.add ops) (Scalar.zero t.dtype) =
      ((Tio.fibre plan.reduceMask t.dims values o).foldlM (p.add ops message) p.zero).toOption.map
        p.toScalar := by
  rw [hp.fibre_eq, hp.dtype_eq ht, ← p.toScalar_zero,
    foldlM_map_toOption fun a b => p.add_toScalar ops message a b]

variable (ops) (ht : t.Valid) (hne : t.data.len ≠ 0)
  (hplan : ReductionPlan.new t.dims axes keepdims = .ok plan)

include ht hne hplan

/-- A sum whose walk gets through has the folds of the fibres in its cells. -/
lemma Payload.Carries.exists_sum (hp : p.Carries t values) {sums : List α}
    (hsums : reduceSumValues plan t.dims values p.zero (p.add ops "integer reduction overflow") =
      .ok sums) :
    ∃ out, t.sum ops axes keepdims = .ok out ∧ out.HasCells t.dtype plan fun o s =>
      (t.fibre plan o).foldlM (Scalar.add ops) (Scalar.zero t.dtype) = some s := by
  have hsplits := (splits_of_new ht hne hplan).1
  obtain ⟨hcount, hcells⟩ := (reduceSumValues_eq_ok hsplits (hp.length_eq ht)).mp hsums
  have hscalars : ∀ o < plan.outElems, ∃ s,
      (t.fibre plan o).foldlM (Scalar.add ops) (Scalar.zero t.dtype) = some s ∧
        (p.toData sums).scalars[o]? = some s := by
    intro o ho
    obtain ⟨s, hs, hentry⟩ := hcells o ho
    refine ⟨p.toScalar s, ?_, by rw [p.scalars_toData, List.getElem?_map, hentry]; rfl⟩
    rw [hp.foldlM_add ht "integer reduction overflow", hs]
    rfl
  obtain ⟨out, hout, hspec, -⟩ := exists_reduced ht hne hplan t.dtype
    (fun plan => p.toData <$> reduceSumValues plan t.dims values p.zero
      (p.add ops "integer reduction overflow")) _ (map_eq_ok.mpr ⟨sums, hsums, rfl⟩)
    (by rw [p.dtype_toData, hp.dtype_eq ht]) (by rw [p.len_toData, hcount]) hscalars
  exact ⟨out, (hp.sum_eq ops axes keepdims).trans hout, hspec⟩

/-- The walk behind a sum that succeeds. -/
lemma Payload.Carries.of_sum (hp : p.Carries t values) {out : Tensor}
    (h : t.sum ops axes keepdims = .ok out) : ∃ sums,
      reduceSumValues plan t.dims values p.zero (p.add ops "integer reduction overflow") =
        .ok sums ∧ out.data = p.toData sums := by
  rw [hp.sum_eq] at h
  obtain ⟨sums, hsums, hdata⟩ := map_eq_ok.mp (of_reduced ht hne hplan h)
  exact ⟨sums, hsums, hdata.symm⟩

/-- A sum gets through when the fold of every fibre does. -/
lemma Tensor.isOk_sum_iff : IsOk (t.sum ops axes keepdims) ↔ ∀ o < plan.outElems,
    ((t.fibre plan o).foldlM (Scalar.add ops) (Scalar.zero t.dtype)).isSome := by
  obtain ⟨α, p, values, hp⟩ := ht.exists_carries
  have hfold : IsOk (reduceSumValues plan t.dims values p.zero
      (p.add ops "integer reduction overflow")) ↔ ∀ o < plan.outElems,
      ((t.fibre plan o).foldlM (Scalar.add ops) (Scalar.zero t.dtype)).isSome := by
    rw [isOk_reduceSumValues (splits_of_new ht hne hplan).1 (hp.length_eq ht)]
    refine forall₂_congr fun o _ => ?_
    rw [hp.foldlM_add ht "integer reduction overflow", Option.isSome_map, isOk_iff_toOption]
  rw [← hfold]
  constructor
  · rintro ⟨out, hout⟩
    obtain ⟨sums, hsums, -⟩ := hp.of_sum ops ht hne hplan hout
    exact ⟨sums, hsums⟩
  · rintro ⟨sums, hsums⟩
    obtain ⟨out, hout, -⟩ := hp.exists_sum ops ht hne hplan hsums
    exact ⟨out, hout⟩

/-- Every cell of a sum is the fold of its fibre. -/
lemma Tensor.hasCells_sum {out : Tensor} (h : t.sum ops axes keepdims = .ok out) :
    out.HasCells t.dtype plan fun o s =>
      (t.fibre plan o).foldlM (Scalar.add ops) (Scalar.zero t.dtype) = some s := by
  obtain ⟨α, p, values, hp⟩ := ht.exists_carries
  obtain ⟨sums, hsums, -⟩ := hp.of_sum ops ht hne hplan h
  obtain ⟨out', hout', hspec⟩ := hp.exists_sum ops ht hne hplan hsums
  cases h.symm.trans hout'
  exact hspec

end Sums

/-! ### Extreme values -/

/-- The cells of two tensors hold the first best scalars of the fibres and their offsets. -/
structure Tensor.FirstExtremes (t : Tensor) (plan : ReductionPlan) (takeMax : Bool)
    (out places : Tensor) : Prop where
  values : out.HasCells t.dtype plan fun o s => ∃ place,
    IsFirstBest Scalar.rank (exceeds Scalar.rank takeMax) (t.fibre plan o) s place
  places : places.HasCells .i64 plan fun o s => ∃ place, s = .i64 (Int64.ofNat place) ∧
    place < 2 ^ 63 ∧ ∃ value, out.data.scalars[o]? = some value ∧
      IsFirstBest Scalar.rank (exceeds Scalar.rank takeMax) (t.fibre plan o) value place

section Extremes

variable {t : Tensor} {axes : Option (List Int64)} {keepdims : Bool} {plan : ReductionPlan}

lemma exceeds_toScalar {α : Type} (p : Payload α) (takeMax : Bool) (a b : α) :
    exceeds Scalar.rank takeMax (p.toScalar a) (p.toScalar b) = exceeds p.rank takeMax a b := by
  simp only [exceeds, lessBy, p.rank_toScalar]

variable (takeMax : Bool) (ht : t.Valid) (hne : t.data.len ≠ 0)
  (hplan : ReductionPlan.new t.dims axes keepdims = .ok plan)

include ht hne hplan in
/-- The extreme reductions find the first best scalars of the fibres. -/
lemma Tensor.exists_extremes : ∃ out places, t.extreme axes keepdims takeMax = .ok out ∧
    t.argReduce axes keepdims takeMax = .ok places ∧ t.FirstExtremes plan takeMax out places := by
  obtain ⟨α, p, values, hp⟩ := ht.exists_carries
  have hsplits := (splits_of_new ht hne hplan).1
  have hlen := hp.length_eq ht
  have hzero := ht.zero_notMem hne
  have hsmall : t.dims.prod < 2 ^ 63 := ht.len_eq ▸ ht.len_lt
  obtain ⟨best, hbest, hbestLen, hbestEntry⟩ :=
    exists_reduceExtremeValues p.rank takeMax hsplits hlen hzero
  obtain ⟨offsets, hoffsets, hoffsetsLen, hoffsetsEntry⟩ :=
    exists_argReduceValues p.rank takeMax hsplits hlen hzero hsmall
  -- the first best scalar of a fibre, by its values
  have hspec : ∀ o < plan.outElems, ∃ value place,
      best[o]? = some value ∧ offsets[o]? = some (Int64.ofNat place) ∧ place < 2 ^ 63 ∧
        IsFirstBest Scalar.rank (exceeds Scalar.rank takeMax) (t.fibre plan o)
          (p.toScalar value) place := by
    intro o ho
    obtain ⟨q, hq, hvalue⟩ := hbestEntry o ho
    obtain ⟨q', hq', hplace⟩ := hoffsetsEntry o ho
    obtain rfl : q = q' := Option.some.inj (hq.symm.trans hq')
    obtain ⟨q', hq', hfirst⟩ := exists_firstBest Scalar.rank takeMax hsplits
      (by rw [List.length_map]; exact hlen : (values.map p.toScalar).length = t.dims.prod) hzero ho
    rw [fibre_map, firstBest_map (exceeds_toScalar p takeMax), hq] at hq'
    cases hq'
    rw [fibre_map, ← hp.fibre_eq] at hfirst
    have hlt : q.2 < 2 ^ 63 := by
      have hentry := (List.getElem?_eq_some_iff.mp hfirst.entry).1
      rw [hp.fibre_eq, List.length_map, length_fibre hsplits.length_eq hlen
        (hsplits.outElems_eq ▸ ho)] at hentry
      exact hentry.trans_le ((prod_pick_le hsplits.length_eq hzero).trans hsmall.le)
    exact ⟨q.1, q.2, hvalue, hplace, hlt, hfirst⟩
  obtain ⟨out, hout, houtCells, houtData⟩ := exists_reduced ht hne hplan t.dtype
    (fun plan => p.toData <$> reduceExtremeValues plan t.dims p.rank values takeMax)
    (fun o s => ∃ place,
      IsFirstBest Scalar.rank (exceeds Scalar.rank takeMax) (t.fibre plan o) s place)
    (map_eq_ok.mpr ⟨best, hbest, rfl⟩) (by rw [p.dtype_toData, hp.dtype_eq ht])
    (by rw [p.len_toData, hbestLen]) fun o ho => by
      obtain ⟨value, place, hvalue, -, -, hfirst⟩ := hspec o ho
      exact ⟨_, ⟨place, hfirst⟩, by rw [p.scalars_toData, List.getElem?_map, hvalue]; rfl⟩
  obtain ⟨places, hplaces, hplacesCells, -⟩ := exists_reduced ht hne hplan .i64
    (fun plan => TensorData.i64 <$> argReduceValues plan t.dims p.rank values takeMax)
    (fun o s => ∃ place, s = .i64 (Int64.ofNat place) ∧ place < 2 ^ 63 ∧ ∃ value,
      out.data.scalars[o]? = some value ∧
        IsFirstBest Scalar.rank (exceeds Scalar.rank takeMax) (t.fibre plan o) value place)
    (map_eq_ok.mpr ⟨offsets, hoffsets, rfl⟩) rfl hoffsetsLen fun o ho => by
      obtain ⟨value, place, hvalue, hplace, hlt, hfirst⟩ := hspec o ho
      refine ⟨_, ⟨place, rfl, hlt, p.toScalar value, ?_, hfirst⟩, ?_⟩
      · rw [houtData, p.scalars_toData, List.getElem?_map, hvalue]
        rfl
      · exact (List.getElem?_map).trans (congrArg _ hplace)
  exact ⟨out, places, (hp.extreme_eq axes keepdims takeMax).trans hout,
    (hp.argReduce_eq axes keepdims takeMax).trans hplaces, houtCells, hplacesCells⟩

end Extremes

/-! ### Keeping the reduced axes -/

section Keepdims

variable {t : Tensor} {axes : Option (List Int64)} {keepdims keepdims' : Bool}
  {plan plan' : ReductionPlan}

/-- Two plans for the same axes number the multi-indices alike. -/
structure ReductionPlan.SameCells (plan plan' : ReductionPlan) : Prop where
  reduceMask_eq : plan.reduceMask = plan'.reduceMask
  reducedStrides_eq : plan.reducedStrides = plan'.reducedStrides
  reducedElems_eq : plan.reducedElems = plan'.reducedElems
  outElems_eq : plan.outElems = plan'.outElems

lemma ReductionPlan.sameCells_of_new {shape : List ℕ}
    (h : ReductionPlan.new shape axes keepdims = .ok plan)
    (h' : ReductionPlan.new shape axes keepdims' = .ok plan') : plan.SameCells plan' := by
  obtain ⟨reduced, hreduced, h⟩ := bind_eq_ok.mp h
  obtain ⟨_, -, h⟩ := bind_eq_ok.mp h
  obtain ⟨strides, hstrides, h⟩ := bind_eq_ok.mp h
  obtain ⟨_, -, h⟩ := bind_eq_ok.mp h
  obtain ⟨outStrides, -, h⟩ := bind_eq_ok.mp h
  obtain ⟨outElems, helems, h⟩ := bind_eq_ok.mp h
  obtain ⟨reduced', hreduced', h'⟩ := bind_eq_ok.mp h'
  obtain ⟨_, -, h'⟩ := bind_eq_ok.mp h'
  obtain ⟨strides', hstrides', h'⟩ := bind_eq_ok.mp h'
  obtain ⟨_, -, h'⟩ := bind_eq_ok.mp h'
  obtain ⟨outStrides', -, h'⟩ := bind_eq_ok.mp h'
  obtain ⟨outElems', helems', h'⟩ := bind_eq_ok.mp h'
  cases h
  cases h'
  cases hreduced.symm.trans hreduced'
  cases hstrides.symm.trans hstrides'
  obtain ⟨rfl, -⟩ := shapeProductUsize_eq_ok.mp helems
  obtain ⟨rfl, -⟩ := shapeProductUsize_eq_ok.mp helems'
  have hmask : (reduceMaskOf reduced shape.length).length = shape.length := length_reduceMaskOf
  exact ⟨rfl, rfl, rfl, (prod_reducedShape hmask).trans (prod_reducedShape hmask).symm⟩

/-- The walk is the same for both plans. -/
lemma ReductionPlan.SameCells.reduceLoop_eq {α β : Type} {shape : List ℕ} {values : List α}
    (h : plan.SameCells plan') (hplan : plan.Splits shape) (hplan' : plan'.Splits shape)
    (hlen : values.length = shape.prod) {step : List ℕ → β → α → Result β} {out : List β} :
    reduceLoop plan shape step values (List.replicate shape.length 0) out =
      reduceLoop plan' shape step values (List.replicate shape.length 0) out := by
  rw [← unravel_zero, reduceLoop_eq_foldCells hplan (by omega),
    reduceLoop_eq_foldCells hplan' (by omega), h.reduceMask_eq]

variable (ht : t.Valid) (hne : t.data.len ≠ 0)
  (hplan : ReductionPlan.new t.dims axes keepdims = .ok plan)

include ht hne hplan in
/-- The payload of a reduction. -/
lemma map_data_reduced {dtype : DType} {payload : ReductionPlan → Result TensorData}
    (h : ∀ data, payload plan = .ok data → data.dtype = dtype ∧ data.len = plan.outElems) :
    Tensor.data <$> Payload.reduced t dtype axes keepdims payload = payload plan := by
  rcases hpayload : payload plan with e | data
  · rw [Payload.reduced, ht.validatedShape_eq, ok_bind, hplan, ok_bind,
      shapeUsizeToU64_eq_ok.mpr ⟨outShape_lt ht hne hplan, rfl⟩, ok_bind, hpayload]
    rfl
  · obtain ⟨hdtype, hlen⟩ := h data hpayload
    have hscalar : ∀ o < plan.outElems, ∃ s, True ∧ data.scalars[o]? = some s := by
      intro o ho
      rw [← hlen, ← data.length_scalars] at ho
      exact ⟨_, trivial, List.getElem?_eq_getElem ho⟩
    obtain ⟨out, hout, -, rfl⟩ :=
      exists_reduced ht hne hplan dtype payload (fun _ _ => True) hpayload hdtype hlen hscalar
    rw [hout]
    rfl

variable (ops : FloatArith) (hplan' : ReductionPlan.new t.dims axes keepdims' = .ok plan')

include ht hne hplan hplan' in
/-- Keeping the reduced axes changes the shape of an output, and not its payload. -/
lemma Tensor.payload_keepdims :
    Tensor.data <$> t.sum ops axes keepdims = Tensor.data <$> t.sum ops axes keepdims' ∧
    ∀ takeMax,
      Tensor.data <$> t.extreme axes keepdims takeMax =
        Tensor.data <$> t.extreme axes keepdims' takeMax ∧
      Tensor.data <$> t.argReduce axes keepdims takeMax =
        Tensor.data <$> t.argReduce axes keepdims' takeMax := by
  obtain ⟨α, p, values, hp⟩ := ht.exists_carries
  have hlen := hp.length_eq ht
  have hzero := ht.zero_notMem hne
  have hsmall : t.dims.prod < 2 ^ 63 := ht.len_eq ▸ ht.len_lt
  have hsame := ReductionPlan.sameCells_of_new hplan hplan'
  -- each reduction is its loop over the plan, whose payload the result carries
  have hsum : ∀ {keepdims plan}, ReductionPlan.new t.dims axes keepdims = .ok plan →
      Tensor.data <$> t.sum ops axes keepdims = p.toData <$> reduceSumValues plan t.dims values
        p.zero (p.add ops "integer reduction overflow") := by
    intro keepdims plan hplan
    rw [hp.sum_eq, map_data_reduced ht hne hplan]
    intro data hdata
    obtain ⟨sums, hsums, rfl⟩ := map_eq_ok.mp hdata
    have hcount := ((reduceSumValues_eq_ok (splits_of_new ht hne hplan).1 hlen).mp hsums).1
    exact ⟨by rw [p.dtype_toData, hp.dtype_eq ht], by rw [p.len_toData, hcount]⟩
  have hextreme : ∀ {keepdims plan} takeMax, ReductionPlan.new t.dims axes keepdims = .ok plan →
      Tensor.data <$> t.extreme axes keepdims takeMax =
        p.toData <$> reduceExtremeValues plan t.dims p.rank values takeMax := by
    intro keepdims plan takeMax hplan
    rw [hp.extreme_eq, map_data_reduced ht hne hplan]
    intro data hdata
    obtain ⟨best, hbest, rfl⟩ := map_eq_ok.mp hdata
    obtain ⟨best', hbest', hcount, -⟩ := exists_reduceExtremeValues p.rank takeMax
      (splits_of_new ht hne hplan).1 hlen hzero
    cases hbest.symm.trans hbest'
    exact ⟨by rw [p.dtype_toData, hp.dtype_eq ht], by rw [p.len_toData, hcount]⟩
  have harg : ∀ {keepdims plan} takeMax, ReductionPlan.new t.dims axes keepdims = .ok plan →
      Tensor.data <$> t.argReduce axes keepdims takeMax =
        TensorData.i64 <$> argReduceValues plan t.dims p.rank values takeMax := by
    intro keepdims plan takeMax hplan
    rw [hp.argReduce_eq, map_data_reduced ht hne hplan]
    intro data hdata
    obtain ⟨offsets, hoffsets, rfl⟩ := map_eq_ok.mp hdata
    obtain ⟨offsets', hoffsets', hcount, -⟩ := exists_argReduceValues p.rank takeMax
      (splits_of_new ht hne hplan).1 hlen hzero hsmall
    cases hoffsets.symm.trans hoffsets'
    exact ⟨rfl, hcount⟩
  have hsplits := (splits_of_new ht hne hplan).1
  have hsplits' := (splits_of_new ht hne hplan').1
  -- and the two plans differ in the dimensions of the output only
  have hstep : ∀ takeMax, argStep plan p.rank takeMax = argStep plan' p.rank takeMax := by
    intro takeMax
    funext inIndices current value
    rw [argStep, argStep, ReductionPlan.reducedIndex, ReductionPlan.reducedIndex,
      hsame.reduceMask_eq, hsame.reducedStrides_eq]
  refine ⟨?_, fun takeMax => ⟨?_, ?_⟩⟩
  · rw [hsum hplan, hsum hplan', reduceSumValues, reduceSumValues,
      hsame.reduceLoop_eq hsplits hsplits' hlen, hsame.outElems_eq]
  · rw [hextreme takeMax hplan, hextreme takeMax hplan', reduceExtremeValues, reduceExtremeValues,
      hsame.reduceLoop_eq hsplits hsplits' hlen, hsame.outElems_eq, hsame.reducedElems_eq]
  · rw [harg takeMax hplan, harg takeMax hplan', argReduceValues, argReduceValues,
      hsame.reduceLoop_eq hsplits hsplits' hlen, hsame.outElems_eq, hsame.reducedElems_eq,
      hstep takeMax]

end Keepdims

end ArcadiaTio.Tio
