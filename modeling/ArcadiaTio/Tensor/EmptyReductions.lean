import ArcadiaTio.Tensor.EmptyAxes
import ArcadiaTio.Tensor.ReductionExact
import ArcadiaTio.Tensor.Statistics

/-!
# Reductions of empty fibres

A cell with an empty fibre has no mean and no extreme value, so a reduction has to fail when its
output has such a cell.  When a kept axis has length zero too there is no cell, and nothing to fail
for.  All the reductions but `mean` see the difference, `judgesEmptyFibres_iff`.
-/

namespace ArcadiaTio.Tio

open ArcadiaTio.Lib ArcadiaTio.Lib.RowMajor

/-! ### Plans for any shape -/

section Plans

variable {mask : List Bool} {shape : List ℕ} {axes : Option (List Int64)} {keepdims : Bool}
  {plan : ReductionPlan}

lemma mem_pick {b : Bool} {n : ℕ} :
    n ∈ pick b mask shape ↔ ∃ a : ℕ, mask[a]? = some b ∧ shape[a]? = some n := by
  induction mask generalizing shape with
  | nil => simp
  | cons m mask ih =>
    cases shape with
    | nil => simp [pick]
    | cons d shape =>
      have hhead : (∃ a : ℕ, (m :: mask)[a]? = some b ∧ (d :: shape)[a]? = some n) ↔
          (m = b ∧ n = d) ∨ ∃ a : ℕ, mask[a]? = some b ∧ shape[a]? = some n := by
        constructor
        · rintro ⟨_ | a, hm, hd⟩
          · exact Or.inl ⟨by simpa using hm, by simpa [eq_comm] using hd⟩
          · exact Or.inr ⟨a, by simpa using hm, by simpa using hd⟩
        · rintro (⟨rfl, rfl⟩ | ⟨a, hm, hd⟩)
          · exact ⟨0, rfl, rfl⟩
          · exact ⟨a + 1, by simpa using hm, by simpa using hd⟩
      rw [hhead, ← ih]
      by_cases hm : m = b
      · subst hm
        rw [pick_cons_self, List.mem_cons]
        simp
      · rw [pick, if_neg hm]
        simp [hm]

lemma elems_reducedStridesFrom (hlen : mask.length = shape.length) {strides : List ℕ} {elems : ℕ}
    (h : reducedStridesFrom mask shape = .ok (strides, elems)) :
    elems = (pick true mask shape).prod := by
  induction mask generalizing shape strides elems with
  | nil =>
    rw [reducedStridesFrom] at h
    · cases h
      rfl
    · simp
    · simp
  | cons m mask ih =>
    obtain ⟨n, shape, rfl⟩ := List.exists_cons_of_length_pos (l := shape) (by simp [← hlen])
    have hrest : mask.length = shape.length := by simpa using hlen
    cases m with
    | true =>
      obtain ⟨⟨strides, elems⟩, hstrides, h⟩ := bind_eq_ok.mp h
      obtain ⟨total, htotal, h⟩ := bind_eq_ok.mp h
      obtain ⟨rfl, -⟩ := checkedMul_eq_some.mp (okOr_eq_ok.mp htotal)
      cases h
      rw [pick_cons_self, List.prod_cons, ih hrest hstrides, Nat.mul_comm]
    | false =>
      obtain ⟨⟨strides, elems⟩, hstrides, h⟩ := bind_eq_ok.mp h
      cases h
      exact ih hrest hstrides

/-- A plan for a shape, with or without axes of length zero. -/
structure ReductionPlan.Made (plan : ReductionPlan) (shape reduced : List ℕ) : Prop where
  mask_eq : plan.reduceMask = reduceMaskOf reduced shape.length
  outShape_eq : plan.outShape = reducedShape plan.keepdims plan.reduceMask shape
  outShape_ne_nil : plan.outShape ≠ []
  productFits : ProductFits plan.outShape
  outElems_eq : plan.outElems = plan.outShape.prod
  reducedElems_eq : plan.reducedElems = (pick true plan.reduceMask shape).prod

lemma ReductionPlan.made_of_new (h : ReductionPlan.new shape axes keepdims = .ok plan) :
    ∃ reduced, reducedAxes axes shape.length = .ok reduced ∧ plan.Made shape reduced := by
  obtain ⟨reduced, hreduced, h⟩ := bind_eq_ok.mp h
  obtain ⟨_, -, h⟩ := bind_eq_ok.mp h
  obtain ⟨⟨reducedStrides, reducedElems⟩, hstrides, h⟩ := bind_eq_ok.mp h
  obtain ⟨_, hnil, h⟩ := bind_eq_ok.mp h
  obtain ⟨outStrides, -, h⟩ := bind_eq_ok.mp h
  obtain ⟨outElems, helems, h⟩ := bind_eq_ok.mp h
  obtain ⟨rfl, hfits⟩ := shapeProductUsize_eq_ok.mp helems
  cases h
  exact ⟨reduced, hreduced, rfl, rfl, failIf_eq_ok.mp hnil, hfits, rfl,
    elems_reducedStridesFrom length_reduceMaskOf hstrides⟩

namespace ReductionPlan.Made

variable {reduced : List ℕ} (h : plan.Made shape reduced)

include h

lemma length_eq : plan.reduceMask.length = shape.length := by
  rw [h.mask_eq]
  exact length_reduceMaskOf

lemma outElems_eq_pick : plan.outElems = (pick false plan.reduceMask shape).prod := by
  rw [h.outElems_eq, h.outShape_eq, prod_reducedShape h.length_eq]

lemma getElem?_mask {a n : ℕ} (hn : shape[a]? = some n) :
    plan.reduceMask[a]? = some (decide (a ∈ reduced)) := by
  rw [h.mask_eq]
  exact getElem?_reduceMaskOf (List.getElem?_eq_some_iff.mp hn).1

lemma zero_mem_pick {b : Bool} : 0 ∈ pick b plan.reduceMask shape ↔
    ∃ a : ℕ, decide (a ∈ reduced) = b ∧ shape[a]? = some 0 := by
  rw [mem_pick]
  refine exists_congr fun a => ?_
  constructor
  · rintro ⟨hmask, hdim⟩
    exact ⟨Option.some.inj ((h.getElem?_mask hdim).symm.trans hmask), hdim⟩
  · rintro ⟨rfl, hdim⟩
    exact ⟨h.getElem?_mask hdim, hdim⟩

lemma reducedElems_eq_zero : plan.reducedElems = 0 ↔ ∃ a ∈ reduced, shape[a]? = some 0 := by
  rw [h.reducedElems_eq, List.prod_eq_zero_iff, h.zero_mem_pick]
  simp only [decide_eq_true_eq]

lemma outElems_eq_zero : plan.outElems = 0 ↔ ∃ a ∉ reduced, shape[a]? = some 0 := by
  rw [h.outElems_eq_pick, List.prod_eq_zero_iff, h.zero_mem_pick]
  simp only [decide_eq_false_iff_not]

/-- A shape with an axis of length zero has no cells or empty fibres. -/
lemma eq_zero_or_eq_zero (hzero : 0 ∈ shape) : plan.outElems = 0 ∨ plan.reducedElems = 0 := by
  rw [h.outElems_eq_pick, h.reducedElems_eq, ← Nat.mul_eq_zero, prod_pick_mul h.length_eq]
  exact List.prod_eq_zero hzero

lemma outShape_lt (hshape : ∀ n ∈ shape, n < 2 ^ 64) : ∀ n ∈ plan.outShape, n < 2 ^ 64 := by
  intro n hn
  rw [h.outShape_eq] at hn
  rcases mem_reducedShape hn with rfl | hmem
  · decide
  · exact hshape n hmem

end ReductionPlan.Made

end Plans

/-! ### Walks that get through -/

section Walks

variable {α β : Type} {values : List α} {shape : List ℕ} {axes : Option (List Int64)}
  {keepdims : Bool} {plan : ReductionPlan}

/-- A fold whose steps get through. -/
lemma isOk_foldlM {l : List α} {f : β → α → Result β} (h : ∀ a ∈ l, ∀ b, IsOk (f b a)) (b : β) :
    IsOk (l.foldlM f b) := by
  induction l generalizing b with
  | nil => exact isOk_ok
  | cons a l ih =>
    obtain ⟨b', hb'⟩ := h a List.mem_cons_self b
    rw [List.foldlM_cons, hb', ok_bind]
    exact ih (fun a' ha' => h a' (List.mem_cons_of_mem a ha')) b'

lemma fst_mem_fibreEntries {mask : List Bool} {o : ℕ} {p : List ℕ × α}
    (hmask : mask.length = shape.length) (ho : o < (pick false mask shape).prod)
    (hp : p ∈ fibreEntries mask shape values o) : InBounds shape p.1 := by
  obtain ⟨r, hr, hp⟩ := List.mem_filterMap.mp hp
  obtain ⟨value, -, rfl⟩ := Option.map_eq_some_iff.mp hp
  exact inBounds_fibreIndex hmask ho (List.mem_range.mp hr)

variable (hplan : ReductionPlan.new shape axes keepdims = .ok plan)
  (hlen : values.length = shape.prod) (hlt : shape.prod < 2 ^ usizeBits)

include hlen in
lemma values_eq_nil (hzero : 0 ∈ shape) : values = [] := by
  rw [← List.length_eq_zero_iff, hlen]
  exact List.prod_eq_zero hzero

include hplan hlen hlt

/-- The walk over the input, also when there is nothing to walk over. -/
lemma exists_reduceLoop {step : List ℕ → β → α → Result β} (initial : β)
    (hstep : ∀ index, InBounds shape index → 0 ∉ shape → ∀ b a, IsOk (step index b a)) :
    ∃ out, reduceLoop plan shape step values (List.replicate shape.length 0)
      (List.replicate plan.outElems initial) = .ok out ∧ out.length = plan.outElems := by
  by_cases hzero : 0 ∈ shape
  · rw [values_eq_nil hlen hzero]
    exact ⟨_, rfl, List.length_replicate⟩
  · have hsplits := (ReductionPlan.splits_of_new hzero hlt hplan).1
    obtain ⟨out, hout⟩ := (isOk_reduceLoop hsplits hlen step initial).mpr fun o ho =>
      isOk_foldlM (fun p hp b => by
        have hindex := fst_mem_fibreEntries hsplits.length_eq (hsplits.outElems_eq ▸ ho) hp
        exact hstep p.1 hindex hzero b p.2) initial
    exact ⟨out, hout, ((reduceLoop_eq_ok hsplits hlen step initial).mp hout).1⟩

lemma exists_sums (zero : β) (f : β → α → β) : ∃ out,
    reduceSumMappedValues plan shape values zero (fun a b => .ok (f a b)) = .ok out ∧
      out.length = plan.outElems :=
  exists_reduceLoop hplan hlen hlt zero fun _ _ _ _ _ => isOk_ok

lemma exists_reduceVariance (op : BinaryOp → β → β → β) (asFloat : α → β) (zero divisor : β) :
    ∃ out, reduceVariance plan shape op asFloat zero divisor values = .ok out ∧
      out.length = plan.outElems := by
  obtain ⟨sums, hsums, hcount⟩ :=
    exists_sums hplan hlen hlt zero fun a b => op .add a (asFloat b)
  have hstep : ∀ index, InBounds shape index → 0 ∉ shape → ∀ b a,
      IsOk (varianceStep plan op asFloat (divideCells op divisor sums) index b a) := by
    intro index hindex hzero b a
    have hsplits := (ReductionPlan.splits_of_new hzero hlt hplan).1
    have hcell : ravel (pick false plan.reduceMask shape) (pick false plan.reduceMask index) <
        (divideCells op divisor sums).length := by
      rw [divideCells, List.length_map, hcount, hsplits.outElems_eq]
      exact ravel_lt (hindex.pick _)
    rw [varianceStep, hsplits.outIndex_eq index hindex, ok_bind, List.getElem?_eq_getElem hcell,
      okOr_some, ok_bind]
    exact isOk_ok
  obtain ⟨out, hout, hlength⟩ := exists_reduceLoop hplan hlen hlt zero hstep
  refine ⟨divideCells op divisor out, ?_, by rw [divideCells, List.length_map, hlength]⟩
  rw [reduceVariance, hsums, ok_bind]
  dsimp only
  rw [hout, ok_bind]
  rfl

variable (key : α → Option ℤ) (takeMax : Bool)
  (hcells : ¬ (plan.reducedElems = 0 ∧ 0 < plan.outElems))

include hcells

omit hlen hlt in
lemma outElems_of_zero_mem (hzero : 0 ∈ shape) : plan.outElems = 0 := by
  obtain ⟨reduced, -, hmade⟩ := ReductionPlan.made_of_new hplan
  rcases hmade.eq_zero_or_eq_zero hzero with h | h
  · exact h
  · omega

lemma exists_extremes : ∃ out, reduceExtremeValues plan shape key values takeMax = .ok out ∧
    out.length = plan.outElems := by
  by_cases hzero : 0 ∈ shape
  · have hnone := outElems_of_zero_mem hplan hcells hzero
    refine ⟨[], ?_, hnone.symm⟩
    rw [reduceExtremeValues, failIf_neg hcells, ok_bind, values_eq_nil hlen hzero, hnone]
    rfl
  · obtain ⟨out, hout, hcount, -⟩ := exists_reduceExtremeValues key takeMax
      (ReductionPlan.splits_of_new hzero hlt hplan).1 hlen hzero
    exact ⟨out, hout, hcount⟩

lemma exists_offsets (hsmall : shape.prod < 2 ^ 63) :
    ∃ out, argReduceValues plan shape key values takeMax = .ok out ∧
      out.length = plan.outElems := by
  by_cases hzero : 0 ∈ shape
  · have hnone := outElems_of_zero_mem hplan hcells hzero
    refine ⟨[], ?_, hnone.symm⟩
    rw [argReduceValues, failIf_neg hcells, ok_bind, values_eq_nil hlen hzero, hnone]
    rfl
  · obtain ⟨out, hout, hcount, -⟩ := exists_argReduceValues key takeMax
      (ReductionPlan.splits_of_new hzero hlt hplan).1 hlen hzero hsmall
    exact ⟨out, hout, hcount⟩

end Walks

/-! ### The operations -/

namespace Tensor

variable {t : Tensor} {ops : FloatStats} {axes : Option (List Int64)} {keepdims : Bool}

/-- What holds of all the reductions. -/
lemma forall_reductions {P : Result Tensor → Prop} (hmean : P (t.mean ops axes keepdims))
    (hvar : P (t.var ops axes keepdims)) (hstd : P (t.std ops axes keepdims))
    (hextreme : ∀ takeMax, P (t.extreme axes keepdims takeMax))
    (harg : ∀ takeMax, P (t.argReduce axes keepdims takeMax)) :
    ∀ op ∈ t.reductions ops axes keepdims, P op := by
  simp only [reductions, List.forall_mem_cons, List.not_mem_nil, IsEmpty.forall_iff, implies_true,
    and_true]
  exact ⟨hmean, hvar, hstd, hextreme false, hextreme true, harg false, harg true⟩

section Rejected

variable (ht : t.Valid)

include ht

lemma not_isOk_of_plan {e : TioError} (hplan : ReductionPlan.new t.dims axes keepdims = .error e) :
    ∀ op ∈ t.reductions ops axes keepdims, ¬ IsOk op := by
  have hvar : t.var ops axes keepdims = .error e := by
    rw [var, ht.validatedShape_eq, ok_bind, hplan, error_bind]
  refine forall_reductions ?_ ?_ ?_ (fun takeMax => ?_) fun takeMax => ?_
  · rw [mean, ht.validatedShape_eq, ok_bind, hplan, error_bind]
    exact not_isOk_error
  · rw [hvar]
    exact not_isOk_error
  · rw [std, hvar, error_bind]
    exact not_isOk_error
  · rw [extreme, ht.validatedShape_eq, ok_bind, hplan, error_bind]
    exact not_isOk_error
  · rw [argReduce, ht.validatedShape_eq, ok_bind, hplan, error_bind]
    exact not_isOk_error

end Rejected

/-- A payload that is computed, and an output made of it. -/
lemma yields_bind {α : Type} {payload : Result α} {make : α → Result Tensor} {a : α}
    {shape : List ℕ} (hpayload : payload = .ok a) (h : Yields (make a) shape) :
    Yields (payload >>= make) shape := by
  rwa [hpayload, ok_bind]

section Planned

variable {plan : ReductionPlan} (hplan : ReductionPlan.new t.dims axes keepdims = .ok plan)

include hplan

lemma shapeUsizeToU64_outShape :
    shapeUsizeToU64 plan.outShape = .ok (plan.outShape.map Nat.toUInt64) := by
  obtain ⟨reduced, -, hmade⟩ := ReductionPlan.made_of_new hplan
  exact shapeUsizeToU64_eq_ok.mpr ⟨hmade.outShape_lt (dims_lt t), rfl⟩

/-- One value for each cell makes a tensor. -/
lemma yields_output {dtype : DType} {data : TensorData} (hdtype : data.dtype = dtype)
    (hlen : data.len = plan.outElems) :
    Yields (tensorFromData dtype (plan.outShape.map Nat.toUInt64) data) plan.outShape := by
  obtain ⟨reduced, -, hmade⟩ := ReductionPlan.made_of_new hplan
  have hback : shapeU64ToUsize (plan.outShape.map Nat.toUInt64) = plan.outShape :=
    shapeU64ToUsize_map (hmade.outShape_lt (dims_lt t))
  have hparts : validateTensorParts dtype (plan.outShape.map Nat.toUInt64) data = .ok () := by
    rw [validateTensorParts_eq_ok, hback, hlen]
    refine ⟨?_, hdtype, hmade.productFits, hmade.outElems_eq⟩
    rw [Ne, List.map_eq_nil_iff]
    exact hmade.outShape_ne_nil
  exact ⟨⟨dtype, _, data⟩, tensorFromData_eq_ok.mpr ⟨rfl, hparts⟩, hparts, hback⟩

variable (ht : t.Valid)

include ht

lemma yields_mean (hpos : plan.reducedElems ≠ 0) :
    Yields (t.mean ops axes keepdims) plan.outShape := by
  have hlen := ht.len_eq
  have hlt := ht.prod_lt
  rw [mean, ht.validatedShape_eq, ok_bind, hplan, ok_bind, failIf_neg hpos, ok_bind,
    shapeUsizeToU64_outShape hplan, ok_bind]
  cases hdata : t.data with
  | f32 values =>
    rw [hdata] at hlen
    obtain ⟨out, hout, hcount⟩ := exists_sums hplan hlen hlt 0 (ops.f32 .add)
    refine yields_bind hout (yields_output hplan rfl ?_)
    rw [TensorData.len, divideCells, List.length_map, hcount]
  | f64 values =>
    rw [hdata] at hlen
    obtain ⟨out, hout, hcount⟩ := exists_sums hplan hlen hlt 0 (ops.f64 .add)
    refine yields_bind hout (yields_output hplan rfl ?_)
    rw [TensorData.len, divideCells, List.length_map, hcount]
  | i32 values =>
    rw [hdata] at hlen
    obtain ⟨out, hout, hcount⟩ :=
      exists_sums hplan hlen hlt 0 fun a b => ops.f64 .add a (ops.f64OfI32 b)
    refine yields_bind hout (yields_output hplan rfl ?_)
    rw [TensorData.len, divideCells, List.length_map, hcount]
  | i64 values =>
    rw [hdata] at hlen
    obtain ⟨out, hout, hcount⟩ :=
      exists_sums hplan hlen hlt 0 fun a b => ops.f64 .add a (ops.f64OfI64 b)
    refine yields_bind hout (yields_output hplan rfl ?_)
    rw [TensorData.len, divideCells, List.length_map, hcount]

/-- Without a mean there is no check whether there is a cell that needs one. -/
lemma not_isOk_mean (hzero : plan.reducedElems = 0) : ¬ IsOk (t.mean ops axes keepdims) := by
  rw [mean, ht.validatedShape_eq, ok_bind, hplan, ok_bind, failIf_pos hzero]
  exact not_isOk_error

/-- The reductions in the common frame. -/
lemma yields_reduced {dtype : DType} {payload : ReductionPlan → Result TensorData}
    {data : TensorData} (hdata : payload plan = .ok data) (hdtype : data.dtype = dtype)
    (hlen : data.len = plan.outElems) :
    Yields (Payload.reduced t dtype axes keepdims payload) plan.outShape := by
  rw [Payload.reduced, ht.validatedShape_eq, ok_bind, hplan, ok_bind,
    shapeUsizeToU64_outShape hplan, ok_bind, hdata, ok_bind]
  exact yields_output hplan hdtype hlen

section Cells

variable (hcells : ¬ (plan.reducedElems = 0 ∧ 0 < plan.outElems))

include hcells

variable (ops) in
/-- A variance is a tensor of floating-point numbers. -/
lemma exists_var : ∃ data : TensorData, (data.dtype = .f32 ∨ data.dtype = .f64) ∧
    data.len = plan.outElems ∧ t.var ops axes keepdims =
      tensorFromData data.dtype (plan.outShape.map Nat.toUInt64) data := by
  have hlen := ht.len_eq
  have hlt := ht.prod_lt
  rw [var, ht.validatedShape_eq, ok_bind, hplan, ok_bind, failIf_neg hcells, ok_bind,
    shapeUsizeToU64_outShape hplan, ok_bind]
  cases hdata : t.data with
  | f32 values =>
    rw [hdata] at hlen
    obtain ⟨out, hout, hcount⟩ := exists_reduceVariance hplan hlen hlt ops.f32 id 0
      (ops.f32OfUsize plan.reducedElems)
    refine ⟨.f32 out, Or.inl rfl, hcount, ?_⟩
    dsimp only
    rw [reduceVarianceF32, hout, ok_bind]
    rfl
  | f64 values =>
    rw [hdata] at hlen
    obtain ⟨out, hout, hcount⟩ := exists_reduceVariance hplan hlen hlt ops.f64 id 0
      (ops.f64OfUsize plan.reducedElems)
    refine ⟨.f64 out, Or.inr rfl, hcount, ?_⟩
    dsimp only
    rw [reduceVarianceF64, hout, ok_bind]
    rfl
  | i32 values =>
    rw [hdata] at hlen
    obtain ⟨out, hout, hcount⟩ := exists_reduceVariance hplan hlen hlt ops.f64 ops.f64OfI32 0
      (ops.f64OfUsize plan.reducedElems)
    refine ⟨.f64 out, Or.inr rfl, hcount, ?_⟩
    dsimp only
    rw [reduceVarianceI32, reduceVarianceMapped, hout, ok_bind]
    rfl
  | i64 values =>
    rw [hdata] at hlen
    obtain ⟨out, hout, hcount⟩ := exists_reduceVariance hplan hlen hlt ops.f64 ops.f64OfI64 0
      (ops.f64OfUsize plan.reducedElems)
    refine ⟨.f64 out, Or.inr rfl, hcount, ?_⟩
    dsimp only
    rw [reduceVarianceI64, reduceVarianceMapped, hout, ok_bind]
    rfl

lemma yields_var : Yields (t.var ops axes keepdims) plan.outShape := by
  obtain ⟨data, -, hlen, hvar⟩ := exists_var ops hplan ht hcells
  rw [hvar]
  exact yields_output hplan rfl hlen

lemma yields_std : Yields (t.std ops axes keepdims) plan.outShape := by
  obtain ⟨data, hfloat, hlen, hvar⟩ := exists_var ops hplan ht hcells
  obtain ⟨variance, hout, -, -⟩ := yields_output hplan rfl hlen
  obtain ⟨rfl, -⟩ := tensorFromData_eq_ok.mp hout
  rw [std, hvar, hout, ok_bind]
  cases data with
  | f32 values => exact yields_output hplan rfl (by rw [← hlen]; exact List.length_map _)
  | f64 values => exact yields_output hplan rfl (by rw [← hlen]; exact List.length_map _)
  | i32 values => rcases hfloat with h | h <;> cases h
  | i64 values => rcases hfloat with h | h <;> cases h

lemma yields_extreme (takeMax : Bool) : Yields (t.extreme axes keepdims takeMax) plan.outShape := by
  obtain ⟨α, p, values, hp⟩ := ht.exists_carries
  obtain ⟨out, hout, hcount⟩ :=
    Tio.exists_extremes hplan (hp.length_eq ht) ht.prod_lt p.rank takeMax hcells
  rw [hp.extreme_eq]
  refine yields_reduced hplan ht (map_eq_ok.mpr ⟨out, hout, rfl⟩) ?_ ?_
  · rw [p.dtype_toData, hp.dtype_eq ht]
  · rw [p.len_toData, hcount]

lemma yields_argReduce (takeMax : Bool) :
    Yields (t.argReduce axes keepdims takeMax) plan.outShape := by
  obtain ⟨α, p, values, hp⟩ := ht.exists_carries
  have hsmall : t.dims.prod < 2 ^ 63 := ht.len_eq ▸ ht.len_lt
  obtain ⟨out, hout, hcount⟩ :=
    exists_offsets hplan (hp.length_eq ht) ht.prod_lt p.rank takeMax hcells hsmall
  rw [hp.argReduce_eq]
  exact yields_reduced hplan ht (map_eq_ok.mpr ⟨out, hout, rfl⟩) rfl hcount

end Cells

/-- All the reductions fail when a cell has an empty fibre. -/
lemma not_isOk_of_empty (hempty : plan.reducedElems = 0 ∧ 0 < plan.outElems) :
    ∀ op ∈ t.reductions ops axes keepdims, ¬ IsOk op := by
  have hvar : t.var ops axes keepdims =
      .error (invalidArgument "variance of an empty reduction") := by
    rw [var, ht.validatedShape_eq, ok_bind, hplan, ok_bind, failIf_pos hempty]
    rfl
  obtain ⟨α, p, values, hp⟩ := ht.exists_carries
  refine forall_reductions (not_isOk_mean hplan ht hempty.1) ?_ ?_ (fun takeMax => ?_)
    fun takeMax => ?_
  · rw [hvar]
    exact not_isOk_error
  · rw [std, hvar]
    exact not_isOk_error
  · rw [hp.extreme_eq, Payload.reduced, ht.validatedShape_eq, ok_bind, hplan, ok_bind,
      shapeUsizeToU64_outShape hplan, ok_bind, reduceExtremeValues, failIf_pos hempty]
    exact not_isOk_error
  · rw [hp.argReduce_eq, Payload.reduced, ht.validatedShape_eq, ok_bind, hplan, ok_bind,
      shapeUsizeToU64_outShape hplan, ok_bind, argReduceValues, failIf_pos hempty]
    exact not_isOk_error

end Planned

/-! ### Agreement -/

/-- Some axis of length zero is reduced, and another one stays. -/
def EmptyOnBothSides (shape : List ℕ) (axes : Option (List Int64)) : Prop :=
  ∃ reduced, reducedAxes axes shape.length = .ok reduced ∧
    (∃ a ∈ reduced, shape[a]? = some 0) ∧ ∃ a ∉ reduced, shape[a]? = some 0

/-- The reductions agree on what they accept, and fail for the empty fibres of cells only. -/
structure JudgesEmptyFibres (t : Tensor) (ops : FloatStats) (axes : Option (List Int64))
    (keepdims : Bool) : Prop where
  agree : (∃ shape, ∀ op ∈ t.reductions ops axes keepdims, Yields op shape) ∨
    ∀ op ∈ t.reductions ops axes keepdims, ¬ IsOk op
  fails_iff : ∀ plan, ReductionPlan.new t.dims axes keepdims = .ok plan →
    ∀ op ∈ t.reductions ops axes keepdims,
      ¬ IsOk op ↔ plan.reducedElems = 0 ∧ plan.outElems ≠ 0

lemma Yields.isOk {op : Result Tensor} {shape : List ℕ} (h : Yields op shape) : IsOk op :=
  h.imp fun _ hout => hout.1

/-- A plan that leaves no cells has no positions to reduce exactly when both kinds of axes have one
of length zero. -/
lemma emptyOnBothSides_iff {plan : ReductionPlan}
    (hplan : ReductionPlan.new t.dims axes keepdims = .ok plan) :
    EmptyOnBothSides t.dims axes ↔ plan.reducedElems = 0 ∧ plan.outElems = 0 := by
  obtain ⟨reduced, hreduced, hmade⟩ := ReductionPlan.made_of_new hplan
  rw [hmade.reducedElems_eq_zero, hmade.outElems_eq_zero]
  constructor
  · rintro ⟨reduced', hreduced', h⟩
    cases hreduced.symm.trans hreduced'
    exact h
  · intro h
    exact ⟨reduced, hreduced, h⟩

/-- The reductions agree unless the axes are accepted with an axis of length zero on both
sides. -/
theorem judgesEmptyFibres_iff (ht : t.Valid) : t.JudgesEmptyFibres ops axes keepdims ↔
    ¬ (IsOk (ReductionPlan.new t.dims axes keepdims) ∧ EmptyOnBothSides t.dims axes) := by
  constructor
  · rintro hjudges ⟨⟨plan, hplan⟩, hboth⟩
    obtain ⟨hreduced, hout⟩ := (emptyOnBothSides_iff hplan).mp hboth
    have hmean : t.mean ops axes keepdims ∈ t.reductions ops axes keepdims := List.mem_cons_self
    have hfails := (hjudges.fails_iff plan hplan _ hmean).mp (not_isOk_mean hplan ht hreduced)
    exact hfails.2 hout
  · intro hboth
    cases hplan : ReductionPlan.new t.dims axes keepdims with
    | error e =>
      refine ⟨Or.inr (not_isOk_of_plan ht hplan), fun plan hnew => ?_⟩
      cases hplan.symm.trans hnew
    | ok plan =>
      have hcells : ¬ (plan.reducedElems = 0 ∧ plan.outElems = 0) := by
        rw [← emptyOnBothSides_iff hplan]
        exact fun h => hboth ⟨⟨plan, hplan⟩, h⟩
      by_cases hempty : plan.reducedElems = 0 ∧ 0 < plan.outElems
      · have hfails : ∀ op ∈ t.reductions ops axes keepdims, ¬ IsOk op :=
          not_isOk_of_empty hplan ht hempty
        refine ⟨Or.inr hfails, fun plan' hnew op hop => ?_⟩
        cases hplan.symm.trans hnew
        exact iff_of_true (hfails op hop) ⟨hempty.1, hempty.2.ne'⟩
      · have hyields : ∀ op ∈ t.reductions ops axes keepdims, Yields op plan.outShape :=
          forall_reductions (yields_mean hplan ht (by omega)) (yields_var hplan ht hempty)
            (yields_std hplan ht hempty) (yields_extreme hplan ht hempty)
            (yields_argReduce hplan ht hempty)
        refine ⟨Or.inl ⟨_, hyields⟩, fun plan' hnew op hop => ?_⟩
        cases hplan.symm.trans hnew
        refine iff_of_false (fun h => h (hyields op hop).isOk) ?_
        omega

/-- No rows of three columns. -/
def rowless : Tensor := ⟨.i32, [0, 3], .i32 []⟩

lemma valid_rowless : rowless.Valid := ⟨by decide, by decide, by decide⟩

theorem judgesEmptyFibres_iff_rowless : rowless.JudgesEmptyFibres .ieee (some [0]) false ↔
    ¬ (IsOk (ReductionPlan.new rowless.dims (some [0]) false) ∧
      EmptyOnBothSides rowless.dims (some [0])) := judgesEmptyFibres_iff valid_rowless

/-- Neither rows nor columns. -/
def unfilled : Tensor := ⟨.i32, [0, 0], .i32 []⟩

/-- Its rows have no mean, and the other reductions give a tensor without cells. -/
theorem mean_unfilled : ¬ unfilled.JudgesEmptyFibres .ieee (some [0]) false ∧
    unfilled.mean .ieee (some [0]) false = .error (invalidArgument "mean of an empty reduction") ∧
    unfilled.var .ieee (some [0]) false = .ok ⟨.f64, [0], .f64 []⟩ ∧
    unfilled.max (some [0]) false = .ok ⟨.i32, [0], .i32 []⟩ ∧
    unfilled.argmax (some [0]) false = .ok ⟨.i64, [0], .i64 []⟩ := by
  have hmean : unfilled.mean .ieee (some [0]) false =
      .error (invalidArgument "mean of an empty reduction") := rfl
  have hvar : unfilled.var .ieee (some [0]) false = .ok ⟨.f64, [0], .f64 []⟩ := rfl
  refine ⟨fun hjudges => ?_, hmean, hvar, rfl, rfl⟩
  rcases hjudges.agree with ⟨shape, hyields⟩ | hfails
  · have hok := (hyields _ List.mem_cons_self).isOk
    rw [hmean] at hok
    exact not_isOk_error hok
  · exact hfails _ (List.mem_cons_of_mem _ List.mem_cons_self) ⟨_, hvar⟩


end Tensor

end ArcadiaTio.Tio
