import ArcadiaTio.Tensor.Arith
import ArcadiaTio.Tensor.Exact

/-!
# Element-wise arithmetic is broadcasting plus checked scalars

`TensorData.pointwise` combines two payloads of the same length entry by entry.  A binary operation
is `pointwise` on the two inputs, both broadcast to their common shape; the scalar operations are
the binary ones with a tensor of shape `[1]`.
-/

namespace ArcadiaTio.Tio

open ArcadiaTio.Lib ArcadiaTio.Lib.RowMajor

/-- Two payloads combined entry by entry. -/
def TensorData.pointwise (ops : FloatArith) (op : BinaryOp) : TensorData → TensorData →
    Result TensorData
  | f32 x, f32 y => .ok (f32 (List.zipWith (ops.f32 op) x y))
  | f64 x, f64 y => .ok (f64 (List.zipWith (ops.f64 op) x y))
  | i32 x, i32 y => i32 <$> (x.zip y).mapM fun p => binaryI32 p.1 p.2 op
  | i64 x, i64 y => i64 <$> (x.zip y).mapM fun p => binaryI64 p.1 p.2 op
  | _, _ => .error (invalidArgument "tensor payload dtype mismatch")

/-- A tensor of shape `[1]` that holds a scalar. -/
def Scalar.toTensor : Scalar → Tensor
  | f32 bits => ⟨.f32, [1], .f32 [bits]⟩
  | f64 bits => ⟨.f64, [1], .f64 [bits]⟩
  | i32 value => ⟨.i32, [1], .i32 [value]⟩
  | i64 value => ⟨.i64, [1], .i64 [value]⟩

/-! ### Payloads of gathered tensors -/

section Gathered

variable {α β : Type} {s₁ s₂ : List ℕ} {f : List ℕ → List ℕ} {x y : List α}

lemma gathered_of_map {e : α → β} (he : Function.Injective e)
    (h : Gathered s₁ s₂ f (x.map e) (y.map e)) : Gathered s₁ s₂ f x y where
  length_eq := by rw [← h.length_eq, List.length_map]
  inBounds := h.inBounds
  entry index hindex := by
    have hentry := h.entry index hindex
    rw [List.getElem?_map, List.getElem?_map] at hentry
    exact Option.map_injective he hentry

lemma Tensor.Gathers.gathered {t out : Tensor} {shape : List ℕ} (h : t.Gathers out shape f) :
    Gathered t.dims shape f t.data.scalars out.data.scalars := by
  have hdims := h.dims_eq
  obtain ⟨-, -, -, hlen⟩ := Tensor.validateTensorParts_eq_ok.mp h.valid
  refine ⟨?_, h.inBounds, fun index hindex => ?_⟩
  · rw [TensorData.length_scalars, hlen]
    exact congrArg List.prod hdims
  · have helement := h.element_eq index hindex
    rwa [Tensor.element, Tensor.element, hdims] at helement

lemma mapM_ok {g : α → β} {l : List α} :
    (l.mapM fun a => (Except.ok (g a) : Result β)) = .ok (l.map g) := by
  rw [mapM_eq_ok, List.forall₂_map_right_iff]
  exact List.forall₂_same.mpr fun a _ => rfl

end Gathered

/-! ### Binary operations -/

/-- What a binary operation on `a` and `b` returns, in terms of the two tensors broadcast to the
common shape. -/
structure ElementwiseExact (ops : FloatArith) (op : BinaryOp) (a a' b' : Tensor)
    (shape : List UInt64) (result : Result Tensor) : Prop where
  pointwise : result = (do
    let data ← a'.data.pointwise ops op b'.data
    return ⟨a.dtype, shape, data⟩)
  i32_isOk_iff : ∀ x y, a'.data = .i32 x → b'.data = .i32 y →
    ((∃ out, result = .ok out) ↔ ∀ p ∈ x.zip y, ∃ v, op.exact p.1.toInt p.2.toInt = some v ∧
      -2 ^ 31 ≤ v ∧ v < 2 ^ 31)
  i32_exact : ∀ x y out, a'.data = .i32 x → b'.data = .i32 y → result = .ok out →
    ∃ z, out.data = .i32 z ∧ List.Forall₂ (fun p r => op.exact p.1.toInt p.2.toInt =
      some (Int32.toInt r)) (x.zip y) z
  i64_isOk_iff : ∀ x y, a'.data = .i64 x → b'.data = .i64 y →
    ((∃ out, result = .ok out) ↔ ∀ p ∈ x.zip y, ∃ v, op.exact p.1.toInt p.2.toInt = some v ∧
      -2 ^ 63 ≤ v ∧ v < 2 ^ 63)
  i64_exact : ∀ x y out, a'.data = .i64 x → b'.data = .i64 y → result = .ok out →
    ∃ z, out.data = .i64 z ∧ List.Forall₂ (fun p r => op.exact p.1.toInt p.2.toInt =
      some (Int64.toInt r)) (x.zip y) z

section Binary

variable {ops : FloatArith} {op : BinaryOp} {a b a' b' : Tensor} {shape : List UInt64}

lemma isOk_binaryI32_iff {x y : Int32} : IsOk (binaryI32 x y op) ↔
    ∃ v, op.exact x.toInt y.toInt = some v ∧ -2 ^ 31 ≤ v ∧ v < 2 ^ 31 := by
  constructor
  · rintro ⟨r, hr⟩
    exact ⟨r.toInt, binaryI32_eq_ok.mp hr, r.le_toInt, r.toInt_lt⟩
  · rintro ⟨v, hv, hlow, hhigh⟩
    refine ⟨Int32.ofInt v, binaryI32_eq_ok.mpr ?_⟩
    rw [hv, Int32.toInt_ofInt_of_le hlow hhigh]

lemma isOk_binaryI64_iff {x y : Int64} : IsOk (binaryI64 x y op) ↔
    ∃ v, op.exact x.toInt y.toInt = some v ∧ -2 ^ 63 ≤ v ∧ v < 2 ^ 63 := by
  constructor
  · rintro ⟨r, hr⟩
    exact ⟨r.toInt, binaryI64_eq_ok.mp hr, r.le_toInt, r.toInt_lt⟩
  · rintro ⟨v, hv, hlow, hhigh⟩
    refine ⟨Int64.ofInt v, binaryI64_eq_ok.mpr ?_⟩
    rw [hv, Int64.toInt_ofInt_of_le hlow hhigh]

/-- The integer parts follow from the pointwise one. -/
lemma ElementwiseExact.of_pointwise {result : Result Tensor} (h : result = (do
    let data ← a'.data.pointwise ops op b'.data
    return ⟨a.dtype, shape, data⟩)) : ElementwiseExact ops op a a' b' shape result where
  pointwise := h
  i32_isOk_iff x y hx hy := by
    have hok : (∃ out, result = .ok out) ↔
        IsOk ((x.zip y).mapM fun p => binaryI32 p.1 p.2 op) := by
      rw [h, hx, hy, TensorData.pointwise]
      cases (x.zip y).mapM fun p => binaryI32 p.1 p.2 op <;> simp [IsOk, Functor.map, Except.map]
    rw [hok, isOk_mapM]
    exact forall₂_congr fun p _ => isOk_binaryI32_iff
  i32_exact x y out hx hy hout := by
    rw [h, hx, hy, TensorData.pointwise] at hout
    obtain ⟨data, hdata, hout⟩ := bind_eq_ok.mp hout
    obtain ⟨z, hz, rfl⟩ := map_eq_ok.mp hdata
    cases hout
    exact ⟨z, rfl, (mapM_eq_ok.mp hz).imp fun p r => binaryI32_eq_ok.mp⟩
  i64_isOk_iff x y hx hy := by
    have hok : (∃ out, result = .ok out) ↔
        IsOk ((x.zip y).mapM fun p => binaryI64 p.1 p.2 op) := by
      rw [h, hx, hy, TensorData.pointwise]
      cases (x.zip y).mapM fun p => binaryI64 p.1 p.2 op <;> simp [IsOk, Functor.map, Except.map]
    rw [hok, isOk_mapM]
    exact forall₂_congr fun p _ => isOk_binaryI64_iff
  i64_exact x y out hx hy hout := by
    rw [h, hx, hy, TensorData.pointwise] at hout
    obtain ⟨data, hdata, hout⟩ := bind_eq_ok.mp hout
    obtain ⟨z, hz, rfl⟩ := map_eq_ok.mp hdata
    cases hout
    exact ⟨z, rfl, (mapM_eq_ok.mp hz).imp fun p r => binaryI64_eq_ok.mp⟩

/-- A walk over two payloads that are both broadcast. -/
lemma binaryBroadcast_eq_pointwise {α : Type} (toData : List α → TensorData)
    {lhs rhs x y : List α} {op : α → α → Result α}
    (ha : a.Valid) (hb : b.Valid) (hsa : StridesFit a.dims) (hsb : StridesFit b.dims) {s : List ℕ}
    (hs : IsBroadcast a.dims b.dims s) (hfits : ProductFits s)
    (hlhs : Gathered a.dims s (broadcastIndex a.dims) lhs x)
    (hrhs : Gathered b.dims s (broadcastIndex b.dims) rhs y) {dtype : DType}
    (hs' : shapeU64ToUsize shape = s)
    (hdtype : ∀ z, (toData z).dtype = dtype) (hlen : ∀ z, (toData z).len = z.length) :
    (do
      let values ← binaryBroadcastValues lhs a.dims rhs b.dims s op
      fromDenseData dtype shape (toData values)) = (do
      let data ← toData <$> (x.zip y).mapM fun p => op p.1 p.2
      return ⟨dtype, shape, data⟩) := by
  rw [binaryBroadcastValues_eq hs.left hs.right ha.prod_lt hb.prod_lt hsa hsb hfits hlhs hrhs]
  rcases hmap : (x.zip y).mapM fun p => op p.1 p.2 with e | z <;> rw [hmap]
  · rfl
  · have hzlen : z.length = s.prod := by
      rw [← (mapM_eq_ok.mp hmap).length_eq, List.length_zip, hlhs.length_eq, hrhs.length_eq,
        min_self]
    have hvalid : validateTensorParts dtype shape (toData z) = .ok () := by
      rw [Tensor.validateTensorParts_eq_ok, hs']
      refine ⟨fun hnil => ha.dims_ne_nil ?_, hdtype z, hfits, by rw [hlen, hzlen]⟩
      have hle := hs.left.1
      rw [← hs', hnil] at hle
      exact List.length_eq_zero_iff.mp (Nat.le_zero.mp hle)
    rw [ok_bind, fromDenseData, tensorFromData, hvalid]
    rfl

/-- A binary operation computes pointwise on the two broadcast tensors. -/
lemma binaryOp_eq_pointwise (ha : a.Valid) (hb : b.Valid) (hdtype : a.dtype = b.dtype)
    (hsa : StridesFit a.dims) (hsb : StridesFit b.dims)
    (hs : IsBroadcast a.dims b.dims (shapeU64ToUsize shape))
    (hfits : ProductFits (shapeU64ToUsize shape))
    (ha' : a.Gathers a' (shapeU64ToUsize shape) (broadcastIndex a.dims))
    (hb' : b.Gathers b' (shapeU64ToUsize shape) (broadcastIndex b.dims)) :
    binaryOp ops a b op = (do
      let data ← a'.data.pointwise ops op b'.data
      return ⟨a.dtype, shape, data⟩) := by
  have hlhs := ha'.gathered
  have hrhs := hb'.gathered
  have htypeA := ha.dtype_eq
  have htypeB := hb.dtype_eq
  have htypeA' : a'.data.dtype = a.dtype :=
    (Tensor.validateTensorParts_eq_ok.mp ha'.valid).2.1.trans ha'.dtype_eq
  have htypeB' : b'.data.dtype = b.dtype :=
    (Tensor.validateTensorParts_eq_ok.mp hb'.valid).2.1.trans hb'.dtype_eq
  rw [← hdtype] at htypeB htypeB'
  rw [binaryOp, ha.validatedShape_eq, ok_bind, hb.validatedShape_eq, ok_bind,
    failIf_neg (not_not.mpr hdtype), ok_bind, broadcastShape_eq_ok.mpr hs, ok_bind,
    Tensor.shapeUsizeToU64_shapeU64ToUsize, ok_bind]
  -- the four payloads have one dtype
  generalize a.data = dataA at *
  generalize b.data = dataB at *
  generalize a'.data = dataA' at *
  generalize b'.data = dataB' at *
  generalize a.dtype = dtype at *
  subst htypeA
  cases dataA <;> cases dataB <;> simp only [TensorData.dtype, reduceCtorEq] at htypeB <;>
    cases dataA' <;> simp only [TensorData.dtype, reduceCtorEq] at htypeA' <;>
    cases dataB' <;> simp only [TensorData.dtype, reduceCtorEq] at htypeB'
  case f32.f32.f32.f32 x y x' y' =>
    have hx := gathered_of_map (fun _ _ h => Scalar.f32.inj h) hlhs
    have hy := gathered_of_map (fun _ _ h => Scalar.f32.inj h) hrhs
    refine (binaryBroadcast_eq_pointwise .f32 ha hb hsa hsb hs hfits hx hy rfl (fun _ => rfl)
      fun _ => rfl).trans ?_
    rw [mapM_ok, List.map_zip_eq_zipWith]
    rfl
  case f64.f64.f64.f64 x y x' y' =>
    have hx := gathered_of_map (fun _ _ h => Scalar.f64.inj h) hlhs
    have hy := gathered_of_map (fun _ _ h => Scalar.f64.inj h) hrhs
    refine (binaryBroadcast_eq_pointwise .f64 ha hb hsa hsb hs hfits hx hy rfl (fun _ => rfl)
      fun _ => rfl).trans ?_
    rw [mapM_ok, List.map_zip_eq_zipWith]
    rfl
  case i32.i32.i32.i32 x y x' y' =>
    have hx := gathered_of_map (fun _ _ h => Scalar.i32.inj h) hlhs
    have hy := gathered_of_map (fun _ _ h => Scalar.i32.inj h) hrhs
    exact binaryBroadcast_eq_pointwise .i32 ha hb hsa hsb hs hfits hx hy rfl (fun _ => rfl)
      fun _ => rfl
  case i64.i64.i64.i64 x y x' y' =>
    have hx := gathered_of_map (fun _ _ h => Scalar.i64.inj h) hlhs
    have hy := gathered_of_map (fun _ _ h => Scalar.i64.inj h) hrhs
    exact binaryBroadcast_eq_pointwise .i64 ha hb hsa hsb hs hfits hx hy rfl (fun _ => rfl)
      fun _ => rfl

end Binary

/-! ### Scalar operations -/

section Scalar

variable {α : Type} {s : List ℕ} {values : List α} {r : α}

lemma isBroadcast_one (hs : s ≠ []) : IsBroadcast s [1] s := by
  have hlen : 0 < s.length := List.length_pos_iff.mpr hs
  refine ⟨by rw [List.length_singleton]; omega, fun k _ => .right ?_⟩
  cases k with
  | zero => rfl
  | succ k => exact dimFromEnd_of_le (by rw [List.length_singleton]; omega)

/-- Broadcasting to the own shape changes nothing. -/
lemma broadcastIndex_self {index : List ℕ} (h : InBounds s index) : broadcastIndex s index = index := by
  rw [broadcastIndex, h.length_eq, Nat.sub_self, List.drop_zero]
  induction h with
  | nil => rfl
  | @cons i n index s hi _ ih =>
    rw [List.zipWith_cons_cons, ih]
    by_cases hn : n = 1
    · rw [if_pos hn, show i = 0 by omega]
    · rw [if_neg hn]

lemma gathered_self (hlen : values.length = s.prod) :
    Gathered s s (broadcastIndex s) values values :=
  (Gathered.refl hlen).congr fun _ hindex => (broadcastIndex_self hindex).symm

lemma gathered_one (hs : s ≠ []) :
    Gathered [1] s (broadcastIndex [1]) [r] (List.replicate s.prod r) := by
  have hsource : ∀ index, InBounds s index → broadcastIndex [1] index = [0] := by
    intro index hindex
    have hlen : index.length ≠ 0 := by
      rw [hindex.length_eq]
      exact fun hzero => hs (List.length_eq_zero_iff.mp hzero)
    have hdrop : (index.drop (index.length - 1)).length = 1 := by
      rw [List.length_drop]
      omega
    obtain ⟨i, hi⟩ := List.length_eq_one_iff.mp hdrop
    rw [broadcastIndex, List.length_singleton, hi]
    rfl
  refine ⟨List.length_replicate, fun index hindex => ?_, fun index hindex => ?_⟩
  · rw [hsource index hindex]
    decide
  · rw [hsource index hindex, List.getElem?_replicate, if_pos (ravel_lt hindex)]
    rfl

lemma mapM_zip_replicate {β : Type} {op : α → β → Result α} {r : β} {l : List α} :
    ((l.zip (List.replicate l.length r)).mapM fun p => op p.1 p.2) = l.mapM fun a => op a r := by
  induction l with
  | nil => rfl
  | cons a l ih =>
    rw [List.length_cons, List.replicate_succ, List.zip_cons_cons, List.mapM_cons, List.mapM_cons,
      ih]

/-- A walk with a tensor of shape `[1]`. -/
lemma binaryBroadcastValues_scalar {op : α → α → Result α} {t : Tensor} (ht : t.Valid)
    (hstrides : StridesFit t.dims) (hlen : values.length = t.dims.prod) :
    binaryBroadcastValues values t.dims [r] [1] t.dims op = values.mapM fun v => op v r := by
  have hs := isBroadcast_one ht.dims_ne_nil
  rw [binaryBroadcastValues_eq hs.left hs.right ht.prod_lt (by decide) hstrides
    (rowMajorStrides_eq_ok.mp rfl).2 ht.productFits (gathered_self hlen)
    (gathered_one ht.dims_ne_nil), ← hlen, mapM_zip_replicate]

/-- The scalar forms are the binary ones with a tensor of shape `[1]`. -/
lemma scalarOp_eq_binaryOp {ops : FloatArith} {op : ScalarOp} {t : Tensor} {rhs : Scalar}
    (ht : t.Valid) (hstrides : StridesFit t.dims) (hdtype : rhs.toTensor.dtype = t.dtype) :
    scalarOp ops t rhs op = binaryOp ops t rhs.toTensor op.toBinary := by
  have hvalid : validatedShape rhs.toTensor = .ok [1] := by cases rhs <;> rfl
  have htype := ht.dtype_eq
  have hlen := ht.len_eq
  unfold scalarOp binaryOp
  rw [ht.parts, ok_bind, ht.validatedShape_eq, ok_bind, hvalid, ok_bind,
    failIf_neg (not_not.mpr hdtype.symm), ok_bind,
    broadcastShape_eq_ok.mpr (isBroadcast_one ht.dims_ne_nil), ok_bind, Tensor.dims,
    Tensor.shapeUsizeToU64_shapeU64ToUsize, ok_bind]
  rw [← hdtype] at htype
  generalize t.data = data at *
  cases rhs <;> cases data <;> simp only [Scalar.toTensor, TensorData.dtype, reduceCtorEq] at htype
  case f32.f32 r values =>
    refine Eq.trans ?_ (congrArg (· >>= _) (binaryBroadcastValues_scalar ht hstrides hlen)).symm
    rw [mapM_ok, ok_bind]
  case f64.f64 r values =>
    refine Eq.trans ?_ (congrArg (· >>= _) (binaryBroadcastValues_scalar ht hstrides hlen)).symm
    rw [mapM_ok, ok_bind]
  case i32.i32 r values =>
    refine Eq.trans ?_ (congrArg (· >>= _) (binaryBroadcastValues_scalar ht hstrides hlen)).symm
    simp only [scalarI32_eq]
  case i64.i64 r values =>
    refine Eq.trans ?_ (congrArg (· >>= _) (binaryBroadcastValues_scalar ht hstrides hlen)).symm
    simp only [scalarI64_eq]

end Scalar

/-! ### The operations -/

/-- The lengths of a common shape are machine words. -/
lemma IsBroadcast.lt {a b : Tensor} {s : List ℕ} (h : IsBroadcast a.dims b.dims s) :
    ∀ n ∈ s, n < 2 ^ 64 := by
  have hdim : ∀ (t : Tensor) k, dimFromEnd t.dims k < 2 ^ 64 := by
    intro t k
    by_cases hk : k < t.dims.length
    · rw [dimFromEnd_of_lt hk]
      exact Tensor.getD_dims_lt (by omega)
    · rw [dimFromEnd_of_le (by omega)]
      decide
  intro n hn
  obtain ⟨k, hk, rfl⟩ := List.mem_iff_getElem.mp hn
  have hlast : dimFromEnd s (s.length - 1 - k) = s[k] := by
    rw [dimFromEnd_of_lt (by omega), show s.length - 1 - (s.length - 1 - k) = k by omega,
      List.getD_eq_getElem _ _ hk]
  have hjoin := h.joins (s.length - 1 - k) (by omega)
  rw [hlast] at hjoin
  generalize s[k] = d at hjoin ⊢
  rcases hjoin with hab | ha | hb
  · exact hdim b _
  · exact hdim b _
  · exact hdim a _

/-- Element-wise arithmetic is broadcasting plus checked scalars. -/
theorem elementwise_exact (ops : FloatArith) {a b : Tensor} (ha : a.Valid) (hb : b.Valid)
    (hdtype : a.dtype = b.dtype) (hsa : StridesFit a.dims) (hsb : StridesFit b.dims) :
    (∀ op, (¬ ∃ s, IsBroadcast a.dims b.dims s) → ∃ e, binaryOp ops a b op = .error e) ∧
    (∀ op s, IsBroadcast a.dims b.dims s → ProductFits s → ∃ shape a' b',
      shapeU64ToUsize shape = s ∧ a.broadcastTo shape = .ok a' ∧ b.broadcastTo shape = .ok b' ∧
      ElementwiseExact ops op a a' b' shape (binaryOp ops a b op)) ∧
    ∀ op rhs, rhs.toTensor.dtype = a.dtype →
      scalarOp ops a rhs op = binaryOp ops a rhs.toTensor op.toBinary := by
  refine ⟨fun op hnone => ?_, fun op s hs hfits => ?_, fun op rhs => scalarOp_eq_binaryOp ha hsa⟩
  · rw [binaryOp, ha.validatedShape_eq, ok_bind, hb.validatedShape_eq, ok_bind,
      failIf_neg (not_not.mpr hdtype), ok_bind]
    rcases hshape : broadcastShape a.dims b.dims with e | s
    · exact ⟨e, rfl⟩
    · exact absurd ⟨s, broadcastShape_eq_ok.mp hshape⟩ hnone
  · obtain ⟨shape, rfl⟩ : ∃ shape, shapeU64ToUsize shape = s :=
      ⟨_, shapeU64ToUsize_map hs.lt⟩
    obtain ⟨a', haOk⟩ := (Tensor.rearranges_broadcastTo ha hsa shape).succeeds_iff.mpr
      ⟨(), hs.left, hfits⟩
    obtain ⟨b', hbOk⟩ := (Tensor.rearranges_broadcastTo hb hsb shape).succeeds_iff.mpr
      ⟨(), hs.right, hfits⟩
    have ha' := ((Tensor.broadcastTo_iff ha hsa).mp haOk).2
    have hb' := ((Tensor.broadcastTo_iff hb hsb).mp hbOk).2
    exact ⟨shape, a', b', rfl, haOk, hbOk, .of_pointwise
      (binaryOp_eq_pointwise ha hb hdtype hsa hsb hs hfits ha' hb')⟩

/-- A column of two values. -/
def sampleColumn : Tensor := ⟨.i32, [2, 1], .i32 [10, 20]⟩

lemma sampleColumn_valid : sampleColumn.Valid := ⟨by rfl, by decide, by decide⟩

theorem elementwise_exact_sample : ∃ shape a' b',
    shapeU64ToUsize shape = [2, 3] ∧ Tensor.sampleMatrix.broadcastTo shape = .ok a' ∧
      sampleColumn.broadcastTo shape = .ok b' ∧
      ElementwiseExact .ieee .add Tensor.sampleMatrix a' b' shape
        (binaryOp .ieee Tensor.sampleMatrix sampleColumn .add) := by
  have hvalid := Tensor.sampleMatrix_valid
  have hcolumn := sampleColumn_valid
  exact (elementwise_exact .ieee hvalid hcolumn (by rfl) (hvalid.stridesFit (by decide))
    (hcolumn.stridesFit (by decide))).2.1 .add [2, 3] (broadcastShape_eq_ok.mp (by rfl))
    ((productFits_iff (by decide)).mpr (by decide))

/-- A tensor without elements whose trailing axes are too long together. -/
def longEmpty : Tensor := ⟨.i32, [0, 2 ^ 40, 2 ^ 40], .i32 []⟩

theorem longEmpty_add_error : longEmpty.Valid ∧
    IsBroadcast longEmpty.dims longEmpty.dims longEmpty.dims ∧
    longEmpty.dims.prod < 2 ^ usizeBits ∧
    (∀ ops out, binaryOp ops longEmpty longEmpty .add ≠ .ok out) ∧
    ∀ ops, scalarOp ops longEmpty (.i32 1) .add = .ok longEmpty := by
  refine ⟨⟨by rfl, by decide, by decide⟩, broadcastShape_eq_ok.mp (by rfl), by decide,
    fun ops out h => ?_, fun ops => by rfl⟩
  have herror : binaryOp ops longEmpty longEmpty .add =
      .error (invalidArgument "stride overflow") := by rfl
  rw [herror] at h
  cases h

end ArcadiaTio.Tio
