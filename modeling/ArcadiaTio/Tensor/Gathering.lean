import ArcadiaTio.Tensor.Shapes

/-!
# The walk gathers

`gatherLoop_eq` is the one induction over the walk: when the input multi-index of every output
multi-index is in bounds, the walk pushes the entries at these sources in row-major order.
`gathers_iff` lifts it to tensors of any dtype: an operation that maps the payload by such a walk
succeeds exactly when its shape is one, and its output is the gathered tensor (`Gathers`), which
is unique.
-/

namespace ArcadiaTio.Tio

open ArcadiaTio.Lib ArcadiaTio.Lib.RowMajor

/-! ### The loop -/

section Loop

variable {α : Type} {values : List α} {inputShape outShape : List ℕ}
  {source : List ℕ → List ℕ → Result (List ℕ)} {f : List ℕ → List ℕ}

/-- What a walk needs: the input multi-index that it computes is `f` of the output multi-index,
whatever the previous one was, and it is in bounds. -/
def SourceIs (inputShape outShape : List ℕ) (source : List ℕ → List ℕ → Result (List ℕ))
    (f : List ℕ → List ℕ) : Prop :=
  ∀ inIndices outIndices, inIndices.length = inputShape.length → InBounds outShape outIndices →
    source inIndices outIndices = .ok (f outIndices) ∧ InBounds inputShape (f outIndices)

lemma gatherLoop_eq (hsource : SourceIs inputShape outShape source f)
    (hvalues : values.length = inputShape.prod) (hlt : inputShape.prod < 2 ^ usizeBits) {n k : ℕ}
    (inIndices outIndices : List ℕ) (hin : inIndices.length = inputShape.length)
    (hk : k + n ≤ outShape.prod) (hout : n ≠ 0 → outIndices = unravel outShape k) :
    ∃ out, gatherLoop values inputShape (strides inputShape) outShape source n inIndices outIndices =
      .ok out ∧ out.length = n ∧ ∀ j < n, out[j]? =
        values[ravel inputShape (f (unravel outShape (k + j)))]? := by
  induction n generalizing k inIndices outIndices with
  | zero => exact ⟨[], rfl, rfl, fun j hj => absurd hj (Nat.not_lt_zero j)⟩
  | succ n ih =>
    obtain rfl := hout (Nat.succ_ne_zero n)
    have hbounds : InBounds outShape (unravel outShape k) := inBounds_unravel (by omega)
    obtain ⟨heq, hf⟩ := hsource inIndices _ hin hbounds
    have hravel : ravel inputShape (f (unravel outShape k)) < values.length := by
      rw [hvalues]
      exact ravel_lt hf
    obtain ⟨rest, hrest, hlen, hentry⟩ := ih (k := k + 1) (f (unravel outShape k))
      (incrementIndices (unravel outShape k) outShape) hf.length_eq (by omega)
      (fun hn => advance_unravel (by omega))
    refine ⟨values[ravel inputShape (f (unravel outShape k))] :: rest, ?_, ?_, ?_⟩
    · rw [gatherLoop, heq, ok_bind, linearFromIndices_eq hf hlt, ok_bind,
        List.getElem?_eq_getElem hravel, okOr_some, ok_bind, hrest]
      rfl
    · rw [List.length_cons, hlen]
    · rintro (_ | j) hj
      · rw [List.getElem?_cons_zero, Nat.add_zero, List.getElem?_eq_getElem hravel]
      · rw [List.getElem?_cons_succ, hentry j (by omega), Nat.add_right_comm, Nat.add_assoc]

/-- The whole walk gathers. -/
lemma exists_gathered (hsource : SourceIs inputShape outShape source f)
    (hvalues : values.length = inputShape.prod) (hlt : inputShape.prod < 2 ^ usizeBits) :
    ∃ out, gatherLoop values inputShape (strides inputShape) outShape source outShape.prod
      (List.replicate inputShape.length 0) (List.replicate outShape.length 0) = .ok out ∧
      Gathered inputShape outShape f values out := by
  obtain ⟨out, hout, hlen, hentry⟩ := gatherLoop_eq hsource hvalues hlt (n := outShape.prod)
    (k := 0) (List.replicate inputShape.length 0) (List.replicate outShape.length 0) (by simp)
    (by omega) (fun _ => unravel_zero.symm)
  refine ⟨out, hout, hlen, fun index hindex => ?_, fun index hindex => ?_⟩
  · exact (hsource (List.replicate inputShape.length 0) index (by simp) hindex).2
  · rw [hentry _ (ravel_lt hindex), Nat.zero_add, unravel_ravel hindex]

end Loop

lemma gatherValues_eq {α : Type} {values : List α} {inputShape outShape : List ℕ}
    {source : List ℕ → List ℕ → Result (List ℕ)} {f : List ℕ → List ℕ}
    (hsource : SourceIs inputShape outShape source f) (hvalues : values.length = inputShape.prod)
    (hlt : inputShape.prod < 2 ^ usizeBits) (hstrides : StridesFit inputShape)
    (hfits : ProductFits outShape) :
    ∃ out, gatherValues values inputShape outShape source = .ok out ∧
      Gathered inputShape outShape f values out := by
  obtain ⟨out, hout, hgathered⟩ := exists_gathered hsource hvalues hlt
  refine ⟨out, ?_, hgathered⟩
  rw [gatherValues, shapeProductUsize_eq_ok.mpr ⟨rfl, hfits⟩, ok_bind,
    rowMajorStrides_eq_ok.mpr ⟨rfl, hstrides⟩, ok_bind, hout]

/-- A walk that replaces the position on one axis. -/
lemma sourceIs_replaceAxis {inputShape : List ℕ} {axis : ℕ} (haxis : axis < inputShape.length)
    (len : ℕ) (position : ℕ → Result ℕ) (g : ℕ → ℕ)
    (h : ∀ i < len, position i = .ok (g i) ∧ g i < inputShape.getD axis 0) :
    SourceIs inputShape (inputShape.set axis len)
      (fun _ outIndices => replaceAxis axis position outIndices)
      (fun index => index.set axis (g (index.getD axis 0))) := by
  intro _ outIndices _ hbounds
  obtain ⟨heq, hlt⟩ := h _ (hbounds.getD_set_lt haxis)
  refine ⟨by simp only [replaceAxis, heq, ok_bind, pure_eq_ok], ?_⟩
  have hset := hbounds.set (a := axis) hlt
  rwa [List.set_set, List.getD_eq_getElem _ _ haxis, List.set_getElem_self] at hset

/-! ### Tensors -/

namespace Tensor

/-- A valid tensor: it passes its validation, and its two vectors are in memory, where a vector has
at most `isize::MAX` elements. -/
structure Valid (t : Tensor) : Prop where
  parts : t.validate = .ok ()
  rank_lt : t.shape.length < 2 ^ 63
  len_lt : t.data.len < 2 ^ 63

/-- The element at a multi-index. -/
def element (t : Tensor) (index : List ℕ) : Option Scalar := t.data.scalars[ravel t.dims index]?

lemma validateTensorParts_eq_ok {dtype : DType} {shape : List UInt64} {data : TensorData} :
    validateTensorParts dtype shape data = .ok () ↔
      shape ≠ [] ∧ data.dtype = dtype ∧ ProductFits (shapeU64ToUsize shape) ∧
        data.len = (shapeU64ToUsize shape).prod := by
  simp only [validateTensorParts, bind_eq_ok, failIf_eq_ok, shapeElementLen_eq_ok, exists_const,
    not_not]
  constructor
  · rintro ⟨hshape, hdtype, _, ⟨rfl, hfits⟩, hlen⟩
    exact ⟨hshape, hdtype, hfits, hlen.symm⟩
  · rintro ⟨hshape, hdtype, hfits, hlen⟩
    exact ⟨hshape, hdtype, _, ⟨rfl, hfits⟩, hlen.symm⟩

namespace Valid

variable {t : Tensor} (h : t.Valid)

include h

lemma shape_ne_nil : t.shape ≠ [] := (validateTensorParts_eq_ok.mp h.parts).1

lemma dtype_eq : t.data.dtype = t.dtype := (validateTensorParts_eq_ok.mp h.parts).2.1

lemma productFits : ProductFits t.dims := (validateTensorParts_eq_ok.mp h.parts).2.2.1

lemma len_eq : t.data.len = t.dims.prod := (validateTensorParts_eq_ok.mp h.parts).2.2.2

lemma rank_dims_lt : t.dims.length < 2 ^ 63 := by
  rw [dims, shapeU64ToUsize, List.length_map]
  exact h.rank_lt

lemma validatedShape_eq : validatedShape t = .ok t.dims := by
  rw [validatedShape, h.parts, ok_bind]
  rfl

lemma zero_notMem (hne : t.data.len ≠ 0) : 0 ∉ t.dims :=
  zero_notMem_of_prod_ne_zero (h.len_eq ▸ hne)

end Valid

/-- A tensor of the given shape that passes its validation, of the same dtype as `t` and with the
element of `t` at the source index as its element at every multi-index. -/
structure Gathers (t out : Tensor) (shape : List ℕ) (source : List ℕ → List ℕ) : Prop where
  valid : out.validate = .ok ()
  dtype_eq : out.dtype = t.dtype
  dims_eq : out.dims = shape
  inBounds : ∀ index, InBounds shape index → InBounds t.dims (source index)
  element_eq : ∀ index, InBounds shape index → out.element index = t.element (source index)

end Tensor

lemma TensorData.eq_of_scalars {d d' : TensorData} (htype : d.dtype = d'.dtype)
    (h : d.scalars = d'.scalars) : d = d' := by
  cases d <;> cases d' <;> simp only [dtype, reduceCtorEq] at htype
  all_goals
    simp only [scalars] at h
    rw [List.map_inj_right (fun a b hab => by cases hab; rfl)] at h
    rw [h]

lemma shapeU64ToUsize_injective {a b : List UInt64} (h : shapeU64ToUsize a = shapeU64ToUsize b) :
    a = b := by
  rw [shapeU64ToUsize, shapeU64ToUsize, List.map_inj_right (fun a b hab => UInt64.toNat_inj.mp hab)]
    at h
  exact h

/-- A gathered tensor is determined by its shape and its sources. -/
lemma Tensor.Gathers.unique {t out out' : Tensor} {shape : List ℕ} {f g : List ℕ → List ℕ}
    (h : t.Gathers out shape f) (h' : t.Gathers out' shape g)
    (hfg : ∀ index, InBounds shape index → f index = g index) : out = out' := by
  obtain ⟨-, htype, -, hlen⟩ := Tensor.validateTensorParts_eq_ok.mp h.valid
  obtain ⟨-, htype', -, hlen'⟩ := Tensor.validateTensorParts_eq_ok.mp h'.valid
  have hdims := h.dims_eq
  have hdims' := h'.dims_eq
  have hshape : out.shape = out'.shape := shapeU64ToUsize_injective (hdims.trans hdims'.symm)
  have hdtype : out.dtype = out'.dtype := h.dtype_eq.trans h'.dtype_eq.symm
  have hdata : out.data = out'.data := by
    apply TensorData.eq_of_scalars (by rw [htype, htype', hdtype])
    refine Gathered.ext_entries (?_ : _ = shape.prod) ?_ fun index hindex => ?_
    · rw [TensorData.length_scalars, hlen]
      exact congrArg List.prod hdims
    · rw [TensorData.length_scalars, hlen']
      exact congrArg List.prod hdims'
    · have helement := (h.element_eq index hindex).trans
        ((hfg index hindex ▸ h'.element_eq index hindex).symm)
      rwa [Tensor.element, Tensor.element, hdims, hdims'] at helement
  cases out
  cases out'
  simp only at hshape hdtype hdata
  rw [hshape, hdtype, hdata]

lemma Tensor.Gathers.congr {t out : Tensor} {shape : List ℕ} {f g : List ℕ → List ℕ}
    (h : t.Gathers out shape f) (hfg : ∀ index, InBounds shape index → f index = g index) :
    t.Gathers out shape g where
  valid := h.valid
  dtype_eq := h.dtype_eq
  dims_eq := h.dims_eq
  inBounds index hindex := hfg index hindex ▸ h.inBounds index hindex
  element_eq index hindex := hfg index hindex ▸ h.element_eq index hindex

/-! ### Payloads -/

/-- Mapping the payload by a function that gathers gathers the scalars. -/
lemma TensorData.exists_mapValues {d : TensorData} {inputShape outShape : List ℕ}
    {g : {α : Type} → List α → Result (List α)} {f : List ℕ → List ℕ}
    (h : ∀ {α : Type} (values : List α), values.length = d.len →
      ∃ out, g values = .ok out ∧ Gathered inputShape outShape f values out) :
    ∃ d', d.mapValues g = .ok d' ∧ d'.dtype = d.dtype ∧
      Gathered inputShape outShape f d.scalars d'.scalars := by
  cases d with
  | f32 values =>
    obtain ⟨out, hout, hgathered⟩ := h values rfl
    exact ⟨.f32 out, by rw [mapValues, hout]; rfl, rfl, hgathered.map _⟩
  | f64 values =>
    obtain ⟨out, hout, hgathered⟩ := h values rfl
    exact ⟨.f64 out, by rw [mapValues, hout]; rfl, rfl, hgathered.map _⟩
  | i32 values =>
    obtain ⟨out, hout, hgathered⟩ := h values rfl
    exact ⟨.i32 out, by rw [mapValues, hout]; rfl, rfl, hgathered.map _⟩
  | i64 values =>
    obtain ⟨out, hout, hgathered⟩ := h values rfl
    exact ⟨.i64 out, by rw [mapValues, hout]; rfl, rfl, hgathered.map _⟩

/-! ### Operations -/

lemma usizeToU64_eq_ok {value : ℕ} {word : UInt64} :
    usizeToU64 value = .ok word ↔ value < 2 ^ 64 ∧ word = value.toUInt64 := by
  rw [usizeToU64, bind_eq_ok]
  simp only [failIf_eq_ok, not_le, pure_eq_ok, Except.ok.injEq, exists_const]
  rw [eq_comm (a := word)]

lemma shapeUsizeToU64_eq_ok {shape : List ℕ} {result : List UInt64} :
    shapeUsizeToU64 shape = .ok result ↔
      (∀ n ∈ shape, n < 2 ^ 64) ∧ result = shape.map Nat.toUInt64 := by
  rw [shapeUsizeToU64, mapM_eq_ok]
  induction shape generalizing result with
  | nil => simp
  | cons n shape ih =>
    rw [List.forall₂_cons_left_iff, List.forall_mem_cons, List.map_cons]
    constructor
    · rintro ⟨word, rest, hword, hrest, rfl⟩
      obtain ⟨hn, rfl⟩ := usizeToU64_eq_ok.mp hword
      obtain ⟨hlt, rfl⟩ := ih.mp hrest
      exact ⟨⟨hn, hlt⟩, rfl⟩
    · rintro ⟨⟨hn, hlt⟩, rfl⟩
      exact ⟨_, _, usizeToU64_eq_ok.mpr ⟨hn, rfl⟩, ih.mpr ⟨hlt, rfl⟩, rfl⟩

lemma shapeU64ToUsize_map {shape : List ℕ} (h : ∀ n ∈ shape, n < 2 ^ 64) :
    shapeU64ToUsize (shape.map Nat.toUInt64) = shape := by
  rw [shapeU64ToUsize, List.map_map]
  conv_rhs => rw [← List.map_id shape]
  refine List.map_congr_left fun n hn => ?_
  simpa using h n hn

namespace Tensor

variable {t out : Tensor} {outShape : List ℕ} {f : List ℕ → List ℕ}
  {g : {α : Type} → List α → Result (List α)}

/-- The common end of the operations: the shape of the output, its payload, its validation. -/
def mapTo (t : Tensor) (outShape : List ℕ) (g : {α : Type} → List α → Result (List α)) :
    Result Tensor := do
  let shape ← shapeUsizeToU64 outShape
  let data ← t.data.mapValues g
  tensorFromData t.dtype shape data

lemma tensorFromData_eq_ok {dtype : DType} {shape : List UInt64} {data : TensorData} :
    tensorFromData dtype shape data = .ok out ↔
      out = ⟨dtype, shape, data⟩ ∧ out.validate = .ok () := by
  rw [tensorFromData, bind_eq_ok]
  constructor
  · rintro ⟨_, hvalid, h⟩
    cases h
    exact ⟨rfl, hvalid⟩
  · rintro ⟨rfl, hvalid⟩
    exact ⟨_, hvalid, rfl⟩

/-- What a successful operation says about the shape of its output. -/
lemma of_mapTo_eq_ok (h : t.mapTo outShape g = .ok out) :
    (∀ n ∈ outShape, n < 2 ^ 64) ∧ ProductFits outShape := by
  obtain ⟨shape, hshape, h⟩ := bind_eq_ok.mp h
  obtain ⟨data, -, h⟩ := bind_eq_ok.mp h
  obtain ⟨hlt, rfl⟩ := shapeUsizeToU64_eq_ok.mp hshape
  obtain ⟨rfl, hvalid⟩ := tensorFromData_eq_ok.mp h
  obtain ⟨-, -, hfits, -⟩ := validateTensorParts_eq_ok.mp hvalid
  exact ⟨hlt, by rwa [shapeU64ToUsize_map hlt] at hfits⟩

/-- An operation whose payload is gathered succeeds with the gathered tensor. -/
lemma exists_mapTo (ht : t.Valid) (hshape : outShape ≠ []) (hlt : ∀ n ∈ outShape, n < 2 ^ 64)
    (hfits : ProductFits outShape)
    (hg : ∀ {α : Type} (values : List α), values.length = t.dims.prod →
      ∃ out, g values = .ok out ∧ Gathered t.dims outShape f values out) :
    ∃ out, t.mapTo outShape g = .ok out ∧ t.Gathers out outShape f := by
  obtain ⟨data, hdata, hdtype, hgathered⟩ := TensorData.exists_mapValues (d := t.data)
    fun values hlen => hg values (hlen.trans ht.len_eq)
  have hdims : shapeU64ToUsize (outShape.map Nat.toUInt64) = outShape := shapeU64ToUsize_map hlt
  have hvalid : validateTensorParts t.dtype (outShape.map Nat.toUInt64) data = .ok () := by
    rw [validateTensorParts_eq_ok, hdims]
    refine ⟨by simpa using hshape, hdtype.trans ht.dtype_eq, hfits, ?_⟩
    rw [← TensorData.length_scalars, hgathered.length_eq]
  refine ⟨⟨t.dtype, outShape.map Nat.toUInt64, data⟩, ?_, hvalid, rfl, hdims,
    hgathered.inBounds, fun index hindex => ?_⟩
  · rw [mapTo, shapeUsizeToU64_eq_ok.mpr ⟨hlt, rfl⟩, ok_bind, hdata, ok_bind,
      tensorFromData, hvalid]
    rfl
  · have hentry := hgathered.entry index hindex
    rw [element, element, ← hentry, dims, hdims]

/-- An operation that succeeds under a condition, and only then, with the gathered tensor. -/
lemma eq_ok_iff {op : Result Tensor} {cond : Prop} (hcond : op = .ok out → cond)
    (hop : cond → ∃ out, op = .ok out ∧ t.Gathers out outShape f) :
    op = .ok out ↔ cond ∧ t.Gathers out outShape f := by
  constructor
  · intro h
    obtain ⟨out', hout', hgathers⟩ := hop (hcond h)
    obtain rfl : out = out' := Except.ok.inj (h.symm.trans hout')
    exact ⟨hcond h, hgathers⟩
  · rintro ⟨hc, hgathers⟩
    obtain ⟨out', hout', hgathers'⟩ := hop hc
    rw [hout', hgathers.unique hgathers' fun _ _ => rfl]

/-- The same for an operation that always succeeds. -/
lemma eq_ok_iff_gathers {op : Result Tensor}
    (hop : ∃ out, op = .ok out ∧ t.Gathers out outShape f) :
    op = .ok out ↔ t.Gathers out outShape f := by
  have hiff : op = .ok out ↔ True ∧ t.Gathers out outShape f :=
    eq_ok_iff (fun _ => trivial) fun _ => hop
  rwa [true_and] at hiff

end Tensor

end ArcadiaTio.Tio
