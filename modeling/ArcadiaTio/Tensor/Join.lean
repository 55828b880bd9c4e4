import ArcadiaTio.Tensor.JoinOps
import ArcadiaTio.Tensor.Elementwise

/-!
# Joined tensors

A tensor joins parts when every part is gathered from it (`IsJoin`): part `m` sits in the joined
tensor at the multi-indices `source m index`.  `concat` and `stack` build such a tensor and `split`
and `unstack` take it apart, so that both directions are statements about `IsJoin`, whose parts
and whose joined tensor are determined by each other.
-/

namespace ArcadiaTio.Tio

open ArcadiaTio.Lib ArcadiaTio.Lib.RowMajor

/-! ### The walk -/

section Walk

variable {α : Type} {outShape : List ℕ} {entry : List ℕ → Result α}

lemma walk_from {n k : ℕ} (hentry : ∀ index, InBounds outShape index → IsOk (entry index))
    (outIndices : List ℕ) (hk : k + n ≤ outShape.prod)
    (hout : n ≠ 0 → outIndices = unravel outShape k) :
    ∃ out, walk outShape entry n outIndices = .ok out ∧ out.length = n ∧
      ∀ j < n, ∀ x, entry (unravel outShape (k + j)) = .ok x → out[j]? = some x := by
  induction n generalizing k outIndices with
  | zero => exact ⟨[], rfl, rfl, fun j hj => absurd hj (Nat.not_lt_zero j)⟩
  | succ n ih =>
    obtain rfl := hout (Nat.succ_ne_zero n)
    obtain ⟨value, hvalue⟩ := hentry (unravel outShape k) (inBounds_unravel (by omega))
    obtain ⟨rest, hrest, hlen, hrestEntry⟩ := ih (k := k + 1)
      (incrementIndices (unravel outShape k) outShape) (by omega)
      (fun hn => advance_unravel (by omega))
    refine ⟨value :: rest, ?_, by rw [List.length_cons, hlen], ?_⟩
    · rw [walk, hvalue, ok_bind, hrest]
      rfl
    · rintro (_ | j) hj x hx
      · rw [Nat.add_zero, hvalue] at hx
        cases hx
        rfl
      · rw [← Nat.add_assoc, Nat.add_right_comm] at hx
        exact hrestEntry j (by omega) x hx

/-- A walk whose entries are all there. -/
lemma exists_walk (hentry : ∀ index, InBounds outShape index → IsOk (entry index)) :
    ∃ out, walk outShape entry outShape.prod (List.replicate outShape.length 0) = .ok out ∧
      out.length = outShape.prod ∧ ∀ index x, InBounds outShape index → entry index = .ok x →
        out[ravel outShape index]? = some x := by
  obtain ⟨out, hout, hlen, h⟩ := walk_from (n := outShape.prod) (k := 0) hentry
    (List.replicate outShape.length 0) (by omega) (fun _ => unravel_zero.symm)
  refine ⟨out, hout, hlen, fun index x hindex hx => h _ (ravel_lt hindex) x ?_⟩
  rwa [Nat.zero_add, unravel_ravel hindex]

end Walk

/-! ### Payloads -/

/-- What a join does with values of any type: the inputs are gathered from its output. -/
def JoinsValues (outShape : List ℕ) (source : ℕ → List ℕ → List ℕ)
    (shapes : List (List ℕ)) (join : {α : Type} → List (DenseInput α) → Result (List α)) : Prop :=
  ∀ {α : Type} (inputs : List (DenseInput α)), inputs.map DenseInput.shape = shapes →
    (∀ input ∈ inputs, input.values.length = input.shape.prod) →
    ∃ out, join inputs = .ok out ∧ out.length = outShape.prod ∧
      ∀ m input, inputs[m]? = some input →
        Gathered outShape input.shape (source m) out input.values

/-- One of the variants of a payload. -/
structure IsVariant {α : Type} (dtype : DType) (values? : TensorData → Option (List α))
    (toData : List α → TensorData) (toScalar : α → Scalar) : Prop where
  eq_of_values : ∀ d values, values? d = some values → d = toData values
  exists_values : ∀ d, d.dtype = dtype → ∃ values, values? d = some values
  dtype_eq : ∀ values, (toData values).dtype = dtype
  len_eq : ∀ values, (toData values).len = values.length
  scalars_eq : ∀ values, (toData values).scalars = values.map toScalar

lemma isVariant_f32 : IsVariant .f32 TensorData.f32? .f32 .f32 :=
  ⟨fun d _ h => by cases d <;> cases h; rfl, fun d h => by cases d <;> cases h; exact ⟨_, rfl⟩,
    fun _ => rfl, fun _ => rfl, fun _ => rfl⟩

lemma isVariant_f64 : IsVariant .f64 TensorData.f64? .f64 .f64 :=
  ⟨fun d _ h => by cases d <;> cases h; rfl, fun d h => by cases d <;> cases h; exact ⟨_, rfl⟩,
    fun _ => rfl, fun _ => rfl, fun _ => rfl⟩

lemma isVariant_i32 : IsVariant .i32 TensorData.i32? .i32 .i32 :=
  ⟨fun d _ h => by cases d <;> cases h; rfl, fun d h => by cases d <;> cases h; exact ⟨_, rfl⟩,
    fun _ => rfl, fun _ => rfl, fun _ => rfl⟩

lemma isVariant_i64 : IsVariant .i64 TensorData.i64? .i64 .i64 :=
  ⟨fun d _ h => by cases d <;> cases h; rfl, fun d h => by cases d <;> cases h; exact ⟨_, rfl⟩,
    fun _ => rfl, fun _ => rfl, fun _ => rfl⟩

namespace Tensor

variable {tensors : List Tensor} {α : Type} {values? : TensorData → Option (List α)}
  {dtype : DType} {outShape : List ℕ} {source : ℕ → List ℕ → List ℕ}
  {join : {α : Type} → List (DenseInput α) → Result (List α)} {toData : List α → TensorData}
  {toScalar : α → Scalar}

lemma denseInputs_eq (h : ∀ t ∈ tensors, ∃ values, values? t.data = some values) :
    ∃ inputs, denseInputs values? tensors (tensors.map dims) = .ok inputs ∧
      List.Forall₂ (fun t input => values? t.data = some input.values ∧ input.shape = t.dims)
        tensors inputs := by
  simp only [denseInputs, mapM_eq_ok]
  induction tensors with
  | nil => exact ⟨[], List.Forall₂.nil, List.Forall₂.nil⟩
  | cons t tensors ih =>
    obtain ⟨⟨values, hvalues⟩, hrest⟩ := List.forall_mem_cons.mp h
    obtain ⟨inputs, hinputs, hall⟩ := ih hrest
    refine ⟨⟨t.dims, values⟩ :: inputs, List.Forall₂.cons ?_ hinputs,
      List.Forall₂.cons ⟨hvalues, rfl⟩ hall⟩
    rw [hvalues]
    rfl

/-- The join of the payloads of one variant. -/
lemma exists_joinData_of (hv : IsVariant dtype values? toData toScalar)
    (hvalid : ∀ t ∈ tensors, t.Valid) (hdtype : ∀ t ∈ tensors, t.dtype = dtype)
    (hjoin : JoinsValues outShape source (tensors.map dims) join) :
    ∃ data, (do
        let inputs ← denseInputs values? tensors (tensors.map dims)
        toData <$> join inputs) = .ok data ∧ data.dtype = dtype ∧ data.len = outShape.prod ∧
      ∀ m t, tensors[m]? = some t →
        Gathered outShape t.dims (source m) data.scalars t.data.scalars := by
  obtain ⟨inputs, hinputs, hall⟩ := denseInputs_eq fun t ht =>
    hv.exists_values t.data ((hvalid t ht).dtype_eq.trans (hdtype t ht))
  have hinput : ∀ m (hm : m < inputs.length) (hmt : m < tensors.length),
      tensors[m].data = toData inputs[m].values ∧ inputs[m].shape = tensors[m].dims := by
    intro m hm hmt
    obtain ⟨hget, hshape⟩ := (List.forall₂_iff_get.mp hall).2 m hmt hm
    exact ⟨hv.eq_of_values _ _ hget, hshape⟩
  have hshapes : inputs.map DenseInput.shape = tensors.map dims := by
    apply List.ext_getElem (by rw [List.length_map, List.length_map, hall.length_eq])
    intro m hm hmt
    rw [List.length_map] at hm hmt
    rw [List.getElem_map, List.getElem_map, (hinput m hm hmt).2]
  have hlens : ∀ input ∈ inputs, input.values.length = input.shape.prod := by
    intro input hmem
    obtain ⟨m, hm, rfl⟩ := List.mem_iff_getElem.mp hmem
    have hmt : m < tensors.length := by rw [hall.length_eq]; exact hm
    obtain ⟨hdata, hshape⟩ := hinput m hm hmt
    rw [hshape, ← (hvalid _ (List.getElem_mem hmt)).len_eq, hdata, hv.len_eq]
  obtain ⟨out, hout, houtLen, hgathered⟩ := hjoin inputs hshapes hlens
  dsimp only at hout
  refine ⟨toData out, by rw [hinputs, ok_bind, hout]; rfl, hv.dtype_eq out,
    by rw [hv.len_eq, houtLen], fun m t hmt => ?_⟩
  obtain ⟨hm, rfl⟩ := List.getElem?_eq_some_iff.mp hmt
  have hmi : m < inputs.length := by rw [← hall.length_eq]; exact hm
  obtain ⟨hdata, hshape⟩ := hinput m hmi hm
  have hpart := (hgathered m _ (List.getElem?_eq_getElem hmi)).map toScalar
  rwa [hshape, ← hv.scalars_eq, ← hv.scalars_eq, ← hdata] at hpart

lemma exists_joinData (hvalid : ∀ t ∈ tensors, t.Valid) (hdtype : ∀ t ∈ tensors, t.dtype = dtype)
    (hjoin : JoinsValues outShape source (tensors.map dims) join) :
    ∃ data, joinData dtype tensors (tensors.map dims) join = .ok data ∧ data.dtype = dtype ∧
      data.len = outShape.prod ∧ ∀ m t, tensors[m]? = some t →
        Gathered outShape t.dims (source m) data.scalars t.data.scalars := by
  cases dtype with
  | f32 => exact exists_joinData_of isVariant_f32 hvalid hdtype hjoin
  | f64 => exact exists_joinData_of isVariant_f64 hvalid hdtype hjoin
  | i32 => exact exists_joinData_of isVariant_i32 hvalid hdtype hjoin
  | i64 => exact exists_joinData_of isVariant_i64 hvalid hdtype hjoin

/-! ### Joined tensors and their parts -/

/-- Every part is gathered from the joined tensor. -/
def IsJoin (t : Tensor) (parts : List Tensor) (source : ℕ → List ℕ → List ℕ) : Prop :=
  ∀ m p, parts[m]? = some p → t.Gathers p p.dims (source m)

variable {t t' : Tensor} {parts parts' : List Tensor}

/-- Two tensors that agree are the same. -/
lemma eq_of_element (ht : t.validate = .ok ()) (ht' : t'.validate = .ok ())
    (hdtype : t.dtype = t'.dtype) (hdims : t.dims = t'.dims)
    (h : ∀ index, InBounds t.dims index → t.element index = t'.element index) : t = t' := by
  have hself : t.Gathers t t.dims id := ⟨ht, rfl, rfl, fun _ hi => hi, fun _ _ => rfl⟩
  have hother : t.Gathers t' t.dims id :=
    ⟨ht', hdtype.symm, hdims.symm, fun _ hi => hi, fun index hi => (h index hi).symm⟩
  exact hself.unique hother fun _ _ => rfl

/-- The joined tensor is determined by its parts when these cover it. -/
lemma IsJoin.unique (h : IsJoin t parts source) (h' : IsJoin t' parts source)
    (ht : t.validate = .ok ()) (ht' : t'.validate = .ok ()) (hdtype : t.dtype = t'.dtype)
    (hdims : t.dims = t'.dims)
    (hcover : ∀ index, InBounds t.dims index → ∃ m p index', parts[m]? = some p ∧
      InBounds p.dims index' ∧ source m index' = index) : t = t' := by
  refine eq_of_element ht ht' hdtype hdims fun index hindex => ?_
  obtain ⟨m, p, index', hp, hindex', rfl⟩ := hcover index hindex
  rw [← (h m p hp).element_eq index' hindex', ← (h' m p hp).element_eq index' hindex']

/-- The parts are determined by the joined tensor and by their shapes. -/
lemma IsJoin.parts_unique (h : IsJoin t parts source) (h' : IsJoin t parts' source)
    (hdims : parts.map dims = parts'.map dims) : parts = parts' := by
  have hlen : parts.length = parts'.length := by
    have := congrArg List.length hdims
    rwa [List.length_map, List.length_map] at this
  apply List.ext_getElem hlen
  intro m hm hm'
  have hdim : parts[m].dims = parts'[m].dims := by
    have hget := congrArg (·[m]?) hdims
    simpa [hm, hm'] using hget
  have hpart := h m _ (List.getElem?_eq_getElem hm)
  rw [hdim] at hpart
  exact hpart.unique (h' m _ (List.getElem?_eq_getElem hm')) fun _ _ => rfl

/-- The end of `concat` and `stack`. -/
lemma exists_joined (hvalid : ∀ t ∈ tensors, t.Valid) (hdtype : ∀ t ∈ tensors, t.dtype = dtype)
    (hjoin : JoinsValues outShape source (tensors.map dims) join) (hshape : outShape ≠ [])
    (hlt : ∀ n ∈ outShape, n < 2 ^ 64) (hfits : ProductFits outShape) :
    ∃ out, (do
        let shape ← shapeUsizeToU64 outShape
        let data ← joinData dtype tensors (tensors.map dims) join
        tensorFromData dtype shape data) = .ok out ∧ out.validate = .ok () ∧ out.dtype = dtype ∧
      out.dims = outShape ∧ IsJoin out tensors source := by
  obtain ⟨data, hdata, htype, hlen, hgathered⟩ := exists_joinData hvalid hdtype hjoin
  have hdims : shapeU64ToUsize (outShape.map Nat.toUInt64) = outShape := shapeU64ToUsize_map hlt
  have hparts : validateTensorParts dtype (outShape.map Nat.toUInt64) data = .ok () := by
    rw [validateTensorParts_eq_ok, hdims]
    exact ⟨by simpa using hshape, htype, hfits, hlen⟩
  refine ⟨⟨dtype, outShape.map Nat.toUInt64, data⟩, ?_, hparts, rfl, hdims, fun m p hp => ?_⟩
  · rw [shapeUsizeToU64_eq_ok.mpr ⟨hlt, rfl⟩, ok_bind, hdata, ok_bind, tensorFromData, hparts]
    rfl
  · have hmem : p ∈ tensors := List.mem_of_getElem? hp
    have hpart := hgathered m p hp
    refine ⟨(hvalid p hmem).parts, hdtype p hmem, rfl, ?_, fun index hindex => ?_⟩
    · intro index hindex
      rw [dims, hdims]
      exact hpart.inBounds index hindex
    · rw [element, element, hpart.entry index hindex, dims, hdims]

end Tensor

end ArcadiaTio.Tio
