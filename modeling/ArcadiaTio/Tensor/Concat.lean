import ArcadiaTio.Tensor.Join

/-!
# Concatenating and splitting

The input of a position on the joined axis is found by searching the prefix sums of the axis
lengths (`findInput_prefixSums`; an input of length zero has an empty range and is never found).
Both `concat` and `split` relate a tensor to its parts by `IsJoin` with the same sources, part `m`
starting at the sum of the lengths before it.
-/

namespace ArcadiaTio.Tio

open ArcadiaTio.Lib ArcadiaTio.Lib.RowMajor

/-! ### Prefix sums -/

/-- The sums of the prefixes of a list, from `start` on. -/
def prefixSums : ℕ → List ℕ → List ℕ
  | start, [] => [start]
  | start, n :: lens => start :: prefixSums (start + n) lens

/-- Where part `m` starts. -/
def startOf (lens : List ℕ) (m : ℕ) : ℕ := (lens.take m).sum

section PrefixSums

variable {lens : List ℕ} {start m : ℕ}

@[simp] lemma startOf_zero : startOf lens 0 = 0 := rfl

@[simp] lemma startOf_cons_succ {n : ℕ} : startOf (n :: lens) (m + 1) = n + startOf lens m := by
  rw [startOf, List.take_succ_cons, List.sum_cons, startOf]

lemma startOf_add_le (hm : m < lens.length) : startOf lens m + lens.getD m 0 ≤ lens.sum := by
  induction lens generalizing m with
  | nil => exact absurd hm (Nat.not_lt_zero m)
  | cons n lens ih =>
    cases m with
    | zero => simp
    | succ m =>
      have := ih (m := m) (by simpa using hm)
      rw [startOf_cons_succ, List.getD_cons_succ, List.sum_cons]
      omega

lemma getD_prefixSums (hm : m < lens.length) :
    (prefixSums start lens).getD m 0 = start + startOf lens m := by
  induction lens generalizing start m with
  | nil => exact absurd hm (Nat.not_lt_zero m)
  | cons n lens ih =>
    cases m with
    | zero => rfl
    | succ m =>
      rw [prefixSums, List.getD_cons_succ, ih (by simpa using hm), startOf_cons_succ, Nat.add_assoc]

lemma findInput_cons {next i : ℕ} : findInput (start :: prefixSums next lens) i =
    if start ≤ i ∧ i < next then some 0
    else (findInput (prefixSums next lens) i).map (· + 1) := by
  cases lens <;> simp [findInput, prefixSums, List.findIdx?_cons]

/-- A position in the range of part `m` is found there. -/
lemma findInput_prefixSums (start : ℕ) {i : ℕ} (hm : m < lens.length) (hi : i < lens.getD m 0) :
    findInput (prefixSums start lens) (start + startOf lens m + i) = some m := by
  induction lens generalizing start m with
  | nil => exact absurd hm (Nat.not_lt_zero m)
  | cons n lens ih =>
    rw [prefixSums, findInput_cons]
    cases m with
    | zero =>
      rw [List.getD_cons_zero] at hi
      rw [if_pos ⟨by omega, by rw [startOf_zero]; omega⟩]
    | succ m =>
      rw [List.getD_cons_succ] at hi
      rw [startOf_cons_succ, if_neg (by omega), ← Nat.add_assoc, ih (start + n) (by simpa using hm) hi]
      rfl

/-- Every position is in the range of a part. -/
lemma exists_part (lens : List ℕ) {i : ℕ} (hi : i < lens.sum) :
    ∃ m j, m < lens.length ∧ j < lens.getD m 0 ∧ i = startOf lens m + j := by
  induction lens generalizing i with
  | nil => exact absurd hi (Nat.not_lt_zero i)
  | cons n lens ih =>
    rw [List.sum_cons] at hi
    by_cases hn : i < n
    · exact ⟨0, i, by simp, by simpa using hn, by simp⟩
    · obtain ⟨m, j, hm, hj, heq⟩ := ih (i := i - n) (by omega)
      exact ⟨m + 1, j, by simpa using hm, by simpa using hj, by rw [startOf_cons_succ]; omega⟩

end PrefixSums

/-! ### The values of a concatenation -/

/-- Move the position on one axis. -/
def shiftAxis (a start : ℕ) (index : List ℕ) : List ℕ := index.set a (start + index.getD a 0)

section Values

variable {α : Type} {a : ℕ} {outShape shape index : List ℕ} {inputs : List (DenseInput α)}
  {lens : List ℕ}

lemma getD_set_self {j : ℕ} (ha : a < index.length) : (index.set a j).getD a 0 = j := by
  rw [List.getD_eq_getElem _ _ (by rwa [List.length_set]), List.getElem_set_self]

lemma shiftAxis_set {start j : ℕ} (ha : a < index.length) :
    shiftAxis a start (index.set a j) = index.set a (start + j) := by
  rw [shiftAxis, getD_set_self ha, List.set_set]

/-- A shape that differs from another one on one axis only. -/
def DiffersAt (a : ℕ) (shape other : List ℕ) : Prop := shape = other.set a (shape.getD a 0)

lemma inBounds_shiftAxis {start : ℕ} (ha : a < outShape.length) (h : DiffersAt a shape outShape)
    (hstart : start + shape.getD a 0 ≤ outShape.getD a 0) (hindex : InBounds shape index) :
    InBounds outShape (shiftAxis a start index) := by
  have hlen : shape.length = outShape.length := by
    rw [h, List.length_set]
  have hlt := hindex.getD_lt (a := a) (by omega)
  rw [h] at hindex
  have hset := hindex.set (a := a) (i := start + index.getD a 0) (n := outShape.getD a 0) (by omega)
  rwa [List.set_set, Tensor.set_getD_self ha] at hset

lemma prepareConcat_eq {last : ℕ} (hstrides : ∀ input ∈ inputs, StridesFit input.shape)
    (hlens : inputs.map (fun input => input.shape.getD a 0) = lens)
    (hlt : last + lens.sum < 2 ^ usizeBits) :
    prepareConcat a inputs last =
      .ok (inputs.map fun input => (input.shape, strides input.shape, input.values),
        prefixSums last lens) := by
  induction inputs generalizing last lens with
  | nil =>
    subst hlens
    rfl
  | cons input inputs ih =>
    obtain ⟨hhead, hrest⟩ := List.forall_mem_cons.mp hstrides
    subst hlens
    rw [List.map_cons, List.sum_cons] at hlt
    rw [prepareConcat, rowMajorStrides_eq_ok.mpr ⟨rfl, hhead⟩, ok_bind,
      checkedAdd_of_lt (by omega), okOr_some, ok_bind, ih hrest rfl (by omega), ok_bind]
    rfl

lemma getD_lens {m : ℕ} {input : DenseInput α} (hm : inputs[m]? = some input)
    (hlens : inputs.map (fun input => input.shape.getD a 0) = lens) :
    m < lens.length ∧ lens.getD m 0 = input.shape.getD a 0 := by
  obtain ⟨hmlt, rfl⟩ := List.getElem?_eq_some_iff.mp hm
  have hmLens : m < lens.length := by rwa [← hlens, List.length_map]
  refine ⟨hmLens, ?_⟩
  rw [List.getD_eq_getElem _ _ hmLens]
  simp only [← hlens, List.getElem_map]

/-- The entry at a position of part `m`. -/
lemma concatEntry_eq {m : ℕ} {input : DenseInput α} (hm : inputs[m]? = some input)
    (hlens : inputs.map (fun input => input.shape.getD a 0) = lens)
    (ha : a < input.shape.length) (hvalues : input.values.length = input.shape.prod)
    (hlt : input.shape.prod < 2 ^ usizeBits) (hindex : InBounds input.shape index) :
    ∃ x, concatEntry
      (inputs.map fun input => (input.shape, strides input.shape, input.values))
      (prefixSums 0 lens) a (shiftAxis a (startOf lens m) index) = .ok x ∧
      input.values[ravel input.shape index]? = some x := by
  obtain ⟨hmLens, hlen⟩ := getD_lens hm hlens
  obtain ⟨hmlt, rfl⟩ := List.getElem?_eq_some_iff.mp hm
  have haIndex : a < index.length := by rwa [hindex.length_eq]
  have hpos : (shiftAxis a (startOf lens m) index).getD a 0 = startOf lens m + index.getD a 0 :=
    getD_set_self haIndex
  have hback : (shiftAxis a (startOf lens m) index).set a (startOf lens m + index.getD a 0 -
      startOf lens m) = index := by
    rw [shiftAxis, List.set_set, Nat.add_sub_cancel_left, Tensor.set_getD_self haIndex]
  have hfound := findInput_prefixSums 0 hmLens
    (i := index.getD a 0) (by rw [hlen]; exact hindex.getD_lt ha)
  rw [Nat.zero_add] at hfound
  have hravel : ravel inputs[m].shape index < inputs[m].values.length := by
    rw [hvalues]
    exact ravel_lt hindex
  refine ⟨inputs[m].values[ravel inputs[m].shape index], ?_, List.getElem?_eq_getElem hravel⟩
  rw [concatEntry, hpos, hfound, okOr_some, ok_bind, List.getElem?_map,
    List.getElem?_eq_getElem hmlt, Option.map_some, okOr_some, ok_bind]
  dsimp only
  rw [getD_prefixSums hmLens, Nat.zero_add, hback, linearFromIndices_eq hindex hlt, ok_bind,
    List.getElem?_eq_getElem hravel, okOr_some]

/-- What concatenation does with values. -/
lemma joinsValues_concat {shapes : List (List ℕ)} (ha : a < outShape.length)
    (hlens : shapes.map (fun shape => shape.getD a 0) = lens)
    (hshapes : ∀ shape ∈ shapes, DiffersAt a shape outShape ∧ StridesFit shape ∧
      shape.prod < 2 ^ usizeBits)
    (hsum : lens.sum = outShape.getD a 0) (hlt : lens.sum < 2 ^ usizeBits)
    (hfits : ProductFits outShape) :
    JoinsValues outShape (fun m => shiftAxis a (startOf lens m)) shapes
      fun inputs => concatValues a outShape inputs := by
  intro α inputs hinputs hvalues
  have hlens' : inputs.map (fun input => input.shape.getD a 0) = lens := by
    rw [← hlens, ← hinputs, List.map_map]
    rfl
  have hinput : ∀ m input, inputs[m]? = some input → DiffersAt a input.shape outShape ∧
      StridesFit input.shape ∧ input.shape.prod < 2 ^ usizeBits ∧
      input.values.length = input.shape.prod ∧ a < input.shape.length ∧
      startOf lens m + input.shape.getD a 0 ≤ outShape.getD a 0 := by
    intro m input hm
    have hmem := List.mem_of_getElem? hm
    obtain ⟨hdiffers, hstrides, hprod⟩ := hshapes input.shape
      (hinputs ▸ List.mem_map_of_mem hmem)
    obtain ⟨hmLens, hlen⟩ := getD_lens hm hlens'
    have hle := startOf_add_le hmLens
    rw [hlen, hsum] at hle
    exact ⟨hdiffers, hstrides, hprod, hvalues _ hmem, by rwa [hdiffers, List.length_set], hle⟩
  have hprepare : prepareConcat a inputs 0 =
      .ok (inputs.map fun input => (input.shape, strides input.shape, input.values),
        prefixSums 0 lens) := by
    refine prepareConcat_eq (fun input hmem => ?_) hlens' (by omega)
    obtain ⟨m, hm⟩ := List.mem_iff_getElem?.mp hmem
    exact (hinput m input hm).2.1
  -- every output position is in the range of an input
  have hentry : ∀ index, InBounds outShape index → IsOk (concatEntry
      (inputs.map fun input => (input.shape, strides input.shape, input.values))
      (prefixSums 0 lens) a index) := by
    intro index hindex
    have haIndex : a < index.length := by rwa [hindex.length_eq]
    obtain ⟨m, j, hm, hj, hpos⟩ := exists_part lens (i := index.getD a 0)
      (by rw [hsum]; exact hindex.getD_lt ha)
    have hmlt : m < inputs.length := by rwa [← hlens', List.length_map] at hm
    have hget := List.getElem?_eq_getElem hmlt
    obtain ⟨hdiffers, -, hprod, hvalues', haInput, -⟩ := hinput m _ hget
    rw [(getD_lens hget hlens').2] at hj
    have hpart : InBounds inputs[m].shape (index.set a j) := by
      rw [hdiffers]
      exact hindex.set hj
    obtain ⟨x, hx, -⟩ := concatEntry_eq hget hlens' haInput hvalues' hprod hpart
    rw [shiftAxis_set haIndex, ← hpos, Tensor.set_getD_self haIndex] at hx
    exact ⟨x, hx⟩
  obtain ⟨out, hout, hlen, hwalk⟩ := exists_walk hentry
  refine ⟨out, ?_, hlen, fun m input hm => ?_⟩
  · dsimp only
    rw [concatValues, hprepare, ok_bind]
    dsimp only
    rw [shapeProductUsize_eq_ok.mpr ⟨rfl, hfits⟩, ok_bind, hout]
  · obtain ⟨hdiffers, -, hprod, hvalues', haInput, hle⟩ := hinput m input hm
    refine ⟨hvalues', fun index => inBounds_shiftAxis ha hdiffers hle, fun index hindex => ?_⟩
    obtain ⟨x, hx, hvalue⟩ := concatEntry_eq hm hlens' haInput hvalues' hprod hindex
    rw [hvalue]
    exact (hwalk _ x (inBounds_shiftAxis ha hdiffers hle hindex) hx).symm

end Values

/-! ### Concatenating tensors -/

namespace Tensor

variable {tensors : List Tensor} {axis : Int64} {first out : Tensor} {a : ℕ}

/-- The lengths of the tensors on one axis. -/
def axisLens (a : ℕ) (tensors : List Tensor) : List ℕ := tensors.map fun t => t.dims.getD a 0

/-- The tensors have one dtype and one rank, and differ on one axis at most. -/
structure Agree (a : ℕ) (dtype : DType) (firstShape : List ℕ) (tensors : List Tensor) : Prop where
  dtype_eq : ∀ t ∈ tensors, t.dtype = dtype
  length_eq : ∀ t ∈ tensors, t.dims.length = firstShape.length
  off_axis : ∀ t ∈ tensors, ∀ k < firstShape.length, k ≠ a →
    t.dims.getD k 0 = firstShape.getD k 0

/-- What `concat` needs: an axis in range, tensors that agree off it, and sizes that fit. -/
structure CanConcat (tensors : List Tensor) (axis : Int64) (first : Tensor) (a : ℕ) : Prop where
  head_eq : tensors.head? = some first
  denotes : AxisDenotes first.dims.length axis a
  agree : Agree a first.dtype first.dims tensors
  strides : ∀ t ∈ tensors, StridesFit t.dims
  sum_lt : (axisLens a tensors).sum < 2 ^ usizeBits
  fits : ProductFits (first.dims.set a (axisLens a tensors).sum)

lemma agree_cons {t : Tensor} {dtype : DType} {firstShape : List ℕ} :
    Agree a dtype firstShape (t :: tensors) ↔ (t.dtype = dtype ∧
      t.dims.length = firstShape.length ∧
      ∀ k < firstShape.length, k ≠ a → t.dims.getD k 0 = firstShape.getD k 0) ∧
      Agree a dtype firstShape tensors := by
  constructor
  · rintro ⟨hdtype, hlength, hoff⟩
    rw [List.forall_mem_cons] at hdtype hlength hoff
    exact ⟨⟨hdtype.1, hlength.1, hoff.1⟩, hdtype.2, hlength.2, hoff.2⟩
  · rintro ⟨⟨hdtype, hlength, hoff⟩, hrest⟩
    exact ⟨List.forall_mem_cons.mpr ⟨hdtype, hrest.dtype_eq⟩,
      List.forall_mem_cons.mpr ⟨hlength, hrest.length_eq⟩,
      List.forall_mem_cons.mpr ⟨hoff, hrest.off_axis⟩⟩

lemma concatShapes_eq_ok {dtype : DType} {firstShape : List ℕ} {total : ℕ}
    {result : ℕ × List (List ℕ)} (hvalid : ∀ t ∈ tensors, t.Valid) (htotal : total < 2 ^ usizeBits) :
    concatShapes dtype firstShape a tensors total = .ok result ↔
      Agree a dtype firstShape tensors ∧ total + (axisLens a tensors).sum < 2 ^ usizeBits ∧
      result = (total + (axisLens a tensors).sum, tensors.map dims) := by
  induction tensors generalizing total result with
  | nil =>
    simp only [concatShapes, axisLens, List.map_nil, List.sum_nil, Nat.add_zero, Except.ok.injEq]
    exact ⟨fun h => ⟨⟨by simp, by simp, by simp⟩, htotal, h.symm⟩, fun h => h.2.2.symm⟩
  | cons t tensors ih =>
    obtain ⟨ht, hrest⟩ := List.forall_mem_cons.mp hvalid
    rw [concatShapes, ht.validatedShape_eq, ok_bind, agree_cons, axisLens, List.map_cons,
      List.sum_cons, List.map_cons, bind_eq_ok]
    simp only [failIf_eq_ok, bind_eq_ok, okOr_eq_ok, not_not, exists_const]
    have hoff : (¬ ∃ k ∈ List.range firstShape.length, k ≠ a ∧
        t.dims.getD k 0 ≠ firstShape.getD k 0) ↔ ∀ k < firstShape.length, k ≠ a →
          t.dims.getD k 0 = firstShape.getD k 0 := by
      simp
    constructor
    · rintro ⟨hdtype, hlength, hsame, next, hnext, ⟨total', shapes⟩, h, hresult⟩
      obtain ⟨rfl, hlt⟩ := checkedAdd_eq_some.mp hnext
      obtain ⟨hagree, hsum, heq⟩ := (ih hrest hlt).mp h
      cases heq
      cases hresult
      rw [Nat.add_assoc] at hsum
      exact ⟨⟨⟨hdtype, hlength, hoff.mp hsame⟩, hagree⟩, hsum, by rw [Nat.add_assoc]; rfl⟩
    · rintro ⟨⟨⟨hdtype, hlength, hsame⟩, hagree⟩, hsum, rfl⟩
      have hlt : total + t.dims.getD a 0 < 2 ^ usizeBits := by omega
      refine ⟨hdtype, hlength, hoff.mpr hsame, _, checkedAdd_of_lt hlt, _,
        (ih hrest hlt).mpr ⟨hagree, by rwa [Nat.add_assoc], rfl⟩, ?_⟩
      rw [Nat.add_assoc]
      rfl

lemma Agree.differsAt {dtype : DType} {firstShape : List ℕ} {n : ℕ} {t : Tensor}
    (h : Agree a dtype firstShape tensors) (ht : t ∈ tensors) :
    DiffersAt a t.dims (firstShape.set a n) := by
  have hlen := h.length_eq t ht
  rw [DiffersAt, List.set_set]
  apply List.ext_getElem (by rw [List.length_set, hlen])
  intro k hk hk'
  rw [List.getElem_set]
  by_cases hka : a = k
  · rw [if_pos hka, hka, List.getD_eq_getElem _ _ hk]
  · have hoff := h.off_axis t ht k (by omega) (Ne.symm hka)
    rw [if_neg hka]
    rwa [List.getD_eq_getElem _ _ hk, List.getD_eq_getElem _ _ (by omega)] at hoff

/-- A concatenation that fits is the join of its tensors, one after the other. -/
lemma CanConcat.exists_concat (h : CanConcat tensors axis first a)
    (hvalid : ∀ t ∈ tensors, t.Valid) :
    ∃ out, concat tensors axis = .ok out ∧ out.validate = .ok () ∧ out.dtype = first.dtype ∧
      out.dims = first.dims.set a (axisLens a tensors).sum ∧
      IsJoin out tensors fun m => shiftAxis a (startOf (axisLens a tensors) m) := by
  have hfirst := hvalid first (List.mem_of_mem_head? h.head_eq)
  have ha := h.denotes.1
  have hsum : (axisLens a tensors).sum =
      (first.dims.set a (axisLens a tensors).sum).getD a 0 := (getD_set_self ha).symm
  have hzero : 0 < 2 ^ usizeBits := by decide
  have hshapes := (concatShapes_eq_ok hvalid hzero).mpr
    ⟨h.agree, by rw [Nat.zero_add]; exact h.sum_lt, rfl⟩
  rw [Nat.zero_add] at hshapes
  rw [concat, h.head_eq, okOr_some, ok_bind, hfirst.validatedShape_eq, ok_bind,
    (normalizeAxis_eq_ok hfirst.rank_dims_lt).mpr h.denotes, ok_bind, hshapes, ok_bind]
  refine exists_joined hvalid h.agree.dtype_eq (joinsValues_concat (by rwa [List.length_set]) ?_
    ?_ hsum h.sum_lt h.fits) (hfirst.set_ne_nil _ _) (lt_of_mem_set first.dims_lt h.sum_lt) h.fits
  · rw [List.map_map]
    rfl
  · rw [List.forall_mem_map]
    exact fun t ht => ⟨h.agree.differsAt ht, h.strides t ht, (hvalid t ht).prod_lt⟩

/-! ### When `concat` succeeds -/

lemma stridesFit_of_prepareConcat {α : Type} {inputs : List (DenseInput α)} {last : ℕ}
    {result : List (List ℕ × List ℕ × List α) × List ℕ}
    (h : prepareConcat a inputs last = .ok result) :
    ∀ input ∈ inputs, StridesFit input.shape := by
  induction inputs generalizing last result with
  | nil => simp
  | cons input inputs ih =>
    rw [prepareConcat] at h
    obtain ⟨_, hstrides, h⟩ := bind_eq_ok.mp h
    obtain ⟨_, -, h⟩ := bind_eq_ok.mp h
    obtain ⟨_, hrest, -⟩ := bind_eq_ok.mp h
    exact List.forall_mem_cons.mpr ⟨(rowMajorStrides_eq_ok.mp hstrides).2, ih hrest⟩

lemma map_shape_of_denseInputs {α : Type} {values? : TensorData → Option (List α)}
    {inputs : List (DenseInput α)} (h : denseInputs values? tensors (tensors.map dims) = .ok inputs) :
    inputs.map DenseInput.shape = tensors.map dims := by
  rw [denseInputs, mapM_eq_ok] at h
  induction tensors generalizing inputs with
  | nil =>
    obtain rfl := List.forall₂_nil_left_iff.mp h
    rfl
  | cons t tensors ih =>
    rw [List.map_cons, List.zip_cons_cons] at h
    obtain ⟨input, rest, hinput, hrest, rfl⟩ := List.forall₂_cons_left_iff.mp h
    obtain ⟨_, -, hinput⟩ := bind_eq_ok.mp hinput
    cases hinput
    rw [List.map_cons, List.map_cons, ih hrest]

/-- A join of payloads that succeeds joined inputs of the given shapes. -/
lemma of_joinData_eq_ok {dtype : DType} {data : TensorData}
    {join : {α : Type} → List (DenseInput α) → Result (List α)}
    (h : joinData dtype tensors (tensors.map dims) join = .ok data) :
    ∃ (α : Type) (inputs : List (DenseInput α)) (values : List α),
      inputs.map DenseInput.shape = tensors.map dims ∧ join inputs = .ok values := by
  cases dtype <;>
  · obtain ⟨inputs, hinputs, h⟩ := bind_eq_ok.mp h
    obtain ⟨values, hvalues, -⟩ := map_eq_ok.mp h
    exact ⟨_, inputs, values, map_shape_of_denseInputs hinputs, hvalues⟩

lemma canConcat_of_concat (hvalid : ∀ t ∈ tensors, t.Valid) (h : concat tensors axis = .ok out) :
    ∃ first a, CanConcat tensors axis first a := by
  rw [concat] at h
  obtain ⟨first, hhead, h⟩ := bind_eq_ok.mp h
  have hhead := okOr_eq_ok.mp hhead
  have hfirst := hvalid first (List.mem_of_mem_head? hhead)
  rw [hfirst.validatedShape_eq, ok_bind] at h
  obtain ⟨a, ha, h⟩ := bind_eq_ok.mp h
  obtain ⟨⟨total, shapes⟩, hshapes, h⟩ := bind_eq_ok.mp h
  obtain ⟨hagree, hsum, hresult⟩ := (concatShapes_eq_ok hvalid (by decide)).mp hshapes
  cases hresult
  rw [Nat.zero_add] at hsum h
  obtain ⟨shape, hshape, h⟩ := bind_eq_ok.mp h
  obtain ⟨data, hdata, h⟩ := bind_eq_ok.mp h
  obtain ⟨hlt, rfl⟩ := shapeUsizeToU64_eq_ok.mp hshape
  obtain ⟨rfl, hparts⟩ := tensorFromData_eq_ok.mp h
  obtain ⟨-, -, hfits, -⟩ := validateTensorParts_eq_ok.mp hparts
  rw [shapeU64ToUsize_map hlt] at hfits
  obtain ⟨α, inputs, values, hinputs, hvalues⟩ := of_joinData_eq_ok hdata
  obtain ⟨prepared, hprepared, -⟩ := bind_eq_ok.mp hvalues
  refine ⟨first, a, hhead, (normalizeAxis_eq_ok hfirst.rank_dims_lt).mp ha, hagree,
    fun t ht => ?_, hsum, hfits⟩
  have hmem : t.dims ∈ inputs.map DenseInput.shape := hinputs ▸ List.mem_map_of_mem ht
  obtain ⟨input, hinput, heq⟩ := List.mem_map.mp hmem
  exact heq ▸ stridesFit_of_prepareConcat hprepared input hinput

/-- `concat` succeeds exactly when its tensors can be concatenated. -/
lemma concat_isOk_iff (hvalid : ∀ t ∈ tensors, t.Valid) :
    (∃ out, concat tensors axis = .ok out) ↔ ∃ first a, CanConcat tensors axis first a := by
  constructor
  · rintro ⟨out, h⟩
    exact canConcat_of_concat hvalid h
  · rintro ⟨first, a, h⟩
    obtain ⟨out, hout, -⟩ := h.exists_concat hvalid
    exact ⟨out, hout⟩

/-! ### Splitting -/

section Split

variable {t : Tensor} {sections : List UInt64} {parts : List Tensor}

lemma exists_sliceAxisRange (ht : t.Valid) (hne : t.data.len ≠ 0) (ha : a < t.dims.length)
    {start stop : ℕ} (hstart : start ≤ stop) (hstop : stop ≤ t.dims.getD a 0) :
    ∃ out, t.sliceAxisRangeNormalized t.dims a start stop = .ok out ∧
      t.Gathers out (t.dims.set a (stop - start)) (shiftAxis a start) := by
  have hlt := getD_dims_lt ha
  rw [sliceAxisRangeNormalized, failIf_neg (by omega), ok_bind]
  refine exists_mapTo_replaceAxis ht (ht.stridesFit hne) ha _ _ _ (fun i hi => ⟨?_, by omega⟩)
    (by omega) ?_
  · rw [checkedAdd_of_lt (by rw [usizeBits]; omega), okOr_some]
  · rw [productFits_set (ht.zero_notMem hne) ht.prod_lt]
    exact (prod_set_le_of_le ha (by omega)).trans_lt ht.prod_lt

/-- The slices of the sections, from `start` on. -/
lemma exists_splitFrom (ht : t.Valid) (hne : t.data.len ≠ 0) (ha : a < t.dims.length) (start : ℕ)
    (hle : start + (sections.map UInt64.toNat).sum ≤ t.dims.getD a 0) :
    ∃ parts, t.splitFrom t.dims a sections start = .ok parts ∧
      parts.length = sections.length ∧ ∀ m p, parts[m]? = some p →
        t.Gathers p (t.dims.set a ((sections.map UInt64.toNat).getD m 0))
          (shiftAxis a (start + startOf (sections.map UInt64.toNat) m)) := by
  induction sections generalizing start with
  | nil => exact ⟨[], rfl, rfl, fun m p h => by simp at h⟩
  | cons len sections ih =>
    rw [List.map_cons, List.sum_cons] at hle
    have hlt := getD_dims_lt ha
    obtain ⟨part, hpart, hgathers⟩ := exists_sliceAxisRange ht hne ha (Nat.le_add_right start len.toNat) (by omega)
    obtain ⟨parts, hparts, hlen, hrest⟩ := ih (start + len.toNat)
      (by rw [Nat.add_assoc]; exact hle)
    refine ⟨part :: parts, ?_, by rw [List.length_cons, List.length_cons, hlen], ?_⟩
    · rw [splitFrom, checkedAdd_of_lt (by rw [usizeBits]; omega), okOr_some, ok_bind, hpart,
        ok_bind, hparts]
      rfl
    · rintro (_ | m) p hp
      · cases hp
        rwa [Nat.add_sub_cancel_left] at hgathers
      · have hgathers' := hrest m p hp
        rwa [Nat.add_assoc] at hgathers'

lemma foldlM_checkedAdd {e : TioError} {acc : ℕ}
    (h : acc + (sections.map UInt64.toNat).sum < 2 ^ usizeBits) :
    sections.foldlM (fun acc value => okOr (checkedAdd usizeBits acc value.toNat) e) acc =
      .ok (acc + (sections.map UInt64.toNat).sum) := by
  induction sections generalizing acc with
  | nil => rfl
  | cons value sections ih =>
    rw [List.map_cons, List.sum_cons] at h ⊢
    rw [List.foldlM_cons, checkedAdd_of_lt (by omega), okOr_some, ok_bind, ih (by omega),
      Nat.add_assoc]

/-- Sections that sum to the axis length split the tensor. -/
lemma exists_split (ht : t.Valid) (hne : t.data.len ≠ 0)
    (haxis : AxisDenotes t.dims.length axis a) (hsections : sections ≠ [])
    (hsum : (sections.map UInt64.toNat).sum = t.dims.getD a 0) :
    ∃ parts, t.split axis sections = .ok parts ∧ parts.length = sections.length ∧
      ∀ m p, parts[m]? = some p →
        t.Gathers p (t.dims.set a ((sections.map UInt64.toNat).getD m 0))
          (shiftAxis a (startOf (sections.map UInt64.toNat) m)) := by
  have hlt := getD_dims_lt haxis.1
  obtain ⟨parts, hparts, hlen, hall⟩ := exists_splitFrom ht hne haxis.1 0
    (by rw [Nat.zero_add, hsum])
  simp only [Nat.zero_add] at hall
  refine ⟨parts, ?_, hlen, hall⟩
  rw [split, failIf_neg hsections, ok_bind, ht.validatedShape_eq, ok_bind,
    (normalizeAxis_eq_ok ht.rank_dims_lt).mpr haxis, ok_bind,
    foldlM_checkedAdd (by rw [usizeBits]; omega), ok_bind, Nat.zero_add,
    failIf_neg (not_not.mpr hsum), ok_bind, hparts]

end Split

end Tensor

end ArcadiaTio.Tio
