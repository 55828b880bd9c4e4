import ArcadiaTio.Tensor.Split

/-!
# Stacking and unstacking

Stacking inserts an axis, whose position names the input; unstacking takes one position of an axis
and removes the axis.  Both relate the whole to its parts by `IsJoin`, part `m` sitting at the
multi-indices with `m` inserted.
-/

namespace ArcadiaTio.Tio

open ArcadiaTio.Lib ArcadiaTio.Lib.RowMajor

/-! ### Inserting and removing an axis -/

section Axis

variable {shape index : List ℕ} {a m n : ℕ}

lemma inBounds_insertIdx (h : InBounds shape index) (hm : m < n) :
    InBounds (shape.insertIdx a n) (index.insertIdx a m) := by
  induction h generalizing a with
  | nil =>
    cases a with
    | zero => exact List.Forall₂.cons hm List.Forall₂.nil
    | succ a => exact List.Forall₂.nil
  | cons hhead hrest ih =>
    cases a with
    | zero => exact List.Forall₂.cons hm (List.Forall₂.cons hhead hrest)
    | succ a => exact List.Forall₂.cons hhead ih

lemma inBounds_eraseIdx (h : InBounds shape index) :
    InBounds (shape.eraseIdx a) (index.eraseIdx a) := by
  induction h generalizing a with
  | nil => exact List.Forall₂.nil
  | cons hhead hrest ih =>
    cases a with
    | zero => exact hrest
    | succ a => exact List.Forall₂.cons hhead ih

lemma getD_insertIdx_self (ha : a ≤ index.length) : (index.insertIdx a m).getD a 0 = m := by
  rw [List.getD_eq_getElem _ _ (by rw [List.length_insertIdx, if_pos ha]; omega),
    List.getElem_insertIdx_self]

lemma insertIdx_eraseIdx_getD (ha : a < index.length) :
    (index.eraseIdx a).insertIdx a (index.getD a 0) = index := by
  rw [List.getD_eq_getElem _ _ ha, List.insertIdx_eraseIdx_getElem ha]

lemma prod_insertIdx (ha : a ≤ shape.length) : (shape.insertIdx a n).prod = n * shape.prod := by
  induction shape generalizing a with
  | nil =>
    obtain rfl : a = 0 := Nat.le_zero.mp ha
    rfl
  | cons k shape ih =>
    cases a with
    | zero => rw [List.insertIdx_zero, List.prod_cons]
    | succ a =>
      rw [List.insertIdx_succ_cons, List.prod_cons, ih (by simpa using ha), List.prod_cons]
      ring

/-- An axis of length one does not change the numbers. -/
lemma ravel_insertIdx_one (ha : a ≤ shape.length) (hlen : index.length = shape.length) :
    ravel (shape.insertIdx a 1) (index.insertIdx a 0) = ravel shape index := by
  induction shape generalizing a index with
  | nil =>
    obtain rfl : a = 0 := Nat.le_zero.mp ha
    obtain rfl : index = [] := List.length_eq_zero_iff.mp hlen
    rfl
  | cons k shape ih =>
    obtain _ | ⟨i, index⟩ := index
    · simp at hlen
    cases a with
    | zero => rw [List.insertIdx_zero, List.insertIdx_zero, ravel, Nat.zero_mul, Nat.zero_add]
    | succ a =>
      rw [List.length_cons] at ha hlen
      rw [List.insertIdx_succ_cons, List.insertIdx_succ_cons, ravel, ravel,
        ih (by omega) (by rw [List.length_cons] at hlen; omega), prod_insertIdx (by omega),
        Nat.one_mul]

lemma prod_eraseIdx_le (hpos : 0 < shape.getD a 0) : (shape.eraseIdx a).prod ≤ shape.prod := by
  have ha : a < shape.length := by
    by_contra hout
    rw [List.getD_eq_default _ _ (by omega)] at hpos
    exact lt_irrefl 0 hpos
  conv_rhs => rw [← insertIdx_eraseIdx_getD ha]
  rw [prod_insertIdx (by rw [List.length_eraseIdx, if_pos ha]; omega)]
  exact Nat.le_mul_of_pos_left _ hpos

lemma stridesFit_cons : StridesFit (n :: shape) ↔ shape.prod < 2 ^ usizeBits ∧ StridesFit shape := by
  constructor
  · intro h
    exact ⟨h shape (List.suffix_refl _), fun suf hsuf =>
      h suf (hsuf.trans (List.tail_suffix shape))⟩
  · rintro ⟨hprod, h⟩ suf hsuf
    cases shape with
    | nil =>
      obtain rfl : suf = [] := List.suffix_nil.mp hsuf
      exact hprod
    | cons k shape =>
      rcases List.suffix_cons_iff.mp hsuf with rfl | hsuf
      · exact hprod
      · exact h suf hsuf

lemma StridesFit.eraseIdx (h : StridesFit shape) (hpos : 0 < shape.getD a 0) :
    StridesFit (shape.eraseIdx a) := by
  induction shape generalizing a with
  | nil => exact h
  | cons k shape ih =>
    obtain ⟨hprod, hrest⟩ := stridesFit_cons.mp h
    cases a with
    | zero => exact hrest
    | succ a =>
      rw [List.getD_cons_succ] at hpos
      exact stridesFit_cons.mpr ⟨(prod_eraseIdx_le hpos).trans_lt hprod, ih hrest hpos⟩

lemma ProductFits.eraseIdx (h : ProductFits shape) (hpos : 0 < shape.getD a 0) :
    ProductFits (shape.eraseIdx a) := by
  have ha : a < shape.length := by
    by_contra hout
    rw [List.getD_eq_default _ _ (by omega)] at hpos
    exact lt_irrefl 0 hpos
  have htake : (shape.take a).length = a := by
    rw [List.length_take]
    omega
  intro pre hpre
  rw [List.eraseIdx_eq_take_drop_succ] at hpre
  rcases le_total pre.length a with hle | hle
  · have hhead : pre <+: shape.take a :=
      List.prefix_of_prefix_length_le hpre (List.prefix_append _ _) (by rwa [htake])
    exact h pre (hhead.trans (List.take_prefix _ _))
  · -- the prefix of the whole shape has one factor more
    have hhead : shape.take a <+: pre :=
      List.prefix_of_prefix_length_le (List.prefix_append _ _) hpre (by rwa [htake])
    obtain ⟨rest, rfl⟩ := hhead
    rw [List.prefix_append_right_inj] at hpre
    have hwhole : shape.take a ++ shape[a] :: rest <+: shape := by
      conv_rhs => rw [← List.take_append_drop a shape, List.drop_eq_getElem_cons ha]
      rw [List.prefix_append_right_inj, List.prefix_cons_inj]
      exact hpre
    refine lt_of_le_of_lt ?_ (h _ hwhole)
    rw [List.prod_append, List.prod_append, List.prod_cons]
    rw [List.getD_eq_getElem _ _ ha] at hpos
    exact Nat.mul_le_mul_left _ (Nat.le_mul_of_pos_left _ hpos)

end Axis

/-! ### The values of a stack -/

section Values

variable {α : Type} {a : ℕ} {shape : List ℕ}

lemma stackEntry_eq {m : ℕ} {input : DenseInput α} {inputs : List (DenseInput α)} {index : List ℕ}
    (hm : inputs[m]? = some input) (hvalues : input.values.length = shape.prod)
    (ha : a ≤ shape.length) (hlt : shape.prod < 2 ^ usizeBits) (hindex : InBounds shape index) :
    ∃ x, stackEntry inputs shape (strides shape) a (index.insertIdx a m) = .ok x ∧
      input.values[ravel shape index]? = some x := by
  have hravel : ravel shape index < input.values.length := by
    rw [hvalues]
    exact ravel_lt hindex
  refine ⟨input.values[ravel shape index], ?_, List.getElem?_eq_getElem hravel⟩
  rw [stackEntry, getD_insertIdx_self (by rwa [hindex.length_eq]), hm, okOr_some, ok_bind,
    List.eraseIdx_insertIdx_self, linearFromIndices_eq hindex hlt, ok_bind,
    List.getElem?_eq_getElem hravel, okOr_some]

/-- What stacking does with values. -/
lemma joinsValues_stack {shapes : List (List ℕ)} {n : ℕ} (hn : shapes.length = n)
    (hne : shapes ≠ []) (ha : a ≤ shape.length) (hshapes : ∀ s ∈ shapes, s = shape)
    (hstrides : StridesFit shape) (hlt : shape.prod < 2 ^ usizeBits)
    (hfits : ProductFits (shape.insertIdx a n)) :
    JoinsValues (shape.insertIdx a n) (fun m index => index.insertIdx a m) shapes
      fun inputs => stackValues a (shape.insertIdx a n) inputs := by
  intro α inputs hinputs hvalues
  have hlen : inputs.length = n := by rw [← hn, ← hinputs, List.length_map]
  have hinput : ∀ m input, inputs[m]? = some input → input.shape = shape ∧ m < n ∧
      input.values.length = shape.prod := by
    intro m input hm
    have hmem := List.mem_of_getElem? hm
    have hshape := hshapes _ (hinputs ▸ List.mem_map_of_mem hmem)
    obtain ⟨hmlt, -⟩ := List.getElem?_eq_some_iff.mp hm
    exact ⟨hshape, by omega, by rw [hvalues _ hmem, hshape]⟩
  -- every index of the result finds its entry in the input that it counts
  have hentry : ∀ index, InBounds (shape.insertIdx a n) index →
      IsOk (stackEntry inputs shape (strides shape) a index) := by
    intro index hindex
    have hrank : (shape.insertIdx a n).length = shape.length + 1 := by
      rw [List.length_insertIdx, if_pos ha]
    have haIndex : a < index.length := by
      rw [hindex.length_eq]
      omega
    have hpos := hindex.getD_lt (a := a) (by omega)
    rw [getD_insertIdx_self ha] at hpos
    have hpart := inBounds_eraseIdx (a := a) hindex
    rw [List.eraseIdx_insertIdx_self] at hpart
    have hget := List.getElem?_eq_getElem (l := inputs) (i := index.getD a 0) (by omega)
    obtain ⟨x, hx, -⟩ := stackEntry_eq hget (hinput _ _ hget).2.2 ha hlt hpart
    rw [insertIdx_eraseIdx_getD haIndex] at hx
    exact ⟨x, hx⟩
  obtain ⟨out, hout, hlenOut, hwalk⟩ := exists_walk hentry
  obtain ⟨first, rest, rfl⟩ : ∃ first rest, inputs = first :: rest := by
    cases inputs with
    | nil => exact absurd hinputs.symm hne
    | cons first rest => exact ⟨first, rest, rfl⟩
  have hfirst := (hinput 0 first rfl).1
  refine ⟨out, ?_, hlenOut, fun m input hm => ?_⟩
  · dsimp only
    rw [stackValues, List.head?_cons, okOr_some, ok_bind, hfirst,
      rowMajorStrides_eq_ok.mpr ⟨rfl, hstrides⟩, ok_bind,
      shapeProductUsize_eq_ok.mpr ⟨rfl, hfits⟩, ok_bind, hout]
  · obtain ⟨hshape, hmlt, hlenValues⟩ := hinput m input hm
    rw [hshape]
    refine ⟨hlenValues, fun index hindex => inBounds_insertIdx hindex hmlt, fun index hindex => ?_⟩
    obtain ⟨x, hx, hvalue⟩ := stackEntry_eq hm hlenValues ha hlt hindex
    rw [hvalue]
    exact (hwalk _ x (inBounds_insertIdx hindex hmlt) hx).symm

end Values

/-! ### Stacking tensors -/

namespace Tensor

variable {tensors : List Tensor} {axis : Int64} {first out : Tensor} {a : ℕ}

/-- What `stack` needs: an insert axis in range, tensors of one dtype and shape, and sizes that
fit. -/
structure CanStack (tensors : List Tensor) (axis : Int64) (first : Tensor) (a : ℕ) : Prop where
  head_eq : tensors.head? = some first
  denotes : InsertAxisDenotes first.dims.length axis a
  dtype_eq : ∀ t ∈ tensors, t.dtype = first.dtype
  dims_eq : ∀ t ∈ tensors, t.dims = first.dims
  strides : StridesFit first.dims
  length_lt : tensors.length < 2 ^ 64
  fits : ProductFits (first.dims.insertIdx a tensors.length)

lemma stackShapes_eq_ok {dtype : DType} {firstShape : List ℕ} {shapes : List (List ℕ)}
    (hvalid : ∀ t ∈ tensors, t.Valid) :
    stackShapes dtype firstShape tensors = .ok shapes ↔
      (∀ t ∈ tensors, t.dtype = dtype) ∧ (∀ t ∈ tensors, t.dims = firstShape) ∧
      shapes = tensors.map dims := by
  rw [stackShapes, mapM_eq_ok]
  induction tensors generalizing shapes with
  | nil => simp
  | cons t tensors ih =>
    obtain ⟨ht, hrest⟩ := List.forall_mem_cons.mp hvalid
    rw [List.forall₂_cons_left_iff, List.forall_mem_cons, List.forall_mem_cons, List.map_cons,
      ht.validatedShape_eq]
    constructor
    · rintro ⟨shape, rest, hhead, htail, rfl⟩
      simp only [ok_bind, bind_eq_ok, failIf_eq_ok, not_not, exists_const, pure_eq_ok,
        Except.ok.injEq] at hhead
      obtain ⟨hdtype, hdims, rfl⟩ := hhead
      obtain ⟨hdtypes, hall, rfl⟩ := (ih hrest).mp htail
      exact ⟨⟨hdtype, hdtypes⟩, ⟨hdims, hall⟩, rfl⟩
    · rintro ⟨⟨hdtype, hdtypes⟩, ⟨hdims, hall⟩, rfl⟩
      refine ⟨_, _, ?_, (ih hrest).mpr ⟨hdtypes, hall, rfl⟩, rfl⟩
      rw [ok_bind, failIf_neg (not_not.mpr hdtype), ok_bind, failIf_neg (not_not.mpr hdims)]
      rfl

lemma mem_insertIdx_lt {shape : List ℕ} {n : ℕ} (h : ∀ k ∈ shape, k < 2 ^ 64) (hn : n < 2 ^ 64) :
    ∀ k ∈ shape.insertIdx a n, k < 2 ^ 64 := by
  intro k hk
  rcases List.eq_or_mem_of_mem_insertIdx hk with rfl | hk
  · exact hn
  · exact h k hk

/-- A stack that fits is the join of its tensors on the new axis. -/
lemma CanStack.exists_stack (h : CanStack tensors axis first a) (hvalid : ∀ t ∈ tensors, t.Valid) :
    ∃ out, stack tensors axis = .ok out ∧ out.validate = .ok () ∧ out.dtype = first.dtype ∧
      out.dims = first.dims.insertIdx a tensors.length ∧
      IsJoin out tensors fun m index => index.insertIdx a m := by
  have hfirst := hvalid first (List.mem_of_mem_head? h.head_eq)
  have ha := h.denotes.1
  have hmap : (tensors.map dims).length = tensors.length := List.length_map _
  have htensors : tensors.map dims ≠ [] := by
    intro hnil
    rw [List.map_eq_nil_iff.mp hnil] at h
    exact absurd h.head_eq (by simp)
  rw [stack, h.head_eq, okOr_some, ok_bind, hfirst.validatedShape_eq, ok_bind,
    (normalizeInsertAxis_eq_ok hfirst.rank_dims_lt).mpr h.denotes, ok_bind,
    (stackShapes_eq_ok hvalid).mpr ⟨h.dtype_eq, h.dims_eq, rfl⟩, ok_bind]
  refine exists_joined hvalid h.dtype_eq ?_ ?_ (mem_insertIdx_lt first.dims_lt h.length_lt) h.fits
  · exact joinsValues_stack hmap htensors ha (by rw [List.forall_mem_map]; exact h.dims_eq)
      h.strides hfirst.prod_lt h.fits
  · rw [← List.length_pos_iff, List.length_insertIdx, if_pos ha]
    omega

lemma canStack_of_stack (hvalid : ∀ t ∈ tensors, t.Valid) (h : stack tensors axis = .ok out) :
    ∃ first a, CanStack tensors axis first a := by
  rw [stack] at h
  obtain ⟨first, hhead, h⟩ := bind_eq_ok.mp h
  have hhead := okOr_eq_ok.mp hhead
  have hfirst := hvalid first (List.mem_of_mem_head? hhead)
  rw [hfirst.validatedShape_eq, ok_bind] at h
  obtain ⟨a, ha, h⟩ := bind_eq_ok.mp h
  have ha := (normalizeInsertAxis_eq_ok hfirst.rank_dims_lt).mp ha
  obtain ⟨shapes, hshapes, h⟩ := bind_eq_ok.mp h
  obtain ⟨hdtypes, hdims, rfl⟩ := (stackShapes_eq_ok hvalid).mp hshapes
  obtain ⟨shape, hshape, h⟩ := bind_eq_ok.mp h
  obtain ⟨data, hdata, h⟩ := bind_eq_ok.mp h
  obtain ⟨hlt, rfl⟩ := shapeUsizeToU64_eq_ok.mp hshape
  obtain ⟨rfl, hparts⟩ := tensorFromData_eq_ok.mp h
  obtain ⟨-, -, hfits, -⟩ := validateTensorParts_eq_ok.mp hparts
  rw [shapeU64ToUsize_map hlt] at hfits
  obtain ⟨α, inputs, values, hinputs, hvalues⟩ := of_joinData_eq_ok hdata
  obtain ⟨input, hinput, hvalues⟩ := bind_eq_ok.mp hvalues
  obtain ⟨_, hstrides, -⟩ := bind_eq_ok.mp hvalues
  have hshape : input.shape = first.dims := by
    have hmem : input.shape ∈ tensors.map dims :=
      hinputs ▸ List.mem_map_of_mem (List.mem_of_mem_head? (okOr_eq_ok.mp hinput))
    obtain ⟨t, ht, heq⟩ := List.mem_map.mp hmem
    rw [← heq, hdims t ht]
  refine ⟨first, a, hhead, ha, hdtypes, hdims, ?_, hlt _ ?_, hfits⟩
  · rw [← hshape]
    exact (rowMajorStrides_eq_ok.mp hstrides).2
  · exact (List.mem_insertIdx ha.1).mpr (Or.inl rfl)

/-- `stack` succeeds exactly when its tensors can be stacked. -/
lemma stack_isOk_iff (hvalid : ∀ t ∈ tensors, t.Valid) :
    (∃ out, stack tensors axis = .ok out) ↔ ∃ first a, CanStack tensors axis first a := by
  constructor
  · rintro ⟨out, h⟩
    exact canStack_of_stack hvalid h
  · rintro ⟨first, a, h⟩
    obtain ⟨out, hout, -⟩ := h.exists_stack hvalid
    exact ⟨out, hout⟩

/-! ### Unstacking -/

section Unstack

variable {t : Tensor} {parts : List Tensor}

/-- Removing an axis of length one keeps the elements. -/
lemma exists_squeezeAxis (hvalid : t.validate = .ok ()) (ha : a < t.dims.length)
    (hrank : t.dims.length < 2 ^ 63) (htwo : t.dims.length ≠ 1) (hone : t.dims.getD a 0 = 1) :
    ∃ out, t.squeezeAxis (Int64.ofInt a) = .ok out ∧
      t.Gathers out (t.dims.eraseIdx a) fun index => index.insertIdx a 0 := by
  have hlen : t.dims.length = t.shape.length := t.length_dims
  obtain ⟨-, hdtype, hfits, hcount⟩ := validateTensorParts_eq_ok.mp hvalid
  have herase : shapeU64ToUsize (t.shape.eraseIdx a) = t.dims.eraseIdx a := by
    rw [shapeU64ToUsize, ← List.eraseIdx_map, dims, shapeU64ToUsize]
  have hwhole : (t.dims.eraseIdx a).insertIdx a 1 = t.dims := by
    rw [← hone, insertIdx_eraseIdx_getD ha]
  have hrankErase : a ≤ (t.dims.eraseIdx a).length := by
    rw [List.length_eraseIdx, if_pos ha]
    omega
  have hne : t.shape.eraseIdx a ≠ [] := by
    rw [ne_eq, ← List.length_eq_zero_iff, List.length_eraseIdx, if_pos (by omega)]
    omega
  have hword : t.shape.getD a 0 = 1 := by
    rw [List.getD_eq_getElem _ _ (by omega)] at hone ⊢
    simp only [dims, shapeU64ToUsize, List.getElem_map] at hone
    exact UInt64.toNat_inj.mp hone
  -- an axis of length one does not change the number of elements
  have hprod : (t.dims.eraseIdx a).prod = t.dims.prod := by
    conv_rhs => rw [← hwhole, prod_insertIdx hrankErase, Nat.one_mul]
  have hpos : 0 < t.dims.getD a 0 := by
    rw [hone]
    exact Nat.one_pos
  have hparts : validateTensorParts t.dtype (t.shape.eraseIdx a) t.data = .ok () := by
    rw [validateTensorParts_eq_ok, herase, hprod]
    exact ⟨hne, hdtype, hfits.eraseIdx hpos, hcount⟩
  refine ⟨⟨t.dtype, t.shape.eraseIdx a, t.data⟩, ?_, hparts, rfl, herase, fun index hindex => ?_,
    fun index hindex => ?_⟩
  · have haxis := (normalizeAxis_eq_ok hrank).mpr (denotes_ofInt ha hrank)
    rw [hlen] at haxis
    rw [squeezeAxis, hvalid, ok_bind, haxis, ok_bind, failIf_neg (not_not.mpr hword), ok_bind]
    dsimp only
    rw [failIf_neg hne, ok_bind, tensorFromData, hparts]
    rfl
  · have hins := inBounds_insertIdx (a := a) (m := 0) (n := 1) hindex Nat.one_pos
    rwa [hwhole] at hins
  · have hravel := ravel_insertIdx_one hrankErase hindex.length_eq
    rw [hwhole] at hravel
    rw [element, element, hravel, dims, herase]

/-- One part of `unstack`. -/
lemma exists_unstackPart (ht : t.Valid) (hstrides : StridesFit t.dims) (ha : a < t.dims.length)
    (htwo : t.dims.length ≠ 1) {m : ℕ} (hm : m < t.dims.getD a 0) :
    ∃ p, (do
        let indexed ← t.takeAxisNormalized t.dims a [m]
        indexed.squeezeAxis (Int64.ofInt a)) = .ok p ∧
      t.Gathers p (t.dims.eraseIdx a) fun index => index.insertIdx a m := by
  have hone : ProductFits (t.dims.set a 1) :=
    ht.productFits.mono (forall₂_set_le (by omega))
  obtain ⟨indexed, hgathers⟩ := exists_gathers ht (f := fun index => index.set a m)
    (ht.set_ne_nil a 1) (lt_of_mem_set t.dims_lt (by decide)) hone fun index hindex => by
      have hset := hindex.set (a := a) (i := m) hm
      rwa [List.set_set, set_getD_self ha] at hset
  have hsource : ∀ index, InBounds (t.dims.set a 1) index →
      index.set a m = index.set a ([m].getD (index.getD a 0) 0) := by
    intro index hindex
    have hzero := hindex.getD_set_lt ha
    rw [Nat.lt_one_iff.mp hzero]
    rfl
  have hindexed : t.takeAxisNormalized t.dims a [m] = .ok indexed :=
    (takeAxisNormalized_iff ht hstrides ha).mpr
      ⟨⟨by simpa using hm, by rw [List.length_singleton]; decide, hone⟩, hgathers.congr hsource⟩
  have hdims := hgathers.dims_eq
  have hlen : indexed.dims.length = t.dims.length := by rw [hdims, List.length_set]
  have hrank := ht.rank_dims_lt
  -- the part is the taken entry of the axis, with that axis of length one squeezed out
  obtain ⟨p, hp, hsqueeze⟩ := exists_squeezeAxis hgathers.valid (a := a) (by omega) (by omega)
    (by omega) (by rw [hdims, getD_set_self ha])
  have herase : indexed.dims.eraseIdx a = t.dims.eraseIdx a := by
    rw [hdims, List.eraseIdx_set_eq]
  rw [herase] at hsqueeze
  have hsources : ∀ index, InBounds (t.dims.eraseIdx a) index →
      (index.insertIdx a 0).set a m = index.insertIdx a m := by
    intro index hindex
    have hlenIndex : a ≤ index.length := by
      rw [hindex.length_eq, List.length_eraseIdx, if_pos ha]
      omega
    apply List.ext_getElem (by rw [List.length_set, List.length_insertIdx, List.length_insertIdx])
    intro k hk hk'
    rw [List.getElem_set, List.getElem_insertIdx]
    by_cases hak : a = k
    · subst hak
      rw [if_pos rfl, List.getElem_insertIdx_self]
    · rw [if_neg hak, List.getElem_insertIdx]
      simp only [dif_neg (Ne.symm hak)]
  refine ⟨p, by rw [hindexed, ok_bind, hp], hsqueeze.valid, ?_, hsqueeze.dims_eq,
    fun index hindex => ?_, fun index hindex => ?_⟩
  · rw [hsqueeze.dtype_eq, hgathers.dtype_eq]
  · rw [← hsources index hindex]
    exact hgathers.inBounds _ (hdims ▸ hsqueeze.inBounds index hindex)
  · rw [hsqueeze.element_eq index hindex, hgathers.element_eq _
      (hdims ▸ hsqueeze.inBounds index hindex), hsources index hindex]

lemma exists_mapM {α β : Type} {l : List α} {f : α → Result β} {P : α → β → Prop}
    (h : ∀ x ∈ l, ∃ y, f x = .ok y ∧ P x y) :
    ∃ out, l.mapM f = .ok out ∧ List.Forall₂ P l out := by
  induction l with
  | nil => exact ⟨[], rfl, List.Forall₂.nil⟩
  | cons x l ih =>
    obtain ⟨⟨y, hy, hP⟩, hrest⟩ := List.forall_mem_cons.mp h
    obtain ⟨out, hout, hall⟩ := ih hrest
    refine ⟨y :: out, ?_, List.Forall₂.cons hP hall⟩
    rw [List.mapM_cons, hy, ok_bind, hout]
    rfl

lemma exists_unstack (ht : t.Valid) (hstrides : StridesFit t.dims)
    (haxis : AxisDenotes t.dims.length axis a) (htwo : t.dims.length ≠ 1) :
    ∃ parts, t.unstack axis = .ok parts ∧ parts.length = t.dims.getD a 0 ∧
      ∀ m p, parts[m]? = some p →
        t.Gathers p (t.dims.eraseIdx a) fun index => index.insertIdx a m := by
  obtain ⟨parts, hparts, hall⟩ := exists_mapM (l := List.range (t.dims.getD a 0)) fun m hm =>
    exists_unstackPart ht hstrides haxis.1 htwo (List.mem_range.mp hm)
  refine ⟨parts, ?_, by rw [← hall.length_eq, List.length_range], fun m p hp => ?_⟩
  · rw [unstack, ht.validatedShape_eq, ok_bind, failIf_neg htwo, ok_bind,
      (normalizeAxis_eq_ok ht.rank_dims_lt).mpr haxis, ok_bind]
    exact hparts
  · obtain ⟨hm, rfl⟩ := List.getElem?_eq_some_iff.mp hp
    have hget := (List.forall₂_iff_get.mp hall).2 m (by rw [hall.length_eq]; exact hm) hm
    simpa only [List.get_eq_getElem, List.getElem_range] using hget

/-- Unstacking a stack gives the tensors back. -/
lemma unstack_stack {axis' : Int64} (hvalid : ∀ t ∈ tensors, t.Valid)
    (h : stack tensors axis = .ok out) (hout : out.Valid) (hstrides : StridesFit out.dims)
    (hinsert : InsertAxisDenotes (out.dims.length - 1) axis a)
    (haxis : AxisDenotes out.dims.length axis' a) : out.unstack axis' = .ok tensors := by
  obtain ⟨first, b, hcan⟩ := canStack_of_stack hvalid h
  obtain ⟨out', hout', -, -, hdims, hjoin⟩ := hcan.exists_stack hvalid
  obtain rfl : out' = out := Except.ok.inj (hout'.symm.trans h)
  have hfirst := hvalid first (List.mem_of_mem_head? hcan.head_eq)
  have hrank := List.length_pos_iff.mpr hfirst.dims_ne_nil
  have hlength : out'.dims.length = first.dims.length + 1 := by
    rw [hdims, List.length_insertIdx, if_pos hcan.denotes.1]
  obtain rfl : b = a := by
    have hb := hcan.denotes
    rw [hlength, Nat.add_sub_cancel] at hinsert
    unfold InsertAxisDenotes at hb hinsert
    omega
  obtain ⟨parts, hparts, hlen, hall⟩ := exists_unstack hout hstrides haxis (by omega)
  have herase : out'.dims.eraseIdx b = first.dims := by rw [hdims, List.eraseIdx_insertIdx_self]
  have hcount : parts.length = tensors.length := by
    rw [hlen, hdims, getD_insertIdx_self hcan.denotes.1]
  have hpartDims : ∀ p ∈ parts, p.dims = first.dims := by
    intro p hp
    obtain ⟨m, hm⟩ := List.mem_iff_getElem?.mp hp
    rw [(hall m p hm).dims_eq, herase]
  have hpartJoin : IsJoin out' parts fun m index => index.insertIdx b m := by
    intro m p hp
    rw [hpartDims p (List.mem_of_getElem? hp), ← herase]
    exact hall m p hp
  rw [hparts, hpartJoin.parts_unique hjoin ?_]
  rw [List.map_congr_left hpartDims, List.map_congr_left hcan.dims_eq, List.map_const',
    List.map_const', hcount]

/-- Stacking the parts of a tensor along the axis they come from gives it back. -/
lemma stack_unstack (ht : t.Valid) (hstrides : StridesFit t.dims)
    (haxis : AxisDenotes t.dims.length axis a) (htwo : 2 ≤ t.dims.length)
    (hpos : t.dims.getD a 0 ≠ 0) :
    ∃ parts, t.unstack axis = .ok parts ∧ stack parts axis = .ok t := by
  have ha := haxis.1
  have hpos : 0 < t.dims.getD a 0 := Nat.pos_of_ne_zero hpos
  have hrank := ht.rank_dims_lt
  have hlength : (t.dims.eraseIdx a).length = t.dims.length - 1 := by
    rw [List.length_eraseIdx, if_pos ha]
  have hwhole : (t.dims.eraseIdx a).insertIdx a (t.dims.getD a 0) = t.dims :=
    insertIdx_eraseIdx_getD ha
  obtain ⟨parts, hparts, hlen, hall⟩ := exists_unstack ht hstrides haxis (by omega)
  refine ⟨parts, hparts, ?_⟩
  have hpart : ∀ p ∈ parts, p.Valid ∧ p.dtype = t.dtype ∧ p.dims = t.dims.eraseIdx a := by
    intro p hp
    obtain ⟨m, hm⟩ := List.mem_iff_getElem?.mp hp
    have hgathers := hall m p hm
    exact ⟨hgathers.valid_of_le ht (by omega) (prod_eraseIdx_le hpos), hgathers.dtype_eq,
      hgathers.dims_eq⟩
  -- the parts are cut from the tensor, so the tensor joins them
  have hjoin : IsJoin t parts fun m index => index.insertIdx a m := by
    intro m p hp
    have hgathers := hall m p hp
    rwa [← hgathers.dims_eq] at hgathers
  obtain ⟨first, rest, rfl⟩ : ∃ first rest, parts = first :: rest := by
    cases parts with
    | nil =>
      rw [List.length_nil] at hlen
      omega
    | cons first rest => exact ⟨first, rest, rfl⟩
  obtain ⟨-, hdtype, hdims⟩ := hpart first List.mem_cons_self
  have hcan : CanStack (first :: rest) axis first a := by
    refine ⟨rfl, ?_, fun p hp => ?_, fun p hp => ?_, ?_, ?_, ?_⟩
    · rw [hdims, hlength]
      obtain ⟨-, hcase⟩ := haxis
      exact ⟨by omega, by omega⟩
    · rw [(hpart p hp).2.1, hdtype]
    · rw [(hpart p hp).2.2, hdims]
    · rw [hdims]
      exact hstrides.eraseIdx hpos
    · rw [hlen]
      exact getD_dims_lt ha
    · rw [hdims, hlen, hwhole]
      exact ht.productFits
  obtain ⟨out, hout, houtValid, houtDtype, houtDims, houtJoin⟩ :=
    hcan.exists_stack fun p hp => (hpart p hp).1
  rw [hdims, hlen, hwhole] at houtDims
  rw [hout, hjoin.unique houtJoin ht.parts houtValid (by rw [houtDtype, hdtype]) houtDims.symm
    fun index hindex => ?_]
  -- an index of the tensor lies in the part that its entry at the axis counts
  have haIndex : a < index.length := by rwa [hindex.length_eq]
  have hm : index.getD a 0 < (first :: rest).length := by
    rw [hlen]
    exact hindex.getD_lt ha
  refine ⟨index.getD a 0, _, index.eraseIdx a, List.getElem?_eq_getElem hm, ?_,
    insertIdx_eraseIdx_getD haIndex⟩
  rw [(hpart _ (List.getElem_mem hm)).2.2]
  exact inBounds_eraseIdx hindex

end Unstack

end Tensor

/-! ### Both pairs -/

namespace Tensor

/-- Joining and splitting are inverse, and joining fails only for the reasons that `CanConcat` and
`CanStack` name. -/
structure JoinsInvert : Prop where
  concat_split : ∀ (t : Tensor) (axis : Int64) (a : ℕ) (sections : List UInt64), t.Valid →
    t.data.len ≠ 0 → AxisDenotes t.dims.length axis a → sections ≠ [] →
    (sections.map UInt64.toNat).sum = t.dims.getD a 0 →
    ∃ parts, t.split axis sections = .ok parts ∧ concat parts axis = .ok t
  split_concat : ∀ (tensors : List Tensor) (axis : Int64) (out : Tensor) (a : ℕ),
    (∀ t ∈ tensors, t.Valid) → concat tensors axis = .ok out → out.Valid → out.data.len ≠ 0 →
    AxisDenotes out.dims.length axis a →
    out.split axis (tensors.map fun t => t.shape.getD a 0) = .ok tensors
  unstack_stack : ∀ (tensors : List Tensor) (axis axis' : Int64) (out : Tensor) (a : ℕ),
    (∀ t ∈ tensors, t.Valid) → stack tensors axis = .ok out → out.Valid → StridesFit out.dims →
    InsertAxisDenotes (out.dims.length - 1) axis a → AxisDenotes out.dims.length axis' a →
    out.unstack axis' = .ok tensors
  stack_unstack : ∀ (t : Tensor) (axis : Int64) (a : ℕ), t.Valid → StridesFit t.dims →
    AxisDenotes t.dims.length axis a → 2 ≤ t.dims.length → t.dims.getD a 0 ≠ 0 →
    ∃ parts, t.unstack axis = .ok parts ∧ stack parts axis = .ok t
  concat_isOk_iff : ∀ (tensors : List Tensor) (axis : Int64), (∀ t ∈ tensors, t.Valid) →
    ((∃ out, concat tensors axis = .ok out) ↔ ∃ first a, CanConcat tensors axis first a)
  stack_isOk_iff : ∀ (tensors : List Tensor) (axis : Int64), (∀ t ∈ tensors, t.Valid) →
    ((∃ out, stack tensors axis = .ok out) ↔ ∃ first a, CanStack tensors axis first a)

theorem joins_invert : JoinsInvert where
  concat_split _ _ _ _ ht hne haxis := concat_split ht hne haxis
  split_concat _ _ _ _ hvalid h hout hne haxis := split_concat hvalid h hout hne haxis
  unstack_stack _ _ _ _ _ hvalid h hout hstrides := unstack_stack hvalid h hout hstrides
  stack_unstack _ _ _ ht hstrides haxis := stack_unstack ht hstrides haxis
  concat_isOk_iff _ _ hvalid := concat_isOk_iff hvalid
  stack_isOk_iff _ _ hvalid := stack_isOk_iff hvalid

theorem joins_invert_sample :
    (∃ parts, sampleMatrix.split (-1) [1, 0, 2] = .ok parts ∧ concat parts (-1) = .ok sampleMatrix) ∧
    ∃ parts, sampleMatrix.unstack 1 = .ok parts ∧ stack parts 1 = .ok sampleMatrix :=
  ⟨joins_invert.concat_split sampleMatrix (-1) 1 [1, 0, 2] sampleMatrix_valid (by decide)
      ⟨by decide, Or.inr (by decide)⟩ (by decide) (by decide),
    joins_invert.stack_unstack sampleMatrix 1 1 sampleMatrix_valid
      (sampleMatrix_valid.stridesFit (by decide)) ⟨by decide, Or.inl (by decide)⟩ (by decide)
      (by decide)⟩

example : concat [sampleMatrix, sampleColumn] 1 =
    .ok ⟨.i32, [2, 4], .i32 [1, 2, 3, 10, 4, 5, 6, 20]⟩ := by decide

/-- A tensor without elements whose second axis is long. -/
def flatEmpty : Tensor := ⟨.i32, [0, 0x4000000000000000], .i32 []⟩

/-- Four of them, stacked at the end. -/
def flatStack : Tensor := ⟨.i32, [0, 0x4000000000000000, 4], .i32 []⟩

/-- The four tensors stack and the stack does not come apart; two tensors of one shape are refused
by `concat` although their joined length fits. -/
theorem empty_join_errors :
    (flatEmpty.Valid ∧ flatStack.Valid ∧
      stack [flatEmpty, flatEmpty, flatEmpty, flatEmpty] 2 = .ok flatStack ∧
      ∀ parts, flatStack.unstack 2 ≠ .ok parts) ∧
    longEmpty.Valid ∧ ∀ out, concat [longEmpty, longEmpty] 0 ≠ .ok out := by
  refine ⟨⟨⟨by rfl, by decide, by decide⟩, ⟨by rfl, by decide, by decide⟩, by rfl,
    fun parts h => ?_⟩, ⟨by rfl, by decide, by decide⟩, fun out h => ?_⟩
  · have herror : flatStack.unstack 2 = .error (invalidArgument "stride overflow") := by rfl
    rw [herror] at h
    cases h
  · have herror : concat [longEmpty, longEmpty] 0 =
        .error (invalidArgument "stride overflow") := by rfl
    rw [herror] at h
    cases h

end Tensor

end ArcadiaTio.Tio
