import ArcadiaTio.Tensor.Reshape

/-!
# Stacking is concatenating

`stack` and `concat` compute their entries in different ways.  Stacking nevertheless gives every
tensor a new axis of length one and concatenates along it, and fails exactly when that fails
(`stack_iff_concat_expandDims`).  In the same way `unstack` is a `split` into sections of length
one (`unstack_eq_split_squeezeAxis`).
-/

namespace ArcadiaTio.Tio

open ArcadiaTio.Lib ArcadiaTio.Lib.RowMajor

/-! ### A new axis of length one -/

section Shapes

variable {shape : List ℕ} {a m n : ℕ}

/-- The stride of a new axis of length one is a product that fits already. -/
lemma stridesFit_insertIdx_one (ha : a ≤ shape.length) (hprod : shape.prod < 2 ^ usizeBits) :
    StridesFit (shape.insertIdx a 1) ↔ StridesFit shape := by
  induction shape generalizing a with
  | nil =>
    obtain rfl : a = 0 := Nat.le_zero.mp ha
    rw [List.insertIdx_zero, stridesFit_cons]
    exact and_iff_right hprod
  | cons k shape ih =>
    cases a with
    | zero =>
      rw [List.insertIdx_zero, stridesFit_cons]
      exact and_iff_right hprod
    | succ a =>
      have ha : a ≤ shape.length := by simpa using ha
      rw [List.insertIdx_succ_cons, stridesFit_cons, stridesFit_cons, prod_insertIdx ha,
        Nat.one_mul]
      exact and_congr_right fun hrest => ih ha hrest

lemma set_insertIdx_self (ha : a ≤ shape.length) :
    (shape.insertIdx a m).set a n = shape.insertIdx a n := by
  induction shape generalizing a with
  | nil =>
    obtain rfl : a = 0 := Nat.le_zero.mp ha
    rfl
  | cons k shape ih =>
    cases a with
    | zero => rfl
    | succ a =>
      rw [List.insertIdx_succ_cons, List.insertIdx_succ_cons, List.set_cons_succ,
        ih (by simpa using ha)]

lemma startOf_replicate_one (hm : m ≤ n) : startOf (List.replicate n 1) m = m := by
  rw [startOf, List.take_replicate, Nat.min_eq_left hm, List.sum_replicate_nat, Nat.mul_one]

lemma InsertAxisDenotes.unique {rank b : ℕ} {axis : Int64} (ha : InsertAxisDenotes rank axis a)
    (hb : InsertAxisDenotes rank axis b) : a = b := by
  unfold InsertAxisDenotes at ha hb
  omega

end Shapes

namespace Tensor

section UnitAxis

variable {t : Tensor} {a : ℕ}

lemma element_withUnitAxis {index : List ℕ} (ha : a ≤ t.dims.length)
    (hindex : InBounds t.dims index) :
    (t.withUnitAxis a).element (index.insertIdx a 0) = t.element index := by
  rw [element, element, dims_withUnitAxis, ravel_insertIdx_one ha hindex.length_eq]
  rfl

end UnitAxis

/-! ### The two conditions -/

variable {tensors expanded : List Tensor} {axis : Int64} {first out : Tensor} {a : ℕ}

lemma axisLens_withUnitAxis (ha : ∀ t ∈ tensors, a ≤ t.dims.length) :
    axisLens a (tensors.map (withUnitAxis a)) = List.replicate tensors.length 1 := by
  rw [axisLens, List.map_map, ← List.map_const']
  refine List.map_congr_left fun t ht => ?_
  rw [Function.comp_apply, dims_withUnitAxis, getD_insertIdx_self (ha t ht)]

/-- Tensors that can be stacked can be concatenated along a new axis. -/
lemma CanStack.canConcat (h : CanStack tensors axis first a) (hvalid : ∀ t ∈ tensors, t.Valid) :
    CanConcat (tensors.map (withUnitAxis a)) axis (first.withUnitAxis a) a := by
  have ha := h.denotes.1
  have hdims : ∀ t ∈ tensors, (t.withUnitAxis a).dims = (first.withUnitAxis a).dims := by
    intro t ht
    rw [dims_withUnitAxis, dims_withUnitAxis, h.dims_eq t ht]
  have hsum : (axisLens a (tensors.map (withUnitAxis a))).sum = tensors.length := by
    rw [axisLens_withUnitAxis fun t ht => by rw [h.dims_eq t ht]; exact ha, List.sum_replicate_nat,
      Nat.mul_one]
  have hfirst := hvalid first (List.mem_of_mem_head? h.head_eq)
  refine ⟨by rw [List.head?_map, h.head_eq]; rfl, ?_, ⟨?_, ?_, ?_⟩, ?_, ?_, ?_⟩
  · rw [length_dims_withUnitAxis ha]
    exact h.denotes.axisDenotes
  · rw [List.forall_mem_map]
    exact h.dtype_eq
  · rw [List.forall_mem_map]
    exact fun t ht => by rw [hdims t ht]
  · rw [List.forall_mem_map]
    exact fun t ht k _ _ => by rw [hdims t ht]
  · rw [List.forall_mem_map]
    intro t ht
    rw [hdims t ht, dims_withUnitAxis]
    exact (stridesFit_insertIdx_one ha hfirst.prod_lt).mpr h.strides
  · rw [hsum]
    exact h.length_lt
  · rw [hsum, dims_withUnitAxis, set_insertIdx_self ha]
    exact h.fits

/-- Tensors that can be concatenated along a new axis can be stacked. -/
lemma CanConcat.canStack {u : Tensor} {b : ℕ}
    (h : CanConcat (tensors.map (withUnitAxis a)) axis u b) (hvalid : ∀ t ∈ tensors, t.Valid)
    (hdenotes : ∀ t ∈ tensors, InsertAxisDenotes t.dims.length axis a) :
    ∃ first, CanStack tensors axis first a := by
  obtain ⟨first, hhead, rfl⟩ : ∃ first, tensors.head? = some first ∧ first.withUnitAxis a = u := by
    have hhead := h.head_eq
    rwa [List.head?_map, Option.map_eq_some_iff] at hhead
  have hmem := List.mem_of_mem_head? hhead
  have hfirst := hvalid first hmem
  have ha := (hdenotes first hmem).1
  obtain rfl : a = b := by
    have hb := h.denotes
    rw [length_dims_withUnitAxis ha] at hb
    exact (hdenotes first hmem).axisDenotes.unique hb
  have hdims : ∀ t ∈ tensors, t.dims = first.dims := by
    intro t ht
    have hdiffers := h.agree.differsAt (n := 1) (List.mem_map_of_mem ht)
    rw [DiffersAt, List.set_set, dims_withUnitAxis, dims_withUnitAxis,
      getD_insertIdx_self (hdenotes t ht).1, set_insertIdx_self ha] at hdiffers
    have herase := congrArg (List.eraseIdx · a) hdiffers
    simpa only [List.eraseIdx_insertIdx_self] using herase
  have hsum : (axisLens a (tensors.map (withUnitAxis a))).sum = tensors.length := by
    rw [axisLens_withUnitAxis fun t ht => (hdenotes t ht).1, List.sum_replicate_nat,
      Nat.mul_one]
  refine ⟨first, hhead, hdenotes first hmem, fun t ht => ?_, hdims, ?_, ?_, ?_⟩
  · exact h.agree.dtype_eq (t.withUnitAxis a) (List.mem_map_of_mem ht)
  · have hstrides := h.strides _ (List.mem_map_of_mem hmem)
    rw [dims_withUnitAxis] at hstrides
    exact (stridesFit_insertIdx_one ha hfirst.prod_lt).mp hstrides
  · rw [← hsum]
    exact h.sum_lt
  · have hfits := h.fits
    rwa [hsum, dims_withUnitAxis, set_insertIdx_self ha] at hfits

/-! ### The two outputs -/

/-- The parts of a concatenation along a new axis, without that axis. -/
lemma isJoin_of_withUnitAxis {t : Tensor} (hvalid : ∀ p ∈ tensors, p.Valid)
    (ha : ∀ p ∈ tensors, a ≤ p.dims.length)
    (h : IsJoin t (tensors.map (withUnitAxis a))
      fun m => shiftAxis a (startOf (axisLens a (tensors.map (withUnitAxis a))) m)) :
    IsJoin t tensors fun m index => index.insertIdx a m := by
  intro m p hp
  have hmem := List.mem_of_getElem? hp
  obtain ⟨hm, -⟩ := List.getElem?_eq_some_iff.mp hp
  have hpart := h m (p.withUnitAxis a) (by rw [List.getElem?_map, hp]; rfl)
  dsimp only at hpart
  rw [axisLens_withUnitAxis ha, startOf_replicate_one hm.le] at hpart
  have hsource : ∀ index, InBounds p.dims index →
      shiftAxis a m (index.insertIdx a 0) = index.insertIdx a m := by
    intro index hindex
    have haIndex : a ≤ index.length := by
      rw [hindex.length_eq]
      exact ha p hmem
    rw [shiftAxis, getD_insertIdx_self haIndex, Nat.add_zero, set_insertIdx_self haIndex]
  have hinside : ∀ index, InBounds p.dims index →
      InBounds (p.withUnitAxis a).dims (index.insertIdx a 0) := by
    intro index hindex
    rw [dims_withUnitAxis]
    exact inBounds_insertIdx hindex Nat.one_pos
  refine ⟨(hvalid p hmem).parts, hpart.dtype_eq, rfl, fun index hindex => ?_,
    fun index hindex => ?_⟩
  · dsimp only
    rw [← hsource index hindex]
    exact hpart.inBounds _ (hinside index hindex)
  · dsimp only
    rw [← hsource index hindex, ← hpart.element_eq _ (hinside index hindex),
      element_withUnitAxis (ha p hmem) hindex]

lemma CanStack.concat_eq (h : CanStack tensors axis first a) (hvalid : ∀ t ∈ tensors, t.Valid)
    (hroom : ∀ t ∈ tensors, t.shape.length + 1 < 2 ^ 63) (hout : stack tensors axis = .ok out) :
    concat (tensors.map (withUnitAxis a)) axis = .ok out := by
  have ha : ∀ t ∈ tensors, a ≤ t.dims.length := fun t ht => by
    rw [h.dims_eq t ht]
    exact h.denotes.1
  obtain ⟨out₁, hout₁, hvalid₁, hdtype₁, hdims₁, hjoin₁⟩ := h.exists_stack hvalid
  obtain rfl : out₁ = out := Except.ok.inj (hout₁.symm.trans hout)
  obtain ⟨out₂, hout₂, hvalid₂, hdtype₂, hdims₂, hjoin₂⟩ := (h.canConcat hvalid).exists_concat
    (by
      rw [List.forall_mem_map]
      exact fun t ht => (hvalid t ht).withUnitAxis (ha t ht) (hroom t ht))
  rw [hout₂]
  refine congrArg Except.ok (hjoin₁.unique (isJoin_of_withUnitAxis hvalid ha hjoin₂) hvalid₁ hvalid₂
    (hdtype₁.trans hdtype₂.symm) ?_ fun index hindex => ?_).symm
  · rw [hdims₁, hdims₂, axisLens_withUnitAxis ha, List.sum_replicate_nat, Nat.mul_one,
      dims_withUnitAxis, set_insertIdx_self h.denotes.1]
  · rw [hdims₁] at hindex
    have hlength : (first.dims.insertIdx a tensors.length).length = first.dims.length + 1 := by
      rw [List.length_insertIdx, if_pos h.denotes.1]
    have haIndex : a < index.length := by
      rw [hindex.length_eq, hlength]
      exact Nat.lt_succ_of_le h.denotes.1
    have hm : index.getD a 0 < tensors.length := by
      have hlt := hindex.getD_lt (a := a) (by rw [hlength]; exact Nat.lt_succ_of_le h.denotes.1)
      rwa [getD_insertIdx_self h.denotes.1] at hlt
    refine ⟨index.getD a 0, _, index.eraseIdx a, List.getElem?_eq_getElem hm, ?_,
      insertIdx_eraseIdx_getD haIndex⟩
    have hpart := inBounds_eraseIdx (a := a) hindex
    rw [List.eraseIdx_insertIdx_self] at hpart
    rwa [h.dims_eq _ (List.getElem_mem hm)]

/-! ### Stacking as concatenating -/

/-- The tensors that are expanded have one rank. -/
lemma eq_map_withUnitAxis {rank : ℕ} (hvalid : ∀ t ∈ tensors, t.Valid)
    (ha : AxisDenotes (rank + 1) axis a)
    (h : List.Forall₂ (fun t u => t.expandDims axis = .ok u) tensors expanded)
    (hrank : ∀ u ∈ expanded, u.dims.length = rank + 1) :
    expanded = tensors.map (withUnitAxis a) ∧
      ∀ t ∈ tensors, InsertAxisDenotes t.dims.length axis a := by
  induction h with
  | nil => exact ⟨rfl, by simp⟩
  | @cons t u tensors expanded hhead hrest ih =>
    obtain ⟨ht, hvalid⟩ := List.forall_mem_cons.mp hvalid
    obtain ⟨hu, hrank⟩ := List.forall_mem_cons.mp hrank
    obtain ⟨rfl, hdenotes⟩ := ih hvalid hrank
    obtain ⟨b, hb, rfl⟩ := (expandDims_eq_ok ht).mp hhead
    rw [length_dims_withUnitAxis hb.1] at hu
    obtain rfl : a = b := by
      have hb := hb.axisDenotes
      rw [hu] at hb
      exact ha.unique hb
    exact ⟨rfl, List.forall_mem_cons.mpr ⟨hb, hdenotes⟩⟩

/-- Stacking succeeds with an output exactly when expanding every tensor and concatenating them
does. -/
theorem stack_iff_concat_expandDims (hvalid : ∀ t ∈ tensors, t.Valid)
    (hroom : ∀ t ∈ tensors, t.shape.length + 1 < 2 ^ 63) :
    stack tensors axis = .ok out ↔ (do
      let expanded ← tensors.mapM fun t : Tensor => t.expandDims axis
      concat expanded axis) = .ok out := by
  rw [bind_eq_ok]
  simp only [mapM_eq_ok]
  constructor
  · intro hout
    obtain ⟨first, a, h⟩ := canStack_of_stack hvalid hout
    refine ⟨tensors.map (withUnitAxis a), ?_, h.concat_eq hvalid hroom hout⟩
    rw [List.forall₂_map_right_iff, List.forall₂_same]
    intro t ht
    refine (expandDims_eq_ok (hvalid t ht)).mpr ⟨a, ?_, rfl⟩
    rw [h.dims_eq t ht]
    exact h.denotes
  · rintro ⟨expanded, hexpanded, hout⟩
    have hexpandedValid : ∀ u ∈ expanded, u.Valid := by
      intro u hu
      obtain ⟨i, hi, rfl⟩ := List.getElem_of_mem hu
      obtain ⟨hlen, hget⟩ := List.forall₂_iff_get.mp hexpanded
      have hi' : i < tensors.length := by omega
      obtain ⟨b, hb, heq⟩ := (expandDims_eq_ok (hvalid _ (List.getElem_mem hi'))).mp (hget i hi' hi)
      rw [List.get_eq_getElem] at heq
      rw [heq]
      exact (hvalid _ (List.getElem_mem hi')).withUnitAxis hb.1 (hroom _ (List.getElem_mem hi'))
    obtain ⟨u, a, h⟩ := canConcat_of_concat hexpandedValid hout
    obtain ⟨rank, hrank⟩ : ∃ rank, u.dims.length = rank + 1 := Nat.exists_eq_add_one.mpr
      (List.length_pos_iff.mpr (hexpandedValid u (List.mem_of_mem_head? h.head_eq)).dims_ne_nil)
    obtain ⟨rfl, hdenotes⟩ := eq_map_withUnitAxis hvalid (hrank ▸ h.denotes) hexpanded
      fun v hv => (h.agree.length_eq v hv).trans hrank
    obtain ⟨first, hcan⟩ := h.canStack hvalid hdenotes
    obtain ⟨out', hout', -⟩ := hcan.exists_stack hvalid
    have heq := hcan.concat_eq hvalid hroom hout'
    obtain rfl : out' = out := Except.ok.inj (heq.symm.trans hout)
    exact hout'

/-- Two matrices stacked in their middle, by both ways. -/
theorem stack_iff_concat_expandDims_sampleMatrix :
    (do
      let expanded ← [sampleMatrix, sampleMatrix].mapM fun t : Tensor => t.expandDims (-2)
      concat expanded (-2)) =
        .ok ⟨.i32, [2, 2, 3], .i32 [1, 2, 3, 1, 2, 3, 4, 5, 6, 4, 5, 6]⟩ := by
  refine (stack_iff_concat_expandDims ?_ ?_).mp (by decide)
  · simpa using sampleMatrix_valid
  · simp [sampleMatrix]

/-! ### Unstacking as splitting -/

/-- Unstacking a tensor with elements splits it into sections of length one and removes the axis
from each. -/
theorem unstack_eq_split_squeezeAxis {t : Tensor} (ht : t.Valid) (hne : t.data.len ≠ 0)
    (haxis : AxisDenotes t.dims.length axis a) (htwo : 2 ≤ t.dims.length) :
    IsOk (t.unstack axis) ∧ t.unstack axis = (do
      let parts ← t.split axis (List.replicate (t.dims.getD a 0) 1)
      parts.mapM fun p => p.squeezeAxis axis) := by
  have hstrides := ht.stridesFit hne
  have hlong : t.dims.getD a 0 ≠ 0 := fun hzero => ht.zero_notMem hne (by
    rw [← hzero, List.getD_eq_getElem _ _ haxis.1]
    exact List.getElem_mem haxis.1)
  obtain ⟨parts, hparts, hstack⟩ := stack_unstack ht hstrides haxis htwo hlong
  obtain ⟨parts', hparts', hlen, hall⟩ := exists_unstack ht hstrides haxis (by omega)
  obtain rfl : parts' = parts := Except.ok.inj (hparts'.symm.trans hparts)
  have hlength : (t.dims.eraseIdx a).length + 1 = t.dims.length := by
    rw [List.length_eraseIdx, if_pos haxis.1]
    omega
  have hpart : ∀ p ∈ parts', p.Valid ∧ p.dims.length + 1 = t.dims.length ∧
      InsertAxisDenotes p.dims.length axis a := by
    intro p hp
    obtain ⟨m, hm⟩ := List.mem_iff_getElem?.mp hp
    have hgathers := hall m p hm
    have hdims := hgathers.dims_eq
    obtain ⟨hlt, hplace⟩ := haxis
    refine ⟨hgathers.valid_of_le ht ?_ (prod_eraseIdx_le (Nat.pos_of_ne_zero hlong)), ?_, ?_⟩
    · have := ht.rank_dims_lt
      omega
    · rw [hdims, hlength]
    · rw [hdims]
      exact ⟨by omega, by omega⟩
  have hvalid : ∀ p ∈ parts', p.Valid := fun p hp => (hpart p hp).1
  have hroom : ∀ p ∈ parts', p.shape.length + 1 < 2 ^ 63 := by
    intro p hp
    rw [← p.length_dims, (hpart p hp).2.1]
    exact ht.rank_dims_lt
  have hexpanded : ∀ u ∈ parts'.map (withUnitAxis a), u.Valid := by
    rw [List.forall_mem_map]
    exact fun p hp => (hvalid p hp).withUnitAxis (hpart p hp).2.2.1 (hroom p hp)
  obtain ⟨first, b, hcan⟩ := canStack_of_stack hvalid hstack
  obtain rfl : b = a :=
    hcan.denotes.unique (hpart first (List.mem_of_mem_head? hcan.head_eq)).2.2
  -- the expanded parts are the sections of the tensor that they concatenate to
  have hsplit := split_concat hexpanded (hcan.concat_eq hvalid hroom hstack) ht hne haxis
  have hsections : ((parts'.map (withUnitAxis b)).map fun u => u.shape.getD b 0) =
      List.replicate (t.dims.getD b 0) 1 := by
    rw [List.eq_replicate_iff, List.length_map, List.length_map, hlen, List.map_map,
      List.forall_mem_map]
    exact ⟨rfl, fun p hp => getD_withUnitAxis (hpart p hp).2.2.1⟩
  rw [hsections] at hsplit
  refine ⟨⟨parts', hparts⟩, ?_⟩
  rw [hparts, hsplit, ok_bind, eq_comm, mapM_eq_ok, List.forall₂_map_left_iff, List.forall₂_same]
  exact fun p hp => squeezeAxis_withUnitAxis (hvalid p hp)
    (hexpanded _ (List.mem_map_of_mem hp)) (hpart p hp).2.2

/-- The rows of a matrix. -/
theorem unstack_eq_split_squeezeAxis_sampleMatrix :
    sampleMatrix.unstack 0 = (do
      let parts ← sampleMatrix.split 0 [1, 1]
      parts.mapM fun p => p.squeezeAxis 0) :=
  (unstack_eq_split_squeezeAxis (a := 0) sampleMatrix_valid (by decide)
    ⟨by decide, .inl (by decide)⟩ (by decide)).2

end Tensor

end ArcadiaTio.Tio
