import Mathlib.Algebra.Order.BigOperators.Group.List
import ArcadiaTio.Tensor.Concat

/-!
# Concatenating and splitting are inverse

The sections of a tensor and the tensors of a concatenation stand in the same relation to the whole
(`IsJoin`), which determines the whole from its parts and the parts from the whole and their
lengths.
-/

namespace ArcadiaTio.Tio

open ArcadiaTio.Lib ArcadiaTio.Lib.RowMajor

/-! ### Shapes with shorter axes -/

lemma prod_le_of_forall₂ {l l' : List ℕ} (h : List.Forall₂ (· ≤ ·) l l') : l.prod ≤ l'.prod := by
  induction h with
  | nil => exact le_refl _
  | cons hab _ ih =>
    rw [List.prod_cons, List.prod_cons]
    exact Nat.mul_le_mul hab ih

/-- Shorter axes have smaller strides. -/
lemma StridesFit.mono {shape shape' : List ℕ} (h : StridesFit shape')
    (hle : List.Forall₂ (· ≤ ·) shape shape') : StridesFit shape := by
  intro suf hsuf
  rw [List.suffix_iff_eq_drop] at hsuf
  have hdrop := List.forall₂_drop (shape.tail.length - suf.length) (List.forall₂_drop 1 hle)
  rw [List.drop_one, List.drop_one, ← hsuf] at hdrop
  exact (prod_le_of_forall₂ hdrop).trans_lt (h _ (List.drop_suffix _ _))

/-- Shorter axes have smaller products. -/
lemma ProductFits.mono {shape shape' : List ℕ} (h : ProductFits shape')
    (hle : List.Forall₂ (· ≤ ·) shape shape') : ProductFits shape := by
  intro pre hpre
  rw [List.prefix_iff_eq_take] at hpre
  have htake := List.forall₂_take pre.length hle
  rw [← hpre] at htake
  exact (prod_le_of_forall₂ htake).trans_lt (h _ (List.take_prefix _ _))

lemma forall₂_set_le {shape : List ℕ} {a m : ℕ} (h : m ≤ shape.getD a 0) :
    List.Forall₂ (· ≤ ·) (shape.set a m) shape := by
  rw [List.forall₂_iff_get]
  refine ⟨List.length_set, fun k hk hk' => ?_⟩
  rw [List.get_eq_getElem, List.get_eq_getElem, List.getElem_set]
  by_cases hak : a = k
  · subst hak
    rw [if_pos rfl]
    rwa [List.getD_eq_getElem _ _ hk'] at h
  · rw [if_neg hak]

namespace Tensor

variable {t p out : Tensor} {shape : List ℕ} {f : List ℕ → List ℕ} {axis : Int64} {a : ℕ}
  {tensors parts : List Tensor} {sections : List UInt64}

/-- A gathered tensor of no more elements is in memory. -/
lemma Gathers.valid_of_le (h : t.Gathers p shape f) (ht : t.Valid) (hrank : shape.length < 2 ^ 63)
    (hprod : shape.prod ≤ t.dims.prod) : p.Valid := by
  refine ⟨h.valid, ?_, ?_⟩
  · rwa [← length_dims, h.dims_eq]
  · obtain ⟨-, -, -, hlen⟩ := validateTensorParts_eq_ok.mp h.valid
    have hdims : shapeU64ToUsize p.shape = shape := h.dims_eq
    rw [hlen, hdims]
    have := ht.len_lt
    rw [ht.len_eq] at this
    omega

/-- The ranges of the parts cover the whole. -/
lemma cover_axis (ha : a < t.dims.length) (hparts : ∀ p ∈ parts, DiffersAt a p.dims t.dims)
    (hsum : (axisLens a parts).sum = t.dims.getD a 0) {index : List ℕ}
    (hindex : InBounds t.dims index) :
    ∃ m p index', parts[m]? = some p ∧ InBounds p.dims index' ∧
      shiftAxis a (startOf (axisLens a parts) m) index' = index := by
  have haIndex : a < index.length := by rwa [hindex.length_eq]
  obtain ⟨m, j, hm, hj, hpos⟩ := exists_part (axisLens a parts) (i := index.getD a 0)
    (by rw [hsum]; exact hindex.getD_lt ha)
  have hmlt : m < parts.length := by rwa [axisLens, List.length_map] at hm
  rw [List.getD_eq_getElem _ _ hm] at hj
  simp only [axisLens, List.getElem_map] at hj
  refine ⟨m, parts[m], index.set a j, List.getElem?_eq_getElem hmlt, ?_, ?_⟩
  · rw [hparts _ (List.getElem_mem hmlt)]
    exact hindex.set hj
  · rw [shiftAxis_set haIndex, ← hpos, set_getD_self haIndex]

/-- What splitting says about the parts. -/
lemma isJoin_of_sections (hlen : parts.length = sections.length) (ha : a < t.dims.length)
    (hall : ∀ m p, parts[m]? = some p →
      t.Gathers p (t.dims.set a ((sections.map UInt64.toNat).getD m 0))
        (shiftAxis a (startOf (sections.map UInt64.toNat) m))) :
    axisLens a parts = sections.map UInt64.toNat ∧
      (∀ p ∈ parts, DiffersAt a p.dims t.dims ∧ p.dtype = t.dtype) ∧
      IsJoin t parts fun m => shiftAxis a (startOf (axisLens a parts) m) := by
  have hlens : axisLens a parts = sections.map UInt64.toNat := by
    apply List.ext_getElem (by rw [axisLens, List.length_map, List.length_map, hlen])
    intro m hm hm'
    rw [axisLens, List.length_map] at hm
    have hdims := (hall m _ (List.getElem?_eq_getElem hm)).dims_eq
    simp only [axisLens, List.getElem_map]
    rw [hdims, getD_set_self ha, List.getD_eq_getElem _ _ hm', List.getElem_map]
  refine ⟨hlens, fun p hp => ?_, fun m p hp => ?_⟩
  · obtain ⟨m, hm⟩ := List.mem_iff_getElem?.mp hp
    have hpart := hall m p hm
    refine ⟨?_, hpart.dtype_eq⟩
    rw [DiffersAt, hpart.dims_eq, getD_set_self ha]
  · have hpart := hall m p hp
    rw [hlens, hpart.dims_eq]
    exact hpart

/-- Concatenating the sections gives the tensor back. -/
lemma concat_split (ht : t.Valid) (hne : t.data.len ≠ 0)
    (haxis : AxisDenotes t.dims.length axis a) (hsections : sections ≠ [])
    (hsum : (sections.map UInt64.toNat).sum = t.dims.getD a 0) :
    ∃ parts, t.split axis sections = .ok parts ∧ concat parts axis = .ok t := by
  obtain ⟨parts, hsplit, hlen, hall⟩ := exists_split ht hne haxis hsections hsum
  obtain ⟨hlens, hparts, hjoin⟩ := isJoin_of_sections hlen haxis.1 hall
  refine ⟨parts, hsplit, ?_⟩
  have hsumLens : (axisLens a parts).sum = t.dims.getD a 0 := by rw [hlens, hsum]
  have hle : ∀ p ∈ parts, p.dims.getD a 0 ≤ t.dims.getD a 0 := by
    intro p hp
    rw [← hsumLens]
    exact List.le_sum_of_mem (List.mem_map_of_mem hp)
  have hlength : ∀ p ∈ parts, p.dims.length = t.dims.length := by
    intro p hp
    rw [(hparts p hp).1, List.length_set]
  have hset : ∀ p ∈ parts, ∀ n, p.dims.set a n = t.dims.set a n := by
    intro p hp n
    rw [(hparts p hp).1, List.set_set]
  have hvalid : ∀ p ∈ parts, p.Valid := by
    intro p hp
    obtain ⟨m, hm⟩ := List.mem_iff_getElem?.mp hp
    have hpart := hall m p hm
    refine hpart.valid_of_le ht (by rw [List.length_set]; exact ht.rank_dims_lt) ?_
    rw [← hpart.dims_eq, (hparts p hp).1]
    exact prod_set_le_of_le haxis.1 (hle p hp)
  obtain ⟨first, rest, rfl⟩ : ∃ first rest, parts = first :: rest := by
    cases parts with
    | nil => exact absurd (List.length_eq_zero_iff.mp hlen.symm) hsections
    | cons first rest => exact ⟨first, rest, rfl⟩
  have hfirst : first ∈ first :: rest := List.mem_cons_self
  have hwhole : first.dims.set a (axisLens a (first :: rest)).sum = t.dims := by
    rw [hset first hfirst, hsumLens, set_getD_self haxis.1]
  -- the parts agree in everything but the axis, where they add up
  have hcan : CanConcat (first :: rest) axis first a := by
    refine ⟨rfl, by rwa [hlength first hfirst], ⟨fun p hp => ?_, fun p hp => ?_,
      fun p hp k hk hka => ?_⟩, fun p hp => ?_, ?_, by rw [hwhole]; exact ht.productFits⟩
    · rw [(hparts p hp).2, (hparts first hfirst).2]
    · rw [hlength p hp, hlength first hfirst]
    · have hother : ∀ q ∈ first :: rest, q.dims.getD k 0 = t.dims.getD k 0 := by
        intro q hq
        rw [(hparts q hq).1, List.getD_eq_getElem?_getD, List.getElem?_set_ne (Ne.symm hka),
          ← List.getD_eq_getElem?_getD]
      rw [hother p hp, hother first hfirst]
    · rw [(hparts p hp).1]
      exact (ht.stridesFit hne).mono (forall₂_set_le (hle p hp))
    · rw [hsumLens]
      exact getD_dims_lt haxis.1
  obtain ⟨out, hout, houtValid, hdtype, hdims, houtJoin⟩ := hcan.exists_concat hvalid
  rw [hwhole] at hdims
  rw [hout, hjoin.unique houtJoin ht.parts houtValid (by rw [hdtype, (hparts first hfirst).2])
    hdims.symm fun index => cover_axis haxis.1 (fun p hp => (hparts p hp).1) hsumLens]

/-- Splitting a concatenation at the lengths of its tensors gives these back. -/
lemma split_concat (hvalid : ∀ t ∈ tensors, t.Valid) (h : concat tensors axis = .ok out)
    (hout : out.Valid) (hne : out.data.len ≠ 0) (haxis : AxisDenotes out.dims.length axis a) :
    out.split axis (tensors.map fun t => t.shape.getD a 0) = .ok tensors := by
  obtain ⟨first, b, hcan⟩ := canConcat_of_concat hvalid h
  obtain ⟨out', hout', -, -, hdims, hjoin⟩ := hcan.exists_concat hvalid
  obtain rfl : out' = out := Except.ok.inj (hout'.symm.trans h)
  have hlength : out'.dims.length = first.dims.length := by rw [hdims, List.length_set]
  obtain rfl : b = a := by
    have hb := hcan.denotes
    rw [← hlength] at hb
    exact hb.unique haxis
  have hlens : (tensors.map fun t => t.shape.getD b 0).map UInt64.toNat = axisLens b tensors := by
    rw [List.map_map, axisLens]
    refine List.map_congr_left fun t _ => ?_
    rw [Function.comp_apply, dims, shapeU64ToUsize, List.getD_eq_getElem?_getD, List.getD_eq_getElem?_getD, List.getElem?_map]
    cases t.shape[b]? <;> rfl
  have htensors : tensors ≠ [] := by
    rintro rfl
    exact absurd hcan.head_eq (by simp)
  have hsum : (axisLens b tensors).sum = out'.dims.getD b 0 := by
    rw [hdims, getD_set_self hcan.denotes.1]
  obtain ⟨parts, hsplit, hlen, hall⟩ := exists_split hout hne haxis
    (by simpa using htensors : tensors.map (fun t => t.shape.getD b 0) ≠ [])
    (by rw [hlens, hsum])
  obtain ⟨hpartLens, hparts, hpartJoin⟩ := isJoin_of_sections hlen haxis.1 hall
  rw [hlens] at hpartLens
  rw [hpartLens] at hpartJoin
  rw [hsplit, hpartJoin.parts_unique hjoin ?_]
  -- the shapes agree, since the lengths on the axis do
  apply List.ext_getElem
  · rw [List.length_map, List.length_map, hlen, List.length_map]
  · intro m hm hm'
    rw [List.length_map] at hm hm'
    have hmLens := congrArg (·[m]?) hpartLens
    simp only [axisLens, List.getElem?_map, List.getElem?_eq_getElem hm,
      List.getElem?_eq_getElem hm', Option.map_some, Option.some.injEq] at hmLens
    have htensor := hcan.agree.differsAt (n := (axisLens b tensors).sum) (List.getElem_mem hm')
    rw [← hdims] at htensor
    rw [List.getElem_map, List.getElem_map, (hparts _ (List.getElem_mem hm)).1, hmLens, ← htensor]

end Tensor

end ArcadiaTio.Tio
