import ArcadiaTio.Tensor.Gathering

/-!
# Rearranging is exact gathering

For each operation, when it succeeds and what its output is: the output has the shape of the
reference operation, and its element at every multi-index is the input element at the reference
source of that multi-index.  The operations along one axis come from `takeAxisNormalized_iff` and
`sourceIs_replaceAxis`; swapping, transposing and moving axes are permutations.
-/

namespace ArcadiaTio.Tio

open ArcadiaTio.Lib ArcadiaTio.Lib.RowMajor

/-! ### Shapes with one axis replaced -/

section Set

variable {shape : List ℕ} {a m : ℕ}

/-- When the shape of the input has no axis of length zero, replacing one axis length can only make
the whole product too large. -/
lemma productFits_set (h : 0 ∉ shape) (hlt : shape.prod < 2 ^ usizeBits) :
    ProductFits (shape.set a m) ↔ (shape.set a m).prod < 2 ^ usizeBits := by
  refine ⟨ProductFits.prod_lt, fun hset => ?_⟩
  by_cases hzero : 0 ∈ shape.set a m
  · intro pre hpre
    by_cases hmem : 0 ∈ pre
    · rw [List.prod_eq_zero hmem]
      decide
    · -- the prefix ends before the axis, so it is a prefix of the input shape
      have hprefix : pre <+: shape := by
        have htake : pre = (shape.set a m).take pre.length := List.prefix_iff_eq_take.mp hpre
        have hlen : pre.length ≤ a := by
          by_contra hlong
          have ha : a < shape.length := by
            by_contra hout
            rw [List.set_eq_of_length_le (by omega)] at hzero
            exact h hzero
          have hm : m = 0 := by
            rcases List.mem_or_eq_of_mem_set hzero with hmem' | heq
            · exact absurd hmem' h
            · exact heq.symm
          apply hmem
          rw [htake, hm]
          refine List.mem_iff_getElem.mpr ⟨a, ?_, ?_⟩
          · rw [List.length_take, List.length_set]
            omega
          · rw [List.getElem_take, List.getElem_set_self]
        rw [List.take_set_of_le hlen] at htake
        rw [htake]
        exact List.take_prefix _ _
      exact (prod_le_of_initial h hprefix).trans_lt hlt
  · exact (productFits_iff hzero).mpr hset

lemma le_prod_of_mem {n : ℕ} (h : 0 ∉ shape) (hn : n ∈ shape) : n ≤ shape.prod := by
  obtain ⟨l, r, rfl⟩ := List.append_of_mem hn
  have hpos := prod_pos_of_zero_notMem h
  rw [List.prod_append, List.prod_cons] at hpos ⊢
  have hl : 0 < l.prod := Nat.pos_of_mul_pos_right hpos
  have hr : 0 < r.prod := Nat.pos_of_mul_pos_left (Nat.pos_of_mul_pos_left hpos)
  exact (Nat.le_mul_of_pos_right n hr).trans (Nat.le_mul_of_pos_left _ hl)

lemma lt_of_mem_set (h : ∀ n ∈ shape, n < 2 ^ 64) (hm : m < 2 ^ 64) :
    ∀ n ∈ shape.set a m, n < 2 ^ 64 := by
  intro n hn
  rcases List.mem_or_eq_of_mem_set hn with hn | rfl
  · exact h n hn
  · exact hm

/-- The replaced axis length itself fits. -/
lemma lt_of_prod_set_lt (h : 0 ∉ shape) (ha : a < shape.length)
    (hlt : (shape.set a m).prod < 2 ^ usizeBits) : m < 2 ^ 64 := by
  by_cases hm : m = 0
  · rw [hm]
    decide
  · have hzero : 0 ∉ shape.set a m := by
      intro hmem
      rcases List.mem_or_eq_of_mem_set hmem with hmem | heq
      · exact h hmem
      · exact hm heq.symm
    have hmem : m ∈ shape.set a m := List.mem_set ha m
    exact (le_prod_of_mem hzero hmem).trans_lt hlt

lemma prod_set (ha : a < shape.length) :
    (shape.set a m).prod = (shape.take a).prod * m * (shape.drop (a + 1)).prod := by
  rw [List.set_eq_take_append_cons_drop, if_pos ha, List.prod_append, List.prod_cons, Nat.mul_assoc]

lemma prod_set_le_of_le (ha : a < shape.length) (hm : m ≤ shape.getD a 0) :
    (shape.set a m).prod ≤ shape.prod := by
  have hshape : shape.prod = (shape.set a (shape.getD a 0)).prod := by
    rw [List.getD_eq_getElem _ _ ha, List.set_getElem_self]
  rw [hshape, prod_set ha, prod_set ha]
  exact Nat.mul_le_mul_right _ (Nat.mul_le_mul_left _ hm)

end Set

namespace Tensor

variable {t out : Tensor}

lemma dims_lt (t : Tensor) : ∀ n ∈ t.dims, n < 2 ^ 64 := by
  intro n hn
  rw [dims, shapeU64ToUsize] at hn
  obtain ⟨word, -, rfl⟩ := List.mem_map.mp hn
  exact word.toNat_lt

lemma length_dims (t : Tensor) : t.dims.length = t.shape.length := by
  rw [dims, shapeU64ToUsize, List.length_map]

lemma shapeUsizeToU64_shapeU64ToUsize (shape : List UInt64) :
    shapeUsizeToU64 (shapeU64ToUsize shape) = .ok shape := by
  rw [shapeUsizeToU64_eq_ok, shapeU64ToUsize]
  refine ⟨fun n hn => ?_, ?_⟩
  · obtain ⟨word, -, rfl⟩ := List.mem_map.mp hn
    exact word.toNat_lt
  · rw [List.map_map]
    conv_lhs => rw [← List.map_id shape]
    exact List.map_congr_left fun word _ => by simp

namespace Valid

variable (ht : t.Valid)

include ht

lemma prod_lt : t.dims.prod < 2 ^ usizeBits := ht.productFits.prod_lt

lemma stridesFit (hne : t.data.len ≠ 0) : StridesFit t.dims :=
  stridesFit_of_prod_lt (ht.zero_notMem hne) ht.prod_lt

lemma dims_ne_nil : t.dims ≠ [] := by
  have := ht.shape_ne_nil
  rw [dims, shapeU64ToUsize]
  simpa using this

lemma set_ne_nil (a m : ℕ) : t.dims.set a m ≠ [] := by
  have := ht.dims_ne_nil
  simpa using this

end Valid

/-! ### Operations along one axis -/

section Axis

variable (ht : t.Valid) (hstrides : StridesFit t.dims)

include ht hstrides in
/-- A walk along one axis. -/
lemma exists_mapTo_replaceAxis {a : ℕ} (ha : a < t.dims.length) (len : ℕ)
    (position : ℕ → Result ℕ) (g : ℕ → ℕ)
    (h : ∀ i < len, position i = .ok (g i) ∧ g i < t.dims.getD a 0)
    (hlen : len < 2 ^ 64) (hfits : ProductFits (t.dims.set a len)) :
    ∃ out, t.mapTo (t.dims.set a len) (fun values => gatherValues values t.dims (t.dims.set a len)
      fun _ outIndices => replaceAxis a position outIndices) = .ok out ∧
      t.Gathers out (t.dims.set a len) fun index => index.set a (g (index.getD a 0)) :=
  exists_mapTo ht (ht.set_ne_nil a len) (lt_of_mem_set t.dims_lt hlen) hfits fun _ hvalues =>
    gatherValues_eq (sourceIs_replaceAxis ha len position g h) hvalues ht.prod_lt hstrides hfits

include ht hstrides in
/-- Taking positions that are there, as many as a word can count. -/
lemma exists_takeAxisNormalized {a : ℕ} (ha : a < t.dims.length) {indices : List ℕ}
    (hin : ∀ k ∈ indices, k < t.dims.getD a 0) (hlen : indices.length < 2 ^ 64)
    (hfits : ProductFits (t.dims.set a indices.length)) :
    ∃ out, t.takeAxisNormalized t.dims a indices = .ok out ∧
      t.Gathers out (t.dims.set a indices.length)
        fun index => index.set a (indices.getD (index.getD a 0) 0) := by
  have hcheck : (forM indices fun index => failIf (t.dims.getD a 0 ≤ index)
      (invalidArgument "index out of bounds")) = .ok ⟨⟩ := by
    rw [forM_eq_ok]
    intro k hk
    exact failIf_eq_ok.mpr (not_le.mpr (hin k hk))
  rw [takeAxisNormalized, hcheck, ok_bind]
  refine exists_mapTo_replaceAxis ht hstrides ha _ _ _ (fun i hi => ⟨rfl, ?_⟩) hlen hfits
  rw [List.getD_eq_getElem _ _ hi]
  exact hin _ (List.getElem_mem hi)

include ht hstrides in
lemma takeAxisNormalized_iff {a : ℕ} (ha : a < t.dims.length) {indices : List ℕ} :
    t.takeAxisNormalized t.dims a indices = .ok out ↔
      ((∀ k ∈ indices, k < t.dims.getD a 0) ∧ indices.length < 2 ^ 64 ∧
        ProductFits (t.dims.set a indices.length)) ∧
      t.Gathers out (t.dims.set a indices.length)
        fun index => index.set a (indices.getD (index.getD a 0) 0) := by
  have hop : t.takeAxisNormalized t.dims a indices =
      (forM indices fun index => failIf (t.dims.getD a 0 ≤ index)
        (invalidArgument "index out of bounds")) >>= fun _ =>
      t.mapTo (t.dims.set a indices.length) fun values =>
        takeAxisValues values t.dims a indices (t.dims.set a indices.length) := rfl
  refine eq_ok_iff ?_ ?_
  · rw [hop]
    intro h
    obtain ⟨_, hin, h⟩ := bind_eq_ok.mp h
    obtain ⟨hlt, hfits⟩ := of_mapTo_eq_ok h
    refine ⟨fun k hk => ?_, hlt _ (List.mem_set ha _), hfits⟩
    exact not_le.mp (failIf_eq_ok.mp (forM_eq_ok.mp hin k hk))
  · rintro ⟨hin, hlen, hfits⟩
    exact exists_takeAxisNormalized ht hstrides ha hin hlen hfits

end Axis

section NonEmpty

variable (ht : t.Valid) (hne : t.data.len ≠ 0)

include ht in
/-- The common beginning of the operations along one axis. -/
lemma axis_bind_eq_ok {axis : Int64} {k : List ℕ → ℕ → Result Tensor} :
    (do
      let shape ← validatedShape t
      let axis ← normalizeAxis axis shape.length
      k shape axis) = .ok out ↔
      ∃ a, AxisDenotes t.dims.length axis a ∧ k t.dims a = .ok out := by
  rw [ht.validatedShape_eq, ok_bind, bind_eq_ok]
  simp only [normalizeAxis_eq_ok ht.rank_dims_lt]

include ht hne in
theorem takeAxis_iff {axis : Int64} {indices : List UInt64} :
    t.takeAxis axis indices = .ok out ↔ ∃ a, AxisDenotes t.dims.length axis a ∧
      ((∀ k ∈ indices, k.toNat < t.dims.getD a 0) ∧
        (t.dims.set a indices.length).prod < 2 ^ usizeBits) ∧
      t.Gathers out (t.dims.set a indices.length)
        fun index => index.set a ((indices.map UInt64.toNat).getD (index.getD a 0) 0) := by
  rw [takeAxis, axis_bind_eq_ok ht]
  refine exists_congr fun a => and_congr_right fun haxis => ?_
  rw [takeAxisNormalized_iff ht (ht.stridesFit hne) haxis.1, List.length_map, List.forall_mem_map,
    productFits_set (ht.zero_notMem hne) ht.prod_lt]
  refine and_congr_left' (and_congr_right fun _ => and_iff_right_of_imp fun hlt => ?_)
  exact lt_of_prod_set_lt (ht.zero_notMem hne) haxis.1 hlt

include ht hne in
theorem indexAxis_iff {axis : Int64} {index : UInt64} :
    t.indexAxis axis index = .ok out ↔ ∃ a, AxisDenotes t.dims.length axis a ∧
      index.toNat < t.dims.getD a 0 ∧
      t.Gathers out (t.dims.set a 1) fun i => i.set a index.toNat := by
  have hzero : ∀ a i, InBounds (t.dims.set a 1) i → a < t.dims.length →
      i.set a (([index].map UInt64.toNat).getD (i.getD a 0) 0) = i.set a index.toNat := by
    intro a i hi ha
    rw [Nat.lt_one_iff.mp (hi.getD_set_lt ha)]
    rfl
  rw [indexAxis, takeAxis_iff ht hne]
  refine exists_congr fun a => and_congr_right fun haxis => ?_
  constructor
  · rintro ⟨⟨hin, -⟩, hgathers⟩
    exact ⟨hin index (by simp), hgathers.congr fun i hi => hzero a i hi haxis.1⟩
  · rintro ⟨hin, hgathers⟩
    refine ⟨⟨by simpa using hin, ?_⟩, hgathers.congr fun i hi => (hzero a i hi haxis.1).symm⟩
    have hone : t.dims.set a 1 = t.dims.set a [index].length := rfl
    rw [← hone]
    refine lt_of_le_of_lt ?_ ht.prod_lt
    exact prod_set_le_of_le haxis.1 (by omega)

include ht hne in
theorem sliceAxis_iff {axis : Int64} {start stop : UInt64} :
    t.sliceAxis axis start stop = .ok out ↔ ∃ a, AxisDenotes t.dims.length axis a ∧
      (start.toNat ≤ stop.toNat ∧ stop.toNat ≤ t.dims.getD a 0) ∧
      t.Gathers out (t.dims.set a (stop.toNat - start.toNat))
        fun index => index.set a (start.toNat + index.getD a 0) := by
  rw [sliceAxis, axis_bind_eq_ok ht]
  refine exists_congr fun a => and_congr_right fun haxis => ?_
  rw [bind_eq_ok]
  simp only [failIf_eq_ok, not_or, not_lt, exists_const]
  refine and_congr_right ?_
  rintro ⟨hstart, hstop⟩
  have hsource : ∀ index, InBounds (t.dims.set a (stop.toNat - start.toNat)) index →
      index.set a ((List.range' start.toNat (stop.toNat - start.toNat)).getD
        (index.getD a 0) 0) = index.set a (start.toNat + index.getD a 0) := by
    intro index hindex
    have hpos := hindex.getD_set_lt haxis.1
    rw [List.getD_eq_getElem _ _ (by rwa [List.length_range']), List.getElem_range', one_mul]
  rw [takeAxisNormalized_iff ht (ht.stridesFit hne) haxis.1, List.length_range']
  constructor
  · rintro ⟨-, hgathers⟩
    exact hgathers.congr hsource
  · intro hgathers
    refine ⟨⟨fun k hk => ?_, ?_, ?_⟩, hgathers.congr fun index hindex => (hsource index hindex).symm⟩
    · have := List.mem_range'_1.mp hk
      omega
    · have := stop.toNat_lt
      omega
    · rw [productFits_set (ht.zero_notMem hne) ht.prod_lt]
      exact (prod_set_le_of_le haxis.1 (by omega)).trans_lt ht.prod_lt

include ht hne in
theorem repeatAxis_iff {axis : Int64} {repeats : UInt64} :
    t.repeatAxis axis repeats = .ok out ↔ ∃ a, AxisDenotes t.dims.length axis a ∧
      (t.dims.set a (t.dims.getD a 0 * repeats.toNat)).prod < 2 ^ usizeBits ∧
      t.Gathers out (t.dims.set a (t.dims.getD a 0 * repeats.toNat))
        fun index => index.set a (index.getD a 0 / repeats.toNat) := by
  rw [repeatAxis, axis_bind_eq_ok ht]
  refine exists_congr fun a => and_congr_right fun haxis => ?_
  have hzero := ht.zero_notMem hne
  refine eq_ok_iff (fun h => ?_) (fun hlt => ?_)
  · obtain ⟨len, hlen, h⟩ := bind_eq_ok.mp h
    obtain ⟨rfl, -⟩ := checkedMul_eq_some.mp (okOr_eq_ok.mp hlen)
    exact (of_mapTo_eq_ok h).2.prod_lt
  · have hlen : t.dims.getD a 0 * repeats.toNat < 2 ^ usizeBits :=
      lt_of_prod_set_lt hzero haxis.1 hlt
    rw [checkedMul_of_lt hlen, okOr_some, ok_bind]
    refine exists_mapTo_replaceAxis ht (ht.stridesFit hne) haxis.1 _ _ _ (fun i hi => ⟨rfl, ?_⟩)
      hlen ((productFits_set hzero ht.prod_lt).mpr hlt)
    exact Nat.div_lt_of_lt_mul (by rwa [Nat.mul_comm])

/-- The common end of the operations that keep the shape. -/
lemma mapTo_dims {g : {α : Type} → List α → Result (List α)} :
    t.mapTo t.dims g = (do
      let data ← t.data.mapValues g
      tensorFromData t.dtype t.shape data) := by
  rw [mapTo, dims, shapeUsizeToU64_shapeU64ToUsize, ok_bind]

lemma set_getD_self {shape : List ℕ} {a : ℕ} (ha : a < shape.length) :
    shape.set a (shape.getD a 0) = shape := by
  rw [List.getD_eq_getElem _ _ ha, List.set_getElem_self]

lemma getD_dims_lt {a : ℕ} (ha : a < t.dims.length) : t.dims.getD a 0 < 2 ^ 64 := by
  rw [List.getD_eq_getElem _ _ ha]
  exact t.dims_lt _ (List.getElem_mem ha)

include ht in
/-- The walk of a flip, whose strides fit. -/
lemma exists_flip (hstrides : StridesFit t.dims) {axis : Int64} {a : ℕ}
    (haxis : AxisDenotes t.dims.length axis a) : ∃ out, t.flip axis = .ok out ∧
      t.Gathers out t.dims fun index => index.set a (t.dims.getD a 0 - 1 - index.getD a 0) := by
  have hwalk := exists_mapTo_replaceAxis ht hstrides haxis.1 (t.dims.getD a 0)
    (fun position => okOr ((checkedSub (t.dims.getD a 0) 1).bind (checkedSub · position))
      (invalidArgument "index out of bounds")) (fun i => t.dims.getD a 0 - 1 - i)
    (fun i hi => ?_) ?_ ?_
  · obtain ⟨out, hout, hgathers⟩ := hwalk
    rw [set_getD_self haxis.1] at hout hgathers
    rw [mapTo_dims] at hout
    exact ⟨out, (axis_bind_eq_ok ht).mpr ⟨a, haxis, hout⟩, hgathers⟩
  · rw [checkedSub, if_pos (by omega), Option.bind_some, checkedSub, if_pos (by omega)]
    exact ⟨rfl, by omega⟩
  · exact getD_dims_lt haxis.1
  · rw [set_getD_self haxis.1]
    exact ht.productFits

include ht hne in
theorem flip_iff {axis : Int64} :
    t.flip axis = .ok out ↔ ∃ a, AxisDenotes t.dims.length axis a ∧
      t.Gathers out t.dims fun index => index.set a (t.dims.getD a 0 - 1 - index.getD a 0) := by
  constructor
  · intro h
    obtain ⟨a, haxis, -⟩ := (axis_bind_eq_ok ht).mp h
    exact ⟨a, haxis, (eq_ok_iff_gathers (exists_flip ht (ht.stridesFit hne) haxis)).mp h⟩
  · rintro ⟨a, haxis, hgathers⟩
    exact (eq_ok_iff_gathers (exists_flip ht (ht.stridesFit hne) haxis)).mpr hgathers

/-- The position that a rolled axis reads, in machine words and in integers. -/
lemma roll_position {i len : ℕ} {shift : ℤ} (hi : i < len) :
    (i + len - (shift % len).toNat) % len = (((i : ℤ) - shift) % len).toNat := by
  have hlen : (len : ℤ) ≠ 0 := by omega
  have hlow : 0 ≤ shift % len := Int.emod_nonneg _ hlen
  have hhigh : shift % len < len := Int.emod_lt_of_pos _ (by omega)
  have hsub : (((i + len - (shift % len).toNat : ℕ)) : ℤ) = i - shift + len * (1 + shift / len) := by
    have hdiv := Int.emod_add_mul_ediv shift len
    rw [Nat.cast_sub (by omega), Nat.cast_add, Int.toNat_of_nonneg hlow, mul_add, mul_one]
    omega
  apply Int.ofNat_inj.mp
  rw [Int.natCast_mod, hsub, Int.add_mul_emod_self_left,
    Int.toNat_of_nonneg (Int.emod_nonneg _ hlen)]

/-- An axis that is walked over fits an `isize`. -/
lemma getD_dims_lt_isize (ht : t.Valid) (hne : t.data.len ≠ 0) {a : ℕ}
    (ha : a < t.dims.length) : t.dims.getD a 0 < 2 ^ 63 := by
  have hle : t.dims.getD a 0 ≤ t.dims.prod := by
    rw [List.getD_eq_getElem _ _ ha]
    exact le_prod_of_mem (ht.zero_notMem hne) (List.getElem_mem ha)
  have hlen := ht.len_lt
  rw [ht.len_eq] at hlen
  omega

include ht in
/-- The walk of a roll, whose strides fit; nothing is walked over when there are no values. -/
lemma exists_roll (hstrides : StridesFit t.dims) {axis shift : Int64} {a : ℕ}
    (haxis : AxisDenotes t.dims.length axis a) : ∃ out, t.roll axis shift = .ok out ∧
      t.Gathers out t.dims fun index => index.set a
        (((index.getD a 0 : ℤ) - shift.toInt) % (t.dims.getD a 0 : ℤ)).toNat := by
  have hroll : ∃ out, t.mapTo t.dims (fun values => rollValues values t.dims a shift) = .ok out ∧
      t.Gathers out t.dims fun index => index.set a
        (((index.getD a 0 : ℤ) - shift.toInt) % (t.dims.getD a 0 : ℤ)).toNat := by
    refine exists_mapTo ht ht.dims_ne_nil t.dims_lt ht.productFits fun {α} values hvalues => ?_
    simp only [rollValues, shapeProductUsize_eq_ok.mpr ⟨rfl, ht.productFits⟩, ok_bind,
      rowMajorStrides_eq_ok.mpr ⟨rfl, hstrides⟩]
    by_cases hempty : t.dims.prod = 0
    · -- no multi-index is in bounds
      have hnone : ∀ index, ¬ InBounds t.dims index := fun index hindex =>
        absurd hindex.prod_pos (by omega)
      rw [if_pos (.inl hempty)]
      exact ⟨[], rfl, hempty.symm, fun index hindex => absurd hindex (hnone index),
        fun index hindex => absurd hindex (hnone index)⟩
    · have hne : t.data.len ≠ 0 := by rwa [ht.len_eq]
      have hpos : 0 < t.dims.getD a 0 := by
        rw [List.getD_eq_getElem _ _ haxis.1]
        exact Nat.pos_of_ne_zero fun heq => ht.zero_notMem hne (heq ▸ List.getElem_mem haxis.1)
      have hsource : SourceIs t.dims t.dims (fun _ outIndices => replaceAxis a
          (fun position => .ok ((position + t.dims.getD a 0 -
            (shift.toInt % t.dims.getD a 0).toNat) % t.dims.getD a 0)) outIndices)
          (fun index => index.set a
            (((index.getD a 0 : ℤ) - shift.toInt) % (t.dims.getD a 0 : ℤ)).toNat) := by
        have hset := sourceIs_replaceAxis haxis.1 (t.dims.getD a 0)
          (fun position => .ok ((position + t.dims.getD a 0 -
            (shift.toInt % t.dims.getD a 0).toNat) % t.dims.getD a 0))
          (fun i => (((i : ℤ) - shift.toInt) % (t.dims.getD a 0 : ℤ)).toNat) fun i hi => ?_
        · rwa [set_getD_self haxis.1] at hset
        · rw [← roll_position hi]
          exact ⟨rfl, Nat.mod_lt _ hpos⟩
      rw [if_neg (by omega), isizeTryFrom_eq (getD_dims_lt_isize ht hne haxis.1), ok_bind]
      exact exists_gathered hsource hvalues ht.prod_lt
  obtain ⟨out, hout, hgathers⟩ := hroll
  rw [mapTo_dims] at hout
  exact ⟨out, (axis_bind_eq_ok ht).mpr ⟨a, haxis, hout⟩, hgathers⟩

include ht hne in
theorem roll_iff {axis shift : Int64} :
    t.roll axis shift = .ok out ↔ ∃ a, AxisDenotes t.dims.length axis a ∧
      t.Gathers out t.dims fun index => index.set a
        (((index.getD a 0 : ℤ) - shift.toInt) % (t.dims.getD a 0 : ℤ)).toNat := by
  constructor
  · intro h
    obtain ⟨a, haxis, -⟩ := (axis_bind_eq_ok ht).mp h
    exact ⟨a, haxis, (eq_ok_iff_gathers (exists_roll ht (ht.stridesFit hne) haxis)).mp h⟩
  · rintro ⟨a, haxis, hgathers⟩
    exact (eq_ok_iff_gathers (exists_roll ht (ht.stridesFit hne) haxis)).mpr hgathers

end NonEmpty

end Tensor

end ArcadiaTio.Tio
