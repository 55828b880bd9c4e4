import Mathlib.Data.UInt
import ArcadiaTio.Tensor.Broadcast
import ArcadiaTio.Tensor.Permute

/-!
# Rearranging operations are exact

For each rearranging operation, the arguments for which it succeeds and the tensor that it then
returns.  An argument that names axes denotes axes of the tensor, which the statements quantify:
`Rearranges` says that an operation succeeds exactly when its arguments denote something, and that
its output is the tensor gathered at the sources that go with what they denote.
-/

namespace ArcadiaTio.Tio

open ArcadiaTio.Lib ArcadiaTio.Lib.RowMajor

namespace Tensor

variable {t out : Tensor}

/-! ### Gathered tensors exist -/

/-- Every source that stays in bounds can be gathered. -/
lemma exists_gathers (ht : t.Valid) {shape : List ℕ} {f : List ℕ → List ℕ} (hshape : shape ≠ [])
    (hlt : ∀ n ∈ shape, n < 2 ^ 64) (hfits : ProductFits shape)
    (hf : ∀ index, InBounds shape index → InBounds t.dims (f index)) :
    ∃ out, t.Gathers out shape f := by
  have hsource : SourceIs t.dims shape (fun _ outIndices => .ok (f outIndices)) f :=
    fun _ outIndices _ hbounds => ⟨rfl, hf outIndices hbounds⟩
  obtain ⟨out, -, hgathers⟩ := exists_mapTo ht hshape hlt hfits fun _ hvalues =>
    exists_gathered hsource hvalues ht.prod_lt
  exact ⟨out, hgathers⟩

/-- The same for the replacement of one axis. -/
lemma exists_gathers_set (ht : t.Valid) (hne : t.data.len ≠ 0) {a m : ℕ} {g : ℕ → ℕ}
    (ha : a < t.dims.length) (hm : (t.dims.set a m).prod < 2 ^ usizeBits)
    (hg : ∀ i < m, g i < t.dims.getD a 0) :
    ∃ out, t.Gathers out (t.dims.set a m) fun index => index.set a (g (index.getD a 0)) := by
  have hzero := ht.zero_notMem hne
  have hm64 : m < 2 ^ 64 := lt_of_prod_set_lt hzero ha hm
  refine exists_gathers ht (ht.set_ne_nil a m) (lt_of_mem_set t.dims_lt hm64)
    ((productFits_set hzero ht.prod_lt).mpr hm) fun index hindex => ?_
  have hset := hindex.set (a := a) (hg _ (hindex.getD_set_lt ha))
  rwa [List.set_set, set_getD_self ha] at hset

/-- The same for an operation that keeps the length of the axis. -/
lemma exists_gathers_axis (ht : t.Valid) (hne : t.data.len ≠ 0) {a : ℕ} {g : ℕ → ℕ}
    (ha : a < t.dims.length) (hg : ∀ i < t.dims.getD a 0, g i < t.dims.getD a 0) :
    ∃ out, t.Gathers out t.dims fun index => index.set a (g (index.getD a 0)) := by
  have hgathers := exists_gathers_set ht hne (m := t.dims.getD a 0) ha
    (by rw [set_getD_self ha]; exact ht.prod_lt) hg
  rwa [set_getD_self ha] at hgathers

/-- The same for a permutation of the axes. -/
lemma exists_gathers_permute (ht : t.Valid) (hne : t.data.len ≠ 0) {p : List ℕ}
    (hp : IsAxisPermutation t.dims.length p) :
    ∃ out, t.Gathers out (p.map fun a => t.dims.getD a 0) (permuteIndex p) := by
  have hperm := hp.map_perm t.dims rfl
  have hzero : 0 ∉ p.map fun a => t.dims.getD a 0 := fun hmem =>
    ht.zero_notMem hne (hperm.mem_iff.mp hmem)
  refine exists_gathers ht (fun hnil => ht.dims_ne_nil ?_)
    (fun n hn => t.dims_lt n (hperm.mem_iff.mp hn)) ?_ fun _ => hp.inBounds_permuteIndex rfl
  · rw [hnil] at hperm
    exact hperm.nil_eq.symm
  · rw [productFits_iff hzero, hperm.prod_eq]
    exact ht.prod_lt

lemma exists_gathers_move (ht : t.Valid) (hne : t.data.len ≠ 0) {p shape : List ℕ}
    {f : List ℕ → List ℕ} (h : AxisMove t.dims p shape f) : ∃ out, t.Gathers out shape f := by
  obtain ⟨out, hout⟩ := exists_gathers_permute ht hne h.isPermutation
  rw [h.shape_eq] at hout
  exact ⟨out, hout.congr fun _ => h.permuteIndex_eq⟩

/-! ### The operations -/

/-- An operation on `t` that succeeds exactly when its arguments denote something, and then returns
the tensor gathered for what they denote. -/
structure Rearranges {ι : Type} (t : Tensor) (op : Result Tensor) (denotes : ι → Prop)
    (shape : ι → List ℕ) (source : ι → List ℕ → List ℕ) : Prop where
  succeeds_iff : (∃ out, op = .ok out) ↔ ∃ i, denotes i
  gathers : ∀ out, op = .ok out → ∃ i, denotes i ∧ t.Gathers out (shape i) (source i)

lemma Rearranges.of_iff {ι : Type} {op : Result Tensor} {denotes : ι → Prop}
    {shape : ι → List ℕ} {source : ι → List ℕ → List ℕ}
    (h : ∀ out, op = .ok out ↔ ∃ i, denotes i ∧ t.Gathers out (shape i) (source i))
    (hex : ∀ i, denotes i → ∃ out, t.Gathers out (shape i) (source i)) :
    t.Rearranges op denotes shape source where
  succeeds_iff := by
    constructor
    · rintro ⟨out, hout⟩
      obtain ⟨i, hi, -⟩ := (h out).mp hout
      exact ⟨i, hi⟩
    · rintro ⟨i, hi⟩
      obtain ⟨out, hout⟩ := hex i hi
      exact ⟨out, (h out).mpr ⟨i, hi, hout⟩⟩
  gathers out hout := (h out).mp hout

/-- An operation whose arguments denote nothing but their own condition. -/
lemma Rearranges.of_iff_and {op : Result Tensor} {cond : Prop} {shape : List ℕ}
    {source : List ℕ → List ℕ} (h : ∀ out, op = .ok out ↔ cond ∧ t.Gathers out shape source)
    (hex : cond → ∃ out, t.Gathers out shape source) :
    t.Rearranges op (fun _ : Unit => cond) (fun _ => shape) (fun _ => source) :=
  .of_iff (fun out => (h out).trans ⟨fun hout => ⟨(), hout⟩, fun ⟨_, hout⟩ => hout⟩)
    fun _ => hex

/-- Every rearranging operation on `t` returns, for the arguments that it accepts, the tensor whose
element at a multi-index is the one of `t` at the reference source. -/
structure RearrangedExactly (t : Tensor) : Prop where
  permuteAxes : ∀ axes, t.Rearranges (t.permuteAxes axes)
    (PermutationDenotes t.dims.length axes) (fun p => p.map fun a => t.dims.getD a 0) permuteIndex
  swapAxes : ∀ axisA axisB, t.Rearranges (t.swapAxes axisA axisB)
    (fun p : ℕ × ℕ => AxisDenotes t.dims.length axisA p.1 ∧ AxisDenotes t.dims.length axisB p.2)
    (fun p => swapAt p.1 p.2 t.dims) (fun p => swapAt p.1 p.2)
  transpose : t.Rearranges t.transpose (fun _ : Unit => True) (fun _ => t.dims.reverse)
    (fun _ => List.reverse)
  moveAxis : ∀ source destination, t.Rearranges (t.moveAxis source destination)
    (fun p : ℕ × ℕ => AxisDenotes t.dims.length source p.1 ∧
      AxisDenotes t.dims.length destination p.2)
    (fun p => moveAt p.1 p.2 t.dims) (fun p => moveAt p.2 p.1)
  broadcastTo : ∀ shape, t.Rearranges (t.broadcastTo shape)
    (fun _ : Unit => BroadcastsTo t.dims (shapeU64ToUsize shape) ∧
      ProductFits (shapeU64ToUsize shape))
    (fun _ => shapeU64ToUsize shape) (fun _ => broadcastIndex t.dims)
  sliceAxis : ∀ axis start stop, t.Rearranges (t.sliceAxis axis start stop)
    (fun a => AxisDenotes t.dims.length axis a ∧
      start.toNat ≤ stop.toNat ∧ stop.toNat ≤ t.dims.getD a 0)
    (fun a => t.dims.set a (stop.toNat - start.toNat))
    (fun a index => index.set a (start.toNat + index.getD a 0))
  takeAxis : ∀ axis indices, t.Rearranges (t.takeAxis axis indices)
    (fun a => AxisDenotes t.dims.length axis a ∧ (∀ k ∈ indices, k.toNat < t.dims.getD a 0) ∧
      (t.dims.set a indices.length).prod < 2 ^ usizeBits)
    (fun a => t.dims.set a indices.length)
    (fun a index => index.set a ((indices.map UInt64.toNat).getD (index.getD a 0) 0))
  indexAxis : ∀ axis position, t.Rearranges (t.indexAxis axis position)
    (fun a => AxisDenotes t.dims.length axis a ∧ position.toNat < t.dims.getD a 0)
    (fun a => t.dims.set a 1) (fun a index => index.set a position.toNat)
  repeatAxis : ∀ axis repeats, t.Rearranges (t.repeatAxis axis repeats)
    (fun a => AxisDenotes t.dims.length axis a ∧
      (t.dims.set a (t.dims.getD a 0 * repeats.toNat)).prod < 2 ^ usizeBits)
    (fun a => t.dims.set a (t.dims.getD a 0 * repeats.toNat))
    (fun a index => index.set a (index.getD a 0 / repeats.toNat))
  tile : ∀ reps, t.Rearranges (t.tile reps)
    (fun _ : Unit => reps.length = t.dims.length ∧
      (∀ n ∈ tileShape t.dims reps, n < 2 ^ usizeBits) ∧ ProductFits (tileShape t.dims reps))
    (fun _ => tileShape t.dims reps) (fun _ => tileIndex t.dims)
  flip : ∀ axis, t.Rearranges (t.flip axis) (AxisDenotes t.dims.length axis) (fun _ => t.dims)
    (fun a index => index.set a (t.dims.getD a 0 - 1 - index.getD a 0))
  roll : ∀ axis shift, t.Rearranges (t.roll axis shift) (AxisDenotes t.dims.length axis)
    (fun _ => t.dims)
    (fun a index => index.set a
      (((index.getD a 0 : ℤ) - shift.toInt) % (t.dims.getD a 0 : ℤ)).toNat)

lemma rearranges_broadcastTo (ht : t.Valid) (hstrides : StridesFit t.dims)
    (shape : List UInt64) : t.Rearranges (t.broadcastTo shape)
    (fun _ : Unit => BroadcastsTo t.dims (shapeU64ToUsize shape) ∧
      ProductFits (shapeU64ToUsize shape))
    (fun _ => shapeU64ToUsize shape) (fun _ => broadcastIndex t.dims) := by
  refine .of_iff_and (fun _ => broadcastTo_iff ht hstrides) ?_
  rintro ⟨hto, hfits⟩
  refine exists_gathers ht (fun hnil => ht.dims_ne_nil ?_)
    (Tensor.dims_lt ⟨t.dtype, shape, t.data⟩) hfits fun index hindex => ?_
  · have hle := hto.1
    rw [hnil] at hle
    exact List.length_eq_zero_iff.mp (Nat.le_zero.mp hle)
  · have hbounds := inBounds_broadcastSource hto hindex
    rwa [← hindex.length_eq, broadcastSource_eq (by rw [hindex.length_eq]; exact hto.1)] at hbounds

section Exact

variable (ht : t.Valid) (hne : t.data.len ≠ 0)

include ht hne

lemma rearranges_permuteAxes (axes : List Int64) : t.Rearranges (t.permuteAxes axes)
    (PermutationDenotes t.dims.length axes) (fun p => p.map fun a => t.dims.getD a 0)
    permuteIndex :=
  .of_iff (fun _ => permuteAxes_iff ht hne) fun _ hp => exists_gathers_permute ht hne hp.2

/-- Two axis arguments. -/
lemma Rearranges.of_iff_pair {op : Result Tensor} {axisA axisB : Int64}
    {shape : ℕ → ℕ → List ℕ} {source : ℕ → ℕ → List ℕ → List ℕ}
    (h : ∀ out, op = .ok out ↔ ∃ a b, AxisDenotes t.dims.length axisA a ∧
      AxisDenotes t.dims.length axisB b ∧ t.Gathers out (shape a b) (source a b))
    (hmove : ∀ a b, a < t.dims.length → b < t.dims.length →
      ∃ p, AxisMove t.dims p (shape a b) (source a b)) :
    t.Rearranges op
      (fun p : ℕ × ℕ => AxisDenotes t.dims.length axisA p.1 ∧ AxisDenotes t.dims.length axisB p.2)
      (fun p => shape p.1 p.2) (fun p => source p.1 p.2) := by
  refine .of_iff (fun out => (h out).trans ?_) ?_
  · constructor
    · rintro ⟨a, b, ha, hb, hout⟩
      exact ⟨(a, b), ⟨ha, hb⟩, hout⟩
    · rintro ⟨⟨a, b⟩, ⟨ha, hb⟩, hout⟩
      exact ⟨a, b, ha, hb, hout⟩
  · rintro ⟨a, b⟩ ⟨ha, hb⟩
    obtain ⟨p, hp⟩ := hmove a b ha.1 hb.1
    exact exists_gathers_move ht hne hp

lemma rearranges_tile (reps : List UInt64) : t.Rearranges (t.tile reps)
    (fun _ : Unit => reps.length = t.dims.length ∧
      (∀ n ∈ tileShape t.dims reps, n < 2 ^ usizeBits) ∧ ProductFits (tileShape t.dims reps))
    (fun _ => tileShape t.dims reps) (fun _ => tileIndex t.dims) := by
  refine .of_iff_and (fun _ => tile_iff ht (ht.stridesFit hne)) ?_
  rintro ⟨hlen, hall, hfits⟩
  refine exists_gathers ht (tileShape_ne_nil ht.dims_ne_nil hlen) hall hfits fun _ =>
    inBounds_tileIndex hlen

lemma rearranges_takeAxis (axis : Int64) (indices : List UInt64) :
    t.Rearranges (t.takeAxis axis indices)
    (fun a => AxisDenotes t.dims.length axis a ∧ (∀ k ∈ indices, k.toNat < t.dims.getD a 0) ∧
      (t.dims.set a indices.length).prod < 2 ^ usizeBits)
    (fun a => t.dims.set a indices.length)
    (fun a index => index.set a ((indices.map UInt64.toNat).getD (index.getD a 0) 0)) := by
  refine .of_iff (fun _ => (takeAxis_iff ht hne).trans ?_) ?_
  · simp only [and_assoc]
  · rintro a ⟨ha, hin, hlt⟩
    refine exists_gathers_set (g := fun i => (indices.map UInt64.toNat).getD i 0) ht hne ha.1 hlt
      fun i hi => ?_
    rw [List.getD_eq_getElem _ _ (by rwa [List.length_map]), List.getElem_map]
    exact hin _ (List.getElem_mem hi)

lemma rearranges_sliceAxis (axis : Int64) (start stop : UInt64) :
    t.Rearranges (t.sliceAxis axis start stop)
    (fun a => AxisDenotes t.dims.length axis a ∧
      start.toNat ≤ stop.toNat ∧ stop.toNat ≤ t.dims.getD a 0)
    (fun a => t.dims.set a (stop.toNat - start.toNat))
    (fun a index => index.set a (start.toNat + index.getD a 0)) := by
  refine .of_iff (fun _ => (sliceAxis_iff ht hne).trans ?_) ?_
  · simp only [and_assoc]
  · rintro a ⟨ha, hstart, hstop⟩
    refine exists_gathers_set ht hne ha.1 ?_ fun i hi => by omega
    exact (prod_set_le_of_le ha.1 (by omega)).trans_lt ht.prod_lt

lemma rearranges_indexAxis (axis : Int64) (position : UInt64) :
    t.Rearranges (t.indexAxis axis position)
    (fun a => AxisDenotes t.dims.length axis a ∧ position.toNat < t.dims.getD a 0)
    (fun a => t.dims.set a 1) (fun a index => index.set a position.toNat) := by
  refine .of_iff (fun _ => (indexAxis_iff ht hne).trans ?_) ?_
  · simp only [and_assoc]
  · rintro a ⟨ha, hlt⟩
    refine exists_gathers_set (g := fun _ => position.toNat) ht hne ha.1 ?_ fun _ _ => hlt
    exact (prod_set_le_of_le ha.1 (by omega)).trans_lt ht.prod_lt

lemma rearranges_repeatAxis (axis : Int64) (repeats : UInt64) :
    t.Rearranges (t.repeatAxis axis repeats)
    (fun a => AxisDenotes t.dims.length axis a ∧
      (t.dims.set a (t.dims.getD a 0 * repeats.toNat)).prod < 2 ^ usizeBits)
    (fun a => t.dims.set a (t.dims.getD a 0 * repeats.toNat))
    (fun a index => index.set a (index.getD a 0 / repeats.toNat)) := by
  refine .of_iff (fun _ => (repeatAxis_iff ht hne).trans ?_) ?_
  · simp only [and_assoc]
  · rintro a ⟨ha, hlt⟩
    refine exists_gathers_set (g := (· / repeats.toNat)) ht hne ha.1 hlt fun i hi => ?_
    exact Nat.div_lt_of_lt_mul (by rwa [Nat.mul_comm])

lemma rearranges_roll (axis shift : Int64) :
    t.Rearranges (t.roll axis shift) (AxisDenotes t.dims.length axis) (fun _ => t.dims)
    (fun a index => index.set a
      (((index.getD a 0 : ℤ) - shift.toInt) % (t.dims.getD a 0 : ℤ)).toNat) := by
  refine .of_iff (fun _ => roll_iff ht hne) fun a ha => ?_
  refine exists_gathers_axis (g := fun i => (((i : ℤ) - shift.toInt) %
    (t.dims.getD a 0 : ℤ)).toNat) ht hne ha.1 fun i hi => ?_
  rw [← roll_position hi]
  exact Nat.mod_lt _ (by omega)

/-- Tensor rearrangement is exact gathering. -/
theorem rearranged_exactly : t.RearrangedExactly where
  permuteAxes := rearranges_permuteAxes ht hne
  swapAxes _ _ := Rearranges.of_iff_pair ht hne (fun _ => swapAxes_iff ht hne)
    fun _ _ ha hb => ⟨_, axisMove_swapAt ha hb⟩
  transpose := .of_iff_and (fun _ => (transpose_iff ht hne).trans (true_and _ ▸ Iff.rfl)) fun _ =>
    exists_gathers_move ht hne axisMove_reverse
  moveAxis _ _ := Rearranges.of_iff_pair ht hne
    (fun _ => moveAxis_iff ht hne) fun _ _ ha hb => ⟨_, axisMove_moveAt ha hb⟩
  broadcastTo := rearranges_broadcastTo ht (ht.stridesFit hne)
  sliceAxis := rearranges_sliceAxis ht hne
  takeAxis := rearranges_takeAxis ht hne
  indexAxis := rearranges_indexAxis ht hne
  repeatAxis := rearranges_repeatAxis ht hne
  tile := rearranges_tile ht hne
  flip axis := .of_iff (fun _ => flip_iff ht hne) fun a ha =>
    exists_gathers_axis (g := fun i => t.dims.getD a 0 - 1 - i) ht hne ha.1 fun i hi => by omega
  roll := rearranges_roll ht hne

end Exact

/-- Six values on two axes, and their valid tensor. -/
def sampleMatrix : Tensor := ⟨.i32, [2, 3], .i32 [1, 2, 3, 4, 5, 6]⟩

lemma sampleMatrix_valid : sampleMatrix.Valid := ⟨by rfl, by decide, by decide⟩

theorem sampleMatrix_rearranged : sampleMatrix.RearrangedExactly :=
  rearranged_exactly sampleMatrix_valid (by decide)

example : sampleMatrix.roll (-1) 1 = .ok ⟨.i32, [2, 3], .i32 [3, 1, 2, 6, 4, 5]⟩ := by decide

/-- The element count of the target is zero, and the running product of its axes is not. -/
theorem broadcastTo_count_fits_error :
    Tensor.Valid ⟨.i32, [1], .i32 [7]⟩ ∧
    BroadcastsTo [1] (shapeU64ToUsize [2 ^ 40, 2 ^ 40, 0]) ∧
    (shapeU64ToUsize [2 ^ 40, 2 ^ 40, 0]).prod < 2 ^ usizeBits ∧
    ∀ out, Tensor.broadcastTo ⟨.i32, [1], .i32 [7]⟩ [2 ^ 40, 2 ^ 40, 0] ≠ .ok out := by
  refine ⟨⟨by rfl, by decide, by decide⟩, ⟨by decide, fun a ha => Or.inr ?_⟩, by decide, ?_⟩
  · obtain rfl := Nat.lt_one_iff.mp ha
    rfl
  · intro out h
    have herror : Tensor.broadcastTo ⟨.i32, [1], .i32 [7]⟩ [2 ^ 40, 2 ^ 40, 0] =
        .error (invalidArgument "shape product overflow") := by decide
    rw [herror] at h
    cases h

end Tensor

end ArcadiaTio.Tio
