import ArcadiaTio.Lib.PySlice
import ArcadiaTio.Tensor.Rearrange

/-!
# Stepped slices

`stridedIndices` computes the positions of a stepped slice in checked `isize` arithmetic: the
bounds are offset by the axis length and clamped, and a loop moves on by the step until it has
passed the end.  It reports an overflow of the move past the end, although no further position is
wanted; otherwise its positions are those of Python's slice (`stridedIndices_eq_ok`).

`sliceAxisStep_iff` lifts this to tensors: when a stepped slice succeeds with the positions of
Python's slice.
-/

namespace ArcadiaTio.Tio

open ArcadiaTio.Lib ArcadiaTio.Lib.RowMajor

/-! ### The loops -/

/-- A value of type `usize`, from an `isize`. -/
def usizeTryFrom (value : ℤ) (message : String) : Result ℕ := do
  failIf (value < 0) (invalidArgument message)
  return value.toNat

/-- Move up by the step while the position is before `stop`. -/
def stridedForward (step : ℤ) (hstep : 0 < step) (stop current : ℤ) : Result (List ℕ) :=
  if current < stop then
    usizeTryFrom current "slice index overflow" >>= fun index =>
      match _hnext : checkedAddIsize current step with
      | none => .error (invalidArgument "slice index overflow")
      | some next => stridedForward step hstep stop next >>= fun rest => .ok (index :: rest)
  else .ok []
termination_by (stop - current).toNat
decreasing_by
  simp only [checkedAddIsize, Option.ite_none_right_eq_some, Option.some.injEq] at _hnext
  omega

/-- Move down by the step while the position is after `stop`. -/
def stridedBackward (step : ℤ) (hstep : step < 0) (stop current : ℤ) : Result (List ℕ) :=
  if stop < current then
    (if 0 ≤ current then (fun index => [index]) <$> usizeTryFrom current "slice index overflow"
      else .ok []) >>= fun index =>
      match _hnext : checkedAddIsize current step with
      | none => .error (invalidArgument "slice index overflow")
      | some next => stridedBackward step hstep stop next >>= fun rest => .ok (index ++ rest)
  else .ok []
termination_by (current - stop).toNat
decreasing_by
  simp only [checkedAddIsize, Option.ite_none_right_eq_some, Option.some.injEq] at _hnext
  omega

/-- A negative bound counts from the end. -/
def offsetBound (value len : ℤ) (message : String) : Result ℤ :=
  if value < 0 then okOr (checkedAddIsize value len) (invalidArgument message) else .ok value

/-- `Ord::clamp`. -/
def clamp (value low high : ℤ) : ℤ :=
  if value < low then low else if high < value then high else value

/-- The positions of a stepped slice of an axis. -/
def stridedIndices (len : ℕ) (start stop step : ℤ) (hstep : step ≠ 0) : Result (List ℕ) :=
  if len = 0 then .ok []
  else do
    let len ← isizeTryFrom len "axis length overflow"
    let current ← offsetBound start len "slice start overflow"
    let stop ← offsetBound stop len "slice end overflow"
    if hpos : 0 < step then
      stridedForward step hpos (clamp stop 0 len) (clamp current 0 len)
    else
      stridedBackward step (lt_of_le_of_ne (not_lt.mp hpos) hstep) (clamp stop (-1) (len - 1))
        (clamp current (-1) (len - 1))

/-- Select a stepped slice along one axis. -/
def Tensor.sliceAxisStep (t : Tensor) (axis start stop step : Int64) : Result Tensor :=
  if hstep : step.toInt = 0 then .error (invalidArgument "slice step cannot be zero")
  else do
    let shape ← validatedShape t
    let axis ← normalizeAxis axis shape.length
    let indices ← stridedIndices (shape.getD axis 0) start.toInt stop.toInt step.toInt hstep
    t.takeAxisNormalized shape axis indices

/-! ### What the loops compute -/

section Loops

variable {step stop current : ℤ} {l : List ℕ}

/-- The move from a position past the end may overflow; the other moves cannot. -/
lemma stridedForward_eq_ok (hstep : 0 < step) (hcurrent : 0 ≤ current) (hstop : stop < 2 ^ 63) :
    stridedForward step hstep stop current = .ok l ↔
      l = (PySlice.progression current stop step).map Int.toNat ∧
        ∀ k ∈ PySlice.progression current stop step, k + step < 2 ^ 63 := by
  obtain ⟨n, hn⟩ : ∃ n : ℕ, (stop - current).toNat = n := ⟨_, rfl⟩
  induction n using Nat.strong_induction_on generalizing current l with
  | _ n ih =>
    rw [stridedForward]
    by_cases hlt : current < stop
    · rw [if_pos hlt, usizeTryFrom, failIf_neg (by omega), ok_bind, pure_eq_ok, ok_bind,
        PySlice.progression_of_lt hstep hlt, List.map_cons, List.forall_mem_cons]
      split
      case h_1 hnext =>
        rw [checkedAddIsize, ite_eq_right_iff] at hnext
        constructor
        · intro h
          cases h
        · rintro ⟨-, hfits, -⟩
          exact absurd (hnext ⟨by omega, hfits⟩) (by simp)
      case h_2 next hnext =>
        rw [checkedAddIsize, Option.ite_none_right_eq_some, Option.some.injEq] at hnext
        obtain ⟨⟨-, hfits⟩, rfl⟩ := hnext
        rw [bind_eq_ok]
        have hnonneg : 0 ≤ current + step := by omega
        simp only [ih _ (by omega) hnonneg rfl, Except.ok.injEq]
        constructor
        · rintro ⟨rest, ⟨rfl, hrest⟩, rfl⟩
          exact ⟨rfl, hfits, hrest⟩
        · rintro ⟨rfl, -, hrest⟩
          exact ⟨_, ⟨rfl, hrest⟩, rfl⟩
    · rw [if_neg hlt, PySlice.progression_of_ge hstep (not_lt.mp hlt)]
      simp [eq_comm]

/-- Downwards no move overflows. -/
lemma stridedBackward_eq (hstep : step < 0) (hlow : -2 ^ 63 ≤ step) (hstop : -1 ≤ stop)
    (hcurrent : current < 2 ^ 63) : stridedBackward step hstep stop current =
      .ok ((PySlice.progression current stop step).map Int.toNat) := by
  obtain ⟨n, hn⟩ : ∃ n : ℕ, (current - stop).toNat = n := ⟨_, rfl⟩
  induction n using Nat.strong_induction_on generalizing current with
  | _ n ih =>
    rw [stridedBackward]
    by_cases hlt : stop < current
    · rw [if_pos hlt, if_pos (by omega), usizeTryFrom, failIf_neg (by omega), ok_bind, pure_eq_ok]
      split
      case h_1 hnext =>
        rw [checkedAddIsize, ite_eq_right_iff] at hnext
        exact absurd (hnext ⟨by omega, by omega⟩) (by simp)
      case h_2 next hnext =>
        rw [checkedAddIsize, Option.ite_none_right_eq_some, Option.some.injEq] at hnext
        obtain ⟨-, rfl⟩ := hnext
        rw [ih _ (by omega) (by omega) rfl, PySlice.progression_of_gt hstep hlt]
        rfl
    · rw [if_neg hlt, PySlice.progression_of_le hstep (not_lt.mp hlt)]
      rfl

lemma offsetBound_eq {value len : ℤ} {message : String} (hlow : -2 ^ 63 ≤ value)
    (hpos : 0 ≤ len) (hlen : len < 2 ^ 63) :
    offsetBound value len message = .ok (if value < 0 then value + len else value) := by
  rw [offsetBound]
  by_cases hneg : value < 0
  · rw [if_pos hneg, if_pos hneg, checkedAddIsize, if_pos (by omega), okOr_some]
  · rw [if_neg hneg, if_neg hneg]

lemma clamp_eq {value low high : ℤ} (h : low ≤ high) :
    clamp value low high = max low (min value high) := by
  rw [clamp]
  split
  · omega
  · split <;> omega

end Loops

/-- The positions are those of Python's slice, unless the axis is too long for an `isize` or the
move past the end overflows. -/
lemma stridedIndices_eq_ok {len : ℕ} {start stop step : Int64} (hstep : step.toInt ≠ 0)
    {l : List ℕ} : stridedIndices len start.toInt stop.toInt step.toInt hstep = .ok l ↔
      (len < 2 ^ 63 ∧ ∀ k ∈ PySlice.indices len start.toInt stop.toInt step.toInt,
        k + step.toInt < 2 ^ 63) ∧
      l = (PySlice.indices len start.toInt stop.toInt step.toInt).map Int.toNat := by
  have hstart := start.le_toInt
  have hstop := stop.le_toInt
  have hlow := step.le_toInt
  rw [stridedIndices]
  by_cases hzero : len = 0
  · -- an axis without positions
    have hnil : PySlice.indices len start.toInt stop.toInt step.toInt = [] := by
      have hlength : ((PySlice.indices len start.toInt stop.toInt step.toInt).length : ℤ) ≤ len :=
        PySlice.length_indices_le (by omega) hstep
      exact List.eq_nil_of_length_eq_zero (by omega)
    rw [if_pos hzero, hnil, hzero]
    simp [eq_comm]
  · rw [if_neg hzero]
    by_cases hlen : len < 2 ^ 63
    · rw [isizeTryFrom_eq hlen, ok_bind, offsetBound_eq hstart (by omega) (by omega), ok_bind,
        offsetBound_eq hstop (by omega) (by omega), ok_bind]
      by_cases hpos : 0 < step.toInt
      · rw [dif_pos hpos, clamp_eq (by omega), clamp_eq (by omega),
          stridedForward_eq_ok hpos (by omega) (by omega), PySlice.indices]
        simp only [PySlice.bound, if_pos hpos, hlen, true_and]
        exact and_comm
      · have hneg : step.toInt < 0 := lt_of_le_of_ne (not_lt.mp hpos) hstep
        have hfits : ∀ k ∈ PySlice.indices len start.toInt stop.toInt step.toInt,
            k + step.toInt < 2 ^ 63 := by
          intro k hk
          have hmem := PySlice.mem_indices (by omega) hstep hk
          omega
        rw [dif_neg hpos, clamp_eq (by omega), clamp_eq (by omega),
          stridedBackward_eq hneg hlow (by omega) (by omega), Except.ok.injEq,
          and_iff_right ⟨hlen, hfits⟩, PySlice.indices]
        simp only [PySlice.bound, if_neg hpos]
        exact eq_comm
    · rw [isizeTryFrom, failIf_pos (by omega)]
      constructor
      · intro h
        cases h
      · rintro ⟨⟨hlt, -⟩, -⟩
        exact absurd hlt hlen

/-! ### Stepped slices of tensors -/

/-- A shorter axis keeps every running product in a word. -/
lemma productFits_set_of_le {shape : List ℕ} {a m : ℕ} (h : ProductFits shape)
    (hm : m ≤ shape.getD a 0) : ProductFits (shape.set a m) := by
  intro pre hpre
  have htake : pre = (shape.take pre.length).set a m := by
    rw [← List.take_set]
    exact List.prefix_iff_eq_take.mp hpre
  have hinitial : (shape.take pre.length).prod < 2 ^ usizeBits := h _ (List.take_prefix _ _)
  rw [htake]
  by_cases ha : a < (shape.take pre.length).length
  · have hget : (shape.take pre.length).getD a 0 = shape.getD a 0 := by
      rw [List.length_take] at ha
      rw [List.getD_eq_getElem _ _ (by rw [List.length_take]; exact ha),
        List.getD_eq_getElem _ _ (by omega), List.getElem_take]
    exact (prod_set_le_of_le ha (by rwa [hget])).trans_lt hinitial
  · rwa [List.set_eq_of_length_le (by omega)]

namespace Tensor

variable {t out : Tensor}

/-- Taking positions computes the strides of the input, even for an empty output. -/
lemma stridesFit_of_takeAxisNormalized {shape indices : List ℕ} {a : ℕ}
    (h : t.takeAxisNormalized shape a indices = .ok out) : StridesFit shape := by
  have hgather : ∀ {α : Type} {values result : List α} {outShape : List ℕ},
      takeAxisValues values shape a indices outShape = .ok result → StridesFit shape := by
    intro α values result outShape hvalues
    obtain ⟨_, -, hvalues⟩ := bind_eq_ok.mp hvalues
    obtain ⟨_, hstrides, -⟩ := bind_eq_ok.mp hvalues
    exact (rowMajorStrides_eq_ok.mp hstrides).2
  obtain ⟨_, -, h⟩ := bind_eq_ok.mp h
  obtain ⟨_, -, h⟩ := bind_eq_ok.mp h
  obtain ⟨data, hdata, -⟩ := bind_eq_ok.mp h
  cases hpayload : t.data <;> rw [hpayload, TensorData.mapValues, map_eq_ok] at hdata
  all_goals
    obtain ⟨_, hvalues, -⟩ := hdata
    exact hgather hvalues

/-- The positions that a stepped slice of an axis should select. -/
def slicePositions (t : Tensor) (a : ℕ) (start stop step : Int64) : List ℤ :=
  PySlice.indices (t.dims.getD a 0) start.toInt stop.toInt step.toInt

/-- A stepped slice succeeds with the positions of Python's slice exactly when the axis is no longer
than an `isize`, the move past the end does not overflow, and the strides fit a word. -/
theorem sliceAxisStep_iff (ht : t.Valid) {axis start stop step : Int64} {a : ℕ}
    (haxis : AxisDenotes t.dims.length axis a) (hstep : step.toInt ≠ 0) :
    (∃ out, t.sliceAxisStep axis start stop step = .ok out ∧
      t.Gathers out (t.dims.set a (t.slicePositions a start stop step).length) fun index =>
        index.set a (((t.slicePositions a start stop step).map Int.toNat).getD
          (index.getD a 0) 0)) ↔
      t.dims.getD a 0 < 2 ^ 63 ∧
        (∀ k ∈ t.slicePositions a start stop step, k + step.toInt < 2 ^ 63) ∧
        StridesFit t.dims := by
  have hop : ∀ out, t.sliceAxisStep axis start stop step = .ok out ↔ ∃ l,
      stridedIndices (t.dims.getD a 0) start.toInt stop.toInt step.toInt hstep = .ok l ∧
        t.takeAxisNormalized t.dims a l = .ok out := by
    intro out
    rw [sliceAxisStep, dif_neg hstep, ht.validatedShape_eq, ok_bind,
      (normalizeAxis_eq_ok ht.rank_dims_lt).mpr haxis, ok_bind, bind_eq_ok]
  have hin : ∀ k ∈ (t.slicePositions a start stop step).map Int.toNat,
      k < t.dims.getD a 0 := by
    intro k hk
    obtain ⟨position, hposition, rfl⟩ := List.mem_map.mp hk
    have hmem := PySlice.mem_indices (by omega) hstep hposition
    omega
  have hlength : (t.slicePositions a start stop step).length ≤ t.dims.getD a 0 := by
    have hle : ((t.slicePositions a start stop step).length : ℤ) ≤ t.dims.getD a 0 :=
      PySlice.length_indices_le (by omega) hstep
    exact_mod_cast hle
  constructor
  · rintro ⟨out, hslice, -⟩
    obtain ⟨l, hl, htake⟩ := (hop out).mp hslice
    obtain ⟨⟨hlen, hmoves⟩, -⟩ := (stridedIndices_eq_ok hstep).mp hl
    exact ⟨hlen, hmoves, stridesFit_of_takeAxisNormalized htake⟩
  · rintro ⟨hlen, hmoves, hstrides⟩
    obtain ⟨out, hout, hgathers⟩ := exists_takeAxisNormalized ht hstrides haxis.1 hin
      (by rw [List.length_map]; omega)
      (productFits_set_of_le ht.productFits (by rwa [List.length_map]))
    rw [List.length_map] at hgathers
    exact ⟨out, (hop out).mpr ⟨_, (stridedIndices_eq_ok hstep).mpr ⟨⟨hlen, hmoves⟩, rfl⟩, hout⟩,
      hgathers⟩

/-- Five values on one axis. -/
def five : Tensor := ⟨.i32, [5], .i32 [10, 11, 12, 13, 14]⟩

lemma valid_five : five.Valid := ⟨by decide, by decide, by decide⟩

theorem sliceAxisStep_iff_five :
    (∃ out, five.sliceAxisStep 0 1 5 2 = .ok out ∧
      five.Gathers out (five.dims.set 0 (five.slicePositions 0 1 5 2).length) fun index =>
        index.set 0 (((five.slicePositions 0 1 5 2).map Int.toNat).getD (index.getD 0 0) 0)) ↔
      five.dims.getD 0 0 < 2 ^ 63 ∧
        (∀ k ∈ five.slicePositions 0 1 5 2, k + Int64.toInt 2 < 2 ^ 63) ∧ StridesFit five.dims :=
  sliceAxisStep_iff valid_five ⟨by decide, .inl (by decide)⟩ (by decide)

/-- One position is selected, and the move past the end overflows. -/
theorem sliceAxisStep_five_last_move : five.Valid ∧
    five.slicePositions 0 1 5 9223372036854775807 = [1] ∧
    five.sliceAxisStep 0 1 5 9223372036854775807 =
      .error (invalidArgument "slice index overflow") := by
  refine ⟨valid_five, by decide, ?_⟩
  have hshape : validatedShape five = .ok [5] := rfl
  have haxis : normalizeAxis 0 [5].length = .ok 0 := rfl
  have hindices : stridedIndices ([5].getD 0 0) (Int64.toInt 1) (Int64.toInt 5)
      (Int64.toInt 9223372036854775807) (by decide) =
        .error (invalidArgument "slice index overflow") := by
    have hone : Int64.toInt 1 = 1 := by decide
    have hfive : Int64.toInt 5 = 5 := by decide
    simp only [stridedIndices, hone, hfive, List.getD_cons_zero]
    rw [if_neg (by decide), isizeTryFrom_eq (by decide), ok_bind, offsetBound,
      if_neg (by decide), ok_bind, offsetBound, if_neg (by decide), ok_bind,
      dif_pos (by decide), stridedForward]
    rfl
  rw [sliceAxisStep, dif_neg (by decide), hshape, ok_bind, haxis, ok_bind, hindices]
  rfl

end Tensor

end ArcadiaTio.Tio
