import ArcadiaTio.Tensor.ReductionExact

/-!
# Laws of the reductions

Integer sums are exact or rejected.  A sum along one axis agrees with the last slice of the
cumulative sum along it, up to where the two start: the sum starts from zero, and the cumulative sum
from the first value of the line.  On integers that makes no difference; on floating-point values it
turns a negative zero into a positive one.
-/

namespace ArcadiaTio.Tio

open ArcadiaTio.Lib ArcadiaTio.Lib.RowMajor

/-! ### Integer sums -/

section Integers

variable {α : Type} {add : α → α → Result α} {toInt : α → ℤ} {low high : ℤ}

/-- A checked sum gets through when every initial sum is in range, and is exact then. -/
lemma foldlM_exact (hadd : ∀ a b r, add a b = .ok r ↔ toInt r = toInt a + toInt b)
    (hrange : ∀ v, (∃ r, toInt r = v) ↔ low ≤ v ∧ v < high) {l : List α} {start : α} :
    (IsOk (l.foldlM add start) ↔ ∀ pre, pre <+: l →
      low ≤ toInt start + (pre.map toInt).sum ∧ toInt start + (pre.map toInt).sum < high) ∧
    ∀ r, l.foldlM add start = .ok r → toInt r = toInt start + (l.map toInt).sum := by
  induction l generalizing start with
  | nil =>
    refine ⟨iff_of_true ⟨start, rfl⟩ fun pre hpre => ?_, fun r hr => ?_⟩
    · rw [List.prefix_nil.mp hpre]
      simpa using (hrange _).mp ⟨start, rfl⟩
    · rw [List.foldlM_nil, pure_eq_ok, Except.ok.injEq] at hr
      simp [hr]
  | cons a l ih =>
    have hsum : ∀ {next : α} (pre : List α), toInt next = toInt start + toInt a →
        toInt start + ((a :: pre).map toInt).sum = toInt next + (pre.map toInt).sum := by
      intro next pre hnext
      rw [List.map_cons, List.sum_cons, hnext, Int.add_assoc]
    rw [List.foldlM_cons]
    refine ⟨⟨?_, fun h => ?_⟩, fun r hr => ?_⟩
    · rintro ⟨r, hr⟩ pre hpre
      obtain ⟨next, hnext, hr⟩ := bind_eq_ok.mp hr
      have hvalue := (hadd start a next).mp hnext
      rcases List.prefix_cons_iff.mp hpre with rfl | ⟨tail, rfl, htail⟩
      · simpa using (hrange _).mp ⟨start, rfl⟩
      · rw [hsum tail hvalue]
        exact ih.1.mp ⟨r, hr⟩ tail htail
    · have hfirst := h [a] (by simp)
      rw [List.map_singleton, List.sum_singleton] at hfirst
      obtain ⟨next, hvalue⟩ := (hrange _).mpr hfirst
      have hrest : IsOk (l.foldlM add next) := by
        refine ih.1.mpr fun pre hpre => ?_
        rw [← hsum pre hvalue]
        exact h (a :: pre) (List.prefix_cons_inj a |>.mpr hpre)
      obtain ⟨r, hr⟩ := hrest
      exact ⟨r, bind_eq_ok.mpr ⟨next, (hadd start a next).mpr hvalue, hr⟩⟩
    · obtain ⟨next, hnext, hr⟩ := bind_eq_ok.mp hr
      rw [ih.2 r hr, hsum l ((hadd start a next).mp hnext)]

lemma addI32_eq_ok {message : String} {a b r : Int32} :
    addI32 message a b = .ok r ↔ r.toInt = a.toInt + b.toInt := by
  rw [addI32, checkedI32, okOr_eq_ok, toI32_eq_some]

lemma addI64_eq_ok {message : String} {a b r : Int64} :
    addI64 message a b = .ok r ↔ r.toInt = a.toInt + b.toInt := by
  rw [addI64, checkedI64, okOr_eq_ok, toI64_eq_some]

lemma exists_toInt_i32 (v : ℤ) : (∃ r : Int32, r.toInt = v) ↔ -2 ^ 31 ≤ v ∧ v < 2 ^ 31 := by
  constructor
  · rintro ⟨r, rfl⟩
    exact ⟨r.le_toInt, r.toInt_lt⟩
  · rintro ⟨hlow, hhigh⟩
    exact ⟨Int32.ofInt v, Int32.toInt_ofInt_of_le hlow hhigh⟩

lemma exists_toInt_i64 (v : ℤ) : (∃ r : Int64, r.toInt = v) ↔ -2 ^ 63 ≤ v ∧ v < 2 ^ 63 := by
  constructor
  · rintro ⟨r, rfl⟩
    exact ⟨r.le_toInt, r.toInt_lt⟩
  · rintro ⟨hlow, hhigh⟩
    exact ⟨Int64.ofInt v, Int64.toInt_ofInt_of_le hlow hhigh⟩

/-- What an integer sum of values of `low ≤ v < high` computes. -/
structure ExactSums (toInt : α → ℤ) (toData : List α → TensorData) (low high : ℤ)
    (shape : List ℕ) (plan : ReductionPlan) (values : List α) (result : Result Tensor) : Prop where
  isOk_iff : IsOk result ↔ ∀ o < plan.outElems, ∀ pre,
    pre <+: fibre plan.reduceMask shape values o →
      low ≤ (pre.map toInt).sum ∧ (pre.map toInt).sum < high
  exact : ∀ out, result = .ok out → ∃ sums, out.data = toData sums ∧
    sums.length = plan.outElems ∧ ∀ o < plan.outElems, ∃ s, sums[o]? = some s ∧
      toInt s = ((fibre plan.reduceMask shape values o).map toInt).sum

variable {t : Tensor} {axes : Option (List Int64)} {keepdims : Bool} {plan : ReductionPlan}

/-- The sums of a dtype whose addition is exact or rejected. -/
lemma Payload.Carries.exactSums {p : Payload α} {values : List α} (hp : p.Carries t values)
    (ops : FloatArith) (ht : t.Valid) (hne : t.data.len ≠ 0)
    (hplan : ReductionPlan.new t.dims axes keepdims = .ok plan) (hzero : toInt p.zero = 0)
    (hadd : ∀ a b r, p.add ops "integer reduction overflow" a b = .ok r ↔
      toInt r = toInt a + toInt b)
    (hrange : ∀ v, (∃ r, toInt r = v) ↔ low ≤ v ∧ v < high) :
    ExactSums toInt p.toData low high t.dims plan values (t.sum ops axes keepdims) where
  isOk_iff := by
    rw [Tensor.isOk_sum_iff ops ht hne hplan]
    refine forall₂_congr fun o _ => ?_
    rw [hp.foldlM_add ht "integer reduction overflow", Option.isSome_map, ← isOk_iff_toOption,
      (foldlM_exact hadd hrange).1]
    simp only [hzero, Int.zero_add]
  exact out hout := by
    obtain ⟨sums, hsums, hdata⟩ := hp.of_sum ops ht hne hplan hout
    obtain ⟨hcount, hcells⟩ :=
      (reduceSumValues_eq_ok (splits_of_new ht hne hplan).1 (hp.length_eq ht)).mp hsums
    refine ⟨sums, hdata, hcount, fun o ho => ?_⟩
    obtain ⟨s, hs, hentry⟩ := hcells o ho
    refine ⟨s, hentry, ?_⟩
    rw [(foldlM_exact hadd hrange).2 s hs, hzero, Int.zero_add]

end Integers

/-! ### One axis -/

/-- A relation that the start of a sum and the additions keep. -/
structure AbsorbsZero (ops : FloatArith) (dtype : DType) (R : Scalar → Scalar → Prop) : Prop where
  start : ∀ a s, Scalar.add ops (Scalar.zero dtype) a = some s → R s a
  step : ∀ a a' b s s', R a a' → Scalar.add ops a b = some s → Scalar.add ops a' b = some s' →
    R s s'

/-- The last slice of a cumulative sum along an axis, compared with the sum along it. -/
structure Tensor.EndsInSums (t : Tensor) (ops : FloatArith) (plan : ReductionPlan) (axis : Int64)
    (sums cumulated : Tensor) (slice : Tensor) : Prop where
  /-- it is the slice at the last position of the axis -/
  slice_eq : ∃ position, cumulated.indexAxis axis position = .ok slice ∧
    ∃ a, AxisDenotes t.dims.length axis a ∧ position.toNat + 1 = t.dims.getD a 0
  integer : t.dtype = .i32 ∨ t.dtype = .i64 → slice.data = sums.data
  cell : ∀ o < plan.outElems, ∀ head tail, t.fibre plan o = head :: tail →
    Scalar.add ops (Scalar.zero t.dtype) head = some head →
      slice.data.scalars[o]? = sums.data.scalars[o]?
  related : ∀ R, AbsorbsZero ops t.dtype R →
    List.Forall₂ R sums.data.scalars slice.data.scalars

section Axis

variable {α : Type} {p : Payload α} {t : Tensor} {values : List α} {ops : FloatArith}

lemma Payload.foldlM_message {message message' : String} {l : List α} {b r : α} :
    l.foldlM (p.add ops message) b = .ok r ↔ l.foldlM (p.add ops message') b = .ok r := by
  induction l generalizing b with
  | nil => rfl
  | cons a l ih =>
    simp only [List.foldlM_cons, bind_eq_ok]
    exact exists_congr fun b' => and_congr (p.add_message ops message message' b a b') ih

/-- Starting from zero or from the first value makes no difference to whether a fold succeeds. -/
lemma Payload.isOk_foldlM_iff {message message' : String} {e : TioError} {l : List α}
    (hl : l ≠ []) : IsOk (l.foldlM (p.add ops message) p.zero) ↔
      IsOk (foldFirst e (p.add ops message') l) := by
  obtain ⟨a, l, rfl⟩ := List.exists_cons_of_ne_nil hl
  rcases p.add_zero ops with htotal | hzero
  · have hfold : ∀ (m : String) (l : List α) b, IsOk (l.foldlM (p.add ops m) b) := by
      intro m l
      induction l with
      | nil => exact fun b => ⟨b, rfl⟩
      | cons a l ih =>
        intro b
        rw [List.foldlM_cons, isOk_bind]
        obtain ⟨b', hb'⟩ := htotal m b a
        exact ⟨b', hb', ih b'⟩
    exact iff_of_true (hfold _ _ _) (hfold _ _ _)
  · rw [List.foldlM_cons, hzero, ok_bind, foldFirst]
    exact exists_congr fun r => Payload.foldlM_message

variable {axis : Int64} {a : ℕ} (ht : t.Valid) (hne : t.data.len ≠ 0)

include ht in
/-- What a cumulative sum along an axis returns. -/
lemma Payload.Carries.cumsum_eq_ok (hp : p.Carries t values)
    (ha : AxisDenotes t.dims.length axis a) {c : Tensor} :
    t.cumsum ops (some axis) = .ok c ↔ ∃ out, cumulativeAxisValues
        (p.add ops "integer cumulative sum overflow") values t.dims a = .ok out ∧
      tensorFromData p.dtype t.shape (p.toData out) = .ok c := by
  rw [hp.cumsum_eq, ht.validatedShape_eq, ok_bind,
    (normalizeAxis_eq_ok ht.rank_dims_lt).mpr ha, ok_bind, bind_eq_ok]

include ht in
/-- The output of a cumulative sum is a tensor of the same shape. -/
lemma Payload.valid_cumsum {out : List α} (hlen : out.length = t.dims.prod) :
    tensorFromData p.dtype t.shape (p.toData out) = .ok ⟨p.dtype, t.shape, p.toData out⟩ ∧
      Tensor.Valid ⟨p.dtype, t.shape, p.toData out⟩ := by
  have hvalid : (⟨p.dtype, t.shape, p.toData out⟩ : Tensor).validate = .ok () := by
    refine Tensor.validateTensorParts_eq_ok.mpr
      ⟨ht.shape_ne_nil, p.dtype_toData out, ht.productFits, ?_⟩
    rw [p.len_toData, hlen]
    rfl
  refine ⟨Tensor.tensorFromData_eq_ok.mpr ⟨rfl, hvalid⟩, hvalid, ht.rank_lt, ?_⟩
  rw [p.len_toData, hlen, ← ht.len_eq]
  exact ht.len_lt

variable {keepdims : Bool} {plan : ReductionPlan}
  (hplan : ReductionPlan.new t.dims (some [axis]) keepdims = .ok plan)

include ht hne hplan in
/-- The axis of a plan that reduces one. -/
lemma exists_axis_of_new : ∃ a, AxisDenotes t.dims.length axis a ∧
    plan.reduceMask = reduceMaskOf [a] t.dims.length := by
  obtain ⟨-, -, reduced, hreduced, hmask⟩ := splits_of_new ht hne hplan
  obtain ⟨axes, haxes, -, rfl⟩ := (normalizeAxesFrom_eq_ok ht.rank_dims_lt List.nodup_nil).mp hreduced
  obtain ⟨a, _, ha, hnil, rfl⟩ := List.forall₂_cons_left_iff.mp haxes
  obtain rfl := List.forall₂_nil_left_iff.mp hnil
  exact ⟨a, ha, hmask⟩

include ht hne hplan in
/-- A sum along one axis succeeds when the cumulative sum along it does. -/
lemma Tensor.isOk_sum_iff_cumsum :
    IsOk (t.sum ops (some [axis]) keepdims) ↔ IsOk (t.cumsum ops (some axis)) := by
  obtain ⟨α, p, values, hp⟩ := ht.exists_carries
  obtain ⟨a, ha, hmask⟩ := exists_axis_of_new ht hne hplan
  have hsplits := (splits_of_new ht hne hplan).1
  have hlen := hp.length_eq ht
  have hzero := ht.zero_notMem hne
  have hcumsum : IsOk (t.cumsum ops (some axis)) ↔ IsOk (cumulativeAxisValues
      (p.add ops "integer cumulative sum overflow") values t.dims a) := by
    constructor
    · rintro ⟨c, hc⟩
      obtain ⟨out, hout, -⟩ := (hp.cumsum_eq_ok ht ha).mp hc
      exact ⟨out, hout⟩
    · rintro ⟨out, hout⟩
      have hcount := (last_cumulativeAxisValues hlen ha.1 hzero ht.prod_lt hout).1
      exact ⟨_, (hp.cumsum_eq_ok ht ha).mpr ⟨out, hout, (Payload.valid_cumsum ht hcount).1⟩⟩
  rw [hcumsum, isOk_cumulativeAxisValues hlen ha.1 hzero ht.prod_lt,
    Tensor.isOk_sum_iff ops ht hne hplan, hsplits.outElems_eq, hmask]
  refine forall₂_congr fun o ho => ?_
  have hnil : Tio.fibre (reduceMaskOf [a] t.dims.length) t.dims values o ≠ [] :=
    fibre_ne_nil length_reduceMaskOf hlen hzero ho
  rw [hp.foldlM_add ht "integer reduction overflow", Option.isSome_map, ← isOk_iff_toOption, hmask]
  exact Payload.isOk_foldlM_iff hnil

include ht hne hplan in
/-- The last slice of a cumulative tensor, cell by cell. -/
lemma exists_lastSlice (ha : AxisDenotes t.dims.length axis a)
    (hmask : plan.reduceMask = reduceMaskOf [a] t.dims.length) {c : Tensor} (hc : c.Valid)
    (hshape : c.shape = t.shape) :
    ∃ slice position, c.indexAxis axis position = .ok slice ∧
      position.toNat + 1 = t.dims.getD a 0 ∧ slice.data.dtype = c.data.dtype ∧
      slice.data.len = plan.outElems ∧ ∀ o < plan.outElems,
        slice.data.scalars[o]? = c.data.scalars[ravel t.dims
          (fibreIndex plan.reduceMask t.dims o (t.dims.getD a 0 - 1))]? := by
  have hzero := ht.zero_notMem hne
  have hsplits := (splits_of_new ht hne hplan).1
  have hdims : c.dims = t.dims := congrArg shapeU64ToUsize hshape
  have hneC : c.data.len ≠ 0 := by
    rw [hc.len_eq, hdims, ← ht.len_eq]
    exact hne
  have hpos := getD_pos ha.1 hzero
  have hword : (t.dims.getD a 0 - 1).toUInt64.toNat = t.dims.getD a 0 - 1 := by
    have := Tensor.getD_dims_lt (t := t) ha.1
    simp only [Nat.toUInt64, UInt64.toNat_ofNat']
    omega
  have hrearranges := Tensor.rearranges_indexAxis hc hneC axis (t.dims.getD a 0 - 1).toUInt64
  obtain ⟨slice, hslice⟩ := hrearranges.succeeds_iff.mpr ⟨a, by rwa [hdims], by
    rw [hword, hdims]
    omega⟩
  obtain ⟨a', ⟨ha', -⟩, hgathers⟩ := hrearranges.gathers slice hslice
  rw [hdims] at ha'
  obtain rfl := ha.unique ha'
  have hsliceDims : slice.dims = reducedShape true plan.reduceMask t.dims := by
    rw [hgathers.dims_eq, hdims, hmask, reducedShape_single ha.1]
  have hparts := Tensor.validateTensorParts_eq_ok.mp hgathers.valid
  refine ⟨slice, _, hslice, by rw [hword]; omega, ?_, ?_, fun o ho => ?_⟩
  · rw [hparts.2.1, hgathers.dtype_eq, hc.dtype_eq]
  · rw [hparts.2.2.2, hsplits.outElems_eq]
    exact (congrArg List.prod hsliceDims).trans (prod_reducedShape hsplits.length_eq)
  · -- the multi-index of the cell among the slices
    have ho' : o < (pick false plan.reduceMask t.dims).prod := hsplits.outElems_eq ▸ ho
    have hmarked : (pick true plan.reduceMask t.dims).prod = t.dims.getD a 0 := by
      rw [hmask, pick_true_single ha.1, List.prod_singleton]
    have hfirst : InBounds (t.dims.set a 1) (fibreIndex plan.reduceMask t.dims o 0) := by
      have hbounds := (inBounds_fibreIndex hsplits.length_eq ho' (hmarked ▸ hpos)).set (a := a)
        Nat.zero_lt_one
      rwa [hmask, fibreIndex_set 0 ha.1, ← hmask] at hbounds
    have hnumber : ravel slice.dims (fibreIndex plan.reduceMask t.dims o 0) = o := by
      have hshape' : reducedShape true plan.reduceMask t.dims = t.dims.set a 1 := by
        rw [hmask, reducedShape_single ha.1]
      rw [hsliceDims, ravel_reducedShape hsplits.length_eq (hshape' ▸ hfirst)]
      exact ((eq_fibreIndex_iff hsplits.length_eq).mpr ⟨ho', hmarked ▸ hpos, rfl⟩).2.1
    have helement := hgathers.element_eq (fibreIndex plan.reduceMask t.dims o 0) (by rwa [hdims])
    rw [Tensor.element, Tensor.element, hnumber, hword, hdims] at helement
    rw [helement, hmask, fibreIndex_set _ ha.1]

/-- On integers the start of a sum changes nothing. -/
lemma Scalar.eq_of_add_zero {dtype : DType} {s s' : Scalar} (h : dtype = .i32 ∨ dtype = .i64)
    (hadd : Scalar.add ops (Scalar.zero dtype) s = some s') : s' = s := by
  rcases h with rfl | rfl
  · cases s <;> simp only [Scalar.add, Scalar.zero, reduceCtorEq] at hadd
    obtain ⟨r, hr, rfl⟩ := Option.map_eq_some_iff.mp hadd
    rw [toI32_eq_some] at hr
    exact congrArg _ (Int32.toInt_inj.mp (hr.trans (Int.zero_add _)))
  · cases s <;> simp only [Scalar.add, Scalar.zero, reduceCtorEq] at hadd
    obtain ⟨r, hr, rfl⟩ := Option.map_eq_some_iff.mp hadd
    rw [toI64_eq_some] at hr
    exact congrArg _ (Int64.toInt_inj.mp (hr.trans (Int.zero_add _)))

/-- Folds from values that are the same scalar end in the same scalar. -/
lemma Payload.toScalar_foldlM {message : String} {u v x y : α} {l : List α}
    (h : p.toScalar u = p.toScalar v) (hu : l.foldlM (p.add ops message) u = .ok x)
    (hv : l.foldlM (p.add ops message) v = .ok y) : p.toScalar x = p.toScalar y := by
  have hfold : ∀ b, (l.map p.toScalar).foldlM (Scalar.add ops) (p.toScalar b) =
      (l.foldlM (p.add ops message) b).toOption.map p.toScalar :=
    fun b => foldlM_map_toOption fun c a => p.add_toScalar ops message c a
  have hx := hfold u
  rw [hu, h, hfold v, hv] at hx
  exact (Option.some.inj hx).symm

/-- A cell of a sum along an axis, and of the last slice of the cumulative sum along it: the fold of
the same values from two starts. -/
structure TwoStarts (p : Payload α) (ops : FloatArith) (fibre : List α)
    (sum last : Option Scalar) (head : α) (tail : List α) (next x y : α) : Prop where
  fibre_eq : fibre = head :: tail
  next_eq : Scalar.add ops (p.toScalar p.zero) (p.toScalar head) = some (p.toScalar next)
  sum_fold : tail.foldlM (p.add ops "integer reduction overflow") next = .ok x
  last_fold : tail.foldlM (p.add ops "integer reduction overflow") head = .ok y
  sum_eq : sum = some (p.toScalar x)
  last_eq : last = some (p.toScalar y)

include ht hne hplan in
lemma Payload.Carries.exists_twoStarts (hp : p.Carries t values) {sums c : Tensor}
    (hsums : t.sum ops (some [axis]) keepdims = .ok sums)
    (hc : t.cumsum ops (some axis) = .ok c) :
    ∃ slice position a, c.indexAxis axis position = .ok slice ∧
      AxisDenotes t.dims.length axis a ∧ position.toNat + 1 = t.dims.getD a 0 ∧
      sums.data.dtype = slice.data.dtype ∧ sums.data.len = plan.outElems ∧
      slice.data.len = plan.outElems ∧ ∀ o < plan.outElems, ∃ head tail next x y,
        TwoStarts p ops (Tio.fibre plan.reduceMask t.dims values o) sums.data.scalars[o]?
          slice.data.scalars[o]? head tail next x y := by
  obtain ⟨a, ha, hmask⟩ := exists_axis_of_new ht hne hplan
  have hsplits := (splits_of_new ht hne hplan).1
  have hlen := hp.length_eq ht
  have hzero := ht.zero_notMem hne
  obtain ⟨walk, hwalk, hsumsData⟩ := hp.of_sum ops ht hne hplan hsums
  obtain ⟨hwalkLen, hwalkCell⟩ := (reduceSumValues_eq_ok hsplits hlen).mp hwalk
  obtain ⟨out, hout, hcOut⟩ := (hp.cumsum_eq_ok ht ha).mp hc
  obtain ⟨houtLen, hlast⟩ := last_cumulativeAxisValues hlen ha.1 hzero ht.prod_lt hout
  obtain ⟨hcOk, hcValid⟩ := Payload.valid_cumsum (p := p) ht houtLen
  cases hcOut.symm.trans hcOk
  obtain ⟨slice, position, hslice, hposition, hdtype, hsliceLen, hentry⟩ :=
    exists_lastSlice ht hne hplan ha hmask hcValid rfl
  refine ⟨slice, position, a, hslice, ha, hposition, ?_, ?_, hsliceLen, fun o ho => ?_⟩
  · rw [hdtype, hsumsData, p.dtype_toData, p.dtype_toData]
  · rw [hsumsData, p.len_toData, hwalkLen]
  obtain ⟨x, hx, hxEntry⟩ := hwalkCell o ho
  obtain ⟨y, hy, hyEntry⟩ := hlast o (hmask ▸ hsplits.outElems_eq ▸ ho)
  rw [← hmask] at hy hyEntry
  obtain ⟨head, tail, hfibre⟩ := List.exists_cons_of_ne_nil
    (fibre_ne_nil hsplits.length_eq hlen hzero (hsplits.outElems_eq ▸ ho))
  rw [hfibre, List.foldlM_cons] at hx
  obtain ⟨next, hnext, hx⟩ := bind_eq_ok.mp hx
  rw [hfibre, foldFirst] at hy
  refine ⟨head, tail, next, x, y, hfibre, ?_, hx, Payload.foldlM_message.mp hy, ?_, ?_⟩
  · rw [p.add_toScalar ops "integer reduction overflow", hnext]
    rfl
  · rw [hsumsData, p.scalars_toData, List.getElem?_map, hxEntry]
    rfl
  · rw [hentry o ho, p.scalars_toData, List.getElem?_map, hyEntry]
    rfl

include ht hne hplan in
/-- The sum along an axis, and the last slice of the cumulative sum along it. -/
lemma Tensor.exists_endsInSums {sums c : Tensor}
    (hsums : t.sum ops (some [axis]) keepdims = .ok sums)
    (hc : t.cumsum ops (some axis) = .ok c) :
    ∃ slice, t.EndsInSums ops plan axis sums c slice := by
  obtain ⟨α, p, values, hp⟩ := ht.exists_carries
  obtain ⟨slice, position, a, hslice, ha, hposition, hdtype, hsumsLen, hsliceLen, hcell⟩ :=
    hp.exists_twoStarts ht hne hplan hsums hc
  have hzero : p.toScalar p.zero = Scalar.zero t.dtype := by
    rw [p.toScalar_zero, hp.dtype_eq ht]
  -- both start from the head of the fibre when adding it to zero gives it back
  have hsame : ∀ o < plan.outElems, ∀ head tail, t.fibre plan o = head :: tail →
      Scalar.add ops (Scalar.zero t.dtype) head = some head →
        slice.data.scalars[o]? = sums.data.scalars[o]? := by
    intro o ho head' tail' hfibre' hstart
    obtain ⟨head, tail, next, x, y, h⟩ := hcell o ho
    rw [hp.fibre_eq, h.fibre_eq, List.map_cons, List.cons.injEq] at hfibre'
    obtain ⟨rfl, -⟩ := hfibre'
    have hnext : p.toScalar next = p.toScalar head := by
      rw [← hzero, h.next_eq] at hstart
      exact Option.some.inj hstart
    rw [h.sum_eq, h.last_eq, Payload.toScalar_foldlM hnext h.sum_fold h.last_fold]
  have hsumsScalars : sums.data.scalars.length = plan.outElems := by
    rw [TensorData.length_scalars, hsumsLen]
  have hsliceScalars : slice.data.scalars.length = plan.outElems := by
    rw [TensorData.length_scalars, hsliceLen]
  refine ⟨slice, ⟨position, hslice, a, ha, hposition⟩, fun hinteger => ?_, hsame, fun R hR => ?_⟩
  · refine TensorData.eq_of_scalars hdtype.symm (List.ext_getElem? fun o => ?_)
    rcases Nat.lt_or_ge o plan.outElems with ho | ho
    · obtain ⟨head, tail, next, x, y, h⟩ := hcell o ho
      have hstart := h.next_eq
      rw [hzero] at hstart
      rw [Scalar.eq_of_add_zero hinteger hstart] at hstart
      exact hsame o ho (p.toScalar head) (tail.map p.toScalar)
        (by rw [hp.fibre_eq, h.fibre_eq, List.map_cons]) hstart
    · rw [List.getElem?_eq_none (by omega), List.getElem?_eq_none (by omega)]
  · refine List.forall₂_iff_get.mpr ⟨by omega, fun o ho ho' => ?_⟩
    obtain ⟨head, tail, next, x, y, h⟩ := hcell o (hsumsScalars ▸ ho)
    have hx := h.sum_eq
    have hy := h.last_eq
    rw [List.getElem?_eq_getElem ho, Option.some.injEq] at hx
    rw [List.getElem?_eq_getElem ho', Option.some.injEq] at hy
    rw [List.get_eq_getElem, List.get_eq_getElem, hx, hy]
    refine foldlM_rel (R := fun u v => R (p.toScalar u) (p.toScalar v)) ?_ ?_ h.sum_fold h.last_fold
    · exact hR.start _ _ (hzero ▸ h.next_eq)
    · intro u v b u' v' huv hu hv
      refine hR.step _ _ (p.toScalar b) _ _ huv ?_ ?_
      · rw [p.add_toScalar ops "integer reduction overflow", hu]
        rfl
      · rw [p.add_toScalar ops "integer reduction overflow", hv]
        rfl

end Axis

/-! ### All the laws -/

/-- What a reduction of `t` whose plan is accepted computes. -/
structure Tensor.ReducedExactly (t : Tensor) (ops : FloatArith) (axes : Option (List Int64))
    (keepdims : Bool) (plan : ReductionPlan) : Prop where
  /-- the plan reduces the given axes, or all of them -/
  mask_iff : ∀ a < t.dims.length, plan.reduceMask[a]? = some true ↔
    axes.elim True fun axes => ∃ axis ∈ axes, AxisDenotes t.dims.length axis a
  /-- cell and offset number the multi-indices one to one -/
  index_iff : ∀ index o r, InBounds t.dims index ∧ plan.outIndex index = .ok o ∧
    plan.reducedIndex index = .ok r ↔ o < plan.outElems ∧ r < plan.reducedElems ∧
      index = fibreIndex plan.reduceMask t.dims o r
  index_isOk : ∀ index, InBounds t.dims index →
    IsOk (plan.outIndex index) ∧ IsOk (plan.reducedIndex index)
  /-- a fibre has the elements at its offsets, in their order -/
  fibre_eq : ∀ o < plan.outElems, (t.fibre plan o).length = plan.reducedElems ∧
    ∀ r < plan.reducedElems,
      (t.fibre plan o)[r]? = t.element (fibreIndex plan.reduceMask t.dims o r)
  sum_isOk_iff : IsOk (t.sum ops axes keepdims) ↔ ∀ o < plan.outElems,
    ((t.fibre plan o).foldlM (Scalar.add ops) (Scalar.zero t.dtype)).isSome
  sum_eq : ∀ out, t.sum ops axes keepdims = .ok out → out.HasCells t.dtype plan fun o s =>
    (t.fibre plan o).foldlM (Scalar.add ops) (Scalar.zero t.dtype) = some s
  min_eq : ∃ out places, t.min axes keepdims = .ok out ∧ t.argmin axes keepdims = .ok places ∧
    t.FirstExtremes plan false out places
  max_eq : ∃ out places, t.max axes keepdims = .ok out ∧ t.argmax axes keepdims = .ok places ∧
    t.FirstExtremes plan true out places
  i32_sum : ∀ values, t.data = .i32 values →
    ExactSums Int32.toInt .i32 (-2 ^ 31) (2 ^ 31) t.dims plan values (t.sum ops axes keepdims)
  i64_sum : ∀ values, t.data = .i64 values →
    ExactSums Int64.toInt .i64 (-2 ^ 63) (2 ^ 63) t.dims plan values (t.sum ops axes keepdims)
  /-- the payloads do not depend on whether the reduced axes are kept -/
  payload_eq : ∀ keepdims' plan', ReductionPlan.new t.dims axes keepdims' = .ok plan' →
    ∀ op ∈ [fun k => t.sum ops axes k, t.min axes, t.max axes, t.argmin axes, t.argmax axes],
      Tensor.data <$> op keepdims = Tensor.data <$> op keepdims'
  axis_isOk_iff : ∀ axis, axes = some [axis] →
    (IsOk (t.sum ops axes keepdims) ↔ IsOk (t.cumsum ops (some axis)))
  axis_last : ∀ axis, axes = some [axis] → ∀ sums c, t.sum ops axes keepdims = .ok sums →
    t.cumsum ops (some axis) = .ok c → ∃ slice, t.EndsInSums ops plan axis sums c slice

section Laws

variable {t : Tensor} {axes : Option (List Int64)} {keepdims : Bool} {plan : ReductionPlan}
  (ht : t.Valid) (hne : t.data.len ≠ 0)
  (hplan : ReductionPlan.new t.dims axes keepdims = .ok plan)

include ht hne hplan

lemma mask_iff_of_new {a : ℕ} (ha : a < t.dims.length) : plan.reduceMask[a]? = some true ↔
    axes.elim True fun axes => ∃ axis ∈ axes, AxisDenotes t.dims.length axis a := by
  obtain ⟨-, -, reduced, hreduced, hmask⟩ := splits_of_new ht hne hplan
  rw [hmask, getElem?_reduceMaskOf ha, Option.some.injEq, decide_eq_true_eq]
  cases axes with
  | none =>
    cases hreduced
    exact iff_of_true (List.mem_range.mpr ha) trivial
  | some axes =>
    obtain ⟨p, hp, -, rfl⟩ := (normalizeAxesFrom_eq_ok ht.rank_dims_lt List.nodup_nil).mp hreduced
    rw [Option.elim_some]
    constructor
    · intro hmem
      obtain ⟨k, hk, rfl⟩ := List.mem_iff_getElem.mp hmem
      have hk' : k < axes.length := by rwa [hp.length_eq]
      exact ⟨axes[k], List.getElem_mem hk', List.forall₂_iff_get.mp hp |>.2 k hk' hk⟩
    · rintro ⟨axis, hmem, haxis⟩
      obtain ⟨k, hk, rfl⟩ := List.mem_iff_getElem.mp hmem
      have hk' : k < reduced.length := by rwa [← hp.length_eq]
      have hdenotes := List.forall₂_iff_get.mp hp |>.2 k hk hk'
      rw [haxis.unique hdenotes]
      exact List.getElem_mem hk'

lemma index_iff_of_new (index : List ℕ) (o r : ℕ) :
    InBounds t.dims index ∧ plan.outIndex index = .ok o ∧ plan.reducedIndex index = .ok r ↔
      o < plan.outElems ∧ r < plan.reducedElems ∧
        index = fibreIndex plan.reduceMask t.dims o r := by
  have hsplits := (splits_of_new ht hne hplan).1
  rw [hsplits.outElems_eq, hsplits.reducedElems_eq, ← eq_fibreIndex_iff hsplits.length_eq]
  refine and_congr_right fun hbounds => ?_
  rw [hsplits.outIndex_eq index hbounds, hsplits.reducedIndex_eq index hbounds, Except.ok.injEq,
    Except.ok.injEq]

/-- Reductions fold every fibre once and in order. -/
theorem reductions_exact (ops : FloatArith) : t.ReducedExactly ops axes keepdims plan where
  mask_iff _ := mask_iff_of_new ht hne hplan
  index_iff := index_iff_of_new ht hne hplan
  index_isOk index hindex := by
    have hsplits := (splits_of_new ht hne hplan).1
    exact ⟨⟨_, hsplits.outIndex_eq index hindex⟩, _, hsplits.reducedIndex_eq index hindex⟩
  fibre_eq o ho := by
    have hsplits := (splits_of_new ht hne hplan).1
    have hlen : t.data.scalars.length = t.dims.prod := by
      rw [TensorData.length_scalars, ht.len_eq]
    have ho' := hsplits.outElems_eq ▸ ho
    rw [hsplits.reducedElems_eq]
    exact ⟨length_fibre hsplits.length_eq hlen ho', fun r hr =>
      getElem?_fibre hsplits.length_eq hlen ho' hr⟩
  sum_isOk_iff := Tensor.isOk_sum_iff ops ht hne hplan
  sum_eq _ hout := Tensor.hasCells_sum ops ht hne hplan hout
  min_eq := Tensor.exists_extremes false ht hne hplan
  max_eq := Tensor.exists_extremes true ht hne hplan
  i32_sum _ hdata := (Payload.carries_i32 ht hdata).exactSums ops ht hne hplan rfl
    (fun _ _ _ => addI32_eq_ok) exists_toInt_i32
  i64_sum _ hdata := (Payload.carries_i64 ht hdata).exactSums ops ht hne hplan rfl
    (fun _ _ _ => addI64_eq_ok) exists_toInt_i64
  payload_eq keepdims' plan' hplan' op hop := by
    obtain ⟨hsum, hextreme⟩ := Tensor.payload_keepdims ht hne hplan ops hplan'
    simp only [List.mem_cons, List.not_mem_nil, or_false] at hop
    rcases hop with rfl | rfl | rfl | rfl | rfl
    · exact hsum
    · exact (hextreme false).1
    · exact (hextreme true).1
    · exact (hextreme false).2
    · exact (hextreme true).2
  axis_isOk_iff axis haxis := by
    subst haxis
    exact Tensor.isOk_sum_iff_cumsum ht hne hplan
  axis_last axis haxis sums c hsums hc := by
    subst haxis
    exact Tensor.exists_endsInSums ht hne hplan hsums hc

end Laws

/-- The plan for the first axis of a matrix of two rows. -/
def samplePlan : ReductionPlan where
  reduceMask := [true, false]
  keepdims := false
  outShape := [3]
  outStrides := [1]
  reducedStrides := [1, 0]
  outElems := 3
  reducedElems := 2

theorem sampleMatrix_reduced :
    Tensor.sampleMatrix.ReducedExactly .ieee (some [-2]) false samplePlan :=
  reductions_exact Tensor.sampleMatrix_valid (by decide) (by rfl) .ieee

example : Tensor.sampleMatrix.sum .ieee (some [-2]) false =
    .ok ⟨.i32, [3], .i32 [5, 7, 9]⟩ := by rfl

example : Tensor.sampleMatrix.argmax (some [1]) true = .ok ⟨.i64, [2, 1], .i64 [2, 2]⟩ := by rfl

/-- Addition on the two zeros, as IEEE 754 has it: a sum is negative when both summands are. -/
def FloatArith.signedZeros : FloatArith where
  f32 _ a b := a &&& b
  f64 _ a b := a &&& b

/-- A negative zero, alone on its axis. -/
def negativeZero : Tensor := ⟨.f32, [1], .f32 [0x80000000]⟩

/-- A NaN and the number one. -/
def nanFirst : Tensor := ⟨.f32, [2], .f32 [0x7FC00000, 0x3F800000]⟩

/-- The sum of a negative zero is the positive one, unlike the last slice of its cumulative sum; and
the smallest of a NaN and a number is the NaN when it comes first, which is below nothing. -/
theorem negativeZero_nan_reduced :
    (negativeZero.Valid ∧ ∃ sums c slice,
      negativeZero.sum .signedZeros (some [0]) true = .ok sums ∧
      negativeZero.cumsum .signedZeros (some 0) = .ok c ∧ c.indexAxis 0 0 = .ok slice ∧
      slice.data ≠ sums.data) ∧
    nanFirst.Valid ∧ nanFirst.min none true = .ok ⟨.f32, [1], .f32 [0x7FC00000]⟩ ∧
      ¬ ∃ x y, f32Rank 0x7FC00000 = some x ∧ f32Rank 0x3F800000 = some y ∧ x ≤ y := by
  refine ⟨⟨⟨by rfl, by decide, by decide⟩, ⟨.f32, [1], .f32 [0]⟩, negativeZero, negativeZero,
    by rfl, by rfl, by rfl, by decide⟩, ⟨by rfl, by decide, by decide⟩, by rfl, ?_⟩
  rintro ⟨x, y, hx, -⟩
  have hnan : f32Rank 0x7FC00000 = none := by rfl
  rw [hnan] at hx
  cases hx

end ArcadiaTio.Tio
