import ArcadiaTio.Tensor.Cumulative

/-!
# Reductions as folds of fibres

On the values of one dtype: a sum is the left fold of every fibre, an extreme value is the first
best one of its fibre and an index reduction is its offset.  When a single axis is reduced, its
fibres are the lines of the cumulative operation along it, whose last outputs fold the same values.
-/

namespace ArcadiaTio.Tio

open ArcadiaTio.Lib ArcadiaTio.Lib.RowMajor

variable {α : Type} {plan : ReductionPlan} {shape : List ℕ} {values : List α}

/-! ### Sums -/

section Sums

variable {zero : α} {add : α → α → Result α}

/-- A fold that does not look at the multi-indices. -/
lemma foldlM_fibreEntries {β : Type} {mask : List Bool} {o : ℕ} {step : β → α → Result β} {b : β} :
    (fibreEntries mask shape values o).foldlM (fun b p => step b p.2) b =
      (fibre mask shape values o).foldlM step b := by
  rw [← map_snd_fibreEntries, List.foldlM_map]

lemma reduceSumValues_eq_ok (hplan : plan.Splits shape) (hlen : values.length = shape.prod)
    {out : List α} : reduceSumValues plan shape values zero add = .ok out ↔
      out.length = plan.outElems ∧ ∀ o < plan.outElems, ∃ s,
        (fibre plan.reduceMask shape values o).foldlM add zero = .ok s ∧ out[o]? = some s := by
  rw [reduceSumValues, reduceLoop_eq_ok hplan hlen]
  simp only [foldlM_fibreEntries]

lemma isOk_reduceSumValues (hplan : plan.Splits shape) (hlen : values.length = shape.prod) :
    IsOk (reduceSumValues plan shape values zero add) ↔
      ∀ o < plan.outElems, IsOk ((fibre plan.reduceMask shape values o).foldlM add zero) := by
  rw [reduceSumValues, isOk_reduceLoop hplan hlen]
  simp only [foldlM_fibreEntries]

end Sums

/-! ### Extreme values -/

section Extremes

variable {key : α → Option ℤ} {takeMax : Bool}

/-- The value kept by the walk is the one of the first best entry. -/
lemma foldlM_extremeStep {l : List α} : l.foldlM (extremeStep key takeMax) none =
    .ok ((firstBest (exceeds key takeMax) l).map Prod.fst) := by
  induction l using List.reverseRecOn with
  | nil => rfl
  | append_singleton l a ih =>
    rw [List.foldlM_append, ih, ok_bind, List.foldlM_cons, firstBest_concat]
    rcases firstBest (exceeds key takeMax) l with _ | ⟨b, place⟩
    · rfl
    · simp only [extremeStep, Option.map_some, Option.elim_some, ok_bind, List.foldlM_nil,
        chooseBest, pure_eq_ok]
      split <;> rfl

/-- The offset kept by the walk is the one of the first best entry. -/
lemma foldlM_argStep {entries : List (List ℕ × α)}
    (hindex : ∀ r p, entries[r]? = some p → plan.reducedIndex p.1 = .ok r ∧ r < 2 ^ 63) :
    entries.foldlM (fun current p => argStep plan key takeMax p.1 current p.2) none =
      .ok ((firstBest (exceeds key takeMax) (entries.map Prod.snd)).map fun p =>
        (p.1, Int64.ofNat p.2)) := by
  induction entries using List.reverseRecOn with
  | nil => rfl
  | append_singleton entries p ih =>
    have hbefore : ∀ r p, entries[r]? = some p → plan.reducedIndex p.1 = .ok r ∧ r < 2 ^ 63 := by
      intro r q hq
      have hr : r < entries.length := (List.getElem?_eq_some_iff.mp hq).1
      exact hindex r q (by rwa [List.getElem?_append_left hr])
    obtain ⟨hlast, hfits⟩ := hindex entries.length p (by simp)
    have hconvert : i64TryFrom entries.length "arg reduction index exceeds i64" =
        .ok (Int64.ofNat entries.length) := by
      rw [i64TryFrom, failIf_neg (not_le.mpr hfits), ok_bind]
      rfl
    rw [List.foldlM_append, ih hbefore, ok_bind, List.foldlM_cons, argStep, hlast, ok_bind,
      hconvert, ok_bind, List.map_append, List.map_singleton, firstBest_concat, List.length_map]
    rcases firstBest (exceeds key takeMax) (entries.map Prod.snd) with _ | ⟨b, place⟩
    · rfl
    · simp only [Option.map_some, Option.elim_some, chooseBest, pure_eq_ok, ok_bind,
        List.foldlM_nil]
      split <;> rfl

/-- Cells that have all been written. -/
lemma mapM_okOr {β γ : Type} (f : β → γ) (e : TioError) {cells : List (Option β)}
    (h : ∀ o < cells.length, ∃ b, cells[o]? = some (some b)) :
    ∃ out : List γ, (cells.mapM fun cell => okOr (cell.map f) e) = .ok out ∧
      out.length = cells.length ∧ ∀ (o : ℕ) b, cells[o]? = some (some b) → out[o]? = some (f b) := by
  induction cells with
  | nil => exact ⟨[], rfl, rfl, fun o b hb => by simp at hb⟩
  | cons cell cells ih =>
    have hrest : ∀ o < cells.length, ∃ b, cells[o]? = some (some b) := by
      intro o ho
      exact h (o + 1) (by simpa using ho)
    obtain ⟨out, hout, hlen, hentry⟩ := ih hrest
    obtain ⟨b, hb⟩ := h 0 (by simp)
    obtain rfl : cell = some b := by simpa using hb
    refine ⟨f b :: out, ?_, by rw [List.length_cons, hlen, List.length_cons], ?_⟩
    · rw [List.mapM_cons, Option.map_some, okOr_some, ok_bind, hout]
      rfl
    · rintro (_ | o) b' hb'
      · cases hb'
        rfl
      · exact hentry o b' hb'

section

variable (key : α → Option ℤ) (takeMax : Bool) (hplan : plan.Splits shape)
  (hlen : values.length = shape.prod) (hzero : 0 ∉ shape)

include hplan hlen hzero

/-- Every fibre has a first best value. -/
lemma exists_firstBest {o : ℕ} (ho : o < plan.outElems) :
    ∃ p, firstBest (exceeds key takeMax) (fibre plan.reduceMask shape values o) = some p ∧
      IsFirstBest key (exceeds key takeMax) (fibre plan.reduceMask shape values o) p.1 p.2 := by
  have hne := fibre_ne_nil hplan.length_eq hlen hzero (hplan.outElems_eq ▸ ho)
  cases takeMax with
  | false =>
    obtain ⟨a, place, hbest, hspec⟩ := isFirstBest_firstBest key (exceeds key false) (· < ·)
      (fun x y z hxy hzy => by omega) (fun x => lt_irrefl x) (fun a b => lessBy_eq_true) hne
    exact ⟨(a, place), hbest, hspec⟩
  | true =>
    have hbetter : ∀ a b, exceeds key true a b = true ↔
        ∃ x y, key a = some x ∧ key b = some y ∧ y < x := by
      intro a b
      rw [exceeds, if_pos rfl, lessBy_eq_true]
      exact ⟨fun ⟨x, y, hx, hy, hlt⟩ => ⟨y, x, hy, hx, hlt⟩,
        fun ⟨x, y, hx, hy, hlt⟩ => ⟨y, x, hy, hx, hlt⟩⟩
    obtain ⟨a, place, hbest, hspec⟩ := isFirstBest_firstBest key (exceeds key true)
      (fun x y => y < x) (fun x y z hxy hzy => by omega) (fun x => lt_irrefl x) hbetter hne
    exact ⟨(a, place), hbest, hspec⟩

omit hlen in
lemma reducedElems_pos : 0 < plan.reducedElems := by
  rw [hplan.reducedElems_eq]
  exact prod_pos_of_zero_notMem (zero_notMem_pick hzero)

/-- The end of both reductions: every cell has been written, with something of the first best
value of its fibre. -/
lemma exists_cells {β γ : Type} (step : List ℕ → Option β → α → Result (Option β))
    (keep : α × ℕ → β) (f : β → γ) (hfold : ∀ o < plan.outElems,
      (fibreEntries plan.reduceMask shape values o).foldlM (fun b p => step p.1 b p.2) none =
        .ok ((firstBest (exceeds key takeMax) (fibre plan.reduceMask shape values o)).map keep)) :
    ∃ cells out, reduceLoop plan shape step values (List.replicate shape.length 0)
        (List.replicate plan.outElems none) = .ok cells ∧
      (cells.mapM fun cell => okOr (cell.map f) (invalidArgument "cannot reduce an empty axis")) =
        .ok out ∧ out.length = plan.outElems ∧ ∀ o < plan.outElems, ∃ p,
          firstBest (exceeds key takeMax) (fibre plan.reduceMask shape values o) = some p ∧
            out[o]? = some (f (keep p)) := by
  obtain ⟨cells, hcells⟩ := (isOk_reduceLoop hplan hlen step none).mpr fun o ho => ⟨_, hfold o ho⟩
  obtain ⟨hcount, hcell⟩ := (reduceLoop_eq_ok hplan hlen step none).mp hcells
  have hbest : ∀ o < plan.outElems, ∃ p,
      firstBest (exceeds key takeMax) (fibre plan.reduceMask shape values o) = some p ∧
        cells[o]? = some (some (keep p)) := by
    intro o ho
    obtain ⟨p, hp, -⟩ := exists_firstBest key takeMax hplan hlen hzero ho
    obtain ⟨b, hb, hentry⟩ := hcell o ho
    rw [hfold o ho, hp] at hb
    cases hb
    exact ⟨p, hp, hentry⟩
  obtain ⟨out, hout, houtLen, houtEntry⟩ := mapM_okOr f
    (invalidArgument "cannot reduce an empty axis") fun o ho => by
      obtain ⟨p, -, hp⟩ := hbest o (hcount ▸ ho)
      exact ⟨_, hp⟩
  refine ⟨cells, out, hcells, hout, houtLen.trans hcount, fun o ho => ?_⟩
  obtain ⟨p, hp, hentry⟩ := hbest o ho
  exact ⟨p, hp, houtEntry o _ hentry⟩

/-- The extreme values are the first best values of the fibres. -/
lemma exists_reduceExtremeValues :
    ∃ out, reduceExtremeValues plan shape key values takeMax = .ok out ∧
      out.length = plan.outElems ∧ ∀ o < plan.outElems, ∃ p,
        firstBest (exceeds key takeMax) (fibre plan.reduceMask shape values o) = some p ∧
          out[o]? = some p.1 := by
  have hpos := reducedElems_pos hplan hzero
  have hfold : ∀ o < plan.outElems, (fibreEntries plan.reduceMask shape values o).foldlM
      (fun current p => extremeStep key takeMax current p.2) none =
      .ok ((firstBest (exceeds key takeMax) (fibre plan.reduceMask shape values o)).map Prod.fst) :=
    fun o _ => foldlM_fibreEntries.trans foldlM_extremeStep
  obtain ⟨cells, out, hcells, hout, hcount, hentry⟩ :=
    exists_cells key takeMax hplan hlen hzero (fun _ => extremeStep key takeMax) Prod.fst id hfold
  refine ⟨out, ?_, hcount, hentry⟩
  rw [reduceExtremeValues, failIf_neg (by omega), ok_bind, hcells, ok_bind]
  simpa only [Option.map_id_fun, id_eq] using hout

/-- The extreme offsets are the offsets of the first best values of the fibres. -/
lemma exists_argReduceValues (hsmall : shape.prod < 2 ^ 63) :
    ∃ out, argReduceValues plan shape key values takeMax = .ok out ∧
      out.length = plan.outElems ∧ ∀ o < plan.outElems, ∃ p,
        firstBest (exceeds key takeMax) (fibre plan.reduceMask shape values o) = some p ∧
          out[o]? = some (Int64.ofNat p.2) := by
  have hpos := reducedElems_pos hplan hzero
  have hfold : ∀ o < plan.outElems, (fibreEntries plan.reduceMask shape values o).foldlM
      (fun current p => argStep plan key takeMax p.1 current p.2) none =
      .ok ((firstBest (exceeds key takeMax) (fibre plan.reduceMask shape values o)).map fun p =>
        (p.1, Int64.ofNat p.2)) := by
    intro o ho
    rw [← map_snd_fibreEntries]
    refine foldlM_argStep fun r p hp => ?_
    obtain ⟨hindex, hr⟩ := of_getElem?_fibreEntries hplan.length_eq hlen (hplan.outElems_eq ▸ ho) hp
    obtain ⟨hbounds, -, hreduced⟩ := (eq_fibreIndex_iff hplan.length_eq).mpr
      ⟨hplan.outElems_eq ▸ ho, hr, hindex⟩
    refine ⟨?_, hr.trans_le ((prod_pick_le hplan.length_eq hzero).trans hsmall.le)⟩
    rw [hplan.reducedIndex_eq _ hbounds, hreduced]
  obtain ⟨cells, out, hcells, hout, hcount, hentry⟩ :=
    exists_cells key takeMax hplan hlen hzero (argStep plan key takeMax)
      (fun p => (p.1, Int64.ofNat p.2)) Prod.snd hfold
  refine ⟨out, ?_, hcount, hentry⟩
  rw [argReduceValues, failIf_neg (by omega), ok_bind, hcells, ok_bind, hout]

end

end Extremes

/-! ### A single axis -/

section Axis

variable {axis : ℕ}

lemma pick_true_replicate_false {rank : ℕ} {l : List α} :
    pick true (List.replicate rank false) l = [] := by
  induction rank generalizing l with
  | zero => rfl
  | succ rank ih =>
    cases l with
    | nil => rfl
    | cons a l => exact ih

lemma pick_true_single (ha : axis < shape.length) :
    pick true (reduceMaskOf [axis] shape.length) shape = [shape.getD axis 0] := by
  induction shape generalizing axis with
  | nil => exact absurd ha (Nat.not_lt_zero _)
  | cons n shape ih =>
    cases axis with
    | zero => exact congrArg (n :: ·) pick_true_replicate_false
    | succ axis => exact ih (by simpa using ha)

lemma reducedShape_replicate_false {keepdims : Bool} :
    reducedShape keepdims (List.replicate shape.length false) shape = shape := by
  induction shape with
  | nil => rfl
  | cons n shape ih => exact congrArg (n :: ·) ih

lemma reducedShape_single (ha : axis < shape.length) :
    reducedShape true (reduceMaskOf [axis] shape.length) shape = shape.set axis 1 := by
  induction shape generalizing axis with
  | nil => exact absurd ha (Nat.not_lt_zero _)
  | cons n shape ih =>
    cases axis with
    | zero => exact congrArg (1 :: ·) reducedShape_replicate_false
    | succ axis => exact congrArg (n :: ·) (ih (by simpa using ha))

/-- The positions of a fibre differ on the marked axis only. -/
lemma merge_single_set {rank r r' : ℕ} {kept : List ℕ} :
    (merge (reduceMaskOf [axis] rank) kept [r]).set axis r' =
      merge (reduceMaskOf [axis] rank) kept [r'] := by
  induction rank generalizing axis kept with
  | zero => rfl
  | succ rank ih =>
    cases axis with
    | zero => rfl
    | succ axis =>
      cases kept with
      | nil => rfl
      | cons k kept => exact congrArg (k :: ·) ih

lemma fibreIndex_single {o r : ℕ} (ha : axis < shape.length) :
    fibreIndex (reduceMaskOf [axis] shape.length) shape o r =
      merge (reduceMaskOf [axis] shape.length)
        (unravel (pick false (reduceMaskOf [axis] shape.length) shape) o) [r] := by
  rw [fibreIndex, pick_true_single ha, unravel, List.prod_nil, Nat.div_one, unravel]

lemma fibreIndex_set {o r : ℕ} (r' : ℕ) (ha : axis < shape.length) :
    (fibreIndex (reduceMaskOf [axis] shape.length) shape o r).set axis r' =
      fibreIndex (reduceMaskOf [axis] shape.length) shape o r' := by
  rw [fibreIndex_single ha, fibreIndex_single ha, merge_single_set]

/-- The fibres of a single axis are the lines along it. -/
lemma fibre_eq_line {o r : ℕ} (ha : axis < shape.length) :
    fibre (reduceMaskOf [axis] shape.length) shape values o =
      line values shape axis (fibreIndex (reduceMaskOf [axis] shape.length) shape o r)
        (shape.getD axis 0) := by
  rw [fibre, line, pick_true_single ha, List.prod_singleton]
  refine List.filterMap_congr fun q _ => ?_
  rw [fibreIndex_set q ha]

/-- A multi-index of the output that keeps the reduced axis has the number of its cell. -/
lemma ravel_reducedShape {mask : List Bool} {index : List ℕ} (hmask : mask.length = shape.length)
    (hindex : InBounds (reducedShape true mask shape) index) :
    ravel (reducedShape true mask shape) index =
      ravel (pick false mask shape) (pick false mask index) := by
  induction mask generalizing shape index with
  | nil => rfl
  | cons m mask ih =>
    obtain ⟨n, shape, rfl⟩ := List.exists_cons_of_length_pos (l := shape) (by simp [← hmask])
    have hrest : mask.length = shape.length := by simpa using hmask
    cases m with
    | true =>
      rw [reducedShape, if_pos rfl] at hindex ⊢
      obtain ⟨i, index, hi, htail, rfl⟩ := List.forall₂_cons_right_iff.mp hindex
      rw [Nat.lt_one_iff] at hi
      rw [hi, ravel, Nat.zero_mul, Nat.zero_add, ih hrest htail, pick_false_cons_true,
        pick_false_cons_true]
    | false =>
      rw [reducedShape] at hindex ⊢
      obtain ⟨i, index, hi, htail, rfl⟩ := List.forall₂_cons_right_iff.mp hindex
      rw [ravel, ih hrest htail, prod_reducedShape hrest, pick_cons_self, pick_cons_self, ravel]

variable {combine : α → α → Result α}

/-- The output of a cumulative operation at a place of a fibre. -/
lemma cumulated_fibreIndex {o r : ℕ} (ha : axis < shape.length)
    (ho : o < (pick false (reduceMaskOf [axis] shape.length) shape).prod)
    (hr : r < shape.getD axis 0) :
    cumulated combine values shape axis (fibreIndex (reduceMaskOf [axis] shape.length) shape o r) =
      foldFirst (invalidArgument "index out of bounds") combine
        (line values shape axis (fibreIndex (reduceMaskOf [axis] shape.length) shape o r) (r + 1)) := by
  have hbounds : InBounds shape (fibreIndex (reduceMaskOf [axis] shape.length) shape o r) := by
    refine inBounds_fibreIndex length_reduceMaskOf ho ?_
    rwa [pick_true_single ha, List.prod_singleton]
  have hposition :
      (fibreIndex (reduceMaskOf [axis] shape.length) shape o r).getD axis 0 = r := by
    have haxis : axis < (fibreIndex (reduceMaskOf [axis] shape.length) shape o r).length := by
      rwa [hbounds.length_eq]
    have hset := fibreIndex_set (o := o) (r := r) r ha
    rw [List.getD_eq_getElem _ _ haxis]
    conv_lhs =>
      congr
      rw [← hset]
    rw [List.getElem_set_self]
  rw [cumulated, hposition]

variable (hlen : values.length = shape.prod) (ha : axis < shape.length)
  (hzero : 0 ∉ shape) (hlt : shape.prod < 2 ^ usizeBits)

include ha hzero in
lemma getD_pos : 0 < shape.getD axis 0 := by
  refine Nat.pos_of_ne_zero fun heq => hzero ?_
  rw [← heq, List.getD_eq_getElem _ _ ha]
  exact List.getElem_mem ha

include hlen ha in
/-- An initial part of a line is not empty. -/
lemma line_succ_ne_nil {o r : ℕ}
    (ho : o < (pick false (reduceMaskOf [axis] shape.length) shape).prod)
    (hr : r < shape.getD axis 0) :
    line values shape axis (fibreIndex (reduceMaskOf [axis] shape.length) shape o r) (r + 1) ≠
      [] := by
  have hbounds : InBounds shape (fibreIndex (reduceMaskOf [axis] shape.length) shape o r) := by
    refine inBounds_fibreIndex length_reduceMaskOf ho ?_
    rwa [pick_true_single ha, List.prod_singleton]
  have hplace : ravel shape ((fibreIndex (reduceMaskOf [axis] shape.length) shape o r).set axis r) <
      values.length := by
    rw [fibreIndex_set r ha, hlen]
    exact ravel_lt hbounds
  rw [line_succ (List.getElem?_eq_getElem hplace)]
  exact List.append_ne_nil_of_right_ne_nil _ (List.cons_ne_nil _ _)

include hlen ha hzero hlt

/-- A cumulative operation gets through when the fold of every line does. -/
lemma isOk_cumulativeAxisValues :
    IsOk (cumulativeAxisValues combine values shape axis) ↔
      ∀ o < (pick false (reduceMaskOf [axis] shape.length) shape).prod,
        IsOk (foldFirst (invalidArgument "index out of bounds") combine
          (fibre (reduceMaskOf [axis] shape.length) shape values o)) := by
  have hmask : (reduceMaskOf [axis] shape.length).length = shape.length := length_reduceMaskOf
  have hmarked : (pick true (reduceMaskOf [axis] shape.length) shape).prod = shape.getD axis 0 := by
    rw [pick_true_single ha, List.prod_singleton]
  rw [cumulativeAxisValues_eq hlen ha (stridesFit_of_prod_lt hzero hlt), isOk_mapM]
  constructor
  · intro h o ho
    obtain ⟨n, hn⟩ := Nat.exists_eq_succ_of_ne_zero (getD_pos ha hzero).ne'
    have hbounds : InBounds shape (fibreIndex (reduceMaskOf [axis] shape.length) shape o n) :=
      inBounds_fibreIndex hmask ho (by omega)
    have hcum := h _ (List.mem_range.mpr (ravel_lt hbounds))
    rwa [unravel_ravel hbounds, cumulated_fibreIndex ha ho (by omega), ← Nat.succ_eq_add_one, ← hn,
      ← fibre_eq_line ha] at hcum
  · intro h k hk
    obtain ⟨ho, hr, heq⟩ :=
      (eq_fibreIndex_iff hmask).mp ⟨inBounds_unravel (List.mem_range.mp hk), rfl, rfl⟩
    rw [hmarked] at hr
    rw [heq, cumulated_fibreIndex ha ho hr]
    have hok := h _ ho
    rw [fibre_eq_line ha] at hok
    exact hok.foldFirst_of_initial (line_initial hr) (line_succ_ne_nil hlen ha ho hr)

/-- The last outputs of a cumulative operation fold the whole lines. -/
lemma last_cumulativeAxisValues {out : List α}
    (h : cumulativeAxisValues combine values shape axis = .ok out) :
    out.length = shape.prod ∧
      ∀ o < (pick false (reduceMaskOf [axis] shape.length) shape).prod, ∃ y,
        foldFirst (invalidArgument "index out of bounds") combine
          (fibre (reduceMaskOf [axis] shape.length) shape values o) = .ok y ∧
        out[ravel shape (fibreIndex (reduceMaskOf [axis] shape.length) shape o
          (shape.getD axis 0 - 1))]? = some y := by
  rw [cumulativeAxisValues_eq hlen ha (stridesFit_of_prod_lt hzero hlt), mapM_eq_ok] at h
  have hcount : shape.prod = out.length := by
    rw [← h.length_eq, List.length_range]
  refine ⟨hcount.symm, fun o ho => ?_⟩
  obtain ⟨n, hn⟩ := Nat.exists_eq_succ_of_ne_zero (getD_pos ha hzero).ne'
  have hbounds : InBounds shape (fibreIndex (reduceMaskOf [axis] shape.length) shape o n) := by
    refine inBounds_fibreIndex length_reduceMaskOf ho ?_
    rw [pick_true_single ha, List.prod_singleton]
    omega
  have hplace := ravel_lt hbounds
  have hentry := List.forall₂_iff_get.mp h |>.2 _ (by rwa [List.length_range]) (hcount ▸ hplace)
  rw [List.get_eq_getElem, List.get_eq_getElem, List.getElem_range, unravel_ravel hbounds,
    cumulated_fibreIndex ha ho (by omega), ← Nat.succ_eq_add_one, ← hn, ← fibre_eq_line ha] at hentry
  rw [hn, Nat.succ_sub_one]
  exact ⟨_, hentry, List.getElem?_eq_getElem _⟩

end Axis

end ArcadiaTio.Tio
