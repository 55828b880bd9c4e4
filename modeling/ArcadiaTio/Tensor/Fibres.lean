import ArcadiaTio.Tensor.Permute
import ArcadiaTio.Tensor.Reduction

/-!
# The fibres of a reduction

The reduced axes split every multi-index in two halves.  A plan numbers the half that stays by
`outIndex` and the reduced one by `reducedIndex` (`ReductionPlan.Splits`), whatever axes are reduced
and whether they are kept with length one.  A walk over the input then changes every output cell by
the values of its fibre alone, in their order (`reduceLoop_eq_foldCells`, `itemsOf_entries`).
-/

namespace ArcadiaTio.Tio

open ArcadiaTio.Lib ArcadiaTio.Lib.RowMajor

/-! ### Plans -/

section Plans

variable {mask : List Bool} {shape index : List ℕ} {keepdims : Bool}

/-- The strides of the reduced axes, zero at the others. -/
def markedStrides : List Bool → List ℕ → List ℕ
  | true :: mask, _ :: shape => (pick true mask shape).prod :: markedStrides mask shape
  | false :: mask, _ :: shape => 0 :: markedStrides mask shape
  | _, _ => []

lemma zero_notMem_pick {b : Bool} (h : 0 ∉ shape) : 0 ∉ pick b mask shape :=
  fun hmem => h (pick_subset hmem)

lemma prod_pick_le {b : Bool} (hlen : mask.length = shape.length) (h : 0 ∉ shape) :
    (pick b mask shape).prod ≤ shape.prod := by
  rw [← prod_pick_mul hlen]
  cases b with
  | false => exact Nat.le_mul_of_pos_right _ (prod_pos_of_zero_notMem (zero_notMem_pick h))
  | true => exact Nat.le_mul_of_pos_left _ (prod_pos_of_zero_notMem (zero_notMem_pick h))

lemma reducedStridesFrom_eq (hlen : mask.length = shape.length) (hzero : 0 ∉ shape)
    (hlt : shape.prod < 2 ^ usizeBits) :
    reducedStridesFrom mask shape =
      .ok (markedStrides mask shape, (pick true mask shape).prod) := by
  induction mask generalizing shape with
  | nil =>
    rw [List.length_nil, eq_comm, List.length_eq_zero_iff] at hlen
    rw [hlen]
    rfl
  | cons m mask ih =>
    obtain ⟨n, shape, rfl⟩ := List.exists_cons_of_length_pos (l := shape) (by simp [← hlen])
    have hrest : mask.length = shape.length := by simpa using hlen
    have hzeroRest : 0 ∉ shape := fun h => hzero (List.mem_cons_of_mem n h)
    have hltRest : shape.prod < 2 ^ usizeBits :=
      (prod_le_of_suffix hzero (List.suffix_cons n shape)).trans_lt hlt
    cases m with
    | true =>
      have hprod : (pick true mask shape).prod * n = (pick true (true :: mask) (n :: shape)).prod := by
        rw [pick_cons_self, List.prod_cons, Nat.mul_comm]
      have hfits : (pick true mask shape).prod * n < 2 ^ usizeBits := by
        rw [hprod]
        exact (prod_pick_le hlen hzero).trans_lt hlt
      rw [reducedStridesFrom, ih hrest hzeroRest hltRest, ok_bind]
      dsimp only
      rw [checkedMul_of_lt hfits, okOr_some, ok_bind, hprod]
      rfl
    | false =>
      rw [reducedStridesFrom, ih hrest hzeroRest hltRest, ok_bind]
      rfl

/-- The number of an index among the reduced ones. -/
lemma reducedIndexFrom_eq {linear : ℕ} (hlen : mask.length = shape.length)
    (hindex : InBounds shape index)
    (hlt : linear + ravel (pick true mask shape) (pick true mask index) < 2 ^ usizeBits) :
    ReductionPlan.reducedIndexFrom mask (markedStrides mask shape) index linear =
      .ok (linear + ravel (pick true mask shape) (pick true mask index)) := by
  induction hindex generalizing mask linear with
  | nil =>
    rw [List.length_nil, List.length_eq_zero_iff] at hlen
    rw [hlen]
    rfl
  | @cons i n index shape hi hrest ih =>
    obtain ⟨m, mask, rfl⟩ := List.exists_cons_of_length_pos (l := mask) (by simp [hlen])
    have hlen' : mask.length = shape.length := by simpa using hlen
    cases m with
    | true =>
      rw [pick_cons_self, pick_cons_self, ravel] at hlt ⊢
      rw [markedStrides, ReductionPlan.reducedIndexFrom, checkedMul_of_lt (by omega), okOr_some,
        ok_bind, checkedAdd_of_lt (by omega), okOr_some, ok_bind, ih hlen' (by omega),
        Nat.add_assoc]
    | false =>
      rw [markedStrides, ReductionPlan.reducedIndexFrom]
      exact ih hlen' hlt

lemma prod_reducedShape (hlen : mask.length = shape.length) :
    (reducedShape keepdims mask shape).prod = (pick false mask shape).prod := by
  induction mask generalizing shape with
  | nil => rfl
  | cons m mask ih =>
    obtain ⟨n, shape, rfl⟩ := List.exists_cons_of_length_pos (l := shape) (by simp [← hlen])
    have hrest : mask.length = shape.length := by simpa using hlen
    cases m with
    | true =>
      rw [reducedShape, pick_false_cons_true]
      split
      · rw [List.prod_cons, one_mul, ih hrest]
      · exact ih hrest
    | false => rw [reducedShape, pick_cons_self, List.prod_cons, List.prod_cons, ih hrest]

lemma mem_reducedShape {n : ℕ} (h : n ∈ reducedShape keepdims mask shape) : n = 1 ∨ n ∈ shape := by
  induction mask generalizing shape with
  | nil => cases h
  | cons m mask ih =>
    cases shape with
    | nil => cases m <;> cases h
    | cons d shape =>
      have htail : n ∈ reducedShape keepdims mask shape → n = 1 ∨ n ∈ d :: shape :=
        fun h => (ih h).imp_right (List.mem_cons_of_mem d)
      cases m with
      | true =>
        rw [reducedShape] at h
        split at h
        · rcases List.mem_cons.mp h with rfl | h
          · exact Or.inl rfl
          · exact htail h
        · exact htail h
      | false =>
        rw [reducedShape] at h
        rcases List.mem_cons.mp h with rfl | h
        · exact Or.inr List.mem_cons_self
        · exact htail h

/-- The number of an index among the output cells, from either of the two stride tables. -/
lemma outIndexFrom_eq {linear : ℕ} (hlen : mask.length = shape.length)
    (hindex : InBounds shape index)
    (hlt : linear + ravel (pick false mask shape) (pick false mask index) < 2 ^ usizeBits) :
    ReductionPlan.outIndexFrom keepdims mask (strides (reducedShape keepdims mask shape)) index
        linear =
      .ok (linear + ravel (pick false mask shape) (pick false mask index)) := by
  induction hindex generalizing mask linear with
  | nil =>
    rw [List.length_nil, List.length_eq_zero_iff] at hlen
    rw [hlen]
    rfl
  | @cons i n index shape hi hrest ih =>
    obtain ⟨m, mask, rfl⟩ := List.exists_cons_of_length_pos (l := mask) (by simp [hlen])
    have hlen' : mask.length = shape.length := by simpa using hlen
    cases m with
    | true =>
      -- a kept axis has a stride of its own, which is skipped
      have hstrides : (if keepdims then (strides (reducedShape keepdims (true :: mask)
          (n :: shape))).tail else strides (reducedShape keepdims (true :: mask) (n :: shape))) =
          strides (reducedShape keepdims mask shape) := by
        cases keepdims <;> rfl
      rw [ReductionPlan.outIndexFrom, hstrides]
      exact ih hlen' hlt
    | false =>
      rw [pick_cons_self, pick_cons_self, ravel] at hlt ⊢
      rw [reducedShape, strides, ReductionPlan.outIndexFrom, prod_reducedShape hlen',
        checkedMul_of_lt (by omega), okOr_some, ok_bind, checkedAdd_of_lt (by omega), okOr_some,
        ok_bind, ih hlen' (by omega), Nat.add_assoc]

/-- What a plan computes for the multi-indices of a shape. -/
structure ReductionPlan.Splits (plan : ReductionPlan) (shape : List ℕ) : Prop where
  length_eq : plan.reduceMask.length = shape.length
  outElems_eq : plan.outElems = (pick false plan.reduceMask shape).prod
  reducedElems_eq : plan.reducedElems = (pick true plan.reduceMask shape).prod
  outShape_eq : plan.outShape = reducedShape plan.keepdims plan.reduceMask shape
  outShape_ne_nil : plan.outShape ≠ []
  outIndex_eq : ∀ index, InBounds shape index → plan.outIndex index =
    .ok (ravel (pick false plan.reduceMask shape) (pick false plan.reduceMask index))
  reducedIndex_eq : ∀ index, InBounds shape index → plan.reducedIndex index =
    .ok (ravel (pick true plan.reduceMask shape) (pick true plan.reduceMask index))

lemma length_reduceMaskOf {axes : List ℕ} {rank : ℕ} :
    (reduceMaskOf axes rank).length = rank := by
  have hfold : ∀ mask : List Bool,
      (axes.foldl (fun mask axis => mask.set axis true) mask).length = mask.length := by
    induction axes with
    | nil => exact fun _ => rfl
    | cons a axes ih =>
      intro mask
      rw [List.foldl_cons, ih, List.length_set]
  rw [reduceMaskOf, hfold, List.length_replicate]

/-- The mask marks the axes of the list. -/
lemma getElem?_reduceMaskOf {axes : List ℕ} {rank a : ℕ} (ha : a < rank) :
    (reduceMaskOf axes rank)[a]? = some (decide (a ∈ axes)) := by
  have hfold : ∀ mask : List Bool, a < mask.length →
      (axes.foldl (fun mask axis => mask.set axis true) mask)[a]? =
        some (mask.getD a false || decide (a ∈ axes)) := by
    induction axes with
    | nil =>
      intro mask hmask
      simp [hmask]
    | cons b axes ih =>
      intro mask hmask
      rw [List.foldl_cons, ih _ (by rwa [List.length_set])]
      by_cases hb : b = a
      · subst hb
        simp [hmask]
      · have hne : a ≠ b := Ne.symm hb
        simp [List.getElem?_set_ne hb, hne]
  rw [reduceMaskOf, hfold _ (by rwa [List.length_replicate])]
  simp

variable {axes : Option (List Int64)} {plan : ReductionPlan}

/-- A plan that is made splits the multi-indices of its shape. -/
lemma ReductionPlan.splits_of_new (hzero : 0 ∉ shape) (hlt : shape.prod < 2 ^ usizeBits)
    (h : ReductionPlan.new shape axes keepdims = .ok plan) :
    plan.Splits shape ∧ plan.keepdims = keepdims ∧
      ∃ reduced, reducedAxes axes shape.length = .ok reduced ∧
        plan.reduceMask = reduceMaskOf reduced shape.length := by
  obtain ⟨reduced, hreduced, h⟩ := bind_eq_ok.mp h
  obtain ⟨_, -, h⟩ := bind_eq_ok.mp h
  have hlen : (reduceMaskOf reduced shape.length).length = shape.length := length_reduceMaskOf
  rw [reducedStridesFrom_eq hlen hzero hlt, ok_bind] at h
  dsimp only at h
  obtain ⟨_, hnil, h⟩ := bind_eq_ok.mp h
  obtain ⟨outStrides, hstrides, h⟩ := bind_eq_ok.mp h
  obtain ⟨outElems, helems, h⟩ := bind_eq_ok.mp h
  obtain ⟨rfl, -⟩ := rowMajorStrides_eq_ok.mp hstrides
  obtain ⟨rfl, -⟩ := shapeProductUsize_eq_ok.mp helems
  cases h
  have hle : ∀ b, (pick b (reduceMaskOf reduced shape.length) shape).prod < 2 ^ usizeBits :=
    fun b => (prod_pick_le hlen hzero).trans_lt hlt
  refine ⟨⟨hlen, prod_reducedShape hlen, rfl, rfl, failIf_eq_ok.mp hnil, ?_, ?_⟩, rfl, reduced,
    hreduced, rfl⟩
  · intro index hindex
    have hravel := ravel_lt (hindex.pick (b := false) (reduceMaskOf reduced shape.length))
    have := hle false
    rw [ReductionPlan.outIndex, outIndexFrom_eq hlen hindex (by omega), Nat.zero_add]
  · intro index hindex
    have hravel := ravel_lt (hindex.pick (b := true) (reduceMaskOf reduced shape.length))
    have := hle true
    rw [ReductionPlan.reducedIndex, reducedIndexFrom_eq hlen hindex (by omega), Nat.zero_add]

end Plans

/-! ### The walk -/

section Walk

variable {α β : Type} {plan : ReductionPlan} {shape : List ℕ} {values : List α}

/-- The values of a fibre, in the row-major order of the reduced axes. -/
def fibre (mask : List Bool) (shape : List ℕ) (values : List α) (o : ℕ) : List α :=
  (List.range (pick true mask shape).prod).filterMap fun r =>
    values[ravel shape (fibreIndex mask shape o r)]?

/-- The values of a fibre with their multi-indices. -/
def fibreEntries (mask : List Bool) (shape : List ℕ) (values : List α) (o : ℕ) :
    List (List ℕ × α) :=
  (List.range (pick true mask shape).prod).filterMap fun r =>
    values[ravel shape (fibreIndex mask shape o r)]?.map fun value =>
      (fibreIndex mask shape o r, value)

lemma map_snd_fibreEntries {mask : List Bool} {o : ℕ} :
    (fibreEntries mask shape values o).map Prod.snd = fibre mask shape values o := by
  rw [fibreEntries, fibre, List.map_filterMap]
  refine List.filterMap_congr fun r _ => ?_
  rw [Option.map_map]
  exact congrFun Option.map_id _

/-- A list of entries that all exist. -/
lemma filterMap_range {f : ℕ → Option α} {n : ℕ} (h : ∀ k < n, (f k).isSome) :
    ((List.range n).filterMap f).length = n ∧
      ∀ k < n, ((List.range n).filterMap f)[k]? = f k := by
  induction n with
  | zero => exact ⟨rfl, fun k hk => absurd hk (Nat.not_lt_zero k)⟩
  | succ n ih =>
    obtain ⟨hlen, hentry⟩ := ih fun k hk => h k (by omega)
    obtain ⟨a, ha⟩ := Option.isSome_iff_exists.mp (h n (by omega))
    have hsplit : (List.range (n + 1)).filterMap f = (List.range n).filterMap f ++ [a] := by
      rw [List.range_succ, List.filterMap_append, List.filterMap_cons, ha, List.filterMap_nil]
    refine ⟨by rw [hsplit, List.length_append, hlen, List.length_singleton], fun k hk => ?_⟩
    rw [hsplit]
    rcases Nat.lt_succ_iff_lt_or_eq.mp hk with hk | rfl
    · rw [List.getElem?_append_left (by omega), hentry k hk]
    · rw [List.getElem?_append_right (by omega), hlen, Nat.sub_self, ha]
      rfl

lemma isSome_fibreEntry {mask : List Bool} {o : ℕ} (hmask : mask.length = shape.length)
    (hlen : values.length = shape.prod) (ho : o < (pick false mask shape).prod) :
    ∀ r < (pick true mask shape).prod,
      (values[ravel shape (fibreIndex mask shape o r)]?).isSome := by
  intro r hr
  have hlt : ravel shape (fibreIndex mask shape o r) < values.length := by
    rw [hlen]
    exact ravel_lt (inBounds_fibreIndex hmask ho hr)
  rw [List.getElem?_eq_getElem hlt]
  rfl

lemma getElem?_fibre {mask : List Bool} {o r : ℕ} (hmask : mask.length = shape.length)
    (hlen : values.length = shape.prod) (ho : o < (pick false mask shape).prod)
    (hr : r < (pick true mask shape).prod) :
    (fibre mask shape values o)[r]? = values[ravel shape (fibreIndex mask shape o r)]? :=
  (filterMap_range (isSome_fibreEntry hmask hlen ho)).2 r hr

lemma length_fibre {mask : List Bool} {o : ℕ} (hmask : mask.length = shape.length)
    (hlen : values.length = shape.prod) (ho : o < (pick false mask shape).prod) :
    (fibre mask shape values o).length = (pick true mask shape).prod :=
  (filterMap_range (isSome_fibreEntry hmask hlen ho)).1

/-- The entry of a fibre at an offset. -/
lemma of_getElem?_fibreEntries {mask : List Bool} {o r : ℕ} {p : List ℕ × α}
    (hmask : mask.length = shape.length) (hlen : values.length = shape.prod)
    (ho : o < (pick false mask shape).prod)
    (h : (fibreEntries mask shape values o)[r]? = some p) :
    p.1 = fibreIndex mask shape o r ∧ r < (pick true mask shape).prod := by
  have hsome : ∀ r < (pick true mask shape).prod,
      (values[ravel shape (fibreIndex mask shape o r)]?.map fun value =>
        (fibreIndex mask shape o r, value)).isSome := by
    intro r hr
    rw [Option.isSome_map]
    exact isSome_fibreEntry hmask hlen ho r hr
  obtain ⟨hcount, hentries⟩ := filterMap_range hsome
  have hr : r < (pick true mask shape).prod := by
    rw [← hcount]
    exact (List.getElem?_eq_some_iff.mp h).1
  obtain ⟨value, -, rfl⟩ := Option.map_eq_some_iff.mp ((hentries r hr).symm.trans h)
  exact ⟨rfl, hr⟩

lemma fibre_ne_nil {mask : List Bool} {o : ℕ} (hmask : mask.length = shape.length)
    (hlen : values.length = shape.prod) (hzero : 0 ∉ shape)
    (ho : o < (pick false mask shape).prod) : fibre mask shape values o ≠ [] := by
  refine List.ne_nil_of_length_pos ?_
  rw [length_fibre hmask hlen ho]
  exact prod_pos_of_zero_notMem (zero_notMem_pick hzero)

lemma fibre_map {mask : List Bool} {o : ℕ} (e : α → β) :
    fibre mask shape (values.map e) o = (fibre mask shape values o).map e := by
  rw [fibre, fibre, List.map_filterMap]
  exact List.filterMap_congr fun r _ => List.getElem?_map

/-- The addressed items of a walk: the value at each offset, with its multi-index and its cell. -/
def walkItems (mask : List Bool) (shape : List ℕ) (values : List α) (start : ℕ) :
    List (ℕ × List ℕ × α) :=
  (values.zipIdx start).map fun p =>
    (ravel (pick false mask shape) (pick false mask (unravel shape p.2)), unravel shape p.2, p.1)

/-- The walk of a reduction is the loop over its addressed items. -/
lemma reduceLoop_eq_foldCells (hplan : plan.Splits shape) {step : List ℕ → β → α → Result β}
    {start : ℕ} {out : List β} (hlen : start + values.length ≤ shape.prod) :
    reduceLoop plan shape step values (unravel shape start) out =
      foldCells (invalidArgument "index out of bounds") (fun b p => step p.1 b p.2)
        (walkItems plan.reduceMask shape values start) out := by
  induction values generalizing start out with
  | nil => rfl
  | cons value values ih =>
    rw [List.length_cons] at hlen
    have hindex : InBounds shape (unravel shape start) := inBounds_unravel (by omega)
    rw [reduceLoop, hplan.outIndex_eq _ hindex, ok_bind, walkItems, List.zipIdx_cons,
      List.map_cons, foldCells]
    refine congrArg _ (funext fun current => congrArg _ (funext fun next => ?_))
    rcases values with _ | ⟨value', values⟩
    · rfl
    · have hnext : incrementIndices (unravel shape start) shape = unravel shape (start + 1) :=
        advance_unravel (by rw [List.length_cons] at hlen; omega)
      rw [hnext]
      exact ih (by omega)

lemma filter_zipIdx {q : ℕ → Bool} :
    (values.zipIdx.filter fun p => q p.2) =
      ((List.range values.length).filter q).filterMap fun k =>
        values[k]?.map fun value => (value, k) := by
  induction values using List.reverseRecOn with
  | nil => rfl
  | append_singleton values value ih =>
    have hbefore : (((List.range values.length).filter q).filterMap fun k =>
        (values ++ [value])[k]?.map fun value => (value, k)) =
        ((List.range values.length).filter q).filterMap fun k =>
          values[k]?.map fun value => (value, k) := by
      refine List.filterMap_congr fun k hk => ?_
      rw [List.getElem?_append_left (List.mem_range.mp (List.mem_filter.mp hk).1)]
    rw [List.zipIdx_append, List.filter_append, ih, List.length_append, List.length_singleton,
      List.range_succ, List.filter_append, List.filterMap_append, hbefore]
    refine congrArg _ ?_
    by_cases hq : q values.length = true
    · simp [hq]
    · simp [hq]

/-- The items of a cell are the entries of its fibre, in their order. -/
lemma itemsOf_walkItems {mask : List Bool} {o : ℕ} (hmask : mask.length = shape.length)
    (hlen : values.length = shape.prod) (ho : o < (pick false mask shape).prod) :
    itemsOf (walkItems mask shape values 0) o = fibreEntries mask shape values o := by
  have hfilter : itemsOf (walkItems mask shape values 0) o =
      (values.zipIdx.filter fun p =>
        ravel (pick false mask shape) (pick false mask (unravel shape p.2)) = o).map fun p =>
          (unravel shape p.2, p.1) := by
    rw [itemsOf, walkItems, List.filter_map, List.map_map]
    rfl
  rw [hfilter, filter_zipIdx (q := fun k =>
    decide (ravel (pick false mask shape) (pick false mask (unravel shape k)) = o)), hlen,
    filter_range_eq_fibre hmask ho, fibreEntries, List.map_filterMap, List.filterMap_map]
  refine List.filterMap_congr fun r hr => ?_
  have hindex := inBounds_fibreIndex hmask ho (List.mem_range.mp hr)
  rw [Function.comp_apply, Option.map_map]
  refine congrArg (Option.map · _) (funext fun value => ?_)
  rw [Function.comp_apply, unravel_ravel hindex]

lemma lt_length_of_mem_walkItems {mask : List Bool} {out : List β}
    (hlen : values.length = shape.prod) (hout : out.length = (pick false mask shape).prod) :
    ∀ item ∈ walkItems mask shape values 0, item.1 < out.length := by
  intro item hitem
  obtain ⟨⟨value, k⟩, hp, rfl⟩ := List.mem_map.mp hitem
  have hk : k < shape.prod := by
    have := (List.mk_mem_zipIdx_iff_getElem?.mp hp)
    rw [← hlen]
    exact (List.getElem?_eq_some_iff.mp this).1
  rw [hout]
  exact ravel_lt ((inBounds_unravel hk).pick mask)

/-- The walk of a reduction is one fold for each output cell, over the entries of its fibre. -/
theorem reduceLoop_eq_ok (hplan : plan.Splits shape) (hlen : values.length = shape.prod)
    (step : List ℕ → β → α → Result β) (initial : β) {out : List β} :
    reduceLoop plan shape step values (List.replicate shape.length 0)
        (List.replicate plan.outElems initial) = .ok out ↔
      out.length = plan.outElems ∧ ∀ o < plan.outElems, ∃ b,
        (fibreEntries plan.reduceMask shape values o).foldlM (fun b p => step p.1 b p.2) initial =
          .ok b ∧ out[o]? = some b := by
  have hcells : (List.replicate plan.outElems initial).length =
      (pick false plan.reduceMask shape).prod := by
    rw [List.length_replicate, hplan.outElems_eq]
  rw [← unravel_zero, reduceLoop_eq_foldCells hplan (by omega),
    foldCells_eq_ok (lt_length_of_mem_walkItems hlen hcells), List.length_replicate]
  refine and_congr_right fun _ => forall_congr' fun o => ?_
  constructor
  · intro h ho
    obtain ⟨b, hb, hout⟩ := h initial (List.getElem?_replicate_of_lt ho)
    rw [itemsOf_walkItems hplan.length_eq hlen (hplan.outElems_eq ▸ ho)] at hb
    exact ⟨b, hb, hout⟩
  · intro h b hb
    obtain ⟨ho, rfl⟩ := List.getElem?_eq_some_iff.mp hb
    rw [List.length_replicate] at ho
    rw [List.getElem_replicate, itemsOf_walkItems hplan.length_eq hlen (hplan.outElems_eq ▸ ho)]
    exact h ho

theorem isOk_reduceLoop (hplan : plan.Splits shape) (hlen : values.length = shape.prod)
    (step : List ℕ → β → α → Result β) (initial : β) :
    IsOk (reduceLoop plan shape step values (List.replicate shape.length 0)
        (List.replicate plan.outElems initial)) ↔
      ∀ o < plan.outElems, IsOk ((fibreEntries plan.reduceMask shape values o).foldlM
        (fun b p => step p.1 b p.2) initial) := by
  have hcells : (List.replicate plan.outElems initial).length =
      (pick false plan.reduceMask shape).prod := by
    rw [List.length_replicate, hplan.outElems_eq]
  rw [← unravel_zero, reduceLoop_eq_foldCells hplan (by omega),
    isOk_foldCells (lt_length_of_mem_walkItems hlen hcells)]
  refine forall_congr' fun o => ?_
  constructor
  · intro h ho
    have hok := h initial (List.getElem?_replicate_of_lt ho)
    rwa [itemsOf_walkItems hplan.length_eq hlen (hplan.outElems_eq ▸ ho)] at hok
  · intro h b hb
    obtain ⟨ho, rfl⟩ := List.getElem?_eq_some_iff.mp hb
    rw [List.length_replicate] at ho
    rw [List.getElem_replicate, itemsOf_walkItems hplan.length_eq hlen (hplan.outElems_eq ▸ ho)]
    exact h ho

end Walk

end ArcadiaTio.Tio
