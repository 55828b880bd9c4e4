import ArcadiaTio.Tensor.Fibres

/-!
# Cumulative operations along an axis

The walk of a cumulative operation finds the output it continues one stride back.  So every output
is a fold over the initial part of its line along the axis, from the first value of the line on
(`cumulativeAxisValues_eq`).
-/

namespace ArcadiaTio.Tio

open ArcadiaTio.Lib ArcadiaTio.Lib.RowMajor

variable {α : Type} {values : List α} {shape index : List ℕ} {axis : ℕ}

/-- The first `n` values of a line along an axis. -/
def line (values : List α) (shape : List ℕ) (axis : ℕ) (index : List ℕ) (n : ℕ) : List α :=
  (List.range n).filterMap fun q => values[ravel shape (index.set axis q)]?

lemma line_set {q n : ℕ} : line values shape axis (index.set axis q) n =
    line values shape axis index n := by
  rw [line, line]
  refine List.filterMap_congr fun r _ => ?_
  rw [List.set_set]

lemma line_succ {n : ℕ} {value : α} (h : values[ravel shape (index.set axis n)]? = some value) :
    line values shape axis index (n + 1) = line values shape axis index n ++ [value] := by
  rw [line, List.range_succ, List.filterMap_append, List.filterMap_cons, h, List.filterMap_nil]
  rfl

lemma line_initial {m n : ℕ} (h : m ≤ n) :
    line values shape axis index m <+: line values shape axis index n := by
  obtain ⟨k, rfl⟩ := Nat.exists_eq_add_of_le h
  rw [line, line, List.range_add, List.filterMap_append]
  exact List.prefix_append _ _

/-! ### One stride back -/

lemma ravel_set_add (p : ℕ) (h : InBounds shape index) (ha : axis < shape.length) :
    ravel shape (index.set axis p) + index.getD axis 0 * (strides shape).getD axis 0 =
      ravel shape index + p * (strides shape).getD axis 0 := by
  induction h generalizing axis with
  | nil => exact absurd ha (Nat.not_lt_zero _)
  | @cons i n index shape hi hrest ih =>
    cases axis with
    | zero =>
      simp only [List.set_cons_zero, ravel, strides, List.getD_cons_zero]
      omega
    | succ axis =>
      have hlt : axis < shape.length := by simpa using ha
      have := ih hlt
      simp only [List.set_cons_succ, ravel, strides, List.getD_cons_succ]
      omega

/-- The previous multi-index along an axis stands one stride back. -/
lemma ravel_set_pred (h : InBounds shape index) (ha : axis < shape.length)
    (hpos : index.getD axis 0 ≠ 0) :
    (strides shape).getD axis 0 ≤ ravel shape index ∧
      ravel shape (index.set axis (index.getD axis 0 - 1)) =
        ravel shape index - (strides shape).getD axis 0 := by
  have hadd := ravel_set_add (index.getD axis 0 - 1) h ha
  obtain ⟨q, hq⟩ := Nat.exists_eq_succ_of_ne_zero hpos
  rw [hq, Nat.succ_sub_one, Nat.succ_mul] at hadd
  rw [hq, Nat.succ_sub_one]
  omega

lemma set_getD (h : InBounds shape index) (ha : axis < shape.length) :
    index.set axis (index.getD axis 0) = index := by
  have hlen : axis < index.length := by rwa [h.length_eq]
  rw [List.getD_eq_getElem _ _ hlen, List.set_getElem_self]

/-! ### The walk -/

variable {combine : α → α → Result α}

/-- What the output at a multi-index should be: the fold of its line up to there. -/
def cumulated (combine : α → α → Result α) (values : List α) (shape : List ℕ) (axis : ℕ)
    (index : List ℕ) : Result α :=
  foldFirst (invalidArgument "index out of bounds") combine
    (line values shape axis index (index.getD axis 0 + 1))

lemma cumulated_of_zero {value : α} (h : InBounds shape index) (ha : axis < shape.length)
    (hvalue : values[ravel shape index]? = some value) (hzero : index.getD axis 0 = 0) :
    cumulated combine values shape axis index = .ok value := by
  have hself : values[ravel shape (index.set axis 0)]? = some value := by
    rw [← hzero, set_getD h ha, hvalue]
  rw [cumulated, hzero, line_succ hself]
  rfl

/-- The step from one output of a line to the next. -/
lemma cumulated_succ {value : α} (hlen : values.length = shape.prod) (h : InBounds shape index)
    (ha : axis < shape.length) (hvalue : values[ravel shape index]? = some value)
    (hpos : index.getD axis 0 ≠ 0) :
    cumulated combine values shape axis index = (do
      let previous ← cumulated combine values shape axis (index.set axis (index.getD axis 0 - 1))
      combine previous value) := by
  obtain ⟨q, hq⟩ := Nat.exists_eq_succ_of_ne_zero hpos
  have hself : values[ravel shape (index.set axis (q + 1))]? = some value := by
    have hq' : index.getD axis 0 = q + 1 := hq
    rw [← hq', set_getD h ha, hvalue]
  have hlenIndex : axis < index.length := by rwa [h.length_eq]
  have hprev : (index.set axis q).getD axis 0 = q := by
    rw [List.getD_eq_getElem _ _ (by rwa [List.length_set]), List.getElem_set_self]
  have hq_lt : q < shape.getD axis 0 := by
    have := h.getD_lt ha
    omega
  have hbounds : InBounds shape (index.set axis q) := by
    have := h.set (a := axis) hq_lt
    rwa [List.getD_eq_getElem _ _ ha, List.set_getElem_self] at this
  have hlt : ravel shape (index.set axis q) < values.length := by
    rw [hlen]
    exact ravel_lt hbounds
  have hne : line values shape axis index (q + 1) ≠ [] := by
    rw [line_succ (List.getElem?_eq_getElem hlt)]
    simp
  rw [hq, Nat.succ_sub_one, cumulated, cumulated, hprev, line_set, hq, line_succ hself,
    foldFirst_concat hne]

/-- The multi-index one stride back stands before its successor along the axis. -/
lemma unravel_sub_stride {k : ℕ} (hk : k < shape.prod) (ha : axis < shape.length)
    (hpos : (unravel shape k).getD axis 0 ≠ 0) :
    (strides shape).getD axis 0 ≤ k ∧ k - (strides shape).getD axis 0 < k ∧
      (unravel shape k).set axis ((unravel shape k).getD axis 0 - 1) =
        unravel shape (k - (strides shape).getD axis 0) := by
  have hindex : InBounds shape (unravel shape k) := inBounds_unravel hk
  obtain ⟨hle, hprev⟩ := ravel_set_pred hindex ha hpos
  rw [ravel_unravel hk] at hle hprev
  have hbounds : InBounds shape
      ((unravel shape k).set axis ((unravel shape k).getD axis 0 - 1)) := by
    have hlt := hindex.getD_lt ha
    have hset := hindex.set (a := axis) (i := (unravel shape k).getD axis 0 - 1)
      (n := shape.getD axis 0) (by omega)
    rwa [List.getD_eq_getElem shape _ ha, List.set_getElem_self] at hset
  have hpred : (unravel shape k).set axis ((unravel shape k).getD axis 0 - 1) =
      unravel shape (k - (strides shape).getD axis 0) := by
    rw [← hprev, unravel_ravel hbounds]
  refine ⟨hle, lt_of_le_of_ne (Nat.sub_le _ _) fun heq => ?_, hpred⟩
  -- the position on the axis has changed
  have hlenIndex : axis < (unravel shape k).length := by rwa [length_unravel]
  have hsame : ((unravel shape k).set axis ((unravel shape k).getD axis 0 - 1)).getD axis 0 =
      (unravel shape k).getD axis 0 := by
    rw [hpred, heq]
  rw [List.getD_eq_getElem _ _ (by rwa [List.length_set]), List.getElem_set_self] at hsame
  omega

/-- The walk pushes the fold of the line, when the outputs before it are the folds of theirs. -/
lemma cumulativeNext_eq {out : List α} {k : ℕ} {value : α} (hlen : values.length = shape.prod)
    (ha : axis < shape.length) (hvalue : values[k]? = some value)
    (hout : ∀ j < k, ∃ b, cumulated combine values shape axis (unravel shape j) = .ok b ∧
      out[j]? = some b) :
    cumulativeNext combine (strides shape) axis value k (unravel shape k) out =
      cumulated combine values shape axis (unravel shape k) := by
  have hk : k < shape.prod := hlen ▸ (List.getElem?_eq_some_iff.mp hvalue).1
  have hindex : InBounds shape (unravel shape k) := inBounds_unravel hk
  have hentry : values[ravel shape (unravel shape k)]? = some value := by
    rwa [ravel_unravel hk]
  rw [cumulativeNext]
  by_cases hzero : (unravel shape k).getD axis 0 = 0
  · rw [if_pos hzero, cumulated_of_zero hindex ha hentry hzero]
  · obtain ⟨hle, hlt, hpred⟩ := unravel_sub_stride hk ha hzero
    obtain ⟨b, hb, hprevious⟩ := hout _ hlt
    have hsub : checkedSub k ((strides shape).getD axis 0) =
        some (k - (strides shape).getD axis 0) := if_pos hle
    rw [if_neg hzero, cumulated_succ hlen hindex ha hentry hzero, hpred, hb, hsub, okOr_some,
      ok_bind, hprevious]
    rfl

/-- The outputs pushed by the walk, from any multi-index on. -/
lemma cumulativeAxisLoop_eq (combine : α → α → Result α) (hlen : values.length = shape.prod)
    (ha : axis < shape.length) {rest out : List α} {k : ℕ} (hrest : rest = values.drop k) (hk : out.length = k)
    (hout : ∀ j < k, ∃ b, cumulated combine values shape axis (unravel shape j) = .ok b ∧
      out[j]? = some b) :
    cumulativeAxisLoop combine (strides shape) shape axis rest k (unravel shape k) out = (do
      let pushed ← (List.range' k rest.length).mapM fun j =>
        cumulated combine values shape axis (unravel shape j)
      return out ++ pushed) := by
  induction rest generalizing k out with
  | nil => simp [cumulativeAxisLoop]
  | cons value rest ih =>
    have hvalue : values[k]? = some value := by
      rw [← List.head?_drop, ← hrest, List.head?_cons]
    have hrest' : rest = values.drop (k + 1) := by
      rw [← List.tail_drop, ← hrest, List.tail_cons]
    rw [cumulativeAxisLoop, cumulativeNext_eq hlen ha hvalue hout, List.length_cons,
      List.range'_succ, List.mapM_cons]
    rcases hcum : cumulated combine values shape axis (unravel shape k) with e | b
    · rfl
    rw [ok_bind, ok_bind]
    have hout' : ∀ j < k + 1, ∃ b', cumulated combine values shape axis (unravel shape j) = .ok b' ∧
        (out ++ [b])[j]? = some b' := by
      intro j hj
      rcases Nat.lt_succ_iff_lt_or_eq.mp hj with hj | rfl
      · obtain ⟨b', hb', hentry⟩ := hout j hj
        exact ⟨b', hb', by rw [List.getElem?_append_left (by omega), hentry]⟩
      · exact ⟨b, hcum, by rw [List.getElem?_append_right (by omega), hk, Nat.sub_self]; rfl⟩
    rcases rest with _ | ⟨value', rest⟩
    · simp [cumulativeAxisLoop]
    · have hadvance : incrementIndices (unravel shape k) shape = unravel shape (k + 1) := by
        refine advance_unravel ?_
        have := congrArg List.length hrest'
        rw [List.length_cons, List.length_drop] at this
        omega
      rw [hadvance, ih hrest' (by rw [List.length_append, hk, List.length_singleton]) hout']
      simp only [bind_assoc, pure_bind]
      refine congrArg _ (funext fun pushed => ?_)
      rw [List.append_assoc, List.singleton_append]

/-- Every output of a cumulative operation is the fold of its line up to there. -/
theorem cumulativeAxisValues_eq (hlen : values.length = shape.prod) (ha : axis < shape.length)
    (hfit : StridesFit shape) :
    cumulativeAxisValues combine values shape axis =
      (List.range shape.prod).mapM fun k =>
        cumulated combine values shape axis (unravel shape k) := by
  have hempty : ∀ j < 0, ∃ b, cumulated combine values shape axis (unravel shape j) = .ok b ∧
      ([] : List α)[j]? = some b := fun j hj => absurd hj (Nat.not_lt_zero j)
  have hloop := cumulativeAxisLoop_eq combine hlen ha (List.drop_zero).symm rfl hempty
  rw [cumulativeAxisValues, rowMajorStrides_eq_ok.mpr ⟨rfl, hfit⟩, ok_bind, ← unravel_zero, hloop,
    hlen, List.range_eq_range']
  simp only [List.nil_append]
  exact bind_pure _

end ArcadiaTio.Tio
