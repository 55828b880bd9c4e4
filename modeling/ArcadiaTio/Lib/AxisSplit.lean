import Mathlib.Data.List.Sort
import ArcadiaTio.Lib.RowMajor

/-!
# Splitting the axes of a shape in two

A mask marks some of the axes of a shape.  `pick` keeps the entries of the marked (or of the other)
axes, and `merge` puts the two halves of a multi-index together again.  The multi-indices whose
unmarked half is fixed are a *fibre*; along a fibre the row-major number of the whole multi-index
grows with the one of its marked half (`ravel_merge_lt`), so that a walk over the whole shape meets
the fibre in the row-major order of the marked axes (`filter_range_eq_fibre`).
-/

namespace ArcadiaTio.Lib.RowMajor

variable {α : Type} {mask : List Bool} {shape index kept marked : List ℕ}

/-- The entries of a list whose axis has the given mark. -/
def pick (b : Bool) : List Bool → List α → List α
  | m :: mask, a :: l => if m = b then a :: pick b mask l else pick b mask l
  | _, _ => []

/-- Put the entries of the unmarked and of the marked axes in their places. -/
def merge : List Bool → List α → List α → List α
  | true :: mask, kept, a :: marked => a :: merge mask kept marked
  | false :: mask, a :: kept, marked => a :: merge mask kept marked
  | _, _, _ => []

@[simp] lemma pick_nil {b : Bool} {l : List α} : pick b [] l = [] := rfl

@[simp] lemma pick_cons_self {b : Bool} {a : α} {l : List α} :
    pick b (b :: mask) (a :: l) = a :: pick b mask l := if_pos rfl

@[simp] lemma pick_true_cons_false {a : α} {l : List α} :
    pick true (false :: mask) (a :: l) = pick true mask l := rfl

@[simp] lemma pick_false_cons_true {a : α} {l : List α} :
    pick false (true :: mask) (a :: l) = pick false mask l := rfl

/-! ### Both halves of a multi-index -/

lemma InBounds.pick {b : Bool} (h : InBounds shape index) (mask : List Bool) :
    InBounds (pick b mask shape) (pick b mask index) := by
  induction h generalizing mask with
  | nil => cases mask <;> exact List.Forall₂.nil
  | @cons i n index shape hi _ ih =>
    cases mask with
    | nil => exact List.Forall₂.nil
    | cons m mask =>
      by_cases hm : m = b
      · subst hm
        rw [pick_cons_self, pick_cons_self]
        exact List.Forall₂.cons hi (ih mask)
      · simp only [RowMajor.pick, if_neg hm]
        exact ih mask

lemma inBounds_merge (hlen : mask.length = shape.length)
    (hkept : InBounds (pick false mask shape) kept)
    (hmarked : InBounds (pick true mask shape) marked) :
    InBounds shape (merge mask kept marked) := by
  induction mask generalizing shape kept marked with
  | nil =>
    rw [List.length_nil, eq_comm, List.length_eq_zero_iff] at hlen
    subst hlen
    exact List.Forall₂.nil
  | cons m mask ih =>
    obtain ⟨n, shape, rfl⟩ := List.exists_cons_of_length_pos (l := shape) (by simp [← hlen])
    have hrest : mask.length = shape.length := by simpa using hlen
    cases m with
    | true =>
      rw [pick_cons_self] at hmarked
      obtain ⟨i, marked, hi, htail, rfl⟩ := List.forall₂_cons_right_iff.mp hmarked
      exact List.Forall₂.cons hi (ih hrest hkept htail)
    | false =>
      rw [pick_cons_self] at hkept
      obtain ⟨i, kept, hi, htail, rfl⟩ := List.forall₂_cons_right_iff.mp hkept
      exact List.Forall₂.cons hi (ih hrest htail hmarked)

lemma merge_pick (hlen : mask.length = index.length) :
    merge mask (pick false mask index) (pick true mask index) = index := by
  induction mask generalizing index with
  | nil =>
    rw [List.length_nil, eq_comm, List.length_eq_zero_iff] at hlen
    rw [hlen]
    rfl
  | cons m mask ih =>
    obtain ⟨i, index, rfl⟩ := List.exists_cons_of_length_pos (l := index) (by simp [← hlen])
    have hrest : mask.length = index.length := by simpa using hlen
    cases m with
    | true => rw [pick_cons_self, pick_false_cons_true, merge, ih hrest]
    | false => rw [pick_cons_self, pick_true_cons_false, merge, ih hrest]

/-- The two halves of a merged multi-index. -/
lemma pick_merge (hlen : mask.length = shape.length)
    (hkept : InBounds (pick false mask shape) kept)
    (hmarked : InBounds (pick true mask shape) marked) :
    pick false mask (merge mask kept marked) = kept ∧
      pick true mask (merge mask kept marked) = marked := by
  induction mask generalizing shape kept marked with
  | nil =>
    rw [List.forall₂_nil_right_iff.mp hkept, List.forall₂_nil_right_iff.mp hmarked]
    exact ⟨rfl, rfl⟩
  | cons m mask ih =>
    obtain ⟨n, shape, rfl⟩ := List.exists_cons_of_length_pos (l := shape) (by simp [← hlen])
    have hrest : mask.length = shape.length := by simpa using hlen
    cases m with
    | true =>
      rw [pick_cons_self] at hmarked
      obtain ⟨i, marked, hi, htail, rfl⟩ := List.forall₂_cons_right_iff.mp hmarked
      obtain ⟨hfalse, htrue⟩ := ih hrest hkept htail
      exact ⟨hfalse, by rw [merge, pick_cons_self, htrue]⟩
    | false =>
      rw [pick_cons_self] at hkept
      obtain ⟨i, kept, hi, htail, rfl⟩ := List.forall₂_cons_right_iff.mp hkept
      obtain ⟨hfalse, htrue⟩ := ih hrest htail hmarked
      exact ⟨by rw [merge, pick_cons_self, hfalse], htrue⟩

lemma prod_pick_mul (hlen : mask.length = shape.length) :
    (pick false mask shape).prod * (pick true mask shape).prod = shape.prod := by
  induction mask generalizing shape with
  | nil =>
    rw [List.length_nil, eq_comm, List.length_eq_zero_iff] at hlen
    rw [hlen]
    rfl
  | cons m mask ih =>
    obtain ⟨n, shape, rfl⟩ := List.exists_cons_of_length_pos (l := shape) (by simp [← hlen])
    have hrest : mask.length = shape.length := by simpa using hlen
    rw [List.prod_cons, ← ih hrest]
    cases m with
    | true =>
      rw [pick_cons_self, pick_false_cons_true, List.prod_cons]
      ring
    | false =>
      rw [pick_cons_self, pick_true_cons_false, List.prod_cons]
      ring

lemma pick_subset {b : Bool} {l : List α} {a : α} (h : a ∈ pick b mask l) : a ∈ l := by
  induction mask generalizing l with
  | nil => cases h
  | cons m mask ih =>
    cases l with
    | nil => cases h
    | cons x l =>
      by_cases hm : m = b
      · subst hm
        rw [pick_cons_self, List.mem_cons] at h
        exact List.mem_cons.mpr (h.imp_right ih)
      · rw [pick, if_neg hm] at h
        exact List.mem_cons_of_mem _ (ih h)

/-! ### Order -/

/-- Row-major numbers compare by the first position, then by the rest. -/
lemma ravel_cons_lt_iff {n i j : ℕ} {other : List ℕ} (h : InBounds shape index)
    (h' : InBounds shape other) : ravel (n :: shape) (i :: index) < ravel (n :: shape) (j :: other) ↔
      i < j ∨ i = j ∧ ravel shape index < ravel shape other := by
  have hlt := ravel_lt h
  have hlt' := ravel_lt h'
  rw [ravel, ravel]
  rcases lt_trichotomy i j with hij | rfl | hij
  · have hmul : (i + 1) * shape.prod ≤ j * shape.prod := Nat.mul_le_mul_right _ hij
    rw [Nat.succ_mul] at hmul
    refine iff_of_true (by omega) (Or.inl hij)
  · simp
  · have hmul : (j + 1) * shape.prod ≤ i * shape.prod := Nat.mul_le_mul_right _ hij
    rw [Nat.succ_mul] at hmul
    refine iff_of_false (by omega) ?_
    rintro (hlt | ⟨rfl, -⟩) <;> omega

/-- Along a fibre, the number of the whole grows with the number of the marked half. -/
lemma ravel_merge_lt {marked' : List ℕ} (hlen : mask.length = shape.length)
    (hkept : InBounds (pick false mask shape) kept)
    (hmarked : InBounds (pick true mask shape) marked)
    (hmarked' : InBounds (pick true mask shape) marked')
    (hlt : ravel (pick true mask shape) marked < ravel (pick true mask shape) marked') :
    ravel shape (merge mask kept marked) < ravel shape (merge mask kept marked') := by
  induction mask generalizing shape kept marked marked' with
  | nil => simp [ravel] at hlt
  | cons m mask ih =>
    obtain ⟨n, shape, rfl⟩ := List.exists_cons_of_length_pos (l := shape) (by simp [← hlen])
    have hrest : mask.length = shape.length := by simpa using hlen
    cases m with
    | true =>
      rw [pick_cons_self] at hmarked hmarked' hlt
      obtain ⟨i, marked, hi, htail, rfl⟩ := List.forall₂_cons_right_iff.mp hmarked
      obtain ⟨i', marked', hi', htail', rfl⟩ := List.forall₂_cons_right_iff.mp hmarked'
      rw [merge, merge, ravel_cons_lt_iff (inBounds_merge hrest hkept htail)
        (inBounds_merge hrest hkept htail')]
      rcases (ravel_cons_lt_iff htail htail').mp hlt with hfirst | ⟨rfl, hlater⟩
      · exact Or.inl hfirst
      · exact Or.inr ⟨rfl, ih hrest hkept htail htail' hlater⟩
    | false =>
      rw [pick_cons_self] at hkept
      obtain ⟨k, kept, hk, hkeptTail, rfl⟩ := List.forall₂_cons_right_iff.mp hkept
      rw [merge, merge, ravel_cons_lt_iff (inBounds_merge hrest hkeptTail hmarked)
        (inBounds_merge hrest hkeptTail hmarked')]
      exact Or.inr ⟨rfl, ih hrest hkeptTail hmarked hmarked' hlt⟩

/-! ### Fibres -/

/-- The multi-index at offset `r` of fibre `o`. -/
def fibreIndex (mask : List Bool) (shape : List ℕ) (o r : ℕ) : List ℕ :=
  merge mask (unravel (pick false mask shape) o) (unravel (pick true mask shape) r)

lemma inBounds_fibreIndex {o r : ℕ} (hlen : mask.length = shape.length)
    (ho : o < (pick false mask shape).prod) (hr : r < (pick true mask shape).prod) :
    InBounds shape (fibreIndex mask shape o r) :=
  inBounds_merge hlen (inBounds_unravel ho) (inBounds_unravel hr)

/-- A multi-index is the one at offset `r` of fibre `o` when its halves have these numbers. -/
lemma eq_fibreIndex_iff {o r : ℕ} (hlen : mask.length = shape.length) :
    InBounds shape index ∧ ravel (pick false mask shape) (pick false mask index) = o ∧
        ravel (pick true mask shape) (pick true mask index) = r ↔
      o < (pick false mask shape).prod ∧ r < (pick true mask shape).prod ∧
        index = fibreIndex mask shape o r := by
  constructor
  · rintro ⟨h, rfl, rfl⟩
    refine ⟨ravel_lt (h.pick mask), ravel_lt (h.pick mask), ?_⟩
    rw [fibreIndex, unravel_ravel (h.pick mask), unravel_ravel (h.pick mask),
      merge_pick (hlen.trans h.length_eq.symm)]
  · rintro ⟨ho, hr, rfl⟩
    obtain ⟨hkept, hmarked⟩ := pick_merge hlen (inBounds_unravel ho) (inBounds_unravel hr)
    refine ⟨inBounds_fibreIndex hlen ho hr, ?_, ?_⟩
    · rw [fibreIndex, hkept, ravel_unravel ho]
    · rw [fibreIndex, hmarked, ravel_unravel hr]

/-- A walk over a shape meets the multi-indices of a fibre in the order of their offsets. -/
lemma filter_range_eq_fibre {o : ℕ} (hlen : mask.length = shape.length)
    (ho : o < (pick false mask shape).prod) :
    ((List.range shape.prod).filter fun k =>
        ravel (pick false mask shape) (pick false mask (unravel shape k)) = o) =
      (List.range (pick true mask shape).prod).map fun r => ravel shape (fibreIndex mask shape o r) := by
  have hwalk : ((List.range shape.prod).filter fun k =>
      ravel (pick false mask shape) (pick false mask (unravel shape k)) = o).Pairwise (· < ·) :=
    List.pairwise_lt_range.filter _
  have hfibre : ((List.range (pick true mask shape).prod).map fun r =>
      ravel shape (fibreIndex mask shape o r)).Pairwise (· < ·) := by
    rw [List.pairwise_map]
    refine List.pairwise_lt_range.imp_of_mem ?_
    intro r r' hr hr' hlt
    rw [List.mem_range] at hr hr'
    refine ravel_merge_lt hlen (inBounds_unravel ho) (inBounds_unravel hr) (inBounds_unravel hr') ?_
    rwa [ravel_unravel hr, ravel_unravel hr']
  refine hwalk.eq_of_mem_iff hfibre fun k => ?_
  simp only [List.mem_filter, List.mem_range, List.mem_map, decide_eq_true_eq]
  constructor
  · rintro ⟨hk, hout⟩
    obtain ⟨-, hr, heq⟩ := (eq_fibreIndex_iff hlen).mp ⟨inBounds_unravel hk, hout, rfl⟩
    exact ⟨_, hr, by rw [← heq, ravel_unravel hk]⟩
  · rintro ⟨r, hr, rfl⟩
    have hindex := inBounds_fibreIndex hlen ho hr
    rw [unravel_ravel hindex]
    exact ⟨ravel_lt hindex, ((eq_fibreIndex_iff hlen).mpr ⟨ho, hr, rfl⟩).2.1⟩

end ArcadiaTio.Lib.RowMajor
