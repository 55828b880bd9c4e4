import Mathlib.Data.List.Nodup
import Mathlib.Data.List.InsertIdx
import Mathlib.Data.List.Perm.Subperm
import ArcadiaTio.Tensor.Rearrange

/-!
# Permuting axes

A permutation of axes writes the position on output axis `k` at input axis `p[k]`, in a memory
that the walk uses again for every element; since the axes are distinct and all there, nothing of
the previous element is left (`permuteSource_eq`).  Swapping, transposing and moving are the
permutations of their own lists of axes.
-/

namespace ArcadiaTio.Tio

open ArcadiaTio.Lib ArcadiaTio.Lib.RowMajor

/-! ### Permutations of the axes of a rank -/

/-- The source of a multi-index under a permutation of axes: its position on axis `p[k]` is the
output position on axis `k`. -/
def permuteIndex (p index : List ℕ) : List ℕ :=
  (List.range p.length).map fun a => index.getD (p.idxOf a) 0

/-- A list of axes that has every axis of a rank once. -/
structure IsAxisPermutation (rank : ℕ) (p : List ℕ) : Prop where
  length_eq : p.length = rank
  nodup : p.Nodup
  lt : ∀ a ∈ p, a < rank

namespace IsAxisPermutation

variable {rank : ℕ} {p : List ℕ} (h : IsAxisPermutation rank p)

include h

lemma perm_range : p.Perm (List.range rank) := by
  refine (h.nodup.subperm fun a ha => List.mem_range.mpr (h.lt a ha)).perm_of_length_le ?_
  rw [List.length_range, h.length_eq]

lemma mem_iff {a : ℕ} : a ∈ p ↔ a < rank := by
  rw [h.perm_range.mem_iff, List.mem_range]

lemma idxOf_lt {a : ℕ} (ha : a < rank) : p.idxOf a < p.length :=
  List.idxOf_lt_length_iff.mpr (h.mem_iff.mpr ha)

/-- The source is determined by the positions it must have. -/
lemma permuteIndex_eq {index source : List ℕ} (hlen : source.length = rank)
    (hsource : ∀ k, k < rank → source.getD (p.getD k 0) 0 = index.getD k 0) :
    permuteIndex p index = source := by
  apply List.ext_getElem
  · rw [permuteIndex, List.length_map, List.length_range, h.length_eq, hlen]
  · intro a ha ha'
    have hidx := h.idxOf_lt (a := a) (by omega)
    have hget : p.getD (p.idxOf a) 0 = a := by
      rw [List.getD_eq_getElem _ _ hidx, List.getElem_idxOf]
    have hpos := hsource (p.idxOf a) (by rw [← h.length_eq]; exact hidx)
    rw [hget, List.getD_eq_getElem _ _ ha'] at hpos
    simp only [permuteIndex, List.getElem_map, List.getElem_range, hpos]

lemma length_permuteIndex (index : List ℕ) : (permuteIndex p index).length = rank := by
  rw [permuteIndex, List.length_map, List.length_range, h.length_eq]

/-- The source has the output positions. -/
lemma getD_permuteIndex (index : List ℕ) {a : ℕ} (ha : a < rank) :
    (permuteIndex p index).getD a 0 = index.getD (p.idxOf a) 0 := by
  rw [List.getD_eq_getElem _ _ (by rw [h.length_permuteIndex]; exact ha)]
  simp only [permuteIndex, List.getElem_map, List.getElem_range]

lemma inBounds_permuteIndex {shape index : List ℕ} (hrank : shape.length = rank)
    (hindex : InBounds (p.map fun a => shape.getD a 0) index) :
    InBounds shape (permuteIndex p index) := by
  rw [inBounds_iff_getD]
  refine ⟨by rw [h.length_permuteIndex, hrank], fun a ha => ?_⟩
  have hidx := h.idxOf_lt (a := a) (by omega)
  have hlt := hindex.getD_lt (a := p.idxOf a) (by rwa [List.length_map])
  rw [List.getD_eq_getElem (p.map _) _ (by rwa [List.length_map]), List.getElem_map,
    List.getElem_idxOf] at hlt
  rwa [h.getD_permuteIndex _ (by omega)]

lemma map_perm (shape : List ℕ) (hrank : shape.length = rank) :
    (p.map fun a => shape.getD a 0).Perm shape := by
  have hmap := h.perm_range.map fun a => shape.getD a 0
  have hself : (List.range rank).map (fun a => shape.getD a 0) = shape := by
    apply List.ext_getElem
    · rw [List.length_map, List.length_range, hrank]
    · intro a _ ha
      rw [List.getElem_map, List.getElem_range, List.getD_eq_getElem _ _ ha]
  rwa [hself] at hmap

end IsAxisPermutation

/-- Writing the positions one after the other leaves each at its axis and the rest as it was. -/
lemma getElem?_permuteSource {p index source : List ℕ} (hnodup : p.Nodup)
    (hlen : index.length = p.length) {a : ℕ} (ha : a < source.length) :
    (permuteSource p source index)[a]? =
      if a ∈ p then index[p.idxOf a]? else source[a]? := by
  induction p generalizing index source with
  | nil => rfl
  | cons b p ih =>
    cases index with
    | nil => simp at hlen
    | cons i index =>
      rw [List.nodup_cons] at hnodup
      have hstep : permuteSource (b :: p) source (i :: index) =
          permuteSource p (source.set b i) index := rfl
      rw [hstep, ih hnodup.2 (by simpa using hlen) (by rwa [List.length_set])]
      by_cases hab : a = b
      · subst hab
        rw [if_neg hnodup.1, if_pos (by simp), List.idxOf_cons_self, List.getElem?_cons_zero,
          List.getElem?_set_self ha]
      · have hmem : a ∈ b :: p ↔ a ∈ p := by simp [hab]
        rw [if_congr hmem rfl rfl, List.idxOf_cons_ne _ (Ne.symm hab),
          List.getElem?_set_ne (Ne.symm hab)]
        rfl

/-- The memory of the previous element does not matter. -/
lemma IsAxisPermutation.permuteSource_eq {rank : ℕ} {p index source : List ℕ}
    (h : IsAxisPermutation rank p) (hsource : source.length = rank) (hindex : index.length = rank) :
    permuteSource p source index = permuteIndex p index := by
  have hlen : (permuteSource p source index).length = source.length := by
    rw [permuteSource]
    generalize p.zip index = pairs
    induction pairs generalizing source with
    | nil => rfl
    | cons pair pairs ih => rw [List.foldl_cons, ih (by rwa [List.length_set]), List.length_set]
  apply List.ext_getElem?
  intro a
  by_cases ha : a < rank
  · have hidx : p.idxOf a < index.length := by
      rw [hindex, ← h.length_eq]
      exact h.idxOf_lt ha
    have hperm : a < (permuteIndex p index).length := by rwa [h.length_permuteIndex]
    have hget := h.getD_permuteIndex index ha
    rw [List.getD_eq_getElem _ _ hperm, List.getD_eq_getElem _ _ hidx] at hget
    rw [getElem?_permuteSource h.nodup (by rw [hindex, h.length_eq]) (by omega),
      if_pos (h.mem_iff.mpr ha), List.getElem?_eq_getElem hperm, List.getElem?_eq_getElem hidx,
      hget]
  · rw [List.getElem?_eq_none (by omega),
      List.getElem?_eq_none (by rw [h.length_permuteIndex]; omega)]

/-! ### The operations -/

lemma normalizeAxesFrom_eq_ok {rank : ℕ} (hrank : rank < 2 ^ 63) {axes : List Int64}
    {out result : List ℕ} (hout : out.Nodup) : normalizeAxesFrom rank axes out = .ok result ↔
      ∃ p, List.Forall₂ (AxisDenotes rank) axes p ∧ (out ++ p).Nodup ∧ result = out ++ p := by
  induction axes generalizing out with
  | nil =>
    simp only [normalizeAxesFrom, Except.ok.injEq, List.forall₂_nil_left_iff, exists_eq_left,
      List.append_nil]
    exact ⟨fun h => ⟨hout, h.symm⟩, fun h => h.2.symm⟩
  | cons axis axes ih =>
    rw [normalizeAxesFrom, bind_eq_ok]
    simp only [normalizeAxis_eq_ok hrank, bind_eq_ok, failIf_eq_ok, exists_const]
    constructor
    · rintro ⟨a, ha, hfresh, h⟩
      have hnodup : (out ++ [a]).Nodup := by
        rw [← List.concat_eq_append, List.nodup_concat]
        exact ⟨hfresh, hout⟩
      obtain ⟨p, hp, hnodup', rfl⟩ := (ih hnodup).mp h
      exact ⟨a :: p, List.Forall₂.cons ha hp, by simpa using hnodup', by simp⟩
    · rintro ⟨p, hp, hnodup, rfl⟩
      obtain ⟨a, p, ha, hrest, rfl⟩ := List.forall₂_cons_left_iff.mp hp
      have hsplit : out ++ a :: p = out ++ [a] ++ p := by simp
      rw [hsplit] at hnodup
      have hhead := (List.nodup_append.mp hnodup).1
      refine ⟨a, ha, ?_, (ih hhead).mpr ⟨p, hrest, hnodup, hsplit⟩⟩
      rw [← List.concat_eq_append, List.nodup_concat] at hhead
      exact hhead.1

namespace Tensor

variable {t out : Tensor} (ht : t.Valid) (hne : t.data.len ≠ 0)

/-- What an axis list denotes when it is a permutation of the axes. -/
def PermutationDenotes (rank : ℕ) (axes : List Int64) (p : List ℕ) : Prop :=
  List.Forall₂ (AxisDenotes rank) axes p ∧ IsAxisPermutation rank p

include ht in
lemma permuteAxes_eq_ok {axes : List Int64} :
    t.permuteAxes axes = .ok out ↔ axes.length = t.dims.length ∧
      ∃ p, (List.Forall₂ (AxisDenotes t.dims.length) axes p ∧ p.Nodup) ∧
        t.mapTo (p.map fun a => t.dims.getD a 0) (fun values =>
          permuteValues values t.dims p (p.map fun a => t.dims.getD a 0)) = .ok out := by
  have hnormal : ∀ p, normalizeAxes axes t.dims.length = .ok p ↔
      List.Forall₂ (AxisDenotes t.dims.length) axes p ∧ p.Nodup := by
    intro p
    rw [normalizeAxes, normalizeAxesFrom_eq_ok ht.rank_dims_lt List.nodup_nil]
    simp only [List.nil_append, exists_eq_right_right']
  rw [permuteAxes, ht.validatedShape_eq, ok_bind, bind_eq_ok]
  simp only [failIf_eq_ok, not_not, exists_const, bind_eq_ok (x := normalizeAxes _ _), hnormal]
  rfl

include ht in
/-- The walk of a permutation, whose strides and whose output fit. -/
lemma exists_permuteWalk (hstrides : StridesFit t.dims) {p : List ℕ}
    (hp : IsAxisPermutation t.dims.length p)
    (hfits : ProductFits (p.map fun a => t.dims.getD a 0)) :
    ∃ out, t.mapTo (p.map fun a => t.dims.getD a 0) (fun values =>
      permuteValues values t.dims p (p.map fun a => t.dims.getD a 0)) = .ok out ∧
      t.Gathers out (p.map fun a => t.dims.getD a 0) (permuteIndex p) := by
  have hperm := hp.map_perm t.dims rfl
  refine exists_mapTo ht ?_ (fun n hn => t.dims_lt n (hperm.mem_iff.mp hn)) hfits ?_
  · intro hnil
    have hlen := hp.length_eq
    rw [List.map_eq_nil_iff] at hnil
    rw [hnil] at hlen
    exact ht.dims_ne_nil (List.length_eq_zero_iff.mp hlen.symm)
  · intro α values hvalues
    refine gatherValues_eq (fun inIndices outIndices hin hbounds => ?_) hvalues ht.prod_lt
      hstrides hfits
    have hlen : outIndices.length = t.dims.length := by
      rw [hbounds.length_eq, List.length_map, hp.length_eq]
    exact ⟨congrArg Except.ok (hp.permuteSource_eq hin hlen), hp.inBounds_permuteIndex rfl hbounds⟩

include ht in
lemma exists_permuteAxes (hstrides : StridesFit t.dims) {axes : List Int64} {p : List ℕ}
    (hp : PermutationDenotes t.dims.length axes p)
    (hfits : ProductFits (p.map fun a => t.dims.getD a 0)) :
    ∃ out, t.permuteAxes axes = .ok out ∧
      t.Gathers out (p.map fun a => t.dims.getD a 0) (permuteIndex p) := by
  obtain ⟨hdenotes, hperm⟩ := hp
  obtain ⟨out, hout, hgathers⟩ := exists_permuteWalk ht hstrides hperm hfits
  refine ⟨out, (permuteAxes_eq_ok ht).mpr ⟨?_, p, ⟨hdenotes, hperm.nodup⟩, hout⟩, hgathers⟩
  rw [hdenotes.length_eq, hperm.length_eq]

include ht hne in
theorem permuteAxes_iff {axes : List Int64} :
    t.permuteAxes axes = .ok out ↔ ∃ p, PermutationDenotes t.dims.length axes p ∧
      t.Gathers out (p.map fun a => t.dims.getD a 0) (permuteIndex p) := by
  have hfits : ∀ p, IsAxisPermutation t.dims.length p →
      ProductFits (p.map fun a => t.dims.getD a 0) := by
    intro p hp
    have hperm := hp.map_perm t.dims rfl
    have hzero : 0 ∉ p.map fun a => t.dims.getD a 0 := by
      rw [hperm.mem_iff]
      exact ht.zero_notMem hne
    rw [productFits_iff hzero, hperm.prod_eq]
    exact ht.prod_lt
  have hwalk : ∀ p, IsAxisPermutation t.dims.length p → _ := fun p hp =>
    exists_permuteWalk ht (ht.stridesFit hne) hp (hfits p hp)
  rw [permuteAxes_eq_ok ht]
  constructor
  · rintro ⟨hlen, p, ⟨hdenotes, hnodup⟩, h⟩
    have hperm : IsAxisPermutation t.dims.length p := by
      refine ⟨by rw [← hdenotes.length_eq, hlen], hnodup, fun a ha => ?_⟩
      obtain ⟨k, hk, rfl⟩ := List.mem_iff_getElem.mp ha
      exact (List.forall₂_iff_get.mp hdenotes).2 k (by rwa [hdenotes.length_eq]) hk |>.1
    exact ⟨p, ⟨hdenotes, hperm⟩, (eq_ok_iff_gathers (hwalk p hperm)).mp h⟩
  · rintro ⟨p, ⟨hdenotes, hperm⟩, hgathers⟩
    exact ⟨by rw [hdenotes.length_eq, hperm.length_eq], p, ⟨hdenotes, hperm.nodup⟩,
      (eq_ok_iff_gathers (hwalk p hperm)).mpr hgathers⟩

end Tensor

/-! ### Swapping, transposing, moving -/

section Lists

variable {rank : ℕ} {list : List ℕ}

lemma map_getD_range (hlen : list.length = rank) :
    (List.range rank).map (fun a => list.getD a 0) = list := by
  apply List.ext_getElem
  · rw [List.length_map, List.length_range, hlen]
  · intro a _ ha
    rw [List.getElem_map, List.getElem_range, List.getD_eq_getElem _ _ ha]

/-- The source is the list that the permutation turns into the output index. -/
lemma IsAxisPermutation.permuteIndex_eq_of_map {p index source : List ℕ}
    (h : IsAxisPermutation rank p) (hlen : source.length = rank)
    (hmap : (p.map fun a => source.getD a 0) = index) : permuteIndex p index = source := by
  refine h.permuteIndex_eq hlen fun k hk => ?_
  have hkp : k < p.length := by rwa [h.length_eq]
  rw [← hmap, List.getD_eq_getElem _ _ hkp,
    List.getD_eq_getElem (p.map _) _ (by rwa [List.length_map]), List.getElem_map]

lemma isAxisPermutation_of_perm {p : List ℕ} (h : p.Perm (List.range rank)) :
    IsAxisPermutation rank p where
  length_eq := by rw [h.length_eq, List.length_range]
  nodup := h.nodup_iff.mpr List.nodup_range
  lt a ha := List.mem_range.mp (h.mem_iff.mp ha)

/-- Exchange the entries of two places. -/
def swapAt (a b : ℕ) (list : List ℕ) : List ℕ :=
  (list.set a (list.getD b 0)).set b (list.getD a 0)

/-- Take out the entry of one place and put it in at another. -/
def moveAt (source destination : ℕ) (list : List ℕ) : List ℕ :=
  (list.eraseIdx source).insertIdx destination (list.getD source 0)

lemma getD_range {k : ℕ} (hk : k < rank) : (List.range rank).getD k 0 = k := by
  rw [List.getD_eq_getElem _ _ (by rwa [List.length_range]), List.getElem_range]

lemma map_getD_swapAt {a b : ℕ} (ha : a < rank) (hb : b < rank) (hlen : list.length = rank) :
    ((swapAt a b (List.range rank)).map fun k => list.getD k 0) = swapAt a b list := by
  rw [swapAt, List.map_set, List.map_set, map_getD_range hlen, getD_range ha, getD_range hb, swapAt]

lemma length_swapAt {a b : ℕ} : (swapAt a b list).length = list.length := by
  rw [swapAt, List.length_set, List.length_set]

/-- Exchanging twice changes nothing. -/
lemma swapAt_swapAt {a b : ℕ} (ha : a < list.length) (hb : b < list.length) :
    swapAt a b (swapAt a b list) = list := by
  have hpos : ∀ k, k < list.length → (swapAt a b list).getD k 0 =
      if k = b then list.getD a 0 else if k = a then list.getD b 0 else list.getD k 0 := by
    intro k hk
    rw [swapAt, List.getD_eq_getElem _ _ (by rwa [List.length_set, List.length_set])]
    simp only [List.getElem_set, eq_comm (a := b), eq_comm (a := a)]
    rw [← List.getD_eq_getElem list 0 hk]
  apply List.ext_getElem (by rw [length_swapAt, length_swapAt])
  intro k hk hk'
  rw [← List.getD_eq_getElem _ 0 hk, ← List.getD_eq_getElem _ 0 hk']
  rw [swapAt, List.getD_eq_getElem _ _ (by rwa [List.length_set, List.length_set, length_swapAt])]
  simp only [List.getElem_set]
  by_cases hkb : b = k
  · rw [if_pos hkb, hpos a ha, ← hkb]
    by_cases hab : a = b
    · rw [if_pos hab, hab]
    · rw [if_neg hab, if_pos rfl]
  · rw [if_neg hkb]
    by_cases hka : a = k
    · rw [if_pos hka, hpos b hb, if_pos rfl, hka]
    · rw [if_neg hka, ← List.getD_eq_getElem _ 0 (by rwa [length_swapAt]), hpos k hk',
        if_neg (Ne.symm hkb), if_neg (Ne.symm hka)]

lemma isAxisPermutation_swapAt {a b : ℕ} (ha : a < rank) (hb : b < rank) :
    IsAxisPermutation rank (swapAt a b (List.range rank)) := by
  have hlen : (swapAt a b (List.range rank)).length = rank := by
    rw [length_swapAt, List.length_range]
  have hlt : ∀ k ∈ swapAt a b (List.range rank), k < rank := by
    intro k hk
    rcases List.mem_or_eq_of_mem_set hk with hk | rfl
    · rcases List.mem_or_eq_of_mem_set hk with hk | rfl
      · exact List.mem_range.mp hk
      · rwa [getD_range hb]
    · rwa [getD_range ha]
  -- exchanging again gives every axis, so none is missing
  have hrange : (swapAt a b (List.range rank)).map
      (fun k => (swapAt a b (List.range rank)).getD k 0) = List.range rank := by
    rw [map_getD_swapAt ha hb hlen]
    exact swapAt_swapAt (by rwa [List.length_range]) (by rwa [List.length_range])
  refine ⟨hlen, ?_, hlt⟩
  apply List.Nodup.of_map fun k => (swapAt a b (List.range rank)).getD k 0
  rw [hrange]
  exact List.nodup_range

lemma map_getD_moveAt {a b : ℕ} (ha : a < rank) (hlen : list.length = rank) :
    ((moveAt a b (List.range rank)).map fun k => list.getD k 0) = moveAt a b list := by
  rw [moveAt, List.map_insertIdx, ← List.eraseIdx_map, map_getD_range hlen, getD_range ha, moveAt]

lemma length_moveAt {a b : ℕ} (ha : a < list.length) (hb : b < list.length) :
    (moveAt a b list).length = list.length := by
  have hpos : 0 < list.length := by omega
  rw [moveAt, List.length_insertIdx, List.length_eraseIdx, if_pos ha, if_pos (by omega)]
  omega

/-- Moving an entry back. -/
lemma moveAt_moveAt {a b : ℕ} (ha : a < list.length) (hb : b < list.length) :
    moveAt a b (moveAt b a list) = list := by
  have hins : a < (moveAt b a list).length := by rwa [length_moveAt hb ha]
  have hget : (moveAt b a list).getD a 0 = list.getD b 0 := by
    rw [List.getD_eq_getElem _ _ hins]
    exact List.getElem_insertIdx_self hins
  rw [moveAt, hget, moveAt, List.eraseIdx_insertIdx_self, List.getD_eq_getElem _ _ hb,
    List.insertIdx_eraseIdx_getElem hb]

lemma isAxisPermutation_moveAt {a b : ℕ} (ha : a < rank) (hb : b < rank) :
    IsAxisPermutation rank (moveAt a b (List.range rank)) := by
  apply isAxisPermutation_of_perm
  have hlen : a < (List.range rank).length := by rwa [List.length_range]
  have herase : b ≤ ((List.range rank).eraseIdx a).length := by
    rw [List.length_eraseIdx, if_pos hlen, List.length_range]
    omega
  rw [moveAt, List.getD_eq_getElem _ _ hlen]
  exact (List.perm_insertIdx _ _ herase).trans (List.getElem_cons_eraseIdx_perm hlen)

lemma isAxisPermutation_reverse : IsAxisPermutation rank (List.range rank).reverse :=
  isAxisPermutation_of_perm (List.reverse_perm _)

/-- A permutation of the axes of a shape, given by the shape it leads to and by the source of every
multi-index. -/
structure AxisMove (dims p shape : List ℕ) (f : List ℕ → List ℕ) : Prop where
  isPermutation : IsAxisPermutation dims.length p
  shape_eq : (p.map fun a => dims.getD a 0) = shape
  length_source : ∀ index, index.length = dims.length → (f index).length = dims.length
  source_eq : ∀ index, index.length = dims.length → (p.map fun a => (f index).getD a 0) = index

lemma AxisMove.permuteIndex_eq {dims p shape index : List ℕ} {f : List ℕ → List ℕ}
    (h : AxisMove dims p shape f) (hindex : InBounds shape index) :
    permuteIndex p index = f index := by
  have hlen : index.length = dims.length := by
    rw [hindex.length_eq, ← h.shape_eq, List.length_map, h.isPermutation.length_eq]
  exact h.isPermutation.permuteIndex_eq_of_map (h.length_source index hlen) (h.source_eq index hlen)

lemma axisMove_swapAt {dims : List ℕ} {a b : ℕ} (ha : a < dims.length) (hb : b < dims.length) :
    AxisMove dims (swapAt a b (List.range dims.length)) (swapAt a b dims) (swapAt a b) where
  isPermutation := isAxisPermutation_swapAt ha hb
  shape_eq := map_getD_swapAt ha hb rfl
  length_source index hlen := by rw [length_swapAt, hlen]
  source_eq index hlen := by
    rw [map_getD_swapAt ha hb (by rw [length_swapAt, hlen])]
    exact swapAt_swapAt (by rw [hlen]; exact ha) (by rw [hlen]; exact hb)

lemma axisMove_moveAt {dims : List ℕ} {a b : ℕ} (ha : a < dims.length) (hb : b < dims.length) :
    AxisMove dims (moveAt a b (List.range dims.length)) (moveAt a b dims) (moveAt b a) := by
  have hlength : ∀ index : List ℕ, index.length = dims.length →
      (moveAt b a index).length = dims.length := by
    intro index hlen
    rw [length_moveAt (by rw [hlen]; exact hb) (by rw [hlen]; exact ha), hlen]
  refine ⟨isAxisPermutation_moveAt ha hb, map_getD_moveAt ha rfl, hlength, fun index hlen => ?_⟩
  rw [map_getD_moveAt ha (hlength index hlen)]
  exact moveAt_moveAt (by rw [hlen]; exact ha) (by rw [hlen]; exact hb)

lemma axisMove_reverse {dims : List ℕ} :
    AxisMove dims (List.range dims.length).reverse dims.reverse List.reverse where
  isPermutation := isAxisPermutation_reverse
  shape_eq := by rw [List.map_reverse, map_getD_range rfl]
  length_source index hlen := by rw [List.length_reverse, hlen]
  source_eq index hlen := by
    rw [List.map_reverse, map_getD_range (by rw [List.length_reverse, hlen]), List.reverse_reverse]

end Lists

/-! The three operations pass their axes as `isize` values. -/

lemma denotes_ofInt {rank a : ℕ} (ha : a < rank) (hrank : rank < 2 ^ 63) :
    AxisDenotes rank (Int64.ofInt a) a := by
  refine ⟨ha, Or.inl ?_⟩
  exact Int64.toInt_ofInt_of_le (by omega) (by omega)

namespace Tensor

variable {t out : Tensor}

/-- Axes as `isize` values. -/
def isizeAxes (axes : List ℕ) : List Int64 := axes.map fun a : ℕ => Int64.ofInt a

lemma getD_isizeAxes_range {rank k : ℕ} (hk : k < rank) :
    (isizeAxes (List.range rank)).getD k 0 = Int64.ofInt k := by
  rw [isizeAxes, List.getD_eq_getElem _ _ (by rwa [List.length_map, List.length_range]),
    List.getElem_map, List.getElem_range]

lemma axesToIsize_eq {axes : List ℕ} (h : ∀ a ∈ axes, a < 2 ^ 63) :
    axesToIsize axes = .ok (isizeAxes axes) := by
  rw [axesToIsize, mapM_eq_ok, isizeAxes]
  induction axes with
  | nil => exact List.Forall₂.nil
  | cons a axes ih =>
    refine List.Forall₂.cons ?_ (ih fun b hb => h b (List.mem_cons_of_mem a hb))
    rw [isizeTryFrom_eq (h a (List.mem_cons_self))]
    rfl

/-- A list of axes denotes itself. -/
lemma permutationDenotes_isizeAxes (ht : t.Valid) {p : List ℕ}
    (hp : IsAxisPermutation t.dims.length p) :
    PermutationDenotes t.dims.length (isizeAxes p) p := by
  refine ⟨?_, hp⟩
  rw [isizeAxes, List.forall₂_map_left_iff]
  exact List.forall₂_same.mpr fun a ha => denotes_ofInt (hp.lt a ha) ht.rank_dims_lt

/-- A permutation of the axes, given by its list. -/
lemma permuteAxes_ofInt_iff (ht : t.Valid) (hne : t.data.len ≠ 0) {p : List ℕ}
    (hp : IsAxisPermutation t.dims.length p) :
    t.permuteAxes (isizeAxes p) = .ok out ↔
      t.Gathers out (p.map fun a => t.dims.getD a 0) (permuteIndex p) := by
  obtain ⟨hself, -⟩ := permutationDenotes_isizeAxes ht hp
  rw [permuteAxes_iff ht hne]
  constructor
  · rintro ⟨q, ⟨hq, -⟩, hgathers⟩
    have hqp : q = p := by
      apply List.ext_getElem (by rw [← hq.length_eq, hself.length_eq])
      intro k hk hk'
      have hkAxes : k < (isizeAxes p).length := by rwa [hself.length_eq]
      exact ((List.forall₂_iff_get.mp hq).2 k hkAxes hk).unique
        ((List.forall₂_iff_get.mp hself).2 k hkAxes hk')
    rwa [hqp] at hgathers
  · intro hgathers
    exact ⟨p, ⟨hself, hp⟩, hgathers⟩

section Lists

variable (ht : t.Valid)

include ht

/-- The lists of axes that the three operations pass on. -/
lemma swapAxes_eq_ok {axisA axisB : Int64} : t.swapAxes axisA axisB = .ok out ↔
    ∃ a b, AxisDenotes t.dims.length axisA a ∧ AxisDenotes t.dims.length axisB b ∧
      t.permuteAxes (isizeAxes (swapAt a b (List.range t.dims.length))) = .ok out := by
  have hrank := ht.rank_dims_lt
  have haxes := axesToIsize_eq fun a ha =>
    (List.mem_range.mp (ha : a ∈ List.range t.dims.length)).trans hrank
  have hlist : ∀ a b, a < t.dims.length → b < t.dims.length →
      ((isizeAxes (List.range t.dims.length)).set a
        ((isizeAxes (List.range t.dims.length)).getD b 0)).set b
          ((isizeAxes (List.range t.dims.length)).getD a 0) =
        isizeAxes (swapAt a b (List.range t.dims.length)) := by
    intro a b ha hb
    rw [getD_isizeAxes_range ha, getD_isizeAxes_range hb, swapAt, isizeAxes, isizeAxes,
      List.map_set, List.map_set, getD_range ha, getD_range hb]
  rw [swapAxes, ht.parts, ok_bind, ← t.length_dims, bind_eq_ok]
  simp only [bind_eq_ok (x := normalizeAxis _ _), normalizeAxis_eq_ok hrank, haxes, ok_bind]
  constructor
  · rintro ⟨a, ha, b, hb, h⟩
    rw [hlist a b ha.1 hb.1] at h
    exact ⟨a, b, ha, hb, h⟩
  · rintro ⟨a, b, ha, hb, h⟩
    rw [← hlist a b ha.1 hb.1] at h
    exact ⟨a, ha, b, hb, h⟩

lemma transpose_eq :
    t.transpose = t.permuteAxes (isizeAxes (List.range t.dims.length).reverse) := by
  have hrank := ht.rank_dims_lt
  have haxes := axesToIsize_eq fun a ha =>
    (List.mem_range.mp (List.mem_reverse.mp (ha : a ∈ (List.range t.dims.length).reverse))).trans
      hrank
  rw [transpose, ht.parts, ok_bind, ← t.length_dims, haxes, ok_bind]

lemma moveAxis_eq_ok {source destination : Int64} : t.moveAxis source destination = .ok out ↔
    ∃ a b, AxisDenotes t.dims.length source a ∧ AxisDenotes t.dims.length destination b ∧
      t.permuteAxes (isizeAxes (moveAt a b (List.range t.dims.length))) = .ok out := by
  have hrank := ht.rank_dims_lt
  have hlist : ∀ a b, a < t.dims.length → b < t.dims.length →
      axesToIsize (moveAt a b (List.range t.dims.length)) =
        .ok (isizeAxes (moveAt a b (List.range t.dims.length))) := by
    intro a b ha hb
    exact axesToIsize_eq fun k hk =>
      ((axisMove_moveAt ha hb).isPermutation.lt k hk).trans hrank
  rw [moveAxis, ht.parts, ok_bind, ← t.length_dims, bind_eq_ok]
  simp only [bind_eq_ok (x := normalizeAxis _ _), normalizeAxis_eq_ok hrank]
  constructor
  · rintro ⟨a, ha, b, hb, h⟩
    rw [← moveAt, hlist a b ha.1 hb.1, ok_bind] at h
    exact ⟨a, b, ha, hb, h⟩
  · rintro ⟨a, b, ha, hb, h⟩
    refine ⟨a, ha, b, hb, ?_⟩
    rw [← moveAt, hlist a b ha.1 hb.1, ok_bind]
    exact h

end Lists

section Operations

variable (ht : t.Valid) (hne : t.data.len ≠ 0)

include ht hne

lemma permuteAxes_move_iff {p shape : List ℕ} {f : List ℕ → List ℕ}
    (h : AxisMove t.dims p shape f) :
    t.permuteAxes (isizeAxes p) = .ok out ↔ t.Gathers out shape f := by
  rw [permuteAxes_ofInt_iff ht hne h.isPermutation, h.shape_eq]
  exact ⟨fun hg => hg.congr fun _ => h.permuteIndex_eq,
    fun hg => hg.congr fun _ hindex => (h.permuteIndex_eq hindex).symm⟩

theorem swapAxes_iff {axisA axisB : Int64} :
    t.swapAxes axisA axisB = .ok out ↔ ∃ a b, AxisDenotes t.dims.length axisA a ∧
      AxisDenotes t.dims.length axisB b ∧ t.Gathers out (swapAt a b t.dims) (swapAt a b) := by
  rw [swapAxes_eq_ok ht]
  refine exists_congr fun a => exists_congr fun b => and_congr_right fun ha =>
    and_congr_right fun hb => ?_
  exact permuteAxes_move_iff ht hne (axisMove_swapAt ha.1 hb.1)

theorem transpose_iff :
    t.transpose = .ok out ↔ t.Gathers out t.dims.reverse List.reverse := by
  rw [transpose_eq ht]
  exact permuteAxes_move_iff ht hne axisMove_reverse

theorem moveAxis_iff {source destination : Int64} :
    t.moveAxis source destination = .ok out ↔ ∃ a b, AxisDenotes t.dims.length source a ∧
      AxisDenotes t.dims.length destination b ∧
      t.Gathers out (moveAt a b t.dims) (moveAt b a) := by
  rw [moveAxis_eq_ok ht]
  refine exists_congr fun a => exists_congr fun b => and_congr_right fun ha =>
    and_congr_right fun hb => ?_
  exact permuteAxes_move_iff ht hne (axisMove_moveAt ha.1 hb.1)

end Operations

end Tensor

end ArcadiaTio.Tio
