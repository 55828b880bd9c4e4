import ArcadiaTio.Tensor.Rearrange

/-!
# Broadcasting and tiling

Shapes are compared from their last axes.  `broadcastShape_eq_ok` says what the common shape of two
shapes is; a shape broadcasts to another one (`BroadcastsTo`) when each of its axes, aligned at the
end, has the length of that axis or length one.
-/

namespace ArcadiaTio.Tio

open ArcadiaTio.Lib ArcadiaTio.Lib.RowMajor

/-! ### Shapes aligned at their ends -/

section Shapes

variable {shape target lhs rhs s : List ℕ}

lemma dimFromEnd_of_lt {k : ℕ} (hk : k < shape.length) :
    dimFromEnd shape k = shape.getD (shape.length - 1 - k) 0 := by
  have hidx : shape.length - (k + 1) < shape.length := by omega
  rw [dimFromEnd, checkedSub, if_pos (by omega), Option.map_some, Option.getD_some,
    List.getD_eq_getElem _ _ hidx, ← List.getD_eq_getElem _ 0 hidx]
  congr 1
  omega

lemma dimFromEnd_of_le {k : ℕ} (hk : shape.length ≤ k) : dimFromEnd shape k = 1 := by
  rw [dimFromEnd, checkedSub, if_neg (by omega), Option.map_none, Option.getD_none]

/-- The length an axis gets from two aligned axes. -/
inductive JoinsDim (a b : ℕ) : ℕ → Prop
  | same : a = b → JoinsDim a b b
  | left : a = 1 → JoinsDim a b b
  | right : b = 1 → JoinsDim a b a

/-- The common shape of two shapes. -/
structure IsBroadcast (lhs rhs s : List ℕ) : Prop where
  length_eq : s.length = max lhs.length rhs.length
  joins : ∀ k < s.length, JoinsDim (dimFromEnd lhs k) (dimFromEnd rhs k) (dimFromEnd s k)

lemma joinDim_eq_ok {a b d : ℕ} {e : TioError} :
    (if a = b ∨ a = 1 then Except.ok b else if b = 1 then Except.ok a else Except.error e) =
      (.ok d : Result ℕ) ↔ JoinsDim a b d := by
  constructor
  · intro h
    split at h
    · cases h
      rename_i hcase
      rcases hcase with hab | ha
      · exact .same hab
      · exact .left ha
    · split at h
      · cases h
        rename_i hb
        exact .right hb
      · cases h
  · rintro (hab | ha | hb)
    · rw [if_pos (Or.inl hab)]
    · rw [if_pos (Or.inr ha)]
    · by_cases hcase : a = b ∨ a = 1
      · rw [if_pos hcase]
        rcases hcase with hab | ha
        · rw [hab]
        · rw [ha, hb]
      · rw [if_neg hcase, if_pos hb]

lemma broadcastShape_eq_ok : broadcastShape lhs rhs = .ok s ↔ IsBroadcast lhs rhs s := by
  have hrev : ∀ k < s.length, ∀ hk : k < s.reverse.length, s.reverse[k] = dimFromEnd s k := by
    intro k hks hk
    rw [List.getElem_reverse, dimFromEnd_of_lt hks, List.getD_eq_getElem _ _ (by omega)]
  rw [broadcastShape, bind_eq_ok]
  constructor
  · rintro ⟨out, hout, h⟩
    cases h
    have hforall := mapM_eq_ok.mp hout
    have hlen : out.length = max lhs.length rhs.length := by
      rw [← hforall.length_eq, List.length_range]
    refine ⟨by rw [List.length_reverse, hlen], fun k hk => ?_⟩
    rw [List.length_reverse] at hk
    have hget := (List.forall₂_iff_get.mp hforall).2 k (by rw [List.length_range]; omega) hk
    rw [List.get_eq_getElem, List.getElem_range] at hget
    have hpos : dimFromEnd out.reverse k = out[k] := by
      rw [dimFromEnd_of_lt (by rwa [List.length_reverse]), List.length_reverse,
        List.getD_eq_getElem _ _ (by rw [List.length_reverse]; omega), List.getElem_reverse]
      congr 1
      omega
    rw [hpos]
    exact joinDim_eq_ok.mp hget
  · intro h
    refine ⟨s.reverse, ?_, by rw [List.reverse_reverse]; rfl⟩
    rw [mapM_eq_ok, List.forall₂_iff_get]
    refine ⟨by rw [List.length_range, List.length_reverse, h.length_eq], fun k hk hk' => ?_⟩
    rw [List.length_reverse] at hk'
    rw [List.get_eq_getElem, List.get_eq_getElem, List.getElem_range, hrev k hk']
    exact joinDim_eq_ok.mpr (h.joins k hk')

/-- A shape broadcasts to a target: aligned at the end, each of its axes has the length of the
target's axis or length one. -/
def BroadcastsTo (shape target : List ℕ) : Prop :=
  shape.length ≤ target.length ∧ ∀ a < shape.length,
    shape.getD a 0 = target.getD (target.length - shape.length + a) 0 ∨ shape.getD a 0 = 1

/-- Counted from the end instead. -/
lemma broadcastsTo_iff : BroadcastsTo shape target ↔ shape.length ≤ target.length ∧
    ∀ k < shape.length, dimFromEnd shape k = dimFromEnd target k ∨ dimFromEnd shape k = 1 := by
  refine and_congr_right fun hle => ⟨fun h k hk => ?_, fun h a ha => ?_⟩
  · have haxis := h (shape.length - 1 - k) (by omega)
    rw [dimFromEnd_of_lt hk, dimFromEnd_of_lt (by omega)]
    rwa [show target.length - shape.length + (shape.length - 1 - k) = target.length - 1 - k by
      omega] at haxis
  · have haxis := h (shape.length - 1 - a) (by omega)
    rw [dimFromEnd_of_lt (by omega), dimFromEnd_of_lt (by omega)] at haxis
    rwa [show shape.length - 1 - (shape.length - 1 - a) = a by omega,
      show target.length - 1 - (shape.length - 1 - a) = target.length - shape.length + a by
        omega] at haxis

lemma IsBroadcast.left (h : IsBroadcast lhs rhs s) : BroadcastsTo lhs s := by
  have hlen := h.length_eq
  refine broadcastsTo_iff.mpr ⟨by omega, fun k hk => ?_⟩
  generalize hd : dimFromEnd s k = d
  have hjoin := hd ▸ h.joins k (by omega)
  rcases hjoin with hab | ha | hb
  · exact Or.inl hab
  · exact Or.inr ha
  · exact Or.inl rfl

lemma IsBroadcast.right (h : IsBroadcast lhs rhs s) : BroadcastsTo rhs s := by
  have hlen := h.length_eq
  refine broadcastsTo_iff.mpr ⟨by omega, fun k hk => ?_⟩
  generalize hd : dimFromEnd s k = d
  have hjoin := hd ▸ h.joins k (by omega)
  rcases hjoin with hab | ha | hb
  · exact Or.inl rfl
  · exact Or.inl rfl
  · exact Or.inr hb

/-- A shape broadcasts to a target when the target is their common shape. -/
lemma broadcastShape_eq_target : broadcastShape shape target = .ok target ↔
    BroadcastsTo shape target := by
  rw [broadcastShape_eq_ok]
  refine ⟨IsBroadcast.left, fun h => ⟨(max_eq_right h.1).symm, fun k hk => ?_⟩⟩
  by_cases hks : k < shape.length
  · rcases (broadcastsTo_iff.mp h).2 k hks with heq | hone
    · exact .same heq
    · exact .left hone
  · exact .left (dimFromEnd_of_le (by omega))

/-! ### Sources -/

/-- The source of a multi-index under broadcasting: the positions on the last axes, and zero on an
axis of length one. -/
def broadcastIndex (shape index : List ℕ) : List ℕ :=
  List.zipWith (fun n i => if n = 1 then 0 else i) shape (index.drop (index.length - shape.length))

lemma broadcastSource_eq {index : List ℕ} (h : shape.length ≤ index.length) :
    broadcastSource shape (index.length - shape.length) index = broadcastIndex shape index := by
  apply List.ext_getElem
  · rw [broadcastSource, List.length_map, List.length_range, broadcastIndex, List.length_zipWith,
      List.length_drop]
    omega
  · intro a ha ha'
    have hlen : a < shape.length := by
      rw [broadcastSource, List.length_map, List.length_range] at ha
      exact ha
    simp only [broadcastSource, List.getElem_map, List.getElem_range, broadcastIndex,
      List.getElem_zipWith, List.getElem_drop]
    rw [List.getD_eq_getElem _ _ hlen, List.getD_eq_getElem _ _ (by omega)]

lemma length_broadcastSource {offset : ℕ} {index : List ℕ} :
    (broadcastSource shape offset index).length = shape.length := by
  rw [broadcastSource, List.length_map, List.length_range]

lemma getD_broadcastSource {offset a : ℕ} {index : List ℕ} (ha : a < shape.length) :
    (broadcastSource shape offset index).getD a 0 =
      if shape.getD a 0 = 1 then 0 else index.getD (offset + a) 0 := by
  rw [List.getD_eq_getElem _ _ (by rwa [length_broadcastSource])]
  simp only [broadcastSource, List.getElem_map, List.getElem_range]

lemma inBounds_broadcastSource {index : List ℕ} (h : BroadcastsTo shape target)
    (hindex : InBounds target index) :
    InBounds shape (broadcastSource shape (target.length - shape.length) index) := by
  refine inBounds_iff_getD.mpr ⟨length_broadcastSource, fun a ha => ?_⟩
  have hpos := hindex.getD_lt (a := target.length - shape.length + a) (by have := h.1; omega)
  rw [getD_broadcastSource ha]
  by_cases hone : shape.getD a 0 = 1
  · rw [if_pos hone, hone]
    exact Nat.one_pos
  · rw [if_neg hone, (h.2 a ha).resolve_right hone]
    exact hpos

end Shapes

/-! ### Broadcasting a tensor -/

lemma broadcastValues_eq {α : Type} {values : List α} {shape target : List ℕ}
    (h : BroadcastsTo shape target) (hvalues : values.length = shape.prod)
    (hlt : shape.prod < 2 ^ usizeBits) (hstrides : StridesFit shape) (hfits : ProductFits target) :
    ∃ out, broadcastValues values shape target = .ok out ∧
      Gathered shape target (broadcastIndex shape) values out := by
  have hsource : SourceIs shape target
      (fun _ outIndices => .ok (broadcastSource shape (target.length - shape.length) outIndices))
      (broadcastIndex shape) := by
    intro _ outIndices _ hbounds
    have hlen := hbounds.length_eq
    have heq : broadcastSource shape (target.length - shape.length) outIndices =
        broadcastIndex shape outIndices := by
      rw [← hlen]
      exact broadcastSource_eq (by have := h.1; omega)
    exact ⟨congrArg Except.ok heq, heq ▸ inBounds_broadcastSource h hbounds⟩
  obtain ⟨out, hout, hgathered⟩ := exists_gathered hsource hvalues hlt
  refine ⟨out, ?_, hgathered⟩
  rw [broadcastValues, shapeProductUsize_eq_ok.mpr ⟨rfl, hfits⟩, ok_bind,
    rowMajorStrides_eq_ok.mpr ⟨rfl, hstrides⟩, ok_bind, checkedSub, if_pos h.1, okOr_some, ok_bind]
  exact hout

namespace Tensor

variable {t out : Tensor}

lemma broadcastTo_iff (ht : t.Valid) (hstrides : StridesFit t.dims) {shape : List UInt64} :
    t.broadcastTo shape = .ok out ↔
      (BroadcastsTo t.dims (shapeU64ToUsize shape) ∧ ProductFits (shapeU64ToUsize shape)) ∧
      t.Gathers out (shapeU64ToUsize shape) (broadcastIndex t.dims) := by
  have hop : ∀ result, t.broadcastTo shape = .ok result ↔ shape ≠ [] ∧
      broadcastShape t.dims (shapeU64ToUsize shape) = .ok (shapeU64ToUsize shape) ∧
      t.mapTo (shapeU64ToUsize shape) (fun values =>
        broadcastValues values t.dims (shapeU64ToUsize shape)) = .ok result := by
    intro result
    rw [broadcastTo, ht.validatedShape_eq, ok_bind, validateShapeRank, bind_eq_ok, mapTo,
      shapeUsizeToU64_shapeU64ToUsize, ok_bind]
    simp only [failIf_eq_ok, exists_const, bind_eq_ok (x := broadcastShape _ _)]
    refine and_congr_right fun _ => ⟨?_, ?_⟩
    · rintro ⟨s, hs, h⟩
      obtain ⟨_, heq, h⟩ := bind_eq_ok.mp h
      rw [failIf_eq_ok, not_not] at heq
      exact ⟨heq ▸ hs, h⟩
    · rintro ⟨hs, h⟩
      refine ⟨_, hs, ?_⟩
      rw [failIf_neg (not_not.mpr rfl), ok_bind]
      exact h
  have hnonempty : BroadcastsTo t.dims (shapeU64ToUsize shape) → shape ≠ [] := by
    rintro ⟨hle, -⟩ rfl
    exact ht.dims_ne_nil (List.length_eq_zero_iff.mp (Nat.le_zero.mp hle))
  refine eq_ok_iff (fun h => ?_) ?_
  · obtain ⟨-, hbroadcast, h⟩ := (hop out).mp h
    exact ⟨broadcastShape_eq_target.mp hbroadcast, (of_mapTo_eq_ok h).2⟩
  · rintro ⟨hbroadcast, hfits⟩
    obtain ⟨result, hresult, hgathers⟩ := exists_mapTo ht
      (by simpa [dims, shapeU64ToUsize] using hnonempty hbroadcast)
      (Tensor.dims_lt ⟨t.dtype, shape, t.data⟩) hfits fun _ hvalues =>
        broadcastValues_eq hbroadcast hvalues ht.prod_lt hstrides hfits
    exact ⟨result, (hop result).mpr ⟨hnonempty hbroadcast,
      broadcastShape_eq_target.mpr hbroadcast, hresult⟩, hgathers⟩

end Tensor

/-! ### Tiling -/

/-- The source of a multi-index under tiling. -/
def tileIndex (shape index : List ℕ) : List ℕ := List.zipWith (· % ·) index shape

/-- The shape of a tiled tensor. -/
def tileShape (shape : List ℕ) (reps : List UInt64) : List ℕ :=
  List.zipWith (fun dim rep => dim * rep.toNat) shape reps

section Tiling

variable {shape index : List ℕ} {reps : List UInt64}

lemma tileSource_eq (h : index.length = shape.length) :
    tileSource shape index = tileIndex shape index := by
  apply List.ext_getElem
  · rw [tileSource, List.length_map, List.length_range, tileIndex, List.length_zipWith, h,
      min_self]
  · intro a ha ha'
    have hlen : a < shape.length := by
      rw [tileSource, List.length_map, List.length_range] at ha
      exact ha
    simp only [tileSource, List.getElem_map, List.getElem_range, tileIndex, List.getElem_zipWith]
    rw [List.getD_eq_getElem _ _ hlen, List.getD_eq_getElem _ _ (by omega)]

/-- An axis of a tiled tensor that has a position comes from an axis that has one. -/
lemma inBounds_tileIndex (hlen : reps.length = shape.length)
    (hindex : InBounds (tileShape shape reps) index) : InBounds shape (tileIndex shape index) := by
  induction shape generalizing reps index with
  | nil =>
    obtain rfl : index = [] := inBounds_nil.mp hindex
    exact List.Forall₂.nil
  | cons n shape ih =>
    obtain _ | ⟨rep, reps⟩ := reps
    · simp at hlen
    obtain _ | ⟨i, index⟩ := index
    · exact absurd hindex not_inBounds_cons_nil
    obtain ⟨hi, hrest⟩ := inBounds_cons.mp hindex
    have hpos : 0 < n := Nat.pos_of_ne_zero fun hzero => by simp [hzero] at hi
    exact inBounds_cons.mpr ⟨Nat.mod_lt i hpos, ih (by simpa using hlen) hrest⟩

lemma length_tileShape (hlen : reps.length = shape.length) :
    (tileShape shape reps).length = shape.length := by
  rw [tileShape, List.length_zipWith, hlen, min_self]

lemma tileShape_ne_nil (hne : shape ≠ []) (hlen : reps.length = shape.length) :
    tileShape shape reps ≠ [] := by
  rw [← List.length_pos_iff, length_tileShape hlen, List.length_pos_iff]
  exact hne

lemma tileShape_checked {out : List ℕ} :
    ((shape.zip reps).mapM fun p => okOr (checkedMul usizeBits p.1 p.2.toNat)
      (invalidArgument "shape product overflow")) = .ok out ↔
    out = tileShape shape reps ∧ ∀ n ∈ tileShape shape reps, n < 2 ^ usizeBits := by
  rw [mapM_eq_ok]
  induction shape generalizing reps out with
  | nil => simp [tileShape]
  | cons n shape ih =>
    obtain _ | ⟨rep, reps⟩ := reps
    · simp [tileShape]
    rw [List.zip_cons_cons, List.forall₂_cons_left_iff, tileShape, List.zipWith_cons_cons,
      List.forall_mem_cons]
    constructor
    · rintro ⟨m, rest, hm, hrest, rfl⟩
      obtain ⟨rfl, hlt⟩ := checkedMul_eq_some.mp (okOr_eq_ok.mp hm)
      obtain ⟨rfl, hall⟩ := ih.mp hrest
      exact ⟨rfl, hlt, hall⟩
    · rintro ⟨rfl, hlt, hall⟩
      exact ⟨_, _, okOr_eq_ok.mpr (checkedMul_eq_some.mpr ⟨rfl, hlt⟩), ih.mpr ⟨rfl, hall⟩, rfl⟩

end Tiling

lemma tileValues_eq {α : Type} {values : List α} {shape : List ℕ} {reps : List UInt64}
    (hlen : reps.length = shape.length) (hvalues : values.length = shape.prod)
    (hlt : shape.prod < 2 ^ usizeBits) (hstrides : StridesFit shape)
    (hfits : ProductFits (tileShape shape reps)) :
    ∃ out, tileValues values shape (tileShape shape reps) = .ok out ∧
      Gathered shape (tileShape shape reps) (tileIndex shape) values out := by
  refine gatherValues_eq (fun _ outIndices _ hbounds => ?_) hvalues hlt hstrides hfits
  have hindex : outIndices.length = shape.length :=
    hbounds.length_eq.trans (length_tileShape hlen)
  exact ⟨congrArg Except.ok (tileSource_eq hindex), inBounds_tileIndex hlen hbounds⟩

lemma Tensor.tile_iff {t out : Tensor} (ht : t.Valid) (hstrides : StridesFit t.dims)
    {reps : List UInt64} :
    t.tile reps = .ok out ↔
      (reps.length = t.dims.length ∧ (∀ n ∈ tileShape t.dims reps, n < 2 ^ usizeBits) ∧
        ProductFits (tileShape t.dims reps)) ∧
      t.Gathers out (tileShape t.dims reps) (tileIndex t.dims) := by
  have hop : ∀ result, t.tile reps = .ok result ↔ reps.length = t.dims.length ∧
      (∀ n ∈ tileShape t.dims reps, n < 2 ^ usizeBits) ∧
      t.mapTo (tileShape t.dims reps) (fun values =>
        tileValues values t.dims (tileShape t.dims reps)) = .ok result := by
    intro result
    rw [tile, ht.validatedShape_eq, ok_bind, bind_eq_ok, mapTo]
    simp only [failIf_eq_ok, not_not, exists_const]
    refine and_congr_right fun _ => ?_
    rw [bind_eq_ok]
    constructor
    · rintro ⟨s, hs, h⟩
      obtain ⟨rfl, hall⟩ := tileShape_checked.mp hs
      exact ⟨hall, h⟩
    · rintro ⟨hall, h⟩
      exact ⟨_, tileShape_checked.mpr ⟨rfl, hall⟩, h⟩
  refine eq_ok_iff (fun h => ?_) ?_
  · obtain ⟨hlen, hall, h⟩ := (hop out).mp h
    exact ⟨hlen, hall, (of_mapTo_eq_ok h).2⟩
  · rintro ⟨hlen, hall, hfits⟩
    have hne := tileShape_ne_nil ht.dims_ne_nil hlen
    obtain ⟨result, hresult, hgathers⟩ := exists_mapTo ht hne hall hfits fun _ hvalues =>
      tileValues_eq hlen hvalues ht.prod_lt hstrides hfits
    exact ⟨result, (hop result).mpr ⟨hlen, hall, hresult⟩, hgathers⟩

end ArcadiaTio.Tio
