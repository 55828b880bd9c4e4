import ArcadiaTio.Lib.Largest
import ArcadiaTio.Ocb.Bundle.Subset

/-!
# Reservations

The strictest of the admissions does not look at the order of the row groups: it reserves bytes for
the row groups with the most of them.  It admits a plan exactly when every choice of as many row
groups is within the limits, so that what it admits is also admitted in waves and in sliding windows
(`validateInFlightPlanResourceLimits_iff`).
-/

namespace ArcadiaTio.Ocb

open ArcadiaTio.Lib

/-- The footprints by their values, from the largest down. -/
def sortedDown (f : SelectedResourceFootprint → ℕ) (footprints : List SelectedResourceFootprint) :
    List SelectedResourceFootprint :=
  footprints.mergeSort fun left right => decide (f right ≤ f left)

/-- The row groups that need the most bytes fit the limits together. -/
def validateInFlightPlanResourceLimits (m : OcbMetadataV1) (plan : ColumnBundleReadPlan)
    (maxInFlightRowGroups : ℕ) : Result Unit := do
  if plan.rowGroupIds.isEmpty then return ()
  let reservationCount := min (max maxInFlightRowGroups 1) plan.rowGroupIds.length
  let footprints ← selectedResourceFootprintsForPlan m plan
  let byCompressed := sortedDown SelectedResourceFootprint.compressedBytes footprints
  let compressedBytes ← okOr
    (checkedSum 64 ((byCompressed.take reservationCount).map
      SelectedResourceFootprint.compressedBytes))
    (ocbCorruptFile "OCB in-flight compressed byte accounting overflows")
  let byDecoded := sortedDown SelectedResourceFootprint.decodedMaterializedBytes byCompressed
  let decodedMaterializedBytes ← okOr
    (checkedSum 64 ((byDecoded.take reservationCount).map
      SelectedResourceFootprint.decodedMaterializedBytes))
    (ocbCorruptFile "OCB in-flight decoded byte accounting overflows")
  validateFootprintTotals ⟨compressedBytes, decodedMaterializedBytes, 0⟩ m.resourceLimits

/-! ### Parts of a plan -/

section Admission

variable {footprints : List SelectedResourceFootprint} {limits : OcbResourceLimits}

/-- A part of a window is within the limits when the window is. -/
lemma WithinLimits.of_sublist {part : List SelectedResourceFootprint}
    (h : WithinLimits limits footprints) (hpart : part.Sublist footprints) :
    WithinLimits limits part := by
  have hle : ∀ f : SelectedResourceFootprint → ℕ, (part.map f).sum ≤ (footprints.map f).sum :=
    fun f => (hpart.map f).sum_le_sum fun _ _ => Nat.zero_le _
  exact ⟨(hle _).trans h.compressed, (hle _).trans h.decoded⟩

lemma eq_window_of_mem_waves {α : Type} {size : ℕ} {l wave : List α} (h : wave ∈ waves size l) :
    ∃ k, wave = (l.drop (k * size)).take size := by
  fun_induction waves size l with
  | case1 l hstop => cases h
  | case2 l hgo ih =>
    rcases List.mem_cons.mp h with rfl | hrest
    · exact ⟨0, by rw [Nat.zero_mul, List.drop_zero]⟩
    · obtain ⟨k, rfl⟩ := ih hrest
      exact ⟨k + 1, by rw [List.drop_drop, Nat.succ_mul, Nat.add_comm]⟩

/-- What lies in a window of a list is a part of this window. -/
lemma sublist_window {α : Type} (l : List α) {i j size windowSize : ℕ} (hij : i ≤ j)
    (hend : min (j + size) l.length ≤ i + windowSize) :
    ((l.drop j).take size).Sublist ((l.drop i).take windowSize) := by
  have heq : (l.drop j).take size =
      (((l.drop i).take windowSize).drop (j - i)).take size := by
    ext n a
    simp only [List.getElem?_take, List.getElem?_drop]
    by_cases hn : n < size
    · rw [if_pos hn, if_pos hn]
      by_cases hwindow : j - i + n < windowSize
      · rw [if_pos hwindow, show i + (j - i + n) = j + n from by omega]
      · rw [if_neg hwindow, List.getElem?_eq_none (by omega)]
    · rw [if_neg hn, if_neg hn]
  rw [heq]
  exact (List.take_sublist _ _).trans (List.drop_sublist _ _)

/-- What is made of a part of a list is a part of what is made of the list. -/
lemma mapM_infix {α β : Type} {f : α → Result β} {l part : List α} {made : List β}
    (hpart : part <:+: l) (h : l.mapM f = .ok made) :
    ∃ madePart, part.mapM f = .ok madePart ∧ madePart <:+: made := by
  obtain ⟨before, after, rfl⟩ := hpart
  rw [List.mapM_append, List.mapM_append] at h
  obtain ⟨first, hfirst, h⟩ := bind_eq_ok.mp h
  obtain ⟨madeBefore, hbefore, hfirst⟩ := bind_eq_ok.mp hfirst
  obtain ⟨madePart, hmade, hfirst⟩ := bind_eq_ok.mp hfirst
  obtain ⟨madeAfter, -, h⟩ := bind_eq_ok.mp h
  obtain rfl := Except.ok.inj hfirst
  obtain rfl := Except.ok.inj h
  exact ⟨madePart, hmade, madeBefore, madeAfter, rfl⟩

/-- Waves of a part of the row groups that are no larger than an accepted sliding window are
accepted. -/
lemma validateWaves_of_sliding {cap size : ℕ} {u : Unit} (hsize : size ≤ cap)
    (h : validateSlidingResourceFootprints footprints cap limits = .ok u)
    {part : List SelectedResourceFootprint} (hpart : part <:+: footprints) :
    validateWaves part size limits = .ok () := by
  rw [validateWaves, forM_eq_ok]
  intro wave hwave
  obtain ⟨k, rfl⟩ := eq_window_of_mem_waves hwave
  obtain ⟨before, after, rfl⟩ := hpart
  have hwithin : WithinLimits limits ((part.drop (k * size)).take size) := by
    generalize hall : before ++ part ++ after = footprints at h
    -- the window that begins with the wave, or the last one
    have hwindow := @withinLimits_of_validateSliding _ _ cap u h
      (min (before.length + k * size)
        (footprints.length - min (max cap 1) footprints.length)) (by omega)
    have hbegin : (part.drop (k * size)).take size <+:
        (footprints.drop (before.length + k * size)).take size := by
      rw [← hall, List.append_assoc, List.drop_length_add_append]
      exact ((List.prefix_append part after).drop _).take _
    exact hwindow.of_sublist
      (hbegin.sublist.trans (sublist_window _ (min_le_left _ _) (by omega)))
  obtain ⟨total, hadd, htotal⟩ := exists_firstTotal hwithin.sumsFit
  obtain ⟨_, hvalid⟩ := (isOk_validateFootprintTotals htotal).mpr hwithin
  rw [hadd, okOr_some, ok_bind, hvalid]

/-- What was admitted for a pool is admitted for a visit of a part of the plan with as many row
groups in flight. -/
lemma validateContiguous_of_sliding {m : OcbMetadataV1} {plan plan' : ColumnBundleReadPlan}
    {cap size : ℕ} {u : Unit} (hids : plan'.rowGroupIds <:+: plan.rowGroupIds)
    (hcolumns : plan'.projectedColumnIds = plan.projectedColumnIds) (hpos : 0 < size)
    (hsize : size ≤ cap) (h : validateSlidingInFlightPlanResourceLimits m plan cap = .ok u) :
    validateContiguousInFlightPlanResourceLimits m plan' size = .ok () := by
  obtain ⟨footprints, hfootprints, h⟩ := bind_eq_ok.mp h
  obtain ⟨rowGroups, hrowGroups, hfootprints⟩ := bind_eq_ok.mp hfootprints
  obtain ⟨_, hnodup, hrowGroups⟩ := bind_eq_ok.mp hrowGroups
  obtain ⟨groups, hgroups, hgroupsPart⟩ := mapM_infix hids hrowGroups
  obtain ⟨part, hpart, hinfix⟩ := mapM_infix hgroupsPart hfootprints
  rw [failIf_eq_ok, not_not] at hnodup
  rw [validateContiguousInFlightPlanResourceLimits, selectedResourceFootprintsForPlan,
    selectedRowGroupsForPlan, failIf_neg (not_not.mpr (hnodup.sublist hids.sublist)), ok_bind,
    hgroups, ok_bind, hcolumns, hpart, ok_bind, Nat.max_eq_left hpos]
  exact validateWaves_of_sliding hsize h hinfix

/-- Sliding windows that are all within the limits are accepted. -/
lemma validateSliding_of_choices {cap : ℕ}
    (hall : ∀ part : List SelectedResourceFootprint, part.Sublist footprints →
      part.length ≤ max cap 1 → WithinLimits limits part) :
    validateSlidingResourceFootprints footprints cap limits = .ok () := by
  by_cases hnil : footprints = []
  · rw [hnil]
    rfl
  have hlength := List.length_pos_of_ne_nil hnil
  have hwindow : ∀ k, WithinLimits limits
      (windowAt footprints (min (max cap 1) footprints.length) k) := by
    intro k
    refine hall _ ((List.take_sublist _ _).trans (List.drop_sublist _ _)) ?_
    rw [windowAt, List.length_take]
    omega
  have hfirst : WithinLimits limits
      (footprints.take (min (max cap 1) footprints.length)) := by
    simpa [windowAt] using hwindow 0
  obtain ⟨total, hadd, htotal⟩ := exists_firstTotal hfirst.sumsFit
  obtain ⟨_, hvalid⟩ := (isOk_validateFootprintTotals htotal).mpr hfirst
  obtain ⟨last, hslide⟩ := (slide_eq_naive (by omega) htotal).1 fun k _ => hwindow (k + 1)
  rw [validateSlidingResourceFootprints, if_neg (by simpa using hnil)]
  dsimp only
  rw [hadd, okOr_some, ok_bind, hvalid, ok_bind, hslide]
  rfl

/-- What is made of the elements of a list in another order. -/
lemma mapM_perm {α β : Type} {f : α → Result β} {l l' : List α} (hperm : l.Perm l')
    {made : List β} (h : l.mapM f = .ok made) :
    ∃ made', l'.mapM f = .ok made' ∧ made.Perm made' := by
  obtain ⟨made', hmade'⟩ : IsOk (l'.mapM f) := by
    refine isOk_mapM.mpr fun a ha => ?_
    obtain ⟨b, -, hb⟩ := exists_of_forall₂ (mapM_eq_ok.mp h).flip (hperm.mem_iff.mpr ha)
    exact ⟨b, hb⟩
  refine ⟨made', hmade', ?_⟩
  -- both lists hold what `f` makes of their elements
  have hsame : ∀ {l : List α} {made : List β}, l.mapM f = .ok made →
      made = l.filterMap fun a => (f a).toOption := by
    intro l made hmade
    induction mapM_eq_ok.mp hmade with
    | nil => rfl
    | @cons a b rest _ hb hrest ih =>
      rw [List.filterMap_cons, hb, ih (mapM_eq_ok.mpr hrest)]
      rfl
  rw [hsame h, hsame hmade']
  exact hperm.filterMap _

end Admission

/-! ### What is reserved -/

/-- As many footprints as row groups. -/
lemma length_of_selectedResourceFootprintsForPlan {m : OcbMetadataV1} {plan : ColumnBundleReadPlan}
    {footprints : List SelectedResourceFootprint}
    (h : selectedResourceFootprintsForPlan m plan = .ok footprints) :
    footprints.length = plan.rowGroupIds.length := by
  obtain ⟨rowGroups, hrowGroups, hfootprints⟩ := bind_eq_ok.mp h
  obtain ⟨_, -, hrowGroups⟩ := bind_eq_ok.mp hrowGroups
  rw [← (mapM_eq_ok.mp hfootprints).length_eq, (mapM_eq_ok.mp hrowGroups).length_eq]

/-- A reservation is made exactly when every choice of as many row groups is within the limits. -/
lemma validateInFlight_eq_ok_iff {m : OcbMetadataV1} {plan : ColumnBundleReadPlan} {cap : ℕ}
    (hids : plan.rowGroupIds ≠ []) :
    validateInFlightPlanResourceLimits m plan cap = .ok () ↔ ∃ footprints,
      selectedResourceFootprintsForPlan m plan = .ok footprints ∧
      ∀ part : List SelectedResourceFootprint, part.Sublist footprints →
        part.length ≤ max cap 1 → WithinLimits m.resourceLimits part := by
  rw [validateInFlightPlanResourceLimits, if_neg (by simpa using hids)]
  dsimp only
  constructor
  · intro h
    obtain ⟨footprints, hfootprints, h⟩ := bind_eq_ok.mp h
    obtain ⟨compressed, hcompressed, h⟩ := bind_eq_ok.mp h
    obtain ⟨decoded, hdecoded, h⟩ := bind_eq_ok.mp h
    obtain ⟨rfl, -⟩ := checkedSum_eq_some.mp (okOr_eq_ok.mp hcompressed)
    obtain ⟨rfl, -⟩ := checkedSum_eq_some.mp (okOr_eq_ok.mp hdecoded)
    obtain ⟨_, hcompressedLe, hdecodedLe⟩ := bind_eq_ok.mp h
    rw [failIf_eq_ok, not_lt] at hcompressedLe hdecodedLe
    -- the largest footprints bound every choice of as many
    refine ⟨footprints, hfootprints, fun part hpart hk => ?_⟩
    have hlength := length_of_selectedResourceFootprintsForPlan hfootprints
    have hcount : part.length ≤ min (max cap 1) plan.rowGroupIds.length := by
      have hle := hpart.length_le
      omega
    refine ⟨(sum_largest_le_iff _ _ _ _).mp hcompressedLe part hpart hcount, ?_⟩
    exact forall_choice_perm (List.mergeSort_perm _ _) ((sum_largest_le_iff _ _ _ _).mp hdecodedLe)
      hpart hcount
  · rintro ⟨footprints, hfootprints, hall⟩
    have hcompressed : (((sortedDown SelectedResourceFootprint.compressedBytes footprints).take
        (min (max cap 1) plan.rowGroupIds.length)).map
          SelectedResourceFootprint.compressedBytes).sum ≤
            m.resourceLimits.maxOwnedSelectedCompressedBytes.toNat :=
      (sum_largest_le_iff _ _ _ _).mpr fun part hpart hk =>
        (hall part hpart (hk.trans (min_le_left _ _))).compressed
    have hdecoded : (((sortedDown SelectedResourceFootprint.decodedMaterializedBytes
        (sortedDown SelectedResourceFootprint.compressedBytes footprints)).take
          (min (max cap 1) plan.rowGroupIds.length)).map
            SelectedResourceFootprint.decodedMaterializedBytes).sum ≤
              m.resourceLimits.maxOwnedDecodedMaterializedBytes.toNat :=
      (sum_largest_le_iff _ _ _ _).mpr fun part hpart hk =>
        forall_choice_perm (List.mergeSort_perm _ _).symm
          (fun part hpart hk => (hall part hpart (hk.trans (min_le_left _ _))).decoded) hpart hk
    have hfitCompressed := hcompressed.trans_lt
      m.resourceLimits.maxOwnedSelectedCompressedBytes.toNat_lt
    have hfitDecoded := hdecoded.trans_lt
      m.resourceLimits.maxOwnedDecodedMaterializedBytes.toNat_lt
    rw [hfootprints, ok_bind, checkedSum_eq_some.mpr ⟨rfl, hfitCompressed⟩, okOr_some, ok_bind,
      checkedSum_eq_some.mpr ⟨rfl, hfitDecoded⟩, okOr_some, ok_bind, validateFootprintTotals,
      failIf_neg (not_lt.mpr hcompressed), ok_bind, failIf_neg (not_lt.mpr hdecoded)]

/-- A reservation is made exactly when every choice of as many row groups is within the limits.
Then the plan is admitted in sliding windows and in waves as well, whatever the order of its row
groups. -/
theorem validateInFlightPlanResourceLimits_iff {m : OcbMetadataV1} {plan : ColumnBundleReadPlan}
    {cap : ℕ} :
    (validateInFlightPlanResourceLimits m plan cap = .ok () ↔ plan.rowGroupIds = [] ∨
      ∃ footprints, selectedResourceFootprintsForPlan m plan = .ok footprints ∧
        ∀ part : List SelectedResourceFootprint, part.Sublist footprints →
          part.length ≤ max cap 1 → WithinLimits m.resourceLimits part) ∧
    (validateInFlightPlanResourceLimits m plan cap = .ok () → ∀ plan' : ColumnBundleReadPlan,
      plan.rowGroupIds.Perm plan'.rowGroupIds →
      plan'.projectedColumnIds = plan.projectedColumnIds →
      validateSlidingInFlightPlanResourceLimits m plan' cap = .ok () ∧
        ∀ size, 0 < size → size ≤ cap →
          validateContiguousInFlightPlanResourceLimits m plan' size = .ok ()) := by
  have hiff : validateInFlightPlanResourceLimits m plan cap = .ok () ↔ plan.rowGroupIds = [] ∨
      ∃ footprints, selectedResourceFootprintsForPlan m plan = .ok footprints ∧
        ∀ part : List SelectedResourceFootprint, part.Sublist footprints →
          part.length ≤ max cap 1 → WithinLimits m.resourceLimits part := by
    by_cases hids : plan.rowGroupIds = []
    · rw [validateInFlightPlanResourceLimits, hids]
      exact iff_of_true rfl (Or.inl rfl)
    · rw [validateInFlight_eq_ok_iff hids]
      exact ⟨Or.inr, fun h => h.resolve_left hids⟩
  refine ⟨hiff, fun h plan' hperm hcolumns => ?_⟩
  have hsliding : validateSlidingInFlightPlanResourceLimits m plan' cap = .ok () := by
    rcases hiff.mp h with hnil | ⟨footprints, hfootprints, hall⟩
    · rw [hnil] at hperm
      rw [validateSlidingInFlightPlanResourceLimits, selectedResourceFootprintsForPlan,
        selectedRowGroupsForPlan, hperm.nil_eq.symm]
      rfl
    · obtain ⟨rowGroups, hrowGroups, hfootprints⟩ := bind_eq_ok.mp hfootprints
      obtain ⟨_, hnodup, hrowGroups⟩ := bind_eq_ok.mp hrowGroups
      obtain ⟨rowGroups', hrowGroups', hpermGroups⟩ := mapM_perm hperm hrowGroups
      obtain ⟨footprints', hfootprints', hpermFootprints⟩ := mapM_perm hpermGroups hfootprints
      rw [failIf_eq_ok, not_not] at hnodup
      rw [validateSlidingInFlightPlanResourceLimits, selectedResourceFootprintsForPlan,
        selectedRowGroupsForPlan, failIf_neg (not_not.mpr (hperm.nodup_iff.mp hnodup)), ok_bind,
        hrowGroups', ok_bind, hcolumns, hfootprints', ok_bind]
      refine validateSliding_of_choices fun part hpart hk => ⟨?_, ?_⟩
      · exact forall_choice_perm hpermFootprints
          (fun part hpart hk => (hall part hpart hk).compressed) hpart hk
      · exact forall_choice_perm hpermFootprints
          (fun part hpart hk => (hall part hpart hk).decoded) hpart hk
  exact ⟨hsliding, fun size hpos hsize =>
    validateContiguous_of_sliding List.infix_rfl rfl hpos hsize hsliding⟩

/-- A second row group like that of the small file. -/
def Sample.secondRowGroup : OcbRowGroupDescV1 :=
  { rowGroup with rowGroupId := 1, baseRow := 1, chunkDescBegin := 1 }

/-- The metadata of the small file with a second row group, and limits that allow for one row group
at a time. -/
def Sample.openedTwice : OcbMetadataV1 :=
  { Sample.opened .i32 0 0 0 0 0 with
    rowGroupIndex := ⟨1, 0, [rowGroup, secondRowGroup], [chunk, { chunk with rowGroupId := 1 }], [], 0⟩
    rowGroupPositionsById := [(0, 0), (1, 1)]
    resourceLimits := { OcbResourceLimits.policyA with
      maxOwnedSelectedCompressedBytes := 9, maxOwnedDecodedMaterializedBytes := 9 } }

/-- Two row groups are admitted one at a time, in either order, and not both together. -/
theorem validateInFlightPlanResourceLimits_iff_sample :
    validateInFlightPlanResourceLimits Sample.openedTwice
      { Sample.plan with rowGroupIds := [0, 1] } 2 ≠ .ok () ∧
    validateSlidingInFlightPlanResourceLimits Sample.openedTwice
      { Sample.plan with rowGroupIds := [1, 0] } 1 = .ok () ∧
    validateContiguousInFlightPlanResourceLimits Sample.openedTwice
      { Sample.plan with rowGroupIds := [1, 0] } 1 = .ok () := by
  have hfootprints : selectedResourceFootprintsForPlan Sample.openedTwice
      { Sample.plan with rowGroupIds := [0, 1] } = .ok [⟨5, 5, 1⟩, ⟨5, 5, 1⟩] := rfl
  obtain ⟨htogether, -⟩ := @validateInFlightPlanResourceLimits_iff Sample.openedTwice
    { Sample.plan with rowGroupIds := [0, 1] } 2
  obtain ⟨halone, hall⟩ := @validateInFlightPlanResourceLimits_iff Sample.openedTwice
    { Sample.plan with rowGroupIds := [0, 1] } 1
  refine ⟨fun hboth => ?_, ?_⟩
  · rcases htogether.mp hboth with hnil | ⟨footprints, hfootprints', hwithin⟩
    · cases hnil
    · obtain rfl := Except.ok.inj (hfootprints.symm.trans hfootprints')
      exact absurd (hwithin _ (List.Sublist.refl _) (by decide)).compressed (by decide)
  · have hwithin : WithinLimits Sample.openedTwice.resourceLimits [⟨5, 5, 1⟩] :=
      ⟨by decide, by decide⟩
    have hone : ∀ part : List SelectedResourceFootprint,
        part.Sublist [⟨5, 5, 1⟩, ⟨5, 5, 1⟩] → part.length ≤ max 1 1 →
          WithinLimits Sample.openedTwice.resourceLimits part := by
      intro part hpart hlength
      rcases part with _ | ⟨footprint, _ | ⟨_, _⟩⟩
      · exact hwithin.of_sublist (List.nil_sublist _)
      · have hmem := hpart.subset (List.mem_singleton_self footprint)
        obtain rfl : footprint = ⟨5, 5, 1⟩ := by simpa using hmem
        exact hwithin
      · exact absurd hlength (by simp)
    obtain ⟨hsliding, hcontiguous⟩ := hall (halone.mpr (Or.inr ⟨_, hfootprints, hone⟩))
      { Sample.plan with rowGroupIds := [1, 0] } (List.Perm.swap 1 0 []) rfl
    exact ⟨hsliding, hcontiguous 1 (by decide) (by decide)⟩

end ArcadiaTio.Ocb
