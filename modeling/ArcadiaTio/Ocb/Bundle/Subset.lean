import ArcadiaTio.Ocb.Bundle.Batches

/-!
# Reading a part of a plan

A caller may ask for some of the row groups of a plan, and gets them in the order of the plan.
Asking for a plan in consecutive pieces reads the same row groups as reading the whole plan: a
piece only adds its own admission.
-/

namespace ArcadiaTio.Ocb

open ArcadiaTio.Lib

/-- The row groups of a plan that are asked for, in the order of the plan. -/
def plannedRowGroupSubset (plan : ColumnBundleReadPlan) (rowGroupIds : List UInt32) :
    Result (List UInt32) := do
  checkPlanIds (· ∈ plan.rowGroupIds)
    "OCB read plan subset contains a row group id not present in the plan"
    "OCB read plan subset contains duplicate row group ids" rowGroupIds []
  return plan.rowGroupIds.filter (· ∈ rowGroupIds)

/-- The plan of some row groups of a plan, with the report of its execution. -/
def ColumnBundleReadPlan.ofSelected (plan : ColumnBundleReadPlan) (selected : List UInt32) :
    ColumnBundleReadPlan :=
  { plan with
    rowGroupIds := selected, report := executionReportForPlan plan selected.length }

namespace ColumnBundleFile

/-- What reading some row groups of a plan may return. -/
inductive ReadsPlanRowGroups (file : ColumnBundleFile) (zstd : ZstdCodec)
    (plan : ColumnBundleReadPlan) (rowGroupIds : List UInt32) :
    Result ColumnBundleReadOutcome → Prop
  | invalid {error : ArcadiaTioError} (h : file.validateReadPlan plan = .error error) :
      ReadsPlanRowGroups file zstd plan rowGroupIds (.error error)
  | subset {error : ArcadiaTioError} (h : file.validateReadPlan plan = .ok ())
      (hsubset : plannedRowGroupSubset plan rowGroupIds = .error error) :
      ReadsPlanRowGroups file zstd plan rowGroupIds (.error error)
  | executed {selected : List UInt32} {batches : Result (List ColumnBatch)}
      (h : file.validateReadPlan plan = .ok ())
      (hsubset : plannedRowGroupSubset plan rowGroupIds = .ok selected)
      (hexecutes : file.ExecutesPlan zstd (plan.ofSelected selected) batches) :
      ReadsPlanRowGroups file zstd plan rowGroupIds
        ((⟨·, (plan.ofSelected selected).report⟩) <$> batches)

variable {file : ColumnBundleFile} {zstd : ZstdCodec} {plan : ColumnBundleReadPlan}
  {rowGroupIds selected : List UInt32}

/-- The row groups of a checked plan are known. -/
lemma known_of_validateReadPlan {u : Unit} (h : file.validateReadPlan plan = .ok u) :
    ∀ id ∈ plan.rowGroupIds, (file.metadata.rowGroupById id).isSome = true := by
  obtain ⟨_, -, hrowGroups⟩ := bind_eq_ok.mp h
  exact (checkPlanIds_eq_ok hrowGroups).1

lemma nodup_of_validateReadPlan {u : Unit} (h : file.validateReadPlan plan = .ok u) :
    plan.rowGroupIds.Nodup := by
  obtain ⟨_, -, hrowGroups⟩ := bind_eq_ok.mp h
  exact (checkPlanIds_eq_ok hrowGroups).2.1

lemma mem_of_plannedRowGroupSubset (h : plannedRowGroupSubset plan rowGroupIds = .ok selected)
    {id : UInt32} (hid : id ∈ selected) : id ∈ plan.rowGroupIds := by
  obtain ⟨_, -, hselected⟩ := bind_eq_ok.mp h
  cases hselected
  exact List.mem_of_mem_filter hid

/-- Reading some row groups of a plan is the loop over them, whatever the number of threads. -/
theorem Opened.readsPlanRowGroups_iff (h : file.Opened) (hvalid : file.validateReadPlan plan = .ok ())
    {result : Result ColumnBundleReadOutcome} :
    file.ReadsPlanRowGroups zstd plan rowGroupIds result ↔ result = (do
      let selected ← plannedRowGroupSubset plan rowGroupIds
      (⟨·, (plan.ofSelected selected).report⟩) <$> (do
        validateOwnedPlanResourceLimits file.metadata (plan.ofSelected selected)
        selected.mapM (file.readPlanRowGroup zstd plan))) := by
  cases hsubset : plannedRowGroupSubset plan rowGroupIds with
  | error error =>
    constructor
    · intro hreads
      cases hreads with
      | invalid herror =>
        rw [hvalid] at herror
        cases herror
      | subset _ herror =>
        rw [hsubset] at herror
        cases herror
        rfl
      | executed _ hok =>
        rw [hsubset] at hok
        cases hok
    · rintro rfl
      exact .subset hvalid hsubset
  | ok selected =>
    have hknown : ∀ id ∈ (plan.ofSelected selected).rowGroupIds,
        (file.metadata.rowGroupById id).isSome = true := fun id hid =>
      known_of_validateReadPlan hvalid id (mem_of_plannedRowGroupSubset hsubset hid)
    have hexecutes := @h.executesPlan_iff file zstd (plan.ofSelected selected) hknown rfl
    rw [ok_bind]
    constructor
    · intro hreads
      cases hreads with
      | invalid herror =>
        rw [hvalid] at herror
        cases herror
      | subset _ herror =>
        rw [hsubset] at herror
        cases herror
      | executed _ hok hplan =>
        rw [hsubset] at hok
        cases hok
        rw [hexecutes.mp hplan]
        rfl
    · rintro rfl
      exact .executed hvalid hsubset (hexecutes.mpr rfl)

end ColumnBundleFile

/-! ### Consecutive pieces -/

lemma checkPlanIds_of_nodup {known : UInt32 → Bool} {unknown duplicate : String}
    {ids seen : List UInt32} (hknown : ∀ id ∈ ids, known id = true)
    (hnodup : (seen ++ ids).Nodup) : checkPlanIds known unknown duplicate ids seen = .ok () := by
  induction ids generalizing seen with
  | nil => rfl
  | cons id rest ih =>
    have hfresh : id ∉ seen := fun hseen =>
      (List.nodup_append.mp hnodup).2.2 id hseen id (by simp) rfl
    have hnodup' : ((id :: seen) ++ rest).Nodup :=
      (List.perm_middle.symm.nodup_iff.mpr hnodup : (id :: (seen ++ rest)).Nodup)
    rw [checkPlanIds, failIf_neg (not_not.mpr (hknown id (by simp))), ok_bind, failIf_neg hfresh,
      ok_bind, ih (fun x hx => hknown x (by simp [hx])) hnodup']

/-- The elements of a piece of a list without repetitions are that piece. -/
lemma filter_mem_infix {α : Type} [DecidableEq α] {before wave after : List α}
    (h : (before ++ wave ++ after).Nodup) :
    (before ++ wave ++ after).filter (· ∈ wave) = wave := by
  obtain ⟨hleft, -, hdisjoint⟩ := List.nodup_append.mp h
  obtain ⟨-, -, hdisjoint'⟩ := List.nodup_append.mp hleft
  have hbefore : before.filter (· ∈ wave) = [] := by
    rw [List.filter_eq_nil_iff]
    intro a ha
    simpa using fun hwave => hdisjoint' a ha a hwave rfl
  have hafter : after.filter (· ∈ wave) = [] := by
    rw [List.filter_eq_nil_iff]
    intro a ha
    simpa using fun hwave => hdisjoint a (by simp [hwave]) a ha rfl
  rw [List.filter_append, List.filter_append, hbefore, hafter, List.nil_append, List.append_nil]
  exact List.filter_eq_self.mpr fun a ha => by simpa using ha

/-- A piece of a plan without repetitions is read as it stands. -/
lemma plannedRowGroupSubset_infix {plan : ColumnBundleReadPlan} {before wave after : List UInt32}
    (hplan : plan.rowGroupIds = before ++ wave ++ after) (hnodup : plan.rowGroupIds.Nodup) :
    plannedRowGroupSubset plan wave = .ok wave := by
  have hwave : wave.Nodup := by
    rw [hplan] at hnodup
    exact (List.nodup_append.mp (List.nodup_append.mp hnodup).1).2.1
  rw [plannedRowGroupSubset, checkPlanIds_of_nodup _ (by simpa using hwave), ok_bind, hplan,
    filter_mem_infix (hplan ▸ hnodup), pure_eq_ok]
  intro id hid
  simp [hplan, hid]

@[simp] lemma flatten_waves {α : Type} {size : ℕ} (hsize : 0 < size) (l : List α) :
    (waves size l).flatten = l := by
  induction l using waves.induct size with
  | case1 l h =>
    rw [waves, dif_pos h]
    exact (h.resolve_left hsize.ne').symm
  | case2 l h ih =>
    rw [waves, dif_neg h, List.flatten_cons, ih, List.take_append_drop]

/-- A wave is a piece of the list. -/
lemma exists_of_mem_waves {α : Type} {size : ℕ} (hsize : 0 < size) {l wave : List α}
    (h : wave ∈ waves size l) : ∃ before after, l = before ++ wave ++ after := by
  obtain ⟨before, after, hwaves⟩ := List.append_of_mem h
  refine ⟨before.flatten, after.flatten, ?_⟩
  rw [← flatten_waves hsize l, hwaves, List.flatten_append, List.flatten_cons, List.append_assoc]

/-! ### What the planner makes is a valid plan -/

/-- Resolved names are distinct columns. -/
lemma of_resolveNames_eq_ok {columns : List BundleColumn} {names : List Text}
    {seen selected : List UInt32} (h : resolveNames columns names seen = .ok selected) :
    (∀ id ∈ selected, id ∈ columns.map BundleColumn.id ∧ id ∉ seen) ∧ selected.Nodup := by
  induction names generalizing seen selected with
  | nil =>
    cases h
    simp
  | cons name rest ih =>
    obtain ⟨column, hcolumn, h⟩ := bind_eq_ok.mp h
    obtain ⟨_, hfresh, h⟩ := bind_eq_ok.mp h
    obtain ⟨others, hothers, h⟩ := bind_eq_ok.mp h
    cases h
    rw [failIf_eq_ok] at hfresh
    obtain ⟨hmem, hnodup⟩ := ih hothers
    have hknown : column.id ∈ columns.map BundleColumn.id :=
      List.mem_map_of_mem (List.mem_reverse.mp (List.mem_of_find?_eq_some (okOr_eq_ok.mp hcolumn)))
    refine ⟨?_, List.nodup_cons.mpr ⟨fun hid => ?_, hnodup⟩⟩
    · rintro id (_ | ⟨_, hid⟩)
      · exact ⟨hknown, hfresh⟩
      · exact ⟨(hmem id hid).1, fun hseen => (hmem id hid).2 (List.mem_cons_of_mem _ hseen)⟩
    · exact (hmem _ hid).2 List.mem_cons_self

namespace ColumnBundleFile

/-- The planner's plans pass the validation, and select row groups of the file. -/
lemma Opened.of_planRead {file : ColumnBundleFile} (h : file.Opened)
    {request : ColumnBundleReadRequest} {plan : ColumnBundleReadPlan}
    (hplan : file.planRead request = .ok plan) : file.validateReadPlan plan = .ok () ∧
      plan.rowGroupIds.Sublist
        (file.metadata.rowGroupIndex.rowGroups.map OcbRowGroupDescV1.rowGroupId) := by
  obtain ⟨_, -, hplan⟩ := bind_eq_ok.mp hplan
  obtain ⟨selected, hselected, hplan⟩ := bind_eq_ok.mp hplan
  obtain ⟨resolved, -, hplan⟩ := bind_eq_ok.mp hplan
  obtain ⟨⟨ids, pruned⟩, hids, hplan⟩ := bind_eq_ok.mp hplan
  cases hplan
  obtain ⟨kept, rfl, hsub, -⟩ := selectRowGroups_eq_ok hids
  have hcolumns : (∀ id ∈ selected, id ∈ file.columns.map BundleColumn.id) ∧ selected.Nodup := by
    cases hprojection : request.projection with
    | all =>
      rw [hprojection] at hselected
      cases hselected
      exact ⟨fun _ hid => hid, h.nodup_columnIds⟩
    | names names =>
      rw [hprojection] at hselected
      obtain ⟨hmem, hnodup⟩ := of_resolveNames_eq_ok hselected
      exact ⟨fun id hid => (hmem id hid).1, hnodup⟩
  have hknownColumn : ∀ id ∈ selected,
      (file.columns.any fun column => column.id = id) = true := by
    intro id hid
    obtain ⟨column, hcolumn, rfl⟩ := List.mem_map.mp (hcolumns.1 id hid)
    exact List.any_eq_true.mpr ⟨column, hcolumn, by simp⟩
  have hknown : ∀ id ∈ kept.map OcbRowGroupDescV1.rowGroupId,
      (file.metadata.rowGroupById id).isSome = true := by
    intro id hid
    obtain ⟨rowGroup, hrowGroup, rfl⟩ := List.mem_map.mp hid
    exact Option.isSome_iff_exists.mpr
      ⟨rowGroup, (h.invariant.rowGroupById _ _).mpr ⟨hsub.subset hrowGroup, rfl⟩⟩
  have hsubIds := hsub.map OcbRowGroupDescV1.rowGroupId
  refine ⟨?_, by rwa [List.nil_append]⟩
  rw [validateReadPlan]
  dsimp only [readPlan]
  rw [checkPlanIds_of_nodup hknownColumn (by simpa using hcolumns.2), ok_bind, List.nil_append,
    checkPlanIds_of_nodup hknown (by simpa using h.invariant.rowGroupIds.sublist hsubIds)]

end ColumnBundleFile

/-! ### Reading some of the row groups -/

/-- A list of ids is refused when one of them is not in the plan or comes twice, and otherwise the
row groups of the plan are filtered. -/
lemma plannedRowGroupSubset_eq_ok {plan : ColumnBundleReadPlan} {rowGroupIds selected : List UInt32} :
    plannedRowGroupSubset plan rowGroupIds = .ok selected ↔
      (∀ id ∈ rowGroupIds, id ∈ plan.rowGroupIds) ∧ rowGroupIds.Nodup ∧
        selected = plan.rowGroupIds.filter (· ∈ rowGroupIds) := by
  constructor
  · intro h
    obtain ⟨_, hcheck, h⟩ := bind_eq_ok.mp h
    cases h
    obtain ⟨hknown, hnodup, -⟩ := checkPlanIds_eq_ok hcheck
    exact ⟨fun id hid => by simpa using hknown id hid, hnodup, rfl⟩
  · rintro ⟨hknown, hnodup, rfl⟩
    rw [plannedRowGroupSubset, checkPlanIds_of_nodup (fun id hid => by simpa using hknown id hid)
      (by simpa using hnodup), ok_bind, pure_eq_ok]

section Filtering

variable {α β ε : Type} {f : α → Except ε β} {l l' : List α} {bs : List β}

/-- A loop over a part of a list yields a part of what the loop over the list yields. -/
lemma mapM_of_sublist (h : l'.Sublist l) (hl : l.mapM f = .ok bs) :
    ∃ bs', l'.mapM f = .ok bs' ∧ bs'.Sublist bs := by
  induction h generalizing bs with
  | slnil =>
    cases hl
    exact ⟨[], rfl, List.Sublist.slnil⟩
  | cons a _ ih =>
    rw [List.mapM_cons] at hl
    obtain ⟨b, -, hl⟩ := bind_eq_ok.mp hl
    obtain ⟨rest, hrest, hl⟩ := bind_eq_ok.mp hl
    cases hl
    obtain ⟨bs', hbs', hsub⟩ := ih hrest
    exact ⟨bs', hbs', hsub.cons b⟩
  | cons_cons a _ ih =>
    rw [List.mapM_cons] at hl
    obtain ⟨b, hb, hl⟩ := bind_eq_ok.mp hl
    obtain ⟨rest, hrest, hl⟩ := bind_eq_ok.mp hl
    cases hl
    obtain ⟨bs', hbs', hsub⟩ := ih hrest
    exact ⟨b :: bs', by rw [List.mapM_cons, hb, ok_bind, hbs', ok_bind]; rfl, hsub.cons_cons b⟩

/-- When the result tells where it comes from, filtering before the loop is filtering after it. -/
lemma mapM_filter (key : β → α) (hkey : ∀ a b, f a = .ok b → key b = a) (p : α → Bool)
    (hl : l.mapM f = .ok bs) : (l.filter p).mapM f = .ok (bs.filter fun b => p (key b)) := by
  induction l generalizing bs with
  | nil =>
    cases hl
    rfl
  | cons a rest ih =>
    rw [List.mapM_cons] at hl
    obtain ⟨b, hb, hl⟩ := bind_eq_ok.mp hl
    obtain ⟨others, hothers, hl⟩ := bind_eq_ok.mp hl
    cases hl
    rw [List.filter_cons, List.filter_cons, hkey a b hb]
    cases p a with
    | true => simp [List.mapM_cons, hb, ih hothers]
    | false => simpa using ih hothers

end Filtering

/-- The totals of an execution that keeps every batch are sums that fit. -/
lemma foldlM_addOwned_eq_ok {footprints : List SelectedResourceFootprint}
    {total sum : SelectedResourceFootprint}
    (htotal : total.compressedBytes < 2 ^ 64 ∧ total.decodedMaterializedBytes < 2 ^ 64) :
    footprints.foldlM addOwned total = .ok sum ↔
      sum = { total with
        compressedBytes := total.compressedBytes +
          (footprints.map SelectedResourceFootprint.compressedBytes).sum
        decodedMaterializedBytes := total.decodedMaterializedBytes +
          (footprints.map SelectedResourceFootprint.decodedMaterializedBytes).sum } ∧
      sum.compressedBytes < 2 ^ 64 ∧ sum.decodedMaterializedBytes < 2 ^ 64 := by
  induction footprints generalizing total with
  | nil =>
    rw [List.foldlM_nil, pure_eq_ok, Except.ok.injEq]
    constructor
    · rintro rfl
      exact ⟨rfl, htotal⟩
    · rintro ⟨rfl, -⟩
      rfl
  | cons footprint rest ih =>
    rw [List.foldlM_cons, bind_eq_ok, List.map_cons, List.map_cons, List.sum_cons, List.sum_cons]
    constructor
    · rintro ⟨next, hnext, hrest⟩
      simp only [addOwned, bind_eq_ok, okOr_eq_ok, checkedAdd_eq_some] at hnext
      obtain ⟨_, ⟨rfl, hcompressed⟩, _, ⟨rfl, hdecoded⟩, hnext⟩ := hnext
      cases hnext
      obtain ⟨rfl, hbounds⟩ := (ih ⟨hcompressed, hdecoded⟩).mp hrest
      refine ⟨?_, hbounds⟩
      simp only [Nat.add_assoc]
    · rintro ⟨rfl, hcompressed, hdecoded⟩
      dsimp only at hcompressed hdecoded
      have hnext : addOwned total footprint = .ok { total with
          compressedBytes := total.compressedBytes + footprint.compressedBytes
          decodedMaterializedBytes :=
            total.decodedMaterializedBytes + footprint.decodedMaterializedBytes } := by
        rw [addOwned, checkedAdd_of_lt (by omega), okOr_some, ok_bind,
          checkedAdd_of_lt (by omega), okOr_some, ok_bind]
        rfl
      refine ⟨_, hnext, (ih ⟨by dsimp only; omega, by dsimp only; omega⟩).mpr ⟨?_, ?_, ?_⟩⟩
      · simp only [Nat.add_assoc]
      · dsimp only
        omega
      · dsimp only
        omega

/-- The admission of an execution that keeps every batch admits its parts. -/
lemma validateOwnedPlanResourceLimits_of_sublist {m : OcbMetadataV1} {plan plan' : ColumnBundleReadPlan}
    {u : Unit} (hcolumns : plan'.projectedColumnIds = plan.projectedColumnIds)
    (hsub : plan'.rowGroupIds.Sublist plan.rowGroupIds)
    (h : validateOwnedPlanResourceLimits m plan = .ok u) :
    validateOwnedPlanResourceLimits m plan' = .ok () := by
  obtain ⟨footprints, hfootprints, h⟩ := bind_eq_ok.mp h
  obtain ⟨total, htotal, hvalid⟩ := bind_eq_ok.mp h
  obtain ⟨rowGroups, hrowGroups, hfootprints⟩ := bind_eq_ok.mp hfootprints
  obtain ⟨_, hnodup, hrowGroups⟩ := bind_eq_ok.mp hrowGroups
  rw [failIf_eq_ok, not_not] at hnodup
  obtain ⟨rowGroups', hrowGroups', hsub'⟩ := mapM_of_sublist hsub hrowGroups
  obtain ⟨footprints', hfootprints', hsub''⟩ := mapM_of_sublist hsub' hfootprints
  obtain ⟨rfl, hcompressed, hdecoded⟩ :=
    (foldlM_addOwned_eq_ok ⟨by decide, by decide⟩).mp htotal
  have hselected : selectedResourceFootprintsForPlan m plan' = .ok footprints' := by
    rw [selectedResourceFootprintsForPlan, selectedRowGroupsForPlan,
      failIf_neg (not_not.mpr (hnodup.sublist hsub)), ok_bind, hrowGroups', ok_bind, hcolumns]
    exact hfootprints'
  have hc := (hsub''.map SelectedResourceFootprint.compressedBytes).sum_le_sum fun _ _ =>
    Nat.zero_le _
  have hd := (hsub''.map SelectedResourceFootprint.decodedMaterializedBytes).sum_le_sum
    fun _ _ => Nat.zero_le _
  obtain ⟨_, hmaxCompressed, hmaxDecoded⟩ := bind_eq_ok.mp hvalid
  rw [failIf_eq_ok] at hmaxCompressed hmaxDecoded
  dsimp only [SelectedResourceFootprint.zero] at hcompressed hdecoded hmaxCompressed hmaxDecoded
  have htotal' : footprints'.foldlM addOwned .zero = .ok {
      compressedBytes := 0 + (footprints'.map SelectedResourceFootprint.compressedBytes).sum
      decodedMaterializedBytes := 0 +
        (footprints'.map SelectedResourceFootprint.decodedMaterializedBytes).sum
      rowCount := 0 } :=
    (foldlM_addOwned_eq_ok ⟨by decide, by decide⟩).mpr
      ⟨rfl, by dsimp only; omega, by dsimp only; omega⟩
  rw [validateOwnedPlanResourceLimits, hselected, ok_bind, htotal', ok_bind,
    validateFootprintTotals, failIf_neg (by dsimp only; omega), ok_bind,
    failIf_neg (by dsimp only; omega)]

namespace ColumnBundleFile

variable {file : ColumnBundleFile} {zstd : ZstdCodec} {plan : ColumnBundleReadPlan}

/-- A batch that is read for an id is the row group of this id. -/
lemma Opened.rowGroupId_of_readPlanRowGroup (h : file.Opened) {id : UInt32} {batch : ColumnBatch}
    (hread : file.readPlanRowGroup zstd plan id = .ok batch) : batch.rowGroupId = id := by
  obtain ⟨rowGroup, hrowGroup, hread⟩ := bind_eq_ok.mp hread
  obtain ⟨_, -, hread⟩ := bind_eq_ok.mp hread
  obtain ⟨_, -, hread⟩ := bind_eq_ok.mp hread
  cases hread
  exact ((h.invariant.rowGroupById id rowGroup).mp (okOr_eq_ok.mp hrowGroup)).2

/-- Asking for some row groups of a plan.  The list of ids is refused exactly when one of them is
not in the plan or comes twice; otherwise the row groups of the plan are filtered, whatever the
order of the list.  When the whole plan can be read, reading the part gives the filtered batches,
with every number of threads and whatever the interleaving. -/
theorem readsPlanRowGroups_filtered {source : OcbReadSource} {validation : OcbOpenValidationMode}
    {limits : OcbResourceLimits}
    (hopen : openFromSource source zstd validation limits = .ok file)
    (plan : ColumnBundleReadPlan) (rowGroupIds : List UInt32) :
    (¬ IsOk (plannedRowGroupSubset plan rowGroupIds) ↔
      (∃ id ∈ rowGroupIds, id ∉ plan.rowGroupIds) ∨ ¬ rowGroupIds.Nodup) ∧
    (∀ selected, plannedRowGroupSubset plan rowGroupIds = .ok selected →
      selected = plan.rowGroupIds.filter (· ∈ rowGroupIds) ∧ ∀ rowGroupIds' : List UInt32,
        rowGroupIds'.Perm rowGroupIds → plannedRowGroupSubset plan rowGroupIds' = .ok selected) ∧
    ∀ outcome, file.ReadsPlanBatches zstd plan (.ok outcome) →
      ∀ selected, plannedRowGroupSubset plan rowGroupIds = .ok selected → ∀ result,
        file.ReadsPlanRowGroups zstd plan rowGroupIds result ↔
          result = .ok {
            batches := outcome.batches.filter fun batch => batch.rowGroupId ∈ rowGroupIds
            report := executionReportForPlan plan selected.length } := by
  have h := opened_of_openFromSource hopen
  refine ⟨?_, fun selected hselected => ?_, fun outcome houtcome selected hselected result => ?_⟩
  · constructor
    · intro hfails
      by_contra hvalid
      push Not at hvalid
      exact hfails ⟨_, plannedRowGroupSubset_eq_ok.mpr ⟨hvalid.1, hvalid.2, rfl⟩⟩
    · rintro hinvalid ⟨selected, hselected⟩
      obtain ⟨hknown, hnodup, -⟩ := plannedRowGroupSubset_eq_ok.mp hselected
      rcases hinvalid with ⟨id, hid, hunknown⟩ | hrepeated
      · exact hunknown (hknown id hid)
      · exact hrepeated hnodup
  · obtain ⟨hknown, hnodup, rfl⟩ := plannedRowGroupSubset_eq_ok.mp hselected
    refine ⟨rfl, fun rowGroupIds' hperm => plannedRowGroupSubset_eq_ok.mpr
      ⟨fun id hid => hknown id (hperm.mem_iff.mp hid), hperm.nodup_iff.mpr hnodup, ?_⟩⟩
    simp only [hperm.mem_iff]
  · obtain ⟨batches, hbatches, rfl⟩ := map_eq_ok.mp (h.readsPlanBatches_iff.mp houtcome).symm
    obtain ⟨_, hvalid, hbatches⟩ := bind_eq_ok.mp hbatches
    obtain ⟨_, hlimits, hbatches⟩ := bind_eq_ok.mp hbatches
    obtain ⟨-, -, rfl⟩ := plannedRowGroupSubset_eq_ok.mp hselected
    have hadmitted : validateOwnedPlanResourceLimits file.metadata
        (plan.ofSelected (plan.rowGroupIds.filter (· ∈ rowGroupIds))) = .ok () := by
      refine validateOwnedPlanResourceLimits_of_sublist ?_ ?_ hlimits
      · rfl
      · exact List.filter_sublist
    have hfiltered := mapM_filter ColumnBatch.rowGroupId
      (fun _ _ hread => h.rowGroupId_of_readPlanRowGroup hread) (· ∈ rowGroupIds) hbatches
    rw [h.readsPlanRowGroups_iff hvalid, hselected, ok_bind, hadmitted, ok_bind, hfiltered]
    rfl

/-- The row group of the small file cannot be asked for twice.  Of three row groups two are selected in
the order of the plan, in whatever order they are asked for, and when the small file has been read,
its row group alone is read as the same batches. -/
theorem readsPlanRowGroups_filtered_sample : ∃ file,
    openFromSource (Sample.file .i32) (fun _ _ => ⟨[], true⟩) .metadataGraph .policyA = .ok file ∧
    ¬ IsOk (plannedRowGroupSubset Sample.plan [0, 0]) ∧
    plannedRowGroupSubset { Sample.plan with rowGroupIds := [3, 1, 2] } [2, 3] = .ok [3, 2] ∧
    ∀ outcome, file.ReadsPlanBatches (fun _ _ => ⟨[], true⟩) Sample.plan (.ok outcome) →
      file.ReadsPlanRowGroups (fun _ _ => ⟨[], true⟩) Sample.plan [0] (.ok {
        batches := outcome.batches.filter fun batch => batch.rowGroupId ∈ [0]
        report := executionReportForPlan Sample.plan 1 }) := by
  obtain ⟨cRoot, cSchema, cStrings, cDictionaries, cIndex, h⟩ :=
    Sample.openFromSource .i32 fun _ _ => ⟨[], true⟩
  have hselected : plannedRowGroupSubset Sample.plan [0] = .ok [0] := by decide
  have hfiltered := readsPlanRowGroups_filtered h { Sample.plan with rowGroupIds := [3, 1, 2] } [3, 2]
  refine ⟨_, h, (readsPlanRowGroups_filtered h Sample.plan [0, 0]).1.mpr (Or.inr (by decide)),
    (hfiltered.2.1 [3, 2] (by decide)).2 [2, 3] (List.Perm.swap 3 2 []), fun outcome houtcome => ?_⟩
  exact ((readsPlanRowGroups_filtered h Sample.plan [0]).2.2 outcome houtcome [0] hselected _).mpr
    rfl

end ColumnBundleFile

end ArcadiaTio.Ocb
