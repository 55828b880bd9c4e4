import ArcadiaTio.Ocb.Bundle.FullPayload
import ArcadiaTio.Ocb.Bundle.PredicateBounds

/-!
# Reading a fully validated file

What opening in full-payload mode accepts, the owned readers decode: a selection whose bytes stay
within the limits is read (`ReadsSafely.ok`), and an owned read reports a corruption only when the
bytes of its selection, which are added up beforehand, do not fit a machine word
(`ReadsSafely.corrupt`).  Such a file exists (`ExpandingFile`).
-/

namespace ArcadiaTio.Ocb

open ArcadiaTio.Lib

/-! ### Plans -/

/-- The chunks that the descriptor of a row group points to. -/
def OcbMetadataV1.chunksAt (m : OcbMetadataV1) (rowGroup : OcbRowGroupDescV1) :
    List OcbColumnChunkDescV1 :=
  (m.rowGroupIndex.columnChunks.take
    (rowGroup.chunkDescBegin.toNat + rowGroup.chunkDescCount.toNat)).drop
      rowGroup.chunkDescBegin.toNat

lemma chunksAt_of_found {m : OcbMetadataV1} {rowGroup : OcbRowGroupDescV1}
    {chunks : List OcbColumnChunkDescV1}
    (h : chunksForRowGroup m rowGroup.chunkDescBegin rowGroup.chunkDescCount = .ok chunks) :
    chunks = m.chunksAt rowGroup := by
  obtain ⟨endPos, hend, hslice⟩ := bind_eq_ok.mp h
  obtain ⟨rfl, -⟩ := checkedAdd_eq_some.mp (okOr_eq_ok.mp hend)
  obtain ⟨_, -, hslice⟩ := bind_eq_ok.mp hslice
  exact (Except.ok.inj hslice).symm

/-- The footprints of the row groups of a plan, added up without a bound. -/
def planFootprints (m : OcbMetadataV1) (plan : ColumnBundleReadPlan) :
    List SelectedResourceFootprint :=
  (plan.rowGroupIds.filterMap m.rowGroupById).map fun rowGroup =>
    footprintOf (m.chunksAt rowGroup) rowGroup.rowCount.toNat plan.projectedColumnIds

/-- The bytes of a plan are within the configured limits: those of each row group, and those of all
of them together. -/
structure PlanWithinLimits (m : OcbMetadataV1) (plan : ColumnBundleReadPlan) : Prop extends
    WithinLimits m.resourceLimits (planFootprints m plan) where
  projected : ∀ footprint ∈ planFootprints m plan,
    footprint.decodedMaterializedBytes ≤ m.resourceLimits.maxProjectedRowGroupBytes.toNat

lemma errorsIn_checkPlanIds {known : UInt32 → Bool} {unknown duplicate : String}
    {ids seen : List UInt32} : ErrorsIn (fun e => ¬ e.IsCorrupt)
      (checkPlanIds known unknown duplicate ids seen) := by
  induction ids generalizing seen with
  | nil => exact .ok _
  | cons id rest ih =>
    refine ErrorsIn.bind (.failIf fun _ => ?_) fun _ _ =>
      .bind (.failIf fun _ => ?_) fun _ _ => ih
    · exact ArcadiaTioError.not_isCorrupt_ocbInvalidInput _
    · exact ArcadiaTioError.not_isCorrupt_ocbInvalidInput _

namespace ColumnBundleFile

/-- A plan selects distinct columns and distinct row groups of a file. -/
structure Selects (file : ColumnBundleFile) (plan : ColumnBundleReadPlan) : Prop where
  columns : ∀ id ∈ plan.projectedColumnIds, id ∈ file.columns.map BundleColumn.id
  columnsNodup : plan.projectedColumnIds.Nodup
  rowGroups : ∀ id ∈ plan.rowGroupIds, (file.metadata.rowGroupById id).isSome
  rowGroupsNodup : plan.rowGroupIds.Nodup

variable {file : ColumnBundleFile} {plan : ColumnBundleReadPlan}

/-- A part of a selection. -/
lemma Selects.part (h : file.Selects plan) (rowGroupIds : List UInt32) :
    file.Selects (plan.ofSelected (plan.rowGroupIds.filter (· ∈ rowGroupIds))) where
  columns := h.columns
  columnsNodup := h.columnsNodup
  rowGroups id hid := h.rowGroups id (List.mem_of_mem_filter hid)
  rowGroupsNodup := h.rowGroupsNodup.filter _

/-- The validation of a plan accepts the selections. -/
theorem validateReadPlan_eq_ok : file.validateReadPlan plan = .ok () ↔ file.Selects plan := by
  constructor
  · intro h
    obtain ⟨_, hcolumns, hrowGroups⟩ := bind_eq_ok.mp h
    obtain ⟨hknown, hnodup, -⟩ := checkPlanIds_eq_ok hcolumns
    obtain ⟨hknown', hnodup', -⟩ := checkPlanIds_eq_ok hrowGroups
    refine ⟨fun id hid => ?_, hnodup, hknown', hnodup'⟩
    obtain ⟨column, hcolumn, hid⟩ := List.any_eq_true.mp (hknown id hid)
    exact List.mem_map.mpr ⟨column, hcolumn, by simpa using hid⟩
  · intro h
    rw [validateReadPlan, checkPlanIds_of_nodup (fun id hid => ?_) (by simpa using h.columnsNodup),
      ok_bind, checkPlanIds_of_nodup h.rowGroups (by simpa using h.rowGroupsNodup)]
    obtain ⟨column, hcolumn, rfl⟩ := List.mem_map.mp (h.columns id hid)
    exact List.any_eq_true.mpr ⟨column, hcolumn, by simp⟩

lemma not_isCorrupt_validateReadPlan :
    ErrorsIn (fun e => ¬ e.IsCorrupt) (file.validateReadPlan plan) :=
  errorsIn_checkPlanIds.bind fun _ _ => errorsIn_checkPlanIds

/-! ### The reads of a fully validated file -/

section FullyValidated

variable {source : OcbReadSource} {zstd : ZstdCodec} {limits : OcbResourceLimits}

lemma readable_of_openFromSource (hfault : source.FaultFree)
    (h : openFromSource source zstd .fullPayload limits = .ok file)
    {rowGroup : OcbRowGroupDescV1} (hgroup : rowGroup ∈ file.metadata.rowGroupIndex.rowGroups) :
    RowGroupReadable source zstd file.metadata limits rowGroup
      (file.metadata.chunksAt rowGroup) := by
  have hgraph := graph_of_openFromSource h
  obtain ⟨c, hwalk, -⟩ := hgraph.rowGroups
  obtain ⟨chunks, hreadable⟩ :=
    (hwalk.checked rowGroup hgroup).exists_readable hfault hgraph.columnIds
  exact chunksAt_of_found hreadable.found ▸ hreadable

lemma Opened.mem_schema (h : file.Opened) {columnId : UInt32}
    (hid : columnId ∈ file.columns.map BundleColumn.id) :
    columnId ∈ file.metadata.schema.columns.map OcbColumnDescV1.columnId := by
  obtain ⟨column, hcolumn, rfl⟩ := List.mem_map.mp hid
  obtain ⟨desc, hdesc, hid, -⟩ := h.exists_schema hcolumn
  exact List.mem_map.mpr ⟨desc, hdesc, hid⟩

/-- Every row group can be read, whatever columns are selected. -/
theorem isOk_readRowGroup (hfault : source.FaultFree)
    (h : openFromSource source zstd .fullPayload limits = .ok file) {rowGroupId : UInt32}
    (hgroup : (file.metadata.rowGroupById rowGroupId).isSome) {columnIds : List UInt32}
    (hcolumns : ∀ id ∈ columnIds, id ∈ file.columns.map BundleColumn.id) :
    IsOk (readRowGroup source zstd file.metadata file.columns rowGroupId columnIds) := by
  have hopened := opened_of_openFromSource h
  obtain ⟨rowGroup, hfound⟩ := Option.isSome_iff_exists.mp hgroup
  have hreadable := readable_of_openFromSource hfault h
    ((hopened.invariant.rowGroupById _ _).mp hfound).1
  have hread : ∀ id ∈ columnIds, IsOk (readSelectedColumn source zstd file.metadata file.columns
      ((file.metadata.chunksAt rowGroup).map fun chunk => (chunk.columnId, chunk))
      rowGroup.rowCount id) := by
    intro id hid
    obtain ⟨desc, hdesc, rfl⟩ := List.mem_map.mp (hopened.mem_schema (hcolumns id hid))
    obtain ⟨column, -, hfind, hresolved⟩ := hopened.find_resolved hdesc
    obtain ⟨chunk, -, hlookup, hvalidated⟩ := hreadable.find_chunk hdesc
    rw [readSelectedColumn, hfind, okOr_some, ok_bind, hlookup, okOr_some, ok_bind]
    exact hvalidated.isOk_readColumnArray (graph_of_openFromSource h).resourceLimits_eq hresolved
  obtain ⟨arrays, harrays⟩ := isOk_mapM.mpr hread
  rw [readRowGroup, hfound, okOr_some, ok_bind, hreadable.chunkByColumn_eq, ok_bind, harrays]
  exact isOk_ok

/-- The admission sees the footprints of the plan, when their sums fit. -/
lemma footprints_eq (hfault : source.FaultFree)
    (h : openFromSource source zstd .fullPayload limits = .ok file) (hselects : file.Selects plan)
    (hfit : SumsFit (planFootprints file.metadata plan)) :
    selectedResourceFootprintsForPlan file.metadata plan =
      (planFootprints file.metadata plan).mapM (admitRowGroup limits) := by
  have hopened := opened_of_openFromSource h
  have hgraph := graph_of_openFromSource h
  have hrowGroups : selectedRowGroupsForPlan file.metadata plan =
      .ok (plan.rowGroupIds.filterMap file.metadata.rowGroupById) := by
    rw [selectedRowGroupsForPlan, failIf_neg (not_not.mpr hselects.rowGroupsNodup), ok_bind,
      mapM_okOr hselects.rowGroups]
  rw [selectedResourceFootprintsForPlan, hrowGroups, ok_bind, planFootprints, List.mapM_map]
  refine mapM_congr_left fun rowGroup hrowGroup => ?_
  obtain ⟨id, -, hfound⟩ := List.mem_filterMap.mp hrowGroup
  have hmem : footprintOf (file.metadata.chunksAt rowGroup) rowGroup.rowCount.toNat
      plan.projectedColumnIds ∈ planFootprints file.metadata plan :=
    List.mem_map_of_mem (f := fun rowGroup => footprintOf (file.metadata.chunksAt rowGroup)
      rowGroup.rowCount.toNat plan.projectedColumnIds) hrowGroup
  exact (readable_of_openFromSource hfault h
    ((hopened.invariant.rowGroupById _ _).mp hfound).1).footprint_eq hfault hgraph.fileLen_eq
      hgraph.resourceLimits_eq (fun id hid => hopened.mem_schema (hselects.columns id hid)) rfl
      ((List.le_sum_of_mem (List.mem_map_of_mem hmem)).trans_lt hfit.compressed)
      ((List.le_sum_of_mem (List.mem_map_of_mem hmem)).trans_lt hfit.decoded)

/-- The footprints of a plan whose bytes are within the limits. -/
lemma footprints_eq_ok (hfault : source.FaultFree)
    (h : openFromSource source zstd .fullPayload limits = .ok file) (hselects : file.Selects plan)
    (hwithin : PlanWithinLimits file.metadata plan) :
    selectedResourceFootprintsForPlan file.metadata plan =
      .ok (planFootprints file.metadata plan) := by
  have hlimits := (graph_of_openFromSource h).resourceLimits_eq
  rw [footprints_eq hfault h hselects hwithin.toWithinLimits.sumsFit]
  refine mapM_eq_ok.mpr (List.forall₂_same.mpr fun footprint hfootprint => ?_)
  have hle := hlimits ▸ hwithin.projected footprint hfootprint
  rw [admitRowGroup, failIf_neg (not_lt.mpr hle)]
  rfl

/-- When the sums fit, the footprints are those of the plan, or one of them is too large. -/
lemma footprints_cases (hfault : source.FaultFree)
    (h : openFromSource source zstd .fullPayload limits = .ok file) (hselects : file.Selects plan)
    (hfit : SumsFit (planFootprints file.metadata plan)) :
    ErrorsIn (fun e => ¬ e.IsCorrupt) (selectedResourceFootprintsForPlan file.metadata plan) ∧
      ∀ footprints, selectedResourceFootprintsForPlan file.metadata plan = .ok footprints →
        footprints = planFootprints file.metadata plan := by
  rw [footprints_eq hfault h hselects hfit]
  constructor
  · exact .mapM fun footprint _ =>
      .bind (.failIf fun _ => ArcadiaTioError.not_isCorrupt_ocbInvalidInput _) fun _ _ => .ok _
  · intro footprints hadmitted
    have hsame : List.Forall₂ Eq (planFootprints file.metadata plan) footprints := by
      refine (mapM_eq_ok.mp hadmitted).imp fun _ _ hadmits => ?_
      obtain ⟨_, -, hadmits⟩ := bind_eq_ok.mp hadmits
      exact Except.ok.inj hadmits
    exact (List.forall₂_eq_eq_eq ▸ hsame).symm

/-- The total of an execution that keeps every batch, when the sums fit. -/
lemma exists_ownedTotal {footprints : List SelectedResourceFootprint} (hfit : SumsFit footprints) :
    ∃ total, footprints.foldlM addOwned .zero = .ok total ∧ IsTotal footprints total :=
  ⟨_, (foldlM_addOwned_eq_ok ⟨by decide, by decide⟩).mpr
    ⟨rfl, by simpa [SelectedResourceFootprint.zero] using hfit.compressed,
      by simpa [SelectedResourceFootprint.zero] using hfit.decoded⟩,
    by simp [SelectedResourceFootprint.zero], by simp [SelectedResourceFootprint.zero]⟩

/-- A plan whose bytes are within the limits is admitted. -/
theorem admission_eq_ok (hfault : source.FaultFree)
    (h : openFromSource source zstd .fullPayload limits = .ok file) (hselects : file.Selects plan)
    (hwithin : PlanWithinLimits file.metadata plan) :
    validateOwnedPlanResourceLimits file.metadata plan = .ok () := by
  obtain ⟨total, htotal, hisTotal⟩ := exists_ownedTotal hwithin.toWithinLimits.sumsFit
  obtain ⟨u, hvalid⟩ := (isOk_validateFootprintTotals hisTotal).mpr hwithin.toWithinLimits
  rw [validateOwnedPlanResourceLimits, footprints_eq_ok hfault h hselects hwithin, ok_bind,
    htotal, ok_bind]
  exact hvalid

/-- A plan whose sums fit is admitted or refused as invalid input. -/
theorem not_isCorrupt_admission (hfault : source.FaultFree)
    (h : openFromSource source zstd .fullPayload limits = .ok file) (hselects : file.Selects plan)
    (hfit : SumsFit (planFootprints file.metadata plan)) :
    ErrorsIn (fun e => ¬ e.IsCorrupt) (validateOwnedPlanResourceLimits file.metadata plan) := by
  obtain ⟨herrors, hsame⟩ := footprints_cases hfault h hselects hfit
  refine ErrorsIn.bind herrors fun footprints hfootprints => ?_
  obtain ⟨total, htotal, -⟩ := exists_ownedTotal hfit
  rw [hsame footprints hfootprints, htotal, ok_bind]
  exact not_isCorrupt_validateFootprintTotals total

/-! ### The owned reads -/

/-- The plan of every column of one row group. -/
def rowGroupPlan (file : ColumnBundleFile) (rowGroupId : UInt32) : ColumnBundleReadPlan where
  projectedColumnIds := file.columns.map BundleColumn.id
  rowGroupIds := [rowGroupId]
  report := buildReadReport 1 1 0 file.columns.length

/-- Read every column of one row group. -/
def readRowGroupById (file : ColumnBundleFile) (zstd : ZstdCodec) (rowGroupId : UInt32) :
    Result ColumnBatch := do
  let plan := file.rowGroupPlan rowGroupId
  file.validateReadPlan plan
  validateOwnedPlanResourceLimits file.metadata plan
  readRowGroup file.source zstd file.metadata file.columns rowGroupId plan.projectedColumnIds

/-- What reading the batches of a request may return. -/
inductive ReadsBatches (file : ColumnBundleFile) (zstd : ZstdCodec)
    (request : ColumnBundleReadRequest) : Result ColumnBundleReadOutcome → Prop
  | refused {error : ArcadiaTioError} (h : file.planRead request = .error error) :
      ReadsBatches file zstd request (.error error)
  | planned {plan : ColumnBundleReadPlan} {result : Result ColumnBundleReadOutcome}
      (h : file.planRead request = .ok plan) (hreads : file.ReadsPlanBatches zstd plan result) :
      ReadsBatches file zstd request result

/-- The read of a plan returns when the plan is accepted and its bytes are within the limits, and
it reports a corruption only when the sums of these bytes overflow. -/
structure ReadsSafely {α : Type} (file : ColumnBundleFile) (accepted : Prop)
    (plan : ColumnBundleReadPlan) (result : Result α) : Prop where
  ok : accepted → PlanWithinLimits file.metadata plan → IsOk result
  corrupt : ∀ e, result = .error e → e.IsCorrupt → ¬ SumsFit (planFootprints file.metadata plan)

lemma ReadsSafely.map {α β : Type} {f : α → β} {accepted : Prop} {result : Result α}
    (h : file.ReadsSafely accepted plan result) :
    file.ReadsSafely accepted plan (f <$> result) where
  ok haccepted hwithin := isOk_map.mpr (h.ok haccepted hwithin)
  corrupt e he hcorrupt := h.corrupt e (map_eq_error.mp he) hcorrupt

/-- The planner reports no corruption. -/
lemma Opened.not_isCorrupt_planRead (h : file.Opened) (request : ColumnBundleReadRequest) :
    ErrorsIn (fun e => ¬ e.IsCorrupt) (file.planRead request) := by
  by_cases hoptions : request.options.Supported
  · refine (errorsIn_planRead h hoptions).mono fun e hinvalid hcorrupt => ?_
    cases hinvalid.symm.trans hcorrupt
  · have hrefused : ErrorsIn (fun e => ¬ e.IsCorrupt) (validateReadOptions request.options) :=
      (ErrorsIn.failIf fun _ hcorrupt => by cases hcorrupt).bind fun _ _ =>
        .failIf fun _ hcorrupt => by cases hcorrupt
    exact hrefused.bind fun _ hvalid => absurd (validateReadOptions_eq_ok.mp hvalid) hoptions

/-- Every column of a known row group is a selection. -/
lemma Opened.selects_rowGroupPlan (h : file.Opened) {rowGroupId : UInt32}
    (hgroup : (file.metadata.rowGroupById rowGroupId).isSome) :
    file.Selects (file.rowGroupPlan rowGroupId) where
  columns _ hid := hid
  columnsNodup := h.nodup_columnIds
  rowGroups _ hid := by
    rw [List.mem_singleton.mp hid]
    exact hgroup
  rowGroupsNodup := List.nodup_singleton _

section

variable (hfault : source.FaultFree)
  (h : openFromSource source zstd .fullPayload limits = .ok file)

include hfault h

lemma isOk_readPlanRowGroup (hselects : file.Selects plan) {rowGroupId : UInt32}
    (hgroup : rowGroupId ∈ plan.rowGroupIds) :
    IsOk (file.readPlanRowGroup zstd plan rowGroupId) := by
  have hsource := source_of_openFromSource h
  rw [readPlanRowGroup, hsource]
  exact isOk_readRowGroup hfault h (hselects.rowGroups _ hgroup) hselects.columns

/-- The admission of a selection followed by the reading of its row groups. -/
lemma readsSafely_admitted (hselects : file.Selects plan) {α : Type} {read : Result α}
    (hread : IsOk read) : file.ReadsSafely True plan
      (validateOwnedPlanResourceLimits file.metadata plan >>= fun _ => read) where
  ok _ hwithin := by
    rw [admission_eq_ok hfault h hselects hwithin, ok_bind]
    exact hread
  corrupt e he hcorrupt hfit := by
    obtain ⟨a, rfl⟩ := hread
    exact ErrorsIn.bind (not_isCorrupt_admission hfault h hselects hfit) (fun _ _ => .ok a) e he
      hcorrupt

/-- The single-threaded reader. -/
lemma readsSafely_serial : file.ReadsSafely (file.Selects plan) plan
    (file.readPlanBatchesSerial zstd plan) := by
  rw [readPlanBatchesSerial]
  cases hvalid : file.validateReadPlan plan with
  | error e =>
    refine ⟨fun hselects => ?_, fun e' he hcorrupt => ?_⟩
    · rw [validateReadPlan_eq_ok.mpr hselects] at hvalid
      cases hvalid
    · cases he
      exact absurd hcorrupt (not_isCorrupt_validateReadPlan _ hvalid)
  | ok u =>
    have hselects := validateReadPlan_eq_ok.mp hvalid
    have hsafe := readsSafely_admitted hfault h hselects
      (isOk_mapM.mpr fun id hid => isOk_readPlanRowGroup hfault h hselects hid)
    exact ⟨fun _ => hsafe.ok trivial, hsafe.corrupt⟩

lemma readsSafely_batches {result : Result ColumnBundleReadOutcome}
    (hreads : file.ReadsPlanBatches zstd plan result) :
    file.ReadsSafely (file.Selects plan) plan result := by
  rw [(opened_of_openFromSource h).readsPlanBatches_iff.mp hreads]
  exact (readsSafely_serial hfault h).map

lemma readsSafely_rowGroup (rowGroupId : UInt32) :
    file.ReadsSafely ((file.metadata.rowGroupById rowGroupId).isSome) (file.rowGroupPlan rowGroupId)
      (file.readRowGroupById zstd rowGroupId) := by
  have hserial : (fun batch => [batch]) <$> file.readRowGroupById zstd rowGroupId =
      file.readPlanBatchesSerial zstd (file.rowGroupPlan rowGroupId) := by
    rw [readRowGroupById, readPlanBatchesSerial, map_bind]
    refine bind_congr fun _ => ?_
    rw [map_bind]
    refine bind_congr fun _ => ?_
    rw [rowGroupPlan, List.mapM_cons, List.mapM_nil]
    rfl
  have hsafe : file.ReadsSafely (file.Selects (file.rowGroupPlan rowGroupId))
      (file.rowGroupPlan rowGroupId)
      ((fun batch => [batch]) <$> file.readRowGroupById zstd rowGroupId) :=
    hserial ▸ readsSafely_serial hfault h
  exact ⟨fun hgroup hwithin => isOk_map.mp
      (hsafe.ok ((opened_of_openFromSource h).selects_rowGroupPlan hgroup) hwithin),
    fun e he hcorrupt => hsafe.corrupt e (map_eq_error.mpr he) hcorrupt⟩

/-- A part of a plan: the row groups that are asked for, in the order of the plan. -/
lemma readsSafely_rowGroups {rowGroupIds : List UInt32} {result : Result ColumnBundleReadOutcome}
    (hreads : file.ReadsPlanRowGroups zstd plan rowGroupIds result) :
    file.ReadsSafely
      (file.Selects plan ∧ (∀ id ∈ rowGroupIds, id ∈ plan.rowGroupIds) ∧ rowGroupIds.Nodup)
      (plan.ofSelected (plan.rowGroupIds.filter (· ∈ rowGroupIds))) result := by
  cases hvalid : file.validateReadPlan plan with
  | error e =>
    have hresult : result = .error e := by
      cases hreads with
      | invalid herror =>
        rw [hvalid] at herror
        cases herror
        rfl
      | subset hok =>
        rw [hvalid] at hok
        cases hok
      | executed hok =>
        rw [hvalid] at hok
        cases hok
    refine ⟨fun haccepted => ?_, fun e' he hcorrupt => ?_⟩
    · rw [validateReadPlan_eq_ok.mpr haccepted.1] at hvalid
      cases hvalid
    · cases hresult.symm.trans he
      exact absurd hcorrupt (not_isCorrupt_validateReadPlan _ hvalid)
  | ok u =>
    have hselects := validateReadPlan_eq_ok.mp hvalid
    rw [(opened_of_openFromSource h).readsPlanRowGroups_iff hvalid] at hreads
    cases hsubset : plannedRowGroupSubset plan rowGroupIds with
    | error e =>
      rw [hsubset, error_bind] at hreads
      refine ⟨fun haccepted => ?_, fun e' he hcorrupt => ?_⟩
      · rw [plannedRowGroupSubset_eq_ok.mpr ⟨haccepted.2.1, haccepted.2.2, rfl⟩] at hsubset
        cases hsubset
      · cases hreads.symm.trans he
        exact absurd hcorrupt
          (ErrorsIn.bind errorsIn_checkPlanIds (fun _ _ => .ok _) _ hsubset)
    | ok selected =>
      obtain ⟨-, -, rfl⟩ := plannedRowGroupSubset_eq_ok.mp hsubset
      have hread : IsOk ((plan.rowGroupIds.filter (· ∈ rowGroupIds)).mapM
          (file.readPlanRowGroup zstd plan)) := isOk_mapM.mpr fun id hid =>
        isOk_readPlanRowGroup hfault h hselects (List.mem_of_mem_filter hid)
      have hsafe := readsSafely_admitted hfault h (hselects.part rowGroupIds) hread
      rw [hreads, hsubset, ok_bind]
      exact ReadsSafely.map ⟨fun _ => hsafe.ok trivial, hsafe.corrupt⟩

end

end FullyValidated

end ColumnBundleFile

/-! ### A file that expands -/

/-! Three compressed columns of almost `2 ^ 60` rows each.  Every payload decodes, and no two of
them overflow; all three do. -/

namespace ExpandingFile

/-- The names of the columns. -/
def stringTable : OcbStringTableV1 := ⟨1, ["a", "b", "c"], 0⟩

/-- A column of the file. -/
def column (i : UInt32) : OcbColumnDescV1 where
  columnId := i
  nameStringId := i
  physicalType := .i64
  logicalKind := .plain
  flags := 0
  dictionaryId := ocbNullU32
  scale := 0
  nullability := .nonNull
  reserved0 := 0
  fixedBinaryWidth := 0

/-- The schema of the three columns. -/
def schema : OcbSchemaV1 := ⟨1, .unchecked 4096 39 .stringTable, [column 0, column 1, column 2], 0⟩

/-- The chunk of a column, compressed to one byte. -/
def chunkObject (i : UInt32) : OcbColumnChunkObjectV1 where
  version := 1
  physicalType := .i64
  codec := .zstd
  flags := 0
  rowGroupId := 0
  columnId := i
  rowCount := 1152921504606846975
  uncompressedBytes := 9223372036854775800
  payload := [0]
  crc32c := 0

/-- The descriptor of the chunk of a column. -/
def chunk (i : UInt32) (offset : UInt64) : OcbColumnChunkDescV1 where
  rowGroupId := 0
  columnId := i
  physicalType := .i64
  codec := .zstd
  flags := 0
  valueRef := .unchecked offset 49 .columnChunk
  validityRef := .null
  rowCount := 1152921504606846975
  uncompressedBytes := 9223372036854775800

/-- The row group of all rows. -/
def rowGroup : OcbRowGroupDescV1 where
  rowGroupId := 0
  flags := 0
  baseRow := 0
  rowCount := 1152921504606846975
  chunkDescBegin := 0
  chunkDescCount := 3
  statBegin := 0
  statCount := 0
  firstKeyTupleRef := .null
  lastKeyTupleRef := .null

/-- The index of the row group. -/
def rowGroupIndex : OcbRowGroupIndexV1 :=
  ⟨1, 0, [rowGroup], [chunk 0 4287, chunk 1 4336, chunk 2 4385], [], 0⟩

/-- The root of the file. -/
def root : OcbRootV1 where
  version := 1
  flags := 0
  rowCount := 1152921504606846975
  columnCount := 3
  rowGroupCount := 1
  dictionaryCount := 0
  schemaRef := .unchecked 4135 152 .schema
  dictionaryIndexRef := .null
  rowGroupIndexRef := .unchecked 4434 444 .rowGroupIndex
  orderingProofRef := .null
  debugJsonRef := .null
  createdUnixNanos := 0
  contentFlags := 0
  crc32c := 0

/-- The page, which names the root. -/
def page : OcbBootstrapPageV1 where
  formatMajor := 1
  formatMinor := 0
  flags := 0
  pageSize := 4096
  fileUuid := List.replicate 16 0
  rootRef := .unchecked 4878 220 .root
  crc32c := 0

/-- The parts of the file. -/
def parts : List (List UInt8) :=
  [sealBytes page.fieldBytes, sealBytes stringTable.fieldBytes, sealBytes schema.fieldBytes,
    sealBytes (chunkObject 0).fieldBytes, sealBytes (chunkObject 1).fieldBytes,
    sealBytes (chunkObject 2).fieldBytes, sealBytes rowGroupIndex.fieldBytes,
    sealBytes root.fieldBytes]

/-- Limits that no single chunk of the file exceeds. -/
def limits : OcbResourceLimits where
  maxEncodedObjectBytes := 9223372036854775807
  maxCompressedChunkBytes := 9223372036854775807
  maxDecompressedChunkBytes := 9223372036854775807
  maxProjectedRowGroupBytes := 9223372036854775807
  maxOwnedSelectedCompressedBytes := 18446744073709551615
  maxOwnedDecodedMaterializedBytes := 18446744073709551615
  maxEncodedObjectBytes_lt := by decide
  maxCompressedChunkBytes_lt := by decide
  maxDecompressedChunkBytes_lt := by decide
  maxProjectedRowGroupBytes_lt := by decide

/-- What a compressed chunk decodes to. -/
def zeros : List UInt8 := List.replicate 9223372036854775800 0

/-- A decompressor that makes zeros of everything. -/
def zstd : ZstdCodec := fun _ _ => ⟨zeros, true⟩

lemma length_zeros : zeros.length = 9223372036854775800 := List.length_replicate

lemma parts_lengths : parts.map List.length = [4096, 39, 152, 49, 49, 49, 444, 220] := by
  simp only [parts, List.map_cons, List.map_nil, OcbStringTableV1.fieldBytes,
    OcbSchemaV1.fieldBytes, OcbColumnChunkObjectV1.fieldBytes, OcbRowGroupIndexV1.fieldBytes,
    page.length_sealBytes_fieldBytes rfl, length_sealBytes_objectBytes ocbStringTableHeader rfl,
    length_sealBytes_objectBytes ocbSchemaHeader rfl,
    length_sealBytes_objectBytes ocbColumnChunkHeader rfl,
    length_sealBytes_objectBytes ocbRowGroupIndexHeader rfl, root.length_sealBytes_fieldBytes]
  simp [stringTable, schema, chunkObject, rowGroupIndex, writeStringU32, OcbColumnDescV1.len,
    OcbRowGroupDescV1.len, OcbColumnChunkDescV1.len, ocbBootstrapPageLen, ocbRootV1Len]
  rfl

lemma length_flatten_parts : parts.flatten.length = 5098 := by
  rw [List.length_flatten, parts_lengths]
  rfl

/-- The file. -/
def source : OcbReadSource := .ofBytes parts.flatten (by rw [length_flatten_parts]; decide)

lemma fileLen_source : source.fileLen = 5098 := by
  rw [OcbReadSource.fileLen, source, OcbReadSource.ofBytes, length_flatten_parts]

lemma faultFree_source : source.FaultFree := OcbReadSource.faultFree_ofBytes _ _

/-- A budget of the largest size, of which some is spent. -/
def budget (charged : ℕ) (h : charged ≤ 18446744073709551615) : MetadataMaterializationBudget :=
  ⟨18446744073709551615, charged, h, by decide⟩

lemma read_schema : ∃ c, (OcbSchemaV1.readFromBytesWithBudget (sealBytes schema.fieldBytes)).run
    (.fromLimits limits) = (.ok { schema with crc32c := c }, budget 96 (by decide)) := by
  refine ⟨crc32c schema.fieldBytes, ?_⟩
  rw [schema.readFromBytesWithBudget_sealBytes rfl (by decide)]
  generalize crc32c _ = c
  rfl

lemma read_stringTable : ∃ c, (OcbStringTableV1.readFromBytesWithBudget
    (sealBytes stringTable.fieldBytes)).run (budget 96 (by decide)) =
      (.ok { stringTable with crc32c := c }, budget 171 (by decide)) := by
  refine ⟨crc32c stringTable.fieldBytes, ?_⟩
  rw [OcbStringTableV1.readFromBytesWithBudget, OcbStringTableV1.fieldBytes,
    show stringTable.version = 1 from rfl, readHeader_sealBytes_one _ rfl _ (by decide)]
  generalize crc32c _ = c
  refine (Fallible.run_bind_of_ok Fallible.run_lift).trans ?_
  refine (Fallible.run_bind_of_ok (a := (3, stringTable.strings.flatMap writeStringU32 ++
    writeU32 0)) (t := budget 96 (by decide)) rfl).trans ?_
  refine (Fallible.run_bind_of_ok (a := [1, 1, 1]) (t := budget 96 (by decide)) rfl).trans ?_
  rfl

lemma read_rowGroupIndex : ∃ c, (OcbRowGroupIndexV1.readFromBytesWithBudget
    (sealBytes rowGroupIndex.fieldBytes)).run (budget 171 (by decide)) =
      (.ok { rowGroupIndex with crc32c := c }, budget 571 (by decide)) := by
  refine ⟨crc32c rowGroupIndex.fieldBytes, ?_⟩
  rw [rowGroupIndex.readFromBytesWithBudget_sealBytes rfl (by decide) (by decide) (by decide)
    (by simp [rowGroupIndex])]
  generalize crc32c _ = c
  rfl

/-- The metadata of the file, up to the stored checksums. -/
def metadata (cRoot cSchema cStrings cIndex : UInt32) : OcbMetadataV1 where
  root := { root with crc32c := cRoot }
  stringTable := { stringTable with crc32c := cStrings }
  schema := { schema with crc32c := cSchema }
  dictionaryIndex := none
  rowGroupIndex := { rowGroupIndex with crc32c := cIndex }
  rowGroupPositionsById := []
  orderingProof := none
  fileLen := 5098
  appendable := false
  rootGeneration := 0
  previousRootGeneration := none
  resourceLimits := limits
  openMetadataMaterializedBytes := 571
  openAuxiliaryEncodedBytes := 0

lemma read_metadata (c : UInt32) : ∃ cSchema cStrings cIndex,
    (readMetadataObjectsWithResourceLimits source { root with crc32c := c } limits).run
      (.fromLimits limits) = (.ok (metadata c cSchema cStrings cIndex),
        budget 571 (by decide)) := by
  obtain ⟨cSchema, hschema⟩ := read_schema
  obtain ⟨cStrings, hstrings⟩ := read_stringTable
  obtain ⟨cIndex, hindex⟩ := read_rowGroupIndex
  have hread := run_readMetadataObjects source { root with crc32c := c } limits
    (OcbReadSource.readObjectBytes_part _ parts_lengths 2 rfl rfl rfl rfl (by decide) (by decide))
    hschema
    (OcbReadSource.readObjectBytes_part _ parts_lengths 1 rfl rfl rfl rfl (by decide) (by decide))
    hstrings rfl
    (OcbReadSource.readObjectBytes_part _ parts_lengths 6 rfl rfl rfl rfl (by decide) (by decide))
    hindex rfl
  refine ⟨cSchema, cStrings, cIndex, ?_⟩
  rw [hread, fileLen_source]
  rfl

/-- Up to its object, the check of a chunk accepts. -/
lemma validateChunkDesc_eq (cRoot cSchema cStrings cIndex : UInt32) {i : UInt32}
    {offset : UInt64} (hcolumn : ColumnsById.get schema.columns i = some (column i))
    (validation : OcbOpenValidationMode) :
    validateChunkDesc source zstd (metadata cRoot cSchema cStrings cIndex) rowGroup
        (chunk i offset) schema.columns validation limits =
      validateChunkPayload source zstd (chunk i offset) validation limits := by
  have hnull : (chunk i offset).validityRef.IsNull := OcbBodyRefV2.isNull_null
  have hexpected : (column i).expectedValueBytes (chunk i offset).rowCount.toNat =
      .ok 9223372036854775800 := by
    rw [OcbColumnDescV1.expectedValueBytes, show (column i).valueByteWidth = .ok 8 from rfl,
      ok_bind, show (chunk i offset).rowCount.toNat = 1152921504606846975 from rfl,
      checkedMul_of_lt (by decide)]
    rfl
  have hgroup : ¬ (chunk i offset).rowGroupId ≠ rowGroup.rowGroupId := not_not.mpr rfl
  have htype : ¬ (chunk i offset).physicalType ≠ (column i).physicalType := not_not.mpr rfl
  have hrows : ¬ (chunk i offset).rowCount ≠ rowGroup.rowCount := not_not.mpr rfl
  have hbytes : ¬ (chunk i offset).uncompressedBytes.toNat ≠ 9223372036854775800 :=
    not_not.mpr rfl
  rw [validateChunkDesc.eq_def, failIf_neg hgroup, ok_bind,
    show ColumnsById.get schema.columns (chunk i offset).columnId = _ from hcolumn, okOr_some,
    ok_bind, failIf_neg htype, ok_bind, failIf_neg hrows, ok_bind, hexpected, ok_bind,
    failIf_neg hbytes, ok_bind]
  dsimp only
  rw [if_pos hnull]
  cases validation <;> rfl

section Chunk

variable {i : UInt32} {offset : UInt64} {k : ℕ} (hpart : parts[k]? =
    some (sealBytes (chunkObject i).fieldBytes))
  (hoffset : offset.toNat = (([4096, 39, 152, 49, 49, 49, 444, 220] : List ℕ).take k).sum)
  (hlength : ([4096, 39, 152, 49, 49, 49, 444, 220] : List ℕ)[k]? = some 49)

include hpart hoffset hlength

lemma read_chunkObject : source.readObjectBytesWithResourceLimits (chunk i offset).valueRef
    .columnChunk limits = .ok (sealBytes (chunkObject i).fieldBytes) :=
  OcbReadSource.readObjectBytes_part _ parts_lengths k hpart rfl hoffset hlength (by decide)
    (by decide)

lemma read_header : validateColumnChunkObjectHeader source (chunk i offset) limits =
    .ok ((chunkObject i).fieldBytes.take 44) := by
  have hlen : (sealBytes (chunkObject i).fieldBytes).length = 49 :=
    length_sealBytes_objectBytes ocbColumnChunkHeader rfl _ _
  have hfields : (chunkObject i).fieldBytes.length = 49 := rfl
  obtain ⟨_, hvalid, -⟩ := bind_eq_ok.mp (read_chunkObject hpart hoffset hlength)
  have hread : source.readExactAt (chunk i offset).valueRef.offset.toNat
      ocbColumnChunkV1HeaderLen = .ok ((chunkObject i).fieldBytes.take 44) := by
    have hslice := OcbReadSource.readExactAt_slice parts k
      (by rw [length_flatten_parts]; decide) hpart offset.toNat 44 0
      (by rw [List.length_flatten, List.map_take, parts_lengths]; exact hoffset) (by omega)
    rw [List.drop_zero, take_sealBytes (by omega)] at hslice
    exact hslice
  have hlong : ¬ (chunk i offset).valueRef.length.toNat < ocbColumnChunkV1HeaderLen + 4 := by
    show ¬ (49 : UInt64).toNat < 44 + 4
    decide
  obtain ⟨hmagic, hversion, hmatches⟩ :
      ((chunkObject i).fieldBytes.take 44).take 8 = ocbColumnChunkHeader.magic ∧
        headerField ((chunkObject i).fieldBytes.take 44) 8 2 = 1 ∧
        HeaderMatches ((chunkObject i).fieldBytes.take 44) (chunk i offset) :=
    headerMatches_fieldBytes rfl rfl rfl rfl rfl rfl rfl
  rw [validateColumnChunkObjectHeader, hvalid, ok_bind, failIf_neg hlong, ok_bind, hread,
    ok_bind, failIf_neg (not_not.mpr hmagic), ok_bind, failIf_neg (not_not.mpr hversion), ok_bind,
    failIf_neg (not_not.mpr hmatches), ok_bind]
  rfl

/-- The chunk decodes to zeros. -/
lemma readAndDecode : readAndDecodeChunk source zstd (chunk i offset) limits = .ok zeros := by
  have hvalues : checkPrimitiveValueBytes (chunkObject i).physicalType
      (chunkObject i).rowCount.toNat (chunkObject i).uncompressedBytes.toNat = .ok () := by
    show checkPrimitiveValueBytes .i64 1152921504606846975 9223372036854775800 = .ok ()
    rw [checkPrimitiveValueBytes, OcbPhysicalTypeV1.primitiveByteWidth]
    dsimp only
    rw [checkedMul_of_lt (by decide), okOr_some, ok_bind]
    exact failIf_neg (by decide)
  have hobject : readColumnChunkFromReaderWithResourceLimits source (chunk i offset) limits =
      .ok { chunkObject i with crc32c := crc32c (chunkObject i).fieldBytes } := by
    rw [readColumnChunkFromReaderWithResourceLimits, read_header hpart hoffset hlength, ok_bind,
      read_chunkObject hpart hoffset hlength, ok_bind]
    exact (chunkObject i).readFromBytes_sealBytes rfl hvalues fun h => by cases h.1
  rw [readAndDecodeChunk, hobject, ok_bind]
  generalize crc32c (chunkObject i).fieldBytes = c
  have hpayload : OcbColumnChunkObjectV1.intoDecodedPayloadWithLimits zstd
      { chunkObject i with crc32c := c } limits.maxCompressedChunkBytes.toNat
      limits.maxDecompressedChunkBytes.toNat = .ok zeros :=
    OcbColumnChunkObjectV1.decodePayloadWithLimits_zstd rfl hvalues (List.cons_ne_nil _ _)
      (show 1 ≤ (9223372036854775807 : UInt64).toNat by decide) rfl length_zeros
      (show zeros.length ≤ (9223372036854775807 : UInt64).toNat by rw [length_zeros]; decide)
      (by rw [length_zeros]; decide)
  have hids : ¬ ((chunkObject i).rowGroupId ≠ (chunk i offset).rowGroupId ∨
      (chunkObject i).columnId ≠ (chunk i offset).columnId) := by
    rintro (hne | hne)
    · exact hne rfl
    · exact hne rfl
  have htype : ¬ (chunkObject i).physicalType ≠ (chunk i offset).physicalType := not_not.mpr rfl
  have hcodec : ¬ (chunkObject i).codec ≠ (chunk i offset).codec := not_not.mpr rfl
  have hrows : ¬ (chunkObject i).rowCount ≠ (chunk i offset).rowCount := not_not.mpr rfl
  have huncompressed : ¬ (chunkObject i).uncompressedBytes ≠
      (chunk i offset).uncompressedBytes := not_not.mpr rfl
  have hlen : ¬ zeros.length ≠ (chunk i offset).uncompressedBytes.toNat := not_not.mpr length_zeros
  rw [validateAndDecodeChunkObject, failIf_neg hids, ok_bind, failIf_neg htype, ok_bind,
    failIf_neg hcodec, ok_bind, failIf_neg hrows, ok_bind, failIf_neg huncompressed, ok_bind,
    hpayload, ok_bind, failIf_neg hlen]
  rfl

/-- The chunk passes the full validation. -/
lemma validate_chunk (cRoot cSchema cStrings cIndex : UInt32)
    (hcolumn : ColumnsById.get schema.columns i = some (column i)) :
    validateChunkDesc source zstd (metadata cRoot cSchema cStrings cIndex) rowGroup
      (chunk i offset) schema.columns .fullPayload limits = .ok () := by
  have hgraph : validateChunkDesc source zstd (metadata cRoot cSchema cStrings cIndex) rowGroup
      (chunk i offset) schema.columns .metadataGraph limits = .ok () := by
    rw [validateChunkDesc_eq _ _ _ _ hcolumn, validateChunkPayload,
      read_header hpart hoffset hlength]
    rfl
  obtain ⟨u, hstreaming⟩ := (chunkPaths_agree faultFree_source hgraph).streaming_isOk.mpr
    ⟨_, readAndDecode hpart hoffset hlength⟩
  rw [validateChunkDesc_eq _ _ _ _ hcolumn, validateChunkPayload,
    hstreaming, ok_bind, if_pos (show (chunk i offset).validityRef.IsNull from
      OcbBodyRefV2.isNull_null)]
  rfl

end Chunk

section Graph

variable (cRoot cSchema cStrings cIndex : UInt32)

lemma validate_chunks : validateChunks (fun chunk => validateChunkDesc source zstd
    (metadata cRoot cSchema cStrings cIndex) rowGroup chunk schema.columns .fullPayload limits)
      [chunk 0 4287, chunk 1 4336, chunk 2 4385] [] = .ok [0, 1, 2] := by
  have h0 := @validate_chunk 0 4287 3 rfl rfl rfl cRoot cSchema cStrings cIndex rfl
  have h1 := @validate_chunk 1 4336 4 rfl rfl rfl cRoot cSchema cStrings cIndex rfl
  have h2 := @validate_chunk 2 4385 5 rfl rfl rfl cRoot cSchema cStrings cIndex rfl
  rw [validateChunks, h0, ok_bind, failIf_neg (by decide), ok_bind, validateChunks, h1, ok_bind,
    failIf_neg (by decide), ok_bind, validateChunks, h2, ok_bind, failIf_neg (by decide), ok_bind]
  rfl

lemma run_rowGroupGraph (s : OpenState) : (validateRowGroupGraph source zstd
    (metadata cRoot cSchema cStrings cIndex) schema.columns .fullPayload limits).run s =
      (.ok [(0, 0)], s) := by
  have hrowGroup : (validateRowGroup source zstd (metadata cRoot cSchema cStrings cIndex)
      schema.columns .fullPayload limits rowGroup 0 .start).run s =
        (.ok ⟨[(0, 0)], 1152921504606846975, 3, 0⟩, s) := by
    rw [validateRowGroup]
    refine (Fallible.run_bind_of_ok (a := ⟨[(0, 0)], 1152921504606846975, 3, 0⟩) (t := s)
      rfl).trans ?_
    refine (Fallible.run_bind_of_ok (a := ()) (t := s) rfl).trans ?_
    refine (Fallible.run_bind_of_ok (a := ()) (t := s) rfl).trans ?_
    have hslice : checkedChunksForRowGroup (metadata cRoot cSchema cStrings cIndex) rowGroup =
        .ok [chunk 0 4287, chunk 1 4336, chunk 2 4385] := rfl
    rw [hslice, Fallible.lift_ok_bind, validate_chunks, Fallible.lift_ok_bind]
    rfl
  rw [validateRowGroupGraph]
  exact (Fallible.run_bind_of_ok (Fallible.run_bind_of_ok hrowGroup)).trans rfl

/-- The graph of the file is in order, and its payloads are. -/
lemma run_metadataGraph (s : OpenState) : (validateMetadataGraph source zstd
    (metadata cRoot cSchema cStrings cIndex) 3 .fullPayload limits none).run s =
      (.ok [(0, 0)], s) := by
  have hcolumns : validateSchemaGraph (metadata cRoot cSchema cStrings cIndex) =
      .ok schema.columns := rfl
  rw [validateMetadataGraph]
  refine (Fallible.run_bind_of_ok (a := ()) (t := s) rfl).trans ?_
  rw [hcolumns, Fallible.lift_ok_bind]
  refine (Fallible.run_bind_of_ok (a := ()) (t := s) rfl).trans ?_
  refine (Fallible.run_bind_of_ok (a := ()) (t := s) rfl).trans ?_
  rw [Fallible.run_bind_of_ok (run_rowGroupGraph ..)]
  rfl

end Graph

/-- The metadata of the opened file. -/
def opened (cRoot cSchema cStrings cIndex : UInt32) : OcbMetadataV1 :=
  { metadata cRoot cSchema cStrings cIndex with rowGroupPositionsById := [(0, 0)] }

lemma run_loadV1Root (c : UInt32) : ∃ cSchema cStrings cIndex,
    ((loadV1Root source zstd { root with crc32c := c } .fullPayload limits).run
      ⟨.new limits, .fromLimits limits⟩).1 = .ok (opened c cSchema cStrings cIndex) := by
  obtain ⟨cSchema, cStrings, cIndex, hread⟩ := read_metadata c
  have hmetered := Opening.run_metered (s := ⟨.new limits, .fromLimits limits⟩) hread
  refine ⟨cSchema, cStrings, cIndex, ?_⟩
  have hcount : okOr (checkedMul 32 (metadata c cSchema cStrings cIndex).root.columnCount.toNat
      (metadata c cSchema cStrings cIndex).root.rowGroupCount.toNat)
      (ocbCorruptFile "OCB v1 root column chunk count overflows") = .ok 3 := rfl
  rw [loadV1Root, Fallible.run_bind_of_ok hmetered, hcount, Fallible.lift_ok_bind,
    Fallible.run_bind_of_ok (run_metadataGraph ..)]
  rfl

/-- The columns of the opened file. -/
def columns : List BundleColumn :=
  [⟨0, ⟨"a", by decide⟩, .i64, .plain, none, 0, false⟩,
    ⟨1, ⟨"b", by decide⟩, .i64, .plain, none, 0, false⟩,
    ⟨2, ⟨"c", by decide⟩, .i64, .plain, none, 0, false⟩]

/-- The opened file. -/
def openedFile (cRoot cSchema cStrings cIndex : UInt32) : ColumnBundleFile :=
  ⟨source, opened cRoot cSchema cStrings cIndex, columns, limits⟩

/-- The file opens in full-payload mode. -/
lemma openFromSource : ∃ cRoot cSchema cStrings cIndex,
    ColumnBundleFile.openFromSource source zstd .fullPayload limits =
      .ok (openedFile cRoot cSchema cStrings cIndex) := by
  have hopen : readMetadataFromSourceWithValidationAndResourceLimits source zstd .fullPayload
      limits = ((loadV1Root source zstd root.sealed .fullPayload limits).run
        ⟨.new limits, .fromLimits limits⟩).1 :=
    readMetadata_v1File parts page root limits (by rw [length_flatten_parts]; decide) parts_lengths
      rfl rfl rfl rfl rfl rfl 7 rfl rfl rfl zstd .fullPayload (by decide)
  have hsealed : root.sealed = { root with crc32c := crc32c root.fieldBytes } := rfl
  rw [hsealed] at hopen
  revert hopen
  generalize crc32c root.fieldBytes = cRoot
  intro hopen
  obtain ⟨cSchema, cStrings, cIndex, hload⟩ := run_loadV1Root cRoot
  refine ⟨cRoot, cSchema, cStrings, cIndex, ?_⟩
  have hvalid : validateMetadata (opened cRoot cSchema cStrings cIndex) = .ok () := rfl
  have hpreflight : preflightResolvedColumnsMaterializedBytes
      (opened cRoot cSchema cStrings cIndex) = .ok 171 := rfl
  have hcolumns : resolveColumns (opened cRoot cSchema cStrings cIndex) = .ok columns := by
    have hresolved : schema.columns.mapM (resolveColumn (opened cRoot cSchema cStrings cIndex)) =
        .ok columns := rfl
    have hsorted : columns.Pairwise fun a b => decide (a.id ≤ b.id) = true := by decide
    rw [resolveColumns]
    exact (congrArg (· >>= _) hresolved).trans
      (by rw [ok_bind, List.mergeSort_of_pairwise hsorted]; rfl)
  rw [ColumnBundleFile.openFromSource, hopen, hload, ok_bind, ColumnBundleFile.fromMetadata, hvalid,
    Fallible.lift_ok_bind, Fallible.run_bind_of_ok (a := ()) (t := budget 571 (by decide)) rfl,
    hpreflight, Fallible.lift_ok_bind,
    Fallible.run_bind_of_ok (a := ()) (t := budget 742 (by decide)) rfl, hcolumns]
  rfl

end ExpandingFile

/-- All columns of the expanding file together are refused as a corruption, although every payload
has been validated. -/
theorem readRowGroupById_corrupt : ∃ source zstd limits file, source.FaultFree ∧
    ColumnBundleFile.openFromSource source zstd .fullPayload limits = .ok file ∧
    ∃ rowGroupId, (file.metadata.rowGroupById rowGroupId).isSome ∧
      ∃ e, file.readRowGroupById zstd rowGroupId = .error e ∧ e.IsCorrupt := by
  obtain ⟨cRoot, cSchema, cStrings, cIndex, h⟩ := ExpandingFile.openFromSource
  refine ⟨_, _, _, _, ExpandingFile.faultFree_source, h, 0, rfl, ocbCorruptFile
    "OCB selected decoded byte accounting overflows", ?_,
    ArcadiaTioError.isCorrupt_ocbCorruptFile _⟩
  have hselects : (ExpandingFile.openedFile cRoot cSchema cStrings cIndex).Selects
      ((ExpandingFile.openedFile cRoot cSchema cStrings cIndex).rowGroupPlan 0) :=
    (ColumnBundleFile.opened_of_openFromSource h).selects_rowGroupPlan rfl
  have hvalid := ColumnBundleFile.validateReadPlan_eq_ok.mpr hselects
  rw [ColumnBundleFile.readRowGroupById, hvalid, ok_bind]
  rfl

end ArcadiaTio.Ocb
