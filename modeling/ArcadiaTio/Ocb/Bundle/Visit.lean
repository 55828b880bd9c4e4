import ArcadiaTio.Ocb.Bundle.Resources
import ArcadiaTio.Ocb.Bundle.Subset

/-!
# Visiting and preparing row groups

A visitor is handed the batches of a plan in its order, read by one thread or by the executor in
windowed mode.  A preparation works on the batches while later ones are read, by the executor in
sliding mode, and what it makes of them is committed in the order of the plan.  Both end with the
rows of all row groups when nothing fails and every callback says to continue.
-/

namespace ArcadiaTio.Ocb

open ArcadiaTio.Lib

/-- The options of a visit. -/
structure ColumnBundleReadCursorOptions where
  maxInFlightRowGroups : ℕ
  ordered : Bool

/-- How far an execution got; what it measured on the way is left out. -/
structure ColumnBundleReadCursorReport where
  baseReport : ColumnBundleReadReport
  batchesYielded : ℕ
  rowsYielded : ℕ
  cancelled : Bool

/-- What a parallel visit has done. -/
structure ColumnBundleParallelPrepareReport where
  cursorReport : ColumnBundleReadCursorReport
  rowGroupsOrderedCommitted : ℕ
  rowsOrderedCommitted : ℕ
  orderedTerminalCompleted : Bool

/-- The options ask for what a visit does. -/
def validateReadCursorOptions (options : ColumnBundleReadCursorOptions) : Result Unit := do
  failIf (options.maxInFlightRowGroups = 0)
    (ocbInvalidInput "OCB read cursor max_in_flight_row_groups must be greater than zero")
  failIf (¬ options.ordered)
    (.unimplemented "OCB read cursor unordered mode is not implemented yet")

/-- How many row groups are read at a time. -/
def visitWaveSize (plan : ColumnBundleReadPlan) (options : ColumnBundleReadCursorOptions) : ℕ :=
  min (max plan.report.effectiveThreads 1) (max options.maxInFlightRowGroups 1)

/-- The rows of the tasks that an execution has committed. -/
def rowsOrderedCommitted (tasks : List ParallelPrepareTaskSpec) (outcome : BoundedOrderedOutcome) :
    ℕ :=
  (tasks.take outcome.rowGroupsOrderedCommitted).foldl
    (fun rows task => saturatingAdd 64 rows task.rowCount.toNat) 0

/-- The report of an execution of tasks. -/
def cursorReportOf (baseReport : ColumnBundleReadReport) (tasks : List ParallelPrepareTaskSpec)
    (outcome : BoundedOrderedOutcome) : ColumnBundleReadCursorReport where
  baseReport
  batchesYielded := outcome.rowGroupsOrderedCommitted
  rowsYielded := rowsOrderedCommitted tasks outcome
  cancelled := outcome.cancelled

/-- One more batch has been handed over. -/
def ColumnBundleReadCursorReport.yielded (report : ColumnBundleReadCursorReport)
    (rowCount : UInt64) : ColumnBundleReadCursorReport :=
  { report with
    batchesYielded := saturatingAdd usizeBits report.batchesYielded 1
    rowsYielded := saturatingAdd 64 report.rowsYielded rowCount.toNat }

namespace ColumnBundleFile

variable (file : ColumnBundleFile) (zstd : ZstdCodec) (plan : ColumnBundleReadPlan)
  (rowGroupIds : List UInt32)

/-! ### Visiting -/

section Visiting

variable {S : Type} (visitor : S → ColumnBatch → S × Result ColumnBundleVisitControl)

/-- Read one row group after the other, and hand each to the visitor. -/
def visitSerially : List UInt32 → ColumnBundleReadCursorReport → S →
    Result ColumnBundleReadCursorReport × S
  | [], report, s => (.ok report, s)
  | rowGroupId :: rest, report, s =>
    match file.readPlanRowGroup zstd plan rowGroupId with
    | .error error => (.error error, s)
    | .ok batch =>
      let visited := visitor s batch
      match visited.2 with
      | .error error => (.error error, visited.1)
      | .ok .continue => visitSerially rest (report.yielded batch.rowCount) visited.1
      | .ok .stop => (.ok { report.yielded batch.rowCount with cancelled := true }, visited.1)

/-- The callbacks that hand every batch to the visitor. -/
def visitCallbacks : OrderedCallbacks ColumnBatch ColumnBatch S where
  read task := file.readPlanRowGroup zstd plan task.rowGroupId
  prepare _ batch := .ok batch
  orderedCommit s _ batch := visitor s batch

/-- What the visit of a plan may return, and the state of the visitor afterwards. -/
inductive VisitsExecutionPlan (options : ColumnBundleReadCursorOptions) (s : S) :
    Result ColumnBundleReadCursorReport → S → Prop
  | empty (hempty : plan.rowGroupIds = []) :
      VisitsExecutionPlan options s (.ok ⟨plan.report, 0, 0, false⟩) s
  | limits {error : ArcadiaTioError} (hempty : plan.rowGroupIds ≠ [])
      (h : validateContiguousInFlightPlanResourceLimits file.metadata plan
        (visitWaveSize plan options) = .error error) : VisitsExecutionPlan options s (.error error) s
  | loop (hempty : plan.rowGroupIds ≠ [])
      (h : validateContiguousInFlightPlanResourceLimits file.metadata plan
        (visitWaveSize plan options) = .ok ()) (hwave : visitWaveSize plan options ≤ 1) :
      VisitsExecutionPlan options s
        (file.visitSerially zstd plan visitor plan.rowGroupIds ⟨plan.report, 0, 0, false⟩ s).1
        (file.visitSerially zstd plan visitor plan.rowGroupIds ⟨plan.report, 0, 0, false⟩ s).2
  | tasks {error : ArcadiaTioError} (hempty : plan.rowGroupIds ≠ [])
      (h : validateContiguousInFlightPlanResourceLimits file.metadata plan
        (visitWaveSize plan options) = .ok ()) (hwave : ¬ visitWaveSize plan options ≤ 1)
      (htasks : file.boundedOrderedTasksForPlan plan = .error error) :
      VisitsExecutionPlan options s (.error error) s
  | parallel {tasks : List ParallelPrepareTaskSpec} {outcome : Result BoundedOrderedOutcome}
      {s' : S} (hempty : plan.rowGroupIds ≠ [])
      (h : validateContiguousInFlightPlanResourceLimits file.metadata plan
        (visitWaveSize plan options) = .ok ()) (hwave : ¬ visitWaveSize plan options ≤ 1)
      (htasks : file.boundedOrderedTasksForPlan plan = .ok tasks)
      (hexecutes : ExecutesBoundedOrdered tasks plan.report (visitWaveSize plan options) .windowed
        (file.visitCallbacks zstd plan visitor) s outcome s') :
      VisitsExecutionPlan options s (cursorReportOf plan.report tasks <$> outcome) s'

/-- The plan of the row groups that are visited. -/
def visitedPlan (options : ColumnBundleReadCursorOptions) : Result ColumnBundleReadPlan := do
  file.validateReadPlan plan
  validateReadCursorOptions options
  let selected ← plannedRowGroupSubset plan rowGroupIds
  return plan.ofSelected selected

/-- What the visit of some row groups of a plan may return. -/
inductive VisitsPlanRowGroups (options : ColumnBundleReadCursorOptions) (s : S) :
    Result ColumnBundleReadCursorReport → S → Prop
  | refused {error : ArcadiaTioError}
      (h : file.visitedPlan plan rowGroupIds options = .error error) :
      VisitsPlanRowGroups options s (.error error) s
  | visited {executed : ColumnBundleReadPlan} {result : Result ColumnBundleReadCursorReport}
      {s' : S} (h : file.visitedPlan plan rowGroupIds options = .ok executed)
      (hvisits : file.VisitsExecutionPlan zstd executed visitor options s result s') :
      VisitsPlanRowGroups options s result s'

end Visiting

/-! ### Preparing -/

/-- The task of one row group, with the messages of its caller. -/
def rowGroupTask (notFound rowRange : String) (task : UInt32 × ℕ) :
    Result ParallelPrepareTaskSpec := do
  let rowGroup ← okOr (file.metadata.rowGroupById task.1) (ocbCorruptFile notFound)
  let rowEnd ← okOr (checkedAdd 64 rowGroup.baseRow.toNat rowGroup.rowCount.toNat)
    (ocbCorruptFile rowRange)
  return {
    selectedRowGroupOrdinal := task.2, rowGroupId := task.1, baseRow := rowGroup.baseRow
    rowEnd, rowCount := rowGroup.rowCount }

/-- The tasks of a preparation, when its row groups are admitted. -/
def parallelPrepareTasksAndReport (maxInFlightRowGroups : ℕ) :
    Result (List ParallelPrepareTaskSpec × ColumnBundleReadReport) := do
  file.validateReadPlan plan
  let selected ← plannedRowGroupSubset plan rowGroupIds
  validateSlidingInFlightPlanResourceLimits file.metadata (plan.ofSelected selected)
    maxInFlightRowGroups
  let tasks ← selected.zipIdx.mapM (file.rowGroupTask "OCB parallel prepare row group not found"
    "OCB parallel prepare row range overflows")
  return (tasks, (plan.ofSelected selected).report)

/-- Read the row group of a task, and compare the batch with the task. -/
def readPreparedRowGroup (task : ParallelPrepareTaskSpec) : Result ColumnBatch := do
  let batch ← file.readPlanRowGroup zstd plan task.rowGroupId
  failIf (batch.rowGroupId ≠ task.rowGroupId ∨ batch.baseRow ≠ task.baseRow ∨
      batch.rowCount ≠ task.rowCount)
    (ocbCorruptFile
      "OCB parallel prepare decoded batch context does not match row-group metadata")
  return batch

section Preparing

variable {S T : Type} (prepare : ParallelPrepareTaskSpec → ColumnBatch → Result T)
  (orderedCommit : S → ParallelPrepareTaskSpec → T → S × Result ColumnBundleVisitControl)

/-- The callbacks of a visit that prepares what it has read. -/
def prepareCallbacks : OrderedCallbacks ColumnBatch T S where
  read := file.readPreparedRowGroup zstd plan
  prepare
  orderedCommit

/-- The report of a preparation. -/
def parallelPrepareReportOf (baseReport : ColumnBundleReadReport)
    (tasks : List ParallelPrepareTaskSpec) (outcome : BoundedOrderedOutcome) :
    ColumnBundleParallelPrepareReport where
  cursorReport := cursorReportOf baseReport tasks outcome
  rowGroupsOrderedCommitted := outcome.rowGroupsOrderedCommitted
  rowsOrderedCommitted := rowsOrderedCommitted tasks outcome
  orderedTerminalCompleted := outcome.orderedTerminalCompleted

/-- What the preparation of some row groups of a plan may return, and the state of the commit
callback afterwards. -/
inductive PreparesPlanRowGroups (maxInFlightRowGroups : ℕ) (s : S) :
    Result ColumnBundleParallelPrepareReport → S → Prop
  | refused {error : ArcadiaTioError}
      (h : file.parallelPrepareTasksAndReport plan rowGroupIds maxInFlightRowGroups =
        .error error) : PreparesPlanRowGroups maxInFlightRowGroups s (.error error) s
  | executed {tasks : List ParallelPrepareTaskSpec} {report : ColumnBundleReadReport}
      {outcome : Result BoundedOrderedOutcome} {s' : S}
      (h : file.parallelPrepareTasksAndReport plan rowGroupIds maxInFlightRowGroups =
        .ok (tasks, report))
      (hexecutes : ExecutesBoundedOrdered tasks report maxInFlightRowGroups .sliding
        (file.prepareCallbacks zstd plan prepare orderedCommit) s outcome s') :
      PreparesPlanRowGroups maxInFlightRowGroups s (parallelPrepareReportOf report tasks <$> outcome)
        s'

end Preparing

end ColumnBundleFile

/-! ### The rows of row groups -/

/-- The rows of a row group; an unknown one has none. -/
def OcbMetadataV1.rowsOf (m : OcbMetadataV1) (rowGroupId : UInt32) : ℕ :=
  (m.rowGroupById rowGroupId).elim 0 fun rowGroup => rowGroup.rowCount.toNat

/-- The rows of some row groups. -/
def OcbMetadataV1.selectedRows (m : OcbMetadataV1) (rowGroupIds : List UInt32) : ℕ :=
  (rowGroupIds.map m.rowsOf).sum

namespace MetadataInvariant

variable {m : OcbMetadataV1}

lemma rowsOf_of_mem (h : MetadataInvariant m) {rowGroup : OcbRowGroupDescV1}
    (hmem : rowGroup ∈ m.rowGroupIndex.rowGroups) :
    m.rowsOf rowGroup.rowGroupId = rowGroup.rowCount.toNat := by
  rw [OcbMetadataV1.rowsOf, (h.rowGroupById _ _).mpr ⟨hmem, rfl⟩]
  rfl

/-- All row groups together have the rows of the file. -/
lemma selectedRows_all (h : MetadataInvariant m) :
    m.selectedRows (m.rowGroupIndex.rowGroups.map OcbRowGroupDescV1.rowGroupId) =
      m.root.rowCount.toNat := by
  have hsum := h.rows.sum_eq
  rw [Nat.zero_add, List.map_map] at hsum
  rw [OcbMetadataV1.selectedRows, List.map_map, ← hsum]
  congr 1
  refine List.map_congr_left fun rowGroup hmem => ?_
  exact h.rowsOf_of_mem hmem

/-- Distinct row groups have at most the rows of the file. -/
lemma selectedRows_lt (h : MetadataInvariant m) {rowGroupIds : List UInt32}
    (hnodup : rowGroupIds.Nodup)
    (hknown : ∀ id ∈ rowGroupIds, (m.rowGroupById id).isSome = true) :
    m.selectedRows rowGroupIds < 2 ^ 64 := by
  have hsub : rowGroupIds ⊆ m.rowGroupIndex.rowGroups.map OcbRowGroupDescV1.rowGroupId := by
    intro id hid
    obtain ⟨rowGroup, hrowGroup⟩ := Option.isSome_iff_exists.mp (hknown id hid)
    obtain ⟨hmem, rfl⟩ := (h.rowGroupById id rowGroup).mp hrowGroup
    exact List.mem_map_of_mem hmem
  obtain ⟨part, hperm, hpart⟩ := hnodup.subperm hsub
  have hle := (hpart.map m.rowsOf).sum_le_sum fun _ _ => Nat.zero_le _
  rw [(hperm.map m.rowsOf).sum_eq] at hle
  have hall := h.selectedRows_all
  rw [OcbMetadataV1.selectedRows] at hall
  rw [hall] at hle
  exact lt_of_le_of_lt hle m.root.rowCount.toNat_lt

end MetadataInvariant

namespace ColumnBundleFile

variable {file : ColumnBundleFile} {zstd : ZstdCodec} {plan : ColumnBundleReadPlan}
  {rowGroupIds selected : List UInt32}

/-- A task describes a row group. -/
structure TaskOf (file : ColumnBundleFile) (id : UInt32) (task : ParallelPrepareTaskSpec) :
    Prop where
  rowGroupId : task.rowGroupId = id
  rowGroup : ∃ rowGroup, file.metadata.rowGroupById id = some rowGroup ∧
    task.baseRow = rowGroup.baseRow ∧ task.rowCount = rowGroup.rowCount

/-- There is a task for each known row group. -/
lemma Opened.exists_rowGroupTasks (h : file.Opened)
    (hknown : ∀ id ∈ selected, (file.metadata.rowGroupById id).isSome = true)
    (notFound rowRange : String) : ∃ tasks,
      selected.zipIdx.mapM (file.rowGroupTask notFound rowRange) = .ok tasks ∧
        List.Forall₂ file.TaskOf selected tasks := by
  have hok : ∀ task ∈ selected.zipIdx, IsOk (file.rowGroupTask notFound rowRange task) := by
    rintro ⟨id, ordinal⟩ htask
    obtain ⟨rowGroup, hrowGroup⟩ := Option.isSome_iff_exists.mp
      (hknown id (List.fst_mem_of_mem_zipIdx htask))
    have hmem := (h.invariant.rowGroupById id rowGroup).mp hrowGroup
    rw [rowGroupTask, hrowGroup, okOr_some, ok_bind,
      checkedAdd_of_lt (h.invariant.rowEnd_lt hmem.1)]
    exact ⟨_, rfl⟩
  obtain ⟨tasks, htasks⟩ := isOk_mapM.mpr hok
  have hforall : List.Forall₂ (fun task spec => file.TaskOf (Prod.fst task) spec) selected.zipIdx
      tasks := by
    refine (mapM_eq_ok.mp htasks).imp fun task spec hspec => ?_
    obtain ⟨rowGroup, hrowGroup, hspec⟩ := bind_eq_ok.mp hspec
    obtain ⟨rowEnd, -, hspec⟩ := bind_eq_ok.mp hspec
    cases hspec
    exact ⟨rfl, rowGroup, okOr_eq_ok.mp hrowGroup, rfl, rfl⟩
  have hids : selected.zipIdx.map Prod.fst = selected := by simp
  refine ⟨tasks, htasks, ?_⟩
  rw [← hids]
  exact List.forall₂_map_left_iff.mpr hforall

lemma TaskOf.rowCount {id : UInt32} {task : ParallelPrepareTaskSpec} (h : file.TaskOf id task) :
    task.rowCount.toNat = file.metadata.rowsOf id := by
  obtain ⟨rowGroup, hrowGroup, -, hrows⟩ := h.rowGroup
  rw [OcbMetadataV1.rowsOf, hrowGroup, hrows]
  rfl

/-- The rows of the tasks are those of their row groups. -/
lemma rowsOrderedCommitted_of_tasks {tasks : List ParallelPrepareTaskSpec}
    (htasks : List.Forall₂ file.TaskOf selected tasks)
    (hfits : file.metadata.selectedRows selected < 2 ^ 64) :
    rowsOrderedCommitted tasks ⟨tasks.length, false, true⟩ =
      file.metadata.selectedRows selected := by
  have hmap : tasks.map (fun task => task.rowCount.toNat) =
      selected.map file.metadata.rowsOf := by
    induction htasks with
    | nil => rfl
    | cons htask _ ih =>
      rw [OcbMetadataV1.selectedRows, List.map_cons, List.sum_cons] at hfits
      rw [List.map_cons, List.map_cons, htask.rowCount,
        ih (by rw [OcbMetadataV1.selectedRows]; omega)]
  rw [OcbMetadataV1.selectedRows, ← hmap] at hfits ⊢
  rw [rowsOrderedCommitted]
  dsimp only
  rw [List.take_length, foldl_saturatingAdd _ _ (by omega), Nat.zero_add, Nat.min_eq_left (by omega)]

/-- What is read for an id is the row group of this id. -/
lemma Opened.of_readPlanRowGroup (h : file.Opened) {id : UInt32} {batch : ColumnBatch}
    (hread : file.readPlanRowGroup zstd plan id = .ok batch) :
    ∃ rowGroup, file.metadata.rowGroupById id = some rowGroup ∧ batch.rowGroupId = id ∧
      batch.baseRow = rowGroup.baseRow ∧ batch.rowCount = rowGroup.rowCount := by
  have hid := h.rowGroupId_of_readPlanRowGroup hread
  obtain ⟨rowGroup, hrowGroup, hread⟩ := bind_eq_ok.mp hread
  obtain ⟨_, -, hread⟩ := bind_eq_ok.mp hread
  obtain ⟨_, -, hread⟩ := bind_eq_ok.mp hread
  cases hread
  exact ⟨rowGroup, okOr_eq_ok.mp hrowGroup, hid, rfl, rfl⟩

lemma effectiveThreads_executionReportForPlan (plan : ColumnBundleReadPlan) (count : ℕ) :
    0 < (executionReportForPlan plan count).effectiveThreads := by
  show 0 < (effectiveThreads _ count).1
  rw [effectiveThreads]
  split_ifs <;> dsimp only <;> omega

/-! ### When every callback says to continue -/

section Continuing

variable {S : Type} {visitor : S → ColumnBatch → S × Result ColumnBundleVisitControl} {s : S}

/-- The row groups can be read, and from every state that has `P` the visitor says to continue. -/
def VisitContinues (file : ColumnBundleFile) (zstd : ZstdCodec) (plan : ColumnBundleReadPlan)
    (visitor : S → ColumnBatch → S × Result ColumnBundleVisitControl) (P : S → Prop)
    (rowGroupIds : List UInt32) : Prop :=
  ∀ id ∈ rowGroupIds, ∃ batch, file.readPlanRowGroup zstd plan id = .ok batch ∧
    ∀ s, P s → P (visitor s batch).1 ∧ (visitor s batch).2 = .ok .continue

/-- The loop of the visitor goes through all row groups. -/
lemma Opened.exists_visitSerially (h : file.Opened) {P : S → Prop}
    (hvisit : file.VisitContinues zstd plan visitor P selected) (hs : P s)
    {report : ColumnBundleReadCursorReport}
    (hfits : report.rowsYielded + file.metadata.selectedRows selected < 2 ^ 64) :
    ∃ report' s', file.visitSerially zstd plan visitor selected report s = (.ok report', s') ∧
      P s' ∧ report'.cancelled = report.cancelled ∧
      report'.rowsYielded = report.rowsYielded + file.metadata.selectedRows selected := by
  induction selected generalizing report s with
  | nil => exact ⟨report, s, rfl, hs, rfl, rfl⟩
  | cons id rest ih =>
    obtain ⟨batch, hread, hcontinue⟩ := hvisit id List.mem_cons_self
    obtain ⟨hnext, hcontrol⟩ := hcontinue s hs
    have hrows : batch.rowCount.toNat = file.metadata.rowsOf id := by
      obtain ⟨rowGroup, hrowGroup, -, -, hcount⟩ := h.of_readPlanRowGroup hread
      rw [OcbMetadataV1.rowsOf, hrowGroup, hcount]
      rfl
    have hsum : file.metadata.selectedRows (id :: rest) =
        file.metadata.rowsOf id + file.metadata.selectedRows rest := by
      rw [OcbMetadataV1.selectedRows, List.map_cons, List.sum_cons]
      rfl
    have hyielded : (report.yielded batch.rowCount).rowsYielded =
        report.rowsYielded + file.metadata.rowsOf id := by
      show saturatingAdd 64 report.rowsYielded batch.rowCount.toNat = _
      rw [hrows, saturatingAdd]
      omega
    have hrest : (report.yielded batch.rowCount).rowsYielded +
        file.metadata.selectedRows rest < 2 ^ 64 := by
      omega
    obtain ⟨report', s', hvisited, hend, hcancelled, htotal⟩ :=
      ih (fun id hid => hvisit id (List.mem_cons_of_mem _ hid)) hnext hrest
    refine ⟨report', s', ?_, hend, hcancelled, by omega⟩
    simp only [visitSerially, hread, hcontrol]
    exact hvisited

/-- A visit that nothing ends yields all rows of its row groups, however it is scheduled. -/
theorem Opened.visitsPlanRowGroups_of_continue (h : file.Opened)
    {options : ColumnBundleReadCursorOptions} {executed : ColumnBundleReadPlan}
    (hplan : file.visitedPlan plan rowGroupIds options = .ok executed)
    (hlimits : validateContiguousInFlightPlanResourceLimits file.metadata executed
      (visitWaveSize executed options) = .ok ()) {P : S → Prop}
    (hvisit : file.VisitContinues zstd plan visitor P executed.rowGroupIds) (hs : P s) :
    ∃ report t, P t ∧ report.cancelled = false ∧
      report.rowsYielded = file.metadata.selectedRows executed.rowGroupIds ∧
      ∀ result s', file.VisitsPlanRowGroups zstd plan rowGroupIds visitor options s result s' ↔
        result = .ok report ∧ s' = t := by
  obtain ⟨_, hvalid, hsubset⟩ := bind_eq_ok.mp hplan
  obtain ⟨_, -, hsubset⟩ := bind_eq_ok.mp hsubset
  obtain ⟨selected, hselected, hexecuted⟩ := bind_eq_ok.mp hsubset
  cases hexecuted
  have hmem : ∀ id ∈ selected, id ∈ plan.rowGroupIds := fun id hid =>
    mem_of_plannedRowGroupSubset hselected hid
  have hknown : ∀ id ∈ selected, (file.metadata.rowGroupById id).isSome = true := fun id hid =>
    known_of_validateReadPlan hvalid id (hmem id hid)
  have hnodup : selected.Nodup := by
    obtain ⟨-, -, rfl⟩ := plannedRowGroupSubset_eq_ok.mp hselected
    exact (nodup_of_validateReadPlan hvalid).filter _
  have hfits := h.invariant.selectedRows_lt hnodup hknown
  -- the relation of the executed plan decides
  suffices hexecutes : ∃ report t, P t ∧ report.cancelled = false ∧
      report.rowsYielded = file.metadata.selectedRows selected ∧
      ∀ result s', file.VisitsExecutionPlan zstd (plan.ofSelected selected) visitor options s
        result s' ↔ result = .ok report ∧ s' = t by
    obtain ⟨report, t, ht, hcancelled, hrows, hiff⟩ := hexecutes
    refine ⟨report, t, ht, hcancelled, hrows, fun result s' => ?_⟩
    rw [← hiff]
    constructor
    · intro hvisits
      cases hvisits with
      | refused herror =>
        rw [hplan] at herror
        cases herror
      | visited hok hvisits =>
        rw [hplan] at hok
        cases hok
        exact hvisits
    · exact .visited hplan
  by_cases hempty : selected = []
  · refine ⟨⟨(plan.ofSelected selected).report, 0, 0, false⟩, s, hs, rfl, ?_,
      fun result s' => ⟨fun hvisits => ?_, ?_⟩⟩
    · rw [hempty]
      rfl
    · cases hvisits with
      | empty => exact ⟨rfl, rfl⟩
      | limits hne => exact absurd hempty hne
      | loop hne => exact absurd hempty hne
      | tasks hne => exact absurd hempty hne
      | parallel hne => exact absurd hempty hne
    · rintro ⟨rfl, rfl⟩
      exact .empty hempty
  by_cases hwave : visitWaveSize (plan.ofSelected selected) options ≤ 1
  · obtain ⟨report, t, hloop, ht, hcancelled, hrows⟩ := @exists_visitSerially file zstd
      (plan.ofSelected selected) selected S visitor s h P hvisit hs
      ⟨(plan.ofSelected selected).report, 0, 0, false⟩ (by dsimp only; omega)
    refine ⟨report, t, ht, hcancelled, by rw [hrows]; dsimp only; omega,
      fun result s' => ⟨fun hvisits => ?_, ?_⟩⟩
    · cases hvisits with
      | empty hnil => exact absurd hnil hempty
      | limits _ herror =>
        rw [hlimits] at herror
        cases herror
      | loop =>
        rw [show (plan.ofSelected selected).rowGroupIds = selected from rfl, hloop]
        exact ⟨rfl, rfl⟩
      | tasks _ _ hlarge => exact absurd hwave hlarge
      | parallel _ _ hlarge => exact absurd hwave hlarge
    · rintro ⟨rfl, rfl⟩
      have hvisits : file.VisitsExecutionPlan zstd (plan.ofSelected selected) visitor options s
          (file.visitSerially zstd (plan.ofSelected selected) visitor
            (plan.ofSelected selected).rowGroupIds ⟨(plan.ofSelected selected).report, 0, 0, false⟩
            s).1 _ := .loop hempty hlimits hwave
      rwa [show (plan.ofSelected selected).rowGroupIds = selected from rfl, hloop] at hvisits
  · obtain ⟨tasks, htasks, hforall⟩ := h.exists_rowGroupTasks hknown
      "OCB bounded scheduler row group not found" "OCB bounded scheduler row range overflows"
    have hcallbacks : (file.visitCallbacks zstd (plan.ofSelected selected) visitor).Continues tasks
        P := by
      intro task htask
      obtain ⟨id, hid, hof⟩ := exists_of_forall₂ hforall htask
      obtain ⟨batch, hread, hcontinue⟩ := hvisit id hid
      refine ⟨batch, ?_, hcontinue⟩
      show (file.readPlanRowGroup zstd plan task.rowGroupId >>= fun batch => .ok batch) = _
      rw [hof.rowGroupId, hread, ok_bind]
    have hthreads : 0 < (plan.ofSelected selected).report.effectiveThreads :=
      effectiveThreads_executionReportForPlan plan _
    have hwavePos : 0 < visitWaveSize (plan.ofSelected selected) options := by omega
    have hcount : tasks.length = (plan.ofSelected selected).report.selectedRowGroups :=
      hforall.length_eq.symm
    obtain ⟨t, ht, hiff⟩ := @executesBoundedOrdered_of_continues _ _ _ _ _ _ .windowed _ s
      hwavePos hcount hthreads P hcallbacks hs
    refine ⟨cursorReportOf (plan.ofSelected selected).report tasks ⟨tasks.length, false, true⟩, t, ht,
      rfl, rowsOrderedCommitted_of_tasks hforall hfits, fun result s' => ⟨fun hvisits => ?_, ?_⟩⟩
    · cases hvisits with
      | empty hnil => exact absurd hnil hempty
      | limits _ herror =>
        rw [hlimits] at herror
        cases herror
      | loop _ _ hsmall => exact absurd hsmall hwave
      | tasks _ _ _ herror =>
        rw [show file.boundedOrderedTasksForPlan (plan.ofSelected selected) = .ok tasks
          from htasks] at herror
        cases herror
      | parallel _ _ _ htasks' hexecutes =>
        rw [show file.boundedOrderedTasksForPlan (plan.ofSelected selected) = .ok tasks
          from htasks] at htasks'
        cases htasks'
        obtain ⟨rfl, rfl⟩ := (hiff _ _).mp hexecutes
        exact ⟨rfl, rfl⟩
    · rintro ⟨rfl, rfl⟩
      have hexecutes := (hiff (.ok ⟨tasks.length, false, true⟩) s').mpr ⟨rfl, rfl⟩
      exact .parallel hempty hlimits hwave htasks hexecutes

/-- A preparation that nothing ends commits all rows of its row groups, however it is scheduled. -/
theorem Opened.preparesPlanRowGroups_of_continue (h : file.Opened) {T : Type}
    {prepare : ParallelPrepareTaskSpec → ColumnBatch → Result T}
    {orderedCommit : S → ParallelPrepareTaskSpec → T → S × Result ColumnBundleVisitControl}
    {maxInFlightRowGroups : ℕ} (hmax : 0 < maxInFlightRowGroups)
    (hvalid : file.validateReadPlan plan = .ok ())
    (hselected : plannedRowGroupSubset plan rowGroupIds = .ok selected)
    (hlimits : validateSlidingInFlightPlanResourceLimits file.metadata (plan.ofSelected selected)
      maxInFlightRowGroups = .ok ()) {P : S → Prop}
    (hprepare : ∀ id ∈ selected, ∃ batch, file.readPlanRowGroup zstd plan id = .ok batch ∧
      ∀ task, ∃ value, prepare task batch = .ok value ∧
        ∀ s, P s → P (orderedCommit s task value).1 ∧
          (orderedCommit s task value).2 = .ok .continue) (hs : P s) :
    ∃ report t, P t ∧ report.rowsOrderedCommitted = file.metadata.selectedRows selected ∧
      report.orderedTerminalCompleted = true ∧ ∀ result s',
        file.PreparesPlanRowGroups zstd plan rowGroupIds prepare orderedCommit maxInFlightRowGroups
          s result s' ↔ result = .ok report ∧ s' = t := by
  have hknown : ∀ id ∈ selected, (file.metadata.rowGroupById id).isSome = true := fun id hid =>
    known_of_validateReadPlan hvalid id (mem_of_plannedRowGroupSubset hselected hid)
  have hnodup : selected.Nodup := by
    obtain ⟨-, -, rfl⟩ := plannedRowGroupSubset_eq_ok.mp hselected
    exact (nodup_of_validateReadPlan hvalid).filter _
  obtain ⟨tasks, htasks, hforall⟩ := h.exists_rowGroupTasks hknown
    "OCB parallel prepare row group not found" "OCB parallel prepare row range overflows"
  have hadmitted : file.parallelPrepareTasksAndReport plan rowGroupIds maxInFlightRowGroups =
      .ok (tasks, (plan.ofSelected selected).report) := by
    rw [parallelPrepareTasksAndReport, hvalid, ok_bind, hselected, ok_bind, hlimits, ok_bind, htasks,
      ok_bind]
    rfl
  -- what is read for a task is the row group of the task
  have hcallbacks : (file.prepareCallbacks zstd plan prepare orderedCommit).Continues tasks P := by
    intro task htask
    obtain ⟨id, hid, hof⟩ := exists_of_forall₂ hforall htask
    obtain ⟨batch, hread, hvalue⟩ := hprepare id hid
    obtain ⟨value, hvalue, hcommit⟩ := hvalue task
    obtain ⟨rowGroup, hrowGroup, hbatch, hbase, hrows⟩ := h.of_readPlanRowGroup hread
    obtain ⟨rowGroup', hrowGroup', hbase', hrows'⟩ := hof.rowGroup
    obtain rfl : rowGroup = rowGroup' := Option.some.inj (hrowGroup.symm.trans hrowGroup')
    have hcontext : ¬ (batch.rowGroupId ≠ task.rowGroupId ∨ batch.baseRow ≠ task.baseRow ∨
        batch.rowCount ≠ task.rowCount) := by
      rw [hbatch, hbase, hrows, hof.rowGroupId, hbase', hrows']
      simp
    refine ⟨value, ?_, hcommit⟩
    show (file.readPreparedRowGroup zstd plan task >>= prepare task) = _
    rw [readPreparedRowGroup, hof.rowGroupId, hread, ok_bind, ← hof.rowGroupId,
      failIf_neg hcontext, ok_bind, pure_eq_ok, ok_bind, hvalue]
  have hcount : tasks.length = (plan.ofSelected selected).report.selectedRowGroups :=
    hforall.length_eq.symm
  have hthreads : 0 < (plan.ofSelected selected).report.effectiveThreads :=
    effectiveThreads_executionReportForPlan plan _
  obtain ⟨t, ht, hiff⟩ := @executesBoundedOrdered_of_continues _ _ _ _ _ _ .sliding _ s
    hmax hcount hthreads P hcallbacks hs
  refine ⟨parallelPrepareReportOf (plan.ofSelected selected).report tasks ⟨tasks.length, false, true⟩,
    t, ht, rowsOrderedCommitted_of_tasks hforall (h.invariant.selectedRows_lt hnodup hknown), rfl,
    fun result s' => ⟨fun hprepares => ?_, ?_⟩⟩
  · cases hprepares with
    | refused herror =>
      rw [hadmitted] at herror
      cases herror
    | executed hok hexecutes =>
      rw [hadmitted] at hok
      cases hok
      obtain ⟨rfl, rfl⟩ := (hiff _ _).mp hexecutes
      exact ⟨rfl, rfl⟩
  · rintro ⟨rfl, rfl⟩
    have hexecutes := (hiff (.ok ⟨tasks.length, false, true⟩) s').mpr ⟨rfl, rfl⟩
    exact .executed hadmitted hexecutes

end Continuing

end ColumnBundleFile

end ArcadiaTio.Ocb
