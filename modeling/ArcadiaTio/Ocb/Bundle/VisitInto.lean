import ArcadiaTio.Ocb.Bundle.Reusable
import ArcadiaTio.Ocb.Bundle.Visit
import ArcadiaTio.Ocb.Parallel.SlotsOutcome

/-!
# Visiting row groups in reused buffers

A visit into reusable buffers reads each row group into one slot of a pool and hands the visitor a
view of this slot.  The slots are reused, but no row group writes to a slot before the visitor has
seen the one that was read into it, so the visitor sees what owned reads return, in the order of the
plan (`visitPlanRowGroupsInto_spec`).
-/

namespace ArcadiaTio.Ocb

open ArcadiaTio.Lib

/-! ### Visiting -/

/-- The columns of a plan, in its order. -/
def projectedColumnsForPlan (columns : List BundleColumn) (plan : ColumnBundleReadPlan) :
    Result (List BundleColumn) :=
  plan.projectedColumnIds.mapM fun id => okOr (columns.find? fun column => column.id = id)
    (ocbCorruptFile "OCB selected column not found")

/-- The buffers of one slot are for the projected columns. -/
def validateReusableSlot (projected : List BundleColumn) (slot : ColumnBundleReusableBuffers) :
    Result Unit := do
  failIf (slot.columns.length ≠ projected.length)
    (ocbInvalidInput "OCB reusable visitor buffer slot does not match plan projection")
  forM (slot.columns.zip projected) fun pair => failIf (¬ pair.1.IsFor pair.2)
    (ocbInvalidInput "OCB reusable visitor buffer column does not match plan projection")

/-- The pool has slots, and all of them are for the columns of the plan. -/
def validateReusableBufferPool (pool : ColumnBundleReusableBufferPool) (plan : ColumnBundleReadPlan)
    (columns : List BundleColumn) : Result Unit := do
  failIf (pool.buffers = [])
    (ocbInvalidInput "OCB reusable visitor requires at least one buffer slot")
  let projected ← projectedColumnsForPlan columns plan
  failIf (projected = [])
    (ocbInvalidInput "OCB reusable visitor requires at least one projected column")
  forM pool.buffers (validateReusableSlot projected)

/-- How many slots are used. -/
def visitIntoWaveSize (plan : ColumnBundleReadPlan) (options : ColumnBundleReadCursorOptions)
    (pool : ColumnBundleReusableBufferPool) : ℕ :=
  min (visitWaveSize plan options) pool.buffers.length

namespace ColumnBundleFile

variable (file : ColumnBundleFile) (zstd : ZstdCodec) (plan : ColumnBundleReadPlan)
  (rowGroupIds : List UInt32) (options : ColumnBundleReadCursorOptions)
  (pool : ColumnBundleReusableBufferPool)

/-- The plan of the row groups that are visited, when the pool fits it. -/
def visitedIntoPlan : Result ColumnBundleReadPlan := do
  file.validateReadPlan plan
  validateReadCursorOptions options
  let selected ← plannedRowGroupSubset plan rowGroupIds
  validateReusableBufferPool pool plan file.columns
  return plan.ofSelected selected

/-- An execution that a visit into reusable buffers starts: the plan that is executed, and its
tasks. -/
structure VisitIntoRun where
  executed : ColumnBundleReadPlan
  tasks : List ParallelPrepareTaskSpec
  visited : file.visitedIntoPlan plan rowGroupIds options pool = .ok executed
  nonempty : executed.rowGroupIds ≠ []
  admitted : validateContiguousInFlightPlanResourceLimits file.metadata executed
    (visitIntoWaveSize executed options pool) = .ok ()
  described : file.boundedOrderedTasksForPlan executed = .ok tasks

namespace VisitIntoRun

variable {file} {plan} {rowGroupIds} {options} {pool}
  (run : file.VisitIntoRun plan rowGroupIds options pool)

/-- How many row groups are in flight together. -/
def waveSize : ℕ := visitIntoWaveSize run.executed options pool

/-- The workers that the visit starts. -/
def threads : ℕ := startedWorkers run.tasks run.executed.report run.waveSize

/-- The slots and the callbacks: a worker reads the row group of a task into its slot, and the
visitor sees what is there. -/
def visitExecutionPlanInto {S : Type}
    (visitor : S → ColumnBundleReusableBatchView → S × Result ColumnBundleVisitControl) (s : S) :
    SlottedOrdered ColumnBundleReusableBuffers ColumnBundleReadFillReport
      ColumnBundleReusableBatchView ArcadiaTioError S where
  taskCount := run.tasks.length
  slotCount := run.waveSize
  taskQueueCapacity := max run.threads 1
  resultQueueCapacity := max run.threads 1
  rowCount i := (run.tasks[i]?).elim 0 fun task => task.rowCount.toNat
  fill i := okOr run.tasks[i]? disconnectedWorkerError >>= fun task =>
    readRowGroupIntoReusable file.source zstd file.metadata file.columns task.rowGroupId
  view := batchView
  visitor
  slots k := pool.buffers.getD k ⟨[]⟩
  visitorState := s

end VisitIntoRun

end ColumnBundleFile

/-! ### What the visitor sees -/

namespace ColumnBundleFile

open ColumnBundleReusableBuffers

variable {file : ColumnBundleFile} {source : OcbReadSource} {zstd : ZstdCodec}
  {validation : OcbOpenValidationMode} {limits : OcbResourceLimits}
  {slot : ColumnBundleReusableBuffers} {report : ColumnBundleReadFillReport}

namespace VisitIntoRun

variable {plan : ColumnBundleReadPlan} {rowGroupIds : List UInt32}
  {options : ColumnBundleReadCursorOptions} {pool : ColumnBundleReusableBufferPool}
  (run : file.VisitIntoRun plan rowGroupIds options pool)

/-- What was checked before an execution started. -/
lemma exists_selected : ∃ selected, run.executed = plan.ofSelected selected ∧
    file.validateReadPlan plan = .ok () ∧ plannedRowGroupSubset plan rowGroupIds = .ok selected ∧
    validateReusableBufferPool pool plan file.columns = .ok () := by
  obtain ⟨_, hvalid, hvisited⟩ := bind_eq_ok.mp run.visited
  obtain ⟨_, -, hvisited⟩ := bind_eq_ok.mp hvisited
  obtain ⟨selected, hselected, hvisited⟩ := bind_eq_ok.mp hvisited
  obtain ⟨_, hpool, hexecuted⟩ := bind_eq_ok.mp hvisited
  exact ⟨selected, (Except.ok.inj hexecuted).symm, hvalid, hselected, hpool⟩

/-- The row groups of an execution are row groups of the plan, in its order. -/
lemma sublist : run.executed.rowGroupIds.Sublist plan.rowGroupIds := by
  obtain ⟨selected, hexecuted, -, hselected, -⟩ := run.exists_selected
  obtain ⟨-, -, rfl⟩ := plannedRowGroupSubset_eq_ok.mp hselected
  rw [hexecuted]
  exact List.filter_sublist

lemma forall₂_taskOf (h : file.Opened) :
    List.Forall₂ file.TaskOf run.executed.rowGroupIds run.tasks := by
  obtain ⟨selected, hexecuted, hvalid, hselected, -⟩ := run.exists_selected
  have hids : run.executed.rowGroupIds = selected := by rw [hexecuted]; rfl
  obtain ⟨tasks, htasks, hforall⟩ := @Opened.exists_rowGroupTasks file selected h
    (fun id hid => known_of_validateReadPlan hvalid id (mem_of_plannedRowGroupSubset hselected hid))
    "OCB bounded scheduler row group not found" "OCB bounded scheduler row range overflows"
  have hdescribed := run.described
  rw [boundedOrderedTasksForPlan, hids] at hdescribed
  obtain rfl : run.tasks = tasks := Except.ok.inj (hdescribed.symm.trans htasks)
  rwa [hids]

lemma waveSize_pos : 0 < run.waveSize := by
  obtain ⟨_, -, -, -, hpool⟩ := run.exists_selected
  obtain ⟨_, hpool, -⟩ := bind_eq_ok.mp hpool
  rw [failIf_eq_ok] at hpool
  have hlength := List.length_pos_of_ne_nil hpool
  rw [waveSize, visitIntoWaveSize, visitWaveSize]
  omega

lemma threads_pos (h : file.Opened) : 0 < run.threads := by
  obtain ⟨selected, hexecuted, -, -, -⟩ := run.exists_selected
  have hthreads : 0 < run.executed.report.effectiveThreads := by
    rw [hexecuted]
    exact effectiveThreads_executionReportForPlan plan _
  have htasks := List.length_pos_of_ne_nil run.nonempty
  rw [(run.forall₂_taskOf h).length_eq] at htasks
  have hwave := run.waveSize_pos
  rw [threads, startedWorkers]
  omega

/-- The buffers of every slot are for the projected columns. -/
lemma exists_columns : ∃ columns, columns ≠ [] ∧ (∀ column ∈ columns, column ∈ file.columns) ∧
    columns.map BundleColumn.id = run.executed.projectedColumnIds ∧
    ∀ slot ∈ pool.buffers, List.Forall₂ ColumnBundleReusableColumnBuffer.IsFor slot.columns
      columns := by
  obtain ⟨selected, hexecuted, -, -, hpool⟩ := run.exists_selected
  obtain ⟨_, -, hpool⟩ := bind_eq_ok.mp hpool
  obtain ⟨columns, hcolumns, hpool⟩ := bind_eq_ok.mp hpool
  obtain ⟨_, hempty, hslots⟩ := bind_eq_ok.mp hpool
  rw [failIf_eq_ok] at hempty
  have hids : run.executed.projectedColumnIds = plan.projectedColumnIds := by
    rw [hexecuted]
    rfl
  have hfound : List.Forall₂ (fun id column => column ∈ file.columns ∧ column.id = id)
      plan.projectedColumnIds columns := by
    refine (mapM_eq_ok.mp hcolumns).imp fun id column hcolumn => ?_
    have hfind := okOr_eq_ok.mp hcolumn
    exact ⟨List.mem_of_find?_eq_some hfind, by simpa using List.find?_some hfind⟩
  refine ⟨columns, hempty, fun column hcolumn => ?_, ?_, fun slot hslot => ?_⟩
  · obtain ⟨_, -, hmem, -⟩ := exists_of_forall₂ hfound hcolumn
    exact hmem
  · have hsame : List.Forall₂ Eq plan.projectedColumnIds (columns.map BundleColumn.id) :=
      List.forall₂_map_right_iff.mpr (hfound.imp fun _ _ hcolumn => hcolumn.2.symm)
    rw [List.forall₂_eq_eq_eq] at hsame
    rw [hids, hsame]
  · obtain ⟨_, hlength, hbuffers⟩ := bind_eq_ok.mp (forM_eq_ok.mp hslots slot hslot)
    rw [failIf_eq_ok, not_not] at hlength
    refine List.forall₂_iff_zip.mpr ⟨hlength, fun {buffer column} hpair => ?_⟩
    have hfor := forM_eq_ok.mp hbuffers _ hpair
    rwa [failIf_eq_ok, not_not] at hfor

section Execution

variable {S : Type}
  {visitor : S → ColumnBundleReusableBatchView → S × Result ColumnBundleVisitControl} {s₀ : S}

/-- A worker reads the row group of its ordinal. -/
lemma exists_fill (h : file.Opened) {i : ℕ} (hi : i < run.tasks.length) :
    ∃ id, run.executed.rowGroupIds[i]? = some id ∧
      (run.visitExecutionPlanInto zstd visitor s₀).fill i =
        readRowGroupIntoReusable file.source zstd file.metadata file.columns id := by
  have hforall := run.forall₂_taskOf h
  have hi' : i < run.executed.rowGroupIds.length := hforall.length_eq.symm ▸ hi
  have htask : file.TaskOf run.executed.rowGroupIds[i] run.tasks[i] :=
    (List.forall₂_iff_get.mp hforall).2 i hi' hi
  refine ⟨_, List.getElem?_eq_getElem hi', ?_⟩
  rw [visitExecutionPlanInto]
  dsimp only
  rw [List.getElem?_eq_getElem hi, okOr_some, Fallible.lift_ok_bind, htask.rowGroupId]

/-- The contents that a slot may have: those that it had at first, or others in the same columns. -/
def Fits (pool : ColumnBundleReusableBufferPool) (k : ℕ) (slot : ColumnBundleReusableBuffers) :
    Prop :=
  slot.shape = (pool.buffers.getD k ⟨[]⟩).shape

/-- A slot is for the projected columns whatever has been stored in it. -/
lemma forall₂_isFor {columns : List BundleColumn} {k : ℕ} (hk : k < run.waveSize)
    (hslots : ∀ slot ∈ pool.buffers,
      List.Forall₂ ColumnBundleReusableColumnBuffer.IsFor slot.columns columns)
    (hslot : Fits pool k slot) :
    List.Forall₂ ColumnBundleReusableColumnBuffer.IsFor slot.columns columns := by
  have hpool : k < pool.buffers.length := by
    rw [waveSize, visitIntoWaveSize] at hk
    omega
  rw [Fits, List.getD_eq_getElem?_getD, List.getElem?_eq_getElem hpool, Option.getD_some] at hslot
  exact ColumnBundleReusableColumnBuffer.forall₂_isFor hslot (hslots _ (List.getElem_mem hpool))

section

variable (hfault : source.FaultFree) (h : openFromSource source zstd validation limits = .ok file)

include hfault h

/-- The row group of a task is read into a slot, and what can be seen of it is the batch. -/
lemma view_fill {i : ℕ} (hi : i < run.tasks.length)
    (hslot : Fits pool ((run.visitExecutionPlanInto zstd visitor s₀).slotIndex i) slot)
    (hfill : (((run.visitExecutionPlanInto zstd visitor s₀).fill i).run slot).1 = .ok report) :
    ∃ id batch, run.executed.rowGroupIds[i]? = some id ∧
      file.readPlanRowGroup zstd run.executed id = .ok batch ∧
      batchView report (((run.visitExecutionPlanInto zstd visitor s₀).fill i).run slot).2 =
        batch.view := by
  obtain ⟨id, hid, hreads⟩ := run.exists_fill (opened_of_openFromSource h) hi
  obtain ⟨columns, hempty, hcolumns, hids, hslots⟩ := run.exists_columns
  have hfor := run.forall₂_isFor (Nat.mod_lt _ run.waveSize_pos) hslots hslot
  have hsource := source_of_openFromSource h
  rw [hreads, hsource] at hfill ⊢
  obtain ⟨batch, hbatch, -, hview⟩ := view_readRowGroupIntoReusable hfault h hfor hcolumns hempty
    hfill
  refine ⟨id, batch, hid, ?_, hview⟩
  rw [readPlanRowGroup, hsource, ← hids]
  exact hbatch

lemma oblivious : (run.visitExecutionPlanInto zstd visitor s₀).Oblivious (Fits pool) := by
  have hsource := source_of_openFromSource h
  refine ⟨fun k _ => rfl, fun i hi b hb => ?_, fun i hi b b' hb hb' => ?_,
    fun i hi b b' report hb hb' hreport => ?_⟩
  · obtain ⟨id, -, hreads⟩ := run.exists_fill (opened_of_openFromSource h) hi
    rw [hreads]
    exact (shape_run_readRowGroupIntoReusable b).trans hb
  · obtain ⟨id, -, hreads⟩ := run.exists_fill (opened_of_openFromSource h) hi
    rw [hreads, hsource]
    exact fst_run_readRowGroupIntoReusable_congr hfault h (hb.trans hb'.symm)
  · -- both views are the batch
    obtain ⟨id, -, hreads⟩ := run.exists_fill (opened_of_openFromSource h) hi
    have hreport' : (((run.visitExecutionPlanInto zstd visitor s₀).fill i).run b').1 =
        .ok report := by
      rw [← hreport, hreads, hsource]
      exact fst_run_readRowGroupIntoReusable_congr hfault h (hb'.trans hb.symm)
    obtain ⟨id, batch, hid, hread, hview⟩ := run.view_fill hfault h hi hb hreport
    obtain ⟨id', batch', hid', hread', hview'⟩ := run.view_fill hfault h hi hb' hreport'
    obtain rfl := Option.some.inj (hid.symm.trans hid')
    obtain rfl := Except.ok.inj (hread.symm.trans hread')
    exact hview.trans hview'.symm

/-- With a slot for every ordinal, the row groups that have been prepared are committed by handing
their batches to the visitor. -/
lemma exists_batches {k : ℕ} (hk : k ≤ run.tasks.length)
    (hprepared : ∀ i < k,
      ((run.visitExecutionPlanInto zstd visitor s₀).isolated.prepared i).isOk = true) :
    ∃ batches, (run.executed.rowGroupIds.take k).mapM (file.readPlanRowGroup zstd run.executed) =
        .ok batches ∧ batches.length = k ∧ ∀ i batch, batches[i]? = some batch →
      ∃ report, (run.visitExecutionPlanInto zstd visitor s₀).isolated.prepared i = .ok report ∧
        ∀ s, (run.visitExecutionPlanInto zstd visitor s₀).isolated.orderedCommit s i report =
          visitor s batch.view := by
  -- a slot that was filled shows the batch that the owned read returns
  have hread : ∀ i < k, ∃ report id batch,
      (run.visitExecutionPlanInto zstd visitor s₀).isolated.prepared i = .ok report ∧
      run.executed.rowGroupIds[i]? = some id ∧
      file.readPlanRowGroup zstd run.executed id = .ok batch ∧
      ∀ s, (run.visitExecutionPlanInto zstd visitor s₀).isolated.orderedCommit s i report =
        visitor s batch.view := by
    intro i hi
    have hok := hprepared i hi
    rcases hvalue : (run.visitExecutionPlanInto zstd visitor s₀).isolated.prepared i with
      error | report
    · rw [hvalue] at hok
      cases hok
    have hfill : (((run.visitExecutionPlanInto zstd visitor s₀).fill i).run
        (pool.buffers.getD ((run.visitExecutionPlanInto zstd visitor s₀).slotIndex i) ⟨[]⟩)).1 =
          .ok report := by
      rw [← hvalue, BoundedOrdered.prepared]
      exact (bind_pure _).symm
    obtain ⟨id, batch, hid, hbatch, hview⟩ := run.view_fill hfault h (hi.trans_le hk) rfl hfill
    exact ⟨report, id, batch, rfl, hid, hbatch, fun s => congrArg (visitor s) hview⟩
  have hlength : (run.executed.rowGroupIds.take k).length = k := by
    have hcount := (run.forall₂_taskOf (opened_of_openFromSource h)).length_eq
    rw [List.length_take]
    omega
  have hids : ∀ i (hi : i < (run.executed.rowGroupIds.take k).length),
      run.executed.rowGroupIds[i]? = some (run.executed.rowGroupIds.take k)[i] := by
    intro i hi
    rw [List.getElem_take, List.getElem?_eq_getElem]
  obtain ⟨batches, hbatches⟩ := isOk_mapM.mpr fun id hid => by
    obtain ⟨i, hi, rfl⟩ := List.getElem_of_mem hid
    obtain ⟨report, id', batch, -, hid', hbatch, -⟩ := hread i (hlength ▸ hi)
    rw [hids i hi] at hid'
    obtain rfl := Option.some.inj hid'
    exact ⟨batch, hbatch⟩
  have hforall := mapM_eq_ok.mp hbatches
  refine ⟨batches, hbatches, hforall.length_eq.symm.trans hlength, fun i batch hbatch => ?_⟩
  obtain ⟨hi, rfl⟩ := List.getElem?_eq_some_iff.mp hbatch
  have hi' : i < (run.executed.rowGroupIds.take k).length := hforall.length_eq.symm ▸ hi
  obtain ⟨report, id, batch, hreport, hid, hbatch', hcommit⟩ := hread i (hlength ▸ hi')
  obtain rfl := Option.some.inj ((hids i hi').symm.trans hid)
  have hsame := (List.forall₂_iff_get.mp hforall).2 i hi' hi
  obtain rfl := Except.ok.inj (hbatch'.symm.trans hsame)
  exact ⟨report, hreport, hcommit⟩

lemma exists_finished : ∃ (s : SlotState run.threads ColumnBundleReusableBuffers
      ColumnBundleReadFillReport ArcadiaTioError S) (outcome : Outcome ArcadiaTioError),
    s.Reachable (run.visitExecutionPlanInto zstd visitor s₀) ∧
      s.executor.coordinator.pc = .returned .finished outcome :=
  SlotState.exists_finished (@oblivious _ _ _ _ _ _ _ _ _ run S visitor s₀ hfault h)
    run.waveSize_pos (run.threads_pos (opened_of_openFromSource h))

/-- In every state that some interleaving reaches: ordinals in flight have different slots, the row
groups have been handed to the visitor in the order of the plan, as the owned reads return them, and
the slot of a result that has not been committed was last written for it and shows what the owned
read returns. -/
theorem visitPlanRowGroupsInto_spec
    {s : SlotState run.threads ColumnBundleReusableBuffers ColumnBundleReadFillReport
      ArcadiaTioError S} (hs : s.Reachable (run.visitExecutionPlanInto zstd visitor s₀)) :
    (s.executor.inFlight.Nodup ∧ ∀ i ∈ s.executor.inFlight, ∀ j ∈ s.executor.inFlight,
      i % run.waveSize = j % run.waveSize → i = j) ∧
    (run.executed.rowGroupIds.Sublist plan.rowGroupIds ∧ ∃ k ≤ run.tasks.length, ∃ batches,
      s.executor.coordinator.calls = List.range k ∧
      (run.executed.rowGroupIds.take k).mapM (file.readPlanRowGroup zstd run.executed) =
        .ok batches ∧
      s.executor.coordinator.commitState =
        batches.foldl (fun s batch => (visitor s batch.view).1) s₀) ∧
    ∀ i report, s.executor.coordinator.pending.lookup i = some (.ok report) →
      s.writers (i % run.waveSize) = some i ∧
      ∃ id batch, run.executed.rowGroupIds[i]? = some id ∧
        file.readPlanRowGroup zstd run.executed id = .ok batch ∧
        batchView report (s.slots (i % run.waveSize)) = batch.view := by
  have hopened := opened_of_openFromSource h
  have hob := @oblivious _ _ _ _ _ _ _ _ _ run S visitor s₀ hfault h
  have hslots : 0 < (run.visitExecutionPlanInto zstd visitor s₀).slotCount := run.waveSize_pos
  have hW := run.threads_pos hopened
  have hisolated := hs.isolated hob hslots hW
  obtain ⟨hnodup, -, hexclusive⟩ := hisolated.exclusive hslots hW
  refine ⟨⟨hnodup, hexclusive⟩, ⟨run.sublist, ?_⟩, fun i report hpending => ?_⟩
  · obtain ⟨k, hcommitted⟩ := ExecutorState.committed_of_reachable _ hslots hW hisolated.executor
    obtain ⟨batches, hbatches, rfl, hcommits⟩ := run.exists_batches hfault h hcommitted.le
      hcommitted.prepared
    exact ⟨_, hcommitted.le, batches, hcommitted.calls, hbatches,
      hcommitted.commitState.trans (BoundedOrdered.stateBefore_eq_foldl hcommits)⟩
  · obtain ⟨hi, hwriter, hread, hview⟩ := hisolated.view_eq hob hslots hW hpending
    obtain ⟨id, batch, hid, hbatch, hview'⟩ := run.view_fill hfault h hi rfl hread
    exact ⟨hwriter, id, batch, hid, hbatch, hview.trans hview'⟩

end

end Execution

end VisitIntoRun

end ColumnBundleFile

/-! ### The small file -/

namespace Sample

variable {codes : OcbPhysicalTypeV1} {cRoot cSchema cStrings cDictionaries cIndex : UInt32}

/-- A slot for the column of the small file, with values and bits of other row groups. -/
def slot : ColumnBundleReusableBuffers :=
  ⟨[{ columnId := 0, name := resolvedColumn.name, physicalType := .i32, logicalKind := .plain
      dictionaryId := none, nullable := true, values := .i32 [1, 2], validityBytes := [255, 255]
      allowNulls := true }]⟩

/-- The visit of the small file into this slot. -/
def visitIntoRun : (openedFile codes cRoot cSchema cStrings cDictionaries cIndex).VisitIntoRun plan
    [0] ⟨4, true⟩ ⟨[slot]⟩ where
  executed := plan.ofSelected [0]
  tasks := [⟨0, 0, 0, 1, 1⟩]
  visited := rfl
  nonempty := List.cons_ne_nil _ _
  admitted := (validateInFlight_of_owned rfl (u := ()) rfl _).1
  described := rfl

end Sample

open ColumnBundleFile in
/-- When the visit of the small file has finished, the visitor has been handed the row groups in the
order of the plan. -/
theorem visitPlanRowGroupsInto_spec_sample : ∃ file,
    openFromSource (Sample.file .i32) (fun _ _ => ⟨[], true⟩) .metadataGraph .policyA = .ok file ∧
    ∃ run : file.VisitIntoRun Sample.plan [0] ⟨4, true⟩ ⟨[Sample.slot]⟩,
      ∃ (s : SlotState run.threads _ _ _ ℕ) (outcome : Outcome ArcadiaTioError),
        s.Reachable (run.visitExecutionPlanInto (fun _ _ => ⟨[], true⟩)
          (fun n _ => (n + 1, .ok .continue)) 0) ∧
        s.executor.coordinator.pc = .returned .finished outcome ∧
        ∃ k ≤ run.tasks.length, s.executor.coordinator.calls = List.range k := by
  obtain ⟨cRoot, cSchema, cStrings, cDictionaries, cIndex, hopen⟩ :=
    Sample.openFromSource .i32 fun _ _ => ⟨[], true⟩
  have hfault : (Sample.file .i32).FaultFree := OcbReadSource.faultFree_ofBytes _ _
  obtain ⟨s, outcome, hs, hpc⟩ := Sample.visitIntoRun.exists_finished hfault hopen
  refine ⟨_, hopen, Sample.visitIntoRun, s, outcome, hs, hpc, ?_⟩
  obtain ⟨k, hk, -, hcalls, -⟩ :=
    (Sample.visitIntoRun.visitPlanRowGroupsInto_spec hfault hopen hs).2.1.2
  exact ⟨k, hk, hcalls⟩

end ArcadiaTio.Ocb
