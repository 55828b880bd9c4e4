import ArcadiaTio.Ocb.Bundle.VisitInto
import ArcadiaTio.Ocb.Bundle.VisitScript
import ArcadiaTio.Ocb.Parallel.SlotsOutcome

/-!
# Reused buffers make no difference

A row group is read into a slot exactly when it can be read at all, with the same error when it
cannot: the slot is resized before it is filled, so that there is always room
(`fst_run_readRowGroupIntoReusable_eq`).  So a visit into reusable buffers does to its visitor what
the owned visit does that reads as many row groups at a time as there are slots, however both are
scheduled (`visitsPlanRowGroupsInto_iff_owned`).
-/

namespace ArcadiaTio.Ocb

open ArcadiaTio.Lib

/-! ### The visit -/

namespace ColumnBundleFile

section Visits

variable (file : ColumnBundleFile) (zstd : ZstdCodec) (plan : ColumnBundleReadPlan)
  (rowGroupIds : List UInt32) (options : ColumnBundleReadCursorOptions)
  (pool : ColumnBundleReusableBufferPool)

/-- What a visit into reusable buffers may return, and the state of the visitor afterwards. -/
inductive VisitsPlanRowGroupsInto {S : Type}
    (visitor : S → ColumnBundleReusableBatchView → S × Result ColumnBundleVisitControl) (s : S) :
    Result ColumnBundleReadCursorReport → S → Prop
  | refused {error : ArcadiaTioError}
      (h : file.visitedIntoPlan plan rowGroupIds options pool = .error error) :
      VisitsPlanRowGroupsInto visitor s (.error error) s
  | empty {executed : ColumnBundleReadPlan}
      (h : file.visitedIntoPlan plan rowGroupIds options pool = .ok executed)
      (hempty : executed.rowGroupIds = []) :
      VisitsPlanRowGroupsInto visitor s (.ok ⟨executed.report, 0, 0, false⟩) s
  | limits {executed : ColumnBundleReadPlan} {error : ArcadiaTioError}
      (h : file.visitedIntoPlan plan rowGroupIds options pool = .ok executed)
      (hempty : executed.rowGroupIds ≠ [])
      (hlimits : validateContiguousInFlightPlanResourceLimits file.metadata executed
        (visitIntoWaveSize executed options pool) = .error error) :
      VisitsPlanRowGroupsInto visitor s (.error error) s
  | tasks {executed : ColumnBundleReadPlan} {error : ArcadiaTioError}
      (h : file.visitedIntoPlan plan rowGroupIds options pool = .ok executed)
      (hempty : executed.rowGroupIds ≠ [])
      (hlimits : validateContiguousInFlightPlanResourceLimits file.metadata executed
        (visitIntoWaveSize executed options pool) = .ok ())
      (htasks : file.boundedOrderedTasksForPlan executed = .error error) :
      VisitsPlanRowGroupsInto visitor s (.error error) s
  | parallel (run : file.VisitIntoRun plan rowGroupIds options pool)
      {t : SlotState run.threads ColumnBundleReusableBuffers ColumnBundleReadFillReport
        ArcadiaTioError S} {outcome : Outcome ArcadiaTioError}
      (hreachable : t.Reachable (run.visitExecutionPlanInto zstd visitor s))
      (hpc : t.executor.coordinator.pc = .returned .finished outcome) :
      VisitsPlanRowGroupsInto visitor s (outcome.toCursorReport run.executed.report run.tasks)
        t.executor.coordinator.commitState

/-- The script of a visit into reusable buffers. -/
def visitPlanIntoScript : VisitScript :=
  match file.visitedIntoPlan plan rowGroupIds options pool with
  | .error error => ⟨plan.report, [], some error⟩
  | .ok executed =>
    if executed.rowGroupIds = [] then ⟨executed.report, [], none⟩
    else match validateContiguousInFlightPlanResourceLimits file.metadata executed
        (visitIntoWaveSize executed options pool) with
      | .error error => ⟨executed.report, [], some error⟩
      | .ok _ => file.readScript zstd executed (visitIntoWaveSize executed options pool)

end Visits

end ColumnBundleFile

/-- The nulls of some row groups can be stored in a slot. -/
def ColumnBundleReusableBuffers.AcceptsNulls (file : ColumnBundleFile) (rowGroupIds : List UInt32)
    (slot : ColumnBundleReusableBuffers) : Prop :=
  ∀ id ∈ rowGroupIds, ∀ rowGroup, file.metadata.rowGroupById id = some rowGroup →
    ∀ buffer ∈ slot.columns, ∀ chunk ∈ file.metadata.chunksAt rowGroup,
      chunk.columnId = buffer.columnId → ¬ chunk.validityRef.IsNull → buffer.allowNulls = true

/-! ### There is room in a slot -/

lemma width_ne_zero_of_desc {desc : OcbColumnDescV1} {width : UInt32}
    (h : columnPhysicalTypeFromDesc desc = .ok (.fixedBinary width)) : width ≠ 0 := by
  rw [columnPhysicalTypeFromDesc] at h
  cases hphysical : desc.physicalType <;>
    simp only [hphysical, primitiveColumnType, bind_eq_ok, pure_eq_ok, Except.ok.injEq,
      failIf_eq_ok, ColumnPhysicalType.fixedBinary.injEq, reduceCtorEq, and_false, exists_false,
      exists_const] at h
  obtain ⟨hnonzero, rfl⟩ := h
  exact hnonzero

/-- Storage is resized for rows whose bytes can be counted. -/
lemma PrimitiveColumnValues.isOk_resizeForRows {values : PrimitiveColumnValues} {n : ℕ}
    (hwidth : ∀ width, values.physicalType = .fixedBinary width → width ≠ 0)
    (hfit : n * values.byteWidth < 2 ^ 64) : IsOk (values.resizeForRows n) := by
  cases values with
  | fixedBinary width bytes =>
    have hfit : n * width.toNat < 2 ^ 64 := hfit
    rw [resizeForRows, failIf_neg (hwidth width rfl), ok_bind, checkedMul_of_lt hfit, okOr_some,
      ok_bind]
    exact ⟨_, rfl⟩
  | _ => exact ⟨_, rfl⟩

namespace ColumnBundleReusableBuffers

open ColumnBundleReusableColumnBuffer

/-- Buffers are prepared when each of them can be resized. -/
lemma fst_prepareColumns_eq_ok {n : ℕ} {columns : List ColumnBundleReusableColumnBuffer}
    (h : ∀ buffer ∈ columns, IsOk (buffer.values.resizeForRows n)) :
    (prepareColumns n columns).1 = .ok () := by
  induction columns with
  | nil => rfl
  | cons buffer rest ih =>
    obtain ⟨resized, hresized⟩ := h buffer List.mem_cons_self
    rw [prepareColumns, ColumnBundleReusableColumnBuffer.prepareForRows, hresized]
    exact ih fun other hother => h other (List.mem_cons_of_mem _ hother)

/-- What a slot accepts does not depend on what is stored in it. -/
lemma AcceptsNulls.of_shape {file : ColumnBundleFile} {rowGroupIds : List UInt32}
    {slot slot' : ColumnBundleReusableBuffers} (h : slot'.AcceptsNulls file rowGroupIds)
    (hshape : slot.shape = slot'.shape) : slot.AcceptsNulls file rowGroupIds := by
  intro id hid rowGroup hfound buffer hbuffer chunk hchunk hcolumn hnull
  have hmem : buffer.emptied ∈ slot'.shape := hshape ▸ List.mem_map_of_mem hbuffer
  obtain ⟨buffer', hbuffer', hsame⟩ := List.mem_map.mp hmem
  obtain ⟨hcolumnId, -, -, -, -, -, -, hallow⟩ := emptied_eq_iff.mp hsame
  rw [← hallow]
  exact h id hid rowGroup hfound buffer' hbuffer' chunk hchunk (hcolumn.trans hcolumnId.symm) hnull

end ColumnBundleReusableBuffers

namespace ColumnBundleFile

open ColumnBundleReusableBuffers ColumnBundleReusableColumnBuffer

variable {file : ColumnBundleFile} {source : OcbReadSource} {zstd : ZstdCodec}
  {validation : OcbOpenValidationMode} {limits : OcbResourceLimits} {rowGroupId : UInt32}
  {rowGroup : OcbRowGroupDescV1} {columns : List BundleColumn}

section Read

variable (hfault : source.FaultFree) (h : openFromSource source zstd validation limits = .ok file)

include hfault h

/-- A buffer for a column can be resized for the rows of a row group. -/
lemma isOk_resizeForRows_of_isFor (hgroup : rowGroup ∈ file.metadata.rowGroupIndex.rowGroups)
    {column : BundleColumn} (hcolumn : column ∈ file.columns)
    {buffer : ColumnBundleReusableColumnBuffer} (hfor : buffer.IsFor column) :
    IsOk (buffer.values.resizeForRows rowGroup.rowCount.toNat) := by
  obtain ⟨-, -, hchunks⟩ := exists_chunkOf hfault h hgroup
  obtain ⟨chunk, -, -, -, hchunk⟩ := hchunks column hcolumn
  obtain ⟨desc, -, -, hresolved⟩ := (opened_of_openFromSource h).exists_desc hcolumn
  refine PrimitiveColumnValues.isOk_resizeForRows (fun width hwidth => ?_) ?_
  · rw [hfor.values] at hwidth
    obtain ⟨-, -, htype⟩ := resolveColumn_eq_ok hresolved
    rw [hwidth] at htype
    exact width_ne_zero_of_desc htype
  · rw [← hchunk.bytes _ hfor.values]
    exact chunk.uncompressedBytes.toNat_lt

/-- A fill of prepared buffers is accepted. -/
lemma acceptsFill_of_prepared (hfound : file.metadata.rowGroupById rowGroupId = some rowGroup)
    {prepared : List ColumnBundleReusableColumnBuffer}
    (hfor : List.Forall₂ IsFor prepared columns) (hcolumns : ∀ column ∈ columns, column ∈ file.columns)
    (hdistinct : (columns.map BundleColumn.id).Nodup)
    (hrows : ∀ buffer ∈ prepared, buffer.Prepared rowGroup.rowCount.toNat)
    (hnulls : ∀ buffer ∈ prepared, ∀ chunk ∈ file.metadata.chunksAt rowGroup,
      chunk.columnId = buffer.columnId → ¬ chunk.validityRef.IsNull → buffer.allowNulls = true)
    (hadmitted : admitFill file.metadata rowGroup (columns.map BundleColumn.id) = .ok ()) :
    file.AcceptsFill rowGroupId rowGroup (fillBuffers ⟨prepared⟩) columns := by
  have hgroup := (((opened_of_openFromSource h).invariant.rowGroupById _ _).mp hfound).1
  obtain ⟨hnodup, -, hchunks⟩ := exists_chunkOf hfault h hgroup
  refine ⟨hfound, List.forall₂_map_left_iff.mpr ?_, hdistinct, hadmitted⟩
  refine List.forall₂_iff_zip.mpr ⟨hfor.length_eq, fun {buffer column} hpair => ?_⟩
  obtain ⟨hbuffer, hcolumn⟩ := List.of_mem_zip hpair
  have hisFor := (List.forall₂_iff_zip.mp hfor).2 hpair
  refine ⟨hcolumns column hcolumn, ⟨fun name hname => ?_, fun id hid => ?_, Or.inl nofun⟩,
    fun chunk hchunk hid => ?_⟩
  · exact hisFor.name.symm.trans (Option.some.inj hname)
  · exact hisFor.columnId.symm.trans (Option.some.inj hid)
  · -- the chunk has the rows that the buffer was prepared for
    obtain ⟨chunk', hchunk', hid', -, hof⟩ := hchunks column (hcolumns column hcolumn)
    obtain rfl := eq_of_nodup_map hnodup hchunk hchunk' (hid.trans hid'.symm)
    have hprepared := hrows buffer hbuffer
    have hallow := hnulls buffer hbuffer chunk hchunk (hid.trans hisFor.columnId.symm)
    refine ⟨hisFor.values, ?_, hallow, fun hnull => ⟨buffer.validityBytes, ?_, ?_⟩⟩
    · rw [hof.rowCount]
      exact hprepared.values.hasRoom
    · rw [asFillBuffer]
      exact if_pos (hallow hnull)
    · rw [hof.rowCount, hprepared.validity (hallow hnull)]

/-- A fill that is accepted returns what the owned read returns, an error included. -/
lemma AcceptsFill.fst_run_readRowGroupInto {buffers : List ColumnBundleColumnFillBuffer}
    (hbuffers : buffers ≠ []) (haccepts : file.AcceptsFill rowGroupId rowGroup buffers columns) :
    ((Ocb.readRowGroupInto source zstd file.metadata file.columns rowGroupId).run buffers).1 =
      fillReport <$> readRowGroup source zstd file.metadata file.columns rowGroupId
        (columns.map BundleColumn.id) := by
  have hlimits := (graph_of_openFromSource h).resourceLimits_eq
  obtain ⟨targets, rfl, hprepare⟩ := haccepts.exists_prepared hfault h hbuffers
  obtain ⟨-, htargets⟩ := accepts_of_prepareFill hfault h hprepare
  have hfst := fst_run_fillTargets hlimits htargets
  rw [readRowGroup_targets hfault h haccepts.found htargets, run_of_prepareFill_ok hprepare,
    Fallible.run_bind]
  generalize (fillTargets source zstd file.metadata rowGroup.rowCount.toNat targets).run buffers =
    outcome at hfst ⊢
  obtain ⟨result, after⟩ := outcome
  dsimp only at hfst
  rw [hfst]
  rcases (List.mapM _ _ : Result (List ColumnArray)) with e | arrays <;> rfl

/-- The read of a row group into a slot returns what the owned read returns, an error included. -/
theorem fst_run_readRowGroupIntoReusable_eq {slot : ColumnBundleReusableBuffers}
    (hfor : List.Forall₂ IsFor slot.columns columns)
    (hcolumns : ∀ column ∈ columns, column ∈ file.columns) (hempty : columns ≠ [])
    (hdistinct : (columns.map BundleColumn.id).Nodup)
    (hfound : file.metadata.rowGroupById rowGroupId = some rowGroup)
    (hnulls : slot.AcceptsNulls file [rowGroupId])
    (hadmitted : admitFill file.metadata rowGroup (columns.map BundleColumn.id) = .ok ()) :
    ((readRowGroupIntoReusable source zstd file.metadata file.columns rowGroupId).run slot).1 =
      fillReport <$> readRowGroup source zstd file.metadata file.columns rowGroupId
        (columns.map BundleColumn.id) := by
  have hgroup := (((opened_of_openFromSource h).invariant.rowGroupById _ _).mp hfound).1
  have hrowCount : rowCountForRowGroup file.metadata rowGroupId = .ok rowGroup.rowCount.toNat := by
    rw [rowCountForRowGroup, hfound, okOr_some]
    rfl
  have hok : (prepareColumns rowGroup.rowCount.toNat slot.columns).1 = .ok () := by
    refine fst_prepareColumns_eq_ok fun buffer hbuffer => ?_
    obtain ⟨column, hcolumn, hbufferFor⟩ := exists_of_forall₂ hfor.flip hbuffer
    exact isOk_resizeForRows_of_isFor hfault h hgroup (hcolumns column hcolumn) hbufferFor
  have hrows := prepared_of_prepareColumns hok
  have hshape := map_emptied_prepareColumns rowGroup.rowCount.toNat slot.columns
  rw [run_readRowGroupIntoReusable, hrowCount]
  dsimp only
  generalize prepareColumns rowGroup.rowCount.toNat slot.columns = prepared at hok hrows hshape ⊢
  obtain ⟨result, prepared⟩ := prepared
  obtain rfl : result = .ok () := hok
  dsimp only at hrows hshape ⊢
  have hprepared := forall₂_isFor hshape hfor
  have hbuffers : fillBuffers ⟨prepared⟩ ≠ [] := by
    intro hnil
    obtain rfl : prepared = [] := List.map_eq_nil_iff.mp hnil
    cases hprepared
    exact hempty rfl
  have haccepts := (@AcceptsNulls.of_shape file [rowGroupId] ⟨prepared⟩ slot hnulls hshape) rowGroupId
    (List.mem_singleton_self _) rowGroup hfound
  exact (acceptsFill_of_prepared hfault h hfound hprepared hcolumns hdistinct hrows haccepts
    hadmitted).fst_run_readRowGroupInto hfault h hbuffers

end Read

end ColumnBundleFile

/-! ### What a worker makes of its ordinal -/

/-- Every row group of an admitted plan is within the limits by itself. -/
lemma admitFill_of_validateContiguous {m : OcbMetadataV1} {plan : ColumnBundleReadPlan} {size : ℕ}
    {u : Unit} (h : validateContiguousInFlightPlanResourceLimits m plan size = .ok u) {id : UInt32}
    (hid : id ∈ plan.rowGroupIds) {rowGroup : OcbRowGroupDescV1}
    (hfound : m.rowGroupById id = some rowGroup) :
    admitFill m rowGroup plan.projectedColumnIds = .ok () := by
  obtain ⟨footprints, hfootprints, hwaves⟩ := bind_eq_ok.mp h
  obtain ⟨rowGroups, hrowGroups, hfootprints⟩ := bind_eq_ok.mp hfootprints
  obtain ⟨_, -, hrowGroups⟩ := bind_eq_ok.mp hrowGroups
  obtain ⟨rowGroup', hmem, hrowGroup⟩ := exists_of_forall₂ (mapM_eq_ok.mp hrowGroups).flip hid
  obtain rfl := Option.some.inj ((okOr_eq_ok.mp hrowGroup).symm.trans hfound)
  obtain ⟨footprint, hmem, hfootprint⟩ := exists_of_forall₂ (mapM_eq_ok.mp hfootprints).flip hmem
  obtain ⟨i, hi, rfl⟩ := List.getElem_of_mem hmem
  -- the wave of the row group is within the limits, so the row group is
  have hpos : 0 < max size 1 := by omega
  have hwithin := withinLimits_of_validateWaves hpos hwaves (i / max size 1)
  have hwave : footprints[i] ∈ (footprints.drop (i / max size 1 * max size 1)).take
      (max size 1) := by
    refine List.mem_of_getElem? (i := i % max size 1) ?_
    rw [List.getElem?_take_of_lt (Nat.mod_lt _ hpos), List.getElem?_drop, Nat.div_add_mod',
      List.getElem?_eq_getElem hi]
  have hle : ∀ f : SelectedResourceFootprint → ℕ, f footprints[i] ≤
      (((footprints.drop (i / max size 1 * max size 1)).take (max size 1)).map f).sum :=
    fun f => List.single_le_sum (fun _ _ => Nat.zero_le _) _ (List.mem_map_of_mem hwave)
  rw [admitFill, hfootprint, ok_bind, validateFootprintTotals,
    failIf_neg (not_lt.mpr ((hle _).trans hwithin.compressed)), ok_bind,
    failIf_neg (not_lt.mpr ((hle _).trans hwithin.decoded))]

namespace ColumnBundleFile

open ColumnBundleReusableBuffers ColumnBundleReusableColumnBuffer

variable {file : ColumnBundleFile} {source : OcbReadSource} {zstd : ZstdCodec}
  {validation : OcbOpenValidationMode} {limits : OcbResourceLimits} {plan : ColumnBundleReadPlan}
  {rowGroupIds : List UInt32} {options : ColumnBundleReadCursorOptions}
  {pool : ColumnBundleReusableBufferPool} {S : Type}
  {visitor : S → ColumnBundleReusableBatchView → S × Result ColumnBundleVisitControl}

lemma nodup_projectedColumnIds {u : Unit} (h : file.validateReadPlan plan = .ok u) :
    plan.projectedColumnIds.Nodup := by
  obtain ⟨_, hcolumns, -⟩ := bind_eq_ok.mp h
  exact (checkPlanIds_eq_ok hcolumns).2.1

/-- The row groups of a visit are known, so that there is a task for each. -/
lemma isOk_tasks_of_visitedIntoPlan (h : file.Opened) {executed : ColumnBundleReadPlan}
    (hplan : file.visitedIntoPlan plan rowGroupIds options pool = .ok executed) :
    IsOk (file.boundedOrderedTasksForPlan executed) := by
  obtain ⟨_, hvalid, hplan⟩ := bind_eq_ok.mp hplan
  obtain ⟨_, -, hplan⟩ := bind_eq_ok.mp hplan
  obtain ⟨selected, hselected, hplan⟩ := bind_eq_ok.mp hplan
  obtain ⟨_, -, hplan⟩ := bind_eq_ok.mp hplan
  cases hplan
  obtain ⟨tasks, htasks, -⟩ := @Opened.exists_rowGroupTasks file selected h
    (fun id hid => known_of_validateReadPlan hvalid id
      (mem_of_plannedRowGroupSubset hselected hid))
    "OCB bounded scheduler row group not found" "OCB bounded scheduler row range overflows"
  exact ⟨tasks, htasks⟩

namespace VisitIntoRun

variable (run : file.VisitIntoRun plan rowGroupIds options pool) {s₀ : S}

lemma slot_mem (i : ℕ) : pool.buffers.getD
    ((run.visitExecutionPlanInto zstd visitor s₀).slotIndex i) ⟨[]⟩ ∈ pool.buffers := by
  have hlt : (run.visitExecutionPlanInto zstd visitor s₀).slotIndex i < pool.buffers.length := by
    have hmod := Nat.mod_lt i run.waveSize_pos
    have hle : run.waveSize ≤ pool.buffers.length := min_le_right _ _
    exact hmod.trans_le hle
  rw [List.getD_eq_getElem?_getD, List.getElem?_eq_getElem hlt]
  exact List.getElem_mem hlt

section

variable (hfault : source.FaultFree) (h : openFromSource source zstd validation limits = .ok file)
  (hnulls : ∀ slot ∈ pool.buffers, slot.AcceptsNulls file run.executed.rowGroupIds)

include hfault h hnulls

/-- What is prepared of an ordinal is the report of the owned read, or its error. -/
lemma prepared_isolated {i : ℕ} {id : UInt32} (hid : run.executed.rowGroupIds[i]? = some id) :
    (run.visitExecutionPlanInto zstd visitor s₀).isolated.prepared i =
      fillReport <$> file.readPlanRowGroup zstd run.executed id := by
  have hopened := opened_of_openFromSource h
  have hforall := run.forall₂_taskOf hopened
  obtain ⟨hi, rfl⟩ := List.getElem?_eq_some_iff.mp hid
  have hi' : i < run.tasks.length := hforall.length_eq ▸ hi
  obtain ⟨id, hid', hreads⟩ := @exists_fill _ zstd _ _ _ _ run S visitor s₀ hopened i hi'
  obtain rfl := Option.some.inj (hid'.symm.trans hid)
  have hmem := List.getElem_mem hi
  have htask : file.TaskOf run.executed.rowGroupIds[i] run.tasks[i] :=
    (List.forall₂_iff_get.mp hforall).2 i hi hi'
  obtain ⟨rowGroup, hfound, -⟩ := htask.rowGroup
  obtain ⟨columns, hempty, hcolumns, hids, hslots⟩ := run.exists_columns
  obtain ⟨selected, hexecuted, hvalid, -⟩ := run.exists_selected
  have hslot := @slot_mem _ zstd _ _ _ _ S visitor run s₀ i
  have hdistinct : (columns.map BundleColumn.id).Nodup := by
    rw [hids, hexecuted]
    show plan.projectedColumnIds.Nodup
    exact nodup_projectedColumnIds hvalid
  have hsource := source_of_openFromSource h
  have hadmitted : admitFill file.metadata rowGroup (columns.map BundleColumn.id) = .ok () := by
    rw [hids]
    exact admitFill_of_validateContiguous run.admitted hmem hfound
  rw [BoundedOrdered.prepared]
  show (((run.visitExecutionPlanInto zstd visitor s₀).fill i).run (pool.buffers.getD
    ((run.visitExecutionPlanInto zstd visitor s₀).slotIndex i) ⟨[]⟩)).1 >>= pure = _
  rw [bind_pure, hreads, hsource, fst_run_readRowGroupIntoReusable_eq hfault h (hslots _ hslot)
    hcolumns hempty hdistinct hfound (fun id' hid' => ?_) hadmitted, readPlanRowGroup, hsource,
    ← hids]
  obtain rfl := List.mem_singleton.mp hid'
  exact hnulls _ hslot _ hmem

/-- The commit of an ordinal hands its batch to the visitor. -/
lemma orderedCommit_isolated {i : ℕ} {id : UInt32} {batch : ColumnBatch}
    (hid : run.executed.rowGroupIds[i]? = some id)
    (hread : file.readPlanRowGroup zstd run.executed id = .ok batch) (s : S) :
    (run.visitExecutionPlanInto zstd visitor s₀).isolated.orderedCommit s i (fillReport batch) =
      visitor s batch.view := by
  have hprepared := @prepared_isolated _ _ _ _ _ _ _ _ _ _ visitor run s₀ hfault h hnulls i id hid
  rw [hread, BoundedOrdered.prepared] at hprepared
  change ((((run.visitExecutionPlanInto zstd visitor s₀).fill i).run _).1 >>= pure) = _ at hprepared
  rw [bind_pure] at hprepared
  have hi : i < run.tasks.length := by
    rw [← (run.forall₂_taskOf (opened_of_openFromSource h)).length_eq]
    exact (List.getElem?_eq_some_iff.mp hid).1
  obtain ⟨id', batch', hid', hread', hview⟩ := run.view_fill hfault h hi rfl hprepared
  obtain rfl := Option.some.inj (hid.symm.trans hid')
  obtain rfl := Except.ok.inj (hread.symm.trans hread')
  exact congrArg (visitor s) hview

/-- The verdict of the executor is what the script does. -/
lemma windowedVerdict_isolated :
    ((run.visitExecutionPlanInto zstd visitor s₀).isolated.windowedVerdict.outcome.toCursorReport
        run.executed.report run.tasks,
      (run.visitExecutionPlanInto zstd visitor s₀).isolated.windowedVerdict.commitState) =
    (file.readScript zstd run.executed run.waveSize).run (fun s batch => visitor s batch.view)
      s₀ := by
  have hopened := opened_of_openFromSource h
  have hforall := run.forall₂_taskOf hopened
  obtain ⟨selected, hexecuted, hvalid, hselected, -⟩ := run.exists_selected
  have hnodup : run.executed.rowGroupIds.Nodup :=
    (nodup_of_validateReadPlan hvalid).sublist run.sublist
  have hcount : run.tasks.length < 2 ^ usizeBits := by
    have hids := length_le_of_nodup hnodup
    rw [← hforall.length_eq, usizeBits]
    omega
  refine windowedVerdict_eq_deliver fillReport hcount rfl
    (by rw [List.length_map, hforall.length_eq]) fun j read hread => ?_
  rw [List.getElem?_map, Option.map_eq_some_iff] at hread
  obtain ⟨id, hid, rfl⟩ := hread
  refine ⟨run.prepared_isolated hfault h hnulls hid, fun batch hbatch =>
    ⟨run.orderedCommit_isolated hfault h hnulls hid hbatch, ?_⟩⟩
  obtain ⟨hj, rfl⟩ := List.getElem?_eq_some_iff.mp hid
  have hj' : j < run.tasks.length := hforall.length_eq ▸ hj
  obtain ⟨rowGroup, hfound, -, hrows⟩ := ((List.forall₂_iff_get.mp hforall).2 j hj hj').rowGroup
  obtain ⟨rowGroup', hfound', -, -, hrows'⟩ := hopened.of_readPlanRowGroup hbatch
  obtain rfl := Option.some.inj (hfound.symm.trans hfound')
  exact ⟨run.tasks[j], List.getElem?_eq_getElem hj', hrows.trans hrows'.symm⟩

end

/-- The script of a visit that starts an execution. -/
lemma visitPlanIntoScript_eq : file.visitPlanIntoScript zstd plan rowGroupIds options pool =
    file.readScript zstd run.executed run.waveSize := by
  have hadmitted := run.admitted
  rw [visitPlanIntoScript, run.visited]
  dsimp only
  rw [if_neg run.nonempty, hadmitted]
  rfl

end VisitIntoRun

/-- With fewer slots than row groups in flight, only as many row groups are read at a time. -/
lemma visitPlanIntoScript_eq_visitPlanScript
    (hpool : validateReusableBufferPool pool plan file.columns = .ok ()) :
    file.visitPlanIntoScript zstd plan rowGroupIds options pool =
      file.visitPlanScript zstd plan rowGroupIds
        ⟨min options.maxInFlightRowGroups pool.buffers.length, options.ordered⟩ := by
  have hnonempty : pool.buffers ≠ [] := by
    obtain ⟨_, hpool, -⟩ := bind_eq_ok.mp hpool
    exact failIf_eq_ok.mp hpool
  have hlength := List.length_pos_of_ne_nil hnonempty
  have hwave : ∀ executed : ColumnBundleReadPlan, visitWaveSize executed
      ⟨min options.maxInFlightRowGroups pool.buffers.length, options.ordered⟩ =
        visitIntoWaveSize executed options pool := by
    intro executed
    rw [visitIntoWaveSize, visitWaveSize, visitWaveSize]
    dsimp only
    omega
  have hvisited : file.visitedIntoPlan plan rowGroupIds options pool = file.visitedPlan plan
      rowGroupIds ⟨min options.maxInFlightRowGroups pool.buffers.length, options.ordered⟩ := by
    have hzero : min options.maxInFlightRowGroups pool.buffers.length = 0 ↔
        options.maxInFlightRowGroups = 0 := by omega
    rw [visitedIntoPlan, visitedPlan, hpool, validateReadCursorOptions, validateReadCursorOptions]
    simp only [hzero]
    rfl
  rw [visitPlanIntoScript, visitPlanScript, hvisited]
  cases file.visitedPlan plan rowGroupIds
      ⟨min options.maxInFlightRowGroups pool.buffers.length, options.ordered⟩ with
  | error error => rfl
  | ok executed =>
    dsimp only
    rw [visitScript]
    exact hwave executed ▸ rfl

section

variable {s s' : S} {result : Result ColumnBundleReadCursorReport} (hfault : source.FaultFree)
  (h : openFromSource source zstd validation limits = .ok file)
  (hnulls : ∀ slot ∈ pool.buffers, slot.AcceptsNulls file plan.rowGroupIds)

include hfault h hnulls

/-- However it is scheduled, a visit into reusable buffers plays its script. -/
lemma visitsPlanRowGroupsInto_iff :
    file.VisitsPlanRowGroupsInto zstd plan rowGroupIds options pool visitor s result s' ↔
      (result, s') = (file.visitPlanIntoScript zstd plan rowGroupIds options pool).run
        (fun s batch => visitor s batch.view) s := by
  have hopened := opened_of_openFromSource h
  constructor
  · intro hvisits
    cases hvisits with
    | refused hrefused =>
      rw [visitPlanIntoScript, hrefused]
      rfl
    | empty hplan hempty =>
      rw [visitPlanIntoScript, hplan]
      dsimp only
      rw [if_pos hempty]
      rfl
    | limits hplan hempty hlimits =>
      rw [visitPlanIntoScript, hplan]
      dsimp only
      rw [if_neg hempty, hlimits]
      rfl
    | @tasks executed _ hplan hempty hlimits htasks =>
      -- the row groups of a valid plan are known
      exfalso
      obtain ⟨tasks, hok⟩ := isOk_tasks_of_visitedIntoPlan hopened hplan
      rw [hok] at htasks
      cases htasks
    | parallel run hreachable hpc =>
      have hob := @VisitIntoRun.oblivious _ _ _ _ _ _ _ _ _ run S visitor s hfault h
      have hverdict := hreachable.verdict hob run.waveSize_pos (run.threads_pos hopened) hpc
      rw [run.visitPlanIntoScript_eq, ← run.windowedVerdict_isolated hfault h fun slot hslot id hid =>
        hnulls slot hslot id (run.sublist.subset hid), ← hverdict]
  · intro hrun
    rw [visitPlanIntoScript] at hrun
    cases hplan : file.visitedIntoPlan plan rowGroupIds options pool with
    | error error =>
      rw [hplan] at hrun
      cases hrun
      exact .refused hplan
    | ok executed =>
      rw [hplan] at hrun
      dsimp only at hrun
      by_cases hempty : executed.rowGroupIds = []
      · rw [if_pos hempty] at hrun
        cases hrun
        exact .empty hplan hempty
      rw [if_neg hempty] at hrun
      cases hlimits : validateContiguousInFlightPlanResourceLimits file.metadata executed
          (visitIntoWaveSize executed options pool) with
      | error error =>
        rw [hlimits] at hrun
        cases hrun
        exact .limits hplan hempty hlimits
      | ok u =>
        rw [hlimits] at hrun
        dsimp only at hrun
        obtain ⟨tasks, htasks⟩ := isOk_tasks_of_visitedIntoPlan hopened hplan
        let run : file.VisitIntoRun plan rowGroupIds options pool :=
          ⟨executed, tasks, hplan, hempty, hlimits, htasks⟩
        have hob := @VisitIntoRun.oblivious _ _ _ _ _ _ _ _ _ run S visitor s hfault h
        obtain ⟨t, outcome, hreachable, hpc⟩ := SlotState.exists_finished hob run.waveSize_pos
          (run.threads_pos hopened)
        have hverdict := hreachable.verdict hob run.waveSize_pos (run.threads_pos hopened) hpc
        have hscript := @VisitIntoRun.windowedVerdict_isolated _ _ _ _ _ _ _ _ _ S visitor run s
          hfault h fun slot hslot id hid => hnulls slot hslot id (run.sublist.subset hid)
        rw [← hverdict] at hscript
        obtain ⟨rfl, rfl⟩ := Prod.mk.inj (hrun.trans hscript.symm)
        exact .parallel run hreachable hpc

/-- A visit into a pool of slots may end as the owned visit may that has as many row groups in flight
as there are slots at most: the same batches, the same report or error. -/
theorem visitsPlanRowGroupsInto_iff_owned
    (hpool : validateReusableBufferPool pool plan file.columns = .ok ()) :
    file.VisitsPlanRowGroupsInto zstd plan rowGroupIds options pool visitor s result s' ↔
      file.VisitsPlanRowGroups zstd plan rowGroupIds (fun s batch => visitor s batch.view)
        ⟨min options.maxInFlightRowGroups pool.buffers.length, options.ordered⟩ s result s' := by
  rw [visitsPlanRowGroupsInto_iff hfault h hnulls,
    visitsPlanRowGroups_iff (opened_of_openFromSource h), visitPlanIntoScript_eq_visitPlanScript
      hpool]

end

end ColumnBundleFile

open ColumnBundleFile in
/-- However the visit of the small file into its slot is scheduled, the owned visit may end so. -/
theorem visitsPlanRowGroupsInto_iff_owned_sample : ∃ file,
    openFromSource (Sample.file .i32) (fun _ _ => ⟨[], true⟩) .metadataGraph .policyA = .ok file ∧
    ∀ result n, file.VisitsPlanRowGroupsInto (fun _ _ => ⟨[], true⟩) Sample.plan [0] ⟨4, true⟩
      ⟨[Sample.slot]⟩ (fun n _ => (n + 1, .ok .continue)) 0 result n ↔
        file.VisitsPlanRowGroups (fun _ _ => ⟨[], true⟩) Sample.plan [0]
          (fun n _ => (n + 1, .ok .continue)) ⟨1, true⟩ 0 result n := by
  obtain ⟨cRoot, cSchema, cStrings, cDictionaries, cIndex, hopen⟩ :=
    Sample.openFromSource .i32 fun _ _ => ⟨[], true⟩
  refine ⟨_, hopen, fun result n => visitsPlanRowGroupsInto_iff_owned
    (OcbReadSource.faultFree_ofBytes _ _) hopen ?_ rfl⟩
  intro slot hslot id hid rowGroup hfound buffer hbuffer chunk hchunk hcolumn hnull
  obtain rfl := List.mem_singleton.mp hslot
  obtain rfl := List.mem_singleton.mp hbuffer
  rfl

end ArcadiaTio.Ocb
