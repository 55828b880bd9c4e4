import ArcadiaTio.Ocb.Bundle.Reservation
import ArcadiaTio.Ocb.Bundle.VisitIntoScript

/-!
# Every read of a fully validated file

A fill is admitted for its one row group and a visit wave by wave, and both read the payloads that
owned reads read.  On a file that was opened in full-payload mode they fail for the same reasons
only: the request is not in order, its bytes are beyond the limits, or the visitor fails
(`fullPayload_reads`).
-/

namespace ArcadiaTio.Ocb

open ArcadiaTio.Lib

/-! ### Waves -/

section Waves

variable {footprints : List SelectedResourceFootprint} {limits : OcbResourceLimits} {size : ℕ}

/-- Row groups that are within the limits together are so in waves. -/
lemma validateWaves_of_withinLimits (h : WithinLimits limits footprints) :
    validateWaves footprints size limits = .ok () := by
  rw [validateWaves, forM_eq_ok]
  intro wave hwave
  obtain ⟨k, rfl⟩ := eq_window_of_mem_waves hwave
  have hwithin := h.of_sublist ((List.take_sublist size _).trans (List.drop_sublist (k * size) _))
  obtain ⟨total, hadd, htotal⟩ := exists_firstTotal hwithin.sumsFit
  obtain ⟨_, hvalid⟩ := (isOk_validateFootprintTotals htotal).mpr hwithin
  rw [hadd, okOr_some, ok_bind, hvalid]

/-- A part of what fits fits. -/
lemma SumsFit.of_sublist {part : List SelectedResourceFootprint} (h : SumsFit footprints)
    (hpart : part.Sublist footprints) : SumsFit part := by
  have hle : ∀ f : SelectedResourceFootprint → ℕ, (part.map f).sum ≤ (footprints.map f).sum :=
    fun f => (hpart.map f).sum_le_sum fun _ _ => Nat.zero_le _
  exact ⟨(hle _).trans_lt h.compressed, (hle _).trans_lt h.decoded⟩

lemma not_isCorrupt_validateWaves (h : SumsFit footprints) :
    ErrorsIn (fun e => ¬ e.IsCorrupt) (validateWaves footprints size limits) := by
  refine .forM fun wave hwave => ?_
  obtain ⟨k, rfl⟩ := eq_window_of_mem_waves hwave
  have hfit := h.of_sublist ((List.take_sublist size _).trans (List.drop_sublist (k * size) _))
  obtain ⟨total, hadd, -⟩ := exists_firstTotal hfit
  rw [hadd, okOr_some, ok_bind]
  exact not_isCorrupt_validateFootprintTotals total

end Waves

/-! ### Scripts -/

section Scripts

variable {S : Type} {visitor : S → ColumnBatch → S × Result ColumnBundleVisitControl}
  {failure : Option ArcadiaTioError}

/-- A delivery fails with the failure behind it, or with an error of the visitor. -/
lemma VisitScript.deliver_eq_error {batches : List ColumnBatch}
    {report : ColumnBundleReadCursorReport} {s : S} {e : ArcadiaTioError}
    (h : (deliver visitor failure batches report s).1 = .error e) :
    failure = some e ∨ ∃ t batch, (visitor t batch).2 = .error e := by
  induction batches generalizing report s with
  | nil =>
    cases failure with
    | none => cases h
    | some error => exact .inl (congrArg some (Except.error.inj h))
  | cons batch rest ih =>
    rw [deliver] at h
    dsimp only at h
    rcases hvisited : (visitor s batch).2 with error | _ | _
    · rw [hvisited] at h
      exact .inr ⟨s, batch, hvisited.trans (congrArg Except.error (Except.error.inj h))⟩
    · rw [hvisited] at h
      exact ih h
    · rw [hvisited] at h
      cases h

end Scripts

namespace ColumnBundleFile

variable {file : ColumnBundleFile} {source : OcbReadSource} {zstd : ZstdCodec}
  {limits : OcbResourceLimits} {plan : ColumnBundleReadPlan}

section

variable (hfault : source.FaultFree)
  (h : openFromSource source zstd .fullPayload limits = .ok file)

include hfault h

/-- A plan whose bytes are within the limits is admitted in waves. -/
lemma waveAdmission_eq_ok (hselects : file.Selects plan)
    (hwithin : PlanWithinLimits file.metadata plan) (size : ℕ) :
    validateContiguousInFlightPlanResourceLimits file.metadata plan size = .ok () := by
  rw [validateContiguousInFlightPlanResourceLimits, footprints_eq_ok hfault h hselects hwithin,
    ok_bind]
  exact validateWaves_of_withinLimits hwithin.toWithinLimits

lemma not_isCorrupt_waveAdmission (hselects : file.Selects plan)
    (hfit : SumsFit (planFootprints file.metadata plan)) (size : ℕ) :
    ErrorsIn (fun e => ¬ e.IsCorrupt)
      (validateContiguousInFlightPlanResourceLimits file.metadata plan size) := by
  obtain ⟨herrors, hsame⟩ := footprints_cases hfault h hselects hfit
  refine ErrorsIn.bind herrors fun footprints hfootprints => ?_
  rw [hsame footprints hfootprints]
  exact not_isCorrupt_validateWaves hfit

end

/-! ### Visits -/

/-- A visit of some row groups of a plan is in order. -/
structure RequestsVisit (file : ColumnBundleFile) (plan : ColumnBundleReadPlan)
    (rowGroupIds : List UInt32) (options : ColumnBundleReadCursorOptions) : Prop where
  selects : file.Selects plan
  known : ∀ id ∈ rowGroupIds, id ∈ plan.rowGroupIds
  nodup : rowGroupIds.Nodup
  inFlight : options.maxInFlightRowGroups ≠ 0
  ordered : options.ordered = true

section Visits

variable {rowGroupIds : List UInt32} {options : ColumnBundleReadCursorOptions}

lemma RequestsVisit.visitedPlan_eq_ok (h : file.RequestsVisit plan rowGroupIds options) :
    file.visitedPlan plan rowGroupIds options =
      .ok (plan.ofSelected (plan.rowGroupIds.filter (· ∈ rowGroupIds))) := by
  rw [visitedPlan, validateReadPlan_eq_ok.mpr h.selects, ok_bind, validateReadCursorOptions,
    failIf_neg h.inFlight, ok_bind, failIf_neg (not_not.mpr h.ordered), ok_bind,
    plannedRowGroupSubset_eq_ok.mpr ⟨h.known, h.nodup, rfl⟩]
  rfl

lemma not_isCorrupt_visitedPlan :
    ErrorsIn (fun e => ¬ e.IsCorrupt) (file.visitedPlan plan rowGroupIds options) := by
  refine not_isCorrupt_validateReadPlan.bind fun _ _ => .bind ?_ fun _ _ => .bind ?_ fun _ _ => .ok _
  · exact .bind (.failIf fun _ => ArcadiaTioError.not_isCorrupt_ocbInvalidInput _) fun _ _ =>
      .failIf fun _ hcorrupt => by cases hcorrupt
  · exact errorsIn_checkPlanIds.bind fun _ _ => .ok _

/-- What a visit reads. -/
lemma of_visitedPlan {executed : ColumnBundleReadPlan}
    (h : file.visitedPlan plan rowGroupIds options = .ok executed) :
    file.Selects plan ∧ executed = plan.ofSelected (plan.rowGroupIds.filter (· ∈ rowGroupIds)) := by
  obtain ⟨_, hvalid, h⟩ := bind_eq_ok.mp h
  obtain ⟨_, -, h⟩ := bind_eq_ok.mp h
  obtain ⟨selected, hselected, h⟩ := bind_eq_ok.mp h
  cases h
  obtain ⟨-, -, rfl⟩ := plannedRowGroupSubset_eq_ok.mp hselected
  exact ⟨validateReadPlan_eq_ok.mp hvalid, rfl⟩

/-- When all row groups are read, the script does not fail. -/
lemma failure_readScript {size : ℕ}
    (h : ∀ id ∈ plan.rowGroupIds, IsOk (file.readPlanRowGroup zstd plan id)) :
    (file.readScript zstd plan size).failure = none := by
  obtain ⟨batches, hbatches⟩ := isOk_mapM.mpr h
  rw [readScript, readPrefix_of_mapM hbatches]

variable (hfault : source.FaultFree)
  (h : openFromSource source zstd .fullPayload limits = .ok file)

include hfault h

/-- Why a visit fails by itself. -/
lemma readsSafely_script {e : ArcadiaTioError}
    (hfailure : (file.visitPlanScript zstd plan rowGroupIds options).failure = some e) :
    file.ReadsSafely (file.RequestsVisit plan rowGroupIds options)
      (plan.ofSelected (plan.rowGroupIds.filter (· ∈ rowGroupIds)))
      (.error e : Result ColumnBundleReadCursorReport) := by
  rw [visitPlanScript] at hfailure
  cases hplan : file.visitedPlan plan rowGroupIds options with
  | error error =>
    -- the request is not in order
    rw [hplan] at hfailure
    obtain rfl : error = e := Option.some.inj hfailure
    refine ⟨fun hrequest => ?_, fun e' he hcorrupt => ?_⟩
    · rw [hrequest.visitedPlan_eq_ok] at hplan
      cases hplan
    · cases he
      exact absurd hcorrupt (not_isCorrupt_visitedPlan _ hplan)
  | ok executed =>
    rw [hplan] at hfailure
    obtain ⟨hselects, rfl⟩ := of_visitedPlan hplan
    have hpart := hselects.part rowGroupIds
    dsimp only at hfailure
    rw [visitScript] at hfailure
    split at hfailure
    · cases hfailure
    cases hlimits : validateContiguousInFlightPlanResourceLimits file.metadata
        (plan.ofSelected (plan.rowGroupIds.filter (· ∈ rowGroupIds)))
        (visitWaveSize (plan.ofSelected (plan.rowGroupIds.filter (· ∈ rowGroupIds))) options) with
    | error error =>
      -- a wave is not admitted
      rw [hlimits] at hfailure
      obtain rfl : error = e := Option.some.inj hfailure
      refine ⟨fun _ hwithin => ?_, fun e' he hcorrupt hfit => ?_⟩
      · rw [waveAdmission_eq_ok hfault h hpart hwithin] at hlimits
        cases hlimits
      · cases he
        exact not_isCorrupt_waveAdmission hfault h hpart hfit _ _ hlimits hcorrupt
    | ok =>
      rw [hlimits] at hfailure
      rw [failure_readScript fun id hid => isOk_readPlanRowGroup hfault h hpart hid] at hfailure
      cases hfailure

/-- A visit ends with an error of its visitor, or as safely as a read. -/
theorem readsSafely_visit {S : Type}
    {visitor : S → ColumnBatch → S × Result ColumnBundleVisitControl} {s s' : S}
    {result : Result ColumnBundleReadCursorReport}
    (hvisits : file.VisitsPlanRowGroups zstd plan rowGroupIds visitor options s result s') :
    (∃ e t batch, result = .error e ∧ (visitor t batch).2 = .error e) ∨
      file.ReadsSafely (file.RequestsVisit plan rowGroupIds options)
        (plan.ofSelected (plan.rowGroupIds.filter (· ∈ rowGroupIds))) result := by
  rw [visitsPlanRowGroups_iff (opened_of_openFromSource h)] at hvisits
  have hresult := congrArg Prod.fst hvisits
  cases result with
  | ok report => exact .inr ⟨fun _ _ => isOk_ok, fun e he => by cases he⟩
  | error e =>
    rcases VisitScript.deliver_eq_error hresult.symm with hfailure | ⟨t, batch, hvisitor⟩
    · exact .inr (readsSafely_script hfault h hfailure)
    · exact .inl ⟨e, t, batch, rfl, hvisitor⟩

/-- A visit into reusable buffers that accept nulls is no different. -/
theorem readsSafely_visitInto {S : Type} {pool : ColumnBundleReusableBufferPool}
    {visitor : S → ColumnBundleReusableBatchView → S × Result ColumnBundleVisitControl} {s s' : S}
    {result : Result ColumnBundleReadCursorReport}
    (hnulls : ∀ slot ∈ pool.buffers, slot.AcceptsNulls file plan.rowGroupIds)
    (hpool : validateReusableBufferPool pool plan file.columns = .ok ())
    (hvisits : file.VisitsPlanRowGroupsInto zstd plan rowGroupIds options pool visitor s result
      s') :
    (∃ e t view, result = .error e ∧ (visitor t view).2 = .error e) ∨
      file.ReadsSafely (file.RequestsVisit plan rowGroupIds options)
        (plan.ofSelected (plan.rowGroupIds.filter (· ∈ rowGroupIds))) result := by
  rw [visitsPlanRowGroupsInto_iff_owned hfault h hnulls hpool] at hvisits
  rcases readsSafely_visit hfault h hvisits with ⟨e, t, batch, hresult, hvisitor⟩ | hsafe
  · exact .inl ⟨e, t, batch.view, hresult, hvisitor⟩
  · refine .inr ⟨fun hrequest => hsafe.ok ⟨hrequest.selects, hrequest.known, hrequest.nodup, ?_,
      hrequest.ordered⟩, hsafe.corrupt⟩
    obtain ⟨_, hslots, -⟩ := bind_eq_ok.mp hpool
    have hslots := List.length_pos_of_ne_nil (failIf_eq_ok.mp hslots)
    have hinFlight := hrequest.inFlight
    dsimp only
    omega

end Visits

/-! ### Fills -/

/-- The plan of some columns of one row group. -/
def columnsPlan (rowGroupId : UInt32) (columns : List BundleColumn) : ColumnBundleReadPlan where
  projectedColumnIds := columns.map BundleColumn.id
  rowGroupIds := [rowGroupId]
  report := buildReadReport 1 1 0 columns.length

/-- The buffers of a fill name distinct columns of a row group and have room for them. -/
structure RequestsFill (file : ColumnBundleFile) (rowGroupId : UInt32)
    (buffers : List ColumnBundleColumnFillBuffer) (columns : List BundleColumn) : Prop where
  nonempty : buffers ≠ []
  found : ∃ rowGroup, file.metadata.rowGroupById rowGroupId = some rowGroup ∧
    List.Forall₂ (fun buffer column => column ∈ file.columns ∧ buffer.Names column ∧
      ∀ chunk ∈ file.metadata.chunksAt rowGroup, chunk.columnId = column.id →
        buffer.Fits column chunk) buffers columns
  distinct : (columns.map BundleColumn.id).Nodup

section Fills

variable {rowGroupId : UInt32} {rowGroup : OcbRowGroupDescV1}
  {buffers : List ColumnBundleColumnFillBuffer} {columns : List BundleColumn}
  {options : ColumnBundleReadFillOptions}

lemma RequestsFill.selects (h : file.RequestsFill rowGroupId buffers columns) :
    file.Selects (columnsPlan rowGroupId columns) where
  columns id hid := by
    obtain ⟨rowGroup, -, hbuffers⟩ := h.found
    obtain ⟨column, hcolumn, rfl⟩ := List.mem_map.mp hid
    obtain ⟨buffer, -, hmem, -⟩ := exists_of_forall₂ hbuffers hcolumn
    exact List.mem_map_of_mem hmem
  columnsNodup := h.distinct
  rowGroups id hid := by
    obtain ⟨rowGroup, hfound, -⟩ := h.found
    rw [List.mem_singleton.mp hid, hfound]
    rfl
  rowGroupsNodup := List.nodup_singleton _

/-- A buffer is checked against a valid chunk: only what the caller has asked for is refused. -/
lemma not_isCorrupt_resolveFill {column : BundleColumn} {chunk : OcbColumnChunkDescV1}
    (hof : ChunkOf source zstd limits rowGroup column chunk)
    {chunkByColumn : List (UInt32 × OcbColumnChunkDescV1)}
    (hlookup : chunkByColumn.lookup column.id = some chunk)
    (buffer : ColumnBundleColumnFillBuffer) :
    ErrorsIn (fun e => ¬ e.IsCorrupt) (resolveFill rowGroup chunkByColumn column buffer) := by
  have hinvalid : ∀ message, ¬ (ocbInvalidInput message).IsCorrupt :=
    ArcadiaTioError.not_isCorrupt_ocbInvalidInput
  have hnullable : ¬ (¬ column.nullable ∧ ¬ chunk.validityRef.IsNull) := by
    rintro ⟨hnot, hnull⟩
    exact hnot (hof.nullable hnull)
  have hcapacity : ErrorsIn (fun e => ¬ e.IsCorrupt)
      (buffer.values.validateCapacity rowGroup.rowCount.toNat) := by
    cases buffer.values with
    | fixedBinary width bytes =>
      exact .bind (.failIf fun _ => hinvalid _) fun _ _ =>
        .bind (.okOr (hinvalid _)) fun _ _ => .failIf fun _ => hinvalid _
    | _ => exact .failIf fun _ => hinvalid _
  have hvalidity : ErrorsIn (fun e => ¬ e.IsCorrupt) (checkFillValidity chunk buffer) := by
    rw [checkFillValidity]
    split
    · exact .ok _
    · exact .bind (.failIf fun _ => hinvalid _) fun _ _ =>
        .bind (.okOr (hinvalid _)) fun _ _ => .failIf fun _ => hinvalid _
  rw [resolveFill, hlookup, okOr_some, ok_bind, failIf_neg (not_not.mpr hof.physicalType), ok_bind,
    failIf_neg (not_not.mpr hof.rowCount), ok_bind, failIf_neg hnullable, ok_bind]
  exact .bind (.failIf fun _ => hinvalid _) fun _ _ => hcapacity.bind fun _ _ =>
    hvalidity.bind fun _ _ => .ok _

lemma not_isCorrupt_resolveFillColumn (columns : List BundleColumn)
    (buffer : ColumnBundleColumnFillBuffer) :
    ErrorsIn (fun e => ¬ e.IsCorrupt) (resolveFillColumn columns buffer) := by
  have hselector : ∀ {α : Type} (selector : Option α) (find : α → Option BundleColumn)
      (message : String), ErrorsIn (fun e => ¬ e.IsCorrupt)
        (resolveSelector selector find message) := by
    intro α selector find message
    cases selector with
    | none => exact .ok _
    | some key =>
      intro e he
      obtain ⟨-, rfl⟩ := okOr_eq_error.mp (map_eq_error.mp he)
      exact ArcadiaTioError.not_isCorrupt_ocbInvalidInput message
  refine (hselector _ _ _).bind fun byName _ => (hselector _ _ _).bind fun byId _ => ?_
  rcases byName with _ | left <;> rcases byId with _ | right
  · exact .ok _
  · exact .ok _
  · exact .ok _
  · exact .bind (.failIf fun _ => ArcadiaTioError.not_isCorrupt_ocbInvalidInput _) fun _ _ => .ok _

variable (hfault : source.FaultFree)
  (h : openFromSource source zstd .fullPayload limits = .ok file)

include hfault h

/-- Buffers are refused only for what the caller has asked for. -/
lemma not_isCorrupt_resolveFills (hgroup : rowGroup ∈ file.metadata.rowGroupIndex.rowGroups)
    (buffers : List ColumnBundleColumnFillBuffer) (seen : List UInt32) :
    ErrorsIn (fun e => ¬ e.IsCorrupt) (resolveFills file.columns rowGroup
      ((file.metadata.chunksAt rowGroup).map fun chunk => (chunk.columnId, chunk)) buffers
        seen) := by
  obtain ⟨-, -, hchunks⟩ := exists_chunkOf hfault h hgroup
  induction buffers generalizing seen with
  | nil => exact .ok _
  | cons buffer rest ih =>
    refine (not_isCorrupt_resolveFillColumn _ _).bind fun resolved hresolved =>
      .bind (.okOr (ArcadiaTioError.not_isCorrupt_ocbInvalidInput _)) fun column hcolumn =>
        .bind (.failIf fun _ => ArcadiaTioError.not_isCorrupt_ocbInvalidInput _) fun _ _ =>
          .bind ?_ fun _ _ => (ih _).bind fun _ _ => .ok _
    -- the column is one of the file, and has a chunk
    rw [okOr_eq_ok.mp hcolumn] at hresolved
    obtain ⟨hmem, -⟩ := (opened_of_openFromSource h).resolveFillColumn_eq_ok.mp hresolved
    obtain ⟨chunk, -, -, hlookup, hof⟩ := hchunks column hmem
    exact not_isCorrupt_resolveFill hof hlookup buffer

/-- The sums of a fill are added up as those of its plan. -/
lemma not_isCorrupt_admitFill (hfound : file.metadata.rowGroupById rowGroupId = some rowGroup)
    (hselects : file.Selects (columnsPlan rowGroupId columns))
    (hfit : SumsFit (planFootprints file.metadata (columnsPlan rowGroupId columns))) :
    ErrorsIn (fun e => ¬ e.IsCorrupt)
      (admitFill file.metadata rowGroup (columns.map BundleColumn.id)) := by
  have hopened := opened_of_openFromSource h
  have hgraph := graph_of_openFromSource h
  have hfootprints : planFootprints file.metadata (columnsPlan rowGroupId columns) =
      [footprintOf (file.metadata.chunksAt rowGroup) rowGroup.rowCount.toNat
        (columns.map BundleColumn.id)] := by
    rw [planFootprints, columnsPlan, List.filterMap_cons_some hfound]
    rfl
  have hcompressed := hfit.compressed
  have hdecoded := hfit.decoded
  rw [hfootprints, List.map_singleton, List.sum_singleton] at hcompressed hdecoded
  have hknown : ∀ id ∈ columns.map BundleColumn.id,
      id ∈ file.metadata.schema.columns.map OcbColumnDescV1.columnId :=
    fun id hid => hopened.mem_schema (hselects.columns id hid)
  rw [admitFill, (readable_of_openFromSource hfault h
    ((hopened.invariant.rowGroupById _ _).mp hfound).1).footprint_eq hfault hgraph.fileLen_eq
      hgraph.resourceLimits_eq hknown rfl hcompressed hdecoded]
  refine ErrorsIn.bind ?_ fun footprint _ => not_isCorrupt_validateFootprintTotals footprint
  exact .bind (.failIf fun _ => ArcadiaTioError.not_isCorrupt_ocbInvalidInput _) fun _ _ => .ok _

/-- A fill whose bytes are within the limits is accepted. -/
lemma RequestsFill.accepts (hrequest : file.RequestsFill rowGroupId buffers columns)
    (hwithin : PlanWithinLimits file.metadata (columnsPlan rowGroupId columns)) :
    ∃ rowGroup, file.AcceptsFill rowGroupId rowGroup buffers columns := by
  obtain ⟨rowGroup, hfound, hbuffers⟩ := hrequest.found
  exact ⟨rowGroup, hfound, hbuffers, hrequest.distinct, admitFill_of_validateContiguous
    (waveAdmission_eq_ok hfault h hrequest.selects hwithin 1) (List.mem_singleton_self _) hfound⟩

/-- The row group of a fill is read. -/
lemma RequestsFill.isOk_readRowGroup (hrequest : file.RequestsFill rowGroupId buffers columns) :
    IsOk (readRowGroup source zstd file.metadata file.columns rowGroupId
      (columns.map BundleColumn.id)) :=
  ColumnBundleFile.isOk_readRowGroup hfault h
    (hrequest.selects.rowGroups rowGroupId (List.mem_singleton_self _)) hrequest.selects.columns

/-- A preparation is refused for what the caller has asked for, or for the bytes of it. -/
lemma of_prepareFill_error {e : ArcadiaTioError} (hcorrupt : e.IsCorrupt)
    (hprepare : prepareFill file.metadata file.columns rowGroupId buffers = .error e) :
    ∃ columns, file.RequestsFill rowGroupId buffers columns ∧
      ¬ SumsFit (planFootprints file.metadata (columnsPlan rowGroupId columns)) := by
  have hinvalid : ∀ message, ocbInvalidInput message ≠ e := by
    rintro message rfl
    exact ArcadiaTioError.not_isCorrupt_ocbInvalidInput message hcorrupt
  rcases bind_eq_error.mp hprepare with hempty | ⟨_, hnonempty, hprepare⟩
  · exact absurd (failIf_eq_error.mp hempty).2 (hinvalid _)
  rcases bind_eq_error.mp hprepare with hunknown | ⟨rowGroup, hfound, hprepare⟩
  · exact absurd (okOr_eq_error.mp hunknown).2 (hinvalid _)
  rw [okOr_eq_ok] at hfound
  have hgroup := (((opened_of_openFromSource h).invariant.rowGroupById _ _).mp hfound).1
  obtain ⟨-, hmap, -⟩ := exists_chunkOf hfault h hgroup
  rw [hmap, ok_bind] at hprepare
  rcases bind_eq_error.mp hprepare with hresolve | ⟨targets, hresolved, hprepare⟩
  · exact absurd hcorrupt (not_isCorrupt_resolveFills hfault h hgroup buffers [] _ hresolve)
  obtain ⟨-, hbuffers, hdistinct⟩ := named_of_resolveFills hfault h hgroup hresolved
  have hrequest : file.RequestsFill rowGroupId buffers (targets.map ResolvedColumnFill.column) :=
    ⟨failIf_eq_ok.mp hnonempty, ⟨rowGroup, hfound, hbuffers⟩, hdistinct⟩
  refine ⟨_, hrequest, fun hfit => ?_⟩
  have hadmit := not_isCorrupt_admitFill hfault h hfound hrequest.selects hfit
  rw [List.map_map] at hadmit
  rcases bind_eq_error.mp hprepare with hrefused | ⟨_, -, hprepare⟩
  · exact hadmit _ hrefused hcorrupt
  · cases hprepare

/-- A fill within the limits returns. -/
theorem isOk_fill (hoptions : options.validateChecksums = true)
    (hrequest : file.RequestsFill rowGroupId buffers columns)
    (hwithin : PlanWithinLimits file.metadata (columnsPlan rowGroupId columns)) :
    IsOk ((file.readRowGroupInto zstd rowGroupId options).run buffers).1 := by
  obtain ⟨rowGroup, haccepts⟩ := hrequest.accepts hfault h hwithin
  rcases @run_readRowGroupInto file zstd buffers rowGroupId options with
    ⟨-, hrun⟩ | ⟨hrefused, -⟩
  · rw [hrun, source_of_openFromSource h,
      haccepts.fst_run_readRowGroupInto hfault h hrequest.nonempty]
    exact isOk_map.mpr (hrequest.isOk_readRowGroup hfault h)
  · rw [hoptions] at hrefused
    cases hrefused

/-- A fill reports a corruption only when the sums of its bytes do not fit. -/
theorem corrupt_fill {e : ArcadiaTioError}
    (he : ((file.readRowGroupInto zstd rowGroupId options).run buffers).1 = .error e)
    (hcorrupt : e.IsCorrupt) :
    ∃ columns, file.RequestsFill rowGroupId buffers columns ∧
      ¬ SumsFit (planFootprints file.metadata (columnsPlan rowGroupId columns)) := by
  rcases @run_readRowGroupInto file zstd buffers rowGroupId options with
    ⟨-, hrun⟩ | ⟨hoptions, -⟩
  · rw [hrun, source_of_openFromSource h] at he
    rcases hprepare : prepareFill file.metadata file.columns rowGroupId buffers with
      error | ⟨rowGroup, targets⟩
    · rw [run_of_prepareFill_error hprepare] at he
      cases he
      exact of_prepareFill_error hfault h hcorrupt hprepare
    · -- a prepared fill is not refused any more
      obtain ⟨haccepts, -⟩ := accepts_of_prepareFill hfault h hprepare
      obtain ⟨_, hnonempty, -⟩ := bind_eq_ok.mp hprepare
      have hrequest : file.RequestsFill rowGroupId buffers _ :=
        ⟨failIf_eq_ok.mp hnonempty, ⟨rowGroup, haccepts.found, haccepts.buffers⟩,
          haccepts.distinct⟩
      obtain ⟨batch, hbatch⟩ := hrequest.isOk_readRowGroup hfault h
      rw [haccepts.fst_run_readRowGroupInto hfault h hrequest.nonempty, hbatch] at he
      cases he
  · rw [readRowGroupInto, validateReadFillOptions, failIf_pos hoptions] at he
    cases he
    cases hcorrupt

end Fills

/-! ### All reads -/

/-- The reads of a file whose payloads have been validated. -/
structure ReadsValidated (file : ColumnBundleFile) (source : OcbReadSource) (zstd : ZstdCodec) :
    Prop where
  /-- Reading columns of a row group never fails. -/
  rowGroup : ∀ rowGroupId columnIds, (file.metadata.rowGroupById rowGroupId).isSome →
    (∀ id ∈ columnIds, id ∈ file.columns.map BundleColumn.id) →
      IsOk (readRowGroup source zstd file.metadata file.columns rowGroupId columnIds)
  rowGroupById : ∀ rowGroupId, file.ReadsSafely ((file.metadata.rowGroupById rowGroupId).isSome)
    (file.rowGroupPlan rowGroupId) (file.readRowGroupById zstd rowGroupId)
  planBatches : ∀ plan result, file.ReadsPlanBatches zstd plan result →
    file.ReadsSafely (file.Selects plan) plan result
  planRowGroups : ∀ plan rowGroupIds result,
    file.ReadsPlanRowGroups zstd plan rowGroupIds result →
      file.ReadsSafely
        (file.Selects plan ∧ (∀ id ∈ rowGroupIds, id ∈ plan.rowGroupIds) ∧ rowGroupIds.Nodup)
        (plan.ofSelected (plan.rowGroupIds.filter (· ∈ rowGroupIds))) result
  /-- A request is refused by the planner, not as a corruption, or its plan is read. -/
  batches : ∀ request result, file.ReadsBatches zstd request result →
    (∃ e, file.planRead request = .error e ∧ result = .error e ∧ ¬ e.IsCorrupt) ∨
      ∃ plan, file.planRead request = .ok plan ∧ file.ReadsSafely True plan result
  /-- A visit ends with an error of its visitor, or as safely as a read. -/
  visit : ∀ {S : Type} (visitor : S → ColumnBatch → S × Result ColumnBundleVisitControl) plan
    rowGroupIds options s result s',
    file.VisitsPlanRowGroups zstd plan rowGroupIds visitor options s result s' →
      (∃ e t batch, result = .error e ∧ (visitor t batch).2 = .error e) ∨
        file.ReadsSafely (file.RequestsVisit plan rowGroupIds options)
          (plan.ofSelected (plan.rowGroupIds.filter (· ∈ rowGroupIds))) result
  /-- So does a visit into reusable buffers for its columns and their nulls. -/
  visitInto : ∀ {S : Type}
    (visitor : S → ColumnBundleReusableBatchView → S × Result ColumnBundleVisitControl) plan
    rowGroupIds options pool s result s',
    (∀ slot ∈ pool.buffers, slot.AcceptsNulls file plan.rowGroupIds) →
    validateReusableBufferPool pool plan file.columns = .ok () →
    file.VisitsPlanRowGroupsInto zstd plan rowGroupIds options pool visitor s result s' →
      (∃ e t view, result = .error e ∧ (visitor t view).2 = .error e) ∨
        file.ReadsSafely (file.RequestsVisit plan rowGroupIds options)
          (plan.ofSelected (plan.rowGroupIds.filter (· ∈ rowGroupIds))) result
  /-- A fill of buffers for distinct columns returns when the bytes of these are within the
  limits. -/
  fill : ∀ rowGroupId options buffers columns, options.validateChecksums = true →
    file.RequestsFill rowGroupId buffers columns →
    PlanWithinLimits file.metadata (columnsPlan rowGroupId columns) →
      IsOk ((file.readRowGroupInto zstd rowGroupId options).run buffers).1
  /-- A fill reports a corruption only when the sums of these bytes overflow. -/
  fillCorrupt : ∀ rowGroupId options buffers e,
    ((file.readRowGroupInto zstd rowGroupId options).run buffers).1 = .error e → e.IsCorrupt →
      ∃ columns, file.RequestsFill rowGroupId buffers columns ∧
        ¬ SumsFit (planFootprints file.metadata (columnsPlan rowGroupId columns))

end ColumnBundleFile

open ColumnBundleFile in
/-- The reads of a fully validated file.  The reading of a row group never fails; what is asked for
in order and within the limits is read, filled or visited; and a corruption is only reported for a
selection whose bytes do not add up to a machine word, before any of them is read. -/
theorem fullPayload_reads {source : OcbReadSource} {zstd : ZstdCodec} {limits : OcbResourceLimits}
    {file : ColumnBundleFile} (hfault : source.FaultFree)
    (h : openFromSource source zstd .fullPayload limits = .ok file) :
    file.ReadsValidated source zstd where
  rowGroup _ _ hgroup hcolumns := isOk_readRowGroup hfault h hgroup hcolumns
  rowGroupById := readsSafely_rowGroup hfault h
  planBatches _ _ := readsSafely_batches hfault h
  planRowGroups _ _ _ := readsSafely_rowGroups hfault h
  batches request result hreads := by
    have hopened := opened_of_openFromSource h
    cases hreads with
    | refused hplan => exact .inl ⟨_, hplan, rfl, hopened.not_isCorrupt_planRead request _ hplan⟩
    | planned hplan hreads =>
      have hselects := validateReadPlan_eq_ok.mp (hopened.of_planRead hplan).1
      have hsafe := readsSafely_batches hfault h hreads
      exact .inr ⟨_, hplan, fun _ => hsafe.ok hselects, hsafe.corrupt⟩
  visit _ _ _ _ _ _ _ := readsSafely_visit hfault h
  visitInto _ _ _ _ _ _ _ _ := readsSafely_visitInto hfault h
  fill _ _ _ _ := isOk_fill hfault h
  fillCorrupt _ _ _ _ := corrupt_fill hfault h

/-! ### A table that is validated -/

namespace TableImage

variable {t : TableImage}

/-- The chunks of a small table are fully valid. -/
lemma validateChunkDesc_fullPayload (h : t.Small) (zstd : ZstdCodec) {i : ℕ} {c : TableColumn}
    (hc : t.columns[i]? = some c) :
    validateChunkDesc (t.source h) zstd t.baseMetadata t.rowGroup (t.chunkDesc i c)
      t.schema.columns .fullPayload .policyA = .ok () := by
  have hgraph := validateChunkDesc_eq_ok h zstd hc
  have hdecoded : IsOk (readAndDecodeChunk (t.source h) zstd (t.chunkDesc i c) .policyA) := by
    obtain ⟨_, -, harray⟩ := bind_eq_ok.mp (readColumnArray_eq_ok h zstd hc)
    obtain ⟨_, -, harray⟩ := bind_eq_ok.mp harray
    obtain ⟨_, -, harray⟩ := bind_eq_ok.mp harray
    obtain ⟨payload, hpayload, -⟩ := bind_eq_ok.mp harray
    exact ⟨payload, hpayload⟩
  have hfault : (t.source h).FaultFree := OcbReadSource.faultFree_ofBytes _ _
  obtain ⟨u, hstreaming⟩ := (chunkPaths_agree hfault hgraph).streaming_isOk.mpr hdecoded
  obtain ⟨_, hgroup, hgraph⟩ := bind_eq_ok.mp hgraph
  obtain ⟨column, hcolumn, hgraph⟩ := bind_eq_ok.mp hgraph
  obtain ⟨_, htype, hgraph⟩ := bind_eq_ok.mp hgraph
  obtain ⟨_, hrows, hgraph⟩ := bind_eq_ok.mp hgraph
  obtain ⟨expected, hexpected, hgraph⟩ := bind_eq_ok.mp hgraph
  obtain ⟨_, hbytes, -⟩ := bind_eq_ok.mp hgraph
  have hnull : (t.chunkDesc i c).validityRef.IsNull := OcbBodyRefV2.isNull_null
  rw [validateChunkDesc, hgroup, ok_bind, hcolumn, ok_bind, htype, ok_bind, hrows, ok_bind,
    hexpected, ok_bind, hbytes, ok_bind]
  dsimp only
  rw [if_pos hnull, hstreaming, if_pos hnull]
  rfl

/-- The file of a small table opens with all its payloads validated. -/
lemma openFromSource_fullPayload (h : t.Small) (zstd : ZstdCodec) :
    ColumnBundleFile.openFromSource (t.source h) zstd .fullPayload .policyA = .ok (t.file h) :=
  openFromSource_of_chunks h (validateChunkDesc_fullPayload h zstd)

end TableImage

/-! Two columns of three rows. -/

namespace ValidatedSample

/-- Three prices, each with its weight. -/
def table : TableImage where
  rowCount := 3
  columns := [⟨⟨"price", by decide⟩, .i64 [10150, 10175, 10125]⟩,
    ⟨⟨"weight", by decide⟩, .f64 [0x3fe0000000000000, 0x3ff0000000000000, 0x3fd0000000000000]⟩]

lemma small_table : table.Small where
  columns := by decide
  rows := by decide
  names := by decide
  nodup := by decide
  payloads := by decide
  holds := by
    intro c hc
    obtain rfl | rfl := List.mem_pair.mp hc <;> rfl

/-- The plan of both columns, for two threads. -/
def plan : ColumnBundleReadPlan := ⟨[0, 1], [0], buildReadReport 2 1 0 2⟩

/-- Two buffers, each with room for one row more than there is. -/
def buffers : List ColumnBundleColumnFillBuffer :=
  [⟨none, some 0, .i64 [0, 0, 0, 0], none, false⟩,
    ⟨some ⟨"weight", by decide⟩, none, .f64 [0, 0, 0, 0], none, false⟩]

/-- Both columns take 48 bytes, stored and decoded. -/
lemma planWithinLimits (report : ColumnBundleReadReport) :
    PlanWithinLimits table.metadata ⟨[0, 1], [0], report⟩ := by
  have hfootprints : planFootprints table.metadata ⟨[0, 1], [0], report⟩ = [⟨48, 48, 3⟩] := rfl
  refine ⟨⟨?_, ?_⟩, ?_⟩ <;> rw [hfootprints] <;> decide

lemma columnIds : (table.file small_table).columns.map BundleColumn.id = [0, 1] := rfl

lemma requestsVisit :
    (table.file small_table).RequestsVisit plan [0] ⟨2, true⟩ where
  selects := by
    refine ⟨fun id hid => columnIds ▸ hid, by decide, fun id hid => ?_, List.nodup_singleton 0⟩
    rw [List.mem_singleton.mp hid]
    rfl
  known _ hid := hid
  nodup := List.nodup_singleton 0
  inFlight := by decide
  ordered := rfl

/-- The columns of the opened table. -/
def columns : List BundleColumn := table.bundleColumns

/-- No chunk of the table has a validity bitmap. -/
lemma fits {buffer : ColumnBundleColumnFillBuffer} {column : BundleColumn}
    (htype : buffer.values.physicalType = column.physicalType) (hroom : buffer.values.HasRoom 3) :
    ∀ chunk ∈ table.metadata.chunksAt table.rowGroup, chunk.columnId = column.id →
      buffer.Fits column chunk := by
  intro chunk hchunk _
  have hchunks : ∀ chunk ∈ table.metadata.chunksAt table.rowGroup,
      chunk.rowCount.toNat = 3 ∧ chunk.validityRef.IsNull := by decide
  obtain ⟨hrows, hnull⟩ := hchunks chunk hchunk
  exact ⟨htype, hrows ▸ hroom, fun hbits => absurd hnull hbits, fun hbits => absurd hnull hbits⟩

lemma requestsFill : (table.file small_table).RequestsFill 0 buffers columns where
  nonempty := List.cons_ne_nil _ _
  found := by
    refine ⟨table.rowGroup, rfl, .cons ⟨by decide, ?_, fits rfl (show 3 ≤ 4 by decide)⟩
      (.cons ⟨by decide, ?_, fits rfl (show 3 ≤ 4 by decide)⟩ .nil)⟩
    · exact ⟨fun _ hname => absurd hname (Option.not_mem_none _),
        fun _ hid => Option.some.inj hid, .inr (Option.some_ne_none _)⟩
    · exact ⟨fun _ hname => Option.some.inj hname,
        fun _ hid => absurd hid (Option.not_mem_none _), .inl (Option.some_ne_none _)⟩
  distinct := by decide

end ValidatedSample

open ColumnBundleFile ValidatedSample in
/-- The columns of the table are read in any order, read by their plan, visited, and filled into
buffers, whatever the codec of compressed chunks. -/
theorem fullPayload_reads_sample : ∃ file, ∀ zstd : ZstdCodec,
    openFromSource (table.source small_table) zstd .fullPayload .policyA = .ok file ∧
    IsOk (readRowGroup (table.source small_table) zstd file.metadata file.columns 0 [1, 0]) ∧
    (∀ result, file.ReadsPlanBatches zstd plan result → IsOk result) ∧
    (∀ result n, file.VisitsPlanRowGroups zstd plan [0]
      (fun n _ => (n + 1, .ok .continue)) ⟨2, true⟩ 0 result n → IsOk result) ∧
    IsOk ((file.readRowGroupInto zstd 0 ⟨true⟩).run buffers).1 := by
  refine ⟨table.file small_table, fun zstd => ?_⟩
  have hopen := TableImage.openFromSource_fullPayload small_table zstd
  have hreads := fullPayload_reads (OcbReadSource.faultFree_ofBytes _ _) hopen
  refine ⟨hopen, hreads.rowGroup 0 [1, 0] rfl fun id hid => ?_, fun result hresult => ?_,
    fun result n hvisits => ?_, ?_⟩
  · rw [columnIds]
    simpa [or_comm] using hid
  · exact (hreads.planBatches _ _ hresult).ok requestsVisit.selects (planWithinLimits _)
  · rcases hreads.visit _ _ _ _ _ _ _ hvisits with ⟨e, t, batch, -, hvisitor⟩ | hsafe
    · cases hvisitor
    · exact hsafe.ok requestsVisit (planWithinLimits _)
  · exact hreads.fill 0 ⟨true⟩ _ _ rfl requestsFill (planWithinLimits _)

end ArcadiaTio.Ocb
