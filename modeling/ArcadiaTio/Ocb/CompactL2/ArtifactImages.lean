import ArcadiaTio.Ocb.Bundle.ImagePlan
import ArcadiaTio.Ocb.CompactL2.PhysicalV2Certification

/-!
# Artifacts of compact-L2 lanes

The lanes of a valid view make up a table, and the file of the table is an artifact of physical
version 2: its one row group is decoded to the view again, and it is certified whenever the rows of
the view are.
-/

namespace ArcadiaTio.Ocb

open ArcadiaTio.Lib

/-- The values of a column of a table are found under its name. -/
lemma TableImage.valuesOf_batch {t : TableImage} (h : t.Small) {c : TableColumn}
    (hc : c ∈ t.columns) :
    CompactL2PhysicalV2BatchView.valuesOf t.batch c.name = some c.values := by
  have hnodup : (t.batch.columns.map ColumnArray.name).Nodup := by
    rw [names_batch]
    exact h.nodup
  obtain ⟨i, hi, rfl⟩ := List.getElem_of_mem hc
  have hmem : columnArray i t.columns[i] ∈ t.batch.columns := List.mem_mapIdx.mpr ⟨i, hi, rfl⟩
  have hfind : (t.batch.columns.find? fun column => column.name = t.columns[i].name) =
      some (columnArray i t.columns[i]) := (find?_eq_some_of_nodup hnodup).mpr ⟨hmem, rfl⟩
  rw [CompactL2PhysicalV2BatchView.valuesOf, hfind]
  rfl

namespace CompactL2PhysicalV2BatchView

/-- The table of the lanes of a view. -/
def table (view : CompactL2PhysicalV2BatchView) : TableImage where
  rowCount := view.rowCount
  columns := view.lanes.map fun lane => ⟨lane.1, lane.2⟩

variable {view : CompactL2PhysicalV2BatchView}

lemma names_table (view : CompactL2PhysicalV2BatchView) :
    view.table.columns.map TableColumn.name = compactL2PhysicalV2RequiredColumns := rfl

lemma holdsRows_lanes (hvalid : view.Valid) :
    ∀ lane ∈ view.lanes, lane.2.HoldsRows view.rowCount := by
  simp only [lanes, List.forall_mem_append, List.forall_mem_cons, List.forall_mem_map,
    List.mem_finRange, forall_const, List.not_mem_nil, false_imp_iff, implies_true, and_true,
    PrimitiveColumnValues.HoldsRows]
  exact ⟨⟨hvalid.dayKey, hvalid.channelId, hvalid.bizIndex, hvalid.receiveNano,
    hvalid.sourceOrdinal, hvalid.recordKind, ⟨by decide, hvalid.headerBytes⟩, hvalid.exchangeTime,
    ⟨by decide, hvalid.symbol⟩, by decide, hvalid.bodyBytes⟩, hvalid.bodyWords⟩

lemma byteWidth_lanes (view : CompactL2PhysicalV2BatchView) :
    ∀ lane ∈ view.lanes, lane.2.byteWidth ≤ 9 := by
  simp [lanes, PrimitiveColumnValues.byteWidth]

/-- The lanes of a few rows make up a small table. -/
lemma small_table (hvalid : view.Valid) (hrows : view.rowCount ≤ 2 ^ 16) : view.table.Small where
  columns := by
    have hlength : view.table.columns.length = 20 := rfl
    omega
  rows := by
    have hcount : view.table.rowCount = view.rowCount := rfl
    omega
  names := by
    have hnames : ∀ name ∈ view.table.columns.map TableColumn.name,
        name.value.toUTF8.size ≤ 64 := by
      rw [names_table]
      decide
    exact fun c hc => hnames c.name (List.mem_map_of_mem hc)
  nodup := by
    rw [names_table]
    decide
  payloads := by
    intro c hc
    obtain ⟨lane, hlane, rfl⟩ := List.mem_map.mp hc
    have hwidth := byteWidth_lanes view lane hlane
    rw [PrimitiveColumnValues.length_bytes (holdsRows_lanes hvalid lane hlane)]
    exact (Nat.mul_le_mul hrows hwidth).trans (by decide)
  holds := by
    intro c hc
    obtain ⟨lane, hlane, rfl⟩ := List.mem_map.mp hc
    exact holdsRows_lanes hvalid lane hlane

/-- The row group of the table is decoded to the view. -/
lemma fromColumnBatch_table (hvalid : view.Valid) (hrows : view.rowCount ≤ 2 ^ 16) :
    fromColumnBatch view.table.batch = .ok view := by
  refine fromColumnBatch_eq_ok.mpr ⟨?_, hvalid, fun lane hlane => ?_⟩
  · exact (TableImage.toNat_rowCount (small_table hvalid hrows)).symm
  · have hmem : (⟨lane.1, lane.2⟩ : TableColumn) ∈ view.table.columns :=
      List.mem_map_of_mem (f := fun lane : Text × PrimitiveColumnValues =>
        (⟨lane.1, lane.2⟩ : TableColumn)) hlane
    have hvalues := TableImage.valuesOf_batch (small_table hvalid hrows) hmem
    exact hvalues

/-- Every lane has the type that its column is expected to have. -/
lemma expectedColumnType_lanes (view : CompactL2PhysicalV2BatchView) :
    ∀ lane ∈ view.lanes,
      compactL2PhysicalV2ExpectedColumnType lane.1 = some lane.2.physicalType := by
  have hwords : ∀ slot : Fin 10, compactL2PhysicalV2ExpectedColumnType
      (compactL2PhysicalV2BodyWordColumns.get slot) = some .i64 := by
    decide
  simp only [lanes, List.forall_mem_append, List.forall_mem_cons, List.forall_mem_map,
    List.mem_finRange, forall_const, List.not_mem_nil, false_imp_iff, implies_true, and_true,
    PrimitiveColumnValues.physicalType, hwords]
  decide

end CompactL2PhysicalV2BatchView

/-! ### Certifying an artifact -/

lemma certifyPhysicalV2Chunk_eq_ok {rowGroup : ColumnBundleRowGroupSummary}
    {chunk : ColumnBundleColumnChunkSummary} (hrows : chunk.rowCount = rowGroup.rowCount)
    (hvalidity : chunk.validityRef = none)
    (htype : compactL2PhysicalV2ExpectedColumnType chunk.columnName = some chunk.physicalType)
    (hwidth : chunk.fixedBinaryWidth = match chunk.physicalType with
      | .fixedBinary width => some width
      | _ => none) : certifyPhysicalV2Chunk rowGroup chunk = .ok () := by
  rw [certifyPhysicalV2Chunk, failIf_neg (not_not.mpr hrows), ok_bind,
    failIf_neg (not_not.mpr hvalidity), ok_bind, certifyPhysicalV2ChunkType, htype, okOr_some,
    ok_bind, failIf_neg (not_not.mpr rfl), ok_bind]
  cases htype : chunk.physicalType with
  | fixedBinary width =>
    rw [htype] at hwidth
    exact failIf_neg (not_not.mpr hwidth)
  | _ => rfl

namespace TableImage

/-- The table is an artifact of physical version 2 that holds the rows of a view. -/
structure HoldsView (t : TableImage) (view : CompactL2PhysicalV2BatchView) : Prop where
  names : t.columns.map TableColumn.name = compactL2PhysicalV2RequiredColumns
  types : ∀ c ∈ t.columns,
    compactL2PhysicalV2ExpectedColumnType c.name = some c.values.physicalType
  decoded : CompactL2PhysicalV2BatchView.fromColumnBatch t.batch = .ok view

/-- There is an artifact of the rows of a valid view. -/
lemma exists_holdsView {view : CompactL2PhysicalV2BatchView} (hvalid : view.Valid)
    (hrows : view.rowCount ≤ 2 ^ 16) : ∃ t : TableImage, t.Small ∧ t.HoldsView view := by
  refine ⟨view.table, CompactL2PhysicalV2BatchView.small_table hvalid hrows,
    CompactL2PhysicalV2BatchView.names_table view, fun c hc => ?_,
    CompactL2PhysicalV2BatchView.fromColumnBatch_table hvalid hrows⟩
  obtain ⟨lane, hlane, rfl⟩ := List.mem_map.mp hc
  exact CompactL2PhysicalV2BatchView.expectedColumnType_lanes view lane hlane

variable {t : TableImage} {view : CompactL2PhysicalV2BatchView}

lemma HoldsView.rowCount (hview : t.HoldsView view) (h : t.Small) : view.rowCount = t.rowCount :=
  (CompactL2PhysicalV2BatchView.fromColumnBatch_eq_ok.mp hview.decoded).1.trans (toNat_rowCount h)

lemma HoldsView.resolveNames (hview : t.HoldsView view) (h : t.Small) :
    resolveNames (t.file h).columns compactL2PhysicalV2RequiredColumns [] = .ok t.ids := by
  rw [← hview.names]
  exact resolveNames_bundleColumns h

/-- The artifact is decoded to the view. -/
lemma HoldsView.compactL2PhysicalV2Views (hview : t.HoldsView view) (h : t.Small)
    (zstd : ZstdCodec) : (t.file h).compactL2PhysicalV2Views zstd = .ok [view] := by
  have hread : readRowGroup (t.file h).source zstd (t.file h).metadata (t.file h).columns
      t.rowGroup.rowGroupId t.ids = .ok t.batch := readRowGroup_source h zstd
  have hgroups : (t.file h).metadata.rowGroupIndex.rowGroups = [t.rowGroup] := rfl
  rw [ColumnBundleFile.compactL2PhysicalV2Views, hview.resolveNames h, ok_bind, hgroups,
    List.mapM_cons, List.mapM_nil, hread, ok_bind, hview.decoded]
  rfl

/-- The checks before the rows are read pass when the expectations that they compare hold. -/
theorem HoldsView.exists_prepared (hview : t.HoldsView view) (h : t.Small)
    {options : CompactL2PhysicalV2CertificationOptions}
    (hformat : validateOptionalHexHash options.expectedLegacyPayloadHashFnv1a64 16
      .checksumMismatch = .ok ())
    (hcount : ∀ expected ∈ options.expectedRowCount, view.rowCount = expected.toNat)
    (hmax : ∀ bound ∈ options.maxRows, view.rowCount ≤ bound.toNat) :
    ∃ metadata plan certification,
      preparePhysicalV2Certification options (t.file h) = .ok (metadata, plan, certification) ∧
      metadata.rowCount.toNat = view.rowCount ∧ t.ReadsTable plan := by
  obtain ⟨⟨metadata, hmetadata⟩, -⟩ := (ColumnBundleFile.isOk_descriptions_iff
    (openFromSource_source h fun _ _ => ⟨[], true⟩)).mpr fun d hd => absurd hd List.not_mem_nil
  have hrowCount : metadata.rowCount.toNat = view.rowCount := by
    rw [(ColumnBundleFile.of_describe hmetadata).1, hview.rowCount h]
    exact toNat_rowCount h
  have hplan : (t.file h).planRead (compactL2PhysicalV2Request options) =
      .ok (readPlan (compactL2PhysicalV2Request options) t.ids [0] 0) :=
    planRead_request_eq_ok.mpr ⟨_, hview.resolveNames h, rfl⟩
  have hreads : t.ReadsTable (readPlan (compactL2PhysicalV2Request options) t.ids [0] 0) :=
    ⟨rfl, rfl⟩
  obtain ⟨certification, summary, hcertification, hgroups, hsummaryRows, hforall⟩ :=
    exists_certification h hreads
  have hsummaries : certifyPhysicalV2RowGroupSummaries certification.rowGroups
      compactL2PhysicalV2RequiredColumns.length = .ok () := by
    refine forM_eq_ok.mpr fun rowGroup hmem => ?_
    rw [hgroups] at hmem
    obtain rfl := List.mem_singleton.mp hmem
    have hlength : rowGroup.chunks.length = compactL2PhysicalV2RequiredColumns.length := by
      rw [← hforall.length_eq, ← hview.names, List.length_map]
    rw [failIf_neg (not_not.mpr hlength), ok_bind]
    refine forM_eq_ok.mpr fun chunk hchunk => ?_
    obtain ⟨c, hc, hsummary⟩ := exists_of_forall₂ hforall hchunk
    refine certifyPhysicalV2Chunk_eq_ok (hsummary.rowCount.trans hsummaryRows.symm)
      hsummary.validityRef ?_ ?_
    · rw [hsummary.columnName, hsummary.physicalType]
      exact hview.types c hc
    · have hwidth := hsummary.fixedBinaryWidth
      rw [← hsummary.physicalType] at hwidth
      exact hwidth
  have hexpected : ∀ expected ∈ options.expectedRowCount, metadata.rowCount = expected := by
    intro expected hmem
    exact UInt64.toNat_inj.mp (hrowCount.trans (hcount expected hmem))
  have hbound : ¬ options.maxRows.any (· < metadata.rowCount) = true := by
    cases hmaxRows : options.maxRows with
    | none => simp
    | some bound =>
      have := hmax bound hmaxRows
      simp only [Option.any_some, decide_eq_true_eq, UInt64.lt_iff_toNat_lt]
      omega
  refine ⟨metadata, _, certification, ?_, hrowCount, hreads⟩
  rw [preparePhysicalV2Certification, hformat, ok_bind, hmetadata, ok_bind,
    checkExpected_eq_ok.mpr hexpected, ok_bind, failIf_neg hbound, ok_bind, hplan, ok_bind,
    hcertification, ok_bind, hsummaries, ok_bind]
  rfl

/-- A plan of one row group is one wave, and its wave is admitted. -/
lemma admitted (h : t.Small) {plan : ColumnBundleReadPlan} (hplan : t.ReadsTable plan) {size : ℕ} :
    ∀ wave ∈ waves (max size 1) plan.rowGroupIds,
      validateOwnedPlanResourceLimits (t.file h).metadata (plan.ofSelected wave) = .ok () := by
  have hsize : 0 < max size 1 := by omega
  have hwaves : waves (max size 1) plan.rowGroupIds = [[0]] := by
    rw [hplan.rowGroupIds, waves, dif_neg (by simp), waves, dif_pos]
    · rw [List.take_of_length_le (by simp)]
    · right
      exact List.drop_eq_nil_of_le (by simp)
  intro wave hwave
  rw [hwaves] at hwave
  obtain rfl := List.mem_singleton.mp hwave
  exact validateOwnedPlanResourceLimits_eq_ok h ⟨hplan.projectedColumnIds, rfl⟩

/-- The artifact of a view is certified when the checks of the expectations pass. -/
theorem HoldsView.exists_certificate (hview : t.HoldsView view) (h : t.Small) (zstd : ZstdCodec)
    {options : CompactL2PhysicalV2CertificationOptions} {limits : OcbResourceLimits}
    {hash : Option CompactL2Fnv1a64}
    (hformat : validateOptionalHexHash options.expectedLegacyPayloadHashFnv1a64 16
      .checksumMismatch = .ok ())
    (hcount : ∀ expected ∈ options.expectedRowCount, view.rowCount = expected.toNat)
    (hmax : ∀ bound ∈ options.maxRows, view.rowCount ≤ bound.toNat)
    (hscanned : PhysicalV2Scanned options view.scalars)
    (hhashed : PhysicalV2Hashed options limits [view] hash)
    (hfirst : ∀ expected ∈ options.expectedFirstBizIndex,
      (physicalV2ScanOf options view.scalars).firstBizIndex = some expected.toNat)
    (hlast : ∀ expected ∈ options.expectedLastBizIndex,
      (physicalV2ScanOf options view.scalars).lastBizIndex = some expected.toNat)
    (hverified : IsOk (verifyLegacyPayloadHash (hash.map CompactL2Fnv1a64.finishHex)
      options.expectedLegacyPayloadHashFnv1a64)) :
    ∃ report, CertifiesCompactL2PhysicalV2File (t.file h) zstd options limits (.ok report) := by
  obtain ⟨metadata, plan, certification, hprepared, hrowCount, hplan⟩ :=
    hview.exists_prepared h hformat hcount hmax
  have hscalars : scalarsOf [view] = view.scalars := by
    rw [scalarsOf, List.flatMap_singleton]
  have hrows : ¬ (physicalV2ScanOf options view.scalars).rows ≠ metadata.rowCount.toNat := by
    rw [not_not, physicalV2ScanOf_rows, view.length_scalars, hrowCount]
  have hexpectedFirst : ∀ value ∈ options.expectedFirstBizIndex.map fun e => some e.toNat,
      (physicalV2ScanOf options view.scalars).firstBizIndex = value := by
    intro value hvalue
    obtain ⟨expected, hexpected, rfl⟩ := Option.mem_map.mp hvalue
    exact hfirst expected hexpected
  have hexpectedLast : ∀ value ∈ options.expectedLastBizIndex.map fun e => some e.toNat,
      (physicalV2ScanOf options view.scalars).lastBizIndex = value := by
    intro value hvalue
    obtain ⟨expected, hexpected, rfl⟩ := Option.mem_map.mp hvalue
    exact hlast expected hexpected
  obtain ⟨verified, hverified⟩ := hverified
  obtain ⟨report, hreport⟩ : ∃ report, finishPhysicalV2Certification options metadata
      certification (physicalV2ScanOf options view.scalars, hash) = .ok report := by
    rw [finishPhysicalV2Certification, failIf_neg hrows, ok_bind,
      checkExpected_eq_ok.mpr hexpectedFirst, ok_bind, checkExpected_eq_ok.mpr hexpectedLast,
      ok_bind]
    dsimp only
    rw [hverified, ok_bind]
    exact ⟨_, rfl⟩
  refine ⟨report, (certifiesCompactL2PhysicalV2File_eq_ok_iff (opened_file h zstd)).mpr
    ⟨metadata, plan, certification, [view], hash, hprepared, admitted h hplan,
      hview.compactL2PhysicalV2Views h zstd, ?_, hhashed, ?_⟩⟩
  · rwa [hscalars]
  · rwa [hscalars]

end TableImage

end ArcadiaTio.Ocb
