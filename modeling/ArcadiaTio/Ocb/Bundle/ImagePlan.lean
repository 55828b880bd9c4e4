import ArcadiaTio.Ocb.Bundle.Describable
import ArcadiaTio.Ocb.Bundle.Image
import ArcadiaTio.Ocb.Bundle.Subset

/-!
# Planning the file of a table

A request for all columns of a table is planned, certified and admitted: its one row group is
selected, with the columns in the order of the table.
-/

namespace ArcadiaTio.Ocb

open ArcadiaTio.Lib

/-- Names of distinct columns of an opened file are resolved to the ids of the columns. -/
lemma ColumnBundleFile.Opened.resolveNames_eq_ok {file : ColumnBundleFile} (h : file.Opened)
    {columns : List BundleColumn} {seen : List UInt32} (hcolumns : ∀ c ∈ columns, c ∈ file.columns)
    (hnodup : (seen ++ columns.map BundleColumn.id).Nodup) :
    resolveNames file.columns (columns.map BundleColumn.name) seen =
      .ok (columns.map BundleColumn.id) := by
  induction columns generalizing seen with
  | nil => rfl
  | cons column rest ih =>
    have hfind : columnByName file.columns column.name = some column :=
      h.columnByName_eq_some.mpr ⟨hcolumns column (by simp), rfl⟩
    have hfresh : column.id ∉ seen := fun hseen =>
      (List.nodup_append.mp hnodup).2.2 column.id hseen column.id (by simp) rfl
    have hnodup' : ((column.id :: seen) ++ rest.map BundleColumn.id).Nodup :=
      (List.perm_middle.symm.nodup_iff.mpr hnodup :
        (column.id :: (seen ++ rest.map BundleColumn.id)).Nodup)
    rw [List.map_cons, List.map_cons, resolveNames, hfind, okOr_some, ok_bind, failIf_neg hfresh,
      ok_bind, ih (fun c hc => hcolumns c (by simp [hc])) hnodup']
    rfl

/-- Few bytes are added up. -/
lemma isOk_foldlM_addSelectedBytes {chunks : List ColumnBundleColumnChunkSummary} {bound : ℕ}
    {total : ℕ × ℕ} (hchunks : ∀ chunk ∈ chunks, chunk.compressedBytes.toNat ≤ bound ∧
      chunk.uncompressedBytes.toNat ≤ bound)
    (hcompressed : total.1 + chunks.length * bound < 2 ^ 64)
    (huncompressed : total.2 + chunks.length * bound < 2 ^ 64) :
    IsOk (chunks.foldlM addSelectedBytes total) := by
  induction chunks generalizing total with
  | nil => exact isOk_ok
  | cons chunk rest ih =>
    obtain ⟨hc, hu⟩ := hchunks chunk (by simp)
    rw [List.length_cons, Nat.succ_mul] at hcompressed huncompressed
    rw [List.foldlM_cons, addSelectedBytes, checkedAdd_of_lt (by omega), okOr_some, ok_bind,
      checkedAdd_of_lt (by omega), okOr_some, ok_bind, pure_eq_ok, ok_bind]
    exact ih (fun c hmem => hchunks c (by simp [hmem])) (by dsimp only; omega)
      (by dsimp only; omega)

namespace TableImage

variable {t : TableImage}

lemma opened_file (h : t.Small) (zstd : ZstdCodec) : (t.file h).Opened :=
  ColumnBundleFile.opened_of_openFromSource (openFromSource_source h zstd)

lemma names_bundleColumns :
    t.bundleColumns.map BundleColumn.name = t.columns.map TableColumn.name := by
  refine List.ext_getElem (by simp [bundleColumns]) fun i hi _ => ?_
  simp [bundleColumns, bundleColumn]

lemma names_batch : t.batch.columns.map ColumnArray.name = t.columns.map TableColumn.name := by
  refine List.ext_getElem (by simp [batch]) fun i hi _ => ?_
  simp [batch, columnArray]

lemma resolveNames_bundleColumns (h : t.Small) :
    resolveNames t.bundleColumns (t.columns.map TableColumn.name) [] = .ok t.ids := by
  have hresolve := (opened_file h fun _ _ => ⟨[], true⟩).resolveNames_eq_ok (fun _ hc => hc)
    (show ([] ++ t.bundleColumns.map BundleColumn.id).Nodup by
      rw [List.nil_append, ids_bundleColumns]
      exact nodup_ids h)
  rwa [show (t.file h).columns = t.bundleColumns from rfl, names_bundleColumns,
    ids_bundleColumns] at hresolve

/-- A plan reads all columns of the table. -/
structure ReadsTable (t : TableImage) (plan : ColumnBundleReadPlan) : Prop where
  projectedColumnIds : plan.projectedColumnIds = t.ids
  rowGroupIds : plan.rowGroupIds = [0]

lemma validateReadPlan_eq_ok (h : t.Small) {plan : ColumnBundleReadPlan}
    (hplan : t.ReadsTable plan) : (t.file h).validateReadPlan plan = .ok () := by
  have hknown : ∀ id ∈ t.ids,
      ((t.file h).columns.any fun column => column.id = id) = true := by
    intro id hid
    rw [← ids_bundleColumns] at hid
    obtain ⟨column, hcolumn, rfl⟩ := List.mem_map.mp hid
    exact List.any_eq_true.mpr ⟨column, hcolumn, by simp⟩
  have hrowGroup : ∀ id ∈ [(0 : UInt32)],
      ((t.file h).metadata.rowGroupById id).isSome = true := by
    rintro id hid
    obtain rfl := List.mem_singleton.mp hid
    rfl
  rw [ColumnBundleFile.validateReadPlan, hplan.projectedColumnIds, hplan.rowGroupIds,
    checkPlanIds_of_nodup hknown (by simpa using nodup_ids h), ok_bind,
    checkPlanIds_of_nodup hrowGroup (by simp)]

/-! ### Summaries -/

/-- What the summary of a chunk says of its column. -/
structure SummarizesColumn (t : TableImage) (c : TableColumn)
    (summary : ColumnBundleColumnChunkSummary) : Prop where
  columnName : summary.columnName = c.name
  physicalType : summary.physicalType = c.values.physicalType
  fixedBinaryWidth : summary.fixedBinaryWidth = match c.values.physicalType with
    | .fixedBinary width => some width
    | _ => none
  rowCount : summary.rowCount = t.rowCount.toUInt64
  validityRef : summary.validityRef = none
  compressedBytes : summary.compressedBytes.toNat ≤ 2 ^ 20
  uncompressedBytes : summary.uncompressedBytes.toNat ≤ 2 ^ 20

lemma summarizesColumn (h : t.Small) {i : ℕ} {c : TableColumn} (hc : t.columns[i]? = some c)
    {column : BundleColumn} (hcolumn : column ∈ t.bundleColumns)
    (hid : column.id = (t.chunkDesc i c).columnId) {summary : ColumnBundleColumnChunkSummary}
    (hsummary : ColumnBundleFile.SummarizesChunk column (t.chunkDesc i c) summary) :
    t.SummarizesColumn c summary := by
  have hmem := List.mem_of_getElem? hc
  have hpayload := h.payloads c hmem
  -- the column of the chunk
  obtain rfl : column = bundleColumn i c := by
    have hnodup : (t.bundleColumns.map BundleColumn.id).Nodup := by
      rw [ids_bundleColumns]
      exact nodup_ids h
    refine eq_of_nodup_map hnodup hcolumn ?_ hid
    obtain ⟨hi, rfl⟩ := List.getElem?_eq_some_iff.mp hc
    exact List.mem_mapIdx.mpr ⟨i, hi, rfl⟩
  have hoverhead : objectOverhead = 48 := rfl
  have hcompressed := hsummary.compressedBytes
  rw [show (t.chunkDesc i c).valueRef.length.toNat = 48 + c.values.bytes.length from
    (toNat_length_reference _ h (chunk_part hc)).trans (t.length_sealBytes_chunkObject i c),
    hoverhead] at hcompressed
  refine ⟨hsummary.columnName, hsummary.physicalType, hsummary.fixedBinaryWidth, hsummary.rowCount,
    hsummary.validityRef.mpr OcbBodyRefV2.isNull_null, by omega, ?_⟩
  rw [hsummary.uncompressedBytes]
  exact (toNat_payload h hmem).trans_le hpayload

/-- The summaries of a plan of the table. -/
lemma exists_summaries (h : t.Small) {plan : ColumnBundleReadPlan} (hplan : t.ReadsTable plan) :
    ∃ summary, (t.file h).readPlanRowGroupSummaries plan = .ok [summary] ∧
      summary.rowCount = t.rowCount.toUInt64 ∧
      List.Forall₂ t.SummarizesColumn t.columns summary.chunks := by
  obtain ⟨chunks, summary, hchunks, hsummary, hrows, hforall⟩ :=
    ColumnBundleFile.exists_rowGroupSummary (openFromSource_source h fun _ _ => ⟨[], true⟩)
      (List.mem_singleton_self t.rowGroup) (some t.ids)
  obtain rfl : t.rowGroupIndex.columnChunks = chunks :=
    Except.ok.inj ((checkedChunks_eq_ok h).symm.trans hchunks)
  have hall : ColumnBundleFile.projectedChunks (some t.ids) t.rowGroupIndex.columnChunks =
      t.rowGroupIndex.columnChunks := by
    refine List.filter_eq_self.mpr fun chunk hchunk => ?_
    have hmem : chunk.columnId ∈ t.ids := by
      rw [← columnIds_chunks]
      exact List.mem_map_of_mem hchunk
    simp [hmem]
  rw [hall] at hforall
  refine ⟨summary, ?_, hrows, ?_⟩
  · rw [ColumnBundleFile.readPlanRowGroupSummaries, validateReadPlan_eq_ok h hplan, ok_bind,
      hplan.projectedColumnIds, hplan.rowGroupIds, ColumnBundleFile.buildRowGroupSummaries,
      failIf_neg List.not_mem_nil, ok_bind,
      show (t.file h).metadata.rowGroupById 0 = some t.rowGroup from rfl, okOr_some, ok_bind,
      hsummary, ok_bind]
    rfl
  · obtain ⟨hlength, hget⟩ := List.forall₂_iff_get.mp hforall
    have hchunksLength : t.rowGroupIndex.columnChunks.length = t.columns.length :=
      List.length_mapIdx
    refine List.forall₂_iff_get.mpr ⟨by omega, fun i hi hi' => ?_⟩
    obtain ⟨column, hcolumn, hid, hsummarizes⟩ := hget i (by omega) hi'
    have hchunk : t.rowGroupIndex.columnChunks.get ⟨i, by omega⟩ = t.chunkDesc i t.columns[i] :=
      List.getElem_mapIdx ..
    rw [hchunk] at hid hsummarizes
    exact summarizesColumn h (List.getElem?_eq_getElem hi) hcolumn hid hsummarizes

/-- A plan of the table is certified. -/
theorem exists_certification (h : t.Small) {plan : ColumnBundleReadPlan}
    (hplan : t.ReadsTable plan) : ∃ certification summary,
      (t.file h).readPlanCertification plan = .ok certification ∧
      certification.rowGroups = [summary] ∧ summary.rowCount = t.rowCount.toUInt64 ∧
      List.Forall₂ t.SummarizesColumn t.columns summary.chunks := by
  have hopen := openFromSource_source h fun _ _ => ⟨[], true⟩
  obtain ⟨summary, hsummaries, hrows, hforall⟩ := exists_summaries h hplan
  obtain ⟨⟨metadata, hmetadata⟩, -, fingerprint, hfingerprint⟩ :=
    (ColumnBundleFile.isOk_descriptions_iff hopen).mpr fun d hd => absurd hd List.not_mem_nil
  have hlength := hforall.length_eq
  have hcolumns := h.columns
  obtain ⟨total, htotal⟩ : IsOk (([summary].flatMap (·.chunks)).foldlM addSelectedBytes (0, 0)) := by
    rw [List.flatMap_singleton]
    have hbytes : ∀ chunk ∈ summary.chunks, chunk.compressedBytes.toNat ≤ 2 ^ 20 ∧
        chunk.uncompressedBytes.toNat ≤ 2 ^ 20 := by
      intro chunk hchunk
      obtain ⟨c, -, hcolumn⟩ := exists_of_forall₂ hforall hchunk
      exact ⟨hcolumn.compressedBytes, hcolumn.uncompressedBytes⟩
    exact isOk_foldlM_addSelectedBytes hbytes (by dsimp only; omega) (by dsimp only; omega)
  have hcertification : ∃ certification,
      (t.file h).readPlanCertification plan = .ok certification ∧
        certification.rowGroups = [summary] := by
    rw [ColumnBundleFile.readPlanCertification, validateReadPlan_eq_ok h hplan, ok_bind, hmetadata,
      ok_bind, hfingerprint, ok_bind, hsummaries, ok_bind, htotal, ok_bind]
    exact ⟨_, rfl, rfl⟩
  obtain ⟨certification, hcertification, hrowGroups⟩ := hcertification
  exact ⟨certification, summary, hcertification, hrowGroups, hrows, hforall⟩

/-! ### Admission -/

lemma selectedChunk_eq_ok (h : t.Small) {i : ℕ} {c : TableColumn} (hc : t.columns[i]? = some c) :
    selectedChunk t.rowGroupIndex.columnChunks i.toUInt32 = .ok (t.chunkDesc i c) := by
  have hnodup : (t.rowGroupIndex.columnChunks.map OcbColumnChunkDescV1.columnId).Nodup := by
    rw [columnIds_chunks]
    exact nodup_ids h
  obtain ⟨hi, rfl⟩ := List.getElem?_eq_some_iff.mp hc
  have hfind : (t.rowGroupIndex.columnChunks.find? fun chunk => chunk.columnId = i.toUInt32) =
      some (t.chunkDesc i t.columns[i]) :=
    (find?_eq_some_of_nodup hnodup).mpr ⟨List.mem_mapIdx.mpr ⟨i, hi, rfl⟩, rfl⟩
  rw [selectedChunk, hfind, okOr_some]

/-- What the accounting makes of one column. -/
lemma exists_accounting (h : t.Small) {id : UInt32} (hid : id ∈ t.ids) : ∃ bytes ≤ 2 ^ 20,
    checkSelectedChunk t.metadata t.rowGroupIndex.columnChunks id = .ok () ∧
      ∀ footprint : SelectedResourceFootprint, footprint.compressedBytes + bytes < 2 ^ 64 →
        footprint.decodedMaterializedBytes + bytes < 2 ^ 64 →
        addSelectedChunk t.metadata t.rowGroupIndex.columnChunks footprint id = .ok
          { footprint with
            compressedBytes := footprint.compressedBytes + bytes
            decodedMaterializedBytes := footprint.decodedMaterializedBytes + bytes } := by
  obtain ⟨i, hi, rfl⟩ := List.mem_map.mp hid
  obtain ⟨c, hc⟩ : ∃ c, t.columns[i]? = some c :=
    ⟨_, List.getElem?_eq_getElem (List.mem_range.mp hi)⟩
  have hmem := List.mem_of_getElem? hc
  have hpayload := h.payloads c hmem
  have hlength : (t.chunkDesc i c).valueRef.length.toNat = 48 + c.values.bytes.length :=
    (toNat_length_reference _ h (chunk_part hc)).trans (t.length_sealBytes_chunkObject i c)
  have hoverhead : objectOverhead = 48 := rfl
  have hvalid : (t.chunkDesc i c).valueRef.validate .columnChunk t.metadata.fileLen = .ok () :=
    validate_reference .columnChunk h (chunk_part hc) (by decide)
  have hencoded : encodedPayloadBytes (t.chunkDesc i c) = .ok c.values.bytes.length := by
    rw [encodedPayloadBytes, hlength, hoverhead, checkedSub, if_pos (by omega), okOr_some,
      Nat.add_sub_cancel_left]
  have hbytes : (t.chunkDesc i c).uncompressedBytes.toNat = c.values.bytes.length :=
    toNat_payload h hmem
  have hnull : (t.chunkDesc i c).validityRef.IsNull := OcbBodyRefV2.isNull_null
  refine ⟨c.values.bytes.length, hpayload, ?_, fun footprint hcompressed hdecoded => ?_⟩
  · rw [checkSelectedChunk, selectedChunk_eq_ok h hc, ok_bind, hvalid, ok_bind, hencoded, ok_bind,
      if_pos hnull]
    rfl
  -- the chunk is within the limits, so it is added
  · have hobjectLimit : t.metadata.resourceLimits.maxEncodedObjectBytes.toNat = 1073741824 := rfl
    have hchunkLimit : t.metadata.resourceLimits.maxCompressedChunkBytes.toNat = 536870912 := rfl
    have hdecompressedLimit : t.metadata.resourceLimits.maxDecompressedChunkBytes.toNat =
        536870912 := rfl
    have hobject : ¬ (t.chunkDesc i c).valueRef.length >
        t.metadata.resourceLimits.maxEncodedObjectBytes := by
      rw [gt_iff_lt, UInt64.lt_iff_toNat_lt]
      omega
    have hchunk : ¬ c.values.bytes.length >
        t.metadata.resourceLimits.maxCompressedChunkBytes.toNat := by
      omega
    have hdecompressed : ¬ (t.chunkDesc i c).uncompressedBytes >
        t.metadata.resourceLimits.maxDecompressedChunkBytes := by
      rw [gt_iff_lt, UInt64.lt_iff_toNat_lt]
      omega
    rw [addSelectedChunk, selectedChunk_eq_ok h hc, ok_bind, hvalid, ok_bind, hencoded, ok_bind,
      failIf_neg hobject, ok_bind, failIf_neg hchunk, ok_bind, failIf_neg hdecompressed, ok_bind,
      checkedAdd_of_lt hcompressed, okOr_some, ok_bind, hbytes, checkedAdd_of_lt hdecoded,
      okOr_some, ok_bind, if_pos hnull]
    rfl

/-- The bytes of some columns are few. -/
lemma exists_footprint (h : t.Small) {columnIds : List UInt32} (hids : ∀ id ∈ columnIds, id ∈ t.ids)
    {footprint : SelectedResourceFootprint}
    (hcompressed : footprint.compressedBytes + columnIds.length * 2 ^ 20 < 2 ^ 64)
    (hdecoded : footprint.decodedMaterializedBytes + columnIds.length * 2 ^ 20 < 2 ^ 64) :
    ∃ footprint', columnIds.foldlM (addSelectedChunk t.metadata t.rowGroupIndex.columnChunks)
        footprint = .ok footprint' ∧
      footprint'.compressedBytes ≤ footprint.compressedBytes + columnIds.length * 2 ^ 20 ∧
      footprint'.decodedMaterializedBytes ≤
        footprint.decodedMaterializedBytes + columnIds.length * 2 ^ 20 := by
  induction columnIds generalizing footprint with
  | nil => exact ⟨footprint, rfl, by simp, by simp⟩
  | cons id rest ih =>
    obtain ⟨bytes, hbytes, -, hadd⟩ := exists_accounting h (hids id (by simp))
    rw [List.length_cons, Nat.succ_mul] at hcompressed hdecoded
    obtain ⟨footprint', hfold, hc, hd⟩ := @ih (fun x hx => hids x (by simp [hx]))
      { footprint with
        compressedBytes := footprint.compressedBytes + bytes
        decodedMaterializedBytes := footprint.decodedMaterializedBytes + bytes }
      (by dsimp only; omega) (by dsimp only; omega)
    refine ⟨footprint', ?_, ?_, ?_⟩
    · rw [List.foldlM_cons, hadd footprint (by omega) (by omega), ok_bind, hfold]
    · rw [List.length_cons, Nat.succ_mul]
      dsimp only at hc
      omega
    · rw [List.length_cons, Nat.succ_mul]
      dsimp only at hd
      omega

/-- A plan of the table is admitted. -/
theorem validateOwnedPlanResourceLimits_eq_ok (h : t.Small) {plan : ColumnBundleReadPlan}
    (hplan : t.ReadsTable plan) : validateOwnedPlanResourceLimits t.metadata plan = .ok () := by
  have hcolumns := h.columns
  have hlength : t.ids.length ≤ 64 := by simpa [ids] using hcolumns
  obtain ⟨footprint, hfold, hcompressed, hdecoded⟩ :=
    @exists_footprint t h t.ids (fun _ hid => hid) ⟨0, 0, t.rowGroup.rowCount.toNat⟩
      (by dsimp only; omega) (by dsimp only; omega)
  dsimp only at hcompressed hdecoded
  have hprojected : t.metadata.resourceLimits.maxProjectedRowGroupBytes.toNat = 1073741824 := rfl
  have howned : t.metadata.resourceLimits.maxOwnedSelectedCompressedBytes.toNat = 8589934592 := rfl
  have hmaterialized : t.metadata.resourceLimits.maxOwnedDecodedMaterializedBytes.toNat =
      17179869184 := rfl
  have hchecks : forM t.ids (checkSelectedChunk t.metadata t.rowGroupIndex.columnChunks) =
      .ok () := by
    refine forM_eq_ok.mpr fun id hid => ?_
    obtain ⟨-, -, hcheck, -⟩ := exists_accounting h hid
    exact hcheck
  have hrowGroup : selectedResourceFootprintForRowGroupDesc t.metadata t.rowGroup t.ids =
      .ok footprint := by
    rw [selectedResourceFootprintForRowGroupDesc, show chunksForRowGroup t.metadata
      t.rowGroup.chunkDescBegin t.rowGroup.chunkDescCount = _ from checkedChunks_eq_ok h, ok_bind,
      hchecks, ok_bind, hfold, ok_bind, failIf_neg (by omega), ok_bind]
    rfl
  have hfootprints : selectedResourceFootprintsForPlan t.metadata plan = .ok [footprint] := by
    rw [selectedResourceFootprintsForPlan, selectedRowGroupsForPlan, hplan.rowGroupIds,
      failIf_neg (by simp), ok_bind, List.mapM_cons, rowGroupById_metadata, okOr_some, ok_bind,
      List.mapM_nil, pure_eq_ok, ok_bind, pure_eq_ok, ok_bind, List.mapM_cons,
      hplan.projectedColumnIds, hrowGroup]
    rfl
  have htotal : addOwned .zero footprint = .ok
      ⟨0 + footprint.compressedBytes, 0 + footprint.decodedMaterializedBytes, 0⟩ := by
    have hzero : SelectedResourceFootprint.zero = ⟨0, 0, 0⟩ := rfl
    rw [addOwned, hzero]
    dsimp only
    rw [checkedAdd_of_lt (by omega), okOr_some, ok_bind, checkedAdd_of_lt (by omega), okOr_some,
      ok_bind]
    rfl
  rw [validateOwnedPlanResourceLimits, hfootprints, ok_bind, List.foldlM_cons, htotal, ok_bind,
    List.foldlM_nil, pure_eq_ok, ok_bind, validateFootprintTotals,
    failIf_neg (by dsimp only; omega), ok_bind, failIf_neg (by dsimp only; omega)]

end TableImage

end ArcadiaTio.Ocb
