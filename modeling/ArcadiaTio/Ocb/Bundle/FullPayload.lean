import ArcadiaTio.Ocb.Bundle.Describable
import ArcadiaTio.Ocb.Bundle.Subset
import ArcadiaTio.Ocb.Read.ChunkPaths

/-!
# Fully validated row groups

Opening in full-payload mode runs over every payload and every validity bitmap with a validator of
its own.  A chunk that it accepts (`ChunkValidated`) is decoded by the reader and counted by the
admission, whose only failure left is that the sums overflow.
-/

namespace ArcadiaTio.Ocb

open ArcadiaTio.Lib

/-! ### What full validation has checked of a chunk -/

/-- A chunk of a column whose header, payload and validity bitmap have been looked at. -/
structure ChunkValidated (src : OcbReadSource) (zstd : ZstdCodec) (m : OcbMetadataV1)
    (limits : OcbResourceLimits) (rowGroup : OcbRowGroupDescV1) (column : OcbColumnDescV1)
    (chunk : OcbColumnChunkDescV1) : Prop extends ChunkDescribes rowGroup column chunk where
  nullable : ¬ chunk.validityRef.IsNull → column.nullability = .nullable
  validity : ¬ chunk.validityRef.IsNull → checkValidityRef m chunk = .ok ()
  bitmap : ¬ chunk.validityRef.IsNull → ∃ bytes,
    src.readObjectBytesWithResourceLimits chunk.validityRef .validityBitmap limits = .ok bytes ∧
      bytes.length = validityBitmapLen chunk.rowCount.toNat
  header : IsOk (validateColumnChunkObjectHeader src chunk limits)
  payload : IsOk (readAndDecodeChunk src zstd chunk limits)

section Chunk

variable {src : OcbReadSource} {zstd : ZstdCodec} {m : OcbMetadataV1} {limits : OcbResourceLimits}
  {rowGroup : OcbRowGroupDescV1} {chunk : OcbColumnChunkDescV1} {columns : ColumnsById}

/-- What the check of a chunk leaves, beyond the agreement with the schema. -/
lemma of_validateChunkDesc {validation : OcbOpenValidationMode}
    (h : validateChunkDesc src zstd m rowGroup chunk columns validation limits = .ok ()) :
    (∀ column, columns.get chunk.columnId = some column → ¬ chunk.validityRef.IsNull →
      column.nullability = .nullable) ∧
    (¬ chunk.validityRef.IsNull → checkValidityRef m chunk = .ok ()) ∧
    validateChunkPayload src zstd chunk validation limits = .ok () := by
  obtain ⟨_, -, h⟩ := bind_eq_ok.mp h
  obtain ⟨column, hcolumn, h⟩ := bind_eq_ok.mp h
  obtain ⟨_, -, h⟩ := bind_eq_ok.mp h
  obtain ⟨_, -, h⟩ := bind_eq_ok.mp h
  obtain ⟨_, -, h⟩ := bind_eq_ok.mp h
  obtain ⟨_, -, h⟩ := bind_eq_ok.mp h
  dsimp only at h
  by_cases hnull : chunk.validityRef.IsNull
  · rw [if_pos hnull] at h
    exact ⟨fun _ _ hne => absurd hnull hne, fun hne => absurd hnull hne, h⟩
  · rw [if_neg hnull] at h
    obtain ⟨_, hnullable, h⟩ := bind_eq_ok.mp h
    obtain ⟨_, hvalid, h⟩ := bind_eq_ok.mp h
    obtain ⟨_, hlength, h⟩ := bind_eq_ok.mp h
    refine ⟨fun found hfound _ => ?_, fun _ => ?_, h⟩
    · obtain rfl : column = found := Option.some.inj ((okOr_eq_ok.mp hcolumn).symm.trans hfound)
      exact not_not.mp (failIf_eq_ok.mp hnullable)
    · rw [checkValidityRef, hvalid, ok_bind]
      exact hlength

/-- Full validation looks at everything that a reader of the chunk looks at. -/
lemma exists_chunkValidated (hfault : src.FaultFree)
    (hcolumns : (columns.map OcbColumnDescV1.columnId).Nodup)
    (h : validateChunkDesc src zstd m rowGroup chunk columns .fullPayload limits = .ok ()) :
    ∃ column ∈ columns, ChunkValidated src zstd m limits rowGroup column chunk := by
  obtain ⟨column, hcolumn, hdescribes⟩ := chunkDescribes_of_validateChunkDesc h
  obtain ⟨hnullable, hvalidity, hpayload⟩ := of_validateChunkDesc h
  obtain ⟨_, hstreaming, hbitmap⟩ := bind_eq_ok.mp hpayload
  have hget : columns.get chunk.columnId = some column := by
    rw [hdescribes.columnId]
    exact ColumnsById.get_eq_some hcolumns hcolumn
  refine ⟨column, hcolumn, { hdescribes with
    nullable := hnullable column hget
    validity := hvalidity
    bitmap := fun hne => ?_
    header := (header_of_validateChunkDesc h).1
    payload := (chunkPaths_agree hfault h).streaming_isOk.mp ⟨_, hstreaming⟩ }⟩
  rw [if_neg hne] at hbitmap
  obtain ⟨bytes, hbytes, hlength⟩ := bind_eq_ok.mp hbitmap
  exact ⟨bytes, hbytes, not_not.mp (failIf_eq_ok.mp hlength)⟩

/-! ### Decoding it -/

lemma length_of_readAndDecodeChunk {payload : List UInt8}
    (h : readAndDecodeChunk src zstd chunk limits = .ok payload) :
    payload.length = chunk.uncompressedBytes.toNat := by
  obtain ⟨_, -, h⟩ := bind_eq_ok.mp h
  obtain ⟨_, -, h⟩ := bind_eq_ok.mp h
  obtain ⟨_, -, h⟩ := bind_eq_ok.mp h
  obtain ⟨_, -, h⟩ := bind_eq_ok.mp h
  obtain ⟨_, -, h⟩ := bind_eq_ok.mp h
  obtain ⟨_, -, h⟩ := bind_eq_ok.mp h
  obtain ⟨decoded, -, h⟩ := bind_eq_ok.mp h
  obtain ⟨_, hlength, h⟩ := bind_eq_ok.mp h
  cases h
  exact not_not.mp (failIf_eq_ok.mp hlength)

lemma isOk_decodeAlignedChunks {α : Type} {payload : List UInt8} {width rows : ℕ}
    {decode : List UInt8 → α} {message : String} (h : payload.length = rows * width) :
    IsOk (decodeAlignedChunks payload width decode message) := by
  rw [decodeAlignedChunks, failIf_neg (by rw [h, Nat.mul_mod_left]; exact not_not.mpr rfl)]
  exact isOk_ok

/-- A payload of whole values is decoded. -/
lemma isOk_decodePrimitiveValues {column : OcbColumnDescV1} {type : ColumnPhysicalType}
    {payload : List UInt8} {width rows : ℕ} (htype : columnPhysicalTypeFromDesc column = .ok type)
    (hwidth : column.valueByteWidth = .ok width) (h : payload.length = rows * width) :
    IsOk (decodePrimitiveValues type payload) := by
  rw [columnPhysicalTypeFromDesc] at htype
  rw [OcbColumnDescV1.valueByteWidth] at hwidth
  cases hphysical : column.physicalType <;>
    simp only [hphysical, primitiveColumnType, OcbPhysicalTypeV1.primitiveByteWidth, bind_eq_ok,
      pure_eq_ok, Except.ok.injEq] at htype hwidth <;>
    obtain ⟨_, hnonzero, rfl⟩ := htype <;>
    obtain ⟨_, -, rfl⟩ := hwidth
  case fixedBinary =>
    rw [decodePrimitiveValues, failIf_neg (failIf_eq_ok.mp hnonzero), ok_bind,
      failIf_neg (by rw [h, Nat.mul_mod_left]; exact not_not.mpr rfl)]
    exact isOk_ok
  all_goals exact isOk_map.mpr (isOk_decodeAlignedChunks h)

/-- A validated chunk is read into a column. -/
lemma ChunkValidated.isOk_readColumnArray {desc : OcbColumnDescV1} {column : BundleColumn}
    (h : ChunkValidated src zstd m limits rowGroup desc chunk)
    (hlimits : m.resourceLimits = limits) (hcolumn : resolveColumn m desc = .ok column) :
    IsOk (readColumnArray src zstd m column chunk rowGroup.rowCount) := by
  obtain ⟨-, -, htype⟩ := resolveColumn_eq_ok hcolumn
  have hphysical : column.physicalType.ocbPhysicalType = chunk.physicalType :=
    (ocbPhysicalType_of_desc htype).trans h.physicalType.symm
  have hnullable : ¬ (¬ column.nullable ∧ ¬ chunk.validityRef.IsNull) := by
    rintro ⟨hnot, hne⟩
    exact hnot ((nullable_of_resolveColumn hcolumn).mpr (h.nullable hne))
  have hread : readChunkPayload src zstd m column chunk =
      readAndDecodeChunk src zstd chunk limits := by
    rw [readChunkPayload, hlimits, hphysical]
    rfl
  obtain ⟨payload, hpayload⟩ := h.payload
  obtain ⟨width, hwidth, hbytes⟩ := h.bytes
  obtain ⟨validity, hvalidity⟩ : IsOk (readValidityBitmap src m chunk) := by
    rw [readValidityBitmap]
    by_cases hnull : chunk.validityRef.IsNull
    · rw [if_pos hnull]
      exact isOk_ok
    · obtain ⟨bytes, hbitmap, hlength⟩ := h.bitmap hnull
      rw [if_neg hnull, hlimits, hbitmap, ok_bind, failIf_neg (not_not.mpr hlength)]
      exact isOk_ok
  obtain ⟨values, hvalues⟩ := isOk_decodePrimitiveValues htype hwidth
    ((length_of_readAndDecodeChunk hpayload).trans hbytes)
  rw [readColumnArray, failIf_neg hnullable, ok_bind, failIf_neg (not_not.mpr hphysical.symm),
    ok_bind, failIf_neg (not_not.mpr h.rowCount), ok_bind, hread, hpayload, ok_bind, hvalidity,
    ok_bind, hvalues]
  exact isOk_ok

end Chunk

/-! ### Accounting for it -/

namespace OcbColumnChunkDescV1

/-- The bytes of the validity bitmap of a chunk. -/
def validityBytes (chunk : OcbColumnChunkDescV1) : ℕ :=
  if chunk.validityRef.IsNull then 0 else validityBitmapLen chunk.rowCount.toNat

/-- The bytes that a reader of the chunk takes from the file. -/
def compressedBytes (chunk : OcbColumnChunkDescV1) : ℕ :=
  chunk.valueRef.length.toNat - objectOverhead + chunk.validityBytes

/-- The bytes that a reader of the chunk returns. -/
def decodedBytes (chunk : OcbColumnChunkDescV1) : ℕ :=
  chunk.uncompressedBytes.toNat + chunk.validityBytes

end OcbColumnChunkDescV1

/-- The footprint with one more chunk. -/
def SelectedResourceFootprint.withChunk (footprint : SelectedResourceFootprint)
    (chunk : OcbColumnChunkDescV1) : SelectedResourceFootprint :=
  { footprint with
    compressedBytes := footprint.compressedBytes + chunk.compressedBytes
    decodedMaterializedBytes := footprint.decodedMaterializedBytes + chunk.decodedBytes }

section Accounting

variable {src : OcbReadSource} {zstd : ZstdCodec} {m : OcbMetadataV1} {limits : OcbResourceLimits}
  {rowGroup : OcbRowGroupDescV1} {desc : OcbColumnDescV1} {chunk : OcbColumnChunkDescV1}
  {chunks : List OcbColumnChunkDescV1} {columnId : UInt32}

lemma length_le_of_readObjectBytes {reference : OcbBodyRefV2} {kind : OcbBodyKindV1}
    {bytes : List UInt8}
    (h : src.readObjectBytesWithResourceLimits reference kind limits = .ok bytes) :
    reference.length.toNat ≤ limits.maxEncodedObjectBytes.toNat := by
  obtain ⟨_, -, h⟩ := bind_eq_ok.mp h
  obtain ⟨_, hlength, -⟩ := bind_eq_ok.mp h
  exact not_lt.mp (failIf_eq_ok.mp hlength)

lemma ChunkValidated.checkSelectedChunk (h : ChunkValidated src zstd m limits rowGroup desc chunk)
    (hfileLen : m.fileLen = src.fileLen)
    (hfind : (chunks.find? fun chunk => chunk.columnId = columnId) = some chunk) :
    Ocb.checkSelectedChunk m chunks columnId = .ok () := by
  obtain ⟨header, hheader⟩ := h.header
  obtain ⟨hvalid, hoverhead⟩ := of_validateColumnChunkObjectHeader hheader
  rw [Ocb.checkSelectedChunk, selectedChunk, hfind, okOr_some, ok_bind, hfileLen, hvalid, ok_bind,
    encodedPayloadBytes, checkedSub, if_pos hoverhead, okOr_some, ok_bind]
  by_cases hnull : chunk.validityRef.IsNull
  · rw [if_pos hnull]
    rfl
  · rw [if_neg hnull, h.validity hnull]

/-- The bytes of a validated chunk are added, unless they overflow. -/
lemma ChunkValidated.addSelectedChunk (h : ChunkValidated src zstd m limits rowGroup desc chunk)
    (hfault : src.FaultFree) (hfileLen : m.fileLen = src.fileLen)
    (hlimits : m.resourceLimits = limits)
    (hfind : (chunks.find? fun chunk => chunk.columnId = columnId) = some chunk)
    {footprint : SelectedResourceFootprint}
    (hcompressed : (footprint.withChunk chunk).compressedBytes < 2 ^ 64)
    (hdecoded : (footprint.withChunk chunk).decodedMaterializedBytes < 2 ^ 64) :
    Ocb.addSelectedChunk m chunks footprint columnId = .ok (footprint.withChunk chunk) := by
  obtain ⟨header, hheader⟩ := h.header
  obtain ⟨hvalid, hoverhead⟩ := of_validateColumnChunkObjectHeader hheader
  obtain ⟨payload, trailer, hstored⟩ := exists_storedChunk hfault hheader
  have hencoded := hstored.encoded_le
  have hpayload := hstored.payload_le
  have hvalues := hstored.values_le
  have hlength : chunk.valueRef.length.toNat - objectOverhead = payload.length := by
    have := hstored.length_eq
    rw [objectOverhead]
    omega
  simp only [SelectedResourceFootprint.withChunk, OcbColumnChunkDescV1.compressedBytes,
    OcbColumnChunkDescV1.decodedBytes] at hcompressed hdecoded ⊢
  rw [Ocb.addSelectedChunk, selectedChunk, hfind, okOr_some, ok_bind, hfileLen, hvalid, ok_bind,
    encodedPayloadBytes, checkedSub, if_pos hoverhead, okOr_some, ok_bind, hlimits,
    failIf_neg (by rw [gt_iff_lt, UInt64.lt_iff_toNat_lt]; omega), ok_bind,
    failIf_neg (by omega), ok_bind,
    failIf_neg (by rw [gt_iff_lt, UInt64.lt_iff_toNat_lt]; omega), ok_bind,
    checkedAdd_of_lt (by omega), okOr_some, ok_bind, checkedAdd_of_lt (by omega), okOr_some,
    ok_bind]
  by_cases hnull : chunk.validityRef.IsNull
  · have hzero : chunk.validityBytes = 0 := if_pos hnull
    rw [if_pos hnull, hzero, Nat.add_zero, Nat.add_zero]
    rfl
  · have hbytes : chunk.validityBytes = validityBitmapLen chunk.rowCount.toNat := if_neg hnull
    obtain ⟨bytes, hbitmap, -⟩ := h.bitmap hnull
    have hle := length_le_of_readObjectBytes hbitmap
    rw [hbytes] at hcompressed hdecoded ⊢
    rw [if_neg hnull, h.validity hnull, ok_bind,
      failIf_neg (by rw [gt_iff_lt, UInt64.lt_iff_toNat_lt]; omega), ok_bind]
    dsimp only
    rw [checkedAdd_of_lt (by omega), okOr_some, ok_bind, checkedAdd_of_lt (by omega), okOr_some,
      ok_bind]
    simp only [Nat.add_assoc]
    rfl

end Accounting

/-! ### The row groups of a fully validated file -/

/-- The chunks of a row group are found, and for each column of the schema there is a validated
one. -/
structure RowGroupReadable (src : OcbReadSource) (zstd : ZstdCodec) (m : OcbMetadataV1)
    (limits : OcbResourceLimits) (rowGroup : OcbRowGroupDescV1)
    (chunks : List OcbColumnChunkDescV1) : Prop where
  found : chunksForRowGroup m rowGroup.chunkDescBegin rowGroup.chunkDescCount = .ok chunks
  nodup : (chunks.map OcbColumnChunkDescV1.columnId).Nodup
  rowGroupId : ∀ chunk ∈ chunks, chunk.rowGroupId = rowGroup.rowGroupId
  cover : ∀ desc ∈ m.schema.columns, ∃ chunk ∈ chunks,
    ChunkValidated src zstd m limits rowGroup desc chunk

section RowGroup

variable {src : OcbReadSource} {zstd : ZstdCodec} {m : OcbMetadataV1} {limits : OcbResourceLimits}
  {rowGroup : OcbRowGroupDescV1} {chunks : List OcbColumnChunkDescV1}

lemma RowGroupChecked.exists_readable
    (h : RowGroupChecked src zstd m m.schema.columns .fullPayload limits rowGroup)
    (hfault : src.FaultFree) (hcolumns : (m.schema.columns.map OcbColumnDescV1.columnId).Nodup) :
    ∃ chunks, RowGroupReadable src zstd m limits rowGroup chunks := by
  obtain ⟨chunks, hchunks, hnodup, hcover, hvalid⟩ := h.chunks
  refine ⟨chunks, hchunks, hnodup, fun chunk hchunk => ?_, fun desc hdesc => ?_⟩
  · obtain ⟨_, -, hdescribes⟩ := chunkDescribes_of_validateChunkDesc (hvalid chunk hchunk)
    exact hdescribes.rowGroupId
  · obtain ⟨chunk, hchunk, hid⟩ := List.mem_map.mp (hcover.2 _ (List.mem_map_of_mem hdesc))
    obtain ⟨found, hfound, hvalidated⟩ :=
      exists_chunkValidated hfault hcolumns (hvalid chunk hchunk)
    have hsame : found = desc := List.inj_on_of_nodup_map hcolumns hfound hdesc
      (hvalidated.columnId.symm.trans hid)
    exact ⟨chunk, hchunk, hsame ▸ hvalidated⟩

/-- The map of the chunks of a row group by their columns. -/
lemma RowGroupReadable.chunkByColumn_eq
    (h : RowGroupReadable src zstd m limits rowGroup chunks) :
    chunkByColumnForRowGroup m rowGroup =
      .ok (chunks.map fun chunk => (chunk.columnId, chunk)) := by
  rw [chunkByColumnForRowGroup, h.found, ok_bind,
    insertChunks_eq_ok h.rowGroupId (by simpa using h.nodup), List.nil_append]

/-- The chunks of some columns, in the order of the columns. -/
def chunksOf (chunks : List OcbColumnChunkDescV1) (columnIds : List UInt32) :
    List OcbColumnChunkDescV1 :=
  columnIds.filterMap fun columnId => chunks.find? fun chunk => chunk.columnId = columnId

lemma chunksOf_cons {columnId : UInt32} {chunk : OcbColumnChunkDescV1} {rest : List UInt32}
    (h : (chunks.find? fun chunk => chunk.columnId = columnId) = some chunk) :
    chunksOf chunks (columnId :: rest) = chunk :: chunksOf chunks rest :=
  List.filterMap_cons_some h

/-- The footprint of some columns of a row group, added up without a bound. -/
def footprintOf (chunks : List OcbColumnChunkDescV1) (rowCount : ℕ) (columnIds : List UInt32) :
    SelectedResourceFootprint :=
  (chunksOf chunks columnIds).foldl SelectedResourceFootprint.withChunk ⟨0, 0, rowCount⟩

/-- Adding chunks makes no footprint smaller. -/
lemma le_foldl_withChunk (footprint : SelectedResourceFootprint) :
    footprint.compressedBytes ≤
        (chunks.foldl SelectedResourceFootprint.withChunk footprint).compressedBytes ∧
      footprint.decodedMaterializedBytes ≤
        (chunks.foldl SelectedResourceFootprint.withChunk footprint).decodedMaterializedBytes := by
  induction chunks generalizing footprint with
  | nil => exact ⟨le_rfl, le_rfl⟩
  | cons chunk rest ih =>
    obtain ⟨hcompressed, hdecoded⟩ := ih (footprint.withChunk chunk)
    simp only [SelectedResourceFootprint.withChunk] at hcompressed hdecoded
    rw [List.foldl_cons]
    exact ⟨(Nat.le_add_right _ _).trans hcompressed, (Nat.le_add_right _ _).trans hdecoded⟩

/-- The chunk of a known column is found and validated. -/
lemma RowGroupReadable.find_chunk (h : RowGroupReadable src zstd m limits rowGroup chunks)
    {desc : OcbColumnDescV1} (hdesc : desc ∈ m.schema.columns) :
    ∃ chunk, (chunks.find? fun chunk => chunk.columnId = desc.columnId) = some chunk ∧
      (chunks.map fun chunk => (chunk.columnId, chunk)).lookup desc.columnId = some chunk ∧
      ChunkValidated src zstd m limits rowGroup desc chunk := by
  obtain ⟨chunk, hchunk, hvalidated⟩ := h.cover desc hdesc
  exact ⟨chunk, (find?_eq_some_of_nodup h.nodup).mpr ⟨hchunk, hvalidated.columnId⟩,
    (lookup_map_eq_some h.nodup).mpr ⟨hchunk, hvalidated.columnId⟩, hvalidated⟩

lemma RowGroupReadable.foldlM_addSelectedChunk
    (h : RowGroupReadable src zstd m limits rowGroup chunks) (hfault : src.FaultFree)
    (hfileLen : m.fileLen = src.fileLen) (hlimits : m.resourceLimits = limits)
    {columnIds : List UInt32}
    (hknown : ∀ id ∈ columnIds, id ∈ m.schema.columns.map OcbColumnDescV1.columnId)
    {start sum : SelectedResourceFootprint}
    (hsum : (chunksOf chunks columnIds).foldl SelectedResourceFootprint.withChunk start = sum)
    (hcompressed : sum.compressedBytes < 2 ^ 64)
    (hdecoded : sum.decodedMaterializedBytes < 2 ^ 64) :
    columnIds.foldlM (addSelectedChunk m chunks) start = .ok sum := by
  induction columnIds generalizing start with
  | nil => exact congrArg Except.ok hsum
  | cons id rest ih =>
    obtain ⟨desc, hdesc, rfl⟩ := List.mem_map.mp (hknown id (by simp))
    obtain ⟨chunk, hfind, -, hvalidated⟩ := h.find_chunk hdesc
    rw [chunksOf_cons hfind, List.foldl_cons] at hsum
    obtain ⟨hc, hd⟩ := @le_foldl_withChunk (chunksOf chunks rest) (start.withChunk chunk)
    rw [hsum] at hc hd
    rw [List.foldlM_cons, hvalidated.addSelectedChunk hfault hfileLen hlimits hfind
      (hc.trans_lt hcompressed) (hd.trans_lt hdecoded), ok_bind]
    exact ih (fun id hid => hknown id (by simp [hid])) hsum

/-- The limit of one row group. -/
def admitRowGroup (limits : OcbResourceLimits) (footprint : SelectedResourceFootprint) :
    Result SelectedResourceFootprint := do
  failIf (footprint.decodedMaterializedBytes > limits.maxProjectedRowGroupBytes.toNat)
    (ocbInvalidInput "OCB projected decoded row group exceeds resource limit")
  return footprint

/-- The bytes of known columns are added up, unless they overflow; then only the limit of one row
group is left to check. -/
theorem RowGroupReadable.footprint_eq (h : RowGroupReadable src zstd m limits rowGroup chunks)
    (hfault : src.FaultFree) (hfileLen : m.fileLen = src.fileLen)
    (hlimits : m.resourceLimits = limits) {columnIds : List UInt32}
    (hknown : ∀ id ∈ columnIds, id ∈ m.schema.columns.map OcbColumnDescV1.columnId)
    {footprint : SelectedResourceFootprint}
    (hsum : footprintOf chunks rowGroup.rowCount.toNat columnIds = footprint)
    (hcompressed : footprint.compressedBytes < 2 ^ 64)
    (hdecoded : footprint.decodedMaterializedBytes < 2 ^ 64) :
    selectedResourceFootprintForRowGroupDesc m rowGroup columnIds =
      admitRowGroup limits footprint := by
  have hcheck : (forM columnIds (checkSelectedChunk m chunks) : Result Unit) = .ok () := by
    refine forM_eq_ok.mpr fun id hid => ?_
    obtain ⟨desc, hdesc, rfl⟩ := List.mem_map.mp (hknown id hid)
    obtain ⟨chunk, hfind, -, hvalidated⟩ := h.find_chunk hdesc
    exact hvalidated.checkSelectedChunk hfileLen hfind
  rw [selectedResourceFootprintForRowGroupDesc, h.found, ok_bind, hcheck, ok_bind,
    h.foldlM_addSelectedChunk hfault hfileLen hlimits hknown hsum hcompressed hdecoded, ok_bind,
    hlimits]
  rfl

end RowGroup

end ArcadiaTio.Ocb
