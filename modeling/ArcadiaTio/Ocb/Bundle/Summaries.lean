import Mathlib.Tactic.Ring
import ArcadiaTio.Ocb.Bundle.Batches
import ArcadiaTio.Ocb.Bundle.Fingerprint
import ArcadiaTio.Ocb.Format.Metering

/-!
# Describing an opened file

What a file tells its callers without reading a payload: the metadata of the snapshot, a summary of
each row group, and the fingerprint of both.  The conversions check again what the validation of
the graph has accepted.  A file that opens can be described unless one of its dictionaries has
codes of fixed width, which the validation accepts when no column refers to it.
-/

namespace ArcadiaTio.Ocb

open ArcadiaTio.Lib

/-! ### Conversions -/

/-- The summary of a reference. -/
def bodyRefSummary (bodyRef : OcbBodyRefV2) : ColumnBundleBodyRefSummary where
  offset := bodyRef.offset
  length := bodyRef.length
  kind := .from bodyRef.kind
  flags := bodyRef.flags
  checksumKind := .from bodyRef.checksumKind
  checksum := bodyRef.checksum

/-- The summary of a reference that must be of a kind and within the file. -/
def checkedBodyRefSummary (bodyRef : OcbBodyRefV2) (expectedKind : OcbBodyKindV1) (fileLen : ℕ) :
    Result ColumnBundleBodyRefSummary := do
  bodyRef.validate expectedKind fileLen
  return bodyRefSummary bodyRef

/-- The same of a reference that may be null. -/
def checkedOptionalBodyRefSummary (bodyRef : OcbBodyRefV2) (expectedKind : OcbBodyKindV1)
    (fileLen : ℕ) : Result (Option ColumnBundleBodyRefSummary) :=
  if bodyRef.IsNull then .ok none
  else some <$> checkedBodyRefSummary bodyRef expectedKind fileLen

/-- The bytes of a payload without the header and checksum around it. -/
def columnChunkCompressedPayloadBytes (valueRef : OcbBodyRefV2) : Result UInt64 := do
  let bytes ← okOr (checkedSub valueRef.length.toNat objectOverhead)
    (ocbCorruptFile "OCB column chunk body reference is too short")
  return bytes.toUInt64

/-- The public type of a chunk, which must be that of its column. -/
def publicPhysicalTypeFromChunk (physicalType : OcbPhysicalTypeV1) (column : BundleColumn) :
    Result ColumnPhysicalType :=
  match physicalType, column.physicalType with
  | .i32, .i32 => .ok .i32
  | .i64, .i64 => .ok .i64
  | .f32, .f32 => .ok .f32
  | .f64, .f64 => .ok .f64
  | .fixedBinary, .fixedBinary width => .ok (.fixedBinary width)
  | _, _ => .error (ocbCorruptFile "OCB column chunk dtype does not match schema column dtype")

/-- The descriptor of a dictionary. -/
def dictionaryDescriptor (m : OcbMetadataV1) (dictionary : OcbDictionaryDescV1) :
    Result BundleDictionaryDescriptor := do
  let name ← okOr (dictionary.name? m.stringTable.strings)
    (ocbCorruptFile "OCB dictionary name string id is out of range")
  let name ← cloneColumnBundleStringFallibly name
  let codePhysicalType ← scalarColumnPhysicalType dictionary.codePhysicalType
  return {
    dictionaryId := dictionary.dictionaryId, name, codePhysicalType
    valueKind := .from dictionary.valueKind, entryCount := dictionary.entryCount }

namespace ColumnBundleFile

variable (file : ColumnBundleFile)

/-- An ordering key with the name of its column. -/
def orderingKey (key : OcbOrderingKeyV1) : Result BundleOrderingKey := do
  let column ← okOr (file.columns.find? fun column => column.id = key.columnId)
    (ocbCorruptFile "OCB ordering key column id is out of range")
  let columnName ← cloneColumnBundleStringFallibly column.name.value
  return {
    columnId := key.columnId, columnName, direction := .from key.direction
    nullOrder := .from key.nullOrder }

lemma size_formatName : "OCB".toUTF8.size < 2 ^ 63 := by decide

/-- The metadata of the opened snapshot: the method `metadata` of the source. -/
def describe : Result ColumnBundleMetadata := do
  let dictionaries ← (file.metadata.dictionaryIndex.elim [] (·.dictionaries)).mapM
    (dictionaryDescriptor file.metadata)
  let orderingKeys ← (file.metadata.orderingProof.elim [] (·.keys)).mapM file.orderingKey
  let columns ← file.columns.mapM fun column => do
    let name ← cloneColumnBundleStringFallibly column.name.value
    return { column with name }
  failIf (2 ^ 32 ≤ file.metadata.rowGroupIndex.columnChunks.length)
    (ocbCorruptFile "OCB column chunk count exceeds u32")
  return {
    formatName := ⟨"OCB", size_formatName⟩
    appendable := file.metadata.appendable
    rootGeneration := file.metadata.rootGeneration
    previousRootGeneration := file.metadata.previousRootGeneration
    rowCount := file.metadata.root.rowCount
    rowGroupCount := file.metadata.root.rowGroupCount
    columnChunkCount := file.metadata.rowGroupIndex.columnChunks.length.toUInt32
    columns, dictionaries, orderingKeys }

/-! ### Row groups -/

/-- The column with an id. -/
def columnById (columnId : UInt32) : Result BundleColumn :=
  okOr (file.columns.find? fun column => column.id = columnId)
    (ocbCorruptFile "OCB metadata references an unknown column id")

/-- The summary of a chunk. -/
def columnChunkSummary (chunk : OcbColumnChunkDescV1) :
    Result ColumnBundleColumnChunkSummary := do
  let column ← file.columnById chunk.columnId
  let physicalType ← publicPhysicalTypeFromChunk chunk.physicalType column
  let valueRef ← checkedBodyRefSummary chunk.valueRef .columnChunk file.metadata.fileLen
  let validityRef ←
    checkedOptionalBodyRefSummary chunk.validityRef .validityBitmap file.metadata.fileLen
  let columnName ← cloneColumnBundleStringFallibly column.name.value
  let compressedBytes ← columnChunkCompressedPayloadBytes chunk.valueRef
  return {
    rowGroupId := chunk.rowGroupId, columnId := chunk.columnId, columnName, physicalType
    logicalKind := column.logicalKind
    fixedBinaryWidth := match physicalType with
      | .fixedBinary width => some width
      | _ => none
    codec := .from chunk.codec, rowCount := chunk.rowCount, compressedBytes
    uncompressedBytes := chunk.uncompressedBytes, valueRef, validityRef }

/-- The summaries of the chunks of a row group, those of the selected columns if there is a
selection. -/
def columnChunkSummaries (rowGroupId : UInt32) (projectedColumnIds : Option (List UInt32)) :
    List OcbColumnChunkDescV1 → Result (List ColumnBundleColumnChunkSummary)
  | [] => .ok []
  | chunk :: rest => do
    failIf (chunk.rowGroupId ≠ rowGroupId)
      (ocbCorruptFile "OCB column chunk references a different row group")
    if projectedColumnIds.any fun selected => chunk.columnId ∉ selected then
      columnChunkSummaries rowGroupId projectedColumnIds rest
    else
      let summary ← file.columnChunkSummary chunk
      let summaries ← columnChunkSummaries rowGroupId projectedColumnIds rest
      return summary :: summaries

/-- The summary of the statistics of a column. -/
def columnStatsSummary (rowGroupId : UInt32) (stat : OcbColumnStatsV1) :
    Result ColumnBundleColumnStatsSummary := do
  failIf (stat.rowGroupId ≠ rowGroupId)
    (ocbCorruptFile "OCB row-group stat references a different row group")
  let column ← file.columnById stat.columnId
  let physicalType ← scalarColumnPhysicalType stat.physicalType
  failIf (physicalType ≠ column.physicalType)
    (ocbCorruptFile "OCB row-group stat dtype does not match column dtype")
  let columnName ← cloneColumnBundleStringFallibly column.name.value
  return {
    rowGroupId := stat.rowGroupId, columnId := stat.columnId, columnName, physicalType
    nullCount := stat.nullCount, min := .fromStat stat.minValue, max := .fromStat stat.maxValue }

/-- The summary of a row group, of all columns or of the projected ones. -/
def buildRowGroupSummary (rowGroup : OcbRowGroupDescV1)
    (projectedColumnIds : Option (List UInt32)) : Result ColumnBundleRowGroupSummary := do
  let chunks ← columnChunksForRowGroup file.metadata rowGroup.chunkDescBegin rowGroup.chunkDescCount
  let chunks ← file.columnChunkSummaries rowGroup.rowGroupId projectedColumnIds chunks
  let stats ← statsForRowGroup file.metadata rowGroup.statBegin rowGroup.statCount
  let stats ← stats.mapM (file.columnStatsSummary rowGroup.rowGroupId)
  let firstKeyTupleRef ←
    checkedOptionalBodyRefSummary rowGroup.firstKeyTupleRef .keyTuple file.metadata.fileLen
  let lastKeyTupleRef ←
    checkedOptionalBodyRefSummary rowGroup.lastKeyTupleRef .keyTuple file.metadata.fileLen
  return {
    rowGroupId := rowGroup.rowGroupId, baseRow := rowGroup.baseRow, rowCount := rowGroup.rowCount
    firstKeyTupleRef, lastKeyTupleRef, chunks, stats }

/-- The summaries of row groups one after the other; `seen` are the ids before. -/
def buildRowGroupSummaries (projectedColumnIds : Option (List UInt32)) :
    List UInt32 → List UInt32 → Result (List ColumnBundleRowGroupSummary)
  | [], _ => .ok []
  | rowGroupId :: rest, seen => do
    failIf (rowGroupId ∈ seen)
      (ocbInvalidInput "OCB row-group summary request contains duplicate row group ids")
    let rowGroup ← okOr (file.metadata.rowGroupById rowGroupId)
      (ocbInvalidInput "OCB row-group summary request references an unknown row group id")
    let summary ← file.buildRowGroupSummary rowGroup projectedColumnIds
    let summaries ← buildRowGroupSummaries projectedColumnIds rest (rowGroupId :: seen)
    return summary :: summaries

/-- The summaries of all row groups. -/
def rowGroupSummaries : Result (List ColumnBundleRowGroupSummary) :=
  file.buildRowGroupSummaries none
    (file.metadata.rowGroupIndex.rowGroups.map OcbRowGroupDescV1.rowGroupId) []

/-- The summaries of the row groups of a plan. -/
def readPlanRowGroupSummaries (plan : ColumnBundleReadPlan) :
    Result (List ColumnBundleRowGroupSummary) := do
  file.validateReadPlan plan
  file.buildRowGroupSummaries (some plan.projectedColumnIds) plan.rowGroupIds []

/-- The fingerprints of a file. -/
def snapshotFingerprint : Result ColumnBundleSnapshotFingerprint := do
  let metadata ← file.describe
  let rowGroups ← file.rowGroupSummaries
  return snapshotFingerprintForSummaries metadata rowGroups

end ColumnBundleFile

/-- What a plan selects, for a certification. -/
structure ColumnBundleReadPlanCertification where
  snapshotFingerprint : ColumnBundleSnapshotFingerprint
  fileLen : ℕ
  rootGeneration : UInt64
  previousRootGeneration : Option UInt64
  rowCount : UInt64
  rowGroupCount : UInt32
  report : ColumnBundleReadReport
  rowGroups : List ColumnBundleRowGroupSummary
  selectedCompressedBytes : ℕ
  selectedUncompressedBytes : ℕ
  selectedChunkFingerprint : String

/-- Add the bytes of the chunks up, one after the other. -/
def addSelectedBytes (total : ℕ × ℕ) (chunk : ColumnBundleColumnChunkSummary) : Result (ℕ × ℕ) := do
  let compressed ← okOr (checkedAdd 64 total.1 chunk.compressedBytes.toNat)
    (ocbCorruptFile "OCB read plan certification compressed byte total overflows")
  let uncompressed ← okOr (checkedAdd 64 total.2 chunk.uncompressedBytes.toNat)
    (ocbCorruptFile "OCB read plan certification uncompressed byte total overflows")
  return (compressed, uncompressed)

/-- What a plan selects, certified by fingerprints. -/
def ColumnBundleFile.readPlanCertification (file : ColumnBundleFile)
    (plan : ColumnBundleReadPlan) : Result ColumnBundleReadPlanCertification := do
  file.validateReadPlan plan
  let metadata ← file.describe
  let snapshotFingerprint ← file.snapshotFingerprint
  let rowGroups ← file.readPlanRowGroupSummaries plan
  let total ← (rowGroups.flatMap (·.chunks)).foldlM addSelectedBytes (0, 0)
  return {
    snapshotFingerprint, fileLen := file.metadata.fileLen
    rootGeneration := metadata.rootGeneration
    previousRootGeneration := metadata.previousRootGeneration
    rowCount := metadata.rowCount, rowGroupCount := metadata.rowGroupCount
    report := plan.report, rowGroups
    selectedCompressedBytes := total.1, selectedUncompressedBytes := total.2
    selectedChunkFingerprint := fingerprintSelectedChunks rowGroups }

/-! ### What the validation says about the descriptors -/

section Validated

variable {src : OcbReadSource} {zstd : ZstdCodec} {m : OcbMetadataV1}
  {validation : OcbOpenValidationMode} {limits : OcbResourceLimits} {columns : ColumnsById}

/-- The references of a chunk point into the file. -/
structure ChunkRefsChecked (fileLen : ℕ) (chunk : OcbColumnChunkDescV1) : Prop where
  value : chunk.valueRef.validate .columnChunk fileLen = .ok ()
  overhead : objectOverhead ≤ chunk.valueRef.length.toNat
  validity : chunk.validityRef.IsNull ∨
    chunk.validityRef.validate .validityBitmap fileLen = .ok ()

lemma of_validateColumnChunkObjectHeader {chunk : OcbColumnChunkDescV1} {header : List UInt8}
    (h : validateColumnChunkObjectHeader src chunk limits = .ok header) :
    chunk.valueRef.validate .columnChunk src.fileLen = .ok () ∧
      objectOverhead ≤ chunk.valueRef.length.toNat := by
  obtain ⟨_, hvalid, h⟩ := bind_eq_ok.mp h
  obtain ⟨_, hshort, -⟩ := bind_eq_ok.mp h
  rw [failIf_eq_ok, not_lt] at hshort
  exact ⟨hvalid, hshort⟩

/-- Both modes of the validation check the header of the object. -/
lemma refs_of_validateChunkDesc {rowGroup : OcbRowGroupDescV1} {chunk : OcbColumnChunkDescV1}
    (h : validateChunkDesc src zstd m rowGroup chunk columns validation limits = .ok ())
    (hlen : m.fileLen = src.fileLen) : ChunkRefsChecked m.fileLen chunk := by
  obtain ⟨_, -, h⟩ := bind_eq_ok.mp h
  obtain ⟨column, -, h⟩ := bind_eq_ok.mp h
  obtain ⟨_, -, h⟩ := bind_eq_ok.mp h
  obtain ⟨_, -, h⟩ := bind_eq_ok.mp h
  obtain ⟨bytes, -, h⟩ := bind_eq_ok.mp h
  obtain ⟨_, -, h⟩ := bind_eq_ok.mp h
  have hheader : ∀ {k : List UInt8 → Result Unit},
      (validateColumnChunkObjectHeader src chunk limits >>= k) = .ok () →
      chunk.valueRef.validate .columnChunk src.fileLen = .ok () ∧
        objectOverhead ≤ chunk.valueRef.length.toNat := by
    intro k hk
    obtain ⟨header, hheader, -⟩ := bind_eq_ok.mp hk
    exact of_validateColumnChunkObjectHeader hheader
  by_cases hnull : chunk.validityRef.IsNull
  · rw [if_pos hnull] at h
    cases validation with
    | metadataGraph =>
      obtain ⟨hvalid, hshort⟩ := hheader h
      exact ⟨hlen ▸ hvalid, hshort, Or.inl hnull⟩
    | fullPayload =>
      obtain ⟨_, hstream, -⟩ := bind_eq_ok.mp h
      obtain ⟨hvalid, hshort⟩ := hheader hstream
      exact ⟨hlen ▸ hvalid, hshort, Or.inl hnull⟩
  · rw [if_neg hnull] at h
    obtain ⟨_, -, h⟩ := bind_eq_ok.mp h
    obtain ⟨_, hvalidity, h⟩ := bind_eq_ok.mp h
    obtain ⟨_, -, h⟩ := bind_eq_ok.mp h
    cases validation with
    | metadataGraph =>
      obtain ⟨hvalid, hshort⟩ := hheader h
      exact ⟨hlen ▸ hvalid, hshort, Or.inr hvalidity⟩
    | fullPayload =>
      obtain ⟨_, hstream, -⟩ := bind_eq_ok.mp h
      obtain ⟨hvalid, hshort⟩ := hheader hstream
      exact ⟨hlen ▸ hvalid, hshort, Or.inr hvalidity⟩

end Validated

/-! ### The strings of an opened file -/

/-- The strings of a table are shorter than their length fields can say. -/
def OcbStringTableV1.Bounded (t : OcbStringTableV1) : Prop :=
  ∀ s ∈ t.strings, s.toUTF8.size < 2 ^ 32

lemma size_of_stringFromUtf8 {bytes : List UInt8} {value : String}
    (h : stringFromUtf8 bytes = some value) : value.toUTF8.size = bytes.length := by
  rw [stringFromUtf8, String.fromUTF8?] at h
  split at h
  · cases h
    rfl
  · cases h

lemma size_of_readStringU32Bounded {totalLen : ℕ} {bytes rest : List UInt8} {value : String}
    (h : (readStringU32Bounded totalLen).run bytes = .ok (value, rest)) :
    value.toUTF8.size < 2 ^ 32 := by
  obtain ⟨pos, b₁, -, h⟩ := Decoder.run_bind_eq_ok.mp h
  obtain ⟨_, b₂, -, h⟩ := Decoder.run_bind_eq_ok.mp h
  obtain ⟨len, b₃, -, h⟩ := Decoder.run_bind_eq_ok.mp h
  obtain ⟨pos, b₄, hpos, h⟩ := Decoder.run_bind_eq_ok.mp h
  obtain ⟨n, b₅, hlen, h⟩ := Decoder.run_bind_eq_ok.mp h
  obtain ⟨data, b₆, hdata, hutf⟩ := Decoder.run_bind_eq_ok.mp h
  obtain ⟨rfl, -, -⟩ := run_position_checkedPayloadLen_eq_ok
    (Decoder.run_bind_eq_ok.mpr ⟨pos, b₄, hpos, hlen⟩)
  have hvalue : stringFromUtf8 data = some value := by
    cases hdecoded : stringFromUtf8 data with
    | none =>
      rw [hdecoded] at hutf
      cases hutf
    | some value' =>
      rw [hdecoded] at hutf
      cases hutf
      rfl
  rw [size_of_stringFromUtf8 hvalue]
  have hlength : data.length = len.toNat := by
    simp only [readExactOcb, Decoder.take, StateT.run] at hdata
    split at hdata
    · cases hdata
      rw [List.length_take]
      omega
    · cases hdata
  rw [hlength]
  exact len.toNat_lt

lemma bounded_of_readFromBytes {bytes : List UInt8} {t : OcbStringTableV1}
    {b b' : MetadataMaterializationBudget}
    (h : (OcbStringTableV1.readFromBytesWithBudget bytes).run b = (.ok t, b')) : t.Bounded := by
  obtain ⟨header, -, h⟩ := Fallible.run_lift_bind_eq_ok.mp h
  obtain ⟨⟨count, start⟩, -, h⟩ := Fallible.run_lift_bind_eq_ok.mp h
  obtain ⟨lens, -, h⟩ := Fallible.run_lift_bind_eq_ok.mp h
  obtain ⟨stringBytes, b₁, -, h⟩ := Fallible.run_bind_eq_ok.mp h
  obtain ⟨vecBytes, -, h⟩ := Fallible.run_lift_bind_eq_ok.mp h
  obtain ⟨retained, -, h⟩ := Fallible.run_lift_bind_eq_ok.mp h
  obtain ⟨_, b₂, -, h⟩ := Fallible.run_bind_eq_ok.mp h
  obtain ⟨strings, hstrings, h⟩ := Fallible.run_lift_bind_eq_ok.mp h
  obtain ⟨rest, hstrings⟩ := readAll_eq_ok.mp hstrings
  cases h
  exact Decoder.forall_mem_of_run_repeatN (fun _ _ _ => size_of_readStringU32Bounded) hstrings

section Strings

variable {src : OcbReadSource} {zstd : ZstdCodec} {m : OcbMetadataV1}
  {validation : OcbOpenValidationMode} {limits : OcbResourceLimits}

lemma bounded_of_readMetadataObjects {root : OcbRootV1} {b b' : MetadataMaterializationBudget}
    (h : (readMetadataObjectsWithResourceLimits src root limits).run b = (.ok m, b')) :
    m.stringTable.Bounded := by
  obtain ⟨schemaBytes, -, h⟩ := Fallible.run_lift_bind_eq_ok.mp h
  obtain ⟨schema, b₁, -, h⟩ := Fallible.run_bind_eq_ok.mp h
  obtain ⟨stringBytes, -, h⟩ := Fallible.run_lift_bind_eq_ok.mp h
  obtain ⟨stringTable, b₂, hstrings, h⟩ := Fallible.run_bind_eq_ok.mp h
  obtain ⟨dictionaryIndex, b₃, -, h⟩ := Fallible.run_bind_eq_ok.mp h
  obtain ⟨indexBytes, -, h⟩ := Fallible.run_lift_bind_eq_ok.mp h
  obtain ⟨rowGroupIndex, b₄, -, h⟩ := Fallible.run_bind_eq_ok.mp h
  obtain ⟨orderingProof, b₅, -, h⟩ := Fallible.run_bind_eq_ok.mp h
  cases h
  exact bounded_of_readFromBytes hstrings

lemma bounded_of_readMetadataObjectsV2 {root : OcbRootV2} {b b' : MetadataMaterializationBudget}
    (h : (readMetadataObjectsV2WithResourceLimits src root limits).run b = (.ok m, b')) :
    m.stringTable.Bounded := by
  obtain ⟨base, b₁, hbase, h⟩ := Fallible.run_bind_eq_ok.mp h
  obtain ⟨m₁, b₂, hdelta, h⟩ := Fallible.run_bind_eq_ok.mp h
  have hbounded := bounded_of_readMetadataObjects hbase
  cases h
  rcases of_applyCommittedDelta hdelta with rfl | ⟨delta, target, rfl⟩ <;> exact hbounded

lemma bounded_of_loadV1Root {root : OcbRootV1} {s s' : OpenState}
    (h : (loadV1Root src zstd root validation limits).run s = (.ok m, s')) :
    m.stringTable.Bounded := by
  obtain ⟨m₁, s₁, hobjects, h⟩ := Fallible.run_bind_eq_ok.mp h
  obtain ⟨count, -, h⟩ := Fallible.run_lift_bind_eq_ok.mp h
  obtain ⟨positions, s₂, -, h⟩ := Fallible.run_bind_eq_ok.mp h
  have hbounded := bounded_of_readMetadataObjects (of_run_metered hobjects)
  cases h
  exact hbounded

lemma bounded_of_loadV2Root {root : OcbRootV2} {s s' : OpenState}
    (h : (loadV2Root src zstd root validation limits).run s = (.ok m, s')) :
    m.stringTable.Bounded := by
  obtain ⟨m₁, s₁, hobjects, h⟩ := Fallible.run_bind_eq_ok.mp h
  obtain ⟨positions, s₂, -, h⟩ := Fallible.run_bind_eq_ok.mp h
  obtain ⟨_, -, h⟩ := Fallible.run_lift_bind_eq_ok.mp h
  obtain ⟨_, -, h⟩ := Fallible.run_lift_bind_eq_ok.mp h
  have hbounded := bounded_of_readMetadataObjectsV2 (of_run_metered hobjects)
  cases h
  exact hbounded

/-- Whatever file is opened, the lengths of its strings fit 32 bits. -/
lemma bounded_of_readMetadata
    (h : readMetadataFromSourceWithValidationAndResourceLimits src zstd validation limits = .ok m) :
    m.stringTable.Bounded := by
  obtain ⟨_, -, h⟩ := bind_eq_ok.mp h
  obtain ⟨magic, -, h⟩ := bind_eq_ok.mp h
  split at h
  · obtain ⟨page, -, h⟩ := bind_eq_ok.mp h
    obtain ⟨bootstrap, -, h⟩ := bind_eq_ok.mp h
    obtain ⟨_, -, h⟩ := bind_eq_ok.mp h
    obtain ⟨_, -, h⟩ := bind_eq_ok.mp h
    obtain ⟨rootBytes, -, h⟩ := bind_eq_ok.mp h
    obtain ⟨root, -, h⟩ := bind_eq_ok.mp h
    exact bounded_of_loadV1Root (Prod.ext h rfl)
  · split at h
    · obtain ⟨page, -, h⟩ := bind_eq_ok.mp h
      obtain ⟨bootstrap, -, h⟩ := bind_eq_ok.mp h
      obtain ⟨candidates, -, h⟩ := bind_eq_ok.mp h
      obtain ⟨root, cache, h⟩ := of_chooseV2Metadata h
      exact bounded_of_loadV2Root (Prod.ext h rfl)
    · cases h

end Strings

/-! ### Files that can be described -/

lemma cloneColumnBundleStringFallibly_text (t : Text) :
    cloneColumnBundleStringFallibly t.value = .ok t := dif_pos t.size_lt

lemma ocbPhysicalType_of_desc {desc : OcbColumnDescV1} {type : ColumnPhysicalType}
    (h : columnPhysicalTypeFromDesc desc = .ok type) : type.ocbPhysicalType = desc.physicalType := by
  rw [columnPhysicalTypeFromDesc] at h
  cases hphysical : desc.physicalType <;>
    simp only [hphysical, primitiveColumnType, bind_eq_ok, pure_eq_ok, Except.ok.injEq] at h <;>
    obtain ⟨-, -, rfl⟩ := h <;> rfl

lemma publicPhysicalTypeFromChunk_eq {physicalType : OcbPhysicalTypeV1} {column : BundleColumn}
    (h : column.physicalType.ocbPhysicalType = physicalType) :
    publicPhysicalTypeFromChunk physicalType column = .ok column.physicalType := by
  subst h
  unfold publicPhysicalTypeFromChunk
  cases column.physicalType <;> rfl

lemma scalarColumnPhysicalType_eq {type : ColumnPhysicalType}
    (h : type.ocbPhysicalType ≠ .fixedBinary) :
    scalarColumnPhysicalType type.ocbPhysicalType = .ok type := by
  cases type with
  | fixedBinary width => exact absurd rfl h
  | _ => rfl

lemma isOk_scalarColumnPhysicalType {physicalType : OcbPhysicalTypeV1} :
    IsOk (scalarColumnPhysicalType physicalType) ↔ physicalType ≠ .fixedBinary := by
  cases physicalType <;> simp [scalarColumnPhysicalType]

lemma checkedOptionalBodyRefSummary_eq_ok {bodyRef : OcbBodyRefV2} {kind : OcbBodyKindV1}
    {fileLen : ℕ} (h : bodyRef.IsNull ∨ bodyRef.validate kind fileLen = .ok ()) :
    ∃ summary, checkedOptionalBodyRefSummary bodyRef kind fileLen = .ok summary ∧
      (summary = none ↔ bodyRef.IsNull) := by
  by_cases hnull : bodyRef.IsNull
  · exact ⟨none, if_pos hnull, by simp [hnull]⟩
  · have hvalid := h.resolve_left hnull
    refine ⟨some (bodyRefSummary bodyRef), ?_, by simp [hnull]⟩
    rw [checkedOptionalBodyRefSummary, if_neg hnull, checkedBodyRefSummary, hvalid]
    rfl

namespace ColumnBundleFile

variable {source : OcbReadSource} {zstd : ZstdCodec} {validation : OcbOpenValidationMode}
  {limits : OcbResourceLimits} {file : ColumnBundleFile}

lemma graph_of_openFromSource (h : openFromSource source zstd validation limits = .ok file) :
    Ocb.Opened source zstd validation limits file.metadata :=
  opened_of_readMetadata (metadata_of_openFromSource h).1

/-- Every column of the schema is found, resolved, by its id. -/
lemma Opened.find_resolved (h : file.Opened) {desc : OcbColumnDescV1}
    (hdesc : desc ∈ file.metadata.schema.columns) : ∃ column ∈ file.columns,
      (file.columns.find? fun column => column.id = desc.columnId) = some column ∧
      resolveColumn file.metadata desc = .ok column := by
  obtain ⟨resolved, hperm, hresolved⟩ := h.columns
  have hnodup := h.nodup_columnIds
  obtain ⟨column, hcolumn, hresolve⟩ : ∃ column ∈ resolved,
      resolveColumn file.metadata desc = .ok column := by
    obtain ⟨i, hi, rfl⟩ := List.getElem_of_mem hdesc
    have hlength := hresolved.length_eq
    exact ⟨resolved[i], List.getElem_mem _, (List.forall₂_iff_get.mp hresolved).2 i hi (by omega)⟩
  exact ⟨column, hperm.mem_iff.mpr hcolumn, (find?_eq_some_of_nodup hnodup).mpr
    ⟨hperm.mem_iff.mpr hcolumn, (resolveColumn_eq_ok hresolve).1⟩, hresolve⟩

/-- Every column of the schema is found by its id. -/
lemma Opened.find_column (h : file.Opened) {desc : OcbColumnDescV1}
    (hdesc : desc ∈ file.metadata.schema.columns) : ∃ column ∈ file.columns,
      (file.columns.find? fun column => column.id = desc.columnId) = some column ∧
      columnPhysicalTypeFromDesc desc = .ok column.physicalType := by
  obtain ⟨column, hmem, hfind, hresolve⟩ := h.find_resolved hdesc
  exact ⟨column, hmem, hfind, (resolveColumn_eq_ok hresolve).2.2⟩

/-- What the summary of a chunk repeats of the chunk and its column. -/
structure SummarizesChunk (column : BundleColumn) (chunk : OcbColumnChunkDescV1)
    (summary : ColumnBundleColumnChunkSummary) : Prop where
  columnId : summary.columnId = chunk.columnId
  columnName : summary.columnName = column.name
  physicalType : summary.physicalType = column.physicalType
  fixedBinaryWidth : summary.fixedBinaryWidth = match column.physicalType with
    | .fixedBinary width => some width
    | _ => none
  rowCount : summary.rowCount = chunk.rowCount
  uncompressedBytes : summary.uncompressedBytes = chunk.uncompressedBytes
  compressedBytes : summary.compressedBytes.toNat + objectOverhead = chunk.valueRef.length.toNat
  validityRef : summary.validityRef = none ↔ chunk.validityRef.IsNull

lemma exists_columnChunkSummary {column : BundleColumn} {chunk : OcbColumnChunkDescV1}
    (hcolumn : (file.columns.find? fun column => column.id = chunk.columnId) = some column)
    (htype : column.physicalType.ocbPhysicalType = chunk.physicalType)
    (hrefs : ChunkRefsChecked file.metadata.fileLen chunk) :
    ∃ summary, file.columnChunkSummary chunk = .ok summary ∧
      SummarizesChunk column chunk summary := by
  obtain ⟨validity, hvalidity, hnull⟩ := checkedOptionalBodyRefSummary_eq_ok hrefs.validity
  have hlt := chunk.valueRef.length.toNat_lt
  have hbytes : (chunk.valueRef.length.toNat - objectOverhead).toUInt64.toNat =
      chunk.valueRef.length.toNat - objectOverhead := by
    rw [Nat.toUInt64_eq, UInt64.toNat_ofNat', Nat.mod_eq_of_lt (by omega)]
  have hoverhead := hrefs.overhead
  rw [columnChunkSummary, columnById, hcolumn, okOr_some, ok_bind,
    publicPhysicalTypeFromChunk_eq htype, ok_bind, checkedBodyRefSummary, hrefs.value, ok_bind,
    pure_eq_ok, ok_bind, hvalidity, ok_bind, cloneColumnBundleStringFallibly_text, ok_bind,
    columnChunkCompressedPayloadBytes, checkedSub, if_pos hoverhead, okOr_some, ok_bind, pure_eq_ok,
    ok_bind, pure_eq_ok]
  exact ⟨_, rfl, rfl, rfl, rfl, rfl, rfl, rfl, by
    dsimp only
    omega, hnull⟩

end ColumnBundleFile

end ArcadiaTio.Ocb
