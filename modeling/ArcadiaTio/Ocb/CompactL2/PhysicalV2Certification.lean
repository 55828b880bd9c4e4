import ArcadiaTio.Ocb.Bundle.Subset
import ArcadiaTio.Ocb.Bundle.Summaries
import ArcadiaTio.Ocb.CompactL2.Scan

/-!
# Certifying an artifact of physical version 2

The certification of one artifact plans the twenty required columns, checks their summaries, reads
the row groups in waves and scans them.  Each of its expectations is compared somewhere on the way:
the row count with the metadata, the day and the channel in the scan, the first and the last
BizIndex with the state of the scan, the hash with the reconstructed payloads.  What a successful
certification says of the rows is `PhysicalV2Certificate`.
-/

namespace ArcadiaTio.Ocb

open ArcadiaTio.Lib

/-! ### Hashes -/

/-- A hash of a manifest is written with the given number of hexadecimal digits. -/
def validateHexHash (hash : String) (expectedLen : ℕ) (kind : OcbErrorKind) : Result Unit :=
  failIf (hash.utf8ByteSize ≠ expectedLen ∨
      ¬ hash.toList.all fun c => c.isDigit || ('a' ≤ c && c ≤ 'f') || ('A' ≤ c && c ≤ 'F'))
    (ocbDiagnostic kind "channel-sharded OCB manifest hash is invalid")

/-- The same for a hash that may be absent. -/
def validateOptionalHexHash (hash : Option String) (expectedLen : ℕ) (kind : OcbErrorKind) :
    Result Unit :=
  match hash with
  | some hash => validateHexHash hash expectedLen kind
  | none => .ok ()

/-- Two texts are equal up to the case of their letters. -/
def eqIgnoreAsciiCase (a b : String) : Bool := a.toList.map Char.toLower = b.toList.map Char.toLower

/-- The running FNV-1a hash of some bytes. -/
structure CompactL2Fnv1a64 where
  value : UInt64
deriving DecidableEq

namespace CompactL2Fnv1a64

/-- The hash of nothing. -/
def new : CompactL2Fnv1a64 := ⟨0xcbf29ce484222325⟩

/-- Hash some more bytes. -/
def update (hash : CompactL2Fnv1a64) (bytes : List UInt8) : CompactL2Fnv1a64 :=
  ⟨bytes.foldl (fun value byte => (value ^^^ byte.toUInt64) * 0x100000001b3) hash.value⟩

/-- The hash as sixteen hexadecimal digits. -/
def finishHex (hash : CompactL2Fnv1a64) : String :=
  String.ofList (List.leftpad 16 '0' (Nat.toDigits 16 hash.value.toNat))

@[simp] lemma update_nil (hash : CompactL2Fnv1a64) : hash.update [] = hash := rfl

/-- Bytes may be hashed in pieces. -/
@[simp] lemma update_append (hash : CompactL2Fnv1a64) (a b : List UInt8) :
    hash.update (a ++ b) = (hash.update a).update b := by
  rw [update, update, update, List.foldl_append]

end CompactL2Fnv1a64

/-- The hash of some bytes, as a manifest writes it. -/
def fnv1a64Hex (bytes : List UInt8) : String := (CompactL2Fnv1a64.new.update bytes).finishHex

/-! ### Required columns -/

/-- The columns that every file of the layout has. -/
def compactL2PhysicalV2RequiredColumns : List Text :=
  [compactL2DayKeyColumnName, compactL2ChannelIdColumnName, compactL2BizIndexColumnName,
    compactL2ReceiveNanoColumnName, compactL2SourceOrdinalColumnName,
    compactL2RecordKindColumnName, compactL2PhysicalV2HeaderBytes1112ColumnName,
    compactL2PhysicalV2ExchangeTimeColumnName, compactL2PhysicalV2SymbolColumnName,
    compactL2PhysicalV2BodyBytes8086ColumnName] ++ compactL2PhysicalV2BodyWordColumns.toList

/-- The type that a column of the layout has. -/
def compactL2PhysicalV2ExpectedColumnType (columnName : Text) : Option ColumnPhysicalType :=
  if columnName ∈ [compactL2DayKeyColumnName, compactL2RecordKindColumnName] then some .i32
  else if columnName ∈ [compactL2ChannelIdColumnName, compactL2BizIndexColumnName,
      compactL2ReceiveNanoColumnName, compactL2SourceOrdinalColumnName,
      compactL2PhysicalV2ExchangeTimeColumnName] then some .i64
  else if columnName = compactL2PhysicalV2HeaderBytes1112ColumnName then some (.fixedBinary 2)
  else if columnName = compactL2PhysicalV2SymbolColumnName then some (.fixedBinary 9)
  else if columnName = compactL2PhysicalV2BodyBytes8086ColumnName then some (.fixedBinary 7)
  else if columnName ∈ compactL2PhysicalV2BodyWordColumns.toList then some .i64
  else none

/-- A chunk has the type that its column must have. -/
def certifyPhysicalV2ChunkType (columnName : Text) (physicalType : ColumnPhysicalType)
    (fixedBinaryWidth : Option UInt32) : Result Unit := do
  let expected ← okOr (compactL2PhysicalV2ExpectedColumnType columnName)
    (ocbDiagnostic .invalidManifest
      s!"compact-L2 physical-v2 unexpected column {columnName.value.quote}")
  failIf (physicalType ≠ expected)
    (ocbDiagnostic .fixedBinaryWidthMismatch
      s!"compact-L2 physical-v2 column type mismatch: column={columnName.value.quote}")
  match expected with
  | .fixedBinary width =>
    failIf (fixedBinaryWidth ≠ some width)
      (ocbDiagnostic .fixedBinaryWidthMismatch
        (s!"compact-L2 physical-v2 fixed-binary width mismatch: column={columnName.value.quote} " ++
          s!"expected={width} observed={fixedBinaryWidth.getD 0}"))
  | _ => .ok ()

/-- A chunk has the type, the rows and no nulls. -/
def certifyPhysicalV2Chunk (rowGroup : ColumnBundleRowGroupSummary)
    (chunk : ColumnBundleColumnChunkSummary) : Result Unit := do
  failIf (chunk.rowCount ≠ rowGroup.rowCount)
    (ocbDiagnostic .rowCountMismatch
      (s!"compact-L2 physical-v2 chunk row count mismatch: row_group={rowGroup.rowGroupId} " ++
        s!"column={chunk.columnName.value}"))
  failIf (chunk.validityRef ≠ none)
    (ocbDiagnostic .payloadHeaderMismatch
      (s!"compact-L2 physical-v2 column must be non-nullable: row_group={rowGroup.rowGroupId} " ++
        s!"column={chunk.columnName.value}"))
  certifyPhysicalV2ChunkType chunk.columnName chunk.physicalType chunk.fixedBinaryWidth

/-- Every row group has the chunks of the layout. -/
def certifyPhysicalV2RowGroupSummaries (rowGroups : List ColumnBundleRowGroupSummary)
    (expectedColumnCount : ℕ) : Result Unit :=
  forM rowGroups fun rowGroup => do
    failIf (rowGroup.chunks.length ≠ expectedColumnCount)
      (ocbDiagnostic .invalidManifest
        (s!"compact-L2 physical-v2 row group projected unexpected chunk count: " ++
          s!"row_group={rowGroup.rowGroupId} expected={expectedColumnCount} " ++
          s!"observed={rowGroup.chunks.length}"))
    forM rowGroup.chunks (certifyPhysicalV2Chunk rowGroup)

/-! ### The certification -/

/-- Path-free report for one compact-L2 physical-v2 artifact. -/
structure CompactL2PhysicalV2CertificationReport where
  rowCount : UInt64
  rowGroupCount : UInt32
  requiredColumnCount : ℕ
  selectedColumnChunkCount : ℕ
  selectedCompressedBytes : ℕ
  selectedUncompressedBytes : ℕ
  firstBizIndex : Option ℕ
  lastBizIndex : Option ℕ
  minReceiveNano : Option ℤ
  maxReceiveNano : Option ℤ
  orderRecordCount : Option ℕ
  tradeRecordCount : Option ℕ
  legacyPayloadHashFnv1a64 : Option String
  legacyPayloadHashVerified : Bool
  pathRedacted : Bool
  writesTransformedArtifacts : Bool
deriving DecidableEq

section Steps

variable (options : CompactL2PhysicalV2CertificationOptions) (limits : OcbResourceLimits)

/-- The request for the required columns. -/
def compactL2PhysicalV2Request : ColumnBundleReadRequest where
  projection := .names compactL2PhysicalV2RequiredColumns
  predicates := []
  options := {
    maxThreads := max options.readThreads 1, validateChecksums := true, decodeDictionaries := false }

/-- The checks before a payload is read: what is planned and the metadata it is compared with. -/
def preparePhysicalV2Certification (file : ColumnBundleFile) :
    Result (ColumnBundleMetadata × ColumnBundleReadPlan × ColumnBundleReadPlanCertification) := do
  validateOptionalHexHash options.expectedLegacyPayloadHashFnv1a64 16 .checksumMismatch
  let metadata ← file.describe
  checkExpected options.expectedRowCount metadata.rowCount fun expected =>
    ocbDiagnostic .rowCountMismatch
      (s!"compact-L2 physical-v2 row count mismatch: expected={expected} " ++
        s!"observed={metadata.rowCount}")
  failIf (options.maxRows.any (· < metadata.rowCount))
    (ocbDiagnostic .rowCountMismatch
      (s!"compact-L2 physical-v2 rows exceed max_rows: rows={metadata.rowCount} " ++
        s!"max_rows={options.maxRows.getD 0}"))
  let plan ← file.planRead (compactL2PhysicalV2Request options)
  let certification ← file.readPlanCertification plan
  certifyPhysicalV2RowGroupSummaries certification.rowGroups
    compactL2PhysicalV2RequiredColumns.length
  return (metadata, plan, certification)

/-- Scan one batch, or only count its rows. -/
def scanPhysicalV2BatchRows (scan : PhysicalV2ScanState) (view : CompactL2PhysicalV2BatchView)
    (rowCount : ℕ) : Result PhysicalV2ScanState :=
  if options.verifyScalarContinuity then scanCompactL2PhysicalV2Batch view options scan
  else do
    let rows ← okOr (checkedAdd 64 scan.rows rowCount)
      (ocbDiagnostic .rowCountMismatch "compact-L2 physical-v2 row count overflows")
    return { scan with rows }

/-- The reconstructed records are within the limits. -/
def validateLegacyReconstructionResourceLimit (rowCount : ℕ) : Result Unit := do
  let reconstructedBytes ← okOr (checkedMul 64 rowCount compactL2FixedBinaryRecordWidthV1)
    (ocbInvalidInput "compact-L2 reconstructed payload resource accounting overflows")
  failIf (reconstructedBytes > limits.maxProjectedRowGroupBytes.toNat)
    (ocbInvalidInput
      "compact-L2 reconstructed payload exceeds projected row-group resource limit")

/-- The payloads of one view, put together again. -/
def reconstructLegacyPayloads (view : CompactL2PhysicalV2BatchView) : Result (List UInt8) := do
  validateLegacyReconstructionResourceLimit limits view.rowCount
  view.appendFixedBinaryV1Payloads []

/-- Hash the reconstructed payloads of one batch, when they are asked for. -/
def hashPhysicalV2Batch (legacyHash : Option CompactL2Fnv1a64)
    (view : CompactL2PhysicalV2BatchView) : Result (Option CompactL2Fnv1a64) :=
  match legacyHash with
  | some hash => do
    let payload ← reconstructLegacyPayloads limits view
    return some (hash.update payload)
  | none => .ok none

/-- What a certification keeps from batch to batch: the scan and the hash. -/
abbrev PhysicalV2CertificationState := PhysicalV2ScanState × Option CompactL2Fnv1a64

/-- Certify the rows of a batch after those before it. -/
def certifyPhysicalV2Batch (state : PhysicalV2CertificationState) (batch : ColumnBatch) :
    Result PhysicalV2CertificationState := do
  let view ← CompactL2PhysicalV2BatchView.fromColumnBatch batch
  let scan ← scanPhysicalV2BatchRows options state.1 view batch.rowCount.toNat
  let legacyHash ← hashPhysicalV2Batch limits state.2 view
  return (scan, legacyHash)

/-- Read the row groups of a plan in waves, and certify their batches. -/
def certifyPhysicalV2Waves (reader : List UInt32 → Result ColumnBundleReadOutcome)
    (rowGroupIds : List UInt32) : Result PhysicalV2CertificationState :=
  (waves (max options.maxInFlightRowGroups 1) rowGroupIds).foldlM (fun state wave => do
      let outcome ← reader wave
      outcome.batches.foldlM (certifyPhysicalV2Batch options limits) state)
    (.default, if options.verifyLegacyReconstruction then some .new else none)

/-- How a message shows a number that may be absent. -/
def debugOption : Option ℕ → String
  | some value => s!"Some({value})"
  | none => "None"

/-- Compare the hash of the payloads with the expected one, when there are both. -/
def verifyLegacyPayloadHash (actual expected : Option String) : Result Bool :=
  match actual, expected with
  | some actual, some expected => do
    failIf (¬ eqIgnoreAsciiCase actual expected)
      (ocbDiagnostic .checksumMismatch
        "compact-L2 physical-v2 reconstructed legacy payload hash mismatch")
    return true
  | _, _ => .ok false

/-- The checks behind the last batch, and the report. -/
def finishPhysicalV2Certification (metadata : ColumnBundleMetadata)
    (certification : ColumnBundleReadPlanCertification) (state : PhysicalV2CertificationState) :
    Result CompactL2PhysicalV2CertificationReport := do
  failIf (state.1.rows ≠ metadata.rowCount.toNat)
    (ocbDiagnostic .rowCountMismatch
      (s!"compact-L2 physical-v2 decoded row count mismatch: expected={metadata.rowCount} " ++
        s!"observed={state.1.rows}"))
  checkExpected (options.expectedFirstBizIndex.map fun expected => some expected.toNat)
    state.1.firstBizIndex fun expected => ocbDiagnostic .bizIndexGap
      (s!"compact-L2 physical-v2 first BizIndex mismatch: expected={expected.getD 0} " ++
        s!"observed={debugOption state.1.firstBizIndex}")
  checkExpected (options.expectedLastBizIndex.map fun expected => some expected.toNat)
    state.1.lastBizIndex fun expected => ocbDiagnostic .bizIndexGap
      (s!"compact-L2 physical-v2 last BizIndex mismatch: expected={expected.getD 0} " ++
        s!"observed={debugOption state.1.lastBizIndex}")
  let legacyPayloadHashFnv1a64 := state.2.map CompactL2Fnv1a64.finishHex
  let legacyPayloadHashVerified ← verifyLegacyPayloadHash legacyPayloadHashFnv1a64
    options.expectedLegacyPayloadHashFnv1a64
  let scanned := options.verifyScalarContinuity
  return {
    rowCount := metadata.rowCount
    rowGroupCount := metadata.rowGroupCount
    requiredColumnCount := compactL2PhysicalV2RequiredColumns.length
    selectedColumnChunkCount := (certification.rowGroups.map (·.chunks.length)).sum
    selectedCompressedBytes := certification.selectedCompressedBytes
    selectedUncompressedBytes := certification.selectedUncompressedBytes
    firstBizIndex := if scanned then state.1.firstBizIndex else none
    lastBizIndex := if scanned then state.1.lastBizIndex else none
    minReceiveNano := if scanned then state.1.minReceiveNano else none
    maxReceiveNano := if scanned then state.1.maxReceiveNano else none
    orderRecordCount := if scanned then some state.1.orderRows else none
    tradeRecordCount := if scanned then some state.1.tradeRows else none
    legacyPayloadHashFnv1a64, legacyPayloadHashVerified
    pathRedacted := true
    writesTransformedArtifacts := false }

/-- The certification of an opened file, for a reader of some row groups of a plan. -/
def certifyCompactL2PhysicalV2FileWith (file : ColumnBundleFile)
    (reader : ColumnBundleReadPlan → List UInt32 → Result ColumnBundleReadOutcome) :
    Result CompactL2PhysicalV2CertificationReport := do
  let (metadata, plan, certification) ← preparePhysicalV2Certification options file
  let state ← certifyPhysicalV2Waves options limits (reader plan) plan.rowGroupIds
  finishPhysicalV2Certification options metadata certification state

end Steps

/-- What certifying an opened file may return: each wave is read by the executor. -/
def CertifiesCompactL2PhysicalV2File (file : ColumnBundleFile) (zstd : ZstdCodec)
    (options : CompactL2PhysicalV2CertificationOptions) (limits : OcbResourceLimits)
    (result : Result CompactL2PhysicalV2CertificationReport) : Prop :=
  ∃ reader : ColumnBundleReadPlan → List UInt32 → Result ColumnBundleReadOutcome,
    (∀ plan wave, file.ReadsPlanRowGroups zstd plan wave (reader plan wave)) ∧
      result = certifyCompactL2PhysicalV2FileWith options limits file reader

/-! ### The rows of an artifact -/

/-- The required columns of the row groups of a file, decoded one row group after the other. -/
def ColumnBundleFile.compactL2PhysicalV2Views (file : ColumnBundleFile) (zstd : ZstdCodec) :
    Result (List CompactL2PhysicalV2BatchView) := do
  let selected ← resolveNames file.columns compactL2PhysicalV2RequiredColumns []
  file.metadata.rowGroupIndex.rowGroups.mapM fun rowGroup => do
    let batch ← readRowGroup file.source zstd file.metadata file.columns rowGroup.rowGroupId selected
    CompactL2PhysicalV2BatchView.fromColumnBatch batch

/-- The scalars of the rows of some views. -/
def scalarsOf (views : List CompactL2PhysicalV2BatchView) : List CompactL2Scalars :=
  views.flatMap CompactL2PhysicalV2BatchView.scalars

section Exact

variable {options : CompactL2PhysicalV2CertificationOptions} {limits : OcbResourceLimits}
  {views : List CompactL2PhysicalV2BatchView}

/-- The rows pass the scan, or are not too many when they are only counted. -/
def PhysicalV2Scanned (options : CompactL2PhysicalV2CertificationOptions)
    (rows : List CompactL2Scalars) : Prop :=
  if options.verifyScalarContinuity then PhysicalV2Accepts options rows else rows.length < 2 ^ 64

/-- The state of the scan after the rows. -/
def physicalV2ScanOf (options : CompactL2PhysicalV2CertificationOptions)
    (rows : List CompactL2Scalars) : PhysicalV2ScanState :=
  if options.verifyScalarContinuity then .ofRows rows
  else { PhysicalV2ScanState.default with rows := rows.length }

/-- The hash after the reconstructed payloads of the views. -/
def PhysicalV2Hashed (options : CompactL2PhysicalV2CertificationOptions)
    (limits : OcbResourceLimits) (views : List CompactL2PhysicalV2BatchView)
    (hash : Option CompactL2Fnv1a64) : Prop :=
  if options.verifyLegacyReconstruction then
    ∃ payloads, views.mapM (reconstructLegacyPayloads limits) = .ok payloads ∧
      hash = some (CompactL2Fnv1a64.new.update payloads.flatten)
  else hash = none

/-- Scanning valid views is scanning their rows. -/
lemma foldlM_scanBatch (hvalid : ∀ view ∈ views, view.Valid) {state : PhysicalV2ScanState} :
    views.foldlM (fun state view => scanCompactL2PhysicalV2Batch view options state) state =
      (scalarsOf views).foldlM (scanPhysicalV2Row options) state := by
  rw [scalarsOf, foldlM_flatMap]
  induction views generalizing state with
  | nil => rfl
  | cons view rest ih =>
    rw [List.foldlM_cons, List.foldlM_cons, scanCompactL2PhysicalV2Batch,
      CompactL2PhysicalV2BatchView.validate_eq_ok.mpr (hvalid view (by simp)), ok_bind]
    exact congrArg _ (funext fun state => ih fun v hv => hvalid v (by simp [hv]))

/-- Counting the rows of views without looking at them. -/
lemma foldlM_countRows_eq_ok {error : ArcadiaTioError} {state state' : PhysicalV2ScanState}
    (hstate : state.rows < 2 ^ 64) :
    views.foldlM (fun state view => do
        let rows ← okOr (checkedAdd 64 state.rows view.rowCount) error
        return { state with rows }) state = .ok state' ↔
      state.rows + (scalarsOf views).length < 2 ^ 64 ∧
        state' = { state with rows := state.rows + (scalarsOf views).length } := by
  induction views generalizing state with
  | nil =>
    simp only [List.foldlM_nil, pure_eq_ok, Except.ok.injEq, scalarsOf, List.flatMap_nil,
      List.length_nil, Nat.add_zero]
    exact ⟨fun h => ⟨hstate, h.symm⟩, fun h => h.2.symm⟩
  | cons view rest ih =>
    have hlength : (scalarsOf (view :: rest)).length = view.rowCount + (scalarsOf rest).length := by
      rw [scalarsOf, List.flatMap_cons, List.length_append, view.length_scalars]
      rfl
    rw [List.foldlM_cons, bind_eq_ok, hlength, ← Nat.add_assoc]
    constructor
    · rintro ⟨next, hnext, hrest⟩
      obtain ⟨rows, hrows, hnext⟩ := bind_eq_ok.mp hnext
      obtain ⟨rfl, hlt⟩ := checkedAdd_eq_some.mp (okOr_eq_ok.mp hrows)
      cases hnext
      exact (ih hlt).mp hrest
    · rintro ⟨hlt, rfl⟩
      have hnext : state.rows + view.rowCount < 2 ^ 64 := by omega
      refine ⟨{ state with rows := state.rows + view.rowCount }, ?_, (ih hnext).mpr ⟨hlt, rfl⟩⟩
      rw [checkedAdd_of_lt hnext, okOr_some, ok_bind]
      rfl

lemma foldlM_scanRows_eq_ok (hvalid : ∀ view ∈ views, view.Valid) {state : PhysicalV2ScanState} :
    views.foldlM (fun state view => scanPhysicalV2BatchRows options state view view.rowCount)
        .default = .ok state ↔
      PhysicalV2Scanned options (scalarsOf views) ∧
        state = physicalV2ScanOf options (scalarsOf views) := by
  cases hverify : options.verifyScalarContinuity with
  | true =>
    simp only [scanPhysicalV2BatchRows, PhysicalV2Scanned, physicalV2ScanOf, hverify, if_true]
    rw [foldlM_scanBatch hvalid]
    have hscan := @foldlM_scanPhysicalV2Row_eq_ok options (scalarsOf views) [] state .nil
    exact hscan
  | false =>
    simp only [scanPhysicalV2BatchRows, PhysicalV2Scanned, physicalV2ScanOf, hverify,
      Bool.false_eq_true, if_false]
    have hcount := @foldlM_countRows_eq_ok views (ocbDiagnostic .rowCountMismatch
      "compact-L2 physical-v2 row count overflows") .default state (by decide)
    rwa [show PhysicalV2ScanState.default.rows = 0 from rfl, Nat.zero_add] at hcount

lemma foldlM_hash_eq_ok {hash : CompactL2Fnv1a64} {result : Option CompactL2Fnv1a64} :
    views.foldlM (hashPhysicalV2Batch limits) (some hash) = .ok result ↔
      ∃ payloads, views.mapM (reconstructLegacyPayloads limits) = .ok payloads ∧
        result = some (hash.update payloads.flatten) := by
  induction views generalizing hash with
  | nil =>
    simp [eq_comm]
  | cons view rest ih =>
    rw [List.foldlM_cons, List.mapM_cons, bind_eq_ok]
    constructor
    · rintro ⟨next, hnext, hrest⟩
      obtain ⟨payload, hpayload, hnext⟩ := bind_eq_ok.mp hnext
      cases hnext
      obtain ⟨payloads, hpayloads, rfl⟩ := ih.mp hrest
      refine ⟨payload :: payloads, ?_, ?_⟩
      · rw [hpayload, ok_bind, hpayloads]
        rfl
      · rw [List.flatten_cons, CompactL2Fnv1a64.update_append]
    · rintro ⟨all, hall, rfl⟩
      obtain ⟨payload, hpayload, hall⟩ := bind_eq_ok.mp hall
      obtain ⟨payloads, hpayloads, hall⟩ := bind_eq_ok.mp hall
      cases hall
      refine ⟨some (hash.update payload), ?_, ih.mpr ⟨payloads, hpayloads, ?_⟩⟩
      · rw [hashPhysicalV2Batch, hpayload]
        rfl
      · rw [List.flatten_cons, CompactL2Fnv1a64.update_append]

lemma foldlM_hashRows_eq_ok {hash : Option CompactL2Fnv1a64} :
    views.foldlM (hashPhysicalV2Batch limits)
        (if options.verifyLegacyReconstruction then some .new else none) = .ok hash ↔
      PhysicalV2Hashed options limits views hash := by
  rw [PhysicalV2Hashed]
  cases options.verifyLegacyReconstruction with
  | true =>
    simp only [if_true]
    exact foldlM_hash_eq_ok
  | false =>
    simp only [Bool.false_eq_true, if_false]
    have hnone : ∀ l : List CompactL2PhysicalV2BatchView,
        l.foldlM (hashPhysicalV2Batch limits) none = .ok none := by
      intro l
      induction l with
      | nil => rfl
      | cons view rest ih => exact ih
    rw [hnone views, Except.ok.injEq, eq_comm]

lemma certifyPhysicalV2Batch_eq (state : PhysicalV2CertificationState) (batch : ColumnBatch) :
    certifyPhysicalV2Batch options limits state batch =
      CompactL2PhysicalV2BatchView.fromColumnBatch batch >>= fun view => do
        let scan ← scanPhysicalV2BatchRows options state.1 view view.rowCount
        let legacyHash ← hashPhysicalV2Batch limits state.2 view
        return (scan, legacyHash) := by
  rw [certifyPhysicalV2Batch]
  cases hview : CompactL2PhysicalV2BatchView.fromColumnBatch batch with
  | error error => rfl
  | ok view => rw [ok_bind, ok_bind, (CompactL2PhysicalV2BatchView.fromColumnBatch_eq_ok.mp hview).1]

/-- Certifying batches is certifying the rows of their views. -/
lemma foldlM_certifyPhysicalV2Batch_eq_ok {batches : List ColumnBatch}
    {state : PhysicalV2CertificationState} :
    batches.foldlM (certifyPhysicalV2Batch options limits)
        (.default, if options.verifyLegacyReconstruction then some .new else none) = .ok state ↔
      ∃ views, batches.mapM CompactL2PhysicalV2BatchView.fromColumnBatch = .ok views ∧
        PhysicalV2Scanned options (scalarsOf views) ∧
        state.1 = physicalV2ScanOf options (scalarsOf views) ∧
        PhysicalV2Hashed options limits views state.2 := by
  have hstep : certifyPhysicalV2Batch options limits = fun state batch =>
      CompactL2PhysicalV2BatchView.fromColumnBatch batch >>= fun view => do
        let scan ← scanPhysicalV2BatchRows options state.1 view view.rowCount
        let legacyHash ← hashPhysicalV2Batch limits state.2 view
        return (scan, legacyHash) := by
    funext state batch
    exact certifyPhysicalV2Batch_eq state batch
  rw [hstep, foldlM_convert_eq_ok]
  refine exists_congr fun views => and_congr_right fun hviews => ?_
  have hvalid : ∀ view ∈ views, view.Valid := by
    intro view hview
    obtain ⟨batch, -, hbatch⟩ := exists_of_forall₂ (mapM_eq_ok.mp hviews) hview
    exact (CompactL2PhysicalV2BatchView.fromColumnBatch_eq_ok.mp hbatch).2.1
  have hpair := @foldlM_pair_eq_ok ArcadiaTioError CompactL2PhysicalV2BatchView PhysicalV2ScanState
    (Option CompactL2Fnv1a64) views
    (fun state view => scanPhysicalV2BatchRows options state view view.rowCount)
    (hashPhysicalV2Batch limits)
    (.default, if options.verifyLegacyReconstruction then some .new else none) state
  rw [hpair, foldlM_scanRows_eq_ok hvalid, foldlM_hashRows_eq_ok, and_assoc]

end Exact

/-! ### Reading in waves -/

section Waves

variable {file : ColumnBundleFile} {zstd : ZstdCodec} {plan : ColumnBundleReadPlan}
  {options : CompactL2PhysicalV2CertificationOptions} {limits : OcbResourceLimits}
  {reader : List UInt32 → Result ColumnBundleReadOutcome}

/-- Reading wave by wave succeeds when every wave is admitted and every row group can be read, and
then gives the batches in order. -/
lemma exists_outcomes_iff {ws : List (List UInt32)}
    (hreader : ∀ wave ∈ ws, reader wave = (⟨·, (plan.ofSelected wave).report⟩) <$> (do
      validateOwnedPlanResourceLimits file.metadata (plan.ofSelected wave)
      wave.mapM (file.readPlanRowGroup zstd plan))) {batches : List ColumnBatch} :
    (∃ outcomes, ws.mapM reader = .ok outcomes ∧
        outcomes.flatMap ColumnBundleReadOutcome.batches = batches) ↔
      (∀ wave ∈ ws, validateOwnedPlanResourceLimits file.metadata (plan.ofSelected wave) = .ok ()) ∧
        ws.flatten.mapM (file.readPlanRowGroup zstd plan) = .ok batches := by
  induction ws generalizing batches with
  | nil => simp [eq_comm]
  | cons wave rest ih =>
    have hrest := fun batches => @ih (fun w hw => hreader w (by simp [hw])) batches
    rw [List.flatten_cons, List.mapM_append, List.mapM_cons, hreader wave (by simp),
      List.forall_mem_cons]
    constructor
    · rintro ⟨outcomes, houtcomes, rfl⟩
      obtain ⟨outcome, houtcome, houtcomes⟩ := bind_eq_ok.mp houtcomes
      obtain ⟨tail, htail, houtcomes⟩ := bind_eq_ok.mp houtcomes
      cases houtcomes
      obtain ⟨first, hfirst, rfl⟩ := map_eq_ok.mp houtcome
      obtain ⟨_, hlimits, hfirst⟩ := bind_eq_ok.mp hfirst
      obtain ⟨hrestLimits, hrestRead⟩ := (hrest _).mp ⟨tail, htail, rfl⟩
      refine ⟨⟨hlimits, hrestLimits⟩, ?_⟩
      rw [hfirst, ok_bind, hrestRead]
      rfl
    · rintro ⟨⟨hlimits, hrestLimits⟩, hread⟩
      obtain ⟨first, hfirst, hread⟩ := bind_eq_ok.mp hread
      obtain ⟨after, hafter, hread⟩ := bind_eq_ok.mp hread
      cases hread
      obtain ⟨tail, htail, rfl⟩ := (hrest after).mpr ⟨hrestLimits, hafter⟩
      refine ⟨⟨first, (plan.ofSelected wave).report⟩ :: tail, ?_, rfl⟩
      rw [hlimits, ok_bind, hfirst]
      show (do
        let tail ← rest.mapM reader
        return (⟨first, (plan.ofSelected wave).report⟩ : ColumnBundleReadOutcome) :: tail) = _
      rw [htail]
      rfl

/-- Certifying the waves of a checked plan is certifying the rows of its row groups, each wave
admitted by itself, whatever the executor does. -/
theorem certifyPhysicalV2Waves_eq_ok (h : file.Opened) (hvalid : file.validateReadPlan plan = .ok ())
    (hreader : ∀ wave, file.ReadsPlanRowGroups zstd plan wave (reader wave))
    {state : PhysicalV2CertificationState} :
    certifyPhysicalV2Waves options limits reader plan.rowGroupIds = .ok state ↔
      (∀ wave ∈ waves (max options.maxInFlightRowGroups 1) plan.rowGroupIds,
        validateOwnedPlanResourceLimits file.metadata (plan.ofSelected wave) = .ok ()) ∧
      ∃ views, plan.rowGroupIds.mapM (fun id => do
          let batch ← file.readPlanRowGroup zstd plan id
          CompactL2PhysicalV2BatchView.fromColumnBatch batch) = .ok views ∧
        PhysicalV2Scanned options (scalarsOf views) ∧
        state.1 = physicalV2ScanOf options (scalarsOf views) ∧
        PhysicalV2Hashed options limits views state.2 := by
  have hsize : 0 < max options.maxInFlightRowGroups 1 := by omega
  have hwave : ∀ wave ∈ waves (max options.maxInFlightRowGroups 1) plan.rowGroupIds,
      reader wave = (⟨·, (plan.ofSelected wave).report⟩) <$> (do
        validateOwnedPlanResourceLimits file.metadata (plan.ofSelected wave)
        wave.mapM (file.readPlanRowGroup zstd plan)) := by
    intro wave hmem
    obtain ⟨before, after, hplan⟩ := exists_of_mem_waves hsize hmem
    rw [(h.readsPlanRowGroups_iff hvalid).mp (hreader wave),
      plannedRowGroupSubset_infix hplan (ColumnBundleFile.nodup_of_validateReadPlan hvalid), ok_bind]
  have hread := fun batches => @exists_outcomes_iff file zstd plan reader _ hwave batches
  rw [flatten_waves hsize] at hread
  rw [certifyPhysicalV2Waves, foldlM_convert_eq_ok]
  constructor
  · rintro ⟨outcomes, houtcomes, hfold⟩
    rw [← foldlM_flatMap, foldlM_certifyPhysicalV2Batch_eq_ok] at hfold
    obtain ⟨views, hviews, hrows⟩ := hfold
    obtain ⟨hlimits, hbatches⟩ := (hread _).mp ⟨outcomes, houtcomes, rfl⟩
    exact ⟨hlimits, views, mapM_bind_eq_ok.mpr ⟨_, hbatches, hviews⟩, hrows⟩
  · rintro ⟨hlimits, views, hviews, hrows⟩
    obtain ⟨batches, hbatches, hviews⟩ := mapM_bind_eq_ok.mp hviews
    obtain ⟨outcomes, houtcomes, rfl⟩ := (hread batches).mpr ⟨hlimits, hbatches⟩
    refine ⟨outcomes, houtcomes, ?_⟩
    rw [← foldlM_flatMap, foldlM_certifyPhysicalV2Batch_eq_ok]
    exact ⟨views, hviews, hrows⟩

end Waves

/-! ### What a certification says -/

/-- Without predicates every row group is kept. -/
lemma selectRowGroups_nil (m : OcbMetadataV1) (rowGroups : List OcbRowGroupDescV1)
    (ids : List UInt32) (pruned : ℕ) : selectRowGroups m [] rowGroups ids pruned =
      .ok (ids ++ rowGroups.map OcbRowGroupDescV1.rowGroupId, pruned) := by
  induction rowGroups generalizing ids with
  | nil => rw [selectRowGroups, List.map_nil, List.append_nil]
  | cons rowGroup rest ih =>
    have hmatches : rowGroupMatchesPredicates m rowGroup [] = .ok true := rfl
    rw [selectRowGroups, hmatches, ok_bind, if_pos rfl, ih, List.append_assoc]
    rfl

/-- The plan of the required columns: all row groups. -/
lemma planRead_request_eq_ok {file : ColumnBundleFile}
    {options : CompactL2PhysicalV2CertificationOptions} {plan : ColumnBundleReadPlan} :
    file.planRead (compactL2PhysicalV2Request options) = .ok plan ↔
      ∃ selected, resolveNames file.columns compactL2PhysicalV2RequiredColumns [] = .ok selected ∧
        plan = readPlan (compactL2PhysicalV2Request options) selected
          (file.metadata.rowGroupIndex.rowGroups.map OcbRowGroupDescV1.rowGroupId) 0 := by
  have hoptions : validateReadOptions (compactL2PhysicalV2Request options).options = .ok () := rfl
  have hproject : resolveProjection file.columns (compactL2PhysicalV2Request options).projection =
      resolveNames file.columns compactL2PhysicalV2RequiredColumns [] := rfl
  have hpredicates : resolvePredicates file.columns
      (compactL2PhysicalV2Request options).predicates = .ok [] := rfl
  rw [ColumnBundleFile.planRead, hoptions, ok_bind, hproject, bind_eq_ok]
  refine exists_congr fun selected => and_congr_right fun _ => ?_
  rw [hpredicates, ok_bind, selectRowGroups_nil, ok_bind]
  dsimp only
  rw [pure_eq_ok, Except.ok.injEq, List.nil_append, eq_comm]

/-- What a successful certification found: the checks before the rows are read, the admission of
the waves, the rows with their scan and hash, and the checks behind them. -/
structure PhysicalV2Certificate (file : ColumnBundleFile) (zstd : ZstdCodec)
    (options : CompactL2PhysicalV2CertificationOptions) (limits : OcbResourceLimits)
    (metadata : ColumnBundleMetadata) (plan : ColumnBundleReadPlan)
    (certification : ColumnBundleReadPlanCertification)
    (views : List CompactL2PhysicalV2BatchView) (hash : Option CompactL2Fnv1a64)
    (report : CompactL2PhysicalV2CertificationReport) : Prop where
  prepared : preparePhysicalV2Certification options file = .ok (metadata, plan, certification)
  admitted : ∀ wave ∈ waves (max options.maxInFlightRowGroups 1) plan.rowGroupIds,
    validateOwnedPlanResourceLimits file.metadata (plan.ofSelected wave) = .ok ()
  decoded : file.compactL2PhysicalV2Views zstd = .ok views
  scanned : PhysicalV2Scanned options (scalarsOf views)
  hashed : PhysicalV2Hashed options limits views hash
  finished : finishPhysicalV2Certification options metadata certification
    (physicalV2ScanOf options (scalarsOf views), hash) = .ok report

section Certificate

variable {file : ColumnBundleFile} {zstd : ZstdCodec}
  {options : CompactL2PhysicalV2CertificationOptions} {limits : OcbResourceLimits}
  {metadata : ColumnBundleMetadata} {plan : ColumnBundleReadPlan}
  {certification : ColumnBundleReadPlanCertification}
  {report : CompactL2PhysicalV2CertificationReport}

/-- The views of a plan of the required columns are those of the file. -/
lemma views_of_prepared
    (h : preparePhysicalV2Certification options file = .ok (metadata, plan, certification)) :
    plan.rowGroupIds.mapM (fun id => do
        let batch ← file.readPlanRowGroup zstd plan id
        CompactL2PhysicalV2BatchView.fromColumnBatch batch) = file.compactL2PhysicalV2Views zstd ∧
      file.validateReadPlan plan = .ok () := by
  obtain ⟨_, -, h⟩ := bind_eq_ok.mp h
  obtain ⟨metadata', -, h⟩ := bind_eq_ok.mp h
  obtain ⟨_, -, h⟩ := bind_eq_ok.mp h
  obtain ⟨_, -, h⟩ := bind_eq_ok.mp h
  obtain ⟨plan', hplan, h⟩ := bind_eq_ok.mp h
  obtain ⟨certification', hcertification, h⟩ := bind_eq_ok.mp h
  obtain ⟨_, -, h⟩ := bind_eq_ok.mp h
  cases h
  obtain ⟨selected, hselected, rfl⟩ := planRead_request_eq_ok.mp hplan
  obtain ⟨_, hvalid, -⟩ := bind_eq_ok.mp hcertification
  refine ⟨?_, hvalid⟩
  rw [ColumnBundleFile.compactL2PhysicalV2Views, hselected, ok_bind]
  exact List.mapM_map

/-- A certification of an opened file succeeds exactly with a certificate. -/
theorem certifiesCompactL2PhysicalV2File_eq_ok_iff (h : file.Opened) :
    CertifiesCompactL2PhysicalV2File file zstd options limits (.ok report) ↔
      ∃ metadata plan certification views hash, PhysicalV2Certificate file zstd options limits
        metadata plan certification views hash report := by
  constructor
  · rintro ⟨reader, hreader, hresult⟩
    obtain ⟨⟨metadata, plan, certification⟩, hprepare, hresult⟩ := bind_eq_ok.mp hresult.symm
    obtain ⟨state, hstate, hfinish⟩ := bind_eq_ok.mp hresult
    obtain ⟨hviews, hvalid⟩ := @views_of_prepared _ zstd _ _ _ _ hprepare
    obtain ⟨hlimits, views, hread, hscanned, hscan, hhashed⟩ :=
      (certifyPhysicalV2Waves_eq_ok h hvalid (hreader plan)).mp hstate
    refine ⟨metadata, plan, certification, views, state.2, hprepare, hlimits,
      hviews.symm.trans hread, hscanned, hhashed, ?_⟩
    rw [← hscan]
    exact hfinish
  · rintro ⟨metadata, plan, certification, views, hash, hcertificate⟩
    -- a reader for every plan: the single-threaded one where the plan is valid
    let reader : ColumnBundleReadPlan → List UInt32 → Result ColumnBundleReadOutcome :=
      fun plan wave => do
        file.validateReadPlan plan
        let selected ← plannedRowGroupSubset plan wave
        (⟨·, (plan.ofSelected selected).report⟩) <$> (do
          validateOwnedPlanResourceLimits file.metadata (plan.ofSelected selected)
          selected.mapM (file.readPlanRowGroup zstd plan))
    have hreader : ∀ plan wave, file.ReadsPlanRowGroups zstd plan wave (reader plan wave) := by
      intro plan wave
      cases hvalid : file.validateReadPlan plan with
      | error error =>
        have herror : reader plan wave = .error error := by
          show (file.validateReadPlan plan >>= _) = _
          rw [hvalid]
          rfl
        rw [herror]
        exact .invalid hvalid
      | ok u =>
        refine (h.readsPlanRowGroups_iff hvalid).mpr ?_
        show (file.validateReadPlan plan >>= _) = _
        rw [hvalid]
        rfl
    refine ⟨reader, hreader, ?_⟩
    obtain ⟨hviews, hvalid⟩ := @views_of_prepared _ zstd _ _ _ _ hcertificate.prepared
    have hstate : certifyPhysicalV2Waves options limits (reader plan) plan.rowGroupIds =
        .ok (physicalV2ScanOf options (scalarsOf views), hash) :=
      (certifyPhysicalV2Waves_eq_ok h hvalid (hreader plan)).mpr
        ⟨hcertificate.admitted, views, hviews.trans hcertificate.decoded, hcertificate.scanned, rfl,
          hcertificate.hashed⟩
    rw [certifyCompactL2PhysicalV2FileWith, hcertificate.prepared, ok_bind]
    dsimp only
    rw [hstate, ok_bind, hcertificate.finished]

/-! ### The checks behind the rows -/

lemma physicalV2ScanOf_rows (rows : List CompactL2Scalars) :
    (physicalV2ScanOf options rows).rows = rows.length := by
  rw [physicalV2ScanOf]
  split <;> rfl

/-- The first and the last BizIndex of a scan are those of its rows, and it has none when the rows
are only counted. -/
lemma of_physicalV2ScanOf_eq_some {rows : List CompactL2Scalars} {biz : ℕ}
    (hscanned : PhysicalV2Scanned options rows) :
    ((physicalV2ScanOf options rows).firstBizIndex = some biz →
      ∃ row, rows.head? = some row ∧ row.bizIndex = biz) ∧
    ((physicalV2ScanOf options rows).lastBizIndex = some biz →
      ∃ row, rows.getLast? = some row ∧ row.bizIndex = biz) := by
  rw [physicalV2ScanOf]
  rw [PhysicalV2Scanned] at hscanned
  cases hverify : options.verifyScalarContinuity with
  | false => simp [PhysicalV2ScanState.default]
  | true =>
    rw [hverify, if_pos rfl] at hscanned
    rw [if_pos rfl]
    have hnonneg : ∀ row ∈ rows, row.bizIndex.toNat = biz → row.bizIndex = biz := by
      intro row hrow hbiz
      obtain ⟨b, hb, -⟩ := (hscanned.row row hrow).bizIndex
      omega
    constructor
    · intro h
      obtain ⟨row, hrow, hbiz⟩ := Option.map_eq_some_iff.mp h
      exact ⟨row, hrow, hnonneg row (List.mem_of_head? hrow) hbiz⟩
    · intro h
      obtain ⟨row, hrow, hbiz⟩ := Option.map_eq_some_iff.mp h
      exact ⟨row, hrow, hnonneg row (List.mem_of_getLast? hrow) hbiz⟩

/-- The parts of a finished certification. -/
lemma finishPhysicalV2Certification_eq_ok {state : PhysicalV2CertificationState}
    (h : finishPhysicalV2Certification options metadata certification state = .ok report) :
    state.1.rows = metadata.rowCount.toNat ∧
      (∀ expected ∈ options.expectedFirstBizIndex,
        state.1.firstBizIndex = some expected.toNat) ∧
      (∀ expected ∈ options.expectedLastBizIndex, state.1.lastBizIndex = some expected.toNat) ∧
      verifyLegacyPayloadHash (state.2.map CompactL2Fnv1a64.finishHex)
        options.expectedLegacyPayloadHashFnv1a64 = .ok report.legacyPayloadHashVerified := by
  obtain ⟨_, hrows, h⟩ := bind_eq_ok.mp h
  obtain ⟨_, hfirst, h⟩ := bind_eq_ok.mp h
  obtain ⟨_, hlast, h⟩ := bind_eq_ok.mp h
  obtain ⟨verified, hverified, h⟩ := bind_eq_ok.mp h
  cases h
  rw [failIf_eq_ok, not_not] at hrows
  rw [checkExpected_eq_ok] at hfirst hlast
  refine ⟨hrows, fun expected hexpected => ?_, fun expected hexpected => ?_, hverified⟩
  · exact hfirst _ (by simpa using ⟨expected, hexpected, rfl⟩)
  · exact hlast _ (by simpa using ⟨expected, hexpected, rfl⟩)

end Certificate

end ArcadiaTio.Ocb
