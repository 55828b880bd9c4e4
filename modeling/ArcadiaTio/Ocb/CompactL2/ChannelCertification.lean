import ArcadiaTio.Ocb.Bundle.Describable
import ArcadiaTio.Ocb.CompactL2.PayloadArtifact
import ArcadiaTio.Ocb.Manifest.ArtifactHashes

/-!
# Certifying the artifact of a channel

The certification of a channel of version 1 opens its artifact, compares the hashes that the
manifest gives, then the metadata and the summaries of the payload column, scans the payloads and
compares the facts of the manifest with the state of the scan.  With the scan it succeeds exactly
when the records of the payload column are those that the manifest describes
(`ChannelCertificate`).  Without it the facts of the manifest are mostly compared with themselves,
and entries that give receive times or record counts are refused.
-/

namespace ArcadiaTio.Ocb

open ArcadiaTio.Lib

/-! ### Opening -/

/-- What opens the artifacts of a manifest by their relative paths. -/
abbrev ManifestArtifactResolver := String → Result OcbReadSource

/-- An artifact that has been opened, and whether its hashes were compared. -/
structure OpenedManifestArtifact where
  file : ColumnBundleFile
  checksumVerified : Bool

/-- What the certification of an artifact is done with. -/
structure CertificationContext (State : Type) where
  resolver : ManifestArtifactResolver
  zstd : ZstdCodec
  sha256 : Sha256 State
  limits : OcbResourceLimits

/-- Compare the hashes of an artifact, when they are asked for. -/
def verifyHashesWhen {State : Type} (verifyHashes : Bool) (sha : Sha256 State)
    (source : OcbReadSource) (channel : ChannelArtifactFactsV1) : Result Bool :=
  if verifyHashes then verifyOptionalHashesFromSource sha source channel else .ok false

/-- Open an artifact and compare its hashes, through one source. -/
def openManifestArtifactForCertification {State : Type} (context : CertificationContext State)
    (channel : ChannelArtifactFactsV1) (verifyHashes : Bool) : Result OpenedManifestArtifact := do
  let source ← context.resolver channel.relativePath
  let file ← ColumnBundleFile.openFromSource source context.zstd .metadataGraph context.limits
  let checksumVerified ← verifyHashesWhen verifyHashes context.sha256 file.source channel
  return { file, checksumVerified }

/-! ### The checks before the scan -/

section Steps

variable (options : CertificationOptions) (channel : ChannelArtifactFactsV1)

/-- The request for the payload column. -/
def payloadRequest : ColumnBundleReadRequest where
  projection := .names [options.payloadColumnName]
  predicates := []
  options := {
    maxThreads := max options.readThreads 1, validateChecksums := true, decodeDictionaries := false }

/-- Check the payload chunk of one row group and count its rows. -/
def certifyPayloadRowGroup (rows : ℕ) (rowGroup : ColumnBundleRowGroupSummary) : Result ℕ := do
  let rows ← okOr (checkedAdd 64 rows rowGroup.rowCount.toNat)
    (ocbDiagnostic .rowCountMismatch "channel-sharded OCB row-group row total overflows")
  match rowGroup.chunks with
  | [chunk] => do
    failIf (chunk.physicalType ≠ .fixedBinary options.expectedRecordWidth ∨
        chunk.fixedBinaryWidth ≠ some options.expectedRecordWidth)
      (ocbDiagnostic .fixedBinaryWidthMismatch
        (s!"channel-sharded OCB fixed-binary width mismatch: channel={channel.channelId} " ++
          s!"row_group={rowGroup.rowGroupId} expected={options.expectedRecordWidth} " ++
          s!"observed={chunk.fixedBinaryWidth.getD 0}"))
    failIf (chunk.validityRef ≠ none)
      (ocbDiagnostic .payloadHeaderMismatch
        (s!"channel-sharded OCB payload chunk must be non-nullable: " ++
          s!"channel={channel.channelId} row_group={rowGroup.rowGroupId}"))
    return rows
  | chunks => .error (ocbDiagnostic .invalidManifest
      (s!"channel-sharded OCB row group projected unexpected chunk count: " ++
        s!"channel={channel.channelId} row_group={rowGroup.rowGroupId} chunks={chunks.length}"))

/-- The checks before a payload is read, and what is planned. -/
def prepareChannelCertification (file : ColumnBundleFile) :
    Result (ColumnBundleMetadata × ColumnBundleReadPlan) := do
  let metadata ← file.describe
  failIf (metadata.rowCount ≠ channel.rowCount)
    (ocbDiagnostic .rowCountMismatch
      (s!"channel-sharded OCB metadata row count mismatch: channel={channel.channelId} " ++
        s!"expected={channel.rowCount} observed={metadata.rowCount}"))
  failIf (channel.rowGroupCount ≠ 0 ∧ metadata.rowGroupCount ≠ channel.rowGroupCount)
    (ocbDiagnostic .rowCountMismatch
      (s!"channel-sharded OCB row-group count mismatch: channel={channel.channelId} " ++
        s!"expected={channel.rowGroupCount} observed={metadata.rowGroupCount}"))
  let plan ← file.planRead (payloadRequest options)
  let rowGroups ← file.readPlanRowGroupSummaries plan
  let summaryRows ← rowGroups.foldlM (certifyPayloadRowGroup options channel) 0
  failIf (summaryRows ≠ channel.rowCount.toNat)
    (ocbDiagnostic .rowCountMismatch
      (s!"channel-sharded OCB row-group rows mismatch: channel={channel.channelId} " ++
        s!"expected={channel.rowCount} observed={summaryRows}"))
  return (metadata, plan)

/-! ### The checks behind the scan -/

/-- Path-free certification report of one channel. -/
structure ChannelCertificationReport where
  channelId : UInt32
  rowCount : UInt64
  rowGroupCount : UInt32
  firstBizIndex : UInt64
  lastBizIndex : UInt64
  minReceiveNano : Option ℤ
  maxReceiveNano : Option ℤ
  orderRecordCount : Option ℕ
  tradeRecordCount : Option ℕ
  checksumVerified : Bool
deriving DecidableEq

/-- The state that stands for a scan that is not made. -/
def ChannelPayloadScanState.unverified : ChannelPayloadScanState :=
  { ChannelPayloadScanState.default with
    rows := channel.rowCount.toNat
    firstBizIndex := some channel.firstBizIndex.toNat
    lastBizIndex := some channel.lastBizIndex.toNat }

/-- How a message shows an integer that may be absent. -/
def debugOptionInt : Option ℤ → String
  | some value => s!"Some({value})"
  | none => "None"

/-- Compare the facts of the manifest with the state of the scan. -/
def checkChannelFacts (state : ChannelPayloadScanState) : Result Unit := do
  failIf (state.rows ≠ channel.rowCount.toNat)
    (ocbDiagnostic .rowCountMismatch
      (s!"channel-sharded OCB decoded row count mismatch: channel={channel.channelId} " ++
        s!"expected={channel.rowCount} observed={state.rows}"))
  failIf (state.firstBizIndex ≠ some channel.firstBizIndex.toNat ∨
      state.lastBizIndex ≠ some channel.lastBizIndex.toNat)
    (ocbDiagnostic .bizIndexGap
      (s!"channel-sharded OCB decoded BizIndex range mismatch: channel={channel.channelId} " ++
        s!"expected={channel.firstBizIndex}..={channel.lastBizIndex} " ++
        s!"observed={debugOption state.firstBizIndex}..{debugOption state.lastBizIndex}"))
  checkExpected (channel.minReceiveNano.map fun expected => some expected.toInt)
    state.minReceiveNano fun expected => ocbDiagnostic .payloadHeaderMismatch
      (s!"channel-sharded OCB first receive_nano mismatch: channel={channel.channelId} " ++
        s!"expected={expected.getD 0} observed={debugOptionInt state.minReceiveNano}")
  checkExpected (channel.maxReceiveNano.map fun expected => some expected.toInt)
    state.maxReceiveNano fun expected => ocbDiagnostic .payloadHeaderMismatch
      (s!"channel-sharded OCB last receive_nano mismatch: channel={channel.channelId} " ++
        s!"expected={expected.getD 0} observed={debugOptionInt state.maxReceiveNano}")
  checkExpected (channel.orderRecordCount.map UInt64.toNat) state.orderRows fun expected =>
    ocbDiagnostic .rowCountMismatch
      (s!"channel-sharded OCB order count mismatch: channel={channel.channelId} " ++
        s!"expected={expected} observed={state.orderRows}")
  checkExpected (channel.tradeRecordCount.map UInt64.toNat) state.tradeRows fun expected =>
    ocbDiagnostic .rowCountMismatch
      (s!"channel-sharded OCB trade count mismatch: channel={channel.channelId} " ++
        s!"expected={expected} observed={state.tradeRows}")

/-- The report on a channel whose facts agree with the state. -/
def channelReport (rowGroupCount : UInt32) (checksumVerified : Bool)
    (state : ChannelPayloadScanState) : ChannelCertificationReport where
  channelId := channel.channelId
  rowCount := channel.rowCount
  rowGroupCount := rowGroupCount
  firstBizIndex := channel.firstBizIndex
  lastBizIndex := channel.lastBizIndex
  minReceiveNano := state.minReceiveNano.or (channel.minReceiveNano.map Int64.toInt)
  maxReceiveNano := state.maxReceiveNano.or (channel.maxReceiveNano.map Int64.toInt)
  orderRecordCount := if options.verifyPayloadHeader then some state.orderRows else none
  tradeRecordCount := if options.verifyPayloadHeader then some state.tradeRows else none
  checksumVerified := checksumVerified

end Steps

/-! ### The certification -/

/-- What the state behind the payloads may be: that of a scan, or the one that stands for it. -/
def PayloadsScanned (file : ColumnBundleFile) (zstd : ZstdCodec) (plan : ColumnBundleReadPlan)
    (channel : ChannelArtifactFactsV1) (tradingDay : UInt32) (options : CertificationOptions)
    (state : Result ChannelPayloadScanState) : Prop :=
  if options.verifyPayloadHeader then
    ScansPayloadHeaders file zstd plan channel tradingDay options state
  else state = .ok (.unverified channel)

/-- What certifying the artifact of a channel may return. -/
inductive CertifiesChannelArtifact {State : Type} (context : CertificationContext State)
    (tradingDay : UInt32) (channel : ChannelArtifactFactsV1) (options : CertificationOptions) :
    Result ChannelCertificationReport → Prop
  | unopened {error : ArcadiaTioError}
      (h : openManifestArtifactForCertification context channel options.verifyHashes =
        .error error) :
      CertifiesChannelArtifact context tradingDay channel options (.error error)
  | refused {artifact : OpenedManifestArtifact} {error : ArcadiaTioError}
      (h : openManifestArtifactForCertification context channel options.verifyHashes =
        .ok artifact)
      (hprepare : prepareChannelCertification options channel artifact.file = .error error) :
      CertifiesChannelArtifact context tradingDay channel options (.error error)
  | scanned {artifact : OpenedManifestArtifact} {metadata : ColumnBundleMetadata}
      {plan : ColumnBundleReadPlan} {state : Result ChannelPayloadScanState}
      (h : openManifestArtifactForCertification context channel options.verifyHashes =
        .ok artifact)
      (hprepare : prepareChannelCertification options channel artifact.file = .ok (metadata, plan))
      (hscan : PayloadsScanned artifact.file context.zstd plan channel tradingDay options state) :
      CertifiesChannelArtifact context tradingDay channel options (do
        let state ← state
        checkChannelFacts channel state
        return channelReport options channel metadata.rowGroupCount artifact.checksumVerified state)

/-! ### The checks, one by one -/

section Checks

variable {channel : ChannelArtifactFactsV1} {state : ChannelPayloadScanState}

/-- The checks behind the scan are the agreement of the entry with the state. -/
lemma checkChannelFacts_eq_ok : checkChannelFacts channel state = .ok () ↔
    channel.AgreesWith state := by
  have hcompare : ∀ {given : Option Int64} {found : Option ℤ},
      (∀ value ∈ given.map fun expected => some expected.toInt, found = value) ↔
        ∀ expected ∈ given, found = some expected.toInt := by
    intro given found
    cases given <;> simp
  have hcount : ∀ {given : Option UInt64} {found : ℕ},
      (∀ value ∈ given.map UInt64.toNat, found = value) ↔
        ∀ expected ∈ given, found = expected.toNat := by
    intro given found
    cases given <;> simp
  constructor
  · intro h
    obtain ⟨_, hrows, h⟩ := bind_eq_ok.mp h
    obtain ⟨_, hrange, h⟩ := bind_eq_ok.mp h
    obtain ⟨_, hmin, h⟩ := bind_eq_ok.mp h
    obtain ⟨_, hmax, h⟩ := bind_eq_ok.mp h
    obtain ⟨_, horders, htrades⟩ := bind_eq_ok.mp h
    rw [failIf_eq_ok, not_not] at hrows
    rw [failIf_eq_ok, not_or, not_not, not_not] at hrange
    rw [checkExpected_eq_ok] at hmin hmax horders htrades
    exact ⟨hrows, hrange.1, hrange.2, hcompare.mp hmin, hcompare.mp hmax, hcount.mp horders,
      hcount.mp htrades⟩
  · intro h
    have hrange : ¬ (state.firstBizIndex ≠ some channel.firstBizIndex.toNat ∨
        state.lastBizIndex ≠ some channel.lastBizIndex.toNat) := by
      rw [not_or, not_not, not_not]
      exact ⟨h.firstBizIndex, h.lastBizIndex⟩
    rw [checkChannelFacts, failIf_neg (not_not.mpr h.rows), ok_bind, failIf_neg hrange, ok_bind,
      checkExpected_eq_ok.mpr (hcompare.mpr h.minReceiveNano), ok_bind,
      checkExpected_eq_ok.mpr (hcompare.mpr h.maxReceiveNano), ok_bind,
      checkExpected_eq_ok.mpr (hcount.mpr h.orderRecordCount), ok_bind,
      checkExpected_eq_ok.mpr (hcount.mpr h.tradeRecordCount)]

/-- The entry gives nothing that only a scan can find. -/
structure ChannelArtifactFactsV1.NeedsNoScan (channel : ChannelArtifactFactsV1) : Prop where
  minReceiveNano : channel.minReceiveNano = none
  maxReceiveNano : channel.maxReceiveNano = none
  orderRecordCount : ∀ expected ∈ channel.orderRecordCount, expected = 0
  tradeRecordCount : ∀ expected ∈ channel.tradeRecordCount, expected = 0

/-- Without a scan only the receive times and the record counts of an entry are compared, and they
must not be there or be zero. -/
lemma agreesWith_unverified : channel.AgreesWith (.unverified channel) ↔ channel.NeedsNoScan := by
  have hzero : ∀ {expected : UInt64}, 0 = expected.toNat ↔ expected = 0 := by
    intro expected
    rw [eq_comm]
    exact ⟨fun h => UInt64.toNat_inj.mp h, fun h => by rw [h]; rfl⟩
  constructor
  · intro h
    refine ⟨Option.eq_none_iff_forall_not_mem.mpr fun expected hexpected => ?_,
      Option.eq_none_iff_forall_not_mem.mpr fun expected hexpected => ?_,
      fun expected hexpected => hzero.mp (h.orderRecordCount expected hexpected),
      fun expected hexpected => hzero.mp (h.tradeRecordCount expected hexpected)⟩
    · cases h.minReceiveNano expected hexpected
    · cases h.maxReceiveNano expected hexpected
  · rintro ⟨hmin, hmax, horders, htrades⟩
    refine ⟨rfl, rfl, rfl, ?_, ?_, fun expected hexpected => hzero.mpr (horders _ hexpected),
      fun expected hexpected => hzero.mpr (htrades _ hexpected)⟩
    · simp [hmin]
    · simp [hmax]

end Checks

/-! ### The plan of the payload column -/

/-- The plan of one column: all row groups. -/
def ColumnBundleFile.payloadPlan (file : ColumnBundleFile) (options : CertificationOptions)
    (column : BundleColumn) : ColumnBundleReadPlan :=
  readPlan (payloadRequest options) [column.id]
    (file.metadata.rowGroupIndex.rowGroups.map OcbRowGroupDescV1.rowGroupId) 0

/-- What the summary of a row group says of its one chunk in a column. -/
structure SummarizesPayload (file : ColumnBundleFile) (column : BundleColumn)
    (rowGroup : OcbRowGroupDescV1) (summary : ColumnBundleRowGroupSummary) : Prop where
  rowCount : summary.rowCount = rowGroup.rowCount
  chunk : ∃ chunk ∈ file.metadata.chunksAt rowGroup, chunk.columnId = column.id ∧
    (∀ other ∈ file.metadata.chunksAt rowGroup, other.columnId = column.id → other = chunk) ∧
    ∃ chunkSummary, summary.chunks = [chunkSummary] ∧
      ColumnBundleFile.SummarizesChunk column chunk chunkSummary

section Plan

open ColumnBundleFile

variable {file : ColumnBundleFile} {options : CertificationOptions} {plan : ColumnBundleReadPlan}
  {column : BundleColumn}

lemma planRead_payload_eq_ok (h : file.Opened) :
    file.planRead (payloadRequest options) = .ok plan ↔
      ∃ column ∈ file.columns, column.name = options.payloadColumnName ∧
        plan = file.payloadPlan options column := by
  have hoptions : validateReadOptions (payloadRequest options).options = .ok () := rfl
  have hproject : resolveProjection file.columns (payloadRequest options).projection =
      (do
        let column ← okOr (columnByName file.columns options.payloadColumnName)
          (ocbInvalidInput "OCB projection references an unknown column")
        return [column.id]) := by
    show resolveNames file.columns [options.payloadColumnName] [] = _
    rw [resolveNames]
    cases columnByName file.columns options.payloadColumnName with
    | none => rfl
    | some column => rfl
  have hpredicates : resolvePredicates file.columns (payloadRequest options).predicates =
      .ok [] := rfl
  rw [planRead, hoptions, ok_bind, hproject, hpredicates]
  constructor
  · intro hplan
    obtain ⟨selected, hselected, hplan⟩ := bind_eq_ok.mp hplan
    obtain ⟨column, hcolumn, hselected⟩ := bind_eq_ok.mp hselected
    obtain rfl := Except.ok.inj hselected
    obtain ⟨hmem, hname⟩ := h.columnByName_eq_some.mp (okOr_eq_ok.mp hcolumn)
    rw [ok_bind, selectRowGroups_nil, ok_bind] at hplan
    exact ⟨column, hmem, hname, (Except.ok.inj hplan).symm⟩
  · rintro ⟨column, hmem, hname, rfl⟩
    rw [h.columnByName_eq_some.mpr ⟨hmem, hname⟩, okOr_some, ok_bind, pure_eq_ok, ok_bind, ok_bind,
      selectRowGroups_nil, ok_bind]
    rfl

lemma selects_payloadPlan (h : file.Opened) (hcolumn : column ∈ file.columns) :
    file.Selects (file.payloadPlan options column) where
  columns := by
    intro id hid
    obtain rfl := List.mem_singleton.mp hid
    exact List.mem_map_of_mem hcolumn
  columnsNodup := List.nodup_singleton _
  rowGroups := by
    intro id hid
    obtain ⟨rowGroup, hmem, rfl⟩ := List.mem_map.mp hid
    rw [(h.invariant.rowGroupById _ _).mpr ⟨hmem, rfl⟩]
    rfl
  rowGroupsNodup := h.invariant.rowGroupIds

lemma forall₂_of_buildRowGroupSummaries {projected : Option (List UInt32)} {ids seen : List UInt32}
    {summaries : List ColumnBundleRowGroupSummary}
    (h : file.buildRowGroupSummaries projected ids seen = .ok summaries) :
    List.Forall₂ (fun id summary => ∃ rowGroup, file.metadata.rowGroupById id = some rowGroup ∧
      file.buildRowGroupSummary rowGroup projected = .ok summary) ids summaries := by
  induction ids generalizing seen summaries with
  | nil =>
    cases h
    exact .nil
  | cons id rest ih =>
    obtain ⟨_, -, h⟩ := bind_eq_ok.mp h
    obtain ⟨rowGroup, hfound, h⟩ := bind_eq_ok.mp h
    obtain ⟨summary, hsummary, h⟩ := bind_eq_ok.mp h
    obtain ⟨after, hafter, h⟩ := bind_eq_ok.mp h
    obtain rfl := Except.ok.inj h
    exact .cons ⟨rowGroup, okOr_eq_ok.mp hfound, hsummary⟩ (ih hafter)

variable {source : OcbReadSource} {zstd : ZstdCodec} {validation : OcbOpenValidationMode}
  {limits : OcbResourceLimits}

/-- A projection on one column keeps the one chunk of that column. -/
lemma summarizesPayload (hfault : source.FaultFree)
    (h : openFromSource source zstd validation limits = .ok file) (hcolumn : column ∈ file.columns)
    {rowGroup : OcbRowGroupDescV1} (hmem : rowGroup ∈ file.metadata.rowGroupIndex.rowGroups) :
    ∃ summary, file.buildRowGroupSummary rowGroup (some [column.id]) = .ok summary ∧
      SummarizesPayload file column rowGroup summary := by
  obtain ⟨chunks, summary, hchunks, hsummary, hrows, hforall⟩ :=
    exists_rowGroupSummary h hmem (some [column.id])
  have hat : file.metadata.chunksAt rowGroup = chunks := (chunksAt_of_found hchunks).symm
  obtain ⟨hnodup, -, hall⟩ := exists_chunkOf hfault h hmem
  obtain ⟨chunk, hchunk, hid, -, -⟩ := hall column hcolumn
  rw [hat] at hnodup hchunk
  have hunique : ∀ other ∈ chunks, other.columnId = column.id → other = chunk :=
    fun other hother hsame => eq_of_nodup_map hnodup hother hchunk (hsame.trans hid.symm)
  have hprojected : projectedChunks (some [column.id]) chunks = [chunk] := by
    have hfilter : projectedChunks (some [column.id]) chunks =
        chunks.filter fun other => other.columnId = column.id := by
      rw [projectedChunks]
      refine List.filter_congr fun other _ => ?_
      simp
    rw [hfilter]
    refine List.perm_singleton.mp ((List.perm_ext_iff_of_nodup
      ((hnodup.of_map _).filter _) (List.nodup_singleton _)).mpr fun other => ?_)
    simp only [List.mem_filter, decide_eq_true_eq, List.mem_singleton]
    constructor
    · rintro ⟨hother, hsame⟩
      exact hunique other hother hsame
    · rintro rfl
      exact ⟨hchunk, hid⟩
  rw [hprojected] at hforall
  obtain ⟨chunkSummary, rest, ⟨column', hcolumn', hid', hsummarizes⟩, hrest, hsummaries⟩ :=
    List.forall₂_cons_left_iff.mp hforall
  obtain rfl := List.forall₂_nil_left_iff.mp hrest
  obtain rfl := eq_of_nodup_map (opened_of_openFromSource h).nodup_columnIds hcolumn' hcolumn
    (hid'.trans hid)
  refine ⟨summary, hsummary, hrows, chunk, ?_, hid, ?_, chunkSummary, hsummaries, hsummarizes⟩
  · rwa [hat]
  · rwa [hat]

/-- The summaries of the plan of one column. -/
lemma exists_payloadSummaries (hfault : source.FaultFree)
    (h : openFromSource source zstd validation limits = .ok file)
    (hcolumn : column ∈ file.columns) :
    ∃ summaries, file.readPlanRowGroupSummaries (file.payloadPlan options column) = .ok summaries ∧
      List.Forall₂ (SummarizesPayload file column) file.metadata.rowGroupIndex.rowGroups
        summaries := by
  have hopened := opened_of_openFromSource h
  have hvalid := validateReadPlan_eq_ok.mpr (@selects_payloadPlan _ options _ hopened hcolumn)
  obtain ⟨summaries, hsummaries⟩ : IsOk (file.buildRowGroupSummaries (some [column.id])
      (file.metadata.rowGroupIndex.rowGroups.map OcbRowGroupDescV1.rowGroupId) []) := by
    refine isOk_buildRowGroupSummaries (by simpa using hopened.invariant.rowGroupIds)
      fun id hid => ?_
    obtain ⟨rowGroup, hmem, rfl⟩ := List.mem_map.mp hid
    exact ⟨rowGroup, (hopened.invariant.rowGroupById _ _).mpr ⟨hmem, rfl⟩,
      isOk_buildRowGroupSummary h hmem _⟩
  refine ⟨summaries, ?_, ?_⟩
  · rw [readPlanRowGroupSummaries, hvalid, ok_bind]
    exact hsummaries
  · have hforall := forall₂_of_buildRowGroupSummaries hsummaries
    rw [List.forall₂_map_left_iff] at hforall
    refine ((List.forall₂_and_left (p := (· ∈ file.metadata.rowGroupIndex.rowGroups)) _ _).mpr
      ⟨fun _ => id, hforall⟩).imp ?_
    rintro rowGroup summary ⟨hmem, rowGroup', hfound, hsummary⟩
    obtain rfl : rowGroup' = rowGroup := by
      rw [(hopened.invariant.rowGroupById _ _).mpr ⟨hmem, rfl⟩] at hfound
      exact (Option.some.inj hfound).symm
    obtain ⟨summary', hsummary', hsummarizes⟩ := summarizesPayload hfault h hcolumn hmem
    obtain rfl := Except.ok.inj (hsummary'.symm.trans hsummary)
    exact hsummarizes

end Plan

/-! ### The checks before the scan, together -/

/-- What the checks before the scan find. -/
structure PreparedChannel (file : ColumnBundleFile) (options : CertificationOptions)
    (channel : ChannelArtifactFactsV1) (column : BundleColumn) : Prop where
  described : IsOk file.describe
  rowCount : file.metadata.root.rowCount = channel.rowCount
  rowGroupCount : channel.rowGroupCount = 0 ∨
    file.metadata.root.rowGroupCount = channel.rowGroupCount
  mem : column ∈ file.columns
  name : column.name = options.payloadColumnName
  physicalType : file.metadata.rowGroupIndex.rowGroups ≠ [] →
    column.physicalType = .fixedBinary options.expectedRecordWidth
  withoutNulls : ∀ rowGroup ∈ file.metadata.rowGroupIndex.rowGroups,
    ∀ chunk ∈ file.metadata.chunksAt rowGroup, chunk.columnId = column.id →
      chunk.validityRef.IsNull

section Prepare

open ColumnBundleFile

variable {file : ColumnBundleFile} {options : CertificationOptions}
  {channel : ChannelArtifactFactsV1} {column : BundleColumn}

/-- The chunk of a row group is accepted when its column has the width of the records and it has no
validity bits. -/
lemma certifyPayloadRowGroup_eq_ok {rowGroup : OcbRowGroupDescV1}
    {summary : ColumnBundleRowGroupSummary} (h : SummarizesPayload file column rowGroup summary)
    {rows total : ℕ} : certifyPayloadRowGroup options channel rows summary = .ok total ↔
      (column.physicalType = .fixedBinary options.expectedRecordWidth ∧
        ∀ chunk ∈ file.metadata.chunksAt rowGroup, chunk.columnId = column.id →
          chunk.validityRef.IsNull) ∧
      checkedAdd 64 rows rowGroup.rowCount.toNat = some total := by
  obtain ⟨chunk, hchunk, hid, hunique, chunkSummary, hsummaries, hsummarizes⟩ := h.chunk
  -- the two checks of the width are one: the summary is that of the column
  have htype : (chunkSummary.physicalType ≠ .fixedBinary options.expectedRecordWidth ∨
      chunkSummary.fixedBinaryWidth ≠ some options.expectedRecordWidth) ↔
      column.physicalType ≠ .fixedBinary options.expectedRecordWidth := by
    rw [hsummarizes.physicalType, hsummarizes.fixedBinaryWidth]
    refine ⟨?_, Or.inl⟩
    rintro (hne | hne) heq
    · exact hne heq
    · rw [heq] at hne
      exact hne rfl
  have hnull : (∀ other ∈ file.metadata.chunksAt rowGroup, other.columnId = column.id →
      other.validityRef.IsNull) ↔ chunkSummary.validityRef = none := by
    rw [hsummarizes.validityRef]
    constructor
    · intro hall
      exact hall chunk hchunk hid
    · intro hnull other hother hsame
      rwa [hunique other hother hsame]
  rw [certifyPayloadRowGroup, h.rowCount, hsummaries, hnull]
  constructor
  · intro hok
    obtain ⟨sum, hsum, hok⟩ := bind_eq_ok.mp hok
    obtain ⟨_, hwidth, hok⟩ := bind_eq_ok.mp hok
    obtain ⟨_, hvalidity, hok⟩ := bind_eq_ok.mp hok
    obtain rfl := Except.ok.inj hok
    rw [failIf_eq_ok, htype, not_not] at hwidth
    rw [failIf_eq_ok, not_not] at hvalidity
    exact ⟨⟨hwidth, hvalidity⟩, okOr_eq_ok.mp hsum⟩
  · rintro ⟨⟨hwidth, hvalidity⟩, hsum⟩
    rw [hsum, okOr_some, ok_bind]
    dsimp only
    rw [failIf_neg (mt htype.mp (not_not.mpr hwidth)), ok_bind, failIf_neg (not_not.mpr hvalidity)]
    rfl

/-- The row groups one after the other. -/
lemma foldlM_certifyPayloadRowGroup_eq_ok {rowGroups : List OcbRowGroupDescV1}
    {summaries : List ColumnBundleRowGroupSummary}
    (h : List.Forall₂ (SummarizesPayload file column) rowGroups summaries) {rows total : ℕ} :
    summaries.foldlM (certifyPayloadRowGroup options channel) rows = .ok total ↔
      (∀ rowGroup ∈ rowGroups, column.physicalType = .fixedBinary options.expectedRecordWidth ∧
        ∀ chunk ∈ file.metadata.chunksAt rowGroup, chunk.columnId = column.id →
          chunk.validityRef.IsNull) ∧
      rowGroups.foldlM (fun total rowGroup => checkedAdd 64 total rowGroup.rowCount.toNat) rows =
        some total := by
  induction h generalizing rows with
  | nil => simp
  | @cons rowGroup summary rest restSummaries hsummary _ ih =>
    rw [List.foldlM_cons, List.foldlM_cons, List.forall_mem_cons, bind_eq_ok]
    constructor
    · rintro ⟨next, hnext, hrest⟩
      obtain ⟨hfirst, hadd⟩ := (certifyPayloadRowGroup_eq_ok hsummary).mp hnext
      obtain ⟨hall, hsum⟩ := ih.mp hrest
      rw [hadd]
      exact ⟨⟨hfirst, hall⟩, hsum⟩
    · rintro ⟨⟨hfirst, hall⟩, hsum⟩
      obtain ⟨next, hadd, hsum⟩ := Option.bind_eq_some_iff.mp hsum
      exact ⟨next, (certifyPayloadRowGroup_eq_ok hsummary).mpr ⟨hfirst, hadd⟩, ih.mpr ⟨hall, hsum⟩⟩

variable {source : OcbReadSource} {zstd : ZstdCodec} {validation : OcbOpenValidationMode}
  {limits : OcbResourceLimits}

/-- The row counts of the row groups add up to that of the root. -/
lemma sumRowCounts_eq (h : openFromSource source zstd validation limits = .ok file) :
    sumRowCounts file.metadata.rowGroupIndex.rowGroups =
      some file.metadata.root.rowCount.toNat := by
  have hsum := (opened_of_openFromSource h).invariant.rows.sum_eq
  rw [Nat.zero_add, List.map_map] at hsum
  have hlt := file.metadata.root.rowCount.toNat_lt
  have hfits : checkedSum 64 (file.metadata.rowGroupIndex.rowGroups.map fun rowGroup =>
      rowGroup.rowCount.toNat) = some file.metadata.root.rowCount.toNat :=
    checkedSum_eq_some.mpr ⟨hsum.symm, hsum ▸ hlt⟩
  rwa [checkedSum, List.foldlM_map] at hfits

/-- The checks before the scan succeed exactly on a prepared channel, and plan its column. -/
theorem prepareChannelCertification_eq_ok (hfault : source.FaultFree)
    (h : openFromSource source zstd validation limits = .ok file)
    {metadata : ColumnBundleMetadata} {plan : ColumnBundleReadPlan} :
    prepareChannelCertification options channel file = .ok (metadata, plan) ↔
      ∃ column, PreparedChannel file options channel column ∧ file.describe = .ok metadata ∧
        plan = file.payloadPlan options column := by
  have hopened := opened_of_openFromSource h
  constructor
  -- the guards, in the order of the code
  · intro hok
    obtain ⟨metadata', hdescribe, hok⟩ := bind_eq_ok.mp hok
    obtain ⟨_, hrows, hok⟩ := bind_eq_ok.mp hok
    obtain ⟨_, hgroups, hok⟩ := bind_eq_ok.mp hok
    obtain ⟨plan', hplan, hok⟩ := bind_eq_ok.mp hok
    obtain ⟨summaries, hsummaries, hok⟩ := bind_eq_ok.mp hok
    obtain ⟨total, htotal, hok⟩ := bind_eq_ok.mp hok
    obtain ⟨_, -, hok⟩ := bind_eq_ok.mp hok
    obtain ⟨rfl, rfl⟩ := Prod.mk.inj (Except.ok.inj hok)
    obtain ⟨hrowCount, hrowGroupCount⟩ := of_describe hdescribe
    obtain ⟨column, hcolumn, hname, rfl⟩ := (planRead_payload_eq_ok hopened).mp hplan
    obtain ⟨summaries', hsummaries', hforall⟩ :=
      @exists_payloadSummaries _ options _ _ _ _ _ hfault h hcolumn
    obtain rfl := Except.ok.inj (hsummaries'.symm.trans hsummaries)
    obtain ⟨hall, -⟩ := (foldlM_certifyPayloadRowGroup_eq_ok hforall).mp htotal
    rw [failIf_eq_ok, not_not, hrowCount] at hrows
    rw [failIf_eq_ok, hrowGroupCount, not_and_or, not_not, not_not] at hgroups
    refine ⟨column, ⟨⟨_, hdescribe⟩, hrows, hgroups, hcolumn, hname, fun hne => ?_,
      fun rowGroup hmem => (hall rowGroup hmem).2⟩, hdescribe, rfl⟩
    obtain ⟨rowGroup, hmem⟩ := List.exists_mem_of_ne_nil _ hne
    exact (hall rowGroup hmem).1
  · rintro ⟨column, hprepared, hdescribe, rfl⟩
    obtain ⟨hrowCount, hrowGroupCount⟩ := of_describe hdescribe
    obtain ⟨summaries, hsummaries, hforall⟩ :=
      @exists_payloadSummaries _ options _ _ _ _ _ hfault h hprepared.mem
    have hplan := (planRead_payload_eq_ok hopened).mpr
      ⟨column, hprepared.mem, hprepared.name, rfl⟩
    have hfold := (@foldlM_certifyPayloadRowGroup_eq_ok _ _ channel _ _ _ hforall _ _).mpr
      ⟨fun rowGroup hmem => ⟨hprepared.physicalType (List.ne_nil_of_mem hmem),
        hprepared.withoutNulls rowGroup hmem⟩, sumRowCounts_eq h⟩
    have hrows : ¬ metadata.rowCount ≠ channel.rowCount := by
      rw [hrowCount, not_not]
      exact hprepared.rowCount
    have hgroups : ¬ (channel.rowGroupCount ≠ 0 ∧
        metadata.rowGroupCount ≠ channel.rowGroupCount) := by
      rw [hrowGroupCount, not_and_or, not_not, not_not]
      exact hprepared.rowGroupCount
    rw [prepareChannelCertification, hdescribe, ok_bind, failIf_neg hrows, ok_bind,
      failIf_neg hgroups, ok_bind, hplan, ok_bind, hsummaries, ok_bind, hfold, ok_bind,
      failIf_neg (not_not.mpr (congrArg UInt64.toNat hprepared.rowCount))]
    rfl

end Prepare

/-! ### What a certification says -/

/-- The payload column of a file keeps records, row group by row group. -/
def ColumnBundleFile.KeepsPayloads (file : ColumnBundleFile) (zstd : ZstdCodec)
    (column : BundleColumn) (width : UInt32) (groups : List (List CompactL2PhysicalV2Record)) :
    Prop :=
  List.Forall₂ (fun rowGroup vs => ∃ batch,
    readRowGroup file.source zstd file.metadata file.columns rowGroup.rowGroupId [column.id] =
      .ok batch ∧ batch.KeepsRecords width vs) file.metadata.rowGroupIndex.rowGroups groups

/-- An artifact is opened, and its bytes hold the hashes if they are compared. -/
structure OpensArtifact {State : Type} (context : CertificationContext State)
    (channel : ChannelArtifactFactsV1) (verifyHashes : Bool) (artifact : OpenedManifestArtifact) :
    Prop where
  opened : ∃ source, context.resolver channel.relativePath = .ok source ∧
    ColumnBundleFile.openFromSource source context.zstd .metadataGraph context.limits =
      .ok artifact.file
  hashes : verifyHashes = true →
    channel.HashesHold context.sha256 artifact.file.source.bytes
  checksumVerified : artifact.checksumVerified = (verifyHashes && channel.hasHashes)

/-- The artifact of a channel can be scanned, and its payload column keeps the records. -/
structure HoldsPayloads {State : Type} (context : CertificationContext State)
    (channel : ChannelArtifactFactsV1) (options : CertificationOptions)
    (artifact : OpenedManifestArtifact) (column : BundleColumn)
    (groups : List (List CompactL2PhysicalV2Record)) : Prop where
  opens : OpensArtifact context channel options.verifyHashes artifact
  prepared : PreparedChannel artifact.file options channel column
  admitted : IsOk (artifact.file.reusableBufferPoolForPlan
    (artifact.file.payloadPlan options column) options.inFlight false)
  keeps : artifact.file.KeepsPayloads context.zstd column options.expectedRecordWidth groups

/-- The rows of records, row group by row group. -/
def payloadRows (groups : List (List CompactL2PhysicalV2Record)) : List CompactL2Scalars :=
  groups.flatten.map CompactL2PhysicalV2Record.scalars

/-- What a certification with the scan has found: the records of the artifact, and that they are
what the manifest describes. -/
structure ChannelCertificate {State : Type} (context : CertificationContext State)
    (tradingDay : UInt32) (channel : ChannelArtifactFactsV1) (options : CertificationOptions)
    (artifact : OpenedManifestArtifact) (column : BundleColumn)
    (groups : List (List CompactL2PhysicalV2Record)) (report : ChannelCertificationReport) :
    Prop extends HoldsPayloads context channel options artifact column groups where
  describes : channel.Describes tradingDay (payloadRows groups)
  report : report = channelReport options channel artifact.file.metadata.root.rowGroupCount
    artifact.checksumVerified (.ofRows (payloadRows groups))

section Certificate

open ColumnBundleFile

variable {State : Type} {context : CertificationContext State} {tradingDay : UInt32}
  {channel : ChannelArtifactFactsV1} {options : CertificationOptions}
  {artifact : OpenedManifestArtifact} {report : ChannelCertificationReport}
  (hfault : ∀ source, context.resolver channel.relativePath = .ok source → source.FaultFree)

include hfault

lemma openManifestArtifact_eq_ok {verifyHashes : Bool} :
    openManifestArtifactForCertification context channel verifyHashes = .ok artifact ↔
      OpensArtifact context channel verifyHashes artifact := by
  constructor
  · intro h
    obtain ⟨source, hsource, h⟩ := bind_eq_ok.mp h
    obtain ⟨file, hfile, h⟩ := bind_eq_ok.mp h
    obtain ⟨verified, hverified, h⟩ := bind_eq_ok.mp h
    obtain rfl := Except.ok.inj h
    have hsame := source_of_openFromSource hfile
    have hclean : file.source.FaultFree := hsame ▸ hfault source hsource
    cases verifyHashes with
    | false =>
      obtain rfl := Except.ok.inj hverified
      exact ⟨⟨source, hsource, hfile⟩, fun h => absurd h Bool.false_ne_true, rfl⟩
    | true =>
      obtain ⟨hholds, rfl⟩ := (verifyOptionalHashesFromSource_eq_ok hclean).mp hverified
      exact ⟨⟨source, hsource, hfile⟩, fun _ => hholds, rfl⟩
  · rintro ⟨⟨source, hsource, hfile⟩, hholds, hverified⟩
    have hsame := source_of_openFromSource hfile
    have hclean : artifact.file.source.FaultFree := hsame ▸ hfault source hsource
    have hcompared : verifyHashesWhen verifyHashes context.sha256 artifact.file.source channel =
        .ok artifact.checksumVerified := by
      rw [hverified]
      cases verifyHashes with
      | false => rfl
      | true => exact (verifyOptionalHashesFromSource_eq_ok hclean).mpr ⟨hholds rfl, rfl⟩
    rw [openManifestArtifactForCertification, hsource, ok_bind, hfile, ok_bind, hcompared]
    rfl

/-- What the checks around the scan leave of a certification that succeeds. -/
lemma certifiesChannelArtifact_iff : CertifiesChannelArtifact context tradingDay channel options
      (.ok report) ↔
    ∃ artifact column state, OpensArtifact context channel options.verifyHashes artifact ∧
      PreparedChannel artifact.file options channel column ∧
      PayloadsScanned artifact.file context.zstd (artifact.file.payloadPlan options column) channel
        tradingDay options (.ok state) ∧
      channel.AgreesWith state ∧
      report = channelReport options channel artifact.file.metadata.root.rowGroupCount
        artifact.checksumVerified state := by
  constructor
  · intro hcertifies
    generalize hresult : (.ok report : Result ChannelCertificationReport) = result at hcertifies
    cases hcertifies with
    | unopened _ => cases hresult
    | refused _ _ => cases hresult
    | @scanned artifact metadata plan state hopen hprepare hscan =>
      have hopens := (openManifestArtifact_eq_ok hfault).mp hopen
      obtain ⟨source, hsource, hfile⟩ := hopens.opened
      obtain ⟨column, hprepared, hdescribe, rfl⟩ :=
        (prepareChannelCertification_eq_ok (hfault source hsource) hfile).mp hprepare
      obtain ⟨final, rfl, hchecked⟩ := bind_eq_ok.mp hresult.symm
      obtain ⟨_, hfacts, hreport⟩ := bind_eq_ok.mp hchecked
      refine ⟨artifact, column, final, hopens, hprepared, hscan, checkChannelFacts_eq_ok.mp hfacts,
        ?_⟩
      rw [← (of_describe hdescribe).2]
      exact (Except.ok.inj hreport).symm
  · rintro ⟨artifact, column, state, hopens, hprepared, hscan, hagrees, rfl⟩
    obtain ⟨source, hsource, hfile⟩ := hopens.opened
    obtain ⟨metadata, hdescribe⟩ := hprepared.described
    have hcertifies := CertifiesChannelArtifact.scanned
      ((openManifestArtifact_eq_ok hfault).mpr hopens)
      ((prepareChannelCertification_eq_ok (hfault source hsource) hfile).mpr
        ⟨column, hprepared, hdescribe, rfl⟩) hscan
    rwa [ok_bind, checkChannelFacts_eq_ok.mpr hagrees, ok_bind, (of_describe hdescribe).2,
      pure_eq_ok] at hcertifies

/-- With the scan, the artifact of a channel is certified exactly when its payload column keeps the
records that the manifest describes.  Neither the threads nor the row groups in flight change the
report. -/
theorem certifiesChannelArtifact_verified_iff (hverify : options.verifyPayloadHeader = true) :
    CertifiesChannelArtifact context tradingDay channel options (.ok report) ↔
      ∃ artifact column groups, ChannelCertificate context tradingDay channel options artifact
        column groups report := by
  have hscanned : ∀ {artifact column state},
      OpensArtifact context channel options.verifyHashes artifact →
      PreparedChannel artifact.file options channel column →
      ((PayloadsScanned artifact.file context.zstd (artifact.file.payloadPlan options column)
          channel tradingDay options (.ok state) ∧ channel.AgreesWith state) ↔
        IsOk (artifact.file.reusableBufferPoolForPlan
          (artifact.file.payloadPlan options column) options.inFlight false) ∧
        ∃ groups, artifact.file.KeepsPayloads context.zstd column options.expectedRecordWidth
            groups ∧
          channel.Describes tradingDay (payloadRows groups) ∧
          state = .ofRows (payloadRows groups)) := by
    intro artifact column state hopens hprepared
    obtain ⟨source, hsource, hfile⟩ := hopens.opened
    have hopened := opened_of_openFromSource hfile
    have hnulls : artifact.file.WithoutNulls (artifact.file.payloadPlan options column) := by
      intro id _ rowGroup hfound chunk hchunk hid
      exact hprepared.withoutNulls rowGroup ((hopened.invariant.rowGroupById _ _).mp hfound).1
        chunk hchunk (List.mem_singleton.mp hid)
    have hvalid := validateReadPlan_eq_ok.mpr
      (@selects_payloadPlan _ options _ hopened hprepared.mem)
    have hkeeps : ∀ groups, List.Forall₂ (fun id vs => ∃ batch,
        artifact.file.readPlanRowGroup context.zstd (artifact.file.payloadPlan options column) id =
          .ok batch ∧ batch.KeepsRecords options.expectedRecordWidth vs)
        (artifact.file.payloadPlan options column).rowGroupIds groups ↔
      artifact.file.KeepsPayloads context.zstd column options.expectedRecordWidth groups := by
      intro groups
      exact List.forall₂_map_left_iff
    rw [PayloadsScanned, if_pos hverify, scansPayloadHeaders_eq_ok_iff (hfault source hsource) hfile
      hprepared.mem hvalid rfl hnulls]
    constructor
    · rintro ⟨⟨hpool, groups, hgroups, haccepts, hspan, rfl⟩, hagrees⟩
      exact ⟨hpool, groups, (hkeeps groups).mp hgroups,
        (describes_iff_payloadAccepts (recordRows_scalars _)).mpr ⟨haccepts, hspan, hagrees⟩, rfl⟩
    · rintro ⟨hpool, groups, hgroups, hdescribes, rfl⟩
      obtain ⟨haccepts, hspan, hagrees⟩ :=
        (describes_iff_payloadAccepts (recordRows_scalars _)).mp hdescribes
      exact ⟨⟨hpool, groups, (hkeeps groups).mpr hgroups, haccepts, hspan, rfl⟩, hagrees⟩
  rw [certifiesChannelArtifact_iff hfault]
  constructor
  · rintro ⟨artifact, column, state, hopens, hprepared, hscan, hagrees, rfl⟩
    obtain ⟨hpool, groups, hkeeps, hdescribes, rfl⟩ :=
      (hscanned hopens hprepared).mp ⟨hscan, hagrees⟩
    exact ⟨artifact, column, groups, ⟨hopens, hprepared, hpool, hkeeps⟩, hdescribes, rfl⟩
  · rintro ⟨artifact, column, groups, hcertificate⟩
    obtain ⟨hscan, hagrees⟩ := (hscanned hcertificate.opens hcertificate.prepared).mpr
      ⟨hcertificate.admitted, groups, hcertificate.keeps, hcertificate.describes, rfl⟩
    exact ⟨artifact, column, _, hcertificate.opens, hcertificate.prepared, hscan, hagrees,
      hcertificate.report⟩

/-- Without the scan the payloads are not looked at, and an entry that gives a receive time, or a
record count other than zero, is refused. -/
theorem certifiesChannelArtifact_unverified_iff (hverify : options.verifyPayloadHeader = false) :
    CertifiesChannelArtifact context tradingDay channel options (.ok report) ↔
      (∃ artifact column, OpensArtifact context channel options.verifyHashes artifact ∧
        PreparedChannel artifact.file options channel column ∧
        report = channelReport options channel artifact.file.metadata.root.rowGroupCount
          artifact.checksumVerified (.unverified channel)) ∧ channel.NeedsNoScan := by
  have hscanned : ∀ {file : ColumnBundleFile} {plan : ColumnBundleReadPlan}
      {state : ChannelPayloadScanState},
      PayloadsScanned file context.zstd plan channel tradingDay options (.ok state) ↔
        state = .unverified channel := by
    intro file plan state
    rw [PayloadsScanned, hverify, if_neg Bool.false_ne_true, Except.ok.injEq]
  rw [certifiesChannelArtifact_iff hfault, ← agreesWith_unverified]
  constructor
  · rintro ⟨artifact, column, state, hopens, hprepared, hscan, hagrees, rfl⟩
    obtain rfl := hscanned.mp hscan
    exact ⟨⟨artifact, column, hopens, hprepared, rfl⟩, hagrees⟩
  · rintro ⟨⟨artifact, column, hopens, hprepared, rfl⟩, hagrees⟩
    exact ⟨artifact, column, _, hopens, hprepared, hscanned.mpr rfl, hagrees, rfl⟩

end Certificate

end ArcadiaTio.Ocb
