import ArcadiaTio.Ocb.CompactL2.ChannelCertification

/-!
# Certifying the artifact of a channel in physical version 2

The certification of a channel of physical version 2 opens its artifact as for version 1 and passes
what the manifest says of the channel on to the certification of the file.  With the scan it
succeeds exactly when the rows of the artifact are those that the manifest describes
(`PhysicalV2ChannelCertificate`).  Without it only the counts are compared, whatever else the entry
gives.
-/

namespace ArcadiaTio.Ocb

open ArcadiaTio.Lib

/-- Options for certifying a manifest of physical version 2. -/
structure CompactL2PhysicalV2ManifestCertificationOptions where
  artifactFormat : String
  verifyScalarContinuity : Bool
  verifyLegacyReconstruction : Bool
  verifyHashes : Bool
  maxRows : Option UInt64
  readThreads : ℕ
  maxInFlightRowGroups : ℕ

/-- Path-free certification report of one channel of physical version 2. -/
structure CompactL2PhysicalV2ChannelCertificationReport where
  channelId : UInt32
  rowCount : UInt64
  rowGroupCount : UInt32
  firstBizIndex : Option ℕ
  lastBizIndex : Option ℕ
  minReceiveNano : Option ℤ
  maxReceiveNano : Option ℤ
  orderRecordCount : Option ℕ
  tradeRecordCount : Option ℕ
  requiredColumnCount : ℕ
  selectedColumnChunkCount : ℕ
  selectedCompressedBytes : ℕ
  selectedUncompressedBytes : ℕ
  legacyPayloadHashFnv1a64 : Option String
  checksumVerified : Bool
deriving DecidableEq

section Steps

variable (options : CompactL2PhysicalV2ManifestCertificationOptions)
  (channel : ChannelArtifactFactsV1)

/-- What the certification of the file is to expect. -/
def CompactL2PhysicalV2ManifestCertificationOptions.forChannel (tradingDay : UInt32) :
    CompactL2PhysicalV2CertificationOptions where
  expectedRowCount := some channel.rowCount
  expectedTradingDay := if options.verifyScalarContinuity then some tradingDay else none
  expectedChannelId := if options.verifyScalarContinuity then some channel.channelId else none
  expectedFirstBizIndex :=
    if options.verifyScalarContinuity then some channel.firstBizIndex else none
  expectedLastBizIndex :=
    if options.verifyScalarContinuity then some channel.lastBizIndex else none
  verifyScalarContinuity := options.verifyScalarContinuity
  verifyLegacyReconstruction := options.verifyLegacyReconstruction
  expectedLegacyPayloadHashFnv1a64 := none
  maxRows := some channel.rowCount
  readThreads := options.readThreads
  maxInFlightRowGroups := options.maxInFlightRowGroups

/-- Compare the optional facts of the manifest with the report on the file. -/
def checkPhysicalV2ChannelFacts (report : CompactL2PhysicalV2CertificationReport) :
    Result Unit := do
  checkExpected (channel.minReceiveNano.map fun expected => some expected.toInt)
    report.minReceiveNano fun expected => ocbDiagnostic .payloadHeaderMismatch
      (s!"compact-L2 physical-v2 first receive_nano mismatch: channel={channel.channelId} " ++
        s!"expected={expected.getD 0} observed={debugOptionInt report.minReceiveNano}")
  checkExpected (channel.maxReceiveNano.map fun expected => some expected.toInt)
    report.maxReceiveNano fun expected => ocbDiagnostic .payloadHeaderMismatch
      (s!"compact-L2 physical-v2 last receive_nano mismatch: channel={channel.channelId} " ++
        s!"expected={expected.getD 0} observed={debugOptionInt report.maxReceiveNano}")
  checkExpected (channel.orderRecordCount.map fun expected => some expected.toNat)
    report.orderRecordCount fun expected => ocbDiagnostic .rowCountMismatch
      (s!"compact-L2 physical-v2 order count mismatch: channel={channel.channelId} " ++
        s!"expected={expected.getD 0} observed={debugOption report.orderRecordCount}")
  checkExpected (channel.tradeRecordCount.map fun expected => some expected.toNat)
    report.tradeRecordCount fun expected => ocbDiagnostic .rowCountMismatch
      (s!"compact-L2 physical-v2 trade count mismatch: channel={channel.channelId} " ++
        s!"expected={expected.getD 0} observed={debugOption report.tradeRecordCount}")

/-- The checks of the report on the file. -/
def checkPhysicalV2Channel (report : CompactL2PhysicalV2CertificationReport) : Result Unit := do
  failIf (channel.rowGroupCount ≠ 0 ∧ report.rowGroupCount ≠ channel.rowGroupCount)
    (ocbDiagnostic .rowCountMismatch
      (s!"compact-L2 physical-v2 row-group count mismatch: channel={channel.channelId} " ++
        s!"expected={channel.rowGroupCount} observed={report.rowGroupCount}"))
  if options.verifyScalarContinuity then checkPhysicalV2ChannelFacts channel report else .ok ()

/-- The report on a channel, from the report on its file. -/
def physicalV2ChannelReport (checksumVerified : Bool)
    (report : CompactL2PhysicalV2CertificationReport) :
    CompactL2PhysicalV2ChannelCertificationReport where
  channelId := channel.channelId
  rowCount := report.rowCount
  rowGroupCount := report.rowGroupCount
  firstBizIndex := report.firstBizIndex
  lastBizIndex := report.lastBizIndex
  minReceiveNano := report.minReceiveNano.or (channel.minReceiveNano.map Int64.toInt)
  maxReceiveNano := report.maxReceiveNano.or (channel.maxReceiveNano.map Int64.toInt)
  orderRecordCount := report.orderRecordCount
  tradeRecordCount := report.tradeRecordCount
  requiredColumnCount := report.requiredColumnCount
  selectedColumnChunkCount := report.selectedColumnChunkCount
  selectedCompressedBytes := report.selectedCompressedBytes
  selectedUncompressedBytes := report.selectedUncompressedBytes
  legacyPayloadHashFnv1a64 := report.legacyPayloadHashFnv1a64
  checksumVerified := checksumVerified

end Steps

/-- What certifying the artifact of a channel in physical version 2 may return. -/
inductive CertifiesPhysicalV2ChannelArtifact {State : Type} (context : CertificationContext State)
    (tradingDay : UInt32) (channel : ChannelArtifactFactsV1)
    (options : CompactL2PhysicalV2ManifestCertificationOptions) :
    Result CompactL2PhysicalV2ChannelCertificationReport → Prop
  | unopened {error : ArcadiaTioError}
      (h : openManifestArtifactForCertification context channel options.verifyHashes =
        .error error) :
      CertifiesPhysicalV2ChannelArtifact context tradingDay channel options (.error error)
  | certified {artifact : OpenedManifestArtifact}
      {report : Result CompactL2PhysicalV2CertificationReport}
      (h : openManifestArtifactForCertification context channel options.verifyHashes =
        .ok artifact)
      (hfile : CertifiesCompactL2PhysicalV2File artifact.file context.zstd
        (options.forChannel channel tradingDay) context.limits report) :
      CertifiesPhysicalV2ChannelArtifact context tradingDay channel options (do
        let report ← report
        checkPhysicalV2Channel options channel report
        return physicalV2ChannelReport channel artifact.checksumVerified report)

/-! ### The report on the file -/

/-- The report that is made of the state behind the rows. -/
def physicalV2Report (options : CompactL2PhysicalV2CertificationOptions)
    (metadata : ColumnBundleMetadata) (certification : ColumnBundleReadPlanCertification)
    (state : PhysicalV2CertificationState) (legacyPayloadHashVerified : Bool) :
    CompactL2PhysicalV2CertificationReport where
  rowCount := metadata.rowCount
  rowGroupCount := metadata.rowGroupCount
  requiredColumnCount := compactL2PhysicalV2RequiredColumns.length
  selectedColumnChunkCount := (certification.rowGroups.map (·.chunks.length)).sum
  selectedCompressedBytes := certification.selectedCompressedBytes
  selectedUncompressedBytes := certification.selectedUncompressedBytes
  firstBizIndex := if options.verifyScalarContinuity then state.1.firstBizIndex else none
  lastBizIndex := if options.verifyScalarContinuity then state.1.lastBizIndex else none
  minReceiveNano := if options.verifyScalarContinuity then state.1.minReceiveNano else none
  maxReceiveNano := if options.verifyScalarContinuity then state.1.maxReceiveNano else none
  orderRecordCount := if options.verifyScalarContinuity then some state.1.orderRows else none
  tradeRecordCount := if options.verifyScalarContinuity then some state.1.tradeRows else none
  legacyPayloadHashFnv1a64 := state.2.map CompactL2Fnv1a64.finishHex
  legacyPayloadHashVerified := legacyPayloadHashVerified
  pathRedacted := true
  writesTransformedArtifacts := false

/-- When no hash is expected, the checks behind the rows compare the count and the range. -/
lemma finishPhysicalV2Certification_unhashed {options : CompactL2PhysicalV2CertificationOptions}
    {metadata : ColumnBundleMetadata} {certification : ColumnBundleReadPlanCertification}
    {state : PhysicalV2CertificationState} {report : CompactL2PhysicalV2CertificationReport}
    (hhash : options.expectedLegacyPayloadHashFnv1a64 = none) :
    finishPhysicalV2Certification options metadata certification state = .ok report ↔
      state.1.rows = metadata.rowCount.toNat ∧
      (∀ expected ∈ options.expectedFirstBizIndex,
        state.1.firstBizIndex = some expected.toNat) ∧
      (∀ expected ∈ options.expectedLastBizIndex, state.1.lastBizIndex = some expected.toNat) ∧
      report = physicalV2Report options metadata certification state false := by
  have hverify : verifyLegacyPayloadHash (state.2.map CompactL2Fnv1a64.finishHex)
      options.expectedLegacyPayloadHashFnv1a64 = .ok false := by
    rw [hhash]
    cases state.2 <;> rfl
  have hbound : ∀ {given : Option UInt64} {found : Option ℕ},
      (∀ value ∈ given.map fun expected => some expected.toNat, found = value) ↔
        ∀ expected ∈ given, found = some expected.toNat := by
    intro given found
    cases given <;> simp
  constructor
  · intro h
    obtain ⟨hrows, hfirst, hlast, -⟩ := finishPhysicalV2Certification_eq_ok h
    refine ⟨hrows, hfirst, hlast, ?_⟩
    rw [finishPhysicalV2Certification, failIf_neg (not_not.mpr hrows), ok_bind,
      checkExpected_eq_ok.mpr (hbound.mpr hfirst), ok_bind,
      checkExpected_eq_ok.mpr (hbound.mpr hlast), ok_bind] at h
    dsimp only at h
    rw [hverify, ok_bind] at h
    exact (Except.ok.inj h).symm
  · rintro ⟨hrows, hfirst, hlast, rfl⟩
    rw [finishPhysicalV2Certification, failIf_neg (not_not.mpr hrows), ok_bind,
      checkExpected_eq_ok.mpr (hbound.mpr hfirst), ok_bind,
      checkExpected_eq_ok.mpr (hbound.mpr hlast), ok_bind]
    dsimp only
    rw [hverify]
    rfl

/-! ### The checks of the report -/

section Checks

variable {options : CompactL2PhysicalV2ManifestCertificationOptions}
  {channel : ChannelArtifactFactsV1} {tradingDay : UInt32} {metadata : ColumnBundleMetadata}
  {certification : ColumnBundleReadPlanCertification} {hash : Option CompactL2Fnv1a64}
  {rows : List CompactL2Scalars}

lemma checkPhysicalV2ChannelFacts_eq_ok {report : CompactL2PhysicalV2CertificationReport} :
    checkPhysicalV2ChannelFacts channel report = .ok () ↔
      (∀ expected ∈ channel.minReceiveNano, report.minReceiveNano = some expected.toInt) ∧
      (∀ expected ∈ channel.maxReceiveNano, report.maxReceiveNano = some expected.toInt) ∧
      (∀ expected ∈ channel.orderRecordCount, report.orderRecordCount = some expected.toNat) ∧
      (∀ expected ∈ channel.tradeRecordCount, report.tradeRecordCount = some expected.toNat) := by
  have hcompare : ∀ {α β : Type} [DecidableEq β] {given : Option α} {found : Option β}
      {value : α → β} {error : Option β → ArcadiaTioError},
      checkExpected (given.map fun expected => some (value expected)) found error = .ok () ↔
        ∀ expected ∈ given, found = some (value expected) := by
    intro α β _ given found value error
    rw [checkExpected_eq_ok]
    cases given <;> simp
  constructor
  · intro h
    obtain ⟨_, hmin, h⟩ := bind_eq_ok.mp h
    obtain ⟨_, hmax, h⟩ := bind_eq_ok.mp h
    obtain ⟨_, horders, htrades⟩ := bind_eq_ok.mp h
    exact ⟨hcompare.mp hmin, hcompare.mp hmax, hcompare.mp horders, hcompare.mp htrades⟩
  · rintro ⟨hmin, hmax, horders, htrades⟩
    rw [checkPhysicalV2ChannelFacts, hcompare.mpr hmin, ok_bind, hcompare.mpr hmax, ok_bind,
      hcompare.mpr horders, ok_bind, hcompare.mpr htrades]

/-- The optional facts are compared only behind a scan. -/
lemma checkPhysicalV2Channel_eq_ok {report : CompactL2PhysicalV2CertificationReport} :
    checkPhysicalV2Channel options channel report = .ok () ↔
      (channel.rowGroupCount = 0 ∨ report.rowGroupCount = channel.rowGroupCount) ∧
      (options.verifyScalarContinuity = true →
        checkPhysicalV2ChannelFacts channel report = .ok ()) := by
  have hgroups : ¬ (channel.rowGroupCount ≠ 0 ∧ report.rowGroupCount ≠ channel.rowGroupCount) ↔
      channel.rowGroupCount = 0 ∨ report.rowGroupCount = channel.rowGroupCount := by
    rw [not_and_or, not_not, not_not]
  have hfacts : (if options.verifyScalarContinuity then checkPhysicalV2ChannelFacts channel report
      else .ok ()) = .ok () ↔ (options.verifyScalarContinuity = true →
        checkPhysicalV2ChannelFacts channel report = .ok ()) := by
    cases options.verifyScalarContinuity <;> simp
  rw [← hgroups, ← hfacts]
  constructor
  · intro h
    obtain ⟨_, hgroup, h⟩ := bind_eq_ok.mp h
    exact ⟨failIf_eq_ok.mp hgroup, h⟩
  · rintro ⟨hgroup, h⟩
    rw [checkPhysicalV2Channel, failIf_neg hgroup, ok_bind, h]

/-- The rows of views have BizIndexes of 64 bits. -/
lemma bizIndex_lt_of_mem_scalarsOf {views : List CompactL2PhysicalV2BatchView}
    {row : CompactL2Scalars} (hrow : row ∈ scalarsOf views) : row.bizIndex < 2 ^ 63 := by
  obtain ⟨view, -, hrow⟩ := List.mem_flatMap.mp hrow
  obtain ⟨i, -, rfl⟩ := List.mem_map.mp hrow
  exact Int64.toInt_lt _

/-- What is checked of the rows behind the metadata: with the scan, that they are those of the
manifest, else only how many they are. -/
def PhysicalV2ChannelRows (options : CompactL2PhysicalV2ManifestCertificationOptions)
    (channel : ChannelArtifactFactsV1) (tradingDay : UInt32) (rows : List CompactL2Scalars) :
    Prop :=
  if options.verifyScalarContinuity then RecordRows rows ∧ channel.Describes tradingDay rows
  else rows.length = channel.rowCount.toNat

/-- The scan, the checks behind it and those of the report together. -/
lemma physicalV2ChannelRows_iff (hbound : ∀ row ∈ rows, row.bizIndex < 2 ^ 63)
    (hcount : metadata.rowCount = channel.rowCount)
    {report : CompactL2PhysicalV2CertificationReport} :
    (PhysicalV2Scanned (options.forChannel channel tradingDay) rows ∧
        finishPhysicalV2Certification (options.forChannel channel tradingDay) metadata
          certification (physicalV2ScanOf (options.forChannel channel tradingDay) rows, hash) =
            .ok report ∧
        checkPhysicalV2Channel options channel report = .ok ()) ↔
      PhysicalV2ChannelRows options channel tradingDay rows ∧
        (channel.rowGroupCount = 0 ∨ metadata.rowGroupCount = channel.rowGroupCount) ∧
        report = physicalV2Report (options.forChannel channel tradingDay) metadata certification
          (physicalV2ScanOf (options.forChannel channel tradingDay) rows, hash) false := by
  have hfinish := @finishPhysicalV2Certification_unhashed
    (options.forChannel channel tradingDay) metadata certification
    (physicalV2ScanOf (options.forChannel channel tradingDay) rows, hash) report rfl
  rw [hfinish, physicalV2ScanOf_rows, hcount, checkPhysicalV2Channel_eq_ok]
  -- without the scan the options expect nothing of the rows but their number
  cases hverify : options.verifyScalarContinuity with
  | false =>
    have hoptions : ¬ options.verifyScalarContinuity = true := by
      rw [hverify]
      exact Bool.false_ne_true
    have hscanned : PhysicalV2Scanned (options.forChannel channel tradingDay) rows ↔
        rows.length < 2 ^ 64 := iff_of_eq (if_neg hoptions)
    have hfirst : (options.forChannel channel tradingDay).expectedFirstBizIndex = none :=
      if_neg hoptions
    have hlast : (options.forChannel channel tradingDay).expectedLastBizIndex = none :=
      if_neg hoptions
    rw [hscanned, hfirst, hlast, PhysicalV2ChannelRows, if_neg hoptions]
    constructor
    · rintro ⟨-, ⟨hrows, -, -, rfl⟩, hgroup, -⟩
      exact ⟨hrows, hgroup, rfl⟩
    · rintro ⟨hrows, hgroup, rfl⟩
      refine ⟨hrows ▸ channel.rowCount.toNat_lt, ⟨hrows, ?_, ?_, rfl⟩, hgroup, ?_⟩
      · rintro _ ⟨⟩
      · rintro _ ⟨⟩
      · exact fun h => absurd h Bool.false_ne_true
  | true =>
    have hoptions : (options.forChannel channel tradingDay).verifyScalarContinuity = true := hverify
    have hexpects : (options.forChannel channel tradingDay).ExpectsFacts channel tradingDay :=
      ⟨if_pos hverify, if_pos hverify, if_pos hverify, if_pos hverify⟩
    have hscanOf : physicalV2ScanOf (options.forChannel channel tradingDay) rows = .ofRows rows :=
      if_pos hoptions
    have hscanned : PhysicalV2Scanned (options.forChannel channel tradingDay) rows ↔
        PhysicalV2Accepts (options.forChannel channel tradingDay) rows :=
      iff_of_eq (if_pos hoptions)
    rw [hscanned, hscanOf, hexpects.firstBizIndex, hexpects.lastBizIndex, PhysicalV2ChannelRows,
      if_pos hverify]
    constructor
    · rintro ⟨haccepts, ⟨hrows, hfirst, hlast, rfl⟩, hgroup, hfacts⟩
      obtain ⟨hmin, hmax, horders, htrades⟩ := checkPhysicalV2ChannelFacts_eq_ok.mp (hfacts rfl)
      simp only [physicalV2Report, hoptions, if_true, Option.some.injEq] at hmin hmax horders htrades
      have hrecords : RecordRows rows := ⟨fun row hrow => (haccepts.row row hrow).recordKind, hbound⟩
      exact ⟨⟨hrecords, (describes_iff_physicalV2Accepts hexpects hrecords).mpr ⟨haccepts,
        hrows, hfirst _ rfl, hlast _ rfl, hmin, hmax, horders, htrades⟩⟩, hgroup, rfl⟩
    · rintro ⟨⟨hrecords, hdescribes⟩, hgroup, rfl⟩
      obtain ⟨haccepts, hagrees⟩ := (describes_iff_physicalV2Accepts hexpects hrecords).mp hdescribes
      refine ⟨haccepts, ⟨hagrees.rows, ?_, ?_, rfl⟩, hgroup, fun _ => ?_⟩
      · rintro _ ⟨⟩
        exact hagrees.firstBizIndex
      · rintro _ ⟨⟩
        exact hagrees.lastBizIndex
      · rw [checkPhysicalV2ChannelFacts_eq_ok]
        simp only [physicalV2Report, hoptions, if_true, Option.some.injEq]
        exact ⟨hagrees.minReceiveNano, hagrees.maxReceiveNano, hagrees.orderRecordCount,
          hagrees.tradeRecordCount⟩

end Checks

/-! ### What a certification says -/

/-- The artifact of a channel can be read in physical version 2, and its row groups are decoded to
the views. -/
structure HoldsLanes {State : Type} (context : CertificationContext State) (tradingDay : UInt32)
    (channel : ChannelArtifactFactsV1) (options : CompactL2PhysicalV2ManifestCertificationOptions)
    (artifact : OpenedManifestArtifact) (metadata : ColumnBundleMetadata)
    (plan : ColumnBundleReadPlan) (certification : ColumnBundleReadPlanCertification)
    (views : List CompactL2PhysicalV2BatchView) (hash : Option CompactL2Fnv1a64) : Prop where
  opens : OpensArtifact context channel options.verifyHashes artifact
  prepared : preparePhysicalV2Certification (options.forChannel channel tradingDay)
    artifact.file = .ok (metadata, plan, certification)
  rowGroupCount : channel.rowGroupCount = 0 ∨ metadata.rowGroupCount = channel.rowGroupCount
  admitted : ∀ wave ∈ waves (max options.maxInFlightRowGroups 1) plan.rowGroupIds,
    validateOwnedPlanResourceLimits artifact.file.metadata (plan.ofSelected wave) = .ok ()
  decoded : artifact.file.compactL2PhysicalV2Views context.zstd = .ok views
  hashed : PhysicalV2Hashed (options.forChannel channel tradingDay) context.limits views hash

/-- What the certification of a channel in physical version 2 has found: the views of the artifact,
and that their rows are what is asked of them. -/
structure PhysicalV2ChannelCertificate {State : Type} (context : CertificationContext State)
    (tradingDay : UInt32) (channel : ChannelArtifactFactsV1)
    (options : CompactL2PhysicalV2ManifestCertificationOptions) (artifact : OpenedManifestArtifact)
    (metadata : ColumnBundleMetadata) (plan : ColumnBundleReadPlan)
    (certification : ColumnBundleReadPlanCertification)
    (views : List CompactL2PhysicalV2BatchView) (hash : Option CompactL2Fnv1a64)
    (report : CompactL2PhysicalV2ChannelCertificationReport) : Prop extends
    HoldsLanes context tradingDay channel options artifact metadata plan certification views
      hash where
  rows : PhysicalV2ChannelRows options channel tradingDay (scalarsOf views)
  report : report = physicalV2ChannelReport channel artifact.checksumVerified
    (physicalV2Report (options.forChannel channel tradingDay) metadata certification
      (physicalV2ScanOf (options.forChannel channel tradingDay) (scalarsOf views), hash) false)

/-- The metadata of a prepared certification has the expected row count. -/
lemma rowCount_of_prepared {file : ColumnBundleFile}
    {options : CompactL2PhysicalV2CertificationOptions} {metadata : ColumnBundleMetadata}
    {plan : ColumnBundleReadPlan} {certification : ColumnBundleReadPlanCertification}
    (h : preparePhysicalV2Certification options file = .ok (metadata, plan, certification)) :
    ∀ expected ∈ options.expectedRowCount, metadata.rowCount = expected := by
  obtain ⟨_, -, h⟩ := bind_eq_ok.mp h
  obtain ⟨metadata', -, h⟩ := bind_eq_ok.mp h
  obtain ⟨_, hcount, h⟩ := bind_eq_ok.mp h
  obtain ⟨_, -, h⟩ := bind_eq_ok.mp h
  obtain ⟨plan', -, h⟩ := bind_eq_ok.mp h
  obtain ⟨certification', -, h⟩ := bind_eq_ok.mp h
  obtain ⟨_, -, h⟩ := bind_eq_ok.mp h
  cases h
  exact checkExpected_eq_ok.mp hcount

/-- The artifact of a channel is certified in physical version 2 exactly when it can be prepared and
decoded and its rows are what is asked of them. -/
theorem certifiesPhysicalV2ChannelArtifact_iff {State : Type} {context : CertificationContext State}
    {tradingDay : UInt32} {channel : ChannelArtifactFactsV1}
    {options : CompactL2PhysicalV2ManifestCertificationOptions}
    {report : CompactL2PhysicalV2ChannelCertificationReport}
    (hfault : ∀ source, context.resolver channel.relativePath = .ok source → source.FaultFree) :
    CertifiesPhysicalV2ChannelArtifact context tradingDay channel options (.ok report) ↔
      ∃ artifact metadata plan certification views hash, PhysicalV2ChannelCertificate context
        tradingDay channel options artifact metadata plan certification views hash report := by
  have hbound : ∀ {views}, ∀ row ∈ scalarsOf views, row.bizIndex < 2 ^ 63 :=
    fun row hrow => bizIndex_lt_of_mem_scalarsOf hrow
  constructor
  · intro hcertifies
    generalize hresult : (.ok report : Result CompactL2PhysicalV2ChannelCertificationReport) =
      result at hcertifies
    cases hcertifies with
    | unopened _ => cases hresult
    | @certified artifact fileReport hopen hfile =>
      have hopens := (openManifestArtifact_eq_ok hfault).mp hopen
      obtain ⟨source, hsource, hopened⟩ := hopens.opened
      obtain ⟨found, rfl, hchecked⟩ := bind_eq_ok.mp hresult.symm
      obtain ⟨_, hcheck, hreport⟩ := bind_eq_ok.mp hchecked
      obtain ⟨metadata, plan, certification, views, hash, hcertificate⟩ :=
        (certifiesCompactL2PhysicalV2File_eq_ok_iff
          (ColumnBundleFile.opened_of_openFromSource hopened)).mp hfile
      have hcount := rowCount_of_prepared hcertificate.prepared _ rfl
      obtain ⟨hrows, hgroups, rfl⟩ := (physicalV2ChannelRows_iff hbound hcount).mp
        ⟨hcertificate.scanned, hcertificate.finished, hcheck⟩
      exact ⟨artifact, metadata, plan, certification, views, hash, ⟨hopens, hcertificate.prepared,
        hgroups, hcertificate.admitted, hcertificate.decoded, hcertificate.hashed⟩, hrows,
        (Except.ok.inj hreport).symm⟩
  · rintro ⟨artifact, metadata, plan, certification, views, hash, hcertificate⟩
    obtain ⟨source, hsource, hopened⟩ := hcertificate.opens.opened
    have hcount := rowCount_of_prepared hcertificate.prepared _ rfl
    obtain ⟨hscanned, hfinished, hcheck⟩ := (physicalV2ChannelRows_iff hbound hcount).mpr
      ⟨hcertificate.rows, hcertificate.rowGroupCount, rfl⟩
    have hfile := (certifiesCompactL2PhysicalV2File_eq_ok_iff
      (ColumnBundleFile.opened_of_openFromSource hopened)).mpr ⟨metadata, plan, certification,
        views, hash, hcertificate.prepared, hcertificate.admitted, hcertificate.decoded, hscanned,
        hcertificate.hashed, hfinished⟩
    have hcertifies := CertifiesPhysicalV2ChannelArtifact.certified
      ((openManifestArtifact_eq_ok hfault).mpr hcertificate.opens) hfile
    rw [ok_bind, hcheck, ok_bind, pure_eq_ok] at hcertifies
    rw [hcertificate.report]
    exact hcertifies

end ArcadiaTio.Ocb
