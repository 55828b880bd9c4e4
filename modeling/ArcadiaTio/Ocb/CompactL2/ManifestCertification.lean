import ArcadiaTio.Lib.InTurn
import ArcadiaTio.Ocb.CompactL2.CertificationAgreement

/-!
# Certifying a manifest

Both certifiers of manifests validate the manifest, compare its format, its payload width and its
rows with their options, and certify the artifacts of its channels in order until one fails.  A
manifest is certified exactly when all of its channels are, and then nothing overflows in the totals
of the report (`certifiesManifest_eq_ok`); otherwise it fails with the error of the first check or
channel that fails (`certifiesManifest_eq_error`).
-/

namespace ArcadiaTio.Ocb

open ArcadiaTio.Lib

/-! ### Manifests and reports -/

/-- A manifest with the facts that only a certification looks at. -/
structure ChannelShardedManifestFactsV1 where
  schemaVersion : UInt16
  tradingDay : UInt32
  artifactFormat : String
  payloadWidthBytes : Option UInt32
  selectionScope : Option String
  channelIndivisible : Option Bool
  counts : ChannelShardedManifestCountsV1
  channels : List ChannelArtifactFactsV1
  claims : ChannelShardedManifestClaimsV1

namespace ChannelShardedManifestFactsV1

variable (m : ChannelShardedManifestFactsV1)

/-- What `validate` looks at. -/
def entries : ChannelShardedManifestV1 where
  schemaVersion := m.schemaVersion
  tradingDay := m.tradingDay
  artifactFormat := m.artifactFormat
  selectionScope := m.selectionScope
  channelIndivisible := m.channelIndivisible
  counts := m.counts
  channels := m.channels.map ChannelArtifactFactsV1.toChannelArtifactEntryV1
  claims := m.claims

/-- The rows of all channels. -/
def rowTotal : ℕ := (m.channels.map (·.rowCount.toNat)).sum

lemma rowCounts_entries : m.entries.rowCounts = m.channels.map (·.rowCount.toNat) := by
  rw [ChannelShardedManifestV1.rowCounts, entries, List.map_map]
  rfl

end ChannelShardedManifestFactsV1

/-- Path-free certification summary. -/
structure SafeCertificationSummary where
  schemaVersion : UInt16
  tradingDay : UInt32
  artifactFormat : String
  channelCount : ℕ
  rowCount : ℕ
  rowGroupCount : ℕ
  certified : Bool
  pathRedacted : Bool

/-- The report on a manifest, with the reports on its channels. -/
structure ManifestCertificationReport (ρ : Type) where
  schemaVersion : UInt16
  channelCount : ℕ
  rowCount : ℕ
  rowGroupCount : ℕ
  failedChannelCount : ℕ
  channelReports : List ρ
  safeSummary : SafeCertificationSummary

/-- The report of a manifest whose artifacts hold payload records. -/
abbrev CertificationReport := ManifestCertificationReport ChannelCertificationReport

/-- The report of a manifest whose artifacts hold typed columns. -/
abbrev CompactL2PhysicalV2ManifestCertificationReport :=
  ManifestCertificationReport CompactL2PhysicalV2ChannelCertificationReport

/-- The report with these totals. -/
def ManifestCertificationReport.of {ρ : Type} (m : ChannelShardedManifestFactsV1)
    (reports : List ρ) (rowCount rowGroupCount : ℕ) : ManifestCertificationReport ρ where
  schemaVersion := m.schemaVersion
  channelCount := reports.length
  rowCount := rowCount
  rowGroupCount := rowGroupCount
  failedChannelCount := 0
  channelReports := reports
  safeSummary := {
    schemaVersion := m.schemaVersion, tradingDay := m.tradingDay
    artifactFormat := m.artifactFormat, channelCount := reports.length
    rowCount, rowGroupCount, certified := true, pathRedacted := true }

/-- The report on certified channels; `none` when a total overflows. -/
def manifestReport {ρ : Type} (counts : ρ → ChannelReportCounts)
    (m : ChannelShardedManifestFactsV1) (reports : List ρ) :
    Option (ManifestCertificationReport ρ) := do
  let (rowCount, rowGroupCount) ← certificationTotals (reports.map counts)
  return .of m reports rowCount rowGroupCount

/-! ### The checks of the manifest -/

/-- What a certifier compares a manifest with, and how it says what differs. -/
structure ManifestChecks where
  artifactFormat : String
  formatMismatch : String
  recordWidth : UInt32
  widthMismatch : UInt32 → String
  rowTotalOverflow : String
  maxRows : Option UInt64
  rowsExceed : ℕ → UInt64 → String

/-- The checks of a manifest before its channels are certified. -/
def ManifestChecks.check (checks : ManifestChecks) (m : ChannelShardedManifestFactsV1) :
    Result Unit := do
  m.entries.validate
  failIf (m.artifactFormat ≠ checks.artifactFormat)
    (ocbDiagnostic .unsupportedFormat checks.formatMismatch)
  checkExpected m.payloadWidthBytes checks.recordWidth fun observed =>
    ocbDiagnostic .fixedBinaryWidthMismatch (checks.widthMismatch observed)
  let rows ← manifestRowTotal m.entries (ocbDiagnostic .rowCountMismatch checks.rowTotalOverflow)
  failIf (checks.maxRows.any (·.toNat < rows))
    (ocbDiagnostic .rowCountMismatch (checks.rowsExceed rows (checks.maxRows.getD 0)))

/-- What the options ask of the manifest. -/
def CertificationOptions.manifestChecks (options : CertificationOptions) : ManifestChecks where
  artifactFormat := options.artifactFormat
  formatMismatch := "channel-sharded OCB artifact format does not match certification options"
  recordWidth := options.expectedRecordWidth
  widthMismatch observed := s!"channel-sharded OCB manifest payload width mismatch: " ++
    s!"expected={options.expectedRecordWidth} observed={observed}"
  rowTotalOverflow := "channel-sharded OCB manifest row total overflows"
  maxRows := options.maxRows
  rowsExceed rows maxRows := s!"channel-sharded OCB manifest rows exceed max_rows: " ++
    s!"rows={rows} max_rows={maxRows}"

/-- What the options ask of the manifest. -/
def CompactL2PhysicalV2ManifestCertificationOptions.manifestChecks
    (options : CompactL2PhysicalV2ManifestCertificationOptions) : ManifestChecks where
  artifactFormat := options.artifactFormat
  formatMismatch :=
    "compact-L2 physical-v2 manifest artifact format does not match certification options"
  recordWidth := compactL2FixedBinaryRecordWidthV1.toUInt32
  widthMismatch observed := s!"compact-L2 physical-v2 manifest legacy payload width mismatch: " ++
    s!"expected={compactL2FixedBinaryRecordWidthV1} observed={observed}"
  rowTotalOverflow := "compact-L2 physical-v2 manifest row total overflows"
  maxRows := options.maxRows
  rowsExceed rows maxRows := s!"compact-L2 physical-v2 manifest rows exceed max_rows: " ++
    s!"rows={rows} max_rows={maxRows}"

/-! ### The certifiers -/

/-- What certifying a manifest may return, when certifying a channel may return `certifies`. -/
inductive CertifiesManifest {ρ : Type} (checks : ManifestChecks) (counts : ρ → ChannelReportCounts)
    (certifies : ChannelArtifactFactsV1 → Result ρ → Prop) (m : ChannelShardedManifestFactsV1) :
    Result (ManifestCertificationReport ρ) → Prop
  | refused {error : ArcadiaTioError} (h : checks.check m = .error error) :
      CertifiesManifest checks counts certifies m (.error error)
  | failed {error : ArcadiaTioError} (h : checks.check m = .ok ())
      (hchannels : InTurn certifies m.channels (.error error)) :
      CertifiesManifest checks counts certifies m (.error error)
  | certified {reports : List ρ} {report : ManifestCertificationReport ρ}
      (h : checks.check m = .ok ()) (hchannels : InTurn certifies m.channels (.ok reports))
      (hreport : manifestReport counts m reports = some report) :
      CertifiesManifest checks counts certifies m (.ok report)

/-- What a channel adds to the totals. -/
def ChannelCertificationReport.counts (report : ChannelCertificationReport) :
    ChannelReportCounts := ⟨report.rowCount, report.rowGroupCount⟩

/-- What a channel adds to the totals. -/
def CompactL2PhysicalV2ChannelCertificationReport.counts
    (report : CompactL2PhysicalV2ChannelCertificationReport) : ChannelReportCounts :=
  ⟨report.rowCount, report.rowGroupCount⟩

section Certifiers

variable {State : Type} (context : CertificationContext State) (m : ChannelShardedManifestFactsV1)

/-- Certify a manifest of version 1. -/
def CertifiesChannelShardedArtifactV1 (options : CertificationOptions) :
    Result CertificationReport → Prop :=
  CertifiesManifest options.manifestChecks ChannelCertificationReport.counts
    (fun channel => CertifiesChannelArtifact context m.tradingDay channel options) m

/-- Certify a manifest of physical version 2. -/
def CertifiesCompactL2PhysicalV2Manifest
    (options : CompactL2PhysicalV2ManifestCertificationOptions) :
    Result CompactL2PhysicalV2ManifestCertificationReport → Prop :=
  CertifiesManifest options.manifestChecks CompactL2PhysicalV2ChannelCertificationReport.counts
    (fun channel => CertifiesPhysicalV2ChannelArtifact context m.tradingDay channel options) m

end Certifiers

/-! ### What the certifiers accept -/

/-- The checks of a manifest pass. -/
structure ManifestChecks.Accepts (checks : ManifestChecks) (m : ChannelShardedManifestFactsV1) :
    Prop where
  valid : m.entries.validate = .ok ()
  artifactFormat : m.artifactFormat = checks.artifactFormat
  payloadWidth : ∀ width ∈ m.payloadWidthBytes, width = checks.recordWidth
  maxRows : ∀ bound ∈ checks.maxRows, m.rowTotal ≤ bound.toNat

section Manifest

variable {ρ : Type} {checks : ManifestChecks} {counts : ρ → ChannelReportCounts}
  {certifies : ChannelArtifactFactsV1 → Result ρ → Prop} {m : ChannelShardedManifestFactsV1}
  {report : ManifestCertificationReport ρ} {reports : List ρ}

lemma check_eq_ok : checks.check m = .ok () ↔ checks.Accepts m := by
  have htotal : m.entries.validate = .ok () → ∀ overflow,
      manifestRowTotal m.entries overflow = .ok m.rowTotal := by
    intro hvalid overflow
    obtain ⟨totals, haccepted⟩ := ChannelShardedManifestV1.accepted_of_validate hvalid
    have hsum := checkedSum_of_lt haccepted.rowCounts_lt
    rw [ChannelShardedManifestV1.rowCounts] at hsum
    rw [manifestRowTotal, hsum, okOr_some, ← ChannelShardedManifestV1.rowCounts,
      m.rowCounts_entries]
    rfl
  have hwidth : (∀ width ∈ m.payloadWidthBytes, checks.recordWidth = width) ↔
      ∀ width ∈ m.payloadWidthBytes, width = checks.recordWidth :=
    forall₂_congr fun _ _ => eq_comm
  have hbound : (¬ checks.maxRows.any (fun bound => decide (bound.toNat < m.rowTotal)) = true) ↔
      ∀ bound ∈ checks.maxRows, m.rowTotal ≤ bound.toNat := by
    cases checks.maxRows <;> simp
  constructor
  · intro h
    obtain ⟨_, hvalid, h⟩ := bind_eq_ok.mp h
    obtain ⟨_, hformat, h⟩ := bind_eq_ok.mp h
    obtain ⟨_, hwidths, h⟩ := bind_eq_ok.mp h
    obtain ⟨rows, hrows, h⟩ := bind_eq_ok.mp h
    rw [failIf_eq_ok, not_not] at hformat
    rw [checkExpected_eq_ok, hwidth] at hwidths
    obtain rfl := Except.ok.inj ((htotal hvalid _).symm.trans hrows)
    rw [failIf_eq_ok, hbound] at h
    exact ⟨hvalid, hformat, hwidths, h⟩
  · intro h
    rw [ManifestChecks.check, h.valid, ok_bind, failIf_neg (not_not.mpr h.artifactFormat), ok_bind,
      checkExpected_eq_ok.mpr (hwidth.mpr h.payloadWidth), ok_bind, htotal h.valid, ok_bind,
      failIf_neg (hbound.mpr h.maxRows)]

/-- The totals of the reports on all channels do not overflow. -/
lemma manifestReport_eq_some (hvalid : m.entries.validate = .ok ())
    (hrows : List.Forall₂ (fun (channel : ChannelArtifactFactsV1) r =>
      (counts r).rowCount = channel.rowCount) m.channels reports) :
    manifestReport counts m reports = some (.of m reports m.rowTotal
      (reports.map fun r => (counts r).rowGroupCount.toNat).sum) := by
  obtain ⟨totals, haccepted⟩ := ChannelShardedManifestV1.accepted_of_validate hvalid
  have hsame : (reports.map counts).map (·.rowCount.toNat) = m.entries.rowCounts := by
    have hcounts : List.Forall₂ Eq (m.channels.map fun channel => channel.rowCount.toNat)
        (reports.map fun r => (counts r).rowCount.toNat) := by
      rw [List.forall₂_map_left_iff, List.forall₂_map_right_iff]
      exact hrows.imp fun channel r h => (congrArg UInt64.toNat h).symm
    rw [List.forall₂_eq_eq_eq] at hcounts
    rw [m.rowCounts_entries, hcounts, List.map_map]
    rfl
  have htotals := haccepted.reportTotals hsame
  rw [manifestReport, htotals, m.rowCounts_entries, List.map_map]
  rfl

/-- A manifest is certified exactly when its checks pass and all of its channels are certified. -/
theorem certifiesManifest_eq_ok (hrows : ∀ channel ∈ m.channels, ∀ r,
      certifies channel (.ok r) → (counts r).rowCount = channel.rowCount) :
    CertifiesManifest checks counts certifies m (.ok report) ↔
      checks.Accepts m ∧ ∃ reports,
        List.Forall₂ (fun channel r => certifies channel (.ok r)) m.channels reports ∧
        report = .of m reports m.rowTotal
          (reports.map fun r => (counts r).rowGroupCount.toNat).sum := by
  have hcounts : ∀ reports,
      List.Forall₂ (fun channel r => certifies channel (.ok r)) m.channels reports →
      List.Forall₂ (fun (channel : ChannelArtifactFactsV1) r =>
        (counts r).rowCount = channel.rowCount) m.channels reports := by
    exact fun reports => forall₂_imp_of_mem hrows
  constructor
  · intro h
    generalize hresult : (.ok report : Result (ManifestCertificationReport ρ)) = result at h
    cases h with
    | refused _ => cases hresult
    | failed _ _ => cases hresult
    | @certified reports found h hchannels hreport =>
      obtain rfl := Except.ok.inj hresult
      have haccepts := check_eq_ok.mp h
      have hreports := inTurn_eq_ok.mp hchannels
      rw [manifestReport_eq_some haccepts.valid (hcounts reports hreports)] at hreport
      exact ⟨haccepts, reports, hreports, (Option.some.inj hreport).symm⟩
  · rintro ⟨haccepts, reports, hreports, rfl⟩
    exact .certified (check_eq_ok.mpr haccepts) (inTurn_eq_ok.mpr hreports)
      (manifestReport_eq_some haccepts.valid (hcounts reports hreports))

/-- A manifest fails with the error of its checks, or with that of the first channel that is not
certified. -/
theorem certifiesManifest_eq_error {error : ArcadiaTioError} :
    CertifiesManifest checks counts certifies m (.error error) ↔
      checks.check m = .error error ∨ checks.Accepts m ∧
        ∃ before channel after reports, m.channels = before ++ channel :: after ∧
          List.Forall₂ (fun channel r => certifies channel (.ok r)) before reports ∧
          certifies channel (.error error) := by
  rw [← check_eq_ok, ← inTurn_eq_error]
  constructor
  · intro h
    cases h with
    | refused h => exact .inl h
    | failed h hchannels => exact .inr ⟨h, hchannels⟩
  · rintro (h | ⟨h, hchannels⟩)
    · exact .refused h
    · exact .failed h hchannels

end Manifest

/-! ### Both layouts -/

/-- A manifest with two channels. -/
def Sample.pairManifest (artifactFormat : String) : ChannelShardedManifestFactsV1 where
  schemaVersion := 1
  tradingDay := 20240102
  artifactFormat := artifactFormat
  payloadWidthBytes := some 168
  selectionScope := some "declared-subset"
  channelIndivisible := some true
  counts := ⟨some 2, some 4, some 2, some 2⟩
  channels := [channelOf false, channelOf true]
  claims := ⟨false, false, false⟩

lemma Sample.accepts_payloadOptions :
    payloadOptions.manifestChecks.Accepts (pairManifest "compact-fixed-binary-l2-v1") where
  valid := by decide +kernel
  artifactFormat := rfl
  payloadWidth := by rintro _ ⟨⟩; rfl
  maxRows := by rintro _ ⟨⟩

lemma Sample.accepts_lanesOptions :
    lanesOptions.manifestChecks.Accepts (pairManifest "compact-l2-physical-v2") where
  valid := by decide +kernel
  artifactFormat := rfl
  payloadWidth := by rintro _ ⟨⟩; rfl
  maxRows := by rintro _ ⟨⟩

lemma Sample.rows_recordsOf (other : Bool) : PhysicalV2ChannelRows lanesOptions (channelOf other)
    20240102 (scalarsOf [.ofRecords (recordsOf other)]) := by
  rw [PhysicalV2ChannelRows, scalarsOf_recordsOf,
    if_pos (show lanesOptions.verifyScalarContinuity = true from rfl)]
  exact ⟨recordRows_scalars _, describes_recordsOf other⟩

lemma Sample.exists_certificate (other : Bool) : ∃ report artifact column groups,
    ChannelCertificate (contextOf fun other =>
      (payloadTableOf other).source (small_payloadTableOf other)) 20240102 (channelOf other)
      payloadOptions artifact column groups report := by
  refine ⟨_, _, _, _, holdsPayloads_recordsOf other, ?_, rfl⟩
  rw [payloadRows, List.flatten_singleton]
  exact describes_recordsOf other

/-- The entry of a channel without what only a scan can find, and with a wrong count of trades. -/
def Sample.unscannedChannel (other : Bool) : ChannelArtifactFactsV1 :=
  { channelOf other with
    orderRecordCount := none, tradeRecordCount := some 0
    minReceiveNano := none, maxReceiveNano := none }

/-- The manifest of both channels without what only a scan can find. -/
def Sample.unscannedManifest : ChannelShardedManifestFactsV1 :=
  { pairManifest "compact-fixed-binary-l2-v1" with
    payloadWidthBytes := none
    counts := ⟨none, none, none, none⟩
    channels := [unscannedChannel false, unscannedChannel true] }

/-- The scan is switched off. -/
def Sample.unscannedOptions : CertificationOptions :=
  { payloadOptions with verifyPayloadHeader := false }

lemma Sample.accepts_unscannedOptions :
    unscannedOptions.manifestChecks.Accepts unscannedManifest where
  valid := by decide +kernel
  artifactFormat := rfl
  payloadWidth := by rintro _ ⟨⟩
  maxRows := by rintro _ ⟨⟩

/-- What becomes of a channel that is not scanned. -/
lemma Sample.exists_unscanned (other : Bool) : ∃ report,
    (∃ artifact column,
      OpensArtifact (contextOf fun other => (payloadTableOf other).source
        (small_payloadTableOf other)) (unscannedChannel other) unscannedOptions.verifyHashes
        artifact ∧
      PreparedChannel artifact.file unscannedOptions (unscannedChannel other) column ∧
      report = channelReport unscannedOptions (unscannedChannel other)
        artifact.file.metadata.root.rowGroupCount artifact.checksumVerified
        (.unverified (unscannedChannel other))) ∧
    (unscannedChannel other).NeedsNoScan := by
  have hserves : ServesTable (contextOf fun other => (payloadTableOf other).source
      (small_payloadTableOf other)) (unscannedChannel other) (small_payloadTableOf other) :=
    ⟨(servesTable small_payloadTableOf other).resolver, rfl⟩
  have hhashes : ∀ bytes, (unscannedChannel other).HashesHold sha256 bytes := fun bytes =>
    ⟨(hashesHold_channelOf other bytes).1, (hashesHold_channelOf other bytes).2,
      (hashesHold_channelOf other bytes).3⟩
  have hasks : unscannedOptions.AsksFor payloadColumnName := ⟨rfl, rfl, by decide⟩
  have hprepared : PreparedChannel ((payloadTableOf other).file (small_payloadTableOf other))
      unscannedOptions (unscannedChannel other) (payloadColumn payloadColumnName) :=
    preparedChannel_payloadTable (small_payloadTableOf other) hasks (countsTable_recordsOf other).1
      (countsTable_recordsOf other).2
  refine ⟨_, ⟨_, _, hserves.opensArtifact fun _ => hhashes _, hprepared, rfl⟩, rfl, rfl, ?_, ?_⟩
  · rintro _ ⟨⟩
  · rintro _ ⟨⟩
    rfl

section Layouts

variable {State : Type} {context : CertificationContext State} {m : ChannelShardedManifestFactsV1}
  {options : CertificationOptions} {options' : CompactL2PhysicalV2ManifestCertificationOptions}
  {report : CertificationReport} {report' : CompactL2PhysicalV2ManifestCertificationReport}
  (hfault : ∀ channel ∈ m.channels, ∀ source,
    context.resolver channel.relativePath = .ok source → source.FaultFree)

include hfault

/-- The report on a certified channel repeats its row count. -/
lemma rowCount_of_certifies {channel : ChannelArtifactFactsV1} (hmem : channel ∈ m.channels)
    {r : ChannelCertificationReport}
    (h : CertifiesChannelArtifact context m.tradingDay channel options (.ok r)) :
    r.counts.rowCount = channel.rowCount := by
  obtain ⟨artifact, column, state, -, -, -, -, rfl⟩ :=
    (certifiesChannelArtifact_iff (hfault channel hmem)).mp h
  rfl

lemma rowCount_of_certifiesPhysicalV2 {channel : ChannelArtifactFactsV1}
    (hmem : channel ∈ m.channels) {r : CompactL2PhysicalV2ChannelCertificationReport}
    (h : CertifiesPhysicalV2ChannelArtifact context m.tradingDay channel options' (.ok r)) :
    r.counts.rowCount = channel.rowCount := by
  obtain ⟨artifact, metadata, plan, certification, views, hash, hcertificate⟩ :=
    (certifiesPhysicalV2ChannelArtifact_iff (hfault channel hmem)).mp h
  obtain rfl := hcertificate.report
  exact rowCount_of_prepared hcertificate.prepared _ rfl

/-- The channels of a manifest of version 1 that is certified with the scan. -/
lemma certifiesChannelShardedArtifactV1_eq_ok (hverify : options.verifyPayloadHeader = true) :
    CertifiesChannelShardedArtifactV1 context m options (.ok report) ↔
      options.manifestChecks.Accepts m ∧ ∃ reports,
        List.Forall₂ (fun channel r => ∃ artifact column groups,
          ChannelCertificate context m.tradingDay channel options artifact column groups r)
            m.channels reports ∧
        report = .of m reports m.rowTotal (reports.map (·.rowGroupCount.toNat)).sum := by
  rw [CertifiesChannelShardedArtifactV1, certifiesManifest_eq_ok
    fun channel hmem r => rowCount_of_certifies hfault hmem]
  have hchannels := fun reports => @forall₂_congr_of_mem _ _ _ _ m.channels reports
    fun channel hmem r => @certifiesChannelArtifact_verified_iff State context m.tradingDay channel
      options r (hfault channel hmem) hverify
  simp only [hchannels]
  rfl

/-- The channels of a manifest of physical version 2 that is certified. -/
lemma certifiesCompactL2PhysicalV2Manifest_eq_ok :
    CertifiesCompactL2PhysicalV2Manifest context m options' (.ok report') ↔
      options'.manifestChecks.Accepts m ∧ ∃ reports,
        List.Forall₂ (fun channel r => ∃ artifact metadata plan certification views hash,
          PhysicalV2ChannelCertificate context m.tradingDay channel options' artifact metadata plan
            certification views hash r) m.channels reports ∧
        report' = .of m reports m.rowTotal (reports.map (·.rowGroupCount.toNat)).sum := by
  rw [CertifiesCompactL2PhysicalV2Manifest, certifiesManifest_eq_ok
    fun channel hmem r => rowCount_of_certifiesPhysicalV2 hfault hmem]
  have hchannels := fun reports => @forall₂_congr_of_mem _ _ _ _ m.channels reports
    fun channel hmem r => @certifiesPhysicalV2ChannelArtifact_iff State context m.tradingDay
      channel options' r (hfault channel hmem)
  simp only [hchannels]
  rfl

/-- With the scan, a manifest of version 1 is certified exactly when its checks pass and the
artifact of every channel keeps the records that the manifest describes.  Otherwise it fails with the
error of its checks or of the first channel that is not certified. -/
theorem certifiesChannelShardedArtifactV1_iff (hverify : options.verifyPayloadHeader = true) :
    (∀ report, CertifiesChannelShardedArtifactV1 context m options (.ok report) ↔
      options.manifestChecks.Accepts m ∧ ∃ reports,
        List.Forall₂ (fun channel r => ∃ artifact column groups,
          ChannelCertificate context m.tradingDay channel options artifact column groups r)
            m.channels reports ∧
        report = .of m reports m.rowTotal (reports.map (·.rowGroupCount.toNat)).sum) ∧
    ∀ error, CertifiesChannelShardedArtifactV1 context m options (.error error) ↔
      options.manifestChecks.check m = .error error ∨ options.manifestChecks.Accepts m ∧
        ∃ before channel after reports, m.channels = before ++ channel :: after ∧
          List.Forall₂ (fun channel r =>
            CertifiesChannelArtifact context m.tradingDay channel options (.ok r)) before reports ∧
          CertifiesChannelArtifact context m.tradingDay channel options (.error error) :=
  ⟨fun _ => certifiesChannelShardedArtifactV1_eq_ok hfault hverify,
    fun _ => certifiesManifest_eq_error⟩

omit hfault in
/-- The manifest of two channels is certified in version 1. -/
theorem certifiesChannelShardedArtifactV1_sample : ∃ sources report,
    CertifiesChannelShardedArtifactV1 (Sample.contextOf sources)
      (Sample.pairManifest "compact-fixed-binary-l2-v1") Sample.payloadOptions (.ok report) ∧
    report.rowCount = 4 := by
  have hfault := fun (channel : ChannelArtifactFactsV1)
    (_ : channel ∈ (Sample.pairManifest "compact-fixed-binary-l2-v1").channels) =>
      Sample.faultFree_contextOf Sample.small_payloadTableOf channel.relativePath
  obtain ⟨report, hreport⟩ := Sample.exists_certificate false
  obtain ⟨report', hreport'⟩ := Sample.exists_certificate true
  exact ⟨_, _, ((certifiesChannelShardedArtifactV1_iff hfault rfl).1 _).mpr
    ⟨Sample.accepts_payloadOptions, [report, report'], .cons hreport (.cons hreport' .nil), rfl⟩,
    rfl⟩

/-- Without the scan, a manifest of version 1 is certified exactly when its checks pass, its
artifacts can be scanned, and no channel gives a receive time or a record count other than zero.  What
the payloads hold makes no difference. -/
theorem certifiesChannelShardedArtifactV1_unscanned_iff
    (hverify : options.verifyPayloadHeader = false) :
    CertifiesChannelShardedArtifactV1 context m options (.ok report) ↔
      options.manifestChecks.Accepts m ∧ ∃ reports,
        List.Forall₂ (fun channel r =>
          (∃ artifact column, OpensArtifact context channel options.verifyHashes artifact ∧
            PreparedChannel artifact.file options channel column ∧
            r = channelReport options channel artifact.file.metadata.root.rowGroupCount
              artifact.checksumVerified (.unverified channel)) ∧
          channel.NeedsNoScan) m.channels reports ∧
        report = .of m reports m.rowTotal (reports.map (·.rowGroupCount.toNat)).sum := by
  rw [CertifiesChannelShardedArtifactV1, certifiesManifest_eq_ok
    fun channel hmem r => rowCount_of_certifies hfault hmem]
  have hchannels := fun reports => @forall₂_congr_of_mem _ _ _ _ m.channels reports
    fun channel hmem r => @certifiesChannelArtifact_unverified_iff State context m.tradingDay channel
      options r (hfault channel hmem) hverify
  simp only [hchannels]
  rfl

omit hfault in
/-- The manifest of two channels is certified without the scan when its entries give no counts. -/
theorem certifiesChannelShardedArtifactV1_unscanned_sample : ∃ sources report,
    CertifiesChannelShardedArtifactV1 (Sample.contextOf sources) Sample.unscannedManifest
      Sample.unscannedOptions (.ok report) ∧ report.rowCount = 4 := by
  have hfault := fun (channel : ChannelArtifactFactsV1)
    (_ : channel ∈ Sample.unscannedManifest.channels) =>
      Sample.faultFree_contextOf Sample.small_payloadTableOf channel.relativePath
  obtain ⟨report, hreport⟩ := Sample.exists_unscanned false
  obtain ⟨report', hreport'⟩ := Sample.exists_unscanned true
  exact ⟨_, _, (certifiesChannelShardedArtifactV1_unscanned_iff hfault rfl).mpr
    ⟨Sample.accepts_unscannedOptions, [report, report'], .cons hreport (.cons hreport' .nil), rfl⟩,
    rfl⟩

/-- A manifest of physical version 2 is certified exactly when its checks pass and the artifact of
every channel can be decoded to rows as they are asked for.  Otherwise it fails with the error of its
checks or of the first channel that is not certified. -/
theorem certifiesCompactL2PhysicalV2Manifest_iff :
    (∀ report', CertifiesCompactL2PhysicalV2Manifest context m options' (.ok report') ↔
      options'.manifestChecks.Accepts m ∧ ∃ reports,
        List.Forall₂ (fun channel r => ∃ artifact metadata plan certification views hash,
          PhysicalV2ChannelCertificate context m.tradingDay channel options' artifact metadata plan
            certification views hash r) m.channels reports ∧
        report' = .of m reports m.rowTotal (reports.map (·.rowGroupCount.toNat)).sum) ∧
    ∀ error, CertifiesCompactL2PhysicalV2Manifest context m options' (.error error) ↔
      options'.manifestChecks.check m = .error error ∨ options'.manifestChecks.Accepts m ∧
        ∃ before channel after reports, m.channels = before ++ channel :: after ∧
          List.Forall₂ (fun channel r => CertifiesPhysicalV2ChannelArtifact context m.tradingDay
            channel options' (.ok r)) before reports ∧
          CertifiesPhysicalV2ChannelArtifact context m.tradingDay channel options'
            (.error error) :=
  ⟨fun _ => certifiesCompactL2PhysicalV2Manifest_eq_ok hfault,
    fun _ => certifiesManifest_eq_error⟩

omit hfault in
/-- The manifest of two channels is certified in physical version 2. -/
theorem certifiesCompactL2PhysicalV2Manifest_sample : ∃ sources report,
    CertifiesCompactL2PhysicalV2Manifest (Sample.contextOf sources)
      (Sample.pairManifest "compact-l2-physical-v2") Sample.lanesOptions (.ok report) ∧
    report.rowCount = 4 := by
  obtain ⟨t, h, hlanes⟩ := Sample.exists_holdsLanes_recordsOf
  have hfault := fun (channel : ChannelArtifactFactsV1)
    (_ : channel ∈ (Sample.pairManifest "compact-l2-physical-v2").channels) =>
      Sample.faultFree_contextOf h channel.relativePath
  obtain ⟨artifact, metadata, plan, certification, hash, hholds⟩ := hlanes false
  obtain ⟨artifact', metadata', plan', certification', hash', hholds'⟩ := hlanes true
  exact ⟨_, _, ((certifiesCompactL2PhysicalV2Manifest_iff hfault).1 _).mpr
    ⟨Sample.accepts_lanesOptions, [_, _],
      .cons ⟨artifact, metadata, plan, certification, _, hash, hholds,
        Sample.rows_recordsOf false, rfl⟩
      (.cons ⟨artifact', metadata', plan', certification', _, hash', hholds',
        Sample.rows_recordsOf true, rfl⟩ .nil), rfl⟩, rfl⟩

end Layouts

end ArcadiaTio.Ocb
