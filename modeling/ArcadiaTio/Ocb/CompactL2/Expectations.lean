import ArcadiaTio.Ocb.CompactL2.ArtifactImages

/-!
# The expectations of a certification

A caller may expect a number of rows, a day, a channel, a first and a last BizIndex, and a hash of
the reconstructed payloads.  A certification compares the number of rows and the two BizIndexes
always.  It looks at the day and the channel only while it scans the rows, and at the hash only
while it reconstructs the payloads: with these checks switched off it passes them over.
-/

namespace ArcadiaTio.Ocb

open ArcadiaTio.Lib

variable {file : ColumnBundleFile} {zstd : ZstdCodec}
  {options : CompactL2PhysicalV2CertificationOptions} {limits : OcbResourceLimits}
  {metadata : ColumnBundleMetadata} {plan : ColumnBundleReadPlan}
  {certification : ColumnBundleReadPlanCertification}
  {report : CompactL2PhysicalV2CertificationReport}

/-- What a certification has made sure of, of all that was expected: the number of rows and the
first and the last BizIndex always, the day and the channel when the rows were scanned, the hash
when the payloads were reconstructed. -/
structure PhysicalV2ExpectationsHold (options : CompactL2PhysicalV2CertificationOptions)
    (views : List CompactL2PhysicalV2BatchView) : Prop where
  rowCount : ∀ expected ∈ options.expectedRowCount, (scalarsOf views).length = expected.toNat
  tradingDay : options.verifyScalarContinuity = true →
    ∀ expected ∈ options.expectedTradingDay, ∀ row ∈ scalarsOf views, row.dayKey = expected.toNat
  channelId : options.verifyScalarContinuity = true →
    ∀ expected ∈ options.expectedChannelId, ∀ row ∈ scalarsOf views, row.channelId = expected.toNat
  firstBizIndex : ∀ expected ∈ options.expectedFirstBizIndex,
    ∃ row, (scalarsOf views).head? = some row ∧ row.bizIndex = expected.toNat
  lastBizIndex : ∀ expected ∈ options.expectedLastBizIndex,
    ∃ row, (scalarsOf views).getLast? = some row ∧ row.bizIndex = expected.toNat
  legacyHash : options.verifyLegacyReconstruction = true →
    ∀ expected ∈ options.expectedLegacyPayloadHashFnv1a64,
      ∃ payloads, views.mapM (·.appendFixedBinaryV1Payloads []) = .ok payloads ∧
        eqIgnoreAsciiCase (fnv1a64Hex payloads.flatten) expected = true
  legacyHashFormat : ∀ expected ∈ options.expectedLegacyPayloadHashFnv1a64,
    validateHexHash expected 16 .checksumMismatch = .ok ()

/-- The reconstructed payloads of views. -/
lemma append_of_reconstruct {views : List CompactL2PhysicalV2BatchView}
    {payloads : List (List UInt8)}
    (h : views.mapM (reconstructLegacyPayloads limits) = .ok payloads) :
    views.mapM (·.appendFixedBinaryV1Payloads []) = .ok payloads := by
  refine mapM_eq_ok.mpr ((mapM_eq_ok.mp h).imp fun view payload hpayload => ?_)
  obtain ⟨_, -, hpayload⟩ := bind_eq_ok.mp hpayload
  exact hpayload

lemma PhysicalV2Certificate.expectationsHold {views : List CompactL2PhysicalV2BatchView}
    {hash : Option CompactL2Fnv1a64} (h : PhysicalV2Certificate file zstd options limits metadata
      plan certification views hash report) : PhysicalV2ExpectationsHold options views := by
  obtain ⟨hrows, hfirst, hlast, hverified⟩ := finishPhysicalV2Certification_eq_ok h.finished
  obtain ⟨_, hformat, hprepared⟩ := bind_eq_ok.mp h.prepared
  obtain ⟨metadata', -, hprepared⟩ := bind_eq_ok.mp hprepared
  obtain ⟨_, hcount, hprepared⟩ := bind_eq_ok.mp hprepared
  obtain ⟨_, -, hprepared⟩ := bind_eq_ok.mp hprepared
  obtain ⟨plan', -, hprepared⟩ := bind_eq_ok.mp hprepared
  obtain ⟨certification', -, hprepared⟩ := bind_eq_ok.mp hprepared
  obtain ⟨_, -, hprepared⟩ := bind_eq_ok.mp hprepared
  cases hprepared
  have hscanned := h.scanned
  have hhashed := h.hashed
  rw [PhysicalV2Scanned] at hscanned
  rw [PhysicalV2Hashed] at hhashed
  rw [physicalV2ScanOf_rows] at hrows
  refine ⟨?_, ?_, ?_, ?_, ?_, ?_, ?_⟩
  · intro expected hexpected
    rw [hrows, checkExpected_eq_ok.mp hcount expected hexpected]
  · intro hverify expected hexpected row hrow
    rw [if_pos hverify] at hscanned
    exact (hscanned.row row hrow).tradingDay expected hexpected
  · intro hverify expected hexpected row hrow
    rw [if_pos hverify] at hscanned
    exact (hscanned.row row hrow).expectedChannelId expected hexpected
  · intro expected hexpected
    exact (of_physicalV2ScanOf_eq_some h.scanned).1 (hfirst expected hexpected)
  · intro expected hexpected
    exact (of_physicalV2ScanOf_eq_some h.scanned).2 (hlast expected hexpected)
  · intro hlegacy expected hexpected
    rw [if_pos hlegacy] at hhashed
    obtain ⟨payloads, hpayloads, rfl⟩ := hhashed
    refine ⟨payloads, append_of_reconstruct hpayloads, ?_⟩
    rw [Option.mem_def.mp hexpected] at hverified
    obtain ⟨_, heq, -⟩ := bind_eq_ok.mp hverified
    rw [failIf_eq_ok, not_not] at heq
    exact heq
  · intro expected hexpected
    rw [Option.mem_def.mp hexpected] at hformat
    exact hformat

/-- The report says that a hash was verified exactly when one was expected and the payloads were
reconstructed. -/
lemma PhysicalV2Certificate.legacyPayloadHashVerified {views : List CompactL2PhysicalV2BatchView}
    {hash : Option CompactL2Fnv1a64} (h : PhysicalV2Certificate file zstd options limits metadata
      plan certification views hash report) : report.legacyPayloadHashVerified =
      (options.verifyLegacyReconstruction && options.expectedLegacyPayloadHashFnv1a64.isSome) := by
  obtain ⟨-, -, -, hverified⟩ := finishPhysicalV2Certification_eq_ok h.finished
  have hhashed := h.hashed
  rw [PhysicalV2Hashed] at hhashed
  cases hlegacy : options.verifyLegacyReconstruction with
  | false =>
    rw [hlegacy, if_neg (by simp)] at hhashed
    rw [hhashed] at hverified
    exact (Except.ok.inj hverified).symm
  | true =>
    rw [hlegacy, if_pos rfl] at hhashed
    obtain ⟨payloads, -, rfl⟩ := hhashed
    cases hexpected : options.expectedLegacyPayloadHashFnv1a64 with
    | none =>
      rw [hexpected] at hverified
      exact (Except.ok.inj hverified).symm
    | some expected =>
      rw [hexpected] at hverified
      obtain ⟨_, -, hverified⟩ := bind_eq_ok.mp hverified
      exact (Except.ok.inj hverified).symm

/-- A certification of an opened file makes sure of every expectation that its flags ask it to look
at, and its report says so of the hash. -/
theorem certifiesCompactL2PhysicalV2File_expectations {source : OcbReadSource}
    {validation : OcbOpenValidationMode} {openLimits : OcbResourceLimits}
    (h : ColumnBundleFile.openFromSource source zstd validation openLimits = .ok file)
    (hcertifies : CertifiesCompactL2PhysicalV2File file zstd options limits (.ok report)) :
    ∃ views, file.compactL2PhysicalV2Views zstd = .ok views ∧
      PhysicalV2ExpectationsHold options views ∧
      report.legacyPayloadHashVerified = (options.verifyLegacyReconstruction &&
        options.expectedLegacyPayloadHashFnv1a64.isSome) := by
  obtain ⟨metadata, plan, certification, views, hash, hcertificate⟩ :=
    (certifiesCompactL2PhysicalV2File_eq_ok_iff
      (ColumnBundleFile.opened_of_openFromSource h)).mp hcertifies
  exact ⟨views, hcertificate.decoded, hcertificate.expectationsHold,
    hcertificate.legacyPayloadHashVerified⟩

/-! ### Examples -/

namespace Sample

/-- The view of one order. -/
def orderView : CompactL2PhysicalV2BatchView := .ofRecords [compactL2Order]

lemma valid_orderView : orderView.Valid :=
  CompactL2PhysicalV2BatchView.valid_ofRecords (by decide)

lemma scalars_orderView : orderView.scalars = [⟨20240102, 2011, 42, 123456789, 1⟩] := by decide

/-- The record of the order, and its hash. -/
lemma append_orderView : ∃ payload, orderView.appendFixedBinaryV1Payloads [] = .ok payload ∧
    fnv1a64Hex payload = "123d341bb24cfa22" := by
  have hhash : (orderView.appendFixedBinaryV1Payloads []).toOption.map fnv1a64Hex =
      some "123d341bb24cfa22" := by
    decide +kernel
  cases happend : orderView.appendFixedBinaryV1Payloads [] with
  | error error =>
    rw [happend] at hhash
    cases hhash
  | ok payload =>
    rw [happend] at hhash
    exact ⟨payload, rfl, Option.some.inj hhash⟩

/-- All that may be expected of the order. -/
def orderOptions : CompactL2PhysicalV2CertificationOptions where
  expectedRowCount := some 1
  expectedTradingDay := some 20240102
  expectedChannelId := some 2011
  expectedFirstBizIndex := some 42
  expectedLastBizIndex := some 42
  verifyScalarContinuity := true
  verifyLegacyReconstruction := true
  expectedLegacyPayloadHashFnv1a64 := some "123D341BB24CFA22"
  maxRows := some 1
  readThreads := 1
  maxInFlightRowGroups := 1

/-- Another day, another channel and another hash, with both checks switched off. -/
def uncheckedOptions : CompactL2PhysicalV2CertificationOptions where
  expectedRowCount := none
  expectedTradingDay := some 20240103
  expectedChannelId := some 2012
  expectedFirstBizIndex := none
  expectedLastBizIndex := none
  verifyScalarContinuity := false
  verifyLegacyReconstruction := false
  expectedLegacyPayloadHashFnv1a64 := some "0000000000000000"
  maxRows := none
  readThreads := 1
  maxInFlightRowGroups := 1

/-- The scan accepts the order. -/
lemma scanned_orderView : PhysicalV2Scanned orderOptions orderView.scalars := by
  rw [PhysicalV2Scanned, if_pos (show orderOptions.verifyScalarContinuity = true from rfl),
    scalars_orderView]
  refine ⟨?_, List.isChain_singleton _, ?_, by decide⟩
  · intro row hrow
    obtain rfl := List.mem_singleton.mp hrow
    exact ⟨⟨20240102, rfl, by decide⟩, by simp [orderOptions], ⟨2011, rfl, by decide⟩,
      by simp [orderOptions], ⟨42, rfl, by decide⟩, .inl rfl⟩
  · simp [orderOptions]

end Sample

/-- The order is certified with all that may be expected of it. -/
theorem certifiesCompactL2PhysicalV2File_expectations_sample : ∃ file views report,
    CertifiesCompactL2PhysicalV2File file (fun _ _ => ⟨[], true⟩) Sample.orderOptions .policyA
      (.ok report) ∧
    file.compactL2PhysicalV2Views (fun _ _ => ⟨[], true⟩) = .ok views ∧
    PhysicalV2ExpectationsHold Sample.orderOptions views ∧
    report.legacyPayloadHashVerified = true := by
  obtain ⟨t, h, hview⟩ := TableImage.exists_holdsView Sample.valid_orderView (by decide)
  obtain ⟨payload, hpayload, hhash⟩ := Sample.append_orderView
  have hlimit : validateLegacyReconstructionResourceLimit .policyA Sample.orderView.rowCount =
      .ok () := by
    decide
  have hreconstruct : reconstructLegacyPayloads .policyA Sample.orderView = .ok payload := by
    rw [reconstructLegacyPayloads, hlimit, ok_bind, hpayload]
  have hhashed : PhysicalV2Hashed Sample.orderOptions .policyA [Sample.orderView]
      (some (CompactL2Fnv1a64.new.update payload)) := by
    rw [PhysicalV2Hashed,
      if_pos (show Sample.orderOptions.verifyLegacyReconstruction = true from rfl)]
    refine ⟨[payload], ?_, by simp⟩
    rw [List.mapM_cons, hreconstruct]
    rfl
  have hverified : IsOk (verifyLegacyPayloadHash
      ((some (CompactL2Fnv1a64.new.update payload)).map CompactL2Fnv1a64.finishHex)
      Sample.orderOptions.expectedLegacyPayloadHashFnv1a64) := by
    rw [Option.map_some, show (CompactL2Fnv1a64.new.update payload).finishHex =
      "123d341bb24cfa22" from hhash]
    exact ⟨true, by decide⟩
  have hfirst : ∀ expected ∈ Sample.orderOptions.expectedFirstBizIndex,
      (physicalV2ScanOf Sample.orderOptions Sample.orderView.scalars).firstBizIndex =
        some expected.toNat := by
    intro expected hexpected
    obtain rfl : (42 : UInt64) = expected := Option.some.inj hexpected
    rw [Sample.scalars_orderView]
    rfl
  have hlast : ∀ expected ∈ Sample.orderOptions.expectedLastBizIndex,
      (physicalV2ScanOf Sample.orderOptions Sample.orderView.scalars).lastBizIndex =
        some expected.toNat := by
    intro expected hexpected
    obtain rfl : (42 : UInt64) = expected := Option.some.inj hexpected
    rw [Sample.scalars_orderView]
    rfl
  obtain ⟨report, hcertifies⟩ := hview.exists_certificate h (fun _ _ => ⟨[], true⟩) (by decide)
    (fun expected hexpected => by
      obtain rfl : (1 : UInt64) = expected := Option.some.inj hexpected
      rfl)
    (fun bound hbound => by
      obtain rfl : (1 : UInt64) = bound := Option.some.inj hbound
      exact le_rfl) Sample.scanned_orderView hhashed hfirst hlast hverified
  obtain ⟨views, hviews, hholds, hreport⟩ := certifiesCompactL2PhysicalV2File_expectations
    (TableImage.openFromSource_source h fun _ _ => ⟨[], true⟩) hcertifies
  exact ⟨_, views, report, hcertifies, hviews, hholds, hreport⟩

/-- With both checks switched off the order is certified for another day, another channel and
another hash. -/
theorem certifies_unchecked_expectations : ∃ source file views report,
    ColumnBundleFile.openFromSource source (fun _ _ => ⟨[], true⟩) .metadataGraph .policyA =
      .ok file ∧
    CertifiesCompactL2PhysicalV2File file (fun _ _ => ⟨[], true⟩) Sample.uncheckedOptions .policyA
      (.ok report) ∧
    file.compactL2PhysicalV2Views (fun _ _ => ⟨[], true⟩) = .ok views ∧
    (∃ row ∈ scalarsOf views, row.dayKey ≠ 20240103 ∧ row.channelId ≠ 2012) ∧
    ∃ payloads, views.mapM (·.appendFixedBinaryV1Payloads []) = .ok payloads ∧
      eqIgnoreAsciiCase (fnv1a64Hex payloads.flatten) "0000000000000000" = false := by
  obtain ⟨t, h, hview⟩ := TableImage.exists_holdsView Sample.valid_orderView (by decide)
  obtain ⟨payload, hpayload, hhash⟩ := Sample.append_orderView
  have hscanned : PhysicalV2Scanned Sample.uncheckedOptions Sample.orderView.scalars := by
    rw [PhysicalV2Scanned, if_neg (by decide)]
    decide
  have hhashed : PhysicalV2Hashed Sample.uncheckedOptions .policyA [Sample.orderView] none := rfl
  -- none of the compared expectations is given
  obtain ⟨report, hcertifies⟩ := hview.exists_certificate h (fun _ _ => ⟨[], true⟩) (by decide)
    (fun _ hcount => absurd hcount (Option.not_mem_none _))
    (fun _ hmax => absurd hmax (Option.not_mem_none _)) hscanned hhashed
    (fun _ hfirst => absurd hfirst (Option.not_mem_none _))
    (fun _ hlast => absurd hlast (Option.not_mem_none _)) ⟨false, rfl⟩
  refine ⟨t.source h, t.file h, [Sample.orderView], report,
    TableImage.openFromSource_source h _, hcertifies, hview.compactL2PhysicalV2Views h _, ?_, ?_⟩
  · rw [scalarsOf, List.flatMap_singleton, Sample.scalars_orderView]
    exact ⟨_, List.mem_singleton_self _, by decide, by decide⟩
  · refine ⟨[payload], ?_, ?_⟩
    · rw [List.mapM_cons, hpayload]
      rfl
    · rw [List.flatten_singleton, hhash]
      decide

end ArcadiaTio.Ocb
