import ArcadiaTio.Ocb.CompactL2.PayloadImages

/-!
# The two layouts are certified alike

The records of a channel can be kept as strings in one payload column or split into lanes.  Two
artifacts of the two layouts with the same rows are certified for the same entries of a manifest,
those that describe the rows, and the reports say the same of them (`certifications_agree`).  So are
the files that are made of the same records, and the hash over the lanes is that of the payload
column (`certifies_records`).
-/

namespace ArcadiaTio.Ocb

open ArcadiaTio.Lib

/-! ### What is found is determined -/

/-- Records are determined by a column that keeps them. -/
lemma ColumnBatch.KeepsRecords.unique {batch : ColumnBatch} {width : UInt32}
    {vs ws : List CompactL2PhysicalV2Record} (hv : batch.KeepsRecords width vs)
    (hw : batch.KeepsRecords width ws) : vs = ws := by
  obtain ⟨column, hcolumns, hvalues⟩ := hv.column
  obtain ⟨column', hcolumns', hvalues'⟩ := hw.column
  obtain rfl : column = column' := List.singleton_inj.mp (hcolumns.symm.trans hcolumns')
  rw [hvalues, PrimitiveColumnValues.fixedBinary.injEq] at hvalues'
  have hsize : 0 < compactL2FixedBinaryRecordWidthV1 := by decide
  have hlength := length_flatMap_fixedBinaryV1Bytes vs
  have hsplit := (mapM_chunksExact_eq_ok hsize hlength).mpr ⟨rfl, rfl, hv.wellFormed⟩
  have hsplit' := (mapM_chunksExact_eq_ok hsize hlength).mpr
    ⟨hw.rowCount.trans hv.rowCount.symm, hvalues'.2, hw.wellFormed⟩
  exact Except.ok.inj (hsplit.symm.trans hsplit')

lemma forall₂_unique {α β : Type} {R : α → β → Prop} (h : ∀ a b b', R a b → R a b' → b = b')
    {as : List α} {bs bs' : List β} (hb : List.Forall₂ R as bs) (hb' : List.Forall₂ R as bs') :
    bs = bs' := by
  induction hb generalizing bs' with
  | nil =>
    cases hb'
    rfl
  | cons hab _ ih =>
    cases hb' with
    | cons hab' hrest => rw [h _ _ _ hab hab', ih hrest]

section Unique

variable {State : Type} {context : CertificationContext State} {channel : ChannelArtifactFactsV1}
  {artifact artifact' : OpenedManifestArtifact}

lemma OpensArtifact.unique {verifyHashes : Bool}
    (h : OpensArtifact context channel verifyHashes artifact)
    (h' : OpensArtifact context channel verifyHashes artifact') : artifact = artifact' := by
  obtain ⟨source, hsource, hfile⟩ := h.opened
  obtain ⟨source', hsource', hfile'⟩ := h'.opened
  obtain rfl := Except.ok.inj (hsource.symm.trans hsource')
  have hsame := Except.ok.inj (hfile.symm.trans hfile')
  have hverified := h.checksumVerified.trans h'.checksumVerified.symm
  cases artifact
  cases artifact'
  rw [OpenedManifestArtifact.mk.injEq]
  exact ⟨hsame, hverified⟩

/-- The records of an artifact are determined. -/
lemma HoldsPayloads.unique {options : CertificationOptions} {column column' : BundleColumn}
    {groups groups' : List (List CompactL2PhysicalV2Record)}
    (h : HoldsPayloads context channel options artifact column groups)
    (h' : HoldsPayloads context channel options artifact' column' groups') :
    artifact = artifact' ∧ groups = groups' := by
  obtain rfl := h.opens.unique h'.opens
  obtain ⟨source, -, hfile⟩ := h.opens.opened
  have hopened := ColumnBundleFile.opened_of_openFromSource hfile
  obtain rfl : column = column' := Option.some.inj
    ((hopened.columnByName_eq_some.mpr ⟨h.prepared.mem, h.prepared.name⟩).symm.trans
      (hopened.columnByName_eq_some.mpr ⟨h'.prepared.mem, h'.prepared.name⟩))
  refine ⟨rfl, forall₂_unique ?_ h.keeps h'.keeps⟩
  rintro rowGroup vs ws ⟨batch, hread, hkeeps⟩ ⟨batch', hread', hkeeps'⟩
  obtain rfl := Except.ok.inj (hread.symm.trans hread')
  exact hkeeps.unique hkeeps'

variable {tradingDay : UInt32} {options : CompactL2PhysicalV2ManifestCertificationOptions}
  {metadata metadata' : ColumnBundleMetadata} {plan plan' : ColumnBundleReadPlan}
  {certification certification' : ColumnBundleReadPlanCertification}
  {views views' : List CompactL2PhysicalV2BatchView} {hash hash' : Option CompactL2Fnv1a64}

lemma physicalV2Hashed_unique {options : CompactL2PhysicalV2CertificationOptions}
    {limits : OcbResourceLimits} (h : PhysicalV2Hashed options limits views hash)
    (h' : PhysicalV2Hashed options limits views hash') : hash = hash' := by
  rw [PhysicalV2Hashed] at h h'
  cases hverify : options.verifyLegacyReconstruction with
  | false =>
    rw [hverify, if_neg Bool.false_ne_true] at h h'
    rw [h, h']
  | true =>
    rw [hverify, if_pos rfl] at h h'
    obtain ⟨payloads, hpayloads, rfl⟩ := h
    obtain ⟨payloads', hpayloads', rfl⟩ := h'
    rw [Except.ok.inj (hpayloads.symm.trans hpayloads')]

/-- The views of an artifact are determined, and all else that is found around them. -/
lemma HoldsLanes.unique
    (h : HoldsLanes context tradingDay channel options artifact metadata plan certification views
      hash)
    (h' : HoldsLanes context tradingDay channel options artifact' metadata' plan' certification'
      views' hash') : artifact = artifact' ∧ metadata = metadata' ∧
      certification = certification' ∧ views = views' ∧ hash = hash' := by
  obtain rfl := h.opens.unique h'.opens
  have hprepared := Except.ok.inj (h.prepared.symm.trans h'.prepared)
  rw [Prod.mk.injEq, Prod.mk.injEq] at hprepared
  obtain rfl := Except.ok.inj (h.decoded.symm.trans h'.decoded)
  exact ⟨rfl, hprepared.1, hprepared.2.2, rfl, physicalV2Hashed_unique h.hashed h'.hashed⟩

end Unique

/-! ### The agreement -/

/-- Two reports say the same of the rows of a channel. -/
structure ChannelCertificationReport.SameFacts (report : ChannelCertificationReport)
    (report' : CompactL2PhysicalV2ChannelCertificationReport) : Prop where
  channelId : report'.channelId = report.channelId
  rowCount : report'.rowCount = report.rowCount
  firstBizIndex : report'.firstBizIndex = some report.firstBizIndex.toNat
  lastBizIndex : report'.lastBizIndex = some report.lastBizIndex.toNat
  minReceiveNano : report'.minReceiveNano = report.minReceiveNano
  maxReceiveNano : report'.maxReceiveNano = report.maxReceiveNano
  orderRecordCount : report'.orderRecordCount = report.orderRecordCount
  tradeRecordCount : report'.tradeRecordCount = report.tradeRecordCount

section Agreement

variable {State State' : Type} {context : CertificationContext State}
  {context' : CertificationContext State'} {channel : ChannelArtifactFactsV1}
  {tradingDay : UInt32} {options : CertificationOptions}
  {options' : CompactL2PhysicalV2ManifestCertificationOptions}
  {artifact artifact' : OpenedManifestArtifact} {column : BundleColumn}
  {groups : List (List CompactL2PhysicalV2Record)} {metadata : ColumnBundleMetadata}
  {plan : ColumnBundleReadPlan} {certification : ColumnBundleReadPlanCertification}
  {views : List CompactL2PhysicalV2BatchView} {hash : Option CompactL2Fnv1a64}
  {report : ChannelCertificationReport}
  {report' : CompactL2PhysicalV2ChannelCertificationReport}

/-- Both reports repeat what the manifest describes. -/
lemma sameFacts (hdescribes : channel.Describes tradingDay (payloadRows groups))
    (hcount : metadata.rowCount = channel.rowCount)
    (hverify : options.verifyPayloadHeader = true)
    (hverify' : options'.verifyScalarContinuity = true)
    (hrows : scalarsOf views = payloadRows groups) {rowGroupCount : UInt32}
    {checked checked' : Bool} :
    (channelReport options channel rowGroupCount checked
      (.ofRows (payloadRows groups))).SameFacts
    (physicalV2ChannelReport channel checked'
      (physicalV2Report (options'.forChannel channel tradingDay) metadata certification
        (physicalV2ScanOf (options'.forChannel channel tradingDay) (scalarsOf views), hash)
          false)) := by
  have hoptions : (options'.forChannel channel tradingDay).verifyScalarContinuity = true :=
    hverify'
  have hagrees := hdescribes.agreesWith
  have hscanOf : physicalV2ScanOf (options'.forChannel channel tradingDay) (payloadRows groups) =
      .ofRows (payloadRows groups) := if_pos hoptions
  rw [hrows, hscanOf]
  refine ⟨rfl, hcount, ?_, ?_, ?_, ?_, ?_, ?_⟩
  · exact (if_pos hoptions).trans hagrees.firstBizIndex
  · exact (if_pos hoptions).trans hagrees.lastBizIndex
  · exact congrArg (Option.or · _) (if_pos hoptions)
  · exact congrArg (Option.or · _) (if_pos hoptions)
  · exact (if_pos hoptions).trans (if_pos hverify).symm
  · exact (if_pos hoptions).trans (if_pos hverify).symm

/-- An artifact that keeps records is certified exactly for the entries that describe them. -/
lemma HoldsPayloads.certifies_iff
    (hholds : HoldsPayloads context channel options artifact column groups)
    (hfault : ∀ source, context.resolver channel.relativePath = .ok source → source.FaultFree)
    (hverify : options.verifyPayloadHeader = true) :
    CertifiesChannelArtifact context tradingDay channel options (.ok report) ↔
      channel.Describes tradingDay (payloadRows groups) ∧
        report = channelReport options channel artifact.file.metadata.root.rowGroupCount
          artifact.checksumVerified (.ofRows (payloadRows groups)) := by
  rw [certifiesChannelArtifact_verified_iff hfault hverify]
  constructor
  · rintro ⟨found, column', groups', hcertificate⟩
    obtain ⟨rfl, rfl⟩ := hcertificate.toHoldsPayloads.unique hholds
    exact ⟨hcertificate.describes, hcertificate.report⟩
  · rintro ⟨hdescribes, hreport⟩
    exact ⟨artifact, column, groups, hholds, hdescribes, hreport⟩

/-- An artifact with lanes is certified exactly for the entries that describe its rows. -/
lemma HoldsLanes.certifies_iff
    (hholds : HoldsLanes context tradingDay channel options' artifact metadata plan certification
      views hash)
    (hfault : ∀ source, context.resolver channel.relativePath = .ok source → source.FaultFree)
    (hverify : options'.verifyScalarContinuity = true) :
    CertifiesPhysicalV2ChannelArtifact context tradingDay channel options' (.ok report') ↔
      (RecordRows (scalarsOf views) ∧ channel.Describes tradingDay (scalarsOf views)) ∧
        report' = physicalV2ChannelReport channel artifact.checksumVerified
          (physicalV2Report (options'.forChannel channel tradingDay) metadata certification
            (physicalV2ScanOf (options'.forChannel channel tradingDay) (scalarsOf views), hash)
              false) := by
  have hasked : ∀ rows, PhysicalV2ChannelRows options' channel tradingDay rows ↔
      RecordRows rows ∧ channel.Describes tradingDay rows :=
    fun rows => iff_of_eq (if_pos hverify)
  rw [certifiesPhysicalV2ChannelArtifact_iff hfault, ← hasked]
  constructor
  · rintro ⟨found, metadata', plan', certification', views', hash', hcertificate⟩
    obtain ⟨rfl, rfl, rfl, rfl, rfl⟩ := hcertificate.toHoldsLanes.unique hholds
    exact ⟨hcertificate.rows, hcertificate.report⟩
  · rintro ⟨hrows, hreport⟩
    exact ⟨artifact, metadata, plan, certification, views, hash, hholds, hrows, hreport⟩

/-- Two artifacts of the two layouts with the same rows are certified for the same entries, those
that describe the rows, and with the same facts. -/
theorem certifications_agree
    (hfault : ∀ source, context.resolver channel.relativePath = .ok source → source.FaultFree)
    (hfault' : ∀ source, context'.resolver channel.relativePath = .ok source → source.FaultFree)
    (hholds : HoldsPayloads context channel options artifact column groups)
    (hholds' : HoldsLanes context' tradingDay channel options' artifact' metadata plan
      certification views hash)
    (hrows : scalarsOf views = payloadRows groups)
    (hverify : options.verifyPayloadHeader = true)
    (hverify' : options'.verifyScalarContinuity = true) :
    ((∃ report, CertifiesChannelArtifact context tradingDay channel options (.ok report)) ↔
      channel.Describes tradingDay (payloadRows groups)) ∧
    ((∃ report', CertifiesPhysicalV2ChannelArtifact context' tradingDay channel options'
        (.ok report')) ↔ channel.Describes tradingDay (payloadRows groups)) ∧
    ∀ report report', CertifiesChannelArtifact context tradingDay channel options (.ok report) →
      CertifiesPhysicalV2ChannelArtifact context' tradingDay channel options' (.ok report') →
        report.SameFacts report' := by
  have hrecords : RecordRows (payloadRows groups) := recordRows_scalars _
  refine ⟨?_, ?_, fun report report' h h' => ?_⟩
  · simp [hholds.certifies_iff hfault hverify]
  · simp [hholds'.certifies_iff hfault' hverify', hrecords, hrows]
  · obtain ⟨hdescribes, rfl⟩ := (hholds.certifies_iff hfault hverify).mp h
    obtain ⟨-, rfl⟩ := (hholds'.certifies_iff hfault' hverify').mp h'
    exact sameFacts hdescribes (rowCount_of_prepared hholds'.prepared _ rfl) hverify hverify' hrows

end Agreement

/-- A channel is certified in both layouts, with the same facts. -/
def Sample.CertifiedAlike (sources sources' : Bool → OcbReadSource) (other : Bool) : Prop :=
  ∃ report report',
    CertifiesChannelArtifact (contextOf sources) 20240102 (channelOf other) payloadOptions
      (.ok report) ∧
    CertifiesPhysicalV2ChannelArtifact (contextOf sources') 20240102 (channelOf other)
      lanesOptions (.ok report') ∧ report.SameFacts report'

/-- Two channels with two records each. -/
theorem certifications_agree_sample : ∃ sources sources',
    Sample.CertifiedAlike sources sources' false ∧ Sample.CertifiedAlike sources sources' true := by
  obtain ⟨t, h, hlanes⟩ := Sample.exists_holdsLanes_recordsOf
  have halike : ∀ other, Sample.CertifiedAlike
      (fun other => (Sample.payloadTableOf other).source (Sample.small_payloadTableOf other))
      (fun other => (t other).source (h other)) other := by
    intro other
    obtain ⟨artifact, metadata, plan, certification, hash, hholds'⟩ := hlanes other
    obtain ⟨hcertified, hcertified', hsame⟩ := certifications_agree
      (Sample.faultFree_contextOf Sample.small_payloadTableOf _) (Sample.faultFree_contextOf h _)
      (Sample.holdsPayloads_recordsOf other) hholds' (by
        rw [Sample.scalarsOf_recordsOf, payloadRows, List.flatten_singleton]) rfl rfl
    rw [payloadRows, List.flatten_singleton] at hcertified hcertified'
    obtain ⟨report, hreport⟩ := hcertified.mpr (Sample.describes_recordsOf other)
    obtain ⟨report', hreport'⟩ := hcertified'.mpr (Sample.describes_recordsOf other)
    exact ⟨report, report', hreport, hreport', hsame _ _ hreport hreport'⟩
  exact ⟨_, _, halike false, halike true⟩

/-! ### Files of the same records -/

section Records

open CompactL2PhysicalV2BatchView

variable {State State' : Type} {context : CertificationContext State}
  {context' : CertificationContext State'} {channel : ChannelArtifactFactsV1}
  {tradingDay : UInt32} {options : CertificationOptions}
  {options' : CompactL2PhysicalV2ManifestCertificationOptions} {name : Text}
  {vs : List CompactL2PhysicalV2Record}

lemma countsTable_of_holdsPayloads {h : (payloadTable name vs).Small}
    (hserves : ServesTable context channel h)
    (hhashes : options.verifyHashes = true →
      channel.HashesHold context.sha256 ((payloadTable name vs).source h).bytes)
    {artifact : OpenedManifestArtifact} {column : BundleColumn}
    {groups : List (List CompactL2PhysicalV2Record)}
    (hholds : HoldsPayloads context channel options artifact column groups) :
    channel.CountsTable vs.length := by
  obtain rfl := hholds.opens.unique (hserves.opensArtifact hhashes)
  refine ⟨?_, hholds.prepared.rowGroupCount.imp id Eq.symm⟩
  rw [← hholds.prepared.rowCount]
  exact (TableImage.toNat_rowCount h).symm

lemma countsTable_of_holdsLanes {t : TableImage} {h : t.Small}
    {view : CompactL2PhysicalV2BatchView} (hserves : ServesTable context channel h)
    (hview : t.HoldsView view)
    (hhashes : options'.verifyHashes = true →
      channel.HashesHold context.sha256 (t.source h).bytes) {artifact : OpenedManifestArtifact}
    {metadata : ColumnBundleMetadata} {plan : ColumnBundleReadPlan}
    {certification : ColumnBundleReadPlanCertification}
    {views : List CompactL2PhysicalV2BatchView} {hash : Option CompactL2Fnv1a64}
    (hholds : HoldsLanes context tradingDay channel options' artifact metadata plan certification
      views hash) : channel.CountsTable view.rowCount := by
  obtain rfl := hholds.opens.unique (hserves.opensArtifact hhashes)
  obtain ⟨hrows, hgroups⟩ :=
    ColumnBundleFile.of_describe (describe_of_prepared hholds.prepared)
  have hcount := rowCount_of_prepared hholds.prepared _ rfl
  refine ⟨?_, hholds.rowGroupCount.imp id fun hsame => ?_⟩
  · rw [← hcount, hrows, hview.rowCount h]
    exact (TableImage.toNat_rowCount h).symm
  · rw [← hsame, hgroups]
    rfl

/-- The files of records in the two layouts are certified for the same entries, those that describe
the records in one row group, and with the same facts; and the hash over the lanes is that of the
payload column. -/
theorem certifies_records (hvs : KeptRecords vs) {h : (payloadTable name vs).Small}
    {t : TableImage} {h' : t.Small} (hview : t.HoldsView (ofRecords vs))
    (hserves : ServesTable context channel h) (hserves' : ServesTable context' channel h')
    (hhashes : options.verifyHashes = true →
      channel.HashesHold context.sha256 ((payloadTable name vs).source h).bytes)
    (hhashes' : options'.verifyHashes = true →
      channel.HashesHold context'.sha256 (t.source h').bytes)
    (hoptions : options.AsksFor name) (hverify : options.verifyPayloadHeader = true)
    (hverify' : options'.verifyScalarContinuity = true) :
    ((∃ report, CertifiesChannelArtifact context tradingDay channel options (.ok report)) ↔
      channel.Describes tradingDay (vs.map CompactL2PhysicalV2Record.scalars) ∧
        channel.CountsTable vs.length) ∧
    ((∃ report', CertifiesPhysicalV2ChannelArtifact context' tradingDay channel options'
        (.ok report')) ↔
      channel.Describes tradingDay (vs.map CompactL2PhysicalV2Record.scalars) ∧
        channel.CountsTable vs.length) ∧
    ∀ report report', CertifiesChannelArtifact context tradingDay channel options (.ok report) →
      CertifiesPhysicalV2ChannelArtifact context' tradingDay channel options' (.ok report') →
        report.SameFacts report' ∧ report'.legacyPayloadHashFnv1a64 =
          if options'.verifyLegacyReconstruction then
            some (fnv1a64Hex (vs.flatMap CompactL2PhysicalV2Record.fixedBinaryV1Bytes))
          else none := by
  have hpayloadRows : payloadRows [vs] = vs.map CompactL2PhysicalV2Record.scalars := by
    rw [payloadRows, List.flatten_singleton]
  have hscalars : scalarsOf [ofRecords vs] = vs.map CompactL2PhysicalV2Record.scalars := by
    rw [scalarsOf, List.flatMap_singleton, scalars_ofRecords hvs.fitsLanes]
  have hrecords : RecordRows (vs.map CompactL2PhysicalV2Record.scalars) := recordRows_scalars _
  have hhashed := @physicalV2Hashed_ofRecords _ hvs.wellFormed hvs.fitsLanes hvs.count
    (options'.forChannel channel tradingDay)
  rw [← hserves'.limits] at hhashed
  -- a certificate is given only where the counts are those of the table
  have hcertified : ∀ {report}, CertifiesChannelArtifact context tradingDay channel options
      (.ok report) → channel.CountsTable vs.length := by
    intro report hcertifies
    obtain ⟨artifact, column, groups, hcertificate⟩ :=
      (certifiesChannelArtifact_verified_iff hserves.faultFree hverify).mp hcertifies
    exact countsTable_of_holdsPayloads hserves hhashes hcertificate.toHoldsPayloads
  have hcertified' : ∀ {report'}, CertifiesPhysicalV2ChannelArtifact context' tradingDay channel
      options' (.ok report') → channel.CountsTable vs.length := by
    intro report' hcertifies
    obtain ⟨artifact, metadata, plan, certification, views, hash, hcertificate⟩ :=
      (certifiesPhysicalV2ChannelArtifact_iff hserves'.faultFree).mp hcertifies
    exact countsTable_of_holdsLanes hserves' hview hhashes' hcertificate.toHoldsLanes
  -- so the counts may be assumed, and each layout is certified for the rows it holds
  refine ⟨⟨?_, ?_⟩, ⟨?_, ?_⟩, ?_⟩
  · rintro ⟨report, hcertifies⟩
    have hcounts := hcertified hcertifies
    obtain ⟨hdescribes, -⟩ := ((holdsPayloads_payloadTable hserves hhashes hvs hoptions
      hcounts).certifies_iff hserves.faultFree hverify).mp hcertifies
    exact ⟨hpayloadRows ▸ hdescribes, hcounts⟩
  · rintro ⟨hdescribes, hcounts⟩
    exact ⟨_, ((holdsPayloads_payloadTable hserves hhashes hvs hoptions hcounts).certifies_iff
      hserves.faultFree hverify).mpr ⟨hpayloadRows.symm ▸ hdescribes, rfl⟩⟩
  · rintro ⟨report', hcertifies⟩
    have hcounts := hcertified' hcertifies
    obtain ⟨metadata, plan, certification, hholds⟩ :=
      exists_holdsLanes hserves' hview hhashes' hcounts hhashed
    obtain ⟨⟨-, hdescribes⟩, -⟩ :=
      (hholds.certifies_iff hserves'.faultFree hverify').mp hcertifies
    exact ⟨hscalars ▸ hdescribes, hcounts⟩
  · rintro ⟨hdescribes, hcounts⟩
    obtain ⟨metadata, plan, certification, hholds⟩ :=
      exists_holdsLanes hserves' hview hhashes' hcounts hhashed
    rw [← hscalars] at hdescribes hrecords
    exact ⟨_, (hholds.certifies_iff hserves'.faultFree hverify').mpr
      ⟨⟨hrecords, hdescribes⟩, rfl⟩⟩
  · intro report report' hcertifies hcertifies'
    have hcounts := hcertified hcertifies
    obtain ⟨metadata, plan, certification, hholds'⟩ :=
      exists_holdsLanes hserves' hview hhashes' hcounts hhashed
    obtain ⟨hdescribes, rfl⟩ := ((holdsPayloads_payloadTable hserves hhashes hvs hoptions
      hcounts).certifies_iff hserves.faultFree hverify).mp hcertifies
    obtain ⟨-, rfl⟩ := (hholds'.certifies_iff hserves'.faultFree hverify').mp hcertifies'
    refine ⟨sameFacts hdescribes (rowCount_of_prepared hholds'.prepared _ rfl) hverify hverify'
      (hscalars.trans hpayloadRows.symm), ?_⟩
    have hasked : (options'.forChannel channel tradingDay).verifyLegacyReconstruction =
        options'.verifyLegacyReconstruction := rfl
    rw [hasked]
    cases options'.verifyLegacyReconstruction <;> rfl

end Records

/-- A channel is certified in both layouts, and its records have a hash. -/
def Sample.CertifiedWithHash (sources sources' : Bool → OcbReadSource) (other : Bool)
    (hash : String) : Prop :=
  ∃ report report',
    CertifiesChannelArtifact (contextOf sources) 20240102 (channelOf other) payloadOptions
      (.ok report) ∧
    CertifiesPhysicalV2ChannelArtifact (contextOf sources') 20240102 (channelOf other)
      lanesOptions (.ok report') ∧ report'.legacyPayloadHashFnv1a64 = some hash

/-- Two channels with two records each, and their hashes. -/
theorem certifies_records_sample : ∃ sources sources',
    Sample.CertifiedWithHash sources sources' false "77779a720c3bc8a3" ∧
    Sample.CertifiedWithHash sources sources' true "d30c419ad1780aab" := by
  obtain ⟨t, h, hview⟩ := Sample.exists_laneTables
  have hcertified : ∀ other, Sample.CertifiedWithHash
      (fun other => (Sample.payloadTableOf other).source (Sample.small_payloadTableOf other))
      (fun other => (t other).source (h other)) other
      (fnv1a64Hex ((Sample.recordsOf other).flatMap
        CompactL2PhysicalV2Record.fixedBinaryV1Bytes)) := by
    intro other
    have hverify' : Sample.lanesOptions.verifyScalarContinuity = true := rfl
    obtain ⟨hcertified, hcertified', hsame⟩ := certifies_records (Sample.keptRecords_recordsOf other)
      (hview other) (Sample.servesTable Sample.small_payloadTableOf other)
      (Sample.servesTable h other) (fun _ => Sample.hashesHold_channelOf other _)
      (fun _ => Sample.hashesHold_channelOf other _) Sample.asksFor_payloadOptions rfl hverify'
    have hboth := And.intro (Sample.describes_recordsOf other) (Sample.countsTable_recordsOf other)
    obtain ⟨report, hreport⟩ := hcertified.mpr hboth
    obtain ⟨report', hreport'⟩ := hcertified'.mpr hboth
    exact ⟨report, report', hreport, hreport', (hsame report report' hreport hreport').2⟩
  have hhash : fnv1a64Hex ((Sample.recordsOf false).flatMap
      CompactL2PhysicalV2Record.fixedBinaryV1Bytes) = "77779a720c3bc8a3" := by
    decide +kernel
  have hhash' : fnv1a64Hex ((Sample.recordsOf true).flatMap
      CompactL2PhysicalV2Record.fixedBinaryV1Bytes) = "d30c419ad1780aab" := by
    decide +kernel
  exact ⟨_, _, hhash ▸ hcertified false, hhash' ▸ hcertified true⟩

end ArcadiaTio.Ocb
