import ArcadiaTio.Ocb.CompactL2.Expectations
import ArcadiaTio.Ocb.CompactL2.PhysicalV2ChannelCertification

/-!
# Artifacts of records

Some records make up a table with one payload column, and split into lanes a table of twenty
columns.  The files of both tables are artifacts that can be scanned: from the one the records are
read again (`holdsPayloads_payloadTable`), from the other their view (`exists_holdsLanes`), whose
strings have the hash of the payload column (`physicalV2Hashed_ofRecords`).
-/

namespace ArcadiaTio.Ocb

open ArcadiaTio.Lib

/-! ### Serving an image -/

/-- The artifact of a channel is the file of a table. -/
structure ServesTable {State : Type} (context : CertificationContext State)
    (channel : ChannelArtifactFactsV1) {t : TableImage} (h : t.Small) : Prop where
  resolver : context.resolver channel.relativePath = .ok (t.source h)
  limits : context.limits = .policyA

section Serve

variable {State : Type} {context : CertificationContext State} {channel : ChannelArtifactFactsV1}
  {t : TableImage} {h : t.Small} (hserves : ServesTable context channel h)

include hserves

lemma ServesTable.faultFree :
    ∀ source, context.resolver channel.relativePath = .ok source → source.FaultFree := by
  intro source hsource
  rw [hserves.resolver] at hsource
  obtain rfl := Except.ok.inj hsource
  exact OcbReadSource.faultFree_ofBytes _ _

lemma ServesTable.opensArtifact {verifyHashes : Bool}
    (hhashes : verifyHashes = true → channel.HashesHold context.sha256 (t.source h).bytes) :
    OpensArtifact context channel verifyHashes
      ⟨t.file h, verifyHashes && channel.hasHashes⟩ where
  opened := by
    refine ⟨_, hserves.resolver, ?_⟩
    rw [hserves.limits]
    exact TableImage.openFromSource_source h context.zstd
  hashes := hhashes
  checksumVerified := rfl

end Serve

/-! ### Payload columns -/

/-- The table of records as strings in one column. -/
def payloadTable (name : Text) (vs : List CompactL2PhysicalV2Record) : TableImage where
  rowCount := vs.length
  columns := [⟨name, .fixedBinary compactL2FixedBinaryRecordWidthV1.toUInt32
    (vs.flatMap CompactL2PhysicalV2Record.fixedBinaryV1Bytes)⟩]

/-- The payload column of the opened table. -/
def payloadColumn (name : Text) : BundleColumn where
  id := 0
  name := name
  physicalType := .fixedBinary compactL2FixedBinaryRecordWidthV1.toUInt32
  logicalKind := .plain
  dictionaryId := none
  scale := 0
  nullable := false

section Payloads

variable {name : Text} {vs : List CompactL2PhysicalV2Record}

lemma small_payloadTable (hname : name.value.toUTF8.size ≤ 64) (hcount : vs.length ≤ 2 ^ 12) :
    (payloadTable name vs).Small := by
  have hlength := length_flatMap_fixedBinaryV1Bytes vs
  refine ⟨?_, ?_, ?_, List.nodup_singleton _, ?_, ?_⟩
  · show 1 ≤ 64
    omega
  · show vs.length < 2 ^ 32
    omega
  · intro c hc
    obtain rfl := List.mem_singleton.mp hc
    exact hname
  · intro c hc
    obtain rfl := List.mem_singleton.mp hc
    have hsize : vs.length * 168 ≤ 2 ^ 20 := by omega
    exact hlength.trans_le hsize
  · intro c hc
    obtain rfl := List.mem_singleton.mp hc
    exact ⟨by decide, hlength⟩

variable (h : (payloadTable name vs).Small) {options : CertificationOptions}
  {channel : ChannelArtifactFactsV1}

/-- Options that ask for the payload column of the table. -/
structure CertificationOptions.AsksFor (options : CertificationOptions) (name : Text) : Prop where
  payloadColumnName : options.payloadColumnName = name
  expectedRecordWidth : options.expectedRecordWidth =
    compactL2FixedBinaryRecordWidthV1.toUInt32
  maxInFlightRowGroups : options.maxInFlightRowGroups ≤ 2 ^ 10

include h

lemma preparedChannel_payloadTable (hoptions : options.AsksFor name)
    (hcount : vs.length = channel.rowCount.toNat)
    (hgroups : channel.rowGroupCount = 0 ∨ channel.rowGroupCount = 1) :
    PreparedChannel ((payloadTable name vs).file h) options channel (payloadColumn name) where
  described := (ColumnBundleFile.isOk_describe
    (TableImage.openFromSource_source h fun _ _ => ⟨[], true⟩)).mpr
      fun d hd => absurd hd List.not_mem_nil
  rowCount := by
    rw [← UInt64.toNat_inj, ← hcount]
    exact TableImage.toNat_rowCount h
  rowGroupCount := hgroups.imp id fun hone => hone.symm
  mem := List.mem_singleton_self _
  name := hoptions.payloadColumnName.symm
  physicalType := by
    intro _
    rw [hoptions.expectedRecordWidth]
    rfl
  withoutNulls := by
    intro rowGroup hrowGroup chunk hchunk _
    obtain rfl := List.mem_singleton.mp hrowGroup
    have hchunks := chunksAt_of_found (TableImage.checkedChunks_eq_ok h)
    have hmem : chunk ∈ (payloadTable name vs).rowGroupIndex.columnChunks := by
      rw [hchunks]
      exact hchunk
    obtain ⟨i, c, -, rfl⟩ := TableImage.mem_columnChunks hmem
    exact OcbBodyRefV2.isNull_null

/-- There is a pool for the payload column. -/
lemma isOk_pool_payloadTable (hoptions : options.AsksFor name) (hcount : vs.length ≤ 2 ^ 12) :
    IsOk (((payloadTable name vs).file h).reusableBufferPoolForPlan
      (((payloadTable name vs).file h).payloadPlan options (payloadColumn name))
      options.inFlight false) := by
  have hplan : (payloadTable name vs).ReadsTable
      (((payloadTable name vs).file h).payloadPlan options (payloadColumn name)) := ⟨rfl, rfl⟩
  have hinFlight := hoptions.maxInFlightRowGroups
  have hpos : options.inFlight ≠ 0 := by
    rw [CertificationOptions.inFlight]
    omega
  have hle : options.inFlight ≤ 2 ^ 10 := by
    rw [CertificationOptions.inFlight]
    omega
  have hcolumns : projectedColumnsForPlan ((payloadTable name vs).file h).columns
      (((payloadTable name vs).file h).payloadPlan options (payloadColumn name)) =
        .ok [payloadColumn name] := rfl
  -- the capacity of a slot is the one row group of the table
  have hcapacity : maxRowCountForPlan ((payloadTable name vs).file h).metadata
      (((payloadTable name vs).file h).payloadPlan options (payloadColumn name)) =
        .ok vs.length := by
    have hmax : max 0 (payloadTable name vs).rowGroup.rowCount.toNat = vs.length := by
      rw [Nat.zero_max]
      exact TableImage.toNat_rowCount h
    exact congrArg Except.ok hmax
  have hadmitted : validateSlidingInFlightPlanResourceLimits ((payloadTable name vs).file h).metadata
      (((payloadTable name vs).file h).payloadPlan options (payloadColumn name)) options.inFlight =
        .ok () :=
    (validateInFlight_of_owned hplan.rowGroupIds
      (TableImage.validateOwnedPlanResourceLimits_eq_ok h hplan) options.inFlight).2
  have hwidth : reusableValueWidth (payloadColumn name).physicalType = .ok 168 := rfl
  have haccount : [payloadColumn name].foldlM (addReusableColumn vs.length false) 0 =
      .ok (vs.length * 168) := by
    rw [List.foldlM_cons, addReusableColumn, hwidth, ok_bind, checkedMul_of_lt (by omega),
      okOr_some, ok_bind, checkedAdd_of_lt (by omega), Nat.zero_add]
    rfl
  -- 2^12 rows of 168 bytes in 2^10 slots stay below both limits
  have hproduct : vs.length * 168 * options.inFlight ≤ 2 ^ 12 * 168 * 2 ^ 10 :=
    Nat.mul_le_mul (Nat.mul_le_mul_right _ hcount) hle
  have hprojected : ((payloadTable name vs).file
      h).metadata.resourceLimits.maxProjectedRowGroupBytes.toNat = 1073741824 := rfl
  have hmaterialized : ((payloadTable name vs).file
      h).metadata.resourceLimits.maxOwnedDecodedMaterializedBytes.toNat = 17179869184 := rfl
  have hpool : validateReusablePoolAllocationResourceLimits ((payloadTable name vs).file h).metadata
      [payloadColumn name] vs.length options.inFlight false = .ok () := by
    rw [validateReusablePoolAllocationResourceLimits, haccount, ok_bind, failIf_neg (by omega),
      ok_bind, checkedMul_of_lt (by omega), okOr_some, ok_bind, failIf_neg (by omega)]
  have hresized : IsOk ((PrimitiveColumnValues.new (payloadColumn name).physicalType).resizeForRows
      vs.length) := by
    refine PrimitiveColumnValues.isOk_resizeForRows (fun width hwidth => ?_) ?_
    · cases hwidth
      decide
    · have hfit : vs.length * 168 < 2 ^ 64 := by omega
      exact hfit
  have hslot : IsOk (ColumnBundleReusableBuffers.forColumns [payloadColumn name] vs.length
      false) := by
    obtain ⟨values, hvalues⟩ := hresized
    rw [ColumnBundleReusableBuffers.forColumns, List.mapM_cons,
      ColumnBundleReusableColumnBuffer.forColumn, hvalues]
    exact isOk_ok
  obtain ⟨buffers, hbuffers⟩ : IsOk ((List.range options.inFlight).mapM fun _ =>
      ColumnBundleReusableBuffers.forColumns [payloadColumn name] vs.length false) :=
    isOk_mapM.mpr fun _ _ => hslot
  rw [ColumnBundleFile.reusableBufferPoolForPlan, TableImage.validateReadPlan_eq_ok h hplan, ok_bind,
    failIf_neg hpos, ok_bind, hcolumns, ok_bind, hcapacity, ok_bind, hadmitted, ok_bind, hpool,
    ok_bind, hbuffers]
  exact isOk_ok

/-- The payload column keeps the records. -/
lemma keepsPayloads_payloadTable (hoptions : options.AsksFor name)
    (hwell : ∀ v ∈ vs, v.WellFormed) (zstd : ZstdCodec) :
    ((payloadTable name vs).file h).KeepsPayloads zstd (payloadColumn name)
      options.expectedRecordWidth [vs] := by
  refine .cons ⟨(payloadTable name vs).batch, TableImage.readRowGroup_source h zstd, ?_⟩ .nil
  refine ⟨⟨_, rfl, ?_⟩, (TableImage.toNat_rowCount h).symm, hwell⟩
  rw [hoptions.expectedRecordWidth]
  rfl

end Payloads

/-! ### Lanes -/

section Lanes

open CompactL2PhysicalV2BatchView

variable {vs : List CompactL2PhysicalV2Record}

/-- The rows of split records. -/
lemma scalars_ofRecords (hfits : ∀ v ∈ vs, v.FitsLanes) :
    (ofRecords vs).scalars = vs.map CompactL2PhysicalV2Record.scalars := by
  refine List.ext_getElem (by simp [ofRecords]) fun i hi hi' => ?_
  rw [List.length_map] at hi'
  have hcode : (vs[i].recordKind.code.toUInt32.toInt32).toInt = vs[i].recordKind.code.toNat := by
    cases vs[i].recordKind <;> rfl
  simp only [CompactL2PhysicalV2BatchView.scalars, List.getElem_map, List.getElem_range, ofRecords,
    getD_map hi', CompactL2PhysicalV2Record.scalars, hcode,
    toInt_toInt32 (hfits _ (List.getElem_mem hi')).1, Int32.toInt_toInt64]

/-- The strings of the records are put together again from their lanes. -/
lemma append_ofRecords (hwell : ∀ v ∈ vs, v.WellFormed) (hfits : ∀ v ∈ vs, v.FitsLanes)
    (hcount : vs.length ≤ 2 ^ 12) : (ofRecords vs).appendFixedBinaryV1Payloads [] =
      .ok (vs.flatMap CompactL2PhysicalV2Record.fixedBinaryV1Bytes) := by
  have hsplit : (vs.map CompactL2PhysicalV2Record.fixedBinaryV1Bytes).mapM
      CompactL2PhysicalV2Record.fromFixedBinaryV1 = .ok vs := by
    rw [mapM_eq_ok, List.forall₂_map_left_iff, List.forall₂_same]
    intro v hv
    rw [CompactL2PhysicalV2Record.fromFixedBinaryV1_eq_ok]
    exact ⟨v.spells_fixedBinaryV1Bytes, hwell v hv⟩
  have hsize : vs.length * 168 < 2 ^ 63 := by omega
  have hvalid : (ofRecords vs).Valid := valid_ofRecords (by
    have hfit : vs.length * 9 < 2 ^ 64 := by omega
    exact hfit)
  refine (appendFixedBinaryV1Payloads_eq_ok (validate_eq_ok.mpr hvalid)).mpr
    ⟨?_, _, mapM_payloadAt_ofRecords hsplit hfits, ?_⟩
  · rw [List.length_nil, Nat.zero_add]
    exact hsize
  · rw [List.nil_append, List.flatMap_def]

/-- The hash over the lanes of the records is that of their strings. -/
lemma physicalV2Hashed_ofRecords (hwell : ∀ v ∈ vs, v.WellFormed)
    (hfits : ∀ v ∈ vs, v.FitsLanes) (hcount : vs.length ≤ 2 ^ 12)
    {options : CompactL2PhysicalV2CertificationOptions} :
    PhysicalV2Hashed options .policyA [ofRecords vs]
      (if options.verifyLegacyReconstruction then some (CompactL2Fnv1a64.new.update
        (vs.flatMap CompactL2PhysicalV2Record.fixedBinaryV1Bytes)) else none) := by
  have hrowCount : (ofRecords vs).rowCount = vs.length := rfl
  have hwidth : compactL2FixedBinaryRecordWidthV1 = 168 := rfl
  have hlimit : OcbResourceLimits.policyA.maxProjectedRowGroupBytes.toNat = 1073741824 := rfl
  have hbounded : validateLegacyReconstructionResourceLimit .policyA (ofRecords vs).rowCount =
      .ok () := by
    rw [validateLegacyReconstructionResourceLimit, hrowCount, hwidth, checkedMul_of_lt (by omega),
      okOr_some, ok_bind, failIf_neg (by omega)]
  have hpayloads : [ofRecords vs].mapM (reconstructLegacyPayloads .policyA) =
      .ok [vs.flatMap CompactL2PhysicalV2Record.fixedBinaryV1Bytes] := by
    rw [List.mapM_cons, List.mapM_nil, reconstructLegacyPayloads, hbounded, ok_bind,
      append_ofRecords hwell hfits hcount]
    rfl
  rw [PhysicalV2Hashed]
  split
  · exact ⟨_, hpayloads, by rw [List.flatten_singleton]⟩
  · rfl

end Lanes

/-! ### Both layouts -/

/-- Records that both layouts keep, in one row group. -/
structure KeptRecords (vs : List CompactL2PhysicalV2Record) : Prop where
  wellFormed : ∀ v ∈ vs, v.WellFormed
  fitsLanes : ∀ v ∈ vs, v.FitsLanes
  count : vs.length ≤ 2 ^ 12

/-- The metadata of a prepared certification is that of the file. -/
lemma describe_of_prepared {file : ColumnBundleFile}
    {options : CompactL2PhysicalV2CertificationOptions} {metadata : ColumnBundleMetadata}
    {plan : ColumnBundleReadPlan} {certification : ColumnBundleReadPlanCertification}
    (h : preparePhysicalV2Certification options file = .ok (metadata, plan, certification)) :
    file.describe = .ok metadata := by
  obtain ⟨_, -, h⟩ := bind_eq_ok.mp h
  obtain ⟨metadata', hdescribe, h⟩ := bind_eq_ok.mp h
  obtain ⟨_, -, h⟩ := bind_eq_ok.mp h
  obtain ⟨_, -, h⟩ := bind_eq_ok.mp h
  obtain ⟨plan', -, h⟩ := bind_eq_ok.mp h
  obtain ⟨certification', -, h⟩ := bind_eq_ok.mp h
  obtain ⟨_, -, h⟩ := bind_eq_ok.mp h
  cases h
  exact hdescribe

section Both

open CompactL2PhysicalV2BatchView

variable {State State' : Type} {context : CertificationContext State}
  {context' : CertificationContext State'} {channel : ChannelArtifactFactsV1}
  {tradingDay : UInt32} {options : CertificationOptions}
  {options' : CompactL2PhysicalV2ManifestCertificationOptions} {name : Text}
  {vs : List CompactL2PhysicalV2Record}

/-- The counts of an entry are those of a table with one row group. -/
def ChannelArtifactFactsV1.CountsTable (channel : ChannelArtifactFactsV1) (rowCount : ℕ) : Prop :=
  rowCount = channel.rowCount.toNat ∧ (channel.rowGroupCount = 0 ∨ channel.rowGroupCount = 1)

section Payloads

variable {h : (payloadTable name vs).Small} (hserves : ServesTable context channel h)
  (hhashes : options.verifyHashes = true →
    channel.HashesHold context.sha256 ((payloadTable name vs).source h).bytes)

include hserves hhashes

/-- The file of the payload column keeps the records. -/
lemma holdsPayloads_payloadTable (hvs : KeptRecords vs) (hoptions : options.AsksFor name)
    (hcounts : channel.CountsTable vs.length) :
    HoldsPayloads context channel options
      ⟨(payloadTable name vs).file h, options.verifyHashes && channel.hasHashes⟩
      (payloadColumn name) [vs] where
  opens := hserves.opensArtifact hhashes
  prepared := preparedChannel_payloadTable h hoptions hcounts.1 hcounts.2
  admitted := isOk_pool_payloadTable h hoptions hvs.count
  keeps := keepsPayloads_payloadTable h hoptions hvs.wellFormed context.zstd

end Payloads

section Lanes

variable {t : TableImage} {h : t.Small} {view : CompactL2PhysicalV2BatchView}
  (hserves : ServesTable context channel h) (hview : t.HoldsView view)
  (hhashes : options'.verifyHashes = true →
    channel.HashesHold context.sha256 (t.source h).bytes)

include hserves hview hhashes

/-- The file of the lanes is decoded to its view. -/
lemma exists_holdsLanes (hcounts : channel.CountsTable view.rowCount)
    {hash : Option CompactL2Fnv1a64}
    (hhashed : PhysicalV2Hashed (options'.forChannel channel tradingDay) context.limits [view]
      hash) :
    ∃ metadata plan certification, HoldsLanes context tradingDay channel options'
      ⟨t.file h, options'.verifyHashes && channel.hasHashes⟩ metadata plan certification [view]
        hash := by
  have hcount : ∀ expected ∈ (options'.forChannel channel tradingDay).expectedRowCount,
      view.rowCount = expected.toNat := by
    rintro _ ⟨⟩
    exact hcounts.1
  have hmax : ∀ bound ∈ (options'.forChannel channel tradingDay).maxRows,
      view.rowCount ≤ bound.toNat := by
    rintro _ ⟨⟩
    exact hcounts.1.le
  obtain ⟨metadata, plan, certification, hprepared, -, hplan⟩ :=
    hview.exists_prepared h rfl hcount hmax
  have hgroups := (ColumnBundleFile.of_describe (describe_of_prepared hprepared)).2
  refine ⟨metadata, plan, certification, hserves.opensArtifact hhashes, hprepared, ?_,
    TableImage.admitted h hplan, hview.compactL2PhysicalV2Views h context.zstd, hhashed⟩
  rw [hgroups]
  exact hcounts.2.imp id Eq.symm

end Lanes

end Both

/-! ### Examples -/

namespace Sample

/-- The order and the trade that follows it, in their channel or in another one. -/
def recordsOf : Bool → List CompactL2PhysicalV2Record
  | false => [compactL2Order, compactL2Trade]
  | true => [{ compactL2Order with channelId := 2012 }, { compactL2Trade with channelId := 2012 }]

/-- The entry of a manifest for one of the two channels. -/
def channelOf (other : Bool) : ChannelArtifactFactsV1 where
  channelId := if other then 2012 else 2011
  relativePath := if other then "2012.ocb" else "2011.ocb"
  rowCount := 2
  rowGroupCount := 1
  firstBizIndex := 42
  lastBizIndex := 43
  orderRecordCount := some 1
  tradeRecordCount := some 1
  payloadSha256 := none
  fingerprint := none
  minReceiveNano := some 123456789
  maxReceiveNano := some 123456789
  fingerprintFileBytes := none

lemma keptRecords_recordsOf (other : Bool) : KeptRecords (recordsOf other) where
  wellFormed := by
    cases other with
    | false => simpa [recordsOf] using ⟨wellFormed_compactL2Order, wellFormed_compactL2Trade⟩
    | true =>
      have horder : ({ compactL2Order with channelId := 2012 } :
          CompactL2PhysicalV2Record).WellFormed :=
        { wellFormed_compactL2Order with channelId := by decide }
      have htrade : ({ compactL2Trade with channelId := 2012 } :
          CompactL2PhysicalV2Record).WellFormed :=
        { wellFormed_compactL2Trade with channelId := by decide }
      simpa [recordsOf] using ⟨horder, htrade⟩
  fitsLanes := by
    cases other with
    | false => simpa [recordsOf] using ⟨⟨by decide, by decide⟩, by decide, by decide⟩
    | true => simpa [recordsOf] using ⟨⟨by decide, by decide⟩, by decide, by decide⟩
  count := by cases other <;> decide

/-- The entry describes the records. -/
lemma describes_recordsOf (other : Bool) : (channelOf other).Describes 20240102
    ((recordsOf other).map CompactL2PhysicalV2Record.scalars) where
  tradingDay := by cases other <;> decide
  channelId := by cases other <;> decide
  bizIndex i row hrow := by
    obtain ⟨hi, rfl⟩ := List.getElem?_eq_some_iff.mp hrow
    cases other with
    | false =>
      obtain rfl | rfl : i = 0 ∨ i = 1 := by
        have hlength : i < 2 := hi
        omega
      · rfl
      · rfl
    | true =>
      obtain rfl | rfl : i = 0 ∨ i = 1 := by
        have hlength : i < 2 := hi
        omega
      · rfl
      · rfl
  nonempty := by cases other <;> exact List.cons_ne_nil _ _
  rowCount := by cases other <;> rfl
  span := by cases other <;> rfl
  minReceiveNano := by cases other <;> (rintro _ ⟨⟩; rfl)
  maxReceiveNano := by cases other <;> (rintro _ ⟨⟩; rfl)
  orderRecordCount := by cases other <;> (rintro _ ⟨⟩; rfl)
  tradeRecordCount := by cases other <;> (rintro _ ⟨⟩; rfl)

lemma countsTable_recordsOf (other : Bool) :
    (channelOf other).CountsTable (recordsOf other).length := by
  cases other <;> exact ⟨rfl, .inr rfl⟩

/-- The name of the payload column. -/
def payloadColumnName : Text := ⟨"record", by decide⟩

/-- Verify everything there is to verify in payloads. -/
def payloadOptions : CertificationOptions where
  artifactFormat := "compact-fixed-binary-l2-v1"
  expectedRecordWidth := 168
  payloadColumnName := payloadColumnName
  verifyPayloadHeader := true
  maxRows := none
  readThreads := 2
  maxInFlightRowGroups := 2
  verifyHashes := true

lemma asksFor_payloadOptions : payloadOptions.AsksFor payloadColumnName where
  payloadColumnName := rfl
  expectedRecordWidth := rfl
  maxInFlightRowGroups := by decide

/-- Verify everything there is to verify in lanes. -/
def lanesOptions : CompactL2PhysicalV2ManifestCertificationOptions where
  artifactFormat := "compact-l2-physical-v2"
  verifyScalarContinuity := true
  verifyLegacyReconstruction := true
  verifyHashes := true
  maxRows := none
  readThreads := 2
  maxInFlightRowGroups := 2

/-- The resolver that knows the files of both channels. -/
def contextOf (sources : Bool → OcbReadSource) : CertificationContext (List UInt8) :=
  ⟨fun path => .ok (sources (path = "2012.ocb")), fun _ _ => ⟨[], true⟩, sha256, .policyA⟩

/-- The resolver serves tables for both channels. -/
lemma servesTable {t : Bool → TableImage} (h : ∀ other, (t other).Small) (other : Bool) :
    ServesTable (contextOf fun other => (t other).source (h other)) (channelOf other) (h other) := by
  cases other with
  | false => exact ⟨rfl, rfl⟩
  | true => exact ⟨rfl, rfl⟩

lemma hashesHold_channelOf (other : Bool) (bytes : List UInt8) :
    (channelOf other).HashesHold sha256 bytes where
  payloadSha256 := by rintro _ ⟨⟩
  fileBytes := by rintro ⟨⟩
  contentHash := by rintro _ ⟨⟩

/-- The sources of the tables are read without faults. -/
lemma faultFree_contextOf {t : Bool → TableImage} (h : ∀ other, (t other).Small) (path : String) :
    ∀ source, (contextOf fun other => (t other).source (h other)).resolver path = .ok source →
      source.FaultFree := by
  rintro _ ⟨⟩
  exact OcbReadSource.faultFree_ofBytes _ _

/-- The tables of the records in version 1. -/
def payloadTableOf (other : Bool) : TableImage := payloadTable payloadColumnName (recordsOf other)

lemma small_payloadTableOf (other : Bool) : (payloadTableOf other).Small :=
  small_payloadTable (by decide) (keptRecords_recordsOf other).count

/-- The artifacts of the records in version 1 keep them. -/
lemma holdsPayloads_recordsOf (other : Bool) : HoldsPayloads
    (contextOf fun other => (payloadTableOf other).source (small_payloadTableOf other))
    (channelOf other) payloadOptions
    ⟨(payloadTableOf other).file (small_payloadTableOf other),
      payloadOptions.verifyHashes && (channelOf other).hasHashes⟩
    (payloadColumn payloadColumnName) [recordsOf other] :=
  holdsPayloads_payloadTable (servesTable small_payloadTableOf other)
    (fun _ => hashesHold_channelOf other _) (keptRecords_recordsOf other) asksFor_payloadOptions
    (countsTable_recordsOf other)

/-- There are tables of the records in physical version 2. -/
lemma exists_laneTables : ∃ (t : Bool → TableImage) (_ : ∀ other, (t other).Small),
    ∀ other, (t other).HoldsView (.ofRecords (recordsOf other)) := by
  have htable : ∀ other, ∃ t : TableImage, t.Small ∧ t.HoldsView (.ofRecords (recordsOf other)) := by
    intro other
    refine TableImage.exists_holdsView (CompactL2PhysicalV2BatchView.valid_ofRecords ?_) ?_
    · cases other <;> decide
    · cases other <;> decide
  choose t h hview using htable
  exact ⟨t, h, hview⟩

/-- There are artifacts of the records in physical version 2. -/
lemma exists_holdsLanes_recordsOf : ∃ (t : Bool → TableImage) (h : ∀ other, (t other).Small),
    ∀ other, ∃ artifact metadata plan certification hash,
      HoldsLanes (contextOf fun other => (t other).source (h other)) 20240102 (channelOf other)
        lanesOptions artifact metadata plan certification [.ofRecords (recordsOf other)] hash := by
  obtain ⟨t, h, hview⟩ := exists_laneTables
  refine ⟨t, h, fun other => ?_⟩
  have hrecords := keptRecords_recordsOf other
  have hhashed := @physicalV2Hashed_ofRecords _ hrecords.wellFormed hrecords.fitsLanes
    hrecords.count (lanesOptions.forChannel (channelOf other) 20240102)
  obtain ⟨metadata, plan, certification, hholds⟩ := exists_holdsLanes (servesTable h other)
    (hview other) (fun _ => hashesHold_channelOf other _) (countsTable_recordsOf other) hhashed
  exact ⟨_, metadata, plan, certification, _, hholds⟩

lemma scalarsOf_recordsOf (other : Bool) : scalarsOf [.ofRecords (recordsOf other)] =
    (recordsOf other).map CompactL2PhysicalV2Record.scalars := by
  cases other <;> decide

end Sample

end ArcadiaTio.Ocb
