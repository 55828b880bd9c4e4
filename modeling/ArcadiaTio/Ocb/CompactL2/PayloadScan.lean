import ArcadiaTio.Ocb.Bundle.ReusablePool
import ArcadiaTio.Ocb.CompactL2.Scan
import ArcadiaTio.Ocb.Manifest.Validate

/-!
# Scanning the payloads of version 1

An artifact of version 1 keeps its records as strings of 168 bytes in one payload column.  The scan
of a certification decodes every record of every row group and compares its day, its channel and its
BizIndex with what the manifest says of the channel.  After the records that it has accepted, its
state is a function of their scalars (`PayloadScan.ofRows`), the same one as for physical version 2,
and it accepts exactly the same rows (`describes_iff_payloadAccepts`,
`describes_iff_physicalV2Accepts`).
-/

namespace ArcadiaTio.Ocb

open ArcadiaTio.Lib

/-! ### The facts of a manifest -/

/-- One channel artifact, with the facts that only a certification looks at. -/
structure ChannelArtifactFactsV1 extends ChannelArtifactEntryV1 where
  minReceiveNano : Option Int64
  maxReceiveNano : Option Int64
  fingerprintFileBytes : Option UInt64

/-- Options for certifying a manifest of version 1. -/
structure CertificationOptions where
  artifactFormat : String
  expectedRecordWidth : UInt32
  payloadColumnName : Text
  verifyPayloadHeader : Bool
  maxRows : Option UInt64
  readThreads : ℕ
  maxInFlightRowGroups : ℕ
  verifyHashes : Bool

/-! ### The scan -/

/-- What a scan has counted so far. -/
structure ChannelPayloadScanState where
  rows : ℕ
  orderRows : ℕ
  tradeRows : ℕ
  firstBizIndex : Option ℕ
  lastBizIndex : Option ℕ
  minReceiveNano : Option ℤ
  maxReceiveNano : Option ℤ
deriving DecidableEq

/-- The state before the first record. -/
def ChannelPayloadScanState.default : ChannelPayloadScanState := ⟨0, 0, 0, none, none, none, none⟩

/-- What the visitor of the scan keeps: its state and the BizIndex that has to come next. -/
structure PayloadScan where
  state : ChannelPayloadScanState
  expectedBizIndex : ℕ
deriving DecidableEq

/-- Count a record as an order or a trade. -/
def ChannelPayloadScanState.countKind (state : ChannelPayloadScanState) :
    CompactL2RecordKind → ChannelPayloadScanState
  | .order => { state with orderRows := saturatingAdd 64 state.orderRows 1 }
  | .trade => { state with tradeRows := saturatingAdd 64 state.tradeRows 1 }

section Scan

variable (channel : ChannelArtifactFactsV1) (tradingDay : UInt32)

/-- Move the scan on by one record. -/
def scanPayloadRecord (scan : PayloadScan) (record : List UInt8) : Result PayloadScan := do
  let header ← decodeCompactL2FixedBinaryHeaderV1 record
  failIf (header.tradingDay ≠ tradingDay)
    (ocbDiagnostic .payloadHeaderMismatch
      (s!"channel-sharded OCB trading day mismatch: channel={channel.channelId} " ++
        s!"expected={tradingDay} observed={header.tradingDay}"))
  failIf (unsignedTryFrom 32 header.channelId.toInt ≠ some channel.channelId.toNat)
    (ocbDiagnostic .channelIdMismatch
      (s!"channel-sharded OCB ChannelID mismatch: expected={channel.channelId} " ++
        s!"observed={header.channelId}"))
  let bizIndex ← okOr (unsignedTryFrom 64 header.bizIndex.toInt)
    (ocbDiagnostic .payloadHeaderMismatch "channel-sharded OCB BizIndex is negative")
  failIf (bizIndex < scan.expectedBizIndex)
    (ocbDiagnostic (bizIndexRegressionKind scan.expectedBizIndex bizIndex)
      (s!"channel-sharded OCB BizIndex regressed: channel={channel.channelId} " ++
        s!"expected={scan.expectedBizIndex} observed={bizIndex}"))
  failIf (bizIndex > scan.expectedBizIndex)
    (ocbDiagnostic .bizIndexGap
      (s!"channel-sharded OCB BizIndex gap: channel={channel.channelId} " ++
        s!"expected={scan.expectedBizIndex} observed={bizIndex}"))
  failIf (bizIndex > channel.lastBizIndex.toNat)
    (ocbDiagnostic .bizIndexGap
      (s!"channel-sharded OCB BizIndex exceeds manifest range: channel={channel.channelId} " ++
        s!"last={channel.lastBizIndex} observed={bizIndex}"))
  let expectedBizIndex ← okOr (checkedAdd 64 scan.expectedBizIndex 1)
    (ocbDiagnostic .bizIndexGap "channel-sharded OCB BizIndex sequence overflows")
  let receiveNano := header.receiveNano.toInt
  let counted := scan.state.countKind header.recordKind
  return {
    state := { counted with
      rows := saturatingAdd 64 scan.state.rows 1
      firstBizIndex := some (scan.state.firstBizIndex.getD bizIndex)
      lastBizIndex := some bizIndex
      minReceiveNano := some (scan.state.minReceiveNano.elim receiveNano (min · receiveNano))
      maxReceiveNano := some (scan.state.maxReceiveNano.elim receiveNano (max · receiveNano)) }
    expectedBizIndex }

variable (options : CertificationOptions)

/-- The records in the payload column of a row group. -/
def payloadRecords (view : ColumnBundleReusableBatchView) : Result (List (List UInt8)) := do
  let column ← view.column 0
  match column.values with
  | .fixedBinary width bytes => do
    failIf (width ≠ options.expectedRecordWidth)
      (ocbDiagnostic .fixedBinaryWidthMismatch
        (s!"channel-sharded OCB payload width mismatch: channel={channel.channelId} " ++
          s!"row_group={view.rowGroupId} expected={options.expectedRecordWidth} " ++
          s!"observed={width}"))
    let expectedBytes ← okOr (checkedMul usizeBits view.rowCount.toNat width.toNat)
      (ocbDiagnostic .rowCountMismatch
        "channel-sharded OCB row group payload byte count overflows")
    failIf (bytes.length < expectedBytes)
      (ocbDiagnostic .rowCountMismatch
        (s!"channel-sharded OCB row group payload byte count mismatch: " ++
          s!"channel={channel.channelId} row_group={view.rowGroupId}"))
    return chunksExact width.toNat (bytes.take expectedBytes)
  | _ => .error (ocbDiagnostic .fixedBinaryWidthMismatch
      "channel-sharded OCB payload column is not fixed-binary")

/-- Scan the payload records of a batch. -/
def scanPayloadBatch (scan : PayloadScan) (view : ColumnBundleReusableBatchView) :
    Result PayloadScan := do
  let records ← payloadRecords channel options view
  records.foldlM (scanPayloadRecord channel tradingDay) scan

end Scan

/-! ### Rows -/

/-- The scalars of the row that a record keeps. -/
def CompactL2PhysicalV2Record.scalars (v : CompactL2PhysicalV2Record) : CompactL2Scalars where
  dayKey := v.tradingDay.toNat
  channelId := v.channelId.toInt
  bizIndex := v.bizIndex.toInt
  receiveNano := v.receiveNano.toInt
  recordKind := v.recordKind.code.toNat

lemma CompactL2PhysicalV2Record.recordKind_scalars (v : CompactL2PhysicalV2Record) :
    v.scalars.recordKind = 1 ∨ v.scalars.recordKind = 2 := by
  rw [scalars]
  cases v.recordKind with
  | order => exact .inl rfl
  | trade => exact .inr rfl

lemma CompactL2PhysicalV2Record.bizIndex_lt (v : CompactL2PhysicalV2Record) :
    v.scalars.bizIndex < 2 ^ 63 := v.bizIndex.toInt_lt

/-- The scan of the payloads of a channel accepts the rows. -/
structure PayloadAccepts (channel : ChannelArtifactFactsV1) (tradingDay : UInt32)
    (rows : List CompactL2Scalars) : Prop where
  tradingDay : ∀ row ∈ rows, row.dayKey = tradingDay.toNat
  channelId : ∀ row ∈ rows, row.channelId = channel.channelId.toNat
  bizIndex : ∀ (i : ℕ) (row : CompactL2Scalars), rows[i]? = some row →
    row.bizIndex = channel.firstBizIndex.toNat + i
  last : ∀ row ∈ rows, row.bizIndex ≤ channel.lastBizIndex.toNat
  bound : ∀ row ∈ rows, row.bizIndex < 2 ^ 63

/-- The state after the rows. -/
def ChannelPayloadScanState.ofRows (rows : List CompactL2Scalars) : ChannelPayloadScanState :=
  let state := PhysicalV2ScanState.ofRows rows
  { rows := state.rows
    orderRows := state.orderRows
    tradeRows := state.tradeRows
    firstBizIndex := state.firstBizIndex
    lastBizIndex := state.lastBizIndex
    minReceiveNano := state.minReceiveNano
    maxReceiveNano := state.maxReceiveNano }

/-- What the visitor keeps after the rows. -/
def PayloadScan.ofRows (channel : ChannelArtifactFactsV1) (rows : List CompactL2Scalars) :
    PayloadScan :=
  ⟨.ofRows rows, channel.firstBizIndex.toNat + rows.length⟩

section Rows

variable {channel : ChannelArtifactFactsV1} {tradingDay : UInt32}
  {rows before : List CompactL2Scalars} {row : CompactL2Scalars}

lemma PayloadAccepts.nil : PayloadAccepts channel tradingDay [] := by
  constructor <;> simp

lemma PayloadAccepts.of_append {rest : List CompactL2Scalars}
    (h : PayloadAccepts channel tradingDay (before ++ rest)) :
    PayloadAccepts channel tradingDay before where
  tradingDay r hr := h.tradingDay r (List.mem_append_left _ hr)
  channelId r hr := h.channelId r (List.mem_append_left _ hr)
  bizIndex i r hr := by
    have hi := (List.getElem?_eq_some_iff.mp hr).1
    exact h.bizIndex i r (by rw [List.getElem?_append_left hi, hr])
  last r hr := h.last r (List.mem_append_left _ hr)
  bound r hr := h.bound r (List.mem_append_left _ hr)

/-- The rows are no more than the BizIndexes that there are. -/
lemma PayloadAccepts.length_le (h : PayloadAccepts channel tradingDay rows) (hne : rows ≠ []) :
    channel.firstBizIndex.toNat + rows.length ≤ 2 ^ 63 := by
  have hpos := List.length_pos_of_ne_nil hne
  have hlt : rows.length - 1 < rows.length := by omega
  have hlast := h.bizIndex _ _ (List.getElem?_eq_getElem hlt)
  have hbound := h.bound _ (List.getElem_mem hlt)
  omega

/-- The rows with one more are accepted when the row is the next one. -/
lemma payloadAccepts_concat : PayloadAccepts channel tradingDay (before ++ [row]) ↔
    PayloadAccepts channel tradingDay before ∧ row.dayKey = tradingDay.toNat ∧
      row.channelId = channel.channelId.toNat ∧
      row.bizIndex = channel.firstBizIndex.toNat + before.length ∧
      row.bizIndex ≤ channel.lastBizIndex.toNat ∧ row.bizIndex < 2 ^ 63 := by
  constructor
  · intro h
    refine ⟨h.of_append, h.tradingDay row (by simp), h.channelId row (by simp), ?_,
      h.last row (by simp), h.bound row (by simp)⟩
    exact h.bizIndex before.length row (by simp)
  · rintro ⟨h, hday, hchannel, hbiz, hlast, hbound⟩
    refine ⟨?_, ?_, ?_, ?_, ?_⟩
    · simpa [or_imp, forall_and] using ⟨h.tradingDay, hday⟩
    · simpa [or_imp, forall_and] using ⟨h.channelId, hchannel⟩
    · intro i r hr
      rcases Nat.lt_trichotomy i before.length with hi | rfl | hi
      · exact h.bizIndex i r (by rwa [List.getElem?_append_left hi] at hr)
      · rw [List.getElem?_append_right le_rfl, Nat.sub_self] at hr
        obtain rfl := Option.some.inj hr
        exact hbiz
      · rw [List.getElem?_eq_none (by simp; omega)] at hr
        cases hr
    · simpa [or_imp, forall_and] using ⟨h.last, hlast⟩
    · simpa [or_imp, forall_and] using ⟨h.bound, hbound⟩

/-- Counting a record by its kind is counting its row. -/
lemma countKind_eq (v : CompactL2PhysicalV2Record) {counted : PhysicalV2ScanState}
    (h : (PhysicalV2ScanState.ofRows before).countKind v.scalars.recordKind = .ok counted) :
    ((ChannelPayloadScanState.ofRows before).countKind v.recordKind).orderRows =
        counted.orderRows ∧
      ((ChannelPayloadScanState.ofRows before).countKind v.recordKind).tradeRows =
        counted.tradeRows := by
  have hcode : v.scalars.recordKind = v.recordKind.code.toNat := rfl
  rcases countKind_eq_ok.mp h with ⟨hkind, rfl⟩ | ⟨hkind, rfl⟩
  · rw [hcode] at hkind
    cases hrecord : v.recordKind with
    | order => exact ⟨rfl, rfl⟩
    | trade =>
      rw [hrecord] at hkind
      exact absurd hkind (by decide)
  · rw [hcode] at hkind
    cases hrecord : v.recordKind with
    | order =>
      rw [hrecord] at hkind
      exact absurd hkind (by decide)
    | trade => exact ⟨rfl, rfl⟩

/-- What the scan keeps of one more row. -/
lemma PayloadScan.ofRows_concat (v : CompactL2PhysicalV2Record)
    (hcount : before.length + 1 < 2 ^ 64) {biz : ℕ} (hbiz : v.scalars.bizIndex = biz) :
    PayloadScan.ofRows channel (before ++ [v.scalars]) =
      { state := { (ChannelPayloadScanState.ofRows before).countKind v.recordKind with
          rows := saturatingAdd 64 (ChannelPayloadScanState.ofRows before).rows 1
          firstBizIndex := some ((ChannelPayloadScanState.ofRows before).firstBizIndex.getD biz)
          lastBizIndex := some biz
          minReceiveNano := some ((ChannelPayloadScanState.ofRows before).minReceiveNano.elim
            v.scalars.receiveNano (min · v.scalars.receiveNano))
          maxReceiveNano := some ((ChannelPayloadScanState.ofRows before).maxReceiveNano.elim
            v.scalars.receiveNano (max · v.scalars.receiveNano)) }
        expectedBizIndex := channel.firstBizIndex.toNat + before.length + 1 } := by
  obtain ⟨counted, hcounted, hstate⟩ :=
    PhysicalV2ScanState.ofRows_concat hcount v.recordKind_scalars
  obtain ⟨horders, htrades⟩ := countKind_eq v hcounted
  have hrows : saturatingAdd 64 (ChannelPayloadScanState.ofRows before).rows 1 =
      before.length + 1 := by
    show saturatingAdd 64 before.length 1 = _
    rw [saturatingAdd]
    omega
  have hbiz' : v.scalars.bizIndex.toNat = biz := by omega
  rw [hbiz'] at hstate
  rw [PayloadScan.ofRows, ChannelPayloadScanState.ofRows, hstate, List.length_append,
    List.length_singleton, ← Nat.add_assoc, PayloadScan.mk.injEq,
    ChannelPayloadScanState.mk.injEq]
  exact ⟨⟨hrows.symm, horders.symm, htrades.symm, rfl, rfl, rfl, rfl⟩, rfl⟩

/-- One record is accepted behind accepted rows exactly when it can be split and its row is the next
one. -/
lemma scanPayloadRecord_eq_ok (hbefore : PayloadAccepts channel tradingDay before)
    {record : List UInt8} {scan : PayloadScan} :
    scanPayloadRecord channel tradingDay (.ofRows channel before) record = .ok scan ↔
      ∃ v, CompactL2PhysicalV2Record.fromFixedBinaryV1 record = .ok v ∧
        PayloadAccepts channel tradingDay (before ++ [v.scalars]) ∧
        scan = .ofRows channel (before ++ [v.scalars]) := by
  have hexpected : (PayloadScan.ofRows channel before).expectedBizIndex =
      channel.firstBizIndex.toNat + before.length := rfl
  constructor
  · intro h
    obtain ⟨header, hheader, h⟩ := bind_eq_ok.mp h
    obtain ⟨v, hsplit, rfl⟩ := CompactL2PhysicalV2Record.decode_eq_ok.mp hheader
    obtain ⟨_, hday, h⟩ := bind_eq_ok.mp h
    obtain ⟨_, hchannel, h⟩ := bind_eq_ok.mp h
    obtain ⟨biz, hbiz, h⟩ := bind_eq_ok.mp h
    obtain ⟨_, hge, h⟩ := bind_eq_ok.mp h
    obtain ⟨_, hle, h⟩ := bind_eq_ok.mp h
    obtain ⟨_, hlast, h⟩ := bind_eq_ok.mp h
    obtain ⟨next, hnext, h⟩ := bind_eq_ok.mp h
    rw [failIf_eq_ok, not_not] at hday hchannel
    rw [unsignedTryFrom_eq_some] at hchannel
    rw [okOr_eq_ok, unsignedTryFrom_eq_some] at hbiz
    rw [failIf_eq_ok, hexpected] at hge hle
    rw [failIf_eq_ok, not_lt] at hlast
    rw [okOr_eq_ok, checkedAdd_eq_some, hexpected] at hnext
    have hvbiz : v.scalars.bizIndex = biz := hbiz.1
    have hday' : v.tradingDay = tradingDay := hday
    refine ⟨v, hsplit, payloadAccepts_concat.mpr ⟨hbefore, ?_, hchannel.1, by omega, by omega,
      v.bizIndex_lt⟩, ?_⟩
    · rw [← hday']
      rfl
    · rw [PayloadScan.ofRows_concat v (by omega) hvbiz]
      cases h
      rw [hnext.1]
      rfl
  · rintro ⟨v, hsplit, haccepts, rfl⟩
    obtain ⟨-, hday, hchannel, hbiz, hlast, hbound⟩ := payloadAccepts_concat.mp haccepts
    have hheader := CompactL2PhysicalV2Record.decode_eq_ok.mpr ⟨v, hsplit, rfl⟩
    have hlength := haccepts.length_le (by simp)
    rw [List.length_append, List.length_singleton] at hlength
    have hbiz' : v.scalars.bizIndex = ((channel.firstBizIndex.toNat + before.length : ℕ) : ℤ) := by
      omega
    have hday' : v.header.tradingDay = tradingDay := by
      have hsame : v.tradingDay.toNat = tradingDay.toNat := Int.ofNat.inj hday
      exact UInt32.toNat_inj.mp hsame
    have hchannel' : unsignedTryFrom 32 v.header.channelId.toInt =
        some channel.channelId.toNat :=
      unsignedTryFrom_eq_some.mpr ⟨hchannel, channel.channelId.toNat_lt⟩
    have hindex : unsignedTryFrom 64 v.header.bizIndex.toInt =
        some (channel.firstBizIndex.toNat + before.length) :=
      unsignedTryFrom_eq_some.mpr ⟨hbiz', by omega⟩
    rw [scanPayloadRecord, hheader, ok_bind, failIf_neg (not_not.mpr hday'), ok_bind,
      failIf_neg (not_not.mpr hchannel'), ok_bind, hindex, okOr_some, ok_bind, hexpected,
      failIf_neg (lt_irrefl _), ok_bind, failIf_neg (lt_irrefl _), ok_bind,
      failIf_neg (by omega), ok_bind, checkedAdd_of_lt (by omega), okOr_some, ok_bind,
      PayloadScan.ofRows_concat v (by omega) hbiz']
    rfl

/-- The records are accepted behind accepted rows exactly when they can be split and all rows are
accepted, and the state is then that of all of them. -/
theorem foldlM_scanPayloadRecord_eq_ok (hbefore : PayloadAccepts channel tradingDay before)
    {records : List (List UInt8)} {scan : PayloadScan} :
    records.foldlM (scanPayloadRecord channel tradingDay) (.ofRows channel before) = .ok scan ↔
      ∃ vs, records.mapM CompactL2PhysicalV2Record.fromFixedBinaryV1 = .ok vs ∧
        PayloadAccepts channel tradingDay
          (before ++ vs.map CompactL2PhysicalV2Record.scalars) ∧
        scan = .ofRows channel (before ++ vs.map CompactL2PhysicalV2Record.scalars) := by
  induction records generalizing before with
  | nil =>
    constructor
    · rintro ⟨⟩
      exact ⟨[], rfl, by simpa using hbefore, by simp⟩
    · rintro ⟨vs, hvs, -, rfl⟩
      obtain rfl : [] = vs := Except.ok.inj hvs
      simp [pure_eq_ok]
  | cons record rest ih =>
    have happend : ∀ (v : CompactL2PhysicalV2Record) vs,
        before ++ (v :: vs).map CompactL2PhysicalV2Record.scalars =
          before ++ [v.scalars] ++ vs.map CompactL2PhysicalV2Record.scalars := by
      simp
    rw [List.foldlM_cons, List.mapM_cons, bind_eq_ok]
    constructor
    · rintro ⟨next, hnext, hrest⟩
      obtain ⟨v, hsplit, haccepts, rfl⟩ := (scanPayloadRecord_eq_ok hbefore).mp hnext
      obtain ⟨vs, hvs, hall, rfl⟩ := (ih haccepts).mp hrest
      refine ⟨v :: vs, ?_, by rwa [happend v vs], by rw [happend v vs]⟩
      rw [hsplit, ok_bind, hvs]
      rfl
    · rintro ⟨all, hall, haccepts, rfl⟩
      obtain ⟨v, hsplit, hall⟩ := bind_eq_ok.mp hall
      obtain ⟨vs, hvs, hall⟩ := bind_eq_ok.mp hall
      obtain rfl := Except.ok.inj hall
      rw [happend v vs] at haccepts
      have hfirst := haccepts.of_append
      exact ⟨_, (scanPayloadRecord_eq_ok hbefore).mpr ⟨v, hsplit, hfirst, rfl⟩,
        (ih hfirst).mpr ⟨vs, hvs, haccepts, congrArg _ (happend v vs)⟩⟩

end Rows

/-! ### What the rows of a channel have to be -/

/-- The rows are what the manifest says of the channel. -/
structure ChannelArtifactFactsV1.Describes (channel : ChannelArtifactFactsV1)
    (tradingDay : UInt32) (rows : List CompactL2Scalars) : Prop where
  tradingDay : ∀ row ∈ rows, row.dayKey = tradingDay.toNat
  channelId : ∀ row ∈ rows, row.channelId = channel.channelId.toNat
  bizIndex : ∀ (i : ℕ) (row : CompactL2Scalars), rows[i]? = some row →
    row.bizIndex = channel.firstBizIndex.toNat + i
  nonempty : rows ≠ []
  rowCount : rows.length = channel.rowCount.toNat
  span : channel.firstBizIndex.toNat + rows.length = channel.lastBizIndex.toNat + 1
  minReceiveNano : ∀ expected ∈ channel.minReceiveNano,
    (rows.map CompactL2Scalars.receiveNano).min? = some expected.toInt
  maxReceiveNano : ∀ expected ∈ channel.maxReceiveNano,
    (rows.map CompactL2Scalars.receiveNano).max? = some expected.toInt
  orderRecordCount : ∀ expected ∈ channel.orderRecordCount,
    rows.countP (·.recordKind = 1) = expected.toNat
  tradeRecordCount : ∀ expected ∈ channel.tradeRecordCount,
    rows.countP (·.recordKind = 2) = expected.toNat

/-- The rows can be those of records. -/
structure RecordRows (rows : List CompactL2Scalars) : Prop where
  recordKind : ∀ row ∈ rows, row.recordKind = 1 ∨ row.recordKind = 2
  bizIndex : ∀ row ∈ rows, row.bizIndex < 2 ^ 63

lemma recordRows_scalars (vs : List CompactL2PhysicalV2Record) :
    RecordRows (vs.map CompactL2PhysicalV2Record.scalars) where
  recordKind := by
    rintro _ hrow
    obtain ⟨v, -, rfl⟩ := List.mem_map.mp hrow
    exact v.recordKind_scalars
  bizIndex := by
    rintro _ hrow
    obtain ⟨v, -, rfl⟩ := List.mem_map.mp hrow
    exact v.bizIndex_lt

/-- The facts of an entry that both certifications compare with the state of their scan. -/
structure ChannelArtifactFactsV1.AgreesWith (channel : ChannelArtifactFactsV1)
    (state : ChannelPayloadScanState) : Prop where
  rows : state.rows = channel.rowCount.toNat
  firstBizIndex : state.firstBizIndex = some channel.firstBizIndex.toNat
  lastBizIndex : state.lastBizIndex = some channel.lastBizIndex.toNat
  minReceiveNano : ∀ expected ∈ channel.minReceiveNano, state.minReceiveNano = some expected.toInt
  maxReceiveNano : ∀ expected ∈ channel.maxReceiveNano, state.maxReceiveNano = some expected.toInt
  orderRecordCount : ∀ expected ∈ channel.orderRecordCount, state.orderRows = expected.toNat
  tradeRecordCount : ∀ expected ∈ channel.tradeRecordCount, state.tradeRows = expected.toNat

section Describes

variable {channel : ChannelArtifactFactsV1} {tradingDay : UInt32} {rows : List CompactL2Scalars}

lemma ChannelArtifactFactsV1.Describes.agreesWith (h : channel.Describes tradingDay rows) :
    channel.AgreesWith (.ofRows rows) where
  rows := h.rowCount
  firstBizIndex := by
    obtain ⟨row, rest, rfl⟩ := List.exists_cons_of_ne_nil h.nonempty
    have hrow : row.bizIndex = channel.firstBizIndex.toNat + (0 : ℕ) := h.bizIndex 0 row rfl
    show some row.bizIndex.toNat = _
    rw [hrow]
    simp
  lastBizIndex := by
    have hpos := List.length_pos_of_ne_nil h.nonempty
    have hlast := h.bizIndex (rows.length - 1) _ (List.getElem?_eq_getElem (by omega))
    have hspan := h.span
    show rows.getLast?.map (·.bizIndex.toNat) = _
    rw [List.getLast?_eq_getElem?, List.getElem?_eq_getElem (by omega), Option.map_some, hlast]
    congr 1
    omega
  minReceiveNano := h.minReceiveNano
  maxReceiveNano := h.maxReceiveNano
  orderRecordCount := h.orderRecordCount
  tradeRecordCount := h.tradeRecordCount

/-- The checks of version 1 on the rows: its scan accepts them, the BizIndex behind them is the one
behind the last of the channel, and the facts of the channel agree with its state. -/
lemma describes_iff_payloadAccepts (hrows : RecordRows rows) : channel.Describes tradingDay rows ↔
    PayloadAccepts channel tradingDay rows ∧
      (PayloadScan.ofRows channel rows).expectedBizIndex =
        saturatingAdd 64 channel.lastBizIndex.toNat 1 ∧
      channel.AgreesWith (.ofRows rows) := by
  have hnext : (PayloadScan.ofRows channel rows).expectedBizIndex =
      channel.firstBizIndex.toNat + rows.length := rfl
  constructor
  · intro h
    have hspan := h.span
    have haccepts : PayloadAccepts channel tradingDay rows := by
      refine ⟨h.tradingDay, h.channelId, h.bizIndex, fun row hrow => ?_, hrows.bizIndex⟩
      obtain ⟨i, hi, rfl⟩ := List.getElem_of_mem hrow
      have hbiz := h.bizIndex i _ (List.getElem?_eq_getElem hi)
      omega
    have hlength := haccepts.length_le h.nonempty
    refine ⟨haccepts, ?_, h.agreesWith⟩
    rw [hnext, saturatingAdd]
    omega
  · rintro ⟨haccepts, hspan, hagrees⟩
    have hne : rows ≠ [] := by
      rintro rfl
      have hfirst := hagrees.firstBizIndex
      cases hfirst
    have hlength := haccepts.length_le hne
    rw [hnext, saturatingAdd] at hspan
    exact ⟨haccepts.tradingDay, haccepts.channelId, haccepts.bizIndex, hne, hagrees.rows, by omega,
      hagrees.minReceiveNano, hagrees.maxReceiveNano, hagrees.orderRecordCount,
      hagrees.tradeRecordCount⟩

/-- Rows that follow each other without a gap are numbered from the first one on. -/
lemma bizIndex_of_consecutive {first : ℤ} (h : Consecutive rows)
    (hfirst : ∀ row ∈ rows.head?, row.bizIndex = first) (i : ℕ) (row : CompactL2Scalars)
    (hrow : rows[i]? = some row) : row.bizIndex = first + i := by
  induction rows generalizing i first with
  | nil => cases hrow
  | cons head rest ih =>
    have hhead : head.bizIndex = first := hfirst head rfl
    cases i with
    | zero =>
      obtain rfl := Option.some.inj hrow
      simpa using hhead
    | succ i =>
      rw [Consecutive, List.isChain_cons] at h
      have hnext := @ih (first + 1) h.2 (fun next hnext => by rw [h.1 next hnext, hhead]) i hrow
      rw [hnext, Nat.cast_succ]
      ring

lemma consecutive_of_bizIndex {first : ℤ}
    (h : ∀ (i : ℕ) (row : CompactL2Scalars), rows[i]? = some row → row.bizIndex = first + i) :
    Consecutive rows := by
  rw [Consecutive, List.isChain_iff_getElem]
  intro i hi
  rw [h i _ (List.getElem?_eq_getElem (by omega)), h (i + 1) _ (List.getElem?_eq_getElem (by omega))]
  push_cast
  ring

/-- The options of physical version 2 expect of the rows what the manifest says of the channel. -/
structure CompactL2PhysicalV2CertificationOptions.ExpectsFacts
    (options : CompactL2PhysicalV2CertificationOptions) (channel : ChannelArtifactFactsV1)
    (tradingDay : UInt32) : Prop where
  tradingDay : options.expectedTradingDay = some tradingDay
  channelId : options.expectedChannelId = some channel.channelId
  firstBizIndex : options.expectedFirstBizIndex = some channel.firstBizIndex
  lastBizIndex : options.expectedLastBizIndex = some channel.lastBizIndex

/-- The checks of physical version 2 on the rows, with the same facts expected. -/
lemma describes_iff_physicalV2Accepts {options : CompactL2PhysicalV2CertificationOptions}
    (hoptions : options.ExpectsFacts channel tradingDay) (hrows : RecordRows rows) :
    channel.Describes tradingDay rows ↔
      PhysicalV2Accepts options rows ∧ channel.AgreesWith (.ofRows rows) := by
  constructor
  · intro h
    refine ⟨⟨fun row hrow => ?_, consecutive_of_bizIndex h.bizIndex, fun expected hexpected row hrow
      => ?_, ?_⟩, h.agreesWith⟩
    · have hday := h.tradingDay row hrow
      have hchannel := h.channelId row hrow
      refine ⟨⟨_, hday, tradingDay.toNat_lt⟩, fun expected hexpected => ?_,
        ⟨_, hchannel, channel.channelId.toNat_lt⟩, fun expected hexpected => ?_, ?_,
        hrows.recordKind row hrow⟩
      · rw [hoptions.tradingDay] at hexpected
        obtain rfl := Option.some.inj hexpected
        exact hday
      · rw [hoptions.channelId] at hexpected
        obtain rfl := Option.some.inj hexpected
        exact hchannel
      · obtain ⟨i, hi, rfl⟩ := List.getElem_of_mem hrow
        have hbiz := h.bizIndex i _ (List.getElem?_eq_getElem hi)
        have hbound := hrows.bizIndex _ hrow
        exact ⟨channel.firstBizIndex.toNat + i, by omega, by omega⟩
    · rw [hoptions.firstBizIndex] at hexpected
      obtain rfl := Option.some.inj hexpected
      have hbiz := h.bizIndex 0 row (by rw [← List.head?_eq_getElem?]; exact hrow)
      simpa using hbiz
    · rw [h.rowCount]
      exact channel.rowCount.toNat_lt
  · rintro ⟨haccepts, hagrees⟩
    have hne : rows ≠ [] := by
      rintro rfl
      have hfirst := hagrees.firstBizIndex
      cases hfirst
    have hbiz := bizIndex_of_consecutive haccepts.consecutive
      (haccepts.first _ hoptions.firstBizIndex)
    refine ⟨fun row hrow => (haccepts.row row hrow).tradingDay _ hoptions.tradingDay,
      fun row hrow => (haccepts.row row hrow).expectedChannelId _ hoptions.channelId, hbiz, hne,
      hagrees.rows, ?_, hagrees.minReceiveNano, hagrees.maxReceiveNano, hagrees.orderRecordCount,
      hagrees.tradeRecordCount⟩
    -- the last row has the last BizIndex of the channel
    have hpos := List.length_pos_of_ne_nil hne
    have hlast : rows.getLast?.map (·.bizIndex.toNat) = some channel.lastBizIndex.toNat :=
      hagrees.lastBizIndex
    rw [List.getLast?_eq_getElem?, List.getElem?_eq_getElem (by omega), Option.map_some] at hlast
    have hindex := hbiz (rows.length - 1) _ (List.getElem?_eq_getElem (by omega))
    have hsame := Option.some.inj hlast
    omega

end Describes

end ArcadiaTio.Ocb
