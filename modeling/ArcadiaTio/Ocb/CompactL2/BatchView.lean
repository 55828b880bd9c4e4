import ArcadiaTio.Ocb.Bundle.Planning
import ArcadiaTio.Ocb.CompactL2.Record

/-!
# Batches of compact-L2 lanes

A row group of physical version 2 keeps the lanes of its rows in twenty columns.  A view of the
columns puts each row together as a record of version 1, straight from the columns.  That path
accepts the same rows, with the same bytes, as the path over a split record
(`writeFixedBinaryV1Payload_eq_ok`), and a batch that keeps the lanes of accepted records gives
back their concatenation (`append_ofRecords`).
-/

namespace ArcadiaTio.Ocb

open ArcadiaTio.Lib

/-! ### Columns -/

/-- The column of the trading days. -/
def compactL2DayKeyColumnName : Text := ⟨"day_key", by decide⟩

/-- The column of the channels. -/
def compactL2ChannelIdColumnName : Text := ⟨"channel_id", by decide⟩

/-- The column of the indices in a channel. -/
def compactL2BizIndexColumnName : Text := ⟨"biz_index", by decide⟩

/-- The column of the times of receipt. -/
def compactL2ReceiveNanoColumnName : Text := ⟨"receive_nano", by decide⟩

/-- The column of the ordinals in the source. -/
def compactL2SourceOrdinalColumnName : Text := ⟨"source_ordinal", by decide⟩

/-- The column of the record kinds. -/
def compactL2RecordKindColumnName : Text := ⟨"record_kind", by decide⟩

/-- The column of the source families and exchanges. -/
def compactL2PhysicalV2HeaderBytes1112ColumnName : Text :=
  ⟨"payload_header_bytes_11_12", by decide⟩

/-- The column of the times at the exchange. -/
def compactL2PhysicalV2ExchangeTimeColumnName : Text := ⟨"payload_exchange_time", by decide⟩

/-- The column of the symbols. -/
def compactL2PhysicalV2SymbolColumnName : Text := ⟨"payload_symbol", by decide⟩

/-- The column of the single bytes of the body. -/
def compactL2PhysicalV2BodyBytes8086ColumnName : Text := ⟨"payload_body_bytes_80_86", by decide⟩

/-- The columns of the body words, in the order of their places. -/
def compactL2PhysicalV2BodyWordColumns : Vector Text 10 :=
  #v[⟨"payload_body_word_88", by decide⟩, ⟨"payload_body_word_96", by decide⟩,
    ⟨"payload_body_word_104", by decide⟩, ⟨"payload_body_word_112", by decide⟩,
    ⟨"payload_body_word_120", by decide⟩, ⟨"payload_body_word_128", by decide⟩,
    ⟨"payload_body_word_136", by decide⟩, ⟨"payload_body_word_144", by decide⟩,
    ⟨"payload_body_word_152", by decide⟩, ⟨"payload_body_word_160", by decide⟩]

/-- An error about the columns of a batch. -/
def compactL2V2BatchError (message : String) : ArcadiaTioError :=
  ocbDiagnostic .payloadHeaderMismatch message

/-- The column of a batch with the given name. -/
def compactL2Column (batch : ColumnBatch) (name : Text) : Result ColumnArray :=
  okOr (batch.columns.find? fun column => column.name = name)
    (compactL2V2BatchError s!"compact-L2 column {name.value.quote} missing")

/-- The error of a column that does not have a value for every row. -/
def rowCountMismatch (name : Text) (expected observed : ℕ) : ArcadiaTioError :=
  compactL2V2BatchError <| s!"compact-L2 column {name.value.quote} row count mismatch: " ++
    s!"expected={expected} observed={observed}"

/-- The error of a column with another type. -/
def unexpectedPhysicalType (name : Text) : ArcadiaTioError :=
  compactL2V2BatchError s!"compact-L2 column {name.value.quote} has unexpected physical type"

/-- The values of a column of 32-bit integers. -/
def compactL2ColumnI32 (batch : ColumnBatch) (name : Text) (rowCount : ℕ) :
    Result (List Int32) := do
  let column ← compactL2Column batch name
  match column.values with
  | .i32 values => do
    failIf (values.length ≠ rowCount) (rowCountMismatch name rowCount values.length)
    return values
  | _ => .error (unexpectedPhysicalType name)

/-- The values of a column of 64-bit integers. -/
def compactL2ColumnI64 (batch : ColumnBatch) (name : Text) (rowCount : ℕ) :
    Result (List Int64) := do
  let column ← compactL2Column batch name
  match column.values with
  | .i64 values => do
    failIf (values.length ≠ rowCount) (rowCountMismatch name rowCount values.length)
    return values
  | _ => .error (unexpectedPhysicalType name)

/-- The bytes of a column of records with a width. -/
def compactL2ColumnFixedBinary (batch : ColumnBatch) (name : Text) (rowCount : ℕ)
    (expectedWidth : UInt32) : Result (List UInt8) := do
  let column ← compactL2Column batch name
  match column.values with
  | .fixedBinary width bytes => do
    failIf (width ≠ expectedWidth) (ocbDiagnostic .fixedBinaryWidthMismatch
      (s!"compact-L2 column {name.value.quote} fixed-binary width mismatch: " ++
        s!"expected={expectedWidth} observed={width}"))
    let expectedLen ← okOr (checkedMul usizeBits rowCount expectedWidth.toNat)
      (compactL2V2BatchError "compact-L2 fixed-binary column expected length overflows")
    failIf (bytes.length ≠ expectedLen) (compactL2V2BatchError
      (s!"compact-L2 column {name.value.quote} byte length mismatch: " ++
        s!"expected={expectedLen} observed={bytes.length}"))
    return bytes
  | _ => .error (unexpectedPhysicalType name)

/-! ### Views -/

/-- Borrowed physical-v2 column views for one decoded OCB row-group batch. -/
structure CompactL2PhysicalV2BatchView where
  rowCount : ℕ
  dayKey : List Int32
  channelId : List Int64
  bizIndex : List Int64
  receiveNano : List Int64
  sourceOrdinal : List Int64
  recordKind : List Int32
  headerBytes1112 : List UInt8
  exchangeTime : List Int64
  symbol : List UInt8
  bodyBytes8086 : List UInt8
  bodyWords88160 : Vector (List Int64) 10

/-- A lane has a value for every row. -/
def compactL2ValidateLaneLen (name : Text) (observedLen expectedLen : ℕ) : Result Unit :=
  failIf (observedLen ≠ expectedLen) (compactL2V2BatchError
    (s!"compact-L2 physical-v2 column {name.value.quote} length mismatch: " ++
      s!"expected={expectedLen} observed={observedLen}"))

/-- An unsigned byte, when the value fits it. -/
def u8TryFrom (value : Int32) : Option UInt8 :=
  if 0 ≤ value.toInt ∧ value.toInt < 256 then some value.toInt.toNat.toUInt8 else none

/-- The trading day of a stored day key. -/
def u32FromDayKey (value : Int32) : Result UInt32 :=
  if 0 ≤ value.toInt then .ok value.toUInt32
  else .error (compactL2V2BatchError "compact-L2 day_key is negative")

/-- The channel of a stored channel id. -/
def i32FromChannelId (value : Int64) : Result Int32 :=
  if -2 ^ 31 ≤ value.toInt ∧ value.toInt < 2 ^ 31 then .ok value.toInt32
  else .error (compactL2V2BatchError "compact-L2 channel_id does not fit i32")

/-- The ordinal of a stored source ordinal. -/
def u64FromSourceOrdinal (value : Int64) : Result UInt64 :=
  if 0 ≤ value.toInt then .ok value.toUInt64
  else .error (compactL2V2BatchError "compact-L2 source_ordinal is negative")

namespace CompactL2PhysicalV2BatchView

/-- Build a physical-v2 view from an OCB decoded row-group batch. -/
def fromColumnBatch (batch : ColumnBatch) : Result CompactL2PhysicalV2BatchView := do
  let rowCount := batch.rowCount.toNat
  let dayKey ← compactL2ColumnI32 batch compactL2DayKeyColumnName rowCount
  let channelId ← compactL2ColumnI64 batch compactL2ChannelIdColumnName rowCount
  let bizIndex ← compactL2ColumnI64 batch compactL2BizIndexColumnName rowCount
  let receiveNano ← compactL2ColumnI64 batch compactL2ReceiveNanoColumnName rowCount
  let sourceOrdinal ← compactL2ColumnI64 batch compactL2SourceOrdinalColumnName rowCount
  let recordKind ← compactL2ColumnI32 batch compactL2RecordKindColumnName rowCount
  let headerBytes1112 ←
    compactL2ColumnFixedBinary batch compactL2PhysicalV2HeaderBytes1112ColumnName rowCount 2
  let exchangeTime ← compactL2ColumnI64 batch compactL2PhysicalV2ExchangeTimeColumnName rowCount
  let symbol ← compactL2ColumnFixedBinary batch compactL2PhysicalV2SymbolColumnName rowCount 9
  let bodyBytes8086 ←
    compactL2ColumnFixedBinary batch compactL2PhysicalV2BodyBytes8086ColumnName rowCount 7
  let words ← compactL2PhysicalV2BodyWordColumns.toList.mapM
    fun name => compactL2ColumnI64 batch name rowCount
  if h : words.length = 10 then
    return {
      rowCount, dayKey, channelId, bizIndex, receiveNano, sourceOrdinal, recordKind
      headerBytes1112, exchangeTime, symbol, bodyBytes8086
      bodyWords88160 := ⟨words.toArray, h⟩ }
  else .error (compactL2V2BatchError "compact-L2 physical-v2 body word lane count mismatch")

variable (view : CompactL2PhysicalV2BatchView)

/-- Validate that every borrowed lane has the expected physical length. -/
def validate : Result Unit := do
  compactL2ValidateLaneLen compactL2DayKeyColumnName view.dayKey.length view.rowCount
  compactL2ValidateLaneLen compactL2ChannelIdColumnName view.channelId.length view.rowCount
  compactL2ValidateLaneLen compactL2BizIndexColumnName view.bizIndex.length view.rowCount
  compactL2ValidateLaneLen compactL2ReceiveNanoColumnName view.receiveNano.length view.rowCount
  compactL2ValidateLaneLen compactL2SourceOrdinalColumnName view.sourceOrdinal.length
    view.rowCount
  compactL2ValidateLaneLen compactL2RecordKindColumnName view.recordKind.length view.rowCount
  let headerLen ← okOr (checkedMul usizeBits view.rowCount 2)
    (compactL2V2BatchError "compact-L2 physical-v2 header byte lane length overflows")
  compactL2ValidateLaneLen compactL2PhysicalV2HeaderBytes1112ColumnName
    view.headerBytes1112.length headerLen
  compactL2ValidateLaneLen compactL2PhysicalV2ExchangeTimeColumnName view.exchangeTime.length
    view.rowCount
  let symbolLen ← okOr (checkedMul usizeBits view.rowCount 9)
    (compactL2V2BatchError "compact-L2 physical-v2 symbol lane length overflows")
  compactL2ValidateLaneLen compactL2PhysicalV2SymbolColumnName view.symbol.length symbolLen
  let bodyLen ← okOr (checkedMul usizeBits view.rowCount 7)
    (compactL2V2BatchError "compact-L2 physical-v2 body byte lane length overflows")
  compactL2ValidateLaneLen compactL2PhysicalV2BodyBytes8086ColumnName view.bodyBytes8086.length
    bodyLen
  forM (List.finRange 10) fun slot =>
    compactL2ValidateLaneLen (compactL2PhysicalV2BodyWordColumns.get slot)
      (view.bodyWords88160.get slot).length view.rowCount

/-- The fields of one row with their places, in the order in which they are written. -/
def payloadFields (row : ℕ) (code : UInt8) (tradingDay : UInt32) (channelId : Int32)
    (sourceOrdinal : UInt64) : List (ℕ × List UInt8) :=
  [(0, compactL2FixedIngressMagic),
    (4, u16ToLeBytes compactL2FixedBinarySchemaVersionV1),
    (6, u16ToLeBytes compactL2FixedIngressHeaderLenV1),
    (8, u16ToLeBytes compactL2FixedBinaryRecordWidthV1.toUInt16),
    (10, [code]),
    (11, window view.headerBytes1112 (row * 2) (row * 2 + 2)),
    (16, u32ToLeBytes tradingDay),
    (20, i32ToLeBytes channelId),
    (24, i64ToLeBytes (view.bizIndex.getD row 0)),
    (32, u64ToLeBytes sourceOrdinal),
    (40, i64ToLeBytes (view.receiveNano.getD row 0)),
    (48, i64ToLeBytes (view.exchangeTime.getD row 0)),
    (56, window view.symbol (row * 9) (row * 9 + 9)),
    (80, window view.bodyBytes8086 (row * 7) (row * 7 + 7))] ++
  (List.finRange 10).map fun slot =>
    (compactL2PhysicalV2BodyWordOffsets.get slot,
      i64ToLeBytes ((view.bodyWords88160.get slot).getD row 0))

/-- Put one row together in a buffer, which is cleared before. -/
def writeFixedBinaryV1PayloadUnchecked (row : ℕ) (out : List UInt8) : Result (List UInt8) := do
  failIf (view.rowCount ≤ row)
    (compactL2V2BatchError "compact-L2 physical-v2 row index out of bounds")
  failIf (out.length ≠ compactL2FixedBinaryRecordWidthV1)
    (ocbDiagnostic .fixedBinaryWidthMismatch
      s!"compact-L2 physical-v2 output width mismatch: expected=168 observed={out.length}")
  let cleared := List.replicate out.length 0
  let code ← okOr (u8TryFrom (view.recordKind.getD row 0))
    (compactL2V2BatchError "compact-L2 physical-v2 record_kind does not fit u8")
  let tradingDay ← u32FromDayKey (view.dayKey.getD row 0)
  let channelId ← i32FromChannelId (view.channelId.getD row 0)
  let sourceOrdinal ← u64FromSourceOrdinal (view.sourceOrdinal.getD row 0)
  let record := overwriteAll cleared (view.payloadFields row code tradingDay channelId sourceOrdinal)
  let _ ← decodeCompactL2FixedBinaryHeaderV1 record
  return record

/-- Reconstruct one row into an exact legacy fixed-binary v1 payload buffer. -/
def writeFixedBinaryV1Payload (row : ℕ) (out : List UInt8) : Result (List UInt8) := do
  view.validate
  view.writeFixedBinaryV1PayloadUnchecked row out

/-- Put one row together in its place behind `start` of a longer buffer. -/
def writePayloadRow (start : ℕ) (out : List UInt8) (row : ℕ) : Result (List UInt8) := do
  let base := start + row * compactL2FixedBinaryRecordWidthV1
  let record ← view.writeFixedBinaryV1PayloadUnchecked row
    (window out base (base + compactL2FixedBinaryRecordWidthV1))
  return overwrite out base record

/-- Append exact legacy fixed-binary v1 payload records.  The vector of bytes can grow up to
`isize::MAX`. -/
def appendFixedBinaryV1Payloads (out : List UInt8) : Result (List UInt8) := do
  view.validate
  let additional ← okOr (checkedMul usizeBits view.rowCount compactL2FixedBinaryRecordWidthV1)
    (compactL2V2BatchError "compact-L2 physical-v2 reconstructed payload length overflows")
  let newLen ← okOr (checkedAdd usizeBits out.length additional)
    (compactL2V2BatchError "compact-L2 physical-v2 reconstructed payload length overflows")
  failIf (2 ^ 63 ≤ newLen)
    (.io "compact-L2 reconstructed payload allocation failed within resource limit")
  (List.range view.rowCount).foldlM (view.writePayloadRow out.length)
    (out ++ List.replicate additional 0)

/-! ### Valid views -/

/-- Every lane has the length that the number of rows asks for. -/
structure Valid (view : CompactL2PhysicalV2BatchView) : Prop where
  fits : view.rowCount * 9 < 2 ^ usizeBits
  dayKey : view.dayKey.length = view.rowCount
  channelId : view.channelId.length = view.rowCount
  bizIndex : view.bizIndex.length = view.rowCount
  receiveNano : view.receiveNano.length = view.rowCount
  sourceOrdinal : view.sourceOrdinal.length = view.rowCount
  recordKind : view.recordKind.length = view.rowCount
  headerBytes : view.headerBytes1112.length = view.rowCount * 2
  exchangeTime : view.exchangeTime.length = view.rowCount
  symbol : view.symbol.length = view.rowCount * 9
  bodyBytes : view.bodyBytes8086.length = view.rowCount * 7
  bodyWords : ∀ slot : Fin 10, (view.bodyWords88160.get slot).length = view.rowCount

variable {view : CompactL2PhysicalV2BatchView}

lemma compactL2ValidateLaneLen_eq_ok {name : Text} {observed expected : ℕ} {u : Unit} :
    compactL2ValidateLaneLen name observed expected = .ok u ↔ observed = expected := by
  rw [compactL2ValidateLaneLen, failIf_eq_ok, not_not]

lemma validate_eq_ok : view.validate = .ok () ↔ view.Valid := by
  simp only [validate, bind_eq_ok, compactL2ValidateLaneLen_eq_ok, okOr_eq_ok,
    checkedMul_eq_some, forM_eq_ok, List.mem_finRange, forall_const]
  constructor
  · rintro ⟨-, hday, -, hchannel, -, hbiz, -, hnano, -, hordinal, -, hkind, _, ⟨rfl, -⟩, -,
      hheader, -, htime, _, ⟨rfl, hfits⟩, -, hsymbol, _, ⟨rfl, -⟩, -, hbody, hwords⟩
    exact
      { fits := hfits, dayKey := hday, channelId := hchannel, bizIndex := hbiz
        receiveNano := hnano, sourceOrdinal := hordinal, recordKind := hkind
        headerBytes := hheader, exchangeTime := htime, symbol := hsymbol, bodyBytes := hbody
        bodyWords := hwords }
  · intro h
    have hfits := h.fits
    exact ⟨(), h.dayKey, (), h.channelId, (), h.bizIndex, (), h.receiveNano, (),
      h.sourceOrdinal, (), h.recordKind, _, ⟨rfl, by omega⟩, (), h.headerBytes, (),
      h.exchangeTime, _, ⟨rfl, hfits⟩, (), h.symbol, _, ⟨rfl, by omega⟩, (), h.bodyBytes,
      h.bodyWords⟩

/-! ### One row -/

/-- The record that the lanes hold at a row, when their values fit its fields. -/
def recordAt (view : CompactL2PhysicalV2BatchView) (row : ℕ) :
    Result CompactL2PhysicalV2Record := do
  failIf (view.rowCount ≤ row)
    (compactL2V2BatchError "compact-L2 physical-v2 row index out of bounds")
  let code ← okOr (u8TryFrom (view.recordKind.getD row 0))
    (compactL2V2BatchError "compact-L2 physical-v2 record_kind does not fit u8")
  let recordKind ← recordKindOfCode code
  let tradingDay ← u32FromDayKey (view.dayKey.getD row 0)
  let channelId ← i32FromChannelId (view.channelId.getD row 0)
  let sourceOrdinal ← u64FromSourceOrdinal (view.sourceOrdinal.getD row 0)
  return {
    recordKind, tradingDay, channelId, sourceOrdinal
    sourceFamily := view.headerBytes1112.getD (row * 2) 0
    exchangeId := view.headerBytes1112.getD (row * 2 + 1) 0
    bizIndex := view.bizIndex.getD row 0
    receiveNano := view.receiveNano.getD row 0
    exchangeTime := view.exchangeTime.getD row 0
    symbol := windowVector view.symbol (row * 9) 9
    bodyBytes8086 := windowVector view.bodyBytes8086 (row * 7) 7
    bodyWords88160 := view.bodyWords88160.map fun lane => lane.getD row 0 }

lemma inOrder_payloadFields (hvalid : view.Valid) {row : ℕ} (hrow : row < view.rowCount)
    (code : UInt8) (tradingDay : UInt32) (channelId : Int32) (sourceOrdinal : UInt64) :
    InOrder 0 (view.payloadFields row code tradingDay channelId sourceOrdinal) 168 := by
  have hheader : (window view.headerBytes1112 (row * 2) (row * 2 + 2)).length = 2 := by
    rw [length_window (by rw [hvalid.headerBytes]; omega), Nat.add_sub_cancel_left]
  have hsymbol : (window view.symbol (row * 9) (row * 9 + 9)).length = 9 := by
    rw [length_window (by rw [hvalid.symbol]; omega), Nat.add_sub_cancel_left]
  have hbody : (window view.bodyBytes8086 (row * 7) (row * 7 + 7)).length = 7 := by
    rw [length_window (by rw [hvalid.bodyBytes]; omega), Nat.add_sub_cancel_left]
  have hmagic : compactL2FixedIngressMagic.length = 4 := rfl
  have hwords := (CompactL2PhysicalV2Record.contiguous_bodyWordFields
    (view.bodyWords88160.map fun lane => lane.getD row 0)).inOrder.mono (by omega : 87 ≤ 88)
  simp only [CompactL2PhysicalV2Record.bodyWordFields, Fin.getElem_fin, Vector.getElem_map] at hwords
  simp only [payloadFields, List.cons_append, List.nil_append, InOrder, length_u16ToLeBytes,
    length_u32ToLeBytes, length_u64ToLeBytes, length_i32ToLeBytes, length_i64ToLeBytes, hmagic,
    hheader, hsymbol, hbody, List.length_singleton, Nat.reduceAdd,
    Nat.le_refl, Nat.reduceLeDiff, true_and]
  exact hwords

/-- The bytes of a record that are always zero. -/
def reservedBytes : List (ℕ × ℕ) := [(13, 14), (14, 16), (65, 80), (87, 88)]

/-- No field of a row reaches into the bytes that a record reserves. -/
lemma payloadFields_avoid (hvalid : view.Valid) {row : ℕ} (hrow : row < view.rowCount)
    (code : UInt8) (tradingDay : UInt32) (channelId : Int32) (sourceOrdinal : UInt64) :
    ∀ field ∈ view.payloadFields row code tradingDay channelId sourceOrdinal,
      ∀ reserved ∈ reservedBytes,
        reserved.2 ≤ field.1 ∨ field.1 + field.2.length ≤ reserved.1 := by
  have hheader : (window view.headerBytes1112 (row * 2) (row * 2 + 2)).length = 2 := by
    rw [length_window (by rw [hvalid.headerBytes]; omega), Nat.add_sub_cancel_left]
  have hsymbol : (window view.symbol (row * 9) (row * 9 + 9)).length = 9 := by
    rw [length_window (by rw [hvalid.symbol]; omega), Nat.add_sub_cancel_left]
  have hbody : (window view.bodyBytes8086 (row * 7) (row * 7 + 7)).length = 7 := by
    rw [length_window (by rw [hvalid.bodyBytes]; omega), Nat.add_sub_cancel_left]
  have hmagic : compactL2FixedIngressMagic.length = 4 := rfl
  have hend : ∀ reserved ∈ reservedBytes, reserved.2 ≤ 88 := by decide
  simp only [payloadFields, List.forall_mem_append, List.forall_mem_cons, List.forall_mem_map,
    length_u16ToLeBytes, length_u32ToLeBytes, length_u64ToLeBytes, length_i32ToLeBytes,
    length_i64ToLeBytes, hmagic, hheader, hsymbol, hbody, List.length_singleton, Nat.reduceAdd,
    List.not_mem_nil, false_imp_iff, implies_true, and_true]
  refine ⟨by decide, fun slot _ reserved hreserved => Or.inl ?_⟩
  have hslot : compactL2PhysicalV2BodyWordOffsets.get slot = 88 + 8 * slot :=
    CompactL2PhysicalV2Record.bodyWordOffset slot
  have := hend reserved hreserved
  omega

/-- The buffer of a row is spelled by the record that the lanes hold there. -/
lemma spells_of_recordAt (hvalid : view.Valid) {row : ℕ} {v : CompactL2PhysicalV2Record}
    (hv : view.recordAt row = .ok v) :
    v.Spells (overwriteAll (List.replicate compactL2FixedBinaryRecordWidthV1 0)
      (view.payloadFields row v.recordKind.code v.tradingDay v.channelId v.sourceOrdinal)) := by
  have hwidth : compactL2FixedBinaryRecordWidthV1 = 168 := rfl
  simp only [recordAt, bind_eq_ok, failIf_eq_ok, pure_eq_ok, Except.ok.injEq] at hv
  obtain ⟨-, hrow, code, -, kind, -, day, -, channel, -, ordinal, -, rfl⟩ := hv
  have hrow : row < view.rowCount := by omega
  dsimp only
  have horder : InOrder 0 (view.payloadFields row kind.code day channel ordinal)
      (List.replicate compactL2FixedBinaryRecordWidthV1 (0 : UInt8)).length := by
    rw [List.length_replicate]
    exact inOrder_payloadFields hvalid hrow ..
  have hlength := length_overwriteAll horder
  rw [List.length_replicate] at hlength
  -- what is written
  have hfield := fun (field : ℕ × List UInt8) hmem =>
    window_overwriteAll_of_mem horder (hmem : field ∈ _)
  -- what is left zero
  have hzero : ∀ reserved ∈ reservedBytes, reserved.2 ≤ 168 →
      window (overwriteAll (List.replicate compactL2FixedBinaryRecordWidthV1 (0 : UInt8))
        (view.payloadFields row kind.code day channel ordinal)) reserved.1 reserved.2 =
        List.replicate (reserved.2 - reserved.1) 0 := by
    intro reserved hreserved hle
    rw [window_overwriteAll_of_disjoint horder fun field hmem =>
        payloadFields_avoid hvalid hrow _ _ _ _ field hmem reserved hreserved, window,
      List.take_replicate, List.drop_replicate, hwidth, Nat.min_eq_left hle]
  generalize overwriteAll (List.replicate compactL2FixedBinaryRecordWidthV1 (0 : UInt8))
    (view.payloadFields row kind.code day channel ordinal) = r at hlength hfield hzero ⊢
  have hheader : (window view.headerBytes1112 (row * 2) (row * 2 + 2)).length = 2 := by
    rw [length_window (by rw [hvalid.headerBytes]; omega), Nat.add_sub_cancel_left]
  have hsymbol : (windowVector view.symbol (row * 9) 9).toList =
      window view.symbol (row * 9) (row * 9 + 9) :=
    toList_windowVector (by rw [hvalid.symbol]; omega)
  have hbody : (windowVector view.bodyBytes8086 (row * 7) 7).toList =
      window view.bodyBytes8086 (row * 7) (row * 7 + 7) :=
    toList_windowVector (by rw [hvalid.bodyBytes]; omega)
  have hmagic : compactL2FixedIngressMagic.length = 4 := rfl
  simp only [payloadFields, List.forall_mem_append, List.forall_mem_cons, List.forall_mem_map,
    List.mem_finRange, forall_const, length_u16ToLeBytes, length_u32ToLeBytes,
    length_u64ToLeBytes, length_i32ToLeBytes, length_i64ToLeBytes, hmagic, hheader, ← hsymbol,
    ← hbody, Vector.length_toList, List.length_singleton, Nat.reduceAdd, List.not_mem_nil,
    false_imp_iff, and_true] at hfield
  obtain ⟨⟨h0, h4, h6, h8, h10, h11, h16, h20, h24, h32, h40, h48, h56, h80⟩, hwords⟩ := hfield
  simp only [reservedBytes, List.forall_mem_cons, Nat.reduceLeDiff, Nat.reduceSub, forall_const,
    List.not_mem_nil, false_imp_iff, and_true] at hzero
  obtain ⟨h13, h14, h65, h87⟩ := hzero
  -- the two bytes of the header lane stand side by side
  have hpair : window r 11 12 ++ window r 12 13 = [view.headerBytes1112.getD (row * 2) 0] ++
      [view.headerBytes1112.getD (row * 2 + 1) 0] := by
    rw [window_append_window (by decide) (by decide), h11, ← window_succ, ← window_succ,
      window_append_window (by omega) (by omega)]
    · rw [hvalid.headerBytes]
      omega
    · rw [hvalid.headerBytes]
      omega
  obtain ⟨h11, h12⟩ := List.append_inj hpair (length_window (by rw [hlength]; decide))
  refine CompactL2PhysicalV2Record.eq_fixedBinaryV1Bytes_iff.mp
    (CompactL2PhysicalV2Record.eq_fixedBinaryV1Bytes_iff_windows.mpr ⟨hlength, ?_⟩)
  simp only [CompactL2PhysicalV2Record.fixedBinaryV1Fields,
    CompactL2PhysicalV2Record.bodyWordFields, List.forall_mem_append, List.forall_mem_cons,
    List.forall_mem_map, List.mem_finRange, forall_const, length_u16ToLeBytes,
    length_u32ToLeBytes, length_u64ToLeBytes, length_i32ToLeBytes, length_i64ToLeBytes, hmagic,
    Vector.length_toList, List.length_singleton, List.length_replicate, Nat.reduceAdd,
    List.not_mem_nil, false_imp_iff, and_true, Fin.getElem_fin, Vector.getElem_map]
  exact ⟨⟨h0, h4, h6, h8, h10, h11, h12, h13, h14, h16, h20, h24, h32, h40, h48, h56, h65, h80,
    h87⟩, hwords⟩

lemma recordAt_eq_ok {row : ℕ} {v : CompactL2PhysicalV2Record} : view.recordAt row = .ok v ↔
    row < view.rowCount ∧ u8TryFrom (view.recordKind.getD row 0) = some v.recordKind.code ∧
      u32FromDayKey (view.dayKey.getD row 0) = .ok v.tradingDay ∧
      i32FromChannelId (view.channelId.getD row 0) = .ok v.channelId ∧
      u64FromSourceOrdinal (view.sourceOrdinal.getD row 0) = .ok v.sourceOrdinal ∧
      v.sourceFamily = view.headerBytes1112.getD (row * 2) 0 ∧
      v.exchangeId = view.headerBytes1112.getD (row * 2 + 1) 0 ∧
      v.bizIndex = view.bizIndex.getD row 0 ∧ v.receiveNano = view.receiveNano.getD row 0 ∧
      v.exchangeTime = view.exchangeTime.getD row 0 ∧
      v.symbol = windowVector view.symbol (row * 9) 9 ∧
      v.bodyBytes8086 = windowVector view.bodyBytes8086 (row * 7) 7 ∧
      v.bodyWords88160 = view.bodyWords88160.map fun lane => lane.getD row 0 := by
  simp only [recordAt, bind_eq_ok, failIf_eq_ok, okOr_eq_ok, pure_eq_ok, Except.ok.injEq, not_le,
    CompactL2PhysicalV2Record.recordKindOfCode_eq_ok]
  constructor
  · rintro ⟨-, hrow, code, hcode, kind, rfl, day, hday, channel, hchannel, ordinal, hordinal, rfl⟩
    exact ⟨hrow, hcode, hday, hchannel, hordinal, rfl, rfl, rfl, rfl, rfl, rfl, rfl, rfl⟩
  · rintro ⟨hrow, hcode, hday, hchannel, hordinal, h1, h2, h3, h4, h5, h6, h7, h8⟩
    refine ⟨(), hrow, _, hcode, _, rfl, _, hday, _, hchannel, _, hordinal, ?_⟩
    rw [← h1, ← h2, ← h3, ← h4, ← h5, ← h6, ← h7, ← h8]

/-- The batch path and the record path accept the same rows, with the same bytes. -/
lemma writeFixedBinaryV1PayloadUnchecked_eq_ok (hvalid : view.Valid) {row : ℕ}
    {out record : List UInt8} (hout : out.length = compactL2FixedBinaryRecordWidthV1) :
    view.writeFixedBinaryV1PayloadUnchecked row out = .ok record ↔
      ∃ v, view.recordAt row = .ok v ∧ v.toFixedBinaryV1 = .ok record := by
  simp only [writeFixedBinaryV1PayloadUnchecked, bind_eq_ok, failIf_eq_ok, okOr_eq_ok, pure_eq_ok,
    Except.ok.injEq, not_le, hout]
  constructor
  · rintro ⟨-, hrow, -, -, code, hcode, day, hday, channel, hchannel, ordinal, hordinal, header,
      hdecode, hrecord⟩
    obtain ⟨w, hw, hwell, -⟩ := CompactL2PhysicalV2Record.exists_spells_of_decode hdecode
    -- the byte of the record kind stands where the decoder reads it
    have hkind : code = w.recordKind.code := by
      have horder : InOrder 0 (view.payloadFields row code day channel ordinal)
          (List.replicate compactL2FixedBinaryRecordWidthV1 (0 : UInt8)).length := by
        rw [List.length_replicate]
        exact inOrder_payloadFields hvalid hrow ..
      have hmem : (10, [code]) ∈ view.payloadFields row code day channel ordinal := by
        simp [payloadFields]
      have hwindow := window_overwriteAll_of_mem horder hmem
      have hten : 10 < (overwriteAll (List.replicate compactL2FixedBinaryRecordWidthV1 (0 : UInt8))
          (view.payloadFields row code day channel ordinal)).length := by
        rw [hw.length]
        decide
      have hbyte := (window_succ hten (a := 0)).symm.trans hwindow
      rw [hw.recordKind] at hbyte
      exact (List.singleton_inj.mp hbyte).symm
    subst hkind
    have hv : view.recordAt row = .ok
        { recordKind := w.recordKind, tradingDay := day, channelId := channel
          sourceOrdinal := ordinal, sourceFamily := view.headerBytes1112.getD (row * 2) 0
          exchangeId := view.headerBytes1112.getD (row * 2 + 1) 0
          bizIndex := view.bizIndex.getD row 0, receiveNano := view.receiveNano.getD row 0
          exchangeTime := view.exchangeTime.getD row 0
          symbol := windowVector view.symbol (row * 9) 9
          bodyBytes8086 := windowVector view.bodyBytes8086 (row * 7) 7
          bodyWords88160 := view.bodyWords88160.map fun lane => lane.getD row 0 } :=
      recordAt_eq_ok.mpr
        ⟨hrow, hcode, hday, hchannel, hordinal, rfl, rfl, rfl, rfl, rfl, rfl, rfl, rfl⟩
    have hspells := spells_of_recordAt hvalid hv
    rw [hw.unique hspells] at hwell
    refine ⟨_, hv, CompactL2PhysicalV2Record.toFixedBinaryV1_eq_ok.mpr ⟨?_, hwell⟩⟩
    rw [← hrecord]
    exact CompactL2PhysicalV2Record.eq_fixedBinaryV1Bytes_iff.mpr hspells
  · rintro ⟨v, hv, hto⟩
    obtain ⟨hrecord, hwell⟩ := CompactL2PhysicalV2Record.toFixedBinaryV1_eq_ok.mp hto
    have hspells := spells_of_recordAt hvalid hv
    obtain ⟨hrow, hcode, hday, hchannel, hordinal, -⟩ := recordAt_eq_ok.mp hv
    refine ⟨(), hrow, (), not_not.mpr rfl, _, hcode, _, hday, _, hchannel, _, hordinal, v.header,
      hspells.decode hwell, ?_⟩
    rw [hrecord]
    exact CompactL2PhysicalV2Record.eq_fixedBinaryV1Bytes_iff.mpr hspells

theorem writeFixedBinaryV1Payload_eq_ok (hvalid : view.validate = .ok ()) {row : ℕ}
    {out record : List UInt8} (hout : out.length = compactL2FixedBinaryRecordWidthV1) :
    view.writeFixedBinaryV1Payload row out = .ok record ↔
      ∃ v, view.recordAt row = .ok v ∧ v.toFixedBinaryV1 = .ok record := by
  rw [writeFixedBinaryV1Payload, hvalid, ok_bind,
    writeFixedBinaryV1PayloadUnchecked_eq_ok (validate_eq_ok.mp hvalid) hout]

/-! ### All rows -/

/-- The record of a row in bytes, over its lanes. -/
def payloadAt (view : CompactL2PhysicalV2BatchView) (row : ℕ) : Result (List UInt8) := do
  let v ← view.recordAt row
  v.toFixedBinaryV1

lemma payloadAt_eq_ok {row : ℕ} {record : List UInt8} : view.payloadAt row = .ok record ↔
    ∃ v, view.recordAt row = .ok v ∧ v.toFixedBinaryV1 = .ok record := bind_eq_ok

lemma length_of_payloadAt {row : ℕ} {record : List UInt8} (h : view.payloadAt row = .ok record) :
    record.length = compactL2FixedBinaryRecordWidthV1 := by
  obtain ⟨v, -, hto⟩ := bind_eq_ok.mp h
  rw [(CompactL2PhysicalV2Record.toFixedBinaryV1_eq_ok.mp hto).1]
  exact v.length_fixedBinaryV1Bytes

lemma length_flatten_of_mapM_payloadAt {rows : List ℕ} {records : List (List UInt8)}
    (h : rows.mapM view.payloadAt = .ok records) :
    records.flatten.length = rows.length * compactL2FixedBinaryRecordWidthV1 := by
  induction rows generalizing records with
  | nil =>
    cases h
    rfl
  | cons row rows ih =>
    rw [List.mapM_cons] at h
    obtain ⟨record, hrecord, h⟩ := bind_eq_ok.mp h
    obtain ⟨rest, hrest, hpure⟩ := bind_eq_ok.mp h
    cases hpure
    rw [List.flatten_cons, List.length_append, ih hrest, length_of_payloadAt hrecord,
      List.length_cons]
    ring

section Grown

variable {out before : List UInt8} {count row : ℕ} (hrow : row < count)
  (hbefore : before.length = row * compactL2FixedBinaryRecordWidthV1)

include hrow hbefore

variable (out) in
/-- The place of a row in the vector that has been grown for all of them. -/
lemma length_window_grown :
    (window (out ++ (before ++
        List.replicate ((count - row) * compactL2FixedBinaryRecordWidthV1) 0))
      (out.length + row * compactL2FixedBinaryRecordWidthV1)
      (out.length + row * compactL2FixedBinaryRecordWidthV1 +
        compactL2FixedBinaryRecordWidthV1)).length = compactL2FixedBinaryRecordWidthV1 := by
  have hwidth : compactL2FixedBinaryRecordWidthV1 = 168 := rfl
  rw [hwidth] at hbefore ⊢
  rw [length_window, Nat.add_sub_cancel_left]
  simp only [List.length_append, List.length_replicate]
  omega

/-- A row put in its place. -/
lemma overwrite_grown {record : List UInt8}
    (hlength : record.length = compactL2FixedBinaryRecordWidthV1) :
    overwrite (out ++ (before ++
        List.replicate ((count - row) * compactL2FixedBinaryRecordWidthV1) 0))
      (out.length + row * compactL2FixedBinaryRecordWidthV1) record =
    out ++ (before ++ (record ++
      List.replicate ((count - (row + 1)) * compactL2FixedBinaryRecordWidthV1) 0)) := by
  have hwidth : compactL2FixedBinaryRecordWidthV1 = 168 := rfl
  have hrest : (count - row) * 168 = 168 + (count - (row + 1)) * 168 := by omega
  rw [hwidth] at hbefore hlength ⊢
  have hleft : (out ++ before).length = out.length + row * 168 := by
    rw [List.length_append, hbefore]
  rw [← List.append_assoc out before, overwrite, List.take_append_of_le_length hleft.ge,
    List.take_of_length_le hleft.le, List.drop_append, List.drop_eq_nil_of_le (by omega),
    List.nil_append, List.drop_replicate, hleft, hlength, Nat.add_sub_cancel_left, hrest,
    Nat.add_sub_cancel_left, List.append_assoc]

end Grown

/-- What one step of the loop makes of the rows before. -/
lemma writePayloadRow_eq_ok (hvalid : view.Valid) {out before : List UInt8} {row : ℕ}
    (hrow : row < view.rowCount)
    (hbefore : before.length = row * compactL2FixedBinaryRecordWidthV1) {out' : List UInt8} :
    view.writePayloadRow out.length (out ++ (before ++
        List.replicate ((view.rowCount - row) * compactL2FixedBinaryRecordWidthV1) 0)) row =
      .ok out' ↔ ∃ record, view.payloadAt row = .ok record ∧
        out' = out ++ (before ++ (record ++
          List.replicate ((view.rowCount - (row + 1)) * compactL2FixedBinaryRecordWidthV1) 0)) := by
  rw [writePayloadRow, bind_eq_ok]
  refine exists_congr fun record => ?_
  rw [writeFixedBinaryV1PayloadUnchecked_eq_ok hvalid (length_window_grown _ hrow hbefore),
    ← payloadAt_eq_ok]
  refine and_congr_right fun hrecord => ?_
  rw [overwrite_grown hrow hbefore (length_of_payloadAt hrecord), pure_eq_ok, Except.ok.injEq,
    eq_comm]

/-- The loop over the first rows. -/
lemma foldlM_writePayloadRow_eq_ok (hvalid : view.Valid) {out out' : List UInt8} {k : ℕ}
    (hk : k ≤ view.rowCount) :
    (List.range k).foldlM (view.writePayloadRow out.length)
        (out ++ List.replicate (view.rowCount * compactL2FixedBinaryRecordWidthV1) 0) = .ok out' ↔
      ∃ records, (List.range k).mapM view.payloadAt = .ok records ∧
        out' = out ++ (records.flatten ++
          List.replicate ((view.rowCount - k) * compactL2FixedBinaryRecordWidthV1) 0) := by
  induction k generalizing out' with
  | zero =>
    simp only [List.range_zero, List.foldlM_nil, List.mapM_nil, pure_eq_ok, Except.ok.injEq]
    constructor
    · rintro rfl
      exact ⟨[], rfl, rfl⟩
    · rintro ⟨_, rfl, rfl⟩
      rfl
  | succ k ih =>
    have hk' : k < view.rowCount := hk
    rw [List.range_succ, List.foldlM_append, List.mapM_append, bind_eq_ok]
    constructor
    · rintro ⟨middle, hmiddle, hstep⟩
      obtain ⟨records, hrecords, rfl⟩ := (ih hk'.le).mp hmiddle
      have hlength := length_flatten_of_mapM_payloadAt hrecords
      rw [List.length_range] at hlength
      obtain ⟨out₁, hrow, hpure⟩ := bind_eq_ok.mp hstep
      cases hpure
      obtain ⟨record, hrecord, rfl⟩ := (writePayloadRow_eq_ok hvalid hk' hlength).mp hrow
      refine ⟨records ++ [record], ?_, ?_⟩
      · rw [hrecords, ok_bind, List.mapM_cons, List.mapM_nil, hrecord]
        rfl
      · rw [List.flatten_append, List.flatten_singleton, List.append_assoc]
    · rintro ⟨records, hrecords, rfl⟩
      obtain ⟨before, hbefore, htail⟩ := bind_eq_ok.mp hrecords
      obtain ⟨last, hlast, hpure⟩ := bind_eq_ok.mp htail
      obtain rfl : before ++ last = records := Except.ok.inj hpure
      clear hrecords htail hpure
      rw [List.mapM_cons, List.mapM_nil] at hlast
      obtain ⟨record, hrecord, hsingle⟩ := bind_eq_ok.mp hlast
      obtain rfl : [record] = last := Except.ok.inj hsingle
      have hlength := length_flatten_of_mapM_payloadAt hbefore
      rw [List.length_range] at hlength
      refine ⟨_, (ih hk'.le).mpr ⟨before, hbefore, rfl⟩, ?_⟩
      rw [List.foldlM_cons, (writePayloadRow_eq_ok hvalid hk' hlength).mpr ⟨record, hrecord, rfl⟩,
        List.flatten_append, List.flatten_singleton, List.append_assoc]
      rfl

/-- What appending the rows of a valid view returns. -/
lemma appendFixedBinaryV1Payloads_eq_ok (hvalid : view.validate = .ok ()) {out out' : List UInt8} :
    view.appendFixedBinaryV1Payloads out = .ok out' ↔
      out.length + view.rowCount * compactL2FixedBinaryRecordWidthV1 < 2 ^ 63 ∧
        ∃ records, (List.range view.rowCount).mapM view.payloadAt = .ok records ∧
          out' = out ++ records.flatten := by
  have hvalid' := validate_eq_ok.mp hvalid
  have hbits : usizeBits = 64 := rfl
  rw [appendFixedBinaryV1Payloads, hvalid, ok_bind]
  simp only [bind_eq_ok, okOr_eq_ok, checkedMul_eq_some, checkedAdd_eq_some, failIf_eq_ok, hbits]
  constructor
  · rintro ⟨_, ⟨rfl, -⟩, _, ⟨rfl, -⟩, -, hfits, hloop⟩
    obtain ⟨records, hrecords, rfl⟩ := (foldlM_writePayloadRow_eq_ok hvalid' le_rfl).mp hloop
    refine ⟨by omega, records, hrecords, ?_⟩
    rw [Nat.sub_self, Nat.zero_mul, List.replicate_zero, List.append_nil]
  · rintro ⟨hfits, records, hrecords, rfl⟩
    refine ⟨_, ⟨rfl, by omega⟩, _, ⟨rfl, by omega⟩, (), by omega,
      (foldlM_writePayloadRow_eq_ok hvalid' le_rfl).mpr ⟨records, hrecords, ?_⟩⟩
    rw [Nat.sub_self, Nat.zero_mul, List.replicate_zero, List.append_nil]

/-! ### The lanes of split records -/

/-- The view whose lanes hold the given records. -/
def ofRecords (records : List CompactL2PhysicalV2Record) : CompactL2PhysicalV2BatchView where
  rowCount := records.length
  dayKey := records.map fun v => v.tradingDay.toInt32
  channelId := records.map fun v => v.channelId.toInt64
  bizIndex := records.map fun v => v.bizIndex
  receiveNano := records.map fun v => v.receiveNano
  sourceOrdinal := records.map fun v => v.sourceOrdinal.toInt64
  recordKind := records.map fun v => v.recordKind.code.toUInt32.toInt32
  headerBytes1112 := records.flatMap fun v => [v.sourceFamily, v.exchangeId]
  exchangeTime := records.map fun v => v.exchangeTime
  symbol := records.flatMap fun v => v.symbol.toList
  bodyBytes8086 := records.flatMap fun v => v.bodyBytes8086.toList
  bodyWords88160 := Vector.ofFn fun slot => records.map fun v => v.bodyWords88160.get slot

variable {records : List CompactL2PhysicalV2Record}

lemma valid_ofRecords (h : records.length * 9 < 2 ^ usizeBits) : (ofRecords records).Valid where
  fits := h
  dayKey := List.length_map ..
  channelId := List.length_map ..
  bizIndex := List.length_map ..
  receiveNano := List.length_map ..
  sourceOrdinal := List.length_map ..
  recordKind := List.length_map ..
  headerBytes := by simp [ofRecords, List.length_flatMap]
  exchangeTime := List.length_map ..
  symbol := by simp [ofRecords, List.length_flatMap]
  bodyBytes := by simp [ofRecords, List.length_flatMap]
  bodyWords slot := by simp [ofRecords, Vector.get]

lemma u8TryFrom_code (kind : CompactL2RecordKind) :
    u8TryFrom kind.code.toUInt32.toInt32 = some kind.code := by
  cases kind <;> decide

lemma toInt_toInt32 {x : UInt32} (h : x.toNat < 2 ^ 31) : x.toInt32.toInt = x.toNat :=
  BitVec.toInt_eq_toNat_of_lt (x := x.toBitVec) (by show 2 * x.toNat < 2 ^ 32; omega)

lemma toInt_toInt64 {x : UInt64} (h : x.toNat < 2 ^ 63) : x.toInt64.toInt = x.toNat :=
  BitVec.toInt_eq_toNat_of_lt (x := x.toBitVec) (by show 2 * x.toNat < 2 ^ 64; omega)

lemma u32FromDayKey_toInt32 {day : UInt32} (h : day.toNat < 2 ^ 31) :
    u32FromDayKey day.toInt32 = .ok day := by
  rw [u32FromDayKey, toInt_toInt32 h, if_pos (Int.natCast_nonneg _), UInt32.toUInt32_toInt32]

lemma i32FromChannelId_toInt64 (channel : Int32) :
    i32FromChannelId channel.toInt64 = .ok channel := by
  rw [i32FromChannelId, Int32.toInt_toInt64, if_pos ⟨channel.le_toInt, channel.toInt_lt⟩,
    Int32.toInt32_toInt64]

lemma u64FromSourceOrdinal_toInt64 {ordinal : UInt64} (h : ordinal.toNat < 2 ^ 63) :
    u64FromSourceOrdinal ordinal.toInt64 = .ok ordinal := by
  rw [u64FromSourceOrdinal, toInt_toInt64 h, if_pos (Int.natCast_nonneg _),
    UInt64.toUInt64_toInt64]

lemma getD_map {α β : Type} {f : α → β} {l : List α} {i : ℕ} (h : i < l.length) (d : β) :
    (l.map f).getD i d = f l[i] := by
  rw [List.getD_eq_getElem?_getD, List.getElem?_map, List.getElem?_eq_getElem h]
  rfl

/-- The lanes of split records hold these records. -/
lemma recordAt_ofRecords {row : ℕ} (hrow : row < records.length) (hfits : records[row].FitsLanes) :
    (ofRecords records).recordAt row = .ok records[row] := by
  have hpiece : ∀ {n : ℕ} {f : CompactL2PhysicalV2Record → List UInt8} (hf : ∀ v, (f v).length = n)
      {k : ℕ} (hk : k < n), (records.flatMap f).getD (row * n + k) 0 = (f records[row]).getD k 0 := by
    intro n f hf k hk
    rw [List.getD_eq_getElem?_getD, getElem?_flatMap hf hk, List.getElem?_eq_getElem hrow,
      List.getD_eq_getElem?_getD]
    rfl
  have hvector : ∀ {n : ℕ} (f : CompactL2PhysicalV2Record → Vector UInt8 n),
      f records[row] = windowVector (records.flatMap fun v => (f v).toList) (row * n) n := by
    intro n f
    refine Vector.ext fun k hk => ?_
    rw [windowVector, Vector.getElem_ofFn]
    refine Eq.trans ?_ (hpiece (fun v => (f v).length_toList) hk).symm
    rw [List.getD_eq_getElem?_getD, List.getElem?_eq_getElem (by simpa using hk)]
    simp
  rw [recordAt_eq_ok]
  refine ⟨hrow, ?_, ?_, ?_, ?_, ?_, ?_, ?_, ?_, ?_, ?_, ?_, ?_⟩
  · rw [ofRecords, getD_map hrow, u8TryFrom_code]
  · rw [ofRecords, getD_map hrow, u32FromDayKey_toInt32 hfits.1]
  · rw [ofRecords, getD_map hrow, i32FromChannelId_toInt64]
  · rw [ofRecords, getD_map hrow, u64FromSourceOrdinal_toInt64 hfits.2]
  · exact (hpiece (n := 2) (f := fun v => [v.sourceFamily, v.exchangeId]) (k := 0)
      (fun _ => rfl) (by decide)).symm
  · exact (hpiece (n := 2) (f := fun v => [v.sourceFamily, v.exchangeId]) (k := 1)
      (fun _ => rfl) (by decide)).symm
  · rw [ofRecords, getD_map hrow]
  · rw [ofRecords, getD_map hrow]
  · rw [ofRecords, getD_map hrow]
  · exact hvector fun v => v.symbol
  · exact hvector fun v => v.bodyBytes8086
  · ext k hk
    rw [Vector.getElem_map, ofRecords, Vector.getElem_ofFn, getD_map hrow]
    rfl

/-! ### Columns that hold lanes -/

/-- The values that a batch keeps under a name. -/
def valuesOf (batch : ColumnBatch) (name : Text) : Option PrimitiveColumnValues :=
  (batch.columns.find? fun column => column.name = name).map ColumnArray.values

/-- The lanes of a view by the names of their columns. -/
def lanes (view : CompactL2PhysicalV2BatchView) : List (Text × PrimitiveColumnValues) :=
  [(compactL2DayKeyColumnName, .i32 view.dayKey),
    (compactL2ChannelIdColumnName, .i64 view.channelId),
    (compactL2BizIndexColumnName, .i64 view.bizIndex),
    (compactL2ReceiveNanoColumnName, .i64 view.receiveNano),
    (compactL2SourceOrdinalColumnName, .i64 view.sourceOrdinal),
    (compactL2RecordKindColumnName, .i32 view.recordKind),
    (compactL2PhysicalV2HeaderBytes1112ColumnName, .fixedBinary 2 view.headerBytes1112),
    (compactL2PhysicalV2ExchangeTimeColumnName, .i64 view.exchangeTime),
    (compactL2PhysicalV2SymbolColumnName, .fixedBinary 9 view.symbol),
    (compactL2PhysicalV2BodyBytes8086ColumnName, .fixedBinary 7 view.bodyBytes8086)] ++
  (List.finRange 10).map fun slot =>
    (compactL2PhysicalV2BodyWordColumns.get slot, .i64 (view.bodyWords88160.get slot))

variable {batch : ColumnBatch} {name : Text} {n : ℕ}

lemma compactL2ColumnI32_eq_ok {l : List Int32} : compactL2ColumnI32 batch name n = .ok l ↔
    valuesOf batch name = some (.i32 l) ∧ l.length = n := by
  rw [compactL2ColumnI32, compactL2Column, valuesOf]
  cases batch.columns.find? fun column => column.name = name with
  | none => simp
  | some column =>
    simp only [okOr_some, ok_bind, Option.map_some, Option.some.injEq]
    cases column.values with
    | i32 values =>
      simp only [bind_eq_ok, failIf_eq_ok, not_not, pure_eq_ok, Except.ok.injEq,
        PrimitiveColumnValues.i32.injEq]
      constructor
      · rintro ⟨-, hlength, rfl⟩
        exact ⟨rfl, hlength⟩
      · rintro ⟨rfl, hlength⟩
        exact ⟨(), hlength, rfl⟩
    | _ => simp

lemma compactL2ColumnI64_eq_ok {l : List Int64} : compactL2ColumnI64 batch name n = .ok l ↔
    valuesOf batch name = some (.i64 l) ∧ l.length = n := by
  rw [compactL2ColumnI64, compactL2Column, valuesOf]
  cases batch.columns.find? fun column => column.name = name with
  | none => simp
  | some column =>
    simp only [okOr_some, ok_bind, Option.map_some, Option.some.injEq]
    cases column.values with
    | i64 values =>
      simp only [bind_eq_ok, failIf_eq_ok, not_not, pure_eq_ok, Except.ok.injEq,
        PrimitiveColumnValues.i64.injEq]
      constructor
      · rintro ⟨-, hlength, rfl⟩
        exact ⟨rfl, hlength⟩
      · rintro ⟨rfl, hlength⟩
        exact ⟨(), hlength, rfl⟩
    | _ => simp

lemma compactL2ColumnFixedBinary_eq_ok {width : UInt32} {l : List UInt8} :
    compactL2ColumnFixedBinary batch name n width = .ok l ↔
      valuesOf batch name = some (.fixedBinary width l) ∧ l.length = n * width.toNat ∧
        n * width.toNat < 2 ^ usizeBits := by
  rw [compactL2ColumnFixedBinary, compactL2Column, valuesOf]
  cases batch.columns.find? fun column => column.name = name with
  | none => simp
  | some column =>
    simp only [okOr_some, ok_bind, Option.map_some, Option.some.injEq]
    cases column.values with
    | fixedBinary width' bytes =>
      simp only [bind_eq_ok, failIf_eq_ok, not_not, okOr_eq_ok, checkedMul_eq_some, pure_eq_ok,
        Except.ok.injEq, PrimitiveColumnValues.fixedBinary.injEq]
      constructor
      · rintro ⟨-, rfl, _, ⟨rfl, hfits⟩, -, hlength, rfl⟩
        exact ⟨⟨rfl, rfl⟩, hlength, hfits⟩
      · rintro ⟨⟨rfl, rfl⟩, hlength, hfits⟩
        exact ⟨(), rfl, _, ⟨rfl, hfits⟩, (), hlength, rfl⟩
    | _ => simp

/-- A relation between the entries of two vectors. -/
lemma forall₂_toList {α β : Type} {k : ℕ} {v : Vector α k} {w : Vector β k} {P : α → β → Prop} :
    List.Forall₂ P v.toList w.toList ↔ ∀ i : Fin k, P v[i] w[i] := by
  have hv : v.toList.length = k := v.length_toList
  have hw : w.toList.length = k := w.length_toList
  rw [List.forall₂_iff_get]
  constructor
  · rintro ⟨-, h⟩ i
    simpa using h i (hv.symm ▸ i.isLt) (hw.symm ▸ i.isLt)
  · intro h
    refine ⟨hv.trans hw.symm, fun i hi _ => ?_⟩
    simpa using h ⟨i, hv ▸ hi⟩

/-- A view is built of a batch exactly when the batch keeps the lanes of a valid view, and then it
is that view. -/
theorem fromColumnBatch_eq_ok : fromColumnBatch batch = .ok view ↔
    view.rowCount = batch.rowCount.toNat ∧ view.Valid ∧
      ∀ lane ∈ view.lanes, valuesOf batch lane.1 = some lane.2 := by
  have h2 : (2 : UInt32).toNat = 2 := rfl
  have h7 : (7 : UInt32).toNat = 7 := rfl
  have h9 : (9 : UInt32).toNat = 9 := rfl
  simp only [fromColumnBatch, bind_eq_ok, compactL2ColumnI32_eq_ok, compactL2ColumnI64_eq_ok,
    compactL2ColumnFixedBinary_eq_ok, mapM_eq_ok, h2, h7, h9]
  simp only [lanes, List.forall_mem_append, List.forall_mem_cons, List.forall_mem_map,
    List.mem_finRange, forall_const, List.not_mem_nil, false_imp_iff]
  constructor
  · rintro ⟨day, ⟨hday, hday'⟩, channel, ⟨hchannel, hchannel'⟩, biz, ⟨hbiz, hbiz'⟩, nano,
      ⟨hnano, hnano'⟩, ordinal, ⟨hordinal, hordinal'⟩, kind, ⟨hkind, hkind'⟩, header,
      ⟨hheader, hheader', -⟩, time, ⟨htime, htime'⟩, symbol, ⟨hsymbol, hsymbol', hfits⟩, body,
      ⟨hbody, hbody', -⟩, words, hwords, hview⟩
    have hlength : words.length = 10 := by
      rw [← hwords.length_eq]
      rfl
    rw [dif_pos hlength] at hview
    obtain rfl := Except.ok.inj hview
    have hslot := (forall₂_toList (w := ⟨words.toArray, hlength⟩)).mp hwords
    exact ⟨rfl,
      { fits := hfits, dayKey := hday', channelId := hchannel', bizIndex := hbiz'
        receiveNano := hnano', sourceOrdinal := hordinal', recordKind := hkind'
        headerBytes := hheader', exchangeTime := htime', symbol := hsymbol', bodyBytes := hbody'
        bodyWords := fun slot => (hslot slot).2 },
      ⟨hday, hchannel, hbiz, hnano, hordinal, hkind, hheader, htime, hsymbol, hbody,
        fun _ => trivial⟩, fun slot => (hslot slot).1⟩
  · rintro ⟨hrows, hvalid, ⟨hday, hchannel, hbiz, hnano, hordinal, hkind, hheader, htime, hsymbol,
      hbody, -⟩, hwords⟩
    have hfits := hvalid.fits
    refine ⟨_, ⟨hday, hrows ▸ hvalid.dayKey⟩, _, ⟨hchannel, hrows ▸ hvalid.channelId⟩, _,
      ⟨hbiz, hrows ▸ hvalid.bizIndex⟩, _, ⟨hnano, hrows ▸ hvalid.receiveNano⟩, _,
      ⟨hordinal, hrows ▸ hvalid.sourceOrdinal⟩, _, ⟨hkind, hrows ▸ hvalid.recordKind⟩, _,
      ⟨hheader, hrows ▸ hvalid.headerBytes, by omega⟩, _,
      ⟨htime, hrows ▸ hvalid.exchangeTime⟩, _,
      ⟨hsymbol, hrows ▸ hvalid.symbol, by omega⟩, _,
      ⟨hbody, hrows ▸ hvalid.bodyBytes, by omega⟩, view.bodyWords88160.toList,
      forall₂_toList.mpr fun slot => ⟨hwords slot, hrows ▸ hvalid.bodyWords slot⟩, ?_⟩
    have hwords : (⟨view.bodyWords88160.toList.toArray, Vector.length_toList ..⟩ :
        Vector (List Int64) 10) = view.bodyWords88160 := rfl
    rw [dif_pos (Vector.length_toList ..), hwords, ← hrows, pure_eq_ok]

/-- The row group that keeps the lanes of a view, each in a plain column of its own. -/
def columnBatch (view : CompactL2PhysicalV2BatchView) (rowGroupId : UInt32) (baseRow : UInt64) :
    ColumnBatch where
  rowGroupId := rowGroupId
  baseRow := baseRow
  rowCount := view.rowCount.toUInt64
  columns := view.lanes.map fun lane =>
    { columnId := 0, name := lane.1, physicalType := lane.2.physicalType, logicalKind := .plain
      dictionaryId := none, values := lane.2, validity := none }

lemma nodup_lanes (view : CompactL2PhysicalV2BatchView) : (view.lanes.map Prod.fst).Nodup := by
  have hnames : view.lanes.map Prod.fst = (ofRecords []).lanes.map Prod.fst := rfl
  rw [hnames]
  decide

/-- A view is built again of the row group that keeps its lanes. -/
lemma fromColumnBatch_columnBatch (hvalid : view.Valid) (rowGroupId : UInt32)
    (baseRow : UInt64) : fromColumnBatch (view.columnBatch rowGroupId baseRow) = .ok view := by
  have hrows : view.rowCount < 2 ^ 64 := by
    have hfits : view.rowCount * 9 < 2 ^ 64 := hvalid.fits
    omega
  refine fromColumnBatch_eq_ok.mpr ⟨?_, hvalid, ?_⟩
  · rw [columnBatch, Nat.toUInt64_eq, UInt64.toNat_ofNat', Nat.mod_eq_of_lt hrows]
  · intro lane hlane
    have hfind : view.lanes.find? (fun other => other.1 = lane.1) = some lane :=
      (find?_eq_some_of_nodup view.nodup_lanes).mpr ⟨hlane, rfl⟩
    rw [valuesOf, columnBatch, List.find?_map]
    simp only [Function.comp_def, hfind, Option.map_some]

end CompactL2PhysicalV2BatchView

/-! ### Splitting is lossless -/

open CompactL2PhysicalV2Record CompactL2PhysicalV2BatchView

/-- The rows of split records are these records in bytes. -/
lemma mapM_payloadAt_ofRecords {rs : List (List UInt8)} {vs : List CompactL2PhysicalV2Record}
    (hsplit : rs.mapM fromFixedBinaryV1 = .ok vs) (hfits : ∀ v ∈ vs, v.FitsLanes) :
    (List.range vs.length).mapM (ofRecords vs).payloadAt = .ok rs := by
  have hall := List.forall₂_iff_get.mp (mapM_eq_ok.mp hsplit)
  refine mapM_eq_ok.mpr (List.forall₂_iff_get.mpr ⟨?_, fun i hi hrow => ?_⟩)
  · rw [List.length_range, hall.1]
  · rw [List.length_range] at hi
    have hrecord := hall.2 i hrow hi
    simp only [List.get_eq_getElem, List.getElem_range] at hrecord ⊢
    rw [payloadAt, recordAt_ofRecords hi (hfits _ (List.getElem_mem hi)), ok_bind]
    exact fromFixedBinaryV1_iff_toFixedBinaryV1.mp hrecord

/-- Splitting a record and putting lanes together are inverse to each other; a batch that keeps the
lanes of accepted records gives back their bytes, appended or row by row; and for every valid view
the batch path accepts the same rows as the record path, with the same bytes. -/
theorem compactL2_split_lossless :
    (∀ (r : List UInt8) (v : CompactL2PhysicalV2Record),
      r.length = compactL2FixedBinaryRecordWidthV1 →
        fromFixedBinaryV1 r = .ok v → v.toFixedBinaryV1 = .ok r) ∧
    (∀ (v : CompactL2PhysicalV2Record) (r : List UInt8),
      v.toFixedBinaryV1 = .ok r → fromFixedBinaryV1 r = .ok v) ∧
    (∀ (rs : List (List UInt8)) (vs : List CompactL2PhysicalV2Record),
      rs.mapM fromFixedBinaryV1 = .ok vs → (∀ v ∈ vs, v.FitsLanes) → rs.flatten.length < 2 ^ 63 →
        (∀ rowGroupId baseRow,
          fromColumnBatch ((ofRecords vs).columnBatch rowGroupId baseRow) = .ok (ofRecords vs)) ∧
        (∀ out : List UInt8, out.length + rs.flatten.length < 2 ^ 63 →
          (ofRecords vs).appendFixedBinaryV1Payloads out = .ok (out ++ rs.flatten)) ∧
        ∀ (row : ℕ) (hrow : row < rs.length) (out : List UInt8),
          out.length = compactL2FixedBinaryRecordWidthV1 →
            (ofRecords vs).writeFixedBinaryV1Payload row out = .ok rs[row]) ∧
    ∀ (view : CompactL2PhysicalV2BatchView) (row : ℕ) (out record : List UInt8),
      view.validate = .ok () → out.length = compactL2FixedBinaryRecordWidthV1 →
        (view.writeFixedBinaryV1Payload row out = .ok record ↔
          ∃ v, view.recordAt row = .ok v ∧ v.toFixedBinaryV1 = .ok record) := by
  refine ⟨fun r v _ h => fromFixedBinaryV1_iff_toFixedBinaryV1.mp h,
    fun v r h => fromFixedBinaryV1_iff_toFixedBinaryV1.mpr h, ?_,
    fun view row out record hvalid hout => writeFixedBinaryV1Payload_eq_ok hvalid hout⟩
  intro rs vs hsplit hfits hsize
  have hrows := mapM_payloadAt_ofRecords hsplit hfits
  have hflat : rs.flatten.length = vs.length * compactL2FixedBinaryRecordWidthV1 := by
    rw [length_flatten_of_mapM_payloadAt hrows, List.length_range]
  have hwidth : compactL2FixedBinaryRecordWidthV1 = 168 := rfl
  have hvalid : (ofRecords vs).Valid := valid_ofRecords (by
    rw [hwidth] at hflat
    show vs.length * 9 < 2 ^ 64
    omega)
  refine ⟨fromColumnBatch_columnBatch hvalid, fun out hout => ?_, fun row hrow out hout => ?_⟩
  · refine (appendFixedBinaryV1Payloads_eq_ok (validate_eq_ok.mpr hvalid)).mpr
      ⟨?_, rs, hrows, rfl⟩
    rw [hflat] at hout
    exact hout
  · have hall := List.forall₂_iff_get.mp (mapM_eq_ok.mp hsplit)
    have hrow' : row < vs.length := hall.1 ▸ hrow
    exact (writeFixedBinaryV1Payload_eq_ok (validate_eq_ok.mpr hvalid) hout).mpr
      ⟨_, recordAt_ofRecords hrow' (hfits _ (List.getElem_mem hrow')),
        fromFixedBinaryV1_iff_toFixedBinaryV1.mp (hall.2 row hrow hrow')⟩

/-- An order of the 2nd of January 2024. -/
def Sample.compactL2Order : CompactL2PhysicalV2Record where
  recordKind := .order
  sourceFamily := compactL2SourceFamilyLfKungfu
  exchangeId := 2
  tradingDay := 20240102
  channelId := 2011
  bizIndex := 42
  sourceOrdinal := 77
  receiveNano := 123456789
  exchangeTime := 987654321
  symbol := #v[73, 70, 50, 53, 49, 50, 0, 0, 0]
  bodyBytes8086 := #v[10, 11, 0, 13, 14, 15, 16]
  bodyWords88160 := #v[880, 960, 0, 0, 1200, 1280, 1360, 1440, 0, 1600]

lemma Sample.wellFormed_compactL2Order : Sample.compactL2Order.WellFormed where
  sourceFamily := Or.inl rfl
  exchangeId := by decide
  tradingDay := by decide
  channelId := by decide
  bizIndex := by decide
  padding := ⟨rfl, rfl, rfl, rfl⟩

/-- The trade that follows the order. -/
def Sample.compactL2Trade : CompactL2PhysicalV2Record :=
  { compactL2Order with
    recordKind := .trade
    bizIndex := 43
    sourceOrdinal := 78
    bodyBytes8086 := #v[10, 11, 12, 0, 14, 15, 0] }

lemma Sample.wellFormed_compactL2Trade : Sample.compactL2Trade.WellFormed where
  sourceFamily := Or.inl rfl
  exchangeId := by decide
  tradingDay := by decide
  channelId := by decide
  bizIndex := by decide
  padding := ⟨rfl, rfl⟩

/-- The order and the trade are put together into records that are split into them again, and a batch
of both gives these records back, behind what is in the vector already, or one of them. -/
theorem compactL2_split_lossless_sample : ∃ r r', Sample.compactL2Order.toFixedBinaryV1 = .ok r ∧
    Sample.compactL2Trade.toFixedBinaryV1 = .ok r' ∧
    fromFixedBinaryV1 r = .ok Sample.compactL2Order ∧
    fromFixedBinaryV1 r' = .ok Sample.compactL2Trade ∧
    (ofRecords [Sample.compactL2Order, Sample.compactL2Trade]).appendFixedBinaryV1Payloads [1, 2] =
      .ok ([1, 2] ++ (r ++ r')) ∧
    (ofRecords [Sample.compactL2Order, Sample.compactL2Trade]).writeFixedBinaryV1Payload 1 r =
      .ok r' := by
  obtain ⟨r, hto⟩ : ∃ r, Sample.compactL2Order.toFixedBinaryV1 = .ok r :=
    ⟨_, toFixedBinaryV1_eq_ok.mpr ⟨rfl, Sample.wellFormed_compactL2Order⟩⟩
  obtain ⟨r', hto'⟩ : ∃ r', Sample.compactL2Trade.toFixedBinaryV1 = .ok r' :=
    ⟨_, toFixedBinaryV1_eq_ok.mpr ⟨rfl, Sample.wellFormed_compactL2Trade⟩⟩
  have hfrom := compactL2_split_lossless.2.1 _ _ hto
  have hfrom' := compactL2_split_lossless.2.1 _ _ hto'
  have hlength : r.length = 168 := (fromFixedBinaryV1_eq_ok.mp hfrom).1.length
  have hlength' : r'.length = 168 := (fromFixedBinaryV1_eq_ok.mp hfrom').1.length
  have hflat : [r, r'].flatten = r ++ r' := by
    rw [List.flatten_cons, List.flatten_singleton]
  have hsize : (r ++ r').length = 336 := by
    rw [List.length_append, hlength, hlength']
  obtain ⟨-, happend, hwrite⟩ := compactL2_split_lossless.2.2.1 [r, r']
    [Sample.compactL2Order, Sample.compactL2Trade]
    (by rw [List.mapM_cons, List.mapM_cons, hfrom, hfrom']; rfl)
    (by
      intro v hv
      rcases List.mem_pair.mp hv with rfl | rfl
      · exact ⟨by decide, by decide⟩
      · exact ⟨by decide, by decide⟩)
    (by rw [hflat, hsize]; decide)
  have hboth := happend [1, 2] (by rw [hflat, hsize]; decide)
  rw [hflat] at hboth
  exact ⟨r, r', hto, hto', hfrom, hfrom', hboth, hwrite 1 (Nat.lt_succ_self 1) r hlength⟩

end ArcadiaTio.Ocb
