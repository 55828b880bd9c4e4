import ArcadiaTio.Lib.Window
import ArcadiaTio.Ocb.Bundle.Execution

/-!
# Compact-L2 records

A compact-L2 record of version 1 is a string of 168 bytes: a fixed header, the fields of the row
and padding that depends on the kind of the record.  Physical version 2 keeps the same row as typed
lanes.  A record is accepted exactly when it is the string of well-formed lanes
(`fromFixedBinaryV1_eq_ok`), and these are the lanes it is split into; so splitting a record and
putting it together again lose nothing.
-/

namespace ArcadiaTio.Ocb

open ArcadiaTio.Lib

/-! ### Constants -/

/-- Fixed-ingress compact L2 magic bytes (`ALIR`). -/
def compactL2FixedIngressMagic : List UInt8 := [0x41, 0x4C, 0x49, 0x52]

/-- The version of the records. -/
def compactL2FixedBinarySchemaVersionV1 : UInt16 := 1

/-- The length of the header of a record. -/
def compactL2FixedIngressHeaderLenV1 : UInt16 := 80

/-- The width of a record in bytes. -/
def compactL2FixedBinaryRecordWidthV1 : ℕ := 168

/-- The kind of an order. -/
def compactL2RecordKindOrder : UInt8 := 1

/-- The kind of a trade. -/
def compactL2RecordKindTrade : UInt8 := 2

/-- The family of `LF Kungfu` sources. -/
def compactL2SourceFamilyLfKungfu : UInt8 := 1

/-- The family of native sources. -/
def compactL2SourceFamilyArcadiaNative : UInt8 := 2

/-- The family of synthetic sources. -/
def compactL2SourceFamilySynthetic : UInt8 := 3

/-- The places of the body words in a record. -/
def compactL2PhysicalV2BodyWordOffsets : Vector ℕ 10 :=
  #v[88, 96, 104, 112, 120, 128, 136, 144, 152, 160]

/-! ### Numbers in bytes -/

/-- The number in two little-endian bytes. -/
def u16FromLeBytes (bytes : List UInt8) : UInt16 := (leNat bytes).toUInt16

/-- The number in four little-endian bytes. -/
def u32FromLeBytes (bytes : List UInt8) : UInt32 := (leNat bytes).toUInt32

/-- The number in eight little-endian bytes. -/
def u64FromLeBytes (bytes : List UInt8) : UInt64 := (leNat bytes).toUInt64

/-- A number as two little-endian bytes. -/
def u16ToLeBytes (value : UInt16) : List UInt8 := leBytes 2 value.toNat

/-- A number as four little-endian bytes. -/
def u32ToLeBytes (value : UInt32) : List UInt8 := leBytes 4 value.toNat

/-- A number as eight little-endian bytes. -/
def u64ToLeBytes (value : UInt64) : List UInt8 := leBytes 8 value.toNat

/-- A number as four little-endian bytes. -/
def i32ToLeBytes (value : Int32) : List UInt8 := leBytes 4 value.toUInt32.toNat

/-- A number as eight little-endian bytes. -/
def i64ToLeBytes (value : Int64) : List UInt8 := leBytes 8 value.toUInt64.toNat

section Numbers

variable {bytes : List UInt8}

@[simp] lemma length_u16ToLeBytes (v : UInt16) : (u16ToLeBytes v).length = 2 := leBytes_length ..

@[simp] lemma length_u32ToLeBytes (v : UInt32) : (u32ToLeBytes v).length = 4 := leBytes_length ..

@[simp] lemma length_u64ToLeBytes (v : UInt64) : (u64ToLeBytes v).length = 8 := leBytes_length ..

@[simp] lemma length_i32ToLeBytes (v : Int32) : (i32ToLeBytes v).length = 4 := leBytes_length ..

@[simp] lemma length_i64ToLeBytes (v : Int64) : (i64ToLeBytes v).length = 8 := leBytes_length ..

@[simp] lemma u16FromLeBytes_toLeBytes (v : UInt16) : u16FromLeBytes (u16ToLeBytes v) = v := by
  rw [u16FromLeBytes, u16ToLeBytes, leNat_leBytes_of_lt (by simpa using v.toNat_lt)]
  simp

@[simp] lemma u32FromLeBytes_toLeBytes (v : UInt32) : u32FromLeBytes (u32ToLeBytes v) = v := by
  rw [u32FromLeBytes, u32ToLeBytes, leNat_leBytes_of_lt (by simpa using v.toNat_lt)]
  simp

@[simp] lemma u64FromLeBytes_toLeBytes (v : UInt64) : u64FromLeBytes (u64ToLeBytes v) = v := by
  rw [u64FromLeBytes, u64ToLeBytes, leNat_leBytes_of_lt (by simpa using v.toNat_lt)]
  simp

@[simp] lemma i32FromLeBytes_toLeBytes (v : Int32) : i32FromLeBytes (i32ToLeBytes v) = v := by
  have h := u32FromLeBytes_toLeBytes v.toUInt32
  rw [u32FromLeBytes, u32ToLeBytes] at h
  rw [i32FromLeBytes, i32ToLeBytes, h]
  simp

@[simp] lemma i64FromLeBytes_toLeBytes (v : Int64) : i64FromLeBytes (i64ToLeBytes v) = v := by
  have h := u64FromLeBytes_toLeBytes v.toUInt64
  rw [u64FromLeBytes, u64ToLeBytes] at h
  rw [i64FromLeBytes, i64ToLeBytes, h]
  simp

lemma u16ToLeBytes_fromLeBytes (h : bytes.length = 2) :
    u16ToLeBytes (u16FromLeBytes bytes) = bytes := by
  have hlt := leNat_lt bytes
  rw [h] at hlt
  rw [u16ToLeBytes, u16FromLeBytes, Nat.toUInt16_eq, UInt16.toNat_ofNat',
    Nat.mod_eq_of_lt (by simpa using hlt), ← h, leBytes_leNat]

lemma u32ToLeBytes_fromLeBytes (h : bytes.length = 4) :
    u32ToLeBytes (u32FromLeBytes bytes) = bytes := by
  have hlt := leNat_lt bytes
  rw [h] at hlt
  rw [u32ToLeBytes, u32FromLeBytes, Nat.toUInt32_eq, UInt32.toNat_ofNat',
    Nat.mod_eq_of_lt (by simpa using hlt), ← h, leBytes_leNat]

lemma u64ToLeBytes_fromLeBytes (h : bytes.length = 8) :
    u64ToLeBytes (u64FromLeBytes bytes) = bytes := by
  have hlt := leNat_lt bytes
  rw [h] at hlt
  rw [u64ToLeBytes, u64FromLeBytes, Nat.toUInt64_eq, UInt64.toNat_ofNat',
    Nat.mod_eq_of_lt (by simpa using hlt), ← h, leBytes_leNat]

lemma i32ToLeBytes_fromLeBytes (h : bytes.length = 4) :
    i32ToLeBytes (i32FromLeBytes bytes) = bytes := by
  have heq := u32ToLeBytes_fromLeBytes h
  rw [u32ToLeBytes, u32FromLeBytes] at heq
  rw [i32ToLeBytes, i32FromLeBytes, UInt32.toUInt32_toInt32, heq]

lemma i64ToLeBytes_fromLeBytes (h : bytes.length = 8) :
    i64ToLeBytes (i64FromLeBytes bytes) = bytes := by
  have heq := u64ToLeBytes_fromLeBytes h
  rw [u64ToLeBytes, u64FromLeBytes] at heq
  rw [i64ToLeBytes, i64FromLeBytes, UInt64.toUInt64_toInt64, heq]

lemma u16FromLeBytes_eq_iff (h : bytes.length = 2) {v : UInt16} :
    u16FromLeBytes bytes = v ↔ bytes = u16ToLeBytes v :=
  ⟨fun heq => by rw [← heq, u16ToLeBytes_fromLeBytes h],
    fun heq => by rw [heq, u16FromLeBytes_toLeBytes]⟩

lemma u32FromLeBytes_eq_iff (h : bytes.length = 4) {v : UInt32} :
    u32FromLeBytes bytes = v ↔ bytes = u32ToLeBytes v :=
  ⟨fun heq => by rw [← heq, u32ToLeBytes_fromLeBytes h],
    fun heq => by rw [heq, u32FromLeBytes_toLeBytes]⟩

lemma u64FromLeBytes_eq_iff (h : bytes.length = 8) {v : UInt64} :
    u64FromLeBytes bytes = v ↔ bytes = u64ToLeBytes v :=
  ⟨fun heq => by rw [← heq, u64ToLeBytes_fromLeBytes h],
    fun heq => by rw [heq, u64FromLeBytes_toLeBytes]⟩

lemma i32FromLeBytes_eq_iff (h : bytes.length = 4) {v : Int32} :
    i32FromLeBytes bytes = v ↔ bytes = i32ToLeBytes v :=
  ⟨fun heq => by rw [← heq, i32ToLeBytes_fromLeBytes h],
    fun heq => by rw [heq, i32FromLeBytes_toLeBytes]⟩

lemma i64FromLeBytes_eq_iff (h : bytes.length = 8) {v : Int64} :
    i64FromLeBytes bytes = v ↔ bytes = i64ToLeBytes v :=
  ⟨fun heq => by rw [← heq, i64ToLeBytes_fromLeBytes h],
    fun heq => by rw [heq, i64FromLeBytes_toLeBytes]⟩

end Numbers

/-! ### The header -/

/-- Compact fixed-binary L2 record kind. -/
inductive CompactL2RecordKind
  | order | trade
deriving DecidableEq

/-- The stable on-wire code. -/
def CompactL2RecordKind.code : CompactL2RecordKind → UInt8
  | order => compactL2RecordKindOrder
  | trade => compactL2RecordKindTrade

/-- The header of a record. -/
structure CompactL2FixedBinaryHeaderV1 where
  magic : List UInt8
  schemaVersion : UInt16
  headerLen : UInt16
  recordLen : UInt16
  recordKind : CompactL2RecordKind
  sourceFamily : UInt8
  exchangeId : UInt8
  tradingDay : UInt32
  channelId : Int32
  bizIndex : Int64
  sourceOrdinal : UInt64
  receiveNano : Int64
  exchangeTime : Int64
deriving DecidableEq

/-- An error about the header of a record. -/
def payloadHeaderError (message : String) : ArcadiaTioError :=
  ocbDiagnostic .payloadHeaderMismatch message

/-- The record kind with the given code. -/
def recordKindOfCode (code : UInt8) : Result CompactL2RecordKind :=
  if code = compactL2RecordKindOrder then .ok .order
  else if code = compactL2RecordKindTrade then .ok .trade
  else .error (payloadHeaderError "compact-L2 fixed-ingress record kind mismatch")

/-- The fields that a record of one kind leaves zero. -/
def checkVariantPadding (record : List UInt8) : CompactL2RecordKind → Result Unit
  | .order => failIf (record.getD 82 0 ≠ 0 ∨ i64FromLeBytes (window record 104 112) ≠ 0 ∨
      i64FromLeBytes (window record 112 120) ≠ 0 ∨ i64FromLeBytes (window record 152 160) ≠ 0)
    (payloadHeaderError "compact-L2 fixed-ingress order variant padding is nonzero")
  | .trade => failIf (record.getD 83 0 ≠ 0 ∨ record.getD 86 0 ≠ 0)
    (payloadHeaderError "compact-L2 fixed-ingress trade variant padding is nonzero")

/-- Decode and validate one V1 compact fixed-binary L2 record header. -/
def decodeCompactL2FixedBinaryHeaderV1 (record : List UInt8) :
    Result CompactL2FixedBinaryHeaderV1 := do
  failIf (record.length ≠ compactL2FixedBinaryRecordWidthV1)
    (ocbDiagnostic .fixedBinaryWidthMismatch
      s!"compact-L2 fixed-binary record width mismatch: expected=168 observed={record.length}")
  let magic := window record 0 4
  failIf (magic ≠ compactL2FixedIngressMagic)
    (payloadHeaderError "compact-L2 fixed-ingress magic mismatch")
  let schemaVersion := u16FromLeBytes (window record 4 6)
  failIf (schemaVersion ≠ compactL2FixedBinarySchemaVersionV1)
    (ocbDiagnostic .unsupportedSchemaVersion
      s!"unsupported compact-L2 fixed-ingress schema version: {schemaVersion}")
  let headerLen := u16FromLeBytes (window record 6 8)
  failIf (headerLen ≠ compactL2FixedIngressHeaderLenV1)
    (payloadHeaderError "compact-L2 fixed-ingress header length mismatch")
  let recordLen := u16FromLeBytes (window record 8 10)
  failIf (recordLen ≠ compactL2FixedBinaryRecordWidthV1.toUInt16)
    (payloadHeaderError "compact-L2 fixed-ingress record length mismatch")
  let recordKind ← recordKindOfCode (record.getD 10 0)
  let sourceFamily := record.getD 11 0
  failIf (¬ (sourceFamily = compactL2SourceFamilyLfKungfu ∨
      sourceFamily = compactL2SourceFamilyArcadiaNative ∨
      sourceFamily = compactL2SourceFamilySynthetic))
    (payloadHeaderError "compact-L2 fixed-ingress source family mismatch")
  let exchangeId := record.getD 12 0
  failIf (2 < exchangeId) (payloadHeaderError "compact-L2 fixed-ingress exchange id mismatch")
  failIf (record.getD 13 0 ≠ 0 ∨ u16FromLeBytes (window record 14 16) ≠ 0)
    (payloadHeaderError "compact-L2 fixed-ingress reserved header field is nonzero")
  failIf ((window record 65 80).any (· ≠ 0))
    (payloadHeaderError "compact-L2 fixed-ingress reserved header tail is nonzero")
  let tradingDay := u32FromLeBytes (window record 16 20)
  let channelId := i32FromLeBytes (window record 20 24)
  let bizIndex := i64FromLeBytes (window record 24 32)
  let sourceOrdinal := u64FromLeBytes (window record 32 40)
  let receiveNano := i64FromLeBytes (window record 40 48)
  let exchangeTime := i64FromLeBytes (window record 48 56)
  failIf (tradingDay = 0) (payloadHeaderError "compact-L2 fixed-ingress trading day is zero")
  failIf (channelId ≤ 0) (payloadHeaderError "compact-L2 fixed-ingress ChannelID is invalid")
  failIf (bizIndex ≤ 0) (payloadHeaderError "compact-L2 fixed-ingress BizIndex is invalid")
  failIf (record.getD 87 0 ≠ 0)
    (payloadHeaderError "compact-L2 fixed-ingress reserved compact field is nonzero")
  checkVariantPadding record recordKind
  return {
    magic, schemaVersion, headerLen, recordLen, recordKind, sourceFamily, exchangeId, tradingDay
    channelId, bizIndex, sourceOrdinal, receiveNano, exchangeTime }

/-! ### The lanes of a record -/

/-- Typed/split physical-v2 payload fields for one compact-L2 row. -/
structure CompactL2PhysicalV2Record where
  recordKind : CompactL2RecordKind
  sourceFamily : UInt8
  exchangeId : UInt8
  tradingDay : UInt32
  channelId : Int32
  bizIndex : Int64
  sourceOrdinal : UInt64
  receiveNano : Int64
  exchangeTime : Int64
  symbol : Vector UInt8 9
  bodyBytes8086 : Vector UInt8 7
  bodyWords88160 : Vector Int64 10
deriving DecidableEq

namespace CompactL2PhysicalV2Record

/-- Split one validated v1 fixed-binary payload record into physical-v2 lanes. -/
def fromFixedBinaryV1 (record : List UInt8) : Result CompactL2PhysicalV2Record := do
  let header ← decodeCompactL2FixedBinaryHeaderV1 record
  return {
    recordKind := header.recordKind, sourceFamily := header.sourceFamily
    exchangeId := header.exchangeId, tradingDay := header.tradingDay
    channelId := header.channelId, bizIndex := header.bizIndex
    sourceOrdinal := header.sourceOrdinal, receiveNano := header.receiveNano
    exchangeTime := header.exchangeTime, symbol := windowVector record 56 9
    bodyBytes8086 := windowVector record 80 7
    bodyWords88160 := compactL2PhysicalV2BodyWordOffsets.map fun offset =>
      i64FromLeBytes (window record offset (offset + 8)) }

/-- The body words with their places. -/
def bodyWordFields (words : Vector Int64 10) : List (ℕ × List UInt8) :=
  (List.finRange 10).map fun slot =>
    (compactL2PhysicalV2BodyWordOffsets[slot], i64ToLeBytes words[slot])

/-- The fields of a record with their places, in the order in which they are written. -/
def fixedBinaryV1Fields (v : CompactL2PhysicalV2Record) : List (ℕ × List UInt8) :=
  [(0, compactL2FixedIngressMagic),
    (4, u16ToLeBytes compactL2FixedBinarySchemaVersionV1),
    (6, u16ToLeBytes compactL2FixedIngressHeaderLenV1),
    (8, u16ToLeBytes compactL2FixedBinaryRecordWidthV1.toUInt16),
    (10, [v.recordKind.code]),
    (11, [v.sourceFamily]),
    (12, [v.exchangeId]),
    (13, [0]),
    (14, u16ToLeBytes 0),
    (16, u32ToLeBytes v.tradingDay),
    (20, i32ToLeBytes v.channelId),
    (24, i64ToLeBytes v.bizIndex),
    (32, u64ToLeBytes v.sourceOrdinal),
    (40, i64ToLeBytes v.receiveNano),
    (48, i64ToLeBytes v.exchangeTime),
    (56, v.symbol.toList),
    (65, List.replicate 15 0),
    (80, v.bodyBytes8086.toList),
    (87, [0])] ++ bodyWordFields v.bodyWords88160

/-- The string of the lanes, before it is validated. -/
def fixedBinaryV1Bytes (v : CompactL2PhysicalV2Record) : List UInt8 :=
  overwriteAll (List.replicate compactL2FixedBinaryRecordWidthV1 0) v.fixedBinaryV1Fields

/-- Reconstruct the legacy 168-byte fixed-binary payload. -/
def toFixedBinaryV1 (v : CompactL2PhysicalV2Record) : Result (List UInt8) := do
  let _ ← decodeCompactL2FixedBinaryHeaderV1 v.fixedBinaryV1Bytes
  return v.fixedBinaryV1Bytes

/-! ### Well-formed lanes -/

/-- The lanes that a record of one kind leaves zero. -/
def PaddingZero (v : CompactL2PhysicalV2Record) : Prop :=
  match v.recordKind with
  | .order => v.bodyBytes8086[2] = 0 ∧ v.bodyWords88160[2] = 0 ∧ v.bodyWords88160[3] = 0 ∧
      v.bodyWords88160[8] = 0
  | .trade => v.bodyBytes8086[3] = 0 ∧ v.bodyBytes8086[6] = 0

/-- Lanes that a record can carry. -/
structure WellFormed (v : CompactL2PhysicalV2Record) : Prop where
  sourceFamily : v.sourceFamily = compactL2SourceFamilyLfKungfu ∨
    v.sourceFamily = compactL2SourceFamilyArcadiaNative ∨
    v.sourceFamily = compactL2SourceFamilySynthetic
  exchangeId : ¬ 2 < v.exchangeId
  tradingDay : v.tradingDay ≠ 0
  channelId : ¬ v.channelId ≤ 0
  bizIndex : ¬ v.bizIndex ≤ 0
  padding : v.PaddingZero

/-- Lanes whose trading day and source ordinal fit the signed columns of a file. -/
def FitsLanes (v : CompactL2PhysicalV2Record) : Prop :=
  v.tradingDay.toNat < 2 ^ 31 ∧ v.sourceOrdinal.toNat < 2 ^ 63

/-- The header of a record with these lanes. -/
def header (v : CompactL2PhysicalV2Record) : CompactL2FixedBinaryHeaderV1 where
  magic := compactL2FixedIngressMagic
  schemaVersion := compactL2FixedBinarySchemaVersionV1
  headerLen := compactL2FixedIngressHeaderLenV1
  recordLen := compactL2FixedBinaryRecordWidthV1.toUInt16
  recordKind := v.recordKind
  sourceFamily := v.sourceFamily
  exchangeId := v.exchangeId
  tradingDay := v.tradingDay
  channelId := v.channelId
  bizIndex := v.bizIndex
  sourceOrdinal := v.sourceOrdinal
  receiveNano := v.receiveNano
  exchangeTime := v.exchangeTime

/-- The record `r` reads as the lanes `v`, field for field. -/
structure Spells (v : CompactL2PhysicalV2Record) (r : List UInt8) : Prop where
  length : r.length = compactL2FixedBinaryRecordWidthV1
  magic : window r 0 4 = compactL2FixedIngressMagic
  schemaVersion : u16FromLeBytes (window r 4 6) = compactL2FixedBinarySchemaVersionV1
  headerLen : u16FromLeBytes (window r 6 8) = compactL2FixedIngressHeaderLenV1
  recordLen : u16FromLeBytes (window r 8 10) = compactL2FixedBinaryRecordWidthV1.toUInt16
  recordKind : r.getD 10 0 = v.recordKind.code
  sourceFamily : r.getD 11 0 = v.sourceFamily
  exchangeId : r.getD 12 0 = v.exchangeId
  reserved : r.getD 13 0 = 0
  flags : u16FromLeBytes (window r 14 16) = 0
  tradingDay : u32FromLeBytes (window r 16 20) = v.tradingDay
  channelId : i32FromLeBytes (window r 20 24) = v.channelId
  bizIndex : i64FromLeBytes (window r 24 32) = v.bizIndex
  sourceOrdinal : u64FromLeBytes (window r 32 40) = v.sourceOrdinal
  receiveNano : i64FromLeBytes (window r 40 48) = v.receiveNano
  exchangeTime : i64FromLeBytes (window r 48 56) = v.exchangeTime
  symbol : windowVector r 56 9 = v.symbol
  tail : window r 65 80 = List.replicate 15 0
  bodyBytes : windowVector r 80 7 = v.bodyBytes8086
  compact : r.getD 87 0 = 0
  bodyWords : (compactL2PhysicalV2BodyWordOffsets.map fun offset =>
    i64FromLeBytes (window r offset (offset + 8))) = v.bodyWords88160

variable {r : List UInt8} {v w : CompactL2PhysicalV2Record} {h : CompactL2FixedBinaryHeaderV1}

lemma recordKindOfCode_eq_ok {code : UInt8} {kind : CompactL2RecordKind} :
    recordKindOfCode code = .ok kind ↔ code = kind.code := by
  have hne : compactL2RecordKindTrade ≠ compactL2RecordKindOrder := by decide
  rw [recordKindOfCode]
  by_cases horder : code = compactL2RecordKindOrder
  · subst horder
    cases kind <;> simp [CompactL2RecordKind.code, hne.symm]
  · by_cases htrade : code = compactL2RecordKindTrade
    · subst htrade
      cases kind <;> simp [CompactL2RecordKind.code, hne]
    · cases kind <;> simp [CompactL2RecordKind.code, horder, htrade]

lemma reservedTail_iff (hlength : r.length = compactL2FixedBinaryRecordWidthV1) :
    ¬ (window r 65 80).any (· ≠ 0) = true ↔ window r 65 80 = List.replicate 15 0 := by
  have hwidth : (window r 65 80).length = 15 := length_window (by rw [hlength]; decide)
  rw [List.eq_replicate_iff]
  simp [hwidth]

lemma checkVariantPadding_eq_ok (hspells : v.Spells r) {u : Unit} :
    checkVariantPadding r v.recordKind = .ok u ↔ v.PaddingZero := by
  have hbytes : ∀ i : Fin 7, r.getD (80 + i) 0 = v.bodyBytes8086[i] := by
    intro i
    rw [← hspells.bodyBytes]
    simp only [windowVector, Fin.getElem_fin, Vector.getElem_ofFn]
    rfl
  have hwords : ∀ i : Fin 10, i64FromLeBytes (window r compactL2PhysicalV2BodyWordOffsets[i]
      (compactL2PhysicalV2BodyWordOffsets[i] + 8)) = v.bodyWords88160[i] := by
    intro i
    rw [← hspells.bodyWords]
    simp
  have hb2 : r.getD 82 0 = v.bodyBytes8086[2] := hbytes 2
  have hb3 : r.getD 83 0 = v.bodyBytes8086[3] := hbytes 3
  have hb6 : r.getD 86 0 = v.bodyBytes8086[6] := hbytes 6
  have hw2 : i64FromLeBytes (window r 104 112) = v.bodyWords88160[2] := hwords 2
  have hw3 : i64FromLeBytes (window r 112 120) = v.bodyWords88160[3] := hwords 3
  have hw8 : i64FromLeBytes (window r 152 160) = v.bodyWords88160[8] := hwords 8
  rw [PaddingZero]
  cases v.recordKind with
  | order =>
    simp only [checkVariantPadding, failIf_eq_ok, hb2, hw2, hw3, hw8]
    simp only [not_or, not_not]
  | trade =>
    simp only [checkVariantPadding, failIf_eq_ok, hb3, hb6]
    simp only [not_or, not_not]

/-- The decoder accepts a record that spells well-formed lanes. -/
lemma Spells.decode (hspells : v.Spells r) (hwell : v.WellFormed) :
    decodeCompactL2FixedBinaryHeaderV1 r = .ok v.header := by
  have htail : ¬ (window r 65 80).any (· ≠ 0) = true :=
    (reservedTail_iff hspells.length).mpr hspells.tail
  have hfamily : ¬ ¬ (v.sourceFamily = compactL2SourceFamilyLfKungfu ∨
      v.sourceFamily = compactL2SourceFamilyArcadiaNative ∨
      v.sourceFamily = compactL2SourceFamilySynthetic) := not_not.mpr hwell.sourceFamily
  have hreserved : ¬ (r.getD 13 0 ≠ 0 ∨ u16FromLeBytes (window r 14 16) ≠ 0) := by
    rw [hspells.reserved, hspells.flags]
    decide
  have hpadding : checkVariantPadding r v.recordKind = .ok () :=
    (checkVariantPadding_eq_ok hspells).mpr hwell.padding
  have hkind : recordKindOfCode (r.getD 10 0) = .ok v.recordKind :=
    recordKindOfCode_eq_ok.mpr hspells.recordKind
  rw [← hspells.sourceFamily] at hfamily
  have hexchange := hwell.exchangeId
  rw [← hspells.exchangeId] at hexchange
  have hday := hwell.tradingDay
  rw [← hspells.tradingDay] at hday
  have hchannel := hwell.channelId
  rw [← hspells.channelId] at hchannel
  have hbiz := hwell.bizIndex
  rw [← hspells.bizIndex] at hbiz
  unfold decodeCompactL2FixedBinaryHeaderV1
  dsimp only
  rw [failIf_neg (not_not.mpr hspells.length), ok_bind, failIf_neg (not_not.mpr hspells.magic), ok_bind,
    failIf_neg (not_not.mpr hspells.schemaVersion), ok_bind,
    failIf_neg (not_not.mpr hspells.headerLen), ok_bind,
    failIf_neg (not_not.mpr hspells.recordLen), ok_bind, hkind, ok_bind, failIf_neg hfamily,
    ok_bind, failIf_neg hexchange, ok_bind, failIf_neg hreserved, ok_bind, failIf_neg htail,
    ok_bind, failIf_neg hday, ok_bind, failIf_neg hchannel, ok_bind, failIf_neg hbiz, ok_bind,
    failIf_neg (not_not.mpr hspells.compact), ok_bind, hpadding, ok_bind]
  rw [header, ← hspells.magic, ← hspells.schemaVersion, ← hspells.headerLen, ← hspells.recordLen,
    ← hspells.sourceFamily, ← hspells.exchangeId, ← hspells.tradingDay, ← hspells.channelId,
    ← hspells.bizIndex, ← hspells.sourceOrdinal, ← hspells.receiveNano, ← hspells.exchangeTime]
  rfl

/-- A record that the decoder accepts spells well-formed lanes with the decoded header. -/
lemma exists_spells_of_decode (hdecode : decodeCompactL2FixedBinaryHeaderV1 r = .ok h) :
    ∃ v : CompactL2PhysicalV2Record, v.Spells r ∧ v.WellFormed ∧ v.header = h := by
  simp only [decodeCompactL2FixedBinaryHeaderV1, bind_eq_ok, failIf_eq_ok, pure_eq_ok, ne_eq,
    not_not, Except.ok.injEq] at hdecode
  obtain ⟨-, hlength, -, hmagic, -, hschema, -, hheader, -, hrecord, kind, hkind, -, hfamily, -,
    hexchange, -, hreserved, -, htail, -, hday, -, hchannel, -, hbiz, -, hcompact, _, hpadding,
    rfl⟩ := hdecode
  obtain ⟨hreserved, hflags⟩ := not_or.mp hreserved
  rw [not_not] at hreserved hflags
  -- the lanes are read off the record
  let v : CompactL2PhysicalV2Record :=
    { recordKind := kind, sourceFamily := r.getD 11 0, exchangeId := r.getD 12 0
      tradingDay := u32FromLeBytes (window r 16 20), channelId := i32FromLeBytes (window r 20 24)
      bizIndex := i64FromLeBytes (window r 24 32), sourceOrdinal := u64FromLeBytes (window r 32 40)
      receiveNano := i64FromLeBytes (window r 40 48)
      exchangeTime := i64FromLeBytes (window r 48 56), symbol := windowVector r 56 9
      bodyBytes8086 := windowVector r 80 7
      bodyWords88160 := compactL2PhysicalV2BodyWordOffsets.map fun offset =>
        i64FromLeBytes (window r offset (offset + 8)) }
  have hspells : v.Spells r :=
    { length := hlength, magic := hmagic, schemaVersion := hschema, headerLen := hheader
      recordLen := hrecord, recordKind := recordKindOfCode_eq_ok.mp hkind, sourceFamily := rfl
      exchangeId := rfl, reserved := hreserved, flags := hflags, tradingDay := rfl
      channelId := rfl, bizIndex := rfl, sourceOrdinal := rfl, receiveNano := rfl
      exchangeTime := rfl, symbol := rfl, tail := (reservedTail_iff hlength).mp htail
      bodyBytes := rfl, compact := hcompact, bodyWords := rfl }
  refine ⟨v, hspells, ?_, ?_⟩
  · exact
      { sourceFamily := hfamily, exchangeId := hexchange, tradingDay := hday
        channelId := hchannel, bizIndex := hbiz
        padding := (checkVariantPadding_eq_ok hspells).mp hpadding }
  · rw [header, hmagic, hschema, hheader, hrecord]

/-- A record is split exactly when it spells well-formed lanes, and into these. -/
theorem fromFixedBinaryV1_eq_ok : fromFixedBinaryV1 r = .ok v ↔ v.Spells r ∧ v.WellFormed := by
  have hsplit : ∀ w : CompactL2PhysicalV2Record, w.Spells r → w.WellFormed →
      fromFixedBinaryV1 r = .ok w := by
    intro w hspells hwell
    rw [fromFixedBinaryV1, hspells.decode hwell, ok_bind, hspells.symbol, hspells.bodyBytes,
      hspells.bodyWords]
    rfl
  constructor
  · intro hfrom
    obtain ⟨header, hdecode, -⟩ := bind_eq_ok.mp hfrom
    obtain ⟨w, hspells, hwell, -⟩ := exists_spells_of_decode hdecode
    rw [hsplit w hspells hwell] at hfrom
    cases hfrom
    exact ⟨hspells, hwell⟩
  · rintro ⟨hspells, hwell⟩
    exact hsplit v hspells hwell

/-! ### The string of the lanes -/

lemma bodyWordOffset (slot : Fin 10) : compactL2PhysicalV2BodyWordOffsets[slot] = 88 + 8 * slot := by
  revert slot
  decide

lemma contiguous_bodyWordFields (words : Vector Int64 10) :
    Contiguous 88 (bodyWordFields words) 168 := by
  simp only [bodyWordFields, bodyWordOffset]
  simp only [List.finRange, List.ofFn_succ, List.ofFn_zero, List.map_cons, List.map_nil, Contiguous,
    length_i64ToLeBytes]
  decide

lemma contiguous_fields (v : CompactL2PhysicalV2Record) :
    Contiguous 0 v.fixedBinaryV1Fields 168 := by
  have hwords := contiguous_bodyWordFields v.bodyWords88160
  simp [fixedBinaryV1Fields, Contiguous, compactL2FixedIngressMagic, hwords]

/-- The string of the lanes is the one record with their fields in place. -/
lemma eq_fixedBinaryV1Bytes_iff_windows : r = v.fixedBinaryV1Bytes ↔
    r.length = compactL2FixedBinaryRecordWidthV1 ∧ ∀ field ∈ v.fixedBinaryV1Fields,
      window r field.1 (field.1 + field.2.length) = field.2 := by
  rw [fixedBinaryV1Bytes, eq_overwriteAll_iff
    (by rw [List.length_replicate]; exact v.contiguous_fields), List.length_replicate]

/-- The string of the lanes is the one record that spells them. -/
theorem eq_fixedBinaryV1Bytes_iff : r = v.fixedBinaryV1Bytes ↔ v.Spells r := by
  rw [eq_fixedBinaryV1Bytes_iff_windows]
  have hwidth : ∀ i j, j ≤ 168 → r.length = compactL2FixedBinaryRecordWidthV1 →
      (window r i j).length = j - i := fun i j hj hr => length_window (by rw [hr]; exact hj)
  have hbyte : ∀ i, i < 168 → r.length = compactL2FixedBinaryRecordWidthV1 →
      ∀ b, window r i (i + 1) = [b] ↔ r.getD i 0 = b := by
    intro i hi hr b
    rw [window_succ (by rw [hr]; exact hi), List.singleton_inj]
  have hmagic : compactL2FixedIngressMagic.length = 4 := rfl
  have hsymbol : r.length = compactL2FixedBinaryRecordWidthV1 →
      (windowVector r 56 9).toList = window r 56 65 := fun hr =>
    toList_windowVector (by rw [hr]; decide)
  have hbody : r.length = compactL2FixedBinaryRecordWidthV1 →
      (windowVector r 80 7).toList = window r 80 87 := fun hr =>
    toList_windowVector (by rw [hr]; decide)
  have hword : ∀ slot : Fin 10, compactL2PhysicalV2BodyWordOffsets[slot] + 8 ≤ 168 := by decide
  simp only [fixedBinaryV1Fields, bodyWordFields, List.forall_mem_append, List.forall_mem_cons,
    List.forall_mem_map, List.mem_finRange, forall_const, length_u16ToLeBytes,
    length_u32ToLeBytes, length_u64ToLeBytes, length_i32ToLeBytes, length_i64ToLeBytes, hmagic,
    Vector.length_toList, List.length_singleton, List.length_replicate, Nat.reduceAdd,
    List.not_mem_nil, false_imp_iff, and_true]
  -- the fields lie end to end, so the bytes agree exactly when every window does
  constructor
  · rintro ⟨hr, ⟨h0, h4, h6, h8, h10, h11, h12, h13, h14, h16, h20, h24, h32, h40, h48, h56, h65,
      h80, h87⟩, hwords⟩
    exact
      { length := hr
        magic := h0
        schemaVersion := (u16FromLeBytes_eq_iff (hwidth 4 6 (by decide) hr)).mpr h4
        headerLen := (u16FromLeBytes_eq_iff (hwidth 6 8 (by decide) hr)).mpr h6
        recordLen := (u16FromLeBytes_eq_iff (hwidth 8 10 (by decide) hr)).mpr h8
        recordKind := (hbyte 10 (by decide) hr _).mp h10
        sourceFamily := (hbyte 11 (by decide) hr _).mp h11
        exchangeId := (hbyte 12 (by decide) hr _).mp h12
        reserved := (hbyte 13 (by decide) hr _).mp h13
        flags := (u16FromLeBytes_eq_iff (hwidth 14 16 (by decide) hr)).mpr h14
        tradingDay := (u32FromLeBytes_eq_iff (hwidth 16 20 (by decide) hr)).mpr h16
        channelId := (i32FromLeBytes_eq_iff (hwidth 20 24 (by decide) hr)).mpr h20
        bizIndex := (i64FromLeBytes_eq_iff (hwidth 24 32 (by decide) hr)).mpr h24
        sourceOrdinal := (u64FromLeBytes_eq_iff (hwidth 32 40 (by decide) hr)).mpr h32
        receiveNano := (i64FromLeBytes_eq_iff (hwidth 40 48 (by decide) hr)).mpr h40
        exchangeTime := (i64FromLeBytes_eq_iff (hwidth 48 56 (by decide) hr)).mpr h48
        symbol := Vector.toList_inj.mp ((hsymbol hr).trans h56)
        tail := h65
        bodyBytes := Vector.toList_inj.mp ((hbody hr).trans h80)
        compact := (hbyte 87 (by decide) hr _).mp h87
        bodyWords := by
          ext i hi
          have hoffset : compactL2PhysicalV2BodyWordOffsets[i] + 8 ≤ 168 := hword ⟨i, hi⟩
          have height : (window r compactL2PhysicalV2BodyWordOffsets[i]
              (compactL2PhysicalV2BodyWordOffsets[i] + 8)).length = 8 := by
            rw [hwidth _ _ hoffset hr, Nat.add_sub_cancel_left]
          rw [Vector.getElem_map, i64FromLeBytes_eq_iff height]
          exact hwords ⟨i, hi⟩ }
  · intro h
    have hr := h.length
    refine ⟨hr, ⟨h.magic, ?_, ?_, ?_, ?_, ?_, ?_, ?_, ?_, ?_, ?_, ?_, ?_, ?_, ?_, ?_, h.tail,
      ?_, ?_⟩, ?_⟩
    · exact (u16FromLeBytes_eq_iff (hwidth 4 6 (by decide) hr)).mp h.schemaVersion
    · exact (u16FromLeBytes_eq_iff (hwidth 6 8 (by decide) hr)).mp h.headerLen
    · exact (u16FromLeBytes_eq_iff (hwidth 8 10 (by decide) hr)).mp h.recordLen
    · exact (hbyte 10 (by decide) hr _).mpr h.recordKind
    · exact (hbyte 11 (by decide) hr _).mpr h.sourceFamily
    · exact (hbyte 12 (by decide) hr _).mpr h.exchangeId
    · exact (hbyte 13 (by decide) hr _).mpr h.reserved
    · exact (u16FromLeBytes_eq_iff (hwidth 14 16 (by decide) hr)).mp h.flags
    · exact (u32FromLeBytes_eq_iff (hwidth 16 20 (by decide) hr)).mp h.tradingDay
    · exact (i32FromLeBytes_eq_iff (hwidth 20 24 (by decide) hr)).mp h.channelId
    · exact (i64FromLeBytes_eq_iff (hwidth 24 32 (by decide) hr)).mp h.bizIndex
    · exact (u64FromLeBytes_eq_iff (hwidth 32 40 (by decide) hr)).mp h.sourceOrdinal
    · exact (i64FromLeBytes_eq_iff (hwidth 40 48 (by decide) hr)).mp h.receiveNano
    · exact (i64FromLeBytes_eq_iff (hwidth 48 56 (by decide) hr)).mp h.exchangeTime
    · rw [← hsymbol hr, h.symbol]
    · rw [← hbody hr, h.bodyBytes]
    · exact (hbyte 87 (by decide) hr _).mpr h.compact
    · intro slot
      have height : (window r compactL2PhysicalV2BodyWordOffsets[slot]
          (compactL2PhysicalV2BodyWordOffsets[slot] + 8)).length = 8 := by
        rw [hwidth _ _ (hword slot) hr, Nat.add_sub_cancel_left]
      rw [← i64FromLeBytes_eq_iff height, ← h.bodyWords]
      simp

lemma spells_fixedBinaryV1Bytes (v : CompactL2PhysicalV2Record) : v.Spells v.fixedBinaryV1Bytes :=
  eq_fixedBinaryV1Bytes_iff.mp rfl

@[simp] lemma length_fixedBinaryV1Bytes (v : CompactL2PhysicalV2Record) :
    v.fixedBinaryV1Bytes.length = compactL2FixedBinaryRecordWidthV1 :=
  v.spells_fixedBinaryV1Bytes.length

/-- A record spells one row of lanes. -/
lemma Spells.unique (hv : v.Spells r) (hw : w.Spells r) : v = w := by
  have hcode : v.recordKind.code = w.recordKind.code := by rw [← hv.recordKind, ← hw.recordKind]
  have hkind : v.recordKind = w.recordKind := by
    have hok : recordKindOfCode v.recordKind.code = .ok w.recordKind :=
      recordKindOfCode_eq_ok.mpr hcode
    rw [recordKindOfCode_eq_ok.mpr rfl] at hok
    exact Except.ok.inj hok
  cases v
  cases w
  rw [mk.injEq]
  exact ⟨hkind, hv.sourceFamily.symm.trans hw.sourceFamily,
    hv.exchangeId.symm.trans hw.exchangeId, hv.tradingDay.symm.trans hw.tradingDay,
    hv.channelId.symm.trans hw.channelId, hv.bizIndex.symm.trans hw.bizIndex,
    hv.sourceOrdinal.symm.trans hw.sourceOrdinal, hv.receiveNano.symm.trans hw.receiveNano,
    hv.exchangeTime.symm.trans hw.exchangeTime, hv.symbol.symm.trans hw.symbol,
    hv.bodyBytes.symm.trans hw.bodyBytes, hv.bodyWords.symm.trans hw.bodyWords⟩

/-- Lanes are put together exactly when they are well formed, into their string. -/
lemma toFixedBinaryV1_eq_ok :
    toFixedBinaryV1 v = .ok r ↔ r = v.fixedBinaryV1Bytes ∧ v.WellFormed := by
  constructor
  · intro hto
    obtain ⟨header, hdecode, hpure⟩ := bind_eq_ok.mp hto
    obtain ⟨w, hspells, hwell, -⟩ := exists_spells_of_decode hdecode
    rw [hspells.unique v.spells_fixedBinaryV1Bytes] at hwell
    exact ⟨(Except.ok.inj hpure).symm, hwell⟩
  · rintro ⟨hr, hwell⟩
    rw [hr, toFixedBinaryV1, v.spells_fixedBinaryV1Bytes.decode hwell, ok_bind, pure_eq_ok]

/-- Splitting a record and putting lanes together are inverse to each other. -/
theorem fromFixedBinaryV1_iff_toFixedBinaryV1 :
    fromFixedBinaryV1 r = .ok v ↔ toFixedBinaryV1 v = .ok r := by
  rw [fromFixedBinaryV1_eq_ok, toFixedBinaryV1_eq_ok, eq_fixedBinaryV1Bytes_iff]

/-- The decoder accepts a record exactly when it can be split, and reads the header of its
lanes. -/
lemma decode_eq_ok : decodeCompactL2FixedBinaryHeaderV1 r = .ok h ↔
    ∃ v, fromFixedBinaryV1 r = .ok v ∧ v.header = h := by
  constructor
  · intro hdecode
    obtain ⟨v, hspells, hwell, hheader⟩ := exists_spells_of_decode hdecode
    exact ⟨v, fromFixedBinaryV1_eq_ok.mpr ⟨hspells, hwell⟩, hheader⟩
  · rintro ⟨v, hfrom, rfl⟩
    obtain ⟨hspells, hwell⟩ := fromFixedBinaryV1_eq_ok.mp hfrom
    exact hspells.decode hwell

end CompactL2PhysicalV2Record

end ArcadiaTio.Ocb
