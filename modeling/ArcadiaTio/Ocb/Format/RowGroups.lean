import ArcadiaTio.Ocb.Format.Tables

/-!
# Row-group index, row-group index delta, ordering proof

The tables that describe the data of a file: one record per row group, one per column chunk,
one per recorded statistic, and the optional ordering proof with one record per row group.  A
delta object carries the records an append adds, together with the counts of the base tables it
is to be appended to.
-/

namespace ArcadiaTio.Ocb

open ArcadiaTio.Lib

/-! ### Statistics -/

/-- A recorded bound; floating-point bounds are kept as bit patterns. -/
inductive OcbStatScalarV1
  | i32 (value : Int32)
  | i64 (value : Int64)
  | f32 (bits : UInt32)
  | f64 (bits : UInt64)
deriving DecidableEq

namespace OcbStatScalarV1

/-- The physical type of a scalar. -/
def physicalType : OcbStatScalarV1 → OcbPhysicalTypeV1
  | i32 _ => .i32
  | i64 _ => .i64
  | f32 _ => .f32
  | f64 _ => .f64

/-- Decode a value of a statistic. -/
def read : Reader OcbStatScalarV1 := do
  let physicalType ← OcbPhysicalTypeV1.fromU16 (← readU16)
  let _reserved0 ← readU16
  let raw ← readU64
  let _reserved1 ← readU32
  match physicalType with
  | .i32 => return i32 raw.toUInt32.toInt32
  | .i64 => return i64 raw.toInt64
  | .f32 => return f32 raw.toUInt32
  | .f64 => return f64 raw
  | .fixedBinary =>
    throw (ocbCorruptFile "OCB fixed-binary columns do not support scalar stats")

/-- The bytes of a value of a statistic. -/
def write (v : OcbStatScalarV1) : List UInt8 :=
  writeU16 v.physicalType.toU16 ++ writeU16 0 ++
    writeU64 (match v with
      | i32 value => value.toInt64.toUInt64
      | i64 value => value.toUInt64
      | f32 bits => bits.toUInt64
      | f64 bits => bits) ++
    writeU32 0

end OcbStatScalarV1

/-- The statistics of a column in a row group. -/
structure OcbColumnStatsV1 where
  rowGroupId : UInt32
  columnId : UInt32
  physicalType : OcbPhysicalTypeV1
  flags : UInt16
  nullCount : UInt32
  minValue : OcbStatScalarV1
  maxValue : OcbStatScalarV1
deriving DecidableEq

namespace OcbColumnStatsV1

/-- Decode a column statistic. -/
def read : Reader OcbColumnStatsV1 := do
  let rowGroupId ← readU32
  let columnId ← readU32
  let physicalType ← OcbPhysicalTypeV1.fromU16 (← readU16)
  let flags ← readU16
  let nullCount ← readU32
  let minValue ← OcbStatScalarV1.read
  let maxValue ← OcbStatScalarV1.read
  failIf (minValue.physicalType ≠ physicalType ∨ maxValue.physicalType ≠ physicalType)
    (ocbCorruptFile "OCB stats scalar type does not match stats physical type")
  return { rowGroupId, columnId, physicalType, flags, nullCount, minValue, maxValue }

/-- The bytes of a column statistic. -/
def write (s : OcbColumnStatsV1) : List UInt8 :=
  writeU32 s.rowGroupId ++ writeU32 s.columnId ++ writeU16 s.physicalType.toU16 ++
    writeU16 s.flags ++ writeU32 s.nullCount ++ s.minValue.write ++ s.maxValue.write

/-- The encoded length of a statistic, which is also its size in memory. -/
def len : ℕ := 48

end OcbColumnStatsV1

lemma OcbStatScalarV1.run_read_bind {α : Type} {v : OcbStatScalarV1} {rest : List UInt8}
    {f : OcbStatScalarV1 → Reader α} : (read >>= f).run (v.write ++ rest) = (f v).run rest := by
  refine Decoder.run_bind_of_ok ?_
  simp only [read, write, List.append_assoc, run_readU64_bind, run_readU32_bind, run_readU16_bind,
    run_lift_bind (OcbPhysicalTypeV1.fromU16_toU16 _)]
  cases v with
  | i32 value =>
    have hvalue : value.toInt64.toUInt64.toUInt32.toInt32 = value := by
      apply Int32.toBitVec_inj.mp
      ext i hi
      simp [BitVec.getLsbD_signExtend, hi]
      omega
    simp only [physicalType, hvalue]
    rfl
  | i64 value => rfl
  | f32 bits => simp [physicalType]
  | f64 bits => rfl

lemma OcbColumnStatsV1.run_read (s : OcbColumnStatsV1)
    (hmin : s.minValue.physicalType = s.physicalType)
    (hmax : s.maxValue.physicalType = s.physicalType) (rest : List UInt8) :
    OcbColumnStatsV1.read.run (s.write ++ rest) = .ok (s, rest) := by
  have hscalar : ¬ (s.minValue.physicalType ≠ s.physicalType ∨
      s.maxValue.physicalType ≠ s.physicalType) := by
    simp [hmin, hmax]
  simp only [read, write, List.append_assoc, run_readU32_bind, run_readU16_bind,
    OcbStatScalarV1.run_read_bind, run_lift_bind (OcbPhysicalTypeV1.fromU16_toU16 _),
    run_failIf_bind hscalar]
  rfl

@[simp] lemma OcbColumnStatsV1.length_write (s : OcbColumnStatsV1) : s.write.length = len := by
  simp [write, OcbStatScalarV1.write, len]

/-- The bytes of the record, when it can be written. -/
def OcbColumnStatsV1.writeTo (s : OcbColumnStatsV1) : Result (List UInt8) := do
  failIf (s.minValue.physicalType ≠ s.physicalType ∨ s.maxValue.physicalType ≠ s.physicalType)
    (ocbInvalidInput "OCB stats scalar type must match stats physical type")
  return s.write

/-! ### Row groups and column chunks -/

/-- The descriptor of a row group. -/
structure OcbRowGroupDescV1 where
  rowGroupId : UInt32
  flags : UInt32
  baseRow : UInt64
  rowCount : UInt64
  chunkDescBegin : UInt64
  chunkDescCount : UInt32
  statBegin : UInt64
  statCount : UInt32
  firstKeyTupleRef : OcbBodyRefV2
  lastKeyTupleRef : OcbBodyRefV2
deriving DecidableEq

namespace OcbRowGroupDescV1

/-- Decode a row-group descriptor. -/
def read : Reader OcbRowGroupDescV1 := do
  let rowGroupId ← readU32
  let flags ← readU32
  let baseRow ← readU64
  let rowCount ← readU64
  let chunkDescBegin ← readU64
  let chunkDescCount ← readU32
  let _reserved0 ← readU32
  let statBegin ← readU64
  let statCount ← readU32
  let _reserved1 ← readU32
  let firstKeyTupleRef ← OcbBodyRefV2.read
  let lastKeyTupleRef ← OcbBodyRefV2.read
  return {
    rowGroupId, flags, baseRow, rowCount, chunkDescBegin, chunkDescCount, statBegin, statCount,
    firstKeyTupleRef, lastKeyTupleRef }

/-- The bytes of a row-group descriptor. -/
def write (g : OcbRowGroupDescV1) : List UInt8 :=
  writeU32 g.rowGroupId ++ writeU32 g.flags ++ writeU64 g.baseRow ++ writeU64 g.rowCount ++
    writeU64 g.chunkDescBegin ++ writeU32 g.chunkDescCount ++ writeU32 0 ++ writeU64 g.statBegin ++
    writeU32 g.statCount ++ writeU32 0 ++ g.firstKeyTupleRef.write ++ g.lastKeyTupleRef.write

/-- The encoded length of a row-group descriptor. -/
def len : ℕ := 120

/-- The size of a row-group descriptor in memory: the two reserved words are dropped. -/
def memBytes : ℕ := 112

end OcbRowGroupDescV1

/-- The descriptor of a column chunk. -/
structure OcbColumnChunkDescV1 where
  rowGroupId : UInt32
  columnId : UInt32
  physicalType : OcbPhysicalTypeV1
  codec : OcbChunkCodecV1
  flags : UInt32
  valueRef : OcbBodyRefV2
  validityRef : OcbBodyRefV2
  rowCount : UInt64
  uncompressedBytes : UInt64
deriving DecidableEq

namespace OcbColumnChunkDescV1

/-- Decode a chunk descriptor. -/
def read : Reader OcbColumnChunkDescV1 := do
  let rowGroupId ← readU32
  let columnId ← readU32
  let physicalType ← OcbPhysicalTypeV1.fromU16 (← readU16)
  let codec ← OcbChunkCodecV1.fromU16 (← readU16)
  let flags ← readU32
  let valueRef ← OcbBodyRefV2.read
  let validityRef ← OcbBodyRefV2.read
  let rowCount ← readU64
  let uncompressedBytes ← readU64
  return {
    rowGroupId, columnId, physicalType, codec, flags, valueRef, validityRef, rowCount,
    uncompressedBytes }

/-- The bytes of a chunk descriptor. -/
def write (c : OcbColumnChunkDescV1) : List UInt8 :=
  writeU32 c.rowGroupId ++ writeU32 c.columnId ++ writeU16 c.physicalType.toU16 ++
    writeU16 c.codec.toU16 ++ writeU32 c.flags ++ c.valueRef.write ++ c.validityRef.write ++
    writeU64 c.rowCount ++ writeU64 c.uncompressedBytes

/-- The encoded length of a chunk descriptor, which is also its size in memory. -/
def len : ℕ := 96

end OcbColumnChunkDescV1

lemma OcbRowGroupDescV1.run_read (g : OcbRowGroupDescV1) (rest : List UInt8) :
    OcbRowGroupDescV1.read.run (g.write ++ rest) = .ok (g, rest) := by
  simp only [read, write, List.append_assoc, run_readU64_bind, run_readU32_bind,
    OcbBodyRefV2.run_read_bind]
  rfl

@[simp] lemma OcbRowGroupDescV1.length_write (g : OcbRowGroupDescV1) : g.write.length = len := by
  simp [write, len]

lemma OcbColumnChunkDescV1.run_read (c : OcbColumnChunkDescV1) (rest : List UInt8) :
    OcbColumnChunkDescV1.read.run (c.write ++ rest) = .ok (c, rest) := by
  simp only [read, write, List.append_assoc, run_readU64_bind, run_readU32_bind, run_readU16_bind,
    OcbBodyRefV2.run_read_bind, run_lift_bind (OcbPhysicalTypeV1.fromU16_toU16 _),
    run_lift_bind (OcbChunkCodecV1.fromU16_toU16 _)]
  rfl

@[simp] lemma OcbColumnChunkDescV1.length_write (c : OcbColumnChunkDescV1) :
    c.write.length = len := by
  simp [write, len]

/-- The bytes of the record. -/
def OcbRowGroupDescV1.writeTo (g : OcbRowGroupDescV1) : Result (List UInt8) := .ok g.write

/-- The bytes of the record, when it can be written. -/
def OcbColumnChunkDescV1.writeTo (c : OcbColumnChunkDescV1) : Result (List UInt8) := do
  failIf (c.valueRef.kind ≠ .columnChunk)
    (ocbInvalidInput "OCB chunk value_ref must reference column chunk")
  failIf (¬ c.validityRef.IsNull ∧ c.validityRef.kind ≠ .validityBitmap)
    (ocbInvalidInput "OCB chunk validity_ref must reference validity bitmap")
  return c.write

/-! ### Ordering keys and proofs -/

/-- A key of the ordering of a file. -/
structure OcbOrderingKeyV1 where
  columnId : UInt32
  direction : OcbOrderingDirectionV1
  nullOrder : OcbNullOrderV1
  reserved0 : UInt16
deriving DecidableEq

namespace OcbOrderingKeyV1

/-- Decode an ordering key. -/
def read : Reader OcbOrderingKeyV1 := do
  let columnId ← readU32
  let directionByte ← readU8
  let nullOrderByte ← readU8
  let direction ← OcbOrderingDirectionV1.fromU8 directionByte
  let nullOrder ← OcbNullOrderV1.fromU8 nullOrderByte
  let reserved0 ← readU16
  return { columnId, direction, nullOrder, reserved0 }

/-- The bytes of an ordering key. -/
def write (k : OcbOrderingKeyV1) : List UInt8 :=
  writeU32 k.columnId ++ writeU8 k.direction.toU8 ++ writeU8 k.nullOrder.toU8 ++
    writeU16 k.reserved0

/-- Encode an ordering key. -/
def writeTo (k : OcbOrderingKeyV1) : Result (List UInt8) := .ok k.write

/-- The encoded length of an ordering key, which is also its size in memory. -/
def len : ℕ := 8

lemma run_read (k : OcbOrderingKeyV1) (rest : List UInt8) :
    read.run (k.write ++ rest) = .ok (k, rest) := by
  simp only [read, write, List.append_assoc, run_readU32_bind, run_readU8_bind, run_readU16_bind,
    run_lift_bind (OcbOrderingDirectionV1.fromU8_toU8 _),
    run_lift_bind (OcbNullOrderV1.fromU8_toU8 _)]
  rfl

@[simp] lemma length_write (k : OcbOrderingKeyV1) : k.write.length = len := by
  simp [write, len]

end OcbOrderingKeyV1

/-- What a row group adds to the proof of the ordering. -/
structure OcbRowGroupOrderingProofV1 where
  rowGroupId : UInt32
  flags : UInt32
  firstTupleRef : OcbBodyRefV2
  lastTupleRef : OcbBodyRefV2
deriving DecidableEq

namespace OcbRowGroupOrderingProofV1

/-- Decode a row-group ordering proof. -/
def read : Reader OcbRowGroupOrderingProofV1 := do
  let rowGroupId ← readU32
  let flags ← readU32
  let firstTupleRef ← OcbBodyRefV2.read
  let lastTupleRef ← OcbBodyRefV2.read
  return { rowGroupId, flags, firstTupleRef, lastTupleRef }

/-- The bytes of a row-group ordering proof. -/
def write (p : OcbRowGroupOrderingProofV1) : List UInt8 :=
  writeU32 p.rowGroupId ++ writeU32 p.flags ++ p.firstTupleRef.write ++ p.lastTupleRef.write

/-- Encode a row-group ordering proof. -/
def writeTo (p : OcbRowGroupOrderingProofV1) : Result (List UInt8) := do
  failIf (¬ p.firstTupleRef.IsNull ∧ p.firstTupleRef.kind ≠ .keyTuple)
    (ocbInvalidInput "OCB ordering first_tuple_ref must reference key tuple")
  failIf (¬ p.lastTupleRef.IsNull ∧ p.lastTupleRef.kind ≠ .keyTuple)
    (ocbInvalidInput "OCB ordering last_tuple_ref must reference key tuple")
  return p.write

/-- The encoded length of a row-group ordering proof, which is also its size in memory. -/
def len : ℕ := 72

lemma run_read (p : OcbRowGroupOrderingProofV1) (rest : List UInt8) :
    read.run (p.write ++ rest) = .ok (p, rest) := by
  simp only [read, write, List.append_assoc, run_readU32_bind, OcbBodyRefV2.run_read_bind]
  rfl

@[simp] lemma length_write (p : OcbRowGroupOrderingProofV1) : p.write.length = len := by
  simp [write, len]

end OcbRowGroupOrderingProofV1

/-! ### The row-group index -/

/-- The index of the row groups with their chunks and statistics. -/
structure OcbRowGroupIndexV1 where
  version : UInt16
  flags : UInt32
  rowGroups : List OcbRowGroupDescV1
  columnChunks : List OcbColumnChunkDescV1
  stats : List OcbColumnStatsV1
  crc32c : UInt32
deriving DecidableEq

/-- How a row-group index begins. -/
def ocbRowGroupIndexHeader : ObjectHeader where
  what := "OCB row-group index"
  magic := [79, 67, 66, 82, 71, 73, 49, 0]
  headerLen := 32

/-- Decode a row-group index and charge what it takes. -/
def OcbRowGroupIndexV1.readFromBytesWithBudget (bytes : List UInt8) :
    Metered OcbRowGroupIndexV1 := do
  let header ← readHeader ocbRowGroupIndexHeader bytes
  let ((rowGroupCount, columnChunkCount, statCount, flags), start) ← (do
    let rowGroupCount ← readU32
    let columnChunkCount ← readU32
    let statCount ← readU32
    let flags ← readU32
    let _reserved0 ← readU32
    let rowGroupCount ← recordCount header.totalLen rowGroupCount.toNat OcbRowGroupDescV1.len
      "OCB row-group index row-group count"
    return (rowGroupCount, columnChunkCount, statCount, flags)).run header.rest
  let (columnChunkCount, statCount) ← readAll (do
    validateRecordSequence rowGroupCount OcbRowGroupDescV1.read
    let columnChunkCount ← recordCount header.totalLen columnChunkCount.toNat
      OcbColumnChunkDescV1.len "OCB row-group index column-chunk count"
    validateRecordSequence columnChunkCount OcbColumnChunkDescV1.read
    let statCount ← recordCount header.totalLen statCount.toNat OcbColumnStatsV1.len
      "OCB row-group index stat count"
    validateRecordSequence statCount OcbColumnStatsV1.read
    return (columnChunkCount, statCount)) start
  let rowGroupBytes ← checkedMaterializedVecBytes OcbRowGroupDescV1.memBytes rowGroupCount
  let columnChunkBytes ← checkedMaterializedVecBytes OcbColumnChunkDescV1.len columnChunkCount
  let statBytes ← checkedMaterializedVecBytes OcbColumnStatsV1.len statCount
  let retainedBytes ← checkedMaterializedSum [rowGroupBytes, columnChunkBytes, statBytes]
  MetadataMaterializationBudget.charge retainedBytes
  readAll (do
    let rowGroups ← readRecordSequence rowGroupCount OcbRowGroupDescV1.read
    let columnChunks ← readRecordSequence columnChunkCount OcbColumnChunkDescV1.read
    let stats ← readRecordSequence statCount OcbColumnStatsV1.read
    return {
      version := header.version, flags, rowGroups, columnChunks, stats
      crc32c := header.crc32c }) start

/-- The bytes of a row-group index with its checksum field zero. -/
def OcbRowGroupIndexV1.fieldBytes (i : OcbRowGroupIndexV1) : List UInt8 :=
  ocbRowGroupIndexHeader.objectBytes i.version
    (writeU32 i.rowGroups.length.toUInt32 ++ writeU32 i.columnChunks.length.toUInt32 ++
      writeU32 i.stats.length.toUInt32 ++ writeU32 i.flags ++ writeU32 0 ++
      i.rowGroups.flatMap OcbRowGroupDescV1.write ++
      i.columnChunks.flatMap OcbColumnChunkDescV1.write ++ i.stats.flatMap OcbColumnStatsV1.write)

/-- The bytes of the index with its checksum left out. -/
def OcbRowGroupIndexV1.encodeWithoutChecksum (i : OcbRowGroupIndexV1) : Result (List UInt8) := do
  failIf (2 ^ 32 ≤ i.rowGroups.length)
    (ocbInvalidInput "OCB row-group index has too many row groups")
  failIf (2 ^ 32 ≤ i.columnChunks.length)
    (ocbInvalidInput "OCB row-group index has too many column chunks")
  failIf (2 ^ 32 ≤ i.stats.length) (ocbInvalidInput "OCB row-group index has too many stats")
  let rowGroups ← i.rowGroups.mapM OcbRowGroupDescV1.writeTo
  let columnChunks ← i.columnChunks.mapM OcbColumnChunkDescV1.writeTo
  let stats ← i.stats.mapM OcbColumnStatsV1.writeTo
  vecBuffer (ocbRowGroupIndexHeader.objectBytes i.version
    (writeU32 i.rowGroups.length.toUInt32 ++ writeU32 i.columnChunks.length.toUInt32 ++
      writeU32 i.stats.length.toUInt32 ++ writeU32 i.flags ++ writeU32 0 ++ rowGroups.flatten ++
      columnChunks.flatten ++ stats.flatten))

/-- The bytes of the index, when it can be written. -/
def OcbRowGroupIndexV1.writeTo (i : OcbRowGroupIndexV1) : Result (List UInt8) :=
  sealBytes <$> i.encodeWithoutChecksum

/-- The memory that the tables of an index take. -/
def OcbRowGroupIndexV1.materializedBytes (i : OcbRowGroupIndexV1) : ℕ :=
  i.rowGroups.length * OcbRowGroupDescV1.memBytes +
    i.columnChunks.length * OcbColumnChunkDescV1.len + i.stats.length * OcbColumnStatsV1.len

/-- A sealed row-group index is read back, at the price of its tables. -/
lemma OcbRowGroupIndexV1.readFromBytesWithBudget_sealBytes (i : OcbRowGroupIndexV1)
    (hversion : i.version = 1) (hrowGroups : i.rowGroups.length < 2 ^ 32)
    (hchunks : i.columnChunks.length < 2 ^ 32) (hstats : i.stats.length < 2 ^ 32)
    (htyped : ∀ s ∈ i.stats, s.minValue.physicalType = s.physicalType ∧
      s.maxValue.physicalType = s.physicalType) :
    readFromBytesWithBudget (sealBytes i.fieldBytes) = (do
      MetadataMaterializationBudget.charge i.materializedBytes
      return { i with crc32c := Ocb.crc32c i.fieldBytes }) := by
  have hgroupCount : i.rowGroups.length.toUInt32.toNat = i.rowGroups.length := by
    simpa using hrowGroups
  have hchunkCount : i.columnChunks.length.toUInt32.toNat = i.columnChunks.length := by
    simpa using hchunks
  have hstatCount : i.stats.length.toUInt32.toNat = i.stats.length := by
    simpa using hstats
  have hreadGroup : ∀ g ∈ i.rowGroups, ∀ rest,
      OcbRowGroupDescV1.read.run (g.write ++ rest) = .ok (g, rest) :=
    fun g _ => g.run_read
  have hreadChunk : ∀ c ∈ i.columnChunks, ∀ rest,
      OcbColumnChunkDescV1.read.run (c.write ++ rest) = .ok (c, rest) :=
    fun c _ => c.run_read
  have hreadStat : ∀ s ∈ i.stats, ∀ rest,
      OcbColumnStatsV1.read.run (s.write ++ rest) = .ok (s, rest) :=
    fun s hs => s.run_read (htyped s hs).1 (htyped s hs).2
  rw [readFromBytesWithBudget, fieldBytes, hversion,
    readHeader_sealBytes_one ocbRowGroupIndexHeader rfl _ (by decide)]
  generalize Ocb.crc32c _ = crc
  simp only [Fallible.lift_ok_bind, List.append_assoc, run_readU32_bind, hgroupCount]
  rw [run_recordCount_records_bind (fun g _ => g.length_write) hrowGroups (by decide)
    (by simp; omega) (by simp; omega)]
  simp only [StateT.run_pure, pure_eq_ok, Fallible.lift_ok_bind, readAll]
  rw [run_validateRecordSequence_bind hreadGroup, hchunkCount,
    run_recordCount_records_bind (fun c _ => c.length_write) hchunks (by decide)
      (by simp) (by simp; omega), run_validateRecordSequence_bind hreadChunk, hstatCount,
    run_recordCount_records_bind (fun s _ => s.length_write) hstats (by decide)
      (by simp) (by simp; omega), run_validateRecordSequence_bind hreadStat]
  simp only [StateT.run_pure, pure_eq_ok, Functor.map, Except.map, Fallible.lift_ok_bind,
    checkedMaterializedVecBytes_of_lt (show OcbRowGroupDescV1.memBytes < 2 ^ 32 by decide) hrowGroups,
    checkedMaterializedVecBytes_of_lt (show OcbColumnChunkDescV1.len < 2 ^ 32 by decide) hchunks,
    checkedMaterializedVecBytes_of_lt (show OcbColumnStatsV1.len < 2 ^ 32 by decide) hstats,
    run_readRecordSequence_bind hreadGroup, run_readRecordSequence_bind hreadChunk,
    run_readRecordSequence_bind hreadStat]
  have hsum : checkedMaterializedSum [i.rowGroups.length * OcbRowGroupDescV1.memBytes,
      i.columnChunks.length * OcbColumnChunkDescV1.len, i.stats.length * OcbColumnStatsV1.len] =
      .ok i.materializedBytes := by
    rw [checkedMaterializedSum_of_lt]
    · exact congrArg Except.ok (by simp [materializedBytes, Nat.add_assoc])
    · simp only [OcbRowGroupDescV1.memBytes, OcbColumnChunkDescV1.len, OcbColumnStatsV1.len,
        List.sum_cons, List.sum_nil]
      omega
  rw [hsum, Fallible.lift_ok_bind]
  rfl

/-! ### The row-group index delta -/

/-- What a commit adds to the index of a base. -/
structure OcbRowGroupIndexDeltaV1 where
  version : UInt16
  flags : UInt32
  baseRowGroupCount : UInt32
  baseColumnChunkCount : UInt32
  baseStatCount : UInt32
  baseOrderingProofCount : UInt32
  rowGroups : List OcbRowGroupDescV1
  columnChunks : List OcbColumnChunkDescV1
  stats : List OcbColumnStatsV1
  orderingKeys : List OcbOrderingKeyV1
  rowGroupOrderingProofs : List OcbRowGroupOrderingProofV1
  crc32c : UInt32
deriving DecidableEq

/-- How a row-group index delta begins. -/
def ocbRowGroupIndexDeltaHeader : ObjectHeader where
  what := "OCB row-group index delta"
  magic := [79, 67, 66, 82, 71, 68, 49, 0]
  headerLen := 56

/-- The declared counts of a delta: those of the base tables and those of its own sections. -/
structure DeltaCounts where
  baseRowGroupCount : UInt32
  baseColumnChunkCount : UInt32
  baseStatCount : UInt32
  baseOrderingProofCount : UInt32
  rowGroupCount : UInt32
  columnChunkCount : UInt32
  statCount : UInt32
  orderingKeyCount : UInt16
  orderingProofCount : UInt32
  flags : UInt32

/-- Read the counts of a delta. -/
def DeltaCounts.read : Reader DeltaCounts := do
  let baseRowGroupCount ← readU32
  let baseColumnChunkCount ← readU32
  let baseStatCount ← readU32
  let baseOrderingProofCount ← readU32
  let rowGroupCount ← readU32
  let columnChunkCount ← readU32
  let statCount ← readU32
  let orderingKeyCount ← readU16
  let _reserved0 ← readU16
  let orderingProofCount ← readU32
  let flags ← readU32
  let _reserved1 ← readU32
  return {
    baseRowGroupCount, baseColumnChunkCount, baseStatCount, baseOrderingProofCount, rowGroupCount,
    columnChunkCount, statCount, orderingKeyCount, orderingProofCount, flags }

/-- The validation pass over the sections of a delta; returns the checked section counts. -/
def validateDeltaSections (totalLen : ℕ) (counts : DeltaCounts) :
    Reader (ℕ × ℕ × ℕ × ℕ × ℕ) := do
  let rowGroupCount ← recordCount totalLen counts.rowGroupCount.toNat OcbRowGroupDescV1.len
    "OCB row-group index delta row-group count"
  validateRecordSequence rowGroupCount OcbRowGroupDescV1.read
  let columnChunkCount ← recordCount totalLen counts.columnChunkCount.toNat
    OcbColumnChunkDescV1.len "OCB row-group index delta column-chunk count"
  validateRecordSequence columnChunkCount OcbColumnChunkDescV1.read
  let statCount ← recordCount totalLen counts.statCount.toNat OcbColumnStatsV1.len
    "OCB row-group index delta stat count"
  validateRecordSequence statCount OcbColumnStatsV1.read
  let orderingKeyCount ← recordCount totalLen counts.orderingKeyCount.toNat OcbOrderingKeyV1.len
    "OCB row-group index delta ordering-key count"
  validateRecordSequence orderingKeyCount OcbOrderingKeyV1.read
  let orderingProofCount ← recordCount totalLen counts.orderingProofCount.toNat
    OcbRowGroupOrderingProofV1.len "OCB row-group index delta ordering-proof count"
  validateRecordSequence orderingProofCount OcbRowGroupOrderingProofV1.read
  return (rowGroupCount, columnChunkCount, statCount, orderingKeyCount, orderingProofCount)

/-- Decode a delta and charge what it takes. -/
def OcbRowGroupIndexDeltaV1.readFromBytesWithBudget (bytes : List UInt8) :
    Metered OcbRowGroupIndexDeltaV1 := do
  let header ← readHeader ocbRowGroupIndexDeltaHeader bytes
  let (counts, start) ← DeltaCounts.read.run header.rest
  let (rowGroupCount, columnChunkCount, statCount, orderingKeyCount, orderingProofCount) ←
    readAll (validateDeltaSections header.totalLen counts) start
  let rowGroupBytes ← checkedMaterializedVecBytes OcbRowGroupDescV1.memBytes rowGroupCount
  let columnChunkBytes ← checkedMaterializedVecBytes OcbColumnChunkDescV1.len columnChunkCount
  let statBytes ← checkedMaterializedVecBytes OcbColumnStatsV1.len statCount
  let orderingKeyBytes ← checkedMaterializedVecBytes OcbOrderingKeyV1.len orderingKeyCount
  let orderingProofBytes ←
    checkedMaterializedVecBytes OcbRowGroupOrderingProofV1.len orderingProofCount
  let retainedBytes ← checkedMaterializedSum
    [rowGroupBytes, columnChunkBytes, statBytes, orderingKeyBytes, orderingProofBytes]
  MetadataMaterializationBudget.charge retainedBytes
  readAll (do
    let rowGroups ← readRecordSequence rowGroupCount OcbRowGroupDescV1.read
    let columnChunks ← readRecordSequence columnChunkCount OcbColumnChunkDescV1.read
    let stats ← readRecordSequence statCount OcbColumnStatsV1.read
    let orderingKeys ← readRecordSequence orderingKeyCount OcbOrderingKeyV1.read
    let rowGroupOrderingProofs ←
      readRecordSequence orderingProofCount OcbRowGroupOrderingProofV1.read
    return {
      version := header.version, flags := counts.flags
      baseRowGroupCount := counts.baseRowGroupCount
      baseColumnChunkCount := counts.baseColumnChunkCount
      baseStatCount := counts.baseStatCount
      baseOrderingProofCount := counts.baseOrderingProofCount
      rowGroups, columnChunks, stats, orderingKeys, rowGroupOrderingProofs
      crc32c := header.crc32c }) start

namespace OcbRowGroupIndexDeltaV1

/-- The declared counts of a delta. -/
def counts (d : OcbRowGroupIndexDeltaV1) : DeltaCounts where
  baseRowGroupCount := d.baseRowGroupCount
  baseColumnChunkCount := d.baseColumnChunkCount
  baseStatCount := d.baseStatCount
  baseOrderingProofCount := d.baseOrderingProofCount
  rowGroupCount := d.rowGroups.length.toUInt32
  columnChunkCount := d.columnChunks.length.toUInt32
  statCount := d.stats.length.toUInt32
  orderingKeyCount := d.orderingKeys.length.toUInt16
  orderingProofCount := d.rowGroupOrderingProofs.length.toUInt32
  flags := d.flags

end OcbRowGroupIndexDeltaV1

/-- The bytes of the counts of a delta. -/
def DeltaCounts.write (c : DeltaCounts) : List UInt8 :=
  writeU32 c.baseRowGroupCount ++ writeU32 c.baseColumnChunkCount ++ writeU32 c.baseStatCount ++
    writeU32 c.baseOrderingProofCount ++ writeU32 c.rowGroupCount ++ writeU32 c.columnChunkCount ++
    writeU32 c.statCount ++ writeU16 c.orderingKeyCount ++ writeU16 0 ++
    writeU32 c.orderingProofCount ++ writeU32 c.flags ++ writeU32 0

lemma DeltaCounts.run_read (c : DeltaCounts) (rest : List UInt8) :
    DeltaCounts.read.run (c.write ++ rest) = .ok (c, rest) := by
  simp only [read, write, List.append_assoc, run_readU32_bind, run_readU16_bind]
  rfl

@[simp] lemma DeltaCounts.length_write (c : DeltaCounts) : c.write.length = 44 := by simp [write]

namespace OcbRowGroupIndexDeltaV1

/-- The records of a delta, section by section. -/
def recordBytes (d : OcbRowGroupIndexDeltaV1) : List UInt8 :=
  d.rowGroups.flatMap OcbRowGroupDescV1.write ++
    (d.columnChunks.flatMap OcbColumnChunkDescV1.write ++
      (d.stats.flatMap OcbColumnStatsV1.write ++
        (d.orderingKeys.flatMap OcbOrderingKeyV1.write ++
          d.rowGroupOrderingProofs.flatMap OcbRowGroupOrderingProofV1.write)))

/-- The bytes of a delta with its checksum field zero. -/
def fieldBytes (d : OcbRowGroupIndexDeltaV1) : List UInt8 :=
  ocbRowGroupIndexDeltaHeader.objectBytes d.version (d.counts.write ++ d.recordBytes)

/-- Encode a delta that may be written, with its checksum field zero. -/
def encodeWithoutChecksum (d : OcbRowGroupIndexDeltaV1) : Result (List UInt8) := do
  failIf (2 ^ 32 ≤ d.rowGroups.length)
    (ocbInvalidInput "OCB row-group index delta has too many row groups")
  failIf (2 ^ 32 ≤ d.columnChunks.length)
    (ocbInvalidInput "OCB row-group index delta has too many column chunks")
  failIf (2 ^ 32 ≤ d.stats.length) (ocbInvalidInput "OCB row-group index delta has too many stats")
  failIf (2 ^ 16 ≤ d.orderingKeys.length)
    (ocbInvalidInput "OCB row-group index delta has too many ordering keys")
  failIf (2 ^ 32 ≤ d.rowGroupOrderingProofs.length)
    (ocbInvalidInput "OCB row-group index delta has too many ordering proofs")
  let rowGroups ← d.rowGroups.mapM OcbRowGroupDescV1.writeTo
  let columnChunks ← d.columnChunks.mapM OcbColumnChunkDescV1.writeTo
  let stats ← d.stats.mapM OcbColumnStatsV1.writeTo
  let orderingKeys ← d.orderingKeys.mapM OcbOrderingKeyV1.writeTo
  let orderingProofs ← d.rowGroupOrderingProofs.mapM OcbRowGroupOrderingProofV1.writeTo
  vecBuffer (ocbRowGroupIndexDeltaHeader.objectBytes d.version
    (d.counts.write ++ (rowGroups.flatten ++ (columnChunks.flatten ++ (stats.flatten ++
      (orderingKeys.flatten ++ orderingProofs.flatten))))))

/-- Encode a delta with its checksum. -/
def writeTo (d : OcbRowGroupIndexDeltaV1) : Result (List UInt8) :=
  sealBytes <$> d.encodeWithoutChecksum

/-- The memory that the tables of a delta take. -/
def materializedBytes (d : OcbRowGroupIndexDeltaV1) : ℕ :=
  d.rowGroups.length * OcbRowGroupDescV1.memBytes +
    d.columnChunks.length * OcbColumnChunkDescV1.len + d.stats.length * OcbColumnStatsV1.len +
    d.orderingKeys.length * OcbOrderingKeyV1.len +
    d.rowGroupOrderingProofs.length * OcbRowGroupOrderingProofV1.len

/-- The sections of a delta are within the counts of its header, and its statistics are typed. -/
structure Encodable (d : OcbRowGroupIndexDeltaV1) : Prop where
  rowGroups : d.rowGroups.length < 2 ^ 32
  columnChunks : d.columnChunks.length < 2 ^ 32
  stats : d.stats.length < 2 ^ 32
  orderingKeys : d.orderingKeys.length < 2 ^ 16
  orderingProofs : d.rowGroupOrderingProofs.length < 2 ^ 32
  typed : ∀ s ∈ d.stats, s.minValue.physicalType = s.physicalType ∧
    s.maxValue.physicalType = s.physicalType

section ReadBack

variable (d : OcbRowGroupIndexDeltaV1) (h : d.Encodable)
include h

lemma run_validateDeltaSections {totalLen : ℕ} (hle : (d.recordBytes ++ writeU32 0).length ≤ totalLen) :
    (validateDeltaSections totalLen d.counts).run (d.recordBytes ++ writeU32 0) =
      .ok ((d.rowGroups.length, d.columnChunks.length, d.stats.length, d.orderingKeys.length,
        d.rowGroupOrderingProofs.length), writeU32 0) := by
  have hgroups : d.counts.rowGroupCount.toNat = d.rowGroups.length := by
    simpa [counts] using h.rowGroups
  have hchunks : d.counts.columnChunkCount.toNat = d.columnChunks.length := by
    simpa [counts] using h.columnChunks
  have hstats : d.counts.statCount.toNat = d.stats.length := by
    simpa [counts] using h.stats
  have hkeys : d.counts.orderingKeyCount.toNat = d.orderingKeys.length := by
    simpa [counts] using h.orderingKeys
  have hproofs : d.counts.orderingProofCount.toNat = d.rowGroupOrderingProofs.length := by
    simpa [counts] using h.orderingProofs
  simp only [recordBytes, List.append_assoc] at hle ⊢
  simp only [List.length_append] at hle
  rw [validateDeltaSections, hgroups, hchunks, hstats, hkeys, hproofs]
  rw [run_recordCount_records_bind (fun g _ => g.length_write) h.rowGroups (by decide)
      (by simp; omega) (by simp only [List.length_append]; omega),
    run_validateRecordSequence_bind fun g _ => g.run_read,
    run_recordCount_records_bind (fun c _ => c.length_write) h.columnChunks (by decide)
      (by simp; omega) (by simp only [List.length_append]; omega),
    run_validateRecordSequence_bind fun c _ => c.run_read,
    run_recordCount_records_bind (fun s _ => s.length_write) h.stats (by decide)
      (by simp; omega) (by simp only [List.length_append]; omega),
    run_validateRecordSequence_bind fun s hs => s.run_read (h.typed s hs).1 (h.typed s hs).2]
  have hkeyBound := h.orderingKeys
  rw [run_recordCount_records_bind (fun k _ => k.length_write) (by omega) (by decide)
      (by simp) (by simp only [List.length_append]; omega),
    run_validateRecordSequence_bind fun k _ => k.run_read,
    run_recordCount_records_bind (fun p _ => p.length_write) h.orderingProofs (by decide)
      (by simp) (by simp only [List.length_append]; omega),
    run_validateRecordSequence_bind fun p _ => p.run_read]
  rfl

/-- A sealed delta is read back, at the price of its tables. -/
lemma readFromBytesWithBudget_sealBytes (hversion : d.version = 1) :
    readFromBytesWithBudget (sealBytes d.fieldBytes) = (do
      MetadataMaterializationBudget.charge d.materializedBytes
      return { d with crc32c := Ocb.crc32c d.fieldBytes }) := by
  have hsections : ∀ totalLen, (d.recordBytes ++ writeU32 0).length ≤ totalLen →
      (validateDeltaSections totalLen d.counts).run (d.recordBytes ++ writeU32 0) = _ :=
    fun _ hle => d.run_validateDeltaSections h hle
  have hsum : checkedMaterializedSum [d.rowGroups.length * OcbRowGroupDescV1.memBytes,
      d.columnChunks.length * OcbColumnChunkDescV1.len, d.stats.length * OcbColumnStatsV1.len,
      d.orderingKeys.length * OcbOrderingKeyV1.len,
      d.rowGroupOrderingProofs.length * OcbRowGroupOrderingProofV1.len] =
      .ok d.materializedBytes := by
    have hkeys := h.orderingKeys
    have := h.rowGroups
    have := h.columnChunks
    have := h.stats
    have := h.orderingProofs
    rw [checkedMaterializedSum_of_lt]
    · exact congrArg Except.ok (by simp [materializedBytes, Nat.add_assoc])
    · simp only [OcbRowGroupDescV1.memBytes, OcbColumnChunkDescV1.len, OcbColumnStatsV1.len,
        OcbOrderingKeyV1.len, OcbRowGroupOrderingProofV1.len, List.sum_cons, List.sum_nil]
      omega
  have hkeyCount : d.orderingKeys.length < 2 ^ 32 := by
    have hkeys := h.orderingKeys
    omega
  rw [readFromBytesWithBudget, fieldBytes, hversion,
    readHeader_sealBytes_one ocbRowGroupIndexDeltaHeader rfl _ (by decide)]
  generalize Ocb.crc32c _ = crc
  simp only [Fallible.lift_ok_bind, List.append_assoc, DeltaCounts.run_read, readAll]
  rw [hsections _ (by simp only [List.length_append, writeU32_length, DeltaCounts.length_write]; omega)]
  simp only [Functor.map, Except.map, Fallible.lift_ok_bind,
    checkedMaterializedVecBytes_of_lt (show OcbRowGroupDescV1.memBytes < 2 ^ 32 by decide) h.rowGroups,
    checkedMaterializedVecBytes_of_lt (show OcbColumnChunkDescV1.len < 2 ^ 32 by decide)
      h.columnChunks,
    checkedMaterializedVecBytes_of_lt (show OcbColumnStatsV1.len < 2 ^ 32 by decide) h.stats,
    checkedMaterializedVecBytes_of_lt (show OcbOrderingKeyV1.len < 2 ^ 32 by decide) hkeyCount,
    checkedMaterializedVecBytes_of_lt (show OcbRowGroupOrderingProofV1.len < 2 ^ 32 by decide)
      h.orderingProofs, hsum]
  simp only [recordBytes, List.append_assoc]
  rw [run_readRecordSequence_bind fun g _ => g.run_read,
    run_readRecordSequence_bind fun c _ => c.run_read,
    run_readRecordSequence_bind fun s hs => s.run_read (h.typed s hs).1 (h.typed s hs).2,
    run_readRecordSequence_bind fun k _ => k.run_read,
    run_readRecordSequence_bind fun p _ => p.run_read]
  rfl

end ReadBack

end OcbRowGroupIndexDeltaV1

/-! ### The ordering proof -/

/-- The ordering of a file: its keys and the proofs of the row groups. -/
structure OcbOrderingProofV1 where
  version : UInt16
  flags : UInt16
  keys : List OcbOrderingKeyV1
  rowGroupProofs : List OcbRowGroupOrderingProofV1
  crc32c : UInt32
deriving DecidableEq

/-- How an ordering proof begins. -/
def ocbOrderingProofHeader : ObjectHeader where
  what := "OCB ordering proof"
  magic := [79, 67, 66, 79, 82, 68, 49, 0]
  headerLen := 28

/-- Decode an ordering proof and charge what it takes. -/
def OcbOrderingProofV1.readFromBytesWithBudget (bytes : List UInt8) :
    Metered OcbOrderingProofV1 := do
  let header ← readHeader ocbOrderingProofHeader bytes
  let ((keyCount, rowGroupCount, flags), start) ← (do
    let keyCount ← readU16
    let flags ← readU16
    let rowGroupCount ← readU32
    let _reserved0 ← readU64
    let keyCount ← recordCount header.totalLen keyCount.toNat OcbOrderingKeyV1.len
      "OCB ordering proof key count"
    return (keyCount, rowGroupCount, flags)).run header.rest
  let rowGroupCount ← readAll (do
    validateRecordSequence keyCount OcbOrderingKeyV1.read
    let rowGroupCount ← recordCount header.totalLen rowGroupCount.toNat
      OcbRowGroupOrderingProofV1.len "OCB ordering proof row-group count"
    validateRecordSequence rowGroupCount OcbRowGroupOrderingProofV1.read
    return rowGroupCount) start
  let keyBytes ← checkedMaterializedVecBytes OcbOrderingKeyV1.len keyCount
  let proofBytes ← checkedMaterializedVecBytes OcbRowGroupOrderingProofV1.len rowGroupCount
  let retainedBytes ← checkedMaterializedSum [keyBytes, proofBytes]
  MetadataMaterializationBudget.charge retainedBytes
  readAll (do
    let keys ← readRecordSequence keyCount OcbOrderingKeyV1.read
    let rowGroupProofs ← readRecordSequence rowGroupCount OcbRowGroupOrderingProofV1.read
    return {
      version := header.version, flags, keys, rowGroupProofs, crc32c := header.crc32c }) start

namespace OcbOrderingProofV1

/-- The bytes of an ordering proof with its checksum field zero. -/
def fieldBytes (o : OcbOrderingProofV1) : List UInt8 :=
  ocbOrderingProofHeader.objectBytes o.version
    (writeU16 o.keys.length.toUInt16 ++ writeU16 o.flags ++
      writeU32 o.rowGroupProofs.length.toUInt32 ++ writeU64 0 ++
      o.keys.flatMap OcbOrderingKeyV1.write ++
      o.rowGroupProofs.flatMap OcbRowGroupOrderingProofV1.write)

/-- Encode an ordering proof that may be written, with its checksum field zero. -/
def encodeWithoutChecksum (o : OcbOrderingProofV1) : Result (List UInt8) := do
  failIf (2 ^ 16 ≤ o.keys.length) (ocbInvalidInput "OCB ordering proof has too many keys")
  failIf (2 ^ 32 ≤ o.rowGroupProofs.length)
    (ocbInvalidInput "OCB ordering proof has too many row groups")
  let keys ← o.keys.mapM OcbOrderingKeyV1.writeTo
  let proofs ← o.rowGroupProofs.mapM OcbRowGroupOrderingProofV1.writeTo
  vecBuffer (ocbOrderingProofHeader.objectBytes o.version
    (writeU16 o.keys.length.toUInt16 ++ writeU16 o.flags ++
      writeU32 o.rowGroupProofs.length.toUInt32 ++ writeU64 0 ++ keys.flatten ++ proofs.flatten))

/-- Encode an ordering proof with its checksum. -/
def writeTo (o : OcbOrderingProofV1) : Result (List UInt8) := sealBytes <$> o.encodeWithoutChecksum

/-- The memory that the tables of an ordering proof take. -/
def materializedBytes (o : OcbOrderingProofV1) : ℕ :=
  o.keys.length * OcbOrderingKeyV1.len +
    o.rowGroupProofs.length * OcbRowGroupOrderingProofV1.len

/-- A sealed ordering proof is read back, at the price of its tables. -/
lemma readFromBytesWithBudget_sealBytes (o : OcbOrderingProofV1) (hversion : o.version = 1)
    (hkeys : o.keys.length < 2 ^ 16) (hproofs : o.rowGroupProofs.length < 2 ^ 32) :
    readFromBytesWithBudget (sealBytes o.fieldBytes) = (do
      MetadataMaterializationBudget.charge o.materializedBytes
      return { o with crc32c := Ocb.crc32c o.fieldBytes }) := by
  have hkeyCount : o.keys.length.toUInt16.toNat = o.keys.length := by simpa using hkeys
  have hproofCount : o.rowGroupProofs.length.toUInt32.toNat = o.rowGroupProofs.length := by
    simpa using hproofs
  have hkeyBound : o.keys.length < 2 ^ 32 := by omega
  rw [readFromBytesWithBudget, fieldBytes, hversion,
    readHeader_sealBytes_one ocbOrderingProofHeader rfl _ (by decide)]
  generalize Ocb.crc32c _ = crc
  simp only [Fallible.lift_ok_bind, List.append_assoc, run_readU16_bind, run_readU32_bind,
    run_readU64_bind, hkeyCount]
  rw [run_recordCount_records_bind (fun k _ => k.length_write) hkeyBound (by decide) (by simp)
    (by simp; omega)]
  simp only [StateT.run_pure, pure_eq_ok, Fallible.lift_ok_bind, readAll]
  rw [run_validateRecordSequence_bind fun k _ => k.run_read, hproofCount,
    run_recordCount_records_bind (fun p _ => p.length_write) hproofs (by decide) (by simp)
      (by simp; omega), run_validateRecordSequence_bind fun p _ => p.run_read]
  have hsum : checkedMaterializedSum [o.keys.length * OcbOrderingKeyV1.len,
      o.rowGroupProofs.length * OcbRowGroupOrderingProofV1.len] = .ok o.materializedBytes := by
    rw [checkedMaterializedSum_of_lt]
    · exact congrArg Except.ok (by simp [materializedBytes])
    · simp only [OcbOrderingKeyV1.len, OcbRowGroupOrderingProofV1.len, List.sum_cons, List.sum_nil]
      omega
  simp only [StateT.run_pure, pure_eq_ok, Functor.map, Except.map, Fallible.lift_ok_bind,
    checkedMaterializedVecBytes_of_lt (show OcbOrderingKeyV1.len < 2 ^ 32 by decide) hkeyBound,
    checkedMaterializedVecBytes_of_lt (show OcbRowGroupOrderingProofV1.len < 2 ^ 32 by decide)
      hproofs, hsum]
  rw [run_readRecordSequence_bind fun k _ => k.run_read,
    run_readRecordSequence_bind fun p _ => p.run_read]
  rfl

end OcbOrderingProofV1

end ArcadiaTio.Ocb
