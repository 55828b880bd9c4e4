import ArcadiaTio.Ocb.Bundle.Open

/-!
# Reading row groups

An owned read decodes the selected columns of one row group into a batch: for each column the
object of its chunk is read, checked against its descriptor and decoded into values, and the
validity bitmap is read when there is one.
-/

namespace ArcadiaTio.Ocb

open ArcadiaTio.Lib

/-! ### Values -/

/-- The values of a column, in memory.  The source has one such type for owned values, one for the
storage of a caller, one for reusable storage and one for a borrowed view; they differ in who owns
the memory.  Floating-point values are kept as bit patterns. -/
inductive PrimitiveColumnValues
  | i32 (values : List Int32)
  | i64 (values : List Int64)
  | f32 (bits : List UInt32)
  | f64 (bits : List UInt64)
  | fixedBinary (width : UInt32) (bytes : List UInt8)
deriving DecidableEq

/-- The physical type of some values. -/
def PrimitiveColumnValues.physicalType : PrimitiveColumnValues → ColumnPhysicalType
  | i32 _ => .i32
  | i64 _ => .i64
  | f32 _ => .f32
  | f64 _ => .f64
  | fixedBinary width _ => .fixedBinary width

/-- Bit `i` is set when row `i` is valid. -/
structure ValidityBitmap where
  rowCount : UInt64
  bytes : List UInt8
deriving DecidableEq

/-- One selected column of a batch; without a bitmap all its rows are valid. -/
structure ColumnArray where
  columnId : UInt32
  name : Text
  physicalType : ColumnPhysicalType
  logicalKind : ColumnLogicalKind
  dictionaryId : Option UInt32
  values : PrimitiveColumnValues
  validity : Option ValidityBitmap
deriving DecidableEq

/-- One row group. -/
structure ColumnBatch where
  rowGroupId : UInt32
  baseRow : UInt64
  rowCount : UInt64
  columns : List ColumnArray
deriving DecidableEq

/-! ### Decoding values -/

/-- The pieces of `width` elements that a list begins with; a shorter rest is left out. -/
def chunksExact {α : Type} (width : ℕ) (l : List α) : List (List α) :=
  (List.range (l.length / width)).map fun i => (l.drop (i * width)).take width

@[simp] lemma length_chunksExact {α : Type} (width : ℕ) (l : List α) :
    (chunksExact width l).length = l.length / width := by
  rw [chunksExact, List.length_map, List.length_range]

/-- The number with the given little-endian bytes, in each of the primitive types. -/
def i32FromLeBytes (bytes : List UInt8) : Int32 := (leNat bytes).toUInt32.toInt32

/-- A signed word from its eight bytes. -/
def i64FromLeBytes (bytes : List UInt8) : Int64 := (leNat bytes).toUInt64.toInt64

/-- The bits of a float from their four bytes. -/
def f32FromLeBytes (bytes : List UInt8) : UInt32 := (leNat bytes).toUInt32

/-- The bits of a double from their eight bytes. -/
def f64FromLeBytes (bytes : List UInt8) : UInt64 := (leNat bytes).toUInt64

/-- Decode every chunk of `width` bytes of a payload. -/
def decodePrimitiveChunks {α : Type} (payload : List UInt8) (width : ℕ)
    (decode : List UInt8 → α) : List α :=
  (chunksExact width payload).map decode

/-- Decode a payload that must be a whole number of values. -/
def decodeAlignedChunks {α : Type} (payload : List UInt8) (width : ℕ) (decode : List UInt8 → α)
    (message : String) : Result (List α) := do
  failIf (payload.length % width ≠ 0) (ocbCorruptFile message)
  return decodePrimitiveChunks payload width decode

/-- Decode a payload into values of a physical type. -/
def decodePrimitiveValues (physicalType : ColumnPhysicalType) (payload : List UInt8) :
    Result PrimitiveColumnValues :=
  match physicalType with
  | .i32 => .i32 <$> decodeAlignedChunks payload 4 i32FromLeBytes
    "OCB i32 payload length is not aligned"
  | .i64 => .i64 <$> decodeAlignedChunks payload 8 i64FromLeBytes
    "OCB i64 payload length is not aligned"
  | .f32 => .f32 <$> decodeAlignedChunks payload 4 f32FromLeBytes
    "OCB f32 payload length is not aligned"
  | .f64 => .f64 <$> decodeAlignedChunks payload 8 f64FromLeBytes
    "OCB f64 payload length is not aligned"
  | .fixedBinary width => do
    failIf (width = 0) (ocbCorruptFile "OCB fixed-binary column requires fixed width")
    failIf (payload.length % width.toNat ≠ 0)
      (ocbCorruptFile "OCB fixed-binary payload length is not aligned")
    return .fixedBinary width payload

/-! ### Reading a column -/

section Columns

variable (source : OcbReadSource) (zstd : ZstdCodec) (m : OcbMetadataV1)

/-- The bitmap of a chunk, if it has one, checked against the reported nulls. -/
def readValidityBitmap (chunk : OcbColumnChunkDescV1) : Result (Option ValidityBitmap) :=
  if chunk.validityRef.IsNull then .ok none
  else do
    let bytes ← source.readObjectBytesWithResourceLimits chunk.validityRef .validityBitmap
      m.resourceLimits
    failIf (bytes.length ≠ validityBitmapLen chunk.rowCount.toNat)
      (ocbCorruptFile "OCB validity bitmap length does not match row count")
    return some { rowCount := chunk.rowCount, bytes }

/-- Read the object of a chunk and take its payload out. -/
def readChunkPayload (column : BundleColumn) (chunk : OcbColumnChunkDescV1) :
    Result (List UInt8) := do
  let object ← readColumnChunkFromReaderWithResourceLimits source chunk m.resourceLimits
  validateAndDecodeChunkObject zstd object column.physicalType.ocbPhysicalType chunk
    m.resourceLimits

/-- Read one column of a row group: its chunk, its values and its validity. -/
def readColumnArray (column : BundleColumn) (chunk : OcbColumnChunkDescV1)
    (expectedRows : UInt64) : Result ColumnArray := do
  failIf (¬ column.nullable ∧ ¬ chunk.validityRef.IsNull)
    (ocbCorruptFile "OCB non-null column chunk cannot have a validity bitmap")
  failIf (chunk.physicalType ≠ column.physicalType.ocbPhysicalType)
    (ocbCorruptFile "OCB chunk physical type does not match schema")
  failIf (chunk.rowCount ≠ expectedRows)
    (ocbCorruptFile "OCB chunk row_count does not match row group")
  let payload ← readChunkPayload source zstd m column chunk
  let validity ← readValidityBitmap source m chunk
  let values ← decodePrimitiveValues column.physicalType payload
  return {
    columnId := column.id, name := column.name, physicalType := column.physicalType
    logicalKind := column.logicalKind, dictionaryId := column.dictionaryId, values, validity }

/-! ### Reading a row group -/

/-- Put the chunks of a row group into a map by column, kept as an association list. -/
def insertChunks (rowGroupId : UInt32) : List OcbColumnChunkDescV1 →
    List (UInt32 × OcbColumnChunkDescV1) → Result (List (UInt32 × OcbColumnChunkDescV1))
  | [], byColumn => .ok byColumn
  | chunk :: rest, byColumn => do
    failIf (chunk.rowGroupId ≠ rowGroupId)
      (ocbCorruptFile "OCB row-group chunk descriptor references a different row group")
    failIf ((byColumn.lookup chunk.columnId).isSome)
      (ocbCorruptFile "OCB row group has duplicate chunk descriptors for a column")
    insertChunks rowGroupId rest (byColumn ++ [(chunk.columnId, chunk)])

/-- The chunks of a row group by the ids of their columns, each at most once. -/
def chunkByColumnForRowGroup (rowGroup : OcbRowGroupDescV1) :
    Result (List (UInt32 × OcbColumnChunkDescV1)) := do
  let chunks ← chunksForRowGroup m rowGroup.chunkDescBegin rowGroup.chunkDescCount
  insertChunks rowGroup.rowGroupId chunks []

/-- Read one selected column. -/
def readSelectedColumn (columns : List BundleColumn)
    (chunkByColumn : List (UInt32 × OcbColumnChunkDescV1)) (rowCount : UInt64)
    (columnId : UInt32) : Result ColumnArray := do
  let column ← okOr (columns.find? fun column => column.id = columnId)
    (ocbCorruptFile "OCB selected column not found")
  let chunk ← okOr (chunkByColumn.lookup columnId)
    (ocbCorruptFile "OCB row group is missing a selected column chunk")
  readColumnArray source zstd m column chunk rowCount

/-- Read the selected columns of a row group. -/
def readRowGroup (columns : List BundleColumn) (rowGroupId : UInt32)
    (selectedColumnIds : List UInt32) : Result ColumnBatch := do
  let rowGroup ← okOr (m.rowGroupById rowGroupId) (ocbCorruptFile "OCB row group not found")
  let chunkByColumn ← chunkByColumnForRowGroup m rowGroup
  let arrays ← selectedColumnIds.mapM
    (readSelectedColumn source zstd m columns chunkByColumn rowGroup.rowCount)
  return {
    rowGroupId := rowGroup.rowGroupId, baseRow := rowGroup.baseRow
    rowCount := rowGroup.rowCount, columns := arrays }

end Columns

/-- Chunks of one row group with distinct columns all go into the map. -/
lemma insertChunks_eq_ok {rowGroupId : UInt32} {chunks : List OcbColumnChunkDescV1}
    {byColumn : List (UInt32 × OcbColumnChunkDescV1)}
    (hgroup : ∀ chunk ∈ chunks, chunk.rowGroupId = rowGroupId)
    (hnodup : (byColumn.map Prod.fst ++ chunks.map OcbColumnChunkDescV1.columnId).Nodup) :
    insertChunks rowGroupId chunks byColumn =
      .ok (byColumn ++ chunks.map fun chunk => (chunk.columnId, chunk)) := by
  induction chunks generalizing byColumn with
  | nil => rw [insertChunks, List.map_nil, List.append_nil]
  | cons chunk rest ih =>
    have hfresh : byColumn.lookup chunk.columnId = none := by
      refine List.lookup_eq_none_iff.mpr fun p hp => ?_
      have hne := (List.nodup_append.mp hnodup).2.2 p.1 (List.mem_map_of_mem hp) chunk.columnId
        (by simp)
      simpa using hne.symm
    rw [insertChunks, failIf_neg (not_not.mpr (hgroup chunk (by simp))), ok_bind,
      failIf_neg (by simp [hfresh]), ok_bind, ih (fun c hc => hgroup c (by simp [hc]))
        (by simpa using hnodup)]
    simp

end ArcadiaTio.Ocb
