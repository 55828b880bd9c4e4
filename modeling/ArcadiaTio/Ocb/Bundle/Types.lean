import ArcadiaTio.Ocb.Format.RowGroups

/-!
# The public types of a column bundle

What an opened file tells its callers: resolved columns, dictionary and ordering declarations,
summaries of row groups and their chunks, and the scalar values of statistics and predicates.
Each enumeration of the file format has a public counterpart.
-/

namespace ArcadiaTio.Ocb

open ArcadiaTio.Lib

/-- An owned string of the program.  It lives in one allocation, so its bytes are fewer than
`isize::MAX`. -/
structure Text where
  value : String
  size_lt : value.toUTF8.size < 2 ^ 63
deriving DecidableEq

/-- Two owned strings with the same characters are the same string. -/
lemma Text.ext_value {s t : Text} (h : s.value = t.value) : s = t := by
  cases s
  cases t
  cases h
  rfl

/-! ### Columns -/

/-- How the values of a column are stored. -/
inductive ColumnPhysicalType
  | i32 | i64 | f32 | f64
  | fixedBinary (width : UInt32)
deriving DecidableEq

namespace ColumnPhysicalType

/-- The physical type as the format stores it. -/
def ocbPhysicalType : ColumnPhysicalType → OcbPhysicalTypeV1
  | i32 => .i32
  | i64 => .i64
  | f32 => .f32
  | f64 => .f64
  | fixedBinary _ => .fixedBinary

/-- The width that the format stores beside the physical type. -/
def fixedBinaryWidth : ColumnPhysicalType → UInt32
  | fixedBinary width => width
  | _ => 0

end ColumnPhysicalType

/-- The type of a primitive column, which must declare no width. -/
def primitiveColumnType (column : OcbColumnDescV1) (type : ColumnPhysicalType) :
    Result ColumnPhysicalType := do
  failIf (column.fixedBinaryWidth ≠ 0)
    (ocbCorruptFile "OCB primitive column has unexpected fixed-binary width")
  return type

/-- The physical type of a column descriptor. -/
def columnPhysicalTypeFromDesc (column : OcbColumnDescV1) : Result ColumnPhysicalType :=
  match column.physicalType with
  | .i32 => primitiveColumnType column .i32
  | .i64 => primitiveColumnType column .i64
  | .f32 => primitiveColumnType column .f32
  | .f64 => primitiveColumnType column .f64
  | .fixedBinary => do
    failIf (column.fixedBinaryWidth = 0)
      (ocbCorruptFile "OCB fixed-binary column requires fixed width")
    return .fixedBinary column.fixedBinaryWidth

/-- The public type of a physical type that carries no width. -/
def scalarColumnPhysicalType : OcbPhysicalTypeV1 → Result ColumnPhysicalType
  | .i32 => .ok .i32
  | .i64 => .ok .i64
  | .f32 => .ok .f32
  | .f64 => .ok .f64
  | .fixedBinary => .error (ocbCorruptFile "OCB fixed-binary physical type requires schema width")

/-- What the values of a column mean. -/
inductive ColumnLogicalKind
  | plain | timestampNanosLike | scaledInteger | dictionaryCode | enumCode | opaqueKey
deriving DecidableEq

/-- The logical kind of a stored one. -/
def ColumnLogicalKind.from : OcbLogicalKindV1 → ColumnLogicalKind
  | .plain => plain
  | .timestampNanosLike => timestampNanosLike
  | .scaledInteger => scaledInteger
  | .dictionaryCode => dictionaryCode
  | .enumCode => enumCode
  | .opaqueKey => opaqueKey

/-- One column in an opened bundle schema. -/
structure BundleColumn where
  id : UInt32
  name : Text
  physicalType : ColumnPhysicalType
  logicalKind : ColumnLogicalKind
  dictionaryId : Option UInt32
  scale : Int32
  nullable : Bool
deriving DecidableEq

/-! ### Dictionaries and ordering -/

/-- What the values of a dictionary are. -/
inductive DictionaryValueKind
  | utf8 | bytes | fixedBytes | enumLabels
deriving DecidableEq

/-- The kind of dictionary values of a stored one. -/
def DictionaryValueKind.from : OcbDictionaryValueKindV1 → DictionaryValueKind
  | .utf8 => utf8
  | .bytes => bytes
  | .fixedBytes => fixedBytes
  | .enumLabels => enumLabels

/-- A dictionary without its values. -/
structure BundleDictionaryDescriptor where
  dictionaryId : UInt32
  name : Text
  codePhysicalType : ColumnPhysicalType
  valueKind : DictionaryValueKind
  entryCount : UInt32
deriving DecidableEq

/-- The direction of an ordering key. -/
inductive BundleOrderingDirection
  | ascending | descending
deriving DecidableEq

/-- The direction of a stored one. -/
def BundleOrderingDirection.from : OcbOrderingDirectionV1 → BundleOrderingDirection
  | .ascending => ascending
  | .descending => descending

/-- Where an ordering key has its nulls. -/
inductive BundleNullOrder
  | nullsFirst | nullsLast | noNulls
deriving DecidableEq

/-- The null order of a stored one. -/
def BundleNullOrder.from : OcbNullOrderV1 → BundleNullOrder
  | .nullsFirst => nullsFirst
  | .nullsLast => nullsLast
  | .noNulls => noNulls

/-- One key of the ordering of a file. -/
structure BundleOrderingKey where
  columnId : UInt32
  columnName : Text
  direction : BundleOrderingDirection
  nullOrder : BundleNullOrder
deriving DecidableEq

/-! ### Body references -/

/-- The kinds of objects that a reference may be to. -/
inductive ColumnBundleBodyKind
  | unknown | root | schema | dictionaryIndex | dictionaryValues | rowGroupIndex | orderingProof
  | columnChunk | stringTable | debugJsonMetadata | validityBitmap | keyTuple | rowGroupIndexDelta
deriving DecidableEq

/-- The kind of object of a stored one. -/
def ColumnBundleBodyKind.from : OcbBodyKindV1 → ColumnBundleBodyKind
  | .unknown => unknown
  | .root => root
  | .schema => schema
  | .dictionaryIndex => dictionaryIndex
  | .dictionaryValues => dictionaryValues
  | .rowGroupIndex => rowGroupIndex
  | .orderingProof => orderingProof
  | .columnChunk => columnChunk
  | .stringTable => stringTable
  | .debugJsonMetadata => debugJsonMetadata
  | .validityBitmap => validityBitmap
  | .keyTuple => keyTuple
  | .rowGroupIndexDelta => rowGroupIndexDelta

/-- The checksums that a reference may have. -/
inductive ColumnBundleChecksumKind
  | none | crc32c
deriving DecidableEq

/-- The kind of checksum of a stored one. -/
def ColumnBundleChecksumKind.from : OcbChecksumKindV1 → ColumnBundleChecksumKind
  | .none => none
  | .crc32c => crc32c

/-- How a chunk is compressed. -/
inductive ColumnBundleColumnChunkSummaryCodec
  | none | zstd
deriving DecidableEq

/-- The codec of a stored one. -/
def ColumnBundleColumnChunkSummaryCodec.from :
    OcbChunkCodecV1 → ColumnBundleColumnChunkSummaryCodec
  | .none => none
  | .zstd => zstd

/-- A reference, as a caller is shown it. -/
structure ColumnBundleBodyRefSummary where
  offset : UInt64
  length : UInt64
  kind : ColumnBundleBodyKind
  flags : UInt16
  checksumKind : ColumnBundleChecksumKind
  checksum : UInt32
deriving DecidableEq

/-! ### Scalar values -/

/-- A predicate bound or a recorded statistic; floating-point values are kept as bit patterns. -/
inductive ColumnPredicateValue
  | i32 (value : Int32)
  | i64 (value : Int64)
  | f32 (bits : UInt32)
  | f64 (bits : UInt64)
deriving DecidableEq

/-- The place of a `f32` among the numbers of its type: sign and magnitude of its bit pattern, the
two zeros in one place.  A NaN has none. -/
def f32Key (bits : UInt32) : Option ℤ :=
  let magnitude : ℕ := bits.toNat % 2 ^ 31
  if 0x7F800000 < magnitude then none
  else some (if bits.toNat < 2 ^ 31 then (magnitude : ℤ) else -(magnitude : ℤ))

/-- The same for a `f64`. -/
def f64Key (bits : UInt64) : Option ℤ :=
  let magnitude : ℕ := bits.toNat % 2 ^ 63
  if 0x7FF0000000000000 < magnitude then none
  else some (if bits.toNat < 2 ^ 63 then (magnitude : ℤ) else -(magnitude : ℤ))

/-- The comparison of two floating-point numbers, none when one of them is a NaN. -/
def partialCmp (left right : Option ℤ) : Option Ordering :=
  match left, right with
  | some l, some r => some (compare l r)
  | _, _ => none

namespace ColumnPredicateValue

/-- The physical type of a scalar. -/
def physicalType : ColumnPredicateValue → ColumnPhysicalType
  | i32 _ => .i32
  | i64 _ => .i64
  | f32 _ => .f32
  | f64 _ => .f64

/-- The scalar that statistics store. -/
def fromStat : OcbStatScalarV1 → ColumnPredicateValue
  | .i32 value => i32 value
  | .i64 value => i64 value
  | .f32 bits => f32 bits
  | .f64 bits => f64 bits

/-- Compare two scalars of one type; a NaN has no order. -/
def cmpSameType : ColumnPredicateValue → ColumnPredicateValue → Result Ordering
  | i32 left, i32 right => .ok (compare left.toInt right.toInt)
  | i64 left, i64 right => .ok (compare left.toInt right.toInt)
  | f32 left, f32 right => okOr (partialCmp (f32Key left) (f32Key right))
    (ocbInvalidInput "OCB f32 predicate/stat value cannot be NaN")
  | f64 left, f64 right => okOr (partialCmp (f64Key left) (f64Key right))
    (ocbInvalidInput "OCB f64 predicate/stat value cannot be NaN")
  | _, _ => .error (ocbInvalidInput "OCB predicate/stat type mismatch")

end ColumnPredicateValue

/-! ### Summaries -/

/-- What is known of one column chunk without reading it. -/
structure ColumnBundleColumnChunkSummary where
  rowGroupId : UInt32
  columnId : UInt32
  columnName : Text
  physicalType : ColumnPhysicalType
  logicalKind : ColumnLogicalKind
  fixedBinaryWidth : Option UInt32
  codec : ColumnBundleColumnChunkSummaryCodec
  rowCount : UInt64
  compressedBytes : UInt64
  uncompressedBytes : UInt64
  valueRef : ColumnBundleBodyRefSummary
  validityRef : Option ColumnBundleBodyRefSummary
deriving DecidableEq

/-- The statistics of a column in a row group, as a caller is shown them. -/
structure ColumnBundleColumnStatsSummary where
  rowGroupId : UInt32
  columnId : UInt32
  columnName : Text
  physicalType : ColumnPhysicalType
  nullCount : UInt32
  min : ColumnPredicateValue
  max : ColumnPredicateValue
deriving DecidableEq

/-- A row group, as a caller is shown it. -/
structure ColumnBundleRowGroupSummary where
  rowGroupId : UInt32
  baseRow : UInt64
  rowCount : UInt64
  firstKeyTupleRef : Option ColumnBundleBodyRefSummary
  lastKeyTupleRef : Option ColumnBundleBodyRefSummary
  chunks : List ColumnBundleColumnChunkSummary
  stats : List ColumnBundleColumnStatsSummary
deriving DecidableEq

/-- The metadata of an opened snapshot. -/
structure ColumnBundleMetadata where
  formatName : Text
  appendable : Bool
  rootGeneration : UInt64
  previousRootGeneration : Option UInt64
  rowCount : UInt64
  rowGroupCount : UInt32
  columnChunkCount : UInt32
  columns : List BundleColumn
  dictionaries : List BundleDictionaryDescriptor
  orderingKeys : List BundleOrderingKey
deriving DecidableEq

end ArcadiaTio.Ocb
