import ArcadiaTio.Tensor.Csv

/-!
# Tensors as Parquet

The Parquet form of a tensor is a file with two required columns, the flat index and the value, and
with the dtype and the shape in its metadata.  The Parquet crate stands between such a file and its
bytes; the model starts from the columns, row groups and metadata that are stored.  How the crate
reads records of a column is a parameter, `readRecords`; it is relied on to return what is stored
(`RecordReader.ReturnsStored`).  The decoder takes the columns cut into row groups in any way: the
flat indices count on across the row groups (`parquetReadTensorColumnValues_eq_ok`).
-/

namespace ArcadiaTio.Tio

open ArcadiaTio.Lib

/-! ### Files -/

/-- The physical types of a Parquet column. -/
inductive ParquetType
  | boolean | int32 | int64 | int96 | float | double | byteArray | fixedLenByteArray
deriving DecidableEq, Repr

/-- The description of a column: its name, its type, and whether it may have nulls. -/
structure ParquetColumnDescr where
  name : String
  physicalType : ParquetType
  maxDefLevel : ℤ
  maxRepLevel : ℤ
deriving DecidableEq

/-- The stored values of a column, of one of the types that are read, or of another one. -/
inductive ParquetColumn
  | int32 (values : List Int32)
  | int64 (values : List Int64)
  | float (values : List UInt32)
  | double (values : List UInt64)
  | other

/-- A stored row group: its number of rows, and what its column readers yield. -/
structure ParquetRowGroup where
  numRows : Int64
  getColumnReader : ℕ → Except String ParquetColumn

/-- A stored file. -/
structure ParquetFile where
  keyValueMetadata : Option (List (String × Option String))
  schemaDescr : List ParquetColumnDescr
  numRows : Int64
  rowGroups : List (Except String ParquetRowGroup)

/-- An error of the Parquet crate. -/
def parquetErr {α : Type} : Except String α → Result α
  | .ok a => .ok a
  | .error message => .error (invalidArgument ("Arcadia TIO tensor Parquet error: " ++ message))

/-- The key of the name of the format. -/
def parquetTensorFormatKey : String := "arcadia_tio_format"

/-- The name of the format. -/
def parquetTensorFormatValue : String := "arcadia_tio_tensor_parquet_v1"

/-- The key of the type of the elements. -/
def parquetTensorDtypeKey : String := "arcadia_tio_dtype"

/-- The key of the shape. -/
def parquetTensorShapeKey : String := "arcadia_tio_shape"

/-- The key of the order of the elements. -/
def parquetTensorOrderKey : String := "arcadia_tio_order"

/-- The name of the column of places. -/
def parquetColumnFlatIndex : String := "flat_index"

/-- The name of the column of values. -/
def parquetColumnValue : String := "value"

/-- The type of the column of values. -/
def parquetPhysicalType : DType → ParquetType
  | .f32 => .float
  | .f64 => .double
  | .i32 => .int32
  | .i64 => .int64

/-! ### Encoding -/

/-- The two required columns of a tensor. -/
def parquetTensorSchema (dtype : DType) : List ParquetColumnDescr :=
  [⟨parquetColumnFlatIndex, .int64, 0, 0⟩, ⟨parquetColumnValue, parquetPhysicalType dtype, 0, 0⟩]

/-- The metadata that is stored with a tensor. -/
def parquetWriterProperties (t : Tensor) : Result (List (String × Option String)) := do
  let shape ← tensorShapeString t.shape
  return [(parquetTensorFormatKey, some parquetTensorFormatValue),
    (parquetTensorDtypeKey, some (tensorDtypeName t.dtype)),
    (parquetTensorShapeKey, some shape),
    (parquetTensorOrderKey, some tensorOrderRowMajor)]

/-- The column of places. -/
def parquetFlatIndices (len : ℕ) : Result (List Int64) :=
  (List.range len).mapM fun idx => do
    failIf (2 ^ 63 ≤ idx)
      (invalidArgument "Arcadia TIO tensor Parquet flat index exceeds i64")
    return Int64.ofNat idx

/-- The value column of a payload. -/
def parquetValueColumn : TensorData → ParquetColumn
  | .f32 values => .float values
  | .f64 values => .double values
  | .i32 values => .int32 values
  | .i64 values => .int64 values

/-- The file of a tensor, with all its rows in one row group.  The column writers of the crate
write every value they are given, so that the count they return is the one that is expected. -/
def tensorToParquetBytes (t : Tensor) : Result ParquetFile := do
  t.validate
  let valueLen ← shapeElementLen t.shape
  let flatIndices ← parquetFlatIndices valueLen
  let properties ← parquetWriterProperties t
  let numRows := Int64.ofNat flatIndices.length
  return {
    keyValueMetadata := some properties
    schemaDescr := parquetTensorSchema t.dtype
    numRows
    rowGroups := [.ok ⟨numRows, fun column =>
      if column = 0 then .ok (.int64 flatIndices) else .ok (parquetValueColumn t.data)⟩] }

/-! ### Metadata and schema -/

/-- The value of the first entry with a key. -/
def parquetMetadataValue (file : ParquetFile) (key : String) : Result String := do
  let values ← okOr file.keyValueMetadata
    (invalidArgument "missing Arcadia TIO tensor Parquet metadata")
  let entry ← okOr (values.find? fun entry => entry.1 = key)
    (invalidArgument ("missing Arcadia TIO tensor Parquet metadata key " ++ key))
  okOr entry.2 (invalidArgument ("missing Arcadia TIO tensor Parquet metadata value " ++ key))

/-- The type and the shape that the metadata say. -/
def parquetTensorMetadata (file : ParquetFile) : Result (DType × List UInt64) := do
  failIf ((← parquetMetadataValue file parquetTensorFormatKey) ≠ parquetTensorFormatValue)
    (invalidArgument "unsupported Arcadia TIO tensor Parquet format marker")
  let dtype ← tensorDtypeFromName (← parquetMetadataValue file parquetTensorDtypeKey)
  let shape ← tensorShapeFromString (← parquetMetadataValue file parquetTensorShapeKey)
  failIf ((← parquetMetadataValue file parquetTensorOrderKey) ≠ tensorOrderRowMajor)
    (invalidArgument "Arcadia TIO tensor Parquet order must be row-major")
  return (dtype, shape)

/-- A required column of a name and a type. -/
def ParquetColumnDescr.IsRequired (column : ParquetColumnDescr) (name : String)
    (physicalType : ParquetType) : Prop :=
  column.name = name ∧ column.physicalType = physicalType ∧ column.maxDefLevel = 0 ∧
    column.maxRepLevel = 0

instance (column : ParquetColumnDescr) (name : String) (physicalType : ParquetType) :
    Decidable (column.IsRequired name physicalType) :=
  inferInstanceAs (Decidable (_ ∧ _))

/-- The file has the columns of a tensor. -/
def parquetValidateSchema (schema : List ParquetColumnDescr) (dtype : DType) : Result Unit :=
  match schema with
  | [flatIndex, value] => do
    failIf (¬ flatIndex.IsRequired parquetColumnFlatIndex .int64) (invalidArgument
      "Arcadia TIO tensor Parquet flat_index column must be required INT64")
    failIf (¬ value.IsRequired parquetColumnValue (parquetPhysicalType dtype)) (invalidArgument
      "Arcadia TIO tensor Parquet value column type does not match metadata dtype")
  | _ => .error
    (invalidArgument "Arcadia TIO tensor Parquet schema must have two columns")

/-! ### Reading columns -/

/-- A stored place as a number of the host. -/
def parquetI64ToUsize (value : Int64) (label : String) : Result ℕ := do
  failIf (value.toInt < 0) (invalidArgument (label ++ " exceeds usize"))
  return value.toInt.toNat

/-- How the crate reads the stored values of a column when it is asked for a number of records: it
yields the numbers of records, values and levels it has read, and the values, or an error. -/
abbrev RecordReader := ∀ α : Type, List α → ℕ → Except String (ℕ × ℕ × ℕ × List α)

namespace RecordReader

/-- Records are read as they are stored. -/
structure ReturnsStored (readRecords : RecordReader) : Prop where
  /-- As many records as are stored are all read. -/
  all : ∀ (α : Type) (values : List α), readRecords α values values.length =
    .ok (values.length, values.length, values.length, values)
  /-- The values that are read are the first ones that are stored. -/
  first : ∀ (α : Type) (values read : List α) (maxRecords recordsRead valuesRead levelsRead : ℕ),
    readRecords α values maxRecords = .ok (recordsRead, valuesRead, levelsRead, read) →
      read <+: values

/-- Read as many records as are asked for, and no more than are stored. -/
def stored : RecordReader := fun _ values maxRecords =>
  let n := min maxRecords values.length
  .ok (n, n, n, values.take maxRecords)

lemma returnsStored_stored : stored.ReturnsStored where
  all _ values := by rw [stored, min_self, List.take_length]
  first _ _ _ _ _ _ _ h := by
    cases h
    exact List.take_prefix ..

end RecordReader

section ReadColumns

variable (readRecords : RecordReader) {α : Type}

/-- A column was read as a whole, without nulls. -/
def parquetValidateReadColumn (column : String)
    (expected recordsRead valuesRead levelsRead actualLen : ℕ) : Result Unit :=
  failIf (recordsRead ≠ expected ∨ valuesRead ≠ expected ∨ levelsRead ≠ expected ∨
      actualLen ≠ expected)
    (invalidArgument ("Arcadia TIO tensor Parquet column " ++ column ++ " read " ++
      toString actualLen ++ " values, expected " ++ toString expected))

/-- Read a column of one physical type: `typed` picks its values. -/
def parquetReadColumn (typed : ParquetColumn → Option (List α)) (column : String)
    (rowGroup : ParquetRowGroup) (columnIndex expectedLen : ℕ) : Result (List α) :=
  if expectedLen = 0 then .ok []
  else do
    let reader ← parquetErr (rowGroup.getColumnReader columnIndex)
    let stored ← okOr (typed reader)
      (invalidArgument "Arcadia TIO tensor Parquet column has unexpected physical type")
    let (recordsRead, valuesRead, levelsRead, values) ←
      parquetErr (readRecords α stored expectedLen)
    parquetValidateReadColumn column expectedLen recordsRead valuesRead levelsRead values.length
    return values

end ReadColumns

namespace ParquetColumn

/-- The values of a column of floats. -/
def asFloat : ParquetColumn → Option (List UInt32)
  | float values => some values
  | _ => none

/-- The values of a column of doubles. -/
def asDouble : ParquetColumn → Option (List UInt64)
  | double values => some values
  | _ => none

/-- The values of a column of 32-bit integers. -/
def asInt32 : ParquetColumn → Option (List Int32)
  | int32 values => some values
  | _ => none

/-- The values of a column of 64-bit integers. -/
def asInt64 : ParquetColumn → Option (List Int64)
  | int64 values => some values
  | _ => none

end ParquetColumn

section ReadTensor

variable (readRecords : RecordReader)

/-- Read a column of floats. -/
def parquetReadF32Column : ParquetRowGroup → ℕ → ℕ → Result (List UInt32) :=
  parquetReadColumn readRecords ParquetColumn.asFloat parquetColumnValue

/-- Read a column of doubles. -/
def parquetReadF64Column : ParquetRowGroup → ℕ → ℕ → Result (List UInt64) :=
  parquetReadColumn readRecords ParquetColumn.asDouble parquetColumnValue

/-- Read a column of 32-bit integers. -/
def parquetReadI32Column : ParquetRowGroup → ℕ → ℕ → Result (List Int32) :=
  parquetReadColumn readRecords ParquetColumn.asInt32 parquetColumnValue

/-- Also used for the values of a tensor of type `i64`: its errors name the flat index. -/
def parquetReadI64Column : ParquetRowGroup → ℕ → ℕ → Result (List Int64) :=
  parquetReadColumn readRecords ParquetColumn.asInt64 parquetColumnFlatIndex

/-- Check that flat indices count on; the result is the one that is expected next. -/
def parquetValidateFlatIndices : List Int64 → ℕ → Result ℕ
  | [], expectedFlatIndex => .ok expectedFlatIndex
  | flatIndex :: indices, expectedFlatIndex => do
    failIf (flatIndex.toInt < 0) (invalidArgument
      "Arcadia TIO tensor Parquet flat index is negative or too large")
    failIf (flatIndex.toInt.toNat ≠ expectedFlatIndex) (invalidArgument
      "Arcadia TIO tensor Parquet flat indices must be contiguous and ordered")
    let next ← okOr (checkedAdd usizeBits expectedFlatIndex 1)
      (invalidArgument "Arcadia TIO tensor Parquet flat index count overflow")
    parquetValidateFlatIndices indices next

section ReadRowGroups

variable {α : Type} (readColumn : ParquetRowGroup → ℕ → Result (List α))

/-- Read the row groups one after the other. -/
def parquetReadRowGroups : List (Except String ParquetRowGroup) → ℕ → List α →
    Result (ℕ × List α)
  | [], expectedFlatIndex, values => .ok (expectedFlatIndex, values)
  | rowGroup :: rest, expectedFlatIndex, values => do
    let rowGroup ← parquetErr rowGroup
    let rowCount ← parquetI64ToUsize rowGroup.numRows
      "Arcadia TIO tensor Parquet row group row count"
    let flatIndices ← parquetReadI64Column readRecords rowGroup 0 rowCount
    let expectedFlatIndex ← parquetValidateFlatIndices flatIndices expectedFlatIndex
    let column ← readColumn rowGroup rowCount
    parquetReadRowGroups rest expectedFlatIndex (values ++ column)

/-- Read the column of values of all row groups, with their places checked. -/
def parquetReadTensorColumnValues (file : ParquetFile) (expectedLen : ℕ) : Result (List α) := do
  let (expectedFlatIndex, values) ←
    parquetReadRowGroups readRecords readColumn file.rowGroups 0 []
  failIf (expectedFlatIndex ≠ expectedLen ∨ values.length ≠ expectedLen) (invalidArgument
    "Arcadia TIO tensor Parquet value count does not match shape")
  return values

end ReadRowGroups

/-- Read the rows of a tensor of a dtype and a shape. -/
def parquetReadTensor (file : ParquetFile) (dtype : DType) (shape : List UInt64)
    (expectedLen : ℕ) : Result Tensor :=
  match dtype with
  | .f32 => do
    let values ← parquetReadTensorColumnValues readRecords
      (fun rowGroup rowCount => parquetReadF32Column readRecords rowGroup 1 rowCount) file
        expectedLen
    tensorFromData .f32 shape (.f32 values)
  | .f64 => do
    let values ← parquetReadTensorColumnValues readRecords
      (fun rowGroup rowCount => parquetReadF64Column readRecords rowGroup 1 rowCount) file
        expectedLen
    tensorFromData .f64 shape (.f64 values)
  | .i32 => do
    let values ← parquetReadTensorColumnValues readRecords
      (fun rowGroup rowCount => parquetReadI32Column readRecords rowGroup 1 rowCount) file
        expectedLen
    tensorFromData .i32 shape (.i32 values)
  | .i64 => do
    let values ← parquetReadTensorColumnValues readRecords
      (fun rowGroup rowCount => parquetReadI64Column readRecords rowGroup 1 rowCount) file
        expectedLen
    tensorFromData .i64 shape (.i64 values)

/-- The file is what the crate has read from the bytes, or the error with which it refuses them. -/
def tensorFromParquetBytes (input : Except String ParquetFile) : Result Tensor := do
  let file ← parquetErr input
  let (dtype, shape) ← parquetTensorMetadata file
  parquetValidateSchema file.schemaDescr dtype
  let expectedLen ← shapeElementLen shape
  let numRows ← parquetI64ToUsize file.numRows "Arcadia TIO tensor Parquet file row count"
  failIf (numRows ≠ expectedLen)
    (invalidArgument "Arcadia TIO tensor Parquet row count does not match shape")
  parquetReadTensor readRecords file dtype shape expectedLen

end ReadTensor

/-! ### The rows of an accepted file -/

namespace ParquetRowGroup

/-- The rows of a column: as many as the row group has. -/
def rows {α : Type} (rowGroup : ParquetRowGroup) (typed : ParquetColumn → Option (List α))
    (columnIndex : ℕ) : List α :=
  match rowGroup.getColumnReader columnIndex with
  | .ok column => ((typed column).getD []).take rowGroup.numRows.toInt.toNat
  | .error _ => []

/-- The flat indices of the rows. -/
def flatIndices (rowGroup : ParquetRowGroup) : List Int64 :=
  rowGroup.rows ParquetColumn.asInt64 0

end ParquetRowGroup

/-- The values of a column, each with its dtype. -/
def ParquetColumn.scalars : ParquetColumn → Option (List Scalar)
  | float values => some (values.map .f32)
  | double values => some (values.map .f64)
  | int32 values => some (values.map .i32)
  | int64 values => some (values.map .i64)
  | other => none

/-- The values of the rows, each with its dtype. -/
def ParquetRowGroup.values (rowGroup : ParquetRowGroup) : List Scalar :=
  rowGroup.rows ParquetColumn.scalars 1

section Rows

variable {readRecords : RecordReader} {α : Type} {typed : ParquetColumn → Option (List α)}
  {rowGroup : ParquetRowGroup}

lemma parquetErr_eq_ok {x : Except String α} {a : α} (h : parquetErr x = .ok a) : x = .ok a := by
  cases x with
  | ok b =>
    cases h
    rfl
  | error message => cases h

lemma parquetI64ToUsize_eq_ok {value : Int64} {label : String} {n : ℕ} :
    parquetI64ToUsize value label = .ok n ↔ value.toInt = n := by
  simp only [parquetI64ToUsize, bind_eq_ok, failIf_eq_ok, pure_eq_ok, Except.ok.injEq]
  constructor
  · rintro ⟨_, hpos, rfl⟩
    omega
  · intro h
    exact ⟨(), by omega, by omega⟩

/-- A column that is read with the row count of its row group yields the rows. -/
lemma parquetReadColumn_eq_ok (hstores : readRecords.ReturnsStored) {column : String}
    {columnIndex rowCount : ℕ} {values : List α} (hcount : rowGroup.numRows.toInt = rowCount)
    (h : parquetReadColumn readRecords typed column rowGroup columnIndex rowCount = .ok values) :
    values.length = rowCount ∧ values = rowGroup.rows typed columnIndex ∧
      (rowCount ≠ 0 → ∃ reader stored, rowGroup.getColumnReader columnIndex = .ok reader ∧
        typed reader = some stored) := by
  have htoNat : rowGroup.numRows.toInt.toNat = rowCount := by omega
  rw [parquetReadColumn] at h
  split at h
  · rename_i hzero
    obtain rfl : [] = values := Except.ok.inj h
    subst hzero
    refine ⟨rfl, ?_, fun hne => absurd rfl hne⟩
    rw [ParquetRowGroup.rows, htoNat]
    cases rowGroup.getColumnReader columnIndex <;> rfl
  · obtain ⟨reader, hreader, h⟩ := bind_eq_ok.mp h
    obtain ⟨stored, hstored, h⟩ := bind_eq_ok.mp h
    obtain ⟨⟨recordsRead, valuesRead, levelsRead, read⟩, hread, h⟩ := bind_eq_ok.mp h
    obtain ⟨_, hvalid, h⟩ := bind_eq_ok.mp h
    obtain rfl : read = values := Except.ok.inj h
    have hcounts := failIf_eq_ok.mp hvalid
    have hlen : read.length = rowCount := by tauto
    refine ⟨hlen, ?_,
      fun _ => ⟨reader, stored, parquetErr_eq_ok hreader, okOr_eq_ok.mp hstored⟩⟩
    rw [ParquetRowGroup.rows, parquetErr_eq_ok hreader, htoNat]
    change _ = ((typed reader).getD []).take rowCount
    -- Only the number of values that were read says that the beginning is the right one.
    rw [okOr_eq_ok.mp hstored, Option.getD_some, ← hlen]
    exact List.prefix_iff_eq_take.mp (hstores.first _ _ _ _ _ _ _ (parquetErr_eq_ok hread))

/-- Flat indices that are accepted count on from the expected one. -/
lemma parquetValidateFlatIndices_eq_ok {indices : List Int64} {expected next : ℕ}
    (h : parquetValidateFlatIndices indices expected = .ok next) :
    next = expected + indices.length ∧
      indices.map Int64.toInt = (List.range' expected indices.length).map Int.ofNat := by
  induction indices generalizing expected with
  | nil => exact ⟨(Except.ok.inj h).symm, rfl⟩
  | cons flatIndex indices ih =>
    obtain ⟨_, hneg, h⟩ := bind_eq_ok.mp h
    obtain ⟨_, hindex, h⟩ := bind_eq_ok.mp h
    obtain ⟨following, hfollowing, h⟩ := bind_eq_ok.mp h
    obtain ⟨rfl, -⟩ := checkedAdd_eq_some.mp (okOr_eq_ok.mp hfollowing)
    obtain ⟨rfl, hrest⟩ := ih h
    have hhead : flatIndex.toInt = Int.ofNat expected := by
      have hneg := failIf_eq_ok.mp hneg
      have hindex := not_not.mp (failIf_eq_ok.mp hindex)
      have : Int.ofNat expected = (expected : ℤ) := rfl
      omega
    refine ⟨by rw [List.length_cons]; omega, ?_⟩
    rw [List.map_cons, hhead, hrest, List.length_cons, List.range'_succ, List.map_cons]

end Rows

section Groups

variable {readRecords : RecordReader} {α : Type} {typed : ParquetColumn → Option (List α)}
  {tag : α → Scalar} {readColumn : ParquetRowGroup → ℕ → Result (List α)}

/-- A value column that is read, each value with its dtype, is the values of the rows. -/
lemma map_parquetReadColumn (hstores : readRecords.ReturnsStored) {column : String}
    {rowGroup : ParquetRowGroup} {rowCount : ℕ} {values : List α}
    (htyped : ∀ reader stored, typed reader = some stored →
      reader.scalars = some (stored.map tag))
    (hcount : rowGroup.numRows.toInt = rowCount)
    (h : parquetReadColumn readRecords typed column rowGroup 1 rowCount = .ok values) :
    values.map tag = rowGroup.values := by
  obtain ⟨hlen, hrows, hstored⟩ := parquetReadColumn_eq_ok hstores hcount h
  have htoNat : rowGroup.numRows.toInt.toNat = rowCount := by omega
  rcases Nat.eq_zero_or_pos rowCount with hzero | hpos
  · obtain rfl : values = [] := List.length_eq_zero_iff.mp (hlen.trans hzero)
    rw [ParquetRowGroup.values, ParquetRowGroup.rows, htoNat, hzero]
    cases rowGroup.getColumnReader 1 <;> rfl
  · obtain ⟨reader, stored, hreader, htype⟩ := hstored hpos.ne'
    rw [hrows, ParquetRowGroup.values, ParquetRowGroup.rows, ParquetRowGroup.rows, hreader]
    simp only [htype, htyped _ _ htype, Option.getD_some, List.map_take]

/-- What is read of row groups: the flat indices count on, and the values are collected. -/
lemma parquetReadRowGroups_eq_ok (hstores : readRecords.ReturnsStored)
    (hread : ∀ (rowGroup : ParquetRowGroup) (rowCount : ℕ) (column : List α),
      rowGroup.numRows.toInt = rowCount → readColumn rowGroup rowCount = .ok column →
        column.map tag = rowGroup.values)
    {groups : List (Except String ParquetRowGroup)} {expected next : ℕ} {values values' : List α}
    (h : parquetReadRowGroups readRecords readColumn groups expected values =
      .ok (next, values')) :
    ∃ rowGroups : List ParquetRowGroup, groups = rowGroups.map .ok ∧
      values'.map tag = values.map tag ++ rowGroups.flatMap ParquetRowGroup.values ∧
      next = expected + (rowGroups.flatMap ParquetRowGroup.flatIndices).length ∧
      (rowGroups.flatMap ParquetRowGroup.flatIndices).map Int64.toInt =
        (List.range' expected (rowGroups.flatMap ParquetRowGroup.flatIndices).length).map
          Int.ofNat := by
  induction groups generalizing expected values with
  | nil =>
    obtain ⟨rfl, rfl⟩ := Prod.mk.inj (Except.ok.inj h)
    exact ⟨[], rfl, (List.append_nil _).symm, rfl, rfl⟩
  | cons group groups ih =>
    obtain ⟨rowGroup, hgroup, h⟩ := bind_eq_ok.mp h
    obtain ⟨rowCount, hcount, h⟩ := bind_eq_ok.mp h
    obtain ⟨indices, hindices, h⟩ := bind_eq_ok.mp h
    obtain ⟨following, hvalid, h⟩ := bind_eq_ok.mp h
    obtain ⟨column, hcolumn, h⟩ := bind_eq_ok.mp h
    have hrows := parquetI64ToUsize_eq_ok.mp hcount
    have hflat : indices = rowGroup.flatIndices := (parquetReadColumn_eq_ok hstores hrows hindices).2.1
    subst hflat
    obtain ⟨rfl, hcounting⟩ := parquetValidateFlatIndices_eq_ok hvalid
    obtain ⟨rowGroups, rfl, hvalues, rfl, hrest⟩ := ih h
    refine ⟨rowGroup :: rowGroups, ?_, ?_, ?_, ?_⟩
    · rw [parquetErr_eq_ok hgroup, List.map_cons]
    · rw [hvalues, List.flatMap_cons, List.map_append, hread _ _ _ hrows hcolumn,
        List.append_assoc]
    · rw [List.flatMap_cons, List.length_append]
      omega
    · rw [List.flatMap_cons, List.map_append, hcounting, hrest, List.length_append,
        ← List.range'_append_1, List.map_append]

/-- The values of an accepted file, with the flat indices `0, 1, …` beside them. -/
lemma parquetReadTensorColumnValues_eq_ok (hstores : readRecords.ReturnsStored)
    (hread : ∀ (rowGroup : ParquetRowGroup) (rowCount : ℕ) (column : List α),
      rowGroup.numRows.toInt = rowCount → readColumn rowGroup rowCount = .ok column →
        column.map tag = rowGroup.values)
    {file : ParquetFile} {expectedLen : ℕ} {values : List α}
    (h : parquetReadTensorColumnValues readRecords readColumn file expectedLen = .ok values) :
    ∃ rowGroups : List ParquetRowGroup, file.rowGroups = rowGroups.map .ok ∧
      values.map tag = rowGroups.flatMap ParquetRowGroup.values ∧
      (rowGroups.flatMap ParquetRowGroup.flatIndices).map Int64.toInt =
        (List.range expectedLen).map Int.ofNat := by
  obtain ⟨⟨next, values'⟩, hgroups, h⟩ := bind_eq_ok.mp h
  obtain ⟨_, hlen, h⟩ := bind_eq_ok.mp h
  obtain rfl : values' = values := Except.ok.inj h
  obtain ⟨rowGroups, hrowGroups, hvalues, hnext, hindices⟩ :=
    parquetReadRowGroups_eq_ok hstores hread hgroups
  have hexpected : next = expectedLen := not_not.mp (not_or.mp (failIf_eq_ok.mp hlen)).1
  rw [Nat.zero_add] at hnext
  refine ⟨rowGroups, hrowGroups, hvalues, ?_⟩
  rw [hindices, ← hnext, hexpected, List.range_eq_range']

end Groups

section Tensors

variable {readRecords : RecordReader} {t : Tensor}

/-- The rows of a list of row groups and a tensor are the same, in the same order. -/
def ParquetRows (rowGroups : List ParquetRowGroup) (t : Tensor) : Prop :=
  (rowGroups.flatMap ParquetRowGroup.flatIndices).map Int64.toInt =
      (List.range t.dims.prod).map Int.ofNat ∧
    rowGroups.flatMap ParquetRowGroup.values = t.data.scalars

/-- An accepted file: all its row groups are readable, and together they hold one row for each
value. -/
lemma tensorFromParquetBytes_eq_ok (hstores : readRecords.ReturnsStored)
    {input : Except String ParquetFile} (h : tensorFromParquetBytes readRecords input = .ok t) :
    t.validate = .ok () ∧ ∃ file rowGroups, input = .ok file ∧
      file.rowGroups = rowGroups.map .ok ∧ ParquetRows rowGroups t := by
  obtain ⟨file, hfile, h⟩ := bind_eq_ok.mp h
  obtain ⟨⟨dtype, shape⟩, -, h⟩ := bind_eq_ok.mp h
  obtain ⟨_, -, h⟩ := bind_eq_ok.mp h
  obtain ⟨expectedLen, hlen, h⟩ := bind_eq_ok.mp h
  obtain ⟨numRows, -, h⟩ := bind_eq_ok.mp h
  obtain ⟨_, -, h⟩ := bind_eq_ok.mp h
  obtain ⟨hprod, -⟩ := shapeElementLen_eq_ok.mp hlen
  have hrows : ∀ {α : Type} {typed : ParquetColumn → Option (List α)} {tag : α → Scalar}
      {column : String} {values : List α} {data : TensorData},
      (∀ reader stored, typed reader = some stored → reader.scalars = some (stored.map tag)) →
      data.scalars = values.map tag →
      parquetReadTensorColumnValues readRecords
        (fun rowGroup rowCount => parquetReadColumn readRecords typed column rowGroup 1 rowCount)
          file expectedLen = .ok values →
      tensorFromData dtype shape data = .ok t →
      t.validate = .ok () ∧ ∃ file rowGroups, input = .ok file ∧
        file.rowGroups = rowGroups.map .ok ∧ ParquetRows rowGroups t := by
    intro α typed tag column values data htyped hscalars hread htensor
    obtain ⟨rowGroups, hgroups, hvalues, hindices⟩ := parquetReadTensorColumnValues_eq_ok hstores
      (fun _ _ _ hcount hcolumn => map_parquetReadColumn hstores htyped hcount hcolumn) hread
    obtain ⟨rfl, hvalid⟩ := tensorFromData_eq_ok.mp htensor
    refine ⟨hvalid, file, rowGroups, parquetErr_eq_ok hfile, hgroups, ?_, ?_⟩
    · rw [hindices, hprod]
      rfl
    · rw [← hvalues]
      exact hscalars.symm
  cases dtype with
  | f32 =>
    obtain ⟨values, hread, htensor⟩ := bind_eq_ok.mp h
    refine hrows ?_ rfl hread htensor
    rintro (_ | _ | _ | _ | _) stored hstored <;> cases hstored
    rfl
  | f64 =>
    obtain ⟨values, hread, htensor⟩ := bind_eq_ok.mp h
    refine hrows ?_ rfl hread htensor
    rintro (_ | _ | _ | _ | _) stored hstored <;> cases hstored
    rfl
  | i32 =>
    obtain ⟨values, hread, htensor⟩ := bind_eq_ok.mp h
    refine hrows ?_ rfl hread htensor
    rintro (_ | _ | _ | _ | _) stored hstored <;> cases hstored
    rfl
  | i64 =>
    obtain ⟨values, hread, htensor⟩ := bind_eq_ok.mp h
    refine hrows ?_ rfl hread htensor
    rintro (_ | _ | _ | _ | _) stored hstored <;> cases hstored
    rfl

/-! ### A tensor is read back -/

lemma parquetFlatIndices_eq_ok {len : ℕ} (h : len ≤ 2 ^ 63) :
    parquetFlatIndices len = .ok ((List.range len).map Int64.ofNat) := by
  rw [parquetFlatIndices, mapM_eq_ok, List.forall₂_map_right_iff, List.forall₂_same]
  intro idx hidx
  rw [failIf_neg (by rw [List.mem_range] at hidx; omega)]
  rfl

/-- Indices that count on are accepted. -/
lemma parquetValidateFlatIndices_range {len expected : ℕ} (h : expected + len < 2 ^ 63) :
    parquetValidateFlatIndices ((List.range' expected len).map Int64.ofNat) expected =
      .ok (expected + len) := by
  induction len generalizing expected with
  | zero => rfl
  | succ len ih =>
    have hindex : (Int64.ofNat expected).toInt = expected := Int64.toInt_ofNat_of_lt (by omega)
    have hnext : checkedAdd usizeBits expected 1 = some (expected + 1) :=
      checkedAdd_eq_some.mpr ⟨rfl, lt_of_lt_of_le (b := 2 ^ 63) (by omega) (by decide)⟩
    rw [List.range'_succ, List.map_cons, parquetValidateFlatIndices, hindex,
      failIf_neg (by omega), ok_bind, failIf_neg (by omega), ok_bind, hnext, okOr_some, ok_bind,
      ih (by omega)]
    congr 1
    omega

section OneRowGroup

variable {α : Type} {typed : ParquetColumn → Option (List α)} {column : String}
  {rowGroup : ParquetRowGroup} {columnIndex : ℕ} {reader : ParquetColumn} {values : List α}

/-- A column that holds as many values as are asked for is read. -/
lemma parquetReadColumn_of_length (hstores : readRecords.ReturnsStored)
    (hreader : rowGroup.getColumnReader columnIndex = .ok reader)
    (htyped : typed reader = some values) :
    parquetReadColumn readRecords typed column rowGroup columnIndex values.length =
      .ok values := by
  rw [parquetReadColumn]
  split
  · rename_i hlen
    rw [List.length_eq_zero_iff.mp hlen]
  · rw [hreader, parquetErr, ok_bind, htyped, okOr_some, ok_bind, hstores.all, parquetErr, ok_bind]
    simp only [parquetValidateReadColumn, ne_eq, not_true, or_self, failIf_neg, not_false_eq_true,
      ok_bind, pure_eq_ok]

/-- A file of one row group, with as many values as its row count says, is read. -/
lemma parquetReadTensorColumnValues_single (hstores : readRecords.ReturnsStored)
    {file : ParquetFile} (hgroups : file.rowGroups = [.ok rowGroup])
    (hcount : rowGroup.numRows.toInt = values.length) (hlen : values.length < 2 ^ 63)
    (hindices : rowGroup.getColumnReader 0 =
      .ok (.int64 ((List.range values.length).map Int64.ofNat)))
    (hreader : rowGroup.getColumnReader 1 = .ok reader) (htyped : typed reader = some values) :
    parquetReadTensorColumnValues readRecords
      (fun rowGroup rowCount => parquetReadColumn readRecords typed column rowGroup 1 rowCount)
        file values.length = .ok values := by
  have hflat : parquetReadI64Column readRecords rowGroup 0
      ((List.range values.length).map Int64.ofNat).length =
        .ok ((List.range values.length).map Int64.ofNat) :=
    parquetReadColumn_of_length hstores hindices rfl
  rw [List.length_map, List.length_range] at hflat
  have hcounting : parquetValidateFlatIndices ((List.range' 0 values.length).map Int64.ofNat) 0 =
      .ok (0 + values.length) := parquetValidateFlatIndices_range (by omega)
  rw [← List.range_eq_range', Nat.zero_add] at hcounting
  have hread : parquetReadRowGroups readRecords
      (fun rowGroup rowCount => parquetReadColumn readRecords typed column rowGroup 1 rowCount)
        [.ok rowGroup] 0 [] = .ok (values.length, values) := by
    rw [parquetReadRowGroups, parquetErr, ok_bind, parquetI64ToUsize_eq_ok.mpr hcount, ok_bind,
      hflat, ok_bind, hcounting, ok_bind,
      parquetReadColumn_of_length hstores hreader htyped]
    rfl
  rw [parquetReadTensorColumnValues, hgroups, hread, ok_bind]
  simp only [ne_eq, not_true, or_self, failIf_neg, not_false_eq_true, ok_bind, pure_eq_ok]

end OneRowGroup

/-- The metadata that are written are read back. -/
lemma parquetTensorMetadata_of_properties {file : ParquetFile} {dtype : DType}
    {shape : List UInt64} {shapeText : String}
    (hshape : tensorShapeFromString shapeText = .ok shape)
    (hfile : file.keyValueMetadata = some [(parquetTensorFormatKey, some parquetTensorFormatValue),
      (parquetTensorDtypeKey, some (tensorDtypeName dtype)),
      (parquetTensorShapeKey, some shapeText), (parquetTensorOrderKey, some tensorOrderRowMajor)]) :
    parquetTensorMetadata file = .ok (dtype, shape) := by
  have hvalue : ∀ key {value},
      ([(parquetTensorFormatKey, some parquetTensorFormatValue),
        (parquetTensorDtypeKey, some (tensorDtypeName dtype)),
        (parquetTensorShapeKey, some shapeText),
        (parquetTensorOrderKey, some tensorOrderRowMajor)].find? fun entry => entry.1 = key) =
          some (key, some value) → parquetMetadataValue file key = .ok value := by
    intro key value hfind
    rw [parquetMetadataValue, hfile, okOr_some, ok_bind, hfind]
    rfl
  rw [parquetTensorMetadata, hvalue parquetTensorFormatKey rfl, hvalue parquetTensorDtypeKey rfl,
    hvalue parquetTensorShapeKey rfl, hvalue parquetTensorOrderKey rfl]
  simp only [ok_bind, ne_eq, not_true, failIf_neg, not_false_eq_true,
    tensorDtypeFromName_tensorDtypeName, hshape, pure_eq_ok]

lemma parquetValidateSchema_parquetTensorSchema (dtype : DType) :
    parquetValidateSchema (parquetTensorSchema dtype) dtype = .ok () := by
  simp [parquetValidateSchema, parquetTensorSchema, ParquetColumnDescr.IsRequired, failIf_neg]

/-- A valid tensor is written and read back. -/
lemma tensorFromParquetBytes_tensorToParquetBytes (hstores : readRecords.ReturnsStored)
    (h : t.Valid) :
    ∃ file, tensorToParquetBytes t = .ok file ∧
      tensorFromParquetBytes readRecords (.ok file) = .ok t := by
  obtain ⟨hshape, hdtype, hfits, hlen⟩ := Tensor.validateTensorParts_eq_ok.mp h.parts
  obtain ⟨shapeText, hwrite, hread⟩ := tensorShapeString_eq_ok hshape
  have hlt : t.data.len < 2 ^ 63 := h.len_lt
  have hexpected : shapeElementLen t.shape = .ok t.data.len :=
    shapeElementLen_eq_ok.mpr ⟨hlen, hfits⟩
  have hrows : (Int64.ofNat ((List.range t.data.len).map Int64.ofNat).length).toInt =
      t.data.len := by
    rw [List.length_map, List.length_range]
    exact Int64.toInt_ofNat_of_lt hlt
  refine ⟨_, by
    rw [tensorToParquetBytes, h.parts, ok_bind, hexpected, ok_bind,
      parquetFlatIndices_eq_ok hlt.le, ok_bind, parquetWriterProperties, hwrite]
    rfl, ?_⟩
  rw [tensorFromParquetBytes, parquetErr, ok_bind,
    parquetTensorMetadata_of_properties hread rfl, ok_bind]
  simp only [parquetValidateSchema_parquetTensorSchema, ok_bind, hexpected,
    parquetI64ToUsize_eq_ok.mpr hrows, ne_eq, not_true, failIf_neg, not_false_eq_true]
  obtain ⟨dtype, shape, data⟩ := t
  obtain rfl : data.dtype = dtype := hdtype
  have htensor : tensorFromData data.dtype shape data = .ok ⟨data.dtype, shape, data⟩ :=
    tensorFromData_eq_ok.mpr ⟨rfl, h.parts⟩
  cases data with
  | f32 values =>
    exact bind_eq_ok.mpr ⟨values,
      parquetReadTensorColumnValues_single hstores rfl hrows hlt rfl rfl rfl, htensor⟩
  | f64 values =>
    exact bind_eq_ok.mpr ⟨values,
      parquetReadTensorColumnValues_single hstores rfl hrows hlt rfl rfl rfl, htensor⟩
  | i32 values =>
    exact bind_eq_ok.mpr ⟨values,
      parquetReadTensorColumnValues_single hstores rfl hrows hlt rfl rfl rfl, htensor⟩
  | i64 values =>
    exact bind_eq_ok.mpr ⟨values,
      parquetReadTensorColumnValues_single hstores rfl hrows hlt rfl rfl rfl, htensor⟩

end Tensors

end ArcadiaTio.Tio
