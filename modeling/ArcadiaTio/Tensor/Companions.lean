import ArcadiaTio.Tensor.Arrow
import ArcadiaTio.Tensor.Parquet

/-!
# Companion encodings of tensors

The CSV, Parquet and Arrow forms of a tensor each describe the payload more than once: by the shape
in the metadata, by counts of rows, and by indices beside the values.  The decoders check these
descriptions against each other.  A tensor therefore survives being written and read, and what is
read has one row for each element, in row-major order.
-/

namespace ArcadiaTio.Tio

/-- The companion encodings lose no row, where texts of floating-point numbers are printed and
parsed by `text`, and the records of Parquet columns are read by `readRecords`. -/
structure CompanionsFaithful (text : FloatText) (readRecords : RecordReader)
    (fieldError : String → String) : Prop where
  /-- A valid tensor is read back from its CSV records, when the texts of its numbers are read
  back. -/
  csv_round_trip : ∀ t : Tensor, t.validate = .ok () → (∀ v ∈ t.data.scalars, text.Reads v) →
    ∃ records, tensorToCsvString text t = .ok records ∧
      tensorFromCsvBytes text (.ofRecords records) = .ok t
  /-- A valid tensor is read back from its Parquet columns. -/
  parquet_round_trip : ∀ t : Tensor, t.Valid →
    ∃ file, tensorToParquetBytes t = .ok file ∧
      tensorFromParquetBytes readRecords (.ok file) = .ok t
  /-- A tensor that has an Arrow record batch is decoded back from it. -/
  arrow_round_trip : ∀ (t : Tensor) (batch : RecordBatch), tensorToArrowRecordBatch t = .ok batch →
    tensorFromArrowRecordBatch fieldError batch = .ok t
  /-- Accepted CSV records are the header, the metadata, and one row for each element: the flat
  indices count from zero to the product of the shape, and the values are the tensor's. -/
  csv_rows : ∀ (input : CsvInput) (t : Tensor), tensorFromCsvBytes text input = .ok t →
    t.validate = .ok () ∧ ∃ metadata rows,
      input = .ofRecords (csvHeader :: metadata :: rows) ∧ CsvRows text rows t
  /-- However an accepted file is cut into row groups, together these hold one row for each
  element: the flat indices count from zero to the product of the shape, and the values are the
  tensor's. -/
  parquet_rows : ∀ (input : Except String ParquetFile) (t : Tensor),
    tensorFromParquetBytes readRecords input = .ok t →
      t.validate = .ok () ∧ ∃ file rowGroups, input = .ok file ∧
        file.rowGroups = rowGroups.map .ok ∧ ParquetRows rowGroups t

/-- Tensors round trip through their companion encodings, and no row is lost, repeated or
reordered. -/
theorem companions_faithful (text : FloatText) {readRecords : RecordReader}
    (hstores : readRecords.ReturnsStored) (fieldError : String → String) :
    CompanionsFaithful text readRecords fieldError where
  csv_round_trip _ hvalid htext := tensorFromCsvBytes_tensorToCsvString hvalid htext
  parquet_round_trip _ hvalid := tensorFromParquetBytes_tensorToParquetBytes hstores hvalid
  arrow_round_trip _ _ h := tensorFromArrowRecordBatch_tensorToArrowRecordBatch h
  csv_rows _ _ h := tensorFromCsvBytes_eq_ok h
  parquet_rows _ _ h := tensorFromParquetBytes_eq_ok hstores h

section Sample

/-- The texts of the two numbers of the sample, which are the bits of 1.5 and -0.25. -/
def sampleText : FloatText where
  printF32 bits := if bits = 0x3fc00000 then "1.5" else "-0.25"
  parseF32 text := if text = "1.5" then some 0x3fc00000 else
    if text = "-0.25" then some 0xbe800000 else none
  printF64 _ := "NaN"
  parseF64 _ := none

/-- A tensor of three values. -/
def sampleTensor : Tensor := ⟨.f32, [3], .f32 [0x3fc00000, 0xbe800000, 0x3fc00000]⟩

/-- A row group with the flat indices and the values of its rows. -/
def sampleRowGroup (indices : List Int64) (values : List UInt32) : ParquetRowGroup where
  numRows := Int64.ofNat indices.length
  getColumnReader column := if column = 0 then .ok (.int64 indices) else .ok (.float values)

/-- The rows of the tensor, two in a first row group and one in a second. -/
def sampleFile : ParquetFile where
  keyValueMetadata := some [(parquetTensorFormatKey, some parquetTensorFormatValue),
    (parquetTensorDtypeKey, some (tensorDtypeName .f32)), (parquetTensorShapeKey, some "3"),
    (parquetTensorOrderKey, some tensorOrderRowMajor)]
  schemaDescr := parquetTensorSchema .f32
  numRows := 3
  rowGroups := [.ok (sampleRowGroup [0, 1] [0x3fc00000, 0xbe800000]),
    .ok (sampleRowGroup [2] [0x3fc00000])]

theorem companions_faithful_sample :
    (∃ records, tensorToCsvString sampleText sampleTensor = .ok records ∧
      tensorFromCsvBytes sampleText (.ofRecords records) = .ok sampleTensor) ∧
    (∃ file, tensorToParquetBytes sampleTensor = .ok file ∧
      tensorFromParquetBytes .stored (.ok file) = .ok sampleTensor) ∧
    ∃ file rowGroups, Except.ok sampleFile = (.ok file : Except String ParquetFile) ∧
      file.rowGroups = rowGroups.map .ok ∧ ParquetRows rowGroups sampleTensor := by
  have hfaithful := companions_faithful sampleText RecordReader.returnsStored_stored id
  have hvalid : sampleTensor.Valid := ⟨rfl, by decide, by decide⟩
  have hread : tensorFromParquetBytes .stored (.ok sampleFile) = .ok sampleTensor := by rfl
  refine ⟨hfaithful.csv_round_trip _ hvalid.parts ?_, hfaithful.parquet_round_trip _ hvalid,
    (hfaithful.parquet_rows _ _ hread).2⟩
  intro value hvalue
  simp only [sampleTensor, TensorData.scalars, List.map_cons, List.map_nil, List.mem_cons,
    List.not_mem_nil, or_false] at hvalue
  obtain rfl | rfl | rfl := hvalue <;> rfl

end Sample

end ArcadiaTio.Tio
