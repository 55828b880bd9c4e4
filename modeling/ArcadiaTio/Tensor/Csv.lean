import ArcadiaTio.Lib.Decimal
import ArcadiaTio.Tensor.Gathering

/-!
# Tensors as CSV

The CSV form of a tensor is a header, one metadata record with the dtype and the shape, and one
record for each value with its flat index.  The CSV crate stands between records and bytes; the
model starts from the records that are written and from those that the reader yields.  A tensor
that is written is read back (`tensorFromCsvBytes_tensorToCsvString`), and an accepted list of
records holds the flat indices `0, 1, …` and the values of the tensor, row by row
(`tensorFromCsvBytes_eq_ok`).
-/

namespace ArcadiaTio.Tio

open ArcadiaTio.Lib

/-! ### Names and texts -/

/-- The order of the elements. -/
def tensorOrderRowMajor : String := "row-major"

/-- The name of a type. -/
def tensorDtypeName : DType → String
  | .f32 => "f32"
  | .f64 => "f64"
  | .i32 => "i32"
  | .i64 => "i64"

/-- The type with a name. -/
def tensorDtypeFromName (value : String) : Result DType :=
  match value with
  | "f32" => .ok .f32
  | "f64" => .ok .f64
  | "i32" => .ok .i32
  | "i64" => .ok .i64
  | _ => .error (invalidArgument "unsupported Arcadia TIO tensor dtype")

@[simp] lemma tensorDtypeFromName_tensorDtypeName (dtype : DType) :
    tensorDtypeFromName (tensorDtypeName dtype) = .ok dtype := by
  cases dtype <;> rfl

/-- A `u64` from its decimal text. -/
def parseU64 (text : String) : Option UInt64 := (parseUnsigned 64 text).map Nat.toUInt64

/-- The decimal text of a `u64`. -/
def u64ToString (value : UInt64) : String := value.toNat.repr

lemma parseU64_u64ToString (value : UInt64) : parseU64 (u64ToString value) = some value := by
  rw [parseU64, u64ToString, parseUnsigned_repr value.toNat_lt, Option.map_some]
  exact congrArg some (UInt64.ofNat_toNat)

lemma u64ToString_ne_empty (value : UInt64) : u64ToString value ≠ "" := by
  intro h
  obtain ⟨c, cs, hcs, -⟩ := exists_toList_repr value.toNat
  rw [u64ToString] at h
  rw [h] at hcs
  cases hcs

lemma notMem_u64ToString {separator : Char} (h : separator.isDigit = false) (value : UInt64) :
    separator ∉ (u64ToString value).toList := by
  intro hmem
  rw [isDigit_of_mem_toList_repr hmem] at h
  cases h

/-- A shape as text. -/
def tensorShapeString (shape : List UInt64) : Result String := do
  failIf (shape = []) (invalidArgument "tensor rank must be >= 1")
  return joinText 'x' (shape.map u64ToString)

/-- The shape that a text says. -/
def tensorShapeFromString (value : String) : Result (List UInt64) := do
  failIf (value = "") (invalidArgument "tensor shape metadata is empty")
  (splitText 'x' value).mapM fun part => do
    failIf (part = "") (invalidArgument "invalid tensor shape metadata")
    okOr (parseU64 part) (invalidArgument "invalid tensor shape metadata")

/-- A shape is read back from its text. -/
lemma tensorShapeString_eq_ok {shape : List UInt64} (h : shape ≠ []) :
    ∃ text, tensorShapeString shape = .ok text ∧ tensorShapeFromString text = .ok shape := by
  refine ⟨joinText 'x' (shape.map u64ToString), ?_, ?_⟩
  · rw [tensorShapeString, failIf_neg h]
    rfl
  · have hparts : shape.map u64ToString ≠ [] := by simpa using h
    have hempty : joinText 'x' (shape.map u64ToString) ≠ "" :=
      joinText_ne_empty (List.forall_mem_map.mpr fun d _ => u64ToString_ne_empty d) hparts
    rw [tensorShapeFromString, failIf_neg hempty, ok_bind,
      splitText_joinText (List.forall_mem_map.mpr fun d _ => notMem_u64ToString (by decide) d)
        hparts, mapM_eq_ok, List.forall₂_map_left_iff, List.forall₂_same]
    intro d _
    rw [failIf_neg (u64ToString_ne_empty d), ok_bind, parseU64_u64ToString, okOr_some]

/-! ### Scalars as texts -/

/-- The decimal texts of floating-point numbers, as the standard library prints and parses them. -/
structure FloatText where
  printF32 : UInt32 → String
  parseF32 : String → Option UInt32
  printF64 : UInt64 → String
  parseF64 : String → Option UInt64

/-- A 32-bit integer as text. -/
def i32ToString (value : Int32) : String := value.toInt.repr

/-- The 32-bit integer that a text says. -/
def parseI32 (text : String) : Option Int32 := (parseSigned 32 text).map Int32.ofInt

/-- A 64-bit integer as text. -/
def i64ToString (value : Int64) : String := value.toInt.repr

/-- The 64-bit integer that a text says. -/
def parseI64 (text : String) : Option Int64 := (parseSigned 64 text).map Int64.ofInt

lemma parseI32_i32ToString (value : Int32) : parseI32 (i32ToString value) = some value := by
  rw [parseI32, i32ToString, parseSigned_repr value.le_toInt value.toInt_lt, Option.map_some,
    Int32.ofInt_toInt]

lemma parseI64_i64ToString (value : Int64) : parseI64 (i64ToString value) = some value := by
  rw [parseI64, i64ToString, parseSigned_repr value.le_toInt value.toInt_lt, Option.map_some,
    Int64.ofInt_toInt]

namespace FloatText

variable (text : FloatText)

/-- A scalar of the given dtype from its text. -/
def parseScalar : DType → String → Option Scalar
  | .f32, s => (text.parseF32 s).map .f32
  | .f64, s => (text.parseF64 s).map .f64
  | .i32, s => (parseI32 s).map .i32
  | .i64, s => (parseI64 s).map .i64

/-- The text of the scalar is parsed back to it: for the integers always, for the floating-point
numbers where printing and parsing are inverse. -/
def Reads : Scalar → Prop
  | .f32 bits => text.parseF32 (text.printF32 bits) = some bits
  | .f64 bits => text.parseF64 (text.printF64 bits) = some bits
  | .i32 _ => True
  | .i64 _ => True

end FloatText

/-! ### Writing -/

/-- The names of the columns. -/
def csvHeader : List String := ["record", "dtype", "shape", "order", "flat_index", "value"]

/-- What marks the record with the type and the shape. -/
def csvRecordMetadata : String := "metadata"

/-- What marks a record with a value. -/
def csvRecordValue : String := "value"

section Write

variable {α : Type}

/-- The value records, from a flat index on. -/
def csvWriteValueRows (toText : α → String) : List α → ℕ → List (List String)
  | [], _ => []
  | value :: values, flatIndex =>
    [csvRecordValue, "", "", "", flatIndex.repr, toText value] ::
      csvWriteValueRows toText values (flatIndex + 1)

end Write

/-- The records of a tensor, the header first. -/
def tensorToCsvString (text : FloatText) (t : Tensor) : Result (List (List String)) := do
  t.validate
  let shape ← tensorShapeString t.shape
  let rows := match t.data with
    | .f32 values => csvWriteValueRows text.printF32 values 0
    | .f64 values => csvWriteValueRows text.printF64 values 0
    | .i32 values => csvWriteValueRows i32ToString values 0
    | .i64 values => csvWriteValueRows i64ToString values 0
  return csvHeader ::
    [csvRecordMetadata, tensorDtypeName t.dtype, shape, tensorOrderRowMajor, "", ""] :: rows

/-! ### Reading -/

/-- What a CSV reader yields: the header record and the records behind it, each of which may be an
error of the reader. -/
structure CsvInput where
  headers : Except String (List String)
  records : List (Except String (List String))

/-- The records that were written, read back as they are. -/
def CsvInput.ofRecords : List (List String) → CsvInput
  | [] => ⟨.ok [], []⟩
  | headers :: records => ⟨.ok headers, records.map .ok⟩

/-- An error of the CSV crate. -/
def csvErr {α : Type} : Except String α → Result α
  | .ok a => .ok a
  | .error message => .error (invalidArgument message)

/-- A record has a field for every column. -/
def csvExpectRecordLen (record : List String) : Result Unit :=
  failIf (record.length ≠ csvHeader.length)
    (invalidArgument "Arcadia TIO tensor CSV records must have six fields")

/-- A field of a record. -/
def csvField (record : List String) (index : ℕ) : Result String :=
  okOr record[index]? (invalidArgument "missing Arcadia TIO tensor CSV field")

/-- The dtype and the shape of a metadata record. -/
def csvReadMetadata (metadata : List String) : Result (DType × List UInt64) := do
  csvExpectRecordLen metadata
  failIf ((← csvField metadata 0) ≠ csvRecordMetadata)
    (invalidArgument "first Arcadia TIO tensor CSV record must be metadata")
  let dtype ← tensorDtypeFromName (← csvField metadata 1)
  let shape ← tensorShapeFromString (← csvField metadata 2)
  failIf ((← csvField metadata 3) ≠ tensorOrderRowMajor)
    (invalidArgument "Arcadia TIO tensor CSV order must be row-major")
  failIf ((← csvField metadata 4) ≠ "" ∨ (← csvField metadata 5) ≠ "")
    (invalidArgument "Arcadia TIO tensor CSV metadata row must not contain value fields")
  return (dtype, shape)

section Read

variable {α : Type} (parse : String → Option α)

/-- The value that a field says. -/
def csvParseScalar (value : String) : Result α :=
  okOr (parse value) (invalidArgument "invalid Arcadia TIO tensor CSV scalar value")

/-- The value of a value record that must have the given flat index. -/
def csvReadRow (record : List String) (count : ℕ) : Result α := do
  csvExpectRecordLen record
  failIf ((← csvField record 0) ≠ csvRecordValue)
    (invalidArgument "Arcadia TIO tensor CSV data records must be value records")
  failIf ((← csvField record 1) ≠ "" ∨ (← csvField record 2) ≠ "" ∨ (← csvField record 3) ≠ "")
    (invalidArgument "Arcadia TIO tensor CSV value rows must leave metadata fields empty")
  let flatIndex ← okOr (parseUnsigned usizeBits (← csvField record 4))
    (invalidArgument "invalid Arcadia TIO tensor CSV flat index")
  failIf (flatIndex ≠ count)
    (invalidArgument "Arcadia TIO tensor CSV flat indices must be contiguous and ordered")
  csvParseScalar parse (← csvField record 5)

/-- Read the value records one after the other; `count` are the ones before. -/
def csvReadRows : List (Except String (List String)) → List α → ℕ → Result (List α × ℕ)
  | [], values, count => .ok (values, count)
  | record :: rest, values, count => do
    let record ← csvErr record
    let value ← csvReadRow parse record count
    let count ← okOr (checkedAdd usizeBits count 1) (invalidArgument "CSV value count overflow")
    csvReadRows rest (values ++ [value]) count

/-- The values of all records, as many as the shape says. -/
def csvReadValues (records : List (Except String (List String))) (expectedLen : ℕ) :
    Result (List α) := do
  let (values, count) ← csvReadRows parse records [] 0
  failIf (count ≠ expectedLen)
    (invalidArgument "Arcadia TIO tensor CSV value count does not match shape")
  return values

end Read

/-- Take the first record of a reader. -/
def csvNextRecord : List (Except String (List String)) →
    Result (List String × List (Except String (List String)))
  | [] => .error (invalidArgument "missing Arcadia TIO tensor CSV metadata")
  | record :: rest => do
    let record ← csvErr record
    return (record, rest)

/-- Read the value records of a tensor.  The dtype is the same for all of them, so that the source
fills only one of its four vectors. -/
def csvReadTensor (text : FloatText) (dtype : DType) (shape : List UInt64)
    (records : List (Except String (List String))) (expectedLen : ℕ) : Result Tensor :=
  match dtype with
  | .f32 => do
    let values ← csvReadValues text.parseF32 records expectedLen
    tensorFromData .f32 shape (.f32 values)
  | .f64 => do
    let values ← csvReadValues text.parseF64 records expectedLen
    tensorFromData .f64 shape (.f64 values)
  | .i32 => do
    let values ← csvReadValues parseI32 records expectedLen
    tensorFromData .i32 shape (.i32 values)
  | .i64 => do
    let values ← csvReadValues parseI64 records expectedLen
    tensorFromData .i64 shape (.i64 values)

/-- The tensor of a text of records. -/
def tensorFromCsvBytes (text : FloatText) (input : CsvInput) : Result Tensor := do
  let headers ← csvErr input.headers
  failIf (headers ≠ csvHeader) (invalidArgument "invalid Arcadia TIO tensor CSV header")
  let (metadata, records) ← csvNextRecord input.records
  let (dtype, shape) ← csvReadMetadata metadata
  let expectedLen ← shapeElementLen shape
  csvReadTensor text dtype shape records expectedLen

/-! ### The rows of an accepted input -/

/-- The flat index of a value record. -/
def csvFlatIndex (record : List String) : Option ℕ :=
  record[4]?.bind (parseUnsigned usizeBits)

section Rows

variable {α : Type} {parse : String → Option α} {record : List String} {count : ℕ}

lemma csvReadRow_eq_ok {value : α} (h : csvReadRow parse record count = .ok value) :
    csvFlatIndex record = some count ∧ record[5]?.bind parse = some value := by
  obtain ⟨_, -, h⟩ := bind_eq_ok.mp h
  obtain ⟨_, -, h⟩ := bind_eq_ok.mp h
  obtain ⟨_, -, h⟩ := bind_eq_ok.mp h
  obtain ⟨_, -, h⟩ := bind_eq_ok.mp h
  obtain ⟨_, -, h⟩ := bind_eq_ok.mp h
  obtain ⟨_, -, h⟩ := bind_eq_ok.mp h
  obtain ⟨_, -, h⟩ := bind_eq_ok.mp h
  obtain ⟨indexText, hindexText, h⟩ := bind_eq_ok.mp h
  obtain ⟨flatIndex, hindex, h⟩ := bind_eq_ok.mp h
  obtain ⟨_, hcount, h⟩ := bind_eq_ok.mp h
  obtain ⟨valueText, hvalueText, hparse⟩ := bind_eq_ok.mp h
  have hflat : flatIndex = count := not_not.mp (failIf_eq_ok.mp hcount)
  rw [csvFlatIndex, okOr_eq_ok.mp hindexText, okOr_eq_ok.mp hvalueText, ← hflat]
  exact ⟨okOr_eq_ok.mp hindex, okOr_eq_ok.mp hparse⟩

/-- An accepted list of value records: no error of the reader, and the flat indices count on. -/
lemma csvReadRows_eq_ok {records : List (Except String (List String))} {values values' : List α}
    {count' : ℕ} (h : csvReadRows parse records values count = .ok (values', count')) :
    ∃ (rows : List (List String)) (added : List α), records = rows.map .ok ∧
      values' = values ++ added ∧ count' = count + rows.length ∧
      rows.map csvFlatIndex = (List.range' count rows.length).map some ∧
      rows.map (fun row => row[5]?.bind parse) = added.map some := by
  induction records generalizing values count with
  | nil =>
    obtain ⟨rfl, rfl⟩ := Prod.mk.inj (Except.ok.inj h)
    exact ⟨[], [], rfl, (List.append_nil _).symm, rfl, rfl, rfl⟩
  | cons record rest ih =>
    obtain ⟨row, hrow, h⟩ := bind_eq_ok.mp h
    obtain ⟨value, hvalue, h⟩ := bind_eq_ok.mp h
    obtain ⟨next, hnext, h⟩ := bind_eq_ok.mp h
    obtain ⟨rfl, -⟩ := checkedAdd_eq_some.mp (okOr_eq_ok.mp hnext)
    obtain ⟨rows, added, rfl, rfl, rfl, hindices, hvalues⟩ := ih h
    obtain ⟨hindex, hscalar⟩ := csvReadRow_eq_ok hvalue
    obtain rfl : record = .ok row := by
      cases record with
      | ok row' =>
        cases hrow
        rfl
      | error message => cases hrow
    refine ⟨row :: rows, value :: added, rfl, by simp, ?_, ?_, ?_⟩
    · rw [List.length_cons]
      omega
    · rw [List.map_cons, hindex, hindices, List.length_cons, List.range'_succ, List.map_cons]
    · rw [List.map_cons, hscalar, hvalues, List.map_cons]

lemma csvReadValues_eq_ok {records : List (Except String (List String))} {expectedLen : ℕ}
    {values : List α} (h : csvReadValues parse records expectedLen = .ok values) :
    ∃ rows : List (List String), records = rows.map .ok ∧ rows.length = expectedLen ∧
      rows.map csvFlatIndex = (List.range expectedLen).map some ∧
      rows.map (fun row => row[5]?.bind parse) = values.map some := by
  obtain ⟨⟨values', count⟩, hread, h⟩ := bind_eq_ok.mp h
  obtain ⟨_, hcount, h⟩ := bind_eq_ok.mp h
  obtain rfl : values' = values := Except.ok.inj h
  obtain ⟨rows, added, rfl, rfl, rfl, hindices, hvalues⟩ := csvReadRows_eq_ok hread
  have hlen : 0 + rows.length = expectedLen := not_not.mp (failIf_eq_ok.mp hcount)
  rw [Nat.zero_add] at hlen
  subst hlen
  exact ⟨rows, rfl, rfl, List.range_eq_range' ▸ hindices, hvalues⟩

/-- The value records that are written are read back. -/
lemma csvReadRows_csvWriteValueRows {toText : α → String} {values before : List α}
    (htext : ∀ v ∈ values, parse (toText v) = some v)
    (hcount : count + values.length < 2 ^ usizeBits) :
    csvReadRows parse ((csvWriteValueRows toText values count).map .ok) before count =
      .ok (before ++ values, count + values.length) := by
  induction values generalizing before count with
  | nil => rw [List.append_nil]; rfl
  | cons value values ih =>
    rw [List.length_cons] at hcount
    have hrow : csvReadRow parse
        [csvRecordValue, "", "", "", count.repr, toText value] count = .ok value := by
      have hindex : parseUnsigned usizeBits count.repr = some count :=
        parseUnsigned_repr (by omega)
      have hvalue := htext value List.mem_cons_self
      simp only [csvReadRow, csvExpectRecordLen, csvField, csvParseScalar, csvHeader,
        List.length_cons, List.length_nil, List.getElem?_cons_zero, List.getElem?_cons_succ,
        okOr_some, ok_bind, ne_eq, not_true, or_self, failIf_neg, not_false_eq_true, hindex,
        hvalue]
    rw [csvWriteValueRows, List.map_cons, csvReadRows, csvErr, ok_bind, hrow, ok_bind,
      checkedAdd_of_lt (by omega), okOr_some, ok_bind,
      ih (fun v hv => htext v (List.mem_cons_of_mem _ hv)) (by omega), List.append_assoc,
      List.length_cons]
    congr 2
    omega

lemma csvReadValues_csvWriteValueRows {toText : α → String} {values : List α}
    (htext : ∀ v ∈ values, parse (toText v) = some v) (hlen : values.length < 2 ^ usizeBits) :
    csvReadValues parse ((csvWriteValueRows toText values 0).map .ok) values.length =
      .ok values := by
  rw [csvReadValues, csvReadRows_csvWriteValueRows htext (by omega), ok_bind]
  simp only [Nat.zero_add, failIf_neg, ne_eq, not_true, not_false_eq_true, ok_bind,
    List.nil_append]
  rfl

end Rows

/-! ### Whole tensors -/

section Tensors

variable {text : FloatText} {t : Tensor}

/-- The scalar of a value record of the given dtype. -/
def csvScalar (text : FloatText) (dtype : DType) (record : List String) : Option Scalar :=
  record[5]?.bind (text.parseScalar dtype)

/-- Tagging the values of the records with their dtype. -/
lemma map_csvScalar {α : Type} {parse : String → Option α} {dtype : DType} {tag : α → Scalar}
    (hparse : ∀ s, text.parseScalar dtype s = (parse s).map tag) {rows : List (List String)}
    {values : List α} (h : rows.map (fun row => row[5]?.bind parse) = values.map some) :
    rows.map (csvScalar text dtype) = (values.map tag).map some := by
  have htag : rows.map (csvScalar text dtype) =
      (rows.map fun row => row[5]?.bind parse).map (Option.map tag) := by
    rw [List.map_map]
    refine List.map_congr_left fun row _ => ?_
    rw [csvScalar, funext hparse, Function.comp_apply, Option.map_bind]
    rfl
  rw [htag, h, List.map_map, List.map_map]
  rfl

lemma tensorFromData_eq_ok {dtype : DType} {shape : List UInt64} {data : TensorData} :
    tensorFromData dtype shape data = .ok t ↔
      t = ⟨dtype, shape, data⟩ ∧ t.validate = .ok () := by
  rw [tensorFromData, bind_eq_ok]
  constructor
  · rintro ⟨u, hvalid, h⟩
    cases h
    exact ⟨rfl, hvalid⟩
  · rintro ⟨rfl, hvalid⟩
    exact ⟨(), hvalid, rfl⟩

/-- The rows of a list of value records and a tensor are the same, in the same order. -/
def CsvRows (text : FloatText) (rows : List (List String)) (t : Tensor) : Prop :=
  rows.map csvFlatIndex = (List.range t.dims.prod).map some ∧
    rows.map (csvScalar text t.dtype) = t.data.scalars.map some

/-- An accepted input: the header, a metadata record, and one record for each value. -/
lemma tensorFromCsvBytes_eq_ok {input : CsvInput} (h : tensorFromCsvBytes text input = .ok t) :
    t.validate = .ok () ∧ ∃ metadata rows,
      input = .ofRecords (csvHeader :: metadata :: rows) ∧ CsvRows text rows t := by
  obtain ⟨headers, hheaders, h⟩ := bind_eq_ok.mp h
  obtain ⟨_, hheader, h⟩ := bind_eq_ok.mp h
  obtain ⟨⟨metadata, records⟩, hnext, h⟩ := bind_eq_ok.mp h
  obtain ⟨⟨dtype, shape⟩, -, h⟩ := bind_eq_ok.mp h
  obtain ⟨expectedLen, hlen, h⟩ := bind_eq_ok.mp h
  obtain rfl : headers = csvHeader := not_not.mp (failIf_eq_ok.mp hheader)
  have hok : ∀ {α : Type} {x : Except String α} {a : α}, csvErr x = .ok a → x = .ok a := by
    intro α x a hx
    cases x with
    | ok b =>
      cases hx
      rfl
    | error message => cases hx
  obtain ⟨inputHeaders, inputRecords⟩ := input
  obtain rfl : inputHeaders = .ok csvHeader := hok hheaders
  have hinput : ∀ rows : List (List String), records = rows.map .ok →
      CsvInput.mk (.ok csvHeader) inputRecords = .ofRecords (csvHeader :: metadata :: rows) := by
    rintro rows rfl
    cases inputRecords with
    | nil => cases hnext
    | cons record rest =>
      obtain ⟨record', hrecord, hpure⟩ := bind_eq_ok.mp hnext
      cases hpure
      rw [hok hrecord]
      rfl
  obtain ⟨hprod, -⟩ := shapeElementLen_eq_ok.mp hlen
  -- one argument for the four dtypes: what the rows hold spells the payload
  have hrows : ∀ {α : Type} {parse : String → Option α} {tag : α → Scalar} {values : List α}
      {data : TensorData}, (∀ s, text.parseScalar dtype s = (parse s).map tag) →
      data.scalars = values.map tag → csvReadValues parse records expectedLen = .ok values →
      tensorFromData dtype shape data = .ok t →
      t.validate = .ok () ∧ ∃ metadata rows,
        CsvInput.mk (.ok csvHeader) inputRecords = .ofRecords (csvHeader :: metadata :: rows) ∧
          CsvRows text rows t := by
    intro α parse tag values data hparse hscalars hread htensor
    obtain ⟨rows, hrecords, -, hindices, hvalues⟩ := csvReadValues_eq_ok hread
    obtain ⟨rfl, hvalid⟩ := tensorFromData_eq_ok.mp htensor
    refine ⟨hvalid, metadata, rows, hinput rows hrecords, ?_, ?_⟩
    · rw [hindices, hprod]
      rfl
    · rw [hscalars]
      exact map_csvScalar hparse hvalues
  cases dtype with
  | f32 =>
    obtain ⟨values, hread, htensor⟩ := bind_eq_ok.mp h
    exact hrows (fun _ => rfl) rfl hread htensor
  | f64 =>
    obtain ⟨values, hread, htensor⟩ := bind_eq_ok.mp h
    exact hrows (fun _ => rfl) rfl hread htensor
  | i32 =>
    obtain ⟨values, hread, htensor⟩ := bind_eq_ok.mp h
    exact hrows (fun _ => rfl) rfl hread htensor
  | i64 =>
    obtain ⟨values, hread, htensor⟩ := bind_eq_ok.mp h
    exact hrows (fun _ => rfl) rfl hread htensor

/-- The header and the metadata record that are written are accepted. -/
lemma tensorFromCsvBytes_ofRecords {dtype : DType} {shape : List UInt64} {shapeText : String}
    {expectedLen : ℕ} (hshape : tensorShapeFromString shapeText = .ok shape)
    (hlen : shapeElementLen shape = .ok expectedLen) (rows : List (List String)) :
    tensorFromCsvBytes text (.ofRecords (csvHeader ::
      [csvRecordMetadata, tensorDtypeName dtype, shapeText, tensorOrderRowMajor, "", ""] ::
        rows)) = csvReadTensor text dtype shape (rows.map .ok) expectedLen := by
  have hmetadata : csvReadMetadata [csvRecordMetadata, tensorDtypeName dtype, shapeText,
      tensorOrderRowMajor, "", ""] = .ok (dtype, shape) := by
    simp only [csvReadMetadata, csvExpectRecordLen, csvField, csvHeader, List.length_cons,
      List.length_nil, List.getElem?_cons_zero, List.getElem?_cons_succ, okOr_some, ok_bind, ne_eq,
      not_true, or_self, failIf_neg, not_false_eq_true, tensorDtypeFromName_tensorDtypeName,
      hshape, pure_eq_ok]
  rw [tensorFromCsvBytes]
  simp only [CsvInput.ofRecords, csvErr, ok_bind, ne_eq, not_true, failIf_neg, not_false_eq_true,
    List.map_cons, csvNextRecord, pure_eq_ok, hmetadata, hlen]

/-- A valid tensor is written and read back, when the texts of its numbers are. -/
lemma tensorFromCsvBytes_tensorToCsvString (h : t.validate = .ok ())
    (htext : ∀ v ∈ t.data.scalars, text.Reads v) :
    ∃ records, tensorToCsvString text t = .ok records ∧
      tensorFromCsvBytes text (.ofRecords records) = .ok t := by
  obtain ⟨hshape, hdtype, hfits, hlen⟩ := Tensor.validateTensorParts_eq_ok.mp h
  obtain ⟨shapeText, hwrite, hread⟩ := tensorShapeString_eq_ok hshape
  have hexpected : shapeElementLen t.shape = .ok t.data.len :=
    shapeElementLen_eq_ok.mpr ⟨hlen, hfits⟩
  have hlt : t.data.len < 2 ^ usizeBits := hlen ▸ hfits.prod_lt
  obtain ⟨dtype, shape, data⟩ := t
  have htensor : tensorFromData dtype shape data = .ok ⟨dtype, shape, data⟩ :=
    tensorFromData_eq_ok.mpr ⟨rfl, h⟩
  obtain rfl : dtype = data.dtype := hdtype.symm
  cases data with
  | f32 values =>
    refine ⟨_, by rw [tensorToCsvString, h, ok_bind, hwrite, ok_bind]; rfl, ?_⟩
    rw [tensorFromCsvBytes_ofRecords hread hexpected]
    exact bind_eq_ok.mpr ⟨values, csvReadValues_csvWriteValueRows
      (fun v hv => htext _ (List.mem_map_of_mem hv)) hlt, htensor⟩
  | f64 values =>
    refine ⟨_, by rw [tensorToCsvString, h, ok_bind, hwrite, ok_bind]; rfl, ?_⟩
    rw [tensorFromCsvBytes_ofRecords hread hexpected]
    exact bind_eq_ok.mpr ⟨values, csvReadValues_csvWriteValueRows
      (fun v hv => htext _ (List.mem_map_of_mem hv)) hlt, htensor⟩
  | i32 values =>
    refine ⟨_, by rw [tensorToCsvString, h, ok_bind, hwrite, ok_bind]; rfl, ?_⟩
    rw [tensorFromCsvBytes_ofRecords hread hexpected]
    exact bind_eq_ok.mpr ⟨values, csvReadValues_csvWriteValueRows
      (fun v _ => parseI32_i32ToString v) hlt, htensor⟩
  | i64 values =>
    refine ⟨_, by rw [tensorToCsvString, h, ok_bind, hwrite, ok_bind]; rfl, ?_⟩
    rw [tensorFromCsvBytes_ofRecords hread hexpected]
    exact bind_eq_ok.mpr ⟨values, csvReadValues_csvWriteValueRows
      (fun v _ => parseI64_i64ToString v) hlt, htensor⟩

end Tensors

end ArcadiaTio.Tio
