import ArcadiaTio.Tensor.Csv

/-!
# Tensors as Arrow record batches

The Arrow form of a tensor is a record batch with one row for each position of the leading axis:
the time ids count the rows, and the values are lists of one fixed width, the number of elements
behind one position.  The axis lengths stand in the metadata of the schema.  A batch that the
encoder yields is decoded to the tensor (`tensorFromArrowRecordBatch_tensorToArrowRecordBatch`).
-/

namespace ArcadiaTio.Tio

open ArcadiaTio.Lib

/-! ### Record batches -/

/-- The scalars of an Arrow array; a type that is not supported is kept by its name. -/
inductive ArrowValues
  | float32 (values : List UInt32)
  | float64 (values : List UInt64)
  | int32 (values : List Int32)
  | int64 (values : List Int64)
  | other (dataType : String) (len : ℕ)

/-- How many values there are. -/
def ArrowValues.len : ArrowValues → ℕ
  | float32 values => values.length
  | float64 values => values.length
  | int32 values => values.length
  | int64 values => values.length
  | other _ len => len

/-- An array of lists of one length. -/
structure FixedSizeListArray where
  valueLength : Int32
  len : ℕ
  nullCount : ℕ
  values : ArrowValues
  valuesNullCount : ℕ

/-- The columns that are told apart. -/
inductive ArrowColumn
  | uint32 (values : List UInt32) (nullCount : ℕ)
  | fixedSizeList (array : FixedSizeListArray)
  | other

/-- The columns of a batch with the metadata of its schema. -/
structure RecordBatch where
  metadata : List (String × String)
  columns : List (String × ArrowColumn)

/-- An error of the Arrow crate. -/
def arrowErr (message : String) : TioError := ⟨.io, message⟩

/-- The key under which the shape is stored. -/
def arrowMetaDimLens : String := "arcadia_tio_dim_lens"

/-- The key under which the order is stored. -/
def arrowMetaOrder : String := "arcadia_tio_order"

/-! ### Encoding -/

/-- A length as a number of the host. -/
def arrowU64ToUsize (value : UInt64) (label : String) : Result ℕ := do
  failIf (2 ^ usizeBits ≤ value.toNat) (invalidArgument (label ++ " exceeds usize"))
  return value.toNat

/-- The elements of one row of a tensor. -/
def arrowRowWidthForShape (shape : List UInt64) : Result ℕ := do
  failIf (shape = []) (invalidArgument "tensor rank must be >= 1")
  shapeElementLen shape.tail

/-- The shape as text. -/
def arrowEncodeDimLens (shape : List UInt64) : Result String := do
  failIf (shape = []) (invalidArgument "tensor rank must be >= 1")
  return joinText ',' (shape.map u64ToString)

/-- The values of a payload as an array. -/
def arrowValuesArray : TensorData → ArrowValues
  | .f32 values => .float32 values
  | .f64 values => .float64 values
  | .i32 values => .int32 values
  | .i64 values => .int64 values

/-- The record batch of a tensor.  The crate cuts the values into lists of the given width, and
accepts the two columns, which have the same length. -/
def tensorToArrowRecordBatch (t : Tensor) : Result RecordBatch := do
  t.validate
  let entryCount ← arrowU64ToUsize (t.shape.headD 0) "entry length"
  let rowWidth ← arrowRowWidthForShape t.shape
  failIf (rowWidth = 0) (invalidArgument "tensor has zero-sized inner dimensions")
  let expectedLen ← okOr (checkedMul usizeBits entryCount rowWidth)
    (invalidArgument "shape product overflow")
  failIf (expectedLen ≠ t.data.len) (invalidArgument "values length does not match shape")
  failIf (2 ^ 32 ≤ entryCount) (invalidArgument "entry length exceeds u32")
  failIf (2 ^ 31 ≤ rowWidth) (invalidArgument "entry width exceeds i32")
  let dimLens ← arrowEncodeDimLens t.shape
  return {
    metadata := [(arrowMetaDimLens, dimLens), (arrowMetaOrder, "row-major")]
    columns := [
      ("time_id", .uint32 ((List.range entryCount).map Nat.toUInt32) 0),
      ("values", .fixedSizeList {
        valueLength := Int32.ofNat rowWidth
        len := t.data.len / rowWidth
        nullCount := 0
        values := arrowValuesArray t.data
        valuesNullCount := 0 })] }

/-! ### Decoding -/

/-- One length of the text of a shape. -/
def arrowDimLen (part : String) : Result UInt64 := do
  failIf (trimText part = "") (invalidArgument "invalid dim lens metadata")
  okOr (parseU64 (trimText part)) (invalidArgument "invalid dim lens metadata")

/-- The shape that a text says, checked against the lengths of the batch. -/
def arrowParseDimLens (value : String) (entryCount listSize : ℕ) : Result (List UInt64) := do
  let dims ← (splitText ',' value).mapM arrowDimLen
  failIf (dims = []) (invalidArgument "dim lens metadata is empty")
  failIf (2 ^ 64 ≤ entryCount) (invalidArgument "entry length exceeds u64")
  failIf ((dims.headD 0).toNat ≠ entryCount)
    (invalidArgument "entry length does not match batch entry count")
  let expected ← shapeElementLen dims.tail
  failIf (expected ≠ listSize) (invalidArgument "list size does not match dim lens metadata")
  return dims

/-- The shape of a batch that does not say one. -/
def arrowInferShape (entryCount listSize : ℕ) : Result (List UInt64) := do
  failIf (2 ^ 64 ≤ entryCount) (invalidArgument "entry length exceeds u64")
  failIf (2 ^ 64 ≤ listSize) (invalidArgument "entry width exceeds u64")
  return if listSize ≤ 1 then [entryCount.toUInt64] else [entryCount.toUInt64, listSize.toUInt64]

/-- The shape of a batch, from its metadata or its lengths. -/
def arrowShape (metadata : List (String × String)) (entryCount listSize : ℕ) :
    Result (List UInt64) :=
  match metadata.lookup arrowMetaDimLens with
  | some value => arrowParseDimLens value entryCount listSize
  | none => arrowInferShape entryCount listSize

/-- Metadata that name an order name the row-major one. -/
def arrowCheckOrder (metadata : List (String × String)) : Result Unit :=
  match metadata.lookup arrowMetaOrder with
  | some order => failIf (order ≠ "row-major")
      (invalidArgument "arcadia_tio_order metadata must be row-major")
  | none => .ok ()

/-- The values of a column of unsigned integers, with the count of its nulls. -/
def ArrowColumn.asUInt32 : ArrowColumn → Option (List UInt32 × ℕ)
  | uint32 values nullCount => some (values, nullCount)
  | _ => none

/-- The array of a column of lists. -/
def ArrowColumn.asFixedSizeList : ArrowColumn → Option FixedSizeListArray
  | fixedSizeList array => some array
  | _ => none

/-- The tensor of the first values of an array. -/
def arrowTensor (shape : List UInt64) (expectedLen : ℕ) : ArrowValues → Result Tensor
  | .float32 values => tensorFromData .f32 shape (.f32 (values.take expectedLen))
  | .float64 values => tensorFromData .f64 shape (.f64 (values.take expectedLen))
  | .int32 values => tensorFromData .i32 shape (.i32 (values.take expectedLen))
  | .int64 values => tensorFromData .i64 shape (.i64 (values.take expectedLen))
  | .other dataType _ => .error (invalidArgument ("unsupported Arrow values dtype " ++ dataType))

/-- `fieldError` is what the crate says of a name that no column has. -/
def tensorFromArrowRecordBatch (fieldError : String → String) (batch : RecordBatch) :
    Result Tensor := do
  arrowCheckOrder batch.metadata
  let timeColumn ← okOr (batch.columns.lookup "time_id") (arrowErr (fieldError "time_id"))
  let valuesColumn ← okOr (batch.columns.lookup "values") (arrowErr (fieldError "values"))
  let (timeIds, timeNulls) ← okOr timeColumn.asUInt32 (invalidArgument "time_id must be UInt32")
  let listArray ← okOr valuesColumn.asFixedSizeList
    (invalidArgument "values must be FixedSizeList")
  failIf (timeNulls ≠ 0) (invalidArgument "time_id contains nulls")
  failIf (listArray.nullCount ≠ 0) (invalidArgument "values contains null lists")
  let entryCount := listArray.len
  failIf (timeIds.length ≠ entryCount)
    (invalidArgument "time_id length does not match values length")
  failIf (2 ^ 32 ≤ entryCount) (invalidArgument "entry length exceeds u32")
  (List.range entryCount).forM fun row => failIf (timeIds[row]? ≠ some row.toUInt32)
    (invalidArgument "time_id values must be exactly 0..entry_count-1 in row order")
  failIf (listArray.valueLength.toInt < 0)
    (invalidArgument "values FixedSizeList width is negative")
  let listSize := listArray.valueLength.toInt.toNat
  failIf (listSize = 0) (invalidArgument "values FixedSizeList width must be positive")
  let shape ← arrowShape batch.metadata entryCount listSize
  let expectedLen ← okOr (checkedMul usizeBits entryCount listSize)
    (invalidArgument "shape product overflow")
  failIf (listArray.values.len ≠ expectedLen)
    (invalidArgument "values length does not match shape")
  failIf (listArray.valuesNullCount ≠ 0) (invalidArgument "values contains null scalars")
  arrowTensor shape expectedLen listArray.values

/-! ### A tensor is decoded back -/

section RoundTrip

variable {t : Tensor} {batch : RecordBatch} {fieldError : String → String}

/-- The axis lengths are parsed back from their text. -/
lemma arrowParseDimLens_joinText {first : UInt64} {inner : List UInt64} {listSize : ℕ}
    (hinner : shapeElementLen inner = .ok listSize) :
    arrowParseDimLens (joinText ',' ((first :: inner).map u64ToString)) first.toNat listSize =
      .ok (first :: inner) := by
  have htrim : ∀ d, trimText (u64ToString d) = u64ToString d := fun d =>
    trimText_of_forall fun c hc => isWhiteSpace_of_isDigit (isDigit_of_mem_toList_repr hc)
  have hdims : (splitText ',' (joinText ',' ((first :: inner).map u64ToString))).mapM arrowDimLen =
      .ok (first :: inner) := by
    rw [splitText_joinText
      (List.forall_mem_map.mpr fun d _ => notMem_u64ToString (by decide) d) (by simp),
      mapM_eq_ok, List.forall₂_map_left_iff, List.forall₂_same]
    intro d _
    rw [arrowDimLen, htrim, failIf_neg (u64ToString_ne_empty d), ok_bind, parseU64_u64ToString,
      okOr_some]
  rw [arrowParseDimLens, hdims, ok_bind, failIf_neg (by simp), ok_bind,
    failIf_neg (Nat.not_le.mpr first.toNat_lt), ok_bind]
  simp only [List.headD_cons, List.tail_cons, hinner, ne_eq, not_true, failIf_neg,
    not_false_eq_true, ok_bind, pure_eq_ok]

/-- What the encoder accepts: a leading axis that fits `u32` and a positive row width that fits
`i32`. -/
lemma tensorToArrowRecordBatch_eq_ok (h : tensorToArrowRecordBatch t = .ok batch) :
    t.validate = .ok () ∧ ∃ first inner rowWidth, t.shape = first :: inner ∧
      shapeElementLen inner = .ok rowWidth ∧ 0 < rowWidth ∧ rowWidth < 2 ^ 31 ∧
      first.toNat < 2 ^ 32 ∧ t.data.len = first.toNat * rowWidth ∧
      batch = {
        metadata := [(arrowMetaDimLens, joinText ',' (t.shape.map u64ToString)),
          (arrowMetaOrder, "row-major")]
        columns := [
          ("time_id", .uint32 ((List.range first.toNat).map Nat.toUInt32) 0),
          ("values", .fixedSizeList ⟨Int32.ofNat rowWidth, t.data.len / rowWidth, 0,
            arrowValuesArray t.data, 0⟩)] } := by
  obtain ⟨_, hvalid, h⟩ := bind_eq_ok.mp h
  obtain ⟨entryCount, hentry, h⟩ := bind_eq_ok.mp h
  obtain ⟨rowWidth, hwidth, h⟩ := bind_eq_ok.mp h
  obtain ⟨_, hpos, h⟩ := bind_eq_ok.mp h
  obtain ⟨expectedLen, hexpected, h⟩ := bind_eq_ok.mp h
  obtain ⟨_, hlen, h⟩ := bind_eq_ok.mp h
  obtain ⟨_, hu32, h⟩ := bind_eq_ok.mp h
  obtain ⟨_, hi32, h⟩ := bind_eq_ok.mp h
  obtain ⟨dimLens, hdims, hbatch⟩ := bind_eq_ok.mp h
  obtain ⟨_, hne, hdims⟩ := bind_eq_ok.mp hdims
  obtain ⟨_, -, hinner⟩ := bind_eq_ok.mp hwidth
  obtain ⟨_, -, hentry⟩ := bind_eq_ok.mp hentry
  obtain ⟨rfl, -⟩ := checkedMul_eq_some.mp (okOr_eq_ok.mp hexpected)
  obtain ⟨first, inner, hshape⟩ := List.exists_cons_of_ne_nil (failIf_eq_ok.mp hne)
  obtain rfl : first.toNat = entryCount := by
    rw [hshape] at hentry
    exact Except.ok.inj hentry
  rw [hshape] at hinner
  refine ⟨hvalid, first, inner, rowWidth, hshape, hinner,
    Nat.pos_of_ne_zero (failIf_eq_ok.mp hpos), Nat.not_le.mp (failIf_eq_ok.mp hi32),
    Nat.not_le.mp (failIf_eq_ok.mp hu32), (not_not.mp (failIf_eq_ok.mp hlen)).symm, ?_⟩
  rw [Except.ok.inj hdims]
  exact (Except.ok.inj hbatch).symm

lemma len_arrowValuesArray (data : TensorData) : (arrowValuesArray data).len = data.len := by
  cases data <;> rfl

/-- The array of a payload holds the payload. -/
lemma arrowTensor_arrowValuesArray (h : t.validate = .ok ()) :
    arrowTensor t.shape t.data.len (arrowValuesArray t.data) = .ok t := by
  obtain ⟨dtype, shape, data⟩ := t
  obtain ⟨-, hdtype, -⟩ := Tensor.validateTensorParts_eq_ok.mp h
  obtain rfl : data.dtype = dtype := hdtype
  have htensor : tensorFromData data.dtype shape data = .ok ⟨data.dtype, shape, data⟩ :=
    tensorFromData_eq_ok.mpr ⟨rfl, h⟩
  cases data with
  | f32 values =>
    rw [arrowValuesArray, arrowTensor, TensorData.len, List.take_length]
    exact htensor
  | f64 values =>
    rw [arrowValuesArray, arrowTensor, TensorData.len, List.take_length]
    exact htensor
  | i32 values =>
    rw [arrowValuesArray, arrowTensor, TensorData.len, List.take_length]
    exact htensor
  | i64 values =>
    rw [arrowValuesArray, arrowTensor, TensorData.len, List.take_length]
    exact htensor

/-- A record batch that the encoder yields is decoded to the tensor. -/
lemma tensorFromArrowRecordBatch_tensorToArrowRecordBatch
    (h : tensorToArrowRecordBatch t = .ok batch) :
    tensorFromArrowRecordBatch fieldError batch = .ok t := by
  obtain ⟨hvalid, first, inner, rowWidth, hshape, hinner, hpos, hi32, hu32, hlen, rfl⟩ :=
    tensorToArrowRecordBatch_eq_ok h
  have hcount : t.data.len / rowWidth = first.toNat := by
    rw [hlen, Nat.mul_div_cancel _ hpos]
  have hwidth : (Int32.ofNat rowWidth).toInt = rowWidth := Int32.toInt_ofNat_of_lt hi32
  have hlt : first.toNat * rowWidth < 2 ^ usizeBits := by
    refine (Nat.mul_lt_mul'' hu32 hi32).trans_le ?_
    decide
  have hids : ∀ row ∈ List.range first.toNat,
      failIf (((List.range first.toNat).map Nat.toUInt32)[row]? ≠ some row.toUInt32)
        (invalidArgument "time_id values must be exactly 0..entry_count-1 in row order") =
          .ok () := by
    intro row hrow
    rw [List.getElem?_map, List.getElem?_range (List.mem_range.mp hrow), Option.map_some,
      failIf_neg (by simp)]
  have hdims : arrowShape [(arrowMetaDimLens, joinText ',' (t.shape.map u64ToString)),
      (arrowMetaOrder, "row-major")] first.toNat rowWidth = .ok t.shape := by
    rw [hshape]
    exact arrowParseDimLens_joinText hinner
  refine bind_eq_ok.mpr ⟨(), rfl, bind_eq_ok.mpr ⟨_, rfl, bind_eq_ok.mpr ⟨_, rfl,
    bind_eq_ok.mpr ⟨_, rfl, bind_eq_ok.mpr ⟨_, rfl, ?_⟩⟩⟩⟩⟩
  simp only [hcount, hwidth, List.length_map, List.length_range, len_arrowValuesArray, ne_eq,
    not_true, failIf_neg, not_false_eq_true, ok_bind, Nat.not_le.mpr hu32, Int.toNat_natCast,
    Int.natCast_nonneg, not_lt, hpos.ne', hdims]
  refine bind_eq_ok.mpr ⟨(), forM_eq_ok.mpr hids, ?_⟩
  refine bind_eq_ok.mpr ⟨_, okOr_eq_ok.mpr (checkedMul_eq_some.mpr ⟨rfl, hlt⟩), ?_⟩
  rw [failIf_neg (not_not.mpr hlen), ok_bind, ← hlen]
  exact arrowTensor_arrowValuesArray hvalid

end RoundTrip

end ArcadiaTio.Tio
