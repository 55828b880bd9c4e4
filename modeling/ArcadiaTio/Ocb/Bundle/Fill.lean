import ArcadiaTio.Lib.InPlace
import ArcadiaTio.Ocb.Bundle.OwnedReads

/-!
# Reading a row group into buffers

A fill read decodes the columns of one row group into storage of the caller.  It resolves every
buffer to a column and a chunk before it reads, and then writes the values of each chunk over the
beginning of its buffer: an uncompressed fixed-binary payload straight from the file, any other by
way of the chunk object.  It succeeds when the owned read of the same columns does, and leaves in
the buffers what that read returns (`readRowGroupInto_spec`).  The attributed variant takes the same
steps and measures them.
-/

namespace ArcadiaTio.Ocb

open ArcadiaTio.Lib

/-! ### Buffers -/

/-- One column output buffer of a caller; a name or an id says which column it is for. -/
structure ColumnBundleColumnFillBuffer where
  columnName : Option Text
  columnId : Option UInt32
  values : PrimitiveColumnValues
  validityBytes : Option (List UInt8)
  allowNulls : Bool
deriving DecidableEq

/-- The options of a fill; checksums cannot be switched off. -/
structure ColumnBundleReadFillOptions where
  validateChecksums : Bool

/-- What a fill has done to one buffer. -/
structure ColumnBundleColumnFillReport where
  columnId : UInt32
  rowsFilled : ℕ
  validityFilled : Bool
deriving DecidableEq

/-- What a fill has done to all of its buffers. -/
structure ColumnBundleReadFillReport where
  rowGroupId : UInt32
  baseRow : UInt64
  rowCount : UInt64
  columns : List ColumnBundleColumnFillReport
deriving DecidableEq

namespace PrimitiveColumnValues

/-- The rows that there is room for. -/
def len : PrimitiveColumnValues → ℕ
  | i32 values => values.length
  | i64 values => values.length
  | f32 bits => bits.length
  | f64 bits => bits.length
  | fixedBinary width bytes => if width = 0 then 0 else bytes.length / width.toNat

/-- The storage has room for the rows. -/
def validateCapacity (rowCount : ℕ) : PrimitiveColumnValues → Result Unit
  | fixedBinary width bytes => do
    failIf (width = 0) (ocbInvalidInput "OCB fixed-binary fill buffer requires width > 0")
    let expectedBytes ← okOr (checkedMul 64 rowCount width.toNat)
      (ocbInvalidInput "OCB fixed-binary fill byte count overflows")
    failIf (bytes.length < expectedBytes)
      (ocbInvalidInput "OCB fill buffer value capacity is too small for row group")
  | values => failIf (values.len < rowCount)
    (ocbInvalidInput "OCB fill buffer value capacity is too small for row group")

/-- The storage of fixed-binary values. -/
def storage : PrimitiveColumnValues → List UInt8
  | fixedBinary _ bytes => bytes
  | _ => []

/-- The values with other bytes as their storage. -/
def withStorage : PrimitiveColumnValues → List UInt8 → PrimitiveColumnValues
  | fixedBinary width _, bytes => fixedBinary width bytes
  | values, _ => values

end PrimitiveColumnValues

/-! ### Filling values -/

/-- Decode a payload of `rowCount` values over the beginning of a buffer. -/
def fillAlignedValues {α : Type} (payload : List UInt8) (rowCount width : ℕ)
    (decode : List UInt8 → α) (out : List α) (overflow mismatch : String) : Result (List α) := do
  let expectedBytes ← okOr (checkedMul 64 rowCount width) (ocbCorruptFile overflow)
  failIf (payload.length ≠ expectedBytes) (ocbCorruptFile mismatch)
  return overwrite out 0 (decodePrimitiveChunks payload width decode)

/-- Copy records of `width` bytes over the first bytes of the storage. -/
def fillFixedBinaryValues (payload : List UInt8) (rowCount : ℕ) (width : UInt32)
    (out : List UInt8) : Result (List UInt8) := do
  failIf (width = 0) (ocbCorruptFile "OCB fixed-binary column requires fixed width")
  let expectedBytes ← okOr (checkedMul 64 rowCount width.toNat)
    (ocbCorruptFile "OCB fixed-binary payload byte length overflows")
  failIf (payload.length ≠ expectedBytes)
    (ocbCorruptFile "OCB fixed-binary payload length does not match row count")
  failIf (out.length < expectedBytes)
    (ocbInvalidInput "OCB fill buffer value capacity is too small for row group")
  return overwrite out 0 payload

/-- Write the values of a payload over the first values of the storage. -/
def fillPrimitiveValues (payload : List UInt8) (rowCount : ℕ) :
    PrimitiveColumnValues → Result PrimitiveColumnValues
  | .i32 out => .i32 <$> fillAlignedValues payload rowCount 4 i32FromLeBytes out
    "OCB i32 payload byte length overflows" "OCB i32 payload length does not match row count"
  | .i64 out => .i64 <$> fillAlignedValues payload rowCount 8 i64FromLeBytes out
    "OCB i64 payload byte length overflows" "OCB i64 payload length does not match row count"
  | .f32 out => .f32 <$> fillAlignedValues payload rowCount 4 f32FromLeBytes out
    "OCB f32 payload byte length overflows" "OCB f32 payload length does not match row count"
  | .f64 out => .f64 <$> fillAlignedValues payload rowCount 8 f64FromLeBytes out
    "OCB f64 payload byte length overflows" "OCB f64 payload length does not match row count"
  | .fixedBinary width out =>
    .fixedBinary width <$> fillFixedBinaryValues payload rowCount width out

/-! ### Resolving buffers -/

/-- A buffer resolved to the column it is for, and the chunk of this column. -/
structure ResolvedColumnFill where
  column : BundleColumn
  chunk : OcbColumnChunkDescV1

/-- Look up what a selector names, when there is one. -/
def resolveSelector {α : Type} (selector : Option α) (find : α → Option BundleColumn)
    (message : String) : Result (Option BundleColumn) :=
  match selector with
  | some key => some <$> okOr (find key) (ocbInvalidInput message)
  | none => .ok none

/-- The column that an id leads to; of several columns with one id it is the last. -/
def columnOfId (columns : List BundleColumn) (id : UInt32) : Option BundleColumn :=
  columns.reverse.find? fun column => column.id = id

/-- The column that a buffer asks for, by id or by name, if the buffer is for one. -/
def resolveFillColumn (columns : List BundleColumn) (buffer : ColumnBundleColumnFillBuffer) :
    Result (Option BundleColumn) := do
  let byNameColumn ← resolveSelector buffer.columnName (columnByName columns)
    "OCB fill buffer references an unknown column name"
  let byIdColumn ← resolveSelector buffer.columnId (columnOfId columns)
    "OCB fill buffer references an unknown column id"
  match byNameColumn, byIdColumn with
  | some left, some right => do
    failIf (left.id ≠ right.id)
      (ocbInvalidInput "OCB fill buffer column name and id do not match")
    return some left
  | some column, none => return some column
  | none, column => return column

/-- A chunk with a validity bitmap needs a buffer that accepts nulls and has room for the bits. -/
def checkFillValidity (chunk : OcbColumnChunkDescV1) (buffer : ColumnBundleColumnFillBuffer) :
    Result Unit :=
  if chunk.validityRef.IsNull then .ok ()
  else do
    failIf (buffer.allowNulls = false)
      (ocbInvalidInput "OCB fill buffer rejected nullable column chunk")
    let validityBytes ← okOr buffer.validityBytes
      (ocbInvalidInput "OCB fill buffer needs validity storage for nullable column chunk")
    failIf (validityBytes.length < validityBitmapLen chunk.rowCount.toNat)
      (ocbInvalidInput "OCB fill buffer validity capacity is too small for row group")

/-- The checks of one buffer against its column and its chunk. -/
def resolveFill (rowGroup : OcbRowGroupDescV1)
    (chunkByColumn : List (UInt32 × OcbColumnChunkDescV1)) (column : BundleColumn)
    (buffer : ColumnBundleColumnFillBuffer) : Result ResolvedColumnFill := do
  failIf (buffer.values.physicalType ≠ column.physicalType)
    (ocbInvalidInput "OCB fill buffer dtype does not match column dtype")
  buffer.values.validateCapacity rowGroup.rowCount.toNat
  let chunk ← okOr (chunkByColumn.lookup column.id)
    (ocbCorruptFile "OCB row group is missing a selected column chunk")
  failIf (chunk.physicalType ≠ column.physicalType.ocbPhysicalType)
    (ocbCorruptFile "OCB chunk physical type does not match schema")
  failIf (chunk.rowCount ≠ rowGroup.rowCount)
    (ocbCorruptFile "OCB chunk row_count does not match row group")
  failIf (¬ column.nullable ∧ ¬ chunk.validityRef.IsNull)
    (ocbCorruptFile "OCB non-null column chunk cannot have a validity bitmap")
  checkFillValidity chunk buffer
  return ⟨column, chunk⟩

/-- Resolve the buffers in order; `seen` are the columns of those before. -/
def resolveFills (columns : List BundleColumn) (rowGroup : OcbRowGroupDescV1)
    (chunkByColumn : List (UInt32 × OcbColumnChunkDescV1)) :
    List ColumnBundleColumnFillBuffer → List UInt32 → Result (List ResolvedColumnFill)
  | [], _ => .ok []
  | buffer :: rest, seen => do
    let resolved ← resolveFillColumn columns buffer
    let column ← okOr resolved
      (ocbInvalidInput "OCB fill buffer must identify a column by name or id")
    failIf (column.id ∈ seen)
      (ocbInvalidInput "OCB fill request contains duplicate column buffers")
    let target ← resolveFill rowGroup chunkByColumn column buffer
    let targets ← resolveFills columns rowGroup chunkByColumn rest (column.id :: seen)
    return target :: targets

section Reads

variable (source : OcbReadSource) (zstd : ZstdCodec) (m : OcbMetadataV1)

/-- The bytes of the selected columns of one row group are within the limits. -/
def admitFill (rowGroup : OcbRowGroupDescV1) (columnIds : List UInt32) : Result Unit := do
  let footprint ← selectedResourceFootprintForRowGroupDesc m rowGroup columnIds
  validateFootprintTotals footprint m.resourceLimits

/-- Everything before the first payload: the row group, and the target of each buffer. -/
def prepareFill (columns : List BundleColumn) (rowGroupId : UInt32)
    (buffers : List ColumnBundleColumnFillBuffer) :
    Result (OcbRowGroupDescV1 × List ResolvedColumnFill) := do
  failIf (buffers = [])
    (ocbInvalidInput "OCB fill read requires at least one column buffer")
  let rowGroup ← okOr (m.rowGroupById rowGroupId)
    (ocbInvalidInput "OCB fill read references an unknown row group")
  let chunkByColumn ← chunkByColumnForRowGroup m rowGroup
  let targets ← resolveFills columns rowGroup chunkByColumn buffers []
  admitFill m rowGroup (targets.map fun target => target.column.id)
  return (rowGroup, targets)

/-! ### Filling buffers -/

/-- The number of bytes that go straight from the file into a buffer, when they do. -/
def uncompressedFixedBinaryDirectOutput (rowCount : ℕ) (target : ResolvedColumnFill) :
    PrimitiveColumnValues → Result (Option ℕ)
  | .fixedBinary bufferWidth _ =>
    if target.chunk.codec ≠ .none ∨ target.chunk.physicalType ≠ .fixedBinary ∨
        target.column.physicalType ≠ .fixedBinary bufferWidth then return none
    else do
      let expectedBytes ← okOr (checkedMul 64 rowCount bufferWidth.toNat)
        (ocbInvalidInput "OCB fixed-binary fill byte count overflows")
      -- a descriptor of another length is left to the whole-object decoder and its errors
      return if target.chunk.uncompressedBytes.toNat ≠ expectedBytes then none
        else some expectedBytes
  | _ => return none

/-- Fill the values of a buffer. -/
def fillValues (rowCount : ℕ) (target : ResolvedColumnFill) :
    Fallible ArcadiaTioError PrimitiveColumnValues Unit := do
  let values ← Fallible.getState
  let direct ← uncompressedFixedBinaryDirectOutput rowCount target values
  match direct with
  | some expectedBytes =>
    Fallible.zoom PrimitiveColumnValues.storage PrimitiveColumnValues.withStorage
      (Fallible.within 0 expectedBytes
        (readUncompressedFixedBinaryChunkFromSourceInto source target.chunk m.resourceLimits))
  | none => do
    let payload ← readChunkPayload source zstd m target.column target.chunk
    let filled ← fillPrimitiveValues payload rowCount values
    Fallible.setState filled

/-- Fill the validity bits of a buffer, and say whether there are any. -/
def fillValidity (target : ResolvedColumnFill) :
    Fallible ArcadiaTioError (Option (List UInt8)) Bool :=
  if target.chunk.validityRef.IsNull then return false
  else do
    let bitmap ← readValidityBitmap source m target.chunk
    let validity ← okOr bitmap
      (ocbCorruptFile "OCB validity bitmap is missing after validation")
    let validityBytes ← Fallible.getState
    let bytes ← okOr validityBytes (ocbInvalidInput "OCB fill buffer needs validity storage")
    Fallible.setState (some (overwrite bytes 0 validity.bytes))
    return true

/-- Fill one buffer from the chunk it was resolved to. -/
def fillColumnBuffer (rowCount : ℕ) (target : ResolvedColumnFill) :
    Fallible ArcadiaTioError ColumnBundleColumnFillBuffer ColumnBundleColumnFillReport := do
  Fallible.zoom ColumnBundleColumnFillBuffer.values (fun buffer values => { buffer with values })
    (fillValues source zstd m rowCount target)
  let validityFilled ← Fallible.zoom ColumnBundleColumnFillBuffer.validityBytes
    (fun buffer validityBytes => { buffer with validityBytes }) (fillValidity source m target)
  return { columnId := target.column.id, rowsFilled := rowCount, validityFilled }

/-- Fill each buffer with its target. -/
def fillTargets (rowCount : ℕ) (targets : List ResolvedColumnFill) :
    Fallible ArcadiaTioError (List ColumnBundleColumnFillBuffer)
      (List ColumnBundleColumnFillReport) :=
  ⟨fun buffers => Fallible.onEach (fillColumnBuffer source zstd m rowCount) (targets.zip buffers)⟩

/-- Read a row group into the buffers of a caller; the state is the buffers. -/
def readRowGroupInto (columns : List BundleColumn) (rowGroupId : UInt32) :
    Fallible ArcadiaTioError (List ColumnBundleColumnFillBuffer) ColumnBundleReadFillReport := do
  let buffers ← Fallible.getState
  let prepared ← prepareFill m columns rowGroupId buffers
  let rowGroup := prepared.1
  let reports ← fillTargets source zstd m rowGroup.rowCount.toNat prepared.2
  return {
    rowGroupId := rowGroup.rowGroupId, baseRow := rowGroup.baseRow, rowCount := rowGroup.rowCount
    columns := reports }

end Reads

/-- The options ask for what a fill does. -/
def validateReadFillOptions (options : ColumnBundleReadFillOptions) : Result Unit :=
  failIf (options.validateChecksums = false)
    (.unimplemented "OCB fill reads currently always validate checksums")

/-- Read a row group into buffers of the caller. -/
def ColumnBundleFile.readRowGroupInto (file : ColumnBundleFile) (zstd : ZstdCodec)
    (rowGroupId : UInt32) (options : ColumnBundleReadFillOptions) :
    Fallible ArcadiaTioError (List ColumnBundleColumnFillBuffer) ColumnBundleReadFillReport := do
  validateReadFillOptions options
  Ocb.readRowGroupInto file.source zstd file.metadata file.columns rowGroupId

/-! ### Values over a buffer -/

namespace PrimitiveColumnValues

/-- The first rows of a storage. -/
def takeRows (n : ℕ) : PrimitiveColumnValues → PrimitiveColumnValues
  | i32 values => i32 (values.take n)
  | i64 values => i64 (values.take n)
  | f32 bits => f32 (bits.take n)
  | f64 bits => f64 (bits.take n)
  | fixedBinary width bytes => fixedBinary width (bytes.take (n * width.toNat))

/-- The storage behind the first rows. -/
def dropRows (n : ℕ) : PrimitiveColumnValues → PrimitiveColumnValues
  | i32 values => i32 (values.drop n)
  | i64 values => i64 (values.drop n)
  | f32 bits => f32 (bits.drop n)
  | f64 bits => f64 (bits.drop n)
  | fixedBinary width bytes => fixedBinary width (bytes.drop (n * width.toNat))

/-- The storage with values in the place of its first ones. -/
def overwriteWith : PrimitiveColumnValues → PrimitiveColumnValues → PrimitiveColumnValues
  | i32 old, i32 values => i32 (overwrite old 0 values)
  | i64 old, i64 values => i64 (overwrite old 0 values)
  | f32 old, f32 bits => f32 (overwrite old 0 bits)
  | f64 old, f64 bits => f64 (overwrite old 0 bits)
  | fixedBinary width old, fixedBinary _ bytes => fixedBinary width (overwrite old 0 bytes)
  | old, _ => old

/-- There is room for the values of `n` rows. -/
def HasRoom (n : ℕ) : PrimitiveColumnValues → Prop
  | i32 values => n ≤ values.length
  | i64 values => n ≤ values.length
  | f32 bits => n ≤ bits.length
  | f64 bits => n ≤ bits.length
  | fixedBinary width bytes => width ≠ 0 ∧ n * width.toNat ≤ bytes.length

variable {values decoded : PrimitiveColumnValues} {n : ℕ} {payload : List UInt8}

lemma validateCapacity_eq_ok (hfit : n * values.byteWidth < 2 ^ 64) :
    values.validateCapacity n = .ok () ↔ values.HasRoom n := by
  cases values with
  | fixedBinary width bytes =>
    have hfit : n * width.toNat < 2 ^ 64 := hfit
    rw [validateCapacity, HasRoom]
    by_cases hwidth : width = 0
    · simp [hwidth]
    · rw [failIf_neg hwidth, ok_bind, checkedMul_of_lt hfit, okOr_some, ok_bind, failIf_eq_ok,
        not_lt, and_iff_right hwidth]
  | i32 values => exact failIf_eq_ok.trans not_lt
  | i64 values => exact failIf_eq_ok.trans not_lt
  | f32 bits => exact failIf_eq_ok.trans not_lt
  | f64 bits => exact failIf_eq_ok.trans not_lt

/-- What is written is what is in the first rows. -/
lemma takeRows_overwriteWith (htype : decoded.physicalType = values.physicalType)
    (h : decoded.HoldsRows n) : (values.overwriteWith decoded).takeRows n = decoded := by
  cases values <;> cases decoded <;> try cases htype
  case fixedBinary.fixedBinary width old bytes =>
    rw [overwriteWith, takeRows, overwrite_zero, List.take_left' h.2]
  all_goals rw [overwriteWith, takeRows, overwrite_zero, List.take_left' h]

/-- What is behind the first rows is unchanged. -/
lemma dropRows_overwriteWith (htype : decoded.physicalType = values.physicalType)
    (h : decoded.HoldsRows n) : (values.overwriteWith decoded).dropRows n = values.dropRows n := by
  cases values <;> cases decoded <;> try cases htype
  case fixedBinary.fixedBinary width old bytes =>
    rw [overwriteWith, dropRows, dropRows, overwrite_zero, List.drop_left' h.2, h.2]
  all_goals
    rw [overwriteWith, dropRows, dropRows, overwrite_zero, List.drop_left' h, show _ = n from h]

lemma physicalType_overwriteWith :
    (values.overwriteWith decoded).physicalType = values.physicalType := by
  cases values <;> cases decoded <;> rfl

end PrimitiveColumnValues

section Decoding

variable {α : Type} {payload : List UInt8} {n width : ℕ} {decode : List UInt8 → α}

/-- The same for the types whose values have a fixed width. -/
lemma decode_and_fill_aligned (make : List α → PrimitiveColumnValues) (hwidth : 0 < width)
    (hlength : payload.length = n * width) (hfit : n * width < 2 ^ 64) (out : List α)
    (message overflow mismatch : String) : ∃ values, values.length = n ∧
      make <$> decodeAlignedChunks payload width decode message = .ok (make values) ∧
      make <$> fillAlignedValues payload n width decode out overflow mismatch =
        .ok (make (overwrite out 0 values)) := by
  refine ⟨decodePrimitiveChunks payload width decode, ?_, ?_, ?_⟩
  · rw [decodePrimitiveChunks, List.length_map, length_chunksExact, hlength,
      Nat.mul_div_cancel _ hwidth]
  · rw [decodeAlignedChunks, failIf_neg (by rw [hlength, Nat.mul_mod_left]; exact not_not.mpr rfl)]
    rfl
  · rw [fillAlignedValues, checkedMul_of_lt hfit, okOr_some, ok_bind,
      failIf_neg (not_not.mpr hlength)]
    rfl

/-- A payload of `n` values decodes, and a fill writes what the decoder returns. -/
theorem decode_and_fill {values : PrimitiveColumnValues}
    (hlength : payload.length = n * values.byteWidth) (hfit : n * values.byteWidth < 2 ^ 64)
    (hroom : values.HasRoom n) :
    ∃ decoded, decodePrimitiveValues values.physicalType payload = .ok decoded ∧
      decoded.physicalType = values.physicalType ∧ decoded.HoldsRows n ∧
      fillPrimitiveValues payload n values = .ok (values.overwriteWith decoded) := by
  cases values with
  | i32 out =>
    obtain ⟨decoded, hrows, hdecode, hfill⟩ :=
      decode_and_fill_aligned .i32 (Nat.succ_pos _) hlength hfit out _ _ _
    exact ⟨.i32 decoded, hdecode, rfl, hrows, hfill⟩
  | i64 out =>
    obtain ⟨decoded, hrows, hdecode, hfill⟩ :=
      decode_and_fill_aligned .i64 (Nat.succ_pos _) hlength hfit out _ _ _
    exact ⟨.i64 decoded, hdecode, rfl, hrows, hfill⟩
  | f32 out =>
    obtain ⟨decoded, hrows, hdecode, hfill⟩ :=
      decode_and_fill_aligned .f32 (Nat.succ_pos _) hlength hfit out _ _ _
    exact ⟨.f32 decoded, hdecode, rfl, hrows, hfill⟩
  | f64 out =>
    obtain ⟨decoded, hrows, hdecode, hfill⟩ :=
      decode_and_fill_aligned .f64 (Nat.succ_pos _) hlength hfit out _ _ _
    exact ⟨.f64 decoded, hdecode, rfl, hrows, hfill⟩
  | fixedBinary width out =>
    obtain ⟨hwidth, hout⟩ := hroom
    have hbytes : payload.length = n * width.toNat := hlength
    have hfit : n * width.toNat < 2 ^ 64 := hfit
    refine ⟨.fixedBinary width payload, ?_, rfl, ⟨hwidth, hbytes⟩, ?_⟩
    · rw [PrimitiveColumnValues.physicalType, decodePrimitiveValues, failIf_neg hwidth, ok_bind,
        failIf_neg (by rw [hbytes, Nat.mul_mod_left]; exact not_not.mpr rfl)]
      rfl
    · have hfill : fillFixedBinaryValues payload n width out = .ok (overwrite out 0 payload) := by
        rw [fillFixedBinaryValues, failIf_neg hwidth, ok_bind, checkedMul_of_lt hfit, okOr_some,
          ok_bind, failIf_neg (not_not.mpr hbytes), ok_bind, failIf_neg (not_lt.mpr hout)]
        rfl
      exact congrArg (PrimitiveColumnValues.fixedBinary width <$> ·) hfill

end Decoding

/-! ### Filling a column -/

/-- What the graph validation leaves of the chunk of a column: it repeats the schema, its bytes are
those of its rows, and the ways to read its payload agree. -/
structure ChunkOf (source : OcbReadSource) (zstd : ZstdCodec) (limits : OcbResourceLimits)
    (rowGroup : OcbRowGroupDescV1) (column : BundleColumn) (chunk : OcbColumnChunkDescV1) :
    Prop where
  physicalType : chunk.physicalType = column.physicalType.ocbPhysicalType
  rowCount : chunk.rowCount = rowGroup.rowCount
  bytes : ∀ values : PrimitiveColumnValues, values.physicalType = column.physicalType →
    chunk.uncompressedBytes.toNat = rowGroup.rowCount.toNat * values.byteWidth
  nullable : ¬ chunk.validityRef.IsNull → column.nullable = true
  paths : ChunkPathsAgree source zstd chunk limits

/-- The validity bits of a buffer with those of a chunk over them. -/
def overwriteValidity (validityBytes : Option (List UInt8)) (validity : Option ValidityBitmap) :
    Option (List UInt8) :=
  match validity with
  | some validity => validityBytes.map fun bytes => overwrite bytes 0 validity.bytes
  | none => validityBytes

namespace ColumnBundleColumnFillBuffer

/-- The buffer with the values and the validity bits of a column over the beginning of its own. -/
def filled (buffer : ColumnBundleColumnFillBuffer) (array : ColumnArray) :
    ColumnBundleColumnFillBuffer :=
  { buffer with
    values := buffer.values.overwriteWith array.values
    validityBytes := overwriteValidity buffer.validityBytes array.validity }

/-- There is room in a buffer for what a chunk holds, and it accepts its nulls. -/
structure Fits (buffer : ColumnBundleColumnFillBuffer) (column : BundleColumn)
    (chunk : OcbColumnChunkDescV1) : Prop where
  physicalType : buffer.values.physicalType = column.physicalType
  room : buffer.values.HasRoom chunk.rowCount.toNat
  allowNulls : ¬ chunk.validityRef.IsNull → buffer.allowNulls = true
  validity : ¬ chunk.validityRef.IsNull → ∃ bytes, buffer.validityBytes = some bytes ∧
    validityBitmapLen chunk.rowCount.toNat ≤ bytes.length

/-- A buffer holds a column in its first rows, and is unchanged behind them. -/
structure FilledWith (before after : ColumnBundleColumnFillBuffer) (rows : ℕ)
    (array : ColumnArray) : Prop where
  values : after.values.takeRows rows = array.values
  rest : after.values.dropRows rows = before.values.dropRows rows
  validity : ∀ bitmap ∈ array.validity, ∃ old new, before.validityBytes = some old ∧
    after.validityBytes = some new ∧ new.take (validityBitmapLen rows) = bitmap.bytes ∧
    new.drop (validityBitmapLen rows) = old.drop (validityBitmapLen rows)
  allValid : array.validity = none → after.validityBytes = before.validityBytes
  selector : after.columnName = before.columnName ∧ after.columnId = before.columnId ∧
    after.allowNulls = before.allowNulls

end ColumnBundleColumnFillBuffer

section Column

variable {source : OcbReadSource} {zstd : ZstdCodec} {m : OcbMetadataV1}
  {limits : OcbResourceLimits} {rowGroup : OcbRowGroupDescV1} {column : BundleColumn}
  {chunk : OcbColumnChunkDescV1} {buffer : ColumnBundleColumnFillBuffer}
  {values : PrimitiveColumnValues}

lemma ChunkOf.readChunkPayload_eq (h : ChunkOf source zstd limits rowGroup column chunk)
    (hlimits : m.resourceLimits = limits) :
    readChunkPayload source zstd m column chunk = readAndDecodeChunk source zstd chunk limits := by
  rw [readChunkPayload, hlimits, ← h.physicalType]
  rfl

/-- A buffer is filled straight from the file only where this is what decoding would do. -/
lemma ChunkOf.directOutput_eq (h : ChunkOf source zstd limits rowGroup column chunk)
    (htype : values.physicalType = column.physicalType) :
    uncompressedFixedBinaryDirectOutput rowGroup.rowCount.toNat ⟨column, chunk⟩ values =
      .ok (if chunk.codec = .none ∧ chunk.physicalType = .fixedBinary then
        some chunk.uncompressedBytes.toNat else none) := by
  have hbytes := h.bytes values htype
  have hphysical := h.physicalType
  rw [← htype] at hphysical
  cases values with
  | fixedBinary width bytes =>
    have hbytes : chunk.uncompressedBytes.toNat = rowGroup.rowCount.toNat * width.toNat := hbytes
    have hfixed : chunk.physicalType = .fixedBinary := hphysical
    have hcolumn : column.physicalType = .fixedBinary width := htype.symm
    rw [uncompressedFixedBinaryDirectOutput]
    by_cases hcodec : chunk.codec = .none
    · rw [if_neg (by simp [hcodec, hfixed, hcolumn]),
        checkedMul_of_lt (by rw [← hbytes]; exact chunk.uncompressedBytes.toNat_lt), okOr_some,
        ok_bind, if_neg (not_not.mpr hbytes), if_pos ⟨hcodec, hfixed⟩, hbytes]
      rfl
    · rw [if_pos (.inl hcodec), if_neg (fun hboth => hcodec hboth.1)]
      rfl
  | _ =>
    rw [if_neg]
    · rfl
    · rintro ⟨-, hfixed⟩
      rw [hphysical] at hfixed
      cases hfixed

/-- An uncompressed fixed-binary payload goes straight over the first bytes of a buffer. -/
lemma ChunkOf.run_fillDirect (h : ChunkOf source zstd limits rowGroup column chunk)
    (hlimits : m.resourceLimits = limits) (hcodec : chunk.codec = .none)
    (hphysical : chunk.physicalType = .fixedBinary) {width : UInt32} {old : List UInt8}
    (hroom : chunk.uncompressedBytes.toNat ≤ old.length) {after : PrimitiveColumnValues} :
    (Fallible.zoom PrimitiveColumnValues.storage PrimitiveColumnValues.withStorage
        (Fallible.within 0 chunk.uncompressedBytes.toNat
          (readUncompressedFixedBinaryChunkFromSourceInto source chunk m.resourceLimits))).run
        (.fixedBinary width old) = (.ok (), after) ↔
      ∃ payload, readAndDecodeChunk source zstd chunk limits = .ok payload ∧
        after = .fixedBinary width (overwrite old 0 payload) := by
  have hwindow : (window old 0 (0 + chunk.uncompressedBytes.toNat)).length =
      chunk.uncompressedBytes.toNat := by
    rw [Nat.zero_add, length_window hroom, Nat.sub_zero]
  have hread := h.paths.direct_ok hphysical hcodec _ hwindow
  rw [hlimits, Fallible.run_zoom, Fallible.run_within, Prod.mk.injEq]
  constructor
  · rintro ⟨hok, rfl⟩
    exact ⟨_, (hread _).mp (Prod.ext hok rfl), rfl⟩
  · rintro ⟨payload, hpayload, rfl⟩
    have hrun := (hread payload).mpr hpayload
    have hout : ∀ out, out = payload → PrimitiveColumnValues.fixedBinary width
        (overwrite old 0 out) = .fixedBinary width (overwrite old 0 payload) := by
      rintro _ rfl
      rfl
    exact ⟨congrArg Prod.fst hrun, hout _ (congrArg Prod.snd hrun)⟩

/-- The values of a buffer are filled with what decoding the chunk returns. -/
theorem ChunkOf.run_fillValues (h : ChunkOf source zstd limits rowGroup column chunk)
    (hlimits : m.resourceLimits = limits) (htype : values.physicalType = column.physicalType)
    (hroom : values.HasRoom rowGroup.rowCount.toNat) {after : PrimitiveColumnValues} :
    (fillValues source zstd m rowGroup.rowCount.toNat ⟨column, chunk⟩).run values =
        (.ok (), after) ↔
      ∃ payload decoded, readChunkPayload source zstd m column chunk = .ok payload ∧
        decodePrimitiveValues column.physicalType payload = .ok decoded ∧
        after = values.overwriteWith decoded := by
  have hbytes := h.bytes values htype
  have hfit : rowGroup.rowCount.toNat * values.byteWidth < 2 ^ 64 := by
    rw [← hbytes]
    exact chunk.uncompressedBytes.toNat_lt
  rw [fillValues, Fallible.run_bind_of_ok Fallible.run_getState, h.directOutput_eq htype,
    Fallible.lift_ok_bind, ← htype]
  by_cases hdirect : chunk.codec = .none ∧ chunk.physicalType = .fixedBinary
  · -- the payload goes straight over the first bytes
    obtain ⟨width, old, rfl⟩ : ∃ width old, values = .fixedBinary width old := by
      have hphysical := h.physicalType
      rw [hdirect.2, ← htype] at hphysical
      cases values with
      | fixedBinary width old => exact ⟨width, old, rfl⟩
      | _ => cases hphysical
    obtain ⟨hwidth, hold⟩ := hroom
    have hbytes : chunk.uncompressedBytes.toNat = rowGroup.rowCount.toNat * width.toNat := hbytes
    rw [if_pos hdirect, h.readChunkPayload_eq hlimits]
    dsimp only
    rw [h.run_fillDirect hlimits hdirect.1 hdirect.2 (hbytes ▸ hold)]
    constructor
    · rintro ⟨payload, hpayload, rfl⟩
      have hlength := (length_of_readAndDecodeChunk hpayload).trans hbytes
      refine ⟨payload, .fixedBinary width payload, hpayload, ?_, rfl⟩
      rw [PrimitiveColumnValues.physicalType, decodePrimitiveValues, failIf_neg hwidth, ok_bind,
        failIf_neg (by rw [hlength, Nat.mul_mod_left]; exact not_not.mpr rfl)]
      rfl
    · rintro ⟨payload, decoded, hpayload, hdecoded, rfl⟩
      obtain ⟨_, -, hdecoded⟩ := bind_eq_ok.mp hdecoded
      obtain ⟨_, -, hdecoded⟩ := bind_eq_ok.mp hdecoded
      cases hdecoded
      exact ⟨payload, hpayload, rfl⟩
  · -- the whole object is decoded
    rw [if_neg hdirect]
    dsimp only
    rw [Fallible.run_lift_bind_eq_ok]
    have hdecode : ∀ payload, readChunkPayload source zstd m column chunk = .ok payload →
        payload.length = rowGroup.rowCount.toNat * values.byteWidth := by
      intro payload hpayload
      rw [h.readChunkPayload_eq hlimits] at hpayload
      exact (length_of_readAndDecodeChunk hpayload).trans hbytes
    constructor
    · rintro ⟨payload, hpayload, hrun⟩
      obtain ⟨decoded, hdecoded, -, -, hfill⟩ :=
        decode_and_fill (hdecode payload hpayload) hfit hroom
      rw [hfill, Fallible.lift_ok_bind, Fallible.run_setState] at hrun
      exact ⟨payload, decoded, hpayload, hdecoded, (congrArg Prod.snd hrun).symm⟩
    · rintro ⟨payload, decoded, hpayload, hdecoded, rfl⟩
      obtain ⟨decoded', hdecoded', -, -, hfill⟩ :=
        decode_and_fill (hdecode payload hpayload) hfit hroom
      obtain rfl := Except.ok.inj (hdecoded.symm.trans hdecoded')
      refine ⟨payload, hpayload, ?_⟩
      rw [hfill, Fallible.lift_ok_bind, Fallible.run_setState]

lemma run_fillValidity {validityBytes after : Option (List UInt8)} {filled : Bool}
    (hstorage : ¬ chunk.validityRef.IsNull → validityBytes ≠ none) :
    (fillValidity source m ⟨column, chunk⟩).run validityBytes = (.ok filled, after) ↔
      ∃ validity, readValidityBitmap source m chunk = .ok validity ∧ filled = validity.isSome ∧
        after = overwriteValidity validityBytes validity := by
  rw [fillValidity]
  by_cases hnull : chunk.validityRef.IsNull
  · rw [if_pos hnull, readValidityBitmap, if_pos hnull, Fallible.run_pure, Prod.mk.injEq]
    constructor
    · rintro ⟨hfilled, rfl⟩
      exact ⟨none, rfl, (Except.ok.inj hfilled).symm, rfl⟩
    · rintro ⟨validity, hvalidity, rfl, rfl⟩
      cases hvalidity
      exact ⟨rfl, rfl⟩
  · obtain ⟨bytes, rfl⟩ := Option.ne_none_iff_exists'.mp (hstorage hnull)
    rw [if_neg hnull, Fallible.run_lift_bind_eq_ok]
    refine exists_congr fun validity => and_congr_right fun hvalidity => ?_
    -- a chunk with a reference has a bitmap
    obtain ⟨bitmap, rfl⟩ : ∃ bitmap, validity = some bitmap := by
      rw [readValidityBitmap, if_neg hnull] at hvalidity
      obtain ⟨_, -, hvalidity⟩ := bind_eq_ok.mp hvalidity
      obtain ⟨_, -, hvalidity⟩ := bind_eq_ok.mp hvalidity
      cases hvalidity
      exact ⟨_, rfl⟩
    rw [okOr_some, Fallible.lift_ok_bind, Fallible.run_bind_of_ok Fallible.run_getState, okOr_some,
      Fallible.lift_ok_bind, Fallible.run_bind_of_ok Fallible.run_setState, Fallible.run_pure,
      Prod.mk.injEq, Except.ok.injEq, eq_comm, @eq_comm _ (some _)]
    rfl

/-- Filling a buffer is reading its column: the report says which rows were filled, and the buffer
is left with the values and the validity bits of the column over its own. -/
theorem ChunkOf.run_fillColumnBuffer (h : ChunkOf source zstd limits rowGroup column chunk)
    (hlimits : m.resourceLimits = limits) (hfits : buffer.Fits column chunk)
    {report : ColumnBundleColumnFillReport} {after : ColumnBundleColumnFillBuffer} :
    (fillColumnBuffer source zstd m rowGroup.rowCount.toNat ⟨column, chunk⟩).run buffer =
        (.ok report, after) ↔
      ∃ array, readColumnArray source zstd m column chunk rowGroup.rowCount = .ok array ∧
        report = ⟨column.id, rowGroup.rowCount.toNat, array.validity.isSome⟩ ∧
        after = buffer.filled array := by
  have hroom := hfits.room
  rw [h.rowCount] at hroom
  have hvalues := fun after => @ChunkOf.run_fillValues source zstd m limits rowGroup column chunk
    buffer.values h hlimits hfits.physicalType hroom after
  have hstorage : ¬ chunk.validityRef.IsNull → buffer.validityBytes ≠ none := by
    intro hnull
    obtain ⟨bytes, hbytes, -⟩ := hfits.validity hnull
    rw [hbytes]
    exact Option.some_ne_none bytes
  have hnullable : ¬ (¬ column.nullable ∧ ¬ chunk.validityRef.IsNull) := by
    rintro ⟨hnot, hnull⟩
    exact hnot (h.nullable hnull)
  rw [fillColumnBuffer, readColumnArray, failIf_neg hnullable, ok_bind,
    failIf_neg (not_not.mpr h.physicalType), ok_bind, failIf_neg (not_not.mpr h.rowCount), ok_bind]
  simp only [Fallible.run_bind_eq_ok, Fallible.run_zoom_eq_ok, Fallible.run_pure, Prod.mk.injEq,
    Except.ok.injEq]
  constructor
  · rintro ⟨_, _, ⟨values, hfilled, rfl⟩, validityFilled, _, ⟨bits, hbits, rfl⟩, rfl, rfl⟩
    obtain ⟨payload, decoded, hpayload, hdecoded, rfl⟩ := (hvalues _).mp hfilled
    obtain ⟨validity, hvalidity, rfl, rfl⟩ := (run_fillValidity hstorage).mp hbits
    refine ⟨⟨column.id, column.name, column.physicalType, column.logicalKind, column.dictionaryId,
      decoded, validity⟩, ?_, rfl, rfl⟩
    rw [hpayload, ok_bind, hvalidity, ok_bind, hdecoded]
    rfl
  · rintro ⟨array, harray, rfl, rfl⟩
    obtain ⟨payload, hpayload, harray⟩ := bind_eq_ok.mp harray
    obtain ⟨validity, hvalidity, harray⟩ := bind_eq_ok.mp harray
    obtain ⟨decoded, hdecoded, harray⟩ := bind_eq_ok.mp harray
    cases harray
    exact ⟨(), _, ⟨_, (hvalues _).mpr ⟨payload, decoded, hpayload, hdecoded, rfl⟩, rfl⟩, _, _,
      ⟨_, (run_fillValidity hstorage).mpr ⟨validity, hvalidity, rfl, rfl⟩, rfl⟩, rfl, rfl⟩

lemma length_of_readValidityBitmap {bitmap : ValidityBitmap}
    (h : readValidityBitmap source m chunk = .ok (some bitmap)) :
    ¬ chunk.validityRef.IsNull ∧ bitmap.bytes.length = validityBitmapLen chunk.rowCount.toNat := by
  rw [readValidityBitmap] at h
  by_cases hnull : chunk.validityRef.IsNull
  · rw [if_pos hnull] at h
    cases h
  · rw [if_neg hnull] at h
    obtain ⟨bytes, -, h⟩ := bind_eq_ok.mp h
    obtain ⟨_, hlength, h⟩ := bind_eq_ok.mp h
    cases h
    exact ⟨hnull, not_not.mp (failIf_eq_ok.mp hlength)⟩

/-- A buffer that was filled with a column holds it. -/
lemma ChunkOf.filledWith (h : ChunkOf source zstd limits rowGroup column chunk)
    (hlimits : m.resourceLimits = limits) (hfits : buffer.Fits column chunk) {array : ColumnArray}
    (harray : readColumnArray source zstd m column chunk rowGroup.rowCount = .ok array) :
    buffer.FilledWith (buffer.filled array) rowGroup.rowCount.toNat array := by
  obtain ⟨_, -, harray⟩ := bind_eq_ok.mp harray
  obtain ⟨_, -, harray⟩ := bind_eq_ok.mp harray
  obtain ⟨_, -, harray⟩ := bind_eq_ok.mp harray
  obtain ⟨payload, hpayload, harray⟩ := bind_eq_ok.mp harray
  obtain ⟨validity, hvalidity, harray⟩ := bind_eq_ok.mp harray
  obtain ⟨decoded, hdecoded, harray⟩ := bind_eq_ok.mp harray
  cases harray
  rw [h.readChunkPayload_eq hlimits] at hpayload
  have hbytes := h.bytes _ hfits.physicalType
  have hroom := hfits.room
  rw [h.rowCount] at hroom
  obtain ⟨decoded', hdecoded', htype, hrows, -⟩ := decode_and_fill
    ((length_of_readAndDecodeChunk hpayload).trans hbytes)
    (by rw [← hbytes]; exact chunk.uncompressedBytes.toNat_lt) hroom
  rw [hfits.physicalType] at hdecoded'
  obtain rfl := Except.ok.inj (hdecoded.symm.trans hdecoded')
  refine ⟨PrimitiveColumnValues.takeRows_overwriteWith htype hrows,
    PrimitiveColumnValues.dropRows_overwriteWith htype hrows, fun bitmap hbitmap => ?_,
    fun hnone => ?_, rfl, rfl, rfl⟩
  · obtain rfl : validity = some bitmap := hbitmap
    obtain ⟨hnull, hlength⟩ := length_of_readValidityBitmap hvalidity
    obtain ⟨old, hold, -⟩ := hfits.validity hnull
    rw [h.rowCount] at hlength
    refine ⟨old, overwrite old 0 bitmap.bytes, hold, ?_, ?_, ?_⟩
    · rw [ColumnBundleColumnFillBuffer.filled, hold]
      rfl
    · rw [overwrite_zero, List.take_left' hlength]
    · rw [overwrite_zero, List.drop_left' hlength, hlength]
  · obtain rfl : validity = none := hnone
    rfl

lemma checkFillValidity_eq_ok : checkFillValidity chunk buffer = .ok () ↔
    (¬ chunk.validityRef.IsNull → buffer.allowNulls = true) ∧
      (¬ chunk.validityRef.IsNull → ∃ bytes, buffer.validityBytes = some bytes ∧
        validityBitmapLen chunk.rowCount.toNat ≤ bytes.length) := by
  rw [checkFillValidity]
  by_cases hnull : chunk.validityRef.IsNull
  · simp [hnull]
  · rw [if_neg hnull]
    simp only [bind_eq_ok, failIf_eq_ok, okOr_eq_ok, exists_const, hnull, not_false_eq_true,
      forall_const, Bool.not_eq_false, not_lt]

/-- A buffer is resolved to its column and chunk exactly when they fit. -/
lemma ChunkOf.resolveFill_eq_ok (h : ChunkOf source zstd limits rowGroup column chunk)
    {chunkByColumn : List (UInt32 × OcbColumnChunkDescV1)}
    (hlookup : chunkByColumn.lookup column.id = some chunk) {target : ResolvedColumnFill} :
    resolveFill rowGroup chunkByColumn column buffer = .ok target ↔
      buffer.Fits column chunk ∧ target = ⟨column, chunk⟩ := by
  have hnullable : ¬ (¬ column.nullable ∧ ¬ chunk.validityRef.IsNull) := by
    rintro ⟨hnot, hnull⟩
    exact hnot (h.nullable hnull)
  have hcapacity : buffer.values.physicalType = column.physicalType →
      (buffer.values.validateCapacity rowGroup.rowCount.toNat = .ok () ↔
        buffer.values.HasRoom chunk.rowCount.toNat) := by
    intro htype
    rw [h.rowCount, PrimitiveColumnValues.validateCapacity_eq_ok]
    rw [← h.bytes _ htype]
    exact chunk.uncompressedBytes.toNat_lt
  rw [resolveFill]
  constructor
  · intro hresolve
    obtain ⟨_, htype, hresolve⟩ := bind_eq_ok.mp hresolve
    obtain ⟨_, hroom, hresolve⟩ := bind_eq_ok.mp hresolve
    rw [hlookup, okOr_some, ok_bind, failIf_neg (not_not.mpr h.physicalType), ok_bind,
      failIf_neg (not_not.mpr h.rowCount), ok_bind, failIf_neg hnullable, ok_bind] at hresolve
    obtain ⟨_, hvalidity, hresolve⟩ := bind_eq_ok.mp hresolve
    cases hresolve
    rw [failIf_eq_ok, not_not] at htype
    obtain ⟨hallow, hbits⟩ := checkFillValidity_eq_ok.mp hvalidity
    exact ⟨⟨htype, (hcapacity htype).mp hroom, hallow, hbits⟩, rfl⟩
  · rintro ⟨hfits, rfl⟩
    rw [failIf_neg (not_not.mpr hfits.physicalType), ok_bind,
      (hcapacity hfits.physicalType).mpr hfits.room, ok_bind, hlookup, okOr_some, ok_bind,
      failIf_neg (not_not.mpr h.physicalType), ok_bind, failIf_neg (not_not.mpr h.rowCount),
      ok_bind, failIf_neg hnullable, ok_bind,
      checkFillValidity_eq_ok.mpr ⟨hfits.allowNulls, hfits.validity⟩, ok_bind]
    rfl

end Column

/-! ### The fill read of an opened file -/

/-- The buffer names a column. -/
structure ColumnBundleColumnFillBuffer.Names (buffer : ColumnBundleColumnFillBuffer)
    (column : BundleColumn) : Prop where
  byName : ∀ name ∈ buffer.columnName, column.name = name
  byId : ∀ id ∈ buffer.columnId, column.id = id
  identified : buffer.columnName ≠ none ∨ buffer.columnId ≠ none

namespace ColumnBundleFile

variable {file : ColumnBundleFile}

lemma Opened.columnOfId_eq_some (h : file.Opened) {id : UInt32} {column : BundleColumn} :
    columnOfId file.columns id = some column ↔ column ∈ file.columns ∧ column.id = id := by
  have hnodup : (file.columns.reverse.map BundleColumn.id).Nodup := by
    rw [List.map_reverse]
    exact List.nodup_reverse.mpr h.nodup_columnIds
  rw [columnOfId, find?_eq_some_of_nodup hnodup, List.mem_reverse]

lemma resolveSelector_some_eq_ok {α : Type} {key : α} {find : α → Option BundleColumn}
    {message : String} {found : Option BundleColumn} :
    resolveSelector (some key) find message = .ok found ↔
      ∃ column, find key = some column ∧ found = some column := by
  simp only [resolveSelector, map_eq_ok, okOr_eq_ok]
  exact exists_congr fun column => and_congr_right fun _ => eq_comm

/-- A buffer is resolved to the column of the file that it names. -/
lemma Opened.resolveFillColumn_eq_ok (h : file.Opened) {buffer : ColumnBundleColumnFillBuffer}
    {column : BundleColumn} : resolveFillColumn file.columns buffer = .ok (some column) ↔
      column ∈ file.columns ∧ buffer.Names column := by
  have hfindName : ∀ name column, columnByName file.columns name = some column ↔
      column ∈ file.columns ∧ column.name = name := fun _ _ => h.columnByName_eq_some
  have hfindId : ∀ id column, columnOfId file.columns id = some column ↔
      column ∈ file.columns ∧ column.id = id := fun _ _ => h.columnOfId_eq_some
  rw [resolveFillColumn]
  rcases hname : buffer.columnName with _ | name <;> rcases hid : buffer.columnId with _ | id
  · refine iff_of_false (fun hresolve => ?_) fun hboth => ?_
    · cases hresolve
    · rcases hboth.2.identified with hne | hne
      · exact hne hname
      · exact hne hid
  · constructor
    · intro hresolve
      obtain ⟨_, ⟨⟩, hresolve⟩ := bind_eq_ok.mp hresolve
      obtain ⟨_, hselected, hresolve⟩ := bind_eq_ok.mp hresolve
      obtain ⟨found, hfound, rfl⟩ := resolveSelector_some_eq_ok.mp hselected
      cases hresolve
      obtain ⟨hmem, rfl⟩ := (hfindId _ _).mp hfound
      exact ⟨hmem, by simp [hname], by simp [hid], .inr (by simp [hid])⟩
    · rintro ⟨hmem, hnames⟩
      have hfound := (hfindId id column).mpr ⟨hmem, hnames.byId id hid⟩
      exact bind_eq_ok.mpr ⟨none, rfl, bind_eq_ok.mpr
        ⟨some column, resolveSelector_some_eq_ok.mpr ⟨column, hfound, rfl⟩, rfl⟩⟩
  · constructor
    · intro hresolve
      obtain ⟨_, hselected, hresolve⟩ := bind_eq_ok.mp hresolve
      obtain ⟨found, hfound, rfl⟩ := resolveSelector_some_eq_ok.mp hselected
      obtain ⟨_, ⟨⟩, hresolve⟩ := bind_eq_ok.mp hresolve
      cases hresolve
      obtain ⟨hmem, rfl⟩ := (hfindName _ _).mp hfound
      exact ⟨hmem, by simp [hname], by simp [hid], .inl (by simp [hname])⟩
    · rintro ⟨hmem, hnames⟩
      have hfound := (hfindName name column).mpr ⟨hmem, hnames.byName name hname⟩
      exact bind_eq_ok.mpr ⟨some column, resolveSelector_some_eq_ok.mpr ⟨column, hfound, rfl⟩,
        bind_eq_ok.mpr ⟨none, rfl, rfl⟩⟩
  · constructor
    · intro hresolve
      obtain ⟨_, hselected, hresolve⟩ := bind_eq_ok.mp hresolve
      obtain ⟨left, hleft, rfl⟩ := resolveSelector_some_eq_ok.mp hselected
      obtain ⟨_, hselected', hresolve⟩ := bind_eq_ok.mp hresolve
      obtain ⟨right, hright, rfl⟩ := resolveSelector_some_eq_ok.mp hselected'
      obtain ⟨_, heq, hresolve⟩ := bind_eq_ok.mp hresolve
      cases hresolve
      rw [failIf_eq_ok, not_not] at heq
      obtain ⟨hmem, rfl⟩ := (hfindName _ _).mp hleft
      obtain ⟨-, rfl⟩ := (hfindId _ _).mp hright
      exact ⟨hmem, by simp [hname], by simp [hid, heq], .inl (by simp [hname])⟩
    · rintro ⟨hmem, hnames⟩
      have hleft := (hfindName name column).mpr ⟨hmem, hnames.byName name hname⟩
      have hright := (hfindId id column).mpr ⟨hmem, hnames.byId id hid⟩
      exact bind_eq_ok.mpr ⟨some column, resolveSelector_some_eq_ok.mpr ⟨column, hleft, rfl⟩,
        bind_eq_ok.mpr ⟨some column, resolveSelector_some_eq_ok.mpr ⟨column, hright, rfl⟩,
          bind_eq_ok.mpr ⟨(), failIf_neg (not_not.mpr rfl), rfl⟩⟩⟩

lemma byteWidth_of_desc {desc : OcbColumnDescV1} {type : ColumnPhysicalType}
    {values : PrimitiveColumnValues} {width : ℕ}
    (htype : columnPhysicalTypeFromDesc desc = .ok type)
    (hwidth : desc.valueByteWidth = .ok width) (hvalues : values.physicalType = type) :
    width = values.byteWidth := by
  rw [columnPhysicalTypeFromDesc] at htype
  rw [OcbColumnDescV1.valueByteWidth] at hwidth
  cases hphysical : desc.physicalType <;>
    simp only [hphysical, primitiveColumnType, OcbPhysicalTypeV1.primitiveByteWidth, bind_eq_ok,
      pure_eq_ok, Except.ok.injEq] at htype hwidth <;>
    obtain ⟨_, -, rfl⟩ := htype <;>
    obtain ⟨_, -, rfl⟩ := hwidth <;>
    cases values <;> cases hvalues <;> rfl

section Opened

variable {source : OcbReadSource} {zstd : ZstdCodec} {validation : OcbOpenValidationMode}
  {limits : OcbResourceLimits} {rowGroup : OcbRowGroupDescV1}

/-- The chunks of a row group are found, and each column has one. -/
lemma exists_chunkOf (hfault : source.FaultFree)
    (h : openFromSource source zstd validation limits = .ok file)
    (hgroup : rowGroup ∈ file.metadata.rowGroupIndex.rowGroups) :
    ((file.metadata.chunksAt rowGroup).map OcbColumnChunkDescV1.columnId).Nodup ∧
      chunkByColumnForRowGroup file.metadata rowGroup =
        .ok ((file.metadata.chunksAt rowGroup).map fun chunk => (chunk.columnId, chunk)) ∧
      ∀ column ∈ file.columns, ∃ chunk ∈ file.metadata.chunksAt rowGroup,
        chunk.columnId = column.id ∧
        ((file.metadata.chunksAt rowGroup).map fun chunk => (chunk.columnId, chunk)).lookup
          column.id = some chunk ∧
        ChunkOf source zstd limits rowGroup column chunk := by
  have hopened := opened_of_openFromSource h
  have hgraph := graph_of_openFromSource h
  obtain ⟨c, hwalk, -⟩ := hgraph.rowGroups
  obtain ⟨chunks, hchunks, hnodup, hcover, hvalid⟩ := (hwalk.checked rowGroup hgroup).chunks
  have hfound : chunksForRowGroup file.metadata rowGroup.chunkDescBegin rowGroup.chunkDescCount =
      .ok chunks := hchunks
  rw [← chunksAt_of_found hfound]
  refine ⟨hnodup, ?_, fun column hcolumn => ?_⟩
  · rw [chunkByColumnForRowGroup, hfound, ok_bind, insertChunks_eq_ok (fun chunk hchunk => ?_)
      (by simpa using hnodup), List.nil_append]
    exact (chunkDescribes_of_validateChunkDesc (hvalid chunk hchunk)).choose_spec.2.rowGroupId
  · obtain ⟨desc, hdesc, hid, hresolved⟩ := hopened.exists_desc hcolumn
    obtain ⟨-, -, htype⟩ := resolveColumn_eq_ok hresolved
    obtain ⟨chunk, hchunk, hchunkId⟩ := List.mem_map.mp (hcover.2 _ (List.mem_map_of_mem hdesc))
    obtain ⟨found, hfoundDesc, hdescribes⟩ :=
      chunkDescribes_of_validateChunkDesc (hvalid chunk hchunk)
    obtain rfl : found = desc := List.inj_on_of_nodup_map hgraph.columnIds hfoundDesc hdesc
      (hdescribes.columnId.symm.trans hchunkId)
    obtain ⟨hnullable, -, -⟩ := of_validateChunkDesc (hvalid chunk hchunk)
    have hget : ColumnsById.get file.metadata.schema.columns chunk.columnId = some found := by
      rw [hdescribes.columnId]
      exact ColumnsById.get_eq_some hgraph.columnIds hdesc
    refine ⟨chunk, hchunk, hchunkId.trans hid,
      (lookup_map_eq_some hnodup).mpr ⟨hchunk, hchunkId.trans hid⟩,
      (hdescribes.physicalType.trans (ocbPhysicalType_of_desc htype).symm), hdescribes.rowCount,
      fun values hvalues => ?_, fun hnull => ?_, chunkPaths_agree hfault (hvalid chunk hchunk)⟩
    · obtain ⟨width, hwidth, hbytes⟩ := hdescribes.bytes
      rw [hbytes, byteWidth_of_desc htype hwidth hvalues]
    · exact (nullable_of_resolveColumn hresolved).mpr (hnullable found hget hnull)

variable {buffers : List ColumnBundleColumnFillBuffer}

/-- A buffer with the column that it names, the chunk of this column, and room for it. -/
structure ResolvedFor (file : ColumnBundleFile) (source : OcbReadSource) (zstd : ZstdCodec)
    (limits : OcbResourceLimits) (rowGroup : OcbRowGroupDescV1)
    (buffer : ColumnBundleColumnFillBuffer) (target : ResolvedColumnFill) : Prop where
  column : target.column ∈ file.columns
  names : buffer.Names target.column
  lookup : ((file.metadata.chunksAt rowGroup).map fun chunk => (chunk.columnId, chunk)).lookup
    target.column.id = some target.chunk
  chunk : ChunkOf source zstd limits rowGroup target.column target.chunk
  fits : buffer.Fits target.column target.chunk

/-- The buffers are resolved exactly when each names a column with room for its chunk, no column
twice. -/
lemma resolveFills_eq_ok (hfault : source.FaultFree)
    (h : openFromSource source zstd validation limits = .ok file)
    (hgroup : rowGroup ∈ file.metadata.rowGroupIndex.rowGroups) {seen : List UInt32}
    {targets : List ResolvedColumnFill} :
    resolveFills file.columns rowGroup
        ((file.metadata.chunksAt rowGroup).map fun chunk => (chunk.columnId, chunk)) buffers seen =
        .ok targets ↔
      List.Forall₂ (file.ResolvedFor source zstd limits rowGroup) buffers targets ∧
        (targets.map fun target => target.column.id).Nodup ∧
        ∀ target ∈ targets, target.column.id ∉ seen := by
  have hopened := opened_of_openFromSource h
  obtain ⟨-, -, hchunks⟩ := exists_chunkOf hfault h hgroup
  -- on the buffers; what has been seen grows with every buffer
  induction buffers generalizing seen targets with
  | nil =>
    rw [resolveFills, List.forall₂_nil_left_iff]
    constructor
    · rintro ⟨⟩
      simp
    · rintro ⟨rfl, -⟩
      rfl
  | cons buffer rest ih =>
    rw [resolveFills, List.forall₂_cons_left_iff]
    constructor
    · intro hresolve
      obtain ⟨resolved, hresolved, hresolve⟩ := bind_eq_ok.mp hresolve
      obtain ⟨column, hcolumn, hresolve⟩ := bind_eq_ok.mp hresolve
      obtain ⟨_, hseen, hresolve⟩ := bind_eq_ok.mp hresolve
      obtain ⟨target, htarget, hresolve⟩ := bind_eq_ok.mp hresolve
      obtain ⟨tail, htail, hresolve⟩ := bind_eq_ok.mp hresolve
      cases hresolve
      rw [okOr_eq_ok] at hcolumn
      subst hcolumn
      rw [failIf_eq_ok] at hseen
      obtain ⟨hmem, hnames⟩ := hopened.resolveFillColumn_eq_ok.mp hresolved
      obtain ⟨chunk, -, -, hlookup, hchunk⟩ := hchunks column hmem
      obtain ⟨hfits, rfl⟩ := (hchunk.resolveFill_eq_ok hlookup).mp htarget
      obtain ⟨hrest, hnodup, hfresh⟩ := ih.mp htail
      refine ⟨⟨_, tail, ⟨hmem, hnames, hlookup, hchunk, hfits⟩, hrest, rfl⟩, ?_, ?_⟩
      · refine List.nodup_cons.mpr ⟨fun hid => ?_, hnodup⟩
        obtain ⟨target, htarget, heq⟩ := List.mem_map.mp hid
        exact hfresh target htarget (by simp [heq])
      · exact List.forall_mem_cons.mpr
          ⟨hseen, fun target htarget hin => hfresh target htarget (List.mem_cons_of_mem _ hin)⟩
    · rintro ⟨⟨target, tail, hresolved, hrest, rfl⟩, hnodup, hfresh⟩
      obtain ⟨hid, hnodup⟩ := List.nodup_cons.mp hnodup
      have hunseen : ∀ other ∈ tail, other.column.id ∉ target.column.id :: seen := by
        intro other hother hin
        rcases List.mem_cons.mp hin with heq | hin
        · exact hid (List.mem_map.mpr ⟨other, hother, heq⟩)
        · exact hfresh other (List.mem_cons_of_mem _ hother) hin
      have htail := (@ih (target.column.id :: seen) tail).mpr ⟨hrest, hnodup, hunseen⟩
      rw [hopened.resolveFillColumn_eq_ok.mpr ⟨hresolved.column, hresolved.names⟩, ok_bind,
        okOr_some, ok_bind, failIf_neg (hfresh target (by simp)), ok_bind,
        (hresolved.chunk.resolveFill_eq_ok hresolved.lookup).mpr ⟨hresolved.fits, rfl⟩, ok_bind,
        htail]
      rfl

/-- A fill read of a row group is accepted: the buffers name distinct columns and have room for
them, and the bytes of these columns are within the limits. -/
structure AcceptsFill (file : ColumnBundleFile) (rowGroupId : UInt32) (rowGroup : OcbRowGroupDescV1)
    (buffers : List ColumnBundleColumnFillBuffer) (columns : List BundleColumn) : Prop where
  found : file.metadata.rowGroupById rowGroupId = some rowGroup
  buffers : List.Forall₂ (fun buffer column => column ∈ file.columns ∧ buffer.Names column ∧
    ∀ chunk ∈ file.metadata.chunksAt rowGroup, chunk.columnId = column.id →
      buffer.Fits column chunk) buffers columns
  distinct : (columns.map BundleColumn.id).Nodup
  admitted : admitFill file.metadata rowGroup (columns.map BundleColumn.id) = .ok ()

section Prepare

variable (hfault : source.FaultFree) (h : openFromSource source zstd validation limits = .ok file)
  {rowGroupId : UInt32} {targets : List ResolvedColumnFill}

include hfault h

/-- The buffers of resolved targets name their columns and have room for them. -/
lemma named_of_resolveFills (hgroup : rowGroup ∈ file.metadata.rowGroupIndex.rowGroups)
    (hresolved : resolveFills file.columns rowGroup
      ((file.metadata.chunksAt rowGroup).map fun chunk => (chunk.columnId, chunk)) buffers [] =
        .ok targets) :
    List.Forall₂ (file.ResolvedFor source zstd limits rowGroup) buffers targets ∧
      List.Forall₂ (fun buffer column => column ∈ file.columns ∧ buffer.Names column ∧
        ∀ chunk ∈ file.metadata.chunksAt rowGroup, chunk.columnId = column.id →
          buffer.Fits column chunk) buffers (targets.map ResolvedColumnFill.column) ∧
      ((targets.map ResolvedColumnFill.column).map BundleColumn.id).Nodup := by
  obtain ⟨hnodupChunks, -, hchunkOf⟩ := exists_chunkOf hfault h hgroup
  obtain ⟨hall, hnodup, -⟩ := (resolveFills_eq_ok hfault h hgroup).mp hresolved
  refine ⟨hall, List.forall₂_map_right_iff.mpr (hall.imp fun buffer target htarget => ?_),
    by rwa [List.map_map]⟩
  refine ⟨htarget.column, htarget.names, fun chunk hchunk hid => ?_⟩
  -- the chunk of the column is the resolved one
  obtain ⟨chunk', hchunk', hid', hlookup, -⟩ := hchunkOf target.column htarget.column
  obtain rfl : chunk' = target.chunk := Option.some.inj (hlookup.symm.trans htarget.lookup)
  obtain rfl : chunk = target.chunk :=
    eq_of_nodup_map hnodupChunks hchunk hchunk' (hid.trans hid'.symm)
  exact htarget.fits

/-- The preparation returns the targets of an accepted fill. -/
lemma accepts_of_prepareFill
    (hprepare : prepareFill file.metadata file.columns rowGroupId buffers =
      .ok (rowGroup, targets)) :
    file.AcceptsFill rowGroupId rowGroup buffers (targets.map ResolvedColumnFill.column) ∧
      List.Forall₂ (file.ResolvedFor source zstd limits rowGroup) buffers targets := by
  have hopened := opened_of_openFromSource h
  obtain ⟨_, -, hprepare⟩ := bind_eq_ok.mp hprepare
  obtain ⟨found, hfound, hprepare⟩ := bind_eq_ok.mp hprepare
  obtain ⟨chunkByColumn, hchunks, hprepare⟩ := bind_eq_ok.mp hprepare
  obtain ⟨resolved, hresolved, hprepare⟩ := bind_eq_ok.mp hprepare
  obtain ⟨_, hadmitted, hprepare⟩ := bind_eq_ok.mp hprepare
  cases hprepare
  rw [okOr_eq_ok] at hfound
  have hgroup := ((hopened.invariant.rowGroupById _ _).mp hfound).1
  obtain ⟨-, hmap, -⟩ := exists_chunkOf hfault h hgroup
  obtain rfl := Except.ok.inj (hchunks.symm.trans hmap)
  obtain ⟨hall, hbuffers, hnodup⟩ := named_of_resolveFills hfault h hgroup hresolved
  exact ⟨⟨hfound, hbuffers, hnodup, by rwa [List.map_map]⟩, hall⟩

/-- An accepted fill is prepared. -/
lemma AcceptsFill.exists_prepared {columns : List BundleColumn} (hbuffers : buffers ≠ [])
    (haccepts : file.AcceptsFill rowGroupId rowGroup buffers columns) :
    ∃ targets, targets.map ResolvedColumnFill.column = columns ∧
      prepareFill file.metadata file.columns rowGroupId buffers = .ok (rowGroup, targets) := by
  have hopened := opened_of_openFromSource h
  have hgroup := ((hopened.invariant.rowGroupById _ _).mp haccepts.found).1
  obtain ⟨-, hmap, hchunkOf⟩ := exists_chunkOf hfault h hgroup
  have hresolved : ∃ targets, targets.map ResolvedColumnFill.column = columns ∧
      List.Forall₂ (file.ResolvedFor source zstd limits rowGroup) buffers targets := by
    have hall := haccepts.buffers
    clear haccepts hbuffers
    induction hall with
    | nil => exact ⟨[], rfl, .nil⟩
    | @cons buffer column _ _ hbuffer _ ih =>
      obtain ⟨targets, rfl, htargets⟩ := ih
      obtain ⟨hcolumn, hnames, hfits⟩ := hbuffer
      obtain ⟨chunk, hchunk, hid, hlookup, hof⟩ := hchunkOf column hcolumn
      exact ⟨⟨column, chunk⟩ :: targets, rfl,
        .cons ⟨hcolumn, hnames, hlookup, hof, hfits chunk hchunk hid⟩ htargets⟩
  obtain ⟨targets, rfl, htargets⟩ := hresolved
  have hdistinct := haccepts.distinct
  have hadmitted := haccepts.admitted
  rw [List.map_map] at hdistinct hadmitted
  refine ⟨targets, rfl, ?_⟩
  rw [prepareFill, failIf_neg hbuffers, ok_bind, haccepts.found, okOr_some, ok_bind, hmap, ok_bind,
    (resolveFills_eq_ok hfault h hgroup).mpr ⟨htargets, hdistinct, by simp⟩, ok_bind]
  exact bind_eq_ok.mpr ⟨(), hadmitted, rfl⟩

end Prepare

/-- The owned read of resolved targets reads the column of each of them. -/
lemma readRowGroup_targets (hfault : source.FaultFree)
    (h : openFromSource source zstd validation limits = .ok file) {rowGroupId : UInt32}
    (hfound : file.metadata.rowGroupById rowGroupId = some rowGroup)
    {targets : List ResolvedColumnFill}
    (htargets : List.Forall₂ (file.ResolvedFor source zstd limits rowGroup) buffers targets) :
    readRowGroup source zstd file.metadata file.columns rowGroupId
        ((targets.map ResolvedColumnFill.column).map BundleColumn.id) =
      (⟨rowGroup.rowGroupId, rowGroup.baseRow, rowGroup.rowCount, ·⟩) <$> targets.mapM fun target =>
        readColumnArray source zstd file.metadata target.column target.chunk rowGroup.rowCount := by
  have hopened := opened_of_openFromSource h
  obtain ⟨-, hmap, -⟩ := exists_chunkOf hfault h ((hopened.invariant.rowGroupById _ _).mp hfound).1
  have hcolumns : (targets.map ResolvedColumnFill.column).map BundleColumn.id =
      targets.map fun target => target.column.id := List.map_map
  rw [readRowGroup, hfound, okOr_some, ok_bind, hmap, ok_bind, hcolumns, List.mapM_map]
  have hread : targets.mapM (fun target => readSelectedColumn source zstd file.metadata file.columns
      ((file.metadata.chunksAt rowGroup).map fun chunk => (chunk.columnId, chunk)) rowGroup.rowCount
        target.column.id) = targets.mapM fun target =>
      readColumnArray source zstd file.metadata target.column target.chunk rowGroup.rowCount := by
    refine mapM_congr_left fun target htarget => ?_
    obtain ⟨buffer, -, hresolved⟩ := exists_of_forall₂ htargets htarget
    have hfind : (file.columns.find? fun column => column.id = target.column.id) =
        some target.column :=
      (find?_eq_some_of_nodup hopened.nodup_columnIds).mpr ⟨hresolved.column, rfl⟩
    rw [readSelectedColumn, hfind, okOr_some, ok_bind, hresolved.lookup, okOr_some, ok_bind]
  rw [map_eq_pure_bind, ← hread]
  rfl

/-- The report of a fill of the columns of a batch. -/
def fillReport (batch : ColumnBatch) : ColumnBundleReadFillReport where
  rowGroupId := batch.rowGroupId
  baseRow := batch.baseRow
  rowCount := batch.rowCount
  columns := batch.columns.map fun array =>
    ⟨array.columnId, batch.rowCount.toNat, array.validity.isSome⟩

section Fill

variable {m : OcbMetadataV1} {targets : List ResolvedColumnFill}

lemma columnId_of_readColumnArray {column : BundleColumn} {chunk : OcbColumnChunkDescV1}
    {rowCount : UInt64} {array : ColumnArray}
    (h : readColumnArray source zstd m column chunk rowCount = .ok array) :
    array.columnId = column.id := by
  obtain ⟨_, -, h⟩ := bind_eq_ok.mp h
  obtain ⟨_, -, h⟩ := bind_eq_ok.mp h
  obtain ⟨_, -, h⟩ := bind_eq_ok.mp h
  obtain ⟨_, -, h⟩ := bind_eq_ok.mp h
  obtain ⟨_, -, h⟩ := bind_eq_ok.mp h
  obtain ⟨_, -, h⟩ := bind_eq_ok.mp h
  cases h
  rfl

/-- The buffers are filled exactly when the columns are read, each with its column. -/
lemma run_fillTargets_eq_ok (hlimits : file.metadata.resourceLimits = limits)
    (htargets : List.Forall₂ (file.ResolvedFor source zstd limits rowGroup) buffers targets)
    {reports : List ColumnBundleColumnFillReport} {after : List ColumnBundleColumnFillBuffer} :
    (fillTargets source zstd file.metadata rowGroup.rowCount.toNat targets).run buffers =
        (.ok reports, after) ↔
      ∃ arrays, (targets.mapM fun target => readColumnArray source zstd file.metadata target.column
          target.chunk rowGroup.rowCount) = .ok arrays ∧
        reports = arrays.map (fun array =>
          ⟨array.columnId, rowGroup.rowCount.toNat, array.validity.isSome⟩) ∧
        after = List.zipWith ColumnBundleColumnFillBuffer.filled buffers arrays := by
  change Fallible.onEach _ _ = _ ↔ _
  induction htargets generalizing reports after with
  | nil =>
    constructor
    · intro h
      cases h
      exact ⟨[], rfl, rfl, rfl⟩
    · rintro ⟨arrays, harrays, rfl, rfl⟩
      cases harrays
      rfl
  | @cons buffer target buffers targets hresolved _ ih =>
    rw [List.zip_cons_cons, Fallible.onEach_cons_eq_ok, List.mapM_cons]
    have hfill := fun report after => @ChunkOf.run_fillColumnBuffer source zstd file.metadata limits
      rowGroup target.column target.chunk buffer hresolved.chunk hlimits hresolved.fits report after
    constructor
    · rintro ⟨report, filled, reports, rest, hrun, hrest, rfl, rfl⟩
      obtain ⟨array, harray, rfl, rfl⟩ := (hfill _ _).mp hrun
      obtain ⟨arrays, harrays, rfl, rfl⟩ := ih.mp hrest
      refine ⟨array :: arrays, ?_, ?_, rfl⟩
      · rw [harray, ok_bind, harrays]
        rfl
      · rw [List.map_cons, columnId_of_readColumnArray harray]
    · rintro ⟨_, harrays, rfl, rfl⟩
      obtain ⟨array, harray, harrays⟩ := bind_eq_ok.mp harrays
      obtain ⟨arrays, hrest, harrays⟩ := bind_eq_ok.mp harrays
      cases harrays
      refine ⟨_, _, _, _, (hfill _ _).mpr ⟨array, harray, rfl, rfl⟩,
        ih.mpr ⟨arrays, hrest, rfl, rfl⟩, ?_, rfl⟩
      rw [List.map_cons, columnId_of_readColumnArray harray]

/-- The buffers that are filled hold their columns. -/
lemma forall₂_filledWith (hlimits : file.metadata.resourceLimits = limits)
    (htargets : List.Forall₂ (file.ResolvedFor source zstd limits rowGroup) buffers targets)
    {arrays : List ColumnArray}
    (harrays : (targets.mapM fun target => readColumnArray source zstd file.metadata target.column
      target.chunk rowGroup.rowCount) = .ok arrays) :
    List.Forall₂ (fun change array =>
        change.1.FilledWith change.2 rowGroup.rowCount.toNat array)
      (buffers.zip (List.zipWith ColumnBundleColumnFillBuffer.filled buffers arrays)) arrays := by
  induction htargets generalizing arrays with
  | nil =>
    cases harrays
    exact .nil
  | @cons buffer target buffers targets hresolved _ ih =>
    obtain ⟨array, rest, harray, hrest, rfl⟩ :=
      List.forall₂_cons_left_iff.mp (mapM_eq_ok.mp harrays)
    exact .cons (hresolved.chunk.filledWith hlimits hresolved.fits harray)
      (ih (mapM_eq_ok.mpr hrest))

end Fill

end Opened

section Run

variable {source : OcbReadSource} {zstd : ZstdCodec} {m : OcbMetadataV1}
  {columns : List BundleColumn} {rowGroupId : UInt32} {rowGroup : OcbRowGroupDescV1}
  {buffers : List ColumnBundleColumnFillBuffer}

/-- Nothing is filled before the preparation succeeds. -/
lemma run_of_prepareFill_error {e : ArcadiaTioError}
    (hprepare : prepareFill m columns rowGroupId buffers = .error e) :
    (Ocb.readRowGroupInto source zstd m columns rowGroupId).run buffers = (.error e, buffers) := by
  rw [Ocb.readRowGroupInto, Fallible.run_bind_of_ok Fallible.run_getState, hprepare]
  rfl

/-- A prepared fill read fills the targets. -/
lemma run_of_prepareFill_ok {targets : List ResolvedColumnFill}
    (hprepare : prepareFill m columns rowGroupId buffers = .ok (rowGroup, targets)) :
    (Ocb.readRowGroupInto source zstd m columns rowGroupId).run buffers =
      (fillTargets source zstd m rowGroup.rowCount.toNat targets >>= fun reports =>
        pure ⟨rowGroup.rowGroupId, rowGroup.baseRow, rowGroup.rowCount, reports⟩).run buffers := by
  rw [Ocb.readRowGroupInto, Fallible.run_bind_of_ok Fallible.run_getState, hprepare,
    Fallible.lift_ok_bind]

end Run

section FillRead

variable {source : OcbReadSource} {zstd : ZstdCodec} {validation : OcbOpenValidationMode}
  {limits : OcbResourceLimits} {buffers : List ColumnBundleColumnFillBuffer} {rowGroupId : UInt32}
  {options : ColumnBundleReadFillOptions}

/-- A fill read of an opened file is the fill read of its metadata; checksums are always
validated. -/
lemma run_readRowGroupInto :
    (options.validateChecksums = true ∧ (file.readRowGroupInto zstd rowGroupId options).run buffers =
      (Ocb.readRowGroupInto file.source zstd file.metadata file.columns rowGroupId).run buffers) ∨
    options.validateChecksums = false ∧ ∃ e,
      (file.readRowGroupInto zstd rowGroupId options).run buffers = (.error e, buffers) := by
  rw [ColumnBundleFile.readRowGroupInto, validateReadFillOptions]
  rcases hoptions : options.validateChecksums with _ | _
  · right
    rw [failIf_pos rfl]
    exact ⟨rfl, _, rfl⟩
  · left
    rw [failIf_neg (by simp), Fallible.lift_ok_bind]
    exact ⟨rfl, rfl⟩

variable (hfault : source.FaultFree) (h : openFromSource source zstd validation limits = .ok file)
  (hbuffers : buffers ≠ [])

include hfault h hbuffers

/-- A fill read succeeds exactly when it is accepted and the columns are read, and leaves these over
the beginnings of the buffers. -/
theorem run_readRowGroupInto_eq_ok {report : ColumnBundleReadFillReport}
    {after : List ColumnBundleColumnFillBuffer} :
    (Ocb.readRowGroupInto source zstd file.metadata file.columns rowGroupId).run buffers =
        (.ok report, after) ↔
      ∃ rowGroup columns batch, file.AcceptsFill rowGroupId rowGroup buffers columns ∧
        readRowGroup source zstd file.metadata file.columns rowGroupId
          (columns.map BundleColumn.id) = .ok batch ∧
        report = fillReport batch ∧
        after = List.zipWith ColumnBundleColumnFillBuffer.filled buffers batch.columns := by
  have hlimits := (graph_of_openFromSource h).resourceLimits_eq
  constructor
  · intro hrun
    rcases hprepare : prepareFill file.metadata file.columns rowGroupId buffers with
      e | ⟨rowGroup, targets⟩
    · rw [run_of_prepareFill_error hprepare] at hrun
      cases hrun
    · rw [run_of_prepareFill_ok hprepare] at hrun
      obtain ⟨haccepts, htargets⟩ := accepts_of_prepareFill hfault h hprepare
      obtain ⟨reports, filled, heach, hrun⟩ := Fallible.run_bind_eq_ok.mp hrun
      cases hrun
      obtain ⟨arrays, harrays, rfl, rfl⟩ := (run_fillTargets_eq_ok hlimits htargets).mp heach
      refine ⟨rowGroup, _, ⟨rowGroup.rowGroupId, rowGroup.baseRow, rowGroup.rowCount, arrays⟩,
        haccepts, ?_, rfl, rfl⟩
      rw [readRowGroup_targets hfault h haccepts.found htargets, harrays]
      rfl
  · rintro ⟨rowGroup, columns, batch, haccepts, hbatch, rfl, rfl⟩
    obtain ⟨targets, rfl, hprepare⟩ := haccepts.exists_prepared hfault h hbuffers
    obtain ⟨-, htargets⟩ := accepts_of_prepareFill hfault h hprepare
    rw [readRowGroup_targets hfault h haccepts.found htargets] at hbatch
    obtain ⟨arrays, harrays, rfl⟩ := map_eq_ok.mp hbatch
    rw [run_of_prepareFill_ok hprepare]
    exact Fallible.run_bind_eq_ok.mpr ⟨_, _,
      (run_fillTargets_eq_ok hlimits htargets).mpr ⟨arrays, harrays, rfl, rfl⟩, rfl⟩

/-- Fill reads are owned reads.  A fill read succeeds exactly when it is accepted and the owned
read of the same columns succeeds; then the first rows of each buffer are those of its column, and
what is behind them is unchanged.  A fill read that is not accepted leaves the buffers as they
were. -/
theorem readRowGroupInto_spec :
    (IsOk ((file.readRowGroupInto zstd rowGroupId options).run buffers).1 ↔
      options.validateChecksums = true ∧
        ∃ rowGroup columns, file.AcceptsFill rowGroupId rowGroup buffers columns ∧
          IsOk (readRowGroup source zstd file.metadata file.columns rowGroupId
            (columns.map BundleColumn.id))) ∧
    (∀ report after,
      (file.readRowGroupInto zstd rowGroupId options).run buffers = (.ok report, after) →
      ∃ rowGroup columns batch, file.AcceptsFill rowGroupId rowGroup buffers columns ∧
        readRowGroup source zstd file.metadata file.columns rowGroupId
          (columns.map BundleColumn.id) = .ok batch ∧
        report = fillReport batch ∧ after.length = buffers.length ∧
        List.Forall₂ (fun change array =>
            change.1.FilledWith change.2 rowGroup.rowCount.toNat array)
          (buffers.zip after) batch.columns) ∧
    ((¬ ∃ rowGroup columns, file.AcceptsFill rowGroupId rowGroup buffers columns) →
      ∃ e, (file.readRowGroupInto zstd rowGroupId options).run buffers = (.error e, buffers)) := by
  have hsource := source_of_openFromSource h
  rcases @run_readRowGroupInto file zstd buffers rowGroupId options with
    ⟨hoptions, hrun⟩ | ⟨hoptions, e, hrun⟩
  · rw [hrun, hsource]
    refine ⟨⟨fun hok => ?_, ?_⟩, fun report after hrun => ?_, fun hrejected => ?_⟩
    · obtain ⟨report, hreport⟩ := hok
      obtain ⟨rowGroup, columns, batch, haccepts, hbatch, -⟩ :=
        (run_readRowGroupInto_eq_ok hfault h hbuffers).mp (Prod.ext hreport rfl)
      exact ⟨hoptions, rowGroup, columns, haccepts, batch, hbatch⟩
    · rintro ⟨-, rowGroup, columns, haccepts, batch, hbatch⟩
      exact ⟨_, congrArg Prod.fst ((run_readRowGroupInto_eq_ok hfault h hbuffers).mpr
        ⟨rowGroup, columns, batch, haccepts, hbatch, rfl, rfl⟩)⟩
    · obtain ⟨rowGroup, columns, batch, haccepts, hbatch, rfl, rfl⟩ :=
        (run_readRowGroupInto_eq_ok hfault h hbuffers).mp hrun
      obtain ⟨targets, rfl, hprepare⟩ := haccepts.exists_prepared hfault h hbuffers
      obtain ⟨-, htargets⟩ := accepts_of_prepareFill hfault h hprepare
      have hread := hbatch
      rw [readRowGroup_targets hfault h haccepts.found htargets] at hread
      obtain ⟨arrays, harrays, rfl⟩ := map_eq_ok.mp hread
      refine ⟨rowGroup, _, _, haccepts, hbatch, rfl, ?_,
        forall₂_filledWith (graph_of_openFromSource h).resourceLimits_eq htargets harrays⟩
      rw [List.length_zipWith, ← (mapM_eq_ok.mp harrays).length_eq, ← htargets.length_eq, min_self]
    · rcases hprepare : prepareFill file.metadata file.columns rowGroupId buffers with
        e | ⟨rowGroup, targets⟩
      · exact ⟨e, run_of_prepareFill_error hprepare⟩
      · exact absurd ⟨rowGroup, _, (accepts_of_prepareFill hfault h hprepare).1⟩ hrejected
  · -- other options are refused
    rw [hrun]
    refine ⟨⟨?_, ?_⟩, fun report after hok => ?_, fun _ => ⟨e, rfl⟩⟩
    · rintro ⟨report, ⟨⟩⟩
    · rintro ⟨htrue, -⟩
      rw [hoptions] at htrue
      cases htrue
    · cases hok

end FillRead

end ColumnBundleFile

/-! ### The small file -/

namespace Sample

variable {codes : OcbPhysicalTypeV1} {zstd : ZstdCodec}
  {cRoot cSchema cStrings cDictionaries cIndex : UInt32}

lemma readAndDecode_chunk : readAndDecodeChunk (file codes) zstd chunk .policyA =
    .ok [7, 0, 0, 0] := by
  have hbytes : (file codes).readObjectBytesWithResourceLimits chunk.valueRef .columnChunk
      .policyA = .ok (sealBytes chunkObject.fieldBytes) :=
    OcbReadSource.readObjectBytes_part _ (parts_lengths codes) 5 rfl rfl rfl rfl (by decide)
      (by decide)
  have hobject : readColumnChunkFromReaderWithResourceLimits (file codes) chunk .policyA =
      .ok { chunkObject with crc32c := crc32c chunkObject.fieldBytes } := by
    rw [readColumnChunkFromReaderWithResourceLimits, read_header, ok_bind, hbytes, ok_bind]
    exact chunkObject.readFromBytes_sealBytes rfl rfl fun h => absurd rfl h.2
  rw [readAndDecodeChunk, hobject, ok_bind]
  generalize crc32c chunkObject.fieldBytes = c
  rfl

lemma readValidityBitmap_chunk :
    readValidityBitmap (file codes) (opened codes cRoot cSchema cStrings cDictionaries cIndex)
      chunk = .ok (some ⟨1, [1]⟩) := by
  have hbytes : (file codes).readObjectBytesWithResourceLimits chunk.validityRef .validityBitmap
      .policyA = .ok [1] :=
    OcbReadSource.readObjectBytes_part _ (parts_lengths codes) 6 rfl rfl rfl rfl (by decide)
      (by decide)
  rw [readValidityBitmap, if_neg (by decide)]
  exact (congrArg (· >>= _) hbytes).trans rfl

/-- The column of the small file, with its value and its bit. -/
def array : ColumnArray where
  columnId := 0
  name := resolvedColumn.name
  physicalType := .i32
  logicalKind := .plain
  dictionaryId := none
  values := .i32 [7]
  validity := some ⟨1, [1]⟩

lemma readRowGroup_column :
    readRowGroup (file codes) zstd (opened codes cRoot cSchema cStrings cDictionaries cIndex)
      [resolvedColumn] 0 [0] = .ok ⟨0, 0, 1, [array]⟩ := by
  have hpayload : readChunkPayload (file codes) zstd
      (opened codes cRoot cSchema cStrings cDictionaries cIndex) resolvedColumn chunk =
        .ok [7, 0, 0, 0] := readAndDecode_chunk
  have harray : readColumnArray (file codes) zstd
      (opened codes cRoot cSchema cStrings cDictionaries cIndex) resolvedColumn chunk 1 =
        .ok array := by
    rw [readColumnArray, failIf_neg (by decide), ok_bind, failIf_neg (by decide), ok_bind,
      failIf_neg (by decide), ok_bind, hpayload, ok_bind, readValidityBitmap_chunk, ok_bind]
    rfl
  have hfind : ([resolvedColumn].find? fun column => column.id = 0) = some resolvedColumn := rfl
  have hlookup : ([(0, chunk)] : List (UInt32 × OcbColumnChunkDescV1)).lookup 0 = some chunk := rfl
  have hfound : (opened codes cRoot cSchema cStrings cDictionaries cIndex).rowGroupById 0 =
      some rowGroup := rfl
  have hchunks : chunkByColumnForRowGroup
      (opened codes cRoot cSchema cStrings cDictionaries cIndex) rowGroup =
        .ok [(0, chunk)] := rfl
  have hrows : rowGroup.rowCount = 1 := rfl
  have hcolumn : readSelectedColumn (file codes) zstd
      (opened codes cRoot cSchema cStrings cDictionaries cIndex) [resolvedColumn] [(0, chunk)] 1 0 =
        .ok array := by
    rw [readSelectedColumn, hfind, okOr_some, ok_bind, hlookup, okOr_some, ok_bind, harray]
  rw [readRowGroup, hfound, okOr_some, ok_bind, hchunks, ok_bind, hrows,
    mapM_eq_ok.mpr (.cons hcolumn .nil)]
  rfl

/-- A buffer for the column of the small file. -/
def fillBuffer (allowNulls : Bool) : ColumnBundleColumnFillBuffer :=
  ⟨none, some 0, .i32 [1, 2], some [255, 255], allowNulls⟩

lemma acceptsFill : (openedFile codes cRoot cSchema cStrings cDictionaries cIndex).AcceptsFill 0
    rowGroup [fillBuffer true] [resolvedColumn] := by
  have hnames : (fillBuffer true).Names resolvedColumn := by
    refine ⟨fun name hname => ?_, fun id hid => ?_, .inr (Option.some_ne_none 0)⟩
    · cases hname
    · exact Option.some.inj hid
  refine ⟨rfl, .cons ⟨List.mem_singleton_self _, hnames, fun c hc _ => ?_⟩ .nil,
    List.nodup_singleton _, rfl⟩
  obtain rfl : c = chunk := List.mem_singleton.mp hc
  exact ⟨rfl, show 1 ≤ 2 by decide, fun _ => rfl, fun _ => ⟨_, rfl, by decide⟩⟩

end Sample

open ColumnBundleFile

/-- A buffer with room for the values and the bits of the small file is filled. -/
theorem readRowGroupInto_spec_sample : ∃ file,
    ColumnBundleFile.openFromSource (Sample.file .i32) (fun _ _ => ⟨[], true⟩) .metadataGraph
      .policyA = .ok file ∧
    IsOk ((file.readRowGroupInto (fun _ _ => ⟨[], true⟩) 0 ⟨true⟩).run
      [Sample.fillBuffer true]).1 := by
  obtain ⟨cRoot, cSchema, cStrings, cDictionaries, cIndex, hopen⟩ :=
    Sample.openFromSource .i32 fun _ _ => ⟨[], true⟩
  refine ⟨_, hopen, (readRowGroupInto_spec (OcbReadSource.faultFree_ofBytes _ _) hopen
    (List.cons_ne_nil _ _)).1.mpr ⟨rfl, Sample.rowGroup, [Sample.resolvedColumn],
      Sample.acceptsFill, _, Sample.readRowGroup_column⟩⟩

/-- A buffer with room for the bits is refused when it does not accept nulls. -/
theorem readRowGroupInto_refuses_nulls : ∃ source zstd validation limits file,
    source.FaultFree ∧ openFromSource source zstd validation limits = .ok file ∧
    file.metadata.rowGroupById 0 = some Sample.rowGroup ∧
    ∃ buffer column, column ∈ file.columns ∧ buffer.Names column ∧
      (∀ chunk ∈ file.metadata.chunksAt Sample.rowGroup, chunk.columnId = column.id →
        { buffer with allowNulls := true }.Fits column chunk) ∧
      IsOk (readRowGroup source zstd file.metadata file.columns 0 [column.id]) ∧
      (file.readRowGroupInto zstd 0 ⟨true⟩).run [buffer] = (.error (ocbInvalidInput
        "OCB fill buffer rejected nullable column chunk"), [buffer]) := by
  obtain ⟨cRoot, cSchema, cStrings, cDictionaries, cIndex, hopen⟩ :=
    Sample.openFromSource .i32 fun _ _ => ⟨[], true⟩
  obtain ⟨hcolumn, hnames, hfits⟩ := (List.forall₂_cons.mp (@Sample.acceptsFill .i32 cRoot cSchema
    cStrings cDictionaries cIndex).buffers).1
  exact ⟨_, _, _, _, _, OcbReadSource.faultFree_ofBytes _ _, hopen, rfl, Sample.fillBuffer false,
    Sample.resolvedColumn, hcolumn, ⟨hnames.byName, hnames.byId, hnames.identified⟩, hfits,
    ⟨_, Sample.readRowGroup_column⟩, rfl⟩

end ArcadiaTio.Ocb
