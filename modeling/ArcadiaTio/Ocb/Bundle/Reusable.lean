import ArcadiaTio.Ocb.Bundle.Fill

/-!
# Reading into reused buffers

A row group is read into buffers that still hold an earlier one: they are resized, filled, and seen
by way of a view of the rows that were filled.  Whatever was stored in the buffers, the view is the
batch that an owned read returns (`view_readRowGroupIntoReusable`).
-/

namespace ArcadiaTio.Ocb

open ArcadiaTio.Lib

/-! ### Reusable storage -/

/-- Truncate a vector, or extend it with copies of a value. -/
def resizeVec {α : Type} (values : List α) (len : ℕ) (value : α) : List α :=
  values.take len ++ List.replicate (len - values.length) value

@[simp] lemma length_resizeVec {α : Type} (values : List α) (len : ℕ) (value : α) :
    (resizeVec values len value).length = len := by
  rw [resizeVec, List.length_append, List.length_take, List.length_replicate]
  omega

namespace PrimitiveColumnValues

/-- Empty storage of a physical type. -/
def new : ColumnPhysicalType → PrimitiveColumnValues
  | .i32 => .i32 []
  | .i64 => .i64 []
  | .f32 => .f32 []
  | .f64 => .f64 []
  | .fixedBinary width => .fixedBinary width []

/-- The storage with exactly the size for some rows. -/
def resizeForRows (rowCount : ℕ) : PrimitiveColumnValues → Result PrimitiveColumnValues
  | i32 values => .ok (i32 (resizeVec values rowCount 0))
  | i64 values => .ok (i64 (resizeVec values rowCount 0))
  | f32 bits => .ok (f32 (resizeVec bits rowCount 0))
  | f64 bits => .ok (f64 (resizeVec bits rowCount 0))
  | fixedBinary width bytes => do
    failIf (width = 0) (ocbInvalidInput "OCB reusable fixed-binary buffer requires width > 0")
    let byteCount ← okOr (checkedMul 64 rowCount width.toNat)
      (ocbInvalidInput "OCB reusable fixed-binary byte count overflows")
    return fixedBinary width (resizeVec bytes byteCount 0)

/-- The first elements of a vector, when it has so many. -/
def getPrefix {α : Type} (values : List α) (rows : ℕ) (message : String) : Result (List α) := do
  failIf (values.length < rows) (ocbInvalidInput message)
  return values.take rows

/-- The first rows of the storage. -/
def asRefValues (rows : ℕ) : PrimitiveColumnValues → Result PrimitiveColumnValues
  | i32 values => i32 <$> getPrefix values rows "OCB reusable i32 buffer is too small for filled rows"
  | i64 values => i64 <$> getPrefix values rows "OCB reusable i64 buffer is too small for filled rows"
  | f32 bits => f32 <$> getPrefix bits rows "OCB reusable f32 buffer is too small for filled rows"
  | f64 bits => f64 <$> getPrefix bits rows "OCB reusable f64 buffer is too small for filled rows"
  | fixedBinary width bytes => do
    failIf (width = 0) (ocbInvalidInput "OCB reusable fixed-binary buffer requires width > 0")
    let byteCount ← okOr (checkedMul 64 rows width.toNat)
      (ocbInvalidInput "OCB reusable fixed-binary byte count overflows")
    fixedBinary width <$> getPrefix bytes byteCount
      "OCB reusable fixed-binary buffer is too small for filled rows"

end PrimitiveColumnValues

/-- A borrowed column has what an owned one has. -/
abbrev ColumnBundleReusableColumnView := ColumnArray

/-- One reusable column buffer; the values are those of an earlier row group until they are
overwritten. -/
structure ColumnBundleReusableColumnBuffer where
  columnId : UInt32
  name : Text
  physicalType : ColumnPhysicalType
  logicalKind : ColumnLogicalKind
  dictionaryId : Option UInt32
  nullable : Bool
  values : PrimitiveColumnValues
  validityBytes : List UInt8
  allowNulls : Bool
deriving DecidableEq

namespace ColumnBundleReusableColumnBuffer

variable (buffer : ColumnBundleReusableColumnBuffer)

/-- A buffer for a column. -/
def forColumn (column : BundleColumn) (rowCapacity : ℕ) (allowNulls : Bool) :
    Result ColumnBundleReusableColumnBuffer := do
  let values ← (PrimitiveColumnValues.new column.physicalType).resizeForRows rowCapacity
  return {
    columnId := column.id, name := column.name, physicalType := column.physicalType
    logicalKind := column.logicalKind, dictionaryId := column.dictionaryId
    nullable := column.nullable, values
    validityBytes := List.replicate (if allowNulls then validityBitmapLen rowCapacity else 0) 0
    allowNulls }

/-- Resize the buffers for the rows of the next row group. -/
def prepareForRows (rowCount : ℕ) : Result ColumnBundleReusableColumnBuffer := do
  let values ← buffer.values.resizeForRows rowCount
  return { buffer with
    values
    validityBytes := if buffer.allowNulls then
      resizeVec buffer.validityBytes (validityBitmapLen rowCount) 0 else [] }

/-- The buffer as the target of a fill. -/
def asFillBuffer : ColumnBundleColumnFillBuffer where
  columnName := some buffer.name
  columnId := some buffer.columnId
  values := buffer.values
  validityBytes := if buffer.allowNulls then some buffer.validityBytes else none
  allowNulls := buffer.allowNulls

/-- The buffer after its storage was written by way of a fill buffer. -/
def written (filled : ColumnBundleColumnFillBuffer) : ColumnBundleReusableColumnBuffer :=
  { buffer with
    values := filled.values
    validityBytes := filled.validityBytes.getD buffer.validityBytes }

/-- The validity bits that a view shows. -/
def viewValidity (report : ColumnBundleColumnFillReport) : Result (Option ValidityBitmap) :=
  if report.validityFilled then do
    let bytes ← PrimitiveColumnValues.getPrefix buffer.validityBytes
      (validityBitmapLen report.rowsFilled)
      "OCB reusable validity buffer is too small for filled rows"
    return some { rowCount := report.rowsFilled.toUInt64, bytes }
  else .ok none

/-- What the visitor is shown of the buffer after a fill. -/
def view (report : ColumnBundleColumnFillReport) : Result ColumnBundleReusableColumnView := do
  failIf (report.columnId ≠ buffer.columnId)
    (ocbCorruptFile "OCB reusable column report does not match buffer column")
  let values ← buffer.values.asRefValues report.rowsFilled
  let validity ← buffer.viewValidity report
  return {
    columnId := buffer.columnId, name := buffer.name, physicalType := buffer.physicalType
    logicalKind := buffer.logicalKind, dictionaryId := buffer.dictionaryId, values, validity }

variable {buffer}

lemma view_eq_ok {report : ColumnBundleColumnFillReport} {values : PrimitiveColumnValues}
    {validity : Option ValidityBitmap} (hid : report.columnId = buffer.columnId)
    (hvalues : buffer.values.asRefValues report.rowsFilled = .ok values)
    (hvalidity : buffer.viewValidity report = .ok validity) :
    buffer.view report = .ok ⟨buffer.columnId, buffer.name, buffer.physicalType,
      buffer.logicalKind, buffer.dictionaryId, values, validity⟩ := by
  rw [view, failIf_neg (not_not.mpr hid), ok_bind, hvalues, ok_bind, hvalidity]
  rfl

end ColumnBundleReusableColumnBuffer

/-- The buffer was made for the column. -/
structure ColumnBundleReusableColumnBuffer.IsFor (buffer : ColumnBundleReusableColumnBuffer)
    (column : BundleColumn) : Prop where
  columnId : buffer.columnId = column.id
  name : buffer.name = column.name
  physicalType : buffer.physicalType = column.physicalType
  logicalKind : buffer.logicalKind = column.logicalKind
  dictionaryId : buffer.dictionaryId = column.dictionaryId
  nullable : buffer.nullable = column.nullable
  values : buffer.values.physicalType = column.physicalType

instance (buffer : ColumnBundleReusableColumnBuffer) (column : BundleColumn) :
    Decidable (buffer.IsFor column) :=
  decidable_of_iff (buffer.columnId = column.id ∧ buffer.name = column.name ∧
      buffer.physicalType = column.physicalType ∧ buffer.logicalKind = column.logicalKind ∧
      buffer.dictionaryId = column.dictionaryId ∧ buffer.nullable = column.nullable ∧
      buffer.values.physicalType = column.physicalType)
    ⟨fun ⟨h₁, h₂, h₃, h₄, h₅, h₆, h₇⟩ => ⟨h₁, h₂, h₃, h₄, h₅, h₆, h₇⟩,
      fun h => ⟨h.1, h.2, h.3, h.4, h.5, h.6, h.7⟩⟩

/-- Reusable buffers for one row group. -/
structure ColumnBundleReusableBuffers where
  columns : List ColumnBundleReusableColumnBuffer
deriving DecidableEq

namespace ColumnBundleReusableBuffers

/-- Prepare the buffers in order, as far as they can be prepared. -/
def prepareColumns (rowCount : ℕ) : List ColumnBundleReusableColumnBuffer →
    Result Unit × List ColumnBundleReusableColumnBuffer
  | [] => (.ok (), [])
  | buffer :: rest =>
    match buffer.prepareForRows rowCount with
    | .error e => (.error e, buffer :: rest)
    | .ok prepared => ((prepareColumns rowCount rest).1, prepared :: (prepareColumns rowCount rest).2)

/-- Resize the buffers for the rows of the next row group. -/
def prepareForRows (rowCount : ℕ) : Fallible ArcadiaTioError ColumnBundleReusableBuffers Unit :=
  ⟨fun buffers =>
    ((prepareColumns rowCount buffers.columns).1, ⟨(prepareColumns rowCount buffers.columns).2⟩)⟩

/-- The buffers of a slot as the targets of a fill. -/
def fillBuffers (buffers : ColumnBundleReusableBuffers) : List ColumnBundleColumnFillBuffer :=
  buffers.columns.map ColumnBundleReusableColumnBuffer.asFillBuffer

/-- The buffers after their storage was written by way of fill buffers. -/
def written (buffers : ColumnBundleReusableBuffers) (filled : List ColumnBundleColumnFillBuffer) :
    ColumnBundleReusableBuffers :=
  ⟨List.zipWith ColumnBundleReusableColumnBuffer.written buffers.columns filled⟩

end ColumnBundleReusableBuffers

/-- The slots that a visit reads into. -/
structure ColumnBundleReusableBufferPool where
  buffers : List ColumnBundleReusableBuffers

/-- What a visitor gets to see of a report and the buffers of a row group. -/
structure ColumnBundleReusableBatchView where
  rowGroupId : UInt32
  baseRow : UInt64
  rowCount : UInt64
  columnCount : ℕ
  column : ℕ → Result ColumnBundleReusableColumnView

/-- What the visitor is shown of a slot after a fill. -/
def batchView (report : ColumnBundleReadFillReport) (buffers : ColumnBundleReusableBuffers) :
    ColumnBundleReusableBatchView where
  rowGroupId := report.rowGroupId
  baseRow := report.baseRow
  rowCount := report.rowCount
  columnCount := report.columns.length
  column index := do
    let buffer ← okOr buffers.columns[index]?
      (ocbInvalidInput "OCB reusable view column index is out of bounds")
    let report ← okOr report.columns[index]?
      (ocbInvalidInput "OCB reusable view column report is missing")
    buffer.view report

/-- The view of an owned batch. -/
def ColumnBatch.view (batch : ColumnBatch) : ColumnBundleReusableBatchView where
  rowGroupId := batch.rowGroupId
  baseRow := batch.baseRow
  rowCount := batch.rowCount
  columnCount := batch.columns.length
  column index := okOr batch.columns[index]?
    (ocbInvalidInput "OCB reusable view column index is out of bounds")

/-! ### Reading into reusable buffers -/

section Read

variable (source : OcbReadSource) (zstd : ZstdCodec) (m : OcbMetadataV1)

/-- The rows of a row group. -/
def rowCountForRowGroup (rowGroupId : UInt32) : Result ℕ := do
  let rowGroup ← okOr (m.rowGroupById rowGroupId)
    (ocbInvalidInput "OCB reusable read references an unknown row group")
  return rowGroup.rowCount.toNat

/-- Read a row group into a slot: prepare its buffers and fill them. -/
def readRowGroupIntoReusable (columns : List BundleColumn) (rowGroupId : UInt32) :
    Fallible ArcadiaTioError ColumnBundleReusableBuffers ColumnBundleReadFillReport := do
  let rowCount ← rowCountForRowGroup m rowGroupId
  ColumnBundleReusableBuffers.prepareForRows rowCount
  Fallible.zoom ColumnBundleReusableBuffers.fillBuffers ColumnBundleReusableBuffers.written
    (readRowGroupInto source zstd m columns rowGroupId)

end Read

/-! ### What a fill returns -/

section Fill

variable {source : OcbReadSource} {zstd : ZstdCodec} {m : OcbMetadataV1}
  {limits : OcbResourceLimits} {rowGroup : OcbRowGroupDescV1} {column : BundleColumn}
  {chunk : OcbColumnChunkDescV1} {buffer : ColumnBundleColumnFillBuffer}
  {values : PrimitiveColumnValues}

/-- The values are not filled when the payload is not read. -/
lemma ChunkOf.run_fillValues_error (h : ChunkOf source zstd limits rowGroup column chunk)
    (hlimits : m.resourceLimits = limits) (htype : values.physicalType = column.physicalType)
    (hroom : values.HasRoom rowGroup.rowCount.toNat) {e : ArcadiaTioError}
    (herror : readChunkPayload source zstd m column chunk = .error e) :
    ∃ after, (fillValues source zstd m rowGroup.rowCount.toNat ⟨column, chunk⟩).run values =
      (.error e, after) := by
  rw [fillValues, Fallible.run_bind_of_ok Fallible.run_getState, h.directOutput_eq htype,
    Fallible.lift_ok_bind]
  by_cases hdirect : chunk.codec = .none ∧ chunk.physicalType = .fixedBinary
  · obtain ⟨width, old, rfl⟩ : ∃ width old, values = .fixedBinary width old := by
      have hphysical := h.physicalType
      rw [hdirect.2, ← htype] at hphysical
      cases values with
      | fixedBinary width old => exact ⟨width, old, rfl⟩
      | _ => cases hphysical
    have hbytes : chunk.uncompressedBytes.toNat = rowGroup.rowCount.toNat * width.toNat :=
      h.bytes _ htype
    have hwindow : (window old 0 (0 + chunk.uncompressedBytes.toNat)).length =
        chunk.uncompressedBytes.toNat := by
      rw [Nat.zero_add, length_window (hbytes ▸ hroom.2), Nat.sub_zero]
    rw [h.readChunkPayload_eq hlimits] at herror
    have hread := (h.paths.direct_error hdirect.2 hdirect.1 _ hwindow e).mpr herror
    rw [if_pos hdirect]
    dsimp only
    rw [Fallible.run_zoom, Fallible.run_within, hlimits]
    exact ⟨_, Prod.ext hread rfl⟩
  · rw [if_neg hdirect]
    dsimp only
    rw [herror]
    exact ⟨_, rfl⟩

/-- A fill of a buffer with room returns what reading the column returns, an error included. -/
lemma ChunkOf.fst_run_fillColumnBuffer (h : ChunkOf source zstd limits rowGroup column chunk)
    (hlimits : m.resourceLimits = limits) (hfits : buffer.Fits column chunk) :
    ((fillColumnBuffer source zstd m rowGroup.rowCount.toNat ⟨column, chunk⟩).run buffer).1 =
      (fun array => ⟨array.columnId, rowGroup.rowCount.toNat, array.validity.isSome⟩) <$>
        readColumnArray source zstd m column chunk rowGroup.rowCount := by
  rcases hread : readColumnArray source zstd m column chunk rowGroup.rowCount with e | array
  case ok =>
    rw [(h.run_fillColumnBuffer hlimits hfits).mpr ⟨array, hread, rfl, rfl⟩]
    show Except.ok (⟨column.id, _, _⟩ : ColumnBundleColumnFillReport) =
      Except.ok ⟨array.columnId, _, _⟩
    rw [ColumnBundleFile.columnId_of_readColumnArray hread]
  have hroom := hfits.room
  rw [h.rowCount] at hroom
  have hnullable : ¬ (¬ column.nullable ∧ ¬ chunk.validityRef.IsNull) := by
    rintro ⟨hnot, hnull⟩
    exact hnot (h.nullable hnull)
  rw [readColumnArray, failIf_neg hnullable, ok_bind, failIf_neg (not_not.mpr h.physicalType),
    ok_bind, failIf_neg (not_not.mpr h.rowCount), ok_bind] at hread
  have herror : ∃ after, (fillColumnBuffer source zstd m rowGroup.rowCount.toNat
      ⟨column, chunk⟩).run buffer = (.error e, after) := by
    rw [fillColumnBuffer]
    rcases bind_eq_error.mp hread with hpayload | ⟨payload, hpayload, hread⟩
    · obtain ⟨after, hafter⟩ := h.run_fillValues_error hlimits hfits.physicalType hroom hpayload
      refine ⟨_, Fallible.run_bind_of_error (t := { buffer with values := after }) ?_⟩
      rw [Fallible.run_zoom, hafter]
    · have hlength := hpayload
      rw [h.readChunkPayload_eq hlimits] at hlength
      have hbytes := h.bytes _ hfits.physicalType
      obtain ⟨decoded, hdecoded, -, -, -⟩ := decode_and_fill
        ((length_of_readAndDecodeChunk hlength).trans hbytes)
        (by rw [← hbytes]; exact chunk.uncompressedBytes.toNat_lt) hroom
      rw [hfits.physicalType] at hdecoded
      have hvalues := (h.run_fillValues hlimits hfits.physicalType hroom).mpr
        ⟨payload, decoded, hpayload, hdecoded, rfl⟩
      rcases bind_eq_error.mp hread with hvalidity | ⟨validity, -, hread⟩
      · have hnull : ¬ chunk.validityRef.IsNull := by
          intro hnull
          rw [readValidityBitmap, if_pos hnull] at hvalidity
          cases hvalidity
        refine ⟨{ buffer with values := buffer.values.overwriteWith decoded }, ?_⟩
        rw [Fallible.run_bind_of_ok (a := ())
          (t := { buffer with values := buffer.values.overwriteWith decoded })
          (by rw [Fallible.run_zoom, hvalues])]
        refine Fallible.run_bind_of_error ?_
        rw [Fallible.run_zoom, fillValidity, if_neg hnull, hvalidity]
        rfl
      · rw [hdecoded] at hread
        cases hread
  obtain ⟨after, hafter⟩ := herror
  rw [hafter]
  rfl

lemma physicalType_withStorage (values : PrimitiveColumnValues) (bytes : List UInt8) :
    (values.withStorage bytes).physicalType = values.physicalType := by
  cases values <;> rfl

lemma physicalType_of_fillPrimitiveValues {payload : List UInt8} {rowCount : ℕ}
    {filled : PrimitiveColumnValues} (h : fillPrimitiveValues payload rowCount values = .ok filled) :
    filled.physicalType = values.physicalType := by
  cases values <;> obtain ⟨_, -, rfl⟩ := map_eq_ok.mp h <;> rfl

/-- Filled or not, the values keep their type. -/
lemma physicalType_run_fillColumnBuffer (rowCount : ℕ) (target : ResolvedColumnFill)
    (buffer : ColumnBundleColumnFillBuffer) :
    ((fillColumnBuffer source zstd m rowCount target).run buffer).2.values.physicalType =
      buffer.values.physicalType := by
  have hvalues : ∀ values, ((fillValues source zstd m rowCount target).run values).2.physicalType =
      values.physicalType := by
    intro values
    rw [fillValues, Fallible.run_bind_of_ok Fallible.run_getState]
    rcases uncompressedFixedBinaryDirectOutput rowCount target values with e | _ | n
    · rfl
    · rw [Fallible.lift_ok_bind]
      dsimp only
      rcases readChunkPayload source zstd m target.column target.chunk with e | payload
      · rfl
      · rw [Fallible.lift_ok_bind]
        rcases hfilled : fillPrimitiveValues payload rowCount values with e | filled
        · rfl
        · rw [Fallible.lift_ok_bind, Fallible.run_setState]
          exact physicalType_of_fillPrimitiveValues hfilled
    · rw [Fallible.lift_ok_bind]
      exact physicalType_withStorage _ _
  have hrun := hvalues buffer.values
  rw [fillColumnBuffer, Fallible.run_bind, Fallible.run_zoom]
  rcases hfilled : (fillValues source zstd m rowCount target).run buffer.values with ⟨e | u, after⟩ <;>
    rw [hfilled] at hrun
  · exact hrun
  · rw [Fallible.andThen_ok, Fallible.run_bind, Fallible.run_zoom]
    rcases (fillValidity source m target).run buffer.validityBytes with ⟨e | filled, bytes⟩ <;>
      exact hrun

end Fill

/-! ### Buffers with the same room -/

/-- Two buffers ask for the same and have the same room, whatever is in them. -/
structure ColumnBundleColumnFillBuffer.SameRoom (a b : ColumnBundleColumnFillBuffer) : Prop where
  columnName : a.columnName = b.columnName
  columnId : a.columnId = b.columnId
  physicalType : a.values.physicalType = b.values.physicalType
  capacity : ∀ n, a.values.validateCapacity n = b.values.validateCapacity n
  validity : a.validityBytes.map List.length = b.validityBytes.map List.length
  allowNulls : a.allowNulls = b.allowNulls

section SameRoom

variable {columns : List BundleColumn} {rowGroup : OcbRowGroupDescV1} {m : OcbMetadataV1}
  {chunkByColumn : List (UInt32 × OcbColumnChunkDescV1)} {a b : ColumnBundleColumnFillBuffer}
  {buffers buffers' : List ColumnBundleColumnFillBuffer} {seen : List UInt32}

lemma checkFillValidity_congr (h : a.SameRoom b) (chunk : OcbColumnChunkDescV1) :
    checkFillValidity chunk a = checkFillValidity chunk b := by
  have hvalidity := h.validity
  rw [checkFillValidity, checkFillValidity, h.allowNulls]
  rcases ha : a.validityBytes with _ | old <;> rcases hb : b.validityBytes with _ | new <;>
    rw [ha, hb] at hvalidity
  · cases hvalidity
  · cases hvalidity
  · have hlength : old.length = new.length := Option.some.inj hvalidity
    simp only [okOr_some, ok_bind, hlength]

lemma resolveFill_congr (h : a.SameRoom b) (column : BundleColumn) :
    resolveFill rowGroup chunkByColumn column a = resolveFill rowGroup chunkByColumn column b := by
  simp only [resolveFill, h.physicalType, h.capacity, checkFillValidity_congr h]

lemma resolveFills_congr (h : List.Forall₂ ColumnBundleColumnFillBuffer.SameRoom buffers buffers') :
    resolveFills columns rowGroup chunkByColumn buffers seen =
      resolveFills columns rowGroup chunkByColumn buffers' seen := by
  induction h generalizing seen with
  | nil => rfl
  | cons hroom _ ih =>
    simp only [resolveFills, resolveFillColumn, hroom.columnName, hroom.columnId,
      resolveFill_congr hroom, ih]

/-- The preparation of a fill does not look at what is in the buffers. -/
lemma prepareFill_congr (h : List.Forall₂ ColumnBundleColumnFillBuffer.SameRoom buffers buffers')
    (rowGroupId : UInt32) :
    prepareFill m columns rowGroupId buffers = prepareFill m columns rowGroupId buffers' := by
  rw [prepareFill, prepareFill]
  cases h with
  | nil => rfl
  | cons hroom hrest =>
    rw [failIf_neg (List.cons_ne_nil _ _), failIf_neg (List.cons_ne_nil _ _)]
    simp only [resolveFills_congr (.cons hroom hrest)]

lemma length_of_resolveFills {targets : List ResolvedColumnFill}
    (h : resolveFills columns rowGroup chunkByColumn buffers seen = .ok targets) :
    targets.length = buffers.length := by
  induction buffers generalizing seen targets with
  | nil =>
    cases h
    rfl
  | cons buffer rest ih =>
    obtain ⟨_, -, h⟩ := bind_eq_ok.mp h
    obtain ⟨_, -, h⟩ := bind_eq_ok.mp h
    obtain ⟨_, -, h⟩ := bind_eq_ok.mp h
    obtain ⟨_, -, h⟩ := bind_eq_ok.mp h
    obtain ⟨tail, htail, h⟩ := bind_eq_ok.mp h
    cases h
    rw [List.length_cons, List.length_cons, ih htail]

lemma length_of_prepareFill {rowGroupId : UInt32} {targets : List ResolvedColumnFill}
    (h : prepareFill m columns rowGroupId buffers = .ok (rowGroup, targets)) :
    targets.length = buffers.length := by
  obtain ⟨_, -, h⟩ := bind_eq_ok.mp h
  obtain ⟨_, -, h⟩ := bind_eq_ok.mp h
  obtain ⟨_, -, h⟩ := bind_eq_ok.mp h
  obtain ⟨_, hresolved, h⟩ := bind_eq_ok.mp h
  obtain ⟨_, -, h⟩ := bind_eq_ok.mp h
  cases h
  exact length_of_resolveFills hresolved

/-- A fill read keeps the types of the buffers, however it ends. -/
lemma map_physicalType_run_readRowGroupInto (source : OcbReadSource) (zstd : ZstdCodec)
    (m : OcbMetadataV1) (columns : List BundleColumn) (rowGroupId : UInt32)
    (buffers : List ColumnBundleColumnFillBuffer) :
    ((readRowGroupInto source zstd m columns rowGroupId).run buffers).2.map
        (fun buffer => buffer.values.physicalType) =
      buffers.map fun buffer => buffer.values.physicalType := by
  rcases hprepare : prepareFill m columns rowGroupId buffers with e | ⟨rowGroup, targets⟩
  · rw [ColumnBundleFile.run_of_prepareFill_error hprepare]
  · rw [ColumnBundleFile.run_of_prepareFill_ok hprepare, Fallible.run_bind]
    have hkept := Fallible.map_onEach (g := fun buffer : ColumnBundleColumnFillBuffer =>
      buffer.values.physicalType) (fun target buffer =>
        @physicalType_run_fillColumnBuffer source zstd m rowGroup.rowCount.toNat target buffer)
      (targets.zip buffers)
    have hzip : (targets.zip buffers).map (fun pair => pair.2.values.physicalType) =
        buffers.map fun buffer => buffer.values.physicalType := by
      have hsnd := @List.map_snd_zip _ _ targets buffers
        (le_of_eq (length_of_prepareFill hprepare).symm)
      conv_rhs => rw [← hsnd, List.map_map]
      rfl
    rw [hzip] at hkept
    have hrun : (fillTargets source zstd m rowGroup.rowCount.toNat targets).run buffers =
        Fallible.onEach (fillColumnBuffer source zstd m rowGroup.rowCount.toNat)
          (targets.zip buffers) := rfl
    rw [hrun]
    generalize Fallible.onEach (fillColumnBuffer source zstd m rowGroup.rowCount.toNat)
      (targets.zip buffers) = outcome at hkept ⊢
    obtain ⟨e | reports, after⟩ := outcome <;> exact hkept

end SameRoom

/-! ### The report does not depend on what is in the buffers -/

namespace ColumnBundleFile

variable {file : ColumnBundleFile} {source : OcbReadSource} {zstd : ZstdCodec}
  {validation : OcbOpenValidationMode} {limits : OcbResourceLimits} {rowGroup : OcbRowGroupDescV1}
  {buffers buffers' : List ColumnBundleColumnFillBuffer} {targets : List ResolvedColumnFill}
  {rowGroupId : UInt32}

lemma fst_run_fillTargets (hlimits : file.metadata.resourceLimits = limits)
    (htargets : List.Forall₂ (file.ResolvedFor source zstd limits rowGroup) buffers targets) :
    ((fillTargets source zstd file.metadata rowGroup.rowCount.toNat targets).run buffers).1 =
      (List.map fun array =>
        ⟨array.columnId, rowGroup.rowCount.toNat, array.validity.isSome⟩) <$>
        targets.mapM fun target => readColumnArray source zstd file.metadata target.column
          target.chunk rowGroup.rowCount := by
  change (Fallible.onEach _ _).1 = _
  induction htargets with
  | nil => rfl
  | cons hresolved _ ih =>
    rw [List.zip_cons_cons, Fallible.fst_onEach_cons, List.mapM_cons, ih,
      hresolved.chunk.fst_run_fillColumnBuffer hlimits hresolved.fits]
    rcases readColumnArray source zstd file.metadata _ _ rowGroup.rowCount with e | array
    · rfl
    · simp only [Except.map_ok, ok_bind]
      rcases (List.mapM _ _ : Result (List ColumnArray)) with e | arrays <;> rfl

/-- What a fill read returns depends on the room of the buffers only. -/
lemma fst_run_readRowGroupInto_congr (hfault : source.FaultFree)
    (h : openFromSource source zstd validation limits = .ok file)
    (hroom : List.Forall₂ ColumnBundleColumnFillBuffer.SameRoom buffers buffers') :
    ((Ocb.readRowGroupInto source zstd file.metadata file.columns rowGroupId).run buffers).1 =
      ((Ocb.readRowGroupInto source zstd file.metadata file.columns rowGroupId).run buffers').1 := by
  have hlimits := (graph_of_openFromSource h).resourceLimits_eq
  have hsame := @prepareFill_congr file.columns file.metadata _ _ hroom rowGroupId
  rcases hprepare : prepareFill file.metadata file.columns rowGroupId buffers with
    e | ⟨rowGroup, targets⟩
  · rw [run_of_prepareFill_error hprepare, run_of_prepareFill_error (hsame ▸ hprepare)]
  · have hprepare' := hsame ▸ hprepare
    obtain ⟨-, htargets⟩ := accepts_of_prepareFill hfault h hprepare
    obtain ⟨-, htargets'⟩ := accepts_of_prepareFill hfault h hprepare'
    have hfst := (fst_run_fillTargets hlimits htargets).trans
      (fst_run_fillTargets hlimits htargets').symm
    rw [run_of_prepareFill_ok hprepare, run_of_prepareFill_ok hprepare', Fallible.run_bind,
      Fallible.run_bind]
    generalize (fillTargets source zstd file.metadata rowGroup.rowCount.toNat targets).run
      buffers = outcome at hfst ⊢
    generalize (fillTargets source zstd file.metadata rowGroup.rowCount.toNat targets).run
      buffers' = outcome' at hfst ⊢
    obtain ⟨result, after⟩ := outcome
    obtain ⟨result', after'⟩ := outcome'
    obtain rfl : result = result' := hfst
    cases result <;> rfl

end ColumnBundleFile

/-! ### Preparing for rows -/

namespace PrimitiveColumnValues

variable {values decoded : PrimitiveColumnValues} {n : ℕ}

lemma HoldsRows.hasRoom (h : values.HoldsRows n) : values.HasRoom n := by
  cases values with
  | fixedBinary width bytes => exact ⟨h.1, le_of_eq h.2.symm⟩
  | _ => exact le_of_eq h.symm

/-- Values of one type for as many rows have the same capacity. -/
lemma validateCapacity_congr (htype : values.physicalType = decoded.physicalType)
    (h : values.HoldsRows n) (h' : decoded.HoldsRows n) (k : ℕ) :
    values.validateCapacity k = decoded.validateCapacity k := by
  cases values <;> cases decoded <;> cases htype
  case fixedBinary.fixedBinary =>
    rw [validateCapacity, validateCapacity, h.2, h'.2]
  all_goals
    show failIf (List.length _ < k) _ = failIf (List.length _ < k) _
    rw [show List.length _ = n from h, show List.length _ = n from h']

/-- Storage is resized exactly when the bytes of the rows can be counted. -/
lemma resizeForRows_cases (n : ℕ) (type : ColumnPhysicalType) :
    (∃ e, ∀ values : PrimitiveColumnValues, values.physicalType = type →
      values.resizeForRows n = .error e) ∨
    ∀ values : PrimitiveColumnValues, values.physicalType = type → ∃ resized,
      values.resizeForRows n = .ok resized ∧ resized.physicalType = type ∧ resized.HoldsRows n := by
  cases type with
  | fixedBinary width =>
    by_cases hwidth : width = 0
    · left
      refine ⟨ocbInvalidInput "OCB reusable fixed-binary buffer requires width > 0",
        fun values htype => ?_⟩
      cases values <;> cases htype
      rw [resizeForRows, failIf_pos hwidth]
      rfl
    · rcases hcount : checkedMul 64 n width.toNat with _ | byteCount
      · left
        refine ⟨ocbInvalidInput "OCB reusable fixed-binary byte count overflows",
          fun values htype => ?_⟩
        cases values <;> cases htype
        rw [resizeForRows, failIf_neg hwidth, ok_bind, hcount, okOr_none]
        rfl
      · right
        intro values htype
        cases values <;> cases htype
        rw [resizeForRows, failIf_neg hwidth, ok_bind, hcount, okOr_some, ok_bind]
        refine ⟨_, rfl, rfl, hwidth, ?_⟩
        rw [length_resizeVec, (checkedMul_eq_some.mp hcount).1]
  | _ =>
    right
    intro values htype
    cases values <;> cases htype
    exact ⟨_, rfl, rfl, length_resizeVec _ _ _⟩

end PrimitiveColumnValues

namespace ColumnBundleReusableColumnBuffer

variable {buffer buffer' : ColumnBundleReusableColumnBuffer} {n : ℕ}

/-- The buffer without what is stored in it. -/
def emptied (buffer : ColumnBundleReusableColumnBuffer) : ColumnBundleReusableColumnBuffer :=
  { buffer with values := .new buffer.values.physicalType, validityBytes := [] }

/-- The storage of a buffer is for `n` rows. -/
structure Prepared (buffer : ColumnBundleReusableColumnBuffer) (n : ℕ) : Prop where
  values : buffer.values.HoldsRows n
  validity : buffer.allowNulls = true → buffer.validityBytes.length = validityBitmapLen n

@[simp] lemma physicalType_new (type : ColumnPhysicalType) :
    (PrimitiveColumnValues.new type).physicalType = type := by
  cases type <;> rfl

/-- A new buffer is for its column and has room for the rows that were asked for. -/
lemma isFor_of_forColumn {column : BundleColumn} {allowNulls : Bool}
    (h : forColumn column n allowNulls = .ok buffer) :
    buffer.IsFor column ∧ buffer.Prepared n := by
  obtain ⟨values, hvalues, h⟩ := bind_eq_ok.mp h
  cases h
  rcases PrimitiveColumnValues.resizeForRows_cases n column.physicalType with ⟨e, herror⟩ | hok
  · rw [herror _ (physicalType_new _)] at hvalues
    cases hvalues
  · obtain ⟨resized, hresized, htype, hrows⟩ := hok _ (physicalType_new _)
    obtain rfl := Except.ok.inj (hvalues.symm.trans hresized)
    refine ⟨⟨rfl, rfl, rfl, rfl, rfl, rfl, htype⟩, hrows, fun hallow => ?_⟩
    dsimp only at hallow ⊢
    rw [if_pos hallow, List.length_replicate]

lemma new_injective {type type' : ColumnPhysicalType}
    (h : PrimitiveColumnValues.new type = PrimitiveColumnValues.new type') : type = type' := by
  rw [← physicalType_new type, h, physicalType_new]

/-- Buffers that differ in their storage only. -/
lemma emptied_eq_iff : buffer.emptied = buffer'.emptied ↔
    buffer.columnId = buffer'.columnId ∧ buffer.name = buffer'.name ∧
      buffer.physicalType = buffer'.physicalType ∧ buffer.logicalKind = buffer'.logicalKind ∧
      buffer.dictionaryId = buffer'.dictionaryId ∧ buffer.nullable = buffer'.nullable ∧
      buffer.values.physicalType = buffer'.values.physicalType ∧
      buffer.allowNulls = buffer'.allowNulls := by
  simp only [emptied, mk.injEq, true_and]
  constructor
  · rintro ⟨h₁, h₂, h₃, h₄, h₅, h₆, h₇, h₈⟩
    exact ⟨h₁, h₂, h₃, h₄, h₅, h₆, new_injective h₇, h₈⟩
  · rintro ⟨h₁, h₂, h₃, h₄, h₅, h₆, h₇, h₈⟩
    exact ⟨h₁, h₂, h₃, h₄, h₅, h₆, by rw [h₇], h₈⟩

lemma IsFor.of_emptied {column : BundleColumn} (hfor : buffer'.IsFor column)
    (h : buffer.emptied = buffer'.emptied) : buffer.IsFor column := by
  obtain ⟨h₁, h₂, h₃, h₄, h₅, h₆, h₇, -⟩ := emptied_eq_iff.mp h
  exact ⟨h₁.trans hfor.columnId, h₂.trans hfor.name, h₃.trans hfor.physicalType,
    h₄.trans hfor.logicalKind, h₅.trans hfor.dictionaryId, h₆.trans hfor.nullable,
    h₇.trans hfor.values⟩

/-- Buffers with other contents are for the same columns. -/
lemma forall₂_isFor {buffers buffers' : List ColumnBundleReusableColumnBuffer}
    {columns : List BundleColumn} (h : buffers.map emptied = buffers'.map emptied)
    (hfor : List.Forall₂ IsFor buffers' columns) : List.Forall₂ IsFor buffers columns := by
  induction hfor generalizing buffers with
  | nil =>
    rw [List.map_eq_nil_iff.mp h]
    exact .nil
  | cons hhead _ ih =>
    obtain ⟨buffer, rest, rfl, hbuffer, hrest⟩ := List.map_eq_cons_iff.mp h
    exact .cons (hhead.of_emptied hbuffer) (ih hrest)

/-- Preparing a buffer fails or succeeds whatever is stored in it. -/
lemma prepareForRows_cases (n : ℕ) (buffer : ColumnBundleReusableColumnBuffer) :
    (∃ e, ∀ other : ColumnBundleReusableColumnBuffer, other.emptied = buffer.emptied →
      other.prepareForRows n = .error e) ∨
    ∀ other : ColumnBundleReusableColumnBuffer, other.emptied = buffer.emptied →
      ∃ prepared, other.prepareForRows n = .ok prepared ∧ prepared.emptied = buffer.emptied ∧
        prepared.Prepared n := by
  rcases PrimitiveColumnValues.resizeForRows_cases n buffer.values.physicalType with
    ⟨e, herror⟩ | hok
  · left
    refine ⟨e, fun other hsame => ?_⟩
    obtain ⟨-, -, -, -, -, -, htype, -⟩ := emptied_eq_iff.mp hsame
    rw [prepareForRows, herror _ htype]
    rfl
  · right
    intro other hsame
    obtain ⟨h₁, h₂, h₃, h₄, h₅, h₆, htype, h₈⟩ := emptied_eq_iff.mp hsame
    obtain ⟨resized, hresized, htype', hrows⟩ := hok _ htype
    rw [prepareForRows, hresized]
    refine ⟨_, rfl, emptied_eq_iff.mpr ⟨h₁, h₂, h₃, h₄, h₅, h₆, htype', h₈⟩, hrows, ?_⟩
    intro hallow
    dsimp only at hallow ⊢
    rw [if_pos hallow, length_resizeVec]

/-- Prepared buffers that differ in their storage have the same room. -/
lemma sameRoom_asFillBuffer (h : buffer.emptied = buffer'.emptied) (hp : buffer.Prepared n)
    (hp' : buffer'.Prepared n) : buffer.asFillBuffer.SameRoom buffer'.asFillBuffer := by
  obtain ⟨hid, hname, -, -, -, -, htype, hallow⟩ := emptied_eq_iff.mp h
  refine ⟨congrArg some hname, congrArg some hid, htype,
    PrimitiveColumnValues.validateCapacity_congr htype hp.values hp'.values, ?_, hallow⟩
  simp only [asFillBuffer]
  rcases hnulls : buffer'.allowNulls with _ | _ <;> rw [hallow, hnulls]
  · rfl
  · rw [if_pos rfl, if_pos rfl, Option.map_some, Option.map_some,
      hp.validity (hallow.trans hnulls), hp'.validity hnulls]

end ColumnBundleReusableColumnBuffer

namespace ColumnBundleReusableBuffers

open ColumnBundleReusableColumnBuffer

variable {n : ℕ} {columns columns' : List ColumnBundleReusableColumnBuffer}

/-- Preparing buffers only resizes their storage. -/
lemma map_emptied_prepareColumns (n : ℕ) (columns : List ColumnBundleReusableColumnBuffer) :
    (prepareColumns n columns).2.map emptied = columns.map emptied := by
  induction columns with
  | nil => rfl
  | cons buffer rest ih =>
    rw [prepareColumns]
    rcases prepareForRows_cases n buffer with ⟨e, herror⟩ | hok
    · rw [herror buffer rfl]
    · obtain ⟨prepared, hprepared, hsame, -⟩ := hok buffer rfl
      rw [hprepared]
      simp only [List.map_cons, hsame, ih]

/-- Buffers that differ in their storage are prepared alike. -/
lemma fst_prepareColumns_congr (h : columns.map emptied = columns'.map emptied) :
    (prepareColumns n columns).1 = (prepareColumns n columns').1 := by
  induction columns generalizing columns' with
  | nil =>
    obtain rfl : columns' = [] := by simpa using h.symm
    rfl
  | cons buffer rest ih =>
    rcases columns' with _ | ⟨buffer', rest'⟩
    · cases h
    · obtain ⟨hhead, hrest⟩ := List.cons.inj h
      rw [prepareColumns, prepareColumns]
      rcases prepareForRows_cases n buffer with ⟨e, herror⟩ | hok
      · rw [herror buffer rfl, herror buffer' hhead.symm]
      · obtain ⟨prepared, hprepared, -⟩ := hok buffer rfl
        obtain ⟨prepared', hprepared', -⟩ := hok buffer' hhead.symm
        rw [hprepared, hprepared']
        exact ih hrest

lemma prepared_of_prepareColumns (h : (prepareColumns n columns).1 = .ok ()) :
    ∀ buffer ∈ (prepareColumns n columns).2, buffer.Prepared n := by
  induction columns with
  | nil =>
    intro buffer hbuffer
    cases hbuffer
  | cons head rest ih =>
    rw [prepareColumns] at h ⊢
    rcases prepareForRows_cases n head with ⟨e, herror⟩ | hok
    · rw [herror head rfl] at h
      cases h
    · obtain ⟨prepared, hprepared, -, hrows⟩ := hok head rfl
      rw [hprepared] at h ⊢
      intro buffer hbuffer
      rcases List.mem_cons.mp hbuffer with rfl | hbuffer
      · exact hrows
      · exact ih h buffer hbuffer

/-- Prepared buffers that differ in their storage have the same room. -/
lemma forall₂_sameRoom (h : columns.map emptied = columns'.map emptied)
    (hp : ∀ buffer ∈ columns, buffer.Prepared n) (hp' : ∀ buffer ∈ columns', buffer.Prepared n) :
    List.Forall₂ ColumnBundleColumnFillBuffer.SameRoom (columns.map asFillBuffer)
      (columns'.map asFillBuffer) := by
  induction columns generalizing columns' with
  | nil =>
    obtain rfl : columns' = [] := by simpa using h.symm
    exact .nil
  | cons buffer rest ih =>
    rcases columns' with _ | ⟨buffer', rest'⟩
    · cases h
    · obtain ⟨hhead, hrest⟩ := List.cons.inj h
      exact .cons (sameRoom_asFillBuffer hhead (hp _ List.mem_cons_self) (hp' _ List.mem_cons_self))
        (ih hrest (fun b hb => hp b (List.mem_cons_of_mem _ hb))
          fun b hb => hp' b (List.mem_cons_of_mem _ hb))

end ColumnBundleReusableBuffers

/-! ### The view of a filled buffer -/

namespace PrimitiveColumnValues

variable {values : PrimitiveColumnValues} {n : ℕ}

lemma hasRoom_of_takeRows (h : (values.takeRows n).HoldsRows n) : values.HasRoom n := by
  cases values with
  | fixedBinary width bytes =>
    obtain ⟨hwidth, hlength⟩ := h
    rw [List.length_take] at hlength
    exact ⟨hwidth, by omega⟩
  | i32 values | i64 values | f32 values | f64 values =>
    have hlength : (values.take n).length = n := h
    rw [List.length_take] at hlength
    show n ≤ values.length
    omega

lemma getPrefix_eq_ok {α : Type} {l : List α} (h : n ≤ l.length) (message : String) :
    getPrefix l n message = .ok (l.take n) := by
  rw [getPrefix, failIf_neg (not_lt.mpr h)]
  rfl

/-- Values with room for the rows are borrowed. -/
lemma asRefValues_eq_ok (hroom : values.HasRoom n) (hfit : n * values.byteWidth < 2 ^ 64) :
    values.asRefValues n = .ok (values.takeRows n) := by
  cases values with
  | fixedBinary width bytes =>
    have hfit : n * width.toNat < 2 ^ 64 := hfit
    rw [asRefValues, failIf_neg hroom.1, ok_bind, checkedMul_of_lt hfit, okOr_some, ok_bind,
      getPrefix_eq_ok hroom.2]
    rfl
  | _ =>
    rw [asRefValues, getPrefix_eq_ok hroom]
    rfl

end PrimitiveColumnValues

section View

variable {source : OcbReadSource} {zstd : ZstdCodec} {m : OcbMetadataV1}
  {limits : OcbResourceLimits} {rowGroup : OcbRowGroupDescV1} {column : BundleColumn}
  {chunk : OcbColumnChunkDescV1} {array : ColumnArray}

lemma rowCount_of_readValidityBitmap {bitmap : ValidityBitmap}
    (h : readValidityBitmap source m chunk = .ok (some bitmap)) :
    bitmap.rowCount = chunk.rowCount := by
  rw [readValidityBitmap] at h
  by_cases hnull : chunk.validityRef.IsNull
  · rw [if_pos hnull] at h
    cases h
  · rw [if_neg hnull] at h
    obtain ⟨_, -, h⟩ := bind_eq_ok.mp h
    obtain ⟨_, -, h⟩ := bind_eq_ok.mp h
    cases h
    rfl

/-- The view of a buffer that was filled with a column is the column. -/
lemma ChunkOf.view_written (h : ChunkOf source zstd limits rowGroup column chunk)
    (hlimits : m.resourceLimits = limits) {buffer : ColumnBundleReusableColumnBuffer}
    (hfor : buffer.IsFor column) (hfits : buffer.asFillBuffer.Fits column chunk)
    (harray : readColumnArray source zstd m column chunk rowGroup.rowCount = .ok array) :
    (buffer.written (buffer.asFillBuffer.filled array)).view
      ⟨array.columnId, rowGroup.rowCount.toNat, array.validity.isSome⟩ = .ok array := by
  have hfilled := h.filledWith hlimits hfits harray
  obtain ⟨_, -, harray⟩ := bind_eq_ok.mp harray
  obtain ⟨_, -, harray⟩ := bind_eq_ok.mp harray
  obtain ⟨_, -, harray⟩ := bind_eq_ok.mp harray
  obtain ⟨payload, hpayload, harray⟩ := bind_eq_ok.mp harray
  obtain ⟨validity, hvalidity, harray⟩ := bind_eq_ok.mp harray
  obtain ⟨decoded, hdecoded, harray⟩ := bind_eq_ok.mp harray
  cases harray
  have hbytes := h.bytes _ hfits.physicalType
  have hroom := hfits.room
  rw [h.rowCount] at hroom
  rw [h.readChunkPayload_eq hlimits] at hpayload
  obtain ⟨decoded', hdecoded', htype, hrows, -⟩ := decode_and_fill
    ((length_of_readAndDecodeChunk hpayload).trans hbytes)
    (by rw [← hbytes]; exact chunk.uncompressedBytes.toNat_lt) hroom
  rw [hfits.physicalType] at hdecoded'
  obtain rfl := Except.ok.inj (hdecoded.symm.trans hdecoded')
  -- the values of the written buffer begin with those of the column
  have hvalues : (buffer.values.overwriteWith decoded).asRefValues rowGroup.rowCount.toNat =
      .ok decoded := by
    have htake : (buffer.values.overwriteWith decoded).takeRows rowGroup.rowCount.toNat =
        decoded := hfilled.values
    have hwidth : rowGroup.rowCount.toNat *
        (buffer.values.overwriteWith decoded).byteWidth < 2 ^ 64 := by
      rw [← h.bytes (buffer.values.overwriteWith decoded)
        (PrimitiveColumnValues.physicalType_overwriteWith.trans hfits.physicalType)]
      exact chunk.uncompressedBytes.toNat_lt
    rw [PrimitiveColumnValues.asRefValues_eq_ok
      (PrimitiveColumnValues.hasRoom_of_takeRows (htake.symm ▸ hrows)) hwidth, htake]
  have hbits : (buffer.written (buffer.asFillBuffer.filled ⟨column.id, column.name,
      column.physicalType, column.logicalKind, column.dictionaryId, decoded, validity⟩)).viewValidity
        ⟨column.id, rowGroup.rowCount.toNat, validity.isSome⟩ = .ok validity := by
    rcases validity with _ | bitmap
    · rfl
    · obtain ⟨-, hlength⟩ := length_of_readValidityBitmap hvalidity
      obtain ⟨old, new, -, hnew, htake, -⟩ := hfilled.validity bitmap rfl
      rw [h.rowCount] at hlength
      have hlong : validityBitmapLen rowGroup.rowCount.toNat ≤ new.length := by
        have htaken := congrArg List.length htake
        rw [List.length_take, hlength] at htaken
        omega
      have hrowCount : rowGroup.rowCount.toNat.toUInt64 = bitmap.rowCount := by
        rw [rowCount_of_readValidityBitmap hvalidity, h.rowCount]
        exact UInt64.ofNat_toNat
      rw [ColumnBundleReusableColumnBuffer.viewValidity, ColumnBundleReusableColumnBuffer.written,
        hnew]
      dsimp only
      rw [if_pos Option.isSome_some, Option.getD_some,
        PrimitiveColumnValues.getPrefix_eq_ok hlong, ok_bind, htake, hrowCount]
      rfl
  rw [ColumnBundleReusableColumnBuffer.view_eq_ok hfor.columnId.symm hvalues hbits]
  simp only [ColumnBundleReusableColumnBuffer.written, hfor.columnId, hfor.name,
    hfor.physicalType, hfor.logicalKind, hfor.dictionaryId]

end View

/-! ### Reading into a slot with old contents -/

namespace ColumnBundleReusableBuffers

variable {slot slot' : ColumnBundleReusableBuffers}

/-- What stays the same while a slot is reused: everything but what is stored in it. -/
def shape (slot : ColumnBundleReusableBuffers) : List ColumnBundleReusableColumnBuffer :=
  slot.columns.map ColumnBundleReusableColumnBuffer.emptied

lemma shape_written {filled : List ColumnBundleColumnFillBuffer}
    (htypes : filled.map (fun buffer => buffer.values.physicalType) =
      slot.columns.map fun buffer => buffer.values.physicalType) :
    (slot.written filled).shape = slot.shape := by
  obtain ⟨columns⟩ := slot
  show (List.zipWith _ columns filled).map _ = columns.map _
  induction columns generalizing filled with
  | nil => rfl
  | cons buffer rest ih =>
    rcases filled with _ | ⟨head, tail⟩
    · cases htypes
    · obtain ⟨hhead, htail⟩ := List.cons.inj htypes
      rw [List.zipWith_cons_cons, List.map_cons, List.map_cons, ih htail]
      congr 1
      exact ColumnBundleReusableColumnBuffer.emptied_eq_iff.mpr
        ⟨rfl, rfl, rfl, rfl, rfl, rfl, hhead, rfl⟩

end ColumnBundleReusableBuffers

section Slot

variable {source : OcbReadSource} {zstd : ZstdCodec} {m : OcbMetadataV1}
  {columns : List BundleColumn} {rowGroupId : UInt32} {slot slot' : ColumnBundleReusableBuffers}

/-- The three ways in which the read of a row group into a slot ends: the row group is unknown, the
slot cannot be prepared, or the prepared slot is filled. -/
lemma run_readRowGroupIntoReusable (slot : ColumnBundleReusableBuffers) :
    (readRowGroupIntoReusable source zstd m columns rowGroupId).run slot =
      match rowCountForRowGroup m rowGroupId with
      | .error e => (.error e, slot)
      | .ok rowCount =>
        let prepared := ColumnBundleReusableBuffers.prepareColumns rowCount slot.columns
        match prepared.1 with
        | .error e => (.error e, ⟨prepared.2⟩)
        | .ok _ =>
          let filled := (readRowGroupInto source zstd m columns rowGroupId).run
            (ColumnBundleReusableBuffers.fillBuffers ⟨prepared.2⟩)
          (filled.1, ColumnBundleReusableBuffers.written ⟨prepared.2⟩ filled.2) := by
  rw [readRowGroupIntoReusable]
  rcases rowCountForRowGroup m rowGroupId with e | rowCount
  · rfl
  · rw [Fallible.lift_ok_bind, Fallible.run_bind, ColumnBundleReusableBuffers.prepareForRows]
    dsimp only
    rcases (ColumnBundleReusableBuffers.prepareColumns rowCount slot.columns).1 with e | u <;> rfl

/-- Reading into a slot only changes what is stored in it. -/
lemma shape_run_readRowGroupIntoReusable (slot : ColumnBundleReusableBuffers) :
    ((readRowGroupIntoReusable source zstd m columns rowGroupId).run slot).2.shape = slot.shape := by
  rw [run_readRowGroupIntoReusable]
  rcases rowCountForRowGroup m rowGroupId with e | rowCount
  · rfl
  · have hprepared := ColumnBundleReusableBuffers.map_emptied_prepareColumns rowCount slot.columns
    dsimp only
    generalize ColumnBundleReusableBuffers.prepareColumns rowCount slot.columns = prepared
      at hprepared ⊢
    obtain ⟨e | u, after⟩ := prepared
    · exact hprepared
    · refine Eq.trans (ColumnBundleReusableBuffers.shape_written ?_) hprepared
      rw [map_physicalType_run_readRowGroupInto, ColumnBundleReusableBuffers.fillBuffers,
        List.map_map]
      rfl

end Slot

namespace ColumnBundleFile

open ColumnBundleReusableBuffers

variable {file : ColumnBundleFile} {source : OcbReadSource} {zstd : ZstdCodec}
  {validation : OcbOpenValidationMode} {limits : OcbResourceLimits} {rowGroupId : UInt32}
  {slot slot' : ColumnBundleReusableBuffers} {report : ColumnBundleReadFillReport}

/-- What the read of a row group into a slot returns does not depend on what is stored there. -/
lemma fst_run_readRowGroupIntoReusable_congr (hfault : source.FaultFree)
    (h : openFromSource source zstd validation limits = .ok file)
    (hshape : slot.shape = slot'.shape) :
    ((readRowGroupIntoReusable source zstd file.metadata file.columns rowGroupId).run slot).1 =
      ((readRowGroupIntoReusable source zstd file.metadata file.columns rowGroupId).run slot').1 := by
  rw [run_readRowGroupIntoReusable, run_readRowGroupIntoReusable]
  rcases rowCountForRowGroup file.metadata rowGroupId with e | rowCount
  · rfl
  · have hfst := @fst_prepareColumns_congr rowCount _ _ hshape
    have hrows := @prepared_of_prepareColumns rowCount slot.columns
    have hrows' := @prepared_of_prepareColumns rowCount slot'.columns
    have hkept := ((map_emptied_prepareColumns rowCount slot.columns).trans hshape).trans
      (map_emptied_prepareColumns rowCount slot'.columns).symm
    dsimp only
    generalize prepareColumns rowCount slot.columns = prepared at hfst hrows hkept ⊢
    generalize prepareColumns rowCount slot'.columns = prepared' at hfst hrows' hkept ⊢
    obtain ⟨result, after⟩ := prepared
    obtain ⟨result', after'⟩ := prepared'
    obtain rfl : result = result' := hfst
    rcases result with e | u
    · rfl
    · exact fst_run_readRowGroupInto_congr hfault h
        (forall₂_sameRoom hkept (hrows rfl) (hrows' rfl))

/-- The buffers of a prepared slot name the columns that they were made for. -/
lemma Opened.columns_eq_of_names (h : file.Opened)
    {prepared : List ColumnBundleReusableColumnBuffer} {columns columns' : List BundleColumn}
    (hfor : List.Forall₂ ColumnBundleReusableColumnBuffer.IsFor prepared columns)
    (hcolumns : ∀ column ∈ columns, column ∈ file.columns)
    (hnames : List.Forall₂ (fun buffer column => column ∈ file.columns ∧
      ColumnBundleColumnFillBuffer.Names buffer column)
        (prepared.map ColumnBundleReusableColumnBuffer.asFillBuffer) columns') :
    columns' = columns := by
  induction hfor generalizing columns' with
  | nil =>
    cases hnames
    rfl
  | cons hhead _ ih =>
    obtain ⟨column', rest', ⟨hmem, hnamed⟩, hrest, rfl⟩ := List.forall₂_cons_left_iff.mp hnames
    obtain rfl := eq_of_nodup_map h.nodup_columnIds hmem (hcolumns _ List.mem_cons_self)
      ((hnamed.byId _ rfl).trans hhead.columnId)
    rw [ih (fun column hcolumn => hcolumns column (List.mem_cons_of_mem _ hcolumn)) hrest]

/-- The views of the buffers that were filled with the columns of a row group. -/
lemma forall₂_view {rowGroup : OcbRowGroupDescV1} {targets : List ResolvedColumnFill}
    {prepared : List ColumnBundleReusableColumnBuffer} {arrays : List ColumnArray}
    (hlimits : file.metadata.resourceLimits = limits)
    (htargets : List.Forall₂ (file.ResolvedFor source zstd limits rowGroup)
      (prepared.map ColumnBundleReusableColumnBuffer.asFillBuffer) targets)
    (hfor : List.Forall₂ ColumnBundleReusableColumnBuffer.IsFor prepared
      (targets.map ResolvedColumnFill.column))
    (harrays : (targets.mapM fun target => readColumnArray source zstd file.metadata target.column
      target.chunk rowGroup.rowCount) = .ok arrays) :
    List.Forall₂ (fun buffer array => ColumnBundleReusableColumnBuffer.view buffer
        ⟨array.columnId, rowGroup.rowCount.toNat, array.validity.isSome⟩ = .ok array)
      (List.zipWith ColumnBundleReusableColumnBuffer.written prepared
        (List.zipWith ColumnBundleColumnFillBuffer.filled
          (prepared.map ColumnBundleReusableColumnBuffer.asFillBuffer) arrays)) arrays := by
  induction prepared generalizing targets arrays with
  | nil =>
    cases htargets
    cases harrays
    exact .nil
  | cons buffer rest ih =>
    obtain ⟨target, targets', hresolved, hresolveds, rfl⟩ := List.forall₂_cons_left_iff.mp htargets
    obtain ⟨hhead, htail⟩ := List.forall₂_cons.mp hfor
    obtain ⟨array, arrays', harray, hrest, rfl⟩ :=
      List.forall₂_cons_left_iff.mp (mapM_eq_ok.mp harrays)
    exact .cons (hresolved.chunk.view_written hlimits hhead hresolved.fits harray)
      (ih hresolveds htail (mapM_eq_ok.mpr hrest))

lemma batchView_eq {rowGroup : OcbRowGroupDescV1} {arrays : List ColumnArray}
    (hviews : List.Forall₂ (fun buffer array => ColumnBundleReusableColumnBuffer.view buffer
      ⟨array.columnId, rowGroup.rowCount.toNat, array.validity.isSome⟩ = .ok array)
        slot.columns arrays) :
    batchView (fillReport ⟨rowGroup.rowGroupId, rowGroup.baseRow, rowGroup.rowCount, arrays⟩) slot =
      ColumnBatch.view ⟨rowGroup.rowGroupId, rowGroup.baseRow, rowGroup.rowCount, arrays⟩ := by
  have hcolumn : (batchView (fillReport ⟨rowGroup.rowGroupId, rowGroup.baseRow, rowGroup.rowCount,
      arrays⟩) slot).column = (ColumnBatch.view ⟨rowGroup.rowGroupId, rowGroup.baseRow,
        rowGroup.rowCount, arrays⟩).column := by
    ext1 index
    simp only [batchView, fillReport, ColumnBatch.view, List.getElem?_map]
    rcases Nat.lt_or_ge index arrays.length with hlt | hge
    · have hlt' : index < slot.columns.length := hviews.length_eq.symm ▸ hlt
      rw [List.getElem?_eq_getElem hlt, List.getElem?_eq_getElem hlt', okOr_some, okOr_some, ok_bind,
        Option.map_some, okOr_some, ok_bind]
      exact (List.forall₂_iff_get.mp hviews).2 index hlt' hlt
    · rw [List.getElem?_eq_none hge, List.getElem?_eq_none (hviews.length_eq.symm ▸ hge)]
      rfl
  have hcount : (fillReport ⟨rowGroup.rowGroupId, rowGroup.baseRow, rowGroup.rowCount,
      arrays⟩).columns.length = arrays.length := List.length_map _
  rw [batchView, ColumnBatch.view, ColumnBundleReusableBatchView.mk.injEq]
  exact ⟨rfl, rfl, rfl, hcount, hcolumn⟩

/-- The view of a slot after a row group was read into it is the batch that the owned read returns,
whatever was stored in the slot. -/
theorem view_readRowGroupIntoReusable (hfault : source.FaultFree)
    (h : openFromSource source zstd validation limits = .ok file) {columns : List BundleColumn}
    (hfor : List.Forall₂ ColumnBundleReusableColumnBuffer.IsFor slot.columns columns)
    (hcolumns : ∀ column ∈ columns, column ∈ file.columns) (hempty : columns ≠ [])
    (hrun : ((readRowGroupIntoReusable source zstd file.metadata file.columns rowGroupId).run
      slot).1 = .ok report) :
    ∃ batch, readRowGroup source zstd file.metadata file.columns rowGroupId
        (columns.map BundleColumn.id) = .ok batch ∧ report = fillReport batch ∧
      batchView report ((readRowGroupIntoReusable source zstd file.metadata file.columns
        rowGroupId).run slot).2 = batch.view := by
  rw [run_readRowGroupIntoReusable] at hrun ⊢
  revert hrun
  rcases rowCountForRowGroup file.metadata rowGroupId with e | rowCount
  · rintro ⟨⟩
  have hkept := map_emptied_prepareColumns rowCount slot.columns
  dsimp only
  generalize prepareColumns rowCount slot.columns = prepared at hkept ⊢
  obtain ⟨e | u, prepared⟩ := prepared
  · rintro ⟨⟩
  dsimp only at hkept ⊢
  intro hrun
  have hprepared := ColumnBundleReusableColumnBuffer.forall₂_isFor hkept hfor
  have hbuffers : fillBuffers ⟨prepared⟩ ≠ [] := by
    intro hnil
    obtain rfl : prepared = [] := List.map_eq_nil_iff.mp hnil
    cases hprepared
    exact hempty rfl
  obtain ⟨rowGroup, columns', batch, haccepts, hbatch, rfl, hafter⟩ :=
    (run_readRowGroupInto_eq_ok hfault h hbuffers).mp (Prod.ext hrun rfl)
  obtain rfl := (opened_of_openFromSource h).columns_eq_of_names hprepared hcolumns
    (haccepts.buffers.imp fun _ _ hnamed => ⟨hnamed.1, hnamed.2.1⟩)
  obtain ⟨targets, rfl, hprepare⟩ := haccepts.exists_prepared hfault h hbuffers
  obtain ⟨-, htargets⟩ := accepts_of_prepareFill hfault h hprepare
  have hread := hbatch
  rw [readRowGroup_targets hfault h haccepts.found htargets] at hread
  obtain ⟨arrays, harrays, rfl⟩ := map_eq_ok.mp hread
  refine ⟨_, hbatch, rfl, ?_⟩
  refine (congrArg (fun filled => batchView _ (written ⟨prepared⟩ filled)) hafter).trans ?_
  exact batchView_eq (forall₂_view (graph_of_openFromSource h).resourceLimits_eq htargets hprepared
    harrays)

end ColumnBundleFile

end ArcadiaTio.Ocb
