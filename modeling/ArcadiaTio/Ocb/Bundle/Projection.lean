import ArcadiaTio.Ocb.Bundle.ImagePlan
import ArcadiaTio.Ocb.Bundle.RecordView
import ArcadiaTio.Ocb.Bundle.VisitInto

/-!
# Visiting the fields of records

A visit can project fields of a fixed-binary column of every row group into one more buffer, which
is reused from one row group to the next.  The visitor is then handed the view of the row group and
the numbers of the fields, which are those of the column that an owned read returns
(`projectFixedBinary_spec`).
-/

namespace ArcadiaTio.Ocb

open ArcadiaTio.Lib

/-! ### Projections -/

/-- A field to project: where it lies in a record and what it is. -/
structure FixedBinaryProjectedField where
  name : Option Text
  offset : UInt32
  fieldType : FixedBinaryFieldType

/-- A column, by its id or its name, and the fields that are taken from its records. -/
structure FixedBinaryRecordProjection where
  columnId : Option UInt32
  columnName : Option Text
  expectedWidth : UInt32
  allowNulls : Bool
  fields : List FixedBinaryProjectedField

/-- The buffer for the values of one field. -/
structure ColumnBundleFixedBinaryProjectedFieldBuffer where
  name : Option Text
  offset : UInt32
  values : FixedBinaryFieldValues

/-- The buffer of a projection, with the numbers of the row group that was projected last. -/
structure ColumnBundleFixedBinaryProjectionBuffer where
  sourceColumnId : UInt32
  sourceColumnName : Text
  sourceWidth : UInt32
  fields : List ColumnBundleFixedBinaryProjectedFieldBuffer
  rowCount : ℕ

/-- What a projection has done. -/
structure FixedBinaryProjectionReport where
  rowsProjected : ℕ
  fieldsProjected : ℕ

/-- The records of a fixed-binary column. -/
def PrimitiveColumnValues.fixedBinaryRecords : PrimitiveColumnValues → Result FixedBinaryRecordView
  | .fixedBinary width bytes => FixedBinaryRecordView.new width bytes
  | _ => .error (ocbInvalidInput
    "OCB fixed-binary record projection requires a fixed-binary column")

/-! ### Projecting into a reused buffer -/

/-- The first values of a buffer, as many as there are rows. -/
def FixedBinaryFieldValues.valuesRef (values : FixedBinaryFieldValues) (rowCount : ℕ) :
    Result FixedBinaryFieldValues := do
  failIf (values.len < rowCount)
    (ocbInvalidInput "OCB fixed-binary projection buffer is too small for row group")
  return ⟨values.fieldType, values.values.take rowCount⟩

namespace ColumnBundleFixedBinaryProjectedFieldBuffer

variable (spec : FixedBinaryProjectedField) (records : FixedBinaryRecordView)

/-- The buffer is for the field. -/
def Matches (field : ColumnBundleFixedBinaryProjectedFieldBuffer)
    (spec : FixedBinaryProjectedField) : Prop :=
  field.offset = spec.offset ∧ field.values.fieldType = spec.fieldType

instance (field : ColumnBundleFixedBinaryProjectedFieldBuffer) (spec : FixedBinaryProjectedField) :
    Decidable (field.Matches spec) :=
  inferInstanceAs (Decidable (_ ∧ _))

/-- The field as a projection of its own. -/
def asProjection (field : ColumnBundleFixedBinaryProjectedFieldBuffer) :
    List FixedBinaryFieldProjectionMut :=
  [⟨spec.offset, field.values⟩]

/-- The buffer after it was projected into. -/
def written (field : ColumnBundleFixedBinaryProjectedFieldBuffer)
    (projected : List FixedBinaryFieldProjectionMut) :
    ColumnBundleFixedBinaryProjectedFieldBuffer :=
  { field with values := projected.head?.elim field.values FixedBinaryFieldProjectionMut.values }

/-- Project one field. -/
def project : Fallible ArcadiaTioError ColumnBundleFixedBinaryProjectedFieldBuffer ℕ := do
  let field ← Fallible.getState
  failIf (¬ field.Matches spec)
    (ocbInvalidInput "OCB fixed-binary projection buffer field does not match projection")
  Fallible.zoom (asProjection spec) written records.projectFields

end ColumnBundleFixedBinaryProjectedFieldBuffer

/-- What a visitor gets to see of a projection. -/
structure FixedBinaryProjectedBatchView where
  rowGroupId : UInt32
  baseRow : UInt64
  rowCount : UInt64
  sourceColumnId : UInt32
  sourceColumnName : Text
  sourceWidth : UInt32
  fields : List ColumnBundleFixedBinaryProjectedFieldBuffer

/-- What a visitor sees of one field. -/
structure FixedBinaryProjectedFieldView where
  name : Option Text
  offset : UInt32
  values : FixedBinaryFieldValues

namespace FixedBinaryProjectedBatchView

variable (view : FixedBinaryProjectedBatchView)

/-- How many fields the view has. -/
def fieldCount : ℕ := view.fields.length

/-- The field with an index. -/
def field (index : ℕ) : Result FixedBinaryProjectedFieldView := do
  let field ← okOr view.fields[index]?
    (ocbInvalidInput "OCB fixed-binary projected field index is out of bounds")
  let values ← field.values.valuesRef view.rowCount.toNat
  return ⟨field.name, field.offset, values⟩

end FixedBinaryProjectedBatchView

namespace ColumnBundleFixedBinaryProjectionBuffer

/-- Project all fields of some records into the buffer. -/
def projectRecords (records : FixedBinaryRecordView) (projection : FixedBinaryRecordProjection) :
    Fallible ArcadiaTioError ColumnBundleFixedBinaryProjectionBuffer FixedBinaryProjectionReport :=
  ⟨fun buffer =>
    if buffer.sourceWidth ≠ projection.expectedWidth ∨
        records.width ≠ projection.expectedWidth then
      (.error (ocbInvalidInput
        "OCB fixed-binary projection source width does not match projection"), buffer)
    else if buffer.fields.length ≠ projection.fields.length then
      (.error (ocbInvalidInput
        "OCB fixed-binary projection buffer field count does not match projection"), buffer)
    else
      let projected := Fallible.onEach (fun spec =>
        ColumnBundleFixedBinaryProjectedFieldBuffer.project spec records)
          (projection.fields.zip buffer.fields)
      match projected.1 with
      | .error e => (.error e, { buffer with fields := projected.2 })
      | .ok _ => (.ok ⟨records.len, projection.fields.length⟩,
          { buffer with fields := projected.2, rowCount := records.len })⟩

/-- What the visitor is shown of the buffer. -/
def view (buffer : ColumnBundleFixedBinaryProjectionBuffer) (rowGroupId : UInt32)
    (baseRow : UInt64) : FixedBinaryProjectedBatchView where
  rowGroupId
  baseRow
  rowCount := buffer.rowCount.toUInt64
  sourceColumnId := buffer.sourceColumnId
  sourceColumnName := buffer.sourceColumnName
  sourceWidth := buffer.sourceWidth
  fields := buffer.fields

end ColumnBundleFixedBinaryProjectionBuffer

/-! ### The source column -/

/-- A column is the source of a projection by its id or its name. -/
def FixedBinaryRecordProjection.names (projection : FixedBinaryRecordProjection)
    (column : ColumnArray) : Bool :=
  projection.columnId == some column.columnId || projection.columnName == some column.name

/-- The first column of a view, from `index` on, that is the source of the projection. -/
def findSourceColumn (view : ColumnBundleReusableBatchView)
    (projection : FixedBinaryRecordProjection) : ℕ → ℕ → Result (Option ColumnArray)
  | _, 0 => .ok none
  | index, count + 1 => do
    let column ← view.column index
    if projection.names column then return some column
    findSourceColumn view projection (index + 1) count

/-- The records that a view has for a projection. -/
def sourceRecords (view : ColumnBundleReusableBatchView) (projection : FixedBinaryRecordProjection)
    (buffer : ColumnBundleFixedBinaryProjectionBuffer) : Result FixedBinaryRecordView := do
  let found ← findSourceColumn view projection 0 view.columnCount
  let sourceColumn ← okOr found
    (ocbInvalidInput "OCB fixed-binary projection source column is not in the batch")
  failIf (projection.allowNulls = false ∧ sourceColumn.validity.isSome = true)
    (ocbInvalidInput "OCB fixed-binary projection source column contains nulls")
  failIf (buffer.sourceColumnId ≠ sourceColumn.columnId ∨
      buffer.sourceColumnName ≠ sourceColumn.name)
    (ocbInvalidInput "OCB fixed-binary projection buffer source column does not match batch")
  let records ← sourceColumn.values.fixedBinaryRecords
  failIf (records.width ≠ projection.expectedWidth)
    (ocbInvalidInput "OCB fixed-binary projection source width does not match projection")
  return records

/-- Project the fields of the records of a batch into the buffer. -/
def projectFixedBinaryReusableBatch (view : ColumnBundleReusableBatchView)
    (projection : FixedBinaryRecordProjection) :
    Fallible ArcadiaTioError ColumnBundleFixedBinaryProjectionBuffer FixedBinaryProjectionReport :=
  do
  let buffer ← Fallible.getState
  let records ← sourceRecords view projection buffer
  ColumnBundleFixedBinaryProjectionBuffer.projectRecords records projection

/-! ### Checks before a visit -/

/-- A field lies within a record. -/
def validateProjectedField (width : UInt32) (field : FixedBinaryProjectedField) : Result Unit := do
  let fieldEnd ← okOr (checkedAdd usizeBits field.offset.toNat field.fieldType.byteWidth)
    (ocbInvalidInput "OCB fixed-binary projection field end offset overflows")
  failIf (fieldEnd > width.toNat)
    (ocbInvalidInput "OCB fixed-binary projection field extends past record width")

/-- The column with some key, when there is a key. -/
def findProjectionColumn {α : Type} [DecidableEq α] (columns : List BundleColumn)
    (key : BundleColumn → α) (wanted : Option α) (message : String) :
    Result (Option BundleColumn) :=
  match wanted with
  | none => .ok none
  | some wanted => some <$> okOr (columns.find? fun column => key column = wanted)
    (ocbInvalidInput message)

/-- The column that was found by id and by name. -/
def agreeingColumn : Option BundleColumn → Option BundleColumn → Result BundleColumn
  | some left, some right => do
    failIf (left.id ≠ right.id)
      (ocbInvalidInput "OCB fixed-binary projection column name and id do not match")
    return left
  | some column, none | none, some column => .ok column
  | none, none => .error (ocbInvalidInput
    "OCB fixed-binary projection must identify a source column")

/-- The source column has records of the expected width. -/
def validateSourceType : ColumnPhysicalType → UInt32 → Result Unit
  | .fixedBinary width, expectedWidth => failIf (width ≠ expectedWidth) (ocbInvalidInput
      "OCB fixed-binary projection expected_width does not match source column")
  | _, _ => .error (ocbInvalidInput
      "OCB fixed-binary projection source column must be fixed-binary")

/-- A projection is about a fixed-binary column of the plan and names fields within its records. -/
def validateFixedBinaryRecordProjection (columns : List BundleColumn) (plan : ColumnBundleReadPlan)
    (projection : FixedBinaryRecordProjection) : Result BundleColumn := do
  failIf (projection.expectedWidth = 0)
    (ocbInvalidInput "OCB fixed-binary projection expected_width must be greater than zero")
  failIf (projection.fields = [])
    (ocbInvalidInput "OCB fixed-binary projection requires at least one field")
  failIf (projection.columnId = none ∧ projection.columnName = none)
    (ocbInvalidInput "OCB fixed-binary projection must identify a source column")
  let byId ← findProjectionColumn columns BundleColumn.id projection.columnId
    "OCB fixed-binary projection references an unknown column id"
  let byName ← findProjectionColumn columns BundleColumn.name projection.columnName
    "OCB fixed-binary projection references an unknown column name"
  let sourceColumn ← agreeingColumn byId byName
  failIf (sourceColumn.id ∉ plan.projectedColumnIds) (ocbInvalidInput
    "OCB fixed-binary projection source column is not in the read plan projection")
  validateSourceType sourceColumn.physicalType projection.expectedWidth
  failIf (sourceColumn.nullable = true ∧ projection.allowNulls = false)
    (ocbInvalidInput "OCB fixed-binary projection source column is nullable")
  forM projection.fields (validateProjectedField projection.expectedWidth)
  return sourceColumn

/-- A buffer has the fields of a projection. -/
def validateFixedBinaryProjectionBuffer (buffer : ColumnBundleFixedBinaryProjectionBuffer)
    (projection : FixedBinaryRecordProjection) : Result Unit := do
  failIf ((∃ id ∈ projection.columnId, buffer.sourceColumnId ≠ id) ∨
      (∃ name ∈ projection.columnName, buffer.sourceColumnName ≠ name) ∨
      buffer.sourceWidth ≠ projection.expectedWidth ∨
      buffer.fields.length ≠ projection.fields.length)
    (ocbInvalidInput "OCB fixed-binary projection buffer does not match projection")
  forM (projection.fields.zip buffer.fields) fun pair => failIf (¬ pair.2.Matches pair.1)
    (ocbInvalidInput "OCB fixed-binary projection buffer field does not match projection")

/-! ### The rows of a column -/

/-- Decoded values are those of the rows that the payload has bytes for. -/
lemma PrimitiveColumnValues.holdsRows_of_decode {type : ColumnPhysicalType} {payload : List UInt8}
    {values : PrimitiveColumnValues} {n : ℕ} (h : decodePrimitiveValues type payload = .ok values)
    (hlength : values.physicalType = type → payload.length = n * values.byteWidth) :
    values.HoldsRows n := by
  have haligned : ∀ {α : Type} {make : List α → PrimitiveColumnValues} {width : ℕ}
      {decode : List UInt8 → α} {message : String}, 0 < width →
      make <$> decodeAlignedChunks payload width decode message = .ok values →
      ∃ decoded, make decoded = values ∧ decoded.length = payload.length / width := by
    intro α make width decode message hwidth hdecode
    obtain ⟨decoded, hdecoded, hmake⟩ := map_eq_ok.mp hdecode
    obtain ⟨_, -, hdecoded⟩ := bind_eq_ok.mp hdecoded
    cases hdecoded
    refine ⟨_, hmake, ?_⟩
    rw [decodePrimitiveChunks, List.length_map, length_chunksExact]
  cases type with
  | fixedBinary width =>
    obtain ⟨_, hwidth, h⟩ := bind_eq_ok.mp h
    obtain ⟨_, -, h⟩ := bind_eq_ok.mp h
    cases h
    rw [failIf_eq_ok] at hwidth
    exact ⟨hwidth, hlength rfl⟩
  | i32 | f32 =>
    obtain ⟨decoded, rfl, hdecoded⟩ := haligned (by decide : 0 < 4) h
    have hbytes : payload.length = n * 4 := hlength rfl
    show decoded.length = n
    omega
  | i64 | f64 =>
    obtain ⟨decoded, rfl, hdecoded⟩ := haligned (by decide : 0 < 8) h
    have hbytes : payload.length = n * 8 := hlength rfl
    show decoded.length = n
    omega

section Rows

variable {source : OcbReadSource} {zstd : ZstdCodec} {m : OcbMetadataV1}
  {limits : OcbResourceLimits} {rowGroup : OcbRowGroupDescV1} {column : BundleColumn}
  {chunk : OcbColumnChunkDescV1} {array : ColumnArray}

lemma named_of_readColumnArray {expectedRows : UInt64}
    (harray : readColumnArray source zstd m column chunk expectedRows = .ok array) :
    array.columnId = column.id ∧ array.name = column.name := by
  obtain ⟨_, -, harray⟩ := bind_eq_ok.mp harray
  obtain ⟨_, -, harray⟩ := bind_eq_ok.mp harray
  obtain ⟨_, -, harray⟩ := bind_eq_ok.mp harray
  obtain ⟨_, -, harray⟩ := bind_eq_ok.mp harray
  obtain ⟨_, -, harray⟩ := bind_eq_ok.mp harray
  obtain ⟨_, -, harray⟩ := bind_eq_ok.mp harray
  cases harray
  exact ⟨rfl, rfl⟩

lemma ChunkOf.holdsRows (h : ChunkOf source zstd limits rowGroup column chunk)
    (hlimits : m.resourceLimits = limits)
    (harray : readColumnArray source zstd m column chunk rowGroup.rowCount = .ok array) :
    array.values.HoldsRows rowGroup.rowCount.toNat := by
  obtain ⟨_, -, harray⟩ := bind_eq_ok.mp harray
  obtain ⟨_, -, harray⟩ := bind_eq_ok.mp harray
  obtain ⟨_, -, harray⟩ := bind_eq_ok.mp harray
  obtain ⟨payload, hpayload, harray⟩ := bind_eq_ok.mp harray
  obtain ⟨validity, -, harray⟩ := bind_eq_ok.mp harray
  obtain ⟨decoded, hdecoded, harray⟩ := bind_eq_ok.mp harray
  cases harray
  rw [h.readChunkPayload_eq hlimits] at hpayload
  exact PrimitiveColumnValues.holdsRows_of_decode hdecoded fun htype =>
    (length_of_readAndDecodeChunk hpayload).trans (h.bytes _ htype)

/-- Every column of an owned batch is a column of the file, with the rows of the batch. -/
lemma ColumnBundleFile.exists_column_of_readRowGroup {file : ColumnBundleFile}
    {validation : OcbOpenValidationMode} (hfault : source.FaultFree)
    (h : openFromSource source zstd validation limits = .ok file) {rowGroupId : UInt32}
    {columnIds : List UInt32} {batch : ColumnBatch}
    (hread : readRowGroup source zstd file.metadata file.columns rowGroupId columnIds = .ok batch) :
    ∀ array ∈ batch.columns, array.values.HoldsRows batch.rowCount.toNat ∧
      ∃ column ∈ file.columns, array.columnId = column.id ∧ array.name = column.name := by
  obtain ⟨rowGroup, hfound, hread⟩ := bind_eq_ok.mp hread
  obtain ⟨chunkByColumn, hchunks, hread⟩ := bind_eq_ok.mp hread
  obtain ⟨arrays, harrays, hread⟩ := bind_eq_ok.mp hread
  cases hread
  have hgroup := (((opened_of_openFromSource h).invariant.rowGroupById _ _).mp
    (okOr_eq_ok.mp hfound)).1
  obtain ⟨-, hmap, hchunkOf⟩ := exists_chunkOf hfault h hgroup
  obtain rfl := Except.ok.inj (hchunks.symm.trans hmap)
  intro array harray
  obtain ⟨columnId, -, hcolumn⟩ := exists_of_forall₂ (mapM_eq_ok.mp harrays) harray
  obtain ⟨column, hcolumn', hselected⟩ := bind_eq_ok.mp hcolumn
  obtain ⟨chunk, hchunk, hselected⟩ := bind_eq_ok.mp hselected
  have hfind := okOr_eq_ok.mp hcolumn'
  obtain ⟨found, -, -, hlookup, hof⟩ := hchunkOf column (List.mem_of_find?_eq_some hfind)
  have hid : column.id = columnId := by simpa using List.find?_some hfind
  rw [hid, okOr_eq_ok.mp hchunk] at hlookup
  obtain rfl := Option.some.inj hlookup
  exact ⟨hof.holdsRows (graph_of_openFromSource h).resourceLimits_eq hselected, column,
    List.mem_of_find?_eq_some hfind, named_of_readColumnArray hselected⟩

end Rows

/-! ### What a projection leaves in its buffer -/

section Projected

variable {records : FixedBinaryRecordView} {spec : FixedBinaryProjectedField}
  {projection : FixedBinaryRecordProjection}

namespace ColumnBundleFixedBinaryProjectedFieldBuffer

variable {field field' : ColumnBundleFixedBinaryProjectedFieldBuffer}

/-- The buffer of one field holds the numbers of this field in its first rows. -/
structure Shows (field : ColumnBundleFixedBinaryProjectedFieldBuffer)
    (spec : FixedBinaryProjectedField) (records : FixedBinaryRecordView) : Prop where
  offset : field.offset = spec.offset
  values : field.values.valuesRef records.len =
    .ok ⟨spec.fieldType, records.fieldValues spec.fieldType spec.offset.toNat⟩

lemma shows_of_project {n : ℕ} (h : (project spec records).run field = (.ok n, field')) :
    field'.Shows spec records := by
  rw [project, Fallible.run_bind_of_ok Fallible.run_getState] at h
  obtain ⟨_, hmatches, h⟩ := Fallible.run_lift_bind_eq_ok.mp h
  rw [failIf_eq_ok, not_not] at hmatches
  obtain ⟨projected, hprojected, rfl⟩ := Fallible.run_zoom_eq_ok.mp h
  obtain ⟨name, offset, type, values⟩ := field
  obtain ⟨hoffset, htype⟩ := hmatches
  dsimp only at hoffset htype
  subst hoffset htype
  obtain ⟨hall, herror⟩ := records.run_projectFields [⟨spec.offset, ⟨spec.fieldType, values⟩⟩]
  by_cases haccepts : ∀ f ∈ [(⟨spec.offset, ⟨spec.fieldType, values⟩⟩ :
      FixedBinaryFieldProjectionMut)], records.Accepts f
  · obtain rfl : projected = _ := congrArg Prod.snd (hprojected.symm.trans (hall haccepts))
    refine ⟨rfl, ?_⟩
    show FixedBinaryFieldValues.valuesRef ⟨spec.fieldType,
      records.fieldValues spec.fieldType spec.offset.toNat ++ values.drop records.len⟩ _ = _
    have hroom : ¬ FixedBinaryFieldValues.len ⟨spec.fieldType,
        records.fieldValues spec.fieldType spec.offset.toNat ++ values.drop records.len⟩ <
          records.len := by
      simp [FixedBinaryFieldValues.len]
    rw [FixedBinaryFieldValues.valuesRef, failIf_neg hroom, ok_bind,
      List.take_left' (FixedBinaryRecordView.length_fieldValues _ _)]
    rfl
  · push Not at haccepts
    obtain ⟨e, hfails⟩ := herror haccepts
    have hok := congrArg Prod.fst hprojected
    rw [asProjection, hfails] at hok
    cases hok

end ColumnBundleFixedBinaryProjectedFieldBuffer

namespace ColumnBundleFixedBinaryProjectionBuffer

variable {buffer after : ColumnBundleFixedBinaryProjectionBuffer}

/-- A projection that goes through leaves the numbers of all fields behind. -/
lemma run_projectRecords_eq_ok {report : FixedBinaryProjectionReport}
    (h : (projectRecords records projection).run buffer = (.ok report, after)) :
    records.width = projection.expectedWidth ∧ after.sourceColumnId = buffer.sourceColumnId ∧
      after.sourceColumnName = buffer.sourceColumnName ∧ after.rowCount = records.len ∧
      List.Forall₂ (fun spec field =>
        ColumnBundleFixedBinaryProjectedFieldBuffer.Shows field spec records)
          projection.fields after.fields := by
  rw [projectRecords] at h
  dsimp only at h
  by_cases hwidth : buffer.sourceWidth ≠ projection.expectedWidth ∨
      records.width ≠ projection.expectedWidth
  · rw [if_pos hwidth] at h
    cases h
  rw [if_neg hwidth] at h
  by_cases hcount : buffer.fields.length ≠ projection.fields.length
  · rw [if_pos hcount] at h
    cases h
  rw [if_neg hcount] at h
  rw [not_or, not_not, not_not] at hwidth
  rw [not_not] at hcount
  rcases hprojected : Fallible.onEach (fun spec =>
    ColumnBundleFixedBinaryProjectedFieldBuffer.project spec records)
      (projection.fields.zip buffer.fields) with ⟨e | values, fields⟩
  · rw [hprojected] at h
    cases h
  rw [hprojected] at h
  obtain ⟨-, rfl⟩ := Prod.mk.inj h
  refine ⟨hwidth.2, rfl, rfl, rfl, ?_⟩
  have hshows := (Fallible.forall₂_of_onEach hprojected).imp fun pair field hrun =>
    ColumnBundleFixedBinaryProjectedFieldBuffer.shows_of_project hrun.choose_spec
  have hfst : (projection.fields.zip buffer.fields).map Prod.fst = projection.fields :=
    List.map_fst_zip (le_of_eq hcount.symm)
  dsimp only
  rw [← hfst]
  exact List.forall₂_map_left_iff.mpr hshows

/-- The names of the fields stay what they are, also when a projection fails. -/
lemma map_name_run_projectRecords :
    ((projectRecords records projection).run buffer).2.fields.map
      ColumnBundleFixedBinaryProjectedFieldBuffer.name =
        buffer.fields.map ColumnBundleFixedBinaryProjectedFieldBuffer.name := by
  rw [projectRecords]
  dsimp only
  split
  · rfl
  split
  · rfl
  rename_i _ hcount
  rw [not_not] at hcount
  have hsame : ∀ (spec : FixedBinaryProjectedField) field,
      ((ColumnBundleFixedBinaryProjectedFieldBuffer.project spec records).run field).2.name =
        field.name := by
    intro spec field
    rw [ColumnBundleFixedBinaryProjectedFieldBuffer.project,
      Fallible.run_bind_of_ok Fallible.run_getState]
    by_cases hmatches : field.Matches spec
    · rw [failIf_neg (not_not.mpr hmatches), Fallible.lift_ok_bind]
      rfl
    · rw [failIf_pos hmatches]
      rfl
  have hnames := Fallible.map_onEach hsame (projection.fields.zip buffer.fields)
  have hzip : (projection.fields.zip buffer.fields).map (fun p => p.2.name) =
      buffer.fields.map ColumnBundleFixedBinaryProjectedFieldBuffer.name := by
    have hsnd := @List.map_snd_zip _ _ projection.fields buffer.fields (le_of_eq hcount)
    rw [← congrArg (List.map ColumnBundleFixedBinaryProjectedFieldBuffer.name) hsnd, List.map_map]
    rfl
  rw [hzip] at hnames
  split
  · exact hnames
  · exact hnames

end ColumnBundleFixedBinaryProjectionBuffer

end Projected

/-! ### Projecting a batch -/

section Batch

variable {projection : FixedBinaryRecordProjection}
  {buffer after : ColumnBundleFixedBinaryProjectionBuffer} {batch : ColumnBatch}

/-- What is shown of a projection holds the numbers of the fields of an owned batch. -/
structure ShowsOwned (projection : FixedBinaryRecordProjection) (names : List (Option Text))
    (batch : ColumnBatch) (shown : FixedBinaryProjectedBatchView) : Prop where
  rowGroupId : shown.rowGroupId = batch.rowGroupId
  baseRow : shown.baseRow = batch.baseRow
  rowCount : shown.rowCount = batch.rowCount
  fieldCount : shown.fieldCount = projection.fields.length
  fields : ∃ array ∈ batch.columns, ∃ records, projection.names array = true ∧
    (projection.allowNulls = false → array.validity = none) ∧
    shown.sourceColumnId = array.columnId ∧ shown.sourceColumnName = array.name ∧
    array.values.fixedBinaryRecords = .ok records ∧ records.width = projection.expectedWidth ∧
    records.len = batch.rowCount.toNat ∧
    ∀ j spec, projection.fields[j]? = some spec → ∃ name, names[j]? = some name ∧
      shown.field j = .ok ⟨name, spec.offset,
        ⟨spec.fieldType, records.fieldValues spec.fieldType spec.offset.toNat⟩⟩

/-- The columns of the view of a batch are searched in their order. -/
lemma findSourceColumn_view (i count : ℕ) (hcount : i + count = batch.columns.length) :
    findSourceColumn batch.view projection i count =
      .ok ((batch.columns.drop i).find? projection.names) := by
  induction count generalizing i with
  | zero =>
    rw [List.drop_of_length_le (by omega)]
    rfl
  | succ count ih =>
    have hi : i < batch.columns.length := by omega
    have hcolumn : batch.view.column i = .ok batch.columns[i] := by
      show okOr batch.columns[i]? _ = _
      rw [List.getElem?_eq_getElem hi, okOr_some]
    rw [findSourceColumn, hcolumn, ok_bind, List.drop_eq_getElem_cons hi, List.find?_cons]
    by_cases hnames : projection.names batch.columns[i] = true
    · simp only [hnames, if_true]
      rfl
    · rw [if_neg hnames, ih (i + 1) (by omega)]
      rw [Bool.not_eq_true] at hnames
      rw [hnames]

lemma sourceRecords_eq_ok {records : FixedBinaryRecordView}
    (h : sourceRecords batch.view projection buffer = .ok records) :
    ∃ array ∈ batch.columns, projection.names array = true ∧
      (projection.allowNulls = false → array.validity = none) ∧
      buffer.sourceColumnId = array.columnId ∧ buffer.sourceColumnName = array.name ∧
      array.values.fixedBinaryRecords = .ok records := by
  obtain ⟨found, hfound, h⟩ := bind_eq_ok.mp h
  obtain ⟨array, harray, h⟩ := bind_eq_ok.mp h
  obtain ⟨_, hnulls, h⟩ := bind_eq_ok.mp h
  obtain ⟨_, hsource, h⟩ := bind_eq_ok.mp h
  obtain ⟨_, hrecords, h⟩ := bind_eq_ok.mp h
  obtain ⟨_, -, h⟩ := bind_eq_ok.mp h
  cases h
  change findSourceColumn batch.view projection 0 batch.columns.length = _ at hfound
  rw [findSourceColumn_view 0 _ (Nat.zero_add _), List.drop_zero] at hfound
  cases hfound
  have hfind := okOr_eq_ok.mp harray
  rw [failIf_eq_ok] at hnulls hsource
  push Not at hnulls hsource
  refine ⟨array, List.mem_of_find?_eq_some hfind, List.find?_some hfind, fun hallow => ?_,
    hsource.1, hsource.2, hrecords⟩
  simpa using hnulls hallow

/-- The records of a column are its rows. -/
lemma PrimitiveColumnValues.len_of_fixedBinaryRecords {values : PrimitiveColumnValues}
    {records : FixedBinaryRecordView} {n : ℕ} (h : values.fixedBinaryRecords = .ok records)
    (hrows : values.HoldsRows n) : records.len = n := by
  cases values with
  | fixedBinary width bytes =>
    obtain ⟨hwidth, hlength⟩ := hrows
    have hbytes : bytes.length = n * width.toNat := hlength
    have haligned : bytes.length % width.toNat = 0 := by
      rw [hbytes]
      exact Nat.mul_mod_left _ _
    rw [PrimitiveColumnValues.fixedBinaryRecords,
      FixedBinaryRecordView.new_of_aligned hwidth haligned] at h
    cases h
    show bytes.length / width.toNat = n
    have hpos : 0 < width.toNat := Nat.pos_of_ne_zero fun h0 =>
      hwidth (UInt32.toNat_inj.mp (h0.trans UInt32.toNat_zero.symm))
    rw [hbytes, Nat.mul_div_cancel _ hpos]
  | _ => cases h

/-- A projection of a batch that goes through leaves a buffer that shows its numbers. -/
lemma showsOwned_of_project {report : FixedBinaryProjectionReport}
    (hrows : ∀ array ∈ batch.columns, array.values.HoldsRows batch.rowCount.toNat)
    (h : (projectFixedBinaryReusableBatch batch.view projection).run buffer = (.ok report, after)) :
    ShowsOwned projection (buffer.fields.map ColumnBundleFixedBinaryProjectedFieldBuffer.name) batch
      (after.view batch.rowGroupId batch.baseRow) := by
  rw [projectFixedBinaryReusableBatch, Fallible.run_bind_of_ok Fallible.run_getState] at h
  obtain ⟨records, hrecords, h⟩ := Fallible.run_lift_bind_eq_ok.mp h
  obtain ⟨array, harray, hnames, hnulls, hid, hname, hview⟩ := sourceRecords_eq_ok hrecords
  have hfieldNames :=
    @ColumnBundleFixedBinaryProjectionBuffer.map_name_run_projectRecords records projection buffer
  rw [h] at hfieldNames
  obtain ⟨hwidth, hid', hname', hcount, hshows⟩ :=
    ColumnBundleFixedBinaryProjectionBuffer.run_projectRecords_eq_ok h
  have hlen := PrimitiveColumnValues.len_of_fixedBinaryRecords hview (hrows array harray)
  have hrowCount : (after.view batch.rowGroupId batch.baseRow).rowCount = batch.rowCount := by
    show after.rowCount.toUInt64 = batch.rowCount
    rw [hcount, hlen]
    exact UInt64.ofNat_toNat
  refine ⟨rfl, rfl, hrowCount, hshows.length_eq.symm, array, harray, records, hnames, hnulls,
    hid'.trans hid, hname'.trans hname, hview, hwidth, hlen, fun j spec hspec => ?_⟩
  obtain ⟨hj, rfl⟩ := List.getElem?_eq_some_iff.mp hspec
  have hj' : j < after.fields.length := hshows.length_eq ▸ hj
  obtain ⟨hoffset, hvalues⟩ := (List.forall₂_iff_get.mp hshows).2 j hj hj'
  rw [List.get_eq_getElem] at hoffset hvalues
  refine ⟨after.fields[j].name, ?_, ?_⟩
  · rw [← hfieldNames, List.getElem?_map, List.getElem?_eq_getElem hj']
    rfl
  · rw [FixedBinaryProjectedBatchView.field, hrowCount, ← hlen]
    show okOr after.fields[j]? _ >>= _ = _
    rw [List.getElem?_eq_getElem hj', okOr_some, ok_bind, hvalues, ok_bind, hoffset]
    rfl

lemma map_name_run_projectFixedBinaryReusableBatch (view : ColumnBundleReusableBatchView) :
    ((projectFixedBinaryReusableBatch view projection).run buffer).2.fields.map
      ColumnBundleFixedBinaryProjectedFieldBuffer.name =
        buffer.fields.map ColumnBundleFixedBinaryProjectedFieldBuffer.name := by
  rw [projectFixedBinaryReusableBatch, Fallible.run_bind_of_ok Fallible.run_getState]
  rcases hrecords : sourceRecords view projection buffer with e | records
  · rfl
  · rw [Fallible.lift_ok_bind]
    exact ColumnBundleFixedBinaryProjectionBuffer.map_name_run_projectRecords

end Batch

/-! ### The column of a projection -/

lemma exists_of_findProjectionColumn {α : Type} [DecidableEq α] {columns : List BundleColumn}
    {key : BundleColumn → α} {wanted : Option α} {message : String} {k : α}
    {found : Option BundleColumn} (hwanted : wanted = some k)
    (h : findProjectionColumn columns key wanted message = .ok found) :
    ∃ column, found = some column ∧ column ∈ columns ∧ key column = k := by
  subst hwanted
  obtain ⟨column, hcolumn, rfl⟩ := map_eq_ok.mp h
  have hfind := okOr_eq_ok.mp hcolumn
  exact ⟨column, rfl, List.mem_of_find?_eq_some hfind, by simpa using List.find?_some hfind⟩

/-- The column that was found by id and the one that was found by name have one id. -/
lemma id_of_agreeingColumn {byId byName : Option BundleColumn} {column : BundleColumn}
    (h : agreeingColumn byId byName = .ok column) :
    (∀ left, byId = some left → left.id = column.id) ∧
      ∀ right, byName = some right → right.id = column.id := by
  cases byId with
  | none =>
    cases byName with
    | none => cases h
    | some right =>
      cases h
      refine ⟨fun _ hleft => ?_, fun _ hright => ?_⟩
      · cases hleft
      · cases hright
        rfl
  | some left =>
    cases byName with
    | none =>
      cases h
      refine ⟨fun _ hleft => ?_, fun _ hright => ?_⟩
      · cases hleft
        rfl
      · cases hright
    | some right =>
      obtain ⟨_, hsame, h⟩ := bind_eq_ok.mp h
      cases h
      rw [failIf_eq_ok, not_not] at hsame
      refine ⟨fun _ hleft => ?_, fun _ hright => ?_⟩
      · cases hleft
        rfl
      · cases hright
        exact hsame.symm

/-! ### Visiting with a projection -/

section Visitor

variable {S : Type} {projection : FixedBinaryRecordProjection}
  {visitor : S → ColumnBundleReusableBatchView → FixedBinaryProjectedBatchView →
    S × Result ColumnBundleVisitControl}

/-- Project a row group into the buffer and hand both to the visitor. -/
def projectingVisitor (projection : FixedBinaryRecordProjection)
    (visitor : S → ColumnBundleReusableBatchView → FixedBinaryProjectedBatchView →
      S × Result ColumnBundleVisitControl)
    (s : ColumnBundleFixedBinaryProjectionBuffer × S) (view : ColumnBundleReusableBatchView) :
    (ColumnBundleFixedBinaryProjectionBuffer × S) × Result ColumnBundleVisitControl :=
  match (projectFixedBinaryReusableBatch view projection).run s.1 with
  | (.error e, buffer) => ((buffer, s.2), .error e)
  | (.ok _, buffer) =>
    let visited := visitor s.2 view (buffer.view view.rowGroupId view.baseRow)
    ((buffer, visited.1), visited.2)

/-- The names of the fields of a buffer. -/
def ColumnBundleFixedBinaryProjectionBuffer.names
    (buffer : ColumnBundleFixedBinaryProjectionBuffer) : List (Option Text) :=
  buffer.fields.map ColumnBundleFixedBinaryProjectedFieldBuffer.name

/-- A batch is projected and shown, or its projection fails and the visitor is not called. -/
lemma projectingVisitor_cases {batch : ColumnBatch}
    (hrows : ∀ array ∈ batch.columns, array.values.HoldsRows batch.rowCount.toNat)
    (s : ColumnBundleFixedBinaryProjectionBuffer × S) :
    (projectingVisitor projection visitor s batch.view).1.1.names = s.1.names ∧
      ((∃ shown, ShowsOwned projection s.1.names batch shown ∧
          (projectingVisitor projection visitor s batch.view).1.2 =
            (visitor s.2 batch.view shown).1) ∨
        (projectingVisitor projection visitor s batch.view).1.2 = s.2 ∧
          ∃ e, (projectingVisitor projection visitor s batch.view).2 = .error e) := by
  have hnames := @map_name_run_projectFixedBinaryReusableBatch projection s.1 batch.view
  rw [projectingVisitor]
  rcases hrun : (projectFixedBinaryReusableBatch batch.view projection).run s.1 with
    ⟨e | report, buffer⟩
  · rw [hrun] at hnames
    exact ⟨hnames, Or.inr ⟨rfl, e, rfl⟩⟩
  · rw [hrun] at hnames
    exact ⟨hnames, Or.inl ⟨_, showsOwned_of_project hrows hrun, rfl⟩⟩

/-- Batches are shown one after the other; only the last of them may fail to be projected. -/
lemma exists_shown {batches : List ColumnBatch}
    (hrows : ∀ batch ∈ batches, ∀ array ∈ batch.columns,
      array.values.HoldsRows batch.rowCount.toNat)
    (s : ColumnBundleFixedBinaryProjectionBuffer × S)
    (hcontinued : ∀ i batch, i + 1 < batches.length → batches[i]? = some batch →
      (projectingVisitor projection visitor ((batches.take i).foldl
        (fun s batch => (projectingVisitor projection visitor s batch.view).1) s) batch.view).2 =
          .ok .continue) :
    ∃ shown : List FixedBinaryProjectedBatchView,
      shown.length ≤ batches.length ∧ batches.length ≤ shown.length + 1 ∧
      List.Forall₂ (ShowsOwned projection s.1.names) (batches.take shown.length) shown ∧
      (batches.foldl (fun s batch => (projectingVisitor projection visitor s batch.view).1) s).2 =
        (batches.zip shown).foldl (fun s p => (visitor s p.1.view p.2).1) s.2 := by
  induction batches generalizing s with
  | nil => exact ⟨[], le_rfl, Nat.zero_le _, .nil, rfl⟩
  | cons batch rest ih =>
    obtain ⟨hnames, ⟨first, hshows, hstate⟩ | ⟨hstate, e, hfailed⟩⟩ :=
      @projectingVisitor_cases S projection visitor batch (hrows batch List.mem_cons_self) s
    · obtain ⟨shown, hle, hge, hall, hfold⟩ := ih
        (fun other hother => hrows other (List.mem_cons_of_mem _ hother))
        (projectingVisitor projection visitor s batch.view).1 fun i other hi hother =>
          hcontinued (i + 1) other (by rw [List.length_cons]; omega) hother
      rw [hnames] at hall
      refine ⟨first :: shown, Nat.succ_le_succ hle, Nat.succ_le_succ hge, .cons hshows hall, ?_⟩
      rw [List.foldl_cons, hfold, hstate]
      rfl
    · -- nothing follows a batch that fails
      have hlast : rest = [] := by
        by_contra hrest
        have hlength := List.length_pos_of_ne_nil hrest
        have hcontinue := hcontinued 0 batch (by rw [List.length_cons]; omega) rfl
        rw [List.take_zero, List.foldl_nil, hfailed] at hcontinue
        cases hcontinue
      subst hlast
      exact ⟨[], Nat.zero_le _, le_rfl, .nil, hstate⟩

end Visitor

namespace ColumnBundleFile

variable {file : ColumnBundleFile} {source : OcbReadSource} {zstd : ZstdCodec}
  {validation : OcbOpenValidationMode} {limits : OcbResourceLimits} {plan : ColumnBundleReadPlan}
  {rowGroupIds : List UInt32} {options : ColumnBundleReadCursorOptions}
  {pool : ColumnBundleReusableBufferPool}

section

variable (run : VisitIntoRun file plan rowGroupIds options pool) {S : Type}
  {visitor : S → ColumnBundleReusableBatchView → S × Result ColumnBundleVisitControl} {s₀ : S}

/-- In every state that some interleaving reaches, owned batches have been handed to the visitor,
and all but the last said to continue. -/
lemma VisitIntoRun.exists_visited (hfault : source.FaultFree)
    (h : openFromSource source zstd validation limits = .ok file)
    {s : SlotState run.threads ColumnBundleReusableBuffers ColumnBundleReadFillReport
      ArcadiaTioError S} (hs : s.Reachable (run.visitExecutionPlanInto zstd visitor s₀)) :
    ∃ k ≤ run.tasks.length, ∃ batches, batches.length = k ∧
      s.executor.coordinator.calls = List.range k ∧
      (run.executed.rowGroupIds.take k).mapM (file.readPlanRowGroup zstd run.executed) =
        .ok batches ∧
      s.executor.coordinator.commitState =
        batches.foldl (fun s batch => (visitor s batch.view).1) s₀ ∧
      ∀ i batch, i + 1 < k → batches[i]? = some batch →
        (visitor ((batches.take i).foldl (fun s batch => (visitor s batch.view).1) s₀)
          batch.view).2 = .ok .continue := by
  have hob := @VisitIntoRun.oblivious _ _ _ _ _ _ _ _ _ run S visitor s₀ hfault h
  have hslots : 0 < (run.visitExecutionPlanInto zstd visitor s₀).slotCount := run.waveSize_pos
  have hW := run.threads_pos (opened_of_openFromSource h)
  have hisolated := hs.isolated hob hslots hW
  obtain ⟨k, hcommitted⟩ := ExecutorState.committed_of_reachable _ hslots hW hisolated.executor
  obtain ⟨batches, hbatches, rfl, hcommits⟩ := run.exists_batches hfault h hcommitted.le
    hcommitted.prepared
  refine ⟨_, hcommitted.le, batches, rfl, hcommitted.calls, hbatches,
    hcommitted.commitState.trans (BoundedOrdered.stateBefore_eq_foldl hcommits),
    fun i batch hi hbatch => ?_⟩
  exact (BoundedOrdered.control_eq_foldl hcommits hbatch).symm.trans (hcommitted.continued i hi)

end

/-- The column that a validated projection is about is the only one that it names. -/
lemma Opened.id_of_names (h : file.Opened) {projection : FixedBinaryRecordProjection}
    {sourceColumn column : BundleColumn} {array : ColumnArray}
    (hvalidated :
      validateFixedBinaryRecordProjection file.columns plan projection = .ok sourceColumn)
    (hcolumn : column ∈ file.columns) (hid : array.columnId = column.id)
    (hname : array.name = column.name) (hnames : projection.names array = true) :
    column.id = sourceColumn.id := by
  obtain ⟨_, -, hvalidated⟩ := bind_eq_ok.mp hvalidated
  obtain ⟨_, -, hvalidated⟩ := bind_eq_ok.mp hvalidated
  obtain ⟨_, -, hvalidated⟩ := bind_eq_ok.mp hvalidated
  obtain ⟨byId, hbyId, hvalidated⟩ := bind_eq_ok.mp hvalidated
  obtain ⟨byName, hbyName, hvalidated⟩ := bind_eq_ok.mp hvalidated
  obtain ⟨found, hagreeing, hvalidated⟩ := bind_eq_ok.mp hvalidated
  obtain rfl : found = sourceColumn := by
    obtain ⟨_, -, hvalidated⟩ := bind_eq_ok.mp hvalidated
    obtain ⟨_, -, hvalidated⟩ := bind_eq_ok.mp hvalidated
    obtain ⟨_, -, hvalidated⟩ := bind_eq_ok.mp hvalidated
    obtain ⟨_, -, hvalidated⟩ := bind_eq_ok.mp hvalidated
    exact Except.ok.inj hvalidated
  obtain ⟨hfromId, hfromName⟩ := id_of_agreeingColumn hagreeing
  rw [FixedBinaryRecordProjection.names, hid, hname, Bool.or_eq_true, beq_iff_eq, beq_iff_eq]
    at hnames
  rcases hnames with hwanted | hwanted
  · obtain ⟨left, rfl, -, hleft⟩ := exists_of_findProjectionColumn hwanted hbyId
    exact hleft.symm.trans (hfromId left rfl)
  · obtain ⟨right, rfl, hright, hsame⟩ := exists_of_findProjectionColumn hwanted hbyName
    obtain rfl := eq_of_nodup_map h.nodup_names hright hcolumn hsame
    exact hfromName right rfl

/-- An execution that a visit with a projection starts. -/
structure ProjectingRun (file : ColumnBundleFile) (plan : ColumnBundleReadPlan)
    (rowGroupIds : List UInt32) (options : ColumnBundleReadCursorOptions)
    (pool : ColumnBundleReusableBufferPool) (projection : FixedBinaryRecordProjection)
    (buffer : ColumnBundleFixedBinaryProjectionBuffer)
    extends VisitIntoRun file plan rowGroupIds options pool where
  sourceColumn : BundleColumn
  validated : validateFixedBinaryRecordProjection file.columns plan projection = .ok sourceColumn
  fitting : validateFixedBinaryProjectionBuffer buffer projection = .ok ()

/-- Fields are projected exactly when all of them lie in the record and all buffers have room, and
then every buffer begins with the numbers of its field and goes on as before.  In every state that
some interleaving of a visit with a projection reaches, the visitor has been handed row groups in
the order of the plan, each with the numbers of the column that the owned read returns; only the
last of them may have failed to be projected. -/
theorem projectFixedBinary_spec :
    (∀ (records : FixedBinaryRecordView) (fields : List FixedBinaryFieldProjectionMut),
      ((records.projectFields.run fields).1.isOk = true ↔ ∀ field ∈ fields,
        field.offset.toNat + field.values.fieldType.byteWidth ≤ records.width.toNat ∧
          records.len ≤ field.values.len) ∧
      ∀ rows after, records.projectFields.run fields = (.ok rows, after) →
        rows = records.len ∧ List.Forall₂ (fun field projected =>
          projected = ⟨field.offset, field.values.fieldType,
            records.fieldValues field.values.fieldType field.offset.toNat ++
              field.values.values.drop records.len⟩) fields after) ∧
    ∀ {S : Type} {projection : FixedBinaryRecordProjection}
      {buffer : ColumnBundleFixedBinaryProjectionBuffer}
      {visitor : S → ColumnBundleReusableBatchView → FixedBinaryProjectedBatchView →
        S × Result ColumnBundleVisitControl} {s₀ : S}
      (run : ProjectingRun file plan rowGroupIds options pool projection buffer),
      source.FaultFree → openFromSource source zstd validation limits = .ok file →
      ∀ s : SlotState run.threads ColumnBundleReusableBuffers ColumnBundleReadFillReport
        ArcadiaTioError (ColumnBundleFixedBinaryProjectionBuffer × S),
      s.Reachable (run.visitExecutionPlanInto zstd (projectingVisitor projection visitor)
        (buffer, s₀)) →
      ∃ k ≤ run.tasks.length, ∃ batches shown, s.executor.coordinator.calls = List.range k ∧
        (run.executed.rowGroupIds.take k).mapM (file.readPlanRowGroup zstd run.executed) =
          .ok batches ∧
        shown.length ≤ k ∧ k ≤ shown.length + 1 ∧
        List.Forall₂ (ShowsOwned projection buffer.names) (batches.take shown.length) shown ∧
        (∀ view ∈ shown, view.sourceColumnId = run.sourceColumn.id) ∧
        s.executor.coordinator.commitState.2 =
          (batches.zip shown).foldl (fun s p => (visitor s p.1.view p.2).1) s₀ := by
  refine ⟨fun records fields => ?_, ?_⟩
  · obtain ⟨hall, hfails⟩ := records.run_projectFields fields
    by_cases haccepts : ∀ field ∈ fields, records.Accepts field
    · rw [hall haccepts]
      refine ⟨iff_of_true rfl fun field hfield => ?_, fun rows after hrun => ?_⟩
      · obtain ⟨hwithin, hroom⟩ := haccepts field hfield
        exact ⟨hwithin, hroom⟩
      · obtain ⟨hrows, rfl⟩ := Prod.mk.inj hrun
        refine ⟨(Except.ok.inj hrows).symm, ?_⟩
        rw [List.forall₂_map_right_iff]
        exact List.forall₂_same.mpr fun field _ => rfl
    · have hrejected := haccepts
      push Not at hrejected
      obtain ⟨e, herror⟩ := hfails hrejected
      refine ⟨iff_of_false ?_ fun hbounds => haccepts fun field hfield =>
        ⟨(hbounds field hfield).1, (hbounds field hfield).2⟩, fun rows after hrun => ?_⟩
      · rw [herror]
        rintro ⟨⟩
      · rw [hrun] at herror
        cases herror
  · intro S projection buffer visitor s₀ run hfault h s hs
    obtain ⟨k, hk, batches, rfl, hcalls, hbatches, hstate, hcontinued⟩ :=
      run.toVisitIntoRun.exists_visited hfault h hs
    -- the arrays of a decoded row group are columns of the file and hold its rows
    have hcolumns : ∀ batch ∈ batches, ∀ array ∈ batch.columns,
        array.values.HoldsRows batch.rowCount.toNat ∧
          ∃ column ∈ file.columns, array.columnId = column.id ∧ array.name = column.name := by
      intro batch hbatch
      obtain ⟨id, -, hread⟩ := exists_of_forall₂ (mapM_eq_ok.mp hbatches) hbatch
      rw [readPlanRowGroup, source_of_openFromSource h] at hread
      exact exists_column_of_readRowGroup hfault h hread
    have hrows : ∀ batch ∈ batches, ∀ array ∈ batch.columns,
        array.values.HoldsRows batch.rowCount.toNat := by
      exact fun batch hbatch array harray => (hcolumns batch hbatch array harray).1
    obtain ⟨shown, hle, hge, hshows, hfold⟩ :=
      exists_shown hrows (buffer, s₀) hcontinued
    refine ⟨_, hk, batches, shown, hcalls, hbatches, hle, hge, hshows, fun view hview => ?_, ?_⟩
    -- the column of the projection is found by its name, and names are distinct
    · obtain ⟨batch, hbatch, howned⟩ := exists_of_forall₂ hshows hview
      obtain ⟨array, harray, _, hnames, -, hid, -⟩ := howned.fields
      obtain ⟨-, column, hcolumn, hcolumnId, hname⟩ :=
        hcolumns batch (List.mem_of_mem_take hbatch) array harray
      rw [hid, hcolumnId]
      exact (opened_of_openFromSource h).id_of_names run.validated hcolumn hcolumnId hname hnames
    · rw [hstate]
      exact hfold

end ColumnBundleFile

/-! ### A file of records -/

namespace Sample

/-- The name of the column of records. -/
def recordsName : Text := ⟨"records", by decide⟩

/-- Two records of two bytes each. -/
def recordTable : TableImage where
  rowCount := 2
  columns := [⟨recordsName, .fixedBinary 2 [1, 0, 2, 0]⟩]

lemma small_recordTable : recordTable.Small where
  columns := by decide
  rows := by decide
  names c hc := by
    obtain rfl := List.mem_singleton.mp hc
    decide
  nodup := List.nodup_singleton _
  payloads c hc := by
    obtain rfl := List.mem_singleton.mp hc
    decide
  holds c hc := by
    obtain rfl := List.mem_singleton.mp hc
    exact ⟨by decide, rfl⟩

/-- A slot for the column of records. -/
def recordSlot : ColumnBundleReusableBuffers :=
  ⟨[{ columnId := 0, name := recordsName, physicalType := .fixedBinary 2, logicalKind := .plain
      dictionaryId := none, nullable := false, values := .fixedBinary 2 [], validityBytes := []
      allowNulls := false }]⟩

/-- The records as numbers. -/
def recordProjection : FixedBinaryRecordProjection where
  columnId := some 0
  columnName := none
  expectedWidth := 2
  allowNulls := false
  fields := [⟨none, 0, .u16Le⟩]

/-- A buffer with room for three numbers. -/
def recordBuffer : ColumnBundleFixedBinaryProjectionBuffer where
  sourceColumnId := 0
  sourceColumnName := recordsName
  sourceWidth := 2
  fields := [⟨none, 0, ⟨.u16Le, [7, 7, 7]⟩⟩]
  rowCount := 0

lemma selected_ne_nil : (plan.ofSelected [0]).rowGroupIds ≠ [] := List.cons_ne_nil _ _

/-- A visit of the records that projects them. -/
def projectingRun : ColumnBundleFile.ProjectingRun (recordTable.file small_recordTable) plan [0]
    ⟨4, true⟩ ⟨[recordSlot]⟩ recordProjection recordBuffer where
  executed := plan.ofSelected [0]
  tasks := [⟨0, 0, 0, 2, 2⟩]
  visited := rfl
  nonempty := selected_ne_nil
  admitted := (validateInFlight_of_owned rfl (u := ()) rfl _).1
  described := rfl
  sourceColumn := TableImage.bundleColumn 0 ⟨recordsName, .fixedBinary 2 [1, 0, 2, 0]⟩
  validated := rfl
  fitting := rfl

end Sample

open ColumnBundleFile in
/-- The field of the two records is projected, and when the visit of their file has finished, the
visitor has been handed the row groups in the order of the plan. -/
theorem projectFixedBinary_spec_sample :
    ((FixedBinaryRecordView.mk 2 [1, 0, 2, 0] (by decide) (by decide)).projectFields.run
      [⟨0, ⟨.u16Le, [7, 7, 7]⟩⟩]).1.isOk = true ∧
    ∃ (s : SlotState Sample.projectingRun.threads _ _ _
        (ColumnBundleFixedBinaryProjectionBuffer × ℕ)) (outcome : Outcome ArcadiaTioError),
      s.Reachable (Sample.projectingRun.visitExecutionPlanInto (fun _ _ => ⟨[], true⟩)
        (projectingVisitor Sample.recordProjection fun n _ _ => (n + 1, .ok .continue))
          (Sample.recordBuffer, 0)) ∧
      s.executor.coordinator.pc = .returned .finished outcome ∧
      ∃ k ≤ 1, s.executor.coordinator.calls = List.range k := by
  obtain ⟨hfields, hruns⟩ := @projectFixedBinary_spec
    (Sample.recordTable.file Sample.small_recordTable)
    (Sample.recordTable.source Sample.small_recordTable) (fun _ _ => ⟨[], true⟩) .metadataGraph
    .policyA Sample.plan [0] ⟨4, true⟩ ⟨[Sample.recordSlot]⟩
  have hopen := TableImage.openFromSource_source Sample.small_recordTable fun _ _ => ⟨[], true⟩
  refine ⟨(hfields _ _).1.mpr fun field hfield => ?_, ?_⟩
  · obtain rfl := List.mem_singleton.mp hfield
    decide
  · obtain ⟨s, outcome, hs, hpc⟩ := Sample.projectingRun.toVisitIntoRun.exists_finished
      (OcbReadSource.faultFree_ofBytes _ _) hopen
    obtain ⟨k, hk, _, _, hcalls, -⟩ := hruns Sample.projectingRun
      (OcbReadSource.faultFree_ofBytes _ _) hopen s hs
    exact ⟨s, outcome, hs, hpc, k, hk, hcalls⟩

end ArcadiaTio.Ocb
