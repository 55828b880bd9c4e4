import ArcadiaTio.Ocb.Bundle.ReusablePool
import Mathlib.Algebra.BigOperators.Ring.List

/-!
# A buffer for projected fields

The buffer for the fields of a projection is allocated for a plan.  It has room for every row group
of the plan, and a visit that uses it never fails for the projection: whatever row group has been
read is shown to the visitor with its numbers (`fixedBinaryProjectionBufferForPlan_spec`).
-/

namespace ArcadiaTio.Ocb

open ArcadiaTio.Lib

/-! ### Allocation -/

/-- The value that a new buffer is filled with. -/
def FixedBinaryFieldType.zero : (type : FixedBinaryFieldType) → type.Value
  | u8 => (0 : UInt8)
  | i8 => (0 : Int8)
  | u16Le => (0 : UInt16)
  | i16Le => (0 : Int16)
  | u32Le => (0 : UInt32)
  | i32Le => (0 : Int32)
  | u64Le => (0 : UInt64)
  | i64Le => (0 : Int64)

/-- New storage for so many numbers. -/
def FixedBinaryFieldValues.new (type : FixedBinaryFieldType) (capacity : ℕ) :
    FixedBinaryFieldValues :=
  ⟨type, List.replicate capacity type.zero⟩

/-- A buffer with room for `rowCapacity` rows of every field. -/
def ColumnBundleFixedBinaryProjectionBuffer.forProjection (sourceColumn : BundleColumn)
    (projection : FixedBinaryRecordProjection) (capacity : ℕ) :
    ColumnBundleFixedBinaryProjectionBuffer where
  sourceColumnId := sourceColumn.id
  sourceColumnName := sourceColumn.name
  sourceWidth := projection.expectedWidth
  fields := projection.fields.map fun field =>
    ⟨field.name, field.offset, .new field.fieldType capacity⟩
  rowCount := 0

/-- The bytes of the fields of one record. -/
def FixedBinaryRecordProjection.fieldWidths (projection : FixedBinaryRecordProjection) : Option ℕ :=
  projection.fields.foldlM (fun total field => checkedAdd 64 total field.fieldType.byteWidth) 0

/-- A row group fits its limit together with the fields that are projected from it. -/
def validateProjectedFootprint (limits : OcbResourceLimits) (fieldWidths : ℕ)
    (footprint : SelectedResourceFootprint) : Result Unit := do
  let projectedBytes ← okOr ((checkedMul 64 footprint.rowCount fieldWidths).bind fun bytes =>
      checkedAdd 64 bytes footprint.decodedMaterializedBytes)
    (ocbInvalidInput "OCB fixed-binary projection row-group accounting overflows")
  failIf (projectedBytes > limits.maxProjectedRowGroupBytes.toNat)
    (ocbInvalidInput "OCB fixed-binary projection exceeds projected row-group resource limit")

/-- The buffer of a projection is within the limits. -/
def validateFixedBinaryProjectionResourceLimits (m : OcbMetadataV1) (plan : ColumnBundleReadPlan)
    (projection : FixedBinaryRecordProjection) (rowCapacity : ℕ) : Result Unit := do
  let fieldWidths ← okOr projection.fieldWidths
    (ocbInvalidInput "OCB fixed-binary projection field-width accounting overflows")
  let bufferBytes ← okOr (checkedMul 64 rowCapacity fieldWidths)
    (ocbInvalidInput "OCB fixed-binary projection buffer accounting overflows")
  failIf (bufferBytes > m.resourceLimits.maxOwnedDecodedMaterializedBytes.toNat) (ocbInvalidInput
    "OCB fixed-binary projection buffer exceeds decoded materialization resource limit")
  let footprints ← selectedResourceFootprintsForPlan m plan
  forM footprints (validateProjectedFootprint m.resourceLimits fieldWidths)

/-- A buffer for the fields of a projection of any row group of a plan. -/
def ColumnBundleFile.fixedBinaryProjectionBufferForPlan (file : ColumnBundleFile)
    (plan : ColumnBundleReadPlan) (projection : FixedBinaryRecordProjection) :
    Result ColumnBundleFixedBinaryProjectionBuffer := do
  file.validateReadPlan plan
  let sourceColumn ← validateFixedBinaryRecordProjection file.columns plan projection
  validateInFlightPlanResourceLimits file.metadata plan 1
  let rowCapacity ← maxRowCountForPlan file.metadata plan
  validateFixedBinaryProjectionResourceLimits file.metadata plan projection rowCapacity
  return .forProjection sourceColumn projection rowCapacity

/-! ### Buffers with room -/

/-- A buffer is for a projection from a column, and has room for `n` records. -/
structure ColumnBundleFixedBinaryProjectionBuffer.FitsFor
    (buffer : ColumnBundleFixedBinaryProjectionBuffer) (sourceColumn : BundleColumn)
    (projection : FixedBinaryRecordProjection) (n : ℕ) : Prop where
  sourceColumnId : buffer.sourceColumnId = sourceColumn.id
  sourceColumnName : buffer.sourceColumnName = sourceColumn.name
  sourceWidth : buffer.sourceWidth = projection.expectedWidth
  fields : List.Forall₂ (fun spec field =>
    ColumnBundleFixedBinaryProjectedFieldBuffer.Matches field spec ∧ n ≤ field.values.len)
      projection.fields buffer.fields

section Fitting

variable {sourceColumn : BundleColumn} {projection : FixedBinaryRecordProjection} {n : ℕ}
  {buffer after : ColumnBundleFixedBinaryProjectionBuffer} {records : FixedBinaryRecordView}

lemma fitsFor_forProjection : (ColumnBundleFixedBinaryProjectionBuffer.forProjection sourceColumn
    projection n).FitsFor sourceColumn projection n := by
  refine ⟨rfl, rfl, rfl, List.forall₂_map_right_iff.mpr (List.forall₂_same.mpr fun spec _ => ?_)⟩
  refine ⟨⟨rfl, rfl⟩, ?_⟩
  show n ≤ (List.replicate n spec.fieldType.zero).length
  rw [List.length_replicate]

/-- One field is projected into a buffer with room for it, which keeps its length. -/
lemma run_project_of_room {spec : FixedBinaryProjectedField}
    {field : ColumnBundleFixedBinaryProjectedFieldBuffer} (hmatches : field.Matches spec)
    (hwithin : spec.offset.toNat + spec.fieldType.byteWidth ≤ records.width.toNat)
    (hroom : records.len ≤ field.values.len) :
    ∃ field', (ColumnBundleFixedBinaryProjectedFieldBuffer.project spec records).run field =
        (.ok records.len, field') ∧ field'.Matches spec ∧
      field'.values.len = field.values.len := by
  obtain ⟨name, offset, type, values⟩ := field
  obtain ⟨hoffset, htype⟩ := hmatches
  dsimp only at hoffset htype
  subst hoffset htype
  have haccepts : ∀ f ∈ [(⟨spec.offset, ⟨spec.fieldType, values⟩⟩ :
      FixedBinaryFieldProjectionMut)], records.Accepts f := by
    intro f hf
    obtain rfl := List.mem_singleton.mp hf
    exact ⟨hwithin, hroom⟩
  have hrun := (records.run_projectFields _).1 haccepts
  rw [ColumnBundleFixedBinaryProjectedFieldBuffer.project,
    Fallible.run_bind_of_ok Fallible.run_getState, failIf_neg (not_not.mpr ⟨rfl, rfl⟩),
    Fallible.lift_ok_bind]
  refine ⟨_, Fallible.run_zoom_eq_ok.mpr ⟨_, hrun, rfl⟩, ⟨rfl, rfl⟩, ?_⟩
  have hroom : records.len ≤ values.length := hroom
  show (records.fieldValues spec.fieldType spec.offset.toNat ++ values.drop records.len).length =
    values.length
  rw [List.length_append, FixedBinaryRecordView.length_fieldValues, List.length_drop]
  omega

/-- Records are projected into a buffer that fits, and it goes on fitting. -/
lemma run_projectRecords_of_fits (hfits : buffer.FitsFor sourceColumn projection n)
    (hwidth : records.width = projection.expectedWidth) (hlen : records.len ≤ n)
    (hfields : ∀ spec ∈ projection.fields,
      spec.offset.toNat + spec.fieldType.byteWidth ≤ projection.expectedWidth.toNat) :
    ∃ report after, (ColumnBundleFixedBinaryProjectionBuffer.projectRecords records projection).run
        buffer = (.ok report, after) ∧ after.FitsFor sourceColumn projection n := by
  have hcount : buffer.fields.length = projection.fields.length := hfits.fields.length_eq.symm
  have honEach : ∀ {specs : List FixedBinaryProjectedField}
      {fields : List ColumnBundleFixedBinaryProjectedFieldBuffer},
      (∀ spec ∈ specs, spec ∈ projection.fields) →
      List.Forall₂ (fun spec field =>
        ColumnBundleFixedBinaryProjectedFieldBuffer.Matches field spec ∧ n ≤ field.values.len)
          specs fields →
      ∃ values fields', Fallible.onEach (fun spec =>
          ColumnBundleFixedBinaryProjectedFieldBuffer.project spec records) (specs.zip fields) =
            (.ok values, fields') ∧
        List.Forall₂ (fun spec field =>
          ColumnBundleFixedBinaryProjectedFieldBuffer.Matches field spec ∧ n ≤ field.values.len)
            specs fields' := by
    intro specs fields hspecs hforall
    induction hforall with
    | nil => exact ⟨[], [], rfl, .nil⟩
    | cons hfield _ ih =>
      obtain ⟨hmatches, hroom⟩ := hfield
      obtain ⟨values, rest, hrest, hfits⟩ := ih fun spec hspec =>
        hspecs spec (List.mem_cons_of_mem _ hspec)
      obtain ⟨field', hfield, hmatches', hlength⟩ := @run_project_of_room records _ _ hmatches
        (hwidth ▸ hfields _ (hspecs _ List.mem_cons_self)) (hlen.trans hroom)
      exact ⟨_, _, Fallible.onEach_cons_eq_ok.mpr ⟨_, _, _, _, hfield, hrest, rfl, rfl⟩,
        .cons ⟨hmatches', hlength ▸ hroom⟩ hfits⟩
  obtain ⟨values, fields, hrun, hfits'⟩ := honEach (fun _ hspec => hspec) hfits.fields
  refine ⟨⟨records.len, projection.fields.length⟩,
    { buffer with fields := fields, rowCount := records.len }, ?_,
    ⟨hfits.sourceColumnId, hfits.sourceColumnName, hfits.sourceWidth, hfits'⟩⟩
  rw [ColumnBundleFixedBinaryProjectionBuffer.projectRecords]
  dsimp only
  rw [if_neg (not_or.mpr ⟨not_not.mpr hfits.sourceWidth, not_not.mpr hwidth⟩),
    if_neg (not_not.mpr hcount), hrun]

end Fitting

/-! ### Owned columns -/

lemma PrimitiveColumnValues.physicalType_of_decode {type : ColumnPhysicalType}
    {payload : List UInt8} {values : PrimitiveColumnValues}
    (h : decodePrimitiveValues type payload = .ok values) : values.physicalType = type := by
  cases type with
  | fixedBinary width =>
    obtain ⟨_, -, h⟩ := bind_eq_ok.mp h
    obtain ⟨_, -, h⟩ := bind_eq_ok.mp h
    cases h
    rfl
  | _ =>
    obtain ⟨_, -, rfl⟩ := map_eq_ok.mp h
    rfl

/-- A column of an owned batch. -/
structure ColumnArray.IsOwned (array : ColumnArray) (column : BundleColumn) (n : ℕ) : Prop where
  columnId : array.columnId = column.id
  name : array.name = column.name
  physicalType : array.values.physicalType = column.physicalType
  validity : column.nullable = false → array.validity = none
  rows : array.values.HoldsRows n

section Owned

variable {source : OcbReadSource} {zstd : ZstdCodec} {m : OcbMetadataV1}
  {limits : OcbResourceLimits} {rowGroup : OcbRowGroupDescV1} {column : BundleColumn}
  {chunk : OcbColumnChunkDescV1} {array : ColumnArray}

lemma ChunkOf.isOwned (h : ChunkOf source zstd limits rowGroup column chunk)
    (hlimits : m.resourceLimits = limits)
    (harray : readColumnArray source zstd m column chunk rowGroup.rowCount = .ok array) :
    array.IsOwned column rowGroup.rowCount.toNat := by
  have hrows := h.holdsRows hlimits harray
  obtain ⟨hid, hname⟩ := named_of_readColumnArray harray
  obtain ⟨_, -, harray⟩ := bind_eq_ok.mp harray
  obtain ⟨_, -, harray⟩ := bind_eq_ok.mp harray
  obtain ⟨_, -, harray⟩ := bind_eq_ok.mp harray
  obtain ⟨payload, -, harray⟩ := bind_eq_ok.mp harray
  obtain ⟨validity, hvalidity, harray⟩ := bind_eq_ok.mp harray
  obtain ⟨decoded, hdecoded, harray⟩ := bind_eq_ok.mp harray
  cases harray
  refine ⟨hid, hname, PrimitiveColumnValues.physicalType_of_decode hdecoded, fun hnullable => ?_,
    hrows⟩
  -- a chunk of a column without nulls has no validity bits
  have hnull : chunk.validityRef.IsNull := by
    by_contra hnot
    rw [h.nullable hnot] at hnullable
    cases hnullable
  rw [readValidityBitmap, if_pos hnull] at hvalidity
  exact (Except.ok.inj hvalidity).symm

/-- The columns of an owned batch are those that were selected. -/
lemma ColumnBundleFile.forall₂_isOwned {file : ColumnBundleFile}
    {validation : OcbOpenValidationMode} (hfault : source.FaultFree)
    (h : openFromSource source zstd validation limits = .ok file) {rowGroupId : UInt32}
    {columnIds : List UInt32} {batch : ColumnBatch}
    (hread : readRowGroup source zstd file.metadata file.columns rowGroupId columnIds = .ok batch) :
    (∃ rowGroup, file.metadata.rowGroupById rowGroupId = some rowGroup ∧
      batch.rowCount = rowGroup.rowCount) ∧
    List.Forall₂ (fun id array => ∃ column ∈ file.columns, column.id = id ∧
      array.IsOwned column batch.rowCount.toNat) columnIds batch.columns := by
  obtain ⟨rowGroup, hfound, hread⟩ := bind_eq_ok.mp hread
  obtain ⟨chunkByColumn, hchunks, hread⟩ := bind_eq_ok.mp hread
  obtain ⟨arrays, harrays, hread⟩ := bind_eq_ok.mp hread
  cases hread
  have hgroup := (((opened_of_openFromSource h).invariant.rowGroupById _ _).mp
    (okOr_eq_ok.mp hfound)).1
  obtain ⟨-, hmap, hchunkOf⟩ := exists_chunkOf hfault h hgroup
  obtain rfl := Except.ok.inj (hchunks.symm.trans hmap)
  refine ⟨⟨rowGroup, okOr_eq_ok.mp hfound, rfl⟩, (mapM_eq_ok.mp harrays).imp
    fun columnId array hcolumn => ?_⟩
  obtain ⟨column, hcolumn', hselected⟩ := bind_eq_ok.mp hcolumn
  obtain ⟨chunk, hchunk, hselected⟩ := bind_eq_ok.mp hselected
  have hfind := okOr_eq_ok.mp hcolumn'
  obtain ⟨found, -, -, hlookup, hof⟩ := hchunkOf column (List.mem_of_find?_eq_some hfind)
  have hid : column.id = columnId := by simpa using List.find?_some hfind
  rw [hid, okOr_eq_ok.mp hchunk] at hlookup
  obtain rfl := Option.some.inj hlookup
  exact ⟨column, List.mem_of_find?_eq_some hfind, hid,
    hof.isOwned (graph_of_openFromSource h).resourceLimits_eq hselected⟩

end Owned

/-! ### Projecting owned batches -/

/-- What was checked of a projection. -/
structure ProjectionOf (columns : List BundleColumn) (plan : ColumnBundleReadPlan)
    (projection : FixedBinaryRecordProjection) (sourceColumn : BundleColumn) : Prop where
  mem : sourceColumn ∈ columns
  selected : sourceColumn.id ∈ plan.projectedColumnIds
  physicalType : sourceColumn.physicalType = .fixedBinary projection.expectedWidth
  width : projection.expectedWidth ≠ 0
  nullable : projection.allowNulls = false → sourceColumn.nullable = false
  fields : ∀ spec ∈ projection.fields,
    spec.offset.toNat + spec.fieldType.byteWidth ≤ projection.expectedWidth.toNat
  names : projection.columnId = some sourceColumn.id ∨
    projection.columnName = some sourceColumn.name
  byId : ∀ id ∈ projection.columnId, sourceColumn.id = id
  byName : ∀ name ∈ projection.columnName, ∃ column ∈ columns, column.name = name ∧
    column.id = sourceColumn.id

/-- The column that is found by its id, by its name or by both. -/
lemma named_of_agreeingColumn {columns : List BundleColumn}
    {projection : FixedBinaryRecordProjection} {byId byName : Option BundleColumn}
    {column : BundleColumn} {unknownId unknownName : String}
    (hbyId : findProjectionColumn columns BundleColumn.id projection.columnId unknownId = .ok byId)
    (hbyName : findProjectionColumn columns BundleColumn.name projection.columnName unknownName =
      .ok byName) (h : agreeingColumn byId byName = .ok column) :
    column ∈ columns ∧ (projection.columnId = some column.id ∨
      projection.columnName = some column.name) := by
  cases hid : projection.columnId with
  | some id =>
    obtain ⟨left, rfl, hmem, rfl⟩ := exists_of_findProjectionColumn hid hbyId
    obtain rfl : left = column := by
      cases byName with
      | none => exact Except.ok.inj h
      | some right =>
        obtain ⟨_, -, h⟩ := bind_eq_ok.mp h
        exact Except.ok.inj h
    exact ⟨hmem, Or.inl rfl⟩
  | none =>
    rw [hid] at hbyId
    obtain rfl := Except.ok.inj hbyId
    cases hname : projection.columnName with
    | none =>
      rw [hname] at hbyName
      obtain rfl := Except.ok.inj hbyName
      cases h
    | some name =>
      obtain ⟨right, rfl, hmem, rfl⟩ := exists_of_findProjectionColumn hname hbyName
      obtain rfl := Except.ok.inj h
      exact ⟨hmem, Or.inr rfl⟩

lemma projectionOf_of_validate {columns : List BundleColumn} {plan : ColumnBundleReadPlan}
    {projection : FixedBinaryRecordProjection} {sourceColumn : BundleColumn}
    (h : validateFixedBinaryRecordProjection columns plan projection = .ok sourceColumn) :
    ProjectionOf columns plan projection sourceColumn := by
  obtain ⟨_, hwidth, h⟩ := bind_eq_ok.mp h
  obtain ⟨_, -, h⟩ := bind_eq_ok.mp h
  obtain ⟨_, -, h⟩ := bind_eq_ok.mp h
  obtain ⟨byId, hbyId, h⟩ := bind_eq_ok.mp h
  obtain ⟨byName, hbyName, h⟩ := bind_eq_ok.mp h
  obtain ⟨found, hagreeing, h⟩ := bind_eq_ok.mp h
  obtain ⟨_, hselected, h⟩ := bind_eq_ok.mp h
  obtain ⟨_, htype, h⟩ := bind_eq_ok.mp h
  obtain ⟨_, hnullable, h⟩ := bind_eq_ok.mp h
  obtain ⟨_, hfields, h⟩ := bind_eq_ok.mp h
  obtain rfl := Except.ok.inj h
  rw [failIf_eq_ok] at hwidth hselected hnullable
  obtain ⟨hmem, hnames⟩ := named_of_agreeingColumn hbyId hbyName hagreeing
  obtain ⟨hleft, hright⟩ := id_of_agreeingColumn hagreeing
  refine ⟨hmem, not_not.mp hselected, ?_, hwidth, fun hallow => ?_, fun spec hspec => ?_, hnames,
    fun id hid => ?_, fun name hname => ?_⟩
  · cases hphysical : found.physicalType with
    | fixedBinary width =>
      rw [hphysical, validateSourceType, failIf_eq_ok, not_not] at htype
      rw [htype]
    | _ =>
      rw [hphysical] at htype
      cases htype
  · rw [← Bool.not_eq_true]
    exact fun hnull => hnullable ⟨hnull, hallow⟩
  · obtain ⟨fieldEnd, hend, hwithin⟩ := bind_eq_ok.mp (forM_eq_ok.mp hfields spec hspec)
    obtain ⟨rfl, -⟩ := checkedAdd_eq_some.mp (okOr_eq_ok.mp hend)
    rw [failIf_eq_ok] at hwithin
    exact not_lt.mp hwithin
  · obtain ⟨left, rfl, -, rfl⟩ := exists_of_findProjectionColumn hid hbyId
    exact (hleft left rfl).symm
  · obtain ⟨right, rfl, hmem, rfl⟩ := exists_of_findProjectionColumn hname hbyName
    exact ⟨right, hmem, rfl, hright right rfl⟩

section Project

variable {file : ColumnBundleFile} {source : OcbReadSource} {zstd : ZstdCodec}
  {validation : OcbOpenValidationMode} {limits : OcbResourceLimits} {plan : ColumnBundleReadPlan}
  {projection : FixedBinaryRecordProjection} {sourceColumn : BundleColumn} {n : ℕ}
  {buffer : ColumnBundleFixedBinaryProjectionBuffer} {batch : ColumnBatch}

/-- The records of the column of a projection are found in an owned batch. -/
lemma exists_sourceRecords (hopened : file.Opened)
    (hvalidated :
      validateFixedBinaryRecordProjection file.columns plan projection = .ok sourceColumn)
    (hfits : buffer.FitsFor sourceColumn projection n)
    (howned : List.Forall₂ (fun id array => ∃ column ∈ file.columns, column.id = id ∧
      array.IsOwned column batch.rowCount.toNat) plan.projectedColumnIds batch.columns) :
    ∃ records, sourceRecords batch.view projection buffer = .ok records ∧
      records.width = projection.expectedWidth ∧ records.len = batch.rowCount.toNat := by
  have hof := projectionOf_of_validate hvalidated
  have hunique : ∀ column ∈ file.columns, column.id = sourceColumn.id → column = sourceColumn :=
    fun column hcolumn hid => eq_of_nodup_map hopened.nodup_columnIds hcolumn hof.mem hid
  -- the batch has the column, so that some column of it is found
  obtain ⟨array, harray, hnames⟩ : ∃ array ∈ batch.columns, projection.names array = true := by
    obtain ⟨array, harray, column, hcolumn, hid, hisOwned⟩ :=
      exists_of_forall₂ howned.flip hof.selected
    obtain rfl := hunique column hcolumn hid
    refine ⟨array, harray, ?_⟩
    rw [FixedBinaryRecordProjection.names, hisOwned.columnId, hisOwned.name, Bool.or_eq_true,
      beq_iff_eq, beq_iff_eq]
    exact hof.names
  obtain ⟨found, hfind⟩ :=
    Option.isSome_iff_exists.mp (List.find?_isSome.mpr ⟨array, harray, hnames⟩)
  obtain ⟨_, -, column, hcolumn, -, hisOwned⟩ :=
    exists_of_forall₂ howned (List.mem_of_find?_eq_some hfind)
  obtain rfl := hunique column hcolumn (hopened.id_of_names hvalidated hcolumn hisOwned.columnId
    hisOwned.name (List.find?_some hfind))
  have hsearch : findSourceColumn batch.view projection 0 batch.columns.length =
      .ok (some found) := by
    rw [findSourceColumn_view 0 _ (Nat.zero_add _), List.drop_zero, hfind]
  have hnulls : ¬ (projection.allowNulls = false ∧ found.validity.isSome = true) := by
    rintro ⟨hallow, hsome⟩
    rw [hisOwned.validity (hof.nullable hallow)] at hsome
    cases hsome
  have hsource : ¬ (buffer.sourceColumnId ≠ found.columnId ∨
      buffer.sourceColumnName ≠ found.name) := by
    rw [hisOwned.columnId, hisOwned.name, hfits.sourceColumnId, hfits.sourceColumnName]
    simp
  obtain ⟨records, hrecords, hwidth⟩ : ∃ records, found.values.fixedBinaryRecords = .ok records ∧
      records.width = projection.expectedWidth := by
    have htype := hisOwned.physicalType.trans hof.physicalType
    have hrows := hisOwned.rows
    cases hvalues : found.values with
    | fixedBinary width bytes =>
      rw [hvalues] at htype hrows
      obtain ⟨hnonzero, hlength⟩ := hrows
      have hbytes : bytes.length = batch.rowCount.toNat * width.toNat := hlength
      have haligned : bytes.length % width.toNat = 0 := by
        rw [hbytes]
        exact Nat.mul_mod_left _ _
      exact ⟨_, FixedBinaryRecordView.new_of_aligned hnonzero haligned,
        ColumnPhysicalType.fixedBinary.inj htype⟩
    | _ =>
      rw [hvalues] at htype
      cases htype
  refine ⟨records, ?_, hwidth,
    PrimitiveColumnValues.len_of_fixedBinaryRecords hrecords hisOwned.rows⟩
  rw [sourceRecords]
  show findSourceColumn batch.view projection 0 batch.columns.length >>= _ = _
  rw [hsearch, ok_bind, okOr_some, ok_bind, failIf_neg hnulls, ok_bind, failIf_neg hsource, ok_bind,
    hrecords, ok_bind, failIf_neg (not_not.mpr hwidth)]
  rfl

/-- A buffer that fits is accepted by a visit. -/
lemma validateFixedBinaryProjectionBuffer_of_fits (hopened : file.Opened)
    (hof : ProjectionOf file.columns plan projection sourceColumn)
    (hfits : buffer.FitsFor sourceColumn projection n) :
    validateFixedBinaryProjectionBuffer buffer projection = .ok () := by
  have hsame : ¬ ((∃ id ∈ projection.columnId, buffer.sourceColumnId ≠ id) ∨
      (∃ name ∈ projection.columnName, buffer.sourceColumnName ≠ name) ∨
      buffer.sourceWidth ≠ projection.expectedWidth ∨
      buffer.fields.length ≠ projection.fields.length) := by
    rintro (⟨id, hid, hne⟩ | ⟨name, hname, hne⟩ | hne | hne)
    · exact hne (hfits.sourceColumnId.trans (hof.byId id hid))
    · obtain ⟨column, hcolumn, rfl, hid⟩ := hof.byName name hname
      obtain rfl := eq_of_nodup_map hopened.nodup_columnIds hcolumn hof.mem hid
      exact hne hfits.sourceColumnName
    · exact hne hfits.sourceWidth
    · exact hne hfits.fields.length_eq.symm
  rw [validateFixedBinaryProjectionBuffer, failIf_neg hsame, ok_bind, forM_eq_ok]
  rintro ⟨spec, field⟩ hpair
  obtain ⟨hmatches, -⟩ := (List.forall₂_iff_zip.mp hfits.fields).2 hpair
  exact failIf_neg (not_not.mpr hmatches)

/-- An owned batch with no more rows than there is room for is projected and shown. -/
lemma projectingVisitor_of_fits {S : Type}
    {visitor : S → ColumnBundleReusableBatchView → FixedBinaryProjectedBatchView →
      S × Result ColumnBundleVisitControl}
    (hopened : file.Opened)
    (hvalidated :
      validateFixedBinaryRecordProjection file.columns plan projection = .ok sourceColumn)
    (howned : List.Forall₂ (fun id array => ∃ column ∈ file.columns, column.id = id ∧
      array.IsOwned column batch.rowCount.toNat) plan.projectedColumnIds batch.columns)
    (hrows : batch.rowCount.toNat ≤ n) (s : ColumnBundleFixedBinaryProjectionBuffer × S)
    (hfits : s.1.FitsFor sourceColumn projection n) :
    ∃ shown, ShowsOwned projection s.1.names batch shown ∧
      (projectingVisitor projection visitor s batch.view).1.1.FitsFor sourceColumn projection n ∧
      (projectingVisitor projection visitor s batch.view).1.1.names = s.1.names ∧
      (projectingVisitor projection visitor s batch.view).1.2 =
        (visitor s.2 batch.view shown).1 ∧
      (projectingVisitor projection visitor s batch.view).2 =
        (visitor s.2 batch.view shown).2 := by
  obtain ⟨records, hrecords, hwidth, hlen⟩ := exists_sourceRecords hopened hvalidated hfits howned
  obtain ⟨report, after, hrun, hfits'⟩ := run_projectRecords_of_fits hfits hwidth
    (hlen ▸ hrows) (projectionOf_of_validate hvalidated).fields
  have hproject : (projectFixedBinaryReusableBatch batch.view projection).run s.1 =
      (.ok report, after) := by
    rw [projectFixedBinaryReusableBatch, Fallible.run_bind_of_ok Fallible.run_getState, hrecords,
      Fallible.lift_ok_bind, hrun]
  have hnames := @map_name_run_projectFixedBinaryReusableBatch projection s.1 batch.view
  rw [hproject] at hnames
  have hholds : ∀ array ∈ batch.columns, array.values.HoldsRows batch.rowCount.toNat := by
    intro array harray
    obtain ⟨_, -, _, -, -, hisOwned⟩ := exists_of_forall₂ howned harray
    exact hisOwned.rows
  rw [projectingVisitor, hproject]
  exact ⟨_, showsOwned_of_project hholds hproject, hfits', hnames, rfl, rfl⟩

/-- Owned batches are shown one after the other. -/
lemma exists_all_shown {S : Type}
    {visitor : S → ColumnBundleReusableBatchView → FixedBinaryProjectedBatchView →
      S × Result ColumnBundleVisitControl}
    (hopened : file.Opened)
    (hvalidated :
      validateFixedBinaryRecordProjection file.columns plan projection = .ok sourceColumn)
    {batches : List ColumnBatch}
    (howned : ∀ batch ∈ batches, List.Forall₂ (fun id array => ∃ column ∈ file.columns,
      column.id = id ∧ array.IsOwned column batch.rowCount.toNat) plan.projectedColumnIds
        batch.columns)
    (hrows : ∀ batch ∈ batches, batch.rowCount.toNat ≤ n)
    (s : ColumnBundleFixedBinaryProjectionBuffer × S)
    (hfits : s.1.FitsFor sourceColumn projection n) :
    ∃ shown, List.Forall₂ (ShowsOwned projection s.1.names) batches shown ∧
      (batches.foldl (fun s batch => (projectingVisitor projection visitor s batch.view).1) s).2 =
        (batches.zip shown).foldl (fun s p => (visitor s p.1.view p.2).1) s.2 := by
  induction batches generalizing s with
  | nil => exact ⟨[], .nil, rfl⟩
  | cons batch rest ih =>
    obtain ⟨first, hshows, hfits', hnames, hstate, -⟩ := @projectingVisitor_of_fits _ _ _ _ _ _ S
      visitor hopened hvalidated (howned batch List.mem_cons_self) (hrows batch List.mem_cons_self)
      s hfits
    obtain ⟨shown, hall, hfold⟩ := ih (fun b hb => howned b (List.mem_cons_of_mem _ hb))
      (fun b hb => hrows b (List.mem_cons_of_mem _ hb)) _ hfits'
    rw [hnames] at hall
    refine ⟨first :: shown, .cons hshows hall, ?_⟩
    rw [List.foldl_cons, hfold, hstate]
    rfl

end Project

/-! ### The specification -/

lemma fieldWidths_eq_some {projection : FixedBinaryRecordProjection} {total : ℕ}
    (h : projection.fieldWidths = some total) :
    total = (projection.fields.map fun field => field.fieldType.byteWidth).sum := by
  suffices hsum : ∀ (fields : List FixedBinaryProjectedField) (start total : ℕ),
      fields.foldlM (fun total field => checkedAdd 64 total field.fieldType.byteWidth) start =
        some total → total = start + (fields.map fun field => field.fieldType.byteWidth).sum by
    rw [hsum _ 0 total h, Nat.zero_add]
  intro fields
  induction fields with
  | nil =>
    intro start total h
    exact (Option.some.inj h).symm
  | cons field rest ih =>
    intro start total h
    rw [List.foldlM_cons] at h
    obtain ⟨next, hnext, hrest⟩ := Option.bind_eq_some_iff.mp h
    obtain ⟨rfl, -⟩ := checkedAdd_eq_some.mp hnext
    rw [ih _ _ hrest, List.map_cons, List.sum_cons, Nat.add_assoc]

/-- A new buffer takes as many bytes as were accounted for. -/
lemma sum_bytes_forProjection {m : OcbMetadataV1} {plan : ColumnBundleReadPlan}
    {projection : FixedBinaryRecordProjection} {sourceColumn : BundleColumn} {n : ℕ} {u : Unit}
    (h : validateFixedBinaryProjectionResourceLimits m plan projection n = .ok u) :
    ((ColumnBundleFixedBinaryProjectionBuffer.forProjection sourceColumn projection n).fields.map
      fun field => field.values.len * field.values.fieldType.byteWidth).sum ≤
        m.resourceLimits.maxOwnedDecodedMaterializedBytes.toNat := by
  obtain ⟨widths, hwidths, h⟩ := bind_eq_ok.mp h
  obtain ⟨bytes, hbytes, h⟩ := bind_eq_ok.mp h
  obtain ⟨_, hwithin, -⟩ := bind_eq_ok.mp h
  obtain ⟨rfl, -⟩ := checkedMul_eq_some.mp (okOr_eq_ok.mp hbytes)
  rw [failIf_eq_ok, not_lt] at hwithin
  refine le_trans (le_of_eq ?_) hwithin
  rw [fieldWidths_eq_some (okOr_eq_ok.mp hwidths), ← List.sum_map_mul_left]
  simp [ColumnBundleFixedBinaryProjectionBuffer.forProjection, FixedBinaryFieldValues.new,
    FixedBinaryFieldValues.len, Function.comp_def]

open ColumnBundleFile in
/-- A buffer that was allocated for a plan and a projection is accepted, takes no more bytes than the
limits allow, and whatever row group of the plan has been read is projected into it: in every state
that some interleaving of a visit reaches, each row group that was handed over was handed over with
the numbers of the owned read. -/
theorem fixedBinaryProjectionBufferForPlan_spec {file : ColumnBundleFile} {source : OcbReadSource}
    {zstd : ZstdCodec} {validation : OcbOpenValidationMode} {limits : OcbResourceLimits}
    {plan : ColumnBundleReadPlan} {projection : FixedBinaryRecordProjection}
    {buffer : ColumnBundleFixedBinaryProjectionBuffer} (hfault : source.FaultFree)
    (hopen : ColumnBundleFile.openFromSource source zstd validation limits = .ok file)
    (hbuffer : file.fixedBinaryProjectionBufferForPlan plan projection = .ok buffer) :
    validateFixedBinaryProjectionBuffer buffer projection = .ok () ∧
    (buffer.fields.map fun field =>
      field.values.len * field.values.fieldType.byteWidth).sum ≤
        limits.maxOwnedDecodedMaterializedBytes.toNat ∧
    ∀ {S : Type} {rowGroupIds : List UInt32} {options : ColumnBundleReadCursorOptions}
      {pool : ColumnBundleReusableBufferPool}
      {visitor : S → ColumnBundleReusableBatchView → FixedBinaryProjectedBatchView →
        S × Result ColumnBundleVisitControl} {s₀ : S}
      (run : ColumnBundleFile.ProjectingRun file plan rowGroupIds options pool projection buffer)
      (s : SlotState run.threads ColumnBundleReusableBuffers ColumnBundleReadFillReport
        ArcadiaTioError (ColumnBundleFixedBinaryProjectionBuffer × S)),
      s.Reachable (run.visitExecutionPlanInto zstd (projectingVisitor projection visitor)
        (buffer, s₀)) →
      ∃ k ≤ run.tasks.length, ∃ batches shown, s.executor.coordinator.calls = List.range k ∧
        (run.executed.rowGroupIds.take k).mapM (file.readPlanRowGroup zstd run.executed) =
          .ok batches ∧
        List.Forall₂ (ShowsOwned projection buffer.names) batches shown ∧
        s.executor.coordinator.commitState.2 =
          (batches.zip shown).foldl (fun s p => (visitor s p.1.view p.2).1) s₀ := by
  obtain ⟨_, -, hbuffer⟩ := bind_eq_ok.mp hbuffer
  obtain ⟨sourceColumn, hvalidated, hbuffer⟩ := bind_eq_ok.mp hbuffer
  obtain ⟨_, -, hbuffer⟩ := bind_eq_ok.mp hbuffer
  obtain ⟨rowCapacity, hcapacity, hbuffer⟩ := bind_eq_ok.mp hbuffer
  obtain ⟨_, hresources, hbuffer⟩ := bind_eq_ok.mp hbuffer
  obtain rfl := Except.ok.inj hbuffer
  have hopened := opened_of_openFromSource hopen
  have hof := projectionOf_of_validate hvalidated
  have hfits := @fitsFor_forProjection sourceColumn projection rowCapacity
  refine ⟨?_, ?_, fun {S} rowGroupIds options pool visitor s₀ run s hs => ?_⟩
  · exact validateFixedBinaryProjectionBuffer_of_fits hopened hof hfits
  · have hlimits := (graph_of_openFromSource hopen).resourceLimits_eq
    rw [← hlimits]
    exact sum_bytes_forProjection hresources
  · obtain ⟨k, hk, batches, -, hcalls, hbatches, hstate, -⟩ :=
      run.toVisitIntoRun.exists_visited hfault hopen hs
    obtain ⟨selected, hexecuted, -, -⟩ := run.exists_selected
    -- a row group of the plan has no more rows than the buffer was allocated for
    have hread : ∀ batch ∈ batches, batch.rowCount.toNat ≤ rowCapacity ∧
        List.Forall₂ (fun id array => ∃ column ∈ file.columns, column.id = id ∧
          array.IsOwned column batch.rowCount.toNat) plan.projectedColumnIds batch.columns := by
      intro batch hbatch
      obtain ⟨id, hid, hread⟩ := exists_of_forall₂ (mapM_eq_ok.mp hbatches) hbatch
      rw [readPlanRowGroup, source_of_openFromSource hopen, hexecuted] at hread
      obtain ⟨⟨rowGroup, hfound, hrows⟩, howned⟩ := forall₂_isOwned hfault hopen hread
      have hplanned := run.sublist.subset (List.mem_of_mem_take hid)
      exact ⟨hrows ▸ le_maxRowCountForPlan hcapacity hplanned hfound, howned⟩
    obtain ⟨shown, hshows, hfold⟩ := @exists_all_shown _ _ _ _ _ S visitor hopened hvalidated
      batches (fun batch hbatch => (hread batch hbatch).2)
      (fun batch hbatch => (hread batch hbatch).1) (_, s₀) hfits
    exact ⟨k, hk, batches, shown, hcalls, hbatches, hshows, hstate ▸ hfold⟩

lemma Sample.isOk_recordBuffer : IsOk
    ((recordTable.file small_recordTable).fixedBinaryProjectionBufferForPlan plan
      recordProjection) := by
  have hwithin : WithinLimits OcbResourceLimits.policyA [⟨4, 4, 2⟩] := ⟨by decide, by decide⟩
  have hadmitted : validateInFlightPlanResourceLimits (recordTable.file small_recordTable).metadata
      plan 1 = .ok () :=
    (validateInFlight_eq_ok_iff (List.cons_ne_nil _ _)).mpr
      ⟨[⟨4, 4, 2⟩], rfl, fun part hpart _ => hwithin.of_sublist hpart⟩
  have hvalid : (recordTable.file small_recordTable).validateReadPlan plan = .ok () := rfl
  have hprojection : validateFixedBinaryRecordProjection
      (recordTable.file small_recordTable).columns plan recordProjection =
        .ok (TableImage.bundleColumn 0 ⟨recordsName, .fixedBinary 2 [1, 0, 2, 0]⟩) := rfl
  rw [ColumnBundleFile.fixedBinaryProjectionBufferForPlan, hvalid, ok_bind, hprojection, ok_bind,
    hadmitted, ok_bind]
  exact ⟨_, rfl⟩

open ColumnBundleFile in
/-- The buffer of the records is accepted, and when the visit of their file has finished, the visitor
has been handed the row groups in the order of the plan. -/
theorem fixedBinaryProjectionBufferForPlan_spec_sample : ∃ buffer,
    (Sample.recordTable.file Sample.small_recordTable).fixedBinaryProjectionBufferForPlan
      Sample.plan Sample.recordProjection = .ok buffer ∧
    validateFixedBinaryProjectionBuffer buffer Sample.recordProjection = .ok () ∧
    ∃ run : ProjectingRun (Sample.recordTable.file Sample.small_recordTable) Sample.plan [0]
      ⟨4, true⟩ ⟨[Sample.recordSlot]⟩ Sample.recordProjection buffer,
    ∃ (s : SlotState run.threads _ _ _ (ColumnBundleFixedBinaryProjectionBuffer × ℕ))
      (outcome : Outcome ArcadiaTioError),
      s.Reachable (run.visitExecutionPlanInto (fun _ _ => ⟨[], true⟩)
        (projectingVisitor Sample.recordProjection fun n _ _ => (n + 1, .ok .continue))
          (buffer, 0)) ∧
      s.executor.coordinator.pc = .returned .finished outcome ∧
      ∃ k ≤ run.tasks.length, s.executor.coordinator.calls = List.range k := by
  obtain ⟨buffer, hbuffer⟩ := Sample.isOk_recordBuffer
  have hfault : (Sample.recordTable.source Sample.small_recordTable).FaultFree :=
    OcbReadSource.faultFree_ofBytes _ _
  have hopen := TableImage.openFromSource_source Sample.small_recordTable fun _ _ => ⟨[], true⟩
  obtain ⟨hfitting, -, hruns⟩ :=
    fixedBinaryProjectionBufferForPlan_spec hfault hopen hbuffer
  let run : ProjectingRun (Sample.recordTable.file Sample.small_recordTable) Sample.plan [0]
      ⟨4, true⟩ ⟨[Sample.recordSlot]⟩ Sample.recordProjection buffer :=
    { Sample.projectingRun with fitting := hfitting }
  obtain ⟨s, outcome, hs, hpc⟩ := run.toVisitIntoRun.exists_finished hfault hopen
  obtain ⟨k, hk, _, _, hcalls, -⟩ := hruns run s hs
  exact ⟨buffer, hbuffer, hfitting, run, s, outcome, hs, hpc, k, hk, hcalls⟩

end ArcadiaTio.Ocb
