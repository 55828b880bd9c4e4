import ArcadiaTio.Ocb.Bundle.Lookup
import ArcadiaTio.Ocb.Read.Validated

/-!
# The invariant of opened metadata

`MetadataInvariant` says what the readers and the planner rely on: the row groups tile the rows,
their chunks and statistics tile the two tables, every row group has one chunk for each column,
and the lookups by row-group id, by chunk range and by statistics range cannot fail.  It holds of
the metadata of every opened file (`metadataInvariant_of_readMetadata`).
-/

namespace ArcadiaTio.Ocb

open ArcadiaTio.Lib

/-! ### The invariant -/

/-- A chunk holds the values of one column for all rows of a row group. -/
structure ChunkDescribes (rowGroup : OcbRowGroupDescV1) (column : OcbColumnDescV1)
    (chunk : OcbColumnChunkDescV1) : Prop where
  rowGroupId : chunk.rowGroupId = rowGroup.rowGroupId
  columnId : chunk.columnId = column.columnId
  physicalType : chunk.physicalType = column.physicalType
  rowCount : chunk.rowCount = rowGroup.rowCount
  bytes : ∃ width, column.valueByteWidth = .ok width ∧
    chunk.uncompressedBytes.toNat = rowGroup.rowCount.toNat * width

/-- A row group finds its chunks, one for each column. -/
def RowGroupChunks (m : OcbMetadataV1) (rowGroup : OcbRowGroupDescV1) : Prop :=
  ∃ chunks, chunksForRowGroup m rowGroup.chunkDescBegin rowGroup.chunkDescCount = .ok chunks ∧
    (chunks.map OcbColumnChunkDescV1.columnId).Perm
      (m.schema.columns.map OcbColumnDescV1.columnId) ∧
    ∀ chunk ∈ chunks, ∃ column ∈ m.schema.columns, ChunkDescribes rowGroup column chunk

/-- A row group finds its statistics, at most one for each column. -/
def RowGroupStats (m : OcbMetadataV1) (rowGroup : OcbRowGroupDescV1) : Prop :=
  ∃ stats, statsForRowGroup m rowGroup.statBegin rowGroup.statCount = .ok stats ∧
    (stats.map OcbColumnStatsV1.columnId).Nodup ∧
    statsByColumnForRowGroup m rowGroup = .ok (stats.map fun stat => (stat.columnId, stat)) ∧
    ∀ stat ∈ stats, stat.rowGroupId = rowGroup.rowGroupId ∧
      ∃ column ∈ m.schema.columns, stat.columnId = column.columnId ∧
        stat.physicalType = column.physicalType

/-- The records of the ordering proof and the row groups are in bijection. -/
def OrderingBijection (m : OcbMetadataV1) : Prop :=
  (m.rowGroupProofs.map OcbRowGroupOrderingProofV1.rowGroupId).Perm
    (m.rowGroupIndex.rowGroups.map OcbRowGroupDescV1.rowGroupId)

/-- The invariant of the metadata of an opened file. -/
structure MetadataInvariant (m : OcbMetadataV1) : Prop where
  rowGroupIds : (m.rowGroupIndex.rowGroups.map OcbRowGroupDescV1.rowGroupId).Nodup
  rows : Tiles 0 (m.rowGroupIndex.rowGroups.map OcbRowGroupDescV1.rowRange) m.root.rowCount.toNat
  chunkRanges : Tiles 0 (m.rowGroupIndex.rowGroups.map OcbRowGroupDescV1.chunkRange)
    m.rowGroupIndex.columnChunks.length
  statRanges : Tiles 0 (m.rowGroupIndex.rowGroups.map OcbRowGroupDescV1.statRange)
    m.rowGroupIndex.stats.length
  chunks : ∀ rowGroup ∈ m.rowGroupIndex.rowGroups, RowGroupChunks m rowGroup
  stats : ∀ rowGroup ∈ m.rowGroupIndex.rowGroups, RowGroupStats m rowGroup
  columnIds : (m.schema.columns.map OcbColumnDescV1.columnId).Nodup
  columnNames : ∃ names : List String, names.Nodup ∧
    m.schema.columns.map (OcbColumnDescV1.name? · m.stringTable.strings) = names.map some
  dictionaries : ∀ column ∈ m.schema.columns, column.logicalKind = .dictionaryCode →
    DictionaryResolves m.dictionaryIndex column
  ordering : m.orderingProof.isSome → OrderingBijection m
  positions : ∀ rowGroupId position, m.rowGroupPositionsById.lookup rowGroupId = some position ↔
    (m.rowGroupIndex.rowGroups[position]?).map OcbRowGroupDescV1.rowGroupId = some rowGroupId
  rowGroupById : ∀ rowGroupId rowGroup, m.rowGroupById rowGroupId = some rowGroup ↔
    rowGroup ∈ m.rowGroupIndex.rowGroups ∧ rowGroup.rowGroupId = rowGroupId

/-! ### From the validation to the invariant -/

lemma perm_of_sameElements {a b : List UInt32} (ha : a.Nodup) (hb : b.Nodup)
    (h : SameElements a b) : a.Perm b :=
  (List.perm_ext_iff_of_nodup ha hb).mpr fun x => ⟨h.1 x, h.2 x⟩

/-- The positions of a list without duplicates, looked up by value. -/
lemma lookup_zipIdx_eq_some {ids : List UInt32} (hnodup : ids.Nodup) {start position : ℕ}
    {a : UInt32} : (ids.zipIdx start).lookup a = some position ↔
      ∃ i, position = start + i ∧ ids[i]? = some a := by
  induction ids generalizing start with
  | nil => simp
  | cons b ids ih =>
    rw [List.nodup_cons] at hnodup
    rw [List.zipIdx_cons, List.lookup_cons]
    by_cases hab : a = b
    · subst hab
      simp only [beq_self_eq_true, Option.some.injEq]
      constructor
      · rintro rfl
        exact ⟨0, rfl, rfl⟩
      · rintro ⟨_ | i, rfl, hi⟩
        · rfl
        · rw [List.getElem?_cons_succ] at hi
          exact absurd (List.mem_of_getElem? hi) hnodup.1
    · have hne : (a == b) = false := by simpa using hab
      simp only [hne, ih hnodup.2]
      constructor
      · rintro ⟨i, rfl, hi⟩
        exact ⟨i + 1, by omega, hi⟩
      · rintro ⟨_ | i, rfl, hi⟩
        · exact absurd (Option.some.inj hi).symm hab
        · exact ⟨i, by omega, hi⟩

section Validated

variable {src : OcbReadSource} {zstd : ZstdCodec} {m : OcbMetadataV1}
  {validation : OcbOpenValidationMode} {limits : OcbResourceLimits} {columns : ColumnsById}

lemma chunkDescribes_of_validateChunkDesc {rowGroup : OcbRowGroupDescV1}
    {chunk : OcbColumnChunkDescV1}
    (h : validateChunkDesc src zstd m rowGroup chunk columns validation limits = .ok ()) :
    ∃ column ∈ columns, ChunkDescribes rowGroup column chunk := by
  obtain ⟨_, hgroup, h⟩ := bind_eq_ok.mp h
  obtain ⟨column, hcolumn, h⟩ := bind_eq_ok.mp h
  obtain ⟨_, htype, h⟩ := bind_eq_ok.mp h
  obtain ⟨_, hrows, h⟩ := bind_eq_ok.mp h
  obtain ⟨bytes, hbytes, h⟩ := bind_eq_ok.mp h
  obtain ⟨_, hexpected, h⟩ := bind_eq_ok.mp h
  obtain ⟨width, hwidth, hbytes⟩ := bind_eq_ok.mp hbytes
  simp only [failIf_eq_ok, not_not] at hgroup htype hrows hexpected
  obtain ⟨hmem, hid⟩ := ColumnsById.of_get_eq_some (okOr_eq_ok.mp hcolumn)
  have hmul := (checkedMul_eq_some.mp (okOr_eq_ok.mp hbytes)).1
  exact ⟨column, hmem, hgroup, hid.symm, htype, hrows, width, hwidth, by
    rw [hexpected, hmul, hrows]⟩

lemma of_validateStatDesc {rowGroup : OcbRowGroupDescV1} {stat : OcbColumnStatsV1}
    (h : validateStatDesc rowGroup stat columns = .ok ()) :
    stat.rowGroupId = rowGroup.rowGroupId ∧ ∃ column ∈ columns,
      stat.columnId = column.columnId ∧ stat.physicalType = column.physicalType ∧
      stat.physicalType ≠ .fixedBinary := by
  obtain ⟨_, hgroup, h⟩ := bind_eq_ok.mp h
  obtain ⟨column, hcolumn, h⟩ := bind_eq_ok.mp h
  obtain ⟨_, htype, h⟩ := bind_eq_ok.mp h
  simp only [failIf_eq_ok, not_not] at hgroup htype h
  obtain ⟨hmem, hid⟩ := ColumnsById.of_get_eq_some (okOr_eq_ok.mp hcolumn)
  exact ⟨hgroup, column, hmem, hid.symm, htype, h⟩

lemma RowGroupChecked.rowGroupChunks {rowGroup : OcbRowGroupDescV1}
    (h : RowGroupChecked src zstd m m.schema.columns validation limits rowGroup)
    (hcolumns : (m.schema.columns.map OcbColumnDescV1.columnId).Nodup) :
    RowGroupChunks m rowGroup := by
  obtain ⟨chunks, hchunks, hnodup, hcover, hvalid⟩ := h.chunks
  exact ⟨chunks, hchunks, perm_of_sameElements hnodup hcolumns hcover,
    fun chunk hchunk => chunkDescribes_of_validateChunkDesc (hvalid chunk hchunk)⟩

lemma RowGroupChecked.rowGroupStats {rowGroup : OcbRowGroupDescV1}
    (h : RowGroupChecked src zstd m m.schema.columns validation limits rowGroup) :
    RowGroupStats m rowGroup := by
  obtain ⟨stats, hstats, hnodup, hvalid⟩ := h.stats
  have hstats' : statsForRowGroup m rowGroup.statBegin rowGroup.statCount = .ok stats := hstats
  refine ⟨stats, hstats, hnodup, ?_, fun stat hstat => ?_⟩
  · rw [statsByColumnForRowGroup, hstats', ok_bind, insertStats_eq_ok
      (fun stat hstat => (of_validateStatDesc (hvalid stat hstat)).1) (by simpa using hnodup)]
    rfl
  · obtain ⟨hgroup, column, hcolumn, hid, htype, -⟩ := of_validateStatDesc (hvalid stat hstat)
    exact ⟨hgroup, column, hcolumn, hid, htype⟩

/-- The rows of the row groups add up to the rows of the root. -/
lemma sumRowCounts_eq_some {rowGroups : List OcbRowGroupDescV1} {total : ℕ}
    (h : sumRowCounts rowGroups = some total) :
    total = ((rowGroups.map OcbRowGroupDescV1.rowRange).map Prod.snd).sum := by
  have hfold : ∀ (rowGroups : List OcbRowGroupDescV1) (start : ℕ),
      rowGroups.foldlM (fun total rowGroup => checkedAdd 64 total rowGroup.rowCount.toNat) start =
        some total → total = start +
          ((rowGroups.map OcbRowGroupDescV1.rowRange).map Prod.snd).sum := by
    intro rowGroups
    induction rowGroups with
    | nil =>
      intro start h
      cases h
      rfl
    | cons rowGroup rest ih =>
      intro start h
      rw [List.foldlM_cons] at h
      obtain ⟨next, hnext, h⟩ := Option.bind_eq_some_iff.mp h
      have hnext := (checkedAdd_eq_some.mp hnext).1
      rw [ih next h, List.map_cons, List.map_cons, List.sum_cons, hnext,
        OcbRowGroupDescV1.rowRange, Nat.add_assoc]
  simpa using hfold rowGroups 0 h

lemma GraphValidated.rowCount (h : GraphValidated src zstd validation limits m) :
    m.root.rowCount.toNat =
      ((m.rowGroupIndex.rowGroups.map OcbRowGroupDescV1.rowRange).map Prod.snd).sum := by
  obtain ⟨count, -, h⟩ := h.counts
  simp only [validateRootCounts, bind_eq_ok, failIf_eq_ok, okOr_eq_ok, not_not] at h
  obtain ⟨_, -, _, -, _, -, _, -, _, -, totalRows, hsum, htotal⟩ := h
  rw [← htotal, sumRowCounts_eq_some hsum]

/-- Validated metadata satisfies the invariant. -/
theorem GraphValidated.metadataInvariant (h : GraphValidated src zstd validation limits m) :
    MetadataInvariant m := by
  obtain ⟨c, hwalk, hpositions, hchunks, hstats⟩ := h.rowGroups
  have hzip : m.rowGroupPositionsById =
      (m.rowGroupIndex.rowGroups.map OcbRowGroupDescV1.rowGroupId).zipIdx := by
    rw [← hpositions, hwalk.positions]
    rfl
  have hids : (m.rowGroupIndex.rowGroups.map OcbRowGroupDescV1.rowGroupId).Nodup := by
    have := hwalk.ids
    rw [hwalk.positions] at this
    simpa [RowGroupCursor.start] using this
  -- the positions are the ids with their places, and the ids are distinct
  have hlookup : ∀ rowGroupId position,
      m.rowGroupPositionsById.lookup rowGroupId = some position ↔
        (m.rowGroupIndex.rowGroups[position]?).map OcbRowGroupDescV1.rowGroupId =
          some rowGroupId := by
    intro rowGroupId position
    rw [hzip, lookup_zipIdx_eq_some hids, ← List.getElem?_map]
    simp
  refine {
    rowGroupIds := hids
    rows := ?_
    chunkRanges := hchunks ▸ hwalk.chunks
    statRanges := hstats ▸ hwalk.stats
    chunks := fun g hg => (hwalk.checked g hg).rowGroupChunks h.columnIds
    stats := fun g hg => (hwalk.checked g hg).rowGroupStats
    columnIds := h.columnIds
    columnNames := ?_
    dictionaries := h.dictionaries
    ordering := ?_
    positions := hlookup
    rowGroupById := ?_ }
  · have hend := hwalk.rows.sum_eq
    rw [← h.rowCount] at hend
    have hend : c.expectedBaseRow = m.root.rowCount.toNat := by
      simpa [RowGroupCursor.start] using hend.symm
    exact hend ▸ hwalk.rows
  · -- every column has a name, and the names are distinct
    choose! name hname using fun column hcolumn => (h.columns column hcolumn).name
    have hnames : m.schema.columns.map (OcbColumnDescV1.name? · m.stringTable.strings) =
        (m.schema.columns.map name).map some := by
      rw [List.map_map]
      exact List.map_congr_left fun column hcolumn => hname column hcolumn
    refine ⟨m.schema.columns.map name, ?_, hnames⟩
    have hnodup := h.columnNames
    rw [hnames] at hnodup
    exact List.Nodup.of_map _ hnodup
  · intro hsome
    obtain ⟨ordering, hordering⟩ := Option.isSome_iff_exists.mp hsome
    have hchecked := h.ordering ordering hordering
    rw [OrderingBijection, OcbMetadataV1.rowGroupProofs, hordering]
    exact perm_of_sameElements hchecked.nodup hids hchecked.cover
  · intro rowGroupId rowGroup
    constructor
    · intro hfind
      obtain ⟨position, hposition, hget⟩ := Option.bind_eq_some_iff.mp hfind
      have hid := (hlookup _ _).mp hposition
      rw [hget] at hid
      exact ⟨List.mem_of_getElem? hget, Option.some.inj hid⟩
    · rintro ⟨hmem, rfl⟩
      obtain ⟨position, hget⟩ := List.getElem?_of_mem hmem
      have hposition := (hlookup rowGroup.rowGroupId position).mpr (by rw [hget]; rfl)
      exact Option.bind_eq_some_iff.mpr ⟨position, hposition, hget⟩

end Validated

/-! ### A small file -/

/-! A V1 file with one nullable column, one row group of one row and one dictionary, whose code
type is left open.  It has no ordering proof. -/

namespace Sample

/-- The name of the column. -/
def stringTable : OcbStringTableV1 := ⟨1, ["v"], 0⟩

/-- The nullable column. -/
def column : OcbColumnDescV1 where
  columnId := 0
  nameStringId := 0
  physicalType := .i32
  logicalKind := .plain
  flags := 0
  dictionaryId := ocbNullU32
  scale := 0
  nullability := .nullable
  reserved0 := 0
  fixedBinaryWidth := 0

/-- The schema of the column. -/
def schema : OcbSchemaV1 := ⟨1, .unchecked 4096 29 .stringTable, [column], 0⟩

/-- No values. -/
def dictionaryValues : OcbDictionaryValuesV1 := ⟨1, .utf8, 0, [], 0⟩

/-- Where the values are. -/
def valuesRef : OcbBodyRefV2 := .unchecked 4213 52 .dictionaryValues

/-- The dictionary, which no column refers to. -/
def dictionary (codes : OcbPhysicalTypeV1) : OcbDictionaryDescV1 where
  dictionaryId := 0
  nameStringId := 0
  codePhysicalType := codes
  valueKind := .utf8
  flags := 0
  valuesRef := valuesRef
  entryCount := 0
  reserved0 := 0

/-- The index of the dictionary. -/
def dictionaryIndex (codes : OcbPhysicalTypeV1) : OcbDictionaryIndexV1 :=
  ⟨1, [dictionary codes], 0⟩

/-- The chunk of the row. -/
def chunkObject : OcbColumnChunkObjectV1 where
  version := 1
  physicalType := .i32
  codec := .none
  flags := 0
  rowGroupId := 0
  columnId := 0
  rowCount := 1
  uncompressedBytes := 4
  payload := [7, 0, 0, 0]
  crc32c := 0

/-- The descriptor of the chunk, with a validity bitmap. -/
def chunk : OcbColumnChunkDescV1 where
  rowGroupId := 0
  columnId := 0
  physicalType := .i32
  codec := .none
  flags := 0
  valueRef := .unchecked 4345 52 .columnChunk
  validityRef := .unchecked 4397 1 .validityBitmap
  rowCount := 1
  uncompressedBytes := 4

/-- The row group of the row. -/
def rowGroup : OcbRowGroupDescV1 where
  rowGroupId := 0
  flags := 0
  baseRow := 0
  rowCount := 1
  chunkDescBegin := 0
  chunkDescCount := 1
  statBegin := 0
  statCount := 0
  firstKeyTupleRef := .null
  lastKeyTupleRef := .null

/-- The index of the row group. -/
def rowGroupIndex : OcbRowGroupIndexV1 := ⟨1, 0, [rowGroup], [chunk], [], 0⟩

/-- The root, without an ordering proof. -/
def root : OcbRootV1 where
  version := 1
  flags := 0
  rowCount := 1
  columnCount := 1
  rowGroupCount := 1
  dictionaryCount := 1
  schemaRef := .unchecked 4125 88 .schema
  dictionaryIndexRef := .unchecked 4265 80 .dictionaryIndex
  rowGroupIndexRef := .unchecked 4398 252 .rowGroupIndex
  orderingProofRef := .null
  debugJsonRef := .null
  createdUnixNanos := 0
  contentFlags := 0
  crc32c := 0

/-- The page, which names the root. -/
def page : OcbBootstrapPageV1 where
  formatMajor := 1
  formatMinor := 0
  flags := 0
  pageSize := 4096
  fileUuid := List.replicate 16 0
  rootRef := .unchecked 4650 220 .root
  crc32c := 0

/-- The parts of the file, with the bitmap behind its chunk. -/
def parts (codes : OcbPhysicalTypeV1) : List (List UInt8) :=
  [sealBytes page.fieldBytes, sealBytes stringTable.fieldBytes, sealBytes schema.fieldBytes,
    sealBytes dictionaryValues.fieldBytes, sealBytes (dictionaryIndex codes).fieldBytes,
    sealBytes chunkObject.fieldBytes, [1], sealBytes rowGroupIndex.fieldBytes,
    sealBytes root.fieldBytes]

variable (codes : OcbPhysicalTypeV1)

lemma parts_lengths :
    (parts codes).map List.length = [4096, 29, 88, 52, 80, 52, 1, 252, 220] := by
  simp only [parts, List.map_cons, List.map_nil, OcbStringTableV1.fieldBytes,
    OcbSchemaV1.fieldBytes, OcbDictionaryValuesV1.fieldBytes, OcbDictionaryIndexV1.fieldBytes,
    OcbColumnChunkObjectV1.fieldBytes, OcbRowGroupIndexV1.fieldBytes,
    page.length_sealBytes_fieldBytes rfl, length_sealBytes_objectBytes ocbStringTableHeader rfl,
    length_sealBytes_objectBytes ocbSchemaHeader rfl,
    length_sealBytes_objectBytes ocbDictionaryValuesHeader rfl,
    length_sealBytes_objectBytes ocbDictionaryIndexHeader rfl,
    length_sealBytes_objectBytes ocbColumnChunkHeader rfl,
    length_sealBytes_objectBytes ocbRowGroupIndexHeader rfl, root.length_sealBytes_fieldBytes]
  simp [stringTable, schema, dictionaryValues, dictionaryIndex, chunkObject, rowGroupIndex,
    writeStringU32, valueOffsets, OcbColumnDescV1.len, OcbDictionaryDescV1.len,
    OcbRowGroupDescV1.len, OcbColumnChunkDescV1.len, ocbBootstrapPageLen, ocbRootV1Len]
  rfl

lemma length_flatten_parts : (parts codes).flatten.length = 4870 := by
  rw [List.length_flatten, parts_lengths]
  rfl

/-- The file. -/
def file : OcbReadSource :=
  .ofBytes (parts codes).flatten (by rw [length_flatten_parts]; decide)

lemma fileLen_file : (file codes).fileLen = 4870 := by
  rw [OcbReadSource.fileLen, file, OcbReadSource.ofBytes, length_flatten_parts]

/-- A budget of the default size, of which some is spent. -/
def budget (charged : ℕ) (h : charged ≤ 17179869184) : MetadataMaterializationBudget :=
  ⟨17179869184, charged, h, by decide⟩

lemma read_schema : ∃ c, (OcbSchemaV1.readFromBytesWithBudget (sealBytes schema.fieldBytes)).run
    (.fromLimits .policyA) = (.ok { schema with crc32c := c }, budget 32 (by decide)) := by
  refine ⟨crc32c schema.fieldBytes, ?_⟩
  rw [schema.readFromBytesWithBudget_sealBytes rfl (by decide)]
  generalize crc32c _ = c
  rfl

lemma read_stringTable : ∃ c, (OcbStringTableV1.readFromBytesWithBudget
    (sealBytes stringTable.fieldBytes)).run (budget 32 (by decide)) =
      (.ok { stringTable with crc32c := c }, budget 57 (by decide)) := by
  refine ⟨crc32c stringTable.fieldBytes, ?_⟩
  rw [OcbStringTableV1.readFromBytesWithBudget, OcbStringTableV1.fieldBytes,
    show stringTable.version = 1 from rfl, readHeader_sealBytes_one _ rfl _ (by decide)]
  generalize crc32c _ = c
  refine (Fallible.run_bind_of_ok Fallible.run_lift).trans ?_
  refine (Fallible.run_bind_of_ok (a := (1, stringTable.strings.flatMap writeStringU32 ++
    writeU32 0)) (t := budget 32 (by decide)) rfl).trans ?_
  refine (Fallible.run_bind_of_ok (a := [1]) (t := budget 32 (by decide)) rfl).trans ?_
  rfl

lemma read_dictionaryIndex : ∃ c, (OcbDictionaryIndexV1.readFromBytesWithBudget
    (sealBytes (dictionaryIndex codes).fieldBytes)).run (budget 57 (by decide)) =
      (.ok { dictionaryIndex codes with crc32c := c }, budget 113 (by decide)) := by
  refine ⟨crc32c (dictionaryIndex codes).fieldBytes, ?_⟩
  rw [(dictionaryIndex codes).readFromBytesWithBudget_sealBytes rfl (by simp [dictionaryIndex])]
  generalize crc32c _ = c
  rfl

lemma read_rowGroupIndex : ∃ c, (OcbRowGroupIndexV1.readFromBytesWithBudget
    (sealBytes rowGroupIndex.fieldBytes)).run (budget 113 (by decide)) =
      (.ok { rowGroupIndex with crc32c := c }, budget 321 (by decide)) := by
  refine ⟨crc32c rowGroupIndex.fieldBytes, ?_⟩
  rw [rowGroupIndex.readFromBytesWithBudget_sealBytes rfl (by decide) (by decide) (by decide)
    (by simp [rowGroupIndex])]
  generalize crc32c _ = c
  rfl

lemma read_dictionaryValues : ∃ c, (OcbDictionaryValuesV1.readFromBytesWithBudget
    (sealBytes dictionaryValues.fieldBytes)).run (budget 321 (by decide)) =
      (.ok { dictionaryValues with crc32c := c }, budget 321 (by decide)) := by
  refine ⟨crc32c dictionaryValues.fieldBytes, ?_⟩
  rw [OcbDictionaryValuesV1.readFromBytesWithBudget, OcbDictionaryValuesV1.fieldBytes,
    show dictionaryValues.version = 1 from rfl, readHeader_sealBytes_one _ rfl _ (by decide)]
  generalize crc32c _ = c
  rfl

/-- The root with a given checksum. -/
def rootWith (c : UInt32) : OcbRootV1 := { root with crc32c := c }

/-- The metadata of the file, up to the stored checksums. -/
def metadata (cRoot cSchema cStrings cDictionaries cIndex : UInt32) : OcbMetadataV1 where
  root := rootWith cRoot
  stringTable := { stringTable with crc32c := cStrings }
  schema := { schema with crc32c := cSchema }
  dictionaryIndex := some { dictionaryIndex codes with crc32c := cDictionaries }
  rowGroupIndex := { rowGroupIndex with crc32c := cIndex }
  rowGroupPositionsById := []
  orderingProof := none
  fileLen := 4870
  appendable := false
  rootGeneration := 0
  previousRootGeneration := none
  resourceLimits := .policyA
  openMetadataMaterializedBytes := 321
  openAuxiliaryEncodedBytes := 0

lemma read_metadata (c : UInt32) : ∃ cSchema cStrings cDictionaries cIndex,
    (readMetadataObjectsWithResourceLimits (file codes) (rootWith c) .policyA).run
      (.fromLimits .policyA) = (.ok (metadata codes c cSchema cStrings cDictionaries cIndex),
        budget 321 (by decide)) := by
  obtain ⟨cSchema, hschema⟩ := read_schema
  obtain ⟨cStrings, hstrings⟩ := read_stringTable
  obtain ⟨cDictionaries, hdictionaries⟩ := read_dictionaryIndex codes
  obtain ⟨cIndex, hindex⟩ := read_rowGroupIndex
  have hlens := parts_lengths codes
  have hoptional : (readOptionalObject (file codes) (rootWith c).dictionaryIndexRef
      .dictionaryIndex .policyA OcbDictionaryIndexV1.readFromBytesWithBudget).run
      (budget 57 (by decide)) =
        (.ok (some { dictionaryIndex codes with crc32c := cDictionaries }),
          budget 113 (by decide)) := by
    have hbytes : (file codes).readObjectBytesWithResourceLimits (rootWith c).dictionaryIndexRef
        .dictionaryIndex .policyA = .ok (sealBytes (dictionaryIndex codes).fieldBytes) :=
      OcbReadSource.readObjectBytes_part _ hlens 4 rfl rfl rfl rfl (by decide) (by decide)
    rw [readOptionalObject, if_neg (by simp [rootWith, root]; decide), hbytes, Fallible.lift_ok_bind,
      Fallible.run_bind_of_ok hdictionaries]
    rfl
  have hbase := run_readMetadataObjects (file codes) (rootWith c) .policyA
    (OcbReadSource.readObjectBytes_part _ hlens 2 rfl rfl rfl rfl (by decide) (by decide)) hschema
    (OcbReadSource.readObjectBytes_part _ hlens 1 rfl rfl rfl rfl (by decide) (by decide)) hstrings
    hoptional
    (OcbReadSource.readObjectBytes_part _ hlens 7 rfl rfl rfl rfl (by decide) (by decide)) hindex
    rfl
  refine ⟨cSchema, cStrings, cDictionaries, cIndex, ?_⟩
  rw [hbase, fileLen_file]
  rfl

section Graph

variable (zstd : ZstdCodec) (cRoot cSchema cStrings cDictionaries cIndex : UInt32)

/-- The header of the chunk, as it stands in the file. -/
def header : List UInt8 := chunkObject.fieldBytes.take 44

lemma sealBytes_chunkObject : ∃ c, sealBytes chunkObject.fieldBytes =
    header ++ chunkObject.payload ++ writeU32 c :=
  ⟨crc32c chunkObject.fieldBytes, rfl⟩

lemma length_sealBytes_chunkObject : (sealBytes chunkObject.fieldBytes).length = 52 :=
  length_sealBytes_objectBytes ocbColumnChunkHeader rfl _ _

lemma read_header :
    validateColumnChunkObjectHeader (file codes) chunk .policyA = .ok header := by
  have hread : (file codes).readExactAt chunk.valueRef.offset.toNat ocbColumnChunkV1HeaderLen =
      .ok header := by
    obtain ⟨c, hsealed⟩ := sealBytes_chunkObject
    have hslice := OcbReadSource.readExactAt_slice (parts codes) 5
      (by rw [length_flatten_parts]; decide) rfl 4345 44 0
      (by rw [List.length_flatten, List.map_take, parts_lengths]; rfl)
      (by rw [length_sealBytes_chunkObject]; decide)
    rw [hsealed] at hslice
    exact hslice
  rw [validateColumnChunkObjectHeader, hread, fileLen_file]
  rfl

lemma validate_chunk : validateChunkDesc (file codes) zstd
    (metadata codes cRoot cSchema cStrings cDictionaries cIndex) rowGroup chunk [column]
    .metadataGraph .policyA = .ok () := by
  rw [validateChunkDesc]
  simp only [read_header]
  rfl

/-- The cache once the reference to the dictionary values is charged. -/
def preflighted : OcbOpenAuxiliaryObjectCache :=
  ⟨[(valuesRef, .pending)], 52, .policyA⟩

lemma run_preflight : (preflight (metadata codes cRoot cSchema cStrings cDictionaries cIndex)
    none).run ⟨.new .policyA, budget 321 (by decide)⟩ =
      (.ok (), ⟨preflighted, budget 321 (by decide)⟩) := by
  have hrefs : auxiliaryObjectReferences
      (metadata codes cRoot cSchema cStrings cDictionaries cIndex) none =
        [(valuesRef, .dictionaryValues)] := rfl
  have hvalid : valuesRef.validate .dictionaryValues 4870 = .ok () := by
    rw [OcbBodyRefV2.validate_eq_ok]
    decide
  have hcharge : (chargeAll [valuesRef]).run ⟨.new .policyA, budget 321 (by decide)⟩ =
      (.ok (), ⟨preflighted, budget 321 (by decide)⟩) := rfl
  have hall : ([(valuesRef, OcbBodyKindV1.dictionaryValues)].forM
      (fun x => x.1.validate x.2 4870) : Result Unit) = .ok () :=
    forM_eq_ok.mpr (by simpa using hvalid)
  rw [preflight, hrefs]
  simp only [metadata, hall, Fallible.lift_ok_bind, List.map_cons, List.map_nil, hcharge]

/-- The cache once the dictionary values are read. -/
def loaded : OcbOpenAuxiliaryObjectCache :=
  preflighted.setState valuesRef (.dictionaryValues ⟨.utf8, 0, 0⟩)

lemma run_dictionaryValuesSummary : (dictionaryValuesSummary (file codes) valuesRef).run
    ⟨preflighted, budget 321 (by decide)⟩ =
      (.ok ⟨.utf8, 0, 0⟩, ⟨loaded, budget 321 (by decide)⟩) := by
  obtain ⟨c, hvalues⟩ := read_dictionaryValues
  have hbytes : (file codes).readObjectBytesInnerWithLimits valuesRef .dictionaryValues
      OcbResourceLimits.policyA.maxEncodedObjectBytes.toNat =
        .ok (sealBytes dictionaryValues.fieldBytes) :=
    OcbReadSource.readObjectBytes_part _ (parts_lengths codes) 3 rfl rfl rfl
      rfl (by decide) (by decide)
  rw [dictionaryValuesSummary]
  refine (Fallible.run_bind_of_ok Fallible.run_getState).trans ?_
  have hlookup : preflighted.objects.lookup valuesRef = some .pending := rfl
  have hlimits : preflighted.resourceLimits = .policyA := rfl
  have hmetered := Opening.run_metered (s := ⟨preflighted, budget 321 (by decide)⟩) hvalues
  simp only [hlookup, hlimits, hbytes, Fallible.lift_ok_bind]
  rw [Fallible.run_bind_of_ok hmetered]
  rfl

lemma run_dictionaryGraph : (validateDictionaryGraph (file codes)
    (metadata codes cRoot cSchema cStrings cDictionaries cIndex) [column]).run
      ⟨preflighted, budget 321 (by decide)⟩ = (.ok (), ⟨loaded, budget 321 (by decide)⟩) := by
  have hdictionaries : (validateDictionaries (file codes) ["v"] [dictionary codes] [] []).run
      ⟨preflighted, budget 321 (by decide)⟩ =
        (.ok [dictionary codes], ⟨loaded, budget 321 (by decide)⟩) := by
    rw [validateDictionaries]
    refine (Fallible.run_bind_of_ok (a := ()) (t := ⟨preflighted, budget 321 (by decide)⟩)
      rfl).trans ?_
    refine (Fallible.run_bind_of_ok (a := "v") (t := ⟨preflighted, budget 321 (by decide)⟩)
      rfl).trans ?_
    refine (Fallible.run_bind_of_ok (a := ()) (t := ⟨preflighted, budget 321 (by decide)⟩)
      rfl).trans ?_
    refine (Fallible.run_bind_of_ok (run_dictionaryValuesSummary codes)).trans ?_
    rfl
  rw [validateDictionaryGraph]
  exact (Fallible.run_bind_of_ok hdictionaries).trans rfl

lemma run_rowGroupGraph : (validateRowGroupGraph (file codes) zstd
    (metadata codes cRoot cSchema cStrings cDictionaries cIndex) [column] .metadataGraph
    .policyA).run ⟨loaded, budget 321 (by decide)⟩ =
      (.ok [(0, 0)], ⟨loaded, budget 321 (by decide)⟩) := by
  have hchunks : validateChunks (fun chunk => validateChunkDesc (file codes) zstd
      (metadata codes cRoot cSchema cStrings cDictionaries cIndex) rowGroup chunk [column]
      .metadataGraph .policyA) [chunk] [] = .ok [0] := by
    rw [validateChunks, validate_chunk]
    rfl
  have hrowGroup : (validateRowGroup (file codes) zstd
      (metadata codes cRoot cSchema cStrings cDictionaries cIndex) [column] .metadataGraph
      .policyA rowGroup 0 .start).run ⟨loaded, budget 321 (by decide)⟩ =
        (.ok ⟨[(0, 0)], 1, 1, 0⟩, ⟨loaded, budget 321 (by decide)⟩) := by
    rw [validateRowGroup]
    refine (Fallible.run_bind_of_ok (a := ⟨[(0, 0)], 1, 1, 0⟩)
      (t := ⟨loaded, budget 321 (by decide)⟩) rfl).trans ?_
    refine (Fallible.run_bind_of_ok (a := ()) (t := ⟨loaded, budget 321 (by decide)⟩)
      rfl).trans ?_
    refine (Fallible.run_bind_of_ok (a := ()) (t := ⟨loaded, budget 321 (by decide)⟩)
      rfl).trans ?_
    have hslice : checkedChunksForRowGroup
        (metadata codes cRoot cSchema cStrings cDictionaries cIndex) rowGroup = .ok [chunk] := rfl
    rw [hslice, Fallible.lift_ok_bind, hchunks, Fallible.lift_ok_bind]
    rfl
  rw [validateRowGroupGraph]
  exact (Fallible.run_bind_of_ok (Fallible.run_bind_of_ok hrowGroup)).trans rfl

/-- The graph of the file is in order. -/
lemma run_metadataGraph : (validateMetadataGraph (file codes) zstd
    (metadata codes cRoot cSchema cStrings cDictionaries cIndex) 1 .metadataGraph .policyA
    none).run ⟨.new .policyA, budget 321 (by decide)⟩ =
      (.ok [(0, 0)], ⟨loaded, budget 321 (by decide)⟩) := by
  have hcolumns : validateSchemaGraph
      (metadata codes cRoot cSchema cStrings cDictionaries cIndex) = .ok [column] := rfl
  rw [validateMetadataGraph]
  refine (Fallible.run_bind_of_ok (a := ()) (t := ⟨.new .policyA, budget 321 (by decide)⟩)
    rfl).trans ?_
  rw [hcolumns, Fallible.lift_ok_bind, Fallible.run_bind_of_ok (run_preflight ..),
    Fallible.run_bind_of_ok (run_dictionaryGraph ..), Fallible.run_bind_of_ok (run_rowGroupGraph ..)]
  rfl

end Graph

/-- The metadata of the opened file. -/
def opened (cRoot cSchema cStrings cDictionaries cIndex : UInt32) : OcbMetadataV1 :=
  { metadata codes cRoot cSchema cStrings cDictionaries cIndex with
    rowGroupPositionsById := [(0, 0)]
    openAuxiliaryEncodedBytes := 52 }

lemma run_loadV1Root (zstd : ZstdCodec) (c : UInt32) : ∃ cSchema cStrings cDictionaries cIndex,
    ((loadV1Root (file codes) zstd (rootWith c) .metadataGraph .policyA).run
      ⟨.new .policyA, .fromLimits .policyA⟩).1 =
        .ok (opened codes c cSchema cStrings cDictionaries cIndex) := by
  obtain ⟨cSchema, cStrings, cDictionaries, cIndex, hread⟩ := read_metadata codes c
  have hmetered := Opening.run_metered (s := ⟨.new .policyA, .fromLimits .policyA⟩) hread
  refine ⟨cSchema, cStrings, cDictionaries, cIndex, ?_⟩
  have hcount : okOr (checkedMul 32
      (metadata codes c cSchema cStrings cDictionaries cIndex).root.columnCount.toNat
      (metadata codes c cSchema cStrings cDictionaries cIndex).root.rowGroupCount.toNat)
      (ocbCorruptFile "OCB v1 root column chunk count overflows") = .ok 1 := rfl
  rw [loadV1Root, Fallible.run_bind_of_ok hmetered, hcount, Fallible.lift_ok_bind,
    Fallible.run_bind_of_ok (run_metadataGraph ..)]
  rfl

/-- The file opens. -/
lemma readMetadata (zstd : ZstdCodec) : ∃ cRoot cSchema cStrings cDictionaries cIndex,
    readMetadataFromSourceWithValidationAndResourceLimits (file codes) zstd .metadataGraph .policyA =
      .ok (opened codes cRoot cSchema cStrings cDictionaries cIndex) := by
  have hopen : readMetadataFromSourceWithValidationAndResourceLimits (file codes) zstd
      .metadataGraph .policyA = ((loadV1Root (file codes) zstd root.sealed .metadataGraph
        .policyA).run ⟨.new .policyA, .fromLimits .policyA⟩).1 :=
    readMetadata_v1File (parts codes) page root .policyA (by rw [length_flatten_parts]; decide)
      (parts_lengths codes) rfl rfl rfl rfl rfl rfl 8 rfl rfl rfl zstd .metadataGraph (by decide)
  have hsealed : root.sealed = rootWith (crc32c root.fieldBytes) := rfl
  rw [hopen, hsealed]
  generalize crc32c root.fieldBytes = c
  exact ⟨c, run_loadV1Root codes zstd c⟩

end Sample

/-! ### Every opened file -/

/-- Whatever file is opened, in whatever mode, its metadata satisfies the invariant. -/
theorem metadataInvariant_of_readMetadata {src : OcbReadSource} {zstd : ZstdCodec}
    {validation : OcbOpenValidationMode} {limits : OcbResourceLimits} {m : OcbMetadataV1}
    (h : readMetadataFromSourceWithValidationAndResourceLimits src zstd validation limits = .ok m) :
    MetadataInvariant m :=
  (opened_of_readMetadata h).metadataInvariant

/-- The small file has the invariant. -/
theorem metadataInvariant_sample : ∃ m, readMetadataFromSourceWithValidationAndResourceLimits
    (Sample.file .i32) (fun _ _ => ⟨[], true⟩) .metadataGraph .policyA = .ok m ∧
      MetadataInvariant m := by
  obtain ⟨cRoot, cSchema, cStrings, cDictionaries, cIndex, h⟩ :=
    Sample.readMetadata .i32 fun _ _ => ⟨[], true⟩
  exact ⟨_, h, metadataInvariant_of_readMetadata h⟩

/-- The small file opens with a row group and without an ordering proof. -/
theorem readMetadata_no_ordering_proof : ∃ src zstd validation limits m,
    readMetadataFromSourceWithValidationAndResourceLimits src zstd validation limits = .ok m ∧
      ¬ OrderingBijection m := by
  obtain ⟨cRoot, cSchema, cStrings, cDictionaries, cIndex, h⟩ :=
    Sample.readMetadata .i32 fun _ _ => ⟨[], true⟩
  refine ⟨_, _, _, _, _, h, fun hperm => ?_⟩
  have hlength := hperm.length_eq
  simp [OcbMetadataV1.rowGroupProofs, Sample.opened, Sample.metadata, Sample.rowGroupIndex]
    at hlength

end ArcadiaTio.Ocb
