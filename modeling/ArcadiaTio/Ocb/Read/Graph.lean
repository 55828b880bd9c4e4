import ArcadiaTio.Ocb.Read.Chunk

/-!
# Validating the metadata graph

Opening a file accepts its metadata only after a walk over the whole graph: the counts of the
root, the schema, the dictionaries, every row group with its chunks and statistics, and the
ordering proof.  The walk shares one cache of auxiliary objects (dictionary values and key
tuples), so that each distinct reference is charged and read once.
-/

namespace ArcadiaTio.Ocb

open ArcadiaTio.Lib

/-! ### The auxiliary object cache -/

/-- How much of a file is read when it is opened. -/
inductive OcbOpenValidationMode
  | metadataGraph | fullPayload
deriving DecidableEq, Repr

/-- What the graph needs to know of the values of a dictionary. -/
structure OcbDictionaryValuesSummary where
  valueKind : OcbDictionaryValueKindV1
  entryCount : ℕ
  fixedWidth : UInt32
deriving DecidableEq

/-- What the cache knows of an object. -/
inductive OcbAuxiliaryObjectState
  | pending
  | keyTupleValidated
  | dictionaryValues (summary : OcbDictionaryValuesSummary)
deriving DecidableEq

/-- The open-scoped cache: the state of every distinct reference, and the bytes charged for
them.  The hash map is an association list; the last insertion for a key comes first. -/
structure OcbOpenAuxiliaryObjectCache where
  objects : List (OcbBodyRefV2 × OcbAuxiliaryObjectState)
  totalUniqueBytes : ℕ
  resourceLimits : OcbResourceLimits
deriving DecidableEq

/-- A step of the graph walk: it may update the cache and charge the metadata budget. -/
structure OpenState where
  auxiliary : OcbOpenAuxiliaryObjectCache
  budget : MetadataMaterializationBudget

/-- A computation of an open, with its cache and its budget. -/
abbrev Opening := Fallible ArcadiaTioError OpenState

/-- A metered step inside the graph walk. -/
def Opening.metered {α : Type} (x : Metered α) : Opening α := ⟨fun s =>
  let (r, budget) := x.run s.budget
  (r, { s with budget := budget })⟩

lemma Opening.run_metered {α : Type} {x : Metered α} {s : OpenState} {r : Result α}
    {budget : MetadataMaterializationBudget} (h : x.run s.budget = (r, budget)) :
    (Opening.metered x).run s = (r, { s with budget }) := by
  simp only [Opening.metered, h]

namespace OcbOpenAuxiliaryObjectCache

/-- A cache with nothing charged. -/
def new (limits : OcbResourceLimits) : OcbOpenAuxiliaryObjectCache := ⟨[], 0, limits⟩

/-- Charge a reference unless the cache knows it already. -/
def chargeUnique (cache : OcbOpenAuxiliaryObjectCache) (reference : OcbBodyRefV2) :
    Result OcbOpenAuxiliaryObjectCache :=
  if (cache.objects.lookup reference).isSome then .ok cache
  else do
    let total ← okOr (checkedAdd 64 cache.totalUniqueBytes reference.length.toNat)
      (ocbInvalidInput "OCB open auxiliary-object byte total overflows")
    failIf (total > cache.resourceLimits.maxOwnedSelectedCompressedBytes.toNat)
      (ocbInvalidInput "OCB open auxiliary-object bytes exceed resource limit")
    return { cache with
      objects := (reference, .pending) :: cache.objects
      totalUniqueBytes := total }

/-- Record the outcome of validating the object of a reference. -/
def setState (cache : OcbOpenAuxiliaryObjectCache) (reference : OcbBodyRefV2)
    (state : OcbAuxiliaryObjectState) : OcbOpenAuxiliaryObjectCache :=
  { cache with objects := (reference, state) :: cache.objects }

end OcbOpenAuxiliaryObjectCache

/-- A key tuple that may be absent. -/
def optionalKeyTuple (reference : OcbBodyRefV2) : List (OcbBodyRefV2 × OcbBodyKindV1) :=
  if reference.IsNull then [] else [(reference, .keyTuple)]

/-- The references to auxiliary objects, in the order in which they are visited. -/
def auxiliaryObjectReferences (m : OcbMetadataV1) (v2Root : Option OcbRootV2) :
    List (OcbBodyRefV2 × OcbBodyKindV1) :=
  (m.dictionaryIndex.elim [] fun index =>
    index.dictionaries.map fun dictionary => (dictionary.valuesRef, .dictionaryValues)) ++
  (m.rowGroupIndex.rowGroups.flatMap fun rowGroup =>
    optionalKeyTuple rowGroup.firstKeyTupleRef ++ optionalKeyTuple rowGroup.lastKeyTupleRef) ++
  (m.orderingProof.elim [] fun ordering => ordering.rowGroupProofs.flatMap fun proof =>
    optionalKeyTuple proof.firstTupleRef ++ optionalKeyTuple proof.lastTupleRef) ++
  (v2Root.elim [] fun root =>
    optionalKeyTuple root.firstKeyTupleRef ++ optionalKeyTuple root.lastKeyTupleRef ++
    optionalKeyTuple root.appendFirstKeyTupleRef ++ optionalKeyTuple root.appendLastKeyTupleRef)

/-- Charge references in order; the cache keeps what was charged before a failure. -/
def chargeAll : List OcbBodyRefV2 → Opening Unit
  | [] => return ()
  | reference :: rest => do
    let s ← Fallible.getState
    let cache ← s.auxiliary.chargeUnique reference
    Fallible.setState { s with auxiliary := cache }
    chargeAll rest

/-- Check every auxiliary reference, and only then charge them all. -/
def preflight (m : OcbMetadataV1) (v2Root : Option OcbRootV2) : Opening Unit := do
  let references := auxiliaryObjectReferences m v2Root
  (references.forM fun (reference, kind) => reference.validate kind m.fileLen : Result Unit)
  chargeAll (references.map Prod.fst)

section Walk

variable (src : OcbReadSource) (zstd : ZstdCodec)

/-- The summary of a dictionary values object, parsed at its first use. -/
def dictionaryValuesSummary (reference : OcbBodyRefV2) : Opening OcbDictionaryValuesSummary := do
  let s ← Fallible.getState
  match s.auxiliary.objects.lookup reference with
  | some (.dictionaryValues summary) => return summary
  | some .pending => do
    let bytes ← src.readObjectBytesInnerWithLimits reference .dictionaryValues
      s.auxiliary.resourceLimits.maxEncodedObjectBytes.toNat
    let values ← Opening.metered (OcbDictionaryValuesV1.readFromBytesWithBudget bytes)
    let summary : OcbDictionaryValuesSummary :=
      ⟨values.valueKind, values.values.length, values.fixedWidth⟩
    let s ← Fallible.getState
    Fallible.setState
      { s with auxiliary := s.auxiliary.setState reference (.dictionaryValues summary) }
    return summary
  | some .keyTupleValidated | none =>
    Fallible.fail (ocbCorruptFile "OCB dictionary values reference was not preflighted")

/-- Read a key tuple at its first use. -/
def validateKeyTuple (reference : OcbBodyRefV2) : Opening Unit :=
  if reference.IsNull then return ()
  else do
    let s ← Fallible.getState
    match s.auxiliary.objects.lookup reference with
    | some .keyTupleValidated => return ()
    | some .pending => do
      let _ ← src.readObjectBytesInnerWithLimits reference .keyTuple
        s.auxiliary.resourceLimits.maxEncodedObjectBytes.toNat
      Fallible.setState
        { s with auxiliary := s.auxiliary.setState reference .keyTupleValidated }
    | some (.dictionaryValues _) | none =>
      Fallible.fail (ocbCorruptFile "OCB key-tuple reference was not preflighted")

end Walk

/-! ### Roots and counts -/

/-- The rows of a list of row groups, or `none` when the sum does not fit. -/
def sumRowCounts (rowGroups : List OcbRowGroupDescV1) : Option ℕ :=
  rowGroups.foldlM (fun total rowGroup => checkedAdd 64 total rowGroup.rowCount.toNat) 0

/-- What a root says about its predecessor and about its append range is consistent. -/
def validateV2RootSemantics (root : OcbRootV2) (m : OcbMetadataV1) : Result Unit := do
  let isFirstRoot := root.previousRootRef.IsNull
  failIf (isFirstRoot ∧ root.previousGeneration ≠ 0)
    (ocbCorruptFile "OCB first root must not reference a previous generation")
  failIf (¬ isFirstRoot ∧
      checkedAdd 64 root.previousGeneration.toNat 1 ≠ some root.generation.toNat)
    (ocbCorruptFile "OCB root previous generation metadata is invalid")
  let appendRowEnd ← okOr (checkedAdd 64 root.appendBaseRow.toNat root.appendRowCount.toNat)
    (ocbCorruptFile "OCB root append row range overflows")
  failIf (appendRowEnd > root.rowCount.toNat)
    (ocbCorruptFile "OCB root append row range exceeds total rows")
  let appendGroupEnd ← okOr
    (checkedAdd 32 root.appendBaseRowGroup.toNat root.appendRowGroupCount.toNat)
    (ocbCorruptFile "OCB root append row-group range overflows")
  failIf (appendGroupEnd > root.rowGroupCount.toNat)
    (ocbCorruptFile "OCB root append row-group range exceeds total row groups")
  failIf ((root.appendRowCount = 0 ∨ root.appendRowGroupCount = 0) ∧
      ¬ (isFirstRoot ∧ root.rowCount = 0 ∧ root.rowGroupCount = 0))
    (ocbCorruptFile "OCB root append range must be non-empty")
  let appended := m.rowGroupIndex.rowGroups.filter fun rowGroup =>
    root.appendBaseRowGroup ≤ rowGroup.rowGroupId ∧ rowGroup.rowGroupId.toNat < appendGroupEnd
  let appendedRows ← okOr (sumRowCounts appended)
    (ocbCorruptFile "OCB root append row count overflows")
  failIf (appendedRows ≠ root.appendRowCount.toNat)
    (ocbCorruptFile "OCB root append row count does not match appended row groups")

/-- The dictionaries of the index, if there is one, are as many as the root says. -/
def validateDictionaryCount (m : OcbMetadataV1) : Result Unit :=
  match m.dictionaryIndex with
  | none => .ok ()
  | some index => failIf (index.dictionaries.length ≠ m.root.dictionaryCount.toNat)
      (ocbCorruptFile "OCB root dictionary_count does not match dictionary index")

/-- The counts of a root agree with the tables. -/
def validateRootCounts (m : OcbMetadataV1) (rootColumnChunkCount : ℕ) : Result Unit := do
  failIf (m.root.columnCount.toNat ≠ m.schema.columns.length)
    (ocbCorruptFile "OCB root column_count does not match schema")
  failIf (m.root.rowGroupCount.toNat ≠ m.rowGroupIndex.rowGroups.length)
    (ocbCorruptFile "OCB root row_group_count does not match row-group index")
  failIf (rootColumnChunkCount ≠ m.rowGroupIndex.columnChunks.length)
    (ocbCorruptFile "OCB root column_chunk_count does not match row-group index")
  failIf (m.root.dictionaryCount > 0 ∧ m.dictionaryIndex = none)
    (ocbCorruptFile "OCB root dictionary_count requires dictionary index")
  validateDictionaryCount m
  let totalRows ← okOr (sumRowCounts m.rowGroupIndex.rowGroups)
    (ocbCorruptFile "OCB row_count overflows")
  failIf (totalRows ≠ m.root.rowCount.toNat)
    (ocbCorruptFile "OCB root row_count does not match row groups")

/-! ### Schema and dictionaries -/

/-- The hash map of the columns by id: the columns themselves, in schema order. -/
abbrev ColumnsById := List OcbColumnDescV1

/-- The descriptor of a column. -/
def ColumnsById.get (columns : ColumnsById) (columnId : UInt32) : Option OcbColumnDescV1 :=
  columns.find? fun column => column.columnId = columnId

/-- Check the columns one after the other; `seen` are the columns before, `seenNames` their
names. -/
def validateColumns (strings : List String) :
    List OcbColumnDescV1 → ColumnsById → List String → Result ColumnsById
  | [], seen, _ => .ok seen
  | column :: rest, seen, seenNames => do
    failIf ((ColumnsById.get seen column.columnId).isSome)
      (ocbCorruptFile "OCB schema has duplicate column ids")
    let name ← okOr strings[column.nameStringId.toNat]?
      (ocbCorruptFile "OCB column name string id is out of range")
    failIf (name ∈ seenNames) (ocbCorruptFile "OCB schema has duplicate column names")
    let _ ← column.valueByteWidth
    failIf (column.logicalKind = .dictionaryCode ∧ column.dictionaryId = ocbNullU32)
      (ocbCorruptFile "OCB dictionary-coded column must reference a dictionary")
    failIf (column.logicalKind = .dictionaryCode ∧ column.physicalType = .fixedBinary)
      (ocbCorruptFile "OCB dictionary-coded column cannot use fixed-binary physical type")
    validateColumns strings rest (seen ++ [column]) (name :: seenNames)

/-- Check the columns and sort them by id. -/
def validateSchemaGraph (m : OcbMetadataV1) : Result ColumnsById :=
  validateColumns m.stringTable.strings m.schema.columns [] []

/-- Check the dictionaries one after the other against their values objects. -/
def validateDictionaries (src : OcbReadSource) (strings : List String) :
    List OcbDictionaryDescV1 → List OcbDictionaryDescV1 → List String →
    Opening (List OcbDictionaryDescV1)
  | [], seen, _ => return seen
  | dictionary :: rest, seen, seenNames => do
    failIf (∃ d ∈ seen, d.dictionaryId = dictionary.dictionaryId)
      (ocbCorruptFile "OCB dictionary index has duplicate dictionary ids")
    let name ← okOr strings[dictionary.nameStringId.toNat]?
      (ocbCorruptFile "OCB dictionary name string id is out of range")
    failIf (name ∈ seenNames)
      (ocbCorruptFile "OCB dictionary index has duplicate dictionary names")
    let values ← dictionaryValuesSummary src dictionary.valuesRef
    failIf (values.valueKind ≠ dictionary.valueKind ∨
        values.entryCount ≠ dictionary.entryCount.toNat)
      (ocbCorruptFile "OCB dictionary values do not match dictionary index")
    validateDictionaries src strings rest (seen ++ [dictionary]) (name :: seenNames)

/-- A dictionary-coded column refers to a dictionary of its own code type. -/
def validateColumnDictionary (dictionaries : List OcbDictionaryDescV1)
    (column : OcbColumnDescV1) : Result Unit :=
  if column.logicalKind = .dictionaryCode then do
    let dictionary ← okOr (dictionaries.find? fun d => d.dictionaryId = column.dictionaryId)
      (ocbCorruptFile "OCB column references unknown dictionary")
    failIf (dictionary.codePhysicalType ≠ column.physicalType)
      (ocbCorruptFile "OCB dictionary code physical type does not match column")
  else .ok ()

/-- The columns are visited in schema order here; the hash map of the source fixes no order, and
every failure of this loop is a corruption error. -/
def validateDictionaryGraph (src : OcbReadSource) (m : OcbMetadataV1) (columns : ColumnsById) :
    Opening Unit :=
  match m.dictionaryIndex with
  | none => (columns.forM fun column => failIf (column.logicalKind = .dictionaryCode)
      (ocbCorruptFile "OCB dictionary-coded column references missing dictionary index") :
        Result Unit)
  | some index => do
    let dictionaries ←
      validateDictionaries src m.stringTable.strings index.dictionaries [] []
    (columns.forM (validateColumnDictionary dictionaries) : Result Unit)

/-! ### Row groups -/

/-- The items of a table at `count` positions from `start` on, when the range is inside it. -/
def checkedSlice {α : Type} (table : List α) (start : UInt64) (count : UInt32)
    (overflows outOfBounds : String) : Result (List α) := do
  let endPos ← okOr (checkedAdd usizeBits start.toNat count.toNat) (ocbCorruptFile overflows)
  failIf (endPos > table.length) (ocbCorruptFile outOfBounds)
  return (table.take endPos).drop start.toNat

/-- The chunk descriptors of a row group. -/
def checkedChunksForRowGroup (m : OcbMetadataV1) (rowGroup : OcbRowGroupDescV1) :
    Result (List OcbColumnChunkDescV1) :=
  checkedSlice m.rowGroupIndex.columnChunks rowGroup.chunkDescBegin rowGroup.chunkDescCount
    "OCB row-group chunk descriptor range overflows"
    "OCB row-group chunk descriptor range is out of bounds"

/-- The statistics of a row group. -/
def checkedStatsForRowGroup (m : OcbMetadataV1) (rowGroup : OcbRowGroupDescV1) :
    Result (List OcbColumnStatsV1) :=
  checkedSlice m.rowGroupIndex.stats rowGroup.statBegin rowGroup.statCount
    "OCB row-group stat descriptor range overflows"
    "OCB row-group stat descriptor range is out of bounds"

/-- What the walk over the row groups expects next. -/
structure RowGroupCursor where
  /-- The hash map from ids to positions, as an association list in insertion order. -/
  positionsById : List (UInt32 × ℕ)
  expectedBaseRow : ℕ
  expectedChunkBegin : ℕ
  expectedStatBegin : ℕ

/-- The cursor before the first row group. -/
def RowGroupCursor.start : RowGroupCursor := ⟨[], 0, 0, 0⟩

/-- Check a row-group descriptor against the cursor and advance it. -/
def validateRowGroupDesc (rowGroup : OcbRowGroupDescV1) (position : ℕ) (c : RowGroupCursor) :
    Result RowGroupCursor := do
  failIf ((c.positionsById.lookup rowGroup.rowGroupId).isSome)
    (ocbCorruptFile "OCB row-group index has duplicate row group ids")
  failIf (rowGroup.baseRow.toNat ≠ c.expectedBaseRow)
    (ocbCorruptFile "OCB row-group base rows are not contiguous")
  failIf (rowGroup.chunkDescBegin.toNat ≠ c.expectedChunkBegin)
    (ocbCorruptFile "OCB row-group chunk descriptor ranges are not contiguous")
  failIf (rowGroup.statBegin.toNat ≠ c.expectedStatBegin)
    (ocbCorruptFile "OCB row-group stat ranges are not contiguous")
  let baseRow ← okOr (checkedAdd 64 c.expectedBaseRow rowGroup.rowCount.toNat)
    (ocbCorruptFile "OCB row-group base row range overflows")
  let chunkBegin ← okOr (checkedAdd 64 c.expectedChunkBegin rowGroup.chunkDescCount.toNat)
    (ocbCorruptFile "OCB row-group chunk descriptor range overflows")
  let statBegin ← okOr (checkedAdd 64 c.expectedStatBegin rowGroup.statCount.toNat)
    (ocbCorruptFile "OCB row-group stat descriptor range overflows")
  return ⟨c.positionsById ++ [(rowGroup.rowGroupId, position)], baseRow, chunkBegin, statBegin⟩

/-- The byte length of a validity bitmap. -/
def validityBitmapLen (rowCount : ℕ) : ℕ := (rowCount + 7) / 8

/-- Check the descriptor of a chunk. -/
def validateChunkDesc (src : OcbReadSource) (zstd : ZstdCodec) (m : OcbMetadataV1)
    (rowGroup : OcbRowGroupDescV1) (chunk : OcbColumnChunkDescV1) (columns : ColumnsById)
    (validation : OcbOpenValidationMode) (limits : OcbResourceLimits) : Result Unit := do
  failIf (chunk.rowGroupId ≠ rowGroup.rowGroupId)
    (ocbCorruptFile "OCB row-group chunk descriptor references a different row group")
  let column ← okOr (columns.get chunk.columnId)
    (ocbCorruptFile "OCB chunk descriptor references unknown column")
  failIf (chunk.physicalType ≠ column.physicalType)
    (ocbCorruptFile "OCB chunk descriptor does not match schema")
  failIf (chunk.rowCount ≠ rowGroup.rowCount)
    (ocbCorruptFile "OCB chunk row_count does not match row group")
  let expectedBytes ← column.expectedValueBytes chunk.rowCount.toNat
  failIf (chunk.uncompressedBytes.toNat ≠ expectedBytes)
    (ocbCorruptFile "OCB chunk byte length does not match row count and physical type")
  if chunk.validityRef.IsNull then pure ()
  else do
    failIf (column.nullability ≠ .nullable)
      (ocbCorruptFile "OCB non-null column chunk cannot have a validity bitmap")
    chunk.validityRef.validate .validityBitmap m.fileLen
    failIf (chunk.validityRef.length.toNat ≠ validityBitmapLen chunk.rowCount.toNat)
      (ocbCorruptFile "OCB validity bitmap length does not match row count")
  match validation with
  | .metadataGraph => do
    let _ ← validateColumnChunkObjectHeader src chunk limits
    return ()
  | .fullPayload => do
    validateColumnChunkObjectStreaming src zstd chunk limits
    if chunk.validityRef.IsNull then pure ()
    else do
      let validity ←
        src.readObjectBytesWithResourceLimits chunk.validityRef .validityBitmap limits
      failIf (validity.length ≠ validityBitmapLen chunk.rowCount.toNat)
        (ocbCorruptFile "OCB validity bitmap length does not match row count")

/-- Check a statistics record. -/
def validateStatDesc (rowGroup : OcbRowGroupDescV1) (stat : OcbColumnStatsV1)
    (columns : ColumnsById) : Result Unit := do
  failIf (stat.rowGroupId ≠ rowGroup.rowGroupId)
    (ocbCorruptFile "OCB row-group stat references a different row group")
  let column ← okOr (columns.get stat.columnId)
    (ocbCorruptFile "OCB stats descriptor references unknown column")
  failIf (stat.physicalType ≠ column.physicalType)
    (ocbCorruptFile "OCB stat dtype does not match schema column dtype")
  failIf (stat.physicalType = .fixedBinary)
    (ocbCorruptFile "OCB fixed-binary columns do not support scalar stats")

/-- Check the chunks of a row group one after the other; the result are their columns. -/
def validateChunks (check : OcbColumnChunkDescV1 → Result Unit) :
    List OcbColumnChunkDescV1 → List UInt32 → Result (List UInt32)
  | [], seen => .ok seen
  | chunk :: rest, seen => do
    check chunk
    failIf (chunk.columnId ∈ seen)
      (ocbCorruptFile "OCB row group has duplicate chunk descriptors for a column")
    validateChunks check rest (seen ++ [chunk.columnId])

/-- Check the statistics of a row group one after the other. -/
def validateStats (check : OcbColumnStatsV1 → Result Unit) :
    List OcbColumnStatsV1 → List UInt32 → Result (List UInt32)
  | [], seen => .ok seen
  | stat :: rest, seen => do
    check stat
    failIf (stat.columnId ∈ seen)
      (ocbCorruptFile "OCB row group has duplicate stats for a column")
    validateStats check rest (seen ++ [stat.columnId])

/-- Two lists hold the same elements. -/
def SameElements (a b : List UInt32) : Prop := (∀ x ∈ a, x ∈ b) ∧ ∀ x ∈ b, x ∈ a

instance (a b : List UInt32) : Decidable (SameElements a b) :=
  @instDecidableAnd _ _ (List.decidableBAll _ a) (List.decidableBAll _ b)

section RowGroupWalk

variable (src : OcbReadSource) (zstd : ZstdCodec) (m : OcbMetadataV1) (columns : ColumnsById)
  (validation : OcbOpenValidationMode) (limits : OcbResourceLimits)

/-- The part of the walk that belongs to one row group. -/
def validateRowGroup (rowGroup : OcbRowGroupDescV1) (position : ℕ) (c : RowGroupCursor) :
    Opening RowGroupCursor := do
  let c ← validateRowGroupDesc rowGroup position c
  validateKeyTuple src rowGroup.firstKeyTupleRef
  validateKeyTuple src rowGroup.lastKeyTupleRef
  let chunks ← checkedChunksForRowGroup m rowGroup
  let chunkColumns ← validateChunks
    (fun chunk => validateChunkDesc src zstd m rowGroup chunk columns validation limits) chunks []
  failIf (¬ SameElements chunkColumns (columns.map OcbColumnDescV1.columnId))
    (ocbCorruptFile "OCB row group chunk descriptors do not cover all schema columns")
  let stats ← checkedStatsForRowGroup m rowGroup
  let _ ← validateStats (fun stat => validateStatDesc rowGroup stat columns) stats []
  return c

/-- The walk over the row groups, from a position on. -/
def validateRowGroups : List OcbRowGroupDescV1 → ℕ → RowGroupCursor → Opening RowGroupCursor
  | [], _, c => return c
  | rowGroup :: rest, position, c => do
    let c ← validateRowGroup src zstd m columns validation limits rowGroup position c
    validateRowGroups rest (position + 1) c

/-- Check the row groups; the result is the map from row-group ids to positions. -/
def validateRowGroupGraph : Opening (List (UInt32 × ℕ)) := do
  let c ← validateRowGroups src zstd m columns validation limits m.rowGroupIndex.rowGroups 0
    RowGroupCursor.start
  failIf (c.expectedChunkBegin ≠ m.rowGroupIndex.columnChunks.length)
    (ocbCorruptFile "OCB row-group chunk descriptor ranges do not cover the chunk table")
  failIf (c.expectedStatBegin ≠ m.rowGroupIndex.stats.length)
    (ocbCorruptFile "OCB row-group stat ranges do not cover the stats table")
  return c.positionsById

end RowGroupWalk

/-! ### Ordering -/

/-- Check the ordering keys one after the other. -/
def validateOrderingKeys (columns : ColumnsById) :
    List OcbOrderingKeyV1 → List UInt32 → Result Unit
  | [], _ => .ok ()
  | key :: rest, seen => do
    let column ← okOr (columns.get key.columnId)
      (ocbCorruptFile "OCB ordering proof key references unknown column")
    failIf (column.physicalType = .fixedBinary)
      (ocbCorruptFile "OCB fixed-binary column cannot be an ordering key")
    failIf (key.columnId ∈ seen) (ocbCorruptFile "OCB ordering proof has duplicate key columns")
    validateOrderingKeys columns rest (key.columnId :: seen)

/-- Check the row-group proofs one after the other; the result are their row groups. -/
def validateRowGroupProofs (src : OcbReadSource) (positionsById : List (UInt32 × ℕ)) :
    List OcbRowGroupOrderingProofV1 → List UInt32 → Opening (List UInt32)
  | [], seen => return seen
  | proof :: rest, seen => do
    failIf ((positionsById.lookup proof.rowGroupId).isNone)
      (ocbCorruptFile "OCB ordering proof references unknown row group")
    failIf (proof.rowGroupId ∈ seen)
      (ocbCorruptFile "OCB ordering proof has duplicate row-group proofs")
    validateKeyTuple src proof.firstTupleRef
    validateKeyTuple src proof.lastTupleRef
    validateRowGroupProofs src positionsById rest (seen ++ [proof.rowGroupId])

/-- Check the ordering proof against the row groups. -/
def validateOrderingGraph (src : OcbReadSource) (m : OcbMetadataV1) (columns : ColumnsById)
    (positionsById : List (UInt32 × ℕ)) : Opening Unit :=
  match m.orderingProof with
  | none => return ()
  | some ordering => do
    failIf (ordering.rowGroupProofs.length ≠ m.rowGroupIndex.rowGroups.length)
      (ocbCorruptFile "OCB ordering proof row-group count does not match row-group index")
    validateOrderingKeys columns ordering.keys []
    let seen ← validateRowGroupProofs src positionsById ordering.rowGroupProofs []
    failIf (¬ SameElements seen (positionsById.map Prod.fst))
      (ocbCorruptFile "OCB ordering proof row groups do not cover row-group index")

/-! ### The whole graph -/

/-- The key tuples of a V2 root. -/
def validateRootKeyTuples (src : OcbReadSource) (v2Root : Option OcbRootV2) : Opening Unit :=
  match v2Root with
  | none => return ()
  | some root => do
    validateKeyTuple src root.firstKeyTupleRef
    validateKeyTuple src root.lastKeyTupleRef
    validateKeyTuple src root.appendFirstKeyTupleRef
    validateKeyTuple src root.appendLastKeyTupleRef

/-- Check the graph of objects that a root refers to. -/
def validateMetadataGraph (src : OcbReadSource) (zstd : ZstdCodec) (m : OcbMetadataV1)
    (rootColumnChunkCount : ℕ) (validation : OcbOpenValidationMode) (limits : OcbResourceLimits)
    (v2Root : Option OcbRootV2) : Opening (List (UInt32 × ℕ)) := do
  validateRootCounts m rootColumnChunkCount
  let columns ← validateSchemaGraph m
  preflight m v2Root
  validateDictionaryGraph src m columns
  let positionsById ← validateRowGroupGraph src zstd m columns validation limits
  validateOrderingGraph src m columns positionsById
  validateRootKeyTuples src v2Root
  return positionsById

/-- Check the graph of objects that a root of the second version refers to. -/
def validateV2MetadataGraph (src : OcbReadSource) (zstd : ZstdCodec) (m : OcbMetadataV1)
    (root : OcbRootV2) (validation : OcbOpenValidationMode) (limits : OcbResourceLimits) :
    Opening (List (UInt32 × ℕ)) := do
  validateV2RootSemantics root m
  validateMetadataGraph src zstd m root.columnChunkCount.toNat validation limits (some root)

end ArcadiaTio.Ocb
