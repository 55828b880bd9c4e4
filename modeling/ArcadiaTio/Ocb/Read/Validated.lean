import Mathlib.Data.List.Nodup
import ArcadiaTio.Lib.Tiling
import ArcadiaTio.Ocb.Read.Select

/-!
# What the graph validation establishes

Each walk of the graph validation is inverted once: if it returns, then every item it visited
passed its own check, and no key was met twice.  The conclusions about the whole metadata are
collected in `GraphValidated`.
-/

namespace ArcadiaTio.Ocb

open ArcadiaTio.Lib

/-! ### Schema -/

/-- The name of a column, if the string table has one. -/
def OcbColumnDescV1.name? (column : OcbColumnDescV1) (strings : List String) : Option String :=
  strings[column.nameStringId.toNat]?

/-- What the schema check establishes about one column. -/
structure ColumnChecked (strings : List String) (column : OcbColumnDescV1) : Prop where
  name : ∃ name, column.name? strings = some name
  width : IsOk column.valueByteWidth
  dictionaryId : column.logicalKind = .dictionaryCode → column.dictionaryId ≠ ocbNullU32
  codeType : column.logicalKind = .dictionaryCode → column.physicalType ≠ .fixedBinary

lemma ColumnsById.get_eq_none {columns : ColumnsById} {columnId : UInt32} :
    columns.get columnId = none ↔ columnId ∉ columns.map OcbColumnDescV1.columnId := by
  simp only [ColumnsById.get, List.find?_eq_none, decide_eq_true_eq, List.mem_map, not_exists, not_and]

lemma ColumnsById.of_get_eq_some {columns : ColumnsById} {columnId : UInt32}
    {column : OcbColumnDescV1} (h : columns.get columnId = some column) :
    column ∈ columns ∧ column.columnId = columnId :=
  ⟨List.mem_of_find?_eq_some h, by simpa using List.find?_some h⟩

lemma ColumnsById.get_eq_some {columns : ColumnsById} {column : OcbColumnDescV1}
    (hnodup : (columns.map OcbColumnDescV1.columnId).Nodup) (hmem : column ∈ columns) :
    columns.get column.columnId = some column := by
  rcases hget : columns.get column.columnId with _ | found
  · exact absurd (List.mem_map_of_mem hmem) (ColumnsById.get_eq_none.mp hget)
  · obtain ⟨hfound, hid⟩ := ColumnsById.of_get_eq_some hget
    rw [List.inj_on_of_nodup_map hnodup hfound hmem hid]

lemma of_validateColumns {strings : List String} {columns seen result : ColumnsById}
    {seenNames : List String} (h : validateColumns strings columns seen seenNames = .ok result)
    (hseen : (seen.map OcbColumnDescV1.columnId).Nodup) :
    result = seen ++ columns ∧ (∀ c ∈ columns, ColumnChecked strings c) ∧
      (result.map OcbColumnDescV1.columnId).Nodup ∧
      (columns.map (OcbColumnDescV1.name? · strings)).Nodup ∧
      ∀ c ∈ columns, ∀ name ∈ seenNames, c.name? strings ≠ some name := by
  induction columns generalizing seen seenNames with
  | nil =>
    cases h
    simpa using hseen
  | cons column rest ih =>
    simp only [validateColumns, bind_eq_ok, failIf_eq_ok, okOr_eq_ok, Bool.not_eq_true,
      Option.isSome_eq_false_iff, Option.isNone_iff_eq_none, exists_const] at h
    obtain ⟨hfresh, name, hname, hnew, width, hwidth, hdictionary, hcode, h⟩ := h
    rw [ColumnsById.get_eq_none] at hfresh
    have hseen' : ((seen ++ [column]).map OcbColumnDescV1.columnId).Nodup := by
      rw [List.map_append, List.nodup_append]
      refine ⟨hseen, by simp, ?_⟩
      rintro a ha b hb rfl
      obtain rfl : a = column.columnId := by simpa using hb
      exact hfresh ha
    obtain ⟨rfl, hchecked, hnodup, hnames, hnotseen⟩ := ih h hseen'
    have hcolumn : ColumnChecked strings column :=
      ⟨⟨name, hname⟩, ⟨width, hwidth⟩, fun hk hd => hdictionary ⟨hk, hd⟩,
        fun hk hp => hcode ⟨hk, hp⟩⟩
    refine ⟨by simp, ?_, hnodup, ?_, ?_⟩
    · rintro c (_ | ⟨_, hc⟩)
      · exact hcolumn
      · exact hchecked c hc
    · rw [List.map_cons, List.nodup_cons]
      refine ⟨fun hmem => ?_, hnames⟩
      obtain ⟨c, hc, hcname⟩ := List.mem_map.mp hmem
      exact hnotseen c hc name (by simp) (hcname.trans hname)
    · rintro c (_ | ⟨_, hc⟩) name' hname' heq
      · obtain rfl : name = name' := Option.some.inj (hname.symm.trans heq)
        exact hnew hname'
      · exact hnotseen c hc name' (by simp [hname']) heq

/-! ### Dictionaries -/

/-- The name of a dictionary, if the string table has one. -/
def OcbDictionaryDescV1.name? (dictionary : OcbDictionaryDescV1) (strings : List String) :
    Option String :=
  strings[dictionary.nameStringId.toNat]?

lemma of_validateDictionaries {src : OcbReadSource} {strings : List String}
    {dictionaries seen result : List OcbDictionaryDescV1} {seenNames : List String}
    {s s' : OpenState}
    (h : (validateDictionaries src strings dictionaries seen seenNames).run s = (.ok result, s')) :
    result = seen ++ dictionaries ∧
      ∀ d ∈ dictionaries, ∃ name, d.name? strings = some name := by
  induction dictionaries generalizing seen seenNames s with
  | nil =>
    cases h
    simp
  | cons dictionary rest ih =>
    obtain ⟨_, -, h⟩ := Fallible.run_lift_bind_eq_ok.mp h
    obtain ⟨name, hname, h⟩ := Fallible.run_lift_bind_eq_ok.mp h
    obtain ⟨_, -, h⟩ := Fallible.run_lift_bind_eq_ok.mp h
    obtain ⟨values, s₁, -, h⟩ := Fallible.run_bind_eq_ok.mp h
    obtain ⟨_, -, h⟩ := Fallible.run_lift_bind_eq_ok.mp h
    obtain ⟨rfl, hnames⟩ := ih h
    refine ⟨by simp, ?_⟩
    rintro d (_ | ⟨_, hd⟩)
    · exact ⟨name, okOr_eq_ok.mp hname⟩
    · exact hnames d hd

/-- A dictionary-coded column finds a dictionary of its own code type. -/
def DictionaryResolves (dictionaryIndex : Option OcbDictionaryIndexV1)
    (column : OcbColumnDescV1) : Prop :=
  ∃ index d, dictionaryIndex = some index ∧ d ∈ index.dictionaries ∧
    d.dictionaryId = column.dictionaryId ∧ d.codePhysicalType = column.physicalType

lemma of_validateDictionaryGraph {src : OcbReadSource} {m : OcbMetadataV1} {columns : ColumnsById}
    {s s' : OpenState} (h : (validateDictionaryGraph src m columns).run s = (.ok (), s')) :
    (∀ index, m.dictionaryIndex = some index → ∀ d ∈ index.dictionaries,
      ∃ name, d.name? m.stringTable.strings = some name) ∧
    ∀ c ∈ columns, c.logicalKind = .dictionaryCode → DictionaryResolves m.dictionaryIndex c := by
  rw [validateDictionaryGraph] at h
  split at h
  case h_1 hnone =>
    refine ⟨fun index hindex => ?_, fun c hc hkind => ?_⟩
    · rw [hnone] at hindex
      cases hindex
    · have := forM_eq_ok.mp (Prod.mk.inj h).1 c hc
      exact absurd hkind (failIf_eq_ok.mp this)
  case h_2 index hindex =>
    obtain ⟨dictionaries, s₁, hdictionaries, h⟩ := Fallible.run_bind_eq_ok.mp h
    obtain ⟨hresult, hnames⟩ := of_validateDictionaries hdictionaries
    refine ⟨fun index' hindex' => ?_, fun c hc hkind => ?_⟩
    · obtain rfl : index = index' := Option.some.inj (hindex.symm.trans hindex')
      exact hnames
    · have hcheck := forM_eq_ok.mp (Prod.mk.inj h).1 c hc
      rw [validateColumnDictionary, if_pos hkind] at hcheck
      obtain ⟨d, hfind, htype⟩ := bind_eq_ok.mp hcheck
      have hfind := okOr_eq_ok.mp hfind
      have hmem := List.mem_of_find?_eq_some hfind
      rw [hresult, List.nil_append] at hmem
      exact ⟨index, d, hindex, hmem, by simpa using List.find?_some hfind,
        by simpa [failIf_eq_ok] using htype⟩

/-! ### Row groups -/

namespace OcbRowGroupDescV1

/-- The rows of a row group, as a start and a length. -/
def rowRange (rowGroup : OcbRowGroupDescV1) : ℕ × ℕ :=
  (rowGroup.baseRow.toNat, rowGroup.rowCount.toNat)

/-- The positions of its chunks in the chunk table. -/
def chunkRange (rowGroup : OcbRowGroupDescV1) : ℕ × ℕ :=
  (rowGroup.chunkDescBegin.toNat, rowGroup.chunkDescCount.toNat)

/-- The positions of its statistics in the table of statistics. -/
def statRange (rowGroup : OcbRowGroupDescV1) : ℕ × ℕ :=
  (rowGroup.statBegin.toNat, rowGroup.statCount.toNat)

end OcbRowGroupDescV1

lemma nodup_append_singleton {α : Type} {l : List α} {a : α} :
    (l ++ [a]).Nodup ↔ l.Nodup ∧ a ∉ l := by
  rw [← List.concat_eq_append, List.nodup_concat, and_comm]

lemma of_validateChunks {check : OcbColumnChunkDescV1 → Result Unit}
    {chunks : List OcbColumnChunkDescV1} {seen result : List UInt32}
    (h : validateChunks check chunks seen = .ok result) (hseen : seen.Nodup) :
    result = seen ++ chunks.map OcbColumnChunkDescV1.columnId ∧ result.Nodup ∧
      ∀ chunk ∈ chunks, check chunk = .ok () := by
  induction chunks generalizing seen with
  | nil =>
    cases h
    simpa using hseen
  | cons chunk rest ih =>
    obtain ⟨_, hcheck, h⟩ := bind_eq_ok.mp h
    obtain ⟨_, hfresh, h⟩ := bind_eq_ok.mp h
    obtain ⟨rfl, hnodup, hchecked⟩ :=
      ih h (nodup_append_singleton.mpr ⟨hseen, failIf_eq_ok.mp hfresh⟩)
    refine ⟨by simp, hnodup, ?_⟩
    rintro c (_ | ⟨_, hc⟩)
    · exact hcheck
    · exact hchecked c hc

lemma of_validateStats {check : OcbColumnStatsV1 → Result Unit}
    {stats : List OcbColumnStatsV1} {seen result : List UInt32}
    (h : validateStats check stats seen = .ok result) (hseen : seen.Nodup) :
    result = seen ++ stats.map OcbColumnStatsV1.columnId ∧ result.Nodup ∧
      ∀ stat ∈ stats, check stat = .ok () := by
  induction stats generalizing seen with
  | nil =>
    cases h
    simpa using hseen
  | cons stat rest ih =>
    obtain ⟨_, hcheck, h⟩ := bind_eq_ok.mp h
    obtain ⟨_, hfresh, h⟩ := bind_eq_ok.mp h
    obtain ⟨rfl, hnodup, hchecked⟩ :=
      ih h (nodup_append_singleton.mpr ⟨hseen, failIf_eq_ok.mp hfresh⟩)
    refine ⟨by simp, hnodup, ?_⟩
    rintro c (_ | ⟨_, hc⟩)
    · exact hcheck
    · exact hchecked c hc

section RowGroups

variable {src : OcbReadSource} {zstd : ZstdCodec} {m : OcbMetadataV1} {columns : ColumnsById}
  {validation : OcbOpenValidationMode} {limits : OcbResourceLimits}

variable (src zstd m columns validation limits) in
/-- What the walk establishes about one row group: its chunks are one for each column, and every
descriptor passed its check. -/
structure RowGroupChecked (rowGroup : OcbRowGroupDescV1) : Prop where
  chunks : ∃ chunks, checkedChunksForRowGroup m rowGroup = .ok chunks ∧
    (chunks.map OcbColumnChunkDescV1.columnId).Nodup ∧
    SameElements (chunks.map OcbColumnChunkDescV1.columnId)
      (columns.map OcbColumnDescV1.columnId) ∧
    ∀ chunk ∈ chunks,
      validateChunkDesc src zstd m rowGroup chunk columns validation limits = .ok ()
  stats : ∃ stats, checkedStatsForRowGroup m rowGroup = .ok stats ∧
    (stats.map OcbColumnStatsV1.columnId).Nodup ∧
    ∀ stat ∈ stats, validateStatDesc rowGroup stat columns = .ok ()

variable (src zstd m columns validation limits) in
/-- What the walk over some row groups establishes between two cursors. -/
structure RowGroupsWalked (rowGroups : List OcbRowGroupDescV1) (position : ℕ)
    (c c' : RowGroupCursor) : Prop where
  positions : c'.positionsById = c.positionsById ++
    (rowGroups.map OcbRowGroupDescV1.rowGroupId).zipIdx position
  ids : (c'.positionsById.map Prod.fst).Nodup
  rows : Tiles c.expectedBaseRow (rowGroups.map OcbRowGroupDescV1.rowRange) c'.expectedBaseRow
  chunks : Tiles c.expectedChunkBegin (rowGroups.map OcbRowGroupDescV1.chunkRange)
    c'.expectedChunkBegin
  stats : Tiles c.expectedStatBegin (rowGroups.map OcbRowGroupDescV1.statRange)
    c'.expectedStatBegin
  checked : ∀ rowGroup ∈ rowGroups,
    RowGroupChecked src zstd m columns validation limits rowGroup

lemma of_validateRowGroupDesc {rowGroup : OcbRowGroupDescV1} {position : ℕ}
    {c c' : RowGroupCursor} (h : validateRowGroupDesc rowGroup position c = .ok c')
    (hids : (c.positionsById.map Prod.fst).Nodup) :
    c'.positionsById = c.positionsById ++ [(rowGroup.rowGroupId, position)] ∧
      (c'.positionsById.map Prod.fst).Nodup ∧
      rowGroup.baseRow.toNat = c.expectedBaseRow ∧
      c'.expectedBaseRow = c.expectedBaseRow + rowGroup.rowCount.toNat ∧
      rowGroup.chunkDescBegin.toNat = c.expectedChunkBegin ∧
      c'.expectedChunkBegin = c.expectedChunkBegin + rowGroup.chunkDescCount.toNat ∧
      rowGroup.statBegin.toNat = c.expectedStatBegin ∧
      c'.expectedStatBegin = c.expectedStatBegin + rowGroup.statCount.toNat := by
  simp only [validateRowGroupDesc, bind_eq_ok, failIf_eq_ok, okOr_eq_ok, checkedAdd_eq_some,
    exists_const, pure_eq_ok, Except.ok.injEq, not_not, Bool.not_eq_true, Option.isSome_eq_false_iff,
    Option.isNone_iff_eq_none] at h
  obtain ⟨hfresh, hbase, hchunk, hstat, _, ⟨rfl, -⟩, _, ⟨rfl, -⟩, _, ⟨rfl, -⟩, rfl⟩ := h
  refine ⟨rfl, ?_, hbase, rfl, hchunk, rfl, hstat, rfl⟩
  rw [List.map_append, List.map_singleton, nodup_append_singleton]
  refine ⟨hids, fun hmem => ?_⟩
  obtain ⟨p, hp, hid⟩ := List.mem_map.mp hmem
  have := List.lookup_eq_none_iff.mp hfresh p hp
  simp [hid] at this

lemma of_validateRowGroup {rowGroup : OcbRowGroupDescV1} {position : ℕ} {c c' : RowGroupCursor}
    {s s' : OpenState}
    (h : (validateRowGroup src zstd m columns validation limits rowGroup position c).run s =
      (.ok c', s')) :
    validateRowGroupDesc rowGroup position c = .ok c' ∧
      RowGroupChecked src zstd m columns validation limits rowGroup := by
  obtain ⟨c₁, hdesc, h⟩ := Fallible.run_lift_bind_eq_ok.mp h
  obtain ⟨_, s₁, -, h⟩ := Fallible.run_bind_eq_ok.mp h
  obtain ⟨_, s₂, -, h⟩ := Fallible.run_bind_eq_ok.mp h
  obtain ⟨chunks, hchunks, h⟩ := Fallible.run_lift_bind_eq_ok.mp h
  obtain ⟨chunkColumns, hvalid, h⟩ := Fallible.run_lift_bind_eq_ok.mp h
  obtain ⟨_, hcover, h⟩ := Fallible.run_lift_bind_eq_ok.mp h
  obtain ⟨stats, hstats, h⟩ := Fallible.run_lift_bind_eq_ok.mp h
  obtain ⟨statColumns, hvalidStats, h⟩ := Fallible.run_lift_bind_eq_ok.mp h
  cases h
  obtain ⟨rfl, hnodup, hchecked⟩ := of_validateChunks hvalid List.nodup_nil
  obtain ⟨rfl, hnodupStats, hcheckedStats⟩ := of_validateStats hvalidStats List.nodup_nil
  exact ⟨hdesc, ⟨chunks, hchunks, hnodup, by simpa [failIf_eq_ok] using hcover, hchecked⟩,
    ⟨stats, hstats, hnodupStats, hcheckedStats⟩⟩

lemma of_validateRowGroups {rowGroups : List OcbRowGroupDescV1} {position : ℕ}
    {c c' : RowGroupCursor} {s s' : OpenState}
    (h : (validateRowGroups src zstd m columns validation limits rowGroups position c).run s =
      (.ok c', s')) (hids : (c.positionsById.map Prod.fst).Nodup) :
    RowGroupsWalked src zstd m columns validation limits rowGroups position c c' := by
  induction rowGroups generalizing position c s with
  | nil =>
    cases h
    exact ⟨by simp, hids, .nil _, .nil _, .nil _, by simp⟩
  | cons rowGroup rest ih =>
    obtain ⟨c₁, s₁, hhead, h⟩ := Fallible.run_bind_eq_ok.mp h
    obtain ⟨hdesc, hchecked⟩ := of_validateRowGroup hhead
    obtain ⟨hpositions, hids₁, hbase, hbase₁, hchunk, hchunk₁, hstat, hstat₁⟩ :=
      of_validateRowGroupDesc hdesc hids
    have htail := ih h hids₁
    refine ⟨?_, htail.ids, ?_, ?_, ?_, ?_⟩
    · rw [htail.positions, hpositions, List.map_cons, List.zipIdx_cons, List.append_assoc]
      rfl
    · rw [List.map_cons, OcbRowGroupDescV1.rowRange, hbase]
      exact .cons (hbase₁ ▸ htail.rows)
    · rw [List.map_cons, OcbRowGroupDescV1.chunkRange, hchunk]
      exact .cons (hchunk₁ ▸ htail.chunks)
    · rw [List.map_cons, OcbRowGroupDescV1.statRange, hstat]
      exact .cons (hstat₁ ▸ htail.stats)
    · rintro g (_ | ⟨_, hg⟩)
      · exact hchecked
      · exact htail.checked g hg

end RowGroups

/-! ### Ordering -/

lemma of_validateOrderingKeys {columns : ColumnsById} {keys : List OcbOrderingKeyV1}
    {seen : List UInt32} (h : validateOrderingKeys columns keys seen = .ok ()) :
    ∀ key ∈ keys, key.columnId ∈ columns.map OcbColumnDescV1.columnId := by
  induction keys generalizing seen with
  | nil => simp
  | cons key rest ih =>
    obtain ⟨column, hcolumn, h⟩ := bind_eq_ok.mp h
    obtain ⟨_, -, h⟩ := bind_eq_ok.mp h
    obtain ⟨_, -, h⟩ := bind_eq_ok.mp h
    obtain ⟨hmem, hid⟩ := ColumnsById.of_get_eq_some (okOr_eq_ok.mp hcolumn)
    rintro k (_ | ⟨_, hk⟩)
    · exact List.mem_map.mpr ⟨column, hmem, hid⟩
    · exact ih h k hk

lemma of_validateRowGroupProofs {src : OcbReadSource} {positionsById : List (UInt32 × ℕ)}
    {proofs : List OcbRowGroupOrderingProofV1} {seen result : List UInt32} {s s' : OpenState}
    (h : (validateRowGroupProofs src positionsById proofs seen).run s = (.ok result, s'))
    (hseen : seen.Nodup) :
    result = seen ++ proofs.map OcbRowGroupOrderingProofV1.rowGroupId ∧ result.Nodup := by
  induction proofs generalizing seen s with
  | nil =>
    cases h
    simpa using hseen
  | cons proof rest ih =>
    obtain ⟨_, -, h⟩ := Fallible.run_lift_bind_eq_ok.mp h
    obtain ⟨_, hfresh, h⟩ := Fallible.run_lift_bind_eq_ok.mp h
    obtain ⟨_, s₁, -, h⟩ := Fallible.run_bind_eq_ok.mp h
    obtain ⟨_, s₂, -, h⟩ := Fallible.run_bind_eq_ok.mp h
    obtain ⟨rfl, hnodup⟩ := ih h (nodup_append_singleton.mpr ⟨hseen, failIf_eq_ok.mp hfresh⟩)
    exact ⟨by simp, hnodup⟩

/-- What the ordering check establishes: the keys are columns, and the row-group proofs are one
for each row group. -/
structure OrderingChecked (m : OcbMetadataV1) (ordering : OcbOrderingProofV1) : Prop where
  keys : ∀ key ∈ ordering.keys, key.columnId ∈ m.schema.columns.map OcbColumnDescV1.columnId
  nodup : (ordering.rowGroupProofs.map OcbRowGroupOrderingProofV1.rowGroupId).Nodup
  cover : SameElements (ordering.rowGroupProofs.map OcbRowGroupOrderingProofV1.rowGroupId)
    (m.rowGroupIndex.rowGroups.map OcbRowGroupDescV1.rowGroupId)

lemma of_validateOrderingGraph {src : OcbReadSource} {m : OcbMetadataV1}
    {positionsById : List (UInt32 × ℕ)} {s s' : OpenState}
    (h : (validateOrderingGraph src m m.schema.columns positionsById).run s = (.ok (), s'))
    (hpositions : positionsById.map Prod.fst =
      m.rowGroupIndex.rowGroups.map OcbRowGroupDescV1.rowGroupId)
    {ordering : OcbOrderingProofV1} (hordering : m.orderingProof = some ordering) :
    OrderingChecked m ordering := by
  rw [validateOrderingGraph, hordering] at h
  obtain ⟨_, -, h⟩ := Fallible.run_lift_bind_eq_ok.mp h
  obtain ⟨_, hkeys, h⟩ := Fallible.run_lift_bind_eq_ok.mp h
  obtain ⟨seen, s₁, hproofs, h⟩ := Fallible.run_bind_eq_ok.mp h
  obtain ⟨rfl, hnodup⟩ := of_validateRowGroupProofs hproofs List.nodup_nil
  have hcover := failIf_eq_ok.mp (Prod.mk.inj h).1
  rw [not_not, hpositions] at hcover
  exact ⟨of_validateOrderingKeys hkeys, hnodup, hcover⟩

/-! ### The whole graph -/

/-- A reference to a key tuple is absent or in order. -/
def KeyTupleChecked (fileLen : ℕ) (reference : OcbBodyRefV2) : Prop :=
  reference.IsNull ∨ reference.validate .keyTuple fileLen = .ok ()

lemma of_preflight {m : OcbMetadataV1} {v2Root : Option OcbRootV2} {s s' : OpenState}
    (h : (preflight m v2Root).run s = (.ok (), s')) : ∀ g ∈ m.rowGroupIndex.rowGroups,
      KeyTupleChecked m.fileLen g.firstKeyTupleRef ∧
      KeyTupleChecked m.fileLen g.lastKeyTupleRef := by
  obtain ⟨_, hvalid, -⟩ := Fallible.run_lift_bind_eq_ok.mp h
  have hvalid := forM_eq_ok.mp hvalid
  intro g hg
  have checked : ∀ reference, reference = g.firstKeyTupleRef ∨ reference = g.lastKeyTupleRef →
      KeyTupleChecked m.fileLen reference := by
    intro reference href
    by_cases hnull : reference.IsNull
    · exact .inl hnull
    refine .inr (hvalid (reference, .keyTuple) ?_)
    have hmem : (reference, .keyTuple) ∈
        optionalKeyTuple g.firstKeyTupleRef ++ optionalKeyTuple g.lastKeyTupleRef := by
      rcases href with rfl | rfl <;> simp [optionalKeyTuple, hnull]
    simp only [auxiliaryObjectReferences, List.mem_append]
    exact .inl (.inl (.inr (List.mem_flatMap.mpr ⟨g, hg, hmem⟩)))
  exact ⟨checked _ (.inl rfl), checked _ (.inr rfl)⟩

/-- What the validation of the graph establishes about the metadata. -/
structure GraphValidated (src : OcbReadSource) (zstd : ZstdCodec)
    (validation : OcbOpenValidationMode) (limits : OcbResourceLimits) (m : OcbMetadataV1) :
    Prop where
  counts : ∃ rootColumnChunkCount < 2 ^ 32, validateRootCounts m rootColumnChunkCount = .ok ()
  columns : ∀ c ∈ m.schema.columns, ColumnChecked m.stringTable.strings c
  columnIds : (m.schema.columns.map OcbColumnDescV1.columnId).Nodup
  columnNames : (m.schema.columns.map (OcbColumnDescV1.name? · m.stringTable.strings)).Nodup
  dictionaryNames : ∀ index, m.dictionaryIndex = some index → ∀ d ∈ index.dictionaries,
    ∃ name, d.name? m.stringTable.strings = some name
  dictionaries : ∀ c ∈ m.schema.columns, c.logicalKind = .dictionaryCode →
    DictionaryResolves m.dictionaryIndex c
  rowGroups : ∃ c, RowGroupsWalked src zstd m m.schema.columns validation limits
      m.rowGroupIndex.rowGroups 0 .start c ∧ c.positionsById = m.rowGroupPositionsById ∧
    c.expectedChunkBegin = m.rowGroupIndex.columnChunks.length ∧
    c.expectedStatBegin = m.rowGroupIndex.stats.length
  keyTuples : ∀ g ∈ m.rowGroupIndex.rowGroups, KeyTupleChecked m.fileLen g.firstKeyTupleRef ∧
    KeyTupleChecked m.fileLen g.lastKeyTupleRef
  ordering : ∀ ordering, m.orderingProof = some ordering → OrderingChecked m ordering

section Graph

variable {src : OcbReadSource} {zstd : ZstdCodec} {m : OcbMetadataV1}
  {validation : OcbOpenValidationMode} {limits : OcbResourceLimits}

lemma of_validateRowGroupGraph {columns : ColumnsById} {positionsById : List (UInt32 × ℕ)}
    {s s' : OpenState}
    (h : (validateRowGroupGraph src zstd m columns validation limits).run s =
      (.ok positionsById, s')) :
    ∃ c, RowGroupsWalked src zstd m columns validation limits m.rowGroupIndex.rowGroups 0 .start c ∧
      c.positionsById = positionsById ∧
      c.expectedChunkBegin = m.rowGroupIndex.columnChunks.length ∧
      c.expectedStatBegin = m.rowGroupIndex.stats.length := by
  obtain ⟨c, s₁, hwalk, h⟩ := Fallible.run_bind_eq_ok.mp h
  obtain ⟨_, hchunks, h⟩ := Fallible.run_lift_bind_eq_ok.mp h
  obtain ⟨_, hstats, h⟩ := Fallible.run_lift_bind_eq_ok.mp h
  cases h
  rw [failIf_eq_ok, not_not] at hchunks hstats
  exact ⟨c, of_validateRowGroups hwalk List.nodup_nil, rfl, hchunks, hstats⟩

/-- The graph validation returns the positions of the row groups, and with them the metadata is
validated. -/
lemma of_validateMetadataGraph {rootColumnChunkCount : ℕ} {v2Root : Option OcbRootV2}
    {positionsById : List (UInt32 × ℕ)} {s s' : OpenState}
    (h : (validateMetadataGraph src zstd m rootColumnChunkCount validation limits v2Root).run s =
      (.ok positionsById, s')) (hcount : rootColumnChunkCount < 2 ^ 32) :
    GraphValidated src zstd validation limits { m with rowGroupPositionsById := positionsById } := by
  obtain ⟨_, hcounts, h⟩ := Fallible.run_lift_bind_eq_ok.mp h
  obtain ⟨columns, hcolumns, h⟩ := Fallible.run_lift_bind_eq_ok.mp h
  obtain ⟨_, s₁, hpreflight, h⟩ := Fallible.run_bind_eq_ok.mp h
  obtain ⟨_, s₂, hdictionaries, h⟩ := Fallible.run_bind_eq_ok.mp h
  obtain ⟨positions, s₃, hrowGroups, h⟩ := Fallible.run_bind_eq_ok.mp h
  obtain ⟨_, s₄, hordering, h⟩ := Fallible.run_bind_eq_ok.mp h
  obtain rfl : positions = positionsById := by
    obtain ⟨_, s₅, -, h⟩ := Fallible.run_bind_eq_ok.mp h
    cases h
    rfl
  obtain ⟨rfl, hchecked, hids, hnames, -⟩ := of_validateColumns hcolumns List.nodup_nil
  obtain ⟨hdictNames, hresolve⟩ := of_validateDictionaryGraph hdictionaries
  obtain ⟨c, hwalk, hpositions, hchunks, hstats⟩ := of_validateRowGroupGraph hrowGroups
  have hkeys : positions.map Prod.fst =
      m.rowGroupIndex.rowGroups.map OcbRowGroupDescV1.rowGroupId := by
    rw [← hpositions, hwalk.positions]
    simp [RowGroupCursor.start]
  refine {
    counts := ⟨_, hcount, hcounts⟩
    columns := hchecked
    columnIds := hids
    columnNames := hnames
    dictionaryNames := hdictNames
    dictionaries := hresolve
    rowGroups := ⟨c, ?_, hpositions, hchunks, hstats⟩
    keyTuples := of_preflight hpreflight
    ordering := fun ordering hproof => ?_ }
  · exact ⟨hwalk.positions, hwalk.ids, hwalk.rows, hwalk.chunks, hwalk.stats,
      fun g hg => ⟨(hwalk.checked g hg).chunks, (hwalk.checked g hg).stats⟩⟩
  · obtain ⟨hkeyColumns, hnodup, hcover⟩ := of_validateOrderingGraph hordering hkeys hproof
    exact ⟨hkeyColumns, hnodup, hcover⟩

/-- The sizes recorded at the end of the opening play no role in the validation. -/
lemma GraphValidated.withSizes (h : GraphValidated src zstd validation limits m)
    (materialized auxiliary : ℕ) : GraphValidated src zstd validation limits { m with
      openMetadataMaterializedBytes := materialized, openAuxiliaryEncodedBytes := auxiliary } := by
  obtain ⟨c, hwalk, hpositions, hchunks, hstats⟩ := h.rowGroups
  refine { h with rowGroups := ⟨c, ?_, hpositions, hchunks, hstats⟩, ordering := fun o ho => ?_ }
  · exact ⟨hwalk.positions, hwalk.ids, hwalk.rows, hwalk.chunks, hwalk.stats,
      fun g hg => ⟨(hwalk.checked g hg).chunks, (hwalk.checked g hg).stats⟩⟩
  · obtain ⟨hkeys, hnodup, hcover⟩ := h.ordering o ho
    exact ⟨hkeys, hnodup, hcover⟩

end Graph

/-! ### Opening -/

/-- What a successful opening establishes about the metadata it returns. -/
structure Opened (src : OcbReadSource) (zstd : ZstdCodec) (validation : OcbOpenValidationMode)
    (limits : OcbResourceLimits) (m : OcbMetadataV1) : Prop
    extends GraphValidated src zstd validation limits m where
  fileLen_eq : m.fileLen = src.fileLen
  resourceLimits_eq : m.resourceLimits = limits

section Opening

variable {src : OcbReadSource} {zstd : ZstdCodec} {m : OcbMetadataV1}
  {validation : OcbOpenValidationMode} {limits : OcbResourceLimits}

lemma of_readMetadataObjects {root : OcbRootV1} {b b' : MetadataMaterializationBudget}
    (h : (readMetadataObjectsWithResourceLimits src root limits).run b = (.ok m, b')) :
    m.fileLen = src.fileLen ∧ m.resourceLimits = limits := by
  obtain ⟨schemaBytes, -, h⟩ := Fallible.run_lift_bind_eq_ok.mp h
  obtain ⟨schema, b₁, -, h⟩ := Fallible.run_bind_eq_ok.mp h
  obtain ⟨stringBytes, -, h⟩ := Fallible.run_lift_bind_eq_ok.mp h
  obtain ⟨stringTable, b₂, -, h⟩ := Fallible.run_bind_eq_ok.mp h
  obtain ⟨dictionaryIndex, b₃, -, h⟩ := Fallible.run_bind_eq_ok.mp h
  obtain ⟨indexBytes, -, h⟩ := Fallible.run_lift_bind_eq_ok.mp h
  obtain ⟨rowGroupIndex, b₄, -, h⟩ := Fallible.run_bind_eq_ok.mp h
  obtain ⟨orderingProof, b₅, -, h⟩ := Fallible.run_bind_eq_ok.mp h
  cases h
  exact ⟨rfl, rfl⟩

lemma of_applyCommittedDelta {root : OcbRootV2} {m' : OcbMetadataV1}
    {b b' : MetadataMaterializationBudget}
    (h : (applyCommittedDelta src root limits m).run b = (.ok m', b')) :
    m' = m ∨ ∃ delta target, m' = extendWithDelta m delta target := by
  rw [applyCommittedDelta] at h
  split at h
  · obtain ⟨deltaBytes, -, h⟩ := Fallible.run_lift_bind_eq_ok.mp h
    obtain ⟨delta, _, -, h⟩ := Fallible.run_bind_eq_ok.mp h
    obtain ⟨target, bytes, -, rfl⟩ := applyRowGroupIndexDelta_eq_ok h
    exact .inr ⟨delta, target, rfl⟩
  · cases h
    exact .inl rfl

lemma of_readMetadataObjectsV2 {root : OcbRootV2} {b b' : MetadataMaterializationBudget}
    (h : (readMetadataObjectsV2WithResourceLimits src root limits).run b = (.ok m, b')) :
    m.fileLen = src.fileLen ∧ m.resourceLimits = limits := by
  obtain ⟨base, b₁, hbase, h⟩ := Fallible.run_bind_eq_ok.mp h
  obtain ⟨m₁, b₂, hdelta, h⟩ := Fallible.run_bind_eq_ok.mp h
  have := of_readMetadataObjects hbase
  cases h
  rcases of_applyCommittedDelta hdelta with rfl | ⟨delta, target, rfl⟩ <;> exact this

lemma opened_of_finishMetadata {positionsById : List (UInt32 × ℕ)} {m' : OcbMetadataV1}
    {s s' : OpenState} (h : (finishMetadata m positionsById).run s = (.ok m', s'))
    (hgraph : GraphValidated src zstd validation limits
      { m with rowGroupPositionsById := positionsById })
    (hsource : m.fileLen = src.fileLen ∧ m.resourceLimits = limits) :
    Opened src zstd validation limits m' := by
  cases h
  exact { hgraph.withSizes _ _ with fileLen_eq := hsource.1, resourceLimits_eq := hsource.2 }

lemma of_run_metered {α : Type} {x : Metered α} {s s' : OpenState} {a : α}
    (h : (Opening.metered x).run s = (.ok a, s')) : x.run s.budget = (.ok a, s'.budget) := by
  rcases hx : x.run s.budget with ⟨r, b⟩
  rw [Opening.run_metered hx] at h
  obtain ⟨rfl, rfl⟩ := Prod.mk.inj h
  rfl

lemma opened_of_loadV1Root {root : OcbRootV1} {s s' : OpenState}
    (h : (loadV1Root src zstd root validation limits).run s = (.ok m, s')) :
    Opened src zstd validation limits m := by
  obtain ⟨m₁, s₁, hobjects, h⟩ := Fallible.run_bind_eq_ok.mp h
  obtain ⟨count, hcount, h⟩ := Fallible.run_lift_bind_eq_ok.mp h
  obtain ⟨positions, s₂, hgraph, h⟩ := Fallible.run_bind_eq_ok.mp h
  obtain ⟨hcount, hlt⟩ := checkedMul_eq_some.mp (okOr_eq_ok.mp hcount)
  exact opened_of_finishMetadata h (of_validateMetadataGraph hgraph (hcount ▸ hlt))
    (of_readMetadataObjects (of_run_metered hobjects))

lemma opened_of_loadV2Root {root : OcbRootV2} {s s' : OpenState}
    (h : (loadV2Root src zstd root validation limits).run s = (.ok m, s')) :
    Opened src zstd validation limits m := by
  obtain ⟨m₁, s₁, hobjects, h⟩ := Fallible.run_bind_eq_ok.mp h
  obtain ⟨positions, s₂, hgraph, h⟩ := Fallible.run_bind_eq_ok.mp h
  obtain ⟨_, -, h⟩ := Fallible.run_lift_bind_eq_ok.mp h
  obtain ⟨_, -, h⟩ := Fallible.run_lift_bind_eq_ok.mp h
  obtain ⟨_, -, hgraph⟩ := Fallible.run_lift_bind_eq_ok.mp hgraph
  exact opened_of_finishMetadata h (of_validateMetadataGraph hgraph root.columnChunkCount.toNat_lt)
    (of_readMetadataObjectsV2 (of_run_metered hobjects))

/-- The metadata that the selection returns was loaded for some root. -/
lemma of_chooseV2Metadata {validate : OcbRootV2 →
      Fallible ArcadiaTioError OcbOpenAuxiliaryObjectCache OcbMetadataV1}
    {candidates : List OcbRootCandidateV2} {cache : OcbOpenAuxiliaryObjectCache}
    (h : (chooseV2Metadata validate candidates cache).1 = .ok m) :
    ∃ root cache', ((validate root).run cache').1 = .ok m := by
  induction hlen : candidates.length using Nat.strong_induction_on
    generalizing candidates cache with
  | _ n ih =>
  rw [chooseV2Metadata] at h
  split at h
  · cases h
  · rename_i generation hmax
    split at h
    · cases h
    · rename_i candidate hfind
      have hlt := length_dropGeneration_lt (List.mem_of_find?_eq_some hfind)
        (by simpa using List.find?_some hfind)
      split at h
      · exact ih _ (hlen ▸ hlt) h rfl
      · split at h
        · rename_i m' cache' hrun
          obtain rfl : m' = m := Except.ok.inj h
          exact ⟨candidate.root, cache, by rw [hrun]⟩
        · split at h
          · exact ih _ (hlen ▸ hlt) h rfl
          · cases h

/-- Whatever file is opened, in whatever mode, its metadata is validated. -/
theorem opened_of_readMetadata
    (h : readMetadataFromSourceWithValidationAndResourceLimits src zstd validation limits = .ok m) :
    Opened src zstd validation limits m := by
  obtain ⟨_, -, h⟩ := bind_eq_ok.mp h
  obtain ⟨magic, -, h⟩ := bind_eq_ok.mp h
  split at h
  · obtain ⟨page, -, h⟩ := bind_eq_ok.mp h
    obtain ⟨bootstrap, -, h⟩ := bind_eq_ok.mp h
    obtain ⟨_, -, h⟩ := bind_eq_ok.mp h
    obtain ⟨_, -, h⟩ := bind_eq_ok.mp h
    obtain ⟨rootBytes, -, h⟩ := bind_eq_ok.mp h
    obtain ⟨root, -, h⟩ := bind_eq_ok.mp h
    exact opened_of_loadV1Root (Prod.ext h rfl)
  · split at h
    · obtain ⟨page, -, h⟩ := bind_eq_ok.mp h
      obtain ⟨bootstrap, -, h⟩ := bind_eq_ok.mp h
      obtain ⟨candidates, -, h⟩ := bind_eq_ok.mp h
      obtain ⟨root, cache, h⟩ := of_chooseV2Metadata h
      exact opened_of_loadV2Root (Prod.ext h rfl)
    · cases h

end Opening

end ArcadiaTio.Ocb
