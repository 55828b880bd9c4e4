import ArcadiaTio.Ocb.Bundle.Summaries

/-!
# Which opened files can be described

The graph validation accepts a table entry by its own checks, and the presentation converts it
again.  The two agree on columns, chunks, statistics, ordering keys and key tuples.  They differ on
a dictionary whose codes have fixed width: the validation looks at the type of the codes only when
a column refers to the dictionary, and the presentation refuses the type always.
-/

namespace ArcadiaTio.Ocb

open ArcadiaTio.Lib

/-- The dictionaries of a file. -/
def OcbMetadataV1.dictionaries (m : OcbMetadataV1) : List OcbDictionaryDescV1 :=
  m.dictionaryIndex.elim [] (·.dictionaries)

lemma cloneColumnBundleStringFallibly_of_mem {t : OcbStringTableV1} {name : String}
    (ht : t.Bounded) (hname : name ∈ t.strings) :
    ∃ text, cloneColumnBundleStringFallibly name = .ok text := by
  have hsize := ht name hname
  exact ⟨_, dif_pos (by omega)⟩

lemma isOk_dictionaryDescriptor {m : OcbMetadataV1} {dictionary : OcbDictionaryDescV1}
    (hstrings : m.stringTable.Bounded)
    (hname : ∃ name, dictionary.name? m.stringTable.strings = some name) :
    IsOk (dictionaryDescriptor m dictionary) ↔ dictionary.codePhysicalType ≠ .fixedBinary := by
  obtain ⟨name, hname⟩ := hname
  obtain ⟨text, htext⟩ :=
    cloneColumnBundleStringFallibly_of_mem hstrings (List.mem_of_getElem? hname)
  rw [dictionaryDescriptor, hname, okOr_some, ok_bind, htext, ok_bind,
    ← isOk_scalarColumnPhysicalType, isOk_bind]
  simp [IsOk]

namespace ColumnBundleFile

variable {source : OcbReadSource} {zstd : ZstdCodec} {validation : OcbOpenValidationMode}
  {limits : OcbResourceLimits} {file : ColumnBundleFile}

/-! ### The metadata -/

/-- A column id of the schema is the id of a column of the file. -/
lemma Opened.exists_find_column (h : file.Opened) {columnId : UInt32}
    (hid : columnId ∈ file.metadata.schema.columns.map OcbColumnDescV1.columnId) :
    ∃ column, (file.columns.find? fun column => column.id = columnId) = some column := by
  obtain ⟨desc, hdesc, rfl⟩ := List.mem_map.mp hid
  obtain ⟨column, -, hcolumn, -⟩ := h.find_column hdesc
  exact ⟨column, hcolumn⟩

lemma isOk_orderingKey (h : openFromSource source zstd validation limits = .ok file)
    {key : OcbOrderingKeyV1} (hkey : key ∈ file.metadata.orderingProof.elim [] (·.keys)) :
    IsOk (file.orderingKey key) := by
  obtain ⟨ordering, hordering, hkey⟩ : ∃ ordering, file.metadata.orderingProof = some ordering ∧
      key ∈ ordering.keys := by
    cases hproof : file.metadata.orderingProof with
    | none => simp [hproof] at hkey
    | some ordering => exact ⟨ordering, rfl, by simpa [hproof] using hkey⟩
  have hid := ((graph_of_openFromSource h).ordering ordering hordering).keys key hkey
  obtain ⟨column, hcolumn⟩ := (opened_of_openFromSource h).exists_find_column hid
  rw [orderingKey, hcolumn, okOr_some, ok_bind, cloneColumnBundleStringFallibly_text]
  exact isOk_ok

lemma columnChunks_length_lt (h : openFromSource source zstd validation limits = .ok file) :
    file.metadata.rowGroupIndex.columnChunks.length < 2 ^ 32 := by
  obtain ⟨count, hcount, hcounts⟩ := (graph_of_openFromSource h).counts
  simp only [validateRootCounts, bind_eq_ok, failIf_eq_ok, not_not] at hcounts
  obtain ⟨_, -, _, -, _, hchunks, -⟩ := hcounts
  omega

/-- The counts that are given out are those of the root. -/
lemma of_describe {metadata : ColumnBundleMetadata} (h : file.describe = .ok metadata) :
    metadata.rowCount = file.metadata.root.rowCount ∧
      metadata.rowGroupCount = file.metadata.root.rowGroupCount := by
  obtain ⟨_, -, h⟩ := bind_eq_ok.mp h
  obtain ⟨_, -, h⟩ := bind_eq_ok.mp h
  obtain ⟨_, -, h⟩ := bind_eq_ok.mp h
  obtain ⟨_, -, h⟩ := bind_eq_ok.mp h
  cases h
  exact ⟨rfl, rfl⟩

/-- The metadata of an opened file can be given out unless a dictionary has codes of fixed
width. -/
lemma isOk_describe (h : openFromSource source zstd validation limits = .ok file) :
    IsOk file.describe ↔
      ∀ d ∈ file.metadata.dictionaries, d.codePhysicalType ≠ .fixedBinary := by
  have hgraph := graph_of_openFromSource h
  have hstrings := bounded_of_readMetadata (metadata_of_openFromSource h).1
  have hdescriptors : IsOk (file.metadata.dictionaries.mapM (dictionaryDescriptor file.metadata)) ↔
      ∀ d ∈ file.metadata.dictionaries, d.codePhysicalType ≠ .fixedBinary := by
    rw [isOk_mapM]
    refine forall₂_congr fun d hd => isOk_dictionaryDescriptor hstrings ?_
    cases hindex : file.metadata.dictionaryIndex with
    | none => simp [OcbMetadataV1.dictionaries, hindex] at hd
    | some index =>
      exact hgraph.dictionaryNames index hindex d (by
        simpa [OcbMetadataV1.dictionaries, hindex] using hd)
  obtain ⟨orderingKeys, horderingKeys⟩ := isOk_mapM.mpr fun key hkey => isOk_orderingKey h hkey
  obtain ⟨columns, hcolumns⟩ : IsOk (file.columns.mapM fun column => do
      let name ← cloneColumnBundleStringFallibly column.name.value
      return { column with name }) := by
    refine isOk_mapM.mpr fun column _ => ?_
    rw [cloneColumnBundleStringFallibly_text]
    exact isOk_ok
  have hchunks := columnChunks_length_lt h
  rw [← hdescriptors, describe, isOk_bind]
  constructor
  · rintro ⟨descriptors, hok, -⟩
    exact ⟨descriptors, hok⟩
  · rintro ⟨descriptors, hok⟩
    refine ⟨descriptors, hok, ?_⟩
    rw [horderingKeys, ok_bind, hcolumns, ok_bind, failIf_neg (by omega), ok_bind]
    exact isOk_ok

/-! ### The row groups -/

/-- A chunk that the validation accepted can be summarized, with the column that it belongs to. -/
lemma exists_summary_of_chunk (h : openFromSource source zstd validation limits = .ok file)
    {rowGroup : OcbRowGroupDescV1} {chunk : OcbColumnChunkDescV1}
    (hchunk : validateChunkDesc source zstd file.metadata rowGroup chunk
      file.metadata.schema.columns validation limits = .ok ()) :
    ∃ column ∈ file.columns, column.id = chunk.columnId ∧
      ∃ summary, file.columnChunkSummary chunk = .ok summary ∧
        SummarizesChunk column chunk summary := by
  have hfileLen := (graph_of_openFromSource h).fileLen_eq
  obtain ⟨desc, hdesc, hdescribes⟩ := chunkDescribes_of_validateChunkDesc hchunk
  obtain ⟨column, hmem, hfind, htype⟩ := (opened_of_openFromSource h).find_column hdesc
  have hid : column.id = desc.columnId := by simpa using List.find?_some hfind
  refine ⟨column, hmem, hid.trans hdescribes.columnId.symm,
    exists_columnChunkSummary ?_ ?_ (refs_of_validateChunkDesc hchunk hfileLen)⟩
  · rw [hdescribes.columnId]
    exact hfind
  · rw [hdescribes.physicalType]
    exact ocbPhysicalType_of_desc htype

/-- The chunks of a row group that a projection keeps. -/
def projectedChunks (projected : Option (List UInt32)) (chunks : List OcbColumnChunkDescV1) :
    List OcbColumnChunkDescV1 :=
  chunks.filter fun chunk => !projected.any fun selected => chunk.columnId ∉ selected

/-- The chunks of one row group, each summarized by itself. -/
lemma columnChunkSummaries_eq {rowGroupId : UInt32} {projected : Option (List UInt32)}
    {chunks : List OcbColumnChunkDescV1}
    (hgroup : ∀ chunk ∈ chunks, chunk.rowGroupId = rowGroupId) :
    file.columnChunkSummaries rowGroupId projected chunks =
      (projectedChunks projected chunks).mapM file.columnChunkSummary := by
  induction chunks with
  | nil => rfl
  | cons chunk rest ih =>
    have hcons : projectedChunks projected (chunk :: rest) =
        if !projected.any fun selected => chunk.columnId ∉ selected then
          chunk :: projectedChunks projected rest else projectedChunks projected rest :=
      List.filter_cons
    rw [columnChunkSummaries, failIf_neg (not_not.mpr (hgroup chunk (by simp))), ok_bind,
      ih fun c hc => hgroup c (by simp [hc]), hcons]
    cases projected.any fun selected => chunk.columnId ∉ selected with
    | true =>
      rw [if_pos rfl, Bool.not_true, if_neg Bool.false_ne_true]
    | false =>
      rw [if_neg Bool.false_ne_true, Bool.not_false, if_pos rfl, List.mapM_cons]

lemma isOk_columnStatsSummary (h : openFromSource source zstd validation limits = .ok file)
    {rowGroup : OcbRowGroupDescV1} {stat : OcbColumnStatsV1}
    (hstat : validateStatDesc rowGroup stat file.metadata.schema.columns = .ok ()) :
    IsOk (file.columnStatsSummary rowGroup.rowGroupId stat) := by
  obtain ⟨hgroup, desc, hdesc, hid, htype, hscalar⟩ := of_validateStatDesc hstat
  obtain ⟨column, -, hfind, hcolumn⟩ := (opened_of_openFromSource h).find_column hdesc
  have hphysical := ocbPhysicalType_of_desc hcolumn
  rw [columnStatsSummary, failIf_neg (not_not.mpr hgroup), ok_bind, columnById, hid, hfind,
    okOr_some, ok_bind, htype, ← hphysical, scalarColumnPhysicalType_eq (by
      rw [hphysical, ← htype]
      exact hscalar), ok_bind, failIf_neg (by simp), ok_bind, cloneColumnBundleStringFallibly_text]
  exact isOk_ok

lemma isOk_checkedOptionalBodyRefSummary {fileLen : ℕ} {reference : OcbBodyRefV2}
    (h : KeyTupleChecked fileLen reference) :
    IsOk (checkedOptionalBodyRefSummary reference .keyTuple fileLen) := by
  obtain ⟨summary, hsummary, -⟩ := checkedOptionalBodyRefSummary_eq_ok h
  exact ⟨summary, hsummary⟩

/-- The summary of a row group of an opened file: of each chunk that the projection keeps. -/
lemma exists_rowGroupSummary (h : openFromSource source zstd validation limits = .ok file)
    {rowGroup : OcbRowGroupDescV1} (hmem : rowGroup ∈ file.metadata.rowGroupIndex.rowGroups)
    (projected : Option (List UInt32)) :
    ∃ chunks summary, columnChunksForRowGroup file.metadata rowGroup.chunkDescBegin
        rowGroup.chunkDescCount = .ok chunks ∧
      file.buildRowGroupSummary rowGroup projected = .ok summary ∧
      summary.rowCount = rowGroup.rowCount ∧
      List.Forall₂ (fun chunk chunkSummary => ∃ column ∈ file.columns,
          column.id = chunk.columnId ∧ SummarizesChunk column chunk chunkSummary)
        (projectedChunks projected chunks) summary.chunks := by
  have hgraph := graph_of_openFromSource h
  obtain ⟨c, hwalk, -⟩ := hgraph.rowGroups
  have hchecked := hwalk.checked rowGroup hmem
  obtain ⟨chunks, hchunks, -, -, hvalid⟩ := hchecked.chunks
  obtain ⟨stats, hstats, -, hvalidStats⟩ := hchecked.stats
  have hchunks' : columnChunksForRowGroup file.metadata rowGroup.chunkDescBegin
      rowGroup.chunkDescCount = .ok chunks := hchunks
  have hstats' : statsForRowGroup file.metadata rowGroup.statBegin rowGroup.statCount =
      .ok stats := hstats
  have hsummaries : ∀ chunk ∈ projectedChunks projected chunks, ∃ summary,
      file.columnChunkSummary chunk = .ok summary ∧ ∃ column ∈ file.columns,
        column.id = chunk.columnId ∧ SummarizesChunk column chunk summary := by
    intro chunk hchunk
    obtain ⟨column, hcolumn, hid, summary, hsummary, hsummarizes⟩ :=
      exists_summary_of_chunk h (hvalid chunk (List.mem_of_mem_filter hchunk))
    exact ⟨summary, hsummary, column, hcolumn, hid, hsummarizes⟩
  obtain ⟨chunkSummaries, hchunkSummaries⟩ := isOk_mapM.mpr fun chunk hchunk =>
    (hsummaries chunk hchunk).imp fun _ hsummary => hsummary.1
  have hforall : List.Forall₂ (fun chunk chunkSummary => ∃ column ∈ file.columns,
      column.id = chunk.columnId ∧ SummarizesChunk column chunk chunkSummary)
      (projectedChunks projected chunks) chunkSummaries := by
    refine ((List.forall₂_and_left (p := (· ∈ projectedChunks projected chunks)) _ _).mpr
      ⟨fun _ => id, mapM_eq_ok.mp hchunkSummaries⟩).imp fun chunk summary hsummary => ?_
    obtain ⟨hchunk, hsummary⟩ := hsummary
    obtain ⟨summary', hsummary', hcolumn⟩ := hsummaries chunk hchunk
    obtain rfl := Except.ok.inj (hsummary'.symm.trans hsummary)
    exact hcolumn
  have hcolumnSummaries : file.columnChunkSummaries rowGroup.rowGroupId projected chunks =
      .ok chunkSummaries := by
    rw [columnChunkSummaries_eq fun chunk hchunk =>
      (chunkDescribes_of_validateChunkDesc (hvalid chunk hchunk)).choose_spec.2.rowGroupId]
    exact hchunkSummaries
  obtain ⟨statSummaries, hstatSummaries⟩ := isOk_mapM.mpr fun stat hstat =>
    isOk_columnStatsSummary h (hvalidStats stat hstat)
  obtain ⟨hfirst, hlast⟩ := hgraph.keyTuples rowGroup hmem
  obtain ⟨first, hfirst⟩ := isOk_checkedOptionalBodyRefSummary hfirst
  obtain ⟨last, hlast⟩ := isOk_checkedOptionalBodyRefSummary hlast
  have hsummary : ∃ summary, file.buildRowGroupSummary rowGroup projected = .ok summary ∧
      summary.rowCount = rowGroup.rowCount ∧ summary.chunks = chunkSummaries := by
    rw [buildRowGroupSummary, hchunks', ok_bind, hcolumnSummaries, ok_bind, hstats', ok_bind,
      hstatSummaries, ok_bind, hfirst, ok_bind, hlast]
    exact ⟨_, rfl, rfl, rfl⟩
  obtain ⟨summary, hsummary, hrows, rfl⟩ := hsummary
  exact ⟨chunks, summary, hchunks', hsummary, hrows, hforall⟩

lemma isOk_buildRowGroupSummary (h : openFromSource source zstd validation limits = .ok file)
    {rowGroup : OcbRowGroupDescV1} (hmem : rowGroup ∈ file.metadata.rowGroupIndex.rowGroups)
    (projected : Option (List UInt32)) : IsOk (file.buildRowGroupSummary rowGroup projected) := by
  obtain ⟨-, summary, -, hsummary, -⟩ := exists_rowGroupSummary h hmem projected
  exact ⟨summary, hsummary⟩

/-- Summaries of distinct row groups exist when each of them does. -/
lemma isOk_buildRowGroupSummaries {projected : Option (List UInt32)} {ids seen : List UInt32}
    (hnodup : (seen ++ ids).Nodup)
    (hids : ∀ id ∈ ids, ∃ rowGroup, file.metadata.rowGroupById id = some rowGroup ∧
      IsOk (file.buildRowGroupSummary rowGroup projected)) :
    IsOk (file.buildRowGroupSummaries projected ids seen) := by
  induction ids generalizing seen with
  | nil => exact isOk_ok
  | cons id rest ih =>
    obtain ⟨rowGroup, hfind, summary, hsummary⟩ := hids id (by simp)
    have hfresh : id ∉ seen := fun hseen =>
      (List.nodup_append.mp hnodup).2.2 id hseen id (by simp) rfl
    have hnodup' : ((id :: seen) ++ rest).Nodup :=
      (List.perm_middle.symm.nodup_iff.mpr hnodup : (id :: (seen ++ rest)).Nodup)
    obtain ⟨summaries, hsummaries⟩ := ih hnodup' fun i hi => hids i (by simp [hi])
    rw [buildRowGroupSummaries, failIf_neg hfresh, ok_bind, hfind, okOr_some, ok_bind, hsummary,
      ok_bind, hsummaries]
    exact isOk_ok

lemma isOk_rowGroupSummaries (h : openFromSource source zstd validation limits = .ok file) :
    IsOk file.rowGroupSummaries := by
  have hinvariant := (opened_of_openFromSource h).invariant
  refine isOk_buildRowGroupSummaries (by simpa using hinvariant.rowGroupIds) fun id hid => ?_
  obtain ⟨rowGroup, hmem, rfl⟩ := List.mem_map.mp hid
  exact ⟨rowGroup, (hinvariant.rowGroupById _ _).mpr ⟨hmem, rfl⟩, isOk_buildRowGroupSummary h hmem none⟩

/-! ### All three descriptions -/

/-- An opened file can be described exactly when no dictionary has codes of fixed width. -/
theorem isOk_descriptions_iff (h : openFromSource source zstd validation limits = .ok file) :
    (IsOk file.describe ∧ IsOk file.rowGroupSummaries ∧ IsOk file.snapshotFingerprint) ↔
      ∀ d ∈ file.metadata.dictionaries, d.codePhysicalType ≠ .fixedBinary := by
  rw [← isOk_describe h]
  refine ⟨And.left, fun hdescribe => ⟨hdescribe, isOk_rowGroupSummaries h, ?_⟩⟩
  obtain ⟨metadata, hmetadata⟩ := hdescribe
  obtain ⟨rowGroups, hrowGroups⟩ := isOk_rowGroupSummaries h
  rw [snapshotFingerprint, hmetadata, ok_bind, hrowGroups]
  exact isOk_ok

/-- The small file with codes of 32 bits can be described. -/
theorem isOk_descriptions_sample : ∃ file,
    openFromSource (Sample.file .i32) (fun _ _ => ⟨[], true⟩) .metadataGraph .policyA = .ok file ∧
      IsOk file.describe ∧ IsOk file.rowGroupSummaries ∧ IsOk file.snapshotFingerprint := by
  obtain ⟨cRoot, cSchema, cStrings, cDictionaries, cIndex, h⟩ :=
    Sample.openFromSource .i32 fun _ _ => ⟨[], true⟩
  refine ⟨_, h, (isOk_descriptions_iff h).mpr ?_⟩
  intro d hd
  obtain rfl : d = Sample.dictionary .i32 := List.mem_singleton.mp hd
  simp [Sample.dictionary]

/-- With a dictionary of fixed-width codes that no column refers to, the small file opens, and its
metadata is then refused as corrupt. -/
theorem describe_corrupt_dictionary : ∃ file message,
    openFromSource (Sample.file .fixedBinary) (fun _ _ => ⟨[], true⟩) .metadataGraph .policyA =
      .ok file ∧ file.describe = .error (ocbCorruptFile message) := by
  obtain ⟨cRoot, cSchema, cStrings, cDictionaries, cIndex, h⟩ :=
    Sample.openFromSource .fixedBinary fun _ _ => ⟨[], true⟩
  exact ⟨_, _, h, rfl⟩

end ColumnBundleFile

end ArcadiaTio.Ocb
