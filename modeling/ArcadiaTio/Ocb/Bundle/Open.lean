import ArcadiaTio.Ocb.Bundle.Invariant
import ArcadiaTio.Ocb.Bundle.Types

/-!
# Opening a column bundle

An opened bundle is the validated metadata of one file together with its resolved columns: every
schema column with its name and public type, ordered by column id.  The resolution charges the
metadata budget before it allocates.
-/

namespace ArcadiaTio.Ocb

open ArcadiaTio.Lib

/-! ### Resolving the columns -/

/-- The error of an allocation that fails although the limits allow it. -/
def columnBundleAllocationError : ArcadiaTioError :=
  .io "OCB column-bundle allocation failed within resource limit"

/-- Copy a string; what does not fit an allocation is refused. -/
def cloneColumnBundleStringFallibly (value : String) : Result Text :=
  if h : value.toUTF8.size < 2 ^ 63 then .ok ⟨value, h⟩ else .error columnBundleAllocationError

/-- The size of a `BundleColumn` in memory. -/
def BundleColumn.memBytes : ℕ := 56

/-- Check the columns one after the other and add up the bytes of their names; `seenIds` and
`seenNames` belong to the columns before. -/
def preflightColumns (strings : List String) : List OcbColumnDescV1 → List UInt32 → List String →
    ℕ → Result ℕ
  | [], _, _, nameBytes => .ok nameBytes
  | column :: rest, seenIds, seenNames, nameBytes => do
    failIf (column.columnId ∈ seenIds) (ocbCorruptFile "OCB schema has duplicate column ids")
    let name ← okOr (column.name? strings)
      (ocbCorruptFile "OCB column name string id is out of range")
    failIf (name ∈ seenNames) (ocbCorruptFile "OCB schema has duplicate column names")
    let _ ← columnPhysicalTypeFromDesc column
    let nameBytes ← okOr (checkedAdd 64 nameBytes name.toUTF8.size)
      (ocbCorruptFile "OCB resolved column name materialization size overflows")
    preflightColumns strings rest (column.columnId :: seenIds) (name :: seenNames) nameBytes

/-- The bytes that the resolved columns will take. -/
def preflightResolvedColumnsMaterializedBytes (m : OcbMetadataV1) : Result ℕ := do
  let descriptorBytes ← okOr (checkedMul 64 m.schema.columns.length BundleColumn.memBytes)
    (ocbCorruptFile "OCB resolved column descriptor materialization size overflows")
  let clonedNameBytes ← preflightColumns m.stringTable.strings m.schema.columns [] [] 0
  okOr (checkedAdd 64 descriptorBytes clonedNameBytes)
    (ocbCorruptFile "OCB resolved column materialization size overflows")

/-- The public form of one schema column. -/
def resolveColumn (m : OcbMetadataV1) (column : OcbColumnDescV1) : Result BundleColumn := do
  let name ← okOr (column.name? m.stringTable.strings)
    (ocbCorruptFile "OCB column name string id is out of range")
  let name ← cloneColumnBundleStringFallibly name
  let physicalType ← columnPhysicalTypeFromDesc column
  return {
    id := column.columnId, name, physicalType, logicalKind := .from column.logicalKind
    dictionaryId := if column.dictionaryId = ocbNullU32 then none else some column.dictionaryId
    scale := column.scale, nullable := column.nullability = .nullable }

/-- The columns of the schema with their names and dictionaries. -/
def resolveColumns (m : OcbMetadataV1) : Result (List BundleColumn) := do
  let columns ← m.schema.columns.mapM (resolveColumn m)
  return columns.mergeSort (fun a b => a.id ≤ b.id)

/-! ### The opened file -/

/-- The root agrees with the tables about their counts. -/
def validateMetadata (m : OcbMetadataV1) : Result Unit := do
  failIf (m.root.columnCount.toNat ≠ m.schema.columns.length)
    (ocbCorruptFile "OCB root column_count does not match schema")
  failIf (m.root.rowGroupCount.toNat ≠ m.rowGroupIndex.rowGroups.length)
    (ocbCorruptFile "OCB root row_group_count does not match row-group index")
  failIf (m.root.dictionaryCount > 0 ∧ m.dictionaryIndex = none)
    (ocbCorruptFile "OCB root dictionary_count requires dictionary index")
  validateDictionaryCount m
  failIf (m.orderingProof.any fun proof =>
      proof.rowGroupProofs.length ≠ m.rowGroupIndex.rowGroups.length)
    (ocbCorruptFile "OCB ordering proof row-group count does not match row-group index")
  let totalRows ← okOr (sumRowCounts m.rowGroupIndex.rowGroups)
    (ocbCorruptFile "OCB row_count overflows")
  failIf (totalRows ≠ m.root.rowCount.toNat)
    (ocbCorruptFile "OCB root row_count does not match row groups")

/-- One opened file. -/
structure ColumnBundleFile where
  source : OcbReadSource
  metadata : OcbMetadataV1
  columns : List BundleColumn
  resourceLimits : OcbResourceLimits

namespace ColumnBundleFile

/-- The file that is opened from metadata, with the bytes charged for its columns. -/
def fromMetadata (source : OcbReadSource) (m : OcbMetadataV1) (limits : OcbResourceLimits) :
    Metered ColumnBundleFile := do
  validateMetadata m
  MetadataMaterializationBudget.charge m.openMetadataMaterializedBytes
  let resolvedColumnsMaterializedBytes ← preflightResolvedColumnsMaterializedBytes m
  MetadataMaterializationBudget.charge resolvedColumnsMaterializedBytes
  let columns ← resolveColumns m
  return { source, metadata := m, columns, resourceLimits := limits }

/-- Open one file with explicit validation and limits. -/
def openFromSource (source : OcbReadSource) (zstd : ZstdCodec) (validation : OcbOpenValidationMode)
    (limits : OcbResourceLimits) : Result ColumnBundleFile := do
  let m ← readMetadataFromSourceWithValidationAndResourceLimits source zstd validation limits
  ((fromMetadata source m limits).run (.fromLimits limits)).1

end ColumnBundleFile

/-! ### What an opened file satisfies -/

lemma resolveColumn_eq_ok {m : OcbMetadataV1} {column : OcbColumnDescV1} {resolved : BundleColumn}
    (h : resolveColumn m column = .ok resolved) :
    resolved.id = column.columnId ∧ column.name? m.stringTable.strings = some resolved.name.value ∧
      columnPhysicalTypeFromDesc column = .ok resolved.physicalType := by
  simp only [resolveColumn, bind_eq_ok, okOr_eq_ok, pure_eq_ok, Except.ok.injEq] at h
  obtain ⟨name, hname, text, htext, physicalType, htype, rfl⟩ := h
  refine ⟨rfl, ?_, htype⟩
  rw [cloneColumnBundleStringFallibly] at htext
  split at htext
  · cases htext
    exact hname
  · cases htext

lemma nullable_of_resolveColumn {m : OcbMetadataV1} {column : OcbColumnDescV1}
    {resolved : BundleColumn} (h : resolveColumn m column = .ok resolved) :
    resolved.nullable = true ↔ column.nullability = .nullable := by
  simp only [resolveColumn, bind_eq_ok, pure_eq_ok, Except.ok.injEq] at h
  obtain ⟨_, -, _, -, _, -, rfl⟩ := h
  exact decide_eq_true_iff

/-- An opened file: validated metadata, and one resolved column for each schema column. -/
structure ColumnBundleFile.Opened (file : ColumnBundleFile) : Prop where
  invariant : MetadataInvariant file.metadata
  columns : ∃ resolved, file.columns.Perm resolved ∧
    List.Forall₂ (fun column r => resolveColumn file.metadata column = .ok r)
      file.metadata.schema.columns resolved

namespace ColumnBundleFile

variable {source : OcbReadSource} {zstd : ZstdCodec} {validation : OcbOpenValidationMode}
  {limits : OcbResourceLimits} {file : ColumnBundleFile}

lemma metadata_of_openFromSource (h : openFromSource source zstd validation limits = .ok file) :
    readMetadataFromSourceWithValidationAndResourceLimits source zstd validation limits =
      .ok file.metadata ∧ ∃ columns, file = ⟨source, file.metadata, columns, limits⟩ ∧
        resolveColumns file.metadata = .ok columns := by
  obtain ⟨m, hm, hfile⟩ := bind_eq_ok.mp h
  have hrun : ∃ b, (fromMetadata source m limits).run (.fromLimits limits) = (.ok file, b) :=
    ⟨_, Prod.ext hfile rfl⟩
  obtain ⟨b, hrun⟩ := hrun
  obtain ⟨_, -, hrun⟩ := Fallible.run_lift_bind_eq_ok.mp hrun
  obtain ⟨_, _, -, hrun⟩ := Fallible.run_bind_eq_ok.mp hrun
  obtain ⟨_, -, hrun⟩ := Fallible.run_lift_bind_eq_ok.mp hrun
  obtain ⟨_, _, -, hrun⟩ := Fallible.run_bind_eq_ok.mp hrun
  obtain ⟨columns, hcolumns, hrun⟩ := Fallible.run_lift_bind_eq_ok.mp hrun
  cases hrun
  exact ⟨hm, columns, rfl, hcolumns⟩

lemma source_of_openFromSource (h : openFromSource source zstd validation limits = .ok file) :
    file.source = source := by
  obtain ⟨-, columns, hfile, -⟩ := metadata_of_openFromSource h
  rw [hfile]

theorem opened_of_openFromSource (h : openFromSource source zstd validation limits = .ok file) :
    file.Opened := by
  obtain ⟨hm, columns, hfile, hcolumns⟩ := metadata_of_openFromSource h
  obtain ⟨resolved, hresolved, hsort⟩ := bind_eq_ok.mp hcolumns
  cases hsort
  refine ⟨(opened_of_readMetadata hm).metadataInvariant, resolved, ?_, mapM_eq_ok.mp hresolved⟩
  rw [hfile]
  exact List.mergeSort_perm _ _

end ColumnBundleFile

/-! ### The small file -/

namespace Sample

/-- The column of the small file, as the opened file has it. -/
def resolvedColumn : BundleColumn where
  id := 0
  name := ⟨"v", by decide⟩
  physicalType := .i32
  logicalKind := .plain
  dictionaryId := none
  scale := 0
  nullable := true

/-- The opened small file. -/
def openedFile (codes : OcbPhysicalTypeV1) (cRoot cSchema cStrings cDictionaries cIndex : UInt32) :
    ColumnBundleFile :=
  ⟨file codes, opened codes cRoot cSchema cStrings cDictionaries cIndex, [resolvedColumn], .policyA⟩

lemma openFromSource (codes : OcbPhysicalTypeV1) (zstd : ZstdCodec) :
    ∃ cRoot cSchema cStrings cDictionaries cIndex,
      ColumnBundleFile.openFromSource (file codes) zstd .metadataGraph .policyA =
        .ok (openedFile codes cRoot cSchema cStrings cDictionaries cIndex) := by
  obtain ⟨cRoot, cSchema, cStrings, cDictionaries, cIndex, h⟩ := readMetadata codes zstd
  refine ⟨cRoot, cSchema, cStrings, cDictionaries, cIndex, ?_⟩
  have hvalid : validateMetadata (opened codes cRoot cSchema cStrings cDictionaries cIndex) =
      .ok () := rfl
  have hpreflight : preflightResolvedColumnsMaterializedBytes
      (opened codes cRoot cSchema cStrings cDictionaries cIndex) = .ok 57 := rfl
  have hcolumns : resolveColumns (opened codes cRoot cSchema cStrings cDictionaries cIndex) =
      .ok [resolvedColumn] := by
    have hresolved : [column].mapM
        (resolveColumn (opened codes cRoot cSchema cStrings cDictionaries cIndex)) =
          .ok [resolvedColumn] := rfl
    rw [resolveColumns]
    exact (congrArg (· >>= _) hresolved).trans (by rw [ok_bind, List.mergeSort_singleton]; rfl)
  rw [ColumnBundleFile.openFromSource, h, ok_bind, ColumnBundleFile.fromMetadata, hvalid,
    Fallible.lift_ok_bind, Fallible.run_bind_of_ok (a := ()) (t := budget 321 (by decide)) rfl,
    hpreflight, Fallible.lift_ok_bind,
    Fallible.run_bind_of_ok (a := ()) (t := budget 378 (by decide)) rfl, hcolumns]
  rfl

end Sample

end ArcadiaTio.Ocb
