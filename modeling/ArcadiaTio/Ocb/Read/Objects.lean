import ArcadiaTio.Ocb.Format.Chunk

/-!
# Reading the objects of a file

A file is its bytes together with the failures of the operating system that reading it may
meet.  This file reads referenced objects (`readObjectBytesWithResourceLimits`) and, from them,
the metadata of one root: schema, string table, dictionary index, row-group index and ordering
proof, with the row-group index delta of an append laid over the base tables.
-/

namespace ArcadiaTio.Ocb

open ArcadiaTio.Lib

/-! ### The opened file -/

/-- One opened file: its bytes, and the positioned reads that fail with an I/O error. -/
structure OcbReadSource where
  bytes : List UInt8
  fault : ℕ → ℕ → Option String
  length_lt : bytes.length < 2 ^ 64

namespace OcbReadSource

/-- A file whose positioned reads never fail. -/
def ofBytes (bytes : List UInt8) (h : bytes.length < 2 ^ 64) : OcbReadSource :=
  ⟨bytes, fun _ _ => none, h⟩

/-- The length of the file. -/
def fileLen (src : OcbReadSource) : ℕ := src.bytes.length

/-- Read exactly `len` bytes at an offset. -/
def readExactAt (src : OcbReadSource) (offset len : ℕ) : Result (List UInt8) :=
  if len = 0 then .ok []
  else
    match src.fault offset len with
    | some message => .error (.io message)
    | none =>
      if offset + len ≤ src.fileLen then .ok ((src.bytes.drop offset).take len)
      else .error objectTruncated

/-- Read the object a reference points at: the reference is checked, then the limit, then
the checksum of the reference. -/
def readObjectBytesInnerWithLimits (src : OcbReadSource) (reference : OcbBodyRefV2)
    (expectedKind : OcbBodyKindV1) (maxObjectBytes : ℕ) : Result (List UInt8) := do
  reference.validate expectedKind src.fileLen
  failIf (reference.length.toNat > maxObjectBytes)
    (ocbInvalidInput "OCB encoded object exceeds resource limit")
  let bytes ← src.readExactAt reference.offset.toNat reference.length.toNat
  failIf (reference.checksumKind = .crc32c ∧ crc32c bytes ≠ reference.checksum)
    (ocbCorruptFile "OCB body reference checksum mismatch")
  return bytes

/-- Read the bytes of an object, with the checks of its reference. -/
def readObjectBytesWithResourceLimits (src : OcbReadSource) (reference : OcbBodyRefV2)
    (expectedKind : OcbBodyKindV1) (limits : OcbResourceLimits) : Result (List UInt8) :=
  src.readObjectBytesInnerWithLimits reference expectedKind limits.maxEncodedObjectBytes.toNat

/-- Read an object that may be absent, for its checks only. -/
def validateOptionalObject (src : OcbReadSource) (reference : OcbBodyRefV2)
    (kind : OcbBodyKindV1) (limits : OcbResourceLimits) : Result Unit :=
  if reference.IsNull then .ok ()
  else do
    let _ ← src.readObjectBytesWithResourceLimits reference kind limits
    return ()

lemma readExactAt_ofBytes {bytes : List UInt8} (h : bytes.length < 2 ^ 64) {offset len : ℕ}
    (hlen : len ≠ 0) :
    (ofBytes bytes h).readExactAt offset len =
      if offset + len ≤ bytes.length then .ok ((bytes.drop offset).take len)
      else .error objectTruncated := by
  rw [readExactAt, if_neg hlen]
  rfl

/-! A file that is laid out from parts is read back part by part. -/

section Parts

variable {parts : List (List UInt8)} {i : ℕ} {part : List UInt8} {reference : OcbBodyRefV2}

lemma flatten_eq_of_getElem? (hi : parts[i]? = some part) :
    parts.flatten = (parts.take i).flatten ++ (part ++ (parts.drop (i + 1)).flatten) := by
  obtain ⟨hlt, rfl⟩ := List.getElem?_eq_some_iff.mp hi
  conv_lhs => rw [← List.take_append_drop i parts, List.drop_eq_getElem_cons hlt]
  rw [List.flatten_append, List.flatten_cons]

/-- Reading inside one part. -/
lemma readExactAt_slice (parts : List (List UInt8)) (i : ℕ) (h : parts.flatten.length < 2 ^ 64)
    (hi : parts[i]? = some part) (offset len start : ℕ)
    (hoffset : offset = (parts.take i).flatten.length + start)
    (hlen : start + len ≤ part.length) :
    (ofBytes parts.flatten h).readExactAt offset len = .ok ((part.drop start).take len) := by
  subst hoffset
  have hsplit := flatten_eq_of_getElem? hi
  by_cases hzero : len = 0
  · simp [readExactAt, hzero]
  · have hfit : (parts.take i).flatten.length + start + len ≤ parts.flatten.length := by
      simp only [hsplit, List.length_append]
      omega
    rw [readExactAt_ofBytes h hzero, if_pos hfit, hsplit, ← List.drop_drop, List.drop_left,
      List.drop_append_of_le_length (by omega), List.take_append_of_le_length
        (by rw [List.length_drop]; omega)]

lemma readExactAt_part (h : parts.flatten.length < 2 ^ 64) (hi : parts[i]? = some part)
    {offset len : ℕ} (hoffset : offset = (parts.take i).flatten.length) (hlen : len = part.length) :
    (ofBytes parts.flatten h).readExactAt offset len = .ok part := by
  rw [readExactAt_slice parts i h hi offset len 0 hoffset (by omega), hlen, List.drop_zero, List.take_length]

/-- A reference without a checksum to a part of the file is resolved to that part. -/
lemma readObjectBytes_part (h : parts.flatten.length < 2 ^ 64) {lens : List ℕ}
    (hlens : parts.map List.length = lens) (i : ℕ) (hi : parts[i]? = some part)
    {limits : OcbResourceLimits} {offset length : UInt64} {kind : OcbBodyKindV1}
    (href : reference = .unchecked offset length kind)
    (hoffset : offset.toNat = (lens.take i).sum) (hlen : lens[i]? = some length.toNat)
    (hknown : kind ≠ .unknown) (hmax : length.toNat ≤ limits.maxEncodedObjectBytes.toNat) :
    (ofBytes parts.flatten h).readObjectBytesWithResourceLimits reference kind limits =
      .ok part := by
  have hstart : offset.toNat = (parts.take i).flatten.length := by
    rw [hoffset, ← hlens, ← List.map_take, List.length_flatten]
  have hpart : length.toNat = part.length := by
    rw [← hlens, List.getElem?_map, hi] at hlen
    exact (Option.some.inj hlen).symm
  have hfit : (parts.take i).flatten.length + part.length ≤ parts.flatten.length := by
    simp only [flatten_eq_of_getElem? hi, List.length_append]
    omega
  have hrange : reference.offset = offset ∧ reference.length = length ∧ reference.kind = kind ∧
      reference.checksumKind = .none := by
    subst href
    exact ⟨rfl, rfl, rfl, rfl⟩
  obtain ⟨rfl, rfl, rfl, hchecksum⟩ := hrange
  have hvalid : reference.validate reference.kind (ofBytes parts.flatten h).fileLen = .ok () := by
    refine OcbBodyRefV2.validate_eq_ok.mpr ⟨fun hnull => hknown hnull.2.2, rfl, ?_⟩
    simp only [OcbBodyRefV2.InRange, hstart, hpart]
    exact ⟨by omega, hfit⟩
  rw [readObjectBytesWithResourceLimits, readObjectBytesInnerWithLimits, hvalid, ok_bind,
    failIf_neg (by omega), ok_bind, readExactAt_part h hi hstart hpart, ok_bind,
    failIf_neg (by simp [hchecksum])]
  rfl

end Parts

end OcbReadSource

/-! ### The metadata of an opened file -/

/-- The retained metadata of an opened file. -/
structure OcbMetadataV1 where
  root : OcbRootV1
  stringTable : OcbStringTableV1
  schema : OcbSchemaV1
  dictionaryIndex : Option OcbDictionaryIndexV1
  rowGroupIndex : OcbRowGroupIndexV1
  /-- The hash map from row-group ids to positions, as an association list. -/
  rowGroupPositionsById : List (UInt32 × ℕ)
  orderingProof : Option OcbOrderingProofV1
  fileLen : ℕ
  appendable : Bool
  rootGeneration : UInt64
  previousRootGeneration : Option UInt64
  resourceLimits : OcbResourceLimits
  openMetadataMaterializedBytes : ℕ
  openAuxiliaryEncodedBytes : ℕ
deriving DecidableEq

namespace OcbMetadataV1

/-- The records of the ordering proof, if there is one. -/
def rowGroupProofs (m : OcbMetadataV1) : List OcbRowGroupOrderingProofV1 :=
  m.orderingProof.elim [] OcbOrderingProofV1.rowGroupProofs

/-- The row group with an id. -/
def rowGroupById (m : OcbMetadataV1) (rowGroupId : UInt32) : Option OcbRowGroupDescV1 := do
  let position ← m.rowGroupPositionsById.lookup rowGroupId
  m.rowGroupIndex.rowGroups[position]?

end OcbMetadataV1

/-- Read an object that a root may leave out. -/
def readOptionalObject {α : Type} (src : OcbReadSource) (reference : OcbBodyRefV2)
    (kind : OcbBodyKindV1) (limits : OcbResourceLimits) (decode : List UInt8 → Metered α) :
    Metered (Option α) :=
  if reference.IsNull then return none
  else do
    let bytes ← src.readObjectBytesWithResourceLimits reference kind limits
    let a ← decode bytes
    return some a

/-- The metadata charged so far. -/
def chargedBytes : Metered ℕ := do
  let budget ← Fallible.getState
  return budget.chargedBytes

/-- Read the objects that a root refers to. -/
def readMetadataObjectsWithResourceLimits (src : OcbReadSource) (root : OcbRootV1)
    (limits : OcbResourceLimits) : Metered OcbMetadataV1 := do
  let schemaBytes ← src.readObjectBytesWithResourceLimits root.schemaRef .schema limits
  let schema ← OcbSchemaV1.readFromBytesWithBudget schemaBytes
  let stringTableBytes ←
    src.readObjectBytesWithResourceLimits schema.stringTableRef .stringTable limits
  let stringTable ← OcbStringTableV1.readFromBytesWithBudget stringTableBytes
  let dictionaryIndex ← readOptionalObject src root.dictionaryIndexRef .dictionaryIndex limits
    OcbDictionaryIndexV1.readFromBytesWithBudget
  let rowGroupIndexBytes ←
    src.readObjectBytesWithResourceLimits root.rowGroupIndexRef .rowGroupIndex limits
  let rowGroupIndex ← OcbRowGroupIndexV1.readFromBytesWithBudget rowGroupIndexBytes
  let orderingProof ← readOptionalObject src root.orderingProofRef .orderingProof limits
    OcbOrderingProofV1.readFromBytesWithBudget
  let charged ← chargedBytes
  return {
    root, stringTable, schema, dictionaryIndex, rowGroupIndex
    rowGroupPositionsById := []
    orderingProof
    fileLen := src.fileLen
    appendable := false
    rootGeneration := 0
    previousRootGeneration := none
    resourceLimits := limits
    openMetadataMaterializedBytes := charged
    openAuxiliaryEncodedBytes := 0 }

/-- The metadata of a root, from the outcomes of reading its objects one after the other. -/
lemma run_readMetadataObjects (src : OcbReadSource) (root : OcbRootV1) (limits : OcbResourceLimits)
    {schemaBytes stringBytes indexBytes : List UInt8} {schema : OcbSchemaV1}
    {stringTable : OcbStringTableV1} {dictionaryIndex : Option OcbDictionaryIndexV1}
    {rowGroupIndex : OcbRowGroupIndexV1} {orderingProof : Option OcbOrderingProofV1}
    {b₀ b₁ b₂ b₃ b₄ b₅ : MetadataMaterializationBudget}
    (hschemaBytes : src.readObjectBytesWithResourceLimits root.schemaRef .schema limits =
      .ok schemaBytes)
    (hschema : (OcbSchemaV1.readFromBytesWithBudget schemaBytes).run b₀ = (.ok schema, b₁))
    (hstringBytes : src.readObjectBytesWithResourceLimits schema.stringTableRef .stringTable
      limits = .ok stringBytes)
    (hstrings : (OcbStringTableV1.readFromBytesWithBudget stringBytes).run b₁ =
      (.ok stringTable, b₂))
    (hdictionary : (readOptionalObject src root.dictionaryIndexRef .dictionaryIndex limits
      OcbDictionaryIndexV1.readFromBytesWithBudget).run b₂ = (.ok dictionaryIndex, b₃))
    (hindexBytes : src.readObjectBytesWithResourceLimits root.rowGroupIndexRef .rowGroupIndex
      limits = .ok indexBytes)
    (hindex : (OcbRowGroupIndexV1.readFromBytesWithBudget indexBytes).run b₃ =
      (.ok rowGroupIndex, b₄))
    (hordering : (readOptionalObject src root.orderingProofRef .orderingProof limits
      OcbOrderingProofV1.readFromBytesWithBudget).run b₄ = (.ok orderingProof, b₅)) :
    (readMetadataObjectsWithResourceLimits src root limits).run b₀ = (.ok {
      root, stringTable, schema, dictionaryIndex, rowGroupIndex
      rowGroupPositionsById := []
      orderingProof
      fileLen := src.fileLen
      appendable := false
      rootGeneration := 0
      previousRootGeneration := none
      resourceLimits := limits
      openMetadataMaterializedBytes := b₅.chargedBytes
      openAuxiliaryEncodedBytes := 0 }, b₅) := by
  rw [readMetadataObjectsWithResourceLimits, hschemaBytes,
    Fallible.run_bind_of_ok Fallible.run_lift, Fallible.run_bind_of_ok hschema, hstringBytes,
    Fallible.run_bind_of_ok Fallible.run_lift, Fallible.run_bind_of_ok hstrings,
    Fallible.run_bind_of_ok hdictionary, hindexBytes, Fallible.run_bind_of_ok Fallible.run_lift,
    Fallible.run_bind_of_ok hindex, Fallible.run_bind_of_ok hordering]
  rfl

/-! ### Row-group index deltas -/

/-- The bytes of the descriptors a delta adds to the base tables. -/
def rowGroupIndexDeltaDestinationExtensionBytes (delta : OcbRowGroupIndexDeltaV1) : Result ℕ := do
  let part (itemBytes count : ℕ) : Result ℕ := okOr (checkedMul 64 count itemBytes)
    (ocbCorruptFile "OCB row-group index delta destination size overflows")
  let rowGroupBytes ← part OcbRowGroupDescV1.memBytes delta.rowGroups.length
  let columnChunkBytes ← part OcbColumnChunkDescV1.len delta.columnChunks.length
  let statBytes ← part OcbColumnStatsV1.len delta.stats.length
  let proofBytes ← part OcbRowGroupOrderingProofV1.len delta.rowGroupOrderingProofs.length
  [rowGroupBytes, columnChunkBytes, statBytes, proofBytes].foldlM
    (fun total part => okOr (checkedAdd 64 total part)
      (ocbCorruptFile "OCB row-group index delta destination size overflows")) 0

/-- A table with the records of a delta has a length. -/
def checkedDeltaDestinationLen (base additional : ℕ) : Result Unit := do
  let _ ← okOr (checkedAdd usizeBits base additional)
    (ocbCorruptFile "OCB row-group index delta destination length overflows")
  return ()

/-- The ordering proof that a delta with ordering records extends, after checking that it fits. -/
def deltaTargetOrderingProof (orderingProof : Option OcbOrderingProofV1)
    (delta : OcbRowGroupIndexDeltaV1) : Result (Option OcbOrderingProofV1) :=
  if delta.rowGroupOrderingProofs = [] then do
    failIf (delta.baseOrderingProofCount ≠ 0 ∨ delta.orderingKeys ≠ [])
      (ocbCorruptFile "OCB row-group index delta ordering metadata is inconsistent")
    return none
  else do
    failIf (delta.baseOrderingProofCount ≠ delta.baseRowGroupCount ∨
        delta.rowGroupOrderingProofs.length ≠ delta.rowGroups.length)
      (ocbCorruptFile
        "OCB row-group index delta ordering partition does not match row-group delta")
    let proof ← okOr orderingProof
      (ocbCorruptFile "OCB row-group index delta requires ordering proof")
    failIf (proof.rowGroupProofs.length ≠ delta.baseOrderingProofCount.toNat)
      (ocbCorruptFile "OCB row-group index delta ordering base count does not match base proof")
    failIf (proof.keys ≠ delta.orderingKeys)
      (ocbCorruptFile "OCB row-group index delta ordering keys do not match base proof")
    return some proof

/-- Every check of a delta against the base metadata, up to the size of the extension; the
results are the ordering proof that it extends and the bytes it adds. -/
def checkRowGroupIndexDelta (m : OcbMetadataV1) (delta : OcbRowGroupIndexDeltaV1) :
    Result (Option OcbOrderingProofV1 × ℕ) := do
  let index := m.rowGroupIndex
  failIf (index.rowGroups.length ≠ delta.baseRowGroupCount.toNat ∨
      index.columnChunks.length ≠ delta.baseColumnChunkCount.toNat ∨
      index.stats.length ≠ delta.baseStatCount.toNat)
    (ocbCorruptFile "OCB row-group index delta base counts do not match base index")
  failIf (delta.flags ≠ index.flags)
    (ocbCorruptFile "OCB row-group index delta flags do not match base index")
  let target ← deltaTargetOrderingProof m.orderingProof delta
  checkedDeltaDestinationLen index.rowGroups.length delta.rowGroups.length
  checkedDeltaDestinationLen index.columnChunks.length delta.columnChunks.length
  checkedDeltaDestinationLen index.stats.length delta.stats.length
  target.elim (.ok ()) fun proof =>
    checkedDeltaDestinationLen proof.rowGroupProofs.length delta.rowGroupOrderingProofs.length
  let bytes ← rowGroupIndexDeltaDestinationExtensionBytes delta
  return (target, bytes)

/-- The base tables of the metadata followed by the records of a delta. -/
def extendWithDelta (m : OcbMetadataV1) (delta : OcbRowGroupIndexDeltaV1)
    (target : Option OcbOrderingProofV1) : OcbMetadataV1 :=
  { m with
    rowGroupIndex := { m.rowGroupIndex with
      rowGroups := m.rowGroupIndex.rowGroups ++ delta.rowGroups
      columnChunks := m.rowGroupIndex.columnChunks ++ delta.columnChunks
      stats := m.rowGroupIndex.stats ++ delta.stats }
    orderingProof := match target with
      | none => m.orderingProof
      | some proof => some { proof with
          rowGroupProofs := proof.rowGroupProofs ++ delta.rowGroupOrderingProofs } }

/-- Lay the records of a delta over the base tables of the metadata. -/
def applyRowGroupIndexDelta (m : OcbMetadataV1) (delta : OcbRowGroupIndexDeltaV1) :
    Metered OcbMetadataV1 := do
  let (target, bytes) ← checkRowGroupIndexDelta m delta
  MetadataMaterializationBudget.charge bytes
  return extendWithDelta m delta target

/-- The commit diagnostics of an append are the delta that it adds to the base tables. -/
def applyCommittedDelta (src : OcbReadSource) (root : OcbRootV2) (limits : OcbResourceLimits)
    (m : OcbMetadataV1) : Metered OcbMetadataV1 :=
  if root.commitDiagnosticsRef.kind = .rowGroupIndexDelta then do
    let deltaBytes ← src.readObjectBytesWithResourceLimits root.commitDiagnosticsRef
      .rowGroupIndexDelta limits
    let delta ← OcbRowGroupIndexDeltaV1.readFromBytesWithBudget deltaBytes
    applyRowGroupIndexDelta m delta
  else return m

/-- The metadata of the base tables, with the commit of the root. -/
def withRootGeneration (m : OcbMetadataV1) (root : OcbRootV2) : OcbMetadataV1 :=
  { m with
    appendable := true
    rootGeneration := root.generation
    previousRootGeneration :=
      if root.previousRootRef.IsNull then none else some root.previousGeneration }

/-- Read the objects that a root of the second version refers to, and apply its delta. -/
def readMetadataObjectsV2WithResourceLimits (src : OcbReadSource) (root : OcbRootV2)
    (limits : OcbResourceLimits) : Metered OcbMetadataV1 := do
  let base ← readMetadataObjectsWithResourceLimits src root.toV1Root limits
  let m ← applyCommittedDelta src root limits (withRootGeneration base root)
  let charged ← chargedBytes
  return { m with openMetadataMaterializedBytes := charged }

lemma applyRowGroupIndexDelta_eq_ok {m m' : OcbMetadataV1} {delta : OcbRowGroupIndexDeltaV1}
    {b b' : MetadataMaterializationBudget}
    (h : (applyRowGroupIndexDelta m delta).run b = (.ok m', b')) :
    ∃ target bytes, checkRowGroupIndexDelta m delta = .ok (target, bytes) ∧
      m' = extendWithDelta m delta target := by
  obtain ⟨⟨target, bytes⟩, hcheck, h⟩ := Fallible.run_lift_bind_eq_ok.mp h
  obtain ⟨_, _, -, h⟩ := Fallible.run_bind_eq_ok.mp h
  cases h
  exact ⟨target, bytes, hcheck, rfl⟩

end ArcadiaTio.Ocb
