import ArcadiaTio.Ocb.Format.RoundTrip

/-!
# Structure first, then the budget

A metadata decoder validates the structure of its object completely, charges the bytes the value
will retain, and only then materializes the value.  Its first pass does not look at the budget
(`ValidationPass`), so the bytes alone decide which of two shapes the outcome has: they are
malformed and every budget sees the structural error of that pass, uncharged; or they are well
formed and every budget is charged for exactly the value (`StructureFirst`).  The second pass
reads what the first pass accepted, so nothing fails after the charge.
-/

namespace ArcadiaTio.Ocb

open ArcadiaTio.Lib

/-! ### Structural errors -/

namespace ArcadiaTioError

/-- The errors that say something about the structure of an object. -/
def IsStructural (e : ArcadiaTioError) : Prop :=
  e.ocbFailureCause = some .corruptFile ∨ e.ocbFailureCause = some .unsupportedFormat

@[simp] lemma isStructural_ocbCorruptFile (m : String) : (ocbCorruptFile m).IsStructural := .inl rfl

@[simp] lemma isStructural_ocbUnsupportedFormat (m : String) :
    (ocbUnsupportedFormat m).IsStructural := .inr rfl

end ArcadiaTioError

open ArcadiaTioError (IsStructural)

/-- Every error of a reader is structural. -/
abbrev Structural {α : Type} (r : Reader α) : Prop := Decoder.ErrorsIn IsStructural r

section Readers

variable {α β : Type}

lemma structural_readU8 : Structural readU8 := .uint8 (.inl rfl)

lemma structural_readU16 : Structural readU16 := .uint16 (.inl rfl)

lemma structural_readU32 : Structural readU32 := .uint32 (.inl rfl)

lemma structural_readU64 : Structural readU64 := .uint64 (.inl rfl)

lemma structural_readExactOcb (n : ℕ) : Structural (readExactOcb n) := .take (.inl rfl)

lemma structural_failIf {c : Prop} [Decidable c] {e : ArcadiaTioError} (he : e.IsStructural) :
    Structural (liftM (failIf c e) : Reader Unit) := .lift (.failIf fun _ => he)

lemma structural_okOr {o : Option α} {e : ArcadiaTioError} (he : e.IsStructural) :
    Structural (liftM (okOr o e) : Reader α) := .lift (.okOr he)

lemma structural_position (totalLen : ℕ) : Structural (position totalLen) := by
  intro bs e h
  cases h

lemma errorsIn_bodyKind (v : UInt16) : ErrorsIn IsStructural (OcbBodyKindV1.fromU16 v) := by
  intro e h
  rw [OcbBodyKindV1.fromU16] at h
  split at h <;> cases h
  exact .inl rfl

lemma errorsIn_checksumKind (v : UInt16) : ErrorsIn IsStructural (OcbChecksumKindV1.fromU16 v) := by
  intro e h
  rw [OcbChecksumKindV1.fromU16] at h
  split at h <;> cases h
  exact .inl rfl

lemma errorsIn_physicalType (v : UInt16) : ErrorsIn IsStructural (OcbPhysicalTypeV1.fromU16 v) := by
  intro e h
  rw [OcbPhysicalTypeV1.fromU16] at h
  split at h <;> cases h
  exact .inl rfl

lemma errorsIn_logicalKind (v : UInt16) : ErrorsIn IsStructural (OcbLogicalKindV1.fromU16 v) := by
  intro e h
  rw [OcbLogicalKindV1.fromU16] at h
  split at h <;> cases h
  exact .inl rfl

lemma errorsIn_nullability (v : UInt16) : ErrorsIn IsStructural (OcbNullabilityV1.fromU16 v) := by
  intro e h
  rw [OcbNullabilityV1.fromU16] at h
  split at h <;> cases h
  exact .inl rfl

lemma errorsIn_chunkCodec (v : UInt16) : ErrorsIn IsStructural (OcbChunkCodecV1.fromU16 v) := by
  intro e h
  rw [OcbChunkCodecV1.fromU16] at h
  split at h <;> cases h
  exact .inr rfl

lemma errorsIn_dictionaryValueKind (v : UInt16) :
    ErrorsIn IsStructural (OcbDictionaryValueKindV1.fromU16 v) := by
  intro e h
  rw [OcbDictionaryValueKindV1.fromU16] at h
  split at h <;> cases h
  exact .inl rfl

lemma errorsIn_orderingDirection (v : UInt8) :
    ErrorsIn IsStructural (OcbOrderingDirectionV1.fromU8 v) := by
  intro e h
  rw [OcbOrderingDirectionV1.fromU8] at h
  split at h <;> cases h
  exact .inl rfl

lemma errorsIn_nullOrder (v : UInt8) : ErrorsIn IsStructural (OcbNullOrderV1.fromU8 v) := by
  intro e h
  rw [OcbNullOrderV1.fromU8] at h
  split at h <;> cases h
  exact .inl rfl

/-! Records. -/

lemma structural_bodyRef : Structural OcbBodyRefV2.read :=
  structural_readU64.bind fun _ => structural_readU64.bind fun _ =>
    structural_readU16.bind fun _ => (Decoder.ErrorsIn.lift (errorsIn_bodyKind _)).bind fun _ =>
      structural_readU16.bind fun _ => structural_readU16.bind fun _ =>
        (Decoder.ErrorsIn.lift (errorsIn_checksumKind _)).bind fun _ =>
          structural_readU16.bind fun _ => structural_readU32.bind fun _ =>
            structural_readU32.bind fun _ => .pure _

lemma structural_columnDesc : Structural OcbColumnDescV1.read :=
  structural_readU32.bind fun _ => structural_readU32.bind fun _ =>
    structural_readU16.bind fun _ => (Decoder.ErrorsIn.lift (errorsIn_physicalType _)).bind fun _ =>
      structural_readU16.bind fun _ =>
        (Decoder.ErrorsIn.lift (errorsIn_logicalKind _)).bind fun _ =>
          structural_readU32.bind fun _ => structural_readU32.bind fun _ =>
            structural_readU32.bind fun _ => structural_readU16.bind fun _ =>
              (Decoder.ErrorsIn.lift (errorsIn_nullability _)).bind fun _ =>
                structural_readU16.bind fun _ => structural_readU32.bind fun _ => .pure _

lemma structural_dictionaryDesc : Structural OcbDictionaryDescV1.read :=
  structural_readU32.bind fun _ => structural_readU32.bind fun _ =>
    structural_readU16.bind fun _ => (Decoder.ErrorsIn.lift (errorsIn_physicalType _)).bind fun _ =>
      structural_readU16.bind fun _ =>
        (Decoder.ErrorsIn.lift (errorsIn_dictionaryValueKind _)).bind fun _ =>
          structural_readU32.bind fun _ => structural_bodyRef.bind fun _ =>
            structural_readU32.bind fun _ => structural_readU32.bind fun _ => .pure _

lemma structural_statScalar : Structural OcbStatScalarV1.read := by
  refine structural_readU16.bind fun _ => (Decoder.ErrorsIn.lift (errorsIn_physicalType _)).bind
    fun physicalType => structural_readU16.bind fun _ => structural_readU64.bind fun _ =>
      structural_readU32.bind fun _ => ?_
  cases physicalType with
  | i32 => exact .pure _
  | i64 => exact .pure _
  | f32 => exact .pure _
  | f64 => exact .pure _
  | fixedBinary =>
    intro bs e h
    cases h
    exact .inl rfl

lemma structural_columnStats : Structural OcbColumnStatsV1.read :=
  structural_readU32.bind fun _ => structural_readU32.bind fun _ =>
    structural_readU16.bind fun _ => (Decoder.ErrorsIn.lift (errorsIn_physicalType _)).bind fun _ =>
      structural_readU16.bind fun _ => structural_readU32.bind fun _ =>
        structural_statScalar.bind fun _ => structural_statScalar.bind fun _ =>
          (structural_failIf (.inl rfl)).bind fun _ => .pure _

lemma structural_rowGroupDesc : Structural OcbRowGroupDescV1.read :=
  structural_readU32.bind fun _ => structural_readU32.bind fun _ =>
    structural_readU64.bind fun _ => structural_readU64.bind fun _ =>
      structural_readU64.bind fun _ => structural_readU32.bind fun _ =>
        structural_readU32.bind fun _ => structural_readU64.bind fun _ =>
          structural_readU32.bind fun _ => structural_readU32.bind fun _ =>
            structural_bodyRef.bind fun _ => structural_bodyRef.bind fun _ => .pure _

lemma structural_chunkDesc : Structural OcbColumnChunkDescV1.read :=
  structural_readU32.bind fun _ => structural_readU32.bind fun _ =>
    structural_readU16.bind fun _ => (Decoder.ErrorsIn.lift (errorsIn_physicalType _)).bind fun _ =>
      structural_readU16.bind fun _ => (Decoder.ErrorsIn.lift (errorsIn_chunkCodec _)).bind fun _ =>
        structural_readU32.bind fun _ => structural_bodyRef.bind fun _ =>
          structural_bodyRef.bind fun _ => structural_readU64.bind fun _ =>
            structural_readU64.bind fun _ => .pure _

lemma structural_orderingKey : Structural OcbOrderingKeyV1.read :=
  structural_readU32.bind fun _ => structural_readU8.bind fun _ => structural_readU8.bind fun _ =>
    (Decoder.ErrorsIn.lift (errorsIn_orderingDirection _)).bind fun _ =>
      (Decoder.ErrorsIn.lift (errorsIn_nullOrder _)).bind fun _ =>
        structural_readU16.bind fun _ => .pure _

lemma structural_orderingProof : Structural OcbRowGroupOrderingProofV1.read :=
  structural_readU32.bind fun _ => structural_readU32.bind fun _ =>
    structural_bodyRef.bind fun _ => structural_bodyRef.bind fun _ => .pure _

/-! Sections. -/

lemma errorsIn_remainingBeforeCrc (totalLen pos : ℕ) :
    ErrorsIn IsStructural (remainingBeforeCrc totalLen pos) :=
  (ErrorsIn.okOr (.inl rfl)).bind fun _ _ => (ErrorsIn.failIf fun _ => .inl rfl).bind
    fun _ _ => .ok _

lemma errorsIn_checkedPayloadLen (totalLen pos len : ℕ) (what : String) :
    ErrorsIn IsStructural (checkedPayloadLen totalLen pos len what) :=
  (errorsIn_remainingBeforeCrc _ _).bind fun _ _ => (ErrorsIn.failIf fun _ => .inl rfl).bind
    fun _ _ => .ok _

lemma errorsIn_checkedRecordCount (totalLen pos count recordLen : ℕ) (what : String) :
    ErrorsIn IsStructural (checkedRecordCount totalLen pos count recordLen what) :=
  (ErrorsIn.okOr (.inl rfl)).bind fun _ _ => (errorsIn_remainingBeforeCrc _ _).bind fun _ _ =>
    (ErrorsIn.failIf fun _ => .inl rfl).bind fun _ _ => .ok _

lemma structural_recordCount (totalLen count recordLen : ℕ) (what : String) :
    Structural (recordCount totalLen count recordLen what) :=
  (structural_position _).bind fun _ => .lift (errorsIn_checkedRecordCount _ _ _ _ _)

lemma structural_validateRecordSequence {r : Reader α} (hr : Structural r) (n : ℕ) :
    Structural (validateRecordSequence n r) := (hr.repeatN n).bind fun _ => .pure _

lemma structural_readRecordSequence {r : Reader α} (hr : Structural r) (n : ℕ) :
    Structural (readRecordSequence n r) := hr.repeatN n

lemma structural_inspectString (totalLen : ℕ) : Structural (inspectStringU32Bounded totalLen) :=
  (structural_position _).bind fun _ =>
    (Decoder.ErrorsIn.lift (errorsIn_checkedPayloadLen _ _ _ _)).bind fun _ =>
      structural_readU32.bind fun _ => (structural_position _).bind fun _ =>
        (Decoder.ErrorsIn.lift (errorsIn_checkedPayloadLen _ _ _ _)).bind fun _ =>
          (structural_readExactOcb _).bind fun _ => (structural_okOr (.inl rfl)).bind fun _ =>
            .pure _

lemma structural_valueOffsets (p : DictionaryValuesPrefix) (n : ℕ) (previous : UInt64) :
    Structural (validateValueOffsets p n previous) := by
  induction n generalizing previous with
  | zero => exact .pure _
  | succ n ih =>
    exact structural_readU64.bind fun _ => (structural_failIf (.inl rfl)).bind fun _ =>
      (structural_failIf (.inl rfl)).bind fun _ => ih _

lemma errorsIn_readAll {r : Reader α} (hr : Structural r) (bytes : List UInt8) :
    ErrorsIn IsStructural (readAll r bytes) := by
  intro e h
  rw [readAll] at h
  cases hrun : r.run bytes with
  | error e' =>
    rw [hrun] at h
    cases h
    exact hr bytes _ hrun
  | ok p =>
    rw [hrun] at h
    cases h

lemma errorsIn_readHeader (h : ObjectHeader) (bytes : List UInt8) :
    ErrorsIn IsStructural (readHeader h bytes) := by
  have hcrc : ErrorsIn IsStructural (readU32AtEnd bytes) := by
    rw [readU32AtEnd]
    split
    · exact .error (.inl rfl)
    · exact .ok _
  have hread : Structural h.read :=
    ((structural_readExactOcb 8).bind fun _ => structural_failIf (.inl rfl)).bind fun _ =>
      structural_readU16.bind fun _ => (structural_failIf (.inr rfl)).bind fun _ =>
        structural_readU16.bind fun _ => (structural_failIf (.inl rfl)).bind fun _ => .pure _
  exact hcrc.bind fun _ _ => (ErrorsIn.failIf fun _ => .inl rfl).bind fun _ _ =>
    (hread _).bind fun _ _ => .ok _

lemma errorsIn_checkedMaterializedVecBytes (itemBytes count : ℕ) :
    ErrorsIn IsStructural (checkedMaterializedVecBytes itemBytes count) := .okOr (.inl rfl)

lemma errorsIn_foldlM_checkedAdd (message : String) (parts : List ℕ) (total : ℕ) :
    ErrorsIn IsStructural (parts.foldlM (fun total part => okOr (checkedAdd 64 total part)
      (ocbCorruptFile message)) total) := by
  induction parts generalizing total with
  | nil => exact .ok _
  | cons part parts ih =>
    rw [List.foldlM_cons]
    exact (ErrorsIn.okOr (.inl rfl)).bind fun _ _ => ih _

lemma errorsIn_checkedMaterializedSum (parts : List ℕ) :
    ErrorsIn IsStructural (checkedMaterializedSum parts) := errorsIn_foldlM_checkedAdd _ _ _

end Readers

/-! ### What the size computations return -/

lemma foldlM_checkedAdd_eq_ok {message : String} {parts : List ℕ} {total n : ℕ}
    (h : parts.foldlM (fun total part => okOr (checkedAdd 64 total part)
      (ocbCorruptFile message)) total = .ok n) : n = total + parts.sum := by
  induction parts generalizing total with
  | nil =>
    cases h
    rfl
  | cons part parts ih =>
    obtain ⟨next, hnext, htail⟩ := bind_eq_ok.mp h
    obtain ⟨rfl, -⟩ := checkedAdd_eq_some.mp (okOr_eq_ok.mp hnext)
    rw [ih htail, List.sum_cons, Nat.add_assoc]

lemma checkedMaterializedSum_eq_ok {parts : List ℕ} {n : ℕ}
    (h : checkedMaterializedSum parts = .ok n) : n = parts.sum := by
  rw [foldlM_checkedAdd_eq_ok h, Nat.zero_add]

lemma checkedMaterializedVecBytes_eq_ok {itemBytes count n : ℕ}
    (h : checkedMaterializedVecBytes itemBytes count = .ok n) : n = count * itemBytes :=
  (checkedMul_eq_some.mp (okOr_eq_ok.mp h)).1

/-- A total that was computed is a machine word. -/
lemma checkedMaterializedSum_lt {parts : List ℕ} {n : ℕ}
    (h : checkedMaterializedSum parts = .ok n) : n < 2 ^ 64 := by
  refine foldlM_induct (fun total _ => total < 2 ^ 64) (by omega) ?_ h
  rintro total next part - - hnext
  obtain ⟨rfl, hlt⟩ := checkedAdd_eq_some.mp (okOr_eq_ok.mp hnext)
  exact hlt

lemma checkedMaterializedVecBytes_lt {itemBytes count n : ℕ}
    (h : checkedMaterializedVecBytes itemBytes count = .ok n) : n < 2 ^ 64 := by
  obtain ⟨rfl, hlt⟩ := checkedMul_eq_some.mp (okOr_eq_ok.mp h)
  exact hlt

/-! ### The validation passes -/

/-- What the validation pass of a decoder hands on: the price that is charged next, and the
materializing pass that then builds the value. -/
structure ValidationPass (α : Type) where
  retainedBytes : ℕ
  materialize : Result α

/-- The validation pass of a string table. -/
def OcbStringTableV1.validationPass (bytes : List UInt8) :
    Result (ValidationPass OcbStringTableV1) := do
  let header ← readHeader ocbStringTableHeader bytes
  let (stringCount, start) ← (do
    let stringCount ← readU32
    let _reserved0 ← readU32
    recordCount header.totalLen stringCount.toNat 4 "OCB string table string count").run header.rest
  let lens ← readAll (readRecordSequence stringCount (inspectStringU32Bounded header.totalLen)) start
  let stringBytes ← lens.foldlM (fun total len => okOr (checkedAdd 64 total len)
    (ocbCorruptFile "OCB string table materialized byte count overflows")) 0
  let vecBytes ← checkedMaterializedVecBytes vecHeaderBytes stringCount
  let retainedBytes ← checkedMaterializedSum [vecBytes, stringBytes]
  return {
    retainedBytes
    materialize := do
      let strings ←
        readAll (readRecordSequence stringCount (readStringU32Bounded header.totalLen)) start
      return { version := header.version, strings, crc32c := header.crc32c } }

/-- The validation pass of a schema. -/
def OcbSchemaV1.validationPass (bytes : List UInt8) : Result (ValidationPass OcbSchemaV1) := do
  let header ← readHeader ocbSchemaHeader bytes
  let ((stringTableRef, columnCount), start) ← (do
    let columnCount ← readU32
    let stringTableRef ← OcbBodyRefV2.read
    let _reserved0 ← readU32
    let columnCount ← recordCount header.totalLen columnCount.toNat OcbColumnDescV1.len
      "OCB schema column count"
    return (stringTableRef, columnCount)).run header.rest
  let _ ← readAll (validateRecordSequence columnCount OcbColumnDescV1.read) start
  let retainedBytes ← checkedMaterializedVecBytes OcbColumnDescV1.len columnCount
  return {
    retainedBytes
    materialize := do
      let columns ← readAll (readRecordSequence columnCount OcbColumnDescV1.read) start
      return { version := header.version, stringTableRef, columns, crc32c := header.crc32c } }

/-- The validation pass of a dictionary index. -/
def OcbDictionaryIndexV1.validationPass (bytes : List UInt8) :
    Result (ValidationPass OcbDictionaryIndexV1) := do
  let header ← readHeader ocbDictionaryIndexHeader bytes
  let (dictionaryCount, start) ← (do
    let dictionaryCount ← readU32
    let _reserved0 ← readU32
    recordCount header.totalLen dictionaryCount.toNat OcbDictionaryDescV1.len
      "OCB dictionary index count").run header.rest
  let _ ← readAll (validateRecordSequence dictionaryCount OcbDictionaryDescV1.read) start
  let retainedBytes ← checkedMaterializedVecBytes OcbDictionaryDescV1.len dictionaryCount
  return {
    retainedBytes
    materialize := do
      let dictionaries ← readAll (readRecordSequence dictionaryCount OcbDictionaryDescV1.read) start
      return { version := header.version, dictionaries, crc32c := header.crc32c } }

/-- The validation pass of dictionary values, which ends with the table of offsets. -/
def OcbDictionaryValuesV1.validationPass (bytes : List UInt8) :
    Result (ValidationPass OcbDictionaryValuesV1) := do
  let header ← readHeader ocbDictionaryValuesHeader bytes
  let ((p, entryCount), start) ← (readPrefix header.totalLen).run header.rest
  let (dataLen, atData) ← (validateData header.totalLen p entryCount).run start
  let vecBytes ← checkedMaterializedVecBytes vecHeaderBytes entryCount
  let retainedBytes ← checkedMaterializedSum [vecBytes, dataLen]
  return {
    retainedBytes
    materialize := do
      let values ← readAll (readData (atData.take dataLen) entryCount) start
      return {
        version := header.version, valueKind := p.valueKind, fixedWidth := p.fixedWidth, values
        crc32c := header.crc32c } }

/-- The validation pass of a row-group index. -/
def OcbRowGroupIndexV1.validationPass (bytes : List UInt8) :
    Result (ValidationPass OcbRowGroupIndexV1) := do
  let header ← readHeader ocbRowGroupIndexHeader bytes
  let ((rowGroupCount, columnChunkCount, statCount, flags), start) ← (do
    let rowGroupCount ← readU32
    let columnChunkCount ← readU32
    let statCount ← readU32
    let flags ← readU32
    let _reserved0 ← readU32
    let rowGroupCount ← recordCount header.totalLen rowGroupCount.toNat OcbRowGroupDescV1.len
      "OCB row-group index row-group count"
    return (rowGroupCount, columnChunkCount, statCount, flags)).run header.rest
  let (columnChunkCount, statCount) ← readAll (do
    validateRecordSequence rowGroupCount OcbRowGroupDescV1.read
    let columnChunkCount ← recordCount header.totalLen columnChunkCount.toNat
      OcbColumnChunkDescV1.len "OCB row-group index column-chunk count"
    validateRecordSequence columnChunkCount OcbColumnChunkDescV1.read
    let statCount ← recordCount header.totalLen statCount.toNat OcbColumnStatsV1.len
      "OCB row-group index stat count"
    validateRecordSequence statCount OcbColumnStatsV1.read
    return (columnChunkCount, statCount)) start
  let rowGroupBytes ← checkedMaterializedVecBytes OcbRowGroupDescV1.memBytes rowGroupCount
  let columnChunkBytes ← checkedMaterializedVecBytes OcbColumnChunkDescV1.len columnChunkCount
  let statBytes ← checkedMaterializedVecBytes OcbColumnStatsV1.len statCount
  let retainedBytes ← checkedMaterializedSum [rowGroupBytes, columnChunkBytes, statBytes]
  return {
    retainedBytes
    materialize := readAll (do
      let rowGroups ← readRecordSequence rowGroupCount OcbRowGroupDescV1.read
      let columnChunks ← readRecordSequence columnChunkCount OcbColumnChunkDescV1.read
      let stats ← readRecordSequence statCount OcbColumnStatsV1.read
      return {
        version := header.version, flags, rowGroups, columnChunks, stats
        crc32c := header.crc32c }) start }

/-- The validation pass of a delta. -/
def OcbRowGroupIndexDeltaV1.validationPass (bytes : List UInt8) :
    Result (ValidationPass OcbRowGroupIndexDeltaV1) := do
  let header ← readHeader ocbRowGroupIndexDeltaHeader bytes
  let (counts, start) ← DeltaCounts.read.run header.rest
  let (rowGroupCount, columnChunkCount, statCount, orderingKeyCount, orderingProofCount) ←
    readAll (validateDeltaSections header.totalLen counts) start
  let rowGroupBytes ← checkedMaterializedVecBytes OcbRowGroupDescV1.memBytes rowGroupCount
  let columnChunkBytes ← checkedMaterializedVecBytes OcbColumnChunkDescV1.len columnChunkCount
  let statBytes ← checkedMaterializedVecBytes OcbColumnStatsV1.len statCount
  let orderingKeyBytes ← checkedMaterializedVecBytes OcbOrderingKeyV1.len orderingKeyCount
  let orderingProofBytes ←
    checkedMaterializedVecBytes OcbRowGroupOrderingProofV1.len orderingProofCount
  let retainedBytes ← checkedMaterializedSum
    [rowGroupBytes, columnChunkBytes, statBytes, orderingKeyBytes, orderingProofBytes]
  return {
    retainedBytes
    materialize := readAll (do
      let rowGroups ← readRecordSequence rowGroupCount OcbRowGroupDescV1.read
      let columnChunks ← readRecordSequence columnChunkCount OcbColumnChunkDescV1.read
      let stats ← readRecordSequence statCount OcbColumnStatsV1.read
      let orderingKeys ← readRecordSequence orderingKeyCount OcbOrderingKeyV1.read
      let rowGroupOrderingProofs ←
        readRecordSequence orderingProofCount OcbRowGroupOrderingProofV1.read
      return {
        version := header.version, flags := counts.flags
        baseRowGroupCount := counts.baseRowGroupCount
        baseColumnChunkCount := counts.baseColumnChunkCount
        baseStatCount := counts.baseStatCount
        baseOrderingProofCount := counts.baseOrderingProofCount
        rowGroups, columnChunks, stats, orderingKeys, rowGroupOrderingProofs
        crc32c := header.crc32c }) start }

/-- The validation pass of an ordering proof. -/
def OcbOrderingProofV1.validationPass (bytes : List UInt8) :
    Result (ValidationPass OcbOrderingProofV1) := do
  let header ← readHeader ocbOrderingProofHeader bytes
  let ((keyCount, rowGroupCount, flags), start) ← (do
    let keyCount ← readU16
    let flags ← readU16
    let rowGroupCount ← readU32
    let _reserved0 ← readU64
    let keyCount ← recordCount header.totalLen keyCount.toNat OcbOrderingKeyV1.len
      "OCB ordering proof key count"
    return (keyCount, rowGroupCount, flags)).run header.rest
  let rowGroupCount ← readAll (do
    validateRecordSequence keyCount OcbOrderingKeyV1.read
    let rowGroupCount ← recordCount header.totalLen rowGroupCount.toNat
      OcbRowGroupOrderingProofV1.len "OCB ordering proof row-group count"
    validateRecordSequence rowGroupCount OcbRowGroupOrderingProofV1.read
    return rowGroupCount) start
  let keyBytes ← checkedMaterializedVecBytes OcbOrderingKeyV1.len keyCount
  let proofBytes ← checkedMaterializedVecBytes OcbRowGroupOrderingProofV1.len rowGroupCount
  let retainedBytes ← checkedMaterializedSum [keyBytes, proofBytes]
  return {
    retainedBytes
    materialize := readAll (do
      let keys ← readRecordSequence keyCount OcbOrderingKeyV1.read
      let rowGroupProofs ← readRecordSequence rowGroupCount OcbRowGroupOrderingProofV1.read
      return {
        version := header.version, flags, keys, rowGroupProofs, crc32c := header.crc32c }) start }

/-! ### Structure first -/

/-- A decoder is its validation pass, then the charge, then the materializing pass; every error
of the first pass is structural, and the pass after the charge returns a value that retains what
was charged. -/
structure StructureFirst {α : Type} (read : Metered α) (validate : Result (ValidationPass α))
    (retained : α → ℕ) : Prop where
  read_eq : read = (do
    let pass ← validate
    MetadataMaterializationBudget.charge pass.retainedBytes
    pass.materialize)
  structural : ErrorsIn IsStructural validate
  materializes : ∀ pass, validate = .ok pass → pass.retainedBytes < 2 ^ 64 ∧
    ∃ a, pass.materialize = .ok a ∧ pass.retainedBytes = retained a

namespace StructureFirst

variable {α β : Type} {retained : α → ℕ} {read : Metered α} {validate : Result (ValidationPass α)}

/-- A step that does not touch the budget. -/
protected lemma bind {x : Result β} {f : β → Metered α} {g : β → Result (ValidationPass α)}
    (hx : ErrorsIn IsStructural x) (hf : ∀ b, x = .ok b → StructureFirst (f b) (g b) retained) :
    StructureFirst ((liftM x : Metered β) >>= f) (x >>= g) retained := by
  cases h : x with
  | error e =>
    exact { read_eq := rfl, structural := .error (hx e h), materializes := fun _ hpass => by cases hpass }
  | ok b => exact hf b h

/-- The charge, after which the value is there. -/
protected lemma charge {n : ℕ} {f : Unit → Metered α} {m : Result α} {a : α}
    (hf : f () = liftM m) (hm : m = .ok a) (hn : n = retained a) (hlt : n < 2 ^ 64) :
    StructureFirst (MetadataMaterializationBudget.charge n >>= f) (.ok ⟨n, m⟩) retained where
  read_eq := by
    have hfun : f = fun _ => liftM m := funext fun _ => hf
    rw [hfun]
    rfl
  structural := .ok _
  materializes := by
    rintro pass ⟨⟩
    exact ⟨hlt, a, hm, hn⟩

/-- The decoder fails without a charge, or it is the charge for a value. -/
lemma cases (h : StructureFirst read validate retained) :
    (∃ e : ArcadiaTioError, e.IsStructural ∧ read = liftM (Except.error e : Result α)) ∨
      ∃ a, read = (do MetadataMaterializationBudget.charge (retained a); return a) := by
  have hread := h.read_eq
  cases hvalidate : validate with
  | error e =>
    rw [hvalidate] at hread
    exact .inl ⟨e, h.structural e hvalidate, hread⟩
  | ok pass =>
    obtain ⟨-, a, hm, hn⟩ := h.materializes pass hvalidate
    rw [hvalidate, Fallible.lift_ok_bind, hm, hn] at hread
    exact .inr ⟨a, hread⟩

end StructureFirst

/-! The two passes over a section. -/

lemma run_validateRecordSequence_eq_ok {α : Type} {d : Reader α} {n : ℕ} {bytes rest : List UInt8}
    {u : Unit} (h : (validateRecordSequence n d).run bytes = .ok (u, rest)) :
    ∃ as, (readRecordSequence n d).run bytes = .ok (as, rest) ∧ as.length = n := by
  obtain ⟨as, mid, has, hpure⟩ := Decoder.run_bind_eq_ok.mp h
  cases hpure
  exact ⟨as, has, Decoder.length_of_run_repeatN has⟩

lemma run_failIf_eq_ok {c : Prop} [Decidable c] {e : ArcadiaTioError} {bytes rest : List UInt8}
    {u : Unit} (h : (liftM (failIf c e) : Reader Unit).run bytes = .ok (u, rest)) :
    ¬ c ∧ rest = bytes := by
  by_cases hc : c
  · rw [failIf_pos hc] at h
    cases h
  · rw [failIf_neg hc] at h
    cases h
    exact ⟨hc, rfl⟩

lemma run_recordCount_eq_ok {totalLen count recordLen n : ℕ} {what : String}
    {bytes rest : List UInt8} (h : (recordCount totalLen count recordLen what).run bytes =
      .ok (n, rest)) : n = count ∧ rest = bytes := by
  obtain ⟨pos, mid, hpos, hcount⟩ := Decoder.run_bind_eq_ok.mp h
  cases hpos
  have hrun : (checkedRecordCount totalLen (totalLen - bytes.length) count recordLen what >>=
      fun n => Except.ok (n, bytes)) = .ok (n, rest) := hcount
  simp only [checkedRecordCount, bind_eq_ok, pure_eq_ok, Except.ok.injEq, Prod.mk.injEq] at hrun
  obtain ⟨_, ⟨_, -, _, -, _, -, rfl⟩, rfl, rfl⟩ := hrun
  exact ⟨rfl, rfl⟩

lemma readAll_eq_ok {α : Type} {r : Reader α} {bytes : List UInt8} {a : α} :
    readAll r bytes = .ok a ↔ ∃ rest, r.run bytes = .ok (a, rest) := by
  rw [readAll, map_eq_ok]
  constructor
  · rintro ⟨⟨a', rest⟩, hrun, rfl⟩
    exact ⟨rest, hrun⟩
  · rintro ⟨rest, hrun⟩
    exact ⟨(a, rest), hrun, rfl⟩

/-- A reader that ended, kept for its value. -/
lemma readAll_of_run {α : Type} {r : Reader α} {bytes rest : List UInt8} {a : α}
    (h : r.run bytes = .ok (a, rest)) : readAll r bytes = .ok a :=
  readAll_eq_ok.mpr ⟨rest, h⟩

/-! ### The decoders -/

lemma run_readStringU32Bounded_of_inspect {totalLen : ℕ} (bytes : List UInt8) (len : ℕ)
    (rest : List UInt8) (h : (inspectStringU32Bounded totalLen).run bytes = .ok (len, rest)) :
    ∃ s, (readStringU32Bounded totalLen).run bytes = .ok (s, rest) ∧ s.toUTF8.size = len := by
  obtain ⟨_, _, h₁, h⟩ := Decoder.run_bind_eq_ok.mp h
  obtain ⟨_, _, h₂, h⟩ := Decoder.run_bind_eq_ok.mp h
  obtain ⟨_, _, h₃, h⟩ := Decoder.run_bind_eq_ok.mp h
  obtain ⟨_, _, h₄, h⟩ := Decoder.run_bind_eq_ok.mp h
  obtain ⟨n, _, h₅, h⟩ := Decoder.run_bind_eq_ok.mp h
  obtain ⟨text, _, h₆, h⟩ := Decoder.run_bind_eq_ok.mp h
  obtain ⟨s, _, h₇, h⟩ := Decoder.run_bind_eq_ok.mp h
  cases h
  refine ⟨s, ?_, ?_⟩
  · rw [readStringU32Bounded, Decoder.run_bind_of_ok h₁, Decoder.run_bind_of_ok h₂,
      Decoder.run_bind_of_ok h₃, Decoder.run_bind_of_ok h₄, Decoder.run_bind_of_ok h₅,
      Decoder.run_bind_of_ok h₆]
    exact h₇
  · have htext : text.length = len := by
      simp only [readExactOcb, StateT.run, Decoder.take] at h₆
      split at h₆
      · cases h₆
        rw [List.length_take]
        omega
      · cases h₆
    have hs : stringFromUtf8 text = some s := by
      cases hs : stringFromUtf8 text with
      | none =>
        rw [hs] at h₇
        cases h₇
      | some s' =>
        rw [hs] at h₇
        cases h₇
        rfl
    rw [stringFromUtf8, String.fromUTF8?] at hs
    split at hs
    · cases hs
      exact htext
    · cases hs

theorem OcbStringTableV1.structureFirst (bytes : List UInt8) :
    StructureFirst (readFromBytesWithBudget bytes) (validationPass bytes) materializedBytes := by
  refine .bind (errorsIn_readHeader _ _) fun header _ => .bind ?_ fun ⟨count, start⟩ _ => ?_
  · exact (structural_readU32.bind fun _ => structural_readU32.bind fun _ =>
      structural_recordCount _ _ _ _) _
  refine .bind (errorsIn_readAll
    (structural_readRecordSequence (structural_inspectString _) _) _) fun lens hlens => ?_
  obtain ⟨rest, hlens⟩ := readAll_eq_ok.mp hlens
  rw [Fallible.foldlM_lift]
  refine .bind (errorsIn_foldlM_checkedAdd _ _ _) fun stringBytes hstrings =>
    .bind (errorsIn_checkedMaterializedVecBytes _ _) fun vecBytes hvec =>
      .bind (errorsIn_checkedMaterializedSum _) fun retained hretained => ?_
  -- What was inspected in the first pass is there to be read in the second one.
  obtain ⟨strings, hread, hsizes⟩ :=
    Decoder.run_repeatN_of_run run_readStringU32Bounded_of_inspect hlens
  refine .charge (a := { version := header.version, strings, crc32c := header.crc32c }) ?_ ?_ ?_
    (checkedMaterializedSum_lt hretained)
  · rw [readRecordSequence, readAll_of_run hread]
    rfl
  · rw [readRecordSequence, readAll_of_run hread]
    rfl
  · rw [checkedMaterializedSum_eq_ok hretained, checkedMaterializedVecBytes_eq_ok hvec,
      foldlM_checkedAdd_eq_ok hstrings, ← hsizes, materializedBytes,
      Decoder.length_of_run_repeatN hread]
    simp

/-- The memory that the columns of a schema take. -/
def OcbSchemaV1.materializedBytes (s : OcbSchemaV1) : ℕ := s.columns.length * OcbColumnDescV1.len

theorem OcbSchemaV1.structureFirst (bytes : List UInt8) :
    StructureFirst (readFromBytesWithBudget bytes) (validationPass bytes) materializedBytes := by
  refine .bind (errorsIn_readHeader _ _) fun header _ =>
    .bind ?_ fun ⟨⟨stringTableRef, count⟩, start⟩ _ => ?_
  · exact (structural_readU32.bind fun _ => structural_bodyRef.bind fun _ =>
      structural_readU32.bind fun _ => (structural_recordCount _ _ _ _).bind fun _ => .pure _) _
  refine .bind (errorsIn_readAll
    (structural_validateRecordSequence structural_columnDesc _) _) fun _ hvalid =>
      .bind (errorsIn_checkedMaterializedVecBytes _ _) fun vecBytes hvec => ?_
  obtain ⟨rest, hvalid⟩ := readAll_eq_ok.mp hvalid
  obtain ⟨columns, hread, hlength⟩ := run_validateRecordSequence_eq_ok hvalid
  refine .charge
    (a := { version := header.version, stringTableRef, columns, crc32c := header.crc32c }) ?_ ?_ ?_
    (checkedMaterializedVecBytes_lt hvec)
  · rw [readAll_of_run hread]
    rfl
  · rw [readAll_of_run hread]
    rfl
  · rw [checkedMaterializedVecBytes_eq_ok hvec, materializedBytes, hlength]

/-- The memory that the descriptors of a dictionary index take. -/
def OcbDictionaryIndexV1.materializedBytes (d : OcbDictionaryIndexV1) : ℕ :=
  d.dictionaries.length * OcbDictionaryDescV1.len

theorem OcbDictionaryIndexV1.structureFirst (bytes : List UInt8) :
    StructureFirst (readFromBytesWithBudget bytes) (validationPass bytes) materializedBytes := by
  refine .bind (errorsIn_readHeader _ _) fun header _ => .bind ?_ fun ⟨count, start⟩ _ => ?_
  · exact (structural_readU32.bind fun _ => structural_readU32.bind fun _ =>
      structural_recordCount _ _ _ _) _
  refine .bind (errorsIn_readAll
    (structural_validateRecordSequence structural_dictionaryDesc _) _) fun _ hvalid =>
      .bind (errorsIn_checkedMaterializedVecBytes _ _) fun vecBytes hvec => ?_
  obtain ⟨rest, hvalid⟩ := readAll_eq_ok.mp hvalid
  obtain ⟨dictionaries, hread, hlength⟩ := run_validateRecordSequence_eq_ok hvalid
  refine .charge
    (a := { version := header.version, dictionaries, crc32c := header.crc32c }) ?_ ?_ ?_
    (checkedMaterializedVecBytes_lt hvec)
  · rw [readAll_of_run hread]
    rfl
  · rw [readAll_of_run hread]
    rfl
  · rw [checkedMaterializedVecBytes_eq_ok hvec, materializedBytes, hlength]

/-- The values between accepted offsets are there, and they tile the data between them. -/
lemma run_validateValueOffsets_eq_ok {p : DictionaryValuesPrefix} {n : ℕ}
    {previous last : UInt64} {bytes rest : List UInt8} (data : List UInt8)
    (h : (validateValueOffsets p n previous).run bytes = .ok (last, rest))
    (hdata : last.toNat ≤ data.length) :
    previous.toNat ≤ last.toNat ∧ ∃ values, (readValues data n previous).run bytes =
      .ok (values, rest) ∧ values.length = n ∧
      previous.toNat + values.flatten.length = last.toNat := by
  induction n generalizing previous bytes with
  | zero =>
    cases h
    exact ⟨le_rfl, [], rfl, rfl, by simp⟩
  | succ n ih =>
    obtain ⟨next, _, hnext, h₁⟩ := Decoder.run_bind_eq_ok.mp h
    obtain ⟨_, _, horder, h₂⟩ := Decoder.run_bind_eq_ok.mp h₁
    obtain ⟨_, _, hfixed, h₃⟩ := Decoder.run_bind_eq_ok.mp h₂
    obtain ⟨hnot, rfl⟩ := run_failIf_eq_ok horder
    obtain ⟨-, rfl⟩ := run_failIf_eq_ok hfixed
    have hle : previous.toNat ≤ next.toNat :=
      UInt64.le_iff_toNat_le.mp (UInt64.not_lt.mp (not_or.mp hnot).1)
    obtain ⟨hlast, values, hread, hlength, htile⟩ := ih h₃
    refine ⟨hle.trans hlast, (data.take next.toNat).drop previous.toNat :: values, ?_, ?_, ?_⟩
    · rw [readValues, Decoder.run_bind_of_ok hnext, Decoder.run_bind_of_ok hread]
      rfl
    · rw [List.length_cons, hlength]
    · rw [List.flatten_cons, List.length_append, List.length_drop, List.length_take]
      omega

lemma run_position_checkedPayloadLen_eq_ok {totalLen len n : ℕ} {what : String}
    {bytes rest : List UInt8}
    (h : (position totalLen >>= fun pos => (liftM (checkedPayloadLen totalLen pos len what) :
      Reader ℕ)).run bytes = .ok (n, rest)) :
    n = len ∧ rest = bytes ∧ len ≤ bytes.length := by
  obtain ⟨pos, mid, hpos, h⟩ := Decoder.run_bind_eq_ok.mp h
  cases hpos
  have hrun : (checkedPayloadLen totalLen (totalLen - bytes.length) len what >>=
      fun n => Except.ok (n, bytes)) = .ok (n, rest) := h
  simp only [checkedPayloadLen, remainingBeforeCrc, bind_eq_ok, okOr_eq_ok, failIf_eq_ok,
    pure_eq_ok, Except.ok.injEq, Prod.mk.injEq] at hrun
  obtain ⟨_, ⟨_, ⟨_, hsub, _, hpos, rfl⟩, _, hlen, rfl⟩, rfl, rfl⟩ := hrun
  obtain ⟨rfl, -⟩ := checkedSub_eq_some.mp hsub
  exact ⟨rfl, rfl, by omega⟩

theorem OcbDictionaryValuesV1.structureFirst (bytes : List UInt8) :
    StructureFirst (readFromBytesWithBudget bytes) (validationPass bytes) materializedBytes := by
  rw [readFromBytesWithBudget_eq]
  refine .bind (errorsIn_readHeader _ _) fun header _ =>
    .bind ?_ fun ⟨⟨p, count⟩, start⟩ _ => .bind ?_ fun ⟨dataLen, atData⟩ hdata => ?_
  · exact ((structural_readU16.bind fun _ =>
      (Decoder.ErrorsIn.lift (errorsIn_dictionaryValueKind _)).bind fun _ =>
        structural_readU16.bind fun _ => structural_readU32.bind fun _ =>
          structural_readU32.bind fun _ => structural_readU64.bind fun _ =>
            structural_readU32.bind fun _ => structural_readU32.bind fun _ => .pure _).bind
        fun _ => (structural_okOr (.inl rfl)).bind fun _ =>
          (structural_recordCount _ _ _ _).bind fun _ => .pure _) _
  · exact (structural_readU64.bind fun _ => (structural_failIf (.inl rfl)).bind fun _ =>
      (structural_valueOffsets _ _ _).bind fun _ => (structural_failIf (.inl rfl)).bind fun _ =>
        (structural_position _).bind fun _ =>
          .lift (errorsIn_checkedPayloadLen _ _ _ _)) _
  refine .bind (errorsIn_checkedMaterializedVecBytes _ _) fun vecBytes hvec =>
    .bind (errorsIn_checkedMaterializedSum _) fun retained hretained => ?_
  obtain ⟨first, _, hfirst, h₁⟩ := Decoder.run_bind_eq_ok.mp hdata
  obtain ⟨_, _, hzero, h₂⟩ := Decoder.run_bind_eq_ok.mp h₁
  obtain ⟨last, _, hoffsets, h₃⟩ := Decoder.run_bind_eq_ok.mp h₂
  obtain ⟨_, _, hcover, hlength⟩ := Decoder.run_bind_eq_ok.mp h₃
  obtain ⟨hfirstZero, rfl⟩ := run_failIf_eq_ok hzero
  obtain ⟨hlast, rfl⟩ := run_failIf_eq_ok hcover
  obtain ⟨rfl, rfl, hlen⟩ := run_position_checkedPayloadLen_eq_ok hlength
  rw [not_not] at hfirstZero hlast
  rw [← hlast] at hlen ⊢
  have htake : (atData.take last.toNat).length = last.toNat := by
    rw [List.length_take]
    omega
  obtain ⟨-, values, hread, hlength, htile⟩ :=
    run_validateValueOffsets_eq_ok (atData.take last.toNat) hoffsets htake.ge
  have hreadData : (readData (atData.take last.toNat) count).run start = .ok (values, atData) := by
    rw [readData, Decoder.run_bind_of_ok hfirst, hread]
  refine .charge (a := ⟨header.version, p.valueKind, p.fixedWidth, values, header.crc32c⟩) ?_ ?_
    ?_ (checkedMaterializedSum_lt hretained)
  · rw [readAll_of_run hreadData]
    rfl
  · rw [readAll_of_run hreadData]
    rfl
  · rw [checkedMaterializedSum_eq_ok hretained, checkedMaterializedVecBytes_eq_ok hvec,
      materializedBytes, hlength]
    simp only [List.sum_cons, List.sum_nil]
    rw [hfirstZero, UInt64.toNat_zero, hlast] at htile
    omega

/-- The sections of a row-group index that the first pass accepts are there for the second one. -/
theorem OcbRowGroupIndexV1.structureFirst (bytes : List UInt8) :
    StructureFirst (readFromBytesWithBudget bytes) (validationPass bytes) materializedBytes := by
  refine .bind (errorsIn_readHeader _ _) fun header _ =>
    .bind ?_ fun ⟨⟨groupCount, chunkCount, statCount, flags⟩, start⟩ _ => .bind ?_
      fun ⟨chunkLen, statLen⟩ hvalid => ?_
  · exact (structural_readU32.bind fun _ => structural_readU32.bind fun _ =>
      structural_readU32.bind fun _ => structural_readU32.bind fun _ =>
        structural_readU32.bind fun _ => (structural_recordCount _ _ _ _).bind fun _ => .pure _) _
  · exact errorsIn_readAll
      ((structural_validateRecordSequence structural_rowGroupDesc _).bind fun _ =>
        (structural_recordCount _ _ _ _).bind fun _ =>
          (structural_validateRecordSequence structural_chunkDesc _).bind fun _ =>
            (structural_recordCount _ _ _ _).bind fun _ =>
              (structural_validateRecordSequence structural_columnStats _).bind fun _ =>
                .pure _) _
  refine .bind (errorsIn_checkedMaterializedVecBytes _ _) fun groupBytes hgroup =>
    .bind (errorsIn_checkedMaterializedVecBytes _ _) fun chunkBytes hchunk =>
      .bind (errorsIn_checkedMaterializedVecBytes _ _) fun statBytes hstat =>
        .bind (errorsIn_checkedMaterializedSum _) fun retained hretained => ?_
  obtain ⟨rest, hvalid⟩ := readAll_eq_ok.mp hvalid
  obtain ⟨_, _, hgroups, h₁⟩ := Decoder.run_bind_eq_ok.mp hvalid
  obtain ⟨_, _, hcount₁, h₂⟩ := Decoder.run_bind_eq_ok.mp h₁
  obtain ⟨_, _, hchunks, h₃⟩ := Decoder.run_bind_eq_ok.mp h₂
  obtain ⟨_, _, hcount₂, h₄⟩ := Decoder.run_bind_eq_ok.mp h₃
  obtain ⟨_, _, hstats, hpure⟩ := Decoder.run_bind_eq_ok.mp h₄
  cases hpure
  obtain ⟨-, rfl⟩ := run_recordCount_eq_ok hcount₁
  obtain ⟨-, rfl⟩ := run_recordCount_eq_ok hcount₂
  obtain ⟨rowGroups, hreadGroups, hgroupLen⟩ := run_validateRecordSequence_eq_ok hgroups
  obtain ⟨columnChunks, hreadChunks, hchunkLen⟩ := run_validateRecordSequence_eq_ok hchunks
  obtain ⟨stats, hreadStats, hstatLen⟩ := run_validateRecordSequence_eq_ok hstats
  refine .charge
    (a := ⟨header.version, flags, rowGroups, columnChunks, stats, header.crc32c⟩) rfl ?_ ?_
    (checkedMaterializedSum_lt hretained)
  · refine readAll_of_run (show _ = Except.ok (_, rest) from ?_)
    rw [Decoder.run_bind_of_ok hreadGroups, Decoder.run_bind_of_ok hreadChunks,
      Decoder.run_bind_of_ok hreadStats]
    rfl
  · rw [checkedMaterializedSum_eq_ok hretained, checkedMaterializedVecBytes_eq_ok hgroup,
      checkedMaterializedVecBytes_eq_ok hchunk, checkedMaterializedVecBytes_eq_ok hstat,
      materializedBytes, hgroupLen, hchunkLen, hstatLen]
    simp [Nat.add_assoc]

lemma structural_deltaCounts : Structural DeltaCounts.read :=
  structural_readU32.bind fun _ => structural_readU32.bind fun _ =>
    structural_readU32.bind fun _ => structural_readU32.bind fun _ =>
      structural_readU32.bind fun _ => structural_readU32.bind fun _ =>
        structural_readU32.bind fun _ => structural_readU16.bind fun _ =>
          structural_readU16.bind fun _ => structural_readU32.bind fun _ =>
            structural_readU32.bind fun _ => structural_readU32.bind fun _ => .pure _

lemma structural_validateDeltaSections (totalLen : ℕ) (counts : DeltaCounts) :
    Structural (validateDeltaSections totalLen counts) :=
  (structural_recordCount _ _ _ _).bind fun _ =>
    (structural_validateRecordSequence structural_rowGroupDesc _).bind fun _ =>
  (structural_recordCount _ _ _ _).bind fun _ =>
    (structural_validateRecordSequence structural_chunkDesc _).bind fun _ =>
  (structural_recordCount _ _ _ _).bind fun _ =>
    (structural_validateRecordSequence structural_columnStats _).bind fun _ =>
  (structural_recordCount _ _ _ _).bind fun _ =>
    (structural_validateRecordSequence structural_orderingKey _).bind fun _ =>
  (structural_recordCount _ _ _ _).bind fun _ =>
    (structural_validateRecordSequence structural_orderingProof _).bind fun _ => .pure _

theorem OcbRowGroupIndexDeltaV1.structureFirst (bytes : List UInt8) :
    StructureFirst (readFromBytesWithBudget bytes) (validationPass bytes) materializedBytes := by
  refine .bind (errorsIn_readHeader _ _) fun header _ =>
    .bind (structural_deltaCounts _) fun ⟨counts, start⟩ _ =>
      .bind (errorsIn_readAll (structural_validateDeltaSections _ _) _)
        fun ⟨groupCount, chunkCount, statCount, keyCount, proofCount⟩ hvalid => ?_
  refine .bind (errorsIn_checkedMaterializedVecBytes _ _) fun groupBytes hgroup =>
    .bind (errorsIn_checkedMaterializedVecBytes _ _) fun chunkBytes hchunk =>
      .bind (errorsIn_checkedMaterializedVecBytes _ _) fun statBytes hstat =>
        .bind (errorsIn_checkedMaterializedVecBytes _ _) fun keyBytes hkey =>
          .bind (errorsIn_checkedMaterializedVecBytes _ _) fun proofBytes hproof =>
            .bind (errorsIn_checkedMaterializedSum _) fun retained hretained => ?_
  obtain ⟨rest, hvalid⟩ := readAll_eq_ok.mp hvalid
  obtain ⟨_, _, hcount₁, h₁⟩ := Decoder.run_bind_eq_ok.mp hvalid
  obtain ⟨_, _, hgroups, h₂⟩ := Decoder.run_bind_eq_ok.mp h₁
  obtain ⟨_, _, hcount₂, h₃⟩ := Decoder.run_bind_eq_ok.mp h₂
  obtain ⟨_, _, hchunks, h₄⟩ := Decoder.run_bind_eq_ok.mp h₃
  obtain ⟨_, _, hcount₃, h₅⟩ := Decoder.run_bind_eq_ok.mp h₄
  obtain ⟨_, _, hstats, h₆⟩ := Decoder.run_bind_eq_ok.mp h₅
  obtain ⟨_, _, hcount₄, h₇⟩ := Decoder.run_bind_eq_ok.mp h₆
  obtain ⟨_, _, hkeys, h₈⟩ := Decoder.run_bind_eq_ok.mp h₇
  obtain ⟨_, _, hcount₅, h₉⟩ := Decoder.run_bind_eq_ok.mp h₈
  obtain ⟨_, _, hproofs, hpure⟩ := Decoder.run_bind_eq_ok.mp h₉
  cases hpure
  obtain ⟨-, rfl⟩ := run_recordCount_eq_ok hcount₁
  obtain ⟨-, rfl⟩ := run_recordCount_eq_ok hcount₂
  obtain ⟨-, rfl⟩ := run_recordCount_eq_ok hcount₃
  obtain ⟨-, rfl⟩ := run_recordCount_eq_ok hcount₄
  obtain ⟨-, rfl⟩ := run_recordCount_eq_ok hcount₅
  obtain ⟨rowGroups, hreadGroups, hgroupLen⟩ := run_validateRecordSequence_eq_ok hgroups
  obtain ⟨columnChunks, hreadChunks, hchunkLen⟩ := run_validateRecordSequence_eq_ok hchunks
  obtain ⟨stats, hreadStats, hstatLen⟩ := run_validateRecordSequence_eq_ok hstats
  obtain ⟨orderingKeys, hreadKeys, hkeyLen⟩ := run_validateRecordSequence_eq_ok hkeys
  obtain ⟨proofs, hreadProofs, hproofLen⟩ := run_validateRecordSequence_eq_ok hproofs
  refine .charge (a := ⟨header.version, counts.flags, counts.baseRowGroupCount,
    counts.baseColumnChunkCount, counts.baseStatCount, counts.baseOrderingProofCount, rowGroups,
    columnChunks, stats, orderingKeys, proofs, header.crc32c⟩) rfl ?_ ?_
    (checkedMaterializedSum_lt hretained)
  · refine readAll_of_run (show _ = Except.ok (_, rest) from ?_)
    rw [Decoder.run_bind_of_ok hreadGroups, Decoder.run_bind_of_ok hreadChunks,
      Decoder.run_bind_of_ok hreadStats, Decoder.run_bind_of_ok hreadKeys,
      Decoder.run_bind_of_ok hreadProofs]
    rfl
  · rw [checkedMaterializedSum_eq_ok hretained, checkedMaterializedVecBytes_eq_ok hgroup,
      checkedMaterializedVecBytes_eq_ok hchunk, checkedMaterializedVecBytes_eq_ok hstat,
      checkedMaterializedVecBytes_eq_ok hkey, checkedMaterializedVecBytes_eq_ok hproof,
      materializedBytes, hgroupLen, hchunkLen, hstatLen, hkeyLen, hproofLen]
    simp [Nat.add_assoc]

theorem OcbOrderingProofV1.structureFirst (bytes : List UInt8) :
    StructureFirst (readFromBytesWithBudget bytes) (validationPass bytes) materializedBytes := by
  refine .bind (errorsIn_readHeader _ _) fun header _ =>
    .bind ?_ fun ⟨⟨keyCount, groupCount, flags⟩, start⟩ _ => .bind ?_ fun proofCount hvalid => ?_
  · exact (structural_readU16.bind fun _ => structural_readU16.bind fun _ =>
      structural_readU32.bind fun _ => structural_readU64.bind fun _ =>
        (structural_recordCount _ _ _ _).bind fun _ => .pure _) _
  · exact errorsIn_readAll
      ((structural_validateRecordSequence structural_orderingKey _).bind fun _ =>
        (structural_recordCount _ _ _ _).bind fun _ =>
          (structural_validateRecordSequence structural_orderingProof _).bind fun _ => .pure _) _
  refine .bind (errorsIn_checkedMaterializedVecBytes _ _) fun keyBytes hkey =>
    .bind (errorsIn_checkedMaterializedVecBytes _ _) fun proofBytes hproof =>
      .bind (errorsIn_checkedMaterializedSum _) fun retained hretained => ?_
  obtain ⟨rest, hvalid⟩ := readAll_eq_ok.mp hvalid
  obtain ⟨_, _, hkeys, h₁⟩ := Decoder.run_bind_eq_ok.mp hvalid
  obtain ⟨_, _, hcount, h₂⟩ := Decoder.run_bind_eq_ok.mp h₁
  obtain ⟨_, _, hproofs, hpure⟩ := Decoder.run_bind_eq_ok.mp h₂
  cases hpure
  obtain ⟨-, rfl⟩ := run_recordCount_eq_ok hcount
  obtain ⟨keys, hreadKeys, hkeyLen⟩ := run_validateRecordSequence_eq_ok hkeys
  obtain ⟨proofs, hreadProofs, hproofLen⟩ := run_validateRecordSequence_eq_ok hproofs
  refine .charge (a := ⟨header.version, flags, keys, proofs, header.crc32c⟩) rfl ?_ ?_
    (checkedMaterializedSum_lt hretained)
  · refine readAll_of_run (show _ = Except.ok (_, rest) from ?_)
    rw [Decoder.run_bind_of_ok hreadKeys, Decoder.run_bind_of_ok hreadProofs]
    rfl
  · rw [checkedMaterializedSum_eq_ok hretained, checkedMaterializedVecBytes_eq_ok hkey,
      checkedMaterializedVecBytes_eq_ok hproof, materializedBytes, hkeyLen, hproofLen]
    simp

/-! ### Exact charging -/

/-- How a decoder answers on every budget, by what its validation pass says about the bytes. -/
structure ChargesExactly {α : Type} (read : Metered α) (validate : Result (ValidationPass α))
    (retained : α → ℕ) : Prop where
  /-- Malformed bytes: a structural error, and every budget is left as it is. -/
  malformed : ∀ e, validate = .error e → e.IsStructural ∧
    ∀ budget, read.run budget = (.error e, budget)
  /-- Well-formed bytes: the materializing pass returns a value, the price is what this value
  retains, and it is charged exactly when it fits. -/
  wellFormed : ∀ pass, validate = .ok pass → pass.retainedBytes < 2 ^ 64 ∧
    ∃ a, pass.materialize = .ok a ∧ pass.retainedBytes = retained a ∧
      ∀ budget : MetadataMaterializationBudget,
        (budget.limitBytes < budget.chargedBytes + retained a →
          ∃ e : ArcadiaTioError, e.ocbFailureCause = some .invalidInput ∧
            read.run budget = (.error e, budget)) ∧
        (budget.chargedBytes + retained a ≤ budget.limitBytes →
          ∃ budget' : MetadataMaterializationBudget, read.run budget = (.ok a, budget') ∧
            budget'.chargedBytes = budget.chargedBytes + retained a ∧
            budget'.limitBytes = budget.limitBytes)
  charged_le : ∀ budget, (read.run budget).2.chargedBytes ≤ (read.run budget).2.limitBytes

/-- A charge that fits is added. -/
lemma run_charge_of_le {budget : MetadataMaterializationBudget} {n : ℕ}
    (h : budget.chargedBytes + n ≤ budget.limitBytes) :
    (MetadataMaterializationBudget.charge n).run budget =
      (.ok (), { budget with chargedBytes := budget.chargedBytes + n, charged_le := h }) := by
  have hlt := budget.limit_lt
  rw [MetadataMaterializationBudget.charge]
  simp only [checkedAdd_of_lt (show budget.chargedBytes + n < 2 ^ 64 by omega), h, dif_pos]

/-- A charge that does not fit is refused and changes nothing. -/
lemma run_charge_of_lt {budget : MetadataMaterializationBudget} {n : ℕ}
    (h : budget.limitBytes < budget.chargedBytes + n) :
    (MetadataMaterializationBudget.charge n).run budget =
      (.error (ocbInvalidInput "OCB open metadata materialization exceeds resource limit"),
        budget) := by
  rw [MetadataMaterializationBudget.charge]
  cases hadd : checkedAdd 64 budget.chargedBytes n with
  | none => simp only [hadd]
  | some charged =>
    obtain ⟨rfl, -⟩ := checkedAdd_eq_some.mp hadd
    have hnot : ¬ budget.chargedBytes + n ≤ budget.limitBytes := by omega
    simp only [hadd, dif_neg hnot]

lemma StructureFirst.chargesExactly {α : Type} {read : Metered α}
    {validate : Result (ValidationPass α)} {retained : α → ℕ}
    (h : StructureFirst read validate retained) : ChargesExactly read validate retained where
  malformed e he := by
    refine ⟨h.structural e he, fun budget => ?_⟩
    rw [h.read_eq, he]
    rfl
  wellFormed pass hpass := by
    obtain ⟨hlt, a, hm, hn⟩ := h.materializes pass hpass
    refine ⟨hlt, a, hm, hn, fun budget => ?_⟩
    rw [h.read_eq, hpass, Fallible.lift_ok_bind, hm, hn]
    constructor
    · intro hover
      exact ⟨_, rfl, Fallible.run_bind_of_error (run_charge_of_lt hover)⟩
    · intro hfits
      exact ⟨_, Fallible.run_bind_of_ok (run_charge_of_le hfits), rfl, rfl⟩
  charged_le budget := (read.run budget).2.charged_le

/-- Every metadata decoder checks the structure of its object first, and then charges its budget
for exactly what the decoded value retains. -/
theorem metadata_decoders_chargeExactly (bytes : List UInt8) :
    ChargesExactly (OcbStringTableV1.readFromBytesWithBudget bytes)
      (OcbStringTableV1.validationPass bytes) OcbStringTableV1.materializedBytes ∧
    ChargesExactly (OcbSchemaV1.readFromBytesWithBudget bytes)
      (OcbSchemaV1.validationPass bytes) OcbSchemaV1.materializedBytes ∧
    ChargesExactly (OcbDictionaryIndexV1.readFromBytesWithBudget bytes)
      (OcbDictionaryIndexV1.validationPass bytes) OcbDictionaryIndexV1.materializedBytes ∧
    ChargesExactly (OcbDictionaryValuesV1.readFromBytesWithBudget bytes)
      (OcbDictionaryValuesV1.validationPass bytes) OcbDictionaryValuesV1.materializedBytes ∧
    ChargesExactly (OcbRowGroupIndexV1.readFromBytesWithBudget bytes)
      (OcbRowGroupIndexV1.validationPass bytes) OcbRowGroupIndexV1.materializedBytes ∧
    ChargesExactly (OcbRowGroupIndexDeltaV1.readFromBytesWithBudget bytes)
      (OcbRowGroupIndexDeltaV1.validationPass bytes) OcbRowGroupIndexDeltaV1.materializedBytes ∧
    ChargesExactly (OcbOrderingProofV1.readFromBytesWithBudget bytes)
      (OcbOrderingProofV1.validationPass bytes) OcbOrderingProofV1.materializedBytes :=
  ⟨(OcbStringTableV1.structureFirst bytes).chargesExactly,
    (OcbSchemaV1.structureFirst bytes).chargesExactly,
    (OcbDictionaryIndexV1.structureFirst bytes).chargesExactly,
    (OcbDictionaryValuesV1.structureFirst bytes).chargesExactly,
    (OcbRowGroupIndexV1.structureFirst bytes).chargesExactly,
    (OcbRowGroupIndexDeltaV1.structureFirst bytes).chargesExactly,
    (OcbOrderingProofV1.structureFirst bytes).chargesExactly⟩

end ArcadiaTio.Ocb
