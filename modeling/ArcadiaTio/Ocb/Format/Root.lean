import ArcadiaTio.Ocb.Format.BodyRef

/-!
# Bootstrap pages, root slots and roots

The fixed-size objects at the head of a file.  A V1 file starts with a bootstrap page that
points at its only root.  The bootstrap page of a V2 file carries a table of two root slots,
each with its own checksum; a slot names a root object together with the generation it commits,
and repeats some of the root's fields so that a torn commit is noticed
(`OcbRootSlotV2.validateRoot`).
-/

namespace ArcadiaTio.Ocb

open ArcadiaTio.Lib

/-- The length of the page at the start of a file. -/
def ocbBootstrapPageLen : ℕ := 4096

/-- The root slots of a page. -/
def ocbRootSlotV2Count : ℕ := 2

/-- The length of a root slot. -/
def ocbRootSlotV2Len : ℕ := 160

/-- Where the root slots begin. -/
def ocbRootSlotTableV2Offset : ℕ := 64

/-- The length of all root slots. -/
def ocbRootSlotTableV2Len : ℕ := ocbRootSlotV2Count * ocbRootSlotV2Len

/-- The length of a root of the first version. -/
def ocbRootV1Len : ℕ := 220

/-- The length of a root of the second version. -/
def ocbRootV2Len : ℕ := 456

/-- The ASCII bytes `TIOOCB1\0`. -/
def ocbBootstrapMagicV1 : List UInt8 := [84, 73, 79, 79, 67, 66, 49, 0]
/-- The ASCII bytes `TIOOCB2\0`. -/
def ocbBootstrapMagicV2 : List UInt8 := [84, 73, 79, 79, 67, 66, 50, 0]
/-- The ASCII bytes `OCBROOT1`. -/
def ocbRootMagicV1 : List UInt8 := [79, 67, 66, 82, 79, 79, 84, 49]
/-- The ASCII bytes `OCBROOT2`. -/
def ocbRootMagicV2 : List UInt8 := [79, 67, 66, 82, 79, 79, 84, 50]
/-- The ASCII bytes `OCBSLT2\0`. -/
def ocbRootSlotMagicV2 : List UInt8 := [79, 67, 66, 83, 76, 84, 50, 0]

/-! ### Checksummed objects of a fixed size -/

/-- Store the checksum of an object in its trailing field. -/
def sealBytes (buf : List UInt8) : List UInt8 := writeU32AtEnd buf (crc32c buf)

/-- Sealing changes the last four bytes only. -/
lemma take_sealBytes {buf : List UInt8} {n : ℕ} (h : n + 4 ≤ buf.length) :
    (sealBytes buf).take n = buf.take n := by
  have hlength : (buf.take (buf.length - 4)).length = buf.length - 4 := by
    rw [List.length_take]
    omega
  rw [sealBytes, writeU32AtEnd, List.take_append_of_le_length (by omega), List.take_take,
    Nat.min_eq_left (by omega)]

/-- Read an object of `len` bytes: its checksum is verified first, and only then is the body
decoded, from the bytes with the checksum field zeroed. -/
def readChecksummed {α : Type} (len : ℕ) (crcMessage : String) (body : UInt32 → Reader α)
    (bytes : List UInt8) : Result α := do
  let buf ← readAll (readExactOcb len) bytes
  let actualCrc ← readU32AtEnd buf
  failIf (actualCrc ≠ crc32cZeroedAtEnd buf) (ocbCorruptFile crcMessage)
  readAll (body actualCrc) (writeU32AtEnd buf 0)

/-- The eight magic bytes of an object. -/
def readMagic (magic : List UInt8) (message : String) : Reader Unit := do
  let found ← readExactOcb 8
  failIf (found ≠ magic) (ocbCorruptFile message)

section Sealed

variable (fields : List UInt8)

lemma writeU32AtEnd_sealBytes :
    writeU32AtEnd (sealBytes (fields ++ writeU32 0)) 0 = fields ++ writeU32 0 := by
  rw [sealBytes, writeU32AtEnd_writeU32AtEnd (by simp), writeU32AtEnd_append_writeU32]

lemma readU32AtEnd_sealBytes :
    readU32AtEnd (sealBytes (fields ++ writeU32 0)) = .ok (crc32c (fields ++ writeU32 0)) := by
  rw [sealBytes, readU32AtEnd_writeU32AtEnd (by simp)]

lemma crc32cZeroedAtEnd_sealBytes :
    crc32cZeroedAtEnd (sealBytes (fields ++ writeU32 0)) = crc32c (fields ++ writeU32 0) := by
  rw [crc32cZeroedAtEnd, writeU32AtEnd_sealBytes]

@[simp] lemma length_sealBytes :
    (sealBytes (fields ++ writeU32 0)).length = fields.length + 4 := by
  rw [sealBytes, length_writeU32AtEnd (by simp)]
  simp

end Sealed

/-- Reading an object that ends in the checksum of its zeroed form decodes the zeroed form. -/
lemma readChecksummed_sealBytes {α : Type} {len : ℕ} {msg : String} {body : UInt32 → Reader α}
    {fields : List UInt8} (hlen : (fields ++ writeU32 0).length = len) :
    readChecksummed len msg body (sealBytes (fields ++ writeU32 0)) =
      readAll (body (crc32c (fields ++ writeU32 0))) (fields ++ writeU32 0) := by
  have hread : readAll (readExactOcb len) (sealBytes (fields ++ writeU32 0)) =
      .ok (sealBytes (fields ++ writeU32 0)) := by
    have hl : (sealBytes (fields ++ writeU32 0)).length = len := by simpa using hlen
    rw [readAll, readExactOcb, Decoder.run_take_all hl]
    rfl
  have hmatch : ¬ crc32c (fields ++ writeU32 0) ≠
      crc32cZeroedAtEnd (sealBytes (fields ++ writeU32 0)) := by
    rw [crc32cZeroedAtEnd_sealBytes]
    exact not_not.mpr rfl
  rw [readChecksummed, hread, ok_bind, readU32AtEnd_sealBytes, ok_bind, failIf_neg hmatch, ok_bind,
    writeU32AtEnd_sealBytes]

lemma run_readMagic_bind {α : Type} {magic rest : List UInt8} {msg : String} {f : Unit → Reader α}
    (h : magic.length = 8) : (readMagic magic msg >>= f).run (magic ++ rest) = (f ()).run rest := by
  rw [readMagic, bind_assoc, run_readExactOcb_bind h]
  exact run_failIf_bind (not_not.mpr rfl)

/-! ### The V1 bootstrap page -/

/-- The page at the start of a file of the first version. -/
structure OcbBootstrapPageV1 where
  formatMajor : UInt16
  formatMinor : UInt16
  flags : UInt32
  pageSize : UInt32
  fileUuid : List UInt8
  rootRef : OcbBodyRefV2
  crc32c : UInt32
deriving DecidableEq

namespace OcbBootstrapPageV1

/-- Decode a V1 bootstrap page with its checksum. -/
def readFrom (bytes : List UInt8) : Result OcbBootstrapPageV1 :=
  readChecksummed ocbBootstrapPageLen "OCB bootstrap crc mismatch" (fun crc32c => do
    readMagic ocbBootstrapMagicV1 "invalid OCB bootstrap magic"
    let formatMajor ← readU16
    let formatMinor ← readU16
    failIf (formatMajor ≠ 1 ∨ formatMinor > 0)
      (ocbUnsupportedFormat "unsupported OCB bootstrap format version")
    let flags ← readU32
    let pageSize ← readU32
    failIf (pageSize.toNat ≠ ocbBootstrapPageLen)
      (ocbCorruptFile "invalid OCB bootstrap page size")
    let fileUuid ← readExactOcb 16
    let rootRef ← OcbBodyRefV2.read
    return { formatMajor, formatMinor, flags, pageSize, fileUuid, rootRef, crc32c }) bytes

/-- The bytes of a page with its checksum field zero. -/
def fieldBytes (page : OcbBootstrapPageV1) : List UInt8 :=
  ocbBootstrapMagicV1 ++ writeU16 page.formatMajor ++ writeU16 page.formatMinor ++
    writeU32 page.flags ++ writeU32 page.pageSize ++ page.fileUuid ++ page.rootRef.write ++
    List.replicate (ocbBootstrapPageLen - 4 - 68) 0 ++ writeU32 0

/-- Encode a V1 bootstrap page that may be written, with its checksum field zero. -/
def encodeWithoutChecksum (page : OcbBootstrapPageV1) : Result (List UInt8) := do
  failIf (page.pageSize.toNat ≠ ocbBootstrapPageLen)
    (ocbInvalidInput "OCB bootstrap page_size must match reserved bootstrap page length")
  failIf (¬ page.rootRef.IsNull ∧ page.rootRef.kind ≠ .root)
    (ocbInvalidInput "OCB bootstrap root_ref must reference root object")
  return page.fieldBytes

/-- Encode a V1 bootstrap page with its checksum. -/
def writeTo (page : OcbBootstrapPageV1) : Result (List UInt8) :=
  sealBytes <$> page.encodeWithoutChecksum

lemma fieldBytes_length (page : OcbBootstrapPageV1) (huuid : page.fileUuid.length = 16) :
    page.fieldBytes.length = ocbBootstrapPageLen := by
  simp only [fieldBytes, List.length_append, OcbBodyRefV2.write_length, writeU16_length,
    writeU32_length, huuid, List.length_replicate]
  rfl

lemma length_sealBytes_fieldBytes (page : OcbBootstrapPageV1) (huuid : page.fileUuid.length = 16) :
    (sealBytes page.fieldBytes).length = ocbBootstrapPageLen := by
  rw [sealBytes, length_writeU32AtEnd (by rw [page.fieldBytes_length huuid]; decide),
    page.fieldBytes_length huuid]

/-- A page starts with the magic bytes of its version. -/
lemma take_sealBytes_fieldBytes (page : OcbBootstrapPageV1) (huuid : page.fileUuid.length = 16) :
    (sealBytes page.fieldBytes).take 8 = ocbBootstrapMagicV1 := by
  rw [sealBytes, writeU32AtEnd, page.fieldBytes_length huuid, List.take_append_of_le_length
    (by rw [List.length_take, page.fieldBytes_length huuid]; decide), List.take_take]
  simp only [fieldBytes, List.append_assoc]
  exact List.take_left' rfl

/-- A page with the checksum of its bytes. -/
def sealed (page : OcbBootstrapPageV1) : OcbBootstrapPageV1 :=
  { page with crc32c := Ocb.crc32c page.fieldBytes }

/-- Reading a sealed page of version 1.0 gives the page back. -/
lemma readFrom_sealBytes (page : OcbBootstrapPageV1) (hmajor : page.formatMajor = 1)
    (hminor : page.formatMinor = 0) (hsize : page.pageSize.toNat = ocbBootstrapPageLen)
    (huuid : page.fileUuid.length = 16) :
    readFrom (sealBytes page.fieldBytes) = .ok page.sealed := by
  rw [sealed]
  have hlen := page.fieldBytes_length huuid
  rw [fieldBytes] at hlen ⊢
  rw [readFrom, readChecksummed_sealBytes hlen]
  have hversion : ¬ (page.formatMajor ≠ 1 ∨ page.formatMinor > 0) := by
    rw [hmajor, hminor]
    decide
  simp only [readAll, List.append_assoc,
    run_readMagic_bind (show ocbBootstrapMagicV1.length = 8 by rfl), run_readU16_bind,
    run_readU32_bind, OcbBodyRefV2.run_read_bind, run_readExactOcb_bind huuid,
    run_failIf_bind hversion, run_failIf_bind (not_not.mpr hsize)]
  rfl

end OcbBootstrapPageV1

/-! ### V2 roots -/

/-- A root of the second version: the snapshot that it describes and its objects. -/
structure OcbRootV2 where
  version : UInt16
  flags : UInt32
  generation : UInt64
  previousGeneration : UInt64
  previousRootRef : OcbBodyRefV2
  appendBaseRow : UInt64
  appendRowCount : UInt64
  appendBaseRowGroup : UInt32
  appendRowGroupCount : UInt32
  rowCount : UInt64
  columnCount : UInt32
  rowGroupCount : UInt32
  dictionaryCount : UInt32
  columnChunkCount : UInt32
  schemaRef : OcbBodyRefV2
  dictionaryIndexRef : OcbBodyRefV2
  rowGroupIndexRef : OcbBodyRefV2
  orderingProofRef : OcbBodyRefV2
  debugJsonRef : OcbBodyRefV2
  firstKeyTupleRef : OcbBodyRefV2
  lastKeyTupleRef : OcbBodyRefV2
  appendFirstKeyTupleRef : OcbBodyRefV2
  appendLastKeyTupleRef : OcbBodyRefV2
  commitDiagnosticsRef : OcbBodyRefV2
  createdUnixNanos : UInt64
  contentFlags : UInt64
  crc32c : UInt32
deriving DecidableEq

/-- A root of the first version: the counts of a file and its objects. -/
structure OcbRootV1 where
  version : UInt16
  flags : UInt32
  rowCount : UInt64
  columnCount : UInt32
  rowGroupCount : UInt32
  dictionaryCount : UInt32
  schemaRef : OcbBodyRefV2
  dictionaryIndexRef : OcbBodyRefV2
  rowGroupIndexRef : OcbBodyRefV2
  orderingProofRef : OcbBodyRefV2
  debugJsonRef : OcbBodyRefV2
  createdUnixNanos : UInt64
  contentFlags : UInt64
  crc32c : UInt32
deriving DecidableEq

namespace OcbRootV1

/-- Decode a V1 root with its checksum. -/
def readFrom (bytes : List UInt8) : Result OcbRootV1 :=
  readChecksummed ocbRootV1Len "OCB root crc mismatch" (fun crc32c => do
    readMagic ocbRootMagicV1 "invalid OCB root magic"
    let version ← readU16
    failIf (version ≠ 1) (ocbUnsupportedFormat "unsupported OCB root version")
    let headerBytes ← readU16
    failIf (headerBytes.toNat ≠ ocbRootV1Len) (ocbCorruptFile "invalid OCB root header length")
    let flags ← readU32
    let rowCount ← readU64
    let columnCount ← readU32
    let rowGroupCount ← readU32
    let dictionaryCount ← readU32
    let _reserved0 ← readU32
    let schemaRef ← OcbBodyRefV2.read
    let dictionaryIndexRef ← OcbBodyRefV2.read
    let rowGroupIndexRef ← OcbBodyRefV2.read
    let orderingProofRef ← OcbBodyRefV2.read
    let debugJsonRef ← OcbBodyRefV2.read
    let createdUnixNanos ← readU64
    let contentFlags ← readU64
    return {
      version, flags, rowCount, columnCount, rowGroupCount, dictionaryCount, schemaRef,
      dictionaryIndexRef, rowGroupIndexRef, orderingProofRef, debugJsonRef, createdUnixNanos,
      contentFlags, crc32c }) bytes

/-- The bytes of a root with its checksum field zero. -/
def fieldBytes (r : OcbRootV1) : List UInt8 :=
  ocbRootMagicV1 ++ writeU16 r.version ++ writeU16 ocbRootV1Len.toUInt16 ++ writeU32 r.flags ++
    writeU64 r.rowCount ++ writeU32 r.columnCount ++ writeU32 r.rowGroupCount ++
    writeU32 r.dictionaryCount ++ writeU32 0 ++ r.schemaRef.write ++ r.dictionaryIndexRef.write ++
    r.rowGroupIndexRef.write ++ r.orderingProofRef.write ++ r.debugJsonRef.write ++
    writeU64 r.createdUnixNanos ++ writeU64 r.contentFlags ++ writeU32 0

/-- Encode a V1 root that may be written, with its checksum field zero. -/
def encodeWithoutChecksum (r : OcbRootV1) : Result (List UInt8) := do
  failIf (r.schemaRef.kind ≠ .schema)
    (ocbInvalidInput "OCB root schema_ref must reference schema")
  failIf (r.rowGroupIndexRef.kind ≠ .rowGroupIndex)
    (ocbInvalidInput "OCB root row_group_index_ref must reference row-group index")
  validateOptionalRefKind r.dictionaryIndexRef .dictionaryIndex
    "OCB root dictionary_index_ref must reference dictionary index"
  validateOptionalRefKind r.orderingProofRef .orderingProof
    "OCB root ordering_proof_ref must reference ordering proof"
  validateOptionalRefKind r.debugJsonRef .debugJsonMetadata
    "OCB root debug_json_ref must reference debug JSON metadata"
  return r.fieldBytes

/-- Encode a V1 root with its checksum. -/
def writeTo (r : OcbRootV1) : Result (List UInt8) := sealBytes <$> r.encodeWithoutChecksum

lemma fieldBytes_length (r : OcbRootV1) : r.fieldBytes.length = ocbRootV1Len := by
  simp only [fieldBytes, List.length_append, OcbBodyRefV2.write_length, writeU16_length,
    writeU32_length, writeU64_length]
  rfl

lemma length_sealBytes_fieldBytes (r : OcbRootV1) :
    (sealBytes r.fieldBytes).length = ocbRootV1Len := by
  rw [sealBytes, length_writeU32AtEnd (by rw [r.fieldBytes_length]; decide), r.fieldBytes_length]

/-- A root with the checksum of its bytes. -/
def sealed (r : OcbRootV1) : OcbRootV1 := { r with crc32c := Ocb.crc32c r.fieldBytes }

/-- Reading a sealed root of version 1 gives the root back. -/
lemma readFrom_sealBytes (r : OcbRootV1) (hversion : r.version = 1) :
    readFrom (sealBytes r.fieldBytes) = .ok r.sealed := by
  rw [sealed]
  have hlen := r.fieldBytes_length
  rw [fieldBytes] at hlen ⊢
  rw [readFrom, readChecksummed_sealBytes hlen]
  have hheader : ¬ (UInt16.toNat (Nat.toUInt16 ocbRootV1Len) ≠ ocbRootV1Len) := by decide
  simp only [readAll, List.append_assoc, run_readMagic_bind (show ocbRootMagicV1.length = 8 by rfl),
    run_readU16_bind, run_readU32_bind, run_readU64_bind, OcbBodyRefV2.run_read_bind,
    run_failIf_bind (not_not.mpr hversion), run_failIf_bind hheader]
  rfl

end OcbRootV1

namespace OcbRootV2

/-- Decode a V2 root with its checksum. -/
def readFrom (bytes : List UInt8) : Result OcbRootV2 :=
  readChecksummed ocbRootV2Len "OCB root crc mismatch" (fun crc32c => do
    readMagic ocbRootMagicV2 "invalid OCB root magic"
    let version ← readU16
    failIf (version ≠ 2) (ocbUnsupportedFormat "unsupported OCB root version")
    let headerBytes ← readU16
    failIf (headerBytes.toNat ≠ ocbRootV2Len) (ocbCorruptFile "invalid OCB root header length")
    let flags ← readU32
    let generation ← readU64
    let previousGeneration ← readU64
    let previousRootRef ← OcbBodyRefV2.read
    let appendBaseRow ← readU64
    let appendRowCount ← readU64
    let appendBaseRowGroup ← readU32
    let appendRowGroupCount ← readU32
    let rowCount ← readU64
    let columnCount ← readU32
    let rowGroupCount ← readU32
    let dictionaryCount ← readU32
    let columnChunkCount ← readU32
    let schemaRef ← OcbBodyRefV2.read
    let dictionaryIndexRef ← OcbBodyRefV2.read
    let rowGroupIndexRef ← OcbBodyRefV2.read
    let orderingProofRef ← OcbBodyRefV2.read
    let debugJsonRef ← OcbBodyRefV2.read
    let firstKeyTupleRef ← OcbBodyRefV2.read
    let lastKeyTupleRef ← OcbBodyRefV2.read
    let appendFirstKeyTupleRef ← OcbBodyRefV2.read
    let appendLastKeyTupleRef ← OcbBodyRefV2.read
    let commitDiagnosticsRef ← OcbBodyRefV2.read
    let createdUnixNanos ← readU64
    let contentFlags ← readU64
    let _reserved0 ← readU32
    return {
      version, flags, generation, previousGeneration, previousRootRef, appendBaseRow,
      appendRowCount, appendBaseRowGroup, appendRowGroupCount, rowCount, columnCount,
      rowGroupCount, dictionaryCount, columnChunkCount, schemaRef, dictionaryIndexRef,
      rowGroupIndexRef, orderingProofRef, debugJsonRef, firstKeyTupleRef, lastKeyTupleRef,
      appendFirstKeyTupleRef, appendLastKeyTupleRef, commitDiagnosticsRef, createdUnixNanos,
      contentFlags, crc32c }) bytes

/-- A first root without rows and without any of the optional objects. -/
def ofSchema (generation : UInt64) (schemaRef rowGroupIndexRef : OcbBodyRefV2) : OcbRootV2 where
  version := 2
  flags := 0
  generation := generation
  previousGeneration := 0
  previousRootRef := .null
  appendBaseRow := 0
  appendRowCount := 0
  appendBaseRowGroup := 0
  appendRowGroupCount := 0
  rowCount := 0
  columnCount := 0
  rowGroupCount := 0
  dictionaryCount := 0
  columnChunkCount := 0
  schemaRef := schemaRef
  dictionaryIndexRef := .null
  rowGroupIndexRef := rowGroupIndexRef
  orderingProofRef := .null
  debugJsonRef := .null
  firstKeyTupleRef := .null
  lastKeyTupleRef := .null
  appendFirstKeyTupleRef := .null
  appendLastKeyTupleRef := .null
  commitDiagnosticsRef := .null
  createdUnixNanos := 0
  contentFlags := 0
  crc32c := 0

/-- The kind half of the reference check; every failure of it is *invalid input*. -/
def validateRefKinds (r : OcbRootV2) : Result Unit := do
  failIf (r.schemaRef.kind ≠ .schema)
    (ocbInvalidInput "OCB root schema_ref must reference schema")
  failIf (r.rowGroupIndexRef.kind ≠ .rowGroupIndex)
    (ocbInvalidInput "OCB root row_group_index_ref must reference row-group index")
  validateOptionalRefKind r.dictionaryIndexRef .dictionaryIndex
    "OCB root dictionary_index_ref must reference dictionary index"
  validateOptionalRefKind r.orderingProofRef .orderingProof
    "OCB root ordering_proof_ref must reference ordering proof"
  validateOptionalRefKind r.debugJsonRef .debugJsonMetadata
    "OCB root debug_json_ref must reference debug JSON metadata"
  validateOptionalRefKind r.firstKeyTupleRef .keyTuple
    "OCB root first_key_tuple_ref must reference key tuple"
  validateOptionalRefKind r.lastKeyTupleRef .keyTuple
    "OCB root last_key_tuple_ref must reference key tuple"
  validateOptionalRefKind r.appendFirstKeyTupleRef .keyTuple
    "OCB root append_first_key_tuple_ref must reference key tuple"
  validateOptionalRefKind r.appendLastKeyTupleRef .keyTuple
    "OCB root append_last_key_tuple_ref must reference key tuple"
  validateOptionalRefKinds r.commitDiagnosticsRef [.debugJsonMetadata, .rowGroupIndexDelta]
    "OCB root commit_diagnostics_ref must reference debug JSON metadata or row-group index delta"
  validateOptionalRefKind r.previousRootRef .root
    "OCB root previous_root_ref must reference root object"

/-- The range half of the reference check. -/
def validateRefRanges (r : OcbRootV2) (fileLen : ℕ) : Result Unit := do
  r.schemaRef.validate .schema fileLen
  r.rowGroupIndexRef.validate .rowGroupIndex fileLen
  validateOptionalRef r.dictionaryIndexRef .dictionaryIndex fileLen
  validateOptionalRef r.orderingProofRef .orderingProof fileLen
  validateOptionalRef r.debugJsonRef .debugJsonMetadata fileLen
  validateOptionalRef r.firstKeyTupleRef .keyTuple fileLen
  validateOptionalRef r.lastKeyTupleRef .keyTuple fileLen
  validateOptionalRef r.appendFirstKeyTupleRef .keyTuple fileLen
  validateOptionalRef r.appendLastKeyTupleRef .keyTuple fileLen
  validateOptionalRefAnyKind r.commitDiagnosticsRef [.debugJsonMetadata, .rowGroupIndexDelta]
    fileLen
  validateOptionalRef r.previousRootRef .root fileLen

/-- Check every reference of a root: first all the kinds, then all the ranges. -/
def validateReferences (r : OcbRootV2) (fileLen : ℕ) : Result Unit := do
  r.validateRefKinds
  r.validateRefRanges fileLen

/-- The fields that a V2 root shares with the V1 root. -/
def toV1Root (r : OcbRootV2) : OcbRootV1 where
  version := 1
  flags := r.flags
  rowCount := r.rowCount
  columnCount := r.columnCount
  rowGroupCount := r.rowGroupCount
  dictionaryCount := r.dictionaryCount
  schemaRef := r.schemaRef
  dictionaryIndexRef := r.dictionaryIndexRef
  rowGroupIndexRef := r.rowGroupIndexRef
  orderingProofRef := r.orderingProofRef
  debugJsonRef := r.debugJsonRef
  createdUnixNanos := r.createdUnixNanos
  contentFlags := r.contentFlags
  crc32c := r.crc32c

/-- The bytes of the counts of a root. -/
def countBytes (r : OcbRootV2) : List UInt8 :=
  writeU64 r.appendBaseRow ++ writeU64 r.appendRowCount ++ writeU32 r.appendBaseRowGroup ++
    writeU32 r.appendRowGroupCount ++ writeU64 r.rowCount ++ writeU32 r.columnCount ++
    writeU32 r.rowGroupCount ++ writeU32 r.dictionaryCount ++ writeU32 r.columnChunkCount

/-- The bytes of the references of a root. -/
def refBytes (r : OcbRootV2) : List UInt8 :=
  r.schemaRef.write ++ r.dictionaryIndexRef.write ++ r.rowGroupIndexRef.write ++
    r.orderingProofRef.write ++ r.debugJsonRef.write ++ r.firstKeyTupleRef.write ++
    r.lastKeyTupleRef.write ++ r.appendFirstKeyTupleRef.write ++ r.appendLastKeyTupleRef.write ++
    r.commitDiagnosticsRef.write

/-- The bytes of a root with its checksum field zero. -/
def fieldBytes (r : OcbRootV2) : List UInt8 :=
  ocbRootMagicV2 ++ writeU16 r.version ++ writeU16 ocbRootV2Len.toUInt16 ++ writeU32 r.flags ++
    writeU64 r.generation ++ writeU64 r.previousGeneration ++ r.previousRootRef.write ++
    r.countBytes ++ r.refBytes ++ writeU64 r.createdUnixNanos ++ writeU64 r.contentFlags ++
    writeU32 0 ++ writeU32 0

/-- Encode a V2 root that may be written, with its checksum field zero. -/
def encodeWithoutChecksum (r : OcbRootV2) : Result (List UInt8) := do
  failIf (r.version ≠ 2) (ocbInvalidInput "OCB root version must be 2")
  r.validateRefKinds
  let appendRowEnd ← okOr (checkedAdd 64 r.appendBaseRow.toNat r.appendRowCount.toNat)
    (ocbInvalidInput "OCB root append row range overflows")
  failIf (appendRowEnd > r.rowCount.toNat)
    (ocbInvalidInput "OCB root append row range exceeds total rows")
  let appendGroupEnd ← okOr
    (checkedAdd 32 r.appendBaseRowGroup.toNat r.appendRowGroupCount.toNat)
    (ocbInvalidInput "OCB root append row-group range overflows")
  failIf (appendGroupEnd > r.rowGroupCount.toNat)
    (ocbInvalidInput "OCB root append row-group range exceeds total row groups")
  return r.fieldBytes

/-- Encode a V2 root with its checksum. -/
def writeTo (r : OcbRootV2) : Result (List UInt8) := sealBytes <$> r.encodeWithoutChecksum

lemma fieldBytes_length (r : OcbRootV2) : r.fieldBytes.length = ocbRootV2Len := by
  simp only [fieldBytes, countBytes, refBytes, List.length_append, OcbBodyRefV2.write_length, writeU16_length,
    writeU32_length, writeU64_length]
  rfl

lemma length_sealBytes_fieldBytes (r : OcbRootV2) :
    (sealBytes r.fieldBytes).length = ocbRootV2Len := by
  rw [sealBytes, length_writeU32AtEnd (by rw [r.fieldBytes_length]; decide), r.fieldBytes_length]

/-- A root with the checksum of its bytes. -/
def sealed (r : OcbRootV2) : OcbRootV2 := { r with crc32c := Ocb.crc32c r.fieldBytes }

/-! The stored checksum plays no role in the checks of a root. -/

lemma validateReferences_withCrc (r : OcbRootV2) (crc : UInt32) (fileLen : ℕ) :
    validateReferences { r with crc32c := crc } fileLen = r.validateReferences fileLen := rfl

@[simp] lemma validateReferences_sealed (r : OcbRootV2) (fileLen : ℕ) :
    r.sealed.validateReferences fileLen = r.validateReferences fileLen :=
  r.validateReferences_withCrc _ fileLen

/-- Reading a sealed root of version 2 gives the root back. -/
lemma readFrom_sealBytes (r : OcbRootV2) (hversion : r.version = 2) :
    readFrom (sealBytes r.fieldBytes) = .ok r.sealed := by
  rw [sealed]
  have hlen := r.fieldBytes_length
  rw [fieldBytes] at hlen ⊢
  rw [readFrom, readChecksummed_sealBytes hlen]
  have hheader : ¬ (UInt16.toNat (Nat.toUInt16 ocbRootV2Len) ≠ ocbRootV2Len) := by decide
  simp only [readAll, countBytes, refBytes, List.append_assoc, run_readMagic_bind (show ocbRootMagicV2.length = 8 by rfl),
    run_readU16_bind, run_readU32_bind, run_readU64_bind, OcbBodyRefV2.run_read_bind,
    run_failIf_bind (not_not.mpr hversion), run_failIf_bind hheader]
  rfl

/-- A sealed root of another version is not supported. -/
lemma readFrom_sealBytes_of_ne (r : OcbRootV2) (hversion : r.version ≠ 2) :
    readFrom (sealBytes r.fieldBytes) =
      .error (ocbUnsupportedFormat "unsupported OCB root version") := by
  have hlen := r.fieldBytes_length
  rw [fieldBytes] at hlen ⊢
  rw [readFrom, readChecksummed_sealBytes hlen]
  simp only [readAll, List.append_assoc, run_readMagic_bind (show ocbRootMagicV2.length = 8 by rfl),
    run_readU16_bind, run_failIf_bind_of_pos hversion]
  rfl

end OcbRootV2

/-! ### Root slots -/

/-- A slot of the page, which names a root. -/
structure OcbRootSlotV2 where
  version : UInt16
  slotId : UInt16
  flags : UInt16
  generation : UInt64
  rootRef : OcbBodyRefV2
  previousGeneration : UInt64
  previousRootRef : OcbBodyRefV2
  commitDiagnosticsRef : OcbBodyRefV2
  committedUnixNanos : UInt64
  writerVersion : List UInt8
  crc32c : UInt32
deriving DecidableEq

namespace OcbRootSlotV2

/-- An empty slot names no root. -/
def IsEmpty (s : OcbRootSlotV2) : Prop := s.rootRef.IsNull

instance (s : OcbRootSlotV2) : Decidable s.IsEmpty := inferInstanceAs (Decidable s.rootRef.IsNull)

/-- A slot that names no root. -/
def empty (slotId : UInt16) : OcbRootSlotV2 where
  version := 2
  slotId := slotId
  flags := 0
  generation := 0
  rootRef := .null
  previousGeneration := 0
  previousRootRef := .null
  commitDiagnosticsRef := .null
  committedUnixNanos := 0
  writerVersion := List.replicate 16 0
  crc32c := 0

/-- A first slot that names a root. -/
def ofRoot (slotId : UInt16) (generation : UInt64) (rootRef : OcbBodyRefV2) : OcbRootSlotV2 :=
  { empty slotId with generation, rootRef }

/-- The previous root is absent or a root object. -/
def validatePreviousRoot (s : OcbRootSlotV2) (fileLen : ℕ) : Result Unit :=
  if s.previousRootRef.IsNull then .ok () else s.previousRootRef.validate .root fileLen

/-- A slot can be used: it has its place, and its root lies within the file. -/
def validateCandidate (s : OcbRootSlotV2) (expectedSlotId : UInt16) (fileLen : ℕ) :
    Result Unit := do
  failIf (s.slotId ≠ expectedSlotId)
    (ocbCorruptFile "OCB root slot id does not match table position")
  failIf s.IsEmpty (ocbCorruptFile "OCB root slot is empty")
  s.rootRef.validate .root fileLen
  failIf (s.rootRef.length.toNat ≠ ocbRootV2Len)
    (ocbCorruptFile "OCB root slot root_ref length is invalid")
  s.validatePreviousRoot fileLen
  validateOptionalRefAnyKind s.commitDiagnosticsRef [.debugJsonMetadata, .rowGroupIndexDelta]
    fileLen

/-- A root agrees with the slot that names it. -/
def validateRoot (s : OcbRootSlotV2) (root : OcbRootV2) : Result Unit := do
  failIf (root.generation ≠ s.generation)
    (ocbCorruptFile "OCB root generation does not match root slot")
  failIf (root.previousGeneration ≠ s.previousGeneration)
    (ocbCorruptFile "OCB root previous_generation does not match root slot")
  failIf (root.previousRootRef ≠ s.previousRootRef)
    (ocbCorruptFile "OCB root previous_root_ref does not match root slot")
  failIf (root.commitDiagnosticsRef ≠ s.commitDiagnosticsRef)
    (ocbCorruptFile "OCB root commit diagnostics ref does not match root slot")

/-- Decode a root slot with its checksum. -/
def readFrom (bytes : List UInt8) : Result OcbRootSlotV2 :=
  readChecksummed ocbRootSlotV2Len "OCB root slot crc mismatch" (fun crc32c => do
    readMagic ocbRootSlotMagicV2 "invalid OCB root slot magic"
    let version ← readU16
    failIf (version ≠ 2) (ocbUnsupportedFormat "unsupported OCB root slot version")
    let headerBytes ← readU16
    failIf (headerBytes.toNat ≠ ocbRootSlotV2Len)
      (ocbCorruptFile "invalid OCB root slot header length")
    let slotId ← readU16
    failIf (slotId.toNat ≥ ocbRootSlotV2Count) (ocbCorruptFile "invalid OCB root slot id")
    let flags ← readU16
    let generation ← readU64
    let rootRef ← OcbBodyRefV2.read
    let previousGeneration ← readU64
    let previousRootRef ← OcbBodyRefV2.read
    let commitDiagnosticsRef ← OcbBodyRefV2.read
    let committedUnixNanos ← readU64
    let writerVersion ← readExactOcb 16
    let _reserved0 ← readU32
    return {
      version, slotId, flags, generation, rootRef, previousGeneration, previousRootRef,
      commitDiagnosticsRef, committedUnixNanos, writerVersion, crc32c }) bytes

/-- The bytes of a slot with its checksum field zero. -/
def fieldBytes (s : OcbRootSlotV2) : List UInt8 :=
  ocbRootSlotMagicV2 ++ writeU16 s.version ++ writeU16 ocbRootSlotV2Len.toUInt16 ++
    writeU16 s.slotId ++ writeU16 s.flags ++ writeU64 s.generation ++ s.rootRef.write ++
    writeU64 s.previousGeneration ++ s.previousRootRef.write ++ s.commitDiagnosticsRef.write ++
    writeU64 s.committedUnixNanos ++ s.writerVersion ++ writeU32 0 ++ writeU32 0

/-- Encode a root slot that may be written, with its checksum field zero. -/
def encodeWithoutChecksum (s : OcbRootSlotV2) : Result (List UInt8) := do
  failIf (s.version ≠ 2) (ocbInvalidInput "OCB root slot version must be 2")
  failIf (s.slotId.toNat ≥ ocbRootSlotV2Count)
    (ocbInvalidInput "OCB root slot id is out of range")
  failIf (¬ s.rootRef.IsNull ∧ s.rootRef.kind ≠ .root)
    (ocbInvalidInput "OCB root slot root_ref must reference root object")
  failIf (¬ s.rootRef.IsNull ∧ s.rootRef.length.toNat ≠ ocbRootV2Len)
    (ocbInvalidInput "OCB root slot root_ref length must match v2 root length")
  failIf (¬ s.previousRootRef.IsNull ∧ s.previousRootRef.kind ≠ .root)
    (ocbInvalidInput "OCB root slot previous_root_ref must reference root object")
  failIf (¬ s.commitDiagnosticsRef.IsNull ∧
      s.commitDiagnosticsRef.kind ≠ .debugJsonMetadata ∧
      s.commitDiagnosticsRef.kind ≠ .rowGroupIndexDelta)
    (ocbInvalidInput ("OCB root slot commit_diagnostics_ref must reference debug JSON " ++
      "metadata or row-group index delta"))
  return s.fieldBytes

/-- Encode a root slot with its checksum. -/
def writeTo (s : OcbRootSlotV2) : Result (List UInt8) := sealBytes <$> s.encodeWithoutChecksum

lemma fieldBytes_length (s : OcbRootSlotV2) (hwriter : s.writerVersion.length = 16) :
    s.fieldBytes.length = ocbRootSlotV2Len := by
  simp [fieldBytes, ocbRootSlotMagicV2, ocbRootSlotV2Len, hwriter]

lemma length_sealBytes_fieldBytes (s : OcbRootSlotV2) (hwriter : s.writerVersion.length = 16) :
    (sealBytes s.fieldBytes).length = ocbRootSlotV2Len := by
  rw [sealBytes, length_writeU32AtEnd (by rw [s.fieldBytes_length hwriter]; decide),
    s.fieldBytes_length hwriter]

/-- A slot with the checksum of its bytes. -/
def sealed (s : OcbRootSlotV2) : OcbRootSlotV2 := { s with crc32c := Ocb.crc32c s.fieldBytes }

@[simp] lemma isEmpty_sealed (s : OcbRootSlotV2) : s.sealed.IsEmpty ↔ s.IsEmpty := Iff.rfl

@[simp] lemma rootRef_sealed (s : OcbRootSlotV2) : s.sealed.rootRef = s.rootRef := rfl

@[simp] lemma validateCandidate_sealed (s : OcbRootSlotV2) (idx : UInt16) (fileLen : ℕ) :
    s.sealed.validateCandidate idx fileLen = s.validateCandidate idx fileLen := rfl

lemma validateRoot_withCrc (s : OcbRootSlotV2) (root : OcbRootV2) (crc crc' : UInt32) :
    validateRoot { s with crc32c := crc } { root with crc32c := crc' } = s.validateRoot root := rfl

@[simp] lemma validateRoot_sealed (s : OcbRootSlotV2) (root : OcbRootV2) :
    s.sealed.validateRoot root.sealed = s.validateRoot root :=
  s.validateRoot_withCrc root _ _

/-- Reading a sealed slot of version 2 gives the slot back. -/
lemma readFrom_sealBytes (s : OcbRootSlotV2) (hversion : s.version = 2)
    (hid : s.slotId.toNat < ocbRootSlotV2Count) (hwriter : s.writerVersion.length = 16) :
    readFrom (sealBytes s.fieldBytes) = .ok s.sealed := by
  rw [sealed]
  have hlen := s.fieldBytes_length hwriter
  rw [fieldBytes] at hlen ⊢
  rw [readFrom, readChecksummed_sealBytes hlen]
  have hheader : ¬ (UInt16.toNat (Nat.toUInt16 ocbRootSlotV2Len) ≠ ocbRootSlotV2Len) := by decide
  simp only [readAll, List.append_assoc,
    run_readMagic_bind (show ocbRootSlotMagicV2.length = 8 by rfl),
    run_readU16_bind, run_readU32_bind, run_readU64_bind, OcbBodyRefV2.run_read_bind,
    run_readExactOcb_bind hwriter, run_failIf_bind (not_not.mpr hversion),
    run_failIf_bind hheader, run_failIf_bind (not_le.mpr hid)]
  rfl

end OcbRootSlotV2

/-! ### The V2 bootstrap page -/

/-- The page at the start of a file of the second version, with two slots. -/
structure OcbBootstrapPageV2 where
  formatMajor : UInt16
  formatMinor : UInt16
  flags : UInt32
  pageSize : UInt32
  fileUuid : List UInt8
  /-- The raw bytes of the root slots, in table order. -/
  rootSlotBytes : List (List UInt8)
  crc32c : UInt32
deriving DecidableEq

namespace OcbBootstrapPageV2

/-- The root slots, each decoded on its own. -/
def decodedRootSlots (page : OcbBootstrapPageV2) : List (Result OcbRootSlotV2) :=
  page.rootSlotBytes.map OcbRootSlotV2.readFrom

/-- The page with the slot table and its own checksum zeroed: the bytes its checksum covers. -/
def stableBytes (bytes : List UInt8) : List UInt8 :=
  writeU32AtEnd (bytes.take ocbRootSlotTableV2Offset ++
    List.replicate ocbRootSlotTableV2Len 0 ++
    bytes.drop (ocbRootSlotTableV2Offset + ocbRootSlotTableV2Len)) 0

/-- The checksum of a page, which leaves out the slots. -/
def bootstrapCrc32c (bytes : List UInt8) : Result UInt32 := do
  failIf (bytes.length ≠ ocbBootstrapPageLen)
    (ocbCorruptFile "OCB bootstrap checksum requires one full bootstrap page")
  return Ocb.crc32c (stableBytes bytes)

/-- The bytes of the slot at a table position. -/
def slotBytesAt (buf : List UInt8) (idx : ℕ) : List UInt8 :=
  (buf.drop (ocbRootSlotTableV2Offset + idx * ocbRootSlotV2Len)).take ocbRootSlotV2Len

/-- Decode a V2 bootstrap page with its checksum. -/
def readFrom (bytes : List UInt8) : Result OcbBootstrapPageV2 := do
  let buf ← readAll (readExactOcb ocbBootstrapPageLen) bytes
  let actualCrc ← readU32AtEnd buf
  let expectedCrc ← bootstrapCrc32c buf
  failIf (actualCrc ≠ expectedCrc) (ocbCorruptFile "OCB bootstrap crc mismatch")
  readAll (do
    readMagic ocbBootstrapMagicV2 "invalid OCB bootstrap magic"
    let formatMajor ← readU16
    let formatMinor ← readU16
    failIf (formatMajor ≠ 2 ∨ formatMinor > 0)
      (ocbUnsupportedFormat "unsupported OCB bootstrap format version")
    let flags ← readU32
    let pageSize ← readU32
    failIf (pageSize.toNat ≠ ocbBootstrapPageLen)
      (ocbCorruptFile "invalid OCB bootstrap page size")
    let fileUuid ← readExactOcb 16
    return {
      formatMajor, formatMinor, flags, pageSize, fileUuid
      rootSlotBytes := (List.range ocbRootSlotV2Count).map (slotBytesAt buf)
      crc32c := actualCrc }) buf

/-- The bytes of a page before its slot table. -/
def headBytes (page : OcbBootstrapPageV2) : List UInt8 :=
  ocbBootstrapMagicV2 ++ writeU16 page.formatMajor ++ writeU16 page.formatMinor ++
    writeU32 page.flags ++ writeU32 page.pageSize ++ page.fileUuid ++
    List.replicate (ocbRootSlotTableV2Offset - 36) 0

/-- The zero bytes between the slot table of a page and its checksum. -/
def padBytes : List UInt8 :=
  List.replicate (ocbBootstrapPageLen - 4 - (ocbRootSlotTableV2Offset + ocbRootSlotTableV2Len)) 0

/-- The bytes of a page with its checksum field zero. -/
def fieldBytes (page : OcbBootstrapPageV2) : List UInt8 :=
  page.headBytes ++ (page.rootSlotBytes.flatten ++ (padBytes ++ writeU32 0))

/-- Encode a V2 bootstrap page that may be written, with its checksum field zero. -/
def encodeWithoutChecksum (page : OcbBootstrapPageV2) : Result (List UInt8) := do
  failIf (page.pageSize.toNat ≠ ocbBootstrapPageLen)
    (ocbInvalidInput "OCB bootstrap page_size must match reserved bootstrap page length")
  failIf (page.formatMajor ≠ 2 ∨ page.formatMinor > 0)
    (ocbUnsupportedFormat "unsupported OCB bootstrap format version")
  return page.fieldBytes

/-- Encode a V2 bootstrap page with its checksum. -/
def writeTo (page : OcbBootstrapPageV2) : Result (List UInt8) := do
  let buf ← page.encodeWithoutChecksum
  let checksum ← bootstrapCrc32c buf
  return writeU32AtEnd buf checksum

/-- A page with its two slots and its checksum. -/
def layout (page : OcbBootstrapPageV2) (a b : List UInt8) (crc : UInt32) : List UInt8 :=
  page.headBytes ++ (a ++ (b ++ (padBytes ++ writeU32 crc)))

/-- The shape of a page that the reader accepts, with the slots `a` and `b`. -/
structure WellFormed (page : OcbBootstrapPageV2) (a b : List UInt8) : Prop where
  major : page.formatMajor = 2
  minor : page.formatMinor = 0
  pageSize : page.pageSize.toNat = ocbBootstrapPageLen
  uuid : page.fileUuid.length = 16
  slots : page.rootSlotBytes = [a, b]
  length_fst : a.length = ocbRootSlotV2Len
  length_snd : b.length = ocbRootSlotV2Len

namespace WellFormed

variable {page : OcbBootstrapPageV2} {a b : List UInt8} (h : page.WellFormed a b)
include h

lemma length_headBytes : page.headBytes.length = ocbRootSlotTableV2Offset := by
  simp [headBytes, h.uuid, ocbBootstrapMagicV2, ocbRootSlotTableV2Offset]

lemma length_layout (crc : UInt32) : (page.layout a b crc).length = ocbBootstrapPageLen := by
  simp only [layout, List.length_append, h.length_headBytes, h.length_fst, h.length_snd, padBytes,
    List.length_replicate, writeU32_length]
  rfl

lemma take_layout (crc : UInt32) :
    (page.layout a b crc).take ocbRootSlotTableV2Offset = page.headBytes :=
  List.take_left' h.length_headBytes

lemma drop_layout (crc : UInt32) :
    (page.layout a b crc).drop (ocbRootSlotTableV2Offset + ocbRootSlotTableV2Len) =
      padBytes ++ writeU32 crc := by
  have hlen : (page.headBytes ++ (a ++ b)).length =
      ocbRootSlotTableV2Offset + ocbRootSlotTableV2Len := by
    simp only [List.length_append, h.length_headBytes, h.length_fst, h.length_snd]
    rfl
  rw [layout, ← List.append_assoc a, ← List.append_assoc page.headBytes]
  exact List.drop_left' hlen

/-- What the checksum covers does not depend on the slots or on the checksum field. -/
lemma stableBytes_layout (crc : UInt32) :
    stableBytes (page.layout a b crc) = page.headBytes ++
      (List.replicate ocbRootSlotTableV2Len 0 ++ (padBytes ++ writeU32 0)) := by
  rw [stableBytes, h.take_layout, h.drop_layout, ← List.append_assoc _ padBytes,
    writeU32AtEnd_append_writeU32]
  simp only [List.append_assoc]

lemma slotBytesAt_zero (crc : UInt32) : slotBytesAt (page.layout a b crc) 0 = a := by
  have hdrop : (page.layout a b crc).drop ocbRootSlotTableV2Offset =
      a ++ (b ++ (padBytes ++ writeU32 crc)) := List.drop_left' h.length_headBytes
  rw [slotBytesAt, Nat.zero_mul, Nat.add_zero, hdrop]
  exact List.take_left' h.length_fst

lemma slotBytesAt_one (crc : UInt32) : slotBytesAt (page.layout a b crc) 1 = b := by
  have hlen : (page.headBytes ++ a).length = ocbRootSlotTableV2Offset + ocbRootSlotV2Len := by
    rw [List.length_append, h.length_headBytes, h.length_fst]
  have hdrop : (page.layout a b crc).drop (ocbRootSlotTableV2Offset + ocbRootSlotV2Len) =
      b ++ (padBytes ++ writeU32 crc) := by
    rw [layout, ← List.append_assoc]
    exact List.drop_left' hlen
  rw [slotBytesAt, Nat.one_mul, hdrop]
  exact List.take_left' h.length_snd

/-- Reading a page with the checksum of its stable bytes gives the page back. -/
lemma readFrom_layout {crc : UInt32} (hcrc : crc = Ocb.crc32c (stableBytes (page.layout a b 0))) :
    readFrom (page.layout a b crc) = .ok { page with crc32c := crc } := by
  have hread : readAll (readExactOcb ocbBootstrapPageLen) (page.layout a b crc) =
      .ok (page.layout a b crc) := by
    rw [readAll, readExactOcb, Decoder.run_take_all (h.length_layout crc)]
    rfl
  have hend : readU32AtEnd (page.layout a b crc) = .ok crc := by
    have hfour : 4 ≤ (page.layout a b 0).length := by
      rw [h.length_layout]
      decide
    have hset : page.layout a b crc = writeU32AtEnd (page.layout a b 0) crc := by
      simp only [layout, ← List.append_assoc, writeU32AtEnd_append_writeU32]
    rw [hset, readU32AtEnd_writeU32AtEnd hfour]
  have hstable : bootstrapCrc32c (page.layout a b crc) = .ok crc := by
    rw [bootstrapCrc32c, failIf_neg (not_not.mpr (h.length_layout crc)), ok_bind,
      h.stableBytes_layout, hcrc, h.stableBytes_layout]
    rfl
  have hversion : ¬ (page.formatMajor ≠ 2 ∨ page.formatMinor > 0) := by
    rw [h.major, h.minor]
    decide
  have hslots : (List.range ocbRootSlotV2Count).map (slotBytesAt (page.layout a b crc)) =
      page.rootSlotBytes := by
    rw [h.slots, show List.range ocbRootSlotV2Count = [0, 1] by rfl, List.map_cons, List.map_cons,
      h.slotBytesAt_zero, h.slotBytesAt_one]
    rfl
  rw [readFrom, hread, ok_bind, hend, ok_bind, hstable, ok_bind, failIf_neg (not_not.mpr rfl),
    ok_bind, hslots]
  simp only [readAll, layout, headBytes, List.append_assoc,
    run_readMagic_bind (show ocbBootstrapMagicV2.length = 8 by rfl), run_readU16_bind,
    run_readU32_bind, run_readExactOcb_bind h.uuid, run_failIf_bind hversion,
    run_failIf_bind (not_not.mpr h.pageSize)]
  rfl

/-- The writer of a page stores the checksum of the stable bytes. -/
lemma writeTo_eq : page.writeTo =
    .ok (page.layout a b (Ocb.crc32c (stableBytes (page.layout a b 0)))) := by
  have hversion : ¬ (page.formatMajor ≠ 2 ∨ page.formatMinor > 0) := by
    rw [h.major, h.minor]
    decide
  have hfields : page.fieldBytes = page.layout a b 0 := by
    simp [fieldBytes, layout, h.slots]
  rw [writeTo, encodeWithoutChecksum, failIf_neg (not_not.mpr h.pageSize), ok_bind,
    failIf_neg hversion, ok_bind, hfields, pure_eq_ok, ok_bind, bootstrapCrc32c,
    failIf_neg (not_not.mpr (h.length_layout 0)), ok_bind, pure_eq_ok, ok_bind]
  simp only [layout, ← List.append_assoc, pure_eq_ok, writeU32AtEnd_append_writeU32]

/-- Reading what the writer of a page wrote gives the page back. -/
lemma readFrom_writeTo : ∃ bytes crc, page.writeTo = .ok bytes ∧ bytes = page.layout a b crc ∧
    readFrom bytes = .ok { page with crc32c := crc } :=
  ⟨_, _, h.writeTo_eq, rfl, h.readFrom_layout rfl⟩

end WellFormed

/-- A page with two sealed slots. -/
def ofSlots (a b : OcbRootSlotV2) : OcbBootstrapPageV2 where
  formatMajor := 2
  formatMinor := 0
  flags := 0
  pageSize := 4096
  fileUuid := List.replicate 16 0
  rootSlotBytes := [sealBytes a.fieldBytes, sealBytes b.fieldBytes]
  crc32c := 0

/-- The bytes of a page with two sealed slots. -/
def bytesOfSlots (a b : OcbRootSlotV2) : List UInt8 :=
  (ofSlots a b).layout (sealBytes a.fieldBytes) (sealBytes b.fieldBytes)
    (Ocb.crc32c (stableBytes (ofSlots a b).fieldBytes))

/-- A page with two sealed slots, and with its checksum. -/
def sealedOfSlots (a b : OcbRootSlotV2) : OcbBootstrapPageV2 :=
  { ofSlots a b with crc32c := Ocb.crc32c (stableBytes (ofSlots a b).fieldBytes) }

lemma decodedRootSlots_sealedOfSlots (a b : OcbRootSlotV2) :
    (sealedOfSlots a b).decodedRootSlots =
      [OcbRootSlotV2.readFrom (sealBytes a.fieldBytes),
        OcbRootSlotV2.readFrom (sealBytes b.fieldBytes)] := rfl

section OfSlots

variable {a b : OcbRootSlotV2} (ha : a.writerVersion.length = 16) (hb : b.writerVersion.length = 16)
include ha hb

lemma wellFormed_ofSlots :
    (ofSlots a b).WellFormed (sealBytes a.fieldBytes) (sealBytes b.fieldBytes) where
  major := rfl
  minor := rfl
  pageSize := rfl
  uuid := rfl
  slots := rfl
  length_fst := a.length_sealBytes_fieldBytes ha
  length_snd := b.length_sealBytes_fieldBytes hb

lemma length_bytesOfSlots : (bytesOfSlots a b).length = ocbBootstrapPageLen :=
  (wellFormed_ofSlots ha hb).length_layout _

/-- The page that the reader finds. -/
lemma readFrom_bytesOfSlots : readFrom (bytesOfSlots a b) = .ok (sealedOfSlots a b) := by
  have hfields : (ofSlots a b).fieldBytes =
      (ofSlots a b).layout (sealBytes a.fieldBytes) (sealBytes b.fieldBytes) 0 := by
    simp [fieldBytes, layout, ofSlots]
  rw [bytesOfSlots, sealedOfSlots]
  exact (wellFormed_ofSlots ha hb).readFrom_layout (by rw [hfields])

end OfSlots

end OcbBootstrapPageV2

end ArcadiaTio.Ocb
