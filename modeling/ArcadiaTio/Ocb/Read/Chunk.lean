import ArcadiaTio.Ocb.Read.Objects

/-!
# Reading column chunks

Three readers look at the same chunk object:

* `validateColumnChunkObjectHeader` checks the header against the descriptor, and
  `validateColumnChunkObjectStreaming` then runs over the payload in blocks;
* `readColumnChunkFromReaderWithResourceLimits` reads the whole object and decodes it;
* `readUncompressedFixedBinaryChunkFromSourceInto` reads an uncompressed fixed-binary payload
  straight into the caller's buffer.
-/

namespace ArcadiaTio.Ocb

open ArcadiaTio.Lib

/-- The length of a chunk header. -/
def ocbColumnChunkV1HeaderLen : ℕ := 44

/-- The little-endian number at a range of a header. -/
def headerField (header : List UInt8) (start len : ℕ) : ℕ := leNat ((header.drop start).take len)

/-- The fields of a chunk header that must repeat the descriptor do so. -/
def HeaderMatches (header : List UInt8) (chunk : OcbColumnChunkDescV1) : Prop :=
  headerField header 10 2 = ocbColumnChunkV1HeaderLen ∧
  headerField header 12 2 = chunk.physicalType.toU16.toNat ∧
  headerField header 14 2 = chunk.codec.toU16.toNat ∧
  headerField header 20 4 = chunk.rowGroupId.toNat ∧
  headerField header 24 4 = chunk.columnId.toNat ∧
  headerField header 28 8 = chunk.rowCount.toNat ∧
  headerField header 36 8 = chunk.uncompressedBytes.toNat

instance (header : List UInt8) (chunk : OcbColumnChunkDescV1) :
    Decidable (HeaderMatches header chunk) := by
  unfold HeaderMatches
  infer_instance

/-- Check the header of a chunk object against its descriptor, then the limits.  The result is
the header. -/
def validateColumnChunkObjectHeader (src : OcbReadSource) (chunk : OcbColumnChunkDescV1)
    (limits : OcbResourceLimits) : Result (List UInt8) := do
  let reference := chunk.valueRef
  reference.validate .columnChunk src.fileLen
  failIf (reference.length.toNat < ocbColumnChunkV1HeaderLen + 4)
    (ocbCorruptFile "OCB column chunk object is too short")
  let header ← src.readExactAt reference.offset.toNat ocbColumnChunkV1HeaderLen
  failIf (header.take 8 ≠ ocbColumnChunkHeader.magic)
    (ocbCorruptFile "invalid OCB column chunk magic")
  failIf (headerField header 8 2 ≠ 1)
    (ocbUnsupportedFormat "unsupported OCB column chunk object version")
  failIf (¬ HeaderMatches header chunk)
    (ocbCorruptFile "OCB column chunk object does not match descriptor")
  let encodedBytes := reference.length.toNat - (ocbColumnChunkV1HeaderLen + 4)
  failIf (chunk.codec = .none ∧
      (checkedAdd 64 ocbColumnChunkV1HeaderLen chunk.uncompressedBytes.toNat).bind
        (checkedAdd 64 · 4) ≠ some reference.length.toNat)
    (ocbCorruptFile "OCB uncompressed column chunk object length does not match descriptor")
  failIf (chunk.codec = .zstd ∧ reference.length.toNat = ocbColumnChunkV1HeaderLen + 4)
    (ocbCorruptFile "OCB zstd column chunk object has empty payload")
  failIf (reference.length.toNat > limits.maxEncodedObjectBytes.toNat)
    (ocbInvalidInput "OCB encoded object exceeds resource limit")
  failIf (encodedBytes > limits.maxCompressedChunkBytes.toNat)
    (ocbInvalidInput "OCB encoded column chunk payload exceeds resource limit")
  failIf (chunk.uncompressedBytes.toNat > limits.maxDecompressedChunkBytes.toNat)
    (ocbInvalidInput "OCB decoded column chunk payload exceeds resource limit")
  return header

section Header

variable {o : OcbColumnChunkObjectV1} {chunk : OcbColumnChunkDescV1}

/-- The header of a chunk object repeats its fields. -/
lemma headerMatches_fieldBytes (hversion : o.version = 1)
    (htype : chunk.physicalType = o.physicalType) (hcodec : chunk.codec = o.codec)
    (hgroup : chunk.rowGroupId = o.rowGroupId) (hcolumn : chunk.columnId = o.columnId)
    (hrows : chunk.rowCount = o.rowCount) (hbytes : chunk.uncompressedBytes = o.uncompressedBytes) :
    (o.fieldBytes.take 44).take 8 = ocbColumnChunkHeader.magic ∧
      headerField (o.fieldBytes.take 44) 8 2 = 1 ∧ HeaderMatches (o.fieldBytes.take 44) chunk := by
  have h16 : ∀ (v : UInt16) (start : ℕ), ((o.fieldBytes.take 44).drop start).take 2 = writeU16 v →
      headerField (o.fieldBytes.take 44) start 2 = v.toNat := by
    intro v start hfield
    rw [headerField, hfield, writeU16, leNat_leBytes_of_lt (by simpa using v.toNat_lt)]
  have h32 : ∀ (v : UInt32) (start : ℕ), ((o.fieldBytes.take 44).drop start).take 4 = writeU32 v →
      headerField (o.fieldBytes.take 44) start 4 = v.toNat := by
    intro v start hfield
    rw [headerField, hfield, writeU32, leNat_leBytes_of_lt (by simpa using v.toNat_lt)]
  have h64 : ∀ (v : UInt64) (start : ℕ), ((o.fieldBytes.take 44).drop start).take 8 = writeU64 v →
      headerField (o.fieldBytes.take 44) start 8 = v.toNat := by
    intro v start hfield
    rw [headerField, hfield, writeU64, leNat_leBytes_of_lt (by simpa using v.toNat_lt)]
  refine ⟨rfl, ?_, h16 44 10 rfl, ?_, ?_, ?_, ?_, ?_, ?_⟩
  · rw [h16 o.version 8 rfl, hversion]
    rfl
  · rw [h16 o.physicalType.toU16 12 rfl, htype]
  · rw [h16 o.codec.toU16 14 rfl, hcodec]
  · rw [h32 o.rowGroupId 20 rfl, hgroup]
  · rw [h32 o.columnId 24 rfl, hcolumn]
  · rw [h64 o.rowCount 28 rfl, hrows]
  · rw [h64 o.uncompressedBytes 36 rfl, hbytes]

end Header

/-! ### The streaming validator -/

/-- The block size of the streaming validator. -/
def streamBlockLen : ℕ := 8192

/-- The state of the streaming validator between two blocks: the checksum of the bytes the
reference covers, the checksum the object carries, and the payload kept for decompression. -/
structure StreamState where
  bodyCrc : UInt32
  objectCrc : UInt32
  payload : List UInt8

/-- Feed one block. -/
def StreamState.feed (s : StreamState) (block : List UInt8) : StreamState where
  bodyCrc := crc32cUpdate s.bodyCrc block
  objectCrc := crc32cUpdate s.objectCrc block
  payload := s.payload ++ block

/-- Run over the `remaining` payload bytes at an offset, block by block. -/
def streamPayload (src : OcbReadSource) (offset remaining : ℕ) (s : StreamState) :
    Result StreamState :=
  if remaining = 0 then .ok s
  else do
    let take := min remaining streamBlockLen
    let block ← src.readExactAt offset take
    streamPayload src (offset + take) (remaining - take) (s.feed block)
termination_by remaining
decreasing_by
  simp only [streamBlockLen]
  omega

/-- Validate a whole chunk object without keeping it: header, both checksums and, for a
compressed chunk, the decoded length. -/
def validateColumnChunkObjectStreaming (src : OcbReadSource) (zstd : ZstdCodec)
    (chunk : OcbColumnChunkDescV1) (limits : OcbResourceLimits) : Result Unit := do
  let reference := chunk.valueRef
  let header ← validateColumnChunkObjectHeader src chunk limits
  let encodedBytes ← okOr
    (checkedSub reference.length.toNat (ocbColumnChunkV1HeaderLen + 4))
    (ocbCorruptFile "OCB column chunk object is too short")
  let start := reference.offset.toNat + ocbColumnChunkV1HeaderLen
  let s ← streamPayload src start encodedBytes
    ⟨crc32cUpdate crc32cInit header, crc32cUpdate crc32cInit header, []⟩
  let trailingCrc ← src.readExactAt (start + encodedBytes) 4
  failIf (reference.checksumKind = .crc32c ∧
      crc32cFinish (crc32cUpdate s.bodyCrc trailingCrc) ≠ reference.checksum)
    (ocbCorruptFile "OCB body reference checksum mismatch")
  failIf (crc32cFinish (crc32cUpdate s.objectCrc [0, 0, 0, 0]) ≠ (leNat trailingCrc).toUInt32)
    (ocbCorruptFile "OCB column chunk crc mismatch")
  match chunk.codec with
  | .none => return ()
  | .zstd =>
    let object : OcbColumnChunkObjectV1 := {
      version := 1, physicalType := chunk.physicalType, codec := chunk.codec, flags := 0
      rowGroupId := chunk.rowGroupId, columnId := chunk.columnId, rowCount := chunk.rowCount
      uncompressedBytes := chunk.uncompressedBytes, payload := s.payload
      crc32c := (leNat trailingCrc).toUInt32 }
    let decoded ← object.decodePayloadWithLimits zstd limits.maxCompressedChunkBytes.toNat
      limits.maxDecompressedChunkBytes.toNat
    failIf (decoded.length ≠ chunk.uncompressedBytes.toNat) (ocbCorruptFile
      "OCB zstd column chunk decoded byte length does not match descriptor")

/-! ### The whole-object reader -/

/-- Read the values of a chunk, with every check of the descriptor. -/
def readColumnChunkFromReaderWithResourceLimits (src : OcbReadSource)
    (chunk : OcbColumnChunkDescV1) (limits : OcbResourceLimits) :
    Result OcbColumnChunkObjectV1 := do
  let _ ← validateColumnChunkObjectHeader src chunk limits
  let bytes ← src.readObjectBytesWithResourceLimits chunk.valueRef .columnChunk limits
  OcbColumnChunkObjectV1.readFromBytes bytes

/-- Check a decoded object against its descriptor and take its payload out. -/
def validateAndDecodeChunkObject (zstd : ZstdCodec) (object : OcbColumnChunkObjectV1)
    (physicalType : OcbPhysicalTypeV1) (chunk : OcbColumnChunkDescV1)
    (limits : OcbResourceLimits) : Result (List UInt8) := do
  failIf (object.rowGroupId ≠ chunk.rowGroupId ∨ object.columnId ≠ chunk.columnId)
    (ocbCorruptFile "OCB column chunk object identity does not match descriptor")
  failIf (object.physicalType ≠ physicalType)
    (ocbCorruptFile "OCB column chunk object physical type does not match schema")
  failIf (object.codec ≠ chunk.codec)
    (ocbCorruptFile "OCB column chunk object codec does not match descriptor")
  failIf (object.rowCount ≠ chunk.rowCount)
    (ocbCorruptFile "OCB column chunk object row_count does not match descriptor")
  failIf (object.uncompressedBytes ≠ chunk.uncompressedBytes)
    (ocbCorruptFile "OCB column chunk object byte length does not match descriptor")
  let payload ← object.intoDecodedPayloadWithLimits zstd limits.maxCompressedChunkBytes.toNat
    limits.maxDecompressedChunkBytes.toNat
  failIf (payload.length ≠ chunk.uncompressedBytes.toNat)
    (ocbCorruptFile "OCB column chunk object byte length does not match descriptor")
  return payload

/-! ### The direct reader -/

/-- Read an uncompressed fixed-binary payload into a buffer; the state is the contents of the
buffer.  The payload lands in the buffer before the checksums over it are compared. -/
def readUncompressedFixedBinaryChunkFromSourceInto (src : OcbReadSource)
    (chunk : OcbColumnChunkDescV1) (limits : OcbResourceLimits) :
    Fallible ArcadiaTioError (List UInt8) Unit := do
  failIf (chunk.physicalType ≠ .fixedBinary ∨ chunk.codec ≠ .none)
    (ocbInvalidInput "OCB direct chunk fill requires uncompressed fixed-binary data")
  let header ← validateColumnChunkObjectHeader src chunk limits
  let payloadBytes ← okOr
    (checkedSub chunk.valueRef.length.toNat (ocbColumnChunkV1HeaderLen + 4))
    (ocbCorruptFile "OCB column chunk object is too short")
  let buffer ← Fallible.getState
  failIf (payloadBytes ≠ buffer.length) (ocbInvalidInput
    "OCB direct fill buffer byte length does not match uncompressed fixed-binary chunk")
  let start := chunk.valueRef.offset.toNat + ocbColumnChunkV1HeaderLen
  let out ← src.readExactAt start buffer.length
  Fallible.setState out
  let trailingCrc ← src.readExactAt (start + buffer.length) 4
  let contentCrc := crc32cUpdate (crc32cUpdate crc32cInit header) out
  failIf (chunk.valueRef.checksumKind = .crc32c ∧
      crc32cFinish (crc32cUpdate contentCrc trailingCrc) ≠ chunk.valueRef.checksum)
    (ocbCorruptFile "OCB body reference checksum mismatch")
  failIf (crc32cFinish (crc32cUpdate contentCrc [0, 0, 0, 0]) ≠ (leNat trailingCrc).toUInt32)
    (ocbCorruptFile "OCB column chunk crc mismatch")

end ArcadiaTio.Ocb
