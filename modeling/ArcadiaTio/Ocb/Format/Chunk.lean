import ArcadiaTio.Ocb.Format.RowGroups

/-!
# Column chunk objects

A column chunk object is a 44-byte header, a payload and a checksum.  The payload is stored as
it is or zstd-compressed.  Decompression is code outside this repository: it enters as a
`ZstdCodec`, a deterministic function from the window bound and the encoded bytes to the stream
of decoded bytes and the way that stream ends.
-/

namespace ArcadiaTio.Ocb

open ArcadiaTio.Lib

/-! ### The decompressor -/

/-- What a decompressor produces: the decoded bytes in order, and whether the stream then
ends cleanly or fails. -/
structure ZstdStream where
  output : List UInt8
  finished : Bool

/-- A decompressor, for a bound on the logarithm of the window size. -/
abbrev ZstdCodec := ℕ → List UInt8 → ZstdStream

namespace ZstdStream

/-- Read up to `n` bytes.  A stream that has nothing left reports the end or its failure. -/
def read (s : ZstdStream) (n : ℕ) : Option (List UInt8 × ZstdStream) :=
  if s.output = [] ∧ s.finished = false then none
  else some (s.output.take n, { s with output := s.output.drop n })

/-- Read exactly `n` bytes. -/
def readExact (s : ZstdStream) (n : ℕ) : Option (List UInt8 × ZstdStream) :=
  if n ≤ s.output.length then some (s.output.take n, { s with output := s.output.drop n })
  else none

end ZstdStream

/-- The bound on the window of a frame, from the bound on its decoded size. -/
def zstdWindowLogForDecodedLimit (maxDecodedBytes : ℕ) : ℕ :=
  min (max (Nat.log2 maxDecodedBytes) 27) 31

/-! ### The object -/

/-- The object of a column chunk: what its values are, and its payload. -/
structure OcbColumnChunkObjectV1 where
  version : UInt16
  physicalType : OcbPhysicalTypeV1
  codec : OcbChunkCodecV1
  flags : UInt32
  rowGroupId : UInt32
  columnId : UInt32
  rowCount : UInt64
  uncompressedBytes : UInt64
  payload : List UInt8
  crc32c : UInt32
deriving DecidableEq

/-- How a column chunk begins. -/
def ocbColumnChunkHeader : ObjectHeader where
  what := "OCB column chunk"
  magic := [79, 67, 66, 67, 72, 75, 49, 0]
  headerLen := 44

/-- The fields of a chunk header after its version. -/
structure ChunkHeaderFields where
  physicalType : OcbPhysicalTypeV1
  codec : OcbChunkCodecV1
  flags : UInt32
  rowGroupId : UInt32
  columnId : UInt32
  rowCount : UInt64
  uncompressedBytes : UInt64
deriving DecidableEq

/-- Read the fields of the header. -/
def ChunkHeaderFields.read : Reader ChunkHeaderFields := do
  let physicalType ← OcbPhysicalTypeV1.fromU16 (← readU16)
  let codec ← OcbChunkCodecV1.fromU16 (← readU16)
  let flags ← readU32
  let rowGroupId ← readU32
  let columnId ← readU32
  let rowCount ← readU64
  let uncompressedBytes ← readU64
  return { physicalType, codec, flags, rowGroupId, columnId, rowCount, uncompressedBytes }

/-- A primitive type fixes the byte length of the values of a row count. -/
def checkPrimitiveValueBytes (physicalType : OcbPhysicalTypeV1) (rowCount valueBytes : ℕ) :
    Result Unit :=
  match physicalType.primitiveByteWidth with
  | none => .ok ()
  | some byteWidth => do
    let expected ← okOr (checkedMul 64 rowCount byteWidth)
      (ocbCorruptFile "OCB column chunk value byte length overflows")
    failIf (valueBytes ≠ expected) (ocbCorruptFile
      "OCB column chunk value byte length does not match row count and physical type")

/-- Decode a payload of a compressed chunk, which must have exactly the expected length. -/
def decodeZstdPayloadBounded (zstd : ZstdCodec) (encoded : List UInt8)
    (expectedBytes maxDecodedBytes : ℕ) : Result (List UInt8) := do
  let _ ← okOr (checkedAdd 64 expectedBytes 1)
    (ocbCorruptFile "OCB decoded column chunk byte length overflows")
  failIf (expectedBytes > maxDecodedBytes)
    (ocbInvalidInput "OCB decoded column chunk exceeds resource limit")
  let stream := zstd (zstdWindowLogForDecodedLimit maxDecodedBytes) encoded
  let (decoded, stream) ← okOr (stream.readExact expectedBytes)
    (ocbCorruptFile "OCB zstd column chunk decode failed")
  let (extra, _) ← okOr (stream.read 1) (ocbCorruptFile "OCB zstd column chunk decode failed")
  failIf (extra ≠ []) (ocbCorruptFile
    "OCB zstd column chunk decoded byte length does not match header")
  return decoded

/-- A stream of the expected length that ends cleanly is the decoded payload. -/
lemma decodeZstdPayloadBounded_eq_ok {zstd : ZstdCodec} {encoded output : List UInt8} {max : ℕ}
    (hstream : zstd (zstdWindowLogForDecodedLimit max) encoded = ⟨output, true⟩)
    (hmax : output.length ≤ max) (hlt : output.length + 1 < 2 ^ 64) :
    decodeZstdPayloadBounded zstd encoded output.length max = .ok output := by
  have hexact : (⟨output, true⟩ : ZstdStream).readExact output.length =
      some (output, ⟨[], true⟩) := by
    rw [ZstdStream.readExact, if_pos le_rfl, List.take_length, List.drop_length]
  rw [decodeZstdPayloadBounded, checkedAdd_of_lt hlt, okOr_some, ok_bind,
    failIf_neg (not_lt.mpr hmax), ok_bind]
  dsimp only
  rw [hstream, hexact]
  rfl

namespace OcbColumnChunkObjectV1

/-- Decode the object of a column chunk. -/
def readFromBytes (bytes : List UInt8) : Result OcbColumnChunkObjectV1 := do
  let header ← readHeader ocbColumnChunkHeader bytes
  let (fields, rest) ← ChunkHeaderFields.read.run header.rest
  checkPrimitiveValueBytes fields.physicalType fields.rowCount.toNat fields.uncompressedBytes.toNat
  let payloadLen ← remainingBeforeCrc header.totalLen (header.totalLen - rest.length)
  failIf (fields.codec = .none ∧ payloadLen ≠ fields.uncompressedBytes.toNat) (ocbCorruptFile
    "OCB uncompressed column chunk value byte length does not match header")
  return {
    version := header.version, physicalType := fields.physicalType, codec := fields.codec
    flags := fields.flags, rowGroupId := fields.rowGroupId, columnId := fields.columnId
    rowCount := fields.rowCount, uncompressedBytes := fields.uncompressedBytes
    payload := rest.take payloadLen, crc32c := header.crc32c }

/-- The bytes that the values of the chunk take. -/
def uncompressedValueBytes (o : OcbColumnChunkObjectV1) : Result ℕ := do
  checkPrimitiveValueBytes o.physicalType o.rowCount.toNat o.uncompressedBytes.toNat
  return o.uncompressedBytes.toNat

/-- The values of the payload, decompressed within the limits. -/
def decodePayloadWithLimits (zstd : ZstdCodec) (o : OcbColumnChunkObjectV1)
    (maxCompressedBytes maxDecompressedBytes : ℕ) : Result (List UInt8) := do
  let expectedValueBytes ← o.uncompressedValueBytes
  match o.codec with
  | .none => do
    failIf (o.payload.length ≠ expectedValueBytes) (ocbCorruptFile
      "OCB uncompressed column chunk value byte length does not match header")
    failIf (o.payload.length > maxCompressedBytes)
      (ocbInvalidInput "OCB encoded column chunk exceeds resource limit")
    failIf (expectedValueBytes > maxDecompressedBytes)
      (ocbInvalidInput "OCB decoded column chunk exceeds resource limit")
    return o.payload
  | .zstd => do
    failIf (o.payload = [])
      (ocbCorruptFile "OCB zstd column chunk payload must not be empty")
    failIf (o.payload.length > maxCompressedBytes)
      (ocbInvalidInput "OCB compressed column chunk exceeds resource limit")
    decodeZstdPayloadBounded zstd o.payload expectedValueBytes maxDecompressedBytes

/-- A compressed payload whose stream has the declared length is decoded. -/
lemma decodePayloadWithLimits_zstd {o : OcbColumnChunkObjectV1} {zstd : ZstdCodec}
    {output : List UInt8} {maxCompressed maxDecompressed : ℕ} (hcodec : o.codec = .zstd)
    (hvalues : checkPrimitiveValueBytes o.physicalType o.rowCount.toNat
      o.uncompressedBytes.toNat = .ok ()) (hpayload : o.payload ≠ [])
    (hcompressed : o.payload.length ≤ maxCompressed)
    (hstream : zstd (zstdWindowLogForDecodedLimit maxDecompressed) o.payload = ⟨output, true⟩)
    (hlength : output.length = o.uncompressedBytes.toNat) (hmax : output.length ≤ maxDecompressed)
    (hlt : output.length + 1 < 2 ^ 64) :
    o.decodePayloadWithLimits zstd maxCompressed maxDecompressed = .ok output := by
  rw [decodePayloadWithLimits, uncompressedValueBytes, hvalues, ok_bind, pure_eq_ok, ok_bind,
    hcodec]
  dsimp only
  rw [failIf_neg hpayload, ok_bind, failIf_neg (not_lt.mpr hcompressed), ok_bind, ← hlength]
  exact decodeZstdPayloadBounded_eq_ok hstream hmax hlt

/-- The variant that consumes the object runs the same checks and moves the payload out. -/
def intoDecodedPayloadWithLimits (zstd : ZstdCodec) (o : OcbColumnChunkObjectV1)
    (maxCompressedBytes maxDecompressedBytes : ℕ) : Result (List UInt8) :=
  o.decodePayloadWithLimits zstd maxCompressedBytes maxDecompressedBytes

/-- The bytes of an object with its checksum field zero. -/
def fieldBytes (o : OcbColumnChunkObjectV1) : List UInt8 :=
  ocbColumnChunkHeader.objectBytes o.version
    (writeU16 o.physicalType.toU16 ++ writeU16 o.codec.toU16 ++ writeU32 o.flags ++
      writeU32 o.rowGroupId ++ writeU32 o.columnId ++ writeU64 o.rowCount ++
      writeU64 o.uncompressedBytes ++ o.payload)

/-- The check of the value bytes against the row count, as the writer words it. -/
def checkValueBytes (o : OcbColumnChunkObjectV1) : Result Unit :=
  match o.physicalType.primitiveByteWidth with
  | none => .ok ()
  | some byteWidth => do
    let expected ← okOr (checkedMul 64 o.rowCount.toNat byteWidth)
      (ocbInvalidInput "OCB column chunk value byte length overflows")
    failIf (o.uncompressedBytes.toNat ≠ expected) (ocbInvalidInput
      "OCB column chunk value byte length does not match row count and physical type")

/-- The bytes of the object with its checksum left out. -/
def encodeWithoutChecksum (o : OcbColumnChunkObjectV1) : Result (List UInt8) := do
  o.checkValueBytes
  failIf (o.codec = .none ∧ o.payload.length ≠ o.uncompressedBytes.toNat) (ocbInvalidInput
    "OCB column chunk payload length does not match row count and physical type")
  failIf (o.codec = .zstd ∧ o.payload = [])
    (ocbInvalidInput "OCB zstd column chunk payload must not be empty")
  vecBuffer o.fieldBytes

/-- The bytes of the object, when it can be written. -/
def writeTo (o : OcbColumnChunkObjectV1) : Result (List UInt8) :=
  sealBytes <$> o.encodeWithoutChecksum

/-- The fields of a chunk header after its version. -/
def headerFields (o : OcbColumnChunkObjectV1) : ChunkHeaderFields where
  physicalType := o.physicalType
  codec := o.codec
  flags := o.flags
  rowGroupId := o.rowGroupId
  columnId := o.columnId
  rowCount := o.rowCount
  uncompressedBytes := o.uncompressedBytes

lemma run_headerFields_read (o : OcbColumnChunkObjectV1) (rest : List UInt8) :
    ChunkHeaderFields.read.run (writeU16 o.physicalType.toU16 ++ (writeU16 o.codec.toU16 ++
      (writeU32 o.flags ++ (writeU32 o.rowGroupId ++ (writeU32 o.columnId ++
        (writeU64 o.rowCount ++ (writeU64 o.uncompressedBytes ++ rest))))))) =
      .ok (o.headerFields, rest) := by
  simp only [ChunkHeaderFields.read, run_readU16_bind, run_readU32_bind, run_readU64_bind,
    run_lift_bind (OcbPhysicalTypeV1.fromU16_toU16 _),
    run_lift_bind (OcbChunkCodecV1.fromU16_toU16 _)]
  rfl

/-- What the writer checks about the value bytes is what the reader checks. -/
lemma checkPrimitiveValueBytes_of_checkValueBytes {o : OcbColumnChunkObjectV1}
    (h : o.checkValueBytes = .ok ()) : checkPrimitiveValueBytes o.physicalType o.rowCount.toNat
      o.uncompressedBytes.toNat = .ok () := by
  rw [checkPrimitiveValueBytes]
  rw [checkValueBytes] at h
  cases hwidth : o.physicalType.primitiveByteWidth with
  | none => rfl
  | some byteWidth =>
    simp only [hwidth, bind_eq_ok, okOr_eq_ok, failIf_eq_ok] at h ⊢
    exact h

/-- A sealed chunk object is read back. -/
lemma readFromBytes_sealBytes (o : OcbColumnChunkObjectV1) (hversion : o.version = 1)
    (hvalues : checkPrimitiveValueBytes o.physicalType o.rowCount.toNat
      o.uncompressedBytes.toNat = .ok ())
    (hpayload : ¬ (o.codec = .none ∧ o.payload.length ≠ o.uncompressedBytes.toNat)) :
    readFromBytes (sealBytes o.fieldBytes) = .ok { o with crc32c := Ocb.crc32c o.fieldBytes } := by
  rw [readFromBytes, fieldBytes, hversion,
    readHeader_sealBytes_one ocbColumnChunkHeader rfl _ (by decide)]
  generalize Ocb.crc32c _ = crc
  have hremaining : ∀ totalLen, o.payload.length + 4 ≤ totalLen →
      remainingBeforeCrc totalLen (totalLen - (o.payload ++ writeU32 0).length) =
        .ok o.payload.length := by
    intro totalLen hle
    rw [List.length_append, writeU32_length, remainingBeforeCrc, checkedSub, if_pos (by omega),
      okOr_some, ok_bind, failIf_neg (by omega), ok_bind, pure_eq_ok]
    exact congrArg Except.ok (by omega)
  have hfieldValues : checkPrimitiveValueBytes o.headerFields.physicalType
      o.headerFields.rowCount.toNat o.headerFields.uncompressedBytes.toNat = .ok () := hvalues
  have hfieldPayload : ¬ (o.headerFields.codec = .none ∧
      o.payload.length ≠ o.headerFields.uncompressedBytes.toNat) := hpayload
  simp only [ok_bind, List.append_assoc, run_headerFields_read]
  rw [hfieldValues, ok_bind, hremaining _ (by simp only [List.length_append]; omega), ok_bind,
    failIf_neg hfieldPayload, ok_bind, List.take_left' rfl]
  rfl

end OcbColumnChunkObjectV1

end ArcadiaTio.Ocb
