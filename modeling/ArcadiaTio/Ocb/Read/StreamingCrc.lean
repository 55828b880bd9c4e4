import ArcadiaTio.Ocb.Read.ChunkPaths

/-!
# Checksums in blocks

The checksum of a chunk object is computed twice in this program: at once, by the decoder of
objects, and block by block, by the validator that keeps no object.  Where the blocks are cut does
not matter: the validator over any list of block lengths (`validateColumnChunkObjectInBlocks`), of
which the 8192-byte blocks of the code are one, gives the verdict of the decoder.

`crc32c_streaming` collects this with the two laws of the checksum behind it, the bitwise
definition and the splitting of an update.
-/

namespace ArcadiaTio.Ocb

open ArcadiaTio.Lib

/-! ### Blocks of any lengths -/

/-- The lengths of the blocks of the code. -/
def streamBlockLens (remaining : ℕ) : List ℕ :=
  if remaining = 0 then []
  else min remaining streamBlockLen :: streamBlockLens (remaining - min remaining streamBlockLen)
termination_by remaining
decreasing_by
  simp only [streamBlockLen]
  omega

/-- Run over blocks of the given lengths, one after the other. -/
def streamBlocks (src : OcbReadSource) : ℕ → List ℕ → StreamState → Result StreamState
  | _, [], s => .ok s
  | offset, len :: lens, s => do
    let block ← src.readExactAt offset len
    streamBlocks src (offset + len) lens (s.feed block)

/-- The streaming validator over blocks of the given lengths. -/
def validateColumnChunkObjectInBlocks (src : OcbReadSource) (zstd : ZstdCodec)
    (chunk : OcbColumnChunkDescV1) (limits : OcbResourceLimits) (lens : List ℕ) :
    Result Unit := do
  let reference := chunk.valueRef
  let header ← validateColumnChunkObjectHeader src chunk limits
  let start := reference.offset.toNat + ocbColumnChunkV1HeaderLen
  let s ← streamBlocks src start lens
    ⟨crc32cUpdate crc32cInit header, crc32cUpdate crc32cInit header, []⟩
  let trailingCrc ← src.readExactAt (start + lens.sum) 4
  failIf (reference.checksumKind = .crc32c ∧
      crc32cFinish (crc32cUpdate s.bodyCrc trailingCrc) ≠ reference.checksum)
    (ocbCorruptFile "OCB body reference checksum mismatch")
  failIf (crc32cFinish (crc32cUpdate s.objectCrc [0, 0, 0, 0]) ≠ (leNat trailingCrc).toUInt32)
    (ocbCorruptFile "OCB column chunk crc mismatch")
  match chunk.codec with
  | .none => return ()
  | .zstd =>
    let object : OcbColumnChunkObjectV1 := {
      version := 1, physicalType := chunk.physicalType, codec := chunk.codec, flags := 0
      rowGroupId := chunk.rowGroupId, columnId := chunk.columnId, rowCount := chunk.rowCount
      uncompressedBytes := chunk.uncompressedBytes, payload := s.payload
      crc32c := (leNat trailingCrc).toUInt32 }
    let decoded ← object.decodePayloadWithLimits zstd limits.maxCompressedChunkBytes.toNat
      limits.maxDecompressedChunkBytes.toNat
    failIf (decoded.length ≠ chunk.uncompressedBytes.toNat) (ocbCorruptFile
      "OCB zstd column chunk decoded byte length does not match descriptor")

section Blocks

variable {src : OcbReadSource} {zstd : ZstdCodec} {chunk : OcbColumnChunkDescV1}
  {limits : OcbResourceLimits} {offset : ℕ} {lens : List ℕ}

lemma sum_streamBlockLens (remaining : ℕ) : (streamBlockLens remaining).sum = remaining := by
  induction remaining using streamBlockLens.induct with
  | case1 => rw [streamBlockLens, if_pos rfl, List.sum_nil]
  | case2 remaining hpos ih =>
    rw [streamBlockLens, if_neg hpos, List.sum_cons, ih]
    omega

/-- The blocks of the code are blocks of these lengths, whatever the reads return. -/
lemma streamPayload_eq_streamBlocks (offset remaining : ℕ) (s : StreamState) :
    streamPayload src offset remaining s =
      streamBlocks src offset (streamBlockLens remaining) s := by
  induction offset, remaining, s using streamPayload.induct with
  | case1 offset s => rw [streamPayload, if_pos rfl, streamBlockLens, if_pos rfl, streamBlocks]
  | case2 offset remaining s hpos take ih =>
    rw [streamPayload, if_neg hpos, streamBlockLens, if_neg hpos, streamBlocks]
    exact bind_congr fun block => ih block

/-- Running over blocks is feeding the range they cover at once. -/
lemma streamBlocks_eq (hfault : src.FaultFree) (s : StreamState)
    (h : offset + lens.sum ≤ src.fileLen) :
    streamBlocks src offset lens s = .ok (s.feed (src.range offset lens.sum)) := by
  induction lens generalizing offset s with
  | nil => rw [streamBlocks, List.sum_nil, OcbReadSource.range, List.take_zero,
      StreamState.feed_nil]
  | cons len lens ih =>
    rw [List.sum_cons] at h ⊢
    rw [streamBlocks, OcbReadSource.readExactAt_of_le hfault (by omega), ok_bind,
      ih _ (by omega), StreamState.feed_feed, OcbReadSource.range_append]

/-- The streaming validator of the code cuts its blocks at 8192 bytes. -/
lemma streaming_eq_inBlocks : validateColumnChunkObjectStreaming src zstd chunk limits =
    validateColumnChunkObjectInBlocks src zstd chunk limits
      (streamBlockLens (chunk.valueRef.length.toNat - (ocbColumnChunkV1HeaderLen + 4))) := by
  rw [validateColumnChunkObjectStreaming, validateColumnChunkObjectInBlocks]
  dsimp only
  cases hheader : validateColumnChunkObjectHeader src chunk limits with
  | error e => rfl
  | ok header =>
    -- an accepted header says that the object is long enough
    have hlen : ocbColumnChunkV1HeaderLen + 4 ≤ chunk.valueRef.length.toNat := by
      rw [validateColumnChunkObjectHeader] at hheader
      obtain ⟨_, -, hheader⟩ := bind_eq_ok.mp hheader
      obtain ⟨_, hshort, -⟩ := bind_eq_ok.mp hheader
      exact not_lt.mp (failIf_eq_ok.mp hshort)
    have hsub : checkedSub chunk.valueRef.length.toNat (ocbColumnChunkV1HeaderLen + 4) =
        some (chunk.valueRef.length.toNat - (ocbColumnChunkV1HeaderLen + 4)) := if_pos hlen
    cases chunk.codec with
    | none =>
      simp only [ok_bind, hsub, okOr_some, streamPayload_eq_streamBlocks, sum_streamBlockLens]
    | zstd =>
      simp only [ok_bind, hsub, okOr_some, streamPayload_eq_streamBlocks, sum_streamBlockLens]

/-- Any two ways to cut the payload give the same verdict. -/
lemma inBlocks_eq_streaming (hfault : src.FaultFree)
    (hlens : lens.sum + (ocbColumnChunkV1HeaderLen + 4) = chunk.valueRef.length.toNat) :
    validateColumnChunkObjectInBlocks src zstd chunk limits lens =
      validateColumnChunkObjectStreaming src zstd chunk limits := by
  have hsum : chunk.valueRef.length.toNat - (ocbColumnChunkV1HeaderLen + 4) = lens.sum := by
    omega
  rw [streaming_eq_inBlocks, validateColumnChunkObjectInBlocks, validateColumnChunkObjectInBlocks,
    hsum]
  dsimp only
  cases hheader : validateColumnChunkObjectHeader src chunk limits with
  | error e => rfl
  | ok header =>
    obtain ⟨payload, trailer, hstored⟩ := exists_storedChunk hfault hheader
    obtain ⟨-, -, -, hle⟩ := OcbBodyRefV2.validate_eq_ok.mp hstored.valid
    have hcode : (streamBlockLens lens.sum).sum = lens.sum := sum_streamBlockLens _
    rw [ok_bind, ok_bind, streamBlocks_eq hfault _ (by omega), ok_bind,
      streamBlocks_eq hfault _ (by omega), ok_bind, hcode]

end Blocks

/-! ### The laws -/

/-- The checksum of an object, its four trailing bytes read as zero, from the blocks before
them. -/
def streamedObjectCrc (blocks : List (List UInt8)) : UInt32 :=
  crc32cFinish (crc32cUpdate (blocks.foldl crc32cUpdate crc32cInit) [0, 0, 0, 0])

/-- The decoder of objects finds the stored checksum in order exactly when the streamed one is
equal to it. -/
lemma streamedObjectCrc_eq_iff (blocks : List (List UInt8)) {trailer : List UInt8}
    (htrailer : trailer.length = 4) : streamedObjectCrc blocks = (leNat trailer).toUInt32 ↔
      readU32AtEnd (blocks.flatten ++ trailer) =
        .ok (crc32cZeroedAtEnd (blocks.flatten ++ trailer)) := by
  have hread : readU32AtEnd (blocks.flatten ++ trailer) = .ok (leNat trailer).toUInt32 := by
    have hlen : (blocks.flatten ++ trailer).length = blocks.flatten.length + 4 := by
      rw [List.length_append, htrailer]
    rw [readU32AtEnd, if_neg (by omega), hlen, Nat.add_sub_cancel, List.drop_left]
  have hzero : crc32cZeroedAtEnd (blocks.flatten ++ trailer) = streamedObjectCrc blocks := by
    have hlen : (blocks.flatten ++ trailer).length - 4 = blocks.flatten.length := by
      rw [List.length_append, htrailer, Nat.add_sub_cancel]
    rw [crc32cZeroedAtEnd, writeU32AtEnd, hlen, List.take_left, streamedObjectCrc,
      foldl_crc32cUpdate, ← crc32cUpdate_append]
    rfl
  rw [hread, hzero, Except.ok.injEq]
  exact eq_comm

/-- What makes checksums in blocks as good as checksums at once. -/
structure Crc32cStreaming : Prop where
  /-- The table computes the bitwise definition. -/
  bitwise : ∀ bytes, crc32c bytes = crc32cBitwise bytes
  update_append : ∀ state a b, crc32cUpdate (crc32cUpdate state a) b = crc32cUpdate state (a ++ b)
  update_blocks : ∀ state (blocks : List (List UInt8)), blocks.foldl crc32cUpdate state =
    crc32cUpdate state blocks.flatten
  /-- The stored checksum is left out the same way in both forms. -/
  stored : ∀ blocks trailer, trailer.length = 4 →
    (streamedObjectCrc blocks = (leNat trailer).toUInt32 ↔
      readU32AtEnd (blocks.flatten ++ trailer) =
        .ok (crc32cZeroedAtEnd (blocks.flatten ++ trailer)))
  /-- The validator of the code is the one over blocks of 8192 bytes. -/
  streaming : ∀ src zstd chunk limits, validateColumnChunkObjectStreaming src zstd chunk limits =
    validateColumnChunkObjectInBlocks src zstd chunk limits
      (streamBlockLens (chunk.valueRef.length.toNat - (ocbColumnChunkV1HeaderLen + 4)))
  /-- The validator over any blocks accepts exactly the objects that the decoder accepts. -/
  inBlocks : ∀ (src : OcbReadSource) zstd (chunk : OcbColumnChunkDescV1) limits (lens : List ℕ),
    src.FaultFree →
    checkPrimitiveValueBytes chunk.physicalType chunk.rowCount.toNat
      chunk.uncompressedBytes.toNat = .ok () →
    lens.sum + (ocbColumnChunkV1HeaderLen + 4) = chunk.valueRef.length.toNat →
      (IsOk (validateColumnChunkObjectInBlocks src zstd chunk limits lens) ↔
        IsOk (readAndDecodeChunk src zstd chunk limits))
  /-- So does the reader into a caller's buffer, which delivers the decoded bytes. -/
  direct : ∀ (src : OcbReadSource) zstd (chunk : OcbColumnChunkDescV1) limits
    (buffer values : List UInt8), src.FaultFree →
    chunk.physicalType = .fixedBinary → chunk.codec = .none →
    buffer.length = chunk.uncompressedBytes.toNat →
      ((readUncompressedFixedBinaryChunkFromSourceInto src chunk limits).run buffer =
        (.ok (), values) ↔ readAndDecodeChunk src zstd chunk limits = .ok values)

/-- Checksums in blocks, over every split of every object, are checksums at once. -/
theorem crc32c_streaming : Crc32cStreaming where
  bitwise := crc32c_eq_crc32cBitwise
  update_append state a b := (crc32cUpdate_append state a b).symm
  update_blocks := foldl_crc32cUpdate
  stored blocks _ := streamedObjectCrc_eq_iff blocks
  streaming _ _ _ _ := streaming_eq_inBlocks
  inBlocks src zstd chunk limits lens hfault hvalues hlens := by
    rw [inBlocks_eq_streaming hfault hlens]
    cases hheader : validateColumnChunkObjectHeader src chunk limits with
    | error e =>
      rw [validateColumnChunkObjectStreaming, readAndDecodeChunk,
        readColumnChunkFromReaderWithResourceLimits, hheader]
      simp
    | ok header =>
      obtain ⟨payload, trailer, hstored⟩ := exists_storedChunk hfault hheader
      rw [hstored.streaming_eq hfault hvalues, readAndDecodeChunk,
        hstored.readAndDecode_eq hfault hvalues]
      cases decodeStored zstd chunk limits header payload trailer <;> simp
  direct src zstd chunk limits buffer values hfault htype hcodec hbuffer := by
    have hvalues : checkPrimitiveValueBytes chunk.physicalType chunk.rowCount.toNat
        chunk.uncompressedBytes.toNat = .ok () := by
      rw [checkPrimitiveValueBytes, htype]
      rfl
    cases hheader : validateColumnChunkObjectHeader src chunk limits with
    | error e =>
      rw [readUncompressedFixedBinaryChunkFromSourceInto,
        failIf_neg (by simp [htype, hcodec]), Fallible.lift_ok_bind, readAndDecodeChunk,
        readColumnChunkFromReaderWithResourceLimits, hheader]
      constructor
      · intro h
        cases congrArg Prod.fst h
      · intro h
        cases h
    | ok header =>
      obtain ⟨payload, trailer, hstored⟩ := exists_storedChunk hfault hheader
      have hdirect : (readUncompressedFixedBinaryChunkFromSourceInto src chunk limits).run buffer =
          ((fun _ => ()) <$> decodeStored zstd chunk limits header payload trailer, payload) :=
        hstored.direct_eq hfault htype hcodec hbuffer
      rw [hdirect, readAndDecodeChunk,
        hstored.readAndDecode_eq hfault hvalues, decodeStored,
        hstored.decodePayload_plain hcodec hvalues]
      cases checkStoredChecksums chunk header payload trailer <;> simp

end ArcadiaTio.Ocb
