import ArcadiaTio.Ocb.Read.Graph

/-!
# The chunk readers agree

A file whose reads do not fail is its bytes.  A chunk whose header passed its check is then three
parts of the file, a header, a payload and a checksum (`StoredChunk`), and each of the three
readers is the same two checksum comparisons followed by the same decoder:

* `StoredChunk.readAndDecode_eq` for the reader of the whole object,
* `StoredChunk.streaming_eq` for the validator that feeds the payload block by block,
* `StoredChunk.direct_eq` for the reader into a caller's buffer.

`chunkPaths_agree` says so for every chunk that the graph validation accepts.
-/

namespace ArcadiaTio.Ocb

open ArcadiaTio.Lib

/-! ### Files whose reads do not fail -/

namespace OcbReadSource

/-- No positioned read meets a failure of the operating system. -/
def FaultFree (src : OcbReadSource) : Prop := ∀ offset len, src.fault offset len = none

lemma faultFree_ofBytes (bytes : List UInt8) (h : bytes.length < 2 ^ 64) :
    (ofBytes bytes h).FaultFree := fun _ _ => rfl

/-- The bytes of a range of the file. -/
def range (src : OcbReadSource) (offset len : ℕ) : List UInt8 := (src.bytes.drop offset).take len

section Range

variable {src : OcbReadSource} {offset len i n : ℕ}

lemma length_range (h : offset + len ≤ src.fileLen) : (src.range offset len).length = len := by
  have hbytes : offset + len ≤ src.bytes.length := h
  rw [range, List.length_take, List.length_drop]
  omega

lemma range_append : src.range offset i ++ src.range (offset + i) n = src.range offset (i + n) := by
  rw [range, range, range, List.take_add, List.drop_drop]

lemma readExactAt_of_le (hfault : src.FaultFree) (h : offset + len ≤ src.fileLen) :
    src.readExactAt offset len = .ok (src.range offset len) := by
  by_cases hzero : len = 0
  · rw [readExactAt, if_pos hzero, range, hzero, List.take_zero]
  · rw [readExactAt, if_neg hzero, hfault offset len]
    exact if_pos h

end Range

end OcbReadSource

/-! ### Blocks -/

namespace StreamState

lemma feed_nil (s : StreamState) : s.feed [] = s := by
  rw [feed, crc32cUpdate_nil, crc32cUpdate_nil, List.append_nil]

lemma feed_feed (s : StreamState) (a b : List UInt8) : (s.feed a).feed b = s.feed (a ++ b) := by
  simp only [feed, crc32cUpdate_append, List.append_assoc]

end StreamState

/-- Running over a payload in blocks is feeding it at once. -/
lemma streamPayload_eq {src : OcbReadSource} (hfault : src.FaultFree) {offset remaining : ℕ}
    (s : StreamState) (h : offset + remaining ≤ src.fileLen) :
    streamPayload src offset remaining s = .ok (s.feed (src.range offset remaining)) := by
  induction offset, remaining, s using streamPayload.induct with
  | case1 offset s =>
    rw [streamPayload, if_pos rfl, OcbReadSource.range, List.take_zero, StreamState.feed_nil]
  | case2 offset remaining s hpos take ih =>
    have htake : take ≤ remaining := Nat.min_le_left _ _
    rw [streamPayload, if_neg hpos]
    dsimp only
    rw [OcbReadSource.readExactAt_of_le hfault (by omega), ok_bind, ih _ (by omega),
      StreamState.feed_feed, OcbReadSource.range_append, Nat.add_sub_cancel' htake]

/-! ### Stored chunks -/

/-- A chunk object whose header passed its check, in its three parts. -/
structure StoredChunk (src : OcbReadSource) (chunk : OcbColumnChunkDescV1)
    (limits : OcbResourceLimits) (header payload trailer : List UInt8) : Prop where
  check : validateColumnChunkObjectHeader src chunk limits = .ok header
  valid : chunk.valueRef.validate .columnChunk src.fileLen = .ok ()
  header_length : header.length = ocbColumnChunkV1HeaderLen
  trailer_length : trailer.length = 4
  length_eq : chunk.valueRef.length.toNat = ocbColumnChunkV1HeaderLen + payload.length + 4
  payload_eq : src.range (chunk.valueRef.offset.toNat + ocbColumnChunkV1HeaderLen) payload.length =
    payload
  trailer_eq : src.range (chunk.valueRef.offset.toNat + ocbColumnChunkV1HeaderLen +
    payload.length) 4 = trailer
  object_eq : src.range chunk.valueRef.offset.toNat chunk.valueRef.length.toNat =
    header ++ payload ++ trailer
  magic : header.take 8 = ocbColumnChunkHeader.magic
  version : headerField header 8 2 = 1
  fields : HeaderMatches header chunk
  plain : chunk.codec = .none → payload.length = chunk.uncompressedBytes.toNat
  compressed : chunk.codec = .zstd → payload ≠ []
  encoded_le : chunk.valueRef.length.toNat ≤ limits.maxEncodedObjectBytes.toNat
  payload_le : payload.length ≤ limits.maxCompressedChunkBytes.toNat
  values_le : chunk.uncompressedBytes.toNat ≤ limits.maxDecompressedChunkBytes.toNat

section Stored

variable {src : OcbReadSource} {zstd : ZstdCodec} {chunk : OcbColumnChunkDescV1}
  {limits : OcbResourceLimits} {header payload trailer : List UInt8}

lemma exists_storedChunk (hfault : src.FaultFree)
    (h : validateColumnChunkObjectHeader src chunk limits = .ok header) :
    ∃ payload trailer, StoredChunk src chunk limits header payload trailer := by
  -- the guards of the header check, in the order of the code
  have hcheck := h
  rw [validateColumnChunkObjectHeader] at h
  obtain ⟨_, hvalid, h⟩ := bind_eq_ok.mp h
  obtain ⟨_, hshort, h⟩ := bind_eq_ok.mp h
  obtain ⟨read, hread, h⟩ := bind_eq_ok.mp h
  obtain ⟨_, hmagic, h⟩ := bind_eq_ok.mp h
  obtain ⟨_, hversion, h⟩ := bind_eq_ok.mp h
  obtain ⟨_, hfields, h⟩ := bind_eq_ok.mp h
  obtain ⟨_, hplain, h⟩ := bind_eq_ok.mp h
  obtain ⟨_, hcompressed, h⟩ := bind_eq_ok.mp h
  obtain ⟨_, hencoded, h⟩ := bind_eq_ok.mp h
  obtain ⟨_, hpayload, h⟩ := bind_eq_ok.mp h
  obtain ⟨_, hvalues, h⟩ := bind_eq_ok.mp h
  cases h
  rw [failIf_eq_ok] at hshort hmagic hversion hfields hplain hcompressed hencoded hpayload hvalues
  obtain ⟨-, -, hlt, hle⟩ := OcbBodyRefV2.validate_eq_ok.mp hvalid
  have hlen : ocbColumnChunkV1HeaderLen + 4 ≤ chunk.valueRef.length.toNat := not_lt.mp hshort
  have hheader : src.range chunk.valueRef.offset.toNat ocbColumnChunkV1HeaderLen = header := by
    rw [OcbReadSource.readExactAt_of_le hfault (by omega)] at hread
    exact Except.ok.inj hread
  set encoded := chunk.valueRef.length.toNat - (ocbColumnChunkV1HeaderLen + 4) with hencodedLen
  have hpayloadLen : (src.range (chunk.valueRef.offset.toNat + ocbColumnChunkV1HeaderLen)
      encoded).length = encoded := OcbReadSource.length_range (by omega)
  refine ⟨src.range (chunk.valueRef.offset.toNat + ocbColumnChunkV1HeaderLen) encoded,
    src.range (chunk.valueRef.offset.toNat + ocbColumnChunkV1HeaderLen + encoded) 4, ?_⟩
  refine
    { check := hcheck, valid := hvalid, magic := not_not.mp hmagic, version := not_not.mp hversion
      fields := not_not.mp hfields, header_length := ?_, trailer_length := ?_, length_eq := ?_
      payload_eq := ?_, trailer_eq := ?_, object_eq := ?_, plain := ?_, compressed := ?_
      encoded_le := not_lt.mp hencoded, payload_le := ?_, values_le := not_lt.mp hvalues }
  · rw [← hheader]
    exact OcbReadSource.length_range (by omega)
  · exact OcbReadSource.length_range (by omega)
  · rw [hpayloadLen]
    omega
  · rw [hpayloadLen]
  · rw [hpayloadLen]
  · rw [← hheader, OcbReadSource.range_append, add_assoc, OcbReadSource.range_append]
    congr 1
    omega
  · intro hnone
    rw [hpayloadLen]
    have hsum := not_not.mp (fun hne => hplain ⟨hnone, hne⟩)
    obtain ⟨mid, hmid, hsum⟩ := Option.bind_eq_some_iff.mp hsum
    obtain ⟨rfl, -⟩ := checkedAdd_eq_some.mp hmid
    obtain ⟨hsum, -⟩ := checkedAdd_eq_some.mp hsum
    omega
  · intro hzstd hnil
    rw [hnil] at hpayloadLen
    refine hcompressed ⟨hzstd, ?_⟩
    have : encoded = 0 := hpayloadLen.symm
    omega
  · rw [hpayloadLen]
    exact not_lt.mp hpayload

/-- The object that the bytes of a stored chunk stand for. -/
def OcbColumnChunkDescV1.storedObject (chunk : OcbColumnChunkDescV1)
    (header payload trailer : List UInt8) : OcbColumnChunkObjectV1 where
  version := 1
  physicalType := chunk.physicalType
  codec := chunk.codec
  flags := (headerField header 16 4).toUInt32
  rowGroupId := chunk.rowGroupId
  columnId := chunk.columnId
  rowCount := chunk.rowCount
  uncompressedBytes := chunk.uncompressedBytes
  payload
  crc32c := (leNat trailer).toUInt32

/-- The next field of a header. -/
lemma drop_eq_field_append {l : List UInt8} {start len value : ℕ} (h : start + len ≤ l.length)
    (hvalue : headerField l start len = value) :
    l.drop start = leBytes len value ++ l.drop (start + len) := by
  have hlen : ((l.drop start).take len).length = len := by
    rw [List.length_take, List.length_drop]
    omega
  have hfield := leBytes_leNat ((l.drop start).take len)
  rw [hlen, ← headerField, hvalue] at hfield
  rw [hfield, ← List.drop_drop, List.take_append_drop]

/-- The bytes of a stored chunk are those of its object. -/
lemma StoredChunk.fieldBytes_eq (h : StoredChunk src chunk limits header payload trailer) :
    header ++ payload ++ writeU32 0 =
      (chunk.storedObject header payload trailer).fieldBytes := by
  obtain ⟨hlen, htype, hcodec, hrowGroup, hcolumn, hrows, hbytes⟩ := h.fields
  have hheaderLen : header.length = 44 := h.header_length
  have hflags : headerField header 16 4 = (headerField header 16 4).toUInt32.toNat := by
    have hlt := leNat_lt ((header.drop 16).take 4)
    have hfour : ((header.drop 16).take 4).length = 4 := by
      rw [List.length_take, List.length_drop]
      omega
    rw [hfour] at hlt
    rw [Nat.toUInt32_eq, UInt32.toNat_ofNat']
    exact (Nat.mod_eq_of_lt hlt).symm
  have hheader : header = ocbColumnChunkHeader.magic ++ (writeU16 1 ++ (writeU16 44 ++
      (writeU16 chunk.physicalType.toU16 ++ (writeU16 chunk.codec.toU16 ++
        (writeU32 (headerField header 16 4).toUInt32 ++ (writeU32 chunk.rowGroupId ++
          (writeU32 chunk.columnId ++ (writeU64 chunk.rowCount ++
            writeU64 chunk.uncompressedBytes)))))))) := by
    conv_lhs =>
      rw [← List.take_append_drop 8 header, h.magic,
        drop_eq_field_append (by omega) h.version, drop_eq_field_append (by omega) hlen,
        drop_eq_field_append (by omega) htype, drop_eq_field_append (by omega) hcodec,
        drop_eq_field_append (by omega) hflags, drop_eq_field_append (by omega) hrowGroup,
        drop_eq_field_append (by omega) hcolumn, drop_eq_field_append (by omega) hrows,
        drop_eq_field_append (by omega) hbytes, List.drop_eq_nil_of_le (by omega),
        List.append_nil]
    rfl
  rw [OcbColumnChunkObjectV1.fieldBytes, ObjectHeader.objectBytes]
  conv_lhs => rw [hheader]
  simp only [List.append_assoc]
  rfl

/-- The checksum a reference carries, then the one the object carries. -/
def checkStoredChecksums (chunk : OcbColumnChunkDescV1) (header payload trailer : List UInt8) :
    Result Unit := do
  failIf (chunk.valueRef.checksumKind = .crc32c ∧
      crc32c (header ++ payload ++ trailer) ≠ chunk.valueRef.checksum)
    (ocbCorruptFile "OCB body reference checksum mismatch")
  failIf (crc32c (header ++ payload ++ [0, 0, 0, 0]) ≠ (leNat trailer).toUInt32)
    (ocbCorruptFile "OCB column chunk crc mismatch")

/-- The value bytes of a stored chunk, once its checksums match. -/
def decodeStored (zstd : ZstdCodec) (chunk : OcbColumnChunkDescV1) (limits : OcbResourceLimits)
    (header payload trailer : List UInt8) : Result (List UInt8) := do
  checkStoredChecksums chunk header payload trailer
  (chunk.storedObject header payload trailer).decodePayloadWithLimits zstd
    limits.maxCompressedChunkBytes.toNat limits.maxDecompressedChunkBytes.toNat

/-- What is decoded has the length the header declares. -/
lemma length_of_decodePayloadWithLimits {o : OcbColumnChunkObjectV1} {a b : ℕ}
    {values : List UInt8} (h : o.decodePayloadWithLimits zstd a b = .ok values) :
    values.length = o.uncompressedBytes.toNat := by
  obtain ⟨expected, hexpected, h⟩ := bind_eq_ok.mp h
  obtain ⟨_, -, hexpected⟩ := bind_eq_ok.mp hexpected
  cases hexpected
  split at h
  · obtain ⟨_, hlen, h⟩ := bind_eq_ok.mp h
    obtain ⟨_, -, h⟩ := bind_eq_ok.mp h
    obtain ⟨_, -, h⟩ := bind_eq_ok.mp h
    cases h
    exact not_not.mp (failIf_eq_ok.mp hlen)
  · obtain ⟨_, -, h⟩ := bind_eq_ok.mp h
    obtain ⟨_, -, h⟩ := bind_eq_ok.mp h
    obtain ⟨_, -, h⟩ := bind_eq_ok.mp h
    obtain ⟨_, -, h⟩ := bind_eq_ok.mp h
    obtain ⟨⟨decoded, stream⟩, hread, h⟩ := bind_eq_ok.mp h
    obtain ⟨_, -, h⟩ := bind_eq_ok.mp h
    obtain ⟨_, -, h⟩ := bind_eq_ok.mp h
    cases h
    rw [okOr_eq_ok, ZstdStream.readExact] at hread
    split at hread
    case isTrue hle =>
      cases hread
      rw [List.length_take]
      exact Nat.min_eq_left hle
    case isFalse => cases hread

namespace StoredChunk

section Readers

variable (hfault : src.FaultFree) (h : StoredChunk src chunk limits header payload trailer)

include hfault h in
/-- The reader of objects returns the three parts, once the checksum of the reference matches. -/
lemma readObjectBytes_eq :
    src.readObjectBytesWithResourceLimits chunk.valueRef .columnChunk limits =
      failIf (chunk.valueRef.checksumKind = .crc32c ∧
        crc32c (header ++ payload ++ trailer) ≠ chunk.valueRef.checksum)
        (ocbCorruptFile "OCB body reference checksum mismatch") >>=
          fun _ => .ok (header ++ payload ++ trailer) := by
  obtain ⟨-, -, -, hle⟩ := OcbBodyRefV2.validate_eq_ok.mp h.valid
  have hencoded := h.encoded_le
  rw [OcbReadSource.readObjectBytesWithResourceLimits,
    OcbReadSource.readObjectBytesInnerWithLimits, h.valid, ok_bind, failIf_neg (by omega), ok_bind,
    OcbReadSource.readExactAt_of_le hfault hle, ok_bind, h.object_eq]
  rfl

include h in
/-- The decoder of objects accepts the three parts exactly when the checksum matches. -/
lemma readFromBytes_eq (hvalues : checkPrimitiveValueBytes chunk.physicalType chunk.rowCount.toNat
    chunk.uncompressedBytes.toNat = .ok ()) :
    OcbColumnChunkObjectV1.readFromBytes (header ++ payload ++ trailer) =
      failIf (crc32c (header ++ payload ++ [0, 0, 0, 0]) ≠ (leNat trailer).toUInt32)
        (ocbCorruptFile "OCB column chunk crc mismatch") >>=
          fun _ => .ok (chunk.storedObject header payload trailer) := by
  have htrailer : writeU32 (leNat trailer).toUInt32 = trailer := by
    have hlt := leNat_lt trailer
    have hbytes := leBytes_leNat trailer
    rw [h.trailer_length] at hlt hbytes
    have hword : (leNat trailer).toUInt32.toNat = leNat trailer := by
      rw [Nat.toUInt32_eq, UInt32.toNat_ofNat']
      exact Nat.mod_eq_of_lt hlt
    rw [writeU32, hword, hbytes]
  have hfields : header ++ payload ++ [0, 0, 0, 0] =
      (chunk.storedObject header payload trailer).fieldBytes := h.fieldBytes_eq
  have hplain : ¬ (chunk.codec = .none ∧ payload.length ≠ chunk.uncompressedBytes.toNat) := by
    rintro ⟨hcodec, hne⟩
    exact hne (h.plain hcodec)
  by_cases hcrc : crc32c (header ++ payload ++ [0, 0, 0, 0]) = (leNat trailer).toUInt32
  · -- the trailer is the checksum: the parts are the sealed bytes of the object
    have hsealed : header ++ payload ++ trailer =
        sealBytes (chunk.storedObject header payload trailer).fieldBytes := by
      rw [sealBytes, ← hfields, hcrc]
      conv_lhs => rw [← htrailer]
      exact (writeU32AtEnd_append_writeU32 (header ++ payload) 0 _).symm
    rw [failIf_neg (not_not.mpr hcrc), ok_bind, hsealed,
      OcbColumnChunkObjectV1.readFromBytes_sealBytes _ rfl hvalues hplain, ← hfields, hcrc]
    rfl
  · have hread : readU32AtEnd (header ++ payload ++ trailer) = .ok (leNat trailer).toUInt32 := by
      have hlen : (header ++ payload ++ trailer).length = (header ++ payload).length + 4 := by
        rw [List.length_append, h.trailer_length]
      rw [readU32AtEnd, if_neg (by omega), hlen, Nat.add_sub_cancel, List.drop_left]
    have hzero : crc32cZeroedAtEnd (header ++ payload ++ trailer) =
        crc32c (header ++ payload ++ [0, 0, 0, 0]) := by
      conv_lhs => rw [← htrailer]
      rw [crc32cZeroedAtEnd, writeU32AtEnd_append_writeU32]
      rfl
    rw [failIf_pos hcrc, OcbColumnChunkObjectV1.readFromBytes, readHeader, hread, ok_bind, hzero,
      failIf_pos (Ne.symm hcrc)]
    rfl

include hfault h in
/-- The whole-object reader. -/
lemma readAndDecode_eq (hvalues : checkPrimitiveValueBytes chunk.physicalType
    chunk.rowCount.toNat chunk.uncompressedBytes.toNat = .ok ()) :
    (readColumnChunkFromReaderWithResourceLimits src chunk limits >>= fun object =>
      validateAndDecodeChunkObject zstd object chunk.physicalType chunk limits) =
      decodeStored zstd chunk limits header payload trailer := by
  have hdecode : validateAndDecodeChunkObject zstd (chunk.storedObject header payload trailer)
      chunk.physicalType chunk limits =
      (chunk.storedObject header payload trailer).decodePayloadWithLimits zstd
        limits.maxCompressedChunkBytes.toNat limits.maxDecompressedChunkBytes.toNat := by
    rw [validateAndDecodeChunkObject, failIf_neg (by simp [OcbColumnChunkDescV1.storedObject]),
      ok_bind, failIf_neg (by simp [OcbColumnChunkDescV1.storedObject]), ok_bind,
      failIf_neg (by simp [OcbColumnChunkDescV1.storedObject]), ok_bind,
      failIf_neg (by simp [OcbColumnChunkDescV1.storedObject]), ok_bind,
      failIf_neg (by simp [OcbColumnChunkDescV1.storedObject]), ok_bind,
      OcbColumnChunkObjectV1.intoDecodedPayloadWithLimits]
    cases hrun : (chunk.storedObject header payload trailer).decodePayloadWithLimits zstd
      limits.maxCompressedChunkBytes.toNat limits.maxDecompressedChunkBytes.toNat with
    | error e => rfl
    | ok values =>
      have hlen : values.length = chunk.uncompressedBytes.toNat :=
        length_of_decodePayloadWithLimits hrun
      rw [ok_bind, failIf_neg (not_not.mpr hlen)]
      rfl
  rw [readColumnChunkFromReaderWithResourceLimits, h.check, ok_bind, h.readObjectBytes_eq hfault]
  simp only [bind_assoc, ok_bind, h.readFromBytes_eq hvalues, hdecode, decodeStored,
    checkStoredChecksums]

include h in
/-- An uncompressed payload is its own decoding. -/
lemma decodePayload_plain (hcodec : chunk.codec = .none)
    (hvalues : checkPrimitiveValueBytes chunk.physicalType chunk.rowCount.toNat
      chunk.uncompressedBytes.toNat = .ok ()) :
    (chunk.storedObject header payload trailer).decodePayloadWithLimits zstd
      limits.maxCompressedChunkBytes.toNat limits.maxDecompressedChunkBytes.toNat =
        .ok payload := by
  have hplain := h.plain hcodec
  have hpayload := h.payload_le
  have hlimit := h.values_le
  have hexpected : (chunk.storedObject header payload trailer).uncompressedValueBytes =
      .ok chunk.uncompressedBytes.toNat := by
    rw [OcbColumnChunkObjectV1.uncompressedValueBytes]
    exact congrArg (· >>= fun _ => _) hvalues
  have hstored : (chunk.storedObject header payload trailer).codec = .none := hcodec
  have hstoredPayload : (chunk.storedObject header payload trailer).payload = payload := rfl
  rw [OcbColumnChunkObjectV1.decodePayloadWithLimits, hexpected, ok_bind]
  simp only [hstored, hstoredPayload]
  rw [failIf_neg (not_not.mpr hplain), ok_bind, failIf_neg (not_lt.mpr hpayload), ok_bind,
    failIf_neg (not_lt.mpr hlimit), ok_bind]
  rfl

include hfault h in
/-- The streaming validator: it looks at the same checksums and decodes the same payload, but
keeps no values. -/
lemma streaming_eq (hvalues : checkPrimitiveValueBytes chunk.physicalType
    chunk.rowCount.toNat chunk.uncompressedBytes.toNat = .ok ()) :
    validateColumnChunkObjectStreaming src zstd chunk limits =
      (fun _ => ()) <$> decodeStored zstd chunk limits header payload trailer := by
  obtain ⟨-, -, -, hle⟩ := OcbBodyRefV2.validate_eq_ok.mp h.valid
  have hlength := h.length_eq
  have hencoded : checkedSub chunk.valueRef.length.toNat (ocbColumnChunkV1HeaderLen + 4) =
      some payload.length := by
    rw [checkedSub, if_pos (by omega)]
    exact congrArg some (by omega)
  have hbody : crc32cFinish (crc32cUpdate (StreamState.feed
      ⟨crc32cUpdate crc32cInit header, crc32cUpdate crc32cInit header, []⟩ payload).bodyCrc
        trailer) = crc32c (header ++ payload ++ trailer) := by
    simp only [StreamState.feed, crc32c, crc32cUpdate_append]
  have hobject : crc32cFinish (crc32cUpdate (StreamState.feed
      ⟨crc32cUpdate crc32cInit header, crc32cUpdate crc32cInit header, []⟩ payload).objectCrc
        [0, 0, 0, 0]) = crc32c (header ++ payload ++ [0, 0, 0, 0]) := by
    simp only [StreamState.feed, crc32c, crc32cUpdate_append]
  rw [validateColumnChunkObjectStreaming]
  dsimp only
  rw [h.check, ok_bind, hencoded, okOr_some, ok_bind,
    streamPayload_eq hfault _ (by omega), ok_bind, h.payload_eq,
    OcbReadSource.readExactAt_of_le hfault (by omega), ok_bind, h.trailer_eq, hbody, hobject,
    decodeStored, checkStoredChecksums, bind_assoc, map_bind]
  refine bind_congr fun _ => ?_
  rw [map_bind]
  refine bind_congr fun _ => ?_
  cases hcodec : chunk.codec with
  | none =>
    rw [h.decodePayload_plain hcodec hvalues]
    rfl
  | zstd =>
    -- the object it decodes differs from the stored one in its flags only
    have hdecode : OcbColumnChunkObjectV1.decodePayloadWithLimits zstd
        { version := 1, physicalType := chunk.physicalType, codec := .zstd, flags := 0
          rowGroupId := chunk.rowGroupId, columnId := chunk.columnId, rowCount := chunk.rowCount
          uncompressedBytes := chunk.uncompressedBytes, payload := payload
          crc32c := (leNat trailer).toUInt32 }
        limits.maxCompressedChunkBytes.toNat limits.maxDecompressedChunkBytes.toNat =
        (chunk.storedObject header payload trailer).decodePayloadWithLimits zstd
          limits.maxCompressedChunkBytes.toNat limits.maxDecompressedChunkBytes.toNat := by
      rw [OcbColumnChunkDescV1.storedObject, hcodec]
      rfl
    have hpayload : (StreamState.feed ⟨crc32cUpdate crc32cInit header,
        crc32cUpdate crc32cInit header, []⟩ payload).payload = payload := List.nil_append _
    simp only [hpayload, hdecode]
    cases hrun : (chunk.storedObject header payload trailer).decodePayloadWithLimits zstd
      limits.maxCompressedChunkBytes.toNat limits.maxDecompressedChunkBytes.toNat with
    | error e => rfl
    | ok values =>
      have hlen : values.length = chunk.uncompressedBytes.toNat :=
        length_of_decodePayloadWithLimits hrun
      rw [ok_bind, failIf_neg (not_not.mpr hlen)]
      rfl

include hfault h in
/-- The direct reader: the payload is in the buffer when the checksums are compared, and it is
what the decoder returns. -/
lemma direct_eq (htype : chunk.physicalType = .fixedBinary) (hcodec : chunk.codec = .none)
    {buffer : List UInt8} (hbuffer : buffer.length = chunk.uncompressedBytes.toNat) :
    (readUncompressedFixedBinaryChunkFromSourceInto src chunk limits).run buffer =
      ((fun _ => ()) <$> decodeStored zstd chunk limits header payload trailer, payload) := by
  obtain ⟨-, -, -, hle⟩ := OcbBodyRefV2.validate_eq_ok.mp h.valid
  have hlength := h.length_eq
  have hplain := h.plain hcodec
  have hvalues : checkPrimitiveValueBytes chunk.physicalType chunk.rowCount.toNat
      chunk.uncompressedBytes.toNat = .ok () := by
    rw [checkPrimitiveValueBytes, htype]
    rfl
  have hencoded : checkedSub chunk.valueRef.length.toNat (ocbColumnChunkV1HeaderLen + 4) =
      some payload.length := by
    rw [checkedSub, if_pos (by omega)]
    exact congrArg some (by omega)
  have hbody : crc32cFinish (crc32cUpdate (crc32cUpdate (crc32cUpdate crc32cInit header) payload)
      trailer) = crc32c (header ++ payload ++ trailer) := by
    simp only [crc32c, crc32cUpdate_append]
  have hobject : crc32cFinish (crc32cUpdate (crc32cUpdate (crc32cUpdate crc32cInit header) payload)
      [0, 0, 0, 0]) = crc32c (header ++ payload ++ [0, 0, 0, 0]) := by
    simp only [crc32c, crc32cUpdate_append]
  rw [readUncompressedFixedBinaryChunkFromSourceInto, failIf_neg (by simp [htype, hcodec]),
    Fallible.lift_ok_bind, h.check, Fallible.lift_ok_bind, hencoded, okOr_some,
    Fallible.lift_ok_bind, Fallible.run_bind_of_ok Fallible.run_getState,
    failIf_neg (by omega), Fallible.lift_ok_bind]
  dsimp only
  rw [hbuffer, ← hplain, OcbReadSource.readExactAt_of_le hfault (by omega), h.payload_eq,
    Fallible.lift_ok_bind, Fallible.run_bind_of_ok Fallible.run_setState,
    OcbReadSource.readExactAt_of_le hfault (by omega), h.trailer_eq, Fallible.lift_ok_bind,
    hbody, hobject, decodeStored, checkStoredChecksums, h.decodePayload_plain hcodec hvalues]
  by_cases hfirst : chunk.valueRef.checksumKind = .crc32c ∧
      crc32c (header ++ payload ++ trailer) ≠ chunk.valueRef.checksum
  · rw [failIf_pos hfirst]
    rfl
  · rw [failIf_neg hfirst]
    by_cases hsecond : crc32c (header ++ payload ++ [0, 0, 0, 0]) ≠ (leNat trailer).toUInt32
    · rw [failIf_pos hsecond]
      rfl
    · rw [failIf_neg hsecond]
      rfl

end Readers

end StoredChunk

/-- The only way to fail behind an accepted header is corruption. -/
lemma StoredChunk.errorsIn_decodeStored
    (h : StoredChunk src chunk limits header payload trailer)
    (hvalues : checkPrimitiveValueBytes chunk.physicalType chunk.rowCount.toNat
      chunk.uncompressedBytes.toNat = .ok ()) :
    ErrorsIn ArcadiaTioError.IsCorrupt (decodeStored zstd chunk limits header payload trailer) := by
  refine .bind (.bind (.failIf fun _ => by simp) fun _ _ => .failIf fun _ => by simp) fun _ _ => ?_
  cases hcodec : chunk.codec with
  | none =>
    rw [h.decodePayload_plain hcodec hvalues]
    exact .ok _
  | zstd =>
    have hexpected : (chunk.storedObject header payload trailer).uncompressedValueBytes =
        .ok chunk.uncompressedBytes.toNat := by
      rw [OcbColumnChunkObjectV1.uncompressedValueBytes]
      exact congrArg (· >>= fun _ => _) hvalues
    have hstored : (chunk.storedObject header payload trailer).codec = .zstd := hcodec
    have hstoredPayload : (chunk.storedObject header payload trailer).payload = payload := rfl
    rw [OcbColumnChunkObjectV1.decodePayloadWithLimits, hexpected, ok_bind]
    simp only [hstored, hstoredPayload]
    rw [failIf_neg (h.compressed hcodec), ok_bind, failIf_neg (not_lt.mpr h.payload_le), ok_bind,
      decodeZstdPayloadBounded]
    refine .bind (.okOr (by simp)) fun _ _ => ?_
    rw [failIf_neg (not_lt.mpr h.values_le), ok_bind]
    refine .bind (.okOr (by simp)) fun _ _ => .bind (.okOr (by simp)) fun _ _ => ?_
    exact .bind (.failIf fun _ => by simp) fun _ _ => .ok _

/-! ### The paths agree -/

variable {m : OcbMetadataV1} {rowGroup : OcbRowGroupDescV1} {columns : ColumnsById}
  {validation : OcbOpenValidationMode}

/-- The part of the check of a chunk that looks at its object: the header alone, or the payload
and the validity bitmap too. -/
def validateChunkPayload (src : OcbReadSource) (zstd : ZstdCodec) (chunk : OcbColumnChunkDescV1)
    (validation : OcbOpenValidationMode) (limits : OcbResourceLimits) : Result Unit :=
  match validation with
  | .metadataGraph => do
    let _ ← validateColumnChunkObjectHeader src chunk limits
    return ()
  | .fullPayload => do
    validateColumnChunkObjectStreaming src zstd chunk limits
    if chunk.validityRef.IsNull then pure ()
    else do
      let validity ←
        src.readObjectBytesWithResourceLimits chunk.validityRef .validityBitmap limits
      failIf (validity.length ≠ validityBitmapLen chunk.rowCount.toNat)
        (ocbCorruptFile "OCB validity bitmap length does not match row count")

/-- A chunk that the graph validation accepts has a header that repeats its descriptor, and its
value bytes are those of its rows. -/
lemma header_of_validateChunkDesc
    (h : validateChunkDesc src zstd m rowGroup chunk columns validation limits = .ok ()) :
    IsOk (validateColumnChunkObjectHeader src chunk limits) ∧
      checkPrimitiveValueBytes chunk.physicalType chunk.rowCount.toNat
        chunk.uncompressedBytes.toNat = .ok () := by
  obtain ⟨_, -, h⟩ := bind_eq_ok.mp h
  obtain ⟨column, -, h⟩ := bind_eq_ok.mp h
  obtain ⟨_, htype, h⟩ := bind_eq_ok.mp h
  obtain ⟨_, -, h⟩ := bind_eq_ok.mp h
  obtain ⟨bytes, hbytes, h⟩ := bind_eq_ok.mp h
  obtain ⟨_, hexpected, h⟩ := bind_eq_ok.mp h
  rw [failIf_eq_ok, not_not] at htype hexpected
  refine ⟨?_, ?_⟩
  · -- the check of the validity reference comes first, when there is one
    have hmode : validateChunkPayload src zstd chunk validation limits = .ok () := by
      dsimp only at h
      by_cases hnull : chunk.validityRef.IsNull
      · rw [if_pos hnull] at h
        exact h
      · rw [if_neg hnull] at h
        obtain ⟨_, -, h⟩ := bind_eq_ok.mp h
        obtain ⟨_, -, h⟩ := bind_eq_ok.mp h
        obtain ⟨_, -, h⟩ := bind_eq_ok.mp h
        exact h
    cases validation with
    | metadataGraph =>
      obtain ⟨header, hheader, -⟩ := bind_eq_ok.mp hmode
      exact ⟨header, hheader⟩
    | fullPayload =>
      obtain ⟨_, hstreaming, -⟩ := bind_eq_ok.mp hmode
      obtain ⟨header, hheader, -⟩ := bind_eq_ok.mp hstreaming
      exact ⟨header, hheader⟩
  · rw [checkPrimitiveValueBytes, htype, hexpected]
    cases hwidth : column.physicalType.primitiveByteWidth with
    | none => rfl
    | some width =>
      obtain ⟨width', hwidth', hbytes⟩ := bind_eq_ok.mp hbytes
      simp only [OcbColumnDescV1.valueByteWidth, hwidth] at hwidth'
      obtain ⟨_, -, hwidth'⟩ := bind_eq_ok.mp hwidth'
      cases hwidth'
      rw [okOr_eq_ok] at hbytes
      simp only [hbytes, okOr_some, ok_bind]
      exact failIf_neg (not_not.mpr rfl)

/-- Read a chunk object whole and decode it. -/
def readAndDecodeChunk (src : OcbReadSource) (zstd : ZstdCodec) (chunk : OcbColumnChunkDescV1)
    (limits : OcbResourceLimits) : Result (List UInt8) := do
  let object ← readColumnChunkFromReaderWithResourceLimits src chunk limits
  validateAndDecodeChunkObject zstd object chunk.physicalType chunk limits

/-- The three readers of a chunk agree, in their success, in their error and in the bytes they
deliver. -/
structure ChunkPathsAgree (src : OcbReadSource) (zstd : ZstdCodec) (chunk : OcbColumnChunkDescV1)
    (limits : OcbResourceLimits) : Prop where
  streaming_isOk : IsOk (validateColumnChunkObjectStreaming src zstd chunk limits) ↔
    IsOk (readAndDecodeChunk src zstd chunk limits)
  streaming_error : ∀ e, validateColumnChunkObjectStreaming src zstd chunk limits = .error e ↔
    readAndDecodeChunk src zstd chunk limits = .error e
  direct_ok : chunk.physicalType = .fixedBinary → chunk.codec = .none → ∀ buffer : List UInt8,
    buffer.length = chunk.uncompressedBytes.toNat → ∀ values : List UInt8,
      (readUncompressedFixedBinaryChunkFromSourceInto src chunk limits).run buffer =
        (.ok (), values) ↔ readAndDecodeChunk src zstd chunk limits = .ok values
  direct_error : chunk.physicalType = .fixedBinary → chunk.codec = .none → ∀ buffer : List UInt8,
    buffer.length = chunk.uncompressedBytes.toNat → ∀ e,
      ((readUncompressedFixedBinaryChunkFromSourceInto src chunk limits).run buffer).1 = .error e ↔
        readAndDecodeChunk src zstd chunk limits = .error e
  errors : ErrorsIn ArcadiaTioError.IsCorrupt (readAndDecodeChunk src zstd chunk limits)

/-- On every file whose reads do not fail, the readers agree on every chunk that passed the graph
validation, in either mode. -/
theorem chunkPaths_agree (hfault : src.FaultFree)
    (h : validateChunkDesc src zstd m rowGroup chunk columns validation limits = .ok ()) :
    ChunkPathsAgree src zstd chunk limits := by
  obtain ⟨⟨header, hheader⟩, hvalues⟩ := header_of_validateChunkDesc h
  obtain ⟨payload, trailer, hstored⟩ := exists_storedChunk hfault hheader
  have hwhole : readAndDecodeChunk src zstd chunk limits =
      decodeStored zstd chunk limits header payload trailer :=
    hstored.readAndDecode_eq hfault hvalues
  refine ⟨?_, ?_, ?_, ?_, ?_⟩
  · rw [hstored.streaming_eq hfault hvalues, hwhole]
    cases decodeStored zstd chunk limits header payload trailer <;> simp
  · intro e
    rw [hstored.streaming_eq hfault hvalues, hwhole]
    cases decodeStored zstd chunk limits header payload trailer <;> simp
  · intro htype hcodec buffer hbuffer values
    rw [hstored.direct_eq hfault htype hcodec hbuffer, hwhole, decodeStored,
      hstored.decodePayload_plain hcodec hvalues]
    cases checkStoredChecksums chunk header payload trailer <;> simp
  · intro htype hcodec buffer hbuffer e
    rw [hstored.direct_eq hfault htype hcodec hbuffer, hwhole]
    cases decodeStored zstd chunk limits header payload trailer <;> simp
  · rw [hwhole]
    exact hstored.errorsIn_decodeStored hvalues

end Stored

/-! ### A fixed-binary chunk -/

/-! A file that is one chunk object: one row of a column of four-byte values. -/

namespace FixedBinarySample

/-- The column of four-byte values. -/
def column : OcbColumnDescV1 where
  columnId := 0
  nameStringId := 0
  physicalType := .fixedBinary
  logicalKind := .plain
  flags := 0
  dictionaryId := ocbNullU32
  scale := 0
  nullability := .nonNull
  reserved0 := 0
  fixedBinaryWidth := 4

/-- The chunk of the row. -/
def object : OcbColumnChunkObjectV1 where
  version := 1
  physicalType := .fixedBinary
  codec := .none
  flags := 0
  rowGroupId := 0
  columnId := 0
  rowCount := 1
  uncompressedBytes := 4
  payload := [7, 0, 0, 0]
  crc32c := 0

/-- The descriptor of the chunk. -/
def chunk : OcbColumnChunkDescV1 where
  rowGroupId := 0
  columnId := 0
  physicalType := .fixedBinary
  codec := .none
  flags := 0
  valueRef := .unchecked 0 52 .columnChunk
  validityRef := .null
  rowCount := 1
  uncompressedBytes := 4

/-- The row group of the row. -/
def rowGroup : OcbRowGroupDescV1 where
  rowGroupId := 0
  flags := 0
  baseRow := 0
  rowCount := 1
  chunkDescBegin := 0
  chunkDescCount := 1
  statBegin := 0
  statCount := 0
  firstKeyTupleRef := .null
  lastKeyTupleRef := .null

lemma length_sealBytes_object : (sealBytes object.fieldBytes).length = 52 :=
  length_sealBytes_objectBytes ocbColumnChunkHeader rfl _ _

/-- The file. -/
def file : OcbReadSource :=
  .ofBytes (sealBytes object.fieldBytes) (by rw [length_sealBytes_object]; decide)

/-- The metadata that the chunk is read with. -/
def metadata : OcbMetadataV1 where
  root := {
    version := 1, flags := 0, rowCount := 1, columnCount := 1, rowGroupCount := 1
    dictionaryCount := 0, schemaRef := .null, dictionaryIndexRef := .null
    rowGroupIndexRef := .null, orderingProofRef := .null, debugJsonRef := .null
    createdUnixNanos := 0, contentFlags := 0, crc32c := 0 }
  stringTable := ⟨1, ["v"], 0⟩
  schema := ⟨1, .null, [column], 0⟩
  dictionaryIndex := none
  rowGroupIndex := ⟨1, 0, [rowGroup], [chunk], [], 0⟩
  rowGroupPositionsById := []
  orderingProof := none
  fileLen := 52
  appendable := false
  rootGeneration := 0
  previousRootGeneration := none
  resourceLimits := .policyA
  openMetadataMaterializedBytes := 0
  openAuxiliaryEncodedBytes := 0

lemma read_header : validateColumnChunkObjectHeader file chunk .policyA =
    .ok (object.fieldBytes.take 44) := by
  have hlen : file.fileLen = 52 := length_sealBytes_object
  have hread : file.readExactAt chunk.valueRef.offset.toNat ocbColumnChunkV1HeaderLen =
      .ok (object.fieldBytes.take 44) := by
    have hfault : file.FaultFree := OcbReadSource.faultFree_ofBytes _ _
    have hle : chunk.valueRef.offset.toNat + ocbColumnChunkV1HeaderLen ≤ file.fileLen := by
      rw [hlen]
      decide
    have hbytes : file.bytes = writeU32AtEnd object.fieldBytes (crc32c object.fieldBytes) := rfl
    rw [OcbReadSource.readExactAt_of_le hfault hle, OcbReadSource.range, hbytes]
    generalize crc32c _ = c
    rfl
  rw [validateColumnChunkObjectHeader, hread, hlen]
  rfl

lemma validate_chunk (zstd : ZstdCodec) : validateChunkDesc file zstd metadata rowGroup chunk
    [column] .metadataGraph .policyA = .ok () := by
  rw [validateChunkDesc]
  simp only [read_header]
  rfl

end FixedBinarySample

theorem chunkPaths_agree_sample :
    ChunkPathsAgree FixedBinarySample.file (fun _ _ => ⟨[], true⟩) FixedBinarySample.chunk
      .policyA :=
  chunkPaths_agree (OcbReadSource.faultFree_ofBytes _ _) (FixedBinarySample.validate_chunk _)

end ArcadiaTio.Ocb
