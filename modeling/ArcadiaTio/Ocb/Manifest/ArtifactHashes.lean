import ArcadiaTio.Lib.StreamingHash
import ArcadiaTio.Ocb.CompactL2.PayloadScan

/-!
# The hashes of an artifact

A manifest may give the SHA-256 digest of an artifact, its length and its FNV-1a hash.  A
certification reads the artifact in blocks of 64 KiB through the source that it has opened, and
compares what is given with what it finds.  The blocks make no difference: the digests are those of
all bytes of the file (`verifyOptionalHashes_spec`).

SHA-256 itself is a parameter, a streaming hash with the bytes of its digest.
-/

namespace ArcadiaTio.Ocb

open ArcadiaTio.Lib

/-! ### Reading the bytes -/

/-- The size of the blocks. -/
def sourceHashChunk : ℕ := 64 * 1024

/-- Visit the bytes of a source from an offset on, in blocks. -/
def OcbReadSource.visitBytesFrom {S : Type} (source : OcbReadSource) (readError : String)
    (visit : S → List UInt8 → S) (offset remaining : ℕ) (s : S) : Result S :=
  if remaining = 0 then .ok s
  else
    match source.readExactAt offset (min remaining sourceHashChunk) with
    | .ok block => source.visitBytesFrom readError visit (offset + min remaining sourceHashChunk)
        (remaining - min remaining sourceHashChunk) (visit s block)
    | .error _ => .error (ocbDiagnostic .io readError)
termination_by remaining
decreasing_by
  simp only [sourceHashChunk]
  omega

/-- Hand the bytes of a source to a visitor, one buffer after the other. -/
def visitSourceBytes {S : Type} (source : OcbReadSource) (readError : String)
    (visit : S → List UInt8 → S) (s : S) : Result S :=
  source.visitBytesFrom readError visit 0 source.fileLen s

/-- SHA-256, with the bytes of its digest. -/
structure Sha256 (State : Type) extends StreamingHash State where
  finalize : State → List UInt8

/-- The digest of some bytes. -/
def Sha256.digest {State : Type} (sha : Sha256 State) (bytes : List UInt8) : List UInt8 :=
  sha.finalize (sha.whole bytes)

/-- Some bytes as hexadecimal digits. -/
def hexBytes (bytes : List UInt8) : String := String.ofList (hexChars bytes)

/-- The hash of compact-L2 payloads as a streaming hash. -/
def CompactL2Fnv1a64.streaming : StreamingHash CompactL2Fnv1a64 :=
  ⟨new, update, update_nil, update_append⟩

section Definitions

variable {State : Type} (sha : Sha256 State) (source : OcbReadSource)

/-- The SHA-256 hash of a source, as text. -/
def sha256SourceHex : Result String := do
  let hasher ← visitSourceBytes source "read artifact for sha256 failed" sha.update sha.new
  return hexBytes (sha.finalize hasher)

/-- The FNV-1a hash of a source, as text. -/
def fnv1a64SourceHex : Result String := do
  let hash ← visitSourceBytes source "read artifact for fnv failed" CompactL2Fnv1a64.update .new
  return hash.finishHex

variable (channel : ChannelArtifactFactsV1)

/-- Compare the digest of the payload, if there is one. -/
def verifyPayloadSha256 : Result Bool :=
  match channel.payloadSha256 with
  | some expected => do
    validateHexHash expected 64 .checksumMismatch
    let actual ← sha256SourceHex sha source
    failIf (¬ eqIgnoreAsciiCase expected actual)
      (ocbDiagnostic .checksumMismatch
        s!"channel-sharded OCB SHA-256 mismatch: channel={channel.channelId}")
    return true
  | none => .ok false

/-- Compare the file size in a fingerprint, if there is one. -/
def verifyFingerprintFileBytes : Result Bool :=
  match channel.fingerprintFileBytes with
  | some expectedBytes => do
    failIf (source.fileLen ≠ expectedBytes.toNat)
      (ocbDiagnostic .checksumMismatch
        s!"channel-sharded OCB fingerprint file size mismatch: channel={channel.channelId}")
    return true
  | none => .ok false

/-- Compare the content hash in a fingerprint, if there is one. -/
def verifyFingerprintContentHash (fingerprint : ChannelArtifactFingerprintV1) : Result Bool :=
  match fingerprint.contentHashFnv1a64 with
  | some expected => do
    validateHexHash expected 16 .checksumMismatch
    let actual ← fnv1a64SourceHex source
    failIf (¬ eqIgnoreAsciiCase expected actual)
      (ocbDiagnostic .checksumMismatch
        s!"channel-sharded OCB FNV-1a64 mismatch: channel={channel.channelId}")
    return true
  | none => .ok false

/-- Compare all that a manifest gives; the result tells whether it gives anything. -/
def verifyOptionalHashesFromSource : Result Bool := do
  let verified ← verifyPayloadSha256 sha source channel
  match channel.fingerprint with
  | some fingerprint => do
    let sized ← verifyFingerprintFileBytes source channel
    let hashed ← verifyFingerprintContentHash source channel fingerprint
    return verified || sized || hashed
  | none => return verified

end Definitions

/-! ### The hashes are those of the file -/

/-- What the given hash says of some digest. -/
structure HashMatches (expected : String) (expectedLen : ℕ) (actual : String) : Prop where
  valid : validateHexHash expected expectedLen .checksumMismatch = .ok ()
  same : eqIgnoreAsciiCase expected actual = true

/-- All that the manifest gives of an artifact is so for its bytes. -/
structure ChannelArtifactFactsV1.HashesHold {State : Type} (channel : ChannelArtifactFactsV1)
    (sha : Sha256 State) (bytes : List UInt8) : Prop where
  payloadSha256 : ∀ expected ∈ channel.payloadSha256,
    HashMatches expected 64 (hexBytes (sha.digest bytes))
  fileBytes : channel.fingerprint.isSome → ∀ expected ∈ channel.fingerprintFileBytes,
    bytes.length = expected.toNat
  contentHash : ∀ fingerprint ∈ channel.fingerprint, ∀ expected ∈ fingerprint.contentHashFnv1a64,
    HashMatches expected 16 (fnv1a64Hex bytes)

/-- The manifest gives something to compare. -/
def ChannelArtifactFactsV1.hasHashes (channel : ChannelArtifactFactsV1) : Bool :=
  channel.payloadSha256.isSome || channel.fingerprint.any fun fingerprint =>
    channel.fingerprintFileBytes.isSome || fingerprint.contentHashFnv1a64.isSome

section Hashes

variable {State : Type} {sha : Sha256 State} {source : OcbReadSource}
  {channel : ChannelArtifactFactsV1} {verified : Bool}

/-- Visiting a source with a hash is hashing a range of it. -/
lemma visitBytesFrom_eq (hfault : source.FaultFree) (hash : StreamingHash State)
    {readError : String} {offset remaining : ℕ} (h : offset + remaining ≤ source.fileLen)
    (s : State) : source.visitBytesFrom readError hash.update offset remaining s =
      .ok (hash.update s (source.range offset remaining)) := by
  induction remaining using Nat.strongRecOn generalizing offset s with
  | ind remaining ih =>
    rw [OcbReadSource.visitBytesFrom]
    by_cases hzero : remaining = 0
    · rw [if_pos hzero, hzero, OcbReadSource.range, List.take_zero, hash.update_nil]
    · have hblock : min remaining sourceHashChunk ≤ remaining := Nat.min_le_left _ _
      have hpos : 0 < min remaining sourceHashChunk := by
        rw [sourceHashChunk]
        omega
      rw [if_neg hzero, OcbReadSource.readExactAt_of_le hfault (by omega)]
      dsimp only
      rw [ih _ (by omega) (by omega), ← hash.update_append, OcbReadSource.range_append,
        Nat.add_sub_cancel' hblock]

lemma visitSourceBytes_eq (hfault : source.FaultFree) (hash : StreamingHash State)
    {readError : String} : visitSourceBytes source readError hash.update hash.new =
      .ok (hash.whole source.bytes) := by
  have hall : source.range 0 source.fileLen = source.bytes := by
    rw [OcbReadSource.range, OcbReadSource.fileLen, List.drop_zero, List.take_length]
  rw [visitSourceBytes, visitBytesFrom_eq hfault hash (by omega), hall]
  rfl

lemma sha256SourceHex_eq (hfault : source.FaultFree) :
    sha256SourceHex sha source = .ok (hexBytes (sha.digest source.bytes)) := by
  rw [sha256SourceHex, visitSourceBytes_eq hfault sha.toStreamingHash, ok_bind]
  rfl

lemma fnv1a64SourceHex_eq (hfault : source.FaultFree) :
    fnv1a64SourceHex source = .ok (fnv1a64Hex source.bytes) := by
  have hvisit := @visitSourceBytes_eq _ source hfault CompactL2Fnv1a64.streaming
    "read artifact for fnv failed"
  exact congrArg (· >>= fun hash => pure hash.finishHex) hvisit

/-- Comparing a hash with the one that is given. -/
lemma compareHash_eq_ok {given : String} {len : ℕ} {actual : Result String} {found : String}
    (hactual : actual = .ok found) {error : ArcadiaTioError} :
    (do
      validateHexHash given len .checksumMismatch
      let actual ← actual
      failIf (¬ eqIgnoreAsciiCase given actual) error
      return true : Result Bool) = .ok verified ↔ HashMatches given len found ∧ verified = true := by
  rw [hactual]
  constructor
  · intro h
    obtain ⟨_, hvalid, h⟩ := bind_eq_ok.mp h
    obtain ⟨_, hfound, h⟩ := bind_eq_ok.mp h
    obtain rfl := Except.ok.inj hfound
    obtain ⟨_, hsame, h⟩ := bind_eq_ok.mp h
    rw [failIf_eq_ok, not_not] at hsame
    exact ⟨⟨hvalid, hsame⟩, (Except.ok.inj h).symm⟩
  · rintro ⟨⟨hvalid, hsame⟩, rfl⟩
    rw [hvalid, ok_bind, ok_bind, failIf_neg (not_not.mpr hsame)]
    rfl

lemma verifyPayloadSha256_eq_ok (hfault : source.FaultFree) :
    verifyPayloadSha256 sha source channel = .ok verified ↔
      (∀ expected ∈ channel.payloadSha256,
        HashMatches expected 64 (hexBytes (sha.digest source.bytes))) ∧
      verified = channel.payloadSha256.isSome := by
  rw [verifyPayloadSha256]
  cases channel.payloadSha256 with
  | none => simp [eq_comm]
  | some expected =>
    simpa using compareHash_eq_ok (sha256SourceHex_eq hfault)

lemma verifyFingerprintFileBytes_eq_ok :
    verifyFingerprintFileBytes source channel = .ok verified ↔
      (∀ expected ∈ channel.fingerprintFileBytes, source.bytes.length = expected.toNat) ∧
      verified = channel.fingerprintFileBytes.isSome := by
  rw [verifyFingerprintFileBytes]
  cases channel.fingerprintFileBytes with
  | none => simp [eq_comm]
  | some expected =>
    simp only [Option.mem_some_iff, forall_eq', Option.isSome_some]
    constructor
    · intro h
      obtain ⟨_, hsize, h⟩ := bind_eq_ok.mp h
      rw [failIf_eq_ok, not_not] at hsize
      exact ⟨hsize, (Except.ok.inj h).symm⟩
    · rintro ⟨hsize, rfl⟩
      have hlen : source.fileLen = expected.toNat := hsize
      rw [failIf_neg (not_not.mpr hlen)]
      rfl

lemma verifyFingerprintContentHash_eq_ok (hfault : source.FaultFree)
    {fingerprint : ChannelArtifactFingerprintV1} :
    verifyFingerprintContentHash source channel fingerprint = .ok verified ↔
      (∀ expected ∈ fingerprint.contentHashFnv1a64,
        HashMatches expected 16 (fnv1a64Hex source.bytes)) ∧
      verified = fingerprint.contentHashFnv1a64.isSome := by
  rw [verifyFingerprintContentHash]
  cases fingerprint.contentHashFnv1a64 with
  | none => simp [eq_comm]
  | some expected =>
    simpa using compareHash_eq_ok (fnv1a64SourceHex_eq hfault)

/-- The comparisons succeed exactly when all that the manifest gives is so for the bytes of the
file, and tell whether it gives anything. -/
theorem verifyOptionalHashesFromSource_eq_ok (hfault : source.FaultFree) :
    verifyOptionalHashesFromSource sha source channel = .ok verified ↔
      channel.HashesHold sha source.bytes ∧ verified = channel.hasHashes := by
  rw [verifyOptionalHashesFromSource, ChannelArtifactFactsV1.hasHashes]
  constructor
  · intro h
    obtain ⟨paid, hpaid, h⟩ := bind_eq_ok.mp h
    obtain ⟨hsha, rfl⟩ := (verifyPayloadSha256_eq_ok hfault).mp hpaid
    cases hfingerprint : channel.fingerprint with
    | none =>
      rw [hfingerprint] at h
      refine ⟨⟨hsha, fun hsome => ?_, fun fingerprint hmem => ?_⟩, ?_⟩
      · rw [hfingerprint] at hsome
        cases hsome
      · rw [hfingerprint] at hmem
        cases hmem
      · simpa using (Except.ok.inj h).symm
    | some fingerprint =>
      rw [hfingerprint] at h
      obtain ⟨sized, hsized, h⟩ := bind_eq_ok.mp h
      obtain ⟨hashed, hhashed, h⟩ := bind_eq_ok.mp h
      obtain ⟨hsize, rfl⟩ := verifyFingerprintFileBytes_eq_ok.mp hsized
      obtain ⟨hcontent, rfl⟩ := (verifyFingerprintContentHash_eq_ok hfault).mp hhashed
      refine ⟨⟨hsha, fun _ => hsize, fun fingerprint' hmem => ?_⟩, ?_⟩
      · rw [hfingerprint] at hmem
        obtain rfl := Option.some.inj hmem
        exact hcontent
      · simpa [Bool.or_assoc] using (Except.ok.inj h).symm
  · rintro ⟨⟨hsha, hsize, hcontent⟩, rfl⟩
    rw [(verifyPayloadSha256_eq_ok hfault).mpr ⟨hsha, rfl⟩, ok_bind]
    cases hfingerprint : channel.fingerprint with
    | none => simp [pure_eq_ok]
    | some fingerprint =>
      have hsized := verifyFingerprintFileBytes_eq_ok.mpr
        ⟨hsize (by rw [hfingerprint]; rfl), rfl⟩
      have hhashed := (@verifyFingerprintContentHash_eq_ok source channel _ hfault fingerprint).mpr
        ⟨hcontent fingerprint hfingerprint, rfl⟩
      dsimp only
      rw [hsized, ok_bind, hhashed]
      simp [Bool.or_assoc, pure_eq_ok]

/-! ### How the comparisons fail -/

/-- The error is of a detailed kind. -/
def ArcadiaTioError.IsOfKind (kind : OcbErrorKind) (error : ArcadiaTioError) : Prop :=
  ∃ message, error = ocbDiagnostic kind message

lemma errorsIn_validateHexHash {given : String} {len : ℕ} {kind : OcbErrorKind} :
    ErrorsIn (ArcadiaTioError.IsOfKind kind) (validateHexHash given len kind) :=
  ErrorsIn.failIf fun _ => ⟨_, rfl⟩

/-- When nothing fails that is read, a comparison fails as a mismatch. -/
lemma errorsIn_verifyOptionalHashes (hfault : source.FaultFree) :
    ErrorsIn (ArcadiaTioError.IsOfKind .checksumMismatch)
      (verifyOptionalHashesFromSource sha source channel) := by
  have hsha : ErrorsIn (ArcadiaTioError.IsOfKind .checksumMismatch)
      (verifyPayloadSha256 sha source channel) := by
    rw [verifyPayloadSha256, sha256SourceHex_eq hfault]
    cases channel.payloadSha256 with
    | none => exact ErrorsIn.ok _
    | some given =>
      exact errorsIn_validateHexHash.bind fun _ _ => (ErrorsIn.ok _).bind fun _ _ =>
        (ErrorsIn.failIf fun _ => ⟨_, rfl⟩).bind fun _ _ => ErrorsIn.ok _
  have hsize : ErrorsIn (ArcadiaTioError.IsOfKind .checksumMismatch)
      (verifyFingerprintFileBytes source channel) := by
    rw [verifyFingerprintFileBytes]
    cases channel.fingerprintFileBytes with
    | none => exact ErrorsIn.ok _
    | some given => exact (ErrorsIn.failIf fun _ => ⟨_, rfl⟩).bind fun _ _ => ErrorsIn.ok _
  have hcontent : ∀ fingerprint, ErrorsIn (ArcadiaTioError.IsOfKind .checksumMismatch)
      (verifyFingerprintContentHash source channel fingerprint) := by
    intro fingerprint
    rw [verifyFingerprintContentHash, fnv1a64SourceHex_eq hfault]
    cases fingerprint.contentHashFnv1a64 with
    | none => exact ErrorsIn.ok _
    | some given =>
      exact errorsIn_validateHexHash.bind fun _ _ => (ErrorsIn.ok _).bind fun _ _ =>
        (ErrorsIn.failIf fun _ => ⟨_, rfl⟩).bind fun _ _ => ErrorsIn.ok _
  rw [verifyOptionalHashesFromSource]
  refine hsha.bind fun _ _ => ?_
  cases channel.fingerprint with
  | none => exact ErrorsIn.ok _
  | some fingerprint =>
    exact hsize.bind fun _ _ => (hcontent fingerprint).bind fun _ _ => ErrorsIn.ok _

/-! ### What the hashes determine -/

lemma HashMatches.toLower_eq {given a b : String} {len : ℕ} (ha : HashMatches given len a)
    (hb : HashMatches given len b) : a.toList.map Char.toLower = b.toList.map Char.toLower :=
  (of_decide_eq_true ha.same).symm.trans (of_decide_eq_true hb.same)

lemma hexBytes_eq {a b : List UInt8}
    (h : (hexBytes a).toList.map Char.toLower = (hexBytes b).toList.map Char.toLower) : a = b := by
  rw [hexBytes, hexBytes, String.toList_ofList, String.toList_ofList, map_toLower_hexChars,
    map_toLower_hexChars] at h
  exact hexChars_injective h

lemma finishHex_eq {a b : CompactL2Fnv1a64}
    (h : a.finishHex.toList.map Char.toLower = b.finishHex.toList.map Char.toLower) : a = b := by
  have hlower : ∀ hash : CompactL2Fnv1a64, hash.finishHex.toList.map Char.toLower =
      List.leftpad 16 '0' (Nat.toDigits 16 hash.value.toNat) := by
    intro hash
    rw [CompactL2Fnv1a64.finishHex, String.toList_ofList, List.leftpad, List.map_append,
      map_toLower_toDigits, List.map_replicate]
    rfl
  have hvalue : ∀ hash : CompactL2Fnv1a64,
      hexValue (hash.finishHex.toList.map Char.toLower) = hash.value.toNat := by
    intro hash
    rw [hlower hash, hexValue_leftpad, hexValue_toDigits]
  have hsame : a.value.toNat = b.value.toNat := by rw [← hvalue a, ← hvalue b, h]
  cases a
  cases b
  exact congrArg _ (UInt64.toNat_inj.mp hsame)

/-- What two files have in common that both hold what is given of one artifact. -/
structure ChannelArtifactFactsV1.SameHashes {State : Type} (channel : ChannelArtifactFactsV1)
    (sha : Sha256 State) (a b : List UInt8) : Prop where
  digest : channel.payloadSha256.isSome → sha.digest a = sha.digest b
  length : channel.fingerprint.isSome → channel.fingerprintFileBytes.isSome → a.length = b.length
  fnv1a64 : (channel.fingerprint.bind (·.contentHashFnv1a64)).isSome →
    CompactL2Fnv1a64.new.update a = CompactL2Fnv1a64.new.update b

lemma ChannelArtifactFactsV1.HashesHold.sameHashes {a b : List UInt8}
    (ha : channel.HashesHold sha a) (hb : channel.HashesHold sha b) :
    channel.SameHashes sha a b where
  digest := by
    intro hsome
    obtain ⟨given, hgiven⟩ := Option.isSome_iff_exists.mp hsome
    exact hexBytes_eq ((ha.payloadSha256 given hgiven).toLower_eq (hb.payloadSha256 given hgiven))
  length := by
    intro hfingerprint hsome
    obtain ⟨given, hgiven⟩ := Option.isSome_iff_exists.mp hsome
    exact (ha.fileBytes hfingerprint given hgiven).trans (hb.fileBytes hfingerprint given hgiven).symm
  fnv1a64 := by
    intro hsome
    obtain ⟨given, hgiven⟩ := Option.isSome_iff_exists.mp hsome
    obtain ⟨fingerprint, hfingerprint, hgiven⟩ := Option.bind_eq_some_iff.mp hgiven
    exact finishHex_eq ((ha.contentHash fingerprint hfingerprint given hgiven).toLower_eq
      (hb.contentHash fingerprint hfingerprint given hgiven))

/-- The comparisons succeed exactly when all that the manifest gives is so for the bytes of the
file, and tell whether it gives anything.  They fail only as mismatches, and another file that
passes them has the same hashes. -/
theorem verifyOptionalHashes_spec (sha : Sha256 State) (channel : ChannelArtifactFactsV1)
    (hfault : source.FaultFree) :
    (∀ verified, verifyOptionalHashesFromSource sha source channel = .ok verified ↔
      channel.HashesHold sha source.bytes ∧ verified = channel.hasHashes) ∧
    ErrorsIn (ArcadiaTioError.IsOfKind .checksumMismatch)
      (verifyOptionalHashesFromSource sha source channel) ∧
    (channel.HashesHold sha source.bytes → ∀ bytes, channel.HashesHold sha bytes →
      channel.SameHashes sha source.bytes bytes) := by
  refine ⟨fun verified => verifyOptionalHashesFromSource_eq_ok hfault,
    errorsIn_verifyOptionalHashes hfault, fun ha bytes hb => ha.sameHashes hb⟩

end Hashes

namespace Sample

/-- SHA-256 on three letters. -/
def sha256 : Sha256 (List UInt8) where
  new := []
  update s bytes := s ++ bytes
  update_nil := List.append_nil
  update_append s a b := (List.append_assoc s a b).symm
  finalize bytes := if bytes = [97, 98, 99] then
    [0xba, 0x78, 0x16, 0xbf, 0x8f, 0x01, 0xcf, 0xea, 0x41, 0x41, 0x40, 0xde, 0x5d, 0xae, 0x22, 0x23,
      0xb0, 0x03, 0x61, 0xa3, 0x96, 0x17, 0x7a, 0x9c, 0xb4, 0x10, 0xff, 0x61, 0xf2, 0x00, 0x15, 0xad]
    else []

/-- A channel with all hashes of the three letters, one of them in capitals. -/
def hashedChannel : ChannelArtifactFactsV1 where
  channelId := 7
  relativePath := "7.ocb"
  rowCount := 1
  rowGroupCount := 1
  firstBizIndex := 1
  lastBizIndex := 1
  orderRecordCount := none
  tradeRecordCount := none
  payloadSha256 := some "BA7816BF8F01CFEA414140DE5DAE2223B00361A396177A9CB410FF61F20015AD"
  fingerprint := some ⟨some "e71fa2190541574b"⟩
  minReceiveNano := none
  maxReceiveNano := none
  fingerprintFileBytes := some 3

end Sample

theorem verifyOptionalHashes_sample : verifyOptionalHashesFromSource Sample.sha256
    (.ofBytes [97, 98, 99] (by decide)) Sample.hashedChannel = .ok true := by
  refine ((verifyOptionalHashes_spec Sample.sha256 Sample.hashedChannel
    (OcbReadSource.faultFree_ofBytes _ _)).1 true).mpr ⟨⟨?_, ?_, ?_⟩, rfl⟩
  · intro given hgiven
    obtain rfl := Option.some.inj hgiven
    exact ⟨by decide, by decide⟩
  · intro _ given hgiven
    obtain rfl := Option.some.inj hgiven
    rfl
  · intro fingerprint hfingerprint given hgiven
    obtain rfl := Option.some.inj hfingerprint
    obtain rfl := Option.some.inj hgiven
    exact ⟨by decide, by decide⟩

end ArcadiaTio.Ocb
