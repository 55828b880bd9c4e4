import ArcadiaTio.Lib.FirstSuccess
import ArcadiaTio.Ocb.Read.Graph

/-!
# Root selection and opening

A V2 file names up to two roots.  `selectV2Metadata` decodes the root slots in table order and
keeps the candidates that decode and check out; `chooseV2Metadata` then tries the candidates
generation by generation, newest first.  A corruption error discards a candidate, any other
error ends the selection, and two candidates of one generation that name different roots discard
each other.
-/

namespace ArcadiaTio.Ocb

open ArcadiaTio.Lib

/-- A slot with the root that it names. -/
structure OcbRootCandidateV2 where
  slot : OcbRootSlotV2
  root : OcbRootV2
deriving DecidableEq

/-- The error turns a candidate down and lets the next one be tried. -/
def isDiscardableCandidateError (e : ArcadiaTioError) : Prop := e.IsCorrupt

instance : DecidablePred isDiscardableCandidateError :=
  fun e => inferInstanceAs (Decidable e.IsCorrupt)

/-- The error when no candidate is left. -/
def noValidRootSlot : ArcadiaTioError :=
  ocbCorruptFile "OCB root selection found no valid root slot"

/-! ### Decoding the candidates -/

/-- Decode the slot at a table position and the root it names.  An empty slot is no candidate
and no failure. -/
def decodeV2Candidate (src : OcbReadSource) (limits : OcbResourceLimits) (idx : ℕ)
    (slotResult : Result OcbRootSlotV2) : Result (Option OcbRootCandidateV2) := do
  let slot ← slotResult
  if slot.IsEmpty then return none
  else do
    slot.validateCandidate idx.toUInt16 src.fileLen
    let rootBytes ← src.readObjectBytesWithResourceLimits slot.rootRef .root limits
    let root ← OcbRootV2.readFrom rootBytes
    root.validateReferences src.fileLen
    slot.validateRoot root
    return some ⟨slot, root⟩

/-- Decode the slots from a table position on, skipping the discardable failures. -/
def decodeV2Candidates (src : OcbReadSource) (limits : OcbResourceLimits) :
    ℕ → List (Result OcbRootSlotV2) → Result (List OcbRootCandidateV2)
  | _, [] => .ok []
  | idx, slotResult :: rest =>
    match decodeV2Candidate src limits idx slotResult with
    | .error e =>
      if isDiscardableCandidateError e then decodeV2Candidates src limits (idx + 1) rest
      else .error e
    | .ok none => decodeV2Candidates src limits (idx + 1) rest
    | .ok (some candidate) => do
      let candidates ← decodeV2Candidates src limits (idx + 1) rest
      return candidate :: candidates

/-- A sealed slot that checks out, and that names a sealed root that checks out, decodes to a
candidate. -/
lemma decodeV2Candidate_sealed {src : OcbReadSource} {limits : OcbResourceLimits} {idx : ℕ}
    {slot : OcbRootSlotV2} {root : OcbRootV2} {slotResult : Result OcbRootSlotV2}
    (hslot : slotResult = .ok slot.sealed) (hempty : ¬ slot.IsEmpty)
    (hvalid : slot.validateCandidate idx.toUInt16 src.fileLen = .ok ())
    (hread : src.readObjectBytesWithResourceLimits slot.rootRef .root limits =
      .ok (sealBytes root.fieldBytes))
    (hversion : root.version = 2) (hrefs : root.validateReferences src.fileLen = .ok ())
    (hroot : slot.validateRoot root = .ok ()) :
    decodeV2Candidate src limits idx slotResult = .ok (some ⟨slot.sealed, root.sealed⟩) := by
  rw [decodeV2Candidate, hslot, ok_bind, if_neg (by simpa using hempty),
    slot.validateCandidate_sealed, hvalid, ok_bind, slot.rootRef_sealed, hread, ok_bind,
    root.readFrom_sealBytes hversion, ok_bind, root.validateReferences_sealed, hrefs, ok_bind,
    slot.validateRoot_sealed, hroot, ok_bind]
  rfl

/-! ### Choosing among the candidates -/

/-- The commit diagnostics of a root are absent, debug JSON or a row-group index delta. -/
def validateCommitDiagnosticsObject (src : OcbReadSource) (root : OcbRootV2)
    (limits : OcbResourceLimits) : Result Unit :=
  match root.commitDiagnosticsRef.kind with
  | .unknown => .ok ()
  | .debugJsonMetadata =>
    src.validateOptionalObject root.commitDiagnosticsRef .debugJsonMetadata limits
  | .rowGroupIndexDelta =>
    src.validateOptionalObject root.commitDiagnosticsRef .rowGroupIndexDelta limits
  | _ => .error (ocbCorruptFile "OCB root commit_diagnostics_ref has invalid kind")

/-- The metadata of an opened file, once its graph is validated. -/
def finishMetadata (m : OcbMetadataV1) (positionsById : List (UInt32 × ℕ)) :
    Opening OcbMetadataV1 := do
  let s ← Fallible.getState
  return { m with
    rowGroupPositionsById := positionsById
    openMetadataMaterializedBytes := s.budget.chargedBytes
    openAuxiliaryEncodedBytes := s.auxiliary.totalUniqueBytes }

/-- Load and validate everything a V2 root refers to. -/
def loadV2Root (src : OcbReadSource) (zstd : ZstdCodec) (root : OcbRootV2)
    (validation : OcbOpenValidationMode) (limits : OcbResourceLimits) : Opening OcbMetadataV1 := do
  let m ← Opening.metered (readMetadataObjectsV2WithResourceLimits src root limits)
  let positionsById ← validateV2MetadataGraph src zstd m root validation limits
  src.validateOptionalObject root.debugJsonRef .debugJsonMetadata limits
  validateCommitDiagnosticsObject src root limits
  finishMetadata m positionsById

/-- Each attempt has a fresh metadata budget; the auxiliary cache is shared between attempts. -/
def validateV2RootReferencedObjectsWithScope (src : OcbReadSource) (zstd : ZstdCodec)
    (root : OcbRootV2) (validation : OcbOpenValidationMode) (limits : OcbResourceLimits) :
    Fallible ArcadiaTioError OcbOpenAuxiliaryObjectCache OcbMetadataV1 := ⟨fun cache =>
  let (r, s) := (loadV2Root src zstd root validation limits).run
    ⟨cache, MetadataMaterializationBudget.fromLimits limits⟩
  (r, s.auxiliary)⟩

lemma run_validateV2RootReferencedObjectsWithScope {src : OcbReadSource} {zstd : ZstdCodec}
    {root : OcbRootV2} {validation : OcbOpenValidationMode} {limits : OcbResourceLimits}
    {cache : OcbOpenAuxiliaryObjectCache} {r : Result OcbMetadataV1} {s : OpenState}
    (h : (loadV2Root src zstd root validation limits).run
      ⟨cache, MetadataMaterializationBudget.fromLimits limits⟩ = (r, s)) :
    (validateV2RootReferencedObjectsWithScope src zstd root validation limits).run cache =
      (r, s.auxiliary) := by
  simp only [validateV2RootReferencedObjectsWithScope, h]

/-- The generation a candidate commits. -/
def OcbRootCandidateV2.generation (c : OcbRootCandidateV2) : ℕ := c.slot.generation.toNat

/-- The newest generation among the candidates. -/
def maxGeneration (candidates : List OcbRootCandidateV2) : Option ℕ :=
  (candidates.map OcbRootCandidateV2.generation).max?

/-- The candidates of the other generations. -/
def dropGeneration (generation : ℕ) (candidates : List OcbRootCandidateV2) :
    List OcbRootCandidateV2 :=
  candidates.filter fun c => c.generation ≠ generation

lemma mem_dropGeneration {generation : ℕ} {candidates : List OcbRootCandidateV2}
    {c : OcbRootCandidateV2} :
    c ∈ dropGeneration generation candidates ↔ c ∈ candidates ∧ c.generation ≠ generation := by
  simp [dropGeneration]

lemma length_dropGeneration_lt {generation : ℕ} {candidates : List OcbRootCandidateV2}
    {c : OcbRootCandidateV2} (hmem : c ∈ candidates) (hgen : c.generation = generation) :
    (dropGeneration generation candidates).length < candidates.length := by
  refine List.length_filter_lt_length_iff_exists.mpr ⟨c, hmem, ?_⟩
  simpa using hgen

/-- Try the candidates generation by generation, newest first; also returns the cache that the
attempts leave behind. -/
def chooseV2Metadata (validate : OcbRootV2 →
      Fallible ArcadiaTioError OcbOpenAuxiliaryObjectCache OcbMetadataV1)
    (candidates : List OcbRootCandidateV2) (cache : OcbOpenAuxiliaryObjectCache) :
    Result OcbMetadataV1 × OcbOpenAuxiliaryObjectCache :=
  match maxGeneration candidates with
  | none => (.error noValidRootSlot, cache)
  | some generation =>
    match _h : candidates.find? fun c => c.generation = generation with
    -- not reached: the newest generation is that of some candidate
    | none => (.error noValidRootSlot, cache)
    | some candidate =>
      let others := dropGeneration generation candidates
      if ∃ c ∈ candidates, c.generation = generation ∧
          c.slot.rootRef ≠ candidate.slot.rootRef then
        chooseV2Metadata validate others cache
      else
        match (validate candidate.root).run cache with
        | (.ok m, cache) => (.ok m, cache)
        | (.error e, cache) =>
          if isDiscardableCandidateError e then chooseV2Metadata validate others cache
          else (.error e, cache)
termination_by candidates.length
decreasing_by
  all_goals
    have hgen := List.find?_some _h
    exact length_dropGeneration_lt (List.mem_of_find?_eq_some _h) (by simpa using hgen)

/-- The metadata of the newest snapshot that can be loaded. -/
def selectV2Metadata (src : OcbReadSource) (zstd : ZstdCodec) (bootstrap : OcbBootstrapPageV2)
    (validation : OcbOpenValidationMode) (limits : OcbResourceLimits) : Result OcbMetadataV1 := do
  let candidates ← decodeV2Candidates src limits 0 bootstrap.decodedRootSlots
  (chooseV2Metadata
    (fun root => validateV2RootReferencedObjectsWithScope src zstd root validation limits)
    candidates (OcbOpenAuxiliaryObjectCache.new limits)).1

/-! ### Opening a file -/

/-- Load and validate everything a V1 root refers to. -/
def loadV1Root (src : OcbReadSource) (zstd : ZstdCodec) (root : OcbRootV1)
    (validation : OcbOpenValidationMode) (limits : OcbResourceLimits) : Opening OcbMetadataV1 := do
  let m ← Opening.metered (readMetadataObjectsWithResourceLimits src root limits)
  let rootColumnChunkCount ← okOr
    (checkedMul 32 m.root.columnCount.toNat m.root.rowGroupCount.toNat)
    (ocbCorruptFile "OCB v1 root column chunk count overflows")
  let positionsById ← validateMetadataGraph src zstd m rootColumnChunkCount validation limits none
  finishMetadata m positionsById

/-- Open a file of the first version. -/
def readMetadataV1 (src : OcbReadSource) (zstd : ZstdCodec) (validation : OcbOpenValidationMode)
    (limits : OcbResourceLimits) : Result OcbMetadataV1 := do
  let page ← src.readExactAt 0 ocbBootstrapPageLen
  let bootstrap ← OcbBootstrapPageV1.readFrom page
  bootstrap.rootRef.validate .root src.fileLen
  failIf (bootstrap.rootRef.length.toNat ≠ ocbRootV1Len)
    (ocbCorruptFile "OCB root object length is invalid")
  let rootBytes ← src.readObjectBytesWithResourceLimits bootstrap.rootRef .root limits
  let root ← OcbRootV1.readFrom rootBytes
  ((loadV1Root src zstd root validation limits).run ⟨OcbOpenAuxiliaryObjectCache.new limits,
    MetadataMaterializationBudget.fromLimits limits⟩).1

/-- Open a file of the second version. -/
def readMetadataV2 (src : OcbReadSource) (zstd : ZstdCodec) (validation : OcbOpenValidationMode)
    (limits : OcbResourceLimits) : Result OcbMetadataV1 := do
  let page ← src.readExactAt 0 ocbBootstrapPageLen
  let bootstrap ← OcbBootstrapPageV2.readFrom page
  selectV2Metadata src zstd bootstrap validation limits

/-- Open a file of either version. -/
def readMetadataFromSourceWithValidationAndResourceLimits (src : OcbReadSource)
    (zstd : ZstdCodec) (validation : OcbOpenValidationMode) (limits : OcbResourceLimits) :
    Result OcbMetadataV1 := do
  failIf (src.fileLen < ocbBootstrapPageLen)
    (ocbCorruptFile "OCB file is shorter than bootstrap page")
  let magic ← src.readExactAt 0 8
  if magic = ocbBootstrapMagicV1 then readMetadataV1 src zstd validation limits
  else if magic = ocbBootstrapMagicV2 then readMetadataV2 src zstd validation limits
  else .error (ocbUnsupportedFormat "invalid OCB bootstrap magic")

/-- A V1 file laid out from its page, some objects and its root opens as the root loads. -/
lemma readMetadata_v1File (parts : List (List UInt8)) (page : OcbBootstrapPageV1)
    (root : OcbRootV1) (limits : OcbResourceLimits) (h : parts.flatten.length < 2 ^ 64)
    {lens : List ℕ} (hlens : parts.map List.length = lens)
    (hpage : parts[0]? = some (sealBytes page.fieldBytes)) (hmajor : page.formatMajor = 1)
    (hminor : page.formatMinor = 0) (hsize : page.pageSize.toNat = ocbBootstrapPageLen)
    (huuid : page.fileUuid.length = 16) (hversion : root.version = 1) (i : ℕ)
    (hroot : parts[i]? = some (sealBytes root.fieldBytes)) {offset : UInt64}
    (href : page.rootRef = .unchecked offset 220 .root) (hoffset : offset.toNat = (lens.take i).sum)
    (zstd : ZstdCodec) (validation : OcbOpenValidationMode)
    (hlimit : 220 ≤ limits.maxEncodedObjectBytes.toNat) :
    readMetadataFromSourceWithValidationAndResourceLimits (.ofBytes parts.flatten h) zstd validation
      limits = ((loadV1Root (.ofBytes parts.flatten h) zstd root.sealed validation limits).run
        ⟨OcbOpenAuxiliaryObjectCache.new limits, .fromLimits limits⟩).1 := by
  have hpageLen := page.length_sealBytes_fieldBytes huuid
  have hhead : (OcbReadSource.ofBytes parts.flatten h).readExactAt 0 ocbBootstrapPageLen =
      .ok (sealBytes page.fieldBytes) :=
    OcbReadSource.readExactAt_part h hpage rfl hpageLen.symm
  have hlength : lens[i]? = some (220 : UInt64).toNat := by
    rw [← hlens, List.getElem?_map, hroot, Option.map_some, root.length_sealBytes_fieldBytes]
    rfl
  have hrootBytes : (OcbReadSource.ofBytes parts.flatten h).readObjectBytesWithResourceLimits
      page.rootRef .root limits = .ok (sealBytes root.fieldBytes) :=
    OcbReadSource.readObjectBytes_part h hlens i hroot href hoffset hlength (by decide) hlimit
  have hvalid : page.rootRef.validate .root (OcbReadSource.ofBytes parts.flatten h).fileLen =
      .ok () := by
    obtain ⟨u, hvalid, -⟩ := bind_eq_ok.mp hrootBytes
    exact hvalid
  have hfileLen : ¬ (OcbReadSource.ofBytes parts.flatten h).fileLen < ocbBootstrapPageLen := by
    have hsplit := OcbReadSource.flatten_eq_of_getElem? hpage
    simp only [OcbReadSource.fileLen, OcbReadSource.ofBytes, hsplit, List.length_append, hpageLen]
    omega
  have hmagic : (OcbReadSource.ofBytes parts.flatten h).readExactAt 0 8 =
      .ok ocbBootstrapMagicV1 := by
    have hsplit := OcbReadSource.flatten_eq_of_getElem? hpage
    have hshort : 0 + 8 ≤ parts.flatten.length := by
      have : (OcbReadSource.ofBytes parts.flatten h).fileLen = parts.flatten.length := rfl
      have : 8 ≤ ocbBootstrapPageLen := by decide
      omega
    rw [OcbReadSource.readExactAt_ofBytes h (by decide), if_pos hshort, List.drop_zero, hsplit,
      List.take_zero, List.flatten_nil, List.nil_append, List.take_append_of_le_length
        (by rw [hpageLen]; decide), page.take_sealBytes_fieldBytes huuid]
  rw [readMetadataFromSourceWithValidationAndResourceLimits, failIf_neg hfileLen, ok_bind, hmagic,
    ok_bind, if_pos rfl, readMetadataV1, hhead, ok_bind,
    page.readFrom_sealBytes hmajor hminor hsize huuid, ok_bind]
  have hrootLen : ¬ page.rootRef.length.toNat ≠ ocbRootV1Len := by
    rw [href]
    exact not_not.mpr rfl
  have hsealedRef : page.sealed.rootRef = page.rootRef := rfl
  rw [hsealedRef, hvalid, ok_bind, failIf_neg hrootLen, ok_bind, hrootBytes, ok_bind,
    root.readFrom_sealBytes hversion, ok_bind]

end ArcadiaTio.Ocb
