import ArcadiaTio.Ocb.Read.Fallback

/-!
# Maintenance analysis

`analyzeV2Maintenance` looks at an appendable file for maintenance.  It selects a snapshot as the
opening does, and reports besides which root slots it turned down, and why, and where the last
byte of the selected snapshot ends.  Each of its loops repeats a loop of `selectV2Metadata` with a
diagnostic for every failure that is discarded, so that forgetting the diagnostics gives back the
selection (`fst_analyzeV2Candidates`, `metadata_chooseV2Analysis`).
-/

namespace ArcadiaTio.Ocb

open ArcadiaTio.Lib

/-- The text of an error. -/
def ArcadiaTioError.display : ArcadiaTioError → String
  | unimplemented message => "unimplemented: " ++ message
  | invalidArgument message => "invalid argument: " ++ message
  | ocb .lockUnavailable message | ocb .io message => "io error: " ++ message
  | ocb _ message => "invalid argument: " ++ message
  | ocbDiagnostic .lockUnavailable message | ocbDiagnostic .io message => "io error: " ++ message
  | ocbDiagnostic _ message => "invalid argument: " ++ message
  | io message => "io error: " ++ message

/-- What is reported of a slot that could not be used. -/
structure OcbRootCandidateDiagnosticV2 where
  slotId : Option UInt16
  generation : Option UInt64
  message : String
deriving DecidableEq

/-- What the analysis of a file reports. -/
structure OcbMaintenanceAnalysisV2 where
  fileLen : ℕ
  selectedSlotId : UInt16
  selectedRootGeneration : UInt64
  previousRootGeneration : Option UInt64
  selectedRootEndOffset : ℕ
  selectedSnapshotEndOffset : ℕ
  metadata : OcbMetadataV1
  rejectedCandidates : List OcbRootCandidateDiagnosticV2
deriving DecidableEq

/-! ### The end of a snapshot -/

/-- Where the object of a reference ends. -/
def bodyRefEnd (reference : OcbBodyRefV2) : Result ℕ :=
  okOr (checkedAdd 64 reference.offset.toNat reference.length.toNat)
    (ocbCorruptFile "OCB body reference range overflows")

/-- The larger of a bound and the end of a reference that is not null. -/
def updateMaxRefEnd (maxEnd : ℕ) (reference : OcbBodyRefV2) : Result ℕ :=
  if reference.IsNull then .ok maxEnd
  else do
    let endOffset ← bodyRefEnd reference
    return max maxEnd endOffset

/-- Every reference of a snapshot, in the order in which they are looked at. -/
def snapshotReferences (slot : OcbRootSlotV2) (root : OcbRootV2) (m : OcbMetadataV1) :
    List OcbBodyRefV2 :=
  [slot.rootRef, slot.previousRootRef, slot.commitDiagnosticsRef, root.previousRootRef,
    root.schemaRef, root.dictionaryIndexRef, root.rowGroupIndexRef, root.orderingProofRef,
    root.debugJsonRef, root.firstKeyTupleRef, root.lastKeyTupleRef, root.appendFirstKeyTupleRef,
    root.appendLastKeyTupleRef, root.commitDiagnosticsRef, m.schema.stringTableRef] ++
  (m.dictionaryIndex.elim [] fun index =>
    index.dictionaries.map OcbDictionaryDescV1.valuesRef) ++
  (m.rowGroupIndex.rowGroups.flatMap fun rowGroup =>
    [rowGroup.firstKeyTupleRef, rowGroup.lastKeyTupleRef]) ++
  (m.rowGroupIndex.columnChunks.flatMap fun chunk => [chunk.valueRef, chunk.validityRef]) ++
  (m.orderingProof.elim [] fun ordering => ordering.rowGroupProofs.flatMap fun proof =>
    [proof.firstTupleRef, proof.lastTupleRef])

/-- Where the last object of the selected snapshot ends. -/
def selectedSnapshotReferencedEnd (slot : OcbRootSlotV2) (root : OcbRootV2)
    (m : OcbMetadataV1) : Result ℕ :=
  (snapshotReferences slot root m).foldlM updateMaxRefEnd ocbBootstrapPageLen

/-! ### Looking at the slots -/

/-- A failing step of the analysis, and what its diagnostic says when it is discarded. -/
structure SlotFailure where
  error : ArcadiaTioError
  generation : Option UInt64
  context : String

/-- The diagnostic of a failure at a slot. -/
def SlotFailure.diagnostic (failure : SlotFailure) (slotId : UInt16) :
    OcbRootCandidateDiagnosticV2 :=
  ⟨some slotId, failure.generation, failure.context ++ failure.error.display⟩

/-- A step of the analysis whose failure is reported in a context. -/
def during {α : Type} (generation : Option UInt64) (context : String) (x : Result α) :
    Except SlotFailure α :=
  x.mapError fun e => ⟨e, generation, context⟩

/-- Decode the slot at a table position and the root it names, with a context for every step. -/
def analyzeV2Candidate (src : OcbReadSource) (limits : OcbResourceLimits) (idx : ℕ)
    (slotResult : Result OcbRootSlotV2) : Except SlotFailure (Option OcbRootCandidateV2) := do
  let slot ← during none "OCB root slot could not be decoded: " slotResult
  if slot.IsEmpty then return none
  else do
    let generation := some slot.generation
    during generation "OCB root slot candidate is invalid: "
      (slot.validateCandidate idx.toUInt16 src.fileLen)
    let rootBytes ← during generation "OCB root object could not be read: "
      (src.readObjectBytesWithResourceLimits slot.rootRef .root limits)
    let root ← during generation "OCB root object could not be decoded: "
      (OcbRootV2.readFrom rootBytes)
    during generation "OCB root references are invalid: " (root.validateReferences src.fileLen)
    during generation "OCB root slot/root metadata is inconsistent: " (slot.validateRoot root)
    return some ⟨slot, root⟩

/-- Decode the slots from a table position on; every failure that is discarded leaves a
diagnostic. -/
def analyzeV2Candidates (src : OcbReadSource) (limits : OcbResourceLimits) :
    ℕ → List (Result OcbRootSlotV2) →
    Result (List OcbRootCandidateV2 × List OcbRootCandidateDiagnosticV2)
  | _, [] => .ok ([], [])
  | idx, slotResult :: rest =>
    match analyzeV2Candidate src limits idx slotResult with
    | .error failure =>
      if isDiscardableCandidateError failure.error then do
        let (candidates, diagnostics) ← analyzeV2Candidates src limits (idx + 1) rest
        return (candidates, failure.diagnostic idx.toUInt16 :: diagnostics)
      else .error failure.error
    | .ok none => analyzeV2Candidates src limits (idx + 1) rest
    | .ok (some candidate) => do
      let (candidates, diagnostics) ← analyzeV2Candidates src limits (idx + 1) rest
      return (candidate :: candidates, diagnostics)

/-! ### Choosing among the candidates -/

/-- The diagnostics of a generation whose candidates name different roots. -/
def conflictDiagnostics (generation : ℕ) (candidates : List OcbRootCandidateV2) :
    List OcbRootCandidateDiagnosticV2 :=
  (candidates.filter fun c => c.generation = generation).map fun c =>
    ⟨some c.slot.slotId, some c.slot.generation,
      "OCB root generation has conflicting root references"⟩

/-- The diagnostic of a candidate that does not load. -/
def loadDiagnostic (candidate : OcbRootCandidateV2) (e : ArcadiaTioError) :
    OcbRootCandidateDiagnosticV2 :=
  ⟨some candidate.slot.slotId, some candidate.slot.generation,
    "OCB selected root candidate failed validation: " ++ e.display⟩

/-- The report on the candidate that was selected. -/
def selectedAnalysis (fileLen : ℕ) (candidate : OcbRootCandidateV2) (m : OcbMetadataV1)
    (diagnostics : List OcbRootCandidateDiagnosticV2) : Result OcbMaintenanceAnalysisV2 := do
  let selectedRootEndOffset ← bodyRefEnd candidate.slot.rootRef
  let selectedSnapshotEndOffset ←
    selectedSnapshotReferencedEnd candidate.slot candidate.root m
  return {
    fileLen
    selectedSlotId := candidate.slot.slotId
    selectedRootGeneration := candidate.slot.generation
    previousRootGeneration :=
      if candidate.slot.previousRootRef.IsNull then none
      else some candidate.slot.previousGeneration
    selectedRootEndOffset, selectedSnapshotEndOffset
    metadata := m
    rejectedCandidates := diagnostics }

/-- Try the candidates generation by generation, newest first, and report on the first that
loads. -/
def chooseV2Analysis (validate : OcbRootV2 →
      Fallible ArcadiaTioError OcbOpenAuxiliaryObjectCache OcbMetadataV1) (fileLen : ℕ)
    (candidates : List OcbRootCandidateV2) (diagnostics : List OcbRootCandidateDiagnosticV2)
    (cache : OcbOpenAuxiliaryObjectCache) : Result OcbMaintenanceAnalysisV2 :=
  match maxGeneration candidates with
  | none => .error noValidRootSlot
  | some generation =>
    match _h : candidates.find? fun c => c.generation = generation with
    -- not reached: the newest generation is that of some candidate
    | none => .error noValidRootSlot
    | some candidate =>
      let others := dropGeneration generation candidates
      if ∃ c ∈ candidates, c.generation = generation ∧
          c.slot.rootRef ≠ candidate.slot.rootRef then
        chooseV2Analysis validate fileLen others
          (diagnostics ++ conflictDiagnostics generation candidates) cache
      else
        match (validate candidate.root).run cache with
        | (.ok m, _) => selectedAnalysis fileLen candidate m diagnostics
        | (.error e, cache) =>
          if isDiscardableCandidateError e then
            chooseV2Analysis validate fileLen others (diagnostics ++ [loadDiagnostic candidate e])
              cache
          else .error e
termination_by candidates.length
decreasing_by
  all_goals
    have hgen := List.find?_some _h
    exact length_dropGeneration_lt (List.mem_of_find?_eq_some _h) (by simpa using hgen)

/-- Analyse a file of the second version behind its page. -/
def analyzeV2MaintenanceFromBootstrap (src : OcbReadSource) (zstd : ZstdCodec)
    (bootstrap : OcbBootstrapPageV2) (validation : OcbOpenValidationMode)
    (limits : OcbResourceLimits) : Result OcbMaintenanceAnalysisV2 := do
  let (candidates, diagnostics) ← analyzeV2Candidates src limits 0 bootstrap.decodedRootSlots
  chooseV2Analysis
    (fun root => validateV2RootReferencedObjectsWithScope src zstd root validation limits)
    src.fileLen candidates diagnostics (OcbOpenAuxiliaryObjectCache.new limits)

/-- Analyse a file of the second version. -/
def analyzeV2Maintenance (src : OcbReadSource) (zstd : ZstdCodec)
    (validation : OcbOpenValidationMode) : Result OcbMaintenanceAnalysisV2 := do
  failIf (src.fileLen < ocbBootstrapPageLen)
    (ocbCorruptFile "OCB file is shorter than bootstrap page")
  let magic ← src.readExactAt 0 8
  if magic = ocbBootstrapMagicV2 then do
    let page ← src.readExactAt 0 ocbBootstrapPageLen
    let bootstrap ← OcbBootstrapPageV2.readFrom page
    analyzeV2MaintenanceFromBootstrap src zstd bootstrap validation .policyA
  else if magic = ocbBootstrapMagicV1 then
    .error (ocbUnsupportedFormat "OCB maintenance analysis requires an appendable OCB file")
  else .error (ocbUnsupportedFormat "invalid OCB bootstrap magic")

/-! ### Forgetting the diagnostics -/

section Forget

variable {α β : Type} {src : OcbReadSource} {limits : OcbResourceLimits}

lemma mapError_during_bind (generation : Option UInt64) (context : String) (x : Result α)
    (f : α → Except SlotFailure β) :
    (during generation context x >>= f).mapError SlotFailure.error =
      x >>= fun a => (f a).mapError SlotFailure.error := by
  cases x <;> rfl

/-- A slot is decoded to the same candidate, or fails with the same error. -/
lemma mapError_analyzeV2Candidate (idx : ℕ) (slotResult : Result OcbRootSlotV2) :
    (analyzeV2Candidate src limits idx slotResult).mapError SlotFailure.error =
      decodeV2Candidate src limits idx slotResult := by
  rw [analyzeV2Candidate, decodeV2Candidate, mapError_during_bind]
  congr 1
  ext slot
  by_cases hempty : slot.IsEmpty
  · rw [if_pos hempty, if_pos hempty]
    rfl
  · rw [if_neg hempty, if_neg hempty]
    simp only [mapError_during_bind]
    rfl

lemma fst_analyzeV2Candidates (idx : ℕ) (slots : List (Result OcbRootSlotV2)) :
    Prod.fst <$> analyzeV2Candidates src limits idx slots =
      decodeV2Candidates src limits idx slots := by
  induction slots generalizing idx with
  | nil => rfl
  | cons slotResult rest ih =>
    have hslot := @mapError_analyzeV2Candidate src limits idx slotResult
    rw [analyzeV2Candidates, decodeV2Candidates, ← hslot, ← ih]
    rcases analyzeV2Candidate src limits idx slotResult with failure | _ | candidate
    · simp only [Except.mapError]
      split
      · rcases analyzeV2Candidates src limits (idx + 1) rest with e | ⟨candidates, diagnostics⟩ <;>
          rfl
      · rfl
    · rfl
    · simp only [Except.mapError]
      rcases analyzeV2Candidates src limits (idx + 1) rest with e | ⟨candidates, diagnostics⟩ <;>
        rfl

end Forget

end ArcadiaTio.Ocb
