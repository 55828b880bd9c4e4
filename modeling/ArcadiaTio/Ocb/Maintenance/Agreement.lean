import ArcadiaTio.Ocb.Maintenance.SnapshotEnd

/-!
# The analysis agrees with the opening

The analysis selects exactly the snapshot that opening the file selects, and fails exactly when
that fails, with the same error (`metadata_analyzeV2Maintenance`): the diagnostics and the offsets
it computes on the way never change the outcome.
-/

namespace ArcadiaTio.Ocb

open ArcadiaTio.Lib

section Selected

variable {src : OcbReadSource} {zstd : ZstdCodec} {validation : OcbOpenValidationMode}
  {limits : OcbResourceLimits} {c : OcbRootCandidateV2} {cache cache' : OcbOpenAuxiliaryObjectCache}
  {m : OcbMetadataV1}

variable (src limits) in
/-- The candidate was decoded from some slot. -/
def Decoded (c : OcbRootCandidateV2) : Prop :=
  ∃ idx slotResult, decodeV2Candidate src limits idx slotResult = .ok (some c)

/-- The report on a candidate whose snapshot ends at `e`. -/
def reportOf (fileLen : ℕ) (c : OcbRootCandidateV2) (m : OcbMetadataV1)
    (diagnostics : List OcbRootCandidateDiagnosticV2) (e : ℕ) : OcbMaintenanceAnalysisV2 where
  fileLen
  selectedSlotId := c.slot.slotId
  selectedRootGeneration := c.slot.generation
  previousRootGeneration :=
    if c.slot.previousRootRef.IsNull then none else some c.slot.previousGeneration
  selectedRootEndOffset := c.slot.rootRef.endOffset
  selectedSnapshotEndOffset := e
  metadata := m
  rejectedCandidates := diagnostics

lemma exists_loadV2Root
    (h : (loadCandidate src zstd validation limits c).run cache = (.ok m, cache')) :
    ∃ s, (loadV2Root src zstd c.root validation limits).run
      ⟨cache, MetadataMaterializationBudget.fromLimits limits⟩ = (.ok m, s) := by
  rcases hrun : (loadV2Root src zstd c.root validation limits).run
    ⟨cache, MetadataMaterializationBudget.fromLimits limits⟩ with ⟨r, s⟩
  rw [loadCandidate, run_validateV2RootReferencedObjectsWithScope hrun] at h
  obtain ⟨rfl, -⟩ := Prod.mk.inj h
  exact ⟨s, rfl⟩

/-- A candidate that was decoded and loaded is always reported on. -/
lemma selectedAnalysis_of_load (hdecoded : Decoded src limits c)
    (hload : (loadCandidate src zstd validation limits c).run cache = (.ok m, cache'))
    (diagnostics : List OcbRootCandidateDiagnosticV2) :
    ∃ e, IsLeast (HoldsAll (snapshotReferences c.slot c.root m)) e ∧
      selectedAnalysis src.fileLen c m diagnostics =
        .ok (reportOf src.fileLen c m diagnostics e) := by
  obtain ⟨idx, slotResult, hdecode⟩ := hdecoded
  obtain ⟨s, hload⟩ := exists_loadV2Root hload
  have hfits := fits_snapshotReferences hdecode hload
  obtain ⟨e, he, hleast⟩ := isLeast_of_selectedSnapshotReferencedEnd hfits
  refine ⟨e, hleast, ?_⟩
  have hroot : c.slot.rootRef.Fits src.fileLen := (fits_of_decodeV2Candidate hdecode).1
  rw [selectedAnalysis, bodyRefEnd_of_fits hroot, ok_bind, he, ok_bind]
  rfl

end Selected

/-! ### The loop over the generations -/

section Loop

variable {validate : OcbRootV2 →
    Fallible ArcadiaTioError OcbOpenAuxiliaryObjectCache OcbMetadataV1} {fileLen : ℕ}

/-- One round of the loop, when the newest generation and its first candidate are known. -/
lemma chooseV2Analysis_round {candidates : List OcbRootCandidateV2} {generation : ℕ}
    {c : OcbRootCandidateV2} (hmax : maxGeneration candidates = some generation)
    (hfind : candidates.find? (fun c => c.generation = generation) = some c)
    (diagnostics : List OcbRootCandidateDiagnosticV2) (cache : OcbOpenAuxiliaryObjectCache) :
    chooseV2Analysis validate fileLen candidates diagnostics cache =
      if ∃ d ∈ candidates, d.generation = generation ∧ d.slot.rootRef ≠ c.slot.rootRef then
        chooseV2Analysis validate fileLen (dropGeneration generation candidates)
          (diagnostics ++ conflictDiagnostics generation candidates) cache
      else
        match (validate c.root).run cache with
        | (.ok m, _) => selectedAnalysis fileLen c m diagnostics
        | (.error e, cache) =>
          if isDiscardableCandidateError e then
            chooseV2Analysis validate fileLen (dropGeneration generation candidates)
              (diagnostics ++ [loadDiagnostic c e]) cache
          else .error e := by
  rw [chooseV2Analysis]
  simp only [hmax]
  split
  case h_1 h =>
    rw [hfind] at h
    cases h
  case h_2 d h =>
    obtain rfl : c = d := Option.some.inj (hfind.symm.trans h)
    rfl

/-- There are no candidates, or a newest generation with a first candidate. -/
lemma eq_nil_or_newest (candidates : List OcbRootCandidateV2) :
    candidates = [] ∨ ∃ generation c, maxGeneration candidates = some generation ∧
      candidates.find? (fun c => c.generation = generation) = some c ∧ c ∈ candidates ∧
      c.generation = generation ∧ ∀ d ∈ candidates, d.generation ≤ generation := by
  rcases hmax : maxGeneration candidates with _ | generation
  · exact .inl (maxGeneration_eq_none.mp hmax)
  · obtain ⟨⟨c₀, hc₀, hgen₀⟩, hle⟩ := maxGeneration_eq_some.mp hmax
    rcases hfind : candidates.find? fun c => c.generation = generation with _ | c
    · have := List.find?_eq_none.mp hfind c₀ hc₀
      simp [hgen₀] at this
    · exact .inr ⟨generation, c, rfl, hfind, List.mem_of_find?_eq_some hfind,
        by simpa using List.find?_some hfind, hle⟩

end Loop

section Agreement

variable {src : OcbReadSource} {zstd : ZstdCodec} {validation : OcbOpenValidationMode}
  {limits : OcbResourceLimits}

/-- The loop with diagnostics selects what the loop without them selects. -/
theorem metadata_chooseV2Analysis {candidates : List OcbRootCandidateV2}
    (hdecoded : ∀ c ∈ candidates, Decoded src limits c)
    (diagnostics : List OcbRootCandidateDiagnosticV2) (cache : OcbOpenAuxiliaryObjectCache) :
    OcbMaintenanceAnalysisV2.metadata <$> chooseV2Analysis
        (fun root => validateV2RootReferencedObjectsWithScope src zstd root validation limits)
        src.fileLen candidates diagnostics cache =
      (chooseV2Metadata
        (fun root => validateV2RootReferencedObjectsWithScope src zstd root validation limits)
        candidates cache).1 := by
  induction hlen : candidates.length using Nat.strong_induction_on
    generalizing candidates diagnostics cache with
  | _ n ih =>
  rcases eq_nil_or_newest candidates with rfl | ⟨generation, c, hmax, hfind, hc, hgen, hle⟩
  · rw [chooseV2Analysis, chooseV2Metadata]
    rfl
  · have hrest : ∀ diagnostics cache, OcbMaintenanceAnalysisV2.metadata <$> chooseV2Analysis
          (fun root => validateV2RootReferencedObjectsWithScope src zstd root validation limits)
          src.fileLen (dropGeneration generation candidates) diagnostics cache =
        (chooseV2Metadata
          (fun root => validateV2RootReferencedObjectsWithScope src zstd root validation limits)
          (dropGeneration generation candidates) cache).1 := fun diagnostics cache =>
      ih _ (hlen ▸ length_dropGeneration_lt hc hgen)
        (fun d hd => hdecoded d (mem_dropGeneration.mp hd).1) diagnostics cache rfl
    rw [chooseV2Analysis_round hmax hfind, chooseV2Metadata_round hmax hfind]
    by_cases hconf : ∃ d ∈ candidates, d.generation = generation ∧
        d.slot.rootRef ≠ c.slot.rootRef
    · rw [if_pos hconf, if_pos hconf, hrest]
    · rw [if_neg hconf, if_neg hconf]
      rcases hrun : (validateV2RootReferencedObjectsWithScope src zstd c.root validation
        limits).run cache with ⟨e | m, cache'⟩
      · dsimp only
        by_cases he : isDiscardableCandidateError e
        · rw [if_pos he, if_pos he, hrest]
        · rw [if_neg he, if_neg he]
          rfl
      · obtain ⟨endOffset, -, hreport⟩ :=
          selectedAnalysis_of_load (hdecoded c hc) hrun diagnostics
        dsimp only
        rw [hreport]
        rfl

/-- The candidates of the analysis were decoded. -/
lemma decoded_of_decodeV2Candidates {slots : List (Result OcbRootSlotV2)} {idx : ℕ}
    {candidates : List OcbRootCandidateV2}
    (h : decodeV2Candidates src limits idx slots = .ok candidates) :
    ∀ c ∈ candidates, Decoded src limits c := by
  cases hfailure : firstDecodeFailure src limits idx slots with
  | some e =>
    rw [decodeV2Candidates_of_failure hfailure] at h
    cases h
  | none =>
    obtain ⟨candidates', hok, hmem⟩ := decodeV2Candidates_of_no_failure hfailure
    obtain rfl : candidates' = candidates := Except.ok.inj (hok.symm.trans h)
    intro c hc
    obtain ⟨i, slotResult, -, hdecode⟩ := (hmem c).mp hc
    exact ⟨_, slotResult, hdecode⟩

lemma metadata_analyzeV2MaintenanceFromBootstrap (page : OcbBootstrapPageV2) :
    OcbMaintenanceAnalysisV2.metadata <$>
        analyzeV2MaintenanceFromBootstrap src zstd page validation limits =
      selectV2Metadata src zstd page validation limits := by
  have hfst := @fst_analyzeV2Candidates src limits 0 page.decodedRootSlots
  rw [analyzeV2MaintenanceFromBootstrap, selectV2Metadata]
  rcases hanalyze : analyzeV2Candidates src limits 0 page.decodedRootSlots with
    e | ⟨candidates, diagnostics⟩
  · rw [hanalyze] at hfst
    rw [← hfst]
    rfl
  · rw [hanalyze] at hfst
    rw [← hfst]
    exact metadata_chooseV2Analysis (decoded_of_decodeV2Candidates hfst.symm) diagnostics _

end Agreement

/-! ### A file that lost its newest root -/

/-- Of two slots, the second is discarded. -/
lemma decodeV2Candidates_discard {src : OcbReadSource} {limits : OcbResourceLimits}
    {slot slot' : Result OcbRootSlotV2} {c : OcbRootCandidateV2} {e : ArcadiaTioError}
    (hslot : decodeV2Candidate src limits 0 slot = .ok (some c))
    (hslot' : decodeV2Candidate src limits 1 slot' = .error e)
    (he : isDiscardableCandidateError e) :
    decodeV2Candidates src limits 0 [slot, slot'] = .ok [c] := by
  simp only [decodeV2Candidates, hslot, hslot', if_pos he]
  rfl

namespace Truncated

/-- The file ends before the root of its newer snapshot. -/
def parts : List (List UInt8) := WrongKind.parts.take 5

lemma parts_lengths : parts.map List.length = [4096, 56, 24, 36, 456] := by
  rw [parts, List.map_take, WrongKind.parts_lengths]
  rfl

lemma length_flatten_parts : parts.flatten.length = 4668 := by
  rw [List.length_flatten, parts_lengths]
  rfl

/-- The file without its newer root. -/
def file : OcbReadSource := .ofBytes parts.flatten (by rw [length_flatten_parts]; decide)

lemma fileLen_file : file.fileLen = 4668 := length_flatten_parts

lemma readExactAt_page : file.readExactAt 0 ocbBootstrapPageLen =
    .ok (OcbBootstrapPageV2.bytesOfSlots WrongKind.olderSlot WrongKind.newerSlot) :=
  OcbReadSource.readExactAt_part (i := 0) _ rfl rfl
    (OcbBootstrapPageV2.length_bytesOfSlots rfl rfl).symm

lemma readExactAt_magic : file.readExactAt 0 8 = .ok ocbBootstrapMagicV2 := by
  have hlen :=
    @OcbBootstrapPageV2.length_bytesOfSlots WrongKind.olderSlot WrongKind.newerSlot rfl rfl
  have hread := OcbReadSource.readExactAt_slice parts 0 (by rw [length_flatten_parts]; decide) rfl
    0 8 0 rfl (by rw [hlen]; decide)
  exact hread

lemma readFrom_page : OcbBootstrapPageV2.readFrom
    (OcbBootstrapPageV2.bytesOfSlots WrongKind.olderSlot WrongKind.newerSlot) =
      .ok WrongKind.page :=
  OcbBootstrapPageV2.readFrom_bytesOfSlots rfl rfl

lemma decode_older : decodeV2Candidate file .policyA 0 (.ok WrongKind.olderSlot.sealed) =
    .ok (some WrongKind.older) := by
  refine decodeV2Candidate_sealed rfl (by decide) ?_ ?_ rfl ?_ (by decide)
  · rw [fileLen_file]
    decide
  · exact OcbReadSource.readObjectBytes_part _ parts_lengths 4 rfl rfl rfl rfl (by decide)
      (by decide)
  · rw [fileLen_file]
    decide

/-- The newer slot names a root that lies behind the end of the file. -/
lemma decode_newer : decodeV2Candidate file .policyA 1 (.ok WrongKind.newerSlot.sealed) =
    .error (ocbCorruptFile "OCB body reference extends beyond file length") := by
  have hinvalid : WrongKind.newerSlot.validateCandidate (Nat.toUInt16 1) file.fileLen =
      .error (ocbCorruptFile "OCB body reference extends beyond file length") := by
    rw [fileLen_file]
    decide
  have hempty : ¬ WrongKind.newerSlot.sealed.IsEmpty := by
    rw [OcbRootSlotV2.isEmpty_sealed]
    decide
  rw [decodeV2Candidate, ok_bind, if_neg hempty, OcbRootSlotV2.validateCandidate_sealed, hinvalid,
    error_bind]

lemma readMetadata_older (c : UInt32) : ∃ cSchema cStrings cIndex,
    (readMetadataObjectsV2WithResourceLimits file (WrongKind.olderRootWith c) .policyA).run
      (.fromLimits .policyA) =
        (.ok { WrongKind.metadata c cSchema cStrings cIndex with fileLen := 4668 },
          .fromLimits .policyA) := by
  obtain ⟨cSchema, hschema⟩ := WrongKind.read_schema
  obtain ⟨cStrings, hstrings⟩ := WrongKind.read_stringTable
  obtain ⟨cIndex, hindex⟩ := WrongKind.read_rowGroupIndex
  have hbase := run_readMetadataObjects file (WrongKind.olderRootWith c).toV1Root .policyA
    (OcbReadSource.readObjectBytes_part _ parts_lengths 1 rfl rfl rfl rfl (by decide) (by decide))
    hschema
    (OcbReadSource.readObjectBytes_part _ parts_lengths 2 rfl rfl rfl rfl (by decide) (by decide))
    hstrings rfl
    (OcbReadSource.readObjectBytes_part _ parts_lengths 3 rfl rfl rfl rfl (by decide) (by decide))
    hindex rfl
  refine ⟨cSchema, cStrings, cIndex, ?_⟩
  rw [readMetadataObjectsV2WithResourceLimits, Fallible.run_bind_of_ok hbase, fileLen_file]
  rfl

lemma isOk_loadV2Root (zstd : ZstdCodec) (c : UInt32) (auxiliary : OcbOpenAuxiliaryObjectCache) :
    IsOk ((loadV2Root file zstd (WrongKind.olderRootWith c) .metadataGraph .policyA).run
      ⟨auxiliary, .fromLimits .policyA⟩).1 := by
  obtain ⟨cSchema, cStrings, cIndex, hread⟩ := readMetadata_older c
  rw [loadV2Root, Fallible.run_bind_of_ok
    (Opening.run_metered (s := ⟨auxiliary, .fromLimits .policyA⟩) hread)]
  exact ⟨_, rfl⟩

lemma exists_load_older (zstd : ZstdCodec) : ∃ m cache,
    (validateV2RootReferencedObjectsWithScope file zstd WrongKind.olderRoot.sealed .metadataGraph
      .policyA).run (OcbOpenAuxiliaryObjectCache.new .policyA) = (.ok m, cache) := by
  rw [WrongKind.sealed_olderRoot]
  generalize crc32c WrongKind.olderRoot.fieldBytes = c
  obtain ⟨m, hm⟩ := isOk_loadV2Root zstd c (.new .policyA)
  rcases hrun : (loadV2Root file zstd (WrongKind.olderRootWith c) .metadataGraph .policyA).run
    ⟨.new .policyA, .fromLimits .policyA⟩ with ⟨r, s⟩
  rw [hrun] at hm
  obtain rfl : r = .ok m := hm
  exact ⟨m, _, run_validateV2RootReferencedObjectsWithScope hrun⟩

lemma decode_slots : decodeV2Candidates file .policyA 0
    [.ok WrongKind.olderSlot.sealed, .ok WrongKind.newerSlot.sealed] = .ok [WrongKind.older] :=
  decodeV2Candidates_discard decode_older decode_newer
    (ArcadiaTioError.isCorrupt_ocbCorruptFile _)

lemma exists_select (zstd : ZstdCodec) : ∃ m,
    selectV2Metadata file zstd WrongKind.page .metadataGraph .policyA = .ok m := by
  obtain ⟨m, cache, hload⟩ := exists_load_older zstd
  refine ⟨m, ?_⟩
  rw [selectV2Metadata, WrongKind.decodedRootSlots_page, decode_slots, ok_bind]
  rcases eq_nil_or_newest [WrongKind.older] with h | ⟨generation, c, hmax, hfind, hc, -⟩
  · cases h
  · obtain rfl := List.mem_singleton.mp hc
    have hroot : WrongKind.older.root = WrongKind.olderRoot.sealed := rfl
    rw [chooseV2Metadata_round hmax hfind, if_neg (by simp), hroot, hload]

/-- The analysis of the truncated file selects its older snapshot. -/
lemma exists_analysis (zstd : ZstdCodec) :
    ∃ a, analyzeV2Maintenance file zstd .metadataGraph = .ok a := by
  obtain ⟨m, hm⟩ := exists_select zstd
  rw [← metadata_analyzeV2MaintenanceFromBootstrap] at hm
  obtain ⟨a, ha, -⟩ := map_eq_ok.mp hm
  refine ⟨a, ?_⟩
  have hlong : ¬ file.fileLen < ocbBootstrapPageLen := by
    rw [fileLen_file]
    decide
  rw [analyzeV2Maintenance, failIf_neg hlong, ok_bind, readExactAt_magic, ok_bind, if_pos rfl,
    readExactAt_page, ok_bind, readFrom_page, ok_bind]
  exact ha

end Truncated

/-! ### The analysis and the opening -/

/-- The maintenance analysis of a file that is not of version 1 selects the snapshot that opening
the file selects, and fails with the error of the opening. -/
theorem metadata_analyzeV2Maintenance (src : OcbReadSource) (zstd : ZstdCodec)
    (validation : OcbOpenValidationMode) (hmagic : src.readExactAt 0 8 ≠ .ok ocbBootstrapMagicV1) :
    OcbMaintenanceAnalysisV2.metadata <$> analyzeV2Maintenance src zstd validation =
      readMetadataFromSourceWithValidationAndResourceLimits src zstd validation .policyA := by
  rw [analyzeV2Maintenance, readMetadataFromSourceWithValidationAndResourceLimits]
  by_cases hshort : src.fileLen < ocbBootstrapPageLen
  · rw [failIf_pos hshort]
    rfl
  rw [failIf_neg hshort, ok_bind, ok_bind]
  rcases hread : src.readExactAt 0 8 with e | magic
  · rfl
  have hv1 : magic ≠ ocbBootstrapMagicV1 := fun h => hmagic (by rw [hread, h])
  rw [ok_bind, ok_bind, if_neg hv1, if_neg hv1]
  by_cases hv2 : magic = ocbBootstrapMagicV2
  · rw [if_pos hv2, if_pos hv2, readMetadataV2]
    rcases src.readExactAt 0 ocbBootstrapPageLen with e | page
    · rfl
    rw [ok_bind, ok_bind]
    rcases OcbBootstrapPageV2.readFrom page with e | bootstrap
    · rfl
    exact metadata_analyzeV2MaintenanceFromBootstrap bootstrap
  · rw [if_neg hv2, if_neg hv2]
    rfl

/-- The truncated file is of version 2. -/
theorem metadata_analyzeV2Maintenance_truncated :
    OcbMaintenanceAnalysisV2.metadata <$>
        analyzeV2Maintenance Truncated.file (fun _ _ => ⟨[], true⟩) .metadataGraph =
      readMetadataFromSourceWithValidationAndResourceLimits Truncated.file
        (fun _ _ => ⟨[], true⟩) .metadataGraph .policyA :=
  metadata_analyzeV2Maintenance _ _ _ (by rw [Truncated.readExactAt_magic]; decide)

end ArcadiaTio.Ocb
