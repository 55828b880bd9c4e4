import ArcadiaTio.Ocb.Read.EmptyReferences

/-!
# Falling back from a malformed newer snapshot

A V2 file keeps the previous snapshot next to the newest one, so that a damaged newest snapshot
can be discarded.  Three defects of a reference do this: a code that is no kind, a range outside the
file, and an empty object where one is decoded.  A wrong kind does not, because it is reported as an
invalid input, which ends the selection; and an empty object that is only checked is not noticed
(`fallsBack_iff`).
-/

namespace ArcadiaTio.Ocb

open ArcadiaTio.Lib

/-! ### The outcome of the selection -/

/-- Every failure before the candidates are known is a corruption. -/
lemma firstDecodeFailure_eq_none {src : OcbReadSource} {limits : OcbResourceLimits} {idx : ℕ}
    {slots : List (Result OcbRootSlotV2)} :
    firstDecodeFailure src limits idx slots = none ↔ ∀ i r, slots[i]? = some r →
      ErrorsIn ArcadiaTioError.IsCorrupt (decodeV2Candidate src limits (idx + i) r) := by
  induction slots generalizing idx with
  | nil => simp [firstDecodeFailure]
  | cons slotResult rest ih =>
    have shift : (∀ i r, (slotResult :: rest)[i]? = some r →
        ErrorsIn ArcadiaTioError.IsCorrupt (decodeV2Candidate src limits (idx + i) r)) ↔
        ErrorsIn ArcadiaTioError.IsCorrupt (decodeV2Candidate src limits idx slotResult) ∧
        ∀ i r, rest[i]? = some r →
          ErrorsIn ArcadiaTioError.IsCorrupt (decodeV2Candidate src limits (idx + 1 + i) r) := by
      constructor
      · intro h
        refine ⟨h 0 slotResult rfl, fun i r hr => ?_⟩
        rw [show idx + 1 + i = idx + (i + 1) by omega]
        exact h (i + 1) r (by rwa [List.getElem?_cons_succ])
      · rintro ⟨hhead, htail⟩ (_ | i) r hr
        · obtain rfl : slotResult = r := by simpa using hr
          exact hhead
        · rw [show idx + (i + 1) = idx + 1 + i by omega]
          exact htail i r (by rwa [List.getElem?_cons_succ] at hr)
    rw [shift, firstDecodeFailure, ← ih]
    rcases decodeV2Candidate src limits idx slotResult with e | c
    · by_cases he : isDiscardableCandidateError e
      · have herrors : ErrorsIn ArcadiaTioError.IsCorrupt
            (Except.error e : Result (Option OcbRootCandidateV2)) := .error he
        simp [he, herrors]
      · have herrors : ¬ ErrorsIn ArcadiaTioError.IsCorrupt
            (Except.error e : Result (Option OcbRootCandidateV2)) := fun h => he (h e rfl)
        simp [he, herrors]
    · simp [ErrorsIn.ok c]

/-- The failure that ends the decoding is that of some slot. -/
lemma decode_of_firstDecodeFailure {src : OcbReadSource} {limits : OcbResourceLimits} {idx : ℕ}
    {slots : List (Result OcbRootSlotV2)} {e : ArcadiaTioError}
    (h : firstDecodeFailure src limits idx slots = some e) : ∃ i r, slots[i]? = some r ∧
      decodeV2Candidate src limits (idx + i) r = .error e := by
  induction slots generalizing idx with
  | nil => cases h
  | cons slotResult rest ih =>
    have shift : firstDecodeFailure src limits (idx + 1) rest = some e →
        ∃ i r, (slotResult :: rest)[i]? = some r ∧
          decodeV2Candidate src limits (idx + i) r = .error e := by
      intro hrest
      obtain ⟨i, r, hr, hd⟩ := ih hrest
      exact ⟨i + 1, r, by rwa [List.getElem?_cons_succ],
        by rwa [show idx + (i + 1) = idx + 1 + i by omega]⟩
    rw [firstDecodeFailure] at h
    rcases hd : decodeV2Candidate src limits idx slotResult with e' | c
    · simp only [hd] at h
      by_cases he : isDiscardableCandidateError e'
      · rw [if_pos he] at h
        exact shift h
      · rw [if_neg he] at h
        exact ⟨0, slotResult, rfl, by rw [Nat.add_zero, hd, Option.some.inj h]⟩
    · simp only [hd] at h
      exact shift h

lemma AttemptOrder.eq_singleton {candidates order : List OcbRootCandidateV2}
    {c : OcbRootCandidateV2} (h : AttemptOrder candidates order)
    (hmem : ∀ d, d ∈ candidates ↔ d = c) : order = [c] := by
  have hall : ∀ d ∈ order, d = c := fun d hd => (hmem d).mp (h.candidate d hd).1
  rcases h.covers c ((hmem c).mpr rfl) with ⟨a, ha, b, hb, -, -, hne⟩ | ⟨d, hd, -⟩
  · exact absurd (by rw [(hmem a).mp ha, (hmem b).mp hb]) hne
  · cases order with
    | nil => cases hd
    | cons a rest =>
      obtain rfl := hall a (by simp)
      cases rest with
      | nil => rfl
      | cons b rest =>
        obtain rfl := hall b (by simp)
        have := (List.pairwise_cons.mp h.descending).1 b (by simp)
        omega

lemma AttemptOrder.eq_pair {candidates order : List OcbRootCandidateV2}
    {c d : OcbRootCandidateV2} (h : AttemptOrder candidates order)
    (hmem : ∀ a, a ∈ candidates ↔ a = c ∨ a = d) (hlt : d.generation < c.generation) :
    order = [c, d] := by
  have hfree : ∀ a ∈ candidates, a ∈ order := by
    intro a ha
    rcases h.covers a ha with ⟨x, hx, y, hy, hxa, hya, hne⟩ | ⟨b, hb, hba, -⟩
    · -- two candidates of one generation are one candidate
      have hxy : x = y := by
        rcases (hmem x).mp hx with rfl | rfl <;> rcases (hmem y).mp hy with rfl | rfl
        · rfl
        · omega
        · omega
        · rfl
      exact absurd (by rw [hxy]) hne
    · have hab : a = b := by
        rcases (hmem a).mp ha with rfl | rfl <;>
          rcases (hmem b).mp (h.candidate b hb).1 with rfl | rfl
        · rfl
        · omega
        · omega
        · rfl
      exact hab ▸ hb
  -- the order is descending, so the newer candidate stands first
  have hc := hfree c ((hmem c).mpr (.inl rfl))
  have hd := hfree d ((hmem d).mpr (.inr rfl))
  have hall : ∀ a ∈ order, a = c ∨ a = d := fun a ha => (hmem a).mp (h.candidate a ha).1
  cases order with
  | nil => cases hc
  | cons a rest =>
    have hdesc := List.pairwise_cons.mp h.descending
    obtain rfl : a = c := by
      rcases hall a (by simp) with rfl | rfl
      · rfl
      · rcases List.mem_cons.mp hc with rfl | hc
        · rfl
        · have := hdesc.1 c hc
          omega
    have hrest : ∀ b ∈ rest, b = d := by
      intro b hb
      rcases hall b (by simp [hb]) with rfl | rfl
      · have := hdesc.1 b hb
        omega
      · rfl
    cases rest with
    | nil =>
      obtain rfl : d = a := by simpa using hd
      omega
    | cons b rest =>
      obtain rfl := hrest b (by simp)
      cases rest with
      | nil => rfl
      | cons b' rest =>
        obtain rfl := hrest b' (by simp)
        have := (List.pairwise_cons.mp hdesc.2).1 b' (by simp)
        omega

/-! ### Which snapshot was opened -/

lemma rootGeneration_readMetadataObjectsV2 {src : OcbReadSource} {root : OcbRootV2}
    {limits : OcbResourceLimits} {m : OcbMetadataV1} {b b' : MetadataMaterializationBudget}
    (h : (readMetadataObjectsV2WithResourceLimits src root limits).run b = (.ok m, b')) :
    m.rootGeneration = root.generation := by
  obtain ⟨base, b₁, -, h⟩ := Fallible.run_bind_eq_ok.mp h
  obtain ⟨m₁, b₂, hdelta, h⟩ := Fallible.run_bind_eq_ok.mp h
  obtain ⟨charged, b₃, -, h⟩ := Fallible.run_bind_eq_ok.mp h
  have hm₁ : m₁.rootGeneration = root.generation := by
    rw [applyCommittedDelta] at hdelta
    split at hdelta
    · obtain ⟨deltaBytes, -, hdelta⟩ := Fallible.run_lift_bind_eq_ok.mp hdelta
      obtain ⟨delta, _, -, hdelta⟩ := Fallible.run_bind_eq_ok.mp hdelta
      obtain ⟨target, bytes, -, rfl⟩ := applyRowGroupIndexDelta_eq_ok hdelta
      rfl
    · cases hdelta
      rfl
  cases h
  exact hm₁

/-- The metadata loaded for a root carries the generation of that root. -/
lemma rootGeneration_load {src : OcbReadSource} {zstd : ZstdCodec}
    {validation : OcbOpenValidationMode} {limits : OcbResourceLimits} {c : OcbRootCandidateV2}
    {k : OcbOpenAuxiliaryObjectCache} {m : OcbMetadataV1}
    (h : ((loadCandidate src zstd validation limits c).run k).1 = .ok m) :
    m.rootGeneration = c.root.generation := by
  rcases hrun : (loadV2Root src zstd c.root validation limits).run
    ⟨k, MetadataMaterializationBudget.fromLimits limits⟩ with ⟨r, s⟩
  rw [loadCandidate, run_validateV2RootReferencedObjectsWithScope hrun] at h
  obtain rfl : r = .ok m := h
  obtain ⟨m₁, s₁, hread, hrun⟩ := Fallible.run_bind_eq_ok.mp hrun
  obtain ⟨positions, s₂, -, hrun⟩ := Fallible.run_bind_eq_ok.mp hrun
  obtain ⟨_, -, hrun⟩ := Fallible.run_lift_bind_eq_ok.mp hrun
  obtain ⟨_, -, hrun⟩ := Fallible.run_lift_bind_eq_ok.mp hrun
  obtain ⟨s₃, s₄, -, hrun⟩ := Fallible.run_bind_eq_ok.mp hrun
  have hm : m.rootGeneration = m₁.rootGeneration := by
    cases hrun
    rfl
  rcases hobjects : (readMetadataObjectsV2WithResourceLimits src c.root limits).run
    (MetadataMaterializationBudget.fromLimits limits) with ⟨r, b⟩
  rw [Opening.run_metered hobjects] at hread
  obtain ⟨rfl, -⟩ := Prod.mk.inj hread
  rw [hm]
  exact rootGeneration_readMetadataObjectsV2 hobjects

/-! ### Malformed newer snapshots -/

/-- The newer snapshot of a file, as far as its slot and its root decode. -/
inductive NewerSnapshot
  | undecodableSlot
  | undecodableRoot (slot : OcbRootSlotV2)
  | decoded (slot : OcbRootSlotV2) (root : OcbRootV2)

namespace NewerSnapshot

section Stored

variable (src : OcbReadSource) (limits : OcbResourceLimits)

/-- The slot bytes, and the root that the slot names, are intact and hold this snapshot: what does
not decode fails behind a right checksum, magic, version and length. -/
def StoredAs (slotBytes : List UInt8) : NewerSnapshot → Prop
  | undecodableSlot =>
    OcbRootSlotV2.readEnvelope slotBytes = .ok () ∧ ¬ IsOk (OcbRootSlotV2.readFrom slotBytes)
  | undecodableRoot slot => OcbRootSlotV2.readFrom slotBytes = .ok slot ∧
    ∃ bytes, src.readObjectBytesWithResourceLimits slot.rootRef .root limits = .ok bytes ∧
      OcbRootV2.readEnvelope bytes = .ok () ∧ ¬ IsOk (OcbRootV2.readFrom bytes)
  | decoded slot root => OcbRootSlotV2.readFrom slotBytes = .ok slot ∧
    ∃ bytes, src.readObjectBytesWithResourceLimits slot.rootRef .root limits = .ok bytes ∧
      OcbRootV2.readFrom bytes = .ok root

end Stored

/-- The snapshot holds a malformed reference; one that does not decode holds an unknown code. -/
def Malformed (fileLen : ℕ) : NewerSnapshot → Prop
  | undecodableSlot => True
  | undecodableRoot _ => True
  | decoded slot root => ∃ f ∈ slot.previousRootField :: slot.diagnosticsField :: root.refFields,
      f.Malformed fileLen

/-- The slot is of a higher generation; that of a slot that does not decode is not read. -/
def IsNewer (generation : ℕ) : NewerSnapshot → Prop
  | undecodableSlot => True
  | undecodableRoot slot => generation < slot.generation.toNat
  | decoded slot _ => generation < slot.generation.toNat

/-- What the reader takes for corruption: an unknown code; a check that turns the slot down before
a kind mismatch is met; or, when all checks pass, an empty object that is decoded, unless an object
before it fails in another way. -/
def Discarded (src : OcbReadSource) (limits : OcbResourceLimits) (idx : ℕ) : NewerSnapshot → Prop
  | undecodableSlot => True
  | undecodableRoot slot => TurnedDownUnread src.fileLen idx slot
  | decoded slot root => TurnedDown src.fileLen idx slot root ∨
      PassesChecks src.fileLen idx slot root ∧ (∃ f ∈ root.decodedFields, f.Empty) ∧
        CorruptWithin limits.maxOwnedDecodedMaterializedBytes.toNat 0 (root.prices src limits)

/-- All checks pass and no empty object is decoded, but there is another defect behind the
references. -/
def OtherwiseDamaged (src : OcbReadSource) (zstd : ZstdCodec) (validation : OcbOpenValidationMode)
    (limits : OcbResourceLimits) (idx : ℕ) : NewerSnapshot → Prop
  | undecodableSlot => False
  | undecodableRoot _ => False
  | decoded slot root => PassesChecks src.fileLen idx slot root ∧
      (¬ ∃ f ∈ root.decodedFields, f.Empty) ∧ ¬ RestInOrder src zstd validation limits root

end NewerSnapshot

/-! ### Falling back -/

section FallBack

variable (src : OcbReadSource) (zstd : ZstdCodec) (page : OcbBootstrapPageV2)
  (validation : OcbOpenValidationMode) (limits : OcbResourceLimits) (hiIdx loIdx : ℕ)
  (newer : NewerSnapshot) (lo : OcbRootCandidateV2)

/-- A file with a slot that reads as `r`, next to one that is a valid candidate. -/
structure TwoSlots (r : Result OcbRootSlotV2) : Prop where
  two_slots : page.decodedRootSlots.length = 2
  distinct : hiIdx ≠ loIdx
  newer_slot : page.decodedRootSlots[hiIdx]? = some r
  older_decodes : DecodesTo src limits page.decodedRootSlots loIdx lo
  older_loads : IsOk ((loadCandidate src zstd validation limits lo).run
    (OcbOpenAuxiliaryObjectCache.new limits)).1

/-- A file whose newer slot, with its root, is intact but holds a malformed reference, and whose
older slot is a valid candidate. -/
structure MalformedNewer : Prop where
  two_slots : page.rootSlotBytes.length = 2
  distinct : hiIdx ≠ loIdx
  newer_slot : ∃ slotBytes, page.rootSlotBytes[hiIdx]? = some slotBytes ∧
    newer.StoredAs src limits slotBytes
  malformed : newer.Malformed src.fileLen
  older_decodes : DecodesTo src limits page.decodedRootSlots loIdx lo
  older_loads : IsOk ((loadCandidate src zstd validation limits lo).run
    (OcbOpenAuxiliaryObjectCache.new limits)).1
  older : newer.IsNewer lo.generation

/-- The selection returns the snapshot of the older candidate. -/
def FallsBack : Prop :=
  ∃ m k, selectV2Metadata src zstd page validation limits = .ok m ∧
    ((loadCandidate src zstd validation limits lo).run k).1 = .ok m

variable {src zstd page validation limits hiIdx loIdx newer lo}

namespace TwoSlots

variable {slotResult : Result OcbRootSlotV2}
  (h : TwoSlots src zstd page validation limits hiIdx loIdx lo slotResult)
include h

/-- The table has no other slots. -/
lemma slot_cases {idx : ℕ} {r : Result OcbRootSlotV2}
    (hr : page.decodedRootSlots[idx]? = some r) :
    (idx = hiIdx ∧ r = slotResult) ∨
      (idx = loIdx ∧ decodeV2Candidate src limits idx r = .ok (some lo)) := by
  obtain ⟨r', hr', hlo⟩ := h.older_decodes
  have hlen := h.two_slots
  have hdistinct := h.distinct
  have h1 := (List.getElem?_eq_some_iff.mp hr).1
  have h2 := (List.getElem?_eq_some_iff.mp hr').1
  have h3 := (List.getElem?_eq_some_iff.mp h.newer_slot).1
  by_cases hidx : idx = hiIdx
  · subst hidx
    exact .inl ⟨rfl, Option.some.inj (hr.symm.trans h.newer_slot)⟩
  · obtain rfl : idx = loIdx := by omega
    obtain rfl : r = r' := Option.some.inj (hr.symm.trans hr')
    exact .inr ⟨rfl, hlo⟩

/-- The selection once the newer slot is decoded: an error that is not a corruption ends it. -/
lemma select_of_error {e : ArcadiaTioError}
    (hdecode : decodeV2Candidate src limits hiIdx slotResult = .error e) (he : ¬ e.IsCorrupt) :
    selectV2Metadata src zstd page validation limits = .error e := by
  rcases hfail : firstDecodeFailure src limits 0 page.decodedRootSlots with _ | e'
  · have herrors := firstDecodeFailure_eq_none.mp hfail hiIdx slotResult h.newer_slot
    rw [Nat.zero_add, hdecode] at herrors
    exact absurd (herrors e rfl) he
  · obtain ⟨i, r, hr, hfails⟩ := decode_of_firstDecodeFailure hfail
    rw [Nat.zero_add] at hfails
    rw [selectV2Metadata, decodeV2Candidates_of_failure hfail, error_bind]
    rcases h.slot_cases hr with ⟨rfl, rfl⟩ | ⟨rfl, hlo⟩
    · rw [Except.error.inj (hfails.symm.trans hdecode)]
    · rw [hlo] at hfails
      cases hfails

/-- Without such an error the selection tries the decoded candidates. -/
lemma select_of_candidates (hdecode : ErrorsIn ArcadiaTioError.IsCorrupt
      (decodeV2Candidate src limits hiIdx slotResult)) :
    ∃ candidates order,
      (∀ c, c ∈ candidates ↔ decodeV2Candidate src limits hiIdx slotResult = .ok (some c) ∨ c = lo) ∧
      AttemptOrder candidates order ∧
      selectV2Metadata src zstd page validation limits =
        ((firstSuccess isDiscardableCandidateError (loadCandidate src zstd validation limits)
          noValidRootSlot order).run (OcbOpenAuxiliaryObjectCache.new limits)).1 := by
  have hfail : firstDecodeFailure src limits 0 page.decodedRootSlots = none := by
    refine firstDecodeFailure_eq_none.mpr fun idx r hr => ?_
    rw [Nat.zero_add]
    rcases h.slot_cases hr with ⟨rfl, rfl⟩ | ⟨rfl, hlo⟩
    · exact hdecode
    · rw [hlo]
      exact .ok _
  obtain ⟨candidates, hok, hmem⟩ := decodeV2Candidates_of_no_failure hfail
  obtain ⟨order, horder, hrun⟩ := chooseV2Metadata_eq_tryInOrder
    (fun root => validateV2RootReferencedObjectsWithScope src zstd root validation limits)
    candidates
  refine ⟨candidates, order, fun c => ?_, horder, ?_⟩
  · rw [hmem c]
    simp only [Nat.zero_add]
    constructor
    · rintro ⟨idx, r, hr, hc⟩
      rcases h.slot_cases hr with ⟨rfl, rfl⟩ | ⟨rfl, hlo⟩
      · exact .inl hc
      · rw [hlo] at hc
        cases hc
        exact .inr rfl
    · rintro (hc | rfl)
      · exact ⟨hiIdx, _, h.newer_slot, hc⟩
      · obtain ⟨r, hr, hlo⟩ := h.older_decodes
        exact ⟨loIdx, r, hr, hlo⟩
  · rw [selectV2Metadata, hok, ok_bind, hrun]
    rfl

/-- A discarded newer slot leaves the older candidate as the only one. -/
lemma fallsBack_of_discarded
    (hdecode : FailsIn ArcadiaTioError.IsCorrupt (decodeV2Candidate src limits hiIdx slotResult)) :
    FallsBack src zstd page validation limits lo := by
  obtain ⟨e, he, hcorrupt⟩ := hdecode
  obtain ⟨candidates, order, hmem, horder, hselect⟩ :=
    h.select_of_candidates (he ▸ .error hcorrupt)
  have hsingle : order = [lo] := horder.eq_singleton fun c => by simp [hmem c, he]
  obtain ⟨m, hm⟩ := h.older_loads
  rcases hrun : (loadCandidate src zstd validation limits lo).run
    (OcbOpenAuxiliaryObjectCache.new limits) with ⟨r, k⟩
  rw [hrun] at hm
  obtain rfl : r = .ok m := hm
  refine ⟨m, OcbOpenAuxiliaryObjectCache.new limits, ?_, by rw [hrun]⟩
  rw [hselect, hsingle, firstSuccess_cons_of_ok hrun]

/-- When the newer slot decodes, it is tried first. -/
lemma select_of_newer {c : OcbRootCandidateV2} (hgen : lo.generation < c.generation)
    (hdecode : decodeV2Candidate src limits hiIdx slotResult = .ok (some c)) :
    selectV2Metadata src zstd page validation limits =
      ((firstSuccess isDiscardableCandidateError (loadCandidate src zstd validation limits)
        noValidRootSlot [c, lo]).run (OcbOpenAuxiliaryObjectCache.new limits)).1 := by
  obtain ⟨candidates, order, hmem, horder, hselect⟩ := h.select_of_candidates (hdecode ▸ .ok _)
  have hpair : order = [c, lo] := horder.eq_pair
    (fun d => by simp only [hmem d, hdecode, Except.ok.injEq, Option.some.injEq, eq_comm]) hgen
  rw [hselect, hpair]

/-- A newer candidate that fails before its graph is met leaves an unused cache behind. -/
lemma fallsBack_of_failure {c : OcbRootCandidateV2} (hgen : lo.generation < c.generation)
    (hdecode : decodeV2Candidate src limits hiIdx slotResult = .ok (some c)) {e : ArcadiaTioError}
    (hrun : (loadCandidate src zstd validation limits c).run
      (OcbOpenAuxiliaryObjectCache.new limits) = (.error e, .new limits)) :
    FallsBack src zstd page validation limits lo ↔ e.IsCorrupt := by
  have hselect := h.select_of_newer hgen hdecode
  by_cases he : isDiscardableCandidateError e
  · obtain ⟨m, hm⟩ := h.older_loads
    rcases hlo : (loadCandidate src zstd validation limits lo).run
      (OcbOpenAuxiliaryObjectCache.new limits) with ⟨r, k⟩
    rw [hlo] at hm
    obtain rfl : r = .ok m := hm
    rw [firstSuccess_cons_of_discard hrun he, firstSuccess_cons_of_ok hlo] at hselect
    exact iff_of_true ⟨m, .new limits, hselect, by rw [hlo]⟩ he
  · rw [firstSuccess_cons_of_error hrun he] at hselect
    refine iff_of_false ?_ he
    rintro ⟨m, _, hm, -⟩
    rw [hselect] at hm
    cases hm

/-- A newer candidate that loads is the one that is opened. -/
lemma not_fallsBack_of_loads {c : OcbRootCandidateV2} (hgen : lo.generation < c.generation)
    (hdecode : decodeV2Candidate src limits hiIdx slotResult = .ok (some c))
    (hloads : IsOk ((loadCandidate src zstd validation limits c).run
      (OcbOpenAuxiliaryObjectCache.new limits)).1) :
    ¬ FallsBack src zstd page validation limits lo := by
  have hselect := h.select_of_newer hgen hdecode
  obtain ⟨m, hm⟩ := hloads
  rcases hrun : (loadCandidate src zstd validation limits c).run
    (OcbOpenAuxiliaryObjectCache.new limits) with ⟨r, k⟩
  rw [hrun] at hm
  obtain rfl : r = .ok m := hm
  rw [firstSuccess_cons_of_ok hrun] at hselect
  rintro ⟨m', k', hm', hlo⟩
  obtain rfl : m = m' := Except.ok.inj (hselect.symm.trans hm')
  have hnew := rootGeneration_load (congrArg Prod.fst hrun)
  have hold := rootGeneration_load hlo
  obtain ⟨r, -, hlodecode⟩ := h.older_decodes
  have holder := (agrees_of_decodeV2Candidate hlodecode).1
  have hnewer := (agrees_of_decodeV2Candidate hdecode).1
  rw [OcbRootCandidateV2.generation, OcbRootCandidateV2.generation, ← holder, ← hold, hnew,
    hnewer] at hgen
  omega

end TwoSlots

/-- Metadata that cannot be read end an attempt before the cache is used. -/
lemma run_loadCandidate_of_metadata {c : OcbRootCandidateV2} {e : ArcadiaTioError}
    {b : MetadataMaterializationBudget} {k : OcbOpenAuxiliaryObjectCache}
    (h : (readMetadataObjectsV2WithResourceLimits src c.root limits).run (.fromLimits limits) =
      (.error e, b)) :
    (loadCandidate src zstd validation limits c).run k = (.error e, k) := by
  have hload : (loadV2Root src zstd c.root validation limits).run ⟨k, .fromLimits limits⟩ =
      (.error e, ⟨k, b⟩) := by
    rw [loadV2Root, Fallible.run_bind_of_error (Opening.run_metered (s := ⟨k, .fromLimits limits⟩) h)]
  rw [loadCandidate, run_validateV2RootReferencedObjectsWithScope hload]

namespace MalformedNewer

/-- The two slots of the file, and what is read of the newer one. -/
lemma twoSlots (h : MalformedNewer src zstd page validation limits hiIdx loIdx newer lo) :
    ∃ slotBytes, newer.StoredAs src limits slotBytes ∧
      TwoSlots src zstd page validation limits hiIdx loIdx lo (OcbRootSlotV2.readFrom slotBytes) := by
  obtain ⟨slotBytes, hslot, hstored⟩ := h.newer_slot
  refine ⟨slotBytes, hstored, ?_, h.distinct, ?_, h.older_decodes, h.older_loads⟩
  · rw [OcbBootstrapPageV2.decodedRootSlots, List.length_map, h.two_slots]
  · rw [OcbBootstrapPageV2.decodedRootSlots, List.getElem?_map, hslot]
    rfl

end MalformedNewer

/-! One lemma for each form of the newer snapshot. -/

lemma fallsBack_of_undecodableSlot (h : MalformedNewer src zstd page validation limits hiIdx loIdx
    .undecodableSlot lo) : FallsBack src zstd page validation limits lo := by
  obtain ⟨slotBytes, ⟨henvelope, hslot⟩, hslots⟩ := h.twoSlots
  refine hslots.fallsBack_of_discarded (failsIn_bind.mpr (.inl ?_))
  exact (OcbRootSlotV2.errorsIn_readFrom henvelope).failsIn_iff.mpr hslot

lemma fallsBack_undecodableRoot_iff {slot : OcbRootSlotV2} (h : MalformedNewer src zstd page
    validation limits hiIdx loIdx (.undecodableRoot slot) lo) :
    FallsBack src zstd page validation limits lo ↔ TurnedDownUnread src.fileLen hiIdx slot := by
  obtain ⟨slotBytes, ⟨hslot, bytes, hread, henvelope, hroot⟩, hslots⟩ := h.twoSlots
  rw [hslot] at hslots
  obtain ⟨e, hdecode, hcorrupt⟩ := decodeV2Candidate_of_undecodable hiIdx hread henvelope hroot
  rw [← hcorrupt]
  by_cases he : e.IsCorrupt
  · exact iff_of_true (hslots.fallsBack_of_discarded ⟨e, hdecode, he⟩) he
  · have hselect := hslots.select_of_error hdecode he
    refine iff_of_false ?_ he
    rintro ⟨m, k, hm, -⟩
    rw [hselect] at hm
    cases hm

section Decoded

variable {slot : OcbRootSlotV2} {root : OcbRootV2}

/-- A slot that decodes, but does not pass its checks, is discarded if it is turned down. -/
lemma fallsBack_decoded_iff_of_not_passes (h : MalformedNewer src zstd page validation limits
    hiIdx loIdx (.decoded slot root) lo) (hnot : ¬ PassesChecks src.fileLen hiIdx slot root) :
    FallsBack src zstd page validation limits lo ↔ TurnedDown src.fileLen hiIdx slot root := by
  obtain ⟨slotBytes, ⟨hslot, bytes, hread, hroot⟩, hslots⟩ := h.twoSlots
  rw [hslot] at hslots
  rw [← failsIn_decodeV2Candidate hiIdx hread hroot]
  rcases hdecode : decodeV2Candidate src limits hiIdx (.ok slot) with e | _ | c
  · by_cases he : e.IsCorrupt
    · exact iff_of_true (hslots.fallsBack_of_discarded ⟨e, hdecode, he⟩) ⟨e, rfl, he⟩
    · have hselect := hslots.select_of_error hdecode he
      refine iff_of_false ?_ (by simpa using he)
      rintro ⟨m, k, hm, -⟩
      rw [hselect] at hm
      cases hm
  · -- a slot whose root can be read is not empty
    rw [decodeV2Candidate_of_read hread hroot] at hdecode
    simp [bind_eq_ok] at hdecode
  · exact absurd ((decodeV2Candidate_eq_some hiIdx hread hroot).mp hdecode).2 hnot

/-- A root with an empty object that is decoded. -/
lemma fallsBack_decoded_iff_of_empty (h : MalformedNewer src zstd page validation limits
    hiIdx loIdx (.decoded slot root) lo) (hpasses : PassesChecks src.fileLen hiIdx slot root)
    (hempty : ∃ f ∈ root.decodedFields, f.Empty) :
    FallsBack src zstd page validation limits lo ↔
      CorruptWithin limits.maxOwnedDecodedMaterializedBytes.toNat 0 (root.prices src limits) := by
  obtain ⟨slotBytes, ⟨hslot, bytes, hread, hroot⟩, hslots⟩ := h.twoSlots
  rw [hslot] at hslots
  have hdecode := (decodeV2Candidate_eq_some hiIdx hread hroot).mpr ⟨rfl, hpasses⟩
  obtain ⟨-, -, -, -, hkinds, hranges, -⟩ := hpasses
  obtain ⟨price, hprice, hfails⟩ : ∃ price ∈ root.prices src limits,
      FailsIn ArcadiaTioError.IsCorrupt price := exists_price_of_empty hkinds hranges hempty
  have hbad : ¬ IsOk price := by
    obtain ⟨e, rfl, -⟩ := hfails
    exact not_isOk_error
  obtain ⟨e, b, hmetadata, hcorrupt⟩ := failsLike_readMetadataObjectsV2 src root limits
    ⟨price, hprice, hbad⟩ (.fromLimits limits)
  have hgen : lo.generation < OcbRootCandidateV2.generation ⟨slot, root⟩ := h.older
  rw [hslots.fallsBack_of_failure hgen hdecode (run_loadCandidate_of_metadata hmetadata)]
  exact hcorrupt

/-- A root without such an object, whose snapshot is in order but for its empty references. -/
lemma not_fallsBack_of_restInOrder (h : MalformedNewer src zstd page validation limits hiIdx loIdx
    (.decoded slot root) lo) (hpasses : PassesChecks src.fileLen hiIdx slot root)
    (hrest : RestInOrder src zstd validation limits root) :
    ¬ FallsBack src zstd page validation limits lo := by
  obtain ⟨slotBytes, ⟨hslot, bytes, hread, hroot⟩, hslots⟩ := h.twoSlots
  rw [hslot] at hslots
  have hdecode := (decodeV2Candidate_eq_some hiIdx hread hroot).mpr ⟨rfl, hpasses⟩
  obtain ⟨-, -, -, -, hkinds, hranges, -⟩ := hpasses
  have hgen : lo.generation < OcbRootCandidateV2.generation ⟨slot, root⟩ := h.older
  exact hslots.not_fallsBack_of_loads hgen hdecode (isOk_loadCandidate hkinds hranges hrest)

/-- A slot that is turned down does not pass its checks. -/
lemma TurnedDown.not_passes (h : TurnedDown src.fileLen hiIdx slot root) :
    ¬ PassesChecks src.fileLen hiIdx slot root := by
  rintro ⟨hid, hlen, hprevious, hdiag, hkinds, hranges, hagrees⟩
  rcases h with h | h | h | ⟨-, h | ⟨-, h | h⟩⟩
  · exact h hid
  · exact h hlen
  · exact h hprevious
  · exact h hdiag.2
  · exact h hranges
  · exact h hagrees

end Decoded

end FallBack

/-! ### A wrong kind in the newer root -/

namespace WrongKind

/-- No names. -/
def stringTable : OcbStringTableV1 := ⟨1, [], 0⟩

/-- A schema without columns. -/
def schema : OcbSchemaV1 := ⟨1, .unchecked 4152 24 .stringTable, [], 0⟩

/-- An index without row groups. -/
def rowGroupIndex : OcbRowGroupIndexV1 := ⟨1, 0, [], [], [], 0⟩

/-- The root of the older snapshot. -/
def olderRoot : OcbRootV2 :=
  .ofSchema 1 (.unchecked 4096 56 .schema) (.unchecked 4176 36 .rowGroupIndex)

/-- The newer root names the schema where an ordering proof is expected. -/
def newerRoot : OcbRootV2 :=
  { olderRoot with generation := 2, orderingProofRef := .unchecked 4096 56 .schema }

/-- The slot of the older root. -/
def olderSlot : OcbRootSlotV2 := .ofRoot 0 1 (.unchecked 4212 456 .root)

/-- The slot of the newer root. -/
def newerSlot : OcbRootSlotV2 := .ofRoot 1 2 (.unchecked 4668 456 .root)

/-- The parts of the file. -/
def parts : List (List UInt8) :=
  [OcbBootstrapPageV2.bytesOfSlots olderSlot newerSlot, sealBytes schema.fieldBytes,
    sealBytes stringTable.fieldBytes, sealBytes rowGroupIndex.fieldBytes,
    sealBytes olderRoot.fieldBytes, sealBytes newerRoot.fieldBytes]

lemma parts_lengths : parts.map List.length = [4096, 56, 24, 36, 456, 456] := by
  simp only [parts, List.map_cons, List.map_nil, OcbSchemaV1.fieldBytes,
    OcbStringTableV1.fieldBytes, OcbRowGroupIndexV1.fieldBytes,
    OcbBootstrapPageV2.length_bytesOfSlots (a := olderSlot) (b := newerSlot) rfl rfl,
    length_sealBytes_objectBytes ocbSchemaHeader rfl,
    length_sealBytes_objectBytes ocbStringTableHeader rfl,
    length_sealBytes_objectBytes ocbRowGroupIndexHeader rfl, OcbRootV2.length_sealBytes_fieldBytes]
  rfl

lemma length_flatten_parts : parts.flatten.length = 5124 := by
  rw [List.length_flatten, parts_lengths]
  rfl

/-- The file. -/
def file : OcbReadSource := .ofBytes parts.flatten (by rw [length_flatten_parts]; decide)

lemma fileLen_file : file.fileLen = 5124 := length_flatten_parts

/-- The page of the file, as the reader decodes it. -/
def page : OcbBootstrapPageV2 := .sealedOfSlots olderSlot newerSlot

lemma decodedRootSlots_page :
    page.decodedRootSlots = [.ok olderSlot.sealed, .ok newerSlot.sealed] := by
  rw [page, OcbBootstrapPageV2.decodedRootSlots_sealedOfSlots,
    olderSlot.readFrom_sealBytes rfl (by decide) rfl, newerSlot.readFrom_sealBytes rfl (by decide) rfl]

lemma readFrom_page :
    OcbBootstrapPageV2.readFrom (file.bytes.take ocbBootstrapPageLen) = .ok page := by
  have hhead : file.bytes.take ocbBootstrapPageLen =
      OcbBootstrapPageV2.bytesOfSlots olderSlot newerSlot :=
    List.take_left' (OcbBootstrapPageV2.length_bytesOfSlots rfl rfl)
  rw [hhead, OcbBootstrapPageV2.readFrom_bytesOfSlots rfl rfl, page]

/-- The candidate of the older root. -/
def older : OcbRootCandidateV2 := ⟨olderSlot.sealed, olderRoot.sealed⟩

lemma decode_older : decodeV2Candidate file .policyA 0 (.ok olderSlot.sealed) = .ok (some older) := by
  refine decodeV2Candidate_sealed rfl (by decide) ?_ ?_ rfl ?_ (by decide)
  · rw [fileLen_file]
    decide
  · exact OcbReadSource.readObjectBytes_part _ parts_lengths 4 rfl rfl rfl rfl (by decide)
      (by decide)
  · rw [fileLen_file]
    decide

lemma newer_root : ∃ bytes, file.readObjectBytesWithResourceLimits newerSlot.sealed.rootRef .root
    .policyA = .ok bytes ∧ OcbRootV2.readFrom bytes = .ok newerRoot.sealed :=
  ⟨_, OcbReadSource.readObjectBytes_part _ parts_lengths 5 rfl rfl rfl rfl (by decide) (by decide),
    newerRoot.readFrom_sealBytes rfl⟩

/-- The metadata of the older snapshot, up to the stored checksums. -/
def metadata (cRoot cSchema cStrings cIndex : UInt32) : OcbMetadataV1 where
  root := { olderRoot.toV1Root with crc32c := cRoot }
  stringTable := { stringTable with crc32c := cStrings }
  schema := { schema with crc32c := cSchema }
  dictionaryIndex := none
  rowGroupIndex := { rowGroupIndex with crc32c := cIndex }
  rowGroupPositionsById := []
  orderingProof := none
  fileLen := 5124
  appendable := true
  rootGeneration := 1
  previousRootGeneration := none
  resourceLimits := .policyA
  openMetadataMaterializedBytes := 0
  openAuxiliaryEncodedBytes := 0

section Decode

variable (b : MetadataMaterializationBudget)

lemma read_schema : ∃ c, (OcbSchemaV1.readFromBytesWithBudget (sealBytes schema.fieldBytes)).run
    (.fromLimits .policyA) = (.ok { schema with crc32c := c }, .fromLimits .policyA) := by
  refine ⟨crc32c schema.fieldBytes, ?_⟩
  rw [OcbSchemaV1.readFromBytesWithBudget, OcbSchemaV1.fieldBytes,
    show schema.version = 1 from rfl, readHeader_sealBytes_one _ rfl _ (by decide)]
  generalize crc32c _ = c
  rfl

lemma read_stringTable : ∃ c, (OcbStringTableV1.readFromBytesWithBudget
    (sealBytes stringTable.fieldBytes)).run (.fromLimits .policyA) =
      (.ok { stringTable with crc32c := c }, .fromLimits .policyA) := by
  refine ⟨crc32c stringTable.fieldBytes, ?_⟩
  rw [OcbStringTableV1.readFromBytesWithBudget, OcbStringTableV1.fieldBytes,
    show stringTable.version = 1 from rfl, readHeader_sealBytes_one _ rfl _ (by decide)]
  generalize crc32c _ = c
  rfl

lemma read_rowGroupIndex : ∃ c, (OcbRowGroupIndexV1.readFromBytesWithBudget
    (sealBytes rowGroupIndex.fieldBytes)).run (.fromLimits .policyA) =
      (.ok { rowGroupIndex with crc32c := c }, .fromLimits .policyA) := by
  refine ⟨crc32c rowGroupIndex.fieldBytes, ?_⟩
  rw [OcbRowGroupIndexV1.readFromBytesWithBudget, OcbRowGroupIndexV1.fieldBytes,
    show rowGroupIndex.version = 1 from rfl, readHeader_sealBytes_one _ rfl _ (by decide)]
  generalize crc32c _ = c
  rfl

end Decode

/-- The older root with a given checksum. -/
def olderRootWith (c : UInt32) : OcbRootV2 := { olderRoot with crc32c := c }

lemma sealed_olderRoot : olderRoot.sealed = olderRootWith (crc32c olderRoot.fieldBytes) := rfl

lemma readMetadata_older (c : UInt32) : ∃ cSchema cStrings cIndex,
    (readMetadataObjectsV2WithResourceLimits file (olderRootWith c) .policyA).run
      (.fromLimits .policyA) =
        (.ok (metadata c cSchema cStrings cIndex), .fromLimits .policyA) := by
  obtain ⟨cSchema, hschema⟩ := read_schema
  obtain ⟨cStrings, hstrings⟩ := read_stringTable
  obtain ⟨cIndex, hindex⟩ := read_rowGroupIndex
  have hbase := run_readMetadataObjects file (olderRootWith c).toV1Root .policyA
    (OcbReadSource.readObjectBytes_part _ parts_lengths 1 rfl rfl rfl rfl (by decide) (by decide))
    hschema
    (OcbReadSource.readObjectBytes_part _ parts_lengths 2 rfl rfl rfl rfl (by decide) (by decide))
    hstrings rfl
    (OcbReadSource.readObjectBytes_part _ parts_lengths 3 rfl rfl rfl rfl (by decide) (by decide))
    hindex rfl
  refine ⟨cSchema, cStrings, cIndex, ?_⟩
  rw [readMetadataObjectsV2WithResourceLimits, Fallible.run_bind_of_ok hbase, fileLen_file]
  rfl

/-- The graph of the older snapshot is empty, and in order. -/
lemma isOk_loadV2Root (zstd : ZstdCodec) (c : UInt32) (auxiliary : OcbOpenAuxiliaryObjectCache) :
    IsOk ((loadV2Root file zstd (olderRootWith c) .metadataGraph .policyA).run
      ⟨auxiliary, .fromLimits .policyA⟩).1 := by
  obtain ⟨cSchema, cStrings, cIndex, hread⟩ := readMetadata_older c
  rw [loadV2Root, Fallible.run_bind_of_ok
    (Opening.run_metered (s := ⟨auxiliary, .fromLimits .policyA⟩) hread)]
  exact ⟨_, rfl⟩

lemma older_loads (zstd : ZstdCodec) : IsOk ((loadCandidate file zstd .metadataGraph .policyA
    older).run (OcbOpenAuxiliaryObjectCache.new .policyA)).1 := by
  rw [loadCandidate, older, sealed_olderRoot]
  generalize crc32c olderRoot.fieldBytes = c
  rcases hrun : (loadV2Root file zstd (olderRootWith c) .metadataGraph .policyA).run
    ⟨.new .policyA, .fromLimits .policyA⟩ with ⟨r, s⟩
  rw [run_validateV2RootReferencedObjectsWithScope hrun]
  have hload := isOk_loadV2Root zstd c (.new .policyA)
  rwa [hrun] at hload

/-- The file meets every hypothesis about a malformed newer snapshot. -/
lemma malformedNewer (zstd : ZstdCodec) : MalformedNewer file zstd page .metadataGraph .policyA
    1 0 (.decoded newerSlot.sealed newerRoot.sealed) older where
  two_slots := rfl
  distinct := by decide
  newer_slot := ⟨sealBytes newerSlot.fieldBytes, rfl,
    newerSlot.readFrom_sealBytes rfl (by decide) rfl, newer_root⟩
  malformed := by
    refine ⟨⟨newerRoot.sealed.orderingProofRef, [.orderingProof], true⟩, ?_, ?_⟩
    · simp [OcbRootV2.refFields]
    · rw [show newerRoot.sealed.orderingProofRef = .unchecked 4096 56 .schema from rfl]
      decide
  older_decodes := ⟨_, by rw [decodedRootSlots_page]; rfl, decode_older⟩
  older_loads := older_loads zstd
  older := show older.generation < newerSlot.sealed.generation.toNat by decide

/-- The kind mismatch is reported as an invalid input. -/
lemma decode_newer : decodeV2Candidate file .policyA 1 (.ok newerSlot.sealed) =
    .error (ocbInvalidInput "OCB root ordering_proof_ref must reference ordering proof") := by
  obtain ⟨bytes, hread, hroot⟩ := newer_root
  have hkinds : newerRoot.sealed.validateReferences file.fileLen =
      .error (ocbInvalidInput "OCB root ordering_proof_ref must reference ordering proof") := by
    rw [newerRoot.validateReferences_sealed, fileLen_file]
    decide
  rw [decodeV2Candidate_of_read hread hroot, hkinds]
  rfl

/-- The selection reports it, although the older snapshot loads. -/
lemma select (zstd : ZstdCodec) : selectV2Metadata file zstd page .metadataGraph .policyA = .error
    (ocbInvalidInput "OCB root ordering_proof_ref must reference ordering proof") := by
  obtain ⟨slotBytes, ⟨hslot, -⟩, hslots⟩ := (malformedNewer zstd).twoSlots
  rw [hslot] at hslots
  exact hslots.select_of_error decode_newer (by simp)

lemma not_passesChecks : ¬ PassesChecks file.fileLen 1 newerSlot.sealed newerRoot.sealed := by
  obtain ⟨bytes, hread, hroot⟩ := newer_root
  intro hpasses
  have hdecode := (decodeV2Candidate_eq_some 1 hread hroot).mpr ⟨rfl, hpasses⟩
  rw [decode_newer] at hdecode
  cases hdecode

lemma not_turnedDown : ¬ TurnedDown file.fileLen 1 newerSlot.sealed newerRoot.sealed := by
  obtain ⟨bytes, hread, hroot⟩ := newer_root
  rw [← failsIn_decodeV2Candidate 1 hread hroot, decode_newer]
  simp

lemma not_discarded : ¬ (NewerSnapshot.decoded newerSlot.sealed newerRoot.sealed).Discarded file
    .policyA 1 := by
  rintro (hdown | ⟨hpasses, -⟩)
  · exact not_turnedDown hdown
  · exact not_passesChecks hpasses

lemma not_otherwiseDamaged {zstd : ZstdCodec} :
    ¬ (NewerSnapshot.decoded newerSlot.sealed newerRoot.sealed).OtherwiseDamaged file zstd
      .metadataGraph .policyA 1 := by
  rintro ⟨hpasses, -⟩
  exact not_passesChecks hpasses

end WrongKind

end ArcadiaTio.Ocb
