import ArcadiaTio.Ocb.Read.Select

/-!
# Root selection is exact

The shrinking loop of `chooseV2Metadata` is a search through the conflict-free generations,
newest first (`chooseV2Metadata_eq_firstSuccess`): every candidate either belongs to a
generation that is in conflict, or is tried, together with its twins, exactly once.  From this
the possible outcomes of `selectV2Metadata` follow.
-/

namespace ArcadiaTio.Ocb

open ArcadiaTio.Lib

/-! ### The order of the attempts -/

/-- Two candidates of this generation name different roots. -/
def Conflicted (candidates : List OcbRootCandidateV2) (generation : ℕ) : Prop :=
  ∃ c ∈ candidates, ∃ d ∈ candidates,
    c.generation = generation ∧ d.generation = generation ∧ c.slot.rootRef ≠ d.slot.rootRef

/-- `order` lists one candidate for every generation that is not in conflict, newest first. -/
structure AttemptOrder (candidates order : List OcbRootCandidateV2) : Prop where
  descending : order.Pairwise fun c d => d.generation < c.generation
  candidate : ∀ c ∈ order, c ∈ candidates ∧ ¬ Conflicted candidates c.generation
  covers : ∀ c ∈ candidates, Conflicted candidates c.generation ∨
    ∃ d ∈ order, d.generation = c.generation ∧ d.slot.rootRef = c.slot.rootRef

section Choose

variable {candidates : List OcbRootCandidateV2} {generation : ℕ}

lemma maxGeneration_eq_some :
    maxGeneration candidates = some generation ↔
      (∃ c ∈ candidates, c.generation = generation) ∧
        ∀ c ∈ candidates, c.generation ≤ generation := by
  simp [maxGeneration, List.max?_eq_some_iff]

lemma maxGeneration_eq_none : maxGeneration candidates = none ↔ candidates = [] := by
  simp [maxGeneration]

lemma conflicted_dropGeneration {g : ℕ} (hg : g ≠ generation) :
    Conflicted (dropGeneration generation candidates) g ↔ Conflicted candidates g := by
  constructor
  · rintro ⟨c, hc, d, hd, h⟩
    exact ⟨c, (mem_dropGeneration.mp hc).1, d, (mem_dropGeneration.mp hd).1, h⟩
  · rintro ⟨c, hc, d, hd, rfl, hcd, h⟩
    exact ⟨c, mem_dropGeneration.mpr ⟨hc, hg⟩, d, mem_dropGeneration.mpr ⟨hd, hcd ▸ hg⟩, rfl,
      hcd, h⟩

/-- Dropping a generation in conflict leaves the attempts as they are. -/
lemma AttemptOrder.of_drop_conflicted {order : List OcbRootCandidateV2}
    (hconf : Conflicted candidates generation)
    (h : AttemptOrder (dropGeneration generation candidates) order) :
    AttemptOrder candidates order := by
  have hne : ∀ c ∈ order, c ∈ candidates ∧ c.generation ≠ generation := fun c hc =>
    mem_dropGeneration.mp (h.candidate c hc).1
  refine ⟨h.descending, fun c hc => ⟨(hne c hc).1, ?_⟩, fun c hc => ?_⟩
  · rw [← conflicted_dropGeneration (hne c hc).2]
    exact (h.candidate c hc).2
  · by_cases hg : c.generation = generation
    · exact .inl (hg ▸ hconf)
    · rw [← conflicted_dropGeneration hg]
      exact h.covers c (mem_dropGeneration.mpr ⟨hc, hg⟩)

/-- The newest generation, when it is not in conflict, is tried first. -/
lemma AttemptOrder.cons {order : List OcbRootCandidateV2} {c : OcbRootCandidateV2}
    (hc : c ∈ candidates) (hgen : c.generation = generation)
    (hmax : ∀ d ∈ candidates, d.generation ≤ generation)
    (hsame : ∀ d ∈ candidates, d.generation = generation → d.slot.rootRef = c.slot.rootRef)
    (h : AttemptOrder (dropGeneration generation candidates) order) :
    AttemptOrder candidates (c :: order) := by
  have hne : ∀ d ∈ order, d ∈ candidates ∧ d.generation ≠ generation := fun d hd =>
    mem_dropGeneration.mp (h.candidate d hd).1
  have hfree : ¬ Conflicted candidates generation := by
    rintro ⟨a, ha, b, hb, hag, hbg, hab⟩
    exact hab ((hsame a ha hag).trans (hsame b hb hbg).symm)
  refine ⟨List.pairwise_cons.mpr ⟨fun d hd => ?_, h.descending⟩, ?_, fun d hd => ?_⟩
  · have := hmax d (hne d hd).1
    have := (hne d hd).2
    omega
  · intro d hd
    rcases List.mem_cons.mp hd with rfl | hd
    · exact ⟨hc, hgen ▸ hfree⟩
    · rw [← conflicted_dropGeneration (hne d hd).2]
      exact ⟨(hne d hd).1, (h.candidate d hd).2⟩
  · by_cases hg : d.generation = generation
    · exact .inr ⟨c, by simp, hgen.trans hg.symm, (hsame d hd hg).symm⟩
    · rcases h.covers d (mem_dropGeneration.mpr ⟨hd, hg⟩) with hconf | ⟨a, ha, had⟩
      · exact .inl ((conflicted_dropGeneration hg).mp hconf)
      · exact .inr ⟨a, List.mem_cons_of_mem _ ha, had⟩

end Choose

variable {validate : OcbRootV2 →
  Fallible ArcadiaTioError OcbOpenAuxiliaryObjectCache OcbMetadataV1}

/-- The search of `chooseV2Metadata` over an explicit order of attempts. -/
def tryInOrder (validate : OcbRootV2 →
      Fallible ArcadiaTioError OcbOpenAuxiliaryObjectCache OcbMetadataV1)
    (order : List OcbRootCandidateV2) :
    Fallible ArcadiaTioError OcbOpenAuxiliaryObjectCache OcbMetadataV1 :=
  firstSuccess isDiscardableCandidateError (fun c => validate c.root) noValidRootSlot order

/-- One round of the loop, when the newest generation and its first candidate are known. -/
lemma chooseV2Metadata_round {candidates : List OcbRootCandidateV2} {generation : ℕ}
    {c : OcbRootCandidateV2} (hmax : maxGeneration candidates = some generation)
    (hfind : candidates.find? (fun c => c.generation = generation) = some c)
    (cache : OcbOpenAuxiliaryObjectCache) :
    chooseV2Metadata validate candidates cache =
      if ∃ d ∈ candidates, d.generation = generation ∧ d.slot.rootRef ≠ c.slot.rootRef then
        chooseV2Metadata validate (dropGeneration generation candidates) cache
      else
        match (validate c.root).run cache with
        | (.ok m, cache) => (.ok m, cache)
        | (.error e, cache) =>
          if isDiscardableCandidateError e then
            chooseV2Metadata validate (dropGeneration generation candidates) cache
          else (.error e, cache) := by
  rw [chooseV2Metadata]
  simp only [hmax]
  split
  case h_1 h =>
    rw [hfind] at h
    cases h
  case h_2 d h =>
    obtain rfl : c = d := Option.some.inj (hfind.symm.trans h)
    rfl

variable (validate) in
/-- The loop over the generations is a search through an order of attempts, whatever the state
of the cache. -/
lemma chooseV2Metadata_eq_tryInOrder (candidates : List OcbRootCandidateV2) :
    ∃ order, AttemptOrder candidates order ∧
      ∀ cache, chooseV2Metadata validate candidates cache =
        (tryInOrder validate order).run cache := by
  induction hlen : candidates.length using Nat.strong_induction_on generalizing candidates with
  | _ n ih =>
  rcases hmax : maxGeneration candidates with _ | generation
  · obtain rfl := maxGeneration_eq_none.mp hmax
    refine ⟨[], ⟨.nil, by simp, by simp⟩, fun cache => ?_⟩
    rw [chooseV2Metadata, hmax]
    rfl
  · obtain ⟨⟨c₀, hc₀, hgen₀⟩, hle⟩ := maxGeneration_eq_some.mp hmax
    rcases hfind : candidates.find? fun c => c.generation = generation with _ | c
    · have := List.find?_eq_none.mp hfind c₀ hc₀
      simp [hgen₀] at this
    · have hc := List.mem_of_find?_eq_some hfind
      have hgen : c.generation = generation := by simpa using List.find?_some hfind
      obtain ⟨order, horder, hrun⟩ :=
        ih _ (hlen ▸ length_dropGeneration_lt hc hgen) (dropGeneration generation candidates) rfl
      by_cases hconf : ∃ d ∈ candidates, d.generation = generation ∧
          d.slot.rootRef ≠ c.slot.rootRef
      · obtain ⟨d, hd, hdg, hdc⟩ := id hconf
        refine ⟨order, horder.of_drop_conflicted ⟨d, hd, c, hc, hdg, hgen, hdc⟩, fun cache => ?_⟩
        rw [chooseV2Metadata_round hmax hfind, if_pos hconf, hrun]
      · have hsame : ∀ d ∈ candidates, d.generation = generation →
            d.slot.rootRef = c.slot.rootRef := by
          intro d hd hdg
          by_contra hne
          exact hconf ⟨d, hd, hdg, hne⟩
        refine ⟨c :: order, horder.cons hc hgen hle hsame, fun cache => ?_⟩
        rw [chooseV2Metadata_round hmax hfind, if_neg hconf]
        rcases hv : (validate c.root).run cache with ⟨e | m, k⟩ <;>
          simp only [tryInOrder, firstSuccess, hv, hrun]

/-! ### Decoding in table order -/

section Decode

variable (src : OcbReadSource) (limits : OcbResourceLimits)

/-- The first failure, in table order from a position on, that is not discardable. -/
def firstDecodeFailure : ℕ → List (Result OcbRootSlotV2) → Option ArcadiaTioError
  | _, [] => none
  | idx, slotResult :: rest =>
    match decodeV2Candidate src limits idx slotResult with
    | .error e =>
      if isDiscardableCandidateError e then firstDecodeFailure (idx + 1) rest else some e
    | .ok _ => firstDecodeFailure (idx + 1) rest

/-- The slot at a table position decodes to a candidate. -/
def DecodesTo (slots : List (Result OcbRootSlotV2)) (idx : ℕ) (c : OcbRootCandidateV2) : Prop :=
  ∃ slotResult, slots[idx]? = some slotResult ∧
    decodeV2Candidate src limits idx slotResult = .ok (some c)

variable {src limits}

lemma decodeV2Candidates_of_failure {slots : List (Result OcbRootSlotV2)} {idx : ℕ}
    {e : ArcadiaTioError} (h : firstDecodeFailure src limits idx slots = some e) :
    decodeV2Candidates src limits idx slots = .error e := by
  induction slots generalizing idx with
  | nil => cases h
  | cons slotResult rest ih =>
    rw [firstDecodeFailure] at h
    rw [decodeV2Candidates]
    rcases hd : decodeV2Candidate src limits idx slotResult with e' | _ | c
    · simp only [hd] at h ⊢
      by_cases he : isDiscardableCandidateError e'
      · rw [if_pos he] at h ⊢
        exact ih h
      · rw [if_neg he] at h ⊢
        rw [Option.some.inj h]
    · simp only [hd] at h ⊢
      exact ih h
    · simp only [hd] at h ⊢
      rw [ih h]
      rfl

lemma decodeV2Candidates_of_no_failure {slots : List (Result OcbRootSlotV2)} {idx : ℕ}
    (h : firstDecodeFailure src limits idx slots = none) :
    ∃ candidates, decodeV2Candidates src limits idx slots = .ok candidates ∧
      ∀ c, c ∈ candidates ↔ ∃ i slotResult, slots[i]? = some slotResult ∧
        decodeV2Candidate src limits (idx + i) slotResult = .ok (some c) := by
  induction slots generalizing idx with
  | nil => exact ⟨[], rfl, by simp⟩
  | cons slotResult rest ih =>
    rw [firstDecodeFailure] at h
    -- the candidates of the remaining slots, at positions shifted by one
    have shift : ∀ c, (∃ i r, (slotResult :: rest)[i]? = some r ∧
        decodeV2Candidate src limits (idx + i) r = .ok (some c)) ↔
        decodeV2Candidate src limits idx slotResult = .ok (some c) ∨
        ∃ i r, rest[i]? = some r ∧
          decodeV2Candidate src limits (idx + 1 + i) r = .ok (some c) := by
      intro c
      constructor
      · rintro ⟨_ | i, r, hr, hd⟩
        · simp only [List.getElem?_cons_zero, Option.some.injEq] at hr
          exact .inl (hr ▸ hd)
        · rw [List.getElem?_cons_succ] at hr
          exact .inr ⟨i, r, hr, by rwa [show idx + 1 + i = idx + (i + 1) by omega]⟩
      · rintro (hd | ⟨i, r, hr, hd⟩)
        · exact ⟨0, slotResult, rfl, hd⟩
        · exact ⟨i + 1, r, by rwa [List.getElem?_cons_succ],
            by rwa [show idx + (i + 1) = idx + 1 + i by omega]⟩
    rw [decodeV2Candidates]
    rcases hd : decodeV2Candidate src limits idx slotResult with e | _ | c
    · simp only [hd] at h ⊢
      by_cases he : isDiscardableCandidateError e
      · rw [if_pos he] at h ⊢
        obtain ⟨candidates, hok, hmem⟩ := ih h
        exact ⟨candidates, hok, fun c => by simp [hmem c, shift c, hd]⟩
      · rw [if_neg he] at h
        cases h
    · simp only [hd] at h ⊢
      obtain ⟨candidates, hok, hmem⟩ := ih h
      exact ⟨candidates, hok, fun c => by simp [hmem c, shift c, hd]⟩
    · simp only [hd] at h ⊢
      obtain ⟨candidates, hok, hmem⟩ := ih h
      refine ⟨c :: candidates, by rw [hok]; rfl, fun c' => ?_⟩
      rw [shift c', List.mem_cons, hmem c', hd]
      simp [eq_comm]

/-- A decoded candidate carries the root that its slot names. -/
lemma root_of_decodeV2Candidate {idx : ℕ} {slotResult : Result OcbRootSlotV2}
    {c : OcbRootCandidateV2} (h : decodeV2Candidate src limits idx slotResult = .ok (some c)) :
    ∃ bytes, src.readObjectBytesWithResourceLimits c.slot.rootRef .root limits = .ok bytes ∧
      OcbRootV2.readFrom bytes = .ok c.root := by
  obtain ⟨slot, -, h⟩ := bind_eq_ok.mp h
  by_cases hempty : slot.IsEmpty
  · rw [if_pos hempty] at h
    cases h
  · rw [if_neg hempty] at h
    obtain ⟨-, -, h⟩ := bind_eq_ok.mp h
    obtain ⟨bytes, hbytes, h⟩ := bind_eq_ok.mp h
    obtain ⟨root, hroot, h⟩ := bind_eq_ok.mp h
    obtain ⟨-, -, h⟩ := bind_eq_ok.mp h
    obtain ⟨-, -, h⟩ := bind_eq_ok.mp h
    cases h
    exact ⟨bytes, hbytes, hroot⟩

/-- Candidates whose slots name the same root object carry the same root. -/
lemma root_eq_of_rootRef_eq {idx idx' : ℕ} {r r' : Result OcbRootSlotV2}
    {c d : OcbRootCandidateV2} (hc : decodeV2Candidate src limits idx r = .ok (some c))
    (hd : decodeV2Candidate src limits idx' r' = .ok (some d))
    (h : d.slot.rootRef = c.slot.rootRef) : d.root = c.root := by
  obtain ⟨bytes, hbytes, hroot⟩ := root_of_decodeV2Candidate hc
  obtain ⟨bytes', hbytes', hroot'⟩ := root_of_decodeV2Candidate hd
  rw [h] at hbytes'
  obtain rfl : bytes' = bytes := Except.ok.inj (hbytes'.symm.trans hbytes)
  exact Except.ok.inj (hroot'.symm.trans hroot)

end Decode

/-! ### The outcomes of a selection -/

section Outcome

variable (src : OcbReadSource) (zstd : ZstdCodec) (validation : OcbOpenValidationMode)
  (limits : OcbResourceLimits)

/-- Load a candidate: everything its root refers to is read and validated. -/
def loadCandidate (c : OcbRootCandidateV2) :
    Fallible ArcadiaTioError OcbOpenAuxiliaryObjectCache OcbMetadataV1 :=
  validateV2RootReferencedObjectsWithScope src zstd c.root validation limits

/-- The attempts before `c` were all discarded, and `k` is the cache they left behind. -/
def Reached (order : List OcbRootCandidateV2) (c : OcbRootCandidateV2)
    (k : OcbOpenAuxiliaryObjectCache) : Prop :=
  ∃ pre post, order = pre ++ c :: post ∧
    Discards isDiscardableCandidateError (loadCandidate src zstd validation limits)
      (OcbOpenAuxiliaryObjectCache.new limits) pre k

/-- Every attempt of the order was discarded. -/
def AllDiscarded (order : List OcbRootCandidateV2) : Prop :=
  ∃ k, Discards isDiscardableCandidateError (loadCandidate src zstd validation limits)
    (OcbOpenAuxiliaryObjectCache.new limits) order k

/-- What a selection among these candidates, tried in this order, can result in. -/
structure SelectionExact (candidates order : List OcbRootCandidateV2)
    (result : Result OcbMetadataV1) : Prop where
  ok_iff : ∀ m, result = .ok m ↔ ∃ c k k', Reached src zstd validation limits order c k ∧
    (loadCandidate src zstd validation limits c).run k = (.ok m, k')
  /-- The result comes from the newest candidate that is neither in conflict nor corrupt. -/
  newest : ∀ m, result = .ok m → ∃ c ∈ candidates, ∃ k,
    ((loadCandidate src zstd validation limits c).run k).1 = .ok m ∧
    ¬ Conflicted candidates c.generation ∧
    ∀ d ∈ candidates, c.generation < d.generation → Conflicted candidates d.generation ∨
      ∃ k e, ((loadCandidate src zstd validation limits d).run k).1 = .error e ∧ e.IsCorrupt
  error_iff : ∀ e, ¬ e.IsCorrupt → (result = .error e ↔
    ∃ c k k', Reached src zstd validation limits order c k ∧
      (loadCandidate src zstd validation limits c).run k = (.error e, k'))
  exhausted_iff : result = .error noValidRootSlot ↔ AllDiscarded src zstd validation limits order
  corrupt_error : ∀ e, result = .error e → e.IsCorrupt → e = noValidRootSlot

variable {src zstd validation limits}

lemma isCorrupt_noValidRootSlot : noValidRootSlot.IsCorrupt := by simp [noValidRootSlot]

/-- The search through an order of attempts has exactly these outcomes. -/
lemma selectionExact_tryInOrder {candidates order : List OcbRootCandidateV2}
    (horder : AttemptOrder candidates order)
    (htwins : ∀ c ∈ candidates, ∀ d ∈ candidates, d.slot.rootRef = c.slot.rootRef →
      d.root = c.root) :
    SelectionExact src zstd validation limits candidates order
      ((tryInOrder (fun root => validateV2RootReferencedObjectsWithScope src zstd root validation
        limits) order).run (OcbOpenAuxiliaryObjectCache.new limits)).1 := by
  set load := loadCandidate src zstd validation limits
  set k₀ := OcbOpenAuxiliaryObjectCache.new limits
  set result := (firstSuccess isDiscardableCandidateError load noValidRootSlot order).run k₀
    with hresult
  change SelectionExact src zstd validation limits candidates order result.1
  -- an attempt that is reached and not discarded is the result
  have reached_ok : ∀ {c k m k'}, Reached src zstd validation limits order c k →
      (load c).run k = (.ok m, k') → result.1 = .ok m := by
    rintro c k m k' ⟨pre, post, rfl, hpre⟩ hrun
    rw [hresult, hpre.firstSuccess_append, firstSuccess_cons_of_ok hrun]
  have reached_error : ∀ {c k e k'}, Reached src zstd validation limits order c k →
      (load c).run k = (.error e, k') → ¬ e.IsCorrupt → result.1 = .error e := by
    rintro c k e k' ⟨pre, post, rfl, hpre⟩ hrun he
    have hkeep : ¬ isDiscardableCandidateError e := he
    rw [hresult, hpre.firstSuccess_append, firstSuccess_cons_of_error hrun hkeep]
  have all : AllDiscarded src zstd validation limits order →
      result.1 = .error noValidRootSlot := by
    rintro ⟨k, hk⟩
    have hwalk : (firstSuccess isDiscardableCandidateError load noValidRootSlot (order ++ [])).run
        k₀ = (firstSuccess isDiscardableCandidateError load noValidRootSlot []).run k :=
      hk.firstSuccess_append
    rw [List.append_nil] at hwalk
    rw [hresult, hwalk]
    rfl
  rcases firstSuccess_cases isDiscardableCandidateError load noValidRootSlot order k₀ with
    ⟨pre, c, post, k, m, k', hsplit, hpre, hrun, h⟩ |
    ⟨pre, c, post, k, e, k', hsplit, hpre, hrun, he, h⟩ | ⟨k, hall, h⟩
  · have hreach : Reached src zstd validation limits order c k := ⟨pre, post, hsplit, hpre⟩
    have hval : result.1 = .ok m := by rw [hresult, h]
    refine ⟨fun m' => ⟨fun h' => ?_, fun ⟨c, k, k', hr, hrun⟩ => reached_ok hr hrun⟩,
      fun m' h' => ?_, fun e he => ⟨fun h' => ?_, fun ⟨c, k, k', hr, hrun⟩ =>
      reached_error hr hrun he⟩, ⟨fun h' => ?_, all⟩, fun e h' => ?_⟩
    · obtain rfl : m = m' := Except.ok.inj (hval.symm.trans h')
      exact ⟨c, k, k', hreach, hrun⟩
    · obtain rfl : m = m' := Except.ok.inj (hval.symm.trans h')
      have hc := horder.candidate c (by simp [hsplit])
      refine ⟨c, hc.1, k, by rw [hrun], hc.2, fun d hd hlt => ?_⟩
      rcases horder.covers d hd with hconf | ⟨a, ha, hag, har⟩
      · exact .inl hconf
      -- the representative of a newer generation comes before `c` in the order
      have hpre_mem : a ∈ pre := by
        rw [hsplit] at ha
        have hdesc := horder.descending
        rw [hsplit, List.pairwise_append] at hdesc
        rcases List.mem_append.mp ha with ha | ha
        · exact ha
        · rcases List.mem_cons.mp ha with rfl | ha
          · omega
          · have := (List.pairwise_cons.mp hdesc.2.1).1 a ha
            omega
      obtain ⟨k₁, e, k₂, hrun_a, he⟩ := hpre.of_mem hpre_mem
      have hroot := htwins d hd a (horder.candidate a ha).1 har
      refine .inr ⟨k₁, e, ?_, he⟩
      rw [loadCandidate, ← hroot]
      exact congrArg Prod.fst hrun_a
    all_goals
      rw [hval] at h'
      cases h'
  · have hreach : Reached src zstd validation limits order c k := ⟨pre, post, hsplit, hpre⟩
    have hval : result.1 = .error e := by rw [hresult, h]
    refine ⟨fun m' => ⟨fun h' => ?_, fun ⟨c, k, k', hr, hrun⟩ => reached_ok hr hrun⟩,
      fun m' h' => ?_, fun e' he' => ⟨fun h' => ?_, fun ⟨c, k, k', hr, hrun⟩ =>
      reached_error hr hrun he'⟩, ⟨fun h' => ?_, all⟩, fun e' h' hcorrupt => ?_⟩
    · rw [hval] at h'
      cases h'
    · rw [hval] at h'
      cases h'
    · obtain rfl : e = e' := Except.error.inj (hval.symm.trans h')
      exact ⟨c, k, k', hreach, hrun⟩
    · obtain rfl : e = noValidRootSlot := Except.error.inj (hval.symm.trans h')
      exact absurd isCorrupt_noValidRootSlot he
    · obtain rfl : e = e' := Except.error.inj (hval.symm.trans h')
      exact absurd hcorrupt he
  · have hval : result.1 = .error noValidRootSlot := by rw [hresult, h]
    refine ⟨fun m' => ⟨fun h' => ?_, fun ⟨c, k, k', hr, hrun⟩ => reached_ok hr hrun⟩,
      fun m' h' => ?_, fun e' he' => ⟨fun h' => ?_, fun ⟨c, k, k', hr, hrun⟩ =>
      reached_error hr hrun he'⟩, ⟨fun _ => ⟨k, hall⟩, fun _ => hval⟩, fun e' h' _ => ?_⟩
    · rw [hval] at h'
      cases h'
    · rw [hval] at h'
      cases h'
    · obtain rfl : noValidRootSlot = e' := Except.error.inj (hval.symm.trans h')
      exact absurd isCorrupt_noValidRootSlot he'
    · exact (Except.error.inj (hval.symm.trans h')).symm

end Outcome

/-- Root selection is exact.  A failure of the decoding stage that is not a corruption is
returned at once, the first in table order.  Otherwise the decoded candidates are tried newest
generation first, and the result is the first attempt that is not discarded. -/
theorem selectV2Metadata_exact (src : OcbReadSource) (zstd : ZstdCodec)
    (page : OcbBootstrapPageV2) (validation : OcbOpenValidationMode)
    (limits : OcbResourceLimits) :
    (∀ e, firstDecodeFailure src limits 0 page.decodedRootSlots = some e →
      selectV2Metadata src zstd page validation limits = .error e) ∧
    (firstDecodeFailure src limits 0 page.decodedRootSlots = none →
      ∃ candidates order,
        (∀ c, c ∈ candidates ↔ ∃ idx, DecodesTo src limits page.decodedRootSlots idx c) ∧
        AttemptOrder candidates order ∧
        SelectionExact src zstd validation limits candidates order
          (selectV2Metadata src zstd page validation limits)) := by
  constructor
  · intro e h
    rw [selectV2Metadata, decodeV2Candidates_of_failure h]
    rfl
  · intro h
    obtain ⟨candidates, hok, hmem⟩ := decodeV2Candidates_of_no_failure h
    obtain ⟨order, horder, hrun⟩ := chooseV2Metadata_eq_tryInOrder
      (fun root => validateV2RootReferencedObjectsWithScope src zstd root validation limits)
      candidates
    have hdecode : ∀ c, c ∈ candidates ↔
        ∃ idx, DecodesTo src limits page.decodedRootSlots idx c := by
      intro c
      simp [hmem c, DecodesTo]
    refine ⟨candidates, order, hdecode, horder, ?_⟩
    rw [selectV2Metadata, hok, ok_bind, hrun]
    refine selectionExact_tryInOrder horder fun c hc d hd href => ?_
    obtain ⟨i, r, -, hcr⟩ := (hdecode c).mp hc
    obtain ⟨j, r', -, hdr⟩ := (hdecode d).mp hd
    exact root_eq_of_rootRef_eq hcr hdr href

/-! ### Two failures in one file -/

namespace TwoFailures

/-- The schema of the newer snapshot, of a version that does not exist. -/
def schema : OcbSchemaV1 := ⟨2, .unchecked 4096 56 .stringTable, [], 0⟩

/-- The root of the newer snapshot. -/
def newerRoot : OcbRootV2 :=
  .ofSchema 2 (.unchecked 4096 56 .schema) (.unchecked 4096 56 .rowGroupIndex)

/-- The root of the older snapshot, of a version that does not exist. -/
def olderRoot : OcbRootV2 := { newerRoot with version := 3, generation := 1 }

/-- The slot of the older root. -/
def olderSlot : OcbRootSlotV2 := .ofRoot 0 1 (.unchecked 4152 456 .root)

/-- The slot of the newer root. -/
def newerSlot : OcbRootSlotV2 := .ofRoot 1 2 (.unchecked 4608 456 .root)

/-- The parts of the file. -/
def parts : List (List UInt8) :=
  [OcbBootstrapPageV2.bytesOfSlots olderSlot newerSlot, sealBytes schema.fieldBytes,
    sealBytes olderRoot.fieldBytes, sealBytes newerRoot.fieldBytes]

lemma parts_lengths : parts.map List.length = [4096, 56, 456, 456] := by
  simp only [parts, List.map_cons, List.map_nil, OcbSchemaV1.fieldBytes,
    OcbBootstrapPageV2.length_bytesOfSlots (a := olderSlot) (b := newerSlot) rfl rfl,
    length_sealBytes_objectBytes ocbSchemaHeader rfl, OcbRootV2.length_sealBytes_fieldBytes]
  rfl

lemma length_flatten_parts : parts.flatten.length = 5064 := by
  rw [List.length_flatten, parts_lengths]
  rfl

/-- The file. -/
def file : OcbReadSource := .ofBytes parts.flatten (by rw [length_flatten_parts]; decide)

lemma fileLen_file : file.fileLen = 5064 := length_flatten_parts

/-- The page of the file, as the reader decodes it. -/
def page : OcbBootstrapPageV2 := .sealedOfSlots olderSlot newerSlot

lemma decodedRootSlots_page :
    page.decodedRootSlots = [.ok olderSlot.sealed, .ok newerSlot.sealed] := by
  rw [page, OcbBootstrapPageV2.decodedRootSlots_sealedOfSlots,
    olderSlot.readFrom_sealBytes rfl (by decide) rfl, newerSlot.readFrom_sealBytes rfl (by decide) rfl]

lemma readFrom_page :
    OcbBootstrapPageV2.readFrom (file.bytes.take ocbBootstrapPageLen) = .ok page := by
  have hhead : file.bytes.take ocbBootstrapPageLen =
      OcbBootstrapPageV2.bytesOfSlots olderSlot newerSlot :=
    List.take_left' (OcbBootstrapPageV2.length_bytesOfSlots rfl rfl)
  rw [hhead, OcbBootstrapPageV2.readFrom_bytesOfSlots rfl rfl, page]

lemma decode_older : decodeV2Candidate file .policyA 0 (.ok olderSlot.sealed) =
    .error (ocbUnsupportedFormat "unsupported OCB root version") := by
  have hvalid : olderSlot.validateCandidate (Nat.toUInt16 0) file.fileLen = .ok () := by
    rw [fileLen_file]
    decide
  have hread : file.readObjectBytesWithResourceLimits olderSlot.rootRef .root .policyA =
      .ok (sealBytes olderRoot.fieldBytes) :=
    OcbReadSource.readObjectBytes_part _ parts_lengths 2 rfl rfl rfl rfl (by decide) (by decide)
  have hempty : ¬ olderSlot.sealed.IsEmpty := by
    rw [OcbRootSlotV2.isEmpty_sealed]
    decide
  rw [decodeV2Candidate, ok_bind, if_neg hempty, olderSlot.validateCandidate_sealed, hvalid,
    ok_bind, olderSlot.rootRef_sealed, hread, ok_bind,
    olderRoot.readFrom_sealBytes_of_ne (by decide), error_bind]

lemma decode_newer : decodeV2Candidate file .policyA 1 (.ok newerSlot.sealed) =
    .ok (some ⟨newerSlot.sealed, newerRoot.sealed⟩) := by
  refine decodeV2Candidate_sealed rfl (by decide) ?_ ?_ rfl ?_ (by decide)
  · rw [fileLen_file]
    decide
  · exact OcbReadSource.readObjectBytes_part _ parts_lengths 3 rfl rfl rfl rfl (by decide)
      (by decide)
  · rw [fileLen_file]
    decide

lemma load_newer (zstd : ZstdCodec) (validation : OcbOpenValidationMode)
    (k : OcbOpenAuxiliaryObjectCache) :
    ((loadCandidate file zstd validation .policyA ⟨newerSlot.sealed, newerRoot.sealed⟩).run k).1 =
      .error (ocbUnsupportedFormat "unsupported OCB schema version") := by
  have hread : file.readObjectBytesWithResourceLimits newerRoot.sealed.toV1Root.schemaRef .schema
      .policyA = .ok (sealBytes schema.fieldBytes) :=
    OcbReadSource.readObjectBytes_part _ parts_lengths 1 rfl rfl rfl rfl (by decide) (by decide)
  have hschema : ∀ budget, ((OcbSchemaV1.readFromBytesWithBudget (sealBytes schema.fieldBytes)).run
      budget) = (.error (ocbUnsupportedFormat "unsupported OCB schema version"), budget) := by
    intro budget
    rw [OcbSchemaV1.readFromBytesWithBudget, OcbSchemaV1.fieldBytes,
      readHeader_sealBytes_ne_one _ rfl _ _ (by decide)]
    rfl
  have hobjects : ∀ budget,
      (readMetadataObjectsV2WithResourceLimits file newerRoot.sealed .policyA).run budget =
        (.error (ocbUnsupportedFormat "unsupported OCB schema version"), budget) := by
    intro budget
    rw [readMetadataObjectsV2WithResourceLimits, readMetadataObjectsWithResourceLimits, hread]
    refine Fallible.run_bind_of_error ((Fallible.run_bind_of_ok Fallible.run_lift).trans ?_)
    exact Fallible.run_bind_of_error (hschema budget)
  rw [loadCandidate, run_validateV2RootReferencedObjectsWithScope
    (Fallible.run_bind_of_error (Opening.run_metered (hobjects _)))]

end TwoFailures

/-- The failures of the candidates are not met in descending generation: here the newer candidate
decodes and fails to load with one error that is not a corruption, the older one fails to decode
with another, and the selection returns the failure of the older one. -/
theorem selectV2Metadata_older_failure_first :
    ∃ (src : OcbReadSource) (page : OcbBootstrapPageV2) (older newer : OcbRootSlotV2)
      (c : OcbRootCandidateV2) (eOlder eNewer : ArcadiaTioError),
      OcbBootstrapPageV2.readFrom (src.bytes.take ocbBootstrapPageLen) = .ok page ∧
      page.decodedRootSlots = [.ok older, .ok newer] ∧ older.generation < newer.generation ∧
      decodeV2Candidate src .policyA 0 (.ok older) = .error eOlder ∧
      decodeV2Candidate src .policyA 1 (.ok newer) = .ok (some c) ∧
      ((loadCandidate src (fun _ _ => ⟨[], true⟩) .metadataGraph .policyA c).run
        (OcbOpenAuxiliaryObjectCache.new .policyA)).1 = .error eNewer ∧
      ¬ eOlder.IsCorrupt ∧ ¬ eNewer.IsCorrupt ∧ eOlder ≠ eNewer ∧
      selectV2Metadata src (fun _ _ => ⟨[], true⟩) page .metadataGraph .policyA =
        .error eOlder := by
  refine ⟨TwoFailures.file, TwoFailures.page, TwoFailures.olderSlot.sealed,
    TwoFailures.newerSlot.sealed, _, _, _, TwoFailures.readFrom_page, TwoFailures.decodedRootSlots_page, by decide,
    TwoFailures.decode_older, TwoFailures.decode_newer, TwoFailures.load_newer _ _ _,
    by simp, by simp, by simp [ocbUnsupportedFormat], ?_⟩
  rw [selectV2Metadata, TwoFailures.decodedRootSlots_page, decodeV2Candidates,
    TwoFailures.decode_older]
  rfl
end ArcadiaTio.Ocb
