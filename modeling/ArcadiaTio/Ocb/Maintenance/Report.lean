import ArcadiaTio.Ocb.Maintenance.Accounting

/-!
# The report of an analysis

A successful analysis reports on every root slot that it turns down, once, and on no other
(`rejectedCandidates_of_analyzeV2Maintenance`), and its offsets are exact: the end of the snapshot
is the least length of the file that holds everything the selected snapshot refers to
(`snapshotEnd_of_analyzeV2Maintenance`).
-/

namespace ArcadiaTio.Ocb

open ArcadiaTio.Lib

/-! ### The positions in the table -/

section Positions

variable {src : OcbReadSource} {limits : OcbResourceLimits}
  {slots : List (Result OcbRootSlotV2)}

lemma pairwise_zipIdx (slots : List (Result OcbRootSlotV2)) :
    slots.zipIdx.Pairwise fun p q => p.2 < q.2 := by
  have h : (slots.zipIdx.map Prod.snd).Pairwise (· < ·) := by
    rw [List.zipIdx_map_snd]
    exact List.pairwise_lt_range'
  exact List.pairwise_map.mp h

lemma toNat_position {idx : ℕ} {slotResult : Result OcbRootSlotV2}
    (hlen : slots.length ≤ 2 ^ 16) (h : slots[idx]? = some slotResult) :
    idx.toUInt16.toNat = idx := by
  obtain ⟨hlt, -⟩ := List.getElem?_eq_some_iff.mp h
  exact UInt16.toNat_ofNat_of_lt' (hlt.trans_le hlen)

/-- The candidates of the table, in table order. -/
def slotCandidates (src : OcbReadSource) (limits : OcbResourceLimits)
    (slots : List (Result OcbRootSlotV2)) : List OcbRootCandidateV2 :=
  slots.zipIdx.filterMap (candidateAt src limits)

/-- The diagnostics of the table, in table order. -/
def slotDiagnostics (src : OcbReadSource) (limits : OcbResourceLimits)
    (slots : List (Result OcbRootSlotV2)) : List OcbRootCandidateDiagnosticV2 :=
  slots.zipIdx.filterMap (diagnosticAt src limits)

lemma mem_slotCandidates {c : OcbRootCandidateV2} :
    c ∈ slotCandidates src limits slots ↔ ∃ idx, DecodesTo src limits slots idx c := by
  rw [slotCandidates, List.mem_filterMap]
  constructor
  · rintro ⟨⟨slotResult, idx⟩, hp, hc⟩
    exact ⟨idx, slotResult, List.mem_zipIdx_iff_getElem?.mp hp, candidateAt_eq_some.mp hc⟩
  · rintro ⟨idx, slotResult, hslot, hc⟩
    exact ⟨(slotResult, idx), List.mem_zipIdx_iff_getElem?.mpr hslot, candidateAt_eq_some.mpr hc⟩

/-- A candidate carries the position of its slot. -/
lemma slotId_of_decodesTo {idx : ℕ} {c : OcbRootCandidateV2}
    (h : DecodesTo src limits slots idx c) : c.slot.slotId = idx.toUInt16 := by
  obtain ⟨slotResult, -, hdecode⟩ := h
  exact (passesChecks_of_decodeV2Candidate hdecode).2.1

lemma toNat_slotId_of_decodesTo (hlen : slots.length ≤ 2 ^ 16) {idx : ℕ} {c : OcbRootCandidateV2}
    (h : DecodesTo src limits slots idx c) : c.slot.slotId.toNat = idx := by
  rw [slotId_of_decodesTo h]
  obtain ⟨slotResult, hslot, -⟩ := h
  exact toNat_position hlen hslot

/-- The candidates are in the order of their slots. -/
lemma pairwise_slotCandidates (hlen : slots.length ≤ 2 ^ 16) :
    (slotCandidates src limits slots).Pairwise
      fun c d => c.slot.slotId.toNat < d.slot.slotId.toNat := by
  rw [slotCandidates, List.pairwise_filterMap]
  refine (pairwise_zipIdx slots).imp_of_mem ?_
  rintro ⟨r, i⟩ ⟨r', j⟩ hp hq hlt c hc d hd
  have hcandidate : ∀ {r i c}, (r, i) ∈ slots.zipIdx → candidateAt src limits (r, i) = some c →
      c.slot.slotId.toNat = i := fun hp hc =>
    toNat_slotId_of_decodesTo hlen
      ⟨_, List.mem_zipIdx_iff_getElem?.mp hp, candidateAt_eq_some.mp hc⟩
  rw [hcandidate hp hc, hcandidate hq hd]
  exact hlt

lemma nodup_slotCandidates (hlen : slots.length ≤ 2 ^ 16) :
    ((slotCandidates src limits slots).map fun c => c.slot.slotId).Nodup := by
  rw [List.Nodup, List.pairwise_map]
  refine (pairwise_slotCandidates hlen).imp fun hlt heq => ?_
  rw [heq] at hlt
  exact lt_irrefl _ hlt

/-- The first candidate of a generation is that of the first slot that commits it. -/
lemma isFirst_iff_forall_slot (hlen : slots.length ≤ 2 ^ 16) {idx : ℕ} {c : OcbRootCandidateV2}
    (h : DecodesTo src limits slots idx c) :
    IsFirst (slotCandidates src limits slots) c ↔
      ∀ j < idx, ∀ d, DecodesTo src limits slots j d → d.generation ≠ c.generation := by
  have hidx := toNat_slotId_of_decodesTo hlen h
  rw [IsFirst, List.find?_eq_some_iff_append]
  constructor
  · rintro ⟨-, before, after, hsplit, hbefore⟩ j hj d hd hgen
    have hjd := toNat_slotId_of_decodesTo hlen hd
    have hmem : d ∈ before ++ c :: after := hsplit ▸ mem_slotCandidates.mpr ⟨j, hd⟩
    have hsorted := @pairwise_slotCandidates src limits slots hlen
    rw [hsplit, List.pairwise_append, List.pairwise_cons] at hsorted
    rcases List.mem_append.mp hmem with hmem | hmem
    · have := hbefore d hmem
      simp [hgen] at this
    · rcases List.mem_cons.mp hmem with rfl | hmem
      · omega
      · have := hsorted.2.1.1 d hmem
        omega
  · intro hall
    obtain ⟨before, after, hsplit⟩ := List.append_of_mem (mem_slotCandidates.mpr ⟨idx, h⟩)
    refine ⟨by simp, before, after, hsplit, fun d hd => ?_⟩
    have hsorted := @pairwise_slotCandidates src limits slots hlen
    rw [hsplit, List.pairwise_append] at hsorted
    have hlt := hsorted.2.2 d hd c List.mem_cons_self
    obtain ⟨j, hj⟩ := mem_slotCandidates.mp
      (show d ∈ slotCandidates src limits slots from hsplit ▸ List.mem_append_left _ hd)
    rw [hidx, toNat_slotId_of_decodesTo hlen hj] at hlt
    simpa using hall j hlt d hj

lemma mem_slotDiagnostics {r : OcbRootCandidateDiagnosticV2} :
    r ∈ slotDiagnostics src limits slots ↔ ∃ idx slotResult failure,
      slots[idx]? = some slotResult ∧
      analyzeV2Candidate src limits idx slotResult = .error failure ∧
      r = failure.diagnostic idx.toUInt16 := by
  rw [slotDiagnostics, List.mem_filterMap]
  constructor
  · rintro ⟨⟨slotResult, idx⟩, hp, hr⟩
    rcases hslot : analyzeV2Candidate src limits idx slotResult with failure | x
    · simp only [diagnosticAt, hslot, Option.some.injEq] at hr
      exact ⟨idx, slotResult, failure, List.mem_zipIdx_iff_getElem?.mp hp, hslot, hr.symm⟩
    · simp [diagnosticAt, hslot] at hr
  · rintro ⟨idx, slotResult, failure, hslot, hfailure, rfl⟩
    exact ⟨(slotResult, idx), List.mem_zipIdx_iff_getElem?.mpr hslot, by
      simp only [diagnosticAt, hfailure]⟩

/-- There is one diagnostic at most about a slot. -/
lemma nodup_slotDiagnostics (hlen : slots.length ≤ 2 ^ 16) :
    (reportedSlots (slotDiagnostics src limits slots)).Nodup := by
  rw [reportedSlots, slotDiagnostics, List.Nodup, List.pairwise_map, List.pairwise_filterMap]
  refine (pairwise_zipIdx slots).imp_of_mem ?_
  rintro ⟨r, i⟩ ⟨r', j⟩ hp hq hlt d hd d' hd' heq
  have hposition : ∀ {r i d}, (r, i) ∈ slots.zipIdx → diagnosticAt src limits (r, i) = some d →
      d.slotId = some i.toUInt16 := by
    intro r i d _ hd
    rcases hslot : analyzeV2Candidate src limits i r with failure | x
    · simp only [diagnosticAt, hslot, Option.some.injEq] at hd
      rw [← hd]
      rfl
    · simp [diagnosticAt, hslot] at hd
  rw [hposition hp hd, hposition hq hd', Option.some.injEq] at heq
  have hi := toNat_position hlen (List.mem_zipIdx_iff_getElem?.mp hp)
  have hj := toNat_position hlen (List.mem_zipIdx_iff_getElem?.mp hq)
  dsimp only at hi hj hlt
  rw [heq] at hi
  omega

/-- The slots with a diagnostic are those that do not decode. -/
lemma mem_reportedSlots_slotDiagnostics {slotId : Option UInt16} :
    slotId ∈ reportedSlots (slotDiagnostics src limits slots) ↔ ∃ idx slotResult e,
      slots[idx]? = some slotResult ∧ slotId = some idx.toUInt16 ∧
      decodeV2Candidate src limits idx slotResult = .error e := by
  rw [reportedSlots, List.mem_map]
  constructor
  · rintro ⟨r, hr, rfl⟩
    obtain ⟨idx, slotResult, failure, hslot, hfailure, rfl⟩ := mem_slotDiagnostics.mp hr
    exact ⟨idx, slotResult, _, hslot, rfl, decodeV2Candidate_of_failure hfailure⟩
  · rintro ⟨idx, slotResult, e, hslot, rfl, he⟩
    obtain ⟨failure, hfailure, -⟩ := exists_analyze_of_decode he
    exact ⟨_, mem_slotDiagnostics.mpr ⟨idx, slotResult, failure, hslot, hfailure, rfl⟩, rfl⟩

/-- The slots of the candidates that were reported on. -/
lemma Accounts.mem_reportedSlots {generation : ℕ} {reports : List OcbRootCandidateDiagnosticV2}
    (h : Accounts (slotCandidates src limits slots) generation reports)
    (hlen : slots.length ≤ 2 ^ 16) {slotId : Option UInt16} :
    slotId ∈ reportedSlots reports ↔ ∃ idx c, DecodesTo src limits slots idx c ∧
      slotId = some idx.toUInt16 ∧ generation < c.generation ∧
      (Conflicted (slotCandidates src limits slots) c.generation ∨
        ∀ j < idx, ∀ d, DecodesTo src limits slots j d → d.generation ≠ c.generation) := by
  constructor
  · intro hmem
    obtain ⟨r, hr, rfl⟩ := List.mem_map.mp hmem
    obtain ⟨c, hc, -, hslotId, -⟩ := h.sound r hr
    obtain ⟨idx, hidx⟩ := mem_slotCandidates.mp hc
    rw [hslotId] at hmem ⊢
    obtain ⟨hnewer, hreported⟩ := (h.reported c hc).mp hmem
    rw [isFirst_iff_forall_slot hlen hidx] at hreported
    exact ⟨idx, c, hidx, congrArg some (slotId_of_decodesTo hidx), hnewer, hreported⟩
  · rintro ⟨idx, c, hidx, rfl, hnewer, hreported⟩
    rw [← isFirst_iff_forall_slot hlen hidx] at hreported
    rw [← slotId_of_decodesTo hidx]
    exact (h.reported c (mem_slotCandidates.mpr ⟨idx, hidx⟩)).mpr ⟨hnewer, hreported⟩

/-- No slot has both a diagnostic of its own and one of its candidate. -/
lemma Accounts.nodup_append {generation : ℕ} {reports : List OcbRootCandidateDiagnosticV2}
    (h : Accounts (slotCandidates src limits slots) generation reports)
    (hlen : slots.length ≤ 2 ^ 16) :
    (reportedSlots (slotDiagnostics src limits slots ++ reports)).Nodup := by
  rw [reportedSlots_append, List.nodup_append]
  refine ⟨nodup_slotDiagnostics hlen, h.nodup, ?_⟩
  rintro slotId hdiagnostic _ hreport rfl
  obtain ⟨idx, slotResult, e, hslot, rfl, he⟩ := mem_reportedSlots_slotDiagnostics.mp hdiagnostic
  obtain ⟨idx', c, ⟨slotResult', hslot', hc⟩, hid, -⟩ := (h.mem_reportedSlots hlen).mp hreport
  obtain rfl : idx = idx' := by
    rw [← toNat_position hlen hslot, ← toNat_position hlen hslot', Option.some.inj hid]
  obtain rfl : slotResult = slotResult' := Option.some.inj (hslot.symm.trans hslot')
  rw [he] at hc
  cases hc

end Positions

/-! ### The parts of a successful analysis -/

section Analysed

variable {src : OcbReadSource} {zstd : ZstdCodec} {validation : OcbOpenValidationMode}
  {a : OcbMaintenanceAnalysisV2}

/-- The file begins with this page of V2. -/
def HasPage (src : OcbReadSource) (page : OcbBootstrapPageV2) : Prop :=
  ∃ bytes, src.readExactAt 0 ocbBootstrapPageLen = .ok bytes ∧
    OcbBootstrapPageV2.readFrom bytes = .ok page

lemma length_decodedRootSlots {bytes : List UInt8} {page : OcbBootstrapPageV2}
    (h : OcbBootstrapPageV2.readFrom bytes = .ok page) :
    page.decodedRootSlots.length = ocbRootSlotV2Count := by
  obtain ⟨buf, -, h⟩ := bind_eq_ok.mp h
  obtain ⟨actualCrc, -, h⟩ := bind_eq_ok.mp h
  obtain ⟨expectedCrc, -, h⟩ := bind_eq_ok.mp h
  obtain ⟨_, -, h⟩ := bind_eq_ok.mp h
  obtain ⟨rest, h⟩ := readAll_eq_ok.mp h
  simp only [Decoder.run_bind_eq_ok] at h
  obtain ⟨_, _, -, _, _, -, _, _, -, _, _, -, _, _, -, _, _, -, _, _, -, _, _, -, h⟩ := h
  cases h
  rfl

/-- A successful analysis ends at a candidate of the page of the file. -/
lemma exists_endsAt_of_analyzeV2Maintenance (h : analyzeV2Maintenance src zstd validation = .ok a) :
    ocbBootstrapPageLen ≤ src.fileLen ∧ ∃ page c m reports, HasPage src page ∧
      page.decodedRootSlots.length = ocbRootSlotV2Count ∧ EndsAt
        (fun root => validateV2RootReferencedObjectsWithScope src zstd root validation .policyA)
        src.fileLen (slotCandidates src .policyA page.decodedRootSlots)
        (slotDiagnostics src .policyA page.decodedRootSlots) a c m reports := by
  obtain ⟨_, hshort, h⟩ := bind_eq_ok.mp h
  refine ⟨not_lt.mp (failIf_eq_ok.mp hshort), ?_⟩
  obtain ⟨magic, -, h⟩ := bind_eq_ok.mp h
  by_cases hv2 : magic = ocbBootstrapMagicV2
  · rw [if_pos hv2] at h
    obtain ⟨bytes, hbytes, h⟩ := bind_eq_ok.mp h
    obtain ⟨page, hpage, h⟩ := bind_eq_ok.mp h
    have hlen := length_decodedRootSlots hpage
    obtain ⟨⟨candidates, diagnostics⟩, hslots, h⟩ := bind_eq_ok.mp h
    obtain ⟨hcandidates, hdiagnostics⟩ := of_analyzeV2Candidates hslots
    obtain rfl : candidates = slotCandidates src .policyA page.decodedRootSlots := hcandidates
    obtain rfl : diagnostics = slotDiagnostics src .policyA page.decodedRootSlots := hdiagnostics
    obtain ⟨c, m, reports, hends⟩ := exists_endsAt (nodup_slotCandidates (by rw [hlen]; decide)) h
    exact ⟨page, c, m, reports, ⟨bytes, hbytes, hpage⟩, hlen, hends⟩
  · rw [if_neg hv2] at h
    split at h <;> cases h

/-- What the metadata and the offsets of a successful analysis are. -/
theorem snapshotEnd_of_analyzeV2Maintenance (h : analyzeV2Maintenance src zstd validation = .ok a) :
    ∃ page idx c cache, HasPage src page ∧ DecodesTo src .policyA page.decodedRootSlots idx c ∧
      ((loadCandidate src zstd validation .policyA c).run cache).1 = .ok a.metadata ∧
      a.fileLen = src.fileLen ∧ a.selectedSlotId = idx.toUInt16 ∧
      a.selectedRootGeneration = a.metadata.rootGeneration ∧
      a.selectedRootEndOffset = c.slot.rootRef.endOffset ∧
      IsLeast (HoldsAll (snapshotReferences c.slot c.root a.metadata))
        a.selectedSnapshotEndOffset ∧
      a.selectedRootEndOffset ≤ a.selectedSnapshotEndOffset ∧
      a.selectedSnapshotEndOffset ≤ a.fileLen := by
  obtain ⟨hlong, page, c, m, reports, hpage, -, hends⟩ := exists_endsAt_of_analyzeV2Maintenance h
  obtain ⟨idx, hidx⟩ := mem_slotCandidates.mp hends.mem
  obtain ⟨cache, cache', hload⟩ := hends.loads
  obtain ⟨slotResult, hslot, hdecode⟩ := hidx
  obtain ⟨e, hleast, hreport⟩ := selectedAnalysis_of_load ⟨idx, slotResult, hdecode⟩ hload
    (slotDiagnostics src .policyA page.decodedRootSlots ++ reports)
  obtain rfl : reportOf src.fileLen c m _ e = a :=
    Except.ok.inj (hreport.symm.trans hends.analysis)
  have hgeneration := rootGeneration_load (congrArg Prod.fst hload)
  obtain ⟨s, hroot⟩ := exists_loadV2Root hload
  have hfits := fits_snapshotReferences hdecode hroot
  refine ⟨page, idx, c, cache, hpage, ⟨slotResult, hslot, hdecode⟩, congrArg Prod.fst hload, rfl,
    slotId_of_decodesTo ⟨slotResult, hslot, hdecode⟩, ?_, rfl, hleast, ?_, ?_⟩
  · exact (hgeneration.trans (agrees_of_decodeV2Candidate hdecode).1).symm
  · exact hleast.1.2 _ (by simp [snapshotReferences])
  · exact hleast.2 ⟨hlong, fun r hr => (hfits r hr).endOffset_le⟩

/-- The truncated file is analyzed. -/
theorem snapshotEnd_of_analyzeV2Maintenance_truncated :
    ∃ a, analyzeV2Maintenance Truncated.file (fun _ _ => ⟨[], true⟩) .metadataGraph = .ok a ∧
      a.selectedSnapshotEndOffset ≤ a.fileLen := by
  obtain ⟨a, ha⟩ := Truncated.exists_analysis fun _ _ => ⟨[], true⟩
  obtain ⟨page, idx, c, cache, hparts⟩ := snapshotEnd_of_analyzeV2Maintenance ha
  exact ⟨a, ha, hparts.2.2.2.2.2.2.2.2.2⟩

/-- A slot is turned down: it does not decode, or it commits a newer generation than the selected
one, in conflict or as the first slot that commits it. -/
def TurnedDownAt (src : OcbReadSource) (slots : List (Result OcbRootSlotV2))
    (candidates : List OcbRootCandidateV2) (selected : UInt64) (idx : ℕ) : Prop :=
  (∃ slotResult e, slots[idx]? = some slotResult ∧
    decodeV2Candidate src .policyA idx slotResult = .error e) ∨
  ∃ c, DecodesTo src .policyA slots idx c ∧ selected.toNat < c.generation ∧
    (Conflicted candidates c.generation ∨
      ∀ j < idx, ∀ d, DecodesTo src .policyA slots j d → d.generation ≠ c.generation)

/-- A report names the step at which a slot fails to decode, with its error, or the generation of
the candidate that the slot decodes to. -/
def DescribesSlot (src : OcbReadSource) (slots : List (Result OcbRootSlotV2))
    (r : OcbRootCandidateDiagnosticV2) : Prop :=
  (∃ idx slotResult failure, slots[idx]? = some slotResult ∧
    analyzeV2Candidate src .policyA idx slotResult = .error failure ∧
    r = failure.diagnostic idx.toUInt16) ∨
  ∃ idx c, DecodesTo src .policyA slots idx c ∧ r.slotId = some idx.toUInt16 ∧
    r.generation = some c.slot.generation

/-- The analysis reports once on every slot that it turns down, and on no other. -/
theorem rejectedCandidates_of_analyzeV2Maintenance
    (h : analyzeV2Maintenance src zstd validation = .ok a) :
    ∃ page candidates, HasPage src page ∧
      (∀ c, c ∈ candidates ↔ ∃ idx, DecodesTo src .policyA page.decodedRootSlots idx c) ∧
      (reportedSlots a.rejectedCandidates).Nodup ∧
      (∀ slotId, slotId ∈ reportedSlots a.rejectedCandidates ↔ ∃ idx < ocbRootSlotV2Count,
        slotId = some idx.toUInt16 ∧ TurnedDownAt src page.decodedRootSlots candidates
          a.selectedRootGeneration idx) ∧
      ∀ r ∈ a.rejectedCandidates, DescribesSlot src page.decodedRootSlots r := by
  obtain ⟨-, page, c, m, reports, hpage, hlen, hends⟩ := exists_endsAt_of_analyzeV2Maintenance h
  have hshort : page.decodedRootSlots.length ≤ 2 ^ 16 := by
    rw [hlen]
    decide
  obtain ⟨idx, slotResult, -, hdecode⟩ := mem_slotCandidates.mp hends.mem
  obtain ⟨cache, cache', hload⟩ := hends.loads
  obtain ⟨e, -, hreport⟩ := selectedAnalysis_of_load ⟨idx, slotResult, hdecode⟩ hload
    (slotDiagnostics src .policyA page.decodedRootSlots ++ reports)
  obtain rfl : reportOf src.fileLen c m _ e = a :=
    Except.ok.inj (hreport.symm.trans hends.analysis)
  refine ⟨page, _, hpage, fun d => mem_slotCandidates, hends.accounts.nodup_append hshort,
    fun slotId => ?_, fun r hr => ?_⟩
  · have hinside : ∀ {idx slotResult}, page.decodedRootSlots[idx]? = some slotResult →
        idx < ocbRootSlotV2Count := fun hslot => by
      rw [← hlen]
      exact (List.getElem?_eq_some_iff.mp hslot).1
    change slotId ∈
      reportedSlots (slotDiagnostics src .policyA page.decodedRootSlots ++ reports) ↔ _
    rw [reportedSlots_append, List.mem_append, mem_reportedSlots_slotDiagnostics,
      hends.accounts.mem_reportedSlots hshort]
    constructor
    · rintro (⟨idx, slotResult, e, hslot, hid, he⟩ | ⟨idx, d, hd, hid, hnewer⟩)
      · exact ⟨idx, hinside hslot, hid, .inl ⟨slotResult, e, hslot, he⟩⟩
      · obtain ⟨slotResult, hslot, -⟩ := id hd
        exact ⟨idx, hinside hslot, hid, .inr ⟨d, hd, hnewer⟩⟩
    · rintro ⟨idx, -, hid, ⟨slotResult, e, hslot, he⟩ | ⟨d, hd, hnewer⟩⟩
      · exact .inl ⟨idx, slotResult, e, hslot, hid, he⟩
      · exact .inr ⟨idx, d, hd, hid, hnewer⟩
  · rcases List.mem_append.mp hr with hr | hr
    · exact .inl (mem_slotDiagnostics.mp hr)
    · obtain ⟨d, hd, -, hid, hgeneration⟩ := hends.accounts.sound r hr
      obtain ⟨idx, hidx⟩ := mem_slotCandidates.mp hd
      exact .inr ⟨idx, d, hidx, by rw [hid, slotId_of_decodesTo hidx], hgeneration⟩

/-- The slot whose root the truncated file lost is reported on. -/
theorem rejectedCandidates_of_analyzeV2Maintenance_truncated :
    ∃ a, analyzeV2Maintenance Truncated.file (fun _ _ => ⟨[], true⟩) .metadataGraph = .ok a ∧
      (reportedSlots a.rejectedCandidates).Nodup ∧ some 1 ∈ reportedSlots a.rejectedCandidates := by
  obtain ⟨a, ha⟩ := Truncated.exists_analysis fun _ _ => ⟨[], true⟩
  obtain ⟨page, candidates, ⟨bytes, hbytes, hpage⟩, -, hnodup, hreported, -⟩ :=
    rejectedCandidates_of_analyzeV2Maintenance ha
  obtain rfl := Except.ok.inj (hbytes.symm.trans Truncated.readExactAt_page)
  obtain rfl := Except.ok.inj (hpage.symm.trans Truncated.readFrom_page)
  have hslot : WrongKind.page.decodedRootSlots[1]? = some (.ok WrongKind.newerSlot.sealed) := by
    rw [WrongKind.decodedRootSlots_page]
    rfl
  exact ⟨a, ha, hnodup, (hreported _).mpr
    ⟨1, by decide, rfl, .inl ⟨_, _, hslot, Truncated.decode_newer⟩⟩⟩

end Analysed

end ArcadiaTio.Ocb
