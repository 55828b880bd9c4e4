import Mathlib.Data.List.Pairwise
import ArcadiaTio.Ocb.Maintenance.Agreement

/-!
# The slots of an analysis are accounted for

A successful analysis reports at most once on a slot.  It reports on the slots that do not decode,
with the failing step and its error, and on the candidates of every newer generation that could
not be selected; a candidate is passed over in silence only when an earlier slot names the same
root for the same generation.
-/

namespace ArcadiaTio.Ocb

open ArcadiaTio.Lib

/-! ### The diagnostics of the slots -/

section Slots

variable (src : OcbReadSource) (limits : OcbResourceLimits)

/-- The candidate at a table position, if its slot decodes to one. -/
def candidateAt (p : Result OcbRootSlotV2 × ℕ) : Option OcbRootCandidateV2 :=
  match decodeV2Candidate src limits p.2 p.1 with
  | .ok candidate => candidate
  | .error _ => none

/-- The diagnostic at a table position, if its slot does not decode. -/
def diagnosticAt (p : Result OcbRootSlotV2 × ℕ) : Option OcbRootCandidateDiagnosticV2 :=
  match analyzeV2Candidate src limits p.2 p.1 with
  | .ok _ => none
  | .error failure => some (failure.diagnostic p.2.toUInt16)

variable {src limits} {idx : ℕ} {slotResult : Result OcbRootSlotV2}

lemma decodeV2Candidate_of_analyze {x : Option OcbRootCandidateV2}
    (h : analyzeV2Candidate src limits idx slotResult = .ok x) :
    decodeV2Candidate src limits idx slotResult = .ok x := by
  rw [← mapError_analyzeV2Candidate, h]
  rfl

lemma decodeV2Candidate_of_failure {failure : SlotFailure}
    (h : analyzeV2Candidate src limits idx slotResult = .error failure) :
    decodeV2Candidate src limits idx slotResult = .error failure.error := by
  rw [← mapError_analyzeV2Candidate, h]
  rfl

lemma exists_analyze_of_decode {e : ArcadiaTioError}
    (h : decodeV2Candidate src limits idx slotResult = .error e) :
    ∃ failure, analyzeV2Candidate src limits idx slotResult = .error failure ∧
      failure.error = e := by
  rw [← mapError_analyzeV2Candidate] at h
  rcases hfailure : analyzeV2Candidate src limits idx slotResult with failure | x
  · rw [hfailure] at h
    exact ⟨failure, rfl, Except.error.inj h⟩
  · rw [hfailure] at h
    cases h

lemma candidateAt_eq_some {p : Result OcbRootSlotV2 × ℕ} {c : OcbRootCandidateV2} :
    candidateAt src limits p = some c ↔
      decodeV2Candidate src limits p.2 p.1 = .ok (some c) := by
  rw [candidateAt]
  rcases decodeV2Candidate src limits p.2 p.1 with e | x
  · simp
  · simp

/-- The analysis of the slots keeps the candidates and the diagnostics in table order. -/
lemma of_analyzeV2Candidates {slots : List (Result OcbRootSlotV2)}
    {candidates : List OcbRootCandidateV2} {diagnostics : List OcbRootCandidateDiagnosticV2}
    (h : analyzeV2Candidates src limits idx slots = .ok (candidates, diagnostics)) :
    candidates = (slots.zipIdx idx).filterMap (candidateAt src limits) ∧
      diagnostics = (slots.zipIdx idx).filterMap (diagnosticAt src limits) := by
  induction slots generalizing idx candidates diagnostics with
  | nil =>
    cases h
    exact ⟨rfl, rfl⟩
  | cons slotResult rest ih =>
    rw [List.zipIdx_cons, List.filterMap_cons, List.filterMap_cons]
    rw [analyzeV2Candidates] at h
    rcases hslot : analyzeV2Candidate src limits idx slotResult with failure | _ | c
    · have hcandidate : candidateAt src limits (slotResult, idx) = none := by
        simp only [candidateAt, decodeV2Candidate_of_failure hslot]
      have hdiagnostic : diagnosticAt src limits (slotResult, idx) =
          some (failure.diagnostic idx.toUInt16) := by
        simp only [diagnosticAt, hslot]
      simp only [hslot] at h
      split at h
      · obtain ⟨⟨candidates', diagnostics'⟩, hrest, h⟩ := bind_eq_ok.mp h
        cases h
        obtain ⟨hcandidates, hdiagnostics⟩ := ih hrest
        rw [hcandidate, hdiagnostic, ← hcandidates, ← hdiagnostics]
        exact ⟨rfl, rfl⟩
      · cases h
    · have hcandidate : candidateAt src limits (slotResult, idx) = none := by
        simp only [candidateAt, decodeV2Candidate_of_analyze hslot]
      have hdiagnostic : diagnosticAt src limits (slotResult, idx) = none := by
        simp only [diagnosticAt, hslot]
      simp only [hslot] at h
      rw [hcandidate, hdiagnostic]
      exact ih h
    · have hcandidate : candidateAt src limits (slotResult, idx) = some c := by
        simp only [candidateAt, decodeV2Candidate_of_analyze hslot]
      have hdiagnostic : diagnosticAt src limits (slotResult, idx) = none := by
        simp only [diagnosticAt, hslot]
      simp only [hslot] at h
      obtain ⟨⟨candidates', diagnostics'⟩, hrest, h⟩ := bind_eq_ok.mp h
      cases h
      obtain ⟨hcandidates, hdiagnostics⟩ := ih hrest
      rw [hcandidate, hdiagnostic, ← hcandidates, ← hdiagnostics]
      exact ⟨rfl, rfl⟩

end Slots

/-! ### The diagnostics of the candidates -/

/-- The slots that some diagnostics are about. -/
def reportedSlots (reports : List OcbRootCandidateDiagnosticV2) : List (Option UInt16) :=
  reports.map OcbRootCandidateDiagnosticV2.slotId

@[simp] lemma reportedSlots_append (reports reports' : List OcbRootCandidateDiagnosticV2) :
    reportedSlots (reports ++ reports') = reportedSlots reports ++ reportedSlots reports' :=
  List.map_append

/-- A candidate is the first of its generation. -/
def IsFirst (candidates : List OcbRootCandidateV2) (d : OcbRootCandidateV2) : Prop :=
  candidates.find? (fun c => c.generation = d.generation) = some d

/-- The reports are about the candidates of the generations newer than `generation`: all of them
where a generation is in conflict, the first of them elsewhere. -/
structure Accounts (candidates : List OcbRootCandidateV2) (generation : ℕ)
    (reports : List OcbRootCandidateDiagnosticV2) : Prop where
  sound : ∀ r ∈ reports, ∃ d ∈ candidates, generation < d.generation ∧
    r.slotId = some d.slot.slotId ∧ r.generation = some d.slot.generation
  nodup : (reportedSlots reports).Nodup
  reported : ∀ d ∈ candidates, some d.slot.slotId ∈ reportedSlots reports ↔
    generation < d.generation ∧ (Conflicted candidates d.generation ∨ IsFirst candidates d)

section Rounds

variable {candidates : List OcbRootCandidateV2} {newest generation : ℕ}
  {reports first : List OcbRootCandidateDiagnosticV2}

lemma isFirst_dropGeneration {d : OcbRootCandidateV2} (h : d.generation ≠ newest) :
    IsFirst (dropGeneration newest candidates) d ↔ IsFirst candidates d := by
  rw [IsFirst, IsFirst, dropGeneration, List.find?_filter]
  congr! 3 with c
  by_cases hc : c.generation = d.generation
  · simp [hc, h]
  · simp [hc]

/-- With the reports of the newest generation in front, the reports on the others account for all
candidates. -/
lemma Accounts.of_drop (hids : (candidates.map fun c => c.slot.slotId).Nodup)
    (hnewest : generation < newest)
    (hsound : ∀ r ∈ first, ∃ d ∈ candidates, d.generation = newest ∧
      r.slotId = some d.slot.slotId ∧ r.generation = some d.slot.generation)
    (hnodup : (reportedSlots first).Nodup)
    (hfirst : ∀ d ∈ candidates, d.generation = newest → (some d.slot.slotId ∈ reportedSlots first ↔
      Conflicted candidates newest ∨ IsFirst candidates d))
    (h : Accounts (dropGeneration newest candidates) generation reports) :
    Accounts candidates generation (first ++ reports) := by
  have hslot : ∀ {c d : OcbRootCandidateV2}, c ∈ candidates → d ∈ candidates →
      c.slot.slotId = d.slot.slotId → c = d := fun hc hd heq =>
    List.inj_on_of_nodup_map hids hc hd heq
  -- the two groups of reports are about different candidates
  have hfirst_gen : ∀ d ∈ candidates, some d.slot.slotId ∈ reportedSlots first →
      d.generation = newest := by
    intro d hd hmem
    obtain ⟨r, hr, hrd⟩ := List.mem_map.mp hmem
    obtain ⟨d', hd', hgen, hslotId, -⟩ := hsound r hr
    obtain rfl := hslot hd' hd (Option.some.inj (hslotId.symm.trans hrd))
    exact hgen
  have hrest_gen : ∀ d ∈ candidates, some d.slot.slotId ∈ reportedSlots reports →
      d ∈ dropGeneration newest candidates := by
    intro d hd hmem
    obtain ⟨r, hr, hrd⟩ := List.mem_map.mp hmem
    obtain ⟨d', hd', -, hslotId, -⟩ := h.sound r hr
    obtain rfl := hslot (mem_dropGeneration.mp hd').1 hd (Option.some.inj (hslotId.symm.trans hrd))
    exact hd'
  refine ⟨fun r hr => ?_, ?_, fun d hd => ?_⟩
  · rcases List.mem_append.mp hr with hr | hr
    · obtain ⟨d, hd, hgen, hreport⟩ := hsound r hr
      exact ⟨d, hd, by omega, hreport⟩
    · obtain ⟨d, hd, hreport⟩ := h.sound r hr
      exact ⟨d, (mem_dropGeneration.mp hd).1, hreport⟩
  · rw [reportedSlots_append, List.nodup_append]
    refine ⟨hnodup, h.nodup, ?_⟩
    rintro slotId hslotId _ hrest rfl
    obtain ⟨r, hr, rfl⟩ := List.mem_map.mp hslotId
    obtain ⟨d, hd, hgen, hrd, -⟩ := hsound r hr
    rw [hrd] at hrest
    exact (mem_dropGeneration.mp (hrest_gen d hd hrest)).2 hgen
  · rw [reportedSlots_append, List.mem_append]
    by_cases hgen : d.generation = newest
    · rw [hfirst d hd hgen, hgen, or_iff_left fun hrest =>
        (mem_dropGeneration.mp (hrest_gen d hd hrest)).2 hgen]
      exact (and_iff_right hnewest).symm
    · rw [or_iff_right fun hmem => hgen (hfirst_gen d hd hmem),
        h.reported d (mem_dropGeneration.mpr ⟨hd, hgen⟩), conflicted_dropGeneration hgen,
        isFirst_dropGeneration hgen]

lemma mem_conflictDiagnostics {r : OcbRootCandidateDiagnosticV2}
    (h : r ∈ conflictDiagnostics newest candidates) : ∃ d ∈ candidates, d.generation = newest ∧
      r.slotId = some d.slot.slotId ∧ r.generation = some d.slot.generation := by
  obtain ⟨d, hd, rfl⟩ := List.mem_map.mp h
  obtain ⟨hd, hgen⟩ := List.mem_filter.mp hd
  exact ⟨d, hd, by simpa using hgen, rfl, rfl⟩

lemma reportedSlots_conflictDiagnostics :
    reportedSlots (conflictDiagnostics newest candidates) =
      (candidates.filter fun c => c.generation = newest).map fun c => some c.slot.slotId := by
  rw [reportedSlots, conflictDiagnostics, List.map_map]
  rfl

/-- The reports on a newest generation in conflict. -/
lemma Accounts.of_conflict (hids : (candidates.map fun c => c.slot.slotId).Nodup)
    (hnewest : generation < newest) (hconf : Conflicted candidates newest)
    (h : Accounts (dropGeneration newest candidates) generation reports) :
    Accounts candidates generation (conflictDiagnostics newest candidates ++ reports) := by
  refine h.of_drop hids hnewest (fun r hr => mem_conflictDiagnostics hr) ?_ fun d hd hgen => ?_
  · rw [reportedSlots_conflictDiagnostics]
    have hsome : (candidates.map fun c => some c.slot.slotId).Nodup := by
      have := hids.map (Option.some_injective UInt16)
      rwa [List.map_map] at this
    exact hsome.sublist (List.filter_sublist.map _)
  · rw [reportedSlots_conflictDiagnostics]
    refine ⟨fun _ => .inl hconf, fun _ => ?_⟩
    exact List.mem_map.mpr ⟨d, List.mem_filter.mpr ⟨hd, by simpa using hgen⟩, rfl⟩

/-- The report on the first candidate of a newest generation without conflict. -/
lemma Accounts.of_loadFailure (hids : (candidates.map fun c => c.slot.slotId).Nodup)
    (hnewest : generation < newest) (hconf : ¬ Conflicted candidates newest)
    {c : OcbRootCandidateV2} (hc : c ∈ candidates) (hgen : c.generation = newest)
    (hfirst : IsFirst candidates c) (e : ArcadiaTioError)
    (h : Accounts (dropGeneration newest candidates) generation reports) :
    Accounts candidates generation (loadDiagnostic c e :: reports) := by
  change Accounts candidates generation ([loadDiagnostic c e] ++ reports)
  refine h.of_drop hids hnewest (fun r hr => ?_) (List.nodup_singleton _) fun d hd hdgen => ?_
  · obtain rfl := List.mem_singleton.mp hr
    exact ⟨c, hc, hgen, rfl, rfl⟩
  · have hmem : some d.slot.slotId ∈ reportedSlots [loadDiagnostic c e] ↔ d = c := by
      simp only [reportedSlots, loadDiagnostic, List.map_singleton, List.mem_singleton,
        Option.some.injEq]
      exact ⟨fun heq => List.inj_on_of_nodup_map hids hd hc heq, fun heq => by rw [heq]⟩
    rw [hmem, or_iff_right hconf]
    constructor
    · rintro rfl
      exact hfirst
    · intro hd'
      rw [IsFirst, hdgen, ← hgen] at hd'
      exact (Option.some.inj (hfirst.symm.trans hd')).symm

/-- Nothing has to be reported when no candidate is newer. -/
lemma Accounts.nil (hle : ∀ d ∈ candidates, d.generation ≤ generation) :
    Accounts candidates generation [] where
  sound _ hr := absurd hr List.not_mem_nil
  nodup := List.nodup_nil
  reported d hd := iff_of_false List.not_mem_nil fun h => (hle d hd).not_gt h.1

end Rounds

/-! ### The run -/

section Run

variable {validate : OcbRootV2 →
    Fallible ArcadiaTioError OcbOpenAuxiliaryObjectCache OcbMetadataV1} {fileLen : ℕ}
  {candidates : List OcbRootCandidateV2} {diagnostics : List OcbRootCandidateDiagnosticV2}
  {a : OcbMaintenanceAnalysisV2}

variable (validate fileLen candidates diagnostics a) in
/-- The analysis `a` reports on a candidate that loads, after reports on the newer ones. -/
structure EndsAt (c : OcbRootCandidateV2) (m : OcbMetadataV1)
    (reports : List OcbRootCandidateDiagnosticV2) : Prop where
  mem : c ∈ candidates
  loads : ∃ cache cache', (validate c.root).run cache = (.ok m, cache')
  accounts : Accounts candidates c.generation reports
  analysis : selectedAnalysis fileLen c m (diagnostics ++ reports) = .ok a

/-- The reports on the newest generation come before those of the remaining run. -/
lemma EndsAt.of_drop {newest : ℕ} {first reports : List OcbRootCandidateDiagnosticV2}
    {c : OcbRootCandidateV2} {m : OcbMetadataV1}
    (hle : ∀ d ∈ candidates, d.generation ≤ newest)
    (h : EndsAt validate fileLen (dropGeneration newest candidates) (diagnostics ++ first) a c m
      reports)
    (hfirst : c.generation < newest →
      Accounts (dropGeneration newest candidates) c.generation reports →
        Accounts candidates c.generation (first ++ reports)) :
    EndsAt validate fileLen candidates diagnostics a c m (first ++ reports) := by
  obtain ⟨hmem, hne⟩ := mem_dropGeneration.mp h.mem
  have hlt : c.generation < newest := lt_of_le_of_ne (hle c hmem) hne
  refine ⟨hmem, h.loads, hfirst hlt h.accounts, ?_⟩
  rw [← List.append_assoc]
  exact h.analysis

/-- A run that ends with a report has reported on every newer candidate. -/
lemma exists_endsAt (hids : (candidates.map fun c => c.slot.slotId).Nodup)
    {cache : OcbOpenAuxiliaryObjectCache}
    (h : chooseV2Analysis validate fileLen candidates diagnostics cache = .ok a) :
    ∃ c m reports, EndsAt validate fileLen candidates diagnostics a c m reports := by
  induction hlen : candidates.length using Nat.strong_induction_on
    generalizing candidates diagnostics cache with
  | _ n ih =>
  rcases eq_nil_or_newest candidates with rfl | ⟨newest, c, hmax, hfind, hc, hgen, hle⟩
  · rw [chooseV2Analysis] at h
    cases h
  · have hrest : ∀ {first cache}, chooseV2Analysis validate fileLen
          (dropGeneration newest candidates) (diagnostics ++ first) cache = .ok a →
        ∃ c m reports, EndsAt validate fileLen (dropGeneration newest candidates)
          (diagnostics ++ first) a c m reports := fun hrun =>
      ih _ (hlen ▸ length_dropGeneration_lt hc hgen)
        (hids.sublist (List.filter_sublist.map _)) hrun rfl
    have hfirst : IsFirst candidates c := by
      rw [IsFirst, hgen]
      exact hfind
    rw [chooseV2Analysis_round hmax hfind] at h
    by_cases hconf : ∃ d ∈ candidates, d.generation = newest ∧ d.slot.rootRef ≠ c.slot.rootRef
    · rw [if_pos hconf] at h
      obtain ⟨d, hd, hdgen, hne⟩ := hconf
      obtain ⟨c', m, reports, hends⟩ := hrest h
      exact ⟨c', m, _, hends.of_drop hle fun hlt haccounts =>
        haccounts.of_conflict hids hlt ⟨d, hd, c, hc, hdgen, hgen, hne⟩⟩
    · rw [if_neg hconf] at h
      have hfree : ¬ Conflicted candidates newest := by
        push Not at hconf
        rintro ⟨d, hd, d', hd', hdgen, hdgen', hne⟩
        exact hne ((hconf d hd hdgen).trans (hconf d' hd' hdgen').symm)
      rcases hrun : (validate c.root).run cache with ⟨e | m, cache'⟩
      · simp only [hrun] at h
        by_cases he : isDiscardableCandidateError e
        · rw [if_pos he] at h
          obtain ⟨c', m, reports, hends⟩ := hrest h
          exact ⟨c', m, _, hends.of_drop hle fun hlt haccounts =>
            haccounts.of_loadFailure hids hlt hfree hc hgen hfirst e⟩
        · rw [if_neg he] at h
          cases h
      · simp only [hrun] at h
        refine ⟨c, m, [], hc, ⟨cache, cache', hrun⟩, .nil (hgen ▸ hle), ?_⟩
        rwa [List.append_nil]

end Run

end ArcadiaTio.Ocb
