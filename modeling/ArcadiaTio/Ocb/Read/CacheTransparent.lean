import ArcadiaTio.Ocb.Read.AuxiliaryCache
import ArcadiaTio.Ocb.Read.Select

/-!
# The cache of an open is transparent

One open validates the metadata graphs of at most two candidates, over one cache of auxiliary
objects.  This file compares each validation with the one that reads every object again
(`revalidated`), for a cache that any number of earlier candidates have left behind
(`cacheAfter`): the queries of the walk, the reads among them, the bytes on account, and the
verdict (`auxiliary_cache_transparent`).
-/

namespace ArcadiaTio.Ocb

open ArcadiaTio.Lib OcbOpenAuxiliaryObjectCache

/-- The validation of one metadata graph: its arguments, and the budget it starts from. -/
structure GraphCandidate where
  metadata : OcbMetadataV1
  rootColumnChunkCount : ℕ
  validation : OcbOpenValidationMode
  v2Root : Option OcbRootV2
  budget : MetadataMaterializationBudget

namespace GraphCandidate

variable (src : OcbReadSource) (zstd : ZstdCodec) (limits : OcbResourceLimits)
  (c : GraphCandidate) (cache : OcbOpenAuxiliaryObjectCache)

/-- Validate the graph over a cache. -/
def validate : Result (List (UInt32 × ℕ)) × OpenState :=
  (validateMetadataGraph src zstd c.metadata c.rootColumnChunkCount c.validation limits
    c.v2Root).run ⟨cache, c.budget⟩

/-- The objects that the graph of the candidate refers to. -/
def objects : List AuxiliaryObject := auxiliaryObjects c.metadata c.v2Root

/-- The references that the preflight charges. -/
def references : List OcbBodyRefV2 := c.objects.map AuxiliaryObject.reference

/-- The checks before the first charge: the counts, the schema and every auxiliary reference. -/
def structuralChecks : Result ColumnsById := do
  validateRootCounts c.metadata c.rootColumnChunkCount
  let columns ← validateSchemaGraph c.metadata
  (auxiliaryObjectReferences c.metadata c.v2Root).forM fun (reference, kind) =>
    reference.validate kind c.metadata.fileLen
  return columns

/-- The part after the preflight. -/
def walk (columns : ColumnsById) : Walk (List (UInt32 × ℕ)) :=
  graphWalk src zstd c.metadata c.validation limits c.v2Root columns

/-- The validation without a cache: every reference is read and checked where it is met. -/
def revalidated : Metered (List (UInt32 × ℕ)) := do
  let columns ← c.structuralChecks
  (c.walk src zstd limits columns).interp (revalidate src limits)

/-- The queries of the validation, each with the state in which it is met. -/
def consultations : List (AuxiliaryObject × OpenState) :=
  match c.structuralChecks with
  | .error _ => []
  | .ok columns =>
    match (chargeAll c.references).run ⟨cache, c.budget⟩ with
    | (.error _, _) => []
    | (.ok _, s) => (c.walk src zstd limits columns).trace (consult src) s

end GraphCandidate

/-- The cache that a list of candidates leaves behind, the last one first. -/
def cacheAfter (src : OcbReadSource) (zstd : ZstdCodec) (limits : OcbResourceLimits) :
    List GraphCandidate → OcbOpenAuxiliaryObjectCache
  | [] => .new limits
  | c :: earlier => (c.validate src zstd limits (cacheAfter src zstd limits earlier)).2.auxiliary

/-- The cache has not read the object yet. -/
def Unread (o : AuxiliaryObject) (s : OpenState) : Prop :=
  s.auxiliary.objects.lookup o.reference = some .pending

instance (o : AuxiliaryObject) (s : OpenState) : Decidable (Unread o s) :=
  inferInstanceAs (Decidable (_ = _))

/-- The error of a metadata budget that is spent. -/
def materializationLimit : ArcadiaTioError :=
  ocbInvalidInput "OCB open metadata materialization exceeds resource limit"

/-! ### The course of a validation -/

section Course

variable {src : OcbReadSource} {zstd : ZstdCodec} {limits : OcbResourceLimits}
  {c : GraphCandidate} {cache : OcbOpenAuxiliaryObjectCache}

lemma map_reference_objects :
    (auxiliaryObjectReferences c.metadata c.v2Root).map Prod.fst = c.references := by
  rw [← map_auxiliaryObjects, List.map_map]
  rfl

variable (src zstd limits cache) in
lemma validate_of_structural_error {e : ArcadiaTioError} (h : c.structuralChecks = .error e) :
    c.validate src zstd limits cache = (.error e, ⟨cache, c.budget⟩) := by
  rw [GraphCandidate.validate, validateMetadataGraph_eq]
  rw [GraphCandidate.structuralChecks] at h
  cases hcounts : validateRootCounts c.metadata c.rootColumnChunkCount with
  | error e' =>
    rw [hcounts, error_bind] at h
    cases h
    rfl
  | ok u =>
    rw [hcounts, ok_bind] at h
    rw [Fallible.lift_ok_bind]
    cases hschema : validateSchemaGraph c.metadata with
    | error e' =>
      rw [hschema, error_bind] at h
      cases h
      rfl
    | ok columns =>
      rw [hschema, ok_bind] at h
      rw [Fallible.lift_ok_bind]
      rcases bind_eq_error.mp h with hrefs | ⟨_, -, hpure⟩
      · refine Fallible.run_bind_of_error ?_
        rw [preflight]
        dsimp only
        rw [hrefs]
        rfl
      · cases hpure

lemma validate_of_structural_ok {columns : ColumnsById} (h : c.structuralChecks = .ok columns) :
    c.validate src zstd limits cache = (do
      chargeAll c.references
      (c.walk src zstd limits columns).interp (consult src)).run ⟨cache, c.budget⟩ := by
  rw [GraphCandidate.validate, validateMetadataGraph_eq]
  obtain ⟨_, hcounts, h⟩ := bind_eq_ok.mp h
  obtain ⟨columns', hschema, h⟩ := bind_eq_ok.mp h
  obtain ⟨_, hrefs, h⟩ := bind_eq_ok.mp h
  obtain rfl : columns' = columns := Except.ok.inj h
  rw [hcounts, Fallible.lift_ok_bind, hschema, Fallible.lift_ok_bind]
  have hpreflight : preflight c.metadata c.v2Root = chargeAll c.references := by
    rw [preflight]
    dsimp only
    rw [hrefs, Fallible.lift_ok_bind, map_reference_objects]
  rw [hpreflight]
  rfl

/-- The objects that the structural checks let pass. -/
lemma wellKinded_of_structural_ok {columns : ColumnsById} (h : c.structuralChecks = .ok columns)
    {o : AuxiliaryObject} (ho : o ∈ c.objects) : o.WellKinded ∧ ¬ o.reference.IsNull := by
  obtain ⟨_, -, h⟩ := bind_eq_ok.mp h
  obtain ⟨_, -, h⟩ := bind_eq_ok.mp h
  obtain ⟨_, hrefs, -⟩ := bind_eq_ok.mp h
  have hmem : o.visited ∈ auxiliaryObjectReferences c.metadata c.v2Root := by
    rw [← map_auxiliaryObjects]
    exact List.mem_map_of_mem ho
  obtain ⟨hnull, hkind, -⟩ := OcbBodyRefV2.validate_eq_ok.mp (forM_eq_ok.mp hrefs _ hmem)
  exact ⟨hkind, hnull⟩

lemma errorsIn_validateRootCounts (m : OcbMetadataV1) (count : ℕ) :
    ErrorsIn ArcadiaTioError.IsCorrupt (validateRootCounts m count) := by
  have hguard : ∀ (p : Prop) [Decidable p] (message : String),
      ErrorsIn ArcadiaTioError.IsCorrupt (failIf p (ocbCorruptFile message)) :=
    fun _ _ _ => .failIf fun _ => by simp
  refine .bind (hguard _ _) fun _ _ => .bind (hguard _ _) fun _ _ => .bind (hguard _ _) fun _ _ =>
    .bind (hguard _ _) fun _ _ => .bind ?_ fun _ _ => .bind (.okOr (by simp)) fun _ _ => hguard _ _
  rw [validateDictionaryCount]
  split
  · exact .ok _
  · exact hguard _ _

lemma errorsIn_valueByteWidth (column : OcbColumnDescV1) :
    ErrorsIn ArcadiaTioError.IsCorrupt column.valueByteWidth := by
  rw [OcbColumnDescV1.valueByteWidth]
  split
  · exact .bind (.failIf fun _ => by simp) fun _ _ => .ok _
  · exact .bind (.failIf fun _ => by simp) fun _ _ => .ok _

lemma errorsIn_validateColumns (strings : List String) (columns seen : List OcbColumnDescV1)
    (seenNames : List String) :
    ErrorsIn ArcadiaTioError.IsCorrupt (validateColumns strings columns seen seenNames) := by
  induction columns generalizing seen seenNames with
  | nil => exact .ok _
  | cons column rest ih =>
    exact .bind (.failIf fun _ => by simp) fun _ _ => .bind (.okOr (by simp)) fun _ _ =>
      .bind (.failIf fun _ => by simp) fun _ _ => .bind (errorsIn_valueByteWidth column) fun _ _ =>
      .bind (.failIf fun _ => by simp) fun _ _ => .bind (.failIf fun _ => by simp) fun _ _ =>
      ih _ _

/-- Every failure before the first charge is a corruption. -/
lemma errorsIn_structuralChecks :
    ErrorsIn ArcadiaTioError.IsCorrupt c.structuralChecks :=
  .bind (errorsIn_validateRootCounts _ _) fun _ _ => .bind (errorsIn_validateColumns _ _ _ _)
    fun _ _ => .bind (.forM fun p _ => p.1.validate_errors _ _) fun _ _ => .ok _

end Course

/-! ### Sound caches -/

/-- The cache of an open with the given limits. -/
structure SoundCache (src : OcbReadSource) (limits : OcbResourceLimits)
    (cache : OcbOpenAuxiliaryObjectCache) : Prop where
  resourceLimits_eq : cache.resourceLimits = limits
  accounted : cache.Accounted
  truthful : cache.Truthful src

section Sound

variable {src : OcbReadSource} {zstd : ZstdCodec} {limits : OcbResourceLimits}
  {c : GraphCandidate} {cache : OcbOpenAuxiliaryObjectCache}

lemma soundCache_new : SoundCache src limits (.new limits) where
  resourceLimits_eq := rfl
  accounted := ⟨rfl, Nat.zero_le _⟩
  truthful := by
    intro o v h
    cases h

/-- A consultation keeps the cache sound, and its references. -/
lemma soundCache_consult {o : AuxiliaryObject} (hnull : ¬ o.reference.IsNull) {s : OpenState}
    (h : SoundCache src limits s.auxiliary) :
    SoundCache src limits ((consult src o).run s).2.auxiliary ∧
      ∀ x, x ∈ ((consult src o).run s).2.auxiliary.references ↔ x ∈ s.auxiliary.references := by
  rcases hrun : (consult src o).run s with ⟨e | v, t⟩
  · rw [auxiliary_of_consult_error hnull hrun]
    exact ⟨h, fun _ => Iff.rfl⟩
  · rcases consult_eq_ok hnull hrun with ⟨-, rfl⟩ | ⟨hpending, budget, hread, rfl⟩
    · exact ⟨h, fun _ => Iff.rfl⟩
    · have hmem : o.reference ∈ s.auxiliary.references :=
        lookup_isSome.mp (by rw [hpending]; rfl)
      exact ⟨⟨h.resourceLimits_eq, h.accounted.setState hmem, h.truthful.setState hread⟩,
        fun _ => mem_references_setState hmem⟩

/-- The cache after the charges of a candidate. -/
lemma soundCache_extends {cache' : OcbOpenAuxiliaryObjectCache} (h : SoundCache src limits cache)
    (hextends : cache.Extends cache') (hacc : cache'.Accounted) : SoundCache src limits cache' :=
  ⟨hextends.resourceLimits_eq.trans h.resourceLimits_eq, hacc, h.truthful.extends hextends⟩

/-- What holds during the walk of a candidate. -/
structure Walking (src : OcbReadSource) (limits : OcbResourceLimits) (l : List AuxiliaryObject)
    (references : List OcbBodyRefV2) (s : OpenState) : Prop where
  sound : SoundCache src limits s.auxiliary
  mem_iff : ∀ x, x ∈ s.auxiliary.references ↔ x ∈ references
  charged : ∀ o ∈ l, o.reference ∈ references

lemma Walking.consult {l : List AuxiliaryObject} {references : List OcbBodyRefV2} {s : OpenState}
    (h : Walking src limits l references s) {o : AuxiliaryObject}
    (hnull : ¬ o.reference.IsNull) :
    Walking src limits l references ((consult src o).run s).2 := by
  obtain ⟨hsound, hmem⟩ := soundCache_consult hnull h.sound
  exact ⟨hsound, fun x => (hmem x).trans (h.mem_iff x), h.charged⟩

variable (zstd) in
/-- How a validation goes on after its structural checks. -/
lemma validate_cases {columns : ColumnsById} (hsound : SoundCache src limits cache)
    (h : c.structuralChecks = .ok columns) :
    (∃ e cache', IsAggregateLimit e ∧
      limits.maxOwnedSelectedCompressedBytes.toNat <
        distinctBytes (c.references ++ cache.references) ∧
      c.validate src zstd limits cache = (.error e, ⟨cache', c.budget⟩) ∧
      c.consultations src zstd limits cache = [] ∧ SoundCache src limits cache') ∨
    ∃ cache', cache.Extends cache' ∧
      distinctBytes (c.references ++ cache.references) ≤
        limits.maxOwnedSelectedCompressedBytes.toNat ∧
      c.validate src zstd limits cache =
        ((c.walk src zstd limits columns).interp (consult src)).run ⟨cache', c.budget⟩ ∧
      c.consultations src zstd limits cache =
        (c.walk src zstd limits columns).trace (consult src) ⟨cache', c.budget⟩ ∧
      Walking src limits c.objects cache'.references ⟨cache', c.budget⟩ ∧
      ∀ x, x ∈ cache'.references ↔ x ∈ c.references ∨ x ∈ cache.references := by
  obtain ⟨r, cache', hrun, hextends, hacc, hend⟩ :=
    run_chargeAll c.references ⟨cache, c.budget⟩ hsound.accounted
  have hsound' := soundCache_extends hsound hextends hacc
  rcases hend with ⟨rfl, hiff⟩ | ⟨e, rfl, he, hlt⟩
  · refine .inr ⟨cache', hextends, ?_, ?_, ?_, ⟨hsound', fun _ => Iff.rfl, fun o ho => ?_⟩, hiff⟩
    · rw [← hsound'.resourceLimits_eq]
      refine le_trans ?_ hacc.total_le
      rw [hacc.total_eq]
      exact distinctBytes_le fun x hx => (hiff x).mpr (List.mem_append.mp hx)
    · rw [validate_of_structural_ok h]
      exact Fallible.run_bind_of_ok hrun
    · rw [GraphCandidate.consultations, h]
      dsimp only
      rw [hrun]
    · exact (hiff _).mpr (.inl (List.mem_map_of_mem ho))
  · refine .inl ⟨e, cache', he, hsound.resourceLimits_eq ▸ hlt, ?_, ?_, hsound'⟩
    · rw [validate_of_structural_ok h]
      exact Fallible.run_bind_of_error hrun
    · rw [GraphCandidate.consultations, h]
      dsimp only
      rw [hrun]

variable (zstd) in
/-- A validation keeps the cache sound. -/
lemma soundCache_validate (hsound : SoundCache src limits cache) :
    SoundCache src limits (c.validate src zstd limits cache).2.auxiliary := by
  cases h : c.structuralChecks with
  | error e =>
    rw [validate_of_structural_error src zstd limits cache h]
    exact hsound
  | ok columns =>
    rcases validate_cases zstd hsound h with
      ⟨e, cache', -, -, hrun, -, hsound'⟩ | ⟨cache', -, -, hrun, -, hwalking, -⟩
    · rw [hrun]
      exact hsound'
    · rw [hrun]
      exact (Query.interp_invariant (asks_graphWalk _) (fun o ho s hs =>
        hs.consult (wellKinded_of_structural_ok h ho).2) hwalking).2.sound

/-- Every cache of an open is sound. -/
lemma soundCache_cacheAfter (earlier : List GraphCandidate) :
    SoundCache src limits (cacheAfter src zstd limits earlier) := by
  induction earlier with
  | nil => exact soundCache_new
  | cons c earlier ih => exact soundCache_validate zstd ih

end Sound

/-! ### The caches of an open -/

section Selection

variable {src : OcbReadSource} {zstd : ZstdCodec} {limits : OcbResourceLimits}
  {validation : OcbOpenValidationMode} {earlier : List GraphCandidate}

variable (src zstd limits validation earlier) in
/-- Loading a root validates at most one graph, over the cache that it is given. -/
lemma cacheAfter_loadV2Root (root : OcbRootV2) (budget : MetadataMaterializationBudget) :
    ∃ later, ((loadV2Root src zstd root validation limits).run
      ⟨cacheAfter src zstd limits earlier, budget⟩).2.auxiliary =
        cacheAfter src zstd limits (later ++ earlier) := by
  rcases hobjects : (readMetadataObjectsV2WithResourceLimits src root limits).run budget with
    ⟨e | m, budget'⟩
  · refine ⟨[], ?_⟩
    rw [loadV2Root, Fallible.run_bind_of_error (Opening.run_metered hobjects)]
    rfl
  · rw [loadV2Root, Fallible.run_bind_of_ok (Opening.run_metered hobjects)]
    cases hsemantics : validateV2RootSemantics root m with
    | error e =>
      refine ⟨[], ?_⟩
      rw [validateV2MetadataGraph, hsemantics]
      rfl
    | ok u =>
      rw [validateV2MetadataGraph, hsemantics, Fallible.lift_ok_bind]
      refine ⟨[⟨m, root.columnChunkCount.toNat, validation, some root, budget'⟩], ?_⟩
      rcases hgraph : (validateMetadataGraph src zstd m root.columnChunkCount.toNat validation
        limits (some root)).run ⟨cacheAfter src zstd limits earlier, budget'⟩ with
        ⟨e | positions, s⟩
      · rw [Fallible.run_bind_of_error hgraph]
        exact (congrArg (fun out => out.2.auxiliary) hgraph).symm
      · rw [Fallible.run_bind_of_ok hgraph]
        refine Eq.trans ?_ (congrArg (fun out => out.2.auxiliary) hgraph).symm
        cases src.validateOptionalObject root.debugJsonRef .debugJsonMetadata limits with
        | error e => rfl
        | ok u => cases validateCommitDiagnosticsObject src root limits <;> rfl

/-- The attempts of a selection validate graphs over one cache, one after the other. -/
theorem cacheAfter_chooseV2Metadata (src : OcbReadSource) (zstd : ZstdCodec)
    (limits : OcbResourceLimits) (validation : OcbOpenValidationMode)
    (earlier : List GraphCandidate) (candidates : List OcbRootCandidateV2) :
    ∃ later, (chooseV2Metadata (fun root =>
      validateV2RootReferencedObjectsWithScope src zstd root validation limits) candidates
        (cacheAfter src zstd limits earlier)).2 = cacheAfter src zstd limits (later ++ earlier) := by
  induction hlen : candidates.length using Nat.strong_induction_on
    generalizing candidates earlier with
  | _ n ih =>
  rw [chooseV2Metadata]
  split
  · exact ⟨[], rfl⟩
  · rename_i generation hmax
    split
    · exact ⟨[], rfl⟩
    · rename_i candidate hfind
      have hlt := length_dropGeneration_lt (List.mem_of_find?_eq_some hfind)
        (by simpa using List.find?_some hfind)
      split
      · exact ih _ (hlen ▸ hlt) earlier _ rfl
      · obtain ⟨later, hlater⟩ := cacheAfter_loadV2Root src zstd limits validation earlier
          candidate.root (.fromLimits limits)
        change ((validateV2RootReferencedObjectsWithScope src zstd candidate.root validation
          limits).run (cacheAfter src zstd limits earlier)).2 = _ at hlater
        split
        · rename_i m cache hrun
          rw [hrun] at hlater
          exact ⟨later, hlater⟩
        · rename_i e cache hrun
          rw [hrun] at hlater
          obtain rfl : cache = cacheAfter src zstd limits (later ++ earlier) := hlater
          split
          · obtain ⟨latest, hlatest⟩ := ih _ (hlen ▸ hlt) (later ++ earlier) _ rfl
            exact ⟨latest ++ later, by rw [hlatest, List.append_assoc]⟩
          · exact ⟨later, rfl⟩

end Selection

/-! ### Reading once -/

section Once

variable {src : OcbReadSource}

/-- The cache reads an object once: until then it is unread, and reading one object leaves the
others as they are. -/
lemma remembers_consult :
    Query.Remembers (consult src) (fun o => o.WellKinded ∧ ¬ o.reference.IsNull) Unread where
  not_fresh o s v t hkind hrun hunread := by
    rcases consult_eq_ok hkind.2 hrun with ⟨hlookup, rfl⟩ | ⟨-, budget, -, rfl⟩
    · rw [Unread, hlookup] at hunread
      cases o <;> cases hunread
    · rw [Unread, lookup_setState, if_pos rfl] at hunread
      cases o <;> cases hunread
  fresh_iff o o' s v t hkind hkind' hne hrun := by
    rcases consult_eq_ok hkind.2 hrun with ⟨-, rfl⟩ | ⟨-, budget, -, rfl⟩
    · exact Iff.rfl
    · have href : o'.reference ≠ o.reference := fun h =>
        hne (AuxiliaryObject.reference_injective hkind'.1 hkind.1 h)
      rw [Unread, Unread, lookup_setState, if_neg href]

end Once

/-! ### The verdict -/

section Verdict

variable {src : OcbReadSource} {limits : OcbResourceLimits}

/-- A validation over the cache and one without it, when the queries `rest` are still to come: the
one without the cache has charged at least as much. -/
structure Alongside (src : OcbReadSource) (limits : OcbResourceLimits)
    (rest : List AuxiliaryObject) (s : OpenState) (budget : MetadataMaterializationBudget) :
    Prop where
  sound : SoundCache src limits s.auxiliary
  prepared : ∀ o ∈ rest, (o.WellKinded ∧ ¬ o.reference.IsNull) ∧
    o.reference ∈ s.auxiliary.references
  limitBytes_eq : budget.limitBytes = s.budget.limitBytes
  chargedBytes_le : s.budget.chargedBytes ≤ budget.chargedBytes

/-- One query: both fail alike, or both go on, unless the budget without the cache is spent. -/
lemma Alongside.step {o : AuxiliaryObject} {rest : List AuxiliaryObject} {s : OpenState}
    {budget : MetadataMaterializationBudget} (h : Alongside src limits (o :: rest) s budget) :
    Query.Outcome (· = materializationLimit) (Alongside src limits rest)
      ((consult src o).run s) ((revalidate src limits o).run budget) := by
  obtain ⟨⟨hkind, hnull⟩, hmem⟩ := h.prepared o List.mem_cons_self
  obtain ⟨hsound, hrefs⟩ := soundCache_consult (o := o) hnull h.sound
  have hrest : ∀ o' ∈ rest, (o'.WellKinded ∧ ¬ o'.reference.IsNull) ∧
      o'.reference ∈ ((consult src o).run s).2.auxiliary.references := fun o' ho' =>
    have ho' := h.prepared o' (List.mem_cons_of_mem _ ho')
    ⟨ho'.1, (hrefs _).mpr ho'.2⟩
  have hlimits := h.sound.resourceLimits_eq
  rcases prepared_of_truthful h.sound.truthful hkind hmem with hpending | ⟨v, hv⟩
  · have hrun := consult_of_pending src hnull hpending
    rw [hlimits] at hrun
    rcases revalidate_dichotomy src limits o with ⟨e, herror⟩ | ⟨v, price, hcosts⟩
    · refine .inr (.inl ⟨e, ?_, ?_⟩)
      · rw [hrun, herror]
        rfl
      · rw [herror]
    · rcases Nat.lt_or_ge budget.limitBytes (budget.chargedBytes + price) with hlt | hle
      · exact .inl ⟨_, by rw [run_of_costs_of_lt hcosts hlt]; rfl, rfl⟩
      · have hle' : s.budget.chargedBytes + price ≤ s.budget.limitBytes := by
          have := h.chargedBytes_le
          have := h.limitBytes_eq
          omega
        rw [run_of_costs_of_le hcosts hle'] at hrun
        rw [run_of_costs_of_le hcosts hle]
        refine .inr (.inr ⟨v, by rw [hrun]; rfl, rfl, hsound, hrest, ?_, ?_⟩)
        · rw [hrun]
          exact h.limitBytes_eq
        · rw [hrun]
          exact Nat.add_le_add_right h.chargedBytes_le price
  · have hrun := consult_of_validated src hnull hv
    obtain ⟨budget₀, budget₁, hread⟩ := h.sound.truthful o v hv
    rw [hlimits] at hread
    obtain ⟨price, hcosts⟩ := costs_of_run hread
    rcases Nat.lt_or_ge budget.limitBytes (budget.chargedBytes + price) with hlt | hle
    · exact .inl ⟨_, by rw [run_of_costs_of_lt hcosts hlt]; rfl, rfl⟩
    · rw [run_of_costs_of_le hcosts hle]
      refine .inr (.inr ⟨v, by rw [hrun], rfl, hsound, hrest, ?_, ?_⟩)
      · rw [hrun]
        exact h.limitBytes_eq
      · rw [hrun]
        exact h.chargedBytes_le.trans (Nat.le_add_right _ _)

/-- The queries of which no dictionary is asked for twice. -/
def DictionariesOnce (l : List AuxiliaryObject) : Prop :=
  l.Pairwise fun o o' => o = o' → o.kind = .keyTuple

/-- A validation over a cache that has none of the dictionaries still to come, and one without
the cache: both have charged the same. -/
structure InStep (src : OcbReadSource) (limits : OcbResourceLimits)
    (rest : List AuxiliaryObject) (s : OpenState) (budget : MetadataMaterializationBudget) :
    Prop extends Alongside src limits rest s budget where
  once : DictionariesOnce rest
  unread : ∀ o ∈ rest, o.kind = .dictionaryValues → Unread o s
  budget_eq : budget = s.budget

/-- Reading a key tuple costs nothing. -/
lemma budget_of_read_keyTuple {o : AuxiliaryObject} (hkind : o.kind = .keyTuple) {v : o.Answer}
    {b b' : MetadataMaterializationBudget}
    (h : (revalidate src limits o).run b = (.ok v, b')) (budget : MetadataMaterializationBudget) :
    (revalidate src limits o).run budget = (.ok v, budget) := by
  cases o with
  | dictionaryValues reference => cases hkind
  | keyTuple reference =>
    obtain ⟨bytes, hbytes, -⟩ := Fallible.run_lift_bind_eq_ok.mp h
    rw [revalidate, hbytes]
    rfl

/-- One query of two validations in step: they stay in step. -/
lemma InStep.step {o : AuxiliaryObject} {rest : List AuxiliaryObject} {s : OpenState}
    {budget : MetadataMaterializationBudget} (h : InStep src limits (o :: rest) s budget) :
    Query.Outcome (fun _ => False) (InStep src limits rest)
      ((consult src o).run s) ((revalidate src limits o).run budget) := by
  have hagree : ∀ {v : o.Answer} {t : OpenState} {budget' : MetadataMaterializationBudget},
      (consult src o).run s = (.ok v, t) → (revalidate src limits o).run budget = (.ok v, budget') →
      budget' = t.budget → InStep src limits rest t budget' := by
    intro v t budget' hrun hread heq
    have hstep := h.toAlongside.step
    rw [hrun, hread] at hstep
    rcases hstep with ⟨e, he, -⟩ | ⟨e, he, -⟩ | ⟨v', -, -, halongside⟩
    · cases he
    · cases he
    · refine ⟨halongside, (List.pairwise_cons.mp h.once).2, fun o' ho' hkind' => ?_, heq⟩
      have hne : o' ≠ o := by
        rintro rfl
        have := (List.pairwise_cons.mp h.once).1 o' ho' rfl
        rw [hkind'] at this
        cases this
      exact (remembers_consult.fresh_iff o o' s v t (h.prepared o List.mem_cons_self).1
        (h.prepared o' (List.mem_cons_of_mem _ ho')).1 hne hrun).mpr
          (h.unread o' (List.mem_cons_of_mem _ ho') hkind')
  obtain ⟨⟨hkind, hnull⟩, hmem⟩ := h.prepared o List.mem_cons_self
  have hlimits := h.sound.resourceLimits_eq
  rcases prepared_of_truthful h.sound.truthful hkind hmem with hpending | ⟨v, hv⟩
  · have hrun := consult_of_pending src hnull hpending
    rw [hlimits, ← h.budget_eq] at hrun
    rcases hread : (revalidate src limits o).run budget with ⟨e | v, budget'⟩
    · rw [hread] at hrun
      exact .inr (.inl ⟨e, by rw [hrun]; rfl, rfl⟩)
    · rw [hread] at hrun
      refine .inr (.inr ⟨v, by rw [hrun]; rfl, rfl, ?_⟩)
      rw [hrun]
      exact hagree hrun hread rfl
  · have hrun := consult_of_validated src hnull hv
    obtain ⟨budget₀, budget₁, hread⟩ := h.sound.truthful o v hv
    rw [hlimits] at hread
    have htuple : o.kind = .keyTuple := by
      cases o with
      | dictionaryValues reference =>
        have hunread := h.unread _ List.mem_cons_self rfl
        rw [Unread, hv] at hunread
        cases hunread
      | keyTuple reference => rfl
    have hread' := budget_of_read_keyTuple htuple hread budget
    refine .inr (.inr ⟨v, by rw [hrun], by rw [hread'], ?_⟩)
    rw [hrun, hread']
    exact hagree hrun hread' h.budget_eq

end Verdict

/-! ### Transparency -/

/-- What the cache changes about the validation of a candidate. -/
structure CacheTransparent (src : OcbReadSource) (zstd : ZstdCodec) (limits : OcbResourceLimits)
    (cache : OcbOpenAuxiliaryObjectCache) (c : GraphCandidate) : Prop where
  /-- Every query is one of the preflight, in its order. -/
  queries_prefix : (c.consultations src zstd limits cache).map Prod.fst <+: c.objects
  /-- At every query the cache is prepared: the object is to be read, or it has been read. -/
  prepared : ∀ p ∈ c.consultations src zstd limits cache, p.2.auxiliary.Prepared p.1
  /-- The total on account is that of the distinct references, and within the limit. -/
  accounted : (c.validate src zstd limits cache).2.auxiliary.totalUniqueBytes =
      distinctBytes (c.validate src zstd limits cache).2.auxiliary.references ∧
    (c.validate src zstd limits cache).2.auxiliary.totalUniqueBytes ≤
      limits.maxOwnedSelectedCompressedBytes.toNat
  /-- No object is read twice, and none that an earlier candidate has read. -/
  read_once : (Query.found Unread (c.consultations src zstd limits cache)).Nodup ∧
    ∀ o ∈ Query.found Unread (c.consultations src zstd limits cache), o ∈ c.objects ∧
      ∀ v, cache.objects.lookup o.reference ≠ some (o.validated v)
  /-- A validation that succeeds has charged the references that the cache did not know, and read
  the objects that it had not read. -/
  complete : ∀ positions, (c.validate src zstd limits cache).1 = .ok positions →
    (∀ x, x ∈ (c.validate src zstd limits cache).2.auxiliary.references ↔
      x ∈ c.references ∨ x ∈ cache.references) ∧
    ∀ o, o ∈ Query.found Unread (c.consultations src zstd limits cache) ↔
      o ∈ c.objects ∧ ∀ v, cache.objects.lookup o.reference ≠ some (o.validated v)
  /-- A structural failure is a corruption, and it is reported before anything is charged. -/
  structural : ∀ e, c.structuralChecks = .error e → e.IsCorrupt ∧
    c.validate src zstd limits cache = (.error e, ⟨cache, c.budget⟩) ∧
    ((c.revalidated src zstd limits).run c.budget).1 = .error e
  /-- The aggregate limit refuses exactly the candidates whose distinct references, with those of
  the candidates before, exceed it. -/
  refused : IsOk c.structuralChecks →
    limits.maxOwnedSelectedCompressedBytes.toNat <
      distinctBytes (c.references ++ cache.references) →
    ∃ e, IsAggregateLimit e ∧ (c.validate src zstd limits cache).1 = .error e
  /-- Otherwise the verdict is the one without the cache, which may run out of budget before. -/
  verdict : distinctBytes (c.references ++ cache.references) ≤
      limits.maxOwnedSelectedCompressedBytes.toNat →
    ((c.revalidated src zstd limits).run c.budget).1 = (c.validate src zstd limits cache).1 ∨
      ((c.revalidated src zstd limits).run c.budget).1 = .error materializationLimit
  /-- It is the one without the cache when no dictionary is met twice. -/
  verdict_of_once : distinctBytes (c.references ++ cache.references) ≤
      limits.maxOwnedSelectedCompressedBytes.toNat →
    DictionariesOnce c.objects →
    (∀ o ∈ c.objects, o.kind = .dictionaryValues → o.reference ∉ cache.references) →
    ((c.revalidated src zstd limits).run c.budget).1 = (c.validate src zstd limits cache).1

section Transparent

variable {src : OcbReadSource} {zstd : ZstdCodec} {limits : OcbResourceLimits}
  {c : GraphCandidate} {cache : OcbOpenAuxiliaryObjectCache}

lemma run_revalidated {columns : ColumnsById} (h : c.structuralChecks = .ok columns) :
    c.revalidated src zstd limits =
      (c.walk src zstd limits columns).interp (revalidate src limits) := by
  rw [GraphCandidate.revalidated, h]
  rfl

/-- An object of a charged candidate is unread exactly when no earlier candidate has read it. -/
lemma unread_iff {cache' : OcbOpenAuxiliaryObjectCache} (hextends : cache.Extends cache')
    {o : AuxiliaryObject} (hprepared : cache'.Prepared o)
    {budget : MetadataMaterializationBudget} :
    Unread o ⟨cache', budget⟩ ↔ ∀ v, cache.objects.lookup o.reference ≠ some (o.validated v) := by
  have hpending : ∀ v, o.validated v ≠ .pending := by
    intro v h
    cases o <;> cases h
  constructor
  · intro h v hv
    change cache'.objects.lookup o.reference = some .pending at h
    rcases hextends.lookup o.reference with heq | ⟨hnone, -⟩
    · rw [heq, hv] at h
      exact hpending v (Option.some.inj h)
    · rw [hnone] at hv
      cases hv
  · intro h
    rcases hprepared with hunread | ⟨v, hv⟩
    · exact hunread
    · rcases hextends.lookup o.reference with heq | ⟨-, hnew⟩
      · exact absurd (heq ▸ hv) (h v)
      · rw [hnew] at hv
        exact absurd (Option.some.inj hv).symm (hpending v)

/-- The cache is transparent for a candidate whose structure is sound, when it starts sound. -/
lemma cacheTransparent_of_sound (hsound : SoundCache src limits cache) :
    CacheTransparent src zstd limits cache c := by
  have hend := soundCache_validate zstd (c := c) hsound
  have haccounted := And.intro hend.accounted.total_eq
    (hend.resourceLimits_eq ▸ hend.accounted.total_le)
  cases h : c.structuralChecks with
  | error e =>
    have hrun := validate_of_structural_error src zstd limits cache h
    have hnone : c.consultations src zstd limits cache = [] := by
      rw [GraphCandidate.consultations, h]
    have hwithout : ((c.revalidated src zstd limits).run c.budget).1 = .error e := by
      rw [GraphCandidate.revalidated, h]
      rfl
    -- the structural checks refuse the candidate before the cache is asked
    refine ⟨?_, ?_, haccounted, ?_, ?_, ?_, ?_, fun _ => .inl ?_, fun _ _ _ => ?_⟩
    · rw [hnone]
      exact List.nil_prefix
    · simp [hnone]
    · simp [hnone, Query.found]
    · intro positions hok
      rw [hrun] at hok
      cases hok
    · intro e' he'
      obtain rfl := Except.error.inj (h.symm.trans he')
      exact ⟨errorsIn_structuralChecks e h, hrun, hwithout⟩
    · rintro ⟨columns, hcolumns⟩
      rw [h] at hcolumns
      cases hcolumns
    · rw [hwithout, hrun]
    · rw [hwithout, hrun]
  | ok columns =>
    have hstructural : ∀ e, c.structuralChecks = .error e → False := by
      intro e he
      rw [h] at he
      cases he
    have hkinds : ∀ o ∈ c.objects, o.WellKinded ∧ ¬ o.reference.IsNull :=
      fun o ho => wellKinded_of_structural_ok h ho
    have hasks : Query.Asks c.objects (c.walk src zstd limits columns) := asks_graphWalk _
    rcases validate_cases zstd hsound h with
      ⟨e, cache', he, hlt, hrun, hnone, hsound'⟩ |
      ⟨cache', hextends, hle, hrun, htrace, hwalking, hmem⟩
    -- the charge for what the graph retains is refused, and nothing is consulted
    · refine ⟨?_, ?_, haccounted, ?_, ?_, fun e' he' => (hstructural e' he').elim,
        fun _ _ => ⟨e, he, by rw [hrun]⟩, fun hle => ?_, fun hle => ?_⟩
      · rw [hnone]
        exact List.nil_prefix
      · simp [hnone]
      · simp [hnone, Query.found]
      · intro positions hok
        rw [hrun] at hok
        cases hok
      · exact absurd hle (not_le.mpr hlt)
      · exact absurd hle (not_le.mpr hlt)
    -- the graph is walked: every consultation keeps the cache sound and remembers what it read
    · have hprepared : ∀ o ∈ c.objects, cache'.Prepared o := fun o ho =>
        prepared_of_truthful hwalking.sound.truthful (hkinds o ho).1 (hwalking.charged o ho)
      have hinv := Query.interp_invariant hasks
        (fun o ho s hs => hs.consult (hkinds o ho).2) hwalking
      have hmemObjects : ∀ p ∈ c.consultations src zstd limits cache, p.1 ∈ c.objects := by
        intro p hp
        rw [htrace] at hp
        exact (Query.keys_trace_prefix hasks _).subset (List.mem_map_of_mem hp)
      have hunread : ∀ o ∈ c.objects, (Unread o ⟨cache', c.budget⟩ ↔
          ∀ v, cache.objects.lookup o.reference ≠ some (o.validated v)) :=
        fun o ho => unread_iff hextends (hprepared o ho)
      refine ⟨?_, ?_, haccounted, ⟨?_, ?_⟩, ?_, fun e' he' => (hstructural e' he').elim,
        fun _ hlt => absurd hle (not_le.mpr hlt), fun _ => ?_, fun _ honce hfresh => ?_⟩
      · rw [htrace]
        exact Query.keys_trace_prefix hasks _
      · intro p hp
        have hpobjects := hmemObjects p hp
        rw [htrace] at hp
        have hstate := hinv.1 p hp
        exact prepared_of_truthful hstate.sound.truthful (hkinds _ hpobjects).1
          ((hstate.mem_iff _).mpr (hstate.charged _ hpobjects))
      · rw [htrace]
        exact remembers_consult.nodup_found hasks hkinds
      · intro o ho
        rw [htrace] at ho
        obtain ⟨hobject, hfresh⟩ := remembers_consult.fresh_of_mem_found hasks hkinds ho
        exact ⟨hobject, (hunread o hobject).mp hfresh⟩
      · intro positions hok
        rw [hrun] at hok ⊢
        refine ⟨fun x => (hinv.2.mem_iff x).trans (hmem x), fun o => ?_⟩
        rw [htrace, remembers_consult.mem_found_iff hasks hkinds (Prod.ext hok rfl)]
        exact and_congr_right fun ho => hunread o ho
      -- the walk runs alongside the one that reads everything again
      · have halongside : Alongside src limits c.objects ⟨cache', c.budget⟩ c.budget :=
          ⟨hwalking.sound, fun o ho => ⟨hkinds o ho, hwalking.charged o ho⟩, rfl, le_rfl⟩
        rw [run_revalidated h, hrun]
        rcases Query.interp_simulates (fun _ _ _ _ => Alongside.step) hasks halongside with
          ⟨e, he, hspent⟩ | ⟨e, he, he'⟩ | ⟨positions, hv, hv', -⟩
        · exact .inr (he.trans (congrArg _ hspent))
        · exact .inl (he'.trans he.symm)
        · exact .inl (hv'.trans hv.symm)
      -- nothing was read twice, so the two walks spend the same
      · have hinStep : InStep src limits c.objects ⟨cache', c.budget⟩ c.budget := by
          refine ⟨⟨hwalking.sound, fun o ho => ⟨hkinds o ho, hwalking.charged o ho⟩, rfl, le_rfl⟩,
            honce, fun o ho hkind => (hunread o ho).mpr fun v hv => ?_, rfl⟩
          exact hfresh o ho hkind (lookup_isSome.mp (by rw [hv]; rfl))
        rw [run_revalidated h, hrun]
        rcases Query.interp_simulates (fun _ _ _ _ => InStep.step) hasks hinStep with
          ⟨e, he, hspent⟩ | ⟨e, he, he'⟩ | ⟨positions, hv, hv', -⟩
        · exact hspent.elim
        · exact he'.trans he.symm
        · exact hv'.trans hv.symm

/-- Whatever candidates an open has validated before, the cache they share is transparent for the
next one. -/
theorem auxiliary_cache_transparent (src : OcbReadSource) (zstd : ZstdCodec)
    (limits : OcbResourceLimits) (earlier : List GraphCandidate) (c : GraphCandidate) :
    CacheTransparent src zstd limits (cacheAfter src zstd limits earlier) c :=
  cacheTransparent_of_sound (soundCache_cacheAfter earlier)

end Transparent

/-! ### Two samples -/

namespace CacheSample

/-- A dictionary with one empty value. -/
def values : OcbDictionaryValuesV1 := ⟨1, .bytes, 0, [[]], 0⟩

lemma length_parts : [sealBytes values.fieldBytes].map List.length = [60] := by
  rw [List.map_singleton, OcbDictionaryValuesV1.fieldBytes_eq,
    length_sealBytes_objectBytes _ rfl]
  rfl

lemma length_file : [sealBytes values.fieldBytes].flatten.length < 2 ^ 64 := by
  rw [List.length_flatten, length_parts]
  decide

/-- A file that holds this dictionary only. -/
def file : OcbReadSource := .ofBytes [sealBytes values.fieldBytes].flatten length_file

/-- Limits that let one dictionary of the file be decoded. -/
def limits : OcbResourceLimits :=
  { OcbResourceLimits.policyA with maxOwnedDecodedMaterializedBytes := 24 }

/-- A decompressor, which nothing here asks. -/
def zstd : ZstdCodec := fun _ _ => ⟨[], true⟩

/-- A root of which only the number of dictionaries matters. -/
def root (dictionaryCount : UInt32) : OcbRootV1 :=
  ⟨1, 0, 0, 0, 0, dictionaryCount, .null, .null, .null, .null, .null, 0, 0, 0⟩

/-- A dictionary of one entry. -/
def dictionary (id : UInt32) (reference : OcbBodyRefV2) : OcbDictionaryDescV1 :=
  ⟨id, id, .i32, .bytes, 0, reference, 1, 0⟩

/-- Metadata without columns and rows, whose dictionaries have the given references. -/
def metadata (fileLen : ℕ) (references : List OcbBodyRefV2) : OcbMetadataV1 where
  root := root references.length.toUInt32
  stringTable := ⟨1, ["a", "b"], 0⟩
  schema := ⟨1, .null, [], 0⟩
  dictionaryIndex := some ⟨1, references.zipIdx.map fun (r, id) => dictionary id.toUInt32 r, 0⟩
  rowGroupIndex := ⟨1, 0, [], [], [], 0⟩
  rowGroupPositionsById := []
  orderingProof := none
  fileLen
  appendable := false
  rootGeneration := 0
  previousRootGeneration := none
  resourceLimits := limits
  openMetadataMaterializedBytes := 0
  openAuxiliaryEncodedBytes := 0

/-- Where the values are. -/
def reference : OcbBodyRefV2 := .unchecked 0 60 .dictionaryValues

/-- Two dictionaries share their values. -/
def twice : GraphCandidate :=
  ⟨metadata 60 [reference, reference], 0, .metadataGraph, none, .fromLimits limits⟩

/-- A file of one byte, and a dictionary whose values it should hold. -/
def brokenFile : OcbReadSource := .ofBytes [0] (by decide)

/-- Where the values should be. -/
def brokenReference : OcbBodyRefV2 := .unchecked 0 1 .dictionaryValues

/-- The dictionary of the file of one byte. -/
def broken : GraphCandidate :=
  ⟨metadata 1 [brokenReference], 0, .metadataGraph, none, .fromLimits limits⟩

lemma costs_reference :
    Costs file limits (.dictionaryValues reference)
      (.of { values with crc32c := crc32c values.fieldBytes }) 24 := by
  have hbytes : file.readObjectBytesWithResourceLimits reference .dictionaryValues limits =
      .ok (sealBytes values.fieldBytes) :=
    OcbReadSource.readObjectBytes_part length_file length_parts 0 rfl rfl rfl rfl (by decide)
      (by decide)
  have hvalues : OcbDictionaryValuesV1.readFromBytesWithBudget (sealBytes values.fieldBytes) = (do
      MetadataMaterializationBudget.charge 24
      return { values with crc32c := crc32c values.fieldBytes }) :=
    values.readFromBytesWithBudget_sealBytes (by decide) rfl (by decide) (by decide)
  exact costs_of_values hbytes hvalues

/-- The state in which the walk over the two dictionaries starts. -/
def charged : OpenState := ⟨⟨[(reference, .pending)], 60, limits⟩, .fromLimits limits⟩

lemma structuralChecks_twice : twice.structuralChecks = .ok [] := by decide

lemma run_chargeAll_twice :
    (chargeAll twice.references).run ⟨.new limits, twice.budget⟩ = (.ok (), charged) := by
  rfl

/-- What the walk learns about the values. -/
def summary : OcbDictionaryValuesSummary := .of { values with crc32c := crc32c values.fieldBytes }

/-- The walk over the two dictionaries asks for their values twice. -/
lemma walk_twice : ∃ next next',
    twice.walk file zstd limits [] = .ask (.dictionaryValues reference) next ∧
      next summary = .ask (.dictionaryValues reference) next' ∧ next' summary = .done [] :=
  ⟨_, _, rfl, rfl, rfl⟩

/-- With the cache, the values are read once. -/
lemma validate_twice : (twice.validate file zstd limits (.new limits)).1 = .ok [] := by
  have hfirst := consult_of_pending file (o := .dictionaryValues reference) (s := charged)
    (by decide) rfl
  rw [show charged.auxiliary.resourceLimits = limits from rfl,
    run_of_costs_of_le costs_reference
      (show charged.budget.chargedBytes + 24 ≤ charged.budget.limitBytes by decide)] at hfirst
  have hsecond := consult_of_validated file (o := .dictionaryValues reference)
    (s := ((consult file (.dictionaryValues reference)).run charged).2)
    (v := summary) (by decide) (by rw [hfirst]; rfl)
  rw [hfirst] at hsecond
  obtain ⟨next, next', hwalk, hnext, hdone⟩ := walk_twice
  rw [validate_of_structural_ok structuralChecks_twice,
    Fallible.run_bind_of_ok run_chargeAll_twice, hwalk, Query.run_ask_of_ok hfirst]
  change ((Query.interp _ (next summary)).run _).1 = _
  rw [hnext]
  refine (congrArg Prod.fst (Query.run_ask_of_ok hsecond)).trans ?_
  rw [hdone]
  rfl

/-- The budget that has paid for the values once. -/
def spent : MetadataMaterializationBudget :=
  { twice.budget with chargedBytes := 24, charged_le := by decide }

/-- Without it they are read twice, which the budget does not allow. -/
lemma revalidated_twice :
    ((twice.revalidated file zstd limits).run twice.budget).1 = .error materializationLimit := by
  have hfirst := run_of_costs_of_le costs_reference
    (show twice.budget.chargedBytes + 24 ≤ twice.budget.limitBytes by decide)
  have hsecond := run_of_costs_of_lt costs_reference
    (show spent.limitBytes < spent.chargedBytes + 24 by decide)
  obtain ⟨next, next', hwalk, hnext, -⟩ := walk_twice
  rw [run_revalidated structuralChecks_twice, hwalk, Query.run_ask_of_ok hfirst]
  change ((Query.interp _ (next summary)).run _).1 = _
  rw [hnext]
  exact congrArg Prod.fst (Query.run_ask_of_error hsecond)

end CacheSample

/-- A budget that pays for a dictionary once accepts two dictionaries that share their values, but
only with the cache; and values that cannot be decoded are read again for the next candidate. -/
theorem auxiliary_cache_sample :
    ((CacheSample.twice.validate CacheSample.file CacheSample.zstd CacheSample.limits
        (.new CacheSample.limits)).1 = .ok [] ∧
      distinctBytes CacheSample.twice.references ≤
        CacheSample.limits.maxOwnedSelectedCompressedBytes.toNat ∧
      ((CacheSample.twice.revalidated CacheSample.file CacheSample.zstd CacheSample.limits).run
        CacheSample.twice.budget).1 ≠ .ok []) ∧
    ∀ earlier ∈ [[], [CacheSample.broken]],
      Query.found Unread (CacheSample.broken.consultations CacheSample.brokenFile CacheSample.zstd
        CacheSample.limits (cacheAfter CacheSample.brokenFile CacheSample.zstd CacheSample.limits
          earlier)) = [.dictionaryValues CacheSample.brokenReference] := by
  refine ⟨⟨CacheSample.validate_twice, by decide, ?_⟩, by decide⟩
  rw [CacheSample.revalidated_twice]
  exact fun h => by cases h

end ArcadiaTio.Ocb
