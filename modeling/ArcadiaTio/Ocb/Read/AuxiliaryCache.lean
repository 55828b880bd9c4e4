import ArcadiaTio.Ocb.Format.Metering
import ArcadiaTio.Ocb.Read.GraphWalk
import Mathlib.Algebra.Order.BigOperators.Group.List
import Mathlib.Data.List.Dedup
import Mathlib.Data.List.Perm.Subperm
import Mathlib.Tactic.Ring

/-!
# The auxiliary object cache

The cache charges a reference when a preflight first meets it and remembers what reading its
object has shown.  Two invariants hold of every cache: its total is the sum of the lengths of the
distinct references, within the limit (`Accounted`), and what it remembers is what reading the
object again would show (`Truthful`).  Reading an object again is `revalidate`: it fails whatever
the budget, or it charges a price and succeeds (`revalidate_dichotomy`).
-/

namespace ArcadiaTio.Ocb

open ArcadiaTio.Lib

/-! ### Reading an object without the cache -/

/-- The summary of the values of a dictionary. -/
def OcbDictionaryValuesSummary.of (values : OcbDictionaryValuesV1) : OcbDictionaryValuesSummary :=
  ⟨values.valueKind, values.values.length, values.fixedWidth⟩

/-- Read and check an object, whatever has been read before. -/
def revalidate (src : OcbReadSource) (limits : OcbResourceLimits) :
    ∀ o : AuxiliaryObject, Metered o.Answer
  | .dictionaryValues reference => do
    let bytes ← src.readObjectBytesInnerWithLimits reference .dictionaryValues
      limits.maxEncodedObjectBytes.toNat
    let values ← OcbDictionaryValuesV1.readFromBytesWithBudget bytes
    return .of values
  | .keyTuple reference => do
    let _ ← src.readObjectBytesInnerWithLimits reference .keyTuple
      limits.maxEncodedObjectBytes.toNat
    return ()

/-- What the cache remembers of an object once it is read. -/
def AuxiliaryObject.validated : ∀ o : AuxiliaryObject, o.Answer → OcbAuxiliaryObjectState
  | .dictionaryValues _, summary => .dictionaryValues summary
  | .keyTuple _, _ => .keyTupleValidated

lemma AuxiliaryObject.validated_injective (o : AuxiliaryObject) :
    Function.Injective o.validated := by
  intro v v' h
  cases o with
  | dictionaryValues reference => exact OcbAuxiliaryObjectState.dictionaryValues.inj h
  | keyTuple reference => rfl

/-- Reading the object succeeds on every budget that can pay the price. -/
def Costs (src : OcbReadSource) (limits : OcbResourceLimits) (o : AuxiliaryObject) (v : o.Answer)
    (price : ℕ) : Prop :=
  revalidate src limits o = (do
    MetadataMaterializationBudget.charge price
    return v)

section Revalidate

variable {src : OcbReadSource} {limits : OcbResourceLimits} {o : AuxiliaryObject}

/-- A price of nothing is always paid. -/
lemma charge_zero_bind {α : Type} (a : α) :
    (do MetadataMaterializationBudget.charge 0; return a : Metered α) = pure a := by
  refine congrArg Fallible.mk (funext fun budget => ?_)
  rw [run_charge_of_le (Nat.add_zero _ ▸ budget.charged_le)]
  rfl

/-- A dictionary costs what its values retain. -/
lemma costs_of_values {reference : OcbBodyRefV2} {bytes : List UInt8}
    {values : OcbDictionaryValuesV1}
    (hbytes : src.readObjectBytesInnerWithLimits reference .dictionaryValues
      limits.maxEncodedObjectBytes.toNat = .ok bytes)
    (hvalues : OcbDictionaryValuesV1.readFromBytesWithBudget bytes = (do
      MetadataMaterializationBudget.charge values.materializedBytes
      return values)) :
    Costs src limits (.dictionaryValues reference) (.of values) values.materializedBytes := by
  rw [Costs, revalidate, hbytes, Fallible.lift_ok_bind, hvalues]
  refine congrArg Fallible.mk (funext fun budget => ?_)
  change Fallible.andThen _ (Fallible.andThen _
    ((MetadataMaterializationBudget.charge values.materializedBytes).run budget)) = _
  rcases (MetadataMaterializationBudget.charge values.materializedBytes).run budget with
    ⟨_ | _, budget'⟩ <;> rfl

/-- Reading an object fails whatever the budget, or it has a price. -/
lemma revalidate_dichotomy (src : OcbReadSource) (limits : OcbResourceLimits)
    (o : AuxiliaryObject) :
    (∃ e, ∀ budget, (revalidate src limits o).run budget = (.error e, budget)) ∨
      ∃ v price, Costs src limits o v price := by
  cases o with
  | dictionaryValues reference =>
    cases hbytes : src.readObjectBytesInnerWithLimits reference .dictionaryValues
        limits.maxEncodedObjectBytes.toNat with
    | error e =>
      refine .inl ⟨e, fun budget => ?_⟩
      rw [revalidate, hbytes]
      rfl
    | ok bytes =>
      rcases (OcbDictionaryValuesV1.structureFirst bytes).cases with
        ⟨e, -, herror⟩ | ⟨values, hvalues⟩
      · refine .inl ⟨e, fun budget => ?_⟩
        rw [revalidate, hbytes, Fallible.lift_ok_bind, herror]
        rfl
      · exact .inr ⟨.of values, values.materializedBytes, costs_of_values hbytes hvalues⟩
  | keyTuple reference =>
    cases hbytes : src.readObjectBytesInnerWithLimits reference .keyTuple
        limits.maxEncodedObjectBytes.toNat with
    | error e =>
      refine .inl ⟨e, fun budget => ?_⟩
      rw [revalidate, hbytes]
      rfl
    | ok bytes =>
      refine .inr ⟨(), 0, ?_⟩
      rw [Costs, charge_zero_bind, revalidate, hbytes, Fallible.lift_ok_bind]

lemma run_of_costs_of_le {v : o.Answer} {price : ℕ} (h : Costs src limits o v price)
    {budget : MetadataMaterializationBudget}
    (hle : budget.chargedBytes + price ≤ budget.limitBytes) :
    (revalidate src limits o).run budget =
      (.ok v, { budget with chargedBytes := budget.chargedBytes + price, charged_le := hle }) := by
  rw [h]
  exact Fallible.run_bind_of_ok (run_charge_of_le hle)

lemma run_of_costs_of_lt {v : o.Answer} {price : ℕ} (h : Costs src limits o v price)
    {budget : MetadataMaterializationBudget}
    (hlt : budget.limitBytes < budget.chargedBytes + price) :
    (revalidate src limits o).run budget = (.error
      (ocbInvalidInput "OCB open metadata materialization exceeds resource limit"), budget) := by
  rw [h]
  exact Fallible.run_bind_of_error (run_charge_of_lt hlt)

/-- Reading an object that succeeds once has a price. -/
lemma costs_of_run {v : o.Answer} {budget budget' : MetadataMaterializationBudget}
    (h : (revalidate src limits o).run budget = (.ok v, budget')) :
    ∃ price, Costs src limits o v price := by
  rcases revalidate_dichotomy src limits o with ⟨e, herror⟩ | ⟨v', price, hcosts⟩
  · rw [herror] at h
    cases h
  · rcases Nat.lt_or_ge budget.limitBytes (budget.chargedBytes + price) with hlt | hle
    · rw [run_of_costs_of_lt hcosts hlt] at h
      cases h
    · rw [run_of_costs_of_le hcosts hle] at h
      cases h
      exact ⟨price, hcosts⟩

/-- What can be read is of the kind of its reference. -/
lemma wellKinded_of_run {v : o.Answer} {budget budget' : MetadataMaterializationBudget}
    (h : (revalidate src limits o).run budget = (.ok v, budget')) :
    o.WellKinded ∧ ¬ o.reference.IsNull := by
  have hread : ∃ bytes, src.readObjectBytesInnerWithLimits o.reference o.kind
      limits.maxEncodedObjectBytes.toNat = .ok bytes := by
    cases o with
    | dictionaryValues reference =>
      obtain ⟨bytes, hbytes, -⟩ := Fallible.run_lift_bind_eq_ok.mp h
      exact ⟨bytes, hbytes⟩
    | keyTuple reference =>
      obtain ⟨bytes, hbytes, -⟩ := Fallible.run_lift_bind_eq_ok.mp h
      exact ⟨bytes, hbytes⟩
  obtain ⟨bytes, hbytes⟩ := hread
  obtain ⟨_, hvalid, -⟩ := bind_eq_ok.mp hbytes
  obtain ⟨hnull, hkind, -⟩ := OcbBodyRefV2.validate_eq_ok.mp hvalid
  exact ⟨hkind, hnull⟩

end Revalidate

/-! ### The references of a cache -/

namespace OcbOpenAuxiliaryObjectCache

variable {cache : OcbOpenAuxiliaryObjectCache}

/-- The references that have been charged. -/
def references (cache : OcbOpenAuxiliaryObjectCache) : List OcbBodyRefV2 :=
  cache.objects.map Prod.fst

/-- The bytes of the distinct references of a list. -/
def distinctBytes (references : List OcbBodyRefV2) : ℕ :=
  (references.dedup.map fun reference => reference.length.toNat).sum

/-- The total is that of the distinct references, and it is within the limit. -/
structure Accounted (cache : OcbOpenAuxiliaryObjectCache) : Prop where
  total_eq : cache.totalUniqueBytes = distinctBytes cache.references
  total_le : cache.totalUniqueBytes ≤
    cache.resourceLimits.maxOwnedSelectedCompressedBytes.toNat

/-- What the cache remembers of an object is what reading it has shown. -/
def Truthful (src : OcbReadSource) (cache : OcbOpenAuxiliaryObjectCache) : Prop :=
  ∀ (o : AuxiliaryObject) (v : o.Answer),
    cache.objects.lookup o.reference = some (o.validated v) →
      ∃ budget budget', (revalidate src cache.resourceLimits o).run budget = (.ok v, budget')

/-- The cache can answer for an object: it remembers it, or it will read it. -/
def Prepared (cache : OcbOpenAuxiliaryObjectCache) (o : AuxiliaryObject) : Prop :=
  cache.objects.lookup o.reference = some .pending ∨
    ∃ v, cache.objects.lookup o.reference = some (o.validated v)

lemma lookup_isSome {r : OcbBodyRefV2} :
    (cache.objects.lookup r).isSome ↔ r ∈ cache.references := by
  rw [List.lookup_isSome_iff, references, List.mem_map]
  constructor
  · rintro ⟨p, hp, hr⟩
    exact ⟨p, hp, (beq_iff_eq.mp hr).symm⟩
  · rintro ⟨p, hp, rfl⟩
    exact ⟨p, hp, beq_self_eq_true _⟩

/-- A truthful cache can answer for every object of the right kind that it knows. -/
lemma prepared_of_truthful {src : OcbReadSource} (h : cache.Truthful src) {o : AuxiliaryObject}
    (hkind : o.WellKinded) (hmem : o.reference ∈ cache.references) : cache.Prepared o := by
  obtain ⟨state, hstate⟩ := Option.isSome_iff_exists.mp (lookup_isSome.mpr hmem)
  have hsame : ∀ (o' : AuxiliaryObject) (v : o'.Answer), o'.reference = o.reference →
      state = o'.validated v → cache.Prepared o := by
    intro o' v href hv
    have hlookup : cache.objects.lookup o'.reference = some (o'.validated v) := by
      rw [href, hstate, hv]
    obtain ⟨budget, budget', hrun⟩ := h o' v hlookup
    obtain rfl := AuxiliaryObject.reference_injective (wellKinded_of_run hrun).1 hkind href
    exact .inr ⟨v, hlookup⟩
  cases state with
  | pending => exact .inl hstate
  | keyTupleValidated => exact hsame (.keyTuple o.reference) () rfl rfl
  | dictionaryValues summary => exact hsame (.dictionaryValues o.reference) summary rfl rfl

/-! What a new state of a known reference changes. -/

section SetState

variable {r r' : OcbBodyRefV2} {state : OcbAuxiliaryObjectState}

@[simp] lemma lookup_setState :
    (cache.setState r state).objects.lookup r' =
      if r' = r then some state else cache.objects.lookup r' := by
  rw [setState, List.lookup_cons]
  by_cases h : r' = r
  · simp [h]
  · rw [if_neg h, beq_eq_false_iff_ne.mpr h]

lemma references_setState : (cache.setState r state).references = r :: cache.references := rfl

lemma mem_references_setState (h : r ∈ cache.references) :
    r' ∈ (cache.setState r state).references ↔ r' ∈ cache.references := by
  rw [references_setState, List.mem_cons]
  exact or_iff_right_of_imp fun heq => heq ▸ h

lemma Accounted.setState (h : cache.Accounted) (hmem : r ∈ cache.references) :
    (cache.setState r state).Accounted where
  total_eq := by
    rw [references_setState, distinctBytes, List.dedup_cons_of_mem hmem]
    exact h.total_eq
  total_le := h.total_le

/-- Remembering what reading an object has shown keeps the cache truthful. -/
lemma Truthful.setState {src : OcbReadSource} (h : cache.Truthful src) {o : AuxiliaryObject}
    {v : o.Answer} {budget budget' : MetadataMaterializationBudget}
    (hrun : (revalidate src cache.resourceLimits o).run budget = (.ok v, budget')) :
    (cache.setState o.reference (o.validated v)).Truthful src := by
  intro o' v' hlookup
  rw [lookup_setState] at hlookup
  split at hlookup
  · rename_i href
    have hstate : o.validated v = o'.validated v' := Option.some.inj hlookup
    obtain rfl : o = o' := by
      cases o <;> cases o' <;> simp_all [AuxiliaryObject.reference, AuxiliaryObject.validated]
    obtain rfl := o.validated_injective hstate
    exact ⟨budget, budget', hrun⟩
  · exact h o' v' hlookup

end SetState

/-! ### Charging -/

section Charge

variable {r : OcbBodyRefV2} {cache' : OcbOpenAuxiliaryObjectCache}

/-- A cache with one more reference, not read yet. -/
def withPending (cache : OcbOpenAuxiliaryObjectCache) (r : OcbBodyRefV2) :
    OcbOpenAuxiliaryObjectCache :=
  { cache with
    objects := (r, .pending) :: cache.objects
    totalUniqueBytes := cache.totalUniqueBytes + r.length.toNat }

/-- The two ways in which the aggregate limit refuses a reference. -/
def IsAggregateLimit (e : ArcadiaTioError) : Prop :=
  e = ocbInvalidInput "OCB open auxiliary-object byte total overflows" ∨
    e = ocbInvalidInput "OCB open auxiliary-object bytes exceed resource limit"

lemma chargeUnique_of_mem (h : r ∈ cache.references) : cache.chargeUnique r = .ok cache := by
  rw [chargeUnique, if_pos (lookup_isSome.mpr h)]

lemma chargeUnique_of_le (h : r ∉ cache.references)
    (hle : cache.totalUniqueBytes + r.length.toNat ≤
      cache.resourceLimits.maxOwnedSelectedCompressedBytes.toNat) :
    cache.chargeUnique r = .ok (cache.withPending r) := by
  have hlimit := cache.resourceLimits.maxOwnedSelectedCompressedBytes.toNat_lt
  rw [chargeUnique, if_neg (mt lookup_isSome.mp h), checkedAdd_of_lt (by omega), okOr_some, ok_bind,
    failIf_neg (by omega), ok_bind]
  rfl

lemma chargeUnique_of_lt (h : r ∉ cache.references)
    (hlt : cache.resourceLimits.maxOwnedSelectedCompressedBytes.toNat <
      cache.totalUniqueBytes + r.length.toNat) :
    ∃ e, IsAggregateLimit e ∧ cache.chargeUnique r = .error e := by
  rw [chargeUnique, if_neg (mt lookup_isSome.mp h)]
  cases hadd : checkedAdd 64 cache.totalUniqueBytes r.length.toNat with
  | none => exact ⟨_, .inl rfl, rfl⟩
  | some total =>
    obtain ⟨rfl, -⟩ := checkedAdd_eq_some.mp hadd
    refine ⟨_, .inr rfl, ?_⟩
    rw [okOr_some, ok_bind, failIf_pos hlt, error_bind]

lemma distinctBytes_cons_of_mem {l : List OcbBodyRefV2} (h : r ∈ l) :
    distinctBytes (r :: l) = distinctBytes l := by
  rw [distinctBytes, List.dedup_cons_of_mem h, distinctBytes]

lemma distinctBytes_cons_of_notMem {l : List OcbBodyRefV2} (h : r ∉ l) :
    distinctBytes (r :: l) = r.length.toNat + distinctBytes l := by
  rw [distinctBytes, List.dedup_cons_of_notMem h, List.map_cons, List.sum_cons, distinctBytes]

/-- More references have no fewer bytes. -/
lemma distinctBytes_le {l l' : List OcbBodyRefV2} (h : ∀ r ∈ l, r ∈ l') :
    distinctBytes l ≤ distinctBytes l' := by
  obtain ⟨l'', hperm, hsub⟩ := List.subperm_of_subset (List.nodup_dedup l)
    fun r hr => List.mem_dedup.mpr (h r (List.mem_dedup.mp hr))
  rw [distinctBytes, distinctBytes, ← (hperm.map fun r => r.length.toNat).sum_eq]
  exact (hsub.map fun r => r.length.toNat).sum_le_sum fun _ _ => Nat.zero_le _

lemma Accounted.withPending (h : cache.Accounted) (hmem : r ∉ cache.references)
    (hle : cache.totalUniqueBytes + r.length.toNat ≤
      cache.resourceLimits.maxOwnedSelectedCompressedBytes.toNat) :
    (cache.withPending r).Accounted where
  total_eq := by
    change cache.totalUniqueBytes + r.length.toNat = distinctBytes (r :: cache.references)
    rw [distinctBytes_cons_of_notMem hmem, h.total_eq, Nat.add_comm]
  total_le := hle

end Charge

/-- A cache after some charges: what it knew it still knows, and the rest is pending. -/
structure Extends (cache cache' : OcbOpenAuxiliaryObjectCache) : Prop where
  resourceLimits_eq : cache'.resourceLimits = cache.resourceLimits
  lookup : ∀ r, cache'.objects.lookup r = cache.objects.lookup r ∨
    cache.objects.lookup r = none ∧ cache'.objects.lookup r = some .pending

section Extends

variable {cache' cache'' : OcbOpenAuxiliaryObjectCache}

lemma Extends.refl (cache : OcbOpenAuxiliaryObjectCache) : cache.Extends cache :=
  ⟨rfl, fun _ => .inl rfl⟩

lemma extends_withPending {r : OcbBodyRefV2} (h : r ∉ cache.references) :
    cache.Extends (cache.withPending r) := by
  refine ⟨rfl, fun r' => ?_⟩
  change List.lookup r' ((r, .pending) :: cache.objects) = _ ∨
    _ ∧ List.lookup r' ((r, .pending) :: cache.objects) = _
  rw [List.lookup_cons]
  by_cases heq : r' = r
  · subst heq
    refine .inr ⟨Option.not_isSome_iff_eq_none.mp (mt lookup_isSome.mp h), ?_⟩
    rw [beq_self_eq_true]
  · rw [beq_eq_false_iff_ne.mpr heq]
    exact .inl rfl

lemma Extends.trans (h : cache.Extends cache') (h' : cache'.Extends cache'') :
    cache.Extends cache'' := by
  refine ⟨h'.resourceLimits_eq.trans h.resourceLimits_eq, fun r => ?_⟩
  rcases h.lookup r with heq | ⟨hnone, hpending⟩ <;>
    rcases h'.lookup r with heq' | ⟨hnone', hpending'⟩
  · exact .inl (heq'.trans heq)
  · exact .inr ⟨heq ▸ hnone', hpending'⟩
  · exact .inr ⟨hnone, heq'.trans hpending⟩
  · rw [hpending] at hnone'
    cases hnone'

/-- Charging adds nothing that the cache claims to have read. -/
lemma Truthful.extends {src : OcbReadSource} (h : cache.Truthful src)
    (hextends : cache.Extends cache') : cache'.Truthful src := by
  intro o v hlookup
  rw [hextends.resourceLimits_eq]
  rcases hextends.lookup o.reference with heq | ⟨-, hpending⟩
  · exact h o v (heq ▸ hlookup)
  · rw [hpending] at hlookup
    cases o <;> simp [AuxiliaryObject.validated] at hlookup

end Extends

end OcbOpenAuxiliaryObjectCache

open OcbOpenAuxiliaryObjectCache

section ChargeAll

variable {x : OcbBodyRefV2} {l : List OcbBodyRefV2} {s : OpenState}

lemma run_chargeAll_cons_of_ok {cache : OcbOpenAuxiliaryObjectCache}
    (h : s.auxiliary.chargeUnique x = .ok cache) :
    (chargeAll (x :: l)).run s = (chargeAll l).run { s with auxiliary := cache } := by
  rw [chargeAll, Fallible.run_bind_of_ok Fallible.run_getState, h]
  rfl

lemma run_chargeAll_cons_of_error {e : ArcadiaTioError}
    (h : s.auxiliary.chargeUnique x = .error e) : (chargeAll (x :: l)).run s = (.error e, s) := by
  rw [chargeAll, Fallible.run_bind_of_ok Fallible.run_getState, h]
  rfl

end ChargeAll

/-- Charging a list of references: it succeeds, and then every one of them is known, or the
distinct references have more bytes than the limit. -/
lemma run_chargeAll (l : List OcbBodyRefV2) (s : OpenState) (hacc : s.auxiliary.Accounted) :
    ∃ r cache, (chargeAll l).run s = (r, { s with auxiliary := cache }) ∧
      s.auxiliary.Extends cache ∧ cache.Accounted ∧
      ((r = .ok () ∧ ∀ x, x ∈ cache.references ↔ x ∈ l ∨ x ∈ s.auxiliary.references) ∨
        ∃ e, r = .error e ∧ IsAggregateLimit e ∧
          s.auxiliary.resourceLimits.maxOwnedSelectedCompressedBytes.toNat <
            distinctBytes (l ++ s.auxiliary.references)) := by
  -- on the list; a reference that is known is not charged again
  induction l generalizing s with
  | nil => exact ⟨.ok (), s.auxiliary, rfl, .refl _, hacc, .inl ⟨rfl, by simp⟩⟩
  | cons x l ih =>
    by_cases hmem : x ∈ s.auxiliary.references
    · have hrun := run_chargeAll_cons_of_ok (l := l) (chargeUnique_of_mem hmem)
      obtain ⟨r, cache, hrest, hextends, hacc', hend⟩ := ih s hacc
      refine ⟨r, cache, hrun.trans hrest, hextends, hacc', hend.imp ?_ ?_⟩
      · rintro ⟨rfl, hiff⟩
        refine ⟨rfl, fun y => (hiff y).trans ?_⟩
        rw [List.mem_cons, or_assoc]
        exact ⟨.inr, fun h => h.elim (fun hy => .inr (hy ▸ hmem)) id⟩
      · rintro ⟨e, rfl, he, hlt⟩
        refine ⟨e, rfl, he, ?_⟩
        rw [List.cons_append, distinctBytes_cons_of_mem (List.mem_append_right _ hmem)]
        exact hlt
    · rcases Nat.lt_or_ge (s.auxiliary.resourceLimits.maxOwnedSelectedCompressedBytes.toNat)
        (s.auxiliary.totalUniqueBytes + x.length.toNat) with hlt | hle
      · obtain ⟨e, he, hcharge⟩ := chargeUnique_of_lt hmem hlt
        refine ⟨.error e, s.auxiliary, run_chargeAll_cons_of_error hcharge, .refl _, hacc,
          .inr ⟨e, rfl, he, ?_⟩⟩
        have hbytes := distinctBytes_cons_of_notMem hmem
        have hmore : distinctBytes (x :: s.auxiliary.references) ≤
            distinctBytes (x :: l ++ s.auxiliary.references) :=
          distinctBytes_le fun y hy => by
            rcases List.mem_cons.mp hy with rfl | hy <;> simp [*]
        have := hacc.total_eq
        omega
      · have hrun := run_chargeAll_cons_of_ok (l := l) (chargeUnique_of_le hmem hle)
        obtain ⟨r, cache, hrest, hextends, hacc', hend⟩ :=
          ih { s with auxiliary := s.auxiliary.withPending x } (hacc.withPending hmem hle)
        refine ⟨r, cache, hrun.trans hrest, (extends_withPending hmem).trans hextends, hacc',
          hend.imp ?_ ?_⟩
        · rintro ⟨rfl, hiff⟩
          refine ⟨rfl, fun y => (hiff y).trans ?_⟩
          change y ∈ l ∨ y ∈ x :: s.auxiliary.references ↔ _
          simp only [List.mem_cons]
          exact or_left_comm.trans or_assoc.symm
        · rintro ⟨e, rfl, he, hlt⟩
          refine ⟨e, rfl, he, hlt.trans_le (distinctBytes_le fun y hy => ?_)⟩
          change y ∈ l ++ x :: s.auxiliary.references at hy
          simp only [List.mem_append, List.mem_cons] at hy ⊢
          exact (or_left_comm.trans or_assoc.symm).mp hy

/-! ### Consulting the cache -/

section Consult

variable {src : OcbReadSource} {o : AuxiliaryObject} {s : OpenState}

variable (src) in
lemma consult_of_validated (hnull : ¬ o.reference.IsNull) {v : o.Answer}
    (h : s.auxiliary.objects.lookup o.reference = some (o.validated v)) :
    (consult src o).run s = (.ok v, s) := by
  cases o with
  | dictionaryValues reference =>
    change (dictionaryValuesSummary src reference).run s = _
    rw [dictionaryValuesSummary, Fallible.run_bind_of_ok Fallible.run_getState]
    change List.lookup reference s.auxiliary.objects = some (.dictionaryValues v) at h
    rw [h]
    rfl
  | keyTuple reference =>
    change ¬ reference.IsNull at hnull
    change (validateKeyTuple src reference).run s = _
    rw [validateKeyTuple, if_neg hnull, Fallible.run_bind_of_ok Fallible.run_getState]
    change List.lookup reference s.auxiliary.objects = some .keyTupleValidated at h
    rw [h]
    rfl

/-- The outcome of reading an object at its first use. -/
def afterReading (s : OpenState) (o : AuxiliaryObject) :
    Result o.Answer × MetadataMaterializationBudget → Result o.Answer × OpenState
  | (.ok v, budget) => (.ok v, ⟨s.auxiliary.setState o.reference (o.validated v), budget⟩)
  | (.error e, budget) => (.error e, ⟨s.auxiliary, budget⟩)

variable (src) in
lemma consult_of_pending (hnull : ¬ o.reference.IsNull)
    (h : s.auxiliary.objects.lookup o.reference = some .pending) :
    (consult src o).run s =
      afterReading s o ((revalidate src s.auxiliary.resourceLimits o).run s.budget) := by
  cases o with
  | dictionaryValues reference =>
    change (dictionaryValuesSummary src reference).run s = _
    rw [dictionaryValuesSummary, Fallible.run_bind_of_ok Fallible.run_getState]
    change List.lookup reference s.auxiliary.objects = some .pending at h
    rw [h]
    dsimp only
    rw [revalidate]
    cases src.readObjectBytesInnerWithLimits reference .dictionaryValues
        s.auxiliary.resourceLimits.maxEncodedObjectBytes.toNat with
    | error e => rfl
    | ok bytes =>
      rw [Fallible.lift_ok_bind, Fallible.lift_ok_bind]
      rcases hvalues : (OcbDictionaryValuesV1.readFromBytesWithBudget bytes).run s.budget with
        ⟨e | values, budget⟩
      · rw [Fallible.run_bind_of_error hvalues,
          Fallible.run_bind_of_error (Opening.run_metered hvalues)]
        rfl
      · rw [Fallible.run_bind_of_ok hvalues,
          Fallible.run_bind_of_ok (Opening.run_metered hvalues)]
        rfl
  | keyTuple reference =>
    change ¬ reference.IsNull at hnull
    change (validateKeyTuple src reference).run s = _
    rw [validateKeyTuple, if_neg hnull, Fallible.run_bind_of_ok Fallible.run_getState]
    change List.lookup reference s.auxiliary.objects = some .pending at h
    rw [h]
    dsimp only
    rw [revalidate]
    cases src.readObjectBytesInnerWithLimits reference .keyTuple
        s.auxiliary.resourceLimits.maxEncodedObjectBytes.toNat with
    | error e => rfl
    | ok bytes => rfl

variable (src) in
/-- An object for which the cache is not prepared is refused. -/
lemma consult_of_not_prepared (hnull : ¬ o.reference.IsNull) (h : ¬ s.auxiliary.Prepared o) :
    ∃ e, (consult src o).run s = (.error e, s) := by
  rw [Prepared, not_or, not_exists] at h
  cases o with
  | dictionaryValues reference =>
    change ∃ e, (dictionaryValuesSummary src reference).run s = (.error e, s)
    rw [dictionaryValuesSummary, Fallible.run_bind_of_ok Fallible.run_getState]
    have hpending : s.auxiliary.objects.lookup reference ≠ some .pending := h.1
    have hknown : ∀ v, s.auxiliary.objects.lookup reference ≠ some (.dictionaryValues v) := h.2
    rcases hlookup : s.auxiliary.objects.lookup reference with _ | _ | _ | v
    · exact ⟨_, rfl⟩
    · exact absurd hlookup hpending
    · exact ⟨_, rfl⟩
    · exact absurd hlookup (hknown v)
  | keyTuple reference =>
    change ¬ reference.IsNull at hnull
    change ∃ e, (validateKeyTuple src reference).run s = (.error e, s)
    rw [validateKeyTuple, if_neg hnull, Fallible.run_bind_of_ok Fallible.run_getState]
    have hpending : s.auxiliary.objects.lookup reference ≠ some .pending := h.1
    have hknown : s.auxiliary.objects.lookup reference ≠ some .keyTupleValidated := h.2 ()
    rcases hlookup : s.auxiliary.objects.lookup reference with _ | _ | _ | v
    · exact ⟨_, rfl⟩
    · exact absurd hlookup hpending
    · exact absurd hlookup hknown
    · exact ⟨_, rfl⟩

/-- What a consultation that succeeds can have done. -/
lemma consult_eq_ok (hnull : ¬ o.reference.IsNull) {v : o.Answer} {t : OpenState}
    (h : (consult src o).run s = (.ok v, t)) :
    (s.auxiliary.objects.lookup o.reference = some (o.validated v) ∧ t = s) ∨
      s.auxiliary.objects.lookup o.reference = some .pending ∧ ∃ budget,
        (revalidate src s.auxiliary.resourceLimits o).run s.budget = (.ok v, budget) ∧
        t = ⟨s.auxiliary.setState o.reference (o.validated v), budget⟩ := by
  by_cases hprepared : s.auxiliary.Prepared o
  · rcases hprepared with hpending | ⟨v', hv'⟩
    · rw [consult_of_pending src hnull hpending] at h
      rcases hread : (revalidate src s.auxiliary.resourceLimits o).run s.budget with
        ⟨e | v', budget⟩
      · rw [hread] at h
        cases h
      · rw [hread] at h
        cases h
        exact .inr ⟨hpending, budget, rfl, rfl⟩
    · rw [consult_of_validated src hnull hv'] at h
      cases h
      exact .inl ⟨hv', rfl⟩
  · obtain ⟨e, he⟩ := consult_of_not_prepared src hnull hprepared
    rw [he] at h
    cases h

/-- A consultation that fails leaves the cache as it is. -/
lemma auxiliary_of_consult_error (hnull : ¬ o.reference.IsNull) {e : ArcadiaTioError}
    {t : OpenState} (h : (consult src o).run s = (.error e, t)) : t.auxiliary = s.auxiliary := by
  by_cases hprepared : s.auxiliary.Prepared o
  · rcases hprepared with hpending | ⟨v', hv'⟩
    · rw [consult_of_pending src hnull hpending] at h
      rcases hread : (revalidate src s.auxiliary.resourceLimits o).run s.budget with
        ⟨e' | v', budget⟩
      · rw [hread] at h
        cases h
        rfl
      · rw [hread] at h
        cases h
    · rw [consult_of_validated src hnull hv'] at h
      cases h
  · obtain ⟨e, he⟩ := consult_of_not_prepared src hnull hprepared
    rw [he] at h
    cases h
    rfl

end Consult

end ArcadiaTio.Ocb
