import ArcadiaTio.Ocb.Format.Metering
import ArcadiaTio.Ocb.Read.Objects

/-!
# Laying a delta over the base tables, in place

The reader applies a row-group index delta to metadata that it already holds: it checks the
delta, charges the budget, reserves room in the four tables and only then moves the records.  This
file keeps the metadata and the budget in the state, takes the allocator as a parameter, and shows
that the statements together are one atomic step.
-/

namespace ArcadiaTio.Ocb

open ArcadiaTio.Lib

/-- The metadata that a delta is applied to, and the budget of the open. -/
structure DeltaState where
  metadata : OcbMetadataV1
  budget : MetadataMaterializationBudget

/-- A statement that updates metadata in place. -/
abbrev InPlace := Fallible ArcadiaTioError DeltaState

namespace InPlace

/-- A statement about the budget alone. -/
def onBudget {α : Type} (x : Metered α) : InPlace α :=
  ⟨fun s => ((x.run s.budget).1, { s with budget := (x.run s.budget).2 })⟩

/-- A statement that only reads the metadata. -/
def check {α : Type} (f : OcbMetadataV1 → Result α) : InPlace α := ⟨fun s => (f s.metadata, s)⟩

/-- An update of the metadata. -/
def modifyMetadata (f : OcbMetadataV1 → OcbMetadataV1) : InPlace Unit :=
  ⟨fun s => (.ok (), { s with metadata := f s.metadata })⟩

@[simp] lemma run_onBudget {α : Type} (x : Metered α) (s : DeltaState) :
    (onBudget x).run s = ((x.run s.budget).1, { s with budget := (x.run s.budget).2 }) := rfl

@[simp] lemma run_check {α : Type} (f : OcbMetadataV1 → Result α) (s : DeltaState) :
    (check f).run s = (f s.metadata, s) := rfl

@[simp] lemma run_modifyMetadata (f : OcbMetadataV1 → OcbMetadataV1) (s : DeltaState) :
    (modifyMetadata f).run s = (.ok (), { s with metadata := f s.metadata }) := rfl

end InPlace

/-! ### The source's statements -/

/-- The error of a reservation that fails although the limits allow it. -/
def rowGroupIndexDeltaAllocationError : ArcadiaTioError :=
  .io "OCB row-group index delta allocation failed within resource limit"

/-- Reserve room for some records; the allocator says whether there is any. -/
def tryReserveExact (granted : Bool) : InPlace Unit :=
  if granted then return () else Fallible.fail rowGroupIndexDeltaAllocationError

/-- The answers of the allocator to the four reservations. -/
structure Reservations where
  rowGroups : Bool
  columnChunks : Bool
  stats : Bool
  rowGroupProofs : Bool

/-- Every reservation is granted. -/
def Reservations.granted : Reservations := ⟨true, true, true, true⟩

/-- Add the proofs of row groups. -/
def extendRowGroupProofs (records : List OcbRowGroupOrderingProofV1) (m : OcbMetadataV1) :
    OcbMetadataV1 :=
  { m with orderingProof := m.orderingProof.map fun proof =>
      { proof with rowGroupProofs := proof.rowGroupProofs ++ records } }

/-- Add row groups. -/
def extendRowGroups (records : List OcbRowGroupDescV1) (m : OcbMetadataV1) : OcbMetadataV1 :=
  { m with rowGroupIndex := { m.rowGroupIndex with
      rowGroups := m.rowGroupIndex.rowGroups ++ records } }

/-- Add column chunks. -/
def extendColumnChunks (records : List OcbColumnChunkDescV1) (m : OcbMetadataV1) :
    OcbMetadataV1 :=
  { m with rowGroupIndex := { m.rowGroupIndex with
      columnChunks := m.rowGroupIndex.columnChunks ++ records } }

/-- Add statistics. -/
def extendStats (records : List OcbColumnStatsV1) (m : OcbMetadataV1) : OcbMetadataV1 :=
  { m with rowGroupIndex := { m.rowGroupIndex with
      stats := m.rowGroupIndex.stats ++ records } }

/-- Move the records of a delta behind those of the base, the ordering proofs first. -/
def moveRecords (delta : OcbRowGroupIndexDeltaV1) (target : Option OcbOrderingProofV1) :
    InPlace Unit := do
  if target.isSome then
    InPlace.modifyMetadata (extendRowGroupProofs delta.rowGroupOrderingProofs)
  InPlace.modifyMetadata (extendRowGroups delta.rowGroups)
  InPlace.modifyMetadata (extendColumnChunks delta.columnChunks)
  InPlace.modifyMetadata (extendStats delta.stats)

/-- Apply a delta to metadata where they are. -/
def applyRowGroupIndexDeltaInPlace (reservations : Reservations)
    (delta : OcbRowGroupIndexDeltaV1) : InPlace Unit := do
  let (target, bytes) ← InPlace.check fun m => checkRowGroupIndexDelta m delta
  InPlace.onBudget (MetadataMaterializationBudget.charge bytes)
  tryReserveExact reservations.rowGroups
  tryReserveExact reservations.columnChunks
  tryReserveExact reservations.stats
  if target.isSome then tryReserveExact reservations.rowGroupProofs
  moveRecords delta target

/-! ### What a delta must match, and what it adds -/

/-- The ordering records of a delta continue those of the base: there are none and the delta
says so, or there is one for each added row group and the base has a proof over the same keys
for each of its own. -/
def MatchesOrdering (orderingProof : Option OcbOrderingProofV1)
    (delta : OcbRowGroupIndexDeltaV1) : Prop :=
  if delta.rowGroupOrderingProofs = [] then
    delta.baseOrderingProofCount = 0 ∧ delta.orderingKeys = []
  else
    delta.baseOrderingProofCount = delta.baseRowGroupCount ∧
      delta.rowGroupOrderingProofs.length = delta.rowGroups.length ∧
      ∃ proof, orderingProof = some proof ∧
        proof.rowGroupProofs.length = delta.baseOrderingProofCount.toNat ∧
        proof.keys = delta.orderingKeys

/-- A delta was written for these base tables. -/
structure MatchesBase (m : OcbMetadataV1) (delta : OcbRowGroupIndexDeltaV1) : Prop where
  rowGroups : m.rowGroupIndex.rowGroups.length = delta.baseRowGroupCount.toNat
  columnChunks : m.rowGroupIndex.columnChunks.length = delta.baseColumnChunkCount.toNat
  stats : m.rowGroupIndex.stats.length = delta.baseStatCount.toNat
  flags : delta.flags = m.rowGroupIndex.flags
  ordering : MatchesOrdering m.orderingProof delta

/-- The bytes of the records that a delta adds. -/
def extensionBytes (delta : OcbRowGroupIndexDeltaV1) : ℕ :=
  delta.rowGroups.length * OcbRowGroupDescV1.memBytes +
    delta.columnChunks.length * OcbColumnChunkDescV1.len +
    delta.stats.length * OcbColumnStatsV1.len +
    delta.rowGroupOrderingProofs.length * OcbRowGroupOrderingProofV1.len

/-- The base tables followed by the records of a delta, and nothing else changed. -/
structure LaidOver (m : OcbMetadataV1) (delta : OcbRowGroupIndexDeltaV1) (m' : OcbMetadataV1) :
    Prop where
  rowGroups : m'.rowGroupIndex.rowGroups = m.rowGroupIndex.rowGroups ++ delta.rowGroups
  columnChunks : m'.rowGroupIndex.columnChunks =
    m.rowGroupIndex.columnChunks ++ delta.columnChunks
  stats : m'.rowGroupIndex.stats = m.rowGroupIndex.stats ++ delta.stats
  rowGroupProofs : m'.rowGroupProofs = m.rowGroupProofs ++ delta.rowGroupOrderingProofs
  /-- Every field but the four tables. -/
  frame : { m' with
      rowGroupIndex := { m'.rowGroupIndex with
        rowGroups := m.rowGroupIndex.rowGroups
        columnChunks := m.rowGroupIndex.columnChunks
        stats := m.rowGroupIndex.stats }
      orderingProof := m'.orderingProof.map fun proof =>
        { proof with rowGroupProofs := m.rowGroupProofs } } = m

/-! ### The checks -/

section Checks

variable {m : OcbMetadataV1} {delta : OcbRowGroupIndexDeltaV1} {bytes : ℕ}
  {target orderingProof : Option OcbOrderingProofV1}

/-- The ordering proof that a delta with ordering records extends is that of the base. -/
lemma deltaTargetOrderingProof_eq_ok :
    deltaTargetOrderingProof orderingProof delta = .ok target ↔
      MatchesOrdering orderingProof delta ∧
        target = if delta.rowGroupOrderingProofs = [] then none else orderingProof := by
  rw [deltaTargetOrderingProof, MatchesOrdering]
  by_cases hnil : delta.rowGroupOrderingProofs = []
  · simp only [if_pos hnil, bind_eq_ok, failIf_eq_ok, pure_eq_ok, Except.ok.injEq]
    constructor
    · rintro ⟨_, hnone, rfl⟩
      push Not at hnone
      exact ⟨hnone, rfl⟩
    · rintro ⟨⟨hcount, hkeys⟩, rfl⟩
      exact ⟨(), by simp [hcount, hkeys], rfl⟩
  · simp only [if_neg hnil, bind_eq_ok, failIf_eq_ok, okOr_eq_ok, pure_eq_ok, Except.ok.injEq]
    constructor
    · rintro ⟨_, hpartition, proof, rfl, _, hcount, _, hkeys, rfl⟩
      push Not at hpartition hcount hkeys
      exact ⟨⟨hpartition.1, hpartition.2, proof, rfl, hcount, hkeys⟩, rfl⟩
    · rintro ⟨⟨hcount, hlength, proof, rfl, hproofs, hkeys⟩, rfl⟩
      exact ⟨(), by simp [hcount, hlength], proof, rfl, (), by simpa using hproofs, (),
        by simpa using hkeys, rfl⟩

lemma rowGroupIndexDeltaDestinationExtensionBytes_eq_ok
    (h : rowGroupIndexDeltaDestinationExtensionBytes delta = .ok bytes) :
    bytes = extensionBytes delta := by
  obtain ⟨rowGroupBytes, hrowGroups, h⟩ := bind_eq_ok.mp h
  obtain ⟨columnChunkBytes, hcolumnChunks, h⟩ := bind_eq_ok.mp h
  obtain ⟨statBytes, hstats, h⟩ := bind_eq_ok.mp h
  obtain ⟨proofBytes, hproofs, h⟩ := bind_eq_ok.mp h
  simp only [okOr_eq_ok, checkedMul_eq_some] at hrowGroups hcolumnChunks hstats hproofs
  simp only [List.foldlM_cons, List.foldlM_nil, bind_eq_ok, okOr_eq_ok, checkedAdd_eq_some,
    pure_eq_ok, Except.ok.injEq] at h
  obtain ⟨_, ⟨rfl, -⟩, _, ⟨rfl, -⟩, _, ⟨rfl, -⟩, _, ⟨rfl, -⟩, rfl⟩ := h
  rw [extensionBytes, hrowGroups.1, hcolumnChunks.1, hstats.1, hproofs.1]
  omega

/-- What a delta that passes the checks is known to be. -/
lemma checkRowGroupIndexDelta_eq_ok (h : checkRowGroupIndexDelta m delta = .ok (target, bytes)) :
    MatchesBase m delta ∧ bytes = extensionBytes delta ∧
      target = if delta.rowGroupOrderingProofs = [] then none else m.orderingProof := by
  obtain ⟨_, hcounts, h⟩ := bind_eq_ok.mp h
  obtain ⟨_, hflags, h⟩ := bind_eq_ok.mp h
  obtain ⟨target', htarget, h⟩ := bind_eq_ok.mp h
  obtain ⟨_, -, h⟩ := bind_eq_ok.mp h
  obtain ⟨_, -, h⟩ := bind_eq_ok.mp h
  obtain ⟨_, -, h⟩ := bind_eq_ok.mp h
  obtain ⟨_, -, h⟩ := bind_eq_ok.mp h
  obtain ⟨bytes', hbytes, h⟩ := bind_eq_ok.mp h
  cases h
  obtain ⟨hordering, rfl⟩ := deltaTargetOrderingProof_eq_ok.mp htarget
  rw [failIf_eq_ok] at hcounts hflags
  push Not at hcounts hflags
  exact ⟨⟨hcounts.1, hcounts.2.1, hcounts.2.2, hflags, hordering⟩,
    rowGroupIndexDeltaDestinationExtensionBytes_eq_ok hbytes, rfl⟩

lemma errorsIn_checkedDeltaDestinationLen (base additional : ℕ) :
    ErrorsIn ArcadiaTioError.IsCorrupt (checkedDeltaDestinationLen base additional) :=
  .bind (.okOr rfl) fun _ _ => .ok _

lemma errorsIn_deltaTargetOrderingProof :
    ErrorsIn ArcadiaTioError.IsCorrupt (deltaTargetOrderingProof orderingProof delta) := by
  rw [deltaTargetOrderingProof]
  split
  · exact .bind (.failIf fun _ => rfl) fun _ _ => .ok _
  · refine .bind (.failIf fun _ => rfl) fun _ _ => .bind (.okOr rfl) fun _ _ => ?_
    exact .bind (.failIf fun _ => rfl) fun _ _ => .bind (.failIf fun _ => rfl) fun _ _ => .ok _

lemma errorsIn_rowGroupIndexDeltaDestinationExtensionBytes :
    ErrorsIn ArcadiaTioError.IsCorrupt (rowGroupIndexDeltaDestinationExtensionBytes delta) := by
  have hpart (itemBytes count : ℕ) : ErrorsIn ArcadiaTioError.IsCorrupt
      (okOr (checkedMul 64 count itemBytes)
        (ocbCorruptFile "OCB row-group index delta destination size overflows")) := .okOr rfl
  refine .bind (hpart _ _) fun _ _ => .bind (hpart _ _) fun _ _ => .bind (hpart _ _) fun _ _ =>
    .bind (hpart _ _) fun _ _ => ?_
  simp only [List.foldlM_cons, List.foldlM_nil]
  exact .bind (.okOr rfl) fun _ _ => .bind (.okOr rfl) fun _ _ => .bind (.okOr rfl) fun _ _ =>
    .bind (.okOr rfl) fun _ _ => .ok _

/-- The checks blame the file, never the caller. -/
lemma errorsIn_checkRowGroupIndexDelta (m : OcbMetadataV1) (delta : OcbRowGroupIndexDeltaV1) :
    ErrorsIn ArcadiaTioError.IsCorrupt (checkRowGroupIndexDelta m delta) := by
  refine .bind (.failIf fun _ => rfl) fun _ _ => .bind (.failIf fun _ => rfl) fun _ _ => ?_
  refine .bind errorsIn_deltaTargetOrderingProof fun target _ => ?_
  refine .bind (errorsIn_checkedDeltaDestinationLen _ _) fun _ _ => ?_
  refine .bind (errorsIn_checkedDeltaDestinationLen _ _) fun _ _ => ?_
  refine .bind (errorsIn_checkedDeltaDestinationLen _ _) fun _ _ => ?_
  refine .bind ?_ fun _ _ => ?_
  · cases target with
    | none => exact .ok _
    | some proof => exact errorsIn_checkedDeltaDestinationLen _ _
  · exact .bind errorsIn_rowGroupIndexDeltaDestinationExtensionBytes fun _ _ => .ok _

end Checks

/-! ### One statement after the other -/

section Statements

variable {m : OcbMetadataV1} {delta : OcbRowGroupIndexDeltaV1} {s s' : DeltaState}
  {target : Option OcbOrderingProofV1} {e : ArcadiaTioError}

/-- A reservation changes nothing, and fails only for want of memory. -/
lemma run_tryReserveExact (granted : Bool) (s : DeltaState) :
    (tryReserveExact granted).run s =
      (if granted then .ok () else .error rowGroupIndexDeltaAllocationError, s) := by
  cases granted <;> rfl

/-- Moving the records lays the delta over the base. -/
lemma run_moveRecords (s : DeltaState)
    (htarget : target = if delta.rowGroupOrderingProofs = [] then none
      else s.metadata.orderingProof) :
    (moveRecords delta target).run s =
      (.ok (), { s with metadata := extendWithDelta s.metadata delta target }) := by
  rw [moveRecords]
  cases target with
  | none =>
    simp only [Option.isSome_none, Bool.false_eq_true, if_false, Fallible.run_bind,
      InPlace.run_modifyMetadata, Fallible.andThen_ok, extendRowGroups, extendColumnChunks,
      extendStats, extendWithDelta]
  | some proof =>
    have hproof : s.metadata.orderingProof = some proof := by
      split at htarget
      · cases htarget
      · exact htarget.symm
    simp only [Option.isSome_some, if_true, Fallible.run_bind, InPlace.run_modifyMetadata,
      Fallible.andThen_ok, extendRowGroupProofs, extendRowGroups, extendColumnChunks, extendStats,
      extendWithDelta, hproof, Option.map_some]

/-- Without records of its own for it, a delta leaves the ordering proof alone. -/
lemma laidOver_extendWithDelta
    (htarget : target = if delta.rowGroupOrderingProofs = [] then none else m.orderingProof)
    (hordering : MatchesOrdering m.orderingProof delta) :
    LaidOver m delta (extendWithDelta m delta target) := by
  have hproofs : (extendWithDelta m delta target).rowGroupProofs =
        m.rowGroupProofs ++ delta.rowGroupOrderingProofs ∧
      (extendWithDelta m delta target).orderingProof.map (fun proof =>
        { proof with rowGroupProofs := m.rowGroupProofs }) = m.orderingProof := by
    unfold OcbMetadataV1.rowGroupProofs extendWithDelta
    by_cases hnil : delta.rowGroupOrderingProofs = []
    · rw [if_pos hnil] at htarget
      subst htarget
      cases m.orderingProof with
      | none => simp [hnil]
      | some proof => simp [hnil]
    · rw [if_neg hnil] at htarget
      rw [MatchesOrdering, if_neg hnil] at hordering
      obtain ⟨-, -, proof, hproof, -⟩ := hordering
      rw [hproof] at htarget
      subst htarget
      simp [hproof]
  refine ⟨rfl, rfl, rfl, hproofs.1, ?_⟩
  rw [hproofs.2]
  rfl

/-- Whatever the checks refuse is refused before anything is charged. -/
lemma run_apply_of_check_error (reservations : Reservations)
    (h : checkRowGroupIndexDelta s.metadata delta = .error e) :
    (applyRowGroupIndexDeltaInPlace reservations delta).run s = (.error e, s) := by
  refine Fallible.run_bind_of_error ?_
  rw [InPlace.run_check, h]

/-- A delta beyond the budget is refused before anything is reserved. -/
lemma run_apply_of_lt (reservations : Reservations) {bytes : ℕ}
    (h : checkRowGroupIndexDelta s.metadata delta = .ok (target, bytes))
    (hlt : s.budget.limitBytes < s.budget.chargedBytes + bytes) :
    (applyRowGroupIndexDeltaInPlace reservations delta).run s =
      (.error (ocbInvalidInput "OCB open metadata materialization exceeds resource limit"), s) := by
  have hcheck : (InPlace.check fun m => checkRowGroupIndexDelta m delta).run s =
      (.ok (target, bytes), s) := by rw [InPlace.run_check, h]
  rw [applyRowGroupIndexDeltaInPlace, Fallible.run_bind_of_ok hcheck]
  refine Fallible.run_bind_of_error ?_
  rw [InPlace.run_onBudget, run_charge_of_lt hlt]

/-- The reservations between the charge and the moves change nothing. -/
lemma run_reservations (reservations : Reservations) (s : DeltaState) (rest : InPlace Unit) :
    (do
      tryReserveExact reservations.rowGroups
      tryReserveExact reservations.columnChunks
      tryReserveExact reservations.stats
      if target.isSome then tryReserveExact reservations.rowGroupProofs
      rest : InPlace Unit).run s =
      if reservations.rowGroups ∧ reservations.columnChunks ∧ reservations.stats ∧
          (target.isSome → reservations.rowGroupProofs) then rest.run s
      else (.error rowGroupIndexDeltaAllocationError, s) := by
  obtain ⟨rowGroups, columnChunks, stats, rowGroupProofs⟩ := reservations
  cases rowGroups with
  | false => simp [Fallible.run_bind, run_tryReserveExact]
  | true =>
    cases columnChunks with
    | false => simp [Fallible.run_bind, run_tryReserveExact]
    | true =>
      cases stats with
      | false => simp [Fallible.run_bind, run_tryReserveExact]
      | true =>
        cases target with
        | none => simp [Fallible.run_bind, run_tryReserveExact]
        | some proof => cases rowGroupProofs <;> simp [Fallible.run_bind, run_tryReserveExact]

/-- A delta within the budget is charged, and then applied as far as memory allows. -/
lemma run_apply_of_le (reservations : Reservations) {bytes : ℕ}
    (h : checkRowGroupIndexDelta s.metadata delta = .ok (target, bytes))
    (hle : s.budget.chargedBytes + bytes ≤ s.budget.limitBytes) :
    (applyRowGroupIndexDeltaInPlace reservations delta).run s =
      let charged := { s.budget with
        chargedBytes := s.budget.chargedBytes + bytes, charged_le := hle }
      if reservations.rowGroups ∧ reservations.columnChunks ∧ reservations.stats ∧
          (target.isSome → reservations.rowGroupProofs) then
        (.ok (), ⟨extendWithDelta s.metadata delta target, charged⟩)
      else (.error rowGroupIndexDeltaAllocationError, ⟨s.metadata, charged⟩) := by
  have hcheck : (InPlace.check fun m => checkRowGroupIndexDelta m delta).run s =
      (.ok (target, bytes), s) := by rw [InPlace.run_check, h]
  have hcharge : (InPlace.onBudget (MetadataMaterializationBudget.charge bytes)).run s =
      (.ok (), ⟨s.metadata, { s.budget with
        chargedBytes := s.budget.chargedBytes + bytes, charged_le := hle }⟩) := by
    rw [InPlace.run_onBudget, run_charge_of_le hle]
  have hmove (b : MetadataMaterializationBudget) : (moveRecords delta target).run ⟨s.metadata, b⟩ =
      (.ok (), ⟨extendWithDelta s.metadata delta target, b⟩) :=
    run_moveRecords ⟨s.metadata, b⟩ (checkRowGroupIndexDelta_eq_ok h).2.2
  rw [applyRowGroupIndexDeltaInPlace, Fallible.run_bind_of_ok hcheck]
  dsimp only
  rw [Fallible.run_bind_of_ok hcharge, run_reservations, hmove]

end Statements

/-! ### One atomic step -/

/-- The three ends of an application: a delta that the checks refuse, one that the budget refuses,
and one that is charged. -/
lemma apply_cases (delta : OcbRowGroupIndexDeltaV1) (s : DeltaState) :
    (∃ e, checkRowGroupIndexDelta s.metadata delta = .error e ∧ e.IsCorrupt) ∨
    (∃ target, checkRowGroupIndexDelta s.metadata delta = .ok (target, extensionBytes delta) ∧
      s.budget.limitBytes < s.budget.chargedBytes + extensionBytes delta) ∨
    ∃ target, checkRowGroupIndexDelta s.metadata delta = .ok (target, extensionBytes delta) ∧
      s.budget.chargedBytes + extensionBytes delta ≤ s.budget.limitBytes := by
  cases hcheck : checkRowGroupIndexDelta s.metadata delta with
  | error e => exact .inl ⟨e, rfl, errorsIn_checkRowGroupIndexDelta _ _ e hcheck⟩
  | ok result =>
    obtain ⟨target, bytes⟩ := result
    obtain rfl := (checkRowGroupIndexDelta_eq_ok hcheck).2.1
    rcases Nat.lt_or_ge s.budget.limitBytes (s.budget.chargedBytes + extensionBytes delta) with
      hlt | hle
    · exact .inr (.inl ⟨target, rfl, hlt⟩)
    · exact .inr (.inr ⟨target, rfl, hle⟩)

/-- The value that opening a file computes with is what the statements leave behind, when the
allocator grants what they reserve. -/
lemma applyInPlace_refines_apply (delta : OcbRowGroupIndexDeltaV1) (s : DeltaState) :
    (applyRowGroupIndexDeltaInPlace .granted delta).run s =
      match (applyRowGroupIndexDelta s.metadata delta).run s.budget with
      | (.ok m, b) => (.ok (), ⟨m, b⟩)
      | (.error e, b) => (.error e, ⟨s.metadata, b⟩) := by
  rcases apply_cases delta s with ⟨e, hcheck, -⟩ | ⟨target, hcheck, hlt⟩ | ⟨target, hcheck, hle⟩
  · rw [run_apply_of_check_error _ hcheck, applyRowGroupIndexDelta, hcheck]
    rfl
  · rw [run_apply_of_lt _ hcheck hlt, applyRowGroupIndexDelta, hcheck, Fallible.lift_ok_bind]
    dsimp only
    rw [Fallible.run_bind_of_error (run_charge_of_lt hlt)]
  · rw [run_apply_of_le _ hcheck hle, applyRowGroupIndexDelta, hcheck, Fallible.lift_ok_bind]
    dsimp only
    rw [Fallible.run_bind_of_ok (run_charge_of_le hle), if_pos ⟨rfl, rfl, rfl, fun _ => rfl⟩,
      Fallible.run_pure]

/-- An application that returns has laid the delta over the base and charged exactly what it adds.
One that fails, for any reason but want of memory, has changed nothing; and a delta that was not
written for the base is refused as corrupt whatever the budget is. -/
theorem applyRowGroupIndexDelta_atomic (reservations : Reservations)
    (delta : OcbRowGroupIndexDeltaV1) (s : DeltaState) :
    (∀ s', (applyRowGroupIndexDeltaInPlace reservations delta).run s = (.ok (), s') →
      LaidOver s.metadata delta s'.metadata ∧
        s'.budget.chargedBytes = s.budget.chargedBytes + extensionBytes delta ∧
        s'.budget.limitBytes = s.budget.limitBytes) ∧
    (∀ e s', (applyRowGroupIndexDeltaInPlace reservations delta).run s = (.error e, s') →
      e ≠ rowGroupIndexDeltaAllocationError → s' = s) ∧
    (¬ MatchesBase s.metadata delta → ∃ e,
      (applyRowGroupIndexDeltaInPlace reservations delta).run s = (.error e, s) ∧
        e.IsCorrupt) := by
  rcases apply_cases delta s with ⟨e, hcheck, hcorrupt⟩ | ⟨target, hcheck, hlt⟩ |
    ⟨target, hcheck, hle⟩
  · have hrun := run_apply_of_check_error reservations hcheck
    rw [hrun]
    refine ⟨fun s' h => ?_, fun e' s' h _ => ?_, fun _ => ⟨e, rfl, hcorrupt⟩⟩
    · cases h
    · cases h
      rfl
  · have hrun := run_apply_of_lt reservations hcheck hlt
    rw [hrun]
    refine ⟨fun s' h => ?_, fun e' s' h _ => ?_, fun hmatch => ?_⟩
    · cases h
    · cases h
      rfl
    · exact absurd (checkRowGroupIndexDelta_eq_ok hcheck).1 hmatch
  · obtain ⟨hmatch, -, htarget⟩ := checkRowGroupIndexDelta_eq_ok hcheck
    rw [run_apply_of_le reservations hcheck hle]
    refine ⟨fun s' h => ?_, fun e' s' h hmemory => ?_, fun hnot => absurd hmatch hnot⟩
    · split at h
      · cases h
        exact ⟨laidOver_extendWithDelta htarget hmatch.ordering, rfl, rfl⟩
      · cases h
    · split at h
      · cases h
      · cases h
        exact absurd rfl hmemory

end ArcadiaTio.Ocb
