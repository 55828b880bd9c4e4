import ArcadiaTio.Ocb.Format.Metering
import ArcadiaTio.Ocb.Read.SelectExact

/-!
# The references of a slot and of its root

A slot and its root hold thirteen references.  This file follows each of them through the checks of
`decodeV2Candidate`: a range outside the file is a corruption, which discards the slot
(`TurnedDown`), but a wrong kind in the root or in the diagnostics of the slot is reported as an
invalid input; a reference of length zero passes every check (`PassesChecks`).
-/

namespace ArcadiaTio.Ocb

open ArcadiaTio.Lib

/-! ### The references of a slot and of a root -/

/-- A reference field: what it holds, the kinds it may hold, and whether it may be null. -/
structure RefField where
  reference : OcbBodyRefV2
  kinds : List OcbBodyKindV1
  optional : Bool

namespace RefField

/-- The field is one that may be null, and it is. -/
def Absent (f : RefField) : Prop := f.optional = true ∧ f.reference.IsNull

/-- The kind of the reference is one that the field may hold. -/
def KindOk (f : RefField) : Prop := f.Absent ∨ f.reference.kind ∈ f.kinds

/-- The range of the reference lies inside the file. -/
def RangeOk (f : RefField) (fileLen : ℕ) : Prop := f.Absent ∨ f.reference.InRange fileLen

/-- The field holds a reference of length zero. -/
def Empty (f : RefField) : Prop := ¬ f.Absent ∧ f.reference.length = 0

/-- The field holds a reference of a wrong kind, of length zero, or outside the file. -/
def Malformed (f : RefField) (fileLen : ℕ) : Prop :=
  ¬ f.Absent ∧ (f.reference.kind ∉ f.kinds ∨ f.reference.length = 0 ∨
    ¬ f.reference.InRange fileLen)

instance (f : RefField) : Decidable f.Absent := inferInstanceAs (Decidable (_ ∧ _))
instance (f : RefField) : Decidable f.KindOk := inferInstanceAs (Decidable (_ ∨ _))
instance (f : RefField) (n : ℕ) : Decidable (f.RangeOk n) := inferInstanceAs (Decidable (_ ∨ _))
instance (f : RefField) (n : ℕ) : Decidable (f.Malformed n) := inferInstanceAs (Decidable (_ ∧ _))

end RefField

/-- The reference fields of a root, in the order in which they are checked. -/
def OcbRootV2.refFields (r : OcbRootV2) : List RefField :=
  [⟨r.schemaRef, [.schema], false⟩, ⟨r.rowGroupIndexRef, [.rowGroupIndex], false⟩,
    ⟨r.dictionaryIndexRef, [.dictionaryIndex], true⟩, ⟨r.orderingProofRef, [.orderingProof], true⟩,
    ⟨r.debugJsonRef, [.debugJsonMetadata], true⟩, ⟨r.firstKeyTupleRef, [.keyTuple], true⟩,
    ⟨r.lastKeyTupleRef, [.keyTuple], true⟩, ⟨r.appendFirstKeyTupleRef, [.keyTuple], true⟩,
    ⟨r.appendLastKeyTupleRef, [.keyTuple], true⟩,
    ⟨r.commitDiagnosticsRef, [.debugJsonMetadata, .rowGroupIndexDelta], true⟩,
    ⟨r.previousRootRef, [.root], true⟩]

/-- The reference fields of a root whose objects are decoded when its metadata are read. -/
def OcbRootV2.decodedFields (r : OcbRootV2) : List RefField :=
  [⟨r.schemaRef, [.schema], false⟩, ⟨r.dictionaryIndexRef, [.dictionaryIndex], true⟩,
    ⟨r.rowGroupIndexRef, [.rowGroupIndex], false⟩, ⟨r.orderingProofRef, [.orderingProof], true⟩] ++
  if r.commitDiagnosticsRef.kind = .rowGroupIndexDelta then
    [⟨r.commitDiagnosticsRef, [.rowGroupIndexDelta], false⟩]
  else []

/-- The previous root that a slot names. -/
def OcbRootSlotV2.previousRootField (s : OcbRootSlotV2) : RefField :=
  ⟨s.previousRootRef, [.root], true⟩

/-- The commit diagnostics that a slot names. -/
def OcbRootSlotV2.diagnosticsField (s : OcbRootSlotV2) : RefField :=
  ⟨s.commitDiagnosticsRef, [.debugJsonMetadata, .rowGroupIndexDelta], true⟩

/-! ### The outcome of each check -/

lemma validateOptionalRefKinds_eq_ok {r : OcbBodyRefV2} {kinds : List OcbBodyKindV1} {msg : String}
    {u : Unit} :
    validateOptionalRefKinds r kinds msg = .ok u ↔ (RefField.mk r kinds true).KindOk := by
  simp only [validateOptionalRefKinds, failIf_eq_ok, not_not, RefField.KindOk, RefField.Absent,
    true_and]

lemma validateRefKinds_eq_ok {r : OcbRootV2} {u : Unit} :
    r.validateRefKinds = .ok u ↔ ∀ f ∈ r.refFields, f.KindOk := by
  simp only [OcbRootV2.validateRefKinds, bind_eq_ok, failIf_eq_ok, validateOptionalRefKind,
    validateOptionalRefKinds_eq_ok, OcbRootV2.refFields, List.forall_mem_cons, List.not_mem_nil]
  simp [RefField.KindOk, RefField.Absent]

/-- The kind check of a root reports no corruption. -/
lemma validateRefKinds_errors (r : OcbRootV2) :
    ErrorsIn (fun e => ¬ e.IsCorrupt) r.validateRefKinds := by
  have hrequired : ∀ (c : Prop) [Decidable c] msg,
      ErrorsIn (fun e => ¬ ArcadiaTioError.IsCorrupt e) (failIf c (ocbInvalidInput msg)) :=
    fun _ _ _ => .failIf fun _ => by simp
  rw [OcbRootV2.validateRefKinds]
  simp only [validateOptionalRefKind, validateOptionalRefKinds]
  repeat' first | exact hrequired _ _ | refine .bind (hrequired _ _) fun _ _ => ?_

lemma validateOptionalRefAnyKind_eq_ok {r : OcbBodyRefV2} {kinds : List OcbBodyKindV1}
    {fileLen : ℕ} {u : Unit} : validateOptionalRefAnyKind r kinds fileLen = .ok u ↔
      (RefField.mk r kinds true).KindOk ∧ (RefField.mk r kinds true).RangeOk fileLen := by
  simp only [RefField.KindOk, RefField.RangeOk, RefField.Absent, true_and]
  by_cases hnull : r.IsNull
  · simp [validateOptionalRefAnyKind, hnull]
  · by_cases hkind : r.kind ∈ kinds
    · simp [validateOptionalRefAnyKind, hnull, hkind, OcbBodyRefV2.validate_eq_ok]
    · simp [validateOptionalRefAnyKind, hnull, hkind]

/-- Once the kind is right, every failure is a corruption. -/
lemma validateOptionalRefAnyKind_errors {r : OcbBodyRefV2} {kinds : List OcbBodyKindV1}
    {fileLen : ℕ} (h : (RefField.mk r kinds true).KindOk) :
    ErrorsIn ArcadiaTioError.IsCorrupt (validateOptionalRefAnyKind r kinds fileLen) := by
  simp only [RefField.KindOk, RefField.Absent, true_and] at h
  rw [validateOptionalRefAnyKind]
  split
  · exact .ok _
  · rw [if_pos (h.resolve_left ‹_›)]
    exact r.validate_errors _ _

lemma failsIn_validateOptionalRefAnyKind {r : OcbBodyRefV2} {kinds : List OcbBodyKindV1}
    {fileLen : ℕ} : FailsIn ArcadiaTioError.IsCorrupt (validateOptionalRefAnyKind r kinds fileLen) ↔
      (RefField.mk r kinds true).KindOk ∧ ¬ (RefField.mk r kinds true).RangeOk fileLen := by
  by_cases hkind : (RefField.mk r kinds true).KindOk
  · rw [(validateOptionalRefAnyKind_errors hkind).failsIn_iff, IsOk]
    simp [validateOptionalRefAnyKind_eq_ok, hkind]
  · have hkind' := hkind
    simp only [RefField.KindOk, RefField.Absent, true_and, not_or] at hkind'
    simp [validateOptionalRefAnyKind, hkind', hkind]

lemma validateRefRanges_eq_ok {r : OcbRootV2} {fileLen : ℕ} {u : Unit}
    (hkinds : ∀ f ∈ r.refFields, f.KindOk) :
    r.validateRefRanges fileLen = .ok u ↔ ∀ f ∈ r.refFields, f.RangeOk fileLen := by
  simp only [OcbRootV2.refFields, List.forall_mem_cons, List.not_mem_nil, false_imp_iff,
    implies_true, and_true] at hkinds
  obtain ⟨hschema, hindex, hdictionary, hordering, hdebug, hfirst, hlast, hafirst, halast, hdiag,
    hprevious⟩ := hkinds
  have hrequired : ∀ {ref : OcbBodyRefV2} {kind : OcbBodyKindV1} {u : Unit}, kind ≠ .unknown →
      (RefField.mk ref [kind] false).KindOk → (ref.validate kind fileLen = .ok u ↔
        (RefField.mk ref [kind] false).RangeOk fileLen) := by
    intro ref kind u hknown hkind
    have hk : ref.kind = kind := by simpa [RefField.KindOk, RefField.Absent] using hkind
    have hnull : ¬ ref.IsNull := fun h => hknown (hk.symm.trans h.2.2)
    simp [OcbBodyRefV2.validate_eq_ok, RefField.RangeOk, RefField.Absent, hk, hnull]
  simp only [OcbRootV2.validateRefRanges, bind_eq_ok, validateOptionalRef,
    validateOptionalRefAnyKind_eq_ok, hrequired (by decide) hschema, hrequired (by decide) hindex,
    hdictionary, hordering, hdebug, hfirst, hlast, hafirst, halast, hdiag, hprevious, true_and,
    OcbRootV2.refFields, List.forall_mem_cons, List.not_mem_nil, false_imp_iff, implies_true,
    and_true, exists_const]

/-- Once the kinds are right, every failure of the check of a root is a corruption. -/
lemma validateRefRanges_errors {r : OcbRootV2} {fileLen : ℕ}
    (hkinds : ∀ f ∈ r.refFields, f.KindOk) :
    ErrorsIn ArcadiaTioError.IsCorrupt (r.validateRefRanges fileLen) := by
  simp only [OcbRootV2.refFields, List.forall_mem_cons, List.not_mem_nil, false_imp_iff,
    implies_true, and_true] at hkinds
  obtain ⟨-, -, hdictionary, hordering, hdebug, hfirst, hlast, hafirst, halast, hdiag,
    hprevious⟩ := hkinds
  refine .bind (r.schemaRef.validate_errors _ _) fun _ _ =>
    .bind (r.rowGroupIndexRef.validate_errors _ _) fun _ _ =>
    .bind (validateOptionalRefAnyKind_errors hdictionary) fun _ _ =>
    .bind (validateOptionalRefAnyKind_errors hordering) fun _ _ =>
    .bind (validateOptionalRefAnyKind_errors hdebug) fun _ _ =>
    .bind (validateOptionalRefAnyKind_errors hfirst) fun _ _ =>
    .bind (validateOptionalRefAnyKind_errors hlast) fun _ _ =>
    .bind (validateOptionalRefAnyKind_errors hafirst) fun _ _ =>
    .bind (validateOptionalRefAnyKind_errors halast) fun _ _ =>
    .bind (validateOptionalRefAnyKind_errors hdiag) fun _ _ =>
    validateOptionalRefAnyKind_errors hprevious

lemma validateReferences_eq_ok {r : OcbRootV2} {fileLen : ℕ} {u : Unit} :
    r.validateReferences fileLen = .ok u ↔
      (∀ f ∈ r.refFields, f.KindOk) ∧ ∀ f ∈ r.refFields, f.RangeOk fileLen := by
  rw [OcbRootV2.validateReferences, bind_eq_ok]
  simp only [validateRefKinds_eq_ok]
  exact ⟨fun ⟨_, hkinds, h⟩ => ⟨hkinds, (validateRefRanges_eq_ok hkinds).mp h⟩,
    fun ⟨hkinds, h⟩ => ⟨(), hkinds, (validateRefRanges_eq_ok hkinds).mpr h⟩⟩

/-- A wrong kind anywhere in a root hides every other defect of its references. -/
lemma failsIn_validateReferences {r : OcbRootV2} {fileLen : ℕ} :
    FailsIn ArcadiaTioError.IsCorrupt (r.validateReferences fileLen) ↔
      (∀ f ∈ r.refFields, f.KindOk) ∧ ¬ ∀ f ∈ r.refFields, f.RangeOk fileLen := by
  rw [OcbRootV2.validateReferences, failsIn_bind, or_iff_right (validateRefKinds_errors r).not_failsIn]
  simp only [validateRefKinds_eq_ok]
  constructor
  · rintro ⟨_, hkinds, hfail⟩
    rw [(validateRefRanges_errors hkinds).failsIn_iff, IsOk] at hfail
    exact ⟨hkinds, fun h => hfail ⟨(), (validateRefRanges_eq_ok hkinds).mpr h⟩⟩
  · rintro ⟨hkinds, hfail⟩
    refine ⟨(), hkinds, ?_⟩
    rw [(validateRefRanges_errors hkinds).failsIn_iff]
    rintro ⟨_, hok⟩
    exact hfail ((validateRefRanges_eq_ok hkinds).mp hok)

/-! ### The outcome of decoding the newer slot -/

/-- A root repeats what its slot says about the commit. -/
def OcbRootSlotV2.Agrees (s : OcbRootSlotV2) (root : OcbRootV2) : Prop :=
  root.generation = s.generation ∧ root.previousGeneration = s.previousGeneration ∧
    root.previousRootRef = s.previousRootRef ∧ root.commitDiagnosticsRef = s.commitDiagnosticsRef

lemma validateRoot_eq_ok {s : OcbRootSlotV2} {root : OcbRootV2} {u : Unit} :
    s.validateRoot root = .ok u ↔ s.Agrees root := by
  simp [OcbRootSlotV2.validateRoot, bind_eq_ok, failIf_eq_ok, OcbRootSlotV2.Agrees]

lemma validateRoot_errors (s : OcbRootSlotV2) (root : OcbRootV2) :
    ErrorsIn ArcadiaTioError.IsCorrupt (s.validateRoot root) :=
  .bind (.failIf fun _ => by simp) fun _ _ => .bind (.failIf fun _ => by simp) fun _ _ =>
    .bind (.failIf fun _ => by simp) fun _ _ => .failIf fun _ => by simp

lemma agrees_of_decodeV2Candidate {src : OcbReadSource} {limits : OcbResourceLimits} {idx : ℕ}
    {r : Result OcbRootSlotV2} {c : OcbRootCandidateV2}
    (h : decodeV2Candidate src limits idx r = .ok (some c)) : c.slot.Agrees c.root := by
  obtain ⟨slot, -, h⟩ := bind_eq_ok.mp h
  by_cases hempty : slot.IsEmpty
  · rw [if_pos hempty] at h
    cases h
  · rw [if_neg hempty] at h
    obtain ⟨-, -, h⟩ := bind_eq_ok.mp h
    obtain ⟨bytes, -, h⟩ := bind_eq_ok.mp h
    obtain ⟨root, -, h⟩ := bind_eq_ok.mp h
    obtain ⟨-, -, h⟩ := bind_eq_ok.mp h
    obtain ⟨_, hroot, h⟩ := bind_eq_ok.mp h
    cases h
    exact validateRoot_eq_ok.mp hroot

section Newer

variable (fileLen : ℕ) (idx : ℕ) (slot : OcbRootSlotV2) (root : OcbRootV2)

/-- A check that reports a corruption turns the slot down before any kind mismatch is met. -/
def TurnedDown : Prop :=
  slot.slotId ≠ idx.toUInt16 ∨ slot.rootRef.length.toNat ≠ ocbRootV2Len ∨
    ¬ (slot.previousRootField.KindOk ∧ slot.previousRootField.RangeOk fileLen) ∨
    slot.diagnosticsField.KindOk ∧ (¬ slot.diagnosticsField.RangeOk fileLen ∨
      (∀ f ∈ root.refFields, f.KindOk) ∧
        (¬ (∀ f ∈ root.refFields, f.RangeOk fileLen) ∨ ¬ slot.Agrees root))

/-- Every check of the slot and of its root passes. -/
def PassesChecks : Prop :=
  slot.slotId = idx.toUInt16 ∧ slot.rootRef.length.toNat = ocbRootV2Len ∧
    (slot.previousRootField.KindOk ∧ slot.previousRootField.RangeOk fileLen) ∧
    (slot.diagnosticsField.KindOk ∧ slot.diagnosticsField.RangeOk fileLen) ∧
    (∀ f ∈ root.refFields, f.KindOk) ∧ (∀ f ∈ root.refFields, f.RangeOk fileLen) ∧
    slot.Agrees root

end Newer

section DecodeNewer

variable {src : OcbReadSource} {limits : OcbResourceLimits} {idx : ℕ} {slot : OcbRootSlotV2}
  {root : OcbRootV2} {bytes : List UInt8}

lemma validatePreviousRoot_eq_ok {s : OcbRootSlotV2} {fileLen : ℕ} {u : Unit} :
    s.validatePreviousRoot fileLen = .ok u ↔
      s.previousRootField.KindOk ∧ s.previousRootField.RangeOk fileLen := by
  simp only [OcbRootSlotV2.validatePreviousRoot, OcbRootSlotV2.previousRootField, RefField.KindOk,
    RefField.RangeOk, RefField.Absent, true_and, List.mem_singleton]
  by_cases hnull : s.previousRootRef.IsNull
  · simp [hnull]
  · simp [hnull, OcbBodyRefV2.validate_eq_ok]

lemma validatePreviousRoot_errors (s : OcbRootSlotV2) (fileLen : ℕ) :
    ErrorsIn ArcadiaTioError.IsCorrupt (s.validatePreviousRoot fileLen) := by
  rw [OcbRootSlotV2.validatePreviousRoot]
  split
  · exact .ok _
  · exact s.previousRootRef.validate_errors _ _

/-- The parts of the check of a slot whose root can be read. -/
lemma decodeV2Candidate_of_bytes
    (hread : src.readObjectBytesWithResourceLimits slot.rootRef .root limits = .ok bytes) :
    decodeV2Candidate src limits idx (.ok slot) = (do
      failIf (slot.slotId ≠ idx.toUInt16)
        (ocbCorruptFile "OCB root slot id does not match table position")
      failIf (slot.rootRef.length.toNat ≠ ocbRootV2Len)
        (ocbCorruptFile "OCB root slot root_ref length is invalid")
      slot.validatePreviousRoot src.fileLen
      validateOptionalRefAnyKind slot.commitDiagnosticsRef
        [.debugJsonMetadata, .rowGroupIndexDelta] src.fileLen
      let root ← OcbRootV2.readFrom bytes
      root.validateReferences src.fileLen
      slot.validateRoot root
      return some ⟨slot, root⟩) := by
  have hvalid : slot.rootRef.validate .root src.fileLen = .ok () := by
    obtain ⟨u, h, -⟩ := bind_eq_ok.mp hread
    exact h
  have hempty : ¬ slot.IsEmpty := (OcbBodyRefV2.validate_eq_ok.mp hvalid).1
  rw [decodeV2Candidate, ok_bind, if_neg hempty, OcbRootSlotV2.validateCandidate,
    failIf_neg hempty, ok_bind, hvalid, ok_bind]
  simp only [bind_assoc, hread, ok_bind]

/-- The parts of the check of a slot whose root decodes. -/
lemma decodeV2Candidate_of_read
    (hread : src.readObjectBytesWithResourceLimits slot.rootRef .root limits = .ok bytes)
    (hroot : OcbRootV2.readFrom bytes = .ok root) :
    decodeV2Candidate src limits idx (.ok slot) = (do
      failIf (slot.slotId ≠ idx.toUInt16)
        (ocbCorruptFile "OCB root slot id does not match table position")
      failIf (slot.rootRef.length.toNat ≠ ocbRootV2Len)
        (ocbCorruptFile "OCB root slot root_ref length is invalid")
      slot.validatePreviousRoot src.fileLen
      validateOptionalRefAnyKind slot.commitDiagnosticsRef
        [.debugJsonMetadata, .rowGroupIndexDelta] src.fileLen
      root.validateReferences src.fileLen
      slot.validateRoot root
      return some ⟨slot, root⟩) := by
  rw [decodeV2Candidate_of_bytes hread]
  simp only [hroot, ok_bind]

variable (idx) in
/-- The slot decodes to a candidate exactly when every check passes. -/
lemma decodeV2Candidate_eq_some
    (hread : src.readObjectBytesWithResourceLimits slot.rootRef .root limits = .ok bytes)
    (hroot : OcbRootV2.readFrom bytes = .ok root) {c : OcbRootCandidateV2} :
    decodeV2Candidate src limits idx (.ok slot) = .ok (some c) ↔
      c = ⟨slot, root⟩ ∧ PassesChecks src.fileLen idx slot root := by
  rw [decodeV2Candidate_of_read hread hroot]
  simp only [bind_eq_ok, failIf_eq_ok, validatePreviousRoot_eq_ok,
    validateOptionalRefAnyKind_eq_ok, validateReferences_eq_ok, validateRoot_eq_ok, not_not,
    exists_const, PassesChecks, pure_eq_ok, Except.ok.injEq, Option.some.injEq]
  constructor
  · rintro ⟨hid, hlen, hprevious, hdiag, ⟨hkinds, hranges⟩, hagrees, rfl⟩
    exact ⟨rfl, hid, hlen, hprevious, hdiag, hkinds, hranges, hagrees⟩
  · rintro ⟨rfl, hid, hlen, hprevious, hdiag, hkinds, hranges, hagrees⟩
    exact ⟨hid, hlen, hprevious, hdiag, ⟨hkinds, hranges⟩, hagrees, rfl⟩

variable (idx) in
/-- The slot is discarded exactly when it is turned down. -/
lemma failsIn_decodeV2Candidate
    (hread : src.readObjectBytesWithResourceLimits slot.rootRef .root limits = .ok bytes)
    (hroot : OcbRootV2.readFrom bytes = .ok root) :
    FailsIn ArcadiaTioError.IsCorrupt (decodeV2Candidate src limits idx (.ok slot)) ↔
      TurnedDown src.fileLen idx slot root := by
  -- a later check only matters when the earlier ones passed
  have after : ∀ {a b : Prop}, (¬ a ∨ a ∧ b) ↔ (¬ a ∨ b) := by
    tauto
  have afterRange : ∀ {k r b : Prop}, (k ∧ ¬ r ∨ (k ∧ r) ∧ b) ↔ k ∧ (¬ r ∨ b) := by
    tauto
  rw [decodeV2Candidate_of_read hread hroot]
  simp only [failsIn_bind, failsIn_failIf, ArcadiaTioError.isCorrupt_ocbCorruptFile, and_true,
    (validatePreviousRoot_errors slot src.fileLen).failsIn_iff, failIf_eq_ok,
    failsIn_validateOptionalRefAnyKind, failsIn_validateReferences, validateOptionalRefAnyKind_eq_ok,
    (validateRoot_errors slot root).failsIn_iff, IsOk, validatePreviousRoot_eq_ok, validateRoot_eq_ok,
    validateReferences_eq_ok, pure_eq_ok, not_failsIn_ok, exists_const, and_false, or_false, ne_eq,
    not_not, TurnedDown, OcbRootSlotV2.diagnosticsField, after, afterRange]

end DecodeNewer

/-! ### Slots and roots that do not decode -/

section Undecodable

open ArcadiaTioError (IsCorrupt)

/-- The checks of a slot before its references are read: checksum, magic, version, length, id. -/
def OcbRootSlotV2.readEnvelope (bytes : List UInt8) : Result Unit :=
  readChecksummed ocbRootSlotV2Len "OCB root slot crc mismatch" (fun _ => do
    readMagic ocbRootSlotMagicV2 "invalid OCB root slot magic"
    let version ← readU16
    failIf (version ≠ 2) (ocbUnsupportedFormat "unsupported OCB root slot version")
    let headerBytes ← readU16
    failIf (headerBytes.toNat ≠ ocbRootSlotV2Len)
      (ocbCorruptFile "invalid OCB root slot header length")
    let slotId ← readU16
    failIf (slotId.toNat ≥ ocbRootSlotV2Count) (ocbCorruptFile "invalid OCB root slot id")) bytes

/-- The checks of a root before its references are read: checksum, magic, version, length. -/
def OcbRootV2.readEnvelope (bytes : List UInt8) : Result Unit :=
  readChecksummed ocbRootV2Len "OCB root crc mismatch" (fun _ => do
    readMagic ocbRootMagicV2 "invalid OCB root magic"
    let version ← readU16
    failIf (version ≠ 2) (ocbUnsupportedFormat "unsupported OCB root version")
    let headerBytes ← readU16
    failIf (headerBytes.toNat ≠ ocbRootV2Len)
      (ocbCorruptFile "invalid OCB root header length")) bytes

lemma corrupt_readU16 : Decoder.ErrorsIn IsCorrupt readU16 := .uint16 rfl

lemma corrupt_readU32 : Decoder.ErrorsIn IsCorrupt readU32 := .uint32 rfl

lemma corrupt_readU64 : Decoder.ErrorsIn IsCorrupt readU64 := .uint64 rfl

lemma corrupt_readExactOcb (n : ℕ) : Decoder.ErrorsIn IsCorrupt (readExactOcb n) := .take rfl

/-- A reference of an unknown kind, or with an unknown checksum, is corrupt. -/
lemma corrupt_bodyRef : Decoder.ErrorsIn IsCorrupt OcbBodyRefV2.read := by
  have hkind : ∀ v, ErrorsIn IsCorrupt (OcbBodyKindV1.fromU16 v) := by
    intro v e h
    rw [OcbBodyKindV1.fromU16] at h
    split at h <;> cases h
    rfl
  have hchecksum : ∀ v, ErrorsIn IsCorrupt (OcbChecksumKindV1.fromU16 v) := by
    intro v e h
    rw [OcbChecksumKindV1.fromU16] at h
    split at h <;> cases h
    rfl
  exact corrupt_readU64.bind fun _ => corrupt_readU64.bind fun _ => corrupt_readU16.bind fun _ =>
    (Decoder.ErrorsIn.lift (hkind _)).bind fun _ => corrupt_readU16.bind fun _ =>
      corrupt_readU16.bind fun _ => (Decoder.ErrorsIn.lift (hchecksum _)).bind fun _ =>
        corrupt_readU16.bind fun _ => corrupt_readU32.bind fun _ => corrupt_readU32.bind fun _ =>
          .pure _

variable {bytes : List UInt8}

/-- Behind a right envelope, a slot fails to decode only through its references. -/
lemma OcbRootSlotV2.errorsIn_readFrom (h : readEnvelope bytes = .ok ()) :
    ErrorsIn IsCorrupt (readFrom bytes) := by
  obtain ⟨buf, hbuf, h⟩ := bind_eq_ok.mp h
  obtain ⟨crc, hcrc, h⟩ := bind_eq_ok.mp h
  obtain ⟨_, hsame, h⟩ := bind_eq_ok.mp h
  obtain ⟨rest, h⟩ := readAll_eq_ok.mp h
  obtain ⟨_, _, hmagic, h⟩ := Decoder.run_bind_eq_ok.mp h
  obtain ⟨_, _, hversion, h⟩ := Decoder.run_bind_eq_ok.mp h
  obtain ⟨_, _, hsupported, h⟩ := Decoder.run_bind_eq_ok.mp h
  obtain ⟨_, _, hlength, h⟩ := Decoder.run_bind_eq_ok.mp h
  obtain ⟨_, _, hright, h⟩ := Decoder.run_bind_eq_ok.mp h
  obtain ⟨_, _, hid, hknown⟩ := Decoder.run_bind_eq_ok.mp h
  rw [readFrom, readChecksummed, hbuf, ok_bind, hcrc, ok_bind, hsame, ok_bind, readAll,
    Decoder.run_bind_of_ok hmagic, Decoder.run_bind_of_ok hversion,
    Decoder.run_bind_of_ok hsupported, Decoder.run_bind_of_ok hlength,
    Decoder.run_bind_of_ok hright, Decoder.run_bind_of_ok hid, Decoder.run_bind_of_ok hknown]
  refine ErrorsIn.map (P := IsCorrupt) ((?_ : Decoder.ErrorsIn IsCorrupt _) _)
  exact corrupt_readU16.bind fun _ => corrupt_readU64.bind fun _ => corrupt_bodyRef.bind fun _ =>
    corrupt_readU64.bind fun _ => corrupt_bodyRef.bind fun _ => corrupt_bodyRef.bind fun _ =>
      corrupt_readU64.bind fun _ => (corrupt_readExactOcb _).bind fun _ =>
        corrupt_readU32.bind fun _ => .pure _

/-- Behind a right envelope, a root fails to decode only through its references. -/
lemma OcbRootV2.errorsIn_readFrom (h : readEnvelope bytes = .ok ()) :
    ErrorsIn IsCorrupt (readFrom bytes) := by
  obtain ⟨buf, hbuf, h⟩ := bind_eq_ok.mp h
  obtain ⟨crc, hcrc, h⟩ := bind_eq_ok.mp h
  obtain ⟨_, hsame, h⟩ := bind_eq_ok.mp h
  obtain ⟨rest, h⟩ := readAll_eq_ok.mp h
  obtain ⟨_, _, hmagic, h⟩ := Decoder.run_bind_eq_ok.mp h
  obtain ⟨_, _, hversion, h⟩ := Decoder.run_bind_eq_ok.mp h
  obtain ⟨_, _, hsupported, h⟩ := Decoder.run_bind_eq_ok.mp h
  obtain ⟨_, _, hlength, hright⟩ := Decoder.run_bind_eq_ok.mp h
  rw [readFrom, readChecksummed, hbuf, ok_bind, hcrc, ok_bind, hsame, ok_bind, readAll,
    Decoder.run_bind_of_ok hmagic, Decoder.run_bind_of_ok hversion,
    Decoder.run_bind_of_ok hsupported, Decoder.run_bind_of_ok hlength,
    Decoder.run_bind_of_ok hright]
  refine ErrorsIn.map (P := IsCorrupt) ((?_ : Decoder.ErrorsIn IsCorrupt _) _)
  exact corrupt_readU32.bind fun _ => corrupt_readU64.bind fun _ => corrupt_readU64.bind fun _ =>
    corrupt_bodyRef.bind fun _ => corrupt_readU64.bind fun _ => corrupt_readU64.bind fun _ =>
      corrupt_readU32.bind fun _ => corrupt_readU32.bind fun _ => corrupt_readU64.bind fun _ =>
      corrupt_readU32.bind fun _ => corrupt_readU32.bind fun _ => corrupt_readU32.bind fun _ =>
      corrupt_readU32.bind fun _ => corrupt_bodyRef.bind fun _ => corrupt_bodyRef.bind fun _ =>
      corrupt_bodyRef.bind fun _ => corrupt_bodyRef.bind fun _ => corrupt_bodyRef.bind fun _ =>
      corrupt_bodyRef.bind fun _ => corrupt_bodyRef.bind fun _ => corrupt_bodyRef.bind fun _ =>
      corrupt_bodyRef.bind fun _ => corrupt_bodyRef.bind fun _ => corrupt_readU64.bind fun _ =>
      corrupt_readU64.bind fun _ => corrupt_readU32.bind fun _ => .pure _

/-- A slot whose root does not decode is turned down unless, as the first defect, its diagnostics
are of a wrong kind. -/
def TurnedDownUnread (fileLen idx : ℕ) (slot : OcbRootSlotV2) : Prop :=
  slot.slotId ≠ idx.toUInt16 ∨ slot.rootRef.length.toNat ≠ ocbRootV2Len ∨
    ¬ (slot.previousRootField.KindOk ∧ slot.previousRootField.RangeOk fileLen) ∨
    slot.diagnosticsField.KindOk

/-- What becomes of a slot whose root can be read but does not decode. -/
lemma decodeV2Candidate_of_undecodable {src : OcbReadSource} {limits : OcbResourceLimits}
    {slot : OcbRootSlotV2} (idx : ℕ)
    (hread : src.readObjectBytesWithResourceLimits slot.rootRef .root limits = .ok bytes)
    (henvelope : OcbRootV2.readEnvelope bytes = .ok ())
    (hroot : ¬ IsOk (OcbRootV2.readFrom bytes)) :
    ∃ e, decodeV2Candidate src limits idx (.ok slot) = .error e ∧
      (e.IsCorrupt ↔ TurnedDownUnread src.fileLen idx slot) := by
  have after : ∀ {a b : Prop}, (¬ a ∨ a ∧ b) ↔ (¬ a ∨ b) := by
    tauto
  have whole : ∀ {k r : Prop}, (k ∧ ¬ r ∨ k ∧ r) ↔ k := by
    tauto
  cases hdecode : OcbRootV2.readFrom bytes with
  | ok root => exact absurd ⟨root, hdecode⟩ hroot
  | error e₀ =>
    have hcorrupt : e₀.IsCorrupt := OcbRootV2.errorsIn_readFrom henvelope e₀ hdecode
    have hfails : FailsIn IsCorrupt (decodeV2Candidate src limits idx (.ok slot)) ↔
        TurnedDownUnread src.fileLen idx slot := by
      rw [decodeV2Candidate_of_bytes hread]
      simp only [hdecode, error_bind, failsIn_bind, failsIn_failIf, failsIn_error, hcorrupt,
        ArcadiaTioError.isCorrupt_ocbCorruptFile, and_true,
        (validatePreviousRoot_errors slot src.fileLen).failsIn_iff, failIf_eq_ok,
        failsIn_validateOptionalRefAnyKind, validateOptionalRefAnyKind_eq_ok, IsOk,
        validatePreviousRoot_eq_ok, exists_const, ne_eq, not_not, TurnedDownUnread,
        OcbRootSlotV2.diagnosticsField, after, whole]
    cases hcandidate : decodeV2Candidate src limits idx (.ok slot) with
    | ok c =>
      rw [decodeV2Candidate_of_bytes hread, hdecode] at hcandidate
      simp [bind_eq_ok] at hcandidate
    | error e =>
      rw [hcandidate, failsIn_error] at hfails
      exact ⟨e, rfl, hfails⟩

end Undecodable

end ArcadiaTio.Ocb
