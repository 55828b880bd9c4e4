import ArcadiaTio.Ocb.Read.CacheTransparent
import ArcadiaTio.Ocb.Read.References
import ArcadiaTio.Ocb.Read.Validated

/-!
# References of length zero

A reference of length zero passes every check of a slot and of its root, and the object is read as
no bytes at all.  What follows depends on the field.  A decoder finds no checksum in no bytes: the
schema, the dictionary index, the row-group index, the ordering proof and a delta are corrupt as
soon as they are reached (`failsLike_readMetadataObjectsV2`).  Key tuples, debug JSON and diagnostics
in debug JSON are read for their checksum only, and no bytes have one: a snapshot that is otherwise
in order is accepted (`isOk_loadCandidate`).
-/

namespace ArcadiaTio.Ocb

open ArcadiaTio.Lib OcbOpenAuxiliaryObjectCache
open ArcadiaTioError (IsCorrupt)

/-! ### Objects and their prices -/

section Prices

variable {α : Type} (src : OcbReadSource) (limits : OcbResourceLimits)

/-- An object that a reference names, with the bytes that it retains. -/
def pricedObject (reference : OcbBodyRefV2) (kind : OcbBodyKindV1)
    (validate : List UInt8 → Result (ValidationPass α)) : Result (ℕ × α) := do
  let bytes ← src.readObjectBytesWithResourceLimits reference kind limits
  let pass ← validate bytes
  let a ← pass.materialize
  return (pass.retainedBytes, a)

/-- The bytes that the object of a reference retains. -/
def objectPrice (reference : OcbBodyRefV2) (kind : OcbBodyKindV1)
    (validate : List UInt8 → Result (ValidationPass α)) : Result ℕ :=
  Prod.fst <$> pricedObject src limits reference kind validate

/-- An object that a root may leave out. -/
def optionalPrice (reference : OcbBodyRefV2) (kind : OcbBodyKindV1)
    (validate : List UInt8 → Result (ValidationPass α)) : Result ℕ :=
  if reference.IsNull then .ok 0 else objectPrice src limits reference kind validate

/-- The price of the string table that the schema of a root names. -/
def stringTablePrice (root : OcbRootV2) : Result ℕ := do
  let schema ← pricedObject src limits root.schemaRef .schema OcbSchemaV1.validationPass
  objectPrice src limits schema.2.stringTableRef .stringTable OcbStringTableV1.validationPass

/-- The prices of the objects of a root, in the order in which its metadata are read. -/
def OcbRootV2.prices (root : OcbRootV2) : List (Result ℕ) :=
  [objectPrice src limits root.schemaRef .schema OcbSchemaV1.validationPass,
    stringTablePrice src limits root,
    optionalPrice src limits root.dictionaryIndexRef .dictionaryIndex
      OcbDictionaryIndexV1.validationPass,
    objectPrice src limits root.rowGroupIndexRef .rowGroupIndex OcbRowGroupIndexV1.validationPass,
    optionalPrice src limits root.orderingProofRef .orderingProof
      OcbOrderingProofV1.validationPass,
    if root.commitDiagnosticsRef.kind = .rowGroupIndexDelta then
      objectPrice src limits root.commitDiagnosticsRef .rowGroupIndexDelta
        OcbRowGroupIndexDeltaV1.validationPass
    else .ok 0]

end Prices

/-- Among objects that are charged one after the other, the first one that cannot be had is
corrupt: those before it are in order and fit into what is left of the limit. -/
def CorruptWithin (limit : ℕ) : ℕ → List (Result ℕ) → Prop
  | _, [] => False
  | charged, price :: rest => FailsIn IsCorrupt price ∨
      ∃ n, price = .ok n ∧ charged + n ≤ limit ∧ CorruptWithin limit (charged + n) rest

/-- When one of the objects cannot be had the computation fails, and with a corruption exactly
when the first such object is corrupt. -/
def FailsLike {α : Type} (x : Metered α) (prices : List (Result ℕ)) : Prop :=
  (∃ price ∈ prices, ¬ IsOk price) → ∀ b : MetadataMaterializationBudget,
    ∃ e b', x.run b = (.error e, b') ∧
      (e.IsCorrupt ↔ CorruptWithin b.limitBytes b.chargedBytes prices)

namespace FailsLike

variable {α β : Type} {src : OcbReadSource} {limits : OcbResourceLimits}
  {reference : OcbBodyRefV2} {kind : OcbBodyKindV1}
  {read : List UInt8 → Metered α} {validate : List UInt8 → Result (ValidationPass α)}
  {retained : α → ℕ} {k : α → Metered β} {rest : List (Result ℕ)}

protected lemma nil {x : Metered α} : FailsLike x [] := by
  rintro ⟨price, hprice, -⟩
  cases hprice

/-- Nothing is read, and nothing is charged. -/
protected lemma free {x : Metered α} (h : FailsLike x rest) : FailsLike x (.ok 0 :: rest) := by
  rintro ⟨price, hprice, hbad⟩ b
  have hrest : ∃ price ∈ rest, ¬ IsOk price := by
    rcases List.mem_cons.mp hprice with rfl | hprice
    · exact absurd isOk_ok hbad
    · exact ⟨price, hprice, hbad⟩
  obtain ⟨e, b', hrun, hcorrupt⟩ := h hrest b
  refine ⟨e, b', hrun, hcorrupt.trans ?_⟩
  have hfits := b.charged_le
  simp [CorruptWithin, hfits]

/-- A step that returns a value and leaves the budget as it is. -/
protected lemma keep {x : Metered α} (hx : ∀ b, ∃ a, x.run b = (.ok a, b))
    (hk : ∀ a, FailsLike (k a) rest) : FailsLike (x >>= k) rest := by
  intro hbad b
  obtain ⟨a, ha⟩ := hx b
  rw [Fallible.run_bind_of_ok ha]
  exact hk a hbad b

/-- An object is read and charged, and the computation goes on with it. -/
protected lemma object (hread : ∀ bytes, StructureFirst (read bytes) (validate bytes) retained)
    (hk : ∀ n a, pricedObject src limits reference kind validate = .ok (n, a) →
      FailsLike (k a) rest) :
    FailsLike (do
      let bytes ← src.readObjectBytesWithResourceLimits reference kind limits
      let a ← read bytes
      k a) (objectPrice src limits reference kind validate :: rest) := by
  rintro ⟨price, hprice, hbad⟩ b
  rw [objectPrice] at hprice ⊢
  cases hbytes : src.readObjectBytesWithResourceLimits reference kind limits with
  | error e =>
    refine ⟨e, b, rfl, ?_⟩
    simp [pricedObject, hbytes, CorruptWithin]
  | ok bytes =>
    rw [Fallible.lift_ok_bind, (hread bytes).read_eq]
    cases hvalidate : validate bytes with
    | error e =>
      refine ⟨e, b, rfl, ?_⟩
      simp [pricedObject, hbytes, hvalidate, CorruptWithin]
    | ok pass =>
      obtain ⟨-, a, hm, -⟩ := (hread bytes).materializes pass hvalidate
      have hobject : pricedObject src limits reference kind validate =
          .ok (pass.retainedBytes, a) := by
        rw [pricedObject, hbytes, ok_bind, hvalidate, ok_bind, hm]
        rfl
      have hrest : ∃ price ∈ rest, ¬ IsOk price := by
        rcases List.mem_cons.mp hprice with rfl | hprice
        · exact absurd ⟨_, rfl⟩ (hobject ▸ hbad)
        · exact ⟨price, hprice, hbad⟩
      rw [Fallible.lift_ok_bind, hm, hobject]
      by_cases hfits : b.chargedBytes + pass.retainedBytes ≤ b.limitBytes
      · obtain ⟨e, b', hrun, hcorrupt⟩ := hk _ a hobject hrest
          { b with chargedBytes := b.chargedBytes + pass.retainedBytes, charged_le := hfits }
        refine ⟨e, b', ?_, hcorrupt.trans ?_⟩
        · rw [Fallible.run_bind_of_ok (Fallible.run_bind_of_ok (run_charge_of_le hfits))]
          exact hrun
        · simp [CorruptWithin, hfits, Functor.map, Except.map]
      · refine ⟨_, b, Fallible.run_bind_of_error
          (Fallible.run_bind_of_error (run_charge_of_lt (not_le.mp hfits))), ?_⟩
        simp [CorruptWithin, hfits, Functor.map, Except.map]

/-- An object that may be left out. -/
protected lemma optional {k : Option α → Metered β}
    (hread : ∀ bytes, StructureFirst (read bytes) (validate bytes) retained)
    (hk : ∀ o, FailsLike (k o) rest) :
    FailsLike (readOptionalObject src reference kind limits read >>= k)
      (optionalPrice src limits reference kind validate :: rest) := by
  rw [readOptionalObject, optionalPrice]
  split
  · exact .free (hk none)
  · rw [Fallible.bind_assoc]
    simp only [Fallible.bind_assoc]
    exact .object hread fun _ a _ => hk (some a)

end FailsLike

/-- Reading the metadata of a root fails like its objects, when one of them cannot be had. -/
lemma failsLike_readMetadataObjectsV2 (src : OcbReadSource) (root : OcbRootV2)
    (limits : OcbResourceLimits) :
    FailsLike (readMetadataObjectsV2WithResourceLimits src root limits)
      (root.prices src limits) := by
  rw [readMetadataObjectsV2WithResourceLimits, readMetadataObjectsWithResourceLimits,
    OcbRootV2.prices]
  simp only [Fallible.bind_assoc]
  refine .object OcbSchemaV1.structureFirst fun _ schema hschema => ?_
  have hstrings : stringTablePrice src limits root = objectPrice src limits schema.stringTableRef
      .stringTable OcbStringTableV1.validationPass := by
    rw [stringTablePrice]
    exact congrArg (fun x => x >>= _) hschema
  rw [hstrings]
  refine .object OcbStringTableV1.structureFirst fun _ stringTable _ => ?_
  refine .optional OcbDictionaryIndexV1.structureFirst fun dictionaryIndex => ?_
  refine .object OcbRowGroupIndexV1.structureFirst fun _ rowGroupIndex _ => ?_
  refine .optional OcbOrderingProofV1.structureFirst fun orderingProof => ?_
  refine .keep (fun b => ⟨_, rfl⟩) fun charged => .keep (fun b => ⟨_, rfl⟩) fun base => ?_
  rw [applyCommittedDelta]
  split
  · simp only [Fallible.bind_assoc]
    exact .object OcbRowGroupIndexDeltaV1.structureFirst fun _ _ _ => .nil
  · exact .free .nil

/-! ### Objects without bytes -/

section Empty

variable {α : Type} {src : OcbReadSource} {limits : OcbResourceLimits} {root : OcbRootV2}

/-- An empty object is read as no bytes, unless its reference names a checksum. -/
lemma readObjectBytes_of_empty {reference : OcbBodyRefV2} {kind : OcbBodyKindV1}
    (hvalid : reference.validate kind src.fileLen = .ok ()) (hempty : reference.length = 0) :
    src.readObjectBytesWithResourceLimits reference kind limits = (do
      failIf (reference.checksumKind = .crc32c ∧ crc32c [] ≠ reference.checksum)
        (ocbCorruptFile "OCB body reference checksum mismatch")
      return []) := by
  rw [OcbReadSource.readObjectBytesWithResourceLimits,
    OcbReadSource.readObjectBytesInnerWithLimits, hvalid, ok_bind, hempty,
    failIf_neg (show ¬ UInt64.toNat 0 > _ from Nat.not_lt_zero _), ok_bind, OcbReadSource.readExactAt,
    if_pos (show UInt64.toNat 0 = 0 from rfl), ok_bind]

/-- No bytes hold no checksum. -/
lemma failsIn_readHeader_nil (h : ObjectHeader) : FailsIn IsCorrupt (readHeader h []) :=
  failsIn_bind.mpr (.inl ⟨_, rfl, rfl⟩)

lemma OcbSchemaV1.failsIn_validationPass_nil :
    FailsIn IsCorrupt (OcbSchemaV1.validationPass []) :=
  failsIn_bind.mpr (.inl (failsIn_readHeader_nil _))

lemma OcbDictionaryIndexV1.failsIn_validationPass_nil :
    FailsIn IsCorrupt (OcbDictionaryIndexV1.validationPass []) :=
  failsIn_bind.mpr (.inl (failsIn_readHeader_nil _))

lemma OcbRowGroupIndexV1.failsIn_validationPass_nil :
    FailsIn IsCorrupt (OcbRowGroupIndexV1.validationPass []) :=
  failsIn_bind.mpr (.inl (failsIn_readHeader_nil _))

lemma OcbOrderingProofV1.failsIn_validationPass_nil :
    FailsIn IsCorrupt (OcbOrderingProofV1.validationPass []) :=
  failsIn_bind.mpr (.inl (failsIn_readHeader_nil _))

lemma OcbRowGroupIndexDeltaV1.failsIn_validationPass_nil :
    FailsIn IsCorrupt (OcbRowGroupIndexDeltaV1.validationPass []) :=
  failsIn_bind.mpr (.inl (failsIn_readHeader_nil _))

/-- An empty object is corrupt for a decoder that reads a header. -/
lemma failsIn_objectPrice_of_empty {reference : OcbBodyRefV2} {kind : OcbBodyKindV1}
    {validate : List UInt8 → Result (ValidationPass α)}
    (hvalid : reference.validate kind src.fileLen = .ok ()) (hempty : reference.length = 0)
    (hnil : FailsIn IsCorrupt (validate [])) :
    FailsIn IsCorrupt (objectPrice src limits reference kind validate) := by
  rw [objectPrice, failsIn_map, pricedObject, readObjectBytes_of_empty hvalid hempty, failsIn_bind]
  by_cases hsum : reference.checksumKind = .crc32c ∧ crc32c [] ≠ reference.checksum
  · left
    rw [failIf_pos hsum]
    exact ⟨_, rfl, rfl⟩
  · right
    exact ⟨[], by rw [failIf_neg hsum]; rfl, failsIn_bind.mpr (.inl hnil)⟩

/-- A reference that passes the checks of its field. -/
lemma RefField.validate_of_ok {f : RefField} {kind : OcbBodyKindV1} {fileLen : ℕ}
    (hrange : f.RangeOk fileLen) (hpresent : ¬ f.Absent) (hkind : f.reference.kind = kind)
    (hknown : kind ≠ .unknown) : f.reference.validate kind fileLen = .ok () :=
  OcbBodyRefV2.validate_eq_ok.mpr
    ⟨fun hnull => hknown (hkind.symm.trans hnull.2.2), hkind, hrange.resolve_left hpresent⟩

/-- An empty reference that passes its checks names a corrupt object. -/
lemma RefField.failsIn_objectPrice {f : RefField} {kind : OcbBodyKindV1}
    {validate : List UInt8 → Result (ValidationPass α)} (hkind : f.KindOk)
    (hrange : f.RangeOk src.fileLen) (hkinds : f.kinds = [kind]) (hknown : kind ≠ .unknown)
    (hnil : FailsIn IsCorrupt (validate [])) (hempty : f.Empty) :
    FailsIn IsCorrupt (objectPrice src limits f.reference kind validate) := by
  have hmem := hkind.resolve_left hempty.1
  rw [hkinds, List.mem_singleton] at hmem
  exact failsIn_objectPrice_of_empty (RefField.validate_of_ok hrange hempty.1 hmem hknown)
    hempty.2 hnil

/-- A field that may be null, but is empty. -/
lemma RefField.failsIn_optionalPrice {f : RefField} {kind : OcbBodyKindV1}
    {validate : List UInt8 → Result (ValidationPass α)} (hkind : f.KindOk)
    (hrange : f.RangeOk src.fileLen) (hkinds : f.kinds = [kind]) (hknown : kind ≠ .unknown)
    (hoptional : f.optional = true) (hnil : FailsIn IsCorrupt (validate [])) (hempty : f.Empty) :
    FailsIn IsCorrupt (optionalPrice src limits f.reference kind validate) := by
  rw [optionalPrice, if_neg fun hnull => hempty.1 ⟨hoptional, hnull⟩]
  exact RefField.failsIn_objectPrice hkind hrange hkinds hknown hnil hempty

/-- The diagnostics of an append are decoded as a delta. -/
lemma failsIn_deltaPrice
    (hrange : (RefField.mk root.commitDiagnosticsRef [.debugJsonMetadata, .rowGroupIndexDelta]
      true).RangeOk src.fileLen)
    (hdelta : root.commitDiagnosticsRef.kind = .rowGroupIndexDelta)
    (hempty : root.commitDiagnosticsRef.length = 0) :
    FailsIn IsCorrupt (objectPrice src limits root.commitDiagnosticsRef .rowGroupIndexDelta
      OcbRowGroupIndexDeltaV1.validationPass) := by
  have hpresent : ¬ RefField.Absent
      ⟨root.commitDiagnosticsRef, [.debugJsonMetadata, .rowGroupIndexDelta], true⟩ := by
    rintro ⟨-, hnull⟩
    cases hdelta.symm.trans hnull.2.2
  exact failsIn_objectPrice_of_empty (RefField.validate_of_ok hrange hpresent hdelta (by decide))
    hempty OcbRowGroupIndexDeltaV1.failsIn_validationPass_nil

/-- An empty reference to an object that is decoded makes this object corrupt. -/
lemma exists_price_of_empty (hkinds : ∀ f ∈ root.refFields, f.KindOk)
    (hranges : ∀ f ∈ root.refFields, f.RangeOk src.fileLen)
    (hempty : ∃ f ∈ root.decodedFields, f.Empty) :
    ∃ price ∈ root.prices src limits, FailsIn IsCorrupt price := by
  simp only [OcbRootV2.refFields, List.forall_mem_cons] at hkinds hranges
  obtain ⟨kschema, kindex, kdictionary, kordering, -⟩ := hkinds
  obtain ⟨rschema, rindex, rdictionary, rordering, -, -, -, -, -, rdelta, -⟩ := hranges
  obtain ⟨f, hf, hE⟩ := hempty
  rw [OcbRootV2.decodedFields, List.mem_append] at hf
  rcases hf with hf | hf
  · simp only [List.mem_cons, List.not_mem_nil, or_false] at hf
    rcases hf with rfl | rfl | rfl | rfl
    · exact ⟨_, .head _, RefField.failsIn_objectPrice kschema rschema rfl (by decide)
        OcbSchemaV1.failsIn_validationPass_nil hE⟩
    · exact ⟨_, .tail _ (.tail _ (.head _)), RefField.failsIn_optionalPrice kdictionary
        rdictionary rfl (by decide) rfl OcbDictionaryIndexV1.failsIn_validationPass_nil hE⟩
    · exact ⟨_, .tail _ (.tail _ (.tail _ (.head _))), RefField.failsIn_objectPrice kindex rindex
        rfl (by decide) OcbRowGroupIndexV1.failsIn_validationPass_nil hE⟩
    · exact ⟨_, .tail _ (.tail _ (.tail _ (.tail _ (.head _)))), RefField.failsIn_optionalPrice
        kordering rordering rfl (by decide) rfl OcbOrderingProofV1.failsIn_validationPass_nil hE⟩
  · split at hf
    case isTrue hdelta =>
      obtain rfl := List.mem_singleton.mp hf
      refine ⟨_, .tail _ (.tail _ (.tail _ (.tail _ (.tail _ (.head _))))), ?_⟩
      rw [if_pos hdelta]
      exact failsIn_deltaPrice rdelta hdelta hE.2
    case isFalse => cases hf

end Empty

/-! ### Objects that are read for their checks only -/

/-- The references of a root whose objects are not decoded, with the kind that is expected. -/
def OcbRootV2.checkedReferences (r : OcbRootV2) : List (OcbBodyRefV2 × OcbBodyKindV1) :=
  [(r.firstKeyTupleRef, .keyTuple), (r.lastKeyTupleRef, .keyTuple),
    (r.appendFirstKeyTupleRef, .keyTuple), (r.appendLastKeyTupleRef, .keyTuple),
    (r.debugJsonRef, .debugJsonMetadata), (r.commitDiagnosticsRef, r.commitDiagnosticsRef.kind)]

section InOrder

variable (src : OcbReadSource) (zstd : ZstdCodec) (validation : OcbOpenValidationMode)
  (limits : OcbResourceLimits) (root : OcbRootV2)

/-- A root whose snapshot is in order as far as its references name any bytes: its metadata decode
and describe a valid graph within the limits, the objects that are only checked are readable, and
an empty one among them does not name a checksum that no bytes have. -/
structure RestInOrder : Prop where
  graph : ∃ m b, (readMetadataObjectsV2WithResourceLimits src root limits).run
      (.fromLimits limits) = (.ok m, b) ∧
    validateV2RootSemantics root m = .ok () ∧
    IsOk ((GraphCandidate.revalidated src zstd limits
      ⟨m, root.columnChunkCount.toNat, validation, none, b⟩).run b).1 ∧
    distinctBytes (GraphCandidate.references
      ⟨m, root.columnChunkCount.toNat, validation, some root, b⟩) ≤
        limits.maxOwnedSelectedCompressedBytes.toNat
  objects : ∀ p ∈ root.checkedReferences, p.1.length ≠ 0 →
    IsOk (src.validateOptionalObject p.1 p.2 limits)
  checksums : ∀ p ∈ root.checkedReferences, p.1.length = 0 → p.1.checksumKind = .crc32c →
    p.1.checksum = 0

variable {src zstd validation limits root}

/-- The references pass the checks of their fields. -/
lemma validate_checkedReferences (hkinds : ∀ f ∈ root.refFields, f.KindOk)
    (hranges : ∀ f ∈ root.refFields, f.RangeOk src.fileLen) :
    ∀ p ∈ root.checkedReferences, ¬ p.1.IsNull → p.1.validate p.2 src.fileLen = .ok () := by
  have hfield : ∀ {reference : OcbBodyRefV2} {kinds : List OcbBodyKindV1} {kind : OcbBodyKindV1},
      (RefField.mk reference kinds true).KindOk →
      (RefField.mk reference kinds true).RangeOk src.fileLen →
      (reference.kind ∈ kinds → reference.kind = kind) → ¬ reference.IsNull →
      reference.validate kind src.fileLen = .ok () := by
    intro reference kinds kind hkind hrange hsame hnull
    have hpresent : ¬ (RefField.mk reference kinds true).Absent := fun h => hnull h.2
    exact OcbBodyRefV2.validate_eq_ok.mpr ⟨hnull, hsame (hkind.resolve_left hpresent),
      hrange.resolve_left hpresent⟩
  simp only [OcbRootV2.refFields, List.forall_mem_cons] at hkinds hranges
  obtain ⟨-, -, -, -, kdebug, kfirst, klast, kafirst, kalast, kdiag, -⟩ := hkinds
  obtain ⟨-, -, -, -, rdebug, rfirst, rlast, rafirst, ralast, rdiag, -⟩ := hranges
  simp only [OcbRootV2.checkedReferences, List.forall_mem_cons, List.not_mem_nil, false_imp_iff,
    implies_true, and_true]
  exact ⟨hfield kfirst rfirst List.mem_singleton.mp, hfield klast rlast List.mem_singleton.mp,
    hfield kafirst rafirst List.mem_singleton.mp, hfield kalast ralast List.mem_singleton.mp,
    hfield kdebug rdebug List.mem_singleton.mp, hfield kdiag rdiag fun _ => rfl⟩

/-- Every object that is only checked passes: it is absent, in order, or empty. -/
lemma RestInOrder.validateOptionalObject (h : RestInOrder src zstd validation limits root)
    (hvalid : ∀ p ∈ root.checkedReferences, ¬ p.1.IsNull →
      p.1.validate p.2 src.fileLen = .ok ()) :
    ∀ p ∈ root.checkedReferences, src.validateOptionalObject p.1 p.2 limits = .ok () := by
  intro p hp
  by_cases hempty : p.1.length = 0
  · rw [OcbReadSource.validateOptionalObject]
    by_cases hnull : p.1.IsNull
    · exact if_pos hnull
    · have hsum : ¬ (p.1.checksumKind = .crc32c ∧ crc32c [] ≠ p.1.checksum) := by
        rintro ⟨hkind, hne⟩
        exact hne (h.checksums p hp hempty hkind).symm
      rw [if_neg hnull, readObjectBytes_of_empty (hvalid p hp hnull) hempty, failIf_neg hsum]
      rfl
  · obtain ⟨_, hok⟩ := h.objects p hp hempty
    exact hok

lemma interp_askKeyTuple_revalidate (reference : OcbBodyRefV2) :
    (askKeyTuple reference).interp (revalidate src limits) =
      (liftM (src.validateOptionalObject reference .keyTuple limits) : Metered Unit) := by
  rw [askKeyTuple, OcbReadSource.validateOptionalObject]
  split
  · rfl
  · rw [Query.interp_query, revalidate]
    change (do
      let _ ← src.readObjectBytesWithResourceLimits reference .keyTuple limits
      return () : Metered Unit) = _
    cases src.readObjectBytesWithResourceLimits reference .keyTuple limits <;> rfl

/-- Key tuples of the root that pass their checks change nothing about the graph. -/
lemma run_revalidated_of_none {m : OcbMetadataV1} {count : ℕ} {b b' : MetadataMaterializationBudget}
    {positions : List (UInt32 × ℕ)} (hlen : m.fileLen = src.fileLen)
    (hvalid : ∀ p ∈ root.checkedReferences, ¬ p.1.IsNull →
      p.1.validate p.2 src.fileLen = .ok ())
    (hobjects : ∀ p ∈ root.checkedReferences,
      src.validateOptionalObject p.1 p.2 limits = .ok ())
    (h : (GraphCandidate.revalidated src zstd limits ⟨m, count, validation, none, b⟩).run b =
      (.ok positions, b')) :
    (GraphCandidate.revalidated src zstd limits ⟨m, count, validation, some root, b⟩).run b =
      (.ok positions, b') := by
  simp only [OcbRootV2.checkedReferences, List.forall_mem_cons] at hvalid hobjects
  obtain ⟨vfirst, vlast, vafirst, valast, -⟩ := hvalid
  obtain ⟨ofirst, olast, oafirst, oalast, -⟩ := hobjects
  obtain ⟨columns, hstructure, hwalk⟩ := Fallible.run_lift_bind_eq_ok.mp h
  have hoptional : ∀ {reference : OcbBodyRefV2}, (¬ reference.IsNull →
      reference.validate .keyTuple src.fileLen = .ok ()) →
      ∀ p ∈ optionalKeyTuple reference, p.1.validate p.2 m.fileLen = .ok () := by
    intro reference hreference p hp
    rw [optionalKeyTuple] at hp
    split at hp
    · cases hp
    · obtain rfl := List.mem_singleton.mp hp
      rw [hlen]
      exact hreference ‹_›
  have hstructure' : GraphCandidate.structuralChecks ⟨m, count, validation, some root, b⟩ =
      .ok columns := by
    obtain ⟨_, hcounts, hstructure⟩ := bind_eq_ok.mp hstructure
    obtain ⟨columns', hschema, hstructure⟩ := bind_eq_ok.mp hstructure
    obtain ⟨_, hrefs, hstructure⟩ := bind_eq_ok.mp hstructure
    obtain rfl : columns' = columns := Except.ok.inj hstructure
    refine bind_eq_ok.mpr ⟨_, hcounts, bind_eq_ok.mpr ⟨_, hschema, bind_eq_ok.mpr ⟨(), ?_, rfl⟩⟩⟩
    refine forM_eq_ok.mpr fun p hp => ?_
    rw [auxiliaryObjectReferences, List.mem_append] at hp
    rcases hp with hp | hp
    · refine forM_eq_ok.mp hrefs p ?_
      rw [auxiliaryObjectReferences, List.mem_append]
      exact .inl hp
    · simp only [Option.elim, List.mem_append] at hp
      rcases hp with ((hp | hp) | hp) | hp
      · exact hoptional vfirst p hp
      · exact hoptional vlast p hp
      · exact hoptional vafirst p hp
      · exact hoptional valast p hp
  rw [GraphCandidate.walk, graphWalk] at hwalk
  simp only [Query.interp_bind] at hwalk
  obtain ⟨_, b₁, hdictionaries, hwalk⟩ := Fallible.run_bind_eq_ok.mp hwalk
  obtain ⟨positions', b₂, hgroups, hwalk⟩ := Fallible.run_bind_eq_ok.mp hwalk
  obtain ⟨_, b₃, hordering, hwalk⟩ := Fallible.run_bind_eq_ok.mp hwalk
  rw [run_revalidated hstructure', GraphCandidate.walk, graphWalk]
  simp only [Query.interp_bind, Fallible.run_bind_of_ok hdictionaries,
    Fallible.run_bind_of_ok hgroups, Fallible.run_bind_of_ok hordering, walkRootKeyTuples,
    interp_askKeyTuple_revalidate, ofirst, olast, oafirst, oalast, Fallible.lift_ok_bind]
  exact hwalk

lemma validateCommitDiagnosticsObject_eq_ok
    (hkind : (RefField.mk root.commitDiagnosticsRef [.debugJsonMetadata, .rowGroupIndexDelta]
      true).KindOk)
    (hobject : src.validateOptionalObject root.commitDiagnosticsRef root.commitDiagnosticsRef.kind
      limits = .ok ()) : validateCommitDiagnosticsObject src root limits = .ok () := by
  rw [validateCommitDiagnosticsObject]
  split
  case h_1 => rfl
  case h_2 hdebug => rwa [hdebug] at hobject
  case h_3 hdelta => rwa [hdelta] at hobject
  case h_4 hunknown hdebug hdelta =>
    rcases hkind with ⟨-, hnull⟩ | hmem
    · exact absurd hnull.2.2 hunknown
    · simp only [List.mem_cons, List.not_mem_nil, or_false] at hmem
      exact (hmem.elim hdebug hdelta).elim

/-- A snapshot in order is accepted, whatever empty references its root holds besides. -/
lemma isOk_loadCandidate {slot : OcbRootSlotV2} (hkinds : ∀ f ∈ root.refFields, f.KindOk)
    (hranges : ∀ f ∈ root.refFields, f.RangeOk src.fileLen)
    (h : RestInOrder src zstd validation limits root) :
    IsOk ((loadCandidate src zstd validation limits ⟨slot, root⟩).run
      (OcbOpenAuxiliaryObjectCache.new limits)).1 := by
  have hvalid := validate_checkedReferences hkinds hranges
  have hobjects := h.validateOptionalObject hvalid
  obtain ⟨m, b, hmetadata, hsemantics, ⟨positions, hgraph⟩, hbytes⟩ := h.graph
  rcases hrun : (GraphCandidate.revalidated src zstd limits
    ⟨m, root.columnChunkCount.toNat, validation, none, b⟩).run b with ⟨r, b'⟩
  rw [hrun] at hgraph
  obtain rfl : r = .ok positions := hgraph
  have hwhole := run_revalidated_of_none (of_readMetadataObjectsV2 hmetadata).1 hvalid hobjects hrun
  have htransparent : CacheTransparent src zstd limits (.new limits)
      ⟨m, root.columnChunkCount.toNat, validation, some root, b⟩ :=
    cacheTransparent_of_sound soundCache_new
  have hverdict := htransparent.verdict (by
    rw [show (new limits).references = [] from rfl, List.append_nil]
    exact hbytes)
  have hvalidate : (GraphCandidate.validate src zstd limits
      ⟨m, root.columnChunkCount.toNat, validation, some root, b⟩ (.new limits)).1 =
        .ok positions := by
    rw [hwhole] at hverdict
    rcases hverdict with hverdict | hspent
    · exact hverdict.symm
    · cases hspent
  rcases hstate : GraphCandidate.validate src zstd limits
    ⟨m, root.columnChunkCount.toNat, validation, some root, b⟩ (.new limits) with ⟨r, s⟩
  rw [hstate] at hvalidate
  obtain rfl : r = .ok positions := hvalidate
  have hdebug : src.validateOptionalObject root.debugJsonRef .debugJsonMetadata limits = .ok () :=
    hobjects (root.debugJsonRef, .debugJsonMetadata) (by simp [OcbRootV2.checkedReferences])
  have hdiagnostics : validateCommitDiagnosticsObject src root limits = .ok () :=
    validateCommitDiagnosticsObject_eq_ok (hkinds _ (by simp [OcbRootV2.refFields]))
      (hobjects (root.commitDiagnosticsRef, root.commitDiagnosticsRef.kind)
        (by simp [OcbRootV2.checkedReferences]))
  have hload : (loadV2Root src zstd root validation limits).run
      ⟨.new limits, .fromLimits limits⟩ = (finishMetadata m positions).run s := by
    rw [loadV2Root, Fallible.run_bind_of_ok
      (Opening.run_metered (s := ⟨.new limits, .fromLimits limits⟩) hmetadata),
      validateV2MetadataGraph, hsemantics, Fallible.lift_ok_bind,
      Fallible.run_bind_of_ok (t := s) (by exact hstate), hdebug, Fallible.lift_ok_bind,
      hdiagnostics, Fallible.lift_ok_bind]
  rw [loadCandidate, run_validateV2RootReferencedObjectsWithScope (hload.trans rfl)]
  exact ⟨_, rfl⟩

end InOrder

end ArcadiaTio.Ocb
