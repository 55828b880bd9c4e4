import Mathlib.Order.Bounds.Basic
import ArcadiaTio.Ocb.Bundle.Summaries
import ArcadiaTio.Ocb.Maintenance.Analysis

/-!
# The end of the selected snapshot

Every reference of a snapshot that was decoded and loaded points into the file
(`fits_snapshotReferences`), so the end of the snapshot can always be computed, and it is the
least length that holds the bootstrap page and every object the snapshot refers to
(`isLeast_of_selectedSnapshotReferencedEnd`).
-/

namespace ArcadiaTio.Ocb

open ArcadiaTio.Lib

namespace OcbBodyRefV2

/-- The offset after the last byte of an object. -/
def endOffset (r : OcbBodyRefV2) : ℕ := r.offset.toNat + r.length.toNat

/-- The reference is absent or points into the file. -/
def Fits (r : OcbBodyRefV2) (fileLen : ℕ) : Prop := r.IsNull ∨ r.InRange fileLen

variable {r : OcbBodyRefV2} {fileLen : ℕ}

lemma endOffset_of_isNull (h : r.IsNull) : r.endOffset = 0 := by
  obtain ⟨hoffset, hlength, -⟩ := h
  rw [endOffset, hoffset, hlength]
  rfl

lemma Fits.endOffset_le (h : r.Fits fileLen) : r.endOffset ≤ fileLen := by
  rcases h with hnull | hrange
  · rw [endOffset_of_isNull hnull]
    exact Nat.zero_le _
  · exact hrange.2

lemma Fits.endOffset_lt (h : r.Fits fileLen) : r.endOffset < 2 ^ 64 := by
  rcases h with hnull | hrange
  · rw [endOffset_of_isNull hnull]
    exact Nat.two_pow_pos 64
  · exact hrange.1

lemma Fits.of_validate {kind : OcbBodyKindV1} {u : Unit} (h : r.validate kind fileLen = .ok u) :
    r.Fits fileLen :=
  .inr (validate_eq_ok.mp h).2.2

end OcbBodyRefV2

/-! ### The least length that holds every object -/

/-- The lengths that hold the bootstrap page and the objects of these references. -/
def HoldsAll (references : List OcbBodyRefV2) : Set ℕ :=
  {n | ocbBootstrapPageLen ≤ n ∧ ∀ r ∈ references, r.endOffset ≤ n}

lemma bodyRefEnd_of_fits {r : OcbBodyRefV2} {fileLen : ℕ} (h : r.Fits fileLen) :
    bodyRefEnd r = .ok r.endOffset := by
  rw [bodyRefEnd, checkedAdd_of_lt h.endOffset_lt]
  rfl

lemma updateMaxRefEnd_of_fits {r : OcbBodyRefV2} {fileLen : ℕ} (h : r.Fits fileLen) (e : ℕ) :
    updateMaxRefEnd e r = .ok (max e r.endOffset) := by
  rw [updateMaxRefEnd]
  split
  case isTrue hnull =>
    rw [OcbBodyRefV2.endOffset_of_isNull hnull, Nat.max_zero]
  case isFalse =>
    rw [bodyRefEnd_of_fits h]
    rfl

/-- Going over references that point into the file ends at the last of their ends. -/
lemma foldlM_updateMaxRefEnd {references : List OcbBodyRefV2} {fileLen : ℕ}
    (h : ∀ r ∈ references, r.Fits fileLen) (start : ℕ) :
    ∃ e, references.foldlM updateMaxRefEnd start = .ok e ∧
      IsLeast {n | start ≤ n ∧ ∀ r ∈ references, r.endOffset ≤ n} e := by
  induction references generalizing start with
  | nil =>
    refine ⟨start, rfl, ⟨le_rfl, by simp⟩, ?_⟩
    rintro n ⟨hn, -⟩
    exact hn
  | cons r rest ih =>
    obtain ⟨e, he, ⟨hstart, hrest⟩, hleast⟩ :=
      ih (fun r' hr' => h r' (List.mem_cons_of_mem _ hr')) (max start r.endOffset)
    have hr := h r List.mem_cons_self
    refine ⟨e, ?_, ⟨(le_max_left _ _).trans hstart, ?_⟩, ?_⟩
    · rw [List.foldlM_cons, updateMaxRefEnd_of_fits hr, ok_bind, he]
    · intro r' hr'
      rcases List.mem_cons.mp hr' with rfl | hr'
      · exact (le_max_right _ _).trans hstart
      · exact hrest r' hr'
    · rintro n ⟨hn, hall⟩
      refine hleast ⟨max_le hn (hall r List.mem_cons_self), fun r' hr' => ?_⟩
      exact hall r' (List.mem_cons_of_mem _ hr')

/-- The end of a snapshot whose references point into the file is the least length that holds it. -/
lemma isLeast_of_selectedSnapshotReferencedEnd {slot : OcbRootSlotV2} {root : OcbRootV2}
    {m : OcbMetadataV1} {fileLen : ℕ}
    (h : ∀ r ∈ snapshotReferences slot root m, r.Fits fileLen) :
    ∃ e, selectedSnapshotReferencedEnd slot root m = .ok e ∧
      IsLeast (HoldsAll (snapshotReferences slot root m)) e :=
  foldlM_updateMaxRefEnd h ocbBootstrapPageLen

/-! ### The references of a decoded candidate -/

section Candidate

variable {src : OcbReadSource} {limits : OcbResourceLimits} {idx : ℕ}
  {slotResult : Result OcbRootSlotV2} {c : OcbRootCandidateV2}

lemma RefField.RangeOk.fits {f : RefField} {fileLen : ℕ} (h : f.RangeOk fileLen) :
    f.reference.Fits fileLen :=
  h.imp And.right id

/-- The slot of a decoded candidate is the one at its table position, and every check passed. -/
lemma passesChecks_of_decodeV2Candidate
    (h : decodeV2Candidate src limits idx slotResult = .ok (some c)) :
    slotResult = .ok c.slot ∧ PassesChecks src.fileLen idx c.slot c.root := by
  obtain ⟨bytes, hbytes, hroot⟩ := root_of_decodeV2Candidate h
  obtain ⟨slot, rfl, h'⟩ := bind_eq_ok.mp h
  have hslot : slot = c.slot := by
    by_cases hempty : slot.IsEmpty
    · rw [if_pos hempty] at h'
      cases h'
    · rw [if_neg hempty] at h'
      obtain ⟨-, -, h'⟩ := bind_eq_ok.mp h'
      obtain ⟨bytes, -, h'⟩ := bind_eq_ok.mp h'
      obtain ⟨root, -, h'⟩ := bind_eq_ok.mp h'
      obtain ⟨-, -, h'⟩ := bind_eq_ok.mp h'
      obtain ⟨-, -, h'⟩ := bind_eq_ok.mp h'
      cases h'
      rfl
  subst hslot
  exact ⟨rfl, ((decodeV2Candidate_eq_some idx hbytes hroot).mp h).2⟩

/-- The references of the slot and of the root. -/
lemma fits_of_decodeV2Candidate
    (h : decodeV2Candidate src limits idx slotResult = .ok (some c)) :
    c.slot.rootRef.Fits src.fileLen ∧ c.slot.previousRootRef.Fits src.fileLen ∧
      c.slot.commitDiagnosticsRef.Fits src.fileLen ∧
      ∀ f ∈ c.root.refFields, f.reference.Fits src.fileLen := by
  obtain ⟨bytes, hbytes, -⟩ := root_of_decodeV2Candidate h
  obtain ⟨u, hvalid, -⟩ := bind_eq_ok.mp hbytes
  obtain ⟨-, -, -, ⟨-, hprevious⟩, ⟨-, hdiagnostics⟩, -, hranges, -⟩ :=
    passesChecks_of_decodeV2Candidate h
  exact ⟨.of_validate hvalid, hprevious.fits, hdiagnostics.fits, fun f hf => (hranges f hf).fits⟩

end Candidate

/-! ### The references of loaded metadata -/

section Loaded

variable {src : OcbReadSource} {zstd : ZstdCodec} {validation : OcbOpenValidationMode}
  {limits : OcbResourceLimits} {m : OcbMetadataV1}

/-- Every chunk of the table belongs to a row group, and passed its check there. -/
lemma GraphValidated.exists_rowGroup (h : GraphValidated src zstd validation limits m)
    {chunk : OcbColumnChunkDescV1} (hchunk : chunk ∈ m.rowGroupIndex.columnChunks) :
    ∃ g ∈ m.rowGroupIndex.rowGroups,
      validateChunkDesc src zstd m g chunk m.schema.columns validation limits = .ok () := by
  obtain ⟨c, hwalk, -, hend, -⟩ := h.rowGroups
  obtain ⟨i, hi, rfl⟩ := List.getElem_of_mem hchunk
  obtain ⟨j, ⟨range, hrange, hle, hlt⟩, -⟩ :=
    hwalk.chunks.existsUnique_range (Nat.zero_le i) (by rwa [hend])
  rw [List.getElem?_map, Option.map_eq_some_iff] at hrange
  obtain ⟨g, hg, rfl⟩ := hrange
  simp only [OcbRowGroupDescV1.chunkRange] at hle hlt
  obtain ⟨chunks, hslice, -, -, hchecked⟩ := (hwalk.checked g (List.mem_of_getElem? hg)).chunks
  refine ⟨g, List.mem_of_getElem? hg, hchecked _ ?_⟩
  obtain ⟨endPos, hend, hslice⟩ := bind_eq_ok.mp hslice
  obtain ⟨rfl, -⟩ := checkedAdd_eq_some.mp (okOr_eq_ok.mp hend)
  obtain ⟨_, -, hslice⟩ := bind_eq_ok.mp hslice
  cases hslice
  -- the position of the chunk inside the slice
  refine List.mem_iff_getElem?.mpr ⟨i - g.chunkDescBegin.toNat, ?_⟩
  have hpos : g.chunkDescBegin.toNat + (i - g.chunkDescBegin.toNat) = i := Nat.add_sub_cancel' hle
  rw [List.getElem?_drop, hpos, List.getElem?_take_of_lt hlt, List.getElem?_eq_getElem hi]

/-- The auxiliary objects that a graph refers to, in a file of this length. -/
lemma fits_of_preflight {v2Root : Option OcbRootV2} {s s' : OpenState}
    (h : (preflight m v2Root).run s = (.ok (), s')) :
    ∀ p ∈ auxiliaryObjectReferences m v2Root, p.1.Fits m.fileLen := by
  obtain ⟨_, hvalid, -⟩ := Fallible.run_lift_bind_eq_ok.mp h
  intro p hp
  exact .of_validate (forM_eq_ok.mp hvalid p hp)

lemma fits_of_optionalKeyTuple {r : OcbBodyRefV2} {fileLen : ℕ}
    (h : ∀ p ∈ optionalKeyTuple r, p.1.Fits fileLen) : r.Fits fileLen := by
  by_cases hnull : r.IsNull
  · exact .inl hnull
  · exact h (r, .keyTuple) (by simp [optionalKeyTuple, hnull])

/-- The references of the metadata, each absent or inside a file of this length. -/
structure MetadataFits (m : OcbMetadataV1) (fileLen : ℕ) : Prop where
  stringTable : m.schema.stringTableRef.Fits fileLen
  dictionaries : ∀ index, m.dictionaryIndex = some index → ∀ d ∈ index.dictionaries,
    d.valuesRef.Fits fileLen
  rowGroups : ∀ g ∈ m.rowGroupIndex.rowGroups,
    g.firstKeyTupleRef.Fits fileLen ∧ g.lastKeyTupleRef.Fits fileLen
  chunks : ∀ chunk ∈ m.rowGroupIndex.columnChunks,
    chunk.valueRef.Fits fileLen ∧ chunk.validityRef.Fits fileLen
  proofs : ∀ ordering, m.orderingProof = some ordering → ∀ p ∈ ordering.rowGroupProofs,
    p.firstTupleRef.Fits fileLen ∧ p.lastTupleRef.Fits fileLen

lemma stringTable_of_readMetadataObjects {root : OcbRootV1} {b b' : MetadataMaterializationBudget}
    (h : (readMetadataObjectsWithResourceLimits src root limits).run b = (.ok m, b')) :
    m.schema.stringTableRef.Fits src.fileLen := by
  obtain ⟨schemaBytes, -, h⟩ := Fallible.run_lift_bind_eq_ok.mp h
  obtain ⟨schema, b₁, -, h⟩ := Fallible.run_bind_eq_ok.mp h
  obtain ⟨stringBytes, hstrings, h⟩ := Fallible.run_lift_bind_eq_ok.mp h
  obtain ⟨stringTable, b₂, -, h⟩ := Fallible.run_bind_eq_ok.mp h
  obtain ⟨dictionaryIndex, b₃, -, h⟩ := Fallible.run_bind_eq_ok.mp h
  obtain ⟨indexBytes, -, h⟩ := Fallible.run_lift_bind_eq_ok.mp h
  obtain ⟨rowGroupIndex, b₄, -, h⟩ := Fallible.run_bind_eq_ok.mp h
  obtain ⟨orderingProof, b₅, -, h⟩ := Fallible.run_bind_eq_ok.mp h
  cases h
  obtain ⟨u, hvalid, -⟩ := bind_eq_ok.mp hstrings
  exact .of_validate hvalid

/-- A delta leaves the schema as it is. -/
lemma stringTable_of_readMetadataObjectsV2 {root : OcbRootV2}
    {b b' : MetadataMaterializationBudget}
    (h : (readMetadataObjectsV2WithResourceLimits src root limits).run b = (.ok m, b')) :
    m.schema.stringTableRef.Fits src.fileLen := by
  obtain ⟨base, b₁, hbase, h⟩ := Fallible.run_bind_eq_ok.mp h
  obtain ⟨m₁, b₂, hdelta, h⟩ := Fallible.run_bind_eq_ok.mp h
  have hfits := stringTable_of_readMetadataObjects hbase
  cases h
  rcases of_applyCommittedDelta hdelta with rfl | ⟨delta, target, rfl⟩ <;> exact hfits

/-- Metadata that loaded refers only to objects inside the file. -/
lemma metadataFits_of_loadV2Root {root : OcbRootV2} {s s' : OpenState}
    (h : (loadV2Root src zstd root validation limits).run s = (.ok m, s')) :
    MetadataFits m src.fileLen := by
  have hopened := opened_of_loadV2Root h
  obtain ⟨m₁, s₁, hobjects, h⟩ := Fallible.run_bind_eq_ok.mp h
  obtain ⟨positions, s₂, hgraph, h⟩ := Fallible.run_bind_eq_ok.mp h
  obtain ⟨_, -, h⟩ := Fallible.run_lift_bind_eq_ok.mp h
  obtain ⟨_, -, h⟩ := Fallible.run_lift_bind_eq_ok.mp h
  obtain ⟨_, -, hgraph⟩ := Fallible.run_lift_bind_eq_ok.mp hgraph
  obtain ⟨_, -, hgraph⟩ := Fallible.run_lift_bind_eq_ok.mp hgraph
  obtain ⟨columns, -, hgraph⟩ := Fallible.run_lift_bind_eq_ok.mp hgraph
  obtain ⟨_, s₃, hpreflight, -⟩ := Fallible.run_bind_eq_ok.mp hgraph
  have hstring := stringTable_of_readMetadataObjectsV2 (of_run_metered hobjects)
  have hlen : m₁.fileLen = src.fileLen :=
    (of_readMetadataObjectsV2 (of_run_metered hobjects)).1
  have haux := fits_of_preflight hpreflight
  rw [hlen] at haux
  cases h
  simp only [auxiliaryObjectReferences, List.mem_append] at haux
  refine ⟨hstring, fun index hindex d hd => ?_, fun g hg => ?_, fun chunk hchunk => ?_,
    fun ordering hordering p hp => ?_⟩
  · refine haux (d.valuesRef, .dictionaryValues) (.inl (.inl (.inl ?_)))
    replace hindex : m₁.dictionaryIndex = some index := hindex
    rw [hindex]
    exact List.mem_map_of_mem hd
  · refine ⟨fits_of_optionalKeyTuple fun q hq => haux q (.inl (.inl (.inr ?_))),
      fits_of_optionalKeyTuple fun q hq => haux q (.inl (.inl (.inr ?_)))⟩
    · exact List.mem_flatMap.mpr ⟨g, hg, List.mem_append_left _ hq⟩
    · exact List.mem_flatMap.mpr ⟨g, hg, List.mem_append_right _ hq⟩
  · obtain ⟨g, -, hvalid⟩ := hopened.toGraphValidated.exists_rowGroup hchunk
    have hrefs := refs_of_validateChunkDesc hvalid hopened.fileLen_eq
    rw [hopened.fileLen_eq] at hrefs
    exact ⟨.of_validate hrefs.value, hrefs.validity.elim .inl .of_validate⟩
  · replace hordering : m₁.orderingProof = some ordering := hordering
    rw [hordering] at haux
    refine ⟨fits_of_optionalKeyTuple fun q hq => haux q (.inl (.inr ?_)),
      fits_of_optionalKeyTuple fun q hq => haux q (.inl (.inr ?_))⟩
    · exact List.mem_flatMap.mpr ⟨p, hp, List.mem_append_left _ hq⟩
    · exact List.mem_flatMap.mpr ⟨p, hp, List.mem_append_right _ hq⟩

/-- Every reference of a snapshot that was decoded and loaded is absent or points into the file. -/
theorem fits_snapshotReferences {idx : ℕ} {slotResult : Result OcbRootSlotV2}
    {c : OcbRootCandidateV2} {s s' : OpenState}
    (hdecode : decodeV2Candidate src limits idx slotResult = .ok (some c))
    (hload : (loadV2Root src zstd c.root validation limits).run s = (.ok m, s')) :
    ∀ r ∈ snapshotReferences c.slot c.root m, r.Fits src.fileLen := by
  obtain ⟨hroot, hprevious, hdiagnostics, hfields⟩ := fits_of_decodeV2Candidate hdecode
  have hmetadata := metadataFits_of_loadV2Root hload
  simp only [OcbRootV2.refFields, List.forall_mem_cons, List.not_mem_nil, IsEmpty.forall_iff,
    implies_true, and_true] at hfields
  obtain ⟨hschema, hindex, hdictionary, hordering, hjson, hfirst, hlast, hafirst, halast, hcommit,
    hroots⟩ := hfields
  simp only [snapshotReferences, List.mem_append]
  rintro r ((((hr | hr) | hr) | hr) | hr)
  · have hall : ∀ r ∈ [c.slot.rootRef, c.slot.previousRootRef, c.slot.commitDiagnosticsRef,
        c.root.previousRootRef, c.root.schemaRef, c.root.dictionaryIndexRef,
        c.root.rowGroupIndexRef, c.root.orderingProofRef, c.root.debugJsonRef,
        c.root.firstKeyTupleRef, c.root.lastKeyTupleRef, c.root.appendFirstKeyTupleRef,
        c.root.appendLastKeyTupleRef, c.root.commitDiagnosticsRef, m.schema.stringTableRef],
        r.Fits src.fileLen := by
      simp only [List.forall_mem_cons, List.not_mem_nil, IsEmpty.forall_iff, implies_true, and_true]
      exact ⟨hroot, hprevious, hdiagnostics, hroots, hschema, hdictionary, hindex, hordering, hjson,
        hfirst, hlast, hafirst, halast, hcommit, hmetadata.stringTable⟩
    exact hall r hr
  · cases hdict : m.dictionaryIndex with
    | none => simp [hdict] at hr
    | some index =>
      rw [hdict] at hr
      obtain ⟨d, hd, rfl⟩ := List.mem_map.mp hr
      exact hmetadata.dictionaries index hdict d hd
  · obtain ⟨g, hg, hr⟩ := List.mem_flatMap.mp hr
    obtain ⟨hfirst, hlast⟩ := hmetadata.rowGroups g hg
    simp only [List.mem_cons, List.not_mem_nil, or_false] at hr
    rcases hr with rfl | rfl
    · exact hfirst
    · exact hlast
  · obtain ⟨chunk, hchunk, hr⟩ := List.mem_flatMap.mp hr
    obtain ⟨hvalue, hvalidity⟩ := hmetadata.chunks chunk hchunk
    simp only [List.mem_cons, List.not_mem_nil, or_false] at hr
    rcases hr with rfl | rfl
    · exact hvalue
    · exact hvalidity
  · cases hproof : m.orderingProof with
    | none => simp [hproof] at hr
    | some ordering =>
      rw [hproof] at hr
      obtain ⟨p, hp, hr⟩ := List.mem_flatMap.mp hr
      obtain ⟨hfirst, hlast⟩ := hmetadata.proofs ordering hproof p hp
      simp only [List.mem_cons, List.not_mem_nil, or_false] at hr
      rcases hr with rfl | rfl
      · exact hfirst
      · exact hlast

end Loaded

end ArcadiaTio.Ocb
