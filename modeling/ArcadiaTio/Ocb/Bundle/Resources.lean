import ArcadiaTio.Ocb.Bundle.Lookup
import ArcadiaTio.Ocb.Bundle.Planning
import Mathlib.Algebra.Order.BigOperators.Group.Finset
import Mathlib.Order.Interval.Finset.Nat

/-!
# Resource admission

Before a plan is executed, the bytes of its row groups are added up from their descriptors: all of
them for an execution that keeps every batch, those of each sliding window or of each wave for one
that keeps only the row groups in flight.
-/

namespace ArcadiaTio.Ocb

open ArcadiaTio.Lib

/-! ### Footprints -/

/-- The bytes of the selected columns of one row group. -/
structure SelectedResourceFootprint where
  compressedBytes : ℕ
  decodedMaterializedBytes : ℕ
  rowCount : ℕ
deriving DecidableEq

namespace SelectedResourceFootprint

/-- The footprint of nothing. -/
def zero : SelectedResourceFootprint := ⟨0, 0, 0⟩

/-- Add the bytes of another footprint; the rows are not added up. -/
def add (total footprint : SelectedResourceFootprint) : Option SelectedResourceFootprint := do
  let compressedBytes ← checkedAdd 64 total.compressedBytes footprint.compressedBytes
  let decodedMaterializedBytes ←
    checkedAdd 64 total.decodedMaterializedBytes footprint.decodedMaterializedBytes
  return { total with compressedBytes, decodedMaterializedBytes }

end SelectedResourceFootprint

/-- The bytes of a chunk object around its payload. -/
def objectOverhead : ℕ := ocbColumnChunkV1HeaderLen + 4

/-- The descriptor of the chunk of one selected column, for the accounting. -/
def selectedChunk (chunks : List OcbColumnChunkDescV1) (columnId : UInt32) :
    Result OcbColumnChunkDescV1 :=
  okOr (chunks.find? fun chunk => chunk.columnId = columnId)
    (ocbCorruptFile "OCB resource accounting selected chunk is missing")

/-- The validity bitmap of a chunk is in the file and as long as its rows need. -/
def checkValidityRef (m : OcbMetadataV1) (chunk : OcbColumnChunkDescV1) : Result Unit := do
  chunk.validityRef.validate .validityBitmap m.fileLen
  failIf (chunk.validityRef.length.toNat ≠ validityBitmapLen chunk.rowCount.toNat)
    (ocbCorruptFile "OCB validity bitmap length does not match row count")

/-- The bytes of the payload of a chunk in the file. -/
def encodedPayloadBytes (chunk : OcbColumnChunkDescV1) : Result ℕ :=
  okOr (checkedSub chunk.valueRef.length.toNat objectOverhead)
    (ocbCorruptFile "OCB resource accounting column chunk object is too short")

/-- The first pass over the selected columns: their descriptors are sound. -/
def checkSelectedChunk (m : OcbMetadataV1) (chunks : List OcbColumnChunkDescV1)
    (columnId : UInt32) : Result Unit := do
  let chunk ← selectedChunk chunks columnId
  chunk.valueRef.validate .columnChunk m.fileLen
  let _ ← encodedPayloadBytes chunk
  if chunk.validityRef.IsNull then pure () else checkValidityRef m chunk

/-- The second pass: the bytes of one more column, each object within its limit. -/
def addSelectedChunk (m : OcbMetadataV1) (chunks : List OcbColumnChunkDescV1)
    (footprint : SelectedResourceFootprint) (columnId : UInt32) :
    Result SelectedResourceFootprint := do
  let chunk ← selectedChunk chunks columnId
  chunk.valueRef.validate .columnChunk m.fileLen
  let encodedBytes ← encodedPayloadBytes chunk
  failIf (chunk.valueRef.length > m.resourceLimits.maxEncodedObjectBytes)
    (ocbInvalidInput "OCB encoded object exceeds resource limit")
  failIf (encodedBytes > m.resourceLimits.maxCompressedChunkBytes.toNat)
    (ocbInvalidInput "OCB encoded column chunk payload exceeds resource limit")
  failIf (chunk.uncompressedBytes > m.resourceLimits.maxDecompressedChunkBytes)
    (ocbInvalidInput "OCB decoded column chunk payload exceeds resource limit")
  let compressedBytes ← okOr (checkedAdd 64 footprint.compressedBytes encodedBytes)
    (ocbCorruptFile "OCB selected compressed byte accounting overflows")
  let decodedMaterializedBytes ← okOr
    (checkedAdd 64 footprint.decodedMaterializedBytes chunk.uncompressedBytes.toNat)
    (ocbCorruptFile "OCB selected decoded byte accounting overflows")
  if chunk.validityRef.IsNull then return { footprint with compressedBytes, decodedMaterializedBytes }
  checkValidityRef m chunk
  failIf (chunk.validityRef.length > m.resourceLimits.maxEncodedObjectBytes)
    (ocbInvalidInput "OCB encoded object exceeds resource limit")
  let validityBytes := validityBitmapLen chunk.rowCount.toNat
  let compressedBytes ← okOr (checkedAdd 64 compressedBytes validityBytes)
    (ocbCorruptFile "OCB selected compressed byte accounting overflows")
  let decodedMaterializedBytes ← okOr (checkedAdd 64 decodedMaterializedBytes validityBytes)
    (ocbCorruptFile "OCB selected decoded byte accounting overflows")
  return { footprint with compressedBytes, decodedMaterializedBytes }

/-- The footprint of the selected columns of a row group. -/
def selectedResourceFootprintForRowGroupDesc (m : OcbMetadataV1) (rowGroup : OcbRowGroupDescV1)
    (selectedColumnIds : List UInt32) : Result SelectedResourceFootprint := do
  let chunks ← chunksForRowGroup m rowGroup.chunkDescBegin rowGroup.chunkDescCount
  forM selectedColumnIds (checkSelectedChunk m chunks)
  let footprint ← selectedColumnIds.foldlM (addSelectedChunk m chunks)
    ⟨0, 0, rowGroup.rowCount.toNat⟩
  failIf (footprint.decodedMaterializedBytes > m.resourceLimits.maxProjectedRowGroupBytes.toNat)
    (ocbInvalidInput "OCB projected decoded row group exceeds resource limit")
  return footprint

/-- The descriptors of the row groups of a plan. -/
def selectedRowGroupsForPlan (m : OcbMetadataV1) (plan : ColumnBundleReadPlan) :
    Result (List OcbRowGroupDescV1) := do
  failIf (¬ plan.rowGroupIds.Nodup)
    (ocbInvalidInput "OCB read plan contains duplicate row group ids")
  plan.rowGroupIds.mapM fun rowGroupId => okOr (m.rowGroupById rowGroupId)
    (ocbInvalidInput "OCB read plan references an unknown row group id")

/-- The footprints of the row groups of a plan. -/
def selectedResourceFootprintsForPlan (m : OcbMetadataV1) (plan : ColumnBundleReadPlan) :
    Result (List SelectedResourceFootprint) := do
  let rowGroups ← selectedRowGroupsForPlan m plan
  rowGroups.mapM fun rowGroup =>
    selectedResourceFootprintForRowGroupDesc m rowGroup plan.projectedColumnIds

/-! ### Totals -/

/-- A footprint is within the limits on owned bytes. -/
def validateFootprintTotals (footprint : SelectedResourceFootprint) (limits : OcbResourceLimits) :
    Result Unit := do
  failIf (footprint.compressedBytes > limits.maxOwnedSelectedCompressedBytes.toNat)
    (ocbInvalidInput "OCB selected compressed bytes exceed resource limit")
  failIf (footprint.decodedMaterializedBytes > limits.maxOwnedDecodedMaterializedBytes.toNat)
    (ocbInvalidInput "OCB decoded and materialized bytes exceed resource limit")

/-- Add the bytes of one more row group of an execution that keeps every batch. -/
def addOwned (total footprint : SelectedResourceFootprint) : Result SelectedResourceFootprint := do
  let compressedBytes ← okOr (checkedAdd 64 total.compressedBytes footprint.compressedBytes)
    (ocbCorruptFile "OCB owned compressed byte accounting overflows")
  let decodedMaterializedBytes ← okOr
    (checkedAdd 64 total.decodedMaterializedBytes footprint.decodedMaterializedBytes)
    (ocbCorruptFile "OCB owned decoded byte accounting overflows")
  return { total with compressedBytes, decodedMaterializedBytes }

/-- All row groups of a plan together are within the limits. -/
def validateOwnedPlanResourceLimits (m : OcbMetadataV1) (plan : ColumnBundleReadPlan) :
    Result Unit := do
  let footprints ← selectedResourceFootprintsForPlan m plan
  let total ← footprints.foldlM addOwned .zero
  validateFootprintTotals total m.resourceLimits

/-- The list in pieces of `size` elements; the last piece may be shorter. -/
def waves {α : Type} (size : ℕ) (l : List α) : List (List α) :=
  if _h : size = 0 ∨ l = [] then []
  else l.take size :: waves size (l.drop size)
termination_by l.length
decreasing_by
  have hlength := List.length_pos_of_ne_nil (not_or.mp _h).2
  simp only [List.length_drop]
  omega

/-- Every wave of row groups fits the limits. -/
def validateWaves (footprints : List SelectedResourceFootprint) (waveSize : ℕ)
    (limits : OcbResourceLimits) : Result Unit :=
  forM (waves waveSize footprints) fun wave => do
    let total ← okOr (wave.foldlM SelectedResourceFootprint.add .zero)
      (ocbCorruptFile "OCB in-flight resource accounting overflows")
    validateFootprintTotals total limits

/-- Every wave of row groups of a plan is within the limits. -/
def validateContiguousInFlightPlanResourceLimits (m : OcbMetadataV1) (plan : ColumnBundleReadPlan)
    (maxInFlightRowGroups : ℕ) : Result Unit := do
  let waveSize := max maxInFlightRowGroups 1
  let footprints ← selectedResourceFootprintsForPlan m plan
  validateWaves footprints waveSize m.resourceLimits

/-- Move the window on by one row group: the first of `step` leaves it and the second enters. -/
def slideWindow (limits : OcbResourceLimits) (total : SelectedResourceFootprint)
    (step : SelectedResourceFootprint × SelectedResourceFootprint) :
    Result SelectedResourceFootprint := do
  let compressedBytes ← okOr ((checkedSub total.compressedBytes step.1.compressedBytes).bind
      fun bytes => checkedAdd 64 bytes step.2.compressedBytes)
    (ocbCorruptFile "OCB sliding compressed byte accounting is inconsistent")
  let decodedMaterializedBytes ← okOr
    ((checkedSub total.decodedMaterializedBytes step.1.decodedMaterializedBytes).bind
      fun bytes => checkedAdd 64 bytes step.2.decodedMaterializedBytes)
    (ocbCorruptFile "OCB sliding decoded byte accounting is inconsistent")
  let total := { total with compressedBytes, decodedMaterializedBytes }
  validateFootprintTotals total limits
  return total

/-- Every window of row groups that follow each other fits the limits. -/
def validateSlidingResourceFootprints (footprints : List SelectedResourceFootprint)
    (maxInFlightRowGroups : ℕ) (limits : OcbResourceLimits) : Result Unit := do
  if footprints.isEmpty then return ()
  let windowSize := min (max maxInFlightRowGroups 1) footprints.length
  let total ← okOr ((footprints.take windowSize).foldlM SelectedResourceFootprint.add .zero)
    (ocbCorruptFile "OCB sliding in-flight resource accounting overflows")
  validateFootprintTotals total limits
  let _ ← (footprints.zip (footprints.drop windowSize)).foldlM (slideWindow limits) total
  return ()

/-- Every window of row groups of a plan is within the limits. -/
def validateSlidingInFlightPlanResourceLimits (m : OcbMetadataV1) (plan : ColumnBundleReadPlan)
    (maxInFlightRowGroups : ℕ) : Result Unit := do
  let footprints ← selectedResourceFootprintsForPlan m plan
  validateSlidingResourceFootprints footprints maxInFlightRowGroups m.resourceLimits

/-! ### What the admission admits -/

/-- The bytes of some row groups are within the limits. -/
structure WithinLimits (limits : OcbResourceLimits) (footprints : List SelectedResourceFootprint) :
    Prop where
  compressed : (footprints.map SelectedResourceFootprint.compressedBytes).sum ≤
    limits.maxOwnedSelectedCompressedBytes.toNat
  decoded : (footprints.map SelectedResourceFootprint.decodedMaterializedBytes).sum ≤
    limits.maxOwnedDecodedMaterializedBytes.toNat

/-- A total is that of the row groups. -/
structure IsTotal (footprints : List SelectedResourceFootprint) (total : SelectedResourceFootprint) :
    Prop where
  compressed : total.compressedBytes =
    (footprints.map SelectedResourceFootprint.compressedBytes).sum
  decoded : total.decodedMaterializedBytes =
    (footprints.map SelectedResourceFootprint.decodedMaterializedBytes).sum

section Admission

variable {footprints : List SelectedResourceFootprint} {limits : OcbResourceLimits}

lemma add_eq_some {total footprint sum : SelectedResourceFootprint}
    (h : total.add footprint = some sum) :
    sum.compressedBytes = total.compressedBytes + footprint.compressedBytes ∧
      sum.decodedMaterializedBytes =
        total.decodedMaterializedBytes + footprint.decodedMaterializedBytes := by
  simp only [SelectedResourceFootprint.add, Option.bind_eq_bind, Option.bind_eq_some_iff,
    checkedAdd_eq_some] at h
  obtain ⟨_, ⟨rfl, -⟩, _, ⟨rfl, -⟩, hsum⟩ := h
  cases hsum
  exact ⟨rfl, rfl⟩

lemma isTotal_of_foldlM {total sum : SelectedResourceFootprint} {before : List _}
    (htotal : IsTotal before total)
    (h : footprints.foldlM SelectedResourceFootprint.add total = some sum) :
    IsTotal (before ++ footprints) sum := by
  induction footprints generalizing total before with
  | nil =>
    cases h
    rwa [List.append_nil]
  | cons footprint rest ih =>
    rw [List.foldlM_cons] at h
    obtain ⟨next, hnext, hrest⟩ := Option.bind_eq_some_iff.mp h
    obtain ⟨hcompressed, hdecoded⟩ := add_eq_some hnext
    have hnext' : IsTotal (before ++ [footprint]) next := by
      refine ⟨?_, ?_⟩
      · rw [hcompressed, htotal.compressed, List.map_append, List.sum_append]
        rfl
      · rw [hdecoded, htotal.decoded, List.map_append, List.sum_append]
        rfl
    have hsum := ih hnext' hrest
    rwa [List.append_assoc] at hsum

lemma withinLimits_of_validate {total : SelectedResourceFootprint} {u : Unit}
    (htotal : IsTotal footprints total) (h : validateFootprintTotals total limits = .ok u) :
    WithinLimits limits footprints := by
  obtain ⟨_, hcompressed, hdecoded⟩ := bind_eq_ok.mp h
  rw [failIf_eq_ok] at hcompressed hdecoded
  exact ⟨htotal.compressed ▸ not_lt.mp hcompressed, htotal.decoded ▸ not_lt.mp hdecoded⟩

lemma isTotal_nil : IsTotal [] .zero := ⟨rfl, rfl⟩

/-- Accepted waves are within the limits. -/
theorem withinLimits_of_validateWaves {waveSize : ℕ} (hpos : 0 < waveSize) {u : Unit}
    (h : validateWaves footprints waveSize limits = .ok u) (k : ℕ) :
    WithinLimits limits ((footprints.drop (k * waveSize)).take waveSize) := by
  rw [validateWaves, forM_eq_ok] at h
  induction k generalizing footprints with
  | zero =>
    rw [Nat.zero_mul, List.drop_zero]
    by_cases hnil : footprints = []
    · rw [hnil, List.take_nil]
      exact ⟨Nat.zero_le _, Nat.zero_le _⟩
    · have hfirst := h (footprints.take waveSize) (by
        rw [waves, dif_neg (not_or.mpr ⟨hpos.ne', hnil⟩)]
        exact List.mem_cons_self)
      obtain ⟨total, htotal, hvalid⟩ := bind_eq_ok.mp hfirst
      exact withinLimits_of_validate (isTotal_of_foldlM isTotal_nil (okOr_eq_ok.mp htotal)) hvalid
  | succ k ih =>
    rw [Nat.succ_mul, Nat.add_comm, ← List.drop_drop]
    refine ih fun wave hwave => h wave ?_
    by_cases hnil : footprints = []
    · rw [hnil, List.drop_nil] at hwave
      rwa [hnil]
    · rw [waves, dif_neg (not_or.mpr ⟨hpos.ne', hnil⟩)]
      exact List.mem_cons_of_mem _ hwave

lemma slideWindow_eq_ok {total next : SelectedResourceFootprint}
    {step : SelectedResourceFootprint × SelectedResourceFootprint}
    (h : slideWindow limits total step = .ok next) :
    total.compressedBytes + step.2.compressedBytes =
        step.1.compressedBytes + next.compressedBytes ∧
      total.decodedMaterializedBytes + step.2.decodedMaterializedBytes =
        step.1.decodedMaterializedBytes + next.decodedMaterializedBytes ∧
      validateFootprintTotals next limits = .ok () := by
  obtain ⟨compressed, hcompressed, h⟩ := bind_eq_ok.mp h
  obtain ⟨decoded, hdecoded, h⟩ := bind_eq_ok.mp h
  obtain ⟨_, hvalid, h⟩ := bind_eq_ok.mp h
  cases h
  simp only [okOr_eq_ok, Option.bind_eq_some_iff, checkedSub_eq_some,
    checkedAdd_eq_some] at hcompressed hdecoded
  obtain ⟨_, ⟨rfl, hle⟩, rfl, -⟩ := hcompressed
  obtain ⟨_, ⟨rfl, hle'⟩, rfl, -⟩ := hdecoded
  exact ⟨by dsimp only; omega, by dsimp only; omega, hvalid⟩

/-- The bytes of some row groups fit a machine word. -/
structure SumsFit (footprints : List SelectedResourceFootprint) : Prop where
  compressed : (footprints.map SelectedResourceFootprint.compressedBytes).sum < 2 ^ 64
  decoded : (footprints.map SelectedResourceFootprint.decodedMaterializedBytes).sum < 2 ^ 64

lemma WithinLimits.sumsFit (h : WithinLimits limits footprints) : SumsFit footprints :=
  ⟨h.compressed.trans_lt limits.maxOwnedSelectedCompressedBytes.toNat_lt,
    h.decoded.trans_lt limits.maxOwnedDecodedMaterializedBytes.toNat_lt⟩

/-- The window moves on by one row group: from one that begins with `previous` to one that ends
with `next`. -/
lemma exists_next_of_window (previous : SelectedResourceFootprint)
    {rest : List SelectedResourceFootprint} {size : ℕ} (hsize : 0 < size)
    (hlength : size ≤ rest.length) :
    ∃ next, (previous :: rest).drop size = next :: rest.drop size ∧
      rest.take size = rest.take (size - 1) ++ [next] ∧
      (previous :: rest).take size = previous :: rest.take (size - 1) := by
  obtain ⟨size, rfl⟩ : ∃ n, size = n + 1 := ⟨size - 1, by omega⟩
  rw [Nat.add_sub_cancel]
  obtain ⟨next, hnext⟩ : ∃ next, rest[size]? = some next :=
    ⟨_, List.getElem?_eq_getElem (by omega)⟩
  refine ⟨next, ?_, ?_, rfl⟩
  · rw [List.drop_succ_cons, List.drop_eq_getElem?_toList_append, hnext]
    rfl
  · rw [List.take_add_one, hnext]
    rfl

/-- The running total of the window that has moved on. -/
lemma IsTotal.slide {previous next total total' : SelectedResourceFootprint}
    {window : List SelectedResourceFootprint} (htotal : IsTotal (previous :: window) total)
    (hcompressed : total.compressedBytes + next.compressedBytes =
      previous.compressedBytes + total'.compressedBytes)
    (hdecoded : total.decodedMaterializedBytes + next.decodedMaterializedBytes =
      previous.decodedMaterializedBytes + total'.decodedMaterializedBytes) :
    IsTotal (window ++ [next]) total' := by
  have hc := htotal.compressed
  have hd := htotal.decoded
  rw [List.map_cons, List.sum_cons] at hc hd
  refine ⟨?_, ?_⟩
  · rw [List.map_append, List.sum_append, List.map_singleton, List.sum_singleton]
    omega
  · rw [List.map_append, List.sum_append, List.map_singleton, List.sum_singleton]
    omega

/-- While the window slides, its total is that of its row groups. -/
lemma withinLimits_of_slide {size : ℕ} (hsize : 0 < size) {total last : SelectedResourceFootprint}
    (htotal : IsTotal (footprints.take size) total)
    (hwithin : WithinLimits limits (footprints.take size))
    (h : (footprints.zip (footprints.drop size)).foldlM (slideWindow limits) total = .ok last)
    {k : ℕ} (hk : k + size ≤ footprints.length) :
    WithinLimits limits ((footprints.drop k).take size) := by
  induction k generalizing footprints total with
  | zero => exact hwithin
  | succ k ih =>
    cases footprints with
    | nil => exact absurd hk (by simp)
    | cons previous rest =>
      rw [List.length_cons] at hk
      obtain ⟨next, hdrop, htake, hold⟩ :=
        exists_next_of_window previous hsize (show size ≤ rest.length by omega)
      rw [hdrop, List.zip_cons_cons, List.foldlM_cons] at h
      obtain ⟨total', hstep, hrest⟩ := bind_eq_ok.mp h
      obtain ⟨hcompressed, hdecoded, hvalid⟩ := slideWindow_eq_ok hstep
      have htotal' : IsTotal (rest.take size) total' := by
        rw [hold] at htotal
        rw [htake]
        exact htotal.slide hcompressed hdecoded
      rw [List.drop_succ_cons]
      exact ih htotal' (withinLimits_of_validate htotal' hvalid) hrest (by omega)

/-- Accepted sliding windows are within the limits. -/
theorem withinLimits_of_validateSliding {cap : ℕ} {u : Unit}
    (h : validateSlidingResourceFootprints footprints cap limits = .ok u) {k : ℕ}
    (hk : k + min (max cap 1) footprints.length ≤ footprints.length) :
    WithinLimits limits ((footprints.drop k).take (min (max cap 1) footprints.length)) := by
  by_cases hnil : footprints = []
  · rw [hnil, List.drop_nil, List.take_nil]
    exact ⟨Nat.zero_le _, Nat.zero_le _⟩
  · rw [validateSlidingResourceFootprints, if_neg (by simpa using hnil)] at h
    obtain ⟨total, hfirst, h⟩ := bind_eq_ok.mp h
    obtain ⟨_, hvalid, h⟩ := bind_eq_ok.mp h
    obtain ⟨last, hslide, -⟩ := bind_eq_ok.mp h
    have htotal := isTotal_of_foldlM isTotal_nil (okOr_eq_ok.mp hfirst)
    have hlength := List.length_pos_of_ne_nil hnil
    exact withinLimits_of_slide (by omega) htotal (withinLimits_of_validate htotal hvalid) hslide hk

/-! ### The sliding check and the naive one -/

lemma isOk_validateFootprintTotals {total : SelectedResourceFootprint}
    (htotal : IsTotal footprints total) :
    IsOk (validateFootprintTotals total limits) ↔ WithinLimits limits footprints := by
  constructor
  · rintro ⟨u, h⟩
    exact withinLimits_of_validate htotal h
  · intro h
    have hcompressed := h.compressed
    have hdecoded := h.decoded
    rw [← htotal.compressed] at hcompressed
    rw [← htotal.decoded] at hdecoded
    rw [validateFootprintTotals, failIf_neg (by omega), ok_bind, failIf_neg (by omega)]
    exact isOk_ok

/-- A total beyond the limits is no corruption. -/
lemma not_isCorrupt_validateFootprintTotals (total : SelectedResourceFootprint) :
    ErrorsIn (fun e => ¬ e.IsCorrupt) (validateFootprintTotals total limits) := by
  refine ErrorsIn.bind (.failIf fun _ => ?_) fun _ _ => .failIf fun _ => ?_
  · exact ArcadiaTioError.not_isCorrupt_ocbInvalidInput _
  · exact ArcadiaTioError.not_isCorrupt_ocbInvalidInput _

/-- Adding up succeeds when the sums fit. -/
lemma exists_total_of_sumsFit {before : List SelectedResourceFootprint}
    {total : SelectedResourceFootprint} (htotal : IsTotal before total)
    (hfit : SumsFit (before ++ footprints)) :
    ∃ sum, footprints.foldlM SelectedResourceFootprint.add total = some sum ∧
      IsTotal (before ++ footprints) sum := by
  induction footprints generalizing before total with
  | nil => exact ⟨total, rfl, by rwa [List.append_nil]⟩
  | cons footprint rest ih =>
    have hc := hfit.compressed
    have hd := hfit.decoded
    simp only [List.map_append, List.map_cons, List.sum_append, List.sum_cons] at hc hd
    rw [← htotal.compressed] at hc
    rw [← htotal.decoded] at hd
    obtain ⟨next, hnext⟩ : ∃ next, total.add footprint = some next := by
      rw [SelectedResourceFootprint.add, checkedAdd_of_lt (by omega), checkedAdd_of_lt (by omega)]
      exact ⟨_, rfl⟩
    obtain ⟨hcompressed, hdecoded⟩ := add_eq_some hnext
    have htotal' : IsTotal (before ++ [footprint]) next := by
      refine ⟨?_, ?_⟩
      · rw [hcompressed, htotal.compressed, List.map_append, List.sum_append, List.map_singleton,
          List.sum_singleton]
      · rw [hdecoded, htotal.decoded, List.map_append, List.sum_append, List.map_singleton,
          List.sum_singleton]
    have hassoc : before ++ [footprint] ++ rest = before ++ footprint :: rest := by
      rw [List.append_assoc, List.singleton_append]
    obtain ⟨sum, hsum, hisTotal⟩ := ih htotal' (hassoc ▸ hfit)
    exact ⟨sum, by rw [List.foldlM_cons, hnext]; exact hsum, hassoc ▸ hisTotal⟩

lemma exists_firstTotal (hfit : SumsFit footprints) :
    ∃ sum, footprints.foldlM SelectedResourceFootprint.add .zero = some sum ∧
      IsTotal footprints sum := exists_total_of_sumsFit isTotal_nil hfit

/-- Subtracting the row group that leaves the window never goes below zero, and adding the one that
enters overflows only when the new window does. -/
lemma exists_slideWindow (limits : OcbResourceLimits)
    {previous next total : SelectedResourceFootprint}
    {window : List SelectedResourceFootprint} (htotal : IsTotal (previous :: window) total)
    (hfit : SumsFit (window ++ [next])) :
    ∃ total', IsTotal (window ++ [next]) total' ∧ slideWindow limits total (previous, next) =
      validateFootprintTotals total' limits >>= fun _ => .ok total' := by
  have hc := htotal.compressed
  have hd := htotal.decoded
  have hfc := hfit.compressed
  have hfd := hfit.decoded
  simp only [List.map_cons, List.sum_cons] at hc hd
  simp only [List.map_append, List.sum_append, List.map_singleton, List.sum_singleton] at hfc hfd
  refine ⟨{ total with
    compressedBytes := total.compressedBytes - previous.compressedBytes + next.compressedBytes
    decodedMaterializedBytes := total.decodedMaterializedBytes -
      previous.decodedMaterializedBytes + next.decodedMaterializedBytes },
    htotal.slide (by dsimp only; omega) (by dsimp only; omega), ?_⟩
  have hcompressed : checkedSub total.compressedBytes previous.compressedBytes =
      some (total.compressedBytes - previous.compressedBytes) := if_pos (by omega)
  have hdecoded : checkedSub total.decodedMaterializedBytes previous.decodedMaterializedBytes =
      some (total.decodedMaterializedBytes - previous.decodedMaterializedBytes) :=
    if_pos (by omega)
  rw [slideWindow, hcompressed, hdecoded, Option.bind_some, Option.bind_some,
    checkedAdd_of_lt (by dsimp only; omega), checkedAdd_of_lt (by dsimp only; omega), okOr_some,
    ok_bind, okOr_some, ok_bind]
  rfl

/-- The windows that begin behind the first `k` row groups. -/
def windowAt (footprints : List SelectedResourceFootprint) (size k : ℕ) :
    List SelectedResourceFootprint := (footprints.drop k).take size

/-- While the window slides: it gets through when all windows are within the limits, and a
corruption is reported only when some window overflows. -/
lemma slide_eq_naive {size : ℕ} (hsize : 0 < size) {total : SelectedResourceFootprint}
    (htotal : IsTotal (footprints.take size) total) :
    ((∀ k, k + 1 + size ≤ footprints.length →
        WithinLimits limits (windowAt footprints size (k + 1))) →
      IsOk ((footprints.zip (footprints.drop size)).foldlM (slideWindow limits) total)) ∧
    ∀ e, (footprints.zip (footprints.drop size)).foldlM (slideWindow limits) total = .error e →
      e.IsCorrupt → ∃ k, k + 1 + size ≤ footprints.length ∧
        ¬ SumsFit (windowAt footprints size (k + 1)) := by
  -- on the footprints: one step takes the first one out and the next one behind the window in
  induction footprints generalizing total with
  | nil =>
    refine ⟨fun _ => isOk_ok, fun e he => ?_⟩
    cases he
  | cons previous rest ih =>
    rcases Nat.lt_or_ge rest.length size with hshort | hlength
    · -- no window follows the first one
      have hdrop : (previous :: rest).drop size = [] :=
        List.drop_eq_nil_of_le (by rw [List.length_cons]; omega)
      rw [hdrop, List.zip_nil_right]
      refine ⟨fun _ => isOk_ok, fun e he => ?_⟩
      cases he
    obtain ⟨next, hdrop, htake, hold⟩ := exists_next_of_window previous hsize hlength
    rw [hold] at htotal
    rw [hdrop, List.zip_cons_cons, List.foldlM_cons, List.length_cons]
    by_cases hfit : SumsFit (rest.take size)
    · obtain ⟨total', htotal', hslide⟩ :=
        exists_slideWindow limits htotal (htake ▸ hfit)
      rw [← htake] at htotal'
      obtain ⟨hok, hcorrupt⟩ := ih htotal'
      rw [hslide]
      refine ⟨fun hall => ?_, fun e he hisCorrupt => ?_⟩
      · obtain ⟨u, hvalid⟩ := (isOk_validateFootprintTotals htotal').mpr
          (by simpa [windowAt] using hall 0 (by omega))
        rw [hvalid, ok_bind, ok_bind]
        exact hok fun k hk => by simpa [windowAt] using hall (k + 1) (by omega)
      · cases hvalid : validateFootprintTotals total' limits with
        | error error =>
          rw [hvalid, error_bind, error_bind] at he
          cases he
          exact absurd hisCorrupt (not_isCorrupt_validateFootprintTotals _ _ hvalid)
        | ok u =>
          rw [hvalid, ok_bind, ok_bind] at he
          obtain ⟨k, hk, hoverflow⟩ := hcorrupt e he hisCorrupt
          exact ⟨k + 1, by omega, by simpa [windowAt] using hoverflow⟩
    · refine ⟨fun hall => ?_, fun _ _ _ => ⟨0, by omega, by simpa [windowAt] using hfit⟩⟩
      exact absurd (WithinLimits.sumsFit (by simpa [windowAt] using hall 0 (by omega))) hfit

/-- The sliding check accepts exactly the lists whose windows all have sums that fit a machine word
and are within the limits; and it reports an inconsistency of its running totals only when the sums
of some window do not fit, so that it never subtracts more than it has. -/
theorem validateSliding_eq_naive (footprints : List SelectedResourceFootprint) (cap : ℕ)
    (limits : OcbResourceLimits) :
    (validateSlidingResourceFootprints footprints cap limits = .ok () ↔
      ∀ k, k + min (max cap 1) footprints.length ≤ footprints.length →
        SumsFit (windowAt footprints (min (max cap 1) footprints.length) k) ∧
          WithinLimits limits (windowAt footprints (min (max cap 1) footprints.length) k)) ∧
    ∀ e, validateSlidingResourceFootprints footprints cap limits = .error e → e.IsCorrupt →
      ∃ k, k + min (max cap 1) footprints.length ≤ footprints.length ∧
        ¬ SumsFit (windowAt footprints (min (max cap 1) footprints.length) k) := by
  -- no row groups, no windows but the empty one
  by_cases hnil : footprints = []
  · subst hnil
    refine ⟨iff_of_true rfl fun k _ => ?_, fun e he => by cases he⟩
    have hwithin : WithinLimits limits (windowAt [] (min (max cap 1) 0) k) := by
      rw [windowAt, List.drop_nil, List.take_nil]
      exact ⟨Nat.zero_le _, Nat.zero_le _⟩
    exact ⟨hwithin.sumsFit, hwithin⟩
  have hlength := List.length_pos_of_ne_nil hnil
  generalize hsize : min (max cap 1) footprints.length = size
  have hpos : 0 < size := by omega
  constructor
  · constructor
    · intro h k hk
      have hwithin := withinLimits_of_validateSliding h (hsize.symm ▸ hk)
      rw [hsize] at hwithin
      exact ⟨hwithin.sumsFit, hwithin⟩
    · intro hall
      have hfirst : WithinLimits limits (footprints.take size) := by
        simpa [windowAt] using (hall 0 (by omega)).2
      obtain ⟨total, hadd, htotal⟩ := exists_firstTotal hfirst.sumsFit
      obtain ⟨u, hvalid⟩ := (isOk_validateFootprintTotals htotal).mpr hfirst
      obtain ⟨last, hslide⟩ := (slide_eq_naive hpos htotal).1 fun k hk => (hall (k + 1) hk).2
      rw [validateSlidingResourceFootprints, if_neg (by simpa using hnil), hsize]
      dsimp only
      rw [hadd, okOr_some, ok_bind, hvalid, ok_bind, hslide]
      rfl
  · intro e he hisCorrupt
    by_cases hfit : SumsFit (footprints.take size)
    · obtain ⟨total, hadd, htotal⟩ := exists_firstTotal hfit
      rw [validateSlidingResourceFootprints, if_neg (by simpa using hnil), hsize] at he
      dsimp only at he
      rw [hadd, okOr_some, ok_bind] at he
      rcases bind_eq_error.mp he with hvalid | ⟨_, -, he⟩
      · exact absurd hisCorrupt (not_isCorrupt_validateFootprintTotals _ _ hvalid)
      · rcases bind_eq_error.mp he with hslide | ⟨_, -, he⟩
        · obtain ⟨k, hk, hoverflow⟩ := (slide_eq_naive hpos htotal).2 e hslide hisCorrupt
          exact ⟨k + 1, hk, hoverflow⟩
        · cases he
    · exact ⟨0, by omega, by simpa [windowAt] using hfit⟩

end Admission

/-- A plan of one row group that is admitted as a whole is admitted in flight. -/
lemma validateInFlight_of_owned {m : OcbMetadataV1} {plan : ColumnBundleReadPlan} {id : UInt32}
    (hids : plan.rowGroupIds = [id]) {u : Unit} (h : validateOwnedPlanResourceLimits m plan = .ok u)
    (size : ℕ) : validateContiguousInFlightPlanResourceLimits m plan size = .ok () ∧
      validateSlidingInFlightPlanResourceLimits m plan size = .ok () := by
  obtain ⟨footprints, hfootprints, h⟩ := bind_eq_ok.mp h
  obtain ⟨total, htotal, hvalid⟩ := bind_eq_ok.mp h
  have hlength : footprints.length = 1 := by
    obtain ⟨rowGroups, hrowGroups, hmapped⟩ := bind_eq_ok.mp hfootprints
    obtain ⟨_, -, hfound⟩ := bind_eq_ok.mp hrowGroups
    rw [hids] at hfound
    rw [← (mapM_eq_ok.mp hmapped).length_eq, ← (mapM_eq_ok.mp hfound).length_eq]
    rfl
  obtain ⟨footprint, rfl⟩ := List.length_eq_one_iff.mp hlength
  rw [List.foldlM_cons] at htotal
  obtain ⟨_, hadd, hnil⟩ := bind_eq_ok.mp htotal
  cases hnil
  -- the two ways to add up one footprint
  have hsum : SelectedResourceFootprint.zero.add footprint = some total := by
    obtain ⟨compressed, hcompressed, hadd⟩ := bind_eq_ok.mp hadd
    obtain ⟨decoded, hdecoded, hadd⟩ := bind_eq_ok.mp hadd
    cases hadd
    rw [SelectedResourceFootprint.add, okOr_eq_ok.mp hcompressed, okOr_eq_ok.mp hdecoded]
    rfl
  have hfold : [footprint].foldlM SelectedResourceFootprint.add .zero = some total := by
    rw [List.foldlM_cons, hsum]
    rfl
  have hwaves : waves (max size 1) [footprint] = [[footprint]] := by
    rw [waves, dif_neg (by simp), waves, dif_pos, List.take_of_length_le (by simp)]
    right
    exact List.drop_eq_nil_of_le (by simp)
  constructor
  · rw [validateContiguousInFlightPlanResourceLimits, hfootprints, ok_bind, validateWaves, hwaves,
      forM_eq_ok]
    intro wave hwave
    obtain rfl := List.mem_singleton.mp hwave
    rw [hfold, okOr_some, ok_bind, hvalid]
  · have hsize : min (max size 1) [footprint].length = 1 := by
      rw [List.length_singleton]
      omega
    rw [validateSlidingInFlightPlanResourceLimits, hfootprints, ok_bind,
      validateSlidingResourceFootprints, if_neg (by simp), hsize]
    dsimp only
    rw [show [footprint].take 1 = [footprint] from rfl, hfold, okOr_some, ok_bind, hvalid, ok_bind]
    rfl

end ArcadiaTio.Ocb
