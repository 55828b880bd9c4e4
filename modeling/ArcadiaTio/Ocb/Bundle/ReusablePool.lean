import ArcadiaTio.Ocb.Bundle.Projection
import ArcadiaTio.Ocb.Bundle.Reservation
import ArcadiaTio.Ocb.Bundle.VisitIntoScript

/-!
# Memory for a plan

Before a plan is visited, its reader can allocate a pool of slots for it, and a buffer for the
fields that are projected from its records.  What is allocated is what was admitted
(`storedBytes_of_forColumns`), there is room in it for every row group of the plan, and a visit that
uses it fails only when a row group cannot be read or the visitor fails
(`reusableBufferPoolForPlan_spec`, `fixedBinaryProjectionBufferForPlan_spec`).
-/

namespace ArcadiaTio.Ocb

open ArcadiaTio.Lib

/-! ### Allocation -/

/-- The rows of the largest row group of a plan. -/
def maxRowCountForPlan (m : OcbMetadataV1) (plan : ColumnBundleReadPlan) : Result ℕ := do
  let rowGroups ← selectedRowGroupsForPlan m plan
  return rowGroups.foldl (fun maxRows rowGroup => max maxRows rowGroup.rowCount.toNat) 0

/-- The bytes of a value in a slot. -/
def reusableValueWidth : ColumnPhysicalType → Result ℕ
  | .i32 | .f32 => .ok 4
  | .i64 | .f64 => .ok 8
  | .fixedBinary width => do
    failIf (width = 0) (ocbCorruptFile "OCB reusable fixed-binary column has zero width")
    return width.toNat

/-- Account for the buffer of one more column. -/
def addReusableColumn (rowCapacity : ℕ) (allowNulls : Bool) (slotBytes : ℕ)
    (column : BundleColumn) : Result ℕ := do
  let valueWidth ← reusableValueWidth column.physicalType
  let valueBytes ← okOr (checkedMul 64 rowCapacity valueWidth)
    (ocbInvalidInput "OCB reusable buffer value allocation accounting overflows")
  let slotBytes ← okOr (checkedAdd 64 slotBytes valueBytes)
    (ocbInvalidInput "OCB reusable buffer slot accounting overflows")
  if allowNulls then
    okOr (checkedAdd 64 slotBytes (validityBitmapLen rowCapacity))
      (ocbInvalidInput "OCB reusable validity allocation accounting overflows")
  else return slotBytes

/-- The pool is within the limits before it is allocated. -/
def validateReusablePoolAllocationResourceLimits (m : OcbMetadataV1) (columns : List BundleColumn)
    (rowCapacity slotCount : ℕ) (allowNulls : Bool) : Result Unit := do
  let slotBytes ← columns.foldlM (addReusableColumn rowCapacity allowNulls) 0
  failIf (slotBytes > m.resourceLimits.maxProjectedRowGroupBytes.toNat)
    (ocbInvalidInput "OCB reusable buffer slot exceeds projected row-group resource limit")
  let totalBytes ← okOr (checkedMul 64 slotBytes slotCount)
    (ocbInvalidInput "OCB reusable buffer pool accounting overflows")
  failIf (totalBytes > m.resourceLimits.maxOwnedDecodedMaterializedBytes.toNat)
    (ocbInvalidInput "OCB reusable buffer pool exceeds decoded materialization resource limit")

/-- A slot with a buffer for every column. -/
def ColumnBundleReusableBuffers.forColumns (columns : List BundleColumn) (rowCapacity : ℕ)
    (allowNulls : Bool) : Result ColumnBundleReusableBuffers := do
  let buffers ← columns.mapM fun column =>
    ColumnBundleReusableColumnBuffer.forColumn column rowCapacity allowNulls
  return ⟨buffers⟩

/-- A pool of new slots for the projected columns of a plan. -/
def ColumnBundleFile.reusableBufferPoolForPlan (file : ColumnBundleFile)
    (plan : ColumnBundleReadPlan) (maxInFlightRowGroups : ℕ) (allowNulls : Bool) :
    Result ColumnBundleReusableBufferPool := do
  file.validateReadPlan plan
  failIf (maxInFlightRowGroups = 0)
    (ocbInvalidInput "OCB reusable buffer pool requires at least one in-flight row group")
  let projectedColumns ← projectedColumnsForPlan file.columns plan
  let rowCapacity ← maxRowCountForPlan file.metadata plan
  validateSlidingInFlightPlanResourceLimits file.metadata plan maxInFlightRowGroups
  validateReusablePoolAllocationResourceLimits file.metadata projectedColumns rowCapacity
    maxInFlightRowGroups allowNulls
  let buffers ← (List.range maxInFlightRowGroups).mapM fun _ =>
    ColumnBundleReusableBuffers.forColumns projectedColumns rowCapacity allowNulls
  return ⟨buffers⟩

/-! ### What is allocated -/

/-- The bytes that values take. -/
def PrimitiveColumnValues.storedBytes : PrimitiveColumnValues → ℕ
  | .i32 values => 4 * values.length
  | .i64 values => 8 * values.length
  | .f32 bits => 4 * bits.length
  | .f64 bits => 8 * bits.length
  | .fixedBinary _ bytes => bytes.length

/-- The bytes that a slot takes for its values and its validity bits. -/
def ColumnBundleReusableBuffers.storedBytes (slot : ColumnBundleReusableBuffers) : ℕ :=
  (slot.columns.map fun buffer => buffer.values.storedBytes + buffer.validityBytes.length).sum

lemma PrimitiveColumnValues.storedBytes_of_holdsRows {values : PrimitiveColumnValues} {n : ℕ}
    (h : values.HoldsRows n) {width : ℕ}
    (hwidth : reusableValueWidth values.physicalType = .ok width) :
    values.storedBytes = n * width := by
  cases values with
  | fixedBinary fixedWidth bytes =>
    obtain ⟨_, -, hwidth⟩ := bind_eq_ok.mp hwidth
    obtain rfl := Except.ok.inj hwidth
    exact h.2
  | _ =>
    obtain rfl := Except.ok.inj hwidth
    rw [storedBytes, show List.length _ = n from h, Nat.mul_comm]

lemma PrimitiveColumnValues.HasRoom.mono {values : PrimitiveColumnValues} {n k : ℕ}
    (h : values.HasRoom n) (hk : k ≤ n) : values.HasRoom k := by
  cases values with
  | fixedBinary width bytes => exact ⟨h.1, (Nat.mul_le_mul_right _ hk).trans h.2⟩
  | _ => exact hk.trans h

/-- The buffer of a column that was accounted for takes as many bytes as the account says. -/
lemma storedBytes_of_forColumn {column : BundleColumn} {n : ℕ} {allowNulls : Bool}
    {before after : ℕ} {buffer : ColumnBundleReusableColumnBuffer}
    (haccount : addReusableColumn n allowNulls before column = .ok after)
    (hbuffer : ColumnBundleReusableColumnBuffer.forColumn column n allowNulls = .ok buffer) :
    after = before + (buffer.values.storedBytes + buffer.validityBytes.length) := by
  obtain ⟨hfor, hprepared⟩ := ColumnBundleReusableColumnBuffer.isFor_of_forColumn hbuffer
  obtain ⟨width, hwidth, haccount⟩ := bind_eq_ok.mp haccount
  obtain ⟨valueBytes, hvalues, haccount⟩ := bind_eq_ok.mp haccount
  obtain ⟨slotBytes, hslot, haccount⟩ := bind_eq_ok.mp haccount
  obtain ⟨rfl, -⟩ := checkedMul_eq_some.mp (okOr_eq_ok.mp hvalues)
  obtain ⟨rfl, -⟩ := checkedAdd_eq_some.mp (okOr_eq_ok.mp hslot)
  rw [← hfor.values] at hwidth
  rw [PrimitiveColumnValues.storedBytes_of_holdsRows hprepared.values hwidth]
  obtain ⟨values, -, hbuffer⟩ := bind_eq_ok.mp hbuffer
  cases hbuffer
  cases allowNulls with
  | false =>
    obtain rfl := Except.ok.inj haccount
    rfl
  | true =>
    obtain ⟨rfl, -⟩ := checkedAdd_eq_some.mp (okOr_eq_ok.mp haccount)
    simp only [if_true, List.length_replicate]
    omega

/-- A slot takes as many bytes as its account says. -/
lemma storedBytes_of_forColumns {columns : List BundleColumn} {n : ℕ} {allowNulls : Bool}
    {slotBytes : ℕ} {slot : ColumnBundleReusableBuffers}
    (haccount : columns.foldlM (addReusableColumn n allowNulls) 0 = .ok slotBytes)
    (hslot : ColumnBundleReusableBuffers.forColumns columns n allowNulls = .ok slot) :
    slot.storedBytes = slotBytes := by
  obtain ⟨buffers, hbuffers, hnew⟩ := bind_eq_ok.mp hslot
  obtain rfl := Except.ok.inj hnew
  have hforall := mapM_eq_ok.mp hbuffers
  suffices hsum : ∀ before after, columns.foldlM (addReusableColumn n allowNulls) before =
      .ok after → after = before + ColumnBundleReusableBuffers.storedBytes ⟨buffers⟩ by
    rw [hsum 0 slotBytes haccount, Nat.zero_add]
  clear haccount hslot hnew hbuffers
  induction hforall with
  | nil =>
    intro before after h
    exact (Except.ok.inj h).symm
  | cons hbuffer _ ih =>
    intro before after h
    rw [List.foldlM_cons] at h
    obtain ⟨next, hnext, hrest⟩ := bind_eq_ok.mp h
    rw [ih next after hrest, storedBytes_of_forColumn hnext hbuffer,
      ColumnBundleReusableBuffers.storedBytes, ColumnBundleReusableBuffers.storedBytes,
      List.map_cons, List.sum_cons, Nat.add_assoc]

/-! ### The rows of a plan -/

/-- The largest of some numbers, when it is found one after the other. -/
lemma le_foldl_max {α : Type} (f : α → ℕ) (l : List α) (n : ℕ) :
    n ≤ l.foldl (fun n a => max n (f a)) n ∧ ∀ a ∈ l, f a ≤ l.foldl (fun n a => max n (f a)) n := by
  induction l generalizing n with
  | nil => exact ⟨le_rfl, fun a ha => absurd ha List.not_mem_nil⟩
  | cons b rest ih =>
    obtain ⟨hstart, hrest⟩ := ih (max n (f b))
    refine ⟨(le_max_left _ _).trans hstart, fun a ha => ?_⟩
    rcases List.mem_cons.mp ha with rfl | ha
    · exact (le_max_right _ _).trans hstart
    · exact hrest a ha

lemma le_maxRowCountForPlan {m : OcbMetadataV1} {plan : ColumnBundleReadPlan} {rowCapacity : ℕ}
    (h : maxRowCountForPlan m plan = .ok rowCapacity) {id : UInt32} (hid : id ∈ plan.rowGroupIds)
    {rowGroup : OcbRowGroupDescV1} (hfound : m.rowGroupById id = some rowGroup) :
    rowGroup.rowCount.toNat ≤ rowCapacity := by
  obtain ⟨rowGroups, hrowGroups, h⟩ := bind_eq_ok.mp h
  obtain rfl := Except.ok.inj h
  obtain ⟨_, -, hrowGroups⟩ := bind_eq_ok.mp hrowGroups
  obtain ⟨rowGroup', hmem, hrowGroup⟩ := exists_of_forall₂ (mapM_eq_ok.mp hrowGroups).flip hid
  obtain rfl := Option.some.inj ((okOr_eq_ok.mp hrowGroup).symm.trans hfound)
  exact (le_foldl_max (fun r => r.rowCount.toNat) rowGroups 0).2 rowGroup' hmem

/-! ### A pool for a plan -/

/-- No selected chunk of a plan has validity bits. -/
def ColumnBundleFile.WithoutNulls (file : ColumnBundleFile) (plan : ColumnBundleReadPlan) : Prop :=
  ∀ id ∈ plan.rowGroupIds, ∀ rowGroup, file.metadata.rowGroupById id = some rowGroup →
    ∀ chunk ∈ file.metadata.chunksAt rowGroup, chunk.columnId ∈ plan.projectedColumnIds →
      chunk.validityRef.IsNull

/-- How a pool was allocated. -/
structure PoolAllocation (file : ColumnBundleFile) (plan : ColumnBundleReadPlan) (n : ℕ)
    (allowNulls : Bool) (pool : ColumnBundleReusableBufferPool) where
  columns : List BundleColumn
  rowCapacity : ℕ
  slotBytes : ℕ
  valid : file.validateReadPlan plan = .ok ()
  pos : 0 < n
  projected : projectedColumnsForPlan file.columns plan = .ok columns
  capacity : maxRowCountForPlan file.metadata plan = .ok rowCapacity
  admitted : validateSlidingInFlightPlanResourceLimits file.metadata plan n = .ok ()
  accounted : columns.foldlM (addReusableColumn rowCapacity allowNulls) 0 = .ok slotBytes
  slotWithin : slotBytes ≤ file.metadata.resourceLimits.maxProjectedRowGroupBytes.toNat
  poolWithin : slotBytes * n ≤ file.metadata.resourceLimits.maxOwnedDecodedMaterializedBytes.toNat
  length : pool.buffers.length = n
  slots : ∀ slot ∈ pool.buffers,
    ColumnBundleReusableBuffers.forColumns columns rowCapacity allowNulls = .ok slot

section Pool

variable {file : ColumnBundleFile} {plan : ColumnBundleReadPlan} {n : ℕ} {allowNulls : Bool}
  {pool : ColumnBundleReusableBufferPool}

lemma exists_allocation (h : file.reusableBufferPoolForPlan plan n allowNulls = .ok pool) :
    Nonempty (PoolAllocation file plan n allowNulls pool) := by
  obtain ⟨_, hvalid, h⟩ := bind_eq_ok.mp h
  obtain ⟨_, hpos, h⟩ := bind_eq_ok.mp h
  obtain ⟨columns, hcolumns, h⟩ := bind_eq_ok.mp h
  obtain ⟨rowCapacity, hcapacity, h⟩ := bind_eq_ok.mp h
  obtain ⟨_, hadmitted, h⟩ := bind_eq_ok.mp h
  obtain ⟨_, haccount, h⟩ := bind_eq_ok.mp h
  obtain ⟨buffers, hbuffers, h⟩ := bind_eq_ok.mp h
  obtain rfl := Except.ok.inj h
  obtain ⟨slotBytes, haccounted, haccount⟩ := bind_eq_ok.mp haccount
  obtain ⟨_, hslot, haccount⟩ := bind_eq_ok.mp haccount
  obtain ⟨totalBytes, htotal, hpool⟩ := bind_eq_ok.mp haccount
  obtain ⟨rfl, -⟩ := checkedMul_eq_some.mp (okOr_eq_ok.mp htotal)
  rw [failIf_eq_ok] at hpos hslot hpool
  have hforall := mapM_eq_ok.mp hbuffers
  refine ⟨⟨columns, rowCapacity, slotBytes, hvalid, Nat.pos_of_ne_zero hpos, hcolumns, hcapacity,
    hadmitted, haccounted, not_lt.mp hslot, not_lt.mp hpool, ?_, fun slot hslot => ?_⟩⟩
  · rw [← hforall.length_eq, List.length_range]
  · obtain ⟨_, -, hnew⟩ := exists_of_forall₂ hforall hslot
    exact hnew

namespace PoolAllocation

variable (allocation : PoolAllocation file plan n allowNulls pool)

include allocation

/-- The buffers of every slot are for the projected columns, and have room for the largest row
group. -/
lemma forall₂_forColumn {slot : ColumnBundleReusableBuffers} (hslot : slot ∈ pool.buffers) :
    List.Forall₂ (fun column buffer => ColumnBundleReusableColumnBuffer.forColumn column
      allocation.rowCapacity allowNulls = .ok buffer) allocation.columns slot.columns := by
  obtain ⟨buffers, hbuffers, hnew⟩ := bind_eq_ok.mp (allocation.slots slot hslot)
  obtain rfl := Except.ok.inj hnew
  exact mapM_eq_ok.mp hbuffers

lemma forall₂_id : List.Forall₂ (fun id column => column.id = id) plan.projectedColumnIds
    allocation.columns := by
  refine (mapM_eq_ok.mp allocation.projected).imp fun id column hcolumn => ?_
  simpa using List.find?_some (okOr_eq_ok.mp hcolumn)

/-- The pool is accepted by the visits of the plan. -/
lemma validateReusableBufferPool_eq_ok (hcolumns : plan.projectedColumnIds ≠ []) :
    validateReusableBufferPool pool plan file.columns = .ok () := by
  have hbuffers : pool.buffers ≠ [] := by
    intro hnil
    have hlength := allocation.length
    have hpos := allocation.pos
    rw [hnil, List.length_nil] at hlength
    omega
  have hnonempty : allocation.columns ≠ [] := by
    intro hnil
    have hforall := allocation.forall₂_id
    rw [hnil] at hforall
    exact hcolumns (List.forall₂_nil_right_iff.mp hforall)
  rw [validateReusableBufferPool, failIf_neg hbuffers, ok_bind, allocation.projected, ok_bind,
    failIf_neg hnonempty, ok_bind, forM_eq_ok]
  intro slot hslot
  have hforall := (allocation.forall₂_forColumn hslot).flip
  rw [validateReusableSlot, failIf_neg (not_not.mpr hforall.length_eq), ok_bind, forM_eq_ok]
  rintro ⟨buffer, column⟩ hpair
  have hfor := ColumnBundleReusableColumnBuffer.isFor_of_forColumn
    ((List.forall₂_iff_zip.mp hforall).2 hpair)
  exact failIf_neg (not_not.mpr hfor.1)

lemma storedBytes_eq {slot : ColumnBundleReusableBuffers} (hslot : slot ∈ pool.buffers) :
    slot.storedBytes = allocation.slotBytes :=
  storedBytes_of_forColumns allocation.accounted (allocation.slots slot hslot)

/-- All slots together take as many bytes as was admitted. -/
lemma sum_storedBytes : (pool.buffers.map ColumnBundleReusableBuffers.storedBytes).sum =
    allocation.slotBytes * n := by
  have hsame : pool.buffers.map ColumnBundleReusableBuffers.storedBytes =
      List.replicate n allocation.slotBytes := by
    rw [List.eq_replicate_iff, List.length_map, allocation.length]
    refine ⟨rfl, fun bytes hbytes => ?_⟩
    obtain ⟨slot, hslot, rfl⟩ := List.mem_map.mp hbytes
    exact allocation.storedBytes_eq hslot
  rw [hsame, List.sum_replicate_nat, Nat.mul_comm]

/-- There is room in every slot for every row group of the plan. -/
lemma hasRoom {slot : ColumnBundleReusableBuffers} (hslot : slot ∈ pool.buffers)
    {buffer : ColumnBundleReusableColumnBuffer} (hbuffer : buffer ∈ slot.columns) {id : UInt32}
    (hid : id ∈ plan.rowGroupIds) {rowGroup : OcbRowGroupDescV1}
    (hfound : file.metadata.rowGroupById id = some rowGroup) :
    buffer.values.HasRoom rowGroup.rowCount.toNat ∧ (allowNulls = true →
      validityBitmapLen rowGroup.rowCount.toNat ≤ buffer.validityBytes.length) := by
  obtain ⟨column, -, hnew⟩ := exists_of_forall₂ (allocation.forall₂_forColumn hslot) hbuffer
  obtain ⟨-, hprepared⟩ := ColumnBundleReusableColumnBuffer.isFor_of_forColumn hnew
  have hle := le_maxRowCountForPlan allocation.capacity hid hfound
  refine ⟨hprepared.values.hasRoom.mono hle, fun hallow => ?_⟩
  have hsame : buffer.allowNulls = allowNulls := by
    obtain ⟨values, -, hnew⟩ := bind_eq_ok.mp hnew
    cases hnew
    rfl
  rw [hprepared.validity (hsame.trans hallow), validityBitmapLen, validityBitmapLen]
  omega

/-- The slots accept the nulls of the plan. -/
lemma acceptsNulls (hnulls : allowNulls = true ∨ file.WithoutNulls plan)
    {slot : ColumnBundleReusableBuffers} (hslot : slot ∈ pool.buffers) :
    slot.AcceptsNulls file plan.rowGroupIds := by
  intro id hid rowGroup hfound buffer hbuffer chunk hchunk hcolumn hnot
  obtain ⟨column, hmem, hnew⟩ := exists_of_forall₂ (allocation.forall₂_forColumn hslot) hbuffer
  obtain ⟨hfor, -⟩ := ColumnBundleReusableColumnBuffer.isFor_of_forColumn hnew
  rcases hnulls with rfl | hwithout
  · obtain ⟨values, -, hnew⟩ := bind_eq_ok.mp hnew
    cases hnew
    rfl
  · -- the column of the buffer is selected
    obtain ⟨id', hid', hsame⟩ := exists_of_forall₂ allocation.forall₂_id hmem
    refine absurd (hwithout id hid rowGroup hfound chunk hchunk ?_) hnot
    rw [hcolumn, hfor.columnId, hsame]
    exact hid'

open ColumnBundleFile in
/-- A visit of successive row groups of the plan reads them, a wave at a time. -/
lemma visitsPlanRowGroupsInto_iff {source : OcbReadSource} {zstd : ZstdCodec}
    {validation : OcbOpenValidationMode} {limits : OcbResourceLimits} (hfault : source.FaultFree)
    (hopen : openFromSource source zstd validation limits = .ok file)
    (hcolumns : plan.projectedColumnIds ≠ []) (hnulls : allowNulls = true ∨ file.WithoutNulls plan)
    {S : Type} {visitor : S → ColumnBundleReusableBatchView → S × Result ColumnBundleVisitControl}
    {options : ColumnBundleReadCursorOptions} {rowGroupIds selected : List UInt32} {s s' : S}
    {result : Result ColumnBundleReadCursorReport}
    (hoptions : validateReadCursorOptions options = .ok ())
    (hselected : plannedRowGroupSubset plan rowGroupIds = .ok selected)
    (hpart : selected <:+: plan.rowGroupIds) :
    file.VisitsPlanRowGroupsInto zstd plan rowGroupIds options pool visitor s result s' ↔
      (result, s') = (file.readScript zstd (plan.ofSelected selected)
        (visitIntoWaveSize (plan.ofSelected selected) options pool)).run
          (fun s batch => visitor s batch.view) s := by
  rw [ColumnBundleFile.visitsPlanRowGroupsInto_iff hfault hopen fun slot hslot =>
    allocation.acceptsNulls hnulls hslot]
  have hvisited : file.visitedIntoPlan plan rowGroupIds options pool =
      .ok (plan.ofSelected selected) := by
    rw [ColumnBundleFile.visitedIntoPlan, allocation.valid, ok_bind, hoptions, ok_bind, hselected,
      ok_bind, allocation.validateReusableBufferPool_eq_ok hcolumns]
    rfl
  have hpos := allocation.pos
  have hlength := allocation.length
  have hadmitted := @validateContiguous_of_sliding file.metadata plan (plan.ofSelected selected)
    n (visitIntoWaveSize (plan.ofSelected selected) options pool) () hpart rfl
    (by rw [visitIntoWaveSize, visitWaveSize]; omega) (by rw [visitIntoWaveSize]; omega)
    allocation.admitted
  rw [ColumnBundleFile.visitPlanIntoScript, hvisited]
  dsimp only
  by_cases hempty : (plan.ofSelected selected).rowGroupIds = []
  · rw [if_pos hempty, ColumnBundleFile.readScript, hempty]
    rfl
  · rw [if_neg hempty, hadmitted]

end PoolAllocation

open ColumnBundleFile in
/-- A pool for a plan takes no more bytes than the limits allow, has room for every row group of the
plan, and is never the reason why a visit of successive row groups of the plan fails: what the visit
does is to read them, a wave at a time. -/
theorem reusableBufferPoolForPlan_spec {source : OcbReadSource} {zstd : ZstdCodec}
    {validation : OcbOpenValidationMode} {limits : OcbResourceLimits} (hfault : source.FaultFree)
    (hopen : openFromSource source zstd validation limits = .ok file)
    (hpool : file.reusableBufferPoolForPlan plan n allowNulls = .ok pool) :
    (pool.buffers.length = n ∧
      (∀ slot ∈ pool.buffers, slot.storedBytes ≤ limits.maxProjectedRowGroupBytes.toNat) ∧
      (pool.buffers.map ColumnBundleReusableBuffers.storedBytes).sum ≤
        limits.maxOwnedDecodedMaterializedBytes.toNat) ∧
    (∀ slot ∈ pool.buffers, ∀ buffer ∈ slot.columns, ∀ id ∈ plan.rowGroupIds, ∀ rowGroup,
      file.metadata.rowGroupById id = some rowGroup →
        buffer.values.HasRoom rowGroup.rowCount.toNat ∧ (allowNulls = true →
          validityBitmapLen rowGroup.rowCount.toNat ≤ buffer.validityBytes.length)) ∧
    (plan.projectedColumnIds ≠ [] → (allowNulls = true ∨ file.WithoutNulls plan) →
      ∀ {S : Type} (visitor : S → ColumnBundleReusableBatchView → S × Result ColumnBundleVisitControl)
        (options : ColumnBundleReadCursorOptions) (rowGroupIds selected : List UInt32) (s s' : S)
        (result : Result ColumnBundleReadCursorReport),
      validateReadCursorOptions options = .ok () →
      plannedRowGroupSubset plan rowGroupIds = .ok selected → selected <:+: plan.rowGroupIds →
      (file.VisitsPlanRowGroupsInto zstd plan rowGroupIds options pool visitor s result s' ↔
        (result, s') = (file.readScript zstd (plan.ofSelected selected)
          (visitIntoWaveSize (plan.ofSelected selected) options pool)).run
            (fun s batch => visitor s batch.view) s)) := by
  obtain ⟨allocation⟩ := exists_allocation hpool
  have hlimits : file.metadata.resourceLimits = limits :=
    (graph_of_openFromSource hopen).resourceLimits_eq
  refine ⟨⟨allocation.length, fun slot hslot => ?_, ?_⟩, fun slot hslot buffer hbuffer id hid
    rowGroup hfound => allocation.hasRoom hslot hbuffer hid hfound, fun hcolumns hnulls S visitor
    options rowGroupIds selected s s' result hoptions hselected hpart => ?_⟩
  · rw [allocation.storedBytes_eq hslot, ← hlimits]
    exact allocation.slotWithin
  · rw [allocation.sum_storedBytes, ← hlimits]
    exact allocation.poolWithin
  · exact allocation.visitsPlanRowGroupsInto_iff hfault hopen hcolumns hnulls hoptions hselected
      hpart

end Pool

open ColumnBundleFile in
/-- Two slots for the small file: the visit with one of them reads its row group. -/
theorem reusableBufferPoolForPlan_spec_sample : ∃ file pool,
    openFromSource (Sample.file .i32) (fun _ _ => ⟨[], true⟩) .metadataGraph .policyA = .ok file ∧
    file.reusableBufferPoolForPlan Sample.plan 2 true = .ok pool ∧ pool.buffers.length = 2 ∧
    ∀ result n, file.VisitsPlanRowGroupsInto (fun _ _ => ⟨[], true⟩) Sample.plan [0] ⟨4, true⟩ pool
      (fun n _ => (n + 1, .ok .continue)) 0 result n →
        (result, n) = (file.readScript (fun _ _ => ⟨[], true⟩) (Sample.plan.ofSelected [0])
          (visitIntoWaveSize (Sample.plan.ofSelected [0]) ⟨4, true⟩ pool)).run
            (fun n _ => (n + 1, .ok .continue)) 0 := by
  obtain ⟨cRoot, cSchema, cStrings, cDictionaries, cIndex, hopen⟩ :=
    Sample.openFromSource .i32 fun _ _ => ⟨[], true⟩
  obtain ⟨pool, hpool⟩ : IsOk ((Sample.openedFile .i32 cRoot cSchema cStrings cDictionaries
      cIndex).reusableBufferPoolForPlan Sample.plan 2 true) := ⟨_, rfl⟩
  obtain ⟨⟨hlength, -⟩, -, hvisits⟩ := reusableBufferPoolForPlan_spec
    (OcbReadSource.faultFree_ofBytes _ _) hopen hpool
  refine ⟨_, pool, hopen, hpool, hlength, fun result n hvisit => ?_⟩
  have hiff := hvisits (List.cons_ne_nil _ _) (.inl rfl) (fun (n : ℕ) _ => (n + 1, .ok .continue))
    ⟨4, true⟩ [0] [0] 0 n result rfl rfl List.infix_rfl
  exact hiff.mp hvisit

end ArcadiaTio.Ocb
