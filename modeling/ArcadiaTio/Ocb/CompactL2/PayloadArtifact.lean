import ArcadiaTio.Ocb.Bundle.ProjectionBuffer
import ArcadiaTio.Ocb.CompactL2.PayloadScan

/-!
# The payloads of an artifact

The scan of a certification visits the row groups of an artifact in reused buffers, several of them
in flight.  It gets to its end exactly when the pool of buffers is admitted, every row group keeps
the strings of records, and the rows of all records together are accepted
(`scansPayloadHeaders_eq_ok_iff`); how many threads there are and how they are scheduled makes no
difference to its state.
-/

namespace ArcadiaTio.Ocb

open ArcadiaTio.Lib

/-! ### Visitors that go on -/

/-- The visitor that goes on as long as its step succeeds.  A step that fails ends the visit, and
the state that it leaves behind is not looked at. -/
def continuingVisitor {S V : Type} (step : S → V → Result S) (s : S) (v : V) :
    S × Result ColumnBundleVisitControl :=
  match step s v with
  | .ok s' => (s', .ok .continue)
  | .error error => (s, .error error)

section Visitors

variable {S : Type} {step : S → ColumnBatch → Result S} {s s' : S}

lemma deliver_continuing {failure : Option ArcadiaTioError} {batches : List ColumnBatch}
    {report : ColumnBundleReadCursorReport} :
    (∃ report', VisitScript.deliver (continuingVisitor step) failure batches report s =
        (.ok report', s')) ↔
      failure = none ∧ batches.foldlM step s = .ok s' := by
  induction batches generalizing report s with
  | nil =>
    rw [VisitScript.deliver, List.foldlM_nil, pure_eq_ok, Except.ok.injEq]
    cases failure with
    | none => simp [VisitScript.ending]
    | some error => simp [VisitScript.ending]
  | cons batch rest ih =>
    rw [VisitScript.deliver, List.foldlM_cons, continuingVisitor]
    cases hstep : step s batch with
    | error error =>
      simp
    | ok next => exact ih

/-- A visit gets to its end exactly when nothing fails that it reads and the step gets through all
batches. -/
lemma run_continuing_eq_ok {script : VisitScript} :
    (∃ report, (Except.ok report, s') = script.run (continuingVisitor step) s) ↔
      script.failure = none ∧ script.batches.foldlM step s = .ok s' := by
  rw [VisitScript.run, ← deliver_continuing]
  exact exists_congr fun report => eq_comm

lemma readPrefix_eq {ε α β : Type} {f : α → Except ε β} {l : List α} {bs : List β} :
    ((readPrefix (l.map f)).2 = none ∧ (readPrefix (l.map f)).1 = bs) ↔ l.mapM f = .ok bs := by
  induction l generalizing bs with
  | nil => simp [readPrefix, eq_comm]
  | cons a rest ih =>
    rw [List.map_cons, List.mapM_cons]
    cases ha : f a with
    | error e => simp [readPrefix]
    | ok b =>
      rw [readPrefix, ok_bind, bind_eq_ok]
      constructor
      · rintro ⟨hnone, rfl⟩
        exact ⟨_, ih.mp ⟨hnone, rfl⟩, rfl⟩
      · rintro ⟨bs', hbs, hcons⟩
        obtain ⟨hnone, rfl⟩ := ih.mpr hbs
        exact ⟨hnone, Except.ok.inj hcons⟩

/-- A script of row groups has no failure exactly when all of them are read. -/
lemma readScript_batches_iff {file : ColumnBundleFile} {zstd : ZstdCodec}
    {plan : ColumnBundleReadPlan} {waveSize : ℕ} {batches : List ColumnBatch} :
    ((file.readScript zstd plan waveSize).failure = none ∧
        (file.readScript zstd plan waveSize).batches = batches) ↔
      plan.rowGroupIds.mapM (file.readPlanRowGroup zstd plan) = .ok batches := by
  rw [← readPrefix_eq, ColumnBundleFile.readScript]
  dsimp only
  refine and_congr_right fun hnone => ?_
  rw [hnone]

end Visitors

/-! ### The scan of an artifact -/

section Definitions

variable (file : ColumnBundleFile) (zstd : ZstdCodec) (plan : ColumnBundleReadPlan)
  (channel : ChannelArtifactFactsV1) (tradingDay : UInt32) (options : CertificationOptions)

/-- How many row groups are in flight. -/
def CertificationOptions.inFlight : ℕ := max options.maxInFlightRowGroups 1

/-- What is left to check behind the last row group. -/
def finishPayloadScan (visited : Result ColumnBundleReadCursorReport) (scan : PayloadScan) :
    Result ChannelPayloadScanState := do
  let _ ← visited
  failIf (scan.expectedBizIndex ≠ saturatingAdd 64 channel.lastBizIndex.toNat 1)
    (ocbDiagnostic .bizIndexGap
      (s!"channel-sharded OCB final BizIndex mismatch: channel={channel.channelId} " ++
        s!"expected_next={scan.expectedBizIndex} manifest_last={channel.lastBizIndex}"))
  return scan.state

/-- What the scan of the payload headers may return. -/
inductive ScansPayloadHeaders : Result ChannelPayloadScanState → Prop
  | refused {error : ArcadiaTioError}
      (h : file.reusableBufferPoolForPlan plan options.inFlight false = .error error) :
      ScansPayloadHeaders (.error error)
  | visited {pool : ColumnBundleReusableBufferPool}
      {result : Result ColumnBundleReadCursorReport} {scan : PayloadScan}
      (h : file.reusableBufferPoolForPlan plan options.inFlight false = .ok pool)
      (hvisit : file.VisitsPlanRowGroupsInto zstd plan plan.rowGroupIds ⟨options.inFlight, true⟩
        pool (continuingVisitor (scanPayloadBatch channel tradingDay options))
        ⟨.default, channel.firstBizIndex.toNat⟩ result scan) :
      ScansPayloadHeaders (finishPayloadScan channel result scan)

end Definitions

/-! ### Pieces of one size -/

section Pieces

variable {α : Type} {l : List α} {size : ℕ}

lemma length_of_mem_chunksExact {piece : List α} (h : piece ∈ chunksExact size l) :
    piece.length = size := by
  obtain ⟨i, hi, rfl⟩ := List.mem_map.mp h
  rw [List.mem_range] at hi
  have hle : (i + 1) * size ≤ l.length := Nat.mul_le_of_le_div size (i + 1) l.length hi
  rw [Nat.add_mul, Nat.one_mul] at hle
  rw [List.length_take, List.length_drop]
  omega

/-- Nothing is left over when the length is a multiple of the size. -/
lemma flatten_chunksExact {count : ℕ} (hsize : 0 < size) (h : l.length = count * size) :
    (chunksExact size l).flatten = l := by
  have hbegin : ∀ n,
      ((List.range n).map fun i => (l.drop (i * size)).take size).flatten = l.take (n * size) := by
    intro n
    induction n with
    | zero => simp
    | succ n ih =>
      rw [List.range_succ, List.map_append, List.flatten_append, ih, List.map_singleton,
        List.flatten_singleton, Nat.add_mul, Nat.one_mul, List.take_add]
  rw [chunksExact, hbegin, h, Nat.mul_div_cancel _ hsize, ← h, List.take_length]

/-- Pieces of one size are found again in what they make up. -/
lemma chunksExact_flatten (hsize : 0 < size) {pieces : List (List α)}
    (h : ∀ piece ∈ pieces, piece.length = size) : chunksExact size pieces.flatten = pieces := by
  have hlength : pieces.flatten.length = pieces.length * size := by
    rw [List.length_flatten, List.eq_replicate_of_mem (l := pieces.map List.length) (a := size)
      (by simpa using h), List.sum_replicate_nat, List.length_map]
  have hunique : ∀ a b : List (List α), (∀ piece ∈ a, piece.length = size) →
      (∀ piece ∈ b, piece.length = size) → a.length = b.length → a.flatten = b.flatten →
        a = b := by
    intro a
    induction a with
    | nil =>
      intro b _ _ hcount _
      exact (List.length_eq_zero_iff.mp hcount.symm).symm
    | cons first rest ih =>
      intro b ha hb hcount hflatten
      cases b with
      | nil => cases hcount
      | cons first' rest' =>
        rw [List.forall_mem_cons] at ha hb
        obtain ⟨rfl, hrest⟩ := List.append_inj hflatten (ha.1.trans hb.1.symm)
        rw [ih rest' ha.2 hb.2 (Nat.succ.inj hcount) hrest]
  refine hunique _ _ (fun _ => length_of_mem_chunksExact) h ?_ (flatten_chunksExact hsize hlength)
  rw [length_chunksExact, hlength, Nat.mul_div_cancel _ hsize]

end Pieces

/-! ### Records in a column -/

/-- The payload column of a batch keeps the records, one string after the other. -/
structure ColumnBatch.KeepsRecords (batch : ColumnBatch) (width : UInt32)
    (vs : List CompactL2PhysicalV2Record) : Prop where
  column : ∃ column, batch.columns = [column] ∧ column.values =
    .fixedBinary width (vs.flatMap CompactL2PhysicalV2Record.fixedBinaryV1Bytes)
  rowCount : vs.length = batch.rowCount.toNat
  wellFormed : ∀ v ∈ vs, v.WellFormed

section Records

variable {vs : List CompactL2PhysicalV2Record}

lemma length_flatMap_fixedBinaryV1Bytes (vs : List CompactL2PhysicalV2Record) :
    (vs.flatMap CompactL2PhysicalV2Record.fixedBinaryV1Bytes).length =
      vs.length * compactL2FixedBinaryRecordWidthV1 := by
  simp [List.length_flatMap, List.map_const']

/-- Records are split off a string exactly when it is made up of their strings. -/
lemma mapM_chunksExact_eq_ok {size n : ℕ} {bytes : List UInt8} (hsize : 0 < size)
    (hlength : bytes.length = n * size) :
    (chunksExact size bytes).mapM CompactL2PhysicalV2Record.fromFixedBinaryV1 = .ok vs ↔
      vs.length = n ∧ bytes = vs.flatMap CompactL2PhysicalV2Record.fixedBinaryV1Bytes ∧
        ∀ v ∈ vs, v.WellFormed := by
  have hsplit : ∀ (r : List UInt8) v, CompactL2PhysicalV2Record.fromFixedBinaryV1 r = .ok v ↔
      r = v.fixedBinaryV1Bytes ∧ v.WellFormed := by
    intro r v
    rw [CompactL2PhysicalV2Record.fromFixedBinaryV1_eq_ok,
      CompactL2PhysicalV2Record.eq_fixedBinaryV1Bytes_iff]
  rw [mapM_eq_ok]
  constructor
  · intro h
    have hcount := h.length_eq
    rw [length_chunksExact, hlength, Nat.mul_div_cancel _ hsize] at hcount
    have hpieces : chunksExact size bytes =
        vs.map CompactL2PhysicalV2Record.fixedBinaryV1Bytes := by
      have hsame : List.Forall₂ Eq (chunksExact size bytes)
          (vs.map CompactL2PhysicalV2Record.fixedBinaryV1Bytes) :=
        List.forall₂_map_right_iff.mpr (h.imp fun r v hv => ((hsplit r v).mp hv).1)
      rwa [List.forall₂_eq_eq_eq] at hsame
    refine ⟨hcount.symm, ?_, fun v hv => ?_⟩
    · rw [List.flatMap_def, ← hpieces, flatten_chunksExact hsize hlength]
    · obtain ⟨r, -, hr⟩ := exists_of_forall₂ h hv
      exact ((hsplit r v).mp hr).2
  · rintro ⟨rfl, hbytes, hwell⟩
    have hpieces : chunksExact size bytes =
        vs.map CompactL2PhysicalV2Record.fixedBinaryV1Bytes := by
      cases vs with
      | nil =>
        obtain rfl : bytes = [] := hbytes
        simp [chunksExact]
      | cons v rest =>
        -- the strings of the records have the size of the pieces
        have hwidth : size = compactL2FixedBinaryRecordWidthV1 := by
          rw [hbytes, length_flatMap_fixedBinaryV1Bytes] at hlength
          exact (Nat.eq_of_mul_eq_mul_left (Nat.succ_pos _) hlength).symm
        rw [hbytes, List.flatMap_def]
        refine chunksExact_flatten hsize fun piece hpiece => ?_
        obtain ⟨w, -, rfl⟩ := List.mem_map.mp hpiece
        rw [CompactL2PhysicalV2Record.length_fixedBinaryV1Bytes, hwidth]
    rw [hpieces, List.forall₂_map_left_iff, List.forall₂_same]
    exact fun v hv => (hsplit _ v).mpr ⟨rfl, hwell v hv⟩

variable {channel : ChannelArtifactFactsV1} {options : CertificationOptions} {batch : ColumnBatch}

/-- The one column of a batch holds as many rows as the batch, and their bytes can be counted. -/
structure ColumnBatch.HoldsColumn (batch : ColumnBatch) (array : ColumnArray) : Prop where
  columns : batch.columns = [array]
  rows : array.values.HoldsRows batch.rowCount.toNat
  fit : batch.rowCount.toNat * array.values.byteWidth < 2 ^ 64

/-- The records of a batch are taken out and split exactly when its payload column keeps them. -/
lemma payloadRecords_eq_ok {array : ColumnArray} (hholds : batch.HoldsColumn array) :
    (∃ records, payloadRecords channel options batch.view = .ok records ∧
        records.mapM CompactL2PhysicalV2Record.fromFixedBinaryV1 = .ok vs) ↔
      batch.KeepsRecords options.expectedRecordWidth vs := by
  have hcolumn : batch.view.column 0 = .ok array := by
    show okOr batch.columns[0]? _ = _
    rw [hholds.columns]
    rfl
  have hrowCount : batch.view.rowCount = batch.rowCount := rfl
  have hrows := hholds.rows
  have hfit := hholds.fit
  rw [payloadRecords, hcolumn, ok_bind]
  -- only fixed-width bytes are split into records
  cases hvalues : array.values with
  | fixedBinary width bytes =>
    rw [hvalues] at hrows hfit
    obtain ⟨hwidth, hlength⟩ := hrows
    have hpos : 0 < width.toNat := by
      rw [Nat.pos_iff_ne_zero]
      exact fun hzero => hwidth (UInt32.toNat_inj.mp hzero)
    dsimp only
    by_cases hsame : width = options.expectedRecordWidth
    · have htake : bytes.take (batch.rowCount.toNat * width.toNat) = bytes :=
        List.take_of_length_le hlength.le
      have hbytes : checkedMul usizeBits batch.rowCount.toNat width.toNat =
          some (batch.rowCount.toNat * width.toNat) := checkedMul_of_lt hfit
      rw [failIf_neg (not_not.mpr hsame), ok_bind, hrowCount, hbytes, okOr_some, ok_bind,
        failIf_neg (not_lt.mpr hlength.ge), ok_bind, htake]
      constructor
      · rintro ⟨records, hrecords, hsplit⟩
        obtain rfl := Except.ok.inj hrecords
        obtain ⟨hcount, rfl, hwell⟩ := (mapM_chunksExact_eq_ok hpos hlength).mp hsplit
        exact ⟨⟨array, hholds.columns, hsame ▸ hvalues⟩, hcount, hwell⟩
      · rintro ⟨⟨other, hother, hkeeps⟩, hcount, hwell⟩
        rw [hholds.columns] at hother
        obtain rfl := List.singleton_inj.mp hother
        rw [hvalues, PrimitiveColumnValues.fixedBinary.injEq] at hkeeps
        exact ⟨_, rfl, (mapM_chunksExact_eq_ok hpos hlength).mpr ⟨hcount, hkeeps.2, hwell⟩⟩
    · rw [failIf_pos hsame]
      constructor
      · rintro ⟨records, hrecords, -⟩
        cases hrecords
      · rintro ⟨⟨other, hother, hkeeps⟩, -, -⟩
        rw [hholds.columns] at hother
        obtain rfl := List.singleton_inj.mp hother
        rw [hvalues, PrimitiveColumnValues.fixedBinary.injEq] at hkeeps
        exact absurd hkeeps.1 hsame
  | _ =>
    constructor
    · rintro ⟨records, hrecords, -⟩
      cases hrecords
    · rintro ⟨⟨other, hother, hkeeps⟩, -, -⟩
      rw [hholds.columns] at hother
      obtain rfl := List.singleton_inj.mp hother
      rw [hvalues] at hkeeps
      cases hkeeps

lemma mapM_flatten_eq_ok {ε α β : Type} {f : α → Except ε β} {ls : List (List α)} {bs : List β} :
    ls.flatten.mapM f = .ok bs ↔
      ∃ groups, ls.mapM (List.mapM f) = .ok groups ∧ bs = groups.flatten := by
  induction ls generalizing bs with
  | nil => simp [eq_comm]
  | cons l rest ih =>
    rw [List.flatten_cons, List.mapM_append, List.mapM_cons, bind_eq_ok]
    constructor
    · rintro ⟨first, hfirst, h⟩
      obtain ⟨after, hafter, h⟩ := bind_eq_ok.mp h
      obtain ⟨groups, hgroups, rfl⟩ := ih.mp hafter
      refine ⟨first :: groups, ?_, (Except.ok.inj h).symm⟩
      rw [hfirst, ok_bind, hgroups]
      rfl
    · rintro ⟨all, hall, rfl⟩
      obtain ⟨first, hfirst, hall⟩ := bind_eq_ok.mp hall
      obtain ⟨groups, hgroups, hall⟩ := bind_eq_ok.mp hall
      obtain rfl := Except.ok.inj hall
      refine ⟨first, hfirst, ?_⟩
      rw [ih.mpr ⟨groups, hgroups, rfl⟩]
      rfl

variable {tradingDay : UInt32}

/-- The batches are scanned to the end exactly when they keep records whose rows are accepted. -/
theorem foldlM_scanPayloadBatch_eq_ok {batches : List ColumnBatch}
    (hbatches : ∀ batch ∈ batches, ∃ array, batch.HoldsColumn array) {scan : PayloadScan} :
    batches.foldlM (fun scan batch => scanPayloadBatch channel tradingDay options scan batch.view)
        ⟨.default, channel.firstBizIndex.toNat⟩ = .ok scan ↔
      ∃ groups, List.Forall₂ (fun batch vs => batch.KeepsRecords options.expectedRecordWidth vs)
          batches groups ∧
        PayloadAccepts channel tradingDay
          (groups.flatten.map CompactL2PhysicalV2Record.scalars) ∧
        scan = .ofRows channel (groups.flatten.map CompactL2PhysicalV2Record.scalars) := by
  have hgroups : ∀ groups : List (List CompactL2PhysicalV2Record),
      (∃ records, batches.mapM (fun batch => payloadRecords channel options batch.view) =
          .ok records ∧
        records.mapM (List.mapM CompactL2PhysicalV2Record.fromFixedBinaryV1) = .ok groups) ↔
      List.Forall₂ (fun batch vs => batch.KeepsRecords options.expectedRecordWidth vs)
        batches groups := by
    intro groups
    rw [← mapM_bind_eq_ok, mapM_eq_ok]
    constructor
    · intro h
      refine ((List.forall₂_and_left (p := (· ∈ batches)) _ _).mpr ⟨fun _ => id, h⟩).imp ?_
      rintro batch vs ⟨hmem, hbatch⟩
      obtain ⟨array, hholds⟩ := hbatches batch hmem
      exact (payloadRecords_eq_ok hholds).mp (bind_eq_ok.mp hbatch)
    · intro h
      refine ((List.forall₂_and_left (p := (· ∈ batches)) _ _).mpr ⟨fun _ => id, h⟩).imp ?_
      rintro batch vs ⟨hmem, hbatch⟩
      obtain ⟨array, hholds⟩ := hbatches batch hmem
      exact bind_eq_ok.mpr ((payloadRecords_eq_ok hholds).mpr hbatch)
  have hstep : (fun scan (batch : ColumnBatch) =>
      scanPayloadBatch channel tradingDay options scan batch.view) = fun scan batch =>
        payloadRecords channel options batch.view >>= fun records =>
          records.foldlM (scanPayloadRecord channel tradingDay) scan := rfl
  have hstart : (⟨.default, channel.firstBizIndex.toNat⟩ : PayloadScan) = .ofRows channel [] := rfl
  rw [hstep, foldlM_convert_eq_ok, hstart]
  constructor
  · rintro ⟨records, hrecords, hfold⟩
    rw [← foldlM_flatMap, List.flatMap_def, List.map_id', foldlM_scanPayloadRecord_eq_ok .nil] at hfold
    obtain ⟨vs, hvs, haccepts, rfl⟩ := hfold
    obtain ⟨groups, hsplit, rfl⟩ := mapM_flatten_eq_ok.mp hvs
    exact ⟨groups, (hgroups groups).mp ⟨records, hrecords, hsplit⟩, haccepts, rfl⟩
  · rintro ⟨groups, hkeeps, haccepts, rfl⟩
    obtain ⟨records, hrecords, hsplit⟩ := (hgroups groups).mpr hkeeps
    refine ⟨records, hrecords, ?_⟩
    rw [← foldlM_flatMap, List.flatMap_def, List.map_id', foldlM_scanPayloadRecord_eq_ok .nil]
    exact ⟨groups.flatten, mapM_flatten_eq_ok.mpr ⟨groups, hsplit, rfl⟩, haccepts, rfl⟩

end Records

/-! ### The scan of an opened file -/

/-- Lists that are related through the elements between them. -/
lemma forall₂_comp_iff {α β γ : Type} {R : α → β → Prop} {T : β → γ → Prop} {as : List α}
    {cs : List γ} : List.Forall₂ (fun a c => ∃ b, R a b ∧ T b c) as cs ↔
      ∃ bs, List.Forall₂ R as bs ∧ List.Forall₂ T bs cs := by
  constructor
  · intro h
    induction h with
    | nil => exact ⟨[], .nil, .nil⟩
    | cons hac _ ih =>
      obtain ⟨b, hab, hbc⟩ := hac
      obtain ⟨bs, has, hcs⟩ := ih
      exact ⟨b :: bs, .cons hab has, .cons hbc hcs⟩
  · rintro ⟨bs, has, hcs⟩
    induction has generalizing cs with
    | nil =>
      cases hcs
      exact .nil
    | cons hab _ ih =>
      cases hcs with
      | cons hbc hrest => exact .cons ⟨_, hab, hbc⟩ (ih hrest)

section Opened

open ColumnBundleFile

variable {file : ColumnBundleFile} {source : OcbReadSource} {zstd : ZstdCodec}
  {validation : OcbOpenValidationMode} {limits : OcbResourceLimits} {plan : ColumnBundleReadPlan}
  {channel : ChannelArtifactFactsV1} {tradingDay : UInt32} {options : CertificationOptions}
  {column : BundleColumn} (hfault : source.FaultFree)
  (h : openFromSource source zstd validation limits = .ok file) (hcolumn : column ∈ file.columns)

include hfault h hcolumn

/-- A batch of one column is that column of its row group. -/
lemma exists_holdsColumn {rowGroupId : UInt32} {batch : ColumnBatch}
    (hread : readRowGroup source zstd file.metadata file.columns rowGroupId [column.id] =
      .ok batch) :
    ∃ array, batch.HoldsColumn array ∧ array.IsOwned column batch.rowCount.toNat := by
  have hopened := opened_of_openFromSource h
  obtain ⟨⟨rowGroup, hfound, hrows⟩, howned⟩ := forall₂_isOwned hfault h hread
  obtain ⟨array, rest, ⟨column', hcolumn', hid, harray⟩, hrest, hcolumns⟩ :=
    List.forall₂_cons_left_iff.mp howned
  obtain rfl := List.forall₂_nil_left_iff.mp hrest
  obtain rfl := eq_of_nodup_map hopened.nodup_columnIds hcolumn' hcolumn hid
  have hgroup := ((hopened.invariant.rowGroupById _ _).mp hfound).1
  obtain ⟨-, -, hchunks⟩ := exists_chunkOf hfault h hgroup
  obtain ⟨chunk, -, -, -, hchunk⟩ := hchunks column' hcolumn'
  refine ⟨array, ⟨hcolumns, harray.rows, ?_⟩, harray⟩
  -- the bytes of the column are the uncompressed bytes of its chunk
  rw [hrows, ← hchunk.bytes _ harray.physicalType]
  exact chunk.uncompressedBytes.toNat_lt

/-- The scan of the payload headers gets to its end exactly when the pool is admitted, the row
groups keep records, and the rows of all of them are accepted up to the last BizIndex of the
channel. -/
theorem scansPayloadHeaders_eq_ok_iff (hvalid : file.validateReadPlan plan = .ok ())
    (hplan : plan.projectedColumnIds = [column.id]) (hnulls : file.WithoutNulls plan)
    {state : ChannelPayloadScanState} :
    ScansPayloadHeaders file zstd plan channel tradingDay options (.ok state) ↔
      IsOk (file.reusableBufferPoolForPlan plan options.inFlight false) ∧
      ∃ groups, List.Forall₂ (fun id vs => ∃ batch,
          file.readPlanRowGroup zstd plan id = .ok batch ∧
          batch.KeepsRecords options.expectedRecordWidth vs) plan.rowGroupIds groups ∧
        PayloadAccepts channel tradingDay (groups.flatten.map CompactL2PhysicalV2Record.scalars) ∧
        (PayloadScan.ofRows channel
          (groups.flatten.map CompactL2PhysicalV2Record.scalars)).expectedBizIndex =
            saturatingAdd 64 channel.lastBizIndex.toNat 1 ∧
        state = .ofRows (groups.flatten.map CompactL2PhysicalV2Record.scalars) := by
  have hnonempty : plan.projectedColumnIds ≠ [] := by simp [hplan]
  have hwhole : plan.rowGroupIds = [] ++ plan.rowGroupIds ++ [] := (List.append_nil _).symm
  have hselected : plannedRowGroupSubset plan plan.rowGroupIds = .ok plan.rowGroupIds :=
    plannedRowGroupSubset_infix hwhole (nodup_of_validateReadPlan hvalid)
  have hpos : 0 < options.inFlight := by
    rw [CertificationOptions.inFlight]
    omega
  have hcursor : validateReadCursorOptions ⟨options.inFlight, true⟩ = .ok () := by
    rw [validateReadCursorOptions, failIf_neg (Nat.pos_iff_ne_zero.mp hpos), ok_bind,
      failIf_neg (by simp)]
  -- what the visit does once a pool has been allocated
  have hvisits : ∀ {pool}, file.reusableBufferPoolForPlan plan options.inFlight false = .ok pool →
      ∀ scan, (∃ report, file.VisitsPlanRowGroupsInto zstd plan plan.rowGroupIds
          ⟨options.inFlight, true⟩ pool
          (continuingVisitor (scanPayloadBatch channel tradingDay options))
          ⟨.default, channel.firstBizIndex.toNat⟩ (.ok report) scan) ↔
        ∃ groups, List.Forall₂ (fun id vs => ∃ batch,
            file.readPlanRowGroup zstd plan id = .ok batch ∧
            batch.KeepsRecords options.expectedRecordWidth vs) plan.rowGroupIds groups ∧
          PayloadAccepts channel tradingDay
            (groups.flatten.map CompactL2PhysicalV2Record.scalars) ∧
          scan = .ofRows channel (groups.flatten.map CompactL2PhysicalV2Record.scalars) := by
    intro pool hpool scan
    obtain ⟨allocation⟩ := exists_allocation hpool
    have hscript := fun report => @PoolAllocation.visitsPlanRowGroupsInto_iff file plan _ _ pool
      allocation source zstd validation limits hfault h hnonempty (.inr hnulls) PayloadScan
      (continuingVisitor (scanPayloadBatch channel tradingDay options)) ⟨options.inFlight, true⟩
      plan.rowGroupIds plan.rowGroupIds ⟨.default, channel.firstBizIndex.toNat⟩ scan (.ok report)
      hcursor hselected List.infix_rfl
    rw [exists_congr hscript]
    have hrun := @run_continuing_eq_ok PayloadScan
      (fun scan batch => scanPayloadBatch channel tradingDay options scan batch.view)
      ⟨.default, channel.firstBizIndex.toNat⟩ scan (file.readScript zstd
        (plan.ofSelected plan.rowGroupIds) (visitIntoWaveSize (plan.ofSelected plan.rowGroupIds)
          ⟨options.inFlight, true⟩ pool))
    refine Iff.trans hrun ?_
    have hbatches : ∀ {batches}, plan.rowGroupIds.mapM (file.readPlanRowGroup zstd plan) =
        .ok batches → ∀ batch ∈ batches, ∃ array, batch.HoldsColumn array := by
      intro batches hread batch hbatch
      obtain ⟨id, -, hid⟩ := exists_of_forall₂ (mapM_eq_ok.mp hread) hbatch
      rw [readPlanRowGroup, source_of_openFromSource h, hplan] at hid
      obtain ⟨array, harray, -⟩ := exists_holdsColumn hfault h hcolumn hid
      exact ⟨array, harray⟩
    constructor
    · rintro ⟨hnone, hfold⟩
      obtain ⟨batches, hbatchesEq⟩ : ∃ batches, (file.readScript zstd
          (plan.ofSelected plan.rowGroupIds) (visitIntoWaveSize (plan.ofSelected plan.rowGroupIds)
            ⟨options.inFlight, true⟩ pool)).batches = batches := ⟨_, rfl⟩
      have hread := readScript_batches_iff.mp ⟨hnone, hbatchesEq⟩
      rw [hbatchesEq] at hfold
      obtain ⟨groups, hkeeps, haccepts, rfl⟩ :=
        (foldlM_scanPayloadBatch_eq_ok (hbatches hread)).mp hfold
      refine ⟨groups, ?_, haccepts, rfl⟩
      exact forall₂_comp_iff.mpr ⟨batches, mapM_eq_ok.mp hread, hkeeps⟩
    · rintro ⟨groups, hgroups, haccepts, rfl⟩
      obtain ⟨batches, hread, hkeeps⟩ := forall₂_comp_iff.mp hgroups
      have hread' := mapM_eq_ok.mpr hread
      obtain ⟨hnone, hsame⟩ := (@readScript_batches_iff file zstd
        (plan.ofSelected plan.rowGroupIds) _ batches).mpr hread'
      refine ⟨hnone, ?_⟩
      rw [hsame]
      exact (foldlM_scanPayloadBatch_eq_ok (hbatches hread')).mpr ⟨groups, hkeeps, haccepts, rfl⟩
  constructor
  · intro hscans
    generalize hresult : (.ok state : Result ChannelPayloadScanState) = result at hscans
    cases hscans with
    | refused hrefused => cases hresult
    | @visited pool visited scan hpool hvisit =>
      obtain ⟨report, hreport, hfinish⟩ := bind_eq_ok.mp hresult.symm
      obtain ⟨_, hspan, hstate⟩ := bind_eq_ok.mp hfinish
      rw [failIf_eq_ok, not_not] at hspan
      subst hreport
      obtain ⟨groups, hgroups, haccepts, rfl⟩ := (hvisits hpool scan).mp ⟨report, hvisit⟩
      exact ⟨⟨pool, hpool⟩, groups, hgroups, haccepts, hspan, (Except.ok.inj hstate).symm⟩
  · rintro ⟨⟨pool, hpool⟩, groups, hgroups, haccepts, hspan, rfl⟩
    obtain ⟨report, hvisit⟩ := (hvisits hpool _).mpr ⟨groups, hgroups, haccepts, rfl⟩
    have hscans := ScansPayloadHeaders.visited hpool hvisit
    rwa [finishPayloadScan, ok_bind, failIf_neg (not_not.mpr hspan), ok_bind, pure_eq_ok] at hscans

end Opened

end ArcadiaTio.Ocb
