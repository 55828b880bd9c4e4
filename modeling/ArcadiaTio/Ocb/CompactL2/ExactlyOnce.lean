import ArcadiaTio.Ocb.CompactL2.ChannelSteps

/-!
# Every channel once

When a read of channels returns a report and has not been cancelled, every channel was handed over
as its owned reads return it, and nothing else was, whatever the workers did in between
(`readsCompactL2PhysicalV2Inputs_spec`).  The read of a single channel is one of these reads
(`readsInputs_of_readsChannels`).
-/

namespace ArcadiaTio.Ocb

open ArcadiaTio.Lib

/-! ### The order of the channels -/

section Order

variable {inputs normalized : List NormalizedCompactL2PhysicalV2ChannelReadInput}

/-- A sorted list without equal neighbours is strictly sorted. -/
lemma pairwise_lt_of_neighbours {α : Type} {key : α → UInt32} {l : List α}
    (hsorted : l.Pairwise fun a b => key a ≤ key b)
    (hdistinct : ∀ pair ∈ l.zip l.tail, key pair.1 ≠ key pair.2) :
    l.Pairwise fun a b => key a < key b := by
  induction l with
  | nil => exact .nil
  | cons a rest ih =>
    obtain ⟨hle, hrest⟩ := List.pairwise_cons.mp hsorted
    cases rest with
    | nil => exact List.pairwise_singleton _ _
    | cons b rest =>
      have htail := ih hrest fun pair hpair => hdistinct pair (List.mem_cons_of_mem _ hpair)
      refine List.pairwise_cons.mpr ⟨fun c hc => ?_, htail⟩
      have hab : key a < key b := UInt32.lt_of_le_of_ne (hle b List.mem_cons_self)
        (hdistinct (a, b) List.mem_cons_self)
      rcases List.mem_cons.mp hc with rfl | hc
      · exact hab
      · exact UInt32.lt_trans hab ((List.pairwise_cons.mp htail).1 c hc)

/-- Reports and inputs are sorted by channel. -/
lemma pairwise_mergeSort_key {α : Type} (key : α → UInt32) (l : List α) :
    (l.mergeSort fun a b => key a ≤ key b).Pairwise fun a b => key a ≤ key b := by
  have hsorted := @List.pairwise_mergeSort _ (fun a b => decide (key a ≤ key b))
    (fun a b c hab hbc => by
      rw [decide_eq_true_eq] at hab hbc ⊢
      exact UInt32.le_trans hab hbc)
    (fun a b => by
      rw [Bool.or_eq_true, decide_eq_true_eq, decide_eq_true_eq]
      exact UInt32.le_total _ _) l
  exact hsorted.imp fun h => by simpa using h

/-- The inputs are sorted by their distinct channels. -/
lemma normalizeInputs_eq_ok (h : normalizeInputs inputs = .ok normalized) :
    normalized.Perm inputs ∧ normalized ≠ [] ∧
      normalized.Pairwise fun a b => a.channelId < b.channelId := by
  obtain ⟨_, -, h⟩ := bind_eq_ok.mp h
  obtain ⟨_, hempty, h⟩ := bind_eq_ok.mp h
  obtain ⟨_, hduplicates, h⟩ := bind_eq_ok.mp h
  cases h
  rw [failIf_eq_ok] at hempty hduplicates
  have hperm := List.mergeSort_perm inputs fun a b => a.channelId ≤ b.channelId
  refine ⟨hperm, fun hnil => hempty (List.nil_perm.mp (hnil ▸ hperm)), ?_⟩
  refine pairwise_lt_of_neighbours (pairwise_mergeSort_key _ inputs) fun pair hpair heq => ?_
  refine hduplicates (List.any_eq_true.mpr ⟨pair, hpair, ?_⟩)
  rw [decide_eq_true_eq]
  exact heq

lemma nodup_of_pairwise_lt (h : normalized.Pairwise fun a b => a.channelId < b.channelId) :
    (normalized.map NormalizedCompactL2PhysicalV2ChannelReadInput.channelId).Nodup := by
  rw [List.nodup_iff_pairwise_ne, List.pairwise_map]
  refine h.imp fun hlt heq => ?_
  rw [heq] at hlt
  exact UInt32.lt_irrefl _ hlt

end Order

/-! ### Sums over the channels -/

section Sums

/-- What the visitor was called with is what was handed over of the channels. -/
lemma sum_deliveredTo {calls : List ChannelVisitorCall} {channelIds : List UInt32}
    (hnodup : channelIds.Nodup) (hcalls : ∀ call ∈ calls, call.batch.channelId ∈ channelIds)
    (f : ColumnBatch → ℕ) :
    (channelIds.map fun id => ((deliveredTo calls id).map f).sum).sum =
      (calls.map fun call => f call.batch.batch).sum := by
  induction calls using List.reverseRecOn with
  | nil => simp
  | append_singleton calls call ih =>
    have hbefore := ih fun other hother => hcalls other (List.mem_append_left _ hother)
    have hid := hcalls call (List.mem_append_right _ (List.mem_singleton_self _))
    have hsplit : ∀ id, ((deliveredTo (calls ++ [call]) id).map f).sum =
        ((deliveredTo calls id).map f).sum +
          if id = call.batch.channelId then f call.batch.batch else 0 := by
      intro id
      by_cases heq : call.batch.channelId = id
      · rw [deliveredTo_append_self heq, if_pos heq.symm, List.map_append, List.sum_append]
        simp
      · rw [deliveredTo_append_other heq, if_neg fun h => heq h.symm, Nat.add_zero]
    have hone : (channelIds.map fun id =>
        if id = call.batch.channelId then f call.batch.batch else 0).sum = f call.batch.batch := by
      rw [List.sum_map_eq_nsmul_single call.batch.channelId _ fun id hne _ => if_neg hne,
        List.count_eq_one_of_mem hnodup hid, one_nsmul, if_pos rfl]
    simp only [hsplit]
    rw [List.sum_map_add, hbefore, hone, List.map_append, List.sum_append]
    simp

end Sums

/-! ### Whole channels -/

section Whole

variable {openPath : String → Result OcbReadSource} {zstd : ZstdCodec}
  {options : CompactL2PhysicalV2ParallelReadOptions}
  {inputs normalized : List NormalizedCompactL2PhysicalV2ChannelReadInput}
  {input : NormalizedCompactL2PhysicalV2ChannelReadInput}
  {limits resourceLimits : OcbResourceLimits} {workerLimits : List OcbResourceLimits}
  {calls : List ChannelVisitorCall} {result : Result CompactL2PhysicalV2ParallelReadReport}
  {report : CompactL2PhysicalV2ParallelReadReport}

/-- A channel was handed over as the owned reads of its selected row groups return it, and its
report says so. -/
structure ReadsWholeChannel (openPath : String → Result OcbReadSource) (zstd : ZstdCodec)
    (options : CompactL2PhysicalV2ParallelReadOptions) (limits : OcbResourceLimits)
    (input : NormalizedCompactL2PhysicalV2ChannelReadInput) (delivered : List ColumnBatch)
    (report : CompactL2PhysicalV2ChannelReadReport) : Prop where
  owned : ∃ file plan executed,
    openChannel openPath zstd options input limits = .ok (file, plan) ∧
    file.visitedPlan plan (input.selection plan) ⟨options.maxInFlightRowGroups, true⟩ =
      .ok executed ∧
    executed.rowGroupIds.mapM (file.readPlanRowGroup zstd executed) = .ok delivered
  batchesYielded : report.batchesYielded = delivered.length
  rowsYielded : report.rowsYielded = (delivered.map fun batch => batch.rowCount.toNat).sum
  expectedRows : ∀ expected ∈ input.expectedRows, report.rowsYielded = expected.toNat

/-- The batches of an executed plan have the rows of its row groups. -/
lemma sum_rowCount_of_mapM {file : ColumnBundleFile} {plan : ColumnBundleReadPlan}
    (h : file.Opened) {ids : List UInt32} {batches : List ColumnBatch}
    (hread : ids.mapM (file.readPlanRowGroup zstd plan) = .ok batches) :
    (batches.map fun batch => batch.rowCount.toNat).sum = file.metadata.selectedRows ids := by
  have hrows : List.Forall₂ (fun id (batch : ColumnBatch) =>
      file.metadata.rowsOf id = batch.rowCount.toNat) ids batches := by
    refine (mapM_eq_ok.mp hread).imp fun id batch hbatch => ?_
    obtain ⟨rowGroup, hrowGroup, -, -, hcount⟩ := h.of_readPlanRowGroup hbatch
    rw [OcbMetadataV1.rowsOf, hrowGroup, hcount]
    rfl
  rw [OcbMetadataV1.selectedRows]
  induction hrows with
  | nil => rfl
  | @cons id batch ids batches hhead _ ih =>
    have hrest : ids.mapM (file.readPlanRowGroup zstd plan) = .ok batches := by
      obtain ⟨_, -, hread⟩ := bind_eq_ok.mp ((List.mapM_cons).symm.trans hread)
      obtain ⟨_, htail, hread⟩ := bind_eq_ok.mp hread
      cases hread
      exact htail
    rw [List.map_cons, List.map_cons, List.sum_cons, List.sum_cons, hhead, ih hrest]

lemma CompletesScript.readsWholeChannel {delivered : List ColumnBatch}
    {channelReport : CompactL2PhysicalV2ChannelReadReport}
    (h : CompletesScript openPath zstd options limits input delivered channelReport) :
    ReadsWholeChannel openPath zstd options limits input delivered channelReport := by
  obtain ⟨script, hscript, hfailure, hbatches, hcount, hrows⟩ := h.planned
  obtain ⟨⟨file, plan⟩, hopen, rfl⟩ := map_eq_ok.mp hscript
  obtain ⟨executed, hexecuted, hread, -⟩ :=
    ColumnBundleFile.exists_executed_of_visitPlanScript hfailure
  have hopened := opened_of_openChannel hopen
  have hexecutable := ColumnBundleFile.executable_of_visitedPlan hexecuted
  rw [hbatches] at hread
  have hlength : delivered.length < 2 ^ 64 := by
    have hids := ColumnBundleFile.length_le_of_nodup hexecutable.nodup
    have hforall := (mapM_eq_ok.mp hread).length_eq
    omega
  have hsum := sum_rowCount_of_mapM hopened hread
  have hfits := hopened.invariant.selectedRows_lt hexecutable.nodup hexecutable.known
  refine ⟨⟨file, plan, executed, hopen, hexecuted, hread⟩, ?_, ?_, h.rows⟩
  · rw [hcount, ColumnBundleReadCursorReport.batchesYielded_yieldedAll (by simpa using hlength)]
    simp
  · rw [hrows, ColumnBundleReadCursorReport.rowsYielded_yieldedAll (by simp; omega)]
    simp

/-- All workers get the same share of the limits. -/
lemma channelWorkerResourceLimits_eq {i count : ℕ} (hi : i < count) :
    channelWorkerResourceLimits resourceLimits i count =
      channelWorkerResourceLimits resourceLimits 0 count := by
  have hshare : ∀ total, channelWorkerResourceShare total i count =
      channelWorkerResourceShare total 0 count := by
    intro total
    rw [channelWorkerResourceShare, channelWorkerResourceShare, failIf_neg (by omega),
      failIf_neg (by omega)]
  rw [channelWorkerResourceLimits, channelWorkerResourceLimits, hshare, hshare]

/-- What has been prepared when the workers start. -/
lemma prepareChannelsRead_eq_ok
    (h : prepareChannelsRead options inputs resourceLimits = .ok (normalized, workerLimits)) :
    normalizeInputs inputs = .ok normalized ∧
      workerLimits.length = effectiveChannelWorkers options normalized.length ∧
      ∃ limits, channelWorkerResourceLimits resourceLimits 0
          (effectiveChannelWorkers options inputs.length) = .ok limits ∧
        ∀ share ∈ workerLimits, share = limits := by
  obtain ⟨_, -, h⟩ := bind_eq_ok.mp h
  obtain ⟨sorted, hsorted, h⟩ := bind_eq_ok.mp h
  obtain ⟨shares, hshares, h⟩ := bind_eq_ok.mp h
  cases h
  have hforall := mapM_eq_ok.mp hshares
  have hcount : workerLimits.length = effectiveChannelWorkers options normalized.length := by
    rw [← hforall.length_eq, List.length_range]
  have hlength := (normalizeInputs_eq_ok hsorted).1.length_eq
  have hequal : ∀ share ∈ workerLimits, channelWorkerResourceLimits resourceLimits 0
      (effectiveChannelWorkers options inputs.length) = .ok share := by
    intro share hshare
    obtain ⟨i, hi, hlimits⟩ := exists_of_forall₂ hforall hshare
    rw [channelWorkerResourceLimits_eq (List.mem_range.mp hi), hlength] at hlimits
    exact hlimits
  refine ⟨hsorted, hcount, ?_⟩
  have hpos : 0 < workerLimits.length := by
    rw [hcount, effectiveChannelWorkers]
    omega
  refine ⟨workerLimits[0], hequal _ (List.getElem_mem hpos), fun share hshare => ?_⟩
  exact Except.ok.inj ((hequal share hshare).symm.trans (hequal _ (List.getElem_mem hpos)))

/-! ### Exactly once -/

/-- What a read that was not cancelled has done: it has handed over every channel, nothing else, and
its reports are in the order of the channels. -/
structure ReadsAllChannels (openPath : String → Result OcbReadSource) (zstd : ZstdCodec)
    (options : CompactL2PhysicalV2ParallelReadOptions)
    (inputs : List NormalizedCompactL2PhysicalV2ChannelReadInput)
    (resourceLimits : OcbResourceLimits) (calls : List ChannelVisitorCall)
    (report : CompactL2PhysicalV2ParallelReadReport) : Prop where
  channels : ∃ normalized limits, normalizeInputs inputs = .ok normalized ∧
    channelWorkerResourceLimits resourceLimits 0
      (effectiveChannelWorkers options inputs.length) = .ok limits ∧
    List.Forall₂ (fun input channelReport => channelReport.channelId = input.channelId ∧
      ReadsWholeChannel openPath zstd options limits input (deliveredTo calls input.channelId)
        channelReport) normalized report.channelReports
  nothingElse : ∀ call ∈ calls, call.answer = some (.ok .continue) ∧
    ∃ input ∈ inputs, input.channelId = call.batch.channelId
  channelCount : report.channelCount = inputs.length
  batchesYielded : report.batchesYielded = min calls.length (2 ^ 64 - 1)
  rowsYielded : report.rowsYielded =
    min (calls.map fun call => call.batch.batch.rowCount.toNat).sum (2 ^ 64 - 1)

lemma firstChannelError_eq_none {results : List (Result CompactL2PhysicalV2ChannelReadReport)}
    (h : firstChannelError results = none) : ∀ received ∈ results, ∃ report,
      received = .ok report := by
  intro received hreceived
  have hnone := List.findSome?_eq_none_iff.mp h received hreceived
  cases received with
  | error error => cases hnone
  | ok report => exact ⟨report, rfl⟩

lemma mem_channelReports {results : List (Result CompactL2PhysicalV2ChannelReadReport)}
    {channelReport : CompactL2PhysicalV2ChannelReadReport} :
    channelReport ∈ channelReports results ↔ .ok channelReport ∈ results := by
  rw [channelReports, List.mem_filterMap]
  constructor
  · rintro ⟨received, hreceived, heq⟩
    cases received with
    | error error => cases heq
    | ok other =>
      cases heq
      exact hreceived
  · exact fun hreceived => ⟨_, hreceived, rfl⟩

/-- The reports are those of the channels that have been received. -/
lemma map_channelId_channelReports
    {received : List (NormalizedCompactL2PhysicalV2ChannelReadInput ×
      Result CompactL2PhysicalV2ChannelReadReport)}
    (h : ∀ m ∈ received, ∃ channelReport, m.2 = .ok channelReport ∧
      channelReport.channelId = m.1.channelId) :
    (channelReports (received.map Prod.snd)).map CompactL2PhysicalV2ChannelReadReport.channelId =
      (received.map Prod.fst).map NormalizedCompactL2PhysicalV2ChannelReadInput.channelId := by
  induction received with
  | nil => rfl
  | cons m rest ih =>
    obtain ⟨channelReport, hok, hid⟩ := h m List.mem_cons_self
    have hrest := ih fun n hn => h n (List.mem_cons_of_mem m hn)
    have hcons : channelReports ((m :: rest).map Prod.snd) =
        channelReport :: channelReports (rest.map Prod.snd) := by
      rw [channelReports, List.map_cons, hok]
      rfl
    rw [hcons, List.map_cons, hrest, hid]
    rfl

/-- Strictly sorted lists with the same channels list them in the same order. -/
lemma map_channelId_mergeSort {reports : List CompactL2PhysicalV2ChannelReadReport}
    (hnormalized : normalized.Pairwise fun a b => a.channelId < b.channelId)
    (hperm : (reports.map CompactL2PhysicalV2ChannelReadReport.channelId).Perm
      (normalized.map NormalizedCompactL2PhysicalV2ChannelReadInput.channelId)) :
    ((reports.mergeSort fun a b => a.channelId ≤ b.channelId).map
      CompactL2PhysicalV2ChannelReadReport.channelId) =
        normalized.map NormalizedCompactL2PhysicalV2ChannelReadInput.channelId := by
  have hids := ((List.mergeSort_perm reports fun a b => a.channelId ≤ b.channelId).map
    CompactL2PhysicalV2ChannelReadReport.channelId).trans hperm
  have hreports : ((reports.mergeSort fun a b => a.channelId ≤ b.channelId).map
      CompactL2PhysicalV2ChannelReadReport.channelId).Pairwise (· ≤ ·) :=
    List.pairwise_map.mpr (pairwise_mergeSort_key _ reports)
  have hinputs : (normalized.map
      NormalizedCompactL2PhysicalV2ChannelReadInput.channelId).Pairwise (· ≤ ·) :=
    List.pairwise_map.mpr (hnormalized.imp fun hlt => UInt32.le_of_lt hlt)
  exact hids.eq_of_pairwise (fun a b _ _ hab hba => UInt32.le_antisymm hab hba) hreports hinputs

/-- What is known when a read has returned a report and was not cancelled. -/
structure FinishedRead (openPath : String → Result OcbReadSource) (zstd : ZstdCodec)
    (options : CompactL2PhysicalV2ParallelReadOptions) (limits : OcbResourceLimits)
    (normalized : List NormalizedCompactL2PhysicalV2ChannelReadInput)
    (received : List (NormalizedCompactL2PhysicalV2ChannelReadInput ×
      Result CompactL2PhysicalV2ChannelReadReport)) (sh : ChannelsShared) : Prop where
  perm : (received.map Prod.fst).Perm normalized
  answers : ∀ call ∈ sh.calls, call.answer = some (.ok .continue)
  channels : ∀ m ∈ received, ∃ channelReport, m.2 = .ok channelReport ∧
    channelReport.channelId = m.1.channelId ∧ CompletesScript openPath zstd options limits m.1
      (deliveredTo sh.calls m.1.channelId) channelReport

/-- The flag is never cleared. -/
lemma stop_of_step {j : NormalizedCompactL2PhysicalV2ChannelReadInput} {l l' : ChannelProgress}
    {sh sh' : ChannelsShared} (h : ReadPhysicalV2ChannelStep openPath zstd options j (l, sh) (l', sh'))
    (hstop : sh.stop = true) : sh'.stop = true := by
  cases h with
  | stored => rfl
  | announced => rfl
  | _ => exact hstop

lemma finishedRead {s : PoolState (effectiveChannelWorkers options normalized.length)
      NormalizedCompactL2PhysicalV2ChannelReadInput ChannelProgress ChannelsShared
      (Result CompactL2PhysicalV2ChannelReadReport)}
    (hlength : workerLimits.length = effectiveChannelWorkers options normalized.length)
    (hshares : ∀ share ∈ workerLimits, share = limits)
    (hnodup : (normalized.map NormalizedCompactL2PhysicalV2ChannelReadInput.channelId).Nodup)
    (hreachable : s.Reachable (readChannelsProgram openPath zstd options workerLimits) normalized
      ⟨false, []⟩)
    (hfinal : s.Final (readChannelsProgram openPath zstd options workerLimits))
    (hok : ∀ m ∈ s.received, ∃ channelReport, m.2 = .ok channelReport ∧
      channelReport.cancelled = false)
    (hpanicked : ∀ w, workerPanicked (s.workers w) = false) :
    FinishedRead openPath zstd options limits normalized s.received s.shared := by
  have hnotPanicked : ∀ w j l, s.workers w = .holding j l → l ≠ .panicked := by
    rintro w j l hw rfl
    have hfalse := hpanicked w
    rw [hw] at hfalse
    cases hfalse
  -- nothing was raised: there is no cause for it
  have hcalm : ¬ (channelsCauseRule openPath zstd options workerLimits).raised s.shared := by
    intro hraised
    have hinit : ¬ (channelsCauseRule openPath zstd options workerLimits).raised ⟨false, []⟩ := by
      rintro (hstop | ⟨call, hcall, -⟩)
      · cases hstop
      · cases hcall
    rcases hreachable.hasCause (channelsCauseRule openPath zstd options workerLimits) hinit hraised with
      ⟨w, j, l, hw, -⟩ | ⟨m, hm, hbad⟩
    · rcases hfinal.workers w with hended | ⟨i, l', hw', hcrashed⟩
      · rw [hw] at hended
        cases hended
      · exact hnotPanicked w i l' hw' hcrashed
    · rw [hfinal.messages, List.nil_append] at hm
      obtain ⟨channelReport, hresult, hcancelled⟩ := hok m hm
      have htrue := hbad channelReport hresult
      rw [hcancelled] at htrue
      cases htrue
  have hholds := hreachable.holds (hnodup.of_map _)
    (channelsRule openPath zstd options hlength.ge hshares hnodup) fun _ _ => rfl
  have hW : 0 < effectiveChannelWorkers options normalized.length := by
    rw [effectiveChannelWorkers]
    omega
  refine ⟨?_, fun call hcall => ?_, fun m hm => ?_⟩
  · exact hfinal.perm hreachable hW stop_of_step hnotPanicked fun hstop => hcalm (Or.inl hstop)
  · by_contra hanswer
    exact hcalm (Or.inr ⟨call, hcall, hanswer⟩)
  · obtain ⟨channelReport, hresult, hcancelled⟩ := hok m hm
    have hdone := hholds.finished m (List.mem_append_right _ hm)
    exact ⟨channelReport, hresult, hdone.channelId channelReport hresult,
      hdone.completes channelReport hresult hcancelled⟩

/-- The reports of a read that was not cancelled are in the order of the channels, and every channel
was handed over. -/
lemma FinishedRead.forall₂_channels
    {received : List (NormalizedCompactL2PhysicalV2ChannelReadInput ×
      Result CompactL2PhysicalV2ChannelReadReport)} {sh : ChannelsShared}
    (h : FinishedRead openPath zstd options limits normalized received sh)
    (hnormalized : normalizeInputs inputs = .ok normalized) :
    List.Forall₂ (fun input channelReport =>
      channelReport.channelId = input.channelId ∧
        ReadsWholeChannel openPath zstd options limits input
          (deliveredTo sh.calls input.channelId) channelReport) normalized
      ((channelReports (received.map Prod.snd)).mergeSort
        fun a b => a.channelId ≤ b.channelId) := by
  obtain ⟨-, -, hlt⟩ := normalizeInputs_eq_ok hnormalized
  have hnodup := nodup_of_pairwise_lt hlt
  have hids := map_channelId_channelReports fun m hm =>
    let ⟨channelReport, hresult, hid, _⟩ := h.channels m hm
    ⟨channelReport, hresult, hid⟩
  have hsorted := map_channelId_mergeSort hlt (hids ▸ h.perm.map
    NormalizedCompactL2PhysicalV2ChannelReadInput.channelId)
  refine List.forall₂_iff_zip.mpr ⟨?_, fun {input channelReport} hpair => ?_⟩
  · simpa using (congrArg List.length hsorted).symm
  have hid : channelReport.channelId = input.channelId := by
    have hzip := List.mem_map_of_mem (f := Prod.map
      NormalizedCompactL2PhysicalV2ChannelReadInput.channelId
      CompactL2PhysicalV2ChannelReadReport.channelId) hpair
    rw [← List.zip_map, hsorted, List.zip_map'] at hzip
    obtain ⟨id, -, heq⟩ := List.mem_map.mp hzip
    exact (Prod.ext_iff.mp heq).2.symm.trans (Prod.ext_iff.mp heq).1
  obtain ⟨hinput, hreport⟩ := List.of_mem_zip hpair
  have hmem := mem_channelReports.mp ((List.mergeSort_perm _ _).mem_iff.mp hreport)
  obtain ⟨m, hm, hresult⟩ := List.mem_map.mp hmem
  obtain ⟨other, hother, hid', hcompletes⟩ := h.channels m hm
  obtain rfl := Except.ok.inj (hresult.symm.trans hother)
  have hsame : m.1 = input := eq_of_nodup_map hnodup
    (h.perm.mem_iff.mp (List.mem_map_of_mem hm)) hinput (hid'.symm.trans hid)
  rw [hsame] at hcompletes
  exact ⟨hid, hcompletes.readsWholeChannel⟩

/-- What all workers together make of the reports of a read that was not cancelled. -/
lemma FinishedRead.readsAllChannels
    {received : List (NormalizedCompactL2PhysicalV2ChannelReadInput ×
      Result CompactL2PhysicalV2ChannelReadReport)} {sh : ChannelsShared}
    (h : FinishedRead openPath zstd options limits normalized received sh)
    (hnormalized : normalizeInputs inputs = .ok normalized)
    (hlimits : channelWorkerResourceLimits resourceLimits 0
      (effectiveChannelWorkers options inputs.length) = .ok limits)
    (hcalls : ∀ call ∈ sh.calls, ∃ input ∈ normalized, input.channelId = call.batch.channelId) :
    ReadsAllChannels openPath zstd options inputs resourceLimits sh.calls
      (parallelReadReport options normalized.length
        (effectiveChannelWorkers options normalized.length)
        (channelReports (received.map Prod.snd))) := by
  obtain ⟨hperm, -, hlt⟩ := normalizeInputs_eq_ok hnormalized
  have hnodup := nodup_of_pairwise_lt hlt
  have hforall := h.forall₂_channels hnormalized
  -- a sum over the reports is a sum over the calls, channel by channel
  have hsums : ∀ (f : ColumnBatch → ℕ) (g : CompactL2PhysicalV2ChannelReadReport → ℕ),
      (∀ input channelReport, ReadsWholeChannel openPath zstd options limits input
        (deliveredTo sh.calls input.channelId) channelReport →
          g channelReport = ((deliveredTo sh.calls input.channelId).map f).sum) →
      (((channelReports (received.map Prod.snd)).mergeSort
        fun a b => a.channelId ≤ b.channelId).map g).sum =
          (sh.calls.map fun call => f call.batch.batch).sum := by
    intro f g hfg
    have hcalls' : ∀ call ∈ sh.calls, call.batch.channelId ∈
        normalized.map NormalizedCompactL2PhysicalV2ChannelReadInput.channelId := by
      intro call hcall
      obtain ⟨input, hinput, hid⟩ := hcalls call hcall
      exact List.mem_map.mpr ⟨input, hinput, hid⟩
    rw [← sum_deliveredTo hnodup hcalls' f, List.map_map]
    refine congrArg List.sum (List.forall₂_eq_eq_eq ▸ ?_)
    rw [List.forall₂_map_right_iff, List.forall₂_map_left_iff]
    exact hforall.flip.imp fun channelReport input hboth => hfg input channelReport hboth.2
  refine ⟨⟨normalized, limits, hnormalized, hlimits, hforall⟩, fun call hcall => ?_,
    hperm.length_eq, ?_, ?_⟩
  · obtain ⟨input, hinput, hid⟩ := hcalls call hcall
    exact ⟨h.answers call hcall, input, hperm.mem_iff.mp hinput, hid⟩
  · show List.foldl _ 0 _ = _
    rw [foldl_saturatingAdd _ _ (by omega), hsums (fun _ => 1) _ fun input channelReport hwhole => ?_]
    · simp
    · rw [hwhole.batchesYielded]
      simp
  · show List.foldl _ 0 _ = _
    rw [foldl_saturatingAdd _ _ (by omega), hsums _ _ fun input channelReport hwhole =>
      hwhole.rowsYielded, Nat.zero_add]

/-- A read that returns a report has prepared its channels, and no channel has failed. -/
lemma ReadsCompactL2PhysicalV2Inputs.exists_final
    (h : ReadsCompactL2PhysicalV2Inputs openPath zstd options inputs resourceLimits (.ok report)
      calls) :
    ∃ normalized workerLimits, prepareChannelsRead options inputs resourceLimits =
        .ok (normalized, workerLimits) ∧
      ∃ s : PoolState (effectiveChannelWorkers options normalized.length)
          NormalizedCompactL2PhysicalV2ChannelReadInput ChannelProgress ChannelsShared
          (Result CompactL2PhysicalV2ChannelReadReport),
        s.Reachable (readChannelsProgram openPath zstd options workerLimits) normalized
          ⟨false, []⟩ ∧
        s.Final (readChannelsProgram openPath zstd options workerLimits) ∧
        calls = s.shared.calls ∧
        (∀ m ∈ s.received, ∃ channelReport, m.2 = .ok channelReport) ∧
        (∀ w, workerPanicked (s.workers w) = false) ∧
        report = parallelReadReport options normalized.length
          (effectiveChannelWorkers options normalized.length)
          (channelReports (s.received.map Prod.snd)) := by
  generalize hresult : Except.ok report = result at h
  cases h with
  | refused => cases hresult
  | @read normalized workerLimits s hprepared hreachable hfinal =>
    refine ⟨normalized, workerLimits, hprepared, s, hreachable, hfinal, rfl, ?_⟩
    rw [channelsResult] at hresult
    cases herror : firstChannelError (s.received.map Prod.snd) with
    | some error =>
      rw [herror] at hresult
      cases hresult
    | none =>
      rw [herror] at hresult
      dsimp only at hresult
      cases hpanicked : (List.finRange _).any fun w => workerPanicked (s.workers w) with
      | true =>
        rw [hpanicked] at hresult
        cases hresult
      | false =>
        rw [hpanicked] at hresult
        refine ⟨fun m hm => firstChannelError_eq_none herror m.2 (List.mem_map_of_mem hm),
          fun w => ?_, Except.ok.inj hresult⟩
        exact Bool.eq_false_iff.mpr (List.any_eq_false.mp hpanicked w (List.mem_finRange w))

/-- The calls of the visitor are for channels of the read. -/
lemma exists_input_of_call {W : ℕ}
    {s : PoolState W NormalizedCompactL2PhysicalV2ChannelReadInput ChannelProgress ChannelsShared
      (Result CompactL2PhysicalV2ChannelReadReport)}
    (h : s.Reachable (readChannelsProgram openPath zstd options workerLimits) normalized
      ⟨false, []⟩) :
    ∀ call ∈ s.shared.calls, ∃ input ∈ normalized, input.channelId = call.batch.channelId := by
  refine h.shared (P := fun sh : ChannelsShared => ∀ call ∈ sh.calls,
    ∃ input ∈ normalized, input.channelId = call.batch.channelId) ?_ fun {j _ _ _ _} hj hsh hwork => ?_
  · rintro call ⟨⟩
  · cases hwork with
    | called answer =>
      intro call hcall
      rcases List.mem_append.mp hcall with hcall | hcall
      · exact hsh call hcall
      · obtain rfl := List.mem_singleton.mp hcall
        exact ⟨j, hj, rfl⟩
    | _ => exact hsh

lemma ReadsCompactL2PhysicalV2Inputs.exists_finishedRead
    (h : ReadsCompactL2PhysicalV2Inputs openPath zstd options inputs resourceLimits (.ok report)
      calls) (hcancelled : report.cancelled = false) :
    ∃ normalized limits received, ∃ sh : ChannelsShared, normalizeInputs inputs = .ok normalized ∧
      channelWorkerResourceLimits resourceLimits 0
        (effectiveChannelWorkers options inputs.length) = .ok limits ∧
      FinishedRead openPath zstd options limits normalized received sh ∧
      (∀ call ∈ sh.calls, ∃ input ∈ normalized, input.channelId = call.batch.channelId) ∧
      calls = sh.calls ∧ report = parallelReadReport options normalized.length
        (effectiveChannelWorkers options normalized.length)
        (channelReports (received.map Prod.snd)) := by
  obtain ⟨normalized, workerLimits, hprepared, s, hreachable, hfinal, rfl, hok, hpanicked, rfl⟩ :=
    h.exists_final
  obtain ⟨hnormalized, hlength, limits, hlimits, hshares⟩ := prepareChannelsRead_eq_ok hprepared
  have hnodup := nodup_of_pairwise_lt (normalizeInputs_eq_ok hnormalized).2.2
  have hfinished := finishedRead hlength hshares hnodup hreachable hfinal (fun m hm => ?_) hpanicked
  · exact ⟨normalized, limits, s.received, s.shared, hnormalized, hlimits, hfinished,
      exists_input_of_call hreachable, rfl, rfl⟩
  · obtain ⟨channelReport, hresult⟩ := hok m hm
    refine ⟨channelReport, hresult, ?_⟩
    have hmem : channelReport ∈ channelReports (s.received.map Prod.snd) :=
      mem_channelReports.mpr (hresult ▸ List.mem_map_of_mem hm)
    have hnone := List.any_eq_false.mp hcancelled channelReport
      ((List.mergeSort_perm _ _).mem_iff.mpr hmem)
    exact Bool.eq_false_iff.mpr hnone

lemma ReadsCompactL2PhysicalV2Inputs.askedToStop
    (h : ReadsCompactL2PhysicalV2Inputs openPath zstd options inputs resourceLimits (.ok report)
      calls) (hcancelled : report.cancelled = true) : AskedToStop calls := by
  obtain ⟨normalized, workerLimits, -, s, hreachable, hfinal, rfl, hok, hpanicked, rfl⟩ :=
    h.exists_final
  rcases hreachable.calm (askedRule openPath zstd options workerLimits)
    (fun hstop => by cases hstop) with (⟨w, j, l, hw, hdoomed⟩ | ⟨m, hm, error, herror⟩) | hcalm
  · rcases hfinal.workers w with hended | ⟨i, l', hw', hcrashed⟩
    · rw [hw] at hended
      cases hended
    · have hfalse := hpanicked w
      rw [hw', show l' = .panicked from hcrashed] at hfalse
      cases hfalse
  · rw [hfinal.messages, List.nil_append] at hm
    obtain ⟨channelReport, hresult⟩ := hok m hm
    rw [herror] at hresult
    cases hresult
  · obtain ⟨channelReport, hmem, hchannel⟩ := List.any_eq_true.mp hcancelled
    have hreceived := mem_channelReports.mp ((List.mergeSort_perm _ _).mem_iff.mp hmem)
    obtain ⟨m, hm, hresult⟩ := List.mem_map.mp hreceived
    exact hcalm.finished m (List.mem_append_right _ hm) channelReport hresult hchannel

/-! ### A worker for each channel -/

/-- Workers that have a channel each end their read when they have finished their channels in some
order. -/
lemma readsInputs_of_doneInTurn
    {order : List NormalizedCompactL2PhysicalV2ChannelReadInput} {sh : ChannelsShared}
    {results : List (NormalizedCompactL2PhysicalV2ChannelReadInput ×
      Result CompactL2PhysicalV2ChannelReadReport)}
    (hprepared : prepareChannelsRead options inputs resourceLimits = .ok (normalized, workerLimits))
    (assign : NormalizedCompactL2PhysicalV2ChannelReadInput →
      Fin (effectiveChannelWorkers options normalized.length))
    (hperm : order.Perm normalized) (hnodup : (normalized.map assign).Nodup)
    (h : PoolState.DoneInTurn (readChannelsProgram openPath zstd options workerLimits) assign
      ⟨false, []⟩ order results sh) :
    ReadsCompactL2PhysicalV2Inputs openPath zstd options inputs resourceLimits
      (channelsResult options normalized.length (results.map Prod.snd) false) sh.calls := by
  have hread := ReadsCompactL2PhysicalV2Inputs.read hprepared
    (PoolState.reachable_of_doneInTurn assign hperm hnodup h) ⟨fun w => Or.inl rfl, rfl⟩
  have hnobody : ((List.finRange (effectiveChannelWorkers options normalized.length)).any fun _ =>
      workerPanicked .ended) = false := List.any_eq_false.mpr fun _ _ => Bool.false_ne_true
  dsimp only at hread
  rwa [hnobody] at hread

/-! ### One channel -/

section One

variable {S : Type}
  {visitor : S → CompactL2PhysicalV2ReadBatch → S × Result ColumnBundleVisitControl}

lemma normalizeInputs_singleton (h : normalizeInputs [input] = .ok normalized) :
    normalized = [input] :=
  List.perm_singleton.mp (normalizeInputs_eq_ok h).1

variable (options) in
lemma effectiveChannelWorkers_one : effectiveChannelWorkers options 1 = 1 := by
  rw [effectiveChannelWorkers]
  omega

/-- For one channel there is one worker to prepare. -/
lemma prepareChannelsRead_singleton : prepareChannelsRead options [input] resourceLimits =
    (fun limits => ([input], [limits])) <$> prepareChannelRead options input resourceLimits := by
  rw [prepareChannelsRead, prepareChannelRead]
  cases options.validate with
  | error error => rfl
  | ok =>
    rw [ok_bind, ok_bind]
    cases hinputs : normalizeInputs [input] with
    | error error => rfl
    | ok normalized =>
      obtain rfl := normalizeInputs_singleton hinputs
      rw [ok_bind, ok_bind]
      show (do
        let workerLimits ← (List.range (effectiveChannelWorkers options 1)).mapM fun workerIndex =>
          channelWorkerResourceLimits resourceLimits workerIndex (effectiveChannelWorkers options 1)
        return ([input], workerLimits)) = _ <$> channelWorkerResourceLimits resourceLimits 0
          (effectiveChannelWorkers options 1)
      rw [effectiveChannelWorkers_one]
      show (do
        let workerLimits ← [0].mapM fun workerIndex =>
          channelWorkerResourceLimits resourceLimits workerIndex 1
        return ([input], workerLimits)) = _
      rw [List.mapM_cons, List.mapM_nil]
      cases channelWorkerResourceLimits resourceLimits 0 1 with
      | error error => rfl
      | ok limits => rfl

/-- A read of one channel is a read of channels. -/
theorem readsInputs_of_readsChannels {s s' : S} (h : ReadsCompactL2PhysicalV2Channels visitor openPath
    zstd options input resourceLimits s result s') :
    ∃ calls, Answers visitor s calls s' ∧
      ReadsCompactL2PhysicalV2Inputs openPath zstd options [input] resourceLimits result calls := by
  cases h with
  | refused herror =>
    refine ⟨[], .nil, .refused ?_⟩
    rw [prepareChannelsRead_singleton, herror]
    rfl
  | @read limits channelResult t hok hreads =>
    obtain ⟨more, stop, hanswers, hsteps⟩ := steps_of_readsPhysicalV2Channel [] hreads
    have hprepared : prepareChannelsRead options [input] resourceLimits =
        .ok ([input], [limits]) := by
      rw [prepareChannelsRead_singleton, hok]
      rfl
    have hworker : 0 < effectiveChannelWorkers options [input].length :=
      lt_max_of_lt_right Nat.one_pos
    have hread := readsInputs_of_doneInTurn hprepared (fun _ => ⟨0, hworker⟩)
      (List.Perm.refl [input]) (List.nodup_singleton _) (.cons hsteps rfl .nil)
    have hresult : channelsResult options [input].length [channelResult] false =
        (fun report => parallelReadReport options 1 (max (min options.channelWorkers 1) 1) [report])
          <$> channelResult := by
      cases channelResult with
      | error error => rfl
      | ok channelReport => rfl
    rw [← hresult]
    exact ⟨more, hanswers, hread⟩

end One

/-! ### Two channels -/

namespace Sample

/-- The view of a trade in another channel. -/
def tradeView : CompactL2PhysicalV2BatchView :=
  .ofRecords [{ compactL2Trade with channelId := 2012 }]

lemma valid_tradeView : tradeView.Valid :=
  CompactL2PhysicalV2BatchView.valid_ofRecords (by decide)

lemma lanes_tradeView : ∀ observed ∈ tradeView.channelId,
    observed.toInt = (2012 : UInt32).toNat := by
  have hlane : tradeView.channelId = [2012] := by decide
  rw [hlane]
  intro observed hobserved
  obtain rfl := List.mem_singleton.mp hobserved
  rfl

/-- The only row group of the trade's artifact, with an expected row count. -/
def tradeInput (expectedRows : UInt64) : NormalizedCompactL2PhysicalV2ChannelReadInput :=
  artifactInput 2012 "trade.ocb" expectedRows

/-- A worker for each of two channels. -/
def twoWorkers : CompactL2PhysicalV2ParallelReadOptions := ⟨2, 1, 1, true⟩

/-- More workers than there are channels, and two threads for each file. -/
def twoThreads : CompactL2PhysicalV2ParallelReadOptions := ⟨7, 2, 3, true⟩

/-- Limits that leave the default ones to each of two workers. -/
def sharedLimits : OcbResourceLimits :=
  { OcbResourceLimits.policyA with
    maxOwnedSelectedCompressedBytes := 17179869184
    maxOwnedDecodedMaterializedBytes := 34359738368 }

/-- Both artifacts are in one file system, and their selections decode. -/
lemma exists_channels : ∃ openPath file columnIds file' columnIds',
    file.allRowGroupIds = [0] ∧ file.metadata.rowsOf 0 = 1 ∧
    file'.allRowGroupIds = [0] ∧ file'.metadata.rowsOf 0 = 1 ∧
    ∀ (options : CompactL2PhysicalV2ParallelReadOptions) (expectedRows : UInt64),
      options.validate = .ok () → options.validateChecksums = true →
      SelectionDecodes openPath (fun _ _ => ⟨[], true⟩) options onePreparer
        (orderInput expectedRows) .policyA file columnIds ∧
      SelectionDecodes openPath (fun _ _ => ⟨[], true⟩) options onePreparer
        (tradeInput expectedRows) .policyA file' columnIds' := by
  obtain ⟨source, file, columnIds, hids, hrows, h⟩ := exists_selectionDecodes valid_orderView
    (by decide) (by decide) lanes_orderView "order.ocb"
  obtain ⟨source', file', columnIds', hids', hrows', h'⟩ := exists_selectionDecodes valid_tradeView
    (by decide) (by decide) lanes_tradeView "trade.ocb"
  refine ⟨fun path => if path = "order.ocb" then .ok source else .ok source', file, columnIds, file',
    columnIds', hids, hrows, hids', hrows', fun options expectedRows hoptions hchecksums => ?_⟩
  exact ⟨h _ options expectedRows (if_pos rfl) hoptions hchecksums,
    h' _ options expectedRows (if_neg (by decide)) hoptions hchecksums⟩

lemma selectedIds_eq {input : NormalizedCompactL2PhysicalV2ChannelReadInput}
    {file : ColumnBundleFile} (hselected : input.rowGroupIds = some [0])
    (hids : file.allRowGroupIds = [0]) : input.selectedIds file = [0] := by
  rw [NormalizedCompactL2PhysicalV2ChannelReadInput.selectedIds, hids, hselected]
  rfl

/-- What is to be handed over of a channel: one batch with one row. -/
def HandsOverOneRow (openPath : String → Result OcbReadSource)
    (options : CompactL2PhysicalV2ParallelReadOptions)
    (input : NormalizedCompactL2PhysicalV2ChannelReadInput) : Prop :=
  ∃ report batch, channelScript openPath (fun _ _ => ⟨[], true⟩) options input .policyA =
    .ok ⟨report, [batch], none⟩ ∧ batch.rowCount = 1 ∧ validateChannelBatch batch = .ok ()

lemma handsOverOneRow {openPath : String → Result OcbReadSource}
    {options : CompactL2PhysicalV2ParallelReadOptions}
    {input : NormalizedCompactL2PhysicalV2ChannelReadInput} {file : ColumnBundleFile}
    {columnIds : List UInt32} (h : SelectionDecodes openPath (fun _ _ => ⟨[], true⟩) options
      onePreparer input .policyA file columnIds) (hselected : input.rowGroupIds = some [0])
    (hids : file.allRowGroupIds = [0]) (hrows : file.metadata.rowsOf 0 = 1) :
    HandsOverOneRow openPath options input := by
  have hzero := selectedIds_eq hselected hids
  obtain ⟨report, batches, hscript, hbatches⟩ := h.channelScript_eq
  rw [hzero] at hbatches
  cases hbatches with
  | @cons _ batch _ _ hbatch hnone =>
    cases hnone
    refine ⟨report, batch, hscript, UInt64.toNat_inj.mp (hbatch.1.trans hrows), hbatch.2⟩

/-- The artifacts of both channels are handed over, whatever the options and the expected row
counts. -/
def HandsOverBoth (openPath : String → Result OcbReadSource) : Prop :=
  ∀ (options : CompactL2PhysicalV2ParallelReadOptions) (expectedRows : UInt64),
    options.validate = .ok () → options.validateChecksums = true →
    HandsOverOneRow openPath options (orderInput expectedRows) ∧
    HandsOverOneRow openPath options (tradeInput expectedRows)

lemma exists_handsOverBoth : ∃ openPath, HandsOverBoth openPath := by
  obtain ⟨openPath, file, columnIds, file', columnIds', hids, hrows, hids', hrows', h⟩ :=
    exists_channels
  refine ⟨openPath, fun options expectedRows hoptions hchecksums => ?_⟩
  obtain ⟨horder, htrade⟩ := h options expectedRows hoptions hchecksums
  exact ⟨handsOverOneRow horder rfl hids hrows, handsOverOneRow htrade rfl hids' hrows'⟩

/-- Two channels are read in their order, each by a worker with the default limits. -/
lemma prepareChannelsRead_two {options : CompactL2PhysicalV2ParallelReadOptions}
    {inputs : List NormalizedCompactL2PhysicalV2ChannelReadInput} {orderRows tradeRows : UInt64}
    (hoptions : options.validate = .ok ()) (hworkers : 2 ≤ options.channelWorkers)
    (hinputs : inputs = [orderInput orderRows, tradeInput tradeRows] ∨
      inputs = [tradeInput tradeRows, orderInput orderRows]) :
    prepareChannelsRead options inputs sharedLimits =
      .ok ([orderInput orderRows, tradeInput tradeRows], [.policyA, .policyA]) := by
  have horder : (orderInput orderRows).channelId = 2011 := rfl
  have htrade : (tradeInput tradeRows).channelId = 2012 := rfl
  have hnormalized : normalizeInputs inputs =
      .ok [orderInput orderRows, tradeInput tradeRows] := by
    rcases hinputs with rfl | rfl
    · have hsort : [orderInput orderRows, tradeInput tradeRows].mergeSort
          (fun a b => a.channelId ≤ b.channelId) = [orderInput orderRows, tradeInput tradeRows] := by
        simp [List.mergeSort, horder, htrade]
      rw [normalizeInputs, hsort]
      rfl
    · have hsort : [tradeInput tradeRows, orderInput orderRows].mergeSort
          (fun a b => a.channelId ≤ b.channelId) = [orderInput orderRows, tradeInput tradeRows] := by
        simp [List.mergeSort, horder, htrade]
      rw [normalizeInputs, hsort]
      rfl
  have hcount : effectiveChannelWorkers options
      [orderInput orderRows, tradeInput tradeRows].length = 2 := by
    rw [effectiveChannelWorkers, List.length_cons, List.length_singleton]
    omega
  rw [prepareChannelsRead, hoptions, ok_bind, hnormalized, ok_bind, hcount]
  rfl

/-! ### The steps on two channels -/

section Steps

variable {openPath : String → Result OcbReadSource}
  {options : CompactL2PhysicalV2ParallelReadOptions}
  {input : NormalizedCompactL2PhysicalV2ChannelReadInput}

/-- The report of a channel whose only row was as expected, or whose visit was stopped. -/
lemma finishChannelRead_one (report : ColumnBundleReadReport) {rowCount : UInt64}
    (cancelled : Bool) (h : cancelled = true ∨ input.expectedRows = some 1) (hrows : rowCount = 1) :
    finishChannelRead input { (⟨report, 0, 0, false⟩ : ColumnBundleReadCursorReport).yielded
      rowCount with cancelled } = .ok ⟨input.channelId, 1, 1, cancelled⟩ := by
  subst hrows
  rw [finishChannelRead]
  rcases h with rfl | hexpected
  · cases input.expectedRows with
    | none => rfl
    | some expected =>
      dsimp only
      rw [failIf_neg (by simp), ok_bind]
      rfl
  · rw [hexpected]
    cases cancelled with
    | false => rfl
    | true => rfl

variable (openPath options input) in
/-- The steps of a worker on a channel. -/
abbrev Steps : ChannelProgress × ChannelsShared → ChannelProgress × ChannelsShared → Prop :=
  Relation.ReflTransGen
    (ReadPhysicalV2ChannelStep openPath (fun _ _ => ⟨[], true⟩) options input)

/-- The visitor gets the only batch, and goes on. -/
lemma steps_continue (h : HandsOverOneRow openPath options input)
    (hexpected : input.expectedRows = some 1) (calls : List ChannelVisitorCall) :
    ∃ batch, Steps openPath options input (.opening .policyA, ⟨false, calls⟩)
      (.finished (.ok ⟨input.channelId, 1, 1, false⟩),
        ⟨false, calls ++ [⟨⟨input.channelId, batch⟩, some (.ok .continue)⟩]⟩) := by
  obtain ⟨report, batch, hscript, hrows, hvalid⟩ := h
  have hfinish := finishChannelRead_one report false (Or.inr hexpected) hrows
  refine ⟨batch, .head (.opened hscript) (.head (.valid hvalid)
    (.head (.called (some (.ok .continue))) ?_))⟩
  exact ChannelProgress.settle_of_ok hfinish ▸ .single .ended

/-- The visitor gets the only batch, and asks to stop. -/
lemma steps_stop (h : HandsOverOneRow openPath options input) (calls : List ChannelVisitorCall) :
    ∃ batch, Steps openPath options input (.opening .policyA, ⟨false, calls⟩)
      (.finished (.ok ⟨input.channelId, 1, 1, true⟩),
        ⟨true, calls ++ [⟨⟨input.channelId, batch⟩, some (.ok .stop)⟩]⟩) := by
  obtain ⟨report, batch, hscript, hrows, hvalid⟩ := h
  have hfinish := @finishChannelRead_one input report _ true (Or.inl rfl) hrows
  refine ⟨batch, .head (.opened hscript) (.head (.valid hvalid)
    (.head (.called (some (.ok .stop))) ?_))⟩
  exact ChannelProgress.settle_of_ok hfinish ▸ .single .stored

/-- The flag is up before the visitor gets anything. -/
lemma steps_seesStop (h : HandsOverOneRow openPath options input)
    (calls : List ChannelVisitorCall) :
    Steps openPath options input (.opening .policyA, ⟨true, calls⟩)
      (.finished (.ok ⟨input.channelId, 1, 1, true⟩), ⟨true, calls⟩) := by
  obtain ⟨report, batch, hscript, hrows, hvalid⟩ := h
  have hfinish := @finishChannelRead_one input report _ true (Or.inl rfl) hrows
  exact .head (.opened hscript) (ChannelProgress.settle_of_ok hfinish ▸ .single (.seesStop rfl))

/-- The visitor gets the only batch, but another row count was expected. -/
lemma steps_fail (h : HandsOverOneRow openPath options input)
    (hexpected : input.expectedRows = some 5) (calls : List ChannelVisitorCall) :
    ∃ batch error, Steps openPath options input (.opening .policyA, ⟨false, calls⟩)
      (.finished (.error error),
        ⟨true, calls ++ [⟨⟨input.channelId, batch⟩, some (.ok .continue)⟩]⟩) := by
  obtain ⟨report, batch, hscript, hrows, hvalid⟩ := h
  obtain ⟨error, hfinish⟩ : ∃ error, finishChannelRead input
      ((⟨report, 0, 0, false⟩ : ColumnBundleReadCursorReport).yielded batch.rowCount) =
      .error error := by
    rw [finishChannelRead, hexpected, hrows]
    exact ⟨_, rfl⟩
  refine ⟨batch, error, .head (.opened hscript) (.head (.valid hvalid) (.head
    (.called (some (.ok .continue))) (.tail (b := (.failing error, ⟨false, _⟩)) ?_ .announced)))⟩
  exact ChannelProgress.settle_of_error hfinish ▸ .single .ended

end Steps

/-! ### Reads of two channels -/

section Reads

variable {openPath : String → Result OcbReadSource}
  {options : CompactL2PhysicalV2ParallelReadOptions}

/-- The first of the two workers takes the order, the second one the trade, and then they do their
work in some order. -/
lemma readsInputs_two (inputs : List NormalizedCompactL2PhysicalV2ChannelReadInput)
    {order : List NormalizedCompactL2PhysicalV2ChannelReadInput}
    {orderRows tradeRows : UInt64} {sh : ChannelsShared}
    {results : List (NormalizedCompactL2PhysicalV2ChannelReadInput ×
      Result CompactL2PhysicalV2ChannelReadReport)}
    (hoptions : options.validate = .ok ()) (hworkers : 2 ≤ options.channelWorkers)
    (hinputs : inputs = [orderInput orderRows, tradeInput tradeRows] ∨
      inputs = [tradeInput tradeRows, orderInput orderRows])
    (hperm : order.Perm [orderInput orderRows, tradeInput tradeRows])
    (hdone : ∀ assign : NormalizedCompactL2PhysicalV2ChannelReadInput →
      Fin (effectiveChannelWorkers options 2), PoolState.DoneInTurn (readChannelsProgram openPath
        (fun _ _ => ⟨[], true⟩) options [.policyA, .policyA]) assign ⟨false, []⟩ order results sh) :
    ReadsCompactL2PhysicalV2Inputs openPath (fun _ _ => ⟨[], true⟩) options inputs sharedLimits
      (channelsResult options 2 (results.map Prod.snd) false) sh.calls := by
  have hcount : 1 < effectiveChannelWorkers options 2 := by
    rw [effectiveChannelWorkers]
    omega
  refine readsInputs_of_doneInTurn (prepareChannelsRead_two hoptions hworkers hinputs)
    (fun input => if input.channelId = 2011 then ⟨0, Nat.zero_lt_of_lt hcount⟩ else ⟨1, hcount⟩)
    hperm ?_ (hdone _)
  have horder : (orderInput orderRows).channelId = 2011 := rfl
  have htrade : (tradeInput tradeRows).channelId = 2012 := rfl
  simp [horder, htrade]

/-- A worker does its channel before the others do theirs. -/
lemma doneInTurn_cons {W : ℕ} {assign : NormalizedCompactL2PhysicalV2ChannelReadInput → Fin W}
    {input : NormalizedCompactL2PhysicalV2ChannelReadInput} {sh sh₁ sh₂ : ChannelsShared}
    {result : Result CompactL2PhysicalV2ChannelReadReport}
    {order : List NormalizedCompactL2PhysicalV2ChannelReadInput}
    {results : List (NormalizedCompactL2PhysicalV2ChannelReadInput ×
      Result CompactL2PhysicalV2ChannelReadReport)}
    (h : Steps openPath options input (.opening .policyA, sh) (.finished result, sh₁))
    (hrest : PoolState.DoneInTurn (readChannelsProgram openPath (fun _ _ => ⟨[], true⟩) options
      [.policyA, .policyA]) assign sh₁ order results sh₂) :
    PoolState.DoneInTurn (readChannelsProgram openPath (fun _ _ => ⟨[], true⟩) options
      [.policyA, .policyA]) assign sh (input :: order) ((input, result) :: results) sh₂ := by
  refine .cons (l := .finished result) ?_ rfl hrest
  have hstart : ∀ w, (readChannelsProgram openPath (fun _ _ => ⟨[], true⟩) options
      [.policyA, .policyA]).start w input = .opening .policyA := by
    rintro (_ | _ | w)
    · rfl
    · rfl
    · rfl
  rw [hstart]
  exact h

/-- The order is done before the trade. -/
lemma reads_order_trade (h : HandsOverBoth openPath) : ∃ report calls,
    ReadsCompactL2PhysicalV2Inputs openPath (fun _ _ => ⟨[], true⟩) twoWorkers
      [tradeInput 1, orderInput 1] sharedLimits (.ok report) calls ∧ report.cancelled = false ∧
    calls.map (fun call => call.batch.channelId) = [2011, 2012] := by
  obtain ⟨horder, htrade⟩ := h twoWorkers 1 rfl rfl
  obtain ⟨_, hfirst⟩ := steps_continue horder rfl []
  obtain ⟨_, hsecond⟩ := steps_continue htrade rfl _
  have hreads := readsInputs_two [tradeInput 1, orderInput 1] rfl (le_refl 2) (Or.inr rfl)
    (List.Perm.refl [orderInput 1, tradeInput 1])
    fun _ => doneInTurn_cons hfirst (doneInTurn_cons hsecond .nil)
  refine ⟨_, _, hreads, ?_, rfl⟩
  simp [parallelReadReport, channelReports]

/-- The trade is done before the order. -/
lemma reads_trade_order (h : HandsOverBoth openPath) : ∃ report calls,
    ReadsCompactL2PhysicalV2Inputs openPath (fun _ _ => ⟨[], true⟩) twoThreads
      [orderInput 1, tradeInput 1] sharedLimits (.ok report) calls ∧ report.cancelled = false ∧
    calls.map (fun call => call.batch.channelId) = [2012, 2011] := by
  obtain ⟨horder, htrade⟩ := h twoThreads 1 rfl rfl
  obtain ⟨_, hfirst⟩ := steps_continue htrade rfl []
  obtain ⟨_, hsecond⟩ := steps_continue horder rfl _
  have hreads := readsInputs_two [orderInput 1, tradeInput 1] rfl (by decide) (Or.inl rfl)
    (List.Perm.swap (orderInput 1) (tradeInput 1) [])
    fun _ => doneInTurn_cons hfirst (doneInTurn_cons hsecond .nil)
  refine ⟨_, _, hreads, ?_, rfl⟩
  simp [parallelReadReport, channelReports]

/-- The visitor asks to stop when it gets the order, and never gets the trade. -/
lemma reads_cancelled (h : HandsOverBoth openPath) : ∃ report calls,
    ReadsCompactL2PhysicalV2Inputs openPath (fun _ _ => ⟨[], true⟩) twoWorkers
      [tradeInput 1, orderInput 1] sharedLimits (.ok report) calls ∧ report.cancelled = true ∧
    calls.map (fun call => call.batch.channelId) = [2011] := by
  obtain ⟨horder, htrade⟩ := h twoWorkers 1 rfl rfl
  obtain ⟨_, hfirst⟩ := steps_stop horder []
  have hreads := readsInputs_two [tradeInput 1, orderInput 1] rfl (le_refl 2) (Or.inr rfl)
    (List.Perm.refl [orderInput 1, tradeInput 1])
    fun _ => doneInTurn_cons hfirst (doneInTurn_cons (steps_seesStop htrade _) .nil)
  refine ⟨_, _, hreads, ?_, rfl⟩
  simp [parallelReadReport, channelReports]

/-- The order has been handed over when the trade fails. -/
lemma reads_fails (h : HandsOverBoth openPath) : ∃ error calls,
    ReadsCompactL2PhysicalV2Inputs openPath (fun _ _ => ⟨[], true⟩) twoWorkers
      [tradeInput 5, orderInput 1] sharedLimits (.error error) calls ∧
    calls.map (fun call => call.batch.channelId) = [2011, 2012] := by
  obtain ⟨horder, -⟩ := h twoWorkers 1 rfl rfl
  obtain ⟨-, htrade⟩ := h twoWorkers 5 rfl rfl
  obtain ⟨_, hfirst⟩ := steps_continue horder rfl []
  obtain ⟨_, error, hsecond⟩ := steps_fail htrade rfl _
  have hreads := readsInputs_two [tradeInput 5, orderInput 1] rfl (le_refl 2) (Or.inr rfl)
    (List.Perm.refl [orderInput 1, tradeInput 5])
    fun _ => doneInTurn_cons hfirst (doneInTurn_cons hsecond .nil)
  exact ⟨error, _, hreads, rfl⟩

end Reads

end Sample

/-! ### Every channel once -/

/-- A read that returns a report and was not cancelled has handed over every channel as its owned
reads return it, whatever its workers did in between. -/
theorem readsCompactL2PhysicalV2Inputs_spec
    (h : ReadsCompactL2PhysicalV2Inputs openPath zstd options inputs resourceLimits (.ok report)
      calls) (hcancelled : report.cancelled = false) :
    ReadsAllChannels openPath zstd options inputs resourceLimits calls report := by
  obtain ⟨normalized, limits, received, sh, hnormalized, hlimits, hfinished, hcalls, rfl, rfl⟩ :=
    h.exists_finishedRead hcancelled
  exact hfinished.readsAllChannels hnormalized hlimits hcalls

theorem readsCompactL2PhysicalV2Inputs_spec_sample : ∃ openPath report calls,
    report.cancelled = false ∧ calls.map (fun call => call.batch.channelId) = [2011, 2012] ∧
    ReadsAllChannels openPath (fun _ _ => ⟨[], true⟩) Sample.twoWorkers
      [Sample.tradeInput 1, Sample.orderInput 1] Sample.sharedLimits calls report := by
  obtain ⟨openPath, h⟩ := Sample.exists_handsOverBoth
  obtain ⟨report, calls, hreads, hcancelled, hcalls⟩ := Sample.reads_order_trade h
  exact ⟨openPath, report, calls, hcancelled, hcalls,
    readsCompactL2PhysicalV2Inputs_spec hreads hcancelled⟩

/-- A read that returns a report was cancelled exactly when the visitor has asked to stop. -/
theorem readsCompactL2PhysicalV2Inputs_cancelled_iff
    (h : ReadsCompactL2PhysicalV2Inputs openPath zstd options inputs resourceLimits (.ok report)
      calls) :
    report.cancelled = true ↔ ∃ call ∈ calls, call.answer = some (.ok .stop) := by
  refine ⟨h.askedToStop, ?_⟩
  rintro ⟨call, hcall, hanswer⟩
  by_contra hcancelled
  obtain ⟨_, _, _, sh, -, -, hfinished, -, rfl, -⟩ :=
    h.exists_finishedRead (Bool.eq_false_iff.mpr hcancelled)
  rw [hfinished.answers call hcall] at hanswer
  cases hanswer

theorem readsCompactL2PhysicalV2Inputs_cancelled_iff_sample :
    ∃ (report : CompactL2PhysicalV2ParallelReadReport) (calls : List ChannelVisitorCall),
      report.cancelled = true ∧ calls.map (fun call => call.batch.channelId) = [2011] ∧
      (report.cancelled = true ↔ ∃ call ∈ calls, call.answer = some (.ok .stop)) := by
  obtain ⟨_, h⟩ := Sample.exists_handsOverBoth
  obtain ⟨report, calls, hreads, hcancelled, hcalls⟩ := Sample.reads_cancelled h
  exact ⟨report, calls, hcancelled, hcalls, readsCompactL2PhysicalV2Inputs_cancelled_iff hreads⟩

end Whole

end ArcadiaTio.Ocb
