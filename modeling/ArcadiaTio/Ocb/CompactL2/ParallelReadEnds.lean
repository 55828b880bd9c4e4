import ArcadiaTio.Ocb.CompactL2.ExactlyOnce

/-!
# How reads of channels end

Every read comes to an end (`readsCompactL2PhysicalV2Inputs_finishes`).  However it ends, what has
been handed over of a channel is where its owned reads begin
(`readsCompactL2PhysicalV2Inputs_beginnings`), and a failure has a reason
(`readsCompactL2PhysicalV2Inputs_fails`).  Reads that are not cancelled agree
(`readsCompactL2PhysicalV2Inputs_agree`).
-/

namespace ArcadiaTio.Ocb

open ArcadiaTio.Lib

section Ends

variable {openPath : String → Result OcbReadSource} {zstd : ZstdCodec}
  {options : CompactL2PhysicalV2ParallelReadOptions}
  {inputs normalized : List NormalizedCompactL2PhysicalV2ChannelReadInput}
  {input : NormalizedCompactL2PhysicalV2ChannelReadInput}
  {limits resourceLimits : OcbResourceLimits} {workerLimits : List OcbResourceLimits}
  {calls : List ChannelVisitorCall} {result : Result CompactL2PhysicalV2ParallelReadReport}
  {report : CompactL2PhysicalV2ParallelReadReport}

/-! ### However a read ends -/

/-- What has been handed over of the channels is where their owned reads begin. -/
structure ReadsBeginnings (openPath : String → Result OcbReadSource) (zstd : ZstdCodec)
    (options : CompactL2PhysicalV2ParallelReadOptions)
    (inputs : List NormalizedCompactL2PhysicalV2ChannelReadInput)
    (resourceLimits : OcbResourceLimits) (calls : List ChannelVisitorCall) : Prop where
  beginnings : ∀ input ∈ inputs, deliveredTo calls input.channelId ≠ [] →
    ∃ limits file plan executed,
      channelWorkerResourceLimits resourceLimits 0
        (effectiveChannelWorkers options inputs.length) = .ok limits ∧
      openChannel openPath zstd options input limits = .ok (file, plan) ∧
      file.visitedPlan plan (input.selection plan) ⟨options.maxInFlightRowGroups, true⟩ =
        .ok executed ∧
      (executed.rowGroupIds.take (deliveredTo calls input.channelId).length).mapM
        (file.readPlanRowGroup zstd executed) = .ok (deliveredTo calls input.channelId)
  nothingElse : ∀ call ∈ calls, ∃ input ∈ inputs, input.channelId = call.batch.channelId

/-- In every state each channel is where its script begins. -/
lemma begins_of_holds {s : PoolState (effectiveChannelWorkers options normalized.length)
      NormalizedCompactL2PhysicalV2ChannelReadInput ChannelProgress ChannelsShared
      (Result CompactL2PhysicalV2ChannelReadReport)}
    (hlength : workerLimits.length = effectiveChannelWorkers options normalized.length)
    (hshares : ∀ share ∈ workerLimits, share = limits)
    (hnodup : (normalized.map NormalizedCompactL2PhysicalV2ChannelReadInput.channelId).Nodup)
    (hreachable : s.Reachable (readChannelsProgram openPath zstd options workerLimits) normalized
      ⟨false, []⟩) (hinput : input ∈ normalized) :
    BeginsScript openPath zstd options limits input
      (deliveredTo s.shared.calls input.channelId) := by
  have hholds := hreachable.holds (hnodup.of_map _)
    (channelsRule openPath zstd options hlength.ge hshares hnodup) fun _ _ => rfl
  have hplace : input ∈ s.allJobs := by
    rw [PoolState.allJobs_of_reachable hreachable]
    exact hinput
  rcases PoolState.mem_allJobs.mp hplace with hqueue | ⟨w, l, hw⟩ | ⟨m, hm, rfl⟩
  · exact Or.inl (hholds.queued input hqueue)
  · exact (hholds.working w input l hw).begins
  · exact (hholds.finished m hm).begins

/-- However a read ends, what has been handed over of a channel is where its owned reads begin, in
their order, without gaps and repetitions. -/
theorem readsCompactL2PhysicalV2Inputs_beginnings
    (h : ReadsCompactL2PhysicalV2Inputs openPath zstd options inputs resourceLimits result calls) :
    ReadsBeginnings openPath zstd options inputs resourceLimits calls := by
  cases h with
  | refused =>
    refine ⟨fun input _ hne => absurd rfl hne, fun call hcall => ?_⟩
    cases hcall
  | @read normalized workerLimits s hprepared hreachable hfinal =>
    obtain ⟨hnormalized, hlength, limits, hlimits, hshares⟩ := prepareChannelsRead_eq_ok hprepared
    obtain ⟨hperm, -, hlt⟩ := normalizeInputs_eq_ok hnormalized
    refine ⟨fun input hinput hne => ?_, fun call hcall => ?_⟩
    · have hbegins := begins_of_holds hlength hshares (nodup_of_pairwise_lt hlt) hreachable
        (hperm.mem_iff.mpr hinput)
      obtain ⟨script, hscript, hbegin⟩ := hbegins.resolve_left hne
      obtain ⟨⟨file, plan⟩, hopen, rfl⟩ := map_eq_ok.mp hscript
      rcases file.exists_reads_of_visitPlanScript zstd plan (input.selection plan)
        ⟨options.maxInFlightRowGroups, true⟩ with hempty | ⟨executed, hexecuted, hread⟩
      · rw [hempty] at hbegin
        exact absurd (List.prefix_nil.mp hbegin) hne
      · refine ⟨limits, file, plan, executed, hlimits, hopen, hexecuted, ?_⟩
        have htake := mapM_take_of_prefix hread hbegin
        rwa [List.take_take, min_eq_left hbegin.length_le] at htake
    · obtain ⟨input, hinput, hid⟩ := exists_input_of_call hreachable call hcall
      exact ⟨input, hperm.mem_iff.mp hinput, hid⟩

theorem readsCompactL2PhysicalV2Inputs_beginnings_sample : ∃ openPath error calls,
    ReadsCompactL2PhysicalV2Inputs openPath (fun _ _ => ⟨[], true⟩) Sample.twoWorkers
      [Sample.tradeInput 5, Sample.orderInput 1] Sample.sharedLimits (.error error) calls ∧
    calls.map (fun call => call.batch.channelId) = [2011, 2012] ∧
    ReadsBeginnings openPath (fun _ _ => ⟨[], true⟩) Sample.twoWorkers
      [Sample.tradeInput 5, Sample.orderInput 1] Sample.sharedLimits calls := by
  obtain ⟨openPath, h⟩ := Sample.exists_handsOverBoth
  obtain ⟨error, calls, hreads, hcalls⟩ := Sample.reads_fails h
  exact ⟨openPath, error, calls, hreads, hcalls, readsCompactL2PhysicalV2Inputs_beginnings hreads⟩

/-- Why a read fails: before it begins, because of one of its channels, or because the visitor has
panicked. -/
inductive ReadFails (openPath : String → Result OcbReadSource) (zstd : ZstdCodec)
    (options : CompactL2PhysicalV2ParallelReadOptions)
    (inputs : List NormalizedCompactL2PhysicalV2ChannelReadInput)
    (resourceLimits : OcbResourceLimits) : List ChannelVisitorCall → ArcadiaTioError → Prop
  | refused {error : ArcadiaTioError}
      (h : prepareChannelsRead options inputs resourceLimits = .error error) :
      ReadFails openPath zstd options inputs resourceLimits [] error
  | channel {limits : OcbResourceLimits} {input : NormalizedCompactL2PhysicalV2ChannelReadInput}
      {calls : List ChannelVisitorCall} {error : ArcadiaTioError}
      (hlimits : channelWorkerResourceLimits resourceLimits 0
        (effectiveChannelWorkers options inputs.length) = .ok limits) (hinput : input ∈ inputs)
      (h : ChannelFails openPath zstd options limits input calls error) :
      ReadFails openPath zstd options inputs resourceLimits calls error
  | panicked {call : ChannelVisitorCall} {calls : List ChannelVisitorCall} (hcall : call ∈ calls)
      (h : call.answer = none) : ReadFails openPath zstd options inputs resourceLimits calls
        (ocbInvalidInput "compact-L2 physical-v2 reader worker panicked")

/-- A read that fails has a reason. -/
theorem readsCompactL2PhysicalV2Inputs_fails {error : ArcadiaTioError}
    (h : ReadsCompactL2PhysicalV2Inputs openPath zstd options inputs resourceLimits (.error error)
      calls) : ReadFails openPath zstd options inputs resourceLimits calls error := by
  generalize hresult : Except.error error = result at h
  cases h with
  | refused herror =>
    cases hresult
    exact .refused herror
  | @read normalized workerLimits s hprepared hreachable hfinal =>
    obtain ⟨hnormalized, hlength, limits, hlimits, hshares⟩ := prepareChannelsRead_eq_ok hprepared
    obtain ⟨hperm, -, hlt⟩ := normalizeInputs_eq_ok hnormalized
    have hnodup := nodup_of_pairwise_lt hlt
    have hholds := hreachable.holds (hnodup.of_map _)
      (channelsRule openPath zstd options hlength.ge hshares hnodup) fun _ _ => rfl
    obtain ⟨-, hworking, hfinished⟩ :=
      PoolState.mem_jobs (PoolState.allJobs_of_reachable hreachable)
    rw [channelsResult] at hresult
    -- the error of a channel comes before the panic of a worker
    cases hfirst : firstChannelError (s.received.map Prod.snd) with
    | some other =>
      rw [hfirst] at hresult
      cases hresult
      obtain ⟨received, hreceived, hother⟩ := List.exists_of_findSome?_eq_some hfirst
      obtain ⟨m, hm, rfl⟩ := List.mem_map.mp hreceived
      have hinput := hfinished m (List.mem_append_right _ hm)
      have hdone := hholds.finished m (List.mem_append_right _ hm)
      cases hfailed : m.2 with
      | ok channelReport =>
        rw [hfailed] at hother
        cases hother
      | error other =>
        rw [hfailed] at hother
        cases hother
        exact .channel hlimits (hperm.mem_iff.mp hinput) (hdone.fails error hfailed)
    | none =>
      rw [hfirst] at hresult
      dsimp only at hresult
      cases hany : (List.finRange _).any fun w => workerPanicked (s.workers w) with
      | false =>
        rw [hany] at hresult
        cases hresult
      | true =>
        rw [hany] at hresult
        cases hresult
        obtain ⟨w, -, hpanicked⟩ := List.any_eq_true.mp hany
        obtain ⟨j, hw⟩ := eq_holding_of_workerPanicked hpanicked
        obtain ⟨-, call, hcall, hanswer⟩ := hholds.working w j _ hw
        exact .panicked (mem_callsTo.mp hcall).1 hanswer

theorem readsCompactL2PhysicalV2Inputs_fails_sample : ∃ openPath error calls,
    calls.map (fun call => call.batch.channelId) = [2011, 2012] ∧
    ReadFails openPath (fun _ _ => ⟨[], true⟩) Sample.twoWorkers
      [Sample.tradeInput 5, Sample.orderInput 1] Sample.sharedLimits calls error := by
  obtain ⟨openPath, h⟩ := Sample.exists_handsOverBoth
  obtain ⟨error, calls, hreads, hcalls⟩ := Sample.reads_fails h
  exact ⟨openPath, error, calls, hcalls, readsCompactL2PhysicalV2Inputs_fails hreads⟩

/-! ### The end of a read -/

/-- A read comes to an end, whatever its workers do and whatever the visitor answers. -/
theorem readsCompactL2PhysicalV2Inputs_finishes
    (hprepared : prepareChannelsRead options inputs resourceLimits = .ok (normalized, workerLimits))
    {run : ℕ → PoolState (effectiveChannelWorkers options normalized.length)
      NormalizedCompactL2PhysicalV2ChannelReadInput ChannelProgress ChannelsShared
      (Result CompactL2PhysicalV2ChannelReadReport)}
    (hrun : PoolState.Run (readChannelsProgram openPath zstd options workerLimits) normalized
      ⟨false, []⟩ run) :
    ∃ k result, ReadsCompactL2PhysicalV2Inputs openPath zstd options inputs resourceLimits result
      (run k).shared.calls := by
  obtain ⟨k, hfinal⟩ := hrun.finishes ChannelProgress.rank rank_step
    fun j progress sh hresult hpanicked => exists_channelStep sh hresult hpanicked
  exact ⟨k, _, .read hprepared (hrun.reachable k) hfinal⟩

theorem readsCompactL2PhysicalV2Inputs_finishes_sample : ∃ openPath result calls,
    ReadsCompactL2PhysicalV2Inputs openPath (fun _ _ => ⟨[], true⟩) Sample.twoWorkers
      [Sample.tradeInput 1, Sample.orderInput 1] Sample.sharedLimits result calls := by
  obtain ⟨openPath, -⟩ := Sample.exists_handsOverBoth
  obtain ⟨run, hrun⟩ := PoolState.exists_run (readChannelsProgram openPath (fun _ _ => ⟨[], true⟩)
    Sample.twoWorkers [.policyA, .policyA]) [Sample.orderInput 1, Sample.tradeInput 1] ⟨false, []⟩
  obtain ⟨k, result, hread⟩ := readsCompactL2PhysicalV2Inputs_finishes
    (Sample.prepareChannelsRead_two rfl (le_refl 2) (Or.inr rfl)) hrun
  exact ⟨openPath, result, _, hread⟩

/-! ### Two reads -/

section Two

variable {options' : CompactL2PhysicalV2ParallelReadOptions}
  {inputs' normalized' : List NormalizedCompactL2PhysicalV2ChannelReadInput}
  {calls' : List ChannelVisitorCall} {report' : CompactL2PhysicalV2ParallelReadReport}

/-- The order of the inputs does not matter. -/
lemma normalizeInputs_agree (h : normalizeInputs inputs = .ok normalized)
    (h' : normalizeInputs inputs' = .ok normalized') (hperm : inputs.Perm inputs') :
    normalized = normalized' := by
  obtain ⟨hsame, -, hlt⟩ := normalizeInputs_eq_ok h
  obtain ⟨hsame', -, hlt'⟩ := normalizeInputs_eq_ok h'
  refine (hsame.trans (hperm.trans hsame'.symm)).eq_of_pairwise (fun a b _ _ hab hba => ?_) hlt hlt'
  exact absurd (UInt32.lt_trans hab hba) (UInt32.lt_irrefl _)

/-- The threads of a file do not matter for what is planned. -/
lemma openChannel_agree {file file' : ColumnBundleFile} {plan plan' : ColumnBundleReadPlan}
    (h : openChannel openPath zstd options input limits = .ok (file, plan))
    (h' : openChannel openPath zstd options' input limits = .ok (file', plan')) :
    file = file' ∧ plan.projectedColumnIds = plan'.projectedColumnIds ∧
      plan.rowGroupIds = plan'.rowGroupIds := by
  obtain ⟨opened, hopen, h⟩ := bind_eq_ok.mp h
  obtain ⟨opened', hopen', h'⟩ := bind_eq_ok.mp h'
  obtain rfl := Except.ok.inj (hopen.symm.trans hopen')
  obtain ⟨planned, hplan, h⟩ := bind_eq_ok.mp h
  obtain ⟨planned', hplan', h'⟩ := bind_eq_ok.mp h'
  cases h
  cases h'
  obtain ⟨_, -, hplan⟩ := bind_eq_ok.mp hplan
  obtain ⟨selected, hselected, hplan⟩ := bind_eq_ok.mp hplan
  obtain ⟨resolved, hresolved, hplan⟩ := bind_eq_ok.mp hplan
  obtain ⟨⟨ids, pruned⟩, hids, hplan⟩ := bind_eq_ok.mp hplan
  obtain ⟨_, -, hplan'⟩ := bind_eq_ok.mp hplan'
  obtain ⟨selected', hselected', hplan'⟩ := bind_eq_ok.mp hplan'
  obtain ⟨resolved', hresolved', hplan'⟩ := bind_eq_ok.mp hplan'
  obtain ⟨⟨ids', pruned'⟩, hids', hplan'⟩ := bind_eq_ok.mp hplan'
  obtain rfl := Except.ok.inj (hselected.symm.trans hselected')
  obtain rfl := Except.ok.inj (hresolved.symm.trans hresolved')
  obtain ⟨rfl, rfl⟩ := Prod.ext_iff.mp (Except.ok.inj (hids.symm.trans hids'))
  cases hplan
  cases hplan'
  exact ⟨rfl, rfl, rfl⟩

lemma ReadsWholeChannel.agree {delivered delivered' : List ColumnBatch}
    {channelReport channelReport' : CompactL2PhysicalV2ChannelReadReport}
    (h : ReadsWholeChannel openPath zstd options limits input delivered channelReport)
    (h' : ReadsWholeChannel openPath zstd options' limits input delivered' channelReport') :
    delivered = delivered' := by
  obtain ⟨file, plan, executed, hopen, hexecuted, hread⟩ := h.owned
  obtain ⟨file', plan', executed', hopen', hexecuted', hread'⟩ := h'.owned
  obtain ⟨rfl, hcolumns, hids⟩ := openChannel_agree hopen hopen'
  obtain ⟨_, -, hexecuted⟩ := bind_eq_ok.mp hexecuted
  obtain ⟨_, -, hexecuted⟩ := bind_eq_ok.mp hexecuted
  obtain ⟨selected, hselected, hexecuted⟩ := bind_eq_ok.mp hexecuted
  obtain ⟨_, -, hexecuted'⟩ := bind_eq_ok.mp hexecuted'
  obtain ⟨_, -, hexecuted'⟩ := bind_eq_ok.mp hexecuted'
  obtain ⟨selected', hselected', hexecuted'⟩ := bind_eq_ok.mp hexecuted'
  cases hexecuted
  cases hexecuted'
  obtain ⟨-, -, rfl⟩ := plannedRowGroupSubset_eq_ok.mp hselected
  obtain ⟨-, -, rfl⟩ := plannedRowGroupSubset_eq_ok.mp hselected'
  have hselection : input.selection plan = input.selection plan' := by
    rw [NormalizedCompactL2PhysicalV2ChannelReadInput.selection,
      NormalizedCompactL2PhysicalV2ChannelReadInput.selection, hids]
  have hsame : ∀ id, file.readPlanRowGroup zstd (plan.ofSelected
      (plan.rowGroupIds.filter (· ∈ input.selection plan))) id =
        file.readPlanRowGroup zstd (plan'.ofSelected
          (plan'.rowGroupIds.filter (· ∈ input.selection plan'))) id := by
    intro id
    rw [ColumnBundleFile.readPlanRowGroup, ColumnBundleFile.readPlanRowGroup]
    show readRowGroup _ _ _ _ _ plan.projectedColumnIds = readRowGroup _ _ _ _ _
      plan'.projectedColumnIds
    rw [hcolumns]
  rw [funext hsame] at hread
  refine Except.ok.inj (hread.symm.trans (Eq.trans ?_ hread'))
  show (plan.rowGroupIds.filter (· ∈ input.selection plan)).mapM _ =
    (plan'.rowGroupIds.filter (· ∈ input.selection plan')).mapM _
  rw [hids, hselection]

/-- What is determined by the places of one list. -/
lemma eq_of_forall₂ {α β : Type} {P Q : α → β → Prop} {l : List α} {r r' : List β}
    (h : List.Forall₂ P l r) (h' : List.Forall₂ Q l r')
    (heq : ∀ a, ∀ b ∈ r, ∀ b' ∈ r', P a b → Q a b' → b = b') : r = r' := by
  induction h generalizing r' with
  | nil =>
    cases h'
    rfl
  | @cons a b l r hab hrest ih =>
    cases h' with
    | @cons _ b' _ r' hab' hrest' =>
      have hhead := heq a b List.mem_cons_self b' List.mem_cons_self hab hab'
      have htail := ih hrest' fun c d hd d' hd' =>
        heq c d (List.mem_cons_of_mem b hd) d' (List.mem_cons_of_mem b' hd')
      rw [hhead, htail]

/-- What two reads have in common: every channel is handed over in the same way, and the reports are
the same. -/
structure SameRead (calls calls' : List ChannelVisitorCall)
    (report report' : CompactL2PhysicalV2ParallelReadReport) : Prop where
  delivered : ∀ channelId, deliveredTo calls channelId = deliveredTo calls' channelId
  channelReports : report.channelReports = report'.channelReports
  channelCount : report.channelCount = report'.channelCount
  batchesYielded : report.batchesYielded = report'.batchesYielded
  rowsYielded : report.rowsYielded = report'.rowsYielded

/-- Two reads of the same channels whose workers have the same limits agree when neither was
cancelled: the order of the inputs, the threads of a file, the row groups in flight and what the
workers do in between do not matter. -/
theorem readsCompactL2PhysicalV2Inputs_agree
    (h : ReadsCompactL2PhysicalV2Inputs openPath zstd options inputs resourceLimits (.ok report)
      calls)
    (h' : ReadsCompactL2PhysicalV2Inputs openPath zstd options' inputs' resourceLimits (.ok report')
      calls')
    (hcancelled : report.cancelled = false) (hcancelled' : report'.cancelled = false)
    (hperm : inputs.Perm inputs') (hworkers : effectiveChannelWorkers options inputs.length =
      effectiveChannelWorkers options' inputs'.length) :
    SameRead calls calls' report report' := by
  obtain ⟨normalized, limits, received, sh, hnormalized, hlimits, hfinished, hcalls, rfl, rfl⟩ :=
    h.exists_finishedRead hcancelled
  obtain ⟨normalized', limits', received', sh', hnormalized', hlimits', hfinished', hcalls', rfl,
    rfl⟩ := h'.exists_finishedRead hcancelled'
  -- the reads normalize to the same channels, with the same limits
  obtain rfl := normalizeInputs_agree hnormalized hnormalized' hperm
  rw [← hworkers] at hlimits'
  obtain rfl := Except.ok.inj (hlimits.symm.trans hlimits')
  have hchannels := hfinished.forall₂_channels hnormalized
  have hchannels' := hfinished'.forall₂_channels hnormalized
  have hflag : ∀ {reports : List CompactL2PhysicalV2ChannelReadReport},
      reports.any CompactL2PhysicalV2ChannelReadReport.cancelled = false →
      ∀ channelReport ∈ reports, channelReport.cancelled = false := fun hany channelReport hmem =>
    Bool.eq_false_iff.mpr (List.any_eq_false.mp hany channelReport hmem)
  have hreports := eq_of_forall₂ hchannels hchannels' fun input a ha b hb hab hab' => by
    have hsame := hab.2.agree hab'.2
    have hbatches := hab.2.batchesYielded.trans ((congrArg List.length hsame).trans
      hab'.2.batchesYielded.symm)
    have hrows := hab.2.rowsYielded.trans ((congrArg (fun delivered : List ColumnBatch =>
      (delivered.map fun batch => batch.rowCount.toNat).sum) hsame).trans hab'.2.rowsYielded.symm)
    have hcancel := (hflag hcancelled a ha).trans (hflag hcancelled' b hb).symm
    have hid := hab.1.trans hab'.1.symm
    cases a
    cases b
    simp only at hid hbatches hrows hcancel
    rw [hid, hbatches, hrows, hcancel]
  refine ⟨fun channelId => ?_, hreports, rfl, ?_, ?_⟩
  · by_cases hknown : ∃ input ∈ normalized, input.channelId = channelId
    · obtain ⟨input, hinput, rfl⟩ := hknown
      obtain ⟨a, -, hab⟩ := exists_of_forall₂ hchannels.flip hinput
      obtain ⟨b, -, hab'⟩ := exists_of_forall₂ hchannels'.flip hinput
      exact hab.2.agree hab'.2
    -- of a channel that is not read nothing is delivered
    · have hnone : ∀ {calls : List ChannelVisitorCall}, (∀ call ∈ calls, ∃ input ∈ normalized,
          input.channelId = call.batch.channelId) → deliveredTo calls channelId = [] := by
        intro calls hcalls
        have hempty : callsTo calls channelId = [] := List.filter_eq_nil_iff.mpr fun call hcall => by
          intro heq
          obtain ⟨input, hinput, hid⟩ := hcalls call hcall
          exact hknown ⟨input, hinput, hid.trans (of_decide_eq_true heq)⟩
        rw [deliveredTo, hempty, List.map_nil]
      rw [hnone hcalls, hnone hcalls']
  · exact congrArg (fun reports : List CompactL2PhysicalV2ChannelReadReport =>
      reports.foldl (fun n report => saturatingAdd 64 n report.batchesYielded) 0) hreports
  · exact congrArg (fun reports : List CompactL2PhysicalV2ChannelReadReport =>
      reports.foldl (fun n report => saturatingAdd 64 n report.rowsYielded) 0) hreports

theorem readsCompactL2PhysicalV2Inputs_agree_sample : ∃ report calls report' calls',
    calls.map (fun call => call.batch.channelId) = [2011, 2012] ∧
    calls'.map (fun call => call.batch.channelId) = [2012, 2011] ∧
    SameRead calls calls' report report' := by
  obtain ⟨_, h⟩ := Sample.exists_handsOverBoth
  obtain ⟨report, calls, hreads, hcancelled, hcalls⟩ := Sample.reads_order_trade h
  obtain ⟨report', calls', hreads', hcancelled', hcalls'⟩ := Sample.reads_trade_order h
  exact ⟨report, calls, report', calls', hcalls, hcalls', readsCompactL2PhysicalV2Inputs_agree hreads
    hreads' hcancelled hcancelled' (List.Perm.swap _ _ []) rfl⟩

end Two

end Ends

end ArcadiaTio.Ocb
