import ArcadiaTio.Ocb.Bundle.Summaries
import ArcadiaTio.Ocb.CompactL2.ExactlyOnce
import ArcadiaTio.Ocb.Parallel.Admission
import Mathlib.Algebra.BigOperators.Fin

/-!
# The budget of a whole read

The same workers as in the read of channels, seen at their visits: each visits the selected row
groups of its channel in a loop, or with a bounded executor that has workers of its own.  A worker
has an equal share of the two aggregate limits, and its visit is admitted under this share.

In every state of the system the bytes in flight of all visits together are within the limits of the
whole read (`operation_budget`).
-/

namespace ArcadiaTio.Ocb

open ArcadiaTio.Lib

/-! ### Visits -/

/-- A visitor that gives prepared answers.  The calls of other workers come between its own, so that
it may answer anything. -/
def answeringVisitor (answers : List (Result ColumnBundleVisitControl)) (_ : ColumnBatch) :
    List (Result ColumnBundleVisitControl) × Result ColumnBundleVisitControl :=
  (answers.tail, answers.headD (.ok .continue))

/-- The options of the visit of each artifact. -/
def CompactL2PhysicalV2ParallelReadOptions.cursorOptions
    (options : CompactL2PhysicalV2ParallelReadOptions) : ColumnBundleReadCursorOptions :=
  ⟨options.maxInFlightRowGroups, true⟩

/-- The visit of a plan that has been admitted under the limits of its file. -/
structure AdmittedVisit (options : ColumnBundleReadCursorOptions) where
  file : ColumnBundleFile
  plan : ColumnBundleReadPlan
  footprints : List SelectedResourceFootprint
  footprints_eq : selectedResourceFootprintsForPlan file.metadata plan = .ok footprints
  admitted : validateWaves footprints (max (visitWaveSize plan options) 1)
    file.metadata.resourceLimits = .ok ()

namespace AdmittedVisit

variable {options : ColumnBundleReadCursorOptions} (visit : AdmittedVisit options)

/-- How many row groups are in flight together. -/
def waveSize : ℕ := visitWaveSize visit.plan options

/-- The bytes of the row group at a place of the plan. -/
def bytesOf (f : SelectedResourceFootprint → ℕ) (i : ℕ) : ℕ := (visit.footprints.map f).getD i 0

lemma waveSize_pos : 0 < visit.waveSize := by
  rw [waveSize, visitWaveSize]
  omega

/-- What the check before a visit accepts is an admitted visit. -/
lemma exists_of_validate {file : ColumnBundleFile} {plan : ColumnBundleReadPlan} {u : Unit}
    (h : validateContiguousInFlightPlanResourceLimits file.metadata plan
      (visitWaveSize plan options) = .ok u) :
    ∃ visit : AdmittedVisit options, visit.file = file ∧ visit.plan = plan := by
  obtain ⟨footprints, hfootprints, hadmitted⟩ := bind_eq_ok.mp h
  exact ⟨⟨file, plan, footprints, hfootprints, hadmitted⟩, rfl, rfl⟩

/-- A single row group is within the limits when the visit reads one after the other. -/
lemma withinLimits_of_loop (h : visit.waveSize ≤ 1) (i : ℕ) :
    visit.bytesOf SelectedResourceFootprint.compressedBytes i ≤
        visit.file.metadata.resourceLimits.maxOwnedSelectedCompressedBytes.toNat ∧
      visit.bytesOf SelectedResourceFootprint.decodedMaterializedBytes i ≤
        visit.file.metadata.resourceLimits.maxOwnedDecodedMaterializedBytes.toNat := by
  have hone : max (visitWaveSize visit.plan options) 1 = 1 := Nat.max_eq_right h
  have hadmitted := visit.admitted
  rw [hone] at hadmitted
  have hwithin := withinLimits_of_validateWaves Nat.one_pos hadmitted i
  rw [Nat.mul_one] at hwithin
  have hsum : ∀ f : SelectedResourceFootprint → ℕ,
      visit.bytesOf f i = (((visit.footprints.drop i).take 1).map f).sum := by
    intro f
    rw [List.map_take, List.map_drop, ← sum_Ico_getD, Nat.Ico_succ_singleton,
      Finset.sum_singleton]
    rfl
  exact ⟨(hsum _).trans_le hwithin.compressed, (hsum _).trans_le hwithin.decoded⟩

end AdmittedVisit

/-! ### The workers -/

section Workers

variable (openPath : String → Result OcbReadSource) (zstd : ZstdCodec)
  (options : CompactL2PhysicalV2ParallelReadOptions)

/-- Where the visit of a channel is: before the artifact is opened, at a row group of the loop, in a
state of the executor, or at its end. -/
inductive ChannelVisitPhase
  | opening (limits : OcbResourceLimits)
  | looping (visit : AdmittedVisit options.cursorOptions) (i : ℕ)
  | executing (visit : AdmittedVisit options.cursorOptions) (tasks : List ParallelPrepareTaskSpec)
    (answers : List (Result ColumnBundleVisitControl))
    (s : ExecutorState (startedWorkers tasks visit.plan.report visit.waveSize) ColumnBatch
      ArcadiaTioError (List (Result ColumnBundleVisitControl)))
  | ended

/-- The program of the executor of a visit. -/
def AdmittedVisit.program {cursor : ColumnBundleReadCursorOptions} (visit : AdmittedVisit cursor)
    (tasks : List ParallelPrepareTaskSpec) (answers : List (Result ColumnBundleVisitControl)) :
    BoundedOrdered ColumnBatch ColumnBatch ArcadiaTioError
      (List (Result ColumnBundleVisitControl)) :=
  boundedOrdered tasks visit.plan.report visit.waveSize .windowed
    (visit.file.visitCallbacks zstd visit.plan answeringVisitor) answers

/-- A visit begins with the file and the plan that have been opened and planned. -/
structure AdmittedVisit.Begins (input : NormalizedCompactL2PhysicalV2ChannelReadInput)
    (limits : OcbResourceLimits) (visit : AdmittedVisit options.cursorOptions) : Prop where
  planned : ∃ plan, openChannel openPath zstd options input limits = .ok (visit.file, plan) ∧
    visit.file.visitedPlan plan (input.selection plan) options.cursorOptions = .ok visit.plan
  nonempty : visit.plan.rowGroupIds ≠ []

/-- A step of a worker on its channel.  It may fail or be stopped between two row groups. -/
inductive ChannelVisitStep (input : NormalizedCompactL2PhysicalV2ChannelReadInput) :
    ChannelVisitPhase options × Unit → ChannelVisitPhase options × Unit → Prop
  | refused {limits : OcbResourceLimits} :
      ChannelVisitStep input (.opening limits, ()) (.ended, ())
  | loop {limits : OcbResourceLimits} {visit : AdmittedVisit options.cursorOptions}
      (h : visit.Begins openPath zstd options input limits) (hwave : visit.waveSize ≤ 1) :
      ChannelVisitStep input (.opening limits, ()) (.looping visit 0, ())
  | execute {limits : OcbResourceLimits} {visit : AdmittedVisit options.cursorOptions}
      {tasks : List ParallelPrepareTaskSpec} (answers : List (Result ColumnBundleVisitControl))
      (h : visit.Begins openPath zstd options input limits) (hwave : ¬ visit.waveSize ≤ 1)
      (htasks : visit.file.boundedOrderedTasksForPlan visit.plan = .ok tasks) :
      ChannelVisitStep input (.opening limits, ())
        (.executing visit tasks answers (.initial _ (visit.program zstd tasks answers)), ())
  | handedOver {visit : AdmittedVisit options.cursorOptions} {i : ℕ} :
      ChannelVisitStep input (.looping visit i, ()) (.looping visit (i + 1), ())
  | loopEnds {visit : AdmittedVisit options.cursorOptions} {i : ℕ} :
      ChannelVisitStep input (.looping visit i, ()) (.ended, ())
  | executor {visit : AdmittedVisit options.cursorOptions} {tasks : List ParallelPrepareTaskSpec}
      {answers : List (Result ColumnBundleVisitControl)}
      {s t : ExecutorState (startedWorkers tasks visit.plan.report visit.waveSize) ColumnBatch
        ArcadiaTioError (List (Result ColumnBundleVisitControl))}
      (h : ExecutorState.Step (visit.program zstd tasks answers) s t) :
      ChannelVisitStep input (.executing visit tasks answers s, ())
        (.executing visit tasks answers t, ())
  | executed {visit : AdmittedVisit options.cursorOptions} {tasks : List ParallelPrepareTaskSpec}
      {answers : List (Result ColumnBundleVisitControl)}
      {s : ExecutorState (startedWorkers tasks visit.plan.report visit.waveSize) ColumnBatch
        ArcadiaTioError (List (Result ColumnBundleVisitControl))}
      {outcome : Outcome ArcadiaTioError}
      (h : s.coordinator.pc = .returned .finished outcome) :
      ChannelVisitStep input (.executing visit tasks answers s, ()) (.ended, ())

/-- The result of a visit that has ended does not matter here. -/
def ChannelVisitPhase.result? : ChannelVisitPhase options → Option Unit
  | .ended => some ()
  | _ => none

/-- What the workers do with the channels.  They may be stopped at any time. -/
def visitChannelsProgram (workerLimits : List OcbResourceLimits) :
    JobProgram NormalizedCompactL2PhysicalV2ChannelReadInput (ChannelVisitPhase options) Unit
      Unit where
  start w _ := .opening (workerLimits.getD w .policyA)
  work := ChannelVisitStep openPath zstd options
  result := ChannelVisitPhase.result? options
  crashed _ := False
  mayStop _ := True

end Workers

/-! ### Bytes in flight -/

section Bytes

variable {options : CompactL2PhysicalV2ParallelReadOptions}

/-- The bytes of the row groups that a visit has admitted and not handed over. -/
def ChannelVisitPhase.bytesInFlight (f : SelectedResourceFootprint → ℕ) :
    ChannelVisitPhase options → ℕ
  | .looping visit i => visit.bytesOf f i
  | .executing visit _ _ s => (s.inFlight.map (visit.bytesOf f)).sum
  | _ => 0

/-- The bytes in flight of a worker. -/
def workerBytesInFlight (f : SelectedResourceFootprint → ℕ) :
    PoolWorker NormalizedCompactL2PhysicalV2ChannelReadInput (ChannelVisitPhase options) → ℕ
  | .holding _ phase => phase.bytesInFlight f
  | _ => 0

end Bytes

section Budget

variable {openPath : String → Result OcbReadSource} {zstd : ZstdCodec}
  {options : CompactL2PhysicalV2ParallelReadOptions} {limits resourceLimits : OcbResourceLimits}
  {workerLimits : List OcbResourceLimits}
  {inputs normalized : List NormalizedCompactL2PhysicalV2ChannelReadInput}
  {input : NormalizedCompactL2PhysicalV2ChannelReadInput}

/-- What is known of a visit: it has the limits of its worker, and its executor is in a state that
some interleaving reaches. -/
def ChannelVisitPhase.Within (zstd : ZstdCodec) (limits : OcbResourceLimits) :
    ChannelVisitPhase options → Prop
  | .opening share => share = limits
  | .looping visit _ => visit.file.metadata.resourceLimits = limits ∧ visit.waveSize ≤ 1
  | .executing visit tasks answers s => visit.file.metadata.resourceLimits = limits ∧
    0 < startedWorkers tasks visit.plan.report visit.waveSize ∧
    s.Reachable (visit.program zstd tasks answers)
  | .ended => True

/-- An opened file keeps the limits it was opened with. -/
lemma resourceLimits_of_openChannel {file : ColumnBundleFile} {plan : ColumnBundleReadPlan}
    (h : openChannel openPath zstd options input limits = .ok (file, plan)) :
    file.metadata.resourceLimits = limits := by
  obtain ⟨opened, hopen, h⟩ := bind_eq_ok.mp h
  obtain ⟨_, -, h⟩ := bind_eq_ok.mp h
  cases h
  rw [NormalizedCompactL2PhysicalV2ChannelReadInput.openFile] at hopen
  split at hopen
  · obtain ⟨_, -, hopen⟩ := bind_eq_ok.mp hopen
    exact (ColumnBundleFile.graph_of_openFromSource hopen).resourceLimits_eq
  · exact (ColumnBundleFile.graph_of_openFromSource hopen).resourceLimits_eq

lemma AdmittedVisit.Begins.startedWorkers_pos {visit : AdmittedVisit options.cursorOptions}
    {tasks : List ParallelPrepareTaskSpec} (h : visit.Begins openPath zstd options input limits)
    (htasks : visit.file.boundedOrderedTasksForPlan visit.plan = .ok tasks) :
    0 < startedWorkers tasks visit.plan.report visit.waveSize := by
  obtain ⟨plan, -, hplan⟩ := h.planned
  have hthreads := (ColumnBundleFile.executable_of_visitedPlan hplan).threads
  have hwave := visit.waveSize_pos
  have hlength := (mapM_eq_ok.mp htasks).length_eq
  have hids := List.length_pos_of_ne_nil h.nonempty
  rw [List.length_zipIdx] at hlength
  rw [startedWorkers]
  omega

/-- What is known of a visit is kept by its steps. -/
lemma within_step {phase phase' : ChannelVisitPhase options} {u u' : Unit}
    (hwithin : phase.Within zstd limits)
    (hstep : ChannelVisitStep openPath zstd options input (phase, u) (phase', u')) :
    phase'.Within zstd limits := by
  cases hstep with
  | refused => trivial
  | loop h hwave =>
    obtain rfl : _ = limits := hwithin
    obtain ⟨plan, hopen, -⟩ := h.planned
    exact ⟨resourceLimits_of_openChannel hopen, hwave⟩
  | execute answers h hwave htasks =>
    obtain rfl : _ = limits := hwithin
    obtain ⟨plan, hopen, -⟩ := h.planned
    exact ⟨resourceLimits_of_openChannel hopen, h.startedWorkers_pos htasks,
      Relation.ReflTransGen.refl⟩
  | handedOver => exact hwithin
  | loopEnds => trivial
  | executor h =>
    obtain ⟨hlimits, hworkers, hreachable⟩ := hwithin
    exact ⟨hlimits, hworkers, hreachable.tail h⟩
  | executed => trivial

/-- The bytes in flight of one visit are within the limits of its worker. -/
lemma ChannelVisitPhase.Within.bytesInFlight_le {phase : ChannelVisitPhase options}
    (h : phase.Within zstd limits) :
    phase.bytesInFlight SelectedResourceFootprint.compressedBytes ≤
        limits.maxOwnedSelectedCompressedBytes.toNat ∧
      phase.bytesInFlight SelectedResourceFootprint.decodedMaterializedBytes ≤
        limits.maxOwnedDecodedMaterializedBytes.toNat := by
  cases phase with
  | opening share => exact ⟨Nat.zero_le _, Nat.zero_le _⟩
  | ended => exact ⟨Nat.zero_le _, Nat.zero_le _⟩
  | looping visit i =>
    obtain ⟨rfl, hwave⟩ := h
    exact visit.withinLimits_of_loop hwave i
  | executing visit tasks answers s =>
    obtain ⟨rfl, hworkers, hreachable⟩ := h
    have hadmitted := (hreachable.ordered visit.waveSize_pos hworkers).admitted
    have hbytes := hadmitted.bytesWithin_windowed rfl visit.waveSize_pos visit.admitted
    exact ⟨hbytes.compressed, hbytes.decoded⟩

variable (openPath zstd options) in
/-- The facts about the visits, as a rule for the workers. -/
def visitsRule {W : ℕ} (hW : W ≤ workerLimits.length)
    (hshares : ∀ share ∈ workerLimits, share = limits) :
    JobRule W (visitChannelsProgram openPath zstd options workerLimits) normalized where
  fresh _ _ := True
  held _ phase _ := phase.Within zstd limits
  done _ _ _ := True
  start {_ _} w hw _ := by
    have hlt : w < workerLimits.length := hw.trans_le hW
    show workerLimits.getD w .policyA = limits
    rw [List.getD_eq_getElem?_getD, List.getElem?_eq_getElem hlt]
    exact hshares _ (List.getElem_mem hlt)
  work hheld hstep := within_step hheld hstep
  result _ _ := trivial
  others _ _ _ _ := ⟨fun _ => trivial, fun _ hheld => hheld, fun _ _ => trivial⟩

/-- The shares of the workers, added up, are no more than the whole. -/
lemma sum_shares_le {W : ℕ} (hW : W < 2 ^ 64) (total : UInt64) {f : Fin W → ℕ}
    (hf : ∀ w, f w ≤ (total / W.toUInt64).toNat) : ∑ w, f w ≤ total.toNat := by
  have hword : W.toUInt64.toNat = W := by
    rw [Nat.toUInt64_eq, UInt64.toNat_ofNat_of_lt' (by simpa using hW)]
  calc ∑ w, f w ≤ ∑ _ : Fin W, total.toNat / W := by
        refine Finset.sum_le_sum fun w _ => ?_
        have hw := hf w
        rwa [UInt64.toNat_div, hword] at hw
    _ = W * (total.toNat / W) := by
        rw [Finset.sum_const, Finset.card_univ, Fintype.card_fin]
        rfl
    _ ≤ total.toNat := Nat.mul_div_le _ _

/-- What the limits of a worker are made of. -/
lemma channelWorkerResourceLimits_eq_ok {i count : ℕ}
    (h : channelWorkerResourceLimits resourceLimits i count = .ok limits) :
    limits.maxOwnedSelectedCompressedBytes =
        resourceLimits.maxOwnedSelectedCompressedBytes / count.toUInt64 ∧
      limits.maxOwnedDecodedMaterializedBytes =
        resourceLimits.maxOwnedDecodedMaterializedBytes / count.toUInt64 := by
  obtain ⟨compressed, hcompressed, h⟩ := bind_eq_ok.mp h
  obtain ⟨decoded, hdecoded, h⟩ := bind_eq_ok.mp h
  obtain ⟨_, -, hcompressed⟩ := bind_eq_ok.mp hcompressed
  obtain ⟨_, -, hdecoded⟩ := bind_eq_ok.mp hdecoded
  cases hcompressed
  cases hdecoded
  rw [OcbResourceLimits.new] at h
  split at h
  · cases h
    exact ⟨rfl, rfl⟩
  · cases h

/-- In every state that some interleaving reaches, the bytes in flight of all workers together are
within the limits of the whole read, and it does not matter which worker takes a channel. -/
theorem operation_budget
    (hprepared : prepareChannelsRead options inputs resourceLimits = .ok (normalized, workerLimits))
    {s : PoolState (effectiveChannelWorkers options normalized.length)
      NormalizedCompactL2PhysicalV2ChannelReadInput (ChannelVisitPhase options) Unit Unit}
    (hreachable : s.Reachable (visitChannelsProgram openPath zstd options workerLimits) normalized
      ()) :
    ∑ w, workerBytesInFlight SelectedResourceFootprint.compressedBytes (s.workers w) ≤
        resourceLimits.maxOwnedSelectedCompressedBytes.toNat ∧
      ∑ w, workerBytesInFlight SelectedResourceFootprint.decodedMaterializedBytes (s.workers w) ≤
        resourceLimits.maxOwnedDecodedMaterializedBytes.toNat ∧
      ∀ v w, v < effectiveChannelWorkers options normalized.length →
        w < effectiveChannelWorkers options normalized.length → ∀ input,
          channelScript openPath zstd options input (workerLimits.getD v .policyA) =
            channelScript openPath zstd options input (workerLimits.getD w .policyA) := by
  obtain ⟨hnormalized, hlength, limits, hlimits, hshares⟩ := prepareChannelsRead_eq_ok hprepared
  obtain ⟨hperm, -, hlt⟩ := normalizeInputs_eq_ok hnormalized
  have hnodup := nodup_of_pairwise_lt hlt
  rw [← hperm.length_eq] at hlimits
  obtain ⟨hcompressed, hdecoded⟩ := channelWorkerResourceLimits_eq_ok hlimits
  have hholds := hreachable.holds (hnodup.of_map _)
    (visitsRule openPath zstd options hlength.ge hshares) fun _ _ => trivial
  -- a worker holds one channel, and what it has in flight is within its own share
  have hworker : ∀ w, workerBytesInFlight SelectedResourceFootprint.compressedBytes (s.workers w) ≤
        limits.maxOwnedSelectedCompressedBytes.toNat ∧
      workerBytesInFlight SelectedResourceFootprint.decodedMaterializedBytes (s.workers w) ≤
        limits.maxOwnedDecodedMaterializedBytes.toNat := by
    intro w
    cases hw : s.workers w with
    | holding j phase => exact (hholds.working w j phase hw).bytesInFlight_le
    | _ => exact ⟨Nat.zero_le _, Nat.zero_le _⟩
  have hcount : effectiveChannelWorkers options normalized.length < 2 ^ 64 := by
    have hids := ColumnBundleFile.length_le_of_nodup hnodup
    rw [List.length_map] at hids
    rw [effectiveChannelWorkers]
    omega
  refine ⟨sum_shares_le hcount _ fun w => hcompressed ▸ (hworker w).1,
    sum_shares_le hcount _ fun w => hdecoded ▸ (hworker w).2, fun v w hv hw input => ?_⟩
  -- all shares are equal
  have hshare : ∀ v, v < effectiveChannelWorkers options normalized.length →
      workerLimits.getD v .policyA = limits := by
    intro v hv
    have hlt : v < workerLimits.length := hlength ▸ hv
    rw [List.getD_eq_getElem?_getD, List.getElem?_eq_getElem hlt]
    exact hshares _ (List.getElem_mem hlt)
  rw [hshare v hv, hshare w hw]

end Budget

namespace Sample

/-- The visit of a selection is admitted and begins. -/
lemma exists_begins {openPath : String → Result OcbReadSource}
    {input : NormalizedCompactL2PhysicalV2ChannelReadInput} {file : ColumnBundleFile}
    {columnIds : List UInt32} (h : SelectionDecodes openPath (fun _ _ => ⟨[], true⟩) twoWorkers
      onePreparer input .policyA file columnIds) (hselected : input.rowGroupIds = some [0])
    (hids : file.allRowGroupIds = [0]) : ∃ visit : AdmittedVisit twoWorkers.cursorOptions,
      visit.Begins openPath (fun _ _ => ⟨[], true⟩) twoWorkers input .policyA ∧
      visit.waveSize ≤ 1 := by
  have hzero := selectedIds_eq hselected hids
  obtain ⟨visit, rfl, hplan⟩ : ∃ visit : AdmittedVisit twoWorkers.cursorOptions,
      visit.file = file ∧ visit.plan = _ := AdmittedVisit.exists_of_validate h.readAdmitted
  refine ⟨visit, ⟨⟨_, h.openChannel_eq, ?_⟩, ?_⟩, ?_⟩
  · rw [hplan]
    exact h.visitedPlan_eq
  · rw [hplan]
    exact hzero ▸ List.cons_ne_nil 0 []
  · rw [AdmittedVisit.waveSize, hplan, hzero]
    exact Nat.le_of_eq rfl

/-- Two workers visit the two channels at the same time. -/
lemma visits_two : ∃ openPath, ∃ visit visit' : AdmittedVisit twoWorkers.cursorOptions,
    ∃ workers : Fin 2 → PoolWorker _ (ChannelVisitPhase twoWorkers),
      PoolState.Reachable (visitChannelsProgram openPath (fun _ _ => ⟨[], true⟩) twoWorkers
        [.policyA, .policyA]) [orderInput 1, tradeInput 1] ()
        (⟨[], workers, (), [], []⟩ : PoolState 2 _ _ Unit Unit) ∧
      workers 0 = .holding (orderInput 1) (.looping visit 0) ∧
      workers 1 = .holding (tradeInput 1) (.looping visit' 0) := by
  obtain ⟨openPath, file, columnIds, file', columnIds', hids, -, hids', -, h⟩ := exists_channels
  obtain ⟨horder, htrade⟩ := h twoWorkers 1 rfl rfl
  obtain ⟨visit, hbegins, hwave⟩ := exists_begins horder rfl hids
  obtain ⟨visit', hbegins', hwave'⟩ := exists_begins htrade rfl hids'
  obtain ⟨workers, htaken, hholding, -⟩ := PoolState.exists_reachable_taken (R := Unit)
    (visitChannelsProgram openPath (fun _ _ => ⟨[], true⟩) twoWorkers [.policyA, .policyA])
    (fun input => if input.channelId = 2011 then (0 : Fin 2) else 1) ()
    (show ([orderInput 1, tradeInput 1].map _).Nodup by decide)
  have horderHeld : workers 0 = .holding (orderInput 1) (.opening .policyA) :=
    hholding (orderInput 1) List.mem_cons_self
  have htradeHeld : workers 1 = .holding (tradeInput 1) (.opening .policyA) :=
    hholding (tradeInput 1) (List.mem_cons_of_mem _ List.mem_cons_self)
  have hfirst := htaken.tail (.work 0 (orderInput 1) _ _ () horderHeld (.loop hbegins hwave))
  have hstill : Function.update workers 0 (.holding (orderInput 1) (.looping visit 0)) 1 =
      .holding (tradeInput 1) (.opening .policyA) :=
    (Function.update_of_ne (by decide) _ _).trans htradeHeld
  have hsecond := hfirst.tail (.work 1 (tradeInput 1) _ _ () hstill (.loop hbegins' hwave'))
  exact ⟨openPath, visit, visit', _, hsecond, rfl, rfl⟩

end Sample

/-- Two visits at the same time are within the limits of the whole read. -/
theorem operation_budget_sample : ∃ visit visit' : AdmittedVisit Sample.twoWorkers.cursorOptions,
    visit.bytesOf SelectedResourceFootprint.compressedBytes 0 +
        visit'.bytesOf SelectedResourceFootprint.compressedBytes 0 ≤
      Sample.sharedLimits.maxOwnedSelectedCompressedBytes.toNat ∧
    visit.bytesOf SelectedResourceFootprint.decodedMaterializedBytes 0 +
        visit'.bytesOf SelectedResourceFootprint.decodedMaterializedBytes 0 ≤
      Sample.sharedLimits.maxOwnedDecodedMaterializedBytes.toNat := by
  obtain ⟨openPath, visit, visit', workers, hreachable, hfirst, hsecond⟩ := Sample.visits_two
  obtain ⟨hcompressed, hdecoded, -⟩ := operation_budget
    (Sample.prepareChannelsRead_two rfl (le_refl 2) (Or.inr rfl)) hreachable
  have hsum : ∀ f : SelectedResourceFootprint → ℕ,
      ∑ w : Fin 2, workerBytesInFlight f (workers w) = visit.bytesOf f 0 + visit'.bytesOf f 0 := by
    intro f
    rw [Fin.sum_univ_two, hfirst, hsecond]
    rfl
  exact ⟨visit, visit', (hsum _).symm.trans_le hcompressed, (hsum _).symm.trans_le hdecoded⟩

end ArcadiaTio.Ocb
