import ArcadiaTio.Ocb.Bundle.Execution
import ArcadiaTio.Ocb.Bundle.Resources
import ArcadiaTio.Ocb.Parallel.Bounded

/-!
# Reading the batches of a plan

A plan is executed by a loop over its row groups or, with more than one thread, by the executor in
windowed mode.  The batches and the first error are the same, whatever the number of threads and
the interleaving.
-/

namespace ArcadiaTio.Ocb

open ArcadiaTio.Lib

/-! ### Validating a plan -/

/-- Check the ids of a plan one after the other: each is known, and none comes twice. -/
def checkPlanIds (known : UInt32 → Bool) (unknown duplicate : String) :
    List UInt32 → List UInt32 → Result Unit
  | [], _ => .ok ()
  | id :: rest, seen => do
    failIf (¬ known id) (ocbInvalidInput unknown)
    failIf (id ∈ seen) (ocbInvalidInput duplicate)
    checkPlanIds known unknown duplicate rest (id :: seen)

/-- The report of an execution of some row groups of a plan. -/
def executionReportForPlan (plan : ColumnBundleReadPlan) (selectedRowGroups : ℕ) :
    ColumnBundleReadReport :=
  buildReadReport plan.report.requestedThreads selectedRowGroups plan.report.prunedRowGroups
    plan.projectedColumnIds.length

/-- What a read of a plan returns: the batches and the report. -/
structure ColumnBundleReadOutcome where
  batches : List ColumnBatch
  report : ColumnBundleReadReport

namespace ColumnBundleFile

variable (file : ColumnBundleFile) (zstd : ZstdCodec) (plan : ColumnBundleReadPlan)

/-- The ids of a plan are different, and they are ids of the file. -/
def validateReadPlan : Result Unit := do
  checkPlanIds (fun columnId => file.columns.any fun column => column.id = columnId)
    "OCB read plan references an unknown projected column id"
    "OCB read plan contains duplicate projected column ids" plan.projectedColumnIds []
  checkPlanIds (fun rowGroupId => (file.metadata.rowGroupById rowGroupId).isSome)
    "OCB read plan references an unknown row group id"
    "OCB read plan contains duplicate row group ids" plan.rowGroupIds []

/-! ### Executing a plan -/

/-- The task of one row group. -/
def boundedOrderedTask (task : UInt32 × ℕ) : Result ParallelPrepareTaskSpec := do
  let rowGroup ← okOr (file.metadata.rowGroupById task.1)
    (ocbCorruptFile "OCB bounded scheduler row group not found")
  let rowEnd ← okOr (checkedAdd 64 rowGroup.baseRow.toNat rowGroup.rowCount.toNat)
    (ocbCorruptFile "OCB bounded scheduler row range overflows")
  return {
    selectedRowGroupOrdinal := task.2, rowGroupId := task.1, baseRow := rowGroup.baseRow
    rowEnd, rowCount := rowGroup.rowCount }

/-- One task for each row group of a plan, with its rows. -/
def boundedOrderedTasksForPlan : Result (List ParallelPrepareTaskSpec) :=
  plan.rowGroupIds.zipIdx.mapM file.boundedOrderedTask

/-- Read one row group of the plan. -/
def readPlanRowGroup (rowGroupId : UInt32) : Result ColumnBatch :=
  readRowGroup file.source zstd file.metadata file.columns rowGroupId plan.projectedColumnIds

/-- The callbacks that collect the batches. -/
def batchCallbacks : OrderedCallbacks ColumnBatch ColumnBatch (List ColumnBatch) where
  read task := file.readPlanRowGroup zstd plan task.rowGroupId
  prepare _ batch := .ok batch
  orderedCommit batches _ batch := (batches ++ [batch], .ok .continue)

/-- What the execution of a plan may return. -/
inductive ExecutesPlan : Result (List ColumnBatch) → Prop
  | limits {error : ArcadiaTioError}
      (h : validateOwnedPlanResourceLimits file.metadata plan = .error error) :
      ExecutesPlan (.error error)
  | empty (h : validateOwnedPlanResourceLimits file.metadata plan = .ok ())
      (hempty : plan.rowGroupIds = []) : ExecutesPlan (.ok [])
  | loop (h : validateOwnedPlanResourceLimits file.metadata plan = .ok ())
      (hempty : plan.rowGroupIds ≠ []) (hthreads : plan.report.effectiveThreads ≤ 1) :
      ExecutesPlan (plan.rowGroupIds.mapM (file.readPlanRowGroup zstd plan))
  | tasks {error : ArcadiaTioError}
      (h : validateOwnedPlanResourceLimits file.metadata plan = .ok ())
      (hempty : plan.rowGroupIds ≠ []) (hthreads : ¬ plan.report.effectiveThreads ≤ 1)
      (htasks : file.boundedOrderedTasksForPlan plan = .error error) : ExecutesPlan (.error error)
  | parallel {tasks : List ParallelPrepareTaskSpec} {outcome : Result BoundedOrderedOutcome}
      {batches : List ColumnBatch} (h : validateOwnedPlanResourceLimits file.metadata plan = .ok ())
      (hempty : plan.rowGroupIds ≠ []) (hthreads : ¬ plan.report.effectiveThreads ≤ 1)
      (htasks : file.boundedOrderedTasksForPlan plan = .ok tasks)
      (hexecutes : ExecutesBoundedOrdered tasks plan.report plan.report.effectiveThreads .windowed
        (file.batchCallbacks zstd plan) [] outcome batches) :
      ExecutesPlan ((fun _ => batches) <$> outcome)

/-- The plan that is executed: the same columns and row groups with the report of the execution. -/
def executionPlan : ColumnBundleReadPlan :=
  { plan with report := executionReportForPlan plan plan.rowGroupIds.length }

/-- What reading the batches of a plan may return. -/
inductive ReadsPlanBatches : Result ColumnBundleReadOutcome → Prop
  | invalid {error : ArcadiaTioError} (h : file.validateReadPlan plan = .error error) :
      ReadsPlanBatches (.error error)
  | executed {batches : Result (List ColumnBatch)} (h : file.validateReadPlan plan = .ok ())
      (hexecutes : file.ExecutesPlan zstd (executionPlan plan) batches) :
      ReadsPlanBatches ((⟨·, (executionPlan plan).report⟩) <$> batches)

/-- The single-threaded reader: check the plan, then read one row group after the other. -/
def readPlanBatchesSerial : Result (List ColumnBatch) := do
  file.validateReadPlan plan
  validateOwnedPlanResourceLimits file.metadata plan
  plan.rowGroupIds.mapM (file.readPlanRowGroup zstd plan)

end ColumnBundleFile

/-! ### Collecting what a loop yields -/

section Collecting

variable {T : Type} {p : BoundedOrdered T T ArcadiaTioError (List T)}

/-- The commit callback collects the values. -/
structure BoundedOrdered.Collects (p : BoundedOrdered T T ArcadiaTioError (List T)) : Prop where
  commit : ∀ values i value, i < p.taskCount →
    p.orderedCommit values i value = (values ++ [value], .ok .continue)
  state : p.commitState = []

namespace BoundedOrdered.Collects

lemma control_of_ok (h : p.Collects) {i : ℕ} (hi : i < p.taskCount) {value : T}
    (hvalue : p.prepared i = .ok value) : p.control i = .ok .continue := by
  rw [BoundedOrdered.control_of_ok hvalue, h.commit _ _ _ hi]

/-- What has been collected before an ordinal. -/
lemma stateBefore (h : p.Collects) {i : ℕ} (hi : i ≤ p.taskCount) {values : List T}
    (hvalues : (List.range i).mapM p.prepared = .ok values) : p.stateBefore i = values := by
  induction i generalizing values with
  | zero =>
    cases hvalues
    exact h.state
  | succ i ih =>
    rw [List.range_succ, List.mapM_append] at hvalues
    obtain ⟨before, hbefore, hvalues⟩ := bind_eq_ok.mp hvalues
    obtain ⟨last, hlast, hvalues⟩ := bind_eq_ok.mp hvalues
    cases hvalues
    rw [List.mapM_cons] at hlast
    obtain ⟨value, hvalue, hlast⟩ := bind_eq_ok.mp hlast
    cases hlast
    rw [BoundedOrdered.stateBefore_succ hvalue, ih (by omega) hbefore, h.commit _ _ _ (by omega)]
    rfl

/-- Windowed execution with a collecting callback is the loop over the ordinals. -/
theorem windowedVerdict (h : p.Collects) :
    (fun _ => p.windowedVerdict.commitState) <$> p.windowedVerdict.outcome.toResult p.taskCount =
      (List.range p.taskCount).mapM p.prepared := by
  cases hfailure : p.firstFailure 0 p.taskCount with
  | none =>
    have hok := BoundedOrdered.firstFailure_eq_none.mp hfailure
    have hprepared : ∀ i ∈ List.range p.taskCount, IsOk (p.prepared i) := by
      intro i hi
      have hisOk := hok i (Nat.zero_le i) (by simpa using hi)
      cases hi : p.prepared i with
      | ok value => exact ⟨value, rfl⟩
      | error error =>
        rw [hi] at hisOk
        cases hisOk
    obtain ⟨values, hvalues⟩ := isOk_mapM.mpr hprepared
    have hcontinue : ∀ i < p.taskCount, p.control i = .ok .continue := by
      intro i hi
      obtain ⟨value, hvalue⟩ := hprepared i (by simpa using hi)
      exact h.control_of_ok hi hvalue
    rw [BoundedOrdered.windowedVerdict_of_none hfailure, BoundedOrdered.serialVerdict,
      BoundedOrdered.commitLoop_of_continue hcontinue, hvalues, h.stateBefore le_rfl hvalues]
    rfl
  | some failure =>
    obtain ⟨i, error⟩ := failure
    obtain ⟨-, hi, herror, hbefore⟩ := BoundedOrdered.firstFailure_eq_some.mp hfailure
    have hprepared : ∀ j < i, IsOk (p.prepared j) := by
      intro j hj
      have hisOk := hbefore j (Nat.zero_le j) hj
      cases hj : p.prepared j with
      | ok value => exact ⟨value, rfl⟩
      | error error =>
        rw [hj] at hisOk
        cases hisOk
    have hdiv := Nat.div_mul_le_self i p.maxInFlight
    have hcontinue : ∀ j < i / p.maxInFlight * p.maxInFlight, p.control j = .ok .continue := by
      intro j hj
      obtain ⟨value, hvalue⟩ := hprepared j (by omega)
      exact h.control_of_ok (by omega) hvalue
    rw [BoundedOrdered.windowedVerdict_of_failure hfailure hcontinue]
    have hsplit : List.range p.taskCount =
        List.range i ++ i :: List.range' (i + 1) (p.taskCount - (i + 1)) := by
      rw [List.range_eq_range', List.range_eq_range', ← List.range'_succ]
      have happend := List.range'_append_1 (s := 0) (m := i) (n := p.taskCount - (i + 1) + 1)
      rw [Nat.zero_add] at happend
      rw [happend]
      congr 1
      omega
    rw [hsplit, mapM_of_error (fun j hj => hprepared j (by simpa using hj)) herror]
    rfl

end BoundedOrdered.Collects

end Collecting

/-! ### All thread counts read the same -/

/-- The loop over the positions of a list is the loop over the list. -/
lemma mapM_range_get {α β : Type} (l : List α) (f : α → Result β) (e : ArcadiaTioError) :
    (List.range l.length).mapM (fun i => okOr l[i]? e >>= f) = l.mapM f := by
  induction l with
  | nil => rfl
  | cons a l ih =>
    rw [List.length_cons, List.range_succ_eq_map, List.mapM_cons, List.mapM_cons, List.mapM_map,
      ← ih]
    rfl

lemma checkPlanIds_eq_ok {known : UInt32 → Bool} {unknown duplicate : String}
    {ids seen : List UInt32} {u : Unit} (h : checkPlanIds known unknown duplicate ids seen = .ok u) :
    (∀ id ∈ ids, known id = true) ∧ ids.Nodup ∧ ∀ id ∈ ids, id ∉ seen := by
  induction ids generalizing seen with
  | nil => simp
  | cons id rest ih =>
    obtain ⟨_, hknown, h⟩ := bind_eq_ok.mp h
    obtain ⟨_, hseen, h⟩ := bind_eq_ok.mp h
    rw [failIf_eq_ok, not_not] at hknown
    rw [failIf_eq_ok] at hseen
    obtain ⟨hrest, hnodup, hfresh⟩ := ih h
    refine ⟨?_, List.nodup_cons.mpr ⟨fun hmem => ?_, hnodup⟩, ?_⟩
    · rintro x (_ | ⟨_, hx⟩)
      · exact hknown
      · exact hrest x hx
    · exact hfresh id hmem List.mem_cons_self
    · rintro x (_ | ⟨_, hx⟩)
      · exact hseen
      · exact fun hmem => hfresh x hx (List.mem_cons_of_mem _ hmem)

/-- The rows of a row group end within the rows of the file. -/
lemma MetadataInvariant.rowEnd_lt {m : OcbMetadataV1} (h : MetadataInvariant m)
    {rowGroup : OcbRowGroupDescV1} (hmem : rowGroup ∈ m.rowGroupIndex.rowGroups) :
    rowGroup.baseRow.toNat + rowGroup.rowCount.toNat < 2 ^ 64 :=
  lt_of_le_of_lt (h.rows.bounds (List.mem_map_of_mem (f := OcbRowGroupDescV1.rowRange) hmem)).2
    m.root.rowCount.toNat_lt

namespace ColumnBundleFile

variable {file : ColumnBundleFile} {zstd : ZstdCodec} {plan : ColumnBundleReadPlan}

/-- The tasks of a checked plan: one for each row group, in the order of the plan. -/
lemma Opened.exists_tasks (h : file.Opened)
    (hknown : ∀ id ∈ plan.rowGroupIds, (file.metadata.rowGroupById id).isSome = true) :
    ∃ tasks, file.boundedOrderedTasksForPlan plan = .ok tasks ∧
      tasks.map ParallelPrepareTaskSpec.rowGroupId = plan.rowGroupIds := by
  have hok : ∀ task ∈ plan.rowGroupIds.zipIdx, IsOk (file.boundedOrderedTask task) := by
    rintro ⟨id, ordinal⟩ htask
    obtain ⟨rowGroup, hrowGroup⟩ := Option.isSome_iff_exists.mp
      (hknown id (List.fst_mem_of_mem_zipIdx htask))
    have hmem := (h.invariant.rowGroupById id rowGroup).mp hrowGroup
    rw [boundedOrderedTask, hrowGroup, okOr_some, ok_bind,
      checkedAdd_of_lt (h.invariant.rowEnd_lt hmem.1)]
    exact ⟨_, rfl⟩
  obtain ⟨tasks, htasks⟩ := isOk_mapM.mpr hok
  refine ⟨tasks, htasks, ?_⟩
  have hids : List.Forall₂ (fun (task : UInt32 × ℕ) spec => task.1 = spec.rowGroupId)
      plan.rowGroupIds.zipIdx tasks := by
    refine (mapM_eq_ok.mp htasks).imp fun task spec hspec => ?_
    obtain ⟨rowGroup, -, hspec⟩ := bind_eq_ok.mp hspec
    obtain ⟨rowEnd, -, hspec⟩ := bind_eq_ok.mp hspec
    cases hspec
    rfl
  have hmap := List.forall₂_eq_eq_eq ▸ (List.forall₂_map_right_iff.mpr
    (List.forall₂_map_left_iff (f := Prod.fst (α := UInt32) (β := ℕ)).mpr hids))
  rw [← hmap]
  simp

/-- The callbacks of a plan collect the batches of its row groups. -/
lemma collects_batchCallbacks (tasks : List ParallelPrepareTaskSpec)
    (report : ColumnBundleReadReport) (maxInFlight : ℕ) (mode : OrderedCommitMode) :
    (boundedOrdered tasks report maxInFlight mode (file.batchCallbacks zstd plan) []).Collects where
  commit values i value hi := by
    have htask : tasks[i]? = some tasks[i] := List.getElem?_eq_getElem hi
    simp only [boundedOrdered, htask]
    rfl
  state := rfl

/-- The executor makes of an ordinal what the loop makes of its row group. -/
lemma mapM_prepared {tasks : List ParallelPrepareTaskSpec} (report : ColumnBundleReadReport)
    (maxInFlight : ℕ) (mode : OrderedCommitMode)
    (htasks : tasks.map ParallelPrepareTaskSpec.rowGroupId = plan.rowGroupIds) :
    (List.range tasks.length).mapM (boundedOrdered tasks report maxInFlight mode
        (file.batchCallbacks zstd plan) []).prepared =
      plan.rowGroupIds.mapM (file.readPlanRowGroup zstd plan) := by
  have hprepared : (boundedOrdered tasks report maxInFlight mode
      (file.batchCallbacks zstd plan) []).prepared = fun i =>
        okOr tasks[i]? disconnectedWorkerError >>=
          fun task => file.readPlanRowGroup zstd plan task.rowGroupId := by
    funext i
    rw [BoundedOrdered.prepared]
    cases htask : tasks[i]? with
    | none => simp only [boundedOrdered, htask, okOr_none, error_bind]
    | some task =>
      simp only [boundedOrdered, htask, okOr_some, ok_bind, batchCallbacks]
      cases file.readPlanRowGroup zstd plan task.rowGroupId <;> rfl
  rw [hprepared, mapM_range_get, ← htasks, List.mapM_map]
  rfl

/-- The execution of a checked plan is the loop over its row groups. -/
theorem Opened.executesPlan_iff (h : file.Opened)
    (hknown : ∀ id ∈ plan.rowGroupIds, (file.metadata.rowGroupById id).isSome = true)
    (hselected : plan.report.selectedRowGroups = plan.rowGroupIds.length)
    {result : Result (List ColumnBatch)} : file.ExecutesPlan zstd plan result ↔
      result = (do
        validateOwnedPlanResourceLimits file.metadata plan
        plan.rowGroupIds.mapM (file.readPlanRowGroup zstd plan)) := by
  obtain ⟨tasks, htasks, hids⟩ := h.exists_tasks hknown
  have hlength : tasks.length = plan.rowGroupIds.length := by rw [← hids, List.length_map]
  -- the executor, when it is used
  have hparallel : plan.rowGroupIds ≠ [] → ¬ plan.report.effectiveThreads ≤ 1 →
      ∀ outcome batches, ExecutesBoundedOrdered tasks plan.report plan.report.effectiveThreads
          .windowed (file.batchCallbacks zstd plan) [] outcome batches ↔
        outcome = (boundedOrdered tasks plan.report plan.report.effectiveThreads .windowed
            (file.batchCallbacks zstd plan) []).windowedVerdict.outcome.toResult tasks.length ∧
          batches = (boundedOrdered tasks plan.report plan.report.effectiveThreads .windowed
            (file.batchCallbacks zstd plan) []).windowedVerdict.commitState := by
    intro hempty hthreads outcome batches
    refine executesBoundedOrdered_iff (by omega) (hlength.trans hselected.symm) ?_ (by omega)
    rintro rfl
    exact hempty (List.length_eq_zero_iff.mp hlength.symm)
  have hcollects : (boundedOrdered tasks plan.report plan.report.effectiveThreads .windowed
      (file.batchCallbacks zstd plan) []).Collects := collects_batchCallbacks ..
  have hverdict := hcollects.windowedVerdict
  rw [show (boundedOrdered tasks plan.report plan.report.effectiveThreads .windowed
    (file.batchCallbacks zstd plan) []).taskCount = tasks.length from rfl,
    mapM_prepared _ _ _ hids] at hverdict
  constructor
  · intro hexecutes
    cases hexecutes with
    | limits herror => rw [herror, error_bind]
    | empty hlimits hempty => rw [hlimits, ok_bind, hempty]; rfl
    | loop hlimits => rw [hlimits, ok_bind]
    | tasks _ _ _ herror =>
      rw [htasks] at herror
      cases herror
    | parallel hlimits hempty hthreads htasks' hexecutes =>
      rw [htasks] at htasks'
      cases htasks'
      obtain ⟨rfl, rfl⟩ := (hparallel hempty hthreads _ _).mp hexecutes
      rw [hlimits, ok_bind, ← hverdict]
  · rintro rfl
    cases hlimits : validateOwnedPlanResourceLimits file.metadata plan with
    | error error => exact .limits hlimits
    | ok u =>
      rw [ok_bind]
      by_cases hempty : plan.rowGroupIds = []
      · rw [hempty]
        exact .empty hlimits hempty
      · by_cases hthreads : plan.report.effectiveThreads ≤ 1
        · exact .loop hlimits hempty hthreads
        · rw [← hverdict]
          exact .parallel hlimits hempty hthreads htasks
            ((hparallel hempty hthreads _ _).mpr ⟨rfl, rfl⟩)

/-- Reading the batches of a plan gives the batches, or the first error, of the single-threaded
reader. -/
theorem Opened.readsPlanBatches_iff (h : file.Opened) {result : Result ColumnBundleReadOutcome} :
    file.ReadsPlanBatches zstd plan result ↔ result =
      (⟨·, executionReportForPlan plan plan.rowGroupIds.length⟩) <$>
        file.readPlanBatchesSerial zstd plan := by
  rw [readPlanBatchesSerial]
  cases hvalid : file.validateReadPlan plan with
  | error error =>
    constructor
    · intro hreads
      cases hreads with
      | invalid herror =>
        rw [hvalid] at herror
        cases herror
        rfl
      | executed hok =>
        rw [hvalid] at hok
        cases hok
    · rintro rfl
      exact .invalid hvalid
  | ok u =>
    have hknown : ∀ id ∈ plan.rowGroupIds, (file.metadata.rowGroupById id).isSome = true := by
      obtain ⟨_, -, hrowGroups⟩ := bind_eq_ok.mp hvalid
      exact (checkPlanIds_eq_ok hrowGroups).1
    have hselected : (executionPlan plan).report.selectedRowGroups =
        (executionPlan plan).rowGroupIds.length := rfl
    have hexecutes := @h.executesPlan_iff file zstd (executionPlan plan) hknown hselected
    rw [ok_bind]
    constructor
    · intro hreads
      cases hreads with
      | invalid herror =>
        rw [hvalid] at herror
        cases herror
      | executed _ hplan =>
        rw [hexecutes.mp hplan]
        rfl
    · rintro rfl
      exact .executed hvalid (hexecutes.mpr rfl)

end ColumnBundleFile

/-- The same plan with another number of threads. -/
def ColumnBundleReadPlan.withThreads (plan : ColumnBundleReadPlan) (threads : ℕ) :
    ColumnBundleReadPlan :=
  { plan with report := { plan.report with requestedThreads := threads } }

/-- Windowed execution is the loop over the windows, for every execution, and so the batches of a
plan, or the first error, are those of the single-threaded reader for every number of threads. -/
theorem windowed_eq_serial :
    (∀ (W : ℕ) (M T E S : Type) (p : BoundedOrdered M T E S), p.mode = .windowed →
      0 < p.maxInFlight → 0 < W → ExecutorState.WindowedExecution W p) ∧
    ∀ (source : OcbReadSource) (zstd : ZstdCodec) (validation : OcbOpenValidationMode)
      (limits : OcbResourceLimits) (file : ColumnBundleFile),
      ColumnBundleFile.openFromSource source zstd validation limits = .ok file →
      ∀ (plan : ColumnBundleReadPlan) (threads : ℕ) (result : Result ColumnBundleReadOutcome),
        file.ReadsPlanBatches zstd (plan.withThreads threads) result ↔ result =
          (⟨·, executionReportForPlan (plan.withThreads threads) plan.rowGroupIds.length⟩) <$>
            file.readPlanBatchesSerial zstd plan :=
  ⟨fun _ _ _ _ _ p hmode hcap hW => ExecutorState.windowedExecution p hmode hcap hW,
    fun _ _ _ _ _ h _ _ _ =>
      (ColumnBundleFile.opened_of_openFromSource h).readsPlanBatches_iff⟩

/-- The plan of the column of the small file, for four threads. -/
def Sample.plan : ColumnBundleReadPlan where
  projectedColumnIds := [0]
  rowGroupIds := [0]
  report := buildReadReport 4 1 0 1

/-- Of the three tasks the first window is committed, and then the failure of the last is returned;
and with four threads the small file is read as with one. -/
theorem windowed_eq_serial_sample :
    ((Sample.tasks .windowed).windowedVerdict.calls = List.range 2 ∧
      (Sample.tasks .windowed).windowedVerdict.outcome = .failed "unreadable") ∧
    ∃ file, ColumnBundleFile.openFromSource (Sample.file .i32) (fun _ _ => ⟨[], true⟩)
        .metadataGraph .policyA = .ok file ∧
      file.ReadsPlanBatches (fun _ _ => ⟨[], true⟩) (Sample.plan.withThreads 4)
        ((⟨·, executionReportForPlan (Sample.plan.withThreads 4) 1⟩) <$>
          file.readPlanBatchesSerial (fun _ _ => ⟨[], true⟩) Sample.plan) := by
  refine ⟨?_, ?_⟩
  · refine (windowed_eq_serial.1 2 _ _ _ _ (Sample.tasks .windowed) rfl (by decide)
      (by decide)).failure 2 (by decide) "unreadable" rfl ?_ ?_
    · decide
    · rintro (_ | _ | j) hj
      · rfl
      · rfl
      · have hwindow : 2 / (Sample.tasks .windowed).maxInFlight *
            (Sample.tasks .windowed).maxInFlight = 2 := rfl
        omega
  · obtain ⟨cRoot, cSchema, cStrings, cDictionaries, cIndex, h⟩ :=
      Sample.openFromSource .i32 fun _ _ => ⟨[], true⟩
    exact ⟨_, h, (windowed_eq_serial.2 _ _ _ _ _ h Sample.plan 4 _).mpr rfl⟩

end ArcadiaTio.Ocb
