import ArcadiaTio.Ocb.Bundle.Visit
import Mathlib.Data.Finset.Card

/-!
# What a visit does to its visitor

A visit is a script: some batches that are handed to the visitor one after the other, until it stops
or fails, and what comes after the last of them.  With several threads a failure to read a row group
takes the row groups of its window with it; apart from this the script is that of a loop
(`visitsExecutionPlan_iff`).
-/

namespace ArcadiaTio.Ocb

open ArcadiaTio.Lib

/-! ### Scripts -/

/-- The batches of a visit, and the failure that it ends with once they have been handed over. -/
structure VisitScript where
  baseReport : ColumnBundleReadReport
  batches : List ColumnBatch
  failure : Option ArcadiaTioError

namespace VisitScript

variable {S : Type} (visitor : S → ColumnBatch → S × Result ColumnBundleVisitControl)

/-- How a visit ends that nobody has stopped. -/
def ending (failure : Option ArcadiaTioError) (report : ColumnBundleReadCursorReport) :
    Result ColumnBundleReadCursorReport :=
  failure.elim (.ok report) .error

/-- Hand over batches. -/
def deliver (failure : Option ArcadiaTioError) :
    List ColumnBatch → ColumnBundleReadCursorReport → S → Result ColumnBundleReadCursorReport × S
  | [], report, s => (ending failure report, s)
  | batch :: rest, report, s =>
    let visited := visitor s batch
    match visited.2 with
    | .error error => (.error error, visited.1)
    | .ok .continue => deliver failure rest (report.yielded batch.rowCount) visited.1
    | .ok .stop => (.ok { report.yielded batch.rowCount with cancelled := true }, visited.1)

/-- Play a script to a visitor. -/
def run (script : VisitScript) (s : S) : Result ColumnBundleReadCursorReport × S :=
  deliver visitor script.failure script.batches ⟨script.baseReport, 0, 0, false⟩ s

end VisitScript

/-- The values before the first failure, and this failure. -/
def readPrefix {ε α : Type} : List (Except ε α) → List α × Option ε
  | [] => ([], none)
  | .error e :: _ => ([], some e)
  | .ok a :: rest => (a :: (readPrefix rest).1, (readPrefix rest).2)

namespace ColumnBundleFile

variable (file : ColumnBundleFile) (zstd : ZstdCodec) (plan : ColumnBundleReadPlan)

/-- Row groups are read `waveSize` at a time, and a wave with a failure is not handed over. -/
def readScript (waveSize : ℕ) : VisitScript :=
  let reads := readPrefix (plan.rowGroupIds.map (file.readPlanRowGroup zstd plan))
  { baseReport := plan.report
    batches := match reads.2 with
      | none => reads.1
      | some _ => reads.1.take (reads.1.length / waveSize * waveSize)
    failure := reads.2 }

/-- The script of a visit. -/
def visitScript (options : ColumnBundleReadCursorOptions) : VisitScript :=
  if plan.rowGroupIds = [] then ⟨plan.report, [], none⟩
  else match validateContiguousInFlightPlanResourceLimits file.metadata plan
      (visitWaveSize plan options) with
    | .error error => ⟨plan.report, [], some error⟩
    | .ok _ => file.readScript zstd plan (visitWaveSize plan options)

/-- The script of the visit of some row groups of a plan. -/
def visitPlanScript (rowGroupIds : List UInt32) (options : ColumnBundleReadCursorOptions) :
    VisitScript :=
  match file.visitedPlan plan rowGroupIds options with
  | .error error => ⟨plan.report, [], some error⟩
  | .ok executed => file.visitScript zstd executed options

end ColumnBundleFile

/-! ### The loop -/

section Loop

variable {S : Type} {visitor : S → ColumnBatch → S × Result ColumnBundleVisitControl}
  {file : ColumnBundleFile} {zstd : ZstdCodec} {plan : ColumnBundleReadPlan}

lemma readScript_one : file.readScript zstd plan 1 = ⟨plan.report,
    (readPrefix (plan.rowGroupIds.map (file.readPlanRowGroup zstd plan))).1,
    (readPrefix (plan.rowGroupIds.map (file.readPlanRowGroup zstd plan))).2⟩ := by
  rw [ColumnBundleFile.readScript]
  rcases readPrefix (plan.rowGroupIds.map (file.readPlanRowGroup zstd plan)) with ⟨batches, _ | e⟩
  · rfl
  · dsimp only
    rw [Nat.div_one, Nat.mul_one, List.take_length]

/-- The loop over the row groups hands over what can be read. -/
lemma visitSerially_eq_deliver (rowGroupIds : List UInt32) (report : ColumnBundleReadCursorReport)
    (s : S) : file.visitSerially zstd plan visitor rowGroupIds report s =
      VisitScript.deliver visitor
        (readPrefix (rowGroupIds.map (file.readPlanRowGroup zstd plan))).2
        (readPrefix (rowGroupIds.map (file.readPlanRowGroup zstd plan))).1 report s := by
  induction rowGroupIds generalizing report s with
  | nil => rfl
  | cons id rest ih =>
    rw [ColumnBundleFile.visitSerially, List.map_cons]
    cases hread : file.readPlanRowGroup zstd plan id with
    | error e => rfl
    | ok batch =>
      rw [readPrefix, VisitScript.deliver]
      dsimp only
      rcases (visitor s batch).2 with e | _ | _
      · rfl
      · exact ih _ _
      · rfl

end Loop

/-! ### The executor -/

section Windows

variable {S : Type} {visitor : S → ColumnBatch → S × Result ColumnBundleVisitControl}

/-- A failure at the end replaces the report of a visit that nobody has stopped. -/
lemma deliver_failure (error : ArcadiaTioError) (batches : List ColumnBatch)
    (report : ColumnBundleReadCursorReport) (hreport : report.cancelled = false) (s : S) :
    VisitScript.deliver visitor (some error) batches report s =
      match VisitScript.deliver visitor none batches report s with
      | (.ok report, s') => (if report.cancelled then .ok report else .error error, s')
      | (.error error, s') => (.error error, s') := by
  induction batches generalizing report s with
  | nil =>
    rw [VisitScript.deliver, VisitScript.deliver]
    simp [VisitScript.ending, hreport]
  | cons batch rest ih =>
    rw [VisitScript.deliver, VisitScript.deliver]
    dsimp only
    rcases (visitor s batch).2 with e | _ | _
    · rfl
    · exact ih (report.yielded batch.rowCount) hreport _
    · rfl

/-- The report of an execution of tasks. -/
def Outcome.toCursorReport (baseReport : ColumnBundleReadReport)
    (tasks : List ParallelPrepareTaskSpec) (outcome : Outcome ArcadiaTioError) :
    Result ColumnBundleReadCursorReport :=
  cursorReportOf baseReport tasks <$> outcome.toResult tasks.length

/-- The report when `i` tasks have been committed. -/
def reportAfter (baseReport : ColumnBundleReadReport) (tasks : List ParallelPrepareTaskSpec)
    (i : ℕ) : ColumnBundleReadCursorReport :=
  cursorReportOf baseReport tasks ⟨i, false, false⟩

lemma reportAfter_succ {baseReport : ColumnBundleReadReport}
    {tasks : List ParallelPrepareTaskSpec} {i : ℕ} {task : ParallelPrepareTaskSpec}
    (htask : tasks[i]? = some task) (hcount : tasks.length < 2 ^ usizeBits) :
    (reportAfter baseReport tasks i).yielded task.rowCount =
      reportAfter baseReport tasks (i + 1) := by
  have hi := (List.getElem?_eq_some_iff.mp htask).1
  have hbatches : saturatingAdd usizeBits i 1 = i + 1 := by
    rw [saturatingAdd]
    omega
  have hrows : saturatingAdd 64 (rowsOrderedCommitted tasks ⟨i, false, false⟩)
      task.rowCount.toNat = rowsOrderedCommitted tasks ⟨i + 1, false, false⟩ := by
    rw [rowsOrderedCommitted, rowsOrderedCommitted]
    dsimp only
    rw [List.take_add_one, htask, Option.toList_some, List.foldl_append]
    rfl
  show ColumnBundleReadCursorReport.mk baseReport (saturatingAdd usizeBits i 1)
    (saturatingAdd 64 _ _) false = _
  rw [hbatches]
  exact congrArg (fun rows => ColumnBundleReadCursorReport.mk baseReport (i + 1) rows false) hrows

/-- The commits of what has been made of batches are the visits of these batches. -/
lemma commitLoop_eq_deliver {M T : Type} {p : BoundedOrdered M T ArcadiaTioError S}
    {f : ColumnBatch → T} {baseReport : ColumnBundleReadReport}
    {tasks : List ParallelPrepareTaskSpec} (hcount : tasks.length < 2 ^ usizeBits) {i : ℕ}
    {batches : List ColumnBatch}
    (hbatches : ∀ j batch, batches[j]? = some batch → p.prepared (i + j) = .ok (f batch) ∧
      (∀ s, p.orderedCommit s (i + j) (f batch) = visitor s batch) ∧
      ∃ task, tasks[i + j]? = some task ∧ task.rowCount = batch.rowCount) (s : S)
    (calls : List ℕ) :
    (((p.commitLoop i batches.length s calls).outcome.toCursorReport baseReport tasks),
        (p.commitLoop i batches.length s calls).commitState) =
      VisitScript.deliver visitor none batches (reportAfter baseReport tasks i) s := by
  induction batches generalizing i s calls with
  | nil => rfl
  | cons batch rest ih =>
    obtain ⟨hprepared, hcommit, task, htask, hrows⟩ := hbatches 0 batch rfl
    rw [Nat.add_zero] at hprepared hcommit htask
    rw [List.length_cons, BoundedOrdered.commitLoop_of_ok hprepared, hcommit, VisitScript.deliver]
    dsimp only
    have hreport := @reportAfter_succ baseReport tasks i task htask hcount
    rw [hrows] at hreport
    rcases (visitor s batch).2 with e | _ | _
    · rfl
    · dsimp only
      rw [ih fun j other hother => by
        have hnext := hbatches (j + 1) other hother
        rwa [show i + (j + 1) = i + 1 + j from by omega] at hnext, hreport]
    · rw [hreport]
      rfl

/-- What comes before the first failure, and the failure itself. -/
lemma readPrefix_cases {ε α : Type} (reads : List (Except ε α)) :
    (∀ (j : ℕ) (a : α), (readPrefix reads).1[j]? = some a → reads[j]? = some (Except.ok a)) ∧
      ((readPrefix reads).2 = none ∧ (readPrefix reads).1.length = reads.length ∨
        ∃ e, (readPrefix reads).2 = some e ∧
          reads[(readPrefix reads).1.length]? = some (Except.error e)) := by
  induction reads with
  | nil =>
    refine ⟨fun j a h => ?_, Or.inl ⟨rfl, rfl⟩⟩
    cases h
  | cons read rest ih =>
    cases read with
    | error e =>
      refine ⟨fun j a h => ?_, Or.inr ⟨e, rfl, rfl⟩⟩
      cases h
    | ok a =>
      obtain ⟨hok, hend⟩ := ih
      refine ⟨fun j b hb => ?_, hend.imp (fun h => ⟨h.1, congrArg Nat.succ h.2⟩) fun h => h⟩
      cases j with
      | zero =>
        cases hb
        rfl
      | succ j => exact hok j b hb

lemma mapM_take_readPrefix {ε α β : Type} (f : α → Except ε β) (l : List α) :
    (l.take (readPrefix (l.map f)).1.length).mapM f = .ok (readPrefix (l.map f)).1 := by
  induction l with
  | nil => rfl
  | cons a rest ih =>
    rw [List.map_cons]
    cases ha : f a with
    | error e => rfl
    | ok b =>
      rw [readPrefix, List.length_cons, List.take_succ_cons, List.mapM_cons, ha]
      dsimp only
      rw [ih]
      rfl

lemma readPrefix_of_mapM {α β : Type} {f : α → Result β} {l : List α} {read : List β}
    (h : l.mapM f = .ok read) : readPrefix (l.map f) = (read, none) := by
  induction mapM_eq_ok.mp h with
  | nil => rfl
  | cons hread hrest ih =>
    rw [List.map_cons, hread, readPrefix, ih (mapM_eq_ok.mpr hrest)]

/-- What a list of reads begins with is read from where the list begins. -/
lemma mapM_take_of_prefix {α β : Type} {f : α → Result β} {l : List α} {read first : List β}
    (h : l.mapM f = .ok read) (hbegin : first <+: read) :
    (l.take first.length).mapM f = .ok first := by
  have htake := List.forall₂_take first.length (mapM_eq_ok.mp h)
  rw [← List.prefix_iff_eq_take.mp hbegin] at htake
  exact mapM_eq_ok.mpr htake

/-- The verdict over the windows is that of the script. -/
lemma windowedVerdict_eq_deliver {M T : Type} {p : BoundedOrdered M T ArcadiaTioError S}
    (f : ColumnBatch → T) {baseReport : ColumnBundleReadReport}
    {tasks : List ParallelPrepareTaskSpec} (hcount : tasks.length < 2 ^ usizeBits)
    (htaskCount : p.taskCount = tasks.length) {reads : List (Result ColumnBatch)}
    (hlength : reads.length = tasks.length)
    (hreads : ∀ j read, reads[j]? = some read → p.prepared j = f <$> read ∧
      ∀ batch, read = .ok batch → (∀ s, p.orderedCommit s j (f batch) = visitor s batch) ∧
        ∃ task, tasks[j]? = some task ∧ task.rowCount = batch.rowCount) :
    (p.windowedVerdict.outcome.toCursorReport baseReport tasks, p.windowedVerdict.commitState) =
      VisitScript.deliver visitor (readPrefix reads).2
        (match (readPrefix reads).2 with
          | none => (readPrefix reads).1
          | some _ => (readPrefix reads).1.take
            ((readPrefix reads).1.length / p.maxInFlight * p.maxInFlight))
        ⟨baseReport, 0, 0, false⟩ p.commitState := by
  obtain ⟨hok, hend⟩ := readPrefix_cases reads
  have hbatches : ∀ n j batch, ((readPrefix reads).1.take n)[j]? = some batch →
      p.prepared (0 + j) = .ok (f batch) ∧
        (∀ s, p.orderedCommit s (0 + j) (f batch) = visitor s batch) ∧
        ∃ task, tasks[0 + j]? = some task ∧ task.rowCount = batch.rowCount := by
    intro n j batch hbatch
    rw [Nat.zero_add]
    have hj := (List.getElem?_eq_some_iff.mp hbatch).1
    rw [List.length_take] at hj
    rw [List.getElem?_take_of_lt (by omega)] at hbatch
    obtain ⟨hprepared, hvisits⟩ := hreads j _ (hok j batch hbatch)
    exact ⟨hprepared, hvisits batch rfl⟩
  -- a run of the commit loop over decoded batches delivers them
  have hloop := fun n => @commitLoop_eq_deliver S visitor M T p f baseReport tasks hcount 0 _
    (hbatches n) p.commitState []
  have hprepared : ∀ j, j < (readPrefix reads).1.length → (p.prepared j).isOk = true := by
    intro j hj
    obtain ⟨h, -⟩ := hreads j _ (hok j _ (List.getElem?_eq_getElem hj))
    rw [h]
    rfl
  rcases hend with ⟨hnone, hall⟩ | ⟨e, hsome, hfailed⟩
  -- no read fails, so the windows together are the serial loop
  · have hfirst : p.firstFailure 0 p.taskCount = none :=
      BoundedOrdered.firstFailure_eq_none.mpr fun j _ hj => hprepared j (by omega)
    have hserial := hloop (readPrefix reads).1.length
    rw [List.take_length] at hserial
    rw [hnone, BoundedOrdered.windowedVerdict_of_none hfirst, BoundedOrdered.serialVerdict,
      htaskCount, ← hlength, ← hall]
    exact hserial
  -- a read fails, and only the windows before its own are committed
  · have hlt := (List.getElem?_eq_some_iff.mp hfailed).1
    have hfirst : p.firstFailure 0 p.taskCount = some ((readPrefix reads).1.length, e) :=
      BoundedOrdered.firstFailure_eq_some.mpr ⟨Nat.zero_le _, by omega, (hreads _ _ hfailed).1,
        fun j _ hj => hprepared j hj⟩
    have hdiv := Nat.div_mul_le_self (readPrefix reads).1.length p.maxInFlight
    have hbefore := hloop ((readPrefix reads).1.length / p.maxInFlight * p.maxInFlight)
    rw [List.length_take_of_le hdiv] at hbefore
    have hinternal := @BoundedOrdered.commitLoop_internal _ _ _ _ p 0
      ((readPrefix reads).1.length / p.maxInFlight * p.maxInFlight) p.commitState []
    rw [hsome, BoundedOrdered.windowedVerdict, hfirst]
    dsimp only
    rw [deliver_failure _ _ _ rfl]
    change _ = VisitScript.deliver visitor none _ ⟨baseReport, 0, 0, false⟩ p.commitState at hbefore
    rw [← hbefore]
    revert hinternal
    generalize p.commitLoop 0 ((readPrefix reads).1.length / p.maxInFlight * p.maxInFlight)
      p.commitState [] = verdict
    rintro ⟨hworkers, hduplicate⟩
    rcases verdict with ⟨s', calls, ⟨n, _ | _⟩ | error | _ | _⟩
    · rfl
    · rfl
    · rfl
    · exact absurd rfl hworkers
    · exact absurd rfl hduplicate

end Windows

/-! ### The visit of a plan -/

namespace ColumnBundleFile

variable {S : Type} {visitor : S → ColumnBatch → S × Result ColumnBundleVisitControl}
  {file : ColumnBundleFile} {zstd : ZstdCodec} {plan : ColumnBundleReadPlan}

/-- What an executed plan has. -/
structure Executable (file : ColumnBundleFile) (plan : ColumnBundleReadPlan) : Prop where
  nodup : plan.rowGroupIds.Nodup
  known : ∀ id ∈ plan.rowGroupIds, (file.metadata.rowGroupById id).isSome = true
  count : plan.rowGroupIds.length = plan.report.selectedRowGroups
  threads : 0 < plan.report.effectiveThreads

lemma executable_of_visitedPlan {executed : ColumnBundleReadPlan} {rowGroupIds : List UInt32}
    {options : ColumnBundleReadCursorOptions}
    (h : file.visitedPlan plan rowGroupIds options = .ok executed) : file.Executable executed := by
  obtain ⟨_, hvalid, h⟩ := bind_eq_ok.mp h
  obtain ⟨_, -, h⟩ := bind_eq_ok.mp h
  obtain ⟨selected, hselected, h⟩ := bind_eq_ok.mp h
  cases h
  refine ⟨?_, fun id hid => known_of_validateReadPlan hvalid id
    (mem_of_plannedRowGroupSubset hselected hid), rfl,
    effectiveThreads_executionReportForPlan plan _⟩
  obtain ⟨-, -, rfl⟩ := plannedRowGroupSubset_eq_ok.mp hselected
  exact (nodup_of_validateReadPlan hvalid).filter _

/-- There are only so many ids. -/
lemma length_le_of_nodup {ids : List UInt32} (h : ids.Nodup) : ids.length ≤ 2 ^ 32 := by
  have hnodup : (ids.map UInt32.toNat).Nodup := h.map fun _ _ => UInt32.toNat_inj.mp
  have hsub : (ids.map UInt32.toNat).toFinset ⊆ Finset.range (2 ^ 32) := by
    intro n hn
    obtain ⟨id, -, rfl⟩ := List.mem_map.mp (List.mem_toFinset.mp hn)
    exact Finset.mem_range.mpr id.toNat_lt
  have hcard := Finset.card_le_card hsub
  rwa [List.toFinset_card_of_nodup hnodup, List.length_map, Finset.card_range] at hcard

/-- However it is scheduled, the visit of a plan plays its script. -/
theorem visitsExecutionPlan_iff (h : file.Opened) (hplan : file.Executable plan)
    {options : ColumnBundleReadCursorOptions} {s s' : S}
    {result : Result ColumnBundleReadCursorReport} :
    file.VisitsExecutionPlan zstd plan visitor options s result s' ↔
      (result, s') = (file.visitScript zstd plan options).run visitor s := by
  rw [visitScript]
  by_cases hempty : plan.rowGroupIds = []
  · rw [if_pos hempty]
    constructor
    · intro hvisits
      cases hvisits with
      | empty => rfl
      | limits hne => exact absurd hempty hne
      | loop hne => exact absurd hempty hne
      | tasks hne => exact absurd hempty hne
      | parallel hne => exact absurd hempty hne
    · intro hrun
      cases hrun
      exact .empty hempty
  rw [if_neg hempty]
  cases hlimits : validateContiguousInFlightPlanResourceLimits file.metadata plan
      (visitWaveSize plan options) with
  | error error =>
    constructor
    · intro hvisits
      cases hvisits with
      | empty hnil => exact absurd hnil hempty
      | limits _ herror =>
        rw [hlimits] at herror
        cases herror
        rfl
      | loop _ hok =>
        rw [hlimits] at hok
        cases hok
      | tasks _ hok =>
        rw [hlimits] at hok
        cases hok
      | parallel _ hok =>
        rw [hlimits] at hok
        cases hok
    · intro hrun
      cases hrun
      exact .limits hempty hlimits
  | ok =>
    dsimp only
    by_cases hwave : visitWaveSize plan options ≤ 1
    · have hone : visitWaveSize plan options = 1 := by
        rw [visitWaveSize] at hwave ⊢
        omega
      have hloop := @visitSerially_eq_deliver S visitor file zstd plan plan.rowGroupIds
        ⟨plan.report, 0, 0, false⟩ s
      have hrun : (file.readScript zstd plan (visitWaveSize plan options)).run visitor s =
          file.visitSerially zstd plan visitor plan.rowGroupIds ⟨plan.report, 0, 0, false⟩ s := by
        rw [hone, readScript_one, hloop]
        rfl
      rw [hrun]
      constructor
      · intro hvisits
        cases hvisits with
        | empty hnil => exact absurd hnil hempty
        | limits _ herror =>
          rw [hlimits] at herror
          cases herror
        | loop => rfl
        | tasks _ _ hlarge => exact absurd hwave hlarge
        | parallel _ _ hlarge => exact absurd hwave hlarge
      · intro heq
        have hvisits : file.VisitsExecutionPlan zstd plan visitor options s _ _ :=
          .loop hempty hlimits hwave
        rw [← heq] at hvisits
        exact hvisits
    · obtain ⟨tasks, htasks, hforall⟩ := h.exists_rowGroupTasks hplan.known
        "OCB bounded scheduler row group not found" "OCB bounded scheduler row range overflows"
      have htasks : file.boundedOrderedTasksForPlan plan = .ok tasks := htasks
      have hlength : tasks.length = plan.rowGroupIds.length := hforall.length_eq.symm
      have hnonempty : tasks ≠ [] := by
        rintro rfl
        exact hempty (List.length_eq_zero_iff.mp hlength.symm)
      have hcount : tasks.length < 2 ^ usizeBits := by
        have hids := length_le_of_nodup hplan.nodup
        rw [hlength, usizeBits]
        omega
      -- the executor reads the row group of a task and hands it to the visitor
      have hreads : ∀ j read, (plan.rowGroupIds.map (file.readPlanRowGroup zstd plan))[j]? =
          some read → (boundedOrdered tasks plan.report (visitWaveSize plan options) .windowed
            (file.visitCallbacks zstd plan visitor) s).prepared j = id <$> read ∧
          ∀ batch, read = .ok batch →
            (∀ t, (boundedOrdered tasks plan.report (visitWaveSize plan options) .windowed
              (file.visitCallbacks zstd plan visitor) s).orderedCommit t j batch =
                visitor t batch) ∧
            ∃ task, tasks[j]? = some task ∧ task.rowCount = batch.rowCount := by
        intro j read hread
        rw [List.getElem?_map, Option.map_eq_some_iff] at hread
        obtain ⟨id, hid, rfl⟩ := hread
        obtain ⟨hj, rfl⟩ := List.getElem?_eq_some_iff.mp hid
        have hj' : j < tasks.length := hlength.symm ▸ hj
        have htask : file.TaskOf plan.rowGroupIds[j] tasks[j] :=
          (List.forall₂_iff_get.mp hforall).2 j hj hj'
        have hget : tasks[j]? = some tasks[j] := List.getElem?_eq_getElem hj'
        refine ⟨?_, fun batch hbatch => ⟨fun t => ?_, tasks[j], hget, ?_⟩⟩
        · rw [id_map, BoundedOrdered.prepared]
          simp only [boundedOrdered, hget, okOr_some, ok_bind, visitCallbacks, htask.rowGroupId]
          exact bind_pure _
        · simp only [boundedOrdered, hget, visitCallbacks]
        · obtain ⟨rowGroup, hrowGroup, -, -, hrows⟩ := h.of_readPlanRowGroup hbatch
          obtain ⟨rowGroup', hrowGroup', -, hrows'⟩ := htask.rowGroup
          obtain rfl := Option.some.inj (hrowGroup.symm.trans hrowGroup')
          rw [hrows, hrows']
      have hdeliver := @windowedVerdict_eq_deliver S visitor _ _ (boundedOrdered tasks plan.report
        (visitWaveSize plan options) .windowed (file.visitCallbacks zstd plan visitor) s) id
        plan.report tasks hcount rfl _ (by rw [List.length_map, hlength]) hreads
      have hrun : (file.readScript zstd plan (visitWaveSize plan options)).run visitor s =
          (_, _) := hdeliver.symm
      have hiff := fun outcome => @executesBoundedOrdered_iff _ _ S tasks plan.report
        (visitWaveSize plan options) .windowed (file.visitCallbacks zstd plan visitor) s s' outcome
        (by omega) (hlength.trans hplan.count) hnonempty hplan.threads
      rw [hrun, Prod.mk.injEq]
      constructor
      · intro hvisits
        cases hvisits with
        | empty hnil => exact absurd hnil hempty
        | limits _ herror =>
          rw [hlimits] at herror
          cases herror
        | loop _ _ hsmall => exact absurd hsmall hwave
        | tasks _ _ _ herror =>
          rw [htasks] at herror
          cases herror
        | parallel _ _ _ htasks' hexecutes =>
          rw [htasks] at htasks'
          cases htasks'
          obtain ⟨rfl, rfl⟩ := (hiff _).mp hexecutes
          exact ⟨rfl, rfl⟩
      · rintro ⟨rfl, rfl⟩
        exact .parallel hempty hlimits hwave htasks ((hiff _).mpr ⟨rfl, rfl⟩)

/-- However it is scheduled, the visit of some row groups of a plan plays its script. -/
theorem visitsPlanRowGroups_iff (h : file.Opened) {rowGroupIds : List UInt32}
    {options : ColumnBundleReadCursorOptions} {s s' : S}
    {result : Result ColumnBundleReadCursorReport} :
    file.VisitsPlanRowGroups zstd plan rowGroupIds visitor options s result s' ↔
      (result, s') = (file.visitPlanScript zstd plan rowGroupIds options).run visitor s := by
  rw [visitPlanScript]
  cases hplan : file.visitedPlan plan rowGroupIds options with
  | error error =>
    constructor
    · intro hvisits
      cases hvisits with
      | refused herror =>
        rw [hplan] at herror
        cases herror
        rfl
      | visited hok =>
        rw [hplan] at hok
        cases hok
    · intro hrun
      cases hrun
      exact .refused hplan
  | ok executed =>
    dsimp only
    rw [← visitsExecutionPlan_iff h (executable_of_visitedPlan hplan)]
    constructor
    · intro hvisits
      cases hvisits with
      | refused herror =>
        rw [hplan] at herror
        cases herror
      | visited hok hvisits =>
        rw [hplan] at hok
        cases hok
        exact hvisits
    · exact .visited hplan

/-- The script of a visit that was admitted and whose row groups can all be read. -/
lemma visitPlanScript_of_reads {executed : ColumnBundleReadPlan} {rowGroupIds : List UInt32}
    {options : ColumnBundleReadCursorOptions} {batches : List ColumnBatch}
    (hplan : file.visitedPlan plan rowGroupIds options = .ok executed)
    (hlimits : validateContiguousInFlightPlanResourceLimits file.metadata executed
      (visitWaveSize executed options) = .ok ())
    (hreads : executed.rowGroupIds.mapM (file.readPlanRowGroup zstd executed) = .ok batches) :
    file.visitPlanScript zstd plan rowGroupIds options = ⟨executed.report, batches, none⟩ := by
  rw [visitPlanScript, hplan]
  dsimp only
  rw [visitScript]
  split
  · rename_i hempty
    rw [hempty] at hreads
    cases hreads
    rfl
  · rw [hlimits]
    dsimp only
    rw [readScript, readPrefix_of_mapM hreads]

/-- What a script hands over are the owned reads of the first row groups. -/
lemma mapM_take_of_readScript (waveSize : ℕ) :
    (plan.rowGroupIds.take (file.readScript zstd plan waveSize).batches.length).mapM
      (file.readPlanRowGroup zstd plan) = .ok (file.readScript zstd plan waveSize).batches := by
  have hread := mapM_take_readPrefix (file.readPlanRowGroup zstd plan) plan.rowGroupIds
  rw [readScript]
  generalize readPrefix (plan.rowGroupIds.map (file.readPlanRowGroup zstd plan)) = reads at hread
  have hbegin : (match reads.2 with
      | none => reads.1
      | some _ => reads.1.take (reads.1.length / waveSize * waveSize)) <+: reads.1 := by
    rcases reads.2 with _ | e
    · exact List.prefix_rfl
    · exact List.take_prefix _ _
  have htake := mapM_take_of_prefix hread hbegin
  rwa [List.take_take, min_eq_left hbegin.length_le] at htake

/-- The batches of a script that does not fail are the owned reads of all its row groups. -/
lemma batches_of_readScript {waveSize : ℕ}
    (h : (file.readScript zstd plan waveSize).failure = none) :
    plan.rowGroupIds.mapM (file.readPlanRowGroup zstd plan) =
      .ok (file.readScript zstd plan waveSize).batches := by
  have hread := mapM_take_readPrefix (file.readPlanRowGroup zstd plan) plan.rowGroupIds
  rw [readScript] at h ⊢
  dsimp only at h ⊢
  rcases (readPrefix_cases (plan.rowGroupIds.map (file.readPlanRowGroup zstd plan))).2 with
    ⟨-, hlength⟩ | ⟨e, hsome, -⟩
  · rw [hlength, List.length_map, List.take_length] at hread
    rw [h]
    exact hread
  · rw [h] at hsome
    cases hsome

/-- A script that does not fail is for a visit that was admitted. -/
lemma exists_executed_of_visitPlanScript {rowGroupIds : List UInt32}
    {options : ColumnBundleReadCursorOptions}
    (h : (file.visitPlanScript zstd plan rowGroupIds options).failure = none) :
    ∃ executed, file.visitedPlan plan rowGroupIds options = .ok executed ∧
      executed.rowGroupIds.mapM (file.readPlanRowGroup zstd executed) =
        .ok (file.visitPlanScript zstd plan rowGroupIds options).batches ∧
      (file.visitPlanScript zstd plan rowGroupIds options).baseReport = executed.report := by
  rw [visitPlanScript] at h ⊢
  cases hplan : file.visitedPlan plan rowGroupIds options with
  | error error =>
    rw [hplan] at h
    cases h
  | ok executed =>
    rw [hplan] at h
    refine ⟨executed, rfl, ?_⟩
    dsimp only at h ⊢
    rw [visitScript] at h ⊢
    by_cases hempty : executed.rowGroupIds = []
    · rw [if_pos hempty, hempty]
      exact ⟨rfl, rfl⟩
    · rw [if_neg hempty] at h ⊢
      cases hlimits : validateContiguousInFlightPlanResourceLimits file.metadata executed
          (visitWaveSize executed options) with
      | error error =>
        rw [hlimits] at h
        cases h
      | ok =>
        rw [hlimits] at h
        exact ⟨batches_of_readScript h, rfl⟩

variable (file zstd plan) in
/-- What a script hands over are the owned reads of the first row groups of an admitted visit. -/
lemma exists_reads_of_visitPlanScript (rowGroupIds : List UInt32)
    (options : ColumnBundleReadCursorOptions) :
    (file.visitPlanScript zstd plan rowGroupIds options).batches = [] ∨ ∃ executed,
      file.visitedPlan plan rowGroupIds options = .ok executed ∧
      (executed.rowGroupIds.take
          (file.visitPlanScript zstd plan rowGroupIds options).batches.length).mapM
        (file.readPlanRowGroup zstd executed) =
          .ok (file.visitPlanScript zstd plan rowGroupIds options).batches := by
  rw [visitPlanScript]
  cases hplan : file.visitedPlan plan rowGroupIds options with
  | error error => exact Or.inl rfl
  | ok executed =>
    dsimp only
    rw [visitScript]
    split
    · exact Or.inl rfl
    · cases validateContiguousInFlightPlanResourceLimits file.metadata executed
          (visitWaveSize executed options) with
      | error error => exact Or.inl rfl
      | ok => exact Or.inr ⟨executed, rfl, mapM_take_of_readScript _⟩

variable (file zstd plan) in
/-- A script has at most as many batches as there are ids. -/
lemma length_batches_visitPlanScript (rowGroupIds : List UInt32)
    (options : ColumnBundleReadCursorOptions) :
    (file.visitPlanScript zstd plan rowGroupIds options).batches.length ≤ 2 ^ 32 := by
  rcases file.exists_reads_of_visitPlanScript zstd plan rowGroupIds options with
    hempty | ⟨executed, hplan, hread⟩
  · rw [hempty]
    exact Nat.zero_le _
  · have hlength := (mapM_eq_ok.mp hread).length_eq
    have hids := length_le_of_nodup (executable_of_visitedPlan hplan).nodup
    rw [List.length_take] at hlength
    omega

end ColumnBundleFile

end ArcadiaTio.Ocb
