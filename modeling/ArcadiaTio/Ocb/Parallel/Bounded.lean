import ArcadiaTio.Ocb.Bundle.Planning
import ArcadiaTio.Ocb.Parallel.Outcome

/-!
# Executing a list of tasks

The readers hand the executor a task for each row group, with callbacks that read, prepare and
commit it.  What comes back is what some interleaving leaves behind, and all of them leave the same.
-/

namespace ArcadiaTio.Ocb

open ArcadiaTio.Lib

/-! ### The entry point -/

/-- One task: a row group and its place among the selected ones. -/
structure ParallelPrepareTaskSpec where
  selectedRowGroupOrdinal : ℕ
  rowGroupId : UInt32
  baseRow : UInt64
  rowEnd : ℕ
  rowCount : UInt64

/-- The callbacks of an execution.  The commit callback has a state of its own. -/
structure OrderedCallbacks (M T S : Type) where
  read : ParallelPrepareTaskSpec → Result M
  prepare : ParallelPrepareTaskSpec → M → Result T
  orderedCommit : S → ParallelPrepareTaskSpec → T → S × Result ColumnBundleVisitControl

/-- What a bounded execution reports. -/
structure BoundedOrderedOutcome where
  rowGroupsOrderedCommitted : ℕ
  cancelled : Bool
  orderedTerminalCompleted : Bool
deriving DecidableEq

/-- The error of a coordinator whose workers have all ended. -/
def disconnectedWorkerError : ArcadiaTioError :=
  .io "OCB parallel-prepare workers ended before the ordered frontier resolved"

/-- What the coordinator returned, as the result of the execution. -/
def Outcome.toResult (taskCount : ℕ) : Outcome ArcadiaTioError → Result BoundedOrderedOutcome
  | .completed committed cancelled => .ok {
      rowGroupsOrderedCommitted := committed, cancelled
      orderedTerminalCompleted := !cancelled && committed == taskCount }
  | .failed error => .error error
  | .workersEnded => .error disconnectedWorkerError
  | .duplicateOrdinal => .error
    (.io "OCB parallel prepare produced a duplicate row-group ordinal")

section Execution

variable {M T S : Type} (tasks : List ParallelPrepareTaskSpec) (report : ColumnBundleReadReport)
  (maxInFlightRowGroups : ℕ) (commitMode : OrderedCommitMode)

/-- How many workers are started. -/
def startedWorkers : ℕ := min (min report.effectiveThreads maxInFlightRowGroups) tasks.length

/-- The tasks and callbacks as the executor sees them, with the queue capacities that are used in
production. -/
def boundedOrdered (callbacks : OrderedCallbacks M T S) (s : S) :
    BoundedOrdered M T ArcadiaTioError S where
  mode := commitMode
  taskCount := tasks.length
  maxInFlight := maxInFlightRowGroups
  taskQueueCapacity := max (startedWorkers tasks report maxInFlightRowGroups) 1
  resultQueueCapacity := max (startedWorkers tasks report maxInFlightRowGroups) 1
  rowCount i := (tasks[i]?).elim 0 fun task => task.rowCount.toNat
  read i := okOr tasks[i]? disconnectedWorkerError >>= callbacks.read
  prepare i m := okOr tasks[i]? disconnectedWorkerError >>= (callbacks.prepare · m)
  orderedCommit s i value := match tasks[i]? with
    | some task => callbacks.orderedCommit s task value
    | none => (s, .error disconnectedWorkerError)
  commitState := s

/-- What an execution may return, and the state of the commit callback afterwards. -/
inductive ExecutesBoundedOrdered (callbacks : OrderedCallbacks M T S) (s : S) :
    Result BoundedOrderedOutcome → S → Prop
  | noneInFlight (h : maxInFlightRowGroups = 0) :
      ExecutesBoundedOrdered callbacks s (.error (ocbInvalidInput
        "OCB parallel prepare max_in_flight_row_groups must be greater than zero")) s
  | taskCount (h : maxInFlightRowGroups ≠ 0) (htasks : tasks.length ≠ report.selectedRowGroups) :
      ExecutesBoundedOrdered callbacks s (.error (ocbInvalidInput
        "OCB parallel prepare task count does not match execution report")) s
  | empty (h : maxInFlightRowGroups ≠ 0) (htasks : tasks.length = report.selectedRowGroups)
      (hempty : tasks = []) : ExecutesBoundedOrdered callbacks s (.ok ⟨0, false, true⟩) s
  | run (h : maxInFlightRowGroups ≠ 0) (htasks : tasks.length = report.selectedRowGroups)
      (hempty : tasks ≠ [])
      {t : ExecutorState (startedWorkers tasks report maxInFlightRowGroups) T ArcadiaTioError S}
      {outcome : Outcome ArcadiaTioError}
      (hreachable : t.Reachable
        (boundedOrdered tasks report maxInFlightRowGroups commitMode callbacks s))
      (hpc : t.coordinator.pc = .returned .finished outcome) :
      ExecutesBoundedOrdered callbacks s (outcome.toResult tasks.length) t.coordinator.commitState

end Execution

/-! ### All interleavings leave the same behind -/

section Determined

variable {M T S : Type} {tasks : List ParallelPrepareTaskSpec} {report : ColumnBundleReadReport}
  {maxInFlightRowGroups : ℕ} {commitMode : OrderedCommitMode} {callbacks : OrderedCallbacks M T S}
  {s s' : S} {result : Result BoundedOrderedOutcome}

/-- An execution with tasks and workers leaves the verdict of the sequential loop behind, and there
is such an execution. -/
theorem executesBoundedOrdered_iff (hmax : 0 < maxInFlightRowGroups)
    (htasks : tasks.length = report.selectedRowGroups) (hempty : tasks ≠ [])
    (hthreads : 0 < report.effectiveThreads) :
    ExecutesBoundedOrdered tasks report maxInFlightRowGroups commitMode callbacks s result s' ↔
      result = (boundedOrdered tasks report maxInFlightRowGroups commitMode callbacks
          s).verdict.outcome.toResult tasks.length ∧
        s' = (boundedOrdered tasks report maxInFlightRowGroups commitMode callbacks
          s).verdict.commitState := by
  have hW : 0 < startedWorkers tasks report maxInFlightRowGroups := by
    have hlength := List.length_pos_of_ne_nil hempty
    rw [startedWorkers]
    omega
  have hcap : 0 < (boundedOrdered tasks report maxInFlightRowGroups commitMode callbacks
      s).maxInFlight := hmax
  constructor
  · intro h
    cases h with
    | noneInFlight hnone => exact absurd hnone hmax.ne'
    | taskCount _ hcount => exact absurd htasks hcount
    | empty _ _ hnil => exact absurd hnil hempty
    | run _ _ _ hreachable hpc =>
      have hverdict := hreachable.verdict hcap hW hpc
      rw [← hverdict]
      exact ⟨rfl, rfl⟩
  · rintro ⟨rfl, rfl⟩
    obtain ⟨t, outcome, hreachable, hpc⟩ := ExecutorState.exists_finished
      (p := boundedOrdered tasks report maxInFlightRowGroups commitMode callbacks s) hcap hW
    have hverdict := hreachable.verdict hcap hW hpc
    rw [← hverdict]
    exact .run hmax.ne' htasks hempty hreachable hpc

/-- Every task can be prepared, and its commit says to continue from every state that has `P`. -/
def OrderedCallbacks.Continues (callbacks : OrderedCallbacks M T S)
    (tasks : List ParallelPrepareTaskSpec) (P : S → Prop) : Prop :=
  ∀ task ∈ tasks, ∃ value, (callbacks.read task >>= callbacks.prepare task) = .ok value ∧
    ∀ s, P s → P (callbacks.orderedCommit s task value).1 ∧
      (callbacks.orderedCommit s task value).2 = .ok .continue

/-- The ordinals of callbacks that continue, one after the other. -/
lemma continue_of_continues {P : S → Prop} (h : callbacks.Continues tasks P) (hs : P s) {i : ℕ}
    (hi : i ≤ tasks.length) :
    P ((boundedOrdered tasks report maxInFlightRowGroups commitMode callbacks s).stateBefore i) ∧
      ∀ j < i, (boundedOrdered tasks report maxInFlightRowGroups commitMode callbacks s).control j =
        .ok .continue := by
  induction i with
  | zero => exact ⟨hs, fun j hj => absurd hj (Nat.not_lt_zero j)⟩
  | succ i ih =>
    obtain ⟨hstate, hbefore⟩ := ih (by omega)
    have htask : tasks[i]? = some tasks[i] := List.getElem?_eq_getElem (by omega)
    obtain ⟨value, hvalue, hcommit⟩ := h tasks[i] (List.getElem_mem _)
    have hprepared : (boundedOrdered tasks report maxInFlightRowGroups commitMode callbacks
        s).prepared i = .ok value := by
      rw [BoundedOrdered.prepared]
      simp only [boundedOrdered, htask, okOr_some, ok_bind]
      exact hvalue
    have hcalled : ∀ t, (boundedOrdered tasks report maxInFlightRowGroups commitMode callbacks
        s).orderedCommit t i value = callbacks.orderedCommit t tasks[i] value := by
      intro t
      simp only [boundedOrdered, htask]
    obtain ⟨hnext, hcontrol⟩ := hcommit _ hstate
    refine ⟨?_, fun j hj => ?_⟩
    · rw [BoundedOrdered.stateBefore_succ hprepared, hcalled]
      exact hnext
    · rcases Nat.lt_succ_iff_lt_or_eq.mp hj with hlt | rfl
      · exact hbefore j hlt
      · rw [BoundedOrdered.control_of_ok hprepared, hcalled]
        exact hcontrol

/-- In both modes, an execution whose tasks can all be prepared and whose commits all say to
continue commits all tasks. -/
theorem executesBoundedOrdered_of_continues (hmax : 0 < maxInFlightRowGroups)
    (htasks : tasks.length = report.selectedRowGroups) (hthreads : 0 < report.effectiveThreads)
    {P : S → Prop} (h : callbacks.Continues tasks P) (hs : P s) : ∃ t, P t ∧ ∀ result s',
      ExecutesBoundedOrdered tasks report maxInFlightRowGroups commitMode callbacks s result s' ↔
        result = .ok ⟨tasks.length, false, true⟩ ∧ s' = t := by
  rcases Decidable.em (tasks.length = 0) with hnone | hsome
  · -- without a task no worker is started
    have hempty : tasks = [] := List.length_eq_zero_iff.mp hnone
    refine ⟨s, hs, fun result s' => ⟨fun hexecutes => ?_, ?_⟩⟩
    · cases hexecutes with
      | noneInFlight hzero => exact absurd hzero hmax.ne'
      | taskCount _ hcount => exact absurd htasks hcount
      | empty => exact ⟨by rw [hnone], rfl⟩
      | run _ _ hne => exact absurd hempty hne
    · rintro ⟨rfl, rfl⟩
      rw [hnone]
      exact .empty hmax.ne' htasks hempty
  have hempty : tasks ≠ [] := fun hnil => hsome (List.length_eq_zero_iff.mpr hnil)
  obtain ⟨hstate, hcontinue⟩ := @continue_of_continues _ _ _ tasks report maxInFlightRowGroups
    commitMode callbacks s P h hs tasks.length le_rfl
  let p := boundedOrdered tasks report maxInFlightRowGroups commitMode callbacks s
  have hnone : p.firstFailure 0 p.taskCount = none := by
    refine BoundedOrdered.firstFailure_eq_none.mpr fun j _ hj => ?_
    obtain ⟨value, hvalue⟩ := BoundedOrdered.prepared_of_control
      (hcontinue j (by rwa [Nat.zero_add] at hj))
    show (p.prepared j).isOk = true
    rw [show p.prepared j = .ok value from hvalue]
    rfl
  have hserial : p.serialVerdict =
      ⟨p.stateBefore tasks.length, List.range tasks.length, .completed tasks.length false⟩ :=
    BoundedOrdered.commitLoop_of_continue hcontinue
  have hverdict : p.verdict =
      ⟨p.stateBefore tasks.length, List.range tasks.length, .completed tasks.length false⟩ := by
    rw [BoundedOrdered.verdict, BoundedOrdered.windowedVerdict_of_none hnone, hserial]
    cases p.mode <;> rfl
  refine ⟨p.stateBefore tasks.length, hstate, fun result s' => ?_⟩
  rw [executesBoundedOrdered_iff hmax htasks hempty hthreads,
    show (boundedOrdered tasks report maxInFlightRowGroups commitMode callbacks s).verdict = _
      from hverdict]
  simp [Outcome.toResult]

end Determined

end ArcadiaTio.Ocb
