import ArcadiaTio.Ocb.Parallel.Termination
import ArcadiaTio.Ocb.Parallel.Windows

/-!
# What an execution amounts to

The results about whole executions: the executor never gets stuck and every run finishes, and
whatever the interleaving, the calls of the commit callback and the outcome are those of the
sequential loop over the ordinals or over the windows.
-/

namespace ArcadiaTio.Ocb

open ArcadiaTio.Lib

variable {W : ℕ} {M T E S : Type} (p : BoundedOrdered M T E S)

/-- The flag of the report that says that all tasks have been committed and none has stopped the
execution; an execution that fails has no report. -/
def Outcome.orderedTerminalCompleted (taskCount : ℕ) : Outcome E → Option Bool
  | .completed committed cancelled => some (!cancelled && committed == taskCount)
  | _ => none

/-! ### The internal errors -/

lemma BoundedOrdered.commitLoop_internal {i count : ℕ} {s : S} {calls : List ℕ} :
    (p.commitLoop i count s calls).outcome ≠ .workersEnded ∧
      (p.commitLoop i count s calls).outcome ≠ .duplicateOrdinal := by
  induction count generalizing i s calls with
  | zero => exact ⟨by rintro ⟨⟩, by rintro ⟨⟩⟩
  | succ count ih =>
    cases hprepared : p.prepared i with
    | error error =>
      rw [BoundedOrdered.commitLoop_of_error hprepared]
      exact ⟨by rintro ⟨⟩, by rintro ⟨⟩⟩
    | ok value =>
      rw [BoundedOrdered.commitLoop_of_ok hprepared]
      rcases (p.orderedCommit s i value).2 with error | _ | _
      · exact ⟨by rintro ⟨⟩, by rintro ⟨⟩⟩
      · exact ih
      · exact ⟨by rintro ⟨⟩, by rintro ⟨⟩⟩

/-- The verdict is never one of the internal errors of the coordinator. -/
lemma BoundedOrdered.verdict_internal :
    p.verdict.outcome ≠ .workersEnded ∧ p.verdict.outcome ≠ .duplicateOrdinal := by
  rw [verdict]
  cases p.mode with
  | sliding => exact p.commitLoop_internal
  | windowed =>
    show p.windowedVerdict.outcome ≠ _ ∧ p.windowedVerdict.outcome ≠ _
    rw [windowedVerdict]
    cases p.firstFailure 0 p.taskCount with
    | none => exact p.commitLoop_internal
    | some failure =>
      dsimp only
      split
      · exact ⟨by rintro ⟨⟩, by rintro ⟨⟩⟩
      · exact p.commitLoop_internal

/-! ### What has been committed -/

/-- The ordinals below `k` have been committed, all but the last said to continue, and the commit
callback is in the state that they leave. -/
structure BoundedOrdered.Committed (k : ℕ) (calls : List ℕ) (commitState : S) : Prop where
  le : k ≤ p.taskCount
  calls : calls = List.range k
  prepared : ∀ i < k, (p.prepared i).isOk = true
  continued : ∀ i, i + 1 < k → p.control i = .ok .continue
  commitState : commitState = p.stateBefore k

lemma BoundedOrdered.committed_commitLoop {count : ℕ} (hcount : count ≤ p.taskCount) :
    ∃ k, p.Committed k (p.commitLoop 0 count p.commitState []).calls
      (p.commitLoop 0 count p.commitState []).commitState := by
  have hprepared : ∀ {k : ℕ}, (∀ j < k, p.control j = .ok .continue) →
      ∀ i < k, (p.prepared i).isOk = true := by
    intro k hall i hi
    obtain ⟨value, hvalue⟩ := prepared_of_control (hall i hi)
    rw [hvalue]
    rfl
  rcases continue_or_first (p := p) count with hall | ⟨i, hi, hbefore, hend⟩
  · rw [commitLoop_of_continue hall]
    exact ⟨count, hcount, rfl, hprepared hall, fun j hj => hall j (by omega), rfl⟩
  · rcases hvalue : p.prepared i with error | value
    · rw [commitLoop_of_failure hi hbefore hvalue]
      exact ⟨i, by omega, rfl, hprepared hbefore, fun j hj => hbefore j (by omega), rfl⟩
    · rw [commitLoop_of_commit hi hbefore hvalue hend]
      refine ⟨i + 1, by omega, rfl, fun j hj => ?_, fun j hj => hbefore j (by omega), rfl⟩
      rcases Nat.lt_succ_iff_lt_or_eq.mp hj with hlt | rfl
      · exact hprepared hbefore j hlt
      · rw [hvalue]
        rfl

lemma BoundedOrdered.committed_verdict :
    ∃ k, p.Committed k p.verdict.calls p.verdict.commitState := by
  rw [verdict]
  rcases p.mode with _ | _
  · exact p.committed_commitLoop le_rfl
  · show ∃ k, p.Committed k p.windowedVerdict.calls p.windowedVerdict.commitState
    rcases hfailure : p.firstFailure 0 p.taskCount with _ | ⟨i, error⟩
    · rw [windowedVerdict_of_none hfailure]
      exact p.committed_commitLoop le_rfl
    · obtain ⟨-, hi, -, -⟩ := firstFailure_eq_some.mp hfailure
      have hdiv := Nat.div_mul_le_self i p.maxInFlight
      rw [windowedVerdict_calls hfailure, windowedVerdict_commitState hfailure]
      exact p.committed_commitLoop (by omega)

/-- Three tasks of which the last fails; the callback collects the values. -/
def Sample.tasks (mode : OrderedCommitMode) : BoundedOrdered ℕ ℕ String (List ℕ) where
  mode := mode
  taskCount := 3
  maxInFlight := 2
  taskQueueCapacity := 1
  resultQueueCapacity := 1
  rowCount _ := 1
  read i := if i = 2 then .error "unreadable" else .ok i
  prepare _ m := .ok m
  orderedCommit s _ value := (s ++ [value], .ok .continue)
  commitState := []

namespace ExecutorState

/-- In every reachable state the ordinals below some bound have been committed. -/
lemma committed_of_reachable (hcap : 0 < p.maxInFlight) (hW : 0 < W) {s : ExecutorState W T E S}
    (h : s.Reachable p) : ∃ k, p.Committed k s.coordinator.calls s.coordinator.commitState := by
  cases hpc : s.coordinator.pc with
  | returned stage outcome =>
    have hverdict := h.verdict hcap hW hpc
    have hcommitted := p.committed_verdict
    rw [← hverdict] at hcommitted
    exact hcommitted
  | _ =>
    have hworking := (h.ordered hcap hW).working (by rw [hpc]; rfl)
    have hcommitted := p.committed_commitLoop (hworking.le.trans hworking.le_count)
    rw [hworking.committed] at hcommitted
    exact hcommitted

/-! ### Sliding mode -/

/-- In sliding mode, for every number of workers, cap and capacities, and whatever the
interleaving: the ordinals are committed in order, an execution that has returned has left behind
what the sequential loop leaves behind, and every run finishes.  The loop commits the ordinals
before the first failure of a read or preparation and returns its error; it commits an ordinal that
says to stop and is cancelled; and its terminal flag says that every commit said to continue. -/
theorem sliding_eq_serial (hmode : p.mode = .sliding) (hcap : 0 < p.maxInFlight) (hW : 0 < W) :
    (∀ s : ExecutorState W T E S, s.Reachable p →
      (∃ k ≤ p.taskCount, s.coordinator.calls = List.range k) ∧
      ∀ stage outcome, s.coordinator.pc = .returned stage outcome →
        (⟨s.coordinator.commitState, s.coordinator.calls, outcome⟩ : Verdict E S) =
          p.serialVerdict) ∧
    (∀ run : ℕ → ExecutorState W T E S, Run p run → FinitelySpurious run →
      ∃ k outcome, (run k).coordinator.pc = .returned .finished outcome) ∧
    (∀ i < p.taskCount, (∀ j < i, p.control j = .ok .continue) →
      (∀ error, p.prepared i = .error error → p.serialVerdict.calls = List.range i ∧
        p.serialVerdict.outcome = .failed error) ∧
      (p.control i = .ok .stop → p.serialVerdict.calls = List.range (i + 1) ∧
        p.serialVerdict.outcome = .completed (i + 1) true ∧
        p.serialVerdict.outcome.orderedTerminalCompleted p.taskCount = some false)) ∧
    (p.serialVerdict.outcome.orderedTerminalCompleted p.taskCount = some true ↔
      ∀ i < p.taskCount, p.control i = .ok .continue) := by
  refine ⟨fun s h => ⟨?_, fun stage outcome hpc => ?_⟩, fun run h hspurious =>
    h.finishes hcap hW hspurious, fun i hi hbefore => ⟨fun error herror => ?_, fun hstop => ?_⟩, ?_⟩
  · obtain ⟨k, hcommitted⟩ := committed_of_reachable p hcap hW h
    exact ⟨k, hcommitted.le, hcommitted.calls⟩
  · have hverdict := h.verdict hcap hW hpc
    rwa [BoundedOrdered.verdict, hmode] at hverdict
  · rw [BoundedOrdered.serialVerdict, BoundedOrdered.commitLoop_of_failure hi hbefore herror]
    exact ⟨rfl, rfl⟩
  · obtain ⟨value, hvalue⟩ := BoundedOrdered.prepared_of_control hstop
    rw [BoundedOrdered.serialVerdict, BoundedOrdered.commitLoop_of_commit hi hbefore hvalue
      (by rw [hstop]; rintro ⟨⟩), hstop]
    exact ⟨rfl, rfl, rfl⟩
  · rw [← BoundedOrdered.commitLoop_completed_iff]
    show Outcome.orderedTerminalCompleted _ (p.commitLoop 0 p.taskCount p.commitState []).outcome =
      _ ↔ _
    cases (p.commitLoop 0 p.taskCount p.commitState []).outcome with
    | completed committed cancelled =>
      simp only [Outcome.orderedTerminalCompleted, Option.some.injEq, Bool.and_eq_true,
        Bool.not_eq_true', beq_iff_eq, Outcome.completed.injEq]
      exact and_comm
    | _ =>
      constructor
      · rintro ⟨⟩
      · rintro ⟨⟩

/-- Of the three tasks the first two are committed, and then the failure of the last is returned. -/
theorem sliding_eq_serial_sample :
    (Sample.tasks .sliding).serialVerdict.calls = List.range 2 ∧
      (Sample.tasks .sliding).serialVerdict.outcome = .failed "unreadable" :=
  ((sliding_eq_serial (W := 2) (Sample.tasks .sliding) rfl (by decide) (by decide)).2.2.1 2
    (by decide) fun j hj => match j, hj with
      | 0, _ => rfl
      | 1, _ => rfl).1 "unreadable" rfl

/-! ### No deadlock -/

/-- No notification of progress is lost: whoever sleeps on an old generation is about to be woken,
and as long as the generation has not moved on since the snapshot, what a party waits for has not
happened, or the party that made it happen is about to advance the generation. -/
structure NoLostProgress (s : ExecutorState W T E S) : Prop where
  asleep : ∀ x ∈ s.shared.progress.sleeping, ∃ g, s.stage x = .wait (.asleep g) ∧
    (g = s.shared.progress.generation ∨ ∃ y, (s.stage y).waking = true)
  room : s.coordinator.pc.hasReturned = false → ∀ w,
    (s.workers w).waitsFor = some s.shared.progress.generation →
      max 1 p.resultQueueCapacity ≤ s.shared.results.length ∨ s.coordinator.pc.hasReceived = true
  progress : s.coordinator.pc.waitsFor = some s.shared.progress.generation →
    (max 1 p.taskQueueCapacity ≤ s.shared.tasks.length ∨ ∃ w, (s.workers w).hasPopped = true) ∧
      (s.shared.results = [] ∨ ∃ w, (s.workers w).hasSent = true)

/-- In both modes, in every reachable state: unless the executor has finished, a party has a step
to take by which nobody falls asleep, no notification of progress is lost, and the internal errors
of the coordinator are not returned. -/
theorem no_deadlock (hcap : 0 < p.maxInFlight) (hW : 0 < W) (s : ExecutorState W T E S)
    (h : s.Reachable p) :
    ((∀ outcome, s.coordinator.pc ≠ .returned .finished outcome) →
      ∃ t, Act p s t ∧ s.shared.NobodyFellAsleep t.shared) ∧
    s.NoLostProgress p ∧
    ∀ stage outcome, s.coordinator.pc = .returned stage outcome →
      outcome ≠ .workersEnded ∧ outcome ≠ .duplicateOrdinal := by
  have hlive := h.live hcap hW
  refine ⟨fun hunfinished => exists_act (h.not_stuck hcap hW hunfinished), ⟨fun x hx => ?_,
    hlive.waits.noRoom, fun hwaits => ⟨?_, hlive.waits.noResults hwaits⟩⟩, fun stage outcome hpc => ?_⟩
  · obtain ⟨g, hstage⟩ := hlive.signals.sound.asleep x hx
    refine ⟨g, hstage, ?_⟩
    by_cases hg : g = s.shared.progress.generation
    · exact Or.inl hg
    · exact Or.inr (hlive.signals.sound.missed x hx g hstage hg)
  · exact hlive.waits.tasksFull (CoordinatorPc.foundFull_of_waitsFor hwaits)
  · have hverdict := congrArg Verdict.outcome (h.verdict hcap hW hpc)
    have hinternal := p.verdict_internal
    rw [← hverdict] at hinternal
    exact hinternal

lemma Reachable.act {p : BoundedOrdered M T E S} {s t : ExecutorState W T E S}
    (h : s.Reachable p) (hact : Act p s t) : t.Reachable p :=
  Relation.ReflTransGen.tail h (Or.inl hact)

/-- Two workers reach a state in which one of them sleeps on the queue, the other has taken the
first of the three ordinals, and the coordinator has queued the second and is to wake somebody. -/
lemma Sample.exists_asleep : ∃ s : ExecutorState 2 ℕ String (List ℕ),
    s.Reachable (Sample.tasks .sliding) ∧ s.workers 0 = .popped .bump 0 ∧ s.workers 1 = .asleep ∧
      s.coordinator.pc = .notifyOne ∧ s.coordinator.nextToCommit = 0 ∧
      s.coordinator.nextToQueue = 2 ∧ s.shared.tasks = [1] ∧ s.shared.available = {1} := by
  have hstart : (initial 2 (Sample.tasks .sliding)).Reachable (Sample.tasks .sliding) := .refl
  -- the first ordinal is queued, and worker 0 takes it
  have hadmit := hstart.act (.coordinator (.slidingAdmit rfl rfl (by decide) rfl
    ⟨rfl, by decide, by decide⟩))
  have hsnapshot := hadmit.act (.coordinator (.snapshot rfl))
  have hpush := hsnapshot.act (.coordinator (.push rfl rfl (by decide)))
  have hnobody := hpush.act (.coordinator (.notifyNobody rfl rfl))
  have hpop := hnobody.act (.worker 0 (.pop rfl rfl))
  -- worker 1 finds the queue empty before the second one is queued
  have hasleep := hpop.act (.worker 1 (.popSleep rfl rfl rfl))
  have hadmit' := hasleep.act (.coordinator (.slidingAdmit rfl rfl (by decide) rfl
    ⟨rfl, by decide, by decide⟩))
  have hsnapshot' := hadmit'.act (.coordinator (.snapshot rfl))
  have hpush' := hsnapshot'.act (.coordinator (.push rfl rfl (by decide)))
  exact ⟨_, hpush', rfl, rfl, rfl, rfl, rfl, rfl, rfl⟩

/-- While a worker sleeps and a notification is under way, somebody has something to do. -/
theorem no_deadlock_sample : ∃ s : ExecutorState 2 ℕ String (List ℕ),
    s.Reachable (Sample.tasks .sliding) ∧ s.workers 1 = .asleep ∧ s.shared.tasks = [1] ∧
      (∃ t, Act (Sample.tasks .sliding) s t ∧ s.shared.NobodyFellAsleep t.shared) ∧
      s.NoLostProgress (Sample.tasks .sliding) := by
  obtain ⟨s, hs, -, hasleep, hpc, -, -, htasks, -⟩ := Sample.exists_asleep
  obtain ⟨hact, hnoLost, -⟩ := no_deadlock (Sample.tasks .sliding) (by decide) (by decide) s hs
  refine ⟨s, hs, hasleep, htasks, hact fun outcome hreturned => ?_, hnoLost⟩
  rw [hpc] at hreturned
  cases hreturned

/-! ### Windowed mode -/

/-- What holds of every windowed execution with `W` workers, whatever the interleaving.  Ordinals
are committed in order, and only after all results of their window have arrived and none of them is
a failure; every run finishes, and what an execution leaves behind is the verdict of the loop over
the windows.  When an ordinal is the first to fail, nothing of its window and of the later ones is
committed; unless a commit has ended the loop before, all windows before it are committed, and its
error is returned.  Without a failure the verdict is that of the sequential loop. -/
structure WindowedExecution (W : ℕ) (p : BoundedOrdered M T E S) : Prop where
  ordered : ∀ s : ExecutorState W T E S, s.Reachable p →
    ∃ k ≤ p.taskCount, s.coordinator.calls = List.range k
  whole : ∀ s : ExecutorState W T E S, s.Reachable p → s.WholeWindows p
  verdict : ∀ s : ExecutorState W T E S, s.Reachable p → ∀ stage outcome,
    s.coordinator.pc = .returned stage outcome →
      (⟨s.coordinator.commitState, s.coordinator.calls, outcome⟩ : Verdict E S) = p.windowedVerdict
  finishes : ∀ run : ℕ → ExecutorState W T E S, Run p run → FinitelySpurious run →
    ∃ k outcome, (run k).coordinator.pc = .returned .finished outcome
  before : ∀ i < p.taskCount, ∀ error, p.prepared i = .error error →
    (∀ j < i, (p.prepared j).isOk = true) →
      ∃ k ≤ i / p.maxInFlight * p.maxInFlight, p.windowedVerdict.calls = List.range k
  failure : ∀ i < p.taskCount, ∀ error, p.prepared i = .error error →
    (∀ j < i, (p.prepared j).isOk = true) →
    (∀ j < i / p.maxInFlight * p.maxInFlight, p.control j = .ok .continue) →
      p.windowedVerdict.calls = List.range (i / p.maxInFlight * p.maxInFlight) ∧
        p.windowedVerdict.outcome = .failed error
  ended : ∀ i < p.taskCount, ∀ error, p.prepared i = .error error →
    (∀ j < i, (p.prepared j).isOk = true) →
    (∃ j < i / p.maxInFlight * p.maxInFlight, p.control j ≠ .ok .continue) →
      p.windowedVerdict = p.serialVerdict
  noFailure : (∀ i < p.taskCount, (p.prepared i).isOk = true) → p.windowedVerdict = p.serialVerdict

theorem windowedExecution (hmode : p.mode = .windowed) (hcap : 0 < p.maxInFlight) (hW : 0 < W) :
    WindowedExecution W p := by
  have hfirst : ∀ i < p.taskCount, ∀ error, p.prepared i = .error error →
      (∀ j < i, (p.prepared j).isOk = true) → p.firstFailure 0 p.taskCount = some (i, error) := by
    intro i hi error herror hbefore
    exact BoundedOrdered.firstFailure_eq_some.mpr
      ⟨Nat.zero_le i, by omega, herror, fun j _ => hbefore j⟩
  refine {
    ordered := fun s h => ?_
    whole := fun s h => h.wholeWindows hmode hcap hW
    verdict := fun s h stage outcome hpc => ?_
    finishes := fun run h hspurious => h.finishes hcap hW hspurious
    before := fun i hi error herror hbefore => ?_
    failure := fun i hi error herror hbefore hcontinue => ?_
    ended := fun i hi error herror hbefore hended => ?_
    noFailure := fun hok => ?_ }
  · obtain ⟨k, hcommitted⟩ := committed_of_reachable p hcap hW h
    exact ⟨k, hcommitted.le, hcommitted.calls⟩
  · have hverdict := h.verdict hcap hW hpc
    rwa [BoundedOrdered.verdict, hmode] at hverdict
  · rw [BoundedOrdered.windowedVerdict_calls (hfirst i hi error herror hbefore)]
    exact BoundedOrdered.commitLoop_calls _
  · rw [BoundedOrdered.windowedVerdict_of_failure (hfirst i hi error herror hbefore) hcontinue]
    exact ⟨rfl, rfl⟩
  · exact BoundedOrdered.windowedVerdict_of_ended (hfirst i hi error herror hbefore) hended
  · exact BoundedOrdered.windowedVerdict_of_none
      (BoundedOrdered.firstFailure_eq_none.mpr fun j _ hj => hok j (by omega))

end ExecutorState

end ArcadiaTio.Ocb
