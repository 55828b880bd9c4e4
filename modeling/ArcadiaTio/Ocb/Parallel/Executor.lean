import ArcadiaTio.Lib.EventCount

/-!
# The bounded ordered executor

Workers take row-group ordinals from a bounded task queue, read and prepare them, and send the
results through a bounded channel; the coordinator admits ordinals, collects the results and
commits them in order.  This module has the states of the parties and the steps each of them can
take between two accesses to shared memory.
-/

namespace ArcadiaTio.Ocb

open ArcadiaTio.Lib

/-! ### What one invocation is given -/

/-- How results are committed: as they come in order, or window by window. -/
inductive OrderedCommitMode
  | sliding | windowed
deriving DecidableEq

/-- What a visitor or a commit callback answers. -/
inductive ColumnBundleVisitControl
  | continue | stop
deriving DecidableEq

/-- The tasks and the callbacks of one invocation.  A task is named by its ordinal; a panic of a
callback is one of its errors.  The commit callback has a state of its own. -/
structure BoundedOrdered (M T E S : Type) where
  mode : OrderedCommitMode
  taskCount : ℕ
  maxInFlight : ℕ
  taskQueueCapacity : ℕ
  resultQueueCapacity : ℕ
  rowCount : ℕ → ℕ
  read : ℕ → Except E M
  prepare : ℕ → M → Except E T
  orderedCommit : S → ℕ → T → S × Except E ColumnBundleVisitControl
  commitState : S

/-- What the coordinator returns: its report, the error of a callback, or one of its own errors. -/
inductive Outcome (E : Type)
  | completed (committed : ℕ) (cancelled : Bool)
  | failed (error : E)
  | workersEnded
  | duplicateOrdinal
deriving DecidableEq

/-- The outcome makes the workers stop. -/
def Outcome.cancels {E : Type} : Outcome E → Bool
  | .completed _ cancelled => cancelled
  | _ => true

/-- A result on its way to the coordinator: an ordinal and what became of it. -/
abbrev Message (T E : Type) := ℕ × Except E T

namespace BoundedOrdered

variable {M T E S : Type} (p : BoundedOrdered M T E S)

/-- What a worker makes of an ordinal. -/
def prepared (ordinal : ℕ) : Except E T := p.read ordinal >>= p.prepare ordinal

/-- The rows a worker counts for an ordinal: those of a successful read. -/
def decodedRows (ordinal : ℕ) : ℕ := if (p.read ordinal).isOk then p.rowCount ordinal else 0

/-- The end of the window that starts at `windowStart`. -/
def windowEnd (windowStart : ℕ) : ℕ := min (windowStart + p.maxInFlight) p.taskCount

/-- Progress notifications are on from the start unless a whole window fits both queues. -/
def progressNotificationsRequired : Bool :=
  p.mode = .sliding ∨ p.taskQueueCapacity < min p.maxInFlight p.taskCount ∨
    p.resultQueueCapacity < min p.maxInFlight p.taskCount

end BoundedOrdered

/-! ### Shared memory -/

/-- What the parties share: the task queue with the workers asleep on its condition variable, the
progress signal, the cancellation flag, the result channel, and the observations. -/
structure Shared (W : ℕ) (T E : Type) where
  tasks : List ℕ
  closed : Bool
  available : Finset (Fin W)
  progressNotifications : Bool
  progress : EventCount (Option (Fin W))
  cancelled : Bool
  results : List (Message T E)
  receiving : Bool
  activeWorkers : ℕ
  pendingResults : ℕ
  pendingRows : ℕ
  rowGroupsCompleted : ℕ

/-- What a party sees as the generation when it takes a snapshot. -/
def Shared.progressSnapshot {W : ℕ} {T E : Type} (sh : Shared W T E) : Option ℕ :=
  if sh.progressNotifications then some sh.progress.generation else none

/-! ### Workers -/

/-- Where a worker stands in its loop. -/
inductive WorkerPc (T E : Type)
  | pop
  | asleep
  | popped (stage : NotifyStage) (ordinal : ℕ)
  | running (ordinal : ℕ)
  | publish (message : Message T E)
  | snapshot (message : Message T E)
  | trySend (message : Message T E) (observed : Option ℕ)
  | wait (stage : WaitStage) (message : Message T E)
  | sent (stage : NotifyStage)
  | done

/-- The steps of worker `w`. -/
inductive WorkerStep {W : ℕ} {M T E S : Type} (p : BoundedOrdered M T E S) (w : Fin W)
    (sh : Shared W T E) : WorkerPc T E → Shared W T E → WorkerPc T E → Prop
  -- `TaskQueue::pop`, under the lock of the queue
  | popCancelled (h : sh.cancelled = true) : WorkerStep p w sh .pop sh .done
  | pop {i : ℕ} {rest : List ℕ} (h : sh.cancelled = false) (htasks : sh.tasks = i :: rest) :
      WorkerStep p w sh .pop { sh with tasks := rest } (.popped .bump i)
  | popClosed (h : sh.cancelled = false) (htasks : sh.tasks = []) (hclosed : sh.closed = true) :
      WorkerStep p w sh .pop sh .done
  | popSleep (h : sh.cancelled = false) (htasks : sh.tasks = []) (hclosed : sh.closed = false) :
      WorkerStep p w sh .pop { sh with available := insert w sh.available } .asleep
  | popWake (h : w ∉ sh.available) : WorkerStep p w sh .asleep sh .pop
  | popNotify {stage stage' : NotifyStage} {progress : EventCount (Option (Fin W))} {i : ℕ}
      (h : NotifyStep sh.progressNotifications sh.progress stage progress stage') :
      WorkerStep p w sh (.popped stage i) { sh with progress := progress } (.popped stage' i)
  -- the body of `worker_loop`
  | taskCancelled {i : ℕ} (h : sh.cancelled = true) :
      WorkerStep p w sh (.popped .finished i) sh .done
  | start {i : ℕ} (h : sh.cancelled = false) :
      WorkerStep p w sh (.popped .finished i) { sh with activeWorkers := sh.activeWorkers + 1 }
        (.running i)
  | run {i : ℕ} : WorkerStep p w sh (.running i)
      { sh with
        activeWorkers := sh.activeWorkers - 1
        rowGroupsCompleted := sh.rowGroupsCompleted + 1
        pendingResults := sh.pendingResults + 1
        pendingRows := sh.pendingRows + p.decodedRows i }
      (.publish (i, p.prepared i))
  | publishCancelled {m : Message T E} (h : sh.cancelled = true) :
      WorkerStep p w sh (.publish m) sh .done
  | publish {m : Message T E} (h : sh.cancelled = false) :
      WorkerStep p w sh (.publish m) sh (.snapshot m)
  | snapshot {m : Message T E} :
      WorkerStep p w sh (.snapshot m) sh (.trySend m sh.progressSnapshot)
  | sendDisconnected {m : Message T E} {observed : Option ℕ} (h : sh.receiving = false) :
      WorkerStep p w sh (.trySend m observed) sh .done
  | send {m : Message T E} {observed : Option ℕ} (h : sh.receiving = true)
      (hroom : sh.results.length < max 1 p.resultQueueCapacity) :
      WorkerStep p w sh (.trySend m observed) { sh with results := sh.results ++ [m] }
        (.sent .bump)
  | sendFull {m : Message T E} {g : ℕ} (h : sh.receiving = true)
      (hfull : ¬ sh.results.length < max 1 p.resultQueueCapacity) :
      WorkerStep p w sh (.trySend m (some g)) sh (.wait (.register g) m)
  | sendEnable {m : Message T E} (h : sh.receiving = true)
      (hfull : ¬ sh.results.length < max 1 p.resultQueueCapacity) :
      WorkerStep p w sh (.trySend m none) { sh with progressNotifications := true } (.publish m)
  | sendWait {m : Message T E} {stage stage' : WaitStage}
      {progress : EventCount (Option (Fin W))}
      (h : WaitStep (some w) sh.cancelled sh.progress stage progress stage') :
      WorkerStep p w sh (.wait stage m) { sh with progress := progress } (.wait stage' m)
  | sendRetry {m : Message T E} : WorkerStep p w sh (.wait (.finished true) m) sh (.publish m)
  | sendGiveUp {m : Message T E} : WorkerStep p w sh (.wait (.finished false) m) sh .done
  | sentNotify {stage stage' : NotifyStage} {progress : EventCount (Option (Fin W))}
      (h : NotifyStep sh.progressNotifications sh.progress stage progress stage') :
      WorkerStep p w sh (.sent stage) { sh with progress := progress } (.sent stage')
  | sentDone : WorkerStep p w sh (.sent .finished) sh .pop

/-! ### The coordinator -/

/-- What is left to do after the coordinator has returned. -/
inductive ShutdownStage
  | cancel
  | close
  | notify (stage : NotifyStage)
  | dropReceiver
  | join
  | finished
deriving DecidableEq

/-- Where the coordinator stands. -/
inductive CoordinatorPc (T E : Type)
  | head
  | pushWindow
  | notifyAll
  | fill
  | snapshot
  | tryPush (observed : Option ℕ)
  | notifyOne
  | close
  | closed (stage : NotifyStage)
  | tryRecv (observed : Option ℕ)
  | wait (stage : WaitStage)
  | collect
  | recv
  | received (stage : NotifyStage) (message : Message T E)
  | commit
  | returned (stage : ShutdownStage) (outcome : Outcome E)

/-- The coordinator has returned. -/
def CoordinatorPc.hasReturned {T E : Type} : CoordinatorPc T E → Bool
  | .returned _ _ => true
  | _ => false

/-- The coordinator: its place, its variables, the state of the commit callback, and the ordinals
the callback was called with so far. -/
structure Coordinator (T E S : Type) where
  pc : CoordinatorPc T E
  nextToQueue : ℕ
  nextToCommit : ℕ
  windowStart : ℕ
  pending : List (Message T E)
  stopLaunching : Bool
  commitState : S
  calls : List ℕ

namespace Coordinator

variable {M T E S : Type} (p : BoundedOrdered M T E S) (c : Coordinator T E S)

/-- Return from the coordination. -/
def finishWith (outcome : Outcome E) : Coordinator T E S :=
  { c with pc := .returned .cancel outcome }

/-- Sliding mode: another ordinal may be admitted. -/
def CanQueue : Prop :=
  c.stopLaunching = false ∧ c.nextToQueue < p.taskCount ∧
    c.nextToQueue - c.nextToCommit < p.maxInFlight

/-- Go on after a failed attempt to push: at the head of the loop that pushes. -/
def retryPush : Coordinator T E S :=
  { c with pc := match p.mode with | .sliding => .head | .windowed => .fill }

/-- Go on after a push. -/
def afterPush : Coordinator T E S :=
  { c with pc := match p.mode with
    | .sliding => if c.nextToQueue = p.taskCount then .close else .head
    | .windowed => .fill }

/-- Go on after the queue is closed. -/
def afterClose : Coordinator T E S :=
  { c with pc := match p.mode with | .sliding => .head | .windowed => .collect }

/-- Store a received result and go on with the loop that received it. -/
def insertPending (m : Message T E) : Coordinator T E S :=
  { c with
    pending := m :: c.pending
    stopLaunching := c.stopLaunching || !m.2.isOk
    pc := match p.mode with
      | .sliding => .head
      | .windowed => if c.nextToQueue < p.windowEnd c.windowStart then .fill else .collect }

/-- Take the result of the next ordinal out of the pending ones and commit it. -/
def commitNext (prepared : Except E T) : Coordinator T E S :=
  let c := { c with pending := c.pending.filter (·.1 ≠ c.nextToCommit) }
  match prepared with
  | .error error => c.finishWith (.failed error)
  | .ok value =>
    let called := p.orderedCommit c.commitState c.nextToCommit value
    let c := { c with commitState := called.1, calls := c.calls ++ [c.nextToCommit] }
    match called.2 with
    | .error error => c.finishWith (.failed error)
    | .ok .continue => { c with nextToCommit := c.nextToCommit + 1 }
    | .ok .stop =>
      { c with nextToCommit := c.nextToCommit + 1 }.finishWith (.completed (c.nextToCommit + 1) true)

/-- The error of the first ordinal from `i` on, below `i + count`, whose result is a failure. -/
def firstError (i : ℕ) : ℕ → Option E
  | 0 => none
  | count + 1 => match c.pending.lookup i with
    | some (.error error) => some error
    | _ => firstError (i + 1) count

end Coordinator

/-- The commit of an ordinal succeeded, in the account of the observations. -/
def Shared.resultCommitted {W : ℕ} {T E : Type} (sh : Shared W T E) (rows : ℕ) : Shared W T E :=
  { sh with pendingRows := sh.pendingRows - rows, pendingResults := sh.pendingResults - 1 }

/-- The observations after the next ordinal has been committed. -/
def Shared.afterCommit {W : ℕ} {M T E S : Type} (sh : Shared W T E) (p : BoundedOrdered M T E S)
    (c : Coordinator T E S) (prepared : Except E T) : Shared W T E :=
  match prepared with
  | .error _ => sh
  | .ok value =>
    if (p.orderedCommit c.commitState c.nextToCommit value).2.isOk then
      sh.resultCommitted (p.rowCount c.nextToCommit)
    else sh

/-- The steps of the coordinator; `ended` says that all workers have ended. -/
inductive CoordinatorStep {W : ℕ} {M T E S : Type} (p : BoundedOrdered M T E S) (ended : Prop)
    (sh : Shared W T E) (c : Coordinator T E S) : Shared W T E → Coordinator T E S → Prop
  -- `coordinate_sliding_ordered_commit`
  | slidingDone (hpc : c.pc = .head) (hmode : p.mode = .sliding)
      (hdone : p.taskCount ≤ c.nextToCommit) :
      CoordinatorStep p ended sh c sh (c.finishWith (.completed c.nextToCommit false))
  | slidingCommit {prepared : Except E T} (hpc : c.pc = .head) (hmode : p.mode = .sliding)
      (hnext : c.nextToCommit < p.taskCount)
      (hpending : c.pending.lookup c.nextToCommit = some prepared) :
      CoordinatorStep p ended sh c (sh.afterCommit p c prepared) (c.commitNext p prepared)
  | slidingAdmit (hpc : c.pc = .head) (hmode : p.mode = .sliding)
      (hnext : c.nextToCommit < p.taskCount) (hpending : c.pending.lookup c.nextToCommit = none)
      (hqueue : c.CanQueue p) : CoordinatorStep p ended sh c sh { c with pc := .snapshot }
  | slidingAwait (hpc : c.pc = .head) (hmode : p.mode = .sliding)
      (hnext : c.nextToCommit < p.taskCount) (hpending : c.pending.lookup c.nextToCommit = none)
      (hqueue : ¬ c.CanQueue p) : CoordinatorStep p ended sh c sh { c with pc := .recv }
  -- `coordinate_windowed_ordered_commit`
  | windowedDone (hpc : c.pc = .head) (hmode : p.mode = .windowed)
      (hdone : p.taskCount ≤ c.windowStart) :
      CoordinatorStep p ended sh c sh (c.finishWith (.completed c.nextToCommit false))
  | windowStart (hpc : c.pc = .head) (hmode : p.mode = .windowed)
      (hnext : c.windowStart < p.taskCount) :
      CoordinatorStep p ended sh c sh
        { c with
          nextToQueue := c.windowStart
          pc := if sh.progressNotifications then .fill else .pushWindow }
  | pushWindowClosed (hpc : c.pc = .pushWindow) (hclosed : sh.closed = true) :
      CoordinatorStep p ended sh c sh (c.finishWith .workersEnded)
  | pushWindowFull (hpc : c.pc = .pushWindow) (hclosed : sh.closed = false)
      (hfull : p.windowEnd c.windowStart - c.windowStart >
        max 1 p.taskQueueCapacity - sh.tasks.length) :
      CoordinatorStep p ended sh c { sh with progressNotifications := true } { c with pc := .fill }
  | pushWindow (hpc : c.pc = .pushWindow) (hclosed : sh.closed = false)
      (hroom : ¬ p.windowEnd c.windowStart - c.windowStart >
        max 1 p.taskQueueCapacity - sh.tasks.length) :
      CoordinatorStep p ended sh c
        { sh with tasks := sh.tasks ++
            List.range' c.windowStart (p.windowEnd c.windowStart - c.windowStart) }
        { c with pc := .notifyAll, nextToQueue := p.windowEnd c.windowStart }
  | notifyAll (hpc : c.pc = .notifyAll) :
      CoordinatorStep p ended sh c { sh with available := ∅ } { c with pc := .fill }
  | fill (hpc : c.pc = .fill) (hnext : c.nextToQueue < p.windowEnd c.windowStart) :
      CoordinatorStep p ended sh c sh { c with pc := .snapshot }
  | filled (hpc : c.pc = .fill) (hnext : ¬ c.nextToQueue < p.windowEnd c.windowStart) :
      CoordinatorStep p ended sh c sh
        { c with pc := if p.windowEnd c.windowStart = p.taskCount then .close else .collect }
  | collect (hpc : c.pc = .collect)
      (hmissing : c.pending.length < p.windowEnd c.windowStart - c.windowStart) :
      CoordinatorStep p ended sh c sh { c with pc := .recv }
  | windowFailed {error : E} (hpc : c.pc = .collect)
      (hall : ¬ c.pending.length < p.windowEnd c.windowStart - c.windowStart)
      (herror : c.firstError c.windowStart (p.windowEnd c.windowStart - c.windowStart) =
        some error) :
      CoordinatorStep p ended sh c sh (c.finishWith (.failed error))
  | windowReady (hpc : c.pc = .collect)
      (hall : ¬ c.pending.length < p.windowEnd c.windowStart - c.windowStart)
      (herror : c.firstError c.windowStart (p.windowEnd c.windowStart - c.windowStart) = none) :
      CoordinatorStep p ended sh c sh { c with pc := .commit }
  | windowCommit {prepared : Except E T} (hpc : c.pc = .commit)
      (hnext : c.nextToCommit < p.windowEnd c.windowStart)
      (hpending : c.pending.lookup c.nextToCommit = some prepared) :
      CoordinatorStep p ended sh c (sh.afterCommit p c prepared) (c.commitNext p prepared)
  | windowMissing (hpc : c.pc = .commit) (hnext : c.nextToCommit < p.windowEnd c.windowStart)
      (hpending : c.pending.lookup c.nextToCommit = none) :
      CoordinatorStep p ended sh c sh (c.finishWith .workersEnded)
  | windowNext (hpc : c.pc = .commit) (hnext : ¬ c.nextToCommit < p.windowEnd c.windowStart) :
      CoordinatorStep p ended sh c sh
        { c with pc := .head, windowStart := c.windowStart + p.maxInFlight }
  -- one push attempt, with the wait for progress when the queue is full
  | snapshot (hpc : c.pc = .snapshot) :
      CoordinatorStep p ended sh c sh { c with pc := .tryPush sh.progressSnapshot }
  | pushClosed {observed : Option ℕ} (hpc : c.pc = .tryPush observed) (hclosed : sh.closed = true) :
      CoordinatorStep p ended sh c sh (c.finishWith .workersEnded)
  | pushFull {observed : Option ℕ} (hpc : c.pc = .tryPush observed) (hclosed : sh.closed = false)
      (hfull : max 1 p.taskQueueCapacity ≤ sh.tasks.length) :
      CoordinatorStep p ended sh c sh { c with pc := .tryRecv observed }
  | push {observed : Option ℕ} (hpc : c.pc = .tryPush observed) (hclosed : sh.closed = false)
      (hroom : ¬ max 1 p.taskQueueCapacity ≤ sh.tasks.length) :
      CoordinatorStep p ended sh c { sh with tasks := sh.tasks ++ [c.nextToQueue] }
        { c with pc := .notifyOne, nextToQueue := c.nextToQueue + 1 }
  | notifyNobody (hpc : c.pc = .notifyOne) (hnobody : sh.available = ∅) :
      CoordinatorStep p ended sh c sh (c.afterPush p)
  | notifyOne {w : Fin W} (hpc : c.pc = .notifyOne) (hw : w ∈ sh.available) :
      CoordinatorStep p ended sh c { sh with available := sh.available.erase w } (c.afterPush p)
  | tryRecv {observed : Option ℕ} {m : Message T E} {rest : List (Message T E)}
      (hpc : c.pc = .tryRecv observed) (hresults : sh.results = m :: rest) :
      CoordinatorStep p ended sh c { sh with results := rest } { c with pc := .received .bump m }
  | tryRecvDisconnected {observed : Option ℕ} (hpc : c.pc = .tryRecv observed)
      (hresults : sh.results = []) (hended : ended) :
      CoordinatorStep p ended sh c sh (c.finishWith .workersEnded)
  | tryRecvWait {g : ℕ} (hpc : c.pc = .tryRecv (some g)) (hresults : sh.results = [])
      (hended : ¬ ended) : CoordinatorStep p ended sh c sh { c with pc := .wait (.register g) }
  | tryRecvEnable (hpc : c.pc = .tryRecv none) (hresults : sh.results = []) (hended : ¬ ended) :
      CoordinatorStep p ended sh c { sh with progressNotifications := true } (c.retryPush p)
  | wait {stage stage' : WaitStage} {progress : EventCount (Option (Fin W))}
      (hpc : c.pc = .wait stage)
      (h : WaitStep none sh.cancelled sh.progress stage progress stage') :
      CoordinatorStep p ended sh c { sh with progress := progress } { c with pc := .wait stage' }
  | waited {live : Bool} (hpc : c.pc = .wait (.finished live)) :
      CoordinatorStep p ended sh c sh (c.retryPush p)
  -- `TaskQueue::close`
  | close (hpc : c.pc = .close) :
      CoordinatorStep p ended sh c { sh with closed := true, available := ∅ }
        { c with pc := .closed .bump }
  | closeNotify {stage stage' : NotifyStage} {progress : EventCount (Option (Fin W))}
      (hpc : c.pc = .closed stage)
      (h : NotifyStep sh.progressNotifications sh.progress stage progress stage') :
      CoordinatorStep p ended sh c { sh with progress := progress } { c with pc := .closed stage' }
  | closeDone (hpc : c.pc = .closed .finished) : CoordinatorStep p ended sh c sh (c.afterClose p)
  -- a blocking receive, and the insertion of what was received
  | recv {m : Message T E} {rest : List (Message T E)} (hpc : c.pc = .recv)
      (hresults : sh.results = m :: rest) :
      CoordinatorStep p ended sh c { sh with results := rest } { c with pc := .received .bump m }
  | recvDisconnected (hpc : c.pc = .recv) (hresults : sh.results = []) (hended : ended) :
      CoordinatorStep p ended sh c sh (c.finishWith .workersEnded)
  | receivedNotify {stage stage' : NotifyStage} {m : Message T E}
      {progress : EventCount (Option (Fin W))} (hpc : c.pc = .received stage m)
      (h : NotifyStep sh.progressNotifications sh.progress stage progress stage') :
      CoordinatorStep p ended sh c { sh with progress := progress }
        { c with pc := .received stage' m }
  | received {m : Message T E} (hpc : c.pc = .received .finished m)
      (hnew : c.pending.lookup m.1 = none) :
      CoordinatorStep p ended sh c sh (c.insertPending p m)
  | receivedTwice {m : Message T E} {r : Except E T} (hpc : c.pc = .received .finished m)
      (hold : c.pending.lookup m.1 = some r) :
      CoordinatorStep p ended sh c sh (c.finishWith .duplicateOrdinal)
  -- the end of `execute_bounded_ordered_with_runtime`
  | cancel {outcome : Outcome E} (hpc : c.pc = .returned .cancel outcome) :
      CoordinatorStep p ended sh c { sh with cancelled := sh.cancelled || outcome.cancels }
        { c with pc := .returned .close outcome }
  | shutdownClose {outcome : Outcome E} (hpc : c.pc = .returned .close outcome) :
      CoordinatorStep p ended sh c { sh with closed := true, available := ∅ }
        { c with pc := .returned (.notify .bump) outcome }
  | shutdownNotify {stage stage' : NotifyStage} {outcome : Outcome E}
      {progress : EventCount (Option (Fin W))} (hpc : c.pc = .returned (.notify stage) outcome)
      (h : NotifyStep sh.progressNotifications sh.progress stage progress stage') :
      CoordinatorStep p ended sh c { sh with progress := progress }
        { c with pc := .returned (.notify stage') outcome }
  | shutdownNotified {outcome : Outcome E} (hpc : c.pc = .returned (.notify .finished) outcome) :
      CoordinatorStep p ended sh c sh { c with pc := .returned .dropReceiver outcome }
  | dropReceiver {outcome : Outcome E} (hpc : c.pc = .returned .dropReceiver outcome) :
      CoordinatorStep p ended sh c { sh with receiving := false, results := [] }
        { c with pc := .returned .join outcome }
  | join {outcome : Outcome E} (hpc : c.pc = .returned .join outcome) (hended : ended) :
      CoordinatorStep p ended sh c sh { c with pc := .returned .finished outcome }

/-! ### The whole system -/

/-- A state of the executor with `W` workers. -/
structure ExecutorState (W : ℕ) (T E S : Type) where
  shared : Shared W T E
  workers : Fin W → WorkerPc T E
  coordinator : Coordinator T E S

namespace ExecutorState

variable {W : ℕ} {M T E S : Type}

/-- The state in which all workers are started and the coordinator begins. -/
def initial (W : ℕ) (p : BoundedOrdered M T E S) : ExecutorState W T E S where
  shared :=
    { tasks := [], closed := false, available := ∅
      progressNotifications := p.progressNotificationsRequired
      progress := { generation := 0, waiters := 0, sleeping := ∅ }
      cancelled := false, results := [], receiving := true
      activeWorkers := 0, pendingResults := 0, pendingRows := 0, rowGroupsCompleted := 0 }
  workers := fun _ => .pop
  coordinator :=
    { pc := .head, nextToQueue := 0, nextToCommit := 0, windowStart := 0, pending := []
      stopLaunching := false, commitState := p.commitState, calls := [] }

/-- A party takes a step of its program. -/
inductive Act (p : BoundedOrdered M T E S) (s : ExecutorState W T E S) :
    ExecutorState W T E S → Prop
  | worker (w : Fin W) {sh : Shared W T E} {pc : WorkerPc T E}
      (h : WorkerStep p w s.shared (s.workers w) sh pc) :
      Act p s { s with shared := sh, workers := Function.update s.workers w pc }
  | coordinator {sh : Shared W T E} {c : Coordinator T E S}
      (h : CoordinatorStep p (∀ w, s.workers w = .done) s.shared s.coordinator sh c) :
      Act p s { s with shared := sh, coordinator := c }

/-- A sleeping party wakes up without having been notified. -/
inductive SpuriousWake (s : ExecutorState W T E S) : ExecutorState W T E S → Prop
  | available {w : Fin W} (h : w ∈ s.shared.available) : SpuriousWake s
      { s with shared := { s.shared with available := s.shared.available.erase w } }
  | progress {x : Option (Fin W)} (h : x ∈ s.shared.progress.sleeping) : SpuriousWake s
      { s with shared := { s.shared with progress :=
        { s.shared.progress with sleeping := s.shared.progress.sleeping.erase x } } }

/-- One step of the system. -/
def Step (p : BoundedOrdered M T E S) (s t : ExecutorState W T E S) : Prop :=
  Act p s t ∨ SpuriousWake s t

/-- The states that some interleaving reaches. -/
def Reachable (p : BoundedOrdered M T E S) (s : ExecutorState W T E S) : Prop :=
  Relation.ReflTransGen (Step p) (initial W p) s

end ExecutorState

end ArcadiaTio.Ocb
