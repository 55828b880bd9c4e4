import ArcadiaTio.Ocb.Parallel.Ordered
import Mathlib.Data.Fintype.Option

/-!
# No deadlock

A party that sleeps has something to wait for: a worker sleeps on an empty task queue, or waits for
room in a full result channel; the coordinator waits while the task queue is full and the channel
is empty.  Every change it waits for is followed by a notification that it does not miss.  So as
long as the executor has not finished, some party has a step to take.
-/

namespace ArcadiaTio.Ocb

open ArcadiaTio.Lib

variable {W : ℕ} {M T E S : Type} {p : BoundedOrdered M T E S}

/-! ### The parties of the progress signal -/

/-- What a worker does on the progress signal. -/
def WorkerPc.stage : WorkerPc T E → Stage
  | .popped stage _ | .sent stage => .notify stage
  | .wait stage _ => .wait stage
  | _ => .idle

/-- The generation that a worker has observed and not given up yet. -/
def WorkerPc.observed : WorkerPc T E → Option ℕ
  | .trySend _ observed => observed
  | .wait stage _ => stage.observed
  | _ => none

/-- What the coordinator does on the progress signal. -/
def CoordinatorPc.stage : CoordinatorPc T E → Stage
  | .closed stage | .received stage _ | .returned (.notify stage) _ => .notify stage
  | .wait stage => .wait stage
  | _ => .idle

/-- The generation that the coordinator has taken a snapshot of. -/
def CoordinatorPc.observed : CoordinatorPc T E → Option ℕ
  | .tryPush observed | .tryRecv observed => observed
  | .wait stage => stage.observed
  | _ => none

/-- Only a waiting party has a stage of waiting. -/
lemma WorkerPc.eq_wait_of_stage {pc : WorkerPc T E} {st : WaitStage} (h : pc.stage = .wait st) :
    ∃ m, pc = .wait st m := by
  cases pc with
  | wait st' m =>
    cases h
    exact ⟨m, rfl⟩
  | _ => cases h

lemma CoordinatorPc.eq_wait_of_stage {pc : CoordinatorPc T E} {st : WaitStage}
    (h : pc.stage = .wait st) : pc = .wait st := by
  cases pc with
  | wait st' =>
    cases h
    rfl
  | returned stage outcome => cases stage <;> cases h
  | _ => cases h

namespace ExecutorState

/-- What each party does with the progress signal. -/
def stage (s : ExecutorState W T E S) : Option (Fin W) → Stage
  | none => s.coordinator.pc.stage
  | some w => (s.workers w).stage

lemma stage_worker (s : ExecutorState W T E S) (sh : Shared W T E) (w : Fin W)
    (pc : WorkerPc T E) :
    ({ s with shared := sh, workers := Function.update s.workers w pc } :
      ExecutorState W T E S).stage = Function.update s.stage (some w) pc.stage := by
  funext x
  rcases x with _ | v
  · rfl
  · by_cases hvw : v = w
    · subst hvw
      simp [stage]
    · rw [Function.update_of_ne (by simpa using hvw)]
      simp [stage, Function.update_of_ne hvw]

lemma stage_coordinator (s : ExecutorState W T E S) (sh : Shared W T E) (c : Coordinator T E S) :
    ({ s with shared := sh, coordinator := c } : ExecutorState W T E S).stage =
      Function.update s.stage none c.pc.stage := by
  funext x
  rcases x with _ | v
  · rfl
  · rfl

end ExecutorState

lemma quiet_idle : Stage.idle.Quiet := ⟨rfl, rfl⟩

lemma quiet_bump : (Stage.notify .bump).Quiet := ⟨rfl, rfl⟩

lemma quiet_notified : (Stage.notify .finished).Quiet := ⟨rfl, rfl⟩

lemma quiet_register (g : ℕ) : (Stage.wait (.register g)).Quiet := ⟨rfl, rfl⟩

lemma quiet_waited (live : Bool) : (Stage.wait (.finished live)).Quiet := ⟨rfl, rfl⟩

/-- A step of a worker is a step of a party of the progress signal. -/
lemma WorkerStep.party {w : Fin W} {sh sh' : Shared W T E} {pc pc' : WorkerPc T E}
    (h : WorkerStep p w sh pc sh' pc') :
    PartyStep (some w) sh.progressNotifications sh.cancelled sh.progress pc.stage sh'.progress
      pc'.stage := by
  cases h with
  | popNotify h | sentNotify h => exact .notify h
  | sendWait h => exact .wait h
  | pop => exact .quiet quiet_idle quiet_bump
  | taskCancelled | start | sentDone => exact .quiet quiet_notified quiet_idle
  | send => exact .quiet quiet_idle quiet_bump
  | sendFull => exact .quiet quiet_idle (quiet_register _)
  | sendRetry | sendGiveUp => exact .quiet (quiet_waited _) quiet_idle
  | _ => exact .quiet quiet_idle quiet_idle

/-- The generation a worker has observed is not ahead, and notifications are on. -/
lemma WorkerStep.observed {w : Fin W} {sh sh' : Shared W T E} {pc pc' : WorkerPc T E}
    (h : WorkerStep p w sh pc sh' pc') {g : ℕ} (hg : pc'.observed = some g) :
    pc.observed = some g ∨ g = sh'.progress.generation ∧ sh'.progressNotifications = true := by
  cases h with
  | snapshot =>
    simp only [WorkerPc.observed, Shared.progressSnapshot] at hg
    split at hg
    · next hon =>
      cases hg
      exact Or.inr ⟨rfl, hon⟩
    · cases hg
  | sendFull => exact Or.inl hg
  | sendWait h => exact Or.inl (h.observed hg)
  | _ => cases hg

lemma WorkerStep.notifications {w : Fin W} {sh sh' : Shared W T E} {pc pc' : WorkerPc T E}
    (h : WorkerStep p w sh pc sh' pc') (hon : sh.progressNotifications = true) :
    sh'.progressNotifications = true := by
  cases h <;> first | exact hon | rfl

/-- Places at which the coordinator has nothing to do with the progress signal. -/
def CoordinatorPc.plain : CoordinatorPc T E → Bool
  | .head | .pushWindow | .fill | .snapshot | .close | .collect | .recv | .commit => true
  | _ => false

section Coordinator

variable (c : Coordinator T E S)

lemma plain_retryPush : (c.retryPush p).pc.plain = true := by
  rw [Coordinator.retryPush]
  cases p.mode <;> rfl

lemma plain_afterPush : (c.afterPush p).pc.plain = true := by
  rw [Coordinator.afterPush]
  cases p.mode with
  | sliding =>
    dsimp only
    split <;> rfl
  | windowed => rfl

lemma plain_afterClose : (c.afterClose p).pc.plain = true := by
  rw [Coordinator.afterClose]
  cases p.mode <;> rfl

lemma plain_insertPending (m : Message T E) : (c.insertPending p m).pc.plain = true := by
  rw [Coordinator.insertPending]
  cases p.mode with
  | sliding => rfl
  | windowed =>
    dsimp only
    split <;> rfl

lemma stage_of_plain {pc : CoordinatorPc T E} (h : pc.plain = true) : pc.stage = .idle := by
  cases pc <;> first | rfl | cases h

lemma observed_of_plain {pc : CoordinatorPc T E} (h : pc.plain = true) : pc.observed = none := by
  cases pc <;> first | rfl | cases h

/-- The commit of an ordinal leaves the coordinator where it is, or makes it return. -/
lemma pc_commitNext (r : Except E T) :
    (c.commitNext p r).pc = c.pc ∨ ∃ outcome, (c.commitNext p r).pc = .returned .cancel outcome := by
  rcases r with error | value
  · exact Or.inr ⟨_, rfl⟩
  · rcases hcontrol : (p.orderedCommit c.commitState c.nextToCommit value).2 with error | _ | _
    · exact Or.inr ⟨.failed error, by
        simp only [Coordinator.commitNext, hcontrol, Coordinator.finishWith]⟩
    · exact Or.inl (by simp only [Coordinator.commitNext, hcontrol])
    · exact Or.inr ⟨.completed (c.nextToCommit + 1) true, by
        simp only [Coordinator.commitNext, hcontrol, Coordinator.finishWith]⟩

lemma stage_commitNext (r : Except E T) (h : c.pc.stage = .idle) :
    (c.commitNext p r).pc.stage = .idle := by
  rcases pc_commitNext (p := p) c r with hpc | ⟨outcome, hpc⟩
  · rw [hpc, h]
  · rw [hpc]
    rfl

end Coordinator

/-- A commit changes nothing but the account. -/
lemma Shared.afterCommit_eq (sh : Shared W T E) (c : Coordinator T E S) (r : Except E T) :
    sh.afterCommit p c r = sh ∨
      sh.afterCommit p c r = sh.resultCommitted (p.rowCount c.nextToCommit) := by
  rcases r with error | value
  · exact Or.inl rfl
  · simp only [Shared.afterCommit]
    split
    · exact Or.inr rfl
    · exact Or.inl rfl

/-- A step of the coordinator is a step of a party of the progress signal. -/
lemma CoordinatorStep.party {ended : Prop} {sh sh' : Shared W T E} {c c' : Coordinator T E S}
    (h : CoordinatorStep p ended sh c sh' c') :
    PartyStep none sh.progressNotifications sh.cancelled sh.progress c.pc.stage sh'.progress
      c'.pc.stage := by
  -- the steps that notify or wait are those of the party; for all others it is quiet
  cases h with
  | closeNotify hpc h | receivedNotify hpc h | shutdownNotify hpc h =>
    rw [hpc]
    exact .notify h
  | wait hpc h =>
    rw [hpc]
    exact .wait h
  | slidingCommit hpc | windowCommit hpc =>
    have hidle : c.pc.stage = .idle := by
      rw [hpc]
      rfl
    rw [hidle, stage_commitNext _ _ hidle]
    rcases sh.afterCommit_eq c _ with heq | heq <;> rw [heq] <;> exact .quiet quiet_idle quiet_idle
  | windowStart hpc =>
    rw [hpc]
    cases sh.progressNotifications <;> exact .quiet quiet_idle quiet_idle
  | filled hpc =>
    rw [hpc]
    dsimp only
    split <;> exact .quiet quiet_idle quiet_idle
  | notifyNobody hpc | notifyOne hpc =>
    rw [hpc, stage_of_plain (plain_afterPush c)]
    exact .quiet quiet_idle quiet_idle
  | tryRecvEnable hpc =>
    rw [hpc, stage_of_plain (plain_retryPush c)]
    exact .quiet quiet_idle quiet_idle
  | waited hpc =>
    rw [hpc, stage_of_plain (plain_retryPush c)]
    exact .quiet (quiet_waited _) quiet_idle
  | closeDone hpc =>
    rw [hpc, stage_of_plain (plain_afterClose c)]
    exact .quiet quiet_notified quiet_idle
  | received hpc =>
    rw [hpc, stage_of_plain (plain_insertPending c _)]
    exact .quiet quiet_notified quiet_idle
  | receivedTwice hpc | shutdownNotified hpc =>
    rw [hpc]
    exact .quiet quiet_notified quiet_idle
  | tryRecv hpc | close hpc | recv hpc | shutdownClose hpc =>
    rw [hpc]
    exact .quiet quiet_idle quiet_bump
  | tryRecvWait hpc =>
    rw [hpc]
    exact .quiet quiet_idle (quiet_register _)
  | slidingDone hpc | slidingAdmit hpc | slidingAwait hpc | windowedDone hpc | pushWindowClosed hpc
  | pushWindowFull hpc | pushWindow hpc | notifyAll hpc | fill hpc | collect hpc | windowFailed hpc
  | windowReady hpc | windowMissing hpc | windowNext hpc | snapshot hpc | pushClosed hpc
  | pushFull hpc | push hpc | tryRecvDisconnected hpc | recvDisconnected hpc | cancel hpc
  | dropReceiver hpc | join hpc =>
    rw [hpc]
    exact .quiet quiet_idle quiet_idle

/-- The generation the coordinator has observed is not ahead, and notifications are on. -/
lemma CoordinatorStep.observed {ended : Prop} {sh sh' : Shared W T E} {c c' : Coordinator T E S}
    (h : CoordinatorStep p ended sh c sh' c') {g : ℕ} (hg : c'.pc.observed = some g) :
    c.pc.observed = some g ∨ g = sh'.progress.generation ∧ sh'.progressNotifications = true := by
  cases h with
  | snapshot hpc =>
    simp only [CoordinatorPc.observed, Shared.progressSnapshot] at hg
    split at hg
    · next hon =>
      cases hg
      exact Or.inr ⟨rfl, hon⟩
    · cases hg
  | pushFull hpc | tryRecvWait hpc =>
    rw [hpc]
    exact Or.inl hg
  | wait hpc h =>
    rw [hpc]
    exact Or.inl (h.observed hg)
  | slidingCommit hpc | windowCommit hpc =>
    rcases pc_commitNext (p := p) c _ with heq | ⟨outcome, heq⟩ <;> rw [heq] at hg
    · exact Or.inl hg
    · cases hg
  | windowStart hpc =>
    cases hon : sh.progressNotifications <;> simp only [hon] at hg <;> cases hg
  | filled hpc =>
    dsimp only at hg
    split at hg <;> cases hg
  | notifyNobody | notifyOne =>
    rw [observed_of_plain (plain_afterPush c)] at hg
    cases hg
  | tryRecvEnable | waited =>
    rw [observed_of_plain (plain_retryPush c)] at hg
    cases hg
  | closeDone =>
    rw [observed_of_plain (plain_afterClose c)] at hg
    cases hg
  | received =>
    rw [observed_of_plain (plain_insertPending c _)] at hg
    cases hg
  | _ => cases hg

lemma CoordinatorStep.notifications {ended : Prop} {sh sh' : Shared W T E}
    {c c' : Coordinator T E S} (h : CoordinatorStep p ended sh c sh' c')
    (hon : sh.progressNotifications = true) : sh'.progressNotifications = true := by
  cases h with
  | slidingCommit | windowCommit =>
    rcases sh.afterCommit_eq (p := p) c _ with heq | heq <;> rw [heq] <;> exact hon
  | _ => first | exact hon | rfl

/-! ### Observed generations -/

namespace ExecutorState

/-- The progress signal is in order, and what the parties have observed is not ahead of it. -/
structure Signals (s : ExecutorState W T E S) : Prop where
  sound : s.shared.progress.Sound s.stage
  worker : ∀ w g, (s.workers w).observed = some g →
    g ≤ s.shared.progress.generation ∧ s.shared.progressNotifications = true
  coordinator : ∀ g, s.coordinator.pc.observed = some g →
    g ≤ s.shared.progress.generation ∧ s.shared.progressNotifications = true

variable {s t : ExecutorState W T E S}

lemma signals_initial : (initial W p).Signals where
  sound := by
    refine ⟨?_, fun x hx => absurd hx (Finset.notMem_empty x),
      fun x hx => absurd hx (Finset.notMem_empty x)⟩
    refine (Finset.sum_eq_zero fun x _ => ?_).symm
    rcases x with _ | w <;> rfl
  worker w g hg := by cases hg
  coordinator g hg := by cases hg

theorem Signals.step (h : s.Signals) (hstep : Step p s t) : t.Signals := by
  rcases hstep with hact | hwake
  · cases hact with
    | worker w hworker =>
      have hle := hworker.party.le_generation
      refine ⟨?_, fun v g hg => ?_, fun g hg => ?_⟩
      · rw [stage_worker]
        exact h.sound.step (x := some w) hworker.party
      · by_cases hvw : v = w
        · subst hvw
          simp only [Function.update_self] at hg
          rcases hworker.observed hg with hold | ⟨rfl, hon⟩
          · obtain ⟨hbound, hon⟩ := h.worker v g hold
            exact ⟨hbound.trans hle, hworker.notifications hon⟩
          · exact ⟨le_rfl, hon⟩
        · simp only [Function.update_of_ne hvw] at hg
          obtain ⟨hbound, hon⟩ := h.worker v g hg
          exact ⟨hbound.trans hle, hworker.notifications hon⟩
      · obtain ⟨hbound, hon⟩ := h.coordinator g hg
        exact ⟨hbound.trans hle, hworker.notifications hon⟩
    | coordinator hcoordinator =>
      have hle := hcoordinator.party.le_generation
      refine ⟨?_, fun v g hg => ?_, fun g hg => ?_⟩
      · rw [stage_coordinator]
        exact h.sound.step (x := none) hcoordinator.party
      · obtain ⟨hbound, hon⟩ := h.worker v g hg
        exact ⟨hbound.trans hle, hcoordinator.notifications hon⟩
      · rcases hcoordinator.observed hg with hold | ⟨rfl, hon⟩
        · obtain ⟨hbound, hon⟩ := h.coordinator g hold
          exact ⟨hbound.trans hle, hcoordinator.notifications hon⟩
        · exact ⟨le_rfl, hon⟩
  · cases hwake with
    | available => exact ⟨h.sound, h.worker, h.coordinator⟩
    | progress => exact ⟨h.sound.erase _, h.worker, h.coordinator⟩

end ExecutorState

/-! ### Workers asleep on the task queue -/

/-- A worker that will look at the task queue without being notified any more. -/
def WorkerPc.awake (available : Finset (Fin W)) (w : Fin W) : WorkerPc T E → Bool
  | .pop => true
  | .asleep => w ∉ available
  | _ => false

/-- The coordinator is about to notify one worker. -/
def CoordinatorPc.notifiesOne : CoordinatorPc T E → Bool
  | .notifyOne => true
  | _ => false

/-- The coordinator is about to notify all workers. -/
def CoordinatorPc.notifiesAll : CoordinatorPc T E → Bool
  | .notifyAll => true
  | _ => false

namespace ExecutorState

/-- The number of workers that will look at the task queue. -/
def awake (s : ExecutorState W T E S) : ℕ :=
  ∑ w, ((s.workers w).awake s.shared.available w).toNat

/-- While a worker sleeps, there are no more tasks than workers that will look at the queue, the
one that is about to be notified included. -/
structure Wakeups (s : ExecutorState W T E S) : Prop where
  asleep : ∀ w ∈ s.shared.available, s.workers w = .asleep
  closed : s.shared.closed = true → s.shared.available = ∅
  awake : s.coordinator.pc.hasReturned = false → s.coordinator.pc.notifiesAll = false →
    s.shared.available.Nonempty →
      s.shared.tasks.length ≤ s.awake + s.coordinator.pc.notifiesOne.toNat

variable {s t : ExecutorState W T E S}

lemma wakeups_initial : (initial W p).Wakeups where
  asleep w hw := absurd hw (Finset.notMem_empty w)
  closed _ := rfl
  awake _ _ h := absurd h Finset.not_nonempty_empty

/-- The number of workers that will look at the queue, after one has moved. -/
lemma awake_update (sh : Shared W T E) {w : Fin W} (pc : WorkerPc T E)
    (hother : ∀ v, v ≠ w → (v ∈ sh.available ↔ v ∈ s.shared.available)) :
    ({ s with shared := sh, workers := Function.update s.workers w pc } :
        ExecutorState W T E S).awake + ((s.workers w).awake s.shared.available w).toNat =
      s.awake + (pc.awake sh.available w).toNat := by
  have hsum := sum_add_of_eq_off
    (f := fun v => ((s.workers v).awake s.shared.available v).toNat)
    (g := fun v => ((Function.update s.workers w pc v).awake sh.available v).toNat)
    (i := w) fun v hv => by
      rw [Function.update_of_ne hv]
      cases s.workers v <;> simp only [WorkerPc.awake, hother v hv]
  simp only [Function.update_self] at hsum
  exact hsum

/-- Waking a sleeper adds a worker that will look at the queue. -/
lemma awake_erase (s : ExecutorState W T E S) {w : Fin W} (hw : w ∈ s.shared.available)
    (hpc : s.workers w = .asleep) (c : Coordinator T E S) :
    ({ s with
        shared := { s.shared with available := s.shared.available.erase w }
        coordinator := c } : ExecutorState W T E S).awake = s.awake + 1 := by
  have hsum := sum_add_of_eq_off
    (f := fun v => ((s.workers v).awake s.shared.available v).toNat)
    (g := fun v => ((s.workers v).awake (s.shared.available.erase w) v).toNat)
    (i := w) fun v hv => by
      cases s.workers v <;> simp only [WorkerPc.awake, Finset.mem_erase, ne_eq, hv,
        not_false_eq_true, true_and]
  simp only [hpc, WorkerPc.awake, hw, Finset.notMem_erase, not_true_eq_false, decide_false,
    not_false_eq_true, decide_true, Bool.toNat_false, Bool.toNat_true, add_zero] at hsum
  exact hsum

/-- A step of a worker that is awake keeps the balance of tasks and workers. -/
lemma Wakeups.worker (h : s.Wakeups) (hcancelled : s.coordinator.pc.hasReturned = false →
      s.shared.cancelled = false) {w : Fin W} {sh : Shared W T E} {pc : WorkerPc T E}
    (hstep : WorkerStep p w s.shared (s.workers w) sh pc) :
    ({ s with shared := sh, workers := Function.update s.workers w pc } :
      ExecutorState W T E S).Wakeups := by
  have hnot : s.workers w ≠ .asleep → ∀ v ∈ s.shared.available, v ≠ w := by
    rintro hw v hv rfl
    exact hw (h.asleep v hv)
  generalize hpc : s.workers w = old at hstep
  -- without a new sleeper only the balance of tasks and workers is left to check
  have hkeep : ∀ sh' : Shared W T E, sh'.available = s.shared.available →
      sh'.closed = s.shared.closed → ∀ pc' : WorkerPc T E,
      (∀ v ∈ s.shared.available, v ≠ w) →
      (s.coordinator.pc.hasReturned = false → s.shared.available.Nonempty →
        sh'.tasks.length + (old.awake s.shared.available w).toNat ≤
          s.shared.tasks.length + (pc'.awake s.shared.available w).toNat) →
      ({ s with shared := sh', workers := Function.update s.workers w pc' } :
        ExecutorState W T E S).Wakeups := by
    intro sh' havailable hclosed pc' hne hbalance
    refine ⟨fun v hv => ?_, fun hc => ?_, fun hworks hall hsome => ?_⟩
    · rw [havailable] at hv
      show Function.update s.workers w pc' v = .asleep
      rw [Function.update_of_ne (hne v hv)]
      exact h.asleep v hv
    · rw [havailable]
      exact h.closed (hclosed ▸ hc)
    · have hsum := awake_update (s := s) sh' (w := w) pc'
        fun v _ => by rw [havailable]
      rw [hpc, havailable] at hsum
      rw [havailable] at hsome
      have hold := h.awake hworks hall hsome
      have hbalance := hbalance hworks hsome
      show sh'.tasks.length ≤ _ + s.coordinator.pc.notifiesOne.toNat
      omega
  have hsame : old ≠ .asleep → ∀ sh' : Shared W T E, sh'.available = s.shared.available →
      sh'.closed = s.shared.closed → sh'.tasks = s.shared.tasks → ∀ pc' : WorkerPc T E,
      (old.awake s.shared.available w).toNat ≤ (pc'.awake s.shared.available w).toNat →
      ({ s with shared := sh', workers := Function.update s.workers w pc' } :
        ExecutorState W T E S).Wakeups := by
    intro hold sh' havailable hclosed htasks pc' hle
    refine hkeep sh' havailable hclosed pc' (hnot (hpc ▸ hold)) fun _ _ => ?_
    rw [htasks]
    exact Nat.add_le_add_left hle _
  cases hstep with
  | popCancelled hc =>
    refine hkeep _ (by rfl) (by rfl) _ (hnot (by rw [hpc]; rintro ⟨⟩)) fun hworks _ => ?_
    rw [hcancelled hworks] at hc
    cases hc
  | pop _ htasks =>
    refine hkeep _ (by rfl) (by rfl) _ (hnot (by rw [hpc]; rintro ⟨⟩)) fun _ _ => ?_
    rw [htasks]
    exact le_rfl
  | popClosed _ _ hclosed =>
    refine hkeep _ (by rfl) (by rfl) _ (hnot (by rw [hpc]; rintro ⟨⟩)) fun _ hsome => ?_
    rw [h.closed hclosed] at hsome
    exact absurd hsome Finset.not_nonempty_empty
  | popSleep _ htasks hclosed =>
    refine ⟨fun v hv => ?_, fun hc => ?_, fun _ _ _ => ?_⟩
    · show Function.update s.workers w .asleep v = .asleep
      by_cases hvw : v = w
      · subst hvw
        exact Function.update_self ..
      · rw [Function.update_of_ne hvw]
        exact h.asleep v (Finset.mem_of_mem_insert_of_ne hv hvw)
    · rw [show s.shared.closed = true from hc] at hclosed
      cases hclosed
    · show s.shared.tasks.length ≤ _
      rw [htasks]
      exact Nat.zero_le _
  | popWake hw =>
    refine hkeep _ (by rfl) (by rfl) _ (fun v hv => ?_) fun _ _ => ?_
    · rintro rfl
      exact hw hv
    · simp only [WorkerPc.awake, hw, not_false_eq_true, decide_true]
      exact le_rfl
  | _ => exact hsame (by rintro ⟨⟩) _ (by rfl) (by rfl) (by rfl) _ (Nat.zero_le _)

/-- A step of the coordinator keeps the balance of tasks and workers. -/
lemma Wakeups.coordinator (h : s.Wakeups) {ended : Prop} {sh : Shared W T E}
    {c : Coordinator T E S} (hstep : CoordinatorStep p ended s.shared s.coordinator sh c) :
    ({ s with shared := sh, coordinator := c } : ExecutorState W T E S).Wakeups := by
  -- what leaves the queue and its sleepers alone keeps everything
  have hkeep : ∀ sh' : Shared W T E, sh'.available = s.shared.available →
      sh'.closed = s.shared.closed → sh'.tasks = s.shared.tasks →
      ∀ c' : Coordinator T E S, s.coordinator.pc.hasReturned ≤ c'.pc.hasReturned →
      s.coordinator.pc.notifiesAll = false → s.coordinator.pc.notifiesOne = false →
      ({ s with shared := sh', coordinator := c' } : ExecutorState W T E S).Wakeups := by
    intro sh' havailable hclosed htasks c' hreturned hall hone
    refine ⟨fun v hv => h.asleep v (havailable ▸ hv), fun hc => ?_, fun hworks _ hsome => ?_⟩
    · rw [havailable]
      exact h.closed (hclosed ▸ hc)
    · have hworks' : s.coordinator.pc.hasReturned = false := by
        rw [show c'.pc.hasReturned = false from hworks] at hreturned
        exact Bool.eq_false_of_le_false hreturned
      have hold := h.awake hworks' hall (havailable ▸ hsome)
      rw [hone] at hold
      have hawake : ({ s with shared := sh', coordinator := c' } : ExecutorState W T E S).awake =
          s.awake := by
        simp only [ExecutorState.awake, havailable]
      show sh'.tasks.length ≤ _ + c'.pc.notifiesOne.toNat
      rw [hawake, htasks]
      exact hold.trans (Nat.add_le_add_left (Nat.zero_le _) _)
  have hempty : ∀ sh' : Shared W T E, sh'.available = ∅ → ∀ c' : Coordinator T E S,
      ({ s with shared := sh', coordinator := c' } : ExecutorState W T E S).Wakeups := by
    intro sh' havailable c'
    refine ⟨fun v hv => ?_, fun _ => havailable, fun _ _ hsome => ?_⟩
    · rw [havailable] at hv
      exact absurd hv (Finset.notMem_empty v)
    · rw [havailable] at hsome
      exact absurd hsome Finset.not_nonempty_empty
  cases hstep with
  | notifyAll | close | shutdownClose => exact hempty _ (by rfl) _
  | notifyNobody hpc hnobody => exact hempty s.shared hnobody _
  | pushWindow hpc hclosed =>
    refine ⟨h.asleep, h.closed, fun _ hall => by cases hall⟩
  | push hpc hclosed =>
    refine ⟨h.asleep, h.closed, fun _ _ hsome => ?_⟩
    have hold := h.awake (by rw [hpc]; rfl) (by rw [hpc]; rfl) hsome
    rw [hpc] at hold
    show (s.shared.tasks ++ [s.coordinator.nextToQueue]).length ≤ s.awake + 1
    rw [List.length_append]
    exact Nat.succ_le_succ hold
  | @notifyOne w hpc hw =>
    refine ⟨fun v hv => h.asleep v (Finset.mem_of_mem_erase hv), fun hc => ?_, fun _ _ _ => ?_⟩
    · have hnone := h.closed hc
      rw [hnone] at hw
      exact absurd hw (Finset.notMem_empty w)
    · have hold := h.awake (by rw [hpc]; rfl) (by rw [hpc]; rfl) ⟨w, hw⟩
      rw [hpc] at hold
      have hawake := s.awake_erase hw (h.asleep w hw) (s.coordinator.afterPush p)
      show s.shared.tasks.length ≤ _ + _
      exact hold.trans ((le_of_eq hawake.symm).trans (Nat.le_add_right _ _))
  | @slidingCommit r hpc | @windowCommit r hpc =>
    have hreturned : s.coordinator.pc.hasReturned ≤
        (s.coordinator.commitNext p r).pc.hasReturned := by
      rw [hpc]
      exact Bool.false_le _
    rcases s.shared.afterCommit_eq (p := p) s.coordinator r with heq | heq <;> rw [heq] <;>
      exact hkeep _ (by rfl) (by rfl) (by rfl) _ hreturned (by rw [hpc]; rfl) (by rw [hpc]; rfl)
  | slidingDone hpc | slidingAdmit hpc | slidingAwait hpc | windowedDone hpc | windowStart hpc
  | pushWindowClosed hpc | pushWindowFull hpc | fill hpc | filled hpc | collect hpc
  | windowFailed hpc | windowReady hpc | windowMissing hpc | windowNext hpc | snapshot hpc
  | pushClosed hpc | pushFull hpc | tryRecv hpc | tryRecvDisconnected hpc | tryRecvWait hpc
  | tryRecvEnable hpc | wait hpc | waited hpc | closeNotify hpc | closeDone hpc | recv hpc
  | recvDisconnected hpc | receivedNotify hpc | received hpc | receivedTwice hpc =>
    exact hkeep _ (by rfl) (by rfl) (by rfl) _ (by rw [hpc]; exact Bool.false_le _) (by rw [hpc]; rfl)
      (by rw [hpc]; rfl)
  | cancel hpc | shutdownNotify hpc | shutdownNotified hpc | dropReceiver hpc | join hpc =>
    exact hkeep _ (by rfl) (by rfl) (by rfl) _ (by rw [hpc]; exact le_rfl) (by rw [hpc]; rfl)
      (by rw [hpc]; rfl)

theorem Wakeups.step (h : s.Wakeups) (hcancelled : s.coordinator.pc.hasReturned = false →
    s.shared.cancelled = false) (hstep : Step p s t) : t.Wakeups := by
  rcases hstep with hact | hwake
  · cases hact with
    | worker w hworker => exact h.worker hcancelled hworker
    | coordinator hcoordinator => exact h.coordinator hcoordinator
  · cases hwake with
    | progress => exact ⟨h.asleep, h.closed, h.awake⟩
    | @available w hw =>
      refine ⟨fun v hv => h.asleep v (Finset.mem_of_mem_erase hv), fun hc => ?_,
        fun hworks hall _ => ?_⟩
      · rw [h.closed hc] at hw
        exact absurd hw (Finset.notMem_empty w)
      · have hold := h.awake hworks hall ⟨w, hw⟩
        have hawake := s.awake_erase hw (h.asleep w hw) s.coordinator
        show s.shared.tasks.length ≤ _ + s.coordinator.pc.notifiesOne.toNat
        omega

end ExecutorState

/-! ### What the waiting parties wait for -/

/-- The worker has taken a task and not announced it yet. -/
def WorkerPc.hasPopped : WorkerPc T E → Bool
  | .popped .bump _ => true
  | _ => false

/-- The worker has sent a result and not announced it yet. -/
def WorkerPc.hasSent : WorkerPc T E → Bool
  | .sent .bump => true
  | _ => false

/-- The generation against which a worker waits for room in the result channel. -/
def WorkerPc.waitsFor : WorkerPc T E → Option ℕ
  | .wait stage _ => stage.observed
  | _ => none

/-- The coordinator has received a result and not announced it yet. -/
def CoordinatorPc.hasReceived : CoordinatorPc T E → Bool
  | .received .bump _ => true
  | _ => false

/-- The generation the coordinator has observed before it found the task queue full. -/
def CoordinatorPc.foundFull : CoordinatorPc T E → Option ℕ
  | .tryRecv observed => observed
  | .wait stage => stage.observed
  | _ => none

/-- The generation against which the coordinator waits for progress. -/
def CoordinatorPc.waitsFor : CoordinatorPc T E → Option ℕ
  | .wait stage => stage.observed
  | _ => none

lemma foundFull_of_plain {pc : CoordinatorPc T E} (h : pc.plain = true) : pc.foundFull = none := by
  cases pc <;> first | rfl | cases h

/-- Unless a notification is due, what a party waits for has not happened. -/
structure ExecutorState.Waits (p : BoundedOrdered M T E S) (s : ExecutorState W T E S) : Prop where
  noRoom : s.coordinator.pc.hasReturned = false → ∀ w,
    (s.workers w).waitsFor = some s.shared.progress.generation →
      max 1 p.resultQueueCapacity ≤ s.shared.results.length ∨ s.coordinator.pc.hasReceived = true
  tasksFull : s.coordinator.pc.foundFull = some s.shared.progress.generation →
    max 1 p.taskQueueCapacity ≤ s.shared.tasks.length ∨ ∃ w, (s.workers w).hasPopped = true
  noResults : s.coordinator.pc.waitsFor = some s.shared.progress.generation →
    s.shared.results = [] ∨ ∃ w, (s.workers w).hasSent = true

lemma WorkerPc.observed_of_waitsFor {pc : WorkerPc T E} {g : ℕ} (h : pc.waitsFor = some g) :
    pc.observed = some g := by
  cases pc <;> first | exact h | cases h

lemma CoordinatorPc.foundFull_of_waitsFor {pc : CoordinatorPc T E} {g : ℕ}
    (h : pc.waitsFor = some g) : pc.foundFull = some g := by
  cases pc <;> first | exact h | cases h

lemma CoordinatorPc.observed_of_foundFull {pc : CoordinatorPc T E} {g : ℕ}
    (h : pc.foundFull = some g) : pc.observed = some g := by
  cases pc <;> first | exact h | cases h

/-- What a step of a worker means for those who wait: it takes a task and will announce it, it
sends a result and will announce it, or the queue and the channel stay as they are. -/
lemma WorkerStep.announces {w : Fin W} {sh sh' : Shared W T E} {pc pc' : WorkerPc T E}
    (h : WorkerStep p w sh pc sh' pc') :
    (sh'.tasks = sh.tasks ∨ pc'.hasPopped = true) ∧
      (sh'.results = sh.results ∨ pc'.hasSent = true) ∧
        sh.results.length ≤ sh'.results.length := by
  cases h with
  | pop => exact ⟨Or.inr rfl, Or.inl rfl, le_rfl⟩
  | send =>
    refine ⟨Or.inl rfl, Or.inr rfl, ?_⟩
    rw [List.length_append]
    exact Nat.le_add_right _ _
  | _ => exact ⟨Or.inl rfl, Or.inl rfl, le_rfl⟩

/-- A worker that waits for room has found the channel full, or waited before. -/
lemma WorkerStep.waitsFor {w : Fin W} {sh sh' : Shared W T E} {pc pc' : WorkerPc T E}
    (h : WorkerStep p w sh pc sh' pc') {g : ℕ} (hg : pc'.waitsFor = some g) :
    pc.waitsFor = some g ∨ max 1 p.resultQueueCapacity ≤ sh'.results.length := by
  cases h with
  | sendFull _ hfull => exact Or.inr (not_lt.mp hfull)
  | sendWait h => exact Or.inl (h.observed hg)
  | _ => cases hg

/-- A worker that has something to announce does so in its next step. -/
lemma WorkerStep.bumps {w : Fin W} {sh sh' : Shared W T E} {pc pc' : WorkerPc T E}
    (h : WorkerStep p w sh pc sh' pc') (hon : sh.progressNotifications = true)
    (hpc : pc.hasPopped = true ∨ pc.hasSent = true) {g : ℕ} (hg : g ≤ sh.progress.generation) :
    sh'.progress.generation ≠ g := by
  cases h with
  | @popNotify stage _ _ _ h | @sentNotify stage _ _ h =>
    rw [hon] at h
    cases stage with
    | bump => exact h.ne_generation hg
    | _ => rcases hpc with hpc | hpc <;> cases hpc
  | _ => rcases hpc with hpc | hpc <;> cases hpc

section Coordinator

variable {ended : Prop} {sh sh' : Shared W T E} {c c' : Coordinator T E S}

/-- The coordinator takes a result from the channel and will announce it, or leaves the channel as
it is. -/
lemma CoordinatorStep.receives (h : CoordinatorStep p ended sh c sh' c')
    (hworks : c'.pc.hasReturned = false) :
    c.pc.hasReturned = false ∧ sh'.results = sh.results ∨ c'.pc.hasReceived = true := by
  cases h with
  | tryRecv | recv => exact Or.inr rfl
  | cancel | shutdownClose | shutdownNotify | shutdownNotified | dropReceiver | join =>
    cases hworks
  | @slidingCommit r hpc | @windowCommit r hpc =>
    rw [hpc]
    rcases sh.afterCommit_eq (p := p) c r with heq | heq <;> rw [heq] <;> exact Or.inl ⟨rfl, rfl⟩
  | slidingDone hpc | slidingAdmit hpc | slidingAwait hpc | windowedDone hpc | windowStart hpc
  | pushWindowClosed hpc | pushWindowFull hpc | pushWindow hpc | notifyAll hpc | fill hpc
  | filled hpc | collect hpc | windowFailed hpc | windowReady hpc | windowMissing hpc
  | windowNext hpc | snapshot hpc | pushClosed hpc | pushFull hpc | push hpc | notifyNobody hpc
  | notifyOne hpc | tryRecvDisconnected hpc | tryRecvWait hpc | tryRecvEnable hpc | wait hpc
  | waited hpc | close hpc | closeNotify hpc | closeDone hpc | recvDisconnected hpc
  | receivedNotify hpc | received hpc | receivedTwice hpc =>
    rw [hpc]
    exact Or.inl ⟨rfl, rfl⟩

/-- A coordinator that has a result to announce does so in its next step. -/
lemma CoordinatorStep.bumps (h : CoordinatorStep p ended sh c sh' c')
    (hon : sh.progressNotifications = true) (hpc : c.pc.hasReceived = true) {g : ℕ}
    (hg : g ≤ sh.progress.generation) : sh'.progress.generation ≠ g := by
  cases hplace : c.pc with
  | received stage m =>
    rw [hplace] at hpc
    cases stage with
    | bump =>
      cases h with
      | receivedNotify hpc' h =>
        rw [hplace] at hpc'
        cases hpc'
        rw [hon] at h
        exact h.ne_generation hg
      | _ => simp_all
    | _ => cases hpc
  | _ =>
    rw [hplace] at hpc
    cases hpc

/-- The coordinator finds the task queue full only in an attempt to push. -/
lemma CoordinatorStep.foundFull (h : CoordinatorStep p ended sh c sh' c') {g : ℕ}
    (hg : c'.pc.foundFull = some g) : c.pc.foundFull = some g ∧ sh'.tasks = sh.tasks ∨
      max 1 p.taskQueueCapacity ≤ sh'.tasks.length := by
  cases h with
  | pushFull _ _ hfull => exact Or.inr hfull
  | tryRecvWait hpc =>
    rw [hpc]
    exact Or.inl ⟨hg, rfl⟩
  | wait hpc h =>
    rw [hpc]
    exact Or.inl ⟨h.observed hg, rfl⟩
  | @slidingCommit r hpc | @windowCommit r hpc =>
    rcases pc_commitNext (p := p) c r with heq | ⟨outcome, heq⟩ <;> rw [heq] at hg
    · rw [hpc] at hg
      cases hg
    · cases hg
  | windowStart =>
    cases hon : sh.progressNotifications <;> simp only [hon] at hg <;> cases hg
  | filled =>
    dsimp only at hg
    split at hg <;> cases hg
  | notifyNobody | notifyOne =>
    rw [foundFull_of_plain (plain_afterPush c)] at hg
    cases hg
  | tryRecvEnable | waited =>
    rw [foundFull_of_plain (plain_retryPush c)] at hg
    cases hg
  | closeDone =>
    rw [foundFull_of_plain (plain_afterClose c)] at hg
    cases hg
  | received =>
    rw [foundFull_of_plain (plain_insertPending c _)] at hg
    cases hg
  | _ => cases hg

/-- The coordinator begins to wait only when the result channel is empty. -/
lemma CoordinatorStep.waitsFor (h : CoordinatorStep p ended sh c sh' c') {g : ℕ}
    (hg : c'.pc.waitsFor = some g) : c.pc.waitsFor = some g ∧ sh'.results = sh.results ∨
      sh'.results = [] := by
  have hfull := CoordinatorPc.foundFull_of_waitsFor hg
  cases h with
  | tryRecvWait _ hresults => exact Or.inr hresults
  | wait hpc h =>
    rw [hpc]
    exact Or.inl ⟨h.observed hg, rfl⟩
  | @slidingCommit r hpc | @windowCommit r hpc =>
    rcases pc_commitNext (p := p) c r with heq | ⟨outcome, heq⟩ <;> rw [heq] at hg
    · rw [hpc] at hg
      cases hg
    · cases hg
  | windowStart =>
    cases hon : sh.progressNotifications <;> simp only [hon] at hg <;> cases hg
  | filled =>
    dsimp only at hg
    split at hg <;> cases hg
  | notifyNobody | notifyOne =>
    rw [foundFull_of_plain (plain_afterPush c)] at hfull
    cases hfull
  | tryRecvEnable | waited =>
    rw [foundFull_of_plain (plain_retryPush c)] at hfull
    cases hfull
  | closeDone =>
    rw [foundFull_of_plain (plain_afterClose c)] at hfull
    cases hfull
  | received =>
    rw [foundFull_of_plain (plain_insertPending c _)] at hfull
    cases hfull
  | _ => cases hg

/-- When the coordinator returns, it has not cancelled anything yet. -/
lemma CoordinatorStep.returns (h : CoordinatorStep p ended sh c sh' c')
    (hworks : c.pc.hasReturned = false) {stage : ShutdownStage} {outcome : Outcome E}
    (hpc' : c'.pc = .returned stage outcome) : stage = .cancel := by
  cases h with
  | @slidingCommit r hpc | @windowCommit r hpc =>
    rcases pc_commitNext (p := p) c r with heq | ⟨outcome', heq⟩ <;> rw [heq] at hpc'
    · rw [hpc] at hpc'
      cases hpc'
    · cases hpc'
      rfl
  | windowStart =>
    cases hon : sh.progressNotifications <;> simp only [hon] at hpc' <;> cases hpc'
  | filled =>
    dsimp only at hpc'
    split at hpc' <;> cases hpc'
  | notifyNobody | notifyOne =>
    have hplain := plain_afterPush (p := p) c
    rw [hpc'] at hplain
    cases hplain
  | tryRecvEnable | waited =>
    have hplain := plain_retryPush (p := p) c
    rw [hpc'] at hplain
    cases hplain
  | closeDone =>
    have hplain := plain_afterClose (p := p) c
    rw [hpc'] at hplain
    cases hplain
  | @received m =>
    have hplain := plain_insertPending (p := p) c m
    rw [hpc'] at hplain
    cases hplain
  | cancel hpc | shutdownClose hpc | shutdownNotify hpc | shutdownNotified hpc | dropReceiver hpc
  | join hpc =>
    rw [hpc] at hworks
    cases hworks
  | _ => cases hpc' <;> rfl

end Coordinator

namespace ExecutorState

variable {s t : ExecutorState W T E S}

lemma waits_initial : (initial W p).Waits p where
  noRoom _ w hw := by cases hw
  tasksFull h := by cases h
  noResults h := by cases h

/-- A step of a worker keeps what is known about those who wait. -/
lemma Waits.worker (h : s.Waits p) (hsignals : s.Signals) {w : Fin W} {sh : Shared W T E}
    {pc : WorkerPc T E} (hstep : WorkerStep p w s.shared (s.workers w) sh pc) :
    ({ s with shared := sh, workers := Function.update s.workers w pc } :
      ExecutorState W T E S).Waits p := by
  obtain ⟨htasks, hresults, hlength⟩ := hstep.announces
  have hle := hstep.party.le_generation
  -- somebody else's announcement stays due, and the worker's own would have been given
  have hdue : ∀ (f : WorkerPc T E → Bool) (_ : ∀ pc, f pc = true →
      pc.hasPopped = true ∨ pc.hasSent = true), s.shared.progressNotifications = true →
      sh.progress.generation ≤ s.shared.progress.generation →
      (∃ v, f (s.workers v) = true) → ∃ v, f (Function.update s.workers w pc v) = true := by
    rintro f hf hon hg ⟨v, hv⟩
    refine ⟨v, ?_⟩
    rw [Function.update_of_ne]
    · exact hv
    · rintro rfl
      exact hstep.bumps hon (hf _ hv) hg rfl
  refine ⟨fun hworks v hv => ?_, fun hfull => ?_, fun hwait => ?_⟩
  · by_cases hvw : v = w
    · subst hvw
      simp only [Function.update_self] at hv
      rcases hstep.waitsFor hv with hold | hfull
      · have hg := (hsignals.worker v _ (WorkerPc.observed_of_waitsFor hold)).1
        rw [le_antisymm hg hle] at hold
        exact (h.noRoom hworks v hold).imp_left fun hroom => hroom.trans hlength
      · exact Or.inl hfull
    · simp only [Function.update_of_ne hvw] at hv
      have hg := (hsignals.worker v _ (WorkerPc.observed_of_waitsFor hv)).1
      rw [le_antisymm hg hle] at hv
      exact (h.noRoom hworks v hv).imp_left fun hroom => hroom.trans hlength
  · obtain ⟨hg, hon⟩ := hsignals.coordinator _ (CoordinatorPc.observed_of_foundFull hfull)
    have hold := h.tasksFull (le_antisymm hg hle ▸ hfull)
    rcases htasks with hsame | hpopped
    · rcases hold with hold | hold
      · exact Or.inl (by rw [hsame]; exact hold)
      · exact Or.inr (hdue _ (fun _ hp => Or.inl hp) hon hg hold)
    · exact Or.inr ⟨w, by dsimp only; rw [Function.update_self]; exact hpopped⟩
  · have hfull := CoordinatorPc.foundFull_of_waitsFor hwait
    obtain ⟨hg, hon⟩ := hsignals.coordinator _ (CoordinatorPc.observed_of_foundFull hfull)
    have hold := h.noResults (le_antisymm hg hle ▸ hwait)
    rcases hresults with hsame | hsent
    · rcases hold with hold | hold
      · exact Or.inl (by rw [hsame]; exact hold)
      · exact Or.inr (hdue _ (fun _ hp => Or.inr hp) hon hg hold)
    · exact Or.inr ⟨w, by dsimp only; rw [Function.update_self]; exact hsent⟩

/-- A step of the coordinator keeps what is known about those who wait. -/
lemma Waits.coordinator (h : s.Waits p) (hsignals : s.Signals) {ended : Prop} {sh : Shared W T E}
    {c : Coordinator T E S} (hstep : CoordinatorStep p ended s.shared s.coordinator sh c) :
    ({ s with shared := sh, coordinator := c } : ExecutorState W T E S).Waits p := by
  have hle := hstep.party.le_generation
  refine ⟨fun hworks v hv => ?_, fun hfull => ?_, fun hwait => ?_⟩
  · obtain ⟨hg, hon⟩ := hsignals.worker v _ (WorkerPc.observed_of_waitsFor hv)
    rw [le_antisymm hg hle] at hv
    rcases hstep.receives hworks with hsame | hreceived
    · rcases h.noRoom hsame.1 v hv with hroom | hdue
      · exact Or.inl (hroom.trans (le_of_eq (congrArg List.length hsame.2.symm)))
      · exact absurd (le_antisymm hg hle) (hstep.bumps hon hdue le_rfl)
    · exact Or.inr hreceived
  · rcases hstep.foundFull hfull with hold | hnow
    · obtain ⟨hg, -⟩ := hsignals.coordinator _ (CoordinatorPc.observed_of_foundFull hold.1)
      rw [le_antisymm hg hle] at hold
      rw [show sh.tasks = s.shared.tasks from hold.2]
      exact h.tasksFull hold.1
    · exact Or.inl hnow
  · rcases hstep.waitsFor hwait with hold | hnow
    · have hfull := CoordinatorPc.foundFull_of_waitsFor hold.1
      obtain ⟨hg, -⟩ := hsignals.coordinator _ (CoordinatorPc.observed_of_foundFull hfull)
      rw [le_antisymm hg hle] at hold
      rw [show sh.results = s.shared.results from hold.2]
      exact h.noResults hold.1
    · exact Or.inl hnow

theorem Waits.step (h : s.Waits p) (hsignals : s.Signals) (hstep : Step p s t) : t.Waits p := by
  rcases hstep with hact | hwake
  · cases hact with
    | worker w hworker => exact h.worker hsignals hworker
    | coordinator hcoordinator => exact h.coordinator hsignals hcoordinator
  · cases hwake with
    | available | progress => exact ⟨h.noRoom, h.tasksFull, h.noResults⟩

end ExecutorState

/-! ### The end of the execution -/

/-- The coordinator has notified the waiting parties for the last time. -/
def ShutdownStage.notified : ShutdownStage → Bool
  | .notify .finished | .dropReceiver | .join | .finished => true
  | _ => false

/-- After the coordinator has returned: the flags it has set, and whom it has woken. -/
structure ExecutorState.Shutdown (s : ExecutorState W T E S) : Prop where
  cancelled : ∀ stage outcome, s.coordinator.pc = .returned stage outcome → stage ≠ .cancel →
    outcome.cancels = true → s.shared.cancelled = true
  closed : ∀ stage outcome, s.coordinator.pc = .returned stage outcome → stage ≠ .cancel →
    stage ≠ .close → s.shared.closed = true
  noSleeper : ∀ stage outcome, s.coordinator.pc = .returned stage outcome →
    stage.notified = true → s.shared.cancelled = true → s.shared.progress.sleeping = ∅

/-- Nobody falls asleep on the progress signal once the execution is cancelled. -/
lemma WaitStep.sleeping_subset {P : Type} [DecidableEq P] {x : P} {e e' : EventCount P}
    {st st' : WaitStage} (h : WaitStep x true e st e' st') : e'.sleeping ⊆ e.sleeping := by
  cases h with
  | sleep hsame => cases hsame.2
  | _ => exact subset_rfl

lemma NotifyStep.sleeping_subset {P : Type} {enabled : Bool} {e e' : EventCount P}
    {st st' : NotifyStage} (h : NotifyStep enabled e st e' st') : e'.sleeping ⊆ e.sleeping := by
  cases h with
  | wake => exact Finset.empty_subset _
  | _ => exact subset_rfl

lemma WorkerStep.sleeping_subset {w : Fin W} {sh sh' : Shared W T E} {pc pc' : WorkerPc T E}
    (h : WorkerStep p w sh pc sh' pc') (hcancelled : sh.cancelled = true) :
    sh'.progress.sleeping ⊆ sh.progress.sleeping := by
  cases h with
  | popNotify h | sentNotify h => exact NotifyStep.sleeping_subset h
  | sendWait h =>
    rw [hcancelled] at h
    exact WaitStep.sleeping_subset h
  | _ => exact subset_rfl

namespace ExecutorState

variable {s t : ExecutorState W T E S}

lemma shutdown_initial : (initial W p).Shutdown :=
  ⟨fun _ _ h => (by cases h), fun _ _ h => (by cases h), fun _ _ h => (by cases h)⟩

/-- When the last notification is over, nobody sleeps: a sleeper is registered, and had
notifications switched on. -/
lemma Signals.sleeping_eq_empty (h : s.Signals) {e : EventCount (Option (Fin W))}
    {stage : NotifyStage}
    (hstep : NotifyStep s.shared.progressNotifications s.shared.progress stage e .finished) :
    e.sleeping = ∅ := by
  have hon : ∀ x ∈ s.shared.progress.sleeping, s.shared.progressNotifications = true := by
    intro x hx
    obtain ⟨g, hg⟩ := h.sound.asleep x hx
    rcases x with _ | w
    · refine (h.coordinator g ?_).2
      rw [CoordinatorPc.eq_wait_of_stage hg]
      rfl
    · refine (h.worker w g ?_).2
      obtain ⟨m, hm⟩ := WorkerPc.eq_wait_of_stage hg
      rw [hm]
      rfl
  cases hstep with
  | skip hoff =>
    refine Finset.eq_empty_of_forall_notMem fun x hx => ?_
    rw [hon x hx] at hoff
    cases hoff
  | alone hwaiters =>
    exact Finset.eq_empty_of_forall_notMem fun x hx => h.sound.waiters_ne_zero hx hwaiters
  | wake => rfl

/-- The steps of a coordinator that has returned. -/
lemma Shutdown.coordinator (h : s.Shutdown) (hsignals : s.Signals)
    (hreturned : s.coordinator.pc.hasReturned = true) {ended : Prop} {sh : Shared W T E}
    {c : Coordinator T E S} (hstep : CoordinatorStep p ended s.shared s.coordinator sh c) :
    ({ s with shared := sh, coordinator := c } : ExecutorState W T E S).Shutdown := by
  cases hstep with
  | @cancel outcome hpc =>
    refine ⟨fun stage o hpc' _ hc => ?_, fun stage o hpc' _ h₂ => ?_, fun stage o hpc' hn => ?_⟩ <;>
      cases hpc'
    · show (s.shared.cancelled || outcome.cancels) = true
      rw [hc, Bool.or_true]
    · exact absurd rfl h₂
    · cases hn
  | shutdownClose hpc =>
    refine ⟨fun stage o hpc' _ hc => ?_, fun _ _ _ _ _ => rfl, fun stage o hpc' hn => ?_⟩ <;>
      cases hpc'
    · exact h.cancelled _ _ hpc (by decide) hc
    · cases hn
  | @shutdownNotify _ stage' _ _ hpc hnotify =>
    refine ⟨fun stage o hpc' _ hc => ?_, fun stage o hpc' _ _ => ?_, fun stage o hpc' hn _ => ?_⟩ <;>
      cases hpc'
    · exact h.cancelled _ _ hpc (by rintro ⟨⟩) hc
    · exact h.closed _ _ hpc (by rintro ⟨⟩) (by rintro ⟨⟩)
    · cases stage' with
      | finished => exact hsignals.sleeping_eq_empty hnotify
      | _ => cases hn
  | shutdownNotified hpc | dropReceiver hpc | join hpc =>
    refine ⟨fun stage o hpc' _ hc => ?_, fun stage o hpc' _ _ => ?_, fun stage o hpc' _ hc => ?_⟩ <;>
      cases hpc'
    · exact h.cancelled _ _ hpc (by rintro ⟨⟩) hc
    · exact h.closed _ _ hpc (by rintro ⟨⟩) (by rintro ⟨⟩)
    · exact h.noSleeper _ _ hpc rfl hc
  | slidingDone hpc | slidingCommit hpc | slidingAdmit hpc | slidingAwait hpc | windowedDone hpc
  | windowStart hpc | pushWindowClosed hpc | pushWindowFull hpc | pushWindow hpc | notifyAll hpc
  | fill hpc | filled hpc | collect hpc | windowFailed hpc | windowReady hpc | windowCommit hpc
  | windowMissing hpc | windowNext hpc | snapshot hpc | pushClosed hpc | pushFull hpc | push hpc
  | notifyNobody hpc | notifyOne hpc | tryRecv hpc | tryRecvDisconnected hpc | tryRecvWait hpc
  | tryRecvEnable hpc | wait hpc | waited hpc | close hpc | closeNotify hpc | closeDone hpc
  | recv hpc | recvDisconnected hpc | receivedNotify hpc | received hpc | receivedTwice hpc =>
    rw [hpc] at hreturned
    cases hreturned

theorem Shutdown.step (h : s.Shutdown) (hsignals : s.Signals) (hstep : Step p s t) :
    t.Shutdown := by
  rcases hstep with hact | hwake
  · cases hact with
    | worker w hworker =>
      obtain ⟨hcancelled, -, hclosed⟩ := hworker.flags
      refine ⟨fun stage o hpc h₁ h₂ => hcancelled.trans (h.cancelled stage o hpc h₁ h₂),
        fun stage o hpc h₁ h₂ => hclosed.trans (h.closed stage o hpc h₁ h₂),
        fun stage o hpc h₁ h₂ => ?_⟩
      have hold : s.shared.cancelled = true := hcancelled.symm.trans h₂
      have hempty := h.noSleeper stage o hpc h₁ hold
      exact Finset.subset_empty.mp (hempty ▸ hworker.sleeping_subset hold)
    | coordinator hcoordinator =>
      cases hplace : s.coordinator.pc.hasReturned with
      | false =>
        -- it can only just have returned
        exact ⟨fun stage o hpc h₁ => absurd (hcoordinator.returns hplace hpc) h₁,
          fun stage o hpc h₁ => absurd (hcoordinator.returns hplace hpc) h₁,
          fun stage o hpc h₁ => by rw [hcoordinator.returns hplace hpc] at h₁; cases h₁⟩
      | true => exact h.coordinator hsignals hplace hcoordinator
  · cases hwake with
    | available => exact ⟨h.cancelled, h.closed, h.noSleeper⟩
    | progress =>
      refine ⟨h.cancelled, h.closed, fun stage o hpc h₁ h₂ => ?_⟩
      have hempty := h.noSleeper stage o hpc h₁ h₂
      exact Finset.subset_empty.mp (hempty ▸ Finset.erase_subset _ _)

end ExecutorState

end ArcadiaTio.Ocb
