import ArcadiaTio.Ocb.Parallel.Progress

/-!
# The executor goes on

A party is blocked when it has nothing to do but to wait.  From the invariants of the waiting
parties, not all parties are blocked before the executor has finished.
-/

namespace ArcadiaTio.Ocb

open ArcadiaTio.Lib

variable {W : ℕ} {M T E S : Type} {p : BoundedOrdered M T E S}

/-! ### Blocked parties -/

/-- A worker that has nothing to do but to wait. -/
def WorkerPc.Blocked (sh : Shared W T E) (w : Fin W) : WorkerPc T E → Prop
  | .pop => sh.cancelled = false ∧ sh.tasks = [] ∧ sh.closed = false
  | .asleep => w ∈ sh.available
  | .wait (.block g) _ => sh.progress.generation = g ∧ sh.cancelled = false
  | .wait (.asleep _) _ => some w ∈ sh.progress.sleeping
  | .done => True
  | _ => False

/-- A coordinator that has nothing to do but to wait. -/
def CoordinatorPc.Blocked (ended : Prop) (sh : Shared W T E) : CoordinatorPc T E → Prop
  | .recv => sh.results = [] ∧ ¬ ended
  | .wait (.block g) => sh.progress.generation = g ∧ sh.cancelled = false
  | .wait (.asleep _) => none ∈ sh.progress.sleeping
  | .returned .join _ => ¬ ended
  | .returned .finished _ => True
  | _ => False

/-- Nobody has fallen asleep. -/
def Shared.NobodyFellAsleep (sh sh' : Shared W T E) : Prop :=
  sh'.available ⊆ sh.available ∧ sh'.progress.sleeping ⊆ sh.progress.sleeping

lemma Shared.NobodyFellAsleep.refl (sh : Shared W T E) : sh.NobodyFellAsleep sh :=
  ⟨subset_rfl, subset_rfl⟩

/-- A wait goes on, without falling asleep, unless it is blocked or over. -/
lemma WaitStep.exists_awake {P : Type} [DecidableEq P] (x : P) (cancelled : Bool)
    (e : EventCount P) {st : WaitStage} (hfinished : ∀ live, st ≠ .finished live)
    (hblock : ∀ g, st = .block g → ¬ (e.generation = g ∧ cancelled = false))
    (hasleep : ∀ g, st = .asleep g → x ∉ e.sleeping) :
    ∃ e' st', WaitStep x cancelled e st e' st' ∧ e'.sleeping ⊆ e.sleeping := by
  obtain ⟨e', st', hstep⟩ := WaitStep.exists x cancelled e hfinished
    fun hx g hst => hasleep g hst hx
  refine ⟨e', st', hstep, ?_⟩
  cases hstep with
  | sleep hsame => exact absurd hsame (hblock _ rfl)
  | _ => exact subset_rfl

/-- A worker that is not blocked has a step to take. -/
lemma WorkerPc.exists_step {sh : Shared W T E} {w : Fin W} {pc : WorkerPc T E}
    (h : ¬ pc.Blocked sh w) :
    ∃ sh' pc', WorkerStep p w sh pc sh' pc' ∧ sh.NobodyFellAsleep sh' := by
  -- one case for each place; what blocks a worker is an empty queue, a wait, or its end
  cases pc with
  | pop =>
    cases hcancelled : sh.cancelled with
    | true => exact ⟨_, _, .popCancelled hcancelled, .refl sh⟩
    | false =>
      cases htasks : sh.tasks with
      | cons i rest => exact ⟨_, _, .pop hcancelled htasks, subset_rfl, subset_rfl⟩
      | nil =>
        cases hclosed : sh.closed with
        | true => exact ⟨_, _, .popClosed hcancelled htasks hclosed, .refl sh⟩
        | false => exact absurd ⟨hcancelled, htasks, hclosed⟩ h
  | asleep => exact ⟨_, _, .popWake h, .refl sh⟩
  | popped stage i =>
    by_cases hstage : stage = .finished
    · subst hstage
      cases hcancelled : sh.cancelled with
      | true => exact ⟨_, _, .taskCancelled hcancelled, .refl sh⟩
      | false => exact ⟨_, _, .start hcancelled, subset_rfl, subset_rfl⟩
    · obtain ⟨e, stage', hnotify⟩ := NotifyStep.exists sh.progressNotifications sh.progress
        hstage
      exact ⟨_, _, .popNotify hnotify, subset_rfl, NotifyStep.sleeping_subset hnotify⟩
  | running i => exact ⟨_, _, .run, subset_rfl, subset_rfl⟩
  | publish m =>
    cases hcancelled : sh.cancelled with
    | true => exact ⟨_, _, .publishCancelled hcancelled, .refl sh⟩
    | false => exact ⟨_, _, .publish hcancelled, .refl sh⟩
  | snapshot m => exact ⟨_, _, .snapshot, .refl sh⟩
  | trySend m observed =>
    cases hreceiving : sh.receiving with
    | false => exact ⟨_, _, .sendDisconnected hreceiving, .refl sh⟩
    | true =>
      by_cases hroom : sh.results.length < max 1 p.resultQueueCapacity
      · exact ⟨_, _, .send hreceiving hroom, subset_rfl, subset_rfl⟩
      · cases observed with
        | some g => exact ⟨_, _, .sendFull hreceiving hroom, .refl sh⟩
        | none => exact ⟨_, _, .sendEnable hreceiving hroom, subset_rfl, subset_rfl⟩
  | wait stage m =>
    by_cases hfinished : ∃ live, stage = .finished live
    · obtain ⟨live, rfl⟩ := hfinished
      cases live with
      | true => exact ⟨_, _, .sendRetry, .refl sh⟩
      | false => exact ⟨_, _, .sendGiveUp, .refl sh⟩
    · obtain ⟨e, stage', hwait, hsub⟩ := WaitStep.exists_awake (some w) sh.cancelled sh.progress
        (not_exists.mp hfinished) (fun g hg => by subst hg; exact h)
        (fun g hg => by subst hg; exact h)
      exact ⟨_, _, .sendWait hwait, subset_rfl, hsub⟩
  | sent stage =>
    by_cases hstage : stage = .finished
    · subst hstage
      exact ⟨_, _, .sentDone, .refl sh⟩
    · obtain ⟨e, stage', hnotify⟩ := NotifyStep.exists sh.progressNotifications sh.progress
        hstage
      exact ⟨_, _, .sentNotify hnotify, subset_rfl, NotifyStep.sleeping_subset hnotify⟩
  | done => exact absurd trivial h

/-- A coordinator that is not blocked has a step to take. -/
lemma Coordinator.exists_step {ended : Prop} {sh : Shared W T E} {c : Coordinator T E S}
    (h : ¬ c.pc.Blocked ended sh) :
    ∃ sh' c', CoordinatorStep p ended sh c sh' c' ∧ sh.NobodyFellAsleep sh' := by
  -- one case for each place; the guards of the steps from a place leave out only what blocks it
  cases hpc : c.pc with
  | head =>
    cases hmode : p.mode with
    | sliding =>
      by_cases hnext : c.nextToCommit < p.taskCount
      · cases hpending : c.pending.lookup c.nextToCommit with
        | some r =>
          refine ⟨_, _, .slidingCommit hpc hmode hnext hpending, ?_⟩
          rcases sh.afterCommit_eq (p := p) c r with heq | heq <;> rw [heq]
          · exact .refl sh
          · exact ⟨subset_rfl, subset_rfl⟩
        | none =>
          by_cases hqueue : c.CanQueue p
          · exact ⟨_, _, .slidingAdmit hpc hmode hnext hpending hqueue, .refl sh⟩
          · exact ⟨_, _, .slidingAwait hpc hmode hnext hpending hqueue, .refl sh⟩
      · exact ⟨_, _, .slidingDone hpc hmode (not_lt.mp hnext), .refl sh⟩
    | windowed =>
      by_cases hnext : c.windowStart < p.taskCount
      · exact ⟨_, _, .windowStart hpc hmode hnext, .refl sh⟩
      · exact ⟨_, _, .windowedDone hpc hmode (not_lt.mp hnext), .refl sh⟩
  | pushWindow =>
    cases hclosed : sh.closed with
    | true => exact ⟨_, _, .pushWindowClosed hpc hclosed, .refl sh⟩
    | false =>
      by_cases hfull : p.windowEnd c.windowStart - c.windowStart >
          max 1 p.taskQueueCapacity - sh.tasks.length
      · exact ⟨_, _, .pushWindowFull hpc hclosed hfull, subset_rfl, subset_rfl⟩
      · exact ⟨_, _, .pushWindow hpc hclosed hfull, subset_rfl, subset_rfl⟩
  | notifyAll => exact ⟨_, _, .notifyAll hpc, Finset.empty_subset _, subset_rfl⟩
  | fill =>
    by_cases hnext : c.nextToQueue < p.windowEnd c.windowStart
    · exact ⟨_, _, .fill hpc hnext, .refl sh⟩
    · exact ⟨_, _, .filled hpc hnext, .refl sh⟩
  | snapshot => exact ⟨_, _, .snapshot hpc, .refl sh⟩
  | tryPush observed =>
    cases hclosed : sh.closed with
    | true => exact ⟨_, _, .pushClosed hpc hclosed, .refl sh⟩
    | false =>
      by_cases hfull : max 1 p.taskQueueCapacity ≤ sh.tasks.length
      · exact ⟨_, _, .pushFull hpc hclosed hfull, .refl sh⟩
      · exact ⟨_, _, .push hpc hclosed hfull, subset_rfl, subset_rfl⟩
  | notifyOne =>
    rcases sh.available.eq_empty_or_nonempty with hnobody | ⟨w, hw⟩
    · exact ⟨_, _, .notifyNobody hpc hnobody, .refl sh⟩
    · exact ⟨_, _, .notifyOne hpc hw, Finset.erase_subset _ _, subset_rfl⟩
  | close => exact ⟨_, _, .close hpc, Finset.empty_subset _, subset_rfl⟩
  | closed stage =>
    by_cases hstage : stage = .finished
    · subst hstage
      exact ⟨_, _, .closeDone hpc, .refl sh⟩
    · obtain ⟨e, stage', hnotify⟩ := NotifyStep.exists sh.progressNotifications sh.progress
        hstage
      exact ⟨_, _, .closeNotify hpc hnotify, subset_rfl, NotifyStep.sleeping_subset hnotify⟩
  | tryRecv observed =>
    cases hresults : sh.results with
    | cons m rest => exact ⟨_, _, .tryRecv hpc hresults, subset_rfl, subset_rfl⟩
    | nil =>
      by_cases hended : ended
      · exact ⟨_, _, .tryRecvDisconnected hpc hresults hended, .refl sh⟩
      · cases observed with
        | some g => exact ⟨_, _, .tryRecvWait hpc hresults hended, .refl sh⟩
        | none => exact ⟨_, _, .tryRecvEnable hpc hresults hended, subset_rfl, subset_rfl⟩
  | wait stage =>
    rw [hpc] at h
    by_cases hfinished : ∃ live, stage = .finished live
    · obtain ⟨live, rfl⟩ := hfinished
      exact ⟨_, _, .waited hpc, .refl sh⟩
    · obtain ⟨e, stage', hwait, hsub⟩ := WaitStep.exists_awake (none : Option (Fin W))
        sh.cancelled sh.progress (not_exists.mp hfinished) (fun g hg => by subst hg; exact h)
        (fun g hg => by subst hg; exact h)
      exact ⟨_, _, .wait hpc hwait, subset_rfl, hsub⟩
  | collect =>
    by_cases hmissing : c.pending.length < p.windowEnd c.windowStart - c.windowStart
    · exact ⟨_, _, .collect hpc hmissing, .refl sh⟩
    · cases herror : c.firstError c.windowStart (p.windowEnd c.windowStart - c.windowStart) with
      | some error => exact ⟨_, _, .windowFailed hpc hmissing herror, .refl sh⟩
      | none => exact ⟨_, _, .windowReady hpc hmissing herror, .refl sh⟩
  | recv =>
    cases hresults : sh.results with
    | cons m rest => exact ⟨_, _, .recv hpc hresults, subset_rfl, subset_rfl⟩
    | nil =>
      by_cases hended : ended
      · exact ⟨_, _, .recvDisconnected hpc hresults hended, .refl sh⟩
      · rw [hpc] at h
        exact absurd ⟨hresults, hended⟩ h
  | received stage m =>
    by_cases hstage : stage = .finished
    · subst hstage
      cases hpending : c.pending.lookup m.1 with
      | some r => exact ⟨_, _, .receivedTwice hpc hpending, .refl sh⟩
      | none => exact ⟨_, _, .received hpc hpending, .refl sh⟩
    · obtain ⟨e, stage', hnotify⟩ := NotifyStep.exists sh.progressNotifications sh.progress
        hstage
      exact ⟨_, _, .receivedNotify hpc hnotify, subset_rfl, NotifyStep.sleeping_subset hnotify⟩
  | commit =>
    by_cases hnext : c.nextToCommit < p.windowEnd c.windowStart
    · cases hpending : c.pending.lookup c.nextToCommit with
      | some r =>
        refine ⟨_, _, .windowCommit hpc hnext hpending, ?_⟩
        rcases sh.afterCommit_eq (p := p) c r with heq | heq <;> rw [heq]
        · exact .refl sh
        · exact ⟨subset_rfl, subset_rfl⟩
      | none => exact ⟨_, _, .windowMissing hpc hnext hpending, .refl sh⟩
    · exact ⟨_, _, .windowNext hpc hnext, .refl sh⟩
  | returned stage outcome =>
    cases stage with
    | cancel => exact ⟨_, _, .cancel hpc, subset_rfl, subset_rfl⟩
    | close => exact ⟨_, _, .shutdownClose hpc, Finset.empty_subset _, subset_rfl⟩
    | notify stage =>
      by_cases hstage : stage = .finished
      · subst hstage
        exact ⟨_, _, .shutdownNotified hpc, .refl sh⟩
      · obtain ⟨e, stage', hnotify⟩ := NotifyStep.exists sh.progressNotifications sh.progress
          hstage
        exact ⟨_, _, .shutdownNotify hpc hnotify, subset_rfl,
          NotifyStep.sleeping_subset hnotify⟩
    | dropReceiver => exact ⟨_, _, .dropReceiver hpc, subset_rfl, subset_rfl⟩
    | join =>
      rw [hpc] at h
      exact ⟨_, _, .join hpc (not_not.mp h), .refl sh⟩
    | finished =>
      rw [hpc] at h
      exact absurd trivial h

/-! ### Not all parties are blocked -/

lemma WorkerPc.Blocked.not_waking {sh : Shared W T E} {w : Fin W} {pc : WorkerPc T E}
    (h : pc.Blocked sh w) : pc.stage.waking = false := by
  cases pc <;> first | rfl | exact absurd h id

lemma CoordinatorPc.Blocked.not_waking {ended : Prop} {sh : Shared W T E} {pc : CoordinatorPc T E}
    (h : pc.Blocked ended sh) : pc.stage.waking = false := by
  cases pc with
  | returned stage outcome => cases stage <;> first | rfl | exact absurd h id
  | _ => first | rfl | exact absurd h id

/-- A blocked worker has announced what it has done. -/
lemma WorkerPc.Blocked.announced {sh : Shared W T E} {w : Fin W} {pc : WorkerPc T E}
    (h : pc.Blocked sh w) : pc.hasPopped = false ∧ pc.hasSent = false := by
  cases pc <;> first | exact ⟨rfl, rfl⟩ | exact absurd h id

lemma CoordinatorPc.Blocked.announced {ended : Prop} {sh : Shared W T E} {pc : CoordinatorPc T E}
    (h : pc.Blocked ended sh) : pc.hasReceived = false := by
  cases pc <;> first | rfl | exact absurd h id

namespace ExecutorState

/-- The invariants of the waiting parties. -/
structure Live (p : BoundedOrdered M T E S) (s : ExecutorState W T E S) : Prop where
  signals : s.Signals
  wakeups : s.Wakeups
  waits : s.Waits p
  shutdown : s.Shutdown

variable {s t : ExecutorState W T E S}

theorem Reachable.live (hcap : 0 < p.maxInFlight) (hW : 0 < W) (h : s.Reachable p) :
    s.Live p := by
  have hboth : s.Ordered p ∧ s.Live p := by
    refine invariant_of_reachable (P := fun s => s.Ordered p ∧ s.Live p)
      ⟨working_initial.ordered rfl, signals_initial, wakeups_initial, waits_initial,
        shutdown_initial⟩ ?_ h
    rintro s t ⟨hordered, hsignals, hwakeups, hwaits, hshutdown⟩ hstep
    exact ⟨hordered.step hcap hW hstep, hsignals.step hstep,
      hwakeups.step (fun hworks => (hordered.working hworks).cancelled) hstep,
      hwaits.step hsignals hstep, hshutdown.step hsignals hstep⟩
  exact hboth.2

/-- All parties have nothing to do but to wait. -/
def Stuck (s : ExecutorState W T E S) : Prop :=
  (∀ w, (s.workers w).Blocked s.shared w) ∧
    s.coordinator.pc.Blocked (∀ w, s.workers w = .done) s.shared

/-- A system that is not stuck goes on without anybody falling asleep. -/
lemma exists_act (h : ¬ s.Stuck) :
    ∃ t, Act p s t ∧ s.shared.NobodyFellAsleep t.shared := by
  by_cases hworkers : ∀ w, (s.workers w).Blocked s.shared w
  · obtain ⟨sh, c, hstep, hawake⟩ := Coordinator.exists_step (p := p) fun hblocked =>
      h ⟨hworkers, hblocked⟩
    exact ⟨_, .coordinator hstep, hawake⟩
  · obtain ⟨w, hw⟩ := not_forall.mp hworkers
    obtain ⟨sh, pc, hstep, hawake⟩ := WorkerPc.exists_step (p := p) hw
    exact ⟨_, .worker w hstep, hawake⟩

namespace Stuck

lemma not_waking (h : s.Stuck) (x : Option (Fin W)) : (s.stage x).waking = false := by
  rcases x with _ | w
  · exact h.2.not_waking
  · exact (h.1 w).not_waking

/-- A worker that waits for room compares with the current generation. -/
lemma worker_waitsFor (h : s.Stuck) (hsignals : s.Signals) {w : Fin W} {stage : WaitStage}
    {m : Message T E} (hpc : s.workers w = .wait stage m) :
    (s.workers w).waitsFor = some s.shared.progress.generation := by
  have hblocked := h.1 w
  rw [hpc] at hblocked
  cases stage with
  | block g =>
    rw [hpc, hblocked.1]
    rfl
  | asleep g =>
    have hg := hsignals.sound.observed_eq h.not_waking hblocked (g := g) (by
      show (s.workers w).stage = _
      rw [hpc]
      rfl)
    rw [hpc, ← hg]
    rfl
  | _ => exact absurd hblocked id

lemma coordinator_waitsFor (h : s.Stuck) (hsignals : s.Signals) {stage : WaitStage}
    (hpc : s.coordinator.pc = .wait stage) :
    s.coordinator.pc.waitsFor = some s.shared.progress.generation := by
  have hblocked := h.2
  rw [hpc] at hblocked
  cases stage with
  | block g =>
    rw [hpc, hblocked.1]
    rfl
  | asleep g =>
    have hg := hsignals.sound.observed_eq h.not_waking hblocked (g := g) (by
      show s.coordinator.pc.stage = _
      rw [hpc]
      rfl)
    rw [hpc, ← hg]
    rfl
  | _ => exact absurd hblocked id

/-- With an empty result channel, blocked workers have nothing to work on. -/
lemma idle (h : s.Stuck) (hlive : s.Live p) (hworking : s.Working p) (hW : 0 < W)
    (hworks : s.coordinator.pc.hasReturned = false) (hresults : s.shared.results = []) :
    s.shared.tasks = [] ∧ ∀ w, (s.workers w).held = 0 := by
  have hnobody : ∀ w stage m, s.workers w ≠ .wait stage m := by
    intro w stage m hpc
    rcases hlive.waits.noRoom hworks w (h.worker_waitsFor hlive.signals hpc) with hfull | hdue
    · rw [hresults] at hfull
      exact absurd ((le_max_left 1 _).trans hfull) (Nat.not_succ_le_zero 0)
    · rw [h.2.announced] at hdue
      cases hdue
  have hsleeps : ∀ w, s.shared.tasks ≠ [] → w ∈ s.shared.available := by
    intro w htasks
    have hblocked := h.1 w
    cases hpc : s.workers w with
    | asleep =>
      rw [hpc] at hblocked
      exact hblocked
    | pop =>
      rw [hpc] at hblocked
      exact absurd hblocked.2.1 htasks
    | done => exact absurd (hworking.ended w hpc).2 htasks
    | wait stage m => exact absurd hpc (hnobody w stage m)
    | _ =>
      rw [hpc] at hblocked
      exact absurd hblocked id
  constructor
  · by_contra htasks
    -- everybody sleeps, and yet the tasks are no more than the workers that are awake
    have hall : s.coordinator.pc.notifiesAll = false ∧ s.coordinator.pc.notifiesOne = false := by
      have hblocked := h.2
      cases hpc : s.coordinator.pc <;> rw [hpc] at hblocked <;>
        first | exact ⟨rfl, rfl⟩ | exact absurd hblocked id
    have hbalance := hlive.wakeups.awake hworks hall.1 ⟨⟨0, hW⟩, hsleeps _ htasks⟩
    have hawake : s.awake = 0 := by
      refine Finset.sum_eq_zero fun w _ => ?_
      have hmem := hsleeps w htasks
      rw [hlive.wakeups.asleep w hmem]
      simp only [WorkerPc.awake, hmem, not_true_eq_false, decide_false, Bool.toNat_false]
    rw [hawake, hall.2] at hbalance
    exact htasks (List.length_eq_zero_iff.mp (Nat.le_zero.mp hbalance))
  · intro w
    have hblocked := h.1 w
    cases hpc : s.workers w with
    | wait stage m => exact absurd hpc (hnobody w stage m)
    | pop | asleep | done => rfl
    | _ =>
      rw [hpc] at hblocked
      exact absurd hblocked id

/-- While the coordinator works, somebody has something to do. -/
lemma not_working (h : s.Stuck) (hlive : s.Live p) (hworking : s.Working p)
    (hcap : 0 < p.maxInFlight) (hW : 0 < W) (hworks : s.coordinator.pc.hasReturned = false) :
    False := by
  have hblocked := h.2
  cases hpc : s.coordinator.pc with
  | recv =>
    rw [hpc] at hblocked
    obtain ⟨htasks, hheld⟩ := h.idle hlive hworking hW hworks hblocked.1
    exact hworking.not_recv_of_idle hcap hpc htasks hblocked.1 hheld
  | wait stage =>
    -- the task queue is full and the result channel is empty
    have hwaits := h.coordinator_waitsFor hlive.signals hpc
    have hresults : s.shared.results = [] := by
      rcases hlive.waits.noResults hwaits with hresults | ⟨w, hw⟩
      · exact hresults
      · rw [(h.1 w).announced.2] at hw
        cases hw
    obtain ⟨htasks, -⟩ := h.idle hlive hworking hW hworks hresults
    rcases hlive.waits.tasksFull (CoordinatorPc.foundFull_of_waitsFor hwaits) with hfull | ⟨w, hw⟩
    · rw [htasks] at hfull
      exact absurd ((le_max_left 1 _).trans hfull) (Nat.not_succ_le_zero 0)
    · rw [(h.1 w).announced.1] at hw
      cases hw
  | returned stage outcome =>
    rw [hpc] at hworks
    cases hworks
  | _ =>
    rw [hpc] at hblocked
    exact absurd hblocked id

/-- The workers end once the coordinator has returned. -/
lemma not_join (h : s.Stuck) (hlive : s.Live p) {outcome : Outcome E}
    (hreturned : s.Returned p outcome) (hpc : s.coordinator.pc = .returned .join outcome) :
    False := by
  have hblocked := h.2
  rw [hpc] at hblocked
  obtain ⟨w, hw⟩ := not_forall.mp hblocked
  have hclosed := hlive.shutdown.closed _ _ hpc (by rintro ⟨⟩) (by rintro ⟨⟩)
  have hworker := h.1 w
  cases hplace : s.workers w with
  | done => exact hw hplace
  | pop =>
    rw [hplace] at hworker
    rw [hworker.2.2] at hclosed
    cases hclosed
  | asleep =>
    rw [hplace] at hworker
    have hmem : w ∈ s.shared.available := hworker
    rw [hlive.wakeups.closed hclosed] at hmem
    exact absurd hmem (Finset.notMem_empty w)
  | wait stage m =>
    cases hcancelled : s.shared.cancelled with
    | true =>
      rw [hplace] at hworker
      cases stage with
      | block g =>
        rw [hworker.2] at hcancelled
        cases hcancelled
      | asleep g =>
        have hmem : some w ∈ s.shared.progress.sleeping := hworker
        rw [hlive.shutdown.noSleeper _ _ hpc rfl hcancelled] at hmem
        exact absurd hmem (Finset.notMem_empty _)
      | _ => exact absurd hworker id
    | false =>
      -- nothing was cancelled, so all ordinals have been committed
      have hcancels : outcome.cancels = false := by
        by_contra hcancels
        rw [hlive.shutdown.cancelled _ _ hpc (by rintro ⟨⟩)
          (Bool.eq_true_of_not_eq_false hcancels)] at hcancelled
        cases hcancelled
      have hempty : s.inFlight ≤ 0 := by
        have hle := hreturned.inFlight
        rw [Finset.Ico_eq_empty_of_le (hreturned.settled hcancels)] at hle
        exact hle
      have hheld : (s.workers w).held ≤ s.inFlight := by
        refine le_trans ?_ ((Multiset.le_add_left _ _).trans (Multiset.le_add_right _ _))
        exact Finset.single_le_sum (f := fun v => (s.workers v).held)
          (fun _ _ => Multiset.zero_le _) (Finset.mem_univ w)
      have hmem : m.1 ∈ (s.workers w).held := by
        rw [hplace]
        exact Multiset.mem_singleton_self _
      exact absurd (Multiset.mem_of_le (hheld.trans hempty) hmem) (Multiset.notMem_zero _)
  | _ =>
    rw [hplace] at hworker
    exact absurd hworker id

end Stuck

/-- Only a finished executor is stuck. -/
theorem Reachable.not_stuck (hcap : 0 < p.maxInFlight) (hW : 0 < W) (h : s.Reachable p)
    (hunfinished : ∀ outcome, s.coordinator.pc ≠ .returned .finished outcome) : ¬ s.Stuck := by
  intro hstuck
  have hordered := h.ordered hcap hW
  have hlive := h.live hcap hW
  cases hworks : s.coordinator.pc.hasReturned with
  | false => exact hstuck.not_working hlive (hordered.working hworks) hcap hW hworks
  | true =>
    have hblocked := hstuck.2
    cases hpc : s.coordinator.pc with
    | returned stage outcome =>
      cases stage with
      | join => exact hstuck.not_join hlive (hordered.returned _ _ hpc) hpc
      | finished => exact hunfinished outcome hpc
      | _ =>
        rw [hpc] at hblocked
        exact absurd hblocked id
    | _ =>
      rw [hpc] at hworks
      cases hworks

end ExecutorState

end ArcadiaTio.Ocb
