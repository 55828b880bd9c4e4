import ArcadiaTio.Ocb.Parallel.Deadlock

/-!
# The executor finishes

Three measures show that the parties cannot take steps for ever.  The first one is the work that is
left: the ordinals on their way, the windows, the flags that are switched once, and the shutdown.
The second one is what is left of the notifications under way, and the third one bounds the steps
of the waits and loops that are left while nobody notifies.  Since the executor is not stuck before
it has finished, it finishes.
-/

namespace ArcadiaTio.Ocb

open ArcadiaTio.Lib

variable {W : ℕ} {M T E S : Type} {p : BoundedOrdered M T E S}

/-! ### The measures -/

/-- The wait for a change since generation `g` is not over. -/
def Shared.same (sh : Shared W T E) (g : ℕ) : Bool :=
  sh.progress.generation = g ∧ sh.cancelled = false

lemma Shared.same_iff (sh : Shared W T E) (g : ℕ) :
    sh.same g = true ↔ sh.progress.generation = g ∧ sh.cancelled = false := by
  simp [Shared.same]

/-- The shared part of the work that is left. -/
def Shared.load (sh : Shared W T E) : ℕ :=
  5 * sh.tasks.length + 3 * sh.results.length + (!sh.progressNotifications).toNat +
    (!sh.closed).toNat

/-- What is left of the shutdown. -/
def CoordinatorPc.shutdown : CoordinatorPc T E → ℕ
  | .returned .cancel _ => 5
  | .returned .close _ => 4
  | .returned (.notify _) _ => 3
  | .returned .dropReceiver _ => 2
  | .returned .join _ => 1
  | .returned .finished _ => 0
  | _ => 6

/-- The coordinator's part of the work that is left. -/
def Coordinator.load (p : BoundedOrdered M T E S) (c : Coordinator T E S) : ℕ :=
  6 * (p.taskCount - c.nextToQueue) + 2 * Multiset.card c.stored +
    (p.taskCount - c.windowStart) + c.pc.shutdown

/-- What is left of the notification of a party. -/
def noticeRank : Stage → ℕ
  | .notify stage => stage.rank
  | _ => 0

/-- A bound on the steps that are left of the current round of a worker. -/
def WorkerPc.rank (sh : Shared W T E) (w : Fin W) : WorkerPc T E → ℕ
  | .pop => 1
  | .asleep => if w ∈ sh.available then 0 else 2
  | .popped _ _ => 8
  | .running _ => 7
  | .publish _ => 6
  | .snapshot _ => if sh.cancelled then 18 else 5
  | .trySend _ (some g) => if sh.same g then 4 else 17
  | .trySend _ none => if sh.progressNotifications then 7 else 4
  | .wait stage _ => stage.rank (some w ∈ sh.progress.sleeping) sh.same
  | .sent _ => 2
  | .done => 0

/-- A bound on the steps that are left of the current round of the coordinator. -/
def CoordinatorPc.rank (sh : Shared W T E) : CoordinatorPc T E → ℕ
  | .head => 9
  | .pushWindow => 8
  | .notifyAll => 2 * W + 8
  | .fill => 7
  | .snapshot => 6
  | .tryPush (some g) => if sh.same g then 5 else 18
  | .tryPush none => if sh.progressNotifications then 11 else 5
  | .tryRecv (some g) => if sh.same g then 4 else 17
  | .tryRecv none => if sh.progressNotifications then 10 else 4
  | .notifyOne => 12
  | .close => 6
  | .closed _ => 10
  | .wait stage => stage.rank (none ∈ sh.progress.sleeping) sh.same
  | .collect => 1
  | .received _ _ => 10
  | .recv | .commit | .returned _ _ => 0

namespace ExecutorState

/-- The work that is left. -/
def load (p : BoundedOrdered M T E S) (s : ExecutorState W T E S) : ℕ :=
  s.shared.load + 4 * ∑ w, Multiset.card (s.workers w).held + s.coordinator.load p

/-- What is left of the notifications under way. -/
def notices (s : ExecutorState W T E S) : ℕ := ∑ x, noticeRank (s.stage x)

/-- A bound on the steps that are left of the current rounds. -/
def rounds (s : ExecutorState W T E S) : ℕ :=
  ∑ w, (s.workers w).rank s.shared w + s.coordinator.pc.rank s.shared

end ExecutorState

/-! ### Steps of workers -/

/-- The parties other than `x` see no difference between two states of shared memory. -/
structure Shared.SameFor (x : Option (Fin W)) (sh sh' : Shared W T E) : Prop where
  generation : sh'.progress.generation = sh.progress.generation
  cancelled : sh'.cancelled = sh.cancelled
  notifications : sh'.progressNotifications = sh.progressNotifications
  available : ∀ v, some v ≠ x → (v ∈ sh'.available ↔ v ∈ sh.available)
  sleeping : ∀ y, y ≠ x → (y ∈ sh'.progress.sleeping ↔ y ∈ sh.progress.sleeping)

lemma Shared.SameFor.refl (x : Option (Fin W)) (sh : Shared W T E) : sh.SameFor x sh :=
  ⟨rfl, rfl, rfl, fun _ _ => Iff.rfl, fun _ _ => Iff.rfl⟩

lemma Shared.SameFor.same {x : Option (Fin W)} {sh sh' : Shared W T E} (h : sh.SameFor x sh') :
    sh'.same = sh.same := by
  funext g
  simp only [Shared.same, h.generation, h.cancelled]

lemma Shared.SameFor.rank_worker {x : Option (Fin W)} {sh sh' : Shared W T E}
    (h : sh.SameFor x sh') {v : Fin W} (hv : some v ≠ x) (pc : WorkerPc T E) :
    pc.rank sh' v = pc.rank sh v := by
  cases pc with
  | trySend m observed =>
    cases observed <;> simp only [WorkerPc.rank, h.same, h.notifications]
  | _ => simp only [WorkerPc.rank, h.same, h.cancelled, h.available v hv, h.sleeping _ hv]

lemma Shared.SameFor.rank_coordinator {x : Option (Fin W)} {sh sh' : Shared W T E}
    (h : sh.SameFor x sh') (hx : none ≠ x) (pc : CoordinatorPc T E) :
    pc.rank sh' = pc.rank sh := by
  cases pc with
  | tryPush observed | tryRecv observed =>
    cases observed <;> simp only [CoordinatorPc.rank, h.same, h.notifications]
  | _ => simp only [CoordinatorPc.rank, h.same, h.sleeping _ hx]

/-- A step does some of the work, or some of the party's notification, or some of its round. -/
def Advances (load load' : ℕ) (stage stage' : Stage) (round : Prop) : Prop :=
  load' < load ∨ load' = load ∧
    (noticeRank stage' < noticeRank stage ∨ noticeRank stage' = noticeRank stage ∧ round)

/-- Every step of a worker makes progress. -/
lemma WorkerStep.advances {w : Fin W} {sh sh' : Shared W T E} {pc pc' : WorkerPc T E}
    (h : WorkerStep p w sh pc sh' pc') :
    Advances (sh.load + 4 * Multiset.card pc.held) (sh'.load + 4 * Multiset.card pc'.held)
      pc.stage pc'.stage (sh.SameFor (some w) sh' ∧ pc'.rank sh' w < pc.rank sh w) := by
  cases h with
  | pop _ htasks =>
    left
    simp only [Shared.load, htasks, WorkerPc.held, List.length_cons, Multiset.card_singleton,
      Multiset.card_zero]
    omega
  | taskCancelled | publishCancelled | sendDisconnected | sendGiveUp =>
    left
    simp only [WorkerPc.held, Multiset.card_singleton, Multiset.card_zero]
    omega
  | send =>
    left
    simp only [Shared.load, WorkerPc.held, List.length_append, List.length_singleton,
      Multiset.card_singleton, Multiset.card_zero]
    omega
  | popNotify h | sentNotify h => exact Or.inr ⟨rfl, Or.inl h.rank_lt⟩
  | popSleep =>
    refine Or.inr ⟨rfl, Or.inr ⟨rfl, ⟨rfl, rfl, rfl, fun v hv => ?_, fun _ _ => Iff.rfl⟩, ?_⟩⟩
    · have hvw : v ≠ w := fun heq => hv (congrArg some heq)
      simp [hvw]
    · simp [WorkerPc.rank]
  | popWake hw =>
    refine Or.inr ⟨rfl, Or.inr ⟨rfl, .refl _ _, ?_⟩⟩
    simp [WorkerPc.rank, hw]
  | publish hc =>
    refine Or.inr ⟨rfl, Or.inr ⟨rfl, .refl _ _, ?_⟩⟩
    simp [WorkerPc.rank, hc]
  | snapshot =>
    refine Or.inr ⟨rfl, Or.inr ⟨rfl, .refl _ _, ?_⟩⟩
    -- a fresh snapshot is the current generation
    cases hon : sh.progressNotifications with
    | true =>
      simp only [Shared.progressSnapshot, hon, if_true, WorkerPc.rank, Shared.same]
      cases sh.cancelled <;> simp
    | false =>
      simp only [Shared.progressSnapshot, hon, Bool.false_eq_true, if_false, WorkerPc.rank]
      split <;> omega
  | sendFull =>
    refine Or.inr ⟨rfl, Or.inr ⟨rfl, .refl _ _, ?_⟩⟩
    simp only [WorkerPc.rank, WaitStage.rank]
    split <;> omega
  | sendEnable =>
    cases hon : sh.progressNotifications with
    | true =>
      have hsame : ({ sh with progressNotifications := true } : Shared W T E) = sh := by
        rw [← hon]
      rw [hsame]
      refine Or.inr ⟨rfl, Or.inr ⟨rfl, .refl _ _, ?_⟩⟩
      simp [WorkerPc.rank, hon]
    | false =>
      left
      simp [Shared.load, hon, WorkerPc.held]
  | sendWait h =>
    have hsame : sh.SameFor (some w) { sh with progress := _ } :=
      ⟨h.generation, rfl, rfl, fun _ _ => Iff.rfl, fun y hy => h.mem_sleeping hy⟩
    refine Or.inr ⟨rfl, Or.inr ⟨rfl, hsame, ?_⟩⟩
    simp only [WorkerPc.rank, hsame.same]
    exact h.rank_lt sh.same_iff
  | popCancelled | popClosed | start | run | sendRetry | sentDone =>
    exact Or.inr ⟨rfl, Or.inr ⟨rfl, ⟨rfl, rfl, rfl, fun _ _ => Iff.rfl, fun _ _ => Iff.rfl⟩,
      by simp [WorkerPc.rank, WaitStage.rank]⟩⟩

/-! ### The task queue is closed once -/

/-- Places from which the coordinator goes on to close the task queue. -/
def CoordinatorPc.closing : CoordinatorPc T E → Bool
  | .notifyAll | .fill | .notifyOne | .close => true
  | _ => false

namespace ExecutorState.Working

variable {s : ExecutorState W T E S}

lemma closed_eq_false (h : s.Working p) (hlt : s.coordinator.nextToQueue < p.taskCount) :
    s.shared.closed = false := by
  by_contra hclosed
  have hqueue := h.closed (Bool.eq_true_of_not_eq_false hclosed)
  omega

/-- An attempt to push has an ordinal to push. -/
lemma queue_lt (h : s.Working p) {pc : CoordinatorPc T E} (hpc : s.coordinator.pc = pc)
    (hplace : pc = .snapshot ∨ (∃ observed, pc = .tryPush observed) ∨
      (∃ observed, pc = .tryRecv observed) ∨ ∃ stage, pc = .wait stage) :
    s.coordinator.nextToQueue < p.taskCount := by
  cases hmode : p.mode with
  | sliding =>
    have hat := (h.sliding hmode).place
    rcases hplace with rfl | ⟨_, rfl⟩ | ⟨_, rfl⟩ | ⟨_, rfl⟩ <;> rw [hpc] at hat <;> exact hat.2.1
  | windowed =>
    have hat := (h.windowed hmode).place
    have hend : p.windowEnd s.coordinator.windowStart ≤ p.taskCount := min_le_right _ _
    rcases hplace with rfl | ⟨_, rfl⟩ | ⟨_, rfl⟩ | ⟨_, rfl⟩ <;> rw [hpc] at hat <;>
      exact hat.2.2.2.trans_le hend

/-- At the start of a window nothing is admitted. -/
lemma queue_head (h : s.Working p) (hpc : s.coordinator.pc = .head) (hmode : p.mode = .windowed)
    (hnext : s.coordinator.windowStart < p.taskCount) :
    s.coordinator.nextToQueue = s.coordinator.windowStart := by
  have hat := (h.windowed hmode).place
  rw [hpc] at hat
  obtain ⟨hcommit, hqueue⟩ := hat
  omega

/-- When a window is pushed as a whole, it is the first that is queued of it. -/
lemma queue_pushWindow (h : s.Working p) (hpc : s.coordinator.pc = .pushWindow) :
    s.coordinator.windowStart < p.taskCount ∧
      s.coordinator.nextToQueue = s.coordinator.windowStart := by
  cases hmode : p.mode with
  | sliding =>
    have hat := (h.sliding hmode).place
    rw [hpc] at hat
    exact hat.elim
  | windowed =>
    have hat := (h.windowed hmode).place
    rw [hpc] at hat
    exact ⟨hat.1, hat.2.2⟩

/-- While the coordinator may still close the queue, it is open. -/
lemma closing (h : s.Working p)
    (hclosing : s.coordinator.pc.closing = true → s.shared.closed = false) {ended : Prop}
    {sh : Shared W T E} {c : Coordinator T E S}
    (hstep : CoordinatorStep p ended s.shared s.coordinator sh c) (hpc' : c.pc.closing = true) :
    sh.closed = false := by
  cases hstep with
  | windowStart hpc hmode hnext =>
    exact h.closed_eq_false (by rw [h.queue_head hpc hmode hnext]; exact hnext)
  | pushWindowFull _ hclosed | pushWindow _ hclosed | push _ hclosed => exact hclosed
  | notifyAll hpc | filled hpc | notifyNobody hpc | notifyOne hpc =>
    exact hclosing (by rw [hpc]; rfl)
  | tryRecvEnable hpc => exact h.closed_eq_false (h.queue_lt hpc (by simp))
  | waited hpc => exact h.closed_eq_false (h.queue_lt hpc (by simp))
  | @received m hpc =>
    rw [Coordinator.insertPending] at hpc'
    cases hmode : p.mode with
    | sliding =>
      rw [hmode] at hpc'
      cases hpc'
    | windowed =>
      simp only [hmode] at hpc'
      split at hpc'
      · next hlt => exact h.closed_eq_false (hlt.trans_le (min_le_right _ _))
      · cases hpc'
  | @slidingCommit r hpc | @windowCommit r hpc =>
    rcases pc_commitNext (p := p) s.coordinator r with heq | ⟨outcome, heq⟩ <;> rw [heq] at hpc'
    · rw [hpc] at hpc'
      cases hpc'
    · cases hpc'
  | closeDone =>
    rw [Coordinator.afterClose] at hpc'
    cases hmode : p.mode <;> rw [hmode] at hpc' <;> cases hpc'
  | _ => cases hpc'

end ExecutorState.Working

/-! ### Steps of the coordinator -/

namespace Coordinator

variable {c : Coordinator T E S}

lemma shutdown_of_works {pc : CoordinatorPc T E} (h : pc.hasReturned = false) :
    pc.shutdown = 6 := by
  cases pc <;> first | rfl | cases h

/-- A change of place between two accesses to the queue or the channel is no work. -/
lemma load_eq {c' : Coordinator T E S} (hqueue : c'.nextToQueue = c.nextToQueue)
    (hstart : c'.windowStart = c.windowStart) (hpending : c'.pending = c.pending)
    (hinHand : c'.pc.inHand = c.pc.inHand) (hshutdown : c'.pc.shutdown = c.pc.shutdown) :
    c'.load p = c.load p := by
  simp only [load, stored, hqueue, hstart, hpending, hinHand, hshutdown]

lemma inHand_of_plain {pc : CoordinatorPc T E} (h : pc.plain = true) : pc.inHand = none := by
  cases pc <;> first | rfl | cases h

lemma shutdown_of_plain {pc : CoordinatorPc T E} (h : pc.plain = true) : pc.shutdown = 6 := by
  cases pc <;> first | rfl | cases h

/-- To return is progress. -/
lemma load_finishWith (h : c.pc.hasReturned = false) (outcome : Outcome E) :
    (c.finishWith outcome).load p < c.load p := by
  have hshutdown := shutdown_of_works h
  have hstored : Multiset.card (c.finishWith outcome).stored ≤ Multiset.card c.stored :=
    Multiset.card_le_card (add_le_add_left (Multiset.zero_le _) _)
  have hshutdown' : (c.finishWith outcome).pc.shutdown = 5 := rfl
  rw [load, load, hshutdown, hshutdown', show (c.finishWith outcome).nextToQueue = c.nextToQueue
    from rfl, show (c.finishWith outcome).windowStart = c.windowStart from rfl]
  omega

/-- A commit takes an ordinal out of flight. -/
lemma load_commitNext {r : Except E T} (hlookup : c.pending.lookup c.nextToCommit = some r)
    (hworks : c.pc.hasReturned = false) (hinHand : c.pc.inHand = none) :
    (c.commitNext p r).load p < c.load p := by
  have hlength : (c.pending.filter (·.1 ≠ c.nextToCommit)).length < c.pending.length := by
    rw [List.length_filter_lt_length_iff_exists]
    exact ⟨_, mem_of_lookup hlookup, by simp⟩
  have hshutdown := shutdown_of_works hworks
  have hstored : Multiset.card c.stored = c.pending.length := by
    rw [stored_of_none hinHand, card_ordinals]
  have hreturned : ∀ c' : Coordinator T E S, c'.nextToQueue = c.nextToQueue →
      c'.windowStart = c.windowStart →
      c'.pending = c.pending.filter (·.1 ≠ c.nextToCommit) → c'.pc.inHand = none →
      c'.pc.shutdown ≤ 6 → c'.load p < c.load p := by
    intro c' hqueue hstart hpending hnone hle
    have hstored' : Multiset.card c'.stored = c'.pending.length := by
      rw [stored_of_none hnone, card_ordinals]
    rw [load, load, hqueue, hstart, hstored, hstored', hpending, hshutdown]
    omega
  rcases r with error | value
  · exact hreturned _ rfl rfl rfl rfl (Nat.le_succ 5)
  · rcases hcontrol : (p.orderedCommit c.commitState c.nextToCommit value).2 with error | _ | _ <;>
      simp only [commitNext, hcontrol]
    · exact hreturned _ rfl rfl rfl rfl (Nat.le_succ 5)
    · exact hreturned _ rfl rfl rfl hinHand (le_of_eq hshutdown)
    · exact hreturned _ rfl rfl rfl rfl (Nat.le_succ 5)

end Coordinator

lemma WorkerPc.rank_le_add (sh : Shared W T E) (available : Finset (Fin W)) (v : Fin W)
    (pc : WorkerPc T E) :
    pc.rank { sh with available := available } v ≤ pc.rank sh v + 2 := by
  cases pc with
  | asleep =>
    simp only [rank]
    split <;> omega
  | trySend m observed => cases observed <;> exact Nat.le_add_right _ _
  | _ => exact Nat.le_add_right _ _

/-- The rounds of the workers and of the coordinator become shorter. -/
def Shortens (sh sh' : Shared W T E) (pc pc' : CoordinatorPc T E) : Prop :=
  ∀ workers : Fin W → WorkerPc T E,
    ∑ w, (workers w).rank sh' w + pc'.rank sh' < ∑ w, (workers w).rank sh w + pc.rank sh

lemma Shortens.of_sameFor {sh sh' : Shared W T E} {pc pc' : CoordinatorPc T E}
    (h : sh.SameFor none sh') (hlt : pc'.rank sh' < pc.rank sh) : Shortens sh sh' pc pc' := by
  intro workers
  rw [Finset.sum_congr rfl fun w _ => h.rank_worker (Option.some_ne_none w) (workers w)]
  exact Nat.add_lt_add_left hlt _

lemma Shortens.of_rank {sh : Shared W T E} {pc pc' : CoordinatorPc T E}
    (hlt : pc'.rank sh < pc.rank sh) : Shortens sh sh pc pc' :=
  .of_sameFor (.refl none sh) hlt

/-- Waking one worker lengthens its round by less than it shortens that of the coordinator. -/
lemma Shortens.notifyOne {sh : Shared W T E} {w : Fin W} {pc' : CoordinatorPc T E}
    (hle : pc'.rank sh ≤ 9) :
    Shortens sh { sh with available := sh.available.erase w } .notifyOne pc' := by
  intro workers
  have hother : ∀ v, v ≠ w → (workers v).rank { sh with available := sh.available.erase w } v =
      (workers v).rank sh v := by
    intro v hv
    cases workers v with
    | asleep => simp [WorkerPc.rank, hv]
    | trySend m observed => cases observed <;> rfl
    | _ => rfl
  have hsum := sum_add_of_eq_off (f := fun v => (workers v).rank sh v)
    (g := fun v => (workers v).rank { sh with available := sh.available.erase w } v) (i := w) hother
  have hworker := WorkerPc.rank_le_add sh (sh.available.erase w) w (workers w)
  have hrank : pc'.rank ({ sh with available := sh.available.erase w } : Shared W T E) =
      pc'.rank sh := by
    cases pc' <;> rfl
  have hone : (CoordinatorPc.notifyOne : CoordinatorPc T E).rank sh = 12 := rfl
  omega

lemma Shortens.notifyAll {sh : Shared W T E} :
    Shortens sh { sh with available := ∅ } .notifyAll .fill := by
  intro workers
  have hle : ∑ w, (workers w).rank { sh with available := ∅ } w ≤
      ∑ w, ((workers w).rank sh w + 2) :=
    Finset.sum_le_sum fun w _ => WorkerPc.rank_le_add sh ∅ w (workers w)
  rw [Finset.sum_add_distrib, Finset.sum_const, Finset.card_univ, Fintype.card_fin,
    nsmul_eq_mul, Nat.cast_id] at hle
  simp only [CoordinatorPc.rank]
  omega

lemma rank_plain_le (sh : Shared W T E) {pc : CoordinatorPc T E} (h : pc.plain = true) :
    pc.rank sh ≤ 9 := by
  cases pc <;> first | (simp [CoordinatorPc.rank]; done) | cases h

/-- The coordinator makes progress when it goes on from `s` with these variables. -/
def ExecutorState.Progresses (p : BoundedOrdered M T E S) (s : ExecutorState W T E S)
    (sh : Shared W T E) (c : Coordinator T E S) : Prop :=
  Advances (s.shared.load + s.coordinator.load p) (sh.load + c.load p) s.coordinator.pc.stage
    c.pc.stage (Shortens s.shared sh s.coordinator.pc c.pc)

namespace ExecutorState.Progresses

variable {s : ExecutorState W T E S} {sh : Shared W T E} {c : Coordinator T E S}
  {pc : CoordinatorPc T E}

/-! One lemma for each kind of step. -/

/-- To go on to another place of the same round. -/
protected lemma go (hpc : s.coordinator.pc = pc) (hload : c.load p = s.coordinator.load p)
    (hnotice : noticeRank c.pc.stage = noticeRank pc.stage)
    (hrank : c.pc.rank s.shared < pc.rank s.shared) : s.Progresses p s.shared c := by
  rw [Progresses, hload, hpc]
  exact Or.inr ⟨rfl, Or.inr ⟨hnotice, .of_rank hrank⟩⟩

lemma load_of_plain (hinHand : s.coordinator.pc.inHand = none)
    (hworks : s.coordinator.pc.hasReturned = false) (hplain : pc.plain = true) :
    ({ s.coordinator with pc := pc } : Coordinator T E S).load p = s.coordinator.load p := by
  refine Coordinator.load_eq rfl rfl rfl ?_ ?_
  · rw [hinHand]
    exact Coordinator.inHand_of_plain hplain
  · rw [Coordinator.shutdown_of_works hworks]
    exact Coordinator.shutdown_of_plain hplain

/-- To go on to a place without a message or a notification. -/
protected lemma goPlain {pc' : CoordinatorPc T E} (hpc : s.coordinator.pc = pc)
    (hinHand : pc.inHand = none) (hworks : pc.hasReturned = false) (hplain : pc'.plain = true)
    (hnotice : noticeRank pc.stage = noticeRank .idle) (hrank : pc'.rank s.shared < pc.rank s.shared) :
    s.Progresses p s.shared { s.coordinator with pc := pc' } := by
  refine .go hpc (load_of_plain (by rw [hpc, hinHand]) (by rw [hpc, hworks]) hplain) ?_ hrank
  rw [hnotice, stage_of_plain hplain]

/-- To return. -/
protected lemma finish (hworks : s.coordinator.pc.hasReturned = false) (outcome : Outcome E) :
    s.Progresses p s.shared (s.coordinator.finishWith outcome) :=
  Or.inl (Nat.add_lt_add_left (Coordinator.load_finishWith hworks outcome) _)

/-- To do some of the work that shared memory holds. -/
protected lemma shared (hload : c.load p = s.coordinator.load p) (hlt : sh.load < s.shared.load) :
    s.Progresses p sh c := by
  rw [Progresses, hload]
  exact Or.inl (Nat.add_lt_add_right hlt _)

/-- To commit an ordinal. -/
protected lemma commit {r : Except E T}
    (hlookup : s.coordinator.pending.lookup s.coordinator.nextToCommit = some r)
    (hworks : s.coordinator.pc.hasReturned = false) (hinHand : s.coordinator.pc.inHand = none) :
    s.Progresses p (s.shared.afterCommit p s.coordinator r) (s.coordinator.commitNext p r) := by
  have hlt := Coordinator.load_commitNext (p := p) hlookup hworks hinHand
  rcases s.shared.afterCommit_eq (p := p) s.coordinator r with heq | heq <;> rw [heq] <;>
    exact Or.inl (Nat.add_lt_add_left hlt _)

/-- To go on to the next window, which starts later. -/
protected lemma windowNext (hworks : s.Working p) (hpc : s.coordinator.pc = .commit)
    (hcap : 0 < p.maxInFlight) :
    s.Progresses p s.shared { s.coordinator with
      pc := .head, windowStart := s.coordinator.windowStart + p.maxInFlight } := by
  have hlt : s.coordinator.windowStart < p.taskCount := by
    cases hmode : p.mode with
    | sliding =>
      have hplace := (hworks.sliding hmode).place
      rw [hpc] at hplace
      exact hplace.elim
    | windowed =>
      have hplace := (hworks.windowed hmode).place
      rw [hpc] at hplace
      exact hplace.1
  refine Or.inl (Nat.add_lt_add_left ?_ _)
  simp only [Coordinator.load, Coordinator.stored, hpc, CoordinatorPc.inHand,
    CoordinatorPc.shutdown]
  omega

/-- To look at the generation before a push attempt. -/
protected lemma snapshot (hpc : s.coordinator.pc = .snapshot)
    (hcancelled : s.shared.cancelled = false) :
    s.Progresses p s.shared
      { s.coordinator with pc := .tryPush s.shared.progressSnapshot } := by
  refine .go hpc (Coordinator.load_eq rfl rfl rfl (by rw [hpc]; rfl) (by rw [hpc]; rfl)) rfl ?_
  cases hon : s.shared.progressNotifications with
  | true => simp [Shared.progressSnapshot, hon, CoordinatorPc.rank, Shared.same, hcancelled]
  | false => simp [Shared.progressSnapshot, hon, CoordinatorPc.rank]

/-- To ask for notifications of progress, which happens once, and to try again. -/
protected lemma enable {pc' : CoordinatorPc T E} (hpc : s.coordinator.pc = pc)
    (hinHand : pc.inHand = none) (hworks : pc.hasReturned = false) (hplain : pc'.plain = true)
    (hnotice : noticeRank pc.stage = noticeRank .idle)
    (hrank : s.shared.progressNotifications = true → pc'.rank s.shared < pc.rank s.shared) :
    s.Progresses p { s.shared with progressNotifications := true }
      { s.coordinator with pc := pc' } := by
  cases hon : s.shared.progressNotifications with
  | true =>
    rw [show ({ s.shared with progressNotifications := true } : Shared W T E) = s.shared by
      rw [← hon]]
    exact .goPlain hpc hinHand hworks hplain hnotice (hrank hon)
  | false =>
    refine .shared (load_of_plain (by rw [hpc, hinHand]) (by rw [hpc, hworks]) hplain) ?_
    simp [Shared.load, hon]

/-- To push a whole window. -/
protected lemma pushWindow (hcap : 0 < p.maxInFlight) (hworks : s.Working p)
    (hpc : s.coordinator.pc = .pushWindow) :
    s.Progresses p
      { s.shared with
        tasks := s.shared.tasks ++ List.range' s.coordinator.windowStart
          (p.windowEnd s.coordinator.windowStart - s.coordinator.windowStart) }
      { s.coordinator with
        pc := .notifyAll, nextToQueue := p.windowEnd s.coordinator.windowStart } := by
  have hplace := hworks.queue_pushWindow hpc
  have hend : p.windowEnd s.coordinator.windowStart =
      min (s.coordinator.windowStart + p.maxInFlight) p.taskCount := rfl
  refine Or.inl ?_
  simp only [Shared.load, Coordinator.load, Coordinator.stored, hpc, CoordinatorPc.inHand,
    CoordinatorPc.shutdown, List.length_append, List.length_range']
  omega

/-- To push the next ordinal. -/
protected lemma push {observed : Option ℕ} (hpc : s.coordinator.pc = .tryPush observed)
    (hlt : s.coordinator.nextToQueue < p.taskCount) :
    s.Progresses p { s.shared with tasks := s.shared.tasks ++ [s.coordinator.nextToQueue] }
      { s.coordinator with
        pc := .notifyOne, nextToQueue := s.coordinator.nextToQueue + 1 } := by
  refine Or.inl ?_
  simp only [Shared.load, Coordinator.load, Coordinator.stored, hpc, CoordinatorPc.inHand,
    CoordinatorPc.shutdown, List.length_append, List.length_singleton]
  omega

/-- To take a message out of the channel. -/
protected lemma receive {m : Message T E} {rest : List (Message T E)}
    (hresults : s.shared.results = m :: rest) (hinHand : s.coordinator.pc.inHand = none)
    (hworks : s.coordinator.pc.hasReturned = false) :
    s.Progresses p { s.shared with results := rest }
      { s.coordinator with pc := .received .bump m } := by
  have hstored : Multiset.card ({ s.coordinator with pc := .received .bump m } :
      Coordinator T E S).stored = Multiset.card s.coordinator.stored + 1 := by
    rw [Coordinator.stored_of_none hinHand, Coordinator.stored_of_some rfl, Multiset.card_add,
      Multiset.card_singleton, add_comm]
  refine Or.inl ?_
  rw [Coordinator.load, Coordinator.load, hstored, Coordinator.shutdown_of_works hworks]
  simp only [Shared.load, hresults, CoordinatorPc.shutdown, List.length_cons]
  omega

/-- To wait for progress. -/
protected lemma wait {stage stage' : WaitStage} {progress : EventCount (Option (Fin W))}
    (hpc : s.coordinator.pc = .wait stage)
    (h : WaitStep none s.shared.cancelled s.shared.progress stage progress stage') :
    s.Progresses p { s.shared with progress := progress }
      { s.coordinator with pc := .wait stage' } := by
  have hsame : s.shared.SameFor none { s.shared with progress := progress } :=
    ⟨h.generation, rfl, rfl, fun _ _ => Iff.rfl, fun y hy => h.mem_sleeping hy⟩
  refine Or.inr ⟨?_, Or.inr ⟨?_, .of_sameFor hsame ?_⟩⟩
  · exact congrArg (s.shared.load + ·)
      (Coordinator.load_eq rfl rfl rfl (by rw [hpc]; rfl) (by rw [hpc]; rfl))
  · rw [hpc]
    rfl
  · rw [hpc]
    simp only [CoordinatorPc.rank, hsame.same]
    exact h.rank_lt s.shared.same_iff

/-- To insert what was received. -/
protected lemma received {m : Message T E} (hpc : s.coordinator.pc = .received .finished m) :
    s.Progresses p s.shared (s.coordinator.insertPending p m) := by
  have hplain := plain_insertPending (p := p) s.coordinator m
  refine .go hpc ?_ (by rw [stage_of_plain hplain]; rfl)
    ((rank_plain_le _ hplain).trans_lt (by simp [CoordinatorPc.rank]))
  have hstored : (s.coordinator.insertPending p m).stored = s.coordinator.stored := by
    rw [Coordinator.stored_of_none (Coordinator.inHand_of_plain hplain),
      Coordinator.stored_of_some (by rw [hpc]; rfl)]
    exact ordinals_cons m s.coordinator.pending
  rw [Coordinator.load, Coordinator.load, hstored, hpc, Coordinator.shutdown_of_plain hplain]
  rfl

end ExecutorState.Progresses

/-- Every step of the coordinator makes progress. -/
lemma CoordinatorStep.advances {s : ExecutorState W T E S} {ended : Prop} {sh : Shared W T E}
    {c : Coordinator T E S} (h : CoordinatorStep p ended s.shared s.coordinator sh c)
    (hcap : 0 < p.maxInFlight) (hworking : s.coordinator.pc.hasReturned = false → s.Working p)
    (hclosing : s.coordinator.pc.closing = true → s.shared.closed = false) :
    s.Progresses p sh c := by
  cases h with
  | slidingDone hpc | windowedDone hpc | pushWindowClosed hpc | windowFailed hpc
  | windowMissing hpc | pushClosed hpc | tryRecvDisconnected hpc | recvDisconnected hpc
  | receivedTwice hpc => exact .finish (by rw [hpc]; rfl) _
  | slidingCommit hpc _ _ hlookup | windowCommit hpc _ hlookup =>
    exact .commit hlookup (by rw [hpc]; rfl) (by rw [hpc]; rfl)
  -- steps between places lower the rank of the place and nothing else
  | slidingAdmit hpc | slidingAwait hpc | fill hpc | collect hpc | windowReady hpc =>
    exact .goPlain hpc rfl rfl rfl rfl (by simp [CoordinatorPc.rank])
  | filled hpc =>
    split <;> exact .goPlain hpc rfl rfl rfl rfl (by simp [CoordinatorPc.rank])
  | windowStart hpc hmode hnext =>
    have hqueue := (hworking (by rw [hpc]; rfl)).queue_head hpc hmode hnext
    split <;> exact .go hpc (Coordinator.load_eq hqueue.symm rfl rfl (by rw [hpc]; rfl)
      (by rw [hpc]; rfl)) rfl (by simp [CoordinatorPc.rank])
  | windowNext hpc => exact .windowNext (hworking (by rw [hpc]; rfl)) hpc hcap
  | snapshot hpc => exact .snapshot hpc (hworking (by rw [hpc]; rfl)).cancelled
  | @pushFull observed hpc =>
    refine .go hpc (Coordinator.load_eq rfl rfl rfl (by rw [hpc]; rfl) (by rw [hpc]; rfl)) rfl ?_
    cases observed <;> simp only [CoordinatorPc.rank] <;> split <;> omega
  | tryRecvWait hpc =>
    refine .go hpc (Coordinator.load_eq rfl rfl rfl (by rw [hpc]; rfl) (by rw [hpc]; rfl)) rfl ?_
    simp only [CoordinatorPc.rank, WaitStage.rank]
    split <;> omega
  -- the notifications are switched on once
  | pushWindowFull hpc =>
    exact .enable hpc rfl rfl rfl rfl fun _ => by simp [CoordinatorPc.rank]
  | tryRecvEnable hpc =>
    have hplain := plain_retryPush (p := p) s.coordinator
    exact .enable hpc rfl rfl hplain rfl fun hon =>
      (rank_plain_le _ hplain).trans_lt (by simp [CoordinatorPc.rank, hon])
  | waited hpc =>
    have hplain := plain_retryPush (p := p) s.coordinator
    exact .goPlain hpc rfl rfl hplain rfl
      ((rank_plain_le _ hplain).trans_lt (by simp [CoordinatorPc.rank, WaitStage.rank]))
  | closeDone hpc =>
    have hplain := plain_afterClose (p := p) s.coordinator
    exact .goPlain hpc rfl rfl hplain rfl
      ((rank_plain_le _ hplain).trans_lt (by simp [CoordinatorPc.rank]))
  | notifyNobody hpc =>
    have hplain := plain_afterPush (p := p) s.coordinator
    exact .goPlain hpc rfl rfl hplain rfl
      ((rank_plain_le _ hplain).trans_lt (by simp [CoordinatorPc.rank]))
  | notifyOne hpc =>
    have hplain := plain_afterPush (p := p) s.coordinator
    have hload : (s.coordinator.afterPush p).load p = s.coordinator.load p :=
      ExecutorState.Progresses.load_of_plain (by rw [hpc]; rfl) (by rw [hpc]; rfl) hplain
    rw [ExecutorState.Progresses, hload, hpc, stage_of_plain hplain]
    exact Or.inr ⟨rfl, Or.inr ⟨rfl, .notifyOne (rank_plain_le _ hplain)⟩⟩
  | notifyAll hpc =>
    have hload : ({ s.coordinator with pc := .fill } : Coordinator T E S).load p =
        s.coordinator.load p :=
      ExecutorState.Progresses.load_of_plain (by rw [hpc]; rfl) (by rw [hpc]; rfl) rfl
    rw [ExecutorState.Progresses, hload, hpc]
    exact Or.inr ⟨rfl, Or.inr ⟨rfl, .notifyAll⟩⟩
  | pushWindow hpc => exact .pushWindow hcap (hworking (by rw [hpc]; rfl)) hpc
  | push hpc => exact .push hpc ((hworking (by rw [hpc]; rfl)).queue_lt hpc (by simp))
  | tryRecv hpc hresults | recv hpc hresults =>
    exact .receive hresults (by rw [hpc]; rfl) (by rw [hpc]; rfl)
  | wait hpc h => exact .wait hpc h
  -- the queue is closed once, which lowers the load of what is shared
  | close hpc =>
    have hopen := hclosing (by rw [hpc]; rfl)
    refine .shared (Coordinator.load_eq rfl rfl rfl (by rw [hpc]; rfl) (by rw [hpc]; rfl)) ?_
    simp [Shared.load, hopen]
  | closeNotify hpc h | receivedNotify hpc h | shutdownNotify hpc h =>
    refine Or.inr ⟨?_, Or.inl ?_⟩
    · exact congrArg (s.shared.load + ·)
        (Coordinator.load_eq rfl rfl rfl (by rw [hpc]; rfl) (by rw [hpc]; rfl))
    · rw [hpc]
      exact h.rank_lt
  | received hpc => exact .received hpc
  -- the shutdown goes through its stages in one direction
  | cancel hpc | shutdownClose hpc | shutdownNotified hpc | dropReceiver hpc | join hpc =>
    refine Or.inl ?_
    simp only [Shared.load, Coordinator.load, Coordinator.stored, hpc, CoordinatorPc.inHand,
      CoordinatorPc.shutdown, List.length_nil, Bool.not_true, Bool.toNat_false]
    omega

/-! ### Every run finishes -/

namespace ExecutorState

variable {s t : ExecutorState W T E S}

/-- A step of the system makes progress by the first of the three measures that it changes. -/
lemma Act.advances (h : Act p s t) (hcap : 0 < p.maxInFlight) (hordered : s.Ordered p)
    (hclosing : s.coordinator.pc.closing = true → s.shared.closed = false) :
    t.load p < s.load p ∨ t.load p = s.load p ∧
      (t.notices < s.notices ∨ t.notices = s.notices ∧ t.rounds < s.rounds) := by
  cases h with
  | @worker w sh pc hstep =>
    have hheld := sum_update_add (fun pc : WorkerPc T E => Multiset.card pc.held) s.workers w pc
    have hnotices := sum_update_add noticeRank s.stage (some w) pc.stage
    rw [← stage_worker s sh w pc] at hnotices
    have hstage : s.stage (some w) = (s.workers w).stage := rfl
    rw [hstage] at hnotices
    rcases hstep.advances with hload | ⟨hload, hnotice | ⟨hnotice, hsame, hrank⟩⟩
    · left
      simp only [load]
      omega
    · refine Or.inr ⟨?_, Or.inl ?_⟩
      · simp only [load]
        omega
      · simp only [notices]
        omega
    · refine Or.inr ⟨?_, Or.inr ⟨?_, ?_⟩⟩
      · simp only [load]
        omega
      · simp only [notices]
        omega
      · have hsum := sum_add_of_eq_off (f := fun v => (s.workers v).rank s.shared v)
          (g := fun v => (Function.update s.workers w pc v).rank sh v) (i := w) fun v hv => by
            rw [Function.update_of_ne hv]
            exact hsame.rank_worker (fun heq => hv (Option.some.inj heq)) _
        simp only [Function.update_self] at hsum
        simp only [rounds, hsame.rank_coordinator (Option.some_ne_none w).symm]
        omega
  | @coordinator sh c hstep =>
    have hnotices := sum_update_add noticeRank s.stage none c.pc.stage
    rw [← stage_coordinator s sh c] at hnotices
    have hstage : s.stage none = s.coordinator.pc.stage := rfl
    rw [hstage] at hnotices
    rcases hstep.advances hcap hordered.working hclosing with
      hload | ⟨hload, hnotice | ⟨hnotice, hshortens⟩⟩
    · left
      simp only [load]
      omega
    · refine Or.inr ⟨?_, Or.inl ?_⟩
      · simp only [load]
        omega
      · simp only [notices]
        omega
    · refine Or.inr ⟨?_, Or.inr ⟨?_, hshortens s.workers⟩⟩
      · simp only [load]
        omega
      · simp only [notices]
        omega

/-- While the coordinator may still close the queue, it is open. -/
theorem Reachable.closing (hcap : 0 < p.maxInFlight) (hW : 0 < W) (h : s.Reachable p)
    (hpc : s.coordinator.pc.closing = true) : s.shared.closed = false := by
  have hboth : s.Ordered p ∧ (s.coordinator.pc.closing = true → s.shared.closed = false) := by
    refine invariant_of_reachable (P := fun s => s.Ordered p ∧
      (s.coordinator.pc.closing = true → s.shared.closed = false))
      ⟨working_initial.ordered rfl, fun _ => rfl⟩ ?_ h
    rintro s t ⟨hordered, hclosing⟩ hstep
    refine ⟨hordered.step hcap hW hstep, fun hpc => ?_⟩
    rcases hstep with hact | hwake
    · cases hact with
      | worker w hworker => exact hworker.flags.2.2.trans (hclosing hpc)
      | coordinator hcoordinator =>
        cases hworks : s.coordinator.pc.hasReturned with
        | false => exact (hordered.working hworks).closing hclosing hcoordinator hpc
        | true =>
          cases hplace : s.coordinator.pc with
          | returned stage outcome =>
            obtain ⟨stage', rfl, -⟩ := coordinatorStep_of_returned hplace hcoordinator
            cases hpc
          | _ =>
            rw [hplace] at hworks
            cases hworks
    · cases hwake with
      | available | progress => exact hclosing hpc
  exact hboth.2 hpc

/-- The parties cannot take steps for ever. -/
theorem wellFounded_act (hcap : 0 < p.maxInFlight) (hW : 0 < W) :
    WellFounded fun t s : ExecutorState W T E S => s.Reachable p ∧ Act p s t :=
  wellFounded_of_measures (load p) notices rounds
    fun _ _ h => h.2.advances hcap (h.1.ordered hcap hW) (h.1.closing hcap hW)

/-- Some interleaving finishes. -/
theorem exists_finished (hcap : 0 < p.maxInFlight) (hW : 0 < W) :
    ∃ (s : ExecutorState W T E S) (outcome : Outcome E),
      s.Reachable p ∧ s.coordinator.pc = .returned .finished outcome := by
  have hfrom : ∀ s : ExecutorState W T E S, s.Reachable p →
      ∃ (t : ExecutorState W T E S) (outcome : Outcome E),
        t.Reachable p ∧ t.coordinator.pc = .returned .finished outcome := by
    intro s
    induction s using (wellFounded_act (p := p) (W := W) hcap hW).induction with
    | _ s ih =>
      intro h
      by_cases hfinished : ∃ outcome, s.coordinator.pc = .returned .finished outcome
      · obtain ⟨outcome, hpc⟩ := hfinished
        exact ⟨s, outcome, h, hpc⟩
      · have hstuck := h.not_stuck hcap hW fun outcome hpc => hfinished ⟨outcome, hpc⟩
        obtain ⟨t, hact, -⟩ := exists_act (p := p) hstuck
        exact ih t ⟨h, hact⟩ (h.tail (Or.inl hact))
  exact hfrom _ Relation.ReflTransGen.refl

/-- A run of the executor: it starts in the initial state, parties take steps or wake up by
themselves, and it only halts where no party has a step to take. -/
structure Run (p : BoundedOrdered M T E S) (run : ℕ → ExecutorState W T E S) : Prop where
  start : run 0 = initial W p
  steps : IsRun (Act p) SpuriousWake run

/-- Sleepers wake up without notification only finitely often. -/
def FinitelySpurious (run : ℕ → ExecutorState W T E S) : Prop :=
  ∃ K, ∀ k, K ≤ k → ¬ SpuriousWake (run k) (run (k + 1))

/-- All states of a run are reachable. -/
lemma Run.reachable {run : ℕ → ExecutorState W T E S} (h : Run p run) (k : ℕ) :
    (run k).Reachable p := by
  induction k with
  | zero =>
    rw [h.start]
    exact Relation.ReflTransGen.refl
  | succ k ih =>
    rcases h.steps.step k with hact | hwake | ⟨hsame, -⟩
    · exact ih.tail (Or.inl hact)
    · exact ih.tail (Or.inr hwake)
    · rw [hsame]
      exact ih

/-- Every run finishes. -/
theorem Run.finishes {run : ℕ → ExecutorState W T E S} (h : Run p run) (hcap : 0 < p.maxInFlight)
    (hW : 0 < W) (hspurious : FinitelySpurious run) :
    ∃ k outcome, (run k).coordinator.pc = .returned .finished outcome := by
  obtain ⟨K, hK⟩ := hspurious
  have hrun : IsRun (fun s t => s.Reachable p ∧ Act p s t) SpuriousWake run := by
    refine ⟨fun k => ?_⟩
    rcases h.steps.step k with hact | hwake | ⟨hsame, hstuck⟩
    · exact Or.inl ⟨h.reachable k, hact⟩
    · exact Or.inr (Or.inl hwake)
    · exact Or.inr (Or.inr ⟨hsame, fun t ht => hstuck t ht.2⟩)
  refine hrun.exists_final (fun s => ∃ outcome, s.coordinator.pc = .returned .finished outcome)
    (wellFounded_act hcap hW) (fun k hk => ?_) hK
  have hstuck := (h.reachable k).not_stuck hcap hW fun outcome hpc => hk ⟨outcome, hpc⟩
  obtain ⟨t, hact, -⟩ := exists_act (p := p) hstuck
  exact ⟨t, h.reachable k, hact⟩

end ExecutorState

end ArcadiaTio.Ocb
