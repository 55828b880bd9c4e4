import ArcadiaTio.Lib.Fallible
import ArcadiaTio.Ocb.Parallel.Outcome

/-!
# Ordinals in reused slots

In an execution with slots, what a worker makes of an ordinal is left in memory that later ordinals
reuse: the slot of an ordinal is the ordinal modulo the number of slots, and the commit callback
sees the report of the worker and this slot.  A worker fills a slot, and the callback looks at it,
under the lock of the slot, so each is one step.

When what a worker reports and what can be seen of a filled slot do not depend on its old contents
(`SlottedOrdered.Oblivious`), the system behaves as if every ordinal had a slot of its own
(`SlotState.Reachable.isolated`): ordinals in flight never share a slot, and a slot is committed as
its ordinal has filled it.
-/

namespace ArcadiaTio.Ocb

open ArcadiaTio.Lib

/-! ### The system -/

/-- What one execution with slots is given: what a worker does to the slot of an ordinal, what can
be seen of a report and a slot, and the visitor that sees it. -/
structure SlottedOrdered (B R V E S : Type) where
  taskCount : ℕ
  slotCount : ℕ
  taskQueueCapacity : ℕ
  resultQueueCapacity : ℕ
  rowCount : ℕ → ℕ
  fill : ℕ → Fallible E B R
  view : R → B → V
  visitor : S → V → S × Except E ColumnBundleVisitControl
  slots : ℕ → B
  visitorState : S

/-- A state of the execution: the executor, the contents of the slots, and the ordinal that was the
last to write to each slot, which nobody reads. -/
structure SlotState (W : ℕ) (B R E S : Type) where
  executor : ExecutorState W R E S
  slots : ℕ → B
  writers : ℕ → Option ℕ

namespace SlottedOrdered

variable {B R V E S : Type} (p : SlottedOrdered B R V E S)

/-- The slot of an ordinal. -/
def slotIndex (ordinal : ℕ) : ℕ := ordinal % p.slotCount

/-- The callbacks of the executor when the slots have the given contents. -/
def callbacks (slots : ℕ → B) : BoundedOrdered R R E S where
  mode := .windowed
  taskCount := p.taskCount
  maxInFlight := p.slotCount
  taskQueueCapacity := p.taskQueueCapacity
  resultQueueCapacity := p.resultQueueCapacity
  rowCount := p.rowCount
  read i := ((p.fill i).run (slots (p.slotIndex i))).1
  prepare _ report := .ok report
  orderedCommit s i report := p.visitor s (p.view report (slots (p.slotIndex i)))
  commitState := p.visitorState

end SlottedOrdered

namespace SlotState

variable {W : ℕ} {B R V E S : Type} (p : SlottedOrdered B R V E S)

/-- The state in which all workers are started and nothing has been written to a slot. -/
def initial (W : ℕ) : SlotState W B R E S where
  executor := .initial W (p.callbacks p.slots)
  slots := p.slots
  writers := fun _ => none

/-- One step of the system.  Only a worker that runs its ordinal writes to a slot. -/
inductive Step (s : SlotState W B R E S) : SlotState W B R E S → Prop
  | fill (w : Fin W) {i : ℕ} {sh : Shared W R E} {pc : WorkerPc R E}
      (hpc : s.executor.workers w = .running i)
      (h : WorkerStep (p.callbacks s.slots) w s.executor.shared (.running i) sh pc) :
      Step s {
        executor := { s.executor with
          shared := sh, workers := Function.update s.executor.workers w pc }
        slots := Function.update s.slots (p.slotIndex i)
          ((p.fill i).run (s.slots (p.slotIndex i))).2
        writers := Function.update s.writers (p.slotIndex i) (some i) }
  | worker (w : Fin W) {sh : Shared W R E} {pc : WorkerPc R E}
      (hpc : ∀ i, s.executor.workers w ≠ .running i)
      (h : WorkerStep (p.callbacks s.slots) w s.executor.shared (s.executor.workers w) sh pc) :
      Step s { s with executor := { s.executor with
        shared := sh, workers := Function.update s.executor.workers w pc } }
  | coordinator {sh : Shared W R E} {c : Coordinator R E S}
      (h : CoordinatorStep (p.callbacks s.slots) (∀ w, s.executor.workers w = .done)
        s.executor.shared s.executor.coordinator sh c) :
      Step s { s with executor := { s.executor with shared := sh, coordinator := c } }
  | wake {t : ExecutorState W R E S} (h : s.executor.SpuriousWake t) :
      Step s { s with executor := t }

/-- The states that some interleaving reaches. -/
def Reachable (s : SlotState W B R E S) : Prop :=
  Relation.ReflTransGen (Step p) (initial p W) s

end SlotState

/-! ### Old contents that do not matter -/

namespace SlottedOrdered

variable {B R V E S : Type}

/-- What a fill returns and what can be seen afterwards do not depend on what was in the slot;
`Fits k` are the contents that slot `k` may have. -/
structure Oblivious (p : SlottedOrdered B R V E S) (Fits : ℕ → B → Prop) : Prop where
  initial : ∀ k, k < p.slotCount → Fits k (p.slots k)
  kept : ∀ i < p.taskCount, ∀ b, Fits (p.slotIndex i) b →
    Fits (p.slotIndex i) ((p.fill i).run b).2
  result : ∀ i < p.taskCount, ∀ b b', Fits (p.slotIndex i) b → Fits (p.slotIndex i) b' →
    ((p.fill i).run b).1 = ((p.fill i).run b').1
  visible : ∀ i < p.taskCount, ∀ b b' report, Fits (p.slotIndex i) b → Fits (p.slotIndex i) b' →
    ((p.fill i).run b).1 = .ok report →
      p.view report ((p.fill i).run b).2 = p.view report ((p.fill i).run b').2

/-- The callbacks when every ordinal has a slot of its own, as it was at the start. -/
def isolated (p : SlottedOrdered B R V E S) : BoundedOrdered R R E S :=
  { p.callbacks p.slots with
    orderedCommit := fun s i report =>
      p.visitor s (p.view report ((p.fill i).run (p.slots (p.slotIndex i))).2) }

end SlottedOrdered

/-! ### Where the results are -/

namespace ExecutorState

variable {W : ℕ} {M T E S : Type} {p : BoundedOrdered M T E S} {s t : ExecutorState W T E S}
  {m : Message T E}

/-- The results that have been made and not been committed. -/
def HasMessage (s : ExecutorState W T E S) (m : Message T E) : Prop :=
  m ∈ s.shared.results ∨ (∃ w, m ∈ (s.workers w).message?) ∨ m ∈ s.coordinator.pc.inHand ∨
    m ∈ s.coordinator.pending

lemma mem_held {pc : WorkerPc T E} (h : m ∈ pc.message?) : m.1 ∈ pc.held := by
  cases pc <;> cases h <;> exact Multiset.mem_singleton_self _

lemma held_le_inFlight (s : ExecutorState W T E S) (w : Fin W) :
    (s.workers w).held ≤ s.shared.queued + ∑ w, (s.workers w).held :=
  (Finset.single_le_sum (f := fun w => (s.workers w).held) (fun _ _ => Multiset.zero_le _)
    (Finset.mem_univ w)).trans (Multiset.le_add_left _ _)

lemma HasMessage.mem_inFlight (h : s.HasMessage m) : m.1 ∈ s.inFlight := by
  have hresult : ∀ messages : List (Message T E), m ∈ messages → m.1 ∈ ordinals messages :=
    fun messages hm => mem_ordinals.mpr ⟨m.2, hm⟩
  rw [inFlight, Multiset.mem_add]
  rcases h with h | ⟨w, h⟩ | h | h
  · exact .inl (Multiset.mem_add.mpr (.inl (Multiset.mem_add.mpr (.inr (hresult _ h)))))
  · exact .inl (Multiset.mem_of_le (held_le_inFlight s w) (mem_held h))
  · refine .inr (Multiset.mem_add.mpr (.inl (hresult _ ?_)))
    exact Option.mem_toList.mpr h
  · exact .inr (Multiset.mem_add.mpr (.inr (hresult _ h)))

/-- An ordinal that a worker runs has no result yet. -/
lemma HasMessage.ne_running (hnodup : s.inFlight.Nodup) (h : s.HasMessage m) {w : Fin W} {i : ℕ}
    (hpc : s.workers w = .running i) : m.1 ≠ i := by
  rintro rfl
  have hheld : (s.workers w).held = {m.1} := by
    rw [hpc]
    rfl
  obtain ⟨hleft, -, hdisjoint⟩ := Multiset.nodup_add.mp hnodup
  obtain ⟨-, hsum, hqueue⟩ := Multiset.nodup_add.mp hleft
  have hrun : m.1 ∈ ∑ w, (s.workers w).held := by
    refine Multiset.mem_of_le (Finset.single_le_sum (f := fun w => (s.workers w).held)
      (fun _ _ => Multiset.zero_le _) (Finset.mem_univ w)) ?_
    rw [hheld]
    exact Multiset.mem_singleton_self _
  have hresult : ∀ messages : List (Message T E), m ∈ messages → m.1 ∈ ordinals messages :=
    fun messages hm => mem_ordinals.mpr ⟨m.2, hm⟩
  have hout : m.1 ∉ s.coordinator.stored :=
    Multiset.disjoint_left.mp hdisjoint (Multiset.mem_add.mpr (.inr hrun))
  rcases h with h | ⟨v, h⟩ | h | h
  · exact Multiset.disjoint_left.mp hqueue (Multiset.mem_add.mpr (.inr (hresult _ h))) hrun
  · -- two workers would hold the ordinal
    have hne : w ≠ v := by
      rintro rfl
      rw [hpc] at h
      cases h
    have hpair : (s.workers w).held + (s.workers v).held ≤ ∑ w, (s.workers w).held := by
      rw [← Finset.sum_pair (f := fun u => (s.workers u).held) hne]
      exact Finset.sum_le_sum_of_subset (Finset.subset_univ _)
    have hnodupPair := Multiset.nodup_of_le hpair hsum
    obtain ⟨-, -, hdisjointPair⟩ := Multiset.nodup_add.mp hnodupPair
    refine Multiset.disjoint_left.mp hdisjointPair ?_ (mem_held h)
    rw [hheld]
    exact Multiset.mem_singleton_self _
  · exact hout (Multiset.mem_add.mpr (.inl (hresult _ (Option.mem_toList.mpr h))))
  · exact hout (Multiset.mem_add.mpr (.inr (hresult _ h)))

/-- In every reachable state the ordinals in flight are distinct, and in windowed mode they are
those of one window. -/
lemma Reachable.oneWindow (hmode : p.mode = .windowed) (hcap : 0 < p.maxInFlight) (hW : 0 < W)
    (h : s.Reachable p) : s.inFlight.Nodup ∧ ∃ k, ∀ i ∈ s.inFlight,
      k * p.maxInFlight ≤ i ∧ i < k * p.maxInFlight + p.maxInFlight ∧ i < p.taskCount := by
  have hordered := h.ordered hcap hW
  obtain ⟨hle, hcount, ⟨k, hk⟩, hwithin⟩ : s.inFlight ≤
      (Finset.Ico s.coordinator.nextToCommit s.coordinator.nextToQueue).val ∧
      s.coordinator.nextToQueue ≤ p.taskCount ∧
      (∃ k, s.coordinator.windowStart = k * p.maxInFlight) ∧
      (s.coordinator.nextToCommit < s.coordinator.nextToQueue →
        s.coordinator.windowStart ≤ s.coordinator.nextToCommit ∧
        s.coordinator.nextToQueue ≤ p.windowEnd s.coordinator.windowStart) := by
    cases hpc : s.coordinator.pc with
    | returned stage outcome =>
      have hreturned := hordered.returned stage outcome hpc
      obtain ⟨hstart, hwithin⟩ := hreturned.windowed hmode
      exact ⟨hreturned.inFlight, hreturned.le_count, hstart, hwithin⟩
    | _ =>
      have hworking := hordered.working (by rw [hpc]; rfl)
      have hwindowed := hworking.windowed hmode
      exact ⟨le_of_eq hworking.inFlight, hworking.le_count, hwindowed.start, hwindowed.within⟩
  refine ⟨Multiset.nodup_of_le hle (Finset.Ico _ _).nodup, k, fun i hi => ?_⟩
  obtain ⟨hlo, hhi⟩ := Finset.mem_Ico.mp (Multiset.mem_of_le hle hi)
  obtain ⟨hstart, hend⟩ := hwithin (by omega)
  rw [BoundedOrdered.windowEnd] at hend
  omega

end ExecutorState

/-! ### Steps under other callbacks -/

section Transfer

variable {W : ℕ} {M T E S : Type} {p : BoundedOrdered M T E S} {sh sh' : Shared W T E}
  {read : ℕ → Except E M} {prepare : ℕ → M → Except E T}
  {orderedCommit : S → ℕ → T → S × Except E ColumnBundleVisitControl}

/-- A worker that does not run its ordinal does not look at the callbacks. -/
lemma WorkerStep.with_callbacks {w : Fin W} {pc pc' : WorkerPc T E}
    (h : WorkerStep p w sh pc sh' pc') (hpc : ∀ i, pc ≠ .running i) :
    WorkerStep { p with read := read, prepare := prepare, orderedCommit := orderedCommit }
      w sh pc sh' pc' := by
  cases h with
  | popCancelled h => exact .popCancelled h
  | pop h htasks => exact .pop h htasks
  | popClosed h htasks hclosed => exact .popClosed h htasks hclosed
  | popSleep h htasks hclosed => exact .popSleep h htasks hclosed
  | popWake h => exact .popWake h
  | popNotify h => exact .popNotify h
  | taskCancelled h => exact .taskCancelled h
  | start h => exact .start h
  | run => exact absurd rfl (hpc _)
  | publishCancelled h => exact .publishCancelled h
  | publish h => exact .publish h
  | snapshot => exact .snapshot
  | sendDisconnected h => exact .sendDisconnected h
  | send h hroom => exact .send h hroom
  | sendFull h hfull => exact .sendFull h hfull
  | sendEnable h hfull => exact .sendEnable h hfull
  | sendWait h => exact .sendWait h
  | sendRetry => exact .sendRetry
  | sendGiveUp => exact .sendGiveUp
  | sentNotify h => exact .sentNotify h
  | sentDone => exact .sentDone

variable {c c' : Coordinator T E S}

/-- A commit that the callbacks agree about. -/
lemma commit_with_callbacks {prepared : Except E T}
    (hagree : ∀ value, prepared = .ok value →
      p.orderedCommit c.commitState c.nextToCommit value =
        orderedCommit c.commitState c.nextToCommit value) :
    sh.afterCommit p c prepared = sh.afterCommit
        { p with read := read, prepare := prepare, orderedCommit := orderedCommit } c prepared ∧
      c.commitNext p prepared = c.commitNext
        { p with read := read, prepare := prepare, orderedCommit := orderedCommit } prepared := by
  cases prepared with
  | error e => exact ⟨rfl, rfl⟩
  | ok value =>
    have hsame := hagree value rfl
    constructor
    · simp only [Shared.afterCommit, hsame]
    · simp only [Coordinator.commitNext, hsame]

/-- The coordinator looks at the callbacks only to commit. -/
lemma CoordinatorStep.with_callbacks {ended : Prop} (h : CoordinatorStep p ended sh c sh' c')
    (hagree : ∀ value, c.pending.lookup c.nextToCommit = some (.ok value) →
      p.orderedCommit c.commitState c.nextToCommit value =
        orderedCommit c.commitState c.nextToCommit value) :
    CoordinatorStep { p with read := read, prepare := prepare, orderedCommit := orderedCommit }
      ended sh c sh' c' := by
  have hcommit : ∀ {prepared : Except E T}, c.pending.lookup c.nextToCommit = some prepared →
      sh.afterCommit p c prepared = sh.afterCommit
          { p with read := read, prepare := prepare, orderedCommit := orderedCommit } c prepared ∧
        c.commitNext p prepared = c.commitNext
          { p with read := read, prepare := prepare, orderedCommit := orderedCommit } prepared :=
    fun hpending => commit_with_callbacks fun value hvalue => hagree value (hvalue ▸ hpending)
  cases h with
  | slidingDone hpc hmode hdone => exact .slidingDone hpc hmode hdone
  | slidingCommit hpc hmode hnext hpending =>
    rw [(hcommit hpending).1, (hcommit hpending).2]
    exact .slidingCommit hpc hmode hnext hpending
  | slidingAdmit hpc hmode hnext hpending hqueue =>
    exact .slidingAdmit hpc hmode hnext hpending hqueue
  | slidingAwait hpc hmode hnext hpending hqueue =>
    exact .slidingAwait hpc hmode hnext hpending hqueue
  | windowCommit hpc hnext hpending =>
    rw [(hcommit hpending).1, (hcommit hpending).2]
    exact .windowCommit hpc hnext hpending
  | windowedDone hpc hmode hdone => exact .windowedDone hpc hmode hdone
  | windowStart hpc hmode hnext => exact .windowStart hpc hmode hnext
  | pushWindowClosed hpc hclosed => exact .pushWindowClosed hpc hclosed
  | pushWindowFull hpc hclosed hfull => exact .pushWindowFull hpc hclosed hfull
  | pushWindow hpc hclosed hroom => exact .pushWindow hpc hclosed hroom
  | notifyAll hpc => exact .notifyAll hpc
  | fill hpc hnext => exact .fill hpc hnext
  | filled hpc hnext => exact .filled hpc hnext
  | collect hpc hmissing => exact .collect hpc hmissing
  | windowFailed hpc hall herror => exact .windowFailed hpc hall herror
  | windowReady hpc hall herror => exact .windowReady hpc hall herror
  | windowMissing hpc hnext hpending => exact .windowMissing hpc hnext hpending
  | windowNext hpc hnext => exact .windowNext hpc hnext
  | snapshot hpc => exact .snapshot hpc
  | pushClosed hpc hclosed => exact .pushClosed hpc hclosed
  | pushFull hpc hclosed hfull => exact .pushFull hpc hclosed hfull
  | push hpc hclosed hroom => exact .push hpc hclosed hroom
  | notifyNobody hpc hnobody => exact .notifyNobody hpc hnobody
  | notifyOne hpc hw => exact .notifyOne hpc hw
  | tryRecv hpc hresults => exact .tryRecv hpc hresults
  | tryRecvDisconnected hpc hresults hended => exact .tryRecvDisconnected hpc hresults hended
  | tryRecvWait hpc hresults hended => exact .tryRecvWait hpc hresults hended
  | tryRecvEnable hpc hresults hended => exact .tryRecvEnable hpc hresults hended
  | wait hpc h => exact .wait hpc h
  | waited hpc => exact .waited hpc
  | close hpc => exact .close hpc
  | closeNotify hpc h => exact .closeNotify hpc h
  | closeDone hpc => exact .closeDone hpc
  | recv hpc hresults => exact .recv hpc hresults
  | recvDisconnected hpc hresults hended => exact .recvDisconnected hpc hresults hended
  | receivedNotify hpc h => exact .receivedNotify hpc h
  | received hpc hnew => exact .received hpc hnew
  | receivedTwice hpc hold => exact .receivedTwice hpc hold
  | cancel hpc => exact .cancel hpc
  | shutdownClose hpc => exact .shutdownClose hpc
  | shutdownNotify hpc h => exact .shutdownNotify hpc h
  | shutdownNotified hpc => exact .shutdownNotified hpc
  | dropReceiver hpc => exact .dropReceiver hpc
  | join hpc hended => exact .join hpc hended

end Transfer

/-! ### Steps that make no result -/

namespace ExecutorState

variable {W : ℕ} {M T E S : Type} {p : BoundedOrdered M T E S} {s t : ExecutorState W T E S}
  {m : Message T E}

/-- A worker makes a result only by running its ordinal. -/
lemma HasMessage.of_worker {w : Fin W} {sh : Shared W T E} {pc : WorkerPc T E}
    (hstep : WorkerStep p w s.shared (s.workers w) sh pc)
    (h : ({ s with shared := sh, workers := Function.update s.workers w pc } :
      ExecutorState W T E S).HasMessage m) :
    s.HasMessage m ∨ ∃ i, s.workers w = .running i ∧ m = (i, p.prepared i) := by
  have hworker : (m ∈ sh.results ∨ m ∈ pc.message?) →
      (m ∈ s.shared.results ∨ m ∈ (s.workers w).message?) ∨
        ∃ i, s.workers w = .running i ∧ m = (i, p.prepared i) := by
    intro hm
    generalize s.workers w = old at hstep ⊢
    cases hstep with
    | @run i =>
      rcases hm with hm | hm
      · exact .inl (.inl hm)
      · cases hm
        exact .inr ⟨i, rfl, rfl⟩
    | send =>
      rcases hm with hm | hm
      · rcases List.mem_append.mp hm with hm | hm
        · exact .inl (.inl hm)
        · exact .inl (.inr (List.mem_singleton.mp hm ▸ rfl))
      · cases hm
    | publishCancelled | sendDisconnected | sendGiveUp | sendFull | sendEnable | publish |
      snapshot | sendWait | sendRetry => exact .inl (hm.imp id fun h => by first | exact h | cases h)
    | _ =>
      rcases hm with hm | hm
      · exact .inl (.inl hm)
      · cases hm
  rcases h with h | ⟨v, h⟩ | h | h
  · rcases hworker (.inl h) with (h | h) | h
    · exact .inl (.inl h)
    · exact .inl (.inr (.inl ⟨w, h⟩))
    · exact .inr h
  · have hv : m ∈ (Function.update s.workers w pc v).message? := h
    rcases eq_or_ne v w with rfl | hne
    · rw [Function.update_self] at hv
      rcases hworker (.inr hv) with (h | h) | h
      · exact .inl (.inl h)
      · exact .inl (.inr (.inl ⟨v, h⟩))
      · exact .inr h
    · rw [Function.update_of_ne hne] at hv
      exact .inl (.inr (.inl ⟨v, hv⟩))
  · exact .inl (.inr (.inr (.inl h)))
  · exact .inl (.inr (.inr (.inr h)))

lemma pending_commitNext (c : Coordinator T E S) (r : Except E T) :
    (c.commitNext p r).pending = c.pending.filter (·.1 ≠ c.nextToCommit) := by
  cases r with
  | error error => rfl
  | ok value => exact (c.commitNext_ok value).2

/-- The coordinator passes results on and makes none. -/
lemma HasMessage.of_coordinator {ended : Prop} {sh : Shared W T E} {c : Coordinator T E S}
    (hstep : CoordinatorStep p ended s.shared s.coordinator sh c)
    (h : ({ s with shared := sh, coordinator := c } : ExecutorState W T E S).HasMessage m) :
    s.HasMessage m := by
  -- only the results, the hand and the stored messages are the coordinator's to move
  have hmoved : (m ∈ sh.results ∨ m ∈ c.pc.inHand ∨ m ∈ c.pending) →
      m ∈ s.shared.results ∨ m ∈ s.coordinator.pc.inHand ∨ m ∈ s.coordinator.pending := by
    intro hm
    generalize s.shared = old, s.coordinator = before at hstep ⊢
    cases hstep with
    | @slidingCommit r hpc | @windowCommit r hpc =>
      rw [pending_commitNext] at hm
      rcases hm with hm | hm | hm
      · left
        rcases old.afterCommit_eq (p := p) before r with heq | heq <;> rw [heq] at hm <;> exact hm
      · rcases pc_commitNext (p := p) before r with hpc' | ⟨outcome, hpc'⟩
        · rw [hpc', hpc] at hm
          cases hm
        · rw [hpc'] at hm
          cases hm
      · exact .inr (.inr (List.mem_of_mem_filter hm))
    -- the message in hand was the first of the results
    | tryRecv _ hresults | recv _ hresults =>
      rcases hm with hm | hm | hm
      · left
        rw [hresults]
        exact List.mem_cons_of_mem _ hm
      · cases hm
        left
        rw [hresults]
        exact List.mem_cons_self
      · exact .inr (.inr hm)
    | receivedNotify hpc =>
      rw [hpc]
      exact hm
    -- the stored message was in hand
    | @received received hpc =>
      rcases hm with hm | hm | hm
      · exact .inl hm
      · rw [Coordinator.insertPending] at hm
        cases hmode : p.mode <;> simp only [hmode] at hm
        · cases hm
        · split at hm <;> cases hm
      · rcases List.mem_cons.mp hm with rfl | hm
        · right
          left
          rw [hpc]
          rfl
        · exact .inr (.inr hm)
    | notifyNobody | notifyOne =>
      rcases hm with hm | hm | hm
      · exact .inl hm
      · rw [Coordinator.afterPush] at hm
        cases hmode : p.mode <;> simp only [hmode] at hm
        · split at hm <;> cases hm
        · cases hm
      · exact .inr (.inr hm)
    | tryRecvEnable | waited =>
      rcases hm with hm | hm | hm
      · exact .inl hm
      · rw [Coordinator.retryPush] at hm
        cases hmode : p.mode <;> simp only [hmode] at hm <;> cases hm
      · exact .inr (.inr hm)
    | closeDone =>
      rcases hm with hm | hm | hm
      · exact .inl hm
      · rw [Coordinator.afterClose] at hm
        cases hmode : p.mode <;> simp only [hmode] at hm <;> cases hm
      · exact .inr (.inr hm)
    | windowStart | filled =>
      rcases hm with hm | hm | hm
      · exact .inl hm
      · dsimp only at hm
        split at hm <;> cases hm
      · exact .inr (.inr hm)
    | dropReceiver =>
      rcases hm with hm | hm | hm
      · cases hm
      · cases hm
      · exact .inr (.inr hm)
    | _ =>
      rcases hm with hm | hm | hm
      · exact .inl hm
      · cases hm
      · exact .inr (.inr hm)
  rcases h with h | ⟨w, h⟩ | h
  · exact (hmoved (.inl h)).imp id .inr
  · exact .inr (.inl ⟨w, h⟩)
  · exact (hmoved (.inr h)).imp id .inr

lemma HasMessage.of_wake (hwake : s.SpuriousWake t) (h : t.HasMessage m) : s.HasMessage m := by
  cases hwake <;> exact h

end ExecutorState

/-! ### Slots of their own -/

namespace SlotState

variable {W : ℕ} {B R V E S : Type} {p : SlottedOrdered B R V E S} {Fits : ℕ → B → Prop}
  {s t : SlotState W B R E S}

/-- The execution goes as if every ordinal had a slot of its own, and the slot of a result is as its
ordinal has filled it. -/
structure Isolated (p : SlottedOrdered B R V E S) (Fits : ℕ → B → Prop)
    (s : SlotState W B R E S) : Prop where
  executor : s.executor.Reachable p.isolated
  fits : ∀ k, k < p.slotCount → Fits k (s.slots k)
  written : ∀ m, s.executor.HasMessage m → s.writers (p.slotIndex m.1) = some m.1 ∧
    ∃ b, Fits (p.slotIndex m.1) b ∧ (p.fill m.1).run b = (m.2, s.slots (p.slotIndex m.1))

lemma slotIndex_lt (hslots : 0 < p.slotCount) (i : ℕ) : p.slotIndex i < p.slotCount :=
  Nat.mod_lt i hslots

namespace Isolated

/-- Ordinals in flight do not share a slot. -/
lemma exclusive (h : s.Isolated p Fits) (hslots : 0 < p.slotCount) (hW : 0 < W) :
    s.executor.inFlight.Nodup ∧ (∀ i ∈ s.executor.inFlight, i < p.taskCount) ∧
      ∀ i ∈ s.executor.inFlight, ∀ j ∈ s.executor.inFlight, p.slotIndex i = p.slotIndex j →
        i = j := by
  obtain ⟨hnodup, k, hwindow⟩ := h.executor.oneWindow rfl hslots hW
  refine ⟨hnodup, fun i hi => (hwindow i hi).2.2, fun i hi j hj hsame => ?_⟩
  have hcap : p.isolated.maxInFlight = p.slotCount := rfl
  obtain ⟨hloi, hhii, -⟩ := hwindow i hi
  obtain ⟨hloj, hhij, -⟩ := hwindow j hj
  rw [hcap] at hloi hhii hloj hhij
  -- in one window the ordinals are told apart by what they are modulo its length
  have hdiv : ∀ a, k * p.slotCount ≤ a → a < k * p.slotCount + p.slotCount →
      a / p.slotCount = k := by
    intro a hlo hhi
    exact Nat.div_eq_of_lt_le hlo (by rw [Nat.succ_mul]; exact hhi)
  have hi' := Nat.div_add_mod i p.slotCount
  have hj' := Nat.div_add_mod j p.slotCount
  rw [hdiv i hloi hhii] at hi'
  rw [hdiv j hloj hhij] at hj'
  rw [SlottedOrdered.slotIndex, SlottedOrdered.slotIndex] at hsame
  omega

variable (hob : p.Oblivious Fits) (hslots : 0 < p.slotCount) (hW : 0 < W)

include hob hslots hW

/-- What a worker makes of an ordinal in flight is what it would make of it in a slot as it was at
the start. -/
lemma read_eq (h : s.Isolated p Fits) {i : ℕ} (hi : i ∈ s.executor.inFlight) :
    (p.callbacks s.slots).read i = p.isolated.read i :=
  hob.result i ((h.exclusive hslots hW).2.1 i hi) _ _
    (h.fits _ (slotIndex_lt hslots i)) (hob.initial _ (slotIndex_lt hslots i))

/-- A worker fills the slot of its ordinal. -/
lemma fill (h : s.Isolated p Fits) {w : Fin W} {i : ℕ} {sh : Shared W R E} {pc : WorkerPc R E}
    (hpc : s.executor.workers w = .running i)
    (hstep : WorkerStep (p.callbacks s.slots) w s.executor.shared (.running i) sh pc) :
    ({  executor := { s.executor with
          shared := sh, workers := Function.update s.executor.workers w pc }
        slots := Function.update s.slots (p.slotIndex i)
          ((p.fill i).run (s.slots (p.slotIndex i))).2
        writers := Function.update s.writers (p.slotIndex i) (some i) } :
      SlotState W B R E S).Isolated p Fits := by
  have hi : i ∈ s.executor.inFlight := by
    refine Multiset.mem_add.mpr (.inl (Multiset.mem_of_le
      (ExecutorState.held_le_inFlight s.executor w) ?_))
    rw [hpc]
    exact Multiset.mem_singleton_self i
  obtain ⟨hnodup, hcount, hexclusive⟩ := h.exclusive hslots hW
  have hread := h.read_eq hob hslots hW hi
  have hprepared : (p.callbacks s.slots).prepared i = p.isolated.prepared i := by
    rw [BoundedOrdered.prepared, hread]
    rfl
  refine ⟨?_, fun k hk => ?_, fun m hm => ?_⟩
  · have hrun : WorkerStep p.isolated w s.executor.shared (.running i) sh pc := by
      cases hstep with
      | run =>
        rw [hprepared, BoundedOrdered.decodedRows, hread]
        exact .run
    exact h.executor.tail (.inl (.worker w (hpc ▸ hrun)))
  · dsimp only
    by_cases hsame : k = p.slotIndex i
    · subst hsame
      rw [Function.update_self]
      exact hob.kept i (hcount i hi) _ (h.fits _ hk)
    · rw [Function.update_of_ne hsame]
      exact h.fits k hk
  · dsimp only
    rcases ExecutorState.HasMessage.of_worker (hpc ▸ hstep) hm with hold | ⟨j, hj, rfl⟩
    · -- the slot of an older result is another one
      have hne : p.slotIndex m.1 ≠ p.slotIndex i := fun hsame =>
        hold.ne_running hnodup hpc (hexclusive _ hold.mem_inFlight _ hi hsame)
      rw [Function.update_of_ne hne, Function.update_of_ne hne]
      exact h.written m hold
    · obtain rfl : i = j := by
        rw [hpc] at hj
        cases hj
        rfl
      rw [Function.update_self, Function.update_self]
      refine ⟨rfl, s.slots (p.slotIndex i), h.fits _ (slotIndex_lt hslots i), ?_⟩
      refine Prod.ext ?_ rfl
      show _ = (p.callbacks s.slots).prepared i
      rw [BoundedOrdered.prepared]
      show (p.callbacks s.slots).read i = (p.callbacks s.slots).read i >>= pure
      rw [bind_pure]

/-- The callback sees the slot of the next ordinal as that ordinal has filled it. -/
lemma view_eq (h : s.Isolated p Fits) {i : ℕ} {report : R}
    (hpending : s.executor.coordinator.pending.lookup i = some (.ok report)) :
    i < p.taskCount ∧ s.writers (p.slotIndex i) = some i ∧
      p.isolated.read i = .ok report ∧
      p.view report (s.slots (p.slotIndex i)) =
        p.view report ((p.fill i).run (p.slots (p.slotIndex i))).2 := by
  have hmessage : s.executor.HasMessage (i, .ok report) :=
    .inr (.inr (.inr (mem_of_lookup hpending)))
  have hi := (h.exclusive hslots hW).2.1 i hmessage.mem_inFlight
  obtain ⟨hwriter, b, hfits, hrun⟩ := h.written _ hmessage
  have hstart := hob.initial _ (slotIndex_lt hslots i)
  refine ⟨hi, hwriter, ?_, ?_⟩
  · show ((p.fill i).run (p.slots (p.slotIndex i))).1 = _
    rw [hob.result i hi _ b hstart hfits, hrun]
  · have hvisible := hob.visible i hi b (p.slots (p.slotIndex i)) report hfits hstart (by rw [hrun])
    rw [hrun] at hvisible
    exact hvisible

/-- Every step keeps the slots apart. -/
lemma step (h : s.Isolated p Fits) (hstep : Step p s t) : t.Isolated p Fits := by
  cases hstep with
  | fill w hpc hworker => exact h.fill hob hslots hW hpc hworker
  | worker w hpc hworker =>
    refine ⟨h.executor.tail (.inl (.worker w (hworker.with_callbacks hpc))), h.fits, fun m hm => ?_⟩
    rcases ExecutorState.HasMessage.of_worker hworker hm with hold | ⟨i, hi, -⟩
    · exact h.written m hold
    · exact absurd hi (hpc i)
  | coordinator hcoordinator =>
    refine ⟨h.executor.tail (.inl (.coordinator (hcoordinator.with_callbacks fun report hpending => ?_))),
      h.fits, fun m hm => h.written m (hm.of_coordinator hcoordinator)⟩
    have hview := (h.view_eq hob hslots hW hpending).2.2.2
    show p.visitor _ _ = p.visitor _ _
    rw [hview]
  | wake hwake =>
    exact ⟨h.executor.tail (.inr hwake), h.fits, fun m hm => h.written m (hm.of_wake hwake)⟩

end Isolated

/-- In every reachable state the slots are kept apart. -/
theorem Reachable.isolated (hob : p.Oblivious Fits) (hslots : 0 < p.slotCount) (hW : 0 < W)
    (h : s.Reachable p) : s.Isolated p Fits := by
  refine invariant_of_reachable (P := fun s => s.Isolated p Fits) ?_
    (fun s t hs hstep => hs.step hob hslots hW hstep) h
  refine ⟨.refl, hob.initial, fun m hm => ?_⟩
  rcases hm with hm | ⟨w, hm⟩ | hm | hm <;> cases hm

end SlotState

end ArcadiaTio.Ocb
