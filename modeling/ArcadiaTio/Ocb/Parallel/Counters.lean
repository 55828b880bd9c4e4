import ArcadiaTio.Ocb.Parallel.Termination

/-!
# The counters of the executor

The executor counts active workers, completed row groups, and the results and rows that are
completed and not committed yet.  The invariant relates the counters to the places of the ordinals;
in particular no counter is decremented below zero.
-/

namespace ArcadiaTio.Ocb

open ArcadiaTio.Lib

variable {W : ℕ} {M T E S : Type} {p : BoundedOrdered M T E S}

/-! ### Completed ordinals -/

/-- The ordinal a worker has taken and not completed. -/
def WorkerPc.unfinished : WorkerPc T E → Multiset ℕ
  | .popped _ i | .running i => {i}
  | _ => 0

/-- The ordinal a worker has completed and not sent. -/
def WorkerPc.finished : WorkerPc T E → Multiset ℕ
  | .publish m | .snapshot m | .trySend m _ | .wait _ m => {m.1}
  | _ => 0

/-- The worker is counted as active. -/
def WorkerPc.active : WorkerPc T E → Bool
  | .running _ => true
  | _ => false

namespace ExecutorState

/-- The ordinals in flight that are not completed. -/
def unfinished (s : ExecutorState W T E S) : Multiset ℕ :=
  (s.shared.tasks : Multiset ℕ) + ∑ w, (s.workers w).unfinished

/-- The ordinals in flight that are completed. -/
def finished (s : ExecutorState W T E S) : Multiset ℕ :=
  ordinals s.shared.results + ∑ w, (s.workers w).finished + s.coordinator.stored

/-- The counters agree with the places of the ordinals. -/
structure Account (p : BoundedOrdered M T E S) (s : ExecutorState W T E S) : Prop where
  active : s.shared.activeWorkers = ∑ w, (s.workers w).active.toNat
  completed : s.shared.rowGroupsCompleted = s.shared.pendingResults + s.coordinator.nextToCommit
  queued : s.shared.rowGroupsCompleted + Multiset.card s.unfinished ≤ s.coordinator.nextToQueue
  results : Multiset.card s.finished ≤ s.shared.pendingResults
  rows : (s.finished.map p.decodedRows).sum ≤ s.shared.pendingRows

variable {s t : ExecutorState W T E S}

lemma account_initial : (initial W p).Account p := by
  have hunfinished : (initial W p).unfinished = 0 := by
    have hsum : ∑ w : Fin W, ((initial W p).workers w).unfinished = 0 :=
      Finset.sum_eq_zero fun w _ => rfl
    rw [unfinished, hsum]
    rfl
  have hfinished : (initial W p).finished = 0 := by
    have hsum : ∑ w : Fin W, ((initial W p).workers w).finished = 0 :=
      Finset.sum_eq_zero fun w _ => rfl
    rw [finished, hsum]
    rfl
  refine ⟨(Finset.sum_eq_zero fun w _ => rfl).symm, rfl, ?_, ?_, ?_⟩
  · rw [hunfinished]
    exact le_rfl
  · rw [hfinished]
    exact le_rfl
  · rw [hfinished]
    exact le_rfl

lemma rows_mono {l l' : Multiset ℕ} (h : l ≤ l') (f : ℕ → ℕ) : (l.map f).sum ≤ (l'.map f).sum := by
  obtain ⟨k, rfl⟩ := Multiset.le_iff_exists_add.mp h
  rw [Multiset.map_add, Multiset.sum_add]
  exact Nat.le_add_right _ _

/-- A step that completes nothing and commits nothing keeps the account. -/
lemma Account.of_le (h : s.Account p) (hactive : t.shared.activeWorkers =
      ∑ w, (t.workers w).active.toNat)
    (hcompleted : t.shared.rowGroupsCompleted = s.shared.rowGroupsCompleted)
    (hresults : t.shared.pendingResults = s.shared.pendingResults)
    (hrows : t.shared.pendingRows = s.shared.pendingRows)
    (hcommit : t.coordinator.nextToCommit = s.coordinator.nextToCommit)
    (hqueue : Multiset.card t.unfinished + s.coordinator.nextToQueue ≤
      Multiset.card s.unfinished + t.coordinator.nextToQueue)
    (hfinished : t.finished ≤ s.finished) : t.Account p := by
  have hqueued := h.queued
  refine ⟨hactive, ?_, ?_, ?_, ?_⟩
  · rw [hcompleted, hresults, hcommit]
    exact h.completed
  · rw [hcompleted]
    omega
  · rw [hresults]
    exact (Multiset.card_le_card hfinished).trans h.results
  · rw [hrows]
    exact (rows_mono hfinished _).trans h.rows

/-! ### Steps of workers -/

lemma unfinished_update (s : ExecutorState W T E S) (w : Fin W) (sh : Shared W T E)
    (pc : WorkerPc T E) :
    ({ s with shared := sh, workers := Function.update s.workers w pc } :
        ExecutorState W T E S).unfinished + ((s.shared.tasks : Multiset ℕ) +
          (s.workers w).unfinished) = s.unfinished + ((sh.tasks : Multiset ℕ) + pc.unfinished) := by
  have hsum := sum_update_add (WorkerPc.unfinished (T := T) (E := E)) s.workers w pc
  have hleft : ({ s with shared := sh, workers := Function.update s.workers w pc } :
      ExecutorState W T E S).unfinished =
        (sh.tasks : Multiset ℕ) + ∑ v, (Function.update s.workers w pc v).unfinished := rfl
  calc _ = ((sh.tasks : Multiset ℕ) + (s.shared.tasks : Multiset ℕ)) +
        (∑ v, (Function.update s.workers w pc v).unfinished + (s.workers w).unfinished) := by
          rw [hleft]
          ac_rfl
    _ = _ := by
          rw [hsum, unfinished]
          ac_rfl

lemma finished_update (s : ExecutorState W T E S) (w : Fin W) (sh : Shared W T E)
    (pc : WorkerPc T E) :
    ({ s with shared := sh, workers := Function.update s.workers w pc } :
        ExecutorState W T E S).finished + (ordinals s.shared.results + (s.workers w).finished) =
      s.finished + (ordinals sh.results + pc.finished) := by
  have hsum := sum_update_add (WorkerPc.finished (T := T) (E := E)) s.workers w pc
  have hleft : ({ s with shared := sh, workers := Function.update s.workers w pc } :
      ExecutorState W T E S).finished = ordinals sh.results +
        ∑ v, (Function.update s.workers w pc v).finished + s.coordinator.stored := rfl
  calc _ = (ordinals sh.results + s.coordinator.stored + ordinals s.shared.results) +
        (∑ v, (Function.update s.workers w pc v).finished + (s.workers w).finished) := by
          rw [hleft]
          ac_rfl
    _ = _ := by
          rw [hsum, finished]
          ac_rfl

lemma active_update (s : ExecutorState W T E S) (w : Fin W) (pc : WorkerPc T E) :
    ∑ v, (Function.update s.workers w pc v).active.toNat + (s.workers w).active.toNat =
      ∑ v, (s.workers v).active.toNat + pc.active.toNat :=
  sum_update_add (fun pc : WorkerPc T E => pc.active.toNat) s.workers w pc

/-- A running worker is counted. -/
lemma Account.active_pos (h : s.Account p) {w : Fin W} {i : ℕ} (hpc : s.workers w = .running i) :
    0 < s.shared.activeWorkers := by
  rw [h.active]
  refine lt_of_lt_of_le ?_ (Finset.single_le_sum (f := fun v => (s.workers v).active.toNat)
    (fun _ _ => Nat.zero_le _) (Finset.mem_univ w))
  rw [hpc]
  exact Nat.one_pos

theorem Account.worker (h : s.Account p) {w : Fin W} {sh : Shared W T E} {pc : WorkerPc T E}
    (hstep : WorkerStep p w s.shared (s.workers w) sh pc) :
    ({ s with shared := sh, workers := Function.update s.workers w pc } :
      ExecutorState W T E S).Account p := by
  have hunfinished := unfinished_update s w sh pc
  have hfinished := finished_update s w sh pc
  have hactive := active_update s w pc
  have hcard := congrArg Multiset.card hunfinished
  simp only [Multiset.card_add, Multiset.coe_card] at hcard
  -- a step that completes nothing
  have hkeep : sh.activeWorkers + (s.workers w).active.toNat =
        s.shared.activeWorkers + pc.active.toNat →
      sh.rowGroupsCompleted = s.shared.rowGroupsCompleted →
      sh.pendingResults = s.shared.pendingResults → sh.pendingRows = s.shared.pendingRows →
      sh.tasks.length + Multiset.card pc.unfinished ≤
        s.shared.tasks.length + Multiset.card (s.workers w).unfinished →
      ordinals sh.results + pc.finished ≤ ordinals s.shared.results + (s.workers w).finished →
      ({ s with shared := sh, workers := Function.update s.workers w pc } :
        ExecutorState W T E S).Account p := by
    intro hcount hcompleted hresults hrows hle hle'
    refine h.of_le ?_ hcompleted hresults hrows rfl ?_ ?_
    · have hold := h.active
      show sh.activeWorkers = ∑ v, (Function.update s.workers w pc v).active.toNat
      omega
    · show _ + s.coordinator.nextToQueue ≤ _ + s.coordinator.nextToQueue
      omega
    · refine le_of_add_le_add_right
        (a := ordinals s.shared.results + (s.workers w).finished) ?_
      rw [hfinished]
      exact add_le_add_right hle' _
  generalize hpc : s.workers w = old at hstep hunfinished hfinished hactive hcard hkeep
  cases hstep with
  | @run i =>
    have hpos := h.active_pos hpc
    have hmoved : s.finished + (ordinals s.shared.results + {i}) = s.finished + {i} +
        (ordinals s.shared.results + (WorkerPc.running i : WorkerPc T E).finished) := by
      simp only [WorkerPc.finished]
      ac_rfl
    have hfinished' := add_right_cancel (hfinished.trans hmoved)
    have hold := h.active
    have hqueued := h.queued
    refine ⟨?_, ?_, ?_, ?_, ?_⟩
    · have hcount : ∑ v, (Function.update s.workers w (.publish (i, p.prepared i)) v).active.toNat +
          1 = ∑ v, (s.workers v).active.toNat + 0 := hactive
      show s.shared.activeWorkers - 1 =
        ∑ v, (Function.update s.workers w (.publish (i, p.prepared i)) v).active.toNat
      omega
    · have hcompleted := h.completed
      show s.shared.rowGroupsCompleted + 1 = s.shared.pendingResults + 1 + s.coordinator.nextToCommit
      omega
    · have hcount : _ + (s.shared.tasks.length + 1) =
          Multiset.card s.unfinished + (s.shared.tasks.length + 0) := hcard
      show s.shared.rowGroupsCompleted + 1 + _ ≤ s.coordinator.nextToQueue
      omega
    · rw [hfinished', Multiset.card_add, Multiset.card_singleton]
      exact Nat.succ_le_succ h.results
    · rw [hfinished', Multiset.map_add, Multiset.sum_add, Multiset.map_singleton,
        Multiset.sum_singleton]
      exact Nat.add_le_add_right h.rows _
  | pop _ htasks =>
    refine hkeep rfl rfl rfl rfl ?_ le_rfl
    rw [htasks]
    exact le_rfl
  | send =>
    refine hkeep rfl rfl rfl rfl le_rfl ?_
    simp only [ordinals_append, ordinals_cons, ordinals_nil, WorkerPc.finished, add_zero]
    exact le_rfl
  | taskCancelled =>
    exact hkeep rfl rfl rfl rfl (Nat.add_le_add_left (Nat.zero_le _) _) le_rfl
  | publishCancelled | sendDisconnected | sendGiveUp =>
    exact hkeep rfl rfl rfl rfl le_rfl (add_le_add_right (Multiset.zero_le _) _)
  | _ => exact hkeep rfl rfl rfl rfl le_rfl le_rfl

/-! ### Steps of the coordinator -/

/-- What is received or dropped does not add to the completed ordinals. -/
lemma stored_le {c c' : Coordinator T E S} (hpending : c'.pending = c.pending)
    (hinHand : c'.pc.inHand = none) : c'.stored ≤ c.stored := by
  rw [Coordinator.stored_of_none hinHand, hpending]
  exact Multiset.le_add_left _ _

/-- A coordinator step that commits nothing: it may queue ordinals and move or drop results. -/
lemma Account.coordinator_of_le (h : s.Account p) {sh : Shared W T E} {c : Coordinator T E S}
    (hactive : sh.activeWorkers = s.shared.activeWorkers)
    (hcompleted : sh.rowGroupsCompleted = s.shared.rowGroupsCompleted)
    (hresults : sh.pendingResults = s.shared.pendingResults)
    (hrows : sh.pendingRows = s.shared.pendingRows)
    (hcommit : c.nextToCommit = s.coordinator.nextToCommit)
    (hqueue : sh.tasks.length + s.coordinator.nextToQueue ≤ s.shared.tasks.length + c.nextToQueue)
    (hle : ordinals sh.results + c.stored ≤ ordinals s.shared.results + s.coordinator.stored) :
    ({ s with shared := sh, coordinator := c } : ExecutorState W T E S).Account p := by
  refine h.of_le (hactive.trans h.active) hcompleted hresults hrows hcommit ?_ ?_
  · simp only [unfinished, Multiset.card_add, Multiset.coe_card]
    omega
  · have hrest := add_le_add_left hle (∑ w, (s.workers w).finished)
    simp only [finished]
    calc _ = ∑ w, (s.workers w).finished + (ordinals sh.results + c.stored) := by ac_rfl
      _ ≤ ∑ w, (s.workers w).finished + (ordinals s.shared.results + s.coordinator.stored) := by
        exact add_le_add_right hle _
      _ = _ := by ac_rfl

/-- A coordinator step that neither queues nor receives nor commits. -/
lemma Account.coordinator_keep (h : s.Account p) {sh : Shared W T E} {c : Coordinator T E S}
    (hactive : sh.activeWorkers = s.shared.activeWorkers)
    (hcompleted : sh.rowGroupsCompleted = s.shared.rowGroupsCompleted)
    (hresults : sh.pendingResults = s.shared.pendingResults)
    (hrows : sh.pendingRows = s.shared.pendingRows) (htasks : sh.tasks = s.shared.tasks)
    (hchannel : sh.results = s.shared.results)
    (hcommit : c.nextToCommit = s.coordinator.nextToCommit)
    (hqueue : c.nextToQueue = s.coordinator.nextToQueue)
    (hpending : c.pending = s.coordinator.pending) (hinHand : c.pc.inHand = none) :
    ({ s with shared := sh, coordinator := c } : ExecutorState W T E S).Account p := by
  refine h.coordinator_of_le hactive hcompleted hresults hrows hcommit ?_ ?_
  · rw [htasks, hqueue]
  · rw [hchannel]
    exact add_le_add_right (stored_le hpending hinHand) _

/-- A prepared ordinal has its rows counted. -/
lemma decodedRows_of_prepared {i : ℕ} {value : T} (h : p.prepared i = .ok value) :
    p.decodedRows i = p.rowCount i := by
  rw [BoundedOrdered.decodedRows]
  rw [BoundedOrdered.prepared] at h
  cases hread : p.read i with
  | ok m => rfl
  | error error =>
    rw [hread] at h
    cases h

/-- A commit takes the ordinal off the counters of the pending results and rows. -/
lemma Account.commit (h : s.Account p) (hworking : s.Working p)
    (hinHand : s.coordinator.pc.inHand = none) {r : Except E T}
    (hlookup : s.coordinator.pending.lookup s.coordinator.nextToCommit = some r) :
    ({ s with
        shared := s.shared.afterCommit p s.coordinator r
        coordinator := s.coordinator.commitNext p r } : ExecutorState W T E S).Account p := by
  have hfilter := ordinals_filter hworking.nodup_pending
    (mem_ordinals.mpr ⟨r, mem_of_lookup hlookup⟩)
  have hstored := Coordinator.stored_of_none hinHand
  -- without success the result is dropped and stays on the counters
  have hdrop : ∀ c : Coordinator T E S, c.nextToCommit = s.coordinator.nextToCommit →
      c.nextToQueue = s.coordinator.nextToQueue →
      c.pending = s.coordinator.pending.filter (·.1 ≠ s.coordinator.nextToCommit) →
      c.pc.inHand = none →
      ({ s with shared := s.shared, coordinator := c } : ExecutorState W T E S).Account p := by
    intro c hcommit hqueue hpending hnone
    refine h.coordinator_of_le rfl rfl rfl rfl hcommit (by rw [hqueue]) (add_le_add_right ?_ _)
    rw [Coordinator.stored_of_none hnone, hstored, hpending, ← hfilter]
    exact Multiset.le_add_left _ _
  rcases r with error | value
  · exact hdrop _ rfl rfl rfl rfl
  have hread : p.decodedRows s.coordinator.nextToCommit =
      p.rowCount s.coordinator.nextToCommit :=
    decodedRows_of_prepared (hworking.prepared_of_lookup hlookup).1.symm
  -- with success it leaves the completed ordinals and the counters
  have htake : ∀ c : Coordinator T E S, c.nextToCommit = s.coordinator.nextToCommit + 1 →
      c.nextToQueue = s.coordinator.nextToQueue →
      c.pending = s.coordinator.pending.filter (·.1 ≠ s.coordinator.nextToCommit) →
      c.pc.inHand = none →
      ({ s with
          shared := s.shared.resultCommitted (p.rowCount s.coordinator.nextToCommit)
          coordinator := c } : ExecutorState W T E S).Account p := by
    intro c hcommit hqueue hpending hnone
    have hfinished : s.finished = {s.coordinator.nextToCommit} + ({ s with
        shared := s.shared.resultCommitted (p.rowCount s.coordinator.nextToCommit)
        coordinator := c } : ExecutorState W T E S).finished := by
      simp only [finished]
      rw [Coordinator.stored_of_none hnone, hstored, hpending, ← hfilter]
      simp only [Shared.resultCommitted]
      ac_rfl
    have hresults := h.results
    have hrows := h.rows
    have hcompleted := h.completed
    rw [hfinished, Multiset.card_add, Multiset.card_singleton] at hresults
    rw [hfinished, Multiset.map_add, Multiset.sum_add, Multiset.map_singleton,
      Multiset.sum_singleton, hread] at hrows
    refine ⟨h.active, ?_, ?_, ?_, ?_⟩
    · show s.shared.rowGroupsCompleted = s.shared.pendingResults - 1 + c.nextToCommit
      omega
    · show s.shared.rowGroupsCompleted + Multiset.card s.unfinished ≤ c.nextToQueue
      rw [hqueue]
      exact h.queued
    · show _ ≤ s.shared.pendingResults - 1
      omega
    · show _ ≤ s.shared.pendingRows - p.rowCount s.coordinator.nextToCommit
      omega
  rcases hcontrol : (p.orderedCommit s.coordinator.commitState s.coordinator.nextToCommit value).2
    with error | _ | _ <;> simp only [Coordinator.commitNext, Shared.afterCommit, hcontrol]
  · exact hdrop _ rfl rfl rfl rfl
  · exact htake _ rfl rfl rfl hinHand
  · exact htake _ rfl rfl rfl rfl

theorem Account.coordinator (h : s.Account p)
    (hworking : s.coordinator.pc.hasReturned = false → s.Working p) {ended : Prop}
    {sh : Shared W T E} {c : Coordinator T E S}
    (hstep : CoordinatorStep p ended s.shared s.coordinator sh c) :
    ({ s with shared := sh, coordinator := c } : ExecutorState W T E S).Account p := by
  -- only the steps that move a task, a result or a counter change the account
  cases hstep with
  | slidingCommit hpc _ _ hlookup | windowCommit hpc _ hlookup =>
    exact h.commit (hworking (by rw [hpc]; rfl)) (by rw [hpc]; rfl) hlookup
  | windowStart hpc hmode hnext =>
    have hqueue := (hworking (by rw [hpc]; rfl)).queue_head hpc hmode hnext
    refine h.coordinator_keep rfl rfl rfl rfl rfl rfl rfl hqueue.symm rfl ?_
    dsimp only
    split <;> rfl
  | pushWindow hpc =>
    obtain ⟨hlt, hqueue⟩ := (hworking (by rw [hpc]; rfl)).queue_pushWindow hpc
    have hend : p.windowEnd s.coordinator.windowStart =
        min (s.coordinator.windowStart + p.maxInFlight) p.taskCount := rfl
    refine h.coordinator_of_le rfl rfl rfl rfl rfl ?_
      (add_le_add_right (stored_le (by rfl) (by rfl)) (ordinals s.shared.results))
    show (s.shared.tasks ++ _).length + _ ≤ _ + p.windowEnd s.coordinator.windowStart
    rw [List.length_append, List.length_range']
    omega
  | push =>
    refine h.coordinator_of_le rfl rfl rfl rfl rfl ?_
      (add_le_add_right (stored_le (by rfl) (by rfl)) (ordinals s.shared.results))
    show (s.shared.tasks ++ _).length + _ ≤ _ + (s.coordinator.nextToQueue + 1)
    rw [List.length_append, List.length_singleton]
    omega
  | tryRecv hpc hresults | recv hpc hresults =>
    refine h.coordinator_of_le rfl rfl rfl rfl rfl le_rfl (le_of_eq ?_)
    rw [Coordinator.stored_of_none (c := s.coordinator) (by rw [hpc]; rfl),
      Coordinator.stored_of_some (by rfl), hresults, ordinals_cons]
    dsimp only
    ac_rfl
  | @received m hpc =>
    have hnone := Coordinator.inHand_of_plain (plain_insertPending (p := p) s.coordinator m)
    refine h.coordinator_of_le rfl rfl rfl rfl rfl le_rfl (add_le_add_right (le_of_eq ?_) _)
    rw [Coordinator.stored_of_none hnone, Coordinator.stored_of_some (by rw [hpc]; rfl)]
    exact ordinals_cons m s.coordinator.pending
  | receivedNotify hpc =>
    refine h.coordinator_of_le rfl rfl rfl rfl rfl le_rfl (add_le_add_right (le_of_eq ?_) _)
    rw [Coordinator.stored_of_some (by rfl), Coordinator.stored_of_some (by rw [hpc]; rfl)]
  | dropReceiver hpc =>
    exact h.coordinator_of_le rfl rfl rfl rfl rfl le_rfl
      (add_le_add (Multiset.zero_le _) (stored_le rfl rfl))
  | filled hpc =>
    refine h.coordinator_keep rfl rfl rfl rfl rfl rfl rfl rfl rfl ?_
    dsimp only
    split <;> rfl
  | notifyNobody | notifyOne =>
    exact h.coordinator_keep rfl rfl rfl rfl rfl rfl rfl rfl rfl
      (Coordinator.inHand_of_plain (plain_afterPush _))
  | tryRecvEnable | waited =>
    exact h.coordinator_keep rfl rfl rfl rfl rfl rfl rfl rfl rfl
      (Coordinator.inHand_of_plain (plain_retryPush _))
  | closeDone =>
    exact h.coordinator_keep rfl rfl rfl rfl rfl rfl rfl rfl rfl
      (Coordinator.inHand_of_plain (plain_afterClose _))
  | _ => exact h.coordinator_keep rfl rfl rfl rfl rfl rfl rfl rfl rfl rfl

/-- The counters agree with the places of the ordinals in every reachable state. -/
theorem Reachable.account (hcap : 0 < p.maxInFlight) (hW : 0 < W) (h : s.Reachable p) :
    s.Account p := by
  have hboth : s.Ordered p ∧ s.Account p := by
    refine invariant_of_reachable (P := fun s => s.Ordered p ∧ s.Account p)
      ⟨working_initial.ordered rfl, account_initial⟩ ?_ h
    rintro s t ⟨hordered, haccount⟩ hstep
    refine ⟨hordered.step hcap hW hstep, ?_⟩
    rcases hstep with hact | hwake
    · cases hact with
      | worker w hworker => exact haccount.worker hworker
      | coordinator hcoordinator => exact haccount.coordinator hordered.working hcoordinator
    · cases hwake with
      | available | progress =>
        exact ⟨haccount.active, haccount.completed, haccount.queued, haccount.results,
          haccount.rows⟩
  exact hboth.2

end ExecutorState

end ArcadiaTio.Ocb
