import ArcadiaTio.Ocb.Parallel.InFlight

/-!
# Ordered commit

The invariant of the executor while the coordinator works: what is in flight is exactly the range
between the next ordinal to commit and the next one to queue, and what has been committed is a
prefix of the sequential loop.  When the coordinator returns, it returns the verdict of that loop.
-/

namespace ArcadiaTio.Ocb

open ArcadiaTio.Lib

variable {W : ℕ} {M T E S : Type} {p : BoundedOrdered M T E S}

/-! ### The place of the coordinator -/

namespace Coordinator

variable (p) (c : Coordinator T E S)

/-- Sliding mode: what holds of the variables at each place. -/
def SlidingPlace (pc : CoordinatorPc T E) : Prop :=
  match pc with
  | .head | .notifyOne | .received _ _ => True
  | .snapshot | .tryPush _ | .tryRecv _ | .wait _ =>
    c.nextToCommit < p.taskCount ∧ c.nextToQueue < p.taskCount ∧
      c.nextToQueue < c.nextToCommit + p.maxInFlight
  | .close | .closed _ => c.nextToQueue = p.taskCount
  | .recv => c.nextToCommit < p.taskCount ∧ c.pending.lookup c.nextToCommit = none ∧ ¬ c.CanQueue p
  | _ => False

/-- Sliding mode: the admitted ordinals are within the cap, and a failure that stops the admission
is still pending. -/
structure Sliding : Prop where
  cap : c.nextToQueue ≤ c.nextToCommit + p.maxInFlight
  stopped : c.stopLaunching = true → ∃ m ∈ c.pending, m.2.isOk = false
  place : c.SlidingPlace p c.pc

/-- Windowed mode: what holds of the variables at each place. -/
def WindowedPlace (pc : CoordinatorPc T E) : Prop :=
  match pc with
  | .head => c.nextToCommit = min c.windowStart p.taskCount ∧ c.nextToQueue = c.nextToCommit
  | .pushWindow =>
    c.windowStart < p.taskCount ∧ c.nextToCommit = c.windowStart ∧ c.nextToQueue = c.windowStart
  | .notifyAll | .fill | .notifyOne | .received _ _ =>
    c.windowStart < p.taskCount ∧ c.nextToCommit = c.windowStart ∧
      c.windowStart ≤ c.nextToQueue ∧ c.nextToQueue ≤ p.windowEnd c.windowStart
  | .snapshot | .tryPush _ | .tryRecv _ | .wait _ =>
    c.windowStart < p.taskCount ∧ c.nextToCommit = c.windowStart ∧
      c.windowStart ≤ c.nextToQueue ∧ c.nextToQueue < p.windowEnd c.windowStart
  | .close | .closed _ =>
    c.windowStart < p.taskCount ∧ c.nextToCommit = c.windowStart ∧
      c.nextToQueue = p.windowEnd c.windowStart ∧ c.nextToQueue = p.taskCount
  | .collect =>
    c.windowStart < p.taskCount ∧ c.nextToCommit = c.windowStart ∧
      c.nextToQueue = p.windowEnd c.windowStart
  | .recv =>
    c.windowStart < p.taskCount ∧ c.nextToCommit = c.windowStart ∧
      c.nextToQueue = p.windowEnd c.windowStart ∧
      c.pending.length < p.windowEnd c.windowStart - c.windowStart
  | .commit =>
    c.windowStart < p.taskCount ∧ c.windowStart ≤ c.nextToCommit ∧
      c.nextToQueue = p.windowEnd c.windowStart ∧ c.nextToCommit ≤ c.nextToQueue ∧
      c.nextToQueue - c.nextToCommit ≤ c.pending.length ∧
      ∀ i < c.nextToQueue, (p.prepared i).isOk = true
  | .returned _ _ => False

/-- Windowed mode: windows start at multiples of their size. -/
structure Windowed : Prop where
  start : ∃ k, c.windowStart = k * p.maxInFlight
  place : c.WindowedPlace p c.pc

variable {p} {c}

/-- In windowed mode the admitted ordinals lie in one window. -/
lemma Windowed.within (h : c.Windowed p) (hlt : c.nextToCommit < c.nextToQueue) :
    c.windowStart ≤ c.nextToCommit ∧ c.nextToQueue ≤ p.windowEnd c.windowStart := by
  have hplace := h.place
  cases hpc : c.pc <;> simp only [WindowedPlace, hpc] at hplace <;> omega

end Coordinator

/-- Two states of shared memory that differ in nothing that matters to the order. -/
structure Shared.SameOrder (sh sh' : Shared W T E) : Prop where
  cancelled : sh.cancelled = sh'.cancelled
  receiving : sh.receiving = sh'.receiving
  closed : sh.closed = sh'.closed
  tasks : sh.tasks = sh'.tasks
  results : sh.results = sh'.results

lemma Shared.SameOrder.refl (sh : Shared W T E) : sh.SameOrder sh := ⟨rfl, rfl, rfl, rfl, rfl⟩

/-- The coordinator works. -/
structure ExecutorState.Working (p : BoundedOrdered M T E S) (s : ExecutorState W T E S) : Prop where
  cancelled : s.shared.cancelled = false
  receiving : s.shared.receiving = true
  gaveUp : ∀ w, (s.workers w).gaveUp = false
  ended : ∀ w, s.workers w = .done → s.shared.closed = true ∧ s.shared.tasks = []
  closed : s.shared.closed = true → s.coordinator.nextToQueue = p.taskCount
  results : ∀ m ∈ s.shared.results, p.Genuine m
  messages : ∀ w, ∀ m ∈ (s.workers w).message?, p.Genuine m
  inHand : ∀ m ∈ s.coordinator.pc.inHand, p.Genuine m
  pending : ∀ m ∈ s.coordinator.pending, p.Genuine m
  inFlight : s.inFlight =
    (Finset.Ico s.coordinator.nextToCommit s.coordinator.nextToQueue).val
  le : s.coordinator.nextToCommit ≤ s.coordinator.nextToQueue
  le_count : s.coordinator.nextToQueue ≤ p.taskCount
  calls : s.coordinator.calls = List.range s.coordinator.nextToCommit
  committed : p.commitLoop 0 s.coordinator.nextToCommit p.commitState [] =
    ⟨s.coordinator.commitState, s.coordinator.calls,
      .completed s.coordinator.nextToCommit false⟩
  succeeded : ∀ i < s.coordinator.nextToCommit, (p.prepared i).isOk = true
  sliding : p.mode = .sliding → s.coordinator.Sliding p
  windowed : p.mode = .windowed → s.coordinator.Windowed p

/-- The coordinator has returned: it returned the verdict, and nothing was added to what is in
flight. -/
structure ExecutorState.Returned (p : BoundedOrdered M T E S) (s : ExecutorState W T E S)
    (outcome : Outcome E) : Prop where
  verdict : (⟨s.coordinator.commitState, s.coordinator.calls, outcome⟩ : Verdict E S) = p.verdict
  inFlight : s.inFlight ≤
    (Finset.Ico s.coordinator.nextToCommit s.coordinator.nextToQueue).val
  settled : outcome.cancels = false → s.coordinator.nextToQueue ≤ s.coordinator.nextToCommit
  le_count : s.coordinator.nextToQueue ≤ p.taskCount
  sliding : p.mode = .sliding →
    s.coordinator.nextToQueue ≤ s.coordinator.nextToCommit + p.maxInFlight
  windowed : p.mode = .windowed → (∃ k, s.coordinator.windowStart = k * p.maxInFlight) ∧
    (s.coordinator.nextToCommit < s.coordinator.nextToQueue →
      s.coordinator.windowStart ≤ s.coordinator.nextToCommit ∧
      s.coordinator.nextToQueue ≤ p.windowEnd s.coordinator.windowStart)

/-- The invariant of the executor. -/
structure ExecutorState.Ordered (p : BoundedOrdered M T E S) (s : ExecutorState W T E S) :
    Prop where
  working : s.coordinator.pc.hasReturned = false → s.Working p
  returned : ∀ stage outcome, s.coordinator.pc = .returned stage outcome → s.Returned p outcome

namespace ExecutorState.Working

variable {s : ExecutorState W T E S}

/-! ### Consequences -/

lemma ordered (h : s.Working p) (hpc : s.coordinator.pc.hasReturned = false) : s.Ordered p := by
  refine ⟨fun _ => h, fun stage outcome hreturned => ?_⟩
  rw [hreturned] at hpc
  cases hpc

lemma nodup (h : s.Working p) : s.inFlight.Nodup := by
  rw [h.inFlight]
  exact (Finset.Ico _ _).nodup

lemma pending_le (s : ExecutorState W T E S) : ordinals s.coordinator.pending ≤ s.inFlight :=
  (Multiset.le_add_left _ _).trans (Multiset.le_add_left _ _)

lemma nodup_pending (h : s.Working p) : (ordinals s.coordinator.pending).Nodup :=
  Multiset.nodup_of_le (pending_le s) h.nodup

/-- Pending results belong to admitted ordinals. -/
lemma mem_pending (h : s.Working p) {i : ℕ} (hi : i ∈ ordinals s.coordinator.pending) :
    s.coordinator.nextToCommit ≤ i ∧ i < s.coordinator.nextToQueue := by
  have hmem := Multiset.mem_of_le (pending_le s) hi
  rw [h.inFlight] at hmem
  exact Finset.mem_Ico.mp hmem

/-- The state the coordinator is in when a result is found for the next ordinal. -/
lemma prepared_of_lookup (h : s.Working p) {r : Except E T}
    (hlookup : s.coordinator.pending.lookup s.coordinator.nextToCommit = some r) :
    r = p.prepared s.coordinator.nextToCommit ∧
      s.coordinator.nextToCommit < s.coordinator.nextToQueue := by
  have hmem := mem_of_lookup hlookup
  exact ⟨h.pending _ hmem, (h.mem_pending (mem_ordinals.mpr ⟨r, hmem⟩)).2⟩

end ExecutorState.Working

/-! ### Steps of workers and spurious wake-ups -/

section Workers

variable {s : ExecutorState W T E S}

lemma inFlight_update (w : Fin W) (sh : Shared W T E) (pc : WorkerPc T E) :
    ({ s with shared := sh, workers := Function.update s.workers w pc } :
        ExecutorState W T E S).inFlight + (s.shared.queued + (s.workers w).held) =
      s.inFlight + (sh.queued + pc.held) := by
  have hsum := sum_update_add (WorkerPc.held (T := T) (E := E)) s.workers w pc
  have hleft : ({ s with shared := sh, workers := Function.update s.workers w pc } :
      ExecutorState W T E S).inFlight =
        sh.queued + ∑ v, (Function.update s.workers w pc v).held + s.coordinator.stored := rfl
  calc _ = (sh.queued + s.coordinator.stored + s.shared.queued) +
        (∑ v, (Function.update s.workers w pc v).held + (s.workers w).held) := by
          rw [hleft]
          ac_rfl
    _ = _ := by
          rw [hsum, ExecutorState.inFlight]
          ac_rfl

/-- A step of a worker does not add to what is in flight. -/
lemma inFlight_le_of_worker {w : Fin W} {sh : Shared W T E} {pc : WorkerPc T E}
    (h : WorkerStep p w s.shared (s.workers w) sh pc) :
    ({ s with shared := sh, workers := Function.update s.workers w pc } :
        ExecutorState W T E S).inFlight ≤ s.inFlight := by
  have hflow := h.flow_le
  have heq := inFlight_update (s := s) w sh pc
  refine le_of_add_le_add_right (a := s.shared.queued + (s.workers w).held) ?_
  rw [heq]
  exact add_le_add_right hflow _

/-- A step of a worker keeps the invariant of a working coordinator. -/
lemma ExecutorState.Working.worker (h : s.Working p) {w : Fin W} {sh : Shared W T E}
    {pc : WorkerPc T E} (hstep : WorkerStep p w s.shared (s.workers w) sh pc) :
    ({ s with shared := sh, workers := Function.update s.workers w pc } :
        ExecutorState W T E S).Working p := by
  obtain ⟨hcancelled, hreceiving, hclosed⟩ := hstep.flags
  have hflow := hstep.flow h.cancelled h.receiving (h.gaveUp w)
  obtain ⟨hresults, hmessage⟩ := hstep.genuine h.results (h.messages w)
  refine
    { h with
      cancelled := hcancelled.trans h.cancelled
      receiving := hreceiving.trans h.receiving
      gaveUp := fun v => ?_
      ended := fun v hv => ?_
      closed := fun hc => h.closed (hclosed ▸ hc)
      results := hresults
      messages := fun v m hm => ?_
      inFlight := ?_ }
  · by_cases hvw : v = w
    · subst hvw
      simp only [Function.update_self]
      by_contra hgave
      have htrue := hstep.gaveUp (fun hc => by rw [h.gaveUp v] at hc; cases hc)
        (Bool.eq_true_of_not_eq_false hgave)
      rw [hcancelled, h.cancelled] at htrue
      cases htrue
    · simpa only [Function.update_of_ne hvw] using h.gaveUp v
  · by_cases hvw : v = w
    · subst hvw
      simp only [Function.update_self] at hv
      subst hv
      exact hstep.ended h.cancelled h.receiving (h.gaveUp v)
    · simp only [Function.update_of_ne hvw] at hv
      obtain ⟨hc, htasks⟩ := h.ended v hv
      refine ⟨hclosed.trans hc, ?_⟩
      have hsub := hstep.tasks_sublist
      rw [htasks] at hsub
      exact List.sublist_nil.mp hsub
  · by_cases hvw : v = w
    · subst hvw
      simp only [Function.update_self] at hm
      exact hmessage m hm
    · simp only [Function.update_of_ne hvw] at hm
      exact h.messages v m hm
  · have heq := inFlight_update (s := s) w sh pc
    rw [hflow] at heq
    exact (Multiset.add_left_inj.mp heq).trans h.inFlight

end Workers

/-! ### The verdict -/

namespace BoundedOrdered

/-- When the loop ends within its first ordinals, and in windowed mode their windows have no
failure, this end is the verdict. -/
lemma verdict_of_ended {m : ℕ} {v : Verdict E S}
    (hloop : p.commitLoop 0 m p.commitState [] = v) (hend : ∀ c, v.outcome ≠ .completed c false)
    (hm : m ≤ p.taskCount)
    (hwindow : p.mode = .windowed → ∃ k, m ≤ p.windowEnd (k * p.maxInFlight) ∧
      ∀ i < p.windowEnd (k * p.maxInFlight), (p.prepared i).isOk = true)
    (hcap : 0 < p.maxInFlight) : p.verdict = v := by
  have hend' : ∀ c, (p.commitLoop 0 m p.commitState []).outcome ≠ .completed c false := by
    rw [hloop]
    exact hend
  have hserial : p.serialVerdict = v := (commitLoop_mono hend' hm).trans hloop
  rw [verdict]
  cases hmode : p.mode with
  | sliding => exact hserial
  | windowed =>
    obtain ⟨k, hmk, hok⟩ := hwindow hmode
    simp only [windowedVerdict]
    cases hfailure : p.firstFailure 0 p.taskCount with
    | none => exact hserial
    | some failure =>
      obtain ⟨i, error⟩ := failure
      obtain ⟨-, hi, herror, -⟩ := firstFailure_eq_some.mp hfailure
      -- the failure comes after the window in which the loop has ended
      have hlate : p.windowEnd (k * p.maxInFlight) ≤ i := by
        by_contra hlt
        have hisOk := hok i (by omega)
        rw [herror] at hisOk
        cases hisOk
      have hnext : (k + 1) * p.maxInFlight ≤ i := by
        rw [windowEnd] at hlate
        rw [Nat.succ_mul]
        omega
      have hwindow : (k + 1) * p.maxInFlight ≤ i / p.maxInFlight * p.maxInFlight :=
        Nat.mul_le_mul_right _ ((Nat.le_div_iff_mul_le hcap).mpr hnext)
      have hle : m ≤ i / p.maxInFlight * p.maxInFlight := by
        have hmin : p.windowEnd (k * p.maxInFlight) ≤ k * p.maxInFlight + p.maxInFlight :=
          min_le_left _ _
        rw [Nat.succ_mul] at hwindow
        omega
      have hbefore := (commitLoop_mono hend' hle).trans hloop
      dsimp only
      rw [hbefore]
      rcases houtcome : v.outcome with ⟨c, _ | _⟩ | _ | _ | _
      · exact absurd houtcome (hend c)
      all_goals rfl

/-- When all ordinals have been committed, the loop has completed. -/
lemma verdict_of_completed {s : S} {calls : List ℕ}
    (hloop : p.commitLoop 0 p.taskCount p.commitState [] = ⟨s, calls, .completed p.taskCount false⟩)
    (hok : ∀ i < p.taskCount, (p.prepared i).isOk = true) :
    p.verdict = ⟨s, calls, .completed p.taskCount false⟩ := by
  have hnone : p.firstFailure 0 p.taskCount = none :=
    firstFailure_eq_none.mpr fun j _ hj => hok j (by omega)
  rw [verdict, windowedVerdict, hnone, serialVerdict, hloop]
  cases p.mode <;> rfl

/-- The first failure ends the windowed loop at the start of its window. -/
lemma verdict_of_failure {s : S} {calls : List ℕ} {i k : ℕ} {error : E} (hmode : p.mode = .windowed)
    (hloop : p.commitLoop 0 (k * p.maxInFlight) p.commitState [] =
      ⟨s, calls, .completed (k * p.maxInFlight) false⟩)
    (hlo : k * p.maxInFlight ≤ i) (hhi : i < k * p.maxInFlight + p.maxInFlight)
    (hi : i < p.taskCount) (herror : p.prepared i = .error error)
    (hok : ∀ j < i, (p.prepared j).isOk = true) : p.verdict = ⟨s, calls, .failed error⟩ := by
  have hfailure : p.firstFailure 0 p.taskCount = some (i, error) :=
    firstFailure_eq_some.mpr ⟨Nat.zero_le i, by omega, herror, fun j _ hj => hok j hj⟩
  have hdiv : i / p.maxInFlight = k :=
    Nat.div_eq_of_lt_le hlo (by rw [Nat.succ_mul]; exact hhi)
  rw [verdict, hmode]
  simp only [windowedVerdict, hfailure, hdiv, hloop]

end BoundedOrdered

/-- When all results of a range are there, the search for a failure finds the first one. -/
lemma Coordinator.firstError_eq {c : Coordinator T E S} {i count : ℕ}
    (h : ∀ j, i ≤ j → j < i + count → c.pending.lookup j = some (p.prepared j)) :
    c.firstError i count = (p.firstFailure i count).map Prod.snd := by
  induction count generalizing i with
  | zero => rfl
  | succ count ih =>
    rw [Coordinator.firstError, h i le_rfl (by omega), BoundedOrdered.firstFailure]
    cases p.prepared i with
    | error error => rfl
    | ok value => exact ih fun j h₁ h₂ => h j (by omega) (by omega)

/-! ### Steps of the coordinator -/

namespace ExecutorState.Working

variable {s : ExecutorState W T E S}

/-- The coordinator goes to another place, and nothing else matters to the order. -/
lemma move (h : s.Working p) {sh : Shared W T E} {c : Coordinator T E S}
    (hcancelled : sh.cancelled = s.shared.cancelled) (hreceiving : sh.receiving = s.shared.receiving)
    (hclosed : sh.closed = true → s.shared.closed = true ∨ c.nextToQueue = p.taskCount)
    (hkeep : s.shared.closed = true → sh.closed = true)
    (htasks : sh.tasks = s.shared.tasks) (hresults : sh.results = s.shared.results)
    (hqueue : c.nextToQueue = s.coordinator.nextToQueue)
    (hcommit : c.nextToCommit = s.coordinator.nextToCommit)
    (hinHand : c.pc.inHand = s.coordinator.pc.inHand)
    (hpending : c.pending = s.coordinator.pending)
    (hstate : c.commitState = s.coordinator.commitState) (hcalls : c.calls = s.coordinator.calls)
    (hsliding : p.mode = .sliding → c.Sliding p) (hwindowed : p.mode = .windowed → c.Windowed p) :
    ({ s with shared := sh, coordinator := c } : ExecutorState W T E S).Working p where
  cancelled := hcancelled.trans h.cancelled
  receiving := hreceiving.trans h.receiving
  gaveUp := h.gaveUp
  ended w hw := ⟨hkeep (h.ended w hw).1, htasks.trans (h.ended w hw).2⟩
  closed hc := by
    rcases hclosed hc with hold | hall
    · exact hqueue.trans (h.closed hold)
    · exact hall
  results := by
    rw [hresults]
    exact h.results
  messages := h.messages
  inHand := by
    rw [hinHand]
    exact h.inHand
  pending := by
    rw [hpending]
    exact h.pending
  inFlight := by
    have hflight : ({ s with shared := sh, coordinator := c } : ExecutorState W T E S).inFlight =
        s.inFlight := by
      simp only [ExecutorState.inFlight, Shared.queued, Coordinator.stored, htasks, hresults, hinHand, hpending]
    rw [hflight, hqueue, hcommit]
    exact h.inFlight
  le := by
    rw [hqueue, hcommit]
    exact h.le
  le_count := by
    rw [hqueue]
    exact h.le_count
  calls := by
    rw [hcalls, hcommit]
    exact h.calls
  committed := by
    rw [hcalls, hcommit, hstate]
    exact h.committed
  succeeded := by
    rw [hcommit]
    exact h.succeeded
  sliding := hsliding
  windowed := hwindowed

/-- The coordinator takes a result from the channel. -/
lemma receive (h : s.Working p) {m : Message T E} {rest : List (Message T E)}
    (hresults : s.shared.results = m :: rest) (hinHand : s.coordinator.pc.inHand = none)
    (hsliding : p.mode = .sliding →
      ({ s.coordinator with pc := .received .bump m } : Coordinator T E S).Sliding p)
    (hwindowed : p.mode = .windowed →
      ({ s.coordinator with pc := .received .bump m } : Coordinator T E S).Windowed p) :
    ({ s with
        shared := { s.shared with results := rest }
        coordinator := { s.coordinator with pc := .received .bump m } } :
      ExecutorState W T E S).Working p where
  cancelled := h.cancelled
  receiving := h.receiving
  gaveUp := h.gaveUp
  ended := h.ended
  closed := h.closed
  results m' hm' := h.results m' (hresults ▸ List.mem_cons_of_mem m hm')
  messages := h.messages
  inHand m' hm' := by
    cases hm'
    exact h.results m (hresults ▸ List.mem_cons_self)
  pending := h.pending
  inFlight := by
    have hstored : ({ s.coordinator with pc := .received .bump m } : Coordinator T E S).stored =
        {m.1} + ordinals s.coordinator.pending := Coordinator.stored_of_some rfl
    refine Eq.trans ?_ h.inFlight
    simp only [ExecutorState.inFlight, Shared.queued, hresults, ordinals_cons,
      Coordinator.stored_of_none hinHand, hstored]
    ac_rfl
  le := h.le
  le_count := h.le_count
  calls := h.calls
  committed := h.committed
  succeeded := h.succeeded
  sliding := hsliding
  windowed := hwindowed

/-- A received result is stored. -/
lemma insert (h : s.Working p) {m : Message T E}
    (hpc : s.coordinator.pc = .received .finished m) :
    ({ s with coordinator := s.coordinator.insertPending p m } : ExecutorState W T E S).Working
      p where
  cancelled := h.cancelled
  receiving := h.receiving
  gaveUp := h.gaveUp
  ended := h.ended
  closed := h.closed
  results := h.results
  messages := h.messages
  inHand m' hm' := by
    simp only [Coordinator.insertPending] at hm'
    cases hmode : p.mode <;> rw [hmode] at hm'
    · cases hm'
    · dsimp only at hm'
      split at hm' <;> cases hm'
  pending m' hm' := by
    rcases List.mem_cons.mp hm' with rfl | hm'
    · exact h.inHand m' (by rw [hpc]; rfl)
    · exact h.pending m' hm'
  inFlight := by
    have hinHand : (s.coordinator.insertPending p m).pc.inHand = none := by
      simp only [Coordinator.insertPending]
      cases p.mode
      · rfl
      · dsimp only
        split <;> rfl
    have hstored : (s.coordinator.insertPending p m).stored = s.coordinator.stored := by
      have hpending : (s.coordinator.insertPending p m).pending = m :: s.coordinator.pending := rfl
      rw [Coordinator.stored_of_none hinHand, Coordinator.stored_of_some (by rw [hpc]; rfl),
        hpending, ordinals_cons]
    show s.shared.queued + _ + (s.coordinator.insertPending p m).stored = _
    rw [hstored]
    exact h.inFlight
  le := h.le
  le_count := h.le_count
  calls := h.calls
  committed := h.committed
  succeeded := h.succeeded
  -- a failure stops the admission, and it is the stored result that shows it
  sliding hmode := by
    have hplace := h.sliding hmode
    refine ⟨hplace.cap, fun hstop => ?_, ?_⟩
    · rcases Bool.or_eq_true_iff.mp hstop with hstop | hfailed
      · obtain ⟨m', hm', hfail⟩ := hplace.stopped hstop
        exact ⟨m', List.mem_cons_of_mem m hm', hfail⟩
      · exact ⟨m, List.mem_cons_self, by simpa using hfailed⟩
    · simp only [Coordinator.SlidingPlace, Coordinator.insertPending, hmode]
  windowed hmode := by
    have hplace := h.windowed hmode
    refine ⟨hplace.start, ?_⟩
    have hold := hplace.place
    simp only [Coordinator.WindowedPlace, hpc] at hold
    obtain ⟨hlt, hcommit, hlo, hhi⟩ := hold
    simp only [Coordinator.WindowedPlace, Coordinator.insertPending, hmode]
    by_cases hmore : s.coordinator.nextToQueue < p.windowEnd s.coordinator.windowStart
    · simp only [hmore, if_true]
      exact ⟨hlt, hcommit, hlo, hhi⟩
    · simp only [hmore, if_false]
      exact ⟨hlt, hcommit, by omega⟩

/-- The coordinator queues further ordinals. -/
lemma queue (h : s.Working p) {k : ℕ} {c : Coordinator T E S}
    (hclosed : s.shared.closed = false)
    (hqueue : c.nextToQueue = s.coordinator.nextToQueue + k) (hle : c.nextToQueue ≤ p.taskCount)
    (hcommit : c.nextToCommit = s.coordinator.nextToCommit)
    (hinHand : c.pc.inHand = s.coordinator.pc.inHand)
    (hpending : c.pending = s.coordinator.pending)
    (hstate : c.commitState = s.coordinator.commitState) (hcalls : c.calls = s.coordinator.calls)
    (hsliding : p.mode = .sliding → c.Sliding p) (hwindowed : p.mode = .windowed → c.Windowed p) :
    ({ s with
        shared := { s.shared with
          tasks := s.shared.tasks ++ List.range' s.coordinator.nextToQueue k }
        coordinator := c } : ExecutorState W T E S).Working p where
  cancelled := h.cancelled
  receiving := h.receiving
  gaveUp := h.gaveUp
  ended w hw := by
    have hc := (h.ended w hw).1
    rw [hclosed] at hc
    cases hc
  closed hc := by
    rw [show s.shared.closed = true from hc] at hclosed
    cases hclosed
  results := h.results
  messages := h.messages
  inHand := by
    rw [hinHand]
    exact h.inHand
  pending := by
    rw [hpending]
    exact h.pending
  inFlight := by
    have hflight := h.inFlight
    -- the new ordinals extend the interval in flight at its end
    have hsplit : (Finset.Ico c.nextToCommit c.nextToQueue).val =
        (Finset.Ico s.coordinator.nextToCommit s.coordinator.nextToQueue).val +
          (List.range' s.coordinator.nextToQueue k : Multiset ℕ) := by
      have hrange : ∀ a b, a ≤ b → (Finset.Ico a b).val = (List.range' a (b - a) : Multiset ℕ) :=
        fun a b _ => rfl
      have hle := h.le
      rw [hqueue, hcommit, hrange _ _ (by omega), hrange _ _ hle, Multiset.coe_add]
      congr 1
      have happend : List.range' s.coordinator.nextToCommit
          (s.coordinator.nextToQueue - s.coordinator.nextToCommit) ++
          List.range' (s.coordinator.nextToCommit +
            1 * (s.coordinator.nextToQueue - s.coordinator.nextToCommit)) k = _ :=
        List.range'_append
      rw [one_mul, Nat.add_sub_cancel' hle] at happend
      rw [happend]
      congr 1
      omega
    rw [hsplit, ← hflight]
    simp only [ExecutorState.inFlight, Shared.queued, Coordinator.stored, hinHand, hpending, ← Multiset.coe_add]
    ac_rfl
  le := by
    have hle := h.le
    rw [hqueue, hcommit]
    omega
  le_count := hle
  calls := by
    rw [hcalls, hcommit]
    exact h.calls
  committed := by
    rw [hcalls, hcommit, hstate]
    exact h.committed
  succeeded := by
    rw [hcommit]
    exact h.succeeded
  sliding := hsliding
  windowed := hwindowed

/-- Without the result of the next ordinal, the rest is in flight. -/
lemma inFlight_filter (h : s.Working p) {r : Except E T} {sh : Shared W T E}
    {c : Coordinator T E S}
    (hlookup : s.coordinator.pending.lookup s.coordinator.nextToCommit = some r)
    (hinHand : s.coordinator.pc.inHand = none) (hqueued : sh.queued = s.shared.queued)
    (hc : c.pc.inHand = none)
    (hpending : c.pending = s.coordinator.pending.filter (·.1 ≠ s.coordinator.nextToCommit)) :
    ({ s with shared := sh, coordinator := c } : ExecutorState W T E S).inFlight =
      (Finset.Ico (s.coordinator.nextToCommit + 1) s.coordinator.nextToQueue).val := by
  have hmem : s.coordinator.nextToCommit ∈ ordinals s.coordinator.pending :=
    mem_ordinals.mpr ⟨r, mem_of_lookup hlookup⟩
  have hlt := (h.mem_pending hmem).2
  have hflight : {s.coordinator.nextToCommit} +
      ({ s with shared := sh, coordinator := c } : ExecutorState W T E S).inFlight =
        s.inFlight := by
    simp only [ExecutorState.inFlight, Coordinator.stored_of_none hinHand,
      Coordinator.stored_of_none hc, hqueued, hpending]
    rw [← ordinals_filter h.nodup_pending hmem]
    ac_rfl
  have hrange : (Finset.Ico s.coordinator.nextToCommit s.coordinator.nextToQueue).val =
      {s.coordinator.nextToCommit} +
        (Finset.Ico (s.coordinator.nextToCommit + 1) s.coordinator.nextToQueue).val := by
    have hval : ∀ a b : ℕ, (Finset.Ico a b).val = (List.range' a (b - a) : Multiset ℕ) :=
      fun a b => rfl
    rw [hval, hval, show s.coordinator.nextToQueue - s.coordinator.nextToCommit =
        s.coordinator.nextToQueue - (s.coordinator.nextToCommit + 1) + 1 from by omega,
      List.range'_succ, ← Multiset.cons_coe, Multiset.singleton_add]
  rw [h.inFlight, hrange] at hflight
  exact Multiset.add_right_inj.mp hflight

/-- What the coordinator returns is the verdict, once that is known. -/
lemma finish (h : s.Working p) {sh : Shared W T E} {c : Coordinator T E S} {outcome : Outcome E}
    (hpc : c.pc = .returned .cancel outcome)
    (hverdict : (⟨c.commitState, c.calls, outcome⟩ : Verdict E S) = p.verdict)
    (hflight : ({ s with shared := sh, coordinator := c } : ExecutorState W T E S).inFlight ≤
      (Finset.Ico c.nextToCommit c.nextToQueue).val)
    (hqueue : c.nextToQueue = s.coordinator.nextToQueue)
    (hcommit : s.coordinator.nextToCommit ≤ c.nextToCommit)
    (hstart : c.windowStart = s.coordinator.windowStart)
    (hsettled : outcome.cancels = false → c.nextToQueue ≤ c.nextToCommit) :
    ({ s with shared := sh, coordinator := c } : ExecutorState W T E S).Ordered p := by
  have hreturned : ({ s with shared := sh, coordinator := c } : ExecutorState W T E S).Returned p
      outcome := by
    refine ⟨hverdict, hflight, hsettled, ?_, fun hmode => ?_, fun hmode => ⟨?_, fun hlt => ?_⟩⟩
    · rw [hqueue]
      exact h.le_count
    · have hcap := (h.sliding hmode).cap
      show c.nextToQueue ≤ c.nextToCommit + p.maxInFlight
      omega
    · rw [hstart]
      exact (h.windowed hmode).start
    · have hlt : c.nextToCommit < c.nextToQueue := hlt
      obtain ⟨hlo, hhi⟩ := (h.windowed hmode).within (by omega)
      show c.windowStart ≤ c.nextToCommit ∧ c.nextToQueue ≤ p.windowEnd c.windowStart
      rw [hstart, hqueue]
      exact ⟨by omega, hhi⟩
  refine ⟨fun hworks => ?_, fun stage outcome' hpc' => ?_⟩
  · rw [show (_ : CoordinatorPc T E) = _ from hpc] at hworks
    cases hworks
  · rw [show (_ : CoordinatorPc T E) = _ from hpc] at hpc'
    cases hpc'
    exact hreturned

/-- The coordinator commits the next ordinal. -/
lemma commit (h : s.Working p) (hcap : 0 < p.maxInFlight) {r : Except E T}
    (hlookup : s.coordinator.pending.lookup s.coordinator.nextToCommit = some r)
    (hinHand : s.coordinator.pc.inHand = none) (hreturned : s.coordinator.pc.hasReturned = false)
    (hwindow : p.mode = .windowed → ∃ k,
      s.coordinator.nextToCommit + 1 ≤ p.windowEnd (k * p.maxInFlight) ∧
        ∀ i < p.windowEnd (k * p.maxInFlight), (p.prepared i).isOk = true)
    (hsliding : p.mode = .sliding → s.coordinator.pc = .head)
    (hwindowed : p.mode = .windowed → s.coordinator.pc = .commit) :
    ({ s with
        shared := s.shared.afterCommit p s.coordinator r
        coordinator := s.coordinator.commitNext p r } : ExecutorState W T E S).Ordered p := by
  obtain ⟨rfl, hlt⟩ := h.prepared_of_lookup hlookup
  have hle := h.le_count
  have hloop : p.commitLoop 0 (s.coordinator.nextToCommit + 1) p.commitState [] =
      p.commitLoop s.coordinator.nextToCommit 1 s.coordinator.commitState s.coordinator.calls := by
    rw [BoundedOrdered.commitLoop_add h.committed, Nat.zero_add]
  have hqueued : ∀ r, (s.shared.afterCommit p s.coordinator r).queued = s.shared.queued := by
    intro r
    rcases r with _ | value
    · rfl
    · simp only [Shared.afterCommit]
      split <;> rfl
  have hsub : (Finset.Ico (s.coordinator.nextToCommit + 1) s.coordinator.nextToQueue).val ≤
      (Finset.Ico s.coordinator.nextToCommit s.coordinator.nextToQueue).val :=
    Finset.val_le_iff.mpr (Finset.Ico_subset_Ico_left (by omega))
  -- a failed result ends the loop; a value goes to the callback, whose answer is one of three
  cases hprepared : p.prepared s.coordinator.nextToCommit with
  | error error =>
    rw [BoundedOrdered.commitLoop_of_error hprepared] at hloop
    have hverdict := BoundedOrdered.verdict_of_ended hloop (fun c hc => by cases hc) (by omega)
      hwindow hcap
    refine h.finish (show _ = CoordinatorPc.returned .cancel (.failed error) from rfl)
      hverdict.symm ?_ rfl le_rfl rfl (fun hc => by cases hc)
    rw [hprepared] at hlookup
    exact (le_of_eq (h.inFlight_filter hlookup hinHand (hqueued _) rfl rfl)).trans hsub
  | ok value =>
    rw [hprepared] at hlookup
    rw [BoundedOrdered.commitLoop_of_ok hprepared] at hloop
    rcases hcontrol : (p.orderedCommit s.coordinator.commitState s.coordinator.nextToCommit
      value).2 with error | _ | _
    · -- the callback fails
      rw [hcontrol] at hloop
      have hverdict := BoundedOrdered.verdict_of_ended hloop (fun c hc => by cases hc) (by omega)
        hwindow hcap
      have hnext : s.coordinator.commitNext p (.ok value) =
          { s.coordinator with
            pending := s.coordinator.pending.filter (·.1 ≠ s.coordinator.nextToCommit)
            commitState := (p.orderedCommit s.coordinator.commitState s.coordinator.nextToCommit
              value).1
            calls := s.coordinator.calls ++ [s.coordinator.nextToCommit]
            pc := .returned .cancel (.failed error) } := by
        simp only [Coordinator.commitNext, hcontrol, Coordinator.finishWith]
      rw [hnext]
      refine h.finish (show _ = CoordinatorPc.returned .cancel (.failed error) from rfl)
        hverdict.symm ?_ rfl le_rfl rfl (fun hc => by cases hc)
      exact (le_of_eq (h.inFlight_filter hlookup hinHand (hqueued _) rfl rfl)).trans hsub
    · -- the callback lets the loop go on
      rw [hcontrol, BoundedOrdered.commitLoop_zero] at hloop
      have hnext : s.coordinator.commitNext p (.ok value) =
          { s.coordinator with
            pending := s.coordinator.pending.filter (·.1 ≠ s.coordinator.nextToCommit)
            commitState := (p.orderedCommit s.coordinator.commitState s.coordinator.nextToCommit
              value).1
            calls := s.coordinator.calls ++ [s.coordinator.nextToCommit]
            nextToCommit := s.coordinator.nextToCommit + 1 } := by
        simp only [Coordinator.commitNext, hcontrol]
      have hsame : s.shared.afterCommit p s.coordinator (.ok value) =
          s.shared.resultCommitted (p.rowCount s.coordinator.nextToCommit) := by
        simp only [Shared.afterCommit, hcontrol]
        rfl
      rw [hnext, hsame]
      have hworking : ({ s with
          shared := s.shared.resultCommitted (p.rowCount s.coordinator.nextToCommit)
          coordinator := { s.coordinator with
            pending := s.coordinator.pending.filter (·.1 ≠ s.coordinator.nextToCommit)
            commitState := (p.orderedCommit s.coordinator.commitState s.coordinator.nextToCommit
              value).1
            calls := s.coordinator.calls ++ [s.coordinator.nextToCommit]
            nextToCommit := s.coordinator.nextToCommit + 1 } } :
          ExecutorState W T E S).Working p := by
        refine ⟨h.cancelled, h.receiving, h.gaveUp, h.ended, h.closed, h.results, h.messages,
          h.inHand, fun m hm => h.pending m (List.mem_of_mem_filter hm),
          h.inFlight_filter hlookup hinHand rfl hinHand rfl, hlt, h.le_count, ?_, hloop,
          fun i hi => ?_, fun hmode => ?_, fun hmode => ?_⟩
        · show s.coordinator.calls ++ [s.coordinator.nextToCommit] = _
          rw [h.calls, List.range_succ]
        · rcases Nat.lt_succ_iff_lt_or_eq.mp hi with hi | rfl
          · exact h.succeeded i hi
          · rw [hprepared]
            rfl
        · have hold := h.sliding hmode
          have hhead := hsliding hmode
          refine ⟨?_, fun hstop => ?_, ?_⟩
          · have hcapped := hold.cap
            show s.coordinator.nextToQueue ≤ s.coordinator.nextToCommit + 1 + p.maxInFlight
            omega
          · -- the failure is not the one just committed
            obtain ⟨m, hm, hfailed⟩ := hold.stopped hstop
            refine ⟨m, List.mem_filter.mpr ⟨hm, ?_⟩, hfailed⟩
            rw [decide_eq_true_eq]
            intro heq
            rw [h.pending m hm, heq, hprepared] at hfailed
            cases hfailed
          · simp only [Coordinator.SlidingPlace, hhead]
        · have hold := h.windowed hmode
          have hplace := hold.place
          refine ⟨hold.start, ?_⟩
          simp only [Coordinator.WindowedPlace, hwindowed hmode] at hplace ⊢
          obtain ⟨hstart, hlo, hqueue, -, hall, hok⟩ := hplace
          refine ⟨hstart, by omega, hqueue, hlt, ?_, hok⟩
          have hfilter := congrArg Multiset.card (ordinals_filter h.nodup_pending
            (mem_ordinals.mpr ⟨_, mem_of_lookup hlookup⟩))
          rw [Multiset.card_add, Multiset.card_singleton, card_ordinals, card_ordinals] at hfilter
          omega
      exact hworking.ordered hreturned
    · -- the callback stops the loop
      rw [hcontrol] at hloop
      have hverdict := BoundedOrdered.verdict_of_ended hloop (fun c hc => by cases hc) (by omega)
        hwindow hcap
      have hnext : s.coordinator.commitNext p (.ok value) =
          { s.coordinator with
            pending := s.coordinator.pending.filter (·.1 ≠ s.coordinator.nextToCommit)
            commitState := (p.orderedCommit s.coordinator.commitState s.coordinator.nextToCommit
              value).1
            calls := s.coordinator.calls ++ [s.coordinator.nextToCommit]
            nextToCommit := s.coordinator.nextToCommit + 1
            pc := .returned .cancel (.completed (s.coordinator.nextToCommit + 1) true) } := by
        simp only [Coordinator.commitNext, hcontrol, Coordinator.finishWith]
      rw [hnext]
      refine h.finish (show _ = CoordinatorPc.returned .cancel
        (.completed (s.coordinator.nextToCommit + 1) true) from rfl)
        hverdict.symm ?_ rfl (Nat.le_succ _) rfl (fun hc => by cases hc)
      exact le_of_eq (h.inFlight_filter hlookup hinHand (hqueued _) rfl rfl)

/-- The coordinator goes to another place. -/
lemma goTo (h : s.Working p) {sh : Shared W T E} (hsame : sh.SameOrder s.shared)
    (pc : CoordinatorPc T E) (hinHand : pc.inHand = s.coordinator.pc.inHand)
    (hworks : pc.hasReturned = false)
    (hsliding : p.mode = .sliding → s.coordinator.SlidingPlace p pc)
    (hwindowed : p.mode = .windowed → s.coordinator.WindowedPlace p pc) :
    ({ s with shared := sh, coordinator := { s.coordinator with pc := pc } } :
      ExecutorState W T E S).Ordered p := by
  refine Working.ordered (h.move hsame.cancelled hsame.receiving
    (fun hc => Or.inl (hsame.closed ▸ hc)) (fun hc => hsame.closed.trans hc) hsame.tasks
    hsame.results rfl rfl hinHand rfl rfl rfl (fun hmode => ?_) (fun hmode => ?_)) hworks
  · exact ⟨(h.sliding hmode).cap, (h.sliding hmode).stopped, hsliding hmode⟩
  · exact ⟨(h.windowed hmode).start, hwindowed hmode⟩

/-- The coordinator returns the verdict. -/
lemma finishWith (h : s.Working p) {outcome : Outcome E} (hinHand : s.coordinator.pc.inHand = none)
    (hsettled : outcome.cancels = false →
      s.coordinator.nextToQueue ≤ s.coordinator.nextToCommit)
    (hverdict : (⟨s.coordinator.commitState, s.coordinator.calls, outcome⟩ : Verdict E S) =
      p.verdict) :
    ({ s with coordinator := s.coordinator.finishWith outcome } : ExecutorState W T E S).Ordered
      p := by
  refine h.finish rfl hverdict (le_of_eq ?_) rfl le_rfl rfl hsettled
  refine Eq.trans ?_ h.inFlight
  have hstored : (s.coordinator.finishWith outcome).stored = s.coordinator.stored := by
    rw [Coordinator.stored_of_none hinHand]
    exact Coordinator.stored_of_none rfl
  simp only [ExecutorState.inFlight, hstored]

/-- All results of a window are pending once there are enough of them. -/
lemma lookup_window (h : s.Working p) (hqueue : s.coordinator.nextToQueue - s.coordinator.nextToCommit
      ≤ s.coordinator.pending.length) {i : ℕ} (hlo : s.coordinator.nextToCommit ≤ i)
    (hhi : i < s.coordinator.nextToQueue) :
    s.coordinator.pending.lookup i = some (p.prepared i) := by
  have hall : ordinals s.coordinator.pending = s.inFlight := by
    refine Multiset.eq_of_le_of_card_le (pending_le s) ?_
    rw [h.inFlight, card_ordinals]
    exact le_trans (le_of_eq (Nat.card_Ico _ _)) hqueue
  have hmem : i ∈ ordinals s.coordinator.pending := by
    rw [hall, h.inFlight]
    exact Finset.mem_Ico.mpr ⟨hlo, hhi⟩
  obtain ⟨r, hr⟩ := mem_ordinals.mp hmem
  rw [lookup_of_mem h.nodup_pending hr, show r = p.prepared i from h.pending _ hr]

/-- The coordinator does not block for a result when none is on its way. -/
lemma not_recv_of_idle (h : s.Working p) (hcap : 0 < p.maxInFlight) (hpc : s.coordinator.pc = .recv)
    (htasks : s.shared.tasks = []) (hresults : s.shared.results = [])
    (hheld : ∀ w, (s.workers w).held = 0) : False := by
  have hpending : ordinals s.coordinator.pending =
      (Finset.Ico s.coordinator.nextToCommit s.coordinator.nextToQueue).val := by
    rw [← h.inFlight, ExecutorState.inFlight, Shared.queued, htasks, hresults,
      Coordinator.stored_of_none (by rw [hpc]; rfl), Finset.sum_eq_zero fun w _ => hheld w]
    rw [ordinals_nil, Multiset.coe_nil, zero_add, zero_add, zero_add]
  have hle := h.le
  cases hmode : p.mode with
  | sliding =>
    have hold := h.sliding hmode
    have hplace := hold.place
    simp only [Coordinator.SlidingPlace, hpc] at hplace
    obtain ⟨hlt, hlookup, hqueue⟩ := hplace
    have hempty : s.coordinator.nextToQueue ≤ s.coordinator.nextToCommit := by
      by_contra hmore
      refine lookup_eq_none.mp hlookup ?_
      rw [hpending, Finset.mem_val, Finset.mem_Ico]
      omega
    refine hqueue ⟨?_, by omega, by omega⟩
    by_contra hstop
    obtain ⟨m, hm, -⟩ := hold.stopped (Bool.eq_true_of_not_eq_false hstop)
    have hrange := h.mem_pending (mem_ordinals.mpr ⟨m.2, hm⟩)
    omega
  | windowed =>
    have hplace := (h.windowed hmode).place
    simp only [Coordinator.WindowedPlace, hpc] at hplace
    obtain ⟨-, hcommit, hqueue, hmissing⟩ := hplace
    have hcard := congrArg Multiset.card hpending
    rw [card_ordinals, hcommit, hqueue] at hcard
    have hIco : Multiset.card (Finset.Ico s.coordinator.windowStart
        (p.windowEnd s.coordinator.windowStart)).val =
          p.windowEnd s.coordinator.windowStart - s.coordinator.windowStart := Nat.card_Ico _ _
    omega

/-- While further ordinals have to be queued, the workers do not end. -/
lemma not_ended (h : s.Working p) (hW : 0 < W)
    (hqueue : s.coordinator.nextToQueue < p.taskCount) : ¬ ∀ w, s.workers w = .done := by
  intro hall
  have hclosed := h.closed (h.ended ⟨0, hW⟩ (hall ⟨0, hW⟩)).1
  omega

/-- After a failed attempt the coordinator tries again. -/
lemma retryPush (h : s.Working p) {sh : Shared W T E} (hsame : sh.SameOrder s.shared)
    (hinHand : s.coordinator.pc.inHand = none)
    (hwindowed : p.mode = .windowed → s.coordinator.WindowedPlace p .snapshot) :
    ({ s with shared := sh, coordinator := s.coordinator.retryPush p } :
      ExecutorState W T E S).Ordered p := by
  cases hmode : p.mode with
  | sliding =>
    rw [Coordinator.retryPush, hmode]
    exact h.goTo hsame .head hinHand.symm rfl (fun _ => trivial)
      fun hw => absurd (hw.symm.trans hmode) (by decide)
  | windowed =>
    rw [Coordinator.retryPush, hmode]
    refine h.goTo hsame .fill hinHand.symm rfl
      (fun hs => absurd (hs.symm.trans hmode) (by decide)) fun _ => ?_
    obtain ⟨hlt, hcommit, hlo, hhi⟩ := hwindowed hmode
    exact ⟨hlt, hcommit, hlo, le_of_lt hhi⟩

/-- After a push the coordinator goes on, or closes the queue behind the last ordinal. -/
lemma afterPush (h : s.Working p) {sh : Shared W T E} (hsame : sh.SameOrder s.shared)
    (hpc : s.coordinator.pc = .notifyOne) :
    ({ s with shared := sh, coordinator := s.coordinator.afterPush p } :
      ExecutorState W T E S).Ordered p := by
  have hinHand : s.coordinator.pc.inHand = none := by rw [hpc]; rfl
  cases hmode : p.mode with
  | sliding =>
    rw [Coordinator.afterPush, hmode]
    dsimp only
    split
    · next hlast =>
      exact h.goTo hsame .close hinHand.symm rfl (fun _ => hlast)
        fun hw => absurd (hw.symm.trans hmode) (by decide)
    · exact h.goTo hsame .head hinHand.symm rfl (fun _ => trivial)
        fun hw => absurd (hw.symm.trans hmode) (by decide)
  | windowed =>
    rw [Coordinator.afterPush, hmode]
    have hplace := (h.windowed hmode).place
    rw [hpc] at hplace
    exact h.goTo hsame .fill hinHand.symm rfl
      (fun hs => absurd (hs.symm.trans hmode) (by decide)) fun _ => hplace

/-- What has just been received is not pending already. -/
lemma not_twice (h : s.Working p) {m : Message T E} (hinHand : s.coordinator.pc.inHand = some m) :
    m.1 ∉ ordinals s.coordinator.pending := by
  have hle : s.coordinator.stored ≤ s.inFlight := Multiset.le_add_left _ _
  have hnodup := Multiset.nodup_of_le hle h.nodup
  rw [Coordinator.stored_of_some hinHand, Multiset.singleton_add] at hnodup
  exact (Multiset.nodup_cons.mp hnodup).1

/-- All ordinals are committed. -/
lemma completed (h : s.Working p) (hinHand : s.coordinator.pc.inHand = none)
    (hall : s.coordinator.nextToCommit = p.taskCount) :
    ({ s with
      coordinator := s.coordinator.finishWith (.completed s.coordinator.nextToCommit false) } :
      ExecutorState W T E S).Ordered p := by
  have hcount := h.le_count
  refine h.finishWith hinHand (fun _ => by omega) ?_
  rw [hall]
  refine (BoundedOrdered.verdict_of_completed ?_ fun i hi => h.succeeded i (by omega)).symm
  rw [← hall]
  exact h.committed

/-- A window starts, with a push of all of it or of one ordinal after the other. -/
lemma windowStart (h : s.Working p)
    (hpc : s.coordinator.pc = .head) (hmode : p.mode = .windowed)
    (hnext : s.coordinator.windowStart < p.taskCount) :
    ({ s with
      coordinator := { s.coordinator with
        nextToQueue := s.coordinator.windowStart
        pc := if s.shared.progressNotifications then .fill else .pushWindow } } :
      ExecutorState W T E S).Ordered p := by
  have hwindowed := fun hmode => (h.windowed hmode).place
  have hsame := Shared.SameOrder.refl s.shared
  rw [hpc] at hwindowed
  obtain ⟨hcommit, hqueue⟩ := hwindowed hmode
  have hstart : s.coordinator.windowStart ≤ p.windowEnd s.coordinator.windowStart := by
    rw [BoundedOrdered.windowEnd]
    omega
  have hvariables : ∀ pc : CoordinatorPc T E,
      ({ s.coordinator with nextToQueue := s.coordinator.windowStart, pc := pc } :
        Coordinator T E S) = { s.coordinator with pc := pc } := by
    intro pc
    rw [show s.coordinator.windowStart = s.coordinator.nextToQueue by omega]
  rw [hvariables]
  cases s.shared.progressNotifications with
  | true =>
    exact h.goTo hsame .fill (by rw [hpc]; rfl) rfl
      (fun hs => absurd (hs.symm.trans hmode) (by decide))
      fun _ => ⟨hnext, by omega, by omega, by omega⟩
  | false =>
    exact h.goTo hsame .pushWindow (by rw [hpc]; rfl) rfl
      (fun hs => absurd (hs.symm.trans hmode) (by decide))
      fun _ => ⟨hnext, by omega, by omega⟩

/-- A whole window is pushed. -/
lemma pushWindow (h : s.Working p)
    (hpc : s.coordinator.pc = .pushWindow) (hclosed : s.shared.closed = false) :
    ({ s with
      shared := { s.shared with
        tasks := s.shared.tasks ++ List.range' s.coordinator.windowStart
          (p.windowEnd s.coordinator.windowStart - s.coordinator.windowStart) }
      coordinator := { s.coordinator with
        pc := .notifyAll, nextToQueue := p.windowEnd s.coordinator.windowStart } } :
      ExecutorState W T E S).Ordered p := by
  have hsliding := fun hmode => (h.sliding hmode).place
  have hwindowed := fun hmode => (h.windowed hmode).place
  have hend : ∀ ws, p.windowEnd ws ≤ p.taskCount := fun ws => min_le_right _ _
  rw [hpc] at hsliding hwindowed
  cases hmode : p.mode with
  | sliding => exact (hsliding hmode).elim
  | windowed =>
    obtain ⟨hlt, hcommit, hqueue⟩ := hwindowed hmode
    have hstart : s.coordinator.windowStart ≤ p.windowEnd s.coordinator.windowStart := by
      rw [BoundedOrdered.windowEnd]
      omega
    have hnew := h.queue (k := p.windowEnd s.coordinator.windowStart - s.coordinator.windowStart)
      (c := { s.coordinator with
        pc := .notifyAll, nextToQueue := p.windowEnd s.coordinator.windowStart }) hclosed
      (by rw [hqueue]; exact (Nat.add_sub_cancel' hstart).symm) (hend _) rfl
      (by rw [hpc]; rfl) rfl rfl rfl
      (fun hs => absurd (hs.symm.trans hmode) (by decide))
      (fun _ => ⟨(h.windowed hmode).start, hlt, hcommit, hstart, le_rfl⟩)
    rw [hqueue] at hnew
    exact hnew.ordered rfl

/-- A window is filled: the queue is closed behind the last one. -/
lemma filled (h : s.Working p)
    (hpc : s.coordinator.pc = .fill)
    (hnext : ¬ s.coordinator.nextToQueue < p.windowEnd s.coordinator.windowStart) :
    ({ s with coordinator := { s.coordinator with
      pc := if p.windowEnd s.coordinator.windowStart = p.taskCount then .close else .collect } } :
      ExecutorState W T E S).Ordered p := by
  have hsliding := fun hmode => (h.sliding hmode).place
  have hwindowed := fun hmode => (h.windowed hmode).place
  have hsame := Shared.SameOrder.refl s.shared
  rw [hpc] at hsliding hwindowed
  by_cases hlast : p.windowEnd s.coordinator.windowStart = p.taskCount
  · rw [if_pos hlast]
    refine h.goTo hsame .close (by rw [hpc]; rfl) rfl (fun hmode => (hsliding hmode).elim)
      fun hmode => ?_
    obtain ⟨hlt, hcommit, hlo, hhi⟩ := hwindowed hmode
    exact ⟨hlt, hcommit, by omega, by omega⟩
  · rw [if_neg hlast]
    refine h.goTo hsame .collect (by rw [hpc]; rfl) rfl (fun hmode => (hsliding hmode).elim)
      fun hmode => ?_
    obtain ⟨hlt, hcommit, hlo, hhi⟩ := hwindowed hmode
    exact ⟨hlt, hcommit, by omega⟩

/-- The first failure of a collected window is the verdict. -/
lemma windowFailed (h : s.Working p)
    (hpc : s.coordinator.pc = .collect)
    (hall : ¬ s.coordinator.pending.length <
      p.windowEnd s.coordinator.windowStart - s.coordinator.windowStart) {error : E}
    (herror : s.coordinator.firstError s.coordinator.windowStart
      (p.windowEnd s.coordinator.windowStart - s.coordinator.windowStart) = some error) :
    ({ s with coordinator := s.coordinator.finishWith (.failed error) } :
      ExecutorState W T E S).Ordered p := by
  have hsliding := fun hmode => (h.sliding hmode).place
  have hwindowed := fun hmode => (h.windowed hmode).place
  have hend : ∀ ws, p.windowEnd ws ≤ p.taskCount := fun ws => min_le_right _ _
  rw [hpc] at hsliding hwindowed
  cases hmode : p.mode with
  | sliding => exact (hsliding hmode).elim
  | windowed =>
    obtain ⟨hlt, hcommit, hqueue⟩ := hwindowed hmode
    obtain ⟨k, hk⟩ := (h.windowed hmode).start
    have hlookup : ∀ j, s.coordinator.windowStart ≤ j → j < s.coordinator.windowStart +
        (p.windowEnd s.coordinator.windowStart - s.coordinator.windowStart) →
          s.coordinator.pending.lookup j = some (p.prepared j) := fun j hlo hhi =>
      h.lookup_window (by omega) (by omega) (by omega)
    rw [Coordinator.firstError_eq hlookup, Option.map_eq_some_iff] at herror
    obtain ⟨⟨i, error⟩, hfailure, rfl⟩ := herror
    obtain ⟨hlo, hhi, herror, hbefore⟩ := BoundedOrdered.firstFailure_eq_some.mp hfailure
    have hwidth : p.windowEnd s.coordinator.windowStart ≤
        s.coordinator.windowStart + p.maxInFlight := min_le_left _ _
    have hcount := hend s.coordinator.windowStart
    refine h.finishWith (by rw [hpc]; rfl) (fun hc => by cases hc)
      (BoundedOrdered.verdict_of_failure (i := i) (k := k) hmode ?_ (by omega) (by omega)
        (by omega) herror fun j hj => ?_).symm
    · rw [← hk, ← hcommit]
      exact h.committed
    · by_cases hj' : j < s.coordinator.windowStart
      · exact h.succeeded j (by omega)
      · exact hbefore j (by omega) hj

/-- A collected window without a failure is committed next. -/
lemma windowReady (h : s.Working p)
    (hpc : s.coordinator.pc = .collect)
    (hall : ¬ s.coordinator.pending.length <
      p.windowEnd s.coordinator.windowStart - s.coordinator.windowStart)
    (herror : s.coordinator.firstError s.coordinator.windowStart
      (p.windowEnd s.coordinator.windowStart - s.coordinator.windowStart) = none) :
    ({ s with coordinator := { s.coordinator with pc := .commit } } :
      ExecutorState W T E S).Ordered p := by
  have hle := h.le
  have hsliding := fun hmode => (h.sliding hmode).place
  have hwindowed := fun hmode => (h.windowed hmode).place
  have hsame := Shared.SameOrder.refl s.shared
  rw [hpc] at hsliding hwindowed
  refine h.goTo hsame .commit (by rw [hpc]; rfl) rfl (fun hmode => (hsliding hmode).elim)
    fun hmode => ?_
  obtain ⟨hlt, hcommit, hqueue⟩ := hwindowed hmode
  have hlookup : ∀ j, s.coordinator.windowStart ≤ j → j < s.coordinator.windowStart +
      (p.windowEnd s.coordinator.windowStart - s.coordinator.windowStart) →
        s.coordinator.pending.lookup j = some (p.prepared j) := fun j hlo hhi =>
    h.lookup_window (by omega) (by omega) (by omega)
  rw [Coordinator.firstError_eq hlookup, Option.map_eq_none_iff] at herror
  have hok := BoundedOrdered.firstFailure_eq_none.mp herror
  refine ⟨hlt, by omega, hqueue, hle, by omega, fun i hi => ?_⟩
  by_cases hi' : i < s.coordinator.windowStart
  · exact h.succeeded i (by omega)
  · exact hok i (by omega) (by omega)

/-- An ordinal of a window is committed. -/
lemma windowCommit (h : s.Working p)
    (hcap : 0 < p.maxInFlight) (hworks : s.coordinator.pc.hasReturned = false)
    (hpc : s.coordinator.pc = .commit)
    (hnext : s.coordinator.nextToCommit < p.windowEnd s.coordinator.windowStart)
    {prepared : Except E T}
    (hpending : s.coordinator.pending.lookup s.coordinator.nextToCommit = some prepared) :
    ({ s with
      shared := s.shared.afterCommit p s.coordinator prepared
      coordinator := s.coordinator.commitNext p prepared } : ExecutorState W T E S).Ordered p := by
  have hsliding := fun hmode => (h.sliding hmode).place
  have hwindowed := fun hmode => (h.windowed hmode).place
  rw [hpc] at hsliding hwindowed
  refine h.commit hcap hpending (by rw [hpc]; rfl) hworks (fun hmode => ?_)
    (fun hmode => (hsliding hmode).elim) (fun _ => hpc)
  obtain ⟨hlt, hlo, hqueue, hhi, -, hok⟩ := hwindowed hmode
  obtain ⟨k, hk⟩ := (h.windowed hmode).start
  refine ⟨k, ?_⟩
  rw [← hk, ← hqueue]
  exact ⟨by omega, hok⟩

/-- A window is committed, and the next one starts behind it. -/
lemma windowNext (h : s.Working p)
    (hpc : s.coordinator.pc = .commit)
    (hnext : ¬ s.coordinator.nextToCommit < p.windowEnd s.coordinator.windowStart) :
    ({ s with coordinator := { s.coordinator with
      pc := .head, windowStart := s.coordinator.windowStart + p.maxInFlight } } :
      ExecutorState W T E S).Ordered p := by
  have hsliding := fun hmode => (h.sliding hmode).place
  have hwindowed := fun hmode => (h.windowed hmode).place
  rw [hpc] at hsliding hwindowed
  refine Working.ordered (h.move rfl rfl (fun hc => Or.inl hc) (fun hc => hc) rfl rfl rfl rfl
    (by rw [hpc]; rfl) rfl rfl rfl (fun hmode => (hsliding hmode).elim) fun hmode => ?_) rfl
  obtain ⟨hlt, hlo, hqueue, hhi, hok⟩ := hwindowed hmode
  obtain ⟨k, hk⟩ := (h.windowed hmode).start
  refine ⟨⟨k + 1, ?_⟩, ?_, ?_⟩
  · show s.coordinator.windowStart + p.maxInFlight = _
    rw [hk, Nat.succ_mul]
  · show s.coordinator.nextToCommit = min (s.coordinator.windowStart + p.maxInFlight) p.taskCount
    have heq : p.windowEnd s.coordinator.windowStart =
        min (s.coordinator.windowStart + p.maxInFlight) p.taskCount := rfl
    omega
  · show s.coordinator.nextToQueue = s.coordinator.nextToCommit
    omega

/-- The next ordinal is pushed. -/
lemma push (h : s.Working p) {observed : Option ℕ}
    (hpc : s.coordinator.pc = .tryPush observed) (hclosed : s.shared.closed = false) :
    ({ s with
      shared := { s.shared with tasks := s.shared.tasks ++ [s.coordinator.nextToQueue] }
      coordinator := { s.coordinator with
        pc := .notifyOne, nextToQueue := s.coordinator.nextToQueue + 1 } } :
      ExecutorState W T E S).Ordered p := by
  have hsliding := fun hmode => (h.sliding hmode).place
  have hwindowed := fun hmode => (h.windowed hmode).place
  have hend : ∀ ws, p.windowEnd ws ≤ p.taskCount := fun ws => min_le_right _ _
  rw [hpc] at hsliding hwindowed
  have hcount := hend s.coordinator.windowStart
  refine Working.ordered (h.queue (k := 1) hclosed rfl ?_ rfl (by rw [hpc]; rfl) rfl rfl rfl
    (fun hmode => ?_) (fun hmode => ?_)) rfl
  · show s.coordinator.nextToQueue + 1 ≤ p.taskCount
    cases hmode : p.mode with
    | sliding =>
      obtain ⟨-, hlt, -⟩ := hsliding hmode
      omega
    | windowed =>
      obtain ⟨-, -, -, hlt⟩ := hwindowed hmode
      omega
  · obtain ⟨-, -, hlt⟩ := hsliding hmode
    exact ⟨by show s.coordinator.nextToQueue + 1 ≤ s.coordinator.nextToCommit + _; omega,
      (h.sliding hmode).stopped, trivial⟩
  · obtain ⟨hlt, hcommit, hlo, hhi⟩ := hwindowed hmode
    exact ⟨(h.windowed hmode).start, hlt, hcommit, Nat.le_succ_of_le hlo, hhi⟩

/-- The queue is closed behind the last ordinal. -/
lemma close (h : s.Working p)
    (hpc : s.coordinator.pc = .close) :
    ({ s with
      shared := { s.shared with closed := true, available := ∅ }
      coordinator := { s.coordinator with pc := .closed .bump } } :
      ExecutorState W T E S).Ordered p := by
  have hsliding := fun hmode => (h.sliding hmode).place
  have hwindowed := fun hmode => (h.windowed hmode).place
  rw [hpc] at hsliding hwindowed
  have hall : s.coordinator.nextToQueue = p.taskCount := by
    cases hmode : p.mode with
    | sliding => exact hsliding hmode
    | windowed => exact (hwindowed hmode).2.2.2
  refine Working.ordered (h.move rfl rfl (fun _ => Or.inr hall) (fun _ => rfl) rfl rfl rfl rfl
    (by rw [hpc]; rfl) rfl rfl rfl (fun hmode => ?_) fun hmode => ?_) rfl
  · exact ⟨(h.sliding hmode).cap, (h.sliding hmode).stopped, hsliding hmode⟩
  · exact ⟨(h.windowed hmode).start, hwindowed hmode⟩

/-- The coordinator goes on behind the closed queue. -/
lemma closeDone (h : s.Working p)
    (hpc : s.coordinator.pc = .closed .finished) :
    ({ s with coordinator := s.coordinator.afterClose p } :
      ExecutorState W T E S).Ordered p := by
  have hsliding := fun hmode => (h.sliding hmode).place
  have hwindowed := fun hmode => (h.windowed hmode).place
  have hsame := Shared.SameOrder.refl s.shared
  rw [hpc] at hsliding hwindowed
  cases hmode : p.mode with
  | sliding =>
    rw [Coordinator.afterClose, hmode]
    exact h.goTo hsame .head (by rw [hpc]; rfl) rfl (fun _ => trivial)
      fun hw => absurd (hw.symm.trans hmode) (by decide)
  | windowed =>
    rw [Coordinator.afterClose, hmode]
    refine h.goTo hsame .collect (by rw [hpc]; rfl) rfl
      (fun hs => absurd (hs.symm.trans hmode) (by decide)) fun _ => ?_
    obtain ⟨hlt, hcommit, hqueue, -⟩ := hwindowed hmode
    exact ⟨hlt, hcommit, hqueue⟩

/-- An open queue is not closed while the coordinator still pushes. -/
lemma not_closed_of_push (h : s.Working p)
    (hpc : s.coordinator.pc = .pushWindow ∨ ∃ observed, s.coordinator.pc = .tryPush observed) :
    s.shared.closed ≠ true := by
  intro hclosed
  have hall := h.closed hclosed
  have hend : p.windowEnd s.coordinator.windowStart ≤ p.taskCount := min_le_right _ _
  cases hmode : p.mode with
  | sliding =>
    have hplace := (h.sliding hmode).place
    rcases hpc with hpc | ⟨_, hpc⟩ <;> rw [hpc] at hplace
    · exact hplace
    · obtain ⟨-, hlt, -⟩ := hplace
      omega
  | windowed =>
    have hplace := (h.windowed hmode).place
    rcases hpc with hpc | ⟨_, hpc⟩ <;> rw [hpc] at hplace
    · obtain ⟨hlt, -, hqueue⟩ := hplace
      omega
    · obtain ⟨-, -, -, hlt⟩ := hplace
      omega

/-- A step of the working coordinator keeps the invariant. -/
theorem coordinator (h : s.Working p) (hcap : 0 < p.maxInFlight) (hW : 0 < W)
    (hworks : s.coordinator.pc.hasReturned = false) {sh : Shared W T E} {c : Coordinator T E S}
    (hstep : CoordinatorStep p (∀ w, s.workers w = .done) s.shared s.coordinator sh c) :
    ({ s with shared := sh, coordinator := c } : ExecutorState W T E S).Ordered p := by
  have hle := h.le
  have hcount := h.le_count
  have hsliding := fun hmode => (h.sliding hmode).place
  have hwindowed := fun hmode => (h.windowed hmode).place
  have hsame := Shared.SameOrder.refl s.shared
  have henable : ({ s.shared with progressNotifications := true } : Shared W T E).SameOrder
      s.shared := ⟨rfl, rfl, rfl, rfl, rfl⟩
  have hprogress : ∀ progress : EventCount (Option (Fin W)),
      ({ s.shared with progress := progress } : Shared W T E).SameOrder s.shared :=
    fun _ => ⟨rfl, rfl, rfl, rfl, rfl⟩
  have havailable : ∀ available : Finset (Fin W),
      ({ s.shared with available := available } : Shared W T E).SameOrder s.shared :=
    fun _ => ⟨rfl, rfl, rfl, rfl, rfl⟩
  have hend : ∀ ws, p.windowEnd ws ≤ p.taskCount := fun ws => min_le_right _ _
  -- one case for each step of the coordinator: those that only go to another place keep the rest,
  -- and those that the places rule out contradict them
  cases hstep with
  | slidingDone hpc hmode hdone => exact h.completed (by rw [hpc]; rfl) (by omega)
  | slidingCommit hpc hmode hnext hpending =>
    exact h.commit hcap hpending (by rw [hpc]; rfl) hworks
      (fun hw => absurd (hw.symm.trans hmode) (by decide)) (fun _ => hpc)
      (fun hw => absurd (hw.symm.trans hmode) (by decide))
  | slidingAdmit hpc hmode hnext hpending hqueue =>
    obtain ⟨-, hqueue, hroom⟩ := hqueue
    exact h.goTo hsame .snapshot (by rw [hpc]; rfl) rfl (fun _ => ⟨hnext, hqueue, by omega⟩)
      fun hw => absurd (hw.symm.trans hmode) (by decide)
  | slidingAwait hpc hmode hnext hpending hqueue =>
    exact h.goTo hsame .recv (by rw [hpc]; rfl) rfl (fun _ => ⟨hnext, hpending, hqueue⟩)
      fun hw => absurd (hw.symm.trans hmode) (by decide)
  | windowedDone hpc hmode hdone =>
    rw [hpc] at hwindowed
    obtain ⟨hcommit, -⟩ := hwindowed hmode
    exact h.completed (by rw [hpc]; rfl) (by omega)
  | windowStart hpc hmode hnext => exact h.windowStart hpc hmode hnext
  | pushWindowClosed hpc hclosed => exact absurd hclosed (h.not_closed_of_push (.inl hpc))
  | pushWindowFull hpc hclosed hfull =>
    rw [hpc] at hsliding hwindowed
    refine h.goTo henable .fill (by rw [hpc]; rfl) rfl hsliding fun hmode => ?_
    obtain ⟨hlt, hcommit, hqueue⟩ := hwindowed hmode
    have hstart : s.coordinator.windowStart ≤ p.windowEnd s.coordinator.windowStart := by
      rw [BoundedOrdered.windowEnd]
      omega
    exact ⟨hlt, hcommit, by omega, by omega⟩
  | pushWindow hpc hclosed hroom => exact h.pushWindow hpc hclosed
  | notifyAll hpc =>
    rw [hpc] at hsliding hwindowed
    exact h.goTo (havailable ∅) .fill (by rw [hpc]; rfl) rfl hsliding hwindowed
  | fill hpc hnext =>
    rw [hpc] at hsliding hwindowed
    refine h.goTo hsame .snapshot (by rw [hpc]; rfl) rfl (fun hmode => (hsliding hmode).elim)
      fun hmode => ?_
    obtain ⟨hlt, hcommit, hlo, hhi⟩ := hwindowed hmode
    exact ⟨hlt, hcommit, hlo, hnext⟩
  | filled hpc hnext => exact h.filled hpc hnext
  | collect hpc hmissing =>
    rw [hpc] at hsliding hwindowed
    refine h.goTo hsame .recv (by rw [hpc]; rfl) rfl (fun hmode => (hsliding hmode).elim)
      fun hmode => ?_
    obtain ⟨hlt, hcommit, hqueue⟩ := hwindowed hmode
    exact ⟨hlt, hcommit, hqueue, hmissing⟩
  | windowFailed hpc hall herror => exact h.windowFailed hpc hall herror
  | windowReady hpc hall herror => exact h.windowReady hpc hall herror
  | windowCommit hpc hnext hpending => exact h.windowCommit hcap hworks hpc hnext hpending
  -- the window is complete, so its next ordinal is stored
  | windowMissing hpc hnext hpending =>
    rw [hpc] at hsliding hwindowed
    exfalso
    cases hmode : p.mode with
    | sliding => exact hsliding hmode
    | windowed =>
      obtain ⟨hlt, hlo, hqueue, hhi, hall, hok⟩ := hwindowed hmode
      rw [h.lookup_window hall le_rfl (by omega)] at hpending
      cases hpending
  | windowNext hpc hnext => exact h.windowNext hpc hnext
  | snapshot hpc =>
    rw [hpc] at hsliding hwindowed
    exact h.goTo hsame (.tryPush _) (by rw [hpc]; rfl) rfl hsliding hwindowed
  | pushClosed hpc hclosed => exact absurd hclosed (h.not_closed_of_push (.inr ⟨_, hpc⟩))
  | pushFull hpc hclosed hfull =>
    rw [hpc] at hsliding hwindowed
    exact h.goTo hsame (.tryRecv _) (by rw [hpc]; rfl) rfl hsliding hwindowed
  | push hpc hclosed hroom => exact h.push hpc hclosed
  | notifyNobody hpc hnobody => exact h.afterPush hsame hpc
  | notifyOne hpc hw => exact h.afterPush (havailable _) hpc
  | tryRecv hpc hresults =>
    rw [hpc] at hsliding hwindowed
    refine Working.ordered (h.receive hresults (by rw [hpc]; rfl) (fun hmode => ?_) fun hmode => ?_)
      rfl
    · exact ⟨(h.sliding hmode).cap, (h.sliding hmode).stopped, trivial⟩
    · obtain ⟨hlt, hcommit, hlo, hhi⟩ := hwindowed hmode
      exact ⟨(h.windowed hmode).start, hlt, hcommit, hlo, le_of_lt hhi⟩
  -- a worker that has left has seen the queue closed, and it closes only with all queued
  | tryRecvDisconnected hpc hresults hended =>
    rw [hpc] at hsliding hwindowed
    refine absurd hended (h.not_ended hW ?_)
    cases hmode : p.mode with
    | sliding =>
      obtain ⟨-, hlt, -⟩ := hsliding hmode
      exact hlt
    | windowed =>
      obtain ⟨-, -, -, hlt⟩ := hwindowed hmode
      exact lt_of_lt_of_le hlt (hend _)
  | tryRecvWait hpc hresults hended =>
    rw [hpc] at hsliding hwindowed
    exact h.goTo hsame (.wait _) (by rw [hpc]; rfl) rfl hsliding hwindowed
  | tryRecvEnable hpc hresults hended =>
    rw [hpc] at hsliding hwindowed
    exact h.retryPush henable (by rw [hpc]; rfl) hwindowed
  | wait hpc hwait =>
    rw [hpc] at hsliding hwindowed
    exact h.goTo (hprogress _) (.wait _) (by rw [hpc]; rfl) rfl hsliding hwindowed
  | waited hpc =>
    rw [hpc] at hsliding hwindowed
    exact h.retryPush hsame (by rw [hpc]; rfl) hwindowed
  | close hpc => exact h.close hpc
  | closeNotify hpc hnotify =>
    rw [hpc] at hsliding hwindowed
    exact h.goTo (hprogress _) (.closed _) (by rw [hpc]; rfl) rfl hsliding hwindowed
  | closeDone hpc => exact h.closeDone hpc
  | recv hpc hresults =>
    rw [hpc] at hsliding hwindowed
    refine Working.ordered (h.receive hresults (by rw [hpc]; rfl) (fun hmode => ?_) fun hmode => ?_)
      rfl
    · exact ⟨(h.sliding hmode).cap, (h.sliding hmode).stopped, trivial⟩
    · obtain ⟨hlt, hcommit, hqueue, -⟩ := hwindowed hmode
      exact ⟨(h.windowed hmode).start, hlt, hcommit,
        by show s.coordinator.windowStart ≤ s.coordinator.nextToQueue; omega, le_of_eq hqueue⟩
  -- with every worker gone nothing is in flight, but the coordinator waits for a result
  | recvDisconnected hpc hresults hended =>
    exfalso
    refine h.not_recv_of_idle hcap hpc (h.ended ⟨0, hW⟩ (hended ⟨0, hW⟩)).2 hresults fun w => ?_
    rw [hended w]
    rfl
  | receivedNotify hpc hnotify =>
    rw [hpc] at hsliding hwindowed
    exact h.goTo (hprogress _) (.received _ _) (by rw [hpc]; rfl) rfl hsliding hwindowed
  | received hpc hnew =>
    refine Working.ordered (h.insert hpc) ?_
    simp only [Coordinator.insertPending]
    cases p.mode
    · rfl
    · dsimp only
      split <;> rfl
  -- an ordinal in hand is not among the stored ones
  | receivedTwice hpc hold =>
    exfalso
    refine h.not_twice (by rw [hpc]; rfl) (mem_ordinals.mpr ⟨_, mem_of_lookup hold⟩)
  -- the coordinator still works, so it has not returned
  | cancel hpc | shutdownClose hpc | shutdownNotify hpc | shutdownNotified hpc | dropReceiver hpc
  | join hpc =>
    rw [hpc] at hworks
    exact absurd hworks Bool.noConfusion

end ExecutorState.Working

/-! ### Every reachable state -/

namespace ExecutorState

variable {s t : ExecutorState W T E S}

/-- At the start nothing is in flight. -/
lemma working_initial : (initial W p).Working p where
  cancelled := rfl
  receiving := rfl
  gaveUp _ := rfl
  ended w hw := by cases hw
  closed hc := by cases hc
  results m hm := absurd hm List.not_mem_nil
  messages w m hm := by cases hm
  inHand m hm := by cases hm
  pending m hm := absurd hm List.not_mem_nil
  inFlight := by
    have hheld : ∑ w : Fin W, ((initial W p).workers w).held = 0 := Finset.sum_eq_zero fun w _ => rfl
    rw [ExecutorState.inFlight, hheld]
    rfl
  le := le_rfl
  le_count := Nat.zero_le _
  calls := rfl
  committed := rfl
  succeeded i hi := absurd hi (Nat.not_lt_zero i)
  sliding _ := ⟨Nat.zero_le _, fun hstop => (by cases hstop), trivial⟩
  windowed _ := ⟨⟨0, (Nat.zero_mul _).symm⟩, (Nat.zero_min _).symm, rfl⟩

/-- Once the coordinator has returned, nothing changes but what is in flight, and that shrinks. -/
lemma Returned.of_le {outcome : Outcome E} (h : s.Returned p outcome)
    (hqueue : t.coordinator.nextToQueue = s.coordinator.nextToQueue)
    (hcommit : t.coordinator.nextToCommit = s.coordinator.nextToCommit)
    (hstart : t.coordinator.windowStart = s.coordinator.windowStart)
    (hstate : t.coordinator.commitState = s.coordinator.commitState)
    (hcalls : t.coordinator.calls = s.coordinator.calls) (hflight : t.inFlight ≤ s.inFlight) :
    t.Returned p outcome := by
  refine ⟨?_, ?_, ?_, ?_, ?_, ?_⟩
  · rw [hstate, hcalls]
    exact h.verdict
  · rw [hcommit, hqueue]
    exact hflight.trans h.inFlight
  · rw [hcommit, hqueue]
    exact h.settled
  · rw [hqueue]
    exact h.le_count
  · rw [hcommit, hqueue]
    exact h.sliding
  · rw [hcommit, hqueue, hstart]
    exact h.windowed

/-- The end of the execution keeps what the coordinator has returned. -/
lemma coordinatorStep_of_returned {stage : ShutdownStage} {outcome : Outcome E}
    (hpc : s.coordinator.pc = .returned stage outcome) {sh : Shared W T E}
    {c : Coordinator T E S} {ended : Prop}
    (hstep : CoordinatorStep p ended s.shared s.coordinator sh c) :
    ∃ stage', c = { s.coordinator with pc := .returned stage' outcome } ∧
      sh.queued ≤ s.shared.queued := by
  cases hstep with
  | cancel hpc' | shutdownClose hpc' | shutdownNotify hpc' | shutdownNotified hpc' | join hpc' =>
    rw [hpc] at hpc'
    cases hpc'
    exact ⟨_, rfl, le_rfl⟩
  | dropReceiver hpc' =>
    rw [hpc] at hpc'
    cases hpc'
    exact ⟨_, rfl, add_le_add_right (Multiset.zero_le _) _⟩
  | slidingDone hpc' | slidingCommit hpc' | slidingAdmit hpc' | slidingAwait hpc'
  | windowedDone hpc' | windowStart hpc' | pushWindowClosed hpc' | pushWindowFull hpc'
  | pushWindow hpc' | notifyAll hpc' | fill hpc' | filled hpc' | collect hpc' | windowFailed hpc'
  | windowReady hpc' | windowCommit hpc' | windowMissing hpc' | windowNext hpc' | snapshot hpc'
  | pushClosed hpc' | pushFull hpc' | push hpc' | notifyNobody hpc' | notifyOne hpc'
  | tryRecv hpc' | tryRecvDisconnected hpc' | tryRecvWait hpc' | tryRecvEnable hpc' | wait hpc'
  | waited hpc' | close hpc' | closeNotify hpc' | closeDone hpc' | recv hpc'
  | recvDisconnected hpc' | receivedNotify hpc' | received hpc' | receivedTwice hpc' =>
    rw [hpc] at hpc'
    cases hpc'

/-- The invariant is kept by every step. -/
theorem Ordered.step (hcap : 0 < p.maxInFlight) (hW : 0 < W) (h : s.Ordered p) (hstep : Step p s t) :
    t.Ordered p := by
  rcases hstep with hact | hwake
  · cases hact with
    | worker w hworker =>
      refine ⟨fun hworks => (h.working hworks).worker hworker, fun stage outcome hpc => ?_⟩
      exact (h.returned stage outcome hpc).of_le rfl rfl rfl rfl rfl (inFlight_le_of_worker hworker)
    | coordinator hcoordinator =>
      cases hworks : s.coordinator.pc.hasReturned with
      | false => exact (h.working hworks).coordinator hcap hW hworks hcoordinator
      | true =>
        cases hpc : s.coordinator.pc with
        | returned stage outcome =>
          have hreturned := h.returned stage outcome hpc
          obtain ⟨stage', rfl, hqueued⟩ := coordinatorStep_of_returned hpc hcoordinator
          refine ⟨fun hc => (by cases hc), fun stage outcome' hpc' => ?_⟩
          cases hpc'
          refine hreturned.of_le rfl rfl rfl rfl rfl ?_
          have hstored : s.coordinator.stored = ordinals s.coordinator.pending :=
            Coordinator.stored_of_none (by rw [hpc]; rfl)
          have hstored' : ({ s.coordinator with pc := .returned stage' outcome } :
              Coordinator T E S).stored = ordinals s.coordinator.pending :=
            Coordinator.stored_of_none rfl
          rw [inFlight, inFlight, hstored, hstored']
          exact add_le_add_left (add_le_add_left hqueued _) _
        | _ =>
          rw [hpc] at hworks
          cases hworks
  · cases hwake with
    | available | progress =>
      refine ⟨fun hworks => ?_, fun stage outcome hpc => ?_⟩
      · have hold := h.working hworks
        exact hold.move rfl rfl (fun hc => Or.inl hc) (fun hc => hc) rfl rfl rfl rfl rfl rfl rfl rfl
          hold.sliding hold.windowed
      · exact (h.returned stage outcome hpc).of_le rfl rfl rfl rfl rfl le_rfl

/-- Every reachable state satisfies the invariant. -/
theorem Reachable.ordered (hcap : 0 < p.maxInFlight) (hW : 0 < W) (h : s.Reachable p) :
    s.Ordered p :=
  invariant_of_reachable (working_initial.ordered rfl)
    (fun _ _ hold hstep => hold.step hcap hW hstep) h

/-- Whatever the interleaving, the executor returns the verdict of the sequential loop. -/
theorem Reachable.verdict (hcap : 0 < p.maxInFlight) (hW : 0 < W) (h : s.Reachable p)
    {stage : ShutdownStage} {outcome : Outcome E}
    (hpc : s.coordinator.pc = .returned stage outcome) :
    (⟨s.coordinator.commitState, s.coordinator.calls, outcome⟩ : Verdict E S) = p.verdict :=
  ((h.ordered hcap hW).returned stage outcome hpc).verdict

end ExecutorState

end ArcadiaTio.Ocb
