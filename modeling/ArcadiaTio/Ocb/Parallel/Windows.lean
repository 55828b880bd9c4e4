import ArcadiaTio.Ocb.Parallel.Ordered

/-!
# Windows are committed as a whole

In windowed mode an ordinal is committed only after all results of its window have arrived and none
of them is a failure.
-/

namespace ArcadiaTio.Ocb

open ArcadiaTio.Lib

variable {W : ℕ} {M T E S : Type} {p : BoundedOrdered M T E S}

/-- The result of an ordinal has arrived at the coordinator. -/
def Coordinator.Arrived (c : Coordinator T E S) (i : ℕ) : Prop :=
  i ∈ c.calls ∨ i ∈ ordinals c.pending

/-- The results of the windows of the committed ordinals have all arrived, and none is a failure. -/
def ExecutorState.WholeWindows (p : BoundedOrdered M T E S) (s : ExecutorState W T E S) : Prop :=
  ∀ i ∈ s.coordinator.calls, ∀ j < p.taskCount, j / p.maxInFlight = i / p.maxInFlight →
    (p.prepared j).isOk = true ∧ s.coordinator.Arrived j

/-- What a step of the coordinator does to the results that have arrived: it commits the next one,
or it calls no callback and keeps them. -/
lemma CoordinatorStep.arrived {ended : Prop} {sh sh' : Shared W T E} {c c' : Coordinator T E S}
    (h : CoordinatorStep p ended sh c sh' c') :
    c'.calls = c.calls ∧ (∀ i ∈ ordinals c.pending, i ∈ ordinals c'.pending) ∨
      ∃ r, c.pending.lookup c.nextToCommit = some r ∧ c' = c.commitNext p r ∧
        (p.mode = .windowed → c.pc = .commit ∧ c.nextToCommit < p.windowEnd c.windowStart) := by
  cases h with
  | slidingCommit _ hmode _ hpending =>
    refine Or.inr ⟨_, hpending, rfl, fun hmode' => ?_⟩
    rw [hmode] at hmode'
    cases hmode'
  | windowCommit hpc hnext hpending => exact Or.inr ⟨_, hpending, rfl, fun _ => ⟨hpc, hnext⟩⟩
  | received =>
    refine Or.inl ⟨rfl, fun i hi => ?_⟩
    show i ∈ ordinals (_ :: c.pending)
    rw [ordinals_cons]
    exact Multiset.mem_add.mpr (Or.inr hi)
  | _ => exact Or.inl ⟨rfl, fun _ hi => hi⟩

/-- The commit of a prepared value calls the callback and takes the result out of the pending ones. -/
lemma Coordinator.commitNext_ok (c : Coordinator T E S) (value : T) :
    (c.commitNext p (.ok value)).calls = c.calls ++ [c.nextToCommit] ∧
      (c.commitNext p (.ok value)).pending = c.pending.filter (·.1 ≠ c.nextToCommit) := by
  rcases hcontrol : (p.orderedCommit c.commitState c.nextToCommit value).2 with error | _ | _ <;>
    simp only [commitNext, hcontrol, finishWith, and_self]

namespace ExecutorState

variable {s t : ExecutorState W T E S}

/-- A commit happens when all results of the window have arrived. -/
lemma WholeWindows.commit (h : s.WholeWindows p) (hworking : s.Working p)
    (hcap : 0 < p.maxInFlight) (hmode : p.mode = .windowed) (hpc : s.coordinator.pc = .commit)
    (hnext : s.coordinator.nextToCommit < p.windowEnd s.coordinator.windowStart) {r : Except E T}
    (hlookup : s.coordinator.pending.lookup s.coordinator.nextToCommit = some r)
    {sh : Shared W T E} :
    ({ s with shared := sh, coordinator := s.coordinator.commitNext p r } :
      ExecutorState W T E S).WholeWindows p := by
  have hplace := (hworking.windowed hmode).place
  rw [hpc] at hplace
  obtain ⟨-, hlo, hqueue, -, hall, hok⟩ := hplace
  obtain ⟨k, hk⟩ := (hworking.windowed hmode).start
  obtain ⟨value, rfl⟩ : ∃ value, r = .ok value := by
    have hisOk := hok _ (hqueue ▸ hnext)
    rw [← (hworking.prepared_of_lookup hlookup).1] at hisOk
    cases r with
    | ok value => exact ⟨value, rfl⟩
    | error error => cases hisOk
  obtain ⟨hcalls, hpending⟩ := s.coordinator.commitNext_ok (p := p) value
  -- what has arrived before is still there
  have hkeep : ∀ j, s.coordinator.Arrived j → (s.coordinator.commitNext p (.ok value)).Arrived j := by
    rintro j (hj | hj)
    · left
      rw [hcalls]
      exact List.mem_append_left _ hj
    · by_cases hjn : j = s.coordinator.nextToCommit
      · left
        rw [hcalls, hjn]
        exact List.mem_append_right _ List.mem_cons_self
      · right
        obtain ⟨r, hr⟩ := mem_ordinals.mp hj
        rw [hpending]
        exact mem_ordinals.mpr ⟨r, List.mem_filter.mpr ⟨hr, by simpa using hjn⟩⟩
  intro i hi j hj hsame
  rw [show ({ s with shared := sh, coordinator := s.coordinator.commitNext p (.ok value) } :
    ExecutorState W T E S).coordinator.calls = _ from hcalls] at hi
  rcases List.mem_append.mp hi with hi | hi
  · obtain ⟨hok, harrived⟩ := h i hi j hj hsame
    exact ⟨hok, hkeep j harrived⟩
  · obtain rfl := List.mem_singleton.mp hi
    -- the window of the ordinal that is committed now
    have hend : p.windowEnd s.coordinator.windowStart =
        min (s.coordinator.windowStart + p.maxInFlight) p.taskCount := rfl
    have hwindow : s.coordinator.nextToCommit / p.maxInFlight = k := by
      refine Nat.div_eq_of_lt_le (hk ▸ hlo) ?_
      rw [Nat.succ_mul, ← hk]
      omega
    have hjhi : j < s.coordinator.nextToQueue := by
      have hlt := Nat.lt_mul_div_succ j hcap
      rw [hsame, hwindow, Nat.mul_succ, Nat.mul_comm, ← hk] at hlt
      omega
    refine ⟨hok j hjhi, hkeep j ?_⟩
    rcases Nat.lt_or_ge j s.coordinator.nextToCommit with hlt | hge
    · left
      rw [hworking.calls]
      exact List.mem_range.mpr hlt
    · right
      have hlookup := hworking.lookup_window hall hge hjhi
      exact mem_ordinals.mpr ⟨_, mem_of_lookup hlookup⟩

/-- In every reachable state of the windowed mode, an ordinal has been committed only after all
results of its window have arrived, and only if none of them is a failure. -/
theorem Reachable.wholeWindows (hmode : p.mode = .windowed) (hcap : 0 < p.maxInFlight) (hW : 0 < W)
    (h : s.Reachable p) : s.WholeWindows p := by
  have hboth : s.Ordered p ∧ s.WholeWindows p := by
    refine invariant_of_reachable (P := fun s => s.Ordered p ∧ s.WholeWindows p)
      ⟨working_initial.ordered rfl, fun i hi => absurd hi List.not_mem_nil⟩ ?_ h
    rintro s t ⟨hordered, hwhole⟩ hstep
    refine ⟨hordered.step hcap hW hstep, ?_⟩
    rcases hstep with hact | hwake
    · cases hact with
      | worker w hworker => exact hwhole
      | coordinator hcoordinator =>
        rcases hcoordinator.arrived with ⟨hcalls, hpending⟩ | ⟨r, hlookup, rfl, hcommit⟩
        · intro i hi j hj hsame
          rw [show ExecutorState.coordinator _ = _ from rfl, hcalls] at hi
          obtain ⟨hok, harrived⟩ := hwhole i hi j hj hsame
          refine ⟨hok, harrived.imp (fun hj => ?_) fun hj => hpending j hj⟩
          show j ∈ Coordinator.calls _
          rw [hcalls]
          exact hj
        · obtain ⟨hpc, hnext⟩ := hcommit hmode
          exact hwhole.commit (hordered.working (by rw [hpc]; rfl)) hcap hmode hpc hnext hlookup
    · cases hwake with
      | available | progress => exact hwhole
  exact hboth.2

end ExecutorState

end ArcadiaTio.Ocb
