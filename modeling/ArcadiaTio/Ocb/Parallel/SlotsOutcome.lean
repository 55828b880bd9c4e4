import ArcadiaTio.Ocb.Parallel.Slots

/-!
# How executions with slots end

An execution with reused slots behaves like one in which every ordinal has a slot of its own.  Here
is the other direction: every interleaving of the latter is one of the former
(`SlotState.exists_of_isolated`), because a worker that makes a result can always fill its slot.  So
an execution with slots finishes, and it leaves the verdict of the isolated callbacks behind.
-/

namespace ArcadiaTio.Ocb

open ArcadiaTio.Lib

namespace SlotState

variable {W : ℕ} {B R V E S : Type} {p : SlottedOrdered B R V E S} {Fits : ℕ → B → Prop}
  {s : SlotState W B R E S} {t : ExecutorState W R E S}

section Lift

variable (hob : p.Oblivious Fits) (hslots : 0 < p.slotCount) (hW : 0 < W)

include hob hslots hW

/-- A step that the executor could take with separate slots can be taken with reused ones. -/
lemma Isolated.exists_step (h : s.Isolated p Fits) (hstep : s.executor.Step p.isolated t) :
    ∃ s', Step p s s' ∧ s'.executor = t := by
  rcases hstep with hact | hwake
  · cases hact with
    | worker w hworker =>
      by_cases hpc : ∃ i, s.executor.workers w = .running i
      · obtain ⟨i, hpc⟩ := hpc
        have hi : i ∈ s.executor.inFlight := by
          refine Multiset.mem_add.mpr (.inl (Multiset.mem_of_le
            (ExecutorState.held_le_inFlight s.executor w) ?_))
          rw [hpc]
          exact Multiset.mem_singleton_self i
        -- the slot as it is now makes the same result
        have hread := h.read_eq hob hslots hW hi
        have hprepared : (p.callbacks s.slots).prepared i = p.isolated.prepared i := by
          rw [BoundedOrdered.prepared, hread]
          rfl
        rw [hpc] at hworker
        cases hworker with
        | run =>
          refine ⟨_, .fill w hpc .run, ?_⟩
          rw [hprepared, BoundedOrdered.decodedRows, hread]
          rfl
      · exact ⟨_, .worker w (fun i hi => hpc ⟨i, hi⟩)
          (hworker.with_callbacks fun i hi => hpc ⟨i, hi⟩), rfl⟩
    | coordinator hcoordinator =>
      refine ⟨_, .coordinator (hcoordinator.with_callbacks fun report hpending => ?_), rfl⟩
      have hview := (h.view_eq hob hslots hW hpending).2.2.2
      show p.visitor _ _ = p.visitor _ _
      rw [hview]
  · exact ⟨_, .wake hwake, rfl⟩

/-- Every interleaving with separate slots is one with reused slots. -/
theorem exists_of_isolated (ht : t.Reachable p.isolated) :
    ∃ s : SlotState W B R E S, s.Reachable p ∧ s.executor = t := by
  induction ht with
  | refl => exact ⟨initial p W, .refl, rfl⟩
  | tail _ hstep ih =>
    obtain ⟨s, hs, rfl⟩ := ih
    obtain ⟨s', hs', hexecutor⟩ := (hs.isolated hob hslots hW).exists_step hob hslots hW hstep
    exact ⟨s', hs.tail hs', hexecutor⟩

/-- Some interleaving finishes. -/
theorem exists_finished : ∃ (s : SlotState W B R E S) (outcome : Outcome E),
    s.Reachable p ∧ s.executor.coordinator.pc = .returned .finished outcome := by
  obtain ⟨t, outcome, ht, hpc⟩ := ExecutorState.exists_finished (W := W) (p := p.isolated)
    hslots hW
  obtain ⟨s, hs, rfl⟩ := exists_of_isolated hob hslots hW ht
  exact ⟨s, outcome, hs, hpc⟩

/-- An execution with slots leaves the verdict of the isolated callbacks behind. -/
theorem Reachable.verdict (h : s.Reachable p) {stage : ShutdownStage} {outcome : Outcome E}
    (hpc : s.executor.coordinator.pc = .returned stage outcome) :
    (⟨s.executor.coordinator.commitState, s.executor.coordinator.calls, outcome⟩ : Verdict E S) =
      p.isolated.windowedVerdict :=
  (h.isolated hob hslots hW).executor.verdict hslots hW hpc

end Lift

end SlotState

end ArcadiaTio.Ocb
