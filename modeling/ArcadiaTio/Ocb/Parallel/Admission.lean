import ArcadiaTio.Ocb.Bundle.Resources
import ArcadiaTio.Ocb.Parallel.Outcome
import ArcadiaTio.Ocb.Parallel.Counters
import Mathlib.Algebra.BigOperators.Intervals

/-!
# Admission

The ordinals in flight are a range that fits the cap or the window.  The resource check before the
execution goes over the same ranges, so what it has accepted bounds the bytes in flight.
-/

namespace ArcadiaTio.Ocb

open ArcadiaTio.Lib

variable {W : ℕ} {M T E S : Type} {p : BoundedOrdered M T E S}

/-! ### Sums over a range -/

section Ranges

variable {l : List ℕ} {k k' m : ℕ}

/-- The sum of the entries with an index in a range, as the sum of a piece of the list. -/
lemma sum_Ico_getD (l : List ℕ) (k size : ℕ) :
    ∑ i ∈ Finset.Ico k (k + size), l.getD i 0 = ((l.drop k).take size).sum := by
  induction size with
  | zero => simp
  | succ size ih =>
    rw [← Nat.add_assoc, Finset.sum_Ico_succ_top (Nat.le_add_right k size), ih,
      List.take_add_one, List.sum_append, List.getElem?_drop, List.getD_eq_getElem?_getD]
    cases l[k + size]? <;> rfl

/-- A range inside a piece of the list sums to no more than the piece. -/
lemma sum_Ico_le {size : ℕ} (hk : k' ≤ k) (hm : m ≤ k' + size) :
    ∑ i ∈ Finset.Ico k m, l.getD i 0 ≤ ((l.drop k').take size).sum := by
  rw [← sum_Ico_getD]
  exact Finset.sum_le_sum_of_subset (Finset.Ico_subset_Ico hk hm)

end Ranges

namespace ExecutorState

variable {s : ExecutorState W T E S}

/-! ### The ordinals in flight -/

/-- The ordinals in flight are among those between the next one to commit and the next one to
queue, and while the coordinator works they are exactly these; the range fits the cap in sliding
mode and one window in windowed mode. -/
structure Admitted (p : BoundedOrdered M T E S) (s : ExecutorState W T E S) : Prop where
  inFlight : s.inFlight ≤ (Finset.Ico s.coordinator.nextToCommit s.coordinator.nextToQueue).val
  working : s.coordinator.pc.hasReturned = false →
    s.inFlight = (Finset.Ico s.coordinator.nextToCommit s.coordinator.nextToQueue).val
  le_count : s.coordinator.nextToQueue ≤ p.taskCount
  sliding : p.mode = .sliding →
    s.coordinator.nextToQueue ≤ s.coordinator.nextToCommit + p.maxInFlight
  windowed : p.mode = .windowed →
    ∃ k, ∀ i ∈ Finset.Ico s.coordinator.nextToCommit s.coordinator.nextToQueue,
      k * p.maxInFlight ≤ i ∧ i < (k + 1) * p.maxInFlight

lemma Ordered.admitted (h : s.Ordered p) : s.Admitted p := by
  -- a window that starts at a multiple of its size
  have hwindow : ∀ k, s.coordinator.windowStart = k * p.maxInFlight →
      (s.coordinator.nextToCommit < s.coordinator.nextToQueue →
        s.coordinator.windowStart ≤ s.coordinator.nextToCommit ∧
        s.coordinator.nextToQueue ≤ p.windowEnd s.coordinator.windowStart) →
      ∀ i ∈ Finset.Ico s.coordinator.nextToCommit s.coordinator.nextToQueue,
        k * p.maxInFlight ≤ i ∧ i < (k + 1) * p.maxInFlight := by
    intro k hk hwithin i hi
    obtain ⟨hlo, hhi⟩ := Finset.mem_Ico.mp hi
    obtain ⟨hstart, hend⟩ := hwithin (by omega)
    have hle : p.windowEnd s.coordinator.windowStart ≤
        s.coordinator.windowStart + p.maxInFlight := min_le_left _ _
    rw [Nat.succ_mul, ← hk]
    omega
  cases hpc : s.coordinator.pc with
  | returned stage outcome =>
    have hreturned := h.returned stage outcome hpc
    refine ⟨hreturned.inFlight, fun hworks => ?_, hreturned.le_count, hreturned.sliding,
      fun hmode => ?_⟩
    · rw [hpc] at hworks
      cases hworks
    · obtain ⟨⟨k, hk⟩, hwithin⟩ := hreturned.windowed hmode
      exact ⟨k, hwindow k hk hwithin⟩
  | _ =>
    have hworking := h.working (by rw [hpc]; rfl)
    refine ⟨le_of_eq hworking.inFlight, fun _ => hworking.inFlight, hworking.le_count,
      fun hmode => (hworking.sliding hmode).cap, fun hmode => ?_⟩
    obtain ⟨k, hk⟩ := (hworking.windowed hmode).start
    exact ⟨k, hwindow k hk (hworking.windowed hmode).within⟩

/-! ### Counters -/

/-- The counters are ordered as their names say, and none of them is decremented below zero: the
active workers by a worker that has run, the waiters by a party that unregisters, and the pending
results and rows by a commit. -/
structure Counted (p : BoundedOrdered M T E S) (s : ExecutorState W T E S) : Prop where
  pending : s.coordinator.pending.length ≤ Multiset.card s.inFlight
  pendingResults : s.shared.pendingResults ≤
    s.coordinator.nextToQueue - s.coordinator.nextToCommit
  committed_le : s.coordinator.nextToCommit ≤ s.shared.rowGroupsCompleted
  completed_le : s.shared.rowGroupsCompleted ≤ s.coordinator.nextToQueue
  queued_le : s.coordinator.nextToQueue ≤ p.taskCount
  active : ∀ w i, s.workers w = .running i → 0 < s.shared.activeWorkers
  waiters : ∀ x, (s.stage x).registered = true → 0 < s.shared.progress.waiters
  commit : s.coordinator.pc.hasReturned = false → ∀ value,
    s.coordinator.pending.lookup s.coordinator.nextToCommit = some (.ok value) →
      0 < s.shared.pendingResults ∧
        p.rowCount s.coordinator.nextToCommit ≤ s.shared.pendingRows

lemma Account.counted (h : s.Account p) (hordered : s.Ordered p) (hsignals : s.Signals) :
    s.Counted p := by
  have hcompleted := h.completed
  have hqueued := h.queued
  refine ⟨?_, by omega, by omega, by omega, hordered.admitted.le_count,
    fun w i hpc => h.active_pos hpc, fun x hx => ?_, fun hworks value hlookup => ?_⟩
  · rw [← card_ordinals]
    exact Multiset.card_le_card (Working.pending_le s)
  · have hsum := Finset.single_le_sum (f := fun y => (s.stage y).registered.toNat)
      (fun _ _ => Nat.zero_le _) (Finset.mem_univ x)
    rw [← hsignals.sound.waiters] at hsum
    rw [hx] at hsum
    exact hsum
  · have hworking := hordered.working hworks
    have hprepared := (hworking.prepared_of_lookup hlookup).1
    -- the result that is found is one of the completed ordinals
    have hmem : {s.coordinator.nextToCommit} ≤ s.finished :=
      calc ({s.coordinator.nextToCommit} : Multiset ℕ) ≤ ordinals s.coordinator.pending :=
            Multiset.singleton_le.mpr (mem_ordinals.mpr ⟨_, mem_of_lookup hlookup⟩)
        _ ≤ s.finished := (Multiset.le_add_left _ _).trans (Multiset.le_add_left _ _)
    have hcard := Multiset.card_le_card hmem
    have hrows := rows_mono hmem p.decodedRows
    rw [Multiset.map_singleton, Multiset.sum_singleton,
      decodedRows_of_prepared hprepared.symm] at hrows
    rw [Multiset.card_singleton] at hcard
    exact ⟨lt_of_lt_of_le hcard h.results, hrows.trans h.rows⟩

/-! ### Bytes -/

/-- What the row groups in flight take, by their footprints, is within the limits. -/
structure BytesWithin (footprints : List SelectedResourceFootprint) (limits : OcbResourceLimits)
    (s : ExecutorState W T E S) : Prop where
  compressed : (s.inFlight.map fun i =>
    (footprints.map SelectedResourceFootprint.compressedBytes).getD i 0).sum ≤
      limits.maxOwnedSelectedCompressedBytes.toNat
  decoded : (s.inFlight.map fun i =>
    (footprints.map SelectedResourceFootprint.decodedMaterializedBytes).getD i 0).sum ≤
      limits.maxOwnedDecodedMaterializedBytes.toNat

/-- The row groups in flight are within the limits when they are part of a piece of the footprints
that is. -/
lemma bytesWithin_of_range {footprints : List SelectedResourceFootprint}
    {limits : OcbResourceLimits} {k m k' size : ℕ}
    (hinFlight : s.inFlight ≤ (Finset.Ico k m).val) (hk : k' ≤ k) (hm : m ≤ k' + size)
    (h : WithinLimits limits ((footprints.drop k').take size)) :
    s.BytesWithin footprints limits := by
  have hsum : ∀ f : SelectedResourceFootprint → ℕ,
      (s.inFlight.map fun i => (footprints.map f).getD i 0).sum ≤
        (((footprints.drop k').take size).map f).sum := by
    intro f
    rw [List.map_take, List.map_drop]
    exact (rows_mono hinFlight _).trans (sum_Ico_le hk hm)
  exact ⟨(hsum _).trans h.compressed, (hsum _).trans h.decoded⟩

/-- Accepted sliding windows bound the bytes in flight in sliding mode. -/
lemma Admitted.bytesWithin_sliding (h : s.Admitted p) (hmode : p.mode = .sliding)
    (hcap : 0 < p.maxInFlight) {footprints : List SelectedResourceFootprint}
    {limits : OcbResourceLimits} {u : Unit} (hlength : footprints.length = p.taskCount)
    (hvalid : validateSlidingResourceFootprints footprints p.maxInFlight limits = .ok u) :
    s.BytesWithin footprints limits := by
  have hle := h.le_count
  have hsliding := h.sliding hmode
  -- the window that begins at the next ordinal to commit, or the last one
  obtain ⟨k, hk⟩ : ∃ k, k = min s.coordinator.nextToCommit
    (footprints.length - min (max p.maxInFlight 1) footprints.length) := ⟨_, rfl⟩
  have hwithin := withinLimits_of_validateSliding hvalid (k := k) (by omega)
  rcases Nat.lt_or_ge s.coordinator.nextToCommit s.coordinator.nextToQueue with hlt | hge
  · exact bytesWithin_of_range h.inFlight (by omega) (by omega) hwithin
  · refine bytesWithin_of_range (k := k) (m := k) ?_ le_rfl (by omega) hwithin
    have hempty := h.inFlight
    rw [Finset.Ico_eq_empty_of_le hge] at hempty
    exact hempty.trans (Multiset.zero_le _)

/-- Accepted waves bound the bytes in flight in windowed mode. -/
lemma Admitted.bytesWithin_windowed (h : s.Admitted p) (hmode : p.mode = .windowed)
    (hcap : 0 < p.maxInFlight) {footprints : List SelectedResourceFootprint}
    {limits : OcbResourceLimits} {u : Unit}
    (hvalid : validateWaves footprints (max p.maxInFlight 1) limits = .ok u) :
    s.BytesWithin footprints limits := by
  rw [Nat.max_eq_left hcap] at hvalid
  obtain ⟨k, hk⟩ := h.windowed hmode
  have hwithin := withinLimits_of_validateWaves hcap hvalid k
  rcases Nat.lt_or_ge s.coordinator.nextToCommit s.coordinator.nextToQueue with hlt | hge
  · have hfirst := hk _ (Finset.left_mem_Ico.mpr hlt)
    have hlast := hk (s.coordinator.nextToQueue - 1) (Finset.mem_Ico.mpr ⟨by omega, by omega⟩)
    rw [Nat.succ_mul] at hlast
    exact bytesWithin_of_range h.inFlight hfirst.1 (by omega) hwithin
  · refine bytesWithin_of_range (k := k * p.maxInFlight) (m := k * p.maxInFlight) ?_ le_rfl
      (by omega) hwithin
    have hempty := h.inFlight
    rw [Finset.Ico_eq_empty_of_le hge] at hempty
    exact hempty.trans (Multiset.zero_le _)

/-- In every reachable state the ordinals in flight are a range within the cap or within one
window, the counters are in order, and when the footprints of the row groups have been accepted
before the execution, the bytes in flight are within the limits. -/
theorem inFlight_bounded (hcap : 0 < p.maxInFlight) (hW : 0 < W) (h : s.Reachable p) :
    s.Admitted p ∧ s.Counted p ∧
    ∀ (footprints : List SelectedResourceFootprint) (limits : OcbResourceLimits),
      footprints.length = p.taskCount →
      (p.mode = .sliding →
        validateSlidingResourceFootprints footprints p.maxInFlight limits = .ok () →
          s.BytesWithin footprints limits) ∧
      (p.mode = .windowed →
        validateWaves footprints (max p.maxInFlight 1) limits = .ok () →
          s.BytesWithin footprints limits) := by
  have hordered := h.ordered hcap hW
  have hadmitted := hordered.admitted
  refine ⟨hadmitted, (h.account hcap hW).counted hordered (h.live hcap hW).signals,
    fun footprints limits hlength => ⟨fun hmode hvalid => ?_, fun hmode hvalid => ?_⟩⟩
  · exact hadmitted.bytesWithin_sliding hmode hcap hlength hvalid
  · exact hadmitted.bytesWithin_windowed hmode hcap hvalid

/-- With three row groups of one byte and a limit of two bytes: a state in which the first two are
in flight, one of them in the hands of a worker, and their bytes are within the limit. -/
theorem inFlight_bounded_sample : ∃ s : ExecutorState 2 ℕ String (List ℕ),
    s.Reachable (Sample.tasks .sliding) ∧ s.inFlight = {0, 1} ∧
      s.Admitted (Sample.tasks .sliding) ∧ s.Counted (Sample.tasks .sliding) ∧
      s.BytesWithin (List.replicate 3 ⟨1, 1, 1⟩)
        { OcbResourceLimits.policyA with
          maxOwnedSelectedCompressedBytes := 2, maxOwnedDecodedMaterializedBytes := 2 } := by
  obtain ⟨s, hs, -, -, hpc, hcommit, hqueue, -, -⟩ := Sample.exists_asleep
  obtain ⟨hadmitted, hcounted, hbytes⟩ := inFlight_bounded (p := Sample.tasks .sliding)
    (by decide) (by decide) hs
  refine ⟨s, hs, ?_, hadmitted, hcounted, (hbytes _ _ rfl).1 rfl rfl⟩
  rw [hadmitted.working (by rw [hpc]; rfl), hcommit, hqueue]
  rfl

end ExecutorState

end ArcadiaTio.Ocb
