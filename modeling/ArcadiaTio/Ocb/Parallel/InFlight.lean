import ArcadiaTio.Ocb.Parallel.Serial
import Mathlib.Algebra.Order.BigOperators.Group.Finset
import Mathlib.Data.Multiset.Filter
import Mathlib.Order.Interval.Finset.Nat

/-!
# The ordinals in flight

An admitted ordinal is in the task queue, with a worker, in the result channel, in the hands of the
coordinator or among its pending results.  A worker moves its ordinal on and loses it only when the
execution is over.
-/

namespace ArcadiaTio.Ocb

open ArcadiaTio.Lib

/-! ### Where an ordinal is -/

section Places

variable {W : ℕ} {M T E S : Type}

/-- The ordinals a worker holds. -/
def WorkerPc.held : WorkerPc T E → Multiset ℕ
  | .popped _ i | .running i => {i}
  | .publish m | .snapshot m | .trySend m _ | .wait _ m => {m.1}
  | _ => 0

/-- The result a worker holds. -/
def WorkerPc.message? : WorkerPc T E → Option (Message T E)
  | .publish m | .snapshot m | .trySend m _ | .wait _ m => some m
  | _ => none

/-- The worker has found out that the execution is cancelled. -/
def WorkerPc.gaveUp : WorkerPc T E → Bool
  | .wait (.unregister false) _ | .wait (.finished false) _ => true
  | _ => false

/-- The result that the coordinator has received and not stored yet. -/
def CoordinatorPc.inHand : CoordinatorPc T E → Option (Message T E)
  | .received _ m => some m
  | _ => none

/-- The ordinals of some results. -/
def ordinals (messages : List (Message T E)) : Multiset ℕ := (messages.map Prod.fst : List ℕ)

@[simp] lemma ordinals_nil : ordinals ([] : List (Message T E)) = 0 := rfl

@[simp] lemma ordinals_cons (m : Message T E) (messages : List (Message T E)) :
    ordinals (m :: messages) = {m.1} + ordinals messages := by
  rw [ordinals, List.map_cons, ← Multiset.cons_coe, ← Multiset.singleton_add]
  rfl

@[simp] lemma ordinals_append (l₁ l₂ : List (Message T E)) :
    ordinals (l₁ ++ l₂) = ordinals l₁ + ordinals l₂ := by
  rw [ordinals, List.map_append, ← Multiset.coe_add]
  rfl

/-- The shared places of the ordinals: the task queue and the result channel. -/
def Shared.queued (sh : Shared W T E) : Multiset ℕ := (sh.tasks : Multiset ℕ) + ordinals sh.results

/-- The places of the coordinator. -/
def Coordinator.stored (c : Coordinator T E S) : Multiset ℕ :=
  ordinals c.pc.inHand.toList + ordinals c.pending

lemma Coordinator.stored_of_none {c : Coordinator T E S} (h : c.pc.inHand = none) :
    c.stored = ordinals c.pending := by
  rw [stored, h]
  exact zero_add _

lemma Coordinator.stored_of_some {c : Coordinator T E S} {m : Message T E}
    (h : c.pc.inHand = some m) : c.stored = {m.1} + ordinals c.pending := by
  rw [stored, h]
  rfl

/-- All ordinals in flight. -/
def ExecutorState.inFlight (s : ExecutorState W T E S) : Multiset ℕ :=
  s.shared.queued + ∑ w, (s.workers w).held + s.coordinator.stored

/-- A result is what the callbacks make of its ordinal. -/
def BoundedOrdered.Genuine (p : BoundedOrdered M T E S) (m : Message T E) : Prop :=
  m.2 = p.prepared m.1

end Places

/-! ### Pending results -/

section Pending

variable {T E : Type} {pending : List (Message T E)} {k : ℕ}

lemma mem_ordinals {messages : List (Message T E)} {i : ℕ} :
    i ∈ ordinals messages ↔ ∃ r, (i, r) ∈ messages := by
  simp [ordinals]

lemma card_ordinals (messages : List (Message T E)) :
    Multiset.card (ordinals messages) = messages.length := by
  simp [ordinals]

lemma mem_of_lookup {r : Except E T} (h : pending.lookup k = some r) : (k, r) ∈ pending := by
  obtain ⟨l₁, l₂, rfl, -⟩ := List.lookup_eq_some_iff.mp h
  exact List.mem_append_right _ List.mem_cons_self

lemma lookup_eq_none : pending.lookup k = none ↔ k ∉ ordinals pending := by
  rw [List.lookup_eq_none_iff, mem_ordinals]
  constructor
  · rintro h ⟨r, hr⟩
    simpa using h _ hr
  · rintro h ⟨i, r⟩ hr
    rcases eq_or_ne k i with rfl | hne
    · exact absurd ⟨r, hr⟩ h
    · simpa using hne

/-- With distinct ordinals, the result of an ordinal is the one that is found. -/
lemma lookup_of_mem (hnodup : (ordinals pending).Nodup) {r : Except E T} (h : (k, r) ∈ pending) :
    pending.lookup k = some r := by
  cases hlookup : pending.lookup k with
  | none => exact absurd (mem_ordinals.mpr ⟨r, h⟩) (lookup_eq_none.mp hlookup)
  | some r' =>
    have heq := List.inj_on_of_nodup_map (Multiset.coe_nodup.mp hnodup) h (mem_of_lookup hlookup) rfl
    cases heq
    rfl

/-- Removing an ordinal removes it once. -/
lemma ordinals_filter (hnodup : (ordinals pending).Nodup) (h : k ∈ ordinals pending) :
    {k} + ordinals (pending.filter (·.1 ≠ k)) = ordinals pending := by
  have hmap : ordinals (pending.filter (·.1 ≠ k)) = (ordinals pending).filter (· ≠ k) := by
    rw [ordinals, ordinals, Multiset.filter_coe]
    congr 1
    rw [List.filter_map]
    rfl
  rw [hmap, ← hnodup.erase_eq_filter, Multiset.singleton_add, Multiset.cons_erase h]

end Pending

/-! ### What a step of a worker moves -/

namespace WorkerStep

variable {W : ℕ} {M T E S : Type} {p : BoundedOrdered M T E S} {w : Fin W} {sh sh' : Shared W T E}
  {pc pc' : WorkerPc T E}

/-- A worker leaves the flags of the coordinator alone. -/
lemma flags (h : WorkerStep p w sh pc sh' pc') :
    sh'.cancelled = sh.cancelled ∧ sh'.receiving = sh.receiving ∧ sh'.closed = sh.closed := by
  cases h <;> exact ⟨rfl, rfl, rfl⟩

/-- While the execution goes on, a step of a worker moves its ordinal without losing it. -/
lemma flow (h : WorkerStep p w sh pc sh' pc') (hcancelled : sh.cancelled = false)
    (hreceiving : sh.receiving = true) (hgaveUp : pc.gaveUp = false) :
    sh'.queued + pc'.held = sh.queued + pc.held := by
  cases h with
  | pop _ htasks =>
    rw [Shared.queued, Shared.queued, htasks, ← Multiset.cons_coe, ← Multiset.singleton_add]
    simp only [WorkerPc.held, add_zero]
    ac_rfl
  | send =>
    simp only [Shared.queued, WorkerPc.held, ordinals_append, ordinals_cons, ordinals_nil, add_zero]
    ac_rfl
  | popCancelled hc | taskCancelled hc | publishCancelled hc =>
    rw [hcancelled] at hc
    cases hc
  | sendDisconnected hr =>
    rw [hreceiving] at hr
    cases hr
  | sendGiveUp => cases hgaveUp
  | _ => rfl

/-- In any case nothing is added to what is in flight. -/
lemma flow_le (h : WorkerStep p w sh pc sh' pc') :
    sh'.queued + pc'.held ≤ sh.queued + pc.held := by
  cases h with
  | pop _ htasks =>
    rw [Shared.queued, Shared.queued, htasks, ← Multiset.cons_coe, ← Multiset.singleton_add]
    simp only [WorkerPc.held, add_zero]
    exact le_of_eq (by ac_rfl)
  | send =>
    simp only [Shared.queued, WorkerPc.held, ordinals_append, ordinals_cons, ordinals_nil, add_zero]
    exact le_of_eq (by ac_rfl)
  | taskCancelled | publishCancelled | sendDisconnected | sendGiveUp =>
    exact add_le_add_right (Multiset.zero_le _) _
  | _ => exact le_rfl

/-- The results that a worker makes and sends are genuine. -/
lemma genuine (h : WorkerStep p w sh pc sh' pc') (hresults : ∀ m ∈ sh.results, p.Genuine m)
    (hpc : ∀ m ∈ pc.message?, p.Genuine m) :
    (∀ m ∈ sh'.results, p.Genuine m) ∧ ∀ m ∈ pc'.message?, p.Genuine m := by
  cases h with
  | run =>
    refine ⟨hresults, fun m hm => ?_⟩
    cases hm
    rfl
  | send =>
    refine ⟨fun m hm => ?_, fun m hm => by cases hm⟩
    rcases List.mem_append.mp hm with hm | hm
    · exact hresults m hm
    · exact hpc m (List.mem_singleton.mp hm ▸ rfl)
  | publishCancelled | sendDisconnected | sendGiveUp | sendFull | sendEnable | publish | snapshot |
    sendWait | sendRetry =>
    exact ⟨hresults, fun m hm => by first | exact hpc m hm | cases hm⟩
  | _ => exact ⟨hresults, fun m hm => by cases hm⟩

/-- A worker gives up only when the execution is cancelled. -/
lemma gaveUp (h : WorkerStep p w sh pc sh' pc') (hpc : pc.gaveUp = true → sh.cancelled = true)
    (hpc' : pc'.gaveUp = true) : sh'.cancelled = true := by
  cases h with
  | sendWait hwait =>
    cases hwait with
    | leave =>
      cases hcancelled : sh.cancelled with
      | true => rfl
      | false =>
        rw [hcancelled] at hpc'
        cases hpc'
    | @unregister live =>
      cases live with
      | false => exact hpc rfl
      | true => cases hpc'
    | _ => cases hpc'
  | _ => cases hpc'

/-- A worker that ends has found the queue closed and empty, or the execution over. -/
lemma ended (h : WorkerStep p w sh pc sh' .done) (hcancelled : sh.cancelled = false)
    (hreceiving : sh.receiving = true) (hgaveUp : pc.gaveUp = false) :
    sh'.closed = true ∧ sh'.tasks = [] := by
  cases h with
  | popClosed _ htasks hclosed => exact ⟨hclosed, htasks⟩
  | popCancelled hc | taskCancelled hc | publishCancelled hc =>
    rw [hcancelled] at hc
    cases hc
  | sendDisconnected hr =>
    rw [hreceiving] at hr
    cases hr
  | sendGiveUp => cases hgaveUp

/-- Workers take tasks and never add any. -/
lemma tasks_sublist (h : WorkerStep p w sh pc sh' pc') : sh'.tasks.Sublist sh.tasks := by
  cases h with
  | pop _ htasks =>
    rw [htasks]
    exact List.sublist_cons_self _ _
  | _ => exact List.Sublist.refl _

end WorkerStep

end ArcadiaTio.Ocb
