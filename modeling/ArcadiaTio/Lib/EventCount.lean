import ArcadiaTio.Lib.Interleaving
import Mathlib.Algebra.Order.BigOperators.Group.Finset
import Mathlib.Tactic.Ring

/-!
# Event counts

A generation counter on which parties wait for a change.  A waiting party registers, compares the
generation with the one it observed before, and sleeps only under the lock while both agree; a
notifying party first advances the generation, and then wakes the sleepers when a waiter is
registered.  No wake-up is lost: as long as somebody sleeps on an old generation, somebody is about
to wake all sleepers.
-/

namespace ArcadiaTio.Lib

/-! ### The counter and its parties -/

/-- The shared part: the generation, the number of registered waiters, and the parties asleep on
the condition variable. -/
structure EventCount (P : Type) where
  generation : ℕ
  waiters : ℕ
  sleeping : Finset P

/-- Where a notifying party stands. -/
inductive NotifyStage
  | bump | load | wake | finished
deriving DecidableEq

/-- Where a waiting party stands.  At the end, `live` says that it was not cancelled. -/
inductive WaitStage
  | register (observed : ℕ)
  | check (observed : ℕ)
  | block (observed : ℕ)
  | asleep (observed : ℕ)
  | leave
  | unregister (live : Bool)
  | finished (live : Bool)
deriving DecidableEq

/-- The generation that a wait compares with. -/
def WaitStage.observed : WaitStage → Option ℕ
  | .register g | .check g | .block g | .asleep g => some g
  | _ => none

/-- What a party does with the counter. -/
inductive Stage
  | idle
  | notify (stage : NotifyStage)
  | wait (stage : WaitStage)
deriving DecidableEq

/-- The party is counted as a waiter. -/
def Stage.registered : Stage → Bool
  | .wait (.check _) | .wait (.block _) | .wait (.asleep _) | .wait .leave
  | .wait (.unregister _) => true
  | _ => false

/-- The party has advanced the generation and has not woken the sleepers yet. -/
def Stage.waking : Stage → Bool
  | .notify .load | .notify .wake => true
  | _ => false

variable {P : Type}

/-- One step of a notification, which does nothing when notifications are off. -/
inductive NotifyStep (enabled : Bool) (e : EventCount P) :
    NotifyStage → EventCount P → NotifyStage → Prop
  | skip (h : enabled = false) : NotifyStep enabled e .bump e .finished
  | bump (h : enabled = true) :
      NotifyStep enabled e .bump { e with generation := e.generation + 1 } .load
  | alone (h : e.waiters = 0) : NotifyStep enabled e .load e .finished
  | load (h : e.waiters ≠ 0) : NotifyStep enabled e .load e .wake
  | wake : NotifyStep enabled e .wake { e with sleeping := ∅ } .finished

/-- A notification always goes on until it is finished. -/
lemma NotifyStep.exists (enabled : Bool) (e : EventCount P) {st : NotifyStage}
    (h : st ≠ .finished) : ∃ e' st', NotifyStep enabled e st e' st' := by
  cases st with
  | bump =>
    cases henabled : enabled with
    | false => exact ⟨_, _, .skip rfl⟩
    | true => exact ⟨_, _, .bump rfl⟩
  | load =>
    by_cases hwaiters : e.waiters = 0
    · exact ⟨_, _, .alone hwaiters⟩
    · exact ⟨_, _, .load hwaiters⟩
  | wake => exact ⟨_, _, .wake⟩
  | finished => exact absurd rfl h

lemma NotifyStep.le_generation {enabled : Bool} {e e' : EventCount P} {st st' : NotifyStage}
    (h : NotifyStep enabled e st e' st') : e.generation ≤ e'.generation := by
  cases h <;> simp

/-- A due notification is given: it changes the generation. -/
lemma NotifyStep.ne_generation {e e' : EventCount P} {st' : NotifyStage} {g : ℕ}
    (h : NotifyStep true e .bump e' st') (hg : g ≤ e.generation) : e'.generation ≠ g := by
  cases h with
  | skip hoff => cases hoff
  | bump => exact fun heq => absurd (heq ▸ hg) (Nat.not_succ_le_self _)

variable [DecidableEq P]

/-- One step of the wait of a party.  The comparison under the lock and the falling asleep are one
step, since the sleepers are only woken under the lock. -/
inductive WaitStep (x : P) (cancelled : Bool) (e : EventCount P) :
    WaitStage → EventCount P → WaitStage → Prop
  | register {g : ℕ} : WaitStep x cancelled e (.register g) { e with waiters := e.waiters + 1 }
      (.check g)
  | stay {g : ℕ} (h : e.generation = g ∧ cancelled = false) :
      WaitStep x cancelled e (.check g) e (.block g)
  | changed {g : ℕ} (h : ¬ (e.generation = g ∧ cancelled = false)) :
      WaitStep x cancelled e (.check g) e .leave
  | sleep {g : ℕ} (h : e.generation = g ∧ cancelled = false) :
      WaitStep x cancelled e (.block g) { e with sleeping := insert x e.sleeping } (.asleep g)
  | awake {g : ℕ} (h : ¬ (e.generation = g ∧ cancelled = false)) :
      WaitStep x cancelled e (.block g) e .leave
  | resume {g : ℕ} (h : x ∉ e.sleeping) : WaitStep x cancelled e (.asleep g) e (.block g)
  | leave : WaitStep x cancelled e .leave e (.unregister (!cancelled))
  | unregister {live : Bool} : WaitStep x cancelled e (.unregister live)
      { e with waiters := e.waiters - 1 } (.finished live)

/-- A wait goes on unless it is finished or asleep. -/
lemma WaitStep.exists (x : P) (cancelled : Bool) (e : EventCount P) {st : WaitStage}
    (hfinished : ∀ live, st ≠ .finished live)
    (hasleep : x ∈ e.sleeping → ∀ g, st ≠ .asleep g) :
    ∃ e' st', WaitStep x cancelled e st e' st' := by
  cases st with
  | register g => exact ⟨_, _, .register⟩
  | check g =>
    by_cases hsame : e.generation = g ∧ cancelled = false
    · exact ⟨_, _, .stay hsame⟩
    · exact ⟨_, _, .changed hsame⟩
  | block g =>
    by_cases hsame : e.generation = g ∧ cancelled = false
    · exact ⟨_, _, .sleep hsame⟩
    · exact ⟨_, _, .awake hsame⟩
  | asleep g => exact ⟨_, _, .resume fun hmem => hasleep hmem g rfl⟩
  | leave => exact ⟨_, _, .leave⟩
  | unregister live => exact ⟨_, _, .unregister⟩
  | finished live => exact absurd rfl (hfinished live)

lemma WaitStep.generation {x : P} {cancelled : Bool} {e e' : EventCount P} {st st' : WaitStage}
    (h : WaitStep x cancelled e st e' st') : e'.generation = e.generation := by
  cases h <;> rfl

/-- Waiting compares with what was observed before. -/
lemma WaitStep.observed {x : P} {cancelled : Bool} {e e' : EventCount P} {st st' : WaitStage}
    (h : WaitStep x cancelled e st e' st') {g : ℕ} (hg : st'.observed = some g) :
    st.observed = some g := by
  cases h <;> first | exact hg | cases hg

/-- The party is outside the counter: neither a waiter nor about to wake anybody. -/
def Stage.Quiet (st : Stage) : Prop := st.registered = false ∧ st.waking = false

/-- One step of a party: of its notification, of its wait, or outside the counter. -/
inductive PartyStep (x : P) (enabled cancelled : Bool) (e : EventCount P) :
    Stage → EventCount P → Stage → Prop
  | notify {st st' : NotifyStage} {e' : EventCount P} (h : NotifyStep enabled e st e' st') :
      PartyStep x enabled cancelled e (.notify st) e' (.notify st')
  | wait {st st' : WaitStage} {e' : EventCount P} (h : WaitStep x cancelled e st e' st') :
      PartyStep x enabled cancelled e (.wait st) e' (.wait st')
  | quiet {st st' : Stage} (h : st.Quiet) (h' : st'.Quiet) :
      PartyStep x enabled cancelled e st e st'

lemma PartyStep.le_generation {x : P} {enabled cancelled : Bool} {e e' : EventCount P}
    {st st' : Stage} (h : PartyStep x enabled cancelled e st e' st') :
    e.generation ≤ e'.generation := by
  cases h with
  | notify h => exact h.le_generation
  | wait h => exact le_of_eq h.generation.symm
  | quiet => exact le_rfl

/-! ### What is left to do -/

/-- The steps that are left of a notification. -/
def NotifyStage.rank : NotifyStage → ℕ
  | .bump => 3
  | .load => 2
  | .wake => 1
  | .finished => 0

omit [DecidableEq P] in
lemma NotifyStep.rank_lt {enabled : Bool} {e e' : EventCount P} {st st' : NotifyStage}
    (h : NotifyStep enabled e st e' st') : st'.rank < st.rank := by
  cases h <;> decide

/-- A bound on the steps that are left of a wait while nobody notifies; `same` says that the wait
for a change since a generation is not over, and `asleep` that the party is among the sleepers.
A wait that is over ranks above the place at which it is taken up again. -/
def WaitStage.rank (asleep : Bool) (same : ℕ → Bool) : WaitStage → ℕ
  | .register g => if same g then 3 else 16
  | .check g => if same g then 2 else 15
  | .block g => if same g then 1 else 13
  | .asleep g => if asleep then 0 else if same g then 2 else 14
  | .leave => 12
  | .unregister _ => 11
  | .finished _ => 10

lemma WaitStep.rank_lt {x : P} {cancelled : Bool} {e e' : EventCount P} {st st' : WaitStage}
    (h : WaitStep x cancelled e st e' st') {same : ℕ → Bool}
    (hsame : ∀ g, same g = true ↔ e.generation = g ∧ cancelled = false) :
    st'.rank (x ∈ e'.sleeping) same < st.rank (x ∈ e.sleeping) same := by
  cases h with
  | register =>
    simp only [WaitStage.rank]
    split <;> omega
  | stay h =>
    simp only [WaitStage.rank, (hsame _).mpr h, if_true]
    omega
  | changed h =>
    simp only [WaitStage.rank, if_neg fun hs => h ((hsame _).mp hs)]
    omega
  | sleep h =>
    simp only [WaitStage.rank, (hsame _).mpr h, Finset.mem_insert_self, decide_true, if_true]
    omega
  | awake h =>
    simp only [WaitStage.rank, if_neg fun hs => h ((hsame _).mp hs)]
    omega
  | resume h =>
    simp only [WaitStage.rank, h, decide_false, Bool.false_eq_true, if_false]
    split <;> omega
  | leave | unregister => exact Nat.lt_succ_self _

/-- Only the party itself falls asleep. -/
lemma WaitStep.mem_sleeping {x y : P} {cancelled : Bool} {e e' : EventCount P} {st st' : WaitStage}
    (h : WaitStep x cancelled e st e' st') (hy : y ≠ x) : y ∈ e'.sleeping ↔ y ∈ e.sleeping := by
  cases h with
  | sleep => simp [hy]
  | _ => exact Iff.rfl

/-! ### No lost wake-up -/

omit [DecidableEq P]

variable [Fintype P]

/-- The invariant of a counter and the stages of its parties. -/
structure EventCount.Sound (e : EventCount P) (stage : P → Stage) : Prop where
  waiters : e.waiters = ∑ x, (stage x).registered.toNat
  asleep : ∀ x ∈ e.sleeping, ∃ g, stage x = .wait (.asleep g)
  missed : ∀ x ∈ e.sleeping, ∀ g, stage x = .wait (.asleep g) → g ≠ e.generation →
    ∃ y, (stage y).waking = true

namespace EventCount.Sound

variable {e : EventCount P} {stage : P → Stage}

/-- A sleeper is registered. -/
lemma waiters_ne_zero (h : e.Sound stage) {x : P} (hx : x ∈ e.sleeping) : e.waiters ≠ 0 := by
  obtain ⟨g, hstage⟩ := h.asleep x hx
  have hle : (stage x).registered.toNat ≤ ∑ y, (stage y).registered.toNat :=
    Finset.single_le_sum (f := fun y => (stage y).registered.toNat) (fun _ _ => Nat.zero_le _)
      (Finset.mem_univ x)
  rw [hstage, ← h.waiters] at hle
  exact Nat.one_le_iff_ne_zero.mp hle

/-- A party that is not asleep is not among the sleepers. -/
lemma notMem_sleeping (h : e.Sound stage) {x : P} (hx : ∀ g, stage x ≠ .wait (.asleep g)) :
    x ∉ e.sleeping := by
  intro hmem
  obtain ⟨g, hg⟩ := h.asleep x hmem
  exact hx g hg

/-- Nobody sleeps on an old generation unless somebody is about to wake all sleepers. -/
theorem observed_eq (h : e.Sound stage) (hquiet : ∀ y, (stage y).waking = false) {x : P}
    (hx : x ∈ e.sleeping) {g : ℕ} (hstage : stage x = .wait (.asleep g)) : g = e.generation := by
  by_contra hne
  obtain ⟨y, hy⟩ := h.missed x hx g hstage hne
  rw [hquiet y] at hy
  cases hy

variable [DecidableEq P]

/-- The number of waiters after one party has moved on. -/
lemma sum_registered (h : e.Sound stage) (x : P) (st : Stage) :
    ∑ y, (Function.update stage x st y).registered.toNat + (stage x).registered.toNat =
      e.waiters + st.registered.toNat := by
  rw [sum_update_add (fun s : Stage => s.registered.toNat) stage x st, h.waiters]

/-- A party that neither sleeps nor is about to wake anybody moves on. -/
lemma update (h : e.Sound stage) {x : P} {st : Stage} {e' : EventCount P}
    (hgeneration : e'.generation = e.generation) (hsleeping : e'.sleeping = e.sleeping)
    (hx : x ∉ e.sleeping)
    (hwaking : (stage x).waking = true → st.waking = true ∨ e.sleeping = ∅)
    (hwaiters : e'.waiters + (stage x).registered.toNat = e.waiters + st.registered.toNat) :
    e'.Sound (Function.update stage x st) := by
  have hother : ∀ y ∈ e.sleeping, Function.update stage x st y = stage y := by
    intro y hy
    exact Function.update_of_ne (ne_of_mem_of_not_mem hy hx) _ _
  refine ⟨?_, fun y hy => ?_, fun y hy g hstage hg => ?_⟩
  · have hsum := h.sum_registered x st
    omega
  · rw [hsleeping] at hy
    rw [hother y hy]
    exact h.asleep y hy
  · rw [hsleeping] at hy
    rw [hother y hy] at hstage
    obtain ⟨z, hz⟩ := h.missed y hy g hstage (hgeneration ▸ hg)
    by_cases hzx : z = x
    · subst hzx
      rcases hwaking hz with hst | hempty
      · exact ⟨z, by rw [Function.update_self]; exact hst⟩
      · rw [hempty] at hy
        exact absurd hy (Finset.notMem_empty _)
    · exact ⟨z, by rw [Function.update_of_ne hzx]; exact hz⟩

/-- A step of a notification keeps the invariant. -/
theorem notify (h : e.Sound stage) {enabled : Bool} {x : P} {st st' : NotifyStage}
    {e' : EventCount P} (hstage : stage x = .notify st) (hstep : NotifyStep enabled e st e' st') :
    e'.Sound (Function.update stage x (.notify st')) := by
  have hx : x ∉ e.sleeping := h.notMem_sleeping fun g => by simp [hstage]
  cases hstep with
  | skip henabled =>
    exact h.update rfl rfl hx (by simp [hstage, Stage.waking]) (by simp [hstage, Stage.registered])
  | bump henabled =>
    -- from now on the party itself is about to wake the sleepers
    refine ⟨?_, fun y hy => ?_, fun y hy g hg hne => ⟨x, by simp [Stage.waking]⟩⟩
    · have hsum := h.sum_registered x (.notify .load)
      simp only [hstage, Stage.registered, Bool.toNat_false, add_zero] at hsum
      exact hsum.symm
    · rw [Function.update_of_ne (ne_of_mem_of_not_mem hy hx)]
      exact h.asleep y hy
  | alone hwaiters =>
    have hempty : e.sleeping = ∅ := Finset.eq_empty_of_forall_notMem fun y hy =>
      h.waiters_ne_zero hy hwaiters
    exact h.update rfl rfl hx (fun _ => Or.inr hempty) (by simp [hstage, Stage.registered])
  | load hwaiters =>
    exact h.update rfl rfl hx (fun _ => Or.inl rfl) (by simp [hstage, Stage.registered])
  | wake =>
    refine ⟨?_, fun y hy => absurd hy (Finset.notMem_empty _),
      fun y hy => absurd hy (Finset.notMem_empty _)⟩
    have hsum := h.sum_registered x (.notify .finished)
    simp only [hstage, Stage.registered, Bool.toNat_false, add_zero] at hsum
    exact hsum.symm

/-- A step of a wait keeps the invariant. -/
theorem wait (h : e.Sound stage) {cancelled : Bool} {x : P} {st st' : WaitStage}
    {e' : EventCount P} (hstage : stage x = .wait st) (hstep : WaitStep x cancelled e st e' st') :
    e'.Sound (Function.update stage x (.wait st')) := by
  have hwaking : (stage x).waking = true → (Stage.wait st').waking = true ∨ e.sleeping = ∅ := by
    simp [hstage, Stage.waking]
  -- falling asleep is the one step that adds a sleeper
  cases hstep with
  | sleep hsame =>
    have hx : x ∉ e.sleeping := h.notMem_sleeping fun g => by simp [hstage]
    refine ⟨?_, fun y hy => ?_, fun y hy g hg hne => ?_⟩
    · have hsum := h.sum_registered x (.wait (.asleep e.generation))
      simp only [hstage, Stage.registered] at hsum
      rw [hsame.1] at hsum
      exact (Nat.add_right_cancel hsum).symm
    · by_cases hyx : y = x
      · subst hyx
        exact ⟨_, Function.update_self ..⟩
      · rw [Function.update_of_ne hyx]
        exact h.asleep y (Finset.mem_of_mem_insert_of_ne hy hyx)
    · by_cases hyx : y = x
      · subst hyx
        rw [Function.update_self] at hg
        cases hg
        exact absurd hsame.1.symm hne
      · rw [Function.update_of_ne hyx] at hg
        obtain ⟨z, hz⟩ := h.missed y (Finset.mem_of_mem_insert_of_ne hy hyx) g hg hne
        refine ⟨z, ?_⟩
        rw [Function.update_of_ne fun heq => by rw [heq, hstage] at hz; simp [Stage.waking] at hz]
        exact hz
  | resume hx => exact h.update rfl rfl hx hwaking (by simp [hstage, Stage.registered])
  | unregister =>
    have hx : x ∉ e.sleeping := h.notMem_sleeping fun g => by simp [hstage]
    have hpos : (stage x).registered.toNat ≤ e.waiters := by
      rw [h.waiters]
      exact Finset.single_le_sum (f := fun y => (stage y).registered.toNat)
        (fun _ _ => Nat.zero_le _) (Finset.mem_univ x)
    refine h.update rfl rfl hx hwaking ?_
    rw [hstage] at hpos ⊢
    simp only [Stage.registered, Bool.toNat_true, Bool.toNat_false] at hpos ⊢
    omega
  | register =>
    have hx : x ∉ e.sleeping := h.notMem_sleeping fun g => by simp [hstage]
    exact h.update rfl rfl hx hwaking (by simp [hstage, Stage.registered])
  | stay _ | changed _ | awake _ | leave =>
    have hx : x ∉ e.sleeping := h.notMem_sleeping fun g => by simp [hstage]
    exact h.update rfl rfl hx hwaking (by simp [hstage, Stage.registered])

/-- Every step of a party keeps the invariant. -/
theorem step (h : e.Sound stage) {enabled cancelled : Bool} {x : P} {st : Stage}
    {e' : EventCount P} (hstep : PartyStep x enabled cancelled e (stage x) e' st) :
    e'.Sound (Function.update stage x st) := by
  generalize hstage : stage x = old at hstep
  cases hstep with
  | notify hnotify => exact h.notify hstage hnotify
  | wait hwait => exact h.wait hstage hwait
  | quiet hold hnew =>
    refine h.update rfl rfl (h.notMem_sleeping fun g hg => ?_) (fun hw => ?_) ?_
    · rw [← hstage, hg] at hold
      cases hold.1
    · rw [hstage, hold.2] at hw
      cases hw
    · rw [hstage, hold.1, hnew.1]

/-- A sleeper may wake up by itself. -/
lemma erase (h : e.Sound stage) (x : P) :
    EventCount.Sound { e with sleeping := e.sleeping.erase x } stage :=
  ⟨h.waiters, fun y hy => h.asleep y (Finset.mem_of_mem_erase hy),
    fun y hy => h.missed y (Finset.mem_of_mem_erase hy)⟩

end EventCount.Sound

end ArcadiaTio.Lib
