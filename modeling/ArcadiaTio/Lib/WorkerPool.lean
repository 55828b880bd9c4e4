import ArcadiaTio.Lib.Interleaving
import Mathlib.Algebra.Order.BigOperators.Group.Multiset
import Mathlib.Data.Fintype.BigOperators
import Mathlib.Tactic.Abel

/-!
# Workers that share a queue of jobs

Some workers take jobs from a queue, work on them in steps that may read and write a shared state,
and send what becomes of each job to a receiver.  A worker may leave the loop before it takes a job
when the shared state says so.

No job is lost and none is done twice (`allJobs_of_reachable`).  So what is known about one job is
kept as long as it is kept by the steps on other jobs (`JobRule`), whatever the workers do in
between, and when nobody has left early, every job has been received (`PoolState.Final.perm`).  A
job that ends badly, or a shared state that tells the workers to stop, has a cause (`CauseRule`), and
what cannot happen unless a job ends badly does not happen before one does (`UnlessRule`).
-/

namespace ArcadiaTio.Lib

variable {W : ℕ} {J L S R : Type}

/-! ### The system -/

/-- What the workers of a pool do with a job: where each of them begins, a step on the local state
and the shared one, and what comes out in the end.  A job may also take its worker with it. -/
structure JobProgram (J L S R : Type) where
  start : ℕ → J → L
  work : J → L × S → L × S → Prop
  result : L → Option R
  crashed : L → Prop
  mayStop : S → Prop

/-- Where a worker is: before it looks whether to stop, before it takes a job, at work, or done. -/
inductive PoolWorker (J L : Type)
  | looking
  | popping
  | holding (job : J) (localState : L)
  | ended

/-- A state of the pool: the jobs that nobody has taken, the workers, and what they share. -/
structure PoolState (W : ℕ) (J L S R : Type) where
  queue : List J
  workers : Fin W → PoolWorker J L
  shared : S
  messages : List (J × R)
  received : List (J × R)

namespace PoolState

variable (p : JobProgram J L S R)

/-- A worker may overlook that it is to stop. -/
inductive Step (s : PoolState W J L S R) : PoolState W J L S R → Prop
  | leave (w : Fin W) (hw : s.workers w = .looking) (hstop : p.mayStop s.shared) :
      Step s { s with workers := Function.update s.workers w .ended }
  | look (w : Fin W) (hw : s.workers w = .looking) :
      Step s { s with workers := Function.update s.workers w .popping }
  | take (w : Fin W) (j : J) (rest : List J) (hw : s.workers w = .popping)
      (hqueue : s.queue = j :: rest) :
      Step s { s with
        queue := rest, workers := Function.update s.workers w (.holding j (p.start w j)) }
  | exhausted (w : Fin W) (hw : s.workers w = .popping) (hqueue : s.queue = []) :
      Step s { s with workers := Function.update s.workers w .ended }
  | work (w : Fin W) (j : J) (l l' : L) (sh : S) (hw : s.workers w = .holding j l)
      (hwork : p.work j (l, s.shared) (l', sh)) :
      Step s { s with shared := sh, workers := Function.update s.workers w (.holding j l') }
  | send (w : Fin W) (j : J) (l : L) (r : R) (hw : s.workers w = .holding j l)
      (hresult : p.result l = some r) :
      Step s { s with
        messages := s.messages ++ [(j, r)], workers := Function.update s.workers w .looking }
  | receive (m : J × R) (rest : List (J × R)) (hmessages : s.messages = m :: rest) :
      Step s { s with messages := rest, received := s.received ++ [m] }

/-- All workers are about to look, and all jobs are in the queue. -/
def initial (W : ℕ) (R : Type) (jobs : List J) (sh : S) : PoolState W J L S R :=
  ⟨jobs, fun _ => .looking, sh, [], []⟩

/-- The states that some interleaving reaches. -/
def Reachable (jobs : List J) (sh : S) (s : PoolState W J L S R) : Prop :=
  Relation.ReflTransGen (Step p) (initial W R jobs sh) s

/-- All workers have ended or crashed, and all messages have been received. -/
structure Final (s : PoolState W J L S R) : Prop where
  workers : ∀ w, s.workers w = .ended ∨ ∃ j l, s.workers w = .holding j l ∧ p.crashed l
  messages : s.messages = []

end PoolState

/-! ### No job is lost -/

/-- The job that a worker holds. -/
def PoolWorker.held : PoolWorker J L → Multiset J
  | .holding j _ => {j}
  | _ => 0

@[simp] lemma PoolWorker.held_looking : (looking : PoolWorker J L).held = 0 := rfl

@[simp] lemma PoolWorker.held_popping : (popping : PoolWorker J L).held = 0 := rfl

@[simp] lemma PoolWorker.held_holding (j : J) (l : L) : (holding j l).held = {j} := rfl

@[simp] lemma PoolWorker.held_ended : (ended : PoolWorker J L).held = 0 := rfl

namespace PoolState

variable {p : JobProgram J L S R} {jobs : List J} {sh : S} {s t : PoolState W J L S R}

/-- Where the jobs are: in the queue, at a worker, or done. -/
def allJobs (s : PoolState W J L S R) : Multiset J :=
  s.queue + ∑ w, (s.workers w).held + (s.messages ++ s.received).map Prod.fst

lemma allJobs_update {queue : List J} {shared : S} {messages received : List (J × R)} {w : Fin W}
    {worker : PoolWorker J L} (h : (queue : Multiset J) + worker.held +
      ((messages ++ received).map Prod.fst : List J) =
        s.queue + (s.workers w).held + ((s.messages ++ s.received).map Prod.fst : List J)) :
    (⟨queue, Function.update s.workers w worker, shared, messages, received⟩ :
      PoolState W J L S R).allJobs = s.allJobs := by
  have hsum := sum_update_add (PoolWorker.held (L := L)) s.workers w worker
  refine add_right_cancel (b := worker.held + (s.workers w).held) ?_
  show (queue : Multiset J) + ∑ v, (Function.update s.workers w worker v).held +
      ((messages ++ received).map Prod.fst : List J) + (worker.held + (s.workers w).held) =
    s.queue + ∑ v, (s.workers v).held + ((s.messages ++ s.received).map Prod.fst : List J) +
      (worker.held + (s.workers w).held)
  calc _ = ((queue : Multiset J) + worker.held + ((messages ++ received).map Prod.fst : List J)) +
        (∑ v, (Function.update s.workers w worker v).held + (s.workers w).held) := by
        abel
    _ = _ := by
        rw [h, hsum]
        abel

lemma allJobs_step (h : Step p s t) : t.allJobs = s.allJobs := by
  cases h with
  | leave w hw _ => exact allJobs_update (by simp [hw])
  | look w hw => exact allJobs_update (by simp [hw])
  | take w j rest hw hqueue =>
    refine allJobs_update ?_
    rw [hw, hqueue, ← Multiset.cons_coe, ← Multiset.singleton_add, PoolWorker.held_holding,
      PoolWorker.held_popping, add_zero, add_comm (rest : Multiset J)]
  | exhausted w hw _ => exact allJobs_update (by simp [hw])
  | work w j l l' sh hw _ => exact allJobs_update (by simp [hw])
  | send w j l r hw _ =>
    refine allJobs_update ?_
    simp only [hw, PoolWorker.held_looking, PoolWorker.held_holding, List.map_append,
      ← Multiset.coe_add, List.map_cons, List.map_nil, Multiset.coe_singleton, add_zero]
    abel
  | receive m rest hmessages =>
    simp only [allJobs, hmessages, List.map_append, ← Multiset.coe_add, List.map_cons, List.map_nil,
      ← Multiset.cons_coe, ← Multiset.singleton_add, Multiset.coe_nil, add_zero]
    abel

/-- Every job is in one place. -/
theorem allJobs_of_reachable (h : s.Reachable p jobs sh) : s.allJobs = jobs := by
  refine invariant_of_reachable (P := fun s : PoolState W J L S R => s.allJobs = jobs) ?_
    (fun s t hs hstep => (allJobs_step hstep).trans hs) h
  show (jobs : Multiset J) + ∑ _, 0 + 0 = jobs
  rw [Finset.sum_const_zero, add_zero, add_zero]

/-- Where a job is. -/
lemma mem_allJobs {j : J} : j ∈ s.allJobs ↔ j ∈ s.queue ∨
    (∃ w l, s.workers w = .holding j l) ∨ ∃ m ∈ s.messages ++ s.received, m.1 = j := by
  have hheld : ∀ w, j ∈ (s.workers w).held ↔ ∃ l, s.workers w = .holding j l := by
    intro w
    rcases hw : s.workers w with _ | _ | ⟨i, l⟩ | _ <;> simp [eq_comm]
  simp only [allJobs, Multiset.mem_add, Multiset.mem_coe, Multiset.mem_sum, Finset.mem_univ,
    true_and, hheld, List.mem_map, or_assoc]

/-- Only the jobs are anywhere. -/
lemma mem_jobs (h : s.allJobs = jobs) : (∀ i ∈ s.queue, i ∈ jobs) ∧
    (∀ w j l, s.workers w = .holding j l → j ∈ jobs) ∧
    ∀ m ∈ s.messages ++ s.received, m.1 ∈ jobs := by
  have hmem : ∀ i, i ∈ s.allJobs → i ∈ jobs := by
    intro i hi
    rwa [h] at hi
  refine ⟨fun i hi => hmem i ?_, fun w j l hw => hmem j ?_, fun m hm => hmem m.1 ?_⟩
  · exact mem_allJobs.mpr (Or.inl hi)
  · exact mem_allJobs.mpr (Or.inr (Or.inl ⟨w, l, hw⟩))
  · exact mem_allJobs.mpr (Or.inr (Or.inr ⟨m, hm, rfl⟩))

/-- A job that a worker holds is nowhere else. -/
lemma distinct_of_holding (h : s.allJobs.Nodup) {w : Fin W} {j : J} {l : L}
    (hw : s.workers w = .holding j l) : (∀ i ∈ s.queue, i ≠ j) ∧
      (∀ v i m, v ≠ w → s.workers v = .holding i m → i ≠ j) ∧
      ∀ m ∈ s.messages ++ s.received, m.1 ≠ j := by
  have hsum : ∑ v, (s.workers v).held = {j} + ∑ v ∈ Finset.univ.erase w, (s.workers v).held := by
    rw [← Finset.add_sum_erase _ _ (Finset.mem_univ w), hw, PoolWorker.held_holding]
  rw [allJobs, hsum] at h
  obtain ⟨h, -, hfinished⟩ := Multiset.nodup_add.mp h
  obtain ⟨-, hheld, hqueue⟩ := Multiset.nodup_add.mp h
  obtain ⟨-, -, hworkers⟩ := Multiset.nodup_add.mp hheld
  rw [Multiset.disjoint_left] at hfinished hqueue hworkers
  refine ⟨fun i hi heq => ?_, fun v i m hv hi heq => ?_, fun m hm heq => ?_⟩
  · exact hqueue (Multiset.mem_coe.mpr (heq ▸ hi))
      (Multiset.mem_add.mpr (Or.inl (Multiset.mem_singleton_self j)))
  · refine hworkers (Multiset.mem_singleton_self j) (Multiset.mem_sum.mpr
      ⟨v, Finset.mem_erase.mpr ⟨hv, Finset.mem_univ v⟩, ?_⟩)
    rw [hi, heq, PoolWorker.held_holding]
    exact Multiset.mem_singleton_self j
  · refine hfinished (Multiset.mem_add.mpr (Or.inr (Multiset.mem_add.mpr
      (Or.inl (Multiset.mem_singleton_self j))))) (Multiset.mem_coe.mpr ?_)
    exact heq ▸ List.mem_map_of_mem hm

end PoolState

/-! ### What is known of a job -/

/-- Facts about a job before, while and after one of `W` workers holds it, which are kept by the
steps on the other jobs. -/
structure JobRule (W : ℕ) (p : JobProgram J L S R) (jobs : List J) where
  fresh : J → S → Prop
  held : J → L → S → Prop
  done : J → R → S → Prop
  start : ∀ {j s}, ∀ w < W, fresh j s → held j (p.start w j) s
  work : ∀ {j l s l' s'}, held j l s → p.work j (l, s) (l', s') → held j l' s'
  result : ∀ {j l s r}, held j l s → p.result l = some r → done j r s
  others : ∀ {j l s l' s' i}, i ∈ jobs → j ∈ jobs → i ≠ j → p.work j (l, s) (l', s') →
    (fresh i s → fresh i s') ∧ (∀ m, held i m s → held i m s') ∧ ∀ r, done i r s → done i r s'

/-- The facts hold of all jobs, wherever they are. -/
structure JobRule.Holds {p : JobProgram J L S R} {jobs : List J} (rule : JobRule W p jobs)
    (s : PoolState W J L S R) : Prop where
  queued : ∀ j ∈ s.queue, rule.fresh j s.shared
  working : ∀ w j l, s.workers w = .holding j l → rule.held j l s.shared
  finished : ∀ m ∈ s.messages ++ s.received, rule.done m.1 m.2 s.shared

namespace PoolState

variable {p : JobProgram J L S R} {jobs : List J} {sh : S} {s t : PoolState W J L S R}

/-- A worker that is not at work leaves the facts alone. -/
lemma holds_update_idle {rule : JobRule W p jobs} (h : rule.Holds s) {w : Fin W}
    {worker : PoolWorker J L} (hidle : worker.held = 0) :
    rule.Holds { s with workers := Function.update s.workers w worker } := by
  refine ⟨h.queued, fun v j l hv => ?_, h.finished⟩
  change Function.update s.workers w worker v = _ at hv
  by_cases hsame : v = w
  · subst hsame
    rw [Function.update_self] at hv
    rw [hv, PoolWorker.held_holding] at hidle
    exact absurd hidle (Multiset.singleton_ne_zero j)
  · rw [Function.update_of_ne hsame] at hv
    exact h.working v j l hv

lemma holds_step {rule : JobRule W p jobs} (h : rule.Holds s) (hjobs : s.allJobs = jobs)
    (hnodup : jobs.Nodup) (hstep : Step p s t) : rule.Holds t := by
  cases hstep with
  | leave w hw _ => exact holds_update_idle h rfl
  | look w hw => exact holds_update_idle h rfl
  | exhausted w hw _ => exact holds_update_idle h rfl
  | take w j rest hw hqueue =>
    refine ⟨fun i hi => h.queued i (hqueue ▸ List.mem_cons_of_mem j hi), fun v i l hv => ?_,
      h.finished⟩
    change Function.update s.workers w _ v = _ at hv
    by_cases hsame : v = w
    · subst hsame
      rw [Function.update_self] at hv
      cases hv
      exact rule.start v v.isLt (h.queued j (hqueue ▸ List.mem_cons_self))
    · rw [Function.update_of_ne hsame] at hv
      exact h.working v i l hv
  | work w j l l' sh hw hwork =>
    -- the steps on one job do not harm the others
    obtain ⟨hqueue, hworkers, hfinished⟩ := distinct_of_holding (by rwa [hjobs]) hw
    obtain ⟨hqueued, hheld, hdone⟩ := mem_jobs hjobs
    have hj := hheld w j l hw
    refine ⟨fun i hi => (rule.others (hqueued i hi) hj (hqueue i hi) hwork).1 (h.queued i hi),
      fun v i m hv => ?_, fun m hm =>
        (rule.others (hdone m hm) hj (hfinished m hm) hwork).2.2 m.2 (h.finished m hm)⟩
    change Function.update s.workers w _ v = _ at hv
    by_cases hsame : v = w
    · subst hsame
      rw [Function.update_self] at hv
      cases hv
      exact rule.work (h.working v j l hw) hwork
    · rw [Function.update_of_ne hsame] at hv
      exact (rule.others (hheld v i m hv) hj (hworkers v i m hsame hv) hwork).2.1 m
        (h.working v i m hv)
  | send w j l r hw hresult =>
    obtain ⟨hqueued, hworking, hfinished⟩ := @holds_update_idle W J L S R p jobs s rule h w .looking rfl
    refine ⟨hqueued, hworking, fun m hm => ?_⟩
    change m ∈ s.messages ++ [(j, r)] ++ s.received at hm
    simp only [List.mem_append, List.mem_singleton] at hm
    rcases hm with (hm | rfl) | hm
    · exact hfinished m (List.mem_append_left _ hm)
    · exact rule.result (h.working w j l hw) hresult
    · exact hfinished m (List.mem_append_right _ hm)
  | receive m rest hmessages =>
    refine ⟨h.queued, h.working, fun n hn => h.finished n ?_⟩
    change n ∈ rest ++ (s.received ++ [m]) at hn
    simp only [hmessages, List.mem_append, List.mem_cons, List.not_mem_nil,
      or_false] at hn ⊢
    tauto

/-- The facts about single jobs hold in every reachable state. -/
theorem Reachable.holds (h : s.Reachable p jobs sh) (hnodup : jobs.Nodup)
    (rule : JobRule W p jobs) (hfresh : ∀ j ∈ jobs, rule.fresh j sh) : rule.Holds s := by
  induction h with
  | refl =>
    refine ⟨hfresh, fun w j l hw => ?_, fun m hm => ?_⟩
    · cases hw
    · cases hm
  | @tail u v hu hstep ih =>
    exact holds_step ih (allJobs_of_reachable hu) hnodup hstep

end PoolState

/-- What the steps on the jobs keep of the shared state holds in every reachable state. -/
theorem PoolState.Reachable.shared {p : JobProgram J L S R} {jobs : List J} {sh : S}
    {s : PoolState W J L S R} (h : s.Reachable p jobs sh) {P : S → Prop} (hinit : P sh)
    (hwork : ∀ {j l s l' s'}, j ∈ jobs → P s → p.work j (l, s) (l', s') → P s') : P s.shared := by
  induction h with
  | refl => exact hinit
  | @tail u t hu hstep ih =>
    cases hstep with
    | work w j l l' sh hw hstep =>
      have hj := (mem_jobs (allJobs_of_reachable hu)).2.1 w j l hw
      exact hwork hj ih hstep
    | _ => exact ih

/-! ### Why the workers stop -/

/-- A job that is doomed stays so, and has a bad result. -/
structure DoomRule (p : JobProgram J L S R) where
  doomed : L → Prop
  bad : R → Prop
  keep : ∀ {j l s l' s'}, doomed l → p.work j (l, s) (l', s') → doomed l'
  result : ∀ {l r}, doomed l → p.result l = some r → bad r

/-- Only a doomed job raises something. -/
structure CauseRule (p : JobProgram J L S R) extends DoomRule p where
  raised : S → Prop
  raise : ∀ {j l s l' s'}, p.work j (l, s) (l', s') → raised s' → raised s ∨ doomed l'

/-- Facts about jobs and the shared state that only a doomed job may break. -/
structure UnlessRule (p : JobProgram J L S R) (rule : DoomRule p) where
  calm : S → Prop
  held : L → S → Prop
  done : R → S → Prop
  start : ∀ {s} w j, held (p.start w j) s
  work : ∀ {j l s l' s'}, calm s → held l s → p.work j (l, s) (l', s') →
    rule.doomed l' ∨ calm s' ∧ held l' s'
  result : ∀ {l s r}, held l s → p.result l = some r → done r s
  others : ∀ {j l s l' s'}, p.work j (l, s) (l', s') →
    (∀ m, held m s → held m s') ∧ ∀ r, done r s → done r s'

namespace PoolState

variable {p : JobProgram J L S R} {jobs : List J} {sh : S} {s t : PoolState W J L S R}

/-- A job that is at work will have a bad result, or one that is done has had it. -/
def HasCause (rule : DoomRule p) (s : PoolState W J L S R) : Prop :=
  (∃ w j l, s.workers w = .holding j l ∧ rule.doomed l) ∨
    ∃ m ∈ s.messages ++ s.received, rule.bad m.2

/-- A worker that is not at work leaves the cause where it is. -/
lemma HasCause.update_idle {rule : DoomRule p} (h : s.HasCause rule) {w : Fin W}
    {worker : PoolWorker J L} (hw : (s.workers w).held = 0) :
    ({ s with workers := Function.update s.workers w worker } :
      PoolState W J L S R).HasCause rule := by
  rcases h with ⟨v, j, l, hv, hdoomed⟩ | hbad
  · refine Or.inl ⟨v, j, l, ?_, hdoomed⟩
    have hne : v ≠ w := by
      rintro rfl
      rw [hv, PoolWorker.held_holding] at hw
      exact Multiset.singleton_ne_zero j hw
    show Function.update s.workers w worker v = _
    rw [Function.update_of_ne hne, hv]
  · exact Or.inr hbad

lemma HasCause.step {rule : DoomRule p} (h : s.HasCause rule) (hstep : Step p s t) :
    t.HasCause rule := by
  cases hstep with
  | leave w hw _ => exact h.update_idle (by rw [hw]; rfl)
  | look w hw => exact h.update_idle (by rw [hw]; rfl)
  | exhausted w hw _ => exact h.update_idle (by rw [hw]; rfl)
  | take w j rest hw _ => exact h.update_idle (by rw [hw]; rfl)
  | work w j l l' sh hw hwork =>
    rcases h with ⟨v, i, m, hv, hdoomed⟩ | hbad
    · by_cases hsame : v = w
      · subst hsame
        rw [hw] at hv
        cases hv
        exact Or.inl ⟨v, j, l', Function.update_self _ _ _, rule.keep hdoomed hwork⟩
      · refine Or.inl ⟨v, i, m, ?_, hdoomed⟩
        show Function.update s.workers w _ v = _
        rw [Function.update_of_ne hsame, hv]
    · exact Or.inr hbad
  | send w j l r hw hresult =>
    rcases h with ⟨v, i, m, hv, hdoomed⟩ | ⟨m, hm, hbad⟩
    · by_cases hsame : v = w
      · subst hsame
        rw [hw] at hv
        cases hv
        exact Or.inr ⟨(j, r), by simp, rule.result hdoomed hresult⟩
      · refine Or.inl ⟨v, i, m, ?_, hdoomed⟩
        show Function.update s.workers w _ v = _
        rw [Function.update_of_ne hsame, hv]
    · refine Or.inr ⟨m, ?_, hbad⟩
      simp only [List.mem_append] at hm ⊢
      tauto
  | receive m rest hmessages =>
    rcases h with hdoomed | ⟨n, hn, hbad⟩
    · exact Or.inl hdoomed
    · refine Or.inr ⟨n, ?_, hbad⟩
      simp only [hmessages, List.mem_append, List.mem_cons, List.not_mem_nil, or_false] at hn ⊢
      tauto

/-- What has been raised has a cause. -/
theorem Reachable.hasCause (h : s.Reachable p jobs sh) (rule : CauseRule p)
    (hinit : ¬ rule.raised sh) (hraised : rule.raised s.shared) : s.HasCause rule.toDoomRule := by
  induction h with
  | refl => exact absurd hraised hinit
  | @tail u v _ hstep ih =>
    by_cases hbefore : rule.raised u.shared
    · exact (ih hbefore).step hstep
    · cases hstep with
      | work w j l l' sh hw hwork =>
        have hdoomed := (rule.raise hwork hraised).resolve_left hbefore
        exact Or.inl ⟨w, j, l', Function.update_self _ _ _, hdoomed⟩
      | _ => exact absurd hraised hbefore

/-- The facts hold of all jobs and of the shared state. -/
structure Calm {rule : DoomRule p} (facts : UnlessRule p rule) (s : PoolState W J L S R) :
    Prop where
  shared : facts.calm s.shared
  working : ∀ w j l, s.workers w = .holding j l → facts.held l s.shared
  finished : ∀ m ∈ s.messages ++ s.received, facts.done m.2 s.shared

/-- What a worker takes up does not break the facts about the others. -/
lemma Calm.update {rule : DoomRule p} {facts : UnlessRule p rule} (h : s.Calm facts)
    {w : Fin W} {worker : PoolWorker J L} {queue : List J}
    (hworker : ∀ j l, worker = .holding j l → facts.held l s.shared) :
    ({ s with queue, workers := Function.update s.workers w worker } :
      PoolState W J L S R).Calm facts := by
  refine ⟨h.shared, fun v i m hv => ?_, h.finished⟩
  change Function.update s.workers w worker v = _ at hv
  by_cases hsame : v = w
  · subst hsame
    rw [Function.update_self] at hv
    exact hworker i m hv
  · rw [Function.update_of_ne hsame] at hv
    exact h.working v i m hv

lemma Calm.step {rule : DoomRule p} {facts : UnlessRule p rule} (h : s.Calm facts)
    (hstep : Step p s t) : t.HasCause rule ∨ t.Calm facts := by
  cases hstep with
  | leave w hw _ => exact Or.inr (h.update fun j l hjl => by cases hjl)
  | look w hw => exact Or.inr (h.update fun j l hjl => by cases hjl)
  | exhausted w hw _ => exact Or.inr (h.update fun j l hjl => by cases hjl)
  | take w j rest hw _ =>
    refine Or.inr (h.update fun i l hil => ?_)
    cases hil
    exact facts.start w j
  | work w j l l' sh hw hwork =>
    obtain ⟨hheld, hdone⟩ := facts.others hwork
    rcases facts.work h.shared (h.working w j l hw) hwork with hdoomed | ⟨hcalm, hown⟩
    · exact Or.inl (Or.inl ⟨w, j, l', Function.update_self _ _ _, hdoomed⟩)
    · refine Or.inr ⟨hcalm, fun v i m hv => ?_, fun m hm => hdone m.2 (h.finished m hm)⟩
      change Function.update s.workers w _ v = _ at hv
      by_cases hsame : v = w
      · subst hsame
        rw [Function.update_self] at hv
        cases hv
        exact hown
      · rw [Function.update_of_ne hsame] at hv
        exact hheld m (h.working v i m hv)
  | send w j l r hw hresult =>
    have hidle := @Calm.update W J L S R p s rule facts h w .looking s.queue
      fun i m him => by cases him
    refine Or.inr ⟨h.shared, hidle.working, fun m hm => ?_⟩
    change m ∈ s.messages ++ [(j, r)] ++ s.received at hm
    simp only [List.mem_append, List.mem_singleton] at hm
    rcases hm with (hm | rfl) | hm
    · exact h.finished m (List.mem_append_left _ hm)
    · exact facts.result (h.working w j l hw) hresult
    · exact h.finished m (List.mem_append_right _ hm)
  | receive m rest hmessages =>
    refine Or.inr ⟨h.shared, h.working, fun n hn => h.finished n ?_⟩
    change n ∈ rest ++ (s.received ++ [m]) at hn
    simp only [hmessages, List.mem_append, List.mem_cons, List.not_mem_nil, or_false] at hn ⊢
    tauto

/-- The facts hold as long as no job is doomed. -/
theorem Reachable.calm (h : s.Reachable p jobs sh) {rule : DoomRule p}
    (facts : UnlessRule p rule) (hinit : facts.calm sh) : s.HasCause rule ∨ s.Calm facts := by
  induction h with
  | refl =>
    refine Or.inr ⟨hinit, fun w j l hw => ?_, fun m hm => ?_⟩
    · cases hw
    · cases hm
  | tail _ hstep ih =>
    rcases ih with hcause | hcalm
    · exact Or.inl (hcause.step hstep)
    · exact hcalm.step hstep

/-! ### When all is done -/

/-- Nobody ends by a step to something else. -/
lemma of_update_ended {P : Prop} {w : Fin W} {worker : PoolWorker J L}
    (h : ∀ v, s.workers v = .ended → P) (hworker : worker ≠ .ended) :
    ∀ v, Function.update s.workers w worker v = .ended → P := by
  intro v hv
  by_cases hsame : v = w
  · subst hsame
    rw [Function.update_self] at hv
    exact absurd hv hworker
  · rw [Function.update_of_ne hsame] at hv
    exact h v hv

/-- Workers only end when the queue is empty, or when they are to stop. -/
lemma Reachable.queue_of_ended (h : s.Reachable p jobs sh)
    (hmono : ∀ {j l s l' s'}, p.work j (l, s) (l', s') → p.mayStop s → p.mayStop s') :
    ∀ w, s.workers w = .ended → p.mayStop s.shared ∨ s.queue = [] := by
  induction h with
  | refl =>
    rintro v ⟨⟩
  | @tail u t _ hstep ih =>
    cases hstep with
    | leave v hv hstop => exact fun _ _ => Or.inl hstop
    | look v hv => exact of_update_ended ih (by rintro ⟨⟩)
    | take v j rest hv hqueue =>
      intro x hx
      refine (of_update_ended ih (by rintro ⟨⟩) x hx).imp_right fun hempty => ?_
      rw [hqueue] at hempty
      cases hempty
    | exhausted v hv hqueue => exact fun _ _ => Or.inr hqueue
    | work v j l l' sh hv hwork =>
      intro x hx
      exact (of_update_ended ih (by rintro ⟨⟩) x hx).imp_left (hmono hwork)
    | send v j l r hv _ => exact of_update_ended ih (by rintro ⟨⟩)
    | receive m rest hmessages => exact ih

/-- When no worker has crashed or left early, every job has been received once. -/
theorem Final.perm (hfinal : s.Final p) (h : s.Reachable p jobs sh) (hW : 0 < W)
    (hmono : ∀ {j l s l' s'}, p.work j (l, s) (l', s') → p.mayStop s → p.mayStop s')
    (hcrashed : ∀ w j l, s.workers w = .holding j l → ¬ p.crashed l)
    (hstop : ¬ p.mayStop s.shared) : (s.received.map Prod.fst).Perm jobs := by
  have hended : ∀ w, s.workers w = .ended := fun w =>
    (hfinal.workers w).resolve_right fun ⟨j, l, hw, hl⟩ => hcrashed w j l hw hl
  have hqueue : s.queue = [] := (h.queue_of_ended hmono ⟨0, hW⟩ (hended _)).resolve_left hstop
  have hjobs := allJobs_of_reachable h
  have hheld : ∑ w, (s.workers w).held = 0 := Finset.sum_eq_zero fun w _ => by rw [hended w]; rfl
  rw [allJobs, hqueue, hheld, hfinal.messages, List.nil_append, Multiset.coe_nil, add_zero, zero_add,
    Multiset.coe_eq_coe] at hjobs
  exact hjobs

/-! ### Termination -/

/-- How far a worker is from the end of its loop, apart from the jobs. -/
def stage : PoolWorker J L → ℕ
  | .looking => 3
  | .popping => 2
  | .holding _ _ => 1
  | .ended => 0

@[simp] lemma stage_looking : stage (.looking : PoolWorker J L) = 3 := rfl

@[simp] lemma stage_popping : stage (.popping : PoolWorker J L) = 2 := rfl

@[simp] lemma stage_holding (j : J) (l : L) : stage (.holding j l) = 1 := rfl

@[simp] lemma stage_ended : stage (.ended : PoolWorker J L) = 0 := rfl

/-- How far a worker is from the end of its job. -/
def rankOf (rank : L → ℕ) : PoolWorker J L → ℕ
  | .holding _ l => rank l
  | _ => 0

@[simp] lemma rankOf_holding (rank : L → ℕ) (j : J) (l : L) :
    rankOf rank (.holding j l) = rank l := rfl

/-- When work on a job comes to an end, the workers do. -/
lemma wellFounded_step (rank : L → ℕ)
    (hrank : ∀ {j l s l' s'}, p.work j (l, s) (l', s') → rank l' < rank l) :
    WellFounded fun t s : PoolState W J L S R => Step p s t := by
  -- jobs leave the pool, workers go on to their next stage, and the work on a job goes down
  refine wellFounded_of_measures
    (fun s => s.queue.length + ∑ w, Multiset.card (s.workers w).held)
    (fun s => ∑ w, stage (s.workers w))
    (fun s => ∑ w, rankOf rank (s.workers w) + s.messages.length) fun s t hstep => ?_
  have hcount := fun w worker => sum_update_add (fun worker : PoolWorker J L =>
    Multiset.card worker.held) s.workers w worker
  have hstage := fun w worker => sum_update_add (stage (J := J) (L := L)) s.workers w worker
  have hranks := fun w worker => sum_update_add (rankOf (J := J) rank) s.workers w worker
  cases hstep with
  | leave w hw _ =>
    have hcount := hcount w .ended
    have hstage := hstage w .ended
    simp only [hw, stage_looking, stage_ended, PoolWorker.held_looking,
      PoolWorker.held_ended] at hcount hstage
    dsimp only
    omega
  | look w hw =>
    have hcount := hcount w .popping
    have hstage := hstage w .popping
    simp only [hw, stage_looking, stage_popping, PoolWorker.held_looking,
      PoolWorker.held_popping] at hcount hstage
    dsimp only
    omega
  | take w j rest hw hqueue =>
    have hcount := hcount w (.holding j (p.start w j))
    have hstage := hstage w (.holding j (p.start w j))
    simp only [hw, stage_popping, stage_holding, PoolWorker.held_popping, PoolWorker.held_holding,
      Multiset.card_zero, Multiset.card_singleton] at hcount hstage
    simp only [hqueue, List.length_cons]
    omega
  | exhausted w hw _ =>
    have hcount := hcount w .ended
    have hstage := hstage w .ended
    simp only [hw, stage_popping, stage_ended, PoolWorker.held_popping,
      PoolWorker.held_ended] at hcount hstage
    dsimp only
    omega
  | work w j l l' sh hw hwork =>
    have hcount := hcount w (.holding j l')
    have hstage := hstage w (.holding j l')
    have hranks := hranks w (.holding j l')
    have hless := hrank hwork
    simp only [hw, stage_holding, rankOf_holding, PoolWorker.held_holding] at hcount hstage hranks
    dsimp only
    omega
  -- the job leaves the worker, which may look for another one
  | send w j l r hw _ =>
    have hcount := hcount w .looking
    simp only [hw, PoolWorker.held_holding, PoolWorker.held_looking, Multiset.card_zero,
      Multiset.card_singleton] at hcount
    dsimp only
    omega
  | receive m rest hmessages =>
    refine Or.inr ⟨rfl, Or.inr ⟨rfl, ?_⟩⟩
    simp [hmessages]

/-- As long as not all is done, there is something to do. -/
lemma exists_step (hprogress : ∀ j l sh, p.result l = none → ¬ p.crashed l →
      ∃ l' sh', p.work j (l, sh) (l', sh')) (hfinal : ¬ s.Final p) : ∃ t, Step p s t := by
  by_contra hstuck
  refine hfinal ⟨fun w => ?_, ?_⟩
  · cases hw : s.workers w with
    | looking => exact absurd ⟨_, .look w hw⟩ hstuck
    | popping =>
      cases hqueue : s.queue with
      | nil => exact absurd ⟨_, .exhausted w hw hqueue⟩ hstuck
      | cons j rest => exact absurd ⟨_, .take w j rest hw hqueue⟩ hstuck
    | holding j l =>
      refine Or.inr ⟨j, l, rfl, ?_⟩
      by_contra hcrashed
      cases hresult : p.result l with
      | none =>
        obtain ⟨l', sh', hwork⟩ := hprogress j l s.shared hresult hcrashed
        exact hstuck ⟨_, .work w j l l' sh' hw hwork⟩
      | some r => exact hstuck ⟨_, .send w j l r hw hresult⟩
    | ended => exact Or.inl rfl
  · cases hmessages : s.messages with
    | nil => rfl
    | cons m rest => exact absurd ⟨_, .receive m rest hmessages⟩ hstuck

/-- A run of the pool, which only halts when nobody has anything to do. -/
structure Run (p : JobProgram J L S R) (jobs : List J) (sh : S)
    (run : ℕ → PoolState W J L S R) : Prop where
  start : run 0 = initial W R jobs sh
  steps : IsRun (Step p) (fun _ _ => False) run

lemma Run.reachable {run : ℕ → PoolState W J L S R} (h : Run p jobs sh run) (k : ℕ) :
    (run k).Reachable p jobs sh := by
  induction k with
  | zero =>
    rw [h.start]
    exact Relation.ReflTransGen.refl
  | succ k ih =>
    rcases h.steps.step k with hstep | hidle | ⟨hsame, -⟩
    · exact ih.tail hstep
    · exact hidle.elim
    · rw [hsame]
      exact ih

/-- Every run of the pool finishes. -/
theorem Run.finishes {run : ℕ → PoolState W J L S R} (h : Run p jobs sh run) (rank : L → ℕ)
    (hrank : ∀ {j l s l' s'}, p.work j (l, s) (l', s') → rank l' < rank l)
    (hprogress : ∀ j l sh, p.result l = none → ¬ p.crashed l →
      ∃ l' sh', p.work j (l, sh) (l', sh')) : ∃ k, (run k).Final p :=
  h.steps.exists_final (fun s => s.Final p) (wellFounded_step rank hrank)
    (fun _ hk => exists_step hprogress hk) (K := 0) fun _ _ => not_false

/-! ### A worker for each job -/

/-- A worker does its steps on a job. -/
lemma steps_of_work {w : Fin W} {j : J} {l l' : L} {sh' : S}
    (h : Relation.ReflTransGen (p.work j) (l, s.shared) (l', sh'))
    (hw : s.workers w = .holding j l) : Relation.ReflTransGen (Step p) s
      { s with shared := sh', workers := Function.update s.workers w (.holding j l') } := by
  generalize htarget : (l', sh') = target at h
  induction h generalizing l' sh' with
  | refl =>
    cases htarget
    rw [← hw, Function.update_eq_self]
  | @tail middle target _ hstep ih =>
    obtain ⟨m, shm⟩ := middle
    cases htarget
    refine (ih rfl).tail ?_
    have hwork := Step.work (p := p) (s := { s with
      shared := shm, workers := Function.update s.workers w (.holding j m) }) w j m l' sh'
      (Function.update_self _ _ _) hstep
    dsimp only at hwork
    rwa [Function.update_idem] at hwork

/-- Jobs are done one after another, each by the worker it is assigned to. -/
inductive DoneInTurn (p : JobProgram J L S R) (assign : J → Fin W) :
    S → List J → List (J × R) → S → Prop
  | nil {sh : S} : DoneInTurn p assign sh [] [] sh
  | cons {sh sh₁ sh₂ : S} {j : J} {l : L} {r : R} {order : List J} {results : List (J × R)}
      (hwork : Relation.ReflTransGen (p.work j) (p.start (assign j) j, sh) (l, sh₁))
      (hresult : p.result l = some r) (hrest : DoneInTurn p assign sh₁ order results sh₂) :
      DoneInTurn p assign sh (j :: order) ((j, r) :: results) sh₂

variable {assign : J → Fin W}

/-- The workers take the jobs that they are assigned to. -/
lemma exists_steps_take (hnodup : (jobs.map assign).Nodup) (hqueue : s.queue = jobs)
    (hlooking : ∀ j ∈ jobs, s.workers (assign j) = .looking) :
    ∃ workers, Relation.ReflTransGen (Step p) s { s with queue := [], workers } ∧
      (∀ j ∈ jobs, workers (assign j) = .holding j (p.start (assign j) j)) ∧
      ∀ w, w ∉ jobs.map assign → workers w = s.workers w := by
  induction jobs generalizing s with
  | nil =>
    refine ⟨s.workers, ?_, fun j hj => ?_, fun w _ => rfl⟩
    · rw [← hqueue]
    · cases hj
  | cons j rest ih =>
    rw [List.map_cons, List.nodup_cons] at hnodup
    obtain ⟨hnew, hnodup⟩ := hnodup
    have hlook : Step p s { s with workers := Function.update s.workers (assign j) .popping } :=
      .look (assign j) (hlooking j List.mem_cons_self)
    have htake := Step.take (p := p) (s := { s with
      workers := Function.update s.workers (assign j) .popping }) (assign j) j rest
      (Function.update_self _ _ _) hqueue
    dsimp only at htake
    rw [Function.update_idem] at htake
    obtain ⟨workers, hsteps, hholding, hothers⟩ := ih (s := { s with
      queue := rest
      workers := Function.update s.workers (assign j) (.holding j (p.start (assign j) j)) })
      hnodup rfl fun i hi => by
        have hne : assign i ≠ assign j := fun heq => hnew (heq ▸ List.mem_map_of_mem hi)
        exact (Function.update_of_ne hne _ _).trans (hlooking i (List.mem_cons_of_mem j hi))
    refine ⟨workers, .head hlook (.head htake hsteps), fun i hi => ?_, fun w hw => ?_⟩
    · rcases List.mem_cons.mp hi with rfl | hi
      · exact (hothers _ hnew).trans (Function.update_self _ _ _)
      · exact hholding i hi
    · rw [List.map_cons, List.mem_cons, not_or] at hw
      exact (hothers w hw.2).trans (Function.update_of_ne hw.1 _ _)

/-- The workers do the jobs that they hold. -/
lemma exists_steps_done {order : List J} {results : List (J × R)} {sh₁ sh₂ : S}
    (h : DoneInTurn p assign sh₁ order results sh₂) (hnodup : (order.map assign).Nodup)
    (hshared : s.shared = sh₁) (hmessages : s.messages = [])
    (hholding : ∀ j ∈ order, s.workers (assign j) = .holding j (p.start (assign j) j)) :
    ∃ workers, Relation.ReflTransGen (Step p) s
        { s with shared := sh₂, workers, received := s.received ++ results } ∧
      (∀ j ∈ order, workers (assign j) = .looking) ∧
      ∀ w, w ∉ order.map assign → workers w = s.workers w := by
  induction h generalizing s with
  | nil =>
    refine ⟨s.workers, ?_, fun j hj => ?_, fun w _ => rfl⟩
    · rw [List.append_nil, ← hshared]
    · cases hj
  | @cons sh₁ sh₂ sh₃ j l r order results hwork hresult _ ih =>
    subst hshared
    rw [List.map_cons, List.nodup_cons] at hnodup
    obtain ⟨hnew, hnodup⟩ := hnodup
    have hworked := steps_of_work hwork (hholding j List.mem_cons_self)
    have hsend := Step.send (p := p) (s := { s with
      shared := sh₂, workers := Function.update s.workers (assign j) (.holding j l) }) (assign j) j l
      r (Function.update_self _ _ _) hresult
    dsimp only at hsend
    rw [Function.update_idem, hmessages] at hsend
    rw [hmessages] at hworked
    obtain ⟨workers, hsteps, hlooking, hothers⟩ := ih (s := { s with
      shared := sh₂
      workers := Function.update s.workers (assign j) .looking
      messages := []
      received := s.received ++ [(j, r)] }) hnodup rfl rfl fun i hi => by
        have hne : assign i ≠ assign j := fun heq => hnew (heq ▸ List.mem_map_of_mem hi)
        exact (Function.update_of_ne hne _ _).trans (hholding i (List.mem_cons_of_mem j hi))
    refine ⟨workers, ?_, fun i hi => ?_, fun w hw => ?_⟩
    · rw [List.append_assoc, List.singleton_append] at hsteps
      have hfinished := ((hworked.tail hsend).tail (.receive (j, r) [] rfl)).trans hsteps
      rw [hmessages]
      exact hfinished
    · rcases List.mem_cons.mp hi with rfl | hi
      · exact (hothers _ hnew).trans (Function.update_self _ _ _)
      · exact hlooking i hi
    · rw [List.map_cons, List.mem_cons, not_or] at hw
      exact (hothers w hw.2).trans (Function.update_of_ne hw.1 _ _)

/-- A worker that finds the queue empty ends. -/
lemma steps_end {w : Fin W} (hqueue : s.queue = []) (hw : s.workers w = .looking) :
    Relation.ReflTransGen (Step p) s
      { s with workers := Function.update s.workers w .ended } := by
  have hend := Step.exhausted (p := p) (s := { s with
    workers := Function.update s.workers w .popping }) w (Function.update_self _ _ _) hqueue
  dsimp only at hend
  rw [Function.update_idem] at hend
  exact .head (.look w hw) (.single hend)

/-- All workers end. -/
lemma steps_end_all (hqueue : s.queue = []) (hlooking : ∀ w, s.workers w = .looking) :
    Relation.ReflTransGen (Step p) s { s with workers := fun _ => .ended } := by
  have hsome : ∀ ended : Finset (Fin W), Relation.ReflTransGen (Step p) s
      { s with workers := fun w => if w ∈ ended then .ended else .looking } := by
    intro ended
    induction ended using Finset.induction_on with
    | empty =>
      have hsame : s.workers = fun _ => .looking := funext hlooking
      simp only [Finset.notMem_empty, if_false, ← hsame]
      exact .refl
    | @insert w ended hw ih =>
      have hinsert : (fun v => if v ∈ insert w ended then .ended else .looking) =
          Function.update (fun v => if v ∈ ended then .ended else .looking) w
            (.ended : PoolWorker J L) := by
        funext v
        by_cases hv : v = w
        · subst hv
          rw [Function.update_self, if_pos (Finset.mem_insert_self v ended)]
        · rw [Function.update_of_ne hv]
          simp only [Finset.mem_insert, hv, false_or]
      rw [hinsert]
      exact ih.trans (steps_end hqueue (if_neg hw))
  have hall := hsome Finset.univ
  simpa only [Finset.mem_univ, if_true] using hall

/-- Every job has a worker of its own, and these take their jobs before they do anything else. -/
lemma exists_reachable_taken (p : JobProgram J L S R) (assign : J → Fin W) (sh : S)
    (hnodup : (jobs.map assign).Nodup) :
    ∃ workers, Reachable p jobs sh (⟨[], workers, sh, [], []⟩ : PoolState W J L S R) ∧
      (∀ j ∈ jobs, workers (assign j) = .holding j (p.start (assign j) j)) ∧
      ∀ w, w ∉ jobs.map assign → workers w = .looking :=
  exists_steps_take (s := initial W R jobs sh) hnodup rfl fun _ _ => rfl

/-- Workers with a job each finish the jobs in any order. -/
lemma reachable_of_doneInTurn (assign : J → Fin W) {order : List J} {results : List (J × R)}
    {sh' : S} (hperm : order.Perm jobs) (hnodup : (jobs.map assign).Nodup)
    (h : DoneInTurn p assign sh order results sh') :
    Reachable p jobs sh (⟨[], fun _ => .ended, sh', [], results⟩ : PoolState W J L S R) := by
  obtain ⟨workers, htaken, hholding, hidle⟩ := exists_reachable_taken (R := R) p assign sh hnodup
  obtain ⟨workers', hdone, hlooking, hothers⟩ := exists_steps_done
    (s := ⟨[], workers, sh, [], []⟩) h ((hperm.map assign).nodup_iff.mpr hnodup) rfl rfl
    fun j hj => hholding j (hperm.mem_iff.mp hj)
  refine (htaken.trans hdone).trans (steps_end_all rfl fun w => ?_)
  by_cases hw : w ∈ order.map assign
  · obtain ⟨j, hj, rfl⟩ := List.mem_map.mp hw
    exact hlooking j hj
  · exact (hothers w hw).trans (hidle w fun hw' => hw ((hperm.map assign).mem_iff.mpr hw'))

/-- There is a run of the pool. -/
lemma exists_run (p : JobProgram J L S R) (jobs : List J) (sh : S) :
    ∃ run : ℕ → PoolState W J L S R, Run p jobs sh run := by
  have hnext : ∀ s : PoolState W J L S R, ∃ t, Step p s t ∨ t = s ∧ ∀ u, ¬ Step p s u := by
    intro s
    by_cases hstep : ∃ t, Step p s t
    · exact hstep.imp fun t ht => Or.inl ht
    · exact ⟨s, Or.inr ⟨rfl, fun u hu => hstep ⟨u, hu⟩⟩⟩
  choose next hnext using hnext
  refine ⟨fun k => next^[k] (initial W R jobs sh), rfl, ⟨fun k => ?_⟩⟩
  rw [Function.iterate_succ_apply']
  exact (hnext _).imp_right Or.inr

end PoolState

end ArcadiaTio.Lib
