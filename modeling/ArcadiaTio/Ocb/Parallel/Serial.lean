import ArcadiaTio.Ocb.Parallel.Executor

/-!
# The sequential loops

What an execution has to amount to, without workers: one ordinal after the other is read, prepared
and committed.  In windowed mode the failures of a window are seen before any of its ordinals is
committed.
-/

namespace ArcadiaTio.Ocb

/-- What an execution leaves behind: the state of the commit callback, the ordinals it was called
with, and the outcome. -/
structure Verdict (E S : Type) where
  commitState : S
  calls : List ℕ
  outcome : Outcome E

namespace BoundedOrdered

variable {M T E S : Type} (p : BoundedOrdered M T E S)

/-- Read, prepare and commit `count` ordinals from `i` on; the first failure or stop ends it. -/
def commitLoop : ℕ → ℕ → S → List ℕ → Verdict E S
  | i, 0, s, calls => ⟨s, calls, .completed i false⟩
  | i, count + 1, s, calls => match p.prepared i with
    | .error error => ⟨s, calls, .failed error⟩
    | .ok value =>
      let called := p.orderedCommit s i value
      match called.2 with
      | .error error => ⟨called.1, calls ++ [i], .failed error⟩
      | .ok .stop => ⟨called.1, calls ++ [i], .completed (i + 1) true⟩
      | .ok .continue => commitLoop (i + 1) count called.1 (calls ++ [i])

/-- The first ordinal from `i` on, below `i + count`, that fails. -/
def firstFailure : ℕ → ℕ → Option (ℕ × E)
  | _, 0 => none
  | i, count + 1 => match p.prepared i with
    | .error error => some (i, error)
    | .ok _ => firstFailure (i + 1) count

/-- The verdict of the loop over all ordinals. -/
def serialVerdict : Verdict E S := p.commitLoop 0 p.taskCount p.commitState []

/-- The verdict of the loop over the windows: up to the window of the first failure it is the
serial one, and then comes that failure. -/
def windowedVerdict : Verdict E S :=
  match p.firstFailure 0 p.taskCount with
  | none => p.serialVerdict
  | some (i, error) =>
    let before := p.commitLoop 0 (i / p.maxInFlight * p.maxInFlight) p.commitState []
    match before.outcome with
    | .completed _ false => { before with outcome := .failed error }
    | _ => before

/-- What an execution has to leave behind. -/
def verdict : Verdict E S :=
  match p.mode with
  | .sliding => p.serialVerdict
  | .windowed => p.windowedVerdict

/-! ### The loop, step by step -/

variable {p}

lemma commitLoop_zero (i : ℕ) (s : S) (calls : List ℕ) :
    p.commitLoop i 0 s calls = ⟨s, calls, .completed i false⟩ := rfl

lemma commitLoop_of_error {i : ℕ} {error : E} (h : p.prepared i = .error error) (count : ℕ) (s : S)
    (calls : List ℕ) : p.commitLoop i (count + 1) s calls = ⟨s, calls, .failed error⟩ := by
  rw [commitLoop, h]

lemma commitLoop_of_ok {i : ℕ} {value : T} (h : p.prepared i = .ok value) (count : ℕ) (s : S)
    (calls : List ℕ) : p.commitLoop i (count + 1) s calls =
      match (p.orderedCommit s i value).2 with
      | .error error => ⟨(p.orderedCommit s i value).1, calls ++ [i], .failed error⟩
      | .ok .stop => ⟨(p.orderedCommit s i value).1, calls ++ [i], .completed (i + 1) true⟩
      | .ok .continue => p.commitLoop (i + 1) count (p.orderedCommit s i value).1 (calls ++ [i]) := by
  rw [commitLoop, h]

/-- The loop ends as a whole when it ends before. -/
lemma commitLoop_mono {i count : ℕ} {s : S} {calls : List ℕ}
    (h : ∀ c, (p.commitLoop i count s calls).outcome ≠ .completed c false) {count' : ℕ}
    (hle : count ≤ count') : p.commitLoop i count' s calls = p.commitLoop i count s calls := by
  induction count generalizing i s calls count' with
  | zero => exact absurd rfl (h i)
  | succ count ih =>
    obtain ⟨count', rfl⟩ : ∃ k, count' = k + 1 := ⟨count' - 1, by omega⟩
    cases hprepared : p.prepared i with
    | error error => rw [commitLoop_of_error hprepared, commitLoop_of_error hprepared]
    | ok value =>
      rw [commitLoop_of_ok hprepared] at h
      rw [commitLoop_of_ok hprepared, commitLoop_of_ok hprepared]
      rcases hcontrol : (p.orderedCommit s i value).2 with error | _ | _
      · rfl
      · rw [hcontrol] at h
        exact ih h (by omega)
      · rfl

/-- Once it is through with all its ordinals, the loop goes on behind them. -/
lemma commitLoop_add {i count : ℕ} {s s' : S} {calls calls' : List ℕ} {c : ℕ}
    (h : p.commitLoop i count s calls = ⟨s', calls', .completed c false⟩) (k : ℕ) :
    p.commitLoop i (count + k) s calls = p.commitLoop (i + count) k s' calls' := by
  induction count generalizing i s calls with
  | zero =>
    cases h
    rw [Nat.zero_add, Nat.add_zero]
  | succ count ih =>
    cases hprepared : p.prepared i with
    | error error =>
      rw [commitLoop_of_error hprepared] at h
      cases h
    | ok value =>
      rw [commitLoop_of_ok hprepared] at h
      rw [show count + 1 + k = count + k + 1 from by omega, commitLoop_of_ok hprepared]
      rcases hcontrol : (p.orderedCommit s i value).2 with error | _ | _ <;> rw [hcontrol] at h
      · cases h
      · show p.commitLoop (i + 1) (count + k) _ _ = _
        rw [ih h]
        congr 1
        omega
      · cases h

lemma firstFailure_eq_none {i count : ℕ} :
    p.firstFailure i count = none ↔ ∀ j, i ≤ j → j < i + count → (p.prepared j).isOk = true := by
  induction count generalizing i with
  | zero =>
    constructor
    · intro _ j h₁ h₂
      omega
    · intro _
      rfl
  | succ count ih =>
    rw [firstFailure]
    cases hprepared : p.prepared i with
    | error error =>
      constructor
      · intro h
        cases h
      intro h
      have hok := h i le_rfl (by omega)
      rw [hprepared] at hok
      cases hok
    | ok value =>
      rw [ih]
      refine ⟨fun h j h₁ h₂ => ?_, fun h j h₁ h₂ => h j (by omega) (by omega)⟩
      rcases Nat.eq_or_lt_of_le h₁ with rfl | hlt
      · rw [hprepared]
        rfl
      · exact h j hlt (by omega)

lemma firstFailure_eq_some {i count j : ℕ} {error : E} :
    p.firstFailure i count = some (j, error) ↔
      i ≤ j ∧ j < i + count ∧ p.prepared j = .error error ∧
        ∀ k, i ≤ k → k < j → (p.prepared k).isOk = true := by
  induction count generalizing i with
  | zero =>
    constructor
    · intro h
      cases h
    · rintro ⟨h₁, h₂, -, -⟩
      omega
  | succ count ih =>
    rw [firstFailure]
    cases hprepared : p.prepared i with
    | error error' =>
      constructor
      · intro h
        cases h
        exact ⟨le_rfl, by omega, hprepared, fun k h₁ h₂ => by omega⟩
      · rintro ⟨h₁, -, herror, hbefore⟩
        rcases Nat.eq_or_lt_of_le h₁ with rfl | hlt
        · rw [hprepared] at herror
          cases herror
          rfl
        · have hok := hbefore i le_rfl hlt
          rw [hprepared] at hok
          cases hok
    | ok value =>
      rw [ih]
      constructor
      · rintro ⟨h₁, h₂, herror, hbefore⟩
        refine ⟨by omega, by omega, herror, fun k hk₁ hk₂ => ?_⟩
        rcases Nat.eq_or_lt_of_le hk₁ with rfl | hlt
        · rw [hprepared]
          rfl
        · exact hbefore k hlt hk₂
      · rintro ⟨h₁, h₂, herror, hbefore⟩
        rcases Nat.eq_or_lt_of_le h₁ with rfl | hlt
        · rw [hprepared] at herror
          cases herror
        · exact ⟨hlt, by omega, herror, fun k hk₁ hk₂ => hbefore k (by omega) hk₂⟩

/-! ### The verdict, case by case -/

variable (p)

/-- The state of the commit callback once the ordinals below `i` have been committed. -/
def stateBefore : ℕ → S
  | 0 => p.commitState
  | i + 1 => match p.prepared i with
    | .error _ => stateBefore i
    | .ok value => (p.orderedCommit (stateBefore i) i value).1

/-- What becomes of ordinal `i` when the ordinals before it have been committed. -/
def control (i : ℕ) : Except E ColumnBundleVisitControl :=
  p.prepared i >>= fun value => (p.orderedCommit (p.stateBefore i) i value).2

variable {p}

lemma control_of_error {i : ℕ} {error : E} (h : p.prepared i = .error error) :
    p.control i = .error error := by
  rw [control, h]
  rfl

lemma control_of_ok {i : ℕ} {value : T} (h : p.prepared i = .ok value) :
    p.control i = (p.orderedCommit (p.stateBefore i) i value).2 := by
  rw [control, h]
  rfl

lemma stateBefore_succ {i : ℕ} {value : T} (h : p.prepared i = .ok value) :
    p.stateBefore (i + 1) = (p.orderedCommit (p.stateBefore i) i value).1 := by
  rw [stateBefore, h]

/-- When the commits of the first ordinals are those of the elements of a list, the state is that of
the loop over the list. -/
lemma stateBefore_eq_foldl {A : Type} {commit : S → A → S × Except E ColumnBundleVisitControl}
    {l : List A} (h : ∀ i a, l[i]? = some a → ∃ value, p.prepared i = .ok value ∧
      ∀ s, p.orderedCommit s i value = commit s a) :
    p.stateBefore l.length = l.foldl (fun s a => (commit s a).1) p.commitState := by
  induction l using List.reverseRecOn with
  | nil => rfl
  | append_singleton l a ih =>
    obtain ⟨value, hvalue, hcommit⟩ := h l.length a (by simp)
    have hbefore : p.stateBefore l.length = l.foldl (fun s a => (commit s a).1) p.commitState := by
      refine ih fun i b hb => h i b ?_
      rw [List.getElem?_append_left (List.getElem?_eq_some_iff.mp hb).1, hb]
    rw [List.length_append, List.length_singleton, stateBefore_succ hvalue, hcommit, hbefore,
      List.foldl_append]
    rfl

/-- The control of an ordinal is what the callback says after the ordinals before it. -/
lemma control_eq_foldl {A : Type} {commit : S → A → S × Except E ColumnBundleVisitControl}
    {l : List A} (h : ∀ i a, l[i]? = some a → ∃ value, p.prepared i = .ok value ∧
      ∀ s, p.orderedCommit s i value = commit s a) {i : ℕ} {a : A} (ha : l[i]? = some a) :
    p.control i =
      (commit ((l.take i).foldl (fun s a => (commit s a).1) p.commitState) a).2 := by
  obtain ⟨value, hvalue, hcommit⟩ := h i a ha
  have hi := (List.getElem?_eq_some_iff.mp ha).1
  have hbefore := stateBefore_eq_foldl (l := l.take i) fun j b hb => by
    have hj := (List.getElem?_eq_some_iff.mp hb).1
    rw [List.length_take] at hj
    rw [List.getElem?_take_of_lt (by omega)] at hb
    exact h j b hb
  rw [List.length_take_of_le hi.le] at hbefore
  rw [control_of_ok hvalue, hcommit, hbefore]

/-- Whatever is not an error of the read or of the preparation has been prepared. -/
lemma prepared_of_control {i : ℕ} {control : ColumnBundleVisitControl}
    (h : p.control i = .ok control) : ∃ value, p.prepared i = .ok value := by
  cases hprepared : p.prepared i with
  | ok value => exact ⟨value, rfl⟩
  | error error =>
    rw [control_of_error hprepared] at h
    cases h

/-- As long as every commit says to continue, the loop goes on. -/
lemma commitLoop_of_continue {i : ℕ} (h : ∀ j < i, p.control j = .ok .continue) :
    p.commitLoop 0 i p.commitState [] = ⟨p.stateBefore i, List.range i, .completed i false⟩ := by
  induction i with
  | zero => rfl
  | succ i ih =>
    obtain ⟨value, hprepared⟩ := prepared_of_control (h i (Nat.lt_succ_self i))
    have hcontrol := h i (Nat.lt_succ_self i)
    rw [control_of_ok hprepared] at hcontrol
    rw [commitLoop_add (ih fun j hj => h j (by omega)) 1, Nat.zero_add, commitLoop_of_ok hprepared,
      hcontrol, stateBefore_succ hprepared, List.range_succ]
    rfl

/-- The loop behind the ordinals whose commits say to continue. -/
lemma commitLoop_behind {i count : ℕ} (hle : i ≤ count)
    (h : ∀ j < i, p.control j = .ok .continue) :
    p.commitLoop 0 count p.commitState [] =
      p.commitLoop i (count - i) (p.stateBefore i) (List.range i) := by
  have hloop := commitLoop_add (commitLoop_of_continue h) (count - i)
  rwa [Nat.add_sub_cancel' hle, Nat.zero_add] at hloop

/-- A failure of the read or of the preparation ends the loop before the commit. -/
lemma commitLoop_of_failure {i count : ℕ} (hi : i < count)
    (h : ∀ j < i, p.control j = .ok .continue) {error : E} (herror : p.prepared i = .error error) :
    p.commitLoop 0 count p.commitState [] = ⟨p.stateBefore i, List.range i, .failed error⟩ := by
  rw [commitLoop_behind hi.le h, show count - i = count - i - 1 + 1 from by omega,
    commitLoop_of_error herror]

/-- A commit that fails or stops ends the loop after it. -/
lemma commitLoop_of_commit {i count : ℕ} (hi : i < count)
    (h : ∀ j < i, p.control j = .ok .continue) {value : T} (hvalue : p.prepared i = .ok value)
    (hend : p.control i ≠ .ok .continue) :
    p.commitLoop 0 count p.commitState [] = ⟨p.stateBefore (i + 1), List.range (i + 1),
      match p.control i with
      | .error error => .failed error
      | .ok _ => .completed (i + 1) true⟩ := by
  rw [control_of_ok hvalue] at hend ⊢
  rw [commitLoop_behind hi.le h, show count - i = count - i - 1 + 1 from by omega,
    commitLoop_of_ok hvalue, stateBefore_succ hvalue, List.range_succ]
  rcases hcontrol : (p.orderedCommit (p.stateBefore i) i value).2 with error | _ | _
  · rfl
  · exact absurd hcontrol hend
  · rfl

/-- Either every commit says to continue, or there is a first ordinal that does not get so far. -/
lemma continue_or_first (count : ℕ) : (∀ i < count, p.control i = .ok .continue) ∨
    ∃ i < count, (∀ j < i, p.control j = .ok .continue) ∧ p.control i ≠ .ok .continue := by
  induction count with
  | zero => exact Or.inl fun i hi => absurd hi (Nat.not_lt_zero i)
  | succ count ih =>
    rcases ih with hall | ⟨i, hi, hfirst⟩
    · by_cases hlast : p.control count = .ok .continue
      · left
        intro i hi
        rcases Nat.lt_succ_iff_lt_or_eq.mp hi with hlt | rfl
        · exact hall i hlt
        · exact hlast
      · exact Or.inr ⟨count, Nat.lt_succ_self count, hall, hlast⟩
    · exact Or.inr ⟨i, hi.trans (Nat.lt_succ_self count), hfirst⟩

/-- What the loop leaves behind: the ordinals of its calls, and how it ends. -/
lemma commitLoop_calls (count : ℕ) :
    ∃ k ≤ count, (p.commitLoop 0 count p.commitState []).calls = List.range k := by
  rcases continue_or_first (p := p) count with hall | ⟨i, hi, hbefore, hend⟩
  · exact ⟨count, le_rfl, by rw [commitLoop_of_continue hall]⟩
  · cases hprepared : p.prepared i with
    | error error => exact ⟨i, hi.le, by rw [commitLoop_of_failure hi hbefore hprepared]⟩
    | ok value => exact ⟨i + 1, hi, by rw [commitLoop_of_commit hi hbefore hprepared hend]⟩

/-- When some commit does not say to continue, the loop does not get through. -/
lemma commitLoop_ended {count : ℕ} (h : ∃ i < count, p.control i ≠ .ok .continue) (c : ℕ) :
    (p.commitLoop 0 count p.commitState []).outcome ≠ .completed c false := by
  rcases continue_or_first (p := p) count with hall | ⟨i, hi, hbefore, hend⟩
  · obtain ⟨i, hi, hend⟩ := h
    exact absurd (hall i hi) hend
  · cases hprepared : p.prepared i with
    | error error =>
      rw [commitLoop_of_failure hi hbefore hprepared]
      rintro ⟨⟩
    | ok value =>
      rw [commitLoop_of_commit hi hbefore hprepared hend]
      cases p.control i <;> rintro ⟨⟩

/-- The loop gets through exactly when every commit says to continue. -/
lemma commitLoop_completed_iff {count : ℕ} :
    (p.commitLoop 0 count p.commitState []).outcome = .completed count false ↔
      ∀ i < count, p.control i = .ok .continue := by
  constructor
  · intro houtcome
    by_contra hsome
    push Not at hsome
    exact commitLoop_ended hsome count houtcome
  · intro hall
    rw [commitLoop_of_continue hall]

/-! ### The loop over the windows, case by case -/

lemma windowedVerdict_of_none (h : p.firstFailure 0 p.taskCount = none) :
    p.windowedVerdict = p.serialVerdict := by
  rw [windowedVerdict, h]

/-- With a failure, nothing of its window and the later ones is committed. -/
lemma windowedVerdict_calls {i : ℕ} {error : E}
    (h : p.firstFailure 0 p.taskCount = some (i, error)) : p.windowedVerdict.calls =
      (p.commitLoop 0 (i / p.maxInFlight * p.maxInFlight) p.commitState []).calls := by
  rw [windowedVerdict, h]
  dsimp only
  split <;> rfl

lemma windowedVerdict_commitState {i : ℕ} {error : E}
    (h : p.firstFailure 0 p.taskCount = some (i, error)) : p.windowedVerdict.commitState =
      (p.commitLoop 0 (i / p.maxInFlight * p.maxInFlight) p.commitState []).commitState := by
  rw [windowedVerdict, h]
  dsimp only
  split <;> rfl

/-- When the windows before the failure get through, the verdict is the failure. -/
lemma windowedVerdict_of_failure {i : ℕ} {error : E}
    (h : p.firstFailure 0 p.taskCount = some (i, error))
    (hbefore : ∀ j < i / p.maxInFlight * p.maxInFlight, p.control j = .ok .continue) :
    p.windowedVerdict = ⟨p.stateBefore (i / p.maxInFlight * p.maxInFlight),
      List.range (i / p.maxInFlight * p.maxInFlight), .failed error⟩ := by
  simp only [windowedVerdict, h, commitLoop_of_continue hbefore]

/-- When they do not get through, it is that of the sequential loop. -/
lemma windowedVerdict_of_ended {i : ℕ} {error : E}
    (h : p.firstFailure 0 p.taskCount = some (i, error))
    (hended : ∃ j < i / p.maxInFlight * p.maxInFlight, p.control j ≠ .ok .continue) :
    p.windowedVerdict = p.serialVerdict := by
  obtain ⟨-, hi, -, -⟩ := firstFailure_eq_some.mp h
  have hle : i / p.maxInFlight * p.maxInFlight ≤ p.taskCount := by
    have hdiv := Nat.div_mul_le_self i p.maxInFlight
    omega
  rw [serialVerdict, commitLoop_mono (commitLoop_ended hended) hle, windowedVerdict, h]
  dsimp only
  split
  · next c houtcome => exact absurd houtcome (commitLoop_ended hended c)
  · rfl

end BoundedOrdered

end ArcadiaTio.Ocb
