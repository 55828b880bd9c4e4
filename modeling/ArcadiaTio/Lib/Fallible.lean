import Mathlib.Tactic.Lemma
import Mathlib.Data.Nat.Notation
import Mathlib.Data.List.Forall2

/-!
# Fallible computations

A function that may fail is an `Except ε α`, and a function that may fail and also
updates a state which *outlives* the failure is a `Fallible ε σ α`.  This file collects
the small vocabulary both are written in, and the two ways of reasoning about them:

* inversion: what a successful bind, guard or loop says about its parts
  (`bind_eq_ok`, `failIf_eq_ok`, `forM_eq_ok`, `mapM_eq_ok`);
* error classes: `ErrorsIn P x` says that every error of `x` satisfies `P`, and it
  is established by following the structure of `x`.
-/

namespace ArcadiaTio.Lib

universe u v w

variable {ε : Type v} {α β : Type u}

/-! ### Guards and optional values -/

/-- Fail with `e` when `c` holds. -/
def failIf (c : Prop) [Decidable c] (e : ε) : Except ε Unit :=
  if c then .error e else .ok ()

/-- The value of an option, or the failure `e`. -/
def okOr (o : Option α) (e : ε) : Except ε α :=
  match o with
  | some a => .ok a
  | none => .error e

/-- Whether a computation returned a value. -/
def IsOk (x : Except ε α) : Prop := ∃ a, x = .ok a

section Inversion

variable {x : Except ε α} {f : α → Except ε β} {a : α} {b : β} {e e' : ε}

@[simp] lemma ok_bind : (Except.ok a >>= f : Except ε β) = f a := rfl

@[simp] lemma error_bind : (Except.error e >>= f : Except ε β) = .error e := rfl

@[simp] lemma pure_eq_ok : (pure a : Except ε α) = .ok a := rfl

lemma bind_eq_ok : (x >>= f) = .ok b ↔ ∃ a, x = .ok a ∧ f a = .ok b := by
  cases x <;> simp

lemma bind_eq_error :
    (x >>= f) = .error e ↔ x = .error e ∨ ∃ a, x = .ok a ∧ f a = .error e := by
  cases x <;> simp

lemma map_eq_ok {g : α → β} : (g <$> x) = .ok b ↔ ∃ a, x = .ok a ∧ g a = b := by
  cases x <;> simp [Functor.map, Except.map]

lemma map_eq_error {g : α → β} : (g <$> x) = .error e ↔ x = .error e := by
  cases x <;> simp [Functor.map, Except.map]

lemma isOk_map {g : α → β} : IsOk (g <$> x) ↔ IsOk x := by
  cases x <;> simp [IsOk, Functor.map, Except.map]

lemma isOk_bind : IsOk (x >>= f) ↔ ∃ a, x = .ok a ∧ IsOk (f a) := by
  cases x <;> simp [IsOk]

@[simp] lemma isOk_ok : IsOk (Except.ok a : Except ε α) := ⟨a, rfl⟩

@[simp] lemma not_isOk_error : ¬ IsOk (Except.error e : Except ε α) := by
  rintro ⟨a, h⟩
  cases h

lemma failIf_eq_ok {c : Prop} [Decidable c] {u : Unit} : failIf c e = .ok u ↔ ¬ c := by
  by_cases h : c <;> simp [failIf, h]

lemma failIf_eq_error {c : Prop} [Decidable c] :
    failIf c e = .error e' ↔ c ∧ e = e' := by
  by_cases h : c <;> simp [failIf, h]

@[simp] lemma failIf_pos {c : Prop} [Decidable c] (h : c) : failIf c e = .error e := if_pos h

@[simp] lemma failIf_neg {c : Prop} [Decidable c] (h : ¬ c) : failIf c e = .ok () := if_neg h

lemma okOr_eq_ok {o : Option α} : okOr o e = .ok a ↔ o = some a := by
  cases o <;> simp [okOr]

lemma okOr_eq_error {o : Option α} : okOr o e = .error e' ↔ o = none ∧ e = e' := by
  cases o <;> simp [okOr]

@[simp] lemma okOr_some : okOr (some a) e = .ok a := rfl

@[simp] lemma okOr_none : okOr (none : Option α) e = .error e := rfl

end Inversion

/-! ### Loops over a list -/

lemma forM_eq_ok {l : List α} {f : α → Except ε PUnit} {u : PUnit} :
    forM l f = .ok u ↔ ∀ a ∈ l, f a = .ok ⟨⟩ := by
  induction l with
  | nil => simp
  | cons a l ih =>
    simp only [List.forM_cons, bind_eq_ok, ih, List.mem_cons, forall_eq_or_imp]
    exact ⟨fun ⟨_, h⟩ => h, fun h => ⟨⟨⟩, h⟩⟩

lemma mapM_eq_ok {l : List α} {f : α → Except ε β} {bs : List β} :
    l.mapM f = .ok bs ↔ List.Forall₂ (fun a b => f a = .ok b) l bs := by
  induction l generalizing bs with
  | nil => cases bs <;> simp
  | cons a l ih =>
    cases bs with
    | nil => simp [List.mapM_cons, bind_eq_ok]
    | cons b bs =>
      simp only [List.mapM_cons, bind_eq_ok, ih, pure_eq_ok, List.forall₂_cons, Except.ok.injEq,
        List.cons.injEq]
      constructor
      · rintro ⟨b', hb, bs', hbs, rfl, rfl⟩
        exact ⟨hb, hbs⟩
      · rintro ⟨hb, hbs⟩
        exact ⟨b, hb, bs, hbs, rfl, rfl⟩

lemma isOk_mapM {l : List α} {f : α → Except ε β} : IsOk (l.mapM f) ↔ ∀ a ∈ l, IsOk (f a) := by
  induction l with
  | nil => simp
  | cons a l ih =>
    simp only [List.mapM_cons, isOk_bind, List.mem_cons, forall_eq_or_imp, ← ih]
    constructor
    · rintro ⟨b, hb, bs, hbs, -⟩
      exact ⟨⟨b, hb⟩, bs, hbs⟩
    · rintro ⟨⟨b, hb⟩, bs, hbs⟩
      exact ⟨b, hb, bs, hbs, isOk_ok⟩

/-- Two loops that do the same on the elements of a list do the same. -/
lemma mapM_congr_left {l : List α} {f g : α → Except ε β} (h : ∀ a ∈ l, f a = g a) :
    l.mapM f = l.mapM g := by
  induction l with
  | nil => rfl
  | cons a l ih =>
    rw [List.mapM_cons, List.mapM_cons, h a (by simp), ih fun b hb => h b (by simp [hb])]

/-- A loop that looks every element up. -/
lemma mapM_okOr {l : List α} {f : α → Option β} {e : ε} (h : ∀ a ∈ l, (f a).isSome) :
    l.mapM (fun a => okOr (f a) e) = .ok (l.filterMap f) := by
  induction l with
  | nil => rfl
  | cons a l ih =>
    obtain ⟨b, hb⟩ := Option.isSome_iff_exists.mp (h a (by simp))
    rw [List.mapM_cons, hb, okOr_some, ok_bind, ih fun x hx => h x (by simp [hx]), ok_bind,
      List.filterMap_cons_some hb]
    rfl

/-- Two conversions in one loop are one loop after the other, when all succeed. -/
lemma mapM_bind_eq_ok {γ : Type u} {l : List α} {f : α → Except ε β} {g : β → Except ε γ}
    {cs : List γ} :
    l.mapM (fun a => f a >>= g) = .ok cs ↔ ∃ bs, l.mapM f = .ok bs ∧ bs.mapM g = .ok cs := by
  induction l generalizing cs with
  | nil => simp
  | cons a l ih =>
    simp only [List.mapM_cons, bind_eq_ok, ih, pure_eq_ok, Except.ok.injEq]
    constructor
    · rintro ⟨c, ⟨b, hb, hc⟩, cs', ⟨bs, hbs, hcs⟩, rfl⟩
      refine ⟨b :: bs, ⟨b, hb, bs, hbs, rfl⟩, ?_⟩
      rw [List.mapM_cons, hc, ok_bind, hcs]
      rfl
    · rintro ⟨-, ⟨b, hb, bs, hbs, rfl⟩, hcs⟩
      rw [List.mapM_cons] at hcs
      obtain ⟨c, hc, hcs⟩ := bind_eq_ok.mp hcs
      obtain ⟨cs', hcs', hcs⟩ := bind_eq_ok.mp hcs
      cases hcs
      exact ⟨c, ⟨b, hb, hc⟩, cs', ⟨bs, hbs, hcs'⟩, rfl⟩

/-- The first failure of a loop is its failure. -/
lemma mapM_of_error {l₁ l₂ : List α} {a : α} {f : α → Except ε β} {e : ε}
    (hbefore : ∀ x ∈ l₁, IsOk (f x)) (ha : f a = .error e) :
    (l₁ ++ a :: l₂).mapM f = .error e := by
  induction l₁ with
  | nil => simp [List.mapM_cons, ha]
  | cons x l₁ ih =>
    obtain ⟨b, hb⟩ := hbefore x (by simp)
    rw [List.cons_append, List.mapM_cons, hb, ok_bind, ih fun y hy => hbefore y (by simp [hy]),
      error_bind]

/-- A left fold that keeps `I` at every step reaches the end with `I`. -/
lemma foldlM_induct {l : List α} {f : β → α → Except ε β} {b b' : β}
    (I : β → List α → Prop) (h0 : I b l)
    (hstep : ∀ b b' a l, I b (a :: l) → f b a = .ok b' → I b' l)
    (h : l.foldlM f b = .ok b') : I b' [] := by
  induction l generalizing b with
  | nil =>
    simp only [List.foldlM_nil, pure_eq_ok, Except.ok.injEq] at h
    exact h ▸ h0
  | cons a l ih =>
    simp only [List.foldlM_cons, bind_eq_ok] at h
    obtain ⟨b₁, hb₁, h⟩ := h
    exact ih (hstep _ _ _ _ h0 hb₁) h

section Folds

variable {γ δ : Type u}

/-- A loop over pieces is the loop over what they hold. -/
lemma foldlM_flatMap {l : List α} {pieces : α → List β} {f : γ → β → Except ε γ} {c : γ} :
    (l.flatMap pieces).foldlM f c = l.foldlM (fun c a => (pieces a).foldlM f c) c := by
  induction l generalizing c with
  | nil => rfl
  | cons a l ih =>
    rw [List.flatMap_cons, List.foldlM_append, List.foldlM_cons]
    exact congrArg _ (funext fun c => ih)

/-- A loop that first converts each element is the loop over the converted elements. -/
lemma foldlM_convert_eq_ok {l : List α} {convert : α → Except ε β} {f : γ → β → Except ε γ}
    {c c' : γ} :
    l.foldlM (fun c a => convert a >>= f c) c = .ok c' ↔
      ∃ bs, l.mapM convert = .ok bs ∧ bs.foldlM f c = .ok c' := by
  induction l generalizing c with
  | nil => simp
  | cons a l ih =>
    simp only [List.foldlM_cons, List.mapM_cons, bind_eq_ok, ih, pure_eq_ok, Except.ok.injEq]
    constructor
    · rintro ⟨next, ⟨b, hb, hnext⟩, bs, hbs, hrest⟩
      exact ⟨b :: bs, ⟨b, hb, bs, hbs, rfl⟩, by rw [List.foldlM_cons, hnext, ok_bind, hrest]⟩
    · rintro ⟨-, ⟨b, hb, bs, hbs, rfl⟩, hrest⟩
      rw [List.foldlM_cons] at hrest
      obtain ⟨next, hnext, hrest⟩ := bind_eq_ok.mp hrest
      exact ⟨next, ⟨b, hb, hnext⟩, bs, hbs, hrest⟩

/-- A loop with two independent states is one loop for each of them. -/
lemma foldlM_pair_eq_ok {l : List α} {f : γ → α → Except ε γ} {g : δ → α → Except ε δ}
    {s s' : γ × δ} :
    l.foldlM (fun s a => do
        let c ← f s.1 a
        let d ← g s.2 a
        return (c, d)) s = .ok s' ↔
      l.foldlM f s.1 = .ok s'.1 ∧ l.foldlM g s.2 = .ok s'.2 := by
  induction l generalizing s with
  | nil =>
    obtain ⟨c, d⟩ := s
    obtain ⟨c', d'⟩ := s'
    simp
  | cons a l ih =>
    rw [List.foldlM_cons, List.foldlM_cons, List.foldlM_cons, bind_eq_ok, bind_eq_ok, bind_eq_ok]
    constructor
    · rintro ⟨next, hnext, hrest⟩
      obtain ⟨c, hc, hnext⟩ := bind_eq_ok.mp hnext
      obtain ⟨d, hd, hnext⟩ := bind_eq_ok.mp hnext
      cases hnext
      obtain ⟨hf, hg⟩ := ih.mp hrest
      exact ⟨⟨c, hc, hf⟩, d, hd, hg⟩
    · rintro ⟨⟨c, hc, hf⟩, d, hd, hg⟩
      refine ⟨(c, d), ?_, ih.mpr ⟨hf, hg⟩⟩
      rw [hc, ok_bind, hd]
      rfl

end Folds

/-! ### Error classes -/

/-- Every error of `x` satisfies `P`. -/
def ErrorsIn (P : ε → Prop) (x : Except ε α) : Prop := ∀ e, x = .error e → P e

namespace ErrorsIn

variable {P Q : ε → Prop} {x : Except ε α} {f : α → Except ε β}

protected lemma ok (a : α) : ErrorsIn P (Except.ok a : Except ε α) := by
  intro e h
  cases h

protected lemma error {e : ε} (h : P e) : ErrorsIn P (Except.error e : Except ε α) := by
  intro e' he
  cases he
  exact h

protected lemma bind (hx : ErrorsIn P x) (hf : ∀ a, x = .ok a → ErrorsIn P (f a)) :
    ErrorsIn P (x >>= f) := by
  intro e h
  rcases bind_eq_error.mp h with h | ⟨a, ha, h⟩
  · exact hx e h
  · exact hf a ha e h

protected lemma failIf {c : Prop} [Decidable c] {e : ε} (h : c → P e) : ErrorsIn P (failIf c e) := by
  intro e' he
  obtain ⟨hc, rfl⟩ := failIf_eq_error.mp he
  exact h hc

protected lemma okOr {o : Option α} {e : ε} (h : P e) : ErrorsIn P (okOr o e) := by
  intro e' he
  obtain ⟨-, rfl⟩ := okOr_eq_error.mp he
  exact h

protected lemma forM {l : List α} {g : α → Except ε PUnit} (h : ∀ a ∈ l, ErrorsIn P (g a)) :
    ErrorsIn P (forM l g) := by
  induction l with
  | nil => exact ErrorsIn.ok _
  | cons a l ih =>
    rw [List.forM_cons]
    exact (h a (by simp)).bind fun _ _ => ih fun a' ha' => h a' (by simp [ha'])

protected lemma mapM {l : List α} {g : α → Except ε β} (h : ∀ a ∈ l, ErrorsIn P (g a)) :
    ErrorsIn P (l.mapM g) := by
  induction l with
  | nil => exact ErrorsIn.ok _
  | cons a l ih =>
    rw [List.mapM_cons]
    exact (h a (by simp)).bind fun _ _ =>
      (ih fun a' ha' => h a' (by simp [ha'])).bind fun _ _ => ErrorsIn.ok _

protected lemma map {g : α → β} (hx : ErrorsIn P x) : ErrorsIn P (g <$> x) :=
  fun e h => hx e (map_eq_error.mp h)

lemma mono (hx : ErrorsIn P x) (h : ∀ e, P e → Q e) : ErrorsIn Q x := fun e he => h e (hx e he)

end ErrorsIn

/-- The computation fails, with an error that satisfies `P`. -/
def FailsIn (P : ε → Prop) (x : Except ε α) : Prop := ∃ e, x = .error e ∧ P e

section FailsIn

variable {P : ε → Prop} {x : Except ε α} {f : α → Except ε β}

@[simp] lemma failsIn_error {e : ε} : FailsIn P (Except.error e : Except ε α) ↔ P e := by
  simp [FailsIn]

@[simp] lemma not_failsIn_ok {a : α} : ¬ FailsIn P (Except.ok a : Except ε α) := by
  simp [FailsIn]

lemma failsIn_bind : FailsIn P (x >>= f) ↔ FailsIn P x ∨ ∃ a, x = .ok a ∧ FailsIn P (f a) := by
  cases x <;> simp

lemma failsIn_map {g : α → β} : FailsIn P (g <$> x) ↔ FailsIn P x := by
  cases x <;> simp [Functor.map, Except.map]

lemma failsIn_failIf {c : Prop} [Decidable c] {e : ε} : FailsIn P (failIf c e) ↔ c ∧ P e := by
  by_cases h : c <;> simp [h]

/-- When every error satisfies `P`, to fail at all is to fail in `P`. -/
lemma ErrorsIn.failsIn_iff (h : ErrorsIn P x) : FailsIn P x ↔ ¬ IsOk x := by
  cases x with
  | ok a => simp
  | error e => simpa using h e rfl

/-- When no error satisfies `P`, the computation does not fail in `P`. -/
lemma ErrorsIn.not_failsIn (h : ErrorsIn (fun e => ¬ P e) x) : ¬ FailsIn P x := by
  rintro ⟨e, he, hP⟩
  exact h e he hP

end FailsIn

/-! ### Failing with a surviving state -/

/-- A computation that may fail and that leaves a state behind in either case. -/
structure Fallible (ε : Type v) (σ : Type w) (α : Type u) where
  run : σ → Except ε α × σ

namespace Fallible

variable {σ : Type w}

/-- Continue after the first of two steps: run the second on its value and on the state it
left, or hand on its error together with that state. -/
def andThen (f : α → Fallible ε σ β) : Except ε α × σ → Except ε β × σ
  | (.ok a, s) => (f a).run s
  | (.error e, s) => (.error e, s)

instance : Monad (Fallible.{u} ε σ) where
  pure a := ⟨fun s => (.ok a, s)⟩
  bind x f := ⟨fun s => andThen f (x.run s)⟩

instance : MonadLift (Except ε) (Fallible.{u} ε σ) where
  monadLift x := ⟨fun s => (x, s)⟩

/-- Fail and keep the state. -/
def fail (e : ε) : Fallible ε σ α := ⟨fun s => (.error e, s)⟩

/-- Read the state. -/
def getState {σ : Type u} : Fallible ε σ σ := ⟨fun s => (.ok s, s)⟩

/-- Replace the state. -/
def setState (s' : σ) : Fallible ε σ PUnit := ⟨fun _ => (.ok ⟨⟩, s')⟩

section Run

variable {x : Fallible ε σ α} {f : α → Fallible ε σ β} {s t : σ} {a : α} {b : β} {e : ε}

@[simp] lemma run_pure : (pure a : Fallible ε σ α).run s = (.ok a, s) := rfl

@[simp] lemma run_lift {y : Except ε α} : (liftM y : Fallible ε σ α).run s = (y, s) := rfl

@[simp] lemma run_fail : (fail e : Fallible ε σ α).run s = (.error e, s) := rfl

@[simp] lemma run_getState {σ : Type u} {s : σ} :
    (getState : Fallible ε σ σ).run s = (.ok s, s) := rfl

@[simp] lemma run_setState : (setState t : Fallible ε σ PUnit).run s = (.ok ⟨⟩, t) := rfl

@[simp] lemma andThen_ok : andThen f (.ok a, s) = (f a).run s := rfl

@[simp] lemma andThen_error : andThen f (.error e, s) = (.error e, s) := rfl

lemma run_bind : (x >>= f).run s = andThen f (x.run s) := rfl

lemma run_bind_of_ok (h : x.run s = (.ok a, t)) : (x >>= f).run s = (f a).run t := by
  rw [run_bind, h, andThen_ok]

lemma run_bind_of_error (h : x.run s = (.error e, t)) : (x >>= f).run s = (.error e, t) := by
  rw [run_bind, h, andThen_error]

lemma run_bind_eq_ok :
    (x >>= f).run s = (.ok b, t) ↔ ∃ a s₁, x.run s = (.ok a, s₁) ∧ (f a).run s₁ = (.ok b, t) := by
  rw [run_bind]
  rcases x.run s with ⟨_ | a, s₁⟩ <;> simp

@[simp] lemma lift_ok_bind :
    ((liftM (Except.ok a : Except ε α) : Fallible ε σ α) >>= f) = f a := rfl

lemma bind_assoc {γ : Type u} {g : β → Fallible ε σ γ} :
    x >>= f >>= g = x >>= fun a => f a >>= g := by
  refine congrArg Fallible.mk (funext fun s => ?_)
  change andThen g (andThen f (x.run s)) = andThen _ (x.run s)
  rcases x.run s with ⟨_ | a, t⟩ <;> rfl

/-- A loop whose body leaves the state alone is a loop without the state. -/
lemma foldlM_lift {l : List β} {g : α → β → Except ε α} {a : α} :
    l.foldlM (fun a b => (liftM (g a b) : Fallible ε σ α)) a =
      (liftM (l.foldlM g a) : Fallible ε σ α) := by
  induction l generalizing a with
  | nil => rfl
  | cons b l ih =>
    rw [List.foldlM_cons, List.foldlM_cons]
    cases hb : g a b with
    | error e => rfl
    | ok a' => exact ih

lemma run_lift_bind_eq_ok {y : Except ε α} :
    ((liftM y : Fallible ε σ α) >>= f).run s = (.ok b, t) ↔
      ∃ a, y = .ok a ∧ (f a).run s = (.ok b, t) := by
  rw [run_bind, run_lift]
  rcases y with _ | a <;> simp

end Run

end Fallible

end ArcadiaTio.Lib
