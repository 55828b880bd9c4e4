import ArcadiaTio.Lib.Fallible

/-!
# Steps in order that may end in several ways

What a step on an element returns need not be a function of the element: it may depend on a
schedule.  Such a step is a relation, and so is the loop that runs it on the elements of a list
until it fails.  The loop succeeds with the results of steps that all succeed (`inTurn_eq_ok`), and
fails with the error of the first step that does (`inTurn_eq_error`).
-/

namespace ArcadiaTio.Lib

variable {ε α β : Type*}

/-! ### Related lists -/

section Related

variable {P Q : α → β → Prop} {as : List α} {bs : List β}

lemma forall₂_imp_of_mem (h : ∀ a ∈ as, ∀ b, P a b → Q a b) (hP : List.Forall₂ P as bs) :
    List.Forall₂ Q as bs := by
  refine ((List.forall₂_and_left (p := (· ∈ as)) _ _).mpr ⟨fun _ => id, hP⟩).imp ?_
  rintro a b ⟨hmem, hab⟩
  exact h a hmem b hab

lemma forall₂_congr_of_mem (h : ∀ a ∈ as, ∀ b, P a b ↔ Q a b) :
    List.Forall₂ P as bs ↔ List.Forall₂ Q as bs :=
  ⟨forall₂_imp_of_mem fun a ha b => (h a ha b).mp, forall₂_imp_of_mem fun a ha b => (h a ha b).mpr⟩

/-- A third list, when each pair has something to do with it. -/
lemma exists_forall₂ {γ : Type*} {R : α → β → γ → Prop}
    (h : List.Forall₂ (fun a b => ∃ c, R a b c) as bs) :
    ∃ cs, List.Forall₂ (fun a c => ∃ b, R a b c) as cs := by
  induction h with
  | nil => exact ⟨[], .nil⟩
  | @cons a b _ _ hab _ ih =>
    obtain ⟨c, hc⟩ := hab
    obtain ⟨cs, hcs⟩ := ih
    exact ⟨c :: cs, .cons ⟨b, hc⟩ hcs⟩

end Related

/-! ### The loop -/

/-- What a step on the elements of a list in order may return: all results, or the first error. -/
inductive InTurn (step : α → Except ε β → Prop) : List α → Except ε (List β) → Prop
  | nil : InTurn step [] (.ok [])
  | failed {a : α} {rest : List α} {error : ε} (h : step a (.error error)) :
      InTurn step (a :: rest) (.error error)
  | cons {a : α} {rest : List α} {b : β} {results : Except ε (List β)} (h : step a (.ok b))
      (hrest : InTurn step rest results) : InTurn step (a :: rest) ((b :: ·) <$> results)

variable {step : α → Except ε β → Prop} {as : List α} {bs : List β} {error : ε}

/-- The loop succeeds with the results of steps that all succeed. -/
lemma inTurn_eq_ok :
    InTurn step as (.ok bs) ↔ List.Forall₂ (fun a b => step a (.ok b)) as bs := by
  constructor
  · intro h
    generalize hresult : (.ok bs : Except ε (List β)) = result at h
    induction h generalizing bs with
    | nil =>
      cases hresult
      exact .nil
    | failed _ => cases hresult
    | @cons a rest b results hstep _ ih =>
      cases results with
      | error _ => cases hresult
      | ok tail =>
        obtain rfl := Except.ok.inj hresult
        exact .cons hstep (ih rfl)
  · intro h
    induction h with
    | nil => exact .nil
    | cons hstep _ ih => exact .cons hstep ih

/-- The loop fails with the error of the first step that fails. -/
lemma inTurn_eq_error : InTurn step as (.error error) ↔
    ∃ before a after bs, as = before ++ a :: after ∧
      List.Forall₂ (fun a b => step a (.ok b)) before bs ∧ step a (.error error) := by
  constructor
  · intro h
    generalize hresult : (.error error : Except ε (List β)) = result at h
    induction h with
    | nil => cases hresult
    | @failed a rest _ hstep =>
      obtain rfl := Except.error.inj hresult
      exact ⟨[], a, rest, [], rfl, .nil, hstep⟩
    | @cons a rest b results hstep _ ih =>
      cases results with
      | ok _ => cases hresult
      | error _ =>
        obtain rfl := Except.error.inj hresult
        obtain ⟨before, a', after, bs, rfl, hbefore, herror⟩ := ih rfl
        exact ⟨a :: before, a', after, b :: bs, rfl, .cons hstep hbefore, herror⟩
  · rintro ⟨before, a, after, bs, rfl, hbefore, herror⟩
    induction hbefore with
    | nil => exact .failed herror
    | cons hstep _ ih => exact .cons hstep ih

end ArcadiaTio.Lib
