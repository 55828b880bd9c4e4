import ArcadiaTio.Lib.Fallible

/-!
# Trying alternatives in order

A list of alternatives is tried one after the other, each on the state the previous attempt left
behind.  A *discardable* failure moves on to the next alternative; any other failure ends the
search.  `firstSuccess` is that search, and `Discards` says that a stretch of alternatives was
tried and discarded.  The outcome of the search is characterised by the position at which it
stopped (`firstSuccess_cases`).
-/

namespace ArcadiaTio.Lib

variable {ε σ κ α : Type} (discard : ε → Prop) (run : κ → Fallible ε σ α)

/-- Every alternative of the list fails with a discardable error; the state is threaded
through the attempts. -/
inductive Discards : σ → List κ → σ → Prop
  | nil (s : σ) : Discards s [] s
  | cons {s s₁ s₂ : σ} {c : κ} {cs : List κ} {e : ε} (hrun : (run c).run s = (.error e, s₁))
      (he : discard e) (hrest : Discards s₁ cs s₂) : Discards s (c :: cs) s₂

/-- The first alternative that succeeds; `exhausted` when all of them were discarded. -/
def firstSuccess [DecidablePred discard] (exhausted : ε) : List κ → Fallible ε σ α
  | [] => Fallible.fail exhausted
  | c :: cs => ⟨fun s =>
    match (run c).run s with
    | (.ok a, s') => (.ok a, s')
    | (.error e, s') => if discard e then (firstSuccess exhausted cs).run s' else (.error e, s')⟩

variable {discard run} [DecidablePred discard] {exhausted : ε} {s s' s₁ : σ} {c : κ}
  {cs pre : List κ} {a : α} {e : ε}

lemma firstSuccess_cons_of_ok (h : (run c).run s = (.ok a, s')) :
    (firstSuccess discard run exhausted (c :: cs)).run s = (.ok a, s') := by
  simp only [firstSuccess, h]

lemma firstSuccess_cons_of_discard (h : (run c).run s = (.error e, s')) (he : discard e) :
    (firstSuccess discard run exhausted (c :: cs)).run s = (firstSuccess discard run exhausted cs).run s' := by
  simp only [firstSuccess, h]
  exact if_pos he

lemma firstSuccess_cons_of_error (h : (run c).run s = (.error e, s')) (he : ¬ discard e) :
    (firstSuccess discard run exhausted (c :: cs)).run s = (.error e, s') := by
  simp only [firstSuccess, h]
  exact if_neg he

/-- Discarded alternatives may be skipped. -/
lemma Discards.firstSuccess_append (h : Discards discard run s pre s₁) :
    (firstSuccess discard run exhausted (pre ++ cs)).run s =
      (firstSuccess discard run exhausted cs).run s₁ := by
  induction h with
  | nil s => rfl
  | cons hrun he _ ih =>
    rw [List.cons_append, firstSuccess_cons_of_discard hrun he]
    exact ih

variable (discard run exhausted) in
/-- How a search can end: at a success, at an error that is not discardable, or after
everything was discarded. -/
lemma firstSuccess_cases (cs : List κ) (s : σ) :
    (∃ pre c post s₁ a s', cs = pre ++ c :: post ∧ Discards discard run s pre s₁ ∧
      (run c).run s₁ = (.ok a, s') ∧ (firstSuccess discard run exhausted cs).run s = (.ok a, s')) ∨
    (∃ pre c post s₁ e s', cs = pre ++ c :: post ∧ Discards discard run s pre s₁ ∧
      (run c).run s₁ = (.error e, s') ∧ ¬ discard e ∧
      (firstSuccess discard run exhausted cs).run s = (.error e, s')) ∨
    ∃ s', Discards discard run s cs s' ∧
      (firstSuccess discard run exhausted cs).run s = (.error exhausted, s') := by
  induction cs generalizing s with
  | nil => exact .inr (.inr ⟨s, .nil s, rfl⟩)
  | cons c cs ih =>
    rcases hrun : (run c).run s with ⟨_ | a, s'⟩
    case ok =>
      exact .inl ⟨[], c, cs, s, a, s', rfl, .nil s, hrun, firstSuccess_cons_of_ok hrun⟩
    case error e =>
      by_cases he : discard e
      · rw [firstSuccess_cons_of_discard hrun he]
        rcases ih s' with ⟨pre, d, post, s₁, a, s₂, rfl, hpre, hd, h⟩ |
          ⟨pre, d, post, s₁, e', s₂, rfl, hpre, hd, he', h⟩ | ⟨s₂, hall, h⟩
        · exact .inl ⟨c :: pre, d, post, s₁, a, s₂, rfl, .cons hrun he hpre, hd, h⟩
        · exact .inr (.inl ⟨c :: pre, d, post, s₁, e', s₂, rfl, .cons hrun he hpre, hd, he', h⟩)
        · exact .inr (.inr ⟨s₂, .cons hrun he hall, h⟩)
      · exact .inr (.inl ⟨[], c, cs, s, e, s', rfl, .nil s, hrun, he,
          firstSuccess_cons_of_error hrun he⟩)

omit [DecidablePred discard] in
/-- Every discarded alternative failed with a discardable error in some state. -/
lemma Discards.of_mem (h : Discards discard run s cs s') (hc : c ∈ cs) :
    ∃ s₁ e s₂, (run c).run s₁ = (.error e, s₂) ∧ discard e := by
  induction h with
  | nil s => cases hc
  | cons hrun he _ ih =>
    rcases List.mem_cons.mp hc with rfl | hc
    · exact ⟨_, _, _, hrun, he⟩
    · exact ih hc

end ArcadiaTio.Lib
