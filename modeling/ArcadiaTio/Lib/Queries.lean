import ArcadiaTio.Lib.Fallible

/-!
# Computations that query

A computation whose only contact with its surroundings are queries, each with an answer of the
type that belongs to its key, is a tree: it is done, it fails, or it asks for a key and continues
with the answer.  The tree says nothing about how the answers are found.  An *answering*
`∀ k, Fallible ε σ (ν k)` turns it into a computation with a state (`interp`), and leaves behind
the queries with the states in which they were met (`trace`).

* `Asks l x`: whatever the answers, `x` asks for the keys of `l` in order, unless it fails before.
* `interp_simulates`: two answerings that agree at every query agree on the computation.
* `Remembers`: an answering that finds out each key at most once, and the consequences for the
  trace (`nodup_found`, `mem_found_iff`).
-/

namespace ArcadiaTio.Lib

universe u v w

/-- A computation that queries keys `k : κ` and receives answers of type `ν k`. -/
inductive Query (κ : Type u) (ν : κ → Type u) (ε : Type v) (α : Type u) : Type (max u v)
  | done (a : α)
  | fail (e : ε)
  | ask (k : κ) (next : ν k → Query κ ν ε α)

namespace Query

variable {κ : Type u} {ν : κ → Type u} {ε : Type v} {α β : Type u} {σ τ : Type w}

/-- Continue with the value of the first computation. -/
def andThen (f : α → Query κ ν ε β) : Query κ ν ε α → Query κ ν ε β
  | done a => f a
  | fail e => fail e
  | ask k next => ask k fun answer => (next answer).andThen f

instance : Monad (Query κ ν ε) where
  pure := done
  bind x f := x.andThen f

/-- A computation without queries. -/
def ofExcept : Except ε α → Query κ ν ε α
  | .ok a => done a
  | .error e => fail e

instance : MonadLift (Except ε) (Query κ ν ε) where
  monadLift := ofExcept

/-- Ask for one key. -/
def query (k : κ) : Query κ ν ε (ν k) := ask k done

/-! ### The queries of a computation -/

/-- Whatever the answers, the computation asks for the keys of the list in their order, and it
ends after the last one, unless it fails before. -/
def Asks : List κ → Query κ ν ε α → Prop
  | l, done _ => l = []
  | _, fail _ => True
  | l, ask k next => ∃ rest, l = k :: rest ∧ ∀ answer, Asks rest (next answer)

lemma asks_pure (a : α) : Asks [] (pure a : Query κ ν ε α) := rfl

lemma asks_query (k : κ) : Asks [k] (query k : Query κ ν ε (ν k)) := ⟨[], rfl, fun _ => rfl⟩

lemma asks_lift (x : Except ε α) : Asks [] (liftM x : Query κ ν ε α) := by
  cases x with
  | ok a => exact rfl
  | error e => exact trivial

lemma Asks.bind {x : Query κ ν ε α} {f : α → Query κ ν ε β} {l₁ l₂ : List κ} (hx : Asks l₁ x)
    (hf : ∀ a, Asks l₂ (f a)) : Asks (l₁ ++ l₂) (x >>= f) := by
  induction x generalizing l₁ with
  | done a =>
    cases hx
    exact hf a
  | fail e => exact trivial
  | ask k next ih =>
    obtain ⟨rest, rfl, hrest⟩ := hx
    exact ⟨rest ++ l₂, rfl, fun answer => ih answer (hrest answer)⟩

/-- A step without queries adds nothing. -/
lemma Asks.lift_bind {x : Except ε α} {f : α → Query κ ν ε β} {l : List κ}
    (hf : ∀ a, Asks l (f a)) : Asks l ((liftM x : Query κ ν ε α) >>= f) :=
  (asks_lift x).bind hf

/-! ### Answering the queries -/

section Interp

variable (answer : ∀ k, Fallible ε σ (ν k))

/-- Run a computation with a way to answer its queries. -/
def interp : Query κ ν ε α → Fallible ε σ α
  | done a => pure a
  | fail e => Fallible.fail e
  | ask k next => answer k >>= fun v => (next v).interp

/-- The queries that are met, each with the state in which it is met. -/
def trace : Query κ ν ε α → σ → List (κ × σ)
  | done _, _ => []
  | fail _, _ => []
  | ask k next, s => (k, s) ::
    match (answer k).run s with
    | (.ok v, s') => (next v).trace s'
    | (.error _, _) => []

@[simp] lemma interp_pure (a : α) : (pure a : Query κ ν ε α).interp answer = pure a := rfl

@[simp] lemma interp_lift (x : Except ε α) :
    (liftM x : Query κ ν ε α).interp answer = liftM x := by
  cases x <;> rfl

@[simp] lemma interp_query (k : κ) : (query k : Query κ ν ε (ν k)).interp answer = answer k := by
  change (answer k >>= fun v => pure v) = answer k
  refine congrArg Fallible.mk (funext fun s => ?_)
  rcases (answer k).run s with ⟨_ | v, t⟩ <;> rfl

@[simp] lemma interp_bind (x : Query κ ν ε α) (f : α → Query κ ν ε β) :
    (x >>= f).interp answer = x.interp answer >>= fun a => (f a).interp answer := by
  induction x with
  | done a => rfl
  | fail e => rfl
  | ask k next ih =>
    refine congrArg Fallible.mk (funext fun s => ?_)
    change Fallible.andThen (fun v => ((next v) >>= f).interp answer) ((answer k).run s) = _
    simp only [ih]
    change _ = Fallible.andThen _ (Fallible.andThen _ ((answer k).run s))
    rcases (answer k).run s with ⟨_ | v, t⟩ <;> rfl

end Interp

section Trace

variable {answer : ∀ k, Fallible ε σ (ν k)} {k : κ} {next : ν k → Query κ ν ε α} {s t : σ}

lemma run_ask_of_ok {v : ν k} (h : (answer k).run s = (.ok v, t)) :
    ((ask k next).interp answer).run s = ((next v).interp answer).run t :=
  Fallible.run_bind_of_ok h

lemma run_ask_of_error {e : ε} (h : (answer k).run s = (.error e, t)) :
    ((ask k next).interp answer).run s = (.error e, t) :=
  Fallible.run_bind_of_error h

lemma trace_ask_of_ok {v : ν k} (h : (answer k).run s = (.ok v, t)) :
    (ask k next).trace answer s = (k, s) :: (next v).trace answer t := by
  simp only [trace, h]

lemma trace_ask_of_error {e : ε} (h : (answer k).run s = (.error e, t)) :
    (ask k next).trace answer s = [(k, s)] := by
  simp only [trace, h]

/-- What is met is an initial part of what is asked for. -/
lemma keys_trace_prefix {x : Query κ ν ε α} {l : List κ} (hx : Asks l x) (s : σ) :
    (x.trace answer s).map Prod.fst <+: l := by
  induction x generalizing l s with
  | done a => exact List.nil_prefix
  | fail e => exact List.nil_prefix
  | ask k next ih =>
    obtain ⟨rest, rfl, hrest⟩ := hx
    rcases h : (answer k).run s with ⟨e | v, t⟩
    · rw [trace_ask_of_error h]
      exact (List.prefix_append [k] rest)
    · rw [trace_ask_of_ok h, List.map_cons]
      exact (List.prefix_cons_inj k).mpr (ih v (hrest v) t)

/-- A property that every answer keeps holds at every query and at the end. -/
lemma interp_invariant {I : σ → Prop} {l : List κ} {x : Query κ ν ε α} (hx : Asks l x)
    (hstep : ∀ k ∈ l, ∀ s, I s → I ((answer k).run s).2) (hs : I s) :
    (∀ p ∈ x.trace answer s, I p.2) ∧ I ((x.interp answer).run s).2 := by
  induction x generalizing l s with
  | done a => exact ⟨fun _ hp => absurd hp (List.not_mem_nil), hs⟩
  | fail e => exact ⟨fun _ hp => absurd hp (List.not_mem_nil), hs⟩
  | ask k next ih =>
    obtain ⟨rest, rfl, hrest⟩ := hx
    have hnext := hstep k List.mem_cons_self s hs
    rcases h : (answer k).run s with ⟨e | v, t⟩
    · rw [h] at hnext
      rw [trace_ask_of_error h, run_ask_of_error h]
      exact ⟨fun p hp => List.mem_singleton.mp hp ▸ hs, hnext⟩
    · rw [h] at hnext
      rw [trace_ask_of_ok h, run_ask_of_ok h]
      obtain ⟨htrace, hend⟩ := ih v (hrest v)
        (fun k hk => hstep k (List.mem_cons_of_mem _ hk)) hnext
      exact ⟨List.forall_mem_cons.mpr ⟨hs, htrace⟩, hend⟩

end Trace

/-! ### Two answerings of one computation -/

/-- The second outcome is the first one with related states, or else an error in `E`. -/
def Outcome (E : ε → Prop) (R : σ → τ → Prop) (r : Except ε α × σ) (r' : Except ε α × τ) : Prop :=
  (∃ e, r'.1 = .error e ∧ E e) ∨ (∃ e, r.1 = .error e ∧ r'.1 = .error e) ∨
    ∃ a, r.1 = .ok a ∧ r'.1 = .ok a ∧ R r.2 r'.2

/-- Two answerings that agree at every query, as long as the states are related for the queries
that are still to come, agree on the whole computation. -/
lemma interp_simulates {E : ε → Prop} {R : List κ → σ → τ → Prop}
    {answer : ∀ k, Fallible ε σ (ν k)} {answer' : ∀ k, Fallible ε τ (ν k)}
    (hstep : ∀ k rest s s', R (k :: rest) s s' →
      Outcome E (R rest) ((answer k).run s) ((answer' k).run s'))
    {l : List κ} {x : Query κ ν ε α} (hx : Asks l x) {s : σ} {s' : τ} (hs : R l s s') :
    Outcome E (R []) ((x.interp answer).run s) ((x.interp answer').run s') := by
  induction x generalizing l s s' with
  | done a =>
    obtain rfl : l = [] := hx
    exact .inr (.inr ⟨a, rfl, rfl, hs⟩)
  | fail e => exact .inr (.inl ⟨e, rfl, rfl⟩)
  | ask k next ih =>
    obtain ⟨rest, rfl, hrest⟩ := hx
    have hk := hstep k rest s s' hs
    rcases h : (answer k).run s with ⟨r, t⟩
    rcases h' : (answer' k).run s' with ⟨r', t'⟩
    rw [h, h'] at hk
    rcases hk with ⟨e, rfl, he⟩ | ⟨e, rfl, rfl⟩ | ⟨v, rfl, rfl, hR⟩
    · refine .inl ⟨e, ?_, he⟩
      rw [run_ask_of_error h']
    · refine .inr (.inl ⟨e, ?_, ?_⟩)
      · rw [run_ask_of_error h]
      · rw [run_ask_of_error h']
    · rw [run_ask_of_ok h, run_ask_of_ok h']
      exact ih v (hrest v) hR

/-! ### Finding out each key once -/

/-- An answering finds out the keys of a set once: a key is fresh until it is answered, and the
answer to one key leaves the others as they are. -/
structure Remembers (answer : ∀ k, Fallible ε σ (ν k)) (K : κ → Prop) (Fresh : κ → σ → Prop) :
    Prop where
  /-- An answered key is no longer fresh. -/
  not_fresh : ∀ k s v t, K k → (answer k).run s = (.ok v, t) → ¬ Fresh k t
  /-- The other keys stay as they are. -/
  fresh_iff : ∀ k k' s v t, K k → K k' → k' ≠ k → (answer k).run s = (.ok v, t) →
    (Fresh k' t ↔ Fresh k' s)

section Remembers

variable {answer : ∀ k, Fallible ε σ (ν k)} {K : κ → Prop} {Fresh : κ → σ → Prop}
  [∀ k s, Decidable (Fresh k s)] {l : List κ} {x : Query κ ν ε α} {s t : σ}

/-- The keys of a trace that were fresh when they were met: the ones that were found out. -/
def found (Fresh : κ → σ → Prop) [∀ k s, Decidable (Fresh k s)] (queries : List (κ × σ)) :
    List κ :=
  (queries.filter fun p => Fresh p.1 p.2).map Prod.fst

lemma mem_found {queries : List (κ × σ)} {k : κ} :
    k ∈ found Fresh queries ↔ ∃ s, (k, s) ∈ queries ∧ Fresh k s := by
  simp [found]

omit [∀ k s, Decidable (Fresh k s)] in
/-- A key that is not fresh does not become fresh. -/
lemma Remembers.not_fresh_of (h : Remembers answer K Fresh) {k k' : κ} {v : ν k} (hk : K k)
    (hk' : K k') (hrun : (answer k).run s = (.ok v, t)) (hfresh : Fresh k' t) :
    k' ≠ k ∧ Fresh k' s := by
  have hne : k' ≠ k := by
    rintro rfl
    exact h.not_fresh _ _ _ _ hk hrun hfresh
  exact ⟨hne, (h.fresh_iff k k' s v t hk hk' hne hrun).mp hfresh⟩

/-- What is found out was fresh at the start. -/
lemma Remembers.fresh_of_mem_found (h : Remembers answer K Fresh) (hx : Asks l x)
    (hl : ∀ k ∈ l, K k) {k : κ} (hmem : k ∈ found Fresh (x.trace answer s)) :
    k ∈ l ∧ Fresh k s := by
  induction x generalizing l s with
  | done a => simp [trace, found] at hmem
  | fail e => simp [trace, found] at hmem
  | ask k₀ next ih =>
    obtain ⟨rest, rfl, hrest⟩ := hx
    obtain ⟨s₁, hs₁, hfresh⟩ := mem_found.mp hmem
    rcases hrun : (answer k₀).run s with ⟨e | v, t⟩
    · rw [trace_ask_of_error hrun, List.mem_singleton] at hs₁
      cases hs₁
      exact ⟨List.mem_cons_self, hfresh⟩
    · rw [trace_ask_of_ok hrun, List.mem_cons] at hs₁
      rcases hs₁ with hs₁ | hs₁
      · cases hs₁
        exact ⟨List.mem_cons_self, hfresh⟩
      · obtain ⟨hk, ht⟩ := ih v (hrest v) (fun k hk => hl k (List.mem_cons_of_mem _ hk))
          (mem_found.mpr ⟨s₁, hs₁, hfresh⟩)
        exact ⟨List.mem_cons_of_mem _ hk, (h.not_fresh_of (hl k₀ List.mem_cons_self)
          (hl k (List.mem_cons_of_mem _ hk)) hrun ht).2⟩

/-- No key is found out twice. -/
lemma Remembers.nodup_found (h : Remembers answer K Fresh) (hx : Asks l x) (hl : ∀ k ∈ l, K k) :
    (found Fresh (x.trace answer s)).Nodup := by
  induction x generalizing l s with
  | done a => exact List.nodup_nil
  | fail e => exact List.nodup_nil
  | ask k next ih =>
    obtain ⟨rest, rfl, hrest⟩ := hx
    have hl' : ∀ k ∈ rest, K k := fun k hk => hl k (List.mem_cons_of_mem _ hk)
    rcases hrun : (answer k).run s with ⟨e | v, t⟩
    · rw [trace_ask_of_error hrun, found, List.filter_cons, List.filter_nil]
      split
      · exact List.nodup_cons.mpr ⟨List.not_mem_nil, List.nodup_nil⟩
      · exact List.nodup_nil
    · have hnext := ih v (hrest v) hl' (s := t)
      rw [trace_ask_of_ok hrun, found, List.filter_cons]
      split
      · refine List.nodup_cons.mpr ⟨fun hmem => ?_, hnext⟩
        exact h.not_fresh k s v t (hl k List.mem_cons_self) hrun
          (h.fresh_of_mem_found (hrest v) hl' hmem).2
      · exact hnext

/-- A computation that ends with a value has found out exactly the keys that were fresh. -/
lemma Remembers.mem_found_iff (h : Remembers answer K Fresh) (hx : Asks l x) (hl : ∀ k ∈ l, K k)
    {a : α} (hok : (x.interp answer).run s = (.ok a, t)) {k : κ} :
    k ∈ found Fresh (x.trace answer s) ↔ k ∈ l ∧ Fresh k s := by
  refine ⟨h.fresh_of_mem_found hx hl, fun hk => ?_⟩
  induction x generalizing l s with
  | done a =>
    obtain rfl : l = [] := hx
    exact absurd hk.1 List.not_mem_nil
  | fail e => cases hok
  | ask k₀ next ih =>
    obtain ⟨rest, rfl, hrest⟩ := hx
    have hl' : ∀ k ∈ rest, K k := fun k hk => hl k (List.mem_cons_of_mem _ hk)
    rcases hrun : (answer k₀).run s with ⟨e | v, s'⟩
    · rw [run_ask_of_error hrun] at hok
      cases hok
    · rw [run_ask_of_ok hrun] at hok
      rw [trace_ask_of_ok hrun]
      by_cases hne : k = k₀
      · subst hne
        exact mem_found.mpr ⟨s, List.mem_cons_self, hk.2⟩
      · have hmem : k ∈ rest := (List.mem_cons.mp hk.1).resolve_left hne
        have hfresh := (h.fresh_iff k₀ k s v s' (hl k₀ List.mem_cons_self) (hl' k hmem) hne
          hrun).mpr hk.2
        obtain ⟨s₁, hs₁, hf⟩ := mem_found.mp (ih v (hrest v) hl' hok ⟨hmem, hfresh⟩)
        exact mem_found.mpr ⟨s₁, List.mem_cons_of_mem _ hs₁, hf⟩

end Remembers

end Query

end ArcadiaTio.Lib
