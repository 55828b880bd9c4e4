import Mathlib.Algebra.Order.Ring.Int
import Mathlib.Data.List.Induction
import ArcadiaTio.Lib.Fallible

/-!
# Folds that run side by side, and folds that choose

A loop over addressed items keeps one accumulator for each address.  `foldCells` is such a loop; it
is one fallible fold for each cell, over the items of that cell in their order
(`foldCells_eq_ok`).

`firstBest` is the loop that remembers the best entry so far together with its offset.  Entries are
compared by a key that an entry may lack; `IsFirstBest` says what the loop finds.
-/

namespace ArcadiaTio.Lib

universe u

variable {ε : Type*} {α β : Type u}

/-! ### Initial parts -/

/-- A fold that gets through a list gets through its initial parts. -/
lemma IsOk.foldlM_of_initial {f : β → α → Except ε β} {b : β} {pre l : List α}
    (h : IsOk (l.foldlM f b)) (hpre : pre <+: l) : IsOk (pre.foldlM f b) := by
  obtain ⟨suf, rfl⟩ := hpre
  obtain ⟨c, hc⟩ := h
  rw [List.foldlM_append, bind_eq_ok] at hc
  obtain ⟨mid, hmid, -⟩ := hc
  exact ⟨mid, hmid⟩

/-- A fold that starts from the first entry of its list. -/
def foldFirst (empty : ε) (f : α → α → Except ε α) : List α → Except ε α
  | [] => .error empty
  | a :: l => l.foldlM f a

lemma foldFirst_concat {empty : ε} {f : α → α → Except ε α} {l : List α} {a : α} (hne : l ≠ []) :
    foldFirst empty f (l ++ [a]) = (do
      let b ← foldFirst empty f l
      f b a) := by
  obtain ⟨b, l, rfl⟩ := List.exists_cons_of_ne_nil hne
  rw [List.cons_append, foldFirst, foldFirst, List.foldlM_append]
  refine congrArg _ (funext fun c => ?_)
  rw [List.foldlM_cons]
  exact bind_pure _

lemma IsOk.foldFirst_of_initial {empty : ε} {f : α → α → Except ε α} {pre l : List α}
    (h : IsOk (foldFirst empty f l)) (hpre : pre <+: l) (hne : pre ≠ []) :
    IsOk (foldFirst empty f pre) := by
  obtain ⟨a, pre, rfl⟩ := List.exists_cons_of_ne_nil hne
  obtain ⟨suf, rfl⟩ := hpre
  exact IsOk.foldlM_of_initial h (List.prefix_append pre suf)

/-- Two folds whose states are related at every step. -/
lemma foldlM_rel {γ : Type u} {l : List α} {f : β → α → Except ε β} {g : γ → α → Except ε γ}
    {R : β → γ → Prop} {b b' : β} {c c' : γ} (hbase : R b c)
    (hstep : ∀ b c a b' c', R b c → f b a = .ok b' → g c a = .ok c' → R b' c')
    (hb : l.foldlM f b = .ok b') (hc : l.foldlM g c = .ok c') : R b' c' := by
  induction l generalizing b c with
  | nil =>
    rw [List.foldlM_nil, pure_eq_ok, Except.ok.injEq] at hb hc
    exact hb ▸ hc ▸ hbase
  | cons a l ih =>
    rw [List.foldlM_cons, bind_eq_ok] at hb hc
    obtain ⟨b₁, hb₁, hb⟩ := hb
    obtain ⟨c₁, hc₁, hc⟩ := hc
    exact ih (hstep b c a b₁ c₁ hbase hb₁ hc₁) hb hc

/-- A fold of images is the image of the fold, when the two agree on what succeeds. -/
lemma foldlM_map_toOption {γ : Type u} {c : α → β} {d : γ → β} {f : γ → α → Except ε γ}
    {g : β → β → Option β} (h : ∀ b a, g (d b) (c a) = (f b a).toOption.map d) {l : List α} {b : γ} :
    (l.map c).foldlM g (d b) = (l.foldlM f b).toOption.map d := by
  induction l generalizing b with
  | nil => rfl
  | cons a l ih =>
    rw [List.map_cons, List.foldlM_cons, List.foldlM_cons, h]
    rcases f b a with e | b'
    · rfl
    · exact ih

lemma isOk_iff_toOption {x : Except ε α} : IsOk x ↔ x.toOption.isSome := by
  cases x <;> simp [IsOk, Except.toOption]

/-! ### One accumulator for each address -/

/-- Run through addressed items and change the cell of each. -/
def foldCells (outside : ε) (step : β → α → Except ε β) :
    List (ℕ × α) → List β → Except ε (List β)
  | [], cells => .ok cells
  | (address, a) :: items, cells => do
    let current ← okOr (cells[address]?) outside
    let next ← step current a
    foldCells outside step items (cells.set address next)

/-- The items of one cell. -/
def itemsOf (items : List (ℕ × α)) (address : ℕ) : List α :=
  (items.filter fun item => item.1 = address).map Prod.snd

lemma itemsOf_cons_self {address : ℕ} {a : α} {items : List (ℕ × α)} :
    itemsOf ((address, a) :: items) address = a :: itemsOf items address := by
  simp [itemsOf]

lemma itemsOf_cons_of_ne {address other : ℕ} {a : α} {items : List (ℕ × α)}
    (h : address ≠ other) : itemsOf ((address, a) :: items) other = itemsOf items other := by
  simp [itemsOf, h]

variable {outside : ε} {step : β → α → Except ε β} {items : List (ℕ × α)} {cells result : List β}

/-- The loop over addressed items is one fold for each cell. -/
theorem foldCells_eq_ok (haddress : ∀ item ∈ items, item.1 < cells.length) :
    foldCells outside step items cells = .ok result ↔
      result.length = cells.length ∧ ∀ address b, cells[address]? = some b →
        ∃ b', (itemsOf items address).foldlM step b = .ok b' ∧ result[address]? = some b' := by
  -- on the items: the first one changes its own cell only
  induction items generalizing cells with
  | nil =>
    have hfold : ∀ b b' : β, List.foldlM step b (itemsOf [] 0) = .ok b' ↔ b = b' := by
      intro b b'
      exact Except.ok.injEq b b' ▸ Iff.rfl
    rw [foldCells, Except.ok.injEq]
    constructor
    · rintro rfl
      exact ⟨rfl, fun address b hb => ⟨b, (hfold b b).mpr rfl, hb⟩⟩
    · rintro ⟨hlen, h⟩
      refine List.ext_getElem? fun address => ?_
      rcases hcell : cells[address]? with _ | b
      · rw [List.getElem?_eq_none_iff] at hcell
        exact (List.getElem?_eq_none (hlen ▸ hcell)).symm
      · obtain ⟨b', hb', hresult⟩ := h address b hcell
        rw [hresult, (hfold b b').mp hb']
  | cons item items ih =>
    obtain ⟨place, a⟩ := item
    have hplace : place < cells.length := haddress (place, a) List.mem_cons_self
    have hrest : ∀ next, ∀ item ∈ items, item.1 < (cells.set place next).length := by
      intro next item hitem
      rw [List.length_set]
      exact haddress item (List.mem_cons_of_mem _ hitem)
    have hcurrent := List.getElem?_eq_getElem hplace
    rw [foldCells, hcurrent, okOr_some, ok_bind, bind_eq_ok]
    constructor
    · rintro ⟨next, hnext, h⟩
      obtain ⟨hlen, hcells⟩ := (ih (hrest next)).mp h
      refine ⟨hlen.trans List.length_set, fun address b hb => ?_⟩
      by_cases heq : place = address
      · subst heq
        obtain rfl : cells[place] = b := Option.some.inj (hcurrent.symm.trans hb)
        obtain ⟨b', hb', hresult⟩ := hcells place next (List.getElem?_set_self hplace)
        refine ⟨b', ?_, hresult⟩
        rw [itemsOf_cons_self, List.foldlM_cons, hnext, ok_bind, hb']
      · obtain ⟨b', hb', hresult⟩ := hcells address b (by rwa [List.getElem?_set_ne heq])
        exact ⟨b', by rwa [itemsOf_cons_of_ne heq], hresult⟩
    · rintro ⟨hlen, hcells⟩
      obtain ⟨b', hb', hresult⟩ := hcells place _ hcurrent
      rw [itemsOf_cons_self, List.foldlM_cons, bind_eq_ok] at hb'
      obtain ⟨next, hnext, hb'⟩ := hb'
      refine ⟨next, hnext, (ih (hrest next)).mpr ⟨hlen.trans List.length_set.symm, ?_⟩⟩
      intro address b hb
      by_cases heq : place = address
      · subst heq
        rw [List.getElem?_set_self hplace] at hb
        cases hb
        exact ⟨b', hb', hresult⟩
      · rw [List.getElem?_set_ne heq] at hb
        obtain ⟨b'', hb'', hresult'⟩ := hcells address b hb
        exact ⟨b'', by rwa [itemsOf_cons_of_ne heq] at hb'', hresult'⟩

/-- The loop gets through when the fold of every cell does. -/
theorem isOk_foldCells (haddress : ∀ item ∈ items, item.1 < cells.length) :
    IsOk (foldCells outside step items cells) ↔
      ∀ address b, cells[address]? = some b → IsOk ((itemsOf items address).foldlM step b) := by
  constructor
  · rintro ⟨result, hresult⟩ address b hb
    obtain ⟨b', hb', -⟩ := ((foldCells_eq_ok haddress).mp hresult).2 address b hb
    exact ⟨b', hb'⟩
  · intro h
    have hcells : ∀ address : Fin cells.length, ∃ b',
        (itemsOf items address).foldlM step cells[address] = .ok b' := by
      intro address
      exact h address _ (List.getElem?_eq_getElem address.isLt)
    choose final hfinal using hcells
    refine ⟨List.ofFn final, (foldCells_eq_ok haddress).mpr ⟨List.length_ofFn, ?_⟩⟩
    intro address b hb
    obtain ⟨hlt, rfl⟩ := List.getElem?_eq_some_iff.mp hb
    exact ⟨final ⟨address, hlt⟩, hfinal ⟨address, hlt⟩, by simp [hlt]⟩

/-! ### The first best entry -/

/-- The comparison of two entries by their keys; an entry without a key is not comparable. -/
def lessBy (key : α → Option ℤ) (a b : α) : Bool :=
  match key a, key b with
  | some x, some y => x < y
  | _, _ => false

lemma lessBy_eq_true {key : α → Option ℤ} {a b : α} :
    lessBy key a b = true ↔ ∃ x y, key a = some x ∧ key b = some y ∧ x < y := by
  rw [lessBy]
  cases key a <;> cases key b <;> simp

/-- Keep the better of the best entry so far and a new one. -/
def chooseBest (better : α → α → Bool) (best : Option (α × ℕ)) (a : α) (offset : ℕ) : α × ℕ :=
  match best with
  | some (current, place) => if better a current then (a, offset) else (current, place)
  | none => (a, offset)

/-- The best entry of a list with its offset, the earlier of two entries that are as good. -/
def firstBest (better : α → α → Bool) (l : List α) : Option (α × ℕ) :=
  l.zipIdx.foldl (fun best p => some (chooseBest better best p.1 p.2)) none

/-- What it means to be the first best entry of a list, where `better` compares by a key. -/
structure IsFirstBest (key : α → Option ℤ) (better : α → α → Bool) (l : List α) (a : α)
    (place : ℕ) : Prop where
  /-- it stands at its offset -/
  entry : l[place]? = some a
  /-- no entry is better -/
  best : ∀ b ∈ l, better b a = false
  /-- no entry before it has its key -/
  first : ∀ i < place, ∀ b, l[i]? = some b → ∀ x ∈ key b, x ∉ key a
  /-- an entry without a key is returned when the list starts with it, and only then -/
  keyless : key a = none → place = 0
  start : ∀ b, l[0]? = some b → key b = none → place = 0

lemma firstBest_concat {better : α → α → Bool} {l : List α} {a : α} :
    firstBest better (l ++ [a]) =
      some (chooseBest better (firstBest better l) a l.length) := by
  rw [firstBest, List.zipIdx_append, List.foldl_append]
  simp [firstBest]

/-- The first best entry of a list of images. -/
lemma firstBest_map {γ : Type u} {c : α → γ} {better : α → α → Bool} {better' : γ → γ → Bool}
    (h : ∀ a b, better' (c a) (c b) = better a b) {l : List α} :
    firstBest better' (l.map c) = (firstBest better l).map fun p => (c p.1, p.2) := by
  induction l using List.reverseRecOn with
  | nil => rfl
  | append_singleton l a ih =>
    rw [List.map_append, List.map_singleton, firstBest_concat, firstBest_concat, ih,
      List.length_map]
    rcases firstBest better l with _ | ⟨b, place⟩
    · rfl
    · simp only [Option.map_some, chooseBest, h]
      split <;> rfl

/-- The loop finds the first best entry, when `better` compares by a key in one direction. -/
theorem isFirstBest_firstBest (key : α → Option ℤ) (better : α → α → Bool)
    (ahead : ℤ → ℤ → Prop) (htrans : ∀ x y z, ¬ ahead x y → ahead z y → ¬ ahead x z)
    (hirrefl : ∀ x, ¬ ahead x x)
    (hbetter : ∀ a b, better a b = true ↔ ∃ x y, key a = some x ∧ key b = some y ∧ ahead x y)
    {l : List α} (hne : l ≠ []) :
    ∃ a place, firstBest better l = some (a, place) ∧ IsFirstBest key better l a place := by
  have hself : ∀ a, better a a = false := by
    intro a
    rw [Bool.eq_false_iff, Ne, hbetter]
    rintro ⟨x, y, hx, hy, hahead⟩
    obtain rfl : x = y := Option.some.inj (hx.symm.trans hy)
    exact hirrefl x hahead
  -- on the prefixes: the loop keeps the first best entry of what it has seen
  induction l using List.reverseRecOn with
  | nil => exact absurd rfl hne
  | append_singleton l a ih =>
    rcases eq_or_ne l [] with rfl | hl
    · refine ⟨a, 0, rfl, rfl, ?_, ?_, fun _ => rfl, fun _ _ _ => rfl⟩
      · intro b hb
        rw [List.mem_singleton.mp hb]
        exact hself a
      · intro i hi
        exact absurd hi (Nat.not_lt_zero i)
    obtain ⟨best, place, hbest, hspec⟩ := ih hl
    have hplace : place < l.length := (List.getElem?_eq_some_iff.mp hspec.entry).1
    rw [firstBest_concat, hbest, chooseBest]
    by_cases hnew : better a best = true
    · -- the new entry beats the best one, and with it all the others
      rw [if_pos hnew]
      obtain ⟨x, y, hx, hy, hahead⟩ := (hbetter a best).mp hnew
      have hbehind : ∀ b ∈ l, ∀ z ∈ key b, ¬ ahead z x := by
        intro b hb z hz
        have hnot := hspec.best b hb
        rw [Bool.eq_false_iff, Ne, hbetter] at hnot
        exact htrans z y x (fun h => hnot ⟨z, y, hz, hy, h⟩) hahead
      refine ⟨a, l.length, rfl, by simp, ?_, ?_, fun hnone => ?_, fun b hb hnone => ?_⟩
      · intro b hb
        rcases List.mem_append.mp hb with hb | hb
        · rw [Bool.eq_false_iff, Ne, hbetter]
          rintro ⟨z, x', hz, hx', hbad⟩
          obtain rfl : x = x' := Option.some.inj (hx.symm.trans hx')
          exact hbehind b hb z hz hbad
        · rw [List.mem_singleton.mp hb]
          exact hself a
      · intro i hi b hb z hz hza
        rw [List.getElem?_append_left hi] at hb
        obtain rfl : x = z := Option.some.inj (hx.symm.trans hza)
        have hnot := hspec.best b (List.mem_of_getElem? hb)
        rw [Bool.eq_false_iff, Ne, hbetter] at hnot
        exact hnot ⟨x, y, hz, hy, hahead⟩
      · rw [hx] at hnone
        cases hnone
      · -- the best entry before has a key, so the list does not start without one
        rw [List.getElem?_append_left (by omega)] at hb
        have hentry := hspec.entry
        rw [hspec.start b hb hnone, hb] at hentry
        cases hentry
        rw [hy] at hnone
        cases hnone
    · rw [if_neg hnew]
      refine ⟨best, place, rfl, ?_, ?_, ?_, hspec.keyless, fun b hb => ?_⟩
      · rw [List.getElem?_append_left hplace]
        exact hspec.entry
      · intro b hb
        rcases List.mem_append.mp hb with hb | hb
        · exact hspec.best b hb
        · rw [List.mem_singleton.mp hb]
          exact Bool.eq_false_iff.mpr hnew
      · intro i hi b hb
        rw [List.getElem?_append_left (by omega)] at hb
        exact hspec.first i hi b hb
      · rw [List.getElem?_append_left (by omega)] at hb
        exact hspec.start b hb

end ArcadiaTio.Lib
