import ArcadiaTio.Lib.Fallible
import ArcadiaTio.Lib.Window

/-!
# Writing into a buffer

A buffer is a list that a computation changes in place, and that stays behind when the computation
fails half-way.  `writeAll` computes and writes fields one after the other, and `within` runs a
computation on a part of the buffer.  Neither changes the length of the buffer.  `onEach` runs
computations on several buffers, each on its own.
-/

namespace ArcadiaTio.Lib.Fallible

variable {ε α β : Type}

/-- Write a list at a position. -/
def writeAt (i : ℕ) (xs : List α) : Fallible ε (List α) Unit :=
  ⟨fun l => (.ok (), overwrite l i xs)⟩

/-- Compute and write fields, one after the other. -/
def writeAll : List (Except ε (ℕ × List α)) → Fallible ε (List α) Unit
  | [] => pure ()
  | write :: writes => do
    let field ← write
    writeAt field.1 field.2
    writeAll writes

/-- Run a computation on the `n` elements from position `i` on. -/
def within (i n : ℕ) (x : Fallible ε (List α) β) : Fallible ε (List α) β :=
  ⟨fun l => ((x.run (window l i (i + n))).1, overwrite l i (x.run (window l i (i + n))).2)⟩

/-- Run a computation on a part of the state. -/
def zoom {σ τ : Type} (get : σ → τ) (set : σ → τ → σ) (x : Fallible ε τ α) : Fallible ε σ α :=
  ⟨fun s => ((x.run (get s)).1, set s (x.run (get s)).2)⟩

/-- Run a computation for each of some inputs, in order, each on its own state.  The states behind
the first failure stay as they are. -/
def onEach {σ γ : Type} (f : γ → Fallible ε σ α) : List (γ × σ) → Except ε (List α) × List σ
  | [] => (.ok [], [])
  | (c, s) :: rest =>
    match (f c).run s with
    | (.error e, s') => (.error e, s' :: rest.map Prod.snd)
    | (.ok a, s') => ((a :: ·) <$> (onEach f rest).1, s' :: (onEach f rest).2)

section OnEach

variable {σ γ : Type} {f : γ → Fallible ε σ α} {rest : List (γ × σ)} {c : γ} {s : σ}

/-- A run is the first computation and then the others. -/
lemma onEach_cons_eq_ok {as : List α} {ss : List σ} :
    onEach f ((c, s) :: rest) = (.ok as, ss) ↔ ∃ a s' as' ss', (f c).run s = (.ok a, s') ∧
      onEach f rest = (.ok as', ss') ∧ as = a :: as' ∧ ss = s' :: ss' := by
  rw [onEach]
  rcases hrun : (f c).run s with ⟨e | a, s'⟩
  · refine iff_of_false (fun h => ?_) ?_
    · cases h
    · rintro ⟨a, t, _, _, h, -⟩
      cases h
  · constructor
    · intro h
      obtain ⟨hvalues, rfl⟩ := Prod.mk.inj h
      obtain ⟨tail, htail, rfl⟩ := map_eq_ok.mp hvalues
      exact ⟨a, s', tail, _, rfl, Prod.ext htail rfl, rfl, rfl⟩
    · rintro ⟨a', t, as', ss', h, hrest, rfl, rfl⟩
      cases h
      rw [hrest]
      rfl

/-- When all goes through, every computation was run. -/
lemma forall₂_of_onEach {ps : List (γ × σ)} {as : List α} {ss : List σ}
    (h : onEach f ps = (.ok as, ss)) :
    List.Forall₂ (fun p s => ∃ a, (f p.1).run p.2 = (.ok a, s)) ps ss := by
  induction ps generalizing as ss with
  | nil =>
    cases h
    exact .nil
  | cons p rest ih =>
    obtain ⟨a, s', as', ss', hrun, hrest, rfl, rfl⟩ := onEach_cons_eq_ok.mp h
    exact .cons ⟨a, hrun⟩ (ih hrest)

/-- The values are those of the runs, up to the first failure. -/
lemma fst_onEach_cons : (onEach f ((c, s) :: rest)).1 =
    ((f c).run s).1 >>= fun a => (a :: ·) <$> (onEach f rest).1 := by
  rw [onEach]
  rcases (f c).run s with ⟨e | a, s'⟩ <;> rfl

/-- What every computation leaves alone is left alone. -/
lemma map_onEach {δ : Type} {g : σ → δ} (h : ∀ c s, g ((f c).run s).2 = g s) (ps : List (γ × σ)) :
    (onEach f ps).2.map g = ps.map fun p => g p.2 := by
  induction ps with
  | nil => rfl
  | cons p rest ih =>
    obtain ⟨c, s⟩ := p
    have hhead := h c s
    rw [onEach]
    rcases hrun : (f c).run s with ⟨e | a, s'⟩
    · rw [hrun] at hhead
      simp only [List.map_cons, List.map_map, hhead]
      rfl
    · rw [hrun] at hhead
      simp only [List.map_cons, hhead, ih]

end OnEach

variable {l : List α} {i n : ℕ}

@[simp] lemma run_zoom {σ τ : Type} {get : σ → τ} {set : σ → τ → σ} {x : Fallible ε τ α} {s : σ} :
    (zoom get set x).run s = ((x.run (get s)).1, set s (x.run (get s)).2) := rfl

lemma run_zoom_eq_ok {σ τ : Type} {get : σ → τ} {set : σ → τ → σ} {x : Fallible ε τ α} {s s' : σ}
    {a : α} : (zoom get set x).run s = (.ok a, s') ↔
      ∃ t, x.run (get s) = (.ok a, t) ∧ s' = set s t := by
  rw [run_zoom]
  rcases x.run (get s) with ⟨r, t⟩
  constructor
  · intro h
    obtain ⟨rfl, rfl⟩ := Prod.mk.inj h
    exact ⟨t, rfl, rfl⟩
  · rintro ⟨t', h, rfl⟩
    obtain ⟨rfl, rfl⟩ := Prod.mk.inj h
    rfl

@[simp] lemma run_writeAt {xs : List α} :
    (writeAt i xs : Fallible ε (List α) Unit).run l = (.ok (), overwrite l i xs) := rfl

@[simp] lemma run_within {x : Fallible ε (List α) β} : (within i n x).run l =
    ((x.run (window l i (i + n))).1, overwrite l i (x.run (window l i (i + n))).2) := rfl

/-- Fields that are all there are written in their order, and the others stop the writing. -/
lemma run_writeAll {writes : List (Except ε (ℕ × List α))}
    (hbounds : ∀ write ∈ writes, ∀ field, write = .ok field →
      field.1 + field.2.length ≤ l.length) :
    ∃ l', l'.length = l.length ∧
      (writeAll writes).run l = ((fun _ => ()) <$> writes.mapM id, l') ∧
      ∀ fields, writes.mapM id = .ok fields → l' = overwriteAll l fields := by
  induction writes generalizing l with
  | nil =>
    refine ⟨l, rfl, rfl, fun fields h => ?_⟩
    cases h
    rfl
  | cons write writes ih =>
    rw [writeAll, List.mapM_cons]
    cases write with
    | error e =>
      refine ⟨l, rfl, rfl, fun fields h => ?_⟩
      cases h
    | ok field =>
      have hlength : (overwrite l field.1 field.2).length = l.length :=
        length_overwrite (hbounds _ List.mem_cons_self field rfl)
      have hrest : ∀ write ∈ writes, ∀ field', write = .ok field' →
          field'.1 + field'.2.length ≤ (overwrite l field.1 field.2).length := by
        rw [hlength]
        exact fun write hwrite => hbounds write (List.mem_cons_of_mem _ hwrite)
      obtain ⟨l', hl', hrun, hfields⟩ := ih hrest
      refine ⟨l', hl'.trans hlength, ?_, fun fields h => ?_⟩
      · rw [lift_ok_bind, run_bind_of_ok run_writeAt, hrun]
        cases writes.mapM id <;> rfl
      · obtain ⟨_, hfield, h⟩ := bind_eq_ok.mp h
        cases hfield
        obtain ⟨rest, hmap, h⟩ := bind_eq_ok.mp h
        cases h
        exact hfields rest hmap

/-- Fields that are there already. -/
lemma mapM_id_map_ok {γ : Type} (l : List γ) :
    ((l.map Except.ok : List (Except ε γ)).mapM id) = .ok l := by
  induction l with
  | nil => rfl
  | cons a l ih =>
    rw [List.map_cons, List.mapM_cons, ih]
    rfl

end ArcadiaTio.Lib.Fallible
