import Mathlib.Tactic.ByContra
import Mathlib.Tactic.Lemma

/-!
# Lexical paths

A path is a text that separators cut into components.  Its lexical normal form drops the empty
and the `.` components and lets each `..` take back the component before it, as far as the text
goes.  What counts as a separator is a parameter: the same text read on two platforms has two
normal forms.

Components that are none of these three are *ordinary*; a text of ordinary components only is
appended unchanged (`normalize_join`), whatever it is appended to.  Reading the text with fewer
separators keeps its components ordinary (`forall_ordinary_of_le`).
-/

namespace ArcadiaTio.Lib.LexicalPath

/-- The components of a path: the texts between separators. -/
def components (isSep : Char → Bool) (path : List Char) : List (List Char) := path.splitOnP isSep

/-- A component that names an entry of its directory. -/
def Ordinary (c : List Char) : Prop := c ≠ [] ∧ c ≠ ['.'] ∧ c ≠ ['.', '.']

instance (c : List Char) : Decidable (Ordinary c) :=
  inferInstanceAs (Decidable (c ≠ [] ∧ c ≠ ['.'] ∧ c ≠ ['.', '.']))

/-! ### Normal forms -/

/-- A path in lexical normal form. -/
structure Normal where
  absolute : Bool
  names : List (List Char)
deriving DecidableEq

/-- Add one component to the names met so far.  A `..` with nothing to take back is kept in a
relative path and dropped at the root. -/
def normalizeStep (absolute : Bool) (names : List (List Char)) (c : List Char) :
    List (List Char) :=
  if c = [] ∨ c = ['.'] then names
  else if c = ['.', '.'] then
    match names.getLast? with
    | none => if absolute then [] else [c]
    | some top => if top = ['.', '.'] then names ++ [c] else names.dropLast
  else names ++ [c]

/-- A path is absolute when it begins with a separator. -/
def isAbsolute (isSep : Char → Bool) (path : List Char) : Bool := path.head?.any isSep

/-- The normal form of a path: where it starts, how often it climbs above that, and its names. -/
def normalize (isSep : Char → Bool) (path : List Char) : Normal where
  absolute := isAbsolute isSep path
  names := (components isSep path).foldl (normalizeStep (isAbsolute isSep path)) []

/-- The second path lies strictly below the first. -/
def Normal.Below (p q : Normal) : Prop :=
  q.absolute = p.absolute ∧ ∃ names, names ≠ [] ∧ q.names = p.names ++ names

/-- Append a path to a root, as a platform with the given separator does: an absolute path takes
the place of the root. -/
def join (sep : Char) (root path : List Char) : List Char :=
  if path.head? = some sep then path
  else if root = [] ∨ root.getLast? = some sep then root ++ path
  else root ++ sep :: path

section Normalize

variable {isSep : Char → Bool} {absolute : Bool} {names cs : List (List Char)} {c : List Char}
  {root path : List Char} {sep : Char}

variable (absolute names) in
lemma normalizeStep_nil : normalizeStep absolute names [] = names := if_pos (.inl rfl)

lemma normalizeStep_of_ordinary (h : Ordinary c) :
    normalizeStep absolute names c = names ++ [c] := by
  obtain ⟨hempty, hdot, hdots⟩ := h
  rw [normalizeStep, if_neg (not_or.mpr ⟨hempty, hdot⟩), if_neg hdots]

/-- Ordinary components are added as they are. -/
lemma foldl_normalizeStep (h : ∀ c ∈ cs, Ordinary c) :
    cs.foldl (normalizeStep absolute) names = names ++ cs := by
  induction cs generalizing names with
  | nil => exact (List.append_nil _).symm
  | cons c cs ih =>
    rw [List.foldl_cons, normalizeStep_of_ordinary (h c List.mem_cons_self),
      ih fun c hc => h c (List.mem_cons_of_mem _ hc), List.append_assoc]
    rfl

lemma components_ne_nil : components isSep path ≠ [] := List.splitOnP_ne_nil _ _

/-- A path of ordinary components begins with none of its separators. -/
lemma head_of_forall_ordinary (h : ∀ c ∈ components isSep path, Ordinary c) :
    ∃ x rest, path = x :: rest ∧ isSep x = false := by
  cases path with
  | nil => exact absurd rfl (h [] (List.mem_singleton.mpr rfl)).1
  | cons x rest =>
    refine ⟨x, rest, rfl, ?_⟩
    cases hx : isSep x with
    | false => rfl
    | true =>
      have hmem : [] ∈ components isSep (x :: rest) := by
        rw [components, List.splitOnP_cons_eq_if_modifyHead, if_pos hx]
        exact List.mem_cons_self
      exact absurd rfl (h [] hmem).1

/-- What the components of a root and those of a path add up to, once joined. -/
lemma foldl_components_join (hsep : isSep sep = true) (hhead : path.head? ≠ some sep) :
    (components isSep (join sep root path)).foldl (normalizeStep absolute) names =
      (components isSep path).foldl (normalizeStep absolute)
        ((components isSep root).foldl (normalizeStep absolute) names) := by
  rw [join, if_neg hhead]
  by_cases hroot : root = [] ∨ root.getLast? = some sep
  · rw [if_pos hroot]
    rcases hroot with rfl | hlast
    · have hempty : (components isSep []).foldl (normalizeStep absolute) names = names :=
        normalizeStep_nil absolute names
      rw [List.nil_append, hempty]
    · obtain ⟨init, rfl⟩ := List.getLast?_eq_some_iff.mp hlast
      have happend : init ++ [sep] ++ path = init ++ sep :: path := by
        rw [List.append_assoc]
        rfl
      rw [happend, components, components, components, List.splitOnP_append_cons _ _ hsep,
        List.splitOnP_append_cons _ _ hsep, List.foldl_append, List.foldl_append]
      exact congrArg _ (normalizeStep_nil absolute _).symm
  · rw [if_neg hroot, components, List.splitOnP_append_cons _ _ hsep, List.foldl_append]
    rfl

lemma isAbsolute_join (hhead : path.head? ≠ some sep) (hpath : isAbsolute isSep path = false) :
    isAbsolute isSep (join sep root path) = isAbsolute isSep root := by
  rw [join, if_neg hhead]
  cases root with
  | nil =>
    rw [if_pos (.inl rfl)]
    exact hpath
  | cons x root => split <;> rfl

/-- A path of ordinary components is appended unchanged, whatever the root is. -/
theorem normalize_join (hsep : isSep sep = true) (h : ∀ c ∈ components isSep path, Ordinary c) :
    normalize isSep (join sep root path) =
      ⟨(normalize isSep root).absolute, (normalize isSep root).names ++ components isSep path⟩ := by
  obtain ⟨x, rest, rfl, hx⟩ := head_of_forall_ordinary h
  have hhead : (x :: rest).head? ≠ some sep := by
    intro heq
    rw [List.head?_cons, Option.some.injEq] at heq
    rw [heq, hsep] at hx
    cases hx
  have habsolute : isAbsolute isSep (join sep root (x :: rest)) = isAbsolute isSep root :=
    isAbsolute_join hhead hx
  rw [normalize, habsolute, foldl_components_join hsep hhead, foldl_normalizeStep h]
  rfl

/-- So it ends up strictly below the root. -/
lemma below_join (hsep : isSep sep = true) (h : ∀ c ∈ components isSep path, Ordinary c) :
    (normalize isSep root).Below (normalize isSep (join sep root path)) := by
  rw [normalize_join hsep h]
  exact ⟨rfl, components isSep path, components_ne_nil, rfl⟩

end Normalize

/-! ### Fewer separators -/

section Fewer

variable {few many : Char → Bool} {path : List Char}

/-- Cutting at some of the separators and then at all of them is cutting at all of them. -/
lemma flatMap_components (hle : ∀ x, few x = true → many x = true) :
    (components few path).flatMap (components many) = components many path := by
  unfold components
  induction path with
  | nil => rfl
  | cons x path ih =>
    rw [List.splitOnP_cons_eq_if_modifyHead, List.splitOnP_cons_eq_if_modifyHead]
    by_cases hfew : few x = true
    · rw [if_pos hfew, if_pos (hle x hfew), List.flatMap_cons, ih]
      rfl
    · rw [if_neg hfew]
      obtain ⟨c, cs, hcs⟩ := List.exists_cons_of_ne_nil (List.splitOnP_ne_nil few path)
      rw [hcs, List.flatMap_cons] at ih
      rw [hcs, List.modifyHead_cons, List.flatMap_cons, List.splitOnP_cons_eq_if_modifyHead, ← ih]
      obtain ⟨d, ds, hds⟩ := List.exists_cons_of_ne_nil (List.splitOnP_ne_nil many c)
      rw [hds]
      split <;> rfl

/-- A component that is not ordinary contains no separator but a dot. -/
lemma components_of_not_ordinary (hdot : many '.' = false) {c : List Char} (h : ¬ Ordinary c) :
    components many c = [c] := by
  refine List.splitOnP_eq_singleton fun x hx => ?_
  have hcases : c = [] ∨ c = ['.'] ∨ c = ['.', '.'] := by
    by_contra hnone
    rw [not_or, not_or] at hnone
    exact h hnone
  rcases hcases with rfl | rfl | rfl
  · cases hx
  · rw [List.mem_singleton.mp hx, hdot]
  · have hx' : x = '.' := by simpa using hx
    rw [hx', hdot]

/-- Components that are ordinary for all separators are ordinary for some of them. -/
lemma forall_ordinary_of_le (hle : ∀ x, few x = true → many x = true) (hdot : many '.' = false)
    (h : ∀ c ∈ components many path, Ordinary c) : ∀ c ∈ components few path, Ordinary c := by
  intro c hc
  by_contra hbad
  refine hbad (h c ?_)
  rw [← flatMap_components hle]
  refine List.mem_flatMap.mpr ⟨c, hc, ?_⟩
  rw [components_of_not_ordinary hdot hbad]
  exact List.mem_singleton.mpr rfl

end Fewer

end ArcadiaTio.Lib.LexicalPath
