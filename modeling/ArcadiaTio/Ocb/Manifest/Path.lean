import ArcadiaTio.Lib.LexicalPath
import ArcadiaTio.Ocb.Error

/-!
# Paths in a manifest

A manifest names its artifacts by paths relative to its own directory (`manifest.rs`).  Three
checks guard them: the host's own reading of the path, a look for a drive prefix, and a split at
both kinds of separators.  `manifestPaths_confined` says what they amount to, and that an accepted
path stays below every root it is joined to, whichever separators its reader knows.

The host is a Unix one: its paths know the separator `/` only, and reading them drops empty
components and every `.` but a leading one.
-/

namespace ArcadiaTio.Ocb

open ArcadiaTio.Lib LexicalPath

/-! ### Paths of the host -/

/-- The separator of portable paths. -/
def isSlash (c : Char) : Bool := c == '/'

/-- The separators of host paths. -/
def isSlashOrBackslash (c : Char) : Bool := c == '/' || c == '\\'

/-- A component of a host path. -/
inductive PathComponent
  | rootDir
  | curDir
  | parentDir
  | normal (name : List Char)
deriving DecidableEq, Repr

/-- What a host path makes of the text between two separators. -/
def PathComponent.parse (c : List Char) : Option PathComponent :=
  if c = [] ∨ c = ['.'] then none
  else if c = ['.', '.'] then some .parentDir
  else some (.normal c)

/-- The components of a host path; a `.` counts only at the very beginning of a relative one. -/
def pathComponents (path : List Char) : List PathComponent :=
  let parts := components isSlash path
  (if isAbsolute isSlash path then [.rootDir]
    else if parts.head? = some ['.'] then [.curDir]
    else []) ++ parts.filterMap PathComponent.parse

/-! ### The check -/

/-- The path begins with an ASCII letter and a colon. -/
def HasDrivePrefix : List Char → Prop
  | letter :: colon :: _ => letter.isAlpha ∧ colon = ':'
  | _ => False

instance : (path : List Char) → Decidable (HasDrivePrefix path)
  | [] => inferInstanceAs (Decidable False)
  | [_] => inferInstanceAs (Decidable False)
  | letter :: colon :: _ => inferInstanceAs (Decidable (letter.isAlpha ∧ colon = ':'))

/-- The path has a component that is empty or navigates, at either kind of separator. -/
def HasUnsafeLexicalComponent (path : List Char) : Prop :=
  ∃ c ∈ components isSlashOrBackslash path, ¬ Ordinary c

instance (path : List Char) : Decidable (HasUnsafeLexicalComponent path) :=
  inferInstanceAs (Decidable (∃ c ∈ components isSlashOrBackslash path, ¬ Ordinary c))

/-- The component is a plain name. -/
def PathComponent.IsNormal : PathComponent → Prop
  | normal _ => True
  | _ => False

instance : (c : PathComponent) → Decidable c.IsNormal
  | .normal _ => inferInstanceAs (Decidable True)
  | .rootDir => inferInstanceAs (Decidable False)
  | .curDir => inferInstanceAs (Decidable False)
  | .parentDir => inferInstanceAs (Decidable False)

/-- Validate a manifest-relative artifact path without touching the file system. -/
def validateManifestRelativePath (path : String) : Result Unit := do
  let relative := path.toList
  failIf (relative = [] ∨ isAbsolute isSlash relative = true) (ocbDiagnostic .unsafeManifestPath
    "channel-sharded OCB artifact path must be non-empty and relative")
  failIf (HasDrivePrefix relative) (ocbDiagnostic .unsafeManifestPath
    "channel-sharded OCB artifact path contains a platform prefix")
  failIf (HasUnsafeLexicalComponent relative) (ocbDiagnostic .unsafeManifestPath
    "channel-sharded OCB artifact path contains an unsafe lexical component")
  failIf (∃ c ∈ pathComponents relative, ¬ c.IsNormal) (ocbDiagnostic .unsafeManifestPath
    "channel-sharded OCB artifact path contains an unsafe component")

/-- Resolve an artifact path against the parent directory of the manifest; a manifest without
one is looked up in the current directory. -/
def resolveManifestRelativeArtifactPath (parent : Option (List Char)) (relativePath : String) :
    Result (List Char) := do
  validateManifestRelativePath relativePath
  let root := (parent.filter (· ≠ [])).getD ['.']
  return join '/' root relativePath.toList

/-! ### What the checks amount to -/

section Accepted

variable {path : List Char}

lemma le_slashOrBackslash (x : Char) (h : isSlash x = true) : isSlashOrBackslash x = true := by
  rw [isSlashOrBackslash, Bool.or_eq_true]
  exact .inl h

lemma forall_ordinary_slash (h : ∀ c ∈ components isSlashOrBackslash path, Ordinary c) :
    ∀ c ∈ components isSlash path, Ordinary c :=
  forall_ordinary_of_le le_slashOrBackslash (by decide) h

lemma parse_of_ordinary {c : List Char} (h : Ordinary c) :
    PathComponent.parse c = some (.normal c) := by
  obtain ⟨hempty, hdot, hdots⟩ := h
  rw [PathComponent.parse, if_neg (not_or.mpr ⟨hempty, hdot⟩), if_neg hdots]

/-- The host reads nothing but names in a path of ordinary components: the split at both
separators decides its check. -/
lemma isNormal_of_forall_ordinary (h : ∀ c ∈ components isSlashOrBackslash path, Ordinary c) :
    ∀ c ∈ pathComponents path, c.IsNormal := by
  have hslash := forall_ordinary_slash h
  obtain ⟨x, rest, hpath, hx⟩ := head_of_forall_ordinary hslash
  have hrelative : isAbsolute isSlash path = false := by
    rw [hpath]
    exact hx
  have hhead : (components isSlash path).head? ≠ some ['.'] := by
    intro hdot
    exact (hslash _ (List.mem_of_head? hdot)).2.1 rfl
  intro c hc
  rw [pathComponents, hrelative, if_neg (by decide), if_neg hhead, List.nil_append,
    List.mem_filterMap] at hc
  obtain ⟨part, hpart, hparse⟩ := hc
  rw [parse_of_ordinary (hslash part hpart), Option.some.injEq] at hparse
  rw [← hparse]
  trivial

/-- A path of ordinary components is not empty and not absolute. -/
lemma relative_of_forall_ordinary (h : ∀ c ∈ components isSlashOrBackslash path, Ordinary c) :
    ¬ (path = [] ∨ isAbsolute isSlash path = true) := by
  obtain ⟨x, rest, rfl, hx⟩ := head_of_forall_ordinary (forall_ordinary_slash h)
  rintro (hnil | habsolute)
  · cases hnil
  · rw [isAbsolute, List.head?_cons, Option.any_some, hx] at habsolute
    cases habsolute

end Accepted

/-- Of the four checks, the drive prefix and the split decide. -/
lemma isOk_validateManifestRelativePath {path : String} :
    IsOk (validateManifestRelativePath path) ↔
      ¬ HasDrivePrefix path.toList ∧
        ∀ c ∈ components isSlashOrBackslash path.toList, Ordinary c := by
  constructor
  · rintro ⟨_, h⟩
    obtain ⟨_, -, h⟩ := bind_eq_ok.mp h
    obtain ⟨_, hdrive, h⟩ := bind_eq_ok.mp h
    obtain ⟨_, hlexical, -⟩ := bind_eq_ok.mp h
    refine ⟨failIf_eq_ok.mp hdrive, fun c hc => ?_⟩
    by_contra hbad
    exact failIf_eq_ok.mp hlexical ⟨c, hc, hbad⟩
  · rintro ⟨hdrive, hordinary⟩
    have hlexical : ¬ HasUnsafeLexicalComponent path.toList := by
      rintro ⟨c, hc, hbad⟩
      exact hbad (hordinary c hc)
    have hhost : ¬ ∃ c ∈ pathComponents path.toList, ¬ c.IsNormal := by
      rintro ⟨c, hc, hbad⟩
      exact hbad (isNormal_of_forall_ordinary hordinary c hc)
    refine ⟨(), ?_⟩
    rw [validateManifestRelativePath, failIf_neg (relative_of_forall_ordinary hordinary), ok_bind, failIf_neg hdrive, ok_bind,
      failIf_neg hlexical, ok_bind, failIf_neg hhost]

/-- Which paths a manifest may hold, and where they lead. -/
structure ManifestPathsConfined : Prop where
  /-- Exactly the paths of these forms are accepted. -/
  accepts : ∀ path : String, IsOk (validateManifestRelativePath path) ↔
    path ≠ "" ∧ isAbsolute isSlashOrBackslash path.toList = false ∧
      ¬ HasDrivePrefix path.toList ∧
        ∀ c ∈ components isSlashOrBackslash path.toList, c ≠ [] ∧ c ≠ ['.'] ∧ c ≠ ['.', '.']
  /-- An accepted path joined to a root lies strictly below the root, for readers of one kind of
  separator and for readers of both. -/
  below : ∀ (root : List Char) (path : String), IsOk (validateManifestRelativePath path) →
    ∀ isSep ∈ [isSlash, isSlashOrBackslash],
      (normalize isSep root).Below (normalize isSep (join '/' root path.toList))
  /-- So does a resolved path, below the directory of the manifest. -/
  resolved : ∀ parent path target,
    resolveManifestRelativeArtifactPath parent path = .ok target →
      ∀ isSep ∈ [isSlash, isSlashOrBackslash],
        (normalize isSep ((parent.filter (· ≠ [])).getD ['.'])).Below (normalize isSep target)

/-- Every accepted path stays below every root. -/
theorem manifestPaths_confined : ManifestPathsConfined := by
  have hbelow : ∀ (root : List Char) (path : String), IsOk (validateManifestRelativePath path) →
      ∀ isSep ∈ [isSlash, isSlashOrBackslash],
        (normalize isSep root).Below (normalize isSep (join '/' root path.toList)) := by
    intro root path hpath isSep hsep
    obtain ⟨-, hordinary⟩ := isOk_validateManifestRelativePath.mp hpath
    rcases List.mem_cons.mp hsep with rfl | hsep
    · exact below_join (by decide) (forall_ordinary_slash hordinary)
    · rw [List.mem_singleton.mp hsep]
      exact below_join (by decide) hordinary
  refine ⟨fun path => ?_, hbelow, ?_⟩
  · rw [isOk_validateManifestRelativePath]
    constructor
    · rintro ⟨hdrive, hordinary⟩
      obtain ⟨x, rest, hpath, hx⟩ := head_of_forall_ordinary hordinary
      refine ⟨?_, ?_, hdrive, hordinary⟩
      · rintro rfl
        cases hpath
      · rw [hpath]
        exact hx
    · rintro ⟨-, -, hdrive, hordinary⟩
      exact ⟨hdrive, hordinary⟩
  · intro parent path target h
    obtain ⟨_, hvalid, h⟩ := bind_eq_ok.mp h
    cases h
    exact hbelow _ path ⟨_, hvalid⟩

-- A path that the host reads as harmless and another reader would not.
example : ¬ IsOk (validateManifestRelativePath "a\\..\\..\\b") := by
  rw [isOk_validateManifestRelativePath]
  decide

end ArcadiaTio.Ocb
