import Mathlib.Tactic.Ring

/-!
# Windows of a list

`window l i j` are the elements of a list at the positions from `i` up to `j`, and
`overwrite l i xs` puts a list in the place of the elements from `i` on.  Several fields are put
in place one after the other by `overwriteAll`: what lies outside all of them is unchanged, and
fields in order read back (`window_overwriteAll_of_mem`).  A list is determined by its windows
along fields that cover it (`eq_of_windows`).
-/

namespace ArcadiaTio.Lib

variable {α : Type*} {l l' xs ys : List α} {a : α} {i j k n : ℕ}

/-- The elements at the positions from `i` up to `j`. -/
def window (l : List α) (i j : ℕ) : List α := (l.take j).drop i

/-- The list with `xs` in the place of as many elements from position `i` on. -/
def overwrite (l : List α) (i : ℕ) (xs : List α) : List α :=
  l.take i ++ (xs ++ l.drop (i + xs.length))

/-- Several lists put in place one after the other, each with its position. -/
def overwriteAll (l : List α) (fields : List (ℕ × List α)) : List α :=
  fields.foldl (fun l field => overwrite l field.1 field.2) l

/-! ### Windows -/

lemma length_window (h : j ≤ l.length) : (window l i j).length = j - i := by
  rw [window, List.length_drop, List.length_take, Nat.min_eq_left h]

lemma window_all (h : l.length = n) : window l 0 n = l := by
  subst h
  rw [window, List.take_length, List.drop_zero]

/-- Two windows side by side are one. -/
lemma window_append_window (hij : i ≤ j) (hjk : j ≤ k) :
    window l i j ++ window l j k = window l i k := by
  have hsplit : l.take k = l.take j ++ (l.take k).drop j := by
    have h := List.take_append_drop j (l.take k)
    rw [List.take_take, Nat.min_eq_left hjk] at h
    exact h.symm
  by_cases hj : j ≤ l.length
  · have hi : i ≤ (l.take j).length := by
      rw [List.length_take, Nat.min_eq_left hj]
      exact hij
    rw [window, window, window, hsplit, List.drop_append_of_le_length hi, ← hsplit]
  · have hlong : l.length ≤ j := by omega
    rw [window, window, window, List.take_of_length_le hlong,
      List.take_of_length_le (hlong.trans hjk), List.drop_eq_nil_of_le hlong, List.append_nil]

lemma window_append_left (h : j ≤ l.length) : window (l ++ l') i j = window l i j := by
  rw [window, window, List.take_append_of_le_length h]

lemma window_append_right (h : l.length ≤ i) :
    window (l ++ l') i j = window l' (i - l.length) (j - l.length) := by
  by_cases hj : l.length ≤ j
  · rw [window, window, List.take_append, List.take_of_length_le hj, List.drop_append,
      List.drop_eq_nil_of_le h, List.nil_append]
  · have hempty : (l ++ l').take j = l.take j :=
      List.take_append_of_le_length (by omega)
    have hdrop : (l.take j).drop i = [] := by
      apply List.drop_eq_nil_of_le
      rw [List.length_take]
      omega
    have hzero : j - l.length = 0 := by omega
    rw [window, window, hempty, hdrop, hzero, List.take_zero, List.drop_nil]

/-- The window that a part of a concatenation fills. -/
lemma window_append_part (hi : l.length = i) (hj : i + xs.length = j) :
    window (l ++ (xs ++ l')) i j = xs := by
  subst hi hj
  rw [window_append_right le_rfl, Nat.sub_self, Nat.add_sub_cancel_left,
    window_append_left le_rfl, window_all rfl]

/-! ### Writing -/

lemma overwrite_zero (l xs : List α) : overwrite l 0 xs = xs ++ l.drop xs.length := by
  rw [overwrite, List.take_zero, List.nil_append, Nat.zero_add]

lemma length_overwrite (h : i + xs.length ≤ l.length) : (overwrite l i xs).length = l.length := by
  simp only [overwrite, List.length_append, List.length_take, List.length_drop]
  omega

lemma window_overwrite (h : i ≤ l.length) (hj : i + xs.length = j) :
    window (overwrite l i xs) i j = xs :=
  window_append_part (by rw [List.length_take, Nat.min_eq_left h]) hj

/-- A window beside what is written is unchanged. -/
lemma window_overwrite_of_disjoint (hi : i + xs.length ≤ l.length)
    (h : k ≤ i ∨ i + xs.length ≤ j) : window (overwrite l i xs) j k = window l j k := by
  have hleft : (l.take i).length = i := by
    rw [List.length_take]
    omega
  rcases h with h | h
  · rw [overwrite, window_append_left (by omega), window, window, List.take_take,
      Nat.min_eq_left h]
  · have hsplit : l = l.take (i + xs.length) ++ l.drop (i + xs.length) :=
      (List.take_append_drop _ l).symm
    have hbefore : (l.take (i + xs.length)).length = i + xs.length := by
      rw [List.length_take]
      omega
    have hwritten : (l.take i ++ xs).length = i + xs.length := by
      rw [List.length_append, hleft]
    rw [overwrite, ← List.append_assoc, window_append_right (by omega), hwritten]
    conv_rhs => rw [hsplit, window_append_right (by omega), hbefore]

/-! ### Fields -/

variable {fields : List (ℕ × List α)} {field : ℕ × List α}

/-- The fields stand from left to right between the positions `i` and `n`. -/
def InOrder : ℕ → List (ℕ × List α) → ℕ → Prop
  | i, [], n => i ≤ n
  | i, field :: fields, n => i ≤ field.1 ∧ InOrder (field.1 + field.2.length) fields n

/-- The fields follow on one another from position `i` up to `n`. -/
def Contiguous : ℕ → List (ℕ × List α) → ℕ → Prop
  | i, [], n => i = n
  | i, field :: fields, n => field.1 = i ∧ Contiguous (i + field.2.length) fields n

lemma Contiguous.inOrder (h : Contiguous i fields n) : InOrder i fields n := by
  induction fields generalizing i with
  | nil => exact Nat.le_of_eq h
  | cons field fields ih =>
    obtain ⟨rfl, h⟩ := h
    exact ⟨Nat.le_refl _, ih h⟩

lemma InOrder.le (h : InOrder i fields n) : i ≤ n := by
  induction fields generalizing i with
  | nil => exact h
  | cons field fields ih =>
    have := ih h.2
    have := h.1
    omega

lemma InOrder.mono (h : InOrder j fields n) (hij : i ≤ j) : InOrder i fields n := by
  cases fields with
  | nil => exact hij.trans h
  | cons field fields => exact ⟨hij.trans h.1, h.2⟩

lemma InOrder.bounds (h : InOrder i fields n) (hmem : field ∈ fields) :
    i ≤ field.1 ∧ field.1 + field.2.length ≤ n := by
  induction fields generalizing i with
  | nil => cases hmem
  | cons first fields ih =>
    obtain ⟨hi, htail⟩ := h
    rcases List.mem_cons.mp hmem with rfl | hmem
    · exact ⟨hi, htail.le⟩
    · have := ih htail hmem
      omega

lemma length_overwriteAll (h : InOrder i fields l.length) :
    (overwriteAll l fields).length = l.length := by
  induction fields generalizing i l with
  | nil => rfl
  | cons field fields ih =>
    have hlength := length_overwrite (l := l) (h.bounds List.mem_cons_self).2
    have htail : InOrder (field.1 + field.2.length) fields (overwrite l field.1 field.2).length := by
      rw [hlength]
      exact h.2
    exact (ih htail).trans hlength

/-- A window beside all the fields is unchanged. -/
lemma window_overwriteAll_of_disjoint (h : InOrder i fields l.length)
    (hdisjoint : ∀ field ∈ fields, k ≤ field.1 ∨ field.1 + field.2.length ≤ j) :
    window (overwriteAll l fields) j k = window l j k := by
  induction fields generalizing i l with
  | nil => rfl
  | cons field fields ih =>
    have hbound := (h.bounds List.mem_cons_self).2
    have htail : InOrder (field.1 + field.2.length) fields (overwrite l field.1 field.2).length := by
      rw [length_overwrite hbound]
      exact h.2
    exact (ih htail fun f hf => hdisjoint f (List.mem_cons_of_mem _ hf)).trans
      (window_overwrite_of_disjoint hbound (hdisjoint field List.mem_cons_self))

/-- Fields in order read back. -/
lemma window_overwriteAll_of_mem (h : InOrder i fields l.length) (hmem : field ∈ fields) :
    window (overwriteAll l fields) field.1 (field.1 + field.2.length) = field.2 := by
  induction fields generalizing i l with
  | nil => cases hmem
  | cons first fields ih =>
    have hbound := (h.bounds List.mem_cons_self).2
    have htail : InOrder (first.1 + first.2.length) fields (overwrite l first.1 first.2).length := by
      rw [length_overwrite hbound]
      exact h.2
    rcases List.mem_cons.mp hmem with rfl | hmem
    · -- the fields after this one begin where it ends
      refine (window_overwriteAll_of_disjoint htail fun f hf => ?_).trans
        (window_overwrite (by omega) rfl)
      exact Or.inl (htail.bounds hf).1
    · exact ih htail hmem

/-- What contiguous fields leave of a list from position `i` on. -/
lemma drop_eq_of_windows (h : Contiguous i fields l.length)
    (hwindows : ∀ field ∈ fields, window l field.1 (field.1 + field.2.length) = field.2) :
    l.drop i = fields.flatMap Prod.snd := by
  induction fields generalizing i with
  | nil =>
    rw [show i = l.length from h, List.drop_length]
    rfl
  | cons field fields ih =>
    obtain ⟨rfl, htail⟩ := h
    have hle : field.1 + field.2.length ≤ l.length := htail.inOrder.le
    have hsplit : window l field.1 (field.1 + field.2.length) ++
        window l (field.1 + field.2.length) l.length = window l field.1 l.length :=
      window_append_window (Nat.le_add_right _ _) hle
    have htake : ∀ j, window l j l.length = l.drop j := fun j => by
      rw [window, List.take_length]
    rw [hwindows field List.mem_cons_self, htake, htake,
      ih htail fun f hf => hwindows f (List.mem_cons_of_mem _ hf)] at hsplit
    exact hsplit.symm

/-- A list is determined by its windows along fields that cover it. -/
lemma eq_of_windows (h : Contiguous 0 fields n) (hl : l.length = n) (hl' : l'.length = n)
    (hwindows : ∀ field ∈ fields, window l field.1 (field.1 + field.2.length) = field.2)
    (hwindows' : ∀ field ∈ fields, window l' field.1 (field.1 + field.2.length) = field.2) :
    l = l' := by
  have heq := drop_eq_of_windows (l := l) (by rw [hl]; exact h) hwindows
  have heq' := drop_eq_of_windows (l := l') (by rw [hl']; exact h) hwindows'
  rw [List.drop_zero] at heq heq'
  rw [heq, heq']

/-- A buffer filled with contiguous fields is the one list with these windows. -/
theorem eq_overwriteAll_iff (h : Contiguous 0 fields l'.length) :
    l = overwriteAll l' fields ↔ l.length = l'.length ∧
      ∀ field ∈ fields, window l field.1 (field.1 + field.2.length) = field.2 := by
  constructor
  · rintro rfl
    exact ⟨length_overwriteAll h.inOrder, fun _ hf => window_overwriteAll_of_mem h.inOrder hf⟩
  · rintro ⟨hlength, hwindows⟩
    exact eq_of_windows h hlength (length_overwriteAll h.inOrder) hwindows
      fun _ hf => window_overwriteAll_of_mem h.inOrder hf

/-! ### Windows of a fixed size -/

section Vectors

variable [Inhabited α]

/-- The `n` elements from position `i` on. -/
def windowVector (l : List α) (i n : ℕ) : Vector α n :=
  Vector.ofFn fun k => l.getD (i + k) default

lemma toList_windowVector (h : i + n ≤ l.length) :
    (windowVector l i n).toList = window l i (i + n) := by
  apply List.ext_getElem
  · rw [Vector.length_toList, length_window h]
    omega
  · intro k hk hk'
    rw [Vector.length_toList] at hk
    have hget : l.getD (i + k) default = l[i + k] := by
      rw [List.getD_eq_getElem?_getD, List.getElem?_eq_getElem (by omega), Option.getD_some]
    simp only [windowVector, Vector.getElem_toList, Vector.getElem_ofFn, hget, window,
      List.getElem_drop, List.getElem_take]

end Vectors

/-- A list of pieces of one length, by piece and place. -/
lemma getElem?_flatMap {β : Type*} {f : β → List α} {pieces : List β} (hf : ∀ b, (f b).length = n)
    (hk : k < n) : (pieces.flatMap f)[i * n + k]? = (pieces[i]?.map f).bind (·[k]?) := by
  induction pieces generalizing i with
  | nil => rfl
  | cons piece pieces ih =>
    rw [List.flatMap_cons]
    cases i with
    | zero =>
      rw [List.getElem?_append_left (by rw [hf]; omega), Nat.zero_mul, Nat.zero_add]
      rfl
    | succ i =>
      have hplace : (i + 1) * n + k = (f piece).length + (i * n + k) := by
        rw [hf]
        ring
      rw [hplace, List.getElem?_append_right (Nat.le_add_right _ _), Nat.add_sub_cancel_left, ih,
        List.getElem?_cons_succ]

lemma window_succ (h : i < l.length) : window l i (i + 1) = [l.getD i a] := by
  apply List.ext_getElem
  · rw [length_window h]
    simp
  · intro k hk hk'
    have hzero : k = 0 := by simpa using hk'
    subst hzero
    simp [window, List.getElem?_eq_getElem h]

end ArcadiaTio.Lib
