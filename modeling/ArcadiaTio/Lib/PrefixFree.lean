import ArcadiaTio.Lib.Bytes

/-!
# Prefix-free codes

An encoder is prefix free on a set of values when, in front of whatever follows, the words of two
different values never agree: a stream that begins with a code word determines the value and the
rest of the stream.  Prefix-free encoders compose by concatenation, under tags, and over lists
whose length is known.
-/

namespace ArcadiaTio.Lib

variable {α β γ : Type}

/-- A stream that begins with the word of a value in `P` determines the value and the rest. -/
def PrefixFreeOn (P : α → Prop) (enc : α → List γ) : Prop :=
  ∀ ⦃a b : α⦄, P a → P b → ∀ ⦃s t : List γ⦄, enc a ++ s = enc b ++ t → a = b ∧ s = t

/-- Prefix free on all values. -/
abbrev PrefixFree (enc : α → List γ) : Prop := PrefixFreeOn (fun _ => True) enc

namespace PrefixFreeOn

variable {P : α → Prop} {enc : α → List γ}

/-- The first word of a stream, read off. -/
lemma head (h : PrefixFree enc) {a b : α} {s t : List γ} (heq : enc a ++ s = enc b ++ t) :
    a = b ∧ s = t := h trivial trivial heq

/-- Words of one length are prefix free when they are different. -/
lemma of_length {n : ℕ} (hlen : ∀ a, P a → (enc a).length = n)
    (hinj : ∀ a b, P a → P b → enc a = enc b → a = b) : PrefixFreeOn P enc := by
  intro a b ha hb s t h
  obtain ⟨hword, hrest⟩ := List.append_inj h ((hlen a ha).trans (hlen b hb).symm)
  exact ⟨hinj a b ha hb hword, hrest⟩

/-- Two lists of one length whose words agree in front of two streams are equal. -/
lemma flatMap (h : PrefixFreeOn P enc) {as bs : List α} (ha : ∀ a ∈ as, P a) (hb : ∀ b ∈ bs, P b)
    (hlen : as.length = bs.length) {s t : List γ}
    (heq : as.flatMap enc ++ s = bs.flatMap enc ++ t) : as = bs ∧ s = t := by
  induction as generalizing bs with
  | nil =>
    have hnil : bs = [] := List.length_eq_zero_iff.mp hlen.symm
    subst hnil
    exact ⟨rfl, heq⟩
  | cons a as ih =>
    cases bs with
    | nil => exact absurd hlen (Nat.succ_ne_zero _)
    | cons b bs =>
      rw [List.flatMap_cons, List.flatMap_cons, List.append_assoc, List.append_assoc] at heq
      obtain ⟨rfl, htail⟩ := h (ha a (by simp)) (hb b (by simp)) heq
      have hlen' : as.length = bs.length := Nat.succ.inj hlen
      obtain ⟨rfl, hrest⟩ := ih (fun a' ha' => ha a' (by simp [ha']))
        (fun b' hb' => hb b' (by simp [hb'])) hlen' htail
      exact ⟨rfl, hrest⟩

/-- A list behind a word for its length. -/
lemma counted {count : ℕ → List γ} {Q : ℕ → Prop} (hcount : PrefixFreeOn Q count)
    (h : PrefixFreeOn P enc) :
    PrefixFreeOn (fun as : List α => Q as.length ∧ ∀ a ∈ as, P a)
      (fun as => count as.length ++ as.flatMap enc) := by
  rintro as bs ⟨hqa, hpa⟩ ⟨hqb, hpb⟩ s t heq
  rw [List.append_assoc, List.append_assoc] at heq
  obtain ⟨hlen, hwords⟩ := hcount hqa hqb heq
  exact h.flatMap hpa hpb hlen hwords

/-- An optional value behind a presence tag. -/
lemma option {yes no : γ} (htag : yes ≠ no) (h : PrefixFreeOn P enc) :
    PrefixFreeOn (fun o : Option α => ∀ a ∈ o, P a)
      (fun o => match o with
        | some a => yes :: enc a
        | none => [no]) := by
  intro o o' ho ho' s t heq
  cases o with
  | none =>
    cases o' with
    | none => exact ⟨rfl, List.cons.inj heq |>.2⟩
    | some b => exact absurd (List.cons.inj heq).1 htag.symm
  | some a =>
    cases o' with
    | none => exact absurd (List.cons.inj heq).1 htag
    | some b =>
      obtain ⟨rfl, hrest⟩ := h (ho a rfl) (ho' b rfl) (List.cons.inj heq).2
      exact ⟨rfl, hrest⟩

end PrefixFreeOn

/-! ### Little-endian words -/

lemma prefixFreeOn_leBytes (k : ℕ) : PrefixFreeOn (· < 256 ^ k) (leBytes k) := by
  refine .of_length (fun n _ => leBytes_length k n) fun m n hm hn h => ?_
  rw [← leNat_leBytes_of_lt hm, h, leNat_leBytes_of_lt hn]

/-- The word of a value whose number fits determines the value. -/
lemma prefixFree_leBytes_comp {k : ℕ} {val : α → ℕ} (hlt : ∀ a, val a < 256 ^ k)
    (hinj : ∀ a b, val a = val b → a = b) : PrefixFree (fun a => leBytes k (val a)) := by
  intro a b _ _ s t h
  obtain ⟨hval, hrest⟩ := prefixFreeOn_leBytes k (hlt a) (hlt b) h
  exact ⟨hinj a b hval, hrest⟩

end ArcadiaTio.Lib
