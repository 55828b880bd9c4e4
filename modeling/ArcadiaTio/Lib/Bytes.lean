import Mathlib.Tactic.Ring
import ArcadiaTio.Lib.Fallible

/-!
# Little-endian words and byte decoders

* `leNat`/`leBytes`: little-endian numbers of any width, inverse to each other;
* `Decoder ε α`: a decoder that consumes a prefix of its input and hands on the rest.

A decoder of a fixed-width word reads back what the corresponding encoder wrote and leaves
what follows untouched (`uint16_encode`, `uint32_encode`, `uint64_encode`).
-/

namespace ArcadiaTio.Lib

/-! ### Little-endian numbers -/

/-- The number whose little-endian base-256 digits are the given bytes. -/
def leNat : List UInt8 → ℕ
  | [] => 0
  | b :: bs => b.toNat + 256 * leNat bs

/-- The `k` low bytes of a number, least significant first. -/
def leBytes : ℕ → ℕ → List UInt8
  | 0, _ => []
  | k + 1, n => n.toUInt8 :: leBytes k (n / 256)

@[simp] lemma leBytes_length (k n : ℕ) : (leBytes k n).length = k := by
  induction k generalizing n with
  | zero => rfl
  | succ k ih => simp [leBytes, ih]

lemma leNat_leBytes (k n : ℕ) : leNat (leBytes k n) = n % 256 ^ k := by
  induction k generalizing n with
  | zero => simp [leBytes, leNat, Nat.mod_one]
  | succ k ih =>
    have hb : n.toUInt8.toNat = n % 256 := by simp
    rw [leBytes, leNat, ih, hb, pow_succ', Nat.mod_mul]

lemma leNat_leBytes_of_lt {k n : ℕ} (h : n < 256 ^ k) : leNat (leBytes k n) = n := by
  rw [leNat_leBytes, Nat.mod_eq_of_lt h]

lemma leNat_lt (bs : List UInt8) : leNat bs < 256 ^ bs.length := by
  induction bs with
  | nil => simp [leNat]
  | cons b bs ih =>
    have hb : b.toNat < 256 := b.toNat_lt
    rw [leNat, List.length_cons, pow_succ']
    omega

lemma leBytes_leNat (bs : List UInt8) : leBytes bs.length (leNat bs) = bs := by
  induction bs with
  | nil => rfl
  | cons b bs ih =>
    have hb : b.toNat < 256 := b.toNat_lt
    have hmod : (b.toNat + 256 * leNat bs) / 256 = leNat bs := by omega
    have hlow : (b.toNat + 256 * leNat bs).toUInt8 = b := by
      apply UInt8.toNat_inj.mp
      simp only [UInt8.toNat_ofNat', Nat.toUInt8_eq]
      omega
    rw [List.length_cons, leNat, leBytes, hmod, hlow, ih]

/-! ### Decoders -/

/-- A decoder consumes a prefix of the bytes it is given. -/
abbrev Decoder (ε : Type) := StateT (List UInt8) (Except ε)

namespace Decoder

variable {ε α β : Type} {e : ε}

/-- The next `n` bytes, or the failure `e` when fewer are left. -/
def take (n : ℕ) (e : ε) : Decoder ε (List UInt8) := fun bs =>
  if n ≤ bs.length then .ok (bs.take n, bs.drop n) else .error e

/-- An unsigned 8-bit word. -/
def uint8 (e : ε) : Decoder ε UInt8 := do
  let bs ← take 1 e
  return (leNat bs).toUInt8

/-- A little-endian unsigned 16-bit word. -/
def uint16 (e : ε) : Decoder ε UInt16 := do
  let bs ← take 2 e
  return (leNat bs).toUInt16

/-- A little-endian unsigned 32-bit word. -/
def uint32 (e : ε) : Decoder ε UInt32 := do
  let bs ← take 4 e
  return (leNat bs).toUInt32

/-- A little-endian unsigned 64-bit word. -/
def uint64 (e : ε) : Decoder ε UInt64 := do
  let bs ← take 8 e
  return (leNat bs).toUInt64

/-- Apply one decoder a given number of times. -/
def repeatN (d : Decoder ε α) : ℕ → Decoder ε (List α)
  | 0 => return []
  | n + 1 => do
    let a ← d
    let as ← repeatN d n
    return a :: as

/-! Running a decoder. -/

lemma run_bind (d : Decoder ε α) (f : α → Decoder ε β) (bs : List UInt8) :
    (d >>= f).run bs = d.run bs >>= fun p => (f p.1).run p.2 := rfl

lemma run_bind_of_ok {d : Decoder ε α} {f : α → Decoder ε β} {bs rest : List UInt8} {a : α}
    (h : d.run bs = .ok (a, rest)) : (d >>= f).run bs = (f a).run rest := by
  rw [run_bind, h]
  rfl

lemma run_take_append {bs rest : List UInt8} {n : ℕ} (h : bs.length = n) :
    (take n e).run (bs ++ rest) = .ok (bs, rest) := by
  subst h
  simp [take, StateT.run]

lemma run_take_all {bs : List UInt8} {n : ℕ} (h : bs.length = n) :
    (take n e).run bs = .ok (bs, []) := by
  subst h
  simp [take, StateT.run]

lemma run_uint8_encode (v : UInt8) (rest : List UInt8) :
    (uint8 e).run (leBytes 1 v.toNat ++ rest) = .ok (v, rest) := by
  rw [uint8, run_bind_of_ok (run_take_append (leBytes_length _ _)),
    leNat_leBytes_of_lt (by simpa using v.toNat_lt)]
  simp

lemma run_uint16_encode (v : UInt16) (rest : List UInt8) :
    (uint16 e).run (leBytes 2 v.toNat ++ rest) = .ok (v, rest) := by
  rw [uint16, run_bind_of_ok (run_take_append (leBytes_length _ _)),
    leNat_leBytes_of_lt (by simpa using v.toNat_lt)]
  simp

lemma run_uint32_encode (v : UInt32) (rest : List UInt8) :
    (uint32 e).run (leBytes 4 v.toNat ++ rest) = .ok (v, rest) := by
  rw [uint32, run_bind_of_ok (run_take_append (leBytes_length _ _)),
    leNat_leBytes_of_lt (by simpa using v.toNat_lt)]
  simp

lemma run_uint64_encode (v : UInt64) (rest : List UInt8) :
    (uint64 e).run (leBytes 8 v.toNat ++ rest) = .ok (v, rest) := by
  rw [uint64, run_bind_of_ok (run_take_append (leBytes_length _ _)),
    leNat_leBytes_of_lt (by simpa using v.toNat_lt)]
  simp

/-- A decoder that reads back every record of a list reads back the list. -/
lemma run_repeatN_encode {d : Decoder ε α} {enc : α → List UInt8} {as : List α}
    (h : ∀ a ∈ as, ∀ rest, d.run (enc a ++ rest) = .ok (a, rest)) (rest : List UInt8) :
    (repeatN d as.length).run (as.flatMap enc ++ rest) = .ok (as, rest) := by
  induction as with
  | nil => rfl
  | cons a as ih =>
    rw [List.length_cons, repeatN, List.flatMap_cons, List.append_assoc,
      run_bind_of_ok (h a (by simp) _), run_bind_of_ok (ih fun b hb => h b (by simp [hb]))]
    rfl

/-- The same for a decoder that keeps a value computed from each record, and that may look at how
much is left: the records stand before a fixed rest, in at most `n` bytes. -/
lemma run_repeatN_encode_within {d : Decoder ε β} {enc : α → List UInt8} {val : α → β}
    {as : List α} {rest : List UInt8} {n : ℕ}
    (h : ∀ a ∈ as, ∀ pre, (enc a ++ (pre ++ rest)).length ≤ n →
      d.run (enc a ++ (pre ++ rest)) = .ok (val a, pre ++ rest))
    (hn : (as.flatMap enc ++ rest).length ≤ n) :
    (repeatN d as.length).run (as.flatMap enc ++ rest) = .ok (as.map val, rest) := by
  induction as with
  | nil => rfl
  | cons a as ih =>
    rw [List.flatMap_cons, List.append_assoc] at hn ⊢
    have hrest : (as.flatMap enc ++ rest).length ≤ n := by
      rw [List.length_append] at hn
      omega
    rw [List.length_cons, repeatN, run_bind_of_ok (h a (by simp) _ hn),
      run_bind_of_ok (ih (fun b hb => h b (by simp [hb])) hrest)]
    rfl

lemma run_bind_eq_ok {d : Decoder ε α} {f : α → Decoder ε β} {bs rest : List UInt8} {b : β} :
    (d >>= f).run bs = .ok (b, rest) ↔
      ∃ a mid, d.run bs = .ok (a, mid) ∧ (f a).run mid = .ok (b, rest) := by
  rw [run_bind, bind_eq_ok]
  constructor
  · rintro ⟨⟨a, mid⟩, hd, hf⟩
    exact ⟨a, mid, hd, hf⟩
  · rintro ⟨a, mid, hd, hf⟩
    exact ⟨(a, mid), hd, hf⟩

/-! What a word that was read says about the bytes. -/

lemma run_take_eq_ok {n : ℕ} {a bs rest : List UInt8} :
    (take n e).run bs = .ok (a, rest) ↔ a.length = n ∧ bs = a ++ rest := by
  constructor
  · intro h
    simp only [StateT.run, take] at h
    split at h
    · cases h
      exact ⟨by rw [List.length_take]; omega, (List.take_append_drop n bs).symm⟩
    · cases h
  · rintro ⟨hlen, rfl⟩
    exact run_take_append hlen

lemma run_uint16_eq_ok {v : UInt16} {bs rest : List UInt8} :
    (uint16 e).run bs = .ok (v, rest) ↔ bs = leBytes 2 v.toNat ++ rest := by
  constructor
  · intro h
    obtain ⟨a, mid, ha, hv⟩ := run_bind_eq_ok.mp h
    obtain ⟨hlen, rfl⟩ := run_take_eq_ok.mp ha
    cases hv
    have hlt := leNat_lt a
    rw [hlen] at hlt
    have hcast : (leNat a).toUInt16.toNat = leNat a := by
      simp
      omega
    rw [hcast, ← hlen, leBytes_leNat]
  · rintro rfl
    exact run_uint16_encode v rest

lemma run_uint32_eq_ok {v : UInt32} {bs rest : List UInt8} :
    (uint32 e).run bs = .ok (v, rest) ↔ bs = leBytes 4 v.toNat ++ rest := by
  constructor
  · intro h
    obtain ⟨a, mid, ha, hv⟩ := run_bind_eq_ok.mp h
    obtain ⟨hlen, rfl⟩ := run_take_eq_ok.mp ha
    cases hv
    have hlt := leNat_lt a
    rw [hlen] at hlt
    have hcast : (leNat a).toUInt32.toNat = leNat a := by
      simp
      omega
    rw [hcast, ← hlen, leBytes_leNat]
  · rintro rfl
    exact run_uint32_encode v rest

lemma run_uint64_eq_ok {v : UInt64} {bs rest : List UInt8} :
    (uint64 e).run bs = .ok (v, rest) ↔ bs = leBytes 8 v.toNat ++ rest := by
  constructor
  · intro h
    obtain ⟨a, mid, ha, hv⟩ := run_bind_eq_ok.mp h
    obtain ⟨hlen, rfl⟩ := run_take_eq_ok.mp ha
    cases hv
    have hlt := leNat_lt a
    rw [hlen] at hlt
    have hcast : (leNat a).toUInt64.toNat = leNat a := by
      simp
      omega
    rw [hcast, ← hlen, leBytes_leNat]
  · rintro rfl
    exact run_uint64_encode v rest

/-! Error classes of decoders. -/

/-- Every error of a decoder satisfies `P`, whatever its input. -/
def ErrorsIn (P : ε → Prop) (d : Decoder ε α) : Prop := ∀ bs, Lib.ErrorsIn P (d.run bs)

namespace ErrorsIn

variable {P : ε → Prop} {d : Decoder ε α} {f : α → Decoder ε β}

protected lemma pure (a : α) : ErrorsIn P (pure a : Decoder ε α) := fun _ => Lib.ErrorsIn.ok _

protected lemma bind (hd : ErrorsIn P d) (hf : ∀ a, ErrorsIn P (f a)) : ErrorsIn P (d >>= f) := by
  intro bs
  rw [run_bind]
  exact (hd bs).bind fun p _ => hf p.1 p.2

protected lemma lift {x : Except ε α} (hx : Lib.ErrorsIn P x) :
    ErrorsIn P (liftM x : Decoder ε α) := by
  intro bs
  exact hx.bind fun _ _ => Lib.ErrorsIn.ok _

protected lemma take {n : ℕ} {e : ε} (he : P e) : ErrorsIn P (take n e) := by
  intro bs e' h
  simp only [StateT.run, Decoder.take] at h
  split at h
  · cases h
  · cases h
    exact he

protected lemma uint8 {e : ε} (he : P e) : ErrorsIn P (uint8 e) :=
  (ErrorsIn.take he).bind fun _ => .pure _

protected lemma uint16 {e : ε} (he : P e) : ErrorsIn P (uint16 e) :=
  (ErrorsIn.take he).bind fun _ => .pure _

protected lemma uint32 {e : ε} (he : P e) : ErrorsIn P (uint32 e) :=
  (ErrorsIn.take he).bind fun _ => .pure _

protected lemma uint64 {e : ε} (he : P e) : ErrorsIn P (uint64 e) :=
  (ErrorsIn.take he).bind fun _ => .pure _

protected lemma repeatN (hd : ErrorsIn P d) (n : ℕ) : ErrorsIn P (repeatN d n) := by
  induction n with
  | zero => exact .pure _
  | succ n ih => exact hd.bind fun _ => ih.bind fun _ => .pure _

end ErrorsIn

/-! What a repeated decoder returned. -/

lemma length_of_run_repeatN {d : Decoder ε α} {n : ℕ} {bs rest : List UInt8} {as : List α}
    (h : (repeatN d n).run bs = .ok (as, rest)) : as.length = n := by
  induction n generalizing bs as with
  | zero =>
    cases h
    rfl
  | succ n ih =>
    obtain ⟨a, mid, -, htail⟩ := run_bind_eq_ok.mp h
    obtain ⟨as', rest', htail, hpure⟩ := run_bind_eq_ok.mp htail
    cases hpure
    rw [List.length_cons, ih htail]

/-- What a decoder ensures of its value, its repetition ensures of every value. -/
lemma forall_mem_of_run_repeatN {d : Decoder ε α} {P : α → Prop}
    (h : ∀ bs a rest, d.run bs = .ok (a, rest) → P a) {n : ℕ} {bs rest : List UInt8} {as : List α}
    (hrun : (repeatN d n).run bs = .ok (as, rest)) : ∀ a ∈ as, P a := by
  induction n generalizing bs as with
  | zero =>
    cases hrun
    simp
  | succ n ih =>
    obtain ⟨a, mid, ha, htail⟩ := run_bind_eq_ok.mp hrun
    obtain ⟨as', rest', htail, hpure⟩ := run_bind_eq_ok.mp htail
    cases hpure
    exact List.forall_mem_cons.mpr ⟨h _ _ _ ha, ih htail⟩

/-- A decoder that succeeds wherever another one does, with a value that the other one computes
from it, can be repeated wherever the other one can. -/
lemma run_repeatN_of_run {d : Decoder ε α} {d' : Decoder ε β} {val : β → α}
    (h : ∀ bs a rest, d.run bs = .ok (a, rest) → ∃ b, d'.run bs = .ok (b, rest) ∧ val b = a)
    {n : ℕ} {bs rest : List UInt8} {as : List α} (hrun : (repeatN d n).run bs = .ok (as, rest)) :
    ∃ bs', (repeatN d' n).run bs = .ok (bs', rest) ∧ bs'.map val = as := by
  induction n generalizing bs as with
  | zero =>
    cases hrun
    exact ⟨[], rfl, rfl⟩
  | succ n ih =>
    obtain ⟨a, mid, ha, htail⟩ := run_bind_eq_ok.mp hrun
    obtain ⟨as', rest', htail, hpure⟩ := run_bind_eq_ok.mp htail
    cases hpure
    obtain ⟨b, hb, hval⟩ := h _ _ _ ha
    obtain ⟨bs', hbs', hmap⟩ := ih htail
    refine ⟨b :: bs', ?_, by rw [List.map_cons, hval, hmap]⟩
    rw [repeatN, run_bind_of_ok hb, run_bind_of_ok hbs']
    rfl

end Decoder

end ArcadiaTio.Lib
