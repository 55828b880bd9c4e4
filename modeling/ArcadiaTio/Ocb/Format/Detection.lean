import ArcadiaTio.Ocb.Format.RoundTrip

/-!
# Detection of damaged objects

An object that ends in the checksum of its zeroed form is *sealed*.  Replacing one byte of a sealed
object breaks the seal: a byte of the checksum field changes what is stored, any other byte changes
what the checksum covers (`Sealed.not_sealed_set`).  Every decoder verifies the seal before anything
else, so it fails.  The page of a V2 file covers everything but its slot table, whose slots carry
seals of their own.
-/

namespace ArcadiaTio.Ocb

open ArcadiaTio.Lib

/-! ### Seals -/

/-- The trailing field of an object holds the checksum of the object with this field zero. -/
def Sealed (bytes : List UInt8) : Prop :=
  4 ≤ bytes.length ∧ readU32AtEnd bytes = .ok (crc32cZeroedAtEnd bytes)

lemma sealed_sealBytes (fields : List UInt8) : Sealed (sealBytes (fields ++ writeU32 0)) := by
  refine ⟨by rw [length_sealBytes]; omega, ?_⟩
  rw [readU32AtEnd_sealBytes, crc32cZeroedAtEnd_sealBytes]

lemma leNat_injective {a b : List UInt8} (hlen : a.length = b.length) (h : leNat a = leNat b) :
    a = b := by
  rw [← leBytes_leNat a, ← leBytes_leNat b, hlen, h]

/-- The trailing field determines the last four bytes. -/
lemma readU32AtEnd_injective {a b : List UInt8} {c : UInt32} (hlen : a.length = b.length)
    (hfour : 4 ≤ a.length) (ha : readU32AtEnd a = .ok c) (hb : readU32AtEnd b = .ok c) :
    a.drop (a.length - 4) = b.drop (b.length - 4) := by
  rw [readU32AtEnd, if_neg (by omega), Except.ok.injEq] at ha hb
  have hdropA : (a.drop (a.length - 4)).length = 4 := by
    rw [List.length_drop]
    omega
  have hdropB : (b.drop (b.length - 4)).length = 4 := by
    rw [List.length_drop]
    omega
  have hltA := leNat_lt (a.drop (a.length - 4))
  have hltB := leNat_lt (b.drop (b.length - 4))
  rw [hdropA] at hltA
  rw [hdropB] at hltB
  apply leNat_injective (by rw [hdropA, hdropB])
  have hword := congrArg UInt32.toNat (ha.trans hb.symm)
  simp only [Nat.toUInt32_eq, UInt32.toNat_ofNat'] at hword
  omega

lemma set_eq_take_cons_drop {bytes : List UInt8} {i : ℕ} (hi : i < bytes.length) (b : UInt8) :
    bytes.set i b = bytes.take i ++ b :: bytes.drop (i + 1) := by
  rw [List.set_eq_take_append_cons_drop, if_pos hi]

lemma eq_take_cons_drop {bytes : List UInt8} {i : ℕ} (hi : i < bytes.length) :
    bytes = bytes.take i ++ bytes[i] :: bytes.drop (i + 1) := by
  rw [← List.drop_eq_getElem_cons hi, List.take_append_drop]

/-- Changing one byte changes the checksum. -/
lemma crc32c_set_ne (pre : List UInt8) {bytes post : List UInt8} {i : ℕ} {b : UInt8}
    (hi : i < bytes.length) (hb : bytes[i] ≠ b) :
    crc32c (pre ++ (bytes.set i b ++ post)) ≠ crc32c (pre ++ (bytes ++ post)) := by
  have hsplit : bytes ++ post = bytes.take i ++ bytes[i] :: (bytes.drop (i + 1) ++ post) := by
    conv_lhs => rw [eq_take_cons_drop hi]
    rw [List.append_assoc, List.cons_append]
  rw [hsplit, set_eq_take_cons_drop hi, List.append_assoc, List.cons_append, ← List.append_assoc,
    ← List.append_assoc]
  exact crc32c_ne_of_ne (Ne.symm hb)

section Changed

variable {bytes : List UInt8} {i : ℕ} {b : UInt8} (hi : i < bytes.length) (hb : bytes[i] ≠ b)
include hi hb

/-- A change in the checksum field changes the stored checksum. -/
lemma readU32AtEnd_set_ne {c : UInt32} (hfour : 4 ≤ bytes.length) (hend : bytes.length - 4 ≤ i)
    (h : readU32AtEnd bytes = .ok c) : readU32AtEnd (bytes.set i b) ≠ .ok c := by
  intro hset
  have hdrop := readU32AtEnd_injective (by rw [List.length_set]) hfour h hset
  rw [List.length_set] at hdrop
  have hget : (bytes.drop (bytes.length - 4))[i - (bytes.length - 4)]? =
      ((bytes.set i b).drop (bytes.length - 4))[i - (bytes.length - 4)]? := by
    rw [hdrop]
  rw [List.getElem?_drop, List.getElem?_drop, Nat.add_sub_cancel' hend, List.getElem?_set_self hi,
    List.getElem?_eq_getElem hi] at hget
  exact hb (Option.some.inj hget)

/-- A sealed object is not sealed any more once a byte of it is replaced. -/
lemma Sealed.not_sealed_set (h : Sealed bytes) : ¬ Sealed (bytes.set i b) := by
  obtain ⟨hfour, hmatch⟩ := h
  rintro ⟨-, hset⟩
  rcases Nat.lt_or_ge i (bytes.length - 4) with hbody | hend
  · -- the stored checksum is the old one, what it covers has changed
    have hstored : readU32AtEnd (bytes.set i b) = readU32AtEnd bytes := by
      rw [readU32AtEnd, readU32AtEnd, List.length_set, List.drop_set_of_lt hbody]
    have hzeroed : writeU32AtEnd (bytes.set i b) 0 =
        (bytes.take (bytes.length - 4)).set i b ++ writeU32 0 := by
      rw [writeU32AtEnd, List.length_set, List.take_set]
    have htake : i < (bytes.take (bytes.length - 4)).length := by
      rw [List.length_take]
      omega
    have hbyte : (bytes.take (bytes.length - 4))[i] ≠ b := by
      rw [List.getElem_take]
      exact hb
    rw [hstored, hmatch, Except.ok.injEq, crc32cZeroedAtEnd, crc32cZeroedAtEnd, hzeroed,
      writeU32AtEnd] at hset
    exact crc32c_set_ne [] htake hbyte hset.symm
  · -- what the checksum covers is unchanged, the stored checksum is not
    have hcovered : crc32cZeroedAtEnd (bytes.set i b) = crc32cZeroedAtEnd bytes := by
      rw [crc32cZeroedAtEnd, crc32cZeroedAtEnd, writeU32AtEnd, writeU32AtEnd, List.length_set,
        List.take_set_of_le hend]
    rw [hcovered] at hset
    exact readU32AtEnd_set_ne hi hb hfour hend hmatch hset

end Changed

/-! ### Decoders verify the seal -/

/-- Every replacement of one byte by another makes reading fail. -/
def ChangesFail {α : Type} (read : List UInt8 → Result α) (bytes : List UInt8) : Prop :=
  ∀ (i : ℕ) (b : UInt8) (hi : i < bytes.length), bytes[i] ≠ b → ¬ IsOk (read (bytes.set i b))

/-- A reader that accepts nothing but sealed objects notices every change of a sealed object. -/
lemma Sealed.changesFail {α : Type} {read : List UInt8 → Result α} {bytes : List UInt8}
    (h : Sealed bytes) (hread : ∀ bytes', bytes'.length = bytes.length → IsOk (read bytes') →
      Sealed bytes') : ChangesFail read bytes := by
  intro i b hi hb hok
  exact h.not_sealed_set hi hb (hread _ (List.length_set ..) hok)

lemma sealed_of_readHeader {h : ObjectHeader} {bytes : List UInt8} (hok : IsOk (readHeader h bytes)) :
    Sealed bytes := by
  obtain ⟨header, hheader⟩ := hok
  simp only [readHeader, bind_eq_ok, failIf_eq_ok, not_not] at hheader
  obtain ⟨crc, hcrc, _, hmatch, -⟩ := hheader
  refine ⟨?_, by rw [hcrc, hmatch]⟩
  by_contra hshort
  rw [readU32AtEnd, if_pos (not_le.mp hshort)] at hcrc
  cases hcrc

/-- A metered decoder that starts with the header of its object verifies the seal. -/
lemma sealed_of_metered {α : Type} {h : ObjectHeader} {k : ReadHeader → Metered α}
    {budget : MetadataMaterializationBudget} {bytes : List UInt8}
    (hok : IsOk (((liftM (readHeader h bytes) : Metered ReadHeader) >>= k).run budget).1) :
    Sealed bytes := by
  cases hheader : readHeader h bytes with
  | error e =>
    rw [hheader] at hok
    exact absurd hok not_isOk_error
  | ok header => exact sealed_of_readHeader ⟨header, hheader⟩

lemma sealed_of_readChecksummed {α : Type} {len : ℕ} {msg : String} {body : UInt32 → Reader α}
    {bytes : List UInt8} (hlen : bytes.length = len)
    (hok : IsOk (readChecksummed len msg body bytes)) : Sealed bytes := by
  have hread : readAll (readExactOcb len) bytes = .ok bytes := by
    rw [readAll, readExactOcb, Decoder.run_take_all hlen]
    rfl
  obtain ⟨a, ha⟩ := hok
  rw [readChecksummed, hread, ok_bind] at ha
  simp only [bind_eq_ok, failIf_eq_ok, not_not] at ha
  obtain ⟨crc, hcrc, _, hmatch, -⟩ := ha
  refine ⟨?_, by rw [hcrc, hmatch]⟩
  by_contra hshort
  rw [readU32AtEnd, if_pos (not_le.mp hshort)] at hcrc
  cases hcrc

/-! ### The page of a V2 file -/

namespace OcbBootstrapPageV2

/-- A page over two encoded slots. -/
def new (fileUuid : List UInt8) (slot₀ slot₁ : OcbRootSlotV2) : Result OcbBootstrapPageV2 := do
  let rootSlotBytes ← [slot₀, slot₁].mapM OcbRootSlotV2.writeTo
  return {
    formatMajor := 2, formatMinor := 0, flags := 0, pageSize := 4096, fileUuid, rootSlotBytes
    crc32c := 0 }

/-- The positions of the slot at a table position. -/
def InSlot (k i : ℕ) : Prop :=
  ocbRootSlotTableV2Offset + k * ocbRootSlotV2Len ≤ i ∧
    i < ocbRootSlotTableV2Offset + (k + 1) * ocbRootSlotV2Len

/-- The positions of the slot table. -/
def InSlotTable (i : ℕ) : Prop :=
  ocbRootSlotTableV2Offset ≤ i ∧ i < ocbRootSlotTableV2Offset + ocbRootSlotTableV2Len

/-- Every change of one byte of a page is noticed: outside the slot table the page is turned down,
in a slot this slot is turned down and the other one decodes as before. -/
structure DetectsChanges (page : OcbBootstrapPageV2) (bytes : List UInt8) : Prop where
  outside : ∀ (i : ℕ) (b : UInt8) (hi : i < bytes.length), ¬ InSlotTable i → bytes[i] ≠ b →
    ¬ IsOk (readFrom (bytes.set i b))
  inside : ∀ k < ocbRootSlotV2Count, ∀ (i : ℕ) (b : UInt8) (hi : i < bytes.length), InSlot k i →
    bytes[i] ≠ b → ∃ page', readFrom (bytes.set i b) = .ok page' ∧
      (∃ r, page'.decodedRootSlots[k]? = some r ∧ ¬ IsOk r) ∧
      ∀ j < ocbRootSlotV2Count, j ≠ k → page'.decodedRootSlots[j]? = page.decodedRootSlots[j]?

/-- The bytes that the checksum of a page covers, for a page of the right length. -/
lemma stableBytes_eq (bytes : List UInt8) (hlen : bytes.length = ocbBootstrapPageLen) :
    stableBytes bytes = bytes.take 64 ++ (List.replicate 320 0 ++
      ((bytes.drop 384).take (ocbBootstrapPageLen - 388) ++ writeU32 0)) := by
  have hbody : (bytes.take 64 ++ List.replicate 320 0 ++ bytes.drop 384).length =
      ocbBootstrapPageLen := by
    simp only [List.length_append, List.length_take, List.length_replicate, List.length_drop, hlen]
    rfl
  have hhead : (bytes.take 64 ++ List.replicate 320 (0 : UInt8)).length = 384 := by
    rw [List.length_append, List.length_take, hlen, List.length_replicate]
    rfl
  have hcut : ocbBootstrapPageLen - 4 = 384 + (ocbBootstrapPageLen - 388) := by decide
  show writeU32AtEnd (bytes.take 64 ++ List.replicate 320 0 ++ bytes.drop 384) 0 = _
  rw [writeU32AtEnd, hbody, hcut, List.take_append, hhead, Nat.add_sub_cancel_left,
    List.take_of_length_le (by omega)]
  simp only [List.append_assoc]

/-- A change outside the slot table is noticed by the checksum of the page. -/
lemma not_isOk_readFrom_set {bytes : List UInt8} {i : ℕ} {b : UInt8}
    (hlen : bytes.length = ocbBootstrapPageLen)
    (hmatch : readU32AtEnd bytes = .ok (Ocb.crc32c (stableBytes bytes)))
    (hi : i < bytes.length) (hout : ¬ InSlotTable i) (hb : bytes[i] ≠ b) :
    ¬ IsOk (readFrom (bytes.set i b)) := by
  have hset : (bytes.set i b).length = ocbBootstrapPageLen := by rw [List.length_set, hlen]
  rintro ⟨page, hok⟩
  have hread : readAll (readExactOcb ocbBootstrapPageLen) (bytes.set i b) = .ok (bytes.set i b) := by
    rw [readAll, readExactOcb, Decoder.run_take_all hset]
    rfl
  have hcovered : bootstrapCrc32c (bytes.set i b) =
      .ok (Ocb.crc32c (stableBytes (bytes.set i b))) := by
    rw [bootstrapCrc32c, failIf_neg (not_not.mpr hset)]
    rfl
  have hstored : readU32AtEnd (bytes.set i b) = .ok (Ocb.crc32c (stableBytes (bytes.set i b))) := by
    rw [readFrom, hread, ok_bind, hcovered] at hok
    simp only [ok_bind, bind_eq_ok, failIf_eq_ok, not_not] at hok
    obtain ⟨crc, hcrc, _, rfl, -⟩ := hok
    exact hcrc
  have hpage : ocbBootstrapPageLen = 4096 := rfl
  rw [stableBytes_eq _ hset] at hstored
  rw [stableBytes_eq _ hlen] at hmatch
  have hcases : i < 64 ∨ (384 ≤ i ∧ i < ocbBootstrapPageLen - 4) ∨ ocbBootstrapPageLen - 4 ≤ i := by
    have hnot : ¬ (64 ≤ i ∧ i < 384) := hout
    omega
  rcases hcases with hhead | ⟨htable, hbody⟩ | hend
  · have hsame : readU32AtEnd (bytes.set i b) = readU32AtEnd bytes := by
      rw [readU32AtEnd, readU32AtEnd, List.length_set, List.drop_set_of_lt (by omega)]
    have htake : i < (bytes.take 64).length := by
      rw [List.length_take]
      omega
    rw [hsame, hmatch, Except.ok.injEq, List.take_set, List.drop_set_of_lt (by omega)] at hstored
    exact crc32c_set_ne [] htake (by rw [List.getElem_take]; exact hb) hstored.symm
  · have hsame : readU32AtEnd (bytes.set i b) = readU32AtEnd bytes := by
      rw [readU32AtEnd, readU32AtEnd, List.length_set, List.drop_set_of_lt (by omega)]
    have htail : i - 384 < ((bytes.drop 384).take (ocbBootstrapPageLen - 388)).length := by
      rw [List.length_take, List.length_drop]
      omega
    have hbyte : ((bytes.drop 384).take (ocbBootstrapPageLen - 388))[i - 384] ≠ b := by
      rw [List.getElem_take, List.getElem_drop]
      simpa only [Nat.add_sub_cancel' htable] using hb
    rw [hsame, hmatch, Except.ok.injEq, List.take_set_of_le (by omega), List.drop_set,
      if_neg (by omega), List.take_set] at hstored
    rw [← List.append_assoc, ← List.append_assoc (bytes.take 64)] at hstored
    exact crc32c_set_ne _ htail hbyte hstored.symm
  · have hcoverSame : (bytes.set i b).take 64 = bytes.take 64 ∧
        ((bytes.set i b).drop 384).take (ocbBootstrapPageLen - 388) =
          (bytes.drop 384).take (ocbBootstrapPageLen - 388) := by
      rw [List.take_set_of_le (by omega), List.drop_set, if_neg (by omega),
        List.take_set_of_le (by omega)]
      exact ⟨rfl, rfl⟩
    rw [hcoverSame.1, hcoverSame.2] at hstored
    exact readU32AtEnd_set_ne hi hb (by omega) (by omega) hmatch hstored

/-- A slot that decodes does not decode any more once a byte of it is replaced. -/
lemma not_isOk_readFrom_slot_set {slot : List UInt8} {i : ℕ} {b : UInt8}
    (hlen : slot.length = ocbRootSlotV2Len) (hok : IsOk (OcbRootSlotV2.readFrom slot))
    (hi : i < slot.length) (hb : slot[i] ≠ b) : ¬ IsOk (OcbRootSlotV2.readFrom (slot.set i b)) := by
  have hsealed : Sealed slot := sealed_of_readChecksummed hlen hok
  refine hsealed.changesFail (fun bytes' hlen' hok' => ?_) i b hi hb
  exact sealed_of_readChecksummed (hlen'.trans hlen) hok'

/-- A position inside a middle part, seen from this part. -/
lemma getElem_ne_of_eq_append {bytes pre slot post : List UInt8} {i : ℕ} {b : UInt8}
    (heq : bytes = pre ++ (slot ++ post)) (hle : pre.length ≤ i) (hi : i < bytes.length)
    (hb : bytes[i] ≠ b) (hslot : i - pre.length < slot.length) : slot[i - pre.length] ≠ b := by
  subst heq
  rw [List.getElem_append_right hle, List.getElem_append_left hslot] at hb
  exact hb

/-- The page with another slot at each table position. -/
def withSlots (page : OcbBootstrapPageV2) (a b : List UInt8) : OcbBootstrapPageV2 :=
  { page with rootSlotBytes := [a, b] }

lemma WellFormed.withSlots {page : OcbBootstrapPageV2} {a b a' b' : List UInt8}
    (h : page.WellFormed a b) (ha : a'.length = ocbRootSlotV2Len)
    (hb : b'.length = ocbRootSlotV2Len) : (page.withSlots a' b').WellFormed a' b' :=
  ⟨h.major, h.minor, h.pageSize, h.uuid, rfl, ha, hb⟩

section Written

variable {page : OcbBootstrapPageV2} {x y : List UInt8} (h : page.WellFormed x y)
  {crc : UInt32} (hcrc : crc = Ocb.crc32c (stableBytes (page.layout x y 0)))
include h hcrc

/-- The page over other slots is read from its layout with the same checksum. -/
lemma readFrom_layout_withSlots {x' y' : List UInt8} (hx : x'.length = ocbRootSlotV2Len)
    (hy : y'.length = ocbRootSlotV2Len) :
    readFrom (page.layout x' y' crc) = .ok { page.withSlots x' y' with crc32c := crc } := by
  have hwf := h.withSlots hx hy
  have hlayout : ∀ c, (page.withSlots x' y').layout x' y' c = page.layout x' y' c := fun _ => rfl
  have hhead : (page.withSlots x' y').headBytes = page.headBytes := rfl
  have hread : readFrom ((page.withSlots x' y').layout x' y' crc) = _ := hwf.readFrom_layout (by
    rw [hwf.stableBytes_layout, hhead, hcrc, h.stableBytes_layout])
  rw [hlayout] at hread
  exact hread

/-- A page whose slots decode notices every change. -/
lemma detectsChanges (hxok : IsOk (OcbRootSlotV2.readFrom x))
    (hyok : IsOk (OcbRootSlotV2.readFrom y)) : page.DetectsChanges (page.layout x y crc) := by
  have hlen := h.length_layout crc
  have hheadLen : page.headBytes.length = 64 := h.length_headBytes
  have hxLen : x.length = 160 := h.length_fst
  have hyLen : y.length = 160 := h.length_snd
  have hslots : page.decodedRootSlots = [OcbRootSlotV2.readFrom x, OcbRootSlotV2.readFrom y] := by
    rw [decodedRootSlots, h.slots]
    rfl
  -- a change outside the slot table, and one in a slot
  constructor
  · intro i b hi hout hb
    have hmatch : readU32AtEnd (page.layout x y crc) =
        .ok (Ocb.crc32c (stableBytes (page.layout x y crc))) := by
      have hset : page.layout x y crc = writeU32AtEnd (page.layout x y 0) crc := by
        simp only [layout, ← List.append_assoc, writeU32AtEnd_append_writeU32]
      have hfour : 4 ≤ (page.layout x y 0).length := by
        rw [h.length_layout]
        decide
      rw [h.stableBytes_layout, ← h.stableBytes_layout 0, ← hcrc, hset,
        readU32AtEnd_writeU32AtEnd hfour]
    exact not_isOk_readFrom_set hlen hmatch hi hout hb
  · intro k hk i b hi hin hb
    have hbounds : 64 + k * 160 ≤ i ∧ i < 64 + (k + 1) * 160 := hin
    -- the two slots stand one after the other behind the head
    have hcases : k = 0 ∨ k = 1 := by
      have : k < 2 := hk
      omega
    rcases hcases with rfl | rfl
    · have hpos : i - page.headBytes.length < x.length := by omega
      have hbyte : x[i - page.headBytes.length] ≠ b :=
        getElem_ne_of_eq_append rfl (by omega) hi hb hpos
      have hset : (x.set (i - page.headBytes.length) b).length = ocbRootSlotV2Len := by
        rw [List.length_set, hxLen]
        rfl
      have hlayout : (page.layout x y crc).set i b =
          page.layout (x.set (i - page.headBytes.length) b) y crc := by
        rw [layout, List.set_append_right _ _ (by omega), List.set_append_left _ _ (by omega)]
        rfl
      have hread := readFrom_layout_withSlots h hcrc hset hyLen
      refine ⟨_, hlayout ▸ hread, ⟨_, rfl, ?_⟩, fun j hj hne => ?_⟩
      · exact not_isOk_readFrom_slot_set hxLen hxok hpos hbyte
      · obtain rfl : j = 1 := by
          have : j < 2 := hj
          omega
        rw [hslots]
        rfl
    · have hassoc : page.layout x y crc =
          (page.headBytes ++ x) ++ (y ++ (padBytes ++ writeU32 crc)) := by
        rw [layout, List.append_assoc]
      have hpre : (page.headBytes ++ x).length = 224 := by
        rw [List.length_append, hheadLen, hxLen]
      have hpos : i - (page.headBytes ++ x).length < y.length := by omega
      have hbyte : y[i - (page.headBytes ++ x).length] ≠ b :=
        getElem_ne_of_eq_append hassoc (by omega) hi hb hpos
      have hset : (y.set (i - (page.headBytes ++ x).length) b).length = ocbRootSlotV2Len := by
        rw [List.length_set, hyLen]
        rfl
      have hlayout : (page.layout x y crc).set i b =
          page.layout x (y.set (i - (page.headBytes ++ x).length) b) crc := by
        rw [hassoc, List.set_append_right _ _ (by omega), List.set_append_left _ _ (by omega),
          List.append_assoc]
        rfl
      have hread := readFrom_layout_withSlots h hcrc hxLen hset
      refine ⟨_, hlayout ▸ hread, ⟨_, rfl, ?_⟩, fun j hj hne => ?_⟩
      · exact not_isOk_readFrom_slot_set hyLen hyok hpos hbyte
      · obtain rfl : j = 0 := by
          have : j < 2 := hj
          omega
        rw [hslots]
        rfl

end Written

/-- A page that was built over two slots and written notices every change. -/
lemma detectsChanges_of_new {fileUuid bytes : List UInt8} {slot₀ slot₁ : OcbRootSlotV2}
    {page : OcbBootstrapPageV2} (huuid : fileUuid.length = 16)
    (h₀ : slot₀.writerVersion.length = 16) (h₁ : slot₁.writerVersion.length = 16)
    (hnew : new fileUuid slot₀ slot₁ = .ok page) (hwrite : page.writeTo = .ok bytes) :
    page.DetectsChanges bytes := by
  simp only [new, bind_eq_ok, mapM_eq_ok, pure_eq_ok, Except.ok.injEq] at hnew
  obtain ⟨slots, hslots, hpage⟩ := hnew
  obtain ⟨x, y, hx, hy, rfl⟩ : ∃ x y, slot₀.writeTo = .ok x ∧ slot₁.writeTo = .ok y ∧
      slots = [x, y] := by
    cases hslots with
    | cons hx hrest =>
      cases hrest with
      | cons hy hnil =>
        cases hnil
        exact ⟨_, _, hx, hy, rfl⟩
  have hlen : ∀ {s : OcbRootSlotV2} {z : List UInt8}, s.writerVersion.length = 16 →
      s.writeTo = .ok z → z.length = ocbRootSlotV2Len := by
    intro s z hs hz
    obtain ⟨buf, hbuf, rfl⟩ := map_eq_ok.mp hz
    simp only [OcbRootSlotV2.encodeWithoutChecksum, bind_eq_ok, pure_eq_ok, Except.ok.injEq] at hbuf
    obtain ⟨_, -, _, -, _, -, _, -, _, -, _, -, rfl⟩ := hbuf
    exact s.length_sealBytes_fieldBytes hs
  obtain ⟨crc₀, hread₀⟩ := OcbRootSlotV2.roundTrip h₀ hx
  obtain ⟨crc₁, hread₁⟩ := OcbRootSlotV2.roundTrip h₁ hy
  have hwf : page.WellFormed x y := by
    subst hpage
    exact ⟨rfl, rfl, rfl, huuid, rfl, hlen h₀ hx, hlen h₁ hy⟩
  rw [hwf.writeTo_eq, Except.ok.injEq] at hwrite
  subst hwrite
  exact detectsChanges hwf rfl ⟨_, hread₀⟩ ⟨_, hread₁⟩

end OcbBootstrapPageV2

/-! ### Encoded objects -/

section Encoded

variable {bytes : List UInt8}

/-- The output of an encoder is sealed when the encoder ends its object with a zeroed field. -/
lemma sealed_of_encoded {x : Result (List UInt8)} (h : sealBytes <$> x = .ok bytes)
    (hx : ∀ buf, x = .ok buf → ∃ fields, buf = fields ++ writeU32 0) : Sealed bytes := by
  obtain ⟨buf, hbuf, rfl⟩ := map_eq_ok.mp h
  obtain ⟨fields, rfl⟩ := hx buf hbuf
  exact sealed_sealBytes fields

/-- Encoders of metadata objects, which end in an object with its checksum field zero. -/
lemma sealed_of_object {x : Result (List UInt8)} (h : sealBytes <$> x = .ok bytes)
    (hx : ∀ buf, x = .ok buf → ∃ header version body,
      buf = ObjectHeader.objectBytes header version body) : Sealed bytes := by
  refine sealed_of_encoded h fun buf hbuf => ?_
  obtain ⟨header, version, body, rfl⟩ := hx buf hbuf
  exact ⟨_, rfl⟩

lemma OcbStringTableV1.sealed_of_writeTo {t : OcbStringTableV1} (h : t.writeTo = .ok bytes) :
    Sealed bytes :=
  sealed_of_object h fun _ hbuf => ⟨_, _, _, (encodeWithoutChecksum_eq_ok hbuf).1⟩

lemma OcbSchemaV1.sealed_of_writeTo {s : OcbSchemaV1} (h : s.writeTo = .ok bytes) : Sealed bytes :=
  sealed_of_object h fun _ hbuf => ⟨_, _, _, (encodeWithoutChecksum_eq_ok hbuf).1⟩

lemma OcbDictionaryIndexV1.sealed_of_writeTo {d : OcbDictionaryIndexV1}
    (h : d.writeTo = .ok bytes) : Sealed bytes :=
  sealed_of_object h fun _ hbuf => ⟨_, _, _, (encodeWithoutChecksum_eq_ok hbuf).1⟩

lemma OcbDictionaryValuesV1.sealed_of_writeTo {d : OcbDictionaryValuesV1}
    (h : d.writeTo = .ok bytes) : Sealed bytes := by
  obtain ⟨-, rfl⟩ := writeTo_eq_ok.mp h
  exact sealed_sealBytes _

lemma OcbRowGroupIndexV1.sealed_of_writeTo {i : OcbRowGroupIndexV1} (h : i.writeTo = .ok bytes) :
    Sealed bytes :=
  sealed_of_object h fun _ hbuf => ⟨_, _, _, (encodeWithoutChecksum_eq_ok hbuf).1⟩

lemma OcbRowGroupIndexDeltaV1.sealed_of_writeTo {d : OcbRowGroupIndexDeltaV1}
    (h : d.writeTo = .ok bytes) : Sealed bytes :=
  sealed_of_object h fun _ hbuf => ⟨_, _, _, (encodeWithoutChecksum_eq_ok hbuf).1⟩

lemma OcbOrderingProofV1.sealed_of_writeTo {o : OcbOrderingProofV1} (h : o.writeTo = .ok bytes) :
    Sealed bytes :=
  sealed_of_object h fun _ hbuf => ⟨_, _, _, (encodeWithoutChecksum_eq_ok hbuf).1⟩

lemma OcbColumnChunkObjectV1.sealed_of_writeTo {o : OcbColumnChunkObjectV1}
    (h : o.writeTo = .ok bytes) : Sealed bytes :=
  sealed_of_object h fun _ hbuf => ⟨_, _, _, (encodeWithoutChecksum_eq_ok hbuf).1⟩

end Encoded

/-- Metered decoders that start with a header fail, whatever the budget, on every changed object. -/
lemma Sealed.changesFail_metered {α : Type} {bytes : List UInt8} (hsealed : Sealed bytes)
    {h : ObjectHeader} {k : List UInt8 → ReadHeader → Metered α}
    (budget : MetadataMaterializationBudget) :
    ChangesFail (fun bytes' =>
      (((liftM (readHeader h bytes') : Metered ReadHeader) >>= k bytes').run budget).1) bytes :=
  hsealed.changesFail fun _ _ hok => sealed_of_metered hok

/-- Fixed-size objects. -/
lemma changesFail_checksummed {α : Type} {len : ℕ} {msg : String} {body : UInt32 → Reader α}
    {fields : List UInt8} (hlen : (fields ++ writeU32 0).length = len) :
    ChangesFail (readChecksummed len msg body) (sealBytes (fields ++ writeU32 0)) := by
  refine (sealed_sealBytes fields).changesFail fun bytes' hbytes hok => ?_
  refine sealed_of_readChecksummed (hbytes.trans ?_) hok
  rw [length_sealBytes, ← hlen, List.length_append, writeU32_length]

/-- **Any single-byte change is detected.**  Replacing a byte of an encoded object makes its
decoder fail, whatever the metadata budget; on the page of a V2 file a change outside the slot table
makes decoding the page fail, and a change in a slot makes that slot an error while the other one
decodes as before. -/
theorem singleByteChange_detected :
    (∀ (t : OcbStringTableV1) (bytes : List UInt8) (budget : MetadataMaterializationBudget),
      t.writeTo = .ok bytes → ChangesFail (fun bytes' =>
        ((OcbStringTableV1.readFromBytesWithBudget bytes').run budget).1) bytes) ∧
    (∀ (s : OcbSchemaV1) (bytes : List UInt8) (budget : MetadataMaterializationBudget),
      s.writeTo = .ok bytes → ChangesFail (fun bytes' =>
        ((OcbSchemaV1.readFromBytesWithBudget bytes').run budget).1) bytes) ∧
    (∀ (d : OcbDictionaryIndexV1) (bytes : List UInt8) (budget : MetadataMaterializationBudget),
      d.writeTo = .ok bytes → ChangesFail (fun bytes' =>
        ((OcbDictionaryIndexV1.readFromBytesWithBudget bytes').run budget).1) bytes) ∧
    (∀ (d : OcbDictionaryValuesV1) (bytes : List UInt8) (budget : MetadataMaterializationBudget),
      d.writeTo = .ok bytes → ChangesFail (fun bytes' =>
        ((OcbDictionaryValuesV1.readFromBytesWithBudget bytes').run budget).1) bytes) ∧
    (∀ (i : OcbRowGroupIndexV1) (bytes : List UInt8) (budget : MetadataMaterializationBudget),
      i.writeTo = .ok bytes → ChangesFail (fun bytes' =>
        ((OcbRowGroupIndexV1.readFromBytesWithBudget bytes').run budget).1) bytes) ∧
    (∀ (d : OcbRowGroupIndexDeltaV1) (bytes : List UInt8) (budget : MetadataMaterializationBudget),
      d.writeTo = .ok bytes → ChangesFail (fun bytes' =>
        ((OcbRowGroupIndexDeltaV1.readFromBytesWithBudget bytes').run budget).1) bytes) ∧
    (∀ (o : OcbOrderingProofV1) (bytes : List UInt8) (budget : MetadataMaterializationBudget),
      o.writeTo = .ok bytes → ChangesFail (fun bytes' =>
        ((OcbOrderingProofV1.readFromBytesWithBudget bytes').run budget).1) bytes) ∧
    (∀ (o : OcbColumnChunkObjectV1) (bytes : List UInt8), o.writeTo = .ok bytes →
      ChangesFail OcbColumnChunkObjectV1.readFromBytes bytes) ∧
    (∀ (root : OcbRootV1) (bytes : List UInt8), root.writeTo = .ok bytes →
      ChangesFail OcbRootV1.readFrom bytes) ∧
    (∀ (root : OcbRootV2) (bytes : List UInt8), root.writeTo = .ok bytes →
      ChangesFail OcbRootV2.readFrom bytes) ∧
    (∀ (slot : OcbRootSlotV2) (bytes : List UInt8), slot.writerVersion.length = 16 →
      slot.writeTo = .ok bytes → ChangesFail OcbRootSlotV2.readFrom bytes) ∧
    (∀ (page : OcbBootstrapPageV1) (bytes : List UInt8), page.fileUuid.length = 16 →
      page.writeTo = .ok bytes → ChangesFail OcbBootstrapPageV1.readFrom bytes) ∧
    (∀ (fileUuid : List UInt8) (slot₀ slot₁ : OcbRootSlotV2) (page : OcbBootstrapPageV2)
      (bytes : List UInt8), fileUuid.length = 16 → slot₀.writerVersion.length = 16 →
      slot₁.writerVersion.length = 16 → OcbBootstrapPageV2.new fileUuid slot₀ slot₁ = .ok page →
      page.writeTo = .ok bytes → page.DetectsChanges bytes) := by
  refine ⟨fun t bytes budget h => ?_, fun s bytes budget h => ?_, fun d bytes budget h => ?_,
    fun d bytes budget h => ?_, fun i bytes budget h => ?_, fun d bytes budget h => ?_,
    fun o bytes budget h => ?_, fun o bytes h => ?_, fun root bytes h => ?_, fun root bytes h => ?_,
    fun slot bytes hwriter h => ?_, fun page bytes huuid h => ?_,
    fun _ _ _ _ _ huuid h₀ h₁ hnew h =>
      OcbBootstrapPageV2.detectsChanges_of_new huuid h₀ h₁ hnew h⟩
  -- the objects with a header are sealed, and a sealed object notices every change
  · exact (OcbStringTableV1.sealed_of_writeTo h).changesFail_metered budget
  · exact (OcbSchemaV1.sealed_of_writeTo h).changesFail_metered budget
  · exact (OcbDictionaryIndexV1.sealed_of_writeTo h).changesFail_metered budget
  · exact (OcbDictionaryValuesV1.sealed_of_writeTo h).changesFail_metered budget
  · exact (OcbRowGroupIndexV1.sealed_of_writeTo h).changesFail_metered budget
  · exact (OcbRowGroupIndexDeltaV1.sealed_of_writeTo h).changesFail_metered budget
  · exact (OcbOrderingProofV1.sealed_of_writeTo h).changesFail_metered budget
  · refine (OcbColumnChunkObjectV1.sealed_of_writeTo h).changesFail fun _ _ hok => ?_
    obtain ⟨o', ho'⟩ := hok
    obtain ⟨header, hheader, -⟩ := bind_eq_ok.mp ho'
    exact sealed_of_readHeader ⟨header, hheader⟩
  -- roots, slots and pages end with their own checksum
  · obtain ⟨buf, hbuf, rfl⟩ := map_eq_ok.mp h
    simp only [OcbRootV1.encodeWithoutChecksum, bind_eq_ok, pure_eq_ok, Except.ok.injEq] at hbuf
    obtain ⟨_, -, _, -, _, -, _, -, _, -, rfl⟩ := hbuf
    exact changesFail_checksummed root.fieldBytes_length
  · obtain ⟨buf, hbuf, rfl⟩ := map_eq_ok.mp h
    simp only [OcbRootV2.encodeWithoutChecksum, bind_eq_ok, pure_eq_ok, Except.ok.injEq] at hbuf
    obtain ⟨_, -, _, -, _, -, _, -, _, -, _, -, rfl⟩ := hbuf
    exact changesFail_checksummed root.fieldBytes_length
  · obtain ⟨buf, hbuf, rfl⟩ := map_eq_ok.mp h
    simp only [OcbRootSlotV2.encodeWithoutChecksum, bind_eq_ok, pure_eq_ok, Except.ok.injEq] at hbuf
    obtain ⟨_, -, _, -, _, -, _, -, _, -, _, -, rfl⟩ := hbuf
    exact changesFail_checksummed (slot.fieldBytes_length hwriter)
  · obtain ⟨buf, hbuf, rfl⟩ := map_eq_ok.mp h
    simp only [OcbBootstrapPageV1.encodeWithoutChecksum, bind_eq_ok, pure_eq_ok,
      Except.ok.injEq] at hbuf
    obtain ⟨_, -, _, -, rfl⟩ := hbuf
    exact changesFail_checksummed (page.fieldBytes_length huuid)

end ArcadiaTio.Ocb
