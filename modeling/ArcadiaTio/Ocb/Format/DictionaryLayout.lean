import ArcadiaTio.Ocb.Format.Metering
import ArcadiaTio.Ocb.Format.RoundTrip
import Mathlib.Data.List.Chain

/-!
# The layout of dictionary values

A dictionary values object is its header, a table of offsets, the data that the offsets cut, and a
checksum.  `DictionaryValuesParts` are the parts in file order and `WellFormed` says which of them
form a dictionary, without mentioning a reader.  The decoder checks the table in one pass and cuts
the data along it in a second one; the main result is that the objects it returns a value for are
the well-formed ones, and that the value is what the parts say.
-/

namespace ArcadiaTio.Ocb

open ArcadiaTio.Lib

/-! ### Parts -/

/-- The parts of a dictionary values object, in file order. -/
structure DictionaryValuesParts where
  valueKind : OcbDictionaryValueKindV1
  reserved0 : UInt16
  entryCount : UInt32
  fixedWidth : UInt32
  dataBytes : UInt64
  flags : UInt32
  reserved1 : UInt32
  offsets : List UInt64
  data : List UInt8
  /-- What stands between the data and the checksum. -/
  padding : List UInt8

/-- The values that a table of offsets cuts out of some data. -/
def slices (data : List UInt8) (offsets : List UInt64) : List (List UInt8) :=
  offsets.zipWith (fun start stop => (data.take stop.toNat).drop start.toNat) offsets.tail

namespace DictionaryValuesParts

variable (w : DictionaryValuesParts)

/-- The bytes of an offset table. -/
def tableBytes (offsets : List UInt64) : List UInt8 := offsets.flatMap writeU64

/-- The parts after the header, one after the other. -/
def bodyBytes : List UInt8 :=
  writeU16 w.valueKind.toU16 ++ (writeU16 w.reserved0 ++ (writeU32 w.entryCount ++
    (writeU32 w.fixedWidth ++ (writeU64 w.dataBytes ++ (writeU32 w.flags ++
      (writeU32 w.reserved1 ++ (tableBytes w.offsets ++ (w.data ++ w.padding))))))))

/-- The object with its checksum field zero. -/
def fieldBytes : List UInt8 := ocbDictionaryValuesHeader.objectBytes 1 w.bodyBytes

/-- The fields of the parts before the offset table. -/
def fields : DictionaryValuesPrefix := ⟨w.valueKind, w.entryCount, w.fixedWidth, w.dataBytes⟩

@[simp] lemma entryCount_fields : w.fields.entryCount = w.entryCount := rfl

@[simp] lemma dataBytes_fields : w.fields.dataBytes = w.dataBytes := rfl

/-- The table has one offset more than there are entries, starts at zero, never decreases and ends
where the data ends; and in a dictionary of fixed width every gap is the width. -/
structure WellFormed : Prop where
  count : w.offsets.length = w.entryCount.toNat + 1
  count_lt : w.offsets.length < 2 ^ 32
  start : w.offsets.head? = some 0
  ascending : w.offsets.IsChain (· ≤ ·)
  last : w.offsets.getLast? = some w.dataBytes
  data : w.data.length = w.dataBytes.toNat
  width : w.valueKind = .fixedBytes →
    w.offsets.IsChain fun start stop => stop.toNat - start.toNat = w.fixedWidth.toNat

/-- The dictionary that the parts hold. -/
def value : OcbDictionaryValuesV1 where
  version := 1
  valueKind := w.valueKind
  fixedWidth := w.fixedWidth
  values := slices w.data w.offsets
  crc32c := Ocb.crc32c w.fieldBytes

end DictionaryValuesParts

/-! ### Offset tables -/

open DictionaryValuesParts (tableBytes)

section Offsets

variable {p : DictionaryValuesPrefix} {n : ℕ} {previous last : UInt64} {offsets : List UInt64}
  {data bytes rest : List UInt8}

lemma tableBytes_cons (offset : UInt64) (offsets : List UInt64) :
    tableBytes (offset :: offsets) = writeU64 offset ++ tableBytes offsets := rfl

lemma length_tableBytes (offsets : List UInt64) :
    (tableBytes offsets).length = offsets.length * 8 :=
  length_flatMap_of_length fun _ _ => writeU64_length _

/-- What the check of one offset asks of it and of the one before it. -/
structure OffsetStep (p : DictionaryValuesPrefix) (start stop : UInt64) : Prop where
  le : start ≤ stop
  le_data : stop ≤ p.dataBytes
  width : p.valueKind = .fixedBytes → stop.toNat - start.toNat = p.fixedWidth.toNat

/-- The first pass accepts the tables whose neighbours all pass the check. -/
lemma run_validateValueOffsets_iff :
    (validateValueOffsets p n previous).run bytes = .ok (last, rest) ↔
      ∃ offsets, offsets.length = n ∧ bytes = tableBytes offsets ++ rest ∧
        (previous :: offsets).IsChain (OffsetStep p) ∧
        (previous :: offsets).getLast? = some last := by
  induction n generalizing previous bytes with
  | zero =>
    constructor
    · intro h
      cases h
      exact ⟨[], rfl, rfl, .singleton _, rfl⟩
    · rintro ⟨offsets, hlen, rfl, -, hlast⟩
      obtain rfl := List.length_eq_zero_iff.mp hlen
      cases hlast
      rfl
  | succ n ih =>
    rw [validateValueOffsets]
    constructor
    · intro h
      obtain ⟨next, _, hnext, h₁⟩ := Decoder.run_bind_eq_ok.mp h
      obtain ⟨_, _, horder, h₂⟩ := Decoder.run_bind_eq_ok.mp h₁
      obtain ⟨_, _, hfixed, h₃⟩ := Decoder.run_bind_eq_ok.mp h₂
      obtain ⟨hnot, rfl⟩ := run_failIf_eq_ok horder
      obtain ⟨hwidth, rfl⟩ := run_failIf_eq_ok hfixed
      obtain ⟨offsets, hlen, hbytes, hchain, hlast⟩ := ih.mp h₃
      have hstep : OffsetStep p previous next := by
        refine ⟨?_, ?_, fun hkind => ?_⟩
        · exact UInt64.not_lt.mp (not_or.mp hnot).1
        · exact UInt64.not_lt.mp (not_or.mp hnot).2
        · exact not_not.mp fun hne => hwidth ⟨hkind, hne⟩
      refine ⟨next :: offsets, by rw [List.length_cons, hlen], ?_, .cons_cons hstep hchain, ?_⟩
      · rw [tableBytes_cons, List.append_assoc, ← hbytes]
        exact Decoder.run_uint64_eq_ok.mp hnext
      · rw [List.getLast?_cons_cons]
        exact hlast
    · rintro ⟨offsets, hlen, rfl, hchain, hlast⟩
      cases offsets with
      | nil => cases hlen
      | cons next offsets =>
        rw [List.isChain_cons_cons] at hchain
        obtain ⟨hstep, hchain⟩ := hchain
        rw [List.getLast?_cons_cons] at hlast
        have horder : ¬ (previous > next ∨ next > p.dataBytes) :=
          not_or.mpr ⟨UInt64.not_lt.mpr hstep.le, UInt64.not_lt.mpr hstep.le_data⟩
        have hwidth : ¬ (p.valueKind = .fixedBytes ∧
            next.toNat - previous.toNat ≠ p.fixedWidth.toNat) :=
          fun h => h.2 (hstep.width h.1)
        rw [tableBytes_cons, List.append_assoc, run_readU64_bind, run_failIf_bind horder,
          run_failIf_bind hwidth]
        exact ih.mpr ⟨offsets, Nat.succ.inj hlen, rfl, hchain, hlast⟩

lemma slices_cons_cons (data : List UInt8) (start stop : UInt64) (offsets : List UInt64) :
    slices data (start :: stop :: offsets) =
      (data.take stop.toNat).drop start.toNat :: slices data (stop :: offsets) := rfl

lemma length_slices (data : List UInt8) (offsets : List UInt64) :
    (slices data offsets).length = offsets.length - 1 := by
  rw [slices, List.length_zipWith, List.length_tail]
  omega

/-- The second pass returns the slices of the table that it is given. -/
lemma run_readValues_slices (data : List UInt8) (previous : UInt64) (offsets : List UInt64) :
    (readValues data offsets.length previous).run (tableBytes offsets ++ rest) =
      .ok (slices data (previous :: offsets), rest) := by
  induction offsets generalizing previous with
  | nil => rfl
  | cons next offsets ih =>
    rw [List.length_cons, readValues, tableBytes_cons, List.append_assoc, run_readU64_bind,
      Decoder.run_bind_of_ok (ih next), slices_cons_cons]
    rfl

/-- In a table that never decreases, no offset is beyond the last one. -/
lemma le_last_of_isChain (hchain : (previous :: offsets).IsChain (· ≤ ·))
    (hlast : (previous :: offsets).getLast? = some last) : previous ≤ last := by
  induction offsets generalizing previous with
  | nil =>
    cases hlast
    exact UInt64.le_refl _
  | cons next offsets ih =>
    rw [List.isChain_cons_cons] at hchain
    rw [List.getLast?_cons_cons] at hlast
    exact UInt64.le_trans hchain.1 (ih hchain.2 hlast)

/-- The slices of a table that never decreases tile the data between its ends. -/
lemma flatten_slices (hchain : (previous :: offsets).IsChain (· ≤ ·))
    (hlast : (previous :: offsets).getLast? = some last) :
    (slices data (previous :: offsets)).flatten = (data.take last.toNat).drop previous.toNat := by
  induction offsets generalizing previous with
  | nil =>
    cases hlast
    simp [slices]
  | cons next offsets ih =>
    rw [List.isChain_cons_cons] at hchain
    rw [List.getLast?_cons_cons] at hlast
    have hstart := UInt64.le_iff_toNat_le.mp hchain.1
    have hstop := UInt64.le_iff_toNat_le.mp (le_last_of_isChain hchain.2 hlast)
    rw [slices_cons_cons, List.flatten_cons, ih hchain.2 hlast]
    calc (data.take next.toNat).drop previous.toNat ++ (data.take last.toNat).drop next.toNat
        = ((data.take last.toNat).take next.toNat).drop previous.toNat ++
            (data.take last.toNat).drop next.toNat := by
          rw [List.take_take, Nat.min_eq_left hstop]
      _ = (data.take last.toNat).drop previous.toNat := by
          rw [List.drop_take, ← Nat.add_sub_of_le hstart, ← List.drop_drop, Nat.add_sub_cancel_left,
            List.take_append_drop]

/-- Neighbours of a well-formed table pass the check. -/
lemma isChain_offsetStep (hchain : (previous :: offsets).IsChain (· ≤ ·))
    (hlast : (previous :: offsets).getLast? = some p.dataBytes)
    (hwidth : p.valueKind = .fixedBytes → (previous :: offsets).IsChain fun start stop =>
      stop.toNat - start.toNat = p.fixedWidth.toNat) :
    (previous :: offsets).IsChain (OffsetStep p) := by
  induction offsets generalizing previous with
  | nil => exact .singleton _
  | cons next offsets ih =>
    rw [List.isChain_cons_cons] at hchain
    rw [List.getLast?_cons_cons] at hlast
    refine .cons_cons ⟨hchain.1, le_last_of_isChain hchain.2 hlast, fun hkind => ?_⟩
      (ih hchain.2 hlast fun hkind => ?_)
    · exact (List.isChain_cons_cons.mp (hwidth hkind)).1
    · exact (List.isChain_cons_cons.mp (hwidth hkind)).2

end Offsets

/-! ### Well-formed parts are read back -/

namespace DictionaryValuesParts

variable {w : DictionaryValuesParts}

namespace WellFormed

variable (h : w.WellFormed)
include h

/-- The table is zero followed by one offset for each entry. -/
lemma exists_offsets : ∃ offsets, w.offsets = 0 :: offsets ∧
    offsets.length = w.entryCount.toNat := by
  have hstart := h.start
  have hcount := h.count
  cases hoffsets : w.offsets with
  | nil =>
    rw [hoffsets] at hstart
    cases hstart
  | cons first offsets =>
    rw [hoffsets] at hstart hcount
    cases hstart
    exact ⟨offsets, rfl, Nat.succ.inj hcount⟩

/-- The values of a well-formed dictionary are its data, cut in pieces. -/
lemma flatten_values : w.value.values.flatten = w.data := by
  obtain ⟨offsets, hoffsets, -⟩ := h.exists_offsets
  have hchain := h.ascending
  have hlast := h.last
  rw [hoffsets] at hchain hlast
  rw [value, hoffsets, flatten_slices hchain hlast, ← h.data, List.take_length]
  rfl

lemma length_values : w.value.values.length = w.entryCount.toNat := by
  rw [value, length_slices, h.count, Nat.add_sub_cancel]

/-- What the second pass needs: the entries with their headers, and the data. -/
lemma materializedBytes_value :
    w.value.materializedBytes = w.entryCount.toNat * vecHeaderBytes + w.dataBytes.toNat := by
  rw [OcbDictionaryValuesV1.materializedBytes, h.length_values, h.flatten_values, h.data]

lemma run_readPrefix :
    (OcbDictionaryValuesV1.readPrefix w.fieldBytes.length).run (w.bodyBytes ++ writeU32 0) =
      .ok ((w.fields, w.entryCount.toNat),
        tableBytes w.offsets ++ (w.data ++ (w.padding ++ writeU32 0))) := by
  have hcount := h.count
  have hlt := h.count_lt
  have hlen := length_tableBytes w.offsets
  have hprefix : DictionaryValuesPrefix.read.run (w.bodyBytes ++ writeU32 0) =
      .ok (w.fields, tableBytes w.offsets ++ (w.data ++ (w.padding ++ writeU32 0))) := by
    simp only [DictionaryValuesPrefix.read, bodyBytes, List.append_assoc, run_readU16_bind,
      run_readU32_bind, run_readU64_bind,
      run_lift_bind (OcbDictionaryValueKindV1.fromU16_toU16 _)]
    rfl
  rw [OcbDictionaryValuesV1.readPrefix, Decoder.run_bind_of_ok hprefix,
    entryCount_fields, checkedAdd_of_lt (by omega), okOr_some, run_lift_bind rfl]
  rw [run_recordCount_bind (by omega) ?_ ?_]
  · rfl
  · simp only [List.length_append, writeU32_length]
    omega
  · simp only [fieldBytes, ObjectHeader.objectBytes, bodyBytes, List.length_append]
    omega

lemma run_validateData :
    (OcbDictionaryValuesV1.validateData w.fieldBytes.length w.fields w.entryCount.toNat).run
        (tableBytes w.offsets ++ (w.data ++ (w.padding ++ writeU32 0))) =
      .ok (w.dataBytes.toNat, w.data ++ (w.padding ++ writeU32 0)) := by
  obtain ⟨offsets, hoffsets, hlength⟩ := h.exists_offsets
  have hchain := h.ascending
  have hlast := h.last
  have hwidth := h.width
  rw [hoffsets] at hchain hlast hwidth
  have hpass : (validateValueOffsets w.fields w.entryCount.toNat 0).run
      (tableBytes offsets ++ (w.data ++ (w.padding ++ writeU32 0))) =
        .ok (w.dataBytes, w.data ++ (w.padding ++ writeU32 0)) :=
    run_validateValueOffsets_iff.mpr
      ⟨offsets, hlength, rfl, isChain_offsetStep (p := w.fields) hchain hlast hwidth, hlast⟩
  have hfits : w.dataBytes.toNat + 4 ≤ (w.data ++ (w.padding ++ writeU32 0)).length := by
    rw [List.length_append, List.length_append, writeU32_length, h.data]
    omega
  have htotal : (w.data ++ (w.padding ++ writeU32 0)).length ≤ w.fieldBytes.length := by
    simp only [fieldBytes, ObjectHeader.objectBytes, bodyBytes, List.length_append]
    omega
  rw [OcbDictionaryValuesV1.validateData, hoffsets, tableBytes_cons, List.append_assoc,
    run_readU64_bind, run_failIf_bind (not_not.mpr rfl), Decoder.run_bind_of_ok hpass,
    dataBytes_fields, run_failIf_bind (not_not.mpr rfl), run_position_bind,
    checkedPayloadLen_of_le hfits htotal]
  rfl

lemma run_readData (rest : List UInt8) :
    (OcbDictionaryValuesV1.readData w.data w.entryCount.toNat).run
      (tableBytes w.offsets ++ rest) = .ok (w.value.values, rest) := by
  obtain ⟨offsets, hoffsets, hlength⟩ := h.exists_offsets
  rw [OcbDictionaryValuesV1.readData, value, hoffsets, tableBytes_cons, List.append_assoc,
    run_readU64_bind, ← hlength]
  exact run_readValues_slices w.data 0 offsets

/-- The object of well-formed parts is read back, at the price of its values. -/
lemma readFromBytesWithBudget_sealBytes (hbits : w.value.materializedBytes < 2 ^ 64) :
    OcbDictionaryValuesV1.readFromBytesWithBudget (sealBytes w.fieldBytes) = (do
      MetadataMaterializationBudget.charge w.value.materializedBytes
      return w.value) := by
  have hheader : readHeader ocbDictionaryValuesHeader (sealBytes w.fieldBytes) = .ok {
      crc32c := Ocb.crc32c w.fieldBytes, version := 1, totalLen := w.fieldBytes.length
      rest := w.bodyBytes ++ writeU32 0 } := by
    rw [fieldBytes, readHeader_sealBytes_one ocbDictionaryValuesHeader rfl _ (by decide)]
    simp only [ObjectHeader.objectBytes, List.length_append, writeU16_length, writeU32_length]
    simp only [ocbDictionaryValuesHeader, List.length_cons, List.length_nil]
    exact congrArg Except.ok (by congr 1; omega)
  have hmemory := h.materializedBytes_value
  have hentries := h.count_lt
  rw [h.count] at hentries
  have hsum : checkedMaterializedSum [w.entryCount.toNat * vecHeaderBytes, w.dataBytes.toNat] =
      .ok w.value.materializedBytes := by
    rw [checkedMaterializedSum_of_lt] <;>
      rw [List.sum_cons, List.sum_cons, List.sum_nil, Nat.add_zero, ← hmemory]
    exact hbits
  have htake : (w.data ++ (w.padding ++ writeU32 0)).take w.dataBytes.toNat = w.data :=
    List.take_left' h.data
  rw [OcbDictionaryValuesV1.readFromBytesWithBudget_eq, hheader, Fallible.lift_ok_bind,
    h.run_readPrefix, Fallible.lift_ok_bind]
  simp only
  rw [h.run_validateData, Fallible.lift_ok_bind,
    checkedMaterializedVecBytes_of_lt (by decide) (by omega), Fallible.lift_ok_bind, hsum,
    Fallible.lift_ok_bind, htake, readAll, h.run_readData]
  rfl

end WellFormed

end DictionaryValuesParts

/-! ### What an accepted object holds -/

section Accepted

variable {bytes rest start atData : List UInt8} {totalLen count dataLen : ℕ}
  {p : DictionaryValuesPrefix}

/-- An object whose trailing field is its checksum is the seal of its other bytes. -/
lemma eq_sealBytes_of_readU32AtEnd (hlen : 4 ≤ bytes.length)
    (hcrc : readU32AtEnd bytes = .ok (crc32cZeroedAtEnd bytes)) :
    bytes = sealBytes (writeU32AtEnd bytes 0) := by
  have hdrop : (bytes.drop (bytes.length - 4)).length = 4 := by
    rw [List.length_drop]
    omega
  have hlt := leNat_lt (bytes.drop (bytes.length - 4))
  rw [hdrop] at hlt
  have hword : crc32cZeroedAtEnd bytes = (leNat (bytes.drop (bytes.length - 4))).toUInt32 := by
    rw [readU32AtEnd, if_neg (by omega)] at hcrc
    exact (Except.ok.inj hcrc).symm
  have htail : writeU32 (crc32cZeroedAtEnd bytes) = bytes.drop (bytes.length - 4) := by
    have hcast : (leNat (bytes.drop (bytes.length - 4))).toUInt32.toNat =
        leNat (bytes.drop (bytes.length - 4)) := by
      simp
      omega
    have hbytes := leBytes_leNat (bytes.drop (bytes.length - 4))
    rw [hdrop] at hbytes
    rw [hword, writeU32, hcast, hbytes]
  have hwrite : writeU32AtEnd bytes (crc32cZeroedAtEnd bytes) = bytes := by
    rw [writeU32AtEnd, htail, List.take_append_drop]
  rw [sealBytes, writeU32AtEnd_writeU32AtEnd hlen]
  exact hwrite.symm

/-- An object with an accepted header is sealed, and begins with this header. -/
lemma readHeader_eq_ok {h : ObjectHeader} {header : ReadHeader}
    (hok : readHeader h bytes = .ok header) :
    4 ≤ bytes.length ∧ bytes = sealBytes (writeU32AtEnd bytes 0) ∧
      writeU32AtEnd bytes 0 = h.magic ++ writeU16 1 ++ writeU16 h.headerLen.toUInt16 ++
        header.rest ∧ header.totalLen = bytes.length := by
  obtain ⟨crc, hcrc, hok⟩ := bind_eq_ok.mp hok
  obtain ⟨_, hmatch, hok⟩ := bind_eq_ok.mp hok
  obtain ⟨⟨version, rest⟩, hread, hok⟩ := bind_eq_ok.mp hok
  cases hok
  have hlen : 4 ≤ bytes.length := by
    by_contra hshort
    rw [readU32AtEnd, if_pos (by omega)] at hcrc
    cases hcrc
  rw [failIf_eq_ok, not_not] at hmatch
  subst hmatch
  refine ⟨hlen, eq_sealBytes_of_readU32AtEnd hlen hcrc, ?_, rfl⟩
  obtain ⟨_, _, hmagic, h₁⟩ := Decoder.run_bind_eq_ok.mp hread
  obtain ⟨found, _, hfound, hguard⟩ := Decoder.run_bind_eq_ok.mp hmagic
  obtain ⟨v, _, hv, h₂⟩ := Decoder.run_bind_eq_ok.mp h₁
  obtain ⟨_, _, hversionGuard, h₃⟩ := Decoder.run_bind_eq_ok.mp h₂
  obtain ⟨headerBytes, _, hheaderBytes, h₄⟩ := Decoder.run_bind_eq_ok.mp h₃
  obtain ⟨_, _, hsizeGuard, hpure⟩ := Decoder.run_bind_eq_ok.mp h₄
  obtain ⟨hsame, rfl⟩ := run_failIf_eq_ok hguard
  obtain ⟨hone, rfl⟩ := run_failIf_eq_ok hversionGuard
  obtain ⟨hsize, rfl⟩ := run_failIf_eq_ok hsizeGuard
  cases hpure
  obtain ⟨-, hbytes⟩ := Decoder.run_take_eq_ok.mp hfound
  rw [not_not] at hsame hone hsize
  have hlength : headerBytes = h.headerLen.toUInt16 := by
    rw [← hsize]
    simp
  have hversion := Decoder.run_uint16_eq_ok.mp hv
  have hword := Decoder.run_uint16_eq_ok.mp hheaderBytes
  rw [hbytes, hversion, hword, hsame, hone, hlength]
  simp only [writeU16, List.append_assoc]

/-- A section of records that is accepted fits before the checksum. -/
lemma run_recordCount_fits {recordLen n : ℕ} {what : String} (hle : bytes.length ≤ totalLen)
    (h : (recordCount totalLen count recordLen what).run bytes = .ok (n, rest)) :
    count * recordLen + 4 ≤ bytes.length := by
  obtain ⟨pos, mid, hpos, hcount⟩ := Decoder.run_bind_eq_ok.mp h
  cases hpos
  have hrun : (checkedRecordCount totalLen (totalLen - bytes.length) count recordLen what >>=
      fun n => Except.ok (n, bytes)) = .ok (n, rest) := hcount
  simp only [checkedRecordCount, remainingBeforeCrc, bind_eq_ok, okOr_eq_ok, failIf_eq_ok,
    pure_eq_ok, Except.ok.injEq, checkedMul_eq_some, checkedSub_eq_some] at hrun
  obtain ⟨_, ⟨_, ⟨rfl, -⟩, _, ⟨_, ⟨rfl, hfour⟩, _, hpos, rfl⟩, _, hneeded, -⟩, -⟩ := hrun
  omega

/-- A payload that is accepted fits before the checksum. -/
lemma run_checkedPayloadLen_fits {len n : ℕ} {what : String} (hle : bytes.length ≤ totalLen)
    (h : (position totalLen >>= fun pos => (liftM (checkedPayloadLen totalLen pos len what) :
      Reader ℕ)).run bytes = .ok (n, rest)) : len + 4 ≤ bytes.length := by
  obtain ⟨pos, mid, hpos, h⟩ := Decoder.run_bind_eq_ok.mp h
  cases hpos
  have hrun : (checkedPayloadLen totalLen (totalLen - bytes.length) len what >>=
      fun n => Except.ok (n, bytes)) = .ok (n, rest) := h
  simp only [checkedPayloadLen, remainingBeforeCrc, bind_eq_ok, okOr_eq_ok, failIf_eq_ok,
    pure_eq_ok, Except.ok.injEq, checkedSub_eq_some] at hrun
  obtain ⟨_, ⟨_, ⟨_, ⟨rfl, hfour⟩, _, hpos, rfl⟩, _, hlen, -⟩, -⟩ := hrun
  omega

/-- A step that reads nothing. -/
lemma run_lift_eq_ok {α : Type} {x : Result α} {a : α}
    (h : (liftM x : Reader α).run bytes = .ok (a, rest)) : x = .ok a ∧ rest = bytes := by
  cases x with
  | error e => cases h
  | ok b =>
    cases h
    exact ⟨rfl, rfl⟩

lemma dictionaryValueKind_fromU16_eq_ok {v : UInt16} {kind : OcbDictionaryValueKindV1}
    (h : OcbDictionaryValueKindV1.fromU16 v = .ok kind) : v = kind.toU16 := by
  rw [← UInt16.toNat_inj]
  rw [OcbDictionaryValueKindV1.fromU16] at h
  split at h
  all_goals cases h
  all_goals assumption

/-- The fields before the table, as they stand in the object. -/
lemma run_readPrefix_eq_ok (hle : rest.length ≤ totalLen)
    (h : (OcbDictionaryValuesV1.readPrefix totalLen).run rest = .ok ((p, count), start)) :
    (∃ reserved0 flags reserved1, rest = writeU16 p.valueKind.toU16 ++ (writeU16 reserved0 ++
      (writeU32 p.entryCount ++ (writeU32 p.fixedWidth ++ (writeU64 p.dataBytes ++
        (writeU32 flags ++ (writeU32 reserved1 ++ start))))))) ∧
      count = p.entryCount.toNat ∧ count + 1 < 2 ^ 32 ∧ (count + 1) * 8 + 4 ≤ start.length := by
  obtain ⟨p', start', hprefix, h₁⟩ := Decoder.run_bind_eq_ok.mp h
  obtain ⟨offsetCount, mid, hadd, h₂⟩ := Decoder.run_bind_eq_ok.mp h₁
  obtain ⟨n, after, hcount, hpure⟩ := Decoder.run_bind_eq_ok.mp h₂
  cases hpure
  obtain ⟨hoffsetCount, rfl⟩ := run_lift_eq_ok hadd
  obtain ⟨rfl, hlt⟩ := checkedAdd_eq_some.mp (okOr_eq_ok.mp hoffsetCount)
  obtain ⟨rfl, rfl⟩ := run_recordCount_eq_ok hcount
  obtain ⟨kind, _, hkind, h₁⟩ := Decoder.run_bind_eq_ok.mp hprefix
  obtain ⟨valueKind, _, hvalueKind, h₂⟩ := Decoder.run_bind_eq_ok.mp h₁
  obtain ⟨reserved0, _, hreserved0, h₃⟩ := Decoder.run_bind_eq_ok.mp h₂
  obtain ⟨entryCount, _, hentryCount, h₄⟩ := Decoder.run_bind_eq_ok.mp h₃
  obtain ⟨fixedWidth, _, hfixedWidth, h₅⟩ := Decoder.run_bind_eq_ok.mp h₄
  obtain ⟨dataBytes, _, hdataBytes, h₆⟩ := Decoder.run_bind_eq_ok.mp h₅
  obtain ⟨flags, _, hflags, h₇⟩ := Decoder.run_bind_eq_ok.mp h₆
  obtain ⟨reserved1, _, hreserved1, hpure⟩ := Decoder.run_bind_eq_ok.mp h₇
  cases hpure
  obtain ⟨hfrom, rfl⟩ := run_lift_eq_ok hvalueKind
  have hrest : rest = writeU16 valueKind.toU16 ++ (writeU16 reserved0 ++ (writeU32 entryCount ++
      (writeU32 fixedWidth ++ (writeU64 dataBytes ++ (writeU32 flags ++
        (writeU32 reserved1 ++ start)))))) := by
    rw [← dictionaryValueKind_fromU16_eq_ok hfrom]
    rw [Decoder.run_uint16_eq_ok.mp hkind, Decoder.run_uint16_eq_ok.mp hreserved0,
      Decoder.run_uint32_eq_ok.mp hentryCount, Decoder.run_uint32_eq_ok.mp hfixedWidth,
      Decoder.run_uint64_eq_ok.mp hdataBytes, Decoder.run_uint32_eq_ok.mp hflags,
      Decoder.run_uint32_eq_ok.mp hreserved1]
    rfl
  have hstart : start.length ≤ rest.length := by
    simp only [hrest, List.length_append]
    omega
  have hfits := run_recordCount_fits (hstart.trans hle) hcount
  exact ⟨⟨reserved0, flags, reserved1, hrest⟩, by dsimp only; omega, by omega, by omega⟩

/-- A table that passes the checks starts at zero, ends where the data ends, and the data fits. -/
lemma run_validateData_eq_ok (hle : start.length ≤ totalLen)
    (h : (OcbDictionaryValuesV1.validateData totalLen p count).run start =
      .ok (dataLen, atData)) :
    dataLen = p.dataBytes.toNat ∧ dataLen + 4 ≤ atData.length ∧ ∃ offsets,
      offsets.length = count ∧ start = tableBytes (0 :: offsets) ++ atData ∧
        (0 :: offsets).IsChain (OffsetStep p) ∧
        (0 :: offsets).getLast? = some p.dataBytes := by
  obtain ⟨first, _, hfirst, h₁⟩ := Decoder.run_bind_eq_ok.mp h
  obtain ⟨_, _, hzero, h₂⟩ := Decoder.run_bind_eq_ok.mp h₁
  obtain ⟨last, _, hoffsets, h₃⟩ := Decoder.run_bind_eq_ok.mp h₂
  obtain ⟨_, _, hcover, hlength⟩ := Decoder.run_bind_eq_ok.mp h₃
  obtain ⟨hstart, rfl⟩ := run_failIf_eq_ok hzero
  obtain ⟨hlast, rfl⟩ := run_failIf_eq_ok hcover
  obtain ⟨rfl, rfl, -⟩ := run_position_checkedPayloadLen_eq_ok hlength
  rw [not_not] at hstart hlast
  subst hstart hlast
  obtain ⟨offsets, hcount, hbytes, hchain, hend⟩ := run_validateValueOffsets_iff.mp hoffsets
  have htable : start = tableBytes (0 :: offsets) ++ atData := by
    rw [tableBytes_cons, List.append_assoc, ← hbytes]
    exact Decoder.run_uint64_eq_ok.mp hfirst
  have hrest : atData.length ≤ start.length := by
    rw [htable, List.length_append]
    omega
  exact ⟨rfl, run_checkedPayloadLen_fits (hrest.trans hle) hlength, offsets, hcount, htable, hchain,
    hend⟩

/-- The neighbours of a table that passes the checks are in order, and of the right width. -/
lemma isChain_of_offsetStep {offsets : List UInt64} (h : offsets.IsChain (OffsetStep p)) :
    offsets.IsChain (· ≤ ·) ∧ (p.valueKind = .fixedBytes →
      offsets.IsChain fun start stop => stop.toNat - start.toNat = p.fixedWidth.toNat) :=
  ⟨h.imp fun _ _ hstep => hstep.le, fun hkind => h.imp fun _ _ hstep => hstep.width hkind⟩

/-- The bytes after the table, when the object ends in a zeroed checksum: the data, whatever
follows it, and the checksum. -/
lemma eq_data_append (hfits : dataLen + 4 ≤ atData.length)
    (hsuffix : atData <:+ writeU32AtEnd bytes 0) :
    ∃ padding, atData = atData.take dataLen ++ (padding ++ writeU32 0) := by
  obtain ⟨before, hend⟩ := hsuffix
  have hcut := List.take_append_drop (atData.length - 4) atData
  have htail : atData.drop (atData.length - 4) = writeU32 0 := by
    rw [← hcut, ← List.append_assoc] at hend
    refine (List.append_inj' hend ?_).2
    rw [List.length_drop, writeU32_length]
    omega
  refine ⟨(atData.take (atData.length - 4)).drop dataLen, ?_⟩
  rw [← htail, ← List.append_assoc]
  have htake : atData.take dataLen = (atData.take (atData.length - 4)).take dataLen := by
    rw [List.take_take, Nat.min_eq_left (by omega)]
  rw [htake, List.take_append_drop, hcut]

/-- An accepted object is made of well-formed parts. -/
lemma exists_wellFormed {budget budget' : MetadataMaterializationBudget}
    {d : OcbDictionaryValuesV1}
    (h : (OcbDictionaryValuesV1.readFromBytesWithBudget bytes).run budget = (.ok d, budget')) :
    ∃ w : DictionaryValuesParts, w.WellFormed ∧ bytes = sealBytes w.fieldBytes ∧
      w.value.materializedBytes < 2 ^ 64 := by
  rw [OcbDictionaryValuesV1.readFromBytesWithBudget_eq] at h
  obtain ⟨header, hheader, h⟩ := Fallible.run_lift_bind_eq_ok.mp h
  obtain ⟨⟨⟨p, count⟩, start⟩, hprefix, h⟩ := Fallible.run_lift_bind_eq_ok.mp h
  obtain ⟨⟨dataLen, atData⟩, hdata, h⟩ := Fallible.run_lift_bind_eq_ok.mp h
  obtain ⟨vecBytes, hvec, h⟩ := Fallible.run_lift_bind_eq_ok.mp h
  obtain ⟨retained, hretained, -⟩ := Fallible.run_lift_bind_eq_ok.mp h
  obtain ⟨hlen, hseal, hzeroed, htotal⟩ := readHeader_eq_ok hheader
  have hrestLen : header.rest.length ≤ header.totalLen := by
    have hlength := congrArg List.length hzeroed
    rw [length_writeU32AtEnd hlen, List.length_append] at hlength
    omega
  obtain ⟨⟨reserved0, flags, reserved1, hrest⟩, hentries, hcountLt, -⟩ :=
    run_readPrefix_eq_ok hrestLen hprefix
  have hstartLen : start.length ≤ header.totalLen := by
    refine le_trans ?_ hrestLen
    simp only [hrest, List.length_append]
    omega
  obtain ⟨hdataLen, hfits, offsets, hcount, hstart, hchain, hlast⟩ :=
    run_validateData_eq_ok hstartLen hdata
  obtain ⟨hascending, hwidth⟩ := isChain_of_offsetStep hchain
  -- the data is what is left behind the header, the prefix and the offsets
  have hsuffix : atData <:+ writeU32AtEnd bytes 0 := by
    rw [hzeroed, hrest, hstart]
    iterate 8 refine List.suffix_append_of_suffix ?_
    exact List.suffix_append _ _
  obtain ⟨padding, hatData⟩ := eq_data_append hfits hsuffix
  have hlength : (atData.take dataLen).length = dataLen := by
    rw [List.length_take]
    omega
  let w : DictionaryValuesParts :=
    ⟨p.valueKind, reserved0, p.entryCount, p.fixedWidth, p.dataBytes, flags, reserved1, 0 :: offsets,
      atData.take dataLen, padding⟩
  have hw : w.WellFormed := {
    count := by rw [List.length_cons, hcount, hentries]
    count_lt := by rw [List.length_cons, hcount]; exact hcountLt
    start := rfl
    ascending := hascending
    last := hlast
    data := hlength.trans hdataLen
    width := hwidth }
  have hfields : writeU32AtEnd bytes 0 = w.fieldBytes := by
    rw [hzeroed, hrest, hstart, hatData]
    simp only [DictionaryValuesParts.fieldBytes, ObjectHeader.objectBytes,
      DictionaryValuesParts.bodyBytes, List.append_assoc, w]
  refine ⟨w, hw, hfields ▸ hseal, ?_⟩
  have hsum := checkedMaterializedSum_lt hretained
  rw [checkedMaterializedSum_eq_ok hretained, checkedMaterializedVecBytes_eq_ok hvec, hdataLen,
    hentries] at hsum
  rw [hw.materializedBytes_value]
  simpa using hsum

end Accepted

/-! ### Exactly the layout -/

/-- The decoder returns a value for the objects that are made of well-formed parts, as long as the
budget has room for the value; it is the one that the parts hold, and its values put together are
the data of the object. -/
theorem OcbDictionaryValuesV1.readFromBytes_exact (bytes : List UInt8)
    (budget : MetadataMaterializationBudget) (d : OcbDictionaryValuesV1) :
    ((∃ budget', (readFromBytesWithBudget bytes).run budget = (.ok d, budget')) ↔
      ∃ w : DictionaryValuesParts, w.WellFormed ∧ bytes = sealBytes w.fieldBytes ∧ d = w.value ∧
        budget.chargedBytes + d.materializedBytes ≤ budget.limitBytes) ∧
    ∀ w : DictionaryValuesParts, w.WellFormed → w.value.values.flatten = w.data := by
  refine ⟨⟨?_, ?_⟩, fun w hw => hw.flatten_values⟩
  · rintro ⟨budget', hrun⟩
    obtain ⟨w, hw, rfl, hbits⟩ := exists_wellFormed hrun
    rw [hw.readFromBytesWithBudget_sealBytes hbits] at hrun
    by_cases hle : budget.chargedBytes + w.value.materializedBytes ≤ budget.limitBytes
    · rw [Fallible.run_bind_of_ok (run_charge_of_le hle)] at hrun
      cases hrun
      exact ⟨w, hw, rfl, rfl, hle⟩
    · rw [Fallible.run_bind_of_error (run_charge_of_lt (by omega))] at hrun
      cases hrun
  · rintro ⟨w, hw, rfl, rfl, hle⟩
    have hlimit := budget.limit_lt
    rw [hw.readFromBytesWithBudget_sealBytes (by omega),
      Fallible.run_bind_of_ok (run_charge_of_le hle)]
    exact ⟨_, rfl⟩

namespace DictionaryValuesParts

/-- One text of one byte, with a width of five that nothing looks at. -/
def sample : DictionaryValuesParts where
  valueKind := .utf8
  reserved0 := 0
  entryCount := 1
  fixedWidth := 5
  dataBytes := 1
  flags := 0
  reserved1 := 0
  offsets := [0, 1]
  data := [97]
  padding := []

lemma wellFormed_sample : sample.WellFormed where
  count := rfl
  count_lt := by decide
  start := rfl
  ascending := by simp [sample]
  last := rfl
  data := rfl
  width h := by cases h

end DictionaryValuesParts

/-- One value of one byte in a dictionary of fixed width zero. -/
def OcbDictionaryValuesV1.widthZero : OcbDictionaryValuesV1 where
  version := 1
  valueKind := .fixedBytes
  fixedWidth := 0
  values := [[97]]
  crc32c := 0

/-- Some number of empty texts. -/
def OcbDictionaryValuesV1.emptyTexts (n : ℕ) : OcbDictionaryValuesV1 where
  version := 1
  valueKind := .utf8
  fixedWidth := 0
  values := List.replicate n []
  crc32c := 0

lemma OcbDictionaryValuesV1.readUnlimited_emptyTexts {n : ℕ} (h : n + 1 = 2 ^ 32) :
    readUnlimited readFromBytesWithBudget (sealBytes (emptyTexts n).fieldBytes) =
      .error (ocbCorruptFile "OCB dictionary values offset count overflows") := by
  refine WriterAccepts.readUnlimited_of_count rfl ?_
  rw [emptyTexts, List.length_replicate, h]

/-- The width counts for dictionaries of fixed-width bytes and for no others: a text that does not
have the width of its object is read, and a value of one byte is refused for the width zero.  And
one entry below `2^32`, a table has more offsets than the decoder counts. -/
theorem OcbDictionaryValuesV1.width_guard :
    (DictionaryValuesParts.sample.fixedWidth = 5 ∧
      readUnlimited readFromBytesWithBudget (sealBytes DictionaryValuesParts.sample.fieldBytes) =
        .ok DictionaryValuesParts.sample.value ∧
      DictionaryValuesParts.sample.value.values = [[97]]) ∧
    readUnlimited readFromBytesWithBudget (sealBytes widthZero.fieldBytes) =
      .error (ocbCorruptFile
        "OCB fixed-byte dictionary value length does not match fixed width") ∧
    readUnlimited readFromBytesWithBudget (sealBytes (emptyTexts (2 ^ 32 - 1)).fieldBytes) =
      .error (ocbCorruptFile "OCB dictionary values offset count overflows") := by
  refine ⟨⟨rfl, ?_, rfl⟩, ?_, ?_⟩
  · have hmemory := DictionaryValuesParts.wellFormed_sample.materializedBytes_value
    have hbits : DictionaryValuesParts.sample.value.materializedBytes < 2 ^ 64 := by
      rw [hmemory]
      decide
    exact readUnlimited_of_charge
      (DictionaryValuesParts.wellFormed_sample.readFromBytesWithBudget_sealBytes hbits) hbits
  · have hdata : widthZero.values.flatten.length < 2 ^ 63 := by decide
    rw [readUnlimited, readFromBytesWithBudget_eq, widthZero.readHeader_sealBytes rfl,
      Fallible.lift_ok_bind, widthZero.run_readPrefix (by decide), Fallible.lift_ok_bind]
    simp only
    rw [widthZero.run_validateData_of_ne hdata rfl ⟨[97], by simp [widthZero], by decide⟩]
    rfl
  · exact readUnlimited_emptyTexts (by omega)

end ArcadiaTio.Ocb
