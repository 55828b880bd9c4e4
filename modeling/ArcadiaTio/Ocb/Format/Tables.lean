import ArcadiaTio.Ocb.Format.Root

/-!
# Metadata tables: strings, schema, dictionaries

The variable-size metadata objects share one shape.  The checksum and the header are verified
first; a *validation pass* then decodes every record and forgets it; the retained bytes are
charged to the metadata budget; and a *materializing pass* decodes the same records again and
keeps them.  `readHeader` is the common prefix, `recordCount` the bound on a record section.
-/

namespace ArcadiaTio.Ocb

open ArcadiaTio.Lib

/-- The null identifier of a 32-bit id field. -/
def ocbNullU32 : UInt32 := 0xFFFFFFFF

/-! ### Object headers and record sections -/

/-- What the header of a metadata object must look like, with the texts of its errors. -/
structure ObjectHeader where
  /-- The name of the object in the texts of its errors. -/
  what : String
  magic : List UInt8
  headerLen : ℕ

/-- The verified prefix of a metadata object. -/
structure ReadHeader where
  crc32c : UInt32
  version : UInt16
  /-- The length of the whole object. -/
  totalLen : ℕ
  /-- The bytes after the header length field, the checksum field zeroed. -/
  rest : List UInt8

/-- Magic, version and header length; the result is the version. -/
def ObjectHeader.read (h : ObjectHeader) : Reader UInt16 := do
  readMagic h.magic ("invalid " ++ h.what ++ " magic")
  let version ← readU16
  failIf (version ≠ 1) (ocbUnsupportedFormat ("unsupported " ++ h.what ++ " version"))
  let headerBytes ← readU16
  failIf (headerBytes.toNat ≠ h.headerLen)
    (ocbCorruptFile ("invalid " ++ h.what ++ " header length"))
  return version

/-- Verify checksum, magic, version and header length of a metadata object. -/
def readHeader (h : ObjectHeader) (bytes : List UInt8) : Result ReadHeader := do
  let actualCrc ← readU32AtEnd bytes
  failIf (actualCrc ≠ crc32cZeroedAtEnd bytes) (ocbCorruptFile (h.what ++ " crc mismatch"))
  let (version, rest) ← h.read.run (writeU32AtEnd bytes 0)
  return { crc32c := actualCrc, version, totalLen := bytes.length, rest }

/-- A metadata object with its checksum field zero. -/
def ObjectHeader.objectBytes (h : ObjectHeader) (version : UInt16) (body : List UInt8) :
    List UInt8 :=
  h.magic ++ writeU16 version ++ writeU16 h.headerLen.toUInt16 ++ body ++ writeU32 0

section Sealed

variable (h : ObjectHeader) (hmagic : h.magic.length = 8) (version : UInt16) (body : List UInt8)

include hmagic in
lemma length_sealBytes_objectBytes :
    (sealBytes (h.objectBytes version body)).length = body.length + 16 := by
  simp only [ObjectHeader.objectBytes, length_sealBytes, List.length_append, hmagic,
    writeU16_length]
  omega

/-- The checksum of a sealed object is accepted. -/
lemma readHeader_sealBytes :
    readHeader h (sealBytes (h.objectBytes version body)) =
      (h.read.run (h.objectBytes version body) >>= fun (v, rest) => .ok {
        crc32c := crc32c (h.objectBytes version body), version := v
        totalLen := (sealBytes (h.objectBytes version body)).length, rest }) := by
  have hread : readU32AtEnd (sealBytes (h.objectBytes version body)) =
      .ok (crc32c (h.objectBytes version body)) := readU32AtEnd_sealBytes _
  have hzero : writeU32AtEnd (sealBytes (h.objectBytes version body)) 0 =
      h.objectBytes version body := writeU32AtEnd_sealBytes _
  have hmatch : ¬ crc32c (h.objectBytes version body) ≠
      crc32cZeroedAtEnd (sealBytes (h.objectBytes version body)) := by
    rw [crc32cZeroedAtEnd, hzero]
    exact not_not.mpr rfl
  rw [readHeader, hread, ok_bind, failIf_neg hmatch, ok_bind, hzero]
  rfl

include hmagic in
/-- The header of a sealed object of version 1 is accepted. -/
lemma readHeader_sealBytes_one (hlen : h.headerLen < 2 ^ 16) :
    readHeader h (sealBytes (h.objectBytes 1 body)) = .ok {
      crc32c := crc32c (h.objectBytes 1 body), version := 1, totalLen := body.length + 16
      rest := body ++ writeU32 0 } := by
  have hheader : ¬ (UInt16.toNat h.headerLen.toUInt16 ≠ h.headerLen) := by
    simpa using hlen
  rw [readHeader_sealBytes, length_sealBytes_objectBytes h hmagic]
  generalize crc32c (h.objectBytes 1 body) = crc
  simp only [ObjectHeader.read, ObjectHeader.objectBytes, List.append_assoc,
    run_readMagic_bind hmagic, run_readU16_bind,
    run_failIf_bind (not_not.mpr (rfl : (1 : UInt16) = 1)), run_failIf_bind hheader]
  rfl

include hmagic in
/-- A sealed object of another version is not supported. -/
lemma readHeader_sealBytes_ne_one (hversion : version ≠ 1) :
    readHeader h (sealBytes (h.objectBytes version body)) =
      .error (ocbUnsupportedFormat ("unsupported " ++ h.what ++ " version")) := by
  rw [readHeader_sealBytes]
  simp only [ObjectHeader.read, ObjectHeader.objectBytes, List.append_assoc,
    run_readMagic_bind hmagic, run_readU16_bind, run_failIf_bind_of_pos hversion, error_bind]

end Sealed

/-- The bytes between a position and the trailing checksum. -/
def remainingBeforeCrc (totalLen position : ℕ) : Result ℕ := do
  let payloadEnd ← okOr (checkedSub totalLen 4) (ocbCorruptFile "OCB object is too short")
  failIf (position > payloadEnd) (ocbCorruptFile "OCB cursor advanced beyond object payload")
  return payloadEnd - position

/-- The records that a table announces fit what is left of the object. -/
def checkedRecordCount (totalLen position count recordLen : ℕ) (what : String) : Result ℕ := do
  let needed ← okOr (checkedMul usizeBits count recordLen)
    (ocbCorruptFile "OCB record byte count overflows")
  let remaining ← remainingBeforeCrc totalLen position
  failIf (needed > remaining) (ocbCorruptFile what)
  return count

/-- The payload that an object announces fits what is left of it. -/
def checkedPayloadLen (totalLen position len : ℕ) (what : String) : Result ℕ := do
  let remaining ← remainingBeforeCrc totalLen position
  failIf (len > remaining) (ocbCorruptFile what)
  return len

/-- The position of the cursor in an object of the given length. -/
def position (totalLen : ℕ) : Reader ℕ := do
  let rest ← get
  return totalLen - rest.length

/-- Check that a section of records fits before the trailing checksum. -/
def recordCount (totalLen count recordLen : ℕ) (what : String) : Reader ℕ := do
  let pos ← position totalLen
  checkedRecordCount totalLen pos count recordLen what

/-- Decode the records of a section without keeping them. -/
def validateRecordSequence {α : Type} (count : ℕ) (readRecord : Reader α) : Reader Unit := do
  let _ ← Decoder.repeatN readRecord count
  return ()

/-- Decode the records of a section. -/
def readRecordSequence {α : Type} (count : ℕ) (readRecord : Reader α) : Reader (List α) :=
  Decoder.repeatN readRecord count

/-- The bytes retained by a vector of records of the given size. -/
def checkedMaterializedVecBytes (itemBytes count : ℕ) : Result ℕ :=
  okOr (checkedMul 64 count itemBytes)
    (ocbCorruptFile "OCB metadata materialized byte count overflows")

/-- What some parts take together. -/
def checkedMaterializedSum (parts : List ℕ) : Result ℕ :=
  parts.foldlM (fun total part => okOr (checkedAdd 64 total part)
    (ocbCorruptFile "OCB metadata materialized byte count overflows")) 0

/-- The size of a `String` or `Vec<u8>` header on a 64-bit target. -/
def vecHeaderBytes : ℕ := 24

/-! ### Writers

An encoder collects an object in a `Vec<u8>`, with its checksum field zero, and writes it out
once the checksum is stored.  Records are checked one by one as they are written. -/

/-- The buffer of an encoder: a `Vec<u8>` that would exceed `isize::MAX` bytes aborts the write. -/
def vecBuffer (bytes : List UInt8) : Result (List UInt8) := do
  failIf (2 ^ 63 ≤ bytes.length) (.io "capacity overflow")
  return bytes

lemma vecBuffer_eq_ok {bytes buf : List UInt8} :
    vecBuffer bytes = .ok buf ↔ buf = bytes ∧ bytes.length < 2 ^ 63 := by
  simp only [vecBuffer, bind_eq_ok, failIf_eq_ok, not_le, pure_eq_ok, Except.ok.injEq]
  constructor
  · rintro ⟨_, h, rfl⟩
    exact ⟨rfl, h⟩
  · rintro ⟨rfl, h⟩
    exact ⟨(), h, rfl⟩

/-- A list of records whose checks pass is written as the records one after the other. -/
lemma mapM_writeTo {α : Type} {writeTo : α → Result (List UInt8)} {write : α → List UInt8}
    (h : ∀ a b, writeTo a = .ok b → b = write a) {as : List α} {bs : List (List UInt8)}
    (hall : as.mapM writeTo = .ok bs) : bs.flatten = as.flatMap write := by
  have hforall := mapM_eq_ok.mp hall
  clear hall
  induction hforall with
  | nil => rfl
  | cons hab _ ih => rw [List.flatten_cons, List.flatMap_cons, h _ _ hab, ih]

lemma mapM_writeTo_mem {α : Type} {writeTo : α → Result (List UInt8)} {as : List α}
    {bs : List (List UInt8)} (hall : as.mapM writeTo = .ok bs) {a : α} (ha : a ∈ as) :
    ∃ b, writeTo a = .ok b := by
  have hforall := mapM_eq_ok.mp hall
  clear hall
  induction hforall with
  | nil => cases ha
  | cons hab _ ih =>
    rcases List.mem_cons.mp ha with rfl | ha
    · exact ⟨_, hab⟩
    · exact ih ha

/-! A section that holds one record for each item of a list is read back as this list. -/

section RecordSections

variable {α β : Type} {rest : List UInt8}

lemma run_recordCount_bind {totalLen count recordLen : ℕ} {what : String} {bytes : List UInt8}
    {f : ℕ → Reader β} (hbits : count * recordLen < 2 ^ 64)
    (hfits : count * recordLen + 4 ≤ bytes.length) (hle : bytes.length ≤ totalLen) :
    (recordCount totalLen count recordLen what >>= f).run bytes = (f count).run bytes := by
  have hremaining : remainingBeforeCrc totalLen (totalLen - bytes.length) =
      .ok (bytes.length - 4) := by
    rw [remainingBeforeCrc, checkedSub, if_pos (by omega), okOr_some, ok_bind,
      failIf_neg (by omega), ok_bind]
    exact congrArg Except.ok (by omega)
  have hcount : checkedRecordCount totalLen (totalLen - bytes.length) count recordLen what =
      .ok count := by
    rw [checkedRecordCount, usizeBits, checkedMul_of_lt hbits, okOr_some, ok_bind, hremaining, ok_bind,
      failIf_neg (by omega)]
    rfl
  have hrun : (recordCount totalLen count recordLen what).run bytes = .ok (count, bytes) := by
    change (checkedRecordCount totalLen (totalLen - bytes.length) count recordLen what >>=
      fun count => .ok (count, bytes)) = _
    rw [hcount]
    rfl
  exact Decoder.run_bind_of_ok hrun

variable {d : Reader α} {enc : α → List UInt8} {as : List α}

lemma run_readRecordSequence (h : ∀ a ∈ as, ∀ rest, d.run (enc a ++ rest) = .ok (a, rest)) :
    (readRecordSequence as.length d).run (as.flatMap enc ++ rest) = .ok (as, rest) :=
  Decoder.run_repeatN_encode h rest

lemma run_readRecordSequence_bind {f : List α → Reader β}
    (h : ∀ a ∈ as, ∀ rest, d.run (enc a ++ rest) = .ok (a, rest)) :
    (readRecordSequence as.length d >>= f).run (as.flatMap enc ++ rest) = (f as).run rest :=
  Decoder.run_bind_of_ok (run_readRecordSequence h)

lemma run_validateRecordSequence (h : ∀ a ∈ as, ∀ rest, d.run (enc a ++ rest) = .ok (a, rest)) :
    (validateRecordSequence as.length d).run (as.flatMap enc ++ rest) = .ok ((), rest) := by
  rw [validateRecordSequence, Decoder.run_bind_of_ok (Decoder.run_repeatN_encode h rest)]
  rfl

lemma run_validateRecordSequence_bind {f : Unit → Reader β}
    (h : ∀ a ∈ as, ∀ rest, d.run (enc a ++ rest) = .ok (a, rest)) :
    (validateRecordSequence as.length d >>= f).run (as.flatMap enc ++ rest) = (f ()).run rest :=
  Decoder.run_bind_of_ok (run_validateRecordSequence h)

lemma length_flatMap_of_length {n : ℕ} (h : ∀ a ∈ as, (enc a).length = n) :
    (as.flatMap enc).length = as.length * n := by
  induction as with
  | nil => simp
  | cons a as ih =>
    rw [List.flatMap_cons, List.length_append, h a (by simp), ih fun b hb => h b (by simp [hb]),
      List.length_cons]
    ring

/-- A section with one record for each item of a list passes the bound on its record count. -/
lemma run_recordCount_records_bind {totalLen recordLen : ℕ} {what : String} {f : ℕ → Reader β}
    (hlen : ∀ a ∈ as, (enc a).length = recordLen) (hcount : as.length < 2 ^ 32)
    (hrecord : recordLen < 2 ^ 32) (hrest : 4 ≤ rest.length)
    (hle : (as.flatMap enc ++ rest).length ≤ totalLen) :
    (recordCount totalLen as.length recordLen what >>= f).run (as.flatMap enc ++ rest) =
      (f as.length).run (as.flatMap enc ++ rest) := by
  have hbytes := length_flatMap_of_length hlen
  refine run_recordCount_bind ?_ ?_ hle
  · calc as.length * recordLen < 2 ^ 32 * 2 ^ 32 := Nat.mul_lt_mul'' hcount hrecord
      _ = 2 ^ 64 := by norm_num
  · rw [List.length_append, hbytes]
    omega

lemma checkedMaterializedVecBytes_of_lt {itemBytes count : ℕ} (hitem : itemBytes < 2 ^ 32)
    (hcount : count < 2 ^ 32) : checkedMaterializedVecBytes itemBytes count =
      .ok (count * itemBytes) := by
  have hbits : count * itemBytes < 2 ^ 64 :=
    calc count * itemBytes < 2 ^ 32 * 2 ^ 32 := Nat.mul_lt_mul'' hcount hitem
      _ = 2 ^ 64 := by norm_num
  rw [checkedMaterializedVecBytes, checkedMul_of_lt hbits, okOr_some]

lemma checkedMaterializedSum_of_lt {parts : List ℕ} (h : parts.sum < 2 ^ 64) :
    checkedMaterializedSum parts = .ok parts.sum := by
  have hfold : ∀ (parts : List ℕ) (total : ℕ), total + parts.sum < 2 ^ 64 →
      parts.foldlM (fun total part => okOr (checkedAdd 64 total part)
        (ocbCorruptFile "OCB metadata materialized byte count overflows")) total =
      .ok (total + parts.sum) := by
    intro parts
    induction parts with
    | nil => intro total _; rfl
    | cons part rest ih =>
      intro total h
      rw [List.sum_cons] at h
      rw [List.foldlM_cons, checkedAdd_of_lt (by omega), okOr_some, ok_bind, ih _ (by omega),
        List.sum_cons, Nat.add_assoc]
  rw [checkedMaterializedSum, hfold parts 0 (by omega), Nat.zero_add]

end RecordSections

/-! ### String tables -/

/-- The table of names. -/
structure OcbStringTableV1 where
  version : UInt16
  strings : List String
  crc32c : UInt32
deriving DecidableEq

/-- How a string table begins. -/
def ocbStringTableHeader : ObjectHeader where
  what := "OCB string table"
  magic := [79, 67, 66, 83, 84, 82, 49, 0]
  headerLen := 20

/-- The text whose UTF-8 bytes are given. -/
def stringFromUtf8 (bytes : List UInt8) : Option String := String.fromUTF8? ⟨bytes.toArray⟩

/-- A length-prefixed string before the trailing checksum. -/
def readStringU32Bounded (totalLen : ℕ) : Reader String := do
  let pos ← position totalLen
  let _ ← checkedPayloadLen totalLen pos 4 "OCB string byte length"
  let len ← readU32
  let pos ← position totalLen
  let len ← checkedPayloadLen totalLen pos len.toNat "OCB string byte length"
  let bytes ← readExactOcb len
  okOr (stringFromUtf8 bytes) (ocbCorruptFile "OCB string is not valid UTF-8")

/-- The byte length of the next string, after checking it. -/
def inspectStringU32Bounded (totalLen : ℕ) : Reader ℕ := do
  let pos ← position totalLen
  let _ ← checkedPayloadLen totalLen pos 4 "OCB string byte length"
  let len ← readU32
  let pos ← position totalLen
  let len ← checkedPayloadLen totalLen pos len.toNat "OCB string byte length"
  let bytes ← readExactOcb len
  let _ ← okOr (stringFromUtf8 bytes) (ocbCorruptFile "OCB string is not valid UTF-8")
  return len

/-- Decode a string table and charge what it takes. -/
def OcbStringTableV1.readFromBytesWithBudget (bytes : List UInt8) : Metered OcbStringTableV1 := do
  let header ← readHeader ocbStringTableHeader bytes
  let (stringCount, start) ← (do
    let stringCount ← readU32
    let _reserved0 ← readU32
    recordCount header.totalLen stringCount.toNat 4 "OCB string table string count").run header.rest
  let lens ← readAll (readRecordSequence stringCount (inspectStringU32Bounded header.totalLen)) start
  let stringBytes ← lens.foldlM (fun total len => okOr (checkedAdd 64 total len)
    (ocbCorruptFile "OCB string table materialized byte count overflows")) 0
  let vecBytes ← checkedMaterializedVecBytes vecHeaderBytes stringCount
  let retainedBytes ← checkedMaterializedSum [vecBytes, stringBytes]
  MetadataMaterializationBudget.charge retainedBytes
  let strings ← readAll (readRecordSequence stringCount (readStringU32Bounded header.totalLen)) start
  return { version := header.version, strings, crc32c := header.crc32c }

/-- A text behind its length. -/
def writeStringU32 (value : String) : List UInt8 :=
  writeU32 value.toUTF8.size.toUInt32 ++ value.toUTF8.data.toList

/-- The bytes of a string table with its checksum field zero. -/
def OcbStringTableV1.fieldBytes (t : OcbStringTableV1) : List UInt8 :=
  ocbStringTableHeader.objectBytes t.version
    (writeU32 t.strings.length.toUInt32 ++ writeU32 0 ++ t.strings.flatMap writeStringU32)

/-- A length-prefixed string whose length fits the prefix. -/
def writeStringU32Checked (value : String) : Result (List UInt8) := do
  failIf (2 ^ 32 ≤ value.toUTF8.size) (ocbInvalidInput "OCB byte payload length exceeds u32")
  return writeStringU32 value

/-- The bytes of the table with its checksum left out. -/
def OcbStringTableV1.encodeWithoutChecksum (t : OcbStringTableV1) : Result (List UInt8) := do
  failIf (2 ^ 32 ≤ t.strings.length) (ocbInvalidInput "OCB string table has too many strings")
  let strings ← t.strings.mapM writeStringU32Checked
  vecBuffer (ocbStringTableHeader.objectBytes t.version
    (writeU32 t.strings.length.toUInt32 ++ writeU32 0 ++ strings.flatten))

/-- The bytes of the table, when it can be written. -/
def OcbStringTableV1.writeTo (t : OcbStringTableV1) : Result (List UInt8) :=
  sealBytes <$> t.encodeWithoutChecksum

section StringSections

variable {α : Type} {value : String} {rest : List UInt8} {totalLen : ℕ}

lemma stringFromUtf8_toUTF8 (value : String) : stringFromUtf8 value.toUTF8.data.toList = some value := by
  have hvalid : (⟨value.toUTF8.data.toList.toArray⟩ : ByteArray) = value.toByteArray := rfl
  rw [stringFromUtf8, hvalid, String.fromUTF8?, dif_pos value.isValidUTF8]
  rfl

lemma length_toUTF8_data (value : String) : value.toUTF8.data.toList.length = value.toUTF8.size := rfl

@[simp] lemma length_writeStringU32 (value : String) :
    (writeStringU32 value).length = value.toUTF8.size + 4 := by
  rw [writeStringU32, List.length_append, writeU32_length, length_toUTF8_data, Nat.add_comm]

/-- A payload that is followed by the checksum passes the bound on its length. -/
lemma checkedPayloadLen_of_le {len : ℕ} {what : String} {bytes : List UInt8}
    (hlen : len + 4 ≤ bytes.length) (hle : bytes.length ≤ totalLen) :
    checkedPayloadLen totalLen (totalLen - bytes.length) len what = .ok len := by
  rw [checkedPayloadLen, remainingBeforeCrc, checkedSub, if_pos (by omega), okOr_some, ok_bind,
    failIf_neg (by omega), ok_bind, pure_eq_ok, ok_bind, failIf_neg (by omega)]
  rfl

lemma run_position_bind {f : ℕ → Reader α} {bytes : List UInt8} :
    (position totalLen >>= f).run bytes = (f (totalLen - bytes.length)).run bytes := rfl

/-- A reader of one string goes on, after its checks, with the bytes of the string. -/
lemma run_stringU32_prefix (hsize : value.toUTF8.size < 2 ^ 32) (hrest : 4 ≤ rest.length)
    (hle : (writeStringU32 value ++ rest).length ≤ totalLen) {k : ℕ → List UInt8 → Reader α} :
    (do
      let pos ← position totalLen
      let _ ← checkedPayloadLen totalLen pos 4 "OCB string byte length"
      let len ← readU32
      let pos ← position totalLen
      let len ← checkedPayloadLen totalLen pos len.toNat "OCB string byte length"
      let bytes ← readExactOcb len
      k len bytes : Reader α).run (writeStringU32 value ++ rest) =
    (k value.toUTF8.size value.toUTF8.data.toList).run rest := by
  have htotal : value.toUTF8.size + 4 + rest.length ≤ totalLen := by
    simpa using hle
  have hcast : value.toUTF8.size.toUInt32.toNat = value.toUTF8.size := by simpa using hsize
  rw [run_position_bind, run_lift_bind (checkedPayloadLen_of_le (by simp; omega) hle),
    writeStringU32, List.append_assoc, run_readU32_bind, run_position_bind, hcast,
    run_lift_bind (checkedPayloadLen_of_le
      (by rw [List.length_append, length_toUTF8_data]; omega)
      (by rw [List.length_append, length_toUTF8_data]; omega)),
    run_readExactOcb_bind (length_toUTF8_data value)]

lemma run_inspectStringU32Bounded (hsize : value.toUTF8.size < 2 ^ 32) (hrest : 4 ≤ rest.length)
    (hle : (writeStringU32 value ++ rest).length ≤ totalLen) :
    (inspectStringU32Bounded totalLen).run (writeStringU32 value ++ rest) =
      .ok (value.toUTF8.size, rest) := by
  rw [inspectStringU32Bounded, run_stringU32_prefix hsize hrest hle, stringFromUtf8_toUTF8]
  rfl

lemma run_readStringU32Bounded (hsize : value.toUTF8.size < 2 ^ 32) (hrest : 4 ≤ rest.length)
    (hle : (writeStringU32 value ++ rest).length ≤ totalLen) :
    (readStringU32Bounded totalLen).run (writeStringU32 value ++ rest) = .ok (value, rest) := by
  rw [readStringU32Bounded, run_stringU32_prefix hsize hrest hle, stringFromUtf8_toUTF8]
  rfl

end StringSections

/-- The memory that the strings of a table take. -/
def OcbStringTableV1.materializedBytes (t : OcbStringTableV1) : ℕ :=
  t.strings.length * vecHeaderBytes + (t.strings.map (fun s => s.toUTF8.size)).sum

lemma foldlM_stringBytes (lens : List ℕ) (total : ℕ) (h : total + lens.sum < 2 ^ 64) :
    lens.foldlM (fun total len => okOr (checkedAdd 64 total len)
      (ocbCorruptFile "OCB string table materialized byte count overflows")) total =
      .ok (total + lens.sum) := by
  induction lens generalizing total with
  | nil => rfl
  | cons len lens ih =>
    rw [List.sum_cons] at h
    rw [List.foldlM_cons, checkedAdd_of_lt (by omega), okOr_some, ok_bind, ih _ (by omega),
      List.sum_cons, Nat.add_assoc]

lemma length_flatMap_writeStringU32 (strings : List String) :
    (strings.flatMap writeStringU32).length =
      (strings.map (fun s => s.toUTF8.size)).sum + strings.length * 4 := by
  induction strings with
  | nil => rfl
  | cons s strings ih =>
    rw [List.flatMap_cons, List.length_append, length_writeStringU32, ih, List.map_cons,
      List.sum_cons, List.length_cons]
    omega

/-- A sealed string table is read back, at the price of its strings. -/
lemma OcbStringTableV1.readFromBytesWithBudget_sealBytes (t : OcbStringTableV1)
    (hversion : t.version = 1) (hcount : t.strings.length < 2 ^ 32)
    (hsizes : ∀ s ∈ t.strings, s.toUTF8.size < 2 ^ 32) (hbytes : t.fieldBytes.length < 2 ^ 63) :
    readFromBytesWithBudget (sealBytes t.fieldBytes) = (do
      MetadataMaterializationBudget.charge t.materializedBytes
      return { t with crc32c := Ocb.crc32c t.fieldBytes }) := by
  have hlen := length_flatMap_writeStringU32 t.strings
  have hfit : (t.strings.flatMap writeStringU32).length < 2 ^ 63 := by
    simp only [fieldBytes, ObjectHeader.objectBytes, List.length_append] at hbytes
    omega
  have hcast : t.strings.length.toUInt32.toNat = t.strings.length := by simpa using hcount
  have htotal : (t.strings.flatMap writeStringU32 ++ writeU32 0).length ≤
      (writeU32 t.strings.length.toUInt32 ++ (writeU32 0 ++
        t.strings.flatMap writeStringU32)).length + 16 := by
    simp only [List.length_append, writeU32_length]
    omega
  rw [readFromBytesWithBudget, fieldBytes, hversion,
    readHeader_sealBytes_one ocbStringTableHeader rfl _ (by decide)]
  generalize Ocb.crc32c _ = crc
  simp only [Fallible.lift_ok_bind, List.append_assoc, run_readU32_bind, hcast]
  rw [← bind_pure (recordCount _ _ _ _), run_recordCount_bind (by omega)
    (by rw [List.length_append, writeU32_length]; omega) htotal]
  simp only [StateT.run_pure, pure_eq_ok, Fallible.lift_ok_bind, readAll]
  generalize (writeU32 t.strings.length.toUInt32 ++ (writeU32 0 ++
    t.strings.flatMap writeStringU32)).length + 16 = totalLen at htotal ⊢
  have hinspect : (readRecordSequence t.strings.length (inspectStringU32Bounded totalLen)).run
      (t.strings.flatMap writeStringU32 ++ writeU32 0) =
      .ok (t.strings.map (fun s => s.toUTF8.size), writeU32 0) :=
    Decoder.run_repeatN_encode_within
      (fun s hs _ hle => run_inspectStringU32Bounded (hsizes s hs) (by simp) hle) htotal
  have hread : (readRecordSequence t.strings.length (readStringU32Bounded totalLen)).run
      (t.strings.flatMap writeStringU32 ++ writeU32 0) = .ok (t.strings.map id, writeU32 0) :=
    Decoder.run_repeatN_encode_within
      (fun s hs _ hle => run_readStringU32Bounded (hsizes s hs) (by simp) hle) htotal
  have hsum : checkedMaterializedSum [t.strings.length * vecHeaderBytes,
      (t.strings.map (fun s => s.toUTF8.size)).sum] = .ok t.materializedBytes := by
    have hmemory : [t.strings.length * vecHeaderBytes,
        (t.strings.map (fun s => s.toUTF8.size)).sum].sum = t.materializedBytes := by
      simp [materializedBytes]
    rw [checkedMaterializedSum_of_lt, hmemory]
    rw [hmemory, materializedBytes, vecHeaderBytes]
    omega
  rw [hinspect, hread]
  simp only [Functor.map, Except.map, Fallible.lift_ok_bind, List.map_id]
  rw [Fallible.foldlM_lift, foldlM_stringBytes _ _ (by omega), Nat.zero_add, Fallible.lift_ok_bind,
    checkedMaterializedVecBytes_of_lt (by decide) hcount, Fallible.lift_ok_bind, hsum,
    Fallible.lift_ok_bind]

/-! ### Schema -/

/-- The descriptor of a column. -/
structure OcbColumnDescV1 where
  columnId : UInt32
  nameStringId : UInt32
  physicalType : OcbPhysicalTypeV1
  logicalKind : OcbLogicalKindV1
  flags : UInt32
  dictionaryId : UInt32
  scale : Int32
  nullability : OcbNullabilityV1
  reserved0 : UInt16
  fixedBinaryWidth : UInt32
deriving DecidableEq

namespace OcbColumnDescV1

/-- The width of one value of the column, in bytes. -/
def valueByteWidth (c : OcbColumnDescV1) : Result ℕ :=
  match c.physicalType.primitiveByteWidth with
  | none => do
    failIf (c.fixedBinaryWidth = 0)
      (ocbCorruptFile "OCB fixed-binary column requires fixed width")
    return c.fixedBinaryWidth.toNat
  | some width => do
    failIf (c.fixedBinaryWidth ≠ 0)
      (ocbCorruptFile "OCB primitive column has unexpected fixed-binary width")
    return width

/-- The bytes that the values of some rows take. -/
def expectedValueBytes (c : OcbColumnDescV1) (rowCount : ℕ) : Result ℕ := do
  let width ← c.valueByteWidth
  okOr (checkedMul 64 rowCount width)
    (ocbCorruptFile "OCB column chunk value byte length overflows")

/-- Decode a column descriptor. -/
def read : Reader OcbColumnDescV1 := do
  let columnId ← readU32
  let nameStringId ← readU32
  let physicalType ← OcbPhysicalTypeV1.fromU16 (← readU16)
  let logicalKind ← OcbLogicalKindV1.fromU16 (← readU16)
  let flags ← readU32
  let dictionaryId ← readU32
  let scale ← readU32
  let nullability ← OcbNullabilityV1.fromU16 (← readU16)
  let reserved0 ← readU16
  let fixedBinaryWidth ← readU32
  return {
    columnId, nameStringId, physicalType, logicalKind, flags, dictionaryId
    scale := scale.toInt32
    nullability, reserved0, fixedBinaryWidth }

/-- The bytes of a column descriptor. -/
def write (c : OcbColumnDescV1) : List UInt8 :=
  writeU32 c.columnId ++ writeU32 c.nameStringId ++ writeU16 c.physicalType.toU16 ++
    writeU16 c.logicalKind.toU16 ++ writeU32 c.flags ++ writeU32 c.dictionaryId ++
    writeU32 c.scale.toUInt32 ++ writeU16 c.nullability.toU16 ++ writeU16 c.reserved0 ++
    writeU32 c.fixedBinaryWidth

/-- The encoded length of a column descriptor, which is also its size in memory. -/
def len : ℕ := 32

end OcbColumnDescV1

/-- The schema: the columns and the table of their names. -/
structure OcbSchemaV1 where
  version : UInt16
  stringTableRef : OcbBodyRefV2
  columns : List OcbColumnDescV1
  crc32c : UInt32
deriving DecidableEq

/-- How a schema begins. -/
def ocbSchemaHeader : ObjectHeader where
  what := "OCB schema"
  magic := [79, 67, 66, 83, 67, 72, 49, 0]
  headerLen := 52

/-- Decode a schema and charge what it takes. -/
def OcbSchemaV1.readFromBytesWithBudget (bytes : List UInt8) : Metered OcbSchemaV1 := do
  let header ← readHeader ocbSchemaHeader bytes
  let ((stringTableRef, columnCount), start) ← (do
    let columnCount ← readU32
    let stringTableRef ← OcbBodyRefV2.read
    let _reserved0 ← readU32
    let columnCount ← recordCount header.totalLen columnCount.toNat OcbColumnDescV1.len
      "OCB schema column count"
    return (stringTableRef, columnCount)).run header.rest
  let _ ← readAll (validateRecordSequence columnCount OcbColumnDescV1.read) start
  let vecBytes ← checkedMaterializedVecBytes OcbColumnDescV1.len columnCount
  MetadataMaterializationBudget.charge vecBytes
  let columns ← readAll (readRecordSequence columnCount OcbColumnDescV1.read) start
  return { version := header.version, stringTableRef, columns, crc32c := header.crc32c }

/-- The bytes of a schema with its checksum field zero. -/
def OcbSchemaV1.fieldBytes (s : OcbSchemaV1) : List UInt8 :=
  ocbSchemaHeader.objectBytes s.version
    (writeU32 s.columns.length.toUInt32 ++ s.stringTableRef.write ++ writeU32 0 ++
      s.columns.flatMap OcbColumnDescV1.write)

/-- A column is written with a fixed width exactly when its type needs one. -/
def OcbColumnDescV1.checkFixedBinaryWidth (c : OcbColumnDescV1) : Result Unit :=
  match c.physicalType with
  | .fixedBinary =>
    failIf (c.fixedBinaryWidth = 0) (ocbInvalidInput "OCB fixed-binary column requires fixed width")
  | _ =>
    failIf (c.fixedBinaryWidth ≠ 0)
      (ocbInvalidInput "OCB primitive column has unexpected fixed-binary width")

/-- The bytes of the record, when it can be written. -/
def OcbColumnDescV1.writeTo (c : OcbColumnDescV1) : Result (List UInt8) := do
  failIf (c.logicalKind = .dictionaryCode ∧ c.dictionaryId = ocbNullU32)
    (ocbInvalidInput "OCB dictionary-coded column must reference a dictionary")
  c.checkFixedBinaryWidth
  return c.write

/-- The bytes of the schema with its checksum left out. -/
def OcbSchemaV1.encodeWithoutChecksum (s : OcbSchemaV1) : Result (List UInt8) := do
  failIf (s.stringTableRef.kind ≠ .stringTable)
    (ocbInvalidInput "OCB schema string_table_ref must reference string table")
  failIf (2 ^ 32 ≤ s.columns.length) (ocbInvalidInput "OCB schema has too many columns")
  let columns ← s.columns.mapM OcbColumnDescV1.writeTo
  vecBuffer (ocbSchemaHeader.objectBytes s.version
    (writeU32 s.columns.length.toUInt32 ++ s.stringTableRef.write ++ writeU32 0 ++
      columns.flatten))

/-- The bytes of the schema, when it can be written. -/
def OcbSchemaV1.writeTo (s : OcbSchemaV1) : Result (List UInt8) :=
  sealBytes <$> s.encodeWithoutChecksum

lemma OcbColumnDescV1.run_read (c : OcbColumnDescV1) (rest : List UInt8) :
    OcbColumnDescV1.read.run (c.write ++ rest) = .ok (c, rest) := by
  simp only [read, write, List.append_assoc, run_readU32_bind, run_readU16_bind,
    run_lift_bind (OcbPhysicalTypeV1.fromU16_toU16 _),
    run_lift_bind (OcbLogicalKindV1.fromU16_toU16 _),
    run_lift_bind (OcbNullabilityV1.fromU16_toU16 _)]
  rfl

@[simp] lemma OcbColumnDescV1.length_write (c : OcbColumnDescV1) : c.write.length = len := by
  simp [write, len]

/-- A sealed schema is read back, at the price of its columns. -/
lemma OcbSchemaV1.readFromBytesWithBudget_sealBytes (s : OcbSchemaV1) (hversion : s.version = 1)
    (hcolumns : s.columns.length < 2 ^ 32) :
    readFromBytesWithBudget (sealBytes s.fieldBytes) = (do
      MetadataMaterializationBudget.charge (s.columns.length * OcbColumnDescV1.len)
      return { s with crc32c := Ocb.crc32c s.fieldBytes }) := by
  have hcount : s.columns.length.toUInt32.toNat = s.columns.length := by simpa using hcolumns
  have hread : ∀ c ∈ s.columns, ∀ rest,
      OcbColumnDescV1.read.run (c.write ++ rest) = .ok (c, rest) := fun c _ => c.run_read
  rw [readFromBytesWithBudget, fieldBytes, hversion,
    readHeader_sealBytes_one ocbSchemaHeader rfl _ (by decide)]
  generalize Ocb.crc32c _ = crc
  simp only [Fallible.lift_ok_bind, List.append_assoc, run_readU32_bind,
    OcbBodyRefV2.run_read_bind, hcount]
  rw [run_recordCount_records_bind (fun c _ => c.length_write) hcolumns (by decide) (by simp)
    (by simp; omega)]
  simp only [StateT.run_pure, pure_eq_ok, Fallible.lift_ok_bind, readAll]
  rw [run_validateRecordSequence hread]
  simp only [Functor.map, Except.map, Fallible.lift_ok_bind, run_readRecordSequence hread,
    checkedMaterializedVecBytes_of_lt (show OcbColumnDescV1.len < 2 ^ 32 by decide) hcolumns]

/-! ### Dictionary index -/

/-- The descriptor of a dictionary. -/
structure OcbDictionaryDescV1 where
  dictionaryId : UInt32
  nameStringId : UInt32
  codePhysicalType : OcbPhysicalTypeV1
  valueKind : OcbDictionaryValueKindV1
  flags : UInt32
  valuesRef : OcbBodyRefV2
  entryCount : UInt32
  reserved0 : UInt32
deriving DecidableEq

namespace OcbDictionaryDescV1

/-- Decode a dictionary descriptor. -/
def read : Reader OcbDictionaryDescV1 := do
  let dictionaryId ← readU32
  let nameStringId ← readU32
  let codePhysicalType ← OcbPhysicalTypeV1.fromU16 (← readU16)
  let valueKind ← OcbDictionaryValueKindV1.fromU16 (← readU16)
  let flags ← readU32
  let valuesRef ← OcbBodyRefV2.read
  let entryCount ← readU32
  let reserved0 ← readU32
  return {
    dictionaryId, nameStringId, codePhysicalType, valueKind, flags, valuesRef, entryCount,
    reserved0 }

/-- The bytes of a dictionary descriptor. -/
def write (d : OcbDictionaryDescV1) : List UInt8 :=
  writeU32 d.dictionaryId ++ writeU32 d.nameStringId ++ writeU16 d.codePhysicalType.toU16 ++
    writeU16 d.valueKind.toU16 ++ writeU32 d.flags ++ d.valuesRef.write ++ writeU32 d.entryCount ++
    writeU32 d.reserved0

/-- The encoded length of a dictionary descriptor, which is also its size in memory. -/
def len : ℕ := 56

end OcbDictionaryDescV1

/-- The index of the dictionaries. -/
structure OcbDictionaryIndexV1 where
  version : UInt16
  dictionaries : List OcbDictionaryDescV1
  crc32c : UInt32
deriving DecidableEq

/-- How a dictionary index begins. -/
def ocbDictionaryIndexHeader : ObjectHeader where
  what := "OCB dictionary index"
  magic := [79, 67, 66, 68, 73, 88, 49, 0]
  headerLen := 20

/-- Decode a dictionary index and charge what it takes. -/
def OcbDictionaryIndexV1.readFromBytesWithBudget (bytes : List UInt8) :
    Metered OcbDictionaryIndexV1 := do
  let header ← readHeader ocbDictionaryIndexHeader bytes
  let (dictionaryCount, start) ← (do
    let dictionaryCount ← readU32
    let _reserved0 ← readU32
    recordCount header.totalLen dictionaryCount.toNat OcbDictionaryDescV1.len
      "OCB dictionary index count").run header.rest
  let _ ← readAll (validateRecordSequence dictionaryCount OcbDictionaryDescV1.read) start
  let vecBytes ← checkedMaterializedVecBytes OcbDictionaryDescV1.len dictionaryCount
  MetadataMaterializationBudget.charge vecBytes
  let dictionaries ← readAll (readRecordSequence dictionaryCount OcbDictionaryDescV1.read) start
  return { version := header.version, dictionaries, crc32c := header.crc32c }

/-- The bytes of a dictionary index with its checksum field zero. -/
def OcbDictionaryIndexV1.fieldBytes (d : OcbDictionaryIndexV1) : List UInt8 :=
  ocbDictionaryIndexHeader.objectBytes d.version
    (writeU32 d.dictionaries.length.toUInt32 ++ writeU32 0 ++
      d.dictionaries.flatMap OcbDictionaryDescV1.write)

/-- The bytes of the record, when it can be written. -/
def OcbDictionaryDescV1.writeTo (d : OcbDictionaryDescV1) : Result (List UInt8) := do
  failIf (d.valuesRef.kind ≠ .dictionaryValues)
    (ocbInvalidInput "OCB dictionary values_ref must reference dictionary values")
  return d.write

/-- The bytes of the index with its checksum left out. -/
def OcbDictionaryIndexV1.encodeWithoutChecksum (d : OcbDictionaryIndexV1) :
    Result (List UInt8) := do
  failIf (2 ^ 32 ≤ d.dictionaries.length)
    (ocbInvalidInput "OCB dictionary index has too many dictionaries")
  let dictionaries ← d.dictionaries.mapM OcbDictionaryDescV1.writeTo
  vecBuffer (ocbDictionaryIndexHeader.objectBytes d.version
    (writeU32 d.dictionaries.length.toUInt32 ++ writeU32 0 ++ dictionaries.flatten))

/-- The bytes of the index, when it can be written. -/
def OcbDictionaryIndexV1.writeTo (d : OcbDictionaryIndexV1) : Result (List UInt8) :=
  sealBytes <$> d.encodeWithoutChecksum

lemma OcbDictionaryDescV1.run_read (d : OcbDictionaryDescV1) (rest : List UInt8) :
    OcbDictionaryDescV1.read.run (d.write ++ rest) = .ok (d, rest) := by
  simp only [read, write, List.append_assoc, run_readU32_bind, run_readU16_bind,
    OcbBodyRefV2.run_read_bind, run_lift_bind (OcbPhysicalTypeV1.fromU16_toU16 _),
    run_lift_bind (OcbDictionaryValueKindV1.fromU16_toU16 _)]
  rfl

@[simp] lemma OcbDictionaryDescV1.length_write (d : OcbDictionaryDescV1) :
    d.write.length = len := by
  simp [write, len]

/-- A sealed dictionary index is read back, at the price of its descriptors. -/
lemma OcbDictionaryIndexV1.readFromBytesWithBudget_sealBytes (i : OcbDictionaryIndexV1)
    (hversion : i.version = 1) (hdictionaries : i.dictionaries.length < 2 ^ 32) :
    readFromBytesWithBudget (sealBytes i.fieldBytes) = (do
      MetadataMaterializationBudget.charge (i.dictionaries.length * OcbDictionaryDescV1.len)
      return { i with crc32c := Ocb.crc32c i.fieldBytes }) := by
  have hcount : i.dictionaries.length.toUInt32.toNat = i.dictionaries.length := by
    simpa using hdictionaries
  have hread : ∀ d ∈ i.dictionaries, ∀ rest,
      OcbDictionaryDescV1.read.run (d.write ++ rest) = .ok (d, rest) := fun d _ => d.run_read
  rw [readFromBytesWithBudget, fieldBytes, hversion,
    readHeader_sealBytes_one ocbDictionaryIndexHeader rfl _ (by decide)]
  generalize Ocb.crc32c _ = crc
  simp only [Fallible.lift_ok_bind, List.append_assoc, run_readU32_bind, hcount]
  rw [← bind_pure (recordCount _ _ _ _), run_recordCount_records_bind (fun d _ => d.length_write)
    hdictionaries (by decide) (by simp) (by simp; omega)]
  simp only [StateT.run_pure, pure_eq_ok, Fallible.lift_ok_bind, readAll]
  rw [run_validateRecordSequence hread]
  simp only [Functor.map, Except.map, Fallible.lift_ok_bind, run_readRecordSequence hread,
    checkedMaterializedVecBytes_of_lt (show OcbDictionaryDescV1.len < 2 ^ 32 by decide)
      hdictionaries]

/-! ### Dictionary values -/

/-- The values of a dictionary. -/
structure OcbDictionaryValuesV1 where
  version : UInt16
  valueKind : OcbDictionaryValueKindV1
  fixedWidth : UInt32
  values : List (List UInt8)
  crc32c : UInt32
deriving DecidableEq

/-- How the values of a dictionary begin. -/
def ocbDictionaryValuesHeader : ObjectHeader where
  what := "OCB dictionary values"
  magic := [79, 67, 66, 68, 86, 76, 49, 0]
  headerLen := 40

/-- The prefix of a dictionary values object: kind, entry count, fixed width, data size. -/
structure DictionaryValuesPrefix where
  valueKind : OcbDictionaryValueKindV1
  entryCount : UInt32
  fixedWidth : UInt32
  dataBytes : UInt64

/-- Read what stands before the offsets. -/
def DictionaryValuesPrefix.read : Reader DictionaryValuesPrefix := do
  let valueKind ← OcbDictionaryValueKindV1.fromU16 (← readU16)
  let _reserved0 ← readU16
  let entryCount ← readU32
  let fixedWidth ← readU32
  let dataBytes ← readU64
  let _flags ← readU32
  let _reserved1 ← readU32
  return { valueKind, entryCount, fixedWidth, dataBytes }

/-- Check the offset table after its first entry; returns the last offset. -/
def validateValueOffsets (p : DictionaryValuesPrefix) : ℕ → UInt64 → Reader UInt64
  | 0, previousOffset => return previousOffset
  | entries + 1, previousOffset => do
    let nextOffset ← readU64
    failIf (previousOffset > nextOffset ∨ nextOffset > p.dataBytes)
      (ocbCorruptFile "OCB dictionary values offsets are invalid")
    failIf (p.valueKind = .fixedBytes ∧
        nextOffset.toNat - previousOffset.toNat ≠ p.fixedWidth.toNat)
      (ocbCorruptFile "OCB fixed-byte dictionary value length does not match fixed width")
    validateValueOffsets p entries nextOffset

/-- Cut the values out of the data region along the offset table. -/
def readValues (data : List UInt8) : ℕ → UInt64 → Reader (List (List UInt8))
  | 0, _ => return []
  | entries + 1, previousOffset => do
    let nextOffset ← readU64
    let value := (data.take nextOffset.toNat).drop previousOffset.toNat
    let values ← readValues data entries nextOffset
    return value :: values

/-- Decode the values of a dictionary and charge what they take. -/
def OcbDictionaryValuesV1.readFromBytesWithBudget (bytes : List UInt8) :
    Metered OcbDictionaryValuesV1 := do
  let header ← readHeader ocbDictionaryValuesHeader bytes
  let ((p, entryCount), start) ← (do
    let p ← DictionaryValuesPrefix.read
    let offsetCount ← okOr (checkedAdd 32 p.entryCount.toNat 1)
      (ocbCorruptFile "OCB dictionary values offset count overflows")
    let offsetCount ← recordCount header.totalLen offsetCount 8
      "OCB dictionary values offset count"
    return (p, offsetCount - 1)).run header.rest
  let (dataLen, atData) ← (do
    let firstOffset ← readU64
    failIf (firstOffset ≠ 0)
      (ocbCorruptFile "OCB dictionary values offsets do not cover data bytes")
    let lastOffset ← validateValueOffsets p entryCount firstOffset
    failIf (lastOffset ≠ p.dataBytes)
      (ocbCorruptFile "OCB dictionary values offsets do not cover data bytes")
    let pos ← position header.totalLen
    checkedPayloadLen header.totalLen pos p.dataBytes.toNat
      "OCB dictionary values data length").run start
  let vecBytes ← checkedMaterializedVecBytes vecHeaderBytes entryCount
  let retainedBytes ← checkedMaterializedSum [vecBytes, dataLen]
  MetadataMaterializationBudget.charge retainedBytes
  let data := atData.take dataLen
  let values ← readAll (do
    let firstOffset ← readU64
    readValues data entryCount firstOffset) start
  return {
    version := header.version, valueKind := p.valueKind, fixedWidth := p.fixedWidth, values
    crc32c := header.crc32c }

/-- The offset table of a list of values: the total length of the values before each position. -/
def valueOffsets (values : List (List UInt8)) : List ℕ :=
  values.scanl (fun total value => total + value.length) 0

/-- The bytes of a dictionary values object with its checksum field zero. -/
def OcbDictionaryValuesV1.fieldBytes (d : OcbDictionaryValuesV1) : List UInt8 :=
  ocbDictionaryValuesHeader.objectBytes d.version
    (writeU16 d.valueKind.toU16 ++ writeU16 0 ++ writeU32 d.values.length.toUInt32 ++
      writeU32 d.fixedWidth ++ writeU64 d.values.flatten.length.toUInt64 ++ writeU32 0 ++
      writeU32 0 ++ (valueOffsets d.values).flatMap (fun offset => writeU64 offset.toUInt64) ++
      d.values.flatten)

/-- The length of a fixed-width value is compared after a narrowing cast to 32 bits. -/
def OcbDictionaryValuesV1.checkFixedValue (d : OcbDictionaryValuesV1) (value : List UInt8) :
    Result Unit :=
  failIf (d.valueKind = .fixedBytes ∧ value.length.toUInt32 ≠ d.fixedWidth)
    (ocbInvalidInput "OCB fixed-byte dictionary value length does not match fixed width")

/-- The bytes of the values with their checksum left out. -/
def OcbDictionaryValuesV1.encodeWithoutChecksum (d : OcbDictionaryValuesV1) :
    Result (List UInt8) := do
  failIf (2 ^ 32 ≤ d.values.length)
    (ocbInvalidInput "OCB dictionary values have too many entries")
  failIf (d.valueKind = .fixedBytes ∧ d.fixedWidth = 0)
    (ocbInvalidInput "OCB fixed-byte dictionary values require fixed_width > 0")
  failIf (d.valueKind ≠ .fixedBytes ∧ d.fixedWidth ≠ 0)
    (ocbInvalidInput "OCB non-fixed dictionary values must use fixed_width 0")
  forM d.values d.checkFixedValue
  vecBuffer d.fieldBytes

/-- The bytes of the values, when they can be written. -/
def OcbDictionaryValuesV1.writeTo (d : OcbDictionaryValuesV1) : Result (List UInt8) :=
  sealBytes <$> d.encodeWithoutChecksum

section ValueSections

variable {p : DictionaryValuesPrefix} {rest : List UInt8}

/-- The offsets after the first one, when the values start at `o`. -/
def nextOffsets (o : ℕ) : List (List UInt8) → List ℕ
  | [] => []
  | v :: vs => (o + v.length) :: nextOffsets (o + v.length) vs

/-- The bytes of a table of offsets. -/
def offsetBytes (offsets : List ℕ) : List UInt8 :=
  offsets.flatMap fun offset => writeU64 offset.toUInt64

lemma scanl_length_eq (o : ℕ) (values : List (List UInt8)) :
    values.scanl (fun total value => total + value.length) o = o :: nextOffsets o values := by
  induction values generalizing o with
  | nil => rfl
  | cons v vs ih => rw [List.scanl_cons, ih, nextOffsets]

lemma length_nextOffsets (o : ℕ) (values : List (List UInt8)) :
    (nextOffsets o values).length = values.length := by
  induction values generalizing o with
  | nil => rfl
  | cons v vs ih => rw [nextOffsets, List.length_cons, List.length_cons, ih]

lemma length_offsetBytes (offsets : List ℕ) : (offsetBytes offsets).length = offsets.length * 8 :=
  length_flatMap_of_length fun _ _ => writeU64_length _

lemma offsetBytes_cons (o : ℕ) (offsets : List ℕ) :
    offsetBytes (o :: offsets) = writeU64 o.toUInt64 ++ offsetBytes offsets := rfl

/-- The offset table of values that end where the data ends passes its checks, when every value
of a fixed-width dictionary has the width. -/
lemma run_validateValueOffsets (values : List (List UInt8)) (o : ℕ)
    (hdata : o + values.flatten.length ≤ p.dataBytes.toNat)
    (hwidth : p.valueKind = .fixedBytes → ∀ v ∈ values, v.length = p.fixedWidth.toNat) :
    (validateValueOffsets p values.length o.toUInt64).run
        (offsetBytes (nextOffsets o values) ++ rest) =
      .ok ((o + values.flatten.length).toUInt64, rest) := by
  have hbits := p.dataBytes.toNat_lt
  induction values generalizing o with
  | nil => rfl
  | cons v vs ih =>
    rw [List.flatten_cons, List.length_append] at hdata
    have ho : o.toUInt64.toNat = o := by simp; omega
    have hnext : (o + v.length).toUInt64.toNat = o + v.length := by simp; omega
    have horder : ¬ (o.toUInt64 > (o + v.length).toUInt64 ∨
        (o + v.length).toUInt64 > p.dataBytes) := by
      simp only [gt_iff_lt, UInt64.lt_iff_toNat_lt, ho, hnext]
      omega
    have hfixed : ¬ (p.valueKind = .fixedBytes ∧
        (o + v.length).toUInt64.toNat - o.toUInt64.toNat ≠ p.fixedWidth.toNat) := by
      rintro ⟨hkind, hne⟩
      have hv := hwidth hkind v (by simp)
      omega
    rw [List.length_cons, nextOffsets, offsetBytes_cons, validateValueOffsets, List.append_assoc,
      run_readU64_bind, run_failIf_bind horder, run_failIf_bind hfixed, ih _ (by omega)
        fun hkind w hw => hwidth hkind w (by simp [hw]), List.flatten_cons, List.length_append,
      Nat.add_assoc]

/-- A value of a fixed-width dictionary that does not have the width is turned down. -/
lemma run_validateValueOffsets_of_ne (values : List (List UInt8)) (o : ℕ)
    (hdata : o + values.flatten.length ≤ p.dataBytes.toNat) (hkind : p.valueKind = .fixedBytes)
    (hwidth : ∃ v ∈ values, v.length ≠ p.fixedWidth.toNat) :
    (validateValueOffsets p values.length o.toUInt64).run
        (offsetBytes (nextOffsets o values) ++ rest) =
      .error (ocbCorruptFile
        "OCB fixed-byte dictionary value length does not match fixed width") := by
  have hbits := p.dataBytes.toNat_lt
  induction values generalizing o with
  | nil =>
    obtain ⟨v, hv, -⟩ := hwidth
    cases hv
  | cons v vs ih =>
    rw [List.flatten_cons, List.length_append] at hdata
    have ho : o.toUInt64.toNat = o := by simp; omega
    have hnext : (o + v.length).toUInt64.toNat = o + v.length := by simp; omega
    have horder : ¬ (o.toUInt64 > (o + v.length).toUInt64 ∨
        (o + v.length).toUInt64 > p.dataBytes) := by
      simp only [gt_iff_lt, UInt64.lt_iff_toNat_lt, ho, hnext]
      omega
    rw [List.length_cons, nextOffsets, offsetBytes_cons, validateValueOffsets, List.append_assoc,
      run_readU64_bind, run_failIf_bind horder]
    by_cases hv : v.length = p.fixedWidth.toNat
    · have hrest : ∃ w ∈ vs, w.length ≠ p.fixedWidth.toNat := by
        obtain ⟨w, hw, hne⟩ := hwidth
        rcases List.mem_cons.mp hw with rfl | hw
        · exact absurd hv hne
        · exact ⟨w, hw, hne⟩
      rw [run_failIf_bind (by rintro ⟨-, hne⟩; omega), ih _ (by omega) hrest]
    · exact run_failIf_bind_of_pos ⟨hkind, by omega⟩

/-- The values are cut out of the data along the offset table. -/
lemma run_readValues (values : List (List UInt8)) (before : List UInt8)
    (hbits : before.length + values.flatten.length < 2 ^ 64) :
    (readValues (before ++ values.flatten) values.length before.length.toUInt64).run
        (offsetBytes (nextOffsets before.length values) ++ rest) = .ok (values, rest) := by
  induction values generalizing before with
  | nil => rfl
  | cons v vs ih =>
    rw [List.flatten_cons, List.length_append] at hbits
    have ho : before.length.toUInt64.toNat = before.length := by simp; omega
    have hnext : (before.length + v.length).toUInt64.toNat = before.length + v.length := by
      simp; omega
    have hcut : ((before ++ (v ++ vs.flatten)).take (before.length + v.length)).drop
        before.length = v := by
      rw [← List.append_assoc, List.take_left' (by simp), List.drop_left]
    have hrest := ih (before ++ v) (by rw [List.length_append]; omega)
    rw [List.length_append, List.append_assoc] at hrest
    rw [List.length_cons, nextOffsets, offsetBytes_cons, readValues, List.append_assoc,
      List.flatten_cons, run_readU64_bind, ho, hnext, hcut]
    exact Decoder.run_bind_of_ok hrest

end ValueSections

namespace OcbDictionaryValuesV1

/-- The memory that the values of a dictionary take. -/
def materializedBytes (d : OcbDictionaryValuesV1) : ℕ :=
  d.values.length * vecHeaderBytes + d.values.flatten.length

/-- The fields of an object before its offset table. -/
def prefixOf (d : OcbDictionaryValuesV1) : DictionaryValuesPrefix where
  valueKind := d.valueKind
  entryCount := d.values.length.toUInt32
  fixedWidth := d.fixedWidth
  dataBytes := d.values.flatten.length.toUInt64

/-- The bytes after the prefix: offset table, data and the zeroed checksum. -/
def tableBytes (d : OcbDictionaryValuesV1) : List UInt8 :=
  offsetBytes (0 :: nextOffsets 0 d.values) ++ (d.values.flatten ++ writeU32 0)

lemma run_prefix_read_bind {α : Type} (d : OcbDictionaryValuesV1) {rest : List UInt8}
    {f : DictionaryValuesPrefix → Reader α} :
    (DictionaryValuesPrefix.read >>= f).run (writeU16 d.valueKind.toU16 ++ (writeU16 0 ++
      (writeU32 d.values.length.toUInt32 ++ (writeU32 d.fixedWidth ++
        (writeU64 d.values.flatten.length.toUInt64 ++ (writeU32 0 ++ (writeU32 0 ++ rest))))))) =
      (f d.prefixOf).run rest := by
  refine Decoder.run_bind_of_ok ?_
  simp only [DictionaryValuesPrefix.read, run_readU16_bind, run_readU32_bind, run_readU64_bind,
    run_lift_bind (OcbDictionaryValueKindV1.fromU16_toU16 _)]
  rfl

/-- The bytes of an object, cut at the end of its prefix. -/
lemma fieldBytes_eq (d : OcbDictionaryValuesV1) :
    d.fieldBytes = ocbDictionaryValuesHeader.objectBytes d.version (writeU16 d.valueKind.toU16 ++
      (writeU16 0 ++ (writeU32 d.values.length.toUInt32 ++ (writeU32 d.fixedWidth ++
        (writeU64 d.values.flatten.length.toUInt64 ++ (writeU32 0 ++ (writeU32 0 ++
          (offsetBytes (0 :: nextOffsets 0 d.values) ++ d.values.flatten)))))))) := by
  simp only [fieldBytes, valueOffsets, scanl_length_eq, offsetBytes, List.append_assoc]

lemma length_tableBytes (d : OcbDictionaryValuesV1) :
    d.tableBytes.length = (d.values.length + 1) * 8 + d.values.flatten.length + 4 := by
  simp only [tableBytes, List.length_append, length_offsetBytes, List.length_cons,
    length_nextOffsets, writeU32_length]
  omega

lemma length_fieldBytes (d : OcbDictionaryValuesV1) :
    d.fieldBytes.length = d.tableBytes.length + 40 := by
  rw [length_tableBytes, fieldBytes_eq]
  simp only [ObjectHeader.objectBytes, List.length_append, writeU16_length, writeU32_length,
    writeU64_length, length_offsetBytes, List.length_cons, length_nextOffsets]
  simp only [ocbDictionaryValuesHeader, List.length_cons, List.length_nil]
  omega

/-! The decoder in parts: the prefix with its entry count, and the checks of the offset table. -/

/-- The prefix, and the entry count when the offset table fits. -/
def readPrefix (totalLen : ℕ) : Reader (DictionaryValuesPrefix × ℕ) := do
  let p ← DictionaryValuesPrefix.read
  let offsetCount ← okOr (checkedAdd 32 p.entryCount.toNat 1)
    (ocbCorruptFile "OCB dictionary values offset count overflows")
  let offsetCount ← recordCount totalLen offsetCount 8 "OCB dictionary values offset count"
  return (p, offsetCount - 1)

/-- The checks of the offset table and of the data region; returns the length of the data. -/
def validateData (totalLen : ℕ) (p : DictionaryValuesPrefix) (entryCount : ℕ) : Reader ℕ := do
  let firstOffset ← readU64
  failIf (firstOffset ≠ 0)
    (ocbCorruptFile "OCB dictionary values offsets do not cover data bytes")
  let lastOffset ← validateValueOffsets p entryCount firstOffset
  failIf (lastOffset ≠ p.dataBytes)
    (ocbCorruptFile "OCB dictionary values offsets do not cover data bytes")
  let pos ← position totalLen
  checkedPayloadLen totalLen pos p.dataBytes.toNat "OCB dictionary values data length"

/-- The materializing pass over the offset table. -/
def readData (data : List UInt8) (entryCount : ℕ) : Reader (List (List UInt8)) := do
  let firstOffset ← readU64
  readValues data entryCount firstOffset

lemma readFromBytesWithBudget_eq (bytes : List UInt8) :
    readFromBytesWithBudget bytes = (do
      let header ← readHeader ocbDictionaryValuesHeader bytes
      let ((p, entryCount), start) ← (readPrefix header.totalLen).run header.rest
      let (dataLen, atData) ← (validateData header.totalLen p entryCount).run start
      let vecBytes ← checkedMaterializedVecBytes vecHeaderBytes entryCount
      let retainedBytes ← checkedMaterializedSum [vecBytes, dataLen]
      MetadataMaterializationBudget.charge retainedBytes
      let values ← readAll (readData (atData.take dataLen) entryCount) start
      return {
        version := header.version, valueKind := p.valueKind, fixedWidth := p.fixedWidth, values
        crc32c := header.crc32c }) := rfl

section ReadBack

variable (d : OcbDictionaryValuesV1)

/-- The bytes after the header of an object with its checksum field zero. -/
def restBytes : List UInt8 :=
  writeU16 d.valueKind.toU16 ++ (writeU16 0 ++ (writeU32 d.values.length.toUInt32 ++
    (writeU32 d.fixedWidth ++ (writeU64 d.values.flatten.length.toUInt64 ++
      (writeU32 0 ++ (writeU32 0 ++ d.tableBytes))))))

lemma readHeader_sealBytes (hversion : d.version = 1) :
    readHeader ocbDictionaryValuesHeader (sealBytes d.fieldBytes) = .ok {
      crc32c := Ocb.crc32c d.fieldBytes, version := 1, totalLen := d.fieldBytes.length
      rest := d.restBytes } := by
  have hlen := d.length_fieldBytes
  have hrest : ∀ body, d.fieldBytes = ocbDictionaryValuesHeader.objectBytes 1 body →
      d.fieldBytes.length = body.length + 16 := by
    rintro body h
    rw [h]
    simp only [ObjectHeader.objectBytes, List.length_append, writeU16_length, writeU32_length]
    simp only [ocbDictionaryValuesHeader, List.length_cons, List.length_nil]
    omega
  have hfields := d.fieldBytes_eq
  rw [hversion] at hfields
  rw [hrest _ hfields, hfields, readHeader_sealBytes_one ocbDictionaryValuesHeader rfl _ (by decide)]
  simp only [restBytes, tableBytes, List.append_assoc]

lemma run_readPrefix (hcount : d.values.length + 1 < 2 ^ 32) :
    (readPrefix d.fieldBytes.length).run d.restBytes =
      .ok ((d.prefixOf, d.values.length), d.tableBytes) := by
  have hcast : d.prefixOf.entryCount.toNat = d.values.length := by
    simp [prefixOf]
    omega
  have hlen := d.length_tableBytes
  have hfields := d.length_fieldBytes
  rw [readPrefix, restBytes, run_prefix_read_bind, hcast, checkedAdd_of_lt hcount, okOr_some,
    run_lift_bind rfl, run_recordCount_bind (by omega) (by omega) (by omega)]
  rfl

/-- One value short of `2^32` entries the offset table has too many. -/
lemma run_readPrefix_of_eq (hcount : d.values.length + 1 = 2 ^ 32) :
    (readPrefix d.fieldBytes.length).run d.restBytes =
      .error (ocbCorruptFile "OCB dictionary values offset count overflows") := by
  have hcast : d.prefixOf.entryCount.toNat = d.values.length := by
    simp [prefixOf]
    omega
  have hover : checkedAdd 32 d.values.length 1 = none := checkedAdd_eq_none.mpr (by omega)
  rw [readPrefix, restBytes, run_prefix_read_bind, hcast, hover]
  rfl

variable (hbits : d.values.flatten.length < 2 ^ 63)
include hbits

lemma dataBytes_prefixOf : d.prefixOf.dataBytes.toNat = d.values.flatten.length := by
  rw [prefixOf]
  generalize d.values.flatten.length = n at hbits ⊢
  simp
  omega

lemma run_validateData (hwidth : d.valueKind = .fixedBytes →
    ∀ v ∈ d.values, v.length = d.fixedWidth.toNat) :
    (validateData d.fieldBytes.length d.prefixOf d.values.length).run d.tableBytes =
      .ok (d.values.flatten.length, d.values.flatten ++ writeU32 0) := by
  have hdata := d.dataBytes_prefixOf hbits
  have hlast : (0 + d.values.flatten.length).toUInt64 = d.prefixOf.dataBytes := by
    rw [Nat.zero_add]
    rfl
  have hlen := d.length_tableBytes
  have hfields := d.length_fieldBytes
  have hoffsets : (validateValueOffsets d.prefixOf d.values.length 0).run
      (offsetBytes (nextOffsets 0 d.values) ++ (d.values.flatten ++ writeU32 0)) = _ :=
    run_validateValueOffsets d.values 0 (by omega) hwidth
  rw [validateData, tableBytes, offsetBytes_cons, List.append_assoc]
  rw [show (0 : ℕ).toUInt64 = 0 from rfl, run_readU64_bind, run_failIf_bind (not_not.mpr rfl),
    Decoder.run_bind_of_ok hoffsets, hlast, run_failIf_bind (not_not.mpr rfl), run_position_bind,
    hdata, checkedPayloadLen_of_le (by simp) (by rw [List.length_append, writeU32_length]; omega)]
  rfl

/-- A value that does not have the fixed width fails the checks. -/
lemma run_validateData_of_ne (hkind : d.valueKind = .fixedBytes)
    (hwidth : ∃ v ∈ d.values, v.length ≠ d.fixedWidth.toNat) :
    (validateData d.fieldBytes.length d.prefixOf d.values.length).run d.tableBytes =
      .error (ocbCorruptFile
        "OCB fixed-byte dictionary value length does not match fixed width") := by
  have hdata := d.dataBytes_prefixOf hbits
  have hoffsets : (validateValueOffsets d.prefixOf d.values.length 0).run
      (offsetBytes (nextOffsets 0 d.values) ++ (d.values.flatten ++ writeU32 0)) = _ :=
    run_validateValueOffsets_of_ne d.values 0 (by omega) hkind hwidth
  rw [validateData, tableBytes, offsetBytes_cons, List.append_assoc]
  rw [show (0 : ℕ).toUInt64 = 0 from rfl, run_readU64_bind, run_failIf_bind (not_not.mpr rfl),
    Decoder.run_bind, hoffsets]
  rfl

lemma run_readData :
    (readData d.values.flatten d.values.length).run d.tableBytes =
      .ok (d.values, d.values.flatten ++ writeU32 0) := by
  have hvalues := @run_readValues (d.values.flatten ++ writeU32 0) d.values [] (by
    rw [List.length_nil]
    omega)
  rw [readData, tableBytes, offsetBytes_cons, List.append_assoc, run_readU64_bind]
  exact hvalues

/-- Sealed dictionary values are read back, at the price of the values. -/
lemma readFromBytesWithBudget_sealBytes (hversion : d.version = 1)
    (hcount : d.values.length + 1 < 2 ^ 32) (hwidth : d.valueKind = .fixedBytes →
      ∀ v ∈ d.values, v.length = d.fixedWidth.toNat) :
    readFromBytesWithBudget (sealBytes d.fieldBytes) = (do
      MetadataMaterializationBudget.charge d.materializedBytes
      return { d with crc32c := Ocb.crc32c d.fieldBytes }) := by
  have hsum : checkedMaterializedSum [d.values.length * vecHeaderBytes, d.values.flatten.length] =
      .ok d.materializedBytes := by
    have hmemory : [d.values.length * vecHeaderBytes, d.values.flatten.length].sum =
        d.materializedBytes := by
      simp [materializedBytes]
    rw [checkedMaterializedSum_of_lt, hmemory]
    rw [hmemory, materializedBytes, vecHeaderBytes]
    omega
  rw [readFromBytesWithBudget_eq, d.readHeader_sealBytes hversion, Fallible.lift_ok_bind,
    d.run_readPrefix hcount, Fallible.lift_ok_bind]
  simp only
  rw [d.run_validateData hbits hwidth, Fallible.lift_ok_bind,
    checkedMaterializedVecBytes_of_lt (by decide) (by omega), Fallible.lift_ok_bind, hsum,
    Fallible.lift_ok_bind, List.take_left' rfl, readAll, d.run_readData hbits]
  generalize Ocb.crc32c d.fieldBytes = crc
  simp only [Functor.map, Except.map, Fallible.lift_ok_bind, ← hversion]
  rfl

end ReadBack

end OcbDictionaryValuesV1

end ArcadiaTio.Ocb
