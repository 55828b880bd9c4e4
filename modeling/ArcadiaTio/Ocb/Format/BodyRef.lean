import ArcadiaTio.Lib.Bytes
import ArcadiaTio.Ocb.Error
import ArcadiaTio.Ocb.Crc32c

/-!
# Format primitives: words, kinds and body references

The enumerations of the format and the 32-byte body reference `OcbBodyRefV2`, the way every
object of a file points at another one.  A reference is checked against the kind the referring
field demands and against the length of the file (`OcbBodyRefV2.validate`); every failure of
that check is a corruption error (`validate_errors`), whereas the `validateOptionalRef*`
family reports a *kind* mismatch as invalid input.
-/

namespace ArcadiaTio.Ocb

open ArcadiaTio.Lib

/-! ### Words -/

/-- The decoders of this format. -/
abbrev Reader := Decoder ArcadiaTioError

/-- Reading past the end of an object. -/
def objectTruncated : ArcadiaTioError := ocbCorruptFile "OCB object is truncated"

/-- Read some bytes of an object. -/
def readExactOcb (n : ℕ) : Reader (List UInt8) := Decoder.take n objectTruncated

/-- Read a byte. -/
def readU8 : Reader UInt8 := Decoder.uint8 objectTruncated

/-- Read a word of two bytes. -/
def readU16 : Reader UInt16 := Decoder.uint16 objectTruncated

/-- Read a word of four bytes. -/
def readU32 : Reader UInt32 := Decoder.uint32 objectTruncated

/-- Read a word of eight bytes. -/
def readU64 : Reader UInt64 := Decoder.uint64 objectTruncated

/-- Write a byte. -/
def writeU8 (v : UInt8) : List UInt8 := leBytes 1 v.toNat

/-- Write a word of two bytes. -/
def writeU16 (v : UInt16) : List UInt8 := leBytes 2 v.toNat

/-- Write a word of four bytes. -/
def writeU32 (v : UInt32) : List UInt8 := leBytes 4 v.toNat

/-- Write a word of eight bytes. -/
def writeU64 (v : UInt64) : List UInt8 := leBytes 8 v.toNat

/-- The trailing checksum of an object. -/
def readU32AtEnd (bytes : List UInt8) : Result UInt32 :=
  if bytes.length < 4 then .error (ocbCorruptFile "buffer too short for trailing crc")
  else .ok (leNat (bytes.drop (bytes.length - 4))).toUInt32

/-- Overwrite the trailing checksum of an object. -/
def writeU32AtEnd (bytes : List UInt8) (v : UInt32) : List UInt8 :=
  bytes.take (bytes.length - 4) ++ writeU32 v

/-- The checksum of an object with its own checksum field taken as zero. -/
def crc32cZeroedAtEnd (bytes : List UInt8) : UInt32 := crc32c (writeU32AtEnd bytes 0)

/-- Run a reader on a whole object and drop what it left. -/
def readAll {α : Type} (r : Reader α) (bytes : List UInt8) : Result α :=
  Prod.fst <$> r.run bytes

section ReadBack

variable {α : Type} {bytes rest : List UInt8}

/-! A reader that finds what a writer wrote goes on with the rest. -/

lemma run_readExactOcb_bind {n : ℕ} {f : List UInt8 → Reader α} (h : bytes.length = n) :
    (readExactOcb n >>= f).run (bytes ++ rest) = (f bytes).run rest :=
  Decoder.run_bind_of_ok (Decoder.run_take_append h)

lemma run_readU8_bind {v : UInt8} {f : UInt8 → Reader α} :
    (readU8 >>= f).run (writeU8 v ++ rest) = (f v).run rest :=
  Decoder.run_bind_of_ok (Decoder.run_uint8_encode v rest)

lemma run_readU16_bind {v : UInt16} {f : UInt16 → Reader α} :
    (readU16 >>= f).run (writeU16 v ++ rest) = (f v).run rest :=
  Decoder.run_bind_of_ok (Decoder.run_uint16_encode v rest)

lemma run_readU32_bind {v : UInt32} {f : UInt32 → Reader α} :
    (readU32 >>= f).run (writeU32 v ++ rest) = (f v).run rest :=
  Decoder.run_bind_of_ok (Decoder.run_uint32_encode v rest)

lemma run_readU64_bind {v : UInt64} {f : UInt64 → Reader α} :
    (readU64 >>= f).run (writeU64 v ++ rest) = (f v).run rest :=
  Decoder.run_bind_of_ok (Decoder.run_uint64_encode v rest)

lemma run_lift_bind {β : Type} {x : Result β} {f : β → Reader α} {b : β} (h : x = .ok b) :
    ((liftM x : Reader β) >>= f).run bytes = (f b).run bytes := by
  subst h
  rfl

lemma run_failIf_bind {c : Prop} [Decidable c] {e : ArcadiaTioError} {f : Unit → Reader α}
    (h : ¬ c) : ((liftM (failIf c e) : Reader Unit) >>= f).run bytes = (f ()).run bytes :=
  run_lift_bind (failIf_neg h)

lemma run_failIf_bind_of_pos {c : Prop} [Decidable c] {e : ArcadiaTioError} {f : Unit → Reader α}
    (h : c) : ((liftM (failIf c e) : Reader Unit) >>= f).run bytes = .error e := by
  rw [failIf_pos h]
  rfl

end ReadBack

@[simp] lemma writeU8_length (v : UInt8) : (writeU8 v).length = 1 := leBytes_length _ _

@[simp] lemma writeU16_length (v : UInt16) : (writeU16 v).length = 2 := leBytes_length _ _

@[simp] lemma writeU32_length (v : UInt32) : (writeU32 v).length = 4 := leBytes_length _ _

@[simp] lemma writeU64_length (v : UInt64) : (writeU64 v).length = 8 := leBytes_length _ _

lemma length_writeU32AtEnd {bytes : List UInt8} (h : 4 ≤ bytes.length) (v : UInt32) :
    (writeU32AtEnd bytes v).length = bytes.length := by
  simp only [writeU32AtEnd, List.length_append, List.length_take, writeU32_length]
  omega

lemma readU32AtEnd_writeU32AtEnd {bytes : List UInt8} (h : 4 ≤ bytes.length) (v : UInt32) :
    readU32AtEnd (writeU32AtEnd bytes v) = .ok v := by
  have hlen := length_writeU32AtEnd h v
  have htail : (writeU32AtEnd bytes v).drop (bytes.length - 4) = writeU32 v := by
    rw [writeU32AtEnd, List.drop_append_of_le_length (by simp)]
    simp
  rw [readU32AtEnd, if_neg (by omega), hlen, htail, writeU32,
    leNat_leBytes_of_lt (by simpa using v.toNat_lt)]
  simp

lemma writeU32AtEnd_writeU32AtEnd {bytes : List UInt8} (h : 4 ≤ bytes.length) (v w : UInt32) :
    writeU32AtEnd (writeU32AtEnd bytes v) w = writeU32AtEnd bytes w := by
  rw [writeU32AtEnd, length_writeU32AtEnd h, writeU32AtEnd,
    List.take_append_of_le_length (by simp), List.take_take, Nat.min_self, writeU32AtEnd]

lemma writeU32AtEnd_append_writeU32 (bytes : List UInt8) (v w : UInt32) :
    writeU32AtEnd (bytes ++ writeU32 v) w = bytes ++ writeU32 w := by
  simp [writeU32AtEnd]

/-! ### Enumerations -/

/-- The kinds of objects that a file is made of. -/
inductive OcbBodyKindV1
  | unknown | root | schema | dictionaryIndex | dictionaryValues | rowGroupIndex | orderingProof
  | columnChunk | stringTable | debugJsonMetadata | validityBitmap | keyTuple | rowGroupIndexDelta
deriving DecidableEq, Repr

namespace OcbBodyKindV1

/-- The number of an object kind. -/
def toU16 : OcbBodyKindV1 → UInt16
  | unknown => 0
  | root => 1
  | schema => 2
  | dictionaryIndex => 3
  | dictionaryValues => 4
  | rowGroupIndex => 5
  | orderingProof => 6
  | columnChunk => 7
  | stringTable => 8
  | debugJsonMetadata => 9
  | validityBitmap => 10
  | keyTuple => 11
  | rowGroupIndexDelta => 12

/-- An object kind from its number. -/
def fromU16 (value : UInt16) : Result OcbBodyKindV1 :=
  match value.toNat with
  | 0 => .ok unknown
  | 1 => .ok root
  | 2 => .ok schema
  | 3 => .ok dictionaryIndex
  | 4 => .ok dictionaryValues
  | 5 => .ok rowGroupIndex
  | 6 => .ok orderingProof
  | 7 => .ok columnChunk
  | 8 => .ok stringTable
  | 9 => .ok debugJsonMetadata
  | 10 => .ok validityBitmap
  | 11 => .ok keyTuple
  | 12 => .ok rowGroupIndexDelta
  | _ => .error (ocbCorruptFile "unknown OCB body kind")

lemma fromU16_toU16 (k : OcbBodyKindV1) : fromU16 k.toU16 = .ok k := by cases k <;> rfl

end OcbBodyKindV1

/-- The checksums that a reference may have. -/
inductive OcbChecksumKindV1
  | none | crc32c
deriving DecidableEq, Repr

namespace OcbChecksumKindV1

/-- The number of a checksum kind. -/
def toU16 : OcbChecksumKindV1 → UInt16
  | none => 0
  | crc32c => 1

/-- A checksum kind from its number. -/
def fromU16 (value : UInt16) : Result OcbChecksumKindV1 :=
  match value.toNat with
  | 0 => .ok none
  | 1 => .ok crc32c
  | _ => .error (ocbCorruptFile "unknown OCB checksum kind")

lemma fromU16_toU16 (k : OcbChecksumKindV1) : fromU16 k.toU16 = .ok k := by cases k <;> rfl

end OcbChecksumKindV1

/-- How the values of a column are stored. -/
inductive OcbPhysicalTypeV1
  | i32 | i64 | f32 | f64 | fixedBinary
deriving DecidableEq, Repr

namespace OcbPhysicalTypeV1

/-- The number of a physical type. -/
def toU16 : OcbPhysicalTypeV1 → UInt16
  | i32 => 1
  | i64 => 2
  | f32 => 3
  | f64 => 4
  | fixedBinary => 5

/-- A physical type from its number. -/
def fromU16 (value : UInt16) : Result OcbPhysicalTypeV1 :=
  match value.toNat with
  | 1 => .ok i32
  | 2 => .ok i64
  | 3 => .ok f32
  | 4 => .ok f64
  | 5 => .ok fixedBinary
  | _ => .error (ocbCorruptFile "unknown OCB physical type")

lemma fromU16_toU16 (t : OcbPhysicalTypeV1) : fromU16 t.toU16 = .ok t := by cases t <;> rfl

/-- The bytes of a value, when its type says how many. -/
def primitiveByteWidth : OcbPhysicalTypeV1 → Option ℕ
  | i32 | f32 => some 4
  | i64 | f64 => some 8
  | fixedBinary => none

end OcbPhysicalTypeV1

/-- What the values of a column mean. -/
inductive OcbLogicalKindV1
  | plain | timestampNanosLike | scaledInteger | dictionaryCode | enumCode | opaqueKey
deriving DecidableEq, Repr

namespace OcbLogicalKindV1

/-- The number of a logical kind. -/
def toU16 : OcbLogicalKindV1 → UInt16
  | plain => 0
  | timestampNanosLike => 1
  | scaledInteger => 2
  | dictionaryCode => 3
  | enumCode => 4
  | opaqueKey => 5

/-- A logical kind from its number. -/
def fromU16 (value : UInt16) : Result OcbLogicalKindV1 :=
  match value.toNat with
  | 0 => .ok plain
  | 1 => .ok timestampNanosLike
  | 2 => .ok scaledInteger
  | 3 => .ok dictionaryCode
  | 4 => .ok enumCode
  | 5 => .ok opaqueKey
  | _ => .error (ocbCorruptFile "unknown OCB logical kind")

lemma fromU16_toU16 (k : OcbLogicalKindV1) : fromU16 k.toU16 = .ok k := by cases k <;> rfl

end OcbLogicalKindV1

/-- Whether a column may have nulls. -/
inductive OcbNullabilityV1
  | nonNull | nullable
deriving DecidableEq, Repr

namespace OcbNullabilityV1

/-- The number of a nullability. -/
def toU16 : OcbNullabilityV1 → UInt16
  | nonNull => 0
  | nullable => 1

/-- A nullability from its number. -/
def fromU16 (value : UInt16) : Result OcbNullabilityV1 :=
  match value.toNat with
  | 0 => .ok nonNull
  | 1 => .ok nullable
  | _ => .error (ocbCorruptFile "unknown OCB nullability")

lemma fromU16_toU16 (n : OcbNullabilityV1) : fromU16 n.toU16 = .ok n := by cases n <;> rfl

end OcbNullabilityV1

/-- How a chunk is compressed. -/
inductive OcbChunkCodecV1
  | none | zstd
deriving DecidableEq, Repr

namespace OcbChunkCodecV1

/-- The number of a codec. -/
def toU16 : OcbChunkCodecV1 → UInt16
  | none => 0
  | zstd => 1

/-- A codec from its number. -/
def fromU16 (value : UInt16) : Result OcbChunkCodecV1 :=
  match value.toNat with
  | 0 => .ok none
  | 1 => .ok zstd
  | _ => .error (ocbUnsupportedFormat "unknown OCB chunk codec")

lemma fromU16_toU16 (c : OcbChunkCodecV1) : fromU16 c.toU16 = .ok c := by cases c <;> rfl

end OcbChunkCodecV1

/-- What the values of a dictionary are. -/
inductive OcbDictionaryValueKindV1
  | utf8 | bytes | fixedBytes | enumLabels
deriving DecidableEq, Repr

namespace OcbDictionaryValueKindV1

/-- The number of a value kind. -/
def toU16 : OcbDictionaryValueKindV1 → UInt16
  | utf8 => 1
  | bytes => 2
  | fixedBytes => 3
  | enumLabels => 4

/-- A value kind from its number. -/
def fromU16 (value : UInt16) : Result OcbDictionaryValueKindV1 :=
  match value.toNat with
  | 1 => .ok utf8
  | 2 => .ok bytes
  | 3 => .ok fixedBytes
  | 4 => .ok enumLabels
  | _ => .error (ocbCorruptFile "unknown OCB dictionary value kind")

lemma fromU16_toU16 (k : OcbDictionaryValueKindV1) : fromU16 k.toU16 = .ok k := by
  cases k <;> rfl

end OcbDictionaryValueKindV1

/-- The direction of an ordering key. -/
inductive OcbOrderingDirectionV1
  | ascending | descending
deriving DecidableEq, Repr

/-- The direction that a stored byte stands for. -/
def OcbOrderingDirectionV1.fromU8 (value : UInt8) : Result OcbOrderingDirectionV1 :=
  match value.toNat with
  | 0 => .ok .ascending
  | 1 => .ok .descending
  | _ => .error (ocbCorruptFile "unknown OCB ordering direction")

/-- The byte of a direction. -/
def OcbOrderingDirectionV1.toU8 : OcbOrderingDirectionV1 → UInt8
  | .ascending => 0
  | .descending => 1

lemma OcbOrderingDirectionV1.fromU8_toU8 (d : OcbOrderingDirectionV1) :
    fromU8 d.toU8 = .ok d := by
  cases d <;> rfl

/-- Where an ordering key has its nulls. -/
inductive OcbNullOrderV1
  | nullsFirst | nullsLast | noNulls
deriving DecidableEq, Repr

/-- The null order that a stored byte stands for. -/
def OcbNullOrderV1.fromU8 (value : UInt8) : Result OcbNullOrderV1 :=
  match value.toNat with
  | 0 => .ok .nullsFirst
  | 1 => .ok .nullsLast
  | 2 => .ok .noNulls
  | _ => .error (ocbCorruptFile "unknown OCB null order")

/-- The byte of a null order. -/
def OcbNullOrderV1.toU8 : OcbNullOrderV1 → UInt8
  | .nullsFirst => 0
  | .nullsLast => 1
  | .noNulls => 2

lemma OcbNullOrderV1.fromU8_toU8 (n : OcbNullOrderV1) : fromU8 n.toU8 = .ok n := by
  cases n <;> rfl

/-! ### Body references -/

/-- A reference to an object of the file: its byte range, its kind and its checksum. -/
structure OcbBodyRefV2 where
  offset : UInt64
  length : UInt64
  kind : OcbBodyKindV1
  flags : UInt16
  checksumKind : OcbChecksumKindV1
  reserved0 : UInt16
  checksum : UInt32
  reserved1 : UInt32
deriving DecidableEq, Repr

namespace OcbBodyRefV2

/-- The null reference. -/
def null : OcbBodyRefV2 := ⟨0, 0, .unknown, 0, .none, 0, 0, 0⟩

/-- A reference without a checksum. -/
def unchecked (offset length : UInt64) (kind : OcbBodyKindV1) : OcbBodyRefV2 :=
  { null with offset, length, kind }

/-- A reference is null when its range and its kind are. -/
def IsNull (r : OcbBodyRefV2) : Prop := r.offset = 0 ∧ r.length = 0 ∧ r.kind = .unknown

instance (r : OcbBodyRefV2) : Decidable r.IsNull :=
  inferInstanceAs (Decidable (r.offset = 0 ∧ r.length = 0 ∧ r.kind = .unknown))

@[simp] lemma isNull_null : null.IsNull := ⟨rfl, rfl, rfl⟩

/-- Check a reference against the kind its field demands and the length of the file. -/
def validate (r : OcbBodyRefV2) (expectedKind : OcbBodyKindV1) (fileLen : ℕ) : Result Unit := do
  failIf r.IsNull (ocbCorruptFile "OCB body reference is null")
  failIf (r.kind ≠ expectedKind) (ocbCorruptFile "OCB body reference kind mismatch")
  let endOffset ← okOr (checkedAdd 64 r.offset.toNat r.length.toNat)
    (ocbCorruptFile "OCB body reference range overflows")
  failIf (endOffset > fileLen)
    (ocbCorruptFile "OCB body reference extends beyond file length")

/-- The byte range of a reference lies inside a file of the given length. -/
def InRange (r : OcbBodyRefV2) (fileLen : ℕ) : Prop :=
  r.offset.toNat + r.length.toNat < 2 ^ 64 ∧ r.offset.toNat + r.length.toNat ≤ fileLen

instance (r : OcbBodyRefV2) (fileLen : ℕ) : Decidable (r.InRange fileLen) :=
  inferInstanceAs (Decidable (_ ∧ _))

lemma validate_eq_ok {r : OcbBodyRefV2} {k : OcbBodyKindV1} {fileLen : ℕ} {u : Unit} :
    r.validate k fileLen = .ok u ↔ ¬ r.IsNull ∧ r.kind = k ∧ r.InRange fileLen := by
  simp only [validate, bind_eq_ok, failIf_eq_ok, okOr_eq_ok, checkedAdd_eq_some, InRange]
  constructor
  · rintro ⟨_, h1, _, h2, n, ⟨rfl, h3⟩, h4⟩
    exact ⟨h1, not_not.mp h2, h3, not_lt.mp h4⟩
  · rintro ⟨h1, h2, h3, h4⟩
    exact ⟨(), h1, (), not_not.mpr h2, _, ⟨rfl, h3⟩, not_lt.mpr h4⟩

/-- Every failure of the reference check is a corruption error. -/
lemma validate_errors (r : OcbBodyRefV2) (k : OcbBodyKindV1) (fileLen : ℕ) :
    ErrorsIn ArcadiaTioError.IsCorrupt (r.validate k fileLen) := by
  refine .bind (.failIf fun _ => by simp) fun _ _ => ?_
  refine .bind (.failIf fun _ => by simp) fun _ _ => ?_
  exact .bind (.okOr (by simp)) fun _ _ => .failIf fun _ => by simp

/-- The bytes of a reference. -/
def write (r : OcbBodyRefV2) : List UInt8 :=
  writeU64 r.offset ++ writeU64 r.length ++ writeU16 r.kind.toU16 ++ writeU16 r.flags ++
    writeU16 r.checksumKind.toU16 ++ writeU16 r.reserved0 ++ writeU32 r.checksum ++
    writeU32 r.reserved1

/-- Read a reference. -/
def read : Reader OcbBodyRefV2 := do
  let offset ← readU64
  let length ← readU64
  let kind ← OcbBodyKindV1.fromU16 (← readU16)
  let flags ← readU16
  let checksumKind ← OcbChecksumKindV1.fromU16 (← readU16)
  let reserved0 ← readU16
  let checksum ← readU32
  let reserved1 ← readU32
  return { offset, length, kind, flags, checksumKind, reserved0, checksum, reserved1 }

@[simp] lemma write_length (r : OcbBodyRefV2) : r.write.length = 32 := by simp [write]

lemma run_read_bind {α : Type} {r : OcbBodyRefV2} {rest : List UInt8}
    {f : OcbBodyRefV2 → Reader α} : (read >>= f).run (r.write ++ rest) = (f r).run rest := by
  refine Decoder.run_bind_of_ok ?_
  simp only [read, write, List.append_assoc, run_readU64_bind, run_readU32_bind, run_readU16_bind,
    run_lift_bind (OcbBodyKindV1.fromU16_toU16 _), run_lift_bind (OcbChecksumKindV1.fromU16_toU16 _)]
  rfl

end OcbBodyRefV2

/-! ### Optional references -/

/-- An absent reference, or one of an expected kind with its range inside the file.  A kind
outside the expected ones is reported as *invalid input*. -/
def validateOptionalRefAnyKind (r : OcbBodyRefV2) (expectedKinds : List OcbBodyKindV1)
    (fileLen : ℕ) : Result Unit :=
  if r.IsNull then .ok ()
  else if r.kind ∈ expectedKinds then r.validate r.kind fileLen
  else .error (ocbInvalidInput "OCB body reference has unexpected kind")

/-- A reference is null, or it is to an object of the kind within the file. -/
def validateOptionalRef (r : OcbBodyRefV2) (expectedKind : OcbBodyKindV1) (fileLen : ℕ) :
    Result Unit :=
  validateOptionalRefAnyKind r [expectedKind] fileLen

/-- The kind half of the check, with the message of the referring field. -/
def validateOptionalRefKinds (r : OcbBodyRefV2) (expectedKinds : List OcbBodyKindV1)
    (message : String) : Result Unit :=
  failIf (¬ (r.IsNull ∨ r.kind ∈ expectedKinds)) (ocbInvalidInput message)

/-- A reference is null, or it is to an object of the kind. -/
def validateOptionalRefKind (r : OcbBodyRefV2) (expectedKind : OcbBodyKindV1)
    (message : String) : Result Unit :=
  validateOptionalRefKinds r [expectedKind] message

end ArcadiaTio.Ocb
