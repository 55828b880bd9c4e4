import ArcadiaTio.Lib.PrefixFree
import ArcadiaTio.Ocb.Bundle.Types

/-!
# Snapshot fingerprints

A fingerprint is the checksum of a byte stream that spells out a part of the metadata: counts and
fixed-width fields as they are, strings behind their length, optional fields and enumerations
behind a tag.  Every writer of the stream is prefix free on the values a program can hold, so each
of the five streams determines the part it describes (`fingerprint_streams_injective`).
-/

namespace ArcadiaTio.Ocb

open ArcadiaTio.Lib

/-! ### The byte writers

A writer appends to the stream; it is given here by the bytes it appends. -/

/-- The bytes that a byte adds to a stream. -/
def fpU8 (value : UInt8) : List UInt8 := [value]

/-- The bytes that a half word adds to a stream. -/
def fpU16 (value : UInt16) : List UInt8 := leBytes 2 value.toNat

/-- The bytes that a word of four bytes adds to a stream. -/
def fpU32 (value : UInt32) : List UInt8 := leBytes 4 value.toNat

/-- The bytes that a signed word of four bytes adds to a stream. -/
def fpI32 (value : Int32) : List UInt8 := leBytes 4 value.toUInt32.toNat

/-- The bytes that a word of eight bytes adds to a stream. -/
def fpU64 (value : UInt64) : List UInt8 := leBytes 8 value.toNat

/-- The bytes that a signed word of eight bytes adds to a stream. -/
def fpI64 (value : Int64) : List UInt8 := leBytes 8 value.toUInt64.toNat

/-- A flag as one byte. -/
def fpBool (value : Bool) : List UInt8 := fpU8 (if value then 1 else 0)

/-- A text behind its length. -/
def fpStr (value : String) : List UInt8 :=
  fpU64 value.toUTF8.size.toUInt64 ++ value.toUTF8.data.toList

/-- An optional word behind a byte that says whether it is there. -/
def fpOptionU32 : Option UInt32 → List UInt8
  | some value => fpU8 1 ++ fpU32 value
  | none => fpU8 0

/-- The number of entries of a list, cut to 32 bits. -/
def fpLen {α : Type} (as : List α) : List UInt8 := fpU32 as.length.toUInt32

/-- A checksum in lower-case hexadecimal, eight digits wide. -/
def fpHex (bytes : List UInt8) : String :=
  String.ofList (List.leftpad 8 '0' (Nat.toDigits 16 (crc32c bytes).toNat))

/-! Enumerations. -/

/-- A physical type as a tag, with the width of fixed binary behind it. -/
def fpColumnPhysicalType : ColumnPhysicalType → List UInt8
  | .i32 => fpU8 1
  | .i64 => fpU8 2
  | .f32 => fpU8 3
  | .f64 => fpU8 4
  | .fixedBinary width => fpU8 5 ++ fpU32 width

/-- A logical kind as a tag. -/
def fpColumnLogicalKind (value : ColumnLogicalKind) : List UInt8 :=
  fpU8 (match value with
    | .plain => 0
    | .timestampNanosLike => 1
    | .scaledInteger => 2
    | .dictionaryCode => 3
    | .enumCode => 4
    | .opaqueKey => 5)

/-- A kind of dictionary values as a tag. -/
def fpDictionaryValueKind (value : DictionaryValueKind) : List UInt8 :=
  fpU8 (match value with
    | .utf8 => 1
    | .bytes => 2
    | .fixedBytes => 3
    | .enumLabels => 4)

/-- A direction as a tag. -/
def fpOrderingDirection (value : BundleOrderingDirection) : List UInt8 :=
  fpU8 (match value with
    | .ascending => 1
    | .descending => 2)

/-- A null order as a tag. -/
def fpNullOrder (value : BundleNullOrder) : List UInt8 :=
  fpU8 (match value with
    | .nullsFirst => 1
    | .nullsLast => 2
    | .noNulls => 3)

/-- A codec as a tag. -/
def fpChunkCodec (value : ColumnBundleColumnChunkSummaryCodec) : List UInt8 :=
  fpU8 (match value with
    | .none => 0
    | .zstd => 1)

/-- A kind of object as a tag. -/
def fpBodyKind (value : ColumnBundleBodyKind) : List UInt8 :=
  fpU8 (match value with
    | .unknown => 0
    | .root => 1
    | .schema => 2
    | .dictionaryIndex => 3
    | .dictionaryValues => 4
    | .rowGroupIndex => 5
    | .orderingProof => 6
    | .columnChunk => 7
    | .stringTable => 8
    | .debugJsonMetadata => 9
    | .validityBitmap => 10
    | .keyTuple => 11
    | .rowGroupIndexDelta => 12)

/-- A kind of checksum as a tag. -/
def fpChecksumKind (value : ColumnBundleChecksumKind) : List UInt8 :=
  fpU8 (match value with
    | .none => 0
    | .crc32c => 1)

/-- A scalar behind the tag of its type. -/
def fpPredicateValue : ColumnPredicateValue → List UInt8
  | .i32 value => fpU8 1 ++ fpI32 value
  | .i64 value => fpU8 2 ++ fpI64 value
  | .f32 bits => fpU8 3 ++ fpU32 bits
  | .f64 bits => fpU8 4 ++ fpU64 bits

/-! Records. -/

/-- A reference, field by field. -/
def fpBodyRefSummary (r : ColumnBundleBodyRefSummary) : List UInt8 :=
  fpU64 r.offset ++ fpU64 r.length ++ fpBodyKind r.kind ++ fpU16 r.flags ++
    fpChecksumKind r.checksumKind ++ fpU32 r.checksum

/-- An optional reference behind a byte that says whether it is there. -/
def fpOptionBodyRefSummary : Option ColumnBundleBodyRefSummary → List UInt8
  | some value => fpU8 1 ++ fpBodyRefSummary value
  | none => fpU8 0

/-- A chunk, field by field. -/
def fpColumnChunkSummary (chunk : ColumnBundleColumnChunkSummary) : List UInt8 :=
  fpU32 chunk.rowGroupId ++ fpU32 chunk.columnId ++ fpStr chunk.columnName.value ++
    fpColumnPhysicalType chunk.physicalType ++ fpColumnLogicalKind chunk.logicalKind ++
    fpOptionU32 chunk.fixedBinaryWidth ++ fpChunkCodec chunk.codec ++ fpU64 chunk.rowCount ++
    fpU64 chunk.compressedBytes ++ fpU64 chunk.uncompressedBytes ++
    fpBodyRefSummary chunk.valueRef ++ fpOptionBodyRefSummary chunk.validityRef

/-- The statistics of a column, field by field. -/
def fpColumnStatsSummary (stat : ColumnBundleColumnStatsSummary) : List UInt8 :=
  fpU32 stat.rowGroupId ++ fpU32 stat.columnId ++ fpStr stat.columnName.value ++
    fpColumnPhysicalType stat.physicalType ++ fpU32 stat.nullCount ++ fpPredicateValue stat.min ++
    fpPredicateValue stat.max

/-- A row group with its chunks and statistics. -/
def fpRowGroupSummary (rowGroup : ColumnBundleRowGroupSummary) : List UInt8 :=
  fpU32 rowGroup.rowGroupId ++ fpU64 rowGroup.baseRow ++ fpU64 rowGroup.rowCount ++
    fpOptionBodyRefSummary rowGroup.firstKeyTupleRef ++
    fpOptionBodyRefSummary rowGroup.lastKeyTupleRef ++
    fpLen rowGroup.chunks ++ rowGroup.chunks.flatMap fpColumnChunkSummary ++
    fpLen rowGroup.stats ++ rowGroup.stats.flatMap fpColumnStatsSummary

/-- The stream of one column in the schema fingerprint. -/
def fpColumn (column : BundleColumn) : List UInt8 :=
  fpU32 column.id ++ fpStr column.name.value ++ fpColumnPhysicalType column.physicalType ++
    fpColumnLogicalKind column.logicalKind ++ fpOptionU32 column.dictionaryId ++
    fpI32 column.scale ++ fpBool column.nullable

/-- The stream of one dictionary. -/
def fpDictionary (dictionary : BundleDictionaryDescriptor) : List UInt8 :=
  fpU32 dictionary.dictionaryId ++ fpStr dictionary.name.value ++
    fpColumnPhysicalType dictionary.codePhysicalType ++
    fpDictionaryValueKind dictionary.valueKind ++ fpU32 dictionary.entryCount

/-- The stream of one ordering key. -/
def fpOrderingKey (key : BundleOrderingKey) : List UInt8 :=
  fpU32 key.columnId ++ fpStr key.columnName.value ++ fpOrderingDirection key.direction ++
    fpNullOrder key.nullOrder

/-- The stream of one row group in the fingerprint of selected chunks. -/
def fpSelectedRowGroup (rowGroup : ColumnBundleRowGroupSummary) : List UInt8 :=
  fpU32 rowGroup.rowGroupId ++ fpU64 rowGroup.baseRow ++ fpU64 rowGroup.rowCount ++
    fpLen rowGroup.chunks ++ rowGroup.chunks.flatMap fpColumnChunkSummary

/-! ### The fingerprints -/

/-- The stream that is hashed for the schema. -/
def schemaStream (metadata : ColumnBundleMetadata) : List UInt8 :=
  fpStr "schema" ++ fpStr metadata.formatName.value ++ fpBool metadata.appendable ++
    fpU64 metadata.rowCount ++ fpU32 metadata.rowGroupCount ++ fpU32 metadata.columnChunkCount ++
    fpLen metadata.columns ++ metadata.columns.flatMap fpColumn

/-- The fingerprint of the schema. -/
def fingerprintSchema (metadata : ColumnBundleMetadata) : String := fpHex (schemaStream metadata)

/-- The stream that is hashed for the dictionaries. -/
def dictionariesStream (metadata : ColumnBundleMetadata) : List UInt8 :=
  fpStr "dictionaries" ++ fpLen metadata.dictionaries ++ metadata.dictionaries.flatMap fpDictionary

/-- The fingerprint of the dictionaries. -/
def fingerprintDictionaries (metadata : ColumnBundleMetadata) : String :=
  fpHex (dictionariesStream metadata)

/-- The stream that is hashed for the ordering. -/
def orderingStream (metadata : ColumnBundleMetadata) : List UInt8 :=
  fpStr "ordering" ++ fpLen metadata.orderingKeys ++ metadata.orderingKeys.flatMap fpOrderingKey

/-- The fingerprint of the ordering. -/
def fingerprintOrdering (metadata : ColumnBundleMetadata) : String :=
  fpHex (orderingStream metadata)

/-- The stream that is hashed for the row groups. -/
def rowGroupsStream (rowGroups : List ColumnBundleRowGroupSummary) : List UInt8 :=
  fpStr "row_groups" ++ fpLen rowGroups ++ rowGroups.flatMap fpRowGroupSummary

/-- The fingerprint of the row groups. -/
def fingerprintRowGroupSummaries (rowGroups : List ColumnBundleRowGroupSummary) : String :=
  fpHex (rowGroupsStream rowGroups)

/-- The stream that is hashed for the chunks of selected row groups. -/
def selectedChunksStream (rowGroups : List ColumnBundleRowGroupSummary) : List UInt8 :=
  fpStr "selected_chunks" ++ fpLen rowGroups ++ rowGroups.flatMap fpSelectedRowGroup

/-- The fingerprint of the chunks of selected row groups. -/
def fingerprintSelectedChunks (rowGroups : List ColumnBundleRowGroupSummary) : String :=
  fpHex (selectedChunksStream rowGroups)

/-- The name of the algorithm behind every fingerprint. -/
def ocbCertificationFingerprintAlgorithm : String := "ocb.generic.crc32c.v1"

/-- The fingerprints of the parts of a file. -/
structure ColumnBundleSnapshotFingerprint where
  algorithm : String
  schema : String
  dictionaries : String
  ordering : String
  rowGroups : String
  combined : String
deriving DecidableEq

/-- The fingerprints of metadata and row groups. -/
def snapshotFingerprintForSummaries (metadata : ColumnBundleMetadata)
    (rowGroups : List ColumnBundleRowGroupSummary) : ColumnBundleSnapshotFingerprint :=
  let schema := fingerprintSchema metadata
  let dictionaries := fingerprintDictionaries metadata
  let ordering := fingerprintOrdering metadata
  let rowGroupsFp := fingerprintRowGroupSummaries rowGroups
  let combined := fpStr ocbCertificationFingerprintAlgorithm ++ fpStr schema ++
    fpStr dictionaries ++ fpStr ordering ++ fpStr rowGroupsFp
  { algorithm := ocbCertificationFingerprintAlgorithm, schema, dictionaries, ordering
    rowGroups := rowGroupsFp, combined := fpHex combined }

/-! ### Every writer is prefix free -/

lemma prefixFree_fpU8 : PrefixFree fpU8 := by
  intro a b _ _ s t h
  exact ⟨(List.cons.inj h).1, (List.cons.inj h).2⟩

lemma prefixFree_fpU16 : PrefixFree fpU16 :=
  prefixFree_leBytes_comp (fun a => a.toNat_lt) fun _ _ => UInt16.toNat_inj.mp

lemma prefixFree_fpU32 : PrefixFree fpU32 :=
  prefixFree_leBytes_comp (fun a => a.toNat_lt) fun _ _ => UInt32.toNat_inj.mp

lemma prefixFree_fpU64 : PrefixFree fpU64 :=
  prefixFree_leBytes_comp (fun a => a.toNat_lt) fun _ _ => UInt64.toNat_inj.mp

lemma prefixFree_fpI32 : PrefixFree fpI32 :=
  prefixFree_leBytes_comp (fun a => a.toUInt32.toNat_lt)
    fun ⟨_⟩ ⟨_⟩ h => congrArg Int32.ofUInt32 (UInt32.toNat_inj.mp h)

lemma prefixFree_fpI64 : PrefixFree fpI64 :=
  prefixFree_leBytes_comp (fun a => a.toUInt64.toNat_lt)
    fun ⟨_⟩ ⟨_⟩ h => congrArg Int64.ofUInt64 (UInt64.toNat_inj.mp h)

/-- A tag byte determines the values that have different tags. -/
lemma prefixFree_tag {α : Type} {tag : α → UInt8} (h : ∀ a b, tag a = tag b → a = b) :
    PrefixFree (fun a => fpU8 (tag a)) := by
  intro a b _ _ s t heq
  obtain ⟨htag, hrest⟩ := prefixFree_fpU8.head heq
  exact ⟨h a b htag, hrest⟩

lemma prefixFree_fpBool : PrefixFree fpBool := prefixFree_tag (by decide)

lemma prefixFree_fpColumnLogicalKind : PrefixFree fpColumnLogicalKind :=
  prefixFree_tag (by rintro ⟨⟩ ⟨⟩ <;> simp)

lemma prefixFree_fpDictionaryValueKind : PrefixFree fpDictionaryValueKind :=
  prefixFree_tag (by rintro ⟨⟩ ⟨⟩ <;> simp)

lemma prefixFree_fpOrderingDirection : PrefixFree fpOrderingDirection :=
  prefixFree_tag (by rintro ⟨⟩ ⟨⟩ <;> simp)

lemma prefixFree_fpNullOrder : PrefixFree fpNullOrder :=
  prefixFree_tag (by rintro ⟨⟩ ⟨⟩ <;> simp)

lemma prefixFree_fpChunkCodec : PrefixFree fpChunkCodec :=
  prefixFree_tag (by rintro ⟨⟩ ⟨⟩ <;> simp)

lemma prefixFree_fpBodyKind : PrefixFree fpBodyKind :=
  prefixFree_tag (by rintro ⟨⟩ ⟨⟩ <;> simp)

lemma prefixFree_fpChecksumKind : PrefixFree fpChecksumKind :=
  prefixFree_tag (by rintro ⟨⟩ ⟨⟩ <;> simp)

/-- A string behind its length, which fits 64 bits. -/
lemma prefixFreeOn_fpStr : PrefixFreeOn (fun s : String => s.toUTF8.size < 2 ^ 63) fpStr := by
  intro a b ha hb s t h
  simp only [fpStr, List.append_assoc] at h
  obtain ⟨hsize, hbytes⟩ := prefixFree_fpU64.head h
  have hsizes : a.toUTF8.size = b.toUTF8.size := by
    have hnat := congrArg UInt64.toNat hsize
    simp only [Nat.toUInt64_eq, UInt64.toNat_ofNat'] at hnat
    omega
  obtain ⟨hdata, hrest⟩ := List.append_inj hbytes hsizes
  have hutf8 : a.toUTF8 = b.toUTF8 := ByteArray.ext (Array.toList_inj.mp hdata)
  exact ⟨String.toByteArray_inj.mp hutf8, hrest⟩

lemma prefixFree_fpText : PrefixFree (fun text : Text => fpStr text.value) := by
  intro a b _ _ s t h
  obtain ⟨hvalue, hrest⟩ := prefixFreeOn_fpStr a.size_lt b.size_lt h
  exact ⟨Text.ext_value hvalue, hrest⟩

lemma prefixFree_fpOptionU32 : PrefixFree fpOptionU32 := by
  have hoption := PrefixFreeOn.option (show (1 : UInt8) ≠ 0 by decide) prefixFree_fpU32
  intro a b _ _ s t h
  cases a <;> cases b <;> exact hoption (fun _ _ => trivial) (fun _ _ => trivial) h

lemma prefixFree_fpColumnPhysicalType : PrefixFree fpColumnPhysicalType := by
  -- The tag says whether a width follows.
  intro a b _ _ s t h
  cases a with
  | fixedBinary width =>
    cases b with
    | fixedBinary width' =>
      simp only [fpColumnPhysicalType, List.append_assoc] at h
      obtain ⟨-, h⟩ := prefixFree_fpU8.head h
      obtain ⟨e₁, h⟩ := prefixFree_fpU32.head h
      refine ⟨?_, h⟩
      subst e₁
      rfl
    | _ =>
      simp only [fpColumnPhysicalType, List.append_assoc] at h
      exact absurd (prefixFree_fpU8.head h).1 (by decide)
  | _ =>
    cases b with
    | fixedBinary width =>
      simp only [fpColumnPhysicalType, List.append_assoc] at h
      exact absurd (prefixFree_fpU8.head h).1 (by decide)
    | _ =>
      obtain ⟨htag, h⟩ := prefixFree_fpU8.head h
      first
        | exact ⟨rfl, h⟩
        | exact absurd htag (by decide)

lemma prefixFree_fpPredicateValue : PrefixFree fpPredicateValue := by
  intro a b _ _ s t h
  cases a <;> cases b <;> simp only [fpPredicateValue, List.append_assoc] at h <;>
    obtain ⟨htag, h⟩ := prefixFree_fpU8.head h
  case i32.i32 =>
    obtain ⟨e₁, h⟩ := prefixFree_fpI32.head h
    refine ⟨?_, h⟩
    subst e₁
    rfl
  case i64.i64 =>
    obtain ⟨e₁, h⟩ := prefixFree_fpI64.head h
    refine ⟨?_, h⟩
    subst e₁
    rfl
  case f32.f32 =>
    obtain ⟨e₁, h⟩ := prefixFree_fpU32.head h
    refine ⟨?_, h⟩
    subst e₁
    rfl
  case f64.f64 =>
    obtain ⟨e₁, h⟩ := prefixFree_fpU64.head h
    refine ⟨?_, h⟩
    subst e₁
    rfl
  all_goals exact absurd htag (by decide)

/-! Records and lists. -/

lemma prefixFree_fpBodyRefSummary : PrefixFree fpBodyRefSummary := by
  rintro ⟨⟩ ⟨⟩ - - s t h
  simp only [fpBodyRefSummary, List.append_assoc] at h
  obtain ⟨e₁, h⟩ := prefixFree_fpU64.head h
  obtain ⟨e₂, h⟩ := prefixFree_fpU64.head h
  obtain ⟨e₃, h⟩ := prefixFree_fpBodyKind.head h
  obtain ⟨e₄, h⟩ := prefixFree_fpU16.head h
  obtain ⟨e₅, h⟩ := prefixFree_fpChecksumKind.head h
  obtain ⟨e₆, h⟩ := prefixFree_fpU32.head h
  refine ⟨?_, h⟩
  subst e₁ e₂ e₃ e₄ e₅ e₆
  rfl

lemma prefixFree_fpOptionBodyRefSummary : PrefixFree fpOptionBodyRefSummary := by
  have hoption := PrefixFreeOn.option (show (1 : UInt8) ≠ 0 by decide) prefixFree_fpBodyRefSummary
  intro a b _ _ s t h
  cases a <;> cases b <;> exact hoption (fun _ _ => trivial) (fun _ _ => trivial) h

/-- A list behind its length, which fits 32 bits. -/
lemma fpList_head {α : Type} {P : α → Prop} {enc : α → List UInt8} (henc : PrefixFreeOn P enc)
    {as bs : List α} (ha : as.length < 2 ^ 32) (hb : bs.length < 2 ^ 32) (hPa : ∀ a ∈ as, P a)
    (hPb : ∀ b ∈ bs, P b) {s t : List UInt8}
    (h : fpLen as ++ (as.flatMap enc ++ s) = fpLen bs ++ (bs.flatMap enc ++ t)) :
    as = bs ∧ s = t := by
  have hcount : PrefixFreeOn (· < 2 ^ 32) (fun n : ℕ => fpU32 n.toUInt32) := by
    intro m n hm hn s t h
    obtain ⟨hword, hrest⟩ := prefixFree_fpU32.head h
    have hnat := congrArg UInt32.toNat hword
    simp only [Nat.toUInt32_eq, UInt32.toNat_ofNat'] at hnat
    exact ⟨by omega, hrest⟩
  rw [← List.append_assoc, ← List.append_assoc] at h
  exact hcount.counted henc ⟨ha, hPa⟩ ⟨hb, hPb⟩ h

lemma prefixFree_fpColumnChunkSummary : PrefixFree fpColumnChunkSummary := by
  rintro ⟨⟩ ⟨⟩ - - s t h
  simp only [fpColumnChunkSummary, List.append_assoc] at h
  obtain ⟨e₁, h⟩ := prefixFree_fpU32.head h
  obtain ⟨e₂, h⟩ := prefixFree_fpU32.head h
  obtain ⟨e₃, h⟩ := prefixFree_fpText.head h
  obtain ⟨e₄, h⟩ := prefixFree_fpColumnPhysicalType.head h
  obtain ⟨e₅, h⟩ := prefixFree_fpColumnLogicalKind.head h
  obtain ⟨e₆, h⟩ := prefixFree_fpOptionU32.head h
  obtain ⟨e₇, h⟩ := prefixFree_fpChunkCodec.head h
  obtain ⟨e₈, h⟩ := prefixFree_fpU64.head h
  obtain ⟨e₉, h⟩ := prefixFree_fpU64.head h
  obtain ⟨e₁₀, h⟩ := prefixFree_fpU64.head h
  obtain ⟨e₁₁, h⟩ := prefixFree_fpBodyRefSummary.head h
  obtain ⟨e₁₂, h⟩ := prefixFree_fpOptionBodyRefSummary.head h
  refine ⟨?_, h⟩
  subst e₁ e₂ e₃ e₄ e₅ e₆ e₇ e₈ e₉ e₁₀ e₁₁ e₁₂
  rfl

lemma prefixFree_fpColumnStatsSummary : PrefixFree fpColumnStatsSummary := by
  rintro ⟨⟩ ⟨⟩ - - s t h
  simp only [fpColumnStatsSummary, List.append_assoc] at h
  obtain ⟨e₁, h⟩ := prefixFree_fpU32.head h
  obtain ⟨e₂, h⟩ := prefixFree_fpU32.head h
  obtain ⟨e₃, h⟩ := prefixFree_fpText.head h
  obtain ⟨e₄, h⟩ := prefixFree_fpColumnPhysicalType.head h
  obtain ⟨e₅, h⟩ := prefixFree_fpU32.head h
  obtain ⟨e₆, h⟩ := prefixFree_fpPredicateValue.head h
  obtain ⟨e₇, h⟩ := prefixFree_fpPredicateValue.head h
  refine ⟨?_, h⟩
  subst e₁ e₂ e₃ e₄ e₅ e₆ e₇
  rfl

/-- The lists of a row-group summary are counted in 32 bits. -/
structure ColumnBundleRowGroupSummary.ListsFit (rowGroup : ColumnBundleRowGroupSummary) : Prop where
  chunks : rowGroup.chunks.length < 2 ^ 32
  stats : rowGroup.stats.length < 2 ^ 32

lemma prefixFreeOn_fpRowGroupSummary :
    PrefixFreeOn ColumnBundleRowGroupSummary.ListsFit fpRowGroupSummary := by
  rintro ⟨⟩ ⟨⟩ ha hb s t h
  simp only [fpRowGroupSummary, List.append_assoc] at h
  obtain ⟨e₁, h⟩ := prefixFree_fpU32.head h
  obtain ⟨e₂, h⟩ := prefixFree_fpU64.head h
  obtain ⟨e₃, h⟩ := prefixFree_fpU64.head h
  obtain ⟨e₄, h⟩ := prefixFree_fpOptionBodyRefSummary.head h
  obtain ⟨e₅, h⟩ := prefixFree_fpOptionBodyRefSummary.head h
  obtain ⟨e₆, h⟩ := fpList_head prefixFree_fpColumnChunkSummary ha.chunks hb.chunks
    (fun _ _ => trivial) (fun _ _ => trivial) h
  obtain ⟨e₇, h⟩ := fpList_head prefixFree_fpColumnStatsSummary ha.stats hb.stats
    (fun _ _ => trivial) (fun _ _ => trivial) h
  refine ⟨?_, h⟩
  subst e₁ e₂ e₃ e₄ e₅ e₆ e₇
  rfl

lemma prefixFree_fpColumn : PrefixFree fpColumn := by
  rintro ⟨⟩ ⟨⟩ - - s t h
  simp only [fpColumn, List.append_assoc] at h
  obtain ⟨e₁, h⟩ := prefixFree_fpU32.head h
  obtain ⟨e₂, h⟩ := prefixFree_fpText.head h
  obtain ⟨e₃, h⟩ := prefixFree_fpColumnPhysicalType.head h
  obtain ⟨e₄, h⟩ := prefixFree_fpColumnLogicalKind.head h
  obtain ⟨e₅, h⟩ := prefixFree_fpOptionU32.head h
  obtain ⟨e₆, h⟩ := prefixFree_fpI32.head h
  obtain ⟨e₇, h⟩ := prefixFree_fpBool.head h
  refine ⟨?_, h⟩
  subst e₁ e₂ e₃ e₄ e₅ e₆ e₇
  rfl

lemma prefixFree_fpDictionary : PrefixFree fpDictionary := by
  rintro ⟨⟩ ⟨⟩ - - s t h
  simp only [fpDictionary, List.append_assoc] at h
  obtain ⟨e₁, h⟩ := prefixFree_fpU32.head h
  obtain ⟨e₂, h⟩ := prefixFree_fpText.head h
  obtain ⟨e₃, h⟩ := prefixFree_fpColumnPhysicalType.head h
  obtain ⟨e₄, h⟩ := prefixFree_fpDictionaryValueKind.head h
  obtain ⟨e₅, h⟩ := prefixFree_fpU32.head h
  refine ⟨?_, h⟩
  subst e₁ e₂ e₃ e₄ e₅
  rfl

lemma prefixFree_fpOrderingKey : PrefixFree fpOrderingKey := by
  rintro ⟨⟩ ⟨⟩ - - s t h
  simp only [fpOrderingKey, List.append_assoc] at h
  obtain ⟨e₁, h⟩ := prefixFree_fpU32.head h
  obtain ⟨e₂, h⟩ := prefixFree_fpText.head h
  obtain ⟨e₃, h⟩ := prefixFree_fpOrderingDirection.head h
  obtain ⟨e₄, h⟩ := prefixFree_fpNullOrder.head h
  refine ⟨?_, h⟩
  subst e₁ e₂ e₃ e₄
  rfl

/-! ### The streams determine what they describe -/

/-- What the fingerprint of selected chunks covers of a row group. -/
structure SelectedRowGroup where
  rowGroupId : UInt32
  baseRow : UInt64
  rowCount : UInt64
  chunks : List ColumnBundleColumnChunkSummary

/-- The part of a row group that the fingerprint of selected chunks shows. -/
def ColumnBundleRowGroupSummary.selected (rowGroup : ColumnBundleRowGroupSummary) :
    SelectedRowGroup where
  rowGroupId := rowGroup.rowGroupId
  baseRow := rowGroup.baseRow
  rowCount := rowGroup.rowCount
  chunks := rowGroup.chunks

/-- The stream of a row group in the fingerprint of selected chunks, from what it covers. -/
def SelectedRowGroup.stream (rowGroup : SelectedRowGroup) : List UInt8 :=
  fpU32 rowGroup.rowGroupId ++ fpU64 rowGroup.baseRow ++ fpU64 rowGroup.rowCount ++
    fpLen rowGroup.chunks ++ rowGroup.chunks.flatMap fpColumnChunkSummary

lemma prefixFreeOn_selectedRowGroup :
    PrefixFreeOn (fun g : SelectedRowGroup => g.chunks.length < 2 ^ 32)
      SelectedRowGroup.stream := by
  rintro ⟨⟩ ⟨⟩ ha hb s t h
  simp only [SelectedRowGroup.stream, List.append_assoc] at h
  obtain ⟨e₁, h⟩ := prefixFree_fpU32.head h
  obtain ⟨e₂, h⟩ := prefixFree_fpU64.head h
  obtain ⟨e₃, h⟩ := prefixFree_fpU64.head h
  obtain ⟨e₄, h⟩ := fpList_head prefixFree_fpColumnChunkSummary ha hb
    (fun _ _ => trivial) (fun _ _ => trivial) h
  refine ⟨?_, h⟩
  subst e₁ e₂ e₃ e₄
  rfl

/-- The lists of a snapshot are counted in 32 bits. -/
structure ColumnBundleMetadata.ListsFit (metadata : ColumnBundleMetadata) : Prop where
  columns : metadata.columns.length < 2 ^ 32
  dictionaries : metadata.dictionaries.length < 2 ^ 32
  orderingKeys : metadata.orderingKeys.length < 2 ^ 32

/-- The part of the metadata that the schema fingerprint covers. -/
structure SchemaPartEq (m m' : ColumnBundleMetadata) : Prop where
  formatName : m.formatName = m'.formatName
  appendable : m.appendable = m'.appendable
  rowCount : m.rowCount = m'.rowCount
  rowGroupCount : m.rowGroupCount = m'.rowGroupCount
  columnChunkCount : m.columnChunkCount = m'.columnChunkCount
  columns : m.columns = m'.columns

section Streams

variable {m m' : ColumnBundleMetadata} {rowGroups rowGroups' : List ColumnBundleRowGroupSummary}

lemma schemaPartEq_of_stream (hm : m.ListsFit) (hm' : m'.ListsFit)
    (h : schemaStream m = schemaStream m') : SchemaPartEq m m' := by
  simp only [schemaStream, List.append_assoc] at h
  have h := List.append_cancel_left h
  obtain ⟨hname, h⟩ := prefixFree_fpText.head h
  obtain ⟨happend, h⟩ := prefixFree_fpBool.head h
  obtain ⟨hrows, h⟩ := prefixFree_fpU64.head h
  obtain ⟨hgroups, h⟩ := prefixFree_fpU32.head h
  obtain ⟨hchunks, h⟩ := prefixFree_fpU32.head h
  rw [← List.append_nil (List.flatMap _ m.columns), ← List.append_nil (List.flatMap _ m'.columns)]
    at h
  obtain ⟨hcolumns, -⟩ := fpList_head prefixFree_fpColumn hm.columns hm'.columns
    (fun _ _ => trivial) (fun _ _ => trivial) h
  exact ⟨hname, happend, hrows, hgroups, hchunks, hcolumns⟩

/-- A list behind a fixed title and its length. -/
lemma eq_of_titled {α : Type} {P : α → Prop} {enc : α → List UInt8} {title : List UInt8}
    {as bs : List α} (henc : PrefixFreeOn P enc) (ha : as.length < 2 ^ 32)
    (hb : bs.length < 2 ^ 32) (hPa : ∀ a ∈ as, P a) (hPb : ∀ b ∈ bs, P b)
    (h : title ++ fpLen as ++ as.flatMap enc = title ++ fpLen bs ++ bs.flatMap enc) : as = bs := by
  rw [List.append_assoc, List.append_assoc] at h
  have h := List.append_cancel_left h
  rw [← List.append_nil (List.flatMap enc as), ← List.append_nil (List.flatMap enc bs)] at h
  exact (fpList_head henc ha hb hPa hPb h).1

/-- A fingerprint input determines the description: each of the five streams is an injective
encoding of the part of the metadata that it covers. -/
theorem fingerprint_streams_injective (hm : m.ListsFit) (hm' : m'.ListsFit)
    (hlen : rowGroups.length < 2 ^ 32) (hlen' : rowGroups'.length < 2 ^ 32)
    (hgroups : ∀ g ∈ rowGroups, g.ListsFit) (hgroups' : ∀ g ∈ rowGroups', g.ListsFit) :
    (schemaStream m = schemaStream m' → SchemaPartEq m m') ∧
    (dictionariesStream m = dictionariesStream m' → m.dictionaries = m'.dictionaries) ∧
    (orderingStream m = orderingStream m' → m.orderingKeys = m'.orderingKeys) ∧
    (rowGroupsStream rowGroups = rowGroupsStream rowGroups' → rowGroups = rowGroups') ∧
    (selectedChunksStream rowGroups = selectedChunksStream rowGroups' →
      rowGroups.map ColumnBundleRowGroupSummary.selected =
        rowGroups'.map ColumnBundleRowGroupSummary.selected) := by
  refine ⟨schemaPartEq_of_stream hm hm', fun h => ?_, fun h => ?_, fun h => ?_, fun h => ?_⟩
  · exact eq_of_titled prefixFree_fpDictionary hm.dictionaries hm'.dictionaries
      (fun _ _ => trivial) (fun _ _ => trivial) h
  · exact eq_of_titled prefixFree_fpOrderingKey hm.orderingKeys hm'.orderingKeys
      (fun _ _ => trivial) (fun _ _ => trivial) h
  · exact eq_of_titled prefixFreeOn_fpRowGroupSummary hlen hlen' hgroups hgroups' h
  · have hstream : ∀ gs : List ColumnBundleRowGroupSummary, selectedChunksStream gs =
        fpStr "selected_chunks" ++ fpLen (gs.map ColumnBundleRowGroupSummary.selected) ++
          (gs.map ColumnBundleRowGroupSummary.selected).flatMap SelectedRowGroup.stream := by
      intro gs
      rw [selectedChunksStream, fpLen, fpLen, List.length_map, List.flatMap_map]
      rfl
    rw [hstream, hstream] at h
    refine eq_of_titled prefixFreeOn_selectedRowGroup (by simpa using hlen) (by simpa using hlen')
      ?_ ?_ h
    · intro g hg
      obtain ⟨g', hg', rfl⟩ := List.mem_map.mp hg
      exact (hgroups g' hg').chunks
    · intro g hg
      obtain ⟨g', hg', rfl⟩ := List.mem_map.mp hg
      exact (hgroups' g' hg').chunks

end Streams

/-- The metadata of an empty snapshot with two plain columns of the given names. -/
def twoColumns (first second : Text) : ColumnBundleMetadata where
  formatName := ⟨"OCB", by decide⟩
  appendable := false
  rootGeneration := 0
  previousRootGeneration := none
  rowCount := 0
  rowGroupCount := 0
  columnChunkCount := 0
  columns := [⟨0, first, .i64, .plain, none, 0, false⟩, ⟨1, second, .i64, .plain, none, 0, false⟩]
  dictionaries := []
  orderingKeys := []

lemma listsFit_twoColumns (first second : Text) : (twoColumns first second).ListsFit where
  columns := by rw [twoColumns, List.length_cons, List.length_cons, List.length_nil]; omega
  dictionaries := by rw [twoColumns, List.length_nil]; omega
  orderingKeys := by rw [twoColumns, List.length_nil]; omega

/-- Two schemas whose column names spell the same text have different streams. -/
theorem schemaStream_twoColumns_ne :
    schemaStream (twoColumns ⟨"ab", by decide⟩ ⟨"c", by decide⟩) ≠
      schemaStream (twoColumns ⟨"a", by decide⟩ ⟨"bc", by decide⟩) := by
  intro h
  have hpart := (fingerprint_streams_injective (listsFit_twoColumns _ _) (listsFit_twoColumns _ _)
    (show ([] : List ColumnBundleRowGroupSummary).length < 2 ^ 32 by decide)
    (show ([] : List ColumnBundleRowGroupSummary).length < 2 ^ 32 by decide)
    (fun _ hg => absurd hg List.not_mem_nil) (fun _ hg => absurd hg List.not_mem_nil)).1 h
  exact absurd hpart.columns (by decide)

end ArcadiaTio.Ocb
