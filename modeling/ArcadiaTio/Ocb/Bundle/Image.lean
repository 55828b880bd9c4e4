import ArcadiaTio.Ocb.Bundle.Execution
import ArcadiaTio.Ocb.Bundle.Planning
import ArcadiaTio.Ocb.Format.Metering
import ArcadiaTio.Ocb.CompactL2.Record
import Mathlib.Algebra.Order.BigOperators.Group.List

/-!
# Tables as files

A table of typed columns is laid out as a V1 file with one row group: the page, the string table,
the schema, the row-group index, the root, and one uncompressed chunk object for each column.  The
file opens, and reading its row group gives the columns back.
-/

namespace ArcadiaTio.Ocb

open ArcadiaTio.Lib

/-! ### Values in bytes -/

namespace PrimitiveColumnValues

/-- The payload of a chunk with the given values. -/
def bytes : PrimitiveColumnValues → List UInt8
  | i32 values => values.flatMap i32ToLeBytes
  | i64 values => values.flatMap i64ToLeBytes
  | f32 bits => bits.flatMap u32ToLeBytes
  | f64 bits => bits.flatMap u64ToLeBytes
  | fixedBinary _ bytes => bytes

/-- The values are those of `n` rows. -/
def HoldsRows (n : ℕ) : PrimitiveColumnValues → Prop
  | i32 values => values.length = n
  | i64 values => values.length = n
  | f32 bits => bits.length = n
  | f64 bits => bits.length = n
  | fixedBinary width bytes => width ≠ 0 ∧ bytes.length = n * width.toNat

/-- The bytes of one row. -/
def byteWidth : PrimitiveColumnValues → ℕ
  | i32 _ | f32 _ => 4
  | i64 _ | f64 _ => 8
  | fixedBinary width _ => width.toNat

lemma length_bytes {values : PrimitiveColumnValues} {n : ℕ} (h : values.HoldsRows n) :
    values.bytes.length = n * values.byteWidth := by
  cases values with
  | i32 values =>
    have hlength : values.length = n := h
    rw [bytes, length_flatMap_of_length fun a _ => length_i32ToLeBytes a, hlength, byteWidth]
  | i64 values =>
    have hlength : values.length = n := h
    rw [bytes, length_flatMap_of_length fun a _ => length_i64ToLeBytes a, hlength, byteWidth]
  | f32 bits =>
    have hlength : bits.length = n := h
    rw [bytes, length_flatMap_of_length fun a _ => length_u32ToLeBytes a, hlength, byteWidth]
  | f64 bits =>
    have hlength : bits.length = n := h
    rw [bytes, length_flatMap_of_length fun a _ => length_u64ToLeBytes a, hlength, byteWidth]
  | fixedBinary width bytes => exact h.2

end PrimitiveColumnValues

/-- Values of one width, written one after the other, are decoded one after the other. -/
lemma decodePrimitiveChunks_flatMap {α : Type} {encode : α → List UInt8}
    {decode : List UInt8 → α} {width : ℕ} (hwidth : 0 < width)
    (hlength : ∀ a, (encode a).length = width) (hdecode : ∀ a, decode (encode a) = a)
    (l : List α) : decodePrimitiveChunks (l.flatMap encode) width decode = l := by
  have hflat : (l.flatMap encode).length = l.length * width :=
    length_flatMap_of_length fun a _ => hlength a
  refine List.ext_getElem ?_ fun i hi hl => ?_
  · rw [decodePrimitiveChunks, List.length_map, length_chunksExact, hflat,
      Nat.mul_div_cancel _ hwidth]
  · have hdrop : ((l.flatMap encode).drop (i * width)).take width = encode l[i] := by
      have hsplit : l.flatMap encode = (l.take i).flatMap encode ++
          (encode l[i] ++ (l.drop (i + 1)).flatMap encode) := by
        conv_lhs => rw [← List.take_append_drop i l, List.drop_eq_getElem_cons hl]
        rw [List.flatMap_append, List.flatMap_cons]
      have hbefore : ((l.take i).flatMap encode).length = i * width := by
        rw [length_flatMap_of_length fun a _ => hlength a, List.length_take, Nat.min_eq_left (by omega)]
      rw [hsplit, List.drop_left' hbefore, List.take_left' (hlength _)]
    simp only [decodePrimitiveChunks, chunksExact, List.getElem_map, List.getElem_range, hdrop,
      hdecode]

lemma decodeAlignedChunks_flatMap {α : Type} {encode : α → List UInt8}
    {decode : List UInt8 → α} {width : ℕ} (hwidth : 0 < width)
    (hlength : ∀ a, (encode a).length = width) (hdecode : ∀ a, decode (encode a) = a)
    (l : List α) (message : String) :
    decodeAlignedChunks (l.flatMap encode) width decode message = .ok l := by
  rw [decodeAlignedChunks, length_flatMap_of_length fun a _ => hlength a, failIf_neg (by simp), ok_bind,
    decodePrimitiveChunks_flatMap hwidth hlength hdecode]
  rfl

namespace PrimitiveColumnValues

/-- A payload is decoded into the values that it was written from. -/
theorem decode_bytes {values : PrimitiveColumnValues} {n : ℕ} (h : values.HoldsRows n) :
    decodePrimitiveValues values.physicalType values.bytes = .ok values := by
  cases values with
  | i32 values =>
    rw [physicalType, bytes, decodePrimitiveValues, decodeAlignedChunks_flatMap (by decide)
      length_i32ToLeBytes i32FromLeBytes_toLeBytes]
    rfl
  | i64 values =>
    rw [physicalType, bytes, decodePrimitiveValues, decodeAlignedChunks_flatMap (by decide)
      length_i64ToLeBytes i64FromLeBytes_toLeBytes]
    rfl
  | f32 bits =>
    have hbits : decodeAlignedChunks (bits.flatMap u32ToLeBytes) 4 f32FromLeBytes
        "OCB f32 payload length is not aligned" = .ok bits :=
      decodeAlignedChunks_flatMap (by decide) length_u32ToLeBytes u32FromLeBytes_toLeBytes _ _
    rw [physicalType, bytes, decodePrimitiveValues, hbits]
    rfl
  | f64 bits =>
    have hbits : decodeAlignedChunks (bits.flatMap u64ToLeBytes) 8 f64FromLeBytes
        "OCB f64 payload length is not aligned" = .ok bits :=
      decodeAlignedChunks_flatMap (by decide) length_u64ToLeBytes u64FromLeBytes_toLeBytes _ _
    rw [physicalType, bytes, decodePrimitiveValues, hbits]
    rfl
  | fixedBinary width bytes =>
    obtain ⟨hwidth, hlength⟩ := h
    rw [physicalType, PrimitiveColumnValues.bytes, decodePrimitiveValues, failIf_neg hwidth,
      ok_bind, hlength, failIf_neg (by simp)]
    rfl

end PrimitiveColumnValues

/-! ### Payloads -/

/-- The payload of an object without compression is its values. -/
lemma decodePayloadWithLimits_plain {o : OcbColumnChunkObjectV1} {zstd : ZstdCodec} {limit : ℕ}
    (hcodec : o.codec = .none) (hvalues : checkPrimitiveValueBytes o.physicalType o.rowCount.toNat
      o.uncompressedBytes.toNat = .ok ()) (hpayload : o.payload.length = o.uncompressedBytes.toNat)
    (hlimit : o.payload.length ≤ limit) :
    o.decodePayloadWithLimits zstd limit limit = .ok o.payload := by
  rw [OcbColumnChunkObjectV1.decodePayloadWithLimits, OcbColumnChunkObjectV1.uncompressedValueBytes,
    hvalues, ok_bind, pure_eq_ok, ok_bind, hcodec]
  dsimp only
  rw [failIf_neg (not_not.mpr hpayload), ok_bind, failIf_neg (by omega), ok_bind,
    failIf_neg (by omega), ok_bind]
  rfl

/-! ### Checks that accept -/

/-- The columns of a schema with distinct ids and distinct names are all accepted. -/
lemma validateColumns_eq_ok {strings : List String}
    {columns seen : ColumnsById} {names seenNames : List String}
    (hids : ((seen ++ columns).map OcbColumnDescV1.columnId).Nodup)
    (hnames : columns.map (fun c => strings[c.nameStringId.toNat]?) = names.map some)
    (hnodup : names.Nodup) (hseen : ∀ name ∈ names, name ∉ seenNames)
    (hchecked : ∀ c ∈ columns, IsOk c.valueByteWidth ∧ c.logicalKind = .plain) :
    validateColumns strings columns seen seenNames = .ok (seen ++ columns) := by
  induction columns generalizing seen names seenNames with
  | nil => rw [validateColumns, List.append_nil]
  | cons column rest ih =>
    obtain ⟨name, names, rfl⟩ : ∃ name names', names = name :: names' := by
      cases names with
      | nil => cases hnames
      | cons name names => exact ⟨name, names, rfl⟩
    rw [List.map_cons, List.map_cons, List.cons.injEq] at hnames
    rw [List.nodup_cons] at hnodup
    obtain ⟨⟨width, hwidth⟩, hplain⟩ := hchecked column (by simp)
    have hfresh : ColumnsById.get seen column.columnId = none := by
      rw [ColumnsById.get_eq_none]
      rw [List.map_append, List.map_cons] at hids
      exact fun hmem => (List.nodup_append.mp hids).2.2 _ hmem _ (by simp) rfl
    have hnotcode : column.logicalKind ≠ .dictionaryCode := by
      rw [hplain]
      decide
    rw [validateColumns, failIf_neg (by simp [hfresh]), ok_bind, hnames.1, okOr_some, ok_bind,
      failIf_neg (hseen name (by simp)), ok_bind, hwidth, ok_bind,
      failIf_neg fun hcode => hnotcode hcode.1, ok_bind,
      failIf_neg fun hcode => hnotcode hcode.1, ok_bind, ih (by simpa using hids) hnames.2 hnodup.2
        (fun n hn => ?_) fun c hc => hchecked c (by simp [hc])]
    · simp
    · rw [List.mem_cons, not_or]
      refine ⟨?_, hseen n (by simp [hn])⟩
      rintro rfl
      exact hnodup.1 hn

/-- Chunks of distinct columns that each pass their check are all accepted. -/
lemma validateChunks_eq_ok {check : OcbColumnChunkDescV1 → Result Unit}
    {chunks : List OcbColumnChunkDescV1} {seen : List UInt32}
    (hcheck : ∀ chunk ∈ chunks, check chunk = .ok ())
    (hnodup : (seen ++ chunks.map OcbColumnChunkDescV1.columnId).Nodup) :
    validateChunks check chunks seen =
      .ok (seen ++ chunks.map OcbColumnChunkDescV1.columnId) := by
  induction chunks generalizing seen with
  | nil => rw [validateChunks, List.map_nil, List.append_nil]
  | cons chunk rest ih =>
    have hfresh : chunk.columnId ∉ seen := fun hmem =>
      (List.nodup_append.mp hnodup).2.2 _ hmem _ (by simp) rfl
    rw [validateChunks, hcheck chunk (by simp), ok_bind, failIf_neg hfresh, ok_bind,
      ih (fun c hc => hcheck c (by simp [hc])) (by simpa using hnodup)]
    simp

/-! ### The layout -/

/-- A column of a table. -/
structure TableColumn where
  name : Text
  values : PrimitiveColumnValues

/-- A table of some rows. -/
structure TableImage where
  rowCount : ℕ
  columns : List TableColumn

namespace TableImage

variable (t : TableImage)

/-- The table is small enough for every limit of the default policy. -/
structure Small : Prop where
  columns : t.columns.length ≤ 64
  rows : t.rowCount < 2 ^ 32
  names : ∀ c ∈ t.columns, c.name.value.toUTF8.size ≤ 64
  nodup : (t.columns.map TableColumn.name).Nodup
  payloads : ∀ c ∈ t.columns, c.values.bytes.length ≤ 2 ^ 20
  holds : ∀ c ∈ t.columns, c.values.HoldsRows t.rowCount

/-- The names of the columns. -/
def strings : List String := t.columns.map fun c => c.name.value

/-- The lengths of the parts of the file. -/
def lens : List ℕ :=
  [4096, 24 + (t.strings.flatMap writeStringU32).length, 56 + 32 * t.columns.length,
    156 + 96 * t.columns.length, 220] ++ t.columns.map fun c => 48 + c.values.bytes.length

/-- A reference to a part of the file. -/
def reference (i : ℕ) (kind : OcbBodyKindV1) : OcbBodyRefV2 :=
  .unchecked (t.lens.take i).sum.toUInt64 (t.lens.getD i 0).toUInt64 kind

/-- The names of the columns. -/
def stringTable : OcbStringTableV1 := ⟨1, t.strings, 0⟩

/-- The descriptor of a column. -/
def columnDesc (i : ℕ) (c : TableColumn) : OcbColumnDescV1 where
  columnId := i.toUInt32
  nameStringId := i.toUInt32
  physicalType := c.values.physicalType.ocbPhysicalType
  logicalKind := .plain
  flags := 0
  dictionaryId := ocbNullU32
  scale := 0
  nullability := .nonNull
  reserved0 := 0
  fixedBinaryWidth := c.values.physicalType.fixedBinaryWidth

/-- The schema of the table. -/
def schema : OcbSchemaV1 := ⟨1, t.reference 1 .stringTable, t.columns.mapIdx columnDesc, 0⟩

/-- The descriptor of the chunk of a column. -/
def chunkDesc (i : ℕ) (c : TableColumn) : OcbColumnChunkDescV1 where
  rowGroupId := 0
  columnId := i.toUInt32
  physicalType := c.values.physicalType.ocbPhysicalType
  codec := .none
  flags := 0
  valueRef := t.reference (5 + i) .columnChunk
  validityRef := .null
  rowCount := t.rowCount.toUInt64
  uncompressedBytes := c.values.bytes.length.toUInt64

/-- The object of the chunk of a column. -/
def chunkObject (i : ℕ) (c : TableColumn) : OcbColumnChunkObjectV1 where
  version := 1
  physicalType := c.values.physicalType.ocbPhysicalType
  codec := .none
  flags := 0
  rowGroupId := 0
  columnId := i.toUInt32
  rowCount := t.rowCount.toUInt64
  uncompressedBytes := c.values.bytes.length.toUInt64
  payload := c.values.bytes
  crc32c := 0

/-- The one row group, with all rows and without statistics. -/
def rowGroup : OcbRowGroupDescV1 where
  rowGroupId := 0
  flags := 0
  baseRow := 0
  rowCount := t.rowCount.toUInt64
  chunkDescBegin := 0
  chunkDescCount := t.columns.length.toUInt32
  statBegin := 0
  statCount := 0
  firstKeyTupleRef := .null
  lastKeyTupleRef := .null

/-- The index of the row group and its chunks. -/
def rowGroupIndex : OcbRowGroupIndexV1 :=
  ⟨1, 0, [t.rowGroup], t.columns.mapIdx t.chunkDesc, [], 0⟩

/-- The root, without dictionaries and ordering proof. -/
def root : OcbRootV1 where
  version := 1
  flags := 0
  rowCount := t.rowCount.toUInt64
  columnCount := t.columns.length.toUInt32
  rowGroupCount := 1
  dictionaryCount := 0
  schemaRef := t.reference 2 .schema
  dictionaryIndexRef := .null
  rowGroupIndexRef := t.reference 3 .rowGroupIndex
  orderingProofRef := .null
  debugJsonRef := .null
  createdUnixNanos := 0
  contentFlags := 0
  crc32c := 0

/-- The page, which names the root. -/
def page : OcbBootstrapPageV1 where
  formatMajor := 1
  formatMinor := 0
  flags := 0
  pageSize := 4096
  fileUuid := List.replicate 16 0
  rootRef := t.reference 4 .root
  crc32c := 0

/-- The parts of the file. -/
def parts : List (List UInt8) :=
  [sealBytes t.page.fieldBytes, sealBytes t.stringTable.fieldBytes, sealBytes t.schema.fieldBytes,
    sealBytes t.rowGroupIndex.fieldBytes, sealBytes t.root.fieldBytes] ++
  t.columns.mapIdx fun i c => sealBytes (t.chunkObject i c).fieldBytes

lemma length_sealBytes_chunkObject (i : ℕ) (c : TableColumn) :
    (sealBytes (t.chunkObject i c).fieldBytes).length = 48 + c.values.bytes.length := by
  rw [OcbColumnChunkObjectV1.fieldBytes, length_sealBytes_objectBytes ocbColumnChunkHeader rfl]
  simp only [chunkObject, List.length_append, writeU16_length, writeU32_length, writeU64_length]
  omega

lemma length_sealBytes_stringTable : (sealBytes t.stringTable.fieldBytes).length =
    24 + (t.strings.flatMap writeStringU32).length := by
  rw [OcbStringTableV1.fieldBytes, length_sealBytes_objectBytes ocbStringTableHeader rfl]
  simp only [stringTable, List.length_append, writeU32_length]
  omega

lemma length_sealBytes_schema :
    (sealBytes t.schema.fieldBytes).length = 56 + 32 * t.columns.length := by
  have hcolumns : ((t.columns.mapIdx columnDesc).flatMap OcbColumnDescV1.write).length =
      t.columns.length * 32 := by
    rw [length_flatMap_of_length fun c _ => c.length_write, List.length_mapIdx, OcbColumnDescV1.len]
  rw [OcbSchemaV1.fieldBytes, length_sealBytes_objectBytes ocbSchemaHeader rfl]
  simp only [schema, List.length_append, writeU32_length, OcbBodyRefV2.write_length, hcolumns]
  omega

lemma length_sealBytes_rowGroupIndex :
    (sealBytes t.rowGroupIndex.fieldBytes).length = 156 + 96 * t.columns.length := by
  have hchunks : ((t.columns.mapIdx t.chunkDesc).flatMap OcbColumnChunkDescV1.write).length =
      t.columns.length * 96 := by
    rw [length_flatMap_of_length fun c _ => c.length_write, List.length_mapIdx,
      OcbColumnChunkDescV1.len]
  rw [OcbRowGroupIndexV1.fieldBytes, length_sealBytes_objectBytes ocbRowGroupIndexHeader rfl]
  simp only [rowGroupIndex, List.length_append, writeU32_length, List.flatMap_cons,
    List.flatMap_nil, List.length_nil, OcbRowGroupDescV1.length_write, OcbRowGroupDescV1.len,
    hchunks]
  omega

lemma parts_lengths : t.parts.map List.length = t.lens := by
  have hchunks : (t.columns.mapIdx fun i c => sealBytes (t.chunkObject i c).fieldBytes).map
      List.length = t.columns.map fun c => 48 + c.values.bytes.length := by
    refine List.ext_getElem (by simp) fun i hi _ => ?_
    simp only [List.getElem_map, List.getElem_mapIdx, length_sealBytes_chunkObject]
  rw [parts, List.map_append, hchunks, List.map_cons, List.map_cons, List.map_cons, List.map_cons,
    List.map_cons, List.map_nil, t.page.length_sealBytes_fieldBytes rfl,
    t.length_sealBytes_stringTable, t.length_sealBytes_schema, t.length_sealBytes_rowGroupIndex,
    t.root.length_sealBytes_fieldBytes]
  rfl

/-! ### Sizes -/

variable {t}

lemma length_strings_le (h : t.Small) :
    (t.strings.flatMap writeStringU32).length ≤ 64 * 68 := by
  have hsizes : (t.strings.map fun s => s.toUTF8.size).sum ≤ t.strings.length * 64 := by
    have := List.sum_le_card_nsmul (t.strings.map fun s => s.toUTF8.size) 64 fun x hx => by
      obtain ⟨s, hs, rfl⟩ := List.mem_map.mp hx
      obtain ⟨c, hc, rfl⟩ := List.mem_map.mp hs
      exact h.names c hc
    simpa using this
  have hcount : t.strings.length = t.columns.length := List.length_map _
  have hcolumns := h.columns
  rw [length_flatMap_writeStringU32]
  omega

/-- Every part has less than a gigabyte. -/
lemma lens_le (h : t.Small) : ∀ n ∈ t.lens, n ≤ 2 ^ 21 := by
  have hstrings := length_strings_le h
  have hcolumns := h.columns
  intro n hn
  rw [lens, List.mem_append] at hn
  rcases hn with hn | hn
  · simp only [List.mem_cons, List.not_mem_nil, or_false] at hn
    omega
  · obtain ⟨c, hc, rfl⟩ := List.mem_map.mp hn
    have := h.payloads c hc
    omega

lemma length_lens : t.lens.length = 5 + t.columns.length := by
  simp only [lens, List.length_append, List.length_cons, List.length_nil, List.length_map]

lemma sum_lens_le (h : t.Small) : t.lens.sum ≤ 2 ^ 28 := by
  have hsum := List.sum_le_card_nsmul t.lens (2 ^ 21) (lens_le h)
  have hcolumns := h.columns
  simp only [length_lens, nsmul_eq_mul, Nat.cast_id] at hsum
  omega

lemma length_flatten_parts : t.parts.flatten.length = t.lens.sum := by
  rw [List.length_flatten, parts_lengths]

lemma toNat_toUInt64 {n : ℕ} (h : n < 2 ^ 64) : n.toUInt64.toNat = n := by
  rw [Nat.toUInt64_eq, UInt64.toNat_ofNat', Nat.mod_eq_of_lt h]

lemma toNat_toUInt32 {n : ℕ} (h : n < 2 ^ 32) : n.toUInt32.toNat = n := by
  rw [Nat.toUInt32_eq, UInt32.toNat_ofNat', Nat.mod_eq_of_lt h]

/-! ### The file and its objects -/

lemma length_flatten_lt (h : t.Small) : t.parts.flatten.length < 2 ^ 64 := by
  have := sum_lens_le h
  rw [length_flatten_parts]
  omega

/-- The file of the table. -/
def source (h : t.Small) : OcbReadSource := .ofBytes t.parts.flatten (length_flatten_lt h)

lemma fileLen_source (h : t.Small) : (t.source h).fileLen = t.lens.sum := by
  rw [OcbReadSource.fileLen, source, OcbReadSource.ofBytes, length_flatten_parts]

section Parts

variable {i : ℕ} {part : List UInt8} (kind : OcbBodyKindV1)

lemma sum_take_lens_le (h : t.Small) : (t.lens.take i).sum ≤ 2 ^ 28 :=
  ((List.take_sublist i t.lens).sum_le_sum fun _ _ => Nat.zero_le _).trans (sum_lens_le h)

lemma toNat_offset_reference (h : t.Small) :
    (t.reference i kind).offset.toNat = (t.lens.take i).sum := by
  have := sum_take_lens_le h (i := i)
  exact toNat_toUInt64 (by omega)

lemma lens_getElem? (hi : t.parts[i]? = some part) : t.lens[i]? = some part.length := by
  rw [← parts_lengths, List.getElem?_map, hi, Option.map_some]

lemma length_part_le (h : t.Small) (hi : t.parts[i]? = some part) : part.length ≤ 2 ^ 21 :=
  lens_le h _ (List.mem_of_getElem? (lens_getElem? hi))

lemma toNat_length_reference (h : t.Small) (hi : t.parts[i]? = some part) :
    (t.reference i kind).length.toNat = part.length := by
  have hle := length_part_le h hi
  have hget : t.lens.getD i 0 = part.length := by
    rw [List.getD_eq_getElem?_getD, lens_getElem? hi, Option.getD_some]
  have hlength : (t.reference i kind).length = (t.lens.getD i 0).toUInt64 := rfl
  rw [hlength, hget, toNat_toUInt64 (by omega)]

/-- Every object of the file is read back. -/
lemma readObjectBytes (h : t.Small) (hi : t.parts[i]? = some part) (hkind : kind ≠ .unknown) :
    (t.source h).readObjectBytesWithResourceLimits (t.reference i kind) kind .policyA =
      .ok part := by
  have hle := length_part_le h hi
  have hlength := toNat_length_reference kind h hi
  refine OcbReadSource.readObjectBytes_part _ t.parts_lengths i hi rfl
    (toNat_offset_reference kind h) ?_ hkind ?_
  · rw [lens_getElem? hi]
    exact congrArg some hlength.symm
  · refine (le_of_eq hlength).trans (hle.trans ?_)
    decide

lemma validate_reference (h : t.Small) (hi : t.parts[i]? = some part) (hkind : kind ≠ .unknown) :
    (t.reference i kind).validate kind t.lens.sum = .ok () := by
  obtain ⟨u, hvalid, -⟩ := bind_eq_ok.mp (readObjectBytes kind h hi hkind)
  rw [fileLen_source] at hvalid
  exact hvalid

lemma chunk_part {c : TableColumn} (hc : t.columns[i]? = some c) :
    t.parts[5 + i]? = some (sealBytes (t.chunkObject i c).fieldBytes) := by
  rw [parts, List.getElem?_append_right (by simp)]
  simp [hc]

end Parts

/-! ### The graph -/

/-- The ids of the columns. -/
def ids (t : TableImage) : List UInt32 := (List.range t.columns.length).map Nat.toUInt32

lemma nodup_ids (h : t.Small) : t.ids.Nodup := by
  have hcolumns := h.columns
  refine List.nodup_range.map_on fun i hi j hj hij => ?_
  rw [List.mem_range] at hi hj
  rw [← toNat_toUInt32 (show i < 2 ^ 32 by omega), hij, toNat_toUInt32 (by omega)]

lemma columnIds_schema : t.schema.columns.map OcbColumnDescV1.columnId = t.ids := by
  refine List.ext_getElem (by simp [schema, ids]) fun i hi _ => ?_
  simp [schema, ids, columnDesc]

lemma columnIds_chunks :
    t.rowGroupIndex.columnChunks.map OcbColumnChunkDescV1.columnId = t.ids := by
  refine List.ext_getElem (by simp [rowGroupIndex, ids]) fun i hi _ => ?_
  simp [rowGroupIndex, ids, chunkDesc]

lemma mem_schema_columns {desc : OcbColumnDescV1} (hdesc : desc ∈ t.schema.columns) :
    ∃ i c, t.columns[i]? = some c ∧ desc = columnDesc i c := by
  obtain ⟨i, hi, rfl⟩ := List.mem_mapIdx.mp hdesc
  exact ⟨i, t.columns[i], List.getElem?_eq_getElem hi, rfl⟩

lemma mem_columnChunks {chunk : OcbColumnChunkDescV1}
    (hchunk : chunk ∈ t.rowGroupIndex.columnChunks) :
    ∃ i c, t.columns[i]? = some c ∧ chunk = t.chunkDesc i c := by
  obtain ⟨i, hi, rfl⟩ := List.mem_mapIdx.mp hchunk
  exact ⟨i, t.columns[i], List.getElem?_eq_getElem hi, rfl⟩

lemma columnDesc_mem {i : ℕ} {c : TableColumn} (hc : t.columns[i]? = some c) :
    columnDesc i c ∈ t.schema.columns := by
  obtain ⟨hi, rfl⟩ := List.getElem?_eq_some_iff.mp hc
  exact List.mem_mapIdx.mpr ⟨i, hi, rfl⟩

lemma toNat_rowCount (h : t.Small) : t.rowCount.toUInt64.toNat = t.rowCount := by
  have := h.rows
  exact toNat_toUInt64 (by omega)

lemma toNat_payload (h : t.Small) {c : TableColumn} (hc : c ∈ t.columns) :
    c.values.bytes.length.toUInt64.toNat = c.values.bytes.length := by
  have := h.payloads c hc
  exact toNat_toUInt64 (by omega)

/-- The payload of a column has its width for each row. -/
lemma length_bytes {values : PrimitiveColumnValues} {n : ℕ} (h : values.HoldsRows n) :
    ∃ width, (∀ i : ℕ, ∀ name, (columnDesc i ⟨name, values⟩).valueByteWidth = .ok width) ∧
      values.bytes.length = n * width := by
  refine ⟨values.byteWidth, fun i name => ?_, PrimitiveColumnValues.length_bytes h⟩
  cases values with
  | fixedBinary width bytes =>
    have hnonzero : failIf (width = 0)
        (ocbCorruptFile "OCB fixed-binary column requires fixed width") = .ok () :=
      failIf_neg h.1
    exact congrArg (· >>= fun _ => Except.ok width.toNat) hnonzero
  | _ => rfl

/-- The header of every chunk is accepted. -/
lemma validate_header (h : t.Small) {i : ℕ} {c : TableColumn} (hc : t.columns[i]? = some c) :
    validateColumnChunkObjectHeader (t.source h) (t.chunkDesc i c) .policyA =
      .ok ((t.chunkObject i c).fieldBytes.take 44) := by
  have hpart := chunk_part hc
  have hmem := List.mem_of_getElem? hc
  have hpayload := h.payloads c hmem
  have hvalid := validate_reference .columnChunk h hpart (by decide)
  have hlength : (t.chunkDesc i c).valueRef.length.toNat = 48 + c.values.bytes.length :=
    (toNat_length_reference _ h hpart).trans (t.length_sealBytes_chunkObject i c)
  have hbytes : (t.chunkDesc i c).uncompressedBytes.toNat = c.values.bytes.length :=
    toNat_payload h hmem
  have hfields : 48 ≤ (t.chunkObject i c).fieldBytes.length := by
    have hmagic : ocbColumnChunkHeader.magic.length = 8 := rfl
    simp only [OcbColumnChunkObjectV1.fieldBytes, ObjectHeader.objectBytes, List.length_append,
      writeU16_length, writeU32_length, writeU64_length, hmagic]
    omega
  have hread : (t.source h).readExactAt (t.chunkDesc i c).valueRef.offset.toNat
      ocbColumnChunkV1HeaderLen = .ok ((t.chunkObject i c).fieldBytes.take 44) := by
    have hslice := OcbReadSource.readExactAt_slice t.parts (5 + i) (length_flatten_lt h) hpart
      (t.chunkDesc i c).valueRef.offset.toNat 44 0 (by
        rw [Nat.add_zero, List.length_flatten, List.map_take, t.parts_lengths]
        exact toNat_offset_reference _ h) (by rw [length_sealBytes_chunkObject]; omega)
    rw [List.drop_zero, take_sealBytes (by omega)] at hslice
    exact hslice
  obtain ⟨hmagic, hversion, hmatches⟩ :
      ((t.chunkObject i c).fieldBytes.take 44).take 8 = ocbColumnChunkHeader.magic ∧
        headerField ((t.chunkObject i c).fieldBytes.take 44) 8 2 = 1 ∧
        HeaderMatches ((t.chunkObject i c).fieldBytes.take 44) (t.chunkDesc i c) :=
    headerMatches_fieldBytes rfl rfl rfl rfl rfl rfl rfl
  have hsum : ocbColumnChunkV1HeaderLen = 44 := rfl
  have hobject : OcbResourceLimits.policyA.maxEncodedObjectBytes.toNat = 1073741824 := rfl
  have hcompressed : OcbResourceLimits.policyA.maxCompressedChunkBytes.toNat = 536870912 := rfl
  have hdecompressed : OcbResourceLimits.policyA.maxDecompressedChunkBytes.toNat = 536870912 := rfl
  -- a chunk that is not compressed is as long as its values, its header and its trailer
  have hstored : (checkedAdd 64 ocbColumnChunkV1HeaderLen
      (t.chunkDesc i c).uncompressedBytes.toNat).bind (checkedAdd 64 · 4) =
        some (t.chunkDesc i c).valueRef.length.toNat := by
    rw [hbytes, checkedAdd_of_lt (by omega), Option.bind_some, checkedAdd_of_lt (by omega), hlength]
    exact congrArg some (by omega)
  have hzstd : ¬ ((t.chunkDesc i c).codec = .zstd ∧
      (t.chunkDesc i c).valueRef.length.toNat = ocbColumnChunkV1HeaderLen + 4) := by
    rintro ⟨hcodec, -⟩
    cases hcodec
  rw [validateColumnChunkObjectHeader, fileLen_source, show (t.chunkDesc i c).valueRef.validate
    .columnChunk t.lens.sum = .ok () from hvalid, ok_bind, failIf_neg (by omega), ok_bind, hread,
    ok_bind, failIf_neg (not_not.mpr hmagic), ok_bind, failIf_neg (not_not.mpr hversion), ok_bind,
    failIf_neg (not_not.mpr hmatches), ok_bind, failIf_neg fun hne => hne.2 hstored, ok_bind,
    failIf_neg hzstd, ok_bind, failIf_neg (by omega), ok_bind,
    failIf_neg (by omega), ok_bind, failIf_neg (by omega), ok_bind]
  rfl

/-- The metadata that the opening charges. -/
def retainedBytes (t : TableImage) : ℕ :=
  t.columns.length * OcbColumnDescV1.len + t.stringTable.materializedBytes +
    t.rowGroupIndex.materializedBytes

/-- The metadata of the file, before its graph is validated. -/
def baseMetadata (t : TableImage) : OcbMetadataV1 where
  root := t.root.sealed
  stringTable := { t.stringTable with crc32c := crc32c t.stringTable.fieldBytes }
  schema := { t.schema with crc32c := crc32c t.schema.fieldBytes }
  dictionaryIndex := none
  rowGroupIndex := { t.rowGroupIndex with crc32c := crc32c t.rowGroupIndex.fieldBytes }
  rowGroupPositionsById := []
  orderingProof := none
  fileLen := t.lens.sum
  appendable := false
  rootGeneration := 0
  previousRootGeneration := none
  resourceLimits := .policyA
  openMetadataMaterializedBytes := t.retainedBytes
  openAuxiliaryEncodedBytes := 0

/-- The metadata of the opened file. -/
def metadata (t : TableImage) : OcbMetadataV1 :=
  { t.baseMetadata with rowGroupPositionsById := [(0, 0)] }

lemma validateChunkDesc_eq_ok (h : t.Small) (zstd : ZstdCodec) {i : ℕ} {c : TableColumn}
    (hc : t.columns[i]? = some c) :
    validateChunkDesc (t.source h) zstd t.baseMetadata t.rowGroup (t.chunkDesc i c)
      t.schema.columns .metadataGraph .policyA = .ok () := by
  have hmem := List.mem_of_getElem? hc
  have hcolumn : ColumnsById.get t.schema.columns i.toUInt32 = some (columnDesc i c) :=
    ColumnsById.get_eq_some (by rw [columnIds_schema]; exact nodup_ids h) (columnDesc_mem hc)
  obtain ⟨width, hwidth, hbytes⟩ := length_bytes (h.holds c hmem)
  have hpayload := h.payloads c hmem
  have hexpected : (columnDesc i c).expectedValueBytes (t.chunkDesc i c).rowCount.toNat =
      .ok c.values.bytes.length := by
    have hrows : (t.chunkDesc i c).rowCount.toNat = t.rowCount := toNat_rowCount h
    rw [OcbColumnDescV1.expectedValueBytes, show (columnDesc i c).valueByteWidth = .ok width from
      hwidth i c.name, ok_bind, hrows, checkedMul_of_lt (by omega), hbytes]
    rfl
  have huncompressed : (t.chunkDesc i c).uncompressedBytes.toNat = c.values.bytes.length :=
    toNat_payload h hmem
  have hgroup : ¬ (t.chunkDesc i c).rowGroupId ≠ t.rowGroup.rowGroupId := not_not.mpr rfl
  have htype : ¬ (t.chunkDesc i c).physicalType ≠ (columnDesc i c).physicalType := not_not.mpr rfl
  have hrows : ¬ (t.chunkDesc i c).rowCount ≠ t.rowGroup.rowCount := not_not.mpr rfl
  rw [validateChunkDesc, failIf_neg hgroup, ok_bind,
    show ColumnsById.get t.schema.columns (t.chunkDesc i c).columnId = _ from hcolumn, okOr_some,
    ok_bind, failIf_neg htype, ok_bind, failIf_neg hrows, ok_bind, hexpected, ok_bind, failIf_neg (not_not.mpr huncompressed), ok_bind]
  dsimp only
  rw [if_pos (show (t.chunkDesc i c).validityRef.IsNull from OcbBodyRefV2.isNull_null)]
  rw [validate_header h hc]
  rfl

lemma name?_columnDesc (h : t.Small) {i : ℕ} {c : TableColumn} (hc : t.columns[i]? = some c) :
    (columnDesc i c).name? t.strings = some c.name.value := by
  have hcolumns := h.columns
  obtain ⟨hi, rfl⟩ := List.getElem?_eq_some_iff.mp hc
  rw [OcbColumnDescV1.name?, show (columnDesc i t.columns[i]).nameStringId.toNat = i from
    toNat_toUInt32 (by omega), strings, List.getElem?_map, hc, Option.map_some]

lemma names_schema (h : t.Small) :
    t.schema.columns.map (OcbColumnDescV1.name? · t.strings) = t.strings.map some := by
  refine List.ext_getElem (by simp [schema, strings]) fun i hi _ => ?_
  have hi : i < t.columns.length := by simpa [schema] using hi
  have hname := name?_columnDesc h (List.getElem?_eq_getElem hi)
  simp only [List.getElem_map, schema, List.getElem_mapIdx, hname]
  simp only [strings, List.getElem_map]

lemma nodup_strings (h : t.Small) : t.strings.Nodup := by
  have hmap : t.strings = (t.columns.map TableColumn.name).map Text.value := by
    rw [List.map_map]
    rfl
  rw [hmap]
  exact h.nodup.map fun _ _ heq => Text.ext_value heq

lemma validateSchemaGraph_eq_ok (h : t.Small) :
    validateSchemaGraph t.baseMetadata = .ok t.schema.columns := by
  have hids : (([] ++ t.schema.columns).map OcbColumnDescV1.columnId).Nodup := by
    rw [List.nil_append, columnIds_schema]
    exact nodup_ids h
  refine validateColumns_eq_ok hids (names_schema h) (nodup_strings h) (by simp) ?_
  intro desc hdesc
  obtain ⟨i, c, hc, rfl⟩ := mem_schema_columns hdesc
  obtain ⟨width, hwidth, -⟩ := length_bytes (h.holds c (List.mem_of_getElem? hc))
  exact ⟨⟨width, hwidth i c.name⟩, rfl⟩

/-- The counts of the root are those of the tables. -/
structure CountsAgree (m : OcbMetadataV1) (rowCount : ℕ) : Prop where
  columns : ¬ m.root.columnCount.toNat ≠ m.schema.columns.length
  rowGroups : ¬ m.root.rowGroupCount.toNat ≠ m.rowGroupIndex.rowGroups.length
  dictionaries : ¬ (m.root.dictionaryCount > 0 ∧ m.dictionaryIndex = none)
  dictionaryCount : validateDictionaryCount m = .ok ()
  rows : sumRowCounts m.rowGroupIndex.rowGroups = some rowCount
  rowCount : ¬ rowCount ≠ m.root.rowCount.toNat

lemma countsAgree (h : t.Small) : CountsAgree t.baseMetadata t.rowCount where
  columns := by
    have hcolumns := h.columns
    rw [not_not]
    exact (toNat_toUInt32 (by omega)).trans (by simp [baseMetadata, schema])
  rowGroups := not_not.mpr rfl
  dictionaries := fun hd => absurd hd.1 (by
    rw [show t.baseMetadata.root.dictionaryCount = 0 from rfl]
    decide)
  dictionaryCount := rfl
  rows := by
    have hrows : t.rowGroup.rowCount.toNat = t.rowCount := toNat_rowCount h
    have hrowsLt := h.rows
    have hadd : checkedAdd 64 0 t.rowGroup.rowCount.toNat = some t.rowCount := by
      rw [hrows, checkedAdd_of_lt (by omega), Nat.zero_add]
    rw [sumRowCounts, show t.baseMetadata.rowGroupIndex.rowGroups = [t.rowGroup] from rfl,
      List.foldlM_cons, hadd]
    rfl
  rowCount := not_not.mpr (toNat_rowCount h).symm

lemma validateRootCounts_eq_ok (h : t.Small) :
    validateRootCounts t.baseMetadata t.columns.length = .ok () := by
  have hcounts := countsAgree h
  have hchunks : ¬ t.columns.length ≠ t.baseMetadata.rowGroupIndex.columnChunks.length :=
    not_not.mpr (by simp [baseMetadata, rowGroupIndex])
  rw [validateRootCounts, failIf_neg hcounts.columns, ok_bind, failIf_neg hcounts.rowGroups,
    ok_bind, failIf_neg hchunks, ok_bind, failIf_neg hcounts.dictionaries, ok_bind,
    hcounts.dictionaryCount, ok_bind, hcounts.rows, okOr_some, ok_bind, failIf_neg hcounts.rowCount]

lemma validateMetadata_eq_ok (h : t.Small) : validateMetadata t.metadata = .ok () := by
  have hbase := countsAgree h
  have hcounts : CountsAgree t.metadata t.rowCount :=
    ⟨hbase.columns, hbase.rowGroups, hbase.dictionaries, hbase.dictionaryCount, hbase.rows,
      hbase.rowCount⟩
  rw [validateMetadata, failIf_neg hcounts.columns, ok_bind, failIf_neg hcounts.rowGroups,
    ok_bind, failIf_neg hcounts.dictionaries, ok_bind, hcounts.dictionaryCount, ok_bind,
    failIf_neg (by simp [metadata, baseMetadata]), ok_bind, hcounts.rows, okOr_some, ok_bind,
    failIf_neg hcounts.rowCount]

lemma checkedChunks_eq_ok (h : t.Small) :
    checkedSlice t.baseMetadata.rowGroupIndex.columnChunks t.rowGroup.chunkDescBegin
      t.rowGroup.chunkDescCount "OCB row-group chunk descriptor range overflows"
      "OCB row-group chunk descriptor range is out of bounds" =
        .ok t.rowGroupIndex.columnChunks := by
  have hcolumns := h.columns
  have hlength : t.baseMetadata.rowGroupIndex.columnChunks.length = t.columns.length :=
    List.length_mapIdx
  have hcount : t.rowGroup.chunkDescCount.toNat = t.columns.length := toNat_toUInt32 (by omega)
  have hbegin : t.rowGroup.chunkDescBegin.toNat = 0 := rfl
  rw [checkedSlice, hbegin, hcount, checkedAdd_of_lt (by rw [usizeBits]; omega), okOr_some, ok_bind,
    failIf_neg (by omega), ok_bind, Nat.zero_add, ← hlength, List.take_length, List.drop_zero]
  rfl

section Graph

variable {zstd : ZstdCodec} {validation : OcbOpenValidationMode} (h : t.Small)
  (hvalid : ∀ {i : ℕ} {c : TableColumn}, t.columns[i]? = some c →
    validateChunkDesc (t.source h) zstd t.baseMetadata t.rowGroup (t.chunkDesc i c)
      t.schema.columns validation .policyA = .ok ())

include hvalid

/-- The one row group is accepted. -/
lemma run_validateRowGroup (s : OpenState) :
    (validateRowGroup (t.source h) zstd t.baseMetadata t.schema.columns validation .policyA
      t.rowGroup 0 .start).run s = (.ok ⟨[(0, 0)], t.rowCount, t.columns.length, 0⟩, s) := by
  have hcolumns := h.columns
  have hrowsLt := h.rows
  have hcount : t.rowGroup.chunkDescCount.toNat = t.columns.length := toNat_toUInt32 (by omega)
  have hrows : t.rowGroup.rowCount.toNat = t.rowCount := toNat_rowCount h
  have hdesc : validateRowGroupDesc t.rowGroup 0 .start =
      .ok ⟨[(0, 0)], t.rowCount, t.columns.length, 0⟩ := by
    have hfresh : ¬ (RowGroupCursor.start.positionsById.lookup t.rowGroup.rowGroupId).isSome := by
      simp [RowGroupCursor.start]
    have hbase : ¬ t.rowGroup.baseRow.toNat ≠ RowGroupCursor.start.expectedBaseRow :=
      not_not.mpr rfl
    have hchunk : ¬ t.rowGroup.chunkDescBegin.toNat ≠ RowGroupCursor.start.expectedChunkBegin :=
      not_not.mpr rfl
    have hstat : ¬ t.rowGroup.statBegin.toNat ≠ RowGroupCursor.start.expectedStatBegin :=
      not_not.mpr rfl
    have hadd : ∀ n < 2 ^ 64, checkedAdd 64 0 n = some n := fun n hn => by
      rw [checkedAdd_of_lt (by omega), Nat.zero_add]
    rw [validateRowGroupDesc, failIf_neg hfresh, ok_bind, failIf_neg hbase, ok_bind,
      failIf_neg hchunk, ok_bind, failIf_neg hstat, ok_bind, hrows,
      show checkedAdd 64 RowGroupCursor.start.expectedBaseRow t.rowCount = some t.rowCount from
        hadd _ (by omega), okOr_some, ok_bind, hcount,
      show checkedAdd 64 RowGroupCursor.start.expectedChunkBegin t.columns.length =
        some t.columns.length from hadd _ (by omega), okOr_some, ok_bind]
    rfl
  have hchunks : validateChunks (fun chunk => validateChunkDesc (t.source h) zstd t.baseMetadata
      t.rowGroup chunk t.schema.columns validation .policyA) t.rowGroupIndex.columnChunks [] =
        .ok t.ids := by
    rw [validateChunks_eq_ok (fun chunk hchunk => ?_)
      (by rw [List.nil_append, columnIds_chunks]; exact nodup_ids h), List.nil_append,
      columnIds_chunks]
    obtain ⟨i, c, hc, rfl⟩ := mem_columnChunks hchunk
    exact hvalid hc
  have hcover : ¬ ¬ SameElements t.ids (t.schema.columns.map OcbColumnDescV1.columnId) := by
    rw [not_not, columnIds_schema]
    exact ⟨fun _ hx => hx, fun _ hx => hx⟩
  rw [validateRowGroup, hdesc, Fallible.lift_ok_bind]
  refine (Fallible.run_bind_of_ok (a := ()) (t := s) rfl).trans ?_
  refine (Fallible.run_bind_of_ok (a := ()) (t := s) rfl).trans ?_
  rw [show checkedChunksForRowGroup t.baseMetadata t.rowGroup = _ from checkedChunks_eq_ok h,
    Fallible.lift_ok_bind, hchunks, Fallible.lift_ok_bind, failIf_neg hcover, Fallible.lift_ok_bind]
  rfl

/-- The graph of the file is in order. -/
lemma run_validateMetadataGraph (s : OpenState) :
    (validateMetadataGraph (t.source h) zstd t.baseMetadata t.columns.length validation .policyA
      none).run s = (.ok [(0, 0)], s) := by
  have hpreflight : (preflight t.baseMetadata none).run s = (.ok (), s) := rfl
  have hdictionary : (validateDictionaryGraph (t.source h) t.baseMetadata t.schema.columns).run s =
      (.ok (), s) := by
    have hplain : (t.schema.columns.forM fun column => failIf (column.logicalKind = .dictionaryCode)
        (ocbCorruptFile "OCB dictionary-coded column references missing dictionary index") :
          Result Unit) = .ok () := by
      refine forM_eq_ok.mpr fun desc hdesc => ?_
      obtain ⟨i, c, -, rfl⟩ := mem_schema_columns hdesc
      rfl
    rw [validateDictionaryGraph]
    exact Prod.ext hplain rfl
  have hrowGroups : (validateRowGroupGraph (t.source h) zstd t.baseMetadata t.schema.columns
      validation .policyA).run s = (.ok [(0, 0)], s) := by
    have hchunks : ¬ t.columns.length ≠ t.baseMetadata.rowGroupIndex.columnChunks.length :=
      not_not.mpr (by simp [baseMetadata, rowGroupIndex])
    have hloop : (validateRowGroups (t.source h) zstd t.baseMetadata t.schema.columns validation
        .policyA t.baseMetadata.rowGroupIndex.rowGroups 0 .start).run s =
          (.ok ⟨[(0, 0)], t.rowCount, t.columns.length, 0⟩, s) :=
      Fallible.run_bind_of_ok (run_validateRowGroup h hvalid s)
    rw [validateRowGroupGraph, Fallible.run_bind_of_ok hloop]
    dsimp only
    rw [failIf_neg hchunks]
    rfl
  rw [validateMetadataGraph, validateRootCounts_eq_ok h, Fallible.lift_ok_bind,
    validateSchemaGraph_eq_ok h, Fallible.lift_ok_bind, Fallible.run_bind_of_ok hpreflight,
    Fallible.run_bind_of_ok hdictionary, Fallible.run_bind_of_ok hrowGroups]
  rfl

end Graph

/-! ### Opening -/

lemma stringBytes_le (h : t.Small) : t.stringTable.materializedBytes ≤ 64 * 88 := by
  have hlength := length_strings_le h
  have hcolumns := h.columns
  have hcount : t.strings.length = t.columns.length := List.length_map _
  rw [length_flatMap_writeStringU32] at hlength
  rw [OcbStringTableV1.materializedBytes, vecHeaderBytes]
  dsimp only [stringTable]
  omega

lemma retainedBytes_le (h : t.Small) : t.retainedBytes ≤ 2 ^ 14 := by
  have hstrings := stringBytes_le h
  have hcolumns := h.columns
  have hindex : t.rowGroupIndex.materializedBytes = 112 + 96 * t.columns.length := by
    simp only [OcbRowGroupIndexV1.materializedBytes, rowGroupIndex, OcbRowGroupDescV1.memBytes,
      OcbColumnChunkDescV1.len, List.length_singleton, List.length_mapIdx, List.length_nil]
    omega
  rw [retainedBytes, hindex, OcbColumnDescV1.len]
  omega

/-- What is retained is charged to the budget. -/
lemma run_charge_return {α : Type} {charged n total : ℕ} (hcharged : charged ≤ 17179869184)
    (htotal : total ≤ 17179869184) (hsum : charged + n = total) (a : α) :
    (do
      MetadataMaterializationBudget.charge n
      return a : Metered α).run (Sample.budget charged hcharged) =
        (.ok a, Sample.budget total htotal) := by
  subst hsum
  have hcharge : (MetadataMaterializationBudget.charge n).run (Sample.budget charged hcharged) =
      (.ok (), Sample.budget (charged + n) htotal) := run_charge_of_le htotal
  rw [Fallible.run_bind_of_ok hcharge]
  rfl

lemma run_readMetadata (h : t.Small) (htotal : t.retainedBytes ≤ 17179869184) :
    (readMetadataObjectsWithResourceLimits (t.source h) t.root.sealed .policyA).run
      (.fromLimits .policyA) = (.ok t.baseMetadata, Sample.budget t.retainedBytes htotal) := by
  have hcolumns := h.columns
  have hstringLen := length_strings_le h
  have hretained := t.retainedBytes.le_refl
  rw [retainedBytes] at htotal
  -- the three objects are decoded one after the other, from one budget
  have hschema : (OcbSchemaV1.readFromBytesWithBudget (sealBytes t.schema.fieldBytes)).run
      (.fromLimits .policyA) = (.ok { t.schema with crc32c := crc32c t.schema.fieldBytes },
        Sample.budget (t.columns.length * OcbColumnDescV1.len) (by omega)) := by
    have hlength : t.schema.columns.length = t.columns.length := List.length_mapIdx
    rw [t.schema.readFromBytesWithBudget_sealBytes rfl (by omega), hlength]
    exact run_charge_return (by decide) _ (Nat.zero_add _) _
  have hstrings : (OcbStringTableV1.readFromBytesWithBudget (sealBytes t.stringTable.fieldBytes)).run
      (Sample.budget (t.columns.length * OcbColumnDescV1.len) (by omega)) =
        (.ok { t.stringTable with crc32c := crc32c t.stringTable.fieldBytes },
          Sample.budget (t.columns.length * OcbColumnDescV1.len + t.stringTable.materializedBytes)
            (by omega)) := by
    rw [t.stringTable.readFromBytesWithBudget_sealBytes rfl (by simp [stringTable, strings]; omega)]
    · exact run_charge_return _ _ rfl _
    · intro s hs
      obtain ⟨c, hc, rfl⟩ := List.mem_map.mp hs
      have := h.names c hc
      omega
    · have hlength := t.length_sealBytes_stringTable
      have hfields : t.stringTable.fieldBytes.length ≤ (sealBytes t.stringTable.fieldBytes).length := by
        rw [OcbStringTableV1.fieldBytes, length_sealBytes_objectBytes ocbStringTableHeader rfl]
        have hmagic : ocbStringTableHeader.magic.length = 8 := rfl
        simp only [ObjectHeader.objectBytes, List.length_append, writeU16_length, writeU32_length,
          hmagic]
        omega
      omega
  have hindex : (OcbRowGroupIndexV1.readFromBytesWithBudget
      (sealBytes t.rowGroupIndex.fieldBytes)).run (Sample.budget (t.columns.length *
        OcbColumnDescV1.len + t.stringTable.materializedBytes) (by omega)) =
          (.ok { t.rowGroupIndex with crc32c := crc32c t.rowGroupIndex.fieldBytes },
            Sample.budget t.retainedBytes (by rw [retainedBytes]; omega)) := by
    have hlength : t.rowGroupIndex.columnChunks.length = t.columns.length := List.length_mapIdx
    rw [t.rowGroupIndex.readFromBytesWithBudget_sealBytes rfl (by simp [rowGroupIndex]) (by omega)
      (by simp [rowGroupIndex]) (by simp [rowGroupIndex])]
    exact run_charge_return _ _ rfl _
  have hread := run_readMetadataObjects (t.source h) t.root.sealed .policyA
    (readObjectBytes _ h (i := 2) rfl (by decide)) hschema
    (readObjectBytes _ h (i := 1) rfl (by decide)) hstrings rfl
    (readObjectBytes _ h (i := 3) rfl (by decide)) hindex rfl
  rw [hread, fileLen_source]
  rfl

/-- The columns of the opened file. -/
def bundleColumn (i : ℕ) (c : TableColumn) : BundleColumn where
  id := i.toUInt32
  name := c.name
  physicalType := c.values.physicalType
  logicalKind := .plain
  dictionaryId := none
  scale := 0
  nullable := false

/-- The columns as the reader resolves them. -/
def bundleColumns (t : TableImage) : List BundleColumn := t.columns.mapIdx bundleColumn

lemma ids_bundleColumns : t.bundleColumns.map BundleColumn.id = t.ids := by
  refine List.ext_getElem (by simp [bundleColumns, ids]) fun i hi _ => ?_
  simp [bundleColumns, ids, bundleColumn]

lemma columnPhysicalType (h : t.Small) {i : ℕ} {c : TableColumn} (hc : c ∈ t.columns) :
    columnPhysicalTypeFromDesc (columnDesc i c) = .ok c.values.physicalType := by
  have hholds := h.holds c hc
  obtain ⟨name, values⟩ := c
  cases values with
  | fixedBinary width bytes =>
    have hwidth : failIf (width = 0)
        (ocbCorruptFile "OCB fixed-binary column requires fixed width") = .ok () :=
      failIf_neg hholds.1
    exact congrArg (· >>= fun _ => Except.ok (ColumnPhysicalType.fixedBinary width)) hwidth
  | _ => rfl

/-- The columns of a schema with distinct ids and distinct names are all resolved. -/
lemma preflightColumns_eq_ok {strings : List String} {columns : List OcbColumnDescV1}
    {names : List String} {seenIds : List UInt32} {seenNames : List String} {nameBytes : ℕ}
    (hids : (columns.map OcbColumnDescV1.columnId).Nodup)
    (hseenIds : ∀ c ∈ columns, c.columnId ∉ seenIds)
    (hnames : columns.map (OcbColumnDescV1.name? · strings) = names.map some)
    (hnodup : names.Nodup) (hseen : ∀ name ∈ names, name ∉ seenNames)
    (htypes : ∀ c ∈ columns, IsOk (columnPhysicalTypeFromDesc c))
    (hbytes : nameBytes + (names.map fun name => name.toUTF8.size).sum < 2 ^ 64) :
    preflightColumns strings columns seenIds seenNames nameBytes =
      .ok (nameBytes + (names.map fun name => name.toUTF8.size).sum) := by
  induction columns generalizing names seenIds seenNames nameBytes with
  | nil =>
    obtain rfl : names = [] := by simpa using hnames.symm
    rfl
  | cons column rest ih =>
    obtain ⟨name, names, rfl⟩ : ∃ name names', names = name :: names' := by
      cases names with
      | nil => cases hnames
      | cons name names => exact ⟨name, names, rfl⟩
    rw [List.map_cons, List.map_cons, List.cons.injEq] at hnames
    rw [List.nodup_cons] at hnodup
    rw [List.map_cons, List.nodup_cons] at hids
    rw [List.map_cons, List.sum_cons] at hbytes ⊢
    obtain ⟨type, htype⟩ := htypes column (by simp)
    rw [preflightColumns, failIf_neg (hseenIds column (by simp)), ok_bind, hnames.1, okOr_some,
      ok_bind, failIf_neg (hseen name (by simp)), ok_bind, htype, ok_bind,
      checkedAdd_of_lt (by omega), okOr_some, ok_bind, ih hids.2 (fun c hc => ?_) hnames.2 hnodup.2
        (fun n hn => ?_) (fun c hc => htypes c (by simp [hc])) (by omega), Nat.add_assoc]
    · rw [List.mem_cons, not_or]
      exact ⟨fun heq => hids.1 (heq ▸ List.mem_map_of_mem hc), hseenIds c (by simp [hc])⟩
    · rw [List.mem_cons, not_or]
      refine ⟨?_, hseen n (by simp [hn])⟩
      rintro rfl
      exact hnodup.1 hn

lemma resolveColumns_eq_ok (h : t.Small) : resolveColumns t.metadata = .ok t.bundleColumns := by
  have hcolumns := h.columns
  have hresolved : t.schema.columns.mapM (resolveColumn t.metadata) = .ok t.bundleColumns := by
    refine mapM_eq_ok.mpr (List.forall₂_iff_get.mpr ⟨by simp [schema, bundleColumns], ?_⟩)
    intro i hi _
    have hi : i < t.columns.length := by simpa [schema] using hi
    have hc := List.getElem?_eq_getElem hi
    simp only [List.get_eq_getElem, schema, bundleColumns, List.getElem_mapIdx]
    rw [resolveColumn, show (columnDesc i t.columns[i]).name? t.metadata.stringTable.strings = _ from
      name?_columnDesc h hc, okOr_some, ok_bind, cloneColumnBundleStringFallibly,
      dif_pos t.columns[i].name.size_lt, ok_bind, columnPhysicalType h (List.getElem_mem hi)]
    rfl
  have hsorted : t.bundleColumns.Pairwise fun a b => decide (a.id ≤ b.id) = true := by
    refine List.pairwise_iff_getElem.mpr fun i j hi hj hij => ?_
    simp only [bundleColumns, List.length_mapIdx] at hi hj
    simp only [bundleColumns, List.getElem_mapIdx, bundleColumn, decide_eq_true_eq,
      UInt32.le_iff_toNat_le]
    rw [toNat_toUInt32 (by omega), toNat_toUInt32 (by omega)]
    omega
  rw [resolveColumns, show t.metadata.schema.columns = t.schema.columns from rfl, hresolved, ok_bind,
    List.mergeSort_of_pairwise hsorted]
  rfl

/-- The opened file. -/
def file (h : t.Small) : ColumnBundleFile := ⟨t.source h, t.metadata, t.bundleColumns, .policyA⟩

/-- The file of a small table opens when its chunks are valid. -/
lemma openFromSource_of_chunks {zstd : ZstdCodec} {validation : OcbOpenValidationMode}
    (h : t.Small) (hvalid : ∀ {i : ℕ} {c : TableColumn}, t.columns[i]? = some c →
      validateChunkDesc (t.source h) zstd t.baseMetadata t.rowGroup (t.chunkDesc i c)
        t.schema.columns validation .policyA = .ok ()) :
    ColumnBundleFile.openFromSource (t.source h) zstd validation .policyA = .ok (file h) := by
  have hcolumns := h.columns
  have hretained := retainedBytes_le h
  have hstringLen := length_strings_le h
  have hcount : t.strings.length = t.columns.length := List.length_map _
  rw [length_flatMap_writeStringU32] at hstringLen
  have hmetered := Opening.run_metered (s := ⟨.new .policyA, .fromLimits .policyA⟩)
    (run_readMetadata h (by omega))
  have hproduct : okOr (checkedMul 32 t.baseMetadata.root.columnCount.toNat
      t.baseMetadata.root.rowGroupCount.toNat)
      (ocbCorruptFile "OCB v1 root column chunk count overflows") = .ok t.columns.length := by
    have hcolumnCount : t.baseMetadata.root.columnCount.toNat = t.columns.length :=
      toNat_toUInt32 (by omega)
    have hgroups : t.baseMetadata.root.rowGroupCount.toNat = 1 := rfl
    rw [hcolumnCount, hgroups, checkedMul_of_lt (by omega), Nat.mul_one]
    rfl
  have hload : ((loadV1Root (t.source h) zstd t.root.sealed validation .policyA).run
      ⟨.new .policyA, .fromLimits .policyA⟩).1 = .ok t.metadata := by
    rw [loadV1Root, Fallible.run_bind_of_ok hmetered, hproduct, Fallible.lift_ok_bind,
      Fallible.run_bind_of_ok (run_validateMetadataGraph h hvalid _)]
    rfl
  have hread : readMetadataFromSourceWithValidationAndResourceLimits (t.source h) zstd
      validation .policyA = .ok t.metadata := by
    rw [source, readMetadata_v1File t.parts t.page t.root .policyA (length_flatten_lt h)
      t.parts_lengths rfl rfl rfl rfl (by simp [page]) rfl 4 rfl (by rfl)
      (toNat_offset_reference .root h (i := 4)) zstd validation (by decide)]
    exact hload
  have hpreflight : preflightColumns t.strings t.schema.columns [] [] 0 =
      .ok (t.strings.map fun name => name.toUTF8.size).sum := by
    rw [preflightColumns_eq_ok (by rw [columnIds_schema]; exact nodup_ids h) (by simp)
      (names_schema h) (nodup_strings h) (by simp) (fun desc hdesc => ?_) (by omega), Nat.zero_add]
    obtain ⟨i, c, hc, rfl⟩ := mem_schema_columns hdesc
    exact ⟨_, columnPhysicalType h (List.mem_of_getElem? hc)⟩
  have hbytes : preflightResolvedColumnsMaterializedBytes t.metadata =
      .ok (t.columns.length * 56 + (t.strings.map fun name => name.toUTF8.size).sum) := by
    have hlength : t.metadata.schema.columns.length = t.columns.length := List.length_mapIdx
    rw [preflightResolvedColumnsMaterializedBytes, hlength, BundleColumn.memBytes,
      checkedMul_of_lt (by omega), okOr_some, ok_bind,
      show preflightColumns t.metadata.stringTable.strings t.metadata.schema.columns [] [] 0 = _ from
        hpreflight, ok_bind, checkedAdd_of_lt (by omega)]
    rfl
  rw [ColumnBundleFile.openFromSource, hread, ok_bind, ColumnBundleFile.fromMetadata,
    validateMetadata_eq_ok h, Fallible.lift_ok_bind, Fallible.run_bind_of_ok (run_charge_of_le (by
      show 0 + t.retainedBytes ≤ 17179869184
      omega)), hbytes, Fallible.lift_ok_bind, Fallible.run_bind_of_ok (run_charge_of_le (by
      show 0 + t.retainedBytes + (t.columns.length * 56 + _) ≤ 17179869184
      omega)), resolveColumns_eq_ok h]
  rfl

/-- The file of a small table opens. -/
theorem openFromSource_source (h : t.Small) (zstd : ZstdCodec) :
    ColumnBundleFile.openFromSource (t.source h) zstd .metadataGraph .policyA = .ok (file h) :=
  openFromSource_of_chunks h (validateChunkDesc_eq_ok h zstd)

/-! ### Reading -/

lemma checkPrimitiveValueBytes_eq_ok (h : t.Small) {i : ℕ} {c : TableColumn}
    (hc : c ∈ t.columns) : checkPrimitiveValueBytes (t.chunkObject i c).physicalType
      (t.chunkObject i c).rowCount.toNat (t.chunkObject i c).uncompressedBytes.toNat = .ok () := by
  have hrows : (t.chunkObject i c).rowCount.toNat = t.rowCount := toNat_rowCount h
  have hbytes : (t.chunkObject i c).uncompressedBytes.toNat = c.values.bytes.length :=
    toNat_payload h hc
  have hpayload := h.payloads c hc
  obtain ⟨width, hwidth, hlength⟩ := length_bytes (h.holds c hc)
  have hwidth := hwidth i c.name
  rw [OcbColumnDescV1.valueByteWidth] at hwidth
  rw [checkPrimitiveValueBytes, hrows, hbytes]
  split
  · rfl
  · rename_i byteWidth hbyteWidth
    rw [show (columnDesc i c).physicalType.primitiveByteWidth = some byteWidth from hbyteWidth]
      at hwidth
    obtain ⟨_, -, hwidth⟩ := bind_eq_ok.mp hwidth
    cases hwidth
    rw [checkedMul_of_lt (by omega), okOr_some, ok_bind, failIf_neg (by omega)]

/-- A column of the table, read back. -/
def columnArray (i : ℕ) (c : TableColumn) : ColumnArray where
  columnId := i.toUInt32
  name := c.name
  physicalType := c.values.physicalType
  logicalKind := .plain
  dictionaryId := none
  values := c.values
  validity := none

lemma readColumnArray_eq_ok (h : t.Small) (zstd : ZstdCodec) {i : ℕ} {c : TableColumn}
    (hc : t.columns[i]? = some c) :
    readColumnArray (t.source h) zstd t.metadata (bundleColumn i c) (t.chunkDesc i c)
      t.rowCount.toUInt64 = .ok (columnArray i c) := by
  have hmem := List.mem_of_getElem? hc
  have hbytes : (t.chunkDesc i c).uncompressedBytes.toNat = c.values.bytes.length :=
    toNat_payload h hmem
  have hpayloadLe := h.payloads c hmem
  have hvalues := checkPrimitiveValueBytes_eq_ok h (i := i) hmem
  have hstored : ¬ ((t.chunkObject i c).codec = .none ∧
      (t.chunkObject i c).payload.length ≠ (t.chunkObject i c).uncompressedBytes.toNat) :=
    fun hne => hne.2 hbytes.symm
  have hobject : readColumnChunkFromReaderWithResourceLimits (t.source h) (t.chunkDesc i c)
      t.metadata.resourceLimits = .ok
        { t.chunkObject i c with crc32c := crc32c (t.chunkObject i c).fieldBytes } := by
    rw [readColumnChunkFromReaderWithResourceLimits,
      show t.metadata.resourceLimits = .policyA from rfl, validate_header h hc, ok_bind,
      show (t.chunkDesc i c).valueRef = t.reference (5 + i) .columnChunk from rfl,
      readObjectBytes _ h (chunk_part hc) (by decide), ok_bind,
      (t.chunkObject i c).readFromBytes_sealBytes rfl hvalues hstored]
  have hcompressed : OcbResourceLimits.policyA.maxCompressedChunkBytes.toNat = 536870912 := rfl
  have hdecompressed : OcbResourceLimits.policyA.maxDecompressedChunkBytes.toNat = 536870912 := rfl
  have hpayload : readChunkPayload (t.source h) zstd t.metadata (bundleColumn i c)
      (t.chunkDesc i c) = .ok c.values.bytes := by
    rw [readChunkPayload, hobject, ok_bind]
    generalize crc32c (t.chunkObject i c).fieldBytes = crc
    have hdecode : OcbColumnChunkObjectV1.intoDecodedPayloadWithLimits zstd
        { t.chunkObject i c with crc32c := crc } 536870912 536870912 = .ok c.values.bytes :=
      decodePayloadWithLimits_plain rfl hvalues hbytes.symm (by
        refine hpayloadLe.trans ?_
        decide)
    have hids : ¬ ((t.chunkObject i c).rowGroupId ≠ (t.chunkDesc i c).rowGroupId ∨
        (t.chunkObject i c).columnId ≠ (t.chunkDesc i c).columnId) := by
      rintro (hne | hne)
      · exact hne rfl
      · exact hne rfl
    have htype : ¬ (t.chunkObject i c).physicalType ≠
        (bundleColumn i c).physicalType.ocbPhysicalType := not_not.mpr rfl
    have hcodec : ¬ (t.chunkObject i c).codec ≠ (t.chunkDesc i c).codec := not_not.mpr rfl
    have hrows : ¬ (t.chunkObject i c).rowCount ≠ (t.chunkDesc i c).rowCount := not_not.mpr rfl
    have huncompressed : ¬ (t.chunkObject i c).uncompressedBytes ≠
        (t.chunkDesc i c).uncompressedBytes := not_not.mpr rfl
    rw [validateAndDecodeChunkObject, failIf_neg hids, ok_bind, failIf_neg htype, ok_bind,
      failIf_neg hcodec, ok_bind, failIf_neg hrows, ok_bind, failIf_neg huncompressed, ok_bind,
      show t.metadata.resourceLimits = .policyA from rfl, hcompressed, hdecompressed, hdecode,
      ok_bind, failIf_neg (by omega)]
    rfl
  have hnull : (t.chunkDesc i c).validityRef.IsNull := OcbBodyRefV2.isNull_null
  have hvalidity : ¬ (¬ (bundleColumn i c).nullable ∧ ¬ (t.chunkDesc i c).validityRef.IsNull) :=
    fun hne => hne.2 hnull
  have htype : ¬ (t.chunkDesc i c).physicalType ≠
      (bundleColumn i c).physicalType.ocbPhysicalType := not_not.mpr rfl
  have hrows : ¬ (t.chunkDesc i c).rowCount ≠ t.rowCount.toUInt64 := not_not.mpr rfl
  rw [readColumnArray, failIf_neg hvalidity, ok_bind, failIf_neg htype, ok_bind, failIf_neg hrows,
    ok_bind, hpayload, ok_bind, readValidityBitmap, if_pos hnull, ok_bind,
    show (bundleColumn i c).physicalType = c.values.physicalType from rfl,
    PrimitiveColumnValues.decode_bytes (h.holds c hmem)]
  rfl

/-- The row group, read back. -/
def batch (t : TableImage) : ColumnBatch where
  rowGroupId := 0
  baseRow := 0
  rowCount := t.rowCount.toUInt64
  columns := t.columns.mapIdx columnArray

lemma rowGroupById_metadata : t.metadata.rowGroupById 0 = some t.rowGroup := rfl

/-- Reading the row group gives the columns of the table. -/
theorem readRowGroup_source (h : t.Small) (zstd : ZstdCodec) :
    readRowGroup (t.source h) zstd t.metadata t.bundleColumns 0 t.ids = .ok t.batch := by
  have hcolumns := h.columns
  have hchunks : chunkByColumnForRowGroup t.metadata t.rowGroup =
      .ok (t.rowGroupIndex.columnChunks.map fun chunk => (chunk.columnId, chunk)) := by
    rw [chunkByColumnForRowGroup, show chunksForRowGroup t.metadata t.rowGroup.chunkDescBegin
      t.rowGroup.chunkDescCount = _ from checkedChunks_eq_ok h, ok_bind]
    refine insertChunks_eq_ok (fun chunk hchunk => ?_) ?_
    · obtain ⟨i, c, -, rfl⟩ := mem_columnChunks hchunk
      rfl
    · simpa [columnIds_chunks] using nodup_ids h
  have hread : t.ids.mapM (readSelectedColumn (t.source h) zstd t.metadata t.bundleColumns
      (t.rowGroupIndex.columnChunks.map fun chunk => (chunk.columnId, chunk))
      t.rowGroup.rowCount) = .ok (t.columns.mapIdx columnArray) := by
    refine mapM_eq_ok.mpr (List.forall₂_iff_get.mpr ⟨by simp [ids], fun i hi _ => ?_⟩)
    have hi : i < t.columns.length := by simpa [ids] using hi
    have hc := List.getElem?_eq_getElem hi
    have hcolumn : (t.bundleColumns.find? fun column => column.id = i.toUInt32) =
        some (bundleColumn i t.columns[i]) :=
      (find?_eq_some_of_nodup (by rw [ids_bundleColumns]; exact nodup_ids h)).mpr
        ⟨List.mem_mapIdx.mpr ⟨i, hi, rfl⟩, rfl⟩
    have hchunk : (t.rowGroupIndex.columnChunks.map fun chunk => (chunk.columnId, chunk)).lookup
        i.toUInt32 = some (t.chunkDesc i t.columns[i]) := by
      have hmem : t.chunkDesc i t.columns[i] ∈ t.rowGroupIndex.columnChunks :=
        List.mem_mapIdx.mpr ⟨i, hi, rfl⟩
      exact (lookup_map_eq_some (by rw [columnIds_chunks]; exact nodup_ids h)).mpr ⟨hmem, rfl⟩
    simp only [List.get_eq_getElem, ids, List.getElem_map, List.getElem_range,
      List.getElem_mapIdx]
    rw [readSelectedColumn, hcolumn, okOr_some, ok_bind, hchunk, okOr_some, ok_bind]
    exact readColumnArray_eq_ok h zstd hc
  rw [readRowGroup, rowGroupById_metadata, okOr_some, ok_bind, hchunks, ok_bind, hread]
  rfl

end TableImage

end ArcadiaTio.Ocb
