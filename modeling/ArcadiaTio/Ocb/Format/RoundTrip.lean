import ArcadiaTio.Ocb.Format.Chunk

/-!
# Round trips of the codecs

Every object of the format is read back from what its writer produced, in every field but the
stored checksum.  A writer succeeds only on values its format can hold, so each round trip is the
read-back equation of the sealed object together with what the checks of the writer say.

Dictionary values are the exception: the writer compares the length of a value with the fixed
width after a narrowing cast, and it admits one entry more than the offset table can number.
`OcbDictionaryValuesV1.roundTrips_iff` says exactly for which values the round trip holds.
-/

namespace ArcadiaTio.Ocb

open ArcadiaTio.Lib

/-! ### Reading without a limit -/

/-- A budget that no object exceeds. -/
def MetadataMaterializationBudget.unlimited : MetadataMaterializationBudget := .new 0xFFFFFFFFFFFFFFFF

/-- Decode a metadata object with an unlimited budget. -/
def readUnlimited {α : Type} (read : List UInt8 → Metered α) (bytes : List UInt8) : Result α :=
  ((read bytes).run .unlimited).1

/-- A charge that fits a 64-bit word fits the unlimited budget. -/
lemma readUnlimited_of_charge {α : Type} {read : List UInt8 → Metered α} {bytes : List UInt8}
    {n : ℕ} {a : α} (h : read bytes = (do MetadataMaterializationBudget.charge n; return a))
    (hn : n < 2 ^ 64) : readUnlimited read bytes = .ok a := by
  have hlimit : MetadataMaterializationBudget.unlimited.limitBytes = 2 ^ 64 - 1 := rfl
  have hcharged : MetadataMaterializationBudget.unlimited.chargedBytes = 0 := rfl
  have hadd : checkedAdd 64 MetadataMaterializationBudget.unlimited.chargedBytes n = some n := by
    rw [hcharged, checkedAdd_of_lt (by omega), Nat.zero_add]
  have hrun : ∃ b, (MetadataMaterializationBudget.charge n).run .unlimited = (.ok (), b) := by
    refine ⟨{ MetadataMaterializationBudget.unlimited with
      chargedBytes := n, charged_le := by omega }, ?_⟩
    simp only [MetadataMaterializationBudget.charge, hadd]
    exact dif_pos (by omega)
  obtain ⟨b, hb⟩ := hrun
  rw [readUnlimited, h, Fallible.run_bind_of_ok hb]
  rfl

/-! ### What a successful writer says about its value -/

section Writers

variable {buf : List UInt8}

lemma writeStringU32Checked_eq_ok {value : String} (h : writeStringU32Checked value = .ok buf) :
    buf = writeStringU32 value ∧ value.toUTF8.size < 2 ^ 32 := by
  simp only [writeStringU32Checked, bind_eq_ok, failIf_eq_ok, not_le, pure_eq_ok,
    Except.ok.injEq] at h
  obtain ⟨_, hsize, rfl⟩ := h
  exact ⟨rfl, hsize⟩

lemma OcbStringTableV1.encodeWithoutChecksum_eq_ok {t : OcbStringTableV1}
    (h : t.encodeWithoutChecksum = .ok buf) :
    buf = t.fieldBytes ∧ t.strings.length < 2 ^ 32 ∧ (∀ s ∈ t.strings, s.toUTF8.size < 2 ^ 32) ∧
      t.fieldBytes.length < 2 ^ 63 := by
  simp only [encodeWithoutChecksum, bind_eq_ok, failIf_eq_ok, not_le, vecBuffer_eq_ok] at h
  obtain ⟨_, hcount, strings, hstrings, rfl, hbytes⟩ := h
  have hflat : strings.flatten = t.strings.flatMap writeStringU32 :=
    mapM_writeTo (fun _ _ hs => (writeStringU32Checked_eq_ok hs).1) hstrings
  rw [hflat] at hbytes ⊢
  refine ⟨rfl, hcount, fun s hs => ?_, hbytes⟩
  obtain ⟨b, hb⟩ := mapM_writeTo_mem hstrings hs
  exact (writeStringU32Checked_eq_ok hb).2

lemma OcbColumnDescV1.writeTo_eq_ok {c : OcbColumnDescV1} (h : c.writeTo = .ok buf) :
    buf = c.write := by
  simp only [writeTo, bind_eq_ok, pure_eq_ok, Except.ok.injEq] at h
  obtain ⟨_, -, _, -, rfl⟩ := h
  rfl

lemma OcbSchemaV1.encodeWithoutChecksum_eq_ok {s : OcbSchemaV1}
    (h : s.encodeWithoutChecksum = .ok buf) :
    buf = s.fieldBytes ∧ s.columns.length < 2 ^ 32 := by
  simp only [encodeWithoutChecksum, bind_eq_ok, failIf_eq_ok, not_le, vecBuffer_eq_ok] at h
  obtain ⟨_, -, _, hcount, columns, hcolumns, rfl, -⟩ := h
  rw [mapM_writeTo (fun _ _ hc => OcbColumnDescV1.writeTo_eq_ok hc) hcolumns]
  exact ⟨rfl, hcount⟩

lemma OcbDictionaryDescV1.writeTo_eq_ok {d : OcbDictionaryDescV1} (h : d.writeTo = .ok buf) :
    buf = d.write := by
  simp only [writeTo, bind_eq_ok, pure_eq_ok, Except.ok.injEq] at h
  obtain ⟨_, -, rfl⟩ := h
  rfl

lemma OcbDictionaryIndexV1.encodeWithoutChecksum_eq_ok {d : OcbDictionaryIndexV1}
    (h : d.encodeWithoutChecksum = .ok buf) :
    buf = d.fieldBytes ∧ d.dictionaries.length < 2 ^ 32 := by
  simp only [encodeWithoutChecksum, bind_eq_ok, failIf_eq_ok, not_le, vecBuffer_eq_ok] at h
  obtain ⟨_, hcount, dictionaries, hdictionaries, rfl, -⟩ := h
  rw [mapM_writeTo (fun _ _ hd => OcbDictionaryDescV1.writeTo_eq_ok hd) hdictionaries]
  exact ⟨rfl, hcount⟩

lemma OcbColumnChunkDescV1.writeTo_eq_ok {c : OcbColumnChunkDescV1} (h : c.writeTo = .ok buf) :
    buf = c.write := by
  simp only [writeTo, bind_eq_ok, pure_eq_ok, Except.ok.injEq] at h
  obtain ⟨_, -, _, -, rfl⟩ := h
  rfl

lemma OcbColumnStatsV1.writeTo_eq_ok {s : OcbColumnStatsV1} (h : s.writeTo = .ok buf) :
    buf = s.write ∧ s.minValue.physicalType = s.physicalType ∧
      s.maxValue.physicalType = s.physicalType := by
  simp only [writeTo, bind_eq_ok, failIf_eq_ok, not_or, not_not, pure_eq_ok,
    Except.ok.injEq] at h
  obtain ⟨_, htyped, rfl⟩ := h
  exact ⟨rfl, htyped⟩

lemma OcbRowGroupDescV1.writeTo_eq_ok {g : OcbRowGroupDescV1} (h : g.writeTo = .ok buf) :
    buf = g.write := (Except.ok.inj h).symm

lemma OcbOrderingKeyV1.writeTo_eq_ok {k : OcbOrderingKeyV1} (h : k.writeTo = .ok buf) :
    buf = k.write := (Except.ok.inj h).symm

lemma OcbRowGroupOrderingProofV1.writeTo_eq_ok {p : OcbRowGroupOrderingProofV1}
    (h : p.writeTo = .ok buf) : buf = p.write := by
  simp only [writeTo, bind_eq_ok, pure_eq_ok, Except.ok.injEq] at h
  obtain ⟨_, -, _, -, rfl⟩ := h
  rfl

/-- Statistics that were written are typed. -/
lemma typed_of_mapM_writeTo {stats : List OcbColumnStatsV1} {bs : List (List UInt8)}
    (h : stats.mapM OcbColumnStatsV1.writeTo = .ok bs) : ∀ s ∈ stats,
      s.minValue.physicalType = s.physicalType ∧ s.maxValue.physicalType = s.physicalType := by
  intro s hs
  obtain ⟨b, hb⟩ := mapM_writeTo_mem h hs
  exact (OcbColumnStatsV1.writeTo_eq_ok hb).2

lemma OcbRowGroupIndexV1.encodeWithoutChecksum_eq_ok {i : OcbRowGroupIndexV1}
    (h : i.encodeWithoutChecksum = .ok buf) :
    buf = i.fieldBytes ∧ i.rowGroups.length < 2 ^ 32 ∧ i.columnChunks.length < 2 ^ 32 ∧
      i.stats.length < 2 ^ 32 ∧ ∀ s ∈ i.stats, s.minValue.physicalType = s.physicalType ∧
        s.maxValue.physicalType = s.physicalType := by
  simp only [encodeWithoutChecksum, bind_eq_ok, failIf_eq_ok, not_le, vecBuffer_eq_ok] at h
  obtain ⟨_, hgroups, _, hchunks, _, hstats, groups, hwGroups, chunks, hwChunks, stats, hwStats,
    rfl, -⟩ := h
  rw [mapM_writeTo (fun _ _ hg => OcbRowGroupDescV1.writeTo_eq_ok hg) hwGroups,
    mapM_writeTo (fun _ _ hc => OcbColumnChunkDescV1.writeTo_eq_ok hc) hwChunks,
    mapM_writeTo (fun _ _ hs => (OcbColumnStatsV1.writeTo_eq_ok hs).1) hwStats]
  exact ⟨rfl, hgroups, hchunks, hstats, typed_of_mapM_writeTo hwStats⟩

lemma OcbRowGroupIndexDeltaV1.encodeWithoutChecksum_eq_ok {d : OcbRowGroupIndexDeltaV1}
    (h : d.encodeWithoutChecksum = .ok buf) : buf = d.fieldBytes ∧ d.Encodable := by
  simp only [encodeWithoutChecksum, bind_eq_ok, failIf_eq_ok, not_le, vecBuffer_eq_ok] at h
  obtain ⟨_, hgroups, _, hchunks, _, hstats, _, hkeys, _, hproofs, groups, hwGroups, chunks,
    hwChunks, stats, hwStats, keys, hwKeys, proofs, hwProofs, rfl, -⟩ := h
  rw [mapM_writeTo (fun _ _ hg => OcbRowGroupDescV1.writeTo_eq_ok hg) hwGroups,
    mapM_writeTo (fun _ _ hc => OcbColumnChunkDescV1.writeTo_eq_ok hc) hwChunks,
    mapM_writeTo (fun _ _ hs => (OcbColumnStatsV1.writeTo_eq_ok hs).1) hwStats,
    mapM_writeTo (fun _ _ hk => OcbOrderingKeyV1.writeTo_eq_ok hk) hwKeys,
    mapM_writeTo (fun _ _ hp => OcbRowGroupOrderingProofV1.writeTo_eq_ok hp) hwProofs]
  exact ⟨rfl, hgroups, hchunks, hstats, hkeys, hproofs, typed_of_mapM_writeTo hwStats⟩

lemma OcbOrderingProofV1.encodeWithoutChecksum_eq_ok {o : OcbOrderingProofV1}
    (h : o.encodeWithoutChecksum = .ok buf) :
    buf = o.fieldBytes ∧ o.keys.length < 2 ^ 16 ∧ o.rowGroupProofs.length < 2 ^ 32 := by
  simp only [encodeWithoutChecksum, bind_eq_ok, failIf_eq_ok, not_le, vecBuffer_eq_ok] at h
  obtain ⟨_, hkeys, _, hproofs, keys, hwKeys, proofs, hwProofs, rfl, -⟩ := h
  rw [mapM_writeTo (fun _ _ hk => OcbOrderingKeyV1.writeTo_eq_ok hk) hwKeys,
    mapM_writeTo (fun _ _ hp => OcbRowGroupOrderingProofV1.writeTo_eq_ok hp) hwProofs]
  exact ⟨rfl, hkeys, hproofs⟩

lemma OcbColumnChunkObjectV1.encodeWithoutChecksum_eq_ok {o : OcbColumnChunkObjectV1}
    (h : o.encodeWithoutChecksum = .ok buf) :
    buf = o.fieldBytes ∧ o.checkValueBytes = .ok () ∧
      ¬ (o.codec = .none ∧ o.payload.length ≠ o.uncompressedBytes.toNat) := by
  simp only [encodeWithoutChecksum, bind_eq_ok, failIf_eq_ok, vecBuffer_eq_ok] at h
  obtain ⟨_, hvalues, _, hpayload, _, -, rfl, -⟩ := h
  exact ⟨rfl, hvalues, hpayload⟩

end Writers

/-! ### Round trips -/

/-- The arrays of a page have the lengths that their types fix. -/
def OcbBootstrapPageV2.HasArrays (page : OcbBootstrapPageV2) : Prop :=
  page.fileUuid.length = 16 ∧ page.rootSlotBytes.length = ocbRootSlotV2Count ∧
    ∀ slot ∈ page.rootSlotBytes, slot.length = ocbRootSlotV2Len

section Fixed

variable {bytes : List UInt8}

lemma OcbBootstrapPageV1.roundTrip {page : OcbBootstrapPageV1} (huuid : page.fileUuid.length = 16)
    (hmajor : page.formatMajor = 1) (hminor : page.formatMinor = 0)
    (h : page.writeTo = .ok bytes) : ∃ crc, readFrom bytes = .ok { page with crc32c := crc } := by
  obtain ⟨buf, hbuf, rfl⟩ := map_eq_ok.mp h
  simp only [encodeWithoutChecksum, bind_eq_ok, failIf_eq_ok, not_not, pure_eq_ok,
    Except.ok.injEq] at hbuf
  obtain ⟨_, hsize, _, -, rfl⟩ := hbuf
  exact ⟨_, page.readFrom_sealBytes hmajor hminor hsize huuid⟩

lemma OcbBootstrapPageV2.roundTrip {page : OcbBootstrapPageV2} (harrays : page.HasArrays)
    (h : page.writeTo = .ok bytes) : ∃ crc, readFrom bytes = .ok { page with crc32c := crc } := by
  obtain ⟨huuid, hcount, hlens⟩ := harrays
  have hchecks := h
  simp only [writeTo, encodeWithoutChecksum, bind_eq_ok, failIf_eq_ok, not_not, not_or,
    pure_eq_ok] at hchecks
  obtain ⟨_, ⟨_, hsize, _, ⟨hmajor, hminor⟩, -⟩, -⟩ := hchecks
  obtain ⟨a, b, hslots⟩ := List.length_eq_two.mp hcount
  have hminorZero : page.formatMinor = 0 := by
    apply UInt16.toNat_inj.mp
    have hle := UInt16.le_iff_toNat_le.mp (UInt16.not_lt.mp hminor)
    exact Nat.le_zero.mp hle
  have hwf : page.WellFormed a b :=
    ⟨hmajor, hminorZero, hsize, huuid, hslots, hlens a (by simp [hslots]), hlens b (by simp [hslots])⟩
  obtain ⟨bytes', crc, hwrite, -, hread⟩ := hwf.readFrom_writeTo
  obtain rfl : bytes = bytes' := Except.ok.inj (h.symm.trans hwrite)
  exact ⟨crc, hread⟩

lemma OcbRootSlotV2.roundTrip {slot : OcbRootSlotV2} (hwriter : slot.writerVersion.length = 16)
    (h : slot.writeTo = .ok bytes) : ∃ crc, readFrom bytes = .ok { slot with crc32c := crc } := by
  obtain ⟨buf, hbuf, rfl⟩ := map_eq_ok.mp h
  simp only [encodeWithoutChecksum, bind_eq_ok, failIf_eq_ok, not_not, ge_iff_le, not_le, pure_eq_ok,
    Except.ok.injEq] at hbuf
  obtain ⟨_, hversion, _, hid, _, -, _, -, _, -, _, -, rfl⟩ := hbuf
  exact ⟨_, slot.readFrom_sealBytes hversion hid hwriter⟩

lemma OcbRootV1.roundTrip {root : OcbRootV1} (hversion : root.version = 1)
    (h : root.writeTo = .ok bytes) : ∃ crc, readFrom bytes = .ok { root with crc32c := crc } := by
  obtain ⟨buf, hbuf, rfl⟩ := map_eq_ok.mp h
  simp only [encodeWithoutChecksum, bind_eq_ok, pure_eq_ok, Except.ok.injEq] at hbuf
  obtain ⟨_, -, _, -, _, -, _, -, _, -, rfl⟩ := hbuf
  exact ⟨_, root.readFrom_sealBytes hversion⟩

lemma OcbRootV2.roundTrip {root : OcbRootV2} (h : root.writeTo = .ok bytes) :
    ∃ crc, readFrom bytes = .ok { root with crc32c := crc } := by
  obtain ⟨buf, hbuf, rfl⟩ := map_eq_ok.mp h
  simp only [encodeWithoutChecksum, bind_eq_ok, failIf_eq_ok, not_not, pure_eq_ok,
    Except.ok.injEq] at hbuf
  obtain ⟨_, hversion, _, -, _, -, _, -, _, -, _, -, rfl⟩ := hbuf
  exact ⟨_, root.readFrom_sealBytes hversion⟩

end Fixed

section Metered

variable {bytes : List UInt8}

lemma OcbStringTableV1.roundTrip {t : OcbStringTableV1} (hversion : t.version = 1)
    (h : t.writeTo = .ok bytes) :
    ∃ crc, readUnlimited readFromBytesWithBudget bytes = .ok { t with crc32c := crc } := by
  obtain ⟨buf, hbuf, rfl⟩ := map_eq_ok.mp h
  obtain ⟨rfl, hcount, hsizes, hbytes⟩ := encodeWithoutChecksum_eq_ok hbuf
  have hfit : t.materializedBytes < 2 ^ 64 := by
    have hlen := length_flatMap_writeStringU32 t.strings
    simp only [fieldBytes, ObjectHeader.objectBytes, List.length_append] at hbytes
    rw [materializedBytes, vecHeaderBytes]
    omega
  exact ⟨_, readUnlimited_of_charge
    (t.readFromBytesWithBudget_sealBytes hversion hcount hsizes hbytes) hfit⟩

lemma OcbSchemaV1.roundTrip {s : OcbSchemaV1} (hversion : s.version = 1)
    (h : s.writeTo = .ok bytes) :
    ∃ crc, readUnlimited readFromBytesWithBudget bytes = .ok { s with crc32c := crc } := by
  obtain ⟨buf, hbuf, rfl⟩ := map_eq_ok.mp h
  obtain ⟨rfl, hcount⟩ := encodeWithoutChecksum_eq_ok hbuf
  exact ⟨_, readUnlimited_of_charge (s.readFromBytesWithBudget_sealBytes hversion hcount)
    (by rw [OcbColumnDescV1.len]; omega)⟩

lemma OcbDictionaryIndexV1.roundTrip {d : OcbDictionaryIndexV1} (hversion : d.version = 1)
    (h : d.writeTo = .ok bytes) :
    ∃ crc, readUnlimited readFromBytesWithBudget bytes = .ok { d with crc32c := crc } := by
  obtain ⟨buf, hbuf, rfl⟩ := map_eq_ok.mp h
  obtain ⟨rfl, hcount⟩ := encodeWithoutChecksum_eq_ok hbuf
  exact ⟨_, readUnlimited_of_charge (d.readFromBytesWithBudget_sealBytes hversion hcount)
    (by rw [OcbDictionaryDescV1.len]; omega)⟩

lemma OcbRowGroupIndexV1.roundTrip {i : OcbRowGroupIndexV1} (hversion : i.version = 1)
    (h : i.writeTo = .ok bytes) :
    ∃ crc, readUnlimited readFromBytesWithBudget bytes = .ok { i with crc32c := crc } := by
  obtain ⟨buf, hbuf, rfl⟩ := map_eq_ok.mp h
  obtain ⟨rfl, hgroups, hchunks, hstats, htyped⟩ := encodeWithoutChecksum_eq_ok hbuf
  refine ⟨_, readUnlimited_of_charge
    (i.readFromBytesWithBudget_sealBytes hversion hgroups hchunks hstats htyped) ?_⟩
  rw [materializedBytes, OcbRowGroupDescV1.memBytes, OcbColumnChunkDescV1.len, OcbColumnStatsV1.len]
  omega

lemma OcbRowGroupIndexDeltaV1.roundTrip {d : OcbRowGroupIndexDeltaV1} (hversion : d.version = 1)
    (h : d.writeTo = .ok bytes) :
    ∃ crc, readUnlimited readFromBytesWithBudget bytes = .ok { d with crc32c := crc } := by
  obtain ⟨buf, hbuf, rfl⟩ := map_eq_ok.mp h
  obtain ⟨rfl, henc⟩ := encodeWithoutChecksum_eq_ok hbuf
  refine ⟨_, readUnlimited_of_charge (d.readFromBytesWithBudget_sealBytes henc hversion) ?_⟩
  have hgroups := henc.rowGroups
  have hchunks := henc.columnChunks
  have hstats := henc.stats
  have hkeys := henc.orderingKeys
  have hproofs := henc.orderingProofs
  rw [materializedBytes, OcbRowGroupDescV1.memBytes, OcbColumnChunkDescV1.len, OcbColumnStatsV1.len,
    OcbOrderingKeyV1.len, OcbRowGroupOrderingProofV1.len]
  omega

lemma OcbOrderingProofV1.roundTrip {o : OcbOrderingProofV1} (hversion : o.version = 1)
    (h : o.writeTo = .ok bytes) :
    ∃ crc, readUnlimited readFromBytesWithBudget bytes = .ok { o with crc32c := crc } := by
  obtain ⟨buf, hbuf, rfl⟩ := map_eq_ok.mp h
  obtain ⟨rfl, hkeys, hproofs⟩ := encodeWithoutChecksum_eq_ok hbuf
  refine ⟨_, readUnlimited_of_charge
    (o.readFromBytesWithBudget_sealBytes hversion hkeys hproofs) ?_⟩
  rw [materializedBytes, OcbOrderingKeyV1.len, OcbRowGroupOrderingProofV1.len]
  omega

lemma OcbColumnChunkObjectV1.roundTrip {o : OcbColumnChunkObjectV1} (hversion : o.version = 1)
    (h : o.writeTo = .ok bytes) :
    ∃ crc, readFromBytes bytes = .ok { o with crc32c := crc } := by
  obtain ⟨buf, hbuf, rfl⟩ := map_eq_ok.mp h
  obtain ⟨rfl, hvalues, hpayload⟩ := encodeWithoutChecksum_eq_ok hbuf
  exact ⟨_, o.readFromBytes_sealBytes hversion
    (checkPrimitiveValueBytes_of_checkValueBytes hvalues) hpayload⟩

end Metered

/-- **Codec round trip.**  Whenever the writer of an object of a supported version succeeds, its
reader returns the same value, up to the stored checksum. -/
theorem codec_roundTrip :
    (∀ (page : OcbBootstrapPageV1) (bytes : List UInt8), page.fileUuid.length = 16 →
      page.formatMajor = 1 → page.formatMinor = 0 → page.writeTo = .ok bytes →
      ∃ crc, OcbBootstrapPageV1.readFrom bytes = .ok { page with crc32c := crc }) ∧
    (∀ (page : OcbBootstrapPageV2) (bytes : List UInt8), page.HasArrays →
      page.writeTo = .ok bytes →
      ∃ crc, OcbBootstrapPageV2.readFrom bytes = .ok { page with crc32c := crc }) ∧
    (∀ (slot : OcbRootSlotV2) (bytes : List UInt8), slot.writerVersion.length = 16 →
      slot.writeTo = .ok bytes →
      ∃ crc, OcbRootSlotV2.readFrom bytes = .ok { slot with crc32c := crc }) ∧
    (∀ (root : OcbRootV1) (bytes : List UInt8), root.version = 1 → root.writeTo = .ok bytes →
      ∃ crc, OcbRootV1.readFrom bytes = .ok { root with crc32c := crc }) ∧
    (∀ (root : OcbRootV2) (bytes : List UInt8), root.writeTo = .ok bytes →
      ∃ crc, OcbRootV2.readFrom bytes = .ok { root with crc32c := crc }) ∧
    (∀ (t : OcbStringTableV1) (bytes : List UInt8), t.version = 1 → t.writeTo = .ok bytes →
      ∃ crc, readUnlimited OcbStringTableV1.readFromBytesWithBudget bytes =
        .ok { t with crc32c := crc }) ∧
    (∀ (s : OcbSchemaV1) (bytes : List UInt8), s.version = 1 → s.writeTo = .ok bytes →
      ∃ crc, readUnlimited OcbSchemaV1.readFromBytesWithBudget bytes =
        .ok { s with crc32c := crc }) ∧
    (∀ (d : OcbDictionaryIndexV1) (bytes : List UInt8), d.version = 1 → d.writeTo = .ok bytes →
      ∃ crc, readUnlimited OcbDictionaryIndexV1.readFromBytesWithBudget bytes =
        .ok { d with crc32c := crc }) ∧
    (∀ (i : OcbRowGroupIndexV1) (bytes : List UInt8), i.version = 1 → i.writeTo = .ok bytes →
      ∃ crc, readUnlimited OcbRowGroupIndexV1.readFromBytesWithBudget bytes =
        .ok { i with crc32c := crc }) ∧
    (∀ (d : OcbRowGroupIndexDeltaV1) (bytes : List UInt8), d.version = 1 →
      d.writeTo = .ok bytes →
      ∃ crc, readUnlimited OcbRowGroupIndexDeltaV1.readFromBytesWithBudget bytes =
        .ok { d with crc32c := crc }) ∧
    (∀ (o : OcbOrderingProofV1) (bytes : List UInt8), o.version = 1 → o.writeTo = .ok bytes →
      ∃ crc, readUnlimited OcbOrderingProofV1.readFromBytesWithBudget bytes =
        .ok { o with crc32c := crc }) ∧
    (∀ (o : OcbColumnChunkObjectV1) (bytes : List UInt8), o.version = 1 → o.writeTo = .ok bytes →
      ∃ crc, OcbColumnChunkObjectV1.readFromBytes bytes = .ok { o with crc32c := crc }) :=
  ⟨fun _ _ huuid hmajor hminor h => OcbBootstrapPageV1.roundTrip huuid hmajor hminor h,
    fun _ _ harrays h => OcbBootstrapPageV2.roundTrip harrays h,
    fun _ _ hwriter h => OcbRootSlotV2.roundTrip hwriter h,
    fun _ _ hversion h => OcbRootV1.roundTrip hversion h,
    fun _ _ h => OcbRootV2.roundTrip h,
    fun _ _ hversion h => OcbStringTableV1.roundTrip hversion h,
    fun _ _ hversion h => OcbSchemaV1.roundTrip hversion h,
    fun _ _ hversion h => OcbDictionaryIndexV1.roundTrip hversion h,
    fun _ _ hversion h => OcbRowGroupIndexV1.roundTrip hversion h,
    fun _ _ hversion h => OcbRowGroupIndexDeltaV1.roundTrip hversion h,
    fun _ _ hversion h => OcbOrderingProofV1.roundTrip hversion h,
    fun _ _ hversion h => OcbColumnChunkObjectV1.roundTrip hversion h⟩

/-! ### Dictionary values -/

namespace OcbDictionaryValuesV1

/-- What the writer accepts: an entry count and a width of the right kind, values whose length
agrees with the width in its low 32 bits, and an object that fits in memory. -/
structure WriterAccepts (d : OcbDictionaryValuesV1) : Prop where
  count_lt : d.values.length < 2 ^ 32
  width_ne_zero : d.valueKind = .fixedBytes → d.fixedWidth ≠ 0
  width_eq_zero : d.valueKind ≠ .fixedBytes → d.fixedWidth = 0
  narrow : d.valueKind = .fixedBytes → ∀ v ∈ d.values, v.length % 2 ^ 32 = d.fixedWidth.toNat
  bytes_lt : d.fieldBytes.length < 2 ^ 63

/-- Reading what the writer wrote gives the value back. -/
def RoundTrips (d : OcbDictionaryValuesV1) : Prop :=
  ∀ bytes, d.writeTo = .ok bytes →
    ∃ crc, readUnlimited readFromBytesWithBudget bytes = .ok { d with crc32c := crc }

variable {d : OcbDictionaryValuesV1} {bytes : List UInt8}

lemma checkFixedValue_eq_ok {v : List UInt8} : d.checkFixedValue v = .ok () ↔
    (d.valueKind = .fixedBytes → v.length % 2 ^ 32 = d.fixedWidth.toNat) := by
  have hcast : v.length.toUInt32.toNat = v.length % 2 ^ 32 := by simp
  rw [checkFixedValue, failIf_eq_ok, not_and, not_not, ← UInt32.toNat_inj, hcast]

lemma writeTo_eq_ok : d.writeTo = .ok bytes ↔ d.WriterAccepts ∧ bytes = sealBytes d.fieldBytes := by
  constructor
  · intro h
    obtain ⟨buf, hbuf, rfl⟩ := map_eq_ok.mp h
    simp only [encodeWithoutChecksum, bind_eq_ok, failIf_eq_ok, not_le, not_and, not_not, forM_eq_ok,
      vecBuffer_eq_ok] at hbuf
    obtain ⟨_, hcount, _, hne, _, hzero, _, hvalues, rfl, hbytes⟩ := hbuf
    exact ⟨⟨hcount, hne, hzero, fun hkind v hv => checkFixedValue_eq_ok.mp (hvalues v hv) hkind,
      hbytes⟩, rfl⟩
  · rintro ⟨h, rfl⟩
    refine map_eq_ok.mpr ⟨d.fieldBytes, ?_, rfl⟩
    simp only [encodeWithoutChecksum, bind_eq_ok, failIf_eq_ok, not_le, not_and, not_not, forM_eq_ok,
      vecBuffer_eq_ok]
    exact ⟨(), h.count_lt, (), h.width_ne_zero, (), h.width_eq_zero, ⟨⟩,
      fun v hv => checkFixedValue_eq_ok.mpr fun hkind => h.narrow hkind v hv, trivial, h.bytes_lt⟩

namespace WriterAccepts

variable (h : d.WriterAccepts)
include h

lemma data_lt : d.values.flatten.length < 2 ^ 63 := by
  have hbytes := h.bytes_lt
  rw [length_fieldBytes, length_tableBytes] at hbytes
  omega

lemma length_eq {v : List UInt8} (hkind : d.valueKind = .fixedBytes) (hv : v ∈ d.values)
    (hlen : v.length < 2 ^ 32) : v.length = d.fixedWidth.toNat := by
  rw [← h.narrow hkind v hv, Nat.mod_eq_of_lt hlen]

omit h in
/-- One entry more than the offset table can number. -/
lemma readUnlimited_of_count (hversion : d.version = 1) (hcount : d.values.length + 1 = 2 ^ 32) :
    readUnlimited readFromBytesWithBudget (sealBytes d.fieldBytes) =
      .error (ocbCorruptFile "OCB dictionary values offset count overflows") := by
  rw [readUnlimited, readFromBytesWithBudget_eq, d.readHeader_sealBytes hversion,
    Fallible.lift_ok_bind, d.run_readPrefix_of_eq hcount]
  rfl

/-- A value that is longer than the width by a multiple of `2^32`. -/
lemma readUnlimited_of_long (hversion : d.version = 1) (hcount : d.values.length + 1 < 2 ^ 32)
    (hkind : d.valueKind = .fixedBytes) (hlong : ∃ v ∈ d.values, 2 ^ 32 ≤ v.length) :
    readUnlimited readFromBytesWithBudget (sealBytes d.fieldBytes) = .error (ocbCorruptFile
      "OCB fixed-byte dictionary value length does not match fixed width") := by
  have hne : ∃ v ∈ d.values, v.length ≠ d.fixedWidth.toNat := by
    obtain ⟨v, hv, hlen⟩ := hlong
    have hwidth := d.fixedWidth.toNat_lt
    exact ⟨v, hv, by omega⟩
  rw [readUnlimited, readFromBytesWithBudget_eq, d.readHeader_sealBytes hversion,
    Fallible.lift_ok_bind, d.run_readPrefix hcount, Fallible.lift_ok_bind]
  simp only
  rw [d.run_validateData_of_ne h.data_lt hkind hne]
  rfl

lemma roundTrip (hversion : d.version = 1) (hcount : d.values.length + 1 < 2 ^ 32)
    (hshort : d.valueKind = .fixedBytes → ∀ v ∈ d.values, v.length < 2 ^ 32) :
    readUnlimited readFromBytesWithBudget (sealBytes d.fieldBytes) =
      .ok { d with crc32c := Ocb.crc32c d.fieldBytes } := by
  have hdata := h.data_lt
  refine readUnlimited_of_charge (d.readFromBytesWithBudget_sealBytes hdata hversion hcount
    fun hkind v hv => h.length_eq hkind hv (hshort hkind v hv)) ?_
  rw [materializedBytes, vecHeaderBytes]
  omega

end WriterAccepts

/-- **Dictionary values round trip**, exactly: what the writer accepts is read back unless it has
`2^32 - 1` entries, or is of fixed width and holds a value of `2^32` bytes or more. -/
theorem roundTrips_iff (d : OcbDictionaryValuesV1) (hversion : d.version = 1) :
    d.RoundTrips ↔ (d.WriterAccepts → d.values.length ≠ 2 ^ 32 - 1 ∧
      (d.valueKind = .fixedBytes → ∀ v ∈ d.values, v.length < 2 ^ 32)) := by
  constructor
  · intro hround h
    obtain ⟨crc, hread⟩ := hround _ (writeTo_eq_ok.mpr ⟨h, rfl⟩)
    have hcount : d.values.length ≠ 2 ^ 32 - 1 := by
      intro hcount
      rw [WriterAccepts.readUnlimited_of_count hversion (by omega)] at hread
      cases hread
    refine ⟨hcount, fun hkind v hv => ?_⟩
    by_contra hlong
    have hlt := h.count_lt
    rw [h.readUnlimited_of_long hversion (by omega) hkind ⟨v, hv, not_lt.mp hlong⟩] at hread
    cases hread
  · intro hcond bytes hwrite
    obtain ⟨h, rfl⟩ := writeTo_eq_ok.mp hwrite
    obtain ⟨hcount, hshort⟩ := hcond h
    have hlt := h.count_lt
    exact ⟨_, h.roundTrip hversion (by omega) hshort⟩

/-- A fixed-width dictionary of width 1 with one value, of `n` zero bytes. -/
def ofZeros (n : ℕ) : OcbDictionaryValuesV1 where
  version := 1
  valueKind := .fixedBytes
  fixedWidth := 1
  values := [List.replicate n 0]
  crc32c := 0

lemma exists_mem_ofZeros {n : ℕ} : ∃ v ∈ (ofZeros n).values, v.length = n :=
  ⟨_, List.mem_singleton.mpr rfl, List.length_replicate⟩

lemma writerAccepts_ofZeros {n : ℕ} (hnarrow : n % 2 ^ 32 = 1) (hn : n < 2 ^ 62) :
    (ofZeros n).WriterAccepts where
  count_lt := by
    rw [ofZeros, List.length_singleton]
    omega
  width_ne_zero _ := by
    intro hzero
    exact absurd hzero (by decide : (1 : UInt32) ≠ 0)
  width_eq_zero h := absurd rfl h
  narrow _ v hv := by
    rw [ofZeros, List.mem_singleton] at hv
    rw [hv, List.length_replicate, hnarrow]
    rfl
  bytes_lt := by
    rw [length_fieldBytes, length_tableBytes, ofZeros, List.flatten_singleton,
      List.length_replicate, List.length_singleton]
    omega

/-- The writer accepts a value of `2^32 + 1` bytes for the width 1, and the reader turns it down. -/
theorem ofZeros_not_readBack :
    (ofZeros (2 ^ 32 + 1)).version = 1 ∧ ∃ bytes, (ofZeros (2 ^ 32 + 1)).writeTo = .ok bytes ∧
      readUnlimited readFromBytesWithBudget bytes = .error (ocbCorruptFile
        "OCB fixed-byte dictionary value length does not match fixed width") := by
  have haccepts : (ofZeros (2 ^ 32 + 1)).WriterAccepts :=
    writerAccepts_ofZeros (by omega) (by omega)
  obtain ⟨v, hv, hlen⟩ := exists_mem_ofZeros (n := 2 ^ 32 + 1)
  refine ⟨rfl, _, writeTo_eq_ok.mpr ⟨haccepts, rfl⟩, ?_⟩
  exact haccepts.readUnlimited_of_long rfl (by rw [ofZeros, List.length_singleton]; omega) rfl
    ⟨v, hv, by omega⟩

/-- The equivalence at that dictionary: its round trip fails. -/
theorem roundTrips_iff_ofZeros : ¬ (ofZeros (2 ^ 32 + 1)).RoundTrips := by
  intro hround
  obtain ⟨v, hv, hlen⟩ := exists_mem_ofZeros (n := 2 ^ 32 + 1)
  have hshort := ((roundTrips_iff (ofZeros (2 ^ 32 + 1)) rfl).mp hround
    (writerAccepts_ofZeros (by omega) (by omega))).2 rfl v hv
  omega

end OcbDictionaryValuesV1

end ArcadiaTio.Ocb
