import ArcadiaTio.Lib.InPlace
import ArcadiaTio.Ocb.CompactL2.BatchView

/-!
# The vector behind an append

`appendFixedBinaryV1Payloads` says what an append returns.  Here the vector itself is the state: it
is grown before the rows are put together, and it stays behind when a row fails.  What it holds
then is `AppendOutcome`: nothing is lost, but the vector is longer by all rows of the batch.
-/

namespace ArcadiaTio.Ocb

open ArcadiaTio.Lib

namespace CompactL2PhysicalV2BatchView

variable (view : CompactL2PhysicalV2BatchView)

/-- The writes of one row in their order.  A conversion fails in the place of its field. -/
def payloadWrites (row : ℕ) : List (Result (ℕ × List UInt8)) :=
  [.ok (0, compactL2FixedIngressMagic),
    .ok (4, u16ToLeBytes compactL2FixedBinarySchemaVersionV1),
    .ok (6, u16ToLeBytes compactL2FixedIngressHeaderLenV1),
    .ok (8, u16ToLeBytes compactL2FixedBinaryRecordWidthV1.toUInt16),
    (fun code => (10, [code])) <$> okOr (u8TryFrom (view.recordKind.getD row 0))
      (compactL2V2BatchError "compact-L2 physical-v2 record_kind does not fit u8"),
    .ok (11, window view.headerBytes1112 (row * 2) (row * 2 + 2)),
    (fun tradingDay => (16, u32ToLeBytes tradingDay)) <$> u32FromDayKey (view.dayKey.getD row 0),
    (fun channelId => (20, i32ToLeBytes channelId)) <$>
      i32FromChannelId (view.channelId.getD row 0),
    .ok (24, i64ToLeBytes (view.bizIndex.getD row 0)),
    (fun sourceOrdinal => (32, u64ToLeBytes sourceOrdinal)) <$>
      u64FromSourceOrdinal (view.sourceOrdinal.getD row 0),
    .ok (40, i64ToLeBytes (view.receiveNano.getD row 0)),
    .ok (48, i64ToLeBytes (view.exchangeTime.getD row 0)),
    .ok (56, window view.symbol (row * 9) (row * 9 + 9)),
    .ok (80, window view.bodyBytes8086 (row * 7) (row * 7 + 7))] ++
  (List.finRange 10).map fun slot => .ok (compactL2PhysicalV2BodyWordOffsets.get slot,
    i64ToLeBytes ((view.bodyWords88160.get slot).getD row 0))

/-- Put one row together in a buffer of one record. -/
def writeRowInPlace (row : ℕ) : Fallible ArcadiaTioError (List UInt8) Unit := do
  failIf (view.rowCount ≤ row)
    (compactL2V2BatchError "compact-L2 physical-v2 row index out of bounds")
  let out ← Fallible.getState
  failIf (out.length ≠ compactL2FixedBinaryRecordWidthV1)
    (ocbDiagnostic .fixedBinaryWidthMismatch
      s!"compact-L2 physical-v2 output width mismatch: expected=168 observed={out.length}")
  Fallible.setState (List.replicate out.length 0)
  Fallible.writeAll (view.payloadWrites row)
  let record ← Fallible.getState
  let _ ← decodeCompactL2FixedBinaryHeaderV1 record
  return ()

/-- Append all rows to a vector. -/
def appendInPlace : Fallible ArcadiaTioError (List UInt8) Unit := do
  view.validate
  let additional ← okOr (checkedMul usizeBits view.rowCount compactL2FixedBinaryRecordWidthV1)
    (compactL2V2BatchError "compact-L2 physical-v2 reconstructed payload length overflows")
  let out ← Fallible.getState
  let newLen ← okOr (checkedAdd usizeBits out.length additional)
    (compactL2V2BatchError "compact-L2 physical-v2 reconstructed payload length overflows")
  failIf (2 ^ 63 ≤ newLen)
    (ArcadiaTioError.io "compact-L2 reconstructed payload allocation failed within resource limit")
  -- the vector grows here, before any row is looked at
  Fallible.setState (out ++ List.replicate additional 0)
  forM (List.range view.rowCount) fun row =>
    Fallible.within (out.length + row * compactL2FixedBinaryRecordWidthV1)
      compactL2FixedBinaryRecordWidthV1 (view.writeRowInPlace row)

variable {view} {row : ℕ}

/-! ### One row -/

lemma mapM_payloadWrites : (view.payloadWrites row).mapM id = (do
    let code ← okOr (u8TryFrom (view.recordKind.getD row 0))
      (compactL2V2BatchError "compact-L2 physical-v2 record_kind does not fit u8")
    let tradingDay ← u32FromDayKey (view.dayKey.getD row 0)
    let channelId ← i32FromChannelId (view.channelId.getD row 0)
    let sourceOrdinal ← u64FromSourceOrdinal (view.sourceOrdinal.getD row 0)
    return view.payloadFields row code tradingDay channelId sourceOrdinal) := by
  have hwords : ((List.finRange 10).map fun slot => (.ok (compactL2PhysicalV2BodyWordOffsets.get slot,
      i64ToLeBytes ((view.bodyWords88160.get slot).getD row 0)) : Result (ℕ × List UInt8))).mapM id =
      .ok ((List.finRange 10).map fun slot => (compactL2PhysicalV2BodyWordOffsets.get slot,
        i64ToLeBytes ((view.bodyWords88160.get slot).getD row 0))) := by
    rw [← Fallible.mapM_id_map_ok, List.map_map]
    rfl
  rw [payloadWrites, List.mapM_append, hwords]
  rcases okOr (u8TryFrom (view.recordKind.getD row 0))
      (compactL2V2BatchError "compact-L2 physical-v2 record_kind does not fit u8") with e | code
  · rfl
  rcases u32FromDayKey (view.dayKey.getD row 0) with e | tradingDay
  · rfl
  rcases i32FromChannelId (view.channelId.getD row 0) with e | channelId
  · rfl
  rcases u64FromSourceOrdinal (view.sourceOrdinal.getD row 0) with e | sourceOrdinal
  · rfl
  · rfl

/-- The writes of a row stay inside of its record. -/
lemma bounds_payloadWrites (hvalid : view.Valid) (hrow : row < view.rowCount) :
    ∀ write ∈ view.payloadWrites row, ∀ field, write = .ok field →
      field.1 + field.2.length ≤ compactL2FixedBinaryRecordWidthV1 := by
  have hwidth : compactL2FixedBinaryRecordWidthV1 = 168 := rfl
  have hheader : (window view.headerBytes1112 (row * 2) (row * 2 + 2)).length = 2 := by
    rw [length_window (by rw [hvalid.headerBytes]; omega), Nat.add_sub_cancel_left]
  have hsymbol : (window view.symbol (row * 9) (row * 9 + 9)).length = 9 := by
    rw [length_window (by rw [hvalid.symbol]; omega), Nat.add_sub_cancel_left]
  have hbody : (window view.bodyBytes8086 (row * 7) (row * 7 + 7)).length = 7 := by
    rw [length_window (by rw [hvalid.bodyBytes]; omega), Nat.add_sub_cancel_left]
  have hmagic : compactL2FixedIngressMagic.length = 4 := rfl
  have hconverted : ∀ {α : Type} {x : Result α} {f : α → ℕ × List UInt8} {field : ℕ × List UInt8},
      (∀ a, (f a).1 + (f a).2.length ≤ compactL2FixedBinaryRecordWidthV1) → f <$> x = .ok field →
        field.1 + field.2.length ≤ compactL2FixedBinaryRecordWidthV1 := by
    intro α x f field hf hx
    obtain ⟨a, -, rfl⟩ := map_eq_ok.mp hx
    exact hf a
  simp only [payloadWrites, List.forall_mem_append, List.forall_mem_cons, List.forall_mem_map,
    Except.ok.injEq, forall_eq', List.not_mem_nil, false_imp_iff, implies_true, and_true,
    length_u16ToLeBytes, length_i64ToLeBytes, hmagic, hheader, hsymbol, hbody]
  refine ⟨⟨by decide, by decide, by decide, by decide, fun field h => hconverted (fun a => ?_) h,
    by decide, fun field h => hconverted (fun a => ?_) h,
    fun field h => hconverted (fun a => ?_) h, by decide,
    fun field h => hconverted (fun a => ?_) h, by decide, by decide, by decide, by decide⟩,
    fun slot _ => ?_⟩
  · exact Nat.le_of_ble_eq_true rfl
  · rw [length_u32ToLeBytes]
    exact Nat.le_of_ble_eq_true rfl
  · rw [length_i32ToLeBytes]
    exact Nat.le_of_ble_eq_true rfl
  · rw [length_u64ToLeBytes]
    exact Nat.le_of_ble_eq_true rfl
  · have hslot : compactL2PhysicalV2BodyWordOffsets.get slot = 88 + 8 * slot :=
      CompactL2PhysicalV2Record.bodyWordOffset slot
    omega

/-- A row fails as the record path says, and its buffer keeps its length. -/
lemma run_writeRowInPlace (hvalid : view.Valid) (hrow : row < view.rowCount) {out : List UInt8}
    (hout : out.length = compactL2FixedBinaryRecordWidthV1) :
    ∃ buffer, buffer.length = compactL2FixedBinaryRecordWidthV1 ∧
      (view.writeRowInPlace row).run out =
        ((fun _ => ()) <$> view.writeFixedBinaryV1PayloadUnchecked row out, buffer) ∧
      ∀ record, view.writeFixedBinaryV1PayloadUnchecked row out = .ok record → buffer = record := by
  have hlength : (List.replicate out.length (0 : UInt8)).length =
      compactL2FixedBinaryRecordWidthV1 := by
    rw [List.length_replicate, hout]
  have hbounds := bounds_payloadWrites hvalid hrow
  rw [← hlength] at hbounds
  obtain ⟨buffer, hbuffer, hrun, hfields⟩ := Fallible.run_writeAll hbounds
  have hunchecked : view.writeFixedBinaryV1PayloadUnchecked row out = (do
      let fields ← (view.payloadWrites row).mapM id
      let record := overwriteAll (List.replicate out.length 0) fields
      let _ ← decodeCompactL2FixedBinaryHeaderV1 record
      return record) := by
    rw [writeFixedBinaryV1PayloadUnchecked, failIf_neg (not_le.mpr hrow), ok_bind,
      failIf_neg (not_not.mpr hout), ok_bind, mapM_payloadWrites]
    simp only [bind_assoc, pure_bind]
  refine ⟨buffer, hbuffer.trans hlength, ?_⟩
  rw [writeRowInPlace, failIf_neg (not_le.mpr hrow), Fallible.lift_ok_bind,
    Fallible.run_bind_of_ok Fallible.run_getState, failIf_neg (not_not.mpr hout),
    Fallible.lift_ok_bind, Fallible.run_bind_of_ok Fallible.run_setState, hunchecked]
  cases hmap : (view.payloadWrites row).mapM id with
  | error e =>
    rw [hmap] at hrun
    refine ⟨Fallible.run_bind_of_error hrun, fun record h => ?_⟩
    cases h
  | ok fields =>
    rw [hmap] at hrun
    rw [Fallible.run_bind_of_ok hrun, Fallible.run_bind_of_ok Fallible.run_getState, ok_bind,
      ← hfields fields hmap]
    dsimp only
    cases decodeCompactL2FixedBinaryHeaderV1 buffer with
    | error e =>
      refine ⟨rfl, fun record h => ?_⟩
      cases h
    | ok header =>
      refine ⟨rfl, fun record h => ?_⟩
      cases h
      rfl

/-! ### All rows -/

/-- What an append makes of a vector. -/
inductive AppendOutcome (view : CompactL2PhysicalV2BatchView) (out : List UInt8) :
    Result Unit × List UInt8 → Prop
  /-- All rows are behind the earlier contents, each as a valid record. -/
  | appended (records : List (List UInt8)) :
    view.Valid → out.length + view.rowCount * compactL2FixedBinaryRecordWidthV1 < 2 ^ 63 →
    (List.range view.rowCount).mapM view.payloadAt = .ok records →
    (∀ record ∈ records, record.length = compactL2FixedBinaryRecordWidthV1 ∧
      IsOk (decodeCompactL2FixedBinaryHeaderV1 record)) →
    records.flatten.length = view.rowCount * compactL2FixedBinaryRecordWidthV1 →
    AppendOutcome view out (.ok (), out ++ records.flatten)
  /-- The lanes or the length are rejected, and the vector is as before. -/
  | rejected (e : ArcadiaTioError) :
    ¬ view.Valid ∨ 2 ^ 63 ≤ out.length + view.rowCount * compactL2FixedBinaryRecordWidthV1 →
    AppendOutcome view out (.error e, out)
  /-- A row fails.  The earlier contents are followed by the rows before it, by its unfinished
  record and by zeros for the rows after it. -/
  | torn (e : ArcadiaTioError) (row : ℕ) (records : List (List UInt8)) (buffer : List UInt8) :
    row < view.rowCount → ¬ IsOk (view.payloadAt row) →
    (List.range row).mapM view.payloadAt = .ok records →
    (∀ record ∈ records, record.length = compactL2FixedBinaryRecordWidthV1 ∧
      IsOk (decodeCompactL2FixedBinaryHeaderV1 record)) →
    buffer.length = compactL2FixedBinaryRecordWidthV1 →
    AppendOutcome view out (.error e, out ++ (records.flatten ++ (buffer ++
      List.replicate ((view.rowCount - (row + 1)) * compactL2FixedBinaryRecordWidthV1) 0)))

section Rows

variable {out before : List UInt8}

variable (out) in
/-- One row, in the vector that has been grown for all of them. -/
lemma run_within_writeRowInPlace (hvalid : view.Valid) (hrow : row < view.rowCount)
    (hbefore : before.length = row * compactL2FixedBinaryRecordWidthV1) :
    ∃ buffer, buffer.length = compactL2FixedBinaryRecordWidthV1 ∧
      (∀ record, view.payloadAt row = .ok record → buffer = record) ∧
      (Fallible.within (out.length + row * compactL2FixedBinaryRecordWidthV1)
          compactL2FixedBinaryRecordWidthV1 (view.writeRowInPlace row)).run
        (out ++ (before ++
          List.replicate ((view.rowCount - row) * compactL2FixedBinaryRecordWidthV1) 0)) =
      ((fun _ => ()) <$> view.writeFixedBinaryV1PayloadUnchecked row
          (window (out ++ (before ++
              List.replicate ((view.rowCount - row) * compactL2FixedBinaryRecordWidthV1) 0))
            (out.length + row * compactL2FixedBinaryRecordWidthV1)
            (out.length + row * compactL2FixedBinaryRecordWidthV1 +
              compactL2FixedBinaryRecordWidthV1)),
        out ++ (before ++ (buffer ++
          List.replicate ((view.rowCount - (row + 1)) * compactL2FixedBinaryRecordWidthV1) 0))) := by
  have hwindow := length_window_grown out hrow hbefore
  obtain ⟨buffer, hbuffer, hrun, hok⟩ := run_writeRowInPlace hvalid hrow hwindow
  refine ⟨buffer, hbuffer, fun record hrecord => hok record ?_, ?_⟩
  · exact (writeFixedBinaryV1PayloadUnchecked_eq_ok hvalid hwindow).mpr
      (payloadAt_eq_ok.mp hrecord)
  · rw [Fallible.run_within, hrun, overwrite_grown hrow hbefore hbuffer]

lemma isOk_decode_of_payloadAt {record : List UInt8} (h : view.payloadAt row = .ok record) :
    IsOk (decodeCompactL2FixedBinaryHeaderV1 record) := by
  obtain ⟨v, -, hto⟩ := payloadAt_eq_ok.mp h
  obtain ⟨hbytes, hwell⟩ := CompactL2PhysicalV2Record.toFixedBinaryV1_eq_ok.mp hto
  exact ⟨_, (CompactL2PhysicalV2Record.eq_fixedBinaryV1Bytes_iff.mp hbytes).decode hwell⟩

lemma valid_of_mapM_payloadAt {rows : List ℕ} {records : List (List UInt8)}
    (h : rows.mapM view.payloadAt = .ok records) :
    ∀ record ∈ records, record.length = compactL2FixedBinaryRecordWidthV1 ∧
      IsOk (decodeCompactL2FixedBinaryHeaderV1 record) := by
  intro record hrecord
  obtain ⟨i, hi, hentry⟩ := List.mem_iff_getElem.mp hrecord
  have hlength := (mapM_eq_ok.mp h).length_eq
  have hrow := (List.forall₂_iff_get.mp (mapM_eq_ok.mp h)).2 i (hlength ▸ hi) hi
  rw [List.get_eq_getElem, List.get_eq_getElem, hentry] at hrow
  exact ⟨length_of_payloadAt hrow, isOk_decode_of_payloadAt hrow⟩

/-- The loop from a row on, when the rows before it are in their places. -/
lemma run_rows (hvalid : view.Valid)
    (hfits : out.length + view.rowCount * compactL2FixedBinaryRecordWidthV1 < 2 ^ 63)
    {records : List (List UInt8)} {count : ℕ}
    (hcount : row + count = view.rowCount)
    (hrecords : (List.range row).mapM view.payloadAt = .ok records) :
    AppendOutcome view out ((forM (List.range' row count) fun row =>
      Fallible.within (out.length + row * compactL2FixedBinaryRecordWidthV1)
        compactL2FixedBinaryRecordWidthV1 (view.writeRowInPlace row)).run
      (out ++ (records.flatten ++
        List.replicate ((view.rowCount - row) * compactL2FixedBinaryRecordWidthV1) 0))) := by
  have hbefore := length_flatten_of_mapM_payloadAt hrecords
  rw [List.length_range] at hbefore
  induction count generalizing row records with
  | zero =>
    obtain rfl : row = view.rowCount := hcount
    rw [Nat.sub_self, Nat.zero_mul, List.replicate_zero, List.append_nil]
    exact .appended records hvalid hfits hrecords (valid_of_mapM_payloadAt hrecords) hbefore
  | succ count ih =>
    have hrow : row < view.rowCount := by omega
    obtain ⟨buffer, hbuffer, hok, hrun⟩ := run_within_writeRowInPlace out hvalid hrow hbefore
    have hwindow := length_window_grown out hrow hbefore
    rw [List.range'_succ, List.forM_cons]
    cases hrecord : view.payloadAt row with
    | ok record =>
      obtain rfl := hok record hrecord
      rw [(writeFixedBinaryV1PayloadUnchecked_eq_ok hvalid hwindow).mpr
        (payloadAt_eq_ok.mp hrecord)] at hrun
      have hnext : (List.range (row + 1)).mapM view.payloadAt = .ok (records ++ [buffer]) := by
        rw [List.range_succ, List.mapM_append, hrecords, ok_bind, List.mapM_cons, hrecord]
        rfl
      have hlength := length_flatten_of_mapM_payloadAt hnext
      rw [List.length_range] at hlength
      have hout := ih (by omega) hnext hlength
      rw [List.flatten_append, List.flatten_singleton, List.append_assoc] at hout
      rwa [Fallible.run_bind_of_ok hrun]
    | error e =>
      have hfails : ¬ IsOk (view.payloadAt row) := by
        rw [hrecord]
        exact not_isOk_error
      cases hwrite : view.writeFixedBinaryV1PayloadUnchecked row (window (out ++ (records.flatten ++
          List.replicate ((view.rowCount - row) * compactL2FixedBinaryRecordWidthV1) 0))
        (out.length + row * compactL2FixedBinaryRecordWidthV1)
        (out.length + row * compactL2FixedBinaryRecordWidthV1 +
          compactL2FixedBinaryRecordWidthV1)) with
      | ok record =>
        have hpayload := payloadAt_eq_ok.mpr
          ((writeFixedBinaryV1PayloadUnchecked_eq_ok hvalid hwindow).mp hwrite)
        exact absurd ⟨record, hpayload⟩ hfails
      | error e' =>
        rw [hwrite] at hrun
        rw [Fallible.run_bind_of_error hrun]
        exact .torn e' row records buffer hrow hfails hrecords (valid_of_mapM_payloadAt hrecords)
          hbuffer

end Rows

lemma appendOutcome_appendInPlace (view : CompactL2PhysicalV2BatchView) (out : List UInt8) :
    AppendOutcome view out (view.appendInPlace.run out) := by
  have hwidth : compactL2FixedBinaryRecordWidthV1 = 168 := rfl
  have hbits : usizeBits = 64 := rfl
  rw [appendInPlace]
  cases hvalidate : view.validate with
  | error e =>
    refine .rejected e (Or.inl fun hvalid => ?_)
    rw [validate_eq_ok.mpr hvalid] at hvalidate
    cases hvalidate
  | ok _ =>
    have hvalid := validate_eq_ok.mp hvalidate
    rw [Fallible.lift_ok_bind]
    cases hmul : checkedMul usizeBits view.rowCount compactL2FixedBinaryRecordWidthV1 with
    | none =>
      rw [checkedMul_eq_none, hbits] at hmul
      exact .rejected _ (Or.inr (by omega))
    | some additional =>
      obtain ⟨rfl, -⟩ := checkedMul_eq_some.mp hmul
      rw [okOr_some, Fallible.lift_ok_bind, Fallible.run_bind_of_ok Fallible.run_getState]
      cases hadd : checkedAdd usizeBits out.length
          (view.rowCount * compactL2FixedBinaryRecordWidthV1) with
      | none =>
        rw [checkedAdd_eq_none, hbits] at hadd
        exact .rejected _ (Or.inr (by omega))
      | some newLen =>
        obtain ⟨rfl, -⟩ := checkedAdd_eq_some.mp hadd
        rw [okOr_some, Fallible.lift_ok_bind]
        by_cases hfits : 2 ^ 63 ≤ out.length + view.rowCount * compactL2FixedBinaryRecordWidthV1
        · rw [failIf_pos hfits]
          exact .rejected _ (Or.inr hfits)
        · rw [failIf_neg hfits, Fallible.lift_ok_bind,
            Fallible.run_bind_of_ok Fallible.run_setState, List.range_eq_range']
          exact run_rows hvalid (not_le.mp hfits) (Nat.zero_add _) rfl

/-- Both models of an append succeed together, with the same vector. -/
lemma appendInPlace_eq_ok {out out' : List UInt8} : view.appendInPlace.run out = (.ok (), out') ↔
    view.appendFixedBinaryV1Payloads out = .ok out' := by
  have houtcome := appendOutcome_appendInPlace view out
  constructor
  · intro h
    rw [h] at houtcome
    cases houtcome with
    | appended records hvalid hfits hrecords =>
      exact (appendFixedBinaryV1Payloads_eq_ok (validate_eq_ok.mpr hvalid)).mpr
        ⟨hfits, records, hrecords, rfl⟩
  · intro h
    have hvalidate : view.validate = .ok () := (bind_eq_ok.mp h).choose_spec.1
    obtain ⟨hfits, records, hrecords, rfl⟩ := (appendFixedBinaryV1Payloads_eq_ok hvalidate).mp h
    generalize view.appendInPlace.run out = outcome at houtcome
    cases houtcome with
    | appended records' _ _ hrecords' =>
      cases hrecords.symm.trans hrecords'
      rfl
    | rejected e hrejected =>
      rcases hrejected with hvalid | hlong
      · exact absurd (validate_eq_ok.mp hvalidate) hvalid
      · omega
    | torn e row records' buffer hrow hfails =>
      exact absurd (isOk_mapM.mp ⟨records, hrecords⟩ row (List.mem_range.mpr hrow)) hfails

/-- Every append, over lanes of any length and content. -/
theorem appendInPlace_spec (view : CompactL2PhysicalV2BatchView) (out : List UInt8) :
    AppendOutcome view out (view.appendInPlace.run out) ∧
      ∀ out', view.appendInPlace.run out = (.ok (), out') ↔
        view.appendFixedBinaryV1Payloads out = .ok out' :=
  ⟨appendOutcome_appendInPlace view out, fun _ => appendInPlace_eq_ok⟩

/-- A failed append leaves the vector as it was. -/
def AllOrNothing (view : CompactL2PhysicalV2BatchView) (out : List UInt8) : Prop :=
  ∀ e out', view.appendInPlace.run out = (.error e, out') → out' = out

/-- Two orders, the second one with a record kind that is no byte. -/
def Sample.mixedRows : CompactL2PhysicalV2BatchView :=
  { ofRecords [Sample.compactL2Order, Sample.compactL2Order] with recordKind := [1, 300] }

/-- The second row fails when the vector has been grown for both. -/
theorem appendInPlace_mixedRows : ¬ Sample.mixedRows.AllOrNothing [7] ∧
    (Sample.mixedRows.appendInPlace.run [7]).1 =
      .error (compactL2V2BatchError "compact-L2 physical-v2 record_kind does not fit u8") ∧
    (Sample.mixedRows.appendInPlace.run [7]).2.length = 1 + 2 * 168 := by
  have herror : (Sample.mixedRows.appendInPlace.run [7]).1 =
      .error (compactL2V2BatchError "compact-L2 physical-v2 record_kind does not fit u8") := by
    decide +kernel
  have hlength : (Sample.mixedRows.appendInPlace.run [7]).2.length = 1 + 2 * 168 := by
    decide +kernel
  refine ⟨fun h => ?_, herror, hlength⟩
  unfold AllOrNothing at h
  generalize Sample.mixedRows.appendInPlace.run [7] = p at h herror hlength
  obtain ⟨result, out'⟩ := p
  rw [h _ out' (congrArg (·, out') herror)] at hlength
  cases hlength

end CompactL2PhysicalV2BatchView

end ArcadiaTio.Ocb
