import ArcadiaTio.Ocb.CompactL2.BatchView
import Mathlib.Data.List.Chain

/-!
# Scanning the scalars of compact-L2 rows

A certification walks over the rows of an artifact with a running state: it compares the day, the
channel and the BizIndex of each row with what is expected, and keeps the counts and bounds that it
reports.  After the rows it has accepted, the state is a function of these rows alone
(`PhysicalV2ScanState.ofRows`), and the rows are accepted exactly when their BizIndexes follow each
other without a gap (`foldlM_scanPhysicalV2Row_eq_ok`).
-/

namespace ArcadiaTio.Ocb

open ArcadiaTio.Lib

/-! ### Expectations -/

/-- Compare an observed value with the one that is expected, if any. -/
def checkExpected {α : Type} [DecidableEq α] (expected : Option α) (observed : α)
    (error : α → ArcadiaTioError) : Result Unit :=
  match expected with
  | some value => failIf (observed ≠ value) (error value)
  | none => .ok ()

lemma checkExpected_eq_ok {α : Type} [DecidableEq α] {expected : Option α} {observed : α}
    {error : α → ArcadiaTioError} :
    checkExpected expected observed error = .ok () ↔ ∀ value ∈ expected, observed = value := by
  cases expected with
  | none => simp [checkExpected]
  | some value => simp [checkExpected, failIf_eq_ok]

/-- An unsigned integer of `w` bits, when the value fits it. -/
def unsignedTryFrom (w : ℕ) (value : ℤ) : Option ℕ :=
  if 0 ≤ value ∧ value < 2 ^ w then some value.toNat else none

lemma unsignedTryFrom_eq_some {w n : ℕ} {value : ℤ} :
    unsignedTryFrom w value = some n ↔ value = n ∧ n < 2 ^ w := by
  rw [unsignedTryFrom]
  constructor
  · intro h
    split at h
    · rename_i hvalue
      obtain rfl := Option.some.inj h
      have hcast : ((2 ^ w : ℕ) : ℤ) = 2 ^ w := by norm_cast
      omega
    · cases h
  · rintro ⟨rfl, hn⟩
    rw [if_pos ⟨Int.natCast_nonneg n, by exact_mod_cast hn⟩, Int.toNat_natCast]

/-! ### Options -/

/-- Options for certifying one compact-L2 physical-v2 OCB artifact. -/
structure CompactL2PhysicalV2CertificationOptions where
  expectedRowCount : Option UInt64
  expectedTradingDay : Option UInt32
  expectedChannelId : Option UInt32
  expectedFirstBizIndex : Option UInt64
  expectedLastBizIndex : Option UInt64
  verifyScalarContinuity : Bool
  verifyLegacyReconstruction : Bool
  expectedLegacyPayloadHashFnv1a64 : Option String
  maxRows : Option UInt64
  readThreads : ℕ
  maxInFlightRowGroups : ℕ

/-! ### Rows -/

/-- The scalars of one row. -/
@[ext]
structure CompactL2Scalars where
  dayKey : ℤ
  channelId : ℤ
  bizIndex : ℤ
  receiveNano : ℤ
  recordKind : ℤ
deriving DecidableEq

/-- The scalars of the rows of a view, in order. -/
def CompactL2PhysicalV2BatchView.scalars (view : CompactL2PhysicalV2BatchView) :
    List CompactL2Scalars :=
  (List.range view.rowCount).map fun row =>
    { dayKey := (view.dayKey.getD row 0).toInt
      channelId := (view.channelId.getD row 0).toInt
      bizIndex := (view.bizIndex.getD row 0).toInt
      receiveNano := (view.receiveNano.getD row 0).toInt
      recordKind := (view.recordKind.getD row 0).toInt }

@[simp] lemma CompactL2PhysicalV2BatchView.length_scalars (view : CompactL2PhysicalV2BatchView) :
    view.scalars.length = view.rowCount := by
  rw [scalars, List.length_map, List.length_range]

/-- What a scan has counted so far. -/
structure PhysicalV2ScanState where
  rows : ℕ
  orderRows : ℕ
  tradeRows : ℕ
  firstBizIndex : Option ℕ
  lastBizIndex : Option ℕ
  nextBizIndex : Option ℕ
  minReceiveNano : Option ℤ
  maxReceiveNano : Option ℤ
deriving DecidableEq

namespace PhysicalV2ScanState

/-- The state before the first row. -/
def default : PhysicalV2ScanState := ⟨0, 0, 0, none, none, none, none, none⟩

/-- Count a row as an order or a trade. -/
def countKind (state : PhysicalV2ScanState) (recordKind : ℤ) : Result PhysicalV2ScanState :=
  if unsignedTryFrom 8 recordKind = some compactL2RecordKindOrder.toNat then
    .ok { state with orderRows := saturatingAdd 64 state.orderRows 1 }
  else if unsignedTryFrom 8 recordKind = some compactL2RecordKindTrade.toNat then
    .ok { state with tradeRows := saturatingAdd 64 state.tradeRows 1 }
  else
    .error (ocbDiagnostic .payloadHeaderMismatch "compact-L2 physical-v2 record_kind is invalid")

end PhysicalV2ScanState

/-- The kind of failure of a BizIndex below the expected one. -/
def bizIndexRegressionKind (expected observed : ℕ) : OcbErrorKind :=
  if expected - observed = 1 then .bizIndexDuplicate else .bizIndexRegression

/-- Move the scan on by one row. -/
def scanPhysicalV2Row (options : CompactL2PhysicalV2CertificationOptions)
    (state : PhysicalV2ScanState) (row : CompactL2Scalars) : Result PhysicalV2ScanState := do
  let dayKey ← okOr (unsignedTryFrom 32 row.dayKey)
    (ocbDiagnostic .payloadHeaderMismatch "compact-L2 physical-v2 day_key is negative")
  checkExpected (options.expectedTradingDay.map UInt32.toNat) dayKey fun expected =>
    ocbDiagnostic .payloadHeaderMismatch
      s!"compact-L2 physical-v2 trading day mismatch: expected={expected} observed={dayKey}"
  let channelId ← okOr (unsignedTryFrom 32 row.channelId)
    (ocbDiagnostic .channelIdMismatch "compact-L2 physical-v2 channel_id is invalid")
  checkExpected (options.expectedChannelId.map UInt32.toNat) channelId fun expected =>
    ocbDiagnostic .channelIdMismatch
      s!"compact-L2 physical-v2 ChannelID mismatch: expected={expected} observed={channelId}"
  let bizIndex ← okOr (unsignedTryFrom 64 row.bizIndex)
    (ocbDiagnostic .payloadHeaderMismatch "compact-L2 physical-v2 BizIndex is negative")
  let expectedBizIndex := state.nextBizIndex.getD
    ((options.expectedFirstBizIndex.map UInt64.toNat).getD bizIndex)
  failIf (bizIndex < expectedBizIndex)
    (ocbDiagnostic (bizIndexRegressionKind expectedBizIndex bizIndex)
      (s!"compact-L2 physical-v2 BizIndex regressed: expected={expectedBizIndex} " ++
        s!"observed={bizIndex}"))
  failIf (bizIndex > expectedBizIndex)
    (ocbDiagnostic .bizIndexGap
      s!"compact-L2 physical-v2 BizIndex gap: expected={expectedBizIndex} observed={bizIndex}")
  let nextBizIndex ← okOr (checkedAdd 64 bizIndex 1)
    (ocbDiagnostic .bizIndexGap "compact-L2 physical-v2 BizIndex sequence overflows")
  let counted ← state.countKind row.recordKind
  let rows ← okOr (checkedAdd 64 state.rows 1)
    (ocbDiagnostic .rowCountMismatch "compact-L2 physical-v2 row count overflows")
  return { counted with
    rows
    firstBizIndex := some (state.firstBizIndex.getD bizIndex)
    lastBizIndex := some bizIndex
    nextBizIndex := some nextBizIndex
    minReceiveNano := some (state.minReceiveNano.elim row.receiveNano (min · row.receiveNano))
    maxReceiveNano := some (state.maxReceiveNano.elim row.receiveNano (max · row.receiveNano)) }

/-- Scan the rows of a batch after those before it. -/
def scanCompactL2PhysicalV2Batch (view : CompactL2PhysicalV2BatchView)
    (options : CompactL2PhysicalV2CertificationOptions) (state : PhysicalV2ScanState) :
    Result PhysicalV2ScanState := do
  view.validate
  view.scalars.foldlM (scanPhysicalV2Row options) state

/-! ### What a scan accepts -/

namespace CompactL2Scalars

/-- One row is what a certification of physical version 2 asks for. -/
structure Accepted (row : CompactL2Scalars) (options : CompactL2PhysicalV2CertificationOptions) :
    Prop where
  dayKey : ∃ day : ℕ, row.dayKey = day ∧ day < 2 ^ 32
  tradingDay : ∀ expected ∈ options.expectedTradingDay, row.dayKey = expected.toNat
  channelId : ∃ channel : ℕ, row.channelId = channel ∧ channel < 2 ^ 32
  expectedChannelId : ∀ expected ∈ options.expectedChannelId, row.channelId = expected.toNat
  bizIndex : ∃ biz : ℕ, row.bizIndex = biz ∧ biz + 1 < 2 ^ 64
  recordKind : row.recordKind = 1 ∨ row.recordKind = 2

end CompactL2Scalars

/-- The BizIndexes follow each other without a gap. -/
def Consecutive (rows : List CompactL2Scalars) : Prop :=
  rows.IsChain fun previous row => row.bizIndex = previous.bizIndex + 1

/-- A scan of physical version 2 accepts the rows. -/
structure PhysicalV2Accepts (options : CompactL2PhysicalV2CertificationOptions)
    (rows : List CompactL2Scalars) : Prop where
  row : ∀ row ∈ rows, row.Accepted options
  consecutive : Consecutive rows
  first : ∀ expected ∈ options.expectedFirstBizIndex, ∀ row ∈ rows.head?,
    row.bizIndex = expected.toNat
  count : rows.length < 2 ^ 64

/-- The state after the rows. -/
def PhysicalV2ScanState.ofRows (rows : List CompactL2Scalars) : PhysicalV2ScanState where
  rows := rows.length
  orderRows := rows.countP (·.recordKind = 1)
  tradeRows := rows.countP (·.recordKind = 2)
  firstBizIndex := rows.head?.map (·.bizIndex.toNat)
  lastBizIndex := rows.getLast?.map (·.bizIndex.toNat)
  nextBizIndex := rows.getLast?.map (·.bizIndex.toNat + 1)
  minReceiveNano := (rows.map CompactL2Scalars.receiveNano).min?
  maxReceiveNano := (rows.map CompactL2Scalars.receiveNano).max?

section Lists

variable {α : Type}

lemma min?_concat [Min α] (l : List α) (a : α) :
    (l ++ [a]).min? = some (l.min?.elim a (min · a)) := by
  cases l with
  | nil => rfl
  | cons b l => rw [List.cons_append, List.min?_cons', List.min?_cons', List.foldl_append]; rfl

lemma max?_concat [Max α] (l : List α) (a : α) :
    (l ++ [a]).max? = some (l.max?.elim a (max · a)) := by
  cases l with
  | nil => rfl
  | cons b l => rw [List.cons_append, List.max?_cons', List.max?_cons', List.foldl_append]; rfl

end Lists

variable {options : CompactL2PhysicalV2CertificationOptions} {rows before : List CompactL2Scalars}
  {row : CompactL2Scalars} {state : PhysicalV2ScanState}

lemma PhysicalV2Accepts.nil : PhysicalV2Accepts options [] where
  row := by simp
  consecutive := List.IsChain.nil
  first := by simp
  count := by simp

/-- The rows with one more are accepted when the row is and follows them. -/
lemma physicalV2Accepts_concat : PhysicalV2Accepts options (before ++ [row]) ↔
    PhysicalV2Accepts options before ∧ row.Accepted options ∧
      (∀ previous ∈ before.getLast?, row.bizIndex = previous.bizIndex + 1) ∧
      (before = [] → ∀ expected ∈ options.expectedFirstBizIndex, row.bizIndex = expected.toNat) ∧
      before.length + 1 < 2 ^ 64 := by
  constructor
  · intro h
    obtain ⟨hbefore, -, hlast⟩ := List.isChain_append.mp h.consecutive
    have hcount := h.count
    rw [List.length_append, List.length_singleton] at hcount
    refine ⟨⟨fun r hr => h.row r (by simp [hr]), hbefore, fun expected hexpected r hr => ?_,
      by omega⟩, h.row row (by simp), fun previous hprevious => ?_, ?_, hcount⟩
    · refine h.first expected hexpected r ?_
      cases before with
      | nil => cases hr
      | cons b before => exact hr
    · exact hlast previous hprevious row rfl
    · rintro rfl expected hexpected
      exact h.first expected hexpected row rfl
  · rintro ⟨h, hrow, hlast, hfirst, hcount⟩
    refine ⟨?_, ?_, ?_, ?_⟩
    · intro r hr
      rcases List.mem_append.mp hr with hr | hr
      · exact h.row r hr
      · rw [List.mem_singleton.mp hr]
        exact hrow
    · refine List.isChain_append.mpr ⟨h.consecutive, List.isChain_singleton _, ?_⟩
      rintro previous hprevious r ⟨⟩
      exact hlast previous hprevious
    · intro expected hexpected r hr
      cases before with
      | nil =>
        cases hr
        exact hfirst rfl expected hexpected
      | cons b before => exact h.first expected hexpected r hr
    · rw [List.length_append, List.length_singleton]
      exact hcount

lemma countKind_eq_ok {counted : PhysicalV2ScanState} :
    state.countKind row.recordKind = .ok counted ↔
      (row.recordKind = 1 ∧ counted = { state with orderRows := saturatingAdd 64 state.orderRows 1 })
      ∨ (row.recordKind = 2 ∧
        counted = { state with tradeRows := saturatingAdd 64 state.tradeRows 1 }) := by
  have horder : unsignedTryFrom 8 row.recordKind = some compactL2RecordKindOrder.toNat ↔
      row.recordKind = 1 := by
    rw [unsignedTryFrom_eq_some]
    exact ⟨And.left, fun h => ⟨h, by decide⟩⟩
  have htrade : unsignedTryFrom 8 row.recordKind = some compactL2RecordKindTrade.toNat ↔
      row.recordKind = 2 := by
    rw [unsignedTryFrom_eq_some]
    exact ⟨And.left, fun h => ⟨h, by decide⟩⟩
  simp only [PhysicalV2ScanState.countKind, horder, htrade]
  by_cases h1 : row.recordKind = 1
  · simp [h1, eq_comm]
  · by_cases h2 : row.recordKind = 2
    · simp [h2, eq_comm]
    · simp [h1, h2]

lemma PhysicalV2ScanState.ofRows_concat (hcount : before.length + 1 < 2 ^ 64)
    (hkind : row.recordKind = 1 ∨ row.recordKind = 2) :
    ∃ counted, (ofRows before).countKind row.recordKind = .ok counted ∧
      ofRows (before ++ [row]) = { counted with
        rows := before.length + 1
        firstBizIndex := some ((ofRows before).firstBizIndex.getD row.bizIndex.toNat)
        lastBizIndex := some row.bizIndex.toNat
        nextBizIndex := some (row.bizIndex.toNat + 1)
        minReceiveNano := some
          ((ofRows before).minReceiveNano.elim row.receiveNano (min · row.receiveNano))
        maxReceiveNano := some
          ((ofRows before).maxReceiveNano.elim row.receiveNano (max · row.receiveNano)) } := by
  have hfirst : (before ++ [row]).head?.map (·.bizIndex.toNat) =
      some ((ofRows before).firstBizIndex.getD row.bizIndex.toNat) := by
    cases before <;> rfl
  have horders : before.countP (·.recordKind = 1) ≤ before.length := List.countP_le_length
  have htrades : before.countP (·.recordKind = 2) ≤ before.length := List.countP_le_length
  have hsaturating : ∀ n, n ≤ before.length → saturatingAdd 64 n 1 = n + 1 := by
    intro n hn
    rw [saturatingAdd]
    omega
  have hmin := min?_concat (before.map CompactL2Scalars.receiveNano) row.receiveNano
  have hmax := max?_concat (before.map CompactL2Scalars.receiveNano) row.receiveNano
  rcases hkind with hkind | hkind
  · refine ⟨_, countKind_eq_ok.mpr (.inl ⟨hkind, rfl⟩), ?_⟩
    simp [ofRows, hkind, hsaturating _ horders, hmin, hmax]
  · refine ⟨_, countKind_eq_ok.mpr (.inr ⟨hkind, rfl⟩), ?_⟩
    simp [ofRows, hkind, hsaturating _ htrades, hmin, hmax]

/-- The BizIndex that a scan expects behind accepted rows. -/
lemma expectedBizIndex_eq_iff (hbefore : PhysicalV2Accepts options before) {biz : ℕ}
    (hrow : row.bizIndex = biz) :
    ((PhysicalV2ScanState.ofRows before).nextBizIndex.getD
        ((options.expectedFirstBizIndex.map UInt64.toNat).getD biz) = biz) ↔
      (∀ previous ∈ before.getLast?, row.bizIndex = previous.bizIndex + 1) ∧
      (before = [] → ∀ expected ∈ options.expectedFirstBizIndex,
        row.bizIndex = expected.toNat) := by
  rcases List.eq_nil_or_concat before with rfl | ⟨rest, previous, rfl⟩
  · cases hexpected : options.expectedFirstBizIndex with
    | none => simp [PhysicalV2ScanState.ofRows]
    | some expected =>
      simp [PhysicalV2ScanState.ofRows, hrow]
      omega
  · obtain ⟨b, hb, -⟩ := (hbefore.row previous (by simp)).bizIndex
    simp [PhysicalV2ScanState.ofRows, hb, hrow]
    omega

/-- One row is accepted behind accepted rows exactly when all of them are. -/
lemma scanPhysicalV2Row_eq_ok (hbefore : PhysicalV2Accepts options before) :
    scanPhysicalV2Row options (.ofRows before) row = .ok state ↔
      PhysicalV2Accepts options (before ++ [row]) ∧ state = .ofRows (before ++ [row]) := by
  rw [physicalV2Accepts_concat]
  constructor
  -- the checks of the row, in the order of the scan
  · intro h
    obtain ⟨day, hday, h⟩ := bind_eq_ok.mp h
    obtain ⟨_, hexpectedDay, h⟩ := bind_eq_ok.mp h
    obtain ⟨channel, hchannel, h⟩ := bind_eq_ok.mp h
    obtain ⟨_, hexpectedChannel, h⟩ := bind_eq_ok.mp h
    obtain ⟨biz, hbiz, h⟩ := bind_eq_ok.mp h
    obtain ⟨_, hge, h⟩ := bind_eq_ok.mp h
    obtain ⟨_, hle, h⟩ := bind_eq_ok.mp h
    obtain ⟨next, hnext, h⟩ := bind_eq_ok.mp h
    obtain ⟨counted, hcounted, h⟩ := bind_eq_ok.mp h
    obtain ⟨rows, hrows, h⟩ := bind_eq_ok.mp h
    rw [okOr_eq_ok, unsignedTryFrom_eq_some] at hday hchannel hbiz
    rw [okOr_eq_ok, checkedAdd_eq_some] at hnext hrows
    rw [checkExpected_eq_ok] at hexpectedDay hexpectedChannel
    rw [failIf_eq_ok] at hge hle
    have hkind : row.recordKind = 1 ∨ row.recordKind = 2 :=
      (countKind_eq_ok.mp hcounted).imp And.left And.left
    obtain ⟨hlast, hfirst⟩ := (expectedBizIndex_eq_iff hbefore hbiz.1).mp (by omega)
    obtain ⟨counted', hcounted', hstate⟩ := PhysicalV2ScanState.ofRows_concat hrows.2 hkind
    obtain rfl := Except.ok.inj (hcounted.symm.trans hcounted')
    have hbiz' : row.bizIndex.toNat = biz := by omega
    refine ⟨⟨hbefore, ⟨⟨day, hday⟩, fun expected hexpected => ?_, ⟨channel, hchannel⟩,
      fun expected hexpected => ?_, ⟨biz, hbiz.1, hnext.2⟩, hkind⟩, hlast, hfirst, hrows.2⟩, ?_⟩
    · rw [hday.1, hexpectedDay expected.toNat (by simpa using ⟨expected, hexpected, rfl⟩)]
    · rw [hchannel.1, hexpectedChannel expected.toNat (by simpa using ⟨expected, hexpected, rfl⟩)]
    · rw [hstate, hbiz']
      cases h
      rw [hnext.1, hrows.1]
      rfl
  · rintro ⟨⟨-, hrow, hlast, hfirst, hcount⟩, rfl⟩
    obtain ⟨day, hday⟩ := hrow.dayKey
    obtain ⟨channel, hchannel⟩ := hrow.channelId
    obtain ⟨biz, hbiz, hnext⟩ := hrow.bizIndex
    obtain ⟨counted, hcounted, hstate⟩ := PhysicalV2ScanState.ofRows_concat hcount hrow.recordKind
    have hexpected := (expectedBizIndex_eq_iff hbefore hbiz).mpr ⟨hlast, hfirst⟩
    have hbiz' : row.bizIndex.toNat = biz := by omega
    have hexpectedDay : ∀ value ∈ options.expectedTradingDay.map UInt32.toNat, day = value := by
      rintro value hvalue
      obtain ⟨expected, hexpected, rfl⟩ := Option.mem_map.mp hvalue
      have := hrow.tradingDay expected hexpected
      omega
    have hexpectedChannel :
        ∀ value ∈ options.expectedChannelId.map UInt32.toNat, channel = value := by
      rintro value hvalue
      obtain ⟨expected, hexpected, rfl⟩ := Option.mem_map.mp hvalue
      have := hrow.expectedChannelId expected hexpected
      omega
    rw [scanPhysicalV2Row, unsignedTryFrom_eq_some.mpr hday, okOr_some, ok_bind,
      checkExpected_eq_ok.mpr hexpectedDay, ok_bind, unsignedTryFrom_eq_some.mpr hchannel, okOr_some,
      ok_bind, checkExpected_eq_ok.mpr hexpectedChannel, ok_bind,
      unsignedTryFrom_eq_some.mpr ⟨hbiz, by omega⟩, okOr_some, ok_bind]
    dsimp only
    rw [failIf_neg (by omega), ok_bind, failIf_neg (by omega), ok_bind, checkedAdd_of_lt hnext,
      okOr_some, ok_bind, hcounted, ok_bind]
    rw [hstate, hbiz', show (PhysicalV2ScanState.ofRows before).rows = before.length from rfl,
      checkedAdd_of_lt hcount]
    rfl

lemma PhysicalV2Accepts.of_append {rest : List CompactL2Scalars}
    (h : PhysicalV2Accepts options (before ++ rest)) : PhysicalV2Accepts options before where
  row r hr := h.row r (by simp [hr])
  consecutive := (List.isChain_append.mp h.consecutive).1
  first expected hexpected r hr := by
    refine h.first expected hexpected r ?_
    cases before with
    | nil => cases hr
    | cons b before => exact hr
  count := by
    have hcount := h.count
    rw [List.length_append] at hcount
    omega

/-- The rows are accepted behind accepted rows exactly when all of them are, and the state is then
that of all of them. -/
theorem foldlM_scanPhysicalV2Row_eq_ok (hbefore : PhysicalV2Accepts options before) :
    rows.foldlM (scanPhysicalV2Row options) (.ofRows before) = .ok state ↔
      PhysicalV2Accepts options (before ++ rows) ∧ state = .ofRows (before ++ rows) := by
  induction rows generalizing before with
  | nil =>
    rw [List.append_nil]
    constructor
    · rintro ⟨⟩
      exact ⟨hbefore, rfl⟩
    · rintro ⟨-, rfl⟩
      rfl
  | cons row rest ih =>
    have happend : before ++ row :: rest = before ++ [row] ++ rest := by simp
    rw [List.foldlM_cons, bind_eq_ok, happend]
    constructor
    · rintro ⟨next, hnext, hrest⟩
      obtain ⟨haccepts, rfl⟩ := (scanPhysicalV2Row_eq_ok hbefore).mp hnext
      exact (ih haccepts).mp hrest
    · rintro ⟨haccepts, rfl⟩
      have hrow := haccepts.of_append
      exact ⟨_, (scanPhysicalV2Row_eq_ok hbefore).mpr ⟨hrow, rfl⟩, (ih hrow).mpr ⟨haccepts, rfl⟩⟩

end ArcadiaTio.Ocb
