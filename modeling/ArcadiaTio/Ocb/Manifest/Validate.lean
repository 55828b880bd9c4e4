import Mathlib.Algebra.Group.Action.Defs
import Mathlib.Algebra.Order.BigOperators.Group.List
import ArcadiaTio.Ocb.CompactL2.PhysicalV2Certification
import ArcadiaTio.Ocb.Manifest.Path

/-!
# Validating a manifest

A channel-sharded manifest (`manifest.rs`) lists one artifact for each channel, with its counts,
and may repeat the totals.  `validate` checks every entry and adds the counts up as it goes: the
row counts in checked arithmetic, the order and the trade counts in saturating arithmetic.

What exact arithmetic would promise of an accepted manifest is `ExactArithmetic`.  A saturated sum
can be equal to a count of `u64::MAX`, so an accepted manifest keeps the promise exactly when the
sums that are compared fit a word (`exactArithmetic_iff`).
-/

namespace ArcadiaTio.Ocb

open ArcadiaTio.Lib

/-! ### Manifests -/

/-- Fingerprint metadata of an artifact. -/
structure ChannelArtifactFingerprintV1 where
  contentHashFnv1a64 : Option String

/-- One channel artifact. -/
structure ChannelArtifactEntryV1 where
  channelId : UInt32
  relativePath : String
  rowCount : UInt64
  rowGroupCount : UInt32
  firstBizIndex : UInt64
  lastBizIndex : UInt64
  orderRecordCount : Option UInt64
  tradeRecordCount : Option UInt64
  payloadSha256 : Option String
  fingerprint : Option ChannelArtifactFingerprintV1

/-- The totals that a manifest may repeat. -/
structure ChannelShardedManifestCountsV1 where
  channels : Option UInt64
  rowCount : Option UInt64
  orderRecords : Option UInt64
  tradeRecords : Option UInt64

/-- Claims that a manifest must not make. -/
structure ChannelShardedManifestClaimsV1 where
  defaultReadiness : Bool
  runtimeReadiness : Bool
  performanceDominance : Bool

/-- A manifest: what was selected of a trading day, and the artifact of each channel. -/
structure ChannelShardedManifestV1 where
  schemaVersion : UInt16
  tradingDay : UInt32
  artifactFormat : String
  selectionScope : Option String
  channelIndivisible : Option Bool
  counts : ChannelShardedManifestCountsV1
  channels : List ChannelArtifactEntryV1
  claims : ChannelShardedManifestClaimsV1

/-- Reject a manifest. -/
def invalidManifest (message : String) : ArcadiaTioError := ocbDiagnostic .invalidManifest message

/-- The version of the schema that is supported. -/
def channelShardedManifestSchemaVersionV1 : UInt16 := 1

/-- The two layouts that a manifest can describe. -/
def isSupportedArtifactFormat (value : String) : Bool :=
  value == "compact-fixed-binary-l2-v1" || value == "compact-l2-physical-v2"

namespace ChannelArtifactEntryV1

/-- The number of keys from the first to the last one. -/
def expectedRows (c : ChannelArtifactEntryV1) : Option ℕ :=
  (checkedSub c.lastBizIndex.toNat c.firstBizIndex.toNat).bind (checkedAdd 64 · 1)

/-- A dense scope uses every key of the span; a declared subset may leave some out. -/
def RowMismatch (c : ChannelArtifactEntryV1) (declaredSubsetScope : Bool) (expected : ℕ) : Prop :=
  if declaredSubsetScope then c.rowCount.toNat > expected else expected ≠ c.rowCount.toNat

instance (c : ChannelArtifactEntryV1) (scope : Bool) (expected : ℕ) :
    Decidable (c.RowMismatch scope expected) := by
  unfold RowMismatch
  infer_instance

/-- Both record counts are given, and their saturated sum is not the row count. -/
def recordMismatch (c : ChannelArtifactEntryV1) : Bool :=
  match c.orderRecordCount, c.tradeRecordCount with
  | some order, some trade => saturatingAdd 64 order.toNat trade.toNat ≠ c.rowCount.toNat
  | _, _ => false

/-- Check one entry on its own. -/
def validateManifestOnly (c : ChannelArtifactEntryV1) (prefixScope declaredSubsetScope : Bool) :
    Result Unit := do
  failIf (c.channelId = 0)
    (invalidManifest "channel-sharded OCB manifest has invalid ChannelID")
  validateManifestRelativePath c.relativePath
  failIf (c.rowCount = 0)
    (invalidManifest "channel-sharded OCB manifest channel has zero rows")
  failIf (c.firstBizIndex = 0 ∨ c.lastBizIndex < c.firstBizIndex)
    (invalidManifest "channel-sharded OCB manifest BizIndex range is invalid")
  failIf (prefixScope = true ∧ c.firstBizIndex ≠ 1)
    (invalidManifest "channel-sharded OCB prefix manifest channel must start at BizIndex 1")
  let expectedRows ← okOr c.expectedRows
    (invalidManifest "channel-sharded OCB manifest BizIndex range overflows")
  failIf (c.RowMismatch declaredSubsetScope expectedRows)
    (invalidManifest "channel-sharded OCB manifest BizIndex range row mismatch")
  failIf c.recordMismatch
    (invalidManifest "channel-sharded OCB manifest order/trade count mismatch")
  validateOptionalHexHash c.payloadSha256 64 .invalidManifest
  validateOptionalHexHash (c.fingerprint.bind (·.contentHashFnv1a64)) 16 .invalidManifest

end ChannelArtifactEntryV1

/-- What the loop over the channels has met so far. -/
structure ManifestTotals where
  seenChannels : List UInt32
  lastChannelId : Option UInt32
  rows : ℕ
  orderRows : ℕ
  tradeRows : ℕ

/-- The totals of no channel. -/
def ManifestTotals.empty : ManifestTotals := ⟨[], none, 0, 0, 0⟩

/-- Add a count that may be missing. -/
def addRecorded (total : ℕ) (count : Option UInt64) : ℕ :=
  match count with
  | some value => saturatingAdd 64 total value.toNat
  | none => total

/-- Check one channel and add it to the totals. -/
def ManifestTotals.add (prefixScope declaredSubsetScope : Bool) (t : ManifestTotals)
    (c : ChannelArtifactEntryV1) : Result ManifestTotals := do
  c.validateManifestOnly prefixScope declaredSubsetScope
  failIf (c.channelId ∈ t.seenChannels)
    (invalidManifest "channel-sharded OCB manifest has duplicate ChannelID")
  failIf (t.lastChannelId.any (c.channelId ≤ ·))
    (invalidManifest "channel-sharded OCB manifest channels must be sorted by ChannelID")
  let rows ← okOr (checkedAdd 64 t.rows c.rowCount.toNat)
    (invalidManifest "channel-sharded OCB manifest aggregate row count overflows")
  return {
    seenChannels := c.channelId :: t.seenChannels
    lastChannelId := some c.channelId
    rows
    orderRows := addRecorded t.orderRows c.orderRecordCount
    tradeRows := addRecorded t.tradeRows c.tradeRecordCount }

namespace ChannelShardedManifestV1

variable (m : ChannelShardedManifestV1)

/-- The scopes whose channels start at key 1. -/
def prefixScope : Bool :=
  m.selectionScope == some "full-day" || m.selectionScope == some "contiguous-prefix"

/-- The manifest declares that it is about a subset. -/
def declaredSubsetScope : Bool := m.selectionScope == some "declared-subset"

/-- Validate the manifest without opening artifact files. -/
def validate : Result Unit := do
  failIf (m.schemaVersion ≠ channelShardedManifestSchemaVersionV1)
    (ocbDiagnostic .unsupportedSchemaVersion
      s!"unsupported channel-sharded OCB manifest schema version: {m.schemaVersion}")
  failIf (m.tradingDay = 0)
    (invalidManifest "channel-sharded OCB manifest trading day is zero")
  failIf (isSupportedArtifactFormat m.artifactFormat = false)
    (invalidManifest "unsupported channel-sharded OCB artifact format")
  failIf (m.channelIndivisible = some false)
    (invalidManifest "channel-sharded OCB manifest must declare channel_indivisible = true")
  failIf (m.claims.defaultReadiness || m.claims.runtimeReadiness || m.claims.performanceDominance)
    (invalidManifest "channel-sharded OCB manifest must not assert readiness/performance claims")
  failIf m.channels.isEmpty
    (invalidManifest "channel-sharded OCB manifest has no channels")
  failIf (m.counts.channels.any (·.toNat ≠ m.channels.length))
    (invalidManifest "channel-sharded OCB manifest channel count mismatch")
  let totals ← m.channels.foldlM (ManifestTotals.add m.prefixScope m.declaredSubsetScope) .empty
  failIf (m.counts.rowCount.any (·.toNat ≠ totals.rows))
    (invalidManifest "channel-sharded OCB manifest aggregate row count mismatch")
  failIf (m.counts.orderRecords.any (·.toNat ≠ totals.orderRows))
    (invalidManifest "channel-sharded OCB manifest aggregate order count mismatch")
  failIf (m.counts.tradeRecords.any (·.toNat ≠ totals.tradeRows))
    (invalidManifest "channel-sharded OCB manifest aggregate trade count mismatch")

end ChannelShardedManifestV1

/-- A path-free summary of a manifest. -/
structure SafeManifestSummary where
  schemaVersion : UInt16
  tradingDay : UInt32
  artifactFormat : String
  channelCount : ℕ
  rowCount : ℕ
  rowGroupCount : ℕ
  firstChannelId : Option UInt32
  lastChannelId : Option UInt32
  pathRedacted : Bool

/-- Produce the summary; `none` when a sum overflows. -/
def ChannelShardedManifestV1.safeSummary (m : ChannelShardedManifestV1) :
    Option SafeManifestSummary := do
  let rowCount ← checkedSum 64 (m.channels.map (·.rowCount.toNat))
  let rowGroupCount ← checkedSum 64 (m.channels.map (·.rowGroupCount.toNat))
  return {
    schemaVersion := m.schemaVersion
    tradingDay := m.tradingDay
    artifactFormat := m.artifactFormat
    channelCount := m.channels.length
    rowCount
    rowGroupCount
    firstChannelId := m.channels.head?.map (·.channelId)
    lastChannelId := m.channels.getLast?.map (·.channelId)
    pathRedacted := true }

/-- The counts of the report on one certified channel. -/
structure ChannelReportCounts where
  rowCount : UInt64
  rowGroupCount : UInt32

/-- The totals of a certification report over its channels; `none` when a sum overflows. -/
def certificationTotals (reports : List ChannelReportCounts) : Option (ℕ × ℕ) := do
  let rowCount ← checkedSum 64 (reports.map (·.rowCount.toNat))
  let rowGroupCount ← checkedSum 64 (reports.map (·.rowGroupCount.toNat))
  return (rowCount, rowGroupCount)

/-- The row total that both certifiers compare with their limit. -/
def manifestRowTotal (m : ChannelShardedManifestV1) (overflow : ArcadiaTioError) : Result ℕ :=
  okOr (checkedSum 64 (m.channels.map (·.rowCount.toNat))) overflow

/-! ### Exact arithmetic -/

/-- The counts that some channels record, of one kind. -/
def recordedCounts (count : ChannelArtifactEntryV1 → Option UInt64)
    (cs : List ChannelArtifactEntryV1) : List ℕ :=
  cs.filterMap fun c => (count c).map UInt64.toNat

namespace ChannelShardedManifestV1

/-- The row counts of the channels. -/
def rowCounts (m : ChannelShardedManifestV1) : List ℕ := m.channels.map (·.rowCount.toNat)

/-- The row groups of each channel. -/
def rowGroupCounts (m : ChannelShardedManifestV1) : List ℕ :=
  m.channels.map (·.rowGroupCount.toNat)

/-- What a manifest says, read in unbounded integers. -/
structure ExactArithmetic (m : ChannelShardedManifestV1) : Prop where
  ids_pos : ∀ c ∈ m.channels, 0 < c.channelId.toNat
  ids_increasing : (m.channels.map (·.channelId.toNat)).Pairwise (· < ·)
  rows_pos : ∀ c ∈ m.channels, 0 < c.rowCount.toNat
  rows_span : ∀ c ∈ m.channels, m.declaredSubsetScope = false →
    (c.rowCount.toNat : ℤ) = c.lastBizIndex.toNat - c.firstBizIndex.toNat + 1
  rows_subset : ∀ c ∈ m.channels, m.declaredSubsetScope = true →
    (c.rowCount.toNat : ℤ) ≤ c.lastBizIndex.toNat - c.firstBizIndex.toNat + 1
  first_eq_one : ∀ c ∈ m.channels, m.prefixScope = true → c.firstBizIndex = 1
  records : ∀ c ∈ m.channels, ∀ order trade, c.orderRecordCount = some order →
    c.tradeRecordCount = some trade → order.toNat + trade.toNat = c.rowCount.toNat
  rows_fit : m.rowCounts.sum < 2 ^ 64
  channels_total : ∀ n, m.counts.channels = some n → n.toNat = m.channels.length
  rows_total : ∀ n, m.counts.rowCount = some n → n.toNat = m.rowCounts.sum
  orders_total : ∀ n, m.counts.orderRecords = some n →
    n.toNat = (recordedCounts (·.orderRecordCount) m.channels).sum
  trades_total : ∀ n, m.counts.tradeRecords = some n →
    n.toNat = (recordedCounts (·.tradeRecordCount) m.channels).sum
  /-- The summary does not overflow. -/
  summary : ∃ summary, m.safeSummary = some summary ∧ summary.channelCount = m.channels.length ∧
    summary.rowCount = m.rowCounts.sum ∧ summary.rowGroupCount = m.rowGroupCounts.sum
  /-- Nor does the row total of the certifiers. -/
  rowTotal : ∀ overflow, manifestRowTotal m overflow = .ok m.rowCounts.sum
  /-- Nor do the totals of a report, whatever row-group counts its channels have. -/
  reportTotals : ∀ reports : List ChannelReportCounts,
    reports.map (·.rowCount.toNat) = m.rowCounts →
      certificationTotals reports =
        some (m.rowCounts.sum, (reports.map (·.rowGroupCount.toNat)).sum)

/-- The sums that are compared in saturating arithmetic fit a word. -/
structure CountsFit (m : ChannelShardedManifestV1) : Prop where
  records : ∀ c ∈ m.channels, ∀ order trade, c.orderRecordCount = some order →
    c.tradeRecordCount = some trade → order.toNat + trade.toNat < 2 ^ 64
  orders : m.counts.orderRecords.isSome →
    (recordedCounts (·.orderRecordCount) m.channels).sum < 2 ^ 64
  trades : m.counts.tradeRecords.isSome →
    (recordedCounts (·.tradeRecordCount) m.channels).sum < 2 ^ 64

end ChannelShardedManifestV1

/-! ### One channel -/

namespace ChannelArtifactEntryV1

/-- What the check of an entry says of its numbers. -/
structure Valid (c : ChannelArtifactEntryV1) (prefixScope declaredSubsetScope : Bool) : Prop where
  id_pos : 0 < c.channelId.toNat
  path : IsOk (validateManifestRelativePath c.relativePath)
  row_pos : 0 < c.rowCount.toNat
  first_le : c.firstBizIndex.toNat ≤ c.lastBizIndex.toNat
  first_eq_one : prefixScope = true → c.firstBizIndex = 1
  span : declaredSubsetScope = false →
    c.rowCount.toNat = c.lastBizIndex.toNat - c.firstBizIndex.toNat + 1
  subset : declaredSubsetScope = true →
    c.rowCount.toNat ≤ c.lastBizIndex.toNat - c.firstBizIndex.toNat + 1
  records : ∀ order trade, c.orderRecordCount = some order → c.tradeRecordCount = some trade →
    saturatingAdd 64 order.toNat trade.toNat = c.rowCount.toNat

variable {c : ChannelArtifactEntryV1} {prefixScope declaredSubsetScope : Bool}

lemma valid_of_validateManifestOnly
    (h : c.validateManifestOnly prefixScope declaredSubsetScope = .ok ()) :
    c.Valid prefixScope declaredSubsetScope := by
  rw [validateManifestOnly] at h
  obtain ⟨_, hid, h⟩ := bind_eq_ok.mp h
  obtain ⟨_, hpath, h⟩ := bind_eq_ok.mp h
  obtain ⟨_, hrow, h⟩ := bind_eq_ok.mp h
  obtain ⟨_, hrange, h⟩ := bind_eq_ok.mp h
  obtain ⟨_, hprefix, h⟩ := bind_eq_ok.mp h
  obtain ⟨expected, hexpected, h⟩ := bind_eq_ok.mp h
  obtain ⟨_, hspan, h⟩ := bind_eq_ok.mp h
  obtain ⟨_, hrecords, -⟩ := bind_eq_ok.mp h
  rw [failIf_eq_ok] at hid hrow hrange hprefix hspan hrecords
  rw [not_or] at hrange
  have hle : c.firstBizIndex.toNat ≤ c.lastBizIndex.toNat :=
    UInt64.le_iff_toNat_le.mp (UInt64.not_lt.mp hrange.2)
  obtain ⟨span, hspanEq, hsum⟩ := Option.bind_eq_some_iff.mp (okOr_eq_ok.mp hexpected)
  obtain ⟨rfl, -⟩ := checkedSub_eq_some.mp hspanEq
  obtain ⟨rfl, -⟩ := checkedAdd_eq_some.mp hsum
  rw [RowMismatch] at hspan
  refine
    { id_pos := ?_, path := ⟨_, hpath⟩, row_pos := ?_, first_le := hle, first_eq_one := ?_
      span := ?_, subset := ?_, records := ?_ }
  · rw [Nat.pos_iff_ne_zero]
    exact fun hzero => hid (UInt32.toNat_inj.mp hzero)
  · rw [Nat.pos_iff_ne_zero]
    exact fun hzero => hrow (UInt64.toNat_inj.mp hzero)
  · intro hscope
    by_contra hne
    exact hprefix ⟨hscope, hne⟩
  · intro hscope
    rw [hscope, if_neg Bool.false_ne_true] at hspan
    exact (not_not.mp hspan).symm
  · intro hscope
    rw [hscope, if_pos rfl] at hspan
    exact not_lt.mp hspan
  · intro order trade horder htrade
    by_contra hne
    refine hrecords ?_
    rw [recordMismatch, horder, htrade]
    exact decide_eq_true hne

end ChannelArtifactEntryV1

/-! ### The loop over the channels -/

namespace ManifestTotals

variable {prefixScope declaredSubsetScope : Bool} {t t' : ManifestTotals}
  {c : ChannelArtifactEntryV1} {done : List ChannelArtifactEntryV1}

/-- The totals stand for the channels that were added so far. -/
structure Accounts (prefixScope declaredSubsetScope : Bool) (done : List ChannelArtifactEntryV1)
    (t : ManifestTotals) : Prop where
  valid : ∀ c ∈ done, c.Valid prefixScope declaredSubsetScope
  ids : (done.map (·.channelId.toNat)).Pairwise (· < ·)
  last : ∀ c ∈ done, ∃ l, t.lastChannelId = some l ∧ c.channelId.toNat ≤ l.toNat
  rows : t.rows = (done.map (·.rowCount.toNat)).sum
  rows_lt : t.rows < 2 ^ 64
  orderRows : t.orderRows = min (recordedCounts (·.orderRecordCount) done).sum (2 ^ 64 - 1)
  tradeRows : t.tradeRows = min (recordedCounts (·.tradeRecordCount) done).sum (2 ^ 64 - 1)

lemma accounts_empty : empty.Accounts prefixScope declaredSubsetScope [] where
  valid _ hc := absurd hc List.not_mem_nil
  ids := List.Pairwise.nil
  last _ hc := absurd hc List.not_mem_nil
  rows := rfl
  rows_lt := by decide
  orderRows := rfl
  tradeRows := rfl

/-- A saturated total with one more channel. -/
lemma addRecorded_eq (count : ChannelArtifactEntryV1 → Option UInt64) :
    addRecorded (min (recordedCounts count done).sum (2 ^ 64 - 1)) (count c) =
      min (recordedCounts count (done ++ [c])).sum (2 ^ 64 - 1) := by
  have happend : recordedCounts count (done ++ [c]) =
      recordedCounts count done ++ ((count c).map UInt64.toNat).toList := by
    rw [recordedCounts, recordedCounts, List.filterMap_append]
    cases hcount : count c with
    | none => rw [List.filterMap_cons_none (by rw [hcount]; rfl)]; rfl
    | some value => rw [List.filterMap_cons_some (by rw [hcount]; rfl)]; rfl
  rw [happend, List.sum_append]
  cases count c with
  | none => rfl
  | some value =>
    have hsingle : ((some value).map UInt64.toNat).toList.sum = value.toNat := List.sum_singleton
    rw [hsingle, addRecorded, saturatingAdd]
    omega

/-- One round of the loop. -/
lemma Accounts.add (h : t.Accounts prefixScope declaredSubsetScope done)
    (hadd : t.add prefixScope declaredSubsetScope c = .ok t') :
    t'.Accounts prefixScope declaredSubsetScope (done ++ [c]) := by
  rw [ManifestTotals.add] at hadd
  obtain ⟨_, hvalid, hadd⟩ := bind_eq_ok.mp hadd
  obtain ⟨_, -, hadd⟩ := bind_eq_ok.mp hadd
  obtain ⟨_, hsorted, hadd⟩ := bind_eq_ok.mp hadd
  obtain ⟨rows, hrows, hadd⟩ := bind_eq_ok.mp hadd
  obtain ⟨rfl, hlt⟩ := checkedAdd_eq_some.mp (okOr_eq_ok.mp hrows)
  cases hadd
  rw [failIf_eq_ok] at hsorted
  -- every earlier channel is at most the last one, which is below this one
  have hbelow : ∀ a ∈ done, a.channelId.toNat < c.channelId.toNat := by
    intro a ha
    obtain ⟨l, hl, hle⟩ := h.last a ha
    rw [hl, Option.any_some, decide_eq_true_eq, UInt32.le_iff_toNat_le] at hsorted
    omega
  refine
    { valid := ?_, ids := ?_, last := ?_, rows := ?_, rows_lt := hlt, orderRows := ?_
      tradeRows := ?_ }
  · intro a ha
    rcases List.mem_append.mp ha with ha | ha
    · exact h.valid a ha
    · rw [List.mem_singleton.mp ha]
      exact ChannelArtifactEntryV1.valid_of_validateManifestOnly hvalid
  · rw [List.map_append, List.pairwise_append]
    refine ⟨h.ids, List.pairwise_singleton _ _, ?_⟩
    intro x hx y hy
    obtain ⟨a, ha, rfl⟩ := List.mem_map.mp hx
    rw [List.mem_singleton.mp hy]
    exact hbelow a ha
  · intro a ha
    refine ⟨c.channelId, rfl, ?_⟩
    rcases List.mem_append.mp ha with ha | ha
    · exact (hbelow a ha).le
    · rw [List.mem_singleton.mp ha]
  · rw [List.map_append, List.sum_append, ← h.rows]
    rfl
  · rw [← addRecorded_eq, ← h.orderRows]
  · rw [← addRecorded_eq, ← h.tradeRows]

/-- The whole loop. -/
lemma accounts_of_foldlM {cs : List ChannelArtifactEntryV1}
    (h : t.Accounts prefixScope declaredSubsetScope done)
    (hfold : cs.foldlM (ManifestTotals.add prefixScope declaredSubsetScope) t = .ok t') :
    t'.Accounts prefixScope declaredSubsetScope (done ++ cs) := by
  induction cs generalizing t done with
  | nil =>
    cases hfold
    rwa [List.append_nil]
  | cons c cs ih =>
    rw [List.foldlM_cons] at hfold
    obtain ⟨t₁, hadd, hfold⟩ := bind_eq_ok.mp hfold
    have hrest := ih (h.add hadd) hfold
    rwa [List.append_assoc] at hrest

end ManifestTotals

/-! ### The promise of an accepted manifest -/

namespace ChannelShardedManifestV1

variable {m : ChannelShardedManifestV1}

/-- What an accepted manifest says: its channels are accounted for, and the totals it repeats are
those of the loop. -/
structure Accepted (m : ChannelShardedManifestV1) (totals : ManifestTotals) : Prop where
  accounts : totals.Accounts m.prefixScope m.declaredSubsetScope m.channels
  channels : ∀ n, m.counts.channels = some n → n.toNat = m.channels.length
  rows : ∀ n, m.counts.rowCount = some n → n.toNat = totals.rows
  orders : ∀ n, m.counts.orderRecords = some n → n.toNat = totals.orderRows
  trades : ∀ n, m.counts.tradeRecords = some n → n.toNat = totals.tradeRows

/-- A total that is repeated is compared. -/
lemma eq_of_not_any {count : Option UInt64} {total : ℕ} {n : UInt64}
    (h : ¬ count.any (fun value => decide (value.toNat ≠ total)) = true) (hn : count = some n) :
    n.toNat = total := by
  by_contra hne
  refine h ?_
  rw [hn]
  exact decide_eq_true hne

lemma accepted_of_validate (h : m.validate = .ok ()) : ∃ totals, m.Accepted totals := by
  rw [validate] at h
  obtain ⟨_, -, h⟩ := bind_eq_ok.mp h
  obtain ⟨_, -, h⟩ := bind_eq_ok.mp h
  obtain ⟨_, -, h⟩ := bind_eq_ok.mp h
  obtain ⟨_, -, h⟩ := bind_eq_ok.mp h
  obtain ⟨_, -, h⟩ := bind_eq_ok.mp h
  obtain ⟨_, -, h⟩ := bind_eq_ok.mp h
  obtain ⟨_, hchannels, h⟩ := bind_eq_ok.mp h
  obtain ⟨totals, hfold, h⟩ := bind_eq_ok.mp h
  obtain ⟨_, hrows, h⟩ := bind_eq_ok.mp h
  obtain ⟨_, horders, htrades⟩ := bind_eq_ok.mp h
  exact ⟨totals,
    { accounts := ManifestTotals.accounts_of_foldlM ManifestTotals.accounts_empty hfold
      channels := fun _ => eq_of_not_any (failIf_eq_ok.mp hchannels)
      rows := fun _ => eq_of_not_any (failIf_eq_ok.mp hrows)
      orders := fun _ => eq_of_not_any (failIf_eq_ok.mp horders)
      trades := fun _ => eq_of_not_any (failIf_eq_ok.mp htrades) }⟩

/-- Strictly increasing channel identifiers are fewer than `2 ^ 32`. -/
lemma length_lt_of_increasing {cs : List ChannelArtifactEntryV1}
    (hincreasing : (cs.map (·.channelId.toNat)).Pairwise (· < ·)) : cs.length ≤ 2 ^ 32 := by
  have hnodup : (cs.map (·.channelId.toNat)).Nodup := hincreasing.imp fun hlt => hlt.ne
  have hsubset : cs.map (·.channelId.toNat) ⊆ List.range (2 ^ 32) := by
    intro x hx
    obtain ⟨c, -, rfl⟩ := List.mem_map.mp hx
    exact List.mem_range.mpr c.channelId.toNat_lt
  have hle := (hnodup.subperm hsubset).length_le
  rwa [List.length_map, List.length_range] at hle

/-- So many row-group counts fit a word. -/
lemma sum_lt_of_length_le {counts : List ℕ} (hlen : counts.length ≤ 2 ^ 32)
    (hle : ∀ n ∈ counts, n ≤ 2 ^ 32 - 1) : counts.sum < 2 ^ 64 := by
  have hsum : counts.sum ≤ counts.length • (2 ^ 32 - 1) := List.sum_le_card_nsmul _ _ hle
  rw [smul_eq_mul] at hsum
  have hbound : counts.length * (2 ^ 32 - 1) ≤ 2 ^ 32 * (2 ^ 32 - 1) :=
    Nat.mul_le_mul_right _ hlen
  omega

lemma le_of_mem_rowGroupCounts {α : Type} {l : List α} {f : α → UInt32} :
    ∀ n ∈ l.map (fun x => (f x).toNat), n ≤ 2 ^ 32 - 1 := by
  intro n hn
  obtain ⟨x, -, rfl⟩ := List.mem_map.mp hn
  have hlt := (f x).toNat_lt
  omega

section Promise

variable {totals : ManifestTotals} (h : m.Accepted totals)

include h in
lemma Accepted.rowCounts_lt : m.rowCounts.sum < 2 ^ 64 := by
  rw [rowCounts, ← h.accounts.rows]
  exact h.accounts.rows_lt

include h in
lemma Accepted.summary : ∃ summary, m.safeSummary = some summary ∧
    summary.channelCount = m.channels.length ∧ summary.rowCount = m.rowCounts.sum ∧
    summary.rowGroupCount = m.rowGroupCounts.sum := by
  have hgroups : m.rowGroupCounts.sum < 2 ^ 64 := by
    refine sum_lt_of_length_le ?_ le_of_mem_rowGroupCounts
    rw [rowGroupCounts, List.length_map]
    exact length_lt_of_increasing h.accounts.ids
  have hrows : checkedSum 64 (m.channels.map (·.rowCount.toNat)) = some m.rowCounts.sum :=
    checkedSum_of_lt h.rowCounts_lt
  have hgroupSum : checkedSum 64 (m.channels.map (·.rowGroupCount.toNat)) =
      some m.rowGroupCounts.sum := checkedSum_of_lt hgroups
  rw [safeSummary, hrows, hgroupSum]
  exact ⟨_, rfl, rfl, rfl, rfl⟩

include h in
lemma Accepted.reportTotals {reports : List ChannelReportCounts}
    (hreports : reports.map (·.rowCount.toNat) = m.rowCounts) : certificationTotals reports =
      some (m.rowCounts.sum, (reports.map (·.rowGroupCount.toNat)).sum) := by
  have hlen : reports.length = m.channels.length := by
    have hmap := congrArg List.length hreports
    rwa [List.length_map, rowCounts, List.length_map] at hmap
  have hgroups : (reports.map (·.rowGroupCount.toNat)).sum < 2 ^ 64 := by
    refine sum_lt_of_length_le ?_ le_of_mem_rowGroupCounts
    rw [List.length_map, hlen]
    exact length_lt_of_increasing h.accounts.ids
  rw [certificationTotals, hreports, checkedSum_of_lt h.rowCounts_lt, checkedSum_of_lt hgroups]
  rfl

include h in
/-- Sums that fit are not cut, so the comparisons are exact. -/
lemma Accepted.exactArithmetic (hfit : m.CountsFit) : m.ExactArithmetic where
  ids_pos c hc := (h.accounts.valid c hc).id_pos
  ids_increasing := h.accounts.ids
  rows_pos c hc := (h.accounts.valid c hc).row_pos
  rows_span c hc hscope := by
    have hspan := (h.accounts.valid c hc).span hscope
    have hle := (h.accounts.valid c hc).first_le
    omega
  rows_subset c hc hscope := by
    have hspan := (h.accounts.valid c hc).subset hscope
    have hle := (h.accounts.valid c hc).first_le
    omega
  first_eq_one c hc := (h.accounts.valid c hc).first_eq_one
  records c hc order trade horder htrade := by
    have hsum := (h.accounts.valid c hc).records order trade horder htrade
    have hlt := hfit.records c hc order trade horder htrade
    rw [saturatingAdd] at hsum
    omega
  rows_fit := h.rowCounts_lt
  channels_total := h.channels
  rows_total n hn := (h.rows n hn).trans h.accounts.rows
  orders_total n hn := by
    have hlt := hfit.orders (Option.isSome_of_eq_some hn)
    rw [h.orders n hn, h.accounts.orderRows]
    omega
  trades_total n hn := by
    have hlt := hfit.trades (Option.isSome_of_eq_some hn)
    rw [h.trades n hn, h.accounts.tradeRows]
    omega
  summary := h.summary
  rowTotal overflow := by
    have hsum := checkedSum_of_lt h.rowCounts_lt
    rw [rowCounts] at hsum ⊢
    rw [manifestRowTotal, hsum, okOr_some]
  reportTotals _ := h.reportTotals

end Promise

/-- Exact sums are compared with words, so they fit. -/
lemma ExactArithmetic.countsFit (h : m.ExactArithmetic) : m.CountsFit where
  records c hc order trade horder htrade := by
    rw [h.records c hc order trade horder htrade]
    exact c.rowCount.toNat_lt
  orders hsome := by
    obtain ⟨n, hn⟩ := Option.isSome_iff_exists.mp hsome
    rw [← h.orders_total n hn]
    exact n.toNat_lt
  trades hsome := by
    obtain ⟨n, hn⟩ := Option.isSome_iff_exists.mp hsome
    rw [← h.trades_total n hn]
    exact n.toNat_lt

/-- An accepted manifest keeps the promise of exact arithmetic exactly when the sums that are
compared in saturating arithmetic fit a word. -/
theorem exactArithmetic_iff (h : m.validate = .ok ()) : m.ExactArithmetic ↔ m.CountsFit := by
  obtain ⟨totals, haccepted⟩ := accepted_of_validate h
  exact ⟨ExactArithmetic.countsFit, haccepted.exactArithmetic⟩

/-- A manifest of one channel, with given record counts. -/
def ofRecords (rows order trade : UInt64) : ChannelShardedManifestV1 where
  schemaVersion := 1
  tradingDay := 20250102
  artifactFormat := "compact-fixed-binary-l2-v1"
  selectionScope := none
  channelIndivisible := none
  counts := ⟨none, none, none, none⟩
  channels := [{
    channelId := 1
    relativePath := "1.ocb"
    rowCount := rows
    rowGroupCount := 1
    firstBizIndex := 1
    lastBizIndex := rows
    orderRecordCount := some order
    tradeRecordCount := some trade
    payloadSha256 := none
    fingerprint := none }]
  claims := ⟨false, false, false⟩

theorem exactArithmetic_iff_three :
    (ofRecords 3 1 2).ExactArithmetic ↔ (ofRecords 3 1 2).CountsFit :=
  exactArithmetic_iff (by decide +kernel)

/-- A manifest of `2 ^ 64 - 1` rows is accepted with order and trade counts that add up to more:
their sum is cut at the row count. -/
theorem validate_saturated :
    (ofRecords 18446744073709551615 18446744073709551615 5).validate = .ok () ∧
      ¬ (ofRecords 18446744073709551615 18446744073709551615 5).ExactArithmetic := by
  refine ⟨by decide +kernel, fun h => ?_⟩
  have hsum := h.records _ List.mem_cons_self _ _ rfl rfl
  exact absurd hsum (by decide)

end ChannelShardedManifestV1

end ArcadiaTio.Ocb
