import ArcadiaTio.Ocb.Bundle.Visit
import ArcadiaTio.Ocb.CompactL2.Expectations

/-!
# Reading one channel

The helpers for channel-sharded artifacts of physical version 2 open the artifact of a channel and
plan its required columns.  The reader hands the batches to a visitor and compares the rows that it
has yielded with `expectedRows`; the preparation compares the rows of the file before it reads.
With an explicit selection of row groups the reader compares all the same, and this is where the
two part.
-/

namespace ArcadiaTio.Ocb

open ArcadiaTio.Lib

/-! ### Inputs -/

/-- One channel artifact selected for reading.  Without row-group ids all planned row groups are
read; the expected row count is that of full-channel reads. -/
structure CompactL2PhysicalV2ChannelReadInput where
  channelId : UInt32
  path : String
  rowGroupIds : Option (List UInt32)
  expectedRows : Option UInt64

namespace CompactL2PhysicalV2ChannelReadInput

/-- Read all planned row groups of an artifact. -/
def new (channelId : UInt32) (path : String) : CompactL2PhysicalV2ChannelReadInput :=
  ⟨channelId, path, none, none⟩

/-- Expect a number of rows of the full channel. -/
def withExpectedRows (input : CompactL2PhysicalV2ChannelReadInput) (expectedRows : UInt64) :
    CompactL2PhysicalV2ChannelReadInput :=
  { input with expectedRows := some expectedRows }

/-- Read only some row groups. -/
def withRowGroupIds (input : CompactL2PhysicalV2ChannelReadInput) (rowGroupIds : List UInt32) :
    CompactL2PhysicalV2ChannelReadInput :=
  { input with rowGroupIds := some rowGroupIds }

end CompactL2PhysicalV2ChannelReadInput

/-- What an artifact is opened from: a path, or the checked file handle that a manifest is bound to. -/
inductive CompactL2PhysicalV2FileAuthority
  | path (path : String)
  | bound (source : OcbReadSource)

/-- An input with what its artifact is opened from. -/
structure NormalizedCompactL2PhysicalV2ChannelReadInput where
  channelId : UInt32
  authority : CompactL2PhysicalV2FileAuthority
  rowGroupIds : Option (List UInt32)
  expectedRows : Option UInt64

namespace NormalizedCompactL2PhysicalV2ChannelReadInput

/-- The input that names its artifact by a path. -/
def ofChannelReadInput (input : CompactL2PhysicalV2ChannelReadInput) :
    NormalizedCompactL2PhysicalV2ChannelReadInput :=
  ⟨input.channelId, .path input.path, input.rowGroupIds, input.expectedRows⟩

/-- Open the artifact of an input.  `openPath` is the file system. -/
def openFile (openPath : String → Result OcbReadSource) (zstd : ZstdCodec)
    (input : NormalizedCompactL2PhysicalV2ChannelReadInput) (limits : OcbResourceLimits) :
    Result ColumnBundleFile :=
  match input.authority with
  | .path path => do
    let source ← openPath path
    ColumnBundleFile.openFromSource source zstd .metadataGraph limits
  | .bound source => ColumnBundleFile.openFromSource source zstd .metadataGraph limits

/-- An input has a channel, and row groups if it selects any. -/
def checkInput (input : NormalizedCompactL2PhysicalV2ChannelReadInput) : Result Unit := do
  failIf (input.channelId = 0)
    (ocbInvalidInput "compact-L2 physical-v2 channel input has invalid ChannelID")
  failIf (input.rowGroupIds = some [])
    (ocbInvalidInput "compact-L2 physical-v2 channel row_group_ids must be non-empty")

/-- The row groups that an input asks for. -/
def selection (input : NormalizedCompactL2PhysicalV2ChannelReadInput)
    (plan : ColumnBundleReadPlan) : List UInt32 :=
  input.rowGroupIds.getD plan.rowGroupIds

end NormalizedCompactL2PhysicalV2ChannelReadInput

/-- Check the inputs and sort them by channel; no channel may come twice. -/
def normalizeInputs (inputs : List NormalizedCompactL2PhysicalV2ChannelReadInput) :
    Result (List NormalizedCompactL2PhysicalV2ChannelReadInput) := do
  forM inputs NormalizedCompactL2PhysicalV2ChannelReadInput.checkInput
  failIf (inputs = [])
    (ocbInvalidInput "compact-L2 physical-v2 reader requires at least one channel input")
  let sorted := inputs.mergeSort fun a b => a.channelId ≤ b.channelId
  failIf ((sorted.zip sorted.tail).any fun pair => pair.1.channelId = pair.2.channelId)
    (ocbInvalidInput "compact-L2 physical-v2 channel inputs contain duplicate ChannelID")
  return sorted

/-! ### Options -/

/-- The options of a parallel read. -/
structure CompactL2PhysicalV2ParallelReadOptions where
  channelWorkers : ℕ
  perFileReadThreads : ℕ
  maxInFlightRowGroups : ℕ
  validateChecksums : Bool

/-- The options ask for what a parallel read does. -/
def CompactL2PhysicalV2ParallelReadOptions.validate
    (options : CompactL2PhysicalV2ParallelReadOptions) : Result Unit := do
  failIf (options.channelWorkers = 0)
    (ocbInvalidInput "compact-L2 physical-v2 channel_workers must be greater than zero")
  failIf (options.perFileReadThreads = 0)
    (ocbInvalidInput "compact-L2 physical-v2 per_file_read_threads must be greater than zero")
  failIf (options.maxInFlightRowGroups = 0)
    (ocbInvalidInput "compact-L2 physical-v2 max_in_flight_row_groups must be greater than zero")

/-- The options of a parallel visit of one artifact. -/
structure CompactL2PhysicalV2ParallelPrepareOptions where
  workers : ℕ
  maxInFlightRowGroups : ℕ
  validateChecksums : Bool

/-- The options ask for what a parallel visit does. -/
def CompactL2PhysicalV2ParallelPrepareOptions.validate
    (options : CompactL2PhysicalV2ParallelPrepareOptions) : Result Unit := do
  failIf (options.workers = 0)
    (ocbInvalidInput "compact-L2 physical-v2 parallel-prepare workers must be greater than zero")
  failIf (options.maxInFlightRowGroups = 0)
    (ocbInvalidInput
      "compact-L2 physical-v2 parallel-prepare max_in_flight_row_groups must be greater than zero")

/-- The request of both helpers: the twenty required columns. -/
def compactL2PhysicalV2ChannelRequest (maxThreads : ℕ) (validateChecksums : Bool) :
    ColumnBundleReadRequest where
  projection := .names compactL2PhysicalV2RequiredColumns
  predicates := []
  options := { maxThreads, validateChecksums, decodeDictionaries := false }

/-- The part of a limit that a worker may use. -/
def channelWorkerResourceShare (total : UInt64) (workerIndex workerCount : ℕ) : Result UInt64 := do
  failIf (workerCount = 0 ∨ workerCount ≤ workerIndex)
    (ocbInvalidInput
      "compact-L2 physical-v2 resource accounting has an invalid worker slot")
  return total / workerCount.toUInt64

/-- The limits of one worker: an equal share of the two aggregate budgets. -/
def channelWorkerResourceLimits (limits : OcbResourceLimits) (workerIndex workerCount : ℕ) :
    Result OcbResourceLimits := do
  let compressedShare ← channelWorkerResourceShare limits.maxOwnedSelectedCompressedBytes
    workerIndex workerCount
  let decodedShare ← channelWorkerResourceShare limits.maxOwnedDecodedMaterializedBytes
    workerIndex workerCount
  OcbResourceLimits.new limits.maxEncodedObjectBytes limits.maxCompressedChunkBytes
    limits.maxDecompressedChunkBytes limits.maxProjectedRowGroupBytes compressedShare decodedShare

/-! ### The reader -/

/-- A batch as the visitor gets it. -/
structure CompactL2PhysicalV2ReadBatch where
  channelId : UInt32
  batch : ColumnBatch

/-- What was read of a channel. -/
structure CompactL2PhysicalV2ChannelReadReport where
  channelId : UInt32
  batchesYielded : ℕ
  rowsYielded : ℕ
  cancelled : Bool

/-- What a parallel read has done. -/
structure CompactL2PhysicalV2ParallelReadReport where
  requestedChannelWorkers : ℕ
  effectiveChannelWorkers : ℕ
  perFileReadThreads : ℕ
  maxInFlightRowGroups : ℕ
  channelCount : ℕ
  batchesYielded : ℕ
  rowsYielded : ℕ
  cancelled : Bool
  channelReports : List CompactL2PhysicalV2ChannelReadReport

/-- The report over all channels. -/
def parallelReadReport (options : CompactL2PhysicalV2ParallelReadOptions)
    (channelCount effectiveChannelWorkers : ℕ)
    (reports : List CompactL2PhysicalV2ChannelReadReport) :
    CompactL2PhysicalV2ParallelReadReport :=
  let sorted := reports.mergeSort fun a b => a.channelId ≤ b.channelId
  { requestedChannelWorkers := options.channelWorkers
    effectiveChannelWorkers
    perFileReadThreads := options.perFileReadThreads
    maxInFlightRowGroups := options.maxInFlightRowGroups
    channelCount
    batchesYielded := sorted.foldl (fun n report => saturatingAdd 64 n report.batchesYielded) 0
    rowsYielded := sorted.foldl (fun n report => saturatingAdd 64 n report.rowsYielded) 0
    cancelled := sorted.any CompactL2PhysicalV2ChannelReadReport.cancelled
    channelReports := sorted }

section Reader

variable {S : Type}
  (visitor : S → CompactL2PhysicalV2ReadBatch → S × Result ColumnBundleVisitControl)

/-- The visitor of the file of one channel.  Its state is that of the caller's visitor and the flag
that asks all workers to stop. -/
def channelVisitor (channelId : UInt32) (s : S × Bool) (batch : ColumnBatch) :
    (S × Bool) × Result ColumnBundleVisitControl :=
  if s.2 then (s, .ok .stop)
  else match CompactL2PhysicalV2BatchView.fromColumnBatch batch >>=
      CompactL2PhysicalV2BatchView.validate with
    | .error error => (s, .error error)
    | .ok () =>
      let visited := visitor s.1 ⟨channelId, batch⟩
      match visited.2 with
      | .ok .stop => ((visited.1, true), .ok .stop)
      | control => ((visited.1, false), control)

/-- What becomes of the report of a visit that has ended. -/
def finishChannelRead (input : NormalizedCompactL2PhysicalV2ChannelReadInput)
    (report : ColumnBundleReadCursorReport) : Result CompactL2PhysicalV2ChannelReadReport := do
  match input.expectedRows with
  | some expectedRows =>
    failIf (¬ report.cancelled ∧ report.rowsYielded ≠ expectedRows.toNat)
      (ocbInvalidInput "compact-L2 physical-v2 channel row count does not match expected_rows")
  | none => pure ()
  return {
    channelId := input.channelId, batchesYielded := report.batchesYielded
    rowsYielded := report.rowsYielded, cancelled := report.cancelled }

variable (openPath : String → Result OcbReadSource) (zstd : ZstdCodec)
  (options : CompactL2PhysicalV2ParallelReadOptions)

/-- Open the artifact and plan its required columns. -/
def openChannel (input : NormalizedCompactL2PhysicalV2ChannelReadInput)
    (limits : OcbResourceLimits) : Result (ColumnBundleFile × ColumnBundleReadPlan) := do
  let file ← input.openFile openPath zstd limits
  let plan ← file.planRead
    (compactL2PhysicalV2ChannelRequest options.perFileReadThreads options.validateChecksums)
  return (file, plan)

/-- What a worker may make of one channel. -/
inductive ReadsPhysicalV2Channel (input : NormalizedCompactL2PhysicalV2ChannelReadInput)
    (limits : OcbResourceLimits) (s : S × Bool) :
    Result CompactL2PhysicalV2ChannelReadReport → S × Bool → Prop
  | refused {error : ArcadiaTioError}
      (h : openChannel openPath zstd options input limits = .error error) :
      ReadsPhysicalV2Channel input limits s (.error error) s
  | visited {file : ColumnBundleFile} {plan : ColumnBundleReadPlan}
      {outcome : Result ColumnBundleReadCursorReport} {s' : S × Bool}
      (h : openChannel openPath zstd options input limits = .ok (file, plan))
      (hvisits : file.VisitsPlanRowGroups zstd plan (input.selection plan)
        (channelVisitor visitor input.channelId) ⟨options.maxInFlightRowGroups, true⟩ s outcome s') :
      ReadsPhysicalV2Channel input limits s (outcome >>= finishChannelRead input) s'

/-- What the reader checks before its only worker takes the only input. -/
def prepareChannelRead (input : NormalizedCompactL2PhysicalV2ChannelReadInput)
    (limits : OcbResourceLimits) : Result OcbResourceLimits := do
  options.validate
  let _ ← normalizeInputs [input]
  channelWorkerResourceLimits limits 0 (max (min options.channelWorkers 1) 1)

/-- What the reader may return for one channel. -/
inductive ReadsCompactL2PhysicalV2Channels (input : NormalizedCompactL2PhysicalV2ChannelReadInput)
    (limits : OcbResourceLimits) (s : S) :
    Result CompactL2PhysicalV2ParallelReadReport → S → Prop
  | refused {error : ArcadiaTioError} (h : prepareChannelRead options input limits = .error error) :
      ReadsCompactL2PhysicalV2Channels input limits s (.error error) s
  | read {workerLimits : OcbResourceLimits} {result : Result CompactL2PhysicalV2ChannelReadReport}
      {s' : S × Bool} (h : prepareChannelRead options input limits = .ok workerLimits)
      (hreads : ReadsPhysicalV2Channel visitor openPath zstd options input workerLimits (s, false)
        result s') :
      ReadsCompactL2PhysicalV2Channels input limits s
        ((fun report => parallelReadReport options 1 (max (min options.channelWorkers 1) 1) [report])
          <$> result) s'.1

end Reader

/-! ### The preparation -/

/-- What a preparation is told about its row group. -/
structure CompactL2PhysicalV2ParallelPrepareContext where
  channelId : UInt32
  rowGroup : ParallelPrepareTaskSpec

/-- What a parallel visit of an artifact has done. -/
structure CompactL2PhysicalV2ParallelPrepareReport where
  channelId : UInt32
  parallelPrepare : ColumnBundleParallelPrepareReport

section Preparation

variable {S T : Type}
  (prepare : CompactL2PhysicalV2ParallelPrepareContext → CompactL2PhysicalV2BatchView → Result T)
  (orderedCommit : S → CompactL2PhysicalV2ParallelPrepareContext → T →
    S × Result ColumnBundleVisitControl)

/-- The view of a batch, when every row is of the channel. -/
def channelView (channelId : UInt32) (batch : ColumnBatch) :
    Result CompactL2PhysicalV2BatchView := do
  let view ← CompactL2PhysicalV2BatchView.fromColumnBatch batch
  view.validate
  failIf (view.channelId.any fun observed => observed.toInt ≠ channelId.toNat)
    (ocbDiagnostic .channelIdMismatch
      s!"compact-L2 physical-v2 worker ChannelID mismatch: expected={channelId}")
  return view

/-- The batch of a task with its typed columns. -/
def prepareChannelBatch (channelId : UInt32) (task : ParallelPrepareTaskSpec)
    (batch : ColumnBatch) : Result T := do
  let view ← channelView channelId batch
  prepare ⟨channelId, task⟩ view

variable (openPath : String → Result OcbReadSource) (zstd : ZstdCodec)
  (options : CompactL2PhysicalV2ParallelPrepareOptions)

/-- The rows of a fully selected artifact are compared with the metadata. -/
def checkPreparedRows (input : NormalizedCompactL2PhysicalV2ChannelReadInput)
    (file : ColumnBundleFile) : Result Unit :=
  match input.expectedRows with
  | some expectedRows =>
    failIf (input.rowGroupIds = none ∧ file.metadata.root.rowCount ≠ expectedRows)
      (ocbDiagnostic .rowCountMismatch
        (s!"compact-L2 physical-v2 parallel-prepare metadata row count mismatch: " ++
          s!"expected={expectedRows} observed={file.metadata.root.rowCount}"))
  | none => .ok ()

/-- What is checked, opened and planned before the row groups are prepared. -/
def openPreparation (input : NormalizedCompactL2PhysicalV2ChannelReadInput)
    (limits : OcbResourceLimits) : Result (ColumnBundleFile × ColumnBundleReadPlan) := do
  options.validate
  let _ ← normalizeInputs [input]
  failIf (2 ^ 31 ≤ input.channelId.toNat)
    (ocbInvalidInput "compact-L2 physical-v2 parallel-prepare ChannelID does not fit i32")
  let file ← input.openFile openPath zstd limits
  checkPreparedRows input file
  let plan ← file.planRead
    (compactL2PhysicalV2ChannelRequest options.workers options.validateChecksums)
  return (file, plan)

/-- What the preparation of one channel may return. -/
inductive PreparesCompactL2PhysicalV2Channel
    (input : NormalizedCompactL2PhysicalV2ChannelReadInput) (limits : OcbResourceLimits) (s : S) :
    Result CompactL2PhysicalV2ParallelPrepareReport → S → Prop
  | refused {error : ArcadiaTioError}
      (h : openPreparation openPath zstd options input limits = .error error) :
      PreparesCompactL2PhysicalV2Channel input limits s (.error error) s
  | prepared {file : ColumnBundleFile} {plan : ColumnBundleReadPlan}
      {result : Result ColumnBundleParallelPrepareReport} {s' : S}
      (h : openPreparation openPath zstd options input limits = .ok (file, plan))
      (hprepares : file.PreparesPlanRowGroups zstd plan (input.selection plan)
        (prepareChannelBatch prepare input.channelId)
        (fun s task value => orderedCommit s ⟨input.channelId, task⟩ value)
        options.maxInFlightRowGroups s result s') :
      PreparesCompactL2PhysicalV2Channel input limits s ((⟨input.channelId, ·⟩) <$> result) s'

end Preparation

/-! ### When a read succeeds -/

/-- Every execution succeeds, and there is one. -/
structure AlwaysSucceeds {α S : Type} (R : Result α → S → Prop) : Prop where
  exists_result : ∃ result s, R result s
  isOk : ∀ result s, R result s → IsOk result

/-- Every execution fails, and there is one. -/
structure AlwaysFails {α S : Type} (R : Result α → S → Prop) : Prop where
  exists_result : ∃ result s, R result s
  not_isOk : ∀ result s, R result s → ¬ IsOk result

/-- Every execution succeeds when `P` holds, and fails otherwise. -/
structure SucceedsExactlyIf {α S : Type} (R : Result α → S → Prop) (P : Prop) : Prop where
  succeeds : P → AlwaysSucceeds R
  fails : ¬ P → AlwaysFails R

lemma AlwaysFails.not_alwaysSucceeds {α S : Type} {R : Result α → S → Prop} (h : AlwaysFails R) :
    ¬ AlwaysSucceeds R := by
  intro hok
  obtain ⟨result, s, hresult⟩ := h.exists_result
  exact h.not_isOk result s hresult (hok.isOk result s hresult)

namespace SucceedsExactlyIf

variable {α S : Type} {R : Result α → S → Prop} {P : Prop}

lemma alwaysSucceeds_iff (h : SucceedsExactlyIf R P) : AlwaysSucceeds R ↔ P := by
  refine ⟨fun hok => ?_, h.succeeds⟩
  by_contra hP
  exact (h.fails hP).not_alwaysSucceeds hok

lemma congr {Q : Prop} (h : SucceedsExactlyIf R P) (hPQ : P ↔ Q) : SucceedsExactlyIf R Q :=
  ⟨fun hQ => h.succeeds (hPQ.mpr hQ), fun hQ => h.fails fun hP => hQ (hPQ.mp hP)⟩

/-- A relation that determines the result. -/
lemma of_iff (result : Result α) (s : S) (hR : ∀ r t, R r t ↔ r = result ∧ t = s)
    (hP : IsOk result ↔ P) : SucceedsExactlyIf R P where
  succeeds h := ⟨⟨result, s, (hR _ _).mpr ⟨rfl, rfl⟩⟩, fun r t hr => by
    rw [((hR r t).mp hr).1]
    exact hP.mpr h⟩
  fails h := ⟨⟨result, s, (hR _ _).mpr ⟨rfl, rfl⟩⟩, fun r t hr => by
    rw [((hR r t).mp hr).1]
    exact fun hok => h (hP.mp hok)⟩

end SucceedsExactlyIf

lemma planRead_channelRequest_eq_ok {file : ColumnBundleFile} {columnIds : List UInt32}
    (h : resolveNames file.columns compactL2PhysicalV2RequiredColumns [] = .ok columnIds)
    (maxThreads : ℕ) : file.planRead (compactL2PhysicalV2ChannelRequest maxThreads true) =
      .ok (readPlan (compactL2PhysicalV2ChannelRequest maxThreads true) columnIds
        (file.metadata.rowGroupIndex.rowGroups.map OcbRowGroupDescV1.rowGroupId) 0) := by
  have hoptions : validateReadOptions (compactL2PhysicalV2ChannelRequest maxThreads true).options =
      .ok () := rfl
  have hproject : resolveProjection file.columns
      (compactL2PhysicalV2ChannelRequest maxThreads true).projection = .ok columnIds := h
  have hpredicates : resolvePredicates file.columns
      (compactL2PhysicalV2ChannelRequest maxThreads true).predicates = .ok [] := rfl
  rw [ColumnBundleFile.planRead, hoptions, ok_bind, hproject, ok_bind, hpredicates, ok_bind,
    selectRowGroups_nil, ok_bind]
  rfl

lemma checkInput_eq_ok {input : NormalizedCompactL2PhysicalV2ChannelReadInput} :
    input.checkInput = .ok () ↔ input.channelId ≠ 0 ∧ input.rowGroupIds ≠ some [] := by
  rw [NormalizedCompactL2PhysicalV2ChannelReadInput.checkInput, bind_eq_ok]
  simp only [failIf_eq_ok]
  constructor
  · rintro ⟨_, hid, hids⟩
    exact ⟨hid, hids⟩
  · rintro ⟨hid, hids⟩
    exact ⟨(), hid, hids⟩

/-- One input is normalized to itself. -/
lemma isOk_normalizeInputs_singleton {input : NormalizedCompactL2PhysicalV2ChannelReadInput} :
    IsOk (normalizeInputs [input]) ↔ input.channelId ≠ 0 ∧ input.rowGroupIds ≠ some [] := by
  rw [normalizeInputs, isOk_bind]
  constructor
  · rintro ⟨_, hcheck, -⟩
    exact checkInput_eq_ok.mp (forM_eq_ok.mp hcheck input (List.mem_singleton_self _))
  · intro hinput
    refine ⟨(), forM_eq_ok.mpr fun other hother => ?_, ?_⟩
    · obtain rfl := List.mem_singleton.mp hother
      exact checkInput_eq_ok.mpr hinput
    · rw [failIf_neg (by simp), ok_bind]
      dsimp only
      rw [List.mergeSort_singleton, failIf_neg (by simp), ok_bind]
      exact isOk_ok

/-- A single worker has the limits of the caller. -/
lemma channelWorkerResourceLimits_one (limits : OcbResourceLimits) :
    channelWorkerResourceLimits limits 0 1 = .ok limits := by
  have hshare : ∀ total : UInt64, channelWorkerResourceShare total 0 1 = .ok total := by
    intro total
    rw [channelWorkerResourceShare, failIf_neg (by omega), ok_bind, pure_eq_ok]
    congr 1
    exact UInt64.div_one
  rw [channelWorkerResourceLimits, hshare, ok_bind, hshare, ok_bind, OcbResourceLimits.new,
    dif_pos ⟨limits.maxEncodedObjectBytes_lt, limits.maxCompressedChunkBytes_lt,
      limits.maxDecompressedChunkBytes_lt, limits.maxProjectedRowGroupBytes_lt⟩]

/-! ### A selection that decodes -/

/-- The row groups of a file, in its order. -/
def ColumnBundleFile.allRowGroupIds (file : ColumnBundleFile) : List UInt32 :=
  file.metadata.rowGroupIndex.rowGroups.map OcbRowGroupDescV1.rowGroupId

/-- The plan of some columns of all row groups. -/
def ColumnBundleFile.channelPlan (file : ColumnBundleFile) (columnIds : List UInt32)
    (maxThreads : ℕ) : ColumnBundleReadPlan :=
  readPlan (compactL2PhysicalV2ChannelRequest maxThreads true) columnIds file.allRowGroupIds 0

namespace NormalizedCompactL2PhysicalV2ChannelReadInput

/-- The row groups that an input selects, in the order of the file. -/
def selectedIds (input : NormalizedCompactL2PhysicalV2ChannelReadInput) (file : ColumnBundleFile) :
    List UInt32 :=
  file.allRowGroupIds.filter (· ∈ input.rowGroupIds.getD file.allRowGroupIds)

end NormalizedCompactL2PhysicalV2ChannelReadInput

section Selection

variable {openPath : String → Result OcbReadSource} {zstd : ZstdCodec}
  {readOptions : CompactL2PhysicalV2ParallelReadOptions}
  {prepareOptions : CompactL2PhysicalV2ParallelPrepareOptions}
  {input : NormalizedCompactL2PhysicalV2ChannelReadInput} {limits : OcbResourceLimits}
  {file : ColumnBundleFile} {columnIds : List UInt32}

/-- The selected row groups of an input decode: its artifact opens, an explicit selection names
distinct row groups of it, each selected row group is read to a view of the channel, and the options
and limits admit reading them. -/
structure SelectionDecodes (openPath : String → Result OcbReadSource) (zstd : ZstdCodec)
    (readOptions : CompactL2PhysicalV2ParallelReadOptions)
    (prepareOptions : CompactL2PhysicalV2ParallelPrepareOptions)
    (input : NormalizedCompactL2PhysicalV2ChannelReadInput) (limits : OcbResourceLimits)
    (file : ColumnBundleFile) (columnIds : List UInt32) : Prop where
  readValid : readOptions.validate = .ok ()
  prepareValid : prepareOptions.validate = .ok ()
  checksums : readOptions.validateChecksums = true ∧ prepareOptions.validateChecksums = true
  channelId : input.channelId ≠ 0 ∧ input.channelId.toNat < 2 ^ 31
  opens : input.openFile openPath zstd limits = .ok file
  columns : resolveNames file.columns compactL2PhysicalV2RequiredColumns [] = .ok columnIds
  planned : ∀ ids ∈ input.rowGroupIds, ids.Nodup ∧ ∀ id ∈ ids, id ∈ file.allRowGroupIds
  decodes : ∀ id ∈ input.selectedIds file, ∃ batch view,
    readRowGroup file.source zstd file.metadata file.columns id columnIds = .ok batch ∧
      CompactL2PhysicalV2BatchView.fromColumnBatch batch = .ok view ∧
      ∀ observed ∈ view.channelId, observed.toInt = input.channelId.toNat
  readAdmitted : validateContiguousInFlightPlanResourceLimits file.metadata
    ((file.channelPlan columnIds readOptions.perFileReadThreads).ofSelected
      (input.selectedIds file))
    (visitWaveSize ((file.channelPlan columnIds readOptions.perFileReadThreads).ofSelected
      (input.selectedIds file)) ⟨readOptions.maxInFlightRowGroups, true⟩) = .ok ()
  prepareAdmitted : validateSlidingInFlightPlanResourceLimits file.metadata
    ((file.channelPlan columnIds prepareOptions.workers).ofSelected (input.selectedIds file))
    prepareOptions.maxInFlightRowGroups = .ok ()

namespace SelectionDecodes

lemma opened (h : SelectionDecodes openPath zstd readOptions prepareOptions input limits file
    columnIds) : file.Opened := by
  have hopens := h.opens
  rw [NormalizedCompactL2PhysicalV2ChannelReadInput.openFile] at hopens
  cases hauthority : input.authority with
  | path path =>
    rw [hauthority] at hopens
    obtain ⟨source, -, hopens⟩ := bind_eq_ok.mp hopens
    exact ColumnBundleFile.opened_of_openFromSource hopens
  | bound source =>
    rw [hauthority] at hopens
    exact ColumnBundleFile.opened_of_openFromSource hopens

lemma planRead (h : SelectionDecodes openPath zstd readOptions prepareOptions input limits file
    columnIds) (maxThreads : ℕ) :
    file.planRead (compactL2PhysicalV2ChannelRequest maxThreads true) =
      .ok (file.channelPlan columnIds maxThreads) :=
  planRead_channelRequest_eq_ok h.columns maxThreads

/-- The selection is a part of the plan. -/
lemma plannedRowGroupSubset (h : SelectionDecodes openPath zstd readOptions prepareOptions input
    limits file columnIds) (maxThreads : ℕ) :
    plannedRowGroupSubset (file.channelPlan columnIds maxThreads)
      (input.selection (file.channelPlan columnIds maxThreads)) =
        .ok (input.selectedIds file) := by
  have hids : input.selection (file.channelPlan columnIds maxThreads) =
      input.rowGroupIds.getD file.allRowGroupIds := rfl
  refine plannedRowGroupSubset_eq_ok.mpr ?_
  rw [hids]
  cases hselection : input.rowGroupIds with
  | none =>
    refine ⟨fun id hid => hid, h.opened.invariant.rowGroupIds, ?_⟩
    rw [NormalizedCompactL2PhysicalV2ChannelReadInput.selectedIds, hselection]
    rfl
  | some ids =>
    obtain ⟨hnodup, hknown⟩ := h.planned ids hselection
    refine ⟨hknown, hnodup, ?_⟩
    rw [NormalizedCompactL2PhysicalV2ChannelReadInput.selectedIds, hselection]
    rfl

/-- The rows of the selection: those of its row groups, or all of the file. -/
lemma selectedRows_eq (h : SelectionDecodes openPath zstd readOptions prepareOptions input limits
    file columnIds) :
    (∀ ids, input.rowGroupIds = some ids →
      file.metadata.selectedRows (input.selectedIds file) = file.metadata.selectedRows ids) ∧
    (input.rowGroupIds = none →
      file.metadata.selectedRows (input.selectedIds file) = file.metadata.root.rowCount.toNat) := by
  constructor
  · intro ids hids
    obtain ⟨hnodup, hknown⟩ := h.planned ids hids
    have hperm : (input.selectedIds file).Perm ids := by
      rw [NormalizedCompactL2PhysicalV2ChannelReadInput.selectedIds, hids]
      refine (List.perm_ext_iff_of_nodup (h.opened.invariant.rowGroupIds.filter _) hnodup).mpr ?_
      intro id
      rw [List.mem_filter]
      constructor
      · rintro ⟨-, hid⟩
        simpa using hid
      · intro hid
        exact ⟨hknown id hid, by simpa using hid⟩
    rw [OcbMetadataV1.selectedRows, OcbMetadataV1.selectedRows]
    exact (hperm.map _).sum_eq
  · intro hids
    have hall : input.selectedIds file = file.allRowGroupIds := by
      rw [NormalizedCompactL2PhysicalV2ChannelReadInput.selectedIds, hids]
      exact List.filter_eq_self.mpr fun id hid => by simpa using hid
    rw [hall]
    exact h.opened.invariant.selectedRows_all

/-- The input is normalized unless it selects no row group at all. -/
lemma isOk_normalizeInputs (h : SelectionDecodes openPath zstd readOptions prepareOptions input
    limits file columnIds) :
    IsOk (normalizeInputs [input]) ↔ input.rowGroupIds ≠ some [] :=
  isOk_normalizeInputs_singleton.trans (and_iff_right h.channelId.1)

/-- The artifact is opened and planned. -/
lemma openChannel_eq (h : SelectionDecodes openPath zstd readOptions prepareOptions input limits
    file columnIds) : openChannel openPath zstd readOptions input limits =
      .ok (file, file.channelPlan columnIds readOptions.perFileReadThreads) := by
  rw [openChannel, h.opens, ok_bind, h.checksums.1, h.planRead, ok_bind]
  rfl

/-- The part of the plan that is visited. -/
lemma visitedPlan_eq (h : SelectionDecodes openPath zstd readOptions prepareOptions input limits
    file columnIds) :
    file.visitedPlan (file.channelPlan columnIds readOptions.perFileReadThreads)
      (input.selection (file.channelPlan columnIds readOptions.perFileReadThreads))
      ⟨readOptions.maxInFlightRowGroups, true⟩ =
        .ok ((file.channelPlan columnIds readOptions.perFileReadThreads).ofSelected
          (input.selectedIds file)) := by
  have hvalid := (h.opened.of_planRead (h.planRead readOptions.perFileReadThreads)).1
  have hcursor : validateReadCursorOptions ⟨readOptions.maxInFlightRowGroups, true⟩ = .ok () := by
    obtain ⟨_, -, hoptions⟩ := bind_eq_ok.mp h.readValid
    obtain ⟨_, -, hoptions⟩ := bind_eq_ok.mp hoptions
    rw [failIf_eq_ok] at hoptions
    rw [validateReadCursorOptions, failIf_neg hoptions, ok_bind, failIf_neg (by simp)]
  rw [ColumnBundleFile.visitedPlan, hvalid, ok_bind, hcursor, ok_bind, h.plannedRowGroupSubset,
    ok_bind]
  rfl

/-- The reader compares the rows that it has yielded, whatever the selection. -/
theorem read_succeedsExactlyIf (h : SelectionDecodes openPath zstd readOptions prepareOptions input
    limits file columnIds) {S : Type}
    {visitor : S → CompactL2PhysicalV2ReadBatch → S × Result ColumnBundleVisitControl}
    (hvisitor : ∀ s batch, (visitor s batch).2 = .ok .continue) (s : S) :
    SucceedsExactlyIf
      (ReadsCompactL2PhysicalV2Channels visitor openPath zstd readOptions input limits s)
      (input.rowGroupIds ≠ some [] ∧ ∀ expected ∈ input.expectedRows,
        file.metadata.selectedRows (input.selectedIds file) = expected.toNat) := by
  have hworkers : max (min readOptions.channelWorkers 1) 1 = 1 := by omega
  -- what is checked before the worker starts
  have hprepared : ∀ {inputs}, normalizeInputs [input] = .ok inputs →
      prepareChannelRead readOptions input limits = .ok limits := by
    intro inputs hinputs
    rw [prepareChannelRead, h.readValid, ok_bind, hinputs, ok_bind, hworkers,
      channelWorkerResourceLimits_one]
  have hopen := h.openChannel_eq
  have hplan := h.visitedPlan_eq
  -- the flag stays down, so every batch gets to the caller's visitor
  have hvisit : file.VisitContinues zstd
      (file.channelPlan columnIds readOptions.perFileReadThreads)
      (channelVisitor visitor input.channelId) (fun state => state.2 = false)
      (input.selectedIds file) := by
    intro id hid
    obtain ⟨batch, view, hread, hview, -⟩ := h.decodes id hid
    refine ⟨batch, hread, fun state hstate => ?_⟩
    have hvalidView : view.validate = .ok () := CompactL2PhysicalV2BatchView.validate_eq_ok.mpr
      (CompactL2PhysicalV2BatchView.fromColumnBatch_eq_ok.mp hview).2.1
    rw [channelVisitor, hstate, if_neg (by decide), hview, ok_bind, hvalidView]
    dsimp only
    rw [hvisitor]
    exact ⟨rfl, rfl⟩
  obtain ⟨report, t, -, hcancelled, hrows, hiff⟩ :=
    h.opened.visitsPlanRowGroups_of_continue hplan h.readAdmitted hvisit
      (show ((s, false) : S × Bool).2 = false from rfl)
  -- the comparison at the end
  have hfinish : IsOk (finishChannelRead input report) ↔ ∀ expected ∈ input.expectedRows,
      file.metadata.selectedRows (input.selectedIds file) = expected.toNat := by
    rw [finishChannelRead, hcancelled, hrows,
      show ((file.channelPlan columnIds readOptions.perFileReadThreads).ofSelected
        (input.selectedIds file)).rowGroupIds = input.selectedIds file from rfl]
    cases input.expectedRows with
    | none => simp [isOk_ok]
    | some expected =>
      dsimp only
      rw [isOk_bind]
      simp only [failIf_eq_ok, Option.mem_some_iff, forall_eq', Bool.false_eq_true,
        not_false_eq_true, true_and, not_not]
      exact ⟨fun ⟨_, heq, _⟩ => heq, fun heq => ⟨(), heq, isOk_ok⟩⟩
  by_cases hnormal : input.rowGroupIds ≠ some []
  · obtain ⟨inputs, hinputs⟩ := h.isOk_normalizeInputs.mpr hnormal
    refine .of_iff ((fun report => parallelReadReport readOptions 1 1 [report]) <$>
      finishChannelRead input report) t.1 (fun result s' => ⟨fun hreads => ?_, ?_⟩) ?_
    · cases hreads with
      | refused herror =>
        rw [hprepared hinputs] at herror
        cases herror
      | read hok hreads =>
        rw [hprepared hinputs] at hok
        cases hok
        rw [hworkers]
        cases hreads with
        | refused herror =>
          rw [hopen] at herror
          cases herror
        | visited hok hvisits =>
          rw [hopen] at hok
          cases hok
          obtain ⟨rfl, rfl⟩ := (hiff _ _).mp hvisits
          exact ⟨rfl, rfl⟩
    · rintro ⟨rfl, rfl⟩
      have hreads : ReadsPhysicalV2Channel visitor openPath zstd readOptions input limits (s, false)
          (finishChannelRead input report) t := .visited hopen ((hiff _ _).mpr ⟨rfl, rfl⟩)
      have hresult := ReadsCompactL2PhysicalV2Channels.read (hprepared hinputs) hreads
      rwa [hworkers] at hresult
    · rw [and_iff_right hnormal, ← hfinish]
      cases finishChannelRead input report <;> simp [IsOk]
  · -- nothing is read for an empty selection
    have hrefused : ∃ error, prepareChannelRead readOptions input limits = .error error := by
      cases hinputs : normalizeInputs [input] with
      | ok inputs => exact absurd (h.isOk_normalizeInputs.mp ⟨inputs, hinputs⟩) hnormal
      | error error =>
        refine ⟨error, ?_⟩
        rw [prepareChannelRead, h.readValid, ok_bind, hinputs]
        rfl
    obtain ⟨error, herror⟩ := hrefused
    refine .of_iff (.error error) s (fun result s' => ⟨fun hreads => ?_, ?_⟩) ?_
    · cases hreads with
      | refused herror' =>
        rw [herror] at herror'
        cases herror'
        exact ⟨rfl, rfl⟩
      | read hok =>
        rw [herror] at hok
        cases hok
    · rintro ⟨rfl, rfl⟩
      exact .refused herror
    · exact iff_of_false not_isOk_error fun hboth => hnormal hboth.1

/-- The rows of a file that is fully selected are compared before anything is read. -/
lemma isOk_checkPreparedRows : IsOk (checkPreparedRows input file) ↔
    (input.rowGroupIds = none → ∀ expected ∈ input.expectedRows,
      file.metadata.root.rowCount = expected) := by
  rw [checkPreparedRows]
  cases input.expectedRows with
  | none => simp [isOk_ok]
  | some expected =>
    dsimp only
    rw [IsOk]
    simp only [failIf_eq_ok, exists_const, Option.mem_some_iff, forall_eq', not_and, not_not]

/-- The preparation compares the rows only when the file is fully selected. -/
theorem prepare_succeedsExactlyIf (h : SelectionDecodes openPath zstd readOptions prepareOptions
    input limits file columnIds) {S T : Type}
    {prepare : CompactL2PhysicalV2ParallelPrepareContext → CompactL2PhysicalV2BatchView → Result T}
    {orderedCommit : S → CompactL2PhysicalV2ParallelPrepareContext → T →
      S × Result ColumnBundleVisitControl}
    (hprepare : ∀ context view, IsOk (prepare context view))
    (hcommit : ∀ s context value, (orderedCommit s context value).2 = .ok .continue) (s : S) :
    SucceedsExactlyIf
      (PreparesCompactL2PhysicalV2Channel prepare orderedCommit openPath zstd prepareOptions input
        limits s)
      (input.rowGroupIds ≠ some [] ∧ (input.rowGroupIds = none →
        ∀ expected ∈ input.expectedRows, file.metadata.root.rowCount = expected)) := by
  have hvalid := (h.opened.of_planRead (h.planRead prepareOptions.workers)).1
  have hmax : 0 < prepareOptions.maxInFlightRowGroups := by
    obtain ⟨_, -, hoptions⟩ := bind_eq_ok.mp h.prepareValid
    rw [failIf_eq_ok] at hoptions
    omega
  -- every selected row group decodes, and its view passes the checks of the preparation
  have hbatch : ∀ id ∈ input.selectedIds file, ∃ batch, file.readPlanRowGroup zstd
        (file.channelPlan columnIds prepareOptions.workers) id = .ok batch ∧
      ∀ task, ∃ value, prepareChannelBatch prepare input.channelId task batch = .ok value ∧
        ∀ s, True → True ∧ (orderedCommit s ⟨input.channelId, task⟩ value).2 = .ok .continue := by
    intro id hid
    obtain ⟨batch, view, hread, hview, hchannel⟩ := h.decodes id hid
    refine ⟨batch, hread, fun task => ?_⟩
    obtain ⟨value, hvalue⟩ := hprepare ⟨input.channelId, task⟩ view
    have hvalidView : view.validate = .ok () := CompactL2PhysicalV2BatchView.validate_eq_ok.mpr
      (CompactL2PhysicalV2BatchView.fromColumnBatch_eq_ok.mp hview).2.1
    have hlanes : ¬ (view.channelId.any fun observed =>
        observed.toInt ≠ input.channelId.toNat) = true := by
      rw [List.any_eq_true]
      rintro ⟨observed, hobserved, hne⟩
      exact (of_decide_eq_true hne) (hchannel observed hobserved)
    refine ⟨value, ?_, fun s _ => ⟨trivial, hcommit s _ value⟩⟩
    rw [prepareChannelBatch, channelView, hview, ok_bind, hvalidView, ok_bind, failIf_neg hlanes,
      ok_bind, pure_eq_ok, ok_bind, hvalue]
  obtain ⟨report, t, -, -, -, hiff⟩ := h.opened.preparesPlanRowGroups_of_continue hmax hvalid
    (h.plannedRowGroupSubset _) h.prepareAdmitted hbatch (trivial : (fun _ : S => True) s)
  -- all of the opening but the comparison of the rows succeeds
  have hopen : ∀ {inputs}, normalizeInputs [input] = .ok inputs →
      openPreparation openPath zstd prepareOptions input limits = (do
        checkPreparedRows input file
        return (file, file.channelPlan columnIds prepareOptions.workers)) := by
    intro inputs hinputs
    rw [openPreparation, h.prepareValid, ok_bind, hinputs, ok_bind,
      failIf_neg (not_le.mpr h.channelId.2), ok_bind, h.opens, ok_bind, h.checksums.2, h.planRead,
      ok_bind]
  by_cases hcompared : input.rowGroupIds ≠ some [] ∧ (input.rowGroupIds = none →
      ∀ expected ∈ input.expectedRows, file.metadata.root.rowCount = expected)
  · obtain ⟨inputs, hinputs⟩ := h.isOk_normalizeInputs.mpr hcompared.1
    obtain ⟨_, hrows⟩ := isOk_checkPreparedRows.mpr hcompared.2
    have hprepared : openPreparation openPath zstd prepareOptions input limits =
        .ok (file, file.channelPlan columnIds prepareOptions.workers) := by
      rw [hopen hinputs, hrows, ok_bind]
      rfl
    refine .of_iff (.ok ⟨input.channelId, report⟩) t (fun result s' => ⟨fun hprepares => ?_, ?_⟩)
      (iff_of_true isOk_ok hcompared)
    · cases hprepares with
      | refused herror =>
        rw [hprepared] at herror
        cases herror
      | prepared hok hprepares =>
        rw [hprepared] at hok
        cases hok
        obtain ⟨rfl, rfl⟩ := (hiff _ _).mp hprepares
        exact ⟨rfl, rfl⟩
    · rintro ⟨rfl, rfl⟩
      have hprepares := (hiff (.ok report) s').mpr ⟨rfl, rfl⟩
      exact .prepared hprepared hprepares
  · have hrefused : ∃ error,
        openPreparation openPath zstd prepareOptions input limits = .error error := by
      cases hinputs : normalizeInputs [input] with
      | error error =>
        refine ⟨error, ?_⟩
        rw [openPreparation, h.prepareValid, ok_bind, hinputs]
        rfl
      | ok inputs =>
        have hnormal := h.isOk_normalizeInputs.mp ⟨inputs, hinputs⟩
        rw [hopen hinputs]
        cases hrows : checkPreparedRows input file with
        | error error => exact ⟨error, rfl⟩
        | ok u => exact absurd ⟨hnormal, isOk_checkPreparedRows.mp ⟨u, hrows⟩⟩ hcompared
    obtain ⟨error, herror⟩ := hrefused
    refine .of_iff (.error error) s (fun result s' => ⟨fun hprepares => ?_, ?_⟩)
      (iff_of_false not_isOk_error hcompared)
    · cases hprepares with
      | refused herror' =>
        rw [herror] at herror'
        cases herror'
        exact ⟨rfl, rfl⟩
      | prepared hok =>
        rw [herror] at hok
        cases hok
    · rintro ⟨rfl, rfl⟩
      exact .refused herror

end SelectionDecodes

/-- The expected row count constrains only reads of the full channel: a read and a preparation of
explicit row groups succeed whatever it is, and those of the full channel succeed exactly if it is
the row count of the artifact. -/
structure ConstrainsOnlyFullReads {α β S T : Type}
    (input : NormalizedCompactL2PhysicalV2ChannelReadInput) (file : ColumnBundleFile)
    (read : Result α → S → Prop) (prepare : Result β → T → Prop) : Prop where
  explicit : ∀ ids, input.rowGroupIds = some ids → AlwaysSucceeds read ∧ AlwaysSucceeds prepare
  full : input.rowGroupIds = none →
    SucceedsExactlyIf read (∀ expected ∈ input.expectedRows,
      file.metadata.root.rowCount = expected) ∧
    SucceedsExactlyIf prepare (∀ expected ∈ input.expectedRows,
      file.metadata.root.rowCount = expected)

/-- For a selection that decodes, with a visitor and callbacks that always continue: the expected
row count constrains only full reads exactly when an explicit selection is not empty and its row
groups have as many rows as are expected. -/
theorem constrainsOnlyFullReads_iff
    (h : SelectionDecodes openPath zstd readOptions prepareOptions input limits file columnIds)
    {S S' T : Type} {visitor : S → CompactL2PhysicalV2ReadBatch → S × Result ColumnBundleVisitControl}
    {prepare : CompactL2PhysicalV2ParallelPrepareContext → CompactL2PhysicalV2BatchView → Result T}
    {orderedCommit : S' → CompactL2PhysicalV2ParallelPrepareContext → T →
      S' × Result ColumnBundleVisitControl}
    (hvisitor : ∀ s batch, (visitor s batch).2 = .ok .continue)
    (hprepare : ∀ context view, IsOk (prepare context view))
    (hcommit : ∀ s context value, (orderedCommit s context value).2 = .ok .continue)
    (s : S) (s' : S') :
    ConstrainsOnlyFullReads input file
        (ReadsCompactL2PhysicalV2Channels visitor openPath zstd readOptions input limits s)
        (PreparesCompactL2PhysicalV2Channel prepare orderedCommit openPath zstd prepareOptions input
          limits s') ↔
      ∀ ids, input.rowGroupIds = some ids → ids ≠ [] ∧ ∀ expected ∈ input.expectedRows,
        file.metadata.selectedRows ids = expected.toNat := by
  have hread := h.read_succeedsExactlyIf hvisitor s
  have hprepared := h.prepare_succeedsExactlyIf hprepare hcommit s'
  obtain ⟨hexplicit, hfull⟩ := h.selectedRows_eq
  constructor
  · intro hconstrains ids hids
    obtain ⟨hnonempty, hrows⟩ :=
      hread.alwaysSucceeds_iff.mp (hconstrains.explicit ids hids).1
    rw [hexplicit ids hids] at hrows
    exact ⟨fun hnil => hnonempty (by rw [hids, hnil]), hrows⟩
  · intro hcondition
    refine ⟨fun ids hids => ⟨hread.succeeds ⟨?_, ?_⟩, hprepared.succeeds ⟨?_, ?_⟩⟩, fun hids => ?_⟩
    · rw [hids]
      exact fun hnil => (hcondition ids hids).1 (Option.some.inj hnil)
    · rw [hexplicit ids hids]
      exact (hcondition ids hids).2
    · rw [hids]
      exact fun hnil => (hcondition ids hids).1 (Option.some.inj hnil)
    · intro hnone
      rw [hids] at hnone
      cases hnone
    · have hnonempty : input.rowGroupIds ≠ some [] := by
        rw [hids]
        rintro ⟨⟩
      -- both compare the same number of rows
      rw [hfull hids] at hread
      refine ⟨hread.congr ?_, hprepared.congr ?_⟩
      · simp only [UInt64.toNat_inj, and_iff_right hnonempty]
      · rw [and_iff_right hnonempty, forall_prop_of_true hids]

end Selection

/-! ### One order -/

namespace Sample

/-- Read the order with one worker. -/
def oneWorker : CompactL2PhysicalV2ParallelReadOptions := ⟨1, 1, 1, true⟩

/-- Prepare the order with one worker. -/
def onePreparer : CompactL2PhysicalV2ParallelPrepareOptions := ⟨1, 1, true⟩

/-- A visitor that counts its batches. -/
def countingVisitor (count : ℕ) (_ : CompactL2PhysicalV2ReadBatch) :
    ℕ × Result ColumnBundleVisitControl := (count + 1, .ok .continue)

/-- A preparation that counts the rows of a batch. -/
def countRows (_ : CompactL2PhysicalV2ParallelPrepareContext)
    (view : CompactL2PhysicalV2BatchView) : Result ℕ := .ok view.rowCount

/-- A commit that adds the counts. -/
def addRows (rows : ℕ) (_ : CompactL2PhysicalV2ParallelPrepareContext) (count : ℕ) :
    ℕ × Result ColumnBundleVisitControl := (rows + count, .ok .continue)

/-- The only row group of the order's artifact, with an expected row count. -/
def orderInput (expectedRows : UInt64) : NormalizedCompactL2PhysicalV2ChannelReadInput :=
  .ofChannelReadInput
    (((CompactL2PhysicalV2ChannelReadInput.new 2011 "order.ocb").withExpectedRows
      expectedRows).withRowGroupIds [0])

/-- The only row group of an artifact, with an expected row count. -/
def artifactInput (channelId : UInt32) (path : String) (expectedRows : UInt64) :
    NormalizedCompactL2PhysicalV2ChannelReadInput :=
  .ofChannelReadInput
    (((CompactL2PhysicalV2ChannelReadInput.new channelId path).withExpectedRows
      expectedRows).withRowGroupIds [0])

/-- There is an artifact of the rows of a channel whose selection decodes, wherever it is, whatever
the options and the expected row count. -/
lemma exists_selectionDecodes {view : CompactL2PhysicalV2BatchView} (hvalid : view.Valid)
    (hrows : view.rowCount ≤ 2 ^ 16) {channelId : UInt32}
    (hchannelId : channelId ≠ 0 ∧ channelId.toNat < 2 ^ 31)
    (hlane : ∀ observed ∈ view.channelId, observed.toInt = channelId.toNat) (path : String) :
    ∃ source file columnIds, file.allRowGroupIds = [0] ∧ file.metadata.rowsOf 0 = view.rowCount ∧
      ∀ (openPath : String → Result OcbReadSource)
        (options : CompactL2PhysicalV2ParallelReadOptions) (expectedRows : UInt64),
        openPath path = .ok source → options.validate = .ok () →
        options.validateChecksums = true →
        SelectionDecodes openPath (fun _ _ => ⟨[], true⟩) options onePreparer
          (artifactInput channelId path expectedRows) .policyA file columnIds := by
  obtain ⟨t, h, hview⟩ := TableImage.exists_holdsView hvalid hrows
  refine ⟨t.source h, t.file h, t.ids, rfl, ?_, fun openPath options expectedRows hopen hoptions
    hchecksums => ?_⟩
  · have hrow : (t.file h).metadata.rowsOf 0 = t.rowCount.toUInt64.toNat := rfl
    rw [hrow, TableImage.toNat_rowCount h, ← hview.rowCount h]
  · have hids : (t.file h).allRowGroupIds = [0] := rfl
    have hselected : (artifactInput channelId path expectedRows).selectedIds (t.file h) = [0] := rfl
    have hreads : ∀ threads, t.ReadsTable
        (((t.file h).channelPlan t.ids threads).ofSelected [0]) := fun _ => ⟨rfl, rfl⟩
    -- the table is small, so every plan of it is admitted
    have hadmitted : ∀ threads, validateOwnedPlanResourceLimits (t.file h).metadata
        (((t.file h).channelPlan t.ids threads).ofSelected [0]) = .ok () := fun threads =>
      TableImage.validateOwnedPlanResourceLimits_eq_ok h (hreads threads)
    exact {
      readValid := hoptions
      prepareValid := rfl
      checksums := ⟨hchecksums, rfl⟩
      channelId := hchannelId
      opens := by
        have hauthority : (artifactInput channelId path expectedRows).authority = .path path := rfl
        rw [NormalizedCompactL2PhysicalV2ChannelReadInput.openFile, hauthority]
        dsimp only
        rw [hopen, ok_bind]
        exact TableImage.openFromSource_source h _
      columns := hview.resolveNames h
      planned := by
        intro ids hselection
        obtain rfl : [0] = ids := Option.some.inj hselection
        rw [hids]
        exact ⟨List.nodup_singleton 0, fun id hid => hid⟩
      decodes := by
        intro id hid
        rw [hselected] at hid
        obtain rfl := List.mem_singleton.mp hid
        exact ⟨t.batch, view, TableImage.readRowGroup_source h _, hview.decoded, hlane⟩
      readAdmitted := (validateInFlight_of_owned rfl (hadmitted _) _).1
      prepareAdmitted := (validateInFlight_of_owned rfl (hadmitted _) _).2 }

lemma lanes_orderView : ∀ observed ∈ orderView.channelId,
    observed.toInt = (2011 : UInt32).toNat := by
  have hlane : orderView.channelId = [2011] := by decide
  rw [hlane]
  intro observed hobserved
  obtain rfl := List.mem_singleton.mp hobserved
  rfl

/-- The selection decodes, whatever the expected row count. -/
lemma selectionDecodes_order : ∃ source file columnIds, ∀ expectedRows,
    SelectionDecodes (fun _ => .ok source) (fun _ _ => ⟨[], true⟩) oneWorker onePreparer
      (orderInput expectedRows) .policyA file columnIds ∧ file.metadata.selectedRows [0] = 1 := by
  obtain ⟨source, file, columnIds, -, hrows, h⟩ := exists_selectionDecodes valid_orderView
    (by decide) (by decide) lanes_orderView "order.ocb"
  refine ⟨source, file, columnIds, fun expectedRows => ⟨h _ _ _ rfl rfl rfl, ?_⟩⟩
  rw [OcbMetadataV1.selectedRows, List.map_singleton, List.sum_singleton, hrows]
  rfl

end Sample

/-- With the row count of the selected row group, both succeed. -/
theorem constrainsOnlyFullReads_sample : ∃ source file,
    ConstrainsOnlyFullReads (Sample.orderInput 1) file
      (ReadsCompactL2PhysicalV2Channels Sample.countingVisitor (fun _ => .ok source)
        (fun _ _ => ⟨[], true⟩) Sample.oneWorker (Sample.orderInput 1) .policyA 0)
      (PreparesCompactL2PhysicalV2Channel Sample.countRows Sample.addRows (fun _ => .ok source)
        (fun _ _ => ⟨[], true⟩) Sample.onePreparer (Sample.orderInput 1) .policyA 0) := by
  obtain ⟨source, file, columnIds, h⟩ := Sample.selectionDecodes_order
  obtain ⟨hdecodes, hrows⟩ := h 1
  refine ⟨source, file, (constrainsOnlyFullReads_iff hdecodes (fun _ _ => rfl)
    (fun _ _ => isOk_ok) (fun _ _ _ => rfl) 0 0).mpr fun ids hids => ?_⟩
  obtain rfl : [0] = ids := Option.some.inj hids
  refine ⟨by decide, fun expected hexpected => ?_⟩
  obtain rfl : (1 : UInt64) = expected := Option.some.inj hexpected
  exact hrows

/-- With another row count the preparation of the row group succeeds and its read fails. -/
theorem explicit_read_fails : ∃ source file columnIds,
    SelectionDecodes (fun _ => .ok source) (fun _ _ => ⟨[], true⟩) Sample.oneWorker
      Sample.onePreparer (Sample.orderInput 5) .policyA file columnIds ∧
    AlwaysFails (ReadsCompactL2PhysicalV2Channels Sample.countingVisitor (fun _ => .ok source)
      (fun _ _ => ⟨[], true⟩) Sample.oneWorker (Sample.orderInput 5) .policyA 0) ∧
    AlwaysSucceeds (PreparesCompactL2PhysicalV2Channel Sample.countRows Sample.addRows
      (fun _ => .ok source) (fun _ _ => ⟨[], true⟩) Sample.onePreparer (Sample.orderInput 5)
      .policyA 0) := by
  obtain ⟨source, file, columnIds, h⟩ := Sample.selectionDecodes_order
  obtain ⟨hdecodes, hrows⟩ := h 5
  refine ⟨source, file, columnIds, hdecodes, ?_, ?_⟩
  · refine (hdecodes.read_succeedsExactlyIf (fun _ _ => rfl) 0).fails fun hcompared => ?_
    have hfive := hcompared.2 5 rfl
    rw [hdecodes.selectedRows_eq.1 [0] rfl, hrows] at hfive
    exact absurd hfive (by decide)
  · refine (hdecodes.prepare_succeedsExactlyIf (fun _ _ => isOk_ok) (fun _ _ _ => rfl) 0).succeeds
      ⟨?_, ?_⟩
    · rintro ⟨⟩
    · rintro ⟨⟩

end ArcadiaTio.Ocb
