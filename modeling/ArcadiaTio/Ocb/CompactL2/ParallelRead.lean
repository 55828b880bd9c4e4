import ArcadiaTio.Lib.WorkerPool
import ArcadiaTio.Ocb.Bundle.VisitScript
import ArcadiaTio.Ocb.CompactL2.ChannelRead

/-!
# Reading channels in parallel

Some workers take channels from a queue and play the scripts of their artifacts to one visitor,
which they call concurrently.  A flag asks all of them to stop: it is set when the visitor says so
and when a channel fails, and a worker that reads it may miss that it has been set.

What the reader may return is a relation (`ReadsCompactL2PhysicalV2Inputs`): the workers may be
scheduled in any way, and the visitor may answer anything.
-/

namespace ArcadiaTio.Ocb

open ArcadiaTio.Lib

/-! ### The workers -/

/-- A call of the visitor and its answer; without one the visitor has panicked. -/
structure ChannelVisitorCall where
  batch : CompactL2PhysicalV2ReadBatch
  answer : Option (Result ColumnBundleVisitControl)

/-- What the workers share: the flag, and the calls of the visitor so far. -/
structure ChannelsShared where
  stop : Bool
  calls : List ChannelVisitorCall

/-- Where the read of one channel is: before the artifact is opened, between two batches, before
the visitor is called, before the flag is set, or at its end. -/
inductive ChannelProgress
  | opening (limits : OcbResourceLimits)
  | visiting (failure : Option ArcadiaTioError) (remaining : List ColumnBatch)
    (report : ColumnBundleReadCursorReport)
  | calling (failure : Option ArcadiaTioError) (batch : ColumnBatch) (remaining : List ColumnBatch)
    (report : ColumnBundleReadCursorReport)
  | stopping (report : ColumnBundleReadCursorReport)
  | failing (error : ArcadiaTioError)
  | finished (result : Result CompactL2PhysicalV2ChannelReadReport)
  | panicked

namespace ChannelProgress

/-- What comes out of a read that has ended. -/
def result? : ChannelProgress → Option (Result CompactL2PhysicalV2ChannelReadReport)
  | .finished result => some result
  | _ => none

/-- A visit of the file has ended; a failure still has to be announced. -/
def settle (input : NormalizedCompactL2PhysicalV2ChannelReadInput)
    (outcome : Result ColumnBundleReadCursorReport) : ChannelProgress :=
  match outcome >>= finishChannelRead input with
  | .error error => .failing error
  | .ok report => .finished (.ok report)

section Settle

variable {input : NormalizedCompactL2PhysicalV2ChannelReadInput}
  {visited : ColumnBundleReadCursorReport}

/-- A visit that ends with the row count that was expected. -/
lemma settle_of_ok {report : CompactL2PhysicalV2ChannelReadReport}
    (h : finishChannelRead input visited = .ok report) :
    settle input (.ok visited) = .finished (.ok report) := by
  rw [settle, ok_bind, h]

/-- A visit that ends with another row count. -/
lemma settle_of_error {error : ArcadiaTioError}
    (h : finishChannelRead input visited = .error error) :
    settle input (.ok visited) = .failing error := by
  rw [settle, ok_bind, h]

end Settle

end ChannelProgress

/-- The report of a visit that was asked to stop. -/
def ColumnBundleReadCursorReport.stopped (report : ColumnBundleReadCursorReport) :
    ColumnBundleReadCursorReport :=
  { report with cancelled := true }

/-- What a worker checks of a batch before the visitor sees it. -/
def validateChannelBatch (batch : ColumnBatch) : Result Unit :=
  CompactL2PhysicalV2BatchView.fromColumnBatch batch >>= CompactL2PhysicalV2BatchView.validate

section Workers

variable (openPath : String → Result OcbReadSource) (zstd : ZstdCodec)
  (options : CompactL2PhysicalV2ParallelReadOptions)

/-- The script of the selected row groups of one channel. -/
def channelScript (input : NormalizedCompactL2PhysicalV2ChannelReadInput)
    (limits : OcbResourceLimits) : Result VisitScript :=
  (fun opened => opened.1.visitPlanScript zstd opened.2 (input.selection opened.2)
    ⟨options.maxInFlightRowGroups, true⟩) <$> openChannel openPath zstd options input limits

/-- A step of a worker on its channel.  The visitor may answer anything. -/
inductive ReadPhysicalV2ChannelStep (input : NormalizedCompactL2PhysicalV2ChannelReadInput) :
    ChannelProgress × ChannelsShared → ChannelProgress × ChannelsShared → Prop
  | refused {limits : OcbResourceLimits} {error : ArcadiaTioError} {sh : ChannelsShared}
      (h : channelScript openPath zstd options input limits = .error error) :
      ReadPhysicalV2ChannelStep input (.opening limits, sh) (.failing error, sh)
  | opened {limits : OcbResourceLimits} {script : VisitScript} {sh : ChannelsShared}
      (h : channelScript openPath zstd options input limits = .ok script) :
      ReadPhysicalV2ChannelStep input (.opening limits, sh)
        (.visiting script.failure script.batches ⟨script.baseReport, 0, 0, false⟩, sh)
  | ended {failure : Option ArcadiaTioError} {report : ColumnBundleReadCursorReport}
      {sh : ChannelsShared} :
      ReadPhysicalV2ChannelStep input (.visiting failure [] report, sh)
        (.settle input (VisitScript.ending failure report), sh)
  | seesStop {failure : Option ArcadiaTioError} {batch : ColumnBatch} {rest : List ColumnBatch}
      {report : ColumnBundleReadCursorReport} {sh : ChannelsShared} (hstop : sh.stop = true) :
      ReadPhysicalV2ChannelStep input (.visiting failure (batch :: rest) report, sh)
        (.settle input (.ok (report.yielded batch.rowCount).stopped), sh)
  | invalid {failure : Option ArcadiaTioError} {batch : ColumnBatch} {rest : List ColumnBatch}
      {report : ColumnBundleReadCursorReport} {sh : ChannelsShared} {error : ArcadiaTioError}
      (h : validateChannelBatch batch = .error error) :
      ReadPhysicalV2ChannelStep input (.visiting failure (batch :: rest) report, sh)
        (.failing error, sh)
  | valid {failure : Option ArcadiaTioError} {batch : ColumnBatch} {rest : List ColumnBatch}
      {report : ColumnBundleReadCursorReport} {sh : ChannelsShared}
      (h : validateChannelBatch batch = .ok ()) :
      ReadPhysicalV2ChannelStep input (.visiting failure (batch :: rest) report, sh)
        (.calling failure batch rest report, sh)
  | called {failure : Option ArcadiaTioError} {batch : ColumnBatch} {rest : List ColumnBatch}
      {report : ColumnBundleReadCursorReport} {sh : ChannelsShared}
      (answer : Option (Result ColumnBundleVisitControl)) :
      ReadPhysicalV2ChannelStep input (.calling failure batch rest report, sh)
        (match answer with
          | none => .panicked
          | some (.error error) => .failing error
          | some (.ok .continue) => .visiting failure rest (report.yielded batch.rowCount)
          | some (.ok .stop) => .stopping (report.yielded batch.rowCount),
          { sh with calls := sh.calls ++ [⟨⟨input.channelId, batch⟩, answer⟩] })
  | stored {report : ColumnBundleReadCursorReport} {sh : ChannelsShared} :
      ReadPhysicalV2ChannelStep input (.stopping report, sh)
        (.settle input (.ok report.stopped), { sh with stop := true })
  | announced {error : ArcadiaTioError} {sh : ChannelsShared} :
      ReadPhysicalV2ChannelStep input (.failing error, sh)
        (.finished (.error error), { sh with stop := true })

/-- What the workers do with the channels, each with limits of its own. -/
def readChannelsProgram (workerLimits : List OcbResourceLimits) :
    JobProgram NormalizedCompactL2PhysicalV2ChannelReadInput ChannelProgress ChannelsShared
      (Result CompactL2PhysicalV2ChannelReadReport) where
  start w _ := .opening (workerLimits.getD w .policyA)
  work := ReadPhysicalV2ChannelStep openPath zstd options
  result := ChannelProgress.result?
  crashed progress := progress = .panicked
  mayStop sh := sh.stop = true

end Workers

/-! ### The reader -/

/-- The workers that are started for some channels. -/
def effectiveChannelWorkers (options : CompactL2PhysicalV2ParallelReadOptions)
    (channelCount : ℕ) : ℕ :=
  max (min options.channelWorkers channelCount) 1

/-- What is checked before the workers start: the channels in their order, and the limits of each
worker. -/
def prepareChannelsRead (options : CompactL2PhysicalV2ParallelReadOptions)
    (inputs : List NormalizedCompactL2PhysicalV2ChannelReadInput) (limits : OcbResourceLimits) :
    Result (List NormalizedCompactL2PhysicalV2ChannelReadInput × List OcbResourceLimits) := do
  options.validate
  let normalized ← normalizeInputs inputs
  let workerLimits ← (List.range (effectiveChannelWorkers options normalized.length)).mapM
    fun workerIndex => channelWorkerResourceLimits limits workerIndex
      (effectiveChannelWorkers options normalized.length)
  return (normalized, workerLimits)

/-- The first failure that has been received. -/
def firstChannelError (results : List (Result CompactL2PhysicalV2ChannelReadReport)) :
    Option ArcadiaTioError :=
  results.findSome? fun result => match result with
    | .error error => some error
    | .ok _ => none

/-- The reports that have been received. -/
def channelReports (results : List (Result CompactL2PhysicalV2ChannelReadReport)) :
    List CompactL2PhysicalV2ChannelReadReport :=
  results.filterMap fun result => match result with
    | .error _ => none
    | .ok report => some report

/-- What the reader returns once all workers have ended. -/
def channelsResult (options : CompactL2PhysicalV2ParallelReadOptions) (channelCount : ℕ)
    (results : List (Result CompactL2PhysicalV2ChannelReadReport)) (panicked : Bool) :
    Result CompactL2PhysicalV2ParallelReadReport :=
  match firstChannelError results with
  | some error => .error error
  | none =>
    if panicked then
      .error (ocbInvalidInput "compact-L2 physical-v2 reader worker panicked")
    else
      .ok (parallelReadReport options channelCount (effectiveChannelWorkers options channelCount)
        (channelReports results))

/-- The worker has ended without a result for its channel. -/
def workerPanicked :
    PoolWorker NormalizedCompactL2PhysicalV2ChannelReadInput ChannelProgress → Bool
  | .holding _ .panicked => true
  | _ => false

lemma eq_holding_of_workerPanicked
    {worker : PoolWorker NormalizedCompactL2PhysicalV2ChannelReadInput ChannelProgress}
    (h : workerPanicked worker = true) : ∃ j, worker = .holding j .panicked := by
  unfold workerPanicked at h
  split at h
  · exact ⟨_, rfl⟩
  · cases h

/-- What the reader may return, and the calls of the visitor. -/
inductive ReadsCompactL2PhysicalV2Inputs (openPath : String → Result OcbReadSource)
    (zstd : ZstdCodec) (options : CompactL2PhysicalV2ParallelReadOptions)
    (inputs : List NormalizedCompactL2PhysicalV2ChannelReadInput) (limits : OcbResourceLimits) :
    Result CompactL2PhysicalV2ParallelReadReport → List ChannelVisitorCall → Prop
  | refused {error : ArcadiaTioError}
      (h : prepareChannelsRead options inputs limits = .error error) :
      ReadsCompactL2PhysicalV2Inputs openPath zstd options inputs limits (.error error) []
  | read {normalized : List NormalizedCompactL2PhysicalV2ChannelReadInput}
      {workerLimits : List OcbResourceLimits}
      {s : PoolState (effectiveChannelWorkers options normalized.length)
        NormalizedCompactL2PhysicalV2ChannelReadInput ChannelProgress ChannelsShared
        (Result CompactL2PhysicalV2ChannelReadReport)}
      (h : prepareChannelsRead options inputs limits = .ok (normalized, workerLimits))
      (hreachable : s.Reachable (readChannelsProgram openPath zstd options workerLimits) normalized
        ⟨false, []⟩)
      (hfinal : s.Final (readChannelsProgram openPath zstd options workerLimits)) :
      ReadsCompactL2PhysicalV2Inputs openPath zstd options inputs limits
        (channelsResult options normalized.length (s.received.map Prod.snd)
          ((List.finRange _).any fun w => workerPanicked (s.workers w))) s.shared.calls

/-! ### What has been handed over -/

/-- The calls of the visitor for one channel. -/
def callsTo (calls : List ChannelVisitorCall) (channelId : UInt32) : List ChannelVisitorCall :=
  calls.filter fun call => call.batch.channelId = channelId

/-- The batches of a channel that the visitor has been called with. -/
def deliveredTo (calls : List ChannelVisitorCall) (channelId : UInt32) : List ColumnBatch :=
  (callsTo calls channelId).map fun call => call.batch.batch

section Delivered

variable {calls : List ChannelVisitorCall} {channelId : UInt32} {call : ChannelVisitorCall}

@[simp] lemma callsTo_nil : callsTo [] channelId = [] := rfl

@[simp] lemma deliveredTo_nil : deliveredTo [] channelId = [] := rfl

lemma mem_callsTo : call ∈ callsTo calls channelId ↔
    call ∈ calls ∧ call.batch.channelId = channelId := by
  simp [callsTo]

lemma callsTo_append_self (h : call.batch.channelId = channelId) :
    callsTo (calls ++ [call]) channelId = callsTo calls channelId ++ [call] := by
  simp [callsTo, List.filter_append, h]

lemma callsTo_append_other (h : call.batch.channelId ≠ channelId) :
    callsTo (calls ++ [call]) channelId = callsTo calls channelId := by
  simp [callsTo, List.filter_append, h]

lemma deliveredTo_append_self (h : call.batch.channelId = channelId) :
    deliveredTo (calls ++ [call]) channelId = deliveredTo calls channelId ++ [call.batch.batch] := by
  rw [deliveredTo, callsTo_append_self h, List.map_append]
  rfl

lemma deliveredTo_append_other (h : call.batch.channelId ≠ channelId) :
    deliveredTo (calls ++ [call]) channelId = deliveredTo calls channelId := by
  rw [deliveredTo, callsTo_append_other h, deliveredTo]

end Delivered

/-- The report after some batches. -/
def ColumnBundleReadCursorReport.yieldedAll (report : ColumnBundleReadCursorReport)
    (batches : List ColumnBatch) : ColumnBundleReadCursorReport :=
  batches.foldl (fun report batch => report.yielded batch.rowCount) report

namespace ColumnBundleReadCursorReport

variable {report : ColumnBundleReadCursorReport}

lemma yieldedAll_append_singleton (batches : List ColumnBatch) (batch : ColumnBatch) :
    report.yieldedAll (batches ++ [batch]) = (report.yieldedAll batches).yielded batch.rowCount := by
  rw [yieldedAll, List.foldl_append]
  rfl

lemma batchesYielded_yieldedAll {batches : List ColumnBatch}
    (h : report.batchesYielded + batches.length < 2 ^ 64) :
    (report.yieldedAll batches).batchesYielded = report.batchesYielded + batches.length := by
  induction batches using List.reverseRecOn with
  | nil => rfl
  | append_singleton batches batch ih =>
    rw [List.length_append, List.length_singleton] at h ⊢
    rw [yieldedAll_append_singleton]
    show saturatingAdd 64 (report.yieldedAll batches).batchesYielded 1 = _
    rw [ih (by omega), saturatingAdd]
    omega

lemma rowsYielded_yieldedAll {batches : List ColumnBatch}
    (h : report.rowsYielded + (batches.map fun batch => batch.rowCount.toNat).sum < 2 ^ 64) :
    (report.yieldedAll batches).rowsYielded =
      report.rowsYielded + (batches.map fun batch => batch.rowCount.toNat).sum := by
  induction batches using List.reverseRecOn with
  | nil => rfl
  | append_singleton batches batch ih =>
    rw [List.map_append, List.sum_append, List.map_singleton, List.sum_singleton] at h ⊢
    rw [yieldedAll_append_singleton]
    show saturatingAdd 64 (report.yieldedAll batches).rowsYielded batch.rowCount.toNat = _
    rw [ih (by omega), saturatingAdd]
    omega

end ColumnBundleReadCursorReport

end ArcadiaTio.Ocb
