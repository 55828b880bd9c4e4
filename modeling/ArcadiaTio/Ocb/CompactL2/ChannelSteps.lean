import ArcadiaTio.Lib.InTurn
import ArcadiaTio.Ocb.CompactL2.ParallelRead

/-!
# The steps on one channel

Whatever the other workers do in between, what has been handed over of a channel is where its script
begins, and a failure of the channel has a reason (`channelsRule`).  The flag has a cause, a channel
whose read ends early (`channelsCauseRule`), and unless a channel fails, this is what the visitor has
asked for (`askedRule`).

Alone, the steps on a channel do what its reader does (`steps_of_readsPhysicalV2Channel`).
-/

namespace ArcadiaTio.Ocb

open ArcadiaTio.Lib

/-! ### What is known of a channel -/

section Channels

variable {openPath : String → Result OcbReadSource} {zstd : ZstdCodec}
  {options : CompactL2PhysicalV2ParallelReadOptions} {limits : OcbResourceLimits}
  {workerLimits : List OcbResourceLimits} {input : NormalizedCompactL2PhysicalV2ChannelReadInput}

/-- The report of a script that is played from the start. -/
def VisitScript.initialReport (script : VisitScript) : ColumnBundleReadCursorReport :=
  ⟨script.baseReport, 0, 0, false⟩

@[simp] lemma VisitScript.batchesYielded_initialReport (script : VisitScript) :
    script.initialReport.batchesYielded = 0 := rfl

@[simp] lemma VisitScript.rowsYielded_initialReport (script : VisitScript) :
    script.initialReport.rowsYielded = 0 := rfl

/-- A visit follows the script of its channel. -/
structure FollowsScript (openPath : String → Result OcbReadSource) (zstd : ZstdCodec)
    (options : CompactL2PhysicalV2ParallelReadOptions) (limits : OcbResourceLimits)
    (input : NormalizedCompactL2PhysicalV2ChannelReadInput) (script : VisitScript)
    (delivered remaining : List ColumnBatch) (report : ColumnBundleReadCursorReport) : Prop where
  planned : channelScript openPath zstd options input limits = .ok script
  batches : script.batches = delivered ++ remaining
  report : report = script.initialReport.yieldedAll delivered

/-- What has been handed over of a channel is where its script begins. -/
def BeginsScript (openPath : String → Result OcbReadSource) (zstd : ZstdCodec)
    (options : CompactL2PhysicalV2ParallelReadOptions) (limits : OcbResourceLimits)
    (input : NormalizedCompactL2PhysicalV2ChannelReadInput) (delivered : List ColumnBatch) : Prop :=
  delivered = [] ∨ ∃ script, channelScript openPath zstd options input limits = .ok script ∧
    delivered <+: script.batches

/-- A channel that has been read to its end. -/
structure CompletesScript (openPath : String → Result OcbReadSource) (zstd : ZstdCodec)
    (options : CompactL2PhysicalV2ParallelReadOptions) (limits : OcbResourceLimits)
    (input : NormalizedCompactL2PhysicalV2ChannelReadInput) (delivered : List ColumnBatch)
    (report : CompactL2PhysicalV2ChannelReadReport) : Prop where
  planned : ∃ script, channelScript openPath zstd options input limits = .ok script ∧
    script.failure = none ∧ script.batches = delivered ∧
    report.batchesYielded = (script.initialReport.yieldedAll delivered).batchesYielded ∧
    report.rowsYielded = (script.initialReport.yieldedAll delivered).rowsYielded
  rows : ∀ expected ∈ input.expectedRows, report.rowsYielded = expected.toNat

/-- Why the read of a channel fails: it cannot be opened and planned, its visit is refused or one of
its row groups cannot be read, a batch is not valid, the visitor refuses a batch, or the channel
does not have the expected rows. -/
inductive ChannelFails (openPath : String → Result OcbReadSource) (zstd : ZstdCodec)
    (options : CompactL2PhysicalV2ParallelReadOptions) (limits : OcbResourceLimits)
    (input : NormalizedCompactL2PhysicalV2ChannelReadInput) (calls : List ChannelVisitorCall) :
    ArcadiaTioError → Prop
  | refused {error : ArcadiaTioError}
      (h : channelScript openPath zstd options input limits = .error error) :
      ChannelFails openPath zstd options limits input calls error
  | unreadable {script : VisitScript} {error : ArcadiaTioError}
      (h : channelScript openPath zstd options input limits = .ok script)
      (hfailure : script.failure = some error)
      (hbatches : script.batches = deliveredTo calls input.channelId) :
      ChannelFails openPath zstd options limits input calls error
  | invalid {script : VisitScript} {batch : ColumnBatch} {error : ArcadiaTioError}
      (h : channelScript openPath zstd options input limits = .ok script)
      (hbatch : deliveredTo calls input.channelId ++ [batch] <+: script.batches)
      (hinvalid : validateChannelBatch batch = .error error) :
      ChannelFails openPath zstd options limits input calls error
  | visitor {call : ChannelVisitorCall} {error : ArcadiaTioError}
      (hcall : call ∈ callsTo calls input.channelId) (hanswer : call.answer = some (.error error)) :
      ChannelFails openPath zstd options limits input calls error
  | rows {script : VisitScript} {expected : UInt64}
      (h : channelScript openPath zstd options input limits = .ok script)
      (hfailure : script.failure = none)
      (hbatches : script.batches = deliveredTo calls input.channelId)
      (hexpected : input.expectedRows = some expected)
      (hrows : (script.initialReport.yieldedAll (deliveredTo calls input.channelId)).rowsYielded ≠
        expected.toNat) :
      ChannelFails openPath zstd options limits input calls
        (ocbInvalidInput "compact-L2 physical-v2 channel row count does not match expected_rows")

/-- What is known of a channel that has been read. -/
structure ChannelDone (openPath : String → Result OcbReadSource) (zstd : ZstdCodec)
    (options : CompactL2PhysicalV2ParallelReadOptions) (limits : OcbResourceLimits)
    (input : NormalizedCompactL2PhysicalV2ChannelReadInput)
    (result : Result CompactL2PhysicalV2ChannelReadReport) (sh : ChannelsShared) : Prop where
  begins : BeginsScript openPath zstd options limits input (deliveredTo sh.calls input.channelId)
  channelId : ∀ report, result = .ok report → report.channelId = input.channelId
  completes : ∀ report, result = .ok report → report.cancelled = false →
    CompletesScript openPath zstd options limits input (deliveredTo sh.calls input.channelId) report
  fails : ∀ error, result = .error error →
    ChannelFails openPath zstd options limits input sh.calls error

/-- What is known of a channel that is being read. -/
def ChannelHeld (openPath : String → Result OcbReadSource) (zstd : ZstdCodec)
    (options : CompactL2PhysicalV2ParallelReadOptions) (limits : OcbResourceLimits)
    (input : NormalizedCompactL2PhysicalV2ChannelReadInput) :
    ChannelProgress → ChannelsShared → Prop
  | .opening share, sh => share = limits ∧ deliveredTo sh.calls input.channelId = []
  | .visiting failure remaining report, sh => ∃ script, script.failure = failure ∧
    FollowsScript openPath zstd options limits input script (deliveredTo sh.calls input.channelId)
      remaining report
  | .calling failure batch remaining report, sh => ∃ script, script.failure = failure ∧
    FollowsScript openPath zstd options limits input script (deliveredTo sh.calls input.channelId)
      (batch :: remaining) report
  | .stopping _, sh =>
    BeginsScript openPath zstd options limits input (deliveredTo sh.calls input.channelId)
  | .failing error, sh =>
    BeginsScript openPath zstd options limits input (deliveredTo sh.calls input.channelId) ∧
      ChannelFails openPath zstd options limits input sh.calls error
  | .finished result, sh => ChannelDone openPath zstd options limits input result sh
  | .panicked, sh =>
    BeginsScript openPath zstd options limits input (deliveredTo sh.calls input.channelId) ∧
      ∃ call ∈ callsTo sh.calls input.channelId, call.answer = none

lemma FollowsScript.begins {script : VisitScript} {delivered remaining : List ColumnBatch}
    {report : ColumnBundleReadCursorReport}
    (h : FollowsScript openPath zstd options limits input script delivered remaining report) :
    BeginsScript openPath zstd options limits input delivered :=
  Or.inr ⟨script, h.planned, remaining, h.batches.symm⟩

/-- The facts about a channel depend on the calls for it. -/
lemma ChannelFails.congr {calls calls' : List ChannelVisitorCall}
    (h : callsTo calls' input.channelId = callsTo calls input.channelId) {error : ArcadiaTioError}
    (hfails : ChannelFails openPath zstd options limits input calls error) :
    ChannelFails openPath zstd options limits input calls' error := by
  have hsame : deliveredTo calls' input.channelId = deliveredTo calls input.channelId := by
    rw [deliveredTo, h, deliveredTo]
  cases hfails with
  | refused hscript => exact .refused hscript
  | unreadable hscript hfailure hbatches =>
    exact .unreadable hscript hfailure (hsame ▸ hbatches)
  | invalid hscript hbatch hinvalid => exact .invalid hscript (hsame.symm ▸ hbatch) hinvalid
  | visitor hcall hanswer => exact .visitor (h.symm ▸ hcall) hanswer
  | rows hscript hfailure hbatches hexpected hrows =>
    exact .rows hscript hfailure (hsame ▸ hbatches) hexpected (hsame.symm ▸ hrows)

lemma ChannelDone.congr {sh sh' : ChannelsShared}
    (h : callsTo sh'.calls input.channelId = callsTo sh.calls input.channelId)
    {result : Result CompactL2PhysicalV2ChannelReadReport}
    (hdone : ChannelDone openPath zstd options limits input result sh) :
    ChannelDone openPath zstd options limits input result sh' := by
  have hsame : deliveredTo sh'.calls input.channelId = deliveredTo sh.calls input.channelId := by
    rw [deliveredTo, h, deliveredTo]
  refine ⟨?_, hdone.channelId, ?_, fun error herror => (hdone.fails error herror).congr h⟩
  · rw [hsame]
    exact hdone.begins
  · rw [hsame]
    exact hdone.completes

lemma channelHeld_congr {sh sh' : ChannelsShared}
    (h : callsTo sh'.calls input.channelId = callsTo sh.calls input.channelId)
    {progress : ChannelProgress}
    (hheld : ChannelHeld openPath zstd options limits input progress sh) :
    ChannelHeld openPath zstd options limits input progress sh' := by
  have hsame : deliveredTo sh'.calls input.channelId = deliveredTo sh.calls input.channelId := by
    rw [deliveredTo, h, deliveredTo]
  cases progress with
  | finished result => exact ChannelDone.congr h hheld
  | failing error =>
    refine ⟨?_, hheld.2.congr h⟩
    rw [hsame]
    exact hheld.1
  | panicked =>
    rw [ChannelHeld, h, hsame]
    exact hheld
  | _ =>
    rw [ChannelHeld, hsame]
    exact hheld

lemma finishChannelRead_eq_ok {report : ColumnBundleReadCursorReport}
    {result : CompactL2PhysicalV2ChannelReadReport} :
    finishChannelRead input report = .ok result ↔
      (report.cancelled = false → ∀ expected ∈ input.expectedRows,
        report.rowsYielded = expected.toNat) ∧
      result = ⟨input.channelId, report.batchesYielded, report.rowsYielded, report.cancelled⟩ := by
  rw [finishChannelRead]
  cases hexpected : input.expectedRows with
  | none =>
    constructor
    · intro h
      cases h
      refine ⟨fun _ expected h => ?_, rfl⟩
      cases h
    · rintro ⟨-, rfl⟩
      rfl
  | some expected =>
    rw [bind_eq_ok]
    simp only [failIf_eq_ok, pure_eq_ok, Except.ok.injEq]
    constructor
    · rintro ⟨_, hrows, rfl⟩
      refine ⟨fun hcancelled other hother => ?_, rfl⟩
      cases hother
      by_contra hne
      exact hrows ⟨by rw [hcancelled]; exact Bool.false_ne_true, hne⟩
    · rintro ⟨hrows, rfl⟩
      refine ⟨(), ?_, rfl⟩
      rintro ⟨hcancelled, hne⟩
      exact hne (hrows (by simpa using hcancelled) expected rfl)

lemma finishChannelRead_eq_error {report : ColumnBundleReadCursorReport} {error : ArcadiaTioError}
    (h : finishChannelRead input report = .error error) :
    report.cancelled = false ∧ ∃ expected, input.expectedRows = some expected ∧
      report.rowsYielded ≠ expected.toNat ∧ error =
        ocbInvalidInput "compact-L2 physical-v2 channel row count does not match expected_rows" := by
  rw [finishChannelRead] at h
  cases hexpected : input.expectedRows with
  | none =>
    rw [hexpected] at h
    cases h
  | some expected =>
    rw [hexpected] at h
    dsimp only at h
    by_cases hmismatch : ¬ (report.cancelled = true) ∧ report.rowsYielded ≠ expected.toNat
    · rw [failIf_pos hmismatch] at h
      cases h
      exact ⟨by simpa using hmismatch.1, expected, rfl, hmismatch.2, rfl⟩
    · rw [failIf_neg hmismatch] at h
      cases h

/-- When a visit has been settled, what has been handed over of its channel is known. -/
lemma channelHeld_settle {sh : ChannelsShared} {outcome : Result ColumnBundleReadCursorReport}
    (hbegins : BeginsScript openPath zstd options limits input
      (deliveredTo sh.calls input.channelId))
    (hcompletes : ∀ report, outcome = .ok report → report.cancelled = false → ∃ script,
      script.failure = none ∧ FollowsScript openPath zstd options limits input script
        (deliveredTo sh.calls input.channelId) [] report)
    (hfails : ∀ error, outcome = .error error →
      ChannelFails openPath zstd options limits input sh.calls error) :
    ChannelHeld openPath zstd options limits input (.settle input outcome) sh := by
  rw [ChannelProgress.settle]
  cases outcome with
  | error error => exact ⟨hbegins, hfails error rfl⟩
  | ok report =>
    rw [ok_bind]
    cases hresult : finishChannelRead input report with
    | error error =>
      obtain ⟨hcancelled, expected, hexpected, hrows, rfl⟩ := finishChannelRead_eq_error hresult
      obtain ⟨script, hfailure, hfollows⟩ := hcompletes report rfl hcancelled
      have hbatches := hfollows.batches
      rw [List.append_nil] at hbatches
      exact ⟨hbegins, .rows hfollows.planned hfailure hbatches hexpected (hfollows.report ▸ hrows)⟩
    | ok result =>
      obtain ⟨hrows, rfl⟩ := finishChannelRead_eq_ok.mp hresult
      refine ⟨hbegins, fun _ heq => ?_, fun _ heq hcancelled => ?_, fun _ heq => ?_⟩
      · cases heq
        rfl
      · cases heq
        obtain ⟨script, hfailure, hfollows⟩ := hcompletes report rfl hcancelled
        have hbatches := hfollows.batches
        rw [List.append_nil] at hbatches
        refine ⟨⟨script, hfollows.planned, hfailure, hbatches, ?_, ?_⟩, hrows hcancelled⟩
        · rw [← hfollows.report]
        · rw [← hfollows.report]
      · cases heq

lemma ChannelHeld.begins {sh : ChannelsShared} {progress : ChannelProgress}
    (h : ChannelHeld openPath zstd options limits input progress sh) :
    BeginsScript openPath zstd options limits input (deliveredTo sh.calls input.channelId) := by
  cases progress with
  | opening share => exact Or.inl h.2
  | visiting failure remaining report =>
    obtain ⟨script, -, hfollows⟩ := h
    exact hfollows.begins
  | calling failure batch remaining report =>
    obtain ⟨script, -, hfollows⟩ := h
    exact hfollows.begins
  | stopping report => exact h
  | failing error => exact h.1
  | finished result => exact ChannelDone.begins h
  | panicked => exact h.1

/-- What is known of a channel is kept by the steps on it. -/
lemma channelHeld_step {sh sh' : ChannelsShared} {progress progress' : ChannelProgress}
    (hheld : ChannelHeld openPath zstd options limits input progress sh)
    (hstep : ReadPhysicalV2ChannelStep openPath zstd options input (progress, sh)
      (progress', sh')) :
    ChannelHeld openPath zstd options limits input progress' sh' := by
  cases hstep with
  | refused h =>
    obtain ⟨rfl, hnone⟩ := hheld
    exact ⟨Or.inl hnone, .refused h⟩
  | @opened share script sh h =>
    obtain ⟨rfl, hnone⟩ := hheld
    refine ⟨script, rfl, h, ?_, ?_⟩
    · rw [hnone]
      rfl
    · rw [hnone]
      rfl
  -- the cursor has ended, with the failure of the script or with all batches handed over
  | @ended failure report sh =>
    obtain ⟨script, rfl, hfollows⟩ := hheld
    have hbatches := hfollows.batches
    rw [List.append_nil] at hbatches
    refine channelHeld_settle hfollows.begins (fun other hother _ => ⟨script, ?_, ?_⟩)
      fun error herror => ?_
    · rcases hfailure : script.failure with _ | error
      · rfl
      · rw [hfailure] at hother
        cases hother
    · rcases hfailure : script.failure with _ | error
      · rw [hfailure] at hother
        cases hother
        exact hfollows
      · rw [hfailure] at hother
        cases hother
    · rcases hfailure : script.failure with _ | other
      · rw [hfailure] at herror
        cases herror
      · rw [hfailure] at herror
        cases herror
        exact .unreadable hfollows.planned hfailure hbatches
  | seesStop hstop =>
    obtain ⟨script, rfl, hfollows⟩ := hheld
    refine channelHeld_settle hfollows.begins (fun other hother hcancelled => ?_)
      fun error herror => ?_
    · cases hother
      cases hcancelled
    · cases herror
  -- the batch at hand fails its checks and is not handed to the visitor
  | @invalid failure batch rest report sh error h =>
    obtain ⟨script, rfl, hfollows⟩ := hheld
    refine ⟨hfollows.begins, .invalid hfollows.planned ⟨rest, ?_⟩ h⟩
    rw [List.append_assoc, List.singleton_append]
    exact hfollows.batches.symm
  | valid h => exact hheld
  | @called failure batch rest report sh answer =>
    obtain ⟨script, rfl, hfollows⟩ := hheld
    have hcalls : callsTo (sh.calls ++ [⟨⟨input.channelId, batch⟩, answer⟩]) input.channelId =
        callsTo sh.calls input.channelId ++ [⟨⟨input.channelId, batch⟩, answer⟩] :=
      callsTo_append_self rfl
    have hdelivered : deliveredTo (sh.calls ++ [⟨⟨input.channelId, batch⟩, answer⟩])
        input.channelId = deliveredTo sh.calls input.channelId ++ [batch] :=
      deliveredTo_append_self rfl
    have hnew : (⟨⟨input.channelId, batch⟩, answer⟩ : ChannelVisitorCall) ∈
        callsTo (sh.calls ++ [⟨⟨input.channelId, batch⟩, answer⟩]) input.channelId := by
      rw [hcalls]
      exact List.mem_append_right _ (List.mem_singleton_self _)
    have hnext : FollowsScript openPath zstd options limits input script
        (deliveredTo (sh.calls ++ [⟨⟨input.channelId, batch⟩, answer⟩]) input.channelId) rest
        (report.yielded batch.rowCount) := by
      rw [hdelivered]
      refine ⟨hfollows.planned, ?_, ?_⟩
      · rw [List.append_assoc, List.singleton_append]
        exact hfollows.batches
      · rw [ColumnBundleReadCursorReport.yieldedAll_append_singleton, ← hfollows.report]
    -- the visitor panics, fails, asks for more or stops
    rcases answer with _ | error | _ | _
    · exact ⟨hnext.begins, _, hnew, rfl⟩
    · exact ⟨hnext.begins, .visitor hnew rfl⟩
    · exact ⟨script, rfl, hnext⟩
    · exact hnext.begins
  | stored =>
    refine channelHeld_settle hheld (fun other hother hcancelled => ?_) fun error herror => ?_
    · cases hother
      cases hcancelled
    · cases herror
  | announced =>
    obtain ⟨hbegins, hfails⟩ := hheld
    refine ⟨hbegins, fun report hreport => ?_, fun report hreport => ?_, fun error herror => ?_⟩
    · cases hreport
    · cases hreport
    · cases herror
      exact hfails

/-- A step on a channel only calls the visitor with batches of this channel. -/
lemma callsTo_step {sh sh' : ChannelsShared} {progress progress' : ChannelProgress}
    {channelId : UInt32} (hstep : ReadPhysicalV2ChannelStep openPath zstd options input
      (progress, sh) (progress', sh')) (hne : channelId ≠ input.channelId) :
    callsTo sh'.calls channelId = callsTo sh.calls channelId := by
  cases hstep with
  | called answer => exact callsTo_append_other fun heq => hne heq.symm
  | _ => rfl

variable (openPath zstd options) in
/-- The facts about the channels, as a rule for the workers. -/
def channelsRule {W : ℕ} {normalized : List NormalizedCompactL2PhysicalV2ChannelReadInput}
    (hW : W ≤ workerLimits.length) (hshares : ∀ share ∈ workerLimits, share = limits)
    (hnodup : (normalized.map NormalizedCompactL2PhysicalV2ChannelReadInput.channelId).Nodup) :
    JobRule W (readChannelsProgram openPath zstd options workerLimits) normalized where
  fresh input sh := deliveredTo sh.calls input.channelId = []
  held := ChannelHeld openPath zstd options limits
  done := ChannelDone openPath zstd options limits
  start {_ _} w hw hfresh := by
    have hlt : w < workerLimits.length := hw.trans_le hW
    refine ⟨?_, hfresh⟩
    rw [List.getD_eq_getElem?_getD, List.getElem?_eq_getElem hlt]
    exact hshares _ (List.getElem_mem hlt)
  work hheld hstep := channelHeld_step hheld hstep
  result {_ progress _ _} hheld hresult := by
    cases progress with
    | finished result =>
      cases hresult
      exact hheld
    | _ => cases hresult
  others {j _ _ _ _ i} hi hj hne hstep := by
    have hid : i.channelId ≠ j.channelId := fun heq =>
      hne (eq_of_nodup_map hnodup hi hj heq)
    have hsame := callsTo_step hstep hid
    refine ⟨fun hfresh => ?_, fun _ hheld => channelHeld_congr hsame hheld,
      fun _ hdone => hdone.congr hsame⟩
    rw [deliveredTo, hsame]
    exact hfresh

/-! ### Why a read is cancelled -/

/-- A failure, or the report of a channel that was cancelled. -/
def EndsEarly (result : Result CompactL2PhysicalV2ChannelReadReport) : Prop :=
  ∀ report, result = .ok report → report.cancelled = true

/-- The read of a channel will end early. -/
def ChannelProgress.WillEndEarly : ChannelProgress → Prop
  | .stopping _ | .failing _ | .panicked => True
  | .finished result => EndsEarly result
  | _ => False

lemma willEndEarly_settle_stopped (report : ColumnBundleReadCursorReport) :
    (ChannelProgress.settle input (.ok report.stopped)).WillEndEarly := by
  rw [ChannelProgress.settle, ok_bind]
  cases hresult : finishChannelRead input report.stopped with
  | error error => trivial
  | ok result =>
    obtain ⟨-, rfl⟩ := finishChannelRead_eq_ok.mp hresult
    intro other hother
    cases hother
    rfl

variable (openPath zstd options workerLimits) in
/-- The flag is set, and the visitor says something else than to continue, only where the read of a
channel ends early. -/
def channelsCauseRule : CauseRule (readChannelsProgram openPath zstd options workerLimits) where
  raised sh := sh.stop = true ∨ ∃ call ∈ sh.calls, call.answer ≠ some (.ok .continue)
  doomed := ChannelProgress.WillEndEarly
  bad := EndsEarly
  raise {_ _ sh _ _} hstep hraised := by
    cases hstep with
    | called answer =>
      rcases hraised with hstop | ⟨call, hcall, hanswer⟩
      · exact Or.inl (Or.inl hstop)
      · rcases List.mem_append.mp hcall with hbefore | hnew
        · exact Or.inl (Or.inr ⟨call, hbefore, hanswer⟩)
        · obtain rfl := List.mem_singleton.mp hnew
          rcases answer with _ | error | _ | _
          · exact Or.inr trivial
          · exact Or.inr trivial
          · exact absurd rfl hanswer
          · exact Or.inr trivial
    | stored => exact Or.inr (willEndEarly_settle_stopped _)
    | announced =>
      refine Or.inr fun report hreport => ?_
      cases hreport
    | _ => exact Or.inl hraised
  keep {_ _ _ _ _} hdoomed hstep := by
    cases hstep with
    | stored => exact willEndEarly_settle_stopped _
    | announced =>
      intro report hreport
      cases hreport
    | refused => exact hdoomed.elim
    | opened => exact hdoomed.elim
    | ended => exact hdoomed.elim
    | seesStop => exact hdoomed.elim
    | invalid => exact hdoomed.elim
    | valid => exact hdoomed.elim
    | called => exact hdoomed.elim
  result {progress _} hdoomed hresult := by
    cases progress with
    | finished result =>
      cases hresult
      exact hdoomed
    | _ => cases hresult

/-! ### Who asks to stop -/

/-- The visitor has asked to stop. -/
def AskedToStop (calls : List ChannelVisitorCall) : Prop :=
  ∃ call ∈ calls, call.answer = some (.ok .stop)

lemma AskedToStop.append {calls : List ChannelVisitorCall} {call : ChannelVisitorCall}
    (h : AskedToStop calls) : AskedToStop (calls ++ [call]) := by
  obtain ⟨asking, hasking, hanswer⟩ := h
  exact ⟨asking, List.mem_append_left _ hasking, hanswer⟩

lemma AskedToStop.step {sh sh' : ChannelsShared} {progress progress' : ChannelProgress}
    (h : AskedToStop sh.calls) (hstep : ReadPhysicalV2ChannelStep openPath zstd options input
      (progress, sh) (progress', sh')) : AskedToStop sh'.calls := by
  cases hstep with
  | called answer => exact h.append
  | _ => exact h

/-- The read of a channel fails. -/
def ChannelProgress.Fails : ChannelProgress → Prop
  | .failing _ | .panicked | .finished (.error _) => True
  | _ => False

/-- A stop that the channel has noticed was asked for. -/
def ChannelProgress.StopsAsAsked : ChannelProgress → ChannelsShared → Prop
  | .visiting _ _ report, _ | .calling _ _ _ report, _ => report.cancelled = false
  | .stopping _, sh => AskedToStop sh.calls
  | .finished (.ok report), sh => report.cancelled = true → AskedToStop sh.calls
  | _, _ => True

lemma stopsAsAsked_settle {sh : ChannelsShared} {report : ColumnBundleReadCursorReport}
    (h : report.cancelled = true → AskedToStop sh.calls) :
    (ChannelProgress.settle input (.ok report)).StopsAsAsked sh := by
  rw [ChannelProgress.settle, ok_bind]
  cases hresult : finishChannelRead input report with
  | error error => trivial
  | ok result =>
    obtain ⟨-, rfl⟩ := finishChannelRead_eq_ok.mp hresult
    exact h

variable (openPath zstd options workerLimits) in
/-- A channel that is failing ends with an error. -/
def failingRule : DoomRule (readChannelsProgram openPath zstd options workerLimits) where
  doomed := ChannelProgress.Fails
  bad result := ∃ error, result = .error error
  keep {_ _ _ _ _} hdoomed hstep := by
    cases hstep with
    | announced => trivial
    | _ => exact hdoomed.elim
  result {progress _} hdoomed hresult := by
    rcases progress with _ | _ | _ | _ | _ | (error | report) | _
    case finished.error =>
      cases hresult
      exact ⟨error, rfl⟩
    case finished.ok => exact hdoomed.elim
    all_goals cases hresult

variable (openPath zstd options workerLimits) in
/-- Unless a channel fails, the flag is only set when the visitor asks for it. -/
def askedRule : UnlessRule (readChannelsProgram openPath zstd options workerLimits)
    (failingRule openPath zstd options workerLimits) where
  calm sh := sh.stop = true → AskedToStop sh.calls
  held := ChannelProgress.StopsAsAsked
  done result sh := ∀ report, result = .ok report → report.cancelled = true →
    AskedToStop sh.calls
  start _ _ := trivial
  work {_ _ _ _ _} hcalm hheld hstep := by
    cases hstep with
    | refused => exact Or.inl trivial
    | opened => exact Or.inr ⟨hcalm, rfl⟩
    | @ended failure report =>
      rcases failure with _ | error
      · refine Or.inr ⟨hcalm, stopsAsAsked_settle fun hcancelled => ?_⟩
        rw [show report.cancelled = false from hheld] at hcancelled
        cases hcancelled
      · exact Or.inl trivial
    | seesStop hstop => exact Or.inr ⟨hcalm, stopsAsAsked_settle fun _ => hcalm hstop⟩
    | invalid => exact Or.inl trivial
    | valid => exact Or.inr ⟨hcalm, hheld⟩
    | called answer =>
      rcases answer with _ | error | _ | _
      · exact Or.inl trivial
      · exact Or.inl trivial
      · exact Or.inr ⟨fun hstop => (hcalm hstop).append, hheld⟩
      · exact Or.inr ⟨fun hstop => (hcalm hstop).append, _,
          List.mem_append_right _ (List.mem_singleton_self _), rfl⟩
    | stored => exact Or.inr ⟨fun _ => hheld, stopsAsAsked_settle fun _ => hheld⟩
    | announced => exact Or.inl trivial
  result {progress _ _} hheld hresult := by
    cases progress with
    | finished result =>
      cases hresult
      rintro report rfl
      exact hheld
    | _ => cases hresult
  others hstep := by
    refine ⟨fun progress hheld => ?_, fun result hdone report hok hcancelled =>
      (hdone report hok hcancelled).step hstep⟩
    rcases progress with _ | _ | _ | _ | _ | (_ | _) | _
    · trivial
    · exact hheld
    · exact hheld
    · exact AskedToStop.step hheld hstep
    · trivial
    · trivial
    · exact fun hcancelled => (hheld hcancelled).step hstep
    · trivial

/-! ### The end of the work -/

/-- How far a channel is from its end; a plan has at most `2 ^ 32` row groups. -/
def ChannelProgress.rank : ChannelProgress → ℕ
  | .opening _ => 2 * 2 ^ 32 + 4
  | .visiting _ remaining _ => 2 * remaining.length + 3
  | .calling _ _ remaining _ => 2 * remaining.length + 4
  | .stopping _ => 2
  | .failing _ => 1
  | .finished _ => 0
  | .panicked => 0

lemma rank_settle_le {outcome : Result ColumnBundleReadCursorReport} :
    (ChannelProgress.settle input outcome).rank ≤ 1 := by
  rw [ChannelProgress.settle]
  cases outcome >>= finishChannelRead input with
  | error error => exact Nat.le_refl 1
  | ok report => exact Nat.zero_le 1

lemma rank_step {sh sh' : ChannelsShared} {progress progress' : ChannelProgress}
    (hstep : ReadPhysicalV2ChannelStep openPath zstd options input (progress, sh)
      (progress', sh')) : progress'.rank < progress.rank := by
  cases hstep with
  | refused => simp [ChannelProgress.rank]
  | @opened share script sh h =>
    obtain ⟨⟨file, plan⟩, -, rfl⟩ := map_eq_ok.mp h
    have hlength := file.length_batches_visitPlanScript zstd plan (input.selection plan)
      ⟨options.maxInFlightRowGroups, true⟩
    simp only [ChannelProgress.rank]
    omega
  | ended =>
    refine rank_settle_le.trans_lt ?_
    simp [ChannelProgress.rank]
  | seesStop =>
    refine rank_settle_le.trans_lt ?_
    simp only [ChannelProgress.rank]
    omega
  | invalid =>
    simp only [ChannelProgress.rank]
    omega
  | valid =>
    simp only [ChannelProgress.rank, List.length_cons]
    omega
  | called answer =>
    rcases answer with _ | error | _ | _ <;> simp only [ChannelProgress.rank] <;> omega
  | stored => exact rank_settle_le.trans_lt (by simp [ChannelProgress.rank])
  | announced => exact Nat.zero_lt_one

/-- A worker is never stuck with a channel. -/
lemma exists_channelStep {progress : ChannelProgress} (sh : ChannelsShared)
    (hresult : progress.result? = none) (hpanicked : progress ≠ .panicked) :
    ∃ progress' sh', ReadPhysicalV2ChannelStep openPath zstd options input (progress, sh)
      (progress', sh') := by
  rcases progress with share | ⟨failure, _ | ⟨batch, rest⟩, report⟩ | ⟨failure, batch, rest, report⟩ |
    report | error | result | _
  · cases h : channelScript openPath zstd options input share with
    | error error => exact ⟨_, _, .refused h⟩
    | ok script => exact ⟨_, _, .opened h⟩
  · exact ⟨_, _, .ended⟩
  · cases h : validateChannelBatch batch with
    | error error => exact ⟨_, _, .invalid h⟩
    | ok => exact ⟨_, _, .valid h⟩
  · exact ⟨_, _, .called none⟩
  · exact ⟨_, _, .stored⟩
  · exact ⟨_, _, .announced⟩
  · cases hresult
  · exact absurd rfl hpanicked

/-- The script of a selection that decodes. -/
lemma SelectionDecodes.channelScript_eq {prepareOptions : CompactL2PhysicalV2ParallelPrepareOptions}
    {file : ColumnBundleFile} {columnIds : List UInt32}
    (h : SelectionDecodes openPath zstd options prepareOptions input limits file columnIds) :
    ∃ report batches,
      channelScript openPath zstd options input limits = .ok ⟨report, batches, none⟩ ∧
      List.Forall₂ (fun id batch => batch.rowCount.toNat = file.metadata.rowsOf id ∧
        validateChannelBatch batch = .ok ()) (input.selectedIds file) batches := by
  have hread : ∀ id ∈ input.selectedIds file, ∃ batch view, file.readPlanRowGroup zstd
        ((file.channelPlan columnIds options.perFileReadThreads).ofSelected
          (input.selectedIds file)) id = .ok batch ∧
      CompactL2PhysicalV2BatchView.fromColumnBatch batch = .ok view := by
    intro id hid
    obtain ⟨batch, view, hread, hview, -⟩ := h.decodes id hid
    exact ⟨batch, view, hread, hview⟩
  obtain ⟨batches, hbatches⟩ := isOk_mapM.mpr fun id hid => by
    obtain ⟨batch, _, hbatch, -⟩ := hread id hid
    exact ⟨batch, hbatch⟩
  have hscript := ColumnBundleFile.visitPlanScript_of_reads h.visitedPlan_eq h.readAdmitted hbatches
  have hchannel : channelScript openPath zstd options input limits = .ok (file.visitPlanScript zstd
      (file.channelPlan columnIds options.perFileReadThreads)
      (input.selection (file.channelPlan columnIds options.perFileReadThreads))
      ⟨options.maxInFlightRowGroups, true⟩) := by
    rw [channelScript, h.openChannel_eq]
    rfl
  rw [hscript] at hchannel
  refine ⟨_, batches, hchannel, forall₂_imp_of_mem ?_ (mapM_eq_ok.mp hbatches)⟩
  intro id hid batch hbatch
  obtain ⟨batch', view, hbatch', hview⟩ := hread id hid
  obtain rfl := Except.ok.inj (hbatch'.symm.trans hbatch)
  obtain ⟨rowGroup, hrowGroup, -, -, hrows⟩ := h.opened.of_readPlanRowGroup hbatch
  refine ⟨?_, ?_⟩
  · rw [OcbMetadataV1.rowsOf, hrowGroup, hrows]
    rfl
  · rw [validateChannelBatch, hview, ok_bind]
    exact CompactL2PhysicalV2BatchView.validate_eq_ok.mpr
      (CompactL2PhysicalV2BatchView.fromColumnBatch_eq_ok.mp hview).2.1

/-! ### One channel -/

section Alone

variable {S : Type}
  {visitor : S → CompactL2PhysicalV2ReadBatch → S × Result ColumnBundleVisitControl}

/-- The answers of a visitor with a state. -/
inductive Answers (visitor : S → CompactL2PhysicalV2ReadBatch → S × Result ColumnBundleVisitControl) :
    S → List ChannelVisitorCall → S → Prop
  | nil {s : S} : Answers visitor s [] s
  | cons {s s' : S} {batch : CompactL2PhysicalV2ReadBatch} {calls : List ChannelVisitorCall}
      (h : Answers visitor (visitor s batch).1 calls s') :
      Answers visitor s (⟨batch, some (visitor s batch).2⟩ :: calls) s'

lemma Answers.call {s s' : S} {batch : CompactL2PhysicalV2ReadBatch}
    {answer : Result ColumnBundleVisitControl} {calls : List ChannelVisitorCall}
    (h : Answers visitor (visitor s batch).1 calls s') (hanswer : (visitor s batch).2 = answer) :
    Answers visitor s (⟨batch, some answer⟩ :: calls) s' :=
  hanswer ▸ .cons h

lemma channelVisitor_of_error {s : S} {batch : ColumnBatch} {error : ArcadiaTioError}
    (h : validateChannelBatch batch = .error error) :
    channelVisitor visitor input.channelId (s, false) batch = ((s, false), .error error) := by
  rw [validateChannelBatch] at h
  rw [channelVisitor, if_neg Bool.false_ne_true, h]

lemma channelVisitor_of_ok {s : S} {batch : ColumnBatch} (h : validateChannelBatch batch = .ok ()) :
    channelVisitor visitor input.channelId (s, false) batch =
      match (visitor s ⟨input.channelId, batch⟩).2 with
      | .ok .stop => (((visitor s ⟨input.channelId, batch⟩).1, true), .ok .stop)
      | control => (((visitor s ⟨input.channelId, batch⟩).1, false), control) := by
  rw [validateChannelBatch] at h
  rcases hanswer : (visitor s ⟨input.channelId, batch⟩).2 with error | _ | _
  · simp only [channelVisitor, Bool.false_eq_true, if_false, h, hanswer]
  · simp only [channelVisitor, Bool.false_eq_true, if_false, h, hanswer]
  · simp only [channelVisitor, Bool.false_eq_true, if_false, h, hanswer]

/-- A channel that has been settled is finished as soon as a failure has been announced. -/
lemma steps_announce {outcome : Result ColumnBundleReadCursorReport} {sh : ChannelsShared} :
    ∃ stop, Relation.ReflTransGen (ReadPhysicalV2ChannelStep openPath zstd options input)
      (.settle input outcome, sh)
      (.finished (outcome >>= finishChannelRead input), { sh with stop }) := by
  rw [ChannelProgress.settle]
  cases outcome >>= finishChannelRead input with
  | error error => exact ⟨true, .single .announced⟩
  | ok report => exact ⟨sh.stop, .refl⟩

/-- The steps on a channel play the script to the visitor of its file. -/
lemma steps_of_deliver {failure : Option ArcadiaTioError} {batches : List ColumnBatch}
    {report : ColumnBundleReadCursorReport} {s : S × Bool} {calls : List ChannelVisitorCall} :
    ∃ more stop, Answers visitor s.1 more (VisitScript.deliver
        (channelVisitor visitor input.channelId) failure batches report s).2.1 ∧
      Relation.ReflTransGen (ReadPhysicalV2ChannelStep openPath zstd options input)
        (.visiting failure batches report, ⟨s.2, calls⟩)
        (.finished ((VisitScript.deliver (channelVisitor visitor input.channelId) failure batches
          report s).1 >>= finishChannelRead input), ⟨stop, calls ++ more⟩) := by
  induction batches generalizing report s calls with
  | nil =>
    obtain ⟨stop, hsteps⟩ := @steps_announce openPath zstd options input
      (VisitScript.ending failure report) ⟨s.2, calls⟩
    refine ⟨[], stop, .nil, .head .ended ?_⟩
    rw [List.append_nil]
    exact hsteps
  | cons batch rest ih =>
    obtain ⟨s, flag⟩ := s
    rw [VisitScript.deliver]
    cases flag with
    | true =>
      obtain ⟨stop, hsteps⟩ := @steps_announce openPath zstd options input
        (.ok (report.yielded batch.rowCount).stopped) ⟨true, calls⟩
      refine ⟨[], stop, .nil, .head (.seesStop rfl) ?_⟩
      rw [List.append_nil]
      exact hsteps
    | false =>
      cases hvalid : validateChannelBatch batch with
      | error error =>
        rw [channelVisitor_of_error hvalid]
        refine ⟨[], true, .nil, .head (.invalid hvalid) (.single ?_)⟩
        rw [List.append_nil]
        exact .announced
      | ok =>
        rw [channelVisitor_of_ok hvalid]
        rcases hanswer : (visitor s ⟨input.channelId, batch⟩).2 with error | _ | _
        · refine ⟨[⟨⟨input.channelId, batch⟩, some (.error error)⟩], true, Answers.nil.call hanswer,
            .head (.valid hvalid) (.head (.called (some (.error error))) (.single .announced))⟩
        · obtain ⟨more, stop, hmore, hsteps⟩ := @ih (report.yielded batch.rowCount)
            ((visitor s ⟨input.channelId, batch⟩).1, false)
            (calls ++ [⟨⟨input.channelId, batch⟩, some (.ok .continue)⟩])
          rw [List.append_assoc, List.singleton_append] at hsteps
          exact ⟨⟨⟨input.channelId, batch⟩, some (.ok .continue)⟩ :: more, stop,
            hmore.call hanswer, .head (.valid hvalid) (.head (.called (some (.ok .continue))) hsteps)⟩
        · obtain ⟨stop, hsteps⟩ := @steps_announce openPath zstd options input
            (.ok (report.yielded batch.rowCount).stopped)
            ⟨true, calls ++ [⟨⟨input.channelId, batch⟩, some (.ok .stop)⟩]⟩
          exact ⟨[⟨⟨input.channelId, batch⟩, some (.ok .stop)⟩], stop, Answers.nil.call hanswer,
            .head (.valid hvalid) (.head (.called (some (.ok .stop))) (.head .stored hsteps))⟩

lemma opened_of_openChannel {file : ColumnBundleFile} {plan : ColumnBundleReadPlan}
    (h : openChannel openPath zstd options input limits = .ok (file, plan)) : file.Opened := by
  obtain ⟨opened, hopen, h⟩ := bind_eq_ok.mp h
  obtain ⟨_, -, h⟩ := bind_eq_ok.mp h
  cases h
  rw [NormalizedCompactL2PhysicalV2ChannelReadInput.openFile] at hopen
  split at hopen
  · obtain ⟨_, -, hopen⟩ := bind_eq_ok.mp hopen
    exact ColumnBundleFile.opened_of_openFromSource hopen
  · exact ColumnBundleFile.opened_of_openFromSource hopen

/-- What a worker may make of a channel is what the steps on it make of it. -/
lemma steps_of_readsPhysicalV2Channel {s s' : S × Bool}
    {result : Result CompactL2PhysicalV2ChannelReadReport} (calls : List ChannelVisitorCall)
    (h : ReadsPhysicalV2Channel visitor openPath zstd options input limits s result s') :
    ∃ more stop, Answers visitor s.1 more s'.1 ∧
      Relation.ReflTransGen (ReadPhysicalV2ChannelStep openPath zstd options input)
        (.opening limits, ⟨s.2, calls⟩) (.finished result, ⟨stop, calls ++ more⟩) := by
  cases h with
  | refused hopen =>
    have hrefused : channelScript openPath zstd options input limits = .error _ :=
      map_eq_error.mpr hopen
    refine ⟨[], true, .nil, .head (.refused hrefused) (.single ?_)⟩
    rw [List.append_nil]
    exact .announced
  | @visited file plan outcome _ hopen hvisits =>
    have hrun := (ColumnBundleFile.visitsPlanRowGroups_iff (opened_of_openChannel hopen)).mp hvisits
    obtain ⟨rfl, rfl⟩ := Prod.ext_iff.mp hrun
    obtain ⟨more, stop, hmore, hsteps⟩ := @steps_of_deliver openPath zstd options input S visitor
      _ _ _ s calls
    exact ⟨more, stop, hmore, .head (.opened (map_eq_ok.mpr ⟨_, hopen, rfl⟩)) hsteps⟩

end Alone

end Channels

end ArcadiaTio.Ocb
