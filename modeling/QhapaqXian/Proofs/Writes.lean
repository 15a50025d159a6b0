import QhapaqXian.Library.Blocks
import QhapaqXian.Proofs.View
import QhapaqXian.StatRuns

/-!
# What the commands may write

Recovery appends to the ledgers, and a rebuild also replays checkpoints. The other commands are
built from blocks: each is of weight zero, except for the one that inserts a checkpoint, and a
command has a weight of one at most.
-/

namespace QhapaqXian

open Library Script Txn

variable {env : Env} {slot : WorkerSlot} {P : Action → Prop}

attribute [local simp] check found catalog newOid lookupTask lookupAttempt lookupCheckpoint
  insertTask insertAttempt insertStep insertSchedulerQueue insertSchedulerHeartbeat insertTrace
  chargeTaskBudget updateTaskRuntime updateAttemptState qxSchedulerAppendRuntimePayload
  Script.bind_assoc

/-! ## Checks -/

lemma qxValidateAgentPlanCapabilities_emits (tools : List CString) :
    (qxValidateAgentPlanCapabilities tools).Emits P :=
  emits_bind (emits_require _ _) fun _ =>
    emits_fold (fun _ decision => by simp [qxValidateToolDecision]) _ _

lemma qxPlanRunTask_emits (stmt : RunTaskStmt) (ownerid : Oid)
    (authorization : Except QxError ToolAuthorization) :
    (qxPlanRunTask env stmt ownerid authorization).Emits P := by
  simp [qxPlanRunTask]

lemma checkResumable_emits (taskoid : Oid) (label : Option CString) (ownerid : Oid) :
    (checkResumable env taskoid label ownerid).Emits P := by
  simp [checkResumable]

lemma nextAttemptSeqno_emits (task : TaskRow) : (nextAttemptSeqno task).Emits P := by
  simp [nextAttemptSeqno]

/-! ## Recovery -/

def LeaseRow.HeldFits (row : LeaseRow) : Prop :=
  row.state = .held → row.needsRecovery = false

/-- Actions of a startup scan: they append to the ledgers or set the snapshot. -/
def Action.IsRecovery : Action → Prop
  | .insertSchedulerQueue _ | .insertSchedulerHeartbeat _ | .rememberStartupRecovery _ => True
  | .insertSchedulerLease row => row.HeldFits
  | _ => False

/-- Actions of a rebuild, which may replay checkpoints as well. -/
def Action.IsRebuild : Action → Prop
  | .insertTrace _ | .emitSemanticCheckpoint _ => True
  | action => action.IsRecovery

lemma Action.IsRecovery.rebuild {action : Action} (h : action.IsRecovery) : action.IsRebuild := by
  cases action <;> first | exact h | exact h.elim

lemma qxRuntimeRecoveryRequeueTask_emits (h : ∀ row, P (.insertSchedulerQueue row))
    (context : QueueMap) (summary : TaskSummary) :
    (qxRuntimeRecoveryRequeueTask env context summary).Emits P := by
  simp [qxRuntimeRecoveryRequeueTask, recoveryTask, h]

lemma fenceQueue_emits (context : QueueMap) (cat : Catalog) (task : TaskRow)
    (summary : AttemptSummary) :
    (fenceQueue env context cat task summary).Emits Action.IsRecovery := by
  simp [fenceQueue, Action.IsRecovery]

lemma qxRuntimeRecoveryFenceAttempt_emits (context : QueueMap) (summary : AttemptSummary) :
    (qxRuntimeRecoveryFenceAttempt env context summary).Emits Action.IsRecovery := by
  unfold qxRuntimeRecoveryFenceAttempt recoveryTask
  split
  · refine emits_bind (by simp) fun task => emits_bind (by simp) fun cat => ?_
    refine emits_bind (fenceQueue_emits _ _ _ _) fun result => ?_
    refine emits_bind (emits_insertSchedulerLease fun _ => nofun) fun leaseoid => ?_
    simp [Action.IsRecovery]
  · exact emits_pure _

lemma qxRuntimeRecoveryReplayCheckpoint_emits (summary : CheckpointSummary) :
    (qxRuntimeRecoveryReplayCheckpoint env summary).Emits Action.IsRebuild := by
  simp [qxRuntimeRecoveryReplayCheckpoint, Action.IsRebuild]

lemma scan_emits {request : StartupRequest} {hooks : RecoveryHooks}
    (hledgers : ∀ action, action.IsRecovery → P action)
    (hreplays : hooks.replayCheckpoint = true → ∀ summary,
      (qxRuntimeRecoveryReplayCheckpoint env summary).Emits P) :
    (qxRecoveryRunStartupScan env request hooks).Emits P := by
  unfold qxRecoveryRunStartupScan
  refine emits_bind (by simp) fun cat => ?_
  refine emits_bind (emits_fold (qxRuntimeRecoveryRequeueTask_emits fun _ => hledgers _ trivial) _ _)
    fun context => ?_
  refine emits_bind ((emits_fold qxRuntimeRecoveryFenceAttempt_emits _ _).mono hledgers)
    fun _ => ?_
  refine emits_bind ?_ fun _ => emits_bind (emits_require _ _) fun _ => emits_pure _
  cases hhook : hooks.replayCheckpoint with
  | true => exact emits_fold (fun _ => hreplays hhook) _ _
  | false =>
    have hnone : checkpointsToReplay cat env request hooks = [] := by
      simp [checkpointsToReplay, hhook]
    rw [hnone]
    exact emits_pure _

lemma qxRecoveryRunStartupScan_emits (request : StartupRequest) (hooks : RecoveryHooks) :
    (qxRecoveryRunStartupScan env request hooks).Emits Action.IsRebuild :=
  scan_emits (fun _ h => h.rebuild) fun _ => qxRuntimeRecoveryReplayCheckpoint_emits

lemma qxRuntimeEnsureStartupRecoveryScan_emits (ownerid : Oid) :
    (qxRuntimeEnsureStartupRecoveryScan env ownerid).Emits Action.IsRecovery := by
  unfold qxRuntimeEnsureStartupRecoveryScan
  refine emits_bind emits_read fun backend => ?_
  dsimp only
  split
  · exact emits_pure _
  · exact emits_bind (scan_emits (fun _ => id) nofun) fun _ => emits_record trivial

lemma renewLease_emits (lease : LeaseRow) : (renewLease env lease).Emits Action.IsRecovery :=
  emits_bind (emits_insertSchedulerLease fun _ _ => rfl) fun _ => by simp [Action.IsRecovery]

lemma testRunSchedulerWorkerTick_emits :
    (testRunSchedulerWorkerTick env).Emits Action.IsRecovery := by
  refine emits_bind (by simp) fun cat => emits_fold (fun _ task => ?_) _ _
  unfold tickTask
  split
  · exact emits_pure _
  refine emits_bind (by simp) fun attempt => emits_bind (by simp) fun cat => ?_
  split
  · exact emits_pure _
  split
  · exact emits_pure _
  split
  · exact emits_pure _
  · exact renewLease_emits _

/-! ## Blocks -/

/-- The collector cannot tell the runtime class of a checkpoint from its trace. -/
def TraceRow.Unattributed (row : TraceRow) : Prop :=
  row.name = checkpointTraceName ∨ row.name = finalCheckpointTraceName →
    isNullOrEmpty (qxObserveTraceDetailValue row.detail "principal_runtime".toList) = true

def Action.Plain : Action → Prop
  | .insertSchedulerHeartbeat _ | .insertTrace _ | .reportSchedulerEvent _ | .insertCheckpoint _
  | .executeToolContract .. | .emitSemanticCheckpoint _ => False
  | .insertSchedulerLease row => row.HeldFits
  | _ => True

attribute [local simp] Action.Plain

/-- The blocks of the runtime, which may execute some contracts. A heartbeat that records an event
of the scheduler is followed by the report of the event. -/
inductive RuntimeBlock (env : Env) (calls : Oid → ToolPhase → Option CString → Prop) :
    Nat → (α : Type) → Txn α → Prop
  | plain {α : Type} {x : Txn α} (h : x.Emits Action.Plain) : RuntimeBlock env calls 0 α x
  | trace {row : TraceRow} (h : row.Unattributed) :
      RuntimeBlock env calls 0 Unit (insertTrace env row)
  | beat {leaseoid : Oid} {row : HeartbeatRow} (h : receiptModeEvent row.receiptMode = none) :
      RuntimeBlock env calls 0 Unit (insertSchedulerHeartbeat env leaseoid row)
  | reportedBeat {leaseoid : Oid} {row : HeartbeatRow} {event : SchedulerEvent}
      (h : receiptModeEvent row.receiptMode = some event) :
      RuntimeBlock env calls 0 Unit
        (insertSchedulerHeartbeat env leaseoid row >>= fun _ =>
          record (.reportSchedulerEvent event))
  | execute {contract goal : Option CString} {phase : ToolPhase} {taskoid : Oid}
      {inputPresent : Bool} (h : calls taskoid phase contract) :
      RuntimeBlock env calls 0 ToolResult
        (qxExecuteToolContract env contract phase taskoid goal inputPresent)
  | checkpoint {row : CheckpointRow} : RuntimeBlock env calls 1 Oid (insertCheckpoint env row)

section blocks

variable {calls : Oid → ToolPhase → Option CString → Prop} {n : Nat} {α β : Type} {x : Txn α}

def Blockwise (env : Env) (calls : Oid → ToolPhase → Option CString → Prop) (n : Nat)
    (x : Txn α) : Prop :=
  Built (RuntimeBlock env calls) n x

lemma plain_bind {f : α → Txn β} (hx : x.Emits Action.Plain)
    (hf : ∀ a, Blockwise env calls n (f a)) : Blockwise env calls n (x >>= f) :=
  .bind (.block (.plain hx)) hf

lemma trace_bind {row : TraceRow} {f : Unit → Txn β} (h : row.Unattributed)
    (hf : ∀ u, Blockwise env calls n (f u)) : Blockwise env calls n (insertTrace env row >>= f) :=
  .bind (.block (.trace h)) hf

lemma unattributed_of_name {row : TraceRow} (name : CString) (hname : row.name = name)
    (h : ¬(name = checkpointTraceName ∨ name = finalCheckpointTraceName)) : row.Unattributed :=
  fun hnames => absurd (hname ▸ hnames) h

/-! ### Attempts -/

lemma receiptModeEvent_ledger : receiptModeEvent "scheduler-ledger".toList = none := by
  decide +kernel

lemma receiptModeEvent_renew :
    receiptModeEvent (qxSafeRuntimeText (some "scheduler-renew".toList)) = some .renew := by
  decide +kernel

lemma receiptModeEvent_reclaim :
    receiptModeEvent (qxSchedulerSafeText (some "scheduler-reclaim".toList)) = some .reclaim := by
  decide +kernel

lemma receiptModeEvent_release :
    receiptModeEvent (qxSchedulerSafeText (some "scheduler-release".toList)) = some .release := by
  decide +kernel

lemma holdLease_blocks {envelope : TaskEnvelope} {queueoid : Oid} {workerName : CString} :
    Blockwise env calls 0 (holdLease env envelope queueoid workerName) := by
  unfold holdLease
  refine plain_bind (emits_insertSchedulerLease fun _ _ => rfl) fun leaseoid => ?_
  exact .bind (.block (.beat receiptModeEvent_ledger)) fun _ => .pure _

lemma releaseLease_blocks {queueoid : Oid} {lease : LeaseRow} :
    Blockwise env calls 0 (releaseLease env queueoid lease) := by
  unfold releaseLease
  refine plain_bind (emits_insertSchedulerLease fun _ _ => rfl) fun leaseoid => ?_
  exact .block (.reportedBeat receiptModeEvent_release)

lemma externalTrace_unattributed (ctx : AttemptContext) (stepoid : Oid) (phase : ToolPhase)
    (detail : CString) : (ctx.trace stepoid (externalTraceName phase) detail).Unattributed :=
  unattributed_of_name (externalTraceName phase) rfl (by cases phase <;> decide)

lemma checkpointTrace_unattributed (ctx : AttemptContext) (stepoid : Oid) (name : CString) :
    (ctx.trace stepoid name (checkpointTraceDetail afterCaptureLabel .checkpointed)).Unattributed ∧
      (ctx.trace stepoid name (checkpointTraceDetail finalLabel .completed)).Unattributed := by
  have hcapture : isNullOrEmpty (qxObserveTraceDetailValue
      (checkpointTraceDetail afterCaptureLabel .checkpointed) "principal_runtime".toList) = true := by
    decide +kernel
  have hfinal : isNullOrEmpty (qxObserveTraceDetailValue
      (checkpointTraceDetail finalLabel .completed) "principal_runtime".toList) = true := by
    decide +kernel
  exact ⟨fun _ => hcapture, fun _ => hfinal⟩

def DispatchedAttempt.NamesDispatch (ctx : DispatchedAttempt) : Prop :=
  ctx.dispatchTrace = dispatchTraceName ∨ ctx.dispatchTrace = retryDispatchTraceName

lemma insertDispatchTrace_blocks {ctx : DispatchedAttempt} (hctx : ctx.NamesDispatch) :
    Blockwise env calls 0 (insertDispatchTrace env ctx) := by
  refine .block (.trace (unattributed_of_name ctx.dispatchTrace rfl ?_))
  rcases hctx with h | h <;> rw [h] <;> decide

lemma captureAttempt_blocks {ctx : DispatchedAttempt} (hctx : ctx.NamesDispatch)
    (hcalls : calls ctx.taskoid .submit ctx.contract) (base : Int) :
    Blockwise env calls 1 (captureAttempt env ctx base) := by
  unfold captureAttempt
  refine plain_bind (by simp) fun _ => .bind holdLease_blocks fun lease => ?_
  refine .bind (insertDispatchTrace_blocks hctx) fun _ => ?_
  refine plain_bind (by simp) fun _ => plain_bind (by simp) fun _ => ?_
  refine .bind (.block (.execute hcalls)) fun _ => ?_
  refine plain_bind (by simp) fun _ => ?_
  refine trace_bind (externalTrace_unattributed _ _ _ _) fun _ => ?_
  refine plain_bind (by simp) fun _ => plain_bind (by simp) fun _ => ?_
  refine plain_bind (by simp) fun _ => plain_bind (by simp) fun _ => ?_
  refine trace_bind (checkpointTrace_unattributed _ _ _).1 fun _ => ?_
  refine .bind_last (.block .checkpoint) fun _ => ?_
  refine plain_bind (by simp) fun _ => ?_
  exact plain_bind (by simp) fun _ => releaseLease_blocks

lemma completeAttempt_blocks {ctx : AttemptContext}
    (hcalls : calls ctx.taskoid .resume ctx.contract) (base : Int) :
    Blockwise env calls 1 (completeAttempt env ctx base) := by
  unfold completeAttempt
  refine plain_bind (by simp) fun _ => plain_bind (by simp) fun _ => ?_
  refine plain_bind (by simp) fun _ => ?_
  refine plain_bind (by simp) fun _ => .bind holdLease_blocks fun lease => ?_
  refine plain_bind (by simp) fun _ => ?_
  refine .bind (.block (.execute hcalls)) fun _ => ?_
  refine plain_bind (by simp) fun _ => ?_
  refine trace_bind (externalTrace_unattributed _ _ _ _) fun _ => ?_
  refine plain_bind (by simp) fun _ => plain_bind (by simp) fun _ => ?_
  refine trace_bind (checkpointTrace_unattributed _ _ _).2 fun _ => ?_
  refine .bind_last (.block .checkpoint) fun _ => ?_
  refine plain_bind (by simp) fun _ => ?_
  exact plain_bind (by simp) fun _ => releaseLease_blocks

/-! ### The scheduler -/

lemma reclaimTask_plain (task : TaskRow) (attempt : AttemptRow) (lease : LeaseRow) :
    (reclaimTask env task attempt lease).Emits Action.Plain := by
  unfold reclaimTask
  refine emits_bind (by simp) fun cat => ?_
  split <;> simp

lemma superviseLease_blocks (stats : CycleStats) (task : TaskRow) (attempt : AttemptRow)
    (lease : LeaseRow) :
    Blockwise env calls 0 (superviseLease env slot stats task attempt lease) := by
  unfold superviseLease
  split
  · exact .pure _
  split
  · unfold renewLease
    dsimp only
    rw [Script.bind_assoc]
    refine plain_bind (emits_insertSchedulerLease fun _ _ => rfl) fun _ => ?_
    exact Built.block_bind (.reportedBeat receiptModeEvent_renew) fun _ => .pure _
  · unfold qxRuntimeReclaimRunningAttempt
    refine plain_bind (reclaimTask_plain _ _ _) fun _ => ?_
    refine plain_bind (emits_insertSchedulerLease fun _ => nofun) fun _ => ?_
    exact Built.block_bind (.reportedBeat receiptModeEvent_reclaim) fun _ => .pure _

lemma superviseTask_blocks (stats : CycleStats) (task : TaskRow) :
    Blockwise env calls 0 (superviseTask env slot stats task) := by
  dsimp only [superviseTask, superviseAttempt]
  split
  · exact .pure _
  split
  · exact .pure _
  refine plain_bind (by simp) fun attempt => plain_bind (by simp) fun cat => ?_
  split
  · exact .pure _
  split
  · exact .pure _
  · exact superviseLease_blocks _ _ _ _

lemma qxRuntimeRunSchedulerCycle_blocks :
    Blockwise env calls 0 (qxRuntimeRunSchedulerCycle env slot) :=
  plain_bind (by simp) fun _ => Built.fold superviseTask_blocks _ _

lemma qxRuntimeDeadLetterRetryTask_blocks (candidate : RetryCandidate) :
    Blockwise env calls 0 (qxRuntimeDeadLetterRetryTask env candidate) := by
  unfold qxRuntimeDeadLetterRetryTask
  split
  · exact .pure _
  refine plain_bind (by simp) fun _ => plain_bind (by simp) fun _ => ?_
  refine plain_bind (by simp) fun _ => ?_
  exact trace_bind (unattributed_of_name deadLetterTraceName rfl (by decide)) fun _ => .pure _

lemma retryTask_blocks (intake : RetryIntake) (task : TaskRow) :
    Blockwise env calls 0 (retryTask env slot intake task) := by
  dsimp only [retryTask, retryAttempt, considerRetry]
  split
  · exact .pure _
  split
  · exact .pure _
  refine plain_bind (by simp) fun attempt => plain_bind (by simp) fun cat => ?_
  split
  · exact .pure _
  split
  · exact .pure _
  split
  · exact .pure _
  split
  · exact .pure _
  split
  · exact .bind (qxRuntimeDeadLetterRetryTask_blocks _) fun _ => .pure _
  · exact .pure _

lemma qxRuntimeDispatchRetryTask_blocks {candidate : RetryCandidate}
    (hcalls : calls candidate.task.oid .submit (qxRuntimeTaskPhaseContract candidate.task false)) :
    Blockwise env calls 1 (qxRuntimeDispatchRetryTask env slot candidate) := by
  dsimp only [qxRuntimeDispatchRetryTask]
  split
  · exact .pure _
  refine .bind_yields (.block (.plain (emits_expect _ _))) (yields_expect _ _) ?_
  intro contract hcontract
  rw [hcontract] at hcalls
  refine plain_bind (by simp) fun _ => plain_bind (by simp) fun _ => ?_
  refine plain_bind (by simp) fun _ => plain_bind (by simp) fun _ => ?_
  refine plain_bind (by simp) fun _ => plain_bind (by simp) fun _ => ?_
  refine plain_bind (by simp) fun _ => ?_
  exact .bind_last (captureAttempt_blocks (.inr rfl) hcalls _) fun _ => .pure _

lemma qxRuntimeRunSchedulerRetryCycle_blocks (hcalls : ∀ taskoid contract,
      calls taskoid .submit contract) :
    Blockwise env calls 1 (qxRuntimeRunSchedulerRetryCycle env slot) := by
  unfold qxRuntimeRunSchedulerRetryCycle
  refine plain_bind (by simp) fun _ => ?_
  refine .bind (Built.fold retryTask_blocks _ _) fun intake => ?_
  split
  · exact .pure _
  · exact .bind_last (qxRuntimeDispatchRetryTask_blocks (hcalls _ _)) fun _ => .pure _

/-! ### Tasks -/

lemma admitTask_plain (request : TaskRequest) (contract label : Option CString) :
    (admitTask env request contract label).Emits Action.Plain := by
  simp [admitTask]

lemma admitTask_yields (request : TaskRequest) (contract label : Option CString) :
    (admitTask env request contract label).Yields DispatchedAttempt.NamesDispatch := by
  unfold admitTask
  repeat refine yields_bind fun _ => ?_
  exact yields_pure (.inl rfl)

lemma testStartRecoveryAttempt_blocks (taskoid : Oid) :
    Blockwise env calls 0 (testStartRecoveryAttempt env taskoid) := by
  unfold testStartRecoveryAttempt
  refine plain_bind (by simp) fun task => plain_bind (by simp) fun _ => ?_
  refine plain_bind (by simp) fun _ => plain_bind (by simp) fun _ => ?_
  refine plain_bind (by simp) fun _ => plain_bind (nextAttemptSeqno_emits _) fun _ => ?_
  refine plain_bind (by simp) fun _ => plain_bind (by simp) fun _ => ?_
  refine plain_bind (by simp) fun _ => plain_bind (by simp) fun _ => ?_
  refine plain_bind (by simp) fun _ => ?_
  exact .bind holdLease_blocks fun _ => .pure _

lemma qxPlanRunTask_owner (stmt : RunTaskStmt) (ownerid : Oid)
    (authorization : Except QxError ToolAuthorization) :
    (qxPlanRunTask env stmt ownerid authorization).Yields fun request =>
      request.ownerid = ownerid := by
  unfold qxPlanRunTask
  repeat refine yields_bind fun _ => ?_
  exact yields_pure rfl

/-- The startup scan of the user who runs the command, which comes before any write. -/
def userScan (env : Env) : Txn Unit :=
  qxRuntimeEnsureStartupRecoveryScan env env.userid

lemma runTask_opened (hcalls : ∀ taskoid contract, calls taskoid .submit contract)
    (stmt : RunTaskStmt) (authorization : Except QxError ToolAuthorization) :
    Opened (userScan env) (RuntimeBlock env calls) 1 (runTask env stmt authorization) := by
  unfold runTask qxRuntimeSubmitTask
  refine .read_bind (qxPlanRunTask_emits _ _ _) (qxPlanRunTask_owner _ _ _) fun request howner => ?_
  refine .read_bind (qxValidateAgentPlanCapabilities_emits _) (yields_true _) fun _ _ => ?_
  rw [howner]
  refine .opening_bind fun _ => ?_
  refine .bind_yields (.block (.plain (admitTask_plain _ _ _))) (admitTask_yields _ _ _) ?_
  intro ctx hctx
  refine plain_bind (by simp) fun _ => ?_
  exact .bind_last (captureAttempt_blocks hctx (hcalls _ _) _) fun _ => .pure _

lemma qxPlanResumeTask_emits (stmt : ResumeTaskStmt) :
    (qxPlanResumeTask env stmt env.userid).Emits P :=
  emits_bind (checkResumable_emits _ _ _) fun _ =>
    emits_bind (qxValidateAgentPlanCapabilities_emits _) fun _ => emits_pure _

lemma resumeTask_opened (hcalls : ∀ taskoid contract, calls taskoid .resume contract)
    (stmt : ResumeTaskStmt) :
    Opened (userScan env) (RuntimeBlock env calls) 1 (resumeTask env stmt) := by
  unfold resumeTask qxRuntimeResumeTask
  refine .read_bind (qxPlanResumeTask_emits stmt) (yields_true _) fun label _ => ?_
  refine .read_bind (checkResumable_emits _ _ _) (yields_true _) fun _ _ => ?_
  refine .read_bind (nextAttemptSeqno_emits _) (yields_true _) fun _ _ => ?_
  refine .read_bind (emits_require _ _) (yields_true _) fun _ _ => .opening_bind fun _ => ?_
  refine plain_bind (by simp) fun _ => ?_
  refine plain_bind (by simp) fun _ => plain_bind (by simp) fun _ => ?_
  refine plain_bind (by simp) fun _ => ?_
  exact .bind_last (completeAttempt_blocks (hcalls _ _) _) fun _ => .pure _

lemma testStartUncheckpointedTask_opened (sessionoid : Oid) (priority : CString)
    (authorization : Except QxError ToolAuthorization) :
    Opened (userScan env) (RuntimeBlock env calls) 0
      (testStartUncheckpointedTask env sessionoid priority authorization) := by
  unfold testStartUncheckpointedTask
  refine .read_bind emits_catalog (yields_true _) fun _ _ => ?_
  refine .read_bind (emits_expect _ _) (yields_true _) fun session _ => ?_
  refine .read_bind (emits_require _ _) (yields_require _ _) fun _ howner => ?_
  refine .read_bind (emits_expect _ _) (yields_true _) fun agent _ => ?_
  rw [beq_iff_eq.mp howner]
  refine .opening_bind fun _ => plain_bind (by simp) fun budget => ?_
  refine plain_bind (by simp) fun authz => plain_bind (by simp) fun _ => ?_
  refine .bind_yields (.block (.plain (admitTask_plain _ _ _))) (admitTask_yields _ _ _) ?_
  intro ctx hctx
  refine plain_bind (by simp) fun _ => .bind holdLease_blocks fun _ => ?_
  exact .bind (insertDispatchTrace_blocks hctx) fun _ => .pure _

lemma testStartExhaustedRetryTask_opened (sessionoid : Oid)
    (authorization : Except QxError ToolAuthorization) :
    Opened (userScan env) (RuntimeBlock env calls) 0
      (testStartExhaustedRetryTask env sessionoid authorization) := by
  refine (testStartUncheckpointedTask_opened _ _ _).bind fun _ => ?_
  refine plain_bind (by simp) fun _ => plain_bind (by simp) fun _ => ?_
  refine plain_bind (by simp) fun _ => plain_bind (by simp) fun _ => ?_
  refine plain_bind (by simp) fun _ => plain_bind (by simp) fun _ => ?_
  exact plain_bind (by simp) fun _ => .pure _

/-! ## The actions of a block -/

/-- The action may be written by blocks of the weight. -/
def Action.Fits (calls : Oid → ToolPhase → Option CString → Prop) (n : Nat) : Action → Prop
  | .insertTrace row => row.Unattributed
  | .insertSchedulerLease row => row.HeldFits
  | .executeToolContract taskoid phase contract => calls taskoid phase (some contract)
  | .insertCheckpoint _ => n ≠ 0
  | .emitSemanticCheckpoint _ => False
  | _ => True

lemma Action.Fits.mono {m n : Nat} {action : Action} (hle : m ≤ n) (h : action.Fits calls m) :
    action.Fits calls n := by
  cases action with
  | insertCheckpoint row =>
    have hm : m ≠ 0 := h
    exact Nat.pos_iff_ne_zero.mp ((Nat.pos_of_ne_zero hm).trans_le hle)
  | _ => exact h

lemma Action.IsRecovery.fits (action : Action) (h : action.IsRecovery) :
    action.Fits calls n := by
  cases action <;> trivial

lemma RuntimeBlock.emits (h : RuntimeBlock env calls n α x) : x.Emits (Action.Fits calls n) := by
  cases h with
  | plain h =>
    refine h.mono fun action hplain => ?_
    cases action <;> trivial
  | trace h => exact fun _ => ⟨h, trivial⟩
  | beat h | reportedBeat h => simp [Action.Fits]
  | execute h =>
    refine emits_bind_of (yields_expect _ _) (emits_expect _ _) fun contract hcontract => ?_
    rw [hcontract] at h
    exact emits_bind (emits_record h) fun _ => emits_ofExcept _
  | checkpoint =>
    simp [insertCheckpoint, Action.Fits]

lemma Blockwise.emits (h : Blockwise env calls n x) : x.Emits (Action.Fits calls n) :=
  Built.emits Action.Fits.mono (fun _ _ _ => RuntimeBlock.emits) h

def Action.Silent : Action → Prop
  | .executeToolContract .. => False
  | _ => True

def Action.isCheckpoint : Action → Bool
  | .insertCheckpoint _ => true
  | _ => false

lemma Action.Fits.silent (action : Action) (h : action.Fits (fun _ _ _ => False) n) :
    action.Silent := by
  cases action <;> trivial

lemma Action.Fits.not_checkpoint (action : Action) (h : action.Fits calls 0) :
    action.isCheckpoint = false := by
  cases action <;> first | rfl | exact absurd rfl h

lemma Blockwise.silent (h : Blockwise env (fun _ _ _ => False) n x) : x.Emits Action.Silent :=
  h.emits.mono Action.Fits.silent

lemma Blockwise.not_checkpoint (h : Blockwise env calls 0 x) :
    x.Emits fun action => action.isCheckpoint = false :=
  h.emits.mono Action.Fits.not_checkpoint

lemma filterMap_execution_of_silent (now : TimestampTz) {journal : List Action}
    (h : ∀ action ∈ journal, action.Silent) :
    journal.filterMap (Action.execution now) = [] := by
  refine List.filterMap_eq_nil_iff.mpr fun action haction => ?_
  have hsilent := h action haction
  cases action <;> first | rfl | exact hsilent.elim

/-- The table of the action has room for its row. -/
def Action.AdmittedIn (s : Backend) (action : Action) : Prop :=
  action.Admitted s.catalog

lemma insertCheckpoint_atMost {row : CheckpointRow} :
    (insertCheckpoint env row).AtMost Action.isCheckpoint Action.AdmittedIn 1 := by
  let oid (s : Backend) : Oid := env.oids.next .checkpoint s.catalog.checkpoints.idents
  exact atMost_look_write
    (fun s : Backend => Action.insertCheckpoint { row with oid := oid s, lsn := env.lsn })
    (fun s => .done (oid s)) (fun s => admits_next env .checkpoint rfl) fun s => trivial

lemma RuntimeBlock.atMost (h : RuntimeBlock env calls n α x) :
    x.AtMost Action.isCheckpoint Action.AdmittedIn n := by
  have hemits := h.emits
  cases h with
  | checkpoint => exact insertCheckpoint_atMost
  | _ => exact atMost_of_emits (hemits.mono Action.Fits.not_checkpoint)

end blocks

/-! ## Commands -/

def Command.rebuilds : Command → Bool
  | .failoverRebuild | .semanticReplay => true
  | _ => false

def Command.ticks : Command → Bool
  | .workerTick => true
  | _ => false

def Command.dispatches : Command → Bool
  | .runTask .. | .resumeTask _ | .retryCycle _ => true
  | _ => false

section commands

variable {command : Command}

lemma discard_opened {calls : Oid → ToolPhase → Option CString → Prop} {n : Nat} {α : Type}
    {x : Txn α} (h : Opened (userScan env) (RuntimeBlock env calls) n x) :
    Opened (userScan env) (RuntimeBlock env calls) n (x >>= fun _ => pure ()) :=
  h.bind fun _ => .pure ()

theorem Command.script_opened (hrebuilds : command.rebuilds = false)
    (hticks : command.ticks = false) (hrecovers : command ≠ .startupRecovery) :
    Opened (userScan env) (RuntimeBlock env fun _ _ _ => command.dispatches = true)
      command.dispatches.toNat (command.script env) := by
  cases command with
  | runTask stmt authorization =>
    exact discard_opened (runTask_opened (fun _ _ => rfl) stmt authorization)
  | resumeTask stmt => exact discard_opened (resumeTask_opened (fun _ _ => rfl) stmt)
  | schedulerCycle slot => exact discard_opened (.built qxRuntimeRunSchedulerCycle_blocks)
  | retryCycle slot =>
    exact discard_opened (.built (qxRuntimeRunSchedulerRetryCycle_blocks fun _ _ => rfl))
  | startupRecovery => exact absurd rfl hrecovers
  | failoverRebuild | semanticReplay => cases hrebuilds
  | startRecoveryAttempt taskoid =>
    exact discard_opened (.built (testStartRecoveryAttempt_blocks taskoid))
  | startUncheckpointedTask sessionoid priority authorization =>
    exact discard_opened (testStartUncheckpointedTask_opened _ _ _)
  | startExhaustedRetryTask sessionoid authorization =>
    exact discard_opened (testStartExhaustedRetryTask_opened _ _)
  | workerTick => cases hticks

lemma Command.script_fits (h : command.rebuilds = false) : (command.script env).Emits
    (Action.Fits (fun _ _ _ => command.dispatches = true) command.dispatches.toNat) := by
  have hscan (ownerid : Oid) : (qxRuntimeEnsureStartupRecoveryScan env ownerid).Emits
      (Action.Fits (fun _ _ _ => command.dispatches = true) command.dispatches.toNat) :=
    (qxRuntimeEnsureStartupRecoveryScan_emits _).mono Action.IsRecovery.fits
  by_cases hticks : command.ticks = true
  · cases command with
    | workerTick => exact testRunSchedulerWorkerTick_emits.mono Action.IsRecovery.fits
    | _ => cases hticks
  by_cases hrecovers : command = .startupRecovery
  · subst hrecovers
    exact emits_bind (emits_record trivial) fun _ => hscan _
  · exact (Command.script_opened h (Bool.eq_false_of_not_eq_true hticks) hrecovers).emits
      Action.Fits.mono (hscan _) fun _ _ _ => RuntimeBlock.emits

/-- What a rebuild writes. -/
theorem Command.script_rebuilds (h : command.rebuilds = true) :
    (command.script env).Emits Action.IsRebuild := by
  cases command with
  | failoverRebuild | semanticReplay =>
    exact emits_bind (qxRecoveryRunStartupScan_emits _ _) fun _ => emits_pure _
  | _ => cases h

/-- Only the commands that dispatch execute contracts and insert checkpoints. -/
theorem Command.script_idle (h : command.dispatches = false) :
    (command.script env).Emits fun action => action.Silent ∧ action.isCheckpoint = false := by
  cases hrebuilds : command.rebuilds with
  | true =>
    refine (Command.script_rebuilds hrebuilds).mono fun action hrebuild => ?_
    cases action <;> first | exact ⟨trivial, rfl⟩ | exact hrebuild.elim
  | false =>
    have hfits : (command.script env).Emits _ := Command.script_fits hrebuilds
    simp only [h, Bool.false_eq_true, Bool.toNat_false] at hfits
    exact hfits.mono fun action h => ⟨h.silent, h.not_checkpoint⟩

/-- Every command writes at most one checkpoint, under an identifier that is not in use. -/
theorem Command.script_atMost (command : Command) :
    (command.script env).AtMost Action.isCheckpoint Action.AdmittedIn 1 := by
  cases hdispatches : command.dispatches with
  | false => exact atMost_of_emits ((Command.script_idle hdispatches).mono fun _ h => h.2)
  | true =>
    have hopened : Opened (userScan env) (RuntimeBlock env fun _ _ _ => command.dispatches = true)
        command.dispatches.toNat (command.script env) := by
      cases command with
      | runTask | resumeTask | retryCycle => exact Command.script_opened rfl rfl nofun
      | _ => cases hdispatches
    rw [hdispatches] at hopened
    refine hopened.atMost ?_ fun _ _ _ => RuntimeBlock.atMost
    refine (qxRuntimeEnsureStartupRecoveryScan_emits _).mono fun action h => ?_
    exact Action.Fits.not_checkpoint action (show action.Fits (fun _ _ _ => True) 0 from h.fits)

/-- Actions of the commands other than a rebuild. -/
def Action.IsWork : Action → Prop
  | .insertSchedulerLease row => row.HeldFits
  | .emitSemanticCheckpoint _ => False
  | _ => True

lemma Action.IsRecovery.work (action : Action) (h : action.IsRecovery) : action.IsWork := by
  cases action <;> trivial

/-- Only a rebuild logs checkpoints again. -/
theorem Command.script_works (h : command.rebuilds = false) :
    (command.script env).Emits Action.IsWork := by
  refine (Command.script_fits h).mono fun action hfits => ?_
  cases action <;> trivial

end commands

end QhapaqXian
