import QhapaqXian.Planner
import QhapaqXian.Recovery

/-!
# The embedded runtime

`QxRuntimeSubmitTask`, `QxRuntimeResumeTask` and the regression hooks of `qx_runtime.c` that leave
the shapes of a crash behind. Every function runs inside the transaction of its caller.
-/

namespace QhapaqXian

open Library Script Txn

def qxRuntimeRequestPhaseContract (request : TaskRequest) (preferResume : Bool) :
    Option CString :=
  let selected := if preferResume then request.resumeContract else request.submitContract
  if isNullOrEmpty selected then
    if preferResume then request.authorizedTools.getLast? else request.authorizedTools.head?
  else selected

/-- The row that `QxCatalogInsertTask` forms from `qx_runtime_fill_task_insert_params`. -/
def TaskRequest.toRow (request : TaskRequest) : TaskRow where
  oid := invalidOid
  sessionoid := request.sessionoid
  agentoid := request.agentoid
  namespacePolicyOid := request.namespacePolicyOid
  identityoid := request.identityoid
  ownerid := request.ownerid
  lastattemptid := invalidOid
  lastcheckpointid := invalidOid
  budgetTokens := request.budgetTokens
  budgetCost := request.budgetCost
  authorizedToolTokens := request.authorizedToolTokens
  authorizedToolCost := request.authorizedToolCost
  estimatedTokens := request.estimatedTokens
  estimatedCost := request.estimatedCost
  consumedTokens := 0
  consumedCost := 0
  state := .queued
  name := request.taskName
  goal := some request.goal
  input := request.input
  priority := request.priority
  authorizedTools := request.authorizedTools
  submitContract := qxRuntimeRequestPhaseContract request false
  resumeContract := qxRuntimeRequestPhaseContract request true

/-- `qx_scheduler_append_runtime_payload` formats a payload for an envelope it has validated. -/
def qxSchedulerAppendRuntimePayload (envelope : TaskEnvelope) : Txn Unit :=
  check (qxSchedulerRuntimeContractIsValid envelope) .objectNotInPrerequisiteState
    "scheduler contract is incomplete for runtime admission"

def holdLease (env : Env) (envelope : TaskEnvelope) (queueoid : Oid) (workerName : CString) :
    Txn LeaseRow := do
  let lease := qxSchedulerLeaseSnapshotFromEnvelope env.now envelope invalidOid workerName
  let leaseoid ← insertSchedulerLease env queueoid lease
  insertSchedulerHeartbeat env leaseoid (qxSchedulerHeartbeatSnapshotFromLease env.now lease)
  pure lease

def releaseLease (env : Env) (queueoid : Oid) (lease : LeaseRow) : Txn Unit := do
  let released := qxSchedulerReleaseLeaseSnapshot env.now lease false
  let leaseoid ← insertSchedulerLease env queueoid released
  insertSchedulerHeartbeat env leaseoid
    (qxSchedulerFinalizeHeartbeatSnapshot env.now released "scheduler-release".toList)
  record (.reportSchedulerEvent .release)

/-- The external program runs before its outcome is known, and a rollback does not undo it. -/
def qxExecuteToolContract (env : Env) (contract : Option CString) (phase : ToolPhase)
    (taskoid : Oid) (goal : Option CString) (inputPresent : Bool) : Txn ToolResult := do
  let contract ← found contract .objectNotInPrerequisiteState
    ("task " ++ toString taskoid ++ " has no authorized tool contract to execute")
  record (.executeToolContract taskoid phase contract)
  ofExcept (env.tool ⟨taskoid, phase, contract, goal, inputPresent⟩)

/-- What the phases of one attempt share once the attempt is open. -/
structure AttemptContext where
  sessionoid : Oid
  taskoid : Oid
  ownerid : Oid
  attemptoid : Oid
  queueoid : Oid
  goal : Option CString
  inputPresent : Bool
  contract : Option CString
  envelope : TaskEnvelope
  workerName : CString

structure DispatchedAttempt extends AttemptContext where
  dispatchStep : Oid
  dispatchTrace : CString

def AttemptContext.trace (ctx : AttemptContext) (stepoid : Oid) (name detail : CString) :
    TraceRow where
  oid := invalidOid
  sessionoid := ctx.sessionoid
  taskoid := ctx.taskoid
  stepoid := stepoid
  ownerid := ctx.ownerid
  name := name
  detail := detail

def checkpointTraceDetail (label : CString) (state : TaskState) : CString :=
  "checkpoint=".toList ++ label ++ ";task_state=".toList ++ [state.code]

/-- `%d` prints the sum before it is stored in an `int16`. -/
def AttemptContext.checkpointData (ctx : AttemptContext) (nextStep : Int) : CString :=
  "task=".toList ++ formatUnsigned ctx.taskoid ++ ";attempt=".toList ++
    formatUnsigned ctx.attemptoid ++ ";session=".toList ++ formatUnsigned ctx.sessionoid ++
    ";next_step=".toList ++ formatSigned nextStep

def afterCaptureLabel : CString :=
  "stage8.after_capture".toList

def finalLabel : CString :=
  "stage8.final".toList

def insertDispatchTrace (env : Env) (ctx : DispatchedAttempt) : Txn Unit :=
  insertTrace env (ctx.trace ctx.dispatchStep ctx.dispatchTrace
    (env.traceDetail ctx.taskoid ctx.dispatchTrace))

/-- From the lease of an open attempt to its checkpoint: `QxRuntimeSubmitTask` and
`qx_runtime_dispatch_retry_task` run the same statements from their first step on. -/
def captureAttempt (env : Env) (ctx : DispatchedAttempt) (base : Int) : Txn Unit := do
  qxSchedulerAppendRuntimePayload ctx.envelope
  let lease ← holdLease env ctx.envelope ctx.queueoid ctx.workerName
  insertDispatchTrace env ctx
  let _ ← insertStep env ctx.sessionoid ctx.taskoid (wrapInt16 (base + 1))
    "stage15.authorize_tools"
  let stepoid ← insertStep env ctx.sessionoid ctx.taskoid (wrapInt16 (base + 2))
    "stage16.external_submit"
  let result ← qxExecuteToolContract env ctx.contract .submit ctx.taskoid ctx.goal
    ctx.inputPresent
  chargeTaskBudget ctx.taskoid result.tokenCharge result.costCharge "external_submit"
  insertTrace env (ctx.trace stepoid (externalTraceName .submit)
    (env.traceDetail ctx.taskoid (externalTraceName .submit)))
  let _ ← insertStep env ctx.sessionoid ctx.taskoid (wrapInt16 (base + 3)) "stage8.capture_input"
  chargeTaskBudget ctx.taskoid (if ctx.inputPresent then 24 else 8) 13 "capture_input"
  let stepoid ← insertStep env ctx.sessionoid ctx.taskoid (wrapInt16 (base + 4))
    "stage8.checkpoint_barrier"
  chargeTaskBudget ctx.taskoid 4 14 "checkpoint_barrier"
  insertTrace env (ctx.trace stepoid checkpointTraceName
    (checkpointTraceDetail afterCaptureLabel .checkpointed))
  let checkpointoid ← insertCheckpoint env
    { oid := invalidOid
      sessionoid := ctx.sessionoid
      taskoid := ctx.taskoid
      attemptoid := ctx.attemptoid
      stepoid := stepoid
      ownerid := ctx.ownerid
      state := .durable
      taskState := .checkpointed
      nextStepSeqno := wrapInt16 (base + 5)
      lsn := 0
      label := afterCaptureLabel
      data := ctx.checkpointData (base + 5) }
  updateAttemptState ctx.attemptoid .checkpointed
  updateTaskRuntime ctx.taskoid .checkpointed (some ctx.attemptoid) (some checkpointoid)
  releaseLease env ctx.queueoid lease

/-- A new task with its first attempt, up to its first step. -/
def admitTask (env : Env) (request : TaskRequest) (contract checkpointLabel : Option CString) :
    Txn DispatchedAttempt := do
  let taskoid ← insertTask env request.toRow
  let attemptoid ← insertAttempt env
    ⟨invalidOid, request.sessionoid, taskoid, request.ownerid, invalidOid, 1, .running, "initial"⟩
  let cat ← catalog
  let agent ← found (cat.agents.find? request.agentoid) .internalError
    ("cache lookup failed for QhapaqXian agent " ++ toString request.agentoid)
  let envelope := qxSchedulerFillEnvelope
    { ownerid := request.ownerid
      sessionoid := request.sessionoid
      agentoid := request.agentoid
      identityoid := request.identityoid
      namespacePolicyOid := request.namespacePolicyOid
      taskoid := taskoid
      attemptoid := attemptoid
      taskName := request.taskName
      agentName := agent.name
      identityName := request.identityName
      namespacePolicyName := request.namespacePolicyName
      priority := request.priority
      checkpointLabel := checkpointLabel
      resumeLabel := none
      resumable := false
      checkpointable := true
      isRetry := false
      budgetTokens := request.budgetTokens
      budgetCost := request.budgetCost
      estimatedTokens := request.estimatedTokens
      estimatedCost := request.estimatedCost
      retryCount := 0
      contract := contract }
  let queueoid ← insertSchedulerQueue env
    (qxSchedulerQueueSnapshotFromEnvelope env.now envelope .dispatch)
  qxSchedulerAppendRuntimePayload envelope
  updateTaskRuntime taskoid .running (some attemptoid) none
  let stepoid ← insertStep env request.sessionoid taskoid 1 "stage8.scheduler_admit"
  pure
    { sessionoid := request.sessionoid
      taskoid := taskoid
      ownerid := request.ownerid
      attemptoid := attemptoid
      queueoid := queueoid
      goal := request.goal
      inputPresent := request.input.isSome
      contract := contract
      envelope := envelope
      workerName := embeddedRuntime
      dispatchStep := stepoid
      dispatchTrace := dispatchTraceName }

def qxRuntimeSubmitTask (env : Env) (request : TaskRequest) : Txn Oid := do
  qxRuntimeEnsureStartupRecoveryScan env request.ownerid
  let contract := qxRuntimeRequestPhaseContract request false
  let ctx ← admitTask env request contract (some afterCaptureLabel)
  chargeTaskBudget ctx.taskoid 16 17 "scheduler_admit"
  captureAttempt env ctx 1
  pure ctx.taskoid

def nextAttemptSeqno (task : TaskRow) : Txn Int :=
  if oidIsValid task.lastattemptid then do
    let attempt ← lookupAttempt task.lastattemptid
    pure (wrapInt16 (attempt.seqno + 1))
  else pure 1

def completeAttempt (env : Env) (ctx : AttemptContext) (base : Int) : Txn Unit := do
  qxSchedulerAppendRuntimePayload ctx.envelope
  let _ ← insertStep env ctx.sessionoid ctx.taskoid base "stage8.resume_dispatch"
  chargeTaskBudget ctx.taskoid 8 14 "resume_dispatch"
  qxSchedulerAppendRuntimePayload ctx.envelope
  let lease ← holdLease env ctx.envelope ctx.queueoid ctx.workerName
  let stepoid ← insertStep env ctx.sessionoid ctx.taskoid (wrapInt16 (base + 1))
    "stage16.external_resume"
  let result ← qxExecuteToolContract env ctx.contract .resume ctx.taskoid ctx.goal
    ctx.inputPresent
  chargeTaskBudget ctx.taskoid result.tokenCharge result.costCharge "external_resume"
  insertTrace env (ctx.trace stepoid (externalTraceName .resume)
    (env.traceDetail ctx.taskoid (externalTraceName .resume)))
  let stepoid ← insertStep env ctx.sessionoid ctx.taskoid (wrapInt16 (base + 2)) "stage8.complete"
  chargeTaskBudget ctx.taskoid 4 11 "final_checkpoint"
  insertTrace env (ctx.trace stepoid finalCheckpointTraceName
    (checkpointTraceDetail finalLabel .completed))
  let checkpointoid ← insertCheckpoint env
    { oid := invalidOid
      sessionoid := ctx.sessionoid
      taskoid := ctx.taskoid
      attemptoid := ctx.attemptoid
      stepoid := stepoid
      ownerid := ctx.ownerid
      state := .durable
      taskState := .completed
      nextStepSeqno := 0
      lsn := 0
      label := finalLabel
      data := ctx.checkpointData 0 }
  updateAttemptState ctx.attemptoid .completed
  updateTaskRuntime ctx.taskoid .completed (some ctx.attemptoid) (some checkpointoid)
  releaseLease env ctx.queueoid lease

def qxRuntimeResumeTask (env : Env) (taskoid : Oid) (label : Option CString) (ownerid : Oid) :
    Txn Oid := do
  let (task, checkpoint) ← checkResumable env taskoid label ownerid
  let seqno ← nextAttemptSeqno task
  check (decide (checkpoint.nextStepSeqno > 0)) .objectNotInPrerequisiteState
    ("checkpoint \"" ++ String.ofList checkpoint.label ++ "\" for task " ++ toString taskoid ++
      " is not resumable")
  qxRuntimeEnsureStartupRecoveryScan env ownerid
  let attemptoid ← insertAttempt env
    ⟨invalidOid, task.sessionoid, taskoid, ownerid, checkpoint.oid, seqno, .running, "resume"⟩
  updateTaskRuntime taskoid .running (some attemptoid) none
  let contract := qxRuntimeTaskPhaseContract task true
  let cat ← catalog
  let envelope := taskEnvelope env cat task ownerid attemptoid (seqno - 1) (some finalLabel)
    (some checkpoint.label) false true true contract
  let queueoid ← insertSchedulerQueue env
    (qxSchedulerQueueSnapshotFromEnvelope env.now envelope .dispatch)
  completeAttempt env
    { sessionoid := task.sessionoid
      taskoid := taskoid
      ownerid := ownerid
      attemptoid := attemptoid
      queueoid := queueoid
      goal := task.goal
      inputPresent := task.input.isSome
      contract := contract
      envelope := envelope
      workerName := embeddedRuntime }
    checkpoint.nextStepSeqno
  pure taskoid

/-- `RUN TASK`: plan, validate and submit. -/
def runTask (env : Env) (stmt : RunTaskStmt) (authorization : Except QxError ToolAuthorization) :
    Txn Oid := do
  let request ← qxPlanRunTask env stmt env.userid authorization
  qxValidateAgentPlanCapabilities request.authorizedTools
  qxRuntimeSubmitTask env request

/-- `RESUME TASK`: plan, validate and resume. -/
def resumeTask (env : Env) (stmt : ResumeTaskStmt) : Txn Oid := do
  let label ← qxPlanResumeTask env stmt env.userid
  qxRuntimeResumeTask env stmt.taskoid (some label) env.userid

/-- `pg_qx_test_start_recovery_attempt`: a backend that crashed after dispatch. -/
def testStartRecoveryAttempt (env : Env) (taskoid : Oid) : Txn Oid := do
  let task ← lookupTask taskoid
  check (task.ownerid == env.userid) .insufficientPrivilege
    ("permission denied for QhapaqXian task " ++ toString taskoid)
  check (task.state == .checkpointed || task.state == .running) .objectNotInPrerequisiteState
    ("task " ++ toString taskoid ++ " is not checkpointed or running")
  check (oidIsValid task.lastcheckpointid) .objectNotInPrerequisiteState
    ("task " ++ toString taskoid ++ " has no durable checkpoint")
  check (oidIsValid task.lastattemptid) .objectNotInPrerequisiteState
    ("task " ++ toString taskoid ++ " has no previous attempt")
  let seqno ← nextAttemptSeqno task
  let contract := qxRuntimeTaskPhaseContract task true
  check contract.isSome .objectNotInPrerequisiteState
    ("task " ++ toString taskoid ++ " has no authorized resume contract")
  let attemptoid ← insertAttempt env
    ⟨invalidOid, task.sessionoid, taskoid, task.ownerid, task.lastcheckpointid, seqno, .running,
      "resume"⟩
  updateTaskRuntime taskoid .running (some attemptoid) none
  let cat ← catalog
  let label := qxRuntimeRecoveryCheckpointLabel cat task.lastcheckpointid
  let envelope := qxRuntimeFillRecoverySchedulerEnvelope env cat task attemptoid (max (seqno - 1) 0)
    label label true true true contract
  let queueoid ← insertSchedulerQueue env
    (qxSchedulerQueueSnapshotFromEnvelope env.now envelope .dispatch)
  let _ ← holdLease env envelope queueoid embeddedRuntime
  pure attemptoid

def uncheckpointedRequest (env : Env) (sessionoid : Oid) (session : SessionInfo)
    (budget : BudgetPolicy) (authz : ToolAuthorization) (priority : CString) : TaskRequest where
  sessionoid := sessionoid
  agentoid := session.agentoid
  identityoid := session.identityoid
  namespacePolicyOid := session.namespacepolicyoid
  ownerid := session.ownerid
  taskName := some "extract_uncheckpointed".toList
  identityName := env.directory.identityName session.identityoid
  namespacePolicyName := env.directory.policyName session.namespacepolicyoid
  goal := "leave running without checkpoint".toList
  input := none
  priority := qxEffectivePriorityName priority
  authorizedTools := authz.toolContracts
  submitContract := none
  resumeContract := none
  budgetTokens := if budget.hasTokenLimit then budget.tokenLimit else 1024
  budgetCost := if budget.hasCostLimit then budget.costLimit else 128
  estimatedTokens := max (wrapInt32 (authz.toolTokenCost * 4)) 48
  estimatedCost := max (wrapInt32 (authz.toolCostUnits * 4)) 32
  authorizedToolTokens := authz.toolTokenCost
  authorizedToolCost := authz.toolCostUnits

/-- `qx_runtime_test_start_uncheckpointed_task`: dispatched, and no checkpoint was ever written. -/
def testStartUncheckpointedTask (env : Env) (sessionoid : Oid) (priority : CString)
    (authorization : Except QxError ToolAuthorization) : Txn Oid := do
  let cat ← catalog
  let session ← found (env.directory.sessions sessionoid) .undefinedObject
    ("session " ++ toString sessionoid ++ " does not exist")
  check (session.ownerid == env.userid) .insufficientPrivilege
    ("permission denied for QhapaqXian session " ++ toString sessionoid)
  let agent ← found (cat.agents.find? session.agentoid) .internalError
    ("cache lookup failed for QhapaqXian agent " ++ toString session.agentoid)
  qxRuntimeEnsureStartupRecoveryScan env session.ownerid
  let budget ← ofExcept (qxBudgetPolicyFromDefList agent.budget)
  let authz ← ofExcept authorization
  let request := uncheckpointedRequest env sessionoid session budget authz priority
  let contract := qxRuntimeRequestPhaseContract request false
  check contract.isSome .objectNotInPrerequisiteState
    ("session " ++ toString sessionoid ++ " has no authorized tool contract")
  let ctx ← admitTask env request contract none
  qxSchedulerAppendRuntimePayload ctx.envelope
  let _ ← holdLease env ctx.envelope ctx.queueoid ctx.workerName
  insertDispatchTrace env ctx
  pure ctx.taskoid

/-- `qx_runtime_test_start_exhausted_retry_task`: a failed attempt whose retries are used up. -/
def testStartExhaustedRetryTask (env : Env) (sessionoid : Oid)
    (authorization : Except QxError ToolAuthorization) : Txn Oid := do
  let taskoid ← testStartUncheckpointedTask env sessionoid "low".toList authorization
  let task ← lookupTask taskoid
  let attempt ← lookupAttempt task.lastattemptid
  let cat ← catalog
  let envelope := qxRuntimeFillRecoverySchedulerEnvelope env cat task attempt.oid
    qxSchedulerMaxRetries none none false true true (qxRuntimeTaskPhaseContract task false)
  updateAttemptState attempt.oid .failed
  updateTaskRuntime taskoid .queued (some attempt.oid) (some invalidOid)
  let _ ← insertSchedulerQueue env
    { qxSchedulerQueueSnapshotFromEnvelope env.now envelope .fixture with
      queueKind := .retry
      retryCount := qxSchedulerMaxRetries }
  qxSchedulerAppendRuntimePayload envelope
  pure taskoid

end QhapaqXian
