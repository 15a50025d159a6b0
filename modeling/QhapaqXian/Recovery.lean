import QhapaqXian.Envelope

/-!
# Startup recovery and failover rebuild

`qx_recovery.c` and the recovery hooks of `qx_runtime.c`. A scan summarises the rows of one owner
and appends recovery queue rows, reclaimed leases and replay traces.
-/

namespace QhapaqXian

open Library Script Txn

structure StartupRequest where
  ownerid : Oid
  includeAttempts : Bool
  includeCheckpoints : Bool
  fenceStaleAttempts : Bool
  requeueCheckpointedTasks : Bool
  rebuildFromSemanticLog : Bool
  deriving Repr, DecidableEq

structure FailoverRequest where
  ownerid : Oid
  rebuildAttemptGraph : Bool
  rebuildCheckpointGraph : Bool
  replaySemanticLog : Bool
  fenceOrphanedAttempts : Bool
  requeueCheckpointedTasks : Bool
  deriving Repr, DecidableEq

/-- Which callbacks the caller of a scan installs. -/
structure RecoveryHooks where
  requeueTask : Bool
  fenceAttempt : Bool
  replayCheckpoint : Bool
  deriving Repr, DecidableEq

structure TaskSummary where
  taskoid : Oid
  lastattemptoid : Oid
  lastcheckpointoid : Oid
  attemptCount : Int
  checkpointCount : Int
  nextStepSeqno : Int
  taskState : TaskState
  needsRequeue : Bool
  needsFence : Bool
  schedulerRecoveryQueued : Bool
  schedulerReclaimed : Bool
  hasSemanticLsn : Bool
  semanticLsn : XLogRecPtr
  taskName : Option CString
  goal : Option CString
  priority : Option CString
  deriving Repr, DecidableEq

structure AttemptSummary where
  attemptoid : Oid
  taskoid : Oid
  seqno : Int
  state : AttemptState
  schedulerReclaimed : Bool
  strategy : String
  deriving Repr, DecidableEq

structure CheckpointSummary where
  checkpointoid : Oid
  taskoid : Oid
  semanticLsn : XLogRecPtr
  semanticReplayed : Bool
  deriving Repr, DecidableEq

structure RecoveryReport where
  tasksScanned : Nat
  attemptsScanned : Nat
  checkpointsScanned : Nat
  tasksRequeued : Nat
  attemptsFenced : Nat
  checkpointsReplayed : Nat
  orphanAttempts : Nat
  semanticReplayCandidates : Nat
  checkpointsReplaySuppressed : Nat
  tasksRequeueSuppressed : Nat
  attemptsFenceSuppressed : Nat
  deriving Repr, DecidableEq

def effectiveOwner (env : Env) (ownerid : Oid) : Oid :=
  if oidIsValid ownerid then ownerid else env.userid

namespace Catalog

def buildTaskInfoList (cat : Catalog) (env : Env) (ownerid : Oid) : List TaskRow :=
  (env.scan.tasks cat.tasks.rows).filter fun row => ownerMatches ownerid row.ownerid

def buildAttemptInfoList (cat : Catalog) (env : Env) (ownerid : Oid) : List AttemptRow :=
  (env.scan.attempts cat.attempts.rows).filter fun row => ownerMatches ownerid row.ownerid

def buildCheckpointInfoList (cat : Catalog) (env : Env) (ownerid : Oid) : List CheckpointRow :=
  (env.scan.checkpoints cat.checkpoints.rows).filter fun row => ownerMatches ownerid row.ownerid

end Catalog

def qxRecoveryTaskHasSchedulerRecoveryQueue (cat : Catalog) (ownerid taskoid attemptoid : Oid) :
    Bool :=
  oidIsValid taskoid && oidIsValid attemptoid &&
    (cat.lookupLatestSchedulerQueue ownerid taskoid attemptoid).any (·.queueKind == .recovery)

def qxRecoveryAttemptHasSchedulerReclaim (cat : Catalog) (ownerid taskoid attemptoid : Oid) :
    Bool :=
  oidIsValid taskoid && oidIsValid attemptoid &&
    (cat.lookupLatestSchedulerLease ownerid taskoid attemptoid).any fun lease =>
      lease.state == .reclaimed || lease.needsRecovery

def qxRecoverySemanticReplayTrace : CString :=
  "recovery.semantic_replay".toList

def checkpointOidKey (checkpointoid : Oid) : CString :=
  "checkpoint_oid=".toList ++ formatUnsigned checkpointoid ++ ";".toList

def qxCatalogCheckpointHasSemanticReplay (cat : Catalog) (taskoid checkpointoid : Oid) : Bool :=
  oidIsValid taskoid && oidIsValid checkpointoid &&
    cat.traces.rows.any fun row =>
      row.taskoid == taskoid && row.name == qxRecoverySemanticReplayTrace &&
        (strstr row.detail (checkpointOidKey checkpointoid)).isSome

def qxRecoveryTaskSummaryFromCatalog (task : TaskRow) : TaskSummary where
  taskoid := task.oid
  lastattemptoid := task.lastattemptid
  lastcheckpointoid := task.lastcheckpointid
  attemptCount := 0
  checkpointCount := 0
  nextStepSeqno := 0
  taskState := task.state
  needsRequeue := false
  needsFence := false
  schedulerRecoveryQueued := false
  schedulerReclaimed := false
  hasSemanticLsn := false
  semanticLsn := 0
  taskName := task.name
  goal := task.goal
  priority := task.priority

/-- The step number of a summary doubles as the largest attempt number seen so far. -/
def TaskSummary.withAttempt (summary : TaskSummary) (attempt : AttemptRow) : TaskSummary :=
  if attempt.taskoid = summary.taskoid then
    let counted := { summary with
      attemptCount := summary.attemptCount + 1
      needsRequeue := summary.needsRequeue || attempt.state == .checkpointed }
    if !oidIsValid summary.lastattemptoid || decide (attempt.seqno ≥ summary.nextStepSeqno) then
      { counted with
        lastattemptoid := attempt.oid
        nextStepSeqno := attempt.seqno
        needsFence := attempt.state == .running }
    else counted
  else summary

def qxRecoveryUpdateTaskWithAttempts (summary : TaskSummary) (attempts : List AttemptRow) :
    TaskSummary :=
  attempts.foldl TaskSummary.withAttempt summary

def TaskSummary.withCheckpoint (summary : TaskSummary) (checkpoint : CheckpointRow) :
    TaskSummary :=
  if checkpoint.taskoid = summary.taskoid then
    { summary with
      checkpointCount := summary.checkpointCount + 1
      lastcheckpointoid := checkpoint.oid
      nextStepSeqno := checkpoint.nextStepSeqno
      hasSemanticLsn := checkpoint.lsn != 0
      semanticLsn := checkpoint.lsn
      needsRequeue := summary.needsRequeue || checkpoint.taskState == .checkpointed }
  else summary

def qxRecoveryUpdateTaskWithCheckpoints (summary : TaskSummary)
    (checkpoints : List CheckpointRow) : TaskSummary :=
  checkpoints.foldl TaskSummary.withCheckpoint summary

/-- What the ledgers say about the attempt a summary has settled on. -/
def TaskSummary.withLedgers (summary : TaskSummary) (cat : Catalog) (ownerid : Oid) :
    TaskSummary :=
  let reclaimed :=
    qxRecoveryAttemptHasSchedulerReclaim cat ownerid summary.taskoid summary.lastattemptoid
  { summary with
    schedulerRecoveryQueued :=
      qxRecoveryTaskHasSchedulerRecoveryQueue cat ownerid summary.taskoid summary.lastattemptoid
    schedulerReclaimed := reclaimed
    needsFence := summary.needsFence && !reclaimed }

def taskSummary (cat : Catalog) (env : Env) (ownerid : Oid) (task : TaskRow) : TaskSummary :=
  let summary := qxRecoveryTaskSummaryFromCatalog task
  let summary := qxRecoveryUpdateTaskWithAttempts summary (cat.buildAttemptInfoList env ownerid)
  let summary :=
    qxRecoveryUpdateTaskWithCheckpoints summary (cat.buildCheckpointInfoList env ownerid)
  summary.withLedgers cat ownerid

def qxRecoveryBuildTaskSummaries (cat : Catalog) (env : Env) (ownerid : Oid) :
    List TaskSummary :=
  (cat.buildTaskInfoList env ownerid).map (taskSummary cat env ownerid)

def attemptSummary (cat : Catalog) (ownerid : Oid) (attempt : AttemptRow) : AttemptSummary where
  attemptoid := attempt.oid
  taskoid := attempt.taskoid
  seqno := attempt.seqno
  state := attempt.state
  schedulerReclaimed :=
    qxRecoveryAttemptHasSchedulerReclaim cat ownerid attempt.taskoid attempt.oid
  strategy := attempt.strategy

def qxRecoveryBuildAttemptSummaries (cat : Catalog) (env : Env) (ownerid : Oid) :
    List AttemptSummary :=
  (cat.buildAttemptInfoList env ownerid).map (attemptSummary cat ownerid)

def checkpointSummary (cat : Catalog) (checkpoint : CheckpointRow) : CheckpointSummary where
  checkpointoid := checkpoint.oid
  taskoid := checkpoint.taskoid
  semanticLsn := checkpoint.lsn
  semanticReplayed := qxCatalogCheckpointHasSemanticReplay cat checkpoint.taskoid checkpoint.oid

def qxRecoveryBuildCheckpointSummaries (cat : Catalog) (env : Env) (ownerid : Oid) :
    List CheckpointSummary :=
  (cat.buildCheckpointInfoList env ownerid).map (checkpointSummary cat)

def qxRecoveryTaskWouldRequeue (summary : TaskSummary) : Bool :=
  summary.taskState != .completed &&
    (summary.needsRequeue || summary.taskState == .checkpointed || summary.taskState == .running)

def qxRecoveryTaskNeedsRequeue (summary : TaskSummary) : Bool :=
  !summary.schedulerRecoveryQueued && qxRecoveryTaskWouldRequeue summary

def qxRecoveryAttemptNeedsFence (summary : AttemptSummary) : Bool :=
  !summary.schedulerReclaimed && summary.state == .running

def qxRecoveryCheckpointNeedsReplay (summary : CheckpointSummary) : Bool :=
  summary.semanticLsn != 0

def qxRecoveryPopulateReport (tasks : List TaskSummary) (attempts : List AttemptSummary)
    (checkpoints : List CheckpointSummary) : RecoveryReport where
  tasksScanned := tasks.length
  attemptsScanned := attempts.length
  checkpointsScanned := checkpoints.length
  tasksRequeued := tasks.countP qxRecoveryTaskNeedsRequeue
  attemptsFenced := attempts.countP qxRecoveryAttemptNeedsFence
  checkpointsReplayed :=
    checkpoints.countP fun c => qxRecoveryCheckpointNeedsReplay c && !c.semanticReplayed
  orphanAttempts := tasks.countP (·.needsFence)
  semanticReplayCandidates := checkpoints.length
  checkpointsReplaySuppressed :=
    checkpoints.countP fun c => qxRecoveryCheckpointNeedsReplay c && c.semanticReplayed
  tasksRequeueSuppressed :=
    tasks.countP fun t => qxRecoveryTaskWouldRequeue t && t.schedulerRecoveryQueued
  attemptsFenceSuppressed :=
    attempts.countP fun a => a.state == .running && a.schedulerReclaimed

/-- The queue row that a scan has appended for each task (`queue_entries`). -/
abbrev QueueMap := List (Oid × Oid)

def qxRuntimeRememberRecoveryQueueoid (context : QueueMap) (taskoid queueoid : Oid) : QueueMap :=
  if context.any (·.1 == taskoid) then
    context.map fun entry => if entry.1 == taskoid then (taskoid, queueoid) else entry
  else context ++ [(taskoid, queueoid)]

def qxRuntimeLookupRecoveryQueueoid (context : QueueMap) (taskoid : Oid) : Oid :=
  (context.lookup taskoid).getD invalidOid

def recoveryTask (taskoid : Oid) : Txn TaskRow := do
  let cat ← catalog
  found (cat.lookupTaskByOid taskoid) .internalError
    ("cache lookup failed for QhapaqXian recovery task " ++ toString taskoid)

def requeueRow (env : Env) (cat : Catalog) (task : TaskRow) (summary : TaskSummary) : QueueRow :=
  let preferResume := oidIsValid summary.lastcheckpointoid
  let label := qxRuntimeRecoveryCheckpointLabel cat summary.lastcheckpointoid
  let retryCount := max summary.attemptCount 0
  let envelope := qxRuntimeFillRecoverySchedulerEnvelope env cat task summary.lastattemptoid
    retryCount label label true true (decide (retryCount > 0))
    (qxRuntimeTaskPhaseContract task preferResume)
  { qxSchedulerQueueSnapshotFromEnvelope env.now envelope .requeue with
    queueKind := .recovery
    retryCount := retryCount }

def qxRuntimeRecoveryRequeueTask (env : Env) (context : QueueMap) (summary : TaskSummary) :
    Txn QueueMap :=
  if oidIsValid summary.taskoid && oidIsValid summary.lastattemptoid then do
    let task ← recoveryTask summary.taskoid
    let cat ← catalog
    let queueoid ← insertSchedulerQueue env (requeueRow env cat task summary)
    pure (qxRuntimeRememberRecoveryQueueoid context summary.taskoid queueoid)
  else pure context

def fenceEnvelope (env : Env) (cat : Catalog) (task : TaskRow) (summary : AttemptSummary) :
    TaskEnvelope :=
  let preferResume := summary.strategy == "resume"
  let label :=
    if oidIsValid task.lastcheckpointid then
      qxRuntimeRecoveryCheckpointLabel cat task.lastcheckpointid
    else none
  qxRuntimeFillRecoverySchedulerEnvelope env cat task summary.attemptoid (max summary.seqno 0) label
    (if preferResume then label else none) preferResume true (decide (summary.seqno > 1))
    (qxRuntimeTaskPhaseContract task preferResume)

def fenceRow (env : Env) (cat : Catalog) (task : TaskRow) (summary : AttemptSummary) : QueueRow :=
  { qxSchedulerQueueSnapshotFromEnvelope env.now (fenceEnvelope env cat task summary) .fence with
    queueKind := .recovery
    retryCount := max summary.seqno 0 }

def embeddedRuntime : CString :=
  "embedded-runtime".toList

def fenceLease (env : Env) (cat : Catalog) (task : TaskRow) (summary : AttemptSummary) : LeaseRow :=
  qxSchedulerReleaseLeaseSnapshot env.now
    (qxSchedulerLeaseSnapshotFromEnvelope env.now (fenceEnvelope env cat task summary) invalidOid
      embeddedRuntime) true

def fenceHeartbeat (env : Env) (cat : Catalog) (task : TaskRow) (summary : AttemptSummary) :
    HeartbeatRow :=
  { qxSchedulerFinalizeHeartbeatSnapshot env.now (fenceLease env cat task summary)
      "scheduler-reclaim".toList with
    state := .missed
    lagMs := (fenceEnvelope env cat task summary).heartbeatIntervalMs
    stale := true }

/-- The queue row a reclaimed lease hangs on: the one the scan has appended for the task, or a new
one for this attempt. -/
def fenceQueue (env : Env) (context : QueueMap) (cat : Catalog) (task : TaskRow)
    (summary : AttemptSummary) : Txn (QueueMap × Oid) :=
  let queueoid := qxRuntimeLookupRecoveryQueueoid context summary.taskoid
  if oidIsValid queueoid then pure (context, queueoid)
  else do
    let queueoid ← insertSchedulerQueue env (fenceRow env cat task summary)
    pure (qxRuntimeRememberRecoveryQueueoid context summary.taskoid queueoid, queueoid)

def qxRuntimeRecoveryFenceAttempt (env : Env) (context : QueueMap) (summary : AttemptSummary) :
    Txn QueueMap :=
  if oidIsValid summary.attemptoid && oidIsValid summary.taskoid then do
    let task ← recoveryTask summary.taskoid
    let cat ← catalog
    let (context, queueoid) ← fenceQueue env context cat task summary
    let leaseoid ← insertSchedulerLease env queueoid (fenceLease env cat task summary)
    insertSchedulerHeartbeat env leaseoid (fenceHeartbeat env cat task summary)
    pure context
  else pure context

/-- `%X/%X`, the two halves of a log position. -/
def formatLsn (lsn : XLogRecPtr) : CString :=
  (Nat.toDigits 16 (lsn / 2 ^ 32)).map Char.toUpper ++ "/".toList ++
    (Nat.toDigits 16 (lsn % 2 ^ 32)).map Char.toUpper

def qxRuntimeRecoveryReplayCheckpoint (env : Env) (summary : CheckpointSummary) : Txn Unit :=
  if oidIsValid summary.checkpointoid then do
    let checkpoint ← lookupCheckpoint summary.checkpointoid
    record (.emitSemanticCheckpoint (checkpoint.record .v1))
    insertTrace env
      { oid := invalidOid
        sessionoid := checkpoint.sessionoid
        taskoid := checkpoint.taskoid
        stepoid := checkpoint.stepoid
        ownerid := checkpoint.ownerid
        name := qxRecoverySemanticReplayTrace
        detail := checkpointOidKey summary.checkpointoid ++ "source_lsn=".toList ++
          formatLsn summary.semanticLsn ++ ";replay_lsn=".toList ++ formatLsn env.lsn }
  else pure ()

/-- `QxRecoveryFreeTaskSummary` frees the name, the goal and the priority without a test, and
`pfree` reads the header in front of its argument: a null one ends the server process, so the
transaction is lost. -/
def qxRecoveryFreeTaskSummaries (summaries : List TaskSummary) : Txn Unit :=
  require (summaries.all fun s => s.taskName.isSome && s.goal.isSome && s.priority.isSome)
    ⟨.internalError, "server process was terminated by signal 11", ""⟩

/-- The tasks that the first loop of a scan hands to its callback. -/
def tasksToRequeue (cat : Catalog) (env : Env) (request : StartupRequest) (hooks : RecoveryHooks) :
    List TaskSummary :=
  (qxRecoveryBuildTaskSummaries cat env (effectiveOwner env request.ownerid)).filter fun task =>
    request.requeueCheckpointedTasks && qxRecoveryTaskNeedsRequeue task && hooks.requeueTask

def scannedAttempts (cat : Catalog) (env : Env) (request : StartupRequest) : List AttemptSummary :=
  if request.includeAttempts then
    qxRecoveryBuildAttemptSummaries cat env (effectiveOwner env request.ownerid)
  else []

/-- The attempts that the second loop hands to its callback. -/
def attemptsToFence (cat : Catalog) (env : Env) (request : StartupRequest)
    (hooks : RecoveryHooks) : List AttemptSummary :=
  (scannedAttempts cat env request).filter fun attempt =>
    request.fenceStaleAttempts && qxRecoveryAttemptNeedsFence attempt && hooks.fenceAttempt

def scannedCheckpoints (cat : Catalog) (env : Env) (request : StartupRequest) :
    List CheckpointSummary :=
  if request.includeCheckpoints then
    qxRecoveryBuildCheckpointSummaries cat env (effectiveOwner env request.ownerid)
  else []

/-- The checkpoints that the third loop hands to its callback. -/
def checkpointsToReplay (cat : Catalog) (env : Env) (request : StartupRequest)
    (hooks : RecoveryHooks) : List CheckpointSummary :=
  (scannedCheckpoints cat env request).filter fun checkpoint =>
    request.rebuildFromSemanticLog && qxRecoveryCheckpointNeedsReplay checkpoint &&
      !checkpoint.semanticReplayed && hooks.replayCheckpoint

def qxRecoveryRunStartupScan (env : Env) (request : StartupRequest) (hooks : RecoveryHooks) :
    Txn RecoveryReport := do
  let cat ← catalog
  let tasks := qxRecoveryBuildTaskSummaries cat env (effectiveOwner env request.ownerid)
  let context ← fold (qxRuntimeRecoveryRequeueTask env) (tasksToRequeue cat env request hooks) []
  let _ ← fold (qxRuntimeRecoveryFenceAttempt env) (attemptsToFence cat env request hooks) context
  forEach (qxRuntimeRecoveryReplayCheckpoint env) (checkpointsToReplay cat env request hooks)
  qxRecoveryFreeTaskSummaries tasks
  pure (qxRecoveryPopulateReport tasks (scannedAttempts cat env request)
    (scannedCheckpoints cat env request))

/-- The rebuild runs the same three loops over the request that it translates. -/
def FailoverRequest.toStartup (request : FailoverRequest) : StartupRequest where
  ownerid := request.ownerid
  includeAttempts := request.rebuildAttemptGraph
  includeCheckpoints := request.rebuildCheckpointGraph
  fenceStaleAttempts := request.fenceOrphanedAttempts
  requeueCheckpointedTasks := request.requeueCheckpointedTasks
  rebuildFromSemanticLog := request.replaySemanticLog

def qxRecoveryRunFailoverRebuild (env : Env) (request : FailoverRequest) (hooks : RecoveryHooks) :
    Txn RecoveryReport :=
  qxRecoveryRunStartupScan env request.toStartup hooks

def startupRequest (ownerid : Oid) : StartupRequest :=
  ⟨ownerid, true, true, true, true, false⟩

inductive RecoveryRequest
  | startup (request : StartupRequest)
  | failover (request : FailoverRequest)
  deriving Repr, DecidableEq

namespace RecoveryRequest

def script (env : Env) (hooks : RecoveryHooks) : RecoveryRequest → Txn RecoveryReport
  | .startup request => qxRecoveryRunStartupScan env request hooks
  | .failover request => qxRecoveryRunFailoverRebuild env request hooks

def scan : RecoveryRequest → StartupRequest
  | .startup request => request
  | .failover request => request.toStartup

end RecoveryRequest

def startupHooks : RecoveryHooks :=
  ⟨true, true, false⟩

/-- The backend scans once for an owner and then trusts its process-local snapshot. -/
def qxRuntimeEnsureStartupRecoveryScan (env : Env) (ownerid : Oid) : Txn Unit := do
  let backend ← read
  let owner := effectiveOwner env ownerid
  if backend.recoverySnapshot = some owner then pure ()
  else do
    let _ ← qxRecoveryRunStartupScan env (startupRequest owner) startupHooks
    record (.rememberStartupRecovery owner)

/-- `pg_qx_test_run_startup_recovery`. -/
def testRunStartupRecovery (env : Env) : Txn Unit := do
  record .forgetStartupRecovery
  qxRuntimeEnsureStartupRecoveryScan env env.userid

/-- `pg_qx_test_run_failover_rebuild`. -/
def testRunFailoverRebuild (env : Env) : Txn Unit := do
  let _ ← qxRecoveryRunFailoverRebuild env ⟨env.userid, true, true, true, true, true⟩
    ⟨true, true, true⟩
  pure ()

/-- `pg_qx_test_run_semantic_replay`. -/
def testRunSemanticReplay (env : Env) : Txn Unit := do
  let _ ← qxRecoveryRunFailoverRebuild env ⟨env.userid, false, true, true, false, false⟩
    ⟨false, false, true⟩
  pure ()

end QhapaqXian
