import QhapaqXian.Runtime

/-!
# The scheduler worker

The cycles of a database worker of `qx_runtime.c`, each one transaction: supervision renews or
reclaims leases, the retry cycle dead-letters exhausted tasks and dispatches the best of the others.
-/

namespace QhapaqXian

open Library Script Txn

structure CycleStats where
  tasksScanned : Int
  runningTasks : Int
  queuedRetryTasks : Int
  retryReadyTasks : Int
  retryWaitingTasks : Int
  ownershipSkipped : Int
  leasesSeen : Int
  leasesRenewed : Int
  leasesReclaimed : Int
  leasesRepaired : Int
  recoveryRequeued : Int
  retryDispatches : Int
  deadLetteredTasks : Int
  heartbeatsWritten : Int
  lastRetryBackoffMs : Int
  maxRetryBackoffMs : Int
  deriving Repr, DecidableEq

def CycleStats.zero : CycleStats :=
  ⟨0, 0, 0, 0, 0, 0, 0, 0, 0, 0, 0, 0, 0, 0, 0, 0⟩

structure WorkerSlot where
  index : Int
  count : Int
  name : CString
  deriving Repr, DecidableEq

def WorkerSlot.owns (slot : WorkerSlot) (taskoid : Oid) : Bool :=
  qxRuntimeSchedulerWorkerOwnsTask taskoid slot.index slot.count

def renewLease (env : Env) (lease : LeaseRow) : Txn Unit := do
  let renewed := qxSchedulerRenewLeaseSnapshot env.now lease (qxRuntimeLeaseTtlMs lease)
  let leaseoid ← insertSchedulerLease env lease.queueoid renewed
  insertSchedulerHeartbeat env leaseoid
    { qxSchedulerHeartbeatSnapshotFromLease env.now renewed with
      receiptMode := qxSafeRuntimeText "scheduler-renew".toList }

/-- The queue row of a reclaimed attempt that can be resumed from a checkpoint. -/
def repairRow (env : Env) (cat : Catalog) (task : TaskRow) (attempt : AttemptRow) : QueueRow :=
  let label := qxRuntimeRecoveryCheckpointLabel cat task.lastcheckpointid
  let envelope := qxRuntimeFillRecoverySchedulerEnvelope env cat task attempt.oid
    (max attempt.seqno 0) label label true true (decide (attempt.seqno > 1))
    (qxRuntimeTaskPhaseContract task true)
  { qxSchedulerQueueSnapshotFromEnvelope env.now envelope .reclaim with
    queueKind := .recovery
    retryCount := max attempt.seqno 0 }

/-- The queue row of a reclaimed attempt that has to start over after its backoff. -/
def retryRow (env : Env) (cat : Catalog) (task : TaskRow) (attempt : AttemptRow)
    (lease : LeaseRow) : QueueRow :=
  let retryCount := max attempt.seqno 1
  let envelope := qxRuntimeFillRecoverySchedulerEnvelope env cat task attempt.oid retryCount none
    none false true true (qxRuntimeTaskPhaseContract task false)
  let row := qxSchedulerQueueSnapshotFromEnvelope env.now envelope .reclaim
  { row with
    queueKind := .retry
    retryCount := retryCount
    eligibleAt := row.enqueuedAt + qxRuntimeRetryBackoffMs row.priority retryCount
      (qxRuntimeLeaseTtlMs lease) task.oid * usecsPerMsec }

def reclaimedLease (env : Env) (lease : LeaseRow) (workerName : CString) : LeaseRow :=
  let reclaimed := qxSchedulerReleaseLeaseSnapshot env.now lease true
  { reclaimed with workerName := if workerName = [] then reclaimed.workerName else workerName }

def reclaimHeartbeat (env : Env) (lease : LeaseRow) (workerName : CString) : HeartbeatRow :=
  { qxSchedulerFinalizeHeartbeatSnapshot env.now (reclaimedLease env lease workerName)
      "scheduler-reclaim".toList with
    state := .missed
    lagMs := max (qxRuntimeLeaseTtlMs lease / 3) 1
    stale := true }

/-- The ledger row and the state changes of a reclaim: back to the checkpoint if there is one,
otherwise the attempt has failed and the task waits for a retry. -/
def reclaimTask (env : Env) (task : TaskRow) (attempt : AttemptRow) (lease : LeaseRow) :
    Txn Oid := do
  let cat ← catalog
  if oidIsValid task.lastcheckpointid then do
    let queueoid ← insertSchedulerQueue env (repairRow env cat task attempt)
    updateAttemptState attempt.oid .checkpointed
    updateTaskRuntime task.oid .checkpointed (some attempt.oid) (some task.lastcheckpointid)
    pure queueoid
  else do
    let queueoid ← insertSchedulerQueue env (retryRow env cat task attempt lease)
    updateAttemptState attempt.oid .failed
    updateTaskRuntime task.oid .queued (some attempt.oid) (some invalidOid)
    pure queueoid

def qxRuntimeReclaimRunningAttempt (env : Env) (task : TaskRow) (attempt : AttemptRow)
    (lease : LeaseRow) (workerName : CString) (stats : CycleStats) : Txn CycleStats := do
  let queueoid ← reclaimTask env task attempt lease
  let leaseoid ← insertSchedulerLease env queueoid (reclaimedLease env lease workerName)
  insertSchedulerHeartbeat env leaseoid (reclaimHeartbeat env lease workerName)
  record (.reportSchedulerEvent .reclaim)
  pure { stats with
    recoveryRequeued := stats.recoveryRequeued + 1
    leasesRepaired := stats.leasesRepaired + 1
    leasesReclaimed := stats.leasesReclaimed + 1
    heartbeatsWritten := stats.heartbeatsWritten + 1 }

/-- A first expiry is answered with a renewal, a second one with a reclaim. -/
def superviseLease (env : Env) (slot : WorkerSlot) (stats : CycleStats) (task : TaskRow)
    (attempt : AttemptRow) (lease : LeaseRow) : Txn CycleStats :=
  if lease.state != .held || !qxSchedulerLeaseNeedsReclaim lease env.now then pure stats
  else if lease.renewalCount ≤ 0 then do
    renewLease env lease
    record (.reportSchedulerEvent .renew)
    pure { stats with
      leasesRenewed := stats.leasesRenewed + 1
      heartbeatsWritten := stats.heartbeatsWritten + 1 }
  else qxRuntimeReclaimRunningAttempt env task attempt lease slot.name stats

def superviseAttempt (env : Env) (slot : WorkerSlot) (stats : CycleStats) (task : TaskRow) :
    Txn CycleStats := do
  let attempt ← lookupAttempt task.lastattemptid
  let cat ← catalog
  if attempt.state != .running then pure stats
  else
    match cat.lookupLatestSchedulerLease invalidOid task.oid attempt.oid with
    | none => pure stats
    | some lease =>
      superviseLease env slot { stats with leasesSeen := stats.leasesSeen + 1 } task attempt lease

def superviseTask (env : Env) (slot : WorkerSlot) (stats : CycleStats) (task : TaskRow) :
    Txn CycleStats :=
  let stats := { stats with tasksScanned := stats.tasksScanned + 1 }
  if task.state != .running || !oidIsValid task.lastattemptid then pure stats
  else if !slot.owns task.oid then
    pure { stats with ownershipSkipped := stats.ownershipSkipped + 1 }
  else superviseAttempt env slot { stats with runningTasks := stats.runningTasks + 1 } task

def qxRuntimeRunSchedulerCycle (env : Env) (slot : WorkerSlot) : Txn CycleStats := do
  let cat ← catalog
  fold (superviseTask env slot) (cat.buildTaskInfoList env invalidOid) .zero

/-- `pg_qx_test_run_scheduler_worker_tick`: renew every lease the user's tasks hold. -/
def tickTask (env : Env) (task : TaskRow) : Txn Unit :=
  if task.state != .running || !oidIsValid task.lastattemptid then pure ()
  else do
    let attempt ← lookupAttempt task.lastattemptid
    let cat ← catalog
    if attempt.state != .running then pure ()
    else
      match cat.lookupLatestSchedulerLease invalidOid task.oid attempt.oid with
      | none => pure ()
      | some lease => if lease.state != .held then pure () else renewLease env lease

def testRunSchedulerWorkerTick (env : Env) : Txn Unit := do
  let cat ← catalog
  forEach (tickTask env) (cat.buildTaskInfoList env env.userid)

/-- A failed task with its last attempt and its latest queue row. -/
structure RetryCandidate where
  task : TaskRow
  failed : AttemptRow
  queue : QueueRow

def qxRuntimeRetryCandidateBetter (candidate best : RetryCandidate) : Bool :=
  let candidateWeight := qxSchedulerPriorityWeight candidate.queue.priority
  let bestWeight := qxSchedulerPriorityWeight best.queue.priority
  if candidateWeight ≠ bestWeight then decide (candidateWeight > bestWeight)
  else if candidate.queue.eligibleAt ≠ best.queue.eligibleAt then
    decide (candidate.queue.eligibleAt < best.queue.eligibleAt)
  else if candidate.queue.enqueuedAt ≠ best.queue.enqueuedAt then
    decide (candidate.queue.enqueuedAt < best.queue.enqueuedAt)
  else if candidate.failed.seqno ≠ best.failed.seqno then
    decide (candidate.failed.seqno < best.failed.seqno)
  else decide (candidate.task.oid < best.task.oid)

def deadRow (env : Env) (queue : QueueRow) : QueueRow :=
  { queue with
    queueKind := .maintenance
    runnableCount := 0
    leasedCount := 0
    blockedCount := 1
    eligibleAt := env.now
    updatedAt := env.now
    origin := .deadLetter }

def deadLetterTrace (env : Env) (task : TaskRow) : TraceRow where
  oid := invalidOid
  sessionoid := task.sessionoid
  taskoid := task.oid
  stepoid := invalidOid
  ownerid := task.ownerid
  name := deadLetterTraceName
  detail := env.traceDetail task.oid deadLetterTraceName

def qxRuntimeDeadLetterRetryTask (env : Env) (candidate : RetryCandidate) : Txn Bool :=
  if candidate.task.state != .queued || candidate.failed.state != .failed then pure false
  else do
    let _ ← insertSchedulerQueue env (deadRow env candidate.queue)
    updateAttemptState candidate.failed.oid .failed
    updateTaskRuntime candidate.task.oid .failed (some candidate.failed.oid) (some invalidOid)
    insertTrace env (deadLetterTrace env candidate.task)
    pure true

def retryDispatchEnvelope (env : Env) (cat : Catalog) (task : TaskRow) (attemptoid : Oid)
    (seqno : Int) (contract : CString) : TaskEnvelope :=
  taskEnvelope env cat task task.ownerid attemptoid (seqno - 1) (some afterCaptureLabel) none false
    true true (some contract)

def retryContext (slot : WorkerSlot) (task : TaskRow) (contract : CString)
    (envelope : TaskEnvelope) (queueoid stepoid : Oid) : DispatchedAttempt where
  sessionoid := task.sessionoid
  taskoid := task.oid
  ownerid := task.ownerid
  attemptoid := envelope.attemptoid
  queueoid := queueoid
  goal := some (task.goal.getD [])
  inputPresent := task.input.isSome
  contract := some contract
  envelope := envelope
  workerName := slot.name
  dispatchStep := stepoid
  dispatchTrace := retryDispatchTraceName

def qxRuntimeDispatchRetryTask (env : Env) (slot : WorkerSlot) (candidate : RetryCandidate) :
    Txn Bool :=
  let task := candidate.task
  if task.state != .queued || candidate.failed.state != .failed then pure false
  else do
    let contract ← found (qxRuntimeTaskPhaseContract task false) .objectNotInPrerequisiteState
      ("task " ++ toString task.oid ++ " has no authorized retry contract")
    let cat ← catalog
    let seqno := wrapInt16 (candidate.failed.seqno + 1)
    let base := cat.maxStepSeqnoForTask task.oid
    let attemptoid ← insertAttempt env
      ⟨invalidOid, task.sessionoid, task.oid, task.ownerid, invalidOid, seqno, .running, "retry"⟩
    updateTaskRuntime task.oid .running (some attemptoid) none
    let envelope := retryDispatchEnvelope env cat task attemptoid seqno contract
    let queueoid ← insertSchedulerQueue env
      { qxSchedulerQueueSnapshotFromEnvelope env.now envelope .retryDispatch with
        queueKind := .retry
        retryCount := seqno - 1 }
    qxSchedulerAppendRuntimePayload envelope
    let stepoid ← insertStep env task.sessionoid task.oid base "stage8.retry_dispatch"
    chargeTaskBudget task.oid 8 14 "retry_dispatch"
    captureAttempt env (retryContext slot task contract envelope queueoid stepoid) base
    pure true

/-- The statistics and the best candidate that the retry cycle has seen so far. -/
structure RetryIntake where
  stats : CycleStats
  selected : Option RetryCandidate

def RetryIntake.select (intake : RetryIntake) (candidate : RetryCandidate) : RetryIntake :=
  if intake.selected.all (qxRuntimeRetryCandidateBetter candidate) then
    { intake with selected := some candidate }
  else intake

def CycleStats.observeRetry (stats : CycleStats) (queue : QueueRow) (ready : Bool) : CycleStats :=
  let backoff := wrapInt32 ((queue.eligibleAt - queue.enqueuedAt) / usecsPerMsec)
  { stats with
    queuedRetryTasks := stats.queuedRetryTasks + 1
    retryReadyTasks := stats.retryReadyTasks + if ready then 1 else 0
    retryWaitingTasks := stats.retryWaitingTasks + if ready then 0 else 1
    lastRetryBackoffMs := backoff
    maxRetryBackoffMs := max stats.maxRetryBackoffMs backoff }

/-- The latest queue row of a failed attempt still asks for a retry. -/
def QueueRow.asksForRetry (queue : QueueRow) : Bool :=
  queue.queueKind == .retry && decide (queue.runnableCount > 0) && decide (queue.blockedCount ≤ 0)

def considerRetry (env : Env) (intake : RetryIntake) (candidate : RetryCandidate) :
    Txn RetryIntake :=
  if !candidate.queue.asksForRetry then pure intake
  else if env.now < candidate.queue.eligibleAt then
    pure { intake with stats := intake.stats.observeRetry candidate.queue false }
  else
    let intake := { intake with stats := intake.stats.observeRetry candidate.queue true }
    if candidate.queue.retryCount ≥ qxSchedulerMaxRetries then do
      let dead ← qxRuntimeDeadLetterRetryTask env candidate
      pure { intake with
        stats := { intake.stats with
          deadLetteredTasks := intake.stats.deadLetteredTasks + if dead then 1 else 0 } }
    else pure (intake.select candidate)

def retryAttempt (env : Env) (intake : RetryIntake) (task : TaskRow) : Txn RetryIntake := do
  let failed ← lookupAttempt task.lastattemptid
  let cat ← catalog
  if failed.state != .failed then pure intake
  else
    match cat.lookupLatestSchedulerQueue invalidOid task.oid failed.oid with
    | none => pure intake
    | some queue => considerRetry env intake ⟨task, failed, queue⟩

def retryTask (env : Env) (slot : WorkerSlot) (intake : RetryIntake) (task : TaskRow) :
    Txn RetryIntake :=
  if task.state != .queued || !oidIsValid task.lastattemptid || oidIsValid task.lastcheckpointid
  then pure intake
  else if !slot.owns task.oid then
    pure { intake with
      stats := { intake.stats with ownershipSkipped := intake.stats.ownershipSkipped + 1 } }
  else retryAttempt env intake task

def qxRuntimeRunSchedulerRetryCycle (env : Env) (slot : WorkerSlot) : Txn CycleStats := do
  let cat ← catalog
  let intake ← fold (retryTask env slot) (cat.buildTaskInfoList env invalidOid) ⟨.zero, none⟩
  match intake.selected with
  | none => pure intake.stats
  | some candidate => do
    let dispatched ← qxRuntimeDispatchRetryTask env slot candidate
    let count := if dispatched then 1 else 0
    let waiting :=
      if intake.stats.retryReadyTasks > 0 then intake.stats.retryReadyTasks - 1 else 0
    pure { intake.stats with
      retryDispatches := intake.stats.retryDispatches + count
      heartbeatsWritten := intake.stats.heartbeatsWritten + 2 * count
      retryWaitingTasks := intake.stats.retryWaitingTasks + waiting }

end QhapaqXian
