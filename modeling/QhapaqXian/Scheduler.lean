import QhapaqXian.Basic
import QhapaqXian.Library.Table

/-!
# Scheduler envelopes and ledger rows

`qx_scheduler.c`. The ledger tables hold the snapshots of `qx_scheduler.h` unchanged, so one
structure serves as snapshot and as row.
-/

namespace QhapaqXian

open Library

inductive QueueKind
  | primary
  | retry
  | recovery
  | maintenance
  deriving Repr, DecidableEq

inductive LeaseState
  | available
  | held
  | expired
  | released
  | reclaimed
  deriving Repr, DecidableEq

inductive HeartbeatState
  | healthy
  | slow
  | stale
  | missed
  deriving Repr, DecidableEq

/-- `QX_SCHEDULER_MAX_RETRIES`. -/
def qxSchedulerMaxRetries : Int := 3

def usecsPerMsec : Int := 1000

structure TaskEnvelope where
  ownerid : Oid
  sessionoid : Oid
  agentoid : Oid
  identityoid : Oid
  namespacePolicyOid : Oid
  taskoid : Oid
  attemptoid : Oid
  queueName : CString
  taskName : Option CString
  agentName : CString
  identityName : CString
  namespacePolicyName : CString
  principalName : Option CString
  providerName : Option CString
  providerKind : Option CString
  principalRuntime : Option CString
  priority : Option CString
  checkpointLabel : Option CString
  resumeLabel : Option CString
  resumable : Bool
  checkpointable : Bool
  isRetry : Bool
  budgetTokens : Int
  budgetCost : Int
  estimatedTokens : Int
  estimatedCost : Int
  retryCount : Int
  maxRetries : Int
  heartbeatIntervalMs : Int
  leaseTtlMs : Int
  deriving Repr, DecidableEq

/-- The code path that appends a queue row. The server does not store it: it is the history of the
row, which no function of the model reads. -/
inductive QueueOrigin
  | dispatch
  | retryDispatch
  | fixture
  | requeue
  | fence
  | reclaim
  | deadLetter
  deriving Repr, DecidableEq

structure QueueRow where
  oid : Oid
  ownerid : Oid
  namespacePolicyOid : Oid
  agentoid : Oid
  sessionoid : Oid
  taskoid : Oid
  attemptoid : Oid
  queueKind : QueueKind
  queueName : CString
  agentName : CString
  identityName : CString
  namespacePolicyName : CString
  priority : CString
  principalName : CString
  providerName : CString
  providerKind : CString
  principalRuntime : CString
  runnableCount : Int
  leasedCount : Int
  blockedCount : Int
  retryCount : Int
  enqueuedAt : TimestampTz
  eligibleAt : TimestampTz
  updatedAt : TimestampTz
  origin : QueueOrigin
  deriving Repr, DecidableEq

structure LeaseRow where
  oid : Oid
  queueoid : Oid
  ownerid : Oid
  workeroid : Oid
  sessionoid : Oid
  taskoid : Oid
  attemptoid : Oid
  state : LeaseState
  queueName : CString
  workerName : CString
  leaseToken : CString
  principalName : CString
  providerName : CString
  providerKind : CString
  principalRuntime : CString
  acquiredAt : TimestampTz
  renewedAt : TimestampTz
  expiresAt : TimestampTz
  lastHeartbeatAt : TimestampTz
  renewalCount : Int
  needsRecovery : Bool
  deriving Repr, DecidableEq

structure HeartbeatRow where
  oid : Oid
  leaseoid : Oid
  ownerid : Oid
  workeroid : Oid
  sessionoid : Oid
  taskoid : Oid
  attemptoid : Oid
  state : HeartbeatState
  workerName : CString
  queueName : CString
  principalRuntime : CString
  providerKind : CString
  receiptMode : CString
  lagMs : Int
  observedAt : TimestampTz
  expectedBefore : TimestampTz
  stale : Bool
  deriving Repr, DecidableEq

instance : Identified QueueRow := ⟨QueueRow.oid⟩

instance : Identified LeaseRow := ⟨LeaseRow.oid⟩

instance : Identified HeartbeatRow := ⟨HeartbeatRow.oid⟩

def qxSchedulerSafeText (value : Option CString) : CString :=
  nonEmptyOr value "<unset>".toList

/-- `pg_strcasecmp(value, word) == 0`. -/
def pgStrcaseEq (value word : CString) : Bool :=
  value.map Char.toLower == word.map Char.toLower

def qxSchedulerPriorityWeight (priority : Option CString) : Int :=
  match priority with
  | none | some [] => 40
  | some name =>
    if pgStrcaseEq name "urgent".toList || pgStrcaseEq name "critical".toList then 100
    else if pgStrcaseEq name "high".toList then 80
    else if pgStrcaseEq name "normal".toList then 60
    else if pgStrcaseEq name "low".toList then 35
    else if pgStrcaseEq name "idle".toList then 10
    else 50

def qxSchedulerQueueKindForPriority (priority : Option CString) : QueueKind :=
  let weight := qxSchedulerPriorityWeight priority
  if weight ≥ 80 then .primary
  else if weight ≥ 50 then .retry
  else if weight ≥ 25 then .recovery
  else .maintenance

def qxSchedulerDefaultHeartbeatIntervalMs (priority : Option CString) : Int :=
  let weight := qxSchedulerPriorityWeight priority
  if weight ≥ 80 then 1500
  else if weight ≥ 50 then 3000
  else if weight ≥ 25 then 5000
  else 8000

def qxSchedulerDefaultLeaseTtlMs (priority : Option CString) : Int :=
  qxSchedulerDefaultHeartbeatIntervalMs priority * 3

def qxSchedulerRuntimeContractIsValid (envelope : TaskEnvelope) : Bool :=
  oidIsValid envelope.sessionoid && oidIsValid envelope.agentoid &&
    oidIsValid envelope.identityoid && oidIsValid envelope.namespacePolicyOid &&
    envelope.taskName.isSome && envelope.priority.isSome &&
    decide (0 ≤ envelope.budgetTokens) && decide (0 ≤ envelope.budgetCost) &&
    decide (0 ≤ envelope.estimatedTokens) && decide (0 ≤ envelope.estimatedCost)

def qxSchedulerBuildQueueKey (policyName priority agentName : Option CString) : CString :=
  qxSchedulerSafeText policyName ++ ":".toList ++ qxSchedulerSafeText priority ++ ":".toList ++
    qxSchedulerSafeText agentName

def qxSchedulerQueueSnapshotFromEnvelope (now : TimestampTz) (envelope : TaskEnvelope)
    (origin : QueueOrigin) : QueueRow where
  oid := invalidOid
  ownerid := envelope.ownerid
  namespacePolicyOid := envelope.namespacePolicyOid
  agentoid := envelope.agentoid
  sessionoid := envelope.sessionoid
  taskoid := envelope.taskoid
  attemptoid := envelope.attemptoid
  queueKind := qxSchedulerQueueKindForPriority envelope.priority
  queueName := qxSchedulerSafeText envelope.queueName
  agentName := qxSchedulerSafeText envelope.agentName
  identityName := qxSchedulerSafeText envelope.identityName
  namespacePolicyName := qxSchedulerSafeText envelope.namespacePolicyName
  priority := qxSchedulerSafeText envelope.priority
  principalName := qxSchedulerSafeText envelope.principalName
  providerName := qxSchedulerSafeText envelope.providerName
  providerKind := qxSchedulerSafeText envelope.providerKind
  principalRuntime := qxSchedulerSafeText envelope.principalRuntime
  runnableCount := 1
  leasedCount := 0
  blockedCount := 0
  retryCount := envelope.retryCount
  enqueuedAt := now
  eligibleAt := now
  updatedAt := now
  origin := origin

def qxSchedulerLeaseSnapshotFromEnvelope (now : TimestampTz) (envelope : TaskEnvelope)
    (workeroid : Oid) (workerName : CString) : LeaseRow where
  oid := invalidOid
  queueoid := invalidOid
  ownerid := envelope.ownerid
  workeroid := workeroid
  sessionoid := envelope.sessionoid
  taskoid := envelope.taskoid
  attemptoid := envelope.attemptoid
  state := .held
  queueName := qxSchedulerSafeText envelope.queueName
  workerName := qxSchedulerSafeText workerName
  leaseToken := "lease:".toList ++ formatUnsigned envelope.sessionoid ++ ":".toList ++
    formatUnsigned envelope.taskoid ++ ":".toList ++ formatUnsigned envelope.attemptoid
  principalName := qxSchedulerSafeText envelope.principalName
  providerName := qxSchedulerSafeText envelope.providerName
  providerKind := qxSchedulerSafeText envelope.providerKind
  principalRuntime := qxSchedulerSafeText envelope.principalRuntime
  acquiredAt := now
  renewedAt := now
  expiresAt := now + envelope.leaseTtlMs * usecsPerMsec
  lastHeartbeatAt := now
  renewalCount := 0
  needsRecovery := false

/-- The copies of a lease carry its texts through `qx_scheduler_safe_text` once more. -/
def LeaseRow.copySafe (lease : LeaseRow) : LeaseRow :=
  { lease with
    oid := invalidOid
    queueName := qxSchedulerSafeText lease.queueName
    workerName := qxSchedulerSafeText lease.workerName
    leaseToken := qxSchedulerSafeText lease.leaseToken
    principalName := qxSchedulerSafeText lease.principalName
    providerName := qxSchedulerSafeText lease.providerName
    providerKind := qxSchedulerSafeText lease.providerKind
    principalRuntime := qxSchedulerSafeText lease.principalRuntime }

def qxSchedulerRenewLeaseSnapshot (now : TimestampTz) (lease : LeaseRow) (leaseTtlMs : Int) :
    LeaseRow :=
  { lease.copySafe with
    state := .held
    renewedAt := now
    expiresAt := now + leaseTtlMs * usecsPerMsec
    lastHeartbeatAt := now
    renewalCount := wrapInt32 (lease.renewalCount + 1)
    needsRecovery := false }

def qxSchedulerReleaseLeaseSnapshot (now : TimestampTz) (lease : LeaseRow)
    (needsRecovery : Bool) : LeaseRow :=
  { lease.copySafe with
    state := if needsRecovery then .reclaimed else .released
    renewedAt := now
    expiresAt := now
    lastHeartbeatAt := now
    needsRecovery := needsRecovery }

def qxSchedulerHeartbeatDeadline (lease : LeaseRow) : TimestampTz :=
  lease.renewedAt + 3000 * usecsPerMsec

def qxSchedulerHeartbeatSnapshotFromLease (now : TimestampTz) (lease : LeaseRow) :
    HeartbeatRow where
  oid := invalidOid
  leaseoid := lease.oid
  ownerid := lease.ownerid
  workeroid := lease.workeroid
  sessionoid := lease.sessionoid
  taskoid := lease.taskoid
  attemptoid := lease.attemptoid
  state := .healthy
  workerName := qxSchedulerSafeText lease.workerName
  queueName := qxSchedulerSafeText lease.queueName
  principalRuntime := qxSchedulerSafeText lease.principalRuntime
  providerKind := qxSchedulerSafeText lease.providerKind
  receiptMode := "scheduler-ledger".toList
  lagMs := 0
  observedAt := now
  expectedBefore := qxSchedulerHeartbeatDeadline lease
  stale := false

def qxSchedulerFinalizeHeartbeatSnapshot (now : TimestampTz) (lease : LeaseRow)
    (receiptMode : CString) : HeartbeatRow :=
  { qxSchedulerHeartbeatSnapshotFromLease now lease with
    observedAt := now
    expectedBefore := now
    stale := false
    receiptMode := qxSchedulerSafeText receiptMode }

def qxSchedulerLeaseExpired (lease : LeaseRow) (now : TimestampTz) : Bool :=
  lease.state == .expired || decide (now > lease.expiresAt)

def qxSchedulerLeaseNeedsReclaim (lease : LeaseRow) (now : TimestampTz) : Bool :=
  lease.state != .released && (qxSchedulerLeaseExpired lease now || lease.needsRecovery)

end QhapaqXian
