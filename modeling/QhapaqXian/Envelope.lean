import QhapaqXian.Catalog
import QhapaqXian.Security

/-!
# Scheduler envelopes of the runtime

The helpers of `qx_runtime.c` that fill a scheduler envelope and compute lease times, retry delays
and the worker slot of a task.
-/

namespace QhapaqXian

open Library

def qxSafeRuntimeText (value : Option CString) : CString :=
  nonEmptyOr value "<unknown>".toList

def qxEffectivePriorityName (priority : Option CString) : CString :=
  nonEmptyOr priority "normal".toList

structure EnvelopeRequest where
  ownerid : Oid
  sessionoid : Oid
  agentoid : Oid
  identityoid : Oid
  namespacePolicyOid : Oid
  taskoid : Oid
  attemptoid : Oid
  taskName : Option CString
  agentName : Option CString
  identityName : Option CString
  namespacePolicyName : Option CString
  priority : Option CString
  checkpointLabel : Option CString
  resumeLabel : Option CString
  resumable : Bool
  checkpointable : Bool
  isRetry : Bool
  budgetTokens : Int
  budgetCost : Int
  estimatedTokens : Int
  estimatedCost : Int
  retryCount : Int
  contract : Option CString

/-- The runtime class that `qx_scheduler_apply_contract` takes from a contract. -/
def contractRuntime (contract : CString) : CString :=
  match qxContractValue contract "principal_runtime".toList with
  | some runtime => runtime
  | none => qxDefaultRuntimeForProviderKind (qxContractValue contract "provider_kind".toList)

def qxSchedulerFillEnvelope (request : EnvelopeRequest) : TaskEnvelope :=
  let priority := qxEffectivePriorityName request.priority
  let agentName := qxSafeRuntimeText request.agentName
  let policyName := qxSafeRuntimeText request.namespacePolicyName
  { ownerid := request.ownerid
    sessionoid := request.sessionoid
    agentoid := request.agentoid
    identityoid := request.identityoid
    namespacePolicyOid := request.namespacePolicyOid
    taskoid := request.taskoid
    attemptoid := request.attemptoid
    queueName := qxSchedulerBuildQueueKey policyName priority agentName
    taskName := qxSafeRuntimeText request.taskName
    agentName := agentName
    identityName := qxSafeRuntimeText request.identityName
    namespacePolicyName := policyName
    principalName := request.contract.bind fun c => qxContractValue c "principal".toList
    providerName := request.contract.bind fun c => qxContractValue c "provider".toList
    providerKind := request.contract.bind fun c => qxContractValue c "provider_kind".toList
    principalRuntime := request.contract.map contractRuntime
    priority := priority
    checkpointLabel := request.checkpointLabel
    resumeLabel := request.resumeLabel
    resumable := request.resumable
    checkpointable := request.checkpointable
    isRetry := request.isRetry
    budgetTokens := request.budgetTokens
    budgetCost := request.budgetCost
    estimatedTokens := request.estimatedTokens
    estimatedCost := request.estimatedCost
    retryCount := request.retryCount
    maxRetries := qxSchedulerMaxRetries
    heartbeatIntervalMs := qxSchedulerDefaultHeartbeatIntervalMs priority
    leaseTtlMs := qxSchedulerDefaultLeaseTtlMs priority }

def taskAgentName (cat : Catalog) (task : TaskRow) : Option CString :=
  (cat.agents.find? task.agentoid).map AgentRow.name

def qxRuntimeTaskPhaseContract (task : TaskRow) (preferResume : Bool) : Option CString :=
  let selected := if preferResume then task.resumeContract else task.submitContract
  if isNullOrEmpty selected then
    if preferResume then task.authorizedTools.getLast? else task.authorizedTools.head?
  else selected

def qxRuntimeRecoveryCheckpointLabel (cat : Catalog) (checkpointoid : Oid) : Option CString :=
  (cat.lookupCheckpointByOid checkpointoid).map CheckpointRow.label

/-- The envelope of a stored task, as every function but the first submission fills it. -/
def taskEnvelope (env : Env) (cat : Catalog) (task : TaskRow) (ownerid attemptoid : Oid)
    (retryCount : Int) (checkpointLabel resumeLabel : Option CString)
    (resumable checkpointable isRetry : Bool) (contract : Option CString) : TaskEnvelope :=
  qxSchedulerFillEnvelope
    { ownerid := ownerid
      sessionoid := task.sessionoid
      agentoid := task.agentoid
      identityoid := task.identityoid
      namespacePolicyOid := task.namespacePolicyOid
      taskoid := task.oid
      attemptoid := attemptoid
      taskName := task.name
      agentName := taskAgentName cat task
      identityName := env.directory.identityName task.identityoid
      namespacePolicyName := env.directory.policyName task.namespacePolicyOid
      priority := task.priority
      checkpointLabel := checkpointLabel
      resumeLabel := resumeLabel
      resumable := resumable
      checkpointable := checkpointable
      isRetry := isRetry
      budgetTokens := task.budgetTokens
      budgetCost := task.budgetCost
      estimatedTokens := task.estimatedTokens
      estimatedCost := task.estimatedCost
      retryCount := retryCount
      contract := contract }

def qxRuntimeFillRecoverySchedulerEnvelope (env : Env) (cat : Catalog) (task : TaskRow)
    (attemptoid : Oid) (retryCount : Int) (checkpointLabel resumeLabel : Option CString)
    (resumable checkpointable isRetry : Bool) (contract : Option CString) : TaskEnvelope :=
  taskEnvelope env cat task task.ownerid attemptoid retryCount checkpointLabel resumeLabel resumable
    checkpointable isRetry contract

def qxRuntimeLeaseTtlMs (lease : LeaseRow) : Int :=
  let ttl := lease.expiresAt - lease.renewedAt
  if ttl ≤ 0 then 1 else max (wrapInt32 (ttl / usecsPerMsec)) 1

/-- `QX_SCHEDULER_WORKER_NAPTIME_MS`. -/
def qxSchedulerWorkerNaptimeMs : Int := 1000

def retryBaseMs (priority : CString) (leaseTtlMs : Int) : Int :=
  let base := max leaseTtlMs qxSchedulerWorkerNaptimeMs
  if pgStrcaseEq priority "urgent".toList || pgStrcaseEq priority "critical".toList then
    max (base / 2) qxSchedulerWorkerNaptimeMs
  else if pgStrcaseEq priority "high".toList then
    max (base * 3 / 4) (qxSchedulerWorkerNaptimeMs * 2)
  else if pgStrcaseEq priority "normal".toList then max base (qxSchedulerWorkerNaptimeMs * 3)
  else if pgStrcaseEq priority "low".toList then max (base * 2) (qxSchedulerWorkerNaptimeMs * 5)
  else if pgStrcaseEq priority "idle".toList then max (base * 3) (qxSchedulerWorkerNaptimeMs * 8)
  else base

def qxRuntimeRetryBackoffMs (priority : CString) (retryCount leaseTtlMs : Int) (taskoid : Oid) :
    Int :=
  let retries := (max retryCount 1).toNat
  let factor : Int := 2 ^ min (retries - 1) 3
  let base := min (retryBaseMs priority leaseTtlMs * factor) 60000
  let window := min (max (base / 8) 1) 1500
  let seed : Nat := taskoid % 2 ^ 32 ^^^ retries * 2654435761 % 2 ^ 32
  base + (seed : Int) % window

/-- The multiplicative mix of `qx_runtime_scheduler_owner_slot`, on `uint32`. -/
def qxRuntimeSchedulerOwnerSlot (taskoid : Oid) (slotCount : Int) : Int :=
  if slotCount ≤ 1 then 0
  else
    let mix₁ : Nat := taskoid % 2 ^ 32 ^^^ taskoid % 2 ^ 32 / 2 ^ 16
    let mix₂ := mix₁ * 0x7feb352d % 2 ^ 32
    let mix₃ := mix₂ ^^^ mix₂ / 2 ^ 15
    let mix₄ := mix₃ * 0x846ca68b % 2 ^ 32
    ((mix₄ ^^^ mix₄ / 2 ^ 16 : Nat) : Int) % slotCount

def qxRuntimeSchedulerWorkerOwnsTask (taskoid : Oid) (slotIndex slotCount : Int) : Bool :=
  decide (slotCount ≤ 1) || qxRuntimeSchedulerOwnerSlot taskoid slotCount == slotIndex

end QhapaqXian
