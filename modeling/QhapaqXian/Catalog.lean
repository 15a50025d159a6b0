import Mathlib.Data.List.MinMax
import QhapaqXian.Library.Script
import QhapaqXian.Scheduler

/-!
# The task catalogs

`qx_catalog.c`: the tables of one database, the functions that read them, and those that write them
inside a transaction. A write is an action of the transaction's journal.
-/

namespace QhapaqXian

open Library

inductive TaskState
  | pending
  | queued
  | running
  | checkpointed
  | completed
  | failed
  deriving Repr, DecidableEq

/-- The letter that the catalog stores. -/
def TaskState.code : TaskState → Char
  | pending => 'p'
  | queued => 'q'
  | running => 'r'
  | checkpointed => 'k'
  | completed => 'c'
  | failed => 'f'

inductive AttemptState
  | running
  | checkpointed
  | completed
  | failed
  deriving Repr, DecidableEq

structure TaskRow where
  oid : Oid
  sessionoid : Oid
  agentoid : Oid
  namespacePolicyOid : Oid
  identityoid : Oid
  ownerid : Oid
  lastattemptid : Oid
  lastcheckpointid : Oid
  budgetTokens : Int
  budgetCost : Int
  authorizedToolTokens : Int
  authorizedToolCost : Int
  estimatedTokens : Int
  estimatedCost : Int
  consumedTokens : Int
  consumedCost : Int
  state : TaskState
  name : Option CString
  goal : Option CString
  input : Option CString
  priority : Option CString
  authorizedTools : List CString
  submitContract : Option CString
  resumeContract : Option CString
  deriving Repr, DecidableEq

structure AttemptRow where
  oid : Oid
  sessionoid : Oid
  taskoid : Oid
  ownerid : Oid
  resumecheckpointid : Oid
  seqno : Int
  state : AttemptState
  strategy : String
  deriving Repr, DecidableEq

structure StepRow where
  oid : Oid
  sessionoid : Oid
  taskoid : Oid
  seqno : Int
  name : String
  deriving Repr, DecidableEq

/-- Every checkpoint is written in the durable state, the only one there is. -/
inductive CheckpointState
  | durable
  deriving Repr, DecidableEq

structure CheckpointRow where
  oid : Oid
  sessionoid : Oid
  taskoid : Oid
  attemptoid : Oid
  stepoid : Oid
  ownerid : Oid
  state : CheckpointState
  taskState : TaskState
  nextStepSeqno : Int
  lsn : XLogRecPtr
  label : CString
  data : CString
  deriving Repr, DecidableEq

/-- `stage9.semantic.v1`, or `stage31.semantic.v2` with the metadata of the execution. -/
inductive SemanticSchema
  | v1
  | v2
  deriving Repr, DecidableEq

/-- A checkpoint record of the semantic log, with the fields of version 1. -/
structure CheckpointRecord where
  schema : SemanticSchema
  recordOid : Oid
  sessionoid : Oid
  taskoid : Oid
  attemptoid : Oid
  stepoid : Oid
  ownerid : Oid
  checkpointState : CheckpointState
  taskState : TaskState
  nextStepSeqno : Int
  label : CString
  data : CString
  deriving Repr, DecidableEq

/-- The arguments that `QxEmitSemanticCheckpointRecord` takes from a checkpoint. -/
def CheckpointRow.record (schema : SemanticSchema) (row : CheckpointRow) : CheckpointRecord where
  schema := schema
  recordOid := row.oid
  sessionoid := row.sessionoid
  taskoid := row.taskoid
  attemptoid := row.attemptoid
  stepoid := row.stepoid
  ownerid := row.ownerid
  checkpointState := row.state
  taskState := row.taskState
  nextStepSeqno := row.nextStepSeqno
  label := row.label
  data := row.data

structure TraceRow where
  oid : Oid
  sessionoid : Oid
  taskoid : Oid
  stepoid : Oid
  ownerid : Oid
  name : CString
  detail : CString
  deriving Repr, DecidableEq

/-- A charge that a task accepted. The server keeps only the sums: the list is the history that
they are compared with, and no function of the model reads it. -/
structure Charge where
  taskoid : Oid
  tokens : Int
  cost : Int
  name : String
  deriving Repr, DecidableEq

/-- An option of a `BUDGET (…)` clause: its name and its argument, if it has one. -/
inductive DefArg
  | integer (value : Int)
  | other
  deriving Repr, DecidableEq

structure DefElem where
  defname : CString
  arg : Option DefArg
  deriving Repr, DecidableEq

/-- Agents are created once: no command alters or drops one. -/
structure AgentRow where
  oid : Oid
  name : CString
  budget : List DefElem
  deriving Repr, DecidableEq

instance : Identified AgentRow := ⟨AgentRow.oid⟩

instance : Identified TaskRow := ⟨TaskRow.oid⟩

instance : Identified AttemptRow := ⟨AttemptRow.oid⟩

instance : Identified StepRow := ⟨StepRow.oid⟩

instance : Identified CheckpointRow := ⟨CheckpointRow.oid⟩

instance : Identified TraceRow := ⟨TraceRow.oid⟩

structure Catalog where
  agents : Table AgentRow
  tasks : Table TaskRow
  attempts : Table AttemptRow
  steps : Table StepRow
  checkpoints : Table CheckpointRow
  queues : Table QueueRow
  leases : Table LeaseRow
  heartbeats : Table HeartbeatRow
  traces : Table TraceRow
  charges : List Charge

def Catalog.initial (agents : Table AgentRow) : Catalog :=
  ⟨agents, .empty, .empty, .empty, .empty, .empty, .empty, .empty, .empty, []⟩

namespace Catalog

def lookupTaskByOid (cat : Catalog) (taskoid : Oid) : Option TaskRow :=
  cat.tasks.find? taskoid

def lookupAttemptByOid (cat : Catalog) (attemptoid : Oid) : Option AttemptRow :=
  cat.attempts.find? attemptoid

def lookupCheckpointByOid (cat : Catalog) (checkpointoid : Oid) : Option CheckpointRow :=
  cat.checkpoints.find? checkpointoid

/-- An invalid owner in a lookup stands for every owner. -/
def ownerMatches (ownerid rowOwner : Oid) : Bool :=
  !oidIsValid ownerid || rowOwner == ownerid

def lookupLatestSchedulerQueue (cat : Catalog) (ownerid taskoid attemptoid : Oid) :
    Option QueueRow :=
  (cat.queues.rows.filter fun row =>
    row.taskoid == taskoid && row.attemptoid == attemptoid &&
      ownerMatches ownerid row.ownerid).argmax QueueRow.oid

def lookupLatestSchedulerLease (cat : Catalog) (ownerid taskoid attemptoid : Oid) :
    Option LeaseRow :=
  (cat.leases.rows.filter fun row =>
    row.taskoid == taskoid && row.attemptoid == attemptoid &&
      ownerMatches ownerid row.ownerid).argmax LeaseRow.oid

/-- The scan starts its maximum at zero and the sum is stored in an `int16`. -/
def maxStepSeqnoForTask (cat : Catalog) (taskoid : Oid) : Int :=
  wrapInt16 (((cat.steps.rows.filter (·.taskoid == taskoid)).map StepRow.seqno).foldl max 0 + 1)

def taskOids (cat : Catalog) : List Oid :=
  cat.tasks.idents

/-- The identifiers that `GetNewOidWithIndex` finds in the index of a relation. -/
def usedOids (cat : Catalog) : QxRelation → List Oid
  | .task => cat.tasks.idents
  | .attempt => cat.attempts.idents
  | .step => cat.steps.idents
  | .checkpoint => cat.checkpoints.idents
  | .schedulerQueue => cat.queues.idents
  | .schedulerLease => cat.leases.idents
  | .schedulerHeartbeat => cat.heartbeats.idents
  | .trace => cat.traces.idents
  | .provider | .principal | .tool => []

end Catalog

inductive ToolPhase
  | submit
  | resume
  deriving Repr, DecidableEq

/-- The events of the scheduler that the statistics count. -/
inductive SchedulerEvent
  | renew
  | reclaim
  | release
  | retryDispatch
  | deadLetter
  deriving Repr, DecidableEq

def externalTraceName : ToolPhase → CString
  | .submit => "runtime.external_submit".toList
  | .resume => "runtime.external_resume".toList

def dispatchTraceName : CString :=
  "runtime.dispatch".toList

def checkpointTraceName : CString :=
  "runtime.checkpoint".toList

def finalCheckpointTraceName : CString :=
  "runtime.final_checkpoint".toList

def retryDispatchTraceName : CString :=
  "runtime.retry_dispatch".toList

def deadLetterTraceName : CString :=
  "runtime.dead_letter".toList

/-- What a transaction does, in the order in which it does it. The last entries are outside the
catalogs: the process remembers or forgets a recovery scan, an external program is executed, a
record goes to the semantic log, and an event is reported to the statistics collector. -/
inductive Action
  | insertTask (row : TaskRow)
  | updateTaskRuntime (taskoid : Oid) (state : TaskState) (lastattemptid : Option Oid)
      (lastcheckpointid : Option Oid)
  | chargeTaskBudget (charge : Charge)
  | insertAttempt (row : AttemptRow)
  | updateAttemptState (attemptoid : Oid) (state : AttemptState)
  | insertStep (row : StepRow)
  | insertCheckpoint (row : CheckpointRow)
  | insertSchedulerQueue (row : QueueRow)
  | insertSchedulerLease (row : LeaseRow)
  | insertSchedulerHeartbeat (row : HeartbeatRow)
  | insertTrace (row : TraceRow)
  | rememberStartupRecovery (ownerid : Oid)
  | forgetStartupRecovery
  | executeToolContract (taskoid : Oid) (phase : ToolPhase) (contract : CString)
  | emitSemanticCheckpoint (record : CheckpointRecord)
  | reportSchedulerEvent (event : SchedulerEvent)
  deriving Repr, DecidableEq

namespace TaskRow

/-- `replace_attempt` and `replace_checkpoint` choose which pointers an update replaces. -/
def updateRuntime (state : TaskState) (lastattemptid lastcheckpointid : Option Oid)
    (row : TaskRow) : TaskRow :=
  { row with
    state := state
    lastattemptid := lastattemptid.getD row.lastattemptid
    lastcheckpointid := lastcheckpointid.getD row.lastcheckpointid }

lemma ident_updateRuntime (state : TaskState) (lastattemptid lastcheckpointid : Option Oid)
    (row : TaskRow) :
    ident (row.updateRuntime state lastattemptid lastcheckpointid) = ident row := rfl

def charge (tokens cost : Int) (row : TaskRow) : TaskRow :=
  { row with
    consumedTokens := wrapInt32 (row.consumedTokens + tokens)
    consumedCost := wrapInt32 (row.consumedCost + cost) }

lemma ident_charge (tokens cost : Int) (row : TaskRow) :
    ident (row.charge tokens cost) = ident row := rfl

end TaskRow

def AttemptRow.setState (state : AttemptState) (row : AttemptRow) : AttemptRow :=
  { row with state := state }

lemma AttemptRow.ident_setState (state : AttemptState) (row : AttemptRow) :
    ident (row.setState state) = ident row := rfl

namespace Catalog

def apply (cat : Catalog) : Action → Catalog
  | .insertTask row => { cat with tasks := cat.tasks.insert row }
  | .updateTaskRuntime taskoid state lastattemptid lastcheckpointid =>
    { cat with
      tasks := cat.tasks.modify taskoid
        (TaskRow.updateRuntime state lastattemptid lastcheckpointid)
        (TaskRow.ident_updateRuntime state lastattemptid lastcheckpointid) }
  | .chargeTaskBudget charge =>
    { cat with
      tasks := cat.tasks.modify charge.taskoid (TaskRow.charge charge.tokens charge.cost)
        (TaskRow.ident_charge charge.tokens charge.cost)
      charges := cat.charges ++ [charge] }
  | .insertAttempt row => { cat with attempts := cat.attempts.insert row }
  | .updateAttemptState attemptoid state =>
    { cat with
      attempts := cat.attempts.modify attemptoid (AttemptRow.setState state)
        (AttemptRow.ident_setState state) }
  | .insertStep row => { cat with steps := cat.steps.insert row }
  | .insertCheckpoint row => { cat with checkpoints := cat.checkpoints.insert row }
  | .insertSchedulerQueue row => { cat with queues := cat.queues.insert row }
  | .insertSchedulerLease row => { cat with leases := cat.leases.insert row }
  | .insertSchedulerHeartbeat row => { cat with heartbeats := cat.heartbeats.insert row }
  | .insertTrace row => { cat with traces := cat.traces.insert row }
  | .rememberStartupRecovery _ => cat
  | .forgetStartupRecovery => cat
  | .executeToolContract .. => cat
  | .emitSemanticCheckpoint _ => cat
  | .reportSchedulerEvent _ => cat

end Catalog

/-- What a backend sees: the catalogs, and the owner for which its process remembers a startup
recovery scan (`qx_runtime_recovery_snapshot`). -/
structure Backend where
  catalog : Catalog
  recoverySnapshot : Option Oid

namespace Backend

def apply (backend : Backend) (action : Action) : Backend where
  catalog := backend.catalog.apply action
  recoverySnapshot :=
    match action with
    | .rememberStartupRecovery ownerid => some ownerid
    | .forgetStartupRecovery => none
    | _ => backend.recoverySnapshot

instance : Replay Backend Action := ⟨apply⟩

end Backend

abbrev Txn (α : Type) := Script Backend Action QxError α

namespace Txn

open Script

def check (condition : Bool) (errcode : ErrCode) (errmsg : String) : Txn Unit :=
  require condition ⟨errcode, errmsg, ""⟩

def found {α : Type} (value : Option α) (errcode : ErrCode) (errmsg : String) : Txn α :=
  expect value ⟨errcode, errmsg, ""⟩

def catalog : Txn Catalog := do
  let backend ← read
  pure backend.catalog

end Txn

structure ToolCall where
  taskoid : Oid
  phase : ToolPhase
  contract : CString
  goal : Option CString
  inputPresent : Bool
  deriving Repr, DecidableEq

/-- The charges that the runner of a tool reports, as `int32` values of either sign. -/
structure ToolResult where
  tokenCharge : Int
  costCharge : Int
  tokenCharge_int32 : InInt32 tokenCharge
  costCharge_int32 : InInt32 costCharge
  deriving Repr, DecidableEq

/-- The order in which a heap scan meets the rows of a table. An update moves the row, so this is
not the order of insertion. -/
structure ScanOrder where
  tasks : List TaskRow → List TaskRow
  tasks_perm : ∀ rows, (tasks rows).Perm rows
  attempts : List AttemptRow → List AttemptRow
  attempts_perm : ∀ rows, (attempts rows).Perm rows
  checkpoints : List CheckpointRow → List CheckpointRow
  checkpoints_perm : ∀ rows, (checkpoints rows).Perm rows

def ScanOrder.stored : ScanOrder :=
  ⟨id, fun _ => .rfl, id, fun _ => .rfl, id, fun _ => .rfl⟩

structure SessionInfo where
  agentoid : Oid
  identityoid : Oid
  namespacepolicyoid : Oid
  ownerid : Oid
  inDatabase : Bool
  active : Bool
  deriving Repr, DecidableEq

structure Directory where
  sessions : Oid → Option SessionInfo
  identityName : Oid → Option CString
  policyName : Oid → Option CString
  hasPrivsOfRole : Oid → Oid → Bool

/-- What the server supplies to one transaction: the current user, the clock, new identifiers, the
order of its scans, the position of the semantic log, the catalogs it only reads, the outcome of
each tool it executes and the text that it writes into a trace of a task. -/
structure Env where
  userid : Oid
  now : TimestampTz
  oids : OidSource
  scan : ScanOrder
  lsn : XLogRecPtr
  directory : Directory
  tool : ToolCall → Except QxError ToolResult
  traceDetail : Oid → CString → CString

namespace Txn

open Script

def newOid (env : Env) (rel : QxRelation) : Txn Oid := do
  let cat ← catalog
  pure (env.oids.next rel (cat.usedOids rel))

def lookupTask (taskoid : Oid) : Txn TaskRow := do
  let cat ← catalog
  found (cat.lookupTaskByOid taskoid) .internalError
    ("cache lookup failed for QhapaqXian task " ++ toString taskoid)

def lookupAttempt (attemptoid : Oid) : Txn AttemptRow := do
  let cat ← catalog
  found (cat.lookupAttemptByOid attemptoid) .internalError
    ("cache lookup failed for QhapaqXian attempt " ++ toString attemptoid)

def lookupCheckpoint (checkpointoid : Oid) : Txn CheckpointRow := do
  let cat ← catalog
  found (cat.lookupCheckpointByOid checkpointoid) .internalError
    ("cache lookup failed for QhapaqXian checkpoint " ++ toString checkpointoid)

def insertTask (env : Env) (row : TaskRow) : Txn Oid := do
  let oid ← newOid env .task
  record (.insertTask { row with oid := oid })
  pure oid

def updateTaskRuntime (taskoid : Oid) (state : TaskState) (lastattemptid : Option Oid)
    (lastcheckpointid : Option Oid) : Txn Unit := do
  let _ ← lookupTask taskoid
  record (.updateTaskRuntime taskoid state lastattemptid lastcheckpointid)

def updateAttemptState (attemptoid : Oid) (state : AttemptState) : Txn Unit := do
  let _ ← lookupAttempt attemptoid
  record (.updateAttemptState attemptoid state)

def budgetExceeded (resource : String) (taskoid : Oid) (name : String) (usage ceiling : Int) :
    QxError where
  errcode := .configurationLimitExceeded
  errmsg := "runtime " ++ resource ++ " budget exceeded for task " ++ toString taskoid
  errdetail := "Charge \"" ++ name ++ "\" would move " ++ resource ++ " usage to " ++
    toString usage ++ ", above the ceiling " ++ toString ceiling ++ "."

/-- A ceiling of zero or less is no ceiling. -/
def withinCeiling (usage ceiling : Int) : Bool :=
  !(decide (ceiling > 0) && decide (usage > ceiling))

def chargeTaskBudget (taskoid : Oid) (tokens cost : Int) (name : String) : Txn Unit := do
  let task ← lookupTask taskoid
  let newTokens := wrapInt32 (task.consumedTokens + tokens)
  let newCost := wrapInt32 (task.consumedCost + cost)
  require (withinCeiling newTokens task.budgetTokens)
    (budgetExceeded "token" taskoid name newTokens task.budgetTokens)
  require (withinCeiling newCost task.budgetCost)
    (budgetExceeded "cost" taskoid name newCost task.budgetCost)
  record (.chargeTaskBudget ⟨taskoid, tokens, cost, name⟩)

def uniqueViolation (index : String) : QxError :=
  ⟨.uniqueViolation, "duplicate key value violates unique constraint \"" ++ index ++ "\"", ""⟩

/-- `pg_qx_attempt_taskid_seqno_index` admits the key. -/
def attemptKeyFree (cat : Catalog) (taskoid : Oid) (seqno : Int) : Bool :=
  !cat.attempts.rows.any fun row => row.taskoid == taskoid && row.seqno == seqno

/-- `pg_qx_step_taskid_seqno_index` admits the key. -/
def stepKeyFree (cat : Catalog) (taskoid : Oid) (seqno : Int) : Bool :=
  !cat.steps.rows.any fun row => row.taskoid == taskoid && row.seqno == seqno

def insertAttempt (env : Env) (row : AttemptRow) : Txn Oid := do
  let oid ← newOid env .attempt
  let cat ← catalog
  require (attemptKeyFree cat row.taskoid row.seqno)
    (uniqueViolation "pg_qx_attempt_taskid_seqno_index")
  record (.insertAttempt { row with oid := oid })
  pure oid

def insertStep (env : Env) (sessionoid taskoid : Oid) (seqno : Int) (name : String) :
    Txn Oid := do
  let oid ← newOid env .step
  let cat ← catalog
  require (stepKeyFree cat taskoid seqno) (uniqueViolation "pg_qx_step_taskid_seqno_index")
  record (.insertStep ⟨oid, sessionoid, taskoid, seqno, name⟩)
  pure oid

def insertCheckpoint (env : Env) (row : CheckpointRow) : Txn Oid := do
  let oid ← newOid env .checkpoint
  record (.insertCheckpoint { row with oid := oid, lsn := env.lsn })
  pure oid

def insertSchedulerQueue (env : Env) (row : QueueRow) : Txn Oid := do
  let oid ← newOid env .schedulerQueue
  record (.insertSchedulerQueue { row with oid := oid })
  pure oid

def insertSchedulerLease (env : Env) (queueoid : Oid) (row : LeaseRow) : Txn Oid := do
  let oid ← newOid env .schedulerLease
  record (.insertSchedulerLease { row with oid := oid, queueoid := queueoid })
  pure oid

def insertSchedulerHeartbeat (env : Env) (leaseoid : Oid) (row : HeartbeatRow) : Txn Unit := do
  let oid ← newOid env .schedulerHeartbeat
  record (.insertSchedulerHeartbeat { row with oid := oid, leaseoid := leaseoid })

def insertTrace (env : Env) (row : TraceRow) : Txn Unit := do
  let oid ← newOid env .trace
  record (.insertTrace { row with oid := oid })

end Txn

end QhapaqXian
