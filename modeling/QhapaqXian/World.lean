import Mathlib.Logic.Relation
import QhapaqXian.Library.Interleave
import QhapaqXian.Worker

/-!
# Runs of the server

The commands of the runtime as transactions over one database. A rollback leaves the catalogs as
they were, but not the recovery snapshot of its backend or the external programs it executed.
-/

namespace QhapaqXian

open Library

inductive Command
  | runTask (stmt : RunTaskStmt) (authorization : Except QxError ToolAuthorization)
  | resumeTask (stmt : ResumeTaskStmt)
  | schedulerCycle (slot : WorkerSlot)
  | retryCycle (slot : WorkerSlot)
  | startupRecovery
  | failoverRebuild
  | semanticReplay
  | startRecoveryAttempt (taskoid : Oid)
  | startUncheckpointedTask (sessionoid : Oid) (priority : CString)
      (authorization : Except QxError ToolAuthorization)
  | startExhaustedRetryTask (sessionoid : Oid)
      (authorization : Except QxError ToolAuthorization)
  | workerTick

def Command.script (env : Env) : Command → Txn Unit
  | .runTask stmt authorization => do let _ ← QhapaqXian.runTask env stmt authorization
  | .resumeTask stmt => do let _ ← QhapaqXian.resumeTask env stmt
  | .schedulerCycle slot => do let _ ← qxRuntimeRunSchedulerCycle env slot
  | .retryCycle slot => do let _ ← qxRuntimeRunSchedulerRetryCycle env slot
  | .startupRecovery => testRunStartupRecovery env
  | .failoverRebuild => testRunFailoverRebuild env
  | .semanticReplay => testRunSemanticReplay env
  | .startRecoveryAttempt taskoid => do let _ ← testStartRecoveryAttempt env taskoid
  | .startUncheckpointedTask sessionoid priority authorization => do
    let _ ← testStartUncheckpointedTask env sessionoid priority authorization
  | .startExhaustedRetryTask sessionoid authorization => do
    let _ ← testStartExhaustedRetryTask env sessionoid authorization
  | .workerTick => testRunSchedulerWorkerTick env

/-- How a transaction ends if none of its statements fails: it commits, or it is rolled back after
some of its actions. -/
inductive Fate
  | commit
  | rollback (after : Nat)
  deriving Repr, DecidableEq

/-- A command of one backend, with what the server supplies to it and how it ends. -/
structure Event where
  backend : Nat
  env : Env
  command : Command
  fate : Fate

structure Execution where
  taskoid : Oid
  phase : ToolPhase
  contract : CString
  executedAt : TimestampTz
  deriving Repr, DecidableEq

/-- The committed catalogs, the recovery snapshot of each backend process and the history of the
external programs that were executed. -/
structure World where
  catalog : Catalog
  snapshots : Nat → Option Oid
  executions : List Execution

def World.initial (agents : Table AgentRow) : World :=
  ⟨.initial agents, fun _ => none, []⟩

def Action.execution (now : TimestampTz) : Action → Option Execution
  | .executeToolContract taskoid phase contract => some ⟨taskoid, phase, contract, now⟩
  | _ => none

namespace World

def backend (world : World) (backend : Nat) : Backend :=
  ⟨world.catalog, world.snapshots backend⟩

def outcome (world : World) (event : Event) : List Action × Except QxError Unit :=
  (event.command.script event.env).run (world.backend event.backend)

def carriedOut (world : World) (event : Event) : List Action :=
  match event.fate with
  | .commit => (world.outcome event).1
  | .rollback after => (world.outcome event).1.take after

def executed (world : World) (event : Event) : List Execution :=
  (world.carriedOut event).filterMap (Action.execution event.env.now)

def Commits (world : World) (event : Event) : Prop :=
  event.fate = .commit ∧ (world.outcome event).2.isOk

instance (world : World) (event : Event) : Decidable (world.Commits event) :=
  inferInstanceAs (Decidable (_ ∧ _))

def next (world : World) (event : Event) : World :=
  let reached := replay (world.backend event.backend) (world.carriedOut event)
  { catalog := if world.Commits event then reached.catalog else world.catalog
    snapshots := fun other =>
      if other = event.backend then reached.recoverySnapshot else world.snapshots other
    executions := world.executions ++
      (world.carriedOut event).filterMap (Action.execution event.env.now) }

def run (world : World) (events : List Event) : World :=
  events.foldl next world

def Step (allowed : World → Event → Prop) (world world' : World) : Prop :=
  ∃ event, allowed world event ∧ world' = world.next event

def Leads (allowed : World → Event → Prop) : World → World → Prop :=
  Relation.ReflTransGen (Step allowed)

def anyEvent (_ : World) (_ : Event) : Prop :=
  True

/-- A world that some run reaches from an empty database. -/
def Reachable (world : World) : Prop :=
  ∃ agents, Leads anyEvent (.initial agents) world

end World

/-! ## Transactions at the same time -/

/-- A key of one of the unique indexes on the numbers of a task. -/
inductive UniqueKey
  | attempt (taskoid : Oid) (seqno : Int)
  | step (taskoid : Oid) (seqno : Int)
  deriving Repr, DecidableEq

def Action.uniqueKey : Action → Option UniqueKey
  | .insertAttempt row => some (.attempt row.taskoid row.seqno)
  | .insertStep row => some (.step row.taskoid row.seqno)
  | _ => none

def Catalog.holdsKey (cat : Catalog) : UniqueKey → Bool
  | .attempt taskoid seqno => !Txn.attemptKeyFree cat taskoid seqno
  | .step taskoid seqno => !Txn.stepKeyFree cat taskoid seqno

/-- Backends that share the committed catalogs; each of them has its own recovery snapshot. -/
def sharedCatalog {ι : Type} (snapshots : ι → Option Oid) :
    Shared ι Catalog Backend Action UniqueKey where
  view backend cat := ⟨cat, snapshots backend⟩
  publish := Backend.catalog
  key := Action.uniqueKey
  taken := Catalog.holdsKey

end QhapaqXian
