import QhapaqXian.Library.Fields
import QhapaqXian.Worker

/-!
# The scheduler launcher

The launcher of `qx_runtime.c` keeps one worker for every slot of every database, and the postmaster
(`bgworker.c`) starts, restarts and forgets the workers. They act in any order, the launcher by one
turn of one of its loops at a time.
-/

namespace QhapaqXian

open Library

/-- What the launcher reads of a row of `pg_database`. -/
structure DatabaseRow where
  oid : Oid
  datname : CString
  datallowconn : Bool
  datistemplate : Bool
  deriving Repr, DecidableEq

structure SchedulerDbTarget where
  dboid : Oid
  dbname : CString
  deriving Repr, DecidableEq

/-- The key that a worker is registered with; it does not change while the worker is registered. -/
structure SchedulerWorkerKey where
  dboid : Oid
  slotIndex : Int
  slotCount : Int
  deriving Repr, DecidableEq

structure SchedulerDbWorker where
  dboid : Oid
  dbname : CString
  slotIndex : Int
  slotCount : Int
  handle : Nat
  deriving Repr, DecidableEq

inductive BgwHandleStatus
  | notYetStarted
  | started
  | stopped
  deriving Repr, DecidableEq

/-- A registered background worker. One that failed is stopped until its restart. -/
structure BackgroundWorker where
  handle : Nat
  name : CString
  key : SchedulerWorkerKey
  status : BgwHandleStatus
  terminate : Bool
  deriving Repr, DecidableEq

/-- Where the launcher is in its loop, with its local variables there. -/
inductive LauncherPhase
  | down
  | waiting (workers : List SchedulerDbWorker)
  | pruning (targets : List SchedulerDbTarget) (slotCount : Int)
      (rest aliveWorkers : List SchedulerDbWorker)
  | launching (slotCount : Int) (rest : List (SchedulerDbTarget × Int))
      (workers : List SchedulerDbWorker)
  deriving Repr, DecidableEq

structure Cluster where
  dataDir : Option CString
  workers : List BackgroundWorker
  nextHandle : Nat
  launcher : LauncherPhase
  deriving Repr, DecidableEq

/-! ## Targets and slots -/

/-- `strtol(value, &endptr, 10)` where it sets no error and the number is all of the text. -/
def strtolWhole (value : CString) : Option Int :=
  let unspaced := value.dropWhile isSpace
  let signed := unspaced.head? == some '-' || unspaced.head? == some '+'
  let digits := if signed then unspaced.tail else unspaced
  if digits.isEmpty || !digits.all Char.isDigit then none
  else
    let n : Int := digits.foldl (fun n c => n * 10 + (c.toNat - '0'.toNat : Nat)) 0
    let number := if unspaced.head? == some '-' then -n else n
    if -2 ^ 63 ≤ number ∧ number ≤ 2 ^ 63 - 1 then some number else none

/-- The value of `QX_SCHEDULER_DB_WORKER_SLOTS`, between 1 and 8, by default 2. -/
def qxRuntimeSchedulerSlotCount (slotEnv : Option CString) : Int :=
  match slotEnv.bind strtolWhole with
  | none => 2
  | some slotCount => if slotCount < 1 then 1 else if slotCount > 8 then 8 else slotCount

def qxRuntimeSchedulerDbTargetAllowed (dataDir : Option CString) (dbname : CString) : Bool :=
  if (dataDir.bind fun dir => strstr dir "testrun".toList).isSome then
    dbname == "regression".toList
  else true

def qxRuntimeSchedulerDbTargets (dataDir : Option CString) (databases : List DatabaseRow) :
    List SchedulerDbTarget :=
  (databases.filter fun form => form.datallowconn && !form.datistemplate &&
    qxRuntimeSchedulerDbTargetAllowed dataDir form.datname).map
      fun form => ⟨form.oid, form.datname⟩

def qxRuntimeFindSchedulerDbWorker (workers : List SchedulerDbWorker) (dboid : Oid)
    (slotIndex : Int) : Option SchedulerDbWorker :=
  workers.find? fun worker => worker.dboid == dboid && worker.slotIndex == slotIndex

/-- `slot_index = 0; slot_index < slot_count; slot_index++`. -/
def slotIndices (slotCount : Int) : List Int :=
  (List.range slotCount.toNat).map Int.ofNat

def SchedulerDbWorker.present (worker : SchedulerDbWorker) (targets : List SchedulerDbTarget)
    (slotCount : Int) : Bool :=
  targets.any fun target => target.dboid == worker.dboid &&
    (slotIndices slotCount).any fun slotIndex =>
      worker.slotIndex == slotIndex && worker.slotCount == slotCount

/-! ## Registered workers -/

/-- The slot that `QxRuntimeSchedulerDatabaseWorkerMain` runs its cycles with. -/
def BackgroundWorker.slot (worker : BackgroundWorker) : WorkerSlot :=
  if worker.key.slotCount > 0 then ⟨worker.key.slotIndex, worker.key.slotCount, worker.name⟩
  else ⟨0, 1, worker.name⟩

def Cluster.liveWorkers (cluster : Cluster) : List BackgroundWorker :=
  cluster.workers.filter fun worker => worker.status == .started

def Cluster.changeWorker (cluster : Cluster) (handle : Nat)
    (change : BackgroundWorker → BackgroundWorker) : Cluster :=
  { cluster with
    workers := cluster.workers.map fun worker =>
      if worker.handle = handle then change worker else worker }

def Cluster.forgetWorker (cluster : Cluster) (handle : Nat) (gone : BackgroundWorker → Bool) :
    Cluster :=
  { cluster with
    workers := cluster.workers.filter fun worker => !(worker.handle == handle && gone worker) }

/-- A worker that waits for its restart is reported as one that is gone. -/
def Cluster.getBackgroundWorkerPid (cluster : Cluster) (handle : Nat) : BgwHandleStatus :=
  match cluster.workers.find? fun worker => worker.handle == handle with
  | none => .stopped
  | some worker => worker.status

def Cluster.terminateBackgroundWorker (cluster : Cluster) (handle : Nat) : Cluster :=
  cluster.changeWorker handle fun worker => { worker with terminate := true }

/-- `bgw_name`, cut to `BGW_MAXLEN`. -/
def bgwName (dbname : CString) (slotIndex slotCount : Int) : CString :=
  ("qhapaqxian scheduler db ".toList ++ dbname ++ " slot ".toList ++ formatSigned (slotIndex + 1) ++
    '/' :: formatSigned (max slotCount 1)).take 95

def Cluster.qxRuntimeLaunchSchedulerDbWorker (cluster : Cluster) (target : SchedulerDbTarget)
    (slotIndex slotCount : Int) : Cluster :=
  { cluster with
    workers := cluster.workers ++
      [{ handle := cluster.nextHandle
         name := bgwName target.dbname slotIndex slotCount
         key := ⟨target.dboid, slotIndex, slotCount⟩
         status := .notYetStarted
         terminate := false }]
    nextHandle := cluster.nextHandle + 1 }

/-! ## The launcher -/

/-- One listed worker: dropped when it is stopped, terminated and dropped when its slot is gone. -/
def Cluster.pruneWorker (cluster : Cluster) (targets : List SchedulerDbTarget) (slotCount : Int)
    (worker : SchedulerDbWorker) (rest aliveWorkers : List SchedulerDbWorker) : Cluster :=
  if cluster.getBackgroundWorkerPid worker.handle = .stopped then
    { cluster with launcher := .pruning targets slotCount rest aliveWorkers }
  else if worker.present targets slotCount then
    { cluster with launcher := .pruning targets slotCount rest (aliveWorkers ++ [worker]) }
  else
    { cluster.terminateBackgroundWorker worker.handle with
      launcher := .pruning targets slotCount rest aliveWorkers }

/-- One slot of one database. The registration fails when no place is left for a worker. -/
def Cluster.launchWorker (cluster : Cluster) (slotCount : Int) (target : SchedulerDbTarget)
    (slotIndex : Int) (rest : List (SchedulerDbTarget × Int)) (workers : List SchedulerDbWorker)
    (registered : Bool) : Cluster :=
  if (qxRuntimeFindSchedulerDbWorker workers target.dboid slotIndex).isSome || !registered then
    { cluster with launcher := .launching slotCount rest workers }
  else
    { cluster.qxRuntimeLaunchSchedulerDbWorker target slotIndex slotCount with
      launcher := .launching slotCount rest
        (workers ++ [⟨target.dboid, target.dbname, slotIndex, slotCount, cluster.nextHandle⟩]) }

def Cluster.launcherTurn (cluster : Cluster) (registered : Bool) : Cluster :=
  match cluster.launcher with
  | .down | .waiting _ => cluster
  | .pruning targets slotCount (worker :: rest) aliveWorkers =>
    cluster.pruneWorker targets slotCount worker rest aliveWorkers
  | .pruning targets slotCount [] aliveWorkers =>
    { cluster with
      launcher := .launching slotCount
        (targets.flatMap fun target => (slotIndices slotCount).map (target, ·)) aliveWorkers }
  | .launching slotCount ((target, slotIndex) :: rest) workers =>
    cluster.launchWorker slotCount target slotIndex rest workers registered
  | .launching _ [] workers => { cluster with launcher := .waiting workers }

inductive LauncherEvent
  | launcherStarts
  | launcherExits
  | launcherWakes (databases : List DatabaseRow) (slotEnv : Option CString)
  | launcherTurns (registered : Bool)
  | workerStarts (handle : Nat)
  | workerFails (handle : Nat)
  | workerFinishes (handle : Nat)
  | workerForgotten (handle : Nat)
  | serverRestarts
  deriving Repr, DecidableEq

/-- A worker that exits with status 0 is forgotten, any other one is started again unless it is
forgotten after a request to terminate. A restart of the server keeps the registered workers. -/
def Cluster.next (cluster : Cluster) : LauncherEvent → Cluster
  | .launcherStarts =>
    match cluster.launcher with
    | .down => { cluster with launcher := .waiting [] }
    | _ => cluster
  | .launcherExits => { cluster with launcher := .down }
  | .launcherWakes databases slotEnv =>
    match cluster.launcher with
    | .waiting workers =>
      { cluster with
        launcher := .pruning (qxRuntimeSchedulerDbTargets cluster.dataDir databases)
          (qxRuntimeSchedulerSlotCount slotEnv) workers [] }
    | _ => cluster
  | .launcherTurns registered => cluster.launcherTurn registered
  | .workerStarts handle =>
    cluster.changeWorker handle fun worker => { worker with status := .started }
  | .workerFails handle =>
    cluster.changeWorker handle fun worker =>
      if worker.status = .started then { worker with status := .stopped } else worker
  | .workerFinishes handle => cluster.forgetWorker handle fun worker => worker.status == .started
  | .workerForgotten handle =>
    cluster.forgetWorker handle fun worker => worker.terminate && worker.status != .started
  | .serverRestarts =>
    { cluster with
      workers := cluster.workers.map fun worker => { worker with status := .notYetStarted }
      launcher := .down }

def Cluster.init (dataDir : Option CString) : Cluster :=
  ⟨dataDir, [], 0, .down⟩

end QhapaqXian
