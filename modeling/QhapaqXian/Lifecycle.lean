import QhapaqXian.Catalog
import QhapaqXian.Envelope

/-!
# The life of a task

What the runtime is for: a task is launched, captured at a checkpoint or reclaimed, resumed to
completion, retried or dead-lettered. Recovery only appends to its ledgers.
-/

namespace QhapaqXian

structure TaskView where
  task : Option TaskRow
  attempts : List AttemptRow
  steps : List StepRow
  checkpoints : List CheckpointRow
  queues : List QueueRow
  leases : List LeaseRow
  charges : List Charge

namespace TaskView

def empty : TaskView :=
  ⟨none, [], [], [], [], [], []⟩

def nextStep (view : TaskView) : Int :=
  (view.steps.map StepRow.seqno).foldl max 0 + 1

/-- The view after an action of a transaction, seen from one task. -/
def apply (taskoid : Oid) (view : TaskView) : Action → TaskView
  | .insertTask row => if row.oid = taskoid then { view with task := some row } else view
  | .updateTaskRuntime oid state lastattemptid lastcheckpointid =>
    if oid = taskoid then
      { view with
        task := view.task.map (TaskRow.updateRuntime state lastattemptid lastcheckpointid) }
    else view
  | .chargeTaskBudget charge =>
    if charge.taskoid = taskoid then
      { view with
        task := view.task.map (TaskRow.charge charge.tokens charge.cost)
        charges := view.charges ++ [charge] }
    else view
  | .insertAttempt row =>
    if row.taskoid = taskoid then { view with attempts := view.attempts ++ [row] } else view
  | .updateAttemptState attemptoid state =>
    { view with
      attempts := view.attempts.map fun row =>
        if row.oid = attemptoid then row.setState state else row }
  | .insertStep row =>
    if row.taskoid = taskoid then { view with steps := view.steps ++ [row] } else view
  | .insertCheckpoint row =>
    if row.taskoid = taskoid then { view with checkpoints := view.checkpoints ++ [row] } else view
  | .insertSchedulerQueue row =>
    if row.taskoid = taskoid then { view with queues := view.queues ++ [row] } else view
  | .insertSchedulerLease row =>
    if row.taskoid = taskoid then { view with leases := view.leases ++ [row] } else view
  | _ => view

end TaskView

def Catalog.view (cat : Catalog) (taskoid : Oid) : TaskView where
  task := cat.lookupTaskByOid taskoid
  attempts := cat.attempts.rows.filter (·.taskoid == taskoid)
  steps := cat.steps.rows.filter (·.taskoid == taskoid)
  checkpoints := cat.checkpoints.rows.filter (·.taskoid == taskoid)
  queues := cat.queues.rows.filter (·.taskoid == taskoid)
  leases := cat.leases.rows.filter (·.taskoid == taskoid)
  charges := cat.charges.filter (·.taskoid == taskoid)

def TaskRow.chargeAll (charges : List Charge) (row : TaskRow) : TaskRow :=
  charges.foldl (fun row charge => row.charge charge.tokens charge.cost) row

/-- Each charge of a list keeps the task below its ceilings. -/
def TaskRow.Affords (row : TaskRow) : List Charge → Prop
  | [] => True
  | charge :: charges =>
    let charged := row.charge charge.tokens charge.cost
    Txn.withinCeiling charged.consumedTokens row.budgetTokens = true ∧
      Txn.withinCeiling charged.consumedCost row.budgetCost = true ∧ charged.Affords charges

/-- The kind that an admission or resume row takes from the priority of its task. -/
def TaskRow.dispatchKind (task : TaskRow) : QueueKind :=
  qxSchedulerQueueKindForPriority (qxEffectivePriorityName task.priority)

/-- A queue row for an attempt, with the path that wrote it. -/
structure QueueRow.IsFor (queue : QueueRow) (attemptoid ownerid : Oid) (kind : QueueKind)
    (origin : QueueOrigin) : Prop where
  attemptoid : queue.attemptoid = attemptoid
  ownerid : queue.ownerid = ownerid
  queueKind : queue.queueKind = kind
  origin : queue.origin = origin

structure LeaseRow.IsFor (lease : LeaseRow) (attemptoid ownerid : Oid) (state : LeaseState) :
    Prop where
  attemptoid : lease.attemptoid = attemptoid
  ownerid : lease.ownerid = ownerid
  state : lease.state = state

/-- A new attempt of a task and the number it takes after another. -/
structure AttemptRow.Follows (attempt last : AttemptRow) (view : TaskView) : Prop where
  seqno : attempt.seqno = wrapInt16 (last.seqno + 1)
  valid : attempt.oid ≠ invalidOid
  fresh : attempt.oid ∉ view.attempts.map AttemptRow.oid
  unused : attempt.seqno ∉ view.attempts.map AttemptRow.seqno

/-- Steps numbered from a first number on, each number stored in an `int16`. -/
def NumberedFrom (first : Int) (steps : List StepRow) : Prop :=
  steps.map StepRow.seqno = (List.range steps.length).map fun i : Nat => wrapInt16 (first + i)

/-- The last attempt of a task is the one that its pointer names. -/
structure TaskView.Current (view : TaskView) (task : TaskRow) (earlier : List AttemptRow)
    (last : AttemptRow) : Prop where
  task_eq : view.task = some task
  attempts_eq : view.attempts = earlier ++ [last]
  last_eq : task.lastattemptid = last.oid

/-- What a transaction brings in from outside: the tasks that may be admitted and the charges that
tools report. -/
structure Inputs where
  admits : TaskRow → Prop
  reports : Charge → Prop

/-- The bill of one dispatch: the report of a tool among fixed charges that are small. -/
def Inputs.Bills (inputs : Inputs) (charges : List Charge) : Prop :=
  ∃ before external after, charges = before ++ external :: after ∧ inputs.reports external ∧
    (∀ charge ∈ before ++ after, 0 ≤ charge.tokens ∧ 0 ≤ charge.cost) ∧
    ((before ++ after).map Charge.tokens).sum ≤ 44 ∧ ((before ++ after).map Charge.cost).sum ≤ 44

/-- What recovery does to a task of an owner in its scope: it appends to the ledgers of an
attempt. -/
inductive RecoveryStep (scope : Oid → Prop) : TaskView → TaskView → Prop
  | enqueue {view : TaskView} {task : TaskRow} {queue : QueueRow} {attemptoid : Oid}
      {origin : QueueOrigin} (htask : view.task = some task) (hscope : scope task.ownerid)
      (hattempt : attemptoid ∈ view.attempts.map AttemptRow.oid)
      (horigin : origin = .requeue ∨ origin = .fence)
      (hqueue : queue.IsFor attemptoid task.ownerid .recovery origin) :
      RecoveryStep scope view { view with queues := view.queues ++ [queue] }
  | fence {view : TaskView} {task : TaskRow} {lease : LeaseRow} {attempt : AttemptRow}
      (htask : view.task = some task) (hscope : scope task.ownerid)
      (hattempt : attempt ∈ view.attempts)
      (hrunning : attempt.state = .running)
      (hlease : lease.IsFor attempt.oid task.ownerid .reclaimed) :
      RecoveryStep scope view { view with leases := view.leases ++ [lease] }

inductive TaskStep (inputs : Inputs) : TaskView → TaskView → Prop
  | launch {task : TaskRow} {attempt : AttemptRow} {step : StepRow} {queue : QueueRow}
      {lease : LeaseRow} (hadmits : inputs.admits task) (hstate : task.state = .running)
      (hlast : task.lastattemptid = attempt.oid)
      (hcheckpoint : task.lastcheckpointid = invalidOid)
      (hconsumed : task.consumedTokens = 0 ∧ task.consumedCost = 0)
      (hseqno : attempt.seqno = 1) (hvalid : attempt.oid ≠ invalidOid)
      (hrunning : attempt.state = .running) (howner : attempt.ownerid = task.ownerid)
      (hstep : step.seqno = 1)
      (hqueue : queue.IsFor attempt.oid task.ownerid task.dispatchKind .dispatch)
      (hlease : lease.IsFor attempt.oid task.ownerid .held) :
      TaskStep inputs .empty ⟨some task, [attempt], [step], [], [queue], [lease], []⟩
  | capture {view : TaskView} {task : TaskRow} {earlier : List AttemptRow} {last : AttemptRow}
      {steps : List StepRow} {checkpoint : CheckpointRow} {lease : LeaseRow}
      {charges : List Charge} (hcurrent : view.Current task earlier last)
      (hstate : task.state = .running) (hrunning : last.state = .running)
      (hsteps : NumberedFrom view.nextStep steps)
      (hnext : checkpoint.nextStepSeqno = wrapInt16 (view.nextStep + steps.length))
      (hcheckpoint : checkpoint.oid ≠ invalidOid)
      (hfresh : checkpoint.oid ∉ view.checkpoints.map CheckpointRow.oid)
      (hlease : lease.IsFor last.oid task.ownerid .released) (hcharges : task.Affords charges)
      (hbills : inputs.Bills charges) :
      TaskStep inputs view
        { view with
          task := some ((task.chargeAll charges).updateRuntime .checkpointed (some last.oid)
            (some checkpoint.oid))
          attempts := earlier ++ [last.setState .checkpointed]
          steps := view.steps ++ steps
          checkpoints := view.checkpoints ++ [checkpoint]
          leases := view.leases ++ [lease]
          charges := view.charges ++ charges }
  | reopen {view : TaskView} {task : TaskRow} {earlier : List AttemptRow}
      {last attempt : AttemptRow} {queue : QueueRow} {lease : LeaseRow}
      (hcurrent : view.Current task earlier last)
      (hstate : task.state = .checkpointed ∨ task.state = .running)
      (hcheckpoint : task.lastcheckpointid ≠ invalidOid) (hfollows : attempt.Follows last view)
      (hrunning : attempt.state = .running) (howner : attempt.ownerid = task.ownerid)
      (hqueue : queue.IsFor attempt.oid task.ownerid task.dispatchKind .dispatch)
      (hlease : lease.IsFor attempt.oid task.ownerid .held) :
      TaskStep inputs view
        { view with
          task := some (task.updateRuntime .running (some attempt.oid) none)
          attempts := view.attempts ++ [attempt]
          queues := view.queues ++ [queue]
          leases := view.leases ++ [lease] }
  | resume {view : TaskView} {task : TaskRow} {earlier : List AttemptRow}
      {last attempt : AttemptRow} {checkpoint final : CheckpointRow} {steps : List StepRow}
      {queue : QueueRow} {held released : LeaseRow} {charges : List Charge}
      (hcurrent : view.Current task earlier last) (hstate : task.state = .checkpointed)
      (hcheckpoint : checkpoint ∈ view.checkpoints) (hpointer : checkpoint.oid = task.lastcheckpointid)
      (hfollows : attempt.Follows last view) (hcompleted : attempt.state = .completed)
      (hsteps : steps.map StepRow.seqno = [checkpoint.nextStepSeqno,
        wrapInt16 (checkpoint.nextStepSeqno + 1), wrapInt16 (checkpoint.nextStepSeqno + 2)])
      (hfinal : final.oid ≠ invalidOid)
      (hfresh : final.oid ∉ view.checkpoints.map CheckpointRow.oid)
      (hqueue : queue.attemptoid = attempt.oid)
      (hheld : held.attemptoid = attempt.oid) (hreleased : released.attemptoid = attempt.oid)
      (hcharges : task.Affords charges)
      (hbills : inputs.Bills charges) :
      TaskStep inputs view
        { task := some ((task.chargeAll charges).updateRuntime .completed (some attempt.oid)
            (some final.oid))
          attempts := view.attempts ++ [attempt]
          steps := view.steps ++ steps
          checkpoints := view.checkpoints ++ [final]
          queues := view.queues ++ [queue]
          leases := view.leases ++ [held, released]
          charges := view.charges ++ charges }
  | retry {view : TaskView} {task : TaskRow} {earlier : List AttemptRow}
      {last attempt : AttemptRow} {queue : QueueRow} {lease : LeaseRow}
      (hcurrent : view.Current task earlier last) (hstate : task.state = .queued)
      (hcheckpoint : task.lastcheckpointid = invalidOid) (hfailed : last.state = .failed)
      (hfollows : attempt.Follows last view) (hrunning : attempt.state = .running)
      (howner : attempt.ownerid = task.ownerid)
      (hqueue : queue.IsFor attempt.oid task.ownerid .retry .retryDispatch)
      (hlease : lease.IsFor attempt.oid task.ownerid .held) :
      TaskStep inputs view
        { view with
          task := some (task.updateRuntime .running (some attempt.oid) none)
          attempts := view.attempts ++ [attempt]
          queues := view.queues ++ [queue]
          leases := view.leases ++ [lease] }
  | renew {view : TaskView} {lease renewed : LeaseRow} (hlease : lease ∈ view.leases)
      (hheld : lease.state = .held)
      (hrenewed : renewed.IsFor lease.attemptoid lease.ownerid .held) :
      TaskStep inputs view { view with leases := view.leases ++ [renewed] }
  | repair {view : TaskView} {task : TaskRow} {earlier : List AttemptRow} {last : AttemptRow}
      {queue : QueueRow} {lease : LeaseRow} (hcurrent : view.Current task earlier last)
      (hstate : task.state = .running) (hrunning : last.state = .running)
      (hcheckpoint : task.lastcheckpointid ≠ invalidOid)
      (hqueue : queue.IsFor last.oid task.ownerid .recovery .reclaim)
      (hlease : lease.attemptoid = last.oid) :
      TaskStep inputs view
        { view with
          task := some (task.updateRuntime .checkpointed (some last.oid)
            (some task.lastcheckpointid))
          attempts := earlier ++ [last.setState .checkpointed]
          queues := view.queues ++ [queue]
          leases := view.leases ++ [lease] }
  | failClosed {view : TaskView} {task : TaskRow} {earlier : List AttemptRow} {last : AttemptRow}
      {queue : QueueRow} {leases : List LeaseRow} (hcurrent : view.Current task earlier last)
      (hstate : task.state = .running) (hrunning : last.state = .running)
      (hcheckpoint : task.lastcheckpointid = invalidOid) (hqueue : queue.attemptoid = last.oid)
      (hleases : ∀ lease ∈ leases, lease.attemptoid = last.oid) :
      TaskStep inputs view
        { view with
          task := some (task.updateRuntime .queued (some last.oid) (some invalidOid))
          attempts := earlier ++ [last.setState .failed]
          queues := view.queues ++ [queue]
          leases := view.leases ++ leases }
  | deadLetter {view : TaskView} {task : TaskRow} {earlier : List AttemptRow} {last : AttemptRow}
      {queue : QueueRow} (hcurrent : view.Current task earlier last)
      (hstate : task.state = .queued) (hfailed : last.state = .failed)
      (hcheckpoint : task.lastcheckpointid = invalidOid) (hqueue : queue.attemptoid = last.oid) :
      TaskStep inputs view
        { view with
          task := some (task.updateRuntime .failed (some last.oid) (some invalidOid))
          attempts := earlier ++ [last.setState .failed]
          queues := view.queues ++ [queue] }

end QhapaqXian
