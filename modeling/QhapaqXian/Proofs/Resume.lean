import QhapaqXian.Proofs.Dispatch

/-!
# Resuming a task

`RESUME TASK` and the hook that leaves a resumed attempt open, as steps in the life of a task.
-/

namespace QhapaqXian

open Library Script Txn

variable {ctx : AttemptContext} {attempt last : AttemptRow} {cat : Catalog}
  {earlier : List AttemptRow} {taskoid : Oid} {queue : QueueRow} {task : TaskRow} {view : TaskView}
variable {env : Env} {s : Backend} {journal : List Action}

/-- What the completion of a resumed attempt writes and what its tool reports. -/
structure CompleteRows where
  dispatch : StepRow
  held : LeaseRow
  holdBeat : HeartbeatRow
  external : StepRow
  externalTrace : TraceRow
  complete : StepRow
  completeTrace : TraceRow
  checkpoint : CheckpointRow
  released : LeaseRow
  releaseBeat : HeartbeatRow
  contract : CString
  result : ToolResult

namespace CompleteRows

def charges (rows : CompleteRows) (ctx : AttemptContext) : List Charge :=
  [⟨ctx.taskoid, 8, 14, "resume_dispatch"⟩,
    ⟨ctx.taskoid, rows.result.tokenCharge, rows.result.costCharge, "external_resume"⟩,
    ⟨ctx.taskoid, 4, 11, "final_checkpoint"⟩]

def steps (rows : CompleteRows) : List StepRow :=
  [rows.dispatch, rows.external, rows.complete]

def actions (rows : CompleteRows) (ctx : AttemptContext) : List Action :=
  [.insertStep rows.dispatch, .chargeTaskBudget ⟨ctx.taskoid, 8, 14, "resume_dispatch"⟩,
    .insertSchedulerLease rows.held, .insertSchedulerHeartbeat rows.holdBeat,
    .insertStep rows.external, .executeToolContract ctx.taskoid .resume rows.contract,
    .chargeTaskBudget ⟨ctx.taskoid, rows.result.tokenCharge, rows.result.costCharge,
      "external_resume"⟩,
    .insertTrace rows.externalTrace, .insertStep rows.complete,
    .chargeTaskBudget ⟨ctx.taskoid, 4, 11, "final_checkpoint"⟩, .insertTrace rows.completeTrace,
    .insertCheckpoint rows.checkpoint, .updateAttemptState ctx.attemptoid .completed,
    .updateTaskRuntime ctx.taskoid .completed (some ctx.attemptoid) (some rows.checkpoint.oid),
    .insertSchedulerLease rows.released, .insertSchedulerHeartbeat rows.releaseBeat,
    .reportSchedulerEvent .release]

structure Written (rows : CompleteRows) (env : Env) (ctx : AttemptContext) (base : Int) :
    Prop where
  held : rows.held.IsFor ctx.attemptoid ctx.ownerid .held
  released : rows.released.IsFor ctx.attemptoid ctx.ownerid .released
  leases_taskoid : rows.held.taskoid = ctx.taskoid ∧ rows.released.taskoid = ctx.taskoid
  steps_taskoid : ∀ step ∈ rows.steps, step.taskoid = ctx.taskoid
  seqnos : rows.steps.map StepRow.seqno = [base, wrapInt16 (base + 1), wrapInt16 (base + 2)]
  checkpoint_taskoid : rows.checkpoint.taskoid = ctx.taskoid
  contract : ctx.contract = some rows.contract
  result :
    env.tool ⟨ctx.taskoid, .resume, rows.contract, ctx.goal, ctx.inputPresent⟩ = .ok rows.result

end CompleteRows

theorem completeAttempt_returns {base : Int} {u : Unit} (hctx : ctx.Consistent)
    (hattempt : ctx.attemptoid ∈ (s.catalog.view ctx.taskoid).attempts.map AttemptRow.oid)
    (h : (completeAttempt env ctx base).Returns s journal u) :
    ∃ rows : CompleteRows, rows.Written env ctx base ∧ journal = rows.actions ctx ∧
      Moves s ctx.taskoid journal := by
  unfold completeAttempt qxSchedulerAppendRuntimePayload at h
  obtain ⟨-, h⟩ := returns_check_bind_iff.mp h
  obtain ⟨_, _, _, rfl, ⟨step₁, hk₁, hs₁, rfl, hm₁⟩, h⟩ := returns_bind_of insertStep_returns h
  obtain ⟨_, _, _, rfl, ⟨rfl, hm₂⟩, h⟩ := returns_bind_of chargeTaskBudget_returns h
  obtain ⟨-, h⟩ := returns_check_bind_iff.mp h
  obtain ⟨_, lease, _, rfl, ⟨rfl, held, holdBeat, hheld, hheldTask, rfl, hm₃⟩, h⟩ :=
    returns_bind_of holdLease_returns h
  rw [hctx.taskoid] at hheldTask hm₃
  obtain ⟨_, _, _, rfl, ⟨step₂, hk₂, hs₂, rfl, hm₄⟩, h⟩ := returns_bind_of insertStep_returns h
  obtain ⟨_, result, _, rfl, ⟨contract, hcontract, hresult, rfl, hm₅⟩, h⟩ :=
    returns_bind_of qxExecuteToolContract_returns h
  obtain ⟨_, _, _, rfl, ⟨rfl, hm₆⟩, h⟩ := returns_bind_of chargeTaskBudget_returns h
  obtain ⟨_, _, _, rfl, ⟨trace₁, rfl, hm₇⟩, h⟩ := returns_bind_of insertTrace_moves h
  obtain ⟨_, _, _, rfl, ⟨step₃, hk₃, hs₃, rfl, hm₈⟩, h⟩ := returns_bind_of insertStep_returns h
  obtain ⟨_, _, _, rfl, ⟨rfl, hm₉⟩, h⟩ := returns_bind_of chargeTaskBudget_returns h
  obtain ⟨_, _, _, rfl, ⟨trace₂, rfl, hm₁₀⟩, h⟩ := returns_bind_of insertTrace_moves h
  obtain ⟨_, _, _, rfl, ⟨checkpoint, rfl, htask, -, rfl, hm₁₁⟩, h⟩ :=
    returns_bind_of insertCheckpoint_returns h
  have hkept := (hm₁.append (hm₂.append (hm₃.append (hm₄.append ((hm₅ _).append (hm₆.append
    ((hm₇ _).append (hm₈.append (hm₉.append ((hm₁₀ _).append hm₁₁)))))))))).mem_attempts rfl
      hattempt
  simp only [replay_append] at hkept
  obtain ⟨_, _, _, rfl, ⟨rfl, hm₁₂⟩, h⟩ := returns_bind_of (updateAttemptState_returns hkept) h
  obtain ⟨_, _, _, rfl, ⟨rfl, hm₁₃⟩, h⟩ := returns_bind_of updateTaskRuntime_returns h
  obtain ⟨released, releaseBeat, hreleased, hreleasedTask, rfl, hm₁₄⟩ := releaseLease_returns h
  have hsame := hctx.taskoid
  refine ⟨⟨step₁, held, holdBeat, step₂, trace₁, step₃, trace₂, checkpoint, released, releaseBeat,
    contract, result⟩, ?_, rfl, ?_⟩
  · exact {
      held := hctx.attemptoid ▸ hctx.ownerid ▸ hheld
      released := hctx.attemptoid ▸ hctx.ownerid ▸ hreleased
      leases_taskoid := ⟨hheldTask, hreleasedTask.trans hsame⟩
      steps_taskoid := by simp [CompleteRows.steps, hk₁, hk₂, hk₃]
      seqnos := by simp [CompleteRows.steps, hs₁, hs₂, hs₃]
      checkpoint_taskoid := htask
      contract := hcontract
      result := hresult }
  · exact hm₁.append (hm₂.append (hm₃.append (hm₄.append ((hm₅ _).append (hm₆.append
      ((hm₇ _).append (hm₈.append (hm₉.append ((hm₁₀ _).append (hm₁₁.append (hm₁₂.append
        (hm₁₃.append (hsame ▸ hm₁₄)))))))))))))

namespace CompleteRows.Written

variable {rows : CompleteRows} {ctx : AttemptContext} {base : Int}

lemma view_eq (hw : rows.Written env ctx base) (view : TaskView) (htask : view.task = some task)
    (hattempts : view.attempts = earlier ++ [last]) (hlast : last.oid = ctx.attemptoid)
    (hnodup : (view.attempts.map AttemptRow.oid).Nodup) :
    (rows.actions ctx).foldl (TaskView.apply ctx.taskoid) view =
      { view with
        task := some ((task.chargeAll (rows.charges ctx)).updateRuntime .completed
          (some last.oid) (some rows.checkpoint.oid))
        attempts := earlier ++ [last.setState .completed]
        steps := view.steps ++ rows.steps
        checkpoints := view.checkpoints ++ [rows.checkpoint]
        leases := view.leases ++ [rows.held, rows.released]
        charges := view.charges ++ rows.charges ctx } := by
  obtain ⟨hheld, hreleased⟩ := hw.leases_taskoid
  have hsteps := hw.steps_taskoid
  simp only [steps, List.forall_mem_cons] at hsteps
  rw [hattempts] at hnodup
  simp only [actions, List.foldl_cons, List.foldl_nil, TaskView.apply, hheld, hreleased, hsteps,
    hw.checkpoint_taskoid, if_true, htask, hattempts, ← hlast, map_setState_last hnodup,
    Option.map_some, List.append_assoc, List.cons_append, List.nil_append]
  rfl

lemma permitted (hw : rows.Written env ctx base) (htask : view.task = some task)
    (hp : view.PermitsAll ctx.taskoid (rows.actions ctx)) :
    task.Affords (rows.charges ctx) ∧ rows.checkpoint.oid ≠ invalidOid ∧
      rows.checkpoint.oid ∉ view.checkpoints.map CheckpointRow.oid := by
  have hheld := hw.leases_taskoid.1
  have hsteps := hw.steps_taskoid
  simp only [steps, List.forall_mem_cons] at hsteps
  simp only [actions, TaskView.PermitsAll, TaskView.Permits, TaskView.apply, hheld, hsteps,
    if_true, htask, Option.map_some, Option.some.injEq, exists_eq_left', true_and, and_true] at hp
  obtain ⟨-, ⟨htokens₁, hcost₁, -⟩, -, ⟨htokens₂, hcost₂, -⟩, -, ⟨htokens₃, hcost₃, -⟩, hfresh⟩ := hp
  exact ⟨⟨htokens₁, hcost₁, htokens₂, hcost₂, htokens₃, hcost₃, trivial⟩, hfresh⟩

end CompleteRows.Written

def TaskView.opened (view : TaskView) (task : TaskRow) (attempt : AttemptRow) (queue : QueueRow) :
    TaskView :=
  { view with
    task := some (task.updateRuntime .running (some attempt.oid) none)
    attempts := view.attempts ++ [attempt]
    queues := view.queues ++ [queue] }

def openActions (attempt : AttemptRow) (queue : QueueRow) : List Action :=
  [.insertAttempt attempt, .updateTaskRuntime attempt.taskoid .running (some attempt.oid) none,
    .insertSchedulerQueue queue]

lemma foldl_openActions (htask : view.task = some task) (hattempt : attempt.taskoid = taskoid)
    (hqueue : queue.taskoid = taskoid) :
    (openActions attempt queue).foldl (TaskView.apply taskoid) view =
      view.opened task attempt queue := by
  simp only [openActions, List.foldl_cons, List.foldl_nil, TaskView.apply, hattempt, hqueue,
    if_true, htask, Option.map_some, TaskView.opened]

lemma follows_of_permits (hseqno : attempt.seqno = wrapInt16 (last.seqno + 1))
    (hp : view.PermitsAll taskoid (openActions attempt queue)) :
    attempt.Follows last view :=
  ⟨hseqno, hp.1.1, hp.1.2.1, hp.1.2.2⟩

lemma checkResumable_returns {ownerid : Oid} {label : Option CString}
    {result : TaskRow × CheckpointRow}
    (h : (checkResumable env taskoid label ownerid).Returns s journal result) :
    journal = [] ∧ (s.catalog.view taskoid).task = some result.1 ∧
      env.directory.hasPrivsOfRole ownerid result.1.ownerid = true ∧
      result.1.state = .checkpointed ∧
      s.catalog.lookupCheckpointByOid result.1.lastcheckpointid = some result.2 := by
  unfold checkResumable at h
  replace h := returns_catalog_bind_iff.mp h
  obtain ⟨task, htask, h⟩ := returns_found_bind_iff.mp h
  obtain ⟨hprivs, h⟩ := returns_check_bind_iff.mp h
  obtain ⟨hstate, h⟩ := returns_check_bind_iff.mp h
  obtain ⟨-, h⟩ := returns_check_bind_iff.mp h
  obtain ⟨_, checkpoint, _, rfl, ⟨rfl, hcheckpoint⟩, h⟩ :=
    returns_bind_of lookupCheckpoint_returns h
  obtain ⟨-, h⟩ := returns_check_bind_iff.mp h
  obtain ⟨rfl, rfl⟩ := returns_pure_iff.mp h
  exact ⟨rfl, htask, hprivs, beq_iff_eq.mp hstate, hcheckpoint⟩

lemma lookupAttempt_of_mem (h : attempt ∈ (cat.view taskoid).attempts) :
    cat.lookupAttemptByOid attempt.oid = some attempt :=
  Table.find?_eq_some_iff.mpr ⟨(mem_view_attempts.mp h).1, rfl⟩

lemma TaskView.Current.last_mem (h : view.Current task earlier last) : last ∈ view.attempts := by
  rw [h.attempts_eq]
  exact List.mem_append_right _ (List.mem_singleton.mpr rfl)

lemma nextAttemptSeqno_returns {seqno : Int}
    (hcurrent : (s.catalog.view taskoid).Current task earlier last)
    (h : (nextAttemptSeqno task).Returns s journal seqno) :
    journal = [] ∧ seqno = wrapInt16 (last.seqno + 1) := by
  have hvalid : oidIsValid task.lastattemptid = true := by
    rw [hcurrent.last_eq]
    exact oidIsValid_of_mem_attempts (List.mem_map_of_mem hcurrent.last_mem)
  rw [nextAttemptSeqno, if_pos hvalid] at h
  obtain ⟨_, attempt, _, rfl, ⟨rfl, hattempt⟩, h⟩ := returns_bind_of lookupAttempt_returns h
  obtain ⟨rfl, rfl⟩ := returns_pure_iff.mp h
  rw [hcurrent.last_eq, lookupAttempt_of_mem hcurrent.last_mem] at hattempt
  obtain rfl := Option.some.inj hattempt
  exact ⟨rfl, rfl⟩

lemma CompleteRows.Written.bills {rows : CompleteRows} {base : Int} (hw : rows.Written env ctx base)
    (agents : Table AgentRow) :
    (env.inputs agents).Bills (rows.charges ctx) := by
  refine ⟨[_], _, _, rfl, ⟨_, rows.result, hw.result, rfl, rfl⟩, ?_, ?_, ?_⟩
  · simp
  · simp
  · simp

lemma TaskRow.chargeAll_updateRuntime (row : TaskRow) (charges : List Charge) (state : TaskState)
    (lastattemptid lastcheckpointid : Option Oid) :
    (row.updateRuntime state lastattemptid lastcheckpointid).chargeAll charges =
      (row.chargeAll charges).updateRuntime state lastattemptid lastcheckpointid := by
  induction charges generalizing row with
  | nil => rfl
  | cons charge charges ih => exact ih (row.charge charge.tokens charge.cost)

lemma TaskRow.affords_updateRuntime {row : TaskRow} {charges : List Charge} {state : TaskState}
    {lastattemptid lastcheckpointid : Option Oid} :
    (row.updateRuntime state lastattemptid lastcheckpointid).Affords charges ↔
      row.Affords charges := by
  induction charges generalizing row with
  | nil => rfl
  | cons charge charges ih =>
    exact and_congr Iff.rfl (and_congr Iff.rfl (@ih (row.charge charge.tokens charge.cost)))

/-- A task was completed by an attempt that follows another. -/
structure TaskView.Completes (view : TaskView) (last : AttemptRow) (view' : TaskView) : Prop where
  state : ∃ task, view'.task = some task ∧ task.state = .completed
  attempts : ∃ attempt, view'.attempts = view.attempts ++ [attempt] ∧
    attempt.seqno = wrapInt16 (last.seqno + 1)

lemma resume_complete {agents : Table AgentRow} {rows : CompleteRows} {checkpoint : CheckpointRow}
    (hcurrent : view.Current task earlier last) (hsound : view.Sound)
    (hstate : task.state = .checkpointed) (hcheckpoint : checkpoint ∈ view.checkpoints)
    (hpointer : checkpoint.oid = task.lastcheckpointid)
    (hseqno : attempt.seqno = wrapInt16 (last.seqno + 1)) (htask : attempt.taskoid = ctx.taskoid)
    (hattempt : attempt.oid = ctx.attemptoid) (hqueueTask : queue.taskoid = ctx.taskoid)
    (hqueue : queue.attemptoid = attempt.oid) (hw : rows.Written env ctx checkpoint.nextStepSeqno)
    (hp : view.PermitsAll ctx.taskoid (openActions attempt queue ++ rows.actions ctx)) :
    TaskStep (env.inputs agents) view
        ((openActions attempt queue ++ rows.actions ctx).foldl (TaskView.apply ctx.taskoid) view) ∧
      view.Completes last
        ((openActions attempt queue ++ rows.actions ctx).foldl (TaskView.apply ctx.taskoid)
          view) := by
  obtain ⟨hopen, hp⟩ := TaskView.permitsAll_append.mp hp
  have hfollows := follows_of_permits hseqno hopen
  rw [foldl_openActions hcurrent.task_eq htask hqueueTask] at hp
  rw [List.foldl_append, foldl_openActions hcurrent.task_eq htask hqueueTask]
  obtain ⟨hafford, hvalid, hfresh⟩ := hw.permitted rfl hp
  rw [hw.view_eq (view.opened task attempt queue) rfl rfl hattempt
    (nodup_map_concat hsound.attempts_nodup hfollows.fresh)]
  have hclosed : (attempt.setState .completed).Follows last view :=
    ⟨hfollows.seqno, hfollows.valid, hfollows.fresh, hfollows.unused⟩
  rw [TaskRow.chargeAll_updateRuntime]
  refine ⟨.resume hcurrent hstate hcheckpoint hpointer hclosed rfl hw.seqnos hvalid hfresh hqueue
    (hw.held.attemptoid.trans hattempt.symm) (hw.released.attemptoid.trans hattempt.symm)
    (TaskRow.affords_updateRuntime.mp hafford) (hw.bills agents), ⟨_, rfl, rfl⟩, ?_⟩
  exact ⟨attempt.setState .completed, rfl, hseqno⟩

lemma TaskView.Current.recovered {cat' : Catalog} {scope : Oid → Prop}
    (hrec : cat.Recovers scope cat') (h : (cat.view taskoid).Current task earlier last) :
    (cat'.view taskoid).Current task earlier last := by
  rw [hrec.view_eq taskoid]
  exact ⟨h.task_eq, h.attempts_eq, h.last_eq⟩

lemma mem_checkpoints_of_pointer {checkpoint : CheckpointRow} (hsound : (cat.view taskoid).Sound)
    (htask : (cat.view taskoid).task = some task) (hstate : task.state = .checkpointed)
    (h : cat.lookupCheckpointByOid task.lastcheckpointid = some checkpoint) :
    checkpoint ∈ (cat.view taskoid).checkpoints ∧ checkpoint.oid = task.lastcheckpointid := by
  obtain ⟨hmem, hoid⟩ := Table.find?_eq_some_iff.mp h
  obtain ⟨own, hown, hownOid⟩ := hsound.pointer task htask (hsound.checkpointed task htask hstate)
  have heq : own = checkpoint :=
    Table.eq_of_ident_eq (List.mem_filter.mp hown).1 hmem (hownOid.trans hoid.symm)
  exact ⟨heq ▸ hown, hoid⟩

lemma Moves.mem_opened (htask : (s.catalog.view taskoid).task = some task)
    (hattempt : attempt.taskoid = taskoid) (hqueue : queue.taskoid = taskoid)
    (h : Moves s taskoid (openActions attempt queue)) :
    attempt.oid ∈ ((replay s (openActions attempt queue)).catalog.view taskoid).attempts.map
      AttemptRow.oid := by
  rw [h.self, foldl_openActions htask hattempt hqueue]
  exact List.mem_map_of_mem (List.mem_append_right _ (List.mem_singleton.mpr rfl))

/-- A resumed task was checkpointed, and its next attempt completes it. -/
structure Resumes (env : Env) (s : Backend) (taskoid ownerid : Oid) (agents : Table AgentRow)
    (journal : List Action) : Prop where
  stages : RecoversThenEvolves env ownerid (env.inputs agents) s journal taskoid
  completes : ∃ task earlier last, (s.catalog.view taskoid).Current task earlier last ∧
    task.state = .checkpointed ∧
    (s.catalog.view taskoid).Completes last ((replay s journal).catalog.view taskoid)

theorem qxRuntimeResumeTask_returns (agents : Table AgentRow) {ownerid result : Oid}
    {label : Option CString} (hcat : s.catalog.Sound)
    (h : (qxRuntimeResumeTask env taskoid label ownerid).Returns s journal result) :
    Resumes env s taskoid ownerid agents journal := by
  dsimp only [qxRuntimeResumeTask] at h
  obtain ⟨_, ⟨task, checkpoint⟩, _, rfl, ⟨rfl, htask, -, hstate, hcheckpoint⟩, h⟩ :=
    returns_bind_of checkResumable_returns h
  obtain rfl : task.oid = taskoid := taskoid_of_lookup htask
  obtain ⟨earlier, last, hcurrent⟩ := (hcat task.oid).current task htask
  obtain ⟨hmem, hpointer⟩ := mem_checkpoints_of_pointer (hcat task.oid) htask hstate hcheckpoint
  obtain ⟨_, seqno, _, rfl, ⟨rfl, rfl⟩, h⟩ := returns_bind_of (nextAttemptSeqno_returns hcurrent) h
  obtain ⟨-, h⟩ := returns_check_bind_iff.mp h
  obtain ⟨scanned, _, _, rfl, hstartup, h⟩ := returns_bind_of id h
  have hscan := qxRuntimeEnsureStartupRecoveryScan_recovers hcat hstartup
  obtain ⟨_, attemptoid, _, rfl, ⟨attempt, rfl, rfl, hm₁⟩, h⟩ :=
    returns_bind_of insertAttempt_returns h
  obtain ⟨_, _, _, rfl, ⟨rfl, hm₂⟩, h⟩ := returns_bind_of updateTaskRuntime_returns h
  replace h := returns_catalog_bind_iff.mp h
  obtain ⟨_, queueoid, _, rfl, ⟨queue, hqueue, rfl, -, hm₃⟩, h⟩ :=
    returns_bind_of insertSchedulerQueue_returns h
  have hqueueTask : queue.taskoid = task.oid := by
    rw [hqueue]
    rfl
  have hopen := hm₁.append (hm₂.append hm₃)
  change Moves (replay s scanned) task.oid (openActions _ queue) at hopen
  have hcurrent₁ := hcurrent.recovered hscan
  have hmem₁ : checkpoint ∈ ((replay s scanned).catalog.view task.oid).checkpoints := by
    rw [hscan.view_eq]
    exact hmem
  obtain ⟨_, _, _, rfl, ⟨rows, hrows, rfl, hm₄⟩, h⟩ := returns_bind_of (completeAttempt_returns
    ⟨rfl, rfl, rfl⟩ (hopen.mem_opened hcurrent₁.task_eq rfl hqueueTask)) h
  obtain ⟨rfl, rfl⟩ := returns_pure_iff.mp h
  have hm := hopen.append hm₄
  obtain ⟨hstep, hcompletes⟩ := resume_complete hcurrent₁ (hscan.sound hcat task.oid) hstate hmem₁
    hpointer rfl rfl rfl hqueueTask (by rw [hqueue]; rfl) hrows hm.permitted
  rw [← hm.self, ← replay_append] at hcompletes
  refine ⟨⟨scanned, hstartup, ?_⟩, task, earlier, last, hcurrent, hstate, hcompletes.state, ?_⟩
  · rw [List.nil_append, List.nil_append, replay_append]
    exact ⟨hm.evolves (.single hstep), hm.snapshot, hm.other, List.prefix_append _ _⟩
  · have hattempts := hcompletes.attempts
    rw [hscan.view_eq] at hattempts
    exact hattempts

end QhapaqXian
