import QhapaqXian.Proofs.Recovery
import QhapaqXian.Runtime

/-!
# Dispatching an attempt

The statements that open, capture and complete an attempt, as steps in the life of its task.
-/

namespace QhapaqXian

open Library Script Txn

variable {env : Env} {s : Backend} {journal : List Action}
variable {ctx : AttemptContext} {last : AttemptRow} {rows : CaptureRows} {base : Int}
  {earlier : List AttemptRow} {taskoid : Oid} {agents : Table AgentRow} {request : TaskRequest}
  {task : TaskRow}

lemma holdLease_returns {envelope : TaskEnvelope} {queueoid : Oid} {workerName : CString}
    {lease : LeaseRow} (h : (holdLease env envelope queueoid workerName).Returns s journal lease) :
    lease = qxSchedulerLeaseSnapshotFromEnvelope env.now envelope invalidOid workerName ∧
      ∃ row beat, row.IsFor envelope.attemptoid envelope.ownerid .held ∧
        row.taskoid = envelope.taskoid ∧
        journal = [.insertSchedulerLease row, .insertSchedulerHeartbeat beat] ∧
        Moves s envelope.taskoid journal := by
  dsimp only [holdLease] at h
  simp only [returns_bind_iff, returns_pure_iff] at h
  obtain ⟨first, leaseoid, rest, hlease, ⟨second, u, rest, hbeat, ⟨rfl, rfl⟩, rfl⟩, rfl⟩ := h
  obtain ⟨row, rfl, rfl, -, hmoves⟩ := insertSchedulerLease_returns hlease
  obtain ⟨beat, -, rfl, hunseen⟩ := insertSchedulerHeartbeat_returns hbeat
  exact ⟨rfl, _, beat, ⟨rfl, rfl, rfl⟩, rfl, rfl, hmoves.append (hunseen _)⟩

lemma releaseLease_returns {queueoid : Oid} {lease : LeaseRow} {u : Unit}
    (h : (releaseLease env queueoid lease).Returns s journal u) :
    ∃ row beat, row.IsFor lease.attemptoid lease.ownerid .released ∧
      row.taskoid = lease.taskoid ∧
      journal = [.insertSchedulerLease row, .insertSchedulerHeartbeat beat,
        .reportSchedulerEvent .release] ∧
      Moves s lease.taskoid journal := by
  dsimp only [releaseLease] at h
  obtain ⟨_, leaseoid, _, rfl, ⟨row, rfl, rfl, -, hmoves⟩, h⟩ :=
    returns_bind_of insertSchedulerLease_returns h
  obtain ⟨_, _, _, rfl, ⟨beat, -, rfl, hunseen⟩, h⟩ :=
    returns_bind_of insertSchedulerHeartbeat_returns h
  obtain ⟨rfl, hsilent⟩ := reportSchedulerEvent_returns h
  refine ⟨_, beat, ?_, ?_, rfl, hmoves.append ((hunseen _).append (hsilent _))⟩
  · exact ⟨rfl, rfl, rfl⟩
  · rfl

lemma qxExecuteToolContract_returns {contract : Option CString} {phase : ToolPhase}
    {goal : Option CString} {inputPresent : Bool} {result : ToolResult}
    (h : (qxExecuteToolContract env contract phase taskoid goal inputPresent).Returns s journal
      result) :
    ∃ chosen, contract = some chosen ∧
      env.tool ⟨taskoid, phase, chosen, goal, inputPresent⟩ = .ok result ∧
      journal = [.executeToolContract taskoid phase chosen] ∧
      ∀ other, Moves s other journal := by
  unfold qxExecuteToolContract at h
  simp only [returns_found_bind_iff, returns_record_bind_iff, returns_ofExcept_iff] at h
  obtain ⟨chosen, hchosen, rest, ⟨rfl, hresult⟩, rfl⟩ := h
  exact ⟨chosen, hchosen, hresult, rfl, fun other => moves_of_unseen trivial trivial⟩

/-- The envelope of an attempt names the attempt. -/
structure AttemptContext.Consistent (ctx : AttemptContext) : Prop where
  taskoid : ctx.envelope.taskoid = ctx.taskoid
  attemptoid : ctx.envelope.attemptoid = ctx.attemptoid
  ownerid : ctx.envelope.ownerid = ctx.ownerid

/-- What the capture of an attempt writes and what its tool reports. -/
structure CaptureRows where
  held : LeaseRow
  holdBeat : HeartbeatRow
  dispatchTrace : TraceRow
  authorize : StepRow
  submit : StepRow
  submitTrace : TraceRow
  input : StepRow
  barrier : StepRow
  barrierTrace : TraceRow
  checkpoint : CheckpointRow
  released : LeaseRow
  releaseBeat : HeartbeatRow
  contract : CString
  result : ToolResult

namespace CaptureRows

def charges (rows : CaptureRows) (ctx : AttemptContext) : List Charge :=
  [⟨ctx.taskoid, rows.result.tokenCharge, rows.result.costCharge, "external_submit"⟩,
    ⟨ctx.taskoid, if ctx.inputPresent then 24 else 8, 13, "capture_input"⟩,
    ⟨ctx.taskoid, 4, 14, "checkpoint_barrier"⟩]

def steps (rows : CaptureRows) : List StepRow :=
  [rows.authorize, rows.submit, rows.input, rows.barrier]

def actions (rows : CaptureRows) (ctx : AttemptContext) : List Action :=
  [.insertSchedulerLease rows.held, .insertSchedulerHeartbeat rows.holdBeat,
    .insertTrace rows.dispatchTrace, .insertStep rows.authorize, .insertStep rows.submit,
    .executeToolContract ctx.taskoid .submit rows.contract,
    .chargeTaskBudget ⟨ctx.taskoid, rows.result.tokenCharge, rows.result.costCharge,
      "external_submit"⟩,
    .insertTrace rows.submitTrace, .insertStep rows.input,
    .chargeTaskBudget ⟨ctx.taskoid, if ctx.inputPresent then 24 else 8, 13, "capture_input"⟩,
    .insertStep rows.barrier, .chargeTaskBudget ⟨ctx.taskoid, 4, 14, "checkpoint_barrier"⟩,
    .insertTrace rows.barrierTrace, .insertCheckpoint rows.checkpoint,
    .updateAttemptState ctx.attemptoid .checkpointed,
    .updateTaskRuntime ctx.taskoid .checkpointed (some ctx.attemptoid) (some rows.checkpoint.oid),
    .insertSchedulerLease rows.released, .insertSchedulerHeartbeat rows.releaseBeat,
    .reportSchedulerEvent .release]

structure Written (rows : CaptureRows) (env : Env) (ctx : AttemptContext) (base : Int) : Prop where
  held : rows.held.IsFor ctx.attemptoid ctx.ownerid .held
  released : rows.released.IsFor ctx.attemptoid ctx.ownerid .released
  leases_taskoid : rows.held.taskoid = ctx.taskoid ∧ rows.released.taskoid = ctx.taskoid
  steps_taskoid : ∀ step ∈ rows.steps, step.taskoid = ctx.taskoid
  seqnos : rows.steps.map StepRow.seqno =
    [wrapInt16 (base + 1), wrapInt16 (base + 2), wrapInt16 (base + 3), wrapInt16 (base + 4)]
  checkpoint_taskoid : rows.checkpoint.taskoid = ctx.taskoid
  next : rows.checkpoint.nextStepSeqno = wrapInt16 (base + 5)
  contract : ctx.contract = some rows.contract
  result :
    env.tool ⟨ctx.taskoid, .submit, rows.contract, ctx.goal, ctx.inputPresent⟩ = .ok rows.result

end CaptureRows

/-- The tasks that the agents of a database admit and the reports of the tools of a transaction. -/
def Env.inputs (env : Env) (agents : Table AgentRow) : Inputs where
  admits row := ∃ agent policy, agents.find? row.agentoid = some agent ∧
    qxBudgetPolicyFromDefList agent.budget = .ok policy ∧
    (policy.hasTokenLimit = true → row.budgetTokens = policy.tokenLimit) ∧
    (policy.hasCostLimit = true → row.budgetCost = policy.costLimit) ∧
    0 ≤ row.budgetTokens ∧ 0 ≤ row.budgetCost
  reports charge := ∃ call result, env.tool call = .ok result ∧
    charge.tokens = result.tokenCharge ∧ charge.cost = result.costCharge

theorem captureAttempt_returns {ctx : DispatchedAttempt} {u : Unit} (hctx : ctx.Consistent)
    (hattempt : ctx.attemptoid ∈ (s.catalog.view ctx.taskoid).attempts.map AttemptRow.oid)
    (h : (captureAttempt env ctx base).Returns s journal u) :
    ∃ rows : CaptureRows, rows.Written env ctx.toAttemptContext base ∧
      journal = rows.actions ctx.toAttemptContext ∧ Moves s ctx.taskoid journal := by
  unfold captureAttempt qxSchedulerAppendRuntimePayload insertDispatchTrace at h
  obtain ⟨-, h⟩ := returns_check_bind_iff.mp h
  obtain ⟨_, lease, _, rfl, ⟨rfl, held, holdBeat, hheld, hheldTask, rfl, hm₁⟩, h⟩ :=
    returns_bind_of holdLease_returns h
  rw [hctx.taskoid] at hheldTask hm₁
  obtain ⟨_, _, _, rfl, ⟨trace₁, rfl, hm₂⟩, h⟩ := returns_bind_of insertTrace_moves h
  obtain ⟨_, _, _, rfl, ⟨step₁, hk₁, hs₁, rfl, hm₃⟩, h⟩ := returns_bind_of insertStep_returns h
  obtain ⟨_, _, _, rfl, ⟨step₂, hk₂, hs₂, rfl, hm₄⟩, h⟩ := returns_bind_of insertStep_returns h
  obtain ⟨_, result, _, rfl, ⟨contract, hcontract, hresult, rfl, hm₅⟩, h⟩ :=
    returns_bind_of qxExecuteToolContract_returns h
  obtain ⟨_, _, _, rfl, ⟨rfl, hm₆⟩, h⟩ := returns_bind_of chargeTaskBudget_returns h
  obtain ⟨_, _, _, rfl, ⟨trace₂, rfl, hm₇⟩, h⟩ := returns_bind_of insertTrace_moves h
  obtain ⟨_, _, _, rfl, ⟨step₃, hk₃, hs₃, rfl, hm₈⟩, h⟩ := returns_bind_of insertStep_returns h
  obtain ⟨_, _, _, rfl, ⟨rfl, hm₉⟩, h⟩ := returns_bind_of chargeTaskBudget_returns h
  obtain ⟨_, _, _, rfl, ⟨step₄, hk₄, hs₄, rfl, hm₁₀⟩, h⟩ := returns_bind_of insertStep_returns h
  obtain ⟨_, _, _, rfl, ⟨rfl, hm₁₁⟩, h⟩ := returns_bind_of chargeTaskBudget_returns h
  obtain ⟨_, _, _, rfl, ⟨trace₃, rfl, hm₁₂⟩, h⟩ := returns_bind_of insertTrace_moves h
  obtain ⟨_, _, _, rfl, ⟨checkpoint, rfl, htask, hnext, rfl, hm₁₃⟩, h⟩ :=
    returns_bind_of insertCheckpoint_returns h
  have hkept := (hm₁.append ((hm₂ _).append (hm₃.append (hm₄.append ((hm₅ _).append (hm₆.append
    ((hm₇ _).append (hm₈.append (hm₉.append (hm₁₀.append (hm₁₁.append ((hm₁₂ _).append
      hm₁₃)))))))))))).mem_attempts rfl hattempt
  simp only [replay_append] at hkept
  obtain ⟨_, _, _, rfl, ⟨rfl, hm₁₄⟩, h⟩ := returns_bind_of (updateAttemptState_returns hkept) h
  obtain ⟨_, _, _, rfl, ⟨rfl, hm₁₅⟩, h⟩ := returns_bind_of updateTaskRuntime_returns h
  obtain ⟨released, releaseBeat, hreleased, hreleasedTask, rfl, hm₁₆⟩ := releaseLease_returns h
  have hsame := hctx.taskoid
  refine ⟨⟨held, holdBeat, trace₁, step₁, step₂, trace₂, step₃, step₄, trace₃, checkpoint, released,
    releaseBeat, contract, result⟩, ?_, rfl, ?_⟩
  · exact {
      held := hctx.attemptoid ▸ hctx.ownerid ▸ hheld
      released := hctx.attemptoid ▸ hctx.ownerid ▸ hreleased
      leases_taskoid := ⟨hheldTask, hreleasedTask.trans hsame⟩
      steps_taskoid := by simp [CaptureRows.steps, hk₁, hk₂, hk₃, hk₄]
      seqnos := by simp [CaptureRows.steps, hs₁, hs₂, hs₃, hs₄]
      checkpoint_taskoid := htask
      next := hnext
      contract := hcontract
      result := hresult }
  · exact hm₁.append ((hm₂ _).append (hm₃.append (hm₄.append ((hm₅ _).append (hm₆.append
      ((hm₇ _).append (hm₈.append (hm₉.append (hm₁₀.append (hm₁₁.append ((hm₁₂ _).append
        (hm₁₃.append (hm₁₄.append (hm₁₅.append (hsame ▸ hm₁₆)))))))))))))))

lemma map_setState_last (hnodup : ((earlier ++ [last]).map AttemptRow.oid).Nodup)
    (state : AttemptState) :
    ((earlier ++ [last]).map fun row =>
      if row.oid = last.oid then row.setState state else row) =
      earlier ++ [last.setState state] := by
  rw [List.map_append, List.map_singleton, if_pos rfl]
  congr 1
  refine Table.rows_modify_of_notMem fun row hrow hoid => ?_
  rw [List.map_append, List.nodup_append] at hnodup
  exact hnodup.2.2 _ (List.mem_map_of_mem hrow) _ (List.mem_singleton.mpr rfl) hoid

lemma CaptureRows.Written.view_eq (hw : rows.Written env ctx base) (view : TaskView)
    (htask : view.task = some task) (hattempts : view.attempts = earlier ++ [last])
    (hlast : last.oid = ctx.attemptoid) (hnodup : (view.attempts.map AttemptRow.oid).Nodup) :
    (rows.actions ctx).foldl (TaskView.apply ctx.taskoid) view =
      { view with
        task := some ((task.chargeAll (rows.charges ctx)).updateRuntime .checkpointed
          (some last.oid) (some rows.checkpoint.oid))
        attempts := earlier ++ [last.setState .checkpointed]
        steps := view.steps ++ rows.steps
        checkpoints := view.checkpoints ++ [rows.checkpoint]
        leases := view.leases ++ [rows.held, rows.released]
        charges := view.charges ++ rows.charges ctx } := by
  obtain ⟨hheld, hreleased⟩ := hw.leases_taskoid
  have hsteps := hw.steps_taskoid
  simp only [steps, List.forall_mem_cons] at hsteps
  rw [hattempts] at hnodup
  simp only [actions, List.foldl_cons, List.foldl_nil, TaskView.apply, hheld, hreleased, hsteps,
    hw.checkpoint_taskoid, if_true, htask, hattempts, ← hlast, map_setState_last hnodup,
    Option.map_some, List.append_assoc, List.cons_append, List.nil_append]
  rfl

lemma CaptureRows.Written.permitted (hw : rows.Written env ctx base) {view : TaskView}
    (htask : view.task = some task) (hp : view.PermitsAll ctx.taskoid (rows.actions ctx)) :
    task.Affords (rows.charges ctx) ∧ (rows.checkpoint.oid ≠ invalidOid ∧
      rows.checkpoint.oid ∉ view.checkpoints.map CheckpointRow.oid) ∧
      ∀ step ∈ rows.steps, step.seqno ∉ view.steps.map StepRow.seqno := by
  have hheld := hw.leases_taskoid.1
  have hsteps := hw.steps_taskoid
  simp only [steps, List.forall_mem_cons] at hsteps
  simp only [actions, TaskView.PermitsAll, TaskView.Permits, TaskView.apply, hheld, hsteps,
    if_true, htask, Option.map_some, Option.some.injEq, exists_eq_left', true_and, and_true,
    List.map_append, List.mem_append, not_or] at hp
  obtain ⟨hfree₁, hfree₂, ⟨htokens₁, hcost₁, -⟩, hfree₃, ⟨htokens₂, hcost₂, -⟩, hfree₄,
    ⟨htokens₃, hcost₃, -⟩, hfresh⟩ := hp
  refine ⟨⟨htokens₁, hcost₁, htokens₂, hcost₂, htokens₃, hcost₃, trivial⟩, hfresh, ?_⟩
  simp only [steps, List.forall_mem_cons]
  exact ⟨hfree₁, hfree₂.1, hfree₃.1.1, hfree₄.1.1.1, fun _ h => absurd h List.not_mem_nil⟩

/-- What the admission of a task writes. -/
structure AdmitRows where
  task : TaskRow
  attempt : AttemptRow
  queue : QueueRow
  step : StepRow

namespace AdmitRows

def actions (rows : AdmitRows) (ctx : AttemptContext) : List Action :=
  [.insertTask rows.task, .insertAttempt rows.attempt, .insertSchedulerQueue rows.queue,
    .updateTaskRuntime ctx.taskoid .running (some ctx.attemptoid) none, .insertStep rows.step]

structure Written (rows : AdmitRows) (request : TaskRequest) (ctx : AttemptContext) : Prop where
  task : rows.task = { request.toRow with oid := ctx.taskoid }
  attempt : rows.attempt.oid = ctx.attemptoid ∧ rows.attempt.taskoid = ctx.taskoid
  seqno : rows.attempt.seqno = 1
  running : rows.attempt.state = .running
  owner : rows.attempt.ownerid = request.ownerid
  queue : rows.queue.IsFor ctx.attemptoid request.ownerid rows.task.dispatchKind .dispatch
  queue_taskoid : rows.queue.taskoid = ctx.taskoid
  step : rows.step.taskoid = ctx.taskoid ∧ rows.step.seqno = 1

end AdmitRows

lemma budgets_of_contract {envelope : TaskEnvelope}
    (h : qxSchedulerRuntimeContractIsValid envelope = true) :
    0 ≤ envelope.budgetTokens ∧ 0 ≤ envelope.budgetCost := by
  simp only [qxSchedulerRuntimeContractIsValid, Bool.and_eq_true, decide_eq_true_eq] at h
  exact ⟨h.1.1.1.2, h.1.1.2⟩

theorem admitTask_returns {contract label : Option CString} {ctx : DispatchedAttempt}
    (h : (admitTask env request contract label).Returns s journal ctx) :
    ctx.Consistent ∧ ctx.ownerid = request.ownerid ∧ ctx.contract = contract ∧
      (0 ≤ request.budgetTokens ∧ 0 ≤ request.budgetCost) ∧ ctx.taskoid ∉ s.catalog.taskOids ∧
      ∃ rows : AdmitRows, rows.Written request ctx.toAttemptContext ∧
        journal = rows.actions ctx.toAttemptContext ∧ Moves s ctx.taskoid journal := by
  dsimp only [admitTask, qxSchedulerAppendRuntimePayload] at h
  obtain ⟨_, taskoid, _, rfl, ⟨hfresh, task, htask, rfl, hm₁⟩, h⟩ :=
    returns_bind_of insertTask_returns h
  obtain ⟨_, attemptoid, _, rfl, ⟨attempt, hattempt, rfl, hm₂⟩, h⟩ :=
    returns_bind_of insertAttempt_returns h
  obtain ⟨agent, -, h⟩ := returns_found_bind_iff.mp (returns_catalog_bind_iff.mp h)
  obtain ⟨_, queueoid, _, rfl, ⟨queue, hqueue, rfl, -, hm₃⟩, h⟩ :=
    returns_bind_of insertSchedulerQueue_returns h
  obtain ⟨hcontract, h⟩ := returns_check_bind_iff.mp h
  obtain ⟨_, _, _, rfl, ⟨rfl, hm₄⟩, h⟩ := returns_bind_of updateTaskRuntime_returns h
  obtain ⟨_, _, _, rfl, ⟨step, hstep, hseqno, rfl, hm₅⟩, h⟩ :=
    returns_bind_of insertStep_returns h
  obtain ⟨rfl, rfl⟩ := returns_pure_iff.mp h
  refine ⟨⟨rfl, rfl, rfl⟩, rfl, rfl, budgets_of_contract hcontract, hfresh,
    ⟨task, attempt, queue, step⟩, ?_, rfl,
    hm₁.append (hm₂.append (hm₃.append (hm₄.append hm₅)))⟩
  refine ⟨htask, ?_, ?_, ?_, ?_, ?_, ?_, hstep, hseqno⟩
  · exact ⟨by rw [hattempt], by rw [hattempt]⟩
  · rw [hattempt]
  · rw [hattempt]
  · rw [hattempt]
  · rw [hqueue, htask]
    exact ⟨rfl, rfl, rfl, rfl⟩
  · rw [hqueue]
    rfl

lemma AdmitRows.Written.view_eq {rows : AdmitRows} (hw : rows.Written request ctx) :
    (rows.actions ctx).foldl (TaskView.apply ctx.taskoid) .empty =
      ⟨some (rows.task.updateRuntime .running (some rows.attempt.oid) none), [rows.attempt],
        [rows.step], [], [rows.queue], [], []⟩ := by
  have htask : rows.task.oid = ctx.taskoid := by rw [hw.task]
  simp only [actions, List.foldl_cons, List.foldl_nil, TaskView.apply, TaskView.empty, htask,
    hw.attempt, hw.queue_taskoid, hw.step, if_true, Option.map_some, List.nil_append]

lemma AdmitRows.Written.admits {rows : AdmitRows} (hw : rows.Written request ctx)
    (h : (env.inputs agents).admits request.toRow) :
    (env.inputs agents).admits
      (rows.task.updateRuntime .running (some rows.attempt.oid) none) := by
  rw [hw.task]
  exact h

lemma AdmitRows.Written.launch {inputs : Inputs} {rows : AdmitRows} {request : TaskRequest}
    {ctx : AttemptContext} (hw : rows.Written request ctx)
    (hadmits : inputs.admits (rows.task.updateRuntime .running (some rows.attempt.oid) none))
    (hvalid : rows.attempt.oid ≠ invalidOid) {held : LeaseRow}
    (hheld : held.IsFor ctx.attemptoid request.ownerid .held) :
    TaskStep inputs .empty ⟨some (rows.task.updateRuntime .running (some rows.attempt.oid) none),
      [rows.attempt], [rows.step], [], [rows.queue], [held], []⟩ := by
  have howner : rows.task.ownerid = request.ownerid := by
    rw [hw.task]
    rfl
  refine .launch hadmits rfl rfl ?_ ?_ hw.seqno hvalid hw.running (hw.owner.trans howner.symm)
    hw.step.2 ?_ ?_
  · rw [hw.task]
    rfl
  · rw [hw.task]
    exact ⟨rfl, rfl⟩
  · rw [hw.attempt.1]
    exact ⟨hw.queue.attemptoid, hw.queue.ownerid.trans howner.symm, hw.queue.queueKind,
      hw.queue.origin⟩
  · rw [hw.attempt.1]
    exact ⟨hheld.attemptoid, hheld.ownerid.trans howner.symm, hheld.state⟩

lemma view_eq_empty {cat : Catalog} (hcat : cat.Sound) (h : taskoid ∉ cat.taskOids) :
    cat.view taskoid = .empty :=
  (hcat taskoid).orphans (Table.find?_eq_none_iff.mpr h)

lemma Moves.evolves {inputs : Inputs} (h : Moves s taskoid journal)
    (hrun : Relation.ReflTransGen (TaskStep inputs) (s.catalog.view taskoid)
      (journal.foldl (TaskView.apply taskoid) (s.catalog.view taskoid))) :
    s.catalog.Evolves inputs (replay s journal).catalog := by
  intro other
  by_cases hother : other = taskoid
  · subst hother
    rw [h.self]
    exact hrun
  · rw [h.other other hother]

lemma TaskRow.affords_append {row : TaskRow} {first second : List Charge} :
    row.Affords (first ++ second) ↔ row.Affords first ∧ (row.chargeAll first).Affords second := by
  induction first generalizing row with
  | nil => simp [TaskRow.Affords, TaskRow.chargeAll]
  | cons charge charges ih =>
    simp only [List.cons_append, TaskRow.Affords, ih, and_assoc]
    rfl

lemma CaptureRows.Written.numberedFrom (hw : rows.Written env ctx base) :
    NumberedFrom (base + 1) rows.steps := by
  have hfour : List.range rows.steps.length = [0, 1, 2, 3] := rfl
  rw [NumberedFrom, hw.seqnos, hfour]
  simp only [List.map_cons, List.map_nil, Int.add_assoc]
  rfl

lemma CaptureRows.Written.capture {inputs : Inputs} {rows : CaptureRows} {ctx : AttemptContext} {base : Int}
    (hw : rows.Written env ctx base) (view : TaskView) (steps : List StepRow)
    (charges : List Charge) {task : TaskRow} {earlier : List AttemptRow} {last : AttemptRow}
    (hcurrent : view.Current task earlier last) (hlast : last.oid = ctx.attemptoid)
    (howner : task.ownerid = ctx.ownerid) (hstate : task.state = .running)
    (hrunning : last.state = .running) (hnodup : (view.attempts.map AttemptRow.oid).Nodup)
    (hsteps : NumberedFrom view.nextStep (steps ++ rows.steps))
    (hnext : wrapInt16 (base + 5) = wrapInt16 (view.nextStep + (steps ++ rows.steps).length))
    (hcharges : task.Affords charges) (hbills : inputs.Bills (charges ++ rows.charges ctx))
    (hp : TaskView.PermitsAll ctx.taskoid
      { view with
        task := some (task.chargeAll charges)
        steps := view.steps ++ steps
        charges := view.charges ++ charges } (rows.actions ctx)) :
    TaskStep inputs { view with leases := view.leases ++ [rows.held] }
      ((rows.actions ctx).foldl (TaskView.apply ctx.taskoid)
        { view with
          task := some (task.chargeAll charges)
          steps := view.steps ++ steps
          charges := view.charges ++ charges }) := by
  obtain ⟨hafford, ⟨hvalid, hfresh⟩, -⟩ := hw.permitted rfl hp
  rw [hw.view_eq
    { view with
      task := some (task.chargeAll charges)
      steps := view.steps ++ steps
      charges := view.charges ++ charges } rfl hcurrent.attempts_eq hlast hnodup]
  have hcapture : TaskStep inputs { view with leases := view.leases ++ [rows.held] }
      { view with
        task := some ((task.chargeAll (charges ++ rows.charges ctx)).updateRuntime .checkpointed
          (some last.oid) (some rows.checkpoint.oid))
        attempts := earlier ++ [last.setState .checkpointed]
        steps := view.steps ++ (steps ++ rows.steps)
        checkpoints := view.checkpoints ++ [rows.checkpoint]
        leases := view.leases ++ [rows.held] ++ [rows.released]
        charges := view.charges ++ (charges ++ rows.charges ctx) } := by
    refine .capture ⟨hcurrent.task_eq, hcurrent.attempts_eq, hcurrent.last_eq⟩ hstate hrunning hsteps
      (hw.next.trans hnext) hvalid hfresh ?_ (TaskRow.affords_append.mpr ⟨hcharges, hafford⟩) hbills
    rw [hlast, howner]
    exact hw.released
  simp only [TaskRow.chargeAll, List.foldl_append, List.append_assoc, List.singleton_append]
    at hcapture ⊢
  exact hcapture

lemma AdmitRows.Written.attempt_valid {rows : AdmitRows} (hw : rows.Written request ctx)
    (hp : TaskView.empty.PermitsAll ctx.taskoid (rows.actions ctx)) :
    rows.attempt.oid ≠ invalidOid := by
  have htask : rows.task.oid = ctx.taskoid := by rw [hw.task]
  simp only [actions, TaskView.PermitsAll, TaskView.Permits, true_and] at hp
  exact hp.1.1

lemma CaptureRows.Written.bills (hw : rows.Written env ctx base) (agents : Table AgentRow)
    {first : Charge} (htokens : 0 ≤ first.tokens ∧ first.tokens ≤ 16)
    (hcost : 0 ≤ first.cost ∧ first.cost ≤ 17) :
    (env.inputs agents).Bills ([first] ++ rows.charges ctx) := by
  refine ⟨[first], _, _, rfl, ⟨_, rows.result, hw.result, rfl, rfl⟩, ?_, ?_, ?_⟩
  · simp only [List.cons_append, List.nil_append, List.forall_mem_cons, List.not_mem_nil]
    refine ⟨⟨htokens.1, hcost.1⟩, ⟨?_, by omega⟩, ⟨by omega, by omega⟩, nofun⟩
    split <;> omega
  · simp only [List.cons_append, List.nil_append, List.map_cons, List.map_nil, List.sum_cons,
      List.sum_nil]
    split <;> omega
  · simp only [List.cons_append, List.nil_append, List.map_cons, List.map_nil, List.sum_cons,
      List.sum_nil]
    omega

lemma admit_capture
    {admission : AdmitRows} (hcat : s.catalog.Sound) (hadmission : admission.Written request ctx)
    (hrows : rows.Written env ctx 1) (howner : ctx.ownerid = request.ownerid)
    (hfresh : ctx.taskoid ∉ s.catalog.taskOids)
    (hadmits : (env.inputs agents).admits request.toRow) {charge : Charge}
    (hcharge : charge.taskoid = ctx.taskoid) (htokens : 0 ≤ charge.tokens ∧ charge.tokens ≤ 16)
    (hcost : 0 ≤ charge.cost ∧ charge.cost ≤ 17)
    (hm : Moves s ctx.taskoid
      (admission.actions ctx ++ ([.chargeTaskBudget charge] ++ rows.actions ctx))) :
    s.catalog.Evolves (env.inputs agents)
      (replay s (admission.actions ctx ++ ([.chargeTaskBudget charge] ++ rows.actions ctx))).catalog := by
  have hempty := view_eq_empty hcat hfresh
  obtain ⟨hp₁, hp⟩ := TaskView.permitsAll_append.mp (hempty ▸ hm.permitted)
  obtain ⟨hp₂, hp₃⟩ := TaskView.permitsAll_append.mp hp
  have hvalid := hadmission.attempt_valid hp₁
  rw [hadmission.view_eq] at hp₂ hp₃
  refine hm.evolves ?_
  rw [hempty, List.foldl_append, List.foldl_append, hadmission.view_eq]
  simp only [List.foldl_cons, List.foldl_nil, TaskView.apply, hcharge, if_true, Option.map_some,
    List.nil_append] at hp₃ ⊢
  obtain ⟨⟨task, htask, hafford⟩, -⟩ := hp₂
  obtain rfl := Option.some.inj htask
  have hheld : rows.held.IsFor ctx.attemptoid request.ownerid .held := howner ▸ hrows.held
  refine .head (hadmission.launch (hadmission.admits hadmits) hvalid hheld) (.single ?_)
  have htaskOwner : admission.task.ownerid = ctx.ownerid := by
    rw [hadmission.task, howner]
    rfl
  have hnext : (TaskView.mk (some (admission.task.updateRuntime .running (some admission.attempt.oid) none))
      [admission.attempt] [admission.step] [] [admission.queue] [] []).nextStep = 1 + 1 := by
    simp [TaskView.nextStep, hadmission.step.2]
  refine hrows.capture ⟨_, [admission.attempt], [admission.step], [], [admission.queue], [], []⟩ [] [charge]
    (⟨rfl, rfl, rfl⟩ : TaskView.Current _ _ [] admission.attempt) hadmission.attempt.1 htaskOwner rfl
    hadmission.running (List.nodup_singleton _) ?_ ?_ hafford ?_ hp₃
  · rw [hnext]
    exact hrows.numberedFrom
  · rw [hnext]
    rfl
  · exact hrows.bills agents htokens hcost

lemma AdmitRows.Written.attempt_mem {rows : AdmitRows} (hcat : s.catalog.Sound)
    (hw : rows.Written request ctx) (hfresh : ctx.taskoid ∉ s.catalog.taskOids)
    (hm : Moves s ctx.taskoid (rows.actions ctx)) :
    ctx.attemptoid ∈ ((replay s (rows.actions ctx)).catalog.view ctx.taskoid).attempts.map
      AttemptRow.oid := by
  rw [hm.self, view_eq_empty hcat hfresh, hw.view_eq]
  exact List.mem_singleton.mpr hw.attempt.1.symm

/-- The budget of a request is the one that its agent declares. -/
def TaskRequest.Budgeted (request : TaskRequest) (agents : Table AgentRow) : Prop :=
  ∃ agent policy, agents.find? request.agentoid = some agent ∧
    qxBudgetPolicyFromDefList agent.budget = .ok policy ∧
    (policy.hasTokenLimit = true → request.budgetTokens = policy.tokenLimit) ∧
    (policy.hasCostLimit = true → request.budgetCost = policy.costLimit)

lemma TaskRequest.Budgeted.admits (h : request.Budgeted agents)
    (hvalid : 0 ≤ request.budgetTokens ∧ 0 ≤ request.budgetCost) :
    (env.inputs agents).admits request.toRow := by
  obtain ⟨agent, policy, hagent, hpolicy, htokens, hcost⟩ := h
  exact ⟨agent, policy, hagent, hpolicy, htokens, hcost, hvalid⟩

theorem qxRuntimeSubmitTask_evolves (hcat : s.catalog.Sound) (hbudget : request.Budgeted agents)
    (h : (qxRuntimeSubmitTask env request).Returns s journal taskoid) :
    RecoversThenEvolves env request.ownerid (env.inputs agents) s journal taskoid ∧
      (s.catalog.view taskoid).task = none := by
  dsimp only [qxRuntimeSubmitTask] at h
  obtain ⟨scanned, _, _, rfl, hscan, h⟩ := returns_bind_of id h
  have hrecovers := qxRuntimeEnsureStartupRecoveryScan_recovers hcat hscan
  have hcat₁ := hrecovers.sound hcat
  obtain ⟨_, ctx, _, rfl, ⟨hctx, howner, -, hvalid, hfresh, admission, hadmission, rfl, hm₁⟩, h⟩ :=
    returns_bind_of admitTask_returns h
  obtain ⟨_, _, _, rfl, ⟨rfl, hm₂⟩, h⟩ := returns_bind_of chargeTaskBudget_returns h
  have hattempt := hm₂.mem_attempts rfl (hadmission.attempt_mem hcat₁ hfresh hm₁)
  obtain ⟨_, _, _, rfl, ⟨rows, hrows, rfl, hm₃⟩, h⟩ :=
    returns_bind_of (captureAttempt_returns hctx hattempt) h
  obtain ⟨rfl, rfl⟩ := returns_pure_iff.mp h
  have hm := hm₁.append (hm₂.append hm₃)
  have hnew : (s.catalog.view ctx.taskoid).task = none := by
    have htask := view_eq_empty hcat₁ hfresh
    rw [hrecovers.view_eq] at htask
    exact congrArg TaskView.task htask
  refine ⟨⟨scanned, hscan, ?_⟩, hnew⟩
  rw [List.append_nil, replay_append]
  refine ⟨?_, hm.snapshot, hm.other, List.prefix_append _ _⟩
  exact admit_capture hcat₁ hadmission hrows howner hfresh (hbudget.admits hvalid) rfl (by simp)
    (by simp) hm

end QhapaqXian
