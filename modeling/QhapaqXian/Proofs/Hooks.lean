import QhapaqXian.Proofs.Resume

/-!
# Commands that open attempts

The statements in front of `RUN TASK` and `RESUME TASK`, and the regression hooks that leave an
attempt open.
-/

namespace QhapaqXian

open Library Script Txn

variable {authorization : Except QxError ToolAuthorization} {sessionoid taskoid : Oid}
  {agents : Table AgentRow}
variable {env : Env} {s : Backend} {journal : List Action}

lemma qxValidateToolDecision_silent {decision : ToolDecision} {u : Unit}
    (h : (qxValidateToolDecision decision).Returns s journal u) : journal = [] := by
  unfold qxValidateToolDecision at h
  obtain ⟨-, h⟩ := returns_check_bind_iff.mp h
  obtain ⟨-, h⟩ := returns_check_bind_iff.mp h
  exact (returns_require_iff.mp h).1

lemma qxValidateAgentPlanCapabilities_silent {tools : List CString} {u : Unit}
    (h : (qxValidateAgentPlanCapabilities tools).Returns s journal u) : journal = [] := by
  unfold qxValidateAgentPlanCapabilities at h
  obtain ⟨-, h⟩ := returns_check_bind_iff.mp h
  exact forEach_silent (fun _ _ _ _ => qxValidateToolDecision_silent) h

lemma qxPlanRunTask_returns {stmt : RunTaskStmt} {ownerid : Oid} {request : TaskRequest}
    (h : (qxPlanRunTask env stmt ownerid authorization).Returns s journal request) :
    journal = [] ∧ request.ownerid = ownerid ∧ request.Budgeted s.catalog.agents := by
  dsimp only [qxPlanRunTask] at h
  replace h := returns_catalog_bind_iff.mp h
  obtain ⟨session, -, h⟩ := returns_found_bind_iff.mp h
  obtain ⟨agent, hagent, h⟩ := returns_found_bind_iff.mp h
  obtain ⟨identityName, -, h⟩ := returns_found_bind_iff.mp h
  obtain ⟨-, h⟩ := returns_check_bind_iff.mp h
  obtain ⟨-, h⟩ := returns_check_bind_iff.mp h
  obtain ⟨-, h⟩ := returns_check_bind_iff.mp h
  obtain ⟨budget, hbudget, h⟩ := returns_ofExcept_bind_iff.mp h
  obtain ⟨toolauth, -, h⟩ := returns_ofExcept_bind_iff.mp h
  obtain ⟨-, h⟩ := returns_check_bind_iff.mp h
  obtain ⟨-, h⟩ := returns_check_bind_iff.mp h
  obtain ⟨hj, rfl⟩ := returns_pure_iff.mp h
  exact ⟨hj, rfl, agent, budget, hagent, hbudget, fun _ => rfl, fun _ => rfl⟩

theorem runTask_evolves {stmt : RunTaskStmt} (hcat : s.catalog.Sound)
    (h : (runTask env stmt authorization).Returns s journal taskoid) :
    RecoversThenEvolves env env.userid (env.inputs s.catalog.agents) s journal taskoid ∧
      (s.catalog.view taskoid).task = none := by
  unfold runTask at h
  obtain ⟨_, request, _, rfl, ⟨rfl, howner, hbudget⟩, h⟩ := returns_bind_of qxPlanRunTask_returns h
  obtain ⟨_, _, _, rfl, rfl, h⟩ := returns_bind_of qxValidateAgentPlanCapabilities_silent h
  rw [← howner]
  exact qxRuntimeSubmitTask_evolves hcat hbudget h

lemma qxPlanResumeTask_silent {stmt : ResumeTaskStmt} {ownerid : Oid} {label : CString}
    (h : (qxPlanResumeTask env stmt ownerid).Returns s journal label) : journal = [] := by
  unfold qxPlanResumeTask at h
  obtain ⟨_, ⟨task, checkpoint⟩, _, rfl, ⟨rfl, -⟩, h⟩ := returns_bind_of checkResumable_returns h
  obtain ⟨_, _, _, rfl, rfl, h⟩ := returns_bind_of qxValidateAgentPlanCapabilities_silent h
  exact (returns_pure_iff.mp h).1

theorem resumeTask_returns (agents : Table AgentRow) {stmt : ResumeTaskStmt}
    (hcat : s.catalog.Sound) (h : (resumeTask env stmt).Returns s journal taskoid) :
    Resumes env s stmt.taskoid env.userid agents journal := by
  unfold resumeTask at h
  obtain ⟨_, label, _, rfl, rfl, h⟩ := returns_bind_of qxPlanResumeTask_silent h
  exact qxRuntimeResumeTask_returns agents hcat h

def holdActions (held : LeaseRow) (beat : HeartbeatRow) : List Action :=
  [.insertSchedulerLease held, .insertSchedulerHeartbeat beat]

lemma foldl_holdActions {held : LeaseRow} {beat : HeartbeatRow} {view : TaskView}
    (h : held.taskoid = taskoid) :
    (holdActions held beat).foldl (TaskView.apply taskoid) view =
      { view with leases := view.leases ++ [held] } := by
  simp only [holdActions, List.foldl_cons, List.foldl_nil, TaskView.apply, h, if_true]

theorem testStartRecoveryAttempt_evolves {attemptoid : Oid} (hcat : s.catalog.Sound)
    (h : (testStartRecoveryAttempt env taskoid).Returns s journal attemptoid) :
    s.catalog.Evolves (env.inputs agents) (replay s journal).catalog ∧
      (replay s journal).recoverySnapshot = s.recoverySnapshot := by
  dsimp only [testStartRecoveryAttempt] at h
  obtain ⟨_, task, _, rfl, ⟨rfl, htask⟩, h⟩ := returns_bind_of lookupTask_returns h
  obtain rfl : task.oid = taskoid := taskoid_of_lookup htask
  obtain ⟨-, h⟩ := returns_check_bind_iff.mp h
  obtain ⟨hstate, h⟩ := returns_check_bind_iff.mp h
  obtain ⟨hcheckpoint, h⟩ := returns_check_bind_iff.mp h
  obtain ⟨-, h⟩ := returns_check_bind_iff.mp h
  obtain ⟨earlier, last, hcurrent⟩ := (hcat task.oid).current task htask
  obtain ⟨_, seqno, _, rfl, ⟨rfl, rfl⟩, h⟩ := returns_bind_of (nextAttemptSeqno_returns hcurrent) h
  obtain ⟨-, h⟩ := returns_check_bind_iff.mp h
  obtain ⟨_, oid, _, rfl, ⟨attempt, rfl, rfl, hm₁⟩, h⟩ := returns_bind_of insertAttempt_returns h
  obtain ⟨_, _, _, rfl, ⟨rfl, hm₂⟩, h⟩ := returns_bind_of updateTaskRuntime_returns h
  replace h := returns_catalog_bind_iff.mp h
  obtain ⟨_, queueoid, _, rfl, ⟨queue, hqueue, rfl, -, hm₃⟩, h⟩ :=
    returns_bind_of insertSchedulerQueue_returns h
  obtain ⟨_, _, _, rfl, ⟨-, held, beat, hheld, hheldTask, rfl, hm₄⟩, h⟩ :=
    returns_bind_of holdLease_returns h
  obtain ⟨rfl, rfl⟩ := returns_pure_iff.mp h
  have hqueueTask : queue.taskoid = task.oid := by
    rw [hqueue]
    rfl
  have hopen := hm₁.append (hm₂.append hm₃)
  change Moves s task.oid (openActions _ queue) at hopen
  have hm := hopen.append hm₄
  change Moves s task.oid (openActions _ queue ++ holdActions held beat) at hm
  refine ⟨hm.evolves (.single ?_), hm.snapshot⟩
  have hfollows := follows_of_permits rfl hopen.permitted
  have hcase : task.state = .checkpointed ∨ task.state = .running := by
    simpa only [Bool.or_eq_true, beq_iff_eq] using hstate
  change held.taskoid = task.oid at hheldTask
  rw [List.foldl_append, foldl_openActions htask ?_ hqueueTask, foldl_holdActions hheldTask]
  swap
  · rfl
  refine .reopen hcurrent hcase (by simpa [oidIsValid] using hcheckpoint) hfollows rfl rfl ?_ hheld
  rw [hqueue]
  exact ⟨rfl, rfl, rfl, rfl⟩

/-- An admitted task whose attempt holds its lease and was never captured. -/
structure LeftOpen (cat : Catalog) (taskoid : Oid) (task : TaskRow) (attempt : AttemptRow) :
    Prop where
  task_eq : (cat.view taskoid).task = some task
  attempts_eq : (cat.view taskoid).attempts = [attempt]
  last_eq : task.lastattemptid = attempt.oid
  state : task.state = .running
  running : attempt.state = .running
  checkpoint : task.lastcheckpointid = invalidOid

lemma admit_hold {request : TaskRequest} {ctx : AttemptContext} {admission : AdmitRows}
    {held : LeaseRow} {beat : HeartbeatRow} {trace : TraceRow} (hcat : s.catalog.Sound)
    (hadmission : admission.Written request ctx) (hfresh : ctx.taskoid ∉ s.catalog.taskOids)
    (hadmits : (env.inputs agents).admits request.toRow)
    (hheld : held.IsFor ctx.attemptoid request.ownerid .held)
    (hheldTask : held.taskoid = ctx.taskoid)
    (hjournal : journal = admission.actions ctx ++ (holdActions held beat ++ [.insertTrace trace]))
    (hm : Moves s ctx.taskoid journal) :
    s.catalog.Evolves (env.inputs agents) (replay s journal).catalog ∧
      LeftOpen (replay s journal).catalog ctx.taskoid
        (admission.task.updateRuntime .running (some admission.attempt.oid) none)
        admission.attempt := by
  have hempty := view_eq_empty hcat hfresh
  have hp := hm.permitted
  rw [hempty, hjournal] at hp
  replace hp := (TaskView.permitsAll_append.mp hp).1
  have hview : journal.foldl (TaskView.apply ctx.taskoid) .empty =
      ⟨some (admission.task.updateRuntime .running (some admission.attempt.oid) none),
        [admission.attempt], [admission.step], [], [admission.queue], [held], []⟩ := by
    rw [hjournal, List.foldl_append, List.foldl_append, hadmission.view_eq,
      foldl_holdActions hheldTask]
    rfl
  refine ⟨hm.evolves (.single ?_), ?_⟩
  · rw [hempty, hview]
    exact hadmission.launch (hadmission.admits hadmits) (hadmission.attempt_valid hp) hheld
  · have hcheckpoint : admission.task.lastcheckpointid = invalidOid := by
      rw [hadmission.task]
      rfl
    have hself := hm.self
    rw [hempty, hview] at hself
    exact ⟨by rw [hself], by rw [hself], rfl, rfl, hadmission.running, hcheckpoint⟩

lemma uncheckpointedRequest_budgeted {session : SessionInfo} {budget : BudgetPolicy}
    {authz : ToolAuthorization} {priority : CString} {agent : AgentRow}
    (hagent : agents.find? session.agentoid = some agent)
    (hbudget : qxBudgetPolicyFromDefList agent.budget = .ok budget) :
    (uncheckpointedRequest env sessionoid session budget authz priority).Budgeted agents :=
  ⟨agent, budget, hagent, hbudget, fun h => if_pos h, fun h => if_pos h⟩

theorem testStartUncheckpointedTask_returns {priority : CString}
    (hcat : s.catalog.Sound)
    (h : (testStartUncheckpointedTask env sessionoid priority authorization).Returns s journal
      taskoid) :
    RecoversThenEvolves env env.userid (env.inputs s.catalog.agents) s journal taskoid ∧
      ∃ task attempt, LeftOpen (replay s journal).catalog taskoid task attempt := by
  dsimp only [testStartUncheckpointedTask, qxSchedulerAppendRuntimePayload,
    insertDispatchTrace] at h
  replace h := returns_catalog_bind_iff.mp h
  obtain ⟨session, -, h⟩ := returns_found_bind_iff.mp h
  obtain ⟨huser, h⟩ := returns_check_bind_iff.mp h
  rw [beq_iff_eq] at huser
  obtain ⟨agent, hagent, h⟩ := returns_found_bind_iff.mp h
  obtain ⟨scanned, _, _, rfl, hscan, h⟩ := returns_bind_of id h
  have hcat₁ := (qxRuntimeEnsureStartupRecoveryScan_recovers hcat hscan).sound hcat
  obtain ⟨budget, hbudget, h⟩ := returns_ofExcept_bind_iff.mp h
  obtain ⟨authz, -, h⟩ := returns_ofExcept_bind_iff.mp h
  obtain ⟨-, h⟩ := returns_check_bind_iff.mp h
  obtain ⟨_, ctx, _, rfl, ⟨hctx, howner, -, hvalid, hfresh, admission, hadmission, rfl, hm₁⟩, h⟩ :=
    returns_bind_of admitTask_returns h
  obtain ⟨-, h⟩ := returns_check_bind_iff.mp h
  obtain ⟨_, _, _, rfl, ⟨-, held, beat, hheld, hheldTask, rfl, hm₂⟩, h⟩ :=
    returns_bind_of holdLease_returns h
  obtain ⟨_, _, _, rfl, ⟨trace, rfl, hm₃⟩, h⟩ := returns_bind_of insertTrace_moves h
  obtain ⟨rfl, rfl⟩ := returns_pure_iff.mp h
  have hm := hm₁.append ((hctx.taskoid ▸ hm₂ : Moves _ ctx.taskoid _).append (hm₃ _))
  have hadmits : (env.inputs s.catalog.agents).admits
      (uncheckpointedRequest env sessionoid session budget authz priority).toRow :=
    (uncheckpointedRequest_budgeted hagent hbudget).admits hvalid
  obtain ⟨hevolves, hopen⟩ := admit_hold hcat₁ hadmission hfresh hadmits
    (by rw [← hctx.attemptoid, ← howner, ← hctx.ownerid]; exact hheld)
    (hheldTask.trans hctx.taskoid) rfl hm
  rw [huser] at hscan
  rw [List.append_nil, replay_append]
  exact ⟨⟨scanned, hscan, by rwa [replay_append], by rw [replay_append]; exact hm.snapshot,
    by rw [replay_append]; exact hm.other, List.prefix_append _ _⟩, _, _, hopen⟩

theorem testStartExhaustedRetryTask_evolves (hcat : s.catalog.Sound)
    (h : (testStartExhaustedRetryTask env sessionoid authorization).Returns s journal taskoid) :
    RecoversThenEvolves env env.userid (env.inputs s.catalog.agents) s journal taskoid := by
  dsimp only [testStartExhaustedRetryTask, qxSchedulerAppendRuntimePayload] at h
  obtain ⟨j₁, oid, r₁, hr, ⟨⟨scanned, hscan, hevolves, hsnapshot, hothers, hfront⟩, task, attempt,
    hopen⟩, h⟩ :=
    returns_bind_of (testStartUncheckpointedTask_returns hcat) h
  have hcat₁ := (qxRuntimeEnsureStartupRecoveryScan_recovers hcat hscan).sound hcat
  have hsound := hevolves.sound hcat₁ oid
  obtain ⟨j₂, row, r₂, hr₁, ⟨rfl, htask⟩, h⟩ := returns_bind_of lookupTask_returns h
  obtain rfl := Option.some.inj (hopen.task_eq.symm.trans htask)
  have hcurrent : ((replay s j₁).catalog.view oid).Current task [] attempt :=
    ⟨hopen.task_eq, hopen.attempts_eq, hopen.last_eq⟩
  obtain ⟨j₃, last, r₃, hr₂, ⟨rfl, hlast⟩, h⟩ := returns_bind_of lookupAttempt_returns h
  have hlookup := lookupAttempt_of_mem hcurrent.last_mem
  rw [← hopen.last_eq] at hlookup
  obtain rfl := Option.some.inj (hlookup.symm.trans hlast)
  replace h := returns_catalog_bind_iff.mp h
  obtain ⟨j₄, _, r₄, hr₃, ⟨hj₄, hm₄⟩, h⟩ :=
    returns_bind_of (updateAttemptState_returns (List.mem_map_of_mem hcurrent.last_mem)) h
  obtain ⟨j₅, _, r₅, hr₄, ⟨hj₅, hm₅⟩, h⟩ := returns_bind_of updateTaskRuntime_returns h
  obtain ⟨j₆, _, r₆, hr₅, ⟨queue, hqueue, hj₆, -, hm₆⟩, h⟩ :=
    returns_bind_of insertSchedulerQueue_returns h
  obtain ⟨-, h⟩ := returns_check_bind_iff.mp h
  obtain ⟨rfl, rfl⟩ := returns_pure_iff.mp h
  have htaskoid : task.oid = taskoid := taskoid_of_lookup hopen.task_eq
  have hm : Moves (replay s j₁) taskoid (j₄ ++ (j₅ ++ j₆)) :=
    hm₄.append (hm₅.append (htaskoid ▸ hm₆))
  have hjournal : journal = j₁ ++ (j₄ ++ (j₅ ++ j₆)) := by
    rw [hr, hr₁, hr₂, hr₃, hr₄, hr₅]
    simp only [List.nil_append, List.append_nil]
  have hqueueTask : queue.taskoid = taskoid := by
    rw [hqueue]
    exact htaskoid
  have hattempt : queue.attemptoid = attempt.oid := by
    rw [hqueue]
    rfl
  refine ⟨scanned, hscan, ?_⟩
  rw [hjournal, replay_append]
  refine ⟨hevolves.trans (hm.evolves (.single ?_)), hm.snapshot.trans hsnapshot,
    fun other hother => (hm.other other hother).trans (hothers other hother),
    hfront.trans (List.prefix_append _ _)⟩
  rw [hj₄, hj₅, hj₆]
  have hnodup := hsound.attempts_nodup
  rw [hcurrent.attempts_eq] at hnodup
  simp only [List.cons_append, List.nil_append, List.foldl_cons, List.foldl_nil, TaskView.apply,
    hqueueTask, if_true, hcurrent.task_eq, Option.map_some, hcurrent.attempts_eq]
  have hmap := map_setState_last hnodup .failed
  rw [List.nil_append, List.nil_append] at hmap
  have hleases : ∀ lease ∈ ([] : List LeaseRow), lease.attemptoid = attempt.oid :=
    fun _ h => absurd h List.not_mem_nil
  have hstep := @TaskStep.failClosed (env.inputs s.catalog.agents) _ _ _ _ _ _ hcurrent hopen.state
    hopen.running hopen.checkpoint hattempt hleases
  rw [List.append_nil] at hstep
  rw [hmap]
  exact hstep

end QhapaqXian
