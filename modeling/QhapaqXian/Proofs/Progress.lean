import QhapaqXian.Proofs.Retry

/-!
# When a dispatch succeeds

The writes of a transaction succeed if the view of their task permits them. A retry is dispatched
exactly when its task has a valid contract, its next numbers are unused, and its tool reports
charges that the task can afford.
-/

namespace QhapaqXian

open Library Script Txn

variable {env : Env} {s : Backend} {journal : List Action} {slot : WorkerSlot}
variable {task : TaskRow} {Q : Unit → TaskView → Prop}

def Backend.view (taskoid : Oid) (s : Backend) : TaskView :=
  s.catalog.view taskoid

section writes

variable {α : Type} {taskoid : Oid} {view : TaskView}
variable {Q : Oid → TaskView → Prop}

lemma attains_of_moves {x : Txn α} {Q : α → TaskView → Prop}
    (hx : ∀ s, s.view taskoid = view → ∃ journal a, x.Returns s journal a ∧
      Moves s taskoid journal ∧ Q a (journal.foldl (TaskView.apply taskoid) view)) :
    x.Attains (Backend.view taskoid) view Q := by
  intro s hs
  obtain ⟨journal, a, hreturns, hm, hQ⟩ := hx s hs
  refine ⟨journal, a, hreturns, ?_⟩
  have hself := hm.self
  rw [← Backend.view, ← Backend.view, hs] at hself
  rw [hself]
  exact hQ

lemma catalog_bind_attains {f : Catalog → Txn α} {Q : α → TaskView → Prop}
    (h : ∀ cat, cat.view taskoid = view → (f cat).Attains (Backend.view taskoid) view Q) :
    (catalog >>= f).Attains (Backend.view taskoid) view Q := by
  intro s hs
  obtain ⟨journal, a, hreturns, hQ⟩ := h s.catalog hs s hs
  exact ⟨journal, a, returns_catalog_bind_iff.mpr hreturns, hQ⟩

lemma succeeds_catalog_bind {f : Catalog → Txn α} (h : (f s.catalog).Succeeds s) :
    (catalog >>= f).Succeeds s := by
  obtain ⟨journal, a, hreturns⟩ := h
  exact ⟨journal, a, returns_catalog_bind_iff.mpr hreturns⟩

lemma insertAttempt_attains {row : AttemptRow} (htask : row.taskoid = taskoid)
    (hfree : row.seqno ∉ view.attempts.map AttemptRow.seqno)
    (h : ∀ attempt : AttemptRow, Q attempt.oid { view with attempts := view.attempts ++ [attempt] })
    :
    (insertAttempt env row).Attains (Backend.view taskoid) view Q := by
  refine attains_of_moves fun s hs => ?_
  obtain ⟨journal, oid, hreturns⟩ : (insertAttempt env row).Succeeds s := by
    simp only [Succeeds, insertAttempt, returns_newOid_bind_iff, returns_catalog_bind_iff,
      returns_require_bind_iff, returns_record_bind_iff, returns_pure_iff]
    exact ⟨_, _, attemptKeyFree_iff.mpr (by rw [htask, ← Backend.view, hs]; exact hfree), [],
      ⟨rfl, rfl⟩, rfl⟩
  obtain ⟨stored, hstored, rfl, hm⟩ := insertAttempt_returns hreturns
  refine ⟨_, oid, hreturns, htask ▸ hm, ?_⟩
  have hstoredTask : stored.taskoid = taskoid := by rw [hstored, htask]
  have hoid : stored.oid = oid := by rw [hstored]
  simp only [List.foldl_cons, List.foldl_nil, TaskView.apply, hstoredTask, if_true]
  exact hoid ▸ h stored

lemma insertStep_attains {sessionoid : Oid} {seqno : Int} {name : String}
    (hfree : seqno ∉ view.steps.map StepRow.seqno)
    (h : ∀ (oid : Oid) (step : StepRow), step.seqno = seqno →
      Q oid { view with steps := view.steps ++ [step] }) :
    (insertStep env sessionoid taskoid seqno name).Attains (Backend.view taskoid) view Q := by
  refine attains_of_moves fun s hs => ?_
  obtain ⟨journal, oid, hreturns⟩ :
      (insertStep env sessionoid taskoid seqno name).Succeeds s := by
    simp only [Succeeds, insertStep, returns_newOid_bind_iff, returns_catalog_bind_iff,
      returns_require_bind_iff, returns_record_bind_iff, returns_pure_iff]
    exact ⟨_, _, stepKeyFree_iff.mpr (by rw [← Backend.view, hs]; exact hfree), [], ⟨rfl, rfl⟩, rfl⟩
  obtain ⟨step, htask, hseqno, rfl, hm⟩ := insertStep_returns hreturns
  refine ⟨_, oid, hreturns, hm, ?_⟩
  simp only [List.foldl_cons, List.foldl_nil, TaskView.apply, htask, if_true]
  exact h oid step hseqno

lemma unfailing_newOid (rel : QxRelation) : (newOid env rel).Unfailing :=
  unfailing_bind (unfailing_bind unfailing_read fun _ => unfailing_pure _) fun _ =>
    unfailing_pure _

lemma insertCheckpoint_attains {row : CheckpointRow}
    (htask : row.taskoid = taskoid)
    (h : ∀ (oid : Oid) (checkpoint : CheckpointRow),
      Q oid { view with checkpoints := view.checkpoints ++ [checkpoint] }) :
    (insertCheckpoint env row).Attains (Backend.view taskoid) view Q := by
  have hunfailing : (insertCheckpoint env row).Unfailing :=
    unfailing_bind (unfailing_newOid _) fun _ => unfailing_bind (unfailing_record _) fun _ =>
      unfailing_pure _
  refine attains_of_moves fun s _ => ?_
  obtain ⟨journal, oid, hreturns⟩ := hunfailing.succeeds s
  obtain ⟨checkpoint, -, hstored, -, rfl, hm⟩ := insertCheckpoint_returns hreturns
  refine ⟨_, oid, hreturns, htask ▸ hm, ?_⟩
  simp only [List.foldl_cons, List.foldl_nil, TaskView.apply, hstored, htask, if_true]
  exact h oid checkpoint

lemma insertSchedulerQueue_attains {row : QueueRow} (htask : row.taskoid = taskoid)
    (h : ∀ (oid : Oid) (queue : QueueRow), Q oid { view with queues := view.queues ++ [queue] }) :
    (insertSchedulerQueue env row).Attains (Backend.view taskoid) view Q := by
  have hunfailing : (insertSchedulerQueue env row).Unfailing :=
    unfailing_bind (unfailing_newOid _) fun _ => unfailing_bind (unfailing_record _) fun _ =>
      unfailing_pure _
  refine attains_of_moves fun s _ => ?_
  obtain ⟨journal, oid, hreturns⟩ := hunfailing.succeeds s
  obtain ⟨queue, hqueue, rfl, -, hm⟩ := insertSchedulerQueue_returns hreturns
  refine ⟨_, oid, hreturns, htask ▸ hm, ?_⟩
  have hqueueTask : queue.taskoid = taskoid := by rw [hqueue, htask]
  simp only [List.foldl_cons, List.foldl_nil, TaskView.apply, hqueueTask, if_true]
  exact h oid queue

lemma unfailing_insertSchedulerLease (queueoid : Oid) (row : LeaseRow) :
    (insertSchedulerLease env queueoid row).Unfailing :=
  unfailing_bind (unfailing_newOid _) fun _ => unfailing_bind (unfailing_record _) fun _ =>
    unfailing_pure _

lemma unfailing_insertSchedulerHeartbeat (leaseoid : Oid) (row : HeartbeatRow) :
    (insertSchedulerHeartbeat env leaseoid row).Unfailing :=
  unfailing_bind (unfailing_newOid _) fun _ => unfailing_record _

lemma holdLease_attains {envelope : TaskEnvelope} {queueoid : Oid} {workerName : CString}
    {Q : LeaseRow → TaskView → Prop} (htask : envelope.taskoid = taskoid)
    (h : ∀ held lease : LeaseRow, held.taskoid = taskoid →
      Q held { view with leases := view.leases ++ [lease] }) :
    (holdLease env envelope queueoid workerName).Attains (Backend.view taskoid) view Q := by
  have hunfailing : (holdLease env envelope queueoid workerName).Unfailing :=
    unfailing_bind (unfailing_insertSchedulerLease _ _) fun _ =>
      unfailing_bind (unfailing_insertSchedulerHeartbeat _ _) fun _ => unfailing_pure _
  refine attains_of_moves fun s _ => ?_
  obtain ⟨journal, held, hreturns⟩ := hunfailing.succeeds s
  obtain ⟨hheld, lease, beat, -, hlease, rfl, hm⟩ := holdLease_returns hreturns
  refine ⟨_, held, hreturns, htask ▸ hm, ?_⟩
  simp only [List.foldl_cons, List.foldl_nil, TaskView.apply, hlease, htask, if_true]
  exact h held lease (hheld ▸ htask)

lemma releaseLease_attains {queueoid : Oid} {lease : LeaseRow} {Q : Unit → TaskView → Prop}
    (htask : lease.taskoid = taskoid)
    (h : ∀ released, Q () { view with leases := view.leases ++ [released] }) :
    (releaseLease env queueoid lease).Attains (Backend.view taskoid) view Q := by
  have hunfailing : (releaseLease env queueoid lease).Unfailing :=
    unfailing_bind (unfailing_insertSchedulerLease _ _) fun _ =>
      unfailing_bind (unfailing_insertSchedulerHeartbeat _ _) fun _ => unfailing_record _
  refine attains_of_moves fun s _ => ?_
  obtain ⟨journal, u, hreturns⟩ := hunfailing.succeeds s
  obtain ⟨released, beat, -, hreleased, rfl, hm⟩ := releaseLease_returns hreturns
  refine ⟨_, u, hreturns, htask ▸ hm, ?_⟩
  simp only [List.foldl_cons, List.foldl_nil, TaskView.apply, hreleased, htask, if_true]
  exact h released

lemma insertTrace_attains {row : TraceRow} {Q : Unit → TaskView → Prop} (h : Q () view) :
    (insertTrace env row).Attains (Backend.view taskoid) view Q := by
  have hunfailing : (insertTrace env row).Unfailing :=
    unfailing_bind (unfailing_newOid _) fun _ => unfailing_record _
  refine attains_of_moves fun s _ => ?_
  obtain ⟨journal, u, hreturns⟩ := hunfailing.succeeds s
  obtain ⟨trace, rfl, hm⟩ := insertTrace_moves hreturns
  exact ⟨_, u, hreturns, hm taskoid, h⟩

lemma lookupTask_succeeds (h : (s.view taskoid).task = some task) :
    (lookupTask taskoid).Returns s [] task :=
  returns_catalog_bind_iff.mpr (returns_expect_iff.mpr ⟨rfl, h⟩)

lemma lookupAttempt_succeeds {attempt : AttemptRow} {attemptoid : Oid}
    (h : s.catalog.lookupAttemptByOid attemptoid = some attempt) :
    (lookupAttempt attemptoid).Returns s [] attempt :=
  returns_catalog_bind_iff.mpr (returns_expect_iff.mpr ⟨rfl, h⟩)

lemma updateTaskRuntime_attains {state : TaskState} {lastattemptid lastcheckpointid : Option Oid}
    {Q : Unit → TaskView → Prop} (htask : view.task = some task)
    (h : Q () { view with task := some (task.updateRuntime state lastattemptid lastcheckpointid) })
    :
    (updateTaskRuntime taskoid state lastattemptid lastcheckpointid).Attains
      (Backend.view taskoid) view Q := by
  refine attains_of_moves fun s hs => ?_
  obtain ⟨journal, u, hreturns⟩ :
      (updateTaskRuntime taskoid state lastattemptid lastcheckpointid).Succeeds s :=
    succeeds_bind (lookupTask_succeeds (hs ▸ htask)) ((unfailing_record _).succeeds _)
  obtain ⟨rfl, hm⟩ := updateTaskRuntime_returns hreturns
  refine ⟨_, u, hreturns, hm, ?_⟩
  simp only [List.foldl_cons, List.foldl_nil, TaskView.apply, htask, if_true, Option.map_some]
  exact h

lemma updateAttemptState_attains {attemptoid : Oid} {state : AttemptState}
    {Q : Unit → TaskView → Prop} (hmem : attemptoid ∈ view.attempts.map AttemptRow.oid)
    (h : Q () { view with
      attempts := view.attempts.map fun row =>
        if row.oid = attemptoid then row.setState state else row }) :
    (updateAttemptState attemptoid state).Attains (Backend.view taskoid) view Q := by
  refine attains_of_moves fun s hs => ?_
  rw [← hs, Backend.view] at hmem
  obtain ⟨attempt, hattempt, rfl⟩ := List.mem_map.mp hmem
  obtain ⟨journal, u, hreturns⟩ : (updateAttemptState attempt.oid state).Succeeds s :=
    succeeds_bind (lookupAttempt_succeeds (lookupAttempt_of_mem hattempt))
      ((unfailing_record _).succeeds _)
  obtain ⟨rfl, hm⟩ := updateAttemptState_returns hmem hreturns
  exact ⟨_, u, hreturns, hm, h⟩

lemma chargeTaskBudget_attains {tokens cost : Int} {name : String}
    {Q : Unit → TaskView → Prop} (htask : view.task = some task)
    (hafford : task.Affords [⟨taskoid, tokens, cost, name⟩])
    (h : Q () { view with
      task := some (task.charge tokens cost)
      charges := view.charges ++ [⟨taskoid, tokens, cost, name⟩] }) :
    (chargeTaskBudget taskoid tokens cost name).Attains (Backend.view taskoid) view Q := by
  refine attains_of_moves fun s hs => ?_
  obtain ⟨journal, u, hreturns⟩ : (chargeTaskBudget taskoid tokens cost name).Succeeds s := by
    refine succeeds_bind (lookupTask_succeeds (hs ▸ htask)) ?_
    refine succeeds_bind (a := ()) (returns_require_iff.mpr ⟨rfl, hafford.1⟩) ?_
    refine succeeds_bind (a := ()) (returns_require_iff.mpr ⟨rfl, hafford.2.1⟩) ?_
    exact (unfailing_record _).succeeds _
  obtain ⟨rfl, hm⟩ := chargeTaskBudget_returns hreturns
  refine ⟨_, u, hreturns, hm, ?_⟩
  simp only [List.foldl_cons, List.foldl_nil, TaskView.apply, htask, if_true, Option.map_some]
  exact h

lemma qxExecuteToolContract_attains {contract : CString} {phase : ToolPhase}
    {goal : Option CString} {inputPresent : Bool} {result : ToolResult}
    {Q : ToolResult → TaskView → Prop}
    (hresult : env.tool ⟨taskoid, phase, contract, goal, inputPresent⟩ = .ok result)
    (h : Q result view) :
    (qxExecuteToolContract env (some contract) phase taskoid goal inputPresent).Attains
      (Backend.view taskoid) view Q := by
  refine attains_of_moves fun s _ => ?_
  have hreturns : (qxExecuteToolContract env (some contract) phase taskoid goal
      inputPresent).Returns s [.executeToolContract taskoid phase contract] result := by
    simp only [qxExecuteToolContract, returns_found_bind_iff, returns_record_bind_iff,
      returns_ofExcept_iff]
    exact ⟨contract, rfl, [], ⟨rfl, hresult⟩, rfl⟩
  obtain ⟨-, -, -, -, hm⟩ := qxExecuteToolContract_returns hreturns
  exact ⟨_, result, hreturns, hm taskoid, h⟩

end writes

/-- The numbers of the steps of a capture, from the `i`th on, are unused. -/
def StepsFree (base : Int) (i : Nat) (steps : List StepRow) : Prop :=
  ∀ j : Nat, i ≤ j → j < 5 → wrapInt16 (base + j) ∉ steps.map StepRow.seqno

lemma stepsFree_wrapInt16 {base : Int} {i : Nat} {steps : List StepRow} :
    StepsFree (wrapInt16 base) i steps ↔ StepsFree base i steps := by
  simp only [StepsFree, wrapInt16_wrapInt16_add]

lemma StepsFree.next {base : Int} {i : Nat} {steps : List StepRow} {step : StepRow}
    (h : StepsFree base i steps) (hstep : step.seqno = wrapInt16 (base + i)) :
    StepsFree base (i + 1) (steps ++ [step]) := by
  intro j hij hj
  rw [List.map_append, List.mem_append, List.map_singleton, List.mem_singleton, hstep, not_or]
  refine ⟨h j (by omega) hj, ?_⟩
  unfold wrapInt16
  omega

/-- What the capture of an attempt needs: a valid contract, unused step numbers, and a tool whose
report the task can afford. -/
structure AttemptContext.Capturable (ctx : AttemptContext) (env : Env) (base : Int)
    (view : TaskView) (task : TaskRow) (result : ToolResult) : Prop where
  valid : qxSchedulerRuntimeContractIsValid ctx.envelope = true
  task_eq : view.task = some task
  attempt : ctx.attemptoid ∈ view.attempts.map AttemptRow.oid
  steps : StepsFree base 1 view.steps
  tool : ∃ contract, ctx.contract = some contract ∧
    env.tool ⟨ctx.taskoid, .submit, contract, ctx.goal, ctx.inputPresent⟩ = .ok result
  affords : task.Affords
    [⟨ctx.taskoid, result.tokenCharge, result.costCharge, "external_submit"⟩,
      ⟨ctx.taskoid, if ctx.inputPresent then 24 else 8, 13, "capture_input"⟩,
      ⟨ctx.taskoid, 4, 14, "checkpoint_barrier"⟩]

theorem captureAttempt_attains (task : TaskRow) (result : ToolResult) {ctx : DispatchedAttempt}
    {base : Int} {taskoid : Oid} {view : TaskView} (hctx : ctx.Consistent)
    (htask : ctx.taskoid = taskoid) (h : ctx.Capturable env base view task result)
    (hQ : ∀ view', Q () view') :
    (captureAttempt env ctx base).Attains (Backend.view taskoid) view Q := by
  subst htask
  obtain ⟨contract, hcontract, hresult⟩ := h.tool
  obtain ⟨htokens₁, hcost₁, htokens₂, hcost₂, htokens₃, hcost₃, -⟩ := h.affords
  have hfree₁ := h.steps
  unfold captureAttempt qxSchedulerAppendRuntimePayload
  refine attains_bind (attains_require h.valid ?_)
  refine attains_bind (holdLease_attains hctx.taskoid fun lease held hlease => ?_)
  refine attains_bind (insertTrace_attains ?_)
  refine attains_bind (insertStep_attains (hfree₁ 1 le_rfl (by decide)) fun _ step₁ hs₁ => ?_)
  have hfree₂ := hfree₁.next hs₁
  refine attains_bind (insertStep_attains (hfree₂ 2 le_rfl (by decide)) fun _ step₂ hs₂ => ?_)
  have hfree₃ := hfree₂.next hs₂
  rw [hcontract]
  refine attains_bind (qxExecuteToolContract_attains hresult ?_)
  refine attains_bind (chargeTaskBudget_attains h.task_eq ⟨htokens₁, hcost₁, trivial⟩ ?_)
  refine attains_bind (insertTrace_attains ?_)
  refine attains_bind (insertStep_attains (hfree₃ 3 le_rfl (by decide)) fun _ step₃ hs₃ => ?_)
  have hfree₄ := hfree₃.next hs₃
  refine attains_bind (chargeTaskBudget_attains rfl ⟨htokens₂, hcost₂, trivial⟩ ?_)
  refine attains_bind (insertStep_attains (hfree₄ 4 le_rfl (by decide)) fun _ step₄ _ => ?_)
  refine attains_bind (chargeTaskBudget_attains rfl ⟨htokens₃, hcost₃, trivial⟩ ?_)
  refine attains_bind (insertTrace_attains ?_)
  refine attains_bind (insertCheckpoint_attains rfl fun _ _ => ?_)
  refine attains_bind (updateAttemptState_attains h.attempt ?_)
  refine attains_bind (updateTaskRuntime_attains rfl ?_)
  exact releaseLease_attains hlease fun _ => hQ _

def TaskRow.retryCharges (task : TaskRow) (result : ToolResult) : List Charge :=
  [⟨task.oid, 8, 14, "retry_dispatch"⟩,
    ⟨task.oid, result.tokenCharge, result.costCharge, "external_submit"⟩,
    ⟨task.oid, if task.input.isSome then 24 else 8, 13, "capture_input"⟩,
    ⟨task.oid, 4, 14, "checkpoint_barrier"⟩]

/-- The submit contract of a task runs and reports charges that the task can afford. -/
def TaskRow.Executes (task : TaskRow) (env : Env) : Prop :=
  ∃ contract result, qxRuntimeTaskPhaseContract task false = some contract ∧
    env.tool ⟨task.oid, .submit, contract, some (task.goal.getD []), task.input.isSome⟩ =
      .ok result ∧
    task.Affords (task.retryCharges result)

/-- The retry of a candidate can be dispatched. -/
structure RetryCandidate.Dispatchable (candidate : RetryCandidate) (env : Env) (view : TaskView) :
    Prop where
  valid : candidate.task.contractIsValid = true
  attempt : wrapInt16 (candidate.failed.seqno + 1) ∉ view.attempts.map AttemptRow.seqno
  steps : StepsFree view.nextStep 0 view.steps
  executes : candidate.task.Executes env

section dispatch

variable {candidate : RetryCandidate} {taskoid : Oid} {earlier : List AttemptRow}

theorem qxRuntimeDispatchRetryTask_attains {view : TaskView}
    (hdue : candidate.Due env slot view earlier) (hoid : candidate.task.oid = taskoid)
    (h : candidate.Dispatchable env view) :
    (qxRuntimeDispatchRetryTask env slot candidate).Attains (Backend.view taskoid) view
      fun _ _ => True := by
  subst hoid
  obtain ⟨contract, result, hcontract, hresult, htokens, hcost, hafford⟩ := h.executes
  have hcond : ¬(candidate.task.state != .queued || candidate.failed.state != .failed) = true := by
    rw [hdue.state, hdue.failed]
    decide
  dsimp only [qxRuntimeDispatchRetryTask, qxSchedulerAppendRuntimePayload]
  rw [if_neg hcond]
  refine attains_bind (attains_expect hcontract ?_)
  refine catalog_bind_attains fun cat hcat => ?_
  have hbase : cat.maxStepSeqnoForTask candidate.task.oid = wrapInt16 view.nextStep := by
    rw [← hcat]
    rfl
  have hfree : StepsFree (wrapInt16 view.nextStep) 0 view.steps := stepsFree_wrapInt16.mpr h.steps
  rw [hbase]
  refine attains_bind (insertAttempt_attains rfl h.attempt fun attempt => ?_)
  refine attains_bind (updateTaskRuntime_attains hdue.current.task_eq ?_)
  refine attains_bind (insertSchedulerQueue_attains rfl fun queueoid queue => ?_)
  have hvalid : qxSchedulerRuntimeContractIsValid
      (retryDispatchEnvelope env cat candidate.task attempt.oid
        (wrapInt16 (candidate.failed.seqno + 1)) contract) = true := by
    rw [retryDispatchEnvelope_valid]
    exact h.valid
  refine attains_bind (attains_require hvalid ?_)
  have hfirst : wrapInt16 view.nextStep = wrapInt16 (wrapInt16 view.nextStep + (0 : Nat)) := by
    rw [wrapInt16_wrapInt16_add, Int.natCast_zero, Int.add_zero]
  refine attains_bind (insertStep_attains (hfirst ▸ hfree 0 le_rfl (by decide))
    fun _ step hstep => ?_)
  refine attains_bind (chargeTaskBudget_attains rfl ⟨htokens, hcost, trivial⟩ ?_)
  refine attains_bind (captureAttempt_attains
    ((candidate.task.updateRuntime .running (some attempt.oid) none).charge 8 14) result
    ⟨rfl, rfl, rfl⟩ rfl ?_ fun _ => attains_pure trivial)
  exact {
    valid := hvalid
    task_eq := rfl
    attempt := List.mem_map_of_mem (f := AttemptRow.oid)
      (List.mem_append_right _ (List.mem_singleton_self attempt))
    steps := hfree.next (hstep.trans hfirst)
    tool := ⟨contract, rfl, hresult⟩
    affords := hafford }

lemma RetryRows.Written.dispatchable {rows : RetryRows} {ctx : AttemptContext} {view : TaskView}
    (hw : rows.Written env candidate ctx (wrapInt16 view.nextStep))
    (hcurrent : view.Current candidate.task earlier candidate.failed)
    (hp : view.PermitsAll ctx.taskoid (rows.actions ctx)) : candidate.Dispatchable env view := by
  obtain ⟨hopen, hp⟩ := TaskView.permitsAll_append.mp hp
  obtain ⟨hp, hcapture⟩ := TaskView.permitsAll_append.mp hp
  have hfollows := follows_of_permits hw.seqno hopen
  rw [hw.foldl_before hcurrent] at hcapture
  rw [foldl_openActions hcurrent.task_eq (hw.attempt.1.trans hw.taskoid.symm)
    (hw.queue_taskoid.trans hw.taskoid.symm)] at hp
  obtain ⟨hstep, ⟨task, htask, hafford₁⟩, -⟩ := hp
  simp only [TaskView.apply, hw.step.1.trans hw.taskoid.symm, if_true, TaskView.opened,
    Option.some.injEq] at htask
  subst htask
  obtain ⟨hafford₂, -, hfree⟩ := hw.capture.permitted rfl hcapture
  refine ⟨hw.valid, hw.seqno ▸ hfollows.unused, ?_, ?_⟩
  · have hseqnos : ∀ seqno ∈ (rows.step :: rows.capture.steps).map StepRow.seqno,
        seqno ∉ view.steps.map StepRow.seqno := by
      intro seqno hseqno
      obtain ⟨step, hmem, rfl⟩ := List.mem_map.mp hseqno
      rcases List.mem_cons.mp hmem with rfl | hmem
      · exact hstep
      · have hlater := hfree step hmem
        rw [List.map_append, List.mem_append, not_or] at hlater
        exact hlater.1
    have hnumbers := hw.numberedFrom
    rw [NumberedFrom, List.singleton_append] at hnumbers
    rw [hnumbers] at hseqnos
    intro j _ hj
    exact hseqnos _ (List.mem_map_of_mem (List.mem_range.mpr hj))
  · refine ⟨rows.capture.contract, rows.capture.result, hw.contract.trans hw.capture.contract, ?_,
      ?_⟩
    · rw [← hw.taskoid, ← hw.goal, ← hw.inputPresent]
      exact hw.capture.result
    · rw [TaskRow.chargeAll_updateRuntime] at hafford₂
      have hall := TaskRow.affords_append.mpr
        ⟨TaskRow.affords_updateRuntime.mp hafford₁, TaskRow.affords_updateRuntime.mp hafford₂⟩
      rw [TaskRow.retryCharges, ← hw.taskoid, ← hw.inputPresent]
      exact hall

/-- A due retry is dispatched exactly when it can be. -/
theorem qxRuntimeDispatchRetryTask_succeeds_iff
    (hdue : candidate.Due env slot (s.catalog.view taskoid) earlier) :
    (qxRuntimeDispatchRetryTask env slot candidate).Succeeds s ↔
      candidate.Dispatchable env (s.catalog.view taskoid) := by
  constructor
  · rintro ⟨journal, dispatched, h⟩
    obtain ⟨rows, ctx, hw, rfl, hm⟩ := qxRuntimeDispatchRetryTask_returns hdue h
    have htask : ctx.taskoid = taskoid := hw.taskoid.trans (due_taskoid hdue)
    have hp := hm.permitted
    rw [← htask] at hp ⊢
    exact RetryRows.Written.dispatchable (htask ▸ hw) (htask ▸ hdue.current) hp
  · intro h
    exact (qxRuntimeDispatchRetryTask_attains hdue (due_taskoid hdue) h).succeeds

end dispatch

section cycle

variable {task : TaskRow} {intake : RetryIntake}

lemma qxRuntimeDeadLetterRetryTask_succeeds {candidate : RetryCandidate} {taskoid : Oid}
    {earlier : List AttemptRow} (hdue : candidate.Due env slot (s.catalog.view taskoid) earlier) :
    (qxRuntimeDeadLetterRetryTask env candidate).Succeeds s := by
  have hcond : ¬(candidate.task.state != .queued || candidate.failed.state != .failed) = true := by
    rw [hdue.state, hdue.failed]
    decide
  have htask := due_taskoid hdue
  have hmem := List.mem_map_of_mem (f := AttemptRow.oid) hdue.current.last_mem
  suffices h : (qxRuntimeDeadLetterRetryTask env candidate).Attains (Backend.view taskoid)
    (s.view taskoid) fun _ _ => True from h.succeeds
  rw [qxRuntimeDeadLetterRetryTask, if_neg hcond]
  refine attains_bind (insertSchedulerQueue_attains (due_queue_mem hdue).1 fun _ _ => ?_)
  refine attains_bind (updateAttemptState_attains hmem ?_)
  rw [htask]
  refine attains_bind (updateTaskRuntime_attains hdue.current.task_eq ?_)
  exact attains_bind (insertTrace_attains (attains_pure trivial))

lemma retryTask_succeeds (hsound : (s.catalog.view task.oid).Sound)
    (htask : (s.catalog.view task.oid).task = some task) :
    (retryTask env slot intake task).Succeeds s := by
  obtain ⟨earlier, last, hcurrent⟩ := hsound.current task htask
  have hlookup := lookupAttempt_of_mem hcurrent.last_mem
  rw [← hcurrent.last_eq] at hlookup
  unfold retryTask
  split
  · exact succeeds_pure _
  rename_i hqueued
  split
  · exact succeeds_pure _
  rename_i howned
  refine succeeds_bind (lookupAttempt_succeeds hlookup) ?_
  refine succeeds_catalog_bind ?_
  split
  · exact succeeds_pure _
  rename_i hfailed
  split
  · exact succeeds_pure _
  rename_i queue hqueue
  unfold considerRetry
  split
  · exact succeeds_pure _
  rename_i hasks
  split
  · exact succeeds_pure _
  rename_i hready
  dsimp only
  split
  · simp only [Bool.or_eq_true, bne_iff_ne, ne_eq, not_or, not_not, Bool.not_eq_true', oidIsValid,
      bne_eq_false_iff_eq] at hqueued howned hfailed hasks
    have hdue : RetryCandidate.Due ⟨task, last, queue⟩ env slot (s.catalog.view task.oid) earlier :=
      ⟨hcurrent, lookupLatestQueue_eq .. ▸ hqueue, hqueued.1.1, hqueued.2, by simpa using howned,
        hfailed, by simpa using hasks, not_lt.mp hready⟩
    obtain ⟨journal, dead, hdead⟩ := qxRuntimeDeadLetterRetryTask_succeeds hdue
    exact succeeds_bind hdead (succeeds_pure _)
  · exact succeeds_pure _

lemma retryPass_succeeds (hcat : s.catalog.Sound) :
    (fold (retryTask env slot) (s.catalog.buildTaskInfoList env invalidOid)
      ⟨.zero, none⟩).Succeeds s := by
  refine fold_succeeds (I := fun rest t (intake : RetryIntake) =>
    RetryPass env slot (env.inputs s.catalog.agents) s rest t intake.selected) ?_
    (RetryPass.initially s)
  intro task rest t intake hpass
  have hsound := hpass.evolves.sound hcat task.oid
  obtain ⟨journal, intake', hreturns⟩ : (retryTask env slot intake task).Succeeds t :=
    retryTask_succeeds hsound hpass.head_task
  exact ⟨journal, intake', hreturns,
    hpass.next hcat (retryTask_returns hsound hpass.head_task hreturns)⟩

lemma RetryPass.selected_succeeds_iff {start : Backend} {inputs : Inputs}
    {selected : Option RetryCandidate} {candidate : RetryCandidate}
    (hpass : RetryPass env slot inputs start [] s selected) (hcat : start.catalog.Sound)
    (h : selectedRetry env slot start.catalog = some candidate) :
    (qxRuntimeDispatchRetryTask env slot candidate).Succeeds s ↔
      candidate.Dispatchable env (start.catalog.view candidate.task.oid) := by
  have hview := hpass.view_selected hcat h
  have hsound := hpass.evolves.sound hcat candidate.task.oid
  obtain ⟨hdue, -⟩ := selectedRetry_due hcat h
  rw [← hview] at hdue ⊢
  obtain ⟨earlier, hcandidate⟩ := due_of_dueRetry hsound hdue
  exact qxRuntimeDispatchRetryTask_succeeds_iff hcandidate

/-- The cycle succeeds exactly when the retry that it dispatches, if any, can be dispatched. -/
theorem qxRuntimeRunSchedulerRetryCycle_succeeds_iff (hcat : s.catalog.Sound) :
    (qxRuntimeRunSchedulerRetryCycle env slot).Succeeds s ↔
      ∀ candidate, selectedRetry env slot s.catalog = some candidate →
        candidate.Dispatchable env (s.catalog.view candidate.task.oid) := by
  constructor
  · rintro ⟨journal, stats, h⟩ candidate hselected
    obtain ⟨swept, -, -, hpass, hrest⟩ :=
      qxRuntimeRunSchedulerRetryCycle_returns (env.inputs s.catalog.agents) hcat h
    rw [hselected] at hrest
    obtain ⟨rest, dispatched, -, hdispatch⟩ := hrest
    exact (hpass.selected_succeeds_iff hcat hselected).mp ⟨rest, dispatched, hdispatch⟩
  · intro h
    obtain ⟨swept, intake, hswept⟩ : (fold (retryTask env slot)
        (s.catalog.buildTaskInfoList env invalidOid) ⟨.zero, none⟩).Succeeds s :=
      retryPass_succeeds hcat
    have hpass := retryPass_returns (env.inputs s.catalog.agents) hcat hswept
    have hchoice : intake.selected = selectedRetry env slot s.catalog := hpass.choice
    refine succeeds_catalog_bind (succeeds_bind hswept ?_)
    rw [hchoice]
    split
    · exact succeeds_pure _
    · rename_i candidate hselected
      obtain ⟨rest, dispatched, hdispatch⟩ :=
        (hpass.selected_succeeds_iff hcat hselected).mpr (h candidate hselected)
      exact succeeds_bind hdispatch (succeeds_pure _)

end cycle

end QhapaqXian
