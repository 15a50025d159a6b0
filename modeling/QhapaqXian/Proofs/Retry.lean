import QhapaqXian.Proofs.Supervision

/-!
# The retry cycle

What the cycle does, said over the views of the tasks at its beginning: every task whose retries
are used up is dead-lettered, and the best of the other tasks whose retry is due is dispatched.
-/

namespace QhapaqXian

open Library Script Txn

variable {earlier : List AttemptRow} {taskoid : Oid} {selected : Option RetryCandidate}
  {candidate : RetryCandidate} {intake : RetryIntake}
variable {env : Env} {inputs : Inputs} {s : Backend} {journal : List Action} {slot : WorkerSlot}

namespace TaskView

def latestQueue (view : TaskView) (attemptoid : Oid) : Option QueueRow :=
  (view.queues.filter (·.attemptoid == attemptoid)).argmax QueueRow.oid

/-- A failed task without a checkpoint that a worker owns, with its latest queue row. -/
def failedTask (slot : WorkerSlot) (view : TaskView) : Option RetryCandidate := do
  let task ← view.task
  let failed ← view.attempts.find? (·.oid == task.lastattemptid)
  let queue ← view.latestQueue failed.oid
  if task.state = .queued ∧ task.lastcheckpointid = invalidOid ∧ slot.owns task.oid = true ∧
      failed.state = .failed then
    some ⟨task, failed, queue⟩
  else none

def dueRetry (env : Env) (slot : WorkerSlot) (view : TaskView) : Option RetryCandidate :=
  (view.failedTask slot).filter fun candidate =>
    candidate.queue.asksForRetry && decide (candidate.queue.eligibleAt ≤ env.now)

end TaskView

def RetryCandidate.exhausted (candidate : RetryCandidate) : Bool :=
  decide (qxSchedulerMaxRetries ≤ candidate.queue.retryCount)

lemma lookupLatestQueue_eq (cat : Catalog) (taskoid attemptoid : Oid) :
    cat.lookupLatestSchedulerQueue invalidOid taskoid attemptoid =
      (cat.view taskoid).latestQueue attemptoid := by
  rw [TaskView.latestQueue, Catalog.view, List.filter_filter, Catalog.lookupLatestSchedulerQueue]
  congr 1
  refine List.filter_congr fun row _ => ?_
  simp [Catalog.ownerMatches, oidIsValid, Bool.and_comm]

lemma lookupAttempt_eq {cat : Catalog} {task : TaskRow} {last : AttemptRow}
    (hsound : (cat.view taskoid).Sound) (hcurrent : (cat.view taskoid).Current task earlier last) :
    (cat.view taskoid).attempts.find? (·.oid == task.lastattemptid) = some last := by
  rw [List.find?_eq_some_iff_append]
  refine ⟨by simp [hcurrent.last_eq], earlier, [], hcurrent.attempts_eq, fun attempt hattempt => ?_⟩
  have hnodup := hsound.attempts_nodup
  rw [hcurrent.attempts_eq, List.map_append, List.nodup_append] at hnodup
  rw [Bool.not_eq_true', beq_eq_false_iff_ne, hcurrent.last_eq]
  exact hnodup.2.2 _ (List.mem_map_of_mem hattempt) _ (List.mem_singleton.mpr rfl)

/-- A candidate is made of the task, its last attempt and the latest row of that attempt. -/
structure RetryCandidate.Due (candidate : RetryCandidate) (env : Env) (slot : WorkerSlot)
    (view : TaskView) (earlier : List AttemptRow) : Prop where
  current : view.Current candidate.task earlier candidate.failed
  latest : view.latestQueue candidate.failed.oid = some candidate.queue
  state : candidate.task.state = .queued
  checkpoint : candidate.task.lastcheckpointid = invalidOid
  owns : slot.owns candidate.task.oid = true
  failed : candidate.failed.state = .failed
  asks : candidate.queue.asksForRetry = true
  eligible : candidate.queue.eligibleAt ≤ env.now

section due

variable {taskoid : Oid} {task : TaskRow} {earlier : List AttemptRow} {last : AttemptRow}
  {candidate : RetryCandidate}

lemma failedTask_eq (hsound : (s.catalog.view taskoid).Sound)
    (hcurrent : (s.catalog.view taskoid).Current task earlier last) :
    (s.catalog.view taskoid).failedTask slot =
      ((s.catalog.view taskoid).latestQueue last.oid).bind fun queue =>
        if task.state = .queued ∧ task.lastcheckpointid = invalidOid ∧ slot.owns task.oid = true ∧
          last.state = .failed then some ⟨task, last, queue⟩ else none := by
  simp only [TaskView.failedTask, hcurrent.task_eq, lookupAttempt_eq hsound hcurrent,
    Option.bind_eq_bind, Option.bind_some]

lemma dueRetry_of_due (hsound : (s.catalog.view taskoid).Sound)
    (h : candidate.Due env slot (s.catalog.view taskoid) earlier) :
    (s.catalog.view taskoid).dueRetry env slot = some candidate := by
  rw [TaskView.dueRetry, failedTask_eq hsound h.current, h.latest, Option.bind_some,
    if_pos ⟨h.state, h.checkpoint, h.owns, h.failed⟩, Option.filter_some, h.asks,
    decide_eq_true h.eligible]
  rfl

lemma due_of_dueRetry (hsound : (s.catalog.view taskoid).Sound)
    (h : (s.catalog.view taskoid).dueRetry env slot = some candidate) :
    ∃ earlier, candidate.Due env slot (s.catalog.view taskoid) earlier := by
  obtain ⟨hfailed, hdue⟩ := Option.filter_eq_some_iff.mp h
  rw [Bool.and_eq_true, decide_eq_true_eq] at hdue
  cases htask : (s.catalog.view taskoid).task with
  | none =>
    simp [TaskView.failedTask, htask] at hfailed
  | some task =>
    obtain ⟨earlier, last, hcurrent⟩ := hsound.current task htask
    rw [failedTask_eq hsound hcurrent] at hfailed
    obtain ⟨queue, hqueue, hfailed⟩ := Option.bind_eq_some_iff.mp hfailed
    split at hfailed
    · rename_i hcond
      obtain rfl := Option.some.inj hfailed
      exact ⟨earlier, hcurrent, hqueue, hcond.1, hcond.2.1, hcond.2.2.1, hcond.2.2.2, hdue.1, hdue.2⟩
    · cases hfailed

lemma due_queue_mem (h : candidate.Due env slot (s.catalog.view taskoid) earlier) :
    candidate.queue.taskoid = taskoid ∧ candidate.queue.attemptoid = candidate.failed.oid := by
  obtain ⟨hmem, hattempt⟩ := List.mem_filter.mp (List.argmax_mem h.latest)
  exact ⟨beq_iff_eq.mp (List.mem_filter.mp hmem).2, beq_iff_eq.mp hattempt⟩

lemma due_taskoid (h : candidate.Due env slot (s.catalog.view taskoid) earlier) :
    candidate.task.oid = taskoid :=
  taskoid_of_lookup h.current.task_eq

end due

def RetryCandidate.DeadLetters (candidate : RetryCandidate) (env : Env) (s : Backend)
    (journal : List Action) : Prop :=
  ∃ queue trace, queue = { deadRow env candidate.queue with oid := queue.oid } ∧
    journal = settleActions candidate.task.oid queue candidate.failed.oid .failed .failed
      invalidOid ++ [.insertTrace trace] ∧
    Moves s candidate.task.oid journal

lemma qxRuntimeDeadLetterRetryTask_returns {dead : Bool}
    (hdue : candidate.Due env slot (s.catalog.view taskoid) earlier)
    (h : (qxRuntimeDeadLetterRetryTask env candidate).Returns s journal dead) :
    candidate.DeadLetters env s journal := by
  have hcond : ¬(candidate.task.state != .queued || candidate.failed.state != .failed) = true := by
    rw [hdue.state, hdue.failed]
    decide
  rw [qxRuntimeDeadLetterRetryTask, if_neg hcond] at h
  have htask := due_taskoid hdue
  have hmem := List.mem_map_of_mem (f := AttemptRow.oid) hdue.current.last_mem
  have hqueue : (deadRow env candidate.queue).taskoid = candidate.task.oid :=
    (due_queue_mem hdue).1.trans htask.symm
  obtain ⟨queue, _, _, hqueue, rfl, hmoves, htraced, rfl⟩ :=
    settle_bind_returns hqueue (htask ▸ hmem) h
  obtain ⟨_, _, _, rfl, ⟨trace, rfl, hunseen⟩, h⟩ := returns_bind_of insertTrace_moves htraced
  rw [(returns_pure_iff.mp h).1]
  exact ⟨queue, trace, hqueue, rfl, hmoves.append (hunseen _)⟩

/-- The better of two candidates, the earlier one unless the later one is strictly better. -/
def betterRetry (selected : Option RetryCandidate) (candidate : RetryCandidate) :
    Option RetryCandidate :=
  if selected.all (qxRuntimeRetryCandidateBetter candidate) then some candidate else selected

lemma selected_select (intake : RetryIntake) (candidate : RetryCandidate) :
    (intake.select candidate).selected = betterRetry intake.selected candidate := by
  rw [RetryIntake.select, betterRetry]
  split <;> rfl

/-- What the cycle does with a task whose retry may be due. -/
def RetryEffect (env : Env) (s : Backend) (selected : Option RetryCandidate)
    (journal : List Action) (selected' : Option RetryCandidate) : Option RetryCandidate → Prop
  | none => journal = [] ∧ selected' = selected
  | some candidate =>
    if candidate.exhausted then candidate.DeadLetters env s journal ∧ selected' = selected
    else journal = [] ∧ selected' = betterRetry selected candidate

lemma considerRetry_returns {intake' : RetryIntake}
    (hdue : candidate.Due env slot (s.catalog.view taskoid) earlier)
    (h : (considerRetry env intake candidate).Returns s journal intake') :
    RetryEffect env s intake.selected journal intake'.selected (some candidate) := by
  have hready : ¬env.now < candidate.queue.eligibleAt := not_lt.mpr hdue.eligible
  simp only [considerRetry, hdue.asks, Bool.not_true, Bool.false_eq_true, if_false,
    if_neg hready] at h
  simp only [RetryEffect, RetryCandidate.exhausted, decide_eq_true_eq]
  split at h
  · rename_i hexhausted
    rw [if_pos hexhausted]
    obtain ⟨_, dead, _, rfl, hdead, h⟩ :=
      returns_bind_of (qxRuntimeDeadLetterRetryTask_returns hdue) h
    obtain ⟨rfl, rfl⟩ := returns_pure_iff.mp h
    rw [List.append_nil]
    exact ⟨hdead, rfl⟩
  · rename_i hleft
    rw [if_neg hleft]
    obtain ⟨hj, rfl⟩ := returns_pure_iff.mp h
    exact ⟨hj, selected_select _ _⟩

lemma considerRetry_skips {intake' : RetryIntake}
    (hskip : ¬(candidate.queue.asksForRetry = true ∧ candidate.queue.eligibleAt ≤ env.now))
    (h : (considerRetry env intake candidate).Returns s journal intake') :
    journal = [] ∧ intake'.selected = intake.selected := by
  unfold considerRetry at h
  split at h
  · obtain ⟨hj, rfl⟩ := returns_pure_iff.mp h
    exact ⟨hj, rfl⟩
  · rename_i hasks
    split at h
    · obtain ⟨hj, rfl⟩ := returns_pure_iff.mp h
      exact ⟨hj, rfl⟩
    · rename_i hready
      rw [Bool.not_eq_true, Bool.not_eq_false'] at hasks
      exact absurd ⟨hasks, not_lt.mp hready⟩ hskip

section pass

variable {intake intake' : RetryIntake} {task : TaskRow} {earlier : List AttemptRow}
  {last : AttemptRow}

lemma dueRetry_eq_none (hsound : (s.catalog.view task.oid).Sound)
    (hcurrent : (s.catalog.view task.oid).Current task earlier last)
    (hnot : ¬(task.state = .queued ∧ task.lastcheckpointid = invalidOid ∧
      slot.owns task.oid = true ∧ last.state = .failed)) :
    (s.catalog.view task.oid).dueRetry env slot = none := by
  rw [TaskView.dueRetry, failedTask_eq hsound hcurrent]
  simp only [if_neg hnot, Option.bind_fun_none, Option.filter_none]

lemma retryEffect_of_pure {due : Option RetryCandidate}
    (h : (pure intake : Txn RetryIntake).Returns s journal intake')
    (hselected : intake.selected = selected) (hnone : due = none) :
    RetryEffect env s selected journal intake'.selected due := by
  obtain ⟨hj, rfl⟩ := returns_pure_iff.mp h
  rw [hnone]
  exact ⟨hj, hselected⟩

lemma retryAttempt_returns (hsound : (s.catalog.view task.oid).Sound)
    (hcurrent : (s.catalog.view task.oid).Current task earlier last)
    (hqueued : task.state = .queued) (hcheckpoint : task.lastcheckpointid = invalidOid)
    (howns : slot.owns task.oid = true)
    (h : (retryAttempt env intake task).Returns s journal intake') :
    RetryEffect env s intake.selected journal intake'.selected
      ((s.catalog.view task.oid).dueRetry env slot) := by
  unfold retryAttempt at h
  obtain ⟨_, failed, _, rfl, ⟨rfl, hlookup⟩, h⟩ := returns_bind_of lookupAttempt_returns h
  have hlast := lookupAttempt_of_mem hcurrent.last_mem
  rw [← hcurrent.last_eq, hlookup] at hlast
  obtain rfl := Option.some.inj hlast
  replace h := returns_catalog_bind_iff.mp h
  split at h
  · rename_i hstate
    refine retryEffect_of_pure h rfl (dueRetry_eq_none hsound hcurrent fun hcond => ?_)
    exact bne_iff_ne.mp hstate hcond.2.2.2
  rename_i hstate
  rw [Bool.not_eq_true, bne_eq_false_iff_eq] at hstate
  rw [lookupLatestQueue_eq, replay_nil] at h
  have hfailedTask : (s.catalog.view task.oid).failedTask slot = _ := failedTask_eq hsound hcurrent
  simp only [if_pos (⟨hqueued, hcheckpoint, howns, hstate⟩ : _ ∧ _ ∧ _ ∧ _)] at hfailedTask
  split at h
  · rename_i hnone
    refine retryEffect_of_pure h rfl ?_
    rw [TaskView.dueRetry, hfailedTask, hnone]
    rfl
  · rename_i queue hqueue
    by_cases hdue : queue.asksForRetry = true ∧ queue.eligibleAt ≤ env.now
    · have hcandidate : RetryCandidate.Due ⟨task, failed, queue⟩ env slot
          (s.catalog.view task.oid) earlier :=
        ⟨hcurrent, hqueue, hqueued, hcheckpoint, howns, hstate, hdue.1, hdue.2⟩
      rw [dueRetry_of_due hsound hcandidate]
      exact considerRetry_returns hcandidate h
    · obtain ⟨hj, hselected⟩ := considerRetry_skips hdue h
      have hnone : (s.catalog.view task.oid).dueRetry env slot = none := by
        rw [TaskView.dueRetry, hfailedTask, hqueue, Option.bind_some, Option.filter_some, if_neg]
        simpa using hdue
      rw [hnone]
      exact ⟨hj, hselected⟩

theorem retryTask_returns (hsound : (s.catalog.view task.oid).Sound)
    (htask : (s.catalog.view task.oid).task = some task)
    (h : (retryTask env slot intake task).Returns s journal intake') :
    RetryEffect env s intake.selected journal intake'.selected
      ((s.catalog.view task.oid).dueRetry env slot) := by
  obtain ⟨earlier, last, hcurrent⟩ := hsound.current task htask
  have hvalid : oidIsValid task.lastattemptid = true := by
    rw [hcurrent.last_eq]
    exact oidIsValid_of_mem_attempts (List.mem_map_of_mem hcurrent.last_mem)
  unfold retryTask at h
  rw [hvalid] at h
  split at h
  · rename_i hother
    refine retryEffect_of_pure h rfl (dueRetry_eq_none hsound hcurrent fun hcond => ?_)
    simp [hcond.1, hcond.2.1, oidIsValid] at hother
  rename_i hqueued
  simp only [Bool.not_true, Bool.or_false, Bool.or_eq_true, bne_iff_ne, ne_eq, not_or, not_not,
    oidIsValid] at hqueued
  split at h
  · rename_i hunowned
    refine retryEffect_of_pure h rfl (dueRetry_eq_none hsound hcurrent fun hcond => ?_)
    simp [hcond.2.2.1] at hunowned
  · rename_i howned
    rw [Bool.not_eq_true, Bool.not_eq_false'] at howned
    exact retryAttempt_returns hsound hcurrent hqueued.1 hqueued.2 howned h

end pass

def RetryCandidate.DeadLettered (candidate : RetryCandidate) (env : Env) (view view' : TaskView) :
    Prop :=
  ∃ earlier queue, view.attempts = earlier ++ [candidate.failed] ∧
    queue = { deadRow env candidate.queue with oid := queue.oid } ∧
    view' = { view with
      task := some (candidate.task.updateRuntime .failed (some candidate.failed.oid)
        (some invalidOid))
      attempts := earlier ++ [candidate.failed.setState .failed]
      queues := view.queues ++ [queue] }

/-- What the cycle makes of a task before it dispatches one. -/
def RetryHandled (env : Env) (slot : WorkerSlot) (view view' : TaskView) : Prop :=
  match view.dueRetry env slot with
  | some candidate =>
    if candidate.exhausted then candidate.DeadLettered env view view' else view' = view
  | none => view' = view

lemma deadLetters_spec (hsound : (s.catalog.view taskoid).Sound)
    (hdue : candidate.Due env slot (s.catalog.view taskoid) earlier)
    (h : candidate.DeadLetters env s journal) :
    Advances inputs s taskoid journal ∧ candidate.DeadLettered env (s.catalog.view taskoid)
      ((replay s journal).catalog.view taskoid) := by
  obtain ⟨queue, trace, hqueue, hj, hm⟩ := h
  obtain ⟨hqueueTask, hqueueAttempt⟩ := due_queue_mem hdue
  have htask : queue.taskoid = taskoid := by
    rw [hqueue]
    exact hqueueTask
  have hattempt : queue.attemptoid = candidate.failed.oid := by
    rw [hqueue]
    exact hqueueAttempt
  rw [due_taskoid hdue] at hj hm
  have hview := foldl_settleActions .failed .failed invalidOid hdue.current hsound.attempts_nodup
    htask
  refine ⟨Advances.of_moves hm ?_, earlier, queue, hdue.current.attempts_eq, hqueue, ?_⟩
  · rw [hj, List.foldl_append, hview]
    exact .deadLetter hdue.current hdue.state hdue.failed hdue.checkpoint hattempt
  · rw [hm.self, hj, List.foldl_append, hview]
    rfl

def retryChoices (env : Env) (slot : WorkerSlot) (cat : Catalog) (tasks : List TaskRow) :
    List RetryCandidate :=
  (tasks.filterMap fun task => (cat.view task.oid).dueRetry env slot).filter (!·.exhausted)

def selectedRetry (env : Env) (slot : WorkerSlot) (cat : Catalog) : Option RetryCandidate :=
  (retryChoices env slot cat (cat.buildTaskInfoList env invalidOid)).foldl betterRetry none

structure RetryPass (env : Env) (slot : WorkerSlot) (inputs : Inputs) (start : Backend)
    (rest : List TaskRow) (s : Backend) (selected : Option RetryCandidate) : Prop extends
    PassInvariant inputs start rest s where
  handled : ∀ taskoid, taskoid ∉ rest.map TaskRow.oid →
    RetryHandled env slot (start.catalog.view taskoid) (s.catalog.view taskoid)
  choice : (retryChoices env slot start.catalog rest).foldl betterRetry selected =
    selectedRetry env slot start.catalog

namespace RetryPass

variable {start : Backend} {task : TaskRow} {rest : List TaskRow}
  {selected selected' : Option RetryCandidate}

lemma initially (s : Backend) :
    RetryPass env slot inputs s (s.catalog.buildTaskInfoList env invalidOid) s none where
  toPassInvariant := PassInvariant.initially s env invalidOid
  handled taskoid hnew := by
    -- Every task is in the list, so there is none here.
    have hnone : (s.catalog.view taskoid).task = none := by
      refine Table.find?_eq_none_iff.mpr fun hmem => hnew ?_
      obtain ⟨task, htask, rfl⟩ := List.mem_map.mp hmem
      exact List.mem_map_of_mem (mem_buildTaskInfoList.mpr ⟨htask, rfl⟩)
    simp [RetryHandled, TaskView.dueRetry, TaskView.failedTask, hnone]
  choice := rfl

lemma handled_cons (h : RetryPass env slot inputs start (task :: rest) s selected)
    (hadv : ∀ other, other ≠ task.oid →
      (replay s journal).catalog.view other = s.catalog.view other)
    (hself : RetryHandled env slot (start.catalog.view task.oid)
      ((replay s journal).catalog.view task.oid)) (taskoid : Oid)
    (hdone : taskoid ∉ rest.map TaskRow.oid) :
    RetryHandled env slot (start.catalog.view taskoid)
      ((replay s journal).catalog.view taskoid) := by
  by_cases hother : taskoid = task.oid
  · exact hother ▸ hself
  · rw [hadv taskoid hother]
    refine h.handled taskoid fun hmem => ?_
    rcases List.mem_cons.mp hmem with hsame | hrest
    · exact hother hsame
    · exact hdone hrest

lemma next (hcat : start.catalog.Sound)
    (h : RetryPass env slot inputs start (task :: rest) s selected)
    (heffect : RetryEffect env s selected journal selected'
      ((s.catalog.view task.oid).dueRetry env slot)) :
    RetryPass env slot inputs start rest (replay s journal) selected' := by
  have hview := h.unread task List.mem_cons_self
  have hsound := h.evolves.sound hcat task.oid
  have hchoice := h.choice
  rw [retryChoices, List.filterMap_cons] at hchoice
  cases hdue : (s.catalog.view task.oid).dueRetry env slot with
  | none =>
    rw [hdue] at heffect
    obtain ⟨rfl, rfl⟩ := heffect
    have hnone := hdue
    rw [hview] at hnone
    rw [hnone] at hchoice
    refine ⟨h.toPassInvariant.next (Advances.nil s task.oid),
      h.handled_cons (fun _ _ => rfl) ?_, hchoice⟩
    simp only [RetryHandled, hnone]
    exact hview
  | some candidate =>
    obtain ⟨earlier, hcandidate⟩ := due_of_dueRetry hsound hdue
    have hsome := hdue
    rw [hview] at hsome
    rw [hdue, RetryEffect] at heffect
    rw [hsome] at hchoice
    split at heffect
    · rename_i hexhausted
      obtain ⟨hdead, rfl⟩ := heffect
      obtain ⟨hadv, hletter⟩ := deadLetters_spec hsound hcandidate hdead
      rw [List.filter_cons_of_neg (by simp [hexhausted])] at hchoice
      refine ⟨h.toPassInvariant.next hadv, h.handled_cons hadv.other ?_, hchoice⟩
      simp only [RetryHandled, hsome, if_pos hexhausted]
      exact hview ▸ hletter
    · rename_i hleft
      obtain ⟨rfl, rfl⟩ := heffect
      rw [List.filter_cons_of_pos (by simpa using hleft), List.foldl_cons] at hchoice
      refine ⟨h.toPassInvariant.next (Advances.nil s task.oid),
        h.handled_cons (fun _ _ => rfl) ?_, hchoice⟩
      simp only [RetryHandled, hsome, if_neg hleft]
      exact hview

end RetryPass

/-- The part of the cycle before its dispatch. -/
theorem retryPass_returns (inputs : Inputs) (hcat : s.catalog.Sound)
    (h : (fold (retryTask env slot) (s.catalog.buildTaskInfoList env invalidOid)
      ⟨.zero, none⟩).Returns s journal intake) :
    RetryPass env slot inputs s [] (replay s journal) intake.selected := by
  refine fold_returns (I := fun rest t (intake : RetryIntake) =>
    RetryPass env slot inputs s rest t intake.selected) ?_ (RetryPass.initially s) h
  intro task rest t intake written intake' hpass hreturns
  exact hpass.next hcat (retryTask_returns (hpass.evolves.sound hcat task.oid) hpass.head_task
    hreturns)

/-- The check of `qx_scheduler_runtime_contract_is_valid`, on the columns of a stored task. -/
def TaskRow.contractIsValid (task : TaskRow) : Bool :=
  oidIsValid task.sessionoid && oidIsValid task.agentoid && oidIsValid task.identityoid &&
    oidIsValid task.namespacePolicyOid && decide (0 ≤ task.budgetTokens) &&
    decide (0 ≤ task.budgetCost) && decide (0 ≤ task.estimatedTokens) &&
    decide (0 ≤ task.estimatedCost)

lemma retryDispatchEnvelope_valid (env : Env) (cat : Catalog) (task : TaskRow) (attemptoid : Oid)
    (seqno : Int) (contract : CString) :
    qxSchedulerRuntimeContractIsValid
      (retryDispatchEnvelope env cat task attemptoid seqno contract) = task.contractIsValid := by
  have htexts : (retryDispatchEnvelope env cat task attemptoid seqno contract).taskName.isSome =
      true ∧ (retryDispatchEnvelope env cat task attemptoid seqno contract).priority.isSome =
        true := ⟨rfl, rfl⟩
  rw [qxSchedulerRuntimeContractIsValid, htexts.1, htexts.2, Bool.and_true, Bool.and_true]
  rfl

/-- What the dispatch of a retry writes and what its tool reports. -/
structure RetryRows where
  attempt : AttemptRow
  queue : QueueRow
  step : StepRow
  capture : CaptureRows

namespace RetryRows

def charge (taskoid : Oid) : Charge :=
  ⟨taskoid, 8, 14, "retry_dispatch"⟩

def actions (rows : RetryRows) (ctx : AttemptContext) : List Action :=
  openActions rows.attempt rows.queue ++
    ([.insertStep rows.step, .chargeTaskBudget (charge ctx.taskoid)] ++ rows.capture.actions ctx)

/-- The rows fit the candidate, and the capture is that of its new attempt. -/
structure Written (rows : RetryRows) (env : Env) (candidate : RetryCandidate)
    (ctx : AttemptContext) (base : Int) : Prop where
  taskoid : ctx.taskoid = candidate.task.oid
  ownerid : ctx.ownerid = candidate.task.ownerid
  valid : candidate.task.contractIsValid = true
  contract : qxRuntimeTaskPhaseContract candidate.task false = ctx.contract
  goal : ctx.goal = some (candidate.task.goal.getD [])
  inputPresent : ctx.inputPresent = candidate.task.input.isSome
  attempt : rows.attempt.taskoid = candidate.task.oid ∧ rows.attempt.oid = ctx.attemptoid
  seqno : rows.attempt.seqno = wrapInt16 (candidate.failed.seqno + 1)
  running : rows.attempt.state = .running
  owner : rows.attempt.ownerid = candidate.task.ownerid
  queue : rows.queue.IsFor rows.attempt.oid candidate.task.ownerid .retry .retryDispatch
  queue_taskoid : rows.queue.taskoid = candidate.task.oid
  step : rows.step.taskoid = candidate.task.oid ∧ rows.step.seqno = base
  capture : rows.capture.Written env ctx base

end RetryRows

theorem qxRuntimeDispatchRetryTask_returns {dispatched : Bool}
    (hdue : candidate.Due env slot (s.catalog.view taskoid) earlier)
    (h : (qxRuntimeDispatchRetryTask env slot candidate).Returns s journal dispatched) :
    ∃ rows ctx, RetryRows.Written rows env candidate ctx (s.catalog.maxStepSeqnoForTask taskoid) ∧
      journal = rows.actions ctx ∧ Moves s taskoid journal := by
  have hoid := due_taskoid hdue
  have hcond : ¬(candidate.task.state != .queued || candidate.failed.state != .failed) = true := by
    rw [hdue.state, hdue.failed]
    decide
  dsimp only [qxRuntimeDispatchRetryTask, qxSchedulerAppendRuntimePayload] at h
  rw [if_neg hcond] at h
  obtain ⟨contract, hcontract, h⟩ := returns_found_bind_iff.mp h
  replace h := returns_catalog_bind_iff.mp h
  obtain ⟨_, attemptoid, _, rfl, ⟨attempt, rfl, rfl, hm₁⟩, h⟩ :=
    returns_bind_of insertAttempt_returns h
  obtain ⟨_, _, _, rfl, ⟨rfl, hm₂⟩, h⟩ := returns_bind_of updateTaskRuntime_returns h
  obtain ⟨_, queueoid, _, rfl, ⟨queue, hqueue, rfl, -, hm₃⟩, h⟩ :=
    returns_bind_of insertSchedulerQueue_returns h
  obtain ⟨hvalid, h⟩ := returns_check_bind_iff.mp h
  rw [retryDispatchEnvelope_valid] at hvalid
  obtain ⟨_, stepoid, _, rfl, ⟨step, hstep, hseqno, rfl, hm₄⟩, h⟩ :=
    returns_bind_of insertStep_returns h
  obtain ⟨_, _, _, rfl, ⟨rfl, hm₅⟩, h⟩ := returns_bind_of chargeTaskBudget_returns h
  have hqueueTask : queue.taskoid = candidate.task.oid := by
    rw [hqueue]
    rfl
  have hopen := hm₁.append (hm₂.append hm₃)
  change Moves s candidate.task.oid (openActions _ queue) at hopen
  have hmem := (hm₄.append hm₅).mem_attempts rfl
    (hopen.mem_opened (hoid ▸ hdue.current.task_eq) rfl hqueueTask)
  obtain ⟨_, _, _, rfl, ⟨rows, hrows, rfl, hm₆⟩, h⟩ :=
    returns_bind_of (captureAttempt_returns ⟨rfl, rfl, rfl⟩ hmem) h
  obtain ⟨rfl, rfl⟩ := returns_pure_iff.mp h
  rw [List.append_nil]
  refine ⟨⟨_, queue, step, rows⟩, (retryContext slot candidate.task contract
    (retryDispatchEnvelope env s.catalog candidate.task attemptoid
      (wrapInt16 (candidate.failed.seqno + 1)) contract) queueoid stepoid).toAttemptContext,
    ?_, rfl, ?_⟩
  rotate_left
  · rw [← hoid]
    exact hm₁.append (hm₂.append (hm₃.append (hm₄.append (hm₅.append hm₆))))
  · rw [← hoid]
    exact {
      taskoid := rfl
      ownerid := rfl
      valid := hvalid
      contract := hcontract
      goal := rfl
      inputPresent := rfl
      attempt := ⟨rfl, rfl⟩
      seqno := rfl
      running := rfl
      owner := rfl
      queue := by
        rw [hqueue]
        exact ⟨rfl, rfl, rfl, rfl⟩
      queue_taskoid := hqueueTask
      step := ⟨hstep, hseqno⟩
      capture := hrows }

namespace RetryRows.Written

variable {rows : RetryRows} {candidate : RetryCandidate} {ctx : AttemptContext} {view : TaskView}
  {earlier : List AttemptRow}

lemma numberedFrom (hw : rows.Written env candidate ctx (wrapInt16 view.nextStep)) :
    NumberedFrom view.nextStep ([rows.step] ++ rows.capture.steps) := by
  have hfive : List.range ([rows.step] ++ rows.capture.steps).length = [0, 1, 2, 3, 4] := rfl
  have hzero : view.nextStep + ((0 : Nat) : Int) = view.nextStep := Int.add_zero _
  rw [NumberedFrom, List.map_append, hw.capture.seqnos, hfive]
  simp only [List.map_cons, List.map_nil, hw.step.2, wrapInt16_wrapInt16_add, List.cons_append,
    List.nil_append, hzero]
  rfl

lemma next (view : TaskView) :
    wrapInt16 (wrapInt16 view.nextStep + 5) =
      wrapInt16 (view.nextStep + ([rows.step] ++ rows.capture.steps).length) := by
  rw [wrapInt16_wrapInt16_add]
  rfl

lemma foldl_before (hw : rows.Written env candidate ctx (wrapInt16 view.nextStep))
    (hcurrent : view.Current candidate.task earlier candidate.failed) :
    ([.insertStep rows.step, .chargeTaskBudget (charge ctx.taskoid)] : List Action).foldl
        (TaskView.apply ctx.taskoid)
        ((openActions rows.attempt rows.queue).foldl (TaskView.apply ctx.taskoid) view) =
      { view.opened candidate.task rows.attempt rows.queue with
        task := some ((candidate.task.updateRuntime .running (some rows.attempt.oid)
          none).chargeAll [charge ctx.taskoid])
        steps := view.steps ++ [rows.step]
        charges := view.charges ++ [charge ctx.taskoid] } := by
  have htask := hw.taskoid
  rw [foldl_openActions hcurrent.task_eq (hw.attempt.1.trans htask.symm)
    (hw.queue_taskoid.trans htask.symm)]
  simp only [List.foldl_cons, List.foldl_nil, TaskView.apply, hw.step.1.trans htask.symm, if_true,
    TaskView.opened, Option.map_some, charge]
  rfl

/-- A retry opens the next attempt of a failed task and captures it. -/
theorem run (agents : Table AgentRow)
    (hw : rows.Written env candidate ctx (wrapInt16 view.nextStep)) (hsound : view.Sound)
    (hcurrent : view.Current candidate.task earlier candidate.failed)
    (hstate : candidate.task.state = .queued)
    (hcheckpoint : candidate.task.lastcheckpointid = invalidOid)
    (hfailed : candidate.failed.state = .failed)
    (hp : view.PermitsAll ctx.taskoid (rows.actions ctx)) :
    Relation.ReflTransGen (TaskStep (env.inputs agents)) view
      ((rows.actions ctx).foldl (TaskView.apply ctx.taskoid) view) := by
  obtain ⟨hopen, hp⟩ := TaskView.permitsAll_append.mp hp
  obtain ⟨hp, hcapture⟩ := TaskView.permitsAll_append.mp hp
  have hfollows := follows_of_permits hw.seqno hopen
  rw [hw.foldl_before hcurrent] at hcapture
  rw [actions, List.foldl_append, List.foldl_append, hw.foldl_before hcurrent]
  have hheld : rows.capture.held.IsFor rows.attempt.oid candidate.task.ownerid .held := by
    rw [hw.attempt.2, ← hw.ownerid]
    exact hw.capture.held
  refine .head (.retry hcurrent hstate hcheckpoint hfailed hfollows hw.running hw.owner hw.queue
    hheld) (.single ?_)
  have hafford : (candidate.task.updateRuntime .running (some rows.attempt.oid) none).Affords
      [charge ctx.taskoid] := by
    rw [foldl_openActions hcurrent.task_eq (hw.attempt.1.trans hw.taskoid.symm)
      (hw.queue_taskoid.trans hw.taskoid.symm)] at hp
    obtain ⟨-, ⟨task, htask, hafford⟩, -⟩ := hp
    simp only [TaskView.apply, hw.step.1.trans hw.taskoid.symm, if_true, TaskView.opened,
      Option.some.injEq] at htask
    exact htask ▸ hafford
  exact hw.capture.capture (view.opened candidate.task rows.attempt rows.queue) [rows.step]
    [charge ctx.taskoid] ⟨rfl, rfl, rfl⟩ hw.attempt.2 hw.ownerid.symm rfl hw.running
    (nodup_map_concat hsound.attempts_nodup hfollows.fresh) hw.numberedFrom (next view) hafford
    (hw.capture.bills agents (by simp [charge]) (by simp [charge])) hcapture

lemma captured (hw : rows.Written env candidate ctx (wrapInt16 view.nextStep)) (hsound : view.Sound)
    (hcurrent : view.Current candidate.task earlier candidate.failed)
    (hp : view.PermitsAll ctx.taskoid (rows.actions ctx)) :
    ∃ task, ((rows.actions ctx).foldl (TaskView.apply ctx.taskoid) view).task = some task ∧
      task.state = .checkpointed := by
  obtain ⟨hopen, -⟩ := TaskView.permitsAll_append.mp hp
  have hfollows := follows_of_permits hw.seqno hopen
  rw [actions, List.foldl_append, List.foldl_append, hw.foldl_before hcurrent,
    hw.capture.view_eq { view.opened candidate.task rows.attempt rows.queue with
      task := some ((candidate.task.updateRuntime .running (some rows.attempt.oid)
        none).chargeAll [charge ctx.taskoid])
      steps := view.steps ++ [rows.step]
      charges := view.charges ++ [charge ctx.taskoid] } rfl rfl hw.attempt.2
      (nodup_map_concat hsound.attempts_nodup hfollows.fresh)]
  exact ⟨_, rfl, rfl⟩

end RetryRows.Written

section dispatch

variable {candidate : RetryCandidate} {taskoid : Oid} {earlier : List AttemptRow}
  {dispatched : Bool}

theorem qxRuntimeDispatchRetryTask_advances (agents : Table AgentRow)
    (hsound : (s.catalog.view taskoid).Sound)
    (hdue : candidate.Due env slot (s.catalog.view taskoid) earlier)
    (h : (qxRuntimeDispatchRetryTask env slot candidate).Returns s journal dispatched) :
    Advances (env.inputs agents) s taskoid journal := by
  obtain ⟨rows, ctx, hw, hj, hm⟩ := qxRuntimeDispatchRetryTask_returns hdue h
  have htask : ctx.taskoid = taskoid := hw.taskoid.trans (due_taskoid hdue)
  have hp := hm.permitted
  rw [hj, ← htask] at hp
  refine ⟨?_, hm.other, hm.snapshot⟩
  rw [hm.self, hj, ← htask]
  exact RetryRows.Written.run agents (htask ▸ hw) (htask ▸ hsound) (htask ▸ hdue.current) hdue.state
    hdue.checkpoint hdue.failed hp

end dispatch

/-- The cycle: a pass over the tasks and the dispatch of the best candidate. -/
theorem qxRuntimeRunSchedulerRetryCycle_returns {stats : CycleStats} (inputs : Inputs)
    (hcat : s.catalog.Sound)
    (h : (qxRuntimeRunSchedulerRetryCycle env slot).Returns s journal stats) :
    ∃ swept intake, (fold (retryTask env slot) (s.catalog.buildTaskInfoList env invalidOid)
        ⟨.zero, none⟩).Returns s swept intake ∧
      RetryPass env slot inputs s [] (replay s swept) (selectedRetry env slot s.catalog) ∧
      match selectedRetry env slot s.catalog with
      | none => journal = swept
      | some candidate => ∃ rest dispatched, journal = swept ++ rest ∧
        (qxRuntimeDispatchRetryTask env slot candidate).Returns (replay s swept) rest
          dispatched := by
  unfold qxRuntimeRunSchedulerRetryCycle at h
  replace h := returns_catalog_bind_iff.mp h
  obtain ⟨swept, intake, _, rfl, hswept, h⟩ := returns_bind_of id h
  have hpass := retryPass_returns inputs hcat hswept
  have hchoice : intake.selected = selectedRetry env slot s.catalog := hpass.choice
  rw [hchoice] at hpass h
  refine ⟨swept, intake, hswept, hpass, ?_⟩
  cases hselected : selectedRetry env slot s.catalog with
  | none =>
    rw [hselected] at h
    rw [(returns_pure_iff.mp h).1, List.append_nil]
  | some candidate =>
    rw [hselected] at h
    obtain ⟨rest, dispatched, _, rfl, hdispatch, h⟩ := returns_bind_of id h
    refine ⟨rest, dispatched, ?_, hdispatch⟩
    rw [(returns_pure_iff.mp h).1, List.append_nil]

lemma mem_of_foldl_betterRetry {choices : List RetryCandidate}
    (h : choices.foldl betterRetry selected = some candidate) :
    selected = some candidate ∨ candidate ∈ choices := by
  induction choices generalizing selected with
  | nil => exact .inl h
  | cons choice choices ih =>
    rcases ih h with hselected | hmem
    · unfold betterRetry at hselected
      split at hselected
      · exact .inr (Option.some.inj hselected ▸ List.mem_cons_self)
      · exact .inl hselected
    · exact .inr (List.mem_cons_of_mem _ hmem)

lemma selectedRetry_due {cat : Catalog} (hcat : cat.Sound)
    (h : selectedRetry env slot cat = some candidate) :
    (cat.view candidate.task.oid).dueRetry env slot = some candidate ∧
      candidate.exhausted = false := by
  rcases mem_of_foldl_betterRetry h with hnone | hmem
  · cases hnone
  · obtain ⟨hmem, hleft⟩ := List.mem_filter.mp hmem
    obtain ⟨task, htask, hdue⟩ := List.mem_filterMap.mp hmem
    obtain ⟨earlier, hcandidate⟩ := due_of_dueRetry (s := ⟨cat, none⟩) (hcat task.oid) hdue
    have hoid := due_taskoid (s := ⟨cat, none⟩) hcandidate
    exact ⟨hoid ▸ hdue, by simpa using hleft⟩

lemma RetryPass.view_selected {start : Backend}
    (hpass : RetryPass env slot inputs start [] s selected) (hcat : start.catalog.Sound)
    (h : selectedRetry env slot start.catalog = some candidate) :
    s.catalog.view candidate.task.oid = start.catalog.view candidate.task.oid := by
  obtain ⟨hdue, hleft⟩ := selectedRetry_due hcat h
  have hhandled := hpass.handled candidate.task.oid List.not_mem_nil
  rw [RetryHandled, hdue] at hhandled
  simpa [hleft] using hhandled

theorem qxRuntimeRunSchedulerRetryCycle_evolves {stats : CycleStats} {agents : Table AgentRow}
    (hcat : s.catalog.Sound)
    (h : (qxRuntimeRunSchedulerRetryCycle env slot).Returns s journal stats) :
    s.catalog.Evolves (env.inputs agents) (replay s journal).catalog ∧
      (replay s journal).recoverySnapshot = s.recoverySnapshot := by
  obtain ⟨swept, -, -, hpass, hrest⟩ :=
    qxRuntimeRunSchedulerRetryCycle_returns (env.inputs agents) hcat h
  cases hselected : selectedRetry env slot s.catalog with
  | none =>
    rw [hselected] at hrest
    rw [hrest]
    exact ⟨hpass.evolves, hpass.snapshot⟩
  | some candidate =>
    rw [hselected] at hrest
    obtain ⟨rest, dispatched, rfl, hdispatch⟩ := hrest
    have hview := hpass.view_selected hcat hselected
    have hsound := hpass.evolves.sound hcat candidate.task.oid
    obtain ⟨hdue, -⟩ := selectedRetry_due hcat hselected
    rw [← hview] at hdue
    obtain ⟨earlier, hcandidate⟩ := due_of_dueRetry hsound hdue
    have hadv := qxRuntimeDispatchRetryTask_advances agents hsound hcandidate hdispatch
    rw [replay_append]
    exact ⟨hpass.evolves.trans hadv.evolves, hadv.snapshot.trans hpass.snapshot⟩

end QhapaqXian
