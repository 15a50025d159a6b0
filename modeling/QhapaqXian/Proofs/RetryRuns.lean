import QhapaqXian.Proofs.Progress
import QhapaqXian.Proofs.Reach
import QhapaqXian.Proofs.Writes

/-!
# Runs of the retry cycle

A cycle is one transaction: the dead letters that it writes are durable only if the retry that it
dispatches succeeds, and a tool that has run is forgotten if it does not.
-/

namespace QhapaqXian

open Library Script Txn

variable {env : Env} {s : Backend} {journal : List Action} {slot : WorkerSlot}
variable {stats : CycleStats} {taskoid : Oid} {candidate : RetryCandidate}

def TaskView.deadLettered (view : TaskView) (attemptoid : Oid) : Bool :=
  view.task.any (·.state == .failed) &&
    view.queues.any fun queue => queue.attemptoid == attemptoid && queue.origin == .deadLetter

lemma RetryCandidate.DeadLettered.deadLettered {view view' : TaskView}
    (h : candidate.DeadLettered env view view')
    (hattempt : candidate.queue.attemptoid = candidate.failed.oid) :
    view'.deadLettered candidate.failed.oid = true := by
  obtain ⟨earlier, queue, -, hqueue, rfl⟩ := h
  have hrow : queue.attemptoid = candidate.failed.oid ∧ queue.origin = .deadLetter := by
    rw [hqueue]
    exact ⟨hattempt, rfl⟩
  simp [TaskView.deadLettered, TaskRow.updateRuntime, hrow]

/-- A cycle that returns has dead-lettered every task whose retries are used up. -/
theorem qxRuntimeRunSchedulerRetryCycle_deadLettered (hcat : s.catalog.Sound)
    (hdue : (s.catalog.view taskoid).dueRetry env slot = some candidate)
    (hexhausted : candidate.exhausted = true)
    (h : (qxRuntimeRunSchedulerRetryCycle env slot).Returns s journal stats) :
    ((replay s journal).catalog.view taskoid).deadLettered candidate.failed.oid = true := by
  obtain ⟨swept, -, -, hpass, hrest⟩ :=
    qxRuntimeRunSchedulerRetryCycle_returns (env.inputs s.catalog.agents) hcat h
  obtain ⟨earlier, hcandidate⟩ := due_of_dueRetry (hcat taskoid) hdue
  have hhandled := hpass.handled taskoid List.not_mem_nil
  rw [RetryHandled, hdue] at hhandled
  simp only [if_pos hexhausted] at hhandled
  have hswept : ((replay s swept).catalog.view taskoid).deadLettered candidate.failed.oid = true :=
    hhandled.deadLettered (due_queue_mem hcandidate).2
  cases hselected : selectedRetry env slot s.catalog with
  | none =>
    rw [hselected] at hrest
    rw [hrest]
    exact hswept
  | some chosen =>
    rw [hselected] at hrest
    obtain ⟨rest, dispatched, rfl, hdispatch⟩ := hrest
    have hview := hpass.view_selected hcat hselected
    have hsound := hpass.evolves.sound hcat chosen.task.oid
    obtain ⟨hchosen, hleft⟩ := selectedRetry_due hcat hselected
    -- The dispatched task has retries left, so it is another one.
    have hother : taskoid ≠ chosen.task.oid := by
      rintro rfl
      rw [hdue] at hchosen
      rw [Option.some.inj hchosen, hleft] at hexhausted
      cases hexhausted
    rw [← hview] at hchosen
    obtain ⟨earlier', hchosen⟩ := due_of_dueRetry hsound hchosen
    have hadv := qxRuntimeDispatchRetryTask_advances s.catalog.agents hsound hchosen hdispatch
    rw [replay_append, hadv.other taskoid hother]
    exact hswept

lemma succeeds_discard_iff {α : Type} {x : Txn α} :
    (x >>= fun _ => pure ()).Succeeds s ↔ x.Succeeds s := by
  constructor
  · rintro ⟨journal, u, h⟩
    obtain ⟨a, hx⟩ := returns_of_discard h
    exact ⟨journal, a, hx⟩
  · rintro ⟨journal, a, hx⟩
    exact succeeds_bind hx (succeeds_pure ())

lemma World.commits_iff {world : World} {event : Event} :
    world.Commits event ↔ event.fate = .commit ∧
      (event.command.script event.env).Succeeds (world.backend event.backend) := by
  refine and_congr_right fun _ => ?_
  unfold World.outcome
  rcases hrun : (event.command.script event.env).run (world.backend event.backend) with
    ⟨journal, result⟩
  cases result with
  | error e => simp [Succeeds, Returns, hrun, Except.isOk, Except.toBool]
  | ok u => simp [Succeeds, Returns, hrun, Except.isOk, Except.toBool]

section world

variable {world : World} {event : Event}

lemma World.commits_retryCycle_iff (hcat : world.catalog.Sound)
    (hcommand : event.command = .retryCycle slot) :
    world.Commits event ↔ event.fate = .commit ∧
      ∀ chosen, selectedRetry event.env slot world.catalog = some chosen →
        chosen.Dispatchable event.env (world.catalog.view chosen.task.oid) := by
  rw [World.commits_iff, hcommand]
  refine and_congr_right fun _ => ?_
  exact succeeds_discard_iff.trans (qxRuntimeRunSchedulerRetryCycle_succeeds_iff hcat)

/-- In a reachable world, a task whose retries are used up and whose retry row is eligible is
dead-lettered by a retry cycle exactly when the transaction of the cycle is not rolled back and the
retry that the same cycle dispatches, if any, can be dispatched. -/
theorem exhausted_retry_deadLettered_iff {taskoid : Oid} {candidate : RetryCandidate}
    (h : world.Reachable) (hcommand : event.command = .retryCycle slot)
    (hdue : (world.catalog.view taskoid).dueRetry event.env slot = some candidate)
    (hexhausted : candidate.exhausted = true) :
    ((world.next event).catalog.view taskoid).deadLettered candidate.failed.oid = true ↔
      event.fate = .commit ∧
        ∀ chosen, selectedRetry event.env slot world.catalog = some chosen →
          chosen.Dispatchable event.env (world.catalog.view chosen.task.oid) := by
  rw [← World.commits_retryCycle_iff h.sound hcommand]
  constructor
  · intro hdead
    by_contra hcommits
    rw [World.next, if_neg hcommits] at hdead
    obtain ⟨earlier, hcandidate⟩ :=
      due_of_dueRetry (s := world.backend event.backend) (h.sound taskoid) hdue
    have htask : (world.catalog.view taskoid).task = some candidate.task :=
      hcandidate.current.task_eq
    simp [TaskView.deadLettered, htask, hcandidate.state] at hdead
  · intro hcommits
    have hreturns := World.returns_of_commits hcommits
    rw [hcommand] at hreturns
    obtain ⟨stats, hreturns⟩ := returns_of_discard hreturns
    have hdead := qxRuntimeRunSchedulerRetryCycle_deadLettered h.sound hdue hexhausted hreturns
    rw [World.next, if_pos hcommits]
    exact hdead

end world

def demoSlot : WorkerSlot :=
  ⟨0, 1, "worker".toList⟩

def failingEnv (now : TimestampTz) : Env :=
  { demoEnv now with tool := fun _ => .error ⟨.internalError, "external tool failed", ""⟩ }

/-- The events that leave a task without a checkpoint and reclaim its attempt. -/
def demoReclaim : List Event :=
  [⟨1, demoEnv 1000, .startUncheckpointedTask 1 "normal".toList demoAuthorization, .commit⟩,
    ⟨2, demoEnv 1000000000, .schedulerCycle demoSlot, .commit⟩,
    ⟨2, demoEnv 2000000000, .schedulerCycle demoSlot, .commit⟩]

/-- Two tasks whose retries are due; those of the second one are used up. -/
def demoTwoRetries : World :=
  (World.initial demoAgents).run (demoReclaim ++
    [⟨1, demoEnv 2000000000, .startExhaustedRetryTask 1 demoAuthorization, .commit⟩])

def demoRetryCycle (env : Env) : Event :=
  ⟨2, env, .retryCycle demoSlot, .commit⟩

lemma demoTwoRetries_due (env : Env) (henv : env.now = 3000000000) :
    ∃ candidate, (demoTwoRetries.catalog.view 2).dueRetry env demoSlot = some candidate ∧
      candidate.exhausted = true ∧ candidate.failed.oid = 2 := by
  have hdue : ((demoTwoRetries.catalog.view 2).failedTask demoSlot).map (fun candidate =>
      (candidate.queue.asksForRetry, decide (candidate.queue.eligibleAt ≤ 3000000000),
        candidate.exhausted, candidate.failed.oid)) = some (true, true, true, 2) := by
    decide +kernel
  obtain ⟨candidate, hfailed, hfacts⟩ := Option.map_eq_some_iff.mp hdue
  simp only [Prod.mk.injEq, decide_eq_true_eq] at hfacts
  refine ⟨candidate, ?_, hfacts.2.2.1, hfacts.2.2.2⟩
  rw [TaskView.dueRetry, hfailed, henv, Option.filter_some, hfacts.1, decide_eq_true hfacts.2.1]
  rfl

theorem demoTwoRetries_deadLettered :
    ∃ candidate : RetryCandidate, candidate.exhausted = true ∧
      ((demoTwoRetries.next (demoRetryCycle (demoEnv 3000000000))).catalog.view 2).deadLettered
        candidate.failed.oid = true ∧
      ∀ chosen, selectedRetry (demoEnv 3000000000) demoSlot demoTwoRetries.catalog = some chosen →
        chosen.Dispatchable (demoEnv 3000000000)
          (demoTwoRetries.catalog.view chosen.task.oid) := by
  obtain ⟨candidate, hdue, hexhausted, hoid⟩ := demoTwoRetries_due (demoEnv 3000000000) rfl
  have hdead : ((demoTwoRetries.next (demoRetryCycle (demoEnv 3000000000))).catalog.view
      2).deadLettered candidate.failed.oid = true := by
    rw [hoid]
    decide +kernel
  have hreachable : demoTwoRetries.Reachable := World.reachable_run demoAgents _
  have hcommand : (demoRetryCycle (demoEnv 3000000000)).command = .retryCycle demoSlot := rfl
  exact ⟨candidate, hexhausted, hdead,
    ((exhausted_retry_deadLettered_iff hreachable hcommand hdue hexhausted).mp hdead).2⟩

/-- The tool of one task fails, and the dead letter of the other task is rolled back with it. -/
theorem failing_dispatch_undoes_deadLetter :
    demoTwoRetries.Reachable ∧ ∃ candidate,
      (demoTwoRetries.catalog.view 2).dueRetry (failingEnv 3000000000) demoSlot =
        some candidate ∧ candidate.exhausted = true ∧
      ((demoTwoRetries.next (demoRetryCycle (failingEnv 3000000000))).catalog.view 2).deadLettered
        candidate.failed.oid = false := by
  obtain ⟨candidate, hdue, hexhausted, hoid⟩ := demoTwoRetries_due (failingEnv 3000000000) rfl
  refine ⟨World.reachable_run demoAgents _, candidate, hdue, hexhausted, ?_⟩
  rw [hoid]
  decide +kernel

/-! ## Executions of a submit contract -/

lemma qxRuntimeRunSchedulerCycle_frame {task : TaskRow} (hcat : s.catalog.Sound)
    (htask : (s.catalog.view taskoid).task = some task) (hstate : task.state ≠ .running)
    (h : (qxRuntimeRunSchedulerCycle env slot).Returns s journal stats) :
    (replay s journal).catalog.view taskoid = s.catalog.view taskoid := by
  unfold qxRuntimeRunSchedulerCycle at h
  refine pass_visits (env.inputs s.catalog.agents)
    (R := fun view view' => view.task = some task → view' = view) hcat (fun _ _ => rfl)
    (fun t row _ _ _ hsound hrow => superviseTask_advances (hsound row.oid) hrow) ?_
    (returns_catalog_bind_iff.mp h) htask
  intro t row stats stats' written hsound hrow hread hreturns hsame
  have hrow : row = task := Option.some.inj (hread.symm.trans hsame)
  have hskip : (row.state != .running || !oidIsValid row.lastattemptid) = true := by
    rw [hrow, bne_iff_ne.mpr hstate, Bool.true_or]
  dsimp only [superviseTask] at hreturns
  rw [if_pos hskip] at hreturns
  rw [(returns_pure_iff.mp hreturns).1]
  rfl

def submitExecutions (taskoid : Oid) (executions : List Execution) : List Execution :=
  executions.filter fun execution => execution.taskoid == taskoid && execution.phase == .submit

def TaskView.InState (view : TaskView) (state : TaskState) : Prop :=
  ∃ task, view.task = some task ∧ task.state = state

/-- A scheduler cycle, or a retry cycle whose dispatch, if it makes one, succeeds and commits. -/
def cyclesCommit (world : World) (event : Event) : Prop :=
  match event.command with
  | .schedulerCycle _ => True
  | .retryCycle slot => ∀ chosen, selectedRetry event.env slot world.catalog = some chosen →
      event.fate = .commit ∧
        chosen.Dispatchable event.env (world.catalog.view chosen.task.oid)
  | _ => False

lemma qxRuntimeDispatchRetryTask_captures {earlier : List AttemptRow} {dispatched : Bool}
    (hsound : (s.catalog.view taskoid).Sound)
    (hdue : candidate.Due env slot (s.catalog.view taskoid) earlier)
    (h : (qxRuntimeDispatchRetryTask env slot candidate).Returns s journal dispatched) :
    ((replay s journal).catalog.view taskoid).InState .checkpointed ∧
      ∃ contract, journal.filterMap (Action.execution env.now) =
        [⟨taskoid, .submit, contract, env.now⟩] := by
  obtain ⟨rows, ctx, hw, hj, hm⟩ := qxRuntimeDispatchRetryTask_returns hdue h
  have htask : ctx.taskoid = taskoid := hw.taskoid.trans (due_taskoid hdue)
  have hp := hm.permitted
  have hself := hm.self
  rw [hj, ← htask] at hp
  have hcaptured :=
    RetryRows.Written.captured (htask ▸ hw) (htask ▸ hsound) (htask ▸ hdue.current) hp
  refine ⟨?_, rows.capture.contract, ?_⟩
  · rw [hself, hj, ← htask]
    exact hcaptured
  · rw [hj, ← htask]
    rfl

/-- What a cycle does to the executions of a task: none while it is checkpointed, and at most one,
which leaves it checkpointed. -/
structure ExecutesOnce (env : Env) (s : Backend) (taskoid : Oid) (journal : List Action) :
    Prop where
  checkpointed : (s.catalog.view taskoid).InState .checkpointed →
    submitExecutions taskoid (journal.filterMap (Action.execution env.now)) = [] ∧
      ((replay s journal).catalog.view taskoid).InState .checkpointed
  once : submitExecutions taskoid (journal.filterMap (Action.execution env.now)) = [] ∨
    (∃ execution,
      submitExecutions taskoid (journal.filterMap (Action.execution env.now)) = [execution]) ∧
      ((replay s journal).catalog.view taskoid).InState .checkpointed

lemma executesOnce_of_silent (hsilent : ∀ action ∈ journal, action.Silent)
    (hkept : (s.catalog.view taskoid).InState .checkpointed →
      (replay s journal).catalog.view taskoid = s.catalog.view taskoid) :
    ExecutesOnce env s taskoid journal := by
  have hnone := filterMap_execution_of_silent env.now hsilent
  refine ⟨fun hcheckpointed => ?_, .inl (by rw [hnone]; rfl)⟩
  rw [hnone, hkept hcheckpointed]
  exact ⟨rfl, hcheckpointed⟩

lemma qxRuntimeRunSchedulerCycle_executes (hcat : s.catalog.Sound)
    (h : (qxRuntimeRunSchedulerCycle env slot).Returns s journal stats) :
    ExecutesOnce env s taskoid journal := by
  refine executesOnce_of_silent ?_ ?_
  · exact (Blockwise.silent qxRuntimeRunSchedulerCycle_blocks).mem_returns h
  · rintro ⟨task, htask, hstate⟩
    exact qxRuntimeRunSchedulerCycle_frame hcat htask (by rw [hstate]; decide) h

lemma retryPass_frame {swept : List Action} {intake : RetryIntake} (taskoid : Oid)
    (hcat : s.catalog.Sound)
    (h : (fold (retryTask env slot) (s.catalog.buildTaskInfoList env invalidOid)
      ⟨.zero, none⟩).Returns s swept intake) :
    (∀ action ∈ swept, action.Silent) ∧ ((s.catalog.view taskoid).InState .checkpointed →
      (replay s swept).catalog.view taskoid = s.catalog.view taskoid) := by
  constructor
  · exact (Blockwise.silent (Built.fold retryTask_blocks _ _)).mem_returns h
  · rintro ⟨task, htask, hstate⟩
    have hhandled := (retryPass_returns (env.inputs s.catalog.agents) hcat h).handled taskoid
      List.not_mem_nil
    unfold RetryHandled at hhandled
    split at hhandled
    · rename_i candidate hdue
      obtain ⟨earlier, hcandidate⟩ := due_of_dueRetry (hcat taskoid) hdue
      have hsame := hcandidate.current.task_eq.symm.trans htask
      rw [← Option.some.inj hsame, hcandidate.state] at hstate
      cases hstate
    · exact hhandled

theorem qxRuntimeRunSchedulerRetryCycle_executes (hcat : s.catalog.Sound)
    (h : (qxRuntimeRunSchedulerRetryCycle env slot).Returns s journal stats) :
    ExecutesOnce env s taskoid journal := by
  obtain ⟨swept, intake, hswept, hpass, hrest⟩ :=
    qxRuntimeRunSchedulerRetryCycle_returns (env.inputs s.catalog.agents) hcat h
  obtain ⟨hsilent, hframe⟩ := retryPass_frame taskoid hcat hswept
  cases hselected : selectedRetry env slot s.catalog with
  | none =>
    rw [hselected] at hrest
    obtain rfl : journal = swept := hrest
    exact executesOnce_of_silent hsilent hframe
  | some chosen =>
    rw [hselected] at hrest
    obtain ⟨rest, dispatched, rfl, hdispatch⟩ := hrest
    have hview := hpass.view_selected hcat hselected
    have hsound := hpass.evolves.sound hcat chosen.task.oid
    obtain ⟨hdue, -⟩ := selectedRetry_due hcat hselected
    rw [← hview] at hdue
    obtain ⟨earlier, hcandidate⟩ := due_of_dueRetry hsound hdue
    have hadv := qxRuntimeDispatchRetryTask_advances s.catalog.agents hsound hcandidate hdispatch
    obtain ⟨hcaptured, contract, hexecutions⟩ :=
      qxRuntimeDispatchRetryTask_captures hsound hcandidate hdispatch
    have hrecent : (swept ++ rest).filterMap (Action.execution env.now) =
        [⟨chosen.task.oid, .submit, contract, env.now⟩] := by
      rw [List.filterMap_append, filterMap_execution_of_silent env.now hsilent, hexecutions]
      rfl
    by_cases hother : taskoid = chosen.task.oid
    · subst hother
      refine ⟨?_, .inr ⟨⟨⟨chosen.task.oid, .submit, contract, env.now⟩, ?_⟩, ?_⟩⟩
      · -- A checkpointed task is not due.
        rintro ⟨task, htask, hstate⟩
        rw [← hview, hcandidate.current.task_eq] at htask
        rw [← Option.some.inj htask, hcandidate.state] at hstate
        cases hstate
      · rw [hrecent]
        simp [submitExecutions]
      · rw [replay_append]
        exact hcaptured
    · have hnone : submitExecutions taskoid
          ((swept ++ rest).filterMap (Action.execution env.now)) = [] := by
        rw [hrecent]
        simp [submitExecutions, Ne.symm hother]
      refine ⟨fun hcheckpointed => ⟨hnone, ?_⟩, .inl hnone⟩
      rw [replay_append, hadv.other taskoid hother, hframe hcheckpointed]
      exact hcheckpointed

section runs

variable {world world' : World} {event : Event} {taskoid : Oid}

lemma carriedOut_subset : ∀ action ∈ world.carriedOut event, action ∈ (world.outcome event).1 := by
  intro action haction
  unfold World.carriedOut at haction
  split at haction
  · exact haction
  · exact List.mem_of_mem_take haction

lemma retryCycle_silent (hcat : world.catalog.Sound) (hcommand : event.command = .retryCycle slot)
    (hnone : selectedRetry event.env slot world.catalog = none) :
    ∀ action ∈ world.carriedOut event, action.Silent := by
  intro action haction
  obtain ⟨journal, stats, hreturns⟩ : (qxRuntimeRunSchedulerRetryCycle event.env slot).Succeeds
      (world.backend event.backend) := by
    refine (qxRuntimeRunSchedulerRetryCycle_succeeds_iff hcat).mpr fun candidate hselected => ?_
    cases hnone.symm.trans hselected
  obtain ⟨swept, intake, hswept, -, hrest⟩ := qxRuntimeRunSchedulerRetryCycle_returns
    (event.env.inputs world.catalog.agents) hcat hreturns
  simp only [World.backend, hnone] at hrest
  have hscript : ((Command.retryCycle slot).script event.env).Returns
      (world.backend event.backend) (journal ++ []) () :=
    returns_bind_iff.mpr ⟨journal, stats, [], hreturns, returns_pure_iff.mpr ⟨rfl, rfl⟩, rfl⟩
  have hmem := carriedOut_subset action haction
  rw [World.outcome, hcommand, hscript, List.append_nil, hrest] at hmem
  exact (retryPass_frame invalidOid hcat hswept).1 action hmem

lemma cyclesCommit_executes (hcat : world.catalog.Sound) (hallowed : cyclesCommit world event)
    (taskoid : Oid) :
    ExecutesOnce event.env (world.backend event.backend) taskoid (world.carriedOut event) ∧
        world.Commits event ∨
      (∀ action ∈ world.carriedOut event, action.Silent) ∧ ¬world.Commits event := by
  cases hcommand : event.command with
  | schedulerCycle slot =>
    by_cases hcommits : world.Commits event
    · have hreturns := World.returns_of_commits hcommits
      rw [hcommand] at hreturns
      obtain ⟨stats, hreturns⟩ := returns_of_discard hreturns
      exact .inl ⟨qxRuntimeRunSchedulerCycle_executes hcat hreturns, hcommits⟩
    · have hemits : (event.command.script event.env).Emits Action.Silent := by
        rw [hcommand]
        exact (Command.script_idle rfl).mono fun _ h => h.1
      exact .inr ⟨fun action haction =>
        hemits.mem_run _ action (carriedOut_subset action haction), hcommits⟩
  | retryCycle slot =>
    by_cases hcommits : world.Commits event
    · have hreturns := World.returns_of_commits hcommits
      rw [hcommand] at hreturns
      obtain ⟨stats, hreturns⟩ := returns_of_discard hreturns
      exact .inl ⟨qxRuntimeRunSchedulerRetryCycle_executes hcat hreturns, hcommits⟩
    · refine .inr ⟨retryCycle_silent hcat hcommand ?_, hcommits⟩
      simp only [cyclesCommit, hcommand] at hallowed
      by_contra hsome
      obtain ⟨chosen, hchosen⟩ := Option.ne_none_iff_exists'.mp hsome
      refine hcommits ((World.commits_retryCycle_iff hcat hcommand).mpr
        ⟨(hallowed chosen hchosen).1, fun other hother => (hallowed other hother).2⟩)
  | _ => simp [cyclesCommit, hcommand] at hallowed

/-- The executions of a task since the beginning of a run, and where they have left it. -/
def ExecutedOnce (start world : World) (taskoid : Oid) : Prop :=
  ∃ recent, world.executions = start.executions ++ recent ∧
    (submitExecutions taskoid recent = [] ∨
      (∃ execution, submitExecutions taskoid recent = [execution]) ∧
        (world.catalog.view taskoid).InState .checkpointed)

lemma ExecutedOnce.next {start : World} (h : ExecutedOnce start world taskoid)
    (hcat : world.catalog.Sound) (hallowed : cyclesCommit world event) :
    ExecutedOnce start (world.next event) taskoid := by
  obtain ⟨recent, hrecent, hcount⟩ := h
  refine ⟨recent ++ (world.carriedOut event).filterMap (Action.execution event.env.now), ?_, ?_⟩
  · rw [World.next, hrecent, List.append_assoc]
  rw [submitExecutions, List.filter_append, ← submitExecutions, ← submitExecutions]
  rcases cyclesCommit_executes hcat hallowed taskoid with ⟨hexecutes, hcommits⟩ | ⟨hsilent, hlost⟩
  · rw [World.next, if_pos hcommits]
    rcases hcount with hnone | ⟨⟨execution, hone⟩, hcheckpointed⟩
    · rw [hnone, List.nil_append]
      exact hexecutes.once
    · obtain ⟨hnew, hkept⟩ := hexecutes.checkpointed hcheckpointed
      rw [hone, hnew, List.append_nil]
      exact .inr ⟨⟨execution, rfl⟩, hkept⟩
  · rw [World.next, if_neg hlost, filterMap_execution_of_silent _ hsilent]
    rw [show submitExecutions taskoid [] = [] from rfl, List.append_nil]
    exact hcount

/-- In a run of scheduler and retry cycles in which every dispatch succeeds and commits, the submit
contract of a task is executed at most as often as the scheduler retries, and two executions are at
least a backoff apart. -/
theorem retry_executions_bounded (h : world.Reachable)
    (hleads : World.Leads cyclesCommit world world') (taskoid : Oid) :
    ∃ recent, world'.executions = world.executions ++ recent ∧
      ((submitExecutions taskoid recent).length : Int) ≤ qxSchedulerMaxRetries ∧
      (submitExecutions taskoid recent).Pairwise fun first second =>
        ∀ priority retryCount leaseTtlMs, first.executedAt +
          qxRuntimeRetryBackoffMs priority retryCount leaseTtlMs taskoid * usecsPerMsec ≤
            second.executedAt := by
  have honce : ExecutedOnce world world' taskoid := by
    induction hleads with
    | refl => exact ⟨[], (List.append_nil _).symm, .inl rfl⟩
    | tail hrun hstep ih =>
      obtain ⟨event, hallowed, rfl⟩ := hstep
      exact ih.next (h.leads hrun).sound hallowed
  obtain ⟨recent, hrecent, hnone | ⟨⟨execution, hone⟩, -⟩⟩ := honce
  · exact ⟨recent, hrecent, by rw [hnone]; decide, by rw [hnone]; exact .nil⟩
  · refine ⟨recent, hrecent, ?_, ?_⟩
    · rw [hone, List.length_singleton]
      decide
    · rw [hone]
      exact List.pairwise_singleton _ _

end runs

def demoReclaimed : World :=
  (World.initial demoAgents).run demoReclaim

theorem demoReclaimed_executions_bounded :
    (submitExecutions 1
        (demoReclaimed.next (demoRetryCycle (demoEnv 3000000000))).executions).length = 1 ∧
      ∃ recent, (demoReclaimed.next (demoRetryCycle (demoEnv 3000000000))).executions =
        demoReclaimed.executions ++ recent ∧
        ((submitExecutions 1 recent).length : Int) ≤ qxSchedulerMaxRetries := by
  have hrun : demoReclaimed.Commits (demoRetryCycle (demoEnv 3000000000)) ∧
      (submitExecutions 1
        (demoReclaimed.next (demoRetryCycle (demoEnv 3000000000))).executions).length = 1 := by
    decide +kernel
  have hreachable : demoReclaimed.Reachable := World.reachable_run demoAgents _
  obtain ⟨hfate, hdispatch⟩ := (World.commits_retryCycle_iff hreachable.sound rfl).mp hrun.1
  have hallowed : cyclesCommit demoReclaimed (demoRetryCycle (demoEnv 3000000000)) :=
    fun chosen hchosen => ⟨hfate, hdispatch chosen hchosen⟩
  obtain ⟨recent, hrecent, hbound, -⟩ :=
    retry_executions_bounded hreachable (.single ⟨_, hallowed, rfl⟩) 1
  exact ⟨hrun.2, recent, hrecent, hbound⟩

/-- Four retry cycles, a millisecond apart, of a task whose tool fails. -/
def demoFailing : World :=
  demoReclaimed.run
    [demoRetryCycle (failingEnv 3000000000), demoRetryCycle (failingEnv 3000001000),
      demoRetryCycle (failingEnv 3000002000), demoRetryCycle (failingEnv 3000003000)]

/-- The retry count is rolled back with each failure: the contract is executed more often than the
scheduler retries, without a checkpoint or a dead letter, and without waiting for a backoff. -/
theorem failing_tool_executed_without_bound :
    demoReclaimed.Reachable ∧ demoReclaimed.executions = [] ∧
      (submitExecutions 1 demoFailing.executions).map Execution.executedAt =
        [3000000000, 3000001000, 3000002000, 3000003000] ∧
      qxSchedulerMaxRetries < 4 ∧
      (demoFailing.catalog.view 1).task.map (fun task => (task.state, task.lastcheckpointid)) =
        some (.queued, invalidOid) ∧
      ((demoFailing.catalog.view 1).queues.map fun queue => queue.eligibleAt - queue.enqueuedAt) =
        [0, 9510000] := by
  refine ⟨World.reachable_run demoAgents _, ?_⟩
  decide +kernel

end QhapaqXian
