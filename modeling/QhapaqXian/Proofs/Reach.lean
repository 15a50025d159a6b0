import QhapaqXian.Proofs.Hooks
import QhapaqXian.Proofs.Retry
import QhapaqXian.World

/-!
# Runs of the server

Every transaction that commits recovers tasks and then takes them through steps of their life, so
what these steps keep holds in every world that a run reaches.
-/

namespace QhapaqXian

open Library Script Txn

lemma agents_apply (cat : Catalog) (action : Action) : (cat.apply action).agents = cat.agents := by
  cases action <;> rfl

lemma agents_replay (s : Backend) (journal : List Action) :
    (replay s journal).catalog.agents = s.catalog.agents := by
  induction journal generalizing s with
  | nil => rfl
  | cons action actions ih =>
    rw [replay_cons, ih]
    exact agents_apply s.catalog action

def Command.scope (env : Env) (s : Backend) : Command → Oid → Prop
  | .runTask .. | .resumeTask _ | .startUncheckpointedTask .. | .startExhaustedRetryTask .. =>
    startupScope env env.userid s
  | .startupRecovery | .failoverRebuild => scanScope env env.userid
  | .semanticReplay | .schedulerCycle _ | .retryCycle _ | .startRecoveryAttempt _ | .workerTick =>
    fun _ => False

section commands

variable {env : Env} {s : Backend} {journal : List Action} {u : Unit}

lemma RecoversThenEvolves.stages {inputs : Inputs} {ownerid moved : Oid} (hcat : s.catalog.Sound)
    (h : RecoversThenEvolves env ownerid inputs s journal moved) :
    ∃ mid, s.catalog.Recovers (startupScope env ownerid s) mid ∧
      mid.Evolves inputs (replay s journal).catalog := by
  obtain ⟨scanned, hscan, hevolves, -⟩ := h
  exact ⟨_, qxRuntimeEnsureStartupRecoveryScan_recovers hcat hscan, hevolves⟩

lemma effectiveOwner_effectiveOwner (env : Env) (ownerid : Oid) :
    effectiveOwner env (effectiveOwner env ownerid) = effectiveOwner env ownerid := by
  unfold effectiveOwner
  split <;> simp_all

lemma testRunStartupRecovery_recovers (hcat : s.catalog.Sound)
    (h : (testRunStartupRecovery env).Returns s journal u) :
    s.catalog.Recovers (scanScope env env.userid) (replay s journal).catalog := by
  unfold testRunStartupRecovery at h
  obtain ⟨rest, hscan, rfl⟩ := returns_record_bind_iff.mp h
  have hrec := qxRuntimeEnsureStartupRecoveryScan_recovers
    (s := Replay.apply s Action.forgetStartupRecovery) hcat hscan
  refine hrec.mono fun ownerid hscope => ?_
  rw [scanScope, ← effectiveOwner_effectiveOwner]
  exact hscope.2

lemma returns_of_discard {α : Type} {x : Txn α}
    (h : (x >>= fun _ => pure ()).Returns s journal u) : ∃ a, x.Returns s journal a := by
  obtain ⟨first, a, rest, hx, h, hr⟩ := returns_bind_iff.mp h
  rw [(returns_pure_iff.mp h).1, List.append_nil] at hr
  exact ⟨a, hr ▸ hx⟩

lemma testRunSemanticReplay_recovers {scope : Oid → Prop} (hcat : s.catalog.Sound)
    (h : (testRunSemanticReplay env).Returns s journal u) :
    s.catalog.Recovers scope (replay s journal).catalog := by
  obtain ⟨_, h⟩ := returns_of_discard h
  unfold qxRecoveryRunFailoverRebuild at h
  obtain ⟨requeued, fenced, leases, traces, heffect⟩ := qxRecoveryRunStartupScan_returns hcat h
  obtain ⟨happends, hrequeue, hleases, hfenced, -, -⟩ := heffect
  -- The hooks for tasks and attempts are missing, so both loops pass over everything.
  simp only [tasksToRequeue, Bool.and_false, List.filter_false] at hrequeue
  simp only [attemptsToFence, Bool.and_false, List.filter_false] at hleases hfenced
  obtain rfl := List.forall₂_nil_left_iff.mp hrequeue
  obtain rfl := List.forall₂_nil_left_iff.mp hleases
  obtain rfl := List.eq_nil_iff_forall_not_mem.mpr fun row hrow =>
    List.not_mem_nil (hfenced row hrow).choose_spec.1
  intro taskoid
  rw [happends.view_eq taskoid]
  simp only [List.filter_nil, List.append_nil]
  exact .refl

/-- Every command recovers and then takes tasks through their life. -/
theorem Command.script_stages (command : Command) (hcat : s.catalog.Sound)
    (h : (command.script env).Returns s journal u) :
    ∃ mid, s.catalog.Recovers (command.scope env s) mid ∧
      mid.Evolves (env.inputs s.catalog.agents) (replay s journal).catalog := by
  cases command with
  | runTask stmt authorization =>
    obtain ⟨_, h⟩ := returns_of_discard h
    exact (runTask_evolves hcat h).1.stages hcat
  | resumeTask stmt =>
    obtain ⟨_, h⟩ := returns_of_discard h
    exact (resumeTask_returns _ hcat h).stages.stages hcat
  | schedulerCycle slot =>
    obtain ⟨_, h⟩ := returns_of_discard h
    exact ⟨_, .refl _, (qxRuntimeRunSchedulerCycle_evolves hcat h).1⟩
  | retryCycle slot =>
    obtain ⟨_, h⟩ := returns_of_discard h
    exact ⟨_, .refl _, (qxRuntimeRunSchedulerRetryCycle_evolves hcat h).1⟩
  | startupRecovery =>
    exact ⟨_, testRunStartupRecovery_recovers hcat h, .refl _⟩
  | failoverRebuild =>
    obtain ⟨_, h⟩ := returns_of_discard h
    have hrec := qxRecoveryRunFailoverRebuild_recovers hcat h
    exact ⟨_, hrec, .refl _⟩
  | semanticReplay =>
    exact ⟨_, testRunSemanticReplay_recovers hcat h, .refl _⟩
  | startRecoveryAttempt taskoid =>
    obtain ⟨_, h⟩ := returns_of_discard h
    exact ⟨_, .refl _, (testStartRecoveryAttempt_evolves hcat h).1⟩
  | startUncheckpointedTask sessionoid priority authorization =>
    obtain ⟨_, h⟩ := returns_of_discard h
    exact (testStartUncheckpointedTask_returns hcat h).1.stages hcat
  | startExhaustedRetryTask sessionoid authorization =>
    obtain ⟨_, h⟩ := returns_of_discard h
    exact (testStartExhaustedRetryTask_evolves hcat h).stages hcat
  | workerTick => exact ⟨_, .refl _, (testRunSchedulerWorkerTick_evolves hcat h).1⟩

end commands

namespace World

variable {world world' : World} {event : Event}

lemma returns_of_commits (h : world.Commits event) :
    (event.command.script event.env).Returns (world.backend event.backend)
      (world.carriedOut event) () := by
  obtain ⟨_, hreturns⟩ := returns_of_isOk h.2
  rw [carriedOut, h.1]
  exact hreturns

/-- An event leaves the catalogs alone or takes them through the stages of its command. -/
theorem next_stages (hcat : world.catalog.Sound) (event : Event) :
    ∃ mid, world.catalog.Recovers
        (fun ownerid => world.Commits event ∧
          event.command.scope event.env (world.backend event.backend) ownerid) mid ∧
      mid.Evolves (event.env.inputs world.catalog.agents) (world.next event).catalog := by
  by_cases hcommits : world.Commits event
  · obtain ⟨mid, hrec, hevolves⟩ :=
      event.command.script_stages hcat (returns_of_commits hcommits)
    refine ⟨mid, hrec.mono fun _ hscope => ⟨hcommits, hscope⟩, ?_⟩
    rw [next, if_pos hcommits]
    exact hevolves
  · refine ⟨world.catalog, .refl _, ?_⟩
    rw [next, if_neg hcommits]
    exact .refl _

lemma agents_next (world : World) (event : Event) :
    (world.next event).catalog.agents = world.catalog.agents := by
  rw [next]
  dsimp only
  split
  · exact agents_replay _ _
  · rfl

/-- A property of tasks that recovery and every step keep is kept by every event. -/
theorem next_invariant {P : TaskView → Prop}
    (hrec : ∀ {scope view view'}, RecoveryStep scope view view' → P view → P view')
    (hstep : ∀ {inputs view view'}, TaskStep inputs view view' → P view → P view')
    (hcat : world.catalog.Sound) (h : ∀ taskoid, P (world.catalog.view taskoid))
    (taskoid : Oid) : P ((world.next event).catalog.view taskoid) := by
  obtain ⟨mid, hrecovers, hevolves⟩ := next_stages hcat event
  exact hevolves.invariant hstep (hrecovers.invariant hrec h) taskoid

lemma view_initial (agents : Table AgentRow) (taskoid : Oid) :
    (World.initial agents).catalog.view taskoid = .empty :=
  rfl

theorem Reachable.invariant {I : World → Prop}
    (hinitial : ∀ agents, I (.initial agents))
    (hnext : ∀ world event, I world → I (world.next event)) (h : world.Reachable) : I world := by
  obtain ⟨agents, hleads⟩ := h
  induction hleads with
  | refl => exact hinitial agents
  | tail _ hstep ih =>
    obtain ⟨event, -, rfl⟩ := hstep
    exact hnext _ event ih

/-- The tasks of a reachable world are sound and their attempts and steps are counted from one. -/
theorem Reachable.numbered (h : world.Reachable) (taskoid : Oid) :
    (world.catalog.view taskoid).Sound ∧ (world.catalog.view taskoid).Numbered := by
  refine h.invariant (I := fun world => ∀ taskoid, (world.catalog.view taskoid).Sound ∧
    (world.catalog.view taskoid).Numbered) ?_ ?_ taskoid
  · intro agents taskoid
    rw [view_initial]
    exact ⟨TaskView.sound_empty, TaskView.numbered_empty⟩
  · intro world event hworld
    refine next_invariant (P := fun view => view.Sound ∧ view.Numbered) ?_ ?_
      (fun taskoid => (hworld taskoid).1) hworld
    · rintro scope view view' hstep ⟨hsound, hnum⟩
      exact ⟨hstep.sound hsound, TaskStep.numbered_of_recovery hstep hnum⟩
    · rintro inputs view view' hstep ⟨hsound, hnum⟩
      exact ⟨hstep.sound hsound, hstep.numbered hsound hnum⟩

lemma Reachable.sound (h : world.Reachable) : world.catalog.Sound :=
  fun taskoid => (h.numbered taskoid).1

lemma Reachable.leads {allowed : World → Event → Prop} (h : world.Reachable)
    (hleads : World.Leads allowed world world') : world'.Reachable := by
  obtain ⟨agents, hrun⟩ := h
  refine ⟨agents, hrun.trans ?_⟩
  exact hleads.lift id fun _ _ ⟨event, _, heq⟩ => ⟨event, trivial, heq⟩

/-- The row of a finished task stays as it is. -/
theorem finished_next {taskoid : Oid} {task : TaskRow} (hcat : world.catalog.Sound)
    (htask : (world.catalog.view taskoid).task = some task)
    (hdone : task.state = .completed ∨ task.state = .failed) (event : Event) :
    ((world.next event).catalog.view taskoid).task = some task := by
  obtain ⟨mid, hrecovers, hevolves⟩ := next_stages hcat event
  have hmid : (mid.view taskoid).task = some task := by
    rw [hrecovers.view_eq taskoid]
    exact htask
  have hrun := hevolves taskoid
  generalize (world.next event).catalog.view taskoid = view' at hrun ⊢
  induction hrun with
  | refl => exact hmid
  | tail _ hlast ih => exact hlast.finished ih hdone

theorem finished_leads {allowed : World → Event → Prop} {taskoid : Oid} {task : TaskRow}
    (h : world.Reachable) (htask : (world.catalog.view taskoid).task = some task)
    (hdone : task.state = .completed ∨ task.state = .failed)
    (hleads : World.Leads allowed world world') :
    (world'.catalog.view taskoid).task = some task := by
  induction hleads with
  | refl => exact htask
  | tail hrun hstep ih =>
    obtain ⟨event, -, rfl⟩ := hstep
    exact finished_next (h.leads hrun).sound ih hdone event

end World

lemma TaskView.Numbered.last_seqno {view : TaskView} {task : TaskRow} {earlier : List AttemptRow}
    {last : AttemptRow} (h : view.Numbered) (hcurrent : view.Current task earlier last)
    (hlen : view.attempts.length < 2 ^ 15) : last.seqno = view.attempts.length := by
  have hseqnos := h.attempts hlen
  rw [hcurrent.attempts_eq, List.map_append, List.length_append, List.length_singleton,
    countUp_succ] at hseqnos
  rw [hcurrent.attempts_eq, List.length_append, List.length_singleton]
  have hsingle := List.append_inj_right' hseqnos rfl
  simpa using hsingle

/-- In every reachable world the attempts of a task are numbered from one to their count and its
pointer names the last of them, its steps are numbered from one to their count, a checkpointed task
points to a checkpoint of its own that resumes at the next step, and a finished task stays as it
is. Numbers are counted as long as they fit into an `int16`. -/
theorem reachable_task_numbering {world : World} (h : world.Reachable) {taskoid : Oid}
    {task : TaskRow} (htask : world.catalog.lookupTaskByOid taskoid = some task) :
    ((world.catalog.view taskoid).attempts.length < 2 ^ 15 →
      (world.catalog.view taskoid).attempts.map AttemptRow.seqno =
          countUp (world.catalog.view taskoid).attempts.length ∧
        ∃ attempt ∈ (world.catalog.view taskoid).attempts, attempt.oid = task.lastattemptid ∧
          attempt.seqno = (world.catalog.view taskoid).attempts.length) ∧
    ((world.catalog.view taskoid).steps.length < 2 ^ 15 →
      (world.catalog.view taskoid).steps.map StepRow.seqno =
        countUp (world.catalog.view taskoid).steps.length) ∧
    ((world.catalog.view taskoid).steps.length + 1 < 2 ^ 15 → task.state = .checkpointed →
      ∃ checkpoint ∈ (world.catalog.view taskoid).checkpoints,
        checkpoint.oid = task.lastcheckpointid ∧
          checkpoint.nextStepSeqno = (world.catalog.view taskoid).steps.length + 1) ∧
    (task.state = .completed ∨ task.state = .failed → ∀ world', World.Leads World.anyEvent world world' →
      ∃ task', world'.catalog.lookupTaskByOid taskoid = some task' ∧ task'.state = task.state) := by
  obtain ⟨hsound, hnum⟩ := h.numbered taskoid
  obtain ⟨earlier, last, hcurrent⟩ := hsound.current task htask
  refine ⟨fun hlen => ⟨hnum.attempts hlen, last, hcurrent.last_mem, hcurrent.last_eq.symm,
    hnum.last_seqno hcurrent hlen⟩, hnum.steps, fun hlen hstate => ?_, fun hdone world' hleads => ?_⟩
  · have hvalid := hsound.checkpointed task htask hstate
    obtain ⟨checkpoint, hmem, hpointer⟩ := hsound.pointer task htask hvalid
    have hunfinished : task.state ≠ .completed := by
      rw [hstate]
      decide
    exact ⟨checkpoint, hmem, hpointer,
      hnum.next hlen task htask hunfinished hvalid checkpoint hmem hpointer⟩
  · exact ⟨task, World.finished_leads h htask hdone hleads, rfl⟩

/-! ## A small server -/

def demoAgents : Table AgentRow :=
  ⟨[⟨1, "extractor".toList, []⟩], by decide, by decide⟩

def demoDirectory : Directory where
  sessions oid := if oid = 1 then some ⟨1, 1, 1, 10, true, true⟩ else none
  identityName _ := some "analyst".toList
  policyName _ := some "standard".toList
  hasPrivsOfRole role member := role == member

def demoEnv (now : TimestampTz) : Env where
  userid := 10
  now := now
  oids := .counting
  scan := .stored
  lsn := 0
  directory := demoDirectory
  tool _ := .ok ⟨6, 5, by decide, by decide⟩
  traceDetail _ _ := []

def demoContract : CString :=
  ("tool=extract;handler=extract;principal=ops;provider=local;provider_kind=loopback;" ++
    "provider_endpoint=local://runner").toList

def demoAuthorization : Except QxError ToolAuthorization :=
  .ok ⟨some "standard".toList, [demoContract], 4, 2, false⟩

def demoRunTask : Command :=
  .runTask ⟨1, some "extract".toList, "collect".toList, none, none⟩ demoAuthorization

lemma World.reachable_run (agents : Table AgentRow) (events : List Event) :
    ((World.initial agents).run events).Reachable := by
  refine ⟨agents, ?_⟩
  generalize World.initial agents = world
  induction events generalizing world with
  | nil => exact .refl
  | cons event events ih => exact .head ⟨event, trivial, rfl⟩ (ih (world.next event))

/-- A task that was run and resumed: two attempts, eight steps, and it stays completed. -/
def demoCompleted : World :=
  (World.initial demoAgents).run
    [⟨1, demoEnv 1000, demoRunTask, .commit⟩, ⟨1, demoEnv 2000, .resumeTask ⟨1, none⟩, .commit⟩]

theorem demoCompleted_task_numbering :
    ∃ task, demoCompleted.catalog.lookupTaskByOid 1 = some task ∧ task.state = .completed ∧
      (demoCompleted.catalog.view 1).attempts.length = 2 ∧
      (demoCompleted.catalog.view 1).attempts.map AttemptRow.seqno = countUp 2 ∧
      (demoCompleted.catalog.view 1).steps.length = 8 ∧
      (demoCompleted.catalog.view 1).steps.map StepRow.seqno = countUp 8 ∧
      ∀ world', World.Leads World.anyEvent demoCompleted world' →
        ∃ task', world'.catalog.lookupTaskByOid 1 = some task' ∧ task'.state = task.state := by
  have hrun : (demoCompleted.catalog.lookupTaskByOid 1).map TaskRow.state = some .completed ∧
      (demoCompleted.catalog.view 1).attempts.length = 2 ∧
      (demoCompleted.catalog.view 1).steps.length = 8 := by decide +kernel
  obtain ⟨hstate, hattempts, hsteps⟩ := hrun
  obtain ⟨task, htask, hstate⟩ := Option.map_eq_some_iff.mp hstate
  obtain ⟨hnumbers, hstepNumbers, -, hfinal⟩ :=
    reachable_task_numbering (World.reachable_run demoAgents _) htask
  rw [← demoCompleted] at hnumbers hstepNumbers hfinal
  refine ⟨task, htask, hstate, hattempts, ?_, hsteps, ?_, hfinal (.inl hstate)⟩
  · rw [← hattempts]
    exact (hnumbers (by rw [hattempts]; decide)).1
  · rw [← hsteps]
    exact hstepNumbers (by rw [hsteps]; decide)

end QhapaqXian
