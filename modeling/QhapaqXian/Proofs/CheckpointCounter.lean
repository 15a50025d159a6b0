import QhapaqXian.Proofs.SemanticReplay
import QhapaqXian.Proofs.StatRuns

/-!
# The checkpoint counter of the runtime classes

The collector attributes a checkpoint to the runtime class that its trace names, and the traces of
checkpoints name none. So the counter agrees with the checkpoints of a database exactly as long as
there are none.
-/

namespace QhapaqXian

open Library Script Txn

variable {env : Env} {s : Backend} {journal : List Action} {slot : WorkerSlot}

/-! ## The counter -/

section counter

variable {collector heard : Collector} {layout : SchemaLayout} {dboid : Oid}

lemma not_checkpoint_of_external {name : CString} (h : isExternalTrace name = true) :
    (name == checkpointTraceName || name == finalCheckpointTraceName) = false := by
  simp only [isExternalTrace, Bool.or_eq_true, beq_iff_eq] at h
  rcases h with rfl | rfl <;> decide

lemma sameTotal_schedulerEvent (collector : Collector) (event : SchedulerEvent) :
    collector.SameTotal .runtimeClass dboid StatCounters.checkpointCount
      (qxStatReportSchedulerEvent collector dboid event) := by
  refine sameTotal_report ?_ rfl _ _
  intro counters
  cases event <;> rfl

lemma sameTotal_reportFromTrace {row : TraceRow} (hrow : row.Unattributed)
    (h : qxStatReportFromTrace collector layout dboid row.name row.detail = .ok heard) :
    collector.SameTotal .runtimeClass dboid StatCounters.checkpointCount heard := by
  unfold qxStatReportFromTrace at h
  split at h
  · rw [← Except.ok.inj h]
    exact ⟨rfl, rfl⟩
  dsimp only at h
  split at h
  · rename_i hexternal
    rw [not_checkpoint_of_external hexternal] at h
    exact sameTotal_reportExecution unexecuted_checkpointCount h
  split at h
  · rename_i hcheckpoint
    obtain ⟨hname, hruntime⟩ := Bool.and_eq_true_iff.mp hcheckpoint
    simp only [Bool.or_eq_true, beq_iff_eq] at hname
    rw [hrow hname] at hruntime
    cases hruntime
  split at h
  · rw [← Except.ok.inj h]
    exact sameTotal_schedulerEvent collector .retryDispatch
  split at h
  · rw [← Except.ok.inj h]
    exact sameTotal_schedulerEvent collector .deadLetter
  · rw [← Except.ok.inj h]
    exact ⟨rfl, rfl⟩

lemma sameTotal_hear {action : Action} (haction : action.Unattributed)
    (h : collector.hear layout dboid action = .ok heard) :
    collector.SameTotal .runtimeClass dboid StatCounters.checkpointCount heard := by
  cases action with
  | insertTrace row => exact sameTotal_reportFromTrace haction h
  | reportSchedulerEvent event =>
    rw [← Except.ok.inj h]
    exact sameTotal_schedulerEvent collector event
  | _ =>
    rw [← Except.ok.inj h]
    exact ⟨rfl, rfl⟩

lemma sameTotal_follow {actions : List Action} (h : ∀ action ∈ actions, action.Unattributed) :
    collector.SameTotal .runtimeClass dboid StatCounters.checkpointCount
      (collector.follow layout dboid actions).1 := by
  induction actions generalizing collector with
  | nil => exact ⟨rfl, rfl⟩
  | cons action actions ih =>
    unfold Collector.follow
    cases hheard : collector.hear layout dboid action with
    | error e => exact ⟨rfl, rfl⟩
    | ok heard =>
      exact (sameTotal_hear (h action List.mem_cons_self) hheard).trans
        (ih fun other hother => h other (List.mem_cons_of_mem _ hother))

lemma World.carriedOut_unattributed (world : World) (event : Event) :
    ∀ action ∈ world.carriedOut event, action.Unattributed := by
  have hscript : (event.command.script event.env).Emits Action.Unattributed :=
    event.command.script_unattributed
  intro action haction
  refine hscript.mem_run (world.backend event.backend) action ?_
  unfold carriedOut at haction
  split at haction
  · exact haction
  · exact List.mem_of_mem_take haction

lemma Server.runtimeClassCheckpoints_next (dboid : Oid) (server : Server) (step : ServerEvent) :
    (server.next dboid step).collector.runtimeClassCheckpoints dboid =
      server.collector.runtimeClassCheckpoints dboid := by
  rw [runtimeClassCheckpoints_eq, runtimeClassCheckpoints_eq]
  cases step with
  | transaction event layout =>
    exact (sameTotal_follow (server.world.carriedOut_unattributed event)).2
  | recoveryScan report failoverRebuild =>
    refine (sameTotal_recoveryScan rfl ?_ server.collector report failoverRebuild).2
    intro failover report counters
    cases failover <;> rfl

end counter

/-! ## The checkpoints -/

section checkpoints

def Action.IsCheckpoint (action : Action) : Prop :=
  action.isCheckpoint = true

lemma insertCheckpoint_includes {row : CheckpointRow} :
    (insertCheckpoint env row).Includes Action.IsCheckpoint := by
  intro s journal oid h
  obtain ⟨stored, -, -, -, rfl, -⟩ := insertCheckpoint_returns h
  exact ⟨_, List.mem_singleton_self _, rfl⟩

lemma captureAttempt_includes (ctx : DispatchedAttempt) (base : Int) :
    (captureAttempt env ctx base).Includes Action.IsCheckpoint := by
  unfold captureAttempt
  iterate 13 refine includes_bind fun _ => ?_
  exact includes_bind_left insertCheckpoint_includes

lemma completeAttempt_includes (ctx : AttemptContext) (base : Int) :
    (completeAttempt env ctx base).Includes Action.IsCheckpoint := by
  unfold completeAttempt
  iterate 12 refine includes_bind fun _ => ?_
  exact includes_bind_left insertCheckpoint_includes

lemma runTask_includes (stmt : RunTaskStmt) (authorization : Except QxError ToolAuthorization) :
    (runTask env stmt authorization).Includes Action.IsCheckpoint := by
  unfold runTask qxRuntimeSubmitTask
  iterate 5 refine includes_bind fun _ => ?_
  exact includes_bind_left (captureAttempt_includes _ _)

lemma resumeTask_includes (stmt : ResumeTaskStmt) :
    (resumeTask env stmt).Includes Action.IsCheckpoint := by
  unfold resumeTask qxRuntimeResumeTask
  iterate 9 refine includes_bind fun _ => ?_
  exact includes_bind_left (completeAttempt_includes _ _)

lemma qxRuntimeRunSchedulerRetryCycle_includes {stats : CycleStats} (hcat : s.catalog.Sound)
    (hselected : (selectedRetry env slot s.catalog).isSome = true)
    (h : (qxRuntimeRunSchedulerRetryCycle env slot).Returns s journal stats) :
    ∃ action ∈ journal, action.IsCheckpoint := by
  obtain ⟨candidate, hcandidate⟩ := Option.isSome_iff_exists.mp hselected
  obtain ⟨swept, -, -, hpass, hrest⟩ :=
    qxRuntimeRunSchedulerRetryCycle_returns (env.inputs s.catalog.agents) hcat h
  rw [hcandidate] at hrest
  obtain ⟨rest, dispatched, rfl, hdispatch⟩ := hrest
  have hview := hpass.view_selected hcat hcandidate
  have hsound := hpass.evolves.sound hcat candidate.task.oid
  obtain ⟨hdue, -⟩ := selectedRetry_due hcat hcandidate
  rw [← hview] at hdue
  obtain ⟨earlier, hdue⟩ := due_of_dueRetry hsound hdue
  obtain ⟨rows, ctx, -, rfl, -⟩ := qxRuntimeDispatchRetryTask_returns hdue hdispatch
  refine ⟨.insertCheckpoint rows.capture.checkpoint, List.mem_append_right _ ?_, rfl⟩
  simp [RetryRows.actions, CaptureRows.actions]

def Command.captures (env : Env) (cat : Catalog) : Command → Bool
  | .runTask .. | .resumeTask _ => true
  | .retryCycle slot => (selectedRetry env slot cat).isSome
  | _ => false

lemma not_checkpoint_of_emits {α : Type} {x : Txn α} {a : α}
    (h : x.Emits fun action => action.isCheckpoint = false) (hreturns : x.Returns s journal a) :
    ¬∃ action ∈ journal, action.IsCheckpoint := by
  rintro ⟨action, haction, hcheckpoint⟩
  rw [Action.IsCheckpoint, h.mem_returns hreturns action haction] at hcheckpoint
  cases hcheckpoint

lemma qxRuntimeRunSchedulerRetryCycle_excludes {stats : CycleStats} (hcat : s.catalog.Sound)
    (hselected : selectedRetry env slot s.catalog = none)
    (h : (qxRuntimeRunSchedulerRetryCycle env slot).Returns s journal stats) :
    ¬∃ action ∈ journal, action.IsCheckpoint := by
  obtain ⟨swept, intake, hswept, -, hrest⟩ :=
    qxRuntimeRunSchedulerRetryCycle_returns (env.inputs s.catalog.agents) hcat h
  rw [hselected] at hrest
  obtain rfl : journal = swept := hrest
  have hpass : Blockwise env (fun _ _ _ => False) 0 (fold (retryTask env slot)
      (s.catalog.buildTaskInfoList env invalidOid) ⟨.zero, none⟩) :=
    Built.fold retryTask_blocks _ _
  exact not_checkpoint_of_emits hpass.not_checkpoint hswept

theorem Command.captures_iff (command : Command) {u : Unit} (hcat : s.catalog.Sound)
    (h : (command.script env).Returns s journal u) :
    command.captures env s.catalog = true ↔ ∃ action ∈ journal, action.IsCheckpoint := by
  cases command with
  | runTask stmt authorization =>
    obtain ⟨_, h⟩ := returns_of_discard h
    exact iff_of_true rfl (runTask_includes stmt authorization _ _ _ h)
  | resumeTask stmt =>
    obtain ⟨_, h⟩ := returns_of_discard h
    exact iff_of_true rfl (resumeTask_includes stmt _ _ _ h)
  | retryCycle slot =>
    obtain ⟨_, h⟩ := returns_of_discard h
    change (selectedRetry env slot s.catalog).isSome = true ↔ _
    cases hselected : selectedRetry env slot s.catalog with
    | some candidate =>
      refine iff_of_true rfl (qxRuntimeRunSchedulerRetryCycle_includes hcat ?_ h)
      rw [hselected]
      rfl
    | none => exact iff_of_false nofun (qxRuntimeRunSchedulerRetryCycle_excludes hcat hselected h)
  | _ =>
    refine iff_of_false nofun (not_checkpoint_of_emits ?_ h)
    exact (Command.script_idle rfl).mono fun _ h => h.2

lemma filterMap_insertedCheckpoint_eq_nil_iff :
    journal.filterMap Action.insertedCheckpoint = [] ↔ ¬∃ action ∈ journal, action.IsCheckpoint := by
  rw [List.filterMap_eq_nil_iff, not_exists]
  refine forall_congr' fun action => ?_
  rw [not_and]
  refine imp_congr_right fun _ => ?_
  cases action <;> simp [Action.insertedCheckpoint, Action.IsCheckpoint, Action.isCheckpoint]

lemma World.checkpoints_next_eq_nil_iff {world : World} (hcat : world.catalog.Sound)
    (event : Event) :
    (world.next event).catalog.checkpoints.rows = [] ↔ world.catalog.checkpoints.rows = [] ∧
      ¬(world.Commits event ∧ event.command.captures event.env world.catalog = true) := by
  by_cases hcommits : world.Commits event
  · have hcaptures := event.command.captures_iff hcat (returns_of_commits hcommits)
    change event.command.captures event.env world.catalog = true ↔ _ at hcaptures
    rw [next, if_pos hcommits, checkpoints_carriedOut hcommits, List.append_eq_nil_iff,
      filterMap_insertedCheckpoint_eq_nil_iff, hcaptures]
    simp only [hcommits, true_and]
  · rw [next, if_neg hcommits]
    simp only [hcommits, false_and, not_false_eq_true, and_true]

end checkpoints

/-! ## Runs -/

namespace Server

/-- The step commits a checkpoint: of a task that is run or resumed, or of a retry. -/
def Captures (dboid : Oid) (server : Server) : ServerEvent → Prop
  | .transaction event layout =>
    server.world.Commits (server.effective dboid event layout) ∧
      event.command.captures event.env server.world.catalog = true
  | .recoveryScan .. => False

instance (dboid : Oid) (server : Server) : ∀ step, Decidable (server.Captures dboid step)
  | .transaction .. => inferInstanceAs (Decidable (_ ∧ _))
  | .recoveryScan .. => .isFalse id

variable {dboid : Oid} {server : Server}

lemma effective_eq (dboid : Oid) (server : Server) (event : Event) (layout : SchemaLayout) :
    ∃ fate, server.effective dboid event layout = { event with fate := fate } := by
  unfold effective
  split
  · exact ⟨event.fate, rfl⟩
  · exact ⟨_, rfl⟩

lemma reachable_next (dboid : Oid) (h : server.world.Reachable) (step : ServerEvent) :
    (server.next dboid step).world.Reachable := by
  cases step with
  | transaction event layout => exact h.next _
  | recoveryScan report failoverRebuild => exact h

lemma checkpoints_next_eq_nil_iff (h : server.world.Reachable) (step : ServerEvent) :
    (server.next dboid step).world.catalog.checkpoints.rows = [] ↔
      server.world.catalog.checkpoints.rows = [] ∧ ¬server.Captures dboid step := by
  cases step with
  | transaction event layout =>
    obtain ⟨fate, hfate⟩ := effective_eq dboid server event layout
    have hnext := World.checkpoints_next_eq_nil_iff h.sound (server.effective dboid event layout)
    rw [show (server.effective dboid event layout).command = event.command by rw [hfate],
      show (server.effective dboid event layout).env = event.env by rw [hfate]] at hnext
    exact hnext
  | recoveryScan report failoverRebuild => simp [next, Captures]

lemma checkpoints_run_eq_nil_iff (h : server.world.Reachable) (steps : List ServerEvent) :
    (steps.foldl (next dboid) server).world.catalog.checkpoints.rows = [] ↔
      server.world.catalog.checkpoints.rows = [] ∧
        AllowedAlong (next dboid) (fun server step => ¬server.Captures dboid step) server steps := by
  induction steps generalizing server with
  | nil => exact (and_iff_left trivial).symm
  | cons step steps ih =>
    have hrest : _ ↔ _ := ih (reachable_next dboid h step)
    rw [List.foldl_cons, hrest, checkpoints_next_eq_nil_iff h step, AllowedAlong, and_assoc]

lemma runtimeClassCheckpoints_run (steps : List ServerEvent) :
    (steps.foldl (next dboid) server).collector.runtimeClassCheckpoints dboid =
      server.collector.runtimeClassCheckpoints dboid := by
  induction steps generalizing server with
  | nil => rfl
  | cons step steps ih => rw [List.foldl_cons, ih, runtimeClassCheckpoints_next]

end Server

/-- The checkpoint counter of the runtime classes is the number of checkpoints if and only if no
step of the run has committed one. -/
theorem runtimeClass_checkpoints_agree_iff {collector : Collector} {dboid : Oid}
    (hzero : collector.runtimeClassCheckpoints dboid = 0) (agents : Table AgentRow)
    (steps : List ServerEvent) :
    (steps.foldl (Server.next dboid) ⟨.initial agents, collector⟩).collector.runtimeClassCheckpoints
        dboid =
      (steps.foldl (Server.next dboid)
        ⟨.initial agents, collector⟩).world.catalog.checkpoints.rows.length ↔
      AllowedAlong (Server.next dboid) (fun server step => ¬server.Captures dboid step)
        ⟨.initial agents, collector⟩ steps := by
  have hreachable : (Server.mk (.initial agents) collector).world.Reachable := ⟨agents, .refl⟩
  rw [Server.runtimeClassCheckpoints_run, hzero, eq_comm, List.length_eq_zero_iff,
    Server.checkpoints_run_eq_nil_iff hreachable]
  exact and_iff_right rfl

/-- A run that leaves an attempt behind and reclaims it writes no checkpoint. -/
theorem demoReclaim_checkpoints_agree :
    (demoRun demoReclaim).collector.runtimeClassCheckpoints 5 =
      (demoRun demoReclaim).world.catalog.checkpoints.rows.length := by
  have hzero : demoServer.collector.runtimeClassCheckpoints 5 = 0 := rfl
  have hallowed : AllowedAlong (Server.next 5) (fun server step => ¬server.Captures 5 step)
      demoServer (demoTransactions demoReclaim) := by decide +kernel
  exact (runtimeClass_checkpoints_agree_iff hzero demoAgents _).mpr hallowed

/-- A task is run: its checkpoint is not counted. -/
theorem submitted_checkpoint_not_counted :
    demoServer.collector.trackStats = true ∧
      AllowedAlong (Server.next 5) (Server.HasRoom 5) demoServer (demoTransactions [demoSubmit]) ∧
      (demoRun [demoSubmit]).collector.runtimeClassCheckpoints 5 = 0 ∧
      (demoRun [demoSubmit]).world.catalog.checkpoints.rows.length = 1 := by
  decide +kernel

end QhapaqXian
