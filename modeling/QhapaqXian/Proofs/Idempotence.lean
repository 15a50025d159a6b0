import QhapaqXian.Proofs.Leases
import QhapaqXian.Proofs.Requeue

/-!
# Recovery twice in a row

The rows that a scan appends are the ones that the next scan of the same owner looks for, as long as
the identifiers of the ledgers grow: the second scan finds nothing left to do.
-/

namespace QhapaqXian

open Library Script Txn

section summaries

variable {env : Env} {cat : Catalog} {ownerid : Oid} {task : TaskRow}

/-- An attempt or a checkpoint of the task asks for a requeue. -/
def TaskView.asksForRequeue (view : TaskView) (ownerid : Oid) : Prop :=
  (∃ attempt ∈ view.attempts, Catalog.ownerMatches ownerid attempt.ownerid = true ∧
      attempt.state = .checkpointed) ∨
    ∃ checkpoint ∈ view.checkpoints, Catalog.ownerMatches ownerid checkpoint.ownerid = true ∧
      checkpoint.taskState = .checkpointed

lemma TaskSummary.needsRequeue_withAttempt (summary : TaskSummary) (attempt : AttemptRow) :
    (summary.withAttempt attempt).needsRequeue = true ↔ summary.needsRequeue = true ∨
      attempt.taskoid = summary.taskoid ∧ attempt.state = .checkpointed := by
  unfold withAttempt
  by_cases htask : attempt.taskoid = summary.taskoid
  · rw [if_pos htask]
    dsimp only
    split <;> simp [htask]
  · rw [if_neg htask]
    simp [htask]

lemma withAttempts_needsRequeue (summary : TaskSummary) (attempts : List AttemptRow) :
    (qxRecoveryUpdateTaskWithAttempts summary attempts).needsRequeue = true ↔
      summary.needsRequeue = true ∨ ∃ attempt ∈ attempts,
        attempt.taskoid = summary.taskoid ∧ attempt.state = .checkpointed := by
  unfold qxRecoveryUpdateTaskWithAttempts
  induction attempts generalizing summary with
  | nil => simp
  | cons attempt attempts ih =>
    rw [List.foldl_cons, ih, TaskSummary.needsRequeue_withAttempt, TaskSummary.taskoid_withAttempt,
      or_assoc]
    simp only [List.mem_cons, exists_eq_or_imp]

lemma TaskSummary.needsRequeue_withCheckpoint (summary : TaskSummary)
    (checkpoint : CheckpointRow) :
    (summary.withCheckpoint checkpoint).needsRequeue = true ↔ summary.needsRequeue = true ∨
      checkpoint.taskoid = summary.taskoid ∧ checkpoint.taskState = .checkpointed := by
  unfold withCheckpoint
  by_cases htask : checkpoint.taskoid = summary.taskoid
  · rw [if_pos htask]
    simp [htask]
  · rw [if_neg htask]
    simp [htask]

lemma withCheckpoints_needsRequeue (summary : TaskSummary) (checkpoints : List CheckpointRow) :
    (qxRecoveryUpdateTaskWithCheckpoints summary checkpoints).needsRequeue = true ↔
      summary.needsRequeue = true ∨ ∃ checkpoint ∈ checkpoints,
        checkpoint.taskoid = summary.taskoid ∧ checkpoint.taskState = .checkpointed := by
  unfold qxRecoveryUpdateTaskWithCheckpoints
  induction checkpoints generalizing summary with
  | nil => simp
  | cons checkpoint checkpoints ih =>
    rw [List.foldl_cons, ih, TaskSummary.needsRequeue_withCheckpoint,
      TaskSummary.taskoid_withCheckpoint, or_assoc]
    simp only [List.mem_cons, exists_eq_or_imp]

lemma taskSummary_needsRequeue :
    (taskSummary cat env ownerid task).needsRequeue = true ↔
      (cat.view task.oid).asksForRequeue ownerid := by
  have hstart : (qxRecoveryTaskSummaryFromCatalog task).taskoid = task.oid := rfl
  change (qxRecoveryUpdateTaskWithCheckpoints _ _).needsRequeue = true ↔ _
  rw [withCheckpoints_needsRequeue, withAttempts_needsRequeue, withAttempts_taskoid, hstart]
  simp only [mem_buildAttemptInfoList, mem_buildCheckpointInfoList, TaskView.asksForRequeue,
    Catalog.view, List.mem_filter, beq_iff_eq, and_assoc,
    show (qxRecoveryTaskSummaryFromCatalog task).needsRequeue = false from rfl,
    Bool.false_eq_true, false_or]
  simp only [and_left_comm]

end summaries

section scan

variable {env env' : Env} {s s' : Backend} {request : StartupRequest} {hooks : RecoveryHooks}
  {requeued fenced : List QueueRow} {leases : List LeaseRow} {traces : List TraceRow}

lemma taskSummary_appends (env env' : Env) (ownerid : Oid) {queues : List QueueRow}
    {task : TaskRow} (hcat : s.catalog.Sound) (hcat' : s'.catalog.Sound)
    (happends : Appends s s' queues leases traces) (htask : task ∈ s.catalog.tasks.rows) :
    (taskSummary s'.catalog env' ownerid task).lastattemptoid =
        (taskSummary s.catalog env ownerid task).lastattemptoid ∧
      qxRecoveryTaskWouldRequeue (taskSummary s'.catalog env' ownerid task) =
        qxRecoveryTaskWouldRequeue (taskSummary s.catalog env ownerid task) := by
  constructor
  · rw [taskSummary_lastattemptoid env ownerid hcat htask,
      taskSummary_lastattemptoid env' ownerid hcat' (happends.tasks ▸ htask), Catalog.attemptsOf,
      Catalog.attemptsOf, Catalog.view, Catalog.view, happends.attempts]
  · have hneeds : (taskSummary s'.catalog env' ownerid task).needsRequeue =
        (taskSummary s.catalog env ownerid task).needsRequeue := by
      rw [Bool.eq_iff_iff, taskSummary_needsRequeue, taskSummary_needsRequeue,
        happends.view_eq task.oid]
      rfl
    rw [qxRecoveryTaskWouldRequeue, qxRecoveryTaskWouldRequeue, hneeds, taskSummary_taskState,
      taskSummary_taskState]

lemma tasksToRequeue_again (hcat : s.catalog.Sound) (hcat' : s'.catalog.Sound)
    (huser : env'.userid = env.userid)
    (h : ScanRows env request hooks s s' requeued fenced leases traces)
    (hgrow : s'.catalog.queues.rows.Pairwise fun row row' => row.oid < row'.oid) :
    tasksToRequeue s'.catalog env' request hooks = [] := by
  have howned : effectiveOwner env' request.ownerid = effectiveOwner env request.ownerid := by
    rw [effectiveOwner, effectiveOwner, huser]
  refine List.eq_nil_iff_forall_not_mem.mpr fun summary hsummary => ?_
  obtain ⟨task, htask, rfl, howner, hneeds⟩ := mem_tasksToRequeue hsummary
  have hflags := (List.mem_filter.mp hsummary).2
  simp only [Bool.and_eq_true] at hflags
  rw [h.appends.tasks] at htask
  rw [howned] at howner hneeds
  obtain ⟨hlast, hwould⟩ := taskSummary_appends env env' (effectiveOwner env request.ownerid) hcat
    hcat' h.appends htask
  simp only [qxRecoveryTaskNeedsRequeue, Bool.and_eq_true, Bool.not_eq_true'] at hneeds
  rw [hwould, taskSummary_recoveryQueued, hlast] at hneeds
  refine absurd hneeds.1 ?_
  rw [Bool.not_eq_false]
  have hnamed : (taskSummary s.catalog env (effectiveOwner env request.ownerid) task).Named :=
    taskSummary_named hcat htask
  rw [TaskSummary.Named, taskSummary_taskoid] at hnamed
  rw [qxRecoveryTaskHasSchedulerRecoveryQueue, hnamed.1, hnamed.2, Bool.true_and, Bool.true_and,
    Catalog.lookupLatestSchedulerQueue, h.appends.queues]
  refine argmax_append_any (h.appends.queues ▸ hgrow) (fun row hrow _ => ?_) ?_
  · obtain ⟨_, _, _, -, -, -, -, hfor⟩ := h.queue_isFor hcat hrow
    exact beq_iff_eq.mpr hfor.queueKind
  · by_cases hqueued : (taskSummary s.catalog env (effectiveOwner env request.ownerid)
        task).schedulerRecoveryQueued = true
    · rw [taskSummary_recoveryQueued, qxRecoveryTaskHasSchedulerRecoveryQueue, hnamed.1, hnamed.2,
        Bool.true_and, Bool.true_and] at hqueued
      exact .inl hqueued
    · have hmem : taskSummary s.catalog env (effectiveOwner env request.ownerid) task ∈
          tasksToRequeue s.catalog env request hooks := by
        refine List.mem_filter.mpr
          ⟨List.mem_map.mpr ⟨task, mem_buildTaskInfoList.mpr ⟨htask, howner⟩, rfl⟩, ?_⟩
        rw [Bool.not_eq_true] at hqueued
        simp only [qxRecoveryTaskNeedsRequeue, hqueued, hneeds.2, hflags.1.1, hflags.2,
          Bool.not_false, Bool.and_self]
      obtain ⟨row, hrow, hrequeue⟩ := exists_row_of_forall₂ h.requeue_rows hmem
      obtain ⟨task', htask', hfor⟩ := hrequeue.stored
      rw [taskSummary_taskoid] at htask'
      have hsame : task' = task :=
        Option.some.inj (htask'.symm.trans (view_task_of_mem htask))
      refine .inr ⟨row, List.mem_append_left _ hrow, ?_⟩
      rw [hrequeue.taskoid, hfor.attemptoid, hfor.ownerid, hsame, taskSummary_taskoid, howner]
      simp

lemma attemptsToFence_again (hcat : s.catalog.Sound) (huser : env'.userid = env.userid)
    (h : ScanRows env request hooks s s' requeued fenced leases traces)
    (hgrow : s'.catalog.leases.rows.Pairwise fun row row' => row.oid < row'.oid) :
    attemptsToFence s'.catalog env' request hooks = [] := by
  have howned : effectiveOwner env' request.ownerid = effectiveOwner env request.ownerid := by
    rw [effectiveOwner, effectiveOwner, huser]
  refine List.eq_nil_iff_forall_not_mem.mpr fun summary hsummary => ?_
  obtain ⟨attempt, hattempt, rfl, howner, hneeds⟩ := mem_attemptsToFence hsummary
  have hflags := (List.mem_filter.mp hsummary).2
  have hscanned := (List.mem_filter.mp hsummary).1
  simp only [Bool.and_eq_true] at hflags
  rw [h.appends.attempts] at hattempt
  rw [howned] at howner hneeds
  simp only [qxRecoveryAttemptNeedsFence, attemptSummary, Bool.and_eq_true, Bool.not_eq_true',
    beq_iff_eq] at hneeds
  obtain ⟨hreclaimed, hrunning⟩ := hneeds
  refine absurd hreclaimed ?_
  rw [Bool.not_eq_false]
  have hnamed : (attemptSummary s.catalog (effectiveOwner env request.ownerid) attempt).Named :=
    attemptSummary_named hcat hattempt
  rw [qxRecoveryAttemptHasSchedulerReclaim, show oidIsValid attempt.taskoid = true from hnamed.2,
    show oidIsValid attempt.oid = true from hnamed.1, Bool.true_and, Bool.true_and,
    Catalog.lookupLatestSchedulerLease, h.appends.leases]
  refine argmax_append_any (h.appends.leases ▸ hgrow) (fun row hrow _ => ?_) ?_
  · obtain ⟨_, -, -, _, -, -, hfor⟩ := h.lease_isFor hcat hrow
    rw [hfor.state]
    rfl
  · by_cases hbefore : qxRecoveryAttemptHasSchedulerReclaim s.catalog
        (effectiveOwner env request.ownerid) attempt.taskoid attempt.oid = true
    · rw [qxRecoveryAttemptHasSchedulerReclaim, Bool.and_eq_true] at hbefore
      exact .inl hbefore.2
    · have hmem : attemptSummary s.catalog (effectiveOwner env request.ownerid) attempt ∈
          attemptsToFence s.catalog env request hooks := by
        refine List.mem_filter.mpr ⟨?_, ?_⟩
        · rw [scannedAttempts] at hscanned ⊢
          split at hscanned
          · rename_i hinclude
            rw [if_pos hinclude]
            exact List.mem_map.mpr ⟨attempt, mem_buildAttemptInfoList.mpr ⟨hattempt, howner⟩, rfl⟩
          · cases hscanned
        · rw [Bool.not_eq_true] at hbefore
          simp only [qxRecoveryAttemptNeedsFence, attemptSummary, hbefore, hrunning, hflags.1.1,
            hflags.2, Bool.not_false, beq_self_eq_true, Bool.and_self]
      obtain ⟨row, hrow, hfence⟩ := exists_row_of_forall₂ h.fence_leases hmem
      obtain ⟨task, htask, hfor⟩ := hfence.stored
      have hscope := scope_of_running hcat hattempt htask hrunning howner
      refine .inr ⟨row, hrow, ?_⟩
      rw [hfence.taskoid, hfor.attemptoid, hfor.ownerid, show Catalog.ownerMatches
        (effectiveOwner env request.ownerid) task.ownerid = true from hscope]
      simp [attemptSummary]

lemma checkpoint_taskoid_valid {cat : Catalog} (hcat : cat.Sound) {checkpoint : CheckpointRow}
    (h : checkpoint ∈ cat.checkpoints.rows) : oidIsValid checkpoint.taskoid = true := by
  have hmem : checkpoint ∈ (cat.view checkpoint.taskoid).checkpoints :=
    List.mem_filter.mpr ⟨h, beq_self_eq_true _⟩
  cases htask : (cat.view checkpoint.taskoid).task with
  | none =>
    rw [(hcat checkpoint.taskoid).orphans htask] at hmem
    cases hmem
  | some task => exact oidIsValid_of_lookup htask

lemma hasSemanticReplay_of_replays {cat cat' : Catalog} (hcat : cat.Sound) {trace : TraceRow}
    {checkpoint : CheckpointRow} (hcheckpoint : checkpoint ∈ cat.checkpoints.rows)
    (h : trace.Replays cat.lookupCheckpointByOid (checkpointSummary cat checkpoint))
    (htrace : trace ∈ cat'.traces.rows) :
    qxCatalogCheckpointHasSemanticReplay cat' checkpoint.taskoid checkpoint.oid = true := by
  have hvalid : oidIsValid checkpoint.oid = true :=
    bne_iff_ne.mpr (cat.checkpoints.valid checkpoint hcheckpoint)
  obtain ⟨other, hother, htask⟩ := h.taskoid
  obtain ⟨rest, hdetail⟩ := h.detail
  have hsame : other = checkpoint := by
    refine Option.some.inj (hother.symm.trans ?_)
    exact Table.find?_eq_some_iff.mpr ⟨hcheckpoint, rfl⟩
  have hfound : strstr trace.detail (checkpointOidKey checkpoint.oid) = some trace.detail :=
    strstr_eq_self (hdetail ▸ List.prefix_append _ _)
  rw [qxCatalogCheckpointHasSemanticReplay, checkpoint_taskoid_valid hcat hcheckpoint, hvalid,
    Bool.true_and, Bool.true_and]
  refine List.any_eq_true.mpr ⟨trace, htrace, ?_⟩
  rw [htask, hsame, h.name, hfound]
  simp

lemma hasSemanticReplay_mono {cat cat' : Catalog} {taskoid checkpointoid : Oid}
    (h : ∀ trace ∈ cat.traces.rows, trace ∈ cat'.traces.rows)
    (hreplayed : qxCatalogCheckpointHasSemanticReplay cat taskoid checkpointoid = true) :
    qxCatalogCheckpointHasSemanticReplay cat' taskoid checkpointoid = true := by
  simp only [qxCatalogCheckpointHasSemanticReplay, Bool.and_eq_true, List.any_eq_true] at *
  obtain ⟨hvalid, trace, htrace, hmatch⟩ := hreplayed
  exact ⟨hvalid, trace, h trace htrace, hmatch⟩

lemma checkpointsToReplay_again (hcat : s.catalog.Sound) (huser : env'.userid = env.userid)
    (h : ScanRows env request hooks s s' requeued fenced leases traces) :
    checkpointsToReplay s'.catalog env' request hooks = [] := by
  have howned : effectiveOwner env' request.ownerid = effectiveOwner env request.ownerid := by
    rw [effectiveOwner, effectiveOwner, huser]
  refine List.eq_nil_iff_forall_not_mem.mpr fun summary hsummary => ?_
  obtain ⟨checkpoint, hcheckpoint, rfl, howner⟩ := mem_checkpointsToReplay hsummary
  have hflags := (List.mem_filter.mp hsummary).2
  have hscanned := (List.mem_filter.mp hsummary).1
  simp only [checkpointSummary, qxRecoveryCheckpointNeedsReplay, Bool.and_eq_true,
    Bool.not_eq_true'] at hflags
  rw [h.appends.checkpoints] at hcheckpoint
  rw [howned] at howner
  obtain ⟨⟨⟨hrebuild, hlsn⟩, hreplayed⟩, hhook⟩ := hflags
  refine absurd hreplayed ?_
  rw [Bool.not_eq_false]
  have hgrown : ∀ trace ∈ s.catalog.traces.rows ++ traces, trace ∈ s'.catalog.traces.rows := by
    rw [h.appends.traces]
    exact fun _ => id
  by_cases hbefore : qxCatalogCheckpointHasSemanticReplay s.catalog checkpoint.taskoid
      checkpoint.oid = true
  · exact hasSemanticReplay_mono (fun trace htrace => hgrown trace (List.mem_append_left _ htrace))
      hbefore
  · have hmem : checkpointSummary s.catalog checkpoint ∈
        checkpointsToReplay s.catalog env request hooks := by
      refine List.mem_filter.mpr ⟨?_, ?_⟩
      · rw [scannedCheckpoints] at hscanned ⊢
        split at hscanned
        · rename_i hinclude
          rw [if_pos hinclude]
          exact List.mem_map.mpr
            ⟨checkpoint, mem_buildCheckpointInfoList.mpr ⟨hcheckpoint, howner⟩, rfl⟩
        · cases hscanned
      · rw [Bool.not_eq_true] at hbefore
        simp only [checkpointSummary, qxRecoveryCheckpointNeedsReplay, hrebuild, hlsn, hbefore,
          hhook, Bool.not_false, Bool.and_self]
    obtain ⟨trace, htrace, hreplays⟩ := exists_row_of_forall₂ h.replay_rows hmem
    exact hasSemanticReplay_of_replays hcat hcheckpoint hreplays
      (hgrown trace (List.mem_append_right _ htrace))

lemma qxRecoveryRunStartupScan_nothing (htasks : tasksToRequeue s.catalog env request hooks = [])
    (hattempts : attemptsToFence s.catalog env request hooks = [])
    (hcheckpoints : checkpointsToReplay s.catalog env request hooks = [])
    (hfree : (qxRecoveryBuildTaskSummaries s.catalog env (effectiveOwner env request.ownerid)).all
      (fun summary => summary.taskName.isSome && summary.goal.isSome &&
        summary.priority.isSome) = true) :
    ∃ report, (qxRecoveryRunStartupScan env request hooks).Returns s [] report := by
  refine ⟨qxRecoveryPopulateReport
    (qxRecoveryBuildTaskSummaries s.catalog env (effectiveOwner env request.ownerid))
    (scannedAttempts s.catalog env request) (scannedCheckpoints s.catalog env request), ?_⟩
  dsimp only [qxRecoveryRunStartupScan]
  refine returns_catalog_bind_iff.mpr ?_
  rw [htasks, hattempts, hcheckpoints]
  exact returns_require_bind_iff.mpr ⟨hfree, returns_pure_iff.mpr ⟨rfl, rfl⟩⟩

lemma qxRecoveryRunStartupScan_freed {journal : List Action} {report : RecoveryReport}
    (h : (qxRecoveryRunStartupScan env request hooks).Returns s journal report) :
    (qxRecoveryBuildTaskSummaries s.catalog env (effectiveOwner env request.ownerid)).all
      (fun summary => summary.taskName.isSome && summary.goal.isSome &&
        summary.priority.isSome) = true := by
  dsimp only [qxRecoveryRunStartupScan] at h
  replace h := returns_catalog_bind_iff.mp h
  obtain ⟨_, _, _, -, h, -⟩ := returns_bind_iff.mp h
  obtain ⟨_, _, _, -, h, -⟩ := returns_bind_iff.mp h
  obtain ⟨_, _, _, -, h, -⟩ := returns_bind_iff.mp h
  exact (returns_require_bind_iff.mp h).1

end scan

/-- Recovery is idempotent: a second run for the same request, by the same user on what the first
one left, returns and writes nothing, if the identifiers of the queue and lease rows grow. -/
theorem recovery_idempotent {world : World} {env env' : Env} {backend : Nat}
    {journal : List Action} {report : RecoveryReport} {hooks : RecoveryHooks}
    {request : RecoveryRequest} (h : world.Reachable) (huser : env'.userid = env.userid)
    (hfirst : (request.script env hooks).Returns (world.backend backend) journal report)
    (hqueues : (replay (world.backend backend) journal).catalog.queues.rows.Pairwise
      fun row row' => row.oid < row'.oid)
    (hleases : (replay (world.backend backend) journal).catalog.leases.rows.Pairwise
      fun row row' => row.oid < row'.oid) :
    ∃ report', (request.script env' hooks).Returns (replay (world.backend backend) journal) []
      report' := by
  rw [RecoveryRequest.script_eq] at hfirst ⊢
  obtain ⟨requeued, fenced, leases, traces, heffect⟩ :=
    qxRecoveryRunStartupScan_returns h.sound hfirst
  have hcat' := (qxRecoveryRunStartupScan_recovers h.sound hfirst).sound h.sound
  have howned : effectiveOwner env' request.scan.ownerid =
      effectiveOwner env request.scan.ownerid := by
    rw [effectiveOwner, effectiveOwner, huser]
  refine qxRecoveryRunStartupScan_nothing
    (tasksToRequeue_again h.sound hcat' huser heffect hqueues)
    (attemptsToFence_again h.sound huser heffect hleases)
    (checkpointsToReplay_again h.sound huser heffect) ?_
  refine List.all_eq_true.mpr fun summary hsummary => ?_
  obtain ⟨task, htask, rfl⟩ := List.mem_map.mp hsummary
  obtain ⟨htask, howner⟩ := mem_buildTaskInfoList.mp htask
  rw [heffect.appends.tasks] at htask
  rw [howned] at howner
  have hfreed := List.all_eq_true.mp (qxRecoveryRunStartupScan_freed hfirst)
    (taskSummary world.catalog env (effectiveOwner env request.scan.ownerid) task)
    (List.mem_map.mpr ⟨task, mem_buildTaskInfoList.mpr ⟨htask, howner⟩, rfl⟩)
  have hcopied : ∀ {cat : Catalog} {env : Env} {ownerid : Oid},
      (taskSummary cat env ownerid task).taskName = task.name ∧
        (taskSummary cat env ownerid task).goal = task.goal ∧
        (taskSummary cat env ownerid task).priority = task.priority := by
    intro cat env ownerid
    have hall := taskSummary_copied cat env ownerid task
    simp only [TaskSummary.copied, Prod.mk.injEq] at hall
    exact hall.2
  rw [hcopied.1, hcopied.2.1, hcopied.2.2] at hfreed ⊢
  exact hfreed

def demoRebuilt (world : World) (env : Env) : List Action × Except QxError RecoveryReport :=
  (demoRebuild.script env ⟨true, true, true⟩).run (world.backend 2)

/-- The first rebuild of an abandoned task requeues the task and fences the attempt. -/
theorem demoRebuild_idempotent :
    (demoRebuilt demoAbandoned (demoEnv 2000)).1.length = 3 ∧
      ∃ report, (demoRebuild.script (demoEnv 3000) ⟨true, true, true⟩).Returns
        (replay (demoAbandoned.backend 2) (demoRebuilt demoAbandoned (demoEnv 2000)).1) []
          report := by
  have hok : (demoRebuilt demoAbandoned (demoEnv 2000)).2.isOk = true := by decide +kernel
  obtain ⟨_, hfirst⟩ := returns_of_isOk hok
  have hreachable : demoAbandoned.Reachable := World.reachable_run demoAgents [demoAbandon]
  have huser : (demoEnv 3000).userid = (demoEnv 2000).userid := rfl
  refine ⟨by decide +kernel, recovery_idempotent hreachable huser hfirst ?_ ?_⟩
  · decide +kernel
  · decide +kernel

end QhapaqXian
