import QhapaqXian.Proofs.Collector
import QhapaqXian.Proofs.Requeue

/-!
# What a recovery report counts

The report of a scan is counted before its callbacks run and goes to the statistics collector after
them. This module compares both with the rows that the callbacks write, over any catalogs.
-/

namespace QhapaqXian

open Library Script Txn

namespace Catalog

variable (cat : Catalog) (env : Env) (ownerid : Oid)

/-- The scan lists the task and finds that it needs a requeue. -/
def needsRequeue (task : TaskRow) : Bool :=
  ownerMatches ownerid task.ownerid && qxRecoveryTaskNeedsRequeue (taskSummary cat env ownerid task)

/-- The scan lists the attempt and finds that it needs a fence. -/
def needsFence (attempt : AttemptRow) : Bool :=
  ownerMatches ownerid attempt.ownerid &&
    qxRecoveryAttemptNeedsFence (attemptSummary cat ownerid attempt)

/-- The scan lists the checkpoint and finds that it was never replayed. -/
def needsReplay (checkpoint : CheckpointRow) : Bool :=
  ownerMatches ownerid checkpoint.ownerid &&
    (qxRecoveryCheckpointNeedsReplay (checkpointSummary cat checkpoint) &&
      !(checkpointSummary cat checkpoint).semanticReplayed)

/-- The callbacks give the task a queue row: it is requeued, or one of its attempts is fenced. -/
def queuesTask (request : StartupRequest) (hooks : RecoveryHooks) (task : TaskRow) : Bool :=
  let ownerid := effectiveOwner env request.ownerid
  (request.requeueCheckpointedTasks && hooks.requeueTask && cat.needsRequeue env ownerid task &&
      oidIsValid (taskSummary cat env ownerid task).lastattemptoid) ||
    (request.includeAttempts && request.fenceStaleAttempts && hooks.fenceAttempt &&
      cat.attempts.rows.any fun attempt =>
        attempt.taskoid == task.oid && cat.needsFence ownerid attempt)

end Catalog

section queued

variable {env : Env} {s s' : Backend} {request : StartupRequest} {hooks : RecoveryHooks}
  {requeued fenced : List QueueRow} {leases : List LeaseRow} {traces : List TraceRow}

/-- The tasks that the requeue callback acts on. -/
def requeuedTasks (cat : Catalog) (env : Env) (request : StartupRequest) (hooks : RecoveryHooks) :
    List TaskSummary :=
  (tasksToRequeue cat env request hooks).filter fun summary => summary.Named

/-- The attempts that the fence callback acts on. -/
def fencedAttempts (cat : Catalog) (env : Env) (request : StartupRequest) (hooks : RecoveryHooks) :
    List AttemptSummary :=
  (attemptsToFence cat env request hooks).filter fun summary => summary.Named

lemma mem_requeuedTasks {cat : Catalog} {taskoid : Oid} :
    taskoid ∈ (requeuedTasks cat env request hooks).map TaskSummary.taskoid ↔
      ∃ task ∈ cat.tasks.rows, task.oid = taskoid ∧
        (request.requeueCheckpointedTasks && hooks.requeueTask &&
          cat.needsRequeue env (effectiveOwner env request.ownerid) task &&
          oidIsValid (taskSummary cat env (effectiveOwner env request.ownerid)
            task).lastattemptoid) = true := by
  have hvalid : ∀ task ∈ cat.tasks.rows, oidIsValid task.oid = true := fun task htask =>
    bne_iff_ne.mpr (cat.tasks.valid task htask)
  simp only [requeuedTasks, tasksToRequeue, qxRecoveryBuildTaskSummaries, List.mem_map,
    List.mem_filter, mem_buildTaskInfoList, Catalog.needsRequeue, Bool.and_eq_true,
    decide_eq_true_eq]
  constructor
  · rintro ⟨summary, ⟨⟨⟨task, ⟨htask, howner⟩, rfl⟩, hflags⟩, hnamed⟩, rfl⟩
    rw [taskSummary_taskoid]
    exact ⟨task, htask, rfl, ⟨⟨hflags.1.1, hflags.2⟩, howner, hflags.1.2⟩, hnamed.2⟩
  · rintro ⟨task, htask, rfl, ⟨⟨hflag, hhook⟩, howner, hneeds⟩, hlast⟩
    refine ⟨_, ⟨⟨⟨task, ⟨htask, howner⟩, rfl⟩, ⟨hflag, hneeds⟩, hhook⟩, ?_, hlast⟩, ?_⟩
    · rw [taskSummary_taskoid]
      exact hvalid task htask
    · exact taskSummary_taskoid cat env _ task

lemma mem_fencedAttempts {cat : Catalog} {taskoid : Oid} :
    taskoid ∈ (fencedAttempts cat env request hooks).map AttemptSummary.taskoid ↔
      oidIsValid taskoid = true ∧
        (request.includeAttempts && request.fenceStaleAttempts && hooks.fenceAttempt &&
          cat.attempts.rows.any fun attempt => attempt.taskoid == taskoid &&
            cat.needsFence (effectiveOwner env request.ownerid) attempt) = true := by
  have hvalid : ∀ attempt ∈ cat.attempts.rows, oidIsValid attempt.oid = true :=
    fun attempt hattempt => bne_iff_ne.mpr (cat.attempts.valid attempt hattempt)
  cases hinclude : request.includeAttempts with
  | false => simp [fencedAttempts, attemptsToFence, scannedAttempts, hinclude]
  | true =>
    simp only [fencedAttempts, attemptsToFence, scannedAttempts, hinclude, if_true,
      qxRecoveryBuildAttemptSummaries, List.mem_map, List.mem_filter, mem_buildAttemptInfoList,
      Catalog.needsFence, Bool.and_eq_true, decide_eq_true_eq, List.any_eq_true, beq_iff_eq]
    constructor
    · rintro ⟨summary, ⟨⟨⟨attempt, ⟨hattempt, howner⟩, rfl⟩, hflags⟩, hnamed⟩, rfl⟩
      exact ⟨hnamed.2, ⟨⟨trivial, hflags.1.1⟩, hflags.2⟩, attempt, hattempt, rfl, howner,
        hflags.1.2⟩
    · rintro ⟨htaskoid, ⟨⟨-, hflag⟩, hhook⟩, attempt, hattempt, rfl, howner, hneeds⟩
      exact ⟨_, ⟨⟨⟨attempt, ⟨hattempt, howner⟩, rfl⟩, ⟨hflag, hneeds⟩, hhook⟩,
        hvalid attempt hattempt, htaskoid⟩, rfl⟩

lemma requeuedTasks_nodup (cat : Catalog) (env : Env) (request : StartupRequest)
    (hooks : RecoveryHooks) :
    ((requeuedTasks cat env request hooks).map TaskSummary.taskoid).Nodup := by
  have hlisted : ((cat.buildTaskInfoList env (effectiveOwner env request.ownerid)).map
      TaskRow.oid).Nodup := nodup_buildTaskInfoList
  have hsummaries : (qxRecoveryBuildTaskSummaries cat env
      (effectiveOwner env request.ownerid)).map TaskSummary.taskoid =
      (cat.buildTaskInfoList env (effectiveOwner env request.ownerid)).map TaskRow.oid := by
    rw [qxRecoveryBuildTaskSummaries, List.map_map]
    exact List.map_congr_left fun task _ => taskSummary_taskoid cat env _ task
  rw [← hsummaries] at hlisted
  exact ((List.filter_sublist.trans List.filter_sublist).map TaskSummary.taskoid).nodup hlisted

abbrev ScanRowsNamed (env : Env) (request : StartupRequest) (hooks : RecoveryHooks)
    (s s' : Backend) :=
  ScanEffect s s' (requeuedTasks s.catalog env request hooks)
    (fencedAttempts s.catalog env request hooks) (checkpointsToReplay s.catalog env request hooks)

lemma ScanEffect.mem_fenced {tasks : List TaskSummary} {attempts : List AttemptSummary}
    {checkpoints : List CheckpointSummary}
    (h : ScanEffect s s' tasks attempts checkpoints requeued fenced leases traces) (taskoid : Oid) :
    taskoid ∈ fenced.map QueueRow.taskoid ↔
      taskoid ∉ tasks.map TaskSummary.taskoid ∧
        taskoid ∈ attempts.map AttemptSummary.taskoid := by
  have hrows : taskoid ∈ fenced.map QueueRow.taskoid ↔
      (fenced.filter (·.taskoid == taskoid)).map QueueRow.attemptoid ≠ [] := by
    simp [List.filter_eq_nil_iff]
  rw [hrows, h.first_row]
  by_cases htask : taskoid ∈ tasks.map TaskSummary.taskoid
  · simp [htask]
  · rw [if_neg htask]
    simp [htask]

lemma ScanEffect.queued_nodup
    (h : ScanRowsNamed env request hooks s s' requeued fenced leases traces) :
    ((requeued ++ fenced).map QueueRow.taskoid).Nodup := by
  have hkeys := map_eq_of_forall₂ h.requeue_rows fun _ _ hrow => hrow.taskoid
  rw [List.map_append, List.nodup_append, hkeys]
  refine ⟨requeuedTasks_nodup _ _ _ _, ?_, ?_⟩
  · rw [List.nodup_iff_count_le_one]
    intro taskoid
    have hlength := congrArg List.length (h.first_row taskoid)
    rw [List.length_map, ← List.countP_eq_length_filter] at hlength
    rw [List.count, List.countP_map]
    refine le_of_eq_of_le hlength ?_
    split
    · exact Nat.zero_le 1
    · exact Option.length_toList_le
  · rintro taskoid htask _ hfenced rfl
    exact ((h.mem_fenced taskoid).mp hfenced).1 htask

/-- One queue row for each task that is requeued or whose attempts are fenced. -/
theorem ScanEffect.queued_length
    (h : ScanRowsNamed env request hooks s s' requeued fenced leases traces) :
    (requeued ++ fenced).length =
      s.catalog.tasks.rows.countP (s.catalog.queuesTask env request hooks) := by
  have hkeys := map_eq_of_forall₂ h.requeue_rows fun _ _ hrow => hrow.taskoid
  have hstored : ∀ taskoid ∈ (fencedAttempts s.catalog env request hooks).map
      AttemptSummary.taskoid, ∃ task ∈ s.catalog.tasks.rows, task.oid = taskoid := by
    intro taskoid hmem
    obtain ⟨summary, hsummary, rfl⟩ := List.mem_map.mp hmem
    obtain ⟨lease, -, hfence⟩ := exists_row_of_forall₂ h.fence_leases hsummary
    obtain ⟨task, htask, -⟩ := hfence.stored
    exact ⟨task, (Table.find?_eq_some_iff.mp htask).1, taskoid_of_lookup htask⟩
  have hperm : ((requeued ++ fenced).map QueueRow.taskoid).Perm
      ((s.catalog.tasks.rows.filter (s.catalog.queuesTask env request hooks)).map TaskRow.oid) := by
    refine (List.perm_ext_iff_of_nodup h.queued_nodup
      ((List.filter_sublist.map TaskRow.oid).nodup s.catalog.tasks.nodup)).mpr fun taskoid => ?_
    rw [List.map_append, List.mem_append, hkeys, h.mem_fenced]
    simp only [List.mem_map (f := TaskRow.oid), List.mem_filter, Catalog.queuesTask,
      Bool.or_eq_true]
    constructor
    · rintro (hrequeued | ⟨-, hattempt⟩)
      · obtain ⟨task, htask, rfl, hqueued⟩ := mem_requeuedTasks.mp hrequeued
        exact ⟨task, ⟨htask, .inl hqueued⟩, rfl⟩
      · obtain ⟨task, htask, rfl⟩ := hstored taskoid hattempt
        exact ⟨task, ⟨htask, .inr (mem_fencedAttempts.mp hattempt).2⟩, rfl⟩
    · rintro ⟨task, ⟨htask, hqueued⟩, rfl⟩
      by_cases hrequeued : task.oid ∈ (requeuedTasks s.catalog env request hooks).map
          TaskSummary.taskoid
      · exact .inl hrequeued
      · refine .inr ⟨hrequeued, mem_fencedAttempts.mpr ⟨?_, ?_⟩⟩
        · exact bne_iff_ne.mpr (s.catalog.tasks.valid task htask)
        · exact hqueued.resolve_left fun h => hrequeued (mem_requeuedTasks.mpr ⟨task, htask, rfl, h⟩)
  rw [List.countP_eq_length_filter, ← List.length_map (f := TaskRow.oid), ← hperm.length_eq,
    List.length_map]

lemma fenced_eq_iff {cat : Catalog} :
    (scannedAttempts cat env request).countP qxRecoveryAttemptNeedsFence =
        (fencedAttempts cat env request hooks).length ↔
      (request.includeAttempts = true → ∀ attempt ∈ cat.attempts.rows,
        cat.needsFence (effectiveOwner env request.ownerid) attempt = true →
          request.fenceStaleAttempts = true ∧ hooks.fenceAttempt = true ∧
            oidIsValid attempt.taskoid = true) := by
  rw [fencedAttempts, attemptsToFence, List.filter_filter, ← List.countP_eq_length_filter,
    countP_eq_countP_iff]
  · cases hinclude : request.includeAttempts with
    | false => simp [scannedAttempts, hinclude]
    | true =>
      simp only [scannedAttempts, hinclude, if_true, qxRecoveryBuildAttemptSummaries,
        List.forall_mem_map, mem_buildAttemptInfoList, Catalog.needsFence, Bool.and_eq_true,
        decide_eq_true_eq, true_implies, and_imp]
      refine forall₂_congr fun attempt hattempt => forall₂_congr fun howner hneeds => ?_
      constructor
      · intro h
        exact ⟨h.2.1.1, h.2.2, h.1.2⟩
      · intro h
        exact ⟨⟨bne_iff_ne.mpr (cat.attempts.valid attempt hattempt), h.2.2⟩, ⟨h.1, hneeds⟩, h.2.1⟩
  · intro attempt h
    simp only [Bool.and_eq_true] at h
    exact h.2.1.2

lemma replayed_eq_iff {cat : Catalog} :
    ((scannedCheckpoints cat env request).countP fun c =>
        qxRecoveryCheckpointNeedsReplay c && !c.semanticReplayed) =
        (checkpointsToReplay cat env request hooks).length ↔
      (request.includeCheckpoints = true → ∀ checkpoint ∈ cat.checkpoints.rows,
        cat.needsReplay (effectiveOwner env request.ownerid) checkpoint = true →
          request.rebuildFromSemanticLog = true ∧ hooks.replayCheckpoint = true) := by
  rw [checkpointsToReplay, ← List.countP_eq_length_filter, countP_eq_countP_iff]
  · cases hinclude : request.includeCheckpoints with
    | false => simp [scannedCheckpoints, hinclude]
    | true =>
      simp only [scannedCheckpoints, hinclude, if_true, qxRecoveryBuildCheckpointSummaries,
        List.forall_mem_map, mem_buildCheckpointInfoList, Catalog.needsReplay, Bool.and_eq_true,
        true_implies, and_imp]
      refine forall₂_congr fun checkpoint _ => forall₂_congr fun _ hneeds =>
        forall_congr' fun hfresh => ?_
      constructor
      · intro h
        exact ⟨h.1.1.1, h.2⟩
      · intro h
        exact ⟨⟨⟨h.1, hneeds⟩, hfresh⟩, h.2⟩
  · intro checkpoint h
    simp only [Bool.and_eq_true] at h ⊢
    exact ⟨h.1.1.2, h.1.2⟩

end queued

section collector

variable {collector : Collector} {dboid : Oid} {request : RecoveryRequest} {report : RecoveryReport}

/-- The collector takes the reports of the database: it is on, and the database has a slot or can
get one. -/
def Collector.Counts (collector : Collector) (dboid : Oid) : Prop :=
  collector.trackStats = true ∧
    ((qxStatLookupEntry collector.slots (recoveryKey dboid)).isSome = true ∨
      collector.slots.hasRoom = true)

instance (collector : Collector) (dboid : Oid) : Decidable (collector.Counts dboid) :=
  inferInstanceAs (Decidable (_ ∧ _))

lemma recoveryKey_stored (dboid : Oid) : (recoveryKey dboid).stored = recoveryKey dboid := rfl

lemma recoveryStats_finish (finish : Bool) (collector : Collector) (dboid : Oid)
    (request : RecoveryRequest) (report : RecoveryReport) :
    (qxRuntimeRecoveryFinish finish collector dboid request report).recoveryStats dboid =
      if finish = true ∧ collector.Counts dboid then
        qxStatMutateRecovery request.failoverRebuild report (collector.recoveryStats dboid)
      else collector.recoveryStats dboid := by
  obtain ⟨trackStats, slots⟩ := collector
  cases finish with
  | false => simp [qxRuntimeRecoveryFinish]
  | true =>
    cases trackStats with
    | false => simp [qxRuntimeRecoveryFinish, qxStatReportRecoveryScan, Collector.Counts]
    | true =>
      have hlookup := qxStatLookupEntry_withEntry (recoveryKey_stored dboid) slots
        (qxStatMutateRecovery request.failoverRebuild report)
      simp only [qxRuntimeRecoveryFinish, qxStatReportRecoveryScan, Collector.Counts, if_true,
        Collector.recoveryStats, hlookup, true_and, ← Bool.or_eq_true]
      cases hroom : (qxStatLookupEntry slots (recoveryKey dboid)).isSome || slots.hasRoom with
      | false =>
        simp only [Bool.or_eq_false_iff, Option.isSome_eq_false_iff, Option.isNone_iff_eq_none]
          at hroom
        simp [hroom.1]
      | true => simp

lemma mutateRecovery_tasksRequeued (failover : Bool) (report : RecoveryReport)
    (counters : StatCounters) :
    (qxStatMutateRecovery failover report counters).recoveryTasksRequeued =
      counters.recoveryTasksRequeued + report.tasksRequeued := by
  cases failover with
  | false => rfl
  | true => rfl

lemma mutateRecovery_attemptsFenced (failover : Bool) (report : RecoveryReport)
    (counters : StatCounters) :
    (qxStatMutateRecovery failover report counters).recoveryAttemptsFenced =
      counters.recoveryAttemptsFenced + report.attemptsFenced := by
  cases failover with
  | false => rfl
  | true => rfl

end collector

/-- The report, and what the collector adds for it, count the rows that were written. -/
structure ReportFaithful (s s' : Backend) (collector collector' : Collector) (dboid : Oid)
    (report : RecoveryReport) : Prop where
  requeued : report.tasksRequeued = (s.catalog.queues.since s'.catalog.queues).length
  fenced : report.attemptsFenced = (s.catalog.leases.since s'.catalog.leases).length
  replayed : report.checkpointsReplayed = (s.catalog.traces.since s'.catalog.traces).length
  stat_requeued : (collector'.recoveryStats dboid).recoveryTasksRequeued =
    (collector.recoveryStats dboid).recoveryTasksRequeued +
      (s.catalog.queues.since s'.catalog.queues).length
  stat_fenced : (collector'.recoveryStats dboid).recoveryAttemptsFenced =
    (collector.recoveryStats dboid).recoveryAttemptsFenced +
      (s.catalog.leases.since s'.catalog.leases).length

/-- Whatever the scan finds to do, its request and its callbacks do. -/
structure ReportJustified (cat : Catalog) (env : Env) (request : StartupRequest)
    (hooks : RecoveryHooks) (finish : Bool) (collector : Collector) (dboid : Oid) : Prop where
  tasks : cat.tasks.rows.countP (cat.needsRequeue env (effectiveOwner env request.ownerid)) =
    cat.tasks.rows.countP (cat.queuesTask env request hooks)
  attempts : request.includeAttempts = true → ∀ attempt ∈ cat.attempts.rows,
    cat.needsFence (effectiveOwner env request.ownerid) attempt = true →
      request.fenceStaleAttempts = true ∧ hooks.fenceAttempt = true ∧
        oidIsValid attempt.taskoid = true
  checkpoints : request.includeCheckpoints = true → ∀ checkpoint ∈ cat.checkpoints.rows,
    cat.needsReplay (effectiveOwner env request.ownerid) checkpoint = true →
      request.rebuildFromSemanticLog = true ∧ hooks.replayCheckpoint = true
  statistics : finish = true ∧ collector.Counts dboid ∨
    (∀ task ∈ cat.tasks.rows,
        cat.needsRequeue env (effectiveOwner env request.ownerid) task = false) ∧
      (request.includeAttempts = true → ∀ attempt ∈ cat.attempts.rows,
        cat.needsFence (effectiveOwner env request.ownerid) attempt = false)

/-- The report is faithful exactly when the scan was told to do all that it finds to do. -/
theorem report_faithful_iff {env : Env} {hooks : RecoveryHooks} {request : RecoveryRequest}
    {s : Backend} {journal : List Action} {report : RecoveryReport}
    (h : (request.script env hooks).Returns s journal report) (finish : Bool) (collector : Collector)
    (dboid : Oid) :
    ReportFaithful s (replay s journal) collector
        (qxRuntimeRecoveryFinish finish collector dboid request report) dboid report ↔
      ReportJustified s.catalog env request.scan hooks finish collector dboid := by
  rw [RecoveryRequest.script_eq] at h
  obtain ⟨hreport, requeued, fenced, leases, traces, heffect⟩ := qxRecoveryRunStartupScan_effect h
  have hqueues : (s.catalog.queues.since (replay s journal).catalog.queues).length =
      s.catalog.tasks.rows.countP (s.catalog.queuesTask env request.scan hooks) := by
    rw [Table.since_eq heffect.appends.queues]
    exact ScanEffect.queued_length heffect
  have hleases : (s.catalog.leases.since (replay s journal).catalog.leases).length =
      (fencedAttempts s.catalog env request.scan hooks).length := by
    rw [Table.since_eq heffect.appends.leases, ← heffect.fence_leases.length_eq]
    rfl
  have htraces : (s.catalog.traces.since (replay s journal).catalog.traces).length =
      (checkpointsToReplay s.catalog env request.scan hooks).length := by
    rw [Table.since_eq heffect.appends.traces, ← heffect.replay_rows.length_eq]
  have hrequeued : report.tasksRequeued = s.catalog.tasks.rows.countP
      (s.catalog.needsRequeue env (effectiveOwner env request.scan.ownerid)) := by
    rw [hreport]
    exact countP_listed (env.scan.tasks_perm _) _ _ _
  have hfenced : report.attemptsFenced = (scannedAttempts s.catalog env request.scan).countP
      qxRecoveryAttemptNeedsFence := by
    rw [hreport]
    rfl
  have hreplayed : report.checkpointsReplayed =
      (scannedCheckpoints s.catalog env request.scan).countP fun c =>
        qxRecoveryCheckpointNeedsReplay c && !c.semanticReplayed := by
    rw [hreport]
    rfl
  -- With nothing to report, it does not matter whether the collector listens.
  have hnothing : report.tasksRequeued = 0 ∧ report.attemptsFenced = 0 ↔
      (∀ task ∈ s.catalog.tasks.rows, s.catalog.needsRequeue env
          (effectiveOwner env request.scan.ownerid) task = false) ∧
        (request.scan.includeAttempts = true → ∀ attempt ∈ s.catalog.attempts.rows,
          s.catalog.needsFence (effectiveOwner env request.scan.ownerid) attempt = false) := by
    rw [hrequeued, hfenced, List.countP_eq_zero, scannedAttempts]
    refine and_congr (by simp) ?_
    split
    · rename_i hinclude
      rw [qxRecoveryBuildAttemptSummaries, Catalog.buildAttemptInfoList,
        countP_listed (env.scan.attempts_perm _), List.countP_eq_zero]
      simp [hinclude, Catalog.needsFence]
    · rename_i hinclude
      simp [hinclude]
  have hstats := recoveryStats_finish finish collector dboid request report
  constructor
  · intro hfaithful
    refine ⟨?_, ?_, ?_, ?_⟩
    · rw [← hrequeued, ← hqueues]
      exact hfaithful.requeued
    · exact fenced_eq_iff.mp (by rw [← hfenced, ← hleases]; exact hfaithful.fenced)
    · exact replayed_eq_iff.mp (by rw [← hreplayed, ← htraces]; exact hfaithful.replayed)
    · by_cases hcounts : finish = true ∧ collector.Counts dboid
      · exact .inl hcounts
      · refine .inr (hnothing.mp ?_)
        have hrequeue := hfaithful.stat_requeued
        have hfence := hfaithful.stat_fenced
        rw [hstats, if_neg hcounts, ← hfaithful.requeued] at hrequeue
        rw [hstats, if_neg hcounts, ← hfaithful.fenced] at hfence
        omega
  · intro hjustified
    have htasks : report.tasksRequeued =
        (s.catalog.queues.since (replay s journal).catalog.queues).length := by
      rw [hrequeued, hqueues]
      exact hjustified.tasks
    have hattempts : report.attemptsFenced =
        (s.catalog.leases.since (replay s journal).catalog.leases).length := by
      rw [hfenced, hleases]
      exact fenced_eq_iff.mpr hjustified.attempts
    have hcheckpoints : report.checkpointsReplayed =
        (s.catalog.traces.since (replay s journal).catalog.traces).length := by
      rw [hreplayed, htraces]
      exact replayed_eq_iff.mpr hjustified.checkpoints
    refine ⟨htasks, hattempts, hcheckpoints, ?_, ?_⟩
    · rw [hstats, ← htasks]
      split
      · exact mutateRecovery_tasksRequeued _ _ _
      · rename_i hsilent
        have hzero := hnothing.mpr (hjustified.statistics.resolve_left hsilent)
        rw [hzero.1, Nat.add_zero]
    · rw [hstats, ← hattempts]
      split
      · exact mutateRecovery_attemptsFenced _ _ _
      · rename_i hsilent
        have hzero := hnothing.mpr (hjustified.statistics.resolve_left hsilent)
        rw [hzero.2, Nat.add_zero]

def demoLogged : World :=
  (World.initial demoAgents).run
    [⟨1, { demoEnv 1000 with lsn := 7 }, .runTask ⟨1, some "extract".toList, "collect".toList, none,
      some "normal".toList⟩ demoAuthorization, .commit⟩]

def demoCollector : Collector :=
  ⟨true, [none, none]⟩

def demoReplay : RecoveryRequest :=
  .failover ⟨10, false, true, true, false, false⟩

/-- The rebuild requeues the task, replays the checkpoint and says so. -/
theorem demoLogged_rebuild_faithful :
    ∃ journal report, (demoRebuild.script (demoEnv 2000) ⟨true, true, true⟩).Returns
        (demoLogged.backend 2) journal report ∧
      report.tasksRequeued = 1 ∧ report.checkpointsReplayed = 1 ∧
      ReportFaithful (demoLogged.backend 2) (replay (demoLogged.backend 2) journal) demoCollector
        (qxRuntimeRecoveryFinish true demoCollector 5 demoRebuild report) 5 report := by
  have hrun : ((demoRebuild.script (demoEnv 2000) ⟨true, true, true⟩).run
      (demoLogged.backend 2)).2.toOption.map
        (fun report => (report.tasksRequeued, report.checkpointsReplayed)) = some (1, 1) := by
    decide +kernel
  have hstate : (demoLogged.backend 2).catalog.tasks.rows.countP
        ((demoLogged.backend 2).catalog.needsRequeue (demoEnv 2000)
          (effectiveOwner (demoEnv 2000) demoRebuild.scan.ownerid)) =
        (demoLogged.backend 2).catalog.tasks.rows.countP
          ((demoLogged.backend 2).catalog.queuesTask (demoEnv 2000) demoRebuild.scan
            ⟨true, true, true⟩) ∧
      ∀ attempt ∈ (demoLogged.backend 2).catalog.attempts.rows,
        oidIsValid attempt.taskoid = true := by
    decide +kernel
  obtain ⟨report, hreport, hcounts⟩ := Option.map_eq_some_iff.mp hrun
  simp only [Prod.mk.injEq] at hcounts
  have hreturns := Script.returns_of_toOption hreport
  refine ⟨_, report, hreturns, hcounts.1, hcounts.2, (report_faithful_iff hreturns _ _ _).mpr ?_⟩
  exact ⟨hstate.1, fun _ attempt hattempt _ => ⟨rfl, rfl, hstate.2 attempt hattempt⟩,
    fun _ _ _ _ => ⟨rfl, rfl⟩, .inl ⟨rfl, rfl, .inr rfl⟩⟩

/-- The semantic replay requeues nothing, but it reports one requeued task and the statistics count
it. -/
theorem demoLogged_replay_unfaithful :
    demoLogged.Reachable ∧ ∃ journal report,
      (demoReplay.script (demoEnv 2000) ⟨false, false, true⟩).Returns (demoLogged.backend 2) journal
        report ∧
      report.tasksRequeued = 1 ∧
      ((qxRuntimeRecoveryFinish true demoCollector 5 demoReplay report).recoveryStats
        5).recoveryTasksRequeued = 1 ∧
      (demoLogged.backend 2).catalog.queues.since
        (replay (demoLogged.backend 2) journal).catalog.queues = [] ∧
      ¬ReportFaithful (demoLogged.backend 2) (replay (demoLogged.backend 2) journal) demoCollector
        (qxRuntimeRecoveryFinish true demoCollector 5 demoReplay report) 5 report := by
  have hrun : ((demoReplay.script (demoEnv 2000) ⟨false, false, true⟩).run
      (demoLogged.backend 2)).2.toOption.map (fun report => (report.tasksRequeued,
        ((qxRuntimeRecoveryFinish true demoCollector 5 demoReplay report).recoveryStats
          5).recoveryTasksRequeued)) = some (1, 1) ∧
      (demoLogged.backend 2).catalog.queues.since (replay (demoLogged.backend 2)
        ((demoReplay.script (demoEnv 2000) ⟨false, false, true⟩).run
          (demoLogged.backend 2)).1).catalog.queues = [] := by
    decide +kernel
  obtain ⟨hrun, hqueues⟩ := hrun
  obtain ⟨report, hreport, hcounts⟩ := Option.map_eq_some_iff.mp hrun
  simp only [Prod.mk.injEq] at hcounts
  refine ⟨World.reachable_run demoAgents _, _, report, Script.returns_of_toOption hreport,
    hcounts.1, hcounts.2, hqueues, fun hfaithful => ?_⟩
  have hrequeued := hfaithful.requeued
  rw [hqueues, hcounts.1] at hrequeued
  cases hrequeued

end QhapaqXian
