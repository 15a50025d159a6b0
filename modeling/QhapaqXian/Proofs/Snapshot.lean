import QhapaqXian.Proofs.Idempotence

/-!
# The cached recovery snapshot

A backend that has scanned for an owner does not scan again. Its memory survives the abort of the
transaction that scanned, and the ledger rows do not: they are durable only if that transaction
commits.
-/

namespace QhapaqXian

open Library Script Txn

variable {cat cat' : Catalog}

/-- No row of a ledger is lost. -/
structure Catalog.KeepsLedgers (cat cat' : Catalog) : Prop where
  queues : ∀ row ∈ cat.queues.rows, row ∈ cat'.queues.rows
  leases : ∀ row ∈ cat.leases.rows, row ∈ cat'.leases.rows
  heartbeats : ∀ row ∈ cat.heartbeats.rows, row ∈ cat'.heartbeats.rows

namespace Catalog.KeepsLedgers

lemma refl (cat : Catalog) : cat.KeepsLedgers cat :=
  ⟨fun _ h => h, fun _ h => h, fun _ h => h⟩

lemma trans {cat'' : Catalog} (h : cat.KeepsLedgers cat') (h' : cat'.KeepsLedgers cat'') :
    cat.KeepsLedgers cat'' :=
  ⟨fun row hrow => h'.queues row (h.queues row hrow),
    fun row hrow => h'.leases row (h.leases row hrow),
    fun row hrow => h'.heartbeats row (h.heartbeats row hrow)⟩

lemma apply (cat : Catalog) (action : Action) : cat.KeepsLedgers (cat.apply action) := by
  cases action with
  | insertSchedulerQueue row =>
    exact ⟨fun _ h => Table.mem_insert_of_mem h, fun _ h => h, fun _ h => h⟩
  | insertSchedulerLease row =>
    exact ⟨fun _ h => h, fun _ h => Table.mem_insert_of_mem h, fun _ h => h⟩
  | insertSchedulerHeartbeat row =>
    exact ⟨fun _ h => h, fun _ h => h, fun _ h => Table.mem_insert_of_mem h⟩
  | _ => exact ⟨fun _ h => h, fun _ h => h, fun _ h => h⟩

lemma replay (s : Backend) (journal : List Action) :
    s.catalog.KeepsLedgers (Library.replay s journal).catalog := by
  induction journal generalizing s with
  | nil => exact refl _
  | cons action actions ih => exact (apply s.catalog action).trans (ih (Replay.apply s action))

end Catalog.KeepsLedgers

/-! ## What a scan owes -/

section summaries

variable {cat cat' : Catalog} {ownerid taskoid : Oid} {task : TaskRow}

lemma lookupLatestSchedulerQueue_view (attemptoid : Oid) :
    cat.lookupLatestSchedulerQueue ownerid taskoid attemptoid =
      ((cat.view taskoid).queues.filter fun row => row.attemptoid == attemptoid &&
        Catalog.ownerMatches ownerid row.ownerid).argmax QueueRow.oid := by
  rw [Catalog.lookupLatestSchedulerQueue, Catalog.view, List.filter_filter]
  congr 2
  funext row
  exact (Bool.and_assoc _ _ _).trans (Bool.and_comm _ _)

lemma lookupLatestSchedulerLease_view (attemptoid : Oid) :
    cat.lookupLatestSchedulerLease ownerid taskoid attemptoid =
      ((cat.view taskoid).leases.filter fun row => row.attemptoid == attemptoid &&
        Catalog.ownerMatches ownerid row.ownerid).argmax LeaseRow.oid := by
  rw [Catalog.lookupLatestSchedulerLease, Catalog.view, List.filter_filter]
  congr 2
  funext row
  exact (Bool.and_assoc _ _ _).trans (Bool.and_comm _ _)

lemma taskSummary_of_view (env env' : Env) (ownerid : Oid) (hcat : cat.Sound) (hcat' : cat'.Sound)
    (htask : task ∈ cat.tasks.rows) (hview : cat'.view task.oid = cat.view task.oid) :
    (taskSummary cat' env' ownerid task).lastattemptoid =
        (taskSummary cat env ownerid task).lastattemptoid ∧
      qxRecoveryTaskNeedsRequeue (taskSummary cat' env' ownerid task) =
        qxRecoveryTaskNeedsRequeue (taskSummary cat env ownerid task) := by
  have htask' : task ∈ cat'.tasks.rows := by
    have hlookup := view_task_of_mem htask
    rw [← hview] at hlookup
    exact (Table.find?_eq_some_iff.mp hlookup).1
  have hlast : (taskSummary cat' env' ownerid task).lastattemptoid =
      (taskSummary cat env ownerid task).lastattemptoid := by
    rw [taskSummary_lastattemptoid env ownerid hcat htask,
      taskSummary_lastattemptoid env' ownerid hcat' htask', Catalog.attemptsOf, Catalog.attemptsOf,
      hview]
  have hneeds : (taskSummary cat' env' ownerid task).needsRequeue =
      (taskSummary cat env ownerid task).needsRequeue := by
    rw [Bool.eq_iff_iff, taskSummary_needsRequeue, taskSummary_needsRequeue, hview]
  refine ⟨hlast, ?_⟩
  simp only [qxRecoveryTaskNeedsRequeue, qxRecoveryTaskWouldRequeue, taskSummary_taskState, hneeds,
    taskSummary_recoveryQueued, hlast, qxRecoveryTaskHasSchedulerRecoveryQueue,
    lookupLatestSchedulerQueue_view, hview]

lemma attemptSummary_of_view {attempt : AttemptRow}
    (hview : cat'.view attempt.taskoid = cat.view attempt.taskoid) :
    attemptSummary cat' ownerid attempt = attemptSummary cat ownerid attempt := by
  simp only [attemptSummary, qxRecoveryAttemptHasSchedulerReclaim,
    lookupLatestSchedulerLease_view, hview]

end summaries

/-- Recovery owes a task a requeue row, or one of its attempts a fence. -/
def Catalog.Owes (cat : Catalog) (env : Env) (task : TaskRow) : Prop :=
  qxRecoveryTaskNeedsRequeue (taskSummary cat env task.ownerid task) = true ∨
    ∃ attempt ∈ (cat.view task.oid).attempts,
      qxRecoveryAttemptNeedsFence (attemptSummary cat task.ownerid attempt) = true

/-- The ledgers hold the rows that recovery owed a task in the catalogs of a start: the requeue row
of the task, and the reclaimed lease and the missed heartbeat of each fenced attempt, with a queue
row that recovery wrote for the task. -/
structure Catalog.Repaid (cat start : Catalog) (env : Env) (task : TaskRow) : Prop where
  requeue : qxRecoveryTaskNeedsRequeue (taskSummary start env task.ownerid task) = true →
    ∃ queue ∈ cat.queues.rows, queue.taskoid = task.oid ∧
      queue.IsFor (taskSummary start env task.ownerid task).lastattemptoid task.ownerid .recovery
        .requeue
  fence : ∀ attempt ∈ (start.view task.oid).attempts,
    qxRecoveryAttemptNeedsFence (attemptSummary start task.ownerid attempt) = true →
      (∃ queue ∈ cat.queues.rows, queue.taskoid = task.oid ∧ queue.repairs = true) ∧
      (∃ lease ∈ cat.leases.rows, lease.taskoid = task.oid ∧
        lease.IsFor attempt.oid task.ownerid .reclaimed) ∧
      ∃ beat ∈ cat.heartbeats.rows, beat.taskoid = task.oid ∧ beat.attemptoid = attempt.oid ∧
        beat.state = .missed

namespace Catalog.Repaid

variable {env : Env} {cat cat' start : Catalog} {task : TaskRow}

lemma keeps (h : cat.Repaid start env task) (hkeeps : cat.KeepsLedgers cat') :
    cat'.Repaid start env task where
  requeue hneeds := by
    obtain ⟨queue, hqueue, hfor⟩ := h.requeue hneeds
    exact ⟨queue, hkeeps.queues queue hqueue, hfor⟩
  fence attempt hattempt hneeds := by
    obtain ⟨⟨queue, hqueue, hrow⟩, ⟨lease, hlease, hfor⟩, beat, hbeat, hmissed⟩ :=
      h.fence attempt hattempt hneeds
    exact ⟨⟨queue, hkeeps.queues queue hqueue, hrow⟩, ⟨lease, hkeeps.leases lease hlease, hfor⟩,
      beat, hkeeps.heartbeats beat hbeat, hmissed⟩

lemma of_not_owes (h : ¬start.Owes env task) : cat.Repaid start env task where
  requeue hneeds := absurd (.inl hneeds) h
  fence attempt hattempt hneeds := absurd (.inr ⟨attempt, hattempt, hneeds⟩) h

end Catalog.Repaid

section scan

variable {env : Env} {s : Backend} {journal : List Action}

/-- A heartbeat that reports the lost attempt of a summary. -/
def AttemptSummary.Missed (summary : AttemptSummary) (cat : Catalog) : Prop :=
  ∃ beat ∈ cat.heartbeats.rows, beat.taskoid = summary.taskoid ∧
    beat.attemptoid = summary.attemptoid ∧ beat.state = .missed

lemma AttemptSummary.Missed.keeps {summary : AttemptSummary} (h : summary.Missed cat)
    (hkeeps : cat.KeepsLedgers cat') : summary.Missed cat' := by
  obtain ⟨beat, hbeat, hmissed⟩ := h
  exact ⟨beat, hkeeps.heartbeats beat hbeat, hmissed⟩

lemma insertSchedulerHeartbeat_mem {leaseoid : Oid} {row : HeartbeatRow} {u : Unit}
    (h : (insertSchedulerHeartbeat env leaseoid row).Returns s journal u) :
    ∃ beat ∈ (replay s journal).catalog.heartbeats.rows, beat.taskoid = row.taskoid ∧
      beat.attemptoid = row.attemptoid ∧ beat.state = row.state := by
  unfold insertSchedulerHeartbeat at h
  rw [returns_newOid_bind_iff] at h
  rw [returns_record_iff.mp h]
  have hadmits : s.catalog.heartbeats.Admits
      { row with
        oid := env.oids.next .schedulerHeartbeat s.catalog.heartbeats.idents
        leaseoid := leaseoid } :=
    admits_next env .schedulerHeartbeat rfl
  have hmem := List.mem_append_right s.catalog.heartbeats.rows (List.mem_singleton_self
    { row with
      oid := env.oids.next .schedulerHeartbeat s.catalog.heartbeats.idents
      leaseoid := leaseoid })
  rw [← Table.rows_insert hadmits] at hmem
  exact ⟨_, hmem, rfl, rfl, rfl⟩

lemma qxRuntimeRecoveryFenceAttempt_missed {context context' : QueueMap}
    {summary : AttemptSummary} (hnamed : summary.Named)
    (h : (qxRuntimeRecoveryFenceAttempt env context summary).Returns s journal context') :
    summary.Missed (replay s journal).catalog := by
  rw [qxRuntimeRecoveryFenceAttempt, if_pos (by rw [hnamed.1, hnamed.2, Bool.and_self])] at h
  obtain ⟨_, task, _, rfl, ⟨rfl, htask⟩, h⟩ := returns_bind_of recoveryTask_returns h
  replace h := returns_catalog_bind_iff.mp h
  obtain ⟨_, _, _, rfl, -, h⟩ := returns_bind_of id h
  obtain ⟨_, _, _, rfl, -, h⟩ := returns_bind_of id h
  obtain ⟨_, _, _, rfl, ⟨beat, hbeat, htaskoid, hattempt, hstate⟩, h⟩ :=
    returns_bind_of insertSchedulerHeartbeat_mem h
  obtain ⟨rfl, -⟩ := returns_pure_iff.mp h
  rw [List.append_nil, List.nil_append, replay_append, replay_append]
  exact ⟨beat, hbeat, htaskoid.trans (taskoid_of_lookup htask), hattempt, hstate⟩

lemma qxRecoveryRunStartupScan_missed {request : StartupRequest} {hooks : RecoveryHooks}
    {report : RecoveryReport} (hcat : s.catalog.Sound)
    (h : (qxRecoveryRunStartupScan env request hooks).Returns s journal report) :
    ∀ summary ∈ attemptsToFence s.catalog env request hooks,
      summary.Missed (replay s journal).catalog := by
  dsimp only [qxRecoveryRunStartupScan] at h
  replace h := returns_catalog_bind_iff.mp h
  obtain ⟨_, context, _, rfl, -, h⟩ := returns_bind_of id h
  obtain ⟨_, context', rest, rfl, hfence, h⟩ := returns_bind_of id h
  intro summary hsummary
  rw [replay_append, replay_append]
  refine AttemptSummary.Missed.keeps ?_ (.replay _ rest)
  -- The attempts that are still to come have no heartbeat yet.
  have hloop := fold_returns (I := fun rest t (_ : QueueMap) =>
    (∀ other ∈ rest, other ∈ attemptsToFence s.catalog env request hooks) ∧
      (summary ∈ rest ∨ summary.Missed t.catalog)) ?_ ⟨fun _ h => h, .inl hsummary⟩ hfence
  · exact hloop.2.resolve_left List.not_mem_nil
  rintro first rest t context written context' ⟨hrest, hdone⟩ hreturns
  refine ⟨fun other hother => hrest other (List.mem_cons_of_mem _ hother), ?_⟩
  rcases hdone with hmem | hmissed
  · rcases List.mem_cons.mp hmem with rfl | hmem
    · obtain ⟨attempt, hattempt, rfl, -, -⟩ := mem_attemptsToFence hsummary
      exact .inr (qxRuntimeRecoveryFenceAttempt_missed (attemptSummary_named hcat hattempt) hreturns)
    · exact .inl hmem
  · exact .inr (hmissed.keeps (.replay t written))

variable {start : Catalog} {ownerid : Oid} {task : TaskRow}

lemma startupScan_repays (env₀ : Env) {report : RecoveryReport} (hcat : s.catalog.Sound)
    (hstart : start.Sound) (htask : task ∈ start.tasks.rows) (hview : s.catalog.view task.oid = start.view task.oid)
    (howner : effectiveOwner env ownerid = task.ownerid)
    (h : (qxRecoveryRunStartupScan env (startupRequest ownerid) startupHooks).Returns s journal
      report) :
    (replay s journal).catalog.Repaid start env₀ task := by
  obtain ⟨requeued, fenced, leases, traces, heffect⟩ := qxRecoveryRunStartupScan_returns hcat h
  have hmissed := qxRecoveryRunStartupScan_missed hcat h
  have htask' : task ∈ s.catalog.tasks.rows := by
    have hlookup := view_task_of_mem htask
    rw [← hview] at hlookup
    exact (Table.find?_eq_some_iff.mp hlookup).1
  have hmatches : Catalog.ownerMatches (effectiveOwner env ownerid) task.ownerid = true := by
    rw [howner]
    simp [Catalog.ownerMatches]
  have hqueues : ∀ queue ∈ requeued ++ fenced,
      queue ∈ (replay s journal).catalog.queues.rows := by
    intro queue hqueue
    rw [heffect.appends.queues]
    exact List.mem_append_right _ hqueue
  obtain ⟨hlast, hneeds⟩ := taskSummary_of_view env₀ env task.ownerid hstart hcat htask hview
  constructor
  · intro howed
    have hmem : taskSummary s.catalog env (effectiveOwner env ownerid) task ∈
        tasksToRequeue s.catalog env (startupRequest ownerid) startupHooks := by
      refine List.mem_filter.mpr
        ⟨List.mem_map.mpr ⟨task, mem_buildTaskInfoList.mpr ⟨htask', hmatches⟩, rfl⟩, ?_⟩
      rw [howner, hneeds, howed]
      rfl
    obtain ⟨queue, hqueue, hrequeue⟩ := exists_row_of_forall₂ heffect.requeue_rows hmem
    obtain ⟨other, hother, hfor⟩ := hrequeue.stored
    rw [taskSummary_taskoid] at hother
    rw [Option.some.inj (hother.symm.trans (view_task_of_mem htask')), howner, hlast] at hfor
    exact ⟨queue, hqueues queue (List.mem_append_left _ hqueue),
      hrequeue.taskoid.trans (taskSummary_taskoid _ _ _ _), hfor⟩
  · intro attempt hattempt howed
    rw [← hview] at hattempt
    obtain ⟨hrow, htaskoid⟩ := mem_view_attempts.mp hattempt
    have hsame : attemptSummary s.catalog task.ownerid attempt =
        attemptSummary start task.ownerid attempt := attemptSummary_of_view (htaskoid ▸ hview)
    rw [← hsame] at howed
    have hrunning : attempt.state = .running := by
      simp only [qxRecoveryAttemptNeedsFence, Bool.and_eq_true] at howed
      exact beq_iff_eq.mp howed.2
    have hattemptOwner : attempt.ownerid = task.ownerid :=
      (hcat task.oid).owner task (view_task_of_mem htask') attempt hattempt (.inr hrunning)
    have hmem : attemptSummary s.catalog (effectiveOwner env ownerid) attempt ∈
        attemptsToFence s.catalog env (startupRequest ownerid) startupHooks := by
      refine List.mem_filter.mpr ⟨List.mem_map.mpr ⟨attempt,
        mem_buildAttemptInfoList.mpr ⟨hrow, hattemptOwner ▸ hmatches⟩, rfl⟩, ?_⟩
      rw [howner, howed]
      rfl
    obtain ⟨lease, hlease, hfence⟩ := exists_row_of_forall₂ heffect.fence_leases hmem
    obtain ⟨other, hother, hfor⟩ := hfence.stored
    have htaskoid' : (attemptSummary s.catalog (effectiveOwner env ownerid) attempt).taskoid =
        task.oid := htaskoid
    rw [htaskoid'] at hother
    rw [Option.some.inj (hother.symm.trans (view_task_of_mem htask'))] at hfor
    obtain ⟨beat, hbeat, hbeatTask, hbeatAttempt, hstate⟩ := hmissed _ hmem
    refine ⟨?_, ⟨lease, ?_, hfence.taskoid.trans htaskoid, hfor⟩, beat, hbeat,
      hbeatTask.trans htaskoid, hbeatAttempt, hstate⟩
    · -- The task was requeued, or its first fence has appended a row.
      have hfirst := heffect.first_row task.oid
      have hqueue : ∃ queue ∈ requeued ++ fenced, queue.taskoid = task.oid := by
        split at hfirst
        · rename_i hlisted
          obtain ⟨summary, hsummary, hoid⟩ := List.mem_map.mp hlisted
          obtain ⟨queue, hqueue, hrequeue⟩ := exists_row_of_forall₂ heffect.requeue_rows hsummary
          exact ⟨queue, List.mem_append_left _ hqueue, hrequeue.taskoid.trans hoid⟩
        · obtain ⟨first, hfound⟩ := Option.isSome_iff_exists.mp
            (List.find?_isSome (p := fun summary => summary.taskoid == task.oid) |>.mpr
              ⟨_, hmem, beq_iff_eq.mpr htaskoid'⟩)
          rw [hfound] at hfirst
          have hhead : first.attemptoid ∈ (fenced.filter (·.taskoid == task.oid)).map
              QueueRow.attemptoid := by
            rw [hfirst]
            exact List.mem_singleton.mpr rfl
          obtain ⟨queue, hqueue, -⟩ := List.mem_map.mp hhead
          obtain ⟨hqueue, hoid⟩ := List.mem_filter.mp hqueue
          exact ⟨queue, List.mem_append_right _ hqueue, beq_iff_eq.mp hoid⟩
      obtain ⟨queue, hqueue, hoid⟩ := hqueue
      obtain ⟨_, _, origin, -, -, -, horigin, hrow⟩ := heffect.queue_isFor hcat hqueue
      refine ⟨queue, hqueues queue hqueue, hoid, ?_⟩
      rw [QueueRow.repairs, hrow.queueKind, hrow.origin]
      rcases horigin with rfl | rfl <;> rfl
    · rw [heffect.appends.leases]
      exact List.mem_append_right _ hlease

end scan

/-! ## Runs of one backend -/

/-- A `RUN TASK` or `RESUME TASK` of a user in a backend. It commits, or it is undone before the
backend remembers a scan; and whoever resumes the task of another owner does so when recovery owes
that task nothing. -/
structure ScansCommit (backend : Nat) (world : World) (event : Event) : Prop where
  backend : event.backend = backend
  user : oidIsValid event.env.userid = true
  command : match event.command with
    | .runTask .. => True
    | .resumeTask stmt => ∀ task, world.catalog.lookupTaskByOid stmt.taskoid = some task →
        task.ownerid = event.env.userid ∨ ¬world.catalog.Owes event.env task
    | _ => False
  commits : world.Commits event ∨
    ∀ ownerid, Action.rememberStartupRecovery ownerid ∉ world.carriedOut event

lemma snapshot_replay {s : Backend} {journal : List Action} {ownerid : Oid}
    (hforgets : Action.rememberStartupRecovery ownerid ∉ journal)
    (h : (replay s journal).recoverySnapshot = some ownerid) :
    s.recoverySnapshot = some ownerid := by
  induction journal generalizing s with
  | nil => exact h
  | cons action actions ih =>
    rw [List.mem_cons, not_or] at hforgets
    have hfirst : (Replay.apply s action).recoverySnapshot = some ownerid := ih hforgets.2 h
    cases action with
    | rememberStartupRecovery other =>
      obtain rfl := Option.some.inj hfirst
      exact absurd rfl hforgets.1
    | forgetStartupRecovery => cases hfirst
    | _ => exact hfirst

lemma startupScan_snapshot {env : Env} {s : Backend} {journal : List Action} {ownerid : Oid}
    (h : (qxRuntimeEnsureStartupRecoveryScan env ownerid).Returns s journal ()) :
    (replay s journal).recoverySnapshot = some (effectiveOwner env ownerid) := by
  rcases qxRuntimeEnsureStartupRecoveryScan_returns h with
    ⟨hknown, rfl⟩ | ⟨-, scanned, report, -, rfl⟩
  · exact hknown
  · rw [replay_append]
    rfl

section runs

variable {start world : World} {event : Event} {backend : Nat} {task : TaskRow} {env : Env}

lemma ScansCommit.moves (h : ScansCommit backend world event) (hcat : world.catalog.Sound)
    (hcommits : world.Commits event) :
    ∃ moved, RecoversThenEvolves event.env event.env.userid
        (event.env.inputs world.catalog.agents) (world.backend backend) (world.carriedOut event)
        moved ∧
      ∀ task, (world.catalog.view moved).task = some task →
        task.ownerid = event.env.userid ∨ ¬world.catalog.Owes event.env task := by
  have hreturns := World.returns_of_commits hcommits
  have hallowed := h.command
  rw [h.backend] at hreturns
  cases hcommand : event.command with
  | runTask stmt authorization =>
    rw [hcommand] at hreturns
    obtain ⟨taskoid, hreturns⟩ := returns_of_discard hreturns
    obtain ⟨hstages, hnew⟩ := runTask_evolves (s := world.backend backend) hcat hreturns
    exact ⟨taskoid, hstages, fun task htask => nomatch hnew.symm.trans htask⟩
  | resumeTask stmt =>
    rw [hcommand] at hreturns hallowed
    obtain ⟨taskoid, hreturns⟩ := returns_of_discard hreturns
    have hresumes := resumeTask_returns (s := world.backend backend) world.catalog.agents hcat
      hreturns
    exact ⟨stmt.taskoid, hresumes.stages, hallowed⟩
  | _ =>
    rw [hcommand] at hallowed
    exact hallowed.elim

/-- Either the rows owed to a task have been written, or the backend does not remember its owner
and the task is as it was at the start. -/
def PaidOrUntouched (start : World) (env : Env) (backend : Nat) (task : TaskRow) (world : World) :
    Prop :=
  world.catalog.Repaid start.catalog env task ∨
    world.snapshots backend ≠ some task.ownerid ∧
      world.catalog.view task.oid = start.catalog.view task.oid

lemma World.keepsLedgers_next (world : World) (event : Event) :
    world.catalog.KeepsLedgers (world.next event).catalog := by
  rw [World.next]
  dsimp only
  split
  · exact Catalog.KeepsLedgers.replay (world.backend event.backend) _
  · exact .refl _

lemma Catalog.Owes.of_view {env' : Env} (hcat : cat.Sound) (hcat' : cat'.Sound)
    (htask : task ∈ cat.tasks.rows) (hview : cat'.view task.oid = cat.view task.oid)
    (h : cat.Owes env task) :
    cat'.Owes env' task := by
  rcases h with hrequeue | ⟨attempt, hattempt, hfence⟩
  · exact .inl ((taskSummary_of_view env env' _ hcat hcat' htask hview).2.trans hrequeue)
  · refine .inr ⟨attempt, hview ▸ hattempt, ?_⟩
    rw [attemptSummary_of_view]
    · exact hfence
    · rw [(mem_view_attempts.mp hattempt).2]
      exact hview

lemma PaidOrUntouched.next (h : PaidOrUntouched start env backend task world)
    (hstart : start.catalog.Sound) (hcat : world.catalog.Sound)
    (htask : task ∈ start.catalog.tasks.rows) (hallowed : ScansCommit backend world event) :
    PaidOrUntouched start env backend task (world.next event) ∧
      (world.Commits event → event.env.userid = task.ownerid →
        (world.next event).catalog.Repaid start.catalog env task) := by
  rcases h with hpaid | ⟨hsnapshot, hview⟩
  · have hpaid' := hpaid.keeps (world.keepsLedgers_next event)
    exact ⟨.inl hpaid', fun _ _ => hpaid'⟩
  have huser : effectiveOwner event.env event.env.userid = event.env.userid := by
    rw [effectiveOwner, if_pos hallowed.user]
  have hlookup : (world.catalog.view task.oid).task = some task := by
    rw [hview]
    exact view_task_of_mem htask
  have hnext : (world.next event).snapshots backend =
      (replay (world.backend backend) (world.carriedOut event)).recoverySnapshot := by
    rw [World.next, hallowed.backend]
    exact if_pos rfl
  by_cases hcommits : world.Commits event
  · have hcatalog : (world.next event).catalog =
        (replay (world.backend backend) (world.carriedOut event)).catalog := by
      rw [World.next, if_pos hcommits, hallowed.backend]
    obtain ⟨moved, ⟨scanned, hscan, hevolves, hkept, hother, hfront⟩, hmoved⟩ :=
      hallowed.moves hcat hcommits
    obtain ⟨rest, hjournal⟩ := hfront
    by_cases howner : event.env.userid = task.ownerid
    · -- The command scans for the owner of the task.
      have hpaid : (world.next event).catalog.Repaid start.catalog env task := by
        rcases qxRuntimeEnsureStartupRecoveryScan_returns hscan with
          ⟨hknown, -⟩ | ⟨-, rows, report, hreturns, hscanned⟩
        · rw [huser, howner] at hknown
          exact absurd hknown hsnapshot
        · have hpays := startupScan_repays env hcat hstart htask hview
            ((effectiveOwner_effectiveOwner _ _).trans (huser.trans howner)) hreturns
          rw [hcatalog, ← hjournal, hscanned, List.append_assoc, replay_append]
          exact hpays.keeps (.replay _ _)
      exact ⟨.inl hpaid, fun _ _ => hpaid⟩
    · refine ⟨?_, fun _ hsame => absurd hsame howner⟩
      by_cases hmove : task.oid = moved
      · -- Another owner resumes the task when nothing is owed.
        obtain hsame | hnothing := hmoved task (hmove ▸ hlookup)
        · exact absurd hsame.symm howner
        · refine .inl (.of_not_owes fun howes => hnothing ?_)
          exact howes.of_view hstart hcat htask hview
      · refine .inr ⟨?_, ?_⟩
        · rw [hnext, hkept, startupScan_snapshot hscan, huser]
          exact fun hsame => howner (Option.some.inj hsame)
        · rw [hcatalog, hother task.oid hmove, ← hview]
          have hrecovers := qxRuntimeEnsureStartupRecoveryScan_recovers hcat hscan
          refine recoversSteps_of_not_scope hlookup (fun hscope => ?_) (hrecovers task.oid)
          have hmatches := hscope.2
          rw [scanScope, huser, huser, Catalog.ownerMatches, hallowed.user] at hmatches
          exact howner (beq_iff_eq.mp hmatches).symm
  · refine ⟨.inr ⟨?_, ?_⟩, fun hcommits' => absurd hcommits' hcommits⟩
    · rw [hnext]
      exact fun hsame => hsnapshot
        (snapshot_replay (hallowed.commits.resolve_left hcommits _) hsame)
    · rw [World.next, if_neg hcommits]
      exact hview

/-- A backend whose commands commit, or are undone before it remembers their scan: whenever it
remembers an owner, and whenever a command of an owner has committed, the ledgers hold the rows that
recovery owed the tasks of that owner at its first command. -/
theorem remembered_recovery_durable {taskoid : Oid} (hreachable : start.Reachable)
    (hfirst : start.snapshots backend = none)
    (hrun : World.Leads (ScansCommit backend) start world)
    (htask : start.catalog.lookupTaskByOid taskoid = some task) (env : Env) :
    (world.snapshots backend = some task.ownerid →
        world.catalog.Repaid start.catalog env task) ∧
      ∀ event, ScansCommit backend world event → world.Commits event →
        event.env.userid = task.ownerid →
          (world.next event).catalog.Repaid start.catalog env task := by
  have hmem := (Table.find?_eq_some_iff.mp htask).1
  have hpaid : PaidOrUntouched start env backend task world := by
    induction hrun with
    | refl => exact .inr ⟨by rw [hfirst]; exact nofun, rfl⟩
    | tail hleads hstep ih =>
      obtain ⟨event, hallowed, rfl⟩ := hstep
      exact (ih.next hreachable.sound (hreachable.leads hleads).sound hmem hallowed).1
  refine ⟨fun hremembers => hpaid.resolve_right fun h => h.1 hremembers, ?_⟩
  intro event hallowed
  exact (hpaid.next hreachable.sound (hreachable.leads hrun).sound hmem hallowed).2

end runs

def demoRunAgain (fate : Fate) : Event :=
  ⟨2, demoEnv 2000, demoRunTask, fate⟩

theorem demoRunAgain_recovery_durable :
    ∃ task, (demoCaptured "normal").catalog.lookupTaskByOid 1 = some task ∧
      qxRecoveryTaskNeedsRequeue
        (taskSummary (demoCaptured "normal").catalog (demoEnv 0) task.ownerid task) = true ∧
      ((demoCaptured "normal").next (demoRunAgain .commit)).catalog.Repaid
        (demoCaptured "normal").catalog (demoEnv 0) task := by
  have htask : ((demoCaptured "normal").catalog.lookupTaskByOid 1).map (fun task =>
      (task.ownerid, qxRecoveryTaskNeedsRequeue
        (taskSummary (demoCaptured "normal").catalog (demoEnv 0) task.ownerid task))) =
      some (10, true) := by decide +kernel
  obtain ⟨task, htask, hfacts⟩ := Option.map_eq_some_iff.mp htask
  simp only [Prod.mk.injEq] at hfacts
  have hcommits : (demoCaptured "normal").Commits (demoRunAgain .commit) := by decide +kernel
  have hreachable : (demoCaptured "normal").Reachable := World.reachable_run demoAgents _
  have hallowed : ScansCommit 2 (demoCaptured "normal") (demoRunAgain .commit) :=
    ⟨rfl, rfl, trivial, .inl hcommits⟩
  have hfirst : (demoCaptured "normal").snapshots 2 = none := by decide +kernel
  have hdurable := remembered_recovery_durable hreachable hfirst .refl htask (demoEnv 0)
  exact ⟨task, htask, hfacts.2, hdurable.2 _ hallowed hcommits hfacts.1.symm⟩

/-- The first command of a backend is rolled back after it has finished, the second one commits. -/
def demoForgotten : World :=
  ((demoCaptured "normal").next (demoRunAgain (.rollback 100))).next (demoRunAgain .commit)

/-- The backend remembers a scan whose rows were rolled back: the task that it owed a requeue row
still has none after the next command has committed. -/
theorem rolled_back_scan_remembered :
    (demoCaptured "normal").Reachable ∧ (demoCaptured "normal").snapshots 2 = none ∧
      ((demoCaptured "normal").catalog.lookupTaskByOid 1).map (fun task =>
        (task.ownerid, qxRecoveryTaskNeedsRequeue
          (taskSummary (demoCaptured "normal").catalog (demoEnv 0) task.ownerid task))) =
        some (10, true) ∧
      ((demoCaptured "normal").next (demoRunAgain (.rollback 100))).Commits
        (demoRunAgain .commit) ∧
      demoForgotten.snapshots 2 = some 10 ∧
      (demoForgotten.catalog.view 1).queues.map QueueRow.origin = [.dispatch] := by
  refine ⟨World.reachable_run demoAgents _, ?_⟩
  decide +kernel

end QhapaqXian
