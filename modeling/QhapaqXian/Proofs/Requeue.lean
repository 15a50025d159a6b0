import QhapaqXian.Proofs.Reach

/-!
# The attempt that recovery requeues

A summary settles on the attempt with the largest number. Recovery appends a queue row for it unless
the latest row of that attempt is already of the recovery kind, which an ordinary row of a task with
a low priority is too.
-/

namespace QhapaqXian

open Library Script Txn

variable {seen : List AttemptRow} {start : Oid} {summary : TaskSummary}

lemma RecoveryRequest.script_eq (env : Env) (hooks : RecoveryHooks) (request : RecoveryRequest) :
    request.script env hooks = qxRecoveryRunStartupScan env request.scan hooks := by
  cases request <;> rfl

def demoRebuild : RecoveryRequest :=
  .failover ⟨10, true, true, true, true, true⟩

/-- The attempt with the largest number that is not negative, or else a given one. -/
def foremostAttempt (start : Oid) (attempts : List AttemptRow) : Oid :=
  match @List.argmax _ _ Int.instLinearOrder.toPreorder Int.decLt AttemptRow.seqno
      (attempts.filter fun attempt => decide (0 ≤ attempt.seqno)) with
  | some attempt => attempt.oid
  | none => start

/-- No attempt has a larger number than the given one. -/
inductive Foremost (start : Oid) (attempts : List AttemptRow) : Oid → Prop
  | largest {attempt : AttemptRow} (hmem : attempt ∈ attempts) (hnonneg : 0 ≤ attempt.seqno)
      (hlargest : ∀ other ∈ attempts, other.seqno ≤ attempt.seqno) :
      Foremost start attempts attempt.oid
  | start (hneg : ∀ other ∈ attempts, other.seqno < 0) : Foremost start attempts start

lemma foremostAttempt_foremost (start : Oid) (attempts : List AttemptRow) :
    Foremost start attempts (foremostAttempt start attempts) := by
  unfold foremostAttempt
  split
  · rename_i attempt hargmax
    obtain ⟨hmem, hnonneg⟩ := List.mem_filter.mp (List.argmax_mem hargmax)
    refine .largest hmem (of_decide_eq_true hnonneg) fun other hother => ?_
    by_cases hother' : 0 ≤ other.seqno
    · exact List.le_of_mem_argmax
        (List.mem_filter.mpr ⟨hother, decide_eq_true hother'⟩) hargmax
    · have hattempt := of_decide_eq_true hnonneg
      omega
  · rename_i hnone
    refine .start fun other hother => ?_
    have hempty := List.filter_eq_nil_iff.mp (List.argmax_eq_none.mp hnone) other hother
    simpa using hempty

lemma Foremost.unique {oid oid' : Oid} {attempts attempts' : List AttemptRow}
    (hnodup : (attempts.map AttemptRow.seqno).Nodup)
    (hmem : ∀ attempt, attempt ∈ attempts' ↔ attempt ∈ attempts) (h : Foremost start attempts oid)
    (h' : Foremost start attempts' oid') : oid = oid' := by
  cases h with
  | @largest attempt hattempt hnonneg hlargest =>
    cases h' with
    | @largest attempt' hattempt' _ hlargest' =>
      have hle := hlargest attempt' ((hmem attempt').mp hattempt')
      have hge := hlargest' attempt ((hmem attempt).mpr hattempt)
      rw [List.inj_on_of_nodup_map hnodup hattempt ((hmem attempt').mp hattempt')
        (le_antisymm hge hle)]
    | start hneg =>
      have hcontra := hneg attempt ((hmem attempt).mpr hattempt)
      omega
  | start hneg =>
    cases h' with
    | @largest attempt' hattempt' hnonneg _ =>
      have hcontra := hneg attempt' ((hmem attempt').mp hattempt')
      omega
    | start => rfl

def TaskSummary.shown (summary : TaskSummary) (attempts : List AttemptRow) : List AttemptRow :=
  attempts.filter fun attempt => decide (attempt.taskoid = summary.taskoid)

/-- What a summary remembers of the attempts that it has seen. -/
structure TaskSummary.Settled (summary : TaskSummary) (start : Oid) (seen : List AttemptRow) :
    Prop where
  valid : oidIsValid summary.lastattemptoid = true
  largest : (∃ attempt ∈ seen, attempt.oid = summary.lastattemptoid ∧
      attempt.seqno = summary.nextStepSeqno ∧ 0 ≤ attempt.seqno ∧
      ∀ other ∈ seen, other.seqno ≤ attempt.seqno) ∨
    summary.lastattemptoid = start ∧ summary.nextStepSeqno = 0 ∧ ∀ other ∈ seen, other.seqno < 0

lemma TaskSummary.Settled.foremost (h : summary.Settled start seen) :
    Foremost start seen summary.lastattemptoid := by
  rcases h.largest with ⟨attempt, hmem, hoid, -, hnonneg, hlargest⟩ | ⟨hoid, -, hneg⟩
  · rw [← hoid]
    exact .largest hmem hnonneg hlargest
  · rw [hoid]
    exact .start hneg

lemma TaskSummary.Settled.withAttempt {attempt : AttemptRow} (h : summary.Settled start seen)
    (hvalid : oidIsValid attempt.oid = true) (htask : attempt.taskoid = summary.taskoid) :
    (summary.withAttempt attempt).Settled start (seen ++ [attempt]) := by
  have hlast : attempt ∈ seen ++ [attempt] := List.mem_append_right _ (List.mem_singleton.mpr rfl)
  have hbound : ∀ bound : Int, (∀ other ∈ seen, other.seqno ≤ bound) → attempt.seqno ≤ bound →
      ∀ other ∈ seen ++ [attempt], other.seqno ≤ bound := by
    intro bound hseen hattempt other hother
    rcases List.mem_append.mp hother with hold | hnew
    · exact hseen other hold
    · rw [List.mem_singleton.mp hnew]
      exact hattempt
  unfold TaskSummary.withAttempt
  rw [if_pos htask]
  dsimp only
  by_cases hlarger : attempt.seqno ≥ summary.nextStepSeqno
  · rw [if_pos (by rw [decide_eq_true hlarger, Bool.or_true])]
    refine ⟨hvalid, .inl ⟨attempt, hlast, rfl, rfl, ?_, hbound _ ?_ le_rfl⟩⟩
    · rcases h.largest with ⟨other, -, -, hseqno, hnonneg, -⟩ | ⟨-, hzero, -⟩ <;> omega
    · intro other hother
      rcases h.largest with ⟨largest, -, -, hseqno, -, hlargest⟩ | ⟨-, hzero, hneg⟩
      · exact (hlargest other hother).trans (hseqno ▸ hlarger)
      · have hneg := hneg other hother
        omega
  · rw [if_neg (by rw [h.valid, decide_eq_false hlarger]; decide)]
    refine ⟨h.valid, ?_⟩
    rcases h.largest with ⟨largest, hmem, hoid, hseqno, hnonneg, hlargest⟩ | ⟨hoid, hzero, hneg⟩
    · exact .inl ⟨largest, List.mem_append_left _ hmem, hoid, hseqno, hnonneg,
        hbound _ hlargest (by omega)⟩
    · refine .inr ⟨hoid, hzero, fun other hother => ?_⟩
      rcases List.mem_append.mp hother with hold | hnew
      · exact hneg other hold
      · rw [List.mem_singleton.mp hnew]
        omega

lemma withAttempts_settled (attempts : List AttemptRow) (h : summary.Settled start seen)
    (hvalid : ∀ attempt ∈ attempts, oidIsValid attempt.oid = true) :
    (qxRecoveryUpdateTaskWithAttempts summary attempts).Settled start
      (seen ++ summary.shown attempts) := by
  unfold qxRecoveryUpdateTaskWithAttempts
  induction attempts generalizing summary seen with
  | nil =>
    rw [TaskSummary.shown, List.filter_nil, List.append_nil]
    exact h
  | cons attempt attempts ih =>
    obtain ⟨hattempt, hattempts⟩ := List.forall_mem_cons.mp hvalid
    rw [List.foldl_cons]
    by_cases htask : attempt.taskoid = summary.taskoid
    · have hrest := ih (h.withAttempt hattempt htask) hattempts
      rw [List.append_assoc, TaskSummary.shown, TaskSummary.taskoid_withAttempt,
        List.singleton_append] at hrest
      rw [TaskSummary.shown, List.filter_cons_of_pos (by simpa using htask)]
      exact hrest
    · rw [TaskSummary.shown, List.filter_cons_of_neg (by simpa using htask),
        TaskSummary.withAttempt, if_neg htask]
      exact ih h hattempts

def Catalog.attemptsOf (cat : Catalog) (ownerid taskoid : Oid) : List AttemptRow :=
  (cat.view taskoid).attempts.filter fun attempt => Catalog.ownerMatches ownerid attempt.ownerid

section summaries

variable {env : Env} {cat : Catalog} {ownerid : Oid} {task : TaskRow}

/-- A summary settles on the attempt with the largest number, whatever the order of the scan. -/
theorem taskSummary_lastattemptoid (env : Env) (ownerid : Oid) (hcat : cat.Sound)
    (htask : task ∈ cat.tasks.rows) :
    (taskSummary cat env ownerid task).lastattemptoid =
      foremostAttempt task.lastattemptid (cat.attemptsOf ownerid task.oid) := by
  obtain ⟨earlier, last, hcurrent⟩ := (hcat task.oid).current task (view_task_of_mem htask)
  have hstart : (qxRecoveryTaskSummaryFromCatalog task).Settled task.lastattemptid [] := by
    refine ⟨?_, .inr ⟨rfl, rfl, nofun⟩⟩
    change oidIsValid task.lastattemptid = true
    rw [hcurrent.last_eq]
    exact oidIsValid_of_mem_attempts (List.mem_map_of_mem hcurrent.last_mem)
  have hsettled := withAttempts_settled (cat.buildAttemptInfoList env ownerid) hstart
    fun attempt hattempt => by
      obtain ⟨hmem, -⟩ := mem_buildAttemptInfoList.mp hattempt
      exact oidIsValid_of_mem_attempts (List.mem_map_of_mem (mem_view_attempts.mpr ⟨hmem, rfl⟩))
  have hnodup : ((cat.attemptsOf ownerid task.oid).map AttemptRow.seqno).Nodup :=
    (hcat task.oid).seqnos_nodup.sublist (List.filter_sublist.map _)
  simp only [taskSummary, TaskSummary.withLedgers, withCheckpoints_lastattemptoid]
  refine (Foremost.unique hnodup (fun attempt => ?_) (foremostAttempt_foremost _ _)
    hsettled.foremost).symm
  simp only [List.nil_append, TaskSummary.shown, List.mem_filter, mem_buildAttemptInfoList,
    decide_eq_true_eq, Catalog.attemptsOf, mem_view_attempts]
  exact and_right_comm

lemma taskSummary_recoveryQueued :
    (taskSummary cat env ownerid task).schedulerRecoveryQueued =
      qxRecoveryTaskHasSchedulerRecoveryQueue cat ownerid task.oid
        (taskSummary cat env ownerid task).lastattemptoid := by
  conv_rhs => rw [← taskSummary_taskoid cat env ownerid task]
  rfl

def TaskSummary.copied (summary : TaskSummary) :
    TaskState × Option CString × Option CString × Option CString :=
  (summary.taskState, summary.taskName, summary.goal, summary.priority)

lemma taskSummary_copied (cat : Catalog) (env : Env) (ownerid : Oid) (task : TaskRow) :
    (taskSummary cat env ownerid task).copied =
      (task.state, task.name, task.goal, task.priority) := by
  have hattempt : ∀ (summary : TaskSummary) (attempt : AttemptRow),
      (summary.withAttempt attempt).copied = summary.copied := by
    intro summary attempt
    unfold TaskSummary.withAttempt
    split
    · dsimp only
      split <;> rfl
    · rfl
  have hcheckpoint : ∀ (summary : TaskSummary) (checkpoint : CheckpointRow),
      (summary.withCheckpoint checkpoint).copied = summary.copied := by
    intro summary checkpoint
    unfold TaskSummary.withCheckpoint
    split <;> rfl
  exact (foldl_keeps hcheckpoint _ _).trans (foldl_keeps hattempt _ _)

lemma taskSummary_taskState : (taskSummary cat env ownerid task).taskState = task.state :=
  congrArg Prod.fst (taskSummary_copied cat env ownerid task)

end summaries

/-- The path that wrote the row repairs a task. -/
def QueueOrigin.repairs : QueueOrigin → Bool
  | .requeue | .fence | .reclaim => true
  | .dispatch | .retryDispatch | .fixture | .deadLetter => false

def QueueRow.repairs (queue : QueueRow) : Bool :=
  queue.queueKind == .recovery && queue.origin.repairs

/-- The latest queue row of an attempt is a recovery row that recovery or a reclaim appended. -/
def TaskView.repairRowLatest (view : TaskView) (attemptoid : Oid) : Bool :=
  (view.queues.filter (·.attemptoid == attemptoid)).getLast?.any QueueRow.repairs

/-- Startup recovery appends a queue row for the last attempt of a task. If the attempt with the
largest number already has a recovery row as its latest one, this is left to the fence, which hangs
its row on the first attempt of the task that it meets; otherwise that attempt is requeued. -/
def startupAppends (cat : Catalog) (env : Env) (ownerid : Oid) (task : TaskRow) : Bool :=
  let foremost := foremostAttempt task.lastattemptid (cat.attemptsOf ownerid task.oid)
  if qxRecoveryTaskHasSchedulerRecoveryQueue cat ownerid task.oid foremost then
    ((attemptsToFence cat env (startupRequest ownerid) startupHooks).find?
      (·.taskoid == task.oid)).any (·.attemptoid == task.lastattemptid)
  else foremost == task.lastattemptid

section scan

variable {env : Env} {s s' : Backend} {ownerid : Oid} {task : TaskRow}
  {requeued fenced : List QueueRow} {leases : List LeaseRow} {traces : List TraceRow}

/-- A checkpointed or running task is requeued unless the latest row of its foremost attempt is of
the recovery kind. -/
lemma mem_tasksToRequeue_startup (htask : task ∈ s.catalog.tasks.rows)
    (howner : Catalog.ownerMatches (effectiveOwner env ownerid) task.ownerid = true)
    (hstate : task.state = .checkpointed ∨ task.state = .running) :
    taskSummary s.catalog env (effectiveOwner env ownerid) task ∈
        tasksToRequeue s.catalog env (startupRequest ownerid) startupHooks ↔
      (taskSummary s.catalog env (effectiveOwner env ownerid) task).schedulerRecoveryQueued =
        false := by
  have hwould : qxRecoveryTaskWouldRequeue
      (taskSummary s.catalog env (effectiveOwner env ownerid) task) = true := by
    rw [qxRecoveryTaskWouldRequeue, taskSummary_taskState]
    rcases hstate with hstate | hstate <;> simp [hstate]
  rw [tasksToRequeue, List.mem_filter]
  constructor
  · rintro ⟨-, hneeds⟩
    simpa [qxRecoveryTaskNeedsRequeue, hwould, startupRequest, startupHooks] using hneeds
  · intro hqueued
    refine ⟨List.mem_map.mpr ⟨task, mem_buildTaskInfoList.mpr ⟨htask, howner⟩, rfl⟩, ?_⟩
    simp [qxRecoveryTaskNeedsRequeue, hqueued, hwould, startupRequest, startupHooks]

lemma taskSummary_of_requeued (htask : task ∈ s.catalog.tasks.rows) {request : StartupRequest}
    {hooks : RecoveryHooks} (h : summary ∈ tasksToRequeue s.catalog env request hooks)
    (hoid : summary.taskoid = task.oid) :
    summary = taskSummary s.catalog env (effectiveOwner env request.ownerid) task := by
  obtain ⟨other, hother, rfl, -, -⟩ := mem_tasksToRequeue h
  rw [taskSummary_taskoid] at hoid
  rw [Table.eq_of_ident_eq hother htask hoid]

lemma requeued_row_iff (htask : task ∈ s.catalog.tasks.rows)
    (howner : Catalog.ownerMatches (effectiveOwner env ownerid) task.ownerid = true)
    (hstate : task.state = .checkpointed ∨ task.state = .running)
    (h : ScanRows env (startupRequest ownerid) startupHooks s s' requeued fenced leases traces) :
    (∃ row ∈ requeued, row.taskoid = task.oid ∧ row.attemptoid = task.lastattemptid) ↔
      (taskSummary s.catalog env (effectiveOwner env ownerid) task).schedulerRecoveryQueued =
          false ∧
        (taskSummary s.catalog env (effectiveOwner env ownerid) task).lastattemptoid =
          task.lastattemptid := by
  rw [← mem_tasksToRequeue_startup htask howner hstate]
  constructor
  · rintro ⟨row, hrow, htaskoid, hattempt⟩
    obtain ⟨summary, hsummary, hrequeue⟩ := exists_of_forall₂ h.requeue_rows hrow
    have hsame := taskSummary_of_requeued htask hsummary (hrequeue.taskoid.symm.trans htaskoid)
    obtain ⟨_, _, hfor⟩ := hrequeue.stored
    rw [hsame] at hsummary hfor
    exact ⟨hsummary, hfor.attemptoid.symm.trans hattempt⟩
  · rintro ⟨hsummary, hlast⟩
    obtain ⟨row, hrow, hrequeue⟩ := exists_row_of_forall₂ h.requeue_rows hsummary
    obtain ⟨_, _, hfor⟩ := hrequeue.stored
    exact ⟨row, hrow, hrequeue.taskoid.trans (taskSummary_taskoid _ _ _ _),
      hfor.attemptoid.trans hlast⟩

lemma fenced_row_iff (htask : task ∈ s.catalog.tasks.rows)
    (howner : Catalog.ownerMatches (effectiveOwner env ownerid) task.ownerid = true)
    (hstate : task.state = .checkpointed ∨ task.state = .running)
    (h : ScanRows env (startupRequest ownerid) startupHooks s s' requeued fenced leases traces) :
    (∃ row ∈ fenced, row.taskoid = task.oid ∧ row.attemptoid = task.lastattemptid) ↔
      (taskSummary s.catalog env (effectiveOwner env ownerid) task).schedulerRecoveryQueued = true ∧
        ((attemptsToFence s.catalog env (startupRequest ownerid) startupHooks).find?
          (·.taskoid == task.oid)).any (·.attemptoid == task.lastattemptid) = true := by
  have hmap : (∃ row ∈ fenced, row.taskoid = task.oid ∧ row.attemptoid = task.lastattemptid) ↔
      task.lastattemptid ∈
        (fenced.filter (·.taskoid == task.oid)).map QueueRow.attemptoid := by
    simp only [List.mem_map, List.mem_filter, beq_iff_eq, and_assoc]
  have hlisted : task.oid ∈ (tasksToRequeue s.catalog env (startupRequest ownerid)
      startupHooks).map TaskSummary.taskoid ↔
        (taskSummary s.catalog env (effectiveOwner env ownerid) task).schedulerRecoveryQueued =
          false := by
    rw [← mem_tasksToRequeue_startup htask howner hstate]
    constructor
    · intro hmem
      obtain ⟨summary, hsummary, hoid⟩ := List.mem_map.mp hmem
      exact taskSummary_of_requeued htask hsummary hoid ▸ hsummary
    · intro hsummary
      exact List.mem_map.mpr ⟨_, hsummary, taskSummary_taskoid _ _ _ _⟩
  rw [hmap, h.first_row]
  simp only [hlisted]
  cases (taskSummary s.catalog env (effectiveOwner env ownerid) task).schedulerRecoveryQueued with
  | false => simp
  | true =>
    cases (attemptsToFence s.catalog env (startupRequest ownerid) startupHooks).find?
      (·.taskoid == task.oid) with
    | none => simp
    | some summary => simp [eq_comm (a := task.lastattemptid)]

lemma startup_row_iff (hcat : s.catalog.Sound) (htask : task ∈ s.catalog.tasks.rows)
    (howner : Catalog.ownerMatches (effectiveOwner env ownerid) task.ownerid = true)
    (hstate : task.state = .checkpointed ∨ task.state = .running)
    (h : ScanRows env (startupRequest ownerid) startupHooks s s' requeued fenced leases traces) :
    (∃ row ∈ requeued ++ fenced, row.taskoid = task.oid ∧ row.attemptoid = task.lastattemptid) ↔
      startupAppends s.catalog env (effectiveOwner env ownerid) task = true := by
  have hsplit : (∃ row ∈ requeued ++ fenced, row.taskoid = task.oid ∧
      row.attemptoid = task.lastattemptid) ↔
      (∃ row ∈ requeued, row.taskoid = task.oid ∧ row.attemptoid = task.lastattemptid) ∨
        ∃ row ∈ fenced, row.taskoid = task.oid ∧ row.attemptoid = task.lastattemptid := by
    simp only [List.mem_append, or_and_right, exists_or]
  have howned : effectiveOwner env (effectiveOwner env ownerid) = effectiveOwner env ownerid :=
    effectiveOwner_effectiveOwner env ownerid
  rw [hsplit, requeued_row_iff htask howner hstate h, fenced_row_iff htask howner hstate h]
  have hfence : attemptsToFence s.catalog env (startupRequest (effectiveOwner env ownerid))
      startupHooks = attemptsToFence s.catalog env (startupRequest ownerid) startupHooks := by
    simp only [attemptsToFence, scannedAttempts, startupRequest, howned]
  unfold startupAppends
  dsimp only
  rw [← taskSummary_lastattemptoid env _ hcat htask, ← taskSummary_recoveryQueued, hfence]
  cases (taskSummary s.catalog env (effectiveOwner env ownerid) task).schedulerRecoveryQueued with
  | false => simp
  | true => simp

lemma repairRowLatest_append (view : TaskView) (attemptoid : Oid) {rows : List QueueRow}
    (hrows : ∀ row ∈ rows, row.repairs = true) :
    TaskView.repairRowLatest { view with queues := view.queues ++ rows } attemptoid = true ↔
      view.repairRowLatest attemptoid = true ∨ ∃ row ∈ rows, row.attemptoid = attemptoid := by
  simp only [TaskView.repairRowLatest, List.filter_append]
  rcases List.eq_nil_or_concat (rows.filter (·.attemptoid == attemptoid)) with
    hnone | ⟨init, row, hsome⟩
  · rw [hnone, List.append_nil]
    have hno : ¬∃ row ∈ rows, row.attemptoid = attemptoid := by
      rintro ⟨row, hrow, hattempt⟩
      exact List.filter_eq_nil_iff.mp hnone row hrow (beq_iff_eq.mpr hattempt)
    simp only [hno, or_false]
  · have hmem : row ∈ rows.filter (·.attemptoid == attemptoid) := by
      rw [hsome, List.concat_eq_append]
      exact List.mem_append_right _ (List.mem_singleton.mpr rfl)
    obtain ⟨hrow, hattempt⟩ := List.mem_filter.mp hmem
    have hyes : ∃ row ∈ rows, row.attemptoid = attemptoid := ⟨row, hrow, beq_iff_eq.mp hattempt⟩
    rw [hsome, List.concat_eq_append, ← List.append_assoc, List.getLast?_concat, Option.any_some,
      hrows row hrow]
    simp only [hyes, or_true]

end scan

/-- Once startup recovery of an owner has returned, the latest queue row of the last attempt of a
checkpointed or running task is a recovery row that recovery or a reclaim appended, exactly when it
was one before or the scan appends a row for that attempt. -/
theorem startup_recovery_row_iff {world : World} {env : Env} {backend : Nat} {journal : List Action}
    {ownerid taskoid : Oid} {task : TaskRow} (h : world.Reachable)
    (hunknown : world.snapshots backend ≠ some (effectiveOwner env ownerid))
    (hscan : (qxRuntimeEnsureStartupRecoveryScan env ownerid).Returns (world.backend backend)
      journal ())
    (htask : world.catalog.lookupTaskByOid taskoid = some task)
    (howner : Catalog.ownerMatches (effectiveOwner env ownerid) task.ownerid = true)
    (hstate : task.state = .checkpointed ∨ task.state = .running) :
    ((replay (world.backend backend) journal).catalog.view taskoid).repairRowLatest
        task.lastattemptid = true ↔
      (world.catalog.view taskoid).repairRowLatest task.lastattemptid = true ∨
        startupAppends world.catalog env (effectiveOwner env ownerid) task = true := by
  obtain ⟨hmem, hoid⟩ := Table.find?_eq_some_iff.mp htask
  obtain rfl : task.oid = taskoid := hoid
  rcases qxRuntimeEnsureStartupRecoveryScan_returns hscan with
    ⟨hknown, -⟩ | ⟨-, scanned, report, hreturns, rfl⟩
  · exact absurd hknown hunknown
  obtain ⟨requeued, fenced, leases, traces, heffect⟩ :=
    qxRecoveryRunStartupScan_returns h.sound hreturns
  have howned := effectiveOwner_effectiveOwner env ownerid
  have hrow := startup_row_iff h.sound hmem (by rw [howned]; exact howner) hstate heffect
  rw [howned] at hrow
  have hview := heffect.appends.view_eq task.oid
  rw [replay_append]
  change ((replay (world.backend backend) scanned).catalog.view task.oid).repairRowLatest
    task.lastattemptid = true ↔ _
  have hrepairs : ∀ row ∈ (requeued ++ fenced).filter (·.taskoid == task.oid),
      row.repairs = true := by
    intro row hrow
    obtain ⟨_, _, origin, -, -, -, horigin, hfor⟩ :=
      heffect.queue_isFor h.sound (List.mem_filter.mp hrow).1
    rw [QueueRow.repairs, hfor.queueKind, hfor.origin]
    rcases horigin with rfl | rfl <;> rfl
  have hrows := repairRowLatest_append (world.catalog.view task.oid) task.lastattemptid hrepairs
  have hfiltered : (∃ row ∈ (requeued ++ fenced).filter (·.taskoid == task.oid),
      row.attemptoid = task.lastattemptid) ↔
        ∃ row ∈ requeued ++ fenced, row.taskoid = task.oid ∧
          row.attemptoid = task.lastattemptid := by
    simp only [List.mem_filter, beq_iff_eq, and_assoc]
  rw [hview]
  exact hrows.trans (or_congr_right (hfiltered.trans hrow))

def demoPriority (priority : String) : Event :=
  ⟨1, demoEnv 1000, .runTask ⟨1, some "extract".toList, "collect".toList, none,
    some priority.toList⟩ demoAuthorization, .commit⟩

def demoCaptured (priority : String) : World :=
  (World.initial demoAgents).run [demoPriority priority]

theorem demoNormal_recovery_row :
    ∃ task, (demoCaptured "normal").catalog.lookupTaskByOid 1 = some task ∧
      task.state = .checkpointed ∧
      startupAppends (demoCaptured "normal").catalog (demoEnv 2000) 10 task = true ∧
      ((replay ((demoCaptured "normal").backend 2)
          ((qxRuntimeEnsureStartupRecoveryScan (demoEnv 2000) 10).run
            ((demoCaptured "normal").backend 2)).1).catalog.view 1).repairRowLatest
        task.lastattemptid = true := by
  have htask : ((demoCaptured "normal").catalog.lookupTaskByOid 1).map (fun task =>
      (task.state, task.ownerid,
        startupAppends (demoCaptured "normal").catalog (demoEnv 2000) 10 task)) =
      some (.checkpointed, 10, true) := by decide +kernel
  obtain ⟨task, htask, hfacts⟩ := Option.map_eq_some_iff.mp htask
  simp only [Prod.mk.injEq] at hfacts
  obtain ⟨hstate, howner, happends⟩ := hfacts
  have hok : ((qxRuntimeEnsureStartupRecoveryScan (demoEnv 2000) 10).run
      ((demoCaptured "normal").backend 2)).2.isOk = true := by decide +kernel
  have hunknown : (demoCaptured "normal").snapshots 2 ≠
      some (effectiveOwner (demoEnv 2000) 10) := by decide +kernel
  have hreachable : (demoCaptured "normal").Reachable := World.reachable_run demoAgents _
  obtain ⟨_, hscan⟩ := returns_of_isOk hok
  have hrow := startup_recovery_row_iff hreachable hunknown hscan htask (by rw [howner]; decide)
    (.inl hstate)
  exact ⟨task, htask, hstate, happends, hrow.mpr (.inr happends)⟩

/-- The admission row of a task with a low priority passes for a recovery row, and startup recovery
appends none. -/
theorem low_priority_task_not_requeued :
    (demoCaptured "low").Reachable ∧
      (demoCaptured "low").Commits ⟨2, demoEnv 2000, .startupRecovery, .commit⟩ ∧
      (((demoCaptured "low").next
        ⟨2, demoEnv 2000, .startupRecovery, .commit⟩).catalog.lookupTaskByOid 1).map
          (fun task => (task.ownerid, task.state, task.lastattemptid)) =
            some (10, .checkpointed, 1) ∧
      ((((demoCaptured "low").next
        ⟨2, demoEnv 2000, .startupRecovery, .commit⟩).catalog.view 1).queues.map
          fun queue => (queue.attemptoid, queue.queueKind, queue.origin)) =
            [(1, .recovery, .dispatch)] ∧
      (((demoCaptured "low").next
        ⟨2, demoEnv 2000, .startupRecovery, .commit⟩).catalog.view 1).repairRowLatest 1 =
          false := by
  refine ⟨World.reachable_run demoAgents _, ?_⟩
  decide +kernel

end QhapaqXian
