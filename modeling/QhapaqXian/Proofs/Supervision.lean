import QhapaqXian.Proofs.Resume
import QhapaqXian.Worker

/-!
# The supervision cycle

One pass of the scheduler worker over the running tasks. Each task is handled by itself: its lease
is left alone, renewed or reclaimed, and a reclaim sends the task back to its checkpoint or makes
it wait for a retry.
-/

namespace QhapaqXian

open Library Script Txn

variable {attempt last : AttemptRow} {attemptState : AttemptState} {stats stats' : CycleStats}
  {lease : LeaseRow} {earlier : List AttemptRow} {attemptoid checkpointoid taskoid : Oid}
  {task : TaskRow} {taskState : TaskState} {view : TaskView} {u : Unit} {slot : WorkerSlot}
variable {env : Env} {inputs : Inputs} {s : Backend} {journal : List Action}

/-- A journal takes one task through steps of its life and leaves the others alone. -/
structure Advances (inputs : Inputs) (s : Backend) (taskoid : Oid) (journal : List Action) :
    Prop where
  run : Relation.ReflTransGen (TaskStep inputs) (s.catalog.view taskoid)
    ((replay s journal).catalog.view taskoid)
  other : ∀ other, other ≠ taskoid →
    (replay s journal).catalog.view other = s.catalog.view other
  snapshot : (replay s journal).recoverySnapshot = s.recoverySnapshot

namespace Advances

variable {taskoid : Oid}

lemma nil (s : Backend) (taskoid : Oid) : Advances inputs s taskoid [] :=
  ⟨.refl, fun _ _ => rfl, rfl⟩

lemma of_moves (hm : Moves s taskoid journal)
    (hstep : TaskStep inputs (s.catalog.view taskoid)
      (journal.foldl (TaskView.apply taskoid) (s.catalog.view taskoid))) :
    Advances inputs s taskoid journal :=
  ⟨hm.self ▸ .single hstep, hm.other, hm.snapshot⟩

lemma evolves (h : Advances inputs s taskoid journal) :
    s.catalog.Evolves inputs (replay s journal).catalog := by
  intro other
  by_cases hother : other = taskoid
  · exact hother ▸ h.run
  · rw [h.other other hother]

lemma report (h : Advances inputs s taskoid journal) {event : SchedulerEvent} :
    Advances inputs s taskoid (journal ++ [.reportSchedulerEvent event]) := by
  constructor <;> rw [replay_append_report]
  · exact h.run
  · exact h.other
  · exact h.snapshot

end Advances

/-- A pass over tasks that were read at its beginning: the tasks still to come are as they were
read. -/
structure PassInvariant (inputs : Inputs) (start : Backend) (rest : List TaskRow) (s : Backend) :
    Prop where
  evolves : start.catalog.Evolves inputs s.catalog
  nodup : (rest.map TaskRow.oid).Nodup
  read : ∀ task ∈ rest, (start.catalog.view task.oid).task = some task
  unread : ∀ task ∈ rest, s.catalog.view task.oid = start.catalog.view task.oid
  snapshot : s.recoverySnapshot = start.recoverySnapshot

lemma PassInvariant.next {start : Backend} {task : TaskRow} {rest : List TaskRow}
    (h : PassInvariant inputs start (task :: rest) s) (hadv : Advances inputs s task.oid journal) :
    PassInvariant inputs start rest (replay s journal) := by
  have hnodup := List.nodup_cons.mp h.nodup
  refine ⟨h.evolves.trans hadv.evolves, hnodup.2,
    fun other hother => h.read other (List.mem_cons_of_mem _ hother), fun other hother => ?_,
    hadv.snapshot.trans h.snapshot⟩
  have hne : other.oid ≠ task.oid := fun heq => hnodup.1 (heq ▸ List.mem_map_of_mem hother)
  rw [hadv.other other.oid hne]
  exact h.unread other (List.mem_cons_of_mem _ hother)

lemma PassInvariant.head_task {start : Backend} {rest : List TaskRow}
    (h : PassInvariant inputs start (task :: rest) s) :
    (s.catalog.view task.oid).task = some task := by
  rw [h.unread task List.mem_cons_self]
  exact h.read task List.mem_cons_self

lemma PassInvariant.initially (s : Backend) (env : Env) (ownerid : Oid) :
    PassInvariant inputs s (s.catalog.buildTaskInfoList env ownerid) s where
  evolves := Catalog.Evolves.refl _
  nodup := nodup_buildTaskInfoList
  read _ htask := view_task_of_mem (mem_buildTaskInfoList.mp htask).1
  unread _ _ := rfl
  snapshot := rfl

/-- A pass over the tasks of an owner that handles each task by itself. -/
theorem pass_evolves {β : Type} {body : β → TaskRow → Txn β} {ownerid : Oid} {b b' : β}
    (hcat : s.catalog.Sound)
    (hbody : ∀ (t : Backend) (task : TaskRow) (b b' : β) (written : List Action),
      t.catalog.Sound → (t.catalog.view task.oid).task = some task →
      (body b task).Returns t written b' → Advances inputs t task.oid written)
    (h : (fold body (s.catalog.buildTaskInfoList env ownerid) b).Returns s journal b') :
    PassInvariant inputs s [] (replay s journal) := by
  refine fold_returns (I := fun rest t _ => PassInvariant inputs s rest t) ?_
    (PassInvariant.initially s env ownerid) h
  intro task rest t b written b' hinv hreturns
  exact hinv.next (hbody t task b b' written (hinv.evolves.sound hcat) hinv.head_task hreturns)

/-- A pass visits each task at most once, so what one visit may do to a task is all that the pass
does to it. -/
theorem pass_visits (inputs : Inputs) {β : Type} {body : β → TaskRow → Txn β}
    {ownerid : Oid} {b b' : β} {R : TaskView → TaskView → Prop} (hcat : s.catalog.Sound) (hrefl : ∀ view, R view view)
    (hbody : ∀ (t : Backend) (task : TaskRow) (b b' : β) (written : List Action),
      t.catalog.Sound → (t.catalog.view task.oid).task = some task →
      (body b task).Returns t written b' → Advances inputs t task.oid written)
    (hvisit : ∀ (t : Backend) (task : TaskRow) (b b' : β) (written : List Action),
      t.catalog.Sound → task.oid = taskoid → (t.catalog.view taskoid).task = some task →
      (body b task).Returns t written b' →
      R (t.catalog.view taskoid) ((replay t written).catalog.view taskoid))
    (h : (fold body (s.catalog.buildTaskInfoList env ownerid) b).Returns s journal b') :
    R (s.catalog.view taskoid) ((replay s journal).catalog.view taskoid) := by
  have hfold := fold_returns (I := fun rest t (_ : β) =>
    PassInvariant inputs s rest t ∧ R (s.catalog.view taskoid) (t.catalog.view taskoid)) ?_
    ⟨PassInvariant.initially s env ownerid, hrefl _⟩ h
  · exact hfold.2
  rintro task rest t b written b' ⟨hpass, hview⟩ hreturns
  have hsound := hpass.evolves.sound hcat
  have hadv := hbody t task b b' written hsound hpass.head_task hreturns
  refine ⟨hpass.next hadv, ?_⟩
  by_cases htask : task.oid = taskoid
  · have hunread := hpass.unread task List.mem_cons_self
    have hhead := hpass.head_task
    rw [htask] at hunread hhead
    rw [← hunread]
    exact hvisit t task b b' written hsound htask hhead hreturns
  · rw [hadv.other taskoid (Ne.symm htask)]
    exact hview

def TaskView.latestLease (view : TaskView) (attemptoid : Oid) : Option LeaseRow :=
  (view.leases.filter (·.attemptoid == attemptoid)).argmax LeaseRow.oid

lemma lookupLatestLease_eq (cat : Catalog) (taskoid attemptoid : Oid) :
    cat.lookupLatestSchedulerLease invalidOid taskoid attemptoid =
      (cat.view taskoid).latestLease attemptoid := by
  rw [TaskView.latestLease, Catalog.view, List.filter_filter, Catalog.lookupLatestSchedulerLease]
  congr 1
  refine List.filter_congr fun row _ => ?_
  simp [Catalog.ownerMatches, oidIsValid, Bool.and_comm]

lemma mem_of_latestLease (h : view.latestLease attemptoid = some lease) :
    lease ∈ view.leases ∧ lease.attemptoid = attemptoid := by
  have hmem := List.mem_filter.mp (List.argmax_mem h)
  exact ⟨hmem.1, beq_iff_eq.mp hmem.2⟩

lemma taskoid_of_mem_leases {cat : Catalog} (h : lease ∈ (cat.view taskoid).leases) :
    lease.taskoid = taskoid :=
  beq_iff_eq.mp (List.mem_filter.mp h).2

lemma renewLease_returns (h : (renewLease env lease).Returns s journal u) :
    ∃ row beat, row = { qxSchedulerRenewLeaseSnapshot env.now lease (qxRuntimeLeaseTtlMs lease) with
        oid := env.oids.next .schedulerLease s.catalog.leases.idents
        queueoid := lease.queueoid } ∧
      journal = [.insertSchedulerLease row, .insertSchedulerHeartbeat beat] ∧
      Moves s lease.taskoid journal := by
  dsimp only [renewLease] at h
  obtain ⟨_, leaseoid, _, rfl, hlease, h⟩ := returns_bind_of id h
  have hoid := insertSchedulerLease_oid hlease
  obtain ⟨row, hrow, rfl, -, hm₁⟩ := insertSchedulerLease_returns hlease
  obtain ⟨beat, -, rfl, hm₂⟩ := insertSchedulerHeartbeat_returns h
  exact ⟨row, beat, by rw [hrow, hoid], rfl, hm₁.append (hm₂ lease.taskoid)⟩

lemma foldl_renew {row : LeaseRow} {beat : HeartbeatRow} (hrow : row.taskoid = taskoid) :
    [Action.insertSchedulerLease row, .insertSchedulerHeartbeat beat].foldl
      (TaskView.apply taskoid) view = { view with leases := view.leases ++ [row] } := by
  simp only [List.foldl_cons, List.foldl_nil, TaskView.apply, hrow, if_true]

lemma renewLease_advances (hlease : lease ∈ (s.catalog.view taskoid).leases)
    (hheld : lease.state = .held) (h : (renewLease env lease).Returns s journal u) :
    Advances inputs s taskoid journal := by
  have htask := taskoid_of_mem_leases hlease
  obtain ⟨row, beat, hrow, hjournal, hmoves⟩ := renewLease_returns h
  have hrowTask : row.taskoid = taskoid := by
    rw [hrow]
    exact htask
  rw [htask] at hmoves
  refine Advances.of_moves hmoves ?_
  rw [hjournal, foldl_renew hrowTask]
  refine .renew hlease hheld ?_
  rw [hrow]
  exact ⟨rfl, rfl, rfl⟩

def settleActions (taskoid : Oid) (queue : QueueRow) (attemptoid : Oid) (attemptState : AttemptState)
    (taskState : TaskState) (checkpointoid : Oid) : List Action :=
  [.insertSchedulerQueue queue, .updateAttemptState attemptoid attemptState,
    .updateTaskRuntime taskoid taskState (some attemptoid) (some checkpointoid)]

lemma foldl_settleActions (attemptState : AttemptState) (taskState : TaskState)
    (checkpointoid : Oid) {queue : QueueRow} (hcurrent : view.Current task earlier last)
    (hnodup : (view.attempts.map AttemptRow.oid).Nodup) (hqueue : queue.taskoid = taskoid) :
    (settleActions taskoid queue last.oid attemptState taskState checkpointoid).foldl
        (TaskView.apply taskoid) view =
      { view with
        task := some (task.updateRuntime taskState (some last.oid) (some checkpointoid))
        attempts := earlier ++ [last.setState attemptState]
        queues := view.queues ++ [queue] } := by
  rw [hcurrent.attempts_eq] at hnodup
  simp only [settleActions, List.foldl_cons, List.foldl_nil, TaskView.apply, hqueue, if_true,
    hcurrent.task_eq, Option.map_some, hcurrent.attempts_eq, map_setState_last hnodup]

lemma settle_bind_returns {α : Type} {row : QueueRow} {rest : Oid → Txn α} {a : α}
    (hrow : row.taskoid = taskoid)
    (hattempt : attemptoid ∈ (s.catalog.view taskoid).attempts.map AttemptRow.oid)
    (h : (insertSchedulerQueue env row >>= fun queueoid =>
      updateAttemptState attemptoid attemptState >>= fun _ =>
      updateTaskRuntime taskoid taskState (some attemptoid) (some checkpointoid) >>= fun _ =>
      rest queueoid).Returns s journal a) :
    ∃ queue settled tail, queue = { row with oid := queue.oid } ∧
      settled = settleActions taskoid queue attemptoid attemptState taskState checkpointoid ∧
      Moves s taskoid settled ∧ (rest queue.oid).Returns (replay s settled) tail a ∧
      journal = settled ++ tail := by
  subst hrow
  obtain ⟨_, queueoid, _, rfl, ⟨queue, rfl, rfl, -, hm₁⟩, h⟩ :=
    returns_bind_of insertSchedulerQueue_returns h
  obtain ⟨_, _, _, rfl, ⟨rfl, hm₂⟩, h⟩ :=
    returns_bind_of (updateAttemptState_returns (hm₁.mem_attempts rfl hattempt)) h
  obtain ⟨_, _, _, rfl, ⟨rfl, hm₃⟩, h⟩ := returns_bind_of updateTaskRuntime_returns h
  exact ⟨_, _, _, rfl, rfl, hm₁.append (hm₂.append hm₃), h, rfl⟩

lemma settle_returns {α : Type} {row : QueueRow} {value : Oid → α} {a : α}
    (hrow : row.taskoid = taskoid)
    (hattempt : attemptoid ∈ (s.catalog.view taskoid).attempts.map AttemptRow.oid)
    (h : (insertSchedulerQueue env row >>= fun queueoid =>
      updateAttemptState attemptoid attemptState >>= fun _ =>
      updateTaskRuntime taskoid taskState (some attemptoid) (some checkpointoid) >>= fun _ =>
      pure (value queueoid)).Returns s journal a) :
    ∃ queue, queue = { row with oid := queue.oid } ∧ a = value queue.oid ∧
      journal = settleActions taskoid queue attemptoid attemptState taskState checkpointoid ∧
      Moves s taskoid journal := by
  obtain ⟨queue, settled, tail, hqueue, hsettled, hmoves, htail, rfl⟩ :=
    settle_bind_returns hrow hattempt h
  obtain ⟨rfl, ha⟩ := returns_pure_iff.mp htail
  rw [List.append_nil]
  exact ⟨queue, hqueue, ha, hsettled, hmoves⟩

lemma foldl_settle_lease {queue : QueueRow} {beat : HeartbeatRow}
    (hcurrent : view.Current task earlier last) (hnodup : (view.attempts.map AttemptRow.oid).Nodup)
    (hqueue : queue.taskoid = taskoid) (hlease : lease.taskoid = taskoid) :
    (settleActions taskoid queue last.oid attemptState taskState checkpointoid ++
        ([Action.insertSchedulerLease lease] ++ ([Action.insertSchedulerHeartbeat beat] ++
          [Action.reportSchedulerEvent .reclaim]))).foldl (TaskView.apply taskoid) view =
      { view with
        task := some (task.updateRuntime taskState (some last.oid) (some checkpointoid))
        attempts := earlier ++ [last.setState attemptState]
        queues := view.queues ++ [queue]
        leases := view.leases ++ [lease] } := by
  rw [List.foldl_append, foldl_settleActions _ _ _ hcurrent hnodup hqueue]
  simp only [List.cons_append, List.nil_append, List.foldl_cons, List.foldl_nil, TaskView.apply,
    hlease, if_true]

lemma taskoid_repairRow (env : Env) (cat : Catalog) (task : TaskRow) (attempt : AttemptRow) :
    (repairRow env cat task attempt).taskoid = task.oid :=
  rfl

lemma taskoid_retryRow (env : Env) (cat : Catalog) (task : TaskRow) (attempt : AttemptRow)
    (lease : LeaseRow) : (retryRow env cat task attempt lease).taskoid = task.oid :=
  rfl

/-- The queue row of a reclaim and the states it leaves: back to the checkpoint of the task, or
waiting for a retry if it has none. -/
inductive ReclaimOutcome (env : Env) (cat : Catalog) (task : TaskRow) (attempt : AttemptRow)
    (lease : LeaseRow) : QueueRow → AttemptState → TaskState → Oid → Prop
  | repair (oid : Oid) (valid : oidIsValid task.lastcheckpointid = true) :
      ReclaimOutcome env cat task attempt lease { repairRow env cat task attempt with oid := oid }
        .checkpointed .checkpointed task.lastcheckpointid
  | retry (oid : Oid) (invalid : oidIsValid task.lastcheckpointid = false) :
      ReclaimOutcome env cat task attempt lease
        { retryRow env cat task attempt lease with oid := oid } .failed .queued invalidOid

lemma reclaimTask_returns {queueoid : Oid}
    (hattempt : attempt.oid ∈ (s.catalog.view task.oid).attempts.map AttemptRow.oid)
    (h : (reclaimTask env task attempt lease).Returns s journal queueoid) :
    ∃ queue attemptState taskState checkpointoid,
      ReclaimOutcome env s.catalog task attempt lease queue attemptState taskState
        checkpointoid ∧ queue.taskoid = task.oid ∧ queueoid = queue.oid ∧
      journal = settleActions task.oid queue attempt.oid attemptState taskState checkpointoid ∧
      Moves s task.oid journal := by
  unfold reclaimTask at h
  replace h := returns_catalog_bind_iff.mp h
  by_cases hvalid : oidIsValid task.lastcheckpointid = true
  · rw [if_pos hvalid] at h
    obtain ⟨queue, hqueue, hoid, hjournal, hmoves⟩ :=
      settle_returns (taskoid_repairRow env s.catalog task attempt) hattempt h
    refine ⟨queue, _, _, _, ?_, ?_, hoid, hjournal, hmoves⟩
    · rw [hqueue]
      exact .repair _ hvalid
    · rw [hqueue]
      rfl
  · rw [if_neg hvalid] at h
    obtain ⟨queue, hqueue, hoid, hjournal, hmoves⟩ :=
      settle_returns (taskoid_retryRow env s.catalog task attempt lease) hattempt h
    refine ⟨queue, _, _, _, ?_, ?_, hoid, hjournal, hmoves⟩
    · rw [hqueue]
      exact .retry _ (Bool.not_eq_true _ ▸ hvalid)
    · rw [hqueue]
      rfl

lemma qxRuntimeReclaimRunningAttempt_returns
    {workerName : CString}
    (hattempt : attempt.oid ∈ (s.catalog.view task.oid).attempts.map AttemptRow.oid)
    (htask : lease.taskoid = task.oid)
    (h : (qxRuntimeReclaimRunningAttempt env task attempt lease workerName stats).Returns s
      journal stats') :
    ∃ queue attemptState taskState checkpointoid row beat,
      ReclaimOutcome env s.catalog task attempt lease queue attemptState taskState
        checkpointoid ∧ queue.taskoid = task.oid ∧
      row = { reclaimedLease env lease workerName with
        oid := env.oids.next .schedulerLease s.catalog.leases.idents, queueoid := queue.oid } ∧
      journal = settleActions task.oid queue attempt.oid attemptState taskState checkpointoid ++
        ([.insertSchedulerLease row] ++ ([.insertSchedulerHeartbeat beat] ++
          [.reportSchedulerEvent .reclaim])) ∧
      Moves s task.oid journal := by
  unfold qxRuntimeReclaimRunningAttempt at h
  obtain ⟨_, queueoid, _, rfl, ⟨queue, attemptState, taskState, checkpointoid, houtcome, hqueue, rfl,
    rfl, hm₁⟩, h⟩ := returns_bind_of (reclaimTask_returns hattempt) h
  obtain ⟨_, leaseoid, _, rfl, hlease, h⟩ := returns_bind_of id h
  have hoid : leaseoid = env.oids.next .schedulerLease s.catalog.leases.idents :=
    insertSchedulerLease_oid hlease
  obtain ⟨row, hrow, rfl, -, hm₂⟩ := insertSchedulerLease_returns hlease
  obtain ⟨_, _, _, rfl, ⟨beat, -, rfl, hm₃⟩, h⟩ := returns_bind_of insertSchedulerHeartbeat_returns h
  obtain ⟨_, _, _, rfl, ⟨rfl, hm₄⟩, h⟩ := returns_bind_of reportSchedulerEvent_returns h
  obtain ⟨rfl, -⟩ := returns_pure_iff.mp h
  refine ⟨queue, attemptState, taskState, checkpointoid, row, beat, houtcome, hqueue, ?_, rfl, ?_⟩
  · rw [hrow, hoid]
  · exact hm₁.append ((htask ▸ hm₂ : Moves _ task.oid _).append ((hm₃ _).append (hm₄ _)))

/-- A reclaim of the last attempt of a running task. -/
theorem qxRuntimeReclaimRunningAttempt_advances
    {workerName : CString}
    (hsound : (s.catalog.view task.oid).Sound)
    (hcurrent : (s.catalog.view task.oid).Current task earlier last)
    (hstate : task.state = .running) (hrunning : last.state = .running)
    (hlease : lease ∈ (s.catalog.view task.oid).leases) (hattempt : lease.attemptoid = last.oid)
    (h : (qxRuntimeReclaimRunningAttempt env task last lease workerName stats).Returns s journal
      stats') :
    Advances inputs s task.oid journal := by
  have htask := taskoid_of_mem_leases hlease
  obtain ⟨queue, attemptState, taskState, checkpointoid, row, beat, houtcome, hqueue, hrow,
    hjournal, hmoves⟩ := qxRuntimeReclaimRunningAttempt_returns
      (List.mem_map_of_mem hcurrent.last_mem) htask h
  have hrowTask : row.taskoid = task.oid := by
    rw [hrow]
    exact htask
  have hrowAttempt : row.attemptoid = last.oid := by
    rw [hrow]
    exact hattempt
  refine Advances.of_moves hmoves ?_
  rw [hjournal, foldl_settle_lease hcurrent hsound.attempts_nodup hqueue hrowTask]
  cases houtcome with
  | repair oid hvalid =>
    exact .repair hcurrent hstate hrunning (by simpa [oidIsValid] using hvalid)
      ⟨rfl, rfl, rfl, rfl⟩ hrowAttempt
  | retry oid hinvalid =>
    refine .failClosed hcurrent hstate hrunning (by simpa [oidIsValid] using hinvalid) rfl ?_
    simpa using hrowAttempt

lemma current_of_lookup (hsound : (s.catalog.view taskoid).Sound)
    (htask : (s.catalog.view taskoid).task = some task)
    (hattempt : s.catalog.lookupAttemptByOid task.lastattemptid = some attempt) :
    ∃ earlier, (s.catalog.view taskoid).Current task earlier attempt := by
  obtain ⟨earlier, last, hcurrent⟩ := hsound.current task htask
  have hlookup := lookupAttempt_of_mem hcurrent.last_mem
  rw [← hcurrent.last_eq] at hlookup
  obtain rfl := Option.some.inj (hlookup.symm.trans hattempt)
  exact ⟨earlier, hcurrent⟩

/-- The latest lease of the running last attempt of a running task, held and up for a reclaim. -/
structure TaskView.LeaseDue (view : TaskView) (now : TimestampTz) (task : TaskRow)
    (earlier : List AttemptRow) (last : AttemptRow) (lease : LeaseRow) : Prop where
  current : view.Current task earlier last
  state : task.state = .running
  running : last.state = .running
  latest : view.latestLease last.oid = some lease
  held : lease.state = .held
  due : qxSchedulerLeaseNeedsReclaim lease now = true

/-- What supervision does with one task. -/
inductive Supervises (env : Env) (slot : WorkerSlot) (s : Backend) (task : TaskRow) :
    List Action → Prop
  | idle : Supervises env slot s task []
  | renew {earlier : List AttemptRow} {last : AttemptRow} {lease : LeaseRow}
      {journal : List Action}
      (due : (s.catalog.view task.oid).LeaseDue env.now task earlier last lease)
      (first : lease.renewalCount ≤ 0) (returns : (renewLease env lease).Returns s journal ()) :
      Supervises env slot s task (journal ++ [.reportSchedulerEvent .renew])
  | reclaim {earlier : List AttemptRow} {last : AttemptRow} {lease : LeaseRow}
      {journal : List Action} {stats stats' : CycleStats}
      (due : (s.catalog.view task.oid).LeaseDue env.now task earlier last lease)
      (again : 0 < lease.renewalCount)
      (returns : (qxRuntimeReclaimRunningAttempt env task last lease slot.name stats).Returns s
        journal stats') : Supervises env slot s task journal

lemma supervises_of_pure (h : (pure stats : Txn CycleStats).Returns s journal stats') :
    Supervises env slot s task journal := by
  rw [(returns_pure_iff.mp h).1]
  exact .idle

lemma superviseLease_supervises (hcurrent : (s.catalog.view task.oid).Current task earlier last)
    (hstate : task.state = .running) (hrunning : last.state = .running)
    (hlatest : s.catalog.lookupLatestSchedulerLease invalidOid task.oid last.oid = some lease)
    (h : (superviseLease env slot stats task last lease).Returns s journal stats') :
    Supervises env slot s task journal := by
  unfold superviseLease at h
  split at h
  · exact supervises_of_pure h
  rename_i hexpired
  rw [Bool.not_eq_true, Bool.or_eq_false_iff, bne_eq_false_iff_eq, Bool.not_eq_false'] at hexpired
  have hdue : (s.catalog.view task.oid).LeaseDue env.now task earlier last lease :=
    ⟨hcurrent, hstate, hrunning, (lookupLatestLease_eq ..).symm.trans hlatest, hexpired.1,
      hexpired.2⟩
  split at h
  · rename_i hfirst
    obtain ⟨_, _, _, rfl, hrenew, h⟩ := returns_bind_of id h
    obtain ⟨_, _, _, rfl, ⟨rfl, -⟩, h⟩ := returns_bind_of reportSchedulerEvent_returns h
    rw [(returns_pure_iff.mp h).1, List.append_nil]
    exact .renew hdue hfirst hrenew
  · rename_i hagain
    exact .reclaim hdue (by omega) h

lemma superviseTask_supervises (hsound : (s.catalog.view task.oid).Sound)
    (htask : (s.catalog.view task.oid).task = some task)
    (h : (superviseTask env slot stats task).Returns s journal stats') :
    Supervises env slot s task journal := by
  dsimp only [superviseTask] at h
  split at h
  · exact supervises_of_pure h
  rename_i hskip
  rw [Bool.not_eq_true, Bool.or_eq_false_iff, bne_eq_false_iff_eq] at hskip
  split at h
  · exact supervises_of_pure h
  unfold superviseAttempt at h
  obtain ⟨_, last, _, rfl, ⟨rfl, hlast⟩, h⟩ := returns_bind_of lookupAttempt_returns h
  obtain ⟨earlier, hcurrent⟩ := current_of_lookup hsound htask hlast
  replace h := returns_catalog_bind_iff.mp h
  split at h
  · exact supervises_of_pure h
  rename_i hrunning
  rw [Bool.not_eq_true, bne_eq_false_iff_eq] at hrunning
  split at h
  · exact supervises_of_pure h
  · rename_i lease hlookup
    exact superviseLease_supervises hcurrent hskip.1 hrunning hlookup h

lemma superviseTask_advances (hsound : (s.catalog.view task.oid).Sound)
    (htask : (s.catalog.view task.oid).task = some task)
    (h : (superviseTask env slot stats task).Returns s journal stats') :
    Advances inputs s task.oid journal := by
  cases superviseTask_supervises hsound htask h with
  | idle => exact Advances.nil s task.oid
  | renew hdue _ hrenew =>
    exact (renewLease_advances (mem_of_latestLease hdue.latest).1 hdue.held hrenew).report
  | reclaim hdue _ hreclaim =>
    obtain ⟨hlease, hattempt⟩ := mem_of_latestLease hdue.latest
    exact qxRuntimeReclaimRunningAttempt_advances hsound hdue.current hdue.state hdue.running
      hlease hattempt hreclaim

theorem qxRuntimeRunSchedulerCycle_evolves (hcat : s.catalog.Sound)
    (h : (qxRuntimeRunSchedulerCycle env slot).Returns s journal stats) :
    s.catalog.Evolves inputs (replay s journal).catalog ∧
      (replay s journal).recoverySnapshot = s.recoverySnapshot := by
  unfold qxRuntimeRunSchedulerCycle at h
  have hpass : PassInvariant inputs s [] (replay s journal) := pass_evolves hcat
    (fun t task _ _ _ hsound htask => superviseTask_advances (hsound task.oid) htask)
    (returns_catalog_bind_iff.mp h)
  exact ⟨hpass.evolves, hpass.snapshot⟩

lemma tickTask_advances (h : (tickTask env task).Returns s journal u) :
    Advances inputs s task.oid journal := by
  have hpure : (pure () : Txn Unit).Returns s journal u → Advances inputs s task.oid journal := by
    intro h
    rw [(returns_pure_iff.mp h).1]
    exact Advances.nil s task.oid
  unfold tickTask at h
  split at h
  · exact hpure h
  obtain ⟨_, last, _, rfl, ⟨rfl, hlast⟩, h⟩ := returns_bind_of lookupAttempt_returns h
  replace h := returns_catalog_bind_iff.mp h
  split at h
  · exact hpure h
  split at h
  · exact hpure h
  rename_i lease hlookup
  split at h
  · exact hpure h
  rename_i hheld
  rw [Bool.not_eq_true, bne_eq_false_iff_eq] at hheld
  rw [lookupLatestLease_eq] at hlookup
  exact renewLease_advances (mem_of_latestLease hlookup).1 hheld h

theorem testRunSchedulerWorkerTick_evolves (hcat : s.catalog.Sound)
    (h : (testRunSchedulerWorkerTick env).Returns s journal u) :
    s.catalog.Evolves inputs (replay s journal).catalog ∧
      (replay s journal).recoverySnapshot = s.recoverySnapshot := by
  unfold testRunSchedulerWorkerTick forEach at h
  have hpass : PassInvariant inputs s [] (replay s journal) := pass_evolves hcat
    (fun _ _ _ _ _ _ _ => tickTask_advances)
    (returns_catalog_bind_iff.mp h)
  exact ⟨hpass.evolves, hpass.snapshot⟩

end QhapaqXian
