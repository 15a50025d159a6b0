import QhapaqXian.Proofs.RetryOrder

/-!
# The statistics of a retry cycle

Each task that asks for a retry waits, is exhausted or is ready.
-/

namespace QhapaqXian

open Library Script Txn

variable {candidate : RetryCandidate}
variable {env : Env} {slot : WorkerSlot} {s : Backend} {journal : List Action}

/-- How a task stands to the retry cycle of a worker. -/
inductive RetryStanding
  | absent
  | waiting
  | exhausted
  | ready
  deriving Repr, DecidableEq

/-- The standing of a failed task by the latest row of its queue. -/
def QueueRow.retryStanding (queue : QueueRow) (now : TimestampTz) : RetryStanding :=
  if !queue.asksForRetry then .absent
  else if now < queue.eligibleAt then .waiting
  else if queue.retryCount ≥ qxSchedulerMaxRetries then .exhausted
  else .ready

def Catalog.retryStanding (cat : Catalog) (env : Env) (slot : WorkerSlot) (task : TaskRow) :
    RetryStanding :=
  if task.state != .queued || !oidIsValid task.lastattemptid || oidIsValid task.lastcheckpointid
  then .absent
  else if !slot.owns task.oid then .absent
  else
    match cat.lookupAttemptByOid task.lastattemptid with
    | none => .absent
    | some failed =>
      if failed.state != .failed then .absent
      else
        match cat.lookupLatestSchedulerQueue invalidOid task.oid failed.oid with
        | none => .absent
        | some queue => queue.retryStanding env.now

/-- What one task adds to the statistics and to the choice of a candidate. -/
structure RetryStanding.Counted (standing : RetryStanding) (intake intake' : RetryIntake) :
    Prop where
  waiting : intake'.stats.retryWaitingTasks =
    intake.stats.retryWaitingTasks + if standing = .waiting then 1 else 0
  dead : intake'.stats.deadLetteredTasks =
    intake.stats.deadLetteredTasks + if standing = .exhausted then 1 else 0
  ready : intake'.stats.retryReadyTasks = intake.stats.retryReadyTasks +
    ((if standing = .exhausted then 1 else 0) + if standing = .ready then 1 else 0)
  queued : intake'.stats.queuedRetryTasks =
    intake.stats.queuedRetryTasks + if standing = .absent then 0 else 1
  dispatches : intake'.stats.retryDispatches = intake.stats.retryDispatches
  selected : intake'.selected.isSome = (intake.selected.isSome || decide (standing = .ready))

lemma RetryStanding.counted_absent (intake : RetryIntake) :
    RetryStanding.Counted .absent intake intake := by
  constructor <;> simp

/-! ## One task -/

section OneTask

variable {intake intake' : RetryIntake} {task : TaskRow}

lemma deadLetter_frame {dead : Bool} (hstate : candidate.task.state = .queued)
    (hfailed : candidate.failed.state = .failed)
    (hlookup : s.catalog.lookupAttemptByOid candidate.failed.oid = some candidate.failed)
    (h : (qxRuntimeDeadLetterRetryTask env candidate).Returns s journal dead) :
    dead = true ∧
      (∀ attemptoid, (replay s journal).catalog.lookupAttemptByOid attemptoid =
        s.catalog.lookupAttemptByOid attemptoid) ∧
      ∀ taskoid ≠ candidate.queue.taskoid, ∀ attemptoid,
        (replay s journal).catalog.lookupLatestSchedulerQueue invalidOid taskoid attemptoid =
          s.catalog.lookupLatestSchedulerQueue invalidOid taskoid attemptoid := by
  have hcond : ¬(candidate.task.state != .queued || candidate.failed.state != .failed) = true := by
    rw [hstate, hfailed]
    decide
  rw [qxRuntimeDeadLetterRetryTask, if_neg hcond] at h
  obtain ⟨_, _, _, rfl, ⟨queue, hqueue, rfl, hadmits, -⟩, h⟩ :=
    returns_bind_of insertSchedulerQueue_returns h
  obtain ⟨_, _, _, rfl, hupdate, h⟩ := returns_bind_of id h
  obtain ⟨_, attempt, _, rfl, ⟨rfl, -⟩, hrecord⟩ := returns_bind_of lookupAttempt_returns hupdate
  rw [returns_record_iff] at hrecord
  obtain ⟨_, _, _, rfl, ⟨rfl, -⟩, h⟩ := returns_bind_of updateTaskRuntime_returns h
  obtain ⟨_, _, _, rfl, ⟨trace, rfl, -⟩, h⟩ := returns_bind_of insertTrace_moves h
  obtain ⟨rfl, hdead⟩ := returns_pure_iff.mp h
  subst hrecord
  refine ⟨hdead, ?_, ?_⟩
  · intro attemptoid
    -- the attempt has failed before
    have hsame : candidate.failed.setState .failed = candidate.failed := by
      rw [AttemptRow.setState, ← hfailed]
    refine (Table.find?_modify (AttemptRow.ident_setState .failed) attemptoid).trans ?_
    by_cases hoid : candidate.failed.oid = attemptoid
    · rw [if_pos hoid, ← hoid]
      refine (congrArg (Option.map _) hlookup).trans ?_
      rw [Option.map_some, hsame]
      exact hlookup.symm
    · rw [if_neg hoid]
      rfl
  · intro taskoid hother attemptoid
    have hrows : (s.catalog.queues.insert queue).rows = s.catalog.queues.rows ++ [queue] :=
      Table.rows_insert hadmits
    have hforeign : (queue.taskoid == taskoid) = false := by
      rw [hqueue]
      exact beq_false_of_ne (Ne.symm hother)
    change (List.argmax QueueRow.oid (List.filter _ (s.catalog.queues.insert queue).rows)) = _
    rw [hrows, List.filter_append, List.filter_cons_of_neg (by simp [hforeign]), List.filter_nil,
      List.append_nil]
    rfl

/-- The standings of the other tasks do not depend on the task that is handled. -/
def KeepsStandings (env : Env) (slot : WorkerSlot) (s s' : Backend) (taskoid : Oid) : Prop :=
  ∀ other : TaskRow, other.oid ≠ taskoid →
    s'.catalog.retryStanding env slot other = s.catalog.retryStanding env slot other

/-- The candidate that is selected is a failed attempt of a queued task. -/
def RetryIntake.SelectsFailed (intake : RetryIntake) : Prop :=
  ∀ candidate, intake.selected = some candidate →
    candidate.task.state = .queued ∧ candidate.failed.state = .failed

lemma selectsFailed_select (h : intake.SelectsFailed) (hstate : candidate.task.state = .queued)
    (hfailed : candidate.failed.state = .failed) :
    (intake.select candidate).SelectsFailed := by
  intro chosen hchosen
  rw [RetryIntake.select] at hchosen
  split at hchosen
  · obtain rfl := Option.some.inj hchosen
    exact ⟨hstate, hfailed⟩
  · exact h chosen hchosen

lemma isSome_select (intake : RetryIntake) (candidate : RetryCandidate) :
    (intake.select candidate).selected.isSome = true := by
  rw [RetryIntake.select]
  split
  · rfl
  · rename_i hbetter
    cases hselected : intake.selected with
    | none => simp [hselected] at hbetter
    | some chosen => rfl

lemma considerRetry_counted (hintake : intake.SelectsFailed)
    (hstate : candidate.task.state = .queued) (hfailed : candidate.failed.state = .failed)
    (hlookup : s.catalog.lookupAttemptByOid candidate.failed.oid = some candidate.failed)
    (hqueue : candidate.queue.taskoid = candidate.task.oid)
    (h : (considerRetry env intake candidate).Returns s journal intake') :
    (candidate.queue.retryStanding env.now).Counted intake intake' ∧ intake'.SelectsFailed ∧
      KeepsStandings env slot s (replay s journal) candidate.task.oid := by
  unfold considerRetry at h
  unfold QueueRow.retryStanding
  split at h
  · rename_i hasks
    obtain ⟨rfl, rfl⟩ := returns_pure_iff.mp h
    rw [if_pos hasks]
    exact ⟨RetryStanding.counted_absent _, hintake, fun _ _ => rfl⟩
  rename_i hasks
  rw [if_neg hasks]
  split at h
  · rename_i hwait
    obtain ⟨rfl, rfl⟩ := returns_pure_iff.mp h
    rw [if_pos hwait]
    exact ⟨by constructor <;> simp [CycleStats.observeRetry], hintake, fun _ _ => rfl⟩
  rename_i hdue
  rw [if_neg hdue]
  dsimp only at h
  split at h
  · rename_i hexhausted
    rw [if_pos hexhausted]
    obtain ⟨_, dead, _, rfl, ⟨hdead, hattempts, hqueues⟩, h⟩ :=
      returns_bind_of (deadLetter_frame hstate hfailed hlookup) h
    obtain ⟨rfl, rfl⟩ := returns_pure_iff.mp h
    rw [List.append_nil]
    refine ⟨by constructor <;> simp [CycleStats.observeRetry, hdead], hintake, ?_⟩
    intro other hother
    unfold Catalog.retryStanding
    simp only [hattempts, hqueues other.oid (by rw [hqueue]; exact hother)]
  · rename_i hleft
    obtain ⟨rfl, rfl⟩ := returns_pure_iff.mp h
    rw [if_neg hleft]
    have hstats : ∀ observed : RetryIntake, (observed.select candidate).stats = observed.stats := by
      intro observed
      rw [RetryIntake.select]
      split <;> rfl
    refine ⟨?_, selectsFailed_select hintake hstate hfailed, fun _ _ => rfl⟩
    constructor <;> simp [hstats, isSome_select, CycleStats.observeRetry]

lemma retryTask_counted (hintake : intake.SelectsFailed)
    (h : (retryTask env slot intake task).Returns s journal intake') :
    (s.catalog.retryStanding env slot task).Counted intake intake' ∧ intake'.SelectsFailed ∧
      KeepsStandings env slot s (replay s journal) task.oid := by
  unfold retryTask at h
  unfold Catalog.retryStanding
  split at h
  · rename_i hskip
    obtain ⟨rfl, rfl⟩ := returns_pure_iff.mp h
    rw [if_pos hskip]
    exact ⟨RetryStanding.counted_absent _, hintake, fun _ _ => rfl⟩
  rename_i hskip
  rw [if_neg hskip]
  rw [Bool.not_eq_true, Bool.or_eq_false_iff, Bool.or_eq_false_iff, bne_eq_false_iff_eq] at hskip
  split at h
  · rename_i hother
    obtain ⟨rfl, rfl⟩ := returns_pure_iff.mp h
    rw [if_pos hother]
    exact ⟨by constructor <;> simp, hintake, fun _ _ => rfl⟩
  rename_i howns
  rw [if_neg howns]
  unfold retryAttempt at h
  obtain ⟨_, failed, _, rfl, ⟨rfl, hlookup⟩, h⟩ := returns_bind_of lookupAttempt_returns h
  replace h := returns_catalog_bind_iff.mp h
  rw [replay_nil] at h
  rw [hlookup]
  dsimp only
  split at h
  · rename_i hstate
    obtain ⟨rfl, rfl⟩ := returns_pure_iff.mp h
    rw [if_pos hstate]
    exact ⟨RetryStanding.counted_absent _, hintake, fun _ _ => rfl⟩
  rename_i hstate
  rw [if_neg hstate]
  rw [Bool.not_eq_true, bne_eq_false_iff_eq] at hstate
  have hoid : failed.oid = task.lastattemptid := (Table.find?_eq_some_iff.mp hlookup).2
  cases hqueue : s.catalog.lookupLatestSchedulerQueue invalidOid task.oid failed.oid with
  | none =>
    rw [hqueue] at h
    obtain ⟨rfl, rfl⟩ := returns_pure_iff.mp h
    exact ⟨RetryStanding.counted_absent _, hintake, fun _ _ => rfl⟩
  | some queue =>
    rw [hqueue] at h
    have hmem := List.mem_filter.mp (List.argmax_mem hqueue)
    simp only [Bool.and_eq_true, beq_iff_eq] at hmem
    exact considerRetry_counted hintake hskip.1.1 hstate (by rw [hoid]; exact hlookup) hmem.2.1.1 h

end OneTask

/-! ## The pass over the tasks -/

/-- How many of the tasks have a standing. -/
def Catalog.countStanding (cat : Catalog) (env : Env) (slot : WorkerSlot)
    (standing : RetryStanding) (tasks : List TaskRow) : Nat :=
  tasks.countP fun task => cat.retryStanding env slot task = standing

/-- The statistics of a pass that has handled some of the tasks. -/
structure RetryTally (cat : Catalog) (env : Env) (slot : WorkerSlot) (handled : List TaskRow)
    (intake : RetryIntake) : Prop where
  waiting : intake.stats.retryWaitingTasks = cat.countStanding env slot .waiting handled
  dead : intake.stats.deadLetteredTasks = cat.countStanding env slot .exhausted handled
  ready : intake.stats.retryReadyTasks =
    cat.countStanding env slot .exhausted handled + cat.countStanding env slot .ready handled
  queued : intake.stats.queuedRetryTasks = cat.countStanding env slot .waiting handled +
    (cat.countStanding env slot .exhausted handled + cat.countStanding env slot .ready handled)
  dispatches : intake.stats.retryDispatches = 0
  selected : intake.selected.isSome = decide (0 < cat.countStanding env slot .ready handled)
  failed : intake.SelectsFailed

lemma countStanding_concat (cat : Catalog) (standing : RetryStanding) (handled : List TaskRow)
    (task : TaskRow) : cat.countStanding env slot standing (handled ++ [task]) =
      cat.countStanding env slot standing handled +
        if cat.retryStanding env slot task = standing then 1 else 0 := by
  simp [Catalog.countStanding, List.countP_append, List.countP_cons]

lemma RetryTally.step {cat : Catalog} {handled : List TaskRow} {intake intake' : RetryIntake}
    {task : TaskRow} (h : RetryTally cat env slot handled intake)
    (hcounted : (cat.retryStanding env slot task).Counted intake intake')
    (hfailed : intake'.SelectsFailed) :
    RetryTally cat env slot (handled ++ [task]) intake' where
  waiting := by
    rw [hcounted.waiting, h.waiting, countStanding_concat]
    split <;> simp
  dead := by
    rw [hcounted.dead, h.dead, countStanding_concat]
    split <;> simp
  ready := by
    rw [hcounted.ready, h.ready, countStanding_concat, countStanding_concat]
    cases cat.retryStanding env slot task <;> simp <;> omega
  queued := by
    rw [hcounted.queued, h.queued, countStanding_concat, countStanding_concat,
      countStanding_concat]
    cases cat.retryStanding env slot task <;> simp <;> omega
  dispatches := hcounted.dispatches.trans h.dispatches
  selected := by
    rw [hcounted.selected, h.selected, countStanding_concat]
    cases cat.retryStanding env slot task <;> simp
  failed := hfailed

lemma retryPass_tally {tasks : List TaskRow} {intake : RetryIntake}
    (hnodup : (tasks.map TaskRow.oid).Nodup)
    (h : (fold (retryTask env slot) tasks ⟨.zero, none⟩).Returns s journal intake) :
    RetryTally s.catalog env slot tasks intake := by
  have hstart : RetryTally s.catalog env slot [] ⟨.zero, none⟩ := by
    constructor <;> simp [Catalog.countStanding, CycleStats.zero, RetryIntake.SelectsFailed]
  have hpass := fold_returns (I := fun rest t b => (rest.map TaskRow.oid).Nodup ∧
      (∀ task ∈ rest, t.catalog.retryStanding env slot task =
        s.catalog.retryStanding env slot task) ∧
      ∃ handled, tasks = handled ++ rest ∧ RetryTally s.catalog env slot handled b) ?_
    ⟨hnodup, fun _ _ => rfl, [], rfl, hstart⟩ h
  · obtain ⟨-, -, handled, hall, htally⟩ := hpass
    rw [hall, List.append_nil]
    exact htally
  rintro task rest t b written b' ⟨hdistinct, hsame, handled, hall, htally⟩ hreturns
  obtain ⟨hcounted, hfailed, hkeeps⟩ := retryTask_counted htally.failed hreturns
  rw [hsame task List.mem_cons_self] at hcounted
  rw [List.map_cons, List.nodup_cons] at hdistinct
  refine ⟨hdistinct.2, ?_, handled ++ [task], ?_, htally.step hcounted hfailed⟩
  · intro other hother
    have hne : other.oid ≠ task.oid := by
      intro heq
      exact hdistinct.1 (heq ▸ List.mem_map_of_mem hother)
    rw [hkeeps other hne, hsame other (List.mem_cons_of_mem _ hother)]
  · rw [hall, List.append_assoc, List.singleton_append]

/-! ## The cycle -/

lemma countStanding_pos_iff {cat : Catalog} {standing : RetryStanding} {tasks : List TaskRow} :
    0 < cat.countStanding env slot standing tasks ↔
      ∃ task ∈ tasks, cat.retryStanding env slot task = standing := by
  simp [Catalog.countStanding, List.countP_pos_iff]

/-- Every queued retry of a cycle is counted once among those that wait, are dispatched or are
dead-lettered, unless the cycle meets a ready task and an exhausted one. -/
theorem retryCycle_balanced_iff {stats : CycleStats}
    (h : (qxRuntimeRunSchedulerRetryCycle env slot).Returns s journal stats) :
    stats.queuedRetryTasks =
        stats.retryWaitingTasks + stats.retryDispatches + stats.deadLetteredTasks ↔
      ¬((∃ task ∈ s.catalog.tasks.rows, s.catalog.retryStanding env slot task = .exhausted) ∧
        ∃ task ∈ s.catalog.tasks.rows, s.catalog.retryStanding env slot task = .ready) := by
  have hlisted : ∀ task, task ∈ s.catalog.tasks.rows ↔
      task ∈ s.catalog.buildTaskInfoList env invalidOid := by
    intro task
    simp [mem_buildTaskInfoList, Catalog.ownerMatches, oidIsValid]
  simp only [hlisted]
  rw [← countStanding_pos_iff, ← countStanding_pos_iff]
  have hnodup : ((s.catalog.buildTaskInfoList env invalidOid).map TaskRow.oid).Nodup :=
    nodup_buildTaskInfoList
  unfold qxRuntimeRunSchedulerRetryCycle at h
  replace h := returns_catalog_bind_iff.mp h
  obtain ⟨swept, intake, rest, hpass, h, hr⟩ := returns_bind_iff.mp h
  have htally := retryPass_tally hnodup hpass
  generalize s.catalog.buildTaskInfoList env invalidOid = tasks at htally ⊢
  cases hselected : intake.selected with
  | none =>
    rw [hselected] at h
    obtain ⟨-, rfl⟩ := returns_pure_iff.mp h
    have hready := htally.selected
    rw [hselected, Option.isSome_none, eq_comm, decide_eq_false_iff_not] at hready
    rw [htally.queued, htally.waiting, htally.dispatches, htally.dead]
    omega
  | some candidate =>
    rw [hselected] at h
    obtain ⟨dispatch, dispatched, rest', hdispatch, h, hr'⟩ := returns_bind_iff.mp h
    obtain ⟨-, rfl⟩ := returns_pure_iff.mp h
    obtain ⟨hstate, hfailed⟩ := htally.failed candidate hselected
    have htrue : dispatched = true :=
      (qxRuntimeDispatchRetryTask_yields hstate hfailed).of_returns hdispatch
    have hready := htally.selected
    rw [hselected, Option.isSome_some, eq_comm, decide_eq_true_eq] at hready
    have hsome : intake.stats.retryReadyTasks > 0 := by
      rw [htally.ready]
      omega
    dsimp only
    rw [htrue, if_pos hsome, if_pos rfl, htally.queued, htally.waiting, htally.dispatches,
      htally.dead, htally.ready]
    omega

def CycleStats.retryCounts (stats : CycleStats) : Int × Int × Int × Int :=
  (stats.queuedRetryTasks, stats.retryWaitingTasks, stats.retryDispatches,
    stats.deadLetteredTasks)

lemma returns_of_retryCounts {counts : Int × Int × Int × Int}
    (h : ((qxRuntimeRunSchedulerRetryCycle env slot).run s).2.toOption.map
      CycleStats.retryCounts = some counts) :
    ∃ journal stats, (qxRuntimeRunSchedulerRetryCycle env slot).Returns s journal stats ∧
      stats.retryCounts = counts := by
  obtain ⟨stats, hstats, hcounts⟩ := Option.map_eq_some_iff.mp h
  cases hrun : (qxRuntimeRunSchedulerRetryCycle env slot).run s with
  | mk journal result =>
    rw [hrun] at hstats
    cases result with
    | error e => cases hstats
    | ok value =>
      obtain rfl := Option.some.inj hstats
      exact ⟨journal, value, hrun, hcounts⟩

/-- One task is ready for a retry, and none is exhausted. -/
theorem demoReclaimed_balanced :
    ∃ journal stats, (qxRuntimeRunSchedulerRetryCycle (demoEnv 3000000000) demoSlot).Returns
        (demoReclaimed.backend 2) journal stats ∧ stats.retryDispatches = 1 ∧
      stats.queuedRetryTasks =
        stats.retryWaitingTasks + stats.retryDispatches + stats.deadLetteredTasks := by
  obtain ⟨journal, stats, hreturns, hcounts⟩ : ∃ journal stats,
      (qxRuntimeRunSchedulerRetryCycle (demoEnv 3000000000) demoSlot).Returns
        (demoReclaimed.backend 2) journal stats ∧ stats.retryCounts = (1, 0, 1, 0) :=
    returns_of_retryCounts (by decide +kernel)
  have hnone : ¬∃ task ∈ (demoReclaimed.backend 2).catalog.tasks.rows,
      (demoReclaimed.backend 2).catalog.retryStanding (demoEnv 3000000000) demoSlot task =
        .exhausted := by
    decide +kernel
  refine ⟨journal, stats, hreturns, congrArg (·.2.2.1) hcounts, ?_⟩
  exact (retryCycle_balanced_iff hreturns).mpr fun h => hnone h.1

/-- The second task is dead-lettered and counted as waiting as well. -/
theorem deadLettered_task_counted_twice :
    demoTwoRetries.Reachable ∧ ∃ journal stats,
      (qxRuntimeRunSchedulerRetryCycle (demoEnv 3000000000) demoSlot).Returns
        (demoTwoRetries.backend 2) journal stats ∧
      (stats.queuedRetryTasks = 2 ∧ stats.retryWaitingTasks = 1 ∧ stats.retryDispatches = 1 ∧
        stats.deadLetteredTasks = 1) ∧
      stats.queuedRetryTasks ≠
        stats.retryWaitingTasks + stats.retryDispatches + stats.deadLetteredTasks := by
  obtain ⟨journal, stats, hreturns, hcounts⟩ : ∃ journal stats,
      (qxRuntimeRunSchedulerRetryCycle (demoEnv 3000000000) demoSlot).Returns
        (demoTwoRetries.backend 2) journal stats ∧ stats.retryCounts = (2, 1, 1, 1) :=
    returns_of_retryCounts (by decide +kernel)
  simp only [CycleStats.retryCounts, Prod.mk.injEq] at hcounts
  refine ⟨World.reachable_run demoAgents _, journal, stats, hreturns, hcounts, ?_⟩
  omega

end QhapaqXian
