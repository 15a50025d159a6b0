import QhapaqXian.Proofs.Lifecycle
import QhapaqXian.Proofs.View
import QhapaqXian.Recovery

/-!
# What a recovery scan appends

A scan writes ledger rows and nothing else. Its three loops are described by the rows that they
append to the queue and lease ledgers and to the traces, in order.
-/

namespace QhapaqXian

open Library Script Txn

variable {attempt : AttemptRow} {summary : AttemptSummary} {s' : Backend} {cat : Catalog}
  {summaries : List AttemptSummary} {leases : List LeaseRow} {queues : List QueueRow}
  {traces : List TraceRow} {ownerid taskoid : Oid} {context context' : QueueMap} {row : QueueRow}
  {hooks : RecoveryHooks} {report : RecoveryReport} {request : StartupRequest} {task : TaskRow}
  {u : Unit}

/-- The catalogs have grown by ledger rows and traces only. -/
structure Appends (s s' : Backend) (queues : List QueueRow) (leases : List LeaseRow)
    (traces : List TraceRow) : Prop where
  snapshot : s'.recoverySnapshot = s.recoverySnapshot
  agents : s'.catalog.agents = s.catalog.agents
  tasks : s'.catalog.tasks = s.catalog.tasks
  attempts : s'.catalog.attempts = s.catalog.attempts
  steps : s'.catalog.steps = s.catalog.steps
  checkpoints : s'.catalog.checkpoints = s.catalog.checkpoints
  charges : s'.catalog.charges = s.catalog.charges
  queues : s'.catalog.queues.rows = s.catalog.queues.rows ++ queues
  leases : s'.catalog.leases.rows = s.catalog.leases.rows ++ leases
  traces : s'.catalog.traces.rows = s.catalog.traces.rows ++ traces

namespace Appends

variable {s s' s'' : Backend} {queues queues' : List QueueRow} {leases leases' : List LeaseRow}
  {traces traces' : List TraceRow}

lemma refl (s : Backend) : Appends s s [] [] [] :=
  ⟨rfl, rfl, rfl, rfl, rfl, rfl, rfl, (List.append_nil _).symm, (List.append_nil _).symm,
    (List.append_nil _).symm⟩

lemma trans (h : Appends s s' queues leases traces) (h' : Appends s' s'' queues' leases' traces') :
    Appends s s'' (queues ++ queues') (leases ++ leases') (traces ++ traces') where
  snapshot := h'.snapshot.trans h.snapshot
  agents := h'.agents.trans h.agents
  tasks := h'.tasks.trans h.tasks
  attempts := h'.attempts.trans h.attempts
  steps := h'.steps.trans h.steps
  checkpoints := h'.checkpoints.trans h.checkpoints
  charges := h'.charges.trans h.charges
  queues := by rw [h'.queues, h.queues, List.append_assoc]
  leases := by rw [h'.leases, h.leases, List.append_assoc]
  traces := by rw [h'.traces, h.traces, List.append_assoc]

lemma insertSchedulerQueue (h : s.catalog.queues.Admits row) :
    Appends s (Replay.apply s (Action.insertSchedulerQueue row)) [row] [] [] :=
  ⟨rfl, rfl, rfl, rfl, rfl, rfl, rfl, Table.rows_insert h, (List.append_nil _).symm,
    (List.append_nil _).symm⟩

lemma insertSchedulerLease {row : LeaseRow} (h : s.catalog.leases.Admits row) :
    Appends s (Replay.apply s (Action.insertSchedulerLease row)) [] [row] [] :=
  ⟨rfl, rfl, rfl, rfl, rfl, rfl, rfl, (List.append_nil _).symm, Table.rows_insert h,
    (List.append_nil _).symm⟩

lemma insertTrace {row : TraceRow} (h : s.catalog.traces.Admits row) :
    Appends s (Replay.apply s (Action.insertTrace row)) [] [] [row] :=
  ⟨rfl, rfl, rfl, rfl, rfl, rfl, rfl, (List.append_nil _).symm, (List.append_nil _).symm,
    Table.rows_insert h⟩

lemma insertSchedulerHeartbeat (s : Backend) (row : HeartbeatRow) :
    Appends s (Replay.apply s (Action.insertSchedulerHeartbeat row)) [] [] [] :=
  ⟨rfl, rfl, rfl, rfl, rfl, rfl, rfl, (List.append_nil _).symm, (List.append_nil _).symm,
    (List.append_nil _).symm⟩

lemma lookupTask (h : Appends s s' queues leases traces) :
    s'.catalog.lookupTaskByOid = s.catalog.lookupTaskByOid := by
  unfold Catalog.lookupTaskByOid
  rw [h.tasks]

lemma lookupCheckpoint (h : Appends s s' queues leases traces) :
    s'.catalog.lookupCheckpointByOid = s.catalog.lookupCheckpointByOid := by
  unfold Catalog.lookupCheckpointByOid
  rw [h.checkpoints]

end Appends

variable {env : Env} {s : Backend} {journal : List Action}

lemma recoveryTask_returns (h : (recoveryTask taskoid).Returns s journal task) :
    journal = [] ∧ s.catalog.lookupTaskByOid taskoid = some task := by
  unfold recoveryTask at h
  rw [returns_catalog_bind_iff] at h
  exact returns_expect_iff.mp h

/-- The queue row that requeues the task of a summary. -/
structure QueueRow.Requeues (queue : QueueRow) (lookup : Oid → Option TaskRow)
    (summary : TaskSummary) : Prop where
  taskoid : queue.taskoid = summary.taskoid
  stored : ∃ task, lookup summary.taskoid = some task ∧
    queue.IsFor summary.lastattemptoid task.ownerid .recovery .requeue

lemma taskoid_of_lookup (h : cat.lookupTaskByOid taskoid = some task) : task.oid = taskoid :=
  (Table.find?_eq_some_iff.mp h).2

lemma lookup_replaced (context : QueueMap) (taskoid queueoid other : Oid) :
    (context.map fun entry => if entry.1 == taskoid then (taskoid, queueoid) else entry).lookup
        other =
      if other = taskoid then (context.lookup taskoid).map fun _ => queueoid
      else context.lookup other := by
  induction context with
  | nil => simp
  | cons entry context ih =>
    obtain ⟨key, value⟩ := entry
    rw [List.map_cons]
    by_cases hkey : key = taskoid
    · subst hkey
      by_cases hother : other = key
      · subst hother
        simp
      · simp only [beq_self_eq_true, if_true, List.lookup_cons, beq_false_of_ne hother, ih,
          if_neg hother]
    · by_cases hother : other = taskoid
      · subst hother
        simp only [beq_false_of_ne hkey, Bool.false_eq_true, if_false, List.lookup_cons,
          beq_false_of_ne (Ne.symm hkey), ih, if_true]
      · simp only [beq_false_of_ne hkey, Bool.false_eq_true, if_false, List.lookup_cons, ih,
          if_neg hother]

lemma lookup_remember (context : QueueMap) (taskoid queueoid other : Oid) :
    qxRuntimeLookupRecoveryQueueoid (qxRuntimeRememberRecoveryQueueoid context taskoid queueoid)
        other =
      if other = taskoid then queueoid else qxRuntimeLookupRecoveryQueueoid context other := by
  unfold qxRuntimeLookupRecoveryQueueoid qxRuntimeRememberRecoveryQueueoid
  split
  · rename_i hany
    rw [lookup_replaced]
    split
    · obtain ⟨entry, hentry, hkey⟩ := List.any_eq_true.mp hany
      have hsome : (context.lookup taskoid).isSome := by
        rw [List.lookup_isSome_iff]
        exact ⟨entry, hentry, beq_iff_eq.mpr (beq_iff_eq.mp hkey).symm⟩
      obtain ⟨value, hvalue⟩ := Option.isSome_iff_exists.mp hsome
      rw [hvalue]
      rfl
    · rfl
  · rename_i hnone
    have hlookup : context.lookup taskoid = none := by
      rw [List.lookup_eq_none_iff]
      intro entry hentry
      rw [Bool.not_eq_true, List.any_eq_false] at hnone
      exact bne_iff_ne.mpr fun heq => hnone entry hentry (beq_iff_eq.mpr heq.symm)
    rw [List.lookup_append]
    by_cases hother : other = taskoid
    · subst hother
      simp [hlookup]
    · simp [List.lookup_cons, hother, beq_false_of_ne hother]

def QueueMap.Knows (context : QueueMap) (taskoid : Oid) : Prop :=
  oidIsValid (qxRuntimeLookupRecoveryQueueoid context taskoid) = true

instance (context : QueueMap) (taskoid : Oid) : Decidable (context.Knows taskoid) :=
  inferInstanceAs (Decidable (_ = true))

lemma knows_remember {queueoid other : Oid} (hvalid : queueoid ≠ invalidOid) :
    (qxRuntimeRememberRecoveryQueueoid context taskoid queueoid).Knows other ↔
      other = taskoid ∨ context.Knows other := by
  unfold QueueMap.Knows
  rw [lookup_remember]
  split
  · rename_i hother
    simp [hother, oidIsValid, hvalid]
  · rename_i hother
    simp [hother]

lemma insertSchedulerQueue_appends {oid : Oid}
    (h : (insertSchedulerQueue env row).Returns s journal oid) :
    ∃ stored, stored = { row with oid := oid } ∧ oid ≠ invalidOid ∧
      Appends s (replay s journal) [stored] [] [] := by
  obtain ⟨stored, rfl, rfl, hadmits, -⟩ := insertSchedulerQueue_returns h
  exact ⟨_, rfl, hadmits.1, Appends.insertSchedulerQueue hadmits⟩

lemma insertSchedulerLease_appends {queueoid oid : Oid} {row : LeaseRow}
    (h : (insertSchedulerLease env queueoid row).Returns s journal oid) :
    ∃ stored, stored = { row with oid := oid, queueoid := queueoid } ∧
      Appends s (replay s journal) [] [stored] [] := by
  obtain ⟨stored, rfl, rfl, hadmits, -⟩ := insertSchedulerLease_returns h
  exact ⟨_, rfl, Appends.insertSchedulerLease hadmits⟩

lemma insertSchedulerHeartbeat_appends {leaseoid : Oid} {row : HeartbeatRow}
    (h : (insertSchedulerHeartbeat env leaseoid row).Returns s journal u) :
    Appends s (replay s journal) [] [] [] := by
  obtain ⟨beat, -, rfl, -⟩ := insertSchedulerHeartbeat_returns h
  exact Appends.insertSchedulerHeartbeat s beat

/-- The summary of a task names a task and an attempt. -/
def TaskSummary.Named (summary : TaskSummary) : Prop :=
  oidIsValid summary.taskoid = true ∧ oidIsValid summary.lastattemptoid = true

instance (summary : TaskSummary) : Decidable summary.Named :=
  inferInstanceAs (Decidable (_ ∧ _))

lemma qxRuntimeRecoveryRequeueTask_returns {summary : TaskSummary} (hnamed : summary.Named)
    (h : (qxRuntimeRecoveryRequeueTask env context summary).Returns s journal context') :
    ∃ row : QueueRow, row.Requeues s.catalog.lookupTaskByOid summary ∧ Appends s (replay s journal) [row] [] [] ∧
      ∀ other, context'.Knows other ↔ other = summary.taskoid ∨ context.Knows other := by
  rw [qxRuntimeRecoveryRequeueTask, if_pos (by rw [hnamed.1, hnamed.2, Bool.and_self])] at h
  obtain ⟨_, task, _, rfl, ⟨rfl, htask⟩, h⟩ := returns_bind_of recoveryTask_returns h
  replace h := returns_catalog_bind_iff.mp h
  obtain ⟨_, oid, _, rfl, ⟨row, hrow, hvalid, happ⟩, h⟩ :=
    returns_bind_of insertSchedulerQueue_appends h
  obtain ⟨rfl, rfl⟩ := returns_pure_iff.mp h
  rw [List.append_nil, List.nil_append]
  refine ⟨row, ⟨?_, task, htask, ?_⟩, happ, fun other => knows_remember hvalid⟩
  · rw [hrow]
    exact taskoid_of_lookup htask
  · rw [hrow]
    exact ⟨rfl, rfl, rfl, rfl⟩

/-- The requeue loop appends one row for each summary. -/
theorem requeueTasks_returns {summaries : List TaskSummary}
    (hnamed : ∀ summary ∈ summaries, summary.Named)
    (h : (fold (qxRuntimeRecoveryRequeueTask env) summaries context).Returns s journal context') :
    ∃ rows : List QueueRow,
      List.Forall₂ (fun summary row => row.Requeues s.catalog.lookupTaskByOid summary) summaries rows ∧
      Appends s (replay s journal) rows [] [] ∧
      ∀ other, context'.Knows other ↔
        other ∈ summaries.map TaskSummary.taskoid ∨ context.Knows other := by
  induction summaries generalizing s context journal with
  | nil =>
    obtain ⟨rfl, rfl⟩ := returns_pure_iff.mp h
    exact ⟨[], .nil, Appends.refl s, fun other => by simp⟩
  | cons summary summaries ih =>
    obtain ⟨first, middle, rest, hfirst, hrest, rfl⟩ := returns_bind_iff.mp h
    obtain ⟨row, hrow, happ, hknows⟩ :=
      qxRuntimeRecoveryRequeueTask_returns (hnamed _ List.mem_cons_self) hfirst
    obtain ⟨rows, hrows, happs, hknows'⟩ :=
      ih (fun other hother => hnamed other (List.mem_cons_of_mem _ hother)) hrest
    rw [happ.lookupTask] at hrows
    refine ⟨row :: rows, .cons hrow hrows, ?_, fun other => ?_⟩
    · rw [replay_append]
      exact happ.trans happs
    · rw [hknows', hknows, List.map_cons, List.mem_cons, or_left_comm, or_assoc]

/-- The lease that fences the attempt of a summary. -/
structure LeaseRow.Fences (lease : LeaseRow) (lookup : Oid → Option TaskRow)
    (summary : AttemptSummary) : Prop where
  taskoid : lease.taskoid = summary.taskoid
  stored : ∃ task, lookup summary.taskoid = some task ∧
    lease.IsFor summary.attemptoid task.ownerid .reclaimed

/-- The queue row on which the fence of an attempt hangs. -/
structure QueueRow.Fences (queue : QueueRow) (lookup : Oid → Option TaskRow)
    (summary : AttemptSummary) : Prop where
  taskoid : queue.taskoid = summary.taskoid
  stored : ∃ task, lookup summary.taskoid = some task ∧
    queue.IsFor summary.attemptoid task.ownerid .recovery .fence

def AttemptSummary.Named (summary : AttemptSummary) : Prop :=
  oidIsValid summary.attemptoid = true ∧ oidIsValid summary.taskoid = true

instance (summary : AttemptSummary) : Decidable summary.Named :=
  inferInstanceAs (Decidable (_ ∧ _))

lemma fenceQueue_returns {result : QueueMap × Oid}
    (htask : s.catalog.lookupTaskByOid summary.taskoid = some task)
    (h : (fenceQueue env context cat task summary).Returns s journal result) :
    ∃ rows : List QueueRow, Appends s (replay s journal) rows [] [] ∧
      (context.Knows summary.taskoid → rows = []) ∧
      (¬context.Knows summary.taskoid → ∃ row, rows = [row] ∧ row.Fences s.catalog.lookupTaskByOid summary) ∧
      ∀ other, result.1.Knows other ↔ other = summary.taskoid ∨ context.Knows other := by
  dsimp only [fenceQueue] at h
  split at h
  · rename_i hknown
    obtain ⟨rfl, rfl⟩ := returns_pure_iff.mp h
    refine ⟨[], Appends.refl s, fun _ => rfl, fun hunknown => absurd hknown hunknown, fun other => ?_⟩
    exact ⟨.inr, fun h => h.elim (fun heq => heq ▸ hknown) id⟩
  · rename_i hunknown
    obtain ⟨_, oid, _, rfl, ⟨row, hrow, hvalid, happ⟩, h⟩ :=
      returns_bind_of insertSchedulerQueue_appends h
    obtain ⟨rfl, rfl⟩ := returns_pure_iff.mp h
    rw [List.append_nil]
    refine ⟨[row], happ, fun hknown => absurd hknown hunknown, fun _ => ⟨row, rfl, ?_, task, htask, ?_⟩,
      fun other => knows_remember hvalid⟩
    · rw [hrow]
      exact taskoid_of_lookup htask
    · rw [hrow]
      exact ⟨rfl, rfl, rfl, rfl⟩

lemma qxRuntimeRecoveryFenceAttempt_returns (hnamed : summary.Named)
    (h : (qxRuntimeRecoveryFenceAttempt env context summary).Returns s journal context') :
    ∃ (rows : List QueueRow) (lease : LeaseRow), lease.Fences s.catalog.lookupTaskByOid summary ∧
      Appends s (replay s journal) rows [lease] [] ∧
      (context.Knows summary.taskoid → rows = []) ∧
      (¬context.Knows summary.taskoid → ∃ row, rows = [row] ∧ row.Fences s.catalog.lookupTaskByOid summary) ∧
      ∀ other, context'.Knows other ↔ other = summary.taskoid ∨ context.Knows other := by
  rw [qxRuntimeRecoveryFenceAttempt, if_pos (by rw [hnamed.1, hnamed.2, Bool.and_self])] at h
  obtain ⟨_, task, _, rfl, ⟨rfl, htask⟩, h⟩ := returns_bind_of recoveryTask_returns h
  replace h := returns_catalog_bind_iff.mp h
  obtain ⟨_, ⟨middle, queueoid⟩, _, rfl, ⟨rows, hrows, hknown, hunknown, hknows⟩, h⟩ :=
    returns_bind_of (fenceQueue_returns htask) h
  obtain ⟨_, leaseoid, _, rfl, ⟨lease, hlease, hleases⟩, h⟩ :=
    returns_bind_of insertSchedulerLease_appends h
  obtain ⟨_, _, _, rfl, hbeat, h⟩ := returns_bind_of insertSchedulerHeartbeat_appends h
  obtain ⟨rfl, rfl⟩ := returns_pure_iff.mp h
  refine ⟨rows, lease, ⟨?_, task, htask, ?_⟩, ?_, hknown, hunknown, hknows⟩
  · rw [hlease]
    exact taskoid_of_lookup htask
  · rw [hlease]
    exact ⟨rfl, rfl, rfl⟩
  · simpa only [List.append_nil, List.nil_append, replay_append]
      using hrows.trans (hleases.trans hbeat)

/-- The attempt whose fence gets a queue row of its own: the first one of its task, unless the scan
has already queued the task. -/
def fencedFirst (context : QueueMap) (summaries : List AttemptSummary) (taskoid : Oid) : List Oid :=
  if context.Knows taskoid then []
  else ((summaries.find? (·.taskoid == taskoid)).map AttemptSummary.attemptoid).toList

lemma fencedFirst_cons_self (h : ¬context.Knows summary.taskoid) :
    fencedFirst context (summary :: summaries) summary.taskoid = [summary.attemptoid] := by
  simp [fencedFirst, h]

lemma fencedFirst_cons_of_ne (h : taskoid ≠ summary.taskoid) :
    fencedFirst context (summary :: summaries) taskoid = fencedFirst context summaries taskoid := by
  unfold fencedFirst
  rw [List.find?_cons_of_neg (by simpa using Ne.symm h)]

/-- The fence loop appends one lease for each summary, and a queue row for the first attempt of
each task that is not queued yet. -/
theorem fenceAttempts_returns (hnamed : ∀ summary ∈ summaries, summary.Named)
    (h : (fold (qxRuntimeRecoveryFenceAttempt env) summaries context).Returns s journal context') :
    ∃ (rows : List QueueRow) (leases : List LeaseRow),
      List.Forall₂ (fun summary lease => lease.Fences s.catalog.lookupTaskByOid summary) summaries leases ∧
      Appends s (replay s journal) rows leases [] ∧
      (∀ row ∈ rows, ∃ summary ∈ summaries, row.Fences s.catalog.lookupTaskByOid summary) ∧
      ∀ taskoid, (rows.filter (·.taskoid == taskoid)).map QueueRow.attemptoid =
        fencedFirst context summaries taskoid := by
  induction summaries generalizing s context journal with
  | nil =>
    obtain ⟨rfl, rfl⟩ := returns_pure_iff.mp h
    exact ⟨[], [], .nil, Appends.refl s, fun _ hrow => absurd hrow List.not_mem_nil,
      fun taskoid => by simp [fencedFirst]⟩
  | cons summary summaries ih =>
    obtain ⟨first, middle, rest, hfirst, hrest, rfl⟩ := returns_bind_iff.mp h
    obtain ⟨rows, lease, hlease, happ, hknown, hunknown, hknows⟩ :=
      qxRuntimeRecoveryFenceAttempt_returns (hnamed _ List.mem_cons_self) hfirst
    obtain ⟨rows', leases, hleases, happs, hfences, hfiltered⟩ :=
      ih (fun other hother => hnamed other (List.mem_cons_of_mem _ hother)) hrest
    have hrows : ∀ row ∈ rows, row.Fences s.catalog.lookupTaskByOid summary := by
      intro row hrow
      by_cases hknow : context.Knows summary.taskoid
      · rw [hknown hknow] at hrow
        cases hrow
      · obtain ⟨fence, rfl, hfence⟩ := hunknown hknow
        rw [List.mem_singleton.mp hrow]
        exact hfence
    rw [happ.lookupTask] at hleases hfences
    refine ⟨rows ++ rows', lease :: leases, .cons hlease hleases, ?_, ?_, fun taskoid => ?_⟩
    · rw [replay_append]
      exact happ.trans happs
    · intro row hrow
      rcases List.mem_append.mp hrow with hold | hnew
      · exact ⟨summary, List.mem_cons_self, hrows row hold⟩
      · obtain ⟨other, hother, hfence⟩ := hfences row hnew
        exact ⟨other, List.mem_cons_of_mem _ hother, hfence⟩
    · rw [List.filter_append, List.map_append, hfiltered]
      by_cases htask : taskoid = summary.taskoid
      · subst htask
        have hlater : fencedFirst middle summaries summary.taskoid = [] := by
          rw [fencedFirst, if_pos ((hknows _).mpr (.inl rfl))]
        rw [hlater, List.append_nil]
        by_cases hknow : context.Knows summary.taskoid
        · rw [hknown hknow, fencedFirst, if_pos hknow]
          rfl
        · obtain ⟨fence, rfl, hfence⟩ := hunknown hknow
          obtain ⟨task, -, hfor⟩ := hfence.stored
          rw [fencedFirst_cons_self hknow]
          simp [hfence.taskoid, hfor.attemptoid]
      · have hnone : rows.filter (·.taskoid == taskoid) = [] := by
          rw [List.filter_eq_nil_iff]
          intro row hrow
          rw [(hrows row hrow).taskoid, beq_iff_eq]
          exact Ne.symm htask
        have hsame : middle.Knows taskoid ↔ context.Knows taskoid := by
          rw [hknows]
          exact ⟨fun h => h.resolve_left htask, .inr⟩
        rw [hnone, fencedFirst_cons_of_ne htask]
        simp only [fencedFirst, hsame, List.map_nil, List.nil_append]

/-- The trace that records the replay of a checkpoint. -/
structure TraceRow.Replays (trace : TraceRow) (lookup : Oid → Option CheckpointRow)
    (summary : CheckpointSummary) : Prop where
  taskoid : ∃ checkpoint, lookup summary.checkpointoid = some checkpoint ∧
    trace.taskoid = checkpoint.taskoid
  name : trace.name = qxRecoverySemanticReplayTrace
  detail : ∃ rest, trace.detail = checkpointOidKey summary.checkpointoid ++ rest

lemma qxRuntimeRecoveryReplayCheckpoint_returns {summary : CheckpointSummary}
    (hvalid : oidIsValid summary.checkpointoid = true)
    (h : (qxRuntimeRecoveryReplayCheckpoint env summary).Returns s journal u) :
    ∃ (checkpoint : CheckpointRow) (trace : TraceRow),
      s.catalog.lookupCheckpointByOid summary.checkpointoid = some checkpoint ∧
      journal = [.emitSemanticCheckpoint (checkpoint.record .v1), .insertTrace trace] ∧
      trace.Replays s.catalog.lookupCheckpointByOid summary ∧ Appends s (replay s journal) [] [] [trace] := by
  rw [qxRuntimeRecoveryReplayCheckpoint, if_pos hvalid] at h
  obtain ⟨_, checkpoint, _, rfl, ⟨rfl, hcheckpoint⟩, h⟩ :=
    returns_bind_of lookupCheckpoint_returns h
  obtain ⟨_, htrace, rfl⟩ := returns_record_bind_iff.mp h
  obtain ⟨oid, hadmits, rfl, -⟩ := insertTrace_returns htrace
  exact ⟨checkpoint, _, hcheckpoint, rfl, ⟨⟨checkpoint, hcheckpoint, rfl⟩, rfl, _,
    by rw [List.append_assoc, List.append_assoc, List.append_assoc]⟩, Appends.insertTrace hadmits⟩

theorem replayCheckpoints_returns {summaries : List CheckpointSummary}
    (hvalid : ∀ summary ∈ summaries, oidIsValid summary.checkpointoid = true)
    (h : (forEach (qxRuntimeRecoveryReplayCheckpoint env) summaries).Returns s journal u) :
    ∃ traces : List TraceRow,
      List.Forall₂ (fun summary trace => trace.Replays s.catalog.lookupCheckpointByOid summary) summaries traces ∧
      Appends s (replay s journal) [] [] traces := by
  unfold forEach at h
  induction summaries generalizing s journal with
  | nil =>
    obtain ⟨rfl, rfl⟩ := returns_pure_iff.mp h
    exact ⟨[], .nil, Appends.refl s⟩
  | cons summary summaries ih =>
    obtain ⟨first, _, rest, hfirst, hrest, rfl⟩ := returns_bind_iff.mp h
    obtain ⟨-, trace, -, -, htrace, happ⟩ :=
      qxRuntimeRecoveryReplayCheckpoint_returns (hvalid _ List.mem_cons_self) hfirst
    obtain ⟨traces, htraces, happs⟩ :=
      ih (fun other hother => hvalid other (List.mem_cons_of_mem _ hother)) hrest
    rw [happ.lookupCheckpoint] at htraces
    refine ⟨trace :: traces, .cons htrace htraces, ?_⟩
    rw [replay_append]
    exact happ.trans happs

section summaries

variable {cat : Catalog} {ownerid : Oid}

lemma TaskSummary.taskoid_withAttempt (summary : TaskSummary) (attempt : AttemptRow) :
    (summary.withAttempt attempt).taskoid = summary.taskoid := by
  unfold withAttempt
  split
  · dsimp only
    split <;> rfl
  · rfl

lemma TaskSummary.taskoid_withCheckpoint (summary : TaskSummary) (checkpoint : CheckpointRow) :
    (summary.withCheckpoint checkpoint).taskoid = summary.taskoid := by
  unfold withCheckpoint
  split <;> rfl

lemma TaskSummary.lastattemptoid_withCheckpoint (summary : TaskSummary)
    (checkpoint : CheckpointRow) :
    (summary.withCheckpoint checkpoint).lastattemptoid = summary.lastattemptoid := by
  unfold withCheckpoint
  split <;> rfl

lemma withAttempts_lastattemptoid {summary : TaskSummary} {attempts : List AttemptRow}
    {P : Oid → Prop} (hlast : P summary.lastattemptoid)
    (h : ∀ attempt ∈ attempts, attempt.taskoid = summary.taskoid → P attempt.oid) :
    P (qxRecoveryUpdateTaskWithAttempts summary attempts).lastattemptoid := by
  unfold qxRecoveryUpdateTaskWithAttempts
  induction attempts generalizing summary with
  | nil => exact hlast
  | cons attempt attempts ih =>
    refine ih ?_ fun other hother htask => ?_
    · unfold TaskSummary.withAttempt
      split
      · rename_i htask
        dsimp only
        split
        · exact h attempt List.mem_cons_self htask
        · exact hlast
      · exact hlast
    · rw [TaskSummary.taskoid_withAttempt] at htask
      exact h other (List.mem_cons_of_mem _ hother) htask

lemma withAttempts_taskoid (summary : TaskSummary) (attempts : List AttemptRow) :
    (qxRecoveryUpdateTaskWithAttempts summary attempts).taskoid = summary.taskoid :=
  foldl_keeps TaskSummary.taskoid_withAttempt _ _

lemma withCheckpoints_taskoid (summary : TaskSummary) (checkpoints : List CheckpointRow) :
    (qxRecoveryUpdateTaskWithCheckpoints summary checkpoints).taskoid = summary.taskoid :=
  foldl_keeps TaskSummary.taskoid_withCheckpoint _ _

lemma withCheckpoints_lastattemptoid (summary : TaskSummary) (checkpoints : List CheckpointRow) :
    (qxRecoveryUpdateTaskWithCheckpoints summary checkpoints).lastattemptoid =
      summary.lastattemptoid :=
  foldl_keeps TaskSummary.lastattemptoid_withCheckpoint _ _

lemma taskSummary_taskoid (cat : Catalog) (env : Env) (ownerid : Oid) (task : TaskRow) :
    (taskSummary cat env ownerid task).taskoid = task.oid := by
  simp only [taskSummary, TaskSummary.withLedgers, withCheckpoints_taskoid, withAttempts_taskoid]
  rfl

lemma mem_buildAttemptInfoList :
    attempt ∈ cat.buildAttemptInfoList env ownerid ↔
      attempt ∈ cat.attempts.rows ∧ Catalog.ownerMatches ownerid attempt.ownerid = true := by
  rw [Catalog.buildAttemptInfoList, List.mem_filter, (env.scan.attempts_perm _).mem_iff]

lemma mem_buildTaskInfoList :
    task ∈ cat.buildTaskInfoList env ownerid ↔
      task ∈ cat.tasks.rows ∧ Catalog.ownerMatches ownerid task.ownerid = true := by
  rw [Catalog.buildTaskInfoList, List.mem_filter, (env.scan.tasks_perm _).mem_iff]

/-- Whatever its order, the list has no task twice. -/
lemma nodup_buildTaskInfoList :
    ((cat.buildTaskInfoList env ownerid).map TaskRow.oid).Nodup := by
  have hperm := (env.scan.tasks_perm cat.tasks.rows).map TaskRow.oid
  exact (hperm.nodup_iff.mpr cat.tasks.nodup).sublist (List.filter_sublist.map _)

lemma mem_buildCheckpointInfoList {checkpoint : CheckpointRow} :
    checkpoint ∈ cat.buildCheckpointInfoList env ownerid ↔
      checkpoint ∈ cat.checkpoints.rows ∧
        Catalog.ownerMatches ownerid checkpoint.ownerid = true := by
  rw [Catalog.buildCheckpointInfoList, List.mem_filter, (env.scan.checkpoints_perm _).mem_iff]

lemma view_task_of_mem (h : task ∈ cat.tasks.rows) :
    (cat.view task.oid).task = some task :=
  Table.find?_eq_some_iff.mpr ⟨h, rfl⟩

lemma mem_view_attempts :
    attempt ∈ (cat.view taskoid).attempts ↔
      attempt ∈ cat.attempts.rows ∧ attempt.taskoid = taskoid := by
  rw [Catalog.view, List.mem_filter, beq_iff_eq]

lemma oidIsValid_of_lookup (h : (cat.view taskoid).task = some task) :
    oidIsValid taskoid = true := by
  obtain ⟨hmem, hoid⟩ := Table.find?_eq_some_iff.mp h
  rw [oidIsValid, bne_iff_ne, ← hoid]
  exact cat.tasks.valid task hmem

lemma Catalog.Sound.task_of_attempt (hcat : cat.Sound) (h : attempt ∈ cat.attempts.rows) :
    ∃ task, (cat.view attempt.taskoid).task = some task := by
  have hmem : attempt ∈ (cat.view attempt.taskoid).attempts := mem_view_attempts.mpr ⟨h, rfl⟩
  cases htask : (cat.view attempt.taskoid).task with
  | none =>
    rw [(hcat attempt.taskoid).orphans htask] at hmem
    exact absurd hmem List.not_mem_nil
  | some task => exact ⟨task, rfl⟩

lemma taskSummary_lastattemptoid_mem (hcat : cat.Sound) (htask : task ∈ cat.tasks.rows) :
    (taskSummary cat env ownerid task).lastattemptoid ∈
      (cat.view task.oid).attempts.map AttemptRow.oid := by
  simp only [taskSummary, TaskSummary.withLedgers, withCheckpoints_lastattemptoid]
  obtain ⟨earlier, last, hcurrent⟩ := (hcat task.oid).current task (view_task_of_mem htask)
  refine withAttempts_lastattemptoid ?_ fun attempt hattempt htaskoid => ?_
  · refine List.mem_map.mpr ⟨last, ?_, hcurrent.last_eq.symm⟩
    rw [hcurrent.attempts_eq]
    exact List.mem_append_right _ (List.mem_singleton.mpr rfl)
  · exact List.mem_map_of_mem
      (mem_view_attempts.mpr ⟨(mem_buildAttemptInfoList.mp hattempt).1, htaskoid⟩)

lemma oidIsValid_of_mem_attempts {attemptoid : Oid}
    (h : attemptoid ∈ (cat.view taskoid).attempts.map AttemptRow.oid) :
    oidIsValid attemptoid = true := by
  obtain ⟨attempt, hattempt, rfl⟩ := List.mem_map.mp h
  rw [oidIsValid, bne_iff_ne]
  exact cat.attempts.valid attempt (mem_view_attempts.mp hattempt).1

lemma taskSummary_named (hcat : cat.Sound) (htask : task ∈ cat.tasks.rows) :
    (taskSummary cat env ownerid task).Named := by
  refine ⟨?_, oidIsValid_of_mem_attempts (taskSummary_lastattemptoid_mem hcat htask)⟩
  rw [taskSummary_taskoid]
  exact oidIsValid_of_lookup (view_task_of_mem htask)

lemma attemptSummary_named (hcat : cat.Sound) (hattempt : attempt ∈ cat.attempts.rows) :
    (attemptSummary cat ownerid attempt).Named := by
  obtain ⟨task, htask⟩ := hcat.task_of_attempt hattempt
  exact ⟨oidIsValid_of_mem_attempts (List.mem_map_of_mem (mem_view_attempts.mpr ⟨hattempt, rfl⟩)),
    oidIsValid_of_lookup htask⟩

lemma mem_tasksToRequeue {summary : TaskSummary}
    (h : summary ∈ tasksToRequeue cat env request hooks) :
    ∃ task ∈ cat.tasks.rows,
      summary = taskSummary cat env (effectiveOwner env request.ownerid) task ∧
      Catalog.ownerMatches (effectiveOwner env request.ownerid) task.ownerid = true ∧
      qxRecoveryTaskNeedsRequeue summary = true := by
  obtain ⟨hmem, hneeds⟩ := List.mem_filter.mp h
  obtain ⟨task, htask, rfl⟩ := List.mem_map.mp hmem
  obtain ⟨htask, howner⟩ := mem_buildTaskInfoList.mp htask
  rw [Bool.and_eq_true, Bool.and_eq_true] at hneeds
  exact ⟨task, htask, rfl, howner, hneeds.1.2⟩

lemma mem_attemptsToFence (h : summary ∈ attemptsToFence cat env request hooks) :
    ∃ attempt ∈ cat.attempts.rows,
      summary = attemptSummary cat (effectiveOwner env request.ownerid) attempt ∧
      Catalog.ownerMatches (effectiveOwner env request.ownerid) attempt.ownerid = true ∧
      qxRecoveryAttemptNeedsFence summary = true := by
  obtain ⟨hmem, hneeds⟩ := List.mem_filter.mp h
  rw [scannedAttempts] at hmem
  split at hmem
  · obtain ⟨attempt, hattempt, rfl⟩ := List.mem_map.mp hmem
    obtain ⟨hattempt, howner⟩ := mem_buildAttemptInfoList.mp hattempt
    rw [Bool.and_eq_true, Bool.and_eq_true] at hneeds
    exact ⟨attempt, hattempt, rfl, howner, hneeds.1.2⟩
  · exact absurd hmem List.not_mem_nil

lemma mem_checkpointsToReplay {summary : CheckpointSummary}
    (h : summary ∈ checkpointsToReplay cat env request hooks) :
    ∃ checkpoint ∈ cat.checkpoints.rows, summary = checkpointSummary cat checkpoint ∧
      Catalog.ownerMatches (effectiveOwner env request.ownerid) checkpoint.ownerid = true := by
  obtain ⟨hmem, -⟩ := List.mem_filter.mp h
  rw [scannedCheckpoints] at hmem
  split at hmem
  · obtain ⟨checkpoint, hcheckpoint, rfl⟩ := List.mem_map.mp hmem
    obtain ⟨hcheckpoint, howner⟩ := mem_buildCheckpointInfoList.mp hcheckpoint
    exact ⟨checkpoint, hcheckpoint, rfl, howner⟩
  · exact absurd hmem List.not_mem_nil

end summaries

/-- Everything that a scan appends. -/
structure ScanEffect (s s' : Backend) (tasks : List TaskSummary) (attempts : List AttemptSummary)
    (checkpoints : List CheckpointSummary) (requeued fenced : List QueueRow)
    (leases : List LeaseRow) (traces : List TraceRow) : Prop where
  appends : Appends s s' (requeued ++ fenced) leases traces
  requeue_rows : List.Forall₂ (fun summary row => row.Requeues s.catalog.lookupTaskByOid summary) tasks requeued
  fence_leases : List.Forall₂ (fun summary lease => lease.Fences s.catalog.lookupTaskByOid summary) attempts leases
  fence_rows : ∀ row ∈ fenced, ∃ summary ∈ attempts, row.Fences s.catalog.lookupTaskByOid summary
  first_row : ∀ taskoid, (fenced.filter (·.taskoid == taskoid)).map QueueRow.attemptoid =
    if taskoid ∈ tasks.map TaskSummary.taskoid then []
    else ((attempts.find? (·.taskoid == taskoid)).map AttemptSummary.attemptoid).toList
  replay_rows : List.Forall₂ (fun summary trace => trace.Replays s.catalog.lookupCheckpointByOid summary) checkpoints traces

lemma fold_requeueTask_named (summaries : List TaskSummary) (context : QueueMap) :
    fold (qxRuntimeRecoveryRequeueTask env) (summaries.filter fun s => s.Named) context =
      fold (qxRuntimeRecoveryRequeueTask env) summaries context := by
  refine fold_filter (fun context summary h => if_neg ?_) summaries context
  rw [Bool.and_eq_true]
  exact of_decide_eq_false h

lemma fold_fenceAttempt_named (summaries : List AttemptSummary) (context : QueueMap) :
    fold (qxRuntimeRecoveryFenceAttempt env) (summaries.filter fun s => s.Named) context =
      fold (qxRuntimeRecoveryFenceAttempt env) summaries context := by
  refine fold_filter (fun context summary h => if_neg ?_) summaries context
  rw [Bool.and_eq_true]
  exact of_decide_eq_false h

/-- What a scan of any catalogs appends and reports. -/
theorem qxRecoveryRunStartupScan_effect
    (h : (qxRecoveryRunStartupScan env request hooks).Returns s journal report) :
    report = qxRecoveryPopulateReport
        (qxRecoveryBuildTaskSummaries s.catalog env (effectiveOwner env request.ownerid))
        (scannedAttempts s.catalog env request) (scannedCheckpoints s.catalog env request) ∧
      ∃ requeued fenced leases traces, ScanEffect s (replay s journal)
        ((tasksToRequeue s.catalog env request hooks).filter fun s => s.Named)
        ((attemptsToFence s.catalog env request hooks).filter fun s => s.Named)
        (checkpointsToReplay s.catalog env request hooks) requeued fenced leases traces := by
  dsimp only [qxRecoveryRunStartupScan] at h
  replace h := returns_catalog_bind_iff.mp h
  rw [← fold_requeueTask_named] at h
  obtain ⟨_, context, _, rfl, hrequeue, h⟩ := returns_bind_of id h
  rw [← fold_fenceAttempt_named] at h
  obtain ⟨_, context', _, rfl, hfence, h⟩ := returns_bind_of id h
  obtain ⟨_, _, _, rfl, hreplay, h⟩ := returns_bind_of id h
  obtain ⟨-, h⟩ := returns_require_bind_iff.mp h
  obtain ⟨rfl, rfl⟩ := returns_pure_iff.mp h
  obtain ⟨requeued, hrequeued, happ₁, hknows⟩ :=
    requeueTasks_returns (fun _ hmem => of_decide_eq_true (List.mem_filter.mp hmem).2) hrequeue
  obtain ⟨fenced, leases, hleases, happ₂, hfenced, hfirst⟩ :=
    fenceAttempts_returns (fun _ hmem => of_decide_eq_true (List.mem_filter.mp hmem).2) hfence
  obtain ⟨traces, htraces, happ₃⟩ := replayCheckpoints_returns (fun summary hmem => by
    obtain ⟨checkpoint, hcheckpoint, rfl, -⟩ := mem_checkpointsToReplay hmem
    rw [oidIsValid, bne_iff_ne]
    exact s.catalog.checkpoints.valid checkpoint hcheckpoint) hreplay
  rw [happ₁.lookupTask] at hleases hfenced
  rw [happ₂.lookupCheckpoint, happ₁.lookupCheckpoint] at htraces
  refine ⟨rfl, requeued, fenced, leases, traces, ?_, hrequeued, hleases, hfenced,
    fun taskoid => ?_, htraces⟩
  · simpa only [List.append_nil, List.nil_append, replay_append]
      using happ₁.trans (happ₂.trans happ₃)
  · have hempty : ¬QueueMap.Knows [] taskoid := by simp [QueueMap.Knows,
      qxRuntimeLookupRecoveryQueueoid, oidIsValid]
    rw [hfirst, fencedFirst]
    simp only [hknows, hempty, or_false]

/-- In sound catalogs every summary names its rows. -/
theorem qxRecoveryRunStartupScan_returns (hcat : s.catalog.Sound)
    (h : (qxRecoveryRunStartupScan env request hooks).Returns s journal report) :
    ∃ requeued fenced leases traces, ScanEffect s (replay s journal)
      (tasksToRequeue s.catalog env request hooks) (attemptsToFence s.catalog env request hooks)
      (checkpointsToReplay s.catalog env request hooks) requeued fenced leases traces := by
  have htasks : (tasksToRequeue s.catalog env request hooks).filter (fun s => s.Named) =
      tasksToRequeue s.catalog env request hooks := by
    refine List.filter_eq_self.mpr fun summary hmem => decide_eq_true ?_
    obtain ⟨task, htask, rfl, -, -⟩ := mem_tasksToRequeue hmem
    exact taskSummary_named hcat htask
  have hattempts : (attemptsToFence s.catalog env request hooks).filter (fun s => s.Named) =
      attemptsToFence s.catalog env request hooks := by
    refine List.filter_eq_self.mpr fun summary hmem => decide_eq_true ?_
    obtain ⟨attempt, hattempt, rfl, -, -⟩ := mem_attemptsToFence hmem
    exact attemptSummary_named hcat hattempt
  have heffect := (qxRecoveryRunStartupScan_effect h).2
  rw [htasks, hattempts] at heffect
  exact heffect

lemma Appends.view_eq (h : Appends s s' queues leases traces) (taskoid : Oid) :
    s'.catalog.view taskoid =
      { s.catalog.view taskoid with
        queues := (s.catalog.view taskoid).queues ++ queues.filter (·.taskoid == taskoid)
        leases := (s.catalog.view taskoid).leases ++ leases.filter (·.taskoid == taskoid) } := by
  simp only [Catalog.view, h.lookupTask, h.attempts, h.steps, h.checkpoints, h.charges, h.queues,
    h.leases, List.filter_append]

lemma recovers_queues {scope : Oid → Prop} {view : TaskView}
    (htask : view.task = some task)
    (h : ∀ queue ∈ queues, scope task.ownerid ∧ ∃ attemptoid origin,
      attemptoid ∈ view.attempts.map AttemptRow.oid ∧ (origin = .requeue ∨ origin = .fence) ∧
        queue.IsFor attemptoid task.ownerid .recovery origin) :
    Relation.ReflTransGen (RecoveryStep scope) view { view with queues := view.queues ++ queues } := by
  induction queues generalizing view with
  | nil =>
    rw [List.append_nil]
  | cons queue queues ih =>
    obtain ⟨hscope, attemptoid, origin, hattempt, horigin, hqueue⟩ := h queue List.mem_cons_self
    refine .head (.enqueue htask hscope hattempt horigin hqueue) ?_
    have hrest := @ih { view with queues := view.queues ++ [queue] } htask
      fun other hother => h other (List.mem_cons_of_mem _ hother)
    simp only [List.append_assoc, List.singleton_append] at hrest
    exact hrest

lemma recovers_leases {scope : Oid → Prop} {view : TaskView} {task : TaskRow}
    (htask : view.task = some task) {leases : List LeaseRow}
    (h : ∀ lease ∈ leases, scope task.ownerid ∧ ∃ attempt ∈ view.attempts, attempt.state = .running ∧
      lease.IsFor attempt.oid task.ownerid .reclaimed) :
    Relation.ReflTransGen (RecoveryStep scope) view { view with leases := view.leases ++ leases } := by
  induction leases generalizing view with
  | nil =>
    rw [List.append_nil]
  | cons lease leases ih =>
    obtain ⟨hscope, attempt, hattempt, hrunning, hlease⟩ := h lease List.mem_cons_self
    refine .head (.fence htask hscope hattempt hrunning hlease) ?_
    have hrest := @ih { view with leases := view.leases ++ [lease] } htask
      fun other hother => h other (List.mem_cons_of_mem _ hother)
    simp only [List.append_assoc, List.singleton_append] at hrest
    exact hrest

section scan

variable {s' : Backend} {request : StartupRequest} {hooks : RecoveryHooks}
  {requeued fenced : List QueueRow} {leases : List LeaseRow} {traces : List TraceRow}

abbrev ScanRows (env : Env) (request : StartupRequest) (hooks : RecoveryHooks) (s s' : Backend) :=
  ScanEffect s s' (tasksToRequeue s.catalog env request hooks)
    (attemptsToFence s.catalog env request hooks) (checkpointsToReplay s.catalog env request hooks)

def scanScope (env : Env) (ownerid : Oid) (taskOwner : Oid) : Prop :=
  Catalog.ownerMatches (effectiveOwner env ownerid) taskOwner = true

lemma scope_of_running (hcat : cat.Sound) (hattempt : attempt ∈ cat.attempts.rows)
    (htask : (cat.view attempt.taskoid).task = some task) (hrunning : attempt.state = .running)
    (howner : Catalog.ownerMatches (effectiveOwner env ownerid) attempt.ownerid = true) :
    scanScope env ownerid task.ownerid := by
  have hsame := (hcat attempt.taskoid).owner task htask attempt
    (mem_view_attempts.mpr ⟨hattempt, rfl⟩) (.inr hrunning)
  rw [scanScope, ← hsame]
  exact howner

lemma ScanEffect.queue_isFor (hcat : s.catalog.Sound)
    (h : ScanRows env request hooks s s' requeued fenced leases traces)
    (hrow : row ∈ requeued ++ fenced) :
    ∃ task attemptoid origin, (s.catalog.view row.taskoid).task = some task ∧
      scanScope env request.ownerid task.ownerid ∧
      attemptoid ∈ (s.catalog.view row.taskoid).attempts.map AttemptRow.oid ∧
      (origin = .requeue ∨ origin = .fence) ∧
      row.IsFor attemptoid task.ownerid .recovery origin := by
  rcases List.mem_append.mp hrow with hrow | hrow
  · obtain ⟨summary, hsummary, hrequeue⟩ := exists_of_forall₂ h.requeue_rows hrow
    obtain ⟨task, htask, rfl, hscope, -⟩ := mem_tasksToRequeue hsummary
    obtain ⟨row', hrow', hfor⟩ := hrequeue.stored
    have hsame : row' = task := by
      rw [taskSummary_taskoid] at hrow'
      exact Option.some.inj (hrow'.symm.trans (view_task_of_mem htask))
    rw [hrequeue.taskoid]
    refine ⟨row', _, .requeue, hrow', hsame ▸ hscope, ?_, .inl rfl, hfor⟩
    rw [taskSummary_taskoid]
    exact taskSummary_lastattemptoid_mem hcat htask
  · obtain ⟨summary, hsummary, hfence⟩ := h.fence_rows row hrow
    obtain ⟨attempt, hattempt, rfl, howner, hneeds⟩ := mem_attemptsToFence hsummary
    obtain ⟨task, htask, hfor⟩ := hfence.stored
    rw [qxRecoveryAttemptNeedsFence, Bool.and_eq_true] at hneeds
    rw [hfence.taskoid]
    exact ⟨task, _, .fence, htask,
      scope_of_running hcat hattempt htask (beq_iff_eq.mp hneeds.2) howner,
      List.mem_map_of_mem (mem_view_attempts.mpr ⟨hattempt, rfl⟩), .inr rfl, hfor⟩

lemma ScanEffect.lease_isFor (hcat : s.catalog.Sound)
    (h : ScanRows env request hooks s s' requeued fenced leases traces) {lease : LeaseRow}
    (hlease : lease ∈ leases) :
    ∃ task, (s.catalog.view lease.taskoid).task = some task ∧
      scanScope env request.ownerid task.ownerid ∧
      ∃ attempt ∈ (s.catalog.view lease.taskoid).attempts, attempt.state = .running ∧
        lease.IsFor attempt.oid task.ownerid .reclaimed := by
  obtain ⟨summary, hsummary, hfence⟩ := exists_of_forall₂ h.fence_leases hlease
  obtain ⟨attempt, hattempt, rfl, howner, hneeds⟩ := mem_attemptsToFence hsummary
  obtain ⟨task, htask, hfor⟩ := hfence.stored
  rw [qxRecoveryAttemptNeedsFence, Bool.and_eq_true] at hneeds
  rw [hfence.taskoid]
  exact ⟨task, htask, scope_of_running hcat hattempt htask (beq_iff_eq.mp hneeds.2) howner, attempt,
    mem_view_attempts.mpr ⟨hattempt, rfl⟩, beq_iff_eq.mp hneeds.2, hfor⟩

theorem ScanEffect.recovers (hcat : s.catalog.Sound)
    (h : ScanRows env request hooks s s' requeued fenced leases traces) :
    s.catalog.Recovers (scanScope env request.ownerid) s'.catalog := by
  intro taskoid
  rw [h.appends.view_eq taskoid]
  have hqueues (row : QueueRow) (hrow : row ∈ (requeued ++ fenced).filter (·.taskoid == taskoid)) :
      row ∈ requeued ++ fenced ∧ row.taskoid = taskoid := by
    rwa [List.mem_filter, beq_iff_eq] at hrow
  have hleases (row : LeaseRow) (hrow : row ∈ leases.filter (·.taskoid == taskoid)) :
      row ∈ leases ∧ row.taskoid = taskoid := by
    rwa [List.mem_filter, beq_iff_eq] at hrow
  cases htask : (s.catalog.view taskoid).task with
  | none =>
    -- A row that the scan appends belongs to a task, so there is none to append here.
    have hnoqueue : (requeued ++ fenced).filter (·.taskoid == taskoid) = [] := by
      refine List.eq_nil_iff_forall_not_mem.mpr fun row hrow => ?_
      obtain ⟨hmem, rfl⟩ := hqueues row hrow
      obtain ⟨task, _, _, hsome, _⟩ := h.queue_isFor hcat hmem
      exact nomatch htask.symm.trans hsome
    have hnolease : leases.filter (·.taskoid == taskoid) = [] := by
      refine List.eq_nil_iff_forall_not_mem.mpr fun row hrow => ?_
      obtain ⟨hmem, rfl⟩ := hleases row hrow
      obtain ⟨task, hsome, _⟩ := h.lease_isFor hcat hmem
      exact nomatch htask.symm.trans hsome
    rw [hnoqueue, hnolease, List.append_nil, List.append_nil]
  | some task =>
    refine .trans (recovers_queues htask fun row hrow => ?_) (@recovers_leases _
      { s.catalog.view taskoid with queues := (s.catalog.view taskoid).queues ++
          (requeued ++ fenced).filter (·.taskoid == taskoid) } task htask
      (leases.filter (·.taskoid == taskoid)) fun row hrow => ?_)
    · obtain ⟨hmem, rfl⟩ := hqueues row hrow
      obtain ⟨owner, attemptoid, origin, hsome, hscope, hrest⟩ := h.queue_isFor hcat hmem
      obtain rfl := Option.some.inj (htask.symm.trans hsome)
      exact ⟨hscope, attemptoid, origin, hrest⟩
    · obtain ⟨hmem, rfl⟩ := hleases row hrow
      obtain ⟨owner, hsome, hrest⟩ := h.lease_isFor hcat hmem
      obtain rfl := Option.some.inj (htask.symm.trans hsome)
      exact hrest

theorem qxRecoveryRunStartupScan_recovers (hcat : s.catalog.Sound)
    (h : (qxRecoveryRunStartupScan env request hooks).Returns s journal report) :
    s.catalog.Recovers (scanScope env request.ownerid) (replay s journal).catalog := by
  obtain ⟨requeued, fenced, leases, traces, heffect⟩ := qxRecoveryRunStartupScan_returns hcat h
  exact ScanEffect.recovers hcat heffect

theorem qxRecoveryRunFailoverRebuild_recovers {request : FailoverRequest} (hcat : s.catalog.Sound)
    (h : (qxRecoveryRunFailoverRebuild env request hooks).Returns s journal report) :
    s.catalog.Recovers (scanScope env request.ownerid) (replay s journal).catalog := by
  unfold qxRecoveryRunFailoverRebuild at h
  have hrec := qxRecoveryRunStartupScan_recovers hcat h
  exact hrec

lemma qxRuntimeEnsureStartupRecoveryScan_returns
    (h : (qxRuntimeEnsureStartupRecoveryScan env ownerid).Returns s journal u) :
    (s.recoverySnapshot = some (effectiveOwner env ownerid) ∧ journal = []) ∨
      (s.recoverySnapshot ≠ some (effectiveOwner env ownerid) ∧
        ∃ scanned report, (qxRecoveryRunStartupScan env
            (startupRequest (effectiveOwner env ownerid)) startupHooks).Returns s scanned report ∧
          journal = scanned ++ [.rememberStartupRecovery (effectiveOwner env ownerid)]) := by
  unfold qxRuntimeEnsureStartupRecoveryScan at h
  dsimp only at h
  replace h := returns_read_bind_iff.mp h
  split at h
  · rename_i hknown
    exact .inl ⟨hknown, (returns_pure_iff.mp h).1⟩
  · rename_i hunknown
    obtain ⟨scanned, report, rest, hscan, h, hr⟩ := returns_bind_iff.mp h
    rw [returns_record_iff.mp h] at hr
    exact .inr ⟨hunknown, scanned, report, hscan, hr⟩

/-- The owners whose tasks the first command of a backend recovers; none if the backend already
knows that it has recovered them. -/
def startupScope (env : Env) (ownerid : Oid) (s : Backend) (taskOwner : Oid) : Prop :=
  s.recoverySnapshot ≠ some (effectiveOwner env ownerid) ∧
    scanScope env (effectiveOwner env ownerid) taskOwner

theorem qxRuntimeEnsureStartupRecoveryScan_recovers (hcat : s.catalog.Sound)
    (h : (qxRuntimeEnsureStartupRecoveryScan env ownerid).Returns s journal u) :
    s.catalog.Recovers (startupScope env ownerid s) (replay s journal).catalog := by
  rcases qxRuntimeEnsureStartupRecoveryScan_returns h with
    ⟨-, rfl⟩ | ⟨hunknown, scanned, report, hscan, rfl⟩
  · exact .refl _
  · rw [replay_append]
    have hrec := qxRecoveryRunStartupScan_recovers hcat hscan
    exact hrec.mono fun taskOwner howner => ⟨hunknown, howner⟩

/-- A transaction that recovers first and then takes one task through its life. -/
def RecoversThenEvolves (env : Env) (ownerid : Oid) (inputs : Inputs) (s : Backend)
    (journal : List Action) (moved : Oid) : Prop :=
  ∃ scanned, (qxRuntimeEnsureStartupRecoveryScan env ownerid).Returns s scanned () ∧
    (replay s scanned).catalog.Evolves inputs (replay s journal).catalog ∧
    (replay s journal).recoverySnapshot = (replay s scanned).recoverySnapshot ∧
    (∀ other, other ≠ moved →
      (replay s journal).catalog.view other = (replay s scanned).catalog.view other) ∧
    scanned <+: journal

end scan

end QhapaqXian
