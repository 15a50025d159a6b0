import QhapaqXian.Proofs.Idempotence
import QhapaqXian.Proofs.Writes

/-!
# Replays of checkpoints

A checkpoint is logged when it is inserted, and a rebuild logs it once more unless a trace of its
task says that this has been done.
-/

namespace QhapaqXian

open Library Script Txn

variable {checkpoint : CheckpointRow}

def Action.insertedCheckpoint : Action → Option CheckpointRow
  | .insertCheckpoint row => some row
  | _ => none

def Action.replayedRecord : Action → Option CheckpointRecord
  | .emitSemanticCheckpoint record => some record
  | _ => none

namespace World

def committed : World → List Event → List Action
  | _, [] => []
  | world, event :: events =>
    (if world.Commits event then world.carriedOut event else []) ++
      committed (world.next event) events

/-- What the insertions log: every caller passes the metadata of the execution. -/
def originalRecords (world : World) (events : List Event) : List CheckpointRecord :=
  ((world.committed events).filterMap Action.insertedCheckpoint).map (CheckpointRow.record .v2)

def replayedRecords (world : World) (events : List Event) : List CheckpointRecord :=
  (world.committed events).filterMap Action.replayedRecord

end World

/-! ## What a journal does to checkpoints and traces -/

section journal

variable {s : Backend} {journal : List Action}

lemma traces_replay {trace : TraceRow} (h : trace ∈ s.catalog.traces.rows) :
    trace ∈ (replay s journal).catalog.traces.rows := by
  induction journal generalizing s with
  | nil => exact h
  | cons action journal ih =>
    refine ih (s := Replay.apply s action) ?_
    cases action with
    | insertTrace row => exact Table.mem_insert_of_mem h
    | _ => exact h

lemma checkpoints_replay (h : ∀ before row after,
      journal = before ++ Action.insertCheckpoint row :: after →
        (replay s before).catalog.checkpoints.Admits row) :
    (replay s journal).catalog.checkpoints.rows =
      s.catalog.checkpoints.rows ++ journal.filterMap Action.insertedCheckpoint := by
  induction journal generalizing s with
  | nil => exact (List.append_nil _).symm
  | cons action journal ih =>
    have hrest := ih (s := Replay.apply s action) fun before row after heq =>
      h (action :: before) row after (by rw [heq, List.cons_append])
    cases action with
    | insertCheckpoint row =>
      have hrows : (Replay.apply s (Action.insertCheckpoint row)).catalog.checkpoints.rows =
          s.catalog.checkpoints.rows ++ [row] := Table.rows_insert (h [] row journal rfl)
      rw [hrows, List.append_assoc] at hrest
      exact hrest
    | _ => exact hrest

lemma filterMap_replayedRecord_eq_nil (h : ∀ action ∈ journal, action.IsWork) :
    journal.filterMap Action.replayedRecord = [] := by
  refine List.filterMap_eq_nil_iff.mpr fun action haction => ?_
  have hwork := h action haction
  cases action <;> first | rfl | exact hwork.elim

lemma filterMap_insertedCheckpoint_eq_nil (h : ∀ action ∈ journal, action.IsRebuild) :
    journal.filterMap Action.insertedCheckpoint = [] := by
  refine List.filterMap_eq_nil_iff.mpr fun action haction => ?_
  have hrebuild := h action haction
  cases action <;> first | rfl | exact hrebuild.elim

lemma checkpoints_replay_of_rebuild (h : ∀ action ∈ journal, action.IsRebuild) :
    (replay s journal).catalog.checkpoints.rows = s.catalog.checkpoints.rows := by
  rw [checkpoints_replay, filterMap_insertedCheckpoint_eq_nil h, List.append_nil]
  rintro before row after rfl
  exact (h (.insertCheckpoint row) (by simp)).elim

end journal

/-! ## What a rebuild replays -/

section rebuild

variable {env : Env} {s : Backend} {journal : List Action} {request : StartupRequest}
  {hooks : RecoveryHooks}

lemma replayCheckpoints_records {cat : Catalog} {checkpoints : List CheckpointRow} {u : Unit}
    (hstored : ∀ checkpoint ∈ checkpoints, checkpoint ∈ s.catalog.checkpoints.rows)
    (h : (forEach (qxRuntimeRecoveryReplayCheckpoint env)
      (checkpoints.map (checkpointSummary cat))).Returns s journal u) :
    journal.filterMap Action.replayedRecord = checkpoints.map (CheckpointRow.record .v1) := by
  unfold forEach at h
  induction checkpoints generalizing s journal with
  | nil =>
    obtain ⟨rfl, -⟩ := returns_pure_iff.mp h
    rfl
  | cons checkpoint checkpoints ih =>
    obtain ⟨first, _, rest, hfirst, hrest, rfl⟩ := returns_bind_iff.mp h
    have hmem := hstored checkpoint List.mem_cons_self
    have hvalid : oidIsValid (checkpointSummary cat checkpoint).checkpointoid = true :=
      bne_iff_ne.mpr (s.catalog.checkpoints.valid checkpoint hmem)
    obtain ⟨found, trace, hfound, hfirst, -, happ⟩ :=
      qxRuntimeRecoveryReplayCheckpoint_returns hvalid hfirst
    have hsame : found = checkpoint :=
      Option.some.inj (hfound.symm.trans (Table.find?_eq_some_iff.mpr ⟨hmem, rfl⟩))
    have hrecords := ih (fun other hother => by
      rw [happ.checkpoints]
      exact hstored other (List.mem_cons_of_mem _ hother)) hrest
    rw [List.filterMap_append, hrecords, hfirst, hsame]
    rfl

def replayedCheckpoints (cat : Catalog) (env : Env) (request : StartupRequest)
    (hooks : RecoveryHooks) : List CheckpointRow :=
  if request.includeCheckpoints then
    (cat.buildCheckpointInfoList env (effectiveOwner env request.ownerid)).filter fun checkpoint =>
      request.rebuildFromSemanticLog && checkpoint.lsn != 0 &&
        !qxCatalogCheckpointHasSemanticReplay cat checkpoint.taskoid checkpoint.oid &&
        hooks.replayCheckpoint
  else []

lemma checkpointsToReplay_eq (cat : Catalog) (env : Env) (request : StartupRequest)
    (hooks : RecoveryHooks) : checkpointsToReplay cat env request hooks =
      (replayedCheckpoints cat env request hooks).map (checkpointSummary cat) := by
  unfold checkpointsToReplay replayedCheckpoints scannedCheckpoints
  split
  · rw [qxRecoveryBuildCheckpointSummaries, List.filter_map]
    rfl
  · rfl

lemma mem_replayedCheckpoints {cat : Catalog}
    (h : checkpoint ∈ replayedCheckpoints cat env request hooks) :
    checkpoint ∈ cat.checkpoints.rows ∧ checkpoint.lsn ≠ 0 ∧
      qxCatalogCheckpointHasSemanticReplay cat checkpoint.taskoid checkpoint.oid = false := by
  unfold replayedCheckpoints at h
  split at h
  · obtain ⟨hlisted, hflags⟩ := List.mem_filter.mp h
    simp only [Bool.and_eq_true, Bool.not_eq_true', bne_iff_ne] at hflags
    exact ⟨(mem_buildCheckpointInfoList.mp hlisted).1, hflags.1.1.2, hflags.1.2⟩
  · cases h

lemma replayedCheckpoints_nodup (cat : Catalog) :
    ((replayedCheckpoints cat env request hooks).map CheckpointRow.oid).Nodup := by
  have hscanned : ((env.scan.checkpoints cat.checkpoints.rows).map CheckpointRow.oid).Nodup :=
    ((env.scan.checkpoints_perm cat.checkpoints.rows).map CheckpointRow.oid).nodup_iff.mpr
      cat.checkpoints.nodup
  unfold replayedCheckpoints
  split
  · exact hscanned.sublist ((List.filter_sublist.trans List.filter_sublist).map _)
  · exact List.nodup_nil

lemma scan_records {report : RecoveryReport}
    (h : (qxRecoveryRunStartupScan env request hooks).Returns s journal report) :
    journal.filterMap Action.replayedRecord =
      (replayedCheckpoints s.catalog env request hooks).map (CheckpointRow.record .v1) := by
  dsimp only [qxRecoveryRunStartupScan] at h
  replace h := returns_catalog_bind_iff.mp h
  obtain ⟨_, context, _, rfl, hrequeue, h⟩ := returns_bind_of id h
  obtain ⟨_, context', _, rfl, hfence, h⟩ := returns_bind_of id h
  obtain ⟨_, _, _, rfl, hreplay, h⟩ := returns_bind_of id h
  obtain ⟨-, h⟩ := returns_require_bind_iff.mp h
  obtain ⟨rfl, -⟩ := returns_pure_iff.mp h
  have hrequeued := (emits_fold (qxRuntimeRecoveryRequeueTask_emits (P := Action.IsRecovery)
    fun _ => trivial) _ _).mem_returns hrequeue
  have hfenced := (emits_fold qxRuntimeRecoveryFenceAttempt_emits _ _).mem_returns hfence
  rw [checkpointsToReplay_eq] at hreplay
  have hrecords := replayCheckpoints_records (fun checkpoint hmem => by
    rw [checkpoints_replay_of_rebuild fun action haction => (hfenced action haction).rebuild,
      checkpoints_replay_of_rebuild fun action haction => (hrequeued action haction).rebuild]
    exact (mem_replayedCheckpoints hmem).1) hreplay
  rw [List.filterMap_append, List.filterMap_append, List.append_nil, hrecords,
    filterMap_replayedRecord_eq_nil fun action h => (hrequeued action h).work,
    filterMap_replayedRecord_eq_nil fun action h => (hfenced action h).work, List.nil_append, List.nil_append]

end rebuild

/-! ## Runs -/

lemma Command.rebuild_returns {command : Command} {env : Env} {s : Backend} {journal : List Action}
    {u : Unit} (h : command.rebuilds = true) (hreturns : (command.script env).Returns s journal u) :
    ∃ request hooks report,
      (qxRecoveryRunStartupScan env request hooks).Returns s journal report := by
  cases command with
  | failoverRebuild | semanticReplay =>
    obtain ⟨report, hscan⟩ := returns_of_discard hreturns
    exact ⟨_, _, report, hscan⟩
  | _ => cases h

/-- What a run has logged, against the catalogs it has reached. -/
structure Logged (cat : Catalog) (journal : List Action) : Prop where
  inserted : journal.filterMap Action.insertedCheckpoint = cat.checkpoints.rows
  replayed : ∀ record ∈ journal.filterMap Action.replayedRecord,
    ∃ checkpoint ∈ cat.checkpoints.rows, record = checkpoint.record .v1 ∧ checkpoint.lsn ≠ 0 ∧
      qxCatalogCheckpointHasSemanticReplay cat checkpoint.taskoid checkpoint.oid = true
  once : ((journal.filterMap Action.replayedRecord).map CheckpointRecord.recordOid).Nodup

namespace World

variable {world : World} {journal : List Action}

lemma logged_initial (agents : Table AgentRow) : Logged (initial agents).catalog [] where
  inserted := rfl
  replayed _ h := absurd h List.not_mem_nil
  once := List.nodup_nil

lemma checkpoints_carriedOut {event : Event} (hcommits : world.Commits event) :
    (replay (world.backend event.backend) (world.carriedOut event)).catalog.checkpoints.rows =
      world.catalog.checkpoints.rows ++
        (world.carriedOut event).filterMap Action.insertedCheckpoint := by
  refine checkpoints_replay (s := world.backend event.backend) fun before row after heq => ?_
  have hrun : ((event.command.script event.env).run (world.backend event.backend)).1 =
      before ++ Action.insertCheckpoint row :: after := by
    rw [← heq, carriedOut, hcommits.1]
    rfl
  exact (event.command.script_atMost (world.backend event.backend)).2.mem_run hrun rfl

lemma Logged.kept {event : Event} (h : Logged world.catalog journal)
    (hcommits : world.Commits event) {record : CheckpointRecord}
    (hrecord : record ∈ journal.filterMap Action.replayedRecord) :
    ∃ checkpoint ∈ (replay (world.backend event.backend)
        (world.carriedOut event)).catalog.checkpoints.rows,
      record = checkpoint.record .v1 ∧ checkpoint.lsn ≠ 0 ∧
        qxCatalogCheckpointHasSemanticReplay (replay (world.backend event.backend)
          (world.carriedOut event)).catalog checkpoint.taskoid checkpoint.oid = true := by
  obtain ⟨checkpoint, hcheckpoint, hsame, hlsn, hreplayed⟩ := h.replayed record hrecord
  refine ⟨checkpoint, ?_, hsame, hlsn, hasSemanticReplay_mono (fun trace htrace => ?_) hreplayed⟩
  · rw [checkpoints_carriedOut hcommits]
    exact List.mem_append_left _ hcheckpoint
  · exact traces_replay (s := world.backend event.backend) htrace

lemma replayed_of_scan {env : Env} {s : Backend} {written : List Action} {request : StartupRequest}
    {hooks : RecoveryHooks} {report : RecoveryReport} (hcat : s.catalog.Sound)
    (h : (qxRecoveryRunStartupScan env request hooks).Returns s written report)
    (hcheckpoint : checkpoint ∈ replayedCheckpoints s.catalog env request hooks) :
    qxCatalogCheckpointHasSemanticReplay (replay s written).catalog checkpoint.taskoid
      checkpoint.oid = true := by
  obtain ⟨-, requeued, fenced, leases, traces, heffect⟩ := qxRecoveryRunStartupScan_effect h
  have hmem : checkpointSummary s.catalog checkpoint ∈
      checkpointsToReplay s.catalog env request hooks := by
    rw [checkpointsToReplay_eq]
    exact List.mem_map_of_mem hcheckpoint
  obtain ⟨trace, htrace, hreplays⟩ := exists_row_of_forall₂ heffect.replay_rows hmem
  refine hasSemanticReplay_of_replays hcat (mem_replayedCheckpoints hcheckpoint).1 hreplays ?_
  rw [heffect.appends.traces]
  exact List.mem_append_right _ htrace

lemma replayed_fresh (h : Logged world.catalog journal) {env : Env} {request : StartupRequest}
    {hooks : RecoveryHooks}
    (hcheckpoint : checkpoint ∈ replayedCheckpoints world.catalog env request hooks)
    {record : CheckpointRecord} (hrecord : record ∈ journal.filterMap Action.replayedRecord) :
    record.recordOid ≠ checkpoint.oid := by
  intro heq
  obtain ⟨hmem, -, hnot⟩ := mem_replayedCheckpoints hcheckpoint
  obtain ⟨other, hother, rfl, -, hreplayed⟩ := h.replayed record hrecord
  obtain rfl : other = checkpoint := Table.eq_of_ident_eq hother hmem heq
  rw [hreplayed] at hnot
  cases hnot

theorem logged_next (hworld : world.Reachable) (h : Logged world.catalog journal)
    (event : Event) : Logged (world.next event).catalog
      (journal ++ if world.Commits event then world.carriedOut event else []) := by
  by_cases hcommits : world.Commits event
  · rw [next, if_pos hcommits]
    simp only [if_pos hcommits]
    have hreturns := returns_of_commits hcommits
    have hinserted : (journal ++ world.carriedOut event).filterMap Action.insertedCheckpoint =
        (replay (world.backend event.backend)
          (world.carriedOut event)).catalog.checkpoints.rows := by
      rw [List.filterMap_append, h.inserted, checkpoints_carriedOut hcommits]
    cases hrebuilds : event.command.rebuilds with
    | false =>
      have hnone : (world.carriedOut event).filterMap Action.replayedRecord = [] :=
        filterMap_replayedRecord_eq_nil
          ((Command.script_works hrebuilds).mem_returns hreturns)
      refine ⟨hinserted, fun record hrecord => ?_, ?_⟩
      · rw [List.filterMap_append, hnone, List.append_nil] at hrecord
        exact Logged.kept h hcommits hrecord
      · rw [List.filterMap_append, hnone, List.append_nil]
        exact h.once
    | true =>
      obtain ⟨request, hooks, report, hscan⟩ := Command.rebuild_returns hrebuilds hreturns
      have hrecords : (world.carriedOut event).filterMap Action.replayedRecord =
          (replayedCheckpoints world.catalog event.env request hooks).map
            (CheckpointRow.record .v1) := scan_records hscan
      refine ⟨hinserted, fun record hrecord => ?_, ?_⟩
      · rw [List.filterMap_append, List.mem_append, hrecords, List.mem_map] at hrecord
        rcases hrecord with hrecord | ⟨checkpoint, hcheckpoint, rfl⟩
        · exact Logged.kept h hcommits hrecord
        · obtain ⟨hmem, hlsn, -⟩ := mem_replayedCheckpoints hcheckpoint
          refine ⟨checkpoint, ?_, rfl, hlsn, replayed_of_scan hworld.sound hscan hcheckpoint⟩
          rw [checkpoints_carriedOut hcommits]
          exact List.mem_append_left _ hmem
      · rw [List.filterMap_append, List.map_append, hrecords, List.map_map]
        refine h.once.append (replayedCheckpoints_nodup world.catalog) ?_
        intro oid hold hnew
        obtain ⟨record, hrecord, rfl⟩ := List.mem_map.mp hold
        obtain ⟨checkpoint, hcheckpoint, heq⟩ := List.mem_map.mp hnew
        exact replayed_fresh h hcheckpoint hrecord heq.symm
  · rw [next, if_neg hcommits]
    simp only [if_neg hcommits, List.append_nil]
    exact h

lemma Reachable.next (h : world.Reachable) (event : Event) : (world.next event).Reachable := by
  obtain ⟨agents, hleads⟩ := h
  exact ⟨agents, hleads.tail ⟨event, trivial, rfl⟩⟩

theorem logged_run (hworld : world.Reachable) (h : Logged world.catalog journal)
    (events : List Event) :
    Logged (world.run events).catalog (journal ++ world.committed events) := by
  induction events generalizing world journal with
  | nil =>
    rw [committed, List.append_nil]
    exact h
  | cons event events ih =>
    have hrest := ih (hworld.next event) (logged_next hworld h event)
    rw [List.append_assoc] at hrest
    exact hrest

end World

/-- Over any run, a checkpoint is replayed at most once, only if it is durable and has a position in
the semantic log, and as it was logged when it was inserted. -/
theorem checkpoint_replayed_once (agents : Table AgentRow) (events : List Event) :
    (((World.initial agents).replayedRecords events).map CheckpointRecord.recordOid).Nodup ∧
      ∀ record ∈ (World.initial agents).replayedRecords events,
        (∃ checkpoint ∈ ((World.initial agents).run events).catalog.checkpoints.rows,
          checkpoint.oid = record.recordOid ∧ checkpoint.state = .durable ∧ checkpoint.lsn ≠ 0) ∧
        (∃ original ∈ (World.initial agents).originalRecords events,
          original.recordOid = record.recordOid) ∧
        ∀ original ∈ (World.initial agents).originalRecords events,
          original.recordOid = record.recordOid →
            { original with schema := record.schema } = record := by
  have hlogged : Logged ((World.initial agents).run events).catalog
      ((World.initial agents).committed events) :=
    World.logged_run ⟨agents, .refl⟩ (World.logged_initial agents) events
  have horiginals : (World.initial agents).originalRecords events =
      ((World.initial agents).run events).catalog.checkpoints.rows.map
        (CheckpointRow.record .v2) := by
    rw [World.originalRecords, hlogged.inserted]
  refine ⟨hlogged.once, fun record hrecord => ?_⟩
  obtain ⟨checkpoint, hcheckpoint, rfl, hlsn, -⟩ := hlogged.replayed record hrecord
  refine ⟨⟨checkpoint, hcheckpoint, rfl, ?_, hlsn⟩, ?_, ?_⟩
  · cases checkpoint.state
    rfl
  · rw [horiginals]
    exact ⟨checkpoint.record .v2, List.mem_map_of_mem hcheckpoint, rfl⟩
  · rw [horiginals]
    intro original horiginal heq
    obtain ⟨other, hother, rfl⟩ := List.mem_map.mp horiginal
    obtain rfl : other = checkpoint := Table.eq_of_ident_eq hother hcheckpoint heq
    rfl

-- Two rebuilds one after the other: the first one replays the checkpoint.
example : ((World.initial demoAgents).replayedRecords
    [⟨1, { demoEnv 1000 with lsn := 7 }, .runTask ⟨1, some "extract".toList, "collect".toList, none,
      some "normal".toList⟩ demoAuthorization, .commit⟩,
      ⟨2, demoEnv 2000, .failoverRebuild, .commit⟩,
      ⟨2, demoEnv 3000, .failoverRebuild, .commit⟩]).length = 1 := by
  decide +kernel

end QhapaqXian
