import QhapaqXian.Proofs.Reach
import QhapaqXian.Proofs.Writes

/-!
# What the commands report

The blocks of the runtime report a scheduler event exactly if they write a row for it.
-/

namespace QhapaqXian

open Library Script Txn

variable {env : Env} {s : Backend} {journal : List Action}

/-! ## Blocks -/

/-- The action writes no heartbeat and no trace, and it reports nothing. -/
def Action.Quiet : Action → Prop
  | .insertSchedulerHeartbeat _ | .insertTrace _ | .reportSchedulerEvent _ => False
  | _ => True

/-- The rows that record an event have grown by the reports of the event. -/
def Balanced (s : Backend) (journal : List Action) : Prop :=
  ∀ event, (replay s journal).catalog.eventRows event =
    s.catalog.eventRows event + journal.countP (·.reported = some event)

lemma sequential_balanced : Sequential Balanced where
  nil s event := rfl
  append {s first second} hfirst hsecond event := by
    rw [replay_append, hsecond event, hfirst event, List.countP_append, Nat.add_assoc]

lemma balanced_of_quiet (h : ∀ action ∈ journal, action.Quiet) : Balanced s journal := by
  induction journal generalizing s with
  | nil => exact sequential_balanced.nil s
  | cons action actions ih =>
    have hfirst : Balanced s [action] := by
      intro event
      have hquiet := h action List.mem_cons_self
      cases action <;> first | rfl | exact hquiet.elim
    have hrest : Balanced (replay s [action]) actions :=
      ih fun other hother => h other (List.mem_cons_of_mem _ hother)
    exact sequential_balanced.append hfirst hrest

lemma keeps_balanced_of_quiet {α : Type} {x : Txn α} (h : x.Emits Action.Quiet) (s : Backend) :
    x.Keeps Balanced s :=
  fun _ _ hreturns => balanced_of_quiet (h.mem_returns hreturns)

lemma insertSchedulerHeartbeat_stores {leaseoid : Oid} {row : HeartbeatRow} {u : Unit}
    (h : (insertSchedulerHeartbeat env leaseoid row).Returns s journal u) :
    ∃ stored : HeartbeatRow, s.catalog.heartbeats.Admits stored ∧
      stored.receiptMode = row.receiptMode ∧
      journal = [.insertSchedulerHeartbeat stored] := by
  unfold insertSchedulerHeartbeat at h
  rw [returns_newOid_bind_iff, returns_record_iff] at h
  refine ⟨_, ?_, ?_, h⟩
  · exact admits_next env .schedulerHeartbeat rfl
  · rfl

lemma eventRows_insertHeartbeat {row : HeartbeatRow} (h : s.catalog.heartbeats.Admits row)
    (event : SchedulerEvent) :
    (replay s [Action.insertSchedulerHeartbeat row]).catalog.eventRows event =
      s.catalog.eventRows event + if receiptModeEvent row.receiptMode = some event then 1 else 0 := by
  change (s.catalog.heartbeats.insert row).rows.countP _ + s.catalog.traces.rows.countP _ = _
  rw [Table.rows_insert h, List.countP_append, List.countP_singleton, Catalog.eventRows]
  simp only [decide_eq_true_eq]
  omega

lemma eventRows_insertTrace {row : TraceRow} (h : s.catalog.traces.Admits row)
    (event : SchedulerEvent) :
    (replay s [Action.insertTrace row]).catalog.eventRows event =
      s.catalog.eventRows event + if traceNameEvent row.name = some event then 1 else 0 := by
  change s.catalog.heartbeats.rows.countP _ + (s.catalog.traces.insert row).rows.countP _ = _
  rw [Table.rows_insert h, List.countP_append, List.countP_singleton, Catalog.eventRows]
  simp only [decide_eq_true_eq]
  omega

lemma insertTrace_balanced {row : TraceRow} : (insertTrace env row).Keeps Balanced s := by
  intro journal _ hreturns event
  obtain ⟨oid, hadmits, rfl, -⟩ := insertTrace_returns hreturns
  rw [eventRows_insertTrace hadmits, List.countP_singleton]
  simp only [decide_eq_true_eq]
  rfl

lemma RuntimeBlock.balanced {calls : Oid → ToolPhase → Option CString → Prop} {n : Nat} {α : Type}
    {x : Txn α} (h : RuntimeBlock env calls n α x) (s : Backend) : x.Keeps Balanced s := by
  cases h with
  | plain h =>
    refine keeps_balanced_of_quiet (h.mono fun action hplain => ?_) s
    cases action <;> trivial
  | trace h => exact insertTrace_balanced
  | beat h =>
    intro journal _ hreturns event
    obtain ⟨stored, hadmits, hevent, rfl⟩ := insertSchedulerHeartbeat_stores hreturns
    rw [eventRows_insertHeartbeat hadmits, hevent, h]
    rfl
  | reportedBeat h =>
    intro journal _ hreturns event
    obtain ⟨first, _, rest, rfl, ⟨stored, hadmits, hevent, rfl⟩, hreport⟩ :=
      returns_bind_of insertSchedulerHeartbeat_stores hreturns
    obtain rfl := returns_record_iff.mp hreport
    rw [replay_append_report, eventRows_insertHeartbeat hadmits, hevent, h, List.countP_append,
      List.countP_singleton, List.countP_singleton]
    simp only [decide_eq_true_eq]
    rw [show (Action.insertSchedulerHeartbeat stored).reported = none from rfl]
    simp only [reduceCtorEq, if_false, Nat.zero_add]
    rfl
  | execute h =>
    exact keeps_balanced_of_quiet (by simp [qxExecuteToolContract, found, Action.Quiet]) s
  | checkpoint =>
    exact keeps_balanced_of_quiet (emits_bind (emits_newOid _) fun _ => by simp [Action.Quiet]) s

/-! ## Recovery -/

lemma qxRuntimeRecoveryReplayCheckpoint_balanced (summary : CheckpointSummary) :
    (qxRuntimeRecoveryReplayCheckpoint env summary).Keeps Balanced s := by
  unfold qxRuntimeRecoveryReplayCheckpoint
  split
  · refine keeps_silent_bind (emits_lookupCheckpoint _) fun _ checkpoint _ => ?_
    refine keeps_bind sequential_balanced (keeps_balanced_of_quiet ?_ s) fun _ _ _ =>
      insertTrace_balanced
    exact emits_record trivial
  · exact keeps_pure sequential_balanced _

lemma qxRecoveryRunStartupScan_balanced {request : StartupRequest} {hooks : RecoveryHooks}
    (hfence : attemptsToFence s.catalog env request hooks = []) :
    (qxRecoveryRunStartupScan env request hooks).Keeps Balanced s := by
  intro journal report h
  unfold qxRecoveryRunStartupScan at h
  replace h := returns_catalog_bind_iff.mp h
  dsimp only at h
  rw [hfence] at h
  refine keeps_bind sequential_balanced (keeps_balanced_of_quiet
    (emits_fold (qxRuntimeRecoveryRequeueTask_emits fun _ => trivial) _ _) s) ?_ journal report h
  intro _ _ _
  refine keeps_bind sequential_balanced (keeps_pure sequential_balanced _) fun _ _ _ => ?_
  refine keeps_bind sequential_balanced (keeps_fold sequential_balanced
    (fun _ summary _ => qxRuntimeRecoveryReplayCheckpoint_balanced summary) _ _) fun _ _ _ => ?_
  exact keeps_silent_bind (emits_require _ _) fun _ _ _ => keeps_pure sequential_balanced _

lemma qxRuntimeEnsureStartupRecoveryScan_balanced {ownerid : Oid}
    (hfence : s.recoverySnapshot ≠ some (effectiveOwner env ownerid) →
      attemptsToFence s.catalog env (startupRequest (effectiveOwner env ownerid)) startupHooks = []) :
    (qxRuntimeEnsureStartupRecoveryScan env ownerid).Keeps Balanced s := by
  intro journal u h
  unfold qxRuntimeEnsureStartupRecoveryScan at h
  replace h := returns_read_bind_iff.mp h
  dsimp only at h
  split at h
  · exact keeps_pure sequential_balanced _ journal u h
  · rename_i hsnapshot
    refine keeps_bind sequential_balanced (qxRecoveryRunStartupScan_balanced (hfence hsnapshot))
      (fun scanned _ _ rest _ hrecord => ?_) journal u h
    rw [returns_record_iff.mp hrecord]
    exact fun event => rfl

/-! ## Commands -/

def Command.fenced (env : Env) (s : Backend) : Command → List AttemptSummary
  | .runTask .. | .resumeTask _ | .startUncheckpointedTask .. | .startExhaustedRetryTask .. =>
    if s.recoverySnapshot = some (effectiveOwner env env.userid) then []
    else
      attemptsToFence s.catalog env (startupRequest (effectiveOwner env env.userid)) startupHooks
  | .startupRecovery =>
    attemptsToFence s.catalog env (startupRequest (effectiveOwner env env.userid)) startupHooks
  | .failoverRebuild =>
    attemptsToFence s.catalog env
      (FailoverRequest.toStartup ⟨env.userid, true, true, true, true, true⟩) ⟨true, true, true⟩
  | _ => []

lemma userScan_balanced
    (hfence : (if s.recoverySnapshot = some (effectiveOwner env env.userid) then []
      else attemptsToFence s.catalog env (startupRequest (effectiveOwner env env.userid))
        startupHooks) = []) :
    (userScan env).Keeps Balanced s := by
  refine qxRuntimeEnsureStartupRecoveryScan_balanced fun hsnapshot => ?_
  rwa [if_neg hsnapshot] at hfence

lemma blockwise_balanced {n : Nat} {α : Type} {x : Txn α}
    (h : Blockwise env (fun _ _ _ => True) n x) : (x >>= fun _ => pure ()).Keeps Balanced s :=
  Built.keeps sequential_balanced (fun _ _ _ => RuntimeBlock.balanced)
    (h.bind_last fun _ => .pure ()) s

/-- A command that renews and fences nothing behind the collector's back reports what it
writes. -/
theorem Command.script_balanced (command : Command) (htick : command.ticks = false)
    (hfence : command.fenced env s = []) : (command.script env).Keeps Balanced s := by
  have hopened (hrebuilds : command.rebuilds = false) (hrecovers : command ≠ .startupRecovery)
      (hscan : (userScan env).Keeps Balanced s) : (command.script env).Keeps Balanced s :=
    (Command.script_opened hrebuilds htick hrecovers).keeps sequential_balanced hscan
      fun _ _ _ => RuntimeBlock.balanced
  cases command with
  | runTask stmt authorization => exact hopened rfl (by simp) (userScan_balanced hfence)
  | resumeTask stmt => exact hopened rfl (by simp) (userScan_balanced hfence)
  | schedulerCycle slot => exact blockwise_balanced qxRuntimeRunSchedulerCycle_blocks
  | retryCycle slot =>
    exact blockwise_balanced (qxRuntimeRunSchedulerRetryCycle_blocks fun _ _ => trivial)
  | startupRecovery =>
    refine keeps_bind sequential_balanced ?_ fun journal u hforget => ?_
    · refine keeps_balanced_of_quiet ?_ s
      exact emits_record trivial
    · rw [returns_record_iff.mp hforget]
      exact qxRuntimeEnsureStartupRecoveryScan_balanced fun _ => hfence
  | failoverRebuild =>
    refine keeps_bind sequential_balanced (qxRecoveryRunStartupScan_balanced hfence) ?_
    exact fun _ _ _ => keeps_pure sequential_balanced ()
  | semanticReplay =>
    refine keeps_bind sequential_balanced (qxRecoveryRunStartupScan_balanced ?_) ?_
    · simp [attemptsToFence]
    · exact fun _ _ _ => keeps_pure sequential_balanced ()
  | startRecoveryAttempt taskoid => exact blockwise_balanced (testStartRecoveryAttempt_blocks _)
  | startUncheckpointedTask sessionoid priority authorization =>
    exact hopened rfl (by simp) (userScan_balanced hfence)
  | startExhaustedRetryTask sessionoid authorization =>
    exact hopened rfl (by simp) (userScan_balanced hfence)
  | workerTick => cases htick

def Action.Unattributed : Action → Prop
  | .insertTrace row => row.Unattributed
  | _ => True

lemma qxRuntimeRecoveryReplayCheckpoint_unattributed (summary : CheckpointSummary) :
    (qxRuntimeRecoveryReplayCheckpoint env summary).Emits Action.Unattributed := by
  unfold qxRuntimeRecoveryReplayCheckpoint
  split
  · refine emits_bind (emits_lookupCheckpoint _) fun checkpoint => ?_
    refine emits_bind (emits_record trivial) fun _ => emits_bind (emits_newOid _) fun _ => ?_
    exact emits_record (unattributed_of_name qxRecoverySemanticReplayTrace rfl (by decide))
  · exact emits_pure _

lemma qxRecoveryRunStartupScan_unattributed (request : StartupRequest) (hooks : RecoveryHooks) :
    (qxRecoveryRunStartupScan env request hooks).Emits Action.Unattributed := by
  refine scan_emits (fun action h => ?_) fun _ => qxRuntimeRecoveryReplayCheckpoint_unattributed
  cases action <;> trivial

/-- No command writes a trace that attributes a checkpoint to a runtime class. -/
theorem Command.script_unattributed (command : Command) :
    (command.script env).Emits Action.Unattributed := by
  cases hrebuilds : command.rebuilds with
  | true =>
    cases command with
    | failoverRebuild | semanticReplay =>
      exact emits_bind (qxRecoveryRunStartupScan_unattributed _ _) fun _ => emits_pure _
    | _ => cases hrebuilds
  | false =>
    refine (Command.script_fits hrebuilds).mono fun action hfits => ?_
    cases action <;> trivial

end QhapaqXian
