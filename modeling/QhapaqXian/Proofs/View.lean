import QhapaqXian.Library.Rows
import QhapaqXian.Lifecycle

/-!
# What the writes of a transaction do to the view of a task

Each function that writes the catalogs has one lemma here: the journal it leaves, and the view of
every task afterwards.
-/

namespace QhapaqXian

open Library Script Txn

variable {action : Action} {s : Backend} {seqno : Int} {row : LeaseRow} {journal : List Action}
  {attemptoid oid queueoid taskoid : Oid} {name : String} {view : TaskView} {β : Type} {u : Unit}

/-- The unique indexes accept what the action inserts. -/
def Action.Admitted (cat : Catalog) : Action → Prop
  | .insertTask row => cat.tasks.Admits row
  | .insertAttempt row => cat.attempts.Admits row
  | .insertStep row => cat.steps.Admits row
  | .insertCheckpoint row => cat.checkpoints.Admits row
  | .insertSchedulerQueue row => cat.queues.Admits row
  | .insertSchedulerLease row => cat.leases.Admits row
  | .insertSchedulerHeartbeat row => cat.heartbeats.Admits row
  | .insertTrace row => cat.traces.Admits row
  | _ => True

section view

variable {cat : Catalog} {taskoid : Oid}

/-- The view of a task moves with the actions of the transaction. -/
theorem view_apply (h : action.Admitted cat) :
    (cat.apply action).view taskoid = (cat.view taskoid).apply taskoid action := by
  cases action with
  | insertTask row =>
    simp only [Catalog.apply, Catalog.view, TaskView.apply, Catalog.lookupTaskByOid]
    rw [Table.find?_insert h, show ident row = row.oid from rfl]
    split <;> rfl
  | updateTaskRuntime oid state lastattemptid lastcheckpointid =>
    simp only [Catalog.apply, Catalog.view, TaskView.apply, Catalog.lookupTaskByOid]
    rw [Table.find?_modify]
    split <;> rfl
  | chargeTaskBudget charge =>
    simp only [Catalog.apply, Catalog.view, TaskView.apply, Catalog.lookupTaskByOid]
    rw [Table.find?_modify, List.filter_append]
    split
    · rename_i hcharge
      rw [List.filter_cons_of_pos (by simp [hcharge]), List.filter_nil]
    · rename_i hcharge
      rw [List.filter_cons_of_neg (by simp [hcharge]), List.filter_nil, List.append_nil]
  | insertAttempt row =>
    simp only [Catalog.apply, Catalog.view, TaskView.apply]
    rw [Table.filter_insert h AttemptRow.taskoid]
    split <;> rfl
  | updateAttemptState attemptoid state =>
    simp only [Catalog.apply, Catalog.view, TaskView.apply]
    rw [Table.filter_modify (AttemptRow.ident_setState state) AttemptRow.taskoid fun _ => rfl]
    rfl
  | insertStep row =>
    simp only [Catalog.apply, Catalog.view, TaskView.apply]
    rw [Table.filter_insert h StepRow.taskoid]
    split <;> rfl
  | insertCheckpoint row =>
    simp only [Catalog.apply, Catalog.view, TaskView.apply]
    rw [Table.filter_insert h CheckpointRow.taskoid]
    split <;> rfl
  | insertSchedulerQueue row =>
    simp only [Catalog.apply, Catalog.view, TaskView.apply]
    rw [Table.filter_insert h QueueRow.taskoid]
    split <;> rfl
  | insertSchedulerLease row =>
    simp only [Catalog.apply, Catalog.view, TaskView.apply]
    rw [Table.filter_insert h LeaseRow.taskoid]
    split <;> rfl
  | insertSchedulerHeartbeat row => rfl
  | insertTrace row => rfl
  | rememberStartupRecovery ownerid => rfl
  | forgetStartupRecovery => rfl
  | executeToolContract taskoid phase contract => rfl
  | emitSemanticCheckpoint record => rfl
  | reportSchedulerEvent event => rfl

end view

namespace TaskView

/-- What the view of a task must look like for an action of its own transaction. -/
def Permits (view : TaskView) : Action → Prop
  | .chargeTaskBudget charge => ∃ task, view.task = some task ∧ task.Affords [charge]
  | .insertAttempt row => row.oid ≠ invalidOid ∧ row.oid ∉ view.attempts.map AttemptRow.oid ∧
      row.seqno ∉ view.attempts.map AttemptRow.seqno
  | .insertStep row => row.seqno ∉ view.steps.map StepRow.seqno
  | .insertCheckpoint row =>
      row.oid ≠ invalidOid ∧ row.oid ∉ view.checkpoints.map CheckpointRow.oid
  | _ => True

/-- Each action of a list finds a view that permits it. -/
def PermitsAll (taskoid : Oid) : TaskView → List Action → Prop
  | _, [] => True
  | view, action :: actions => view.Permits action ∧ (view.apply taskoid action).PermitsAll taskoid actions

lemma permitsAll_append {first second : List Action} :
    view.PermitsAll taskoid (first ++ second) ↔ view.PermitsAll taskoid first ∧
      (first.foldl (TaskView.apply taskoid) view).PermitsAll taskoid second := by
  induction first generalizing view with
  | nil => simp [PermitsAll]
  | cons action actions ih =>
    simp only [List.cons_append, PermitsAll, List.foldl_cons, ih, and_assoc]

end TaskView

/-- The action leaves the attempts of every task alone. -/
def Action.keepsAttempts : Action → Bool
  | .insertAttempt _ | .updateAttemptState .. => false
  | _ => true

lemma TaskView.attempts_foldl (h : journal.all Action.keepsAttempts) :
    (journal.foldl (TaskView.apply taskoid) view).attempts = view.attempts := by
  induction journal generalizing view with
  | nil => rfl
  | cons action actions ih =>
    rw [List.all_cons, Bool.and_eq_true] at h
    rw [List.foldl_cons, ih h.2]
    cases action <;> simp only [Action.keepsAttempts, Bool.false_eq_true, false_and] at h <;>
      simp only [TaskView.apply] <;> first | rfl | split <;> rfl

/-- A journal moves one task and leaves every other task alone. -/
structure Moves (s : Backend) (taskoid : Oid) (journal : List Action) : Prop where
  self : (replay s journal).catalog.view taskoid =
    journal.foldl (TaskView.apply taskoid) (s.catalog.view taskoid)
  permitted : (s.catalog.view taskoid).PermitsAll taskoid journal
  other : ∀ other, other ≠ taskoid →
    (replay s journal).catalog.view other = s.catalog.view other
  snapshot : (replay s journal).recoverySnapshot = s.recoverySnapshot

namespace Moves

variable {s : Backend} {taskoid : Oid} {first second : List Action}

lemma mem_attempts {attemptoid : Oid} (h : Moves s taskoid first)
    (hkeeps : first.all Action.keepsAttempts = true)
    (hmem : attemptoid ∈ (s.catalog.view taskoid).attempts.map AttemptRow.oid) :
    attemptoid ∈ ((replay s first).catalog.view taskoid).attempts.map AttemptRow.oid := by
  rwa [h.self, TaskView.attempts_foldl hkeeps]

lemma nil (s : Backend) (taskoid : Oid) : Moves s taskoid [] :=
  ⟨rfl, trivial, fun _ _ => rfl, rfl⟩

lemma append (h : Moves s taskoid first) (h' : Moves (replay s first) taskoid second) :
    Moves s taskoid (first ++ second) where
  self := by rw [replay_append, h'.self, h.self, List.foldl_append]
  permitted := TaskView.permitsAll_append.mpr ⟨h.permitted, h.self ▸ h'.permitted⟩
  other other hne := by rw [replay_append, h'.other other hne, h.other other hne]
  snapshot := by rw [replay_append, h'.snapshot, h.snapshot]

end Moves

def Action.target : Action → Option Oid
  | .insertTask row => some row.oid
  | .updateTaskRuntime taskoid .. => some taskoid
  | .chargeTaskBudget charge => some charge.taskoid
  | .insertAttempt row => some row.taskoid
  | .insertStep row => some row.taskoid
  | .insertCheckpoint row => some row.taskoid
  | .insertSchedulerQueue row => some row.taskoid
  | .insertSchedulerLease row => some row.taskoid
  | _ => none

lemma TaskView.apply_of_target_ne {other : Oid} (h : action.target = some taskoid)
    (hne : other ≠ taskoid) :
    view.apply other action = view := by
  cases action <;> simp only [Action.target, Option.some.injEq, reduceCtorEq] at h <;>
    subst h <;> exact if_neg (Ne.symm hne)

lemma moves_apply (h : action.Admitted s.catalog) (ht : action.target = some taskoid)
    (hp : (s.catalog.view taskoid).Permits action) :
    Moves s taskoid [action] where
  self := view_apply h
  permitted := ⟨hp, trivial⟩
  other _ hne := (view_apply h).trans (TaskView.apply_of_target_ne ht hne)
  snapshot := by cases action <;> first | rfl | cases ht

lemma returns_catalog_bind_iff {f : Catalog → Txn β} {b : β} :
    (Txn.catalog >>= f).Returns s journal b ↔ (f s.catalog).Returns s journal b := by
  have hcat : ∀ first cat, Txn.catalog.Returns s first cat ↔ first = [] ∧ cat = s.catalog := by
    intro first cat
    unfold Txn.catalog
    rw [returns_read_bind_iff, returns_pure_iff]
  rw [returns_bind_of_silent (hcat _ _)]
  simp only [exists_eq_left]

lemma returns_newOid_bind_iff {env : Env} {rel : QxRelation} {f : Oid → Txn β} {b : β} :
    (newOid env rel >>= f).Returns s journal b ↔
      (f (env.oids.next rel (s.catalog.usedOids rel))).Returns s journal b := by
  have hnew : ∀ first oid, (newOid env rel).Returns s first oid ↔
      first = [] ∧ oid = env.oids.next rel (s.catalog.usedOids rel) := by
    intro first oid
    unfold newOid
    rw [returns_catalog_bind_iff, returns_pure_iff]
  rw [returns_bind_of_silent (hnew _ _)]
  simp only [exists_eq_left]

lemma returns_check_bind_iff {condition : Bool} {errcode : ErrCode} {errmsg : String}
    {f : Unit → Txn β} {b : β} :
    (check condition errcode errmsg >>= f).Returns s journal b ↔
      condition = true ∧ (f ()).Returns s journal b :=
  returns_require_bind_iff

lemma returns_found_bind_iff {α : Type} {value : Option α} {errcode : ErrCode} {errmsg : String}
    {f : α → Txn β} {b : β} :
    (found value errcode errmsg >>= f).Returns s journal b ↔
      ∃ a, value = some a ∧ (f a).Returns s journal b :=
  returns_expect_bind_iff

section writes

variable {env : Env} {s : Backend} {journal : List Action}

lemma admits_next (env : Env) (rel : QxRelation) {ρ : Type} [Identified ρ] {table : Table ρ}
    {row : ρ} (hrow : ident row = env.oids.next rel table.idents) : table.Admits row := by
  refine ⟨?_, ?_⟩
  · rw [hrow]
    exact env.oids.next_valid rel table.idents
  · rw [hrow]
    exact env.oids.next_fresh rel table.idents

lemma lookupTask_returns {task : TaskRow} (h : (lookupTask taskoid).Returns s journal task) :
    journal = [] ∧ (s.catalog.view taskoid).task = some task := by
  unfold lookupTask at h
  rw [returns_catalog_bind_iff] at h
  exact returns_expect_iff.mp h

lemma lookupAttempt_returns {attempt : AttemptRow}
    (h : (lookupAttempt attemptoid).Returns s journal attempt) :
    journal = [] ∧ s.catalog.lookupAttemptByOid attemptoid = some attempt := by
  unfold lookupAttempt at h
  rw [returns_catalog_bind_iff] at h
  exact returns_expect_iff.mp h

lemma lookupCheckpoint_returns {checkpointoid : Oid} {checkpoint : CheckpointRow}
    (h : (lookupCheckpoint checkpointoid).Returns s journal checkpoint) :
    journal = [] ∧ s.catalog.lookupCheckpointByOid checkpointoid = some checkpoint := by
  unfold lookupCheckpoint at h
  rw [returns_catalog_bind_iff] at h
  exact returns_expect_iff.mp h

lemma notMem_map_filter {ρ : Type} [Identified ρ] {table : Table ρ} {p : ρ → Bool}
    (h : oid ∉ table.idents) : oid ∉ (table.rows.filter p).map ident := by
  intro hmem
  obtain ⟨row, hrow, rfl⟩ := List.mem_map.mp hmem
  exact h (List.mem_map_of_mem (List.mem_filter.mp hrow).1)

lemma attemptKeyFree_iff {cat : Catalog} :
    attemptKeyFree cat taskoid seqno = true ↔
      seqno ∉ (cat.view taskoid).attempts.map AttemptRow.seqno :=
  keyFree_iff

lemma stepKeyFree_iff {cat : Catalog} :
    stepKeyFree cat taskoid seqno = true ↔
      seqno ∉ (cat.view taskoid).steps.map StepRow.seqno :=
  keyFree_iff

lemma insertTask_returns {row : TaskRow} (h : (insertTask env row).Returns s journal oid) :
    oid ∉ s.catalog.taskOids ∧ ∃ stored, stored = { row with oid := oid } ∧
      journal = [.insertTask stored] ∧ Moves s oid journal := by
  unfold insertTask at h
  rw [returns_newOid_bind_iff, returns_record_bind_iff] at h
  obtain ⟨rest, h, rfl⟩ := h
  obtain ⟨rfl, rfl⟩ := returns_pure_iff.mp h
  have hadmits : s.catalog.tasks.Admits
      { row with oid := env.oids.next .task s.catalog.tasks.idents } :=
    admits_next env .task rfl
  exact ⟨hadmits.2, _, rfl, rfl, moves_apply hadmits rfl trivial⟩

lemma insertAttempt_returns {row : AttemptRow} (h : (insertAttempt env row).Returns s journal oid) :
    ∃ stored, stored = { row with oid := oid } ∧ journal = [.insertAttempt stored] ∧
      Moves s row.taskoid journal := by
  unfold insertAttempt at h
  rw [returns_newOid_bind_iff, returns_catalog_bind_iff, returns_require_bind_iff,
    returns_record_bind_iff] at h
  obtain ⟨hfree, rest, h, rfl⟩ := h
  obtain ⟨rfl, rfl⟩ := returns_pure_iff.mp h
  have hadmits : s.catalog.attempts.Admits
      { row with oid := env.oids.next .attempt s.catalog.attempts.idents } :=
    admits_next env .attempt rfl
  exact ⟨_, rfl, rfl, moves_apply hadmits rfl
    ⟨hadmits.1, notMem_map_filter hadmits.2, attemptKeyFree_iff.mp hfree⟩⟩

lemma insertStep_returns {sessionoid : Oid}
    (h : (insertStep env sessionoid taskoid seqno name).Returns s journal oid) :
    ∃ stored : StepRow, stored.taskoid = taskoid ∧ stored.seqno = seqno ∧
      journal = [.insertStep stored] ∧ Moves s taskoid journal := by
  unfold insertStep at h
  rw [returns_newOid_bind_iff, returns_catalog_bind_iff, returns_require_bind_iff,
    returns_record_bind_iff] at h
  obtain ⟨hfree, rest, h, rfl⟩ := h
  obtain ⟨rfl, rfl⟩ := returns_pure_iff.mp h
  have hadmits : s.catalog.steps.Admits
      ⟨env.oids.next .step s.catalog.steps.idents, sessionoid, taskoid, seqno, name⟩ :=
    admits_next env .step rfl
  exact ⟨⟨_, sessionoid, taskoid, seqno, name⟩, rfl, rfl, rfl,
    moves_apply hadmits rfl (stepKeyFree_iff.mp hfree)⟩

lemma insertCheckpoint_returns {row : CheckpointRow}
    (h : (insertCheckpoint env row).Returns s journal oid) :
    ∃ stored : CheckpointRow, stored.oid = oid ∧ stored.taskoid = row.taskoid ∧
      stored.nextStepSeqno = row.nextStepSeqno ∧ journal = [.insertCheckpoint stored] ∧
      Moves s row.taskoid journal := by
  unfold insertCheckpoint at h
  rw [returns_newOid_bind_iff, returns_record_bind_iff] at h
  obtain ⟨rest, h, rfl⟩ := h
  obtain ⟨rfl, rfl⟩ := returns_pure_iff.mp h
  have hadmits : s.catalog.checkpoints.Admits
      { row with
        oid := env.oids.next .checkpoint s.catalog.checkpoints.idents, lsn := env.lsn } :=
    admits_next env .checkpoint rfl
  exact ⟨{ row with oid := _, lsn := env.lsn }, rfl, rfl, rfl, rfl,
    moves_apply hadmits rfl ⟨hadmits.1, notMem_map_filter hadmits.2⟩⟩

lemma insertSchedulerQueue_returns {row : QueueRow}
    (h : (insertSchedulerQueue env row).Returns s journal oid) :
    ∃ stored, stored = { row with oid := oid } ∧ journal = [.insertSchedulerQueue stored] ∧
      s.catalog.queues.Admits stored ∧
      Moves s row.taskoid journal := by
  unfold insertSchedulerQueue at h
  rw [returns_newOid_bind_iff, returns_record_bind_iff] at h
  obtain ⟨rest, h, rfl⟩ := h
  obtain ⟨rfl, rfl⟩ := returns_pure_iff.mp h
  have hadmits : s.catalog.queues.Admits
      { row with oid := env.oids.next .schedulerQueue s.catalog.queues.idents } :=
    admits_next env .schedulerQueue rfl
  exact ⟨_, rfl, rfl, hadmits, moves_apply hadmits rfl trivial⟩

lemma insertSchedulerLease_returns
    (h : (insertSchedulerLease env queueoid row).Returns s journal oid) :
    ∃ stored, stored = { row with oid := oid, queueoid := queueoid } ∧
      journal = [.insertSchedulerLease stored] ∧ s.catalog.leases.Admits stored ∧
      Moves s row.taskoid journal := by
  unfold insertSchedulerLease at h
  rw [returns_newOid_bind_iff, returns_record_bind_iff] at h
  obtain ⟨rest, h, rfl⟩ := h
  obtain ⟨rfl, rfl⟩ := returns_pure_iff.mp h
  have hadmits : s.catalog.leases.Admits
      { row with
      oid := env.oids.next .schedulerLease s.catalog.leases.idents, queueoid := queueoid } :=
    admits_next env .schedulerLease rfl
  exact ⟨_, rfl, rfl, hadmits, moves_apply hadmits rfl trivial⟩

lemma insertSchedulerLease_oid (h : (insertSchedulerLease env queueoid row).Returns s journal oid) :
    oid = env.oids.next .schedulerLease s.catalog.leases.idents := by
  unfold insertSchedulerLease at h
  rw [returns_newOid_bind_iff, returns_record_bind_iff] at h
  obtain ⟨rest, h, -⟩ := h
  exact (returns_pure_iff.mp h).2

lemma updateTaskRuntime_returns {state : TaskState} {lastattemptid lastcheckpointid : Option Oid}
    (h : (updateTaskRuntime taskoid state lastattemptid lastcheckpointid).Returns s journal u) :
    journal = [.updateTaskRuntime taskoid state lastattemptid lastcheckpointid] ∧
      Moves s taskoid journal := by
  unfold updateTaskRuntime at h
  rw [returns_bind_iff] at h
  obtain ⟨first, task, rest, hlookup, h, rfl⟩ := h
  obtain ⟨rfl, -⟩ := lookupTask_returns hlookup
  obtain rfl := returns_record_iff.mp h
  exact ⟨rfl, moves_apply trivial rfl trivial⟩

lemma chargeTaskBudget_returns {tokens cost : Int}
    (h : (chargeTaskBudget taskoid tokens cost name).Returns s journal u) :
    journal = [.chargeTaskBudget ⟨taskoid, tokens, cost, name⟩] ∧
      Moves s taskoid journal := by
  unfold chargeTaskBudget at h
  rw [returns_bind_iff] at h
  obtain ⟨first, task, rest, hlookup, h, rfl⟩ := h
  obtain ⟨rfl, htask⟩ := lookupTask_returns hlookup
  simp only [replay_nil, returns_require_bind_iff, returns_record_iff] at h
  obtain ⟨htokens, hcost, rfl⟩ := h
  exact ⟨rfl, moves_apply trivial rfl ⟨task, htask, htokens, hcost, trivial⟩⟩

lemma updateAttemptState_returns {state : AttemptState}
    (hattempt : attemptoid ∈ (s.catalog.view taskoid).attempts.map AttemptRow.oid)
    (h : (updateAttemptState attemptoid state).Returns s journal u) :
    journal = [.updateAttemptState attemptoid state] ∧
      Moves s taskoid journal := by
  unfold updateAttemptState at h
  rw [returns_bind_iff] at h
  obtain ⟨first, attempt, rest, hlookup, h, rfl⟩ := h
  obtain ⟨rfl, -⟩ := lookupAttempt_returns hlookup
  obtain rfl := returns_record_iff.mp h
  obtain ⟨row, hrow, hoid⟩ := List.mem_map.mp hattempt
  obtain ⟨hrow, htask⟩ := List.mem_filter.mp hrow
  have hview : ∀ other, ((replay s [Action.updateAttemptState attemptoid state]).catalog).view
      other = (s.catalog.view other).apply other (.updateAttemptState attemptoid state) :=
    fun other => view_apply trivial
  refine ⟨rfl, hview taskoid, ⟨trivial, trivial⟩, fun other hne => (hview other).trans ?_, rfl⟩
  -- Two rows with this identifier are one row, and that row belongs to the other task.
  have hmap : ((s.catalog.view other).attempts.map fun row =>
      if row.oid = attemptoid then row.setState state else row) =
      (s.catalog.view other).attempts := by
    refine Table.rows_modify_of_notMem fun row' hrow' hident => hne ?_
    obtain ⟨hrow', htask'⟩ := List.mem_filter.mp hrow'
    have heq := Table.eq_of_ident_eq hrow' hrow (hident.trans hoid.symm)
    rw [← beq_iff_eq.mp htask', heq, beq_iff_eq.mp htask]
  simp only [TaskView.apply, hmap]

/-- Actions that neither a view nor the recovery snapshot shows. -/
def Action.Unseen : Action → Prop
  | .insertSchedulerHeartbeat _ | .insertTrace _ | .executeToolContract ..
  | .emitSemanticCheckpoint _ | .reportSchedulerEvent _ => True
  | _ => False

lemma moves_of_unseen (h : action.Admitted s.catalog) (hunseen : action.Unseen) :
    Moves s taskoid [action] := by
  have hview : ∀ other, (Replay.apply s action).catalog.view other = s.catalog.view other := by
    intro other
    refine (view_apply h).trans ?_
    cases action <;> first | rfl | exact hunseen.elim
  refine ⟨?_, ⟨?_, trivial⟩, fun other _ => hview other, ?_⟩
  · cases action <;> first | exact hview taskoid | exact hunseen.elim
  · cases action <;> trivial
  · cases action <;> first | rfl | exact hunseen.elim

lemma insertSchedulerHeartbeat_returns {leaseoid : Oid} {row : HeartbeatRow}
    (h : (insertSchedulerHeartbeat env leaseoid row).Returns s journal u) :
    ∃ beat, s.catalog.heartbeats.Admits beat ∧ journal = [.insertSchedulerHeartbeat beat] ∧
      ∀ taskoid, Moves s taskoid journal := by
  unfold insertSchedulerHeartbeat at h
  rw [returns_newOid_bind_iff, returns_record_iff] at h
  subst h
  have hadmits : s.catalog.heartbeats.Admits
      { row with
        oid := env.oids.next .schedulerHeartbeat s.catalog.heartbeats.idents
        leaseoid := leaseoid } :=
    admits_next env .schedulerHeartbeat rfl
  exact ⟨_, hadmits, rfl, fun taskoid => moves_of_unseen hadmits trivial⟩

lemma insertTrace_returns {row : TraceRow} (h : (insertTrace env row).Returns s journal u) :
    ∃ oid, s.catalog.traces.Admits { row with oid := oid } ∧
      journal = [.insertTrace { row with oid := oid }] ∧ ∀ taskoid, Moves s taskoid journal := by
  unfold insertTrace at h
  rw [returns_newOid_bind_iff, returns_record_iff] at h
  subst h
  have hadmits : s.catalog.traces.Admits
      { row with oid := env.oids.next .trace s.catalog.traces.idents } :=
    admits_next env .trace rfl
  exact ⟨_, hadmits, rfl, fun taskoid => moves_of_unseen hadmits trivial⟩

lemma insertTrace_moves {row : TraceRow} (h : (insertTrace env row).Returns s journal u) :
    ∃ trace, journal = [.insertTrace trace] ∧ ∀ taskoid, Moves s taskoid journal := by
  obtain ⟨oid, -, hj, hmoves⟩ := insertTrace_returns h
  exact ⟨_, hj, hmoves⟩

lemma replay_append_report (s : Backend) (journal : List Action) (event : SchedulerEvent) :
    replay s (journal ++ [.reportSchedulerEvent event]) = replay s journal := by
  rw [replay_append]
  rfl

lemma reportSchedulerEvent_returns {event : SchedulerEvent}
    (h : (record (.reportSchedulerEvent event) : Txn Unit).Returns s journal u) :
    journal = [.reportSchedulerEvent event] ∧ ∀ taskoid, Moves s taskoid journal := by
  rw [returns_record_iff] at h
  subst h
  exact ⟨rfl, fun taskoid => moves_of_unseen trivial trivial⟩

end writes

section emits

variable {env : Env} {P : Action → Prop}

lemma emits_catalog : Txn.catalog.Emits P :=
  emits_bind emits_read fun _ => emits_pure _

lemma emits_newOid (rel : QxRelation) : (newOid env rel).Emits P :=
  emits_bind emits_catalog fun _ => emits_pure _

lemma emits_lookupTask (taskoid : Oid) : (lookupTask taskoid).Emits P :=
  emits_bind emits_catalog fun _ => emits_expect _ _

lemma emits_lookupAttempt (attemptoid : Oid) : (lookupAttempt attemptoid).Emits P :=
  emits_bind emits_catalog fun _ => emits_expect _ _

lemma emits_lookupCheckpoint (checkpointoid : Oid) : (lookupCheckpoint checkpointoid).Emits P :=
  emits_bind emits_catalog fun _ => emits_expect _ _

lemma emits_insertSchedulerLease
    (h : ∀ oid, P (.insertSchedulerLease { row with oid := oid, queueoid := queueoid })) :
    (insertSchedulerLease env queueoid row).Emits P :=
  emits_bind (emits_newOid _) fun _ => emits_bind (emits_record (h _)) fun _ => emits_pure _

end emits

end QhapaqXian
