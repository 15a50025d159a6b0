import QhapaqXian.Proofs.Reach
import QhapaqXian.Proofs.Writes

/-!
# Concurrent `RESUME TASK`

Transactions that resume one checkpointed task at the same time. The check of the state and its
update are separate statements without a lock, so each transaction may act on a row that another one
has changed meanwhile.
-/

namespace QhapaqXian

open Library Script Txn

variable {journal : List Action}
variable {env : Env}

/-- What a transaction may see of a task before it has its own attempt: the task is checkpointed at
an attempt, or another transaction has completed it, and that attempt keeps its number. -/
structure Resumable (taskoid lastoid : Oid) (seqno : Int) (s : Backend) : Prop where
  attempt : ∃ attempt, s.catalog.lookupAttemptByOid lastoid = some attempt ∧ attempt.seqno = seqno
  task : ∃ task, s.catalog.lookupTaskByOid taskoid = some task ∧
    (task.state = .checkpointed ∧ task.lastattemptid = lastoid ∨ task.state = .completed)

lemma Action.IsRecovery.rows_apply {action : Action} (h : action.IsRecovery) (s : Backend) :
    (Replay.apply s action).catalog.tasks = s.catalog.tasks ∧
      (Replay.apply s action).catalog.attempts = s.catalog.attempts := by
  cases action <;> first | exact ⟨rfl, rfl⟩ | exact h.elim

lemma rows_replay_recovery (h : ∀ action ∈ journal, action.IsRecovery) (s : Backend) :
    (replay s journal).catalog.tasks = s.catalog.tasks ∧
      (replay s journal).catalog.attempts = s.catalog.attempts := by
  induction journal generalizing s with
  | nil => exact ⟨rfl, rfl⟩
  | cons action actions ih =>
    obtain ⟨htasks, hattempts⟩ := (h action List.mem_cons_self).rows_apply s
    obtain ⟨htasks', hattempts'⟩ :=
      ih (fun other hother => h other (List.mem_cons_of_mem _ hother)) (Replay.apply s action)
    exact ⟨htasks'.trans htasks, hattempts'.trans hattempts⟩

section claims

variable {taskoid lastoid : Oid} {seqno : Int}

lemma Resumable.replay {s : Backend} (h : Resumable taskoid lastoid seqno s)
    (hrec : ∀ action ∈ journal, action.IsRecovery) :
    Resumable taskoid lastoid seqno (Library.replay s journal) := by
  obtain ⟨htasks, hattempts⟩ := rows_replay_recovery hrec s
  refine ⟨?_, ?_⟩
  · rw [Catalog.lookupAttemptByOid, hattempts]
    exact h.attempt
  · rw [Catalog.lookupTaskByOid, htasks]
    exact h.task

lemma ensures_catalog : Txn.catalog.Ensures (Resumable taskoid lastoid seqno) Action.IsRecovery
    fun cat => ∃ s, Resumable taskoid lastoid seqno s ∧ cat = s.catalog :=
  ensures_bind ensures_read fun s hs => ensures_pure ⟨s, hs, rfl⟩

lemma checkResumable_ensures (label : Option CString) (ownerid : Oid) :
    (checkResumable env taskoid label ownerid).Ensures (Resumable taskoid lastoid seqno)
      Action.IsRecovery fun result => result.1.lastattemptid = lastoid := by
  unfold checkResumable
  refine ensures_bind ensures_catalog ?_
  rintro cat ⟨s, hs, rfl⟩
  refine ensures_bind ensures_expect fun task htask => ?_
  refine ensures_bind ensures_require fun _ _ => ?_
  refine ensures_bind ensures_require fun _ hstate => ?_
  have hlast : task.lastattemptid = lastoid := by
    obtain ⟨row, hrow, hcase⟩ := hs.task
    obtain rfl := Option.some.inj (hrow.symm.trans htask)
    rcases hcase with ⟨-, hlast⟩ | hdone
    · exact hlast
    · rw [beq_iff_eq] at hstate
      exact nomatch hstate.symm.trans hdone
  refine ensures_bind ensures_require fun _ _ => ?_
  refine ensures_bind (ensures_of_emits ?_) fun checkpoint _ => ?_
  · exact emits_bind emits_catalog fun _ => emits_expect _ _
  · exact ensures_bind ensures_require fun _ _ => ensures_pure hlast

lemma nextAttemptSeqno_ensures {task : TaskRow} (hlast : task.lastattemptid = lastoid)
    (hvalid : oidIsValid lastoid = true) :
    (nextAttemptSeqno task).Ensures (Resumable taskoid lastoid seqno) Action.IsRecovery
      fun next => next = wrapInt16 (seqno + 1) := by
  rw [nextAttemptSeqno, if_pos (hlast ▸ hvalid)]
  have hlookup : (lookupAttempt task.lastattemptid).Ensures (Resumable taskoid lastoid seqno)
      Action.IsRecovery fun attempt => attempt.seqno = seqno := by
    refine ensures_bind ensures_catalog ?_
    rintro cat ⟨s, hs, rfl⟩
    obtain ⟨attempt, hattempt, hseqno⟩ := hs.attempt
    rw [hlast, hattempt]
    exact hseqno
  refine ensures_bind hlookup fun attempt hseqno => ensures_pure ?_
  rw [hseqno]

def TakesNext (taskoid : Oid) (seqno : Int) (action : Action) : Prop :=
  action.uniqueKey = some (.attempt taskoid (wrapInt16 (seqno + 1)))

lemma insertAttempt_claims {row : AttemptRow} (htask : row.taskoid = taskoid)
    (hseqno : row.seqno = wrapInt16 (seqno + 1)) :
    (insertAttempt env row).Claims (Resumable taskoid lastoid seqno) Action.IsRecovery
      (TakesNext taskoid seqno) := by
  unfold insertAttempt
  refine claims_bind (ensures_of_emits (emits_newOid _)) fun oid _ => ?_
  refine claims_bind (ensures_of_emits emits_catalog) fun cat _ => ?_
  refine claims_bind ensures_require fun _ _ => ?_
  refine .inl ?_
  rw [TakesNext, ← htask, ← hseqno]
  rfl

/-- A resumed task cannot be completed without the number that follows its last attempt. -/
theorem resumeTask_claims {stmt : ResumeTaskStmt} (htask : stmt.taskoid = taskoid)
    (hvalid : oidIsValid lastoid = true) :
    (resumeTask env stmt).Claims (Resumable taskoid lastoid seqno) Action.IsRecovery
      (TakesNext taskoid seqno) := by
  unfold resumeTask qxPlanResumeTask qxRuntimeResumeTask
  rw [htask]
  refine claims_bind (P := fun _ => True) ?_ fun label _ => ?_
  · refine ensures_bind (checkResumable_ensures _ _) fun result _ => ?_
    refine ensures_bind (ensures_of_emits ?_) fun _ _ => ensures_pure trivial
    exact qxValidateAgentPlanCapabilities_emits _
  · refine claims_bind (checkResumable_ensures _ _) ?_
    rintro ⟨task, checkpoint⟩ hlast
    refine claims_bind (nextAttemptSeqno_ensures hlast hvalid) fun next hnext => ?_
    refine claims_bind ensures_require fun _ _ => ?_
    refine claims_bind
      (ensures_of_emits (qxRuntimeEnsureStartupRecoveryScan_emits _)) fun _ _ => ?_
    exact claims_bind_left (insertAttempt_claims rfl hnext)

end claims

section contest

variable {ι : Type} {cat : Catalog} {taskoid : Oid} {task : TaskRow} {earlier : List AttemptRow}
  {last : AttemptRow}

lemma resumable_of_current (hcurrent : (cat.view taskoid).Current task earlier last)
    (hstate : task.state = .checkpointed) (snapshot : Option Oid) :
    Resumable taskoid last.oid last.seqno ⟨cat, snapshot⟩ where
  attempt := ⟨last, lookupAttempt_of_mem hcurrent.last_mem, rfl⟩
  task := ⟨task, hcurrent.task_eq, .inl ⟨hstate, hcurrent.last_eq⟩⟩

lemma completes_of_resumes {snapshot : Option Oid} {ownerid : Oid} {agents : Table AgentRow}
    (hcurrent : (cat.view taskoid).Current task earlier last)
    (h : Resumes env ⟨cat, snapshot⟩ taskoid ownerid agents journal) :
    (cat.view taskoid).Completes last
      ((replay (⟨cat, snapshot⟩ : Backend) journal).catalog.view taskoid) := by
  obtain ⟨task', earlier', last', hcurrent', -, hcompletes⟩ := h.completes
  have hattempts := hcurrent.attempts_eq.symm.trans hcurrent'.attempts_eq
  have hlast := List.append_inj_right' hattempts rfl
  rw [List.singleton_inj] at hlast
  exact hlast ▸ hcompletes

lemma resumable_of_completes {s : Backend}
    (hcurrent : (cat.view taskoid).Current task earlier last)
    (h : (cat.view taskoid).Completes last (s.catalog.view taskoid)) (snapshot : Option Oid) :
    Resumable taskoid last.oid last.seqno ⟨s.catalog, snapshot⟩ := by
  obtain ⟨attempt, hattempts, -⟩ := h.attempts
  obtain ⟨done, hdone, hstate⟩ := h.state
  have hmem : last ∈ (s.catalog.view taskoid).attempts := by
    rw [hattempts]
    exact List.mem_append_left _ hcurrent.last_mem
  exact ⟨⟨last, lookupAttempt_of_mem hmem, rfl⟩, done, hdone, .inr hstate⟩

lemma holdsKey_of_completes {s : Backend}
    (h : (cat.view taskoid).Completes last (s.catalog.view taskoid)) :
    s.catalog.holdsKey (.attempt taskoid (wrapInt16 (last.seqno + 1))) = true := by
  obtain ⟨attempt, hattempts, hseqno⟩ := h.attempts
  rw [Catalog.holdsKey, Bool.not_eq_true', ← Bool.not_eq_true, attemptKeyFree_iff, not_not,
    hattempts, ← hseqno]
  exact List.mem_map_of_mem (List.mem_append_right _ (List.mem_singleton.mpr rfl))

/-- Transactions that resume one task contend for the number after its last attempt. -/
theorem resume_contest (hcat : cat.Sound) (hcurrent : (cat.view taskoid).Current task earlier last)
    (hstate : task.state = .checkpointed) (snapshots : ι → Option Oid) (envs : ι → Env)
    (stmts : ι → ResumeTaskStmt) (hstmts : ∀ i, (stmts i).taskoid = taskoid) :
    Contest (sharedCatalog snapshots) cat (fun i => resumeTask (envs i) (stmts i))
      (.attempt taskoid (wrapInt16 (last.seqno + 1))) (Resumable taskoid last.oid last.seqno)
      Action.IsRecovery := by
  have hcompletes : ∀ i result written,
      (resumeTask (envs i) (stmts i)).Returns ⟨cat, snapshots i⟩ written result →
      (cat.view taskoid).Completes last
        ((replay (⟨cat, snapshots i⟩ : Backend) written).catalog.view taskoid) := by
    intro i result written hreturns
    have hresumes := resumeTask_returns cat.agents hcat hreturns
    rw [hstmts i] at hresumes
    exact completes_of_resumes hcurrent hresumes
  refine ⟨fun i => ?_, fun i journal hrec => ?_, fun i result written hreturns => ?_,
    fun i result written hreturns j journal hrec => ?_⟩
  · refine resumeTask_claims (hstmts i) ?_
    exact oidIsValid_of_mem_attempts (List.mem_map_of_mem hcurrent.last_mem)
  · exact (resumable_of_current hcurrent hstate (snapshots i)).replay hrec
  · exact holdsKey_of_completes (hcompletes i result written hreturns)
  · exact (resumable_of_completes hcurrent (hcompletes i result written hreturns)
      (snapshots j)).replay hrec

/-- Of any number of transactions that resume one checkpointed task at most one commits. Once it
has, the task is completed, and no other transaction has set it to running. -/
theorem concurrent_resume_commits_once [DecidableEq ι] {world : World} (h : world.Reachable)
    (htask : world.catalog.lookupTaskByOid taskoid = some task)
    (hstate : task.state = .checkpointed) (snapshots : ι → Option Oid) (envs : ι → Env)
    (stmts : ι → ResumeTaskStmt) (hstmts : ∀ i, (stmts i).taskoid = taskoid)
    {sys : System ι Catalog Backend Action QxError Oid}
    (hleads : (sharedCatalog snapshots).Leads
      (.initial world.catalog fun i => resumeTask (envs i) (stmts i)) sys) :
    (∀ i j, sys.threads i = .committed → sys.threads j = .committed → i = j) ∧
    ∀ i, sys.threads i = .committed →
      (∃ done, sys.store.lookupTaskByOid taskoid = some done ∧ done.state = .completed) ∧
      ∀ j rest journal, sys.threads j = .active rest journal → ∀ lastattemptid lastcheckpointid,
        .updateTaskRuntime taskoid .running lastattemptid lastcheckpointid ∉ journal := by
  obtain ⟨earlier, last, hcurrent⟩ := (h.sound taskoid).current task htask
  have hcontest := resume_contest h.sound hcurrent hstate snapshots envs stmts hstmts
  refine ⟨fun i j hi hj => hcontest.commits_unique hleads hi hj, fun i hi => ?_⟩
  rcases hcontest.outcome hleads with hopen | ⟨winner, hclosed⟩
  · exact absurd hi (hopen.not_committed i)
  obtain ⟨result, written, hreturns, hstore⟩ := hclosed.result
  constructor
  · have hresumes := resumeTask_returns world.catalog.agents h.sound hreturns
    rw [hstmts winner] at hresumes
    rw [hstore]
    exact (completes_of_resumes hcurrent hresumes).state
  · intro j rest journal hj lastattemptid lastcheckpointid hmem
    have hne : j ≠ winner := by
      rintro rfl
      exact nomatch hclosed.committed.symm.trans hj
    have hwaiting := hclosed.others j hne
    rw [hj] at hwaiting
    exact hwaiting.2 _ hmem

end contest

/-! ## Two backends -/

def demoCheckpointed : World :=
  (World.initial demoAgents).run [⟨1, demoEnv 1000, demoRunTask, .commit⟩]

/-- The first of two backends stops after it has checked the task, and the second one runs to its
end. -/
def demoSchedule : List Bool :=
  List.replicate 10 false ++ List.replicate 60 true

def demoContention : System Bool Catalog Backend Action QxError Oid :=
  demoSchedule.foldl (sharedCatalog fun _ => none).advance
    (.initial demoCheckpointed.catalog fun _ => resumeTask (demoEnv 2000) ⟨1, none⟩)

theorem demoContention_commits_once :
    (demoContention.threads true).isCommitted = true ∧
    (∃ done, demoContention.store.lookupTaskByOid 1 = some done ∧ done.state = .completed) ∧
    demoContention.threads false ≠ .committed := by
  have hcommitted : (demoContention.threads true).isCommitted = true := by decide +kernel
  have hstate : (demoCheckpointed.catalog.lookupTaskByOid 1).map TaskRow.state =
      some .checkpointed := by decide +kernel
  obtain ⟨task, htask, hstate⟩ := Option.map_eq_some_iff.mp hstate
  have hleads : (sharedCatalog fun _ => none).Leads
      (.initial demoCheckpointed.catalog fun _ => resumeTask (demoEnv 2000) ⟨1, none⟩)
      demoContention := Shared.advance_all_leads _ demoSchedule _
  obtain ⟨hunique, hdone⟩ := concurrent_resume_commits_once
    (World.reachable_run demoAgents [⟨1, demoEnv 1000, demoRunTask, .commit⟩]) htask hstate
    (fun _ => none) (fun _ => demoEnv 2000) (fun _ => ⟨1, none⟩) (fun _ => rfl) hleads
  refine ⟨hcommitted, (hdone true (isCommitted_iff.mp hcommitted)).1, fun hfalse => ?_⟩
  exact Bool.noConfusion (hunique false true hfalse (isCommitted_iff.mp hcommitted))

end QhapaqXian
