import QhapaqXian.Proofs.Reach

/-!
# Leases of running attempts

A running task whose last attempt is running is under supervision: every lease of that attempt is
held. Only the fence of a recovery scan breaks this, because it reclaims the lease and leaves the
task and the attempt as they are.
-/

namespace QhapaqXian

open Library Script Txn

variable {task : TaskRow}

/-- The last attempt of a task is running, and so is the task. -/
structure TaskView.Runs (view : TaskView) (task : TaskRow) (last : AttemptRow) : Prop where
  current : ∃ earlier, view.Current task earlier last
  state : task.state = .running
  running : last.state = .running

/-- Every lease belongs to an attempt of the task, and a running last attempt has leases, all of
them held. -/
structure TaskView.Supervised (view : TaskView) : Prop where
  known : ∀ lease ∈ view.leases, lease.attemptoid ∈ view.attempts.map AttemptRow.oid
  leased : ∀ task last, view.Runs task last → ∃ lease ∈ view.leases, lease.attemptoid = last.oid
  held : ∀ task last, view.Runs task last → ∀ lease ∈ view.leases, lease.attemptoid = last.oid →
    lease.state = .held ∧ lease.ownerid = task.ownerid

namespace TaskView.Supervised

variable {view view' : TaskView}

lemma of_empty : empty.Supervised where
  known _ h := nomatch h
  leased _ _ h := nomatch h.current.choose_spec.task_eq
  held _ _ h := nomatch h.current.choose_spec.task_eq

lemma of_state (htask : view.task = some task) (hstate : task.state ≠ .running)
    (hknown : ∀ lease ∈ view.leases, lease.attemptoid ∈ view.attempts.map AttemptRow.oid) :
    view.Supervised := by
  have hidle : ∀ task' last, ¬view.Runs task' last := by
    intro task' last hruns
    obtain ⟨earlier, hcurrent⟩ := hruns.current
    have hsame := hcurrent.task_eq
    rw [htask] at hsame
    exact hstate (Option.some.inj hsame ▸ hruns.state)
  exact ⟨hknown, fun task' last hruns => absurd hruns (hidle task' last),
    fun task' last hruns => absurd hruns (hidle task' last)⟩

lemma of_fresh {attempt : AttemptRow} {lease : LeaseRow} {ownerid : Oid} (h : view.Supervised)
    (hfresh : attempt.oid ∉ view.attempts.map AttemptRow.oid)
    (hlease : lease.IsFor attempt.oid ownerid .held) (htask : view'.task = some task)
    (howner : task.ownerid = ownerid) (hattempts : view'.attempts = view.attempts ++ [attempt])
    (hleases : view'.leases = view.leases ++ [lease]) : view'.Supervised := by
  have hlast : ∀ task' last, view'.Runs task' last → task' = task ∧ last = attempt := by
    intro task' last hruns
    obtain ⟨earlier, hcurrent⟩ := hruns.current
    have hsame := hcurrent.task_eq
    rw [htask] at hsame
    have happend := hcurrent.attempts_eq
    rw [hattempts] at happend
    exact ⟨(Option.some.inj hsame).symm,
      (List.singleton_inj.mp (List.append_inj_right' happend rfl)).symm⟩
  refine ⟨?_, ?_, ?_⟩
  · intro other hother
    rw [hleases] at hother
    rw [hattempts, List.map_append]
    rcases List.mem_append.mp hother with hold | hnew
    · exact List.mem_append_left _ (h.known other hold)
    · rw [List.mem_singleton.mp hnew, hlease.attemptoid]
      exact List.mem_append_right _ (List.mem_singleton.mpr rfl)
  · intro task' last hruns
    obtain ⟨rfl, rfl⟩ := hlast task' last hruns
    rw [hleases]
    exact ⟨lease, List.mem_append_right _ (List.mem_singleton.mpr rfl), hlease.attemptoid⟩
  · intro task' last hruns other hother hattempt
    obtain ⟨rfl, rfl⟩ := hlast task' last hruns
    rw [hleases] at hother
    rcases List.mem_append.mp hother with hold | hnew
    · exact absurd (hattempt ▸ h.known other hold) hfresh
    · rw [List.mem_singleton.mp hnew, howner]
      exact ⟨hlease.state, hlease.ownerid⟩

lemma of_settled {task' : TaskRow} {earlier : List AttemptRow} {last : AttemptRow}
    {state : AttemptState} {leases : List LeaseRow} (h : view.Supervised)
    (hcurrent : view.Current task earlier last) (htask : view'.task = some task')
    (hstate : task'.state ≠ .running)
    (hattempts : view'.attempts = earlier ++ [last.setState state])
    (hleases : view'.leases = view.leases ++ leases)
    (hlast : ∀ lease ∈ leases, lease.attemptoid = last.oid) : view'.Supervised := by
  have hoids : view'.attempts.map AttemptRow.oid = view.attempts.map AttemptRow.oid := by
    rw [hattempts, hcurrent.attempts_eq, List.map_append, List.map_append]
    rfl
  refine of_state htask hstate fun lease hlease => ?_
  rw [hoids]
  rw [hleases] at hlease
  rcases List.mem_append.mp hlease with hold | hnew
  · exact h.known lease hold
  · rw [hlast lease hnew]
    exact List.mem_map_of_mem hcurrent.last_mem

end TaskView.Supervised

namespace TaskStep

variable {inputs : Inputs} {view view' : TaskView}

theorem supervised (h : TaskStep inputs view view') (hview : view.Supervised) :
    view'.Supervised := by
  cases h with
  | launch _ _ _ _ _ _ _ _ _ _ _ hlease =>
    exact TaskView.Supervised.of_empty.of_fresh List.not_mem_nil hlease rfl rfl rfl rfl
  | capture hcurrent _ _ _ _ _ _ hlease =>
    refine hview.of_settled hcurrent rfl nofun rfl rfl fun other hother => ?_
    rw [List.mem_singleton.mp hother]
    exact hlease.attemptoid
  | reopen _ _ _ hfollows _ _ _ hlease =>
    exact hview.of_fresh hfollows.fresh hlease rfl rfl rfl rfl
  | @resume _ _ _ _ attempt _ _ _ _ held released _ _ _ _ _ _ _ _ _ _ _ hheld hreleased =>
    refine .of_state rfl nofun fun other hother => ?_
    rw [List.map_append]
    rcases List.mem_append.mp hother with hold | hnew
    · exact List.mem_append_left _ (hview.known other hold)
    · refine List.mem_append_right _ (List.mem_singleton.mpr ?_)
      rcases List.mem_pair.mp hnew with rfl | rfl
      · exact hheld
      · exact hreleased
  | retry _ _ _ _ hfollows _ _ _ hlease =>
    exact hview.of_fresh hfollows.fresh hlease rfl rfl rfl rfl
  | @renew _ lease renewed hlease _ hrenewed =>
    have hruns : ∀ {task last},
        TaskView.Runs { view with leases := view.leases ++ [renewed] } task last →
          view.Runs task last := by
      rintro task last ⟨⟨earlier, hcurrent⟩, hstate, hrunning⟩
      exact ⟨⟨earlier, hcurrent.task_eq, hcurrent.attempts_eq, hcurrent.last_eq⟩, hstate, hrunning⟩
    refine ⟨fun other hother => ?_, fun task last hlast => ?_,
      fun task last hlast other hother hattempt => ?_⟩
    · rcases List.mem_append.mp hother with hold | hnew
      · exact hview.known other hold
      · rw [List.mem_singleton.mp hnew, hrenewed.attemptoid]
        exact hview.known lease hlease
    · obtain ⟨other, hother, hattempt⟩ := hview.leased task last (hruns hlast)
      exact ⟨other, List.mem_append_left _ hother, hattempt⟩
    · rcases List.mem_append.mp hother with hold | hnew
      · exact hview.held task last (hruns hlast) other hold hattempt
      · rw [List.mem_singleton.mp hnew] at hattempt ⊢
        refine ⟨hrenewed.state, hrenewed.ownerid.trans ?_⟩
        exact (hview.held task last (hruns hlast) lease hlease
          (hrenewed.attemptoid.symm.trans hattempt)).2
  | repair hcurrent _ _ _ _ hlease =>
    refine hview.of_settled hcurrent rfl nofun rfl rfl fun other hother => ?_
    rw [List.mem_singleton.mp hother]
    exact hlease
  | failClosed hcurrent _ _ _ _ hleases =>
    exact hview.of_settled hcurrent rfl nofun rfl rfl hleases
  | deadLetter hcurrent =>
    exact hview.of_settled hcurrent rfl nofun rfl (List.append_nil _).symm nofun

end TaskStep

lemma recoversSteps_of_not_scope {scope : Oid → Prop} {view view' : TaskView}
    (htask : view.task = some task) (hscope : ¬scope task.ownerid)
    (h : Relation.ReflTransGen (RecoveryStep scope) view view') : view' = view := by
  induction h with
  | refl => rfl
  | tail _ hstep ih =>
    subst ih
    cases hstep with
    | enqueue hsome hin =>
      obtain rfl := Option.some.inj (htask.symm.trans hsome)
      exact absurd hin hscope
    | fence hsome hin =>
      obtain rfl := Option.some.inj (htask.symm.trans hsome)
      exact absurd hin hscope

lemma RecoveryStep.known {scope : Oid → Prop} {view view' : TaskView}
    (h : RecoveryStep scope view view')
    (hview : ∀ lease ∈ view.leases, lease.attemptoid ∈ view.attempts.map AttemptRow.oid) :
    ∀ lease ∈ view'.leases, lease.attemptoid ∈ view'.attempts.map AttemptRow.oid := by
  cases h with
  | enqueue => exact hview
  | fence _ _ hattempt _ hlease =>
    intro other hother
    rcases List.mem_append.mp hother with hold | hnew
    · exact hview other hold
    · rw [List.mem_singleton.mp hnew, hlease.attemptoid]
      exact List.mem_map_of_mem hattempt

/-- A command that recovers the tasks of an owner comes when no task of that owner is running an
attempt. -/
def sparesRunning (world : World) (event : Event) : Prop :=
  ∀ taskoid task last, (world.catalog.view taskoid).Runs task last →
    ¬event.command.scope event.env (world.backend event.backend) task.ownerid

namespace World

variable {world : World} {event : Event}

lemma next_supervised (hcat : world.catalog.Sound)
    (h : ∀ taskoid, (world.catalog.view taskoid).Supervised) (hspares : sparesRunning world event)
    (taskoid : Oid) : ((world.next event).catalog.view taskoid).Supervised := by
  obtain ⟨mid, hrecovers, hevolves⟩ := next_stages hcat event
  refine hevolves.invariant TaskStep.supervised (fun taskoid => ?_) taskoid
  have hknown := hrecovers.invariant RecoveryStep.known (fun taskoid => (h taskoid).known) taskoid
  have hmid := hrecovers.view_eq taskoid
  by_cases hruns : ∃ task last, (world.catalog.view taskoid).Runs task last
  · obtain ⟨task, last, hruns⟩ := hruns
    obtain ⟨earlier, hcurrent⟩ := hruns.current
    rw [recoversSteps_of_not_scope hcurrent.task_eq (fun hscope =>
      hspares taskoid task last hruns hscope.2) (hrecovers taskoid)]
    exact h taskoid
  · have hidle : ∀ task last, ¬(mid.view taskoid).Runs task last := by
      rintro task last ⟨⟨earlier, hcurrent⟩, hstate, hrunning⟩
      rw [hmid] at hcurrent
      exact hruns ⟨task, last, ⟨earlier, hcurrent.task_eq, hcurrent.attempts_eq, hcurrent.last_eq⟩,
        hstate, hrunning⟩
    exact ⟨hknown, fun task last hlast => absurd hlast (hidle task last),
      fun task last hlast => absurd hlast (hidle task last)⟩

end World

/-- In a run whose recovery scans spare the owners of running attempts, the latest lease of a
running attempt of a running task is held. -/
theorem running_attempt_lease_held {agents : Table AgentRow} {world : World}
    (h : World.Leads sparesRunning (.initial agents) world) {taskoid : Oid} {task : TaskRow}
    {attempt : AttemptRow} (htask : world.catalog.lookupTaskByOid taskoid = some task)
    (hstate : task.state = .running)
    (hattempt : world.catalog.lookupAttemptByOid task.lastattemptid = some attempt)
    (hrunning : attempt.state = .running) :
    ∃ lease, world.catalog.lookupLatestSchedulerLease task.ownerid taskoid attempt.oid =
      some lease ∧ lease.state = .held := by
  have hinitial : (World.initial agents).Reachable := ⟨agents, .refl⟩
  have hsupervised : ∀ taskoid, (world.catalog.view taskoid).Supervised := by
    clear htask hattempt
    induction h with
    | refl => exact fun taskoid => .of_empty
    | tail hrun hstep ih =>
      obtain ⟨event, hspares, rfl⟩ := hstep
      exact World.next_supervised (hinitial.leads hrun).sound ih hspares
  obtain ⟨earlier, last, hcurrent⟩ := ((hinitial.leads h).sound taskoid).current task htask
  have hlast : last = attempt := by
    obtain ⟨hmem, hoid⟩ := Table.find?_eq_some_iff.mp hattempt
    refine Table.eq_of_ident_eq (mem_view_attempts.mp hcurrent.last_mem).1 hmem ?_
    exact (hoid.trans hcurrent.last_eq).symm
  subst hlast
  have hruns : (world.catalog.view taskoid).Runs task last := ⟨⟨earlier, hcurrent⟩, hstate, hrunning⟩
  obtain ⟨lease, hlease, hfor⟩ := (hsupervised taskoid).leased task last hruns
  have hheld := (hsupervised taskoid).held task last hruns
  unfold Catalog.lookupLatestSchedulerLease
  cases hlatest : (world.catalog.leases.rows.filter fun row => row.taskoid == taskoid &&
      row.attemptoid == last.oid && Catalog.ownerMatches task.ownerid row.ownerid).argmax
        LeaseRow.oid with
  | none =>
    obtain ⟨hmem, htaskoid⟩ := List.mem_filter.mp hlease
    have hrow := (List.argmax_eq_none.mp hlatest) ▸ List.mem_filter.mpr ⟨hmem, by
      rw [htaskoid, hfor, (hheld lease hlease hfor).2]
      simp [Catalog.ownerMatches]⟩
    cases hrow
  | some latest =>
    obtain ⟨hmem, hmatches⟩ := List.mem_filter.mp (List.argmax_mem hlatest)
    simp only [Bool.and_eq_true, beq_iff_eq] at hmatches
    refine ⟨latest, rfl, (hheld latest (List.mem_filter.mpr ⟨hmem, ?_⟩) hmatches.1.2).1⟩
    exact beq_iff_eq.mpr hmatches.1.1

/-- A client starts a task and goes away before its first checkpoint. -/
def demoAbandon : Event :=
  ⟨1, demoEnv 1000, .startUncheckpointedTask 1 "normal".toList demoAuthorization, .commit⟩

def demoAbandoned : World :=
  (World.initial demoAgents).next demoAbandon

def firstAttempt (world : World) : Option (TaskState × AttemptState × LeaseState) := do
  let task ← world.catalog.lookupTaskByOid 1
  let attempt ← world.catalog.lookupAttemptByOid task.lastattemptid
  let lease ← world.catalog.lookupLatestSchedulerLease task.ownerid 1 attempt.oid
  pure (task.state, attempt.state, lease.state)

theorem demoAbandoned_lease_held :
    ∃ task attempt lease, demoAbandoned.catalog.lookupTaskByOid 1 = some task ∧
      task.state = .running ∧
      demoAbandoned.catalog.lookupAttemptByOid task.lastattemptid = some attempt ∧
      attempt.state = .running ∧
      demoAbandoned.catalog.lookupLatestSchedulerLease task.ownerid 1 attempt.oid = some lease ∧
      lease.state = .held := by
  have hfirst : firstAttempt demoAbandoned = some (.running, .running, .held) := by decide +kernel
  simp only [firstAttempt, Option.bind_eq_bind, Option.bind_eq_some_iff, Option.pure_def,
    Option.some.injEq, Prod.mk.injEq] at hfirst
  obtain ⟨task, htask, attempt, hattempt, -, -, hstate, hrunning, -⟩ := hfirst
  have hspares : sparesRunning (.initial demoAgents) demoAbandon :=
    fun _ _ _ hruns => nomatch hruns.current.choose_spec.task_eq
  obtain ⟨lease, hlease, hheld⟩ :=
    running_attempt_lease_held (.single ⟨_, hspares, rfl⟩) htask hstate hattempt hrunning
  exact ⟨task, attempt, lease, htask, hstate, hattempt, hrunning, hlease, hheld⟩

/-- Another backend of the same user starts up, and the scheduler runs long after. -/
def demoFenced : World :=
  (World.initial demoAgents).run [demoAbandon, ⟨2, demoEnv 2000, .startupRecovery, .commit⟩,
    ⟨3, demoEnv 1000000000, .schedulerCycle ⟨0, 1, "worker".toList⟩, .commit⟩,
    ⟨3, demoEnv 2000000000, .schedulerCycle ⟨0, 1, "worker".toList⟩, .commit⟩]

/-- The fence reclaims the lease and leaves the task running, and no scheduler cycle takes it up. -/
theorem fenced_attempt_unsupervised :
    demoFenced.Reachable ∧ firstAttempt demoFenced = some (.running, .running, .reclaimed) :=
  ⟨World.reachable_run demoAgents _, by decide +kernel⟩

end QhapaqXian
