import QhapaqXian.Library.Runs
import QhapaqXian.Proofs.Leases
import QhapaqXian.Proofs.RetryRuns

/-!
# The lease of a running attempt under supervision

A scheduler cycle meets a running attempt through its latest lease. The first cycle that finds the
lease expired renews it and the first one that finds the renewed lease expired reclaims it.
-/

namespace QhapaqXian

open Library Script Txn

variable {last : AttemptRow} {s : Backend} {env : Env} {journal : List Action}
  {earlier : List AttemptRow} {task : TaskRow} {slot : WorkerSlot} {world : World}

/-- Each identifier is above those in use: the counter has not wrapped around. -/
def OidSource.Increasing (oids : OidSource) : Prop :=
  ∀ rel used, ∀ oid ∈ used, oid < oids.next rel used

lemma OidSource.counting_increasing : OidSource.counting.Increasing :=
  fun _ _ _ hoid => Nat.lt_succ_of_le (le_foldr_max hoid)

/-! ## Held leases need no recovery -/

lemma Command.heldFits_of_written {command : Command} {u : Unit}
    (h : (command.script env).Returns s journal u) {lease : LeaseRow}
    (hlease : Action.insertSchedulerLease lease ∈ journal) : lease.HeldFits := by
  cases hrebuilds : command.rebuilds with
  | true => exact (Command.script_rebuilds hrebuilds).mem_returns h _ hlease
  | false => exact (Command.script_works hrebuilds).mem_returns h _ hlease

lemma mem_leases_replay {lease : LeaseRow} (h : lease ∈ (replay s journal).catalog.leases.rows) :
    lease ∈ s.catalog.leases.rows ∨ Action.insertSchedulerLease lease ∈ journal := by
  induction journal generalizing s with
  | nil => exact .inl h
  | cons action actions ih =>
    rcases ih (s := Replay.apply s action) h with hold | hnew
    · cases action with
      | insertSchedulerLease row =>
        rcases Table.mem_of_mem_insert hold with hmem | rfl
        · exact .inl hmem
        · exact .inr List.mem_cons_self
      | _ => exact .inl hold
    · exact .inr (List.mem_cons_of_mem _ hnew)

/-- In a reachable world no lease is held and asks for recovery. -/
theorem World.Reachable.held_fits (h : world.Reachable) :
    ∀ lease ∈ world.catalog.leases.rows, lease.state = .held → lease.needsRecovery = false := by
  refine h.invariant (I := fun world => ∀ lease ∈ world.catalog.leases.rows,
    lease.state = .held → lease.needsRecovery = false) ?_ ?_
  · intro agents lease hlease
    cases hlease
  · intro world event hworld lease hlease
    by_cases hcommits : world.Commits event
    · rw [World.next, if_pos hcommits] at hlease
      rcases mem_leases_replay hlease with hold | hnew
      · exact hworld lease hold
      · exact Command.heldFits_of_written (World.returns_of_commits hcommits) hnew
    · rw [World.next, if_neg hcommits] at hlease
      exact hworld lease hlease

/-! ## What one cycle does to a task -/

namespace TaskView

/-- A cycle leaves the task alone, renews its lease or reclaims its attempt. -/
inductive CycleStep (env : Env) (slot : WorkerSlot) (view : TaskView) : TaskView → Prop
  | idle : CycleStep env slot view view
  | renew {task : TaskRow} {earlier : List AttemptRow} {last : AttemptRow} {lease : LeaseRow}
      (oid : Oid) (due : view.LeaseDue env.now task earlier last lease)
      (first : lease.renewalCount ≤ 0)
      (above : env.oids.Increasing → ∀ other ∈ view.leases, other.oid < oid) :
      CycleStep env slot view
        { view with
          leases := view.leases ++
            [{ qxSchedulerRenewLeaseSnapshot env.now lease (qxRuntimeLeaseTtlMs lease) with
              oid := oid, queueoid := lease.queueoid }] }
  | reclaim {task task' : TaskRow} {earlier : List AttemptRow} {last : AttemptRow}
      {lease : LeaseRow} {attemptState : AttemptState} {queue : QueueRow} (oid : Oid)
      (due : view.LeaseDue env.now task earlier last lease) (again : 0 < lease.renewalCount)
      (stopped : task'.state ≠ .running) (left : attemptState ≠ .running) :
      CycleStep env slot view
        { view with
          task := some task'
          attempts := earlier ++ [last.setState attemptState]
          queues := view.queues ++ [queue]
          leases := view.leases ++
            [{ reclaimedLease env lease slot.name with oid := oid, queueoid := queue.oid }] }

end TaskView

lemma superviseTask_cycleStep {stats stats' : CycleStats} (hsound : (s.catalog.view task.oid).Sound)
    (htask : (s.catalog.view task.oid).task = some task)
    (h : (superviseTask env slot stats task).Returns s journal stats') :
    TaskView.CycleStep env slot (s.catalog.view task.oid)
      ((replay s journal).catalog.view task.oid) := by
  have habove : env.oids.Increasing → ∀ other ∈ (s.catalog.view task.oid).leases,
      other.oid < env.oids.next .schedulerLease s.catalog.leases.idents := by
    intro hincreasing other hother
    exact hincreasing _ _ _ (List.mem_map_of_mem (List.mem_filter.mp hother).1)
  cases superviseTask_supervises hsound htask h with
  | idle => exact .idle
  | renew hdue hfirst hrenew =>
    have hlease := taskoid_of_mem_leases (mem_of_latestLease hdue.latest).1
    obtain ⟨row, beat, hrow, hjournal, hmoves⟩ := renewLease_returns hrenew
    rw [hlease] at hmoves
    rw [replay_append_report, hmoves.self, hjournal, foldl_renew (by rw [hrow]; exact hlease), hrow]
    exact .renew _ hdue hfirst habove
  | reclaim hdue hagain hreclaim =>
    have hlease := taskoid_of_mem_leases (mem_of_latestLease hdue.latest).1
    obtain ⟨queue, attemptState, taskState, checkpointoid, row, beat, houtcome, hqueue, hrow,
      hjournal, hmoves⟩ := qxRuntimeReclaimRunningAttempt_returns
        (List.mem_map_of_mem hdue.current.last_mem) hlease hreclaim
    rw [hmoves.self, hjournal, foldl_settle_lease hdue.current hsound.attempts_nodup hqueue
      (by rw [hrow]; exact hlease), hrow]
    refine .reclaim _ hdue hagain ?_ ?_ <;> cases houtcome <;> nofun

/-- A scheduler cycle takes each task through one such step. -/
theorem qxRuntimeRunSchedulerCycle_cycleStep {stats : CycleStats} (hcat : s.catalog.Sound)
    (h : (qxRuntimeRunSchedulerCycle env slot).Returns s journal stats) (taskoid : Oid) :
    TaskView.CycleStep env slot (s.catalog.view taskoid)
      ((replay s journal).catalog.view taskoid) := by
  unfold qxRuntimeRunSchedulerCycle at h
  refine pass_visits (env.inputs s.catalog.agents) hcat (fun _ => .idle)
    (fun t row _ _ _ hsound hrow => superviseTask_advances (hsound row.oid) hrow) ?_
    (returns_catalog_bind_iff.mp h)
  intro t task _ _ written hsound htask hread hreturns
  rw [← htask] at hread ⊢
  exact superviseTask_cycleStep (hsound task.oid) hread hreturns

lemma next_cycleStep {event : Event} (hcat : world.catalog.Sound)
    (hcommand : event.command = .schedulerCycle slot) (taskoid : Oid) :
    TaskView.CycleStep event.env slot (world.catalog.view taskoid)
      ((world.next event).catalog.view taskoid) := by
  by_cases hcommits : world.Commits event
  · have hreturns := World.returns_of_commits hcommits
    rw [hcommand] at hreturns
    obtain ⟨_, hreturns⟩ := returns_of_discard hreturns
    rw [World.next, if_pos hcommits]
    exact qxRuntimeRunSchedulerCycle_cycleStep hcat hreturns taskoid
  · rw [World.next, if_neg hcommits]
    exact .idle

/-! ## Runs of cycles -/

/-- A scheduler cycle whose identifiers increase, or an event that does not touch the task. -/
def undisturbed (taskoid : Oid) (world : World) (event : Event) : Prop :=
  ((∃ slot, event.command = .schedulerCycle slot) ∧ event.env.oids.Increasing) ∨
    (world.next event).catalog.view taskoid = world.catalog.view taskoid

/-- An event of the run appends the row to the leases of the task. -/
def World.Appends (world : World) (taskoid : Oid) (events : List Event) (event : Event)
    (row : LeaseRow) : Prop :=
  ∃ before after, events = before ++ event :: after ∧
    ((world.run (before ++ [event])).catalog.view taskoid).leases =
      ((world.run before).catalog.view taskoid).leases ++ [row]

/-- An event of the run that finds the lease expired renews it with this row. -/
def World.Renews (world : World) (taskoid : Oid) (events : List Event) (lease row : LeaseRow) :
    Prop :=
  ∃ event oid, world.Appends taskoid events event row ∧ lease.expiresAt < event.env.now ∧
    row = { qxSchedulerRenewLeaseSnapshot event.env.now lease (qxRuntimeLeaseTtlMs lease) with
      oid := oid, queueoid := lease.queueoid }

/-- An event of the run that finds the lease expired reclaims it with this row. -/
def World.Reclaims (world : World) (taskoid : Oid) (events : List Event) (lease row : LeaseRow) :
    Prop :=
  ∃ event slot oid queueoid, world.Appends taskoid events event row ∧
    event.command = .schedulerCycle slot ∧ lease.expiresAt < event.env.now ∧
    row = { reclaimedLease event.env lease slot.name with oid := oid, queueoid := queueoid }

/-- How far the lease of an attempt has come: it is as it was, it is renewed, or it is reclaimed
and its attempt has left the running state. -/
inductive LeasePhase (world : World) (taskoid attemptoid : Oid) (lease : LeaseRow)
    (events : List Event) (view : TaskView) : Prop
  | held (leases_eq : view.leases = (world.catalog.view taskoid).leases)
      (attempts_eq : view.attempts = (world.catalog.view taskoid).attempts)
      (latest : view.latestLease attemptoid = some lease)
  | renewed {renewal : LeaseRow} (renews : world.Renews taskoid events lease renewal)
      (leases_eq : view.leases = (world.catalog.view taskoid).leases ++ [renewal])
      (attempts_eq : view.attempts = (world.catalog.view taskoid).attempts)
      (latest : view.latestLease attemptoid = some renewal)
  | reclaimed {renewal reclaim : LeaseRow} {task : TaskRow}
      (renews : world.Renews taskoid events lease renewal)
      (reclaims : world.Reclaims taskoid events renewal reclaim)
      (leases_eq : view.leases = (world.catalog.view taskoid).leases ++ [renewal, reclaim])
      (task_eq : view.task = some task) (stopped : task.state ≠ .running)
      (left : ∀ attempt ∈ view.attempts, attempt.oid = attemptoid → attempt.state ≠ .running)

section phases

variable {world : World} {taskoid : Oid} {events : List Event} {event : Event}
  {lease row : LeaseRow} {view : TaskView}

lemma World.run_concat (world : World) (events : List Event) (event : Event) :
    world.run (events ++ [event]) = (world.run events).next event := by
  rw [World.run, List.foldl_append]
  rfl

lemma World.Appends.concat (h : world.Appends taskoid events event row) (last : Event) :
    world.Appends taskoid (events ++ [last]) event row := by
  obtain ⟨before, after, hevents, hleases⟩ := h
  refine ⟨before, after ++ [last], ?_, hleases⟩
  rw [hevents, List.append_assoc, List.cons_append]

lemma World.Renews.concat (h : world.Renews taskoid events lease row) (last : Event) :
    world.Renews taskoid (events ++ [last]) lease row := by
  obtain ⟨event, oid, happends, hrow⟩ := h
  exact ⟨event, oid, happends.concat last, hrow⟩

lemma World.Reclaims.concat (h : world.Reclaims taskoid events lease row) (last : Event) :
    world.Reclaims taskoid (events ++ [last]) lease row := by
  obtain ⟨event, slot, oid, queueoid, happends, hrow⟩ := h
  exact ⟨event, slot, oid, queueoid, happends.concat last, hrow⟩

lemma World.appends_last
    (h : ((world.run events).next event |>.catalog.view taskoid).leases =
      ((world.run events).catalog.view taskoid).leases ++ [row]) :
    world.Appends taskoid (events ++ [event]) event row :=
  ⟨events, [], rfl, by rw [World.run_concat]; exact h⟩

lemma latestLease_concat (view : TaskView) (row : LeaseRow)
    (habove : ∀ other ∈ view.leases, other.oid < row.oid) :
    TaskView.latestLease { view with leases := view.leases ++ [row] } row.attemptoid =
      some row := by
  have hfilter : (view.leases ++ [row]).filter (·.attemptoid == row.attemptoid) =
      view.leases.filter (·.attemptoid == row.attemptoid) ++ [row] := by
    simp
  rw [TaskView.latestLease, hfilter, List.argmax_concat]
  cases hmax : (view.leases.filter (·.attemptoid == row.attemptoid)).argmax LeaseRow.oid with
  | none => rfl
  | some other =>
    have hother := (List.mem_filter.mp (List.argmax_mem hmax)).1
    exact if_pos (habove other hother)

lemma expired_of_due {now : TimestampTz} (hheld : lease.state = .held)
    (hclean : lease.needsRecovery = false)
    (hdue : qxSchedulerLeaseNeedsReclaim lease now = true) : lease.expiresAt < now := by
  simpa [qxSchedulerLeaseNeedsReclaim, qxSchedulerLeaseExpired, hheld, hclean] using hdue

lemma LeasePhase.keep {attemptoid : Oid}
    (h : LeasePhase world taskoid attemptoid lease events view) (last : Event) :
    LeasePhase world taskoid attemptoid lease (events ++ [last]) view := by
  cases h with
  | held hleases hattempts hlatest => exact .held hleases hattempts hlatest
  | renewed hrenews hleases hattempts hlatest =>
    exact .renewed (hrenews.concat last) hleases hattempts hlatest
  | reclaimed hrenews hreclaims hleases htask hstopped hleft =>
    exact .reclaimed (hrenews.concat last) (hreclaims.concat last) hleases htask hstopped hleft

lemma TaskView.CycleStep.eq_of_stopped {view' : TaskView} (h : view.CycleStep env slot view')
    (htask : view.task = some task) (hstopped : task.state ≠ .running) : view' = view := by
  have hidle : ∀ {task' earlier last lease},
      ¬view.LeaseDue env.now task' earlier last lease := by
    intro task' earlier last lease hdue
    obtain rfl := Option.some.inj (htask.symm.trans hdue.current.task_eq)
    exact hstopped hdue.state
  cases h with
  | idle => rfl
  | renew _ hdue => exact absurd hdue hidle
  | reclaim _ hdue => exact absurd hdue hidle

lemma last_unique {attempts earlier' : List AttemptRow} {last' : AttemptRow}
    (h : attempts = earlier ++ [last]) (h' : attempts = earlier' ++ [last']) : last' = last := by
  rw [h] at h'
  exact (List.singleton_inj.mp (List.append_inj_right' h' rfl)).symm

lemma eq_last_of_oid {attempt : AttemptRow} {state : AttemptState}
    (hnodup : ((earlier ++ [last]).map AttemptRow.oid).Nodup)
    (hmem : attempt ∈ earlier ++ [last.setState state]) (hoid : attempt.oid = last.oid) :
    attempt = last.setState state := by
  rw [List.map_append, List.nodup_append] at hnodup
  rcases List.mem_append.mp hmem with hearlier | hlast
  · exact absurd hoid (hnodup.2.2 _ (List.mem_map_of_mem hearlier) _ (List.mem_singleton.mpr rfl))
  · exact List.mem_singleton.mp hlast

theorem LeasePhase.next {earlier : List AttemptRow} {last : AttemptRow}
    (hcat : (world.run events).catalog.Sound)
    (hlast : (world.catalog.view taskoid).attempts = earlier ++ [last])
    (hheld : lease.state = .held) (hclean : lease.needsRecovery = false)
    (hcount : lease.renewalCount = 0) (hattempt : lease.attemptoid = last.oid)
    (hnodup : ((world.catalog.view taskoid).attempts.map AttemptRow.oid).Nodup)
    (h : LeasePhase world taskoid last.oid lease events
      ((world.run events).catalog.view taskoid))
    (hevent : undisturbed taskoid (world.run events) event) :
    LeasePhase world taskoid last.oid lease (events ++ [event])
      ((world.run (events ++ [event])).catalog.view taskoid) := by
  rw [World.run_concat]
  rcases hevent with ⟨⟨slot, hcommand⟩, hincreasing⟩ | hsame
  swap
  · rw [hsame]
    exact h.keep event
  have hstep := next_cycleStep hcat hcommand taskoid
  generalize hview' : ((world.run events).next event).catalog.view taskoid = view' at hstep
  cases h with
  | held hleases hattempts hlatest =>
    cases hstep with
    | idle => exact .held hleases hattempts hlatest
    | @renew _ _ last' lease' oid hdue hfirst habove =>
      obtain rfl := last_unique hlast (hattempts ▸ hdue.current.attempts_eq)
      obtain rfl := Option.some.inj (hlatest.symm.trans hdue.latest)
      refine .renewed ⟨event, oid, World.appends_last (by rw [hview']),
        expired_of_due hheld hclean hdue.due, rfl⟩ (by rw [← hleases]) hattempts ?_
      rw [← hattempt]
      exact latestLease_concat _ _ (habove hincreasing)
    | reclaim _ hdue hagain =>
      obtain rfl := last_unique hlast (hattempts ▸ hdue.current.attempts_eq)
      obtain rfl := Option.some.inj (hlatest.symm.trans hdue.latest)
      omega
  | @renewed renewal hrenews hleases hattempts hlatest =>
    have hrenewal : renewal.renewalCount = 1 ∧ renewal.needsRecovery = false := by
      obtain ⟨_, _, -, -, hrow⟩ := hrenews
      rw [hrow]
      refine ⟨?_, rfl⟩
      simp only [qxSchedulerRenewLeaseSnapshot, hcount]
      decide
    cases hstep with
    | idle => exact .renewed (hrenews.concat event) hleases hattempts hlatest
    | renew oid hdue hfirst =>
      obtain rfl := last_unique hlast (hattempts ▸ hdue.current.attempts_eq)
      obtain rfl := Option.some.inj (hlatest.symm.trans hdue.latest)
      omega
    | @reclaim _ _ _ last' lease' _ queue oid hdue hagain hstopped hleft =>
      obtain rfl := last_unique hlast (hattempts ▸ hdue.current.attempts_eq)
      obtain rfl := Option.some.inj (hlatest.symm.trans hdue.latest)
      refine .reclaimed (hrenews.concat event) ⟨event, slot, oid, queue.oid,
        World.appends_last (by rw [hview']), hcommand,
        expired_of_due hdue.held hrenewal.2 hdue.due, rfl⟩ ?_ rfl hstopped ?_
      · simp only [hleases, List.append_assoc, List.cons_append, List.nil_append]
      · intro attempt hmem hoid
        rw [← hattempts, hdue.current.attempts_eq] at hnodup
        rw [eq_last_of_oid hnodup hmem hoid]
        exact hleft
  | reclaimed hrenews hreclaims hleases htask hstopped hleft =>
    rw [hstep.eq_of_stopped htask hstopped]
    exact .reclaimed (hrenews.concat event) (hreclaims.concat event) hleases htask hstopped hleft

end phases

lemma World.Reachable.run (h : world.Reachable) (events : List Event) :
    (world.run events).Reachable := by
  obtain ⟨agents, hleads⟩ := h
  refine ⟨agents, hleads.trans ?_⟩
  exact RunsTo.foldl world events

lemma view_run_of_stopped {taskoid : Oid} {later : List Event} (hreach : world.Reachable)
    (htask : (world.catalog.view taskoid).task = some task) (hstopped : task.state ≠ .running)
    (halong : AllowedAlong World.next (undisturbed taskoid) world later) :
    (world.run later).catalog.view taskoid = world.catalog.view taskoid := by
  induction later generalizing world with
  | nil => rfl
  | cons event later ih =>
    have hview : (world.next event).catalog.view taskoid = world.catalog.view taskoid := by
      rcases halong.1 with ⟨⟨slot, hcommand⟩, -⟩ | hsame
      · exact (next_cycleStep hreach.sound hcommand taskoid).eq_of_stopped htask hstopped
      · exact hsame
    have hnext := ih (hreach.run [event]) (by rw [World.run, List.foldl_cons, List.foldl_nil, hview,
      htask]) halong.2
    exact hnext.trans hview

/-- Cycles write a renewal and then a reclaim for a running attempt that nobody else touches, each
of them after the lease before it has expired, and nothing after that. The order of the times of the
cycles does not matter. -/
theorem lease_renewed_then_reclaimed {world : World} (hreach : world.Reachable) {taskoid : Oid}
    {task : TaskRow} {last : AttemptRow} {lease : LeaseRow}
    (hruns : (world.catalog.view taskoid).Runs task last)
    (hlatest : world.catalog.lookupLatestSchedulerLease invalidOid taskoid last.oid = some lease)
    (hheld : lease.state = .held) (hcount : lease.renewalCount = 0) {events : List Event}
    (halong : AllowedAlong World.next (undisturbed taskoid) world events) :
    LeasePhase world taskoid last.oid lease events
        ((world.run events).catalog.view taskoid) ∧
      ∀ renewal reclaim, ((world.run events).catalog.view taskoid).leases =
          (world.catalog.view taskoid).leases ++ [renewal, reclaim] →
        ∀ later, AllowedAlong World.next (undisturbed taskoid) (world.run events) later →
          (((world.run events).run later).catalog.view taskoid).leases =
            ((world.run events).catalog.view taskoid).leases := by
  rw [lookupLatestLease_eq] at hlatest
  obtain ⟨earlier, hcurrent⟩ := hruns.current
  obtain ⟨hlease, hattempt⟩ := mem_of_latestLease hlatest
  have hclean := hreach.held_fits lease (List.mem_filter.mp hlease).1 hheld
  have hphase : LeasePhase world taskoid last.oid lease events
      ((world.run events).catalog.view taskoid) := by
    induction events using List.reverseRecOn with
    | nil => exact .held rfl rfl hlatest
    | append_singleton events event ih =>
      obtain ⟨hbefore, hevent, -⟩ := allowedAlong_append.mp halong
      exact (ih hbefore).next (hreach.run events).sound hcurrent.attempts_eq hheld hclean hcount
        hattempt (hreach.sound taskoid).attempts_nodup hevent
  refine ⟨hphase, ?_⟩
  intro renewal reclaim hleases later hlater
  cases hphase with
  | held hsame => simp [hsame] at hleases
  | renewed _ hsame => simp [hsame] at hleases
  | reclaimed _ _ _ htask hstopped =>
    rw [view_run_of_stopped (hreach.run events) htask hstopped hlater]

def demoLeft : World :=
  (World.initial demoAgents).run (demoReclaim.take 1)

theorem demoLeft_renewed_then_reclaimed :
    ∃ task last lease, (demoLeft.catalog.view 1).Runs task last ∧
      demoLeft.catalog.lookupLatestSchedulerLease invalidOid 1 last.oid = some lease ∧
      ((demoLeft.run (demoReclaim.drop 1)).catalog.view 1).leases.length =
        (demoLeft.catalog.view 1).leases.length + 2 ∧
      LeasePhase demoLeft 1 last.oid lease (demoReclaim.drop 1)
        ((demoLeft.run (demoReclaim.drop 1)).catalog.view 1) := by
  have hrun : (demoLeft.catalog.view 1).task.map TaskRow.state = some .running ∧
      ((demoLeft.catalog.view 1).attempts.map fun attempt => (attempt.oid, attempt.state)) =
        [(1, .running)] ∧
      (demoLeft.catalog.lookupLatestSchedulerLease invalidOid 1 1).map
        (fun lease => (lease.state, lease.renewalCount)) = some (.held, 0) ∧
      ((demoLeft.run (demoReclaim.drop 1)).catalog.view 1).leases.length =
        (demoLeft.catalog.view 1).leases.length + 2 := by
    decide +kernel
  obtain ⟨hstate, hattempts, hlease, hlength⟩ := hrun
  have hreach : demoLeft.Reachable := World.reachable_run demoAgents _
  obtain ⟨task, htask, hstate⟩ := Option.map_eq_some_iff.mp hstate
  obtain ⟨lease, hlookup, hlease⟩ := Option.map_eq_some_iff.mp hlease
  obtain ⟨hheld, hcount⟩ := Prod.mk.inj hlease
  obtain ⟨earlier, last, hcurrent⟩ := (hreach.sound 1).current task htask
  have hlast : last.oid = 1 ∧ last.state = .running := by
    rw [hcurrent.attempts_eq, List.map_append, List.map_singleton] at hattempts
    have hpair := List.append_inj_right' (hattempts.trans (List.nil_append _).symm) rfl
    exact Prod.mk.inj (List.singleton_inj.mp hpair)
  have hruns : (demoLeft.catalog.view 1).Runs task last := ⟨⟨earlier, hcurrent⟩, hstate, hlast.2⟩
  have hlatest :
      demoLeft.catalog.lookupLatestSchedulerLease invalidOid 1 last.oid = some lease := by
    rw [hlast.1]
    exact hlookup
  have halong : AllowedAlong World.next (undisturbed 1) demoLeft (demoReclaim.drop 1) :=
    ⟨.inl ⟨⟨_, rfl⟩, OidSource.counting_increasing⟩,
      .inl ⟨⟨_, rfl⟩, OidSource.counting_increasing⟩, trivial⟩
  exact ⟨task, last, lease, hruns, hlatest, hlength,
    (lease_renewed_then_reclaimed hreach hruns hlatest hheld hcount halong).1⟩

end QhapaqXian
