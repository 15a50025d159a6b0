import QhapaqXian.Library.Checks
import QhapaqXian.Library.Runs
import QhapaqXian.Proofs.Budget
import QhapaqXian.Proofs.Collector
import QhapaqXian.Proofs.LedgerBlocks
import QhapaqXian.Proofs.Leases
import QhapaqXian.Proofs.RetryRuns

/-!
# The counters over a run

The counters of the collector against the rows of the catalogs, over runs in which transactions
commit or roll back at any point.
-/

namespace QhapaqXian

open Library Script Txn

variable {checkpointed : Bool}

/-! ## Sums of counters -/

section tally

variable {collector : Collector} {key : StatKey} {mutate : StatCounters → StatCounters}
  {kind : StatKind} {dboid : Oid} {f : StatCounters → Nat}

/-- What a slot adds to the sum of a counter over a kind of activity in a database. -/
def StatSlot.share (kind : StatKind) (dboid : Oid) (f : StatCounters → Nat) (slot : StatSlot) :
    Nat :=
  if slot.key.kind == kind && slot.key.dboid == dboid then f slot.counters else 0

lemma sum_filter_share (slots : Slots StatSlot) :
    ((slots.entries.filter fun slot => slot.key.kind == kind && slot.key.dboid == dboid).map
      fun slot => f slot.counters).sum = slots.total (StatSlot.share kind dboid f) := by
  unfold Slots.total
  induction slots.entries with
  | nil => rfl
  | cons slot slots ih =>
    rw [List.map_cons, List.sum_cons, ← ih, StatSlot.share, List.filter_cons]
    by_cases h : (slot.key.kind == kind && slot.key.dboid == dboid) = true
    · rw [if_pos h, if_pos h, List.map_cons, List.sum_cons]
    · rw [if_neg h, if_neg h, Nat.zero_add]

lemma count_aggregate (slots : Slots StatSlot) (dboid : Oid) (event : SchedulerEvent) :
    event.count (qxStatAggregateScheduler slots dboid) =
      slots.total (StatSlot.share .schedulerActivity dboid (SchedulerEvent.count · event)) := by
  rw [← sum_filter_share]
  cases event <;> rfl

lemma runtimeClassCheckpoints_eq (collector : Collector) (dboid : Oid) :
    collector.runtimeClassCheckpoints dboid =
      collector.slots.total (StatSlot.share .runtimeClass dboid StatCounters.checkpointCount) :=
  sum_filter_share collector.slots

lemma total_report {n : Nat} (htrack : collector.trackStats = true)
    (haccepts : Accepts collector.slots key) (hkey : key.kind = kind ∧ key.dboid = dboid)
    (hmutate : ∀ counters, f (mutate counters) = f counters + n) (hzero : f .zero = 0) :
    (collector.report key mutate).slots.total (StatSlot.share kind dboid f) =
      collector.slots.total (StatSlot.share kind dboid f) + n := by
  rw [Collector.report, if_pos htrack]
  have hshare : ∀ counters, StatSlot.share kind dboid f ⟨key.stored, counters⟩ = f counters := by
    intro counters
    simp [StatSlot.share, StatKey.stored, hkey]
  refine Slots.total_upsert ?_ ?_ ?_
  · intro slot hslot
    obtain rfl : slot.key = key := by simpa [qxStatSlotMatches] using hslot
    simp [StatSlot.share, hkey, hmutate]
  · rw [hshare, hmutate, hzero, Nat.zero_add]
  · simpa [Accepts, qxStatLookupEntry] using haccepts

lemma total_report_same (hmutate : ∀ counters, f (mutate counters) = f counters)
    (hzero : f .zero = 0) :
    (collector.report key mutate).slots.total (StatSlot.share kind dboid f) =
      collector.slots.total (StatSlot.share kind dboid f) := by
  unfold Collector.report
  split
  · by_cases haccepts : Accepts collector.slots key
    · refine Slots.total_upsert (n := 0) ?_ ?_ ?_
      · intro slot hslot
        simp [StatSlot.share, hmutate]
      · simp [StatSlot.share, hmutate, hzero]
      · simpa [Accepts, qxStatLookupEntry] using haccepts
    · simp only [Accepts, not_or, qxStatLookupEntry, Option.isSome_map, Bool.not_eq_true,
        Option.isSome_eq_false_iff, Option.isNone_iff_eq_none] at haccepts
      exact congrArg _ (Slots.upsert_of_full haccepts.1 haccepts.2)
  · rfl

end tally

/-! ## What the collector hears -/

section hear

variable {collector heard : Collector} {layout : SchemaLayout} {dboid : Oid} {kind : StatKind}
  {f : StatCounters → Nat}

lemma count_mutateScheduler (event other : SchedulerEvent) (counters : StatCounters) :
    other.count (qxStatMutateScheduler event counters) =
      other.count counters + if event = other then 1 else 0 := by
  cases event <;> cases other <;> rfl

/-- The counter is not one of those that executions change. -/
structure Unexecuted (f : StatCounters → Nat) (checkpointed : Bool) : Prop where
  zero : f .zero = 0
  provider : ∀ resume verified counters,
    f (qxStatMutateProvider resume verified counters) = f counters
  principal : ∀ resume verified counters,
    f (qxStatMutatePrincipal resume checkpointed verified counters) = f counters

lemma unexecuted_count (event : SchedulerEvent) (checkpointed : Bool) :
    Unexecuted (SchedulerEvent.count · event) checkpointed where
  zero := by cases event <;> rfl
  provider resume verified counters := by
    cases event <;> cases resume <;> cases verified <;> rfl
  principal resume verified counters := by
    cases event <;> cases resume <;> cases checkpointed <;> cases verified <;> rfl

lemma unexecuted_checkpointCount : Unexecuted StatCounters.checkpointCount false where
  zero := rfl
  provider resume verified counters := by cases resume <;> cases verified <;> rfl
  principal resume verified counters := by cases resume <;> cases verified <;> rfl

lemma trackStats_report (collector : Collector) (key : StatKey)
    (mutate : StatCounters → StatCounters) :
    (collector.report key mutate).trackStats = collector.trackStats := by
  unfold Collector.report
  split <;> rfl

def Collector.SameTotal (kind : StatKind) (dboid : Oid) (f : StatCounters → Nat)
    (collector heard : Collector) : Prop :=
  heard.trackStats = collector.trackStats ∧
    heard.slots.total (StatSlot.share kind dboid f) =
      collector.slots.total (StatSlot.share kind dboid f)

lemma Collector.SameTotal.trans {first second third : Collector}
    (h : first.SameTotal kind dboid f second) (h' : second.SameTotal kind dboid f third) :
    first.SameTotal kind dboid f third :=
  ⟨h'.1.trans h.1, h'.2.trans h.2⟩

lemma sameTotal_report {mutate : StatCounters → StatCounters}
    (hmutate : ∀ counters, f (mutate counters) = f counters) (hzero : f .zero = 0)
    (collector : Collector) (key : StatKey) :
    collector.SameTotal kind dboid f (collector.report key mutate) :=
  ⟨trackStats_report collector key mutate, total_report_same hmutate hzero⟩

lemma sameTotal_provider (hf : Unexecuted f checkpointed) (collector : Collector)
    (reported provideroid : Oid) (resume verified : Bool) :
    collector.SameTotal kind dboid f
      (qxStatReportProviderExecution collector reported provideroid resume verified) := by
  unfold qxStatReportProviderExecution
  split
  · exact ⟨rfl, rfl⟩
  · exact sameTotal_report (hf.provider resume verified) hf.zero _ _

lemma sameTotal_principal (hf : Unexecuted f checkpointed) (collector : Collector)
    (reported principaloid : Oid) (resume verified : Bool) :
    collector.SameTotal kind dboid f
      (qxStatReportPrincipalExecution collector reported principaloid resume checkpointed
        verified) := by
  unfold qxStatReportPrincipalExecution
  split
  · exact ⟨rfl, rfl⟩
  · exact sameTotal_report (hf.principal resume verified) hf.zero _ _

lemma sameTotal_runtimeClass (hf : Unexecuted f checkpointed) (collector : Collector)
    (reported : Oid) (runtimeClass : Option CString) (resume verified : Bool) :
    collector.SameTotal kind dboid f
      (qxStatReportRuntimeClassExecution collector reported runtimeClass resume checkpointed
        verified) := by
  unfold qxStatReportRuntimeClassExecution
  split
  · exact ⟨rfl, rfl⟩
  · exact ⟨rfl, rfl⟩
  · exact sameTotal_report (hf.principal resume verified) hf.zero _ _

lemma sameTotal_reportExecution {resume : Bool} {detail : CString} {reported : Oid}
    (hf : Unexecuted f checkpointed)
    (h : reportExecution collector layout reported detail resume checkpointed = .ok heard) :
    collector.SameTotal kind dboid f heard := by
  simp only [reportExecution, bind_eq_ok_iff, pure_eq_ok_iff] at h
  obtain ⟨provideroid, -, principaloid, -, rfl⟩ := h
  exact (sameTotal_provider hf _ _ _ _ _).trans
    ((sameTotal_principal hf _ _ _ _ _).trans (sameTotal_runtimeClass hf _ _ _ _ _))

lemma sameTotal_recoveryScan (hzero : f .zero = 0)
    (hf : ∀ failoverRebuild report counters,
      f (qxStatMutateRecovery failoverRebuild report counters) = f counters)
    (collector : Collector) (report : RecoveryReport) (failoverRebuild : Bool) :
    collector.SameTotal kind dboid f
      (qxStatReportRecoveryScan collector dboid report failoverRebuild) :=
  sameTotal_report (hf failoverRebuild report) hzero collector (recoveryKey dboid)

lemma traceNameEvent_external {name : CString} (h : isExternalTrace name = true) :
    traceNameEvent name = none := by
  simp only [isExternalTrace, Bool.or_eq_true, beq_iff_eq] at h
  rcases h with rfl | rfl <;> decide +kernel

lemma traceNameEvent_checkpoint {name : CString}
    (h : (name == checkpointTraceName || name == finalCheckpointTraceName) = true) :
    traceNameEvent name = none := by
  simp only [Bool.or_eq_true, beq_iff_eq] at h
  rcases h with rfl | rfl <;> decide +kernel

/-- The collector counts the event that an action reports, and no other. -/
def Collector.CountsReport (dboid : Oid) (collector : Collector) (reported : Option SchedulerEvent)
    (heard : Collector) : Prop :=
  heard.trackStats = collector.trackStats ∧ ∀ event,
    event.count (qxStatAggregateScheduler heard.slots dboid) =
      event.count (qxStatAggregateScheduler collector.slots dboid) +
        if reported = some event then 1 else 0

lemma counts_none_of_sameTotal
    (h : ∀ event, collector.SameTotal .schedulerActivity dboid (SchedulerEvent.count · event) heard) :
    collector.CountsReport dboid none heard := by
  refine ⟨(h .renew).1, fun event => ?_⟩
  rw [count_aggregate, count_aggregate, (h event).2]
  rfl

lemma counts_reportSchedulerEvent {event : SchedulerEvent} (htrack : collector.trackStats = true)
    (haccepts : Accepts collector.slots (Collector.schedulerKey dboid event)) :
    collector.CountsReport dboid (some event) (qxStatReportSchedulerEvent collector dboid event) := by
  refine ⟨trackStats_report _ _ _, fun other => ?_⟩
  rw [count_aggregate, count_aggregate]
  simp only [Option.some.injEq]
  refine total_report htrack haccepts ⟨rfl, rfl⟩ (count_mutateScheduler event other) ?_
  cases other <;> rfl

lemma accepts_of_hasRoomFor {action : Action} {event : SchedulerEvent}
    (hroom : collector.hasRoomFor dboid action = true) (h : action.reported = some event) :
    Accepts collector.slots (Collector.schedulerKey dboid event) := by
  simpa [Collector.hasRoomFor, h, Accepts] using hroom

lemma counts_reportFromTrace {row : TraceRow} (htrack : collector.trackStats = true)
    (hroom : collector.hasRoomFor dboid (.insertTrace row) = true)
    (h : qxStatReportFromTrace collector layout dboid row.name row.detail = .ok heard) :
    collector.CountsReport dboid (traceNameEvent row.name) heard := by
  unfold qxStatReportFromTrace at h
  rw [htrack] at h
  simp only [Bool.not_true, Bool.false_eq_true, if_false] at h
  split at h
  · rename_i hexternal
    rw [traceNameEvent_external hexternal]
    exact counts_none_of_sameTotal fun event =>
      sameTotal_reportExecution (unexecuted_count event _) h
  split at h
  · rename_i hcheckpoint
    rw [traceNameEvent_checkpoint (Bool.and_eq_true_iff.mp hcheckpoint).1, ← Except.ok.inj h]
    exact counts_none_of_sameTotal fun event =>
      sameTotal_runtimeClass (unexecuted_count event _) _ _ _ _ _
  split at h
  · rename_i hretry
    have hevent : traceNameEvent row.name = some .retryDispatch := if_pos (beq_iff_eq.mp hretry)
    rw [hevent, ← Except.ok.inj h]
    exact counts_reportSchedulerEvent htrack (accepts_of_hasRoomFor hroom hevent)
  rename_i hretry
  split at h
  · rename_i hdead
    have hevent : traceNameEvent row.name = some .deadLetter := by
      rw [traceNameEvent, if_neg (fun hname => hretry (beq_iff_eq.mpr hname)),
        if_pos (beq_iff_eq.mp hdead)]
    rw [hevent, ← Except.ok.inj h]
    exact counts_reportSchedulerEvent htrack (accepts_of_hasRoomFor hroom hevent)
  · rename_i hdead
    have hevent : traceNameEvent row.name = none := by
      rw [traceNameEvent, if_neg (fun hname => hretry (beq_iff_eq.mpr hname)),
        if_neg (fun hname => hdead (beq_iff_eq.mpr hname))]
    rw [hevent, ← Except.ok.inj h]
    exact ⟨rfl, fun event => rfl⟩

lemma counts_hear {action : Action} (htrack : collector.trackStats = true)
    (hroom : collector.hasRoomFor dboid action = true)
    (h : collector.hear layout dboid action = .ok heard) :
    collector.CountsReport dboid action.reported heard := by
  cases action with
  | insertTrace row => exact counts_reportFromTrace htrack hroom h
  | reportSchedulerEvent event =>
    rw [← Except.ok.inj h]
    exact counts_reportSchedulerEvent htrack (accepts_of_hasRoomFor hroom rfl)
  | _ =>
    rw [← Except.ok.inj h]
    exact ⟨rfl, fun event => rfl⟩

/-- The collector hears the actions of a transaction up to one whose report fails, and counts what
they report. -/
lemma follow_counts {actions : List Action} (htrack : collector.trackStats = true)
    (hroom : collector.hasRoomAlong layout dboid actions = true) :
    ∃ taken rest, actions = taken ++ rest ∧
      ((collector.follow layout dboid actions).2 = none → rest = []) ∧
      (∀ after, (collector.follow layout dboid actions).2 = some after → taken.length < after) ∧
      (collector.follow layout dboid actions).1.trackStats = true ∧
      ∀ event, event.count
          (qxStatAggregateScheduler (collector.follow layout dboid actions).1.slots dboid) =
        event.count (qxStatAggregateScheduler collector.slots dboid) +
          taken.countP (·.reported = some event) := by
  induction actions generalizing collector with
  | nil => exact ⟨[], [], rfl, fun _ => rfl, nofun, htrack, fun event => rfl⟩
  | cons action actions ih =>
    obtain ⟨hfirst, hrest⟩ := Bool.and_eq_true_iff.mp hroom
    unfold Collector.follow
    cases hheard : collector.hear layout dboid action with
    | error e =>
      refine ⟨[], action :: actions, rfl, nofun, ?_, htrack, fun event => rfl⟩
      intro after hafter
      rw [← Option.some.inj hafter]
      exact Nat.one_pos
    | ok heard =>
      rw [hheard] at hrest
      obtain ⟨htrack', hcounts⟩ := counts_hear htrack hfirst hheard
      obtain ⟨taken, rest, happend, hnone, hsome, hfollowed, hcount⟩ :=
        ih (htrack'.trans htrack) hrest
      refine ⟨action :: taken, rest, by rw [happend]; rfl, ?_, ?_, hfollowed, ?_⟩
      · intro hfailed
        exact hnone (Option.map_eq_none_iff.mp hfailed)
      · intro after hafter
        obtain ⟨earlier, hearlier, rfl⟩ := Option.map_eq_some_iff.mp hafter
        exact Nat.succ_lt_succ (hsome earlier hearlier)
      · intro event
        rw [hcount event, hcounts event, List.countP_cons]
        simp only [decide_eq_true_eq]
        omega

end hear

/-! ## Scheduler counters -/

namespace Server

/-- Every scheduler event of the step finds its slot or a free one. -/
def HasRoom (dboid : Oid) (server : Server) : ServerEvent → Prop
  | .transaction event layout =>
    server.collector.hasRoomAlong layout dboid (server.world.carriedOut event) = true
  | .recoveryScan .. => True

/-- A transaction that commits renews and fences nothing behind the collector's back; one that is
rolled back has not reported an event yet. -/
def Accountable (dboid : Oid) (server : Server) : ServerEvent → Prop
  | .transaction event layout =>
    if server.world.Commits (server.effective dboid event layout) then
      event.command.ticks = false ∧
        event.command.fenced event.env (server.world.backend event.backend) = []
    else
      ∀ action ∈ server.world.carriedOut (server.effective dboid event layout),
        action.reported = none
  | .recoveryScan .. => True

instance (dboid : Oid) (server : Server) : ∀ step, Decidable (server.HasRoom dboid step)
  | .transaction .. => inferInstanceAs (Decidable (_ = true))
  | .recoveryScan .. => .isTrue trivial

instance (dboid : Oid) (server : Server) : ∀ step, Decidable (server.Accountable dboid step)
  | .transaction .. => inferInstanceAs (Decidable (ite _ _ _))
  | .recoveryScan .. => .isTrue trivial

variable {dboid : Oid} {server server' : Server} {event : Event} {layout : SchemaLayout}

/-- The counters of the scheduler are the numbers of the committed rows. -/
def Agrees (dboid : Oid) (server : Server) : Prop :=
  ∀ event, SchedulerEvent.count (qxStatAggregateScheduler server.collector.slots dboid) event =
    server.world.catalog.eventRows event

lemma effective_of_commits (h : server.world.Commits (server.effective dboid event layout)) :
    (server.collector.follow layout dboid (server.world.carriedOut event)).2 = none ∧
      server.effective dboid event layout = event := by
  unfold effective at h ⊢
  split at h
  · rename_i hnone
    exact ⟨hnone, rfl⟩
  · cases h.1

lemma heard_carriedOut {taken rest : List Action}
    (happend : server.world.carriedOut event = taken ++ rest)
    (hafter : ∀ after, (server.collector.follow layout dboid
      (server.world.carriedOut event)).2 = some after → taken.length < after) :
    ∀ action ∈ taken, action ∈ server.world.carriedOut (server.effective dboid event layout) := by
  intro action haction
  have hmem : action ∈ server.world.carriedOut event :=
    happend ▸ List.mem_append_left rest haction
  unfold effective
  split
  · exact hmem
  · rename_i after hfailed
    have hlength := hafter after hfailed
    have hbegins : taken <+: (server.world.outcome event).1 := by
      refine List.IsPrefix.trans ⟨rest, happend.symm⟩ ?_
      unfold World.carriedOut
      split
      · exact List.prefix_rfl
      · exact List.take_prefix _ _
    exact (List.prefix_take_iff.mpr ⟨hbegins, hlength.le⟩).subset haction

lemma next_agrees (htrack : server.collector.trackStats = true) (h : server.Agrees dboid)
    {step : ServerEvent} (hroom : server.HasRoom dboid step)
    (hstep : server.Accountable dboid step) :
    (server.next dboid step).collector.trackStats = true ∧ (server.next dboid step).Agrees dboid := by
  cases step with
  | recoveryScan report failoverRebuild =>
    have hsame : server.collector.CountsReport dboid none
        (qxStatReportRecoveryScan server.collector dboid report failoverRebuild) := by
      refine counts_none_of_sameTotal fun event => sameTotal_recoveryScan ?_ ?_ _ _ _
      · cases event <;> rfl
      · intro failover report counters
        cases event <;> cases failover <;> rfl
    refine ⟨hsame.1.trans htrack, fun event => ?_⟩
    exact (hsame.2 event).trans (h event)
  | transaction event layout =>
    obtain ⟨taken, rest, happend, hnone, hafter, htrack', hcount⟩ := follow_counts htrack hroom
    refine ⟨htrack', fun scheduled => ?_⟩
    have hcounted : SchedulerEvent.count
        (qxStatAggregateScheduler (server.next dboid (.transaction event layout)).collector.slots
          dboid) scheduled =
        SchedulerEvent.count (qxStatAggregateScheduler server.collector.slots dboid) scheduled +
          taken.countP (·.reported = some scheduled) := hcount scheduled
    rw [hcounted, h scheduled]
    change _ = ((server.world.next (server.effective dboid event layout)).catalog).eventRows _
    dsimp only [Accountable] at hstep
    by_cases hcommits : server.world.Commits (server.effective dboid event layout)
    · -- The whole journal was heard, and its rows are the reported ones.
      rw [if_pos hcommits] at hstep
      obtain ⟨hheard, heffective⟩ := effective_of_commits hcommits
      rw [heffective] at hcommits ⊢
      have hall : server.world.carriedOut event = taken := by
        rw [happend, hnone hheard, List.append_nil]
      have hbalanced := event.command.script_balanced hstep.1 hstep.2 _ _
        (World.returns_of_commits hcommits) scheduled
      rw [World.next, if_pos hcommits, hbalanced, hall]
      rfl
    · -- Nothing was reported, and the rows are the old ones.
      rw [if_neg hcommits] at hstep
      have hsilent : taken.countP (·.reported = some scheduled) = 0 := by
        rw [List.countP_eq_zero]
        intro action haction
        rw [hstep action (heard_carriedOut happend hafter action haction)]
        simp
      rw [hsilent, World.next, if_neg hcommits]
      rfl

end Server

/-- While every transaction commits, or is rolled back before it reports an event, and no row is
written without a report, the counters of the scheduler are the numbers of the committed rows. -/
theorem scheduler_counters_eq_rows {agents : Table AgentRow} {collector : Collector} {dboid : Oid}
    {server : Server} (htrack : collector.trackStats = true)
    (hzero : ∀ event, SchedulerEvent.count (qxStatAggregateScheduler collector.slots dboid) event = 0)
    (hrun : RunsTo (Server.next dboid)
      (fun server step => server.HasRoom dboid step ∧ server.Accountable dboid step)
      ⟨.initial agents, collector⟩ server)
    (event : SchedulerEvent) :
    SchedulerEvent.count (qxStatAggregateScheduler server.collector.slots dboid) event =
      server.world.catalog.eventRows event := by
  have hinvariant := hrun.invariant
    (P := fun server => server.collector.trackStats = true ∧ server.Agrees dboid)
    ⟨htrack, fun event => hzero event⟩
    fun server step h hstep => Server.next_agrees h.1 h.2 hstep.1 hstep.2
  exact hinvariant.2 event

def demoLayout : SchemaLayout :=
  ⟨⟨[], [], [], []⟩, some 2200⟩

def demoServer : Server :=
  ⟨.initial demoAgents, true, List.replicate 8 none⟩

def demoTransactions (events : List Event) : List ServerEvent :=
  events.map fun event => .transaction event demoLayout

def demoRun (events : List Event) : Server :=
  (demoTransactions events).foldl (Server.next 5) demoServer

/-- An attempt is left behind, its lease is renewed and then reclaimed, and the task is retried. -/
def demoRetried : List Event :=
  demoReclaim ++ [demoRetryCycle (demoEnv 3000000000)]

theorem demoRetried_scheduler_counters :
    (∀ event, SchedulerEvent.count (qxStatAggregateScheduler (demoRun demoRetried).collector.slots 5)
      event = (demoRun demoRetried).world.catalog.eventRows event) ∧
    [SchedulerEvent.renew, .reclaim, .release, .retryDispatch, .deadLetter].map
      (demoRun demoRetried).world.catalog.eventRows = [1, 1, 1, 1, 0] := by
  have hallowed : AllowedAlong (Server.next 5)
      (fun server step => server.HasRoom 5 step ∧ server.Accountable 5 step) demoServer
      (demoTransactions demoRetried) := by decide +kernel
  have hzero : ∀ event,
      SchedulerEvent.count (qxStatAggregateScheduler demoServer.collector.slots 5) event = 0 := by
    intro event
    cases event <;> rfl
  exact ⟨scheduler_counters_eq_rows rfl hzero hallowed.runsTo, by decide +kernel⟩

/-- A task is run and rolled back after its last action. -/
def demoRolledBack : List Event :=
  [{ demoSubmit with fate := .rollback 100 }]

/-- An attempt is left behind, and the test tick renews its lease. -/
def demoTicked : List Event :=
  [demoAbandon, ⟨1, demoEnv 2000, .workerTick, .commit⟩]

/-- An attempt is left behind, and a recovery scan fences it. -/
def demoScanned : List Event :=
  [demoAbandon, ⟨2, demoEnv 2000, .startupRecovery, .commit⟩]

/-- With room for every report, the release of a transaction that is rolled back is counted, and
the renewals of a tick and the reclaims of a recovery scan are not. -/
theorem scheduler_counters_diverge :
    (∀ events ∈ [demoRolledBack, demoTicked, demoScanned],
      AllowedAlong (Server.next 5) (Server.HasRoom 5) demoServer (demoTransactions events)) ∧
    ((qxStatAggregateScheduler (demoRun demoRolledBack).collector.slots 5).releaseCount = 1 ∧
      (demoRun demoRolledBack).world.catalog.eventRows .release = 0) ∧
    ((qxStatAggregateScheduler (demoRun demoTicked).collector.slots 5).renewCount = 0 ∧
      (demoRun demoTicked).world.catalog.eventRows .renew = 1) ∧
    ((qxStatAggregateScheduler (demoRun demoScanned).collector.slots 5).reclaimCount = 0 ∧
      (demoRun demoScanned).world.catalog.eventRows .reclaim = 1) := by
  decide +kernel

end QhapaqXian
