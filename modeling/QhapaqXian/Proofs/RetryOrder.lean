import Mathlib
import QhapaqXian.Proofs.RetryRuns

/-!
# The order of the retries

The comparison of two candidates is the lexicographic order of their keys, which a task determines.
-/

namespace QhapaqXian

open Library Script Txn

variable {env : Env} {s : Backend} {slot : WorkerSlot}

/-! ## The comparison -/

def RetryCandidate.key (candidate : RetryCandidate) : Int ×ₗ Int ×ₗ Int ×ₗ Int ×ₗ Nat :=
  toLex (-qxSchedulerPriorityWeight candidate.queue.priority, toLex (candidate.queue.eligibleAt,
    toLex (candidate.queue.enqueuedAt, toLex (candidate.failed.seqno, candidate.task.oid))))

lemma qxRuntimeRetryCandidateBetter_iff (candidate best : RetryCandidate) :
    qxRuntimeRetryCandidateBetter candidate best = true ↔ candidate.key < best.key := by
  unfold qxRuntimeRetryCandidateBetter RetryCandidate.key
  simp only [Prod.Lex.toLex_lt_toLex, Int.neg_lt_neg_iff, Int.neg_inj]
  split_ifs with hweight heligible henqueued hseqno
  all_goals simp_all

lemma RetryCandidate.taskoid_of_key {candidate other : RetryCandidate}
    (h : candidate.key = other.key) : candidate.task.oid = other.task.oid := by
  simp only [RetryCandidate.key, toLex_inj, Prod.mk.injEq] at h
  exact h.2.2.2.2

lemma foldl_betterRetry_eq_argmin (choices : List RetryCandidate) :
    choices.foldl betterRetry none = choices.argmin RetryCandidate.key := by
  unfold List.argmin
  congr 1
  funext selected candidate
  cases selected with
  | none => rfl
  | some best => simp [betterRetry, List.argAux, qxRuntimeRetryCandidateBetter_iff]

/-! ## The candidates of a cycle -/

/-- A task whose retry is due and whose retries are not used up, with its last attempt and the
latest queue row of that attempt. -/
structure EligibleRetry (env : Env) (slot : WorkerSlot) (cat : Catalog)
    (candidate : RetryCandidate) : Prop where
  due : (cat.view candidate.task.oid).dueRetry env slot = some candidate
  left : candidate.exhausted = false

section Eligible

variable {cat : Catalog} {candidate other : RetryCandidate}

lemma EligibleRetry.eq_of_taskoid (h : EligibleRetry env slot cat candidate)
    (h' : EligibleRetry env slot cat other) (hoid : other.task.oid = candidate.task.oid) :
    other = candidate := by
  have hdue := h'.due
  rw [hoid, h.due] at hdue
  exact (Option.some.inj hdue).symm

lemma mem_retryChoices_iff (hcat : cat.Sound) :
    candidate ∈ retryChoices env slot cat (cat.buildTaskInfoList env invalidOid) ↔
      EligibleRetry env slot cat candidate := by
  constructor
  · intro hmem
    obtain ⟨hmem, hleft⟩ := List.mem_filter.mp hmem
    obtain ⟨task, -, hdue⟩ := List.mem_filterMap.mp hmem
    obtain ⟨earlier, hcandidate⟩ := due_of_dueRetry (s := ⟨cat, none⟩) (hcat task.oid) hdue
    have hoid := due_taskoid (s := ⟨cat, none⟩) hcandidate
    exact ⟨hoid ▸ hdue, by simpa using hleft⟩
  · intro h
    obtain ⟨earlier, hdue⟩ :=
      due_of_dueRetry (s := ⟨cat, none⟩) (hcat candidate.task.oid) h.due
    apply List.mem_filter.mpr
    refine ⟨List.mem_filterMap.mpr ⟨candidate.task, ?_, h.due⟩, by simp [h.left]⟩
    exact mem_buildTaskInfoList.mpr ⟨(Table.find?_eq_some_iff.mp hdue.current.task_eq).1, rfl⟩

lemma selectedRetry_best (hcat : cat.Sound) (h : EligibleRetry env slot cat candidate) :
    ∃ best, selectedRetry env slot cat = some best ∧ EligibleRetry env slot cat best ∧
      ∀ other, EligibleRetry env slot cat other → other ≠ best →
        qxRuntimeRetryCandidateBetter best other = true := by
  have hselected : selectedRetry env slot cat = List.argmin RetryCandidate.key
      (retryChoices env slot cat (cat.buildTaskInfoList env invalidOid)) :=
    foldl_betterRetry_eq_argmin _
  have hmem := (mem_retryChoices_iff hcat).mpr h
  cases hbest : List.argmin RetryCandidate.key
      (retryChoices env slot cat (cat.buildTaskInfoList env invalidOid)) with
  | none =>
    rw [List.argmin_eq_none.mp hbest] at hmem
    cases hmem
  | some best =>
    have heligible := (mem_retryChoices_iff hcat).mp (List.argmin_mem hbest)
    refine ⟨best, hselected.trans hbest, heligible, ?_⟩
    intro other hother hne
    apply (qxRuntimeRetryCandidateBetter_iff best other).mpr
    apply lt_of_le_of_ne (List.le_of_mem_argmin ((mem_retryChoices_iff hcat).mpr hother) hbest)
    intro hkey
    exact hne (heligible.eq_of_taskoid hother (RetryCandidate.taskoid_of_key hkey).symm)

end Eligible

/-! ## The dispatch of a cycle -/

def Action.startedTask : Action → Option Oid
  | .insertAttempt row => some row.taskoid
  | _ => none

/-- After a pass that starts nothing the cycle dispatches one candidate, and ends as its dispatch
does. -/
structure DispatchesOnly (env : Env) (slot : WorkerSlot) (s : Backend) (best : RetryCandidate)
    (swept : List Action) : Prop where
  pass : ∃ intake, (fold (retryTask env slot) (s.catalog.buildTaskInfoList env invalidOid)
    ⟨.zero, none⟩).Returns s swept intake
  idle : swept.filterMap Action.startedTask = []
  journal : ((qxRuntimeRunSchedulerRetryCycle env slot).run s).1 =
    swept ++ ((qxRuntimeDispatchRetryTask env slot best).run (replay s swept)).1
  outcome : (qxRuntimeRunSchedulerRetryCycle env slot).Succeeds s ↔
    (qxRuntimeDispatchRetryTask env slot best).Succeeds (replay s swept)
  started : ∀ journal stats, (qxRuntimeRunSchedulerRetryCycle env slot).Returns s journal stats →
    journal.filterMap Action.startedTask = [best.task.oid] ∧ stats.retryDispatches = 1

section Cycle

variable {best : RetryCandidate} {swept journal : List Action} {intake : RetryIntake}

lemma run_retryCycle (hselected : selectedRetry env slot s.catalog = some best)
    (hchoice : intake.selected = selectedRetry env slot s.catalog)
    (hswept : (fold (retryTask env slot) (s.catalog.buildTaskInfoList env invalidOid)
      ⟨.zero, none⟩).Returns s swept intake) :
    (qxRuntimeRunSchedulerRetryCycle env slot).run s =
      (swept ++ ((qxRuntimeDispatchRetryTask env slot best).run (replay s swept)).1,
        ((qxRuntimeDispatchRetryTask env slot best).run (replay s swept)).2.map fun dispatched =>
          let count := if dispatched then 1 else 0
          let waiting :=
            if intake.stats.retryReadyTasks > 0 then intake.stats.retryReadyTasks - 1 else 0
          { intake.stats with
            retryDispatches := intake.stats.retryDispatches + count
            heartbeatsWritten := intake.stats.heartbeatsWritten + 2 * count
            retryWaitingTasks := intake.stats.retryWaitingTasks + waiting }) := by
  have hcatalog {β : Type} (f : Catalog → Txn β) : (catalog >>= f).run s = (f s.catalog).run s := rfl
  unfold qxRuntimeRunSchedulerRetryCycle
  rw [hcatalog, run_bind, show Script.run _ s = (swept, .ok intake) from hswept]
  dsimp only
  rw [hchoice, hselected]
  dsimp only
  rw [run_bind]
  rcases (qxRuntimeDispatchRetryTask env slot best).run (replay s swept) with ⟨rest, result⟩
  cases result with
  | error e => rfl
  | ok dispatched =>
    dsimp only [Except.map]
    rw [show ∀ stats : CycleStats, (pure stats : Txn CycleStats).run
      (replay (replay s swept) rest) = ([], .ok stats) from fun _ => rfl, List.append_nil]

lemma retryTask_yields (intake : RetryIntake) (task : TaskRow) :
    (retryTask env slot intake task).Yields fun intake' =>
      intake'.stats.retryDispatches = intake.stats.retryDispatches ∧
        ∀ candidate, intake'.selected = some candidate →
          intake.selected = some candidate ∨ candidate.task = task := by
  dsimp only [retryTask, retryAttempt, considerRetry]
  split
  · exact yields_pure ⟨rfl, fun _ => .inl⟩
  split
  · exact yields_pure ⟨rfl, fun _ => .inl⟩
  refine yields_bind fun attempt => yields_bind fun cat => ?_
  split
  · exact yields_pure ⟨rfl, fun _ => .inl⟩
  split
  · exact yields_pure ⟨rfl, fun _ => .inl⟩
  split
  · exact yields_pure ⟨rfl, fun _ => .inl⟩
  split
  · exact yields_pure ⟨rfl, fun _ => .inl⟩
  split
  · exact yields_bind fun _ => yields_pure ⟨rfl, fun _ => .inl⟩
  · apply yields_pure
    unfold RetryIntake.select
    split
    · refine ⟨rfl, fun candidate hselected => .inr ?_⟩
      exact (congrArg RetryCandidate.task (Option.some.inj hselected)).symm
    · exact ⟨rfl, fun _ => .inl⟩

lemma qxRuntimeDispatchRetryTask_yields {candidate : RetryCandidate}
    (hstate : candidate.task.state = .queued) (hfailed : candidate.failed.state = .failed) :
    (qxRuntimeDispatchRetryTask env slot candidate).Yields fun dispatched => dispatched = true := by
  dsimp only [qxRuntimeDispatchRetryTask]
  rw [if_neg (by rw [hstate, hfailed]; decide)]
  repeat refine yields_bind fun _ => ?_
  exact yields_pure rfl

lemma retryTask_starts_none (intake : RetryIntake) (task : TaskRow) :
    (retryTask env slot intake task).Emits fun action => action.startedTask = none := by
  dsimp only [retryTask, retryAttempt, considerRetry, qxRuntimeDeadLetterRetryTask]
  split
  · exact emits_pure _
  split
  · exact emits_pure _
  refine emits_bind (emits_lookupAttempt _) fun attempt => emits_bind emits_catalog fun cat => ?_
  split
  · exact emits_pure _
  split
  · exact emits_pure _
  split
  · exact emits_pure _
  split
  · exact emits_pure _
  split
  · refine emits_bind ?_ fun _ => emits_pure _
    split
    · exact emits_pure _
    · simp [insertSchedulerQueue, updateAttemptState, updateTaskRuntime, insertTrace, newOid,
        catalog, lookupAttempt, lookupTask, found, Script.bind_assoc, Action.startedTask]
  · exact emits_pure _

lemma dispatchesOnly_of_selected (hcat : s.catalog.Sound)
    (hselected : selectedRetry env slot s.catalog = some best) :
    ∃ swept, DispatchesOnly env slot s best swept := by
  obtain ⟨swept, intake, hswept⟩ : (fold (retryTask env slot)
      (s.catalog.buildTaskInfoList env invalidOid) ⟨.zero, none⟩).Succeeds s :=
    retryPass_succeeds hcat
  have hpass := retryPass_returns (env.inputs s.catalog.agents) hcat hswept
  have hchoice : intake.selected = selectedRetry env slot s.catalog := hpass.choice
  have hrun := run_retryCycle hselected hchoice hswept
  have hidle : swept.filterMap Action.startedTask = [] :=
    List.filterMap_eq_nil_iff.mpr ((emits_fold retryTask_starts_none _ _).mem_returns hswept)
  have hcount : intake.stats.retryDispatches = 0 :=
    (yields_fold (Q := fun intake : RetryIntake => intake.stats.retryDispatches = 0)
      (fun _ _ h => (retryTask_yields _ _).mono fun _ h' => h'.1.trans h) _ rfl).of_returns hswept
  refine ⟨swept, ⟨intake, hswept⟩, hidle, by rw [hrun], ?_, ?_⟩
  · unfold Succeeds Returns
    rw [hrun]
    rcases (qxRuntimeDispatchRetryTask env slot best).run (replay s swept) with ⟨rest, result⟩
    cases result <;> simp [Except.map]
  · intro journal stats hreturns
    -- the selected candidate is still due where the pass has led
    have hview := hpass.view_selected hcat hselected
    have hsound := hpass.evolves.sound hcat best.task.oid
    obtain ⟨hdue, -⟩ := selectedRetry_due hcat hselected
    rw [← hview] at hdue
    obtain ⟨earlier, hcandidate⟩ := due_of_dueRetry hsound hdue
    rw [Returns, hrun] at hreturns
    rcases hdispatch : (qxRuntimeDispatchRetryTask env slot best).run (replay s swept) with
      ⟨rest, result⟩
    rw [hdispatch] at hreturns
    cases result with
    | error e => simp [Except.map] at hreturns
    | ok dispatched =>
      obtain ⟨rfl, hstats⟩ := Prod.mk.inj hreturns
      obtain ⟨rows, ctx, hw, rfl, -⟩ := qxRuntimeDispatchRetryTask_returns hcandidate hdispatch
      have htrue : dispatched = true :=
        (qxRuntimeDispatchRetryTask_yields hcandidate.state hcandidate.failed).of_returns hdispatch
      constructor
      · rw [List.filterMap_append, hidle, ← hw.attempt.1]
        rfl
      · rw [← Except.ok.inj hstats, htrue]
        simp [hcount]

end Cycle

/-- The comparison orders the candidates of different tasks strictly and totally; a cycle over tasks
in any order, with at least one candidate, dispatches the best candidate and nothing else. -/
theorem retryCycle_dispatches_best (hcat : s.catalog.Sound) {candidate : RetryCandidate}
    (h : EligibleRetry env slot s.catalog candidate) :
    (∀ first : RetryCandidate, qxRuntimeRetryCandidateBetter first first = false) ∧
    (∀ first second third : RetryCandidate, qxRuntimeRetryCandidateBetter first second = true →
      qxRuntimeRetryCandidateBetter second third = true →
        qxRuntimeRetryCandidateBetter first third = true) ∧
    (∀ first second : RetryCandidate, first.task.oid ≠ second.task.oid →
      qxRuntimeRetryCandidateBetter first second = true ∨
        qxRuntimeRetryCandidateBetter second first = true) ∧
    ∃ best, EligibleRetry env slot s.catalog best ∧
      (∀ other, EligibleRetry env slot s.catalog other → other ≠ best →
        qxRuntimeRetryCandidateBetter best other = true) ∧
      ∀ env' : Env, env'.now = env.now → ∃ swept, DispatchesOnly env' slot s best swept := by
  refine ⟨?_, ?_, ?_, ?_⟩
  · intro first
    rw [Bool.eq_false_iff, Ne, qxRuntimeRetryCandidateBetter_iff]
    exact lt_irrefl _
  · intro first second third
    simp only [qxRuntimeRetryCandidateBetter_iff]
    exact lt_trans
  · intro first second hne
    simp only [qxRuntimeRetryCandidateBetter_iff]
    exact lt_or_gt_of_ne fun hkey => hne (RetryCandidate.taskoid_of_key hkey)
  · obtain ⟨best, -, heligible, hbest⟩ := selectedRetry_best hcat h
    refine ⟨best, heligible, hbest, ?_⟩
    intro env' hnow
    -- who is eligible depends on the time alone
    have hsame (other : RetryCandidate) : EligibleRetry env' slot s.catalog other ↔
        EligibleRetry env slot s.catalog other := by
      constructor
      · rintro ⟨hdue, hleft⟩
        exact ⟨by simpa only [TaskView.dueRetry, hnow] using hdue, hleft⟩
      · rintro ⟨hdue, hleft⟩
        exact ⟨by simpa only [TaskView.dueRetry, hnow] using hdue, hleft⟩
    obtain ⟨best', hselected, heligible', hbest'⟩ := selectedRetry_best hcat ((hsame best).mpr
      heligible)
    have heq : best' = best := by
      by_contra hne
      have hfirst := hbest best' ((hsame best').mp heligible') hne
      have hsecond := hbest' best ((hsame best).mpr heligible) (Ne.symm hne)
      rw [qxRuntimeRetryCandidateBetter_iff] at hfirst hsecond
      exact lt_asymm hfirst hsecond
    rw [heq] at hselected
    exact dispatchesOnly_of_selected hcat hselected

/-- Two tasks wait for a retry, one of them for its last letter only. -/
theorem demoTwoRetries_dispatches :
    ∃ best, EligibleRetry (demoEnv 3000000000) demoSlot demoTwoRetries.catalog best ∧
      ∃ swept, DispatchesOnly (demoEnv 3000000000) demoSlot (demoTwoRetries.backend 2) best
        swept := by
  have hdue : ((demoTwoRetries.catalog.view 1).dueRetry (demoEnv 3000000000) demoSlot).map
      (fun candidate => (candidate.task.oid, candidate.exhausted)) = some (1, false) := by
    decide +kernel
  obtain ⟨candidate, hdue, hfacts⟩ := Option.map_eq_some_iff.mp hdue
  obtain ⟨hoid, hleft⟩ := Prod.mk.inj hfacts
  have hreachable : demoTwoRetries.Reachable := World.reachable_run demoAgents _
  have heligible : EligibleRetry (demoEnv 3000000000) demoSlot demoTwoRetries.catalog candidate :=
    ⟨hoid ▸ hdue, hleft⟩
  obtain ⟨-, -, -, best, hbest, -, hcycle⟩ :=
    retryCycle_dispatches_best (s := demoTwoRetries.backend 2) hreachable.sound heligible
  exact ⟨best, hbest, hcycle _ rfl⟩

end QhapaqXian
