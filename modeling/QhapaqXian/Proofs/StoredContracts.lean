import Mathlib
import QhapaqXian.Proofs.RetryOrder

/-!
# The contracts a task executes

The plan of a task stores one contract for its first phase and one for its resumption: of the
authorised contracts the one with the least and the one with the greatest route. Nothing changes
these columns of a stored task.
-/

namespace QhapaqXian

open Library Script Txn

variable {contract : CString} {execution : Execution} {journal : List Action} {tools : List CString}
  {request : TaskRequest} {α : Type}

/-! ## The choice of the plan -/

def routeRank (contract : CString) : Int :=
  qxPlanRouteRank (qxMakeToolDecision contract)

def routeChoice (entry : CString × Nat) : RouteChoice :=
  ⟨entry.1, routeRank entry.1, entry.2⟩

def RouteChoice.key (choice : RouteChoice) : Int ×ₗ Nat :=
  toLex (choice.rank, choice.index)

lemma RouteChoice.better_submit_iff (choice candidate : RouteChoice) :
    better false choice candidate = true ↔ candidate.key < choice.key := by
  simp [better, key, Prod.Lex.toLex_lt_toLex]

lemma RouteChoice.better_resume_iff (choice candidate : RouteChoice) :
    better true choice candidate = true ↔ choice.key < candidate.key := by
  simp [better, key, Prod.Lex.toLex_lt_toLex, eq_comm (a := candidate.rank) (b := choice.rank)]

lemma qxResolvePlanPhaseContract_submit (tools : List CString) :
    qxResolvePlanPhaseContract tools false =
      ((tools.zipIdx.map routeChoice).argmin RouteChoice.key).map RouteChoice.contract := by
  dsimp only [qxResolvePlanPhaseContract, List.argmin]
  rw [List.foldl_map]
  congr 2
  funext choice entry
  cases choice with
  | none => rfl
  | some best =>
    simp only [List.argAux, RouteChoice.better_submit_iff]
    rfl

lemma qxResolvePlanPhaseContract_resume (tools : List CString) :
    qxResolvePlanPhaseContract tools true =
      ((tools.zipIdx.map routeChoice).argmax RouteChoice.key).map RouteChoice.contract := by
  dsimp only [qxResolvePlanPhaseContract, List.argmax]
  rw [List.foldl_map]
  congr 2
  funext choice entry
  cases choice with
  | none => rfl
  | some best =>
    simp only [List.argAux, RouteChoice.better_resume_iff]
    rfl

/-- The contract has the least rank among the tools, at the first position with that rank. -/
def LeastRoute (tools : List CString) (contract : CString) : Prop :=
  ∃ index : Nat, tools[index]? = some contract ∧
    ∀ (other : Nat) (contract' : CString), tools[other]? = some contract' →
      toLex (routeRank contract, index) ≤ toLex (routeRank contract', other)

/-- The contract has the greatest rank among the tools, at the last position with that rank. -/
def GreatestRoute (tools : List CString) (contract : CString) : Prop :=
  ∃ index : Nat, tools[index]? = some contract ∧
    ∀ (other : Nat) (contract' : CString), tools[other]? = some contract' →
      toLex (routeRank contract', other) ≤ toLex (routeRank contract, index)

lemma mem_routeChoices {choice : RouteChoice} :
    choice ∈ tools.zipIdx.map routeChoice ↔
      tools[choice.index]? = some choice.contract ∧ choice.rank = routeRank choice.contract := by
  simp only [List.mem_map, List.mem_zipIdx_iff_getElem?]
  constructor
  · rintro ⟨entry, hentry, rfl⟩
    exact ⟨hentry, rfl⟩
  · rintro ⟨hentry, hrank⟩
    refine ⟨(choice.contract, choice.index), hentry, ?_⟩
    rw [routeChoice, ← hrank]

lemma mem_routeChoice {index : Nat} (h : tools[index]? = some contract) :
    (⟨contract, routeRank contract, index⟩ : RouteChoice) ∈ tools.zipIdx.map routeChoice :=
  mem_routeChoices.mpr ⟨h, rfl⟩

theorem submit_least (h : qxResolvePlanPhaseContract tools false = some contract) :
    LeastRoute tools contract := by
  rw [qxResolvePlanPhaseContract_submit] at h
  obtain ⟨choice, hchoice, rfl⟩ := Option.map_eq_some_iff.mp h
  obtain ⟨hmem, hrank⟩ := mem_routeChoices.mp (List.argmin_mem hchoice)
  refine ⟨choice.index, hmem, ?_⟩
  intro other contract' hother
  have hle := List.le_of_mem_argmin
    (mem_routeChoice hother) hchoice
  rwa [RouteChoice.key, RouteChoice.key, hrank] at hle

theorem resume_greatest (h : qxResolvePlanPhaseContract tools true = some contract) :
    GreatestRoute tools contract := by
  rw [qxResolvePlanPhaseContract_resume] at h
  obtain ⟨choice, hchoice, rfl⟩ := Option.map_eq_some_iff.mp h
  obtain ⟨hmem, hrank⟩ := mem_routeChoices.mp (List.argmax_mem hchoice)
  refine ⟨choice.index, hmem, ?_⟩
  intro other contract' hother
  have hle := List.le_of_mem_argmax (mem_routeChoice hother) hchoice
  rwa [RouteChoice.key, RouteChoice.key, hrank] at hle

lemma qxResolvePlanPhaseContract_isSome (h : tools ≠ []) (preferResume : Bool) :
    (qxResolvePlanPhaseContract tools preferResume).isSome := by
  have hchoices : tools.zipIdx.map routeChoice ≠ [] := by
    simpa using h
  cases preferResume with
  | false =>
    rw [qxResolvePlanPhaseContract_submit, Option.isSome_map]
    exact Option.isSome_iff_ne_none.mpr fun hnone => hchoices (List.argmin_eq_none.mp hnone)
  | true =>
    rw [qxResolvePlanPhaseContract_resume, Option.isSome_map]
    exact Option.isSome_iff_ne_none.mpr fun hnone => hchoices (List.argmax_eq_none.mp hnone)

/-! ## The stored contracts -/

def TaskRow.contracts (task : TaskRow) : List CString × Option CString × Option CString :=
  (task.authorizedTools, task.submitContract, task.resumeContract)

def TaskRow.phaseContract (task : TaskRow) : ToolPhase → Option CString
  | .submit => qxRuntimeTaskPhaseContract task false
  | .resume => qxRuntimeTaskPhaseContract task true

lemma TaskRow.phaseContract_eq {task task' : TaskRow} (h : task'.contracts = task.contracts)
    (phase : ToolPhase) : task'.phaseContract phase = task.phaseContract phase := by
  obtain ⟨htools, hrest⟩ := Prod.mk.inj h
  obtain ⟨hsubmit, hresume⟩ := Prod.mk.inj hrest
  cases phase <;> simp only [phaseContract, qxRuntimeTaskPhaseContract, htools, hsubmit, hresume]

def Catalog.HasContracts (cat : Catalog) (taskoid : Oid)
    (contracts : List CString × Option CString × Option CString) : Prop :=
  ∃ task, cat.lookupTaskByOid taskoid = some task ∧ task.contracts = contracts

section columns

variable {taskoid : Oid} {contracts : List CString × Option CString × Option CString}

lemma find?_insert_of_some {ρ : Type} [Identified ρ] {table : Table ρ} {row other : ρ} {key : Nat}
    (h : table.find? key = some row) : (table.insert other).find? key = some row := by
  obtain ⟨hmem, hkey⟩ := Table.find?_eq_some_iff.mp h
  exact Table.find?_eq_some_iff.mpr ⟨Table.mem_insert_of_mem hmem, hkey⟩

lemma Catalog.HasContracts.apply {cat : Catalog} (h : cat.HasContracts taskoid contracts)
    (action : Action) : (cat.apply action).HasContracts taskoid contracts := by
  obtain ⟨task, htask, hcontracts⟩ := h
  have hmodify : ∀ {key : Oid} {f : TaskRow → TaskRow} (hf : ∀ row, ident (f row) = ident row),
      (∀ row, (f row).contracts = row.contracts) →
      ∃ task', (cat.tasks.modify key f hf).find? taskoid = some task' ∧
        task'.contracts = contracts := by
    intro key f hf hkeep
    have hfind : cat.tasks.find? taskoid = some task := htask
    rw [Table.find?_modify, hfind]
    split
    · exact ⟨f task, rfl, (hkeep task).trans hcontracts⟩
    · exact ⟨task, rfl, hcontracts⟩
  cases action with
  | insertTask row => exact ⟨task, find?_insert_of_some htask, hcontracts⟩
  | updateTaskRuntime _ state attemptid checkpointid =>
    exact hmodify (TaskRow.ident_updateRuntime state attemptid checkpointid) fun _ => rfl
  | chargeTaskBudget charge =>
    exact hmodify (TaskRow.ident_charge charge.tokens charge.cost) fun _ => rfl
  | _ => exact ⟨task, htask, hcontracts⟩

lemma Catalog.HasContracts.replay {s : Backend} (h : s.catalog.HasContracts taskoid contracts)
    (journal : List Action) : (replay s journal).catalog.HasContracts taskoid contracts := by
  induction journal generalizing s with
  | nil => exact h
  | cons action journal ih => exact ih (s := Replay.apply s action) (h.apply action)

end columns

/-! ## Executions read the stored contracts -/

/-- The catalogs hold a task whose contract for the phase is this one. -/
def Backend.Offers (s : Backend) (taskoid : Oid) (phase : ToolPhase) (contract : Option CString) :
    Prop :=
  ∃ task, s.catalog.lookupTaskByOid taskoid = some task ∧ task.phaseContract phase = contract

/-- An execution runs the contract that the catalogs hold for its task and phase. -/
def Action.RunsStored (s : Backend) : Action → Prop
  | .executeToolContract taskoid phase contract => s.Offers taskoid phase (some contract)
  | _ => True

section obeys

variable {env : Env} {s : Backend} {taskoid : Oid} {phase : ToolPhase} {contract : Option CString}

lemma Backend.Offers.replay (h : s.Offers taskoid phase contract) (journal : List Action) :
    (replay s journal).Offers taskoid phase contract := by
  obtain ⟨task, htask, hphase⟩ := h
  have hstored : s.catalog.HasContracts taskoid task.contracts := ⟨task, htask, rfl⟩
  obtain ⟨task', htask', hcontracts⟩ := hstored.replay journal
  exact ⟨task', htask', (TaskRow.phaseContract_eq hcontracts phase).trans hphase⟩

lemma obeys_silent {x : Txn α} (h : x.Emits Action.Silent) (s : Backend) :
    x.Obeys Action.RunsStored s := by
  refine h.obeys (fun s action haction => ?_) s
  cases action <;> first | exact trivial | exact haction.elim

lemma obeys_silent_bind {β : Type} {x : Txn α} {f : α → Txn β}
    (hoffers : s.Offers taskoid phase contract) (hx : x.Emits Action.Silent)
    (hf : ∀ t a, Backend.Offers t taskoid phase contract → (f a).Obeys Action.RunsStored t) :
    (x >>= f).Obeys Action.RunsStored s :=
  obeys_bind (obeys_silent hx s) fun journal a _ => hf _ a (hoffers.replay journal)

lemma obeys_catalog_bind {β : Type} {f : Catalog → Txn β}
    (h : (f s.catalog).Obeys Action.RunsStored s) : (catalog >>= f).Obeys Action.RunsStored s :=
  h

lemma qxExecuteToolContract_obeys {goal : Option CString} {inputPresent : Bool}
    (h : s.Offers taskoid phase contract) :
    (qxExecuteToolContract env contract phase taskoid goal inputPresent).Obeys
      Action.RunsStored s := by
  unfold qxExecuteToolContract
  refine obeys_bind (obeys_silent (emits_expect _ _) s) ?_
  intro journal stored hreturns
  obtain ⟨rfl, rfl⟩ := returns_expect_iff.mp hreturns
  exact obeys_bind (obeys_record h) fun _ _ _ => obeys_silent (emits_ofExcept _) _

lemma Blockwise.obeys {n : Nat} {x : Txn α} (h : Blockwise env s.Offers n x) :
    x.Obeys Action.RunsStored s := by
  refine h.emits.obeys_of (I := fun t : Backend => ∀ taskoid phase contract,
    s.Offers taskoid phase contract → t.Offers taskoid phase contract) ?_ ?_ fun _ _ _ => id
  · exact fun t action ht _ _ _ h => (ht _ _ _ h).replay [action]
  · intro t action ht hfits
    cases action with
    | executeToolContract taskoid phase contract => exact ht _ _ _ hfits
    | _ => trivial

/-! ### The commands -/

lemma ensureScan_silent (ownerid : Oid) :
    (qxRuntimeEnsureStartupRecoveryScan env ownerid).Emits Action.Silent :=
  (qxRuntimeEnsureStartupRecoveryScan_emits ownerid).mono fun action h => by
    cases action <;> trivial

attribute [local simp] insertAttempt insertSchedulerQueue updateTaskRuntime chargeTaskBudget newOid
  catalog lookupTask found Script.bind_assoc Action.Plain

lemma qxRuntimeResumeTask_obeys (label : Option CString) (ownerid : Oid) :
    (qxRuntimeResumeTask env taskoid label ownerid).Obeys Action.RunsStored s := by
  unfold qxRuntimeResumeTask
  refine obeys_bind (obeys_silent (checkResumable_emits _ _ _) s) ?_
  rintro journal ⟨task, checkpoint⟩ hreturns
  obtain ⟨rfl, htask, -⟩ := checkResumable_returns hreturns
  have h : s.Offers taskoid .resume (qxRuntimeTaskPhaseContract task true) := ⟨task, htask, rfl⟩
  refine obeys_silent_bind h (nextAttemptSeqno_emits _) fun s _ h => ?_
  refine obeys_silent_bind h (emits_require _ _) fun s _ h => ?_
  refine obeys_silent_bind h (ensureScan_silent _) fun s _ h => ?_
  refine (show Blockwise env s.Offers 1 _ from ?_).obeys
  refine plain_bind (by simp) fun _ => plain_bind (by simp) fun _ => ?_
  refine plain_bind (by simp) fun _ => plain_bind (by simp) fun _ => ?_
  exact .bind_last (completeAttempt_blocks h _) fun _ => .pure _

lemma AdmitRows.Written.task_eq {rows : AdmitRows} {ctx : AttemptContext}
    (hw : rows.Written request ctx) (view : TaskView) :
    ((rows.actions ctx).foldl (TaskView.apply ctx.taskoid) view).task =
      some (rows.task.updateRuntime .running (some ctx.attemptoid) none) := by
  have htask : rows.task.oid = ctx.taskoid := by rw [hw.task]
  simp only [actions, List.foldl_cons, List.foldl_nil, TaskView.apply, htask, hw.attempt,
    hw.queue_taskoid, hw.step, if_true, Option.map_some]

lemma admitTask_stores {label : Option CString} {ctx : DispatchedAttempt}
    (h : (admitTask env request contract label).Returns s journal ctx) :
    (replay s journal).catalog.HasContracts ctx.taskoid request.toRow.contracts := by
  obtain ⟨-, -, -, -, -, rows, hw, hjournal, hm⟩ := admitTask_returns h
  have htask := hw.task_eq (s.catalog.view ctx.taskoid)
  rw [← hjournal, ← hm.self] at htask
  refine ⟨_, htask, ?_⟩
  rw [hw.task]
  rfl

/-- What is stored for a phase is what the request asks for: an empty contract falls back to the
same tool in both. -/
lemma phaseContract_toRow (request : TaskRequest) :
    request.toRow.phaseContract .submit = qxRuntimeRequestPhaseContract request false := by
  have hrow : request.toRow.phaseContract .submit =
      if isNullOrEmpty (qxRuntimeRequestPhaseContract request false) = true then
        request.authorizedTools.head? else qxRuntimeRequestPhaseContract request false := rfl
  rw [hrow]
  by_cases hempty : isNullOrEmpty request.submitContract = true
  · have hhead : qxRuntimeRequestPhaseContract request false = request.authorizedTools.head? := by
      simp [qxRuntimeRequestPhaseContract, hempty]
    rw [hhead, ite_self]
  · have hselected : qxRuntimeRequestPhaseContract request false = request.submitContract := by
      simp [qxRuntimeRequestPhaseContract, hempty]
    rw [hselected, if_neg hempty]

lemma admitTask_offers {label : Option CString}
    {ctx : DispatchedAttempt}
    (h : (admitTask env request (qxRuntimeRequestPhaseContract request false) label).Returns s
      journal ctx) :
    (replay s journal).Offers ctx.taskoid .submit ctx.contract := by
  obtain ⟨-, -, hcontract, -⟩ := admitTask_returns h
  obtain ⟨task, htask, hcontracts⟩ := admitTask_stores h
  refine ⟨task, htask, ?_⟩
  rw [TaskRow.phaseContract_eq hcontracts, phaseContract_toRow, hcontract]

lemma qxRuntimeSubmitTask_obeys (request : TaskRequest) :
    (qxRuntimeSubmitTask env request).Obeys Action.RunsStored s := by
  unfold qxRuntimeSubmitTask
  refine obeys_bind (obeys_silent (ensureScan_silent _) _) fun _ _ _ => ?_
  have hadmits (contract label : Option CString) :
      (admitTask env request contract label).Emits Action.Silent :=
    (admitTask_plain request contract label).mono fun action h => by cases action <;> trivial
  refine obeys_bind (obeys_silent (hadmits _ _) _) fun journal ctx hadmit => ?_
  have hctx := (admitTask_yields _ _ _).of_returns hadmit
  refine (show Blockwise env _ 1 _ from ?_).obeys
  refine plain_bind (by simp) fun _ => ?_
  exact .bind_last (captureAttempt_blocks hctx (admitTask_offers hadmit) _) fun _ => .pure _

lemma runTask_obeys (stmt : RunTaskStmt) (authorization : Except QxError ToolAuthorization) :
    (runTask env stmt authorization).Obeys Action.RunsStored s := by
  unfold runTask
  refine obeys_bind (obeys_silent (qxPlanRunTask_emits _ _ _) _) fun _ request _ => ?_
  refine obeys_bind (obeys_silent (qxValidateAgentPlanCapabilities_emits _) _) fun _ _ _ => ?_
  exact qxRuntimeSubmitTask_obeys request

lemma resumeTask_obeys (stmt : ResumeTaskStmt) :
    (resumeTask env stmt).Obeys Action.RunsStored s :=
  obeys_bind (obeys_silent (qxPlanResumeTask_emits stmt) _) fun _ _ _ =>
    qxRuntimeResumeTask_obeys _ _

lemma retryPass_selects {slot : WorkerSlot} {tasks : List TaskRow} {intake intake' : RetryIntake}
    (hnone : intake.selected = none)
    (h : (fold (retryTask env slot) tasks intake).Returns s journal intake') :
    ∀ candidate, intake'.selected = some candidate → candidate.task ∈ tasks := by
  have hstart : ∀ candidate, intake.selected = some candidate → candidate.task ∈ tasks := by
    intro candidate hcandidate
    rw [hnone] at hcandidate
    cases hcandidate
  have hfold := fold_returns (I := fun rest (_ : Backend) (b : RetryIntake) => rest ⊆ tasks ∧
    ∀ candidate, b.selected = some candidate → candidate.task ∈ tasks) ?_
    ⟨List.Subset.refl _, hstart⟩ h
  · exact hfold.2
  rintro task rest t b written b' ⟨hrest, hselected⟩ hreturns
  refine ⟨fun other hother => hrest (List.mem_cons_of_mem _ hother), ?_⟩
  intro candidate hcandidate
  rcases ((retryTask_yields b task).of_returns hreturns).2 candidate hcandidate with hold | hnew
  · exact hselected candidate hold
  · rw [hnew]
    exact hrest List.mem_cons_self

lemma qxRuntimeRunSchedulerRetryCycle_obeys {slot : WorkerSlot} :
    (qxRuntimeRunSchedulerRetryCycle env slot).Obeys Action.RunsStored s := by
  refine obeys_catalog_bind ?_
  refine obeys_bind (obeys_silent (Blockwise.silent (Built.fold retryTask_blocks _ _)) _) ?_
  intro written intake hpass
  split
  · exact obeys_silent (emits_pure _) _
  · rename_i candidate hselected
    have hmem := retryPass_selects rfl hpass candidate hselected
    have hstored := view_task_of_mem (mem_buildTaskInfoList.mp hmem).1
    have hoffers : s.Offers candidate.task.oid .submit
        (qxRuntimeTaskPhaseContract candidate.task false) := ⟨candidate.task, hstored, rfl⟩
    exact obeys_bind (qxRuntimeDispatchRetryTask_blocks (hoffers.replay written)).obeys
      fun _ _ _ => obeys_silent (emits_pure _) _

lemma discard_obeys {x : Txn α} (h : x.Obeys Action.RunsStored s) :
    (x >>= fun _ => pure ()).Obeys Action.RunsStored s :=
  obeys_bind h fun _ _ _ => obeys_silent (emits_pure _) _

/-- Whatever a command executes is stored in the catalogs when it executes it. -/
theorem Command.script_obeys (command : Command) :
    (command.script env).Obeys Action.RunsStored s := by
  cases hdispatches : command.dispatches with
  | false => exact obeys_silent ((Command.script_idle hdispatches).mono fun _ h => h.1) s
  | true =>
    cases command with
    | runTask stmt authorization => exact discard_obeys (runTask_obeys stmt authorization)
    | resumeTask stmt => exact discard_obeys (resumeTask_obeys stmt)
    | retryCycle slot => exact discard_obeys qxRuntimeRunSchedulerRetryCycle_obeys
    | _ => cases hdispatches

end obeys

/-! ## Runs -/

section runs

variable {world : World} {event : Event} {taskoid : Oid}
  {contracts : List CString × Option CString × Option CString}

/-- An execution of this contract in this phase is one that a task with such columns asks for. -/
def Execution.Follows (execution : Execution)
    (contracts : List CString × Option CString × Option CString) : Prop :=
  ∃ task : TaskRow, task.contracts = contracts ∧
    task.phaseContract execution.phase = some execution.contract

lemma World.executed_offers (h : execution ∈ world.executed event) :
    ∃ before rest, world.carriedOut event = before ++ rest ∧
      (replay (world.backend event.backend) before).Offers execution.taskoid execution.phase
        (some execution.contract) := by
  obtain ⟨action, haction, hexecution⟩ := List.mem_filterMap.mp h
  obtain ⟨before, after, hcarried⟩ := List.append_of_mem haction
  refine ⟨before, action :: after, hcarried, ?_⟩
  have hrun : ∃ later, (world.outcome event).1 = before ++ action :: later := by
    unfold World.carriedOut at hcarried
    split at hcarried
    · exact ⟨after, hcarried⟩
    · rename_i n _
      refine ⟨after ++ (world.outcome event).1.drop n, ?_⟩
      rw [← List.cons_append, ← List.append_assoc, ← hcarried, List.take_append_drop]
  obtain ⟨later, hrun⟩ := hrun
  have hobeys := event.command.script_obeys.mem_run hrun
  cases action <;> simp only [Action.execution, Option.some.injEq, reduceCtorEq] at hexecution
  subst hexecution
  exact hobeys

lemma Backend.Offers.follows {s : Backend}
    (h : s.Offers execution.taskoid execution.phase (some execution.contract))
    (hstored : s.catalog.HasContracts execution.taskoid contracts) :
    execution.Follows contracts := by
  obtain ⟨task, htask, hphase⟩ := h
  obtain ⟨task', htask', hcontracts⟩ := hstored
  obtain rfl := Option.some.inj (htask.symm.trans htask')
  exact ⟨task, hcontracts, hphase⟩

lemma World.executed_follows (hstored : world.catalog.HasContracts taskoid contracts)
    (h : execution ∈ world.executed event) (htask : execution.taskoid = taskoid) :
    execution.Follows contracts := by
  obtain ⟨before, rest, -, hoffers⟩ := World.executed_offers h
  have hkept : (world.backend event.backend).catalog.HasContracts taskoid contracts := hstored
  exact hoffers.follows (htask ▸ hkept.replay before)

lemma World.executed_follows_of_commits (hcommits : world.Commits event)
    (hstored : (world.next event).catalog.HasContracts taskoid contracts)
    (h : execution ∈ world.executed event) (htask : execution.taskoid = taskoid) :
    execution.Follows contracts := by
  obtain ⟨before, rest, hcarried, hoffers⟩ := World.executed_offers h
  have hthen := hoffers
  obtain ⟨task, hlookup, -⟩ := hthen
  have hfound : (replay (world.backend event.backend) before).catalog.HasContracts
      execution.taskoid task.contracts := ⟨task, hlookup, rfl⟩
  have hend := hfound.replay rest
  rw [World.next, if_pos hcommits] at hstored
  rw [← replay_append, ← hcarried, htask] at hend
  obtain ⟨task₁, hlookup₁, hcontracts₁⟩ := hend
  obtain ⟨task₂, hlookup₂, hcontracts₂⟩ := hstored
  obtain rfl := Option.some.inj (hlookup₁.symm.trans hlookup₂)
  refine hoffers.follows ?_
  rw [← hcontracts₂, hcontracts₁]
  exact hfound

lemma World.next_hasContracts (hstored : world.catalog.HasContracts taskoid contracts)
    (event : Event) : (world.next event).catalog.HasContracts taskoid contracts := by
  by_cases hcommits : world.Commits event
  · rw [World.next, if_pos hcommits]
    have hkept : (world.backend event.backend).catalog.HasContracts taskoid contracts := hstored
    exact hkept.replay _
  · rw [World.next, if_neg hcommits]
    exact hstored

lemma World.leads_follows {world' : World}
    (hstored : world.catalog.HasContracts taskoid contracts)
    (hleads : World.Leads World.anyEvent world world') :
    world'.catalog.HasContracts taskoid contracts ∧
      ∃ recent, world'.executions = world.executions ++ recent ∧
        ∀ execution ∈ recent, execution.taskoid = taskoid → execution.Follows contracts := by
  induction hleads with
  | refl => exact ⟨hstored, [], (List.append_nil _).symm, nofun⟩
  | @tail mid _ _ hstep ih =>
    obtain ⟨event, -, rfl⟩ := hstep
    obtain ⟨hmid, recent, hrecent, hfollows⟩ := ih
    refine ⟨World.next_hasContracts hmid event, recent ++ mid.executed event, ?_, ?_⟩
    · rw [← List.append_assoc, ← hrecent]
      rfl
    · intro execution hexecution htask
      rcases List.mem_append.mp hexecution with hold | hnew
      · exact hfollows execution hold htask
      · exact World.executed_follows hmid hnew htask

end runs

/-! ## Planned tasks -/

lemma isNullOrEmpty_some {text : CString} (h : text ≠ []) : isNullOrEmpty (some text) = false := by
  cases text with
  | nil => exact absurd rfl h
  | cons => rfl

section planned

variable {env : Env} {s : Backend} {journal : List Action}

lemma qxPlanRunTask_contracts (stmt : RunTaskStmt) (ownerid : Oid) (toolauth : ToolAuthorization) :
    (qxPlanRunTask env stmt ownerid (.ok toolauth)).Yields fun request =>
      request.authorizedTools = toolauth.toolContracts ∧
      request.submitContract = qxResolvePlanPhaseContract toolauth.toolContracts false ∧
      request.resumeContract = qxResolvePlanPhaseContract toolauth.toolContracts true := by
  unfold qxPlanRunTask
  refine yields_bind fun _ => yields_bind fun _ => yields_bind fun _ => yields_bind fun _ => ?_
  refine yields_bind fun _ => yields_bind fun _ => yields_bind fun _ => yields_bind fun _ => ?_
  refine yields_bind_of (Q := fun authorized => authorized = toolauth) rfl ?_
  rintro _ rfl
  exact yields_bind fun _ => yields_bind fun _ => yields_pure ⟨rfl, rfl, rfl⟩

lemma forEach_returns_mem {f : α → Txn Unit} {as : List α} {u : Unit}
    (h : (forEach f as).Returns s journal u) :
    ∀ a ∈ as, ∃ t written u', (f a).Returns t written u' := by
  unfold forEach at h
  induction as generalizing s journal with
  | nil => nofun
  | cons first rest ih =>
    obtain ⟨j₁, u', j₂, hfirst, hrest, -⟩ := returns_bind_iff.mp h
    intro a ha
    rcases List.mem_cons.mp ha with rfl | hmem
    · exact ⟨s, j₁, u', hfirst⟩
    · exact ih hrest a hmem

lemma validated_tools {u : Unit} (h : (qxValidateAgentPlanCapabilities tools).Returns s journal u) :
    tools ≠ [] ∧ ∀ contract ∈ tools, contract ≠ [] := by
  unfold qxValidateAgentPlanCapabilities at h
  obtain ⟨hsome, h⟩ := returns_check_bind_iff.mp h
  refine ⟨by simpa using hsome, ?_⟩
  rintro contract hmem rfl
  obtain ⟨t, written, u', hvalid⟩ := forEach_returns_mem h _ (List.mem_map_of_mem hmem)
  unfold qxValidateToolDecision at hvalid
  obtain ⟨-, hvalid⟩ := returns_check_bind_iff.mp hvalid
  obtain ⟨hcomplete, -⟩ := returns_check_bind_iff.mp hvalid
  revert hcomplete
  decide +kernel

lemma planned_row (htools : request.authorizedTools = tools)
    (hsubmit : request.submitContract = qxResolvePlanPhaseContract tools false)
    (hresume : request.resumeContract = qxResolvePlanPhaseContract tools true) (hsome : tools ≠ [])
    (hnonempty : ∀ contract ∈ tools, contract ≠ []) :
    ∃ submit resume, LeastRoute tools submit ∧ GreatestRoute tools resume ∧
      submit ≠ [] ∧ resume ≠ [] ∧
      request.toRow.contracts = (tools, some submit, some resume) := by
  obtain ⟨submit, hleast⟩ :=
    Option.isSome_iff_exists.mp (qxResolvePlanPhaseContract_isSome hsome false)
  obtain ⟨resume, hgreatest⟩ :=
    Option.isSome_iff_exists.mp (qxResolvePlanPhaseContract_isSome hsome true)
  rw [hleast] at hsubmit
  rw [hgreatest] at hresume
  have hsubmit' : submit ≠ [] := by
    obtain ⟨index, hindex, -⟩ := submit_least hleast
    exact hnonempty _ (List.mem_of_getElem? hindex)
  have hresume' : resume ≠ [] := by
    obtain ⟨index, hindex, -⟩ := resume_greatest hgreatest
    exact hnonempty _ (List.mem_of_getElem? hindex)
  refine ⟨submit, resume, submit_least hleast, resume_greatest hgreatest, hsubmit', hresume', ?_⟩
  simp [TaskRow.contracts, TaskRequest.toRow, qxRuntimeRequestPhaseContract, htools, hsubmit,
    hresume, isNullOrEmpty_some hsubmit', isNullOrEmpty_some hresume']

lemma Execution.Follows.contract_eq {submit resume : CString}
    (h : execution.Follows (tools, some submit, some resume)) (hsubmit : submit ≠ [])
    (hresume : resume ≠ []) :
    execution.contract = match execution.phase with
      | .submit => submit
      | .resume => resume := by
  obtain ⟨task, hcontracts, hphase⟩ := h
  obtain ⟨-, hrest⟩ := Prod.mk.inj hcontracts
  obtain ⟨hstored, hstored'⟩ := Prod.mk.inj hrest
  cases hcase : execution.phase with
  | submit =>
    rw [hcase] at hphase
    simp only [TaskRow.phaseContract, qxRuntimeTaskPhaseContract, Bool.false_eq_true, if_false,
      hstored, isNullOrEmpty_some hsubmit] at hphase
    exact (Option.some.inj hphase).symm
  | resume =>
    rw [hcase] at hphase
    simp only [TaskRow.phaseContract, qxRuntimeTaskPhaseContract, if_true, hstored',
      isNullOrEmpty_some hresume, Bool.false_eq_true, if_false] at hphase
    exact (Option.some.inj hphase).symm

lemma runTask_stores {stmt : RunTaskStmt} {toolauth : ToolAuthorization} {taskoid : Oid}
    (h : (runTask env stmt (.ok toolauth)).Returns s journal taskoid) :
    ∃ submit resume, LeastRoute toolauth.toolContracts submit ∧
      GreatestRoute toolauth.toolContracts resume ∧ submit ≠ [] ∧ resume ≠ [] ∧
      (replay s journal).catalog.HasContracts taskoid
        (toolauth.toolContracts, some submit, some resume) := by
  unfold runTask qxRuntimeSubmitTask at h
  obtain ⟨_, request, _, rfl, hplan, h⟩ := returns_bind_of id h
  obtain ⟨htools, hsubmit, hresume⟩ :=
    (qxPlanRunTask_contracts stmt env.userid toolauth).of_returns hplan
  obtain ⟨_, _, _, rfl, hvalid, h⟩ := returns_bind_of id h
  rw [htools] at hvalid
  obtain ⟨hsome, hnonempty⟩ := validated_tools hvalid
  obtain ⟨_, _, _, rfl, -, h⟩ := returns_bind_of id h
  obtain ⟨_, ctx, rest, rfl, hadmit, h⟩ := returns_bind_of id h
  obtain ⟨_, _, _, -, -, h⟩ := returns_bind_of id h
  obtain ⟨_, _, _, -, -, h⟩ := returns_bind_of id h
  obtain ⟨-, rfl⟩ := returns_pure_iff.mp h
  obtain ⟨submit, resume, hleast, hgreatest, hsubmit', hresume', hrow⟩ :=
    planned_row htools hsubmit hresume hsome hnonempty
  refine ⟨submit, resume, hleast, hgreatest, hsubmit', hresume', ?_⟩
  have hstored := (admitTask_stores hadmit).replay rest
  rw [hrow] at hstored
  rw [replay_append, replay_append, replay_append, replay_append]
  exact hstored

end planned

/-- The plan of a task stores the authorised contracts with the least and the greatest route, and
every execution of the task runs the one of its phase. -/
theorem planned_contracts_executed {world : World} {event : Event} {stmt : RunTaskStmt}
    {toolauth : ToolAuthorization} (hcommand : event.command = .runTask stmt (.ok toolauth))
    (hcommits : world.Commits event) :
    ∃ taskoid task submit resume,
      (runTask event.env stmt (.ok toolauth)).Returns (world.backend event.backend)
        (world.carriedOut event) taskoid ∧
      (world.next event).catalog.lookupTaskByOid taskoid = some task ∧
      task.submitContract = some submit ∧ task.resumeContract = some resume ∧
      LeastRoute toolauth.toolContracts submit ∧ GreatestRoute toolauth.toolContracts resume ∧
      ∀ world', World.Leads World.anyEvent (world.next event) world' →
        (∃ task', world'.catalog.lookupTaskByOid taskoid = some task' ∧
          task'.contracts = task.contracts) ∧
        ∃ recent, world'.executions = world.executions ++ recent ∧
          ∀ execution ∈ recent, execution.taskoid = taskoid →
            execution.contract ∈ toolauth.toolContracts ∧
              execution.contract = match execution.phase with
                | .submit => submit
                | .resume => resume := by
  have hreturns := World.returns_of_commits hcommits
  rw [hcommand] at hreturns
  obtain ⟨taskoid, hreturns⟩ := returns_of_discard hreturns
  obtain ⟨submit, resume, hleast, hgreatest, hsubmit, hresume, hstored⟩ := runTask_stores hreturns
  have hnext : (world.next event).catalog.HasContracts taskoid
      (toolauth.toolContracts, some submit, some resume) := by
    rw [World.next, if_pos hcommits]
    exact hstored
  obtain ⟨task, htask, hcontracts⟩ := hnext
  obtain ⟨-, hrest⟩ := Prod.mk.inj hcontracts
  refine ⟨taskoid, task, submit, resume, hreturns, htask, (Prod.mk.inj hrest).1,
    (Prod.mk.inj hrest).2, hleast, hgreatest, ?_⟩
  intro world' hleads
  have hnext : (world.next event).catalog.HasContracts taskoid
      (toolauth.toolContracts, some submit, some resume) := ⟨task, htask, hcontracts⟩
  obtain ⟨hkept, recent, hrecent, hfollows⟩ := World.leads_follows hnext hleads
  rw [hcontracts]
  refine ⟨hkept, world.executed event ++ recent, ?_, ?_⟩
  · rw [hrecent, ← List.append_assoc]
    rfl
  intro execution hexecution hoid
  have hfollow : execution.Follows (toolauth.toolContracts, some submit, some resume) := by
    rcases List.mem_append.mp hexecution with hown | hlater
    · exact World.executed_follows_of_commits hcommits hnext hown hoid
    · exact hfollows execution hlater hoid
  have hcontract := hfollow.contract_eq hsubmit hresume
  refine ⟨?_, hcontract⟩
  obtain ⟨first, hfirst, -⟩ := hleast
  obtain ⟨last, hlast, -⟩ := hgreatest
  rw [hcontract]
  cases execution.phase with
  | submit => exact List.mem_of_getElem? hfirst
  | resume => exact List.mem_of_getElem? hlast

def demoPodContract : CString :=
  ("tool=pod;handler=pod;principal=ops;provider=pod;provider_kind=container;" ++
    "provider_endpoint=pod").toList

def demoHostContract : CString :=
  ("tool=run;handler=run;principal=ops;provider=run;provider_kind=loopback;" ++
    "provider_endpoint=run").toList

/-- A tool that runs in a container in front of one that runs on the host. -/
def demoRoutes : ToolAuthorization :=
  ⟨some "standard".toList, [demoPodContract, demoHostContract], 4, 2, false⟩

def demoRouted : Event :=
  ⟨1, demoEnv 1000, .runTask ⟨1, some "job".toList, "go".toList, none, none⟩ (.ok demoRoutes),
    .commit⟩

def demoRoutedResumed : World :=
  ((World.initial demoAgents).next demoRouted).next
    ⟨1, demoEnv 2000, .resumeTask ⟨1, none⟩, .commit⟩

theorem demoRouted_contracts_executed :
    ∃ submit resume, LeastRoute demoRoutes.toolContracts submit ∧
      GreatestRoute demoRoutes.toolContracts resume ∧
      (demoRoutedResumed.executions.map fun execution => (execution.taskoid, execution.phase)) =
        [(1, .submit), (1, .resume)] ∧
      ∀ execution ∈ demoRoutedResumed.executions, execution.taskoid = 1 →
        execution.contract = match execution.phase with
          | .submit => submit
          | .resume => resume := by
  have hrun : (World.initial demoAgents).Commits demoRouted ∧
      ((World.initial demoAgents).next demoRouted).catalog.taskOids = [1] ∧
      (demoRoutedResumed.executions.map fun execution => (execution.taskoid, execution.phase)) =
        [(1, .submit), (1, .resume)] := by
    decide +kernel
  obtain ⟨hcommits, hoids, hexecutions⟩ := hrun
  obtain ⟨taskoid, task, submit, resume, -, htask, -, -, hleast, hgreatest, hruns⟩ :=
    planned_contracts_executed rfl hcommits
  have hone : taskoid = 1 := by
    obtain ⟨hmem, hident⟩ := Table.find?_eq_some_iff.mp htask
    have hlisted := List.mem_map_of_mem (f := ident) hmem
    rw [hident] at hlisted
    exact List.mem_singleton.mp (hoids ▸ hlisted)
  refine ⟨submit, resume, hleast, hgreatest, hexecutions, ?_⟩
  obtain ⟨-, recent, hrecent, hcontracts⟩ := hruns demoRoutedResumed (.single ⟨_, trivial, rfl⟩)
  intro execution hexecution hoid
  rw [hrecent] at hexecution
  exact (hcontracts execution hexecution (hoid.trans hone.symm)).2

end QhapaqXian
