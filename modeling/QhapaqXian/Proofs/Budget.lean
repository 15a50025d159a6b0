import Mathlib.Algebra.Order.BigOperators.Group.List
import QhapaqXian.Proofs.Reach
import QhapaqXian.Proofs.Writes

/-!
# Budgets

The counters of a task follow its charges as long as these are not negative and their sum fits into
an `int32`. Every transaction makes at most one bill for a task: the report of a tool among fixed
charges.
-/

namespace QhapaqXian

open Library Script Txn

variable {charges : List Charge} {resource : Resource} {agents : Table AgentRow} {row : TaskRow}
  {view : TaskView}

inductive Resource
  | tokens
  | cost
  deriving Repr, DecidableEq

def Charge.amount (charge : Charge) : Resource → Int
  | .tokens => charge.tokens
  | .cost => charge.cost

def ToolResult.amount (result : ToolResult) : Resource → Int
  | .tokens => result.tokenCharge
  | .cost => result.costCharge

namespace TaskRow

def consumed (row : TaskRow) : Resource → Int
  | .tokens => row.consumedTokens
  | .cost => row.consumedCost

def ceiling (row : TaskRow) : Resource → Int
  | .tokens => row.budgetTokens
  | .cost => row.budgetCost

lemma consumed_charge (row : TaskRow) (charge : Charge) (resource : Resource) :
    (row.charge charge.tokens charge.cost).consumed resource =
      wrapInt32 (row.consumed resource + charge.amount resource) := by
  cases resource <;> rfl

lemma ceiling_charge (row : TaskRow) (charge : Charge) (resource : Resource) :
    (row.charge charge.tokens charge.cost).ceiling resource = row.ceiling resource := by
  cases resource <;> rfl

lemma withinCeiling_of_affords {charge : Charge} (h : row.Affords (charge :: charges))
    (resource : Resource) :
    Txn.withinCeiling ((row.charge charge.tokens charge.cost).consumed resource)
      (row.ceiling resource) = true := by
  cases resource with
  | tokens => exact h.1
  | cost => exact h.2.1

lemma consumed_chargeAll (hafford : row.Affords charges) (hstart : 0 ≤ row.consumed resource)
    (hcharges : ∀ charge ∈ charges, 0 ≤ charge.amount resource)
    (hfits : row.consumed resource + (charges.map (Charge.amount · resource)).sum < 2 ^ 31)
    (hceiling : 0 < row.ceiling resource → row.consumed resource ≤ row.ceiling resource) :
    (row.chargeAll charges).consumed resource =
        row.consumed resource + (charges.map (Charge.amount · resource)).sum ∧
      (row.chargeAll charges).ceiling resource = row.ceiling resource ∧
      (0 < row.ceiling resource →
        (row.chargeAll charges).consumed resource ≤ row.ceiling resource) := by
  induction charges generalizing row with
  | nil => exact ⟨by simp [chargeAll], rfl, hceiling⟩
  | cons charge charges ih =>
    obtain ⟨hcharge, hcharges⟩ := List.forall_mem_cons.mp hcharges
    have hrest : 0 ≤ (charges.map (Charge.amount · resource)).sum := by
      refine List.sum_nonneg fun amount hamount => ?_
      obtain ⟨other, hother, rfl⟩ := List.mem_map.mp hamount
      exact hcharges other hother
    rw [List.map_cons, List.sum_cons] at hfits ⊢
    have hwithin := withinCeiling_of_affords hafford resource
    have hconsumed : (row.charge charge.tokens charge.cost).consumed resource =
        row.consumed resource + charge.amount resource := by
      rw [consumed_charge, wrapInt32_of_range]
      exact ⟨by omega, by omega⟩
    have hkept := ceiling_charge row charge resource
    obtain ⟨hsum, hsame, hbound⟩ := ih hafford.2.2 (by omega) hcharges (by omega) (by
      rw [hkept]
      intro hpos
      simp only [Txn.withinCeiling, Bool.not_eq_true', Bool.and_eq_false_iff,
        decide_eq_false_iff_not, not_lt] at hwithin
      omega)
    rw [hkept] at hsame hbound
    refine ⟨?_, hsame, hbound⟩
    rw [chargeAll, List.foldl_cons, ← chargeAll, hsum, hconsumed]
    omega

end TaskRow

def TaskRow.account (row : TaskRow) (resource : Resource) : Oid × Int × Int :=
  (row.agentoid, row.ceiling resource, row.consumed resource)

/-- The view of a task with its first attempt. -/
structure TaskView.Opens (view : TaskView) (inputs : Inputs) : Prop where
  task : ∃ task, view.task = some task ∧ inputs.admits task ∧ ∀ resource, task.consumed resource = 0
  charges : view.charges = []
  checkpoints : view.checkpoints = []

/-- A step makes no charges. -/
structure TaskView.Keeps (view view' : TaskView) : Prop where
  account : ∀ resource, view'.task.map (TaskRow.account · resource) =
    view.task.map (TaskRow.account · resource)
  charges : view'.charges = view.charges
  checkpoints : view'.checkpoints = view.checkpoints

/-- A step makes one bill. -/
structure TaskView.Billed (view : TaskView) (inputs : Inputs) (bill : List Charge)
    (view' : TaskView) : Prop where
  bills : inputs.Bills bill
  task : ∃ task task', view.task = some task ∧ view'.task = some task' ∧ task.Affords bill ∧
    ∀ resource, task'.account resource = (task.chargeAll bill).account resource
  charges : view'.charges = view.charges ++ bill
  checkpoints : view'.checkpoints.length = view.checkpoints.length + 1

/-- What a step does to the counters of its task. -/
theorem TaskStep.bill_cases {inputs : Inputs} {view' : TaskView} (h : TaskStep inputs view view') :
    view = .empty ∧ view'.Opens inputs ∨ view.Keeps view' ∨
      ∃ bill, view.Billed inputs bill view' := by
  have hkeeps : ∀ {task task' : TaskRow}, view.task = some task → view'.task = some task' →
      (∀ resource, task'.account resource = task.account resource) →
      view'.charges = view.charges → view'.checkpoints = view.checkpoints →
      view.Keeps view' := by
    intro task task' htask htask' haccount hcharges hcheckpoints
    refine ⟨fun resource => ?_, hcharges, hcheckpoints⟩
    rw [htask, htask', Option.map_some, Option.map_some, haccount]
  cases h with
  | launch hadmits _ _ _ hconsumed =>
    refine .inl ⟨rfl, ⟨_, rfl, hadmits, fun resource => ?_⟩, rfl, rfl⟩
    cases resource with
    | tokens => exact hconsumed.1
    | cost => exact hconsumed.2
  | capture hcurrent _ _ _ _ _ _ _ hafford hbills =>
    refine .inr (.inr ⟨_, hbills, ⟨_, _, hcurrent.task_eq, rfl, hafford, fun resource => ?_⟩, rfl,
      List.length_append⟩)
    cases resource <;> rfl
  | resume hcurrent _ _ _ _ _ _ _ _ _ _ _ hafford hbills =>
    refine .inr (.inr ⟨_, hbills, ⟨_, _, hcurrent.task_eq, rfl, hafford, fun resource => ?_⟩, rfl,
      List.length_append⟩)
    cases resource <;> rfl
  | renew => exact .inr (.inl ⟨fun _ => rfl, rfl, rfl⟩)
  | reopen hcurrent | retry hcurrent | repair hcurrent | failClosed hcurrent
  | deadLetter hcurrent =>
    exact .inr (.inl (hkeeps hcurrent.task_eq rfl (fun resource => by cases resource <;> rfl) rfl
      rfl))

def BudgetPolicy.limit (policy : BudgetPolicy) : Resource → Option Int
  | .tokens => if policy.hasTokenLimit then some policy.tokenLimit else none
  | .cost => if policy.hasCostLimit then some policy.costLimit else none

def declaredLimit (agents : Table AgentRow) (agentoid : Oid) (resource : Resource) :
    Option Int := do
  let agent ← agents.find? agentoid
  let policy ← (qxBudgetPolicyFromDefList agent.budget).toOption
  policy.limit resource

/-- The counter of a task is the sum of its charges and stays below its ceiling, which is the limit
of its agent. -/
structure TaskRow.Accounted (row : TaskRow) (agents : Table AgentRow) (charges : List Charge)
    (resource : Resource) : Prop where
  limit : ∀ limit, declaredLimit agents row.agentoid resource = some limit →
    row.ceiling resource = limit
  ceiling : 0 ≤ row.ceiling resource
  start : 0 ≤ row.consumed resource
  sum : row.consumed resource = (charges.map (Charge.amount · resource)).sum
  within : 0 < row.ceiling resource → row.consumed resource ≤ row.ceiling resource

lemma TaskRow.Accounted.of_account {row' : TaskRow} (h : row.Accounted agents charges resource)
    (haccount : row'.account resource = row.account resource) :
    row'.Accounted agents charges resource := by
  simp only [TaskRow.account, Prod.mk.injEq] at haccount
  obtain ⟨hagent, hceiling, hconsumed⟩ := haccount
  exact ⟨by rw [hagent, hceiling]; exact h.limit, by rw [hceiling]; exact h.ceiling,
    by rw [hconsumed]; exact h.start, by rw [hconsumed]; exact h.sum,
    by rw [hceiling, hconsumed]; exact h.within⟩

lemma declaredLimit_of_admits {env : Env} (h : (env.inputs agents).admits row) (resource : Resource)
    :
    (∀ limit, declaredLimit agents row.agentoid resource = some limit →
      row.ceiling resource = limit) ∧ 0 ≤ row.ceiling resource := by
  obtain ⟨agent, policy, hagent, hpolicy, htokens, hcost, hvalid⟩ := h
  simp only [declaredLimit, hagent, hpolicy, Option.bind_eq_bind, Option.bind_some,
    Except.toOption]
  cases resource with
  | tokens =>
    refine ⟨fun limit hlimit => ?_, hvalid.1⟩
    simp only [BudgetPolicy.limit, Option.ite_none_right_eq_some, Option.some.injEq] at hlimit
    exact (htokens hlimit.1).trans hlimit.2
  | cost =>
    refine ⟨fun limit hlimit => ?_, hvalid.2⟩
    simp only [BudgetPolicy.limit, Option.ite_none_right_eq_some, Option.some.injEq] at hlimit
    exact (hcost hlimit.1).trans hlimit.2

lemma TaskRow.Accounted.bill {inputs : Inputs}
    {bill : List Charge}
    (h : row.Accounted agents charges resource) (hafford : row.Affords bill)
    (hbill : inputs.Bills bill)
    (hreports : ∀ charge, inputs.reports charge → 0 ≤ charge.amount resource ∧
      row.consumed resource + charge.amount resource + 44 < 2 ^ 31) :
    (row.chargeAll bill).Accounted agents (charges ++ bill) resource ∧
      row.consumed resource ≤ (row.chargeAll bill).consumed resource := by
  obtain ⟨before, external, after, hsplit, hexternal, hfixed, htokens, hcost⟩ := hbill
  obtain ⟨hnonneg, hfits⟩ := hreports external hexternal
  have hfixed' : ∀ charge ∈ before ++ after, 0 ≤ charge.amount resource := by
    intro charge hcharge
    cases resource with
    | tokens => exact (hfixed charge hcharge).1
    | cost => exact (hfixed charge hcharge).2
  have hsmall : ((before ++ after).map (Charge.amount · resource)).sum ≤ 44 := by
    cases resource with
    | tokens => exact htokens
    | cost => exact hcost
  have hall : ∀ charge ∈ bill, 0 ≤ charge.amount resource := by
    intro charge hcharge
    rw [hsplit] at hcharge
    rcases List.mem_append.mp hcharge with hbefore | hrest
    · exact hfixed' charge (List.mem_append_left _ hbefore)
    · rcases List.mem_cons.mp hrest with rfl | hafter
      · exact hnonneg
      · exact hfixed' charge (List.mem_append_right _ hafter)
  have hsum : (bill.map (Charge.amount · resource)).sum =
      ((before ++ after).map (Charge.amount · resource)).sum + external.amount resource := by
    rw [hsplit]
    simp only [List.map_append, List.map_cons, List.sum_append, List.sum_cons]
    omega
  have hpositive : 0 ≤ (bill.map (Charge.amount · resource)).sum := by
    refine List.sum_nonneg fun amount hamount => ?_
    obtain ⟨charge, hcharge, rfl⟩ := List.mem_map.mp hamount
    exact hall charge hcharge
  obtain ⟨hconsumed, hceiling, hwithin⟩ :=
    TaskRow.consumed_chargeAll hafford h.start hall (by omega) h.within
  have hstart := h.start
  have hbefore := h.sum
  refine ⟨⟨?_, ?_, by omega, ?_, ?_⟩, by omega⟩
  · rw [hceiling, TaskRow.chargeAll_eq]
    exact h.limit
  · rw [hceiling]
    exact h.ceiling
  · rw [hconsumed, hbefore, List.map_append, List.sum_append]
  · rw [hceiling]
    exact hwithin

def TaskView.Accounted (view : TaskView) (agents : Table AgentRow) : Prop :=
  ∀ task, view.task = some task → ∀ resource, task.Accounted agents view.charges resource

def TaskView.Grows (view view' : TaskView) : Prop :=
  ∀ task, view.task = some task → ∃ task', view'.task = some task' ∧
    ∀ resource, task.consumed resource ≤ task'.consumed resource

/-- The reports that may come in are not negative and fit on top of the counters of a task. -/
def TaskView.Fits (view : TaskView) (inputs : Inputs) : Prop :=
  ∀ charge, inputs.reports charge → ∀ resource, 0 ≤ charge.amount resource ∧
    charge.amount resource + 44 < 2 ^ 31 ∧
    ∀ task, view.task = some task → task.consumed resource + charge.amount resource + 44 < 2 ^ 31

/-- What is known of a task in the middle of an event. As long as there is no new checkpoint, its
counters are those at the beginning. -/
structure BillingRun (agents : Table AgentRow) (start view : TaskView) : Prop where
  checkpoints : start.checkpoints.length ≤ view.checkpoints.length
  accounted : view.checkpoints.length ≤ start.checkpoints.length + 1 →
    view.Accounted agents ∧ start.Grows view
  unbilled : view.checkpoints.length = start.checkpoints.length →
    ∀ task, view.task = some task → ∀ resource, task.consumed resource = 0 ∨
      ∃ first, start.task = some first ∧ task.consumed resource = first.consumed resource

namespace BillingRun

variable {env : Env} {agents : Table AgentRow} {start view view' : TaskView}

lemma initially (h : view.Accounted agents) : BillingRun agents view view :=
  ⟨le_rfl, fun _ => ⟨h, fun task htask => ⟨task, htask, fun _ => le_rfl⟩⟩,
    fun _ task htask _ => .inr ⟨task, htask, rfl⟩⟩

lemma opens (h : BillingRun agents start .empty) (hopens : view'.Opens (env.inputs agents)) :
    BillingRun agents start view' := by
  obtain ⟨task, htask, hadmits, hzero⟩ := hopens.task
  have hlength : start.checkpoints.length = 0 := Nat.le_zero.mp h.checkpoints
  refine ⟨by rw [hlength]; exact Nat.zero_le _, fun _ => ⟨?_, ?_⟩, ?_⟩
  · intro other hother resource
    obtain rfl := Option.some.inj (htask.symm.trans hother)
    obtain ⟨hlimit, hceiling⟩ := declaredLimit_of_admits hadmits resource
    refine ⟨hlimit, hceiling, (hzero resource).ge, ?_, ?_⟩
    · rw [hzero, hopens.charges]
      rfl
    · rw [hzero]
      exact fun hpos => hpos.le
  · intro first hfirst
    obtain ⟨other, hother, -⟩ := (h.accounted (by rw [hlength]; exact Nat.zero_le _)).2 first hfirst
    cases hother
  · intro _ other hother resource
    obtain rfl := Option.some.inj (htask.symm.trans hother)
    exact .inl (hzero resource)

lemma keeps (h : BillingRun agents start view) (hkeeps : view.Keeps view') :
    BillingRun agents start view' := by
  have hback : ∀ task', view'.task = some task' → ∃ task, view.task = some task ∧
      ∀ resource, task'.account resource = task.account resource := by
    intro task' htask'
    have haccount := hkeeps.account
    rw [htask'] at haccount
    cases htask : view.task with
    | none =>
      rw [htask] at haccount
      cases haccount .tokens
    | some task =>
      rw [htask] at haccount
      exact ⟨task, rfl, fun resource => Option.some.inj (haccount resource)⟩
  refine ⟨hkeeps.checkpoints ▸ h.checkpoints, fun hcount => ?_,
    fun hcount task' htask' resource => ?_⟩
  · obtain ⟨haccounted, hgrows⟩ := h.accounted (hkeeps.checkpoints ▸ hcount)
    refine ⟨fun task' htask' resource => ?_, fun first hfirst => ?_⟩
    · obtain ⟨task, htask, haccount⟩ := hback task' htask'
      rw [hkeeps.charges]
      exact (haccounted task htask resource).of_account (haccount resource)
    · obtain ⟨task, htask, hgrow⟩ := hgrows first hfirst
      have haccount := hkeeps.account
      rw [htask] at haccount
      obtain ⟨task', htask', -⟩ := Option.map_eq_some_iff.mp (haccount .tokens)
      refine ⟨task', htask', fun resource => (hgrow resource).trans_eq ?_⟩
      have hsame := haccount resource
      rw [htask', Option.map_some, Option.map_some, Option.some.injEq] at hsame
      exact (congrArg (fun account => account.2.2) hsame).symm
  · obtain ⟨task, htask, haccount⟩ := hback task' htask'
    have hsame : task'.consumed resource = task.consumed resource :=
      congrArg (fun account => account.2.2) (haccount resource)
    rw [hsame]
    exact h.unbilled (hkeeps.checkpoints ▸ hcount) task htask resource

lemma billed (h : BillingRun agents start view) (hfits : start.Fits (env.inputs agents))
    {bill : List Charge} (hbilled : view.Billed (env.inputs agents) bill view') :
    BillingRun agents start view' := by
  have hlength := hbilled.checkpoints
  have hbefore := h.checkpoints
  obtain ⟨task, task', htask, htask', hafford, haccount⟩ := hbilled.task
  refine ⟨by omega, fun hcount => ?_, fun hcount => by omega⟩
  obtain ⟨haccounted, hgrows⟩ := h.accounted (by omega)
  have hunbilled := h.unbilled (by omega) task htask
  have hbill : ∀ resource,
      (task.chargeAll bill).Accounted agents (view.charges ++ bill) resource ∧
        task.consumed resource ≤ (task.chargeAll bill).consumed resource := by
    intro resource
    refine (haccounted task htask resource).bill hafford hbilled.bills fun charge hcharge => ?_
    obtain ⟨hnonneg, hsmall, hlarge⟩ := hfits charge hcharge resource
    refine ⟨hnonneg, ?_⟩
    rcases hunbilled resource with hzero | ⟨first, hfirst, hsame⟩
    · omega
    · rw [hsame]
      exact hlarge first hfirst
  refine ⟨fun other hother resource => ?_, fun first hfirst => ?_⟩
  · obtain rfl := Option.some.inj (htask'.symm.trans hother)
    rw [hbilled.charges]
    exact (hbill resource).1.of_account (haccount resource)
  · obtain ⟨other, hother, hgrow⟩ := hgrows first hfirst
    obtain rfl := Option.some.inj (htask.symm.trans hother)
    refine ⟨task', htask', fun resource => ((hgrow resource).trans (hbill resource).2).trans_eq ?_⟩
    exact (congrArg (fun account => account.2.2) (haccount resource)).symm

/-- The steps of a task in one event. -/
theorem run (hstart : start.Accounted agents) (hfits : start.Fits (env.inputs agents))
    (h : Relation.ReflTransGen (TaskStep (env.inputs agents)) start view) :
    BillingRun agents start view := by
  induction h with
  | refl => exact initially hstart
  | tail _ hstep ih =>
    rcases hstep.bill_cases with ⟨rfl, hopens⟩ | hkeeps | ⟨bill, hbilled⟩
    · exact ih.opens hopens
    · exact ih.keeps hkeeps
    · exact ih.billed hfits hbilled

end BillingRun

lemma checkpoints_apply_le (cat : Catalog) (action : Action) (taskoid : Oid) :
    ((cat.apply action).view taskoid).checkpoints.length ≤
      (cat.view taskoid).checkpoints.length + [action].countP Action.isCheckpoint := by
  cases action with
  | insertCheckpoint row =>
    simp only [Catalog.apply, Catalog.view, Table.insert]
    split
    · rw [List.filter_append, List.length_append]
      exact Nat.add_le_add_left (List.length_filter_le _ [row]) _
    · exact Nat.le_add_right _ _
  | _ => exact le_rfl

lemma checkpoints_replay_le (s : Backend) (journal : List Action) (taskoid : Oid) :
    ((replay s journal).catalog.view taskoid).checkpoints.length ≤
      (s.catalog.view taskoid).checkpoints.length + journal.countP Action.isCheckpoint := by
  induction journal generalizing s with
  | nil => exact le_rfl
  | cons action actions ih =>
    have hfirst : ((Replay.apply s action).catalog.view taskoid).checkpoints.length ≤
        (s.catalog.view taskoid).checkpoints.length + [action].countP Action.isCheckpoint :=
      checkpoints_apply_le s.catalog action taskoid
    have hrest := ih (Replay.apply s action)
    rw [← List.singleton_append, List.countP_append, List.singleton_append, replay_cons]
    omega

lemma World.checkpoints_next_le (world : World) (event : Event) (taskoid : Oid) :
    ((world.next event).catalog.view taskoid).checkpoints.length ≤
      (world.catalog.view taskoid).checkpoints.length + 1 := by
  rw [World.next]
  dsimp only
  split
  · rename_i hcommits
    have hcount : (world.carriedOut event).countP Action.isCheckpoint ≤ 1 := by
      rw [World.carriedOut, hcommits.1]
      exact (event.command.script_atMost (world.backend event.backend)).1
    exact (checkpoints_replay_le _ _ taskoid).trans (Nat.add_le_add_left hcount _)
  · exact Nat.le_add_right _ _

/-- Every report that a tool may make in the event is not negative, and it fits into an `int32` on
top of the counters of every task, with the fixed charges of a dispatch. -/
def chargesFit (world : World) (event : Event) : Prop :=
  ∀ call result, event.env.tool call = .ok result → ∀ resource, 0 ≤ result.amount resource ∧
    result.amount resource + 44 < 2 ^ 31 ∧
    ∀ taskoid task, world.catalog.lookupTaskByOid taskoid = some task →
      task.consumed resource + result.amount resource + 44 < 2 ^ 31

section runs

variable {agents : Table AgentRow} {world world' : World} {event : Event}

lemma chargesFit.fits (h : chargesFit world event) {taskoid : Oid}
    (hview : view.task = (world.catalog.view taskoid).task) :
    view.Fits (event.env.inputs agents) := by
  rintro charge ⟨call, result, hresult, htokens, hcost⟩ resource
  have hamount : charge.amount resource = result.amount resource := by
    cases resource with
    | tokens => exact htokens
    | cost => exact hcost
  rw [hamount, hview]
  obtain ⟨hnonneg, hsmall, htasks⟩ := h call result hresult resource
  exact ⟨hnonneg, hsmall, htasks taskoid⟩

lemma World.next_accounted (hcat : world.catalog.Sound)
    (haccounted : ∀ taskoid, (world.catalog.view taskoid).Accounted world.catalog.agents)
    (hfit : chargesFit world event) (taskoid : Oid) :
    ((world.next event).catalog.view taskoid).Accounted world.catalog.agents ∧
      (world.catalog.view taskoid).Grows ((world.next event).catalog.view taskoid) := by
  obtain ⟨mid, hrecovers, hevolves⟩ := World.next_stages hcat event
  have hmid := hrecovers.view_eq taskoid
  have htask : (mid.view taskoid).task = (world.catalog.view taskoid).task := by rw [hmid]
  have hstart : (mid.view taskoid).Accounted world.catalog.agents := by
    rw [hmid]
    exact haccounted taskoid
  have hcount : ((world.next event).catalog.view taskoid).checkpoints.length ≤
      (mid.view taskoid).checkpoints.length + 1 := by
    rw [hmid]
    exact world.checkpoints_next_le event taskoid
  obtain ⟨haccount, hgrows⟩ :=
    (BillingRun.run hstart (hfit.fits htask) (hevolves taskoid)).accounted hcount
  refine ⟨haccount, fun task hview => hgrows task ?_⟩
  rw [htask]
  exact hview

lemma TaskView.Grows.trans {view' view'' : TaskView} (h : view.Grows view')
    (h' : view'.Grows view'') : view.Grows view'' := by
  intro task htask
  obtain ⟨task', htask', hle⟩ := h task htask
  obtain ⟨task'', htask'', hle'⟩ := h' task' htask'
  exact ⟨task'', htask'', fun resource => (hle resource).trans (hle' resource)⟩

lemma World.agents_leads {allowed : World → Event → Prop} (h : World.Leads allowed world world') :
    world'.catalog.agents = world.catalog.agents := by
  induction h with
  | refl => rfl
  | tail _ hstep ih =>
    obtain ⟨event, -, rfl⟩ := hstep
    rw [World.agents_next, ih]

lemma World.leads_accounted (hreachable : world.Reachable)
    (haccounted : ∀ taskoid, (world.catalog.view taskoid).Accounted world.catalog.agents)
    (h : World.Leads chargesFit world world') (taskoid : Oid) :
    (world'.catalog.view taskoid).Accounted world.catalog.agents ∧
      (world.catalog.view taskoid).Grows (world'.catalog.view taskoid) := by
  induction h generalizing taskoid with
  | refl => exact ⟨haccounted taskoid, fun task htask => ⟨task, htask, fun _ => le_rfl⟩⟩
  | tail hrun hstep ih =>
    obtain ⟨event, hfit, rfl⟩ := hstep
    have hsame := World.agents_leads hrun
    have hnext := World.next_accounted (hreachable.leads hrun).sound
      (fun taskoid => hsame ▸ (ih taskoid).1) hfit taskoid
    rw [hsame] at hnext
    exact ⟨hnext.1, (ih taskoid).2.trans hnext.2⟩

/-- In a database without a limit of zero, in every run whose charges fit, the counters of a task
are the sums of its committed charges, stay within the limits of its agent and never go down. -/
theorem budget_counters_follow_charges
    (hlimits : ∀ agentoid resource, declaredLimit agents agentoid resource ≠ some 0)
    (h : World.Leads chargesFit (.initial agents) world)
    (h' : World.Leads chargesFit world world') {taskoid : Oid} {task : TaskRow}
    (htask : world.catalog.lookupTaskByOid taskoid = some task) (resource : Resource) :
    task.consumed resource =
        ((world.catalog.view taskoid).charges.map (Charge.amount · resource)).sum ∧
      (∀ limit, declaredLimit agents task.agentoid resource = some limit →
        task.consumed resource ≤ limit) ∧
      ∃ task', world'.catalog.lookupTaskByOid taskoid = some task' ∧
        task.consumed resource ≤ task'.consumed resource := by
  have hinitial : (World.initial agents).Reachable := ⟨agents, .refl⟩
  have hstart : ∀ taskoid, (world.catalog.view taskoid).Accounted agents := fun taskoid =>
    (World.leads_accounted hinitial (fun _ _ hnone => nomatch hnone) h taskoid).1
  have hagents : world.catalog.agents = agents := World.agents_leads h
  have haccount := hstart taskoid task htask resource
  refine ⟨haccount.sum, fun limit hlimit => ?_, ?_⟩
  · have hceiling := haccount.limit limit hlimit
    have hnonzero : limit ≠ 0 := fun hzero => hlimits _ _ (hzero ▸ hlimit)
    have hnonneg := haccount.ceiling
    rw [← hceiling]
    exact haccount.within (by omega)
  · obtain ⟨task', htask', hgrow⟩ := (World.leads_accounted (hinitial.leads h)
      (fun taskoid => hagents.symm ▸ hstart taskoid) h' taskoid).2 task htask
    exact ⟨task', htask', hgrow resource⟩

end runs

def limitedAgents (tokens cost : Int) : Table AgentRow :=
  ⟨[⟨1, "extractor".toList, [⟨"tokens".toList, some (.integer tokens)⟩,
      ⟨"cost".toList, some (.integer cost)⟩]⟩],
    List.nodup_singleton _, by simp [ident]⟩

def reportingEnv (now : TimestampTz) (report : ToolResult) : Env :=
  { demoEnv now with tool := fun _ => .ok report }

lemma declaredLimit_limitedAgents {tokens cost limit : Int} {agentoid : Oid}
    (h : declaredLimit (limitedAgents tokens cost) agentoid resource = some limit) :
    limit = wrapInt32 tokens ∨ limit = wrapInt32 cost := by
  unfold declaredLimit at h
  obtain ⟨agent, hagent, h⟩ := Option.bind_eq_some_iff.mp h
  obtain rfl := List.mem_singleton.mp (Table.find?_eq_some_iff.mp hagent).1
  cases resource with
  | tokens => exact .inl (Option.some.inj h).symm
  | cost => exact .inr (Option.some.inj h).symm

lemma chargesFit_of_report {world : World} {event : Event} {report : ToolResult}
    (htool : ∀ call, event.env.tool call = .ok report)
    (hreport : ∀ resource ∈ [Resource.tokens, .cost], 0 ≤ report.amount resource ∧
      report.amount resource + 44 < 2 ^ 31 ∧ ∀ task ∈ world.catalog.tasks.rows,
        task.consumed resource + report.amount resource + 44 < 2 ^ 31) :
    chargesFit world event := by
  intro call result hresult resource
  obtain rfl := Except.ok.inj ((htool call).symm.trans hresult)
  obtain ⟨hnonneg, hsmall, htasks⟩ := hreport resource (by cases resource <;> simp)
  refine ⟨hnonneg, hsmall, fun taskoid task htask => htasks task ?_⟩
  exact (Table.find?_eq_some_iff.mp htask).1

def demoSubmit : Event :=
  ⟨1, demoEnv 1000, demoRunTask, .commit⟩

def demoResume (env : Env) : Event :=
  ⟨1, env, .resumeTask ⟨1, none⟩, .commit⟩

/-- A task within limits of a thousand is run and resumed. -/
theorem demoLimited_counters_follow_charges :
    ∃ task, (((World.initial (limitedAgents 1000 1000)).next demoSubmit).catalog.lookupTaskByOid
        1) = some task ∧ task.consumedTokens = 34 ∧ 34 ≤ (1000 : Int) ∧
      ∃ task', (((World.initial (limitedAgents 1000 1000)).next demoSubmit).next
        (demoResume (demoEnv 2000))).catalog.lookupTaskByOid 1 = some task' ∧
          34 ≤ task'.consumedTokens := by
  have htask : (((World.initial (limitedAgents 1000 1000)).next
      demoSubmit).catalog.lookupTaskByOid 1).map
        (fun task => (task.consumedTokens, task.agentoid)) = some (34, 1) := by
    decide +kernel
  obtain ⟨task, htask, hconsumed⟩ := Option.map_eq_some_iff.mp htask
  obtain ⟨htokens, hagent⟩ := Prod.mk.injEq .. ▸ hconsumed
  have hlimits : ∀ agentoid resource,
      declaredLimit (limitedAgents 1000 1000) agentoid resource ≠ some 0 := by
    intro agentoid resource hzero
    rcases declaredLimit_limitedAgents hzero with h | h <;> cases h
  have hsubmit : chargesFit (.initial (limitedAgents 1000 1000)) demoSubmit :=
    chargesFit_of_report (fun _ => rfl) (by decide +kernel)
  have hresume : chargesFit ((World.initial (limitedAgents 1000 1000)).next demoSubmit)
      (demoResume (demoEnv 2000)) :=
    chargesFit_of_report (fun _ => rfl) (by decide +kernel)
  obtain ⟨-, hlimit, task', htask', hgrow⟩ := budget_counters_follow_charges hlimits
    (.single ⟨_, hsubmit, rfl⟩) (.single ⟨_, hresume, rfl⟩) htask .tokens
  have hbound := hlimit 1000 (by rw [hagent]; decide +kernel)
  change task.consumedTokens ≤ task'.consumedTokens at hgrow
  change task.consumedTokens ≤ 1000 at hbound
  rw [htokens] at hgrow hbound
  exact ⟨task, htask, htokens, hbound, task', htask', hgrow⟩

def demoOverflow : World :=
  (World.initial demoAgents).next
    ⟨1, reportingEnv 1000 ⟨2147483647, 0, by decide, by decide⟩, demoRunTask, .commit⟩

/-- A limit of zero does not limit, a negative report lowers the counters, and the largest report
wraps them around. -/
theorem budget_counters_diverge :
    (declaredLimit (limitedAgents 0 0) 1 .tokens = some 0 ∧
      (((World.initial (limitedAgents 0 0)).next demoSubmit).catalog.lookupTaskByOid 1).map
        (fun task => (task.agentoid, task.consumedTokens)) = some (1, 34)) ∧
    ((((World.initial demoAgents).next demoSubmit).catalog.lookupTaskByOid 1).map
        TaskRow.consumedTokens = some 34 ∧
      ((((World.initial demoAgents).next demoSubmit).next
        (demoResume (reportingEnv 2000
          ⟨-1000, -1000, by decide, by decide⟩))).catalog.lookupTaskByOid 1).map
            TaskRow.consumedTokens = some (-954)) ∧
    ((demoOverflow.catalog.lookupTaskByOid 1).map TaskRow.consumedTokens = some (-2147483621) ∧
      ((demoOverflow.catalog.view 1).charges.map Charge.tokens).sum = 2147483675) := by
  decide +kernel

end QhapaqXian
