import QhapaqXian.Proofs.Authorization
import QhapaqXian.Proofs.Budget

/-!
# Planned budgets

`RUN TASK` compares what it estimates for a task with the limits of the agent. The estimate runs
through three `int32` accumulations: the totals of the authorised tools, the tokens of a task and
the costs of the steps of its plan.
-/

namespace QhapaqXian

open Library Script Txn

def ToolRow.price (row : ToolRow) : Resource → Int
  | .tokens => row.tokenCost
  | .cost => row.costUnits

def ToolAuthorization.total (authz : ToolAuthorization) : Resource → Int
  | .tokens => authz.toolTokenCost
  | .cost => authz.toolCostUnits

def RunTaskStmt.estimate (stmt : RunTaskStmt) (total : Int) : Resource → Int
  | .tokens => 32 + (if stmt.input.isSome then 24 else 8) + total
  | .cost => 8 + 11 + max total 8 + 17 + 13 + 14

section Limits

lemma BudgetPolicy.withOption_inInt32 {policy policy' : BudgetPolicy} {defel : DefElem}
    (h : policy.withOption defel = .ok policy')
    (hpolicy : InInt32 policy.tokenLimit ∧ InInt32 policy.costLimit) :
    InInt32 policy'.tokenLimit ∧ InInt32 policy'.costLimit := by
  have hlimit : ∀ {limit}, defGetInt32 defel = .ok limit → InInt32 limit := by
    intro limit hlimit
    unfold defGetInt32 at hlimit
    split at hlimit
    · rw [← Except.ok.inj hlimit]
      unfold InInt32 wrapInt32
      omega
    · cases hlimit
  unfold BudgetPolicy.withOption at h
  split_ifs at h with htokens hcost
  · obtain ⟨limit, hget, h⟩ := bind_eq_ok_iff.mp h
    rw [← pure_eq_ok_iff.mp h]
    exact ⟨hlimit hget, hpolicy.2⟩
  · obtain ⟨limit, hget, h⟩ := bind_eq_ok_iff.mp h
    rw [← pure_eq_ok_iff.mp h]
    exact ⟨hpolicy.1, hlimit hget⟩
  · rw [← pure_eq_ok_iff.mp h]
    exact hpolicy

lemma foldlM_withOption_inInt32 {options : List DefElem} {policy policy' : BudgetPolicy}
    (h : options.foldlM BudgetPolicy.withOption policy = .ok policy')
    (hpolicy : InInt32 policy.tokenLimit ∧ InInt32 policy.costLimit) :
    InInt32 policy'.tokenLimit ∧ InInt32 policy'.costLimit := by
  induction options generalizing policy with
  | nil =>
    rw [← pure_eq_ok_iff.mp h]
    exact hpolicy
  | cons defel options ih =>
    rw [List.foldlM_cons] at h
    obtain ⟨next, hnext, h⟩ := bind_eq_ok_iff.mp h
    exact ih h (BudgetPolicy.withOption_inInt32 hnext hpolicy)

lemma BudgetPolicy.limit_lt {options : List DefElem} {policy : BudgetPolicy}
    (h : qxBudgetPolicyFromDefList options = .ok policy) {resource : Resource} {limit : Int}
    (hlimit : policy.limit resource = some limit) : limit < 2 ^ 31 := by
  obtain ⟨htokens, hcost⟩ := foldlM_withOption_inInt32 h (by decide)
  cases resource with
  | tokens =>
    obtain ⟨-, hsome⟩ := Option.ite_none_right_eq_some.mp hlimit
    exact Option.some.inj hsome ▸ htokens.2
  | cost =>
    obtain ⟨-, hsome⟩ := Option.ite_none_right_eq_some.mp hlimit
    exact Option.some.inj hsome ▸ hcost.2

end Limits

section Totals

variable {cat : PolicyCatalog} {resource : Resource}

lemma QxToolAuthorization.total_append (cat : PolicyCatalog) (authz : QxToolAuthorization)
    (row : ToolRow) :
    (authz.append (qxCatalogFillToolInfo cat row)).total resource =
      wrapInt32 (authz.total resource + row.price resource) := by
  cases resource <;> rfl

lemma QxToolAuthorization.total_appendRows (cat : PolicyCatalog) {authz : QxToolAuthorization}
    {rows : List ToolRow}
    (hstart : 0 ≤ authz.total resource) (hprices : ∀ row ∈ rows, 0 ≤ row.price resource)
    (hfits : authz.total resource + (rows.map (ToolRow.price · resource)).sum < 2 ^ 31) :
    (authz.appendRows cat rows).total resource =
      authz.total resource + (rows.map (ToolRow.price · resource)).sum := by
  induction rows generalizing authz with
  | nil => exact (Int.add_zero _).symm
  | cons row rows ih =>
    obtain ⟨hprice, hprices⟩ := List.forall_mem_cons.mp hprices
    have hrest : 0 ≤ (rows.map (ToolRow.price · resource)).sum := by
      refine List.sum_nonneg fun price hprice => ?_
      obtain ⟨other, hother, rfl⟩ := List.mem_map.mp hprice
      exact hprices other hother
    rw [List.map_cons, List.sum_cons] at hfits ⊢
    have hstep : (authz.append (qxCatalogFillToolInfo cat row)).total resource =
        authz.total resource + row.price resource := by
      rw [QxToolAuthorization.total_append, wrapInt32_of_range]
      exact ⟨by omega, by omega⟩
    have hrun : ((authz.append (qxCatalogFillToolInfo cat row)).appendRows cat rows).total
        resource = _ := ih (by omega) hprices (by omega)
    rw [hstep] at hrun
    exact hrun.trans (Int.add_assoc ..)

lemma QxToolAuthorization.enforceBudgets_appendRows (authz : QxToolAuthorization)
    (rows : List ToolRow) : (authz.appendRows cat rows).enforceBudgets = authz.enforceBudgets := by
  induction rows generalizing authz with
  | nil => rfl
  | cons row rows ih => exact ih (authz.append (qxCatalogFillToolInfo cat row))

lemma price_nonneg {row : ToolRow} {command : String}
    (h : qxValidateToolCosts row.tokenCost row.costUnits command = .ok ()) (resource : Resource) :
    0 ≤ row.price resource := by
  simp only [qxValidateToolCosts, ereport, raise_eq_ok_iff, raise_last_eq_ok_iff, not_lt] at h
  cases resource with
  | tokens => exact h.1
  | cost => exact h.2.1

lemma filterMap_lookup_eq {policy : NamespacePolicyRow} {namespaceoid : Oid} {tools : List CString}
    {rows : List ToolRow} (h : List.Forall₂ (AdmittedTool cat policy namespaceoid) tools rows) :
    tools.filterMap (cat.lookupToolByName namespaceoid) = rows := by
  induction h with
  | nil => rfl
  | cons hrow _ ih => rw [List.filterMap_cons_some hrow.registered, ih]

end Totals

lemma qxPlanRunTask_within {env : Env} {s : Backend} {journal : List Action} {stmt : RunTaskStmt}
    {ownerid : Oid} {authorization : Except QxError ToolAuthorization} {request : TaskRequest}
    (h : (qxPlanRunTask env stmt ownerid authorization).Returns s journal request) :
    ∃ toolauth, authorization = .ok toolauth ∧
      ∀ {resource limit}, declaredLimit s.catalog.agents request.agentoid resource = some limit →
        limit < 2 ^ 31 ∧ (toolauth.enforceBudgets →
          wrapInt32 (stmt.estimate (toolauth.total resource) resource) ≤ limit) := by
  dsimp only [qxPlanRunTask] at h
  replace h := returns_catalog_bind_iff.mp h
  obtain ⟨session, -, h⟩ := returns_found_bind_iff.mp h
  obtain ⟨agent, hagent, h⟩ := returns_found_bind_iff.mp h
  obtain ⟨identityName, -, h⟩ := returns_found_bind_iff.mp h
  obtain ⟨-, h⟩ := returns_check_bind_iff.mp h
  obtain ⟨-, h⟩ := returns_check_bind_iff.mp h
  obtain ⟨-, h⟩ := returns_check_bind_iff.mp h
  obtain ⟨budget, hbudget, h⟩ := returns_ofExcept_bind_iff.mp h
  obtain ⟨toolauth, htoolauth, h⟩ := returns_ofExcept_bind_iff.mp h
  obtain ⟨hcost, h⟩ := returns_check_bind_iff.mp h
  obtain ⟨htokens, h⟩ := returns_check_bind_iff.mp h
  obtain ⟨-, rfl⟩ := returns_pure_iff.mp h
  refine ⟨toolauth, htoolauth, fun {resource limit} hlimit => ?_⟩
  simp only [declaredLimit, hagent, hbudget, Option.bind_eq_bind, Option.bind_some,
    Except.toOption] at hlimit
  refine ⟨BudgetPolicy.limit_lt hbudget hlimit, fun henforce => ?_⟩
  simp only [henforce, Bool.true_and, Bool.not_eq_true', Bool.and_eq_false_iff,
    decide_eq_false_iff_not, gt_iff_lt, not_lt] at hcost htokens
  cases resource with
  | tokens =>
    obtain ⟨hhas, hsome⟩ := Option.ite_none_right_eq_some.mp hlimit
    exact Option.some.inj hsome ▸ htokens.resolve_left (by simp [hhas])
  | cost =>
    obtain ⟨hhas, hsome⟩ := Option.ite_none_right_eq_some.mp hlimit
    exact Option.some.inj hsome ▸ hcost.resolve_left (by simp [hhas])

def trueEstimate (stmt : RunTaskStmt) (rows : List ToolRow) (resource : Resource) : Int :=
  stmt.estimate (rows.map (ToolRow.price · resource)).sum resource

lemma trueEstimate_bounds (stmt : RunTaskStmt) {rows : List ToolRow} {resource : Resource}
    (hprices : ∀ row ∈ rows, 0 ≤ row.price resource) :
    0 ≤ (rows.map (ToolRow.price · resource)).sum ∧
      (rows.map (ToolRow.price · resource)).sum ≤ trueEstimate stmt rows resource := by
  have hsum : 0 ≤ (rows.map (ToolRow.price · resource)).sum := by
    refine List.sum_nonneg fun price hprice => ?_
    obtain ⟨row, hrow, rfl⟩ := List.mem_map.mp hprice
    exact hprices row hrow
  refine ⟨hsum, ?_⟩
  cases resource with
  | tokens =>
    simp only [trueEstimate, RunTaskStmt.estimate]
    split_ifs <;> omega
  | cost =>
    simp only [trueEstimate, RunTaskStmt.estimate]
    omega

lemma estimate_total_eq {cat : PolicyCatalog} {policy : NamespacePolicyRow} {stmt : RunTaskStmt}
    {rows : List ToolRow} {resource : Resource} (hprices : ∀ row ∈ rows, 0 ≤ row.price resource)
    (hfits : trueEstimate stmt rows resource < 2 ^ 31) :
    wrapInt32 (stmt.estimate
        (((QxToolAuthorization.initial policy).appendRows cat rows).total resource) resource) =
      trueEstimate stmt rows resource := by
  obtain ⟨hsum, hle⟩ := trueEstimate_bounds stmt hprices
  have hzero : (QxToolAuthorization.initial policy).total resource = 0 := by
    cases resource <;> rfl
  have htotal := QxToolAuthorization.total_appendRows cat hzero.ge hprices
    (by rw [hzero]; omega)
  rw [htotal, hzero, Int.zero_add]
  exact wrapInt32_of_range ⟨by unfold trueEstimate at hle; omega, hfits⟩

/-- Under a policy that enforces budgets, a planned task stays within the limits of its agent
exactly when the estimates that are limited fit into an `int32`. -/
theorem planned_within_limits_iff {env : Env} {s : Backend} {journal : List Action}
    {stmt : RunTaskStmt} {request : TaskRequest} {session : PolicySession} {cat : PolicyCatalog}
    {namespacepolicyoid namespaceoid ownerid : Oid} {tools : List CString}
    {policy : NamespacePolicyRow}
    (hcosts : ∀ row ∈ cat.tools,
      qxValidateToolCosts row.tokenCost row.costUnits "CREATE TOOL" = .ok ())
    (hpolicy : cat.lookupNamespacePolicyByOid namespacepolicyoid = some policy)
    (henforce : policy.enforceBudgets = true)
    (hplan : (qxPlanRunTask env stmt ownerid (authorizeAgentTools session cat namespacepolicyoid
      namespaceoid ownerid tools)).Returns s journal request) :
    (∀ resource limit, declaredLimit s.catalog.agents request.agentoid resource = some limit →
      trueEstimate stmt (tools.filterMap (cat.lookupToolByName namespaceoid)) resource ≤ limit) ↔
    ∀ resource limit, declaredLimit s.catalog.agents request.agentoid resource = some limit →
      trueEstimate stmt (tools.filterMap (cat.lookupToolByName namespaceoid)) resource <
        2 ^ 31 := by
  obtain ⟨toolauth, hauth, hwithin⟩ := qxPlanRunTask_within hplan
  simp only [authorizeAgentTools, bind_eq_ok_iff, exists_unit_iff, pure_eq_ok_iff] at hauth
  obtain ⟨-, authz, hauthz, rfl⟩ := hauth
  obtain ⟨other, rows, hother, -, hrows, rfl⟩ := qxAuthorizeToolsForNamespace_ok hauthz
  obtain rfl := Option.some.inj (hpolicy.symm.trans hother)
  rw [filterMap_lookup_eq hrows]
  have hprices : ∀ resource, ∀ row ∈ rows, 0 ≤ row.price resource := by
    intro resource row hrow
    rw [← filterMap_lookup_eq hrows] at hrow
    obtain ⟨name, -, hregistered⟩ := List.mem_filterMap.mp hrow
    exact price_nonneg (hcosts row (List.mem_of_find?_eq_some hregistered)) resource
  constructor
  · intro h resource limit hlimit
    exact (h resource limit hlimit).trans_lt (hwithin hlimit).1
  · intro h resource limit hlimit
    rw [← estimate_total_eq (hprices resource) (h resource limit hlimit)]
    refine (hwithin hlimit).2 ?_
    rw [QxToolAuthorization.enforceBudgets_appendRows]
    exact henforce

def opsPriced (name : String) (tokenCost : Int) : CreateToolStmt :=
  { opsTool with toolName := ⟨none, name.toList⟩, tokenCost := tokenCost }

def opsPricedCatalog (tokenCost : Int) : PolicyCatalog :=
  opsCatalog [{ opsPolicy with requireKnownTools := false }]
    [.createProvider opsProvider, .createPrincipal opsPrincipal,
      .createTool (opsPriced "search" tokenCost), .createTool (opsPriced "fetch" tokenCost)]

def opsRunTask : RunTaskStmt :=
  ⟨1, some "extract".toList, "collect".toList, none, none⟩

def opsPlan (tokenCost : Int) : Txn TaskRequest :=
  qxPlanRunTask (demoEnv 1000) opsRunTask 10
    (authorizeAgentTools opsSession (opsPricedCatalog tokenCost) 7 2200 10
      ["search".toList, "fetch".toList])

def opsBackend : Backend :=
  ⟨.initial (limitedAgents 1000 1000), none⟩

theorem opsPlan_within_limits :
    ∃ request, (opsPlan 4).Returns opsBackend [] request ∧
      ∀ resource limit, declaredLimit opsBackend.catalog.agents request.agentoid resource =
          some limit →
        trueEstimate opsRunTask (["search".toList, "fetch".toList].filterMap
          ((opsPricedCatalog 4).lookupToolByName 2200)) resource ≤ limit := by
  obtain ⟨request, hplan⟩ := returns_of_isOk (show ((opsPlan 4).run opsBackend).2.isOk = true by
    decide +kernel)
  have hsilent : ((opsPlan 4).run opsBackend).1 = [] := by decide +kernel
  rw [hsilent] at hplan
  have hpolicy : (opsPricedCatalog 4).lookupNamespacePolicyByOid 7 =
      some { opsPolicy with requireKnownTools := false } := by
    decide +kernel
  refine ⟨request, hplan, (planned_within_limits_iff (by decide +kernel) hpolicy rfl
    hplan).mpr ?_⟩
  intro resource limit _
  cases resource <;> decide +kernel

/-- Two tools at the largest token cost that the DDL admits wrap the total around to -2, and their
task is planned under a limit of a thousand tokens. -/
theorem wrapped_estimate_planned :
    (∀ row ∈ (opsPricedCatalog 2147483647).tools,
      qxValidateToolCosts row.tokenCost row.costUnits "CREATE TOOL" = .ok ()) ∧
    ((opsPlan 2147483647).run opsBackend).2.toOption.map
      (fun request => (request.agentoid, request.estimatedTokens)) = some (1, 38) ∧
    declaredLimit opsBackend.catalog.agents 1 .tokens = some 1000 ∧
    trueEstimate opsRunTask (["search".toList, "fetch".toList].filterMap
      ((opsPricedCatalog 2147483647).lookupToolByName 2200)) .tokens = 4294967334 := by
  decide +kernel

end QhapaqXian
