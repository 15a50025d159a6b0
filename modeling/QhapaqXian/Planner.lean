import QhapaqXian.Authorization
import QhapaqXian.Envelope
import QhapaqXian.Library.Markers

/-!
# Agent plans

`qx_agent_planner.c` and `qx_agent_executor.c`: the checks in front of `RUN TASK` and
`RESUME TASK`, the budget of a task and the contracts of its two phases.
-/

namespace QhapaqXian

open Library Script Txn

structure BudgetPolicy where
  tokenLimit : Int
  costLimit : Int
  hasTokenLimit : Bool
  hasCostLimit : Bool
  deriving Repr, DecidableEq

/-- `defGetInt32`. -/
def defGetInt32 (defel : DefElem) : Except QxError Int :=
  match defel.arg with
  | some (.integer value) => .ok (wrapInt32 value)
  | _ =>
    ereport .syntaxError (String.ofList defel.defname ++ " requires an integer value")

def BudgetPolicy.withOption (policy : BudgetPolicy) (defel : DefElem) :
    Except QxError BudgetPolicy :=
  if defel.defname = "tokens".toList then do
    let limit ← defGetInt32 defel
    pure { policy with tokenLimit := limit, hasTokenLimit := true }
  else if defel.defname = "cost".toList then do
    let limit ← defGetInt32 defel
    pure { policy with costLimit := limit, hasCostLimit := true }
  else pure policy

/-- Without an option the limit is zero, which is also what an option of zero stores. -/
def qxBudgetPolicyFromDefList (options : List DefElem) : Except QxError BudgetPolicy :=
  options.foldlM BudgetPolicy.withOption ⟨0, 0, false, false⟩

structure RunTaskStmt where
  sessionoid : Oid
  taskName : Option CString
  goal : CString
  input : Option CString
  priority : Option CString
  deriving Repr, DecidableEq

structure ResumeTaskStmt where
  taskoid : Oid
  checkpointLabel : Option CString
  deriving Repr, DecidableEq

structure TaskRequest where
  sessionoid : Oid
  agentoid : Oid
  identityoid : Oid
  namespacePolicyOid : Oid
  ownerid : Oid
  taskName : Option CString
  identityName : Option CString
  namespacePolicyName : Option CString
  goal : CString
  input : Option CString
  priority : Option CString
  authorizedTools : List CString
  submitContract : Option CString
  resumeContract : Option CString
  budgetTokens : Int
  budgetCost : Int
  estimatedTokens : Int
  estimatedCost : Int
  authorizedToolTokens : Int
  authorizedToolCost : Int
  deriving Repr, DecidableEq

structure ToolDecision where
  toolName : Option CString
  handlerName : Option CString
  principalName : Option CString
  principalRuntimeClass : CString
  providerName : Option CString
  providerKind : Option CString
  providerEndpoint : Option CString
  receiptSchema : Option CString
  receiptAlg : Option CString
  capabilityClass : CString
  requireAttestation : Bool
  deriving Repr, DecidableEq

def qxPlanCapabilityClass (providerKind : CString) : CString :=
  if providerKind = [] then "unclassified".toList
  else if providerKind = "loopback".toList then "host-local".toList
  else if providerKind = "remote".toList then "remote-brokered".toList
  else if providerKind = "container".toList then "container-brokered".toList
  else if providerKind = "microvm".toList then "microvm-brokered".toList
  else providerKind ++ "-brokered".toList

def qxMakeToolDecision (contract : CString) : ToolDecision :=
  let value (key : String) := qxContractValue contract key.toList
  let providerKind := (value "provider_kind").getD "loopback".toList
  { toolName := value "tool"
    handlerName := value "handler"
    principalName := value "principal"
    principalRuntimeClass :=
      (value "principal_runtime").getD (qxDefaultRuntimeForProviderKind providerKind)
    providerName := value "provider"
    providerKind := value "provider_kind"
    providerEndpoint := value "provider_endpoint"
    receiptSchema := value "receipt_schema"
    receiptAlg := value "receipt_alg"
    capabilityClass := qxPlanCapabilityClass providerKind
    requireAttestation := value "provider_attestation" == some "required".toList }

def qxPlanRuntimeBindingIsValid (providerKind : Option CString) (runtimeClass : CString) : Bool :=
  ((providerKind == some "loopback".toList || providerKind == some "remote".toList) &&
      runtimeClass == "host".toList) ||
    (providerKind == some "container".toList && runtimeClass == "container".toList) ||
    (providerKind == some "microvm".toList && runtimeClass == "microvm".toList)

def qxPlanRouteRank (decision : ToolDecision) : Int :=
  if decision.capabilityClass = "host-local".toList then 0
  else if decision.capabilityClass = "remote-brokered".toList then 1
  else if decision.capabilityClass = "container-brokered".toList then 2
  else if decision.capabilityClass = "microvm-brokered".toList then 3
  else if decision.principalRuntimeClass = "host".toList then 0
  else if decision.principalRuntimeClass = "container".toList then 2
  else if decision.principalRuntimeClass = "microvm".toList then 3
  else if decision.providerKind = some "loopback".toList then 0
  else if decision.providerKind = some "remote".toList then 1
  else if decision.providerKind = some "container".toList then 2
  else if decision.providerKind = some "microvm".toList then 3
  else 1

structure RouteChoice where
  contract : CString
  rank : Int
  index : Nat

def RouteChoice.better (preferResume : Bool) (choice candidate : RouteChoice) : Bool :=
  if preferResume then
    decide (candidate.rank > choice.rank) ||
      (candidate.rank == choice.rank && decide (candidate.index > choice.index))
  else
    decide (candidate.rank < choice.rank) ||
      (candidate.rank == choice.rank && decide (candidate.index < choice.index))

def qxResolvePlanPhaseContract (tools : List CString) (preferResume : Bool) : Option CString :=
  let chosen := tools.zipIdx.foldl (fun choice (contract, index) =>
    let candidate : RouteChoice := ⟨contract, qxPlanRouteRank (qxMakeToolDecision contract), index⟩
    match choice with
    | none => some candidate
    | some best => if RouteChoice.better preferResume best candidate then some candidate else choice)
    (none : Option RouteChoice)
  chosen.map RouteChoice.contract

def decisionIsComplete (decision : ToolDecision) : Bool :=
  decision.toolName.isSome && decision.handlerName.isSome && decision.principalName.isSome &&
    decision.providerName.isSome && decision.providerEndpoint.isSome

def attestationIsRecorded (decision : ToolDecision) : Bool :=
  !decision.requireAttestation ||
    (!isNullOrEmpty decision.receiptSchema && !isNullOrEmpty decision.receiptAlg)

def decisionName (decision : ToolDecision) : String :=
  String.ofList (decision.toolName.getD "<unknown>".toList)

def qxValidateToolDecision (decision : ToolDecision) : Txn Unit := do
  check (qxPlanRuntimeBindingIsValid decision.providerKind decision.principalRuntimeClass)
    .invalidParameterValue
    ("tool \"" ++ decisionName decision ++ "\" has an invalid provider/runtime-class binding")
  check (decisionIsComplete decision) .invalidParameterValue
    ("tool decision for \"" ++ decisionName decision ++ "\" is incomplete")
  check (attestationIsRecorded decision) .invalidParameterValue
    ("tool \"" ++ decisionName decision ++ "\" requires receipt attestation metadata")

def qxValidateAgentPlanCapabilities (tools : List CString) : Txn Unit := do
  check (!tools.isEmpty) .objectNotInPrerequisiteState
    "agent plan does not contain capability decisions"
  forEach qxValidateToolDecision (tools.map qxMakeToolDecision)

def qxEstimateTokenUsage (inputPresent : Bool) (toolTokenCost : Int) : Int :=
  wrapInt32 (32 + (if inputPresent then 24 else 8) + toolTokenCost)

def estimatedTotalCost (toolCostUnits : Int) : Int :=
  wrapInt32 (8 + 11 + max toolCostUnits 8 + 17 + 13 + 14)

/-- `qx_plan_run_task` and the request that the executor derives from the plan. -/
def qxPlanRunTask (env : Env) (stmt : RunTaskStmt) (ownerid : Oid)
    (authorization : Except QxError ToolAuthorization) : Txn TaskRequest := do
  let cat ← catalog
  let session ← found (env.directory.sessions stmt.sessionoid) .undefinedObject
    ("session " ++ toString stmt.sessionoid ++ " does not exist")
  let agent ← found (cat.agents.find? session.agentoid) .internalError
    ("cache lookup failed for QhapaqXian agent " ++ toString session.agentoid)
  let identityName ← found (env.directory.identityName session.identityoid) .internalError
    ("cache lookup failed for QhapaqXian identity " ++ toString session.identityoid)
  check session.inDatabase .invalidParameterValue
    ("session " ++ toString stmt.sessionoid ++ " belongs to a different database")
  check session.active .objectNotInPrerequisiteState
    ("session " ++ toString stmt.sessionoid ++ " is not active")
  check (env.directory.hasPrivsOfRole ownerid session.ownerid) .insufficientPrivilege
    ("permission denied to run a task in session " ++ toString stmt.sessionoid)
  let budget ← ofExcept (qxBudgetPolicyFromDefList agent.budget)
  let toolauth ← ofExcept authorization
  let estimatedTokens := qxEstimateTokenUsage stmt.input.isSome toolauth.toolTokenCost
  let estimatedCost := estimatedTotalCost toolauth.toolCostUnits
  check (!(toolauth.enforceBudgets && budget.hasCostLimit &&
      decide (estimatedCost > budget.costLimit))) .configurationLimitExceeded
    ("task plan exceeds the configured cost budget for agent \"" ++ String.ofList agent.name ++ "\"")
  check (!(toolauth.enforceBudgets && budget.hasTokenLimit &&
      decide (estimatedTokens > budget.tokenLimit))) .configurationLimitExceeded
    ("task plan exceeds the configured token budget for agent \"" ++ String.ofList agent.name ++ "\"")
  pure
    { sessionoid := stmt.sessionoid
      agentoid := session.agentoid
      identityoid := session.identityoid
      namespacePolicyOid := session.namespacepolicyoid
      ownerid := ownerid
      taskName := stmt.taskName
      identityName := identityName
      namespacePolicyName := toolauth.namespacePolicyName
      goal := stmt.goal
      input := stmt.input
      priority := stmt.priority.getD "normal".toList
      authorizedTools := toolauth.toolContracts
      submitContract := qxResolvePlanPhaseContract toolauth.toolContracts false
      resumeContract := qxResolvePlanPhaseContract toolauth.toolContracts true
      budgetTokens := budget.tokenLimit
      budgetCost := budget.costLimit
      estimatedTokens := estimatedTokens
      estimatedCost := estimatedCost
      authorizedToolTokens := toolauth.toolTokenCost
      authorizedToolCost := toolauth.toolCostUnits }

/-- The label a `RESUME TASK` asks for is the label of the checkpoint it would resume from. -/
def labelMatches (requested : Option CString) (checkpoint : CheckpointRow) : Bool :=
  requested.all (· == checkpoint.label)

/-- The tests that planner and runtime make, in this order, before a task is resumed. -/
def checkResumable (env : Env) (taskoid : Oid) (label : Option CString) (ownerid : Oid) :
    Txn (TaskRow × CheckpointRow) := do
  let cat ← catalog
  let task ← found (cat.lookupTaskByOid taskoid) .undefinedObject
    ("task " ++ toString taskoid ++ " does not exist")
  check (env.directory.hasPrivsOfRole ownerid task.ownerid) .insufficientPrivilege
    ("permission denied to resume task " ++ toString taskoid)
  check (task.state == .checkpointed) .objectNotInPrerequisiteState
    ("task " ++ toString taskoid ++ " is not resumable")
  check (oidIsValid task.lastcheckpointid) .objectNotInPrerequisiteState
    ("task " ++ toString taskoid ++ " has no checkpoint to resume from")
  let checkpoint ← lookupCheckpoint task.lastcheckpointid
  check (labelMatches label checkpoint) .invalidParameterValue
    ("checkpoint label \"" ++ String.ofList (label.getD []) ++
      "\" does not match the current resumable checkpoint for task " ++ toString taskoid)
  pure (task, checkpoint)

/-- `qx_plan_resume_task`; the executor passes on the stored label. -/
def qxPlanResumeTask (env : Env) (stmt : ResumeTaskStmt) (ownerid : Oid) : Txn CString := do
  let (task, checkpoint) ← checkResumable env stmt.taskoid stmt.checkpointLabel ownerid
  qxValidateAgentPlanCapabilities task.authorizedTools
  pure checkpoint.label

def hiddenNames : List CString :=
  ["provider_oid".toList, "receipt_signer".toList]

/-- The text without the field that starts at the needle: a separator in front of it goes too, and
what is moved up starts with the separator behind it. -/
def withoutField (display needle : CString) : CString :=
  let front := textBefore display needle
  let front := if front.getLast? = some ';' then front.dropLast else front
  front ++ needle.dropWhile (· ≠ ';')

/-- One round of the loop, or none once no key is found. -/
def displayRound (display : CString) : Option CString :=
  (hiddenNames.findSome? fun name => strstr display (name ++ ['='])).map (withoutField display)

def displayRounds : Nat → CString → CString
  | 0, display => display
  | rounds + 1, display =>
    match displayRound display with
    | some next => displayRounds rounds next
    | none => display

/-- Every round shortens the text, so the loop ends within its length. -/
def qxPlanDisplayContract : Option CString → CString
  | none => "<null>".toList
  | some contract => displayRounds contract.length contract

end QhapaqXian
