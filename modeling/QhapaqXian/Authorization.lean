import QhapaqXian.Security

/-!
# Tool authorisation

`QxAuthorizeToolsForNamespace` of `qx_security.c`: each tool that an agent lists is checked against
the namespace policy, its registration, its principal and its provider.
-/

namespace QhapaqXian

open Library

structure ToolAuthorization where
  namespacePolicyName : Option CString
  toolContracts : List CString
  toolTokenCost : Int
  toolCostUnits : Int
  enforceBudgets : Bool
  deriving Repr, DecidableEq

/-- The whole of `QxToolAuthorization`, with what only other callers than the planner read. -/
structure QxToolAuthorization extends ToolAuthorization where
  namespacePolicyOid : Oid
  requireKnownTools : Bool
  toolCount : Int
  toolOids : List Oid
  toolRuntimeClasses : List CString
  toolSandboxCeilings : List CString
  toolCapabilityTags : List CString
  deriving Repr, DecidableEq

def qxStringListContains (values : List CString) (needle : CString) : Bool :=
  values.contains needle

def qxToolNameInList (tools : List CString) (toolName : CString) : Bool :=
  tools.contains toolName

def qxValidateToolListEntries (seen : List CString) : List CString → Except QxError Unit
  | [] => .ok ()
  | name :: rest => do
    if name = [] then
      ereport .invalidParameterValue "tool names must not be empty"
    if name ∈ seen then
      ereport .duplicateObject s!"tool \"{text name}\" is listed more than once"
    qxValidateToolListEntries (seen ++ [name]) rest

def qxValidateToolList (tools : List CString) : Except QxError Unit :=
  qxValidateToolListEntries [] tools

/-! ## Capability clauses of a namespace policy -/

def policyEntryValue (key entry : CString) : Option CString :=
  let entry := trimSpaces entry
  if (key ++ ['=']).isPrefixOf entry then some (trimSpaces (entry.drop (key.length + 1)))
  else none

def qxPolicyContractValue (contract : Option CString) (key : CString) : Option CString :=
  if isNullOrEmpty contract || key.isEmpty then none
  else ((contract.getD []).splitOn ';').findSome? (policyEntryValue key)

def requiredCapabilities (policy : NamespacePolicyRow) : Option CString :=
  (qxPolicyContractValue policy.policy "require_capabilities".toList).or
    (qxPolicyContractValue policy.policy "require_capability".toList)

def deniedCapabilities (policy : NamespacePolicyRow) : Option CString :=
  (qxPolicyContractValue policy.policy "deny_capabilities".toList).or
    (qxPolicyContractValue policy.policy "deny_capability".toList)

def qxRequireCapabilities (policyName toolName authorizedTags : String) (toolTags : List CString) :
    List CString → Except QxError Unit
  | [] => .ok ()
  | tag :: rest => do
    if !qxStringListContains toolTags tag then
      ereportDetail .insufficientPrivilege
        (s!"tool \"{toolName}\" does not satisfy capability requirement \"{text tag}\" " ++
          s!"in namespace policy \"{policyName}\"")
        s!"Authorized capability tags: {authorizedTags}."
    qxRequireCapabilities policyName toolName authorizedTags toolTags rest

def qxDenyCapabilities (policyName toolName authorizedTags : String) (toolTags : List CString) :
    List CString → Except QxError Unit
  | [] => .ok ()
  | tag :: rest => do
    if qxStringListContains toolTags tag then
      ereportDetail .insufficientPrivilege
        (s!"tool \"{toolName}\" uses denied capability \"{text tag}\" " ++
          s!"in namespace policy \"{policyName}\"")
        s!"Authorized capability tags: {authorizedTags}."
    qxDenyCapabilities policyName toolName authorizedTags toolTags rest

def qxValidateToolCapabilityPolicy (policy : NamespacePolicyRow)
    (toolName toolCapabilityTags : CString) : Except QxError Unit := do
  let required := requiredCapabilities policy
  let denied := deniedCapabilities policy
  if required.isNone && denied.isNone then
    return ()
  let policyName := text policy.name
  let authorizedTags := text (nonEmptyOr (some toolCapabilityTags) "<none>".toList)
  let toolTags := qxSplitCapabilityTags (some toolCapabilityTags)
  qxRequireCapabilities policyName (text toolName) authorizedTags toolTags
    (qxSplitCapabilityTags required)
  qxDenyCapabilities policyName (text toolName) authorizedTags toolTags
    (qxSplitCapabilityTags denied)

/-! ## Authorisation -/

/-- The check of `qx_security.c`, written a second time there: the commands have their own. -/
def Security.qxValidatePrincipalRuntimeBinding (principalName providerKind runtimeClass sandbox
    receiptSigner receiptAlg : Option CString) (context : String) : Except QxError Unit := do
  let kind := nonEmptyOr providerKind "loopback".toList
  let runtime := nonEmptyOr runtimeClass (qxDefaultRuntimeForProviderKind (some kind))
  let alg := nonEmptyOr receiptAlg "hmac-sha256".toList
  let name := textOr principalName "<unknown>"
  let kindText := text kind
  let runtimeText := text runtime
  if runtime ≠ "host".toList ∧ runtime ≠ "container".toList ∧ runtime ≠ "microvm".toList then
    ereport .objectNotInPrerequisiteState
      s!"{context} saw unsupported runtime class \"{runtimeText}\" on principal \"{name}\""
  let incompatible := s!"principal \"{name}\" runtime class \"{runtimeText}\" is incompatible " ++
    s!"with provider kind \"{kindText}\""
  if (kind = "loopback".toList ∨ kind = "remote".toList) ∧ runtime ≠ "host".toList then
    ereportDetail .objectNotInPrerequisiteState incompatible
      "Loopback and remote providers currently back only host principals."
  if kind = "container".toList ∧ runtime ≠ "container".toList then
    ereportDetail .objectNotInPrerequisiteState incompatible
      "Container providers require principals declared with runtime class \"container\"."
  if kind = "microvm".toList ∧ runtime ≠ "microvm".toList then
    ereportDetail .objectNotInPrerequisiteState incompatible
      "MicroVM providers require principals declared with runtime class \"microvm\"."
  if runtime ≠ "host".toList ∧ sandbox ≠ some "isolated".toList then
    ereport .objectNotInPrerequisiteState
      s!"principal \"{name}\" runtime class \"{runtimeText}\" requires sandbox \"isolated\""
  if alg = "ed25519".toList ∧ isNullOrEmpty receiptSigner then
    ereportDetail .objectNotInPrerequisiteState
      s!"principal \"{name}\" has no signer for ed25519 receipts"
      "Bind SIGNER on the principal before authorizing tools under an ed25519 provider."

def principalRuntimeFromInfo (tool : ToolInfo) : CString :=
  nonEmptyOr tool.principalRuntimeClass (qxDefaultRuntimeForProviderKind tool.providerKind)

def capabilityTagsFromInfo (tool : ToolInfo) : CString :=
  qxToolCapabilityTagsFromInfo tool (qxToolRuntimeClassFromInfo tool)
    (qxToolSandboxCeilingFromInfo tool)

/-- The checks of one tool that come before the capability clauses. Several messages are written
after the tool's texts have been released, so they name their object `<unknown>` and the sandbox
`builtin`. -/
def checkRegisteredTool (session : PolicySession) (namespaceoid : Oid) (toolName : CString)
    (tool : ToolInfo) : Except QxError Unit := do
  let schemaName := session.namespaceName namespaceoid
  let nameText := text toolName
  if !tool.enabled then
    ereport .objectNotInPrerequisiteState
      s!"tool \"{nameText}\" is disabled in schema \"{schemaName}\""
  if !oidIsValid tool.principaloid then
    ereport .objectNotInPrerequisiteState s!"tool \"{nameText}\" has no principal binding"
  if !tool.principalEnabled then
    ereport .objectNotInPrerequisiteState
      s!"principal \"<unknown>\" is disabled in schema \"{schemaName}\""
  if !oidIsValid tool.provideroid then
    ereport .objectNotInPrerequisiteState "principal \"<unknown>\" has no provider binding"
  if !tool.providerEnabled then
    ereport .objectNotInPrerequisiteState
      s!"provider \"<unknown>\" is disabled in schema \"{schemaName}\""
  let runtimeClass := qxToolRuntimeClassFromInfo tool
  let ceiling := qxToolSandboxCeilingFromInfo tool
  let principalRuntime := principalRuntimeFromInfo tool
  let runtimeText := text runtimeClass
  let principalText := text principalRuntime
  let ceilingText := text ceiling
  let toolRank ← qxSandboxRank tool.sandbox
  let ceilingRank ← qxSandboxRank (some ceiling)
  if toolRank > ceilingRank then
    ereportDetail .invalidParameterValue
      s!"tool \"{nameText}\" exceeds its declared sandbox ceiling"
      s!"Tool sandbox \"builtin\" is stricter than ceiling \"{ceilingText}\"."
  if runtimeClass ≠ principalRuntime then
    ereportDetail .invalidParameterValue
      (s!"tool \"{nameText}\" runtime class \"{runtimeText}\" is incompatible with " ++
        s!"principal runtime \"{principalText}\"")
      ("Tool authorization requires runtime-class alignment before the contract is " ++
        "emitted.")
  Security.qxValidatePrincipalRuntimeBinding tool.principalName tool.providerKind
    (some principalRuntime) tool.principalSandbox tool.principalReceiptSigner
    tool.providerReceiptAlg "namespace tool authorization"

def authorizedTool (session : PolicySession) (cat : PolicyCatalog) (policy : NamespacePolicyRow)
    (namespaceoid : Oid) (toolName : CString) : Except QxError ToolInfo := do
  let schemaName := session.namespaceName namespaceoid
  let nameText := text toolName
  let policyName := text policy.name
  if policy.requireKnownTools && !qxToolNameInList policy.allowedTools toolName then
    ereportDetail .insufficientPrivilege
      s!"tool \"{nameText}\" is not allowed by namespace policy \"{policyName}\""
      "Register the tool in the namespace policy before executing the agent task."
  match cat.lookupToolByName namespaceoid toolName with
  | none =>
    ereport .undefinedObject s!"tool \"{nameText}\" is not registered in schema \"{schemaName}\""
  | some row =>
    let tool := qxCatalogFillToolInfo cat row
    checkRegisteredTool session namespaceoid toolName tool
    qxValidateToolCapabilityPolicy policy toolName (capabilityTagsFromInfo tool)
    return tool

/-- The entries of one tool at the end of the five lists, and its costs in the `int32` totals. -/
def QxToolAuthorization.append (authz : QxToolAuthorization) (tool : ToolInfo) :
    QxToolAuthorization :=
  let runtimeClass := qxToolRuntimeClassFromInfo tool
  let ceiling := qxToolSandboxCeilingFromInfo tool
  let tags := capabilityTagsFromInfo tool
  { authz with
    toolCount := wrapInt32 (authz.toolCount + 1)
    toolTokenCost := wrapInt32 (authz.toolTokenCost + tool.tokenCost)
    toolCostUnits := wrapInt32 (authz.toolCostUnits + tool.costUnits)
    toolOids := authz.toolOids ++ [tool.oid]
    toolContracts :=
      authz.toolContracts ++ [qxToolContractForInfo tool runtimeClass ceiling tags]
    toolRuntimeClasses := authz.toolRuntimeClasses ++ [runtimeClass]
    toolSandboxCeilings := authz.toolSandboxCeilings ++ [ceiling]
    toolCapabilityTags := authz.toolCapabilityTags ++ [tags] }

def QxToolAuthorization.initial (policy : NamespacePolicyRow) : QxToolAuthorization where
  namespacePolicyOid := policy.oid
  namespacePolicyName := some policy.name
  requireKnownTools := policy.requireKnownTools
  enforceBudgets := policy.enforceBudgets
  toolCount := 0
  toolTokenCost := 0
  toolCostUnits := 0
  toolOids := []
  toolContracts := []
  toolRuntimeClasses := []
  toolSandboxCeilings := []
  toolCapabilityTags := []

def authorizeTools (session : PolicySession) (cat : PolicyCatalog) (policy : NamespacePolicyRow)
    (namespaceoid : Oid) : QxToolAuthorization → List CString →
    Except QxError QxToolAuthorization
  | authz, [] => .ok authz
  | authz, toolName :: rest => do
    let tool ← authorizedTool session cat policy namespaceoid toolName
    authorizeTools session cat policy namespaceoid (authz.append tool) rest

def qxAuthorizeToolsForNamespace (session : PolicySession) (cat : PolicyCatalog)
    (namespacepolicyoid namespaceoid ownerid : Oid) (tools : List CString) :
    Except QxError QxToolAuthorization :=
  match cat.lookupNamespacePolicyByOid namespacepolicyoid with
  | none => cacheLookupFailed "namespace policy" namespacepolicyoid
  | some policy => do
    let schemaName := session.namespaceName namespaceoid
    if !session.hasPrivsOfRole ownerid policy.ownerid &&
        !session.hasPrivsOfRole ownerid policy.authrole then
      ereportDetail .insufficientPrivilege
        s!"permission denied to authorize tools in schema \"{schemaName}\""
        "The caller must be able to assume the namespace policy owner or auth role."
    authorizeTools session cat policy namespaceoid (.initial policy) tools

def authorizeAgentTools (session : PolicySession) (cat : PolicyCatalog)
    (namespacepolicyoid namespaceoid ownerid : Oid) (tools : List CString) :
    Except QxError ToolAuthorization := do
  qxValidateToolList tools
  let authz ← qxAuthorizeToolsForNamespace session cat namespacepolicyoid namespaceoid ownerid tools
  return authz.toToolAuthorization

end QhapaqXian
