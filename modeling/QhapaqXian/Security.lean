import Mathlib.Data.List.DropRight
import QhapaqXian.Policy

/-!
# Tool contracts

The text that `qx_security.c` writes for an authorised tool and the lookup that `qx_runtime.c`
reads its fields back with.
-/

namespace QhapaqXian

open Library

/-- A principal joined with its provider, as `qx_catalog_fill_principal_info` does. -/
structure PrincipalInfo where
  name : Option CString
  enabled : Bool
  sandbox : Option CString
  program : Option CString
  runtimeClass : Option CString
  receiptSigner : Option CString
  provideroid : Oid
  providerName : Option CString
  providerKind : Option CString
  providerEndpoint : Option CString
  providerReceiptAlg : Option CString
  providerEnabled : Bool
  providerAttestationRequired : Bool
  deriving Repr, DecidableEq

/-- A tool joined with its principal and provider, as `qx_catalog_fill_tool_info` does. -/
structure ToolInfo where
  oid : Oid
  name : Option CString
  enabled : Bool
  tokenCost : Int
  costUnits : Int
  handler : Option CString
  sandbox : Option CString
  runtimeClass : Option CString
  sandboxCeiling : Option CString
  capabilityTags : Option CString
  principaloid : Oid
  principalName : Option CString
  principalEnabled : Bool
  principalSandbox : Option CString
  principalRuntimeClass : Option CString
  principalProgram : Option CString
  principalReceiptSigner : Option CString
  provideroid : Oid
  providerName : Option CString
  providerKind : Option CString
  providerEndpoint : Option CString
  providerReceiptAlg : Option CString
  providerEnabled : Bool
  providerAttestationRequired : Bool
  deriving Repr, DecidableEq

def qxCatalogMergeOptionalPair (left right : Option CString) : Option CString :=
  if !isNullOrEmpty left then left
  else if !isNullOrEmpty right then right
  else none

def qxCatalogFillPrincipalInfo (cat : PolicyCatalog) (row : PrincipalRow) : PrincipalInfo :=
  let provider :=
    if oidIsValid row.provideroid then cat.lookupProviderByOid row.provideroid else none
  { name := some row.name
    enabled := row.enabled
    sandbox := row.sandbox
    program := row.program
    runtimeClass := row.runtimeClass
    receiptSigner := row.receiptSigner
    provideroid := row.provideroid
    providerName :=
      match provider with
      | some found => qxCatalogMergeOptionalPair row.providerName (some found.name)
      | none => row.providerName
    providerKind := provider.bind ProviderRow.kind
    providerEndpoint := provider.bind ProviderRow.endpoint
    providerReceiptAlg := provider.bind ProviderRow.receiptAlg
    providerEnabled := (provider.map ProviderRow.enabled).getD false
    providerAttestationRequired := (provider.map ProviderRow.attestationRequired).getD false }

def qxCatalogFillToolInfo (cat : PolicyCatalog) (row : ToolRow) : ToolInfo :=
  let principal :=
    if oidIsValid row.principaloid then
      (cat.lookupPrincipalByOid row.principaloid).map (qxCatalogFillPrincipalInfo cat)
    else none
  { oid := row.oid
    name := some row.name
    enabled := row.enabled
    tokenCost := row.tokenCost
    costUnits := row.costUnits
    handler := row.handler
    sandbox := row.sandbox
    runtimeClass := row.runtimeClass
    sandboxCeiling := row.sandboxCeiling
    capabilityTags := row.capabilityTags
    principaloid := row.principaloid
    principalName :=
      match principal with
      | some found => qxCatalogMergeOptionalPair row.principalName found.name
      | none => row.principalName
    principalEnabled := (principal.map PrincipalInfo.enabled).getD false
    principalSandbox := principal.bind PrincipalInfo.sandbox
    principalRuntimeClass := principal.bind PrincipalInfo.runtimeClass
    principalProgram := principal.bind PrincipalInfo.program
    principalReceiptSigner := principal.bind PrincipalInfo.receiptSigner
    provideroid := (principal.map PrincipalInfo.provideroid).getD invalidOid
    providerName := principal.bind PrincipalInfo.providerName
    providerKind := principal.bind PrincipalInfo.providerKind
    providerEndpoint := principal.bind PrincipalInfo.providerEndpoint
    providerReceiptAlg := principal.bind PrincipalInfo.providerReceiptAlg
    providerEnabled := (principal.map PrincipalInfo.providerEnabled).getD false
    providerAttestationRequired :=
      (principal.map PrincipalInfo.providerAttestationRequired).getD false }

def isSpace (c : Char) : Bool :=
  c == ' ' || c == '\t' || c == '\n' || c == '\r' || c.toNat == 11 || c.toNat == 12

def trimSpaces (s : CString) : CString :=
  (s.dropWhile isSpace).rdropWhile isSpace

def qxSplitCapabilityTags (serialized : Option CString) : List CString :=
  (((serialized.getD []).splitOn '|').map trimSpaces).filter (· ≠ [])

def qxJoinStringList (values : List CString) (separator : CString) : CString :=
  separator.intercalate values

def attestationText (required : Bool) : CString :=
  if required then "required".toList else "optional".toList

def qxDefaultCapabilityTags (toolName handlerName toolSandbox toolSandboxCeiling principalRuntime
    providerKind providerAttestation receiptAlg : Option CString) : List CString :=
  let effectiveSandbox := nonEmptyOr toolSandbox "builtin".toList
  [ "tool:".toList ++ nonEmptyOr toolName "<unknown>".toList,
    "handler:".toList ++ nonEmptyOr handlerName "<none>".toList,
    "sandbox:".toList ++ effectiveSandbox,
    "sandbox_ceiling:".toList ++ nonEmptyOr toolSandboxCeiling effectiveSandbox,
    "runtime:".toList ++ nonEmptyOr principalRuntime "host".toList,
    "provider_kind:".toList ++ nonEmptyOr providerKind "loopback".toList,
    "attestation:".toList ++ nonEmptyOr providerAttestation "optional".toList,
    "receipt_alg:".toList ++ nonEmptyOr receiptAlg "hmac-sha256".toList ]

def qxToolRuntimeClassFromInfo (tool : ToolInfo) : CString :=
  nonEmptyOr tool.runtimeClass
    (nonEmptyOr tool.principalRuntimeClass (qxDefaultRuntimeForProviderKind tool.providerKind))

def qxToolSandboxCeilingFromInfo (tool : ToolInfo) : CString :=
  nonEmptyOr tool.sandboxCeiling (nonEmptyOr tool.principalSandbox "builtin".toList)

def qxToolCapabilityTagsFromInfo (tool : ToolInfo) (runtimeClass ceiling : CString) : CString :=
  let declared := qxSplitCapabilityTags tool.capabilityTags
  if !isNullOrEmpty tool.capabilityTags && !declared.isEmpty then
    qxJoinStringList declared "|".toList
  else
    qxJoinStringList
      (qxDefaultCapabilityTags tool.name tool.handler tool.sandbox (some ceiling)
        (some runtimeClass) tool.providerKind
        (some (attestationText tool.providerAttestationRequired)) tool.providerReceiptAlg)
      "|".toList

def contractFields (tool : ToolInfo) (runtimeClass ceiling tags : CString) :
    List (CString × CString) :=
  [ ("tool".toList, tool.name.getD "<unknown>".toList),
    ("handler".toList, tool.handler.getD "<none>".toList),
    ("tool_sandbox".toList, tool.sandbox.getD "builtin".toList),
    ("tool_sandbox_ceiling".toList, ceiling),
    ("tool_capability_tags".toList, tags),
    ("principal".toList, tool.principalName.getD "<unknown>".toList),
    ("principal_sandbox".toList, tool.principalSandbox.getD "builtin".toList),
    ("principal_runtime".toList, runtimeClass),
    ("program".toList, tool.principalProgram.getD []),
    ("receipt_signer".toList, tool.principalReceiptSigner.getD []),
    ("provider".toList, tool.providerName.getD "<unknown>".toList),
    ("provider_oid".toList, formatUnsigned tool.provideroid),
    ("provider_kind".toList, tool.providerKind.getD "loopback".toList),
    ("provider_endpoint".toList,
      tool.providerEndpoint.getD "local://qhapaqxian-tool-runner".toList),
    ("provider_attestation".toList, attestationText tool.providerAttestationRequired),
    ("receipt_schema".toList, "qx.receipt.v1".toList),
    ("receipt_alg".toList, tool.providerReceiptAlg.getD "hmac-sha256".toList) ]

def qxToolContractForInfo (tool : ToolInfo) (runtimeClass ceiling tags : CString) : CString :=
  renderFields '=' ';' (contractFields tool runtimeClass ceiling tags)

/-- The runtime's lookup: the text from the first `key=` of the contract up to the next `;`. -/
def qxContractValue (contract : Option CString) (key : CString) : Option CString :=
  contract.bind fun found => fieldValue '=' ';' found key

def toolContractFields (cat : PolicyCatalog) (row : ToolRow) : List (CString × CString) :=
  let tool := qxCatalogFillToolInfo cat row
  let runtimeClass := qxToolRuntimeClassFromInfo tool
  let ceiling := qxToolSandboxCeilingFromInfo tool
  contractFields tool runtimeClass ceiling (qxToolCapabilityTagsFromInfo tool runtimeClass ceiling)

def toolContract (cat : PolicyCatalog) (row : ToolRow) : CString :=
  let tool := qxCatalogFillToolInfo cat row
  let runtimeClass := qxToolRuntimeClassFromInfo tool
  let ceiling := qxToolSandboxCeilingFromInfo tool
  qxToolContractForInfo tool runtimeClass ceiling
    (qxToolCapabilityTagsFromInfo tool runtimeClass ceiling)

end QhapaqXian
