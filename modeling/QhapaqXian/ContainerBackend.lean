import QhapaqXian.Envelope
import QhapaqXian.ToolRequest

/-!
# Container launch requests

The sandbox profile of an execution, and `qx_container_backend.c`: the launch request that the
engine writes for a container, one line for each field.
-/

namespace QhapaqXian

open Library

/-! ## Sandbox profiles -/

/-- The limits of a profile that are handed to the runner. -/
structure QxSandboxProfile where
  name : CString
  timeoutMs : Int
  memoryKb : Int
  processLimit : Int
  deriving Repr, DecidableEq

def qxLookupSandboxProfile (sandbox : CString) : Except QxError QxSandboxProfile :=
  if sandbox = "builtin".toList then .ok ⟨sandbox, 3000, 262144, 2⟩
  else if sandbox = "restricted".toList then .ok ⟨sandbox, 2000, 131072, 1⟩
  else if sandbox = "isolated".toList then .ok ⟨sandbox, 1200, 65536, 1⟩
  else ereport .invalidParameterValue s!"unsupported sandbox profile \"{text sandbox}\""

/-- The stricter of the two sandboxes. -/
def qxEffectiveSandboxName (toolSandbox principalSandbox : Option CString) :
    Except QxError CString := do
  let principalRank ← qxSandboxRank principalSandbox
  let toolRank ← qxSandboxRank toolSandbox
  return if principalRank ≥ toolRank then principalSandbox.getD "builtin".toList
    else toolSandbox.getD "builtin".toList

def qxExecutionSandbox (contract : CString) : Except QxError (CString × QxSandboxProfile) := do
  let value (key : String) := qxContractValue (some contract) key.toList
  let toolName := text ((value "tool").getD "<unknown>".toList)
  let principalName := text ((value "principal").getD "<unknown>".toList)
  let toolRank ← qxSandboxRank (value "tool_sandbox")
  let principalRank ← qxSandboxRank (value "principal_sandbox")
  if toolRank > principalRank then
    ereport .insufficientPrivilege
      s!"tool \"{toolName}\" exceeds principal \"{principalName}\" sandbox ceiling"
  let sandbox ← qxEffectiveSandboxName (value "tool_sandbox") (value "principal_sandbox")
  let profile ← qxLookupSandboxProfile sandbox
  return (sandbox, profile)

/-! ## The launch request -/

structure QxContainerBackendRequest where
  phase : CString
  toolName : CString
  principalName : CString
  principalRuntime : CString
  providerName : CString
  providerKind : CString
  providerEndpoint : CString
  sandboxName : CString
  profileName : CString
  environmentMode : CString
  workdirName : CString
  commandLine : CString
  imageRef : CString
  seccompMode : CString
  cgroupMode : CString
  ociProfile : CString
  receiptSchema : CString
  receiptAlg : CString
  receiptNonce : CString
  attestationMode : CString
  detail : CString
  timeoutMs : Int
  memoryKb : Int
  processLimit : Int
  tokenCharge : Int
  costCharge : Int
  requireAttestation : Bool
  allowNetwork : Bool
  allowPrivilegeEscalation : Bool
  readonlyRootfs : Bool
  deriving Repr, DecidableEq

def qxContainerBackendIsSupportedProviderKind (kind : Option CString) : Bool :=
  kind.any (sameIgnoringCase · "container".toList)

def qxContainerBackendIsSupportedRuntimeClass (runtime : Option CString) : Bool :=
  runtime.any (sameIgnoringCase · "container".toList)

def qxContainerBackendExpectedAttestationMode : CString :=
  "container_receipt_verified".toList

def qxContainerBackendRequire (condition : Bool) (message : String) : Except QxError Unit :=
  if condition then pure () else ereport .invalidParameterValue message

def qxContainerBackendValidateRequest (request : QxContainerBackendRequest) :
    Except QxError Unit := do
  qxContainerBackendRequire (request.phase ≠ []) "container backend request requires a phase"
  qxContainerBackendRequire (request.toolName ≠ [])
    "container backend request requires a tool name"
  qxContainerBackendRequire (request.principalName ≠ [])
    "container backend request requires a principal name"
  qxContainerBackendRequire (qxContainerBackendIsSupportedProviderKind request.providerKind)
    "container backend only accepts provider kind container"
  qxContainerBackendRequire (qxContainerBackendIsSupportedRuntimeClass request.principalRuntime)
    "container backend only accepts principal runtime class container"
  qxContainerBackendRequire ("container://".toList.isPrefixOf request.providerEndpoint)
    "container backend requires a container:// provider endpoint"
  qxContainerBackendRequire (sameIgnoringCase request.sandboxName "isolated".toList)
    "container backend requires isolated sandboxing"
  qxContainerBackendRequire (sameIgnoringCase request.receiptSchema "qx.receipt.v1".toList)
    "container backend requires qx.receipt.v1 receipts"
  qxContainerBackendRequire
    (!request.requireAttestation || sameIgnoringCase request.receiptAlg "ed25519".toList)
    "container backend requires ed25519 when attestation is enabled"
  qxContainerBackendRequire
    (sameIgnoringCase request.attestationMode qxContainerBackendExpectedAttestationMode)
    "container backend requires container_receipt_verified attestation"
  qxContainerBackendRequire (request.commandLine ≠ [])
    "container backend requires a command line"

def QxContainerBackendRequest.identityLines (request : QxContainerBackendRequest) :
    List (CString × CString) :=
  [ ("protocol".toList, "qx.container.backend.v1".toList),
    ("backend".toList, "container".toList),
    ("phase".toList, request.phase),
    ("tool".toList, request.toolName),
    ("principal".toList, request.principalName),
    ("principal_runtime".toList, request.principalRuntime),
    ("provider".toList, request.providerName),
    ("provider_kind".toList, request.providerKind),
    ("provider_endpoint".toList, request.providerEndpoint),
    ("sandbox".toList, request.sandboxName),
    ("profile".toList, request.profileName),
    ("environment".toList, request.environmentMode),
    ("workdir".toList, request.workdirName),
    ("command".toList, request.commandLine),
    ("image_ref".toList, request.imageRef),
    ("receipt_schema".toList, request.receiptSchema),
    ("receipt_alg".toList, request.receiptAlg),
    ("receipt_nonce".toList, request.receiptNonce),
    ("attestation".toList, request.attestationMode) ]

def QxContainerBackendRequest.policyLines (request : QxContainerBackendRequest) :
    List (CString × CString) :=
  [ ("timeout_ms".toList, formatSigned request.timeoutMs),
    ("memory_kb".toList, formatSigned request.memoryKb),
    ("process_limit".toList, formatSigned request.processLimit),
    ("token_charge".toList, formatSigned request.tokenCharge),
    ("cost_charge".toList, formatSigned request.costCharge),
    ("require_attestation".toList, qxBoolLiteral request.requireAttestation),
    ("allow_network".toList, qxBoolLiteral request.allowNetwork),
    ("allow_privilege_escalation".toList, qxBoolLiteral request.allowPrivilegeEscalation),
    ("readonly_rootfs".toList, qxBoolLiteral request.readonlyRootfs),
    ("seccomp_mode".toList, request.seccompMode),
    ("cgroup_mode".toList, request.cgroupMode),
    ("oci_profile".toList, request.ociProfile),
    ("detail".toList, request.detail) ]

def QxContainerBackendRequest.lines (request : QxContainerBackendRequest) :
    List (CString × CString) :=
  request.identityLines ++ request.policyLines

def qxContainerBackendBuildLaunchRequest (request : QxContainerBackendRequest) :
    Except QxError CString := do
  qxContainerBackendValidateRequest request
  return renderLines '=' '\n' request.lines

/-- What `qx_execute_tool_contract` puts into the request. -/
def qxContainerBackendRequest (contract phase : CString) (taskoid : Oid) (sandbox : CString)
    (profile : QxSandboxProfile) (policy : QxRuntimePolicy) : QxContainerBackendRequest :=
  let value (key : String) := qxContractValue (some contract) key.toList
  let image := policy.imageRef.getD []
  { phase := phase
    toolName := qxSafeRuntimeText (value "tool")
    principalName := qxSafeRuntimeText (value "principal")
    principalRuntime := qxSafeRuntimeText (some (nonEmptyOr (value "principal_runtime")
      (qxDefaultRuntimeForProviderKind (value "provider_kind"))))
    providerName := qxSafeRuntimeText (value "provider")
    providerKind := qxSafeRuntimeText (value "provider_kind")
    providerEndpoint := qxSafeRuntimeText (value "provider_endpoint")
    sandboxName := qxSafeRuntimeText (some sandbox)
    profileName := profile.name
    environmentMode := "minimal".toList
    workdirName := "pg_qx_runtime".toList
    commandLine := "docker run --rm ".toList ++ image ++ " true".toList
    imageRef := image
    receiptSchema := (value "receipt_schema").getD "qx.receipt.v1".toList
    receiptAlg := (value "receipt_alg").getD "hmac-sha256".toList
    receiptNonce := phase ++ ':' :: ((value "tool").getD "tool".toList ++
      ':' :: (value "principal").getD "principal".toList)
    attestationMode := qxContainerBackendExpectedAttestationMode
    detail := "task=".toList ++ formatUnsigned taskoid
    timeoutMs := profile.timeoutMs
    memoryKb := profile.memoryKb
    processLimit := profile.processLimit
    tokenCharge := 0
    costCharge := 0
    requireAttestation := value "provider_attestation" == some "required".toList
    allowNetwork := policy.allowNetwork
    allowPrivilegeEscalation := policy.allowPrivilegeEscalation
    readonlyRootfs := policy.readonlyRootfs
    seccompMode := policy.seccompMode.getD "no-new-privileges".toList
    cgroupMode := policy.cgroupMode.getD "private".toList
    ociProfile := policy.ociProfile.getD [] }

def qxContainerLaunchRequest (getenv : Environ) (contract phase : CString) (taskoid : Oid)
    (sandbox : CString) (profile : QxSandboxProfile) (policy : QxRuntimePolicy) :
    Except QxError CString := do
  qxRuntimePolicyValidateImageRef getenv policy.imageRef
  qxContainerBackendBuildLaunchRequest
    (qxContainerBackendRequest contract phase taskoid sandbox profile policy)

end QhapaqXian
