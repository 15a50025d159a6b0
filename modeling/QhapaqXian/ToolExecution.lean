import QhapaqXian.Receipt

/-!
# Executing a tool contract

`qx_execute_tool_contract`: the backend of a contract, the references that are checked for it, the
request of the runner and what is expected of the response.
-/

namespace QhapaqXian

open Library

structure ToolHost where
  getenv : Environ
  dockerCli : CString
  microvmPaths : Option (CString × CString)
  launchPath : CString

/-- The runtime of the principal, or the one its provider's kind stands for. -/
def qxPrincipalRuntime (contract : CString) : CString :=
  nonEmptyOr (qxContractValue (some contract) "principal_runtime".toList)
    (qxDefaultRuntimeForProviderKind (qxContractValue (some contract) "provider_kind".toList))

def qxMicrovmBackendIsSupportedProviderKind (kind : Option CString) : Bool :=
  kind.any (sameIgnoringCase · "microvm".toList)

def qxMicrovmBackendIsSupportedRuntimeClass (runtime : Option CString) : Bool :=
  runtime.any (sameIgnoringCase · "microvm".toList)

inductive QxBackend
  | host
  | container
  | microvm (kernelPath initrdPath : CString)
  deriving Repr, DecidableEq

/-- A provider kind is not both, so at most one of the two flags of the source is set. -/
def qxExecutionBackend (host : ToolHost) (contract : CString) : QxBackend :=
  let kind := qxContractValue (some contract) "provider_kind".toList
  let runtime := some (qxPrincipalRuntime contract)
  if qxContainerBackendIsSupportedProviderKind kind &&
      qxContainerBackendIsSupportedRuntimeClass runtime then .container
  else if qxMicrovmBackendIsSupportedProviderKind kind &&
      qxMicrovmBackendIsSupportedRuntimeClass runtime then
    match host.microvmPaths with
    | some (kernelPath, initrdPath) => .microvm kernelPath initrdPath
    | none => .host
  else .host

inductive CheckedAssets
  | nothing
  | image (ref : CString)
  | microvm (kernel initrd : CString)
  deriving Repr, DecidableEq

/-- The policy of the contract's tags, compiled or resolved for the backend. -/
def qxCheckAssets (host : ToolHost) (contract : CString) : Except QxError CheckedAssets := do
  let policy := qxRuntimePolicyFromAuthz host.getenv
    (qxContractValue (some contract) "tool_capability_tags".toList)
  match qxExecutionBackend host contract with
  | .host => return .nothing
  | .container =>
    let compiled ← qxRuntimePolicyCompileContainer policy
    qxRuntimePolicyValidateImageRef host.getenv compiled.imageRef
    return .image (compiled.imageRef.getD [])
  | .microvm kernelPath initrdPath =>
    let resolved ← qxRuntimePolicyResolveMicrovmAssets host.getenv policy (some kernelPath)
      (some initrdPath)
    return .microvm (resolved.kernelRef.getD []) (resolved.initrdRef.getD [])

def qxRequestImage (getenv : Environ) : CString :=
  nonEmptyOr (getenv "QX_CONTAINER_IMAGE") "alpine:3.20".toList

def qxBackendLines (host : ToolHost) (contract : CString) : BackendLines :=
  match qxExecutionBackend host contract with
  | .host => ⟨none, none, []⟩
  | .container =>
    { container := some (host.dockerCli,
        nonEmptyOr (host.getenv "DOCKER_HOST") "unix:///var/run/docker.sock".toList,
        qxRequestImage host.getenv)
      microvm := none
      launchRequestPath := host.launchPath }
  | .microvm kernelPath initrdPath =>
    { container := none
      microvm := some (intoBuffer 1024 (microvmQemuRef host.getenv), kernelPath, initrdPath,
        nonEmptyOr (host.getenv "QX_MICROVM_ACCEL") "tcg".toList)
      launchRequestPath := host.launchPath }

def qxLauncherEnviron (profile : QxSandboxProfile) (runtimeDir launchPath : CString) : Environ
  | "QX_SANDBOX_PROFILE" => some profile.name
  | "QX_SANDBOX_TIMEOUT_MS" => some (formatSigned profile.timeoutMs)
  | "QX_SANDBOX_MEMORY_KB" => some (formatSigned profile.memoryKb)
  | "QX_SANDBOX_PROCESS_LIMIT" => some (formatSigned profile.processLimit)
  | "QX_RUNTIME_ROOT" => some runtimeDir
  | "TMPDIR" => some runtimeDir
  | "LAUNCH_REQUEST_FILE" => if launchPath = [] then none else some launchPath
  | "LANG" => some "C".toList
  | _ => none

def qxRequestText (host : ToolHost) (contract phase : CString) (taskoid : Oid)
    (goal : Option CString) (inputPresent : Bool) (receiptKey signerPath : CString) : CString :=
  (qxToolRequest contract phase taskoid goal inputPresent receiptKey signerPath).payload
    (qxBackendLines host contract)

def qxRunnerEnviron (host : ToolHost) (contract : CString) (profile : QxSandboxProfile)
    (runtimeDir : CString) : Environ :=
  qxLauncherEnviron profile runtimeDir (qxBackendLines host contract).launchRequestPath

def ToolPhase.name : ToolPhase → CString
  | submit => "submit".toList
  | resume => "resume".toList

def qxExpectedResult (contract phase : CString) (taskoid : Oid) (profile : QxSandboxProfile) :
    ExpectedResult :=
  let value (key : String) := qxContractValue (some contract) key.toList
  { profile := profile
    phase := some phase
    taskoid := taskoid
    tool := value "tool"
    principal := value "principal"
    principalRuntime := some (qxPrincipalRuntime contract)
    provider := value "provider"
    providerKind := some ((value "provider_kind").getD "loopback".toList)
    providerEndpoint :=
      some ((value "provider_endpoint").getD "local://qhapaqxian-tool-runner".toList)
    receiptSchema := some ((value "receipt_schema").getD "qx.receipt.v1".toList)
    receiptAlg := some ((value "receipt_alg").getD "hmac-sha256".toList)
    receiptNonce := some (phase ++ ':' :: ((value "tool").getD "tool".toList ++
      ':' :: (value "principal").getD "principal".toList))
    requireAttestation := value "provider_attestation" == some "required".toList }

end QhapaqXian
