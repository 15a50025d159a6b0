import QhapaqXian.ExecutionTrace
import QhapaqXian.Library.Slots

/-!
# The course of a tool execution

`qx_execute_tool_contract` from its checks on: the files in the runtime directory, the end of the
program, its response, and the lease that the response reports, which outlives an error.
-/

namespace QhapaqXian

open Library

/-! ## The lease registry -/

inductive QxBackendLeaseKind
  | container
  | microvm
  | host
  deriving Repr, DecidableEq

structure BackendLease where
  dboid : Oid
  taskoid : Oid
  kind : QxBackendLeaseKind
  instanceId : CString
  deriving Repr, DecidableEq

namespace BackendLease

def ofTask (dboid taskoid : Oid) (lease : BackendLease) : Bool :=
  lease.dboid == dboid && lease.taskoid == taskoid

def names (dboid taskoid : Oid) (instanceId : CString) (lease : BackendLease) : Bool :=
  lease.ofTask dboid taskoid && lease.instanceId == instanceId

end BackendLease

def qxStatBackendLeaseRegister (lease : BackendLease) (leases : Slots BackendLease) :
    Except QxError (Slots BackendLease) :=
  if lease.dboid = invalidOid ∨ lease.taskoid = invalidOid ∨ lease.instanceId = [] then .ok leases
  else if 128 ≤ lease.instanceId.length then
    ereportDetail .nameTooLong "backend instance identifier is too long"
      "Backend instance identifiers must be shorter than 128 bytes."
  else
    .ok (leases.upsert (BackendLease.names lease.dboid lease.taskoid lease.instanceId)
      (fun held => { held with kind := lease.kind }) lease)

/-- An empty identifier stands for any. -/
def qxStatBackendLeaseRelease (dboid taskoid : Oid) (instanceId : CString)
    (leases : Slots BackendLease) : Slots BackendLease :=
  if dboid = invalidOid ∨ taskoid = invalidOid then leases
  else leases.clear fun lease => lease.ofTask dboid taskoid &&
    (instanceId == [] || lease.instanceId == instanceId)

def qxStatBackendLeaseFence (dboid taskoid : Oid) (leases : Slots BackendLease) :
    Slots BackendLease :=
  if dboid = invalidOid ∨ taskoid = invalidOid then leases
  else leases.clearAll (BackendLease.ofTask dboid taskoid)

/-! ## The runtime files -/

inductive RuntimeFile
  | request
  | response
  | launch
  deriving Repr, DecidableEq

/-- Which files of the execution are in the runtime directory. -/
abbrev RuntimeFiles := RuntimeFile → Bool

/-- How writing a file ends; one that was opened stays there. -/
inductive FileWrite
  | written
  | notOpened (reason : String)
  | notWritten (reason : String)
  deriving Repr, DecidableEq

def qxWriteTextFile (path : CString) : FileWrite → Except QxError Unit
  | .written => .ok ()
  | .notOpened reason =>
    ereport .fileAccess s!"could not open runtime file \"{text path}\": {reason}"
  | .notWritten reason =>
    ereport .fileAccess s!"could not write runtime file \"{text path}\": {reason}"

def FileWrite.creates : FileWrite → Bool
  | .notOpened _ => false
  | _ => true

/-- `unlink`; where it fails a warning is logged and the file stays. -/
def RuntimeFiles.unlink (removes : RuntimeFile → Bool) (file : RuntimeFile) (files : RuntimeFiles) :
    RuntimeFiles :=
  fun other => if other = file then files file && !removes file else files other

/-! ## The principal program -/

inductive ProgramEnd
  | waitFailed (reason : String)
  | timedOut
  | signalled
  | exited (status : Nat)
  deriving Repr, DecidableEq

/-- What a program that was started leaves behind: files, and in the response file, where that can
be opened, a text. -/
structure ProgramEffect where
  ending : ProgramEnd
  wallTimeMs : Int
  leaves : RuntimeFiles
  response : Except String CString
  response_there : ∀ contents, response = .ok contents → leaves .response = true

inductive ProgramRun
  | forkFailed (reason : String)
  | ran (effect : ProgramEffect)

def qxLaunchPrincipalProgram (programPath : CString) (profile : QxSandboxProfile) :
    ProgramRun → Except QxError ProgramEffect
  | .forkFailed reason =>
    ereport .fileAccess s!"could not fork principal program \"{text programPath}\": {reason}"
  | .ran effect =>
    match effect.ending with
    | .waitFailed reason =>
      ereport .fileAccess s!"could not wait for principal program \"{text programPath}\": {reason}"
    | .timedOut =>
      let allowed := profile.timeoutMs
      ereportDetail .queryCanceled
        s!"principal program \"{text programPath}\" exceeded sandbox timeout"
        s!"Sandbox profile \"{text profile.name}\" allows at most {allowed} ms of wall time."
    | .signalled =>
      ereportDetail .externalRoutineException s!"principal program \"{text programPath}\" failed"
        "Exit status was -1."
    | .exited 0 => .ok effect
    | .exited status =>
      ereportDetail .externalRoutineException s!"principal program \"{text programPath}\" failed"
        s!"Exit status was {status}."

/-! ## The execution -/

/-- An execution of a contract and what happens around it. -/
structure ContractCall where
  host : ToolHost
  contract : CString
  phase : ToolPhase
  dboid : Oid
  taskoid : Oid
  scheme : SignatureScheme
  programPath : CString
  requestPath : CString
  responsePath : CString
  receiptKey : Except QxError CString
  /-- The checks of a microVM's contract and the paths of the program and the runtime directory. -/
  resolved : Except QxError Unit
  launchWrite : FileWrite
  requestWrite : FileWrite
  program : ProgramRun
  removes : RuntimeFile → Bool

structure ContractCallEnd where
  outcome : Except QxError QxExternalToolResult
  files : RuntimeFiles
  leases : Slots BackendLease

/-- The lease on the instance that a response reports. -/
def qxReportedLease (backend : QxBackend) (dboid taskoid : Oid) (result : QxExternalToolResult) :
    Option BackendLease :=
  let reports (marker : String) := (strstr (result.detail.getD []) marker.toList).isSome
  match backend with
  | .host => none
  | .container =>
    if reports "backend_launch=docker" then
      some ⟨dboid, taskoid, .container,
        nonEmptyOr result.containerId ("qx-container-".toList ++ formatUnsigned taskoid)⟩
    else none
  | .microvm _ _ =>
    if reports "backend_launch=qemu" then
      some ⟨dboid, taskoid, .microvm,
        nonEmptyOr result.vmId ("qx-microvm-".toList ++ formatUnsigned taskoid)⟩
    else none

def qxReleasedInstance (result : QxExternalToolResult) : Option CString :=
  if isNullOrEmpty result.containerId then
    if isNullOrEmpty result.vmId then none else result.vmId
  else result.containerId

def qxReleaseLeases (backend : QxBackend) (dboid taskoid : Oid) (result : QxExternalToolResult)
    (leases : Slots BackendLease) : Slots BackendLease :=
  match qxReleasedInstance result with
  | some instanceId => qxStatBackendLeaseRelease dboid taskoid instanceId leases
  | none => if backend = .host then leases else qxStatBackendLeaseFence dboid taskoid leases

/-- The detail as it is returned: up to its first `;tokens=` or `;launch_mode=`, with what the
engine has observed itself. -/
def qxAugmentDetail (wallTimeMs : Int) (detail : CString) : CString :=
  let clean := beforeMarker (fieldMarker "tokens") (qxStripDuplicateReceiptTail detail)
  qxTruncateDetailAfterWallMs (beforeMarker (fieldMarker "launch_mode") clean ++
    ";launch_mode=profiled_process;restricted_identity=false;wall_ms=".toList ++
    formatSigned wallTimeMs)

/-- What the response does not say is taken from the contract and the sandbox. -/
def qxCompleteResult (contract sandbox : CString) (profile : QxSandboxProfile)
    (expected : ExpectedResult) (wallTimeMs : Int) (result : QxExternalToolResult) :
    QxExternalToolResult :=
  { result with
    toolName := result.toolName.or expected.tool
    principalName := result.principalName.or expected.principal
    principalRuntime := result.principalRuntime.or expected.principalRuntime
    providerName := result.providerName.or expected.provider
    providerKind := result.providerKind.or expected.providerKind
    sandboxName := result.sandboxName.or (some sandbox)
    profileName := result.profileName.or (some profile.name)
    environmentMode := result.environmentMode.or (some "minimal".toList)
    workdirName := result.workdirName.or (some "pg_qx_runtime".toList)
    receiptSchema := result.receiptSchema.or expected.receiptSchema
    receiptAlg := result.receiptAlg.or expected.receiptAlg
    receiptNonce := result.receiptNonce.or expected.receiptNonce
    attestationMode := result.attestationMode.or
      (some (qxExpectedAttestationMode (qxContractValue (some contract) "provider_kind".toList)
        expected.requireAttestation))
    receiptSignature := result.receiptSignature.or (some "verified".toList)
    timeoutMs := if result.timeoutMs = 0 then profile.timeoutMs else result.timeoutMs
    processLimit := if result.processLimit = 0 then profile.processLimit else result.processLimit
    detail := result.detail.map (qxAugmentDetail wallTimeMs) }

/-- A microVM is given at least these limits. -/
def qxExecutionProfile (backend : QxBackend) (profile : QxSandboxProfile) : QxSandboxProfile :=
  match backend with
  | .microvm _ _ =>
    { profile with
      timeoutMs := max profile.timeoutMs 120000
      processLimit := max profile.processLimit 4
      memoryKb := max profile.memoryKb 262144 }
  | _ => profile

namespace ContractCall

def backend (call : ContractCall) : QxBackend :=
  qxExecutionBackend call.host call.contract

/-- The references of the backend against the allowlists, and for a container the launch request. -/
def checkBackend (call : ContractCall) (sandbox : CString) (profile : QxSandboxProfile) :
    Except QxError Unit :=
  match call.backend with
  | .container => do
    let policy ← qxRuntimePolicyCompileContainer (qxRuntimePolicyFromAuthz call.host.getenv
      (qxContractValue (some call.contract) "tool_capability_tags".toList))
    let _ ← qxContainerLaunchRequest call.host.getenv call.contract call.phase.name call.taskoid
      sandbox profile policy
  | _ => do
    let _ ← qxCheckAssets call.host call.contract

def prepare (call : ContractCall) : Except QxError (CString × CString × QxSandboxProfile) := do
  let receiptKey ← call.receiptKey
  let (sandbox, profile) ← qxExecutionSandbox call.contract
  call.checkBackend sandbox profile
  call.resolved
  return (receiptKey, sandbox, profile)

/-- Only an execution with a backend has a launch request. -/
def hasFile (call : ContractCall) : RuntimeFile → Bool
  | .launch => call.backend != .host
  | _ => true

def writeFiles (call : ContractCall) : Except QxError Unit := do
  if call.hasFile .launch then qxWriteTextFile call.host.launchPath call.launchWrite
  qxWriteTextFile call.requestPath call.requestWrite

/-- The request comes after the launch request. -/
def writtenFiles (call : ContractCall) : RuntimeFiles
  | .launch => call.hasFile .launch && call.launchWrite.creates
  | .request => (!call.hasFile .launch || call.launchWrite == .written) && call.requestWrite.creates
  | .response => false

def leftFiles (call : ContractCall) : RuntimeFiles :=
  match call.program with
  | .forkFailed _ => call.writtenFiles
  | .ran effect => fun file => call.hasFile file && effect.leaves file

def expected (call : ContractCall) (profile : QxSandboxProfile) : ExpectedResult :=
  qxExpectedResult call.contract call.phase.name call.taskoid
    (qxExecutionProfile call.backend profile)

def reportedLease (call : ContractCall) (result : QxExternalToolResult) : Option BackendLease :=
  qxReportedLease call.backend call.dboid call.taskoid result

def register (call : ContractCall) (result : QxExternalToolResult) (leases : Slots BackendLease) :
    Except QxError (Slots BackendLease) :=
  match call.reportedLease result with
  | some lease => qxStatBackendLeaseRegister lease leases
  | none => .ok leases

def removeFiles (call : ContractCall) (files : RuntimeFiles) : RuntimeFiles :=
  let files := (files.unlink call.removes .request).unlink call.removes .response
  if call.hasFile .launch then files.unlink call.removes .launch else files

end ContractCall

def qxFinishExecution (call : ContractCall) (receiptKey sandbox : CString)
    (profile : QxSandboxProfile) (effect : ProgramEffect) (result : QxExternalToolResult)
    (leases : Slots BackendLease) : ContractCallEnd :=
  match call.register result leases with
  | .error error => ⟨.error error, call.leftFiles, leases⟩
  | .ok registered =>
    match qxValidateExternalResult call.scheme (call.expected profile) receiptKey result with
    | .error error => ⟨.error error, call.leftFiles, registered⟩
    | .ok () =>
      { outcome := .ok (qxCompleteResult call.contract sandbox profile (call.expected profile)
          effect.wallTimeMs result)
        files := call.removeFiles call.leftFiles
        leases := qxReleaseLeases call.backend call.dboid call.taskoid result registered }

def ContractCall.qxExecuteToolContract (call : ContractCall) (leases : Slots BackendLease) : ContractCallEnd :=
  match call.prepare with
  | .error error => ⟨.error error, fun _ => false, leases⟩
  | .ok (receiptKey, sandbox, profile) =>
    match call.writeFiles with
    | .error error => ⟨.error error, call.writtenFiles, leases⟩
    | .ok () =>
      match qxLaunchPrincipalProgram call.programPath (qxExecutionProfile call.backend profile)
          call.program with
      | .error error => ⟨.error error, call.leftFiles, leases⟩
      | .ok effect =>
        match qxReadExternalResult call.responsePath effect.response with
        | .error error => ⟨.error error, call.leftFiles, leases⟩
        | .ok result => qxFinishExecution call receiptKey sandbox profile effect result leases

end QhapaqXian
