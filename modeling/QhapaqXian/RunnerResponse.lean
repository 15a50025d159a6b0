import QhapaqXian.ToolRunner

/-!
# The response of the tool runner

The rest of `main` in `qhapaqxian_tool_runner.c`: what the runner charges, the receipt that it signs
and the lines of the response file.
-/

namespace QhapaqXian

open Library

structure RunnerHost where
  files : Files
  getenv : Environ
  cwd : CString
  succeeds : RunnerLaunch → Bool

/-- The primitives a receipt is signed with: the HMAC of a payload under a key, and the Ed25519
signature by the key of a file, which needs OpenSSL. -/
structure ReceiptSigner where
  hmacHex : CString → CString → CString
  ed25519 : CString → CString → Option CString

/-- `getcwd` into a buffer of 260 characters. -/
def runnerWorkdir (cwd : CString) : CString :=
  if cwd.length < 260 then cwd else "<unknown>".toList

def pathBasename (path : CString) : CString :=
  if path = [] then "<unknown>".toList else path.rtakeWhile fun c => c != '/' && c != '\\'

def sandboxBonus (sandbox : CString) : Int :=
  if sandbox = "isolated".toList then 13
  else if sandbox = "restricted".toList then 7
  else 2

namespace RunnerRequest

/-- The sum is an `int`. -/
def tokens (request : RunnerRequest) : Int :=
  wrapInt32 (wrapInt32 request.goalLength + request.tool.length + request.handler.length +
    request.principal.length + (if request.inputPresent then 11 else 3) +
    sandboxBonus request.sandbox + (if request.phase = "resume".toList then 11 else 5))

def cost (request : RunnerRequest) : Int :=
  max 1 (request.tokens.tdiv 5 + if request.phase = "resume".toList then 4 else 2)

def environmentMode (request : RunnerRequest) : CString :=
  if request.pathPresent then "ambient".toList else "minimal".toList

def attestationMode (request : RunnerRequest) : CString :=
  if !request.requireAttestation then "optional".toList
  else if request.providerKind = "microvm".toList then "microvm_receipt_verified".toList
  else if request.providerKind = "container".toList then "container_receipt_verified".toList
  else if request.providerKind = "remote".toList then "remote_broker_verified".toList
  else "loopback_verified".toList

def receiptSchemaOr (request : RunnerRequest) : CString :=
  nonEmptyOr (some request.receiptSchema) "qx.receipt.v1".toList

def receiptAlgOr (request : RunnerRequest) : CString :=
  nonEmptyOr (some request.receiptAlg) "hmac-sha256".toList

def summary (request : RunnerRequest) : CString :=
  "tool ".toList ++ request.tool ++ " via ".toList ++ request.principal ++ " for ".toList ++
    nonEmptyOr (some request.phase) "submit".toList ++ " phase on task ".toList ++
    formatSigned request.taskOid

/-- The detail in its buffer of 2048 characters. -/
def detail (request : RunnerRequest) (launch : RunnerLaunch) : CString :=
  intoBuffer 2048 <| match launch with
    | .microvm (some command) =>
      request.summary ++ ";backend_launch=qemu;vm_id=qx-microvm-".toList ++
        formatSigned request.taskOid ++ ";microvm_accel=".toList ++ command.accel ++
        ";microvm_kernel=".toList ++ command.kernel
    | .container command =>
      request.summary ++ ";backend_launch=docker;container_id=".toList ++ command.containerId ++
        ";container_image=".toList ++ command.image
    | _ => request.summary

def receiptFields (request : RunnerRequest) (workdir detail : CString) :
    List (CString × CString) :=
  [ ("phase".toList, nonEmptyOr (some request.phase) "submit".toList),
    ("task".toList, formatSigned request.taskOid),
    ("tool".toList, nonEmptyOr (some request.tool) "<unknown>".toList),
    ("principal".toList, nonEmptyOr (some request.principal) "<unknown>".toList),
    ("principal_runtime".toList, nonEmptyOr (some request.principalRuntime) "host".toList),
    ("provider".toList, nonEmptyOr (some request.provider) "<unknown>".toList),
    ("provider_kind".toList, nonEmptyOr (some request.providerKind) "loopback".toList),
    ("provider_endpoint".toList,
      nonEmptyOr (some request.providerEndpoint) "local://qhapaqxian-tool-runner".toList),
    ("sandbox".toList, nonEmptyOr (some request.sandbox) "builtin".toList),
    ("profile".toList, nonEmptyOr (some request.profile) request.sandbox),
    ("env".toList, request.environmentMode),
    ("workdir".toList, workdir),
    ("timeout_ms".toList, formatSigned request.timeoutMs),
    ("process_limit".toList, formatSigned request.processLimit),
    ("path_present".toList, if request.pathPresent then "true".toList else "false".toList),
    ("receipt_schema".toList, request.receiptSchemaOr),
    ("receipt_alg".toList, request.receiptAlgOr),
    ("receipt_nonce".toList, nonEmptyOr (some request.receiptNonce) "missing".toList),
    ("attestation".toList, request.attestationMode),
    ("tokens".toList, formatSigned request.tokens),
    ("cost".toList, formatSigned request.cost),
    ("detail".toList, detail) ]

/-- `build_receipt_payload`, in its buffer of 4096 characters. -/
def receiptPayload (request : RunnerRequest) (workdir detail : CString) : CString :=
  intoBuffer 4096 (renderFields '=' ';' (request.receiptFields workdir detail))

/-- `compute_receipt_signature`. -/
def receiptSignature (signer : ReceiptSigner) (request : RunnerRequest) (payload : CString) :
    Option CString :=
  if request.receiptAlgOr = "ed25519".toList then
    if request.receiptSigner = [] then none else signer.ed25519 request.receiptSigner payload
  else if request.receiptKey = [] then none
  else some (signer.hmacHex request.receiptKey payload)

/-- The identifiers of the backend, which only a container or a microVM has. -/
def backendLines (request : RunnerRequest) : RunnerLaunch → List (CString × CString)
  | .microvm (some _) =>
    [("VM_ID".toList, "qx-microvm-".toList ++ formatSigned request.taskOid)]
  | .container command => [("CONTAINER_ID".toList, command.containerId)]
  | _ => []

def responseLines (request : RunnerRequest) (launch : RunnerLaunch)
    (workdir detail signature : CString) : List (CString × CString) :=
  [ ("STATUS".toList, "ok".toList), ("TOOL".toList, request.tool),
    ("PRINCIPAL".toList, request.principal),
    ("PRINCIPAL_RUNTIME".toList, nonEmptyOr (some request.principalRuntime) "host".toList),
    ("PROVIDER".toList, request.provider),
    ("PROVIDER_KIND".toList, nonEmptyOr (some request.providerKind) "loopback".toList),
    ("SANDBOX".toList, request.sandbox),
    ("PROFILE".toList, nonEmptyOr (some request.profile) request.sandbox),
    ("ENV".toList, request.environmentMode), ("WORKDIR".toList, workdir),
    ("TIMEOUT_MS".toList, formatSigned request.timeoutMs),
    ("PROCESS_LIMIT".toList, formatSigned request.processLimit),
    ("PATH_PRESENT".toList, if request.pathPresent then "true".toList else "false".toList),
    ("RECEIPT_SCHEMA".toList, request.receiptSchemaOr),
    ("RECEIPT_ALG".toList, request.receiptAlgOr),
    ("RECEIPT_NONCE".toList, nonEmptyOr (some request.receiptNonce) "missing".toList),
    ("RECEIPT_SIG".toList, signature), ("ATTESTATION".toList, request.attestationMode),
    ("TOKENS".toList, formatSigned request.tokens), ("COST".toList, formatSigned request.cost) ] ++
  request.backendLines launch ++ [("DETAIL".toList, detail)]

end RunnerRequest

/-- The response file that the runner writes; without one it exits with status 1. -/
def runnerMain (host : RunnerHost) (signer : ReceiptSigner) (requestPath : CString) :
    Option CString := do
  let request ← parseRequest host.files host.getenv requestPath
  let launch := runnerLaunch host.getenv request
  guard (launch = .host ∨ (launch ≠ .microvm none ∧ host.succeeds launch))
  let workdir := pathBasename (runnerWorkdir host.cwd)
  let detail := request.detail launch
  let signature ← request.receiptSignature signer (request.receiptPayload workdir detail)
  return renderLines '=' '\n' (request.responseLines launch workdir detail signature)

end QhapaqXian
