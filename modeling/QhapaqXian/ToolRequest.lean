import QhapaqXian.ToolRunner

/-!
# Requests to the tool runner

The request file that `qx_execute_tool_contract` writes for the external program once its checks
have passed, from the fields of the tool's contract.
-/

namespace QhapaqXian

open Library

structure ToolRequest where
  phase : CString
  taskoid : Oid
  goalLength : Nat
  inputPresent : Bool
  tool : CString
  handler : CString
  sandbox : CString
  principal : CString
  principalRuntime : CString
  provider : CString
  providerKind : CString
  providerEndpoint : CString
  requireAttestation : Bool
  receiptSchema : CString
  receiptAlg : CString
  receiptNonce : CString
  receiptKey : CString
  receiptSigner : CString
  deriving Repr, DecidableEq

def qxBoolLiteral (value : Bool) : CString :=
  if value then "true".toList else "false".toList

/-- What a contract and a call of `qx_execute_tool_contract` give for the request file; the key of
the provider and the resolved path of the signer are looked up before. -/
def qxToolRequest (contract : CString) (phase : CString) (taskoid : Oid) (goal : Option CString)
    (inputPresent : Bool) (receiptKey signerPath : CString) : ToolRequest :=
  let value (key : String) := qxContractValue (some contract) key.toList
  let ed25519 := value "receipt_alg" == some "ed25519".toList
  { phase := phase
    taskoid := taskoid
    goalLength := (goal.getD []).length
    inputPresent := inputPresent
    tool := (value "tool").getD []
    handler := (value "handler").getD []
    sandbox := (value "tool_sandbox").getD "builtin".toList
    principal := (value "principal").getD []
    principalRuntime := nonEmptyOr (value "principal_runtime")
      (qxDefaultRuntimeForProviderKind (value "provider_kind"))
    provider := (value "provider").getD []
    providerKind := (value "provider_kind").getD "loopback".toList
    providerEndpoint := (value "provider_endpoint").getD "local://qhapaqxian-tool-runner".toList
    requireAttestation := value "provider_attestation" == some "required".toList
    receiptSchema := (value "receipt_schema").getD "qx.receipt.v1".toList
    receiptAlg := (value "receipt_alg").getD "hmac-sha256".toList
    receiptNonce := phase ++ ':' :: ((value "tool").getD "tool".toList ++
      ':' :: (value "principal").getD "principal".toList)
    receiptKey := if ed25519 then [] else receiptKey
    receiptSigner := if ed25519 then signerPath else [] }

def ToolRequest.lines (request : ToolRequest) : List (CString × CString) :=
  [ ("PHASE".toList, request.phase),
    ("TASK_OID".toList, formatUnsigned request.taskoid),
    ("GOAL_LENGTH".toList, formatUnsigned request.goalLength),
    ("INPUT_PRESENT".toList, qxBoolLiteral request.inputPresent),
    ("TOOL".toList, request.tool),
    ("HANDLER".toList, request.handler),
    ("SANDBOX".toList, request.sandbox),
    ("PRINCIPAL".toList, request.principal),
    ("PRINCIPAL_RUNTIME".toList, request.principalRuntime),
    ("PROVIDER".toList, request.provider),
    ("PROVIDER_KIND".toList, request.providerKind),
    ("PROVIDER_ENDPOINT".toList, request.providerEndpoint),
    ("REQUIRE_ATTESTATION".toList, qxBoolLiteral request.requireAttestation),
    ("RECEIPT_SCHEMA".toList, request.receiptSchema),
    ("RECEIPT_ALG".toList, request.receiptAlg),
    ("RECEIPT_NONCE".toList, request.receiptNonce),
    ("RECEIPT_KEY".toList, request.receiptKey),
    ("RECEIPT_SIGNER".toList, request.receiptSigner) ]

structure BackendLines where
  container : Option (CString × CString × CString)
  microvm : Option (CString × CString × CString × CString)
  launchRequestPath : CString
  deriving Repr, DecidableEq

def BackendLines.lines (backend : BackendLines) : List (CString × CString) :=
  (match backend.container with
    | some (dockerCli, dockerHost, image) =>
      [ ("DOCKER_CLI".toList, dockerCli), ("DOCKER_HOST".toList, dockerHost),
        ("CONTAINER_IMAGE".toList, image) ]
    | none => []) ++
  (match backend.microvm with
    | some (qemuCli, kernel, initrd, accel) =>
      [ ("QEMU_CLI".toList, qemuCli), ("MICROVM_KERNEL".toList, kernel),
        ("MICROVM_INITRD".toList, initrd), ("MICROVM_ACCEL".toList, accel) ]
    | none => []) ++
  (if backend.launchRequestPath = [] then []
    else [("LAUNCH_REQUEST_FILE".toList, backend.launchRequestPath)])

def ToolRequest.payload (request : ToolRequest) (backend : BackendLines) : CString :=
  renderLines '=' '\n' (request.lines ++ backend.lines)

end QhapaqXian
