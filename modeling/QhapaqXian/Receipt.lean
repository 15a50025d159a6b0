import QhapaqXian.ContainerBackend

/-!
# Receipts

The response of the external program as `qx_runtime.c` reads it, and `qx_validate_external_result`,
which compares it with what was asked for and verifies its receipt.
-/

namespace QhapaqXian

open Library

structure QxExternalToolResult where
  tokenCharge : Int
  costCharge : Int
  timeoutMs : Int
  processLimit : Int
  pathPresent : Bool
  detail : Option CString
  toolName : Option CString
  principalName : Option CString
  principalRuntime : Option CString
  providerName : Option CString
  providerKind : Option CString
  sandboxName : Option CString
  profileName : Option CString
  environmentMode : Option CString
  workdirName : Option CString
  receiptSchema : Option CString
  receiptAlg : Option CString
  receiptNonce : Option CString
  receiptSignature : Option CString
  attestationMode : Option CString
  containerId : Option CString
  vmId : Option CString
  deriving Repr, DecidableEq

def QxExternalToolResult.initial : QxExternalToolResult where
  tokenCharge := 0
  costCharge := 0
  timeoutMs := 0
  processLimit := 0
  pathPresent := false
  detail := none
  toolName := none
  principalName := none
  principalRuntime := none
  providerName := none
  providerKind := none
  sandboxName := none
  profileName := none
  environmentMode := none
  workdirName := none
  receiptSchema := none
  receiptAlg := none
  receiptNonce := none
  receiptSignature := none
  attestationMode := none
  containerId := none
  vmId := none

/-! ## The response file -/

section Numbers

def digitValue (c : Char) : Option Nat :=
  if c.isDigit then some (c.toNat - '0'.toNat) else none

def hexDigitValue (c : Char) : Option Nat :=
  if c.isDigit then some (c.toNat - '0'.toNat)
  else if 'a' ≤ c ∧ c ≤ 'f' then some (c.toNat - 'a'.toNat + 10)
  else if 'A' ≤ c ∧ c ≤ 'F' then some (c.toNat - 'A'.toNat + 10)
  else none

def digitBelow (base : Nat) (c : Char) : Option Nat :=
  (digitValue c).filter (· < base)

def outOfRange {α : Type} (input : CString) : Except QxError α :=
  ereport .numericValueOutOfRange s!"value \"{text input}\" is out of range for type integer"

def invalidSyntax {α : Type} (input : CString) : Except QxError α :=
  ereport .invalidTextRepresentation
    s!"invalid input syntax for type integer: \"{text input}\""

/-- The digits at the front of a text, with single underscores between them, and what follows. -/
def scanDigits (input : CString) (base : Nat) (digit : Char → Option Nat) :
    Nat → CString → Except QxError (Nat × CString)
  | n, [] => .ok (n, [])
  | n, c :: rest =>
    match digit c with
    | some d => if n > 2 ^ 31 / base then outOfRange input else scanDigits input base digit
        (n * base + d) rest
    | none =>
      if c = '_' then
        if rest.head?.any fun next => (digit next).isSome then scanDigits input base digit n rest
        else invalidSyntax input
      else .ok (n, c :: rest)

/-- The base of a number, how its digits are read, and the text behind its prefix. -/
def numberBase : CString → Nat × (Char → Option Nat) × CString
  | '0' :: 'x' :: rest | '0' :: 'X' :: rest => (16, hexDigitValue, rest)
  | '0' :: 'o' :: rest | '0' :: 'O' :: rest => (8, digitBelow 8, rest)
  | '0' :: 'b' :: rest | '0' :: 'B' :: rest => (2, digitBelow 2, rest)
  | rest => (10, digitValue, rest)

/-- Its fast path gives the same for plain digits. -/
def pgStrtoint32 (input : CString) : Except QxError Int := do
  let unspaced := input.dropWhile isSpace
  let negative := unspaced.head? == some '-'
  let unsigned :=
    if unspaced.head? == some '-' || unspaced.head? == some '+' then unspaced.tail else unspaced
  let (base, digit, digits) := numberBase unsigned
  if base == 10 && digits.head? == some '_' then
    invalidSyntax input
  let (n, rest) ← scanDigits input base digit 0 digits
  if rest.length == digits.length || !(rest.dropWhile isSpace).isEmpty then
    invalidSyntax input
  if negative then
    if n > 2 ^ 31 then outOfRange input else return -(n : Int)
  else
    if n > 2 ^ 31 - 1 then outOfRange input else return (n : Int)

end Numbers

inductive ResponseKey
  | tokens
  | cost
  | detail
  | tool
  | principal
  | principalRuntime
  | provider
  | providerKind
  | sandbox
  | profile
  | env
  | workdir
  | receiptSchema
  | receiptAlg
  | receiptNonce
  | receiptSig
  | attestation
  | timeoutMs
  | processLimit
  | pathPresent
  | containerId
  | vmId
  | status
  deriving Repr, DecidableEq

namespace ResponseKey

def all : List ResponseKey :=
  [.tokens, .cost, .detail, .tool, .principal, .principalRuntime, .provider, .providerKind,
    .sandbox, .profile, .env, .workdir, .receiptSchema, .receiptAlg, .receiptNonce, .receiptSig,
    .attestation, .timeoutMs, .processLimit, .pathPresent, .containerId, .vmId, .status]

def name : ResponseKey → CString
  | tokens => "TOKENS".toList
  | cost => "COST".toList
  | detail => "DETAIL".toList
  | tool => "TOOL".toList
  | principal => "PRINCIPAL".toList
  | principalRuntime => "PRINCIPAL_RUNTIME".toList
  | provider => "PROVIDER".toList
  | providerKind => "PROVIDER_KIND".toList
  | sandbox => "SANDBOX".toList
  | profile => "PROFILE".toList
  | env => "ENV".toList
  | workdir => "WORKDIR".toList
  | receiptSchema => "RECEIPT_SCHEMA".toList
  | receiptAlg => "RECEIPT_ALG".toList
  | receiptNonce => "RECEIPT_NONCE".toList
  | receiptSig => "RECEIPT_SIG".toList
  | attestation => "ATTESTATION".toList
  | timeoutMs => "TIMEOUT_MS".toList
  | processLimit => "PROCESS_LIMIT".toList
  | pathPresent => "PATH_PRESENT".toList
  | containerId => "CONTAINER_ID".toList
  | vmId => "VM_ID".toList
  | status => "STATUS".toList

def ofName? (name : CString) : Option ResponseKey :=
  all.find? fun key => key.name == name

end ResponseKey

def QxExternalToolResult.assign (result : QxExternalToolResult) (key : ResponseKey)
    (value : CString) : Except QxError QxExternalToolResult :=
  match key with
  | .tokens => do
    let n ← pgStrtoint32 value
    return { result with tokenCharge := n }
  | .cost => do
    let n ← pgStrtoint32 value
    return { result with costCharge := n }
  | .detail => .ok { result with detail := some value }
  | .tool => .ok { result with toolName := some value }
  | .principal => .ok { result with principalName := some value }
  | .principalRuntime => .ok { result with principalRuntime := some value }
  | .provider => .ok { result with providerName := some value }
  | .providerKind => .ok { result with providerKind := some value }
  | .sandbox => .ok { result with sandboxName := some value }
  | .profile => .ok { result with profileName := some value }
  | .env => .ok { result with environmentMode := some value }
  | .workdir => .ok { result with workdirName := some value }
  | .receiptSchema => .ok { result with receiptSchema := some value }
  | .receiptAlg => .ok { result with receiptAlg := some value }
  | .receiptNonce => .ok { result with receiptNonce := some value }
  | .receiptSig => .ok { result with receiptSignature := some value }
  | .attestation => .ok { result with attestationMode := some value }
  | .timeoutMs => do
    let n ← pgStrtoint32 value
    return { result with timeoutMs := n }
  | .processLimit => do
    let n ← pgStrtoint32 value
    return { result with processLimit := n }
  | .pathPresent => .ok { result with pathPresent := value == "true".toList }
  | .containerId => .ok { result with containerId := some value }
  | .vmId => .ok { result with vmId := some value }
  | .status =>
    if value = "ok".toList then .ok result
    else ereport .externalRoutineException
      s!"principal response reported status \"{text value}\""

def QxExternalToolResult.assignNamed (result : QxExternalToolResult)
    (entry : CString × CString) : Except QxError QxExternalToolResult :=
  match ResponseKey.ofName? entry.1 with
  | some key => result.assign key entry.2
  | none => .ok result

/-- The assignments of the lines that `fgets` returns. A `DETAIL` that fills its buffer goes on
with the next lines; `detail` is what has been read of it. -/
def responseAssignments : Option CString → List CString → List (CString × CString)
  | none, [] => []
  | some detail, [] => [("DETAIL".toList, detail)]
  | some detail, line :: lines =>
    if '\n' ∈ line then
      ("DETAIL".toList, detail ++ line.takeWhile (· ≠ '\n')) :: responseAssignments none lines
    else responseAssignments (some (detail ++ line)) lines
  | none, line :: lines =>
    match splitAssignment '=' line with
    | none => responseAssignments none lines
    | some (key, rest) =>
      let value := rest.takeWhile fun c => !isLineBreak c
      if key = "DETAIL".toList ∧ line.length = 8191 ∧ value = rest then
        responseAssignments (some value) lines
      else (key, value) :: responseAssignments none lines

def QxExternalToolResult.withDefaultDetail (result : QxExternalToolResult) :
    QxExternalToolResult :=
  { result with
    detail := some (result.detail.getD "external tool execution completed".toList) }

/-- The lines are read into `char line[8192]`. -/
def parseExternalResult (contents : CString) : Except QxError QxExternalToolResult := do
  let result ← (responseAssignments none (readLines '\n' 8191 [] contents)).foldlM
    QxExternalToolResult.assignNamed .initial
  return result.withDefaultDetail

/-- `contents` is what the file holds, or why it cannot be opened. -/
def qxReadExternalResult (path : CString) (contents : Except String CString) :
    Except QxError QxExternalToolResult :=
  match contents with
  | .ok contents => parseExternalResult contents
  | .error reason =>
    ereport .fileAccess s!"could not read principal response file \"{text path}\": {reason}"

/-! ## The payload -/

/-- What the engine expects of a response; a field it has no value for is not compared. -/
structure ExpectedResult where
  profile : QxSandboxProfile
  phase : Option CString
  taskoid : Oid
  tool : Option CString
  principal : Option CString
  principalRuntime : Option CString
  provider : Option CString
  providerKind : Option CString
  providerEndpoint : Option CString
  receiptSchema : Option CString
  receiptAlg : Option CString
  receiptNonce : Option CString
  requireAttestation : Bool
  deriving Repr, DecidableEq

/-- The fields of the signed text: up to the endpoint what the engine expects, from the sandbox on
what the response says. -/
def receiptFields (expected : ExpectedResult) (result : QxExternalToolResult) :
    List (CString × CString) :=
  [ ("phase".toList, expected.phase.getD "submit".toList),
    ("task".toList, formatUnsigned expected.taskoid),
    ("tool".toList, expected.tool.getD "<unknown>".toList),
    ("principal".toList, expected.principal.getD "<unknown>".toList),
    ("principal_runtime".toList, expected.principalRuntime.getD "host".toList),
    ("provider".toList, expected.provider.getD "<unknown>".toList),
    ("provider_kind".toList, expected.providerKind.getD "loopback".toList),
    ("provider_endpoint".toList,
      expected.providerEndpoint.getD "local://qhapaqxian-tool-runner".toList),
    ("sandbox".toList, result.sandboxName.getD "builtin".toList),
    ("profile".toList, result.profileName.getD "builtin".toList),
    ("env".toList, result.environmentMode.getD "minimal".toList),
    ("workdir".toList, result.workdirName.getD "pg_qx_runtime".toList),
    ("timeout_ms".toList, formatSigned result.timeoutMs),
    ("process_limit".toList, formatSigned result.processLimit),
    ("path_present".toList, qxBoolLiteral result.pathPresent),
    ("receipt_schema".toList, result.receiptSchema.getD "qx.receipt.v1".toList),
    ("receipt_alg".toList, result.receiptAlg.getD "hmac-sha256".toList),
    ("receipt_nonce".toList, result.receiptNonce.getD "<unknown>".toList),
    ("attestation".toList, result.attestationMode.getD "optional".toList),
    ("tokens".toList, formatSigned result.tokenCharge),
    ("cost".toList, formatSigned result.costCharge),
    ("detail".toList, result.detail.getD "<none>".toList) ]

def qxReceiptPayload (expected : ExpectedResult) (result : QxExternalToolResult) : CString :=
  renderFields '=' ';' (receiptFields expected result)

/-! ## The signature -/

structure SignatureScheme where
  hmacHex : CString → CString → CString
  /-- Whether a signature of a payload verifies under a public key; only with OpenSSL. -/
  ed25519 : Option (CString → CString → List Nat → Except QxError Bool)

/-- `qx_hex_decode_signature` without its length. -/
def hexDecode : CString → Option (List Nat)
  | [] => some []
  | [_] => none
  | hi :: lo :: rest => do
    let h ← hexDigitValue hi
    let l ← hexDigitValue lo
    let bytes ← hexDecode rest
    return (16 * h + l) :: bytes

def qxVerifyEd25519ReceiptSignature
    (verify : CString → CString → List Nat → Except QxError Bool)
    (publicKey payload signatureHex : CString) : Except QxError Bool :=
  if publicKey = [] then
    ereport .objectNotInPrerequisiteState
      "provider has no public key configured for ed25519 receipt verification"
  else
    match (hexDecode signatureHex).filter (·.length == 64) with
    | some signature => verify publicKey payload signature
    | none => .ok false

def invalidSignatureDetail (expected found : CString) : String :=
  s!"Expected HMAC-SHA256 signature \"{text expected}\" but got \"{text found}\"."

def verifyReceipt (scheme : SignatureScheme) (alg : Option CString)
    (receiptKey payload signature : CString) : Except QxError Unit :=
  if alg = some "ed25519".toList then
    match scheme.ed25519 with
    | some verify => do
      if !(← qxVerifyEd25519ReceiptSignature verify receiptKey payload signature) then
        ereport .externalRoutineException
          "principal response returned an invalid ed25519 receipt signature"
    | none =>
      ereport .featureNotSupported "ed25519 receipt verification requires OpenSSL support"
  else if signature = scheme.hmacHex receiptKey payload then .ok ()
  else
    ereportDetail .externalRoutineException
      "principal response returned an invalid receipt signature"
      (invalidSignatureDetail (scheme.hmacHex receiptKey payload) signature)

/-! ## The checks -/

def qxExpectedAttestationMode (providerKind : Option CString) (requireAttestation : Bool) :
    CString :=
  if !requireAttestation then "optional".toList
  else if providerKind = some "microvm".toList then "microvm_receipt_verified".toList
  else if providerKind = some "container".toList then "container_receipt_verified".toList
  else if providerKind = some "remote".toList then "remote_broker_verified".toList
  else "loopback_verified".toList

def checkReturned (errmsg noun : String) (expected found : Option CString) :
    Except QxError Unit :=
  match expected with
  | none => .ok ()
  | some value =>
    if found = some value then .ok ()
    else
      let returned := textOr found "<null>"
      ereportDetail .externalRoutineException errmsg
        s!"Expected {noun} \"{text value}\" but got \"{returned}\"."

def checkEnvironmentMode (result : QxExternalToolResult) : Except QxError Unit :=
  if result.environmentMode = some "minimal".toList then .ok ()
  else ereport .externalRoutineException
    "principal response did not run under a minimal sandbox environment"

def checkTimeout (profile : QxSandboxProfile) (result : QxExternalToolResult) :
    Except QxError Unit :=
  if result.timeoutMs = profile.timeoutMs then .ok ()
  else
    let want := profile.timeoutMs
    let got := result.timeoutMs
    ereportDetail .externalRoutineException "principal response reported timeout mismatch"
      s!"Expected {want} ms but got {got} ms."

def checkProcessLimit (profile : QxSandboxProfile) (result : QxExternalToolResult) :
    Except QxError Unit :=
  if result.processLimit = profile.processLimit then .ok ()
  else
    let want := profile.processLimit
    let got := result.processLimit
    ereportDetail .externalRoutineException "principal response reported process-limit mismatch"
      s!"Expected {want} but got {got}."

def checkPath (result : QxExternalToolResult) : Except QxError Unit :=
  if result.pathPresent then
    ereportDetail .externalRoutineException
      "principal response observed PATH in sandbox environment"
      "Stage 17 requires PATH to be stripped from external principal execution."
  else .ok ()

def receiptSignatureOf (result : QxExternalToolResult) : Except QxError CString :=
  match result.receiptSignature with
  | some signature => .ok signature
  | none => ereportDetail .externalRoutineException "principal response omitted a signed receipt"
    "Providers must return RECEIPT_SIG so the runtime can verify execution evidence."

def checkExternalResult (expected : ExpectedResult) (result : QxExternalToolResult) :
    Except QxError CString := do
  checkReturned "principal response returned tool mismatch" "tool" expected.tool result.toolName
  checkReturned "principal response returned principal mismatch" "principal" expected.principal
    result.principalName
  checkReturned "principal response returned principal-runtime mismatch" "principal runtime"
    expected.principalRuntime result.principalRuntime
  checkReturned "principal response returned provider mismatch" "provider" expected.provider
    result.providerName
  checkReturned "principal response returned provider-kind mismatch" "provider kind"
    expected.providerKind result.providerKind
  checkReturned "principal response returned sandbox profile mismatch" "profile"
    (some expected.profile.name) result.profileName
  checkEnvironmentMode result
  checkReturned "principal response escaped the runtime workdir" "workdir basename"
    (some "pg_qx_runtime".toList) result.workdirName
  checkTimeout expected.profile result
  checkProcessLimit expected.profile result
  checkPath result
  checkReturned "principal response returned receipt schema mismatch" "receipt schema"
    expected.receiptSchema result.receiptSchema
  checkReturned "principal response returned receipt algorithm mismatch" "receipt algorithm"
    expected.receiptAlg result.receiptAlg
  checkReturned "principal response returned receipt nonce mismatch" "receipt nonce"
    expected.receiptNonce result.receiptNonce
  checkReturned "principal response failed attestation requirements" "attestation mode"
    (some (qxExpectedAttestationMode expected.providerKind expected.requireAttestation))
    result.attestationMode
  receiptSignatureOf result

def qxValidateExternalResult (scheme : SignatureScheme) (expected : ExpectedResult)
    (receiptKey : CString) (result : QxExternalToolResult) : Except QxError Unit := do
  let signature ← checkExternalResult expected result
  verifyReceipt scheme expected.receiptAlg receiptKey (qxReceiptPayload expected result) signature

end QhapaqXian
