import QhapaqXian.Library.Lines
import QhapaqXian.RuntimePolicy

/-!
# The tool runner

`qhapaqxian_tool_runner.c`: the request file and the launch request file that the external program
reads, with the buffers it reads them into, and the docker or qemu command it builds from them.
-/

namespace QhapaqXian

open Library

/-- The runner's `Request`, without what it only copies into its answer. -/
structure RunnerRequest where
  phase : CString
  tool : CString
  handler : CString
  sandbox : CString
  principal : CString
  principalRuntime : CString
  provider : CString
  providerKind : CString
  providerEndpoint : CString
  dockerCli : CString
  dockerHost : CString
  containerImage : CString
  qemuCli : CString
  microvmKernel : CString
  microvmInitrd : CString
  microvmAccel : CString
  receiptSchema : CString
  receiptAlg : CString
  receiptNonce : CString
  receiptKey : CString
  receiptSigner : CString
  profile : CString
  taskOid : Int
  goalLength : Int
  timeoutMs : Int
  memoryKb : Int
  processLimit : Int
  inputPresent : Bool
  pathPresent : Bool
  requireAttestation : Bool
  allowNetwork : Bool
  allowPrivilegeEscalation : Bool
  readonlyRootfs : Bool
  seccompMode : CString
  cgroupMode : CString
  launchRequestFile : CString
  deriving Repr, DecidableEq

def RunnerRequest.initial : RunnerRequest where
  phase := []
  tool := []
  handler := []
  sandbox := []
  principal := []
  principalRuntime := []
  provider := []
  providerKind := []
  providerEndpoint := []
  dockerCli := []
  dockerHost := []
  containerImage := []
  qemuCli := []
  microvmKernel := []
  microvmInitrd := []
  microvmAccel := []
  receiptSchema := []
  receiptAlg := []
  receiptNonce := []
  receiptKey := []
  receiptSigner := []
  profile := []
  taskOid := 0
  goalLength := 0
  timeoutMs := 0
  memoryKb := 0
  processLimit := 0
  inputPresent := false
  pathPresent := false
  requireAttestation := false
  allowNetwork := false
  allowPrivilegeEscalation := false
  readonlyRootfs := true
  seccompMode := []
  cgroupMode := []
  launchRequestFile := []

/-- `snprintf(buffer, size, "%s", value)`. -/
def intoBuffer (size : Nat) (value : CString) : CString :=
  value.take (size - 1)

/-- `strtol(value, NULL, 10)` on a platform with 64-bit `long`. -/
def strtol (value : CString) : Int :=
  let digits (s : CString) : Int :=
    (s.takeWhile Char.isDigit).foldl (fun n c => n * 10 + (c.toNat - '0'.toNat : Nat)) 0
  let parsed :=
    match value.dropWhile isSpace with
    | '-' :: rest => -digits rest
    | '+' :: rest => digits rest
    | rest => digits rest
  max (-2 ^ 63) (min parsed (2 ^ 63 - 1))

/-! ## The request file -/

inductive RequestKey
  | phase
  | taskOid
  | goalLength
  | inputPresent
  | tool
  | handler
  | sandbox
  | principal
  | principalRuntime
  | provider
  | providerKind
  | providerEndpoint
  | dockerCli
  | dockerHost
  | containerImage
  | qemuCli
  | microvmKernel
  | microvmInitrd
  | microvmAccel
  | receiptSchema
  | receiptAlg
  | receiptNonce
  | receiptKey
  | receiptSigner
  | requireAttestation
  | launchRequestFile
  deriving Repr, DecidableEq

namespace RequestKey

def all : List RequestKey :=
  [.phase, .taskOid, .goalLength, .inputPresent, .tool, .handler, .sandbox, .principal,
    .principalRuntime, .provider, .providerKind, .providerEndpoint, .dockerCli, .dockerHost,
    .containerImage, .qemuCli, .microvmKernel, .microvmInitrd, .microvmAccel, .receiptSchema,
    .receiptAlg, .receiptNonce, .receiptKey, .receiptSigner, .requireAttestation,
    .launchRequestFile]

def name : RequestKey → CString
  | phase => "PHASE".toList
  | taskOid => "TASK_OID".toList
  | goalLength => "GOAL_LENGTH".toList
  | inputPresent => "INPUT_PRESENT".toList
  | tool => "TOOL".toList
  | handler => "HANDLER".toList
  | sandbox => "SANDBOX".toList
  | principal => "PRINCIPAL".toList
  | principalRuntime => "PRINCIPAL_RUNTIME".toList
  | provider => "PROVIDER".toList
  | providerKind => "PROVIDER_KIND".toList
  | providerEndpoint => "PROVIDER_ENDPOINT".toList
  | dockerCli => "DOCKER_CLI".toList
  | dockerHost => "DOCKER_HOST".toList
  | containerImage => "CONTAINER_IMAGE".toList
  | qemuCli => "QEMU_CLI".toList
  | microvmKernel => "MICROVM_KERNEL".toList
  | microvmInitrd => "MICROVM_INITRD".toList
  | microvmAccel => "MICROVM_ACCEL".toList
  | receiptSchema => "RECEIPT_SCHEMA".toList
  | receiptAlg => "RECEIPT_ALG".toList
  | receiptNonce => "RECEIPT_NONCE".toList
  | receiptKey => "RECEIPT_KEY".toList
  | receiptSigner => "RECEIPT_SIGNER".toList
  | requireAttestation => "REQUIRE_ATTESTATION".toList
  | launchRequestFile => "LAUNCH_REQUEST_FILE".toList

def ofName? (name : CString) : Option RequestKey :=
  all.find? fun key => key.name == name

end RequestKey

def RunnerRequest.assign (request : RunnerRequest) (key : RequestKey) (value : CString) :
    RunnerRequest :=
  match key with
  | .phase => { request with phase := intoBuffer 32 value }
  | .taskOid => { request with taskOid := strtol value }
  | .goalLength => { request with goalLength := strtol value }
  | .inputPresent => { request with inputPresent := value == "true".toList }
  | .tool => { request with tool := intoBuffer 128 value }
  | .handler => { request with handler := intoBuffer 256 value }
  | .sandbox => { request with sandbox := intoBuffer 64 value }
  | .principal => { request with principal := intoBuffer 128 value }
  | .principalRuntime => { request with principalRuntime := intoBuffer 64 value }
  | .provider => { request with provider := intoBuffer 128 value }
  | .providerKind => { request with providerKind := intoBuffer 64 value }
  | .providerEndpoint => { request with providerEndpoint := intoBuffer 256 value }
  | .dockerCli => { request with dockerCli := intoBuffer 260 value }
  | .dockerHost => { request with dockerHost := intoBuffer 260 value }
  | .containerImage => { request with containerImage := intoBuffer 128 value }
  | .qemuCli => { request with qemuCli := intoBuffer 260 value }
  | .microvmKernel => { request with microvmKernel := intoBuffer 260 value }
  | .microvmInitrd => { request with microvmInitrd := intoBuffer 260 value }
  | .microvmAccel => { request with microvmAccel := intoBuffer 32 value }
  | .receiptSchema => { request with receiptSchema := intoBuffer 64 value }
  | .receiptAlg => { request with receiptAlg := intoBuffer 64 value }
  | .receiptNonce => { request with receiptNonce := intoBuffer 256 value }
  | .receiptKey => { request with receiptKey := intoBuffer 256 value }
  | .receiptSigner => { request with receiptSigner := intoBuffer 260 value }
  | .requireAttestation => { request with requireAttestation := value == "true".toList }
  | .launchRequestFile => { request with launchRequestFile := intoBuffer 260 value }

/-- A line whose key is none of the known ones is passed over. -/
def RunnerRequest.assignNamed (request : RunnerRequest) (entry : CString × CString) :
    RunnerRequest :=
  match RequestKey.ofName? entry.1 with
  | some key => request.assign key entry.2
  | none => request

def isLineBreak (c : Char) : Bool :=
  c == '\r' || c == '\n'

/-- A line of the request file: split at the first `=`, the value cut at its first line break. -/
def parseRequestLine (line : CString) : List (CString × CString) :=
  match splitAssignment '=' line with
  | some (key, value) => [(key, value.takeWhile fun c => !isLineBreak c)]
  | none => []

/-- The loop over the lines, which are read into `char line[512]`. -/
def parseRequestLines (contents : CString) : RunnerRequest :=
  (assignments '\n' 511 parseRequestLine contents).foldl RunnerRequest.assignNamed .initial

def parseSandboxEnvironment (getenv : Environ) (request : RunnerRequest) : RunnerRequest :=
  { request with
    profile := ((getenv "QX_SANDBOX_PROFILE").map (intoBuffer 64)).getD request.profile
    timeoutMs := ((getenv "QX_SANDBOX_TIMEOUT_MS").map strtol).getD request.timeoutMs
    memoryKb := ((getenv "QX_SANDBOX_MEMORY_KB").map strtol).getD request.memoryKb
    processLimit := ((getenv "QX_SANDBOX_PROCESS_LIMIT").map strtol).getD request.processLimit
    pathPresent := !isNullOrEmpty (getenv "PATH") }

/-! ## The launch request file -/

inductive LaunchKey
  | timeoutMs
  | memoryKb
  | processLimit
  | allowNetwork
  | allowPrivilegeEscalation
  | readonlyRootfs
  | seccompMode
  | cgroupMode
  | imageRef
  deriving Repr, DecidableEq

namespace LaunchKey

def all : List LaunchKey :=
  [.timeoutMs, .memoryKb, .processLimit, .allowNetwork, .allowPrivilegeEscalation,
    .readonlyRootfs, .seccompMode, .cgroupMode, .imageRef]

def name : LaunchKey → CString
  | timeoutMs => "timeout_ms".toList
  | memoryKb => "memory_kb".toList
  | processLimit => "process_limit".toList
  | allowNetwork => "allow_network".toList
  | allowPrivilegeEscalation => "allow_privilege_escalation".toList
  | readonlyRootfs => "readonly_rootfs".toList
  | seccompMode => "seccomp_mode".toList
  | cgroupMode => "cgroup_mode".toList
  | imageRef => "image_ref".toList

def ofName? (name : CString) : Option LaunchKey :=
  all.find? fun key => key.name == name

end LaunchKey

/-- The modes and the image are only set while they are empty. -/
def RunnerRequest.assignLaunch (request : RunnerRequest) (key : LaunchKey) (value : CString) :
    RunnerRequest :=
  match key with
  | .timeoutMs => { request with timeoutMs := strtol value }
  | .memoryKb => { request with memoryKb := strtol value }
  | .processLimit => { request with processLimit := strtol value }
  | .allowNetwork => { request with allowNetwork := value == "true".toList }
  | .allowPrivilegeEscalation =>
    { request with allowPrivilegeEscalation := value == "true".toList }
  | .readonlyRootfs => { request with readonlyRootfs := value == "true".toList }
  | .seccompMode =>
    if request.seccompMode = [] then { request with seccompMode := intoBuffer 64 value }
    else request
  | .cgroupMode =>
    if request.cgroupMode = [] then { request with cgroupMode := intoBuffer 64 value }
    else request
  | .imageRef =>
    if request.containerImage = [] then { request with containerImage := intoBuffer 128 value }
    else request

def RunnerRequest.assignLaunchNamed (request : RunnerRequest) (entry : CString × CString) :
    RunnerRequest :=
  match LaunchKey.ofName? entry.1 with
  | some key => request.assignLaunch key entry.2
  | none => request

/-- A line of the launch request: split at every `;`, each part at its first `=`. The line break at
its end belongs to the last value. -/
def parseLaunchLine (line : CString) : List (CString × CString) :=
  (line.splitOn ';').filterMap (splitAssignment '=')

/-- The lines are read into `char line[2048]`. -/
def parseLaunchRequestFile (contents : CString) (request : RunnerRequest) : RunnerRequest :=
  (assignments '\n' 2047 parseLaunchLine contents).foldl RunnerRequest.assignLaunchNamed request

abbrev Files := CString → Option CString

/-- A launch request file that cannot be opened is passed over. -/
def RunnerRequest.readLaunchFile (files : Files) (request : RunnerRequest) : RunnerRequest :=
  if request.launchRequestFile = [] then request
  else
    match files request.launchRequestFile with
    | some contents => parseLaunchRequestFile contents request
    | none => request

/-- The launch request file that the environment names, if the request names none. -/
def RunnerRequest.readLaunchEnvironment (files : Files) (getenv : Environ)
    (request : RunnerRequest) : RunnerRequest :=
  let launchEnv := getenv "LAUNCH_REQUEST_FILE"
  if isNullOrEmpty launchEnv || request.launchRequestFile ≠ [] then request
  else
    { request with launchRequestFile := intoBuffer 260 (launchEnv.getD []) }.readLaunchFile files

def parseRequestContents (files : Files) (getenv : Environ) (contents : CString) : RunnerRequest :=
  ((parseSandboxEnvironment getenv (parseRequestLines contents)).readLaunchFile
    files).readLaunchEnvironment files getenv

/-- A request without a tool or without a principal is refused. -/
def parseRequest (files : Files) (getenv : Environ) (path : CString) : Option RunnerRequest :=
  (files path).bind fun contents =>
    let request := parseRequestContents files getenv contents
    if request.tool ≠ [] ∧ request.principal ≠ [] then some request else none

/-! ## The docker command -/

/-- What `run_real_container_backend` puts into its command line. -/
structure DockerCommand where
  dockerCli : CString
  containerId : CString
  network : CString
  readOnly : Bool
  securityOpt : CString
  cgroupns : CString
  pidsLimit : Int
  memoryKb : Int
  image : CString
  deriving Repr, DecidableEq

def containerImageRef (getenv : Environ) : CString :=
  nonEmptyOr (getenv "QX_CONTAINER_IMAGE") "alpine:3.20".toList

def seccompOption (request : RunnerRequest) : CString :=
  if request.seccompMode ≠ [] then
    if request.seccompMode = "unconfined".toList then "seccomp=unconfined".toList
    else "no-new-privileges".toList
  else if request.allowPrivilegeEscalation then "seccomp=unconfined".toList
  else "no-new-privileges".toList

def dockerCommand (getenv : Environ) (request : RunnerRequest) : DockerCommand where
  dockerCli := if request.dockerCli ≠ [] then request.dockerCli else "docker".toList
  containerId := "qx-container-".toList ++ formatSigned request.taskOid
  network := if request.allowNetwork then "bridge".toList else "none".toList
  readOnly := request.readonlyRootfs
  securityOpt := seccompOption request
  cgroupns := if request.cgroupMode = "host".toList then "host".toList else "private".toList
  pidsLimit := if request.processLimit > 0 then request.processLimit else 1
  memoryKb := if request.memoryKb > 0 then request.memoryKb else 65536
  image :=
    if request.containerImage ≠ [] then request.containerImage else containerImageRef getenv

/-- The command line in its buffer of 1024 characters. -/
def DockerCommand.text (command : DockerCommand) : CString :=
  intoBuffer 1024
    ("\"".toList ++ command.dockerCli ++ "\" run --rm --name ".toList ++ command.containerId ++
      " --network ".toList ++ command.network ++ " ".toList ++
      (if command.readOnly then "--read-only ".toList else []) ++
      "--cap-drop ALL --security-opt ".toList ++ command.securityOpt ++ " --cgroupns ".toList ++
      command.cgroupns ++ " --pids-limit ".toList ++ formatSigned command.pidsLimit ++
      " --memory ".toList ++ formatSigned command.memoryKb ++ "k ".toList ++ command.image ++
      " true".toList)

/-! ## The microVM command -/

/-- What `run_real_microvm_backend` puts into its command line, without the paths of its logs. -/
structure MicrovmCommand where
  qemuCli : CString
  accel : CString
  memoryMb : Int
  kernel : CString
  initrd : CString
  deriving Repr, DecidableEq

def microvmQemuRef (getenv : Environ) : CString :=
  nonEmptyOr (getenv "QX_MICROVM_QEMU") "qemu-system-x86_64".toList

/-- Without a kernel or an initrd nothing is started. -/
def microvmCommand (getenv : Environ) (request : RunnerRequest) : Option MicrovmCommand :=
  let kernel := nonEmptyOr (some request.microvmKernel) ((getenv "QX_MICROVM_KERNEL").getD [])
  let initrd := nonEmptyOr (some request.microvmInitrd) ((getenv "QX_MICROVM_INITRD").getD [])
  if kernel = [] ∨ initrd = [] then none
  else some
    { qemuCli := nonEmptyOr (some request.qemuCli) (microvmQemuRef getenv)
      accel := nonEmptyOr (some (nonEmptyOr (some request.microvmAccel)
        ((getenv "QX_MICROVM_ACCEL").getD []))) "tcg".toList
      memoryMb := if request.memoryKb > 0 then (request.memoryKb + 1023).tdiv 1024 else 128
      kernel := kernel
      initrd := initrd }

/-! ## What the runner starts -/

inductive RunnerLaunch
  | microvm (command : Option MicrovmCommand)
  | container (command : DockerCommand)
  | host
  deriving Repr, DecidableEq

def runnerLaunch (getenv : Environ) (request : RunnerRequest) : RunnerLaunch :=
  if request.providerKind = "microvm".toList ∧ request.principalRuntime = "microvm".toList then
    .microvm (microvmCommand getenv request)
  else if request.providerKind = "container".toList ∧
      request.principalRuntime = "container".toList then
    .container (dockerCommand getenv request)
  else .host

end QhapaqXian
