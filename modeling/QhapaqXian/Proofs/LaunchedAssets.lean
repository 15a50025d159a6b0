import QhapaqXian.Proofs.ContainerCommand
import QhapaqXian.Proofs.ToolRequests
import QhapaqXian.ToolExecution

/-!
# What the runner starts

The engine checks the image, or the kernel and the initrd, of the runtime policy against the
allowlists. The request that it writes names others: the image of its environment and the paths that
it found itself.
-/

namespace QhapaqXian

open Library

def arriving (payload : CString) (key : RequestKey) : CString :=
  ((lastAssigned payload key).map (intoBuffer key.size)).getD []

def textAt (files : Files) (path : CString) : CString :=
  if path = [] then [] else (files path).getD []

def environmentFile (getenv : Environ) : CString :=
  intoBuffer 260 ((getenv "LAUNCH_REQUEST_FILE").getD [])

/-- The launch request that the runner reads: the file that the request names, or else the
environment. -/
def launchFileText (files : Files) (getenv : Environ) (payload : CString) : CString :=
  textAt files (nonEmptyOr (some (arriving payload .launchRequestFile)) (environmentFile getenv))

def launchedImage (launchText : CString) : CString :=
  ((firstOf LaunchKey.imageRef.name (· ≠ []) (launchAssignments launchText)).map
    (intoBuffer 128)).getD []

section Reader

variable (files : Files) (getenv : Environ)

lemma readLaunchFile_eq (request : RunnerRequest) :
    request.readLaunchFile files =
      parseLaunchRequestFile (textAt files request.launchRequestFile) request := by
  unfold RunnerRequest.readLaunchFile textAt
  split_ifs
  · rfl
  · cases files request.launchRequestFile <;> rfl

lemma containerImage_parseLaunch (launchText : CString) (request : RunnerRequest) :
    (parseLaunchRequestFile launchText request).containerImage =
      nonEmptyOr (some request.containerImage) (launchedImage launchText) := by
  rw [nonEmptyOr_some]
  exact parseLaunch_eq_firstOf (by decide)
    (fun request key value => (launchAssigned request key value).containerImage) launchText request

lemma launchRequestFile_parseLaunch (launchText : CString) (request : RunnerRequest) :
    (parseLaunchRequestFile launchText request).launchRequestFile = request.launchRequestFile := by
  refine foldl_keeps (f := RunnerRequest.launchRequestFile) (fun request entry => ?_) _ _
  unfold RunnerRequest.assignLaunchNamed
  cases LaunchKey.ofName? entry.1 with
  | none => rfl
  | some key =>
    cases key with
    | seccompMode | cgroupMode | imageRef =>
      simp only [RunnerRequest.assignLaunch]
      split_ifs <;> rfl
    | _ => rfl

lemma containerImage_readLaunch (request : RunnerRequest) :
    ((request.readLaunchFile files).readLaunchEnvironment files getenv).containerImage =
      nonEmptyOr (some request.containerImage) (launchedImage (textAt files
        (nonEmptyOr (some request.launchRequestFile) (environmentFile getenv)))) := by
  have hkeeps : nonEmptyOr (some request.containerImage) [] = request.containerImage := by
    cases request.containerImage <;> rfl
  by_cases hnamed : request.launchRequestFile = []
  · have hread : request.readLaunchFile files = request := by
      rw [RunnerRequest.readLaunchFile, if_pos hnamed]
    rw [hread, nonEmptyOr_some request.launchRequestFile, if_pos hnamed]
    unfold RunnerRequest.readLaunchEnvironment environmentFile
    rcases getenv "LAUNCH_REQUEST_FILE" with _ | _ | ⟨c, path⟩
    · exact hkeeps.symm
    · exact hkeeps.symm
    · have hasks : ¬ ((isNullOrEmpty (some (c :: path)) || request.launchRequestFile ≠ []) =
          true) := by simp [isNullOrEmpty, hnamed]
      dsimp only
      rw [if_neg hasks, readLaunchFile_eq, containerImage_parseLaunch, Option.getD_some]
  · have hsame : ((request.readLaunchFile files).readLaunchEnvironment files getenv) =
        request.readLaunchFile files := by
      unfold RunnerRequest.readLaunchEnvironment
      dsimp only
      rw [if_pos]
      rw [readLaunchFile_eq, launchRequestFile_parseLaunch]
      simp [hnamed]
    rw [hsame, readLaunchFile_eq, containerImage_parseLaunch,
      nonEmptyOr_some request.launchRequestFile, if_neg hnamed]

def arrivingImage (payload : CString) : CString :=
  nonEmptyOr (some (arriving payload .containerImage))
    (nonEmptyOr (some (launchedImage (launchFileText files getenv payload)))
      (containerImageRef getenv))

lemma image_parseRequestContents (payload : CString) :
    (dockerCommand getenv (parseRequestContents files getenv payload)).image =
      arrivingImage files getenv payload := by
  have hassoc : ∀ first second third : CString,
      nonEmptyOr (some (nonEmptyOr (some first) second)) third =
        nonEmptyOr (some first) (nonEmptyOr (some second) third) := by
    intro first second third
    cases first <;> rfl
  have himage : (parseSandboxEnvironment getenv (parseRequestLines payload)).containerImage =
      arriving payload .containerImage :=
    textOf_parseRequestLines payload (by decide : RequestKey.containerImage.size ≠ 0)
  have hfile : (parseSandboxEnvironment getenv (parseRequestLines payload)).launchRequestFile =
      arriving payload .launchRequestFile :=
    textOf_parseRequestLines payload (by decide : RequestKey.launchRequestFile.size ≠ 0)
  have hcommand : ∀ request : RunnerRequest, (dockerCommand getenv request).image =
      nonEmptyOr (some request.containerImage) (containerImageRef getenv) := by
    intro request
    rw [nonEmptyOr_some]
    exact ite_not _ _ _
  rw [hcommand, parseRequestContents, containerImage_readLaunch, himage, hfile, hassoc]
  rfl

lemma fields_parseRequestContents (payload : CString) :
    (parseRequestContents files getenv payload).tool = arriving payload .tool ∧
    (parseRequestContents files getenv payload).principal = arriving payload .principal ∧
    (parseRequestContents files getenv payload).providerKind = arriving payload .providerKind ∧
    (parseRequestContents files getenv payload).principalRuntime =
      arriving payload .principalRuntime ∧
    (parseRequestContents files getenv payload).microvmKernel = arriving payload .microvmKernel ∧
    (parseRequestContents files getenv payload).microvmInitrd =
      arriving payload .microvmInitrd := by
  have htext : ∀ key ∈ [RequestKey.tool, .principal, .providerKind, .principalRuntime,
      .microvmKernel, .microvmInitrd],
      (parseRequestContents files getenv payload).textOf key = arriving payload key := by
    intro key hkey
    have hkeys : key.size ≠ 0 ∧ key ≠ .containerImage ∧ key ≠ .launchRequestFile := by
      revert key
      decide
    exact textOf_parseRequestContents files getenv payload hkeys.1 hkeys.2.1 hkeys.2.2
  simp only [List.forall_mem_cons] at htext
  obtain ⟨htool, hprincipal, hkind, hruntime, hkernel, hinitrd, -⟩ := htext
  exact ⟨htool, hprincipal, hkind, hruntime, hkernel, hinitrd⟩

end Reader

/-- What a launch starts has passed the allowlists. -/
def RunnerLaunch.Starts (checked : CheckedAssets) : RunnerLaunch → Prop
  | .container command => checked = .image command.image
  | .microvm (some command) => checked = .microvm command.kernel command.initrd
  | .microvm none => True
  | .host => True

/-- A request whose tool and principal reach the runner, with the given kind of provider and
runtime. -/
def ArrivesAs (payload : CString) (kind : String) : Prop :=
  arriving payload .tool ≠ [] ∧ arriving payload .principal ≠ [] ∧
    arriving payload .providerKind = kind.toList ∧
    arriving payload .principalRuntime = kind.toList

def assetTag (contract : CString) (key : String) : Option CString :=
  nonEmptyTagValue (qxContractValue (some contract) "tool_capability_tags".toList) key 256

/-- The runner starts a microVM only if a kernel and an initrd reach it. -/
def StartsMicrovm (payload : CString) : Prop :=
  ArrivesAs payload "microvm" ∧ arriving payload .microvmKernel ≠ [] ∧
    arriving payload .microvmInitrd ≠ []

/-- The references that are checked are the ones that reach the runner. -/
structure AssetsAgree (host : ToolHost) (contract : CString) (files : Files) (getenv : Environ)
    (payload : CString) : Prop where
  container : qxExecutionBackend host contract = .container →
    (ArrivesAs payload "container" →
      (assetTag contract "image:").getD (qxRequestImage host.getenv) =
        arrivingImage files getenv payload) ∧ ¬ StartsMicrovm payload
  microvm : ∀ kernelPath initrdPath,
    qxExecutionBackend host contract = .microvm kernelPath initrdPath →
    (StartsMicrovm payload →
      (microvmAsset host.getenv (assetTag contract "kernel:") (some kernelPath)
        "QX_MICROVM_KERNEL").getD [] = arriving payload .microvmKernel ∧
      (microvmAsset host.getenv (assetTag contract "initrd:") (some initrdPath)
        "QX_MICROVM_INITRD").getD [] = arriving payload .microvmInitrd) ∧
    ¬ ArrivesAs payload "container"
  host : qxExecutionBackend host contract = .host →
    ¬ ArrivesAs payload "container" ∧ ¬ StartsMicrovm payload

section Launch

variable {files : Files} {getenv : Environ}

lemma microvmCommand_starts_iff (hkernel : getenv "QX_MICROVM_KERNEL" = none)
    (hinitrd : getenv "QX_MICROVM_INITRD" = none) (request : RunnerRequest)
    (checked : CheckedAssets) :
    (RunnerLaunch.microvm (microvmCommand getenv request)).Starts checked ↔
      (request.microvmKernel ≠ [] → request.microvmInitrd ≠ [] →
        checked = .microvm request.microvmKernel request.microvmInitrd) := by
  have hself : ∀ value : CString, nonEmptyOr (some value) [] = value := by
    intro value
    cases value <;> rfl
  unfold microvmCommand
  simp only [hkernel, hinitrd, Option.getD_none, hself]
  by_cases hempty : request.microvmKernel = [] ∨ request.microvmInitrd = []
  · rw [if_pos hempty]
    rcases hempty with h | h <;> simp [RunnerLaunch.Starts, h]
  · rw [if_neg hempty]
    rw [not_or] at hempty
    exact ⟨fun h _ _ => h, fun h => h hempty.1 hempty.2⟩

lemma launch_starts_iff (hkernel : getenv "QX_MICROVM_KERNEL" = none)
    (hinitrd : getenv "QX_MICROVM_INITRD" = none) {requestPath payload : CString}
    (hfile : files requestPath = some payload) (checked : CheckedAssets) :
    (∀ runner, parseRequest files getenv requestPath = some runner →
        (runnerLaunch getenv runner).Starts checked) ↔
      (ArrivesAs payload "container" → checked = .image (arrivingImage files getenv payload)) ∧
      (StartsMicrovm payload → checked = .microvm (arriving payload .microvmKernel)
        (arriving payload .microvmInitrd)) := by
  have himage := image_parseRequestContents files getenv payload
  obtain ⟨htool, hprincipal, hkind, hruntime, hkernelField, hinitrdField⟩ :=
    fields_parseRequestContents files getenv payload
  unfold parseRequest
  rw [hfile, Option.bind_some]
  dsimp only
  generalize parseRequestContents files getenv payload = request at *
  unfold StartsMicrovm ArrivesAs
  rw [← htool, ← hprincipal, ← hkind, ← hruntime, ← hkernelField, ← hinitrdField, ← himage]
  have hwords : "microvm".toList ≠ "container".toList := by decide
  by_cases haccepted : request.tool ≠ [] ∧ request.principal ≠ []
  · obtain ⟨htool, hprincipal⟩ := haccepted
    rw [if_pos ⟨htool, hprincipal⟩]
    simp only [Option.some.injEq, forall_eq']
    unfold runnerLaunch
    by_cases hmicrovm : request.providerKind = "microvm".toList ∧
        request.principalRuntime = "microvm".toList
    · have hother : request.providerKind ≠ "container".toList := hmicrovm.1 ▸ hwords
      rw [if_pos hmicrovm, microvmCommand_starts_iff hkernel hinitrd]
      constructor
      · exact fun h => ⟨fun hc => absurd hc.2.2.1 hother, fun hm => h hm.2.1 hm.2.2⟩
      · exact fun h hk hi => h.2 ⟨⟨htool, hprincipal, hmicrovm⟩, hk, hi⟩
    · rw [if_neg hmicrovm]
      by_cases hcontainer : request.providerKind = "container".toList ∧
          request.principalRuntime = "container".toList
      · rw [if_pos hcontainer]
        constructor
        · exact fun h => ⟨fun _ => h, fun hm => absurd hm.1.2.2 hmicrovm⟩
        · exact fun h => h.1 ⟨htool, hprincipal, hcontainer⟩
      · rw [if_neg hcontainer]
        exact ⟨fun _ => ⟨fun hc => absurd hc.2.2 hcontainer, fun hm => absurd hm.1.2.2 hmicrovm⟩,
          fun _ => trivial⟩
  · rw [if_neg haccepted]
    simp only [reduceCtorEq, false_imp_iff, implies_true, true_iff]
    exact ⟨fun hc => absurd ⟨hc.1, hc.2.1⟩ haccepted,
      fun hm => absurd ⟨hm.1.1, hm.1.2.1⟩ haccepted⟩

section Checked

variable {host : ToolHost} {contract : CString} {checked : CheckedAssets}
  (h : qxCheckAssets host contract = .ok checked)
include h

lemma checked_of_host (hbackend : qxExecutionBackend host contract = .host) :
    checked = .nothing := by
  unfold qxCheckAssets at h
  dsimp only at h
  rw [hbackend] at h
  exact (pure_eq_ok_iff.mp h).symm

lemma checked_of_container (hbackend : qxExecutionBackend host contract = .container) :
    checked = .image ((assetTag contract "image:").getD (qxRequestImage host.getenv)) := by
  unfold qxCheckAssets at h
  dsimp only at h
  rw [hbackend] at h
  simp only [qxRuntimePolicyCompileContainer, bind_eq_ok_iff, pure_eq_ok_iff] at h
  obtain ⟨-, ⟨-, -, -, -, rfl⟩, -, -, rfl⟩ := h
  rfl

lemma checked_of_microvm {kernelPath initrdPath : CString}
    (hbackend : qxExecutionBackend host contract = .microvm kernelPath initrdPath) :
    checked = .microvm
      ((microvmAsset host.getenv (assetTag contract "kernel:") (some kernelPath)
        "QX_MICROVM_KERNEL").getD [])
      ((microvmAsset host.getenv (assetTag contract "initrd:") (some initrdPath)
        "QX_MICROVM_INITRD").getD []) := by
  unfold qxCheckAssets at h
  dsimp only at h
  rw [hbackend] at h
  simp only [qxRuntimePolicyResolveMicrovmAssets, ereport, bind_eq_ok_iff, pure_eq_ok_iff,
    raise_eq_ok_iff] at h
  obtain ⟨-, ⟨-, -, -, rfl⟩, rfl⟩ := h
  rfl

end Checked

end Launch

def machineWith (allowlist : String) : ToolHost where
  getenv name := if name = "QX_CONTAINER_IMAGE_ALLOWLIST" then some allowlist.toList else none
  dockerCli := "docker".toList
  microvmPaths := none
  launchPath := "launch".toList

def imageContract (tags : String) : CString :=
  renderFields '=' ';' [("tool".toList, "search".toList), ("principal".toList, "ops".toList),
    ("provider_kind".toList, "container".toList), ("tool_capability_tags".toList, tags.toList)]

def imageRequest (host : ToolHost) (tags : String) : CString :=
  qxRequestText host (imageContract tags) "submit".toList 5 none false "secret".toList []

def onlyRequest (payload : CString) : Files := fun path =>
  if path = "req".toList then some payload else none

lemma onlyRequest_found (payload : CString) : onlyRequest payload "req".toList = some payload :=
  if_pos rfl

def imageEnviron (host : ToolHost) (tags : String) : Environ :=
  qxRunnerEnviron host (imageContract tags) isolatedProfile "run".toList

end QhapaqXian
