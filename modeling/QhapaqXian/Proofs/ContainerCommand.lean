import QhapaqXian.ContainerBackend
import QhapaqXian.Library.Checks
import QhapaqXian.Library.Rows

/-!
# The docker command of a runtime policy

The launch request is written line by line, but the runner splits its lines at `;` and leaves the
line break in the last value.
-/

namespace QhapaqXian

open Library

variable {key value word : CString} {line : CString × CString} {own : LaunchKey} {i : Nat}

section Reader

lemma LaunchKey.ofName?_name (key : LaunchKey) : ofName? key.name = some key := by
  cases key <;> decide

/-- What an assignment of the launch request does to the fields that the docker command is built
from. -/
structure LaunchAssigned (request next : RunnerRequest) (key : LaunchKey) (value : CString) :
    Prop where
  allowNetwork : next.allowNetwork =
    if key = .allowNetwork then value == "true".toList else request.allowNetwork
  readonlyRootfs : next.readonlyRootfs =
    if key = .readonlyRootfs then value == "true".toList else request.readonlyRootfs
  memoryKb : next.memoryKb = if key = .memoryKb then strtol value else request.memoryKb
  processLimit : next.processLimit =
    if key = .processLimit then strtol value else request.processLimit
  seccompMode : next.seccompMode =
    if key = .seccompMode ∧ request.seccompMode = [] then intoBuffer 64 value
    else request.seccompMode
  cgroupMode : next.cgroupMode =
    if key = .cgroupMode ∧ request.cgroupMode = [] then intoBuffer 64 value
    else request.cgroupMode
  containerImage : next.containerImage =
    if key = .imageRef ∧ request.containerImage = [] then intoBuffer 128 value
    else request.containerImage

lemma launchAssigned (request : RunnerRequest) (key : LaunchKey) (value : CString) :
    LaunchAssigned request (request.assignLaunch key value) key value := by
  cases key with
  | seccompMode | cgroupMode | imageRef =>
    simp only [RunnerRequest.assignLaunch]
    split_ifs with h <;> constructor <;> simp [h]
  | _ => constructor <;> simp [RunnerRequest.assignLaunch]

lemma read_assignLaunchNamed {γ : Type} (get : RunnerRequest → γ) (own : LaunchKey)
    (hother : ∀ request key value, key ≠ own →
      get (RunnerRequest.assignLaunch request key value) = get request)
    (request : RunnerRequest) (entry : CString × CString) :
    get (request.assignLaunchNamed entry) =
      if entry.1 = own.name then get (request.assignLaunch own entry.2) else get request := by
  have hstep : request.assignLaunchNamed entry =
      (LaunchKey.ofName? entry.1).elim request fun key => request.assignLaunch key entry.2 := by
    unfold RunnerRequest.assignLaunchNamed
    cases LaunchKey.ofName? entry.1 <;> rfl
  have hof : ∀ text key, LaunchKey.ofName? text = some key ↔ text = key.name :=
    fun _ _ => find?_name_eq_some_iff LaunchKey.ofName?_name
  rw [hstep, read_assign_named get hof hother]

def launchAssignments (text : CString) : List (CString × CString) :=
  assignments '\n' 2047 parseLaunchLine text

lemma parseLaunch_eq_lastOf {γ : Type} {get : RunnerRequest → γ} {set : CString → γ}
    (h : ∀ request key value, get (RunnerRequest.assignLaunch request key value) =
      if key = own then set value else get request) (text : CString) (request : RunnerRequest) :
    get (parseLaunchRequestFile text request) =
      ((lastOf own.name (launchAssignments text)).map set).getD (get request) := by
  refine foldl_eq_lastOf (fun request entry => ?_) request (launchAssignments text)
  rw [read_assignLaunchNamed get own fun request key value hne => by rw [h, if_neg hne]]
  rw [h, if_pos rfl]

lemma parseLaunch_eq_firstOf {get : RunnerRequest → CString} {size : Nat}
    (hsize : 1 < size)
    (h : ∀ request key value, get (RunnerRequest.assignLaunch request key value) =
      if key = own ∧ get request = [] then intoBuffer size value else get request)
    (text : CString) (request : RunnerRequest) :
    get (parseLaunchRequestFile text request) = if get request = [] then
      ((firstOf own.name (· ≠ []) (launchAssignments text)).map (intoBuffer size)).getD []
      else get request := by
  refine foldl_eq_firstOf (fun request entry => ?_) (fun value => ?_) request
    (launchAssignments text)
  · rw [read_assignLaunchNamed get own fun request key value hne => by
      rw [h, if_neg fun hc => hne hc.1]]
    by_cases hkey : entry.1 = own.name <;> simp [hkey, h]
  · have hroom : size - 1 ≠ 0 := by omega
    simp [intoBuffer, hroom]

end Reader

section Writer

def PlainKey (key : CString) : Prop :=
  ('=' ∉ key ∧ ';' ∉ key ∧ '\n' ∉ key) ∧ key.length < 32

instance (key : CString) : Decidable (PlainKey key) :=
  inferInstanceAs (Decidable (_ ∧ _))

def CleanValue (value : CString) : Prop :=
  ';' ∉ value ∧ '\n' ∉ value ∧ value.length < 300

instance (value : CString) : Decidable (CleanValue value) :=
  inferInstanceAs (Decidable (_ ∧ _))

lemma parseLaunchLine_renderField (hkey : PlainKey key) (value : CString) :
    parseLaunchLine (renderField '=' (key, value)) =
      (key, upTo ';' value) :: (value.splitOn ';').tail.filterMap (splitAssignment '=') := by
  obtain ⟨⟨heq, hsemi, -⟩, -⟩ := hkey
  have hword : ';' ∉ key ++ ['='] := by simp [hsemi]
  have hsplit : (renderField '=' (key, value)).splitOn ';' =
      renderField '=' (key, upTo ';' value) :: (value.splitOn ';').tail := by
    have h := splitOn_append hword value
    simpa [renderField] using h
  rw [parseLaunchLine, hsplit, List.filterMap_cons, splitAssignment_renderField heq]

lemma ownFirst_launchLine (hkey : PlainKey key) (value : CString) :
    OwnFirst '\n' 2047 parseLaunchLine '=' (key, value) := by
  obtain ⟨⟨-, -, hbreak⟩, hlength⟩ := id hkey
  exact ownFirst_of_parse hbreak (by decide) (by omega)
    (fun more => ⟨_, _, parseLaunchLine_renderField hkey more⟩) value

lemma parseLaunchLine_eq_nil {line : CString} (h : '=' ∉ line) : parseLaunchLine line = [] := by
  refine List.filterMap_eq_nil_iff.mpr fun part hpart => ?_
  have hnone : '=' ∉ part := fun hmem => h ((part_of_mem_splitOn hpart).2 hmem)
  have hdrop : part.dropWhile (· ≠ '=') = [] := by
    rw [List.dropWhile_eq_nil_iff]
    intro c hc
    simp only [decide_eq_true_eq]
    exact fun heq => hnone (heq ▸ hc)
  rw [splitAssignment, hdrop]

/-- A value without `;` and line breaks, of any length if no `=` stands beyond the buffer, is the
only thing that its line assigns. -/
lemma strays_launchLine {front back : CString} (hkey : PlainKey key) (hfront : CleanValue front)
    (hback : '=' ∉ back ∧ ';' ∉ back) :
    strays '\n' 2047 parseLaunchLine '=' (key, front ++ back) = [] := by
  obtain ⟨hsemi, hbreak, hlength⟩ := hfront
  obtain ⟨⟨-, -, hkeybreak⟩, hkeylength⟩ := id hkey
  have hstart : '\n' ∉ renderField '=' (key, front) := by simp [renderField, hkeybreak, hbreak]
  have hfits : ([] : CString).length + (renderField '=' (key, front)).length < 2047 := by
    simp [renderField]
    omega
  have hne : renderField '=' (key, front) ≠ [] := by simp [renderField]
  have htext : renderLine '=' '\n' (key, front ++ back) =
      renderField '=' (key, front) ++ (back ++ ['\n']) := by simp [renderLine, renderField]
  obtain ⟨more, rest, hlines, hmore, hrest⟩ :=
    readLines_starts '\n' 2047 hne (back ++ ['\n'])
  have hnone : rest.flatMap parseLaunchLine = [] := by
    refine List.flatMap_eq_nil_iff.mpr fun line hline => parseLaunchLine_eq_nil fun hmem => ?_
    simpa [hback.1] using hrest line hline hmem
  have hown : ';' ∉ front ++ more := by
    rw [List.mem_append, not_or]
    exact ⟨hsemi, fun hmem => by simpa [hback.2] using hmore hmem⟩
  have hfirst : renderField '=' (key, front) ++ more = renderField '=' (key, front ++ more) := by
    simp [renderField]
  rw [strays, assignments, htext, readLines_front hstart hfits, List.nil_append, hlines,
    List.flatMap_cons, hnone, hfirst, parseLaunchLine_renderField hkey,
    List.splitOn_eq_singleton hown]
  rfl

lemma assignments_launchLine (hkey : PlainKey key) (hclean : CleanValue value) :
    assignments '\n' 2047 parseLaunchLine (renderLine '=' '\n' (key, value)) =
      [(key, value ++ ['\n'])] := by
  obtain ⟨hsemi, hbreak, hlength⟩ := hclean
  obtain ⟨⟨-, -, hkeybreak⟩, hkeylength⟩ := id hkey
  have htext : '\n' ∉ renderField '=' (key, value) := by simp [renderField, hkeybreak, hbreak]
  have hline : renderField '=' (key, value) ++ ['\n'] =
      renderField '=' (key, value ++ ['\n']) := by simp [renderField]
  have hown : ';' ∉ value ++ ['\n'] := by simp [hsemi]
  rw [renderLine, assignments_of_fits htext (by simp [renderField]; omega), hline,
    parseLaunchLine_renderField hkey, upTo_of_notMem hown, List.splitOn_eq_singleton hown]
  rfl

variable (request : QxContainerBackendRequest)

def launchLineNames : List CString :=
  [ "protocol".toList, "backend".toList, "phase".toList, "tool".toList, "principal".toList,
    "principal_runtime".toList, "provider".toList, "provider_kind".toList,
    "provider_endpoint".toList, "sandbox".toList, "profile".toList, "environment".toList,
    "workdir".toList, "command".toList, "image_ref".toList, "receipt_schema".toList,
    "receipt_alg".toList, "receipt_nonce".toList, "attestation".toList, "timeout_ms".toList,
    "memory_kb".toList, "process_limit".toList, "token_charge".toList, "cost_charge".toList,
    "require_attestation".toList, "allow_network".toList, "allow_privilege_escalation".toList,
    "readonly_rootfs".toList, "seccomp_mode".toList, "cgroup_mode".toList,
    "oci_profile".toList, "detail".toList ]

lemma launchLines_names : request.lines.map Prod.fst = launchLineNames := rfl

lemma launchLineNames_plain : ∀ name ∈ launchLineNames, PlainKey name := by
  decide +kernel

lemma launchLines_nodup : (request.lines.map Prod.fst).Nodup := by
  rw [launchLines_names]
  decide +kernel

lemma launchLines_split (hline : request.policyLines[i]? = some line) :
    linesBefore line.1 request.lines = request.identityLines ++ request.policyLines.take i ∧
      linesBehind line.1 request.lines = request.policyLines.drop (i + 1) := by
  have hsplit : request.policyLines =
      request.policyLines.take i ++ line :: request.policyLines.drop (i + 1) := by
    obtain ⟨hi, rfl⟩ := List.getElem?_eq_some_iff.mp hline
    rw [List.getElem_cons_drop, List.take_append_drop]
  have hlines : request.lines =
      (request.identityLines ++ request.policyLines.take i) ++
        line :: request.policyLines.drop (i + 1) := by
    rw [List.append_assoc, ← hsplit]
    rfl
  have hnodup := launchLines_nodup request
  rw [hlines] at hnodup ⊢
  obtain ⟨hbefore, hbehind, -⟩ := linesBefore_and_linesBehind hnodup
  exact ⟨hbefore, hbehind⟩

lemma launchLines_ownFirst : ∀ line ∈ request.lines,
    OwnFirst '\n' 2047 parseLaunchLine '=' line := by
  intro line hline
  have hname : line.1 ∈ launchLineNames := launchLines_names request ▸ List.mem_map_of_mem hline
  exact ownFirst_launchLine (launchLineNames_plain _ hname) line.2

/-- What the fields in front of the limits assign besides their own lines. -/
def identityStrays : List (CString × CString) :=
  request.identityLines.flatMap (strays '\n' 2047 parseLaunchLine '=')

/-- What the OCI profile assigns: the fields that are nested in it, and those that the image adds
to them. -/
def profileStrays : List (CString × CString) :=
  strays '\n' 2047 parseLaunchLine '=' ("oci_profile".toList, request.ociProfile)

end Writer

section Launch

lemma cleanValue_of_sameIgnoringCase (h : sameIgnoringCase value word = true)
    (hword : CleanValue (word.map Char.toLower)) :
    CleanValue value := by
  have hmap : value.map Char.toLower = word.map Char.toLower := beq_iff_eq.mp h
  rw [← hmap] at hword
  obtain ⟨hsemi, hbreak, hlength⟩ := hword
  rw [List.length_map] at hlength
  exact ⟨fun hmem => hsemi (List.mem_map_of_mem (f := Char.toLower) hmem),
    fun hmem => hbreak (List.mem_map_of_mem (f := Char.toLower) hmem), hlength⟩

lemma cleanValue_of_containerMode {label : String} {mode : Option CString} {known : List String}
    {default found : CString} (h : containerMode label mode known default = .ok found)
    (hdefault : CleanValue default)
    (hknown : ∀ word ∈ known, CleanValue (word.toList.map Char.toLower)) : CleanValue found := by
  unfold containerMode at h
  dsimp only at h
  split_ifs at h with hempty hany
  · cases h
    exact hdefault
  · cases h
    obtain ⟨word, hmem, hsame⟩ := List.any_eq_true.mp hany
    exact cleanValue_of_sameIgnoringCase hsame (hknown word hmem)
  · cases h

/-- What a compiled policy has, in the words of the launch request. -/
structure CompiledPolicy (base policy : QxRuntimePolicy) (seccomp cgroup : CString) : Prop where
  eq : policy = { base with
    seccompMode := some seccomp
    cgroupMode := some cgroup
    ociProfile := some (ociProfileText base seccomp cgroup) }
  seccomp_clean : CleanValue seccomp
  cgroup_clean : CleanValue cgroup

lemma compiledPolicy_of_compile (h : qxRuntimePolicyCompileContainer base = .ok policy) :
    ∃ seccomp cgroup, CompiledPolicy base policy seccomp cgroup := by
  simp only [qxRuntimePolicyCompileContainer, bind_eq_ok_iff, pure_eq_ok_iff] at h
  obtain ⟨seccomp, hseccomp, cgroup, hcgroup, rfl⟩ := h
  refine ⟨seccomp, cgroup, rfl, ?_, ?_⟩
  · exact cleanValue_of_containerMode hseccomp (by split_ifs <;> decide) (by decide)
  · exact cleanValue_of_containerMode hcgroup (by decide) (by decide)

lemma limits_of_lookup (h : qxLookupSandboxProfile sandbox = .ok profile) :
    (∀ limit ∈ [profile.timeoutMs, profile.memoryKb, profile.processLimit],
      CleanValue (formatSigned limit)) ∧
    ∀ limit ∈ [profile.memoryKb, profile.processLimit],
      strtol (formatSigned limit ++ ['\n']) = limit ∧ 0 < limit := by
  unfold qxLookupSandboxProfile at h
  split_ifs at h <;> cases h <;> dsimp only <;> decide +kernel

variable {base policy : QxRuntimePolicy} {seccomp cgroup sandbox : CString}
  {profile : QxSandboxProfile} (contract phase : CString) (taskoid : Oid)

lemma settingLines_clean (hpolicy : CompiledPolicy base policy seccomp cgroup)
    (hprofile : qxLookupSandboxProfile sandbox = .ok profile) :
    ∀ line ∈ (qxContainerBackendRequest contract phase taskoid sandbox profile
      policy).policyLines.take 11, CleanValue line.2 := by
  have hbool : ∀ flag, CleanValue (qxBoolLiteral flag) := by decide
  have hzero : CleanValue (formatSigned 0) := by decide +kernel
  have hlimit := (limits_of_lookup hprofile).1
  simp only [List.forall_mem_cons] at hlimit
  obtain ⟨htimeout, hmemory, hprocess, -⟩ := hlimit
  obtain ⟨rfl, hseccomp, hcgroup⟩ := hpolicy
  simp only [QxContainerBackendRequest.policyLines, qxContainerBackendRequest, List.take_succ_cons,
    List.take_zero, List.forall_mem_cons, Option.getD_some]
  exact ⟨htimeout, hmemory, hprocess, hzero, hzero, hbool _, hbool _, hbool _, hbool _, hseccomp,
    hcgroup, List.forall_mem_nil _⟩

lemma detail_strays : strays '\n' 2047 parseLaunchLine '='
    ("detail".toList, "task=".toList ++ formatUnsigned taskoid) = [] := by
  have hdigit : ∀ c ∈ formatUnsigned taskoid, c.isDigit = true := fun c hc =>
    Nat.isDigit_of_mem_toDigits (by decide) (by decide) hc
  refine strays_launchLine (by decide) (by decide) ⟨fun h => ?_, fun h => ?_⟩
  · exact absurd (hdigit _ h) (by decide)
  · exact absurd (hdigit _ h) (by decide)

section Strays

variable {request : QxContainerBackendRequest}
  (hclean : ∀ line ∈ request.policyLines.take 11, CleanValue line.2)
include hclean

lemma strays_settingLine (hline : line ∈ request.policyLines.take 11) :
    strays '\n' 2047 parseLaunchLine '=' line = [] := by
  have hname : line.1 ∈ launchLineNames := launchLines_names request ▸
    List.mem_map_of_mem (List.mem_append_right _ (List.mem_of_mem_take hline))
  have h : strays '\n' 2047 parseLaunchLine '=' (line.1, line.2 ++ []) = [] :=
    strays_launchLine (launchLineNames_plain _ hname) (hclean line hline) (by simp)
  rwa [List.append_nil] at h

lemma strays_behind (hi : i ≤ 11)
    (hdetail : strays '\n' 2047 parseLaunchLine '=' ("detail".toList, request.detail) = []) :
    (request.policyLines.drop i).flatMap (strays '\n' 2047 parseLaunchLine '=') =
      profileStrays request := by
  have hsplit : request.policyLines = request.policyLines.take 11 ++
      [("oci_profile".toList, request.ociProfile), ("detail".toList, request.detail)] := rfl
  have hnone : ((request.policyLines.take 11).drop i).flatMap
      (strays '\n' 2047 parseLaunchLine '=') = [] :=
    List.flatMap_eq_nil_iff.mpr fun line hline =>
      strays_settingLine hclean (List.mem_of_mem_drop hline)
  have hlength : (request.policyLines.take 11).length = 11 := rfl
  rw [hsplit, List.drop_append_of_le_length (by omega), List.flatMap_append, hnone,
    List.nil_append, List.flatMap_cons, List.flatMap_singleton, hdetail, List.append_nil]
  rfl

lemma strays_before (hi : i ≤ 11) :
    (request.identityLines ++ request.policyLines.take i).flatMap
      (strays '\n' 2047 parseLaunchLine '=') = identityStrays request := by
  have hnone : (request.policyLines.take i).flatMap (strays '\n' 2047 parseLaunchLine '=') = [] :=
    List.flatMap_eq_nil_iff.mpr fun line hline =>
      strays_settingLine hclean (List.take_subset_take_left _ hi hline)
  rw [List.flatMap_append, hnone, List.append_nil]
  rfl

lemma assignments_settingLine (hline : line ∈ request.policyLines.take 11) :
    assignments '\n' 2047 parseLaunchLine (renderLine '=' '\n' line) =
      [(line.1, line.2 ++ ['\n'])] := by
  have hname : line.1 ∈ launchLineNames := launchLines_names request ▸
    List.mem_map_of_mem (List.mem_append_right _ (List.mem_of_mem_take hline))
  exact assignments_launchLine (launchLineNames_plain _ hname) (hclean line hline)

lemma lastOf_setting
    (hdetail : strays '\n' 2047 parseLaunchLine '=' ("detail".toList, request.detail) = [])
    (hi : i < 11) (hline : request.policyLines[i]? = some line) :
    lastOf line.1 (launchAssignments (renderLines '=' '\n' request.lines)) =
      some ((lastOf line.1 (profileStrays request)).getD (line.2 ++ ['\n'])) := by
  have hmem : line ∈ request.policyLines.take 11 :=
    List.mem_of_getElem? ((List.getElem?_take_of_lt hi).trans hline)
  have hlines : line ∈ request.lines := List.mem_append_right _ (List.mem_of_mem_take hmem)
  have hlast := lastOf_renderLines (launchLines_nodup request) hlines (launchLines_ownFirst request)
  rw [(launchLines_split request hline).2, strays_behind hclean hi hdetail,
    assignments_settingLine hclean hmem, lastOf_singleton, if_pos rfl] at hlast
  rw [launchAssignments, hlast]
  cases lastOf line.1 (profileStrays request) <;> rfl

lemma firstOf_setting (hi : i < 11) (hline : request.policyLines[i]? = some line) :
    firstOf line.1 (· ≠ []) (launchAssignments (renderLines '=' '\n' request.lines)) =
      some ((firstOf line.1 (· ≠ []) (identityStrays request)).getD (line.2 ++ ['\n'])) := by
  have hmem : line ∈ request.policyLines.take 11 :=
    List.mem_of_getElem? ((List.getElem?_take_of_lt hi).trans hline)
  have hlines : line ∈ request.lines := List.mem_append_right _ (List.mem_of_mem_take hmem)
  rw [← strays_before hclean (Nat.le_of_lt hi), ← (launchLines_split request hline).1]
  exact firstOf_renderLines (launchLines_nodup request) hlines (launchLines_ownFirst request)
    (assignments_settingLine hclean hmem) (by simp)

end Strays

end Launch

/-- The command gives the container what the policy and the profile say. -/
structure DockerFollows (policy : QxRuntimePolicy) (profile : QxSandboxProfile)
    (command : DockerCommand) : Prop where
  network : command.network = "bridge".toList ↔ policy.allowNetwork = true
  seccomp : command.securityOpt = "seccomp=unconfined".toList ↔
    policy.seccompMode.any (sameIgnoringCase · "unconfined".toList) = true
  readOnly : command.readOnly = policy.readonlyRootfs
  cgroup : command.cgroupns = "host".toList ↔
    policy.cgroupMode.any (sameIgnoringCase · "host".toList) = true
  memory : command.memoryKb = profile.memoryKb
  processes : command.pidsLimit = profile.processLimit

/-- The texts of the request happen to assign what the policy and the profile say: the lines of the
settings themselves never switch anything on. -/
structure StraysAgree (policy : QxRuntimePolicy) (profile : QxSandboxProfile)
    (request : QxContainerBackendRequest) : Prop where
  network : lastOf LaunchKey.allowNetwork.name (profileStrays request) = some "true".toList ↔
    policy.allowNetwork = true
  seccomp : firstOf LaunchKey.seccompMode.name (· ≠ []) (identityStrays request) =
      some "unconfined".toList ↔
    policy.seccompMode.any (sameIgnoringCase · "unconfined".toList) = true
  readOnly : lastOf LaunchKey.readonlyRootfs.name (profileStrays request) = some "true".toList ↔
    policy.readonlyRootfs = true
  cgroup : firstOf LaunchKey.cgroupMode.name (· ≠ []) (identityStrays request) =
      some "host".toList ↔
    policy.cgroupMode.any (sameIgnoringCase · "host".toList) = true
  memory : ∀ value, lastOf LaunchKey.memoryKb.name (profileStrays request) = some value →
    (if strtol value > 0 then strtol value else 65536) = profile.memoryKb
  processes : ∀ value, lastOf LaunchKey.processLimit.name (profileStrays request) = some value →
    (if strtol value > 0 then strtol value else 1) = profile.processLimit

instance (policy : QxRuntimePolicy) (profile : QxSandboxProfile)
    (request : QxContainerBackendRequest) : Decidable (StraysAgree policy profile request) :=
  decidable_of_iff ((_ ↔ _) ∧ (_ ↔ _) ∧ (_ ↔ _) ∧ (_ ↔ _) ∧
      (∀ value ∈ lastOf LaunchKey.memoryKb.name (profileStrays request), _ = profile.memoryKb) ∧
      ∀ value ∈ lastOf LaunchKey.processLimit.name (profileStrays request),
        _ = profile.processLimit)
    ⟨fun ⟨h1, h2, h3, h4, h5, h6⟩ => ⟨h1, h2, h3, h4, h5, h6⟩,
      fun ⟨h1, h2, h3, h4, h5, h6⟩ => ⟨h1, h2, h3, h4, h5, h6⟩⟩

def runnerAfterLaunch (getenv : Environ) (contents launchText : CString) : RunnerRequest :=
  parseLaunchRequestFile launchText (parseSandboxEnvironment getenv (parseRequestLines contents))

section Command

lemma getD_line_eq_iff {stray : Option CString} (hword : '\n' ∉ word) :
    stray.getD (value ++ ['\n']) = word ↔ stray = some word := by
  cases stray with
  | none =>
    simp only [Option.getD_none, reduceCtorEq, iff_false]
    rintro rfl
    simp at hword
  | some _ => simp

lemma intoBuffer_eq_iff (hword : word.length < 63) :
    intoBuffer 64 value = word ↔ value = word := by
  constructor
  · intro h
    have hlength := congrArg List.length h
    rw [intoBuffer, List.length_take] at hlength
    rwa [intoBuffer, List.take_of_length_le (by omega)] at h
  · rintro rfl
    exact List.take_of_length_le (by omega)

lemma modes_before_launch (getenv : Environ) (contents : CString) :
    (parseSandboxEnvironment getenv (parseRequestLines contents)).seccompMode = [] ∧
      (parseSandboxEnvironment getenv (parseRequestLines contents)).cgroupMode = [] := by
  have hkeeps : ∀ (request : RunnerRequest) entry,
      ((request.assignNamed entry).seccompMode, (request.assignNamed entry).cgroupMode) =
        (request.seccompMode, request.cgroupMode) := by
    intro request entry
    unfold RunnerRequest.assignNamed
    cases RequestKey.ofName? entry.1 with
    | none => rfl
    | some key => cases key <;> rfl
  have h := foldl_keeps (f := fun request => (request.seccompMode, request.cgroupMode)) hkeeps
    (assignments '\n' 511 parseRequestLine contents) RunnerRequest.initial
  exact ⟨congrArg Prod.fst h, congrArg Prod.snd h⟩

variable {request : QxContainerBackendRequest}
  (hclean : ∀ line ∈ request.policyLines.take 11, CleanValue line.2)
  (hdetail : strays '\n' 2047 parseLaunchLine '=' ("detail".toList, request.detail) = [])
  (getenv : Environ) (contents : CString)
include hclean

lemma mode_after_launch {get : RunnerRequest → CString}
    (h : ∀ request key value, get (RunnerRequest.assignLaunch request key value) =
      if key = own ∧ get request = [] then intoBuffer 64 value else get request)
    (hempty : get (parseSandboxEnvironment getenv (parseRequestLines contents)) = [])
    (hi : i < 11)
    (hline : request.policyLines[i]? = some (own.name, value)) :
    get (runnerAfterLaunch getenv contents (renderLines '=' '\n' request.lines)) ≠ [] ∧
    ∀ word : CString, '\n' ∉ word → word.length < 63 →
      (get (runnerAfterLaunch getenv contents (renderLines '=' '\n' request.lines)) = word ↔
        firstOf own.name (· ≠ []) (identityStrays request) = some word) := by
  have hread := parseLaunch_eq_firstOf (by decide) h (renderLines '=' '\n' request.lines)
    (parseSandboxEnvironment getenv (parseRequestLines contents))
  rw [if_pos hempty, firstOf_setting hclean hi hline, Option.map_some, Option.getD_some] at hread
  rw [runnerAfterLaunch, hread]
  refine ⟨fun hnil => ?_, fun word hbreak hlength => ?_⟩
  · rw [intoBuffer_eq_iff (by decide), getD_line_eq_iff (by simp)] at hnil
    exact absurd (test_of_firstOf hnil) (by simp)
  · rw [intoBuffer_eq_iff hlength, getD_line_eq_iff hbreak]

include hdetail

lemma flag_after_launch {get : RunnerRequest → Bool}
    (h : ∀ request key value, get (RunnerRequest.assignLaunch request key value) =
      if key = own then value == "true".toList else get request)
    (hi : i < 11) (hline : request.policyLines[i]? = some (own.name, value)) :
    get (runnerAfterLaunch getenv contents (renderLines '=' '\n' request.lines)) = true ↔
      lastOf own.name (profileStrays request) = some "true".toList := by
  rw [runnerAfterLaunch, parseLaunch_eq_lastOf h, lastOf_setting hclean hdetail hi hline,
    Option.map_some, Option.getD_some, beq_iff_eq, getD_line_eq_iff (by decide)]

lemma limit_after_launch {get : RunnerRequest → Int}
    (h : ∀ request key value, get (RunnerRequest.assignLaunch request key value) =
      if key = own then strtol value else get request) {limit : Int}
    (hi : i < 11) (hline : request.policyLines[i]? = some (own.name, formatSigned limit))
    (hlimit : strtol (formatSigned limit ++ ['\n']) = limit) :
    get (runnerAfterLaunch getenv contents (renderLines '=' '\n' request.lines)) =
      ((lastOf own.name (profileStrays request)).map strtol).getD limit := by
  rw [runnerAfterLaunch, parseLaunch_eq_lastOf h, lastOf_setting hclean hdetail hi hline,
    Option.map_some, Option.getD_some]
  cases lastOf own.name (profileStrays request) with
  | none => exact hlimit
  | some _ => rfl

end Command

/-- What the command of a launch request is made of. -/
structure CommandOf (request : QxContainerBackendRequest) (command : DockerCommand) : Prop where
  network : command.network = "bridge".toList ↔
    lastOf LaunchKey.allowNetwork.name (profileStrays request) = some "true".toList
  seccomp : command.securityOpt = "seccomp=unconfined".toList ↔
    firstOf LaunchKey.seccompMode.name (· ≠ []) (identityStrays request) =
      some "unconfined".toList
  readOnly : command.readOnly = true ↔
    lastOf LaunchKey.readonlyRootfs.name (profileStrays request) = some "true".toList
  cgroup : command.cgroupns = "host".toList ↔
    firstOf LaunchKey.cgroupMode.name (· ≠ []) (identityStrays request) = some "host".toList
  memory : command.memoryKb = ((lastOf LaunchKey.memoryKb.name (profileStrays request)).map
    fun value => if strtol value > 0 then strtol value else 65536).getD request.memoryKb
  processes : command.pidsLimit =
    ((lastOf LaunchKey.processLimit.name (profileStrays request)).map
      fun value => if strtol value > 0 then strtol value else 1).getD request.processLimit

section Options

variable (getenv : Environ) (runner : RunnerRequest)

lemma dockerCommand_network :
    (dockerCommand getenv runner).network = "bridge".toList ↔ runner.allowNetwork = true :=
  Ne.ite_eq_left_iff (by decide)

lemma dockerCommand_securityOpt (h : runner.seccompMode ≠ []) :
    (dockerCommand getenv runner).securityOpt = "seccomp=unconfined".toList ↔
      runner.seccompMode = "unconfined".toList := by
  show seccompOption runner = _ ↔ _
  rw [seccompOption, if_pos h]
  exact Ne.ite_eq_left_iff (by decide)

lemma dockerCommand_cgroupns :
    (dockerCommand getenv runner).cgroupns = "host".toList ↔ runner.cgroupMode = "host".toList :=
  Ne.ite_eq_left_iff (by decide)

lemma dockerCommand_memoryKb : (dockerCommand getenv runner).memoryKb =
    if runner.memoryKb > 0 then runner.memoryKb else 65536 := rfl

lemma dockerCommand_pidsLimit : (dockerCommand getenv runner).pidsLimit =
    if runner.processLimit > 0 then runner.processLimit else 1 := rfl

end Options

lemma commandOf_dockerCommand {request : QxContainerBackendRequest}
    (hclean : ∀ line ∈ request.policyLines.take 11, CleanValue line.2)
    (hdetail : strays '\n' 2047 parseLaunchLine '=' ("detail".toList, request.detail) = [])
    (hlimits : ∀ limit ∈ [request.memoryKb, request.processLimit],
      strtol (formatSigned limit ++ ['\n']) = limit ∧ 0 < limit)
    (getenv : Environ) (contents : CString) :
    CommandOf request (dockerCommand getenv
      (runnerAfterLaunch getenv contents (renderLines '=' '\n' request.lines))) := by
  simp only [List.forall_mem_cons] at hlimits
  obtain ⟨⟨hmemory, hmemoryPos⟩, ⟨hprocess, hprocessPos⟩, -⟩ := hlimits
  obtain ⟨hseccompEmpty, hcgroupEmpty⟩ := modes_before_launch getenv contents
  have hnetwork := flag_after_launch hclean hdetail getenv contents (i := 6)
    (fun request key value => (launchAssigned request key value).allowNetwork) (by decide) rfl
  have hreadOnly := flag_after_launch hclean hdetail getenv contents (i := 8)
    (fun request key value => (launchAssigned request key value).readonlyRootfs) (by decide) rfl
  have hmemoryKb := limit_after_launch hclean hdetail getenv contents (i := 1)
    (fun request key value => (launchAssigned request key value).memoryKb) (by decide) rfl hmemory
  have hprocessLimit := limit_after_launch hclean hdetail getenv contents (i := 2)
    (fun request key value => (launchAssigned request key value).processLimit) (by decide) rfl
    hprocess
  obtain ⟨hseccompSet, hseccomp⟩ := mode_after_launch hclean getenv contents (i := 9)
    (fun request key value => (launchAssigned request key value).seccompMode) hseccompEmpty
    (by decide) rfl
  obtain ⟨-, hcgroup⟩ := mode_after_launch hclean getenv contents (i := 10)
    (fun request key value => (launchAssigned request key value).cgroupMode) hcgroupEmpty
    (by decide) rfl
  constructor
  · exact (dockerCommand_network _ _).trans hnetwork
  · exact (dockerCommand_securityOpt _ _ hseccompSet).trans
      (hseccomp _ (by decide) (by decide))
  · exact hreadOnly
  · exact (dockerCommand_cgroupns _ _).trans (hcgroup _ (by decide) (by decide))
  · rw [dockerCommand_memoryKb, hmemoryKb]
    cases lastOf LaunchKey.memoryKb.name (profileStrays request) with
    | none => exact if_pos hmemoryPos
    | some _ => rfl
  · rw [dockerCommand_pidsLimit, hprocessLimit]
    cases lastOf LaunchKey.processLimit.name (profileStrays request) with
    | none => exact if_pos hprocessPos
    | some _ => rfl

def containerContract : CString :=
  renderFields '=' ';' [("tool".toList, "search".toList), ("principal".toList, "ops".toList),
    ("principal_runtime".toList, "container".toList), ("provider".toList, "docker".toList),
    ("provider_kind".toList, "container".toList),
    ("provider_endpoint".toList, "container://docker".toList)]

def isolatedProfile : QxSandboxProfile :=
  ⟨"isolated".toList, 1200, 65536, 1⟩

lemma lookup_isolated : qxLookupSandboxProfile "isolated".toList = .ok isolatedProfile := by
  decide +kernel

def policyOfTags (tags : String) : QxRuntimePolicy :=
  qxRuntimePolicyFromAuthz (fun _ => none) (some tags.toList)

def launchedRequest (policy : QxRuntimePolicy) : QxContainerBackendRequest :=
  qxContainerBackendRequest containerContract "submit".toList 5 "isolated".toList isolatedProfile
    policy

/-- The tags give a policy that passes the test, and a container is launched under it. -/
def launches (tags : String) (test : QxRuntimePolicy → Bool) : Bool :=
  (qxRuntimePolicyCompileContainer (policyOfTags tags)).toOption.any fun policy =>
    test policy && (qxContainerLaunchRequest (fun _ => none) containerContract "submit".toList 5
      "isolated".toList isolatedProfile policy).isOk

lemma exists_launch {tags : String} {test : QxRuntimePolicy → Bool}
    (h : launches tags test = true) :
    ∃ policy launchText, qxRuntimePolicyCompileContainer (policyOfTags tags) = .ok policy ∧
      qxContainerLaunchRequest (fun _ => none) containerContract "submit".toList 5
        "isolated".toList isolatedProfile policy = .ok launchText ∧ test policy = true := by
  unfold launches at h
  cases hpolicy : qxRuntimePolicyCompileContainer (policyOfTags tags) with
  | error _ => simp [hpolicy, Except.toOption] at h
  | ok policy =>
    rw [hpolicy, Except.toOption, Option.any_some, Bool.and_eq_true] at h
    obtain ⟨launchText, htext⟩ := exists_of_isOk h.2
    exact ⟨policy, launchText, rfl, htext, h.1⟩

lemma commandOf_launch {getenv : Environ} {base policy : QxRuntimePolicy}
    {contract phase sandbox launchText : CString} {taskoid : Oid} {profile : QxSandboxProfile}
    (hpolicy : qxRuntimePolicyCompileContainer base = .ok policy)
    (hprofile : qxLookupSandboxProfile sandbox = .ok profile)
    (htext : qxContainerLaunchRequest getenv contract phase taskoid sandbox profile policy =
      .ok launchText) (runnerEnv : Environ) (contents : CString) :
    CommandOf (qxContainerBackendRequest contract phase taskoid sandbox profile policy)
      (dockerCommand runnerEnv (runnerAfterLaunch runnerEnv contents launchText)) := by
  obtain ⟨seccomp, cgroup, hcompiled⟩ := compiledPolicy_of_compile hpolicy
  simp only [qxContainerLaunchRequest, qxContainerBackendBuildLaunchRequest, bind_eq_ok_iff,
    pure_eq_ok_iff] at htext
  obtain ⟨-, -, -, -, rfl⟩ := htext
  exact commandOf_dockerCommand (settingLines_clean contract phase taskoid hcompiled hprofile)
    (detail_strays taskoid) (limits_of_lookup hprofile).2 runnerEnv contents

/-- The runner never reads the engine's own settings right, since they end in a line break: the
container runs as its policy says exactly when other texts of the request assign it so. -/
theorem docker_follows_policy_iff {getenv : Environ} {base policy : QxRuntimePolicy}
    {contract phase sandbox launchText : CString} {taskoid : Oid} {profile : QxSandboxProfile}
    (hpolicy : qxRuntimePolicyCompileContainer base = .ok policy)
    (hprofile : qxLookupSandboxProfile sandbox = .ok profile)
    (htext : qxContainerLaunchRequest getenv contract phase taskoid sandbox profile policy =
      .ok launchText) (runnerEnv : Environ) (contents : CString) :
    DockerFollows policy profile
        (dockerCommand runnerEnv (runnerAfterLaunch runnerEnv contents launchText)) ↔
      StraysAgree policy profile
        (qxContainerBackendRequest contract phase taskoid sandbox profile policy) := by
  have hcommand := commandOf_launch hpolicy hprofile htext runnerEnv contents
  have hlimit : ∀ (stray : Option CString) (read : CString → Int) (limit : Int),
      (stray.map read).getD limit = limit ↔ ∀ value, stray = some value → read value = limit := by
    intro stray read limit
    cases stray <;> simp
  have hmemory := hlimit (lastOf LaunchKey.memoryKb.name (profileStrays
    (qxContainerBackendRequest contract phase taskoid sandbox profile policy)))
    (fun value => if strtol value > 0 then strtol value else 65536) profile.memoryKb
  have hprocess := hlimit (lastOf LaunchKey.processLimit.name (profileStrays
    (qxContainerBackendRequest contract phase taskoid sandbox profile policy)))
    (fun value => if strtol value > 0 then strtol value else 1) profile.processLimit
  constructor
  · intro h
    exact ⟨hcommand.network.symm.trans h.network, hcommand.seccomp.symm.trans h.seccomp,
      hcommand.readOnly.symm.trans (by rw [h.readOnly]), hcommand.cgroup.symm.trans h.cgroup,
      hmemory.mp (hcommand.memory.symm.trans h.memory),
      hprocess.mp (hcommand.processes.symm.trans h.processes)⟩
  · intro h
    exact ⟨hcommand.network.trans h.network, hcommand.seccomp.trans h.seccomp,
      Bool.eq_iff_iff.mpr (hcommand.readOnly.trans h.readOnly), hcommand.cgroup.trans h.cgroup,
      hcommand.memory.trans (hmemory.mpr h.memory),
      hcommand.processes.trans (hprocess.mpr h.processes)⟩

theorem untagged_container_follows :
    ∃ policy launchText, qxRuntimePolicyCompileContainer (policyOfTags "") = .ok policy ∧
      qxContainerLaunchRequest (fun _ => none) containerContract "submit".toList 5
        "isolated".toList isolatedProfile policy = .ok launchText ∧
      DockerFollows policy isolatedProfile
        (dockerCommand (fun _ => none) (runnerAfterLaunch (fun _ => none) [] launchText)) := by
  have hlaunches : launches "" (fun policy =>
      decide (StraysAgree policy isolatedProfile (launchedRequest policy))) = true := by
    decide +kernel
  obtain ⟨policy, launchText, hpolicy, htext, hagree⟩ := exists_launch hlaunches
  refine ⟨policy, launchText, hpolicy, htext, ?_⟩
  exact (docker_follows_policy_iff hpolicy lookup_isolated htext _ _).mpr (of_decide_eq_true hagree)

/-- A tool that is granted the network does not get it, whatever else the runner has read. -/
theorem granted_network_not_bridged :
    ∃ policy launchText,
      qxRuntimePolicyCompileContainer (policyOfTags "network:allow") = .ok policy ∧
      qxContainerLaunchRequest (fun _ => none) containerContract "submit".toList 5
        "isolated".toList isolatedProfile policy = .ok launchText ∧
      policy.allowNetwork = true ∧ ∀ runnerEnv contents,
        (dockerCommand runnerEnv (runnerAfterLaunch runnerEnv contents launchText)).network ≠
          "bridge".toList := by
  have hlaunches : launches "network:allow" (fun policy => decide (policy.allowNetwork = true ∧
      lastOf LaunchKey.allowNetwork.name (profileStrays (launchedRequest policy)) = none)) = true := by
    decide +kernel
  obtain ⟨policy, launchText, hpolicy, htext, htest⟩ := exists_launch hlaunches
  obtain ⟨hallow, hnone⟩ := of_decide_eq_true htest
  refine ⟨policy, launchText, hpolicy, htext, hallow, fun runnerEnv contents hbridge => ?_⟩
  have hcommand := commandOf_launch hpolicy lookup_isolated htext runnerEnv contents
  cases hnone.symm.trans (hcommand.network.mp hbridge)

end QhapaqXian
