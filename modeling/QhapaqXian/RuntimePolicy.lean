import QhapaqXian.Library.Tags
import QhapaqXian.Authorization

/-!
# Runtime policies

`qx_runtime_policy.c`: the policy that the runtime reads off the capability tags of a tool, and the
form of it that a container or a microVM is launched under.
-/

namespace QhapaqXian

open Library

abbrev Environ := String → Option CString

structure QxRuntimePolicy where
  allowNetwork : Bool
  allowPrivilegeEscalation : Bool
  readonlyRootfs : Bool
  imageRef : Option CString
  seccompMode : Option CString
  cgroupMode : Option CString
  ociProfile : Option CString
  kernelRef : Option CString
  initrdRef : Option CString
  snapshotRef : Option CString
  deriving Repr, DecidableEq

/-- `pg_strcasecmp(a, b) == 0`. -/
def sameIgnoringCase (a b : CString) : Bool :=
  a.map Char.toLower == b.map Char.toLower

/-- The value is cut to the buffer it is copied into. -/
def qxRuntimePolicyTagValue (serialized : Option CString) (key : String) (destlen : Nat) :
    Option CString :=
  serialized.bind fun tags => (tagScan '|' key.toList 0 true tags).map (List.take (destlen - 1))

/-- A value that is there but empty counts as none. -/
def nonEmptyTagValue (serialized : Option CString) (key : String) (destlen : Nat) :
    Option CString :=
  (qxRuntimePolicyTagValue serialized key destlen).filter (· ≠ [])

def qxRuntimePolicyParseBoolTag (value : CString) (default : Bool) : Bool :=
  if ["allow", "true", "yes", "1"].any (fun word => sameIgnoringCase value word.toList) then true
  else if ["deny", "false", "no", "0"].any (fun word => sameIgnoringCase value word.toList) then
    false
  else default

/-- The spellings that switch network access or privilege escalation on. -/
def spellsAllow (value : CString) : Bool :=
  ["allow", "true", "yes"].any fun word => sameIgnoringCase value word.toList

def qxRuntimePolicyFromAuthz (getenv : Environ) (tags : Option CString) : QxRuntimePolicy where
  allowNetwork := (qxRuntimePolicyTagValue tags "network:" 64).any spellsAllow
  allowPrivilegeEscalation :=
    (qxRuntimePolicyTagValue tags "privilege_escalation:" 64).any spellsAllow
  readonlyRootfs :=
    ((qxRuntimePolicyTagValue tags "readonly_rootfs:" 64).map
      (qxRuntimePolicyParseBoolTag · true)).getD true
  seccompMode := (nonEmptyTagValue tags "seccomp_mode:" 64).or (nonEmptyTagValue tags "seccomp:" 64)
  cgroupMode := (nonEmptyTagValue tags "cgroup_mode:" 64).or (nonEmptyTagValue tags "cgroup:" 64)
  imageRef := some ((nonEmptyTagValue tags "image:" 256).getD
    (nonEmptyOr (getenv "QX_CONTAINER_IMAGE") "alpine:3.20".toList))
  ociProfile := none
  kernelRef := nonEmptyTagValue tags "kernel:" 256
  initrdRef := nonEmptyTagValue tags "initrd:" 256
  snapshotRef := nonEmptyTagValue tags "snapshot:" 256

/-- The loop over the allow list: the entry at the cursor ends before the next comma, and blanks in
front of it are passed over. Every round but the last moves the cursor behind a comma. -/
def allowlistHas (value : CString) : Nat → CString → Bool
  | 0, _ => false
  | _ + 1, [] => false
  | rounds + 1, cursor =>
    let entry := (upTo ',' cursor).dropWhile isSpace
    if entry == value then true
    else
      match cursor.dropWhile (· ≠ ',') with
      | _ :: rest => allowlistHas value rounds rest
      | [] => false

def qxRuntimePolicyValidateAllowlistEntry (getenv : Environ) (value : Option CString)
    (envVar label : String) : Except QxError Unit := do
  if isNullOrEmpty value then
    ereport .invalidParameterValue s!"runtime policy requires a {label} reference"
  let allowlist := getenv envVar
  if isNullOrEmpty allowlist then
    return ()
  let found := value.getD []
  let list := allowlist.getD []
  if !allowlistHas found list.length list then
    ereport .insufficientPrivilege s!"{label} \"{text found}\" is not in {envVar}"

def qxRuntimePolicyValidateImageRef (getenv : Environ) (imageRef : Option CString) :
    Except QxError Unit :=
  qxRuntimePolicyValidateAllowlistEntry getenv imageRef "QX_CONTAINER_IMAGE_ALLOWLIST"
    "container image"

def qxRuntimePolicyValidateMicrovmAssets (getenv : Environ)
    (kernel initrd snapshot : Option CString) : Except QxError Unit := do
  qxRuntimePolicyValidateAllowlistEntry getenv kernel "QX_MICROVM_KERNEL_ALLOWLIST" "microVM kernel"
  qxRuntimePolicyValidateAllowlistEntry getenv initrd "QX_MICROVM_INITRD_ALLOWLIST" "microVM initrd"
  if !isNullOrEmpty snapshot then
    qxRuntimePolicyValidateAllowlistEntry getenv snapshot "QX_MICROVM_SNAPSHOT_ALLOWLIST"
      "microVM snapshot"

/-- The mode that is set, if it is one of the known modes, or the default. -/
def containerMode (label : String) (mode : Option CString) (known : List String)
    (default : CString) : Except QxError CString :=
  if isNullOrEmpty mode then .ok default
  else
    let found := mode.getD []
    if known.any (fun word => sameIgnoringCase found word.toList) then .ok found
    else ereport .invalidParameterValue s!"unsupported container {label} mode \"{text found}\""

def ociProfileText (policy : QxRuntimePolicy) (seccompMode cgroupMode : CString) : CString :=
  renderFields '=' ';'
    [ ("network".toList, if policy.allowNetwork then "allow".toList else "deny".toList),
      ("privilege_escalation".toList,
        if policy.allowPrivilegeEscalation then "allow".toList else "deny".toList),
      ("readonly_rootfs".toList, if policy.readonlyRootfs then "true".toList else "false".toList),
      ("seccomp".toList, seccompMode),
      ("cgroup".toList, cgroupMode),
      ("image".toList, policy.imageRef.getD []) ]

def qxRuntimePolicyCompileContainer (policy : QxRuntimePolicy) :
    Except QxError QxRuntimePolicy := do
  let seccompMode ← containerMode "seccomp" policy.seccompMode
    ["unconfined", "no-new-privileges", "runtime-default", "strict"]
    (if policy.allowPrivilegeEscalation then "unconfined".toList else "no-new-privileges".toList)
  let cgroupMode ← containerMode "cgroup" policy.cgroupMode ["host", "private", "isolated"]
    "private".toList
  return { policy with
    seccompMode := some seccompMode
    cgroupMode := some cgroupMode
    ociProfile := some (ociProfileText policy seccompMode cgroupMode) }

/-- The reference of the policy, then the path that is given, then the environment. -/
def microvmAsset (getenv : Environ) (ref path : Option CString) (envVar : String) :
    Option CString :=
  ([ref, path, getenv envVar].find? fun asset => !isNullOrEmpty asset).join

def qxRuntimePolicyResolveMicrovmAssets (getenv : Environ) (policy : QxRuntimePolicy)
    (kernelPath initrdPath : Option CString) : Except QxError QxRuntimePolicy := do
  let kernel := microvmAsset getenv policy.kernelRef kernelPath "QX_MICROVM_KERNEL"
  let initrd := microvmAsset getenv policy.initrdRef initrdPath "QX_MICROVM_INITRD"
  if isNullOrEmpty kernel || isNullOrEmpty initrd then
    ereport .invalidParameterValue
      "runtime policy requires microVM kernel and initrd references"
  qxRuntimePolicyValidateMicrovmAssets getenv kernel initrd policy.snapshotRef
  return { policy with kernelRef := kernel, initrdRef := initrd }

end QhapaqXian
