import QhapaqXian.Basic
import QhapaqXian.Library.Fields

/-!
# Policy catalogs and their commands

`CREATE` and `ALTER` of providers, principals and tools (`commands/qxpolicycmds.c`) over the
catalogs they write, with every check in the order the commands make it.
-/

namespace QhapaqXian

open Library

structure ProviderRow where
  oid : Oid
  name : CString
  namespaceoid : Oid
  ownerid : Oid
  enabled : Bool
  attestationRequired : Bool
  kind : Option CString
  endpoint : Option CString
  receiptAlg : Option CString
  receiptKey : Option CString
  attestationProfile : Option CString
  attestationVersion : Option CString
  attestationPolicy : Option CString
  deriving Repr, DecidableEq

structure PrincipalRow where
  oid : Oid
  name : CString
  namespaceoid : Oid
  ownerid : Oid
  provideroid : Oid
  enabled : Bool
  sandbox : Option CString
  program : Option CString
  providerName : Option CString
  runtimeClass : Option CString
  receiptSigner : Option CString
  attestationProfile : Option CString
  attestationVersion : Option CString
  attestationPolicy : Option CString
  deriving Repr, DecidableEq

structure ToolRow where
  oid : Oid
  name : CString
  namespaceoid : Oid
  ownerid : Oid
  principaloid : Oid
  enabled : Bool
  tokenCost : Int
  costUnits : Int
  handler : Option CString
  sandbox : Option CString
  runtimeClass : Option CString
  sandboxCeiling : Option CString
  capabilityTags : Option CString
  principalName : Option CString
  policy : Option CString
  deriving Repr, DecidableEq

structure NamespacePolicyRow where
  oid : Oid
  name : CString
  namespaceoid : Oid
  ownerid : Oid
  authrole : Oid
  requireKnownTools : Bool
  enforceBudgets : Bool
  allowedTools : List CString
  policy : Option CString
  deriving Repr, DecidableEq

structure PolicyCatalog where
  providers : List ProviderRow
  principals : List PrincipalRow
  tools : List ToolRow
  namespacePolicies : List NamespacePolicyRow
  deriving Repr, DecidableEq

/-- What a command asks the server outside these catalogs. -/
structure PolicySession where
  userId : Oid
  searchPath : List Oid
  creationNamespace : Oid
  namespaceName : Oid → String
  hasCreate : Oid → Bool
  hasPrivsOfRole : Oid → Oid → Bool
  useOpenSSL : Bool

structure RangeVar where
  schemaname : Option Oid
  relname : CString

def text (s : CString) : String :=
  String.ofList s

def textOr (s : Option CString) (fallback : String) : String :=
  (s.map text).getD fallback

def PolicySession.rangeVarGetCreationNamespace (session : PolicySession) (name : RangeVar) : Oid :=
  name.schemaname.getD session.creationNamespace

def PolicyCatalog.lookupProviderByOid (cat : PolicyCatalog) (oid : Oid) : Option ProviderRow :=
  cat.providers.find? fun row => row.oid == oid

def PolicyCatalog.lookupProviderByName (cat : PolicyCatalog) (namespaceoid : Oid)
    (name : CString) : Option ProviderRow :=
  cat.providers.find? fun row => row.namespaceoid == namespaceoid && row.name == name

def PolicyCatalog.lookupPrincipalByOid (cat : PolicyCatalog) (oid : Oid) : Option PrincipalRow :=
  cat.principals.find? fun row => row.oid == oid

def PolicyCatalog.lookupPrincipalByName (cat : PolicyCatalog) (namespaceoid : Oid)
    (name : CString) : Option PrincipalRow :=
  cat.principals.find? fun row => row.namespaceoid == namespaceoid && row.name == name

def PolicyCatalog.lookupToolByName (cat : PolicyCatalog) (namespaceoid : Oid)
    (name : CString) : Option ToolRow :=
  cat.tools.find? fun row => row.namespaceoid == namespaceoid && row.name == name

def PolicyCatalog.lookupNamespacePolicyByName (cat : PolicyCatalog) (namespaceoid : Oid)
    (name : CString) : Option NamespacePolicyRow :=
  cat.namespacePolicies.find? fun row => row.namespaceoid == namespaceoid && row.name == name

def PolicyCatalog.lookupNamespacePolicyByOid (cat : PolicyCatalog) (oid : Oid) :
    Option NamespacePolicyRow :=
  cat.namespacePolicies.find? fun row => row.oid == oid

def PolicySession.lookupPath (session : PolicySession) (name : RangeVar) : List Oid :=
  match name.schemaname with
  | some namespaceoid => [namespaceoid]
  | none => session.searchPath

def qxLookupProviderTuple (session : PolicySession) (cat : PolicyCatalog) (name : RangeVar) :
    Option ProviderRow :=
  (session.lookupPath name).findSome? fun nsp => cat.lookupProviderByName nsp name.relname

def qxLookupPrincipalTuple (session : PolicySession) (cat : PolicyCatalog) (name : RangeVar) :
    Option PrincipalRow :=
  (session.lookupPath name).findSome? fun nsp => cat.lookupPrincipalByName nsp name.relname

def qxLookupToolTuple (session : PolicySession) (cat : PolicyCatalog) (name : RangeVar) :
    Option ToolRow :=
  (session.lookupPath name).findSome? fun nsp => cat.lookupToolByName nsp name.relname

/-! ## Checks -/

def isAbsolutePath (path : CString) : Bool :=
  path.head? == some '/'

def hasDirSeparator (path : CString) : Bool :=
  path.contains '/'

def pathContainsParentReference : CString → Bool
  | '.' :: '.' :: rest => rest.isEmpty || rest.head? == some '/'
  | _ => false

def hasLineBreak (value : CString) : Bool :=
  value.contains '\n' || value.contains '\r'

def hasUnsupportedCharacter (value : CString) : Bool :=
  hasLineBreak value || value.contains ';'

def qxValidateToolCosts (tokenCost costUnits : Int) (command : String) : Except QxError Unit := do
  if tokenCost < 0 then
    ereport .invalidParameterValue s!"{command} token cost must not be negative"
  if costUnits < 0 then
    ereport .invalidParameterValue s!"{command} cost units must not be negative"

/-- The texts of the check that programs and signers share. -/
structure FileReferenceTexts where
  field : String
  noun : String
  emptyDetail : String
  charactersDetail : String
  relativeDetail : String

/-- A bare name or an absolute path, on one line and without a `;`. -/
def qxValidateFileReference (texts : FileReferenceTexts) (value : Option CString)
    (command : String) : Except QxError Unit := do
  let field := texts.field
  let noun := texts.noun
  if isNullOrEmpty value then
    ereportDetail .invalidParameterValue s!"{command} {field} must not be empty" texts.emptyDetail
  let path := value.getD []
  if hasUnsupportedCharacter path then
    ereportDetail .invalidParameterValue s!"{command} {field} contains unsupported characters"
      texts.charactersDetail
  if !isAbsolutePath path && (hasDirSeparator path || pathContainsParentReference path) then
    ereportDetail .invalidParameterValue
      s!"{command} {field} must be a bare {noun} or an absolute path" texts.relativeDetail
  if pathContainsParentReference path then
    ereport .invalidParameterValue
      s!"{command} {field} must not contain parent-directory references"

def qxValidatePrincipalProgram (program : Option CString) (command : String) :
    Except QxError Unit :=
  qxValidateFileReference
    { field := "program"
      noun := "executable name"
      emptyDetail := ""
      charactersDetail := "Programs must be bare executable names or absolute paths."
      relativeDetail :=
        "Relative paths and parent-directory references are rejected for principal programs." }
    program command

def qxValidatePrincipalReceiptSigner (signer : Option CString) (command : String) :
    Except QxError Unit :=
  qxValidateFileReference
    { field := "signer"
      noun := "filename"
      emptyDetail := "Asymmetric receipt principals need a signer file reference."
      charactersDetail := "Signer references must be bare filenames or absolute paths."
      relativeDetail :=
        "Relative paths and parent-directory references are rejected for receipt signers." }
    signer command

def qxValidateProviderKind (kind : Option CString) (command : String) : Except QxError Unit := do
  if isNullOrEmpty kind then
    ereport .invalidParameterValue s!"{command} kind must not be empty"
  let providerKind := kind.getD []
  if providerKind ≠ "loopback".toList ∧ providerKind ≠ "remote".toList ∧
      providerKind ≠ "container".toList ∧ providerKind ≠ "microvm".toList then
    ereportDetail .invalidParameterValue s!"unsupported provider kind \"{text providerKind}\""
      ("QhapaqXian providers currently support loopback, remote, container, and microvm " ++
        "execution drivers.")

def qxValidateAttestationText (value : Option CString) (field command : String) :
    Except QxError Unit := do
  if isNullOrEmpty value then
    ereport .invalidParameterValue s!"{command} {field} must not be empty"
  if hasUnsupportedCharacter (value.getD []) then
    ereportDetail .invalidParameterValue s!"{command} {field} contains unsupported characters"
      "Attestation metadata must be a single-line contract token."

def qxValidateAttestationMetadata (profile version policy : Option CString) (required : Bool)
    (command : String) : Except QxError Unit := do
  let anySet := profile.isSome || version.isSome || policy.isSome
  if anySet && (profile.isNone || version.isNone || policy.isNone) then
    ereportDetail .invalidParameterValue
      s!"{command} attestation profile, version, and policy must be provided together"
      "The attestation contract is stored as an atomic bundle."
  if required && !anySet then
    ereportDetail .objectNotInPrerequisiteState
      s!"{command} requires attestation profile, version, and policy"
      "Container and microVM contracts need explicit attestation metadata."
  if profile.isSome then qxValidateAttestationText profile "attestation profile" command
  if version.isSome then qxValidateAttestationText version "attestation version" command
  if policy.isSome then qxValidateAttestationText policy "attestation policy" command

def isBrokeredKind (kind : CString) : Bool :=
  kind == "container".toList || kind == "microvm".toList

def qxValidateProviderIsolationContract (kind receiptAlg profile version policy : Option CString)
    (attestationRequired : Bool) (command : String) : Except QxError Unit := do
  let effectiveKind := nonEmptyOr kind "loopback".toList
  let effectiveAlg := nonEmptyOr receiptAlg "hmac-sha256".toList
  let kindText := text effectiveKind
  qxValidateAttestationMetadata profile version policy (isBrokeredKind effectiveKind) command
  if isBrokeredKind effectiveKind then
    if effectiveAlg ≠ "ed25519".toList then
      ereportDetail .invalidParameterValue
        s!"{command} kind \"{kindText}\" requires ed25519 receipts"
        ("Container and microVM providers must use asymmetric receipts so the runtime can " ++
          "verify brokered isolation evidence.")
    if !attestationRequired then
      ereportDetail .invalidParameterValue s!"{command} kind \"{kindText}\" requires attestation"
        ("Container and microVM providers must declare ATTESTATION ENABLE so the runtime " ++
          "rejects unsigned broker responses.")

def qxValidateProviderReceiptAlg (session : PolicySession) (receiptAlg : Option CString)
    (command : String) : Except QxError Unit := do
  let effectiveAlg := nonEmptyOr receiptAlg "hmac-sha256".toList
  let algText := text effectiveAlg
  if effectiveAlg = "hmac-sha256".toList then
    return ()
  if effectiveAlg = "ed25519".toList then
    if !session.useOpenSSL then
      ereportDetail .featureNotSupported
        s!"{command} receipt algorithm \"{algText}\" requires OpenSSL support"
        "Build QhapaqXian DB with OpenSSL to enable asymmetric receipt verification."
    return ()
  ereportDetail .invalidParameterValue s!"unsupported provider receipt algorithm \"{algText}\""
    "QhapaqXian providers currently support only hmac-sha256 and ed25519 receipts."

/-- The scheme that an endpoint of the kind must start with, and the error for another one. -/
def endpointScheme (kind : Option CString) (command : String) : CString × QxError :=
  if kind = some "remote".toList then
    ("remote://".toList, ⟨.invalidParameterValue,
      s!"{command} endpoint must start with \"remote://\" for remote providers",
      "The brokered remote provider subsystem accepts only remote:// endpoints."⟩)
  else if kind = some "container".toList then
    ("container://".toList, ⟨.invalidParameterValue,
      s!"{command} endpoint must start with \"container://\" for container providers",
      "Container providers accept only container:// broker endpoints."⟩)
  else if kind = some "microvm".toList then
    ("microvm://".toList, ⟨.invalidParameterValue,
      s!"{command} endpoint must start with \"microvm://\" for microvm providers",
      "MicroVM providers accept only microvm:// broker endpoints."⟩)
  else
    ("local://".toList, ⟨.invalidParameterValue,
      s!"{command} endpoint must start with \"local://\"",
      "Loopback providers accept only local:// endpoints."⟩)

def qxValidateProviderEndpoint (kind endpoint : Option CString) (command : String) :
    Except QxError Unit := do
  if isNullOrEmpty endpoint then
    ereport .invalidParameterValue s!"{command} endpoint must not be empty"
  let endpointName := endpoint.getD []
  if hasUnsupportedCharacter endpointName then
    ereport .invalidParameterValue s!"{command} endpoint contains unsupported characters"
  let scheme := endpointScheme kind command
  if !scheme.1.isPrefixOf endpointName then
    throw scheme.2

def qxValidateProviderReceiptKey (receiptAlg receiptKey : Option CString) (command : String) :
    Except QxError Unit := do
  let effectiveAlg := nonEmptyOr receiptAlg "hmac-sha256".toList
  if isNullOrEmpty receiptKey then
    ereportDetail .invalidParameterValue s!"{command} receipt key must not be empty"
      "Providers need verification material for runtime receipts."
  let key := receiptKey.getD []
  if effectiveAlg = "ed25519".toList then
    if (strstr key "-----BEGIN PUBLIC KEY-----".toList).isNone ||
        (strstr key "-----END PUBLIC KEY-----".toList).isNone then
      ereportDetail .invalidParameterValue s!"{command} receipt key is not a PEM public key"
        "Ed25519 providers require a PEM-encoded public key in RECEIPT KEY."
    return ()
  if key.length < 8 then
    ereportDetail .invalidParameterValue s!"{command} receipt key is too short"
      "Use at least 8 characters for the bootstrap HMAC receipt key."
  if hasLineBreak key then
    ereport .invalidParameterValue s!"{command} receipt key contains unsupported characters"

def qxValidatePrincipalRuntimeClass (runtimeClass : CString) (command : String) :
    Except QxError Unit := do
  if runtimeClass = [] then
    ereport .invalidParameterValue s!"{command} runtime class must not be empty"
  if runtimeClass ≠ "host".toList ∧ runtimeClass ≠ "container".toList ∧
      runtimeClass ≠ "microvm".toList then
    ereportDetail .invalidParameterValue
      s!"unsupported principal runtime class \"{text runtimeClass}\""
      ("QhapaqXian principals currently support host, container, or microvm runtime " ++
        "classes.")

def qxDefaultRuntimeForProviderKind (kind : Option CString) : CString :=
  if kind = some "container".toList then "container".toList
  else if kind = some "microvm".toList then "microvm".toList
  else "host".toList

def qxValidateAttestationBindingValues (providerProfile providerVersion providerPolicy
    principalProfile principalVersion principalPolicy : Option CString) (command : String) :
    Except QxError Unit := do
  if providerProfile.isNone && providerVersion.isNone && providerPolicy.isNone then
    return ()
  if principalProfile.isNone || principalVersion.isNone || principalPolicy.isNone then
    ereportDetail .objectNotInPrerequisiteState s!"{command} attestation contract is incomplete"
      ("Principals bound to providers with attestation metadata must carry matching profile, " ++
        "version, and policy values.")
  if providerProfile ≠ principalProfile ∨ providerVersion ≠ principalVersion ∨
      providerPolicy ≠ principalPolicy then
    ereportDetail .objectNotInPrerequisiteState
      s!"{command} attestation contract does not match provider"
      ("Provider and principal attestation metadata must remain aligned for brokered " ++
        "container and microVM backends.")

def qxValidatePrincipalRuntimeBindingValues (session : PolicySession) (kind receiptAlg : CString)
    (runtimeClass sandbox receiptSigner profile version policy : Option CString)
    (command : String) : Except QxError Unit := do
  qxValidateProviderKind (some kind) command
  qxValidateProviderReceiptAlg session (some receiptAlg) command
  let runtime := nonEmptyOr runtimeClass (qxDefaultRuntimeForProviderKind (some kind))
  let runtimeText := text runtime
  let kindText := text kind
  qxValidatePrincipalRuntimeClass runtime command
  qxValidateAttestationMetadata profile version policy (runtime != "host".toList) command
  if receiptSigner.isSome then qxValidatePrincipalReceiptSigner receiptSigner command
  if (kind = "loopback".toList ∨ kind = "remote".toList) ∧ runtime ≠ "host".toList then
    ereportDetail .objectNotInPrerequisiteState
      s!"{command} runtime class \"{runtimeText}\" is incompatible with provider kind \"{kindText}\""
      ("Loopback and remote providers currently back only host principals. Use KIND " ++
        "'container' or KIND 'microvm' for isolated principals.")
  if kind = "container".toList ∧ runtime ≠ "container".toList then
    ereportDetail .objectNotInPrerequisiteState
      s!"{command} runtime class \"{runtimeText}\" is incompatible with provider kind \"{kindText}\""
      "Container providers require principals declared with RUNTIME 'container'."
  if kind = "microvm".toList ∧ runtime ≠ "microvm".toList then
    ereportDetail .objectNotInPrerequisiteState
      s!"{command} runtime class \"{runtimeText}\" is incompatible with provider kind \"{kindText}\""
      "MicroVM providers require principals declared with RUNTIME 'microvm'."
  if runtime ≠ "host".toList ∧ sandbox ≠ some "isolated".toList then
    ereportDetail .objectNotInPrerequisiteState
      s!"{command} runtime class \"{runtimeText}\" requires sandbox \"isolated\""
      ("Containerized and microVM-backed principals must run at the strongest local sandbox " ++
        "ceiling before broker handoff.")
  if receiptAlg = "ed25519".toList ∧ isNullOrEmpty receiptSigner then
    ereportDetail .objectNotInPrerequisiteState
      s!"{command} requires SIGNER for principals bound to ed25519 providers"
      ("The provider verifies receipts with a public key, so the principal must reference a " ++
        "private signer file.")

def cacheLookupFailed {α : Type} (object : String) (oid : Oid) : Except QxError α :=
  ereport .internalError s!"cache lookup failed for QhapaqXian {object} {oid}"

def providerByOid (cat : PolicyCatalog) (provideroid : Oid) : Except QxError ProviderRow :=
  match cat.lookupProviderByOid provideroid with
  | some row => .ok row
  | none => cacheLookupFailed "provider" provideroid

def qxValidatePrincipalRuntimeBinding (session : PolicySession) (cat : PolicyCatalog)
    (provideroid : Oid) (runtimeClass sandbox receiptSigner profile version policy : Option CString)
    (command : String) : Except QxError Unit := do
  let provider ← providerByOid cat provideroid
  let kind := nonEmptyOr provider.kind "loopback".toList
  let receiptAlg := nonEmptyOr provider.receiptAlg "hmac-sha256".toList
  let effectiveProfile := profile.or provider.attestationProfile
  let effectiveVersion := version.or provider.attestationVersion
  let effectivePolicy := policy.or provider.attestationPolicy
  qxValidatePrincipalRuntimeBindingValues session kind receiptAlg runtimeClass sandbox
    receiptSigner effectiveProfile effectiveVersion effectivePolicy command
  qxValidateAttestationBindingValues provider.attestationProfile provider.attestationVersion
    provider.attestationPolicy effectiveProfile effectiveVersion effectivePolicy command

/-- Every principal bound to the provider is checked against its new values. -/
def qxValidateProviderBoundPrincipals (session : PolicySession) (provideroid : Oid)
    (kind receiptAlg : CString) (profile version policy : Option CString) (command : String) :
    List PrincipalRow → Except QxError Unit
  | [] => .ok ()
  | principal :: rest => do
    if principal.provideroid == provideroid then
      let scope := s!"{command} principal \"{text principal.name}\""
      qxValidatePrincipalRuntimeBindingValues session kind receiptAlg principal.runtimeClass
        principal.sandbox principal.receiptSigner principal.attestationProfile
        principal.attestationVersion principal.attestationPolicy scope
      qxValidateAttestationBindingValues profile version policy principal.attestationProfile
        principal.attestationVersion principal.attestationPolicy scope
    qxValidateProviderBoundPrincipals session provideroid kind receiptAlg profile version policy
      command rest

def qxValidateToolSandbox (sandbox : Option CString) : Except QxError Unit :=
  match sandbox with
  | none => .ok ()
  | some name =>
    if name = "builtin".toList ∨ name = "restricted".toList ∨ name = "isolated".toList then .ok ()
    else
      ereportDetail .invalidParameterValue s!"unsupported tool sandbox \"{text name}\""
        "QhapaqXian sandboxes currently accept only builtin, restricted, or isolated."

def qxSandboxRank (sandbox : Option CString) : Except QxError Nat :=
  match sandbox with
  | none => .ok 0
  | some name =>
    if name = "builtin".toList then .ok 0
    else if name = "restricted".toList then .ok 1
    else if name = "isolated".toList then .ok 2
    else ereport .invalidParameterValue s!"unsupported sandbox \"{text name}\""

/-! ## Bindings -/

def qxLookupNamespacePolicy (session : PolicySession) (cat : PolicyCatalog) (namespaceoid : Oid)
    (name : CString) : Except QxError Oid := do
  let schemaName := session.namespaceName namespaceoid
  if name = [] then
    ereport .invalidParameterValue "namespace policy name must not be empty"
  match cat.lookupNamespacePolicyByName namespaceoid name with
  | some row => return row.oid
  | none =>
    ereportDetail .undefinedObject
      s!"namespace policy \"{text name}\" does not exist in schema \"{schemaName}\""
      "Create the namespace policy before binding agents or tools to it."

def qxLookupPrincipal (session : PolicySession) (cat : PolicyCatalog) (namespaceoid : Oid)
    (name : Option CString) : Except QxError PrincipalRow := do
  let schemaName := session.namespaceName namespaceoid
  if isNullOrEmpty name then
    ereport .invalidParameterValue "principal name must not be empty"
  let principalName := name.getD []
  match cat.lookupPrincipalByName namespaceoid principalName with
  | some row => return row
  | none =>
    ereportDetail .undefinedObject
      s!"principal \"{text principalName}\" does not exist in schema \"{schemaName}\""
      "Create the principal before binding it to a tool."

def qxLookupProvider (session : PolicySession) (cat : PolicyCatalog) (namespaceoid : Oid)
    (name : CString) : Except QxError ProviderRow := do
  let schemaName := session.namespaceName namespaceoid
  if name = [] then
    ereport .invalidParameterValue "provider name must not be empty"
  match cat.lookupProviderByName namespaceoid name with
  | some row => return row
  | none =>
    ereportDetail .undefinedObject
      s!"provider \"{text name}\" does not exist in schema \"{schemaName}\""
      "Create the provider before binding it to a principal."

def qxValidatePrincipalProviderBinding (session : PolicySession) (cat : PolicyCatalog)
    (namespaceoid ownerid : Oid) (providerName : CString) : Except QxError ProviderRow := do
  let schemaName := session.namespaceName namespaceoid
  let provider ← qxLookupProvider session cat namespaceoid providerName
  if !provider.enabled then
    ereport .objectNotInPrerequisiteState
      s!"provider \"{text providerName}\" is disabled in schema \"{schemaName}\""
  if !session.hasPrivsOfRole ownerid provider.ownerid then
    ereportDetail .insufficientPrivilege
      s!"permission denied to bind provider \"{text providerName}\""
      "Only the provider owner or a member of that role may bind it to a principal."
  return provider

def qxValidateToolPrincipalBinding (session : PolicySession) (cat : PolicyCatalog)
    (namespaceoid ownerid : Oid) (principalName toolSandbox : Option CString) :
    Except QxError Oid := do
  let schemaName := session.namespaceName namespaceoid
  let nameText := textOr principalName ""
  let sandboxText := textOr toolSandbox ""
  let principal ← qxLookupPrincipal session cat namespaceoid principalName
  if !principal.enabled then
    ereport .objectNotInPrerequisiteState
      s!"principal \"{nameText}\" is disabled in schema \"{schemaName}\""
  if !session.hasPrivsOfRole ownerid principal.ownerid then
    ereportDetail .insufficientPrivilege s!"permission denied to bind principal \"{nameText}\""
      "Only the principal owner or a member of that role may bind it to a tool."
  let toolRank ← qxSandboxRank toolSandbox
  let principalRank ← qxSandboxRank principal.sandbox
  if toolRank > principalRank then
    ereportDetail .invalidParameterValue
      s!"tool sandbox \"{sandboxText}\" exceeds principal \"{nameText}\" sandbox ceiling"
      "A tool may only run at or below the sandbox configured on its principal."
  return principal.oid

/-! ## Commands -/

structure CreateProviderStmt where
  providerName : RangeVar
  kind : CString
  endpoint : CString
  receiptAlg : Option CString
  receiptKey : Option CString
  attestationProfile : Option CString
  attestationVersion : Option CString
  attestationPolicy : Option CString
  attestationRequired : Bool

/-- A field that is `none` is left as it is. -/
structure AlterProviderStmt where
  providerName : RangeVar
  kind : Option CString
  endpoint : Option CString
  receiptAlg : Option CString
  receiptKey : Option CString
  attestationProfile : Option CString
  attestationVersion : Option CString
  attestationPolicy : Option CString
  attestationRequired : Option Bool
  enabled : Option Bool

structure CreatePrincipalStmt where
  principalName : RangeVar
  program : CString
  sandbox : CString
  runtimeClass : Option CString
  providerName : CString
  receiptSigner : Option CString
  attestationProfile : Option CString
  attestationVersion : Option CString
  attestationPolicy : Option CString

structure AlterPrincipalStmt where
  principalName : RangeVar
  providerName : Option CString
  program : Option CString
  sandbox : Option CString
  runtimeClass : Option CString
  receiptSigner : Option CString
  attestationProfile : Option CString
  attestationVersion : Option CString
  attestationPolicy : Option CString
  enabled : Option Bool

structure CreateToolStmt where
  toolName : RangeVar
  handler : CString
  sandbox : CString
  principalName : CString
  tokenCost : Int
  costUnits : Int
  policyName : Option CString

structure AlterToolStmt where
  toolName : RangeVar
  handler : Option CString
  sandbox : Option CString
  principalName : Option CString
  tokenCost : Option Int
  costUnits : Option Int
  policyName : Option CString
  enabled : Option Bool

def aclCheckCreate (session : PolicySession) (namespaceoid : Oid) : Except QxError Unit :=
  let schemaName := session.namespaceName namespaceoid
  if session.hasCreate namespaceoid then .ok ()
  else ereport .insufficientPrivilege s!"permission denied for schema {schemaName}"

def createProviderCommand (session : PolicySession) (oids : OidSource) (stmt : CreateProviderStmt)
    (cat : PolicyCatalog) : Except QxError PolicyCatalog := do
  let namespaceoid := session.rangeVarGetCreationNamespace stmt.providerName
  let schemaName := session.namespaceName namespaceoid
  let name := stmt.providerName.relname
  let receiptAlg := nonEmptyOr stmt.receiptAlg "hmac-sha256".toList
  aclCheckCreate session namespaceoid
  qxValidateProviderKind (some stmt.kind) "CREATE PROVIDER"
  qxValidateProviderEndpoint (some stmt.kind) (some stmt.endpoint) "CREATE PROVIDER"
  qxValidateProviderReceiptAlg session (some receiptAlg) "CREATE PROVIDER"
  qxValidateProviderReceiptKey (some receiptAlg) stmt.receiptKey "CREATE PROVIDER"
  qxValidateProviderIsolationContract (some stmt.kind) (some receiptAlg) stmt.attestationProfile
    stmt.attestationVersion stmt.attestationPolicy stmt.attestationRequired "CREATE PROVIDER"
  if (cat.lookupProviderByName namespaceoid name).isSome then
    ereport .duplicateObject
      s!"provider \"{text name}\" already exists in schema \"{schemaName}\""
  let row : ProviderRow :=
    { oid := oids.next .provider (cat.providers.map ProviderRow.oid)
      name := name
      namespaceoid := namespaceoid
      ownerid := session.userId
      enabled := true
      attestationRequired := stmt.attestationRequired
      kind := some stmt.kind
      endpoint := some stmt.endpoint
      receiptAlg := some receiptAlg
      receiptKey := stmt.receiptKey
      attestationProfile := stmt.attestationProfile
      attestationVersion := stmt.attestationVersion
      attestationPolicy := stmt.attestationPolicy }
  return { cat with providers := cat.providers ++ [row] }

def PolicyCatalog.updateProvider (cat : PolicyCatalog) (row : ProviderRow) : PolicyCatalog :=
  { cat with providers := cat.providers.map fun old => if old.oid == row.oid then row else old }

def PolicyCatalog.updatePrincipal (cat : PolicyCatalog) (row : PrincipalRow) : PolicyCatalog :=
  { cat with principals := cat.principals.map fun old => if old.oid == row.oid then row else old }

def PolicyCatalog.updateTool (cat : PolicyCatalog) (row : ToolRow) : PolicyCatalog :=
  { cat with tools := cat.tools.map fun old => if old.oid == row.oid then row else old }

def alterProviderCommand (session : PolicySession) (stmt : AlterProviderStmt)
    (cat : PolicyCatalog) : Except QxError PolicyCatalog := do
  if stmt.kind.isNone && stmt.endpoint.isNone && stmt.receiptAlg.isNone &&
      stmt.receiptKey.isNone && stmt.attestationProfile.isNone &&
      stmt.attestationVersion.isNone && stmt.attestationPolicy.isNone &&
      stmt.attestationRequired.isNone && stmt.enabled.isNone then
    ereport .syntaxError "ALTER PROVIDER requires at least one change"
  let name := text stmt.providerName.relname
  match qxLookupProviderTuple session cat stmt.providerName with
  | none => ereport .undefinedObject s!"provider \"{name}\" does not exist"
  | some old =>
    if !session.hasPrivsOfRole session.userId old.ownerid then
      ereportDetail .insufficientPrivilege s!"permission denied to alter provider \"{name}\""
        "Only the provider owner or a member of that role may alter it."
    if stmt.kind.isSome then qxValidateProviderKind stmt.kind "ALTER PROVIDER"
    if stmt.receiptAlg.isSome then
      qxValidateProviderReceiptAlg session stmt.receiptAlg "ALTER PROVIDER"
    if stmt.attestationProfile.isSome then
      qxValidateAttestationText stmt.attestationProfile "attestation profile" "ALTER PROVIDER"
    if stmt.attestationVersion.isSome then
      qxValidateAttestationText stmt.attestationVersion "attestation version" "ALTER PROVIDER"
    if stmt.attestationPolicy.isSome then
      qxValidateAttestationText stmt.attestationPolicy "attestation policy" "ALTER PROVIDER"
    let effectiveKind := stmt.kind.or old.kind
    let effectiveEndpoint := stmt.endpoint.or old.endpoint
    if stmt.kind.isSome || stmt.endpoint.isSome then
      qxValidateProviderEndpoint effectiveKind effectiveEndpoint "ALTER PROVIDER"
    let effectiveReceiptAlg :=
      nonEmptyOr (stmt.receiptAlg.or old.receiptAlg) "hmac-sha256".toList
    let effectiveReceiptKey := stmt.receiptKey.or old.receiptKey
    if stmt.receiptAlg.isSome || stmt.receiptKey.isSome then
      qxValidateProviderReceiptKey (some effectiveReceiptAlg) effectiveReceiptKey "ALTER PROVIDER"
    let effectiveProfile := stmt.attestationProfile.or old.attestationProfile
    let effectiveVersion := stmt.attestationVersion.or old.attestationVersion
    let effectivePolicy := stmt.attestationPolicy.or old.attestationPolicy
    let effectiveRequired := stmt.attestationRequired.getD old.attestationRequired
    qxValidateProviderIsolationContract effectiveKind (some effectiveReceiptAlg) effectiveProfile
      effectiveVersion effectivePolicy effectiveRequired "ALTER PROVIDER"
    qxValidateProviderBoundPrincipals session old.oid (effectiveKind.getD []) effectiveReceiptAlg
      effectiveProfile effectiveVersion effectivePolicy "ALTER PROVIDER" cat.principals
    return cat.updateProvider
      { old with
        kind := effectiveKind
        endpoint := effectiveEndpoint
        receiptAlg := stmt.receiptAlg.or old.receiptAlg
        receiptKey := effectiveReceiptKey
        attestationProfile := effectiveProfile
        attestationVersion := effectiveVersion
        attestationPolicy := effectivePolicy
        attestationRequired := effectiveRequired
        enabled := stmt.enabled.getD old.enabled }

def createPrincipalCommand (session : PolicySession) (oids : OidSource)
    (stmt : CreatePrincipalStmt) (cat : PolicyCatalog) : Except QxError PolicyCatalog := do
  let namespaceoid := session.rangeVarGetCreationNamespace stmt.principalName
  let schemaName := session.namespaceName namespaceoid
  let name := stmt.principalName.relname
  aclCheckCreate session namespaceoid
  qxValidateToolSandbox (some stmt.sandbox)
  qxValidatePrincipalProgram (some stmt.program) "CREATE PRINCIPAL"
  let provider ←
    qxValidatePrincipalProviderBinding session cat namespaceoid session.userId stmt.providerName
  let kind := nonEmptyOr provider.kind "loopback".toList
  let effectiveRuntimeClass :=
    nonEmptyOr stmt.runtimeClass (qxDefaultRuntimeForProviderKind (some kind))
  let effectiveProfile := stmt.attestationProfile.or provider.attestationProfile
  let effectiveVersion := stmt.attestationVersion.or provider.attestationVersion
  let effectivePolicy := stmt.attestationPolicy.or provider.attestationPolicy
  qxValidatePrincipalRuntimeBinding session cat provider.oid (some effectiveRuntimeClass)
    (some stmt.sandbox) stmt.receiptSigner effectiveProfile effectiveVersion effectivePolicy
    "CREATE PRINCIPAL"
  if (cat.lookupPrincipalByName namespaceoid name).isSome then
    ereport .duplicateObject
      s!"principal \"{text name}\" already exists in schema \"{schemaName}\""
  let row : PrincipalRow :=
    { oid := oids.next .principal (cat.principals.map PrincipalRow.oid)
      name := name
      namespaceoid := namespaceoid
      ownerid := session.userId
      provideroid := provider.oid
      enabled := true
      sandbox := some stmt.sandbox
      program := some stmt.program
      providerName := some stmt.providerName
      runtimeClass := some effectiveRuntimeClass
      receiptSigner := stmt.receiptSigner
      attestationProfile := effectiveProfile
      attestationVersion := effectiveVersion
      attestationPolicy := effectivePolicy }
  return { cat with principals := cat.principals ++ [row] }

def alterPrincipalCommand (session : PolicySession) (stmt : AlterPrincipalStmt)
    (cat : PolicyCatalog) : Except QxError PolicyCatalog := do
  if stmt.providerName.isNone && stmt.program.isNone && stmt.sandbox.isNone &&
      stmt.runtimeClass.isNone && stmt.receiptSigner.isNone &&
      stmt.attestationProfile.isNone && stmt.attestationVersion.isNone &&
      stmt.attestationPolicy.isNone && stmt.enabled.isNone then
    ereport .syntaxError "ALTER PRINCIPAL requires at least one change"
  let name := text stmt.principalName.relname
  match qxLookupPrincipalTuple session cat stmt.principalName with
  | none => ereport .undefinedObject s!"principal \"{name}\" does not exist"
  | some old =>
    if !session.hasPrivsOfRole session.userId old.ownerid then
      ereportDetail .insufficientPrivilege s!"permission denied to alter principal \"{name}\""
        "Only the principal owner or a member of that role may alter it."
    let effectiveProvideroid ←
      match stmt.providerName with
      | some providerName => do
        let provider ← qxValidatePrincipalProviderBinding session cat old.namespaceoid
          session.userId providerName
        pure provider.oid
      | none => pure old.provideroid
    if stmt.program.isSome then qxValidatePrincipalProgram stmt.program "ALTER PRINCIPAL"
    if stmt.sandbox.isSome then qxValidateToolSandbox stmt.sandbox
    if stmt.attestationProfile.isSome then
      qxValidateAttestationText stmt.attestationProfile "attestation profile" "ALTER PRINCIPAL"
    if stmt.attestationVersion.isSome then
      qxValidateAttestationText stmt.attestationVersion "attestation version" "ALTER PRINCIPAL"
    if stmt.attestationPolicy.isSome then
      qxValidateAttestationText stmt.attestationPolicy "attestation policy" "ALTER PRINCIPAL"
    let provider ← providerByOid cat effectiveProvideroid
    let kind := nonEmptyOr provider.kind "loopback".toList
    let effectiveRuntimeClass := nonEmptyOr (stmt.runtimeClass.or old.runtimeClass)
      (qxDefaultRuntimeForProviderKind (some kind))
    let effectiveProfile :=
      (stmt.attestationProfile.or old.attestationProfile).or provider.attestationProfile
    let effectiveVersion :=
      (stmt.attestationVersion.or old.attestationVersion).or provider.attestationVersion
    let effectivePolicy :=
      (stmt.attestationPolicy.or old.attestationPolicy).or provider.attestationPolicy
    qxValidatePrincipalRuntimeBinding session cat effectiveProvideroid
      (some effectiveRuntimeClass) (stmt.sandbox.or old.sandbox)
      (stmt.receiptSigner.or old.receiptSigner) effectiveProfile effectiveVersion effectivePolicy
      "ALTER PRINCIPAL"
    return cat.updatePrincipal
      { old with
        provideroid := effectiveProvideroid
        providerName := stmt.providerName.or old.providerName
        program := stmt.program.or old.program
        sandbox := stmt.sandbox.or old.sandbox
        runtimeClass := stmt.runtimeClass.or old.runtimeClass
        receiptSigner := stmt.receiptSigner.or old.receiptSigner
        attestationProfile := effectiveProfile
        attestationVersion := effectiveVersion
        attestationPolicy := effectivePolicy
        enabled := stmt.enabled.getD old.enabled }

def createToolCommand (session : PolicySession) (oids : OidSource) (stmt : CreateToolStmt)
    (cat : PolicyCatalog) : Except QxError PolicyCatalog := do
  let namespaceoid := session.rangeVarGetCreationNamespace stmt.toolName
  let schemaName := session.namespaceName namespaceoid
  let name := stmt.toolName.relname
  aclCheckCreate session namespaceoid
  qxValidateToolCosts stmt.tokenCost stmt.costUnits "CREATE TOOL"
  qxValidateToolSandbox (some stmt.sandbox)
  let principaloid ← qxValidateToolPrincipalBinding session cat namespaceoid session.userId
    (some stmt.principalName) (some stmt.sandbox)
  if let some policyName := stmt.policyName then
    let _ ← qxLookupNamespacePolicy session cat namespaceoid policyName
  if (cat.lookupToolByName namespaceoid name).isSome then
    ereport .duplicateObject
      s!"tool \"{text name}\" already exists in schema \"{schemaName}\""
  -- the columns that no command sets are stored as NULL
  let row : ToolRow :=
    { oid := oids.next .tool (cat.tools.map ToolRow.oid)
      name := name
      namespaceoid := namespaceoid
      ownerid := session.userId
      principaloid := principaloid
      enabled := true
      tokenCost := stmt.tokenCost
      costUnits := stmt.costUnits
      handler := some stmt.handler
      sandbox := some stmt.sandbox
      runtimeClass := none
      sandboxCeiling := none
      capabilityTags := none
      principalName := some stmt.principalName
      policy := stmt.policyName }
  return { cat with tools := cat.tools ++ [row] }

def alterToolCommand (session : PolicySession) (stmt : AlterToolStmt) (cat : PolicyCatalog) :
    Except QxError PolicyCatalog := do
  if stmt.handler.isNone && stmt.sandbox.isNone && stmt.principalName.isNone &&
      stmt.policyName.isNone && stmt.tokenCost.isNone && stmt.costUnits.isNone &&
      stmt.enabled.isNone then
    ereport .syntaxError "ALTER TOOL requires at least one change"
  let name := text stmt.toolName.relname
  match qxLookupToolTuple session cat stmt.toolName with
  | none => ereport .undefinedObject s!"tool \"{name}\" does not exist"
  | some old =>
    if !session.hasPrivsOfRole session.userId old.ownerid then
      ereportDetail .insufficientPrivilege s!"permission denied to alter tool \"{name}\""
        "Only the tool owner or a member of that role may alter it."
    if stmt.sandbox.isSome then qxValidateToolSandbox stmt.sandbox
    if stmt.tokenCost.isSome || stmt.costUnits.isSome then
      qxValidateToolCosts (stmt.tokenCost.getD old.tokenCost) (stmt.costUnits.getD old.costUnits)
        "ALTER TOOL"
    if let some policyName := stmt.policyName then
      let _ ← qxLookupNamespacePolicy session cat old.namespaceoid policyName
    let principaloid ← qxValidateToolPrincipalBinding session cat old.namespaceoid session.userId
      (stmt.principalName.or old.principalName) (stmt.sandbox.or old.sandbox)
    return cat.updateTool
      { old with
        handler := stmt.handler.or old.handler
        sandbox := stmt.sandbox.or old.sandbox
        principaloid := if stmt.principalName.isSome then principaloid else old.principaloid
        principalName := stmt.principalName.or old.principalName
        policy := stmt.policyName.or old.policy
        tokenCost := stmt.tokenCost.getD old.tokenCost
        costUnits := stmt.costUnits.getD old.costUnits
        enabled := stmt.enabled.getD old.enabled }

inductive PolicyCommand
  | createProvider (stmt : CreateProviderStmt)
  | alterProvider (stmt : AlterProviderStmt)
  | createPrincipal (stmt : CreatePrincipalStmt)
  | alterPrincipal (stmt : AlterPrincipalStmt)
  | createTool (stmt : CreateToolStmt)
  | alterTool (stmt : AlterToolStmt)

def PolicyCommand.execute (session : PolicySession) (oids : OidSource) (cat : PolicyCatalog) :
    PolicyCommand → Except QxError PolicyCatalog
  | createProvider stmt => createProviderCommand session oids stmt cat
  | alterProvider stmt => alterProviderCommand session stmt cat
  | createPrincipal stmt => createPrincipalCommand session oids stmt cat
  | alterPrincipal stmt => alterPrincipalCommand session stmt cat
  | createTool stmt => createToolCommand session oids stmt cat
  | alterTool stmt => alterToolCommand session stmt cat

/-- A command that raises leaves the catalogs as they were. -/
def PolicyCommand.step (session : PolicySession) (oids : OidSource) (cat : PolicyCatalog)
    (command : PolicyCommand) : PolicyCatalog :=
  match command.execute session oids cat with
  | .ok cat' => cat'
  | .error _ => cat

structure PolicyEvent where
  session : PolicySession
  oids : OidSource
  command : PolicyCommand

namespace PolicyCatalog

def initial (policies : List NamespacePolicyRow) : PolicyCatalog :=
  ⟨[], [], [], policies⟩

def next (cat : PolicyCatalog) (event : PolicyEvent) : PolicyCatalog :=
  event.command.step event.session event.oids cat

end PolicyCatalog

end QhapaqXian
