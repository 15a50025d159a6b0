import QhapaqXian.Authorization
import QhapaqXian.Library.Checks
import QhapaqXian.Library.Rows

/-!
# What a policy command changes

`CREATE` and `ALTER` of providers, principals and tools either raise and change nothing or make one
change to the catalogs, about which the checks of the command have established something.
-/

namespace QhapaqXian

open Library

variable {alg kind : CString} {namespaceoid oid : Oid}
  {policy profile runtimeClass sandbox signer version : Option CString} {session : PolicySession}
  {principal : PrincipalRow} {provider : ProviderRow} {command : String}

namespace ProviderRow

def effectiveKind (provider : ProviderRow) : CString :=
  nonEmptyOr provider.kind "loopback".toList

def effectiveReceiptAlg (provider : ProviderRow) : CString :=
  nonEmptyOr provider.receiptAlg "hmac-sha256".toList

def HasAttestation (provider : ProviderRow) : Prop :=
  provider.attestationProfile.isSome ∨ provider.attestationVersion.isSome ∨
    provider.attestationPolicy.isSome

end ProviderRow

def PrincipalRow.effectiveRuntimeClass (principal : PrincipalRow) (provider : ProviderRow) :
    CString :=
  nonEmptyOr principal.runtimeClass (qxDefaultRuntimeForProviderKind (some provider.effectiveKind))

/-- The principal is one that the provider's kind, receipts and attestation allow. -/
structure ProviderRow.Backs (provider : ProviderRow) (principal : PrincipalRow) : Prop where
  runtimeClass : principal.effectiveRuntimeClass provider =
    qxDefaultRuntimeForProviderKind (some provider.effectiveKind)
  sandbox : principal.effectiveRuntimeClass provider ≠ "host".toList →
    principal.sandbox = some "isolated".toList
  signer : provider.effectiveReceiptAlg = "ed25519".toList →
    isNullOrEmpty principal.receiptSigner = false
  attestation : provider.HasAttestation →
    principal.attestationProfile = provider.attestationProfile ∧
    principal.attestationVersion = provider.attestationVersion ∧
    principal.attestationPolicy = provider.attestationPolicy

lemma qxValidateProviderKind_ok (h : qxValidateProviderKind (some kind) command = .ok ()) :
    kind = "loopback".toList ∨ kind = "remote".toList ∨ kind = "container".toList ∨
      kind = "microvm".toList := by
  simp only [qxValidateProviderKind, ereport, ereportDetail, raise_eq_ok_iff,
    raise_last_eq_ok_iff, Option.getD_some] at h
  by_contra hnone
  push Not at hnone
  exact h.2.1 hnone

lemma qxValidatePrincipalRuntimeBindingValues_ok
    (h : qxValidatePrincipalRuntimeBindingValues session kind alg runtimeClass sandbox signer
      profile version policy command = .ok ()) :
    nonEmptyOr runtimeClass (qxDefaultRuntimeForProviderKind (some kind)) =
      qxDefaultRuntimeForProviderKind (some kind) ∧
    (nonEmptyOr runtimeClass (qxDefaultRuntimeForProviderKind (some kind)) ≠ "host".toList →
      sandbox = some "isolated".toList) ∧
    (alg = "ed25519".toList → isNullOrEmpty signer = false) := by
  simp only [qxValidatePrincipalRuntimeBindingValues, ereportDetail, bind_eq_ok_iff,
    exists_unit_iff, when_eq_ok_iff, raise_eq_ok_iff, raise_last_eq_ok_iff] at h
  obtain ⟨hkind, -, -, -, -, hhost, hcontainer, hmicrovm, hsandbox, hsigner, -⟩ := h
  refine ⟨?_, ?_, ?_⟩
  · rcases qxValidateProviderKind_ok hkind with rfl | rfl | rfl | rfl
    · by_contra hne
      exact hhost ⟨.inl rfl, hne⟩
    · by_contra hne
      exact hhost ⟨.inr rfl, hne⟩
    · by_contra hne
      exact hcontainer ⟨rfl, hne⟩
    · by_contra hne
      exact hmicrovm ⟨rfl, hne⟩
  · intro hne
    by_contra hbox
    exact hsandbox ⟨hne, hbox⟩
  · intro halg
    by_contra hnull
    exact hsigner ⟨halg, by simpa using hnull⟩

lemma kind_ne_nil_of_values_ok
    (h : qxValidatePrincipalRuntimeBindingValues session kind alg runtimeClass sandbox signer
      profile version policy command = .ok ()) : kind ≠ [] := by
  simp only [qxValidatePrincipalRuntimeBindingValues, bind_eq_ok_iff, exists_unit_iff] at h
  rcases qxValidateProviderKind_ok h.1 with rfl | rfl | rfl | rfl <;> decide

lemma qxValidateAttestationBindingValues_ok {providerProfile providerVersion providerPolicy : Option CString}
    (h : qxValidateAttestationBindingValues providerProfile providerVersion providerPolicy
      profile version policy command = .ok ())
    (hsome : providerProfile.isSome ∨ providerVersion.isSome ∨ providerPolicy.isSome) :
    profile = providerProfile ∧ version = providerVersion ∧ policy = providerPolicy := by
  have hbundle : ¬(providerProfile.isNone && providerVersion.isNone && providerPolicy.isNone) =
      true := by
    simp only [Option.isSome_iff_ne_none, ne_eq] at hsome
    simp only [Bool.and_eq_true, Option.isNone_iff_eq_none, not_and, and_imp]
    tauto
  simp only [qxValidateAttestationBindingValues, ereportDetail, if_neg hbundle, raise_eq_ok_iff,
    raise_last_eq_ok_iff] at h
  obtain ⟨-, hequal, -⟩ := h
  push Not at hequal
  exact ⟨hequal.1.symm, hequal.2.1.symm, hequal.2.2.symm⟩

/-- The two checks of a binding make the provider back the principal. The runtime class is checked
as it takes effect, which need not be the text that is stored. -/
lemma ProviderRow.backs_of_checks
    (hruntime : nonEmptyOr runtimeClass
      (qxDefaultRuntimeForProviderKind (some provider.effectiveKind)) =
      principal.effectiveRuntimeClass provider)
    (hvalues : qxValidatePrincipalRuntimeBindingValues session provider.effectiveKind
      provider.effectiveReceiptAlg runtimeClass principal.sandbox principal.receiptSigner
      principal.attestationProfile principal.attestationVersion principal.attestationPolicy
      command = .ok ())
    (hattestation : qxValidateAttestationBindingValues provider.attestationProfile
      provider.attestationVersion provider.attestationPolicy principal.attestationProfile
      principal.attestationVersion principal.attestationPolicy command = .ok ()) :
    provider.Backs principal := by
  obtain ⟨hdemanded, hsandbox, hsigner⟩ := qxValidatePrincipalRuntimeBindingValues_ok hvalues
  rw [hruntime] at hdemanded hsandbox
  exact ⟨hdemanded, hsandbox, hsigner, qxValidateAttestationBindingValues_ok hattestation⟩

/-- What a principal's effective values must be under a provider's to pass authorisation. -/
structure RuntimeBinding (kind runtime alg : CString) (sandbox signer : Option CString) : Prop where
  supported : runtime = "host".toList ∨ runtime = "container".toList ∨ runtime = "microvm".toList
  host : kind = "loopback".toList ∨ kind = "remote".toList → runtime = "host".toList
  container : kind = "container".toList → runtime = "container".toList
  microvm : kind = "microvm".toList → runtime = "microvm".toList
  isolated : runtime ≠ "host".toList → sandbox = some "isolated".toList
  signed : alg = "ed25519".toList → isNullOrEmpty signer = false

lemma Security.qxValidatePrincipalRuntimeBinding_ok_iff
    {name providerKind receiptAlg : Option CString} {context : String} :
    Security.qxValidatePrincipalRuntimeBinding name providerKind runtimeClass sandbox signer
      receiptAlg context = .ok () ↔
    RuntimeBinding (nonEmptyOr providerKind "loopback".toList)
      (nonEmptyOr runtimeClass (qxDefaultRuntimeForProviderKind
        (some (nonEmptyOr providerKind "loopback".toList))))
      (nonEmptyOr receiptAlg "hmac-sha256".toList) sandbox signer := by
  simp only [Security.qxValidatePrincipalRuntimeBinding, ereport, ereportDetail, raise_eq_ok_iff,
    raise_last_eq_ok_iff, pure_eq_ok_iff, and_true, ne_eq, not_and_or, not_not,
    Bool.not_eq_true, ← imp_iff_not_or]
  constructor
  · rintro ⟨hsupported, hhost, hcontainer, hmicrovm, hisolated, hsigned⟩
    exact ⟨hsupported, hhost, hcontainer, hmicrovm, or_iff_not_imp_left.mp hisolated, hsigned⟩
  · rintro ⟨hsupported, hhost, hcontainer, hmicrovm, hisolated, hsigned⟩
    exact ⟨hsupported, hhost, hcontainer, hmicrovm, or_iff_not_imp_left.mpr hisolated, hsigned⟩

lemma ProviderRow.Backs.runtimeBinding (h : provider.Backs principal) :
    RuntimeBinding provider.effectiveKind (principal.effectiveRuntimeClass provider)
      provider.effectiveReceiptAlg principal.sandbox principal.receiptSigner where
  supported := by
    rw [h.runtimeClass, qxDefaultRuntimeForProviderKind]
    split_ifs
    · exact .inr (.inl rfl)
    · exact .inr (.inr rfl)
    · exact .inl rfl
  host := by
    rw [h.runtimeClass]
    rintro (hkind | hkind) <;> rw [hkind] <;> decide
  container := by
    rw [h.runtimeClass]
    intro hkind
    rw [hkind]
    decide
  microvm := by
    rw [h.runtimeClass]
    intro hkind
    rw [hkind]
    decide
  isolated := h.sandbox
  signed := h.signer


/-! ## What a command changes -/

def withinCeiling (sandbox ceiling : Option CString) : Bool :=
  match qxSandboxRank sandbox, qxSandboxRank ceiling with
  | .ok rank, .ok ceilingRank => decide (rank ≤ ceilingRank)
  | _, _ => false

def exceedsCeiling (sandbox ceiling : Option CString) : Bool :=
  match qxSandboxRank sandbox, qxSandboxRank ceiling with
  | .ok rank, .ok ceilingRank => decide (ceilingRank < rank)
  | _, _ => false

/-- An `ALTER PRINCIPAL` that sets a sandbox leaves it at least as high as that of every tool bound
to the principal. -/
def sparesBoundTools (cat : PolicyCatalog) (event : PolicyEvent) : Prop :=
  match event.command with
  | .alterPrincipal stmt =>
    ∀ sandbox ∈ stmt.sandbox, ∀ principal ∈
      qxLookupPrincipalTuple event.session cat stmt.principalName,
      ∀ tool ∈ cat.tools, tool.principaloid = principal.oid →
        exceedsCeiling tool.sandbox (some sandbox) = false
  | _ => True

def PrincipalRow.key (row : PrincipalRow) : Oid × CString :=
  (row.namespaceoid, row.name)

/-- The tool names the principal, of its own schema, that its identifier refers to. -/
structure PrincipalRow.Bound (principal : PrincipalRow) (tool : ToolRow) : Prop where
  oid : principal.oid = tool.principaloid
  namespaceoid : principal.namespaceoid = tool.namespaceoid
  name : tool.principalName = some principal.name

/-- What a successful command does to the catalogs, with what it has checked. -/
inductive PolicyCatalog.Change (cat : PolicyCatalog) (event : PolicyEvent) : PolicyCatalog → Prop
  | addProvider (row : ProviderRow) (fresh : row.oid ∉ cat.providers.map ProviderRow.oid)
      (valid : row.oid ≠ invalidOid) :
      Change cat event { cat with providers := cat.providers ++ [row] }
  | setProvider (old row : ProviderRow) (stored : old ∈ cat.providers) (oid : old.oid = row.oid)
      (backs : ∀ principal ∈ cat.principals, principal.provideroid = row.oid →
        row.Backs principal) :
      Change cat event (cat.updateProvider row)
  | addPrincipal (provider : ProviderRow) (row : PrincipalRow) (bound : provider ∈ cat.providers)
      (oid : provider.oid = row.provideroid) (backs : provider.Backs row)
      (fresh : row.oid ∉ cat.principals.map PrincipalRow.oid)
      (freshName : row.key ∉ cat.principals.map PrincipalRow.key) :
      Change cat event { cat with principals := cat.principals ++ [row] }
  | setPrincipal (provider : ProviderRow) (old row : PrincipalRow) (stored : old ∈ cat.principals)
      (oid : old.oid = row.oid) (key : old.key = row.key) (bound : provider ∈ cat.providers)
      (provideroid : provider.oid = row.provideroid) (backs : provider.Backs row)
      (spared : sparesBoundTools cat event → ∀ tool ∈ cat.tools, tool.principaloid = old.oid →
        withinCeiling tool.sandbox old.sandbox → withinCeiling tool.sandbox row.sandbox) :
      Change cat event (cat.updatePrincipal row)
  | addTool (principal : PrincipalRow) (row : ToolRow) (bound : principal ∈ cat.principals)
      (names : principal.Bound row) (within : withinCeiling row.sandbox principal.sandbox) :
      Change cat event { cat with tools := cat.tools ++ [row] }
  | setTool (principal : PrincipalRow) (old row : ToolRow) (stored : old ∈ cat.tools)
      (bound : principal ∈ cat.principals)
      (namespaceoid : row.namespaceoid = old.namespaceoid ∧
        principal.namespaceoid = old.namespaceoid)
      (name : row.principalName = some principal.name)
      (oid : principal.oid = row.principaloid ∨
        row.principaloid = old.principaloid ∧ row.principalName = old.principalName)
      (within : withinCeiling row.sandbox principal.sandbox) :
      Change cat event (cat.updateTool row)

section Lookups

variable {row : PrincipalRow} {name : RangeVar}
variable {session : PolicySession} {cat : PolicyCatalog}

lemma lookupProviderByOid_mem {row : ProviderRow} (h : cat.lookupProviderByOid oid = some row) :
    row ∈ cat.providers ∧ row.oid = oid :=
  ⟨List.mem_of_find?_eq_some h, by simpa using List.find?_some h⟩

lemma providerByOid_mem {row : ProviderRow} (h : providerByOid cat oid = .ok row) :
    row ∈ cat.providers ∧ row.oid = oid := by
  unfold providerByOid at h
  cases hfind : cat.lookupProviderByOid oid with
  | none => simp [hfind, cacheLookupFailed, ereport] at h
  | some found =>
    rw [hfind, Except.ok.injEq] at h
    exact lookupProviderByOid_mem (h ▸ hfind)

lemma lookupPrincipalByName_mem {name : CString}
    (h : cat.lookupPrincipalByName namespaceoid name = some row) :
    row ∈ cat.principals ∧ row.namespaceoid = namespaceoid ∧ row.name = name :=
  ⟨List.mem_of_find?_eq_some h, by simpa using List.find?_some h⟩

lemma lookupPrincipalByName_none {name : CString}
    (h : ¬(cat.lookupPrincipalByName namespaceoid name).isSome = true) :
    (namespaceoid, name) ∉ cat.principals.map PrincipalRow.key := by
  rw [Option.isSome_iff_ne_none, not_not] at h
  rintro hmem
  obtain ⟨row, hrow, hkey⟩ := List.mem_map.mp hmem
  obtain ⟨hnsp, hname⟩ := Prod.mk.inj hkey
  have hnone := List.find?_eq_none.mp h row hrow
  simp [hnsp, hname] at hnone

lemma qxLookupProviderTuple_mem {row : ProviderRow}
    (h : qxLookupProviderTuple session cat name = some row) : row ∈ cat.providers := by
  obtain ⟨nsp, -, hfind⟩ := List.exists_of_findSome?_eq_some h
  exact List.mem_of_find?_eq_some hfind

lemma qxLookupPrincipalTuple_mem (h : qxLookupPrincipalTuple session cat name = some row) :
    row ∈ cat.principals := by
  obtain ⟨nsp, -, hfind⟩ := List.exists_of_findSome?_eq_some h
  exact List.mem_of_find?_eq_some hfind

lemma qxLookupToolTuple_mem {row : ToolRow} (h : qxLookupToolTuple session cat name = some row) :
    row ∈ cat.tools := by
  obtain ⟨nsp, -, hfind⟩ := List.exists_of_findSome?_eq_some h
  exact List.mem_of_find?_eq_some hfind

lemma qxLookupProvider_ok {name : CString} {row : ProviderRow}
    (h : qxLookupProvider session cat namespaceoid name = .ok row) : row ∈ cat.providers := by
  simp only [qxLookupProvider, ereport, raise_eq_ok_iff] at h
  obtain ⟨-, h⟩ := h
  cases hfind : cat.lookupProviderByName namespaceoid name with
  | none => simp [hfind, ereportDetail] at h
  | some found =>
    simp only [hfind, pure_eq_ok_iff] at h
    exact h ▸ List.mem_of_find?_eq_some hfind

lemma qxValidatePrincipalProviderBinding_ok {ownerid : Oid} {name : CString} {row : ProviderRow}
    (h : qxValidatePrincipalProviderBinding session cat namespaceoid ownerid name = .ok row) :
    row ∈ cat.providers := by
  simp only [qxValidatePrincipalProviderBinding, ereport, ereportDetail, bind_eq_ok_iff,
    raise_eq_ok_iff, pure_eq_ok_iff] at h
  obtain ⟨found, hfound, -, -, rfl⟩ := h
  exact qxLookupProvider_ok hfound

lemma qxLookupPrincipal_ok {name : Option CString}
    (h : qxLookupPrincipal session cat namespaceoid name = .ok row) :
    row ∈ cat.principals ∧ row.namespaceoid = namespaceoid ∧ name = some row.name := by
  simp only [qxLookupPrincipal, ereport, raise_eq_ok_iff] at h
  obtain ⟨hsome, h⟩ := h
  cases name with
  | none => exact absurd rfl hsome
  | some name =>
    rw [Option.getD_some] at h
    cases hfind : cat.lookupPrincipalByName namespaceoid name with
    | none => simp [hfind, ereportDetail] at h
    | some found =>
      simp only [hfind, pure_eq_ok_iff] at h
      obtain ⟨hmem, hnsp, hname⟩ := lookupPrincipalByName_mem (h ▸ hfind)
      exact ⟨hmem, hnsp, by rw [hname]⟩

lemma qxValidateToolPrincipalBinding_ok {ownerid : Oid} {name : Option CString}
    (h : qxValidateToolPrincipalBinding session cat namespaceoid ownerid name sandbox = .ok oid) :
    ∃ principal ∈ cat.principals, principal.oid = oid ∧ principal.namespaceoid = namespaceoid ∧
      name = some principal.name ∧ withinCeiling sandbox principal.sandbox := by
  simp only [qxValidateToolPrincipalBinding, ereport, ereportDetail, bind_eq_ok_iff,
    raise_eq_ok_iff, pure_eq_ok_iff] at h
  obtain ⟨principal, hprincipal, -, -, rank, hrank, ceiling, hceiling, hle, hoid⟩ := h
  obtain ⟨hmem, hnsp, hname⟩ := qxLookupPrincipal_ok hprincipal
  refine ⟨principal, hmem, hoid, hnsp, hname, ?_⟩
  simp only [withinCeiling, hrank, hceiling, decide_eq_true_eq]
  omega

end Lookups


section Commands

variable {session : PolicySession} {oids : OidSource} {cat cat' : PolicyCatalog}
  {event : PolicyEvent}

lemma createProviderCommand_change {stmt : CreateProviderStmt}
    (h : createProviderCommand session oids stmt cat = .ok cat') : cat.Change event cat' := by
  simp only [createProviderCommand, ereport, bind_eq_ok_iff, exists_unit_iff, raise_eq_ok_iff,
    pure_eq_ok_iff] at h
  obtain ⟨-, -, -, -, -, -, -, rfl⟩ := h
  exact .addProvider _ (oids.next_fresh _ _) (oids.next_valid _ _)

lemma qxValidateProviderBoundPrincipals_ok {provideroid : Oid}
    {principals : List PrincipalRow}
    (h : qxValidateProviderBoundPrincipals session provideroid kind alg profile version policy
      command principals = .ok ()) :
    ∀ principal ∈ principals, principal.provideroid = provideroid →
      ∃ scope, qxValidatePrincipalRuntimeBindingValues session kind alg principal.runtimeClass
          principal.sandbox principal.receiptSigner principal.attestationProfile
          principal.attestationVersion principal.attestationPolicy scope = .ok () ∧
        qxValidateAttestationBindingValues profile version policy principal.attestationProfile
          principal.attestationVersion principal.attestationPolicy scope = .ok () := by
  induction principals with
  | nil => exact fun _ hmem => absurd hmem List.not_mem_nil
  | cons first rest ih =>
    simp only [qxValidateProviderBoundPrincipals] at h
    by_cases hbound : first.provideroid = provideroid
    · simp only [hbound, beq_self_eq_true, if_true, bind_eq_ok_iff, exists_unit_iff] at h
      rintro principal (_ | ⟨_, hmem⟩) hprincipal
      · exact ⟨_, h.1, h.2.1⟩
      · exact ih h.2.2 principal hmem hprincipal
    · rw [if_neg (by simpa using hbound)] at h
      rintro principal (_ | ⟨_, hmem⟩) hprincipal
      · exact absurd hprincipal hbound
      · exact ih h principal hmem hprincipal

lemma nonEmptyOr_eq_getD {kind : Option CString} (h : kind.getD [] ≠ []) (fallback : CString) :
    nonEmptyOr kind fallback = kind.getD [] := by
  match kind with
  | none => exact absurd rfl h
  | some [] => exact absurd rfl h
  | some (c :: cs) => rfl

lemma alterProviderCommand_change {stmt : AlterProviderStmt}
    (h : alterProviderCommand session stmt cat = .ok cat') : cat.Change event cat' := by
  simp only [alterProviderCommand, ereport, ereportDetail, raise_eq_ok_iff] at h
  obtain ⟨-, h⟩ := h
  cases hlookup : qxLookupProviderTuple session cat stmt.providerName with
  | none => simp [hlookup] at h
  | some old =>
    simp only [hlookup, raise_eq_ok_iff, when_eq_ok_iff, bind_eq_ok_iff, exists_unit_iff,
      pure_eq_ok_iff] at h
    obtain ⟨-, -, -, -, -, -, -, -, -, hprincipals, rfl⟩ := h
    refine .setProvider old _ (qxLookupProviderTuple_mem hlookup) rfl ?_
    intro principal hmem hbound
    obtain ⟨scope, hvalues, hattestation⟩ :=
      qxValidateProviderBoundPrincipals_ok hprincipals principal hmem hbound
    rw [← nonEmptyOr_eq_getD (kind_ne_nil_of_values_ok hvalues) "loopback".toList] at hvalues
    exact ProviderRow.backs_of_checks rfl hvalues hattestation

lemma ProviderRow.backs_of_runtimeBinding
    {provideroid : Oid}
    (hprovider : providerByOid cat provideroid = .ok provider)
    (h : qxValidatePrincipalRuntimeBinding session cat provideroid runtimeClass principal.sandbox
      principal.receiptSigner profile version policy command = .ok ())
    (hruntime : nonEmptyOr runtimeClass
      (qxDefaultRuntimeForProviderKind (some provider.effectiveKind)) =
      principal.effectiveRuntimeClass provider)
    (hprofile : profile.or provider.attestationProfile = principal.attestationProfile)
    (hversion : version.or provider.attestationVersion = principal.attestationVersion)
    (hpolicy : policy.or provider.attestationPolicy = principal.attestationPolicy) :
    provider.Backs principal := by
  simp only [qxValidatePrincipalRuntimeBinding, hprovider, bind_eq_ok_iff, exists_unit_iff,
    Except.ok.injEq, exists_eq_left', hprofile, hversion, hpolicy] at h
  exact ProviderRow.backs_of_checks hruntime h.1 h.2

lemma createPrincipalCommand_change {stmt : CreatePrincipalStmt}
    (hoids : (cat.providers.map ProviderRow.oid).Nodup)
    (h : createPrincipalCommand session oids stmt cat = .ok cat') : cat.Change event cat' := by
  simp only [createPrincipalCommand, ereport, bind_eq_ok_iff, exists_unit_iff, raise_eq_ok_iff,
    pure_eq_ok_iff] at h
  obtain ⟨-, -, -, provider, hprovider, hbinding, hname, rfl⟩ := h
  have hmem := qxValidatePrincipalProviderBinding_ok hprovider
  have hfound : providerByOid cat provider.oid = .ok provider := by
    rw [providerByOid, PolicyCatalog.lookupProviderByOid, find?_key_eq_some hoids hmem]
  refine .addPrincipal provider _ hmem rfl ?_ (oids.next_fresh _ _)
    (lookupPrincipalByName_none hname)
  refine ProviderRow.backs_of_runtimeBinding hfound hbinding rfl ?_ ?_ ?_
  · simp [Option.or_assoc]
  · simp [Option.or_assoc]
  · simp [Option.or_assoc]

lemma nonEmptyOr_of_ne_nil {value : CString} (h : value ≠ []) (fallback : CString) :
    nonEmptyOr (some value) fallback = value := by
  cases value with
  | nil => exact absurd rfl h
  | cons c cs => rfl

lemma qxDefaultRuntimeForProviderKind_ne_nil (kind : Option CString) :
    qxDefaultRuntimeForProviderKind kind ≠ [] := by
  unfold qxDefaultRuntimeForProviderKind
  split_ifs <;> decide

lemma qxSandboxRank_of_valid {sandbox : CString}
    (h : qxValidateToolSandbox (some sandbox) = .ok ()) :
    ∃ rank, qxSandboxRank (some sandbox) = .ok rank := by
  simp only [qxValidateToolSandbox] at h
  split at h
  · next hsupported => rcases hsupported with rfl | rfl | rfl <;> exact ⟨_, rfl⟩
  · simp [ereportDetail] at h

lemma withinCeiling_of_not_exceeds {tool old new : Option CString} {rank : Nat}
    (hwithin : withinCeiling tool old) (hrank : qxSandboxRank new = .ok rank)
    (hexceeds : exceedsCeiling tool new = false) : withinCeiling tool new := by
  unfold withinCeiling at hwithin ⊢
  unfold exceedsCeiling at hexceeds
  cases htool : qxSandboxRank tool with
  | error e => simp [htool] at hwithin
  | ok toolRank =>
    simp only [htool, hrank, decide_eq_false_iff_not, decide_eq_true_eq] at hexceeds ⊢
    omega

lemma setPrincipal_change {stmt : AlterPrincipalStmt} {old row : PrincipalRow}
    (hcommand : event.command = .alterPrincipal stmt)
    (hlookup : qxLookupPrincipalTuple event.session cat stmt.principalName = some old)
    (hoid : old.oid = row.oid) (hkey : old.key = row.key)
    (hrow : row.sandbox = stmt.sandbox.or old.sandbox)
    (hsandbox : stmt.sandbox.isSome = true → qxValidateToolSandbox stmt.sandbox = .ok ())
    (hprovider : providerByOid cat row.provideroid = .ok provider) (hbacks : provider.Backs row) :
    cat.Change event (cat.updatePrincipal row) := by
  obtain ⟨hbound, hprovideroid⟩ := providerByOid_mem hprovider
  refine .setPrincipal provider old row (qxLookupPrincipalTuple_mem hlookup) hoid hkey hbound
    hprovideroid hbacks ?_
  intro hspares tool htool hprincipal hwithin
  cases hset : stmt.sandbox with
  | none =>
    rw [hrow, hset, Option.none_or]
    exact hwithin
  | some sandbox =>
    rw [hset] at hsandbox
    obtain ⟨rank, hrank⟩ := qxSandboxRank_of_valid (hsandbox rfl)
    simp only [sparesBoundTools, hcommand] at hspares
    rw [hrow, hset, Option.some_or]
    exact withinCeiling_of_not_exceeds hwithin hrank
      (hspares sandbox hset old hlookup tool htool hprincipal)

lemma alterPrincipalCommand_change {stmt : AlterPrincipalStmt}
    (hcommand : event.command = .alterPrincipal stmt)
    (h : alterPrincipalCommand event.session stmt cat = .ok cat') : cat.Change event cat' := by
  simp only [alterPrincipalCommand, ereport, ereportDetail, raise_eq_ok_iff] at h
  obtain ⟨-, h⟩ := h
  cases hlookup : qxLookupPrincipalTuple event.session cat stmt.principalName with
  | none => simp [hlookup] at h
  | some old =>
    have hruntime (kind : Option CString) := nonEmptyOr_of_ne_nil
      (nonEmptyOr_ne_nil (stmt.runtimeClass.or old.runtimeClass)
        (qxDefaultRuntimeForProviderKind_ne_nil kind)) (qxDefaultRuntimeForProviderKind kind)
    cases hname : stmt.providerName with
    | none =>
      simp only [hlookup, hname, raise_eq_ok_iff, when_eq_ok_iff, bind_eq_ok_iff, exists_unit_iff,
        pure_eq_ok_iff, exists_eq_left'] at h
      obtain ⟨-, -, hsandbox, -, -, -, provider, hprovider, hbinding, rfl⟩ := h
      refine setPrincipal_change hcommand hlookup rfl rfl rfl hsandbox hprovider ?_
      exact ProviderRow.backs_of_runtimeBinding hprovider hbinding (hruntime _)
        (by simp [Option.or_assoc]) (by simp [Option.or_assoc]) (by simp [Option.or_assoc])
    | some name =>
      simp only [hlookup, hname, raise_eq_ok_iff, when_eq_ok_iff, bind_eq_ok_iff, exists_unit_iff,
        pure_eq_ok_iff, exists_eq_left'] at h
      obtain ⟨-, bound, -, -, hsandbox, -, -, -, provider, hprovider, hbinding, rfl⟩ := h
      refine setPrincipal_change hcommand hlookup rfl rfl rfl hsandbox hprovider ?_
      exact ProviderRow.backs_of_runtimeBinding hprovider hbinding (hruntime _)
        (by simp [Option.or_assoc]) (by simp [Option.or_assoc]) (by simp [Option.or_assoc])

lemma createToolCommand_change {stmt : CreateToolStmt}
    (h : createToolCommand session oids stmt cat = .ok cat') : cat.Change event cat' := by
  simp only [createToolCommand, ereport, bind_eq_ok_iff, exists_unit_iff] at h
  obtain ⟨-, -, -, oid, hbinding, h⟩ := h
  obtain ⟨principal, hmem, hoid, hnsp, hname, hwithin⟩ :=
    qxValidateToolPrincipalBinding_ok hbinding
  cases hpolicy : stmt.policyName with
  | none =>
    simp only [hpolicy, raise_eq_ok_iff, pure_eq_ok_iff] at h
    obtain ⟨-, rfl⟩ := h
    exact .addTool principal _ hmem ⟨hoid, hnsp, hname⟩ hwithin
  | some policyName =>
    simp only [hpolicy, bind_eq_ok_iff, raise_eq_ok_iff, pure_eq_ok_iff] at h
    obtain ⟨-, -, -, rfl⟩ := h
    exact .addTool principal _ hmem ⟨hoid, hnsp, hname⟩ hwithin

/-- The end of `ALTER TOOL`: the row of the tool with its principal, which is looked up by name even
when the binding is left as it is. -/
lemma setTool_change {stmt : AlterToolStmt} {old row : ToolRow}
    (hlookup : qxLookupToolTuple session cat stmt.toolName = some old)
    (hbinding : qxValidateToolPrincipalBinding session cat old.namespaceoid session.userId
      row.principalName row.sandbox = .ok oid)
    (hnsp : row.namespaceoid = old.namespaceoid)
    (hname : row.principalName = stmt.principalName.or old.principalName)
    (hoid : row.principaloid =
      if stmt.principalName.isSome = true then oid else old.principaloid) :
    cat.Change event (cat.updateTool row) := by
  obtain ⟨principal, hmem, hprincipaloid, hprincipalnsp, hprincipal, hwithin⟩ :=
    qxValidateToolPrincipalBinding_ok hbinding
  refine .setTool principal old row (qxLookupToolTuple_mem hlookup) hmem ⟨hnsp, hprincipalnsp⟩
    hprincipal ?_ hwithin
  cases hset : stmt.principalName with
  | none =>
    rw [hset] at hoid hname
    exact .inr ⟨hoid, hname⟩
  | some name =>
    rw [hset] at hoid
    exact .inl (hprincipaloid.trans hoid.symm)

lemma alterToolCommand_change {stmt : AlterToolStmt}
    (h : alterToolCommand session stmt cat = .ok cat') : cat.Change event cat' := by
  simp only [alterToolCommand, ereport, ereportDetail, raise_eq_ok_iff] at h
  obtain ⟨-, h⟩ := h
  cases hlookup : qxLookupToolTuple session cat stmt.toolName with
  | none => simp [hlookup] at h
  | some old =>
    cases hpolicy : stmt.policyName with
    | none =>
      simp only [hlookup, hpolicy, raise_eq_ok_iff, when_eq_ok_iff, bind_eq_ok_iff,
        pure_eq_ok_iff] at h
      obtain ⟨-, -, -, oid, hbinding, rfl⟩ := h
      exact setTool_change hlookup hbinding rfl rfl rfl
    | some policyName =>
      simp only [hlookup, hpolicy, raise_eq_ok_iff, when_eq_ok_iff, bind_eq_ok_iff,
        pure_eq_ok_iff] at h
      obtain ⟨-, -, -, -, -, oid, hbinding, rfl⟩ := h
      exact setTool_change hlookup hbinding rfl rfl rfl

/-- A command raises and changes nothing, or it makes one of the changes. -/
theorem PolicyCatalog.next_change (hoids : (cat.providers.map ProviderRow.oid).Nodup)
    (event : PolicyEvent) : cat.next event = cat ∨ cat.Change event (cat.next event) := by
  unfold PolicyCatalog.next PolicyCommand.step
  cases hexecute : event.command.execute event.session event.oids cat with
  | error e => exact .inl rfl
  | ok cat' =>
    refine .inr ?_
    cases hcommand : event.command with
    | createProvider stmt =>
      rw [hcommand] at hexecute
      exact createProviderCommand_change hexecute
    | alterProvider stmt =>
      rw [hcommand] at hexecute
      exact alterProviderCommand_change hexecute
    | createPrincipal stmt =>
      rw [hcommand] at hexecute
      exact createPrincipalCommand_change hoids hexecute
    | alterPrincipal stmt =>
      rw [hcommand] at hexecute
      exact alterPrincipalCommand_change hcommand hexecute
    | createTool stmt =>
      rw [hcommand] at hexecute
      exact createToolCommand_change hexecute
    | alterTool stmt =>
      rw [hcommand] at hexecute
      exact alterToolCommand_change hexecute

end Commands

end QhapaqXian
