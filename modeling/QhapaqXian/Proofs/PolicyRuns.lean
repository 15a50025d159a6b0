import QhapaqXian.Library.Runs
import QhapaqXian.Proofs.PolicyChanges

/-!
# Runs of the policy commands

What holds in every state that the commands reach one at a time: a principal stays one that its
provider backs, whichever of the two is altered, and a tool keeps within the sandbox of its
principal as long as no principal is lowered below a tool.
-/

namespace QhapaqXian

open Library

variable {principal : PrincipalRow}

/-! ## Invariants of every run -/

/-- Identifiers and names are unique, every principal has a provider that backs it and every tool
has a principal. -/
structure PolicyCatalog.Sound (cat : PolicyCatalog) : Prop where
  provider_oids : (cat.providers.map ProviderRow.oid).Nodup
  provider_valid : ∀ provider ∈ cat.providers, provider.oid ≠ invalidOid
  principal_oids : (cat.principals.map PrincipalRow.oid).Nodup
  principal_names : (cat.principals.map PrincipalRow.key).Nodup
  principal_backed : ∀ principal ∈ cat.principals,
    ∃ provider ∈ cat.providers, provider.oid = principal.provideroid ∧ provider.Backs principal
  tool_bound : ∀ tool ∈ cat.tools, ∃ principal ∈ cat.principals, principal.Bound tool

/-- The sandbox of every tool is at most that of its principal. -/
def PolicyCatalog.WithinCeilings (cat : PolicyCatalog) : Prop :=
  ∀ tool ∈ cat.tools, ∃ principal ∈ cat.principals,
    principal.oid = tool.principaloid ∧ withinCeiling tool.sandbox principal.sandbox

namespace PolicyCatalog

variable {cat cat' : PolicyCatalog} {event : PolicyEvent}

lemma initial_sound (policies : List NamespacePolicyRow) : (initial policies).Sound :=
  ⟨List.nodup_nil, List.forall_mem_nil _, List.nodup_nil, List.nodup_nil, List.forall_mem_nil _,
    List.forall_mem_nil _⟩

lemma Sound.eq_of_bound (hsound : cat.Sound) {other : PrincipalRow} {tool : ToolRow}
    (hmem : principal ∈ cat.principals) (hother : other ∈ cat.principals)
    (hbound : other.Bound tool) (hnsp : principal.namespaceoid = tool.namespaceoid)
    (hname : tool.principalName = some principal.name) : principal = other := by
  refine List.inj_on_of_nodup_map hsound.principal_names hmem hother ?_
  have hnames : principal.name = other.name := Option.some.inj (hname.symm.trans hbound.name)
  rw [PrincipalRow.key, PrincipalRow.key, hnames, hnsp, hbound.namespaceoid]

lemma Sound.bound_setTool (hsound : cat.Sound) {old row : ToolRow}
    (hold : old ∈ cat.tools) (hmem : principal ∈ cat.principals)
    (hnsp : row.namespaceoid = old.namespaceoid ∧ principal.namespaceoid = old.namespaceoid)
    (hname : row.principalName = some principal.name)
    (hoid : principal.oid = row.principaloid ∨
      row.principaloid = old.principaloid ∧ row.principalName = old.principalName) :
    principal.Bound row := by
  refine ⟨?_, hnsp.2.trans hnsp.1.symm, hname⟩
  rcases hoid with hoid | ⟨hoid, hkept⟩
  · exact hoid
  · obtain ⟨other, hother, hbound⟩ := hsound.tool_bound old hold
    rw [hsound.eq_of_bound hmem hother hbound hnsp.2 (hkept.symm.trans hname), hoid, hbound.oid]

lemma Change.sound (hsound : cat.Sound) (hchange : cat.Change event cat') : cat'.Sound := by
  cases hchange with
  | addProvider row fresh valid =>
    refine { hsound with
      provider_oids := nodup_map_concat hsound.provider_oids fresh
      provider_valid := ?_
      principal_backed := ?_ }
    · intro provider hprovider
      rcases List.mem_append.mp hprovider with hold | hnew
      · exact hsound.provider_valid provider hold
      · rw [List.mem_singleton.mp hnew]
        exact valid
    · intro principal hprincipal
      obtain ⟨provider, hmem, hoid, hbacks⟩ := hsound.principal_backed principal hprincipal
      exact ⟨provider, List.mem_append_left _ hmem, hoid, hbacks⟩
  | setProvider old row stored oid backs =>
    refine { hsound with
      provider_oids := ?_
      provider_valid := ?_
      principal_backed := ?_ }
    · rw [updateProvider, map_replace fun other _ hother => hother]
      exact hsound.provider_oids
    · intro provider hprovider
      rcases mem_replace hprovider with rfl | ⟨hmem, -⟩
      · rw [← oid]
        exact hsound.provider_valid old stored
      · exact hsound.provider_valid provider hmem
    · intro principal hprincipal
      obtain ⟨provider, hmem, hoid, hbacks⟩ := hsound.principal_backed principal hprincipal
      by_cases hrow : provider.oid = row.oid
      · have hbound : principal.provideroid = row.oid := hoid ▸ hrow
        exact ⟨row, mem_replace_self hmem hrow, hbound.symm, backs principal hprincipal hbound⟩
      · exact ⟨provider, mem_replace_of_ne hmem hrow, hoid, hbacks⟩
  | addPrincipal provider row bound oid backs fresh freshName =>
    refine { hsound with
      principal_oids := nodup_map_concat hsound.principal_oids fresh
      principal_names := nodup_map_concat hsound.principal_names freshName
      principal_backed := ?_
      tool_bound := ?_ }
    · intro principal hprincipal
      rcases List.mem_append.mp hprincipal with hold | hnew
      · exact hsound.principal_backed principal hold
      · rw [List.mem_singleton.mp hnew]
        exact ⟨provider, bound, oid, backs⟩
    · intro tool htool
      obtain ⟨principal, hmem, hbound⟩ := hsound.tool_bound tool htool
      exact ⟨principal, List.mem_append_left _ hmem, hbound⟩
  | setPrincipal provider old row stored oid key bound provideroid backs spared =>
    have hold : ∀ other ∈ cat.principals, other.oid = row.oid → other = old := fun other hmem h =>
      List.inj_on_of_nodup_map hsound.principal_oids hmem stored (h.trans oid.symm)
    refine { hsound with
      principal_oids := ?_
      principal_names := ?_
      principal_backed := ?_
      tool_bound := ?_ }
    · rw [updatePrincipal, map_replace fun other _ hother => hother]
      exact hsound.principal_oids
    · rw [updatePrincipal, map_replace fun other hmem hother => hold other hmem hother ▸ key]
      exact hsound.principal_names
    · intro principal hprincipal
      rcases mem_replace hprincipal with rfl | ⟨hmem, -⟩
      · exact ⟨provider, bound, provideroid, backs⟩
      · exact hsound.principal_backed principal hmem
    · intro tool htool
      obtain ⟨principal, hmem, hbound⟩ := hsound.tool_bound tool htool
      by_cases hrow : principal.oid = row.oid
      · obtain rfl := hold principal hmem hrow
        obtain ⟨hnsp, hname⟩ := Prod.mk.inj key
        exact ⟨row, mem_replace_self hmem hrow, hrow.symm.trans hbound.oid,
          hnsp.symm.trans hbound.namespaceoid, hname ▸ hbound.name⟩
      · exact ⟨principal, mem_replace_of_ne hmem hrow, hbound⟩
  | addTool principal row bound names within =>
    refine { hsound with tool_bound := ?_ }
    intro tool htool
    rcases List.mem_append.mp htool with hold | hnew
    · exact hsound.tool_bound tool hold
    · rw [List.mem_singleton.mp hnew]
      exact ⟨principal, bound, names⟩
  | setTool principal old row stored bound namespaceoid name oid within =>
    refine { hsound with tool_bound := ?_ }
    intro tool htool
    rcases mem_replace htool with rfl | ⟨hmem, -⟩
    · exact ⟨principal, bound, hsound.bound_setTool stored bound namespaceoid name oid⟩
    · exact hsound.tool_bound tool hmem

lemma Change.withinCeilings (hsound : cat.Sound) (hwithin : cat.WithinCeilings)
    (hspares : sparesBoundTools cat event) (hchange : cat.Change event cat') :
    cat'.WithinCeilings := by
  cases hchange with
  | addProvider row fresh valid => exact hwithin
  | setProvider old row stored oid backs => exact hwithin
  | addPrincipal provider row bound oid backs fresh freshName =>
    intro tool htool
    obtain ⟨principal, hmem, hoid, hceiling⟩ := hwithin tool htool
    exact ⟨principal, List.mem_append_left _ hmem, hoid, hceiling⟩
  | setPrincipal provider old row stored oid key bound provideroid backs spared =>
    intro tool htool
    obtain ⟨principal, hmem, hoid, hceiling⟩ := hwithin tool htool
    by_cases hrow : principal.oid = row.oid
    · obtain rfl := List.inj_on_of_nodup_map hsound.principal_oids hmem stored
        (hrow.trans oid.symm)
      exact ⟨row, mem_replace_self hmem hrow, hrow.symm.trans hoid,
        spared hspares tool htool hoid.symm hceiling⟩
    · exact ⟨principal, mem_replace_of_ne hmem hrow, hoid, hceiling⟩
  | addTool principal row bound names within =>
    intro tool htool
    rcases List.mem_append.mp htool with hold | hnew
    · exact hwithin tool hold
    · rw [List.mem_singleton.mp hnew]
      exact ⟨principal, bound, names.oid, within⟩
  | setTool principal old row stored bound namespaceoid name oid within =>
    intro tool htool
    rcases mem_replace htool with rfl | ⟨hmem, -⟩
    · exact ⟨principal, bound,
        (hsound.bound_setTool stored bound namespaceoid name oid).oid, within⟩
    · exact hwithin tool hmem

lemma next_sound (hsound : cat.Sound) (event : PolicyEvent) : (cat.next event).Sound := by
  rcases next_change hsound.provider_oids event with hsame | hchange
  · rw [hsame]
    exact hsound
  · exact hchange.sound hsound

theorem sound_of_runsTo {allowed : PolicyCatalog → PolicyEvent → Prop}
    {policies : List NamespacePolicyRow} (h : RunsTo next allowed (initial policies) cat) :
    cat.Sound :=
  h.invariant (initial_sound policies) fun _ event hsound _ => next_sound hsound event

lemma Sound.lookupProviderByOid (hsound : cat.Sound) {provider : ProviderRow} {oid : Oid}
    (hmem : provider ∈ cat.providers) (hoid : provider.oid = oid) :
    cat.lookupProviderByOid oid = some provider :=
  hoid ▸ find?_key_eq_some hsound.provider_oids hmem

lemma Sound.lookupPrincipalByOid (hsound : cat.Sound) {oid : Oid}
    (hmem : principal ∈ cat.principals) (hoid : principal.oid = oid) :
    cat.lookupPrincipalByOid oid = some principal :=
  hoid ▸ find?_key_eq_some hsound.principal_oids hmem

end PolicyCatalog

/-- The sandbox rank of every tool is at most that of its principal, in every run in which no
`ALTER PRINCIPAL` puts a principal below one of its tools. -/
theorem tool_sandbox_within_principal {policies : List NamespacePolicyRow} {cat : PolicyCatalog}
    (h : RunsTo PolicyCatalog.next sparesBoundTools (.initial policies) cat) :
    ∀ tool ∈ cat.tools, ∃ principal,
      cat.lookupPrincipalByOid tool.principaloid = some principal ∧
      withinCeiling tool.sandbox principal.sandbox := by
  have hboth : cat.Sound ∧ cat.WithinCeilings := by
    refine h.invariant (P := fun cat => cat.Sound ∧ cat.WithinCeilings)
      ⟨PolicyCatalog.initial_sound policies, List.forall_mem_nil _⟩ ?_
    intro cat event hboth hspares
    obtain ⟨hsound, hwithin⟩ := hboth
    rcases PolicyCatalog.next_change hsound.provider_oids event with hsame | hchange
    · rw [hsame]
      exact ⟨hsound, hwithin⟩
    · exact ⟨hchange.sound hsound, hchange.withinCeilings hsound hwithin hspares⟩
  obtain ⟨hsound, hwithin⟩ := hboth
  intro tool htool
  obtain ⟨principal, hmem, hoid, hceiling⟩ := hwithin tool htool
  exact ⟨principal, hsound.lookupPrincipalByOid hmem hoid, hceiling⟩

/-! ## A principal that is lowered below its tool -/

def opsSession : PolicySession where
  userId := 10
  searchPath := [2200]
  creationNamespace := 2200
  namespaceName _ := "public"
  hasCreate _ := true
  hasPrivsOfRole _ _ := true
  useOpenSSL := true

def opsProvider : CreateProviderStmt where
  providerName := ⟨none, "local".toList⟩
  kind := "loopback".toList
  endpoint := "local://runner".toList
  receiptAlg := none
  receiptKey := some "bootstrap-key".toList
  attestationProfile := none
  attestationVersion := none
  attestationPolicy := none
  attestationRequired := false

def opsPrincipal : CreatePrincipalStmt where
  principalName := ⟨none, "ops".toList⟩
  program := "qhapaqxian-tool-runner".toList
  sandbox := "restricted".toList
  runtimeClass := none
  providerName := "local".toList
  receiptSigner := none
  attestationProfile := none
  attestationVersion := none
  attestationPolicy := none

def opsTool : CreateToolStmt where
  toolName := ⟨none, "search".toList⟩
  handler := "search".toList
  sandbox := "restricted".toList
  principalName := "ops".toList
  tokenCost := 4
  costUnits := 2
  policyName := none

def opsAlter (sandbox : String) : AlterPrincipalStmt where
  principalName := ⟨none, "ops".toList⟩
  providerName := none
  program := none
  sandbox := some sandbox.toList
  runtimeClass := none
  receiptSigner := none
  attestationProfile := none
  attestationVersion := none
  attestationPolicy := none
  enabled := none

def opsEvent (command : PolicyCommand) : PolicyEvent :=
  ⟨opsSession, .counting, command⟩

def opsCatalog (policies : List NamespacePolicyRow) (commands : List PolicyCommand) :
    PolicyCatalog :=
  (commands.map opsEvent).foldl PolicyCatalog.next (.initial policies)

lemma opsCatalog_runsTo (policies : List NamespacePolicyRow) (commands : List PolicyCommand) :
    RunsTo PolicyCatalog.next anyStep (.initial policies) (opsCatalog policies commands) :=
  RunsTo.foldl _ _

def opsCommands : List PolicyCommand :=
  [.createProvider opsProvider, .createPrincipal opsPrincipal, .createTool opsTool]

def opsRaised : PolicyCatalog :=
  opsCatalog [] (opsCommands ++ [.alterPrincipal (opsAlter "isolated")])

lemma opsRaised_runsTo :
    RunsTo PolicyCatalog.next sparesBoundTools (.initial []) opsRaised := by
  unfold opsRaised opsCatalog
  refine AllowedAlong.runsTo ⟨trivial, trivial, trivial, ?_, trivial⟩
  simp only [sparesBoundTools, opsEvent]
  decide +kernel

theorem opsRaised_within_principal :
    opsRaised.tools.length = 1 ∧ ∀ tool ∈ opsRaised.tools, ∃ principal,
      opsRaised.lookupPrincipalByOid tool.principaloid = some principal ∧
      withinCeiling tool.sandbox principal.sandbox :=
  ⟨by decide +kernel, tool_sandbox_within_principal opsRaised_runsTo⟩

/-- `ALTER PRINCIPAL … SANDBOX 'builtin'` succeeds while a tool of sandbox `restricted` is bound to
the principal. -/
theorem lowered_principal_below_tool :
    ∃ cat, RunsTo PolicyCatalog.next anyStep (.initial []) cat ∧
      ∃ tool ∈ cat.tools, ∃ principal ∈ cat.principals, principal.oid = tool.principaloid ∧
        exceedsCeiling tool.sandbox principal.sandbox := by
  refine ⟨_, opsCatalog_runsTo [] (opsCommands ++ [.alterPrincipal (opsAlter "builtin")]), ?_⟩
  decide +kernel

/-! ## Principals and their providers -/

def PrincipalInfo.checkBinding (info : PrincipalInfo) (context : String) : Except QxError Unit :=
  Security.qxValidatePrincipalRuntimeBinding info.name info.providerKind
    (some (nonEmptyOr info.runtimeClass (qxDefaultRuntimeForProviderKind info.providerKind)))
    info.sandbox info.receiptSigner info.providerReceiptAlg context

lemma qxDefaultRuntimeForProviderKind_nonEmptyOr (kind : Option CString) :
    qxDefaultRuntimeForProviderKind (some (nonEmptyOr kind "loopback".toList)) =
      qxDefaultRuntimeForProviderKind kind := by
  match kind with
  | none => decide
  | some [] => decide
  | some (c :: cs) => rfl

lemma ProviderRow.Backs.checkBinding {cat : PolicyCatalog} {provider : ProviderRow}
    (hbacks : provider.Backs principal) (hvalid : principal.provideroid ≠ invalidOid)
    (hlookup : cat.lookupProviderByOid principal.provideroid = some provider) (context : String) :
    (qxCatalogFillPrincipalInfo cat principal).checkBinding context = .ok () := by
  have hoid : oidIsValid principal.provideroid = true := by simpa [oidIsValid] using hvalid
  have hruntime : nonEmptyOr (some (nonEmptyOr principal.runtimeClass
      (qxDefaultRuntimeForProviderKind provider.kind))) (qxDefaultRuntimeForProviderKind
        (some (nonEmptyOr provider.kind "loopback".toList))) =
      principal.effectiveRuntimeClass provider := by
    rw [PrincipalRow.effectiveRuntimeClass, ProviderRow.effectiveKind,
      qxDefaultRuntimeForProviderKind_nonEmptyOr]
    exact nonEmptyOr_of_ne_nil
      (nonEmptyOr_ne_nil _ (qxDefaultRuntimeForProviderKind_ne_nil _)) _
  simp only [PrincipalInfo.checkBinding, qxCatalogFillPrincipalInfo, hoid, if_true, hlookup,
    Option.bind_some, Security.qxValidatePrincipalRuntimeBinding_ok_iff]
  rw [hruntime]
  exact hbacks.runtimeBinding

/-- Every stored principal is one that its provider backs, so authorisation never refuses it for its
runtime class, its sandbox or its signer. -/
theorem stored_principal_backed {policies : List NamespacePolicyRow} {cat : PolicyCatalog}
    (h : RunsTo PolicyCatalog.next anyStep (.initial policies) cat) :
    ∀ principal ∈ cat.principals, ∃ provider,
      cat.lookupProviderByOid principal.provideroid = some provider ∧
      provider.Backs principal ∧
      ∀ context, (qxCatalogFillPrincipalInfo cat principal).checkBinding context = .ok () := by
  have hsound := PolicyCatalog.sound_of_runsTo h
  intro principal hprincipal
  obtain ⟨provider, hmem, hoid, hbacks⟩ := hsound.principal_backed principal hprincipal
  have hlookup := hsound.lookupProviderByOid hmem hoid
  have hvalid : principal.provideroid ≠ invalidOid := hoid ▸ hsound.provider_valid provider hmem
  exact ⟨provider, hlookup, hbacks, hbacks.checkBinding hvalid hlookup⟩

theorem opsRaised_principal_backed :
    opsRaised.principals.length = 1 ∧ ∀ principal ∈ opsRaised.principals, ∃ provider,
      opsRaised.lookupProviderByOid principal.provideroid = some provider ∧
      provider.Backs principal ∧
      ∀ context, (qxCatalogFillPrincipalInfo opsRaised principal).checkBinding context = .ok () :=
  ⟨by decide +kernel, stored_principal_backed (opsCatalog_runsTo [] _)⟩

end QhapaqXian
