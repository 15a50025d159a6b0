import QhapaqXian.Proofs.PolicyRuns

/-!
# What authorisation admits

`QxAuthorizeToolsForNamespace` walks an arbitrary list of tools with five lists and three totals in
hand.
-/

namespace QhapaqXian

open Library

variable {tools : List CString} {namespacepolicyoid ownerid : Oid} {authz : QxToolAuthorization}
  {tool : ToolInfo}

/-- What an authorised tool is in the catalogs. -/
structure AdmittedTool (cat : PolicyCatalog) (policy : NamespacePolicyRow) (namespaceoid : Oid)
    (name : CString) (row : ToolRow) : Prop where
  known : policy.requireKnownTools → name ∈ policy.allowedTools
  registered : cat.lookupToolByName namespaceoid name = some row
  enabled : row.enabled
  bound : ∃ principal provider,
    cat.lookupPrincipalByOid row.principaloid = some principal ∧ principal.enabled ∧
    cat.lookupProviderByOid principal.provideroid = some provider ∧ provider.enabled
  within : withinCeiling row.sandbox
    (some (qxToolSandboxCeilingFromInfo (qxCatalogFillToolInfo cat row)))
  aligned : qxToolRuntimeClassFromInfo (qxCatalogFillToolInfo cat row) =
    principalRuntimeFromInfo (qxCatalogFillToolInfo cat row)
  capable : qxValidateToolCapabilityPolicy policy name
    (capabilityTagsFromInfo (qxCatalogFillToolInfo cat row)) = .ok ()

section Rows

variable {session : PolicySession} {cat : PolicyCatalog} {policy : NamespacePolicyRow}
  {namespaceoid : Oid} {name : CString}

lemma bound_of_enabled {row : ToolRow}
    (hprincipal : (qxCatalogFillToolInfo cat row).principalEnabled = true)
    (hprovider : (qxCatalogFillToolInfo cat row).providerEnabled = true) :
    ∃ principal provider,
      cat.lookupPrincipalByOid row.principaloid = some principal ∧ principal.enabled ∧
      cat.lookupProviderByOid principal.provideroid = some provider ∧ provider.enabled := by
  simp only [qxCatalogFillToolInfo] at hprincipal hprovider
  by_cases hvalid : oidIsValid row.principaloid = true
  · rw [if_pos hvalid] at hprincipal hprovider
    cases hlookup : cat.lookupPrincipalByOid row.principaloid with
    | none => simp [hlookup] at hprincipal
    | some principal =>
      simp only [hlookup, Option.map_some, Option.getD_some,
        qxCatalogFillPrincipalInfo] at hprincipal hprovider
      by_cases hprovideroid : oidIsValid principal.provideroid = true
      · rw [if_pos hprovideroid] at hprovider
        cases hfound : cat.lookupProviderByOid principal.provideroid with
        | none => simp [hfound] at hprovider
        | some provider =>
          rw [hfound] at hprovider
          exact ⟨principal, provider, rfl, hprincipal, hfound, hprovider⟩
      · simp [hprovideroid] at hprovider
  · simp [hvalid] at hprincipal

lemma checkRegisteredTool_ok (h : checkRegisteredTool session namespaceoid name tool = .ok ()) :
    tool.enabled = true ∧ tool.principalEnabled = true ∧ tool.providerEnabled = true ∧
    withinCeiling tool.sandbox (some (qxToolSandboxCeilingFromInfo tool)) = true ∧
    qxToolRuntimeClassFromInfo tool = principalRuntimeFromInfo tool := by
  simp only [checkRegisteredTool, ereport, ereportDetail, raise_eq_ok_iff, bind_eq_ok_iff,
    Bool.not_eq_true', Bool.not_eq_false, not_not, ne_eq] at h
  obtain ⟨henabled, -, hprincipal, -, hprovider, rank, hrank, ceiling, hceiling, hle, haligned,
    -⟩ := h
  refine ⟨henabled, hprincipal, hprovider, ?_, haligned⟩
  simp only [withinCeiling, hrank, hceiling, decide_eq_true_eq]
  omega

lemma authorizedTool_eq_ok_iff :
    authorizedTool session cat policy namespaceoid name = .ok tool ↔
      (policy.requireKnownTools → name ∈ policy.allowedTools) ∧
      ∃ row, cat.lookupToolByName namespaceoid name = some row ∧
        checkRegisteredTool session namespaceoid name (qxCatalogFillToolInfo cat row) = .ok () ∧
        qxValidateToolCapabilityPolicy policy name
          (capabilityTagsFromInfo (qxCatalogFillToolInfo cat row)) = .ok () ∧
        qxCatalogFillToolInfo cat row = tool := by
  simp only [authorizedTool, ereport, ereportDetail, raise_eq_ok_iff]
  refine and_congr (by simp [qxToolNameInList]) ?_
  cases hlookup : cat.lookupToolByName namespaceoid name with
  | none => simp
  | some row =>
    simp only [bind_eq_ok_iff, exists_unit_iff, pure_eq_ok_iff, Option.some.injEq, exists_eq_left']

lemma authorizedTool_ok (h : authorizedTool session cat policy namespaceoid name = .ok tool) :
    ∃ row, AdmittedTool cat policy namespaceoid name row ∧
      tool = qxCatalogFillToolInfo cat row := by
  obtain ⟨hknown, row, hregistered, hchecks, hcapable, rfl⟩ := authorizedTool_eq_ok_iff.mp h
  obtain ⟨henabled, hprincipal, hprovider, hwithin, haligned⟩ := checkRegisteredTool_ok hchecks
  refine ⟨row, ?_, rfl⟩
  exact {
    known := hknown
    registered := hregistered
    enabled := henabled
    bound := bound_of_enabled hprincipal hprovider
    within := hwithin
    aligned := haligned
    capable := hcapable }

/-- The five lists are images of one list of rows. -/
structure QxToolAuthorization.Describes (authz : QxToolAuthorization) (cat : PolicyCatalog)
    (rows : List ToolRow) : Prop where
  oids : authz.toolOids = rows.map ToolRow.oid
  contracts : authz.toolContracts = rows.map (toolContract cat)
  runtimeClasses : authz.toolRuntimeClasses =
    rows.map fun row => qxToolRuntimeClassFromInfo (qxCatalogFillToolInfo cat row)
  sandboxCeilings : authz.toolSandboxCeilings =
    rows.map fun row => qxToolSandboxCeilingFromInfo (qxCatalogFillToolInfo cat row)
  capabilityTags : authz.toolCapabilityTags =
    rows.map fun row => capabilityTagsFromInfo (qxCatalogFillToolInfo cat row)

lemma QxToolAuthorization.Describes.append {rows : List ToolRow} (h : authz.Describes cat rows)
    (row : ToolRow) :
    (authz.append (qxCatalogFillToolInfo cat row)).Describes cat (rows ++ [row]) := by
  constructor <;> rw [List.map_append, List.map_singleton]
  · rw [← h.oids]
    rfl
  · rw [← h.contracts]
    rfl
  · rw [← h.runtimeClasses]
    rfl
  · rw [← h.sandboxCeilings]
    rfl
  · rw [← h.capabilityTags]
    rfl

def QxToolAuthorization.appendRows (cat : PolicyCatalog) (authz : QxToolAuthorization)
    (rows : List ToolRow) : QxToolAuthorization :=
  rows.foldl (fun authz row => authz.append (qxCatalogFillToolInfo cat row)) authz

lemma authorizeTools_ok {result : QxToolAuthorization}
    (h : authorizeTools session cat policy namespaceoid authz tools = .ok result) :
    ∃ rows, List.Forall₂ (AdmittedTool cat policy namespaceoid) tools rows ∧
      result = authz.appendRows cat rows := by
  induction tools generalizing authz with
  | nil =>
    exact ⟨[], .nil, (Except.ok.inj h).symm⟩
  | cons name tools ih =>
    simp only [authorizeTools, bind_eq_ok_iff] at h
    obtain ⟨tool, htool, h⟩ := h
    obtain ⟨row, hrow, rfl⟩ := authorizedTool_ok htool
    obtain ⟨rows, hrows, rfl⟩ := ih h
    exact ⟨row :: rows, .cons hrow hrows, rfl⟩

lemma QxToolAuthorization.Describes.appendRows {rows : List ToolRow} (h : authz.Describes cat rows)
    (more : List ToolRow) :
    (authz.appendRows cat more).Describes cat (rows ++ more) := by
  induction more generalizing authz rows with
  | nil => simpa [QxToolAuthorization.appendRows] using h
  | cons row more ih =>
    rw [List.append_cons]
    exact ih (h.append row)

lemma qxAuthorizeToolsForNamespace_ok
    (h : qxAuthorizeToolsForNamespace session cat namespacepolicyoid namespaceoid ownerid tools =
      .ok authz) :
    ∃ policy rows, cat.lookupNamespacePolicyByOid namespacepolicyoid = some policy ∧
      (session.hasPrivsOfRole ownerid policy.ownerid ∨
        session.hasPrivsOfRole ownerid policy.authrole) ∧
      List.Forall₂ (AdmittedTool cat policy namespaceoid) tools rows ∧
      authz = (QxToolAuthorization.initial policy).appendRows cat rows := by
  unfold qxAuthorizeToolsForNamespace at h
  cases hlookup : cat.lookupNamespacePolicyByOid namespacepolicyoid with
  | none => simp [hlookup, cacheLookupFailed, ereport] at h
  | some policy =>
    simp only [hlookup, ereportDetail, raise_eq_ok_iff, Bool.and_eq_true, Bool.not_eq_true',
      not_and_or, Bool.not_eq_false] at h
    obtain ⟨hprivs, h⟩ := h
    obtain ⟨rows, hrows, hauthz⟩ := authorizeTools_ok h
    exact ⟨policy, rows, rfl, hprivs, hrows, hauthz⟩

lemma authorizedTool_of_mem {result : QxToolAuthorization}
    (h : authorizeTools session cat policy namespaceoid authz tools = .ok result)
    (hname : name ∈ tools) :
    ∃ tool, authorizedTool session cat policy namespaceoid name = .ok tool := by
  induction tools generalizing authz with
  | nil => cases hname
  | cons first tools ih =>
    simp only [authorizeTools, bind_eq_ok_iff] at h
    obtain ⟨tool, htool, h⟩ := h
    rcases List.mem_cons.mp hname with rfl | hname
    · exact ⟨tool, htool⟩
    · exact ih h hname

lemma checked_of_authorized
    {row : ToolRow}
    (h : qxAuthorizeToolsForNamespace session cat namespacepolicyoid namespaceoid ownerid tools =
      .ok authz)
    (hpolicy : cat.lookupNamespacePolicyByOid namespacepolicyoid = some policy)
    (hname : name ∈ tools) (hrow : cat.lookupToolByName namespaceoid name = some row) :
    checkRegisteredTool session namespaceoid name (qxCatalogFillToolInfo cat row) = .ok () ∧
      qxValidateToolCapabilityPolicy policy name
        (capabilityTagsFromInfo (qxCatalogFillToolInfo cat row)) = .ok () := by
  simp only [qxAuthorizeToolsForNamespace, hpolicy, ereportDetail, raise_eq_ok_iff] at h
  obtain ⟨tool, htool⟩ := authorizedTool_of_mem h.2 hname
  obtain ⟨-, other, hother, hchecks, hcapable, -⟩ := authorizedTool_eq_ok_iff.mp htool
  obtain rfl := Option.some.inj (hrow.symm.trans hother)
  exact ⟨hchecks, hcapable⟩

lemma qxAuthorizeToolsForNamespace_single
    (hpolicy : cat.lookupNamespacePolicyByOid namespacepolicyoid = some policy)
    (hprivs : session.hasPrivsOfRole ownerid policy.ownerid = true)
    (htool : authorizedTool session cat policy namespaceoid name = .ok tool) :
    qxAuthorizeToolsForNamespace session cat namespacepolicyoid namespaceoid ownerid [name] =
      .ok ((QxToolAuthorization.initial policy).append tool) := by
  simp [qxAuthorizeToolsForNamespace, hpolicy, hprivs, authorizeTools, htool, bind, Except.bind]

end Rows

/-- When authorisation returns, its five lists describe, in the order they were asked for, tools of
the schema that are enabled, bound, within their ceiling, aligned with their principal and known to
the policy, and the caller can assume the policy's owner or role. -/
theorem authorized_tools_admitted {session : PolicySession} {cat : PolicyCatalog}
    {namespacepolicyoid namespaceoid ownerid : Oid} {tools : List CString}
    {authz : QxToolAuthorization}
    (h : qxAuthorizeToolsForNamespace session cat namespacepolicyoid namespaceoid ownerid tools =
      .ok authz) :
    ∃ policy rows, cat.lookupNamespacePolicyByOid namespacepolicyoid = some policy ∧
      (session.hasPrivsOfRole ownerid policy.ownerid ∨
        session.hasPrivsOfRole ownerid policy.authrole) ∧
      List.Forall₂ (AdmittedTool cat policy namespaceoid) tools rows ∧
      authz.Describes cat rows := by
  obtain ⟨policy, rows, hpolicy, hprivs, hrows, rfl⟩ := qxAuthorizeToolsForNamespace_ok h
  have hempty : (QxToolAuthorization.initial policy).Describes cat [] := ⟨rfl, rfl, rfl, rfl, rfl⟩
  exact ⟨policy, rows, hpolicy, hprivs, hrows, hempty.appendRows rows⟩

def opsPolicy : NamespacePolicyRow where
  oid := 7
  name := "guard".toList
  namespaceoid := 2200
  ownerid := 10
  authrole := 11
  requireKnownTools := true
  enforceBudgets := true
  allowedTools := ["search".toList]
  policy := none

theorem opsTools_admitted :
    ∃ authz, qxAuthorizeToolsForNamespace opsSession (opsCatalog [opsPolicy] opsCommands) 7 2200 10
        ["search".toList] = .ok authz ∧
      ∃ policy rows, (opsCatalog [opsPolicy] opsCommands).lookupNamespacePolicyByOid 7 =
          some policy ∧
        (opsSession.hasPrivsOfRole 10 policy.ownerid ∨
          opsSession.hasPrivsOfRole 10 policy.authrole) ∧
        List.Forall₂ (AdmittedTool (opsCatalog [opsPolicy] opsCommands) policy 2200)
          ["search".toList] rows ∧
        authz.Describes (opsCatalog [opsPolicy] opsCommands) rows := by
  obtain ⟨authz, hauthz⟩ := exists_of_isOk (show (qxAuthorizeToolsForNamespace opsSession
    (opsCatalog [opsPolicy] opsCommands) 7 2200 10 ["search".toList]).isOk = true by decide +kernel)
  exact ⟨authz, hauthz, authorized_tools_admitted hauthz⟩

end QhapaqXian
