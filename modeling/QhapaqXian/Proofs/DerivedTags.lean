import QhapaqXian.Proofs.Capabilities

/-!
# Derived capability tags

A tool that declares no capability tags gets tags derived from its rows. They are joined around its
name and handler, which are free texts, so that a bar in one of them makes tags of its own.
-/

namespace QhapaqXian

open Library

variable {entry : CString × CString}

/-- A tag that states a property of the tool's rows. -/
inductive DerivedTag
  | sandbox
  | sandboxCeiling
  | runtime
  | providerKind
  | attestation
  | receiptAlg
  deriving Repr, DecidableEq

namespace DerivedTag

def all : List DerivedTag :=
  [.sandbox, .sandboxCeiling, .runtime, .providerKind, .attestation, .receiptAlg]

def name : DerivedTag → CString
  | .sandbox => "sandbox".toList
  | .sandboxCeiling => "sandbox_ceiling".toList
  | .runtime => "runtime".toList
  | .providerKind => "provider_kind".toList
  | .attestation => "attestation".toList
  | .receiptAlg => "receipt_alg".toList

def value (tool : ToolInfo) : DerivedTag → CString
  | .sandbox => nonEmptyOr tool.sandbox "builtin".toList
  | .sandboxCeiling => qxToolSandboxCeilingFromInfo tool
  | .runtime => qxToolRuntimeClassFromInfo tool
  | .providerKind => nonEmptyOr tool.providerKind "loopback".toList
  | .attestation => attestationText tool.providerAttestationRequired
  | .receiptAlg => nonEmptyOr tool.providerReceiptAlg "hmac-sha256".toList

lemma mem_all (tag : DerivedTag) : tag ∈ all := by
  cases tag <;> decide

lemma name_injective : Function.Injective name := by
  intro tag other h
  cases tag <;> cases other <;> first | rfl | exact absurd h (by decide)

lemma name_ne (tag : DerivedTag) : ∀ name ∈ ["tool", "handler"], tag.name ≠ name.toList := by
  cases tag <;> decide

lemma plainName (tag : DerivedTag) : PlainName tag.name := by
  cases tag <;> exact ⟨by decide, by decide, by decide⟩

end DerivedTag

def tagEntries (tool : ToolInfo) : List (CString × CString) :=
  ("tool".toList, nonEmptyOr tool.name "<unknown>".toList) ::
    ("handler".toList, nonEmptyOr tool.handler "<none>".toList) ::
    DerivedTag.all.map fun tag => (tag.name, tag.value tool)

def entryNames : List CString :=
  "tool".toList :: "handler".toList :: DerivedTag.all.map DerivedTag.name

/-- What the values hold behind their first bar becomes tags of its own. -/
def injectedTags (tool : ToolInfo) : List CString :=
  (tagEntries tool).flatMap fun entry => (entry.2.splitOn '|').tail

/-- The first injected tag for the flag spells a permission. -/
def injectsFlag (tool : ToolInfo) (flag : RuntimeFlag) : Bool :=
  ((injectedTags tool).find? flag.key.isPrefixOf).any fun part =>
    spellsAllow (part.drop flag.key.length)

section Parts

variable {tool : ToolInfo}

lemma plainName_entry (h : entry ∈ tagEntries tool) :
    PlainName entry.1 := by
  rw [tagEntries, List.mem_cons, List.mem_cons, List.mem_map] at h
  obtain rfl | rfl | ⟨tag, -, rfl⟩ := h
  · exact (⟨by decide, by decide, by decide⟩ : PlainName "tool".toList)
  · exact (⟨by decide, by decide, by decide⟩ : PlainName "handler".toList)
  · exact tag.plainName

lemma capabilityTagsFromInfo_undeclared (h : qxSplitCapabilityTags tool.capabilityTags = []) :
    capabilityTagsFromInfo tool =
      ['|'].intercalate ((tagEntries tool).map (renderField ':')) := by
  have hceiling : qxToolSandboxCeilingFromInfo tool ≠ [] :=
    nonEmptyOr_ne_nil _ (nonEmptyOr_ne_nil _ (by decide))
  have hruntime : qxToolRuntimeClassFromInfo tool ≠ [] :=
    nonEmptyOr_ne_nil _ (nonEmptyOr_ne_nil _ (qxDefaultRuntimeForProviderKind_ne_nil _))
  have hattestation : attestationText tool.providerAttestationRequired ≠ [] := by
    unfold attestationText
    split_ifs <;> decide
  rw [capabilityTagsFromInfo, qxToolCapabilityTagsFromInfo, h, List.isEmpty_nil, Bool.not_true,
    Bool.and_false, if_neg Bool.false_ne_true, qxDefaultCapabilityTags,
    nonEmptyOr_of_ne_nil hceiling, nonEmptyOr_of_ne_nil hruntime, nonEmptyOr_of_ne_nil hattestation]
  rfl

lemma renderField_eq_append (name value : CString) :
    renderField ':' (name, value) = name ++ [':'] ++ value :=
  List.append_cons name ':' value

/-- The parts between the bars: the derived tags, each up to the first bar of its value, and what
is injected. -/
lemma splitOn_capabilityTags (h : qxSplitCapabilityTags tool.capabilityTags = []) :
    (capabilityTagsFromInfo tool).splitOn '|' = (tagEntries tool).flatMap fun entry =>
      renderField ':' (entry.1, upTo '|' entry.2) :: (entry.2.splitOn '|').tail := by
  rw [capabilityTagsFromInfo_undeclared h, splitOn_intercalate_flatMap (by simp [tagEntries]),
    List.flatMap_map]
  refine List.flatMap_congr fun entry hentry => ?_
  have hbar : '|' ∉ entry.1 ++ [':'] := by
    simpa using (plainName_entry hentry).noDelimiter '|' (by simp)
  rw [renderField_eq_append, splitOn_append hbar, renderField_eq_append]

lemma trimSpaces_renderField {name : CString} (hname : PlainName name) (value : CString) :
    trimSpaces (renderField ':' (name, value)) =
      renderField ':' (name, value.rdropWhile isSpace) := by
  have hspace : ∀ c ∈ name ++ [':'], isSpace c = false := by
    intro c hc
    rcases List.mem_append.mp hc with hc | hc
    · exact hname.noSpace c hc
    · rw [List.mem_singleton.mp hc]
      rfl
  rw [renderField_eq_append, trimSpaces_append (by simp) hspace, renderField_eq_append]

lemma renderField_inj {name other : CString} (hname : PlainName name) (hother : PlainName other)
    {value value' : CString}
    (h : renderField ':' (name, value) = renderField ':' (other, value')) :
    name = other ∧ value = value' := by
  have hfront : name ++ [':'] <+: other ++ ':' :: value' :=
    ⟨value, (renderField_eq_append name value).symm.trans h⟩
  obtain rfl := prefix_eq_of_first_eq (hother.noDelimiter ':' (by simp))
    (hname.noDelimiter ':' (by simp)) hfront
  exact ⟨rfl, (List.cons.inj (List.append_cancel_left h)).2⟩

lemma entry_of_name (h : entry ∈ tagEntries tool) {tag : DerivedTag} (hname : entry.1 = tag.name) :
    entry.2 = tag.value tool := by
  rw [tagEntries, List.mem_cons, List.mem_cons, List.mem_map] at h
  obtain rfl | rfl | ⟨other, -, rfl⟩ := h
  · exact absurd hname.symm (tag.name_ne "tool" (by simp))
  · exact absurd hname.symm (tag.name_ne "handler" (by simp))
  · rw [DerivedTag.name_injective hname]

lemma carries_derived_iff (h : qxSplitCapabilityTags tool.capabilityTags = []) (tag : DerivedTag)
    (value : CString) :
    renderField ':' (tag.name, value) ∈ qxSplitCapabilityTags (some (capabilityTagsFromInfo tool)) ↔
      value = (upTo '|' (tag.value tool)).rdropWhile isSpace ∨
      ∃ part ∈ injectedTags tool, trimSpaces part = renderField ':' (tag.name, value) := by
  have hne : renderField ':' (tag.name, value) ≠ [] := by simp [renderField]
  rw [mem_qxSplitCapabilityTags, splitOn_capabilityTags h]
  constructor
  · rintro ⟨-, part, hpart, htrim⟩
    obtain ⟨entry, hentry, hpart⟩ := List.mem_flatMap.mp hpart
    rcases List.mem_cons.mp hpart with rfl | hpart
    · rw [trimSpaces_renderField (plainName_entry hentry)] at htrim
      obtain ⟨hname, hvalue⟩ := renderField_inj (plainName_entry hentry) tag.plainName htrim
      rw [entry_of_name hentry hname] at hvalue
      exact .inl hvalue.symm
    · exact .inr ⟨part, List.mem_flatMap.mpr ⟨entry, hentry, hpart⟩, htrim⟩
  · rintro (rfl | ⟨part, hpart, htrim⟩)
    · refine ⟨hne, _, List.mem_flatMap.mpr ⟨(tag.name, tag.value tool), ?_,
        List.mem_cons_self⟩, trimSpaces_renderField tag.plainName _⟩
      simp only [tagEntries, List.mem_cons, List.mem_map]
      exact .inr (.inr ⟨tag, tag.mem_all, rfl⟩)
    · obtain ⟨entry, hentry, hpart⟩ := List.mem_flatMap.mp hpart
      exact ⟨hne, part, List.mem_flatMap.mpr ⟨entry, hentry, List.mem_cons_of_mem _ hpart⟩, htrim⟩

lemma not_prefix_derived (h : entry ∈ tagEntries tool) (flag : RuntimeFlag) (value : CString) :
    ¬ flag.key <+: renderField ':' (entry.1, value) := by
  intro hfront
  have hname := prefix_eq_of_first_eq ((plainName_entry h).noDelimiter ':' (by simp))
    (by cases flag <;> decide) hfront
  have hmem : entry.1 ∈ entryNames := List.mem_map_of_mem (f := Prod.fst) h
  rw [← hname] at hmem
  cases flag <;> exact absurd hmem (by decide)

lemma allows_undeclared (h : qxSplitCapabilityTags tool.capabilityTags = []) (getenv : Environ)
    (flag : RuntimeFlag) :
    (qxRuntimePolicyFromAuthz getenv (some (capabilityTagsFromInfo tool))).allows flag =
      injectsFlag tool flag := by
  have hfind : ((capabilityTagsFromInfo tool).splitOn '|').find? flag.key.isPrefixOf =
      (injectedTags tool).find? flag.key.isPrefixOf := by
    rw [splitOn_capabilityTags h]
    refine find?_flatMap_cons fun entry hentry => ?_
    rw [← Bool.not_eq_true, List.isPrefixOf_iff_prefix]
    exact not_prefix_derived hentry flag _
  rw [allows_eq, firstTag, hfind, injectsFlag]
  cases (injectedTags tool).find? flag.key.isPrefixOf <;> rfl

end Parts

/-- The tool carries a derived tag that a policy can require only with the value of its rows. -/
structure ToolInfo.Unforged (tool : ToolInfo) : Prop where
  injected : ∀ part ∈ injectedTags tool, ∀ (tag : DerivedTag) value,
    trimSpaces part = renderField ':' (tag.name, value) → ';' ∉ value → value = tag.value tool
  own : ∀ tag : DerivedTag, ';' ∉ (upTo '|' (tag.value tool)).rdropWhile isSpace →
    (upTo '|' (tag.value tool)).rdropWhile isSpace = tag.value tool

def PolicyCatalog.withPolicies (cat : PolicyCatalog) (policies : List NamespacePolicyRow) :
    PolicyCatalog :=
  { cat with namespacePolicies := policies }

/-- Under every policy that the tool is authorised under, each derived tag that the policy requires
states what the rows of the tool say. -/
def RequiredTagsGenuine (cat : PolicyCatalog) (namespaceoid : Oid) (name : CString)
    (row : ToolRow) : Prop :=
  ∀ session policies namespacepolicyoid ownerid tools policy authz,
    (cat.withPolicies policies).lookupNamespacePolicyByOid namespacepolicyoid = some policy →
    qxAuthorizeToolsForNamespace session (cat.withPolicies policies) namespacepolicyoid
      namespaceoid ownerid tools = .ok authz →
    name ∈ tools → ∀ (tag : DerivedTag) value,
      renderField ':' (tag.name, value) ∈ qxSplitCapabilityTags (requiredCapabilities policy) →
        value = tag.value (qxCatalogFillToolInfo cat row)

section Genuine

variable {cat : PolicyCatalog} {namespaceoid : Oid} {name : CString} {row : ToolRow}

lemma authorize_requiring {session : PolicySession} {tag : CString}
    (hrow : cat.lookupToolByName namespaceoid name = some row)
    (hok : checkRegisteredTool session namespaceoid name (qxCatalogFillToolInfo cat row) = .ok ())
    (htag : tag ∈ qxSplitCapabilityTags
      (some (capabilityTagsFromInfo (qxCatalogFillToolInfo cat row)))) (hsep : ';' ∉ tag) :
    ∃ authz, qxAuthorizeToolsForNamespace { session with hasPrivsOfRole := fun _ _ => true }
      (cat.withPolicies [clausePolicy (clauseText "require_capabilities".toList tag)]) 7
      namespaceoid 10 [name] = .ok authz := by
  obtain ⟨hrequired, hdenied⟩ := requires_clausePolicy (cleanTag_of_mem htag) hsep
  have htool : authorizedTool { session with hasPrivsOfRole := fun _ _ => true }
      (cat.withPolicies [clausePolicy (clauseText "require_capabilities".toList tag)])
      (clausePolicy (clauseText "require_capabilities".toList tag)) namespaceoid name =
        .ok (qxCatalogFillToolInfo cat row) := by
    refine authorizedTool_eq_ok_iff.mpr ⟨nofun, row, hrow, hok, ?_, rfl⟩
    rw [qxValidateToolCapabilityPolicy_ok_iff, hrequired, hdenied]
    exact ⟨fun other hother => List.mem_singleton.mp hother ▸ htag, List.forall_mem_nil _⟩
  exact ⟨_, qxAuthorizeToolsForNamespace_single rfl rfl htool⟩

end Genuine

/-- For a tool that declares no tags: the derived tags that a policy requires of it are genuine and
the compiled runtime policy allows nothing, exactly when what its texts hold behind a bar forges
neither a derived tag nor a permission. -/
theorem undeclared_tags_genuine_iff (getenv : Environ) {cat : PolicyCatalog} {namespaceoid : Oid}
    {name : CString} {row : ToolRow} (hrow : cat.lookupToolByName namespaceoid name = some row)
    (hnone : qxSplitCapabilityTags row.capabilityTags = []) :
    (RequiredTagsGenuine cat namespaceoid name row ∧
      ∀ flag, (qxRuntimePolicyFromAuthz getenv
        (some (capabilityTagsFromInfo (qxCatalogFillToolInfo cat row)))).allows flag = false) ↔
    (∀ session, checkRegisteredTool session namespaceoid name (qxCatalogFillToolInfo cat row) =
        .ok () → (qxCatalogFillToolInfo cat row).Unforged) ∧
      ∀ flag, injectsFlag (qxCatalogFillToolInfo cat row) flag = false := by
  have hinfo : qxSplitCapabilityTags (qxCatalogFillToolInfo cat row).capabilityTags = [] := hnone
  simp only [allows_undeclared hinfo]
  refine and_congr_left fun _ => ?_
  constructor
  · intro h session hok
    -- a policy that requires the tag the tool carries
    have hgenuine : ∀ (tag : DerivedTag) value, renderField ':' (tag.name, value) ∈
        qxSplitCapabilityTags (some (capabilityTagsFromInfo (qxCatalogFillToolInfo cat row))) →
        ';' ∉ value → value = tag.value (qxCatalogFillToolInfo cat row) := by
      intro tag value hcarried hsep
      have hclean : ';' ∉ renderField ':' (tag.name, value) := by
        have hname := tag.plainName.noDelimiter ';' (by simp)
        simp [renderField, hname, hsep]
      obtain ⟨authz, hauthz⟩ := authorize_requiring hrow hok hcarried hclean
      refine h _ _ _ _ _ _ authz rfl hauthz (List.mem_singleton_self name) tag value ?_
      rw [(requires_clausePolicy (cleanTag_of_mem hcarried) hclean).1]
      exact List.mem_singleton_self _
    refine ⟨fun part hpart tag value htrim hsep => ?_, fun tag hsep => ?_⟩
    · exact hgenuine tag value ((carries_derived_iff hinfo tag value).mpr
        (.inr ⟨part, hpart, htrim⟩)) hsep
    · exact hgenuine tag _ ((carries_derived_iff hinfo tag _).mpr (.inl rfl)) hsep
  · intro h session policies namespacepolicyoid ownerid tools policy authz hpolicy hauthz hname tag
      value hrequired
    obtain ⟨hok, hcapable⟩ := checked_of_authorized hauthz hpolicy hname hrow
    have hcarried := (qxValidateToolCapabilityPolicy_ok_iff.mp hcapable).1 _ hrequired
    have hsep : ';' ∉ value := fun hmem =>
      semicolon_notMem_required hrequired (by simp [renderField, hmem])
    rcases (carries_derived_iff hinfo tag value).mp hcarried with rfl | ⟨part, hpart, htrim⟩
    · exact (h session hok).own tag hsep
    · exact (h session hok).injected part hpart tag value htrim hsep

/-- A tool whose texts hold no bar. -/
theorem opsTool_tags_genuine :
    ∃ row, (opsCatalog [] opsCommands).lookupToolByName 2200 "search".toList = some row ∧
      RequiredTagsGenuine (opsCatalog [] opsCommands) 2200 "search".toList row ∧
      ∀ flag, (qxRuntimePolicyFromAuthz (fun _ => none) (some (capabilityTagsFromInfo
        (qxCatalogFillToolInfo (opsCatalog [] opsCommands) row)))).allows flag = false := by
  have hops : ((opsCatalog [] opsCommands).lookupToolByName 2200 "search".toList).any (fun row =>
      qxSplitCapabilityTags row.capabilityTags = [] ∧
      injectedTags (qxCatalogFillToolInfo (opsCatalog [] opsCommands) row) = [] ∧
      ∀ tag ∈ DerivedTag.all,
        (upTo '|' (tag.value (qxCatalogFillToolInfo (opsCatalog [] opsCommands) row))).rdropWhile
          isSpace = tag.value (qxCatalogFillToolInfo (opsCatalog [] opsCommands) row)) = true := by
    decide +kernel
  cases hrow : (opsCatalog [] opsCommands).lookupToolByName 2200 "search".toList with
  | none =>
    rw [hrow] at hops
    cases hops
  | some row =>
    rw [hrow] at hops
    obtain ⟨hnone, hinjected, hown⟩ := of_decide_eq_true hops
    refine ⟨row, rfl, (undeclared_tags_genuine_iff _ hrow hnone).mpr ⟨fun _ _ => ⟨?_, ?_⟩, ?_⟩⟩
    · rw [hinjected]
      exact fun _ h => nomatch h
    · exact fun tag _ => hown tag tag.mem_all
    · intro flag
      rw [injectsFlag, hinjected]
      rfl

def opsForgedCatalog : PolicyCatalog :=
  opsCatalog [clausePolicy "require_capability=attestation:required".toList]
    [.createProvider opsProvider, .createPrincipal opsPrincipal,
      .createTool { opsTool with
        handler := "search|attestation:required|network:allow|privilege_escalation:yes".toList }]

/-- A handler with bars in it satisfies a policy that requires attestation, which its provider does
not require, and switches on the network and privilege escalation. -/
theorem handler_forges_tags :
    (qxAuthorizeToolsForNamespace opsSession opsForgedCatalog 7 2200 10
      ["search".toList]).isOk = true ∧
    renderField ':' (DerivedTag.attestation.name, "required".toList) ∈ qxSplitCapabilityTags
      (requiredCapabilities (clausePolicy "require_capability=attestation:required".toList)) ∧
    (opsForgedCatalog.lookupToolByName 2200 "search".toList).any (fun row =>
      row.capabilityTags = none ∧
      DerivedTag.attestation.value (qxCatalogFillToolInfo opsForgedCatalog row) =
        "optional".toList ∧
      ∀ flag ∈ [RuntimeFlag.network, .privilegeEscalation],
        (qxRuntimePolicyFromAuthz (fun _ => none) (some (capabilityTagsFromInfo
          (qxCatalogFillToolInfo opsForgedCatalog row)))).allows flag = true) = true := by
  decide +kernel

end QhapaqXian
