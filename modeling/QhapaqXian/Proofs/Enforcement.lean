import QhapaqXian.Proofs.Capabilities

/-!
# What the clauses of a policy enforce

A policy text may hold any number of entries that require or deny capability tags. The lookup of a
clause stops at the first entry for its key, and the singular key is read only without the plural.
-/

namespace QhapaqXian

open Library

def listedTags (keys : List String) (clauses : CString) : List CString :=
  (clauses.splitOn ';').flatMap fun entry =>
    keys.flatMap fun key => qxSplitCapabilityTags (policyEntryValue key.toList entry)

def requireKeys : List String :=
  ["require_capability", "require_capabilities"]

def denyKeys : List String :=
  ["deny_capability", "deny_capabilities"]

def requiredTags (clauses : CString) : List CString :=
  qxSplitCapabilityTags (requiredCapabilities (clausePolicy clauses))

def deniedTags (clauses : CString) : List CString :=
  qxSplitCapabilityTags (deniedCapabilities (clausePolicy clauses))

def carriedTags (cat : PolicyCatalog) (row : ToolRow) : List CString :=
  qxSplitCapabilityTags (some (capabilityTagsFromInfo (qxCatalogFillToolInfo cat row)))

/-- Whatever is authorised under a policy with this text carries all the tags that the text lists
as required and none that it lists as denied. -/
def EnforcesListedTags (clauses : CString) : Prop :=
  ∀ (session : PolicySession) (cat : PolicyCatalog) (namespacepolicyoid namespaceoid ownerid : Oid)
    (tools : List CString) (policy : NamespacePolicyRow) (authz : QxToolAuthorization),
    cat.lookupNamespacePolicyByOid namespacepolicyoid = some policy →
    policy.policy = some clauses →
    qxAuthorizeToolsForNamespace session cat namespacepolicyoid namespaceoid ownerid tools =
      .ok authz →
    ∀ name ∈ tools, ∀ row, cat.lookupToolByName namespaceoid name = some row →
      (∀ tag ∈ listedTags requireKeys clauses, tag ∈ carriedTags cat row) ∧
      ∀ tag ∈ listedTags denyKeys clauses, tag ∉ carriedTags cat row

lemma requiredTags_eq {policy : NamespacePolicyRow} {clauses : CString}
    (h : policy.policy = some clauses) :
    qxSplitCapabilityTags (requiredCapabilities policy) = requiredTags clauses ∧
      qxSplitCapabilityTags (deniedCapabilities policy) = deniedTags clauses := by
  simp [requiredTags, deniedTags, requiredCapabilities, deniedCapabilities, clausePolicy, h]

lemma cleanTag_of_listed {keys : List String} {clauses tag : CString}
    (h : tag ∈ listedTags keys clauses) : CleanTag tag := by
  obtain ⟨entry, -, h⟩ := List.mem_flatMap.mp h
  obtain ⟨key, -, h⟩ := List.mem_flatMap.mp h
  exact cleanTag_of_mem h

section Tagged

def ToolRow.declare (tags : List CString) (row : ToolRow) : ToolRow :=
  { row with capabilityTags := some (qxJoinStringList tags "|".toList) }

def taggedCatalog (clauses : CString) (tags : List CString) : PolicyCatalog :=
  { opsCatalog [] opsCommands with
    tools := (opsCatalog [] opsCommands).tools.map (ToolRow.declare tags)
    namespacePolicies := [clausePolicy clauses] }

lemma lookup_taggedCatalog (clauses : CString) (tags : List CString) :
    ∃ row, (taggedCatalog clauses tags).lookupToolByName 2200 "search".toList = some row ∧
      checkRegisteredTool opsSession 2200 "search".toList
        (qxCatalogFillToolInfo (taggedCatalog clauses tags) row) = .ok () ∧
      row.capabilityTags = some (qxJoinStringList tags "|".toList) := by
  have hops : ((opsCatalog [] opsCommands).lookupToolByName 2200 "search".toList).any
      (fun row => (checkRegisteredTool opsSession 2200 "search".toList
        (qxCatalogFillToolInfo (opsCatalog [] opsCommands) row)).isOk) = true := by
    decide +kernel
  have hlookup : (taggedCatalog clauses tags).lookupToolByName 2200 "search".toList =
      ((opsCatalog [] opsCommands).lookupToolByName 2200 "search".toList).map
        (ToolRow.declare tags) :=
    List.find?_map
  rw [hlookup]
  cases hrow : (opsCatalog [] opsCommands).lookupToolByName 2200 "search".toList with
  | none =>
    rw [hrow] at hops
    cases hops
  | some row =>
    rw [hrow] at hops
    -- the checks before the clauses do not read the declared tags
    obtain ⟨_, hok⟩ := exists_of_isOk hops
    exact ⟨row.declare tags, rfl, hok, rfl⟩

lemma carriedTags_of_declared {cat : PolicyCatalog} {row : ToolRow} {tags : List CString}
    (hrow : row.capabilityTags = some (qxJoinStringList tags "|".toList)) (hne : tags ≠ [])
    (hclean : ∀ tag ∈ tags, CleanTag tag) : carriedTags cat row = tags := by
  have hsplit := qxSplitCapabilityTags_join hne hclean
  have hinfo : (qxCatalogFillToolInfo cat row).capabilityTags =
      some (qxJoinStringList tags "|".toList) := hrow
  have hjoined : isNullOrEmpty (some (qxJoinStringList tags "|".toList)) = false := by
    cases hjoin : qxJoinStringList tags "|".toList with
    | nil =>
      rw [hjoin] at hsplit
      exact absurd hsplit.symm hne
    | cons c rest => rfl
  have hempty : tags.isEmpty = false := by simpa using hne
  rw [carriedTags, capabilityTagsFromInfo, qxToolCapabilityTagsFromInfo, hinfo, hsplit, hjoined,
    hempty]
  exact hsplit

/-- A tool that declares exactly the given tags is authorised when the policy requires only tags
among them and denies none of them. -/
lemma authorize_taggedCatalog (clauses : CString) {tags : List CString} (hne : tags ≠ []) (hclean : ∀ tag ∈ tags, CleanTag tag)
    (hrequired : ∀ tag ∈ requiredTags clauses, tag ∈ tags)
    (hdenied : ∀ tag ∈ deniedTags clauses, tag ∉ tags) :
    ∃ authz row, qxAuthorizeToolsForNamespace opsSession (taggedCatalog clauses tags) 7 2200 10
        ["search".toList] = .ok authz ∧
      (taggedCatalog clauses tags).lookupToolByName 2200 "search".toList = some row ∧
      carriedTags (taggedCatalog clauses tags) row = tags := by
  obtain ⟨row, hrow, hok, hdeclared⟩ := lookup_taggedCatalog clauses tags
  have hcarried : carriedTags (taggedCatalog clauses tags) row = tags :=
    carriedTags_of_declared hdeclared hne hclean
  have htool : authorizedTool opsSession (taggedCatalog clauses tags) (clausePolicy clauses) 2200
      "search".toList = .ok (qxCatalogFillToolInfo (taggedCatalog clauses tags) row) := by
    refine authorizedTool_eq_ok_iff.mpr ⟨nofun, row, hrow, hok, ?_, rfl⟩
    rw [qxValidateToolCapabilityPolicy_ok_iff, ← carriedTags, hcarried]
    exact ⟨hrequired, hdenied⟩
  exact ⟨_, row, qxAuthorizeToolsForNamespace_single rfl rfl htool, hrow, hcarried⟩

lemma exists_cleanTag_notMem (tags : List CString) : ∃ tag, CleanTag tag ∧ tag ∉ tags := by
  have hplain : ∀ n c, c ∈ List.replicate (n + 1) 'a' → isSpace c = false := by
    intro n c hc
    rw [List.eq_of_mem_replicate hc]
    rfl
  refine ⟨List.replicate ((tags.map List.length).foldr max 0 + 1) 'a', ⟨by simp, ?_, ?_⟩, ?_⟩
  · simpa using trimSpaces_append (by simp) (hplain _) []
  · intro hbar
    exact absurd (List.eq_of_mem_replicate hbar) (by decide)
  · intro hmem
    have hle := le_foldr_max (List.mem_map_of_mem (f := List.length) hmem)
    rw [List.length_replicate] at hle
    exact absurd hle (Nat.not_succ_le_self _)

end Tagged

/-- A policy text enforces every tag it lists exactly when the entries that are read list them all,
or when it requires a tag that it denies, so that nothing is authorised. -/
theorem listed_tags_enforced_iff (clauses : CString) :
    EnforcesListedTags clauses ↔
      (listedTags requireKeys clauses ⊆ requiredTags clauses ∧
        listedTags denyKeys clauses ⊆ deniedTags clauses) ∨
      ∃ tag ∈ requiredTags clauses, tag ∈ deniedTags clauses := by
  constructor
  · intro h
    refine or_iff_not_imp_right.mpr fun hdisjoint => ?_
    have hclean : ∀ tag ∈ requiredTags clauses, CleanTag tag := fun tag => cleanTag_of_mem
    -- a tool with the required tags and one more is authorised unless that tag is denied
    have hcarried : ∀ extra, CleanTag extra → extra ∉ deniedTags clauses →
        (∀ tag ∈ listedTags requireKeys clauses, tag ∈ requiredTags clauses ++ [extra]) ∧
        ∀ tag ∈ listedTags denyKeys clauses, tag ∉ requiredTags clauses ++ [extra] := by
      intro extra hextra hdenied
      have hall : ∀ tag ∈ requiredTags clauses ++ [extra], CleanTag tag := fun tag htag =>
        (List.mem_append.mp htag).elim (hclean tag) fun htag => List.mem_singleton.mp htag ▸ hextra
      have hnone : ∀ tag ∈ deniedTags clauses, tag ∉ requiredTags clauses ++ [extra] := by
        intro tag htag hmem
        rcases List.mem_append.mp hmem with hmem | hmem
        · exact hdisjoint ⟨tag, hmem, htag⟩
        · exact hdenied (List.mem_singleton.mp hmem ▸ htag)
      obtain ⟨authz, row, hauthz, hrow, hcarried⟩ := authorize_taggedCatalog clauses (by simp)
        hall (fun tag htag => List.mem_append_left _ htag) hnone
      rw [← hcarried]
      exact h _ _ _ _ _ _ _ _ rfl rfl hauthz _ (List.mem_singleton_self _) row hrow
    constructor
    · intro tag htag
      obtain ⟨extra, hextra, hfresh⟩ := exists_cleanTag_notMem (tag :: deniedTags clauses)
      rw [List.mem_cons, not_or] at hfresh
      have hmem := (hcarried extra hextra hfresh.2).1 tag htag
      exact (List.mem_append.mp hmem).resolve_right fun heq =>
        hfresh.1 (List.mem_singleton.mp heq).symm
    · intro tag htag
      by_contra hnot
      exact (hcarried tag (cleanTag_of_listed htag) hnot).2 tag htag (by simp)
  · intro h session cat namespacepolicyoid namespaceoid ownerid tools policy authz hpolicy hclauses
      hauthz name hname row hrow
    obtain ⟨hrequired, hdenied⟩ := requiredTags_eq hclauses
    have hcapable := (checked_of_authorized hauthz hpolicy hname hrow).2
    rw [qxValidateToolCapabilityPolicy_ok_iff, hrequired, hdenied, ← carriedTags] at hcapable
    rcases h with ⟨hreq, hden⟩ | ⟨tag, htag, hclash⟩
    · exact ⟨fun tag htag => hcapable.1 tag (hreq htag), fun tag htag => hcapable.2 tag (hden htag)⟩
    · exact absurd (hcapable.1 tag htag) (hcapable.2 tag hclash)

/-- The second entry for a key is not read: a tool of the DDL without a tag that it requires, or
with a tag that it denies, is authorised. -/
theorem second_clause_ignored :
    (∃ clauses tag, tag ∈ listedTags requireKeys clauses ∧
      (qxAuthorizeToolsForNamespace opsSession (opsCatalog [clausePolicy clauses] opsCommands) 7 2200
        10 ["search".toList]).isOk = true ∧
      ((opsCatalog [clausePolicy clauses] opsCommands).lookupToolByName 2200 "search".toList).any
        (fun row => tag ∉ carriedTags (opsCatalog [clausePolicy clauses] opsCommands) row) = true) ∧
    ∃ clauses tag, tag ∈ listedTags denyKeys clauses ∧
      (qxAuthorizeToolsForNamespace opsSession (opsCatalog [clausePolicy clauses] opsCommands) 7 2200
        10 ["search".toList]).isOk = true ∧
      ((opsCatalog [clausePolicy clauses] opsCommands).lookupToolByName 2200 "search".toList).any
        (fun row => tag ∈ carriedTags (opsCatalog [clausePolicy clauses] opsCommands) row) = true :=
  ⟨⟨"require_capability=runtime:host;require_capability=attestation:required".toList,
      "attestation:required".toList, by decide +kernel⟩,
    "deny_capability=network:allow;deny_capability=runtime:host".toList, "runtime:host".toList,
      by decide +kernel⟩

end QhapaqXian
