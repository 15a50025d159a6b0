import QhapaqXian.Library.Padding
import QhapaqXian.Proofs.Authorization
import QhapaqXian.RuntimePolicy

/-!
# Capability tags

The clauses of a namespace policy and the tags of a tool are texts without escaping. The check of
the clauses splits and trims both; the runtime policy is read off the same text by another parser.
-/

namespace QhapaqXian

open Library

variable {tag : CString}

section Trimming

lemma trimSpaces_append {key : CString} (hne : key ≠ []) (hkey : ∀ c ∈ key, isSpace c = false)
    (value : CString) : trimSpaces (key ++ value) = key ++ value.rdropWhile isSpace := by
  have hend : key.rdropWhile isSpace = key := by
    rw [List.rdropWhile_eq_self_iff]
    intro hne
    simp [hkey _ (List.getLast_mem hne)]
  obtain ⟨c, rest, rfl⟩ := List.exists_cons_of_ne_nil hne
  have hstart : (c :: rest ++ value).dropWhile isSpace = c :: rest ++ value := by
    rw [List.cons_append, List.dropWhile_cons_of_neg (by simp [hkey c])]
  rw [trimSpaces, hstart, rdropWhile_append hend]

lemma trimSpaces_trimSpaces (s : CString) : trimSpaces (trimSpaces s) = trimSpaces s := by
  cases hs : s.dropWhile isSpace with
  | nil =>
    have hnil : trimSpaces s = [] := by rw [trimSpaces, hs, List.rdropWhile_nil]
    rw [hnil]
    rfl
  | cons c rest =>
    have hc : isSpace c = false := by
      have hhead := List.head_dropWhile_not isSpace (l := s) (by simp [hs])
      simpa [hs] using hhead
    have htrim : ∀ back, trimSpaces ([c] ++ back) = [c] ++ back.rdropWhile isSpace :=
      trimSpaces_append (by simp) (by simpa using hc)
    have hself : trimSpaces s = [c] ++ rest.rdropWhile isSpace := by
      rw [← htrim rest, trimSpaces, trimSpaces, hs, List.singleton_append,
        List.dropWhile_cons_of_neg (by simp [hc])]
    rw [hself, htrim, List.rdropWhile_idempotent]

lemma trimSpaces_subset (s : CString) : trimSpaces s ⊆ s :=
  ((List.rdropWhile_prefix _ _).sublist.trans (List.dropWhile_suffix _).sublist).subset

end Trimming

section Splitting

/-- A tag that a list of tags can hold as it is. -/
structure CleanTag (tag : CString) : Prop where
  ne_nil : tag ≠ []
  trimmed : trimSpaces tag = tag
  single : '|' ∉ tag

lemma mem_qxSplitCapabilityTags {tags : CString} :
    tag ∈ qxSplitCapabilityTags (some tags) ↔
      tag ≠ [] ∧ ∃ part ∈ tags.splitOn '|', trimSpaces part = tag := by
  simp [qxSplitCapabilityTags, and_comm]

lemma cleanTag_of_mem {serialized : Option CString} (h : tag ∈ qxSplitCapabilityTags serialized) :
    CleanTag tag := by
  obtain ⟨hne, part, hpart, rfl⟩ := mem_qxSplitCapabilityTags.mp h
  exact ⟨hne, trimSpaces_trimSpaces part,
    fun hbar => (part_of_mem_splitOn hpart).1 (trimSpaces_subset part hbar)⟩

lemma qxSplitCapabilityTags_join {tags : List CString} (hne : tags ≠ [])
    (hclean : ∀ tag ∈ tags, CleanTag tag) :
    qxSplitCapabilityTags (some (qxJoinStringList tags "|".toList)) = tags := by
  have hsplit : (qxJoinStringList tags "|".toList).splitOn '|' = tags :=
    List.splitOn_intercalate '|' (fun tag htag => (hclean tag htag).single) hne
  have htrim : tags.map trimSpaces = tags :=
    (List.map_congr_left fun tag htag => (hclean tag htag).trimmed).trans (List.map_id' tags)
  rw [qxSplitCapabilityTags, Option.getD_some, hsplit, htrim, List.filter_eq_self]
  intro tag htag
  simpa using (hclean tag htag).ne_nil

end Splitting

section Clauses

variable {policyName toolName authorizedTags : String} {toolTags tags : List CString}

lemma qxRequireCapabilities_ok_iff :
    qxRequireCapabilities policyName toolName authorizedTags toolTags tags = .ok () ↔
      ∀ tag ∈ tags, tag ∈ toolTags := by
  induction tags with
  | nil => simp [qxRequireCapabilities]
  | cons tag tags ih =>
    simp only [qxRequireCapabilities, ereportDetail, raise_eq_ok_iff, ih, List.forall_mem_cons,
      qxStringListContains, Bool.not_eq_true', Bool.not_eq_false, List.contains_iff_mem]

lemma qxDenyCapabilities_ok_iff :
    qxDenyCapabilities policyName toolName authorizedTags toolTags tags = .ok () ↔
      ∀ tag ∈ tags, tag ∉ toolTags := by
  induction tags with
  | nil => simp [qxDenyCapabilities]
  | cons tag tags ih =>
    simp only [qxDenyCapabilities, ereportDetail, raise_eq_ok_iff, ih, List.forall_mem_cons,
      qxStringListContains, List.contains_iff_mem]

lemma qxValidateToolCapabilityPolicy_ok_iff {policy : NamespacePolicyRow}
    {toolName toolTags : CString} :
    qxValidateToolCapabilityPolicy policy toolName toolTags = .ok () ↔
      (∀ tag ∈ qxSplitCapabilityTags (requiredCapabilities policy),
        tag ∈ qxSplitCapabilityTags (some toolTags)) ∧
      ∀ tag ∈ qxSplitCapabilityTags (deniedCapabilities policy),
        tag ∉ qxSplitCapabilityTags (some toolTags) := by
  unfold qxValidateToolCapabilityPolicy
  by_cases hnone : requiredCapabilities policy = none ∧ deniedCapabilities policy = none
  · have hsplit : qxSplitCapabilityTags none = [] := rfl
    simp [hnone.1, hnone.2, hsplit, pure, Except.pure]
  · have hsome : ((requiredCapabilities policy).isNone && (deniedCapabilities policy).isNone) =
        false := by
      rw [← Bool.not_eq_true, Bool.and_eq_true, Option.isNone_iff_eq_none,
        Option.isNone_iff_eq_none]
      exact hnone
    simp only [hsome, Bool.false_eq_true, if_false, bind_eq_ok_iff, exists_unit_iff,
      qxRequireCapabilities_ok_iff, qxDenyCapabilities_ok_iff]

lemma semicolon_notMem_contractValue {contract : Option CString} {key value : CString}
    (h : qxPolicyContractValue contract key = some value) : ';' ∉ value := by
  unfold qxPolicyContractValue at h
  split_ifs at h
  obtain ⟨entry, hentry, hvalue⟩ := List.exists_of_findSome?_eq_some h
  obtain ⟨-, hsome⟩ := Option.ite_none_right_eq_some.mp hvalue
  rw [← Option.some.inj hsome]
  intro hmem
  exact (part_of_mem_splitOn hentry).1
    (trimSpaces_subset _ (List.mem_of_mem_drop (trimSpaces_subset _ hmem)))

lemma semicolon_notMem_required {policy : NamespacePolicyRow}
    (h : tag ∈ qxSplitCapabilityTags (requiredCapabilities policy)) : ';' ∉ tag := by
  cases hrequired : requiredCapabilities policy with
  | none =>
    rw [hrequired] at h
    cases h
  | some value =>
    rw [hrequired] at h
    obtain ⟨-, part, hpart, rfl⟩ := mem_qxSplitCapabilityTags.mp h
    have hvalue : ';' ∉ value := by
      rcases Option.or_eq_some_iff.mp hrequired with hsome | ⟨-, hsome⟩ <;>
        exact semicolon_notMem_contractValue hsome
    exact fun hmem => hvalue ((part_of_mem_splitOn hpart).2 (trimSpaces_subset part hmem))

/-- A word that none of the delimiters occurs in. -/
structure PlainName (name : CString) : Prop where
  ne_nil : name ≠ []
  noSpace : ∀ c ∈ name, isSpace c = false
  noDelimiter : ∀ c ∈ ['|', ';', '=', ':'], c ∉ name

def clauseText (key tag : CString) : CString :=
  key ++ '=' :: tag

lemma policyEntryValue_clauseText {key other : CString} (hkey : PlainName key)
    (hother : PlainName other) (htag : CleanTag tag) :
    policyEntryValue other (clauseText key tag) = if other = key then some tag else none := by
  have htrim : trimSpaces (clauseText key tag) = clauseText key tag := by
    have hend := List.rdropWhile_idempotent isSpace (tag.dropWhile isSpace)
    rw [← trimSpaces, htag.trimmed] at hend
    rw [clauseText, List.append_cons, trimSpaces_append (by simp), hend]
    intro c hc
    rcases List.mem_append.mp hc with hc | hc
    · exact hkey.noSpace c hc
    · rw [List.mem_singleton.mp hc]
      rfl
  unfold policyEntryValue
  rw [htrim]
  by_cases h : other = key
  · subst h
    have hfront : (other ++ ['=']).isPrefixOf (clauseText other tag) = true := by
      rw [List.isPrefixOf_iff_prefix]
      exact ⟨tag, by simp [clauseText]⟩
    rw [if_pos hfront, if_pos rfl]
    simp [clauseText, htag.trimmed]
  · have hfront : ¬ (other ++ ['=']).isPrefixOf (clauseText key tag) = true := by
      rw [List.isPrefixOf_iff_prefix]
      intro hp
      exact h (prefix_eq_of_first_eq (hkey.noDelimiter '=' (by simp))
        (hother.noDelimiter '=' (by simp)) hp)
    simp [hfront, h]

lemma qxPolicyContractValue_clauseText {key other : CString} (hkey : PlainName key)
    (hother : PlainName other) (htag : CleanTag tag) (hsep : ';' ∉ tag) :
    qxPolicyContractValue (some (clauseText key tag)) other =
      if other = key then some tag else none := by
  have hsplit : (clauseText key tag).splitOn ';' = [clauseText key tag] := by
    refine List.splitOn_eq_singleton fun hc => ?_
    rcases List.mem_append.mp hc with hc | hc
    · exact hkey.noDelimiter ';' (by simp) hc
    · rcases List.mem_cons.mp hc with hc | hc
      · exact absurd hc (by decide)
      · exact hsep hc
  have hempty : isNullOrEmpty (some (clauseText key tag)) = false := by
    obtain ⟨c, rest, hcons⟩ := List.exists_cons_of_ne_nil hkey.ne_nil
    rw [clauseText, hcons]
    rfl
  have hname : other.isEmpty = false := by simpa using hother.ne_nil
  rw [qxPolicyContractValue, hempty, hname, if_neg (by decide), Option.getD_some, hsplit,
    List.findSome?_singleton, policyEntryValue_clauseText hkey hother htag]

lemma qxSplitCapabilityTags_single (h : CleanTag tag) :
    qxSplitCapabilityTags (some tag) = [tag] := by
  simpa [qxJoinStringList] using qxSplitCapabilityTags_join (List.cons_ne_nil tag [])
    (by simpa using h)

def clausePolicy (clauses : CString) : NamespacePolicyRow where
  oid := 7
  name := "guard".toList
  namespaceoid := 2200
  ownerid := 10
  authrole := 11
  requireKnownTools := false
  enforceBudgets := false
  allowedTools := []
  policy := some clauses

def clauseKeys : List String :=
  ["require_capabilities", "require_capability", "deny_capabilities", "deny_capability"]

lemma clauseKeys_plain : ∀ key ∈ clauseKeys, PlainName key.toList := by
  intro key hkey
  simp only [clauseKeys, List.mem_cons, List.not_mem_nil, or_false] at hkey
  rcases hkey with rfl | rfl | rfl | rfl <;>
    exact ⟨by decide, by decide, by decide⟩

lemma clauseValue {key other : String} (hkey : key ∈ clauseKeys) (hother : other ∈ clauseKeys)
    (htag : CleanTag tag) (hsep : ';' ∉ tag) :
    qxPolicyContractValue (some (clauseText key.toList tag)) other.toList =
      if other.toList = key.toList then some tag else none :=
  qxPolicyContractValue_clauseText (clauseKeys_plain key hkey) (clauseKeys_plain other hother) htag
    hsep

lemma requires_clausePolicy (htag : CleanTag tag) (hsep : ';' ∉ tag) :
    qxSplitCapabilityTags (requiredCapabilities
        (clausePolicy (clauseText "require_capabilities".toList tag))) = [tag] ∧
      qxSplitCapabilityTags (deniedCapabilities
        (clausePolicy (clauseText "require_capabilities".toList tag))) = [] := by
  unfold requiredCapabilities deniedCapabilities clausePolicy
  constructor
  · rw [clauseValue (by decide) (by decide) htag hsep, if_pos rfl, Option.some_or,
      qxSplitCapabilityTags_single htag]
  · rw [clauseValue (by decide) (by decide) htag hsep, clauseValue (by decide) (by decide) htag hsep,
      if_neg (by decide), if_neg (by decide)]
    rfl

lemma denies_clausePolicy (htag : CleanTag tag) (hsep : ';' ∉ tag) :
    qxSplitCapabilityTags (requiredCapabilities
        (clausePolicy (clauseText "deny_capabilities".toList tag))) = [] ∧
      qxSplitCapabilityTags (deniedCapabilities
        (clausePolicy (clauseText "deny_capabilities".toList tag))) = [tag] := by
  unfold requiredCapabilities deniedCapabilities clausePolicy
  constructor
  · rw [clauseValue (by decide) (by decide) htag hsep, clauseValue (by decide) (by decide) htag hsep,
      if_neg (by decide), if_neg (by decide)]
    rfl
  · rw [clauseValue (by decide) (by decide) htag hsep, if_pos rfl, Option.some_or,
      qxSplitCapabilityTags_single htag]

end Clauses

/-- What a capability tag can switch on in a runtime policy. -/
inductive RuntimeFlag
  | network
  | privilegeEscalation
  deriving Repr, DecidableEq

def RuntimeFlag.name : RuntimeFlag → CString
  | .network => "network".toList
  | .privilegeEscalation => "privilege_escalation".toList

def RuntimeFlag.key (flag : RuntimeFlag) : CString :=
  flag.name ++ [':']

def RuntimeFlag.allowTag (flag : RuntimeFlag) : CString :=
  flag.key ++ "allow".toList

def QxRuntimePolicy.allows (policy : QxRuntimePolicy) : RuntimeFlag → Bool
  | .network => policy.allowNetwork
  | .privilegeEscalation => policy.allowPrivilegeEscalation

section Flags

lemma sameIgnoringCase_take {value word : CString} {size : Nat} (h : word.length < size) :
    sameIgnoringCase (value.take size) word = sameIgnoringCase value word := by
  rcases le_or_gt value.length size with hlen | hlen
  · rw [List.take_of_length_le hlen]
  · have hne : ∀ {other : CString}, size ≤ other.length → sameIgnoringCase other word = false := by
      intro other hother
      rw [sameIgnoringCase, beq_eq_false_iff_ne]
      intro heq
      have hlength := congrArg List.length heq
      rw [List.length_map, List.length_map] at hlength
      omega
    rw [hne hlen.le, hne (by rw [List.length_take]; omega)]

lemma spellsAllow_take (value : CString) : spellsAllow (value.take 63) = spellsAllow value := by
  simp [spellsAllow, sameIgnoringCase_take]

lemma allows_eq (getenv : Environ) (flag : RuntimeFlag) (tags : CString) :
    (qxRuntimePolicyFromAuthz getenv (some tags)).allows flag =
      (firstTag '|' flag.key tags).any spellsAllow := by
  have hvalue : ∀ key : String, key.toList ≠ [] → '|' ∉ key.toList →
      (qxRuntimePolicyTagValue (some tags) key 64).any spellsAllow =
        (firstTag '|' key.toList tags).any spellsAllow := by
    intro key hne hsep
    rw [qxRuntimePolicyTagValue, Option.bind_some, (tagScan_eq hne hsep tags).2]
    cases firstTag '|' key.toList tags with
    | none => rfl
    | some value => exact spellsAllow_take value
  cases flag with
  | network => exact hvalue "network:" (by decide) (by decide)
  | privilegeEscalation => exact hvalue "privilege_escalation:" (by decide) (by decide)

lemma cleanTag_allowTag (flag : RuntimeFlag) : CleanTag flag.allowTag := by
  cases flag <;> exact ⟨by decide, by decide, by decide⟩

lemma semicolon_notMem_allowTag (flag : RuntimeFlag) : ';' ∉ flag.allowTag := by
  cases flag <;> decide

/-- A policy that denies a flag keeps it off exactly for the tags that carry the denied tag itself,
which are rejected, and those whose first tag for the flag does not spell a permission. -/
theorem denied_flag_off_iff (getenv : Environ) (flag : RuntimeFlag) (tags : CString) :
    (∀ policy toolName, flag.allowTag ∈ qxSplitCapabilityTags (deniedCapabilities policy) →
      qxValidateToolCapabilityPolicy policy toolName tags = .ok () →
        (qxRuntimePolicyFromAuthz getenv (some tags)).allows flag = false) ↔
    flag.allowTag ∈ qxSplitCapabilityTags (some tags) ∨
      (firstTag '|' flag.key tags).any spellsAllow = false := by
  rw [allows_eq]
  constructor
  · intro h
    refine or_iff_not_imp_left.mpr fun hcarries => ?_
    obtain ⟨hrequired, hdenied⟩ := denies_clausePolicy (cleanTag_allowTag flag)
      (semicolon_notMem_allowTag flag)
    refine h (clausePolicy (clauseText "deny_capabilities".toList flag.allowTag)) []
      (by rw [hdenied]; exact List.mem_singleton_self _) ?_
    rw [qxValidateToolCapabilityPolicy_ok_iff, hrequired, hdenied]
    exact ⟨List.forall_mem_nil _, by simpa using hcarries⟩
  · rintro (hcarries | hoff) policy toolName hdenied hok
    · exact absurd hcarries ((qxValidateToolCapabilityPolicy_ok_iff.mp hok).2 _ hdenied)
    · exact hoff

/-- A policy that denies the tag which turns a flag on admits a tool with another tag, and with this
tag the flag is on. -/
def AllowedThoughDenied (flag : RuntimeFlag) (tag : CString) : Prop :=
  flag.allowTag ∈ qxSplitCapabilityTags (deniedCapabilities
      (clausePolicy (clauseText "deny_capabilities".toList flag.allowTag))) ∧
    qxValidateToolCapabilityPolicy
      (clausePolicy (clauseText "deny_capabilities".toList flag.allowTag))
      "search".toList tag = .ok () ∧
    (qxRuntimePolicyFromAuthz (fun _ => none) (some tag)).allows flag = true

instance (flag : RuntimeFlag) (tag : CString) : Decidable (AllowedThoughDenied flag tag) :=
  inferInstanceAs (Decidable (_ ∧ _))

theorem denied_flag_spelled_otherwise :
    AllowedThoughDenied .network "network:yes".toList ∧
      AllowedThoughDenied .privilegeEscalation "privilege_escalation:True".toList := by
  decide +kernel

end Flags

end QhapaqXian
