import QhapaqXian.Library.Checks
import QhapaqXian.Library.Padding
import QhapaqXian.Proofs.Capabilities

/-!
# Modes and allow lists of a runtime policy

The seccomp mode of a container comes from a tag of its own and does not have to agree with the tag
for privilege escalation.
-/

namespace QhapaqXian

open Library

section Modes

def spellsUnconfined (mode : CString) : Bool :=
  sameIgnoringCase mode "unconfined".toList

/-- The seccomp mode that the tags ask for: the first `seccomp_mode:` tag if it has a value, or else
the first `seccomp:` tag if that has one. -/
def seccompTag (tags : CString) : Option CString :=
  ((firstTag '|' "seccomp_mode:".toList tags).filter (· ≠ [])).or
    ((firstTag '|' "seccomp:".toList tags).filter (· ≠ []))

lemma nonEmptyTagValue_eq (key : String) (hne : key.toList ≠ []) (hsep : '|' ∉ key.toList)
    (destlen : Nat) (hlen : 1 < destlen) (tags : CString) :
    nonEmptyTagValue (some tags) key destlen =
      ((firstTag '|' key.toList tags).filter (· ≠ [])).map (List.take (destlen - 1)) := by
  rw [nonEmptyTagValue, qxRuntimePolicyTagValue, Option.bind_some, (tagScan_eq hne hsep tags).2]
  cases firstTag '|' key.toList tags with
  | none => rfl
  | some value =>
    have hroom : destlen - 1 ≠ 0 := by omega
    by_cases hvalue : value = []
    · simp [Option.filter, hvalue]
    · have htake : value.take (destlen - 1) ≠ [] := by simp [List.take_eq_nil_iff, hvalue, hroom]
      simp [Option.filter, hvalue, htake]

lemma seccompMode_fromAuthz (getenv : Environ) (tags : Option CString) :
    (qxRuntimePolicyFromAuthz getenv tags).seccompMode =
      (tags.bind seccompTag).map (List.take 63) := by
  cases tags with
  | none => rfl
  | some tags =>
    have hmode := nonEmptyTagValue_eq "seccomp_mode:" (by decide) (by decide) 64 (by decide) tags
    have hshort := nonEmptyTagValue_eq "seccomp:" (by decide) (by decide) 64 (by decide) tags
    simp only [qxRuntimePolicyFromAuthz, Option.bind_some, seccompTag, hmode, hshort]
    cases (firstTag '|' "seccomp_mode:".toList tags).filter (· ≠ []) <;> rfl

lemma seccompTag_ne_nil {tags value : CString} (h : seccompTag tags = some value) :
    value ≠ [] := by
  rcases Option.or_eq_some_iff.mp h with hmode | ⟨-, hshort⟩
  · simpa using (Option.filter_eq_some_iff.mp hmode).2
  · simpa using (Option.filter_eq_some_iff.mp hshort).2

lemma eq_of_containerMode {label : String} {mode : Option CString} {known : List String}
    {default found : CString} (h : containerMode label mode known default = .ok found) :
    found = nonEmptyOr mode default := by
  cases mode with
  | none =>
    cases h
    rfl
  | some value =>
    cases value with
    | nil =>
      cases h
      rfl
    | cons c value =>
      rw [containerMode, if_neg (by simp [isNullOrEmpty])] at h
      dsimp only at h
      split_ifs at h
      · cases h
        rfl
      · cases h

/-- A container runs unconfined when its tags ask for it, whatever they say about privilege
escalation, and without a seccomp tag when privilege escalation is allowed. -/
theorem compiled_unconfined_iff {getenv : Environ} {tags : Option CString}
    {compiled : QxRuntimePolicy}
    (h : qxRuntimePolicyCompileContainer (qxRuntimePolicyFromAuthz getenv tags) = .ok compiled) :
    compiled.seccompMode.any spellsUnconfined = true ↔
      (tags.bind seccompTag).any spellsUnconfined = true ∨
        tags.bind seccompTag = none ∧ compiled.allowPrivilegeEscalation = true := by
  simp only [qxRuntimePolicyCompileContainer, bind_eq_ok_iff, pure_eq_ok_iff] at h
  obtain ⟨seccomp, hseccomp, cgroup, -, rfl⟩ := h
  have hfound := eq_of_containerMode hseccomp
  rw [seccompMode_fromAuthz] at hfound
  dsimp only
  rw [Option.any_some, hfound]
  cases htag : tags.bind seccompTag with
  | none =>
    simp only [Option.map_none, nonEmptyOr, Option.any_none, Bool.false_eq_true, true_and,
      false_or]
    cases (qxRuntimePolicyFromAuthz getenv tags).allowPrivilegeEscalation <;> decide
  | some value =>
    obtain ⟨text, -, hvalue⟩ := Option.bind_eq_some_iff.mp htag
    have hcut : value.take 63 ≠ [] := by simp [seccompTag_ne_nil hvalue]
    have hspelling : spellsUnconfined (value.take 63) = spellsUnconfined value :=
      sameIgnoringCase_take (by decide)
    rw [Option.map_some, nonEmptyOr_some, if_neg hcut, hspelling]
    simp only [Option.any_some, reduceCtorEq, false_and, or_false]

def compiledOfTags (tags : String) : Except QxError QxRuntimePolicy :=
  qxRuntimePolicyCompileContainer (qxRuntimePolicyFromAuthz (fun _ => none) (some tags.toList))

/-- A policy that does not escalate privileges and runs unconfined all the same. -/
def unconfinedAlone (policy : QxRuntimePolicy) : Bool :=
  !policy.allowPrivilegeEscalation && policy.seccompMode.any spellsUnconfined

theorem denied_escalation_runs_unconfined :
    (compiledOfTags "privilege_escalation:deny|seccomp_mode:unconfined").toOption.any
      unconfinedAlone = true := by
  decide +kernel

theorem untagged_container_confined :
    (compiledOfTags "network:allow").isOk = true ∧
      ∀ compiled, compiledOfTags "network:allow" = .ok compiled →
        compiled.seccompMode.any spellsUnconfined = false := by
  refine ⟨by decide +kernel, fun compiled hcompiled => ?_⟩
  have hescalation : compiled.allowPrivilegeEscalation = false := by
    simp only [compiledOfTags, qxRuntimePolicyCompileContainer, bind_eq_ok_iff, pure_eq_ok_iff]
      at hcompiled
    obtain ⟨-, -, -, -, rfl⟩ := hcompiled
    dsimp only
    decide +kernel
  have htag : (some "network:allow".toList).bind seccompTag = none := by decide +kernel
  rw [Bool.eq_false_iff, Ne, compiled_unconfined_iff hcompiled, htag, hescalation]
  simp

end Modes

section AllowLists

variable {value : CString}

/-- The loop finds a reference among the entries with the blanks in front of them dropped; a last
entry that is empty is never looked at and would not be a reference. -/
lemma allowlistHas_iff (hne : value ≠ []) {rounds : Nat} {cursor : CString}
    (h : cursor.length ≤ rounds) :
    allowlistHas value rounds cursor = true ↔
      ∃ entry ∈ cursor.splitOn ',', entry.dropWhile isSpace = value := by
  induction rounds generalizing cursor with
  | zero =>
    have hcursor : cursor = [] := List.eq_nil_of_length_eq_zero (by omega)
    simp [hcursor, allowlistHas, hne.symm]
  | succ rounds ih =>
    cases cursor with
    | nil => simp [allowlistHas, hne.symm]
    | cons c cursor =>
      rw [splitOn_eq_upTo_cons, tail_splitOn_eq, allowlistHas.eq_def]
      dsimp only
      cases hrest : (c :: cursor).dropWhile (· ≠ ',') with
      | nil => simp
      | cons comma rest =>
        have hlength : rest.length ≤ rounds := by
          have hsuffix := (List.dropWhile_suffix (· ≠ ',') (l := c :: cursor)).length_le
          rw [hrest] at hsuffix
          simp only [List.length_cons] at hsuffix h
          omega
        simp only [List.exists_mem_cons_iff, ← ih hlength]
        by_cases hentry : (upTo ',' (c :: cursor)).dropWhile isSpace = value
        · simp [hentry]
        · simp [hentry]

lemma validateAllowlistEntry_ok_iff (getenv : Environ) (value : Option CString)
    (envVar label : String) :
    qxRuntimePolicyValidateAllowlistEntry getenv value envVar label = .ok () ↔
      isNullOrEmpty value = false ∧ (isNullOrEmpty (getenv envVar) = true ∨
        ∃ entry ∈ ((getenv envVar).getD []).splitOn ',',
          entry.dropWhile isSpace = value.getD []) := by
  unfold qxRuntimePolicyValidateAllowlistEntry
  simp only [ereport, raise_eq_ok_iff, Bool.not_eq_true]
  refine and_congr_right fun hvalue => ?_
  obtain ⟨ref, rfl, hne⟩ := exists_of_isNullOrEmpty hvalue
  cases hlist : isNullOrEmpty (getenv envVar) with
  | true => simp [pure, Except.pure]
  | false =>
    simp only [Bool.false_eq_true, if_false, raise_last_eq_ok_iff, false_or, Option.getD_some,
      pure_eq_ok_iff, and_true]
    rw [← allowlistHas_iff hne le_rfl]
    simp

/-- The reference is on the list when the list is not set, or when one of its entries is the
reference with blanks around it. -/
def OnAllowlist (getenv : Environ) (value : Option CString) (envVar : String) : Prop :=
  isNullOrEmpty value = false ∧ (isNullOrEmpty (getenv envVar) = true ∨
    ∃ entry ∈ ((getenv envVar).getD []).splitOn ',', trimSpaces entry = value.getD [])

instance (getenv : Environ) (value : Option CString) (envVar : String) :
    Decidable (OnAllowlist getenv value envVar) :=
  inferInstanceAs (Decidable (_ ∧ _))

def startsBlank (ref : CString) : Bool :=
  ref.head?.any isSpace

def endsBlank (ref : CString) : Bool :=
  ref.getLast?.any isSpace

/-- Blanks behind an entry do not decide whether the reference is found: a reference that itself
ends in a blank is no entry, and one that does not stands somewhere with nothing behind it if it
stands on the list at all. -/
def BlanksBehindIrrelevant (entries : List CString) (ref : CString) : Prop :=
  startsBlank ref = true ∨
    if endsBlank ref then ∀ entry ∈ entries, ¬ Indented isSpace ref entry
    else (∃ entry ∈ entries, Padded isSpace ref entry) →
      ∃ entry ∈ entries, Indented isSpace ref entry

lemma found_agrees_iff (hne : value ≠ []) (entries : List CString) :
    ((∃ entry ∈ entries, entry.dropWhile isSpace = value) ↔
      ∃ entry ∈ entries, trimSpaces entry = value) ↔ BlanksBehindIrrelevant entries value := by
  unfold BlanksBehindIrrelevant
  cases hstart : startsBlank value with
  | true =>
    -- neither way of trimming leaves a text that starts with a blank
    have hleft : ∀ entry : CString, entry.dropWhile isSpace ≠ value := by
      rintro entry rfl
      cases hstart.symm.trans ((dropWhile_eq_self_iff_head? _).mp (dropWhile_dropWhile entry))
    have hboth : ∀ entry, trimSpaces entry ≠ value :=
      fun entry h => by cases hstart.symm.trans (trim_ends hne h).1
    simp [hleft, hboth]
  | false =>
    simp only [dropWhile_eq_iff_indented hstart, Bool.false_eq_true, false_or]
    cases hend : endsBlank value with
    | true =>
      have hboth : ∀ entry, trimSpaces entry ≠ value :=
        fun entry h => by cases hend.symm.trans (trim_ends hne h).2
      simp [hboth]
    | false =>
      have hboth : ∀ entry, trimSpaces entry = value ↔ Padded isSpace value entry :=
        fun entry => trim_eq_iff_padded hne hstart hend
      simp only [hboth, Bool.false_eq_true, if_false]
      constructor
      · exact Iff.mpr
      · intro h
        exact ⟨fun ⟨entry, hmem, hentry⟩ => ⟨entry, hmem, hentry.padded⟩, h⟩

/-- The check finds exactly the entries of the list, blanks around them removed, when blanks behind
an entry do not matter. -/
theorem allowlist_check_iff (getenv : Environ) (value : Option CString) (envVar label : String) :
    (qxRuntimePolicyValidateAllowlistEntry getenv value envVar label = .ok () ↔
      OnAllowlist getenv value envVar) ↔
    isNullOrEmpty value = true ∨ isNullOrEmpty (getenv envVar) = true ∨
      BlanksBehindIrrelevant (((getenv envVar).getD []).splitOn ',') (value.getD []) := by
  rw [validateAllowlistEntry_ok_iff, OnAllowlist]
  cases hvalue : isNullOrEmpty value with
  | true => simp
  | false =>
    cases hlist : isNullOrEmpty (getenv envVar) with
    | true => simp
    | false =>
      obtain ⟨ref, rfl, hne⟩ := exists_of_isNullOrEmpty hvalue
      simp only [true_and, Bool.false_eq_true, false_or, Option.getD_some]
      exact found_agrees_iff hne _

def spacedAllowlist : Environ :=
  fun _ => some "alpine:3.20 , busybox:1.36".toList

theorem listed_image_refused :
    (qxRuntimePolicyValidateImageRef spacedAllowlist (some "alpine:3.20".toList)).isOk = false ∧
      OnAllowlist spacedAllowlist (some "alpine:3.20".toList) "QX_CONTAINER_IMAGE_ALLOWLIST" := by
  decide +kernel

end AllowLists

end QhapaqXian
