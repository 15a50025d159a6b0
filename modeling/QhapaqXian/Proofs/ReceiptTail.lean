import QhapaqXian.Proofs.ExecutionTrace

/-!
# Where the stripping loop stops

Every round cuts the detail in front of the second occurrence of one marker, and the markers are
tried in a fixed order. Since no two markers overlap, a cut never reaches into a part of the detail
that repeats none of them.
-/

namespace QhapaqXian

open Library

variable {source : CString}

def receiptMarkers : List CString :=
  [fieldMarker "detail", fieldMarker "tokens", fieldMarker "launch_mode"]

lemma receiptMarkers_spec :
    ∀ marker ∈ receiptMarkers, ∃ pattern, marker = ';' :: pattern ∧ ';' ∉ pattern := by
  intro marker hmarker
  simp only [receiptMarkers, List.mem_cons, List.not_mem_nil, or_false] at hmarker
  rcases hmarker with rfl | rfl | rfl
  · exact ⟨_, rfl, by decide⟩
  · exact ⟨_, rfl, by decide⟩
  · exact ⟨_, rfl, by decide⟩

/-- The finished runs of the stripping loop: a round that finds nothing to cut ends it. -/
inductive StripsTo : CString → CString → Prop
  | stop {source : CString} : qxStripDuplicateReceiptTailOnce source = none →
      StripsTo source source
  | next {source kept result : CString} : qxStripDuplicateReceiptTailOnce source = some kept →
      StripsTo kept result → StripsTo source result

lemma stripsTo_stripRounds {rounds : Nat} (h : source.length ≤ rounds) :
    StripsTo source (stripRounds rounds source) := by
  induction rounds generalizing source with
  | zero =>
    obtain rfl : source = [] := List.length_eq_zero_iff.mp (Nat.le_zero.mp h)
    exact .stop rfl
  | succ rounds ih =>
    rw [stripRounds]
    cases hnext : qxStripDuplicateReceiptTailOnce source with
    | none => exact .stop hnext
    | some kept =>
      have hshorter := (qxStripDuplicateReceiptTailOnce_shortens hnext).2
      exact .next hnext (ih (by omega))

lemma StripsTo.unique {result other : CString} (h : StripsTo source result)
    (hother : StripsTo source other) : result = other := by
  induction h with
  | stop hnone =>
    cases hother with
    | stop _ => rfl
    | next hsome _ => cases hnone.symm.trans hsome
  | next hsome _ ih =>
    cases hother with
    | stop hnone => cases hnone.symm.trans hsome
    | next hother hrest =>
      cases hsome.symm.trans hother
      exact ih hrest

lemma duplicateTail_cuts {marker kept : CString} (h : duplicateTail marker source = some kept) :
    kept ++ marker <+: source ∧ Repeats marker (kept ++ marker) := by
  unfold duplicateTail at h
  cases hfind : strstr source marker with
  | none => simp [hfind] at h
  | some start =>
    obtain ⟨front, rfl⟩ := strstr_suffix hfind
    obtain ⟨rest, rfl⟩ := prefix_of_strstr hfind
    cases hdup : strstr rest marker with
    | none => simp [hfind, hdup] at h
    | some duplicate =>
      have hkept : textBefore (front ++ (marker ++ rest)) duplicate = kept := by
        simpa [hfind, hdup] using h
      obtain ⟨inner, rfl⟩ := strstr_suffix hdup
      obtain ⟨back, rfl⟩ := prefix_of_strstr hdup
      rw [← List.append_assoc, ← List.append_assoc, textBefore_append] at hkept
      subst hkept
      constructor
      · exact ⟨back, by simp only [List.append_assoc]⟩
      · exact ⟨front, inner, [], by simp only [List.append_assoc, List.append_nil]⟩

lemma qxStripDuplicateReceiptTailOnce_cuts {kept : CString}
    (h : qxStripDuplicateReceiptTailOnce source = some kept) :
    ∃ marker ∈ receiptMarkers, kept ++ marker <+: source ∧ Repeats marker (kept ++ marker) := by
  unfold qxStripDuplicateReceiptTailOnce at h
  rw [Option.or_eq_some_iff, Option.or_eq_some_iff] at h
  rcases h with h | ⟨-, h | ⟨-, h⟩⟩
  · exact ⟨_, by simp [receiptMarkers], duplicateTail_cuts h⟩
  · exact ⟨_, by simp [receiptMarkers], duplicateTail_cuts h⟩
  · exact ⟨_, by simp [receiptMarkers], duplicateTail_cuts h⟩

lemma qxStripDuplicateReceiptTailOnce_eq_none_iff_unrepeated :
    qxStripDuplicateReceiptTailOnce source = none ↔
      ∀ marker ∈ receiptMarkers, ¬ Repeats marker source := by
  have honce : ∀ pattern : CString, ';' ∉ pattern →
      (occurrences (';' :: pattern) source ≤ 1 ↔ ¬ Repeats (';' :: pattern) source) := by
    intro pattern hpattern
    rw [repeats_iff_two_le_occurrences hpattern]
    omega
  rw [qxStripDuplicateReceiptTailOnce_eq_none_iff, honce _ (by decide), honce _ (by decide),
    honce _ (by decide)]
  simp only [receiptMarkers, List.forall_mem_cons, List.not_mem_nil, false_imp_iff,
    implies_true, and_true]

/-- Whatever the order of the cuts, none reaches into the longest part. -/
lemma StripsTo.longest {result : CString} (h : StripsTo source result) :
    LongestUnrepeated receiptMarkers source result := by
  induction h with
  | stop hnone =>
    exact longestUnrepeated_self (qxStripDuplicateReceiptTailOnce_eq_none_iff_unrepeated.mp hnone)
  | next hsome _ ih =>
    obtain ⟨marker, hmem, hcut, hrepeats⟩ := qxStripDuplicateReceiptTailOnce_cuts hsome
    exact ih.of_cut receiptMarkers_spec hmem hcut hrepeats

/-- The loop ends on every text, with its longest part that repeats no marker. -/
theorem qxStripDuplicateReceiptTail_longest (source : CString) :
    (∀ result, StripsTo source result ↔ result = qxStripDuplicateReceiptTail source) ∧
      LongestUnrepeated receiptMarkers source (qxStripDuplicateReceiptTail source) := by
  have hends : StripsTo source (qxStripDuplicateReceiptTail source) := stripsTo_stripRounds le_rfl
  constructor
  · intro result
    constructor
    · intro h
      exact h.unique hends
    · rintro rfl
      exact hends
  · exact hends.longest

end QhapaqXian
