import QhapaqXian.Library.Fields

/-!
# Lists of tags in one text

Tags joined by a separator, with nothing escaped, and two readers of such a text: one splits it at
every separator, the other searches for a key and accepts a match only at the start of a tag.
-/

namespace QhapaqXian.Library

variable {α : Type}

lemma find?_flatMap_cons {β : Type} {p : List α → Bool} {front : β → List α}
    {parts : β → List (List α)} {entries : List β} (h : ∀ entry ∈ entries, p (front entry) = false) :
    (entries.flatMap fun entry => front entry :: parts entry).find? p =
      (entries.flatMap parts).find? p := by
  induction entries with
  | nil => rfl
  | cons entry entries ih =>
    obtain ⟨hentry, hentries⟩ := List.forall_mem_cons.mp h
    rw [List.flatMap_cons, List.flatMap_cons, List.cons_append, List.find?_cons, hentry,
      List.find?_append, List.find?_append, ih hentries]

variable [DecidableEq α] {sep : α} {key : List α}

lemma splitOn_intercalate_flatMap {texts : List (List α)} (h : texts ≠ []) :
    ([sep].intercalate texts).splitOn sep = texts.flatMap (List.splitOn sep) := by
  induction texts with
  | nil => exact absurd rfl h
  | cons text texts ih =>
    cases texts with
    | nil => simp
    | cons next texts =>
      rw [List.intercalate_cons_cons, List.append_assoc, List.singleton_append,
        List.splitOn_append_cons_self, ih (List.cons_ne_nil _ _)]
      simp only [List.flatMap_cons]

lemma part_of_mem_splitOn {text part : List α} (h : part ∈ text.splitOn sep) :
    sep ∉ part ∧ part ⊆ text := by
  induction text generalizing part with
  | nil =>
    rw [List.splitOn_nil, List.mem_singleton] at h
    simp [h]
  | cons c text ih =>
    rw [List.splitOn_cons_eq_if_modifyHead] at h
    split_ifs at h with hc
    · rcases List.mem_cons.mp h with rfl | h
      · simp
      · exact ⟨(ih h).1, List.subset_cons_of_subset c (ih h).2⟩
    · obtain ⟨first, parts, hsplit⟩ := List.exists_cons_of_ne_nil (List.splitOn_ne_nil sep text)
      rw [hsplit, List.modifyHead_cons, List.mem_cons] at h
      rcases h with rfl | h
      · obtain ⟨hfirst, hsubset⟩ : sep ∉ first ∧ first ⊆ text := ih (by simp [hsplit])
        simp only [beq_iff_eq] at hc
        exact ⟨by simp [hfirst, Ne.symm hc], List.cons_subset_cons c hsubset⟩
      · have hpart := ih (by rw [hsplit]; exact List.mem_cons_of_mem _ h)
        exact ⟨hpart.1, List.subset_cons_of_subset c hpart.2⟩

/-- What follows the key in the first tag that starts with it. -/
def firstTag (sep : α) (key text : List α) : Option (List α) :=
  ((text.splitOn sep).find? key.isPrefixOf).map (List.drop key.length)

/-- The search: from the current position on, with `skip` characters of an earlier match to pass
over; a match counts only where a tag starts. -/
def tagScan (sep : α) (key : List α) : Nat → Bool → List α → Option (List α)
  | _, _, [] => none
  | skip + 1, _, c :: rest => tagScan sep key skip (c == sep) rest
  | 0, starts, c :: rest =>
    if key.isPrefixOf (c :: rest) then
      if starts then some (upTo sep ((c :: rest).drop key.length))
      else tagScan sep key (key.length - 1) (c == sep) rest
    else tagScan sep key 0 (c == sep) rest

lemma splitOn_eq_upTo_cons (text : List α) :
    text.splitOn sep = upTo sep text :: (text.splitOn sep).tail := by
  induction text with
  | nil => rfl
  | cons c text ih =>
    rw [List.splitOn_cons_eq_if_modifyHead]
    by_cases hc : c = sep
    · simp [hc, upTo]
    · rw [if_neg (by simpa using hc), ih]
      simp [upTo, hc]

lemma tail_splitOn_cons {c : α} (hc : c ≠ sep) (text : List α) :
    ((c :: text).splitOn sep).tail = (text.splitOn sep).tail := by
  rw [List.splitOn_cons_eq_if_modifyHead, if_neg (by simpa using hc)]
  cases text.splitOn sep <;> rfl

lemma tail_splitOn_eq (text : List α) :
    (text.splitOn sep).tail =
      match text.dropWhile (· ≠ sep) with
      | [] => []
      | _ :: rest => rest.splitOn sep := by
  induction text with
  | nil => rfl
  | cons c text ih =>
    by_cases hc : c = sep
    · subst hc
      rw [List.splitOn_cons_eq_if_modifyHead, if_pos (by simp),
        List.dropWhile_cons_of_neg (by simp), List.tail_cons]
    · rw [tail_splitOn_cons hc, List.dropWhile_cons_of_pos (by simpa using hc), ih]

lemma splitOn_append {word : List α} (hsep : sep ∉ word) (text : List α) :
    (word ++ text).splitOn sep = (word ++ upTo sep text) :: (text.splitOn sep).tail := by
  induction word with
  | nil => exact splitOn_eq_upTo_cons text
  | cons c word ih =>
    rw [List.mem_cons, not_or] at hsep
    rw [List.cons_append, List.splitOn_cons_eq_if_modifyHead,
      if_neg (by simpa using Ne.symm hsep.1), ih hsep.2]
    rfl

lemma firstTag_eq (key text : List α) :
    firstTag sep key text =
      if key <+: upTo sep text then some ((upTo sep text).drop key.length)
      else (((text.splitOn sep).tail).find? key.isPrefixOf).map (List.drop key.length) := by
  unfold firstTag
  rw [splitOn_eq_upTo_cons text, List.tail_cons, List.find?_cons]
  by_cases hkey : key <+: upTo sep text
  · simp [List.isPrefixOf_iff_prefix.mpr hkey, hkey]
  · have hnot : key.isPrefixOf (upTo sep text) = false := by
      rw [← Bool.not_eq_true, List.isPrefixOf_iff_prefix]
      exact hkey
    rw [hnot, if_neg hkey]

lemma prefix_upTo_iff (hsep : sep ∉ key) (text : List α) :
    key <+: upTo sep text ↔ key <+: text := by
  induction text generalizing key with
  | nil => rfl
  | cons c text ih =>
    cases key with
    | nil => simp
    | cons k key =>
      rw [List.mem_cons, not_or] at hsep
      by_cases hc : c = sep
      · have hk : k ≠ c := fun h => hsep.1 (h.trans hc).symm
        simp [upTo, hc, List.cons_prefix_cons, hc ▸ hk]
      · have hcons : upTo sep (c :: text) = c :: upTo sep text := by simp [upTo, hc]
        rw [hcons, List.cons_prefix_cons, List.cons_prefix_cons, ih hsep.2]

lemma drop_upTo (hsep : sep ∉ key) {text : List α} (h : key <+: text) :
    (upTo sep text).drop key.length = upTo sep (text.drop key.length) := by
  obtain ⟨rest, rfl⟩ := h
  unfold upTo
  rw [List.takeWhile_append_of_pos (by
    intro c hc
    simp only [decide_eq_true_eq]
    exact fun h => hsep (h ▸ hc)), List.drop_left, List.drop_left]

/-- The search finds what the split text holds first. While an earlier match is passed over no tag
starts, because the key holds no separator. -/
theorem tagScan_eq (hne : key ≠ []) (hsep : sep ∉ key) (text : List α) :
    (∀ skip, (∀ c ∈ text.take skip, c ≠ sep) → tagScan sep key skip false text =
      (((text.splitOn sep).tail).find? key.isPrefixOf).map (List.drop key.length)) ∧
    tagScan sep key 0 true text = firstTag sep key text := by
  induction text with
  | nil =>
    refine ⟨fun skip _ => ?_, ?_⟩
    · cases skip <;> rfl
    · have hnil : ¬ key <+: upTo sep ([] : List α) := by
        simpa [upTo, List.prefix_nil] using hne
      rw [firstTag_eq, if_neg hnil]
      rfl
  | cons c text ih =>
    -- past a character that does not belong to a match
    have hnext : tagScan sep key 0 (c == sep) text =
        ((((c :: text).splitOn sep).tail).find? key.isPrefixOf).map (List.drop key.length) := by
      by_cases hc : c = sep
      · rw [beq_iff_eq.mpr hc, ih.2, List.splitOn_cons_eq_if_modifyHead, if_pos (by simp [hc])]
        rfl
      · rw [beq_eq_false_iff_ne.mpr hc, tail_splitOn_cons hc]
        exact ih.1 0 (by simp)
    have hfront : key.isPrefixOf (c :: text) = true ↔ key <+: upTo sep (c :: text) := by
      rw [List.isPrefixOf_iff_prefix, prefix_upTo_iff hsep]
    constructor
    · intro skip hskip
      cases skip with
      | succ skip =>
        have hc : c ≠ sep := hskip c (by simp)
        rw [tagScan, beq_eq_false_iff_ne.mpr hc, tail_splitOn_cons hc]
        exact ih.1 skip fun d hd => hskip d (by simp [hd])
      | zero =>
        rw [tagScan]
        by_cases hkey : key.isPrefixOf (c :: text) = true
        · rw [if_pos hkey, if_neg Bool.false_ne_true]
          obtain ⟨k, keys, rfl⟩ := List.exists_cons_of_ne_nil hne
          obtain ⟨rfl, hkeys⟩ := List.cons_prefix_cons.mp (List.isPrefixOf_iff_prefix.mp hkey)
          rw [List.mem_cons, not_or] at hsep
          rw [beq_eq_false_iff_ne.mpr (Ne.symm hsep.1), tail_splitOn_cons (Ne.symm hsep.1)]
          refine ih.1 _ fun d hd => ?_
          rw [List.length_cons, Nat.add_sub_cancel, ← List.prefix_iff_eq_take.mp hkeys] at hd
          exact fun h => hsep.2 (h ▸ hd)
        · rw [if_neg hkey]
          exact hnext
    · rw [tagScan, firstTag_eq]
      by_cases hkey : key.isPrefixOf (c :: text) = true
      · rw [if_pos hkey, if_pos rfl, if_pos (hfront.mp hkey),
          drop_upTo hsep (List.isPrefixOf_iff_prefix.mp hkey)]
      · rw [if_neg hkey, if_neg (mt hfront.mpr hkey)]
        exact hnext

end QhapaqXian.Library
