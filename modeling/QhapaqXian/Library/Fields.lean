import Mathlib.Data.List.Infix
import Mathlib.Data.List.TakeWhile
import Mathlib.Tactic.Lemma

/-!
# Delimited `key=value` text

First-occurrence search in a text and the `key=value;key=value` format that is written by joining
fields and read back by searching for `key=`.
-/

namespace QhapaqXian.Library

variable {α : Type}

lemma prefix_append_cons_iff {c : α} {text rest pattern : List α} (hc : c ∉ pattern) :
    pattern <+: text ++ c :: rest ↔ pattern <+: text := by
  induction text generalizing pattern with
  | nil =>
    cases pattern with
    | nil => simp
    | cons p pattern =>
      have hp : p ≠ c := fun h => hc (by simp [h])
      simp [List.cons_prefix_cons, hp]
  | cons d text ih =>
    cases pattern with
    | nil => simp
    | cons p pattern =>
      have hc' : c ∉ pattern := fun h => hc (List.mem_cons_of_mem p h)
      simp only [List.cons_append, List.cons_prefix_cons, ih hc']

/-- A match of `key=` at the start of `name=…` makes `key` the whole of `name`. -/
lemma prefix_eq_of_first_eq {eq : α} {name rest key : List α} (hname : eq ∉ name)
    (hkey : eq ∉ key) (h : key ++ [eq] <+: name ++ eq :: rest) : key = name := by
  induction name generalizing key with
  | nil =>
    cases key with
    | nil => rfl
    | cons k key =>
      have hk : k = eq := (List.cons_prefix_cons.mp h).1
      exact absurd (by simp [hk]) hkey
  | cons d name ih =>
    cases key with
    | nil =>
      have hd : eq = d := (List.cons_prefix_cons.mp h).1
      exact absurd (by simp [hd]) hname
    | cons k key =>
      have hcons := List.cons_prefix_cons.mp h
      rw [hcons.1, ih (fun h => hname (List.mem_cons_of_mem d h))
        (fun h => hkey (List.mem_cons_of_mem k h)) hcons.2]

def renderField (eq : α) (field : List α × List α) : List α :=
  field.1 ++ eq :: field.2

def renderFields (eq sep : α) : List (List α × List α) → List α
  | [] => []
  | [field] => renderField eq field
  | field :: rest => renderField eq field ++ sep :: renderFields eq sep rest

lemma renderFields_cons_append {eq sep : α} (field next : List α × List α)
    (rest : List (List α × List α)) :
    renderFields eq sep (field :: next :: rest) =
      field.1 ++ eq :: (field.2 ++ sep :: renderFields eq sep (next :: rest)) := by
  simp [renderFields, renderField]

lemma append_cons_inj_of_notMem {sep : α} {front front' rest rest' : List α} (h : sep ∉ front)
    (h' : sep ∉ front') (heq : front ++ sep :: rest = front' ++ sep :: rest') :
    front = front' ∧ rest = rest' := by
  induction front generalizing front' with
  | nil =>
    cases front' with
    | nil => exact ⟨rfl, List.tail_eq_of_cons_eq heq⟩
    | cons c front' => exact absurd (by simp [List.head_eq_of_cons_eq heq]) h'
  | cons c front ih =>
    cases front' with
    | nil => exact absurd (by simp [List.head_eq_of_cons_eq heq]) h
    | cons d front' =>
      obtain ⟨hfront, hrest⟩ := ih (fun hc => h (List.mem_cons_of_mem c hc))
        (fun hd => h' (List.mem_cons_of_mem d hd)) (List.tail_eq_of_cons_eq heq)
      exact ⟨by rw [List.head_eq_of_cons_eq heq, hfront], hrest⟩

section Determined

variable {eq sep : α} {key value value' : List α} {next next' : List α × List α}
  {rest rest' : List (List α × List α)}

lemma renderFields_append_cancel (fields : List (List α × List α))
    (h : renderFields eq sep (fields ++ next :: rest) =
      renderFields eq sep (fields ++ next' :: rest')) :
    renderFields eq sep (next :: rest) = renderFields eq sep (next' :: rest') := by
  induction fields with
  | nil => exact h
  | cons field fields ih =>
    apply ih
    have hfront (other : List α × List α) (others : List (List α × List α)) :
        renderFields eq sep (field :: (fields ++ other :: others)) = field.1 ++
          eq :: (field.2 ++ sep :: renderFields eq sep (fields ++ other :: others)) := by
      cases fields with
      | nil => exact renderFields_cons_append field other others
      | cons second fields => exact renderFields_cons_append field second _
    rw [List.cons_append, List.cons_append, hfront, hfront] at h
    exact List.tail_eq_of_cons_eq (List.append_cancel_left
      (List.tail_eq_of_cons_eq (List.append_cancel_left h)))

lemma renderFields_value_inj (hvalue : sep ∉ value) (hvalue' : sep ∉ value')
    (h : renderFields eq sep ((key, value) :: next :: rest) =
      renderFields eq sep ((key, value') :: next' :: rest')) :
    value = value' ∧
      renderFields eq sep (next :: rest) = renderFields eq sep (next' :: rest') := by
  rw [renderFields_cons_append, renderFields_cons_append] at h
  exact append_cons_inj_of_notMem hvalue hvalue'
    (List.tail_eq_of_cons_eq (List.append_cancel_left h))

lemma renderFields_last_inj
    (h : renderFields eq sep [(key, value)] = renderFields eq sep [(key, value')]) :
    value = value' :=
  List.tail_eq_of_cons_eq (List.append_cancel_left h)

end Determined

variable [DecidableEq α]

/-- The suffix of the text that starts at the first occurrence of the pattern, as C's `strstr`. -/
def strstr (text pattern : List α) : Option (List α) :=
  if pattern.isPrefixOf text then some text
  else
    match text with
    | [] => none
    | _ :: rest => strstr rest pattern

/-- The text before the first separator, or the whole text. -/
def upTo (sep : α) (text : List α) : List α :=
  text.takeWhile (· ≠ sep)

/-- The value read for a key: the text from the first `key=` up to the next separator. -/
def fieldValue (eq sep : α) (text key : List α) : Option (List α) :=
  (strstr text (key ++ [eq])).map fun start => upTo sep (start.drop (key.length + 1))

/-- The text that the first earlier value holding `key=` puts in place of the key's own value. -/
def shadow (eq : α) (key : List α) (earlier : List (List α × List α)) : Option (List α) :=
  earlier.findSome? fun field =>
    (strstr field.2 (key ++ [eq])).map fun start => start.drop (key.length + 1)

lemma strstr_eq_self {text pattern : List α} (h : pattern <+: text) :
    strstr text pattern = some text := by
  unfold strstr
  rw [if_pos (List.isPrefixOf_iff_prefix.mpr h)]

lemma strstr_cons_eq_tail {c : α} {text pattern : List α} (h : ¬ pattern <+: c :: text) :
    strstr (c :: text) pattern = strstr text pattern := by
  rw [strstr, if_neg (fun hp => h (List.isPrefixOf_iff_prefix.mp hp))]

lemma strstr_nil_of_ne {pattern : List α} (h : pattern ≠ []) : strstr [] pattern = none := by
  have hp : ¬ pattern.isPrefixOf [] = true := by
    rw [List.isPrefixOf_iff_prefix, List.prefix_nil]
    exact h
  rw [strstr, if_neg hp]

lemma prefix_of_strstr {text pattern start : List α} (h : strstr text pattern = some start) :
    pattern <+: start := by
  induction text with
  | nil =>
    unfold strstr at h
    split at h
    · next hp =>
      cases h
      exact List.isPrefixOf_iff_prefix.mp hp
    · cases h
  | cons c text ih =>
    by_cases hp : pattern <+: c :: text
    · rw [strstr_eq_self hp] at h
      cases h
      exact hp
    · rw [strstr_cons_eq_tail hp] at h
      exact ih h

/-- No match of a pattern without `c` reaches across a `c` of the text. -/
lemma strstr_append_cons {c : α} {text rest pattern : List α} (hc : c ∉ pattern)
    (hne : pattern ≠ []) :
    strstr (text ++ c :: rest) pattern =
      ((strstr text pattern).map (· ++ c :: rest)).or (strstr rest pattern) := by
  induction text with
  | nil =>
    have hn : ¬ pattern <+: [] ++ c :: rest := by
      rw [prefix_append_cons_iff hc, List.prefix_nil]
      exact hne
    rw [strstr_nil_of_ne hne, List.nil_append, strstr_cons_eq_tail hn]
    rfl
  | cons d text ih =>
    by_cases hp : pattern <+: d :: text
    · rw [strstr_eq_self ((prefix_append_cons_iff hc).mpr hp), strstr_eq_self hp]
      rfl
    · have hp' : ¬ pattern <+: d :: (text ++ c :: rest) := by
        rw [← List.cons_append, prefix_append_cons_iff hc]
        exact hp
      rw [List.cons_append, strstr_cons_eq_tail hp', strstr_cons_eq_tail hp, ih]

lemma strstr_name_eq {eq : α} {name rest key : List α} (hname : eq ∉ name) (hkey : eq ∉ key) :
    strstr (name ++ eq :: rest) (key ++ [eq]) =
      if key <:+ name then some (key ++ eq :: rest) else strstr rest (key ++ [eq]) := by
  induction name with
  | nil =>
    by_cases hk : key = []
    · subst hk
      rw [if_pos (List.nil_suffix), strstr_eq_self]
      exact ⟨rest, rfl⟩
    · rw [if_neg (fun h => hk (List.suffix_nil.mp h)), List.nil_append, strstr_cons_eq_tail]
      intro h
      obtain ⟨k, key', rfl⟩ := List.exists_cons_of_ne_nil hk
      have hke : k = eq := (List.cons_prefix_cons.mp h).1
      exact hkey (by simp [hke])
  | cons d name ih =>
    have hname' : eq ∉ name := fun h => hname (List.mem_cons_of_mem d h)
    by_cases hk : key = d :: name
    · subst hk
      rw [if_pos (List.suffix_refl _), strstr_eq_self]
      exact ⟨rest, by simp⟩
    · have hp : ¬ key ++ [eq] <+: d :: (name ++ eq :: rest) := by
        intro h
        exact hk (prefix_eq_of_first_eq hname hkey h)
      rw [List.cons_append, strstr_cons_eq_tail hp, ih hname']
      simp only [List.suffix_cons_iff, hk, false_or]

lemma upTo_append_cons {sep : α} (text rest : List α) :
    upTo sep (text ++ sep :: rest) = upTo sep text := by
  induction text with
  | nil => simp [upTo]
  | cons c text ih =>
    unfold upTo at ih ⊢
    rw [List.cons_append, List.takeWhile_cons, List.takeWhile_cons, ih]

lemma notMem_upTo (sep : α) (text : List α) : sep ∉ upTo sep text := by
  intro h
  have hs := List.mem_takeWhile_imp h
  simp at hs

lemma upTo_of_notMem {sep : α} {text : List α} (h : sep ∉ text) : upTo sep text = text := by
  unfold upTo
  rw [List.takeWhile_eq_self_iff]
  intro c hc
  simp only [decide_eq_true_eq]
  exact fun hcs => h (hcs ▸ hc)

lemma notMem_of_fieldValue {eq sep : α} {text key value : List α}
    (h : fieldValue eq sep text key = some value) : sep ∉ value := by
  obtain ⟨start, -, rfl⟩ := Option.map_eq_some_iff.mp h
  exact notMem_upTo sep _

/-- What a search for `key=` finds in a rendered text: the first earlier value holding `key=`,
and the key's own field only if there is none. -/
lemma fieldValue_renderFields {eq sep : α} {key value : List α}
    {earlier later : List (List α × List α)} (hkey : eq ∉ key) (hsep : sep ∉ key)
    (hne : eq ≠ sep) (hnames : ∀ field ∈ earlier, eq ∉ field.1 ∧ ¬ key <:+ field.1) :
    fieldValue eq sep (renderFields eq sep (earlier ++ (key, value) :: later)) key =
      some (upTo sep ((shadow eq key earlier).getD value)) := by
  have hpat : sep ∉ key ++ [eq] := by simp [hsep, hne.symm]
  have hpne : key ++ [eq] ≠ [] := by simp
  induction earlier with
  | nil =>
    cases later with
    | nil =>
      simp [fieldValue, renderFields, renderField, shadow, strstr_name_eq hkey hkey]
    | cons next later =>
      rw [List.nil_append, renderFields_cons_append]
      simp [fieldValue, shadow, strstr_name_eq hkey hkey, upTo_append_cons]
  | cons field earlier ih =>
    obtain ⟨hfe, hfk⟩ := hnames field (by simp)
    obtain ⟨next, rest, hrest⟩ : ∃ next rest, earlier ++ (key, value) :: later = next :: rest := by
      cases earlier with
      | nil => exact ⟨_, _, rfl⟩
      | cons e es => exact ⟨_, _, rfl⟩
    have ih := ih fun f hf => hnames f (List.mem_cons_of_mem _ hf)
    rw [List.cons_append, hrest, renderFields_cons_append, ← hrest, fieldValue,
      strstr_name_eq hfe hkey, if_neg hfk, strstr_append_cons hpat hpne]
    cases hs : strstr field.2 (key ++ [eq]) with
    | none =>
      rw [Option.map_none, Option.none_or]
      rw [fieldValue] at ih
      simp [ih, shadow, hs]
    | some start =>
      have hlen : key.length + 1 ≤ start.length := by
        simpa using (prefix_of_strstr hs).length_le
      simp [shadow, hs, List.drop_append_of_le_length hlen, upTo_append_cons]

lemma strstr_suffix {text pattern start : List α} (h : strstr text pattern = some start) :
    start <:+ text := by
  induction text with
  | nil =>
    unfold strstr at h
    split at h
    · cases h
      exact List.suffix_refl _
    · cases h
  | cons c text ih =>
    by_cases hp : pattern <+: c :: text
    · rw [strstr_eq_self hp] at h
      cases h
      exact List.suffix_refl _
    · rw [strstr_cons_eq_tail hp] at h
      exact (ih h).trans (List.suffix_cons c text)

lemma notMem_of_shadow {eq sep : α} {key text : List α} {earlier : List (List α × List α)}
    (h : shadow eq key earlier = some text) (hsep : ∀ field ∈ earlier, sep ∉ field.2) :
    sep ∉ text := by
  obtain ⟨field, hf, hs⟩ := List.exists_of_findSome?_eq_some h
  obtain ⟨start, hstart, rfl⟩ := Option.map_eq_some_iff.mp hs
  intro hmem
  exact hsep field hf ((strstr_suffix hstart).subset (List.mem_of_mem_drop hmem))

/-- Names that a rendered text can be searched for: no delimiter in a name, and no name is the
end of an earlier one. -/
structure SearchableNames (eq sep : α) (names : List (List α)) : Prop where
  eq_notMem : ∀ name ∈ names, eq ∉ name
  sep_notMem : ∀ name ∈ names, sep ∉ name
  not_suffix : names.Pairwise fun earlier name => ¬ name <:+ earlier

lemma fieldValue_of_split {eq sep : α} (hne : eq ≠ sep)
    {fields earlier later : List (List α × List α)}
    (hnames : SearchableNames eq sep (fields.map Prod.fst)) {field : List α × List α}
    (hsplit : fields = earlier ++ field :: later) :
    fieldValue eq sep (renderFields eq sep fields) field.1 =
      some (upTo sep ((shadow eq field.1 earlier).getD field.2)) := by
  have hmem : field.1 ∈ fields.map Prod.fst := List.mem_map_of_mem (by simp [hsplit])
  rw [hsplit]
  refine fieldValue_renderFields (hnames.eq_notMem _ hmem) (hnames.sep_notMem _ hmem) hne ?_
  intro other hother
  refine ⟨hnames.eq_notMem _ (List.mem_map_of_mem (by simp [hsplit, hother])), ?_⟩
  have hpair := hnames.not_suffix
  rw [hsplit, List.map_append, List.map_cons, List.pairwise_append] at hpair
  exact hpair.2.2 other.1 (List.mem_map_of_mem hother) field.1 (by simp)

/-- Every field is read back with its own value exactly when no value holds the separator and the
text an earlier value puts in the place of a field is that field's own value. -/
theorem fieldValue_reads_back_iff {eq sep : α} (hne : eq ≠ sep)
    (fields : List (List α × List α)) (hnames : SearchableNames eq sep (fields.map Prod.fst)) :
    (∀ field ∈ fields, fieldValue eq sep (renderFields eq sep fields) field.1 = some field.2) ↔
      (∀ field ∈ fields, sep ∉ field.2) ∧
      ∀ earlier field later, fields = earlier ++ field :: later →
        ∀ text, shadow eq field.1 earlier = some text → text = field.2 := by
  have hread : ∀ earlier field later, fields = earlier ++ field :: later → _ :=
    fun earlier field later => fieldValue_of_split hne hnames
  constructor
  · intro h
    have hsep : ∀ field ∈ fields, sep ∉ field.2 := by
      intro field hfield
      obtain ⟨earlier, later, hsplit⟩ := List.append_of_mem hfield
      have hvalue := (hread earlier field later hsplit).symm.trans (h field hfield)
      rw [← Option.some.inj hvalue]
      exact notMem_upTo sep _
    refine ⟨hsep, ?_⟩
    intro earlier field later hsplit text htext
    have hvalue := (hread earlier field later hsplit).symm.trans (h field (by simp [hsplit]))
    have hclean := notMem_of_shadow htext fun f hf => hsep f (by simp [hsplit, hf])
    rw [htext, Option.getD_some, upTo_of_notMem hclean] at hvalue
    exact Option.some.inj hvalue
  · rintro ⟨hsep, hshadow⟩ field hfield
    obtain ⟨earlier, later, hsplit⟩ := List.append_of_mem hfield
    rw [hread earlier field later hsplit]
    cases htext : shadow eq field.1 earlier with
    | none => rw [Option.getD_none, upTo_of_notMem (hsep field hfield)]
    | some text =>
      have hvalue := hshadow earlier field later hsplit text htext
      rw [Option.getD_some, hvalue, upTo_of_notMem (hsep field hfield)]

end QhapaqXian.Library
