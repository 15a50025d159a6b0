import QhapaqXian.Library.Fields

/-!
# Markers in a text

A marker is a separator followed by a pattern without it, such as `;key=`. Occurrences of a marker
do not reach across a separator, so they can be counted part by part.
-/

namespace QhapaqXian.Library

variable {α : Type}

def textBefore (text start : List α) : List α :=
  text.take (text.length - start.length)

@[simp] lemma textBefore_append (front start : List α) :
    textBefore (front ++ start) start = front := by
  simp [textBefore]

/-- What follows a field in a rendered text: nothing, or the separator and the other fields. -/
def renderRest (eq sep : α) : List (List α × List α) → List α
  | [] => []
  | field :: rest => sep :: renderFields eq sep (field :: rest)

lemma renderFields_cons {eq sep : α} (field : List α × List α) (rest : List (List α × List α)) :
    renderFields eq sep (field :: rest) =
      field.1 ++ eq :: (field.2 ++ renderRest eq sep rest) := by
  cases rest with
  | nil => simp [renderFields, renderField, renderRest]
  | cons next rest => exact renderFields_cons_append field next rest

lemma renderFields_append {eq sep : α} {front : List (List α × List α)} (hne : front ≠ [])
    (rest : List (List α × List α)) :
    renderFields eq sep (front ++ rest) = renderFields eq sep front ++ renderRest eq sep rest := by
  induction front with
  | nil => exact absurd rfl hne
  | cons field front ih =>
    cases front with
    | nil =>
      rw [List.singleton_append, renderFields_cons]
      simp [renderFields, renderField]
    | cons next front =>
      have htail := ih (List.cons_ne_nil _ _)
      rw [List.cons_append] at htail
      rw [List.cons_append, List.cons_append, renderFields_cons_append, renderFields_cons_append,
        htail]
      simp

lemma renderFields_concat {eq sep : α} (fields : List (List α × List α)) (hne : fields ≠ [])
    (name value : List α) :
    renderFields eq sep (fields ++ [(name, value)]) =
      renderFields eq sep fields ++ sep :: (name ++ eq :: value) :=
  renderFields_append hne [(name, value)]

variable [DecidableEq α]

lemma strstr_eq_none_of_notMem {c : α} {text pattern : List α} (hc : c ∈ pattern)
    (h : c ∉ text) : strstr text pattern = none := by
  cases hs : strstr text pattern with
  | none => rfl
  | some start => exact absurd ((strstr_suffix hs).subset ((prefix_of_strstr hs).subset hc)) h

lemma not_infix_of_strstr_eq_none {text pattern : List α} (h : strstr text pattern = none) :
    ¬ pattern <:+: text := by
  rintro ⟨front, back, rfl⟩
  induction front with
  | nil =>
    rw [List.nil_append, strstr_eq_self (List.prefix_append pattern back)] at h
    cases h
  | cons c front ih =>
    by_cases hp : pattern <+: c :: (front ++ pattern ++ back)
    · rw [List.cons_append, List.cons_append, strstr_eq_self hp] at h
      cases h
    · rw [List.cons_append, List.cons_append, strstr_cons_eq_tail hp] at h
      exact ih h

lemma strstr_isSome_iff {text pattern : List α} :
    (strstr text pattern).isSome = true ↔ pattern <:+: text := by
  cases h : strstr text pattern with
  | none => simp [not_infix_of_strstr_eq_none h]
  | some start =>
    have hwithin : pattern <:+: text :=
      (prefix_of_strstr h).isInfix.trans (strstr_suffix h).isInfix
    simp [hwithin]

section Fields

variable {eq sep : α} {key : List α}

/-- A field that a search for `key=` passes over or stops at, but not within. -/
structure PlainField (eq : α) (key : List α) (field : List α × List α) : Prop where
  name : eq ∉ field.1
  value : eq ∉ field.2
  own : key <:+ field.1 → field.1 = key

lemma strstr_renderFields_cons (hkey : eq ∉ key) (hsep : sep ∉ key ++ [eq])
    {field : List α × List α} (hfield : PlainField eq key field) (hother : field.1 ≠ key)
    (rest : List (List α × List α)) :
    strstr (renderFields eq sep (field :: rest)) (key ++ [eq]) =
      strstr (renderFields eq sep rest) (key ++ [eq]) := by
  have hvalue : strstr field.2 (key ++ [eq]) = none :=
    strstr_eq_none_of_notMem (by simp) hfield.value
  rw [renderFields_cons, strstr_name_eq hfield.name hkey, if_neg fun h => hother (hfield.own h)]
  cases rest with
  | nil => simp [renderRest, renderFields, hvalue, strstr_nil_of_ne]
  | cons next rest =>
    rw [renderRest, strstr_append_cons hsep (by simp), hvalue, Option.map_none, Option.none_or]

/-- The search finds the first field of that name. -/
lemma strstr_renderFields (hkey : eq ∉ key) (hsep : sep ∉ key ++ [eq])
    {front : List (List α × List α)}
    (hfront : ∀ field ∈ front, PlainField eq key field ∧ field.1 ≠ key) (value : List α)
    (rest : List (List α × List α)) :
    strstr (renderFields eq sep (front ++ (key, value) :: rest)) (key ++ [eq]) =
      some (renderFields eq sep ((key, value) :: rest)) := by
  induction front with
  | nil =>
    rw [List.nil_append, strstr_eq_self]
    exact ⟨value ++ renderRest eq sep rest, by simp [renderFields_cons]⟩
  | cons field front ih =>
    obtain ⟨hfield, hfront⟩ := List.forall_mem_cons.mp hfront
    rw [List.cons_append, strstr_renderFields_cons hkey hsep hfield.1 hfield.2, ih hfront]

lemma strstr_renderFields_eq_none (hkey : eq ∉ key) (hsep : sep ∉ key ++ [eq])
    {fields : List (List α × List α)}
    (h : ∀ field ∈ fields, PlainField eq key field ∧ field.1 ≠ key) :
    strstr (renderFields eq sep fields) (key ++ [eq]) = none := by
  induction fields with
  | nil => exact strstr_nil_of_ne (by simp)
  | cons field fields ih =>
    obtain ⟨hfield, hfields⟩ := List.forall_mem_cons.mp h
    rw [strstr_renderFields_cons hkey hsep hfield.1 hfield.2, ih hfields]

end Fields

def occurrences (pattern : List α) : List α → Nat
  | [] => 0
  | c :: text => (if pattern.isPrefixOf (c :: text) then 1 else 0) + occurrences pattern text

lemma strstr_append {text start pattern : List α} (more : List α)
    (h : strstr text pattern = some start) :
    strstr (text ++ more) pattern = some (start ++ more) := by
  induction text with
  | nil =>
    obtain rfl : start = [] := List.suffix_nil.mp (strstr_suffix h)
    obtain rfl : pattern = [] := List.prefix_nil.mp (prefix_of_strstr h)
    exact strstr_eq_self List.nil_prefix
  | cons c text ih =>
    by_cases hp : pattern <+: c :: text
    · rw [strstr_eq_self hp] at h
      obtain rfl := Option.some.inj h
      exact strstr_eq_self (hp.trans (List.prefix_append _ _))
    · rw [strstr_cons_eq_tail hp] at h
      by_cases hp' : pattern <+: c :: (text ++ more)
      · -- a match that ends behind the text cannot start before one that ends inside
        obtain ⟨rest, hrest⟩ := prefix_of_strstr h
        have hlen : pattern.length ≤ (c :: text).length := by
          have hstart := (strstr_suffix h).length_le
          have hpattern := congrArg List.length hrest
          simp only [List.length_append, List.length_cons] at hpattern ⊢
          omega
        exact absurd (List.prefix_of_prefix_length_le hp' (List.prefix_append (c :: text) more)
          hlen) hp
      · rw [List.cons_append, strstr_cons_eq_tail hp', ih h]

lemma occurrences_le_of_prefixed {pattern text longer : List α} (h : text <+: longer) :
    occurrences pattern text ≤ occurrences pattern longer := by
  induction text generalizing longer with
  | nil => exact Nat.zero_le _
  | cons c text ih =>
    obtain ⟨more, rfl⟩ := h
    have hrest := ih (List.prefix_append text more)
    rw [List.cons_append, occurrences, occurrences]
    by_cases hp : pattern.isPrefixOf (c :: text) = true
    · have hp' : pattern.isPrefixOf (c :: (text ++ more)) = true := by
        rw [List.isPrefixOf_iff_prefix] at hp ⊢
        exact hp.trans (List.prefix_append (c :: text) more)
      rw [if_pos hp, if_pos hp']
      omega
    · rw [if_neg hp]
      omega

section marker

variable {sep : α} {pattern : List α}
variable {front text : List α}

lemma occurrences_skip (hfront : sep ∉ front) (text : List α) :
    occurrences (sep :: pattern) (front ++ text) = occurrences (sep :: pattern) text := by
  induction front with
  | nil => rfl
  | cons c front ih =>
    rw [List.mem_cons, not_or] at hfront
    have hp : ¬ (sep :: pattern).isPrefixOf (c :: (front ++ text)) = true := by
      rw [List.isPrefixOf_iff_prefix, List.cons_prefix_cons]
      exact fun h => hfront.1 h.1
    rw [List.cons_append, occurrences, if_neg hp, ih hfront.2, Nat.zero_add]

lemma occurrences_append_cons (hpattern : sep ∉ pattern) (front rest : List α) :
    occurrences (sep :: pattern) (front ++ sep :: rest) =
      occurrences (sep :: pattern) front + occurrences (sep :: pattern) (sep :: rest) := by
  induction front with
  | nil => simp [occurrences]
  | cons c front ih =>
    have hp : (sep :: pattern).isPrefixOf (c :: (front ++ sep :: rest)) =
        (sep :: pattern).isPrefixOf (c :: front) := by
      rw [Bool.eq_iff_iff, List.isPrefixOf_iff_prefix, List.isPrefixOf_iff_prefix,
        List.cons_prefix_cons, List.cons_prefix_cons, prefix_append_cons_iff hpattern]
    rw [List.cons_append, occurrences, occurrences, hp, ih]
    omega

lemma occurrences_marker (hpattern : sep ∉ pattern) (rest : List α) :
    occurrences (sep :: pattern) (sep :: pattern ++ rest) =
      1 + occurrences (sep :: pattern) rest := by
  rw [List.cons_append, occurrences, occurrences_skip hpattern, if_pos]
  rw [List.isPrefixOf_iff_prefix]
  exact List.prefix_append (sep :: pattern) rest

lemma occurrences_of_strstr {start : List α} (h : strstr text (sep :: pattern) = some start) :
    occurrences (sep :: pattern) text = occurrences (sep :: pattern) start := by
  induction text with
  | nil => rw [List.suffix_nil.mp (strstr_suffix h)]
  | cons c text ih =>
    by_cases hp : sep :: pattern <+: c :: text
    · rw [strstr_eq_self hp] at h
      rw [Option.some.inj h]
    · rw [strstr_cons_eq_tail hp] at h
      rw [occurrences, if_neg (by rwa [List.isPrefixOf_iff_prefix]), ih h, Nat.zero_add]

lemma strstr_eq_none_iff :
    strstr text (sep :: pattern) = none ↔ occurrences (sep :: pattern) text = 0 := by
  induction text with
  | nil => simp [strstr_nil_of_ne, occurrences]
  | cons c text ih =>
    by_cases hp : sep :: pattern <+: c :: text
    · simp [strstr_eq_self hp, occurrences, List.isPrefixOf_iff_prefix.mpr hp]
    · rw [strstr_cons_eq_tail hp, ih, occurrences, if_neg (by rwa [List.isPrefixOf_iff_prefix]),
        Nat.zero_add]

lemma occurrences_of_strstr_append (hpattern : sep ∉ pattern) {rest : List α}
    (h : strstr text (sep :: pattern) = some (sep :: pattern ++ rest)) :
    occurrences (sep :: pattern) text = 1 + occurrences (sep :: pattern) rest := by
  rw [occurrences_of_strstr h, occurrences_marker hpattern]

lemma occurrences_front (hpattern : sep ∉ pattern) {rest : List α}
    (h : strstr (front ++ (sep :: pattern ++ rest)) (sep :: pattern) =
      some (sep :: pattern ++ rest)) :
    occurrences (sep :: pattern) front = 0 := by
  have hcount := occurrences_of_strstr h
  rw [List.cons_append, occurrences_append_cons hpattern] at hcount
  omega

lemma strstr_append_of_none (hpattern : sep ∉ pattern) (rest : List α)
    (h : strstr front (sep :: pattern) = none) :
    strstr (front ++ sep :: rest) (sep :: pattern) = strstr (sep :: rest) (sep :: pattern) := by
  induction front with
  | nil => rfl
  | cons c front ih =>
    by_cases hp : sep :: pattern <+: c :: front
    · rw [strstr_eq_self hp] at h
      cases h
    · rw [strstr_cons_eq_tail hp] at h
      have hp' : ¬ sep :: pattern <+: c :: (front ++ sep :: rest) := by
        rw [List.cons_prefix_cons, prefix_append_cons_iff hpattern, ← List.cons_prefix_cons]
        exact hp
      rw [List.cons_append, strstr_cons_eq_tail hp', ih h]

end marker

lemma occurrences_field {eq sep : α} {key name : List α} (hkey : eq ∉ key) (hname : eq ∉ name)
    (hsep : sep ∉ name) (hne : sep ≠ eq) (text : List α) :
    occurrences (sep :: (key ++ [eq])) (sep :: (name ++ eq :: text)) =
      (if name = key then 1 else 0) + occurrences (sep :: (key ++ [eq])) (name ++ eq :: text) ∧
    occurrences (sep :: (key ++ [eq])) (name ++ eq :: text) =
      occurrences (sep :: (key ++ [eq])) text := by
  have hmatch : (sep :: (key ++ [eq])).isPrefixOf (sep :: (name ++ eq :: text)) = true ↔
      name = key := by
    rw [List.isPrefixOf_iff_prefix, List.cons_prefix_cons]
    constructor
    · intro h
      exact (prefix_eq_of_first_eq hname hkey h.2).symm
    · rintro rfl
      exact ⟨rfl, text, by simp⟩
  have hfront : sep ∉ name ++ [eq] := by simp [hsep, hne]
  constructor
  · rw [occurrences]
    simp only [hmatch]
  · have hskip : occurrences (sep :: (key ++ [eq])) ((name ++ [eq]) ++ text) = _ :=
      occurrences_skip hfront text
    rw [List.append_assoc, List.singleton_append] at hskip
    exact hskip

/-- In a rendered text the marker of a key occurs once for each field of that name but the first
one. -/
lemma occurrences_renderFields {eq sep : α} {key : List α} (hkey : eq ∉ key) (hne : sep ≠ eq)
    (first : List α × List α) (fields : List (List α × List α))
    (hfields : ∀ field ∈ first :: fields, eq ∉ field.1 ∧ sep ∉ field.1 ∧ sep ∉ field.2) :
    occurrences (sep :: (key ++ [eq])) (renderFields eq sep (first :: fields)) =
      fields.countP (fun field => field.1 == key) := by
  have hclean : ∀ field ∈ first :: fields, sep ∉ renderField eq field := by
    intro field hfield
    obtain ⟨-, hname, hvalue⟩ := hfields field hfield
    simp [renderField, hname, hvalue, hne]
  induction fields generalizing first with
  | nil =>
    have hnone : occurrences (sep :: (key ++ [eq])) (renderField eq first ++ []) = 0 :=
      occurrences_skip (hclean first List.mem_cons_self) []
    rw [List.append_nil] at hnone
    exact hnone
  | cons next fields ih =>
    obtain ⟨more, hmore⟩ : ∃ more, renderFields eq sep (next :: fields) = next.1 ++ eq :: more := by
      cases fields with
      | nil => exact ⟨next.2, rfl⟩
      | cons other fields => exact ⟨_, renderFields_cons_append next other fields⟩
    have htail := ih next (fun field hfield => hfields field (List.mem_cons_of_mem _ hfield))
      fun field hfield => hclean field (List.mem_cons_of_mem _ hfield)
    obtain ⟨hnextEq, hnextSep, -⟩ := hfields next (by simp)
    have hfield := (occurrences_field hkey hnextEq hnextSep hne more).1
    have hjoin : renderFields eq sep (first :: next :: fields) =
        renderField eq first ++ sep :: renderFields eq sep (next :: fields) := by
      rw [renderFields_cons_append]
      simp [renderField]
    rw [hjoin, occurrences_skip (hclean first List.mem_cons_self), hmore, hfield, ← hmore, htail,
      List.countP_cons]
    simp only [beq_iff_eq]
    omega

/-! ## Parts that end at a marker -/

section cut

/-- The pattern stands in the text twice without overlap. -/
def Repeats (pattern text : List α) : Prop :=
  ∃ front inner back, text = front ++ (pattern ++ (inner ++ (pattern ++ back)))

/-- A part of a text that ends with the text or in front of a marker. -/
def EndsAtMarker (markers : List (List α)) (text part : List α) : Prop :=
  part = text ∨ ∃ marker ∈ markers, part ++ marker <+: text

/-- The longest such part that repeats no marker. -/
structure LongestUnrepeated (markers : List (List α)) (text part : List α) : Prop where
  begins : part <+: text
  ends : EndsAtMarker markers text part
  once : ∀ marker ∈ markers, ¬ Repeats marker part
  longest : ∀ other, other <+: text → EndsAtMarker markers text other →
    (∀ marker ∈ markers, ¬ Repeats marker other) → other.length ≤ part.length

variable {sep : α} {pattern text longer : List α} {markers : List (List α)}

omit [DecidableEq α] in
lemma Repeats.mono (h : Repeats pattern text) (hlonger : text <+: longer) :
    Repeats pattern longer := by
  obtain ⟨front, inner, back, rfl⟩ := h
  obtain ⟨more, rfl⟩ := hlonger
  exact ⟨front, inner, back ++ more, by simp only [List.append_assoc]⟩

lemma repeats_iff_two_le_occurrences (hpattern : sep ∉ pattern) :
    Repeats (sep :: pattern) text ↔ 2 ≤ occurrences (sep :: pattern) text := by
  constructor
  · rintro ⟨front, inner, back, rfl⟩
    have hsecond : occurrences (sep :: pattern) (inner ++ (sep :: pattern ++ back)) =
        occurrences (sep :: pattern) inner + (1 + occurrences (sep :: pattern) back) := by
      rw [← occurrences_marker hpattern back]
      exact occurrences_append_cons hpattern inner (pattern ++ back)
    have hfirst : occurrences (sep :: pattern)
        (front ++ (sep :: pattern ++ (inner ++ (sep :: pattern ++ back)))) = _ :=
      occurrences_append_cons hpattern front (pattern ++ (inner ++ (sep :: pattern ++ back)))
    have hmarker := occurrences_marker hpattern (inner ++ (sep :: pattern ++ back))
    rw [List.cons_append] at hmarker
    omega
  · intro h
    cases hfind : strstr text (sep :: pattern) with
    | none =>
      have hzero := strstr_eq_none_iff.mp hfind
      omega
    | some start =>
      obtain ⟨rest, rfl⟩ := prefix_of_strstr hfind
      have hcount := occurrences_of_strstr_append hpattern hfind
      cases hnext : strstr rest (sep :: pattern) with
      | none =>
        have hzero := strstr_eq_none_iff.mp hnext
        omega
      | some second =>
        obtain ⟨front, rfl⟩ := strstr_suffix hfind
        obtain ⟨inner, rfl⟩ := strstr_suffix hnext
        obtain ⟨back, rfl⟩ := prefix_of_strstr hnext
        exact ⟨front, inner, back, rfl⟩

omit [DecidableEq α] in
lemma longestUnrepeated_self (h : ∀ marker ∈ markers, ¬ Repeats marker text) :
    LongestUnrepeated markers text text where
  begins := List.prefix_refl text
  ends := .inl rfl
  once := h
  longest _ hother _ _ := hother.length_le

omit [DecidableEq α] in
lemma marker_ends_before {front : List α} (hpattern : sep ∉ pattern)
    (hmarker : front ++ sep :: pattern <+: text) (hsep : longer ++ [sep] <+: text)
    (hlt : front.length < longer.length) : front ++ sep :: pattern <+: longer := by
  have hlonger : longer <+: text := (List.prefix_append _ _).trans hsep
  have hfront : front <+: longer :=
    List.prefix_of_prefix_length_le ((List.prefix_append _ _).trans hmarker) hlonger hlt.le
  by_cases hle : (front ++ sep :: pattern).length ≤ longer.length
  · exact List.prefix_of_prefix_length_le hmarker hlonger hle
  · obtain ⟨between, rfl⟩ := hfront
    have hinside : front ++ between ++ [sep] <+: front ++ sep :: pattern := by
      apply List.prefix_of_prefix_length_le hsep hmarker
      simp only [List.length_append, List.length_cons, List.length_nil] at hle ⊢
      omega
    cases between with
    | nil => simp at hlt
    | cons c between =>
      rw [List.append_assoc, List.prefix_append_right_inj, List.cons_append,
        List.cons_prefix_cons] at hinside
      exact absurd (hinside.2.subset (by simp)) hpattern

omit [DecidableEq α] in
/-- A text that is cut in front of a marker it already holds keeps its longest part. -/
lemma LongestUnrepeated.of_cut {marker kept part : List α}
    (hmarkers : ∀ marker ∈ markers, ∃ pattern, marker = sep :: pattern ∧ sep ∉ pattern)
    (hmem : marker ∈ markers) (hcut : kept ++ marker <+: text)
    (hrepeats : Repeats marker (kept ++ marker))
    (h : LongestUnrepeated markers kept part) : LongestUnrepeated markers text part := by
  obtain ⟨pattern, rfl, hpattern⟩ := hmarkers marker hmem
  have hkept : kept <+: text := (List.prefix_append _ _).trans hcut
  have hsep : ∀ other marker, marker ∈ markers → other ++ marker <+: text →
      other ++ [sep] <+: text := by
    intro other marker hmarker hother
    obtain ⟨tail, rfl, -⟩ := hmarkers marker hmarker
    exact ((List.prefix_append_right_inj other).mpr ⟨tail, rfl⟩).trans hother
  refine ⟨h.begins.trans hkept, ?_, h.once, ?_⟩
  · rcases h.ends with rfl | ⟨next, hnext, hends⟩
    · exact .inr ⟨_, hmem, hcut⟩
    · exact .inr ⟨next, hnext, hends.trans hkept⟩
  intro other hother hends honce
  have hle : other.length ≤ kept.length := by
    by_contra hlonger
    -- a longer part reaches over the second match
    apply honce _ hmem
    apply hrepeats.mono
    rcases hends with rfl | ⟨next, hnext, hends⟩
    · exact hcut
    · exact marker_ends_before hpattern hcut (hsep other next hnext hends) (by omega)
  have hinner : other <+: kept := List.prefix_of_prefix_length_le hother hkept hle
  apply h.longest other hinner _ honce
  by_cases heq : other.length = kept.length
  · exact .inl (hinner.eq_of_length heq)
  rcases hends with rfl | ⟨next, hnext, hends⟩
  · exact absurd hkept.length_le (by omega)
  · obtain ⟨tail, rfl, htail⟩ := hmarkers next hnext
    exact .inr ⟨_, hnext, marker_ends_before htail hends (hsep kept _ hmem hcut) (by omega)⟩

end cut

/-! ## A reader with several openings -/

section reader

variable (opens closes : α → Bool) (key : List α)

/-- The search: from the current position on, with `skip` characters of an earlier match to pass
over; a match counts only at the start of the text or behind a character that opens a field. -/
def markScan : Nat → Bool → List α → Option (List α)
  | _, _, [] => none
  | skip + 1, _, c :: rest => markScan skip (opens c) rest
  | 0, starts, c :: rest =>
    if key.isPrefixOf (c :: rest) then
      if starts then some (((c :: rest).drop key.length).takeWhile fun c => !closes c)
      else markScan (key.length - 1) (opens c) rest
    else markScan 0 (opens c) rest

/-- What follows the first match of the key behind a character that opens a field. -/
def firstMark : List α → Option (List α)
  | [] => none
  | c :: rest =>
    if opens c && key.isPrefixOf rest then some (rest.drop key.length) else firstMark rest

variable {opens closes key}

/-- While an earlier match is passed over nothing opens, because the key holds no such character. -/
lemma markScan_false (hne : key ≠ []) (hopens : ∀ c ∈ key, opens c = false) (text : List α)
    (skip : Nat) (hskip : ∀ c ∈ text.take skip, opens c = false) :
    markScan opens closes key skip false text =
      (firstMark opens key text).map (List.takeWhile fun c => !closes c) := by
  induction text generalizing skip with
  | nil => cases skip <;> rfl
  | cons c text ih =>
    -- past a character that does not start a match
    have hnext : markScan opens closes key 0 (opens c) text =
        (firstMark opens key (c :: text)).map (List.takeWhile fun c => !closes c) := by
      rw [firstMark]
      cases hc : opens c with
      | false =>
        rw [Bool.false_and, if_neg Bool.false_ne_true]
        exact ih 0 (by simp)
      | true =>
        rw [Bool.true_and]
        cases text with
        | nil =>
          have hp : ¬ key.isPrefixOf ([] : List α) = true := by
            rw [List.isPrefixOf_iff_prefix, List.prefix_nil]
            exact hne
          rw [if_neg hp]
          rfl
        | cons d text =>
          by_cases hp : key.isPrefixOf (d :: text) = true
          · rw [markScan, if_pos hp, if_pos rfl, if_pos hp]
            rfl
          · have hscan := ih 0 (by simp)
            rw [markScan, if_neg hp] at hscan ⊢
            rw [if_neg hp]
            exact hscan
    cases skip with
    | succ skip =>
      have hc : opens c = false := hskip c (by simp)
      rw [markScan, hc, firstMark, hc, Bool.false_and, if_neg Bool.false_ne_true]
      exact ih skip fun d hd => hskip d (by simp [hd])
    | zero =>
      rw [markScan]
      by_cases hp : key.isPrefixOf (c :: text) = true
      · obtain ⟨k, keys, rfl⟩ := List.exists_cons_of_ne_nil hne
        obtain ⟨rfl, hkeys⟩ := List.cons_prefix_cons.mp (List.isPrefixOf_iff_prefix.mp hp)
        have hk : opens k = false := hopens k List.mem_cons_self
        rw [if_pos hp, if_neg Bool.false_ne_true, hk, firstMark, hk, Bool.false_and,
          if_neg Bool.false_ne_true]
        refine ih _ fun d hd => ?_
        rw [List.length_cons, Nat.add_sub_cancel, ← List.prefix_iff_eq_take.mp hkeys] at hd
        exact hopens d (List.mem_cons_of_mem _ hd)
      · rw [if_neg hp]
        exact hnext

lemma markScan_true (hne : key ≠ []) (hopens : ∀ c ∈ key, opens c = false) (text : List α) :
    markScan opens closes key 0 true text =
      (if key <+: text then some (text.drop key.length) else firstMark opens key text).map
        (List.takeWhile fun c => !closes c) := by
  cases text with
  | nil =>
    rw [if_neg fun h => hne (List.prefix_nil.mp h)]
    rfl
  | cons c text =>
    by_cases hp : key <+: c :: text
    · rw [markScan, if_pos (List.isPrefixOf_iff_prefix.mpr hp), if_pos rfl, if_pos hp]
      rfl
    · have hp' : ¬ key.isPrefixOf (c :: text) = true := by rwa [List.isPrefixOf_iff_prefix]
      have hscan : markScan opens closes key 0 false (c :: text) = _ :=
        markScan_false hne hopens (c :: text) 0 (by simp)
      rw [markScan, if_neg hp'] at hscan ⊢
      rw [if_neg hp, hscan]

lemma firstMark_skip {front : List α} (hfront : ∀ c ∈ front, opens c = false) (text : List α) :
    firstMark opens key (front ++ text) = firstMark opens key text := by
  induction front with
  | nil => rfl
  | cons c front ih =>
    rw [List.cons_append, firstMark, hfront c List.mem_cons_self, Bool.false_and,
      if_neg Bool.false_ne_true]
    exact ih fun d hd => hfront d (List.mem_cons_of_mem _ hd)

lemma firstMark_append_cons {sep : α} (hsep : opens sep = true) (hkey : sep ∉ key)
    (front rest : List α) :
    firstMark opens key (front ++ sep :: rest) =
      ((firstMark opens key front).map (· ++ sep :: rest)).or
        (if key <+: rest then some (rest.drop key.length) else firstMark opens key rest) := by
  induction front with
  | nil =>
    simp only [List.nil_append, firstMark, hsep, Bool.true_and, Option.map_none, Option.none_or,
      List.isPrefixOf_iff_prefix]
  | cons c front ih =>
    have hp : key.isPrefixOf (front ++ sep :: rest) = key.isPrefixOf front := by
      rw [Bool.eq_iff_iff, List.isPrefixOf_iff_prefix, List.isPrefixOf_iff_prefix,
        prefix_append_cons_iff hkey]
    rw [List.cons_append, firstMark, firstMark, hp]
    by_cases hmatch : (opens c && key.isPrefixOf front) = true
    · rw [if_pos hmatch, if_pos hmatch]
      rw [Bool.and_eq_true, List.isPrefixOf_iff_prefix] at hmatch
      rw [List.drop_append_of_le_length hmatch.2.length_le]
      rfl
    · rw [if_neg hmatch, if_neg hmatch, ih]

lemma firstMark_subset {text found : List α} (h : firstMark opens key text = some found) :
    found ⊆ text := by
  induction text with
  | nil => cases h
  | cons c text ih =>
    rw [firstMark] at h
    split at h
    · obtain rfl := Option.some.inj h
      exact List.subset_cons_of_subset c (List.drop_subset _ _)
    · exact List.subset_cons_of_subset c (ih h)

end reader

/-- The text that the first earlier value with an opened `key` puts in place of the key's own
value. -/
def markShadow (opens : α → Bool) (key : List α) (earlier : List (List α × List α)) :
    Option (List α) :=
  earlier.findSome? fun field => firstMark opens key field.2

lemma markShadow_eq_none {opens : α → Bool} {key : List α} {earlier : List (List α × List α)}
    (h : ∀ field ∈ earlier, ∀ c ∈ field.2, opens c = false) :
    markShadow opens key earlier = none := by
  rw [markShadow, List.findSome?_eq_none_iff]
  intro field hfield
  have hskip : firstMark opens key (field.2 ++ []) = none := firstMark_skip (h field hfield) []
  rw [List.append_nil] at hskip
  exact hskip

/-- What the reader takes for the value of a field, whatever text is joined to it. -/
theorem markScan_renderFields_append {opens closes : α → Bool} {eq sep : α}
    {name value tail : List α} {earlier : List (List α × List α)} (hsep : opens sep = true)
    (hclose : closes sep = true) (heq : opens eq = false) (hname : ∀ c ∈ name, opens c = false)
    (hnameEq : eq ∉ name) (hvalue : ∀ c ∈ value, closes c = false)
    (hearlier : ∀ field ∈ earlier, field.1 ≠ name ∧ eq ∉ field.1 ∧
      (∀ c ∈ field.1, opens c = false) ∧ ∀ c ∈ field.2, closes c = false)
    (htail : tail.takeWhile (fun c => !closes c) = []) :
    markScan opens closes (name ++ [eq]) 0 true
        (renderFields eq sep (earlier ++ [(name, value)]) ++ tail) =
      some ((markShadow opens (name ++ [eq]) earlier).getD value) := by
  have hkeyNe : name ++ [eq] ≠ [] := by simp
  have hkeyOpens : ∀ c ∈ name ++ [eq], opens c = false := by
    intro c hc
    rcases List.mem_append.mp hc with hc | hc
    · exact hname c hc
    · rw [List.mem_singleton.mp hc]
      exact heq
  have hkeySep : sep ∉ name ++ [eq] := fun hmem => by
    have hclosed := hkeyOpens sep hmem
    rw [hsep] at hclosed
    cases hclosed
  have hwhole : ∀ text : List α, (∀ c ∈ text, closes c = false) → ∀ rest : List α,
      rest.takeWhile (fun c => !closes c) = [] →
        (text ++ rest).takeWhile (fun c => !closes c) = text := by
    intro text htext rest hrest
    rw [List.takeWhile_append_of_pos fun c hc => by simp [htext c hc], hrest, List.append_nil]
  induction earlier with
  | nil =>
    have hfront : name ++ [eq] <+: name ++ eq :: (value ++ tail) := ⟨value ++ tail, by simp⟩
    have htext : renderFields eq sep ([] ++ [(name, value)]) ++ tail =
        name ++ eq :: (value ++ tail) := by
      simp [renderFields, renderField]
    rw [htext, markScan_true hkeyNe hkeyOpens, if_pos hfront]
    simp [markShadow, hwhole value hvalue tail htail]
  | cons field earlier ih =>
    obtain ⟨hother, hfieldEq, hfieldOpens, hfieldValue⟩ := hearlier field List.mem_cons_self
    have ih := ih fun f hf => hearlier f (List.mem_cons_of_mem _ hf)
    obtain ⟨next, rest, hrest⟩ : ∃ next rest, earlier ++ [(name, value)] = next :: rest := by
      cases earlier with
      | nil => exact ⟨_, _, rfl⟩
      | cons e es => exact ⟨_, _, rfl⟩
    have hnot : ¬ name ++ [eq] <+: field.1 ++ eq :: (field.2 ++ sep ::
        (renderFields eq sep (earlier ++ [(name, value)]) ++ tail)) := fun h =>
      hother (prefix_eq_of_first_eq hfieldEq hnameEq h).symm
    have hfront : ∀ c ∈ field.1 ++ [eq], opens c = false := by
      intro c hc
      rcases List.mem_append.mp hc with hc | hc
      · exact hfieldOpens c hc
      · rw [List.mem_singleton.mp hc]
        exact heq
    have htext : renderFields eq sep (field :: earlier ++ [(name, value)]) ++ tail =
        field.1 ++ eq :: (field.2 ++ sep ::
          (renderFields eq sep (earlier ++ [(name, value)]) ++ tail)) := by
      rw [List.cons_append, hrest, renderFields_cons_append]
      simp
    rw [htext, markScan_true hkeyNe hkeyOpens, if_neg hnot]
    have hskip : firstMark opens (name ++ [eq]) ((field.1 ++ [eq]) ++ (field.2 ++ sep ::
        (renderFields eq sep (earlier ++ [(name, value)]) ++ tail))) = _ := firstMark_skip hfront _
    rw [List.append_assoc, List.singleton_append] at hskip
    rw [hskip, firstMark_append_cons hsep hkeySep]
    rw [markShadow, List.findSome?_cons]
    cases hfound : firstMark opens (name ++ [eq]) field.2 with
    | some found =>
      have hclean : ∀ c ∈ found, closes c = false := fun c hc =>
        hfieldValue c (firstMark_subset hfound hc)
      simp [hwhole found hclean (sep :: _) (by simp [hclose])]
    | none =>
      rw [markScan_true hkeyNe hkeyOpens] at ih
      rw [Option.map_none, Option.none_or, ih]
      rfl

end QhapaqXian.Library
