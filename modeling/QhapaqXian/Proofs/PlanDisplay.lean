import QhapaqXian.Planner
import QhapaqXian.Proofs.Contract

/-!
# The contracts a plan shows

`EXPLAIN` prints the authorised contracts without the provider's OID and the receipt signer.
-/

namespace QhapaqXian

open Library

lemma hiddenNames_clean : ∀ name ∈ hiddenNames, '=' ∉ name ∧ ';' ∉ name ++ ['='] := by
  decide

section Loop

variable {display next needle : CString}

lemma withoutField_length_lt {name : CString} (hname : name ∈ hiddenNames)
    (h : strstr display (name ++ ['=']) = some needle) :
    (withoutField display needle).length < display.length := by
  obtain ⟨front, rfl⟩ := strstr_suffix h
  obtain ⟨rest, rfl⟩ := prefix_of_strstr h
  have hkey : ∀ c ∈ name ++ ['='], decide (c ≠ ';') = true := by
    intro c hc
    simpa using ne_of_mem_of_not_mem hc (hiddenNames_clean name hname).2
  have hrest : (rest.dropWhile (· ≠ ';')).length ≤ rest.length :=
    (List.dropWhile_suffix _).length_le
  rw [withoutField, textBefore_append, List.dropWhile_append_of_pos hkey]
  split_ifs <;> simp only [List.length_append, List.length_dropLast, List.length_singleton] <;>
    omega

lemma displayRound_eq_some (h : displayRound display = some next) :
    ∃ name ∈ hiddenNames, ∃ needle, strstr display (name ++ ['=']) = some needle ∧
      next = withoutField display needle := by
  obtain ⟨needle, hfound, rfl⟩ := Option.map_eq_some_iff.mp h
  obtain ⟨name, hname, hneedle⟩ := List.exists_of_findSome?_eq_some hfound
  exact ⟨name, hname, needle, hneedle, rfl⟩

lemma displayRound_eq_none_iff :
    displayRound display = none ↔
      ∀ name ∈ hiddenNames, strstr display (name ++ ['=']) = none := by
  rw [displayRound, Option.map_eq_none_iff, List.findSome?_eq_none_iff]

lemma displayRound_displayRounds {rounds : Nat} (h : display.length ≤ rounds) :
    displayRound (displayRounds rounds display) = none := by
  induction rounds generalizing display with
  | zero =>
    have hnil : display = [] := List.eq_nil_of_length_eq_zero (by omega)
    rw [hnil, displayRounds]
    decide
  | succ rounds ih =>
    rw [displayRounds]
    cases hround : displayRound display with
    | none => exact hround
    | some next =>
      obtain ⟨name, hname, needle, hneedle, rfl⟩ := displayRound_eq_some hround
      have hshorter := withoutField_length_lt hname hneedle
      apply ih
      omega

lemma displayRounds_add {rounds : Nat} (h : displayRound (displayRounds rounds display) = none)
    (more : Nat) : displayRounds (rounds + more) display = displayRounds rounds display := by
  induction rounds generalizing display with
  | zero =>
    rw [displayRounds] at h
    cases more with
    | zero => rfl
    | succ more => rw [Nat.zero_add, displayRounds, displayRounds, h]
  | succ rounds ih =>
    rw [Nat.succ_add, displayRounds, displayRounds]
    rw [displayRounds] at h
    cases hround : displayRound display with
    | none => rfl
    | some next =>
      rw [hround] at h
      exact ih h

end Loop

section Fields

variable {fields front rest : List (CString × CString)} {hidden : CString × CString}

/-- Fields whose text the loop can take apart: it holds the delimiters only where they belong, no
other name ends in a hidden one, and a field that is shown stands in front. -/
structure Displayable (fields : List (CString × CString)) : Prop where
  plain : ∀ field ∈ fields, ∀ name ∈ hiddenNames, PlainField '=' name field
  clean : ∀ field ∈ fields, ';' ∉ field.1 ∧ ';' ∉ field.2
  starts : ∀ field ∈ fields.head?, field.1 ∉ hiddenNames

lemma withoutField_renderFields (hne : front ≠ [])
    (hclean : ';' ∉ hidden.1 ∧ ';' ∉ hidden.2) :
    withoutField (renderFields '=' ';' (front ++ hidden :: rest))
      (renderFields '=' ';' (hidden :: rest)) = renderFields '=' ';' (front ++ rest) := by
  have hsplit : renderFields '=' ';' (front ++ hidden :: rest) =
      (renderFields '=' ';' front ++ [';']) ++ renderFields '=' ';' (hidden :: rest) := by
    rw [renderFields_append hne, renderRest, List.append_assoc, List.singleton_append]
  have hfield : ∀ c ∈ hidden.1 ++ '=' :: hidden.2, decide (c ≠ ';') = true := by
    intro c hc
    simp only [List.mem_append, List.mem_cons] at hc
    rcases hc with hc | rfl | hc
    · simpa using ne_of_mem_of_not_mem hc hclean.1
    · decide
    · simpa using ne_of_mem_of_not_mem hc hclean.2
  have hneedle : (renderFields '=' ';' (hidden :: rest)).dropWhile (· ≠ ';') =
      renderRest '=' ';' rest := by
    rw [renderFields_cons, ← List.cons_append, ← List.append_assoc,
      List.dropWhile_append_of_pos hfield]
    cases rest with
    | nil => rfl
    | cons next rest => rw [renderRest, List.dropWhile_cons_of_neg (by simp)]
  rw [hsplit, withoutField, textBefore_append, hneedle, renderFields_append hne]
  simp

lemma strstr_displayable (h : Displayable fields) {name : CString} (hname : name ∈ hiddenNames) :
    (strstr (renderFields '=' ';' fields) (name ++ ['=']) = none ∧
      ∀ field ∈ fields, field.1 ≠ name) ∨
    ∃ front value rest, fields = front ++ (name, value) :: rest ∧ front ≠ [] ∧
      strstr (renderFields '=' ';' fields) (name ++ ['=']) =
        some (renderFields '=' ';' ((name, value) :: rest)) := by
  obtain ⟨heq, hsep⟩ := hiddenNames_clean name hname
  cases hfound : fields.find? (·.1 == name) with
  | none =>
    have hothers : ∀ field ∈ fields, field.1 ≠ name := by simpa using hfound
    refine .inl ⟨?_, hothers⟩
    apply strstr_renderFields_eq_none heq hsep
    exact fun field hfield => ⟨h.plain field hfield name hname, hothers field hfield⟩
  | some field =>
    obtain ⟨hfield, front, rest, rfl, hfront⟩ := List.find?_eq_some_iff_append.mp hfound
    obtain ⟨own, value⟩ := field
    obtain rfl : own = name := by simpa using hfield
    refine .inr ⟨front, value, rest, rfl, ?_, ?_⟩
    · rintro rfl
      exact h.starts (own, value) rfl hname
    · apply strstr_renderFields heq hsep
      intro field hmem
      exact ⟨h.plain field (List.mem_append_left _ hmem) own hname, by simpa using hfront field hmem⟩

lemma displayRound_renderFields (h : Displayable fields) :
    (displayRound (renderFields '=' ';' fields) = none ∧
      ∀ field ∈ fields, field.1 ∉ hiddenNames) ∨
    ∃ front hidden rest, fields = front ++ hidden :: rest ∧ front ≠ [] ∧
      hidden.1 ∈ hiddenNames ∧
      displayRound (renderFields '=' ';' fields) = some (renderFields '=' ';' (front ++ rest)) := by
  cases hround : displayRound (renderFields '=' ';' fields) with
  | none =>
    refine .inl ⟨rfl, fun field hfield hname => ?_⟩
    have hnone := displayRound_eq_none_iff.mp hround field.1 hname
    rcases strstr_displayable h hname with ⟨-, hothers⟩ | ⟨_, _, _, _, _, hsome⟩
    · exact hothers field hfield rfl
    · cases hnone.symm.trans hsome
  | some next =>
    obtain ⟨name, hname, needle, hneedle, rfl⟩ := displayRound_eq_some hround
    rcases strstr_displayable h hname with ⟨hnone, -⟩ | ⟨front, value, rest, rfl, hne, hsome⟩
    · cases hnone.symm.trans hneedle
    · cases hneedle.symm.trans hsome
      refine .inr ⟨front, (name, value), rest, rfl, hne, hname, ?_⟩
      rw [withoutField_renderFields hne (h.clean _ (by simp))]

lemma Displayable.without (h : Displayable (front ++ hidden :: rest)) (hne : front ≠ []) :
    Displayable (front ++ rest) := by
  have hsub : ∀ field ∈ front ++ rest, field ∈ front ++ hidden :: rest := by
    intro field hfield
    simp only [List.mem_append, List.mem_cons] at hfield ⊢
    tauto
  refine ⟨fun field hfield => h.plain field (hsub field hfield),
    fun field hfield => h.clean field (hsub field hfield), ?_⟩
  have hstarts := h.starts
  rw [List.head?_append_of_ne_nil _ hne] at hstarts ⊢
  exact hstarts

/-- The loop leaves the fields that are not hidden. -/
theorem displayRounds_renderFields {rounds : Nat} (h : Displayable fields)
    (hrounds : fields.countP (fun field => decide (field.1 ∈ hiddenNames)) ≤ rounds) :
    displayRounds rounds (renderFields '=' ';' fields) =
      renderFields '=' ';' (fields.filter (·.1 ∉ hiddenNames)) := by
  induction rounds generalizing fields with
  | zero =>
    have hnone : ∀ field ∈ fields, field.1 ∉ hiddenNames := by
      simpa [List.countP_eq_zero] using hrounds
    rw [displayRounds, List.filter_eq_self.mpr (by simpa using hnone)]
  | succ rounds ih =>
    rw [displayRounds]
    rcases displayRound_renderFields h with ⟨hround, hnone⟩ | ⟨front, hidden, rest, rfl, hne,
      hhidden, hround⟩
    · rw [hround, List.filter_eq_self.mpr (by simpa using hnone)]
    · rw [hround]
      have hcount : (front ++ rest).countP (fun field => decide (field.1 ∈ hiddenNames)) ≤
          rounds := by
        simp only [List.countP_append, List.countP_cons, hhidden, decide_true, if_true] at hrounds ⊢
        omega
      refine (ih (h.without hne) hcount).trans ?_
      simp [hhidden]

end Fields

section Contracts

lemma contractKeys_displayable : ∀ own ∈ contractKeys, ('=' ∉ own ∧ ';' ∉ own) ∧
    ∀ name ∈ hiddenNames, name <:+ own → own = name := by
  decide +kernel

lemma displayable_contractFields {tool : ToolInfo} {runtimeClass ceiling tags : CString}
    (h : ∀ field ∈ contractFields tool runtimeClass ceiling tags, ';' ∉ field.2 ∧ '=' ∉ field.2) :
    Displayable (contractFields tool runtimeClass ceiling tags) := by
  have hnames : ∀ field ∈ contractFields tool runtimeClass ceiling tags, _ := fun field hfield =>
    contractKeys_displayable field.1 (contractFields_keys tool runtimeClass ceiling tags ▸
      List.mem_map_of_mem hfield)
  refine ⟨fun field hfield name hname => ?_, fun field hfield => ?_, fun field hfield => ?_⟩
  · exact ⟨(hnames field hfield).1.1, (h field hfield).2, (hnames field hfield).2 name hname⟩
  · exact ⟨(hnames field hfield).1.2, (h field hfield).1⟩
  · obtain rfl : ("tool".toList, tool.name.getD "<unknown>".toList) = field := by
      simpa [contractFields] using hfield
    dsimp only
    decide

lemma length_le_length_renderFields (fields : List (CString × CString)) :
    fields.length ≤ (renderFields '=' ';' fields).length := by
  induction fields with
  | nil => exact Nat.zero_le _
  | cons field rest ih =>
    rw [renderFields_cons]
    cases rest with
    | nil =>
      simp only [renderRest, List.length_append, List.length_cons, List.length_nil]
      omega
    | cons next rest =>
      simp only [renderRest, List.length_append, List.length_cons] at ih ⊢
      omega

/-- The loop of `qx_plan_display_contract` ends on every text, and more rounds would not change
what it leaves; no hidden name is left, and of a contract all the other fields are. -/
theorem plan_hides_exactly_two_fields :
    (∀ contract : Option CString,
      (∀ name ∈ hiddenNames, ¬ (name ++ ['=']) <:+: qxPlanDisplayContract contract) ∧
      ∀ text ∈ contract, ∀ rounds, text.length ≤ rounds →
        displayRounds rounds text = qxPlanDisplayContract contract) ∧
    ∀ tool runtimeClass ceiling tags,
      (∀ field ∈ contractFields tool runtimeClass ceiling tags, ';' ∉ field.2 ∧ '=' ∉ field.2) →
      qxPlanDisplayContract (some (qxToolContractForInfo tool runtimeClass ceiling tags)) =
        renderFields '=' ';' ((contractFields tool runtimeClass ceiling tags).filter
          (·.1 ∉ hiddenNames)) := by
  refine ⟨fun contract => ?_, fun tool runtimeClass ceiling tags hclean => ?_⟩
  · cases contract with
    | none => exact ⟨by decide +kernel, by simp⟩
    | some contract =>
      have hends := displayRound_displayRounds (le_refl contract.length)
      constructor
      · intro name hname hinfix
        exact not_infix_of_strstr_eq_none (displayRound_eq_none_iff.mp hends name hname) hinfix
      · intro text htext rounds hrounds
        obtain rfl : contract = text := Option.some.inj htext
        obtain ⟨more, rfl⟩ := Nat.exists_eq_add_of_le hrounds
        exact displayRounds_add hends more
  · apply displayRounds_renderFields (displayable_contractFields hclean)
    exact List.countP_le_length.trans (length_le_length_renderFields _)

def hostedTool : ToolInfo where
  oid := 16400
  name := some "search".toList
  enabled := true
  tokenCost := 1
  costUnits := 1
  handler := some "search_handler".toList
  sandbox := some "builtin".toList
  runtimeClass := none
  sandboxCeiling := none
  capabilityTags := none
  principaloid := 16395
  principalName := some "runner".toList
  principalEnabled := true
  principalSandbox := some "builtin".toList
  principalRuntimeClass := some "host".toList
  principalProgram := none
  principalReceiptSigner := some "signer".toList
  provideroid := 16390
  providerName := some "local".toList
  providerKind := some "loopback".toList
  providerEndpoint := none
  providerReceiptAlg := none
  providerEnabled := true
  providerAttestationRequired := false

theorem hostedTool_displayed :
    qxPlanDisplayContract (some (qxToolContractForInfo hostedTool "host".toList "builtin".toList
        "search".toList)) =
      renderFields '=' ';' ((contractFields hostedTool "host".toList "builtin".toList
        "search".toList).filter (·.1 ∉ hiddenNames)) ∧
    (contractFields hostedTool "host".toList "builtin".toList "search".toList).length = 17 ∧
    ((contractFields hostedTool "host".toList "builtin".toList "search".toList).filter
      (·.1 ∉ hiddenNames)).length = 15 :=
  ⟨plan_hides_exactly_two_fields.2 _ _ _ _ (by decide +kernel), by decide +kernel,
    by decide +kernel⟩

end Contracts

end QhapaqXian
