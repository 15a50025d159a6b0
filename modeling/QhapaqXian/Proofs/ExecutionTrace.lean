import QhapaqXian.ExecutionTrace
import QhapaqXian.Proofs.Numbers

/-!
# What the trace of an execution keeps

The payload of an execution is already normal when the catalog normalises it: its fields hold no
marker, and the detail was cut in front of whatever the normalisation looks for.
-/

namespace QhapaqXian

open Library

variable {kept pattern : CString}

section strip

variable {pattern source text : CString}

lemma duplicateTail_eq_none_iff (hpattern : ';' ∉ pattern) :
    duplicateTail (';' :: pattern) source = none ↔ occurrences (';' :: pattern) source ≤ 1 := by
  unfold duplicateTail
  cases hfind : strstr source (';' :: pattern) with
  | none =>
    have hzero := strstr_eq_none_iff.mp hfind
    simp [hzero]
  | some start =>
    obtain ⟨rest, rfl⟩ := prefix_of_strstr hfind
    have hcount := occurrences_of_strstr_append hpattern hfind
    have hrest : strstr rest (';' :: pattern) = none ↔ occurrences (';' :: pattern) source ≤ 1 := by
      rw [strstr_eq_none_iff]
      omega
    rw [← hrest]
    cases hdup : strstr rest (';' :: pattern) with
    | none => simp [hdup]
    | some duplicate => simp [hdup]

lemma duplicateTail_append {front inner duplicate : CString}
    (hfirst : strstr (front ++ (';' :: pattern ++ inner)) (';' :: pattern) =
      some (';' :: pattern ++ inner))
    (hdup : strstr inner (';' :: pattern) = some duplicate) :
    duplicateTail (';' :: pattern) (front ++ (';' :: pattern ++ inner)) =
      some (front ++ (';' :: pattern ++ textBefore inner duplicate)) := by
  obtain ⟨kept, rfl⟩ := strstr_suffix hdup
  have hbefore : textBefore (front ++ (';' :: pattern ++ (kept ++ duplicate))) duplicate =
      front ++ (';' :: pattern ++ kept) := by
    rw [← List.append_assoc, ← List.append_assoc, textBefore_append, List.append_assoc]
  unfold duplicateTail
  rw [hfirst]
  simp only [Option.bind_eq_bind, Option.bind_some, List.drop_left, hdup, hbefore,
    textBefore_append]
  rfl

lemma duplicateTail_shortens {marker : CString} (hne : marker ≠ [])
    (h : duplicateTail marker source = some kept) :
    kept <+: source ∧ kept.length < source.length := by
  unfold duplicateTail at h
  cases hfind : strstr source marker with
  | none => simp [hfind] at h
  | some start =>
    cases hdup : strstr (start.drop marker.length) marker with
    | none => simp [hfind, hdup] at h
    | some duplicate =>
      have hkept : textBefore source duplicate = kept := by simpa [hfind, hdup] using h
      obtain ⟨front, rfl⟩ := (strstr_suffix hdup).trans
        ((List.drop_suffix _ _).trans (strstr_suffix hfind))
      have hmarker := List.length_pos_iff.mpr hne
      have hlonger := (prefix_of_strstr hdup).length_le
      rw [textBefore_append] at hkept
      subst hkept
      refine ⟨List.prefix_append _ _, ?_⟩
      rw [List.length_append]
      omega

lemma qxStripDuplicateReceiptTailOnce_eq_none_iff :
    qxStripDuplicateReceiptTailOnce source = none ↔
      occurrences (fieldMarker "detail") source ≤ 1 ∧
        occurrences (fieldMarker "tokens") source ≤ 1 ∧
          occurrences (fieldMarker "launch_mode") source ≤ 1 := by
  unfold qxStripDuplicateReceiptTailOnce
  rw [Option.or_eq_none_iff, Option.or_eq_none_iff, duplicateTail_eq_none_iff (by decide),
    duplicateTail_eq_none_iff (by decide), duplicateTail_eq_none_iff (by decide)]

lemma qxStripDuplicateReceiptTailOnce_shortens
    (h : qxStripDuplicateReceiptTailOnce source = some kept) :
    kept <+: source ∧ kept.length < source.length := by
  unfold qxStripDuplicateReceiptTailOnce at h
  rw [Option.or_eq_some_iff, Option.or_eq_some_iff] at h
  rcases h with h | ⟨-, h | ⟨-, h⟩⟩
  · exact duplicateTail_shortens (List.cons_ne_nil _ _) h
  · exact duplicateTail_shortens (List.cons_ne_nil _ _) h
  · exact duplicateTail_shortens (List.cons_ne_nil _ _) h

lemma stripRounds_spec {rounds : Nat} (h : source.length ≤ rounds) :
    stripRounds rounds source <+: source ∧
      qxStripDuplicateReceiptTailOnce (stripRounds rounds source) = none := by
  induction rounds generalizing source with
  | zero =>
    obtain rfl : source = [] := List.length_eq_zero_iff.mp (Nat.le_zero.mp h)
    exact ⟨List.prefix_refl _, qxStripDuplicateReceiptTailOnce_eq_none_iff.mpr
      ⟨Nat.zero_le 1, Nat.zero_le 1, Nat.zero_le 1⟩⟩
  | succ rounds ih =>
    rw [stripRounds]
    cases hnext : qxStripDuplicateReceiptTailOnce source with
    | none => exact ⟨List.prefix_refl _, hnext⟩
    | some kept =>
      obtain ⟨hkept, hshorter⟩ := qxStripDuplicateReceiptTailOnce_shortens hnext
      have hrest := @ih kept (by omega)
      exact ⟨hrest.1.trans hkept, hrest.2⟩

lemma qxStripDuplicateReceiptTail_of_none (h : qxStripDuplicateReceiptTailOnce source = none) :
    qxStripDuplicateReceiptTail source = source := by
  unfold qxStripDuplicateReceiptTail
  cases hlength : source.length with
  | zero => rfl
  | succ rounds => rw [stripRounds, h]

lemma qxStripDuplicateReceiptTail_of_some (h : qxStripDuplicateReceiptTailOnce source = some kept)
    (hkept : qxStripDuplicateReceiptTailOnce kept = none) :
    qxStripDuplicateReceiptTail source = kept := by
  have hshorter := (qxStripDuplicateReceiptTailOnce_shortens h).2
  unfold qxStripDuplicateReceiptTail
  cases hlength : source.length with
  | zero => omega
  | succ rounds =>
    rw [stripRounds, h]
    cases rounds with
    | zero => rfl
    | succ rounds =>
      change stripRounds (rounds + 1) kept = kept
      rw [stripRounds, hkept]

end strip

section wall

variable {source front rest : CString}

lemma qxTruncateDetailAfterWallMs_append
    (h : strstr (front ++ (fieldMarker "wall_ms" ++ rest)) (fieldMarker "wall_ms") =
      some (fieldMarker "wall_ms" ++ rest)) :
    qxTruncateDetailAfterWallMs (front ++ (fieldMarker "wall_ms" ++ rest)) =
      front ++ (fieldMarker "wall_ms" ++ rest.takeWhile Char.isDigit) := by
  unfold qxTruncateDetailAfterWallMs
  rw [h]
  have hdigits : front ++ (fieldMarker "wall_ms" ++ rest) =
      (front ++ (fieldMarker "wall_ms" ++ rest.takeWhile Char.isDigit)) ++
        rest.dropWhile Char.isDigit := by
    rw [List.append_assoc, List.append_assoc, List.takeWhile_append_dropWhile]
  simp only [List.drop_left]
  rw [hdigits, textBefore_append]

lemma wallMs_cases (source : CString) :
    strstr source (fieldMarker "wall_ms") = none ∨ ∃ front rest,
      source = front ++ (fieldMarker "wall_ms" ++ rest) ∧
        strstr source (fieldMarker "wall_ms") = some (fieldMarker "wall_ms" ++ rest) := by
  cases hfind : strstr source (fieldMarker "wall_ms") with
  | none => exact .inl rfl
  | some start =>
    obtain ⟨rest, rfl⟩ := prefix_of_strstr hfind
    obtain ⟨front, hfront⟩ := strstr_suffix hfind
    exact .inr ⟨front, rest, hfront.symm, rfl⟩

lemma qxTruncateDetailAfterWallMs_of_none (h : strstr source (fieldMarker "wall_ms") = none) :
    qxTruncateDetailAfterWallMs source = source := by
  unfold qxTruncateDetailAfterWallMs
  rw [h]

lemma qxTruncateDetailAfterWallMs_prefix_self (source : CString) :
    qxTruncateDetailAfterWallMs source <+: source := by
  rcases wallMs_cases source with hnone | ⟨front, rest, rfl, hfind⟩
  · rw [qxTruncateDetailAfterWallMs_of_none hnone]
  · rw [qxTruncateDetailAfterWallMs_append hfind]
    refine (List.prefix_append_right_inj _).mpr ((List.prefix_append_right_inj _).mpr ?_)
    exact List.takeWhile_prefix _

lemma qxTruncateDetailAfterWallMs_idem (source : CString) :
    qxTruncateDetailAfterWallMs (qxTruncateDetailAfterWallMs source) =
      qxTruncateDetailAfterWallMs source := by
  rcases wallMs_cases source with hnone | ⟨front, rest, rfl, hfind⟩
  · rw [qxTruncateDetailAfterWallMs_of_none hnone, qxTruncateDetailAfterWallMs_of_none hnone]
  · rw [qxTruncateDetailAfterWallMs_append hfind]
    have hfront := strstr_eq_none_iff.mpr (occurrences_front (by decide) hfind)
    have hagain : strstr (front ++ (fieldMarker "wall_ms" ++ rest.takeWhile Char.isDigit))
        (fieldMarker "wall_ms") = some (fieldMarker "wall_ms" ++ rest.takeWhile Char.isDigit) :=
      (strstr_append_of_none (by decide) _ hfront).trans (strstr_eq_self (List.prefix_append _ _))
    rw [qxTruncateDetailAfterWallMs_append hagain, List.takeWhile_takeWhile]
    simp

lemma qxTruncateDetailAfterWallMs_of_prefixed {shorter : CString} (hfront : shorter <+: source)
    (h : qxTruncateDetailAfterWallMs source = source) :
    qxTruncateDetailAfterWallMs shorter = shorter := by
  rcases wallMs_cases shorter with hnone | ⟨front, rest, rfl, hfind⟩
  · exact qxTruncateDetailAfterWallMs_of_none hnone
  · obtain ⟨more, rfl⟩ := hfront
    have hlonger := strstr_append more hfind
    rw [List.append_assoc, List.append_assoc] at hlonger h
    rw [qxTruncateDetailAfterWallMs_append hlonger] at h
    have hdigits : (rest ++ more).takeWhile Char.isDigit = rest ++ more :=
      List.append_cancel_left (List.append_cancel_left h)
    rw [qxTruncateDetailAfterWallMs_append hfind, List.takeWhile_eq_self_iff.mpr]
    intro c hc
    exact List.takeWhile_eq_self_iff.mp hdigits c (List.mem_append_left _ hc)

end wall

section normal

/-- A detail that the normalisation leaves alone, up to a second `;detail=`. -/
structure Settled (detail : CString) : Prop where
  tokens : occurrences (fieldMarker "tokens") detail = 0
  launch : occurrences (fieldMarker "launch_mode") detail ≤ 1
  wall : qxTruncateDetailAfterWallMs detail = detail

lemma Settled.of_prefixed {shorter : CString} (h : Settled detail) (hfront : shorter <+: detail) :
    Settled shorter := by
  have htokens : occurrences (fieldMarker "tokens") shorter ≤ _ := occurrences_le_of_prefixed hfront
  have hlaunch : occurrences (fieldMarker "launch_mode") shorter ≤ _ :=
    occurrences_le_of_prefixed hfront
  exact ⟨Nat.le_zero.mp (h.tokens ▸ htokens), hlaunch.trans h.launch,
    qxTruncateDetailAfterWallMs_of_prefixed hfront h.wall⟩

lemma beforeMarker_cases (pattern source : CString) (hpattern : ';' ∉ pattern) :
    strstr source (';' :: pattern) = none ∧ beforeMarker (';' :: pattern) source = source ∨
      ∃ front start, source = front ++ start ∧ strstr source (';' :: pattern) = some start ∧
        beforeMarker (';' :: pattern) source = front ∧
          occurrences (';' :: pattern) front = 0 := by
  unfold beforeMarker
  cases hfind : strstr source (';' :: pattern) with
  | none => exact .inl ⟨rfl, rfl⟩
  | some start =>
    obtain ⟨rest, rfl⟩ := prefix_of_strstr hfind
    obtain ⟨front, rfl⟩ := strstr_suffix hfind
    exact .inr ⟨front, _, rfl, rfl, textBefore_append _ _, occurrences_front hpattern hfind⟩

lemma beforeMarker_prefix_self (hpattern : ';' ∉ pattern) (source : CString) :
    beforeMarker (';' :: pattern) source <+: source := by
  rcases beforeMarker_cases pattern source hpattern with ⟨-, h⟩ | ⟨front, start, rfl, -, h, -⟩
  · rw [h]
  · rw [h]
    exact List.prefix_append _ _

lemma occurrences_beforeMarker (hpattern : ';' ∉ pattern) (source : CString) :
    occurrences (';' :: pattern) (beforeMarker (';' :: pattern) source) = 0 := by
  rcases beforeMarker_cases pattern source hpattern with ⟨hnone, h⟩ | ⟨front, start, -, -, h, hzero⟩
  · rw [h]
    exact strstr_eq_none_iff.mp hnone
  · rw [h, hzero]

lemma beforeMarker_of_none {source : CString} (h : occurrences (';' :: pattern) source = 0) :
    beforeMarker (';' :: pattern) source = source := by
  unfold beforeMarker
  rw [strstr_eq_none_iff.mpr h]

lemma settled_detailForPayload (detail : CString) : Settled (detailForPayload detail) := by
  have hwall := qxTruncateDetailAfterWallMs_prefix_self
    (beforeMarker (fieldMarker "tokens") (qxStripDuplicateReceiptTail detail))
  have hbefore : beforeMarker (fieldMarker "tokens") (qxStripDuplicateReceiptTail detail) <+: _ :=
    beforeMarker_prefix_self (by decide) _
  have hrounds : _ ∧ qxStripDuplicateReceiptTailOnce (qxStripDuplicateReceiptTail detail) = none :=
    stripRounds_spec le_rfl
  have hstrip := qxStripDuplicateReceiptTailOnce_eq_none_iff.mp hrounds.2
  have htokens : occurrences (fieldMarker "tokens") (detailForPayload detail) ≤ _ :=
    occurrences_le_of_prefixed hwall
  have hzero : occurrences (fieldMarker "tokens")
      (beforeMarker (fieldMarker "tokens") (qxStripDuplicateReceiptTail detail)) = 0 :=
    occurrences_beforeMarker (by decide) _
  have hlaunch : occurrences (fieldMarker "launch_mode") (detailForPayload detail) ≤ _ :=
    occurrences_le_of_prefixed (hwall.trans hbefore)
  exact ⟨Nat.le_zero.mp (hzero ▸ htokens), hlaunch.trans hstrip.2.2,
    qxTruncateDetailAfterWallMs_idem _⟩

/-- A text whose own fields hold the markers `;detail=` and `;launch_mode=` nowhere and `;tokens=`
once. -/
structure FrontFields (front : CString) : Prop where
  detail : occurrences (fieldMarker "detail") front = 0
  tokens : occurrences (fieldMarker "tokens") front ≤ 1
  launch : occurrences (fieldMarker "launch_mode") front = 0

variable {front detail : CString}

lemma occurrences_front_append {key : String} (hkey : '=' ∉ key.toList) (hsep : ';' ∉ key.toList)
    (front detail : CString) :
    occurrences (fieldMarker key) (front ++ (fieldMarker "detail" ++ detail)) =
      occurrences (fieldMarker key) front + (if "detail".toList = key.toList then 1 else 0) +
        occurrences (fieldMarker key) detail := by
  have hfield : occurrences (fieldMarker key) (';' :: ("detail".toList ++ '=' :: detail)) = _ ∧ _ :=
    occurrences_field hkey (by decide) (by decide) (by decide) detail
  have happend : fieldMarker "detail" ++ detail = ';' :: ("detail".toList ++ '=' :: detail) := by
    simp [fieldMarker]
  rw [happend, occurrences_append_cons (by simp [hsep]), hfield.1, hfield.2]
  exact (Nat.add_assoc _ _ _).symm

lemma strstr_detail_marker (hfront : FrontFields front) (detail : CString) :
    strstr (front ++ (fieldMarker "detail" ++ detail)) (fieldMarker "detail") =
      some (fieldMarker "detail" ++ detail) :=
  (strstr_append_of_none (by decide) _ (strstr_eq_none_iff.mpr hfront.detail)).trans
    (strstr_eq_self (List.prefix_append _ _))

lemma strip_eq_none (hfront : FrontFields front) (hsettled : Settled detail)
    (hdetail : occurrences (fieldMarker "detail") detail = 0) :
    qxStripDuplicateReceiptTailOnce (front ++ (fieldMarker "detail" ++ detail)) = none := by
  have hd := hfront.detail
  have ht := hfront.tokens
  have hl := hfront.launch
  have htokens := hsettled.tokens
  have hlaunch := hsettled.launch
  rw [qxStripDuplicateReceiptTailOnce_eq_none_iff,
    occurrences_front_append (by decide) (by decide),
    occurrences_front_append (by decide) (by decide),
    occurrences_front_append (by decide) (by decide), if_pos rfl, if_neg (by decide),
    if_neg (by decide)]
  refine ⟨?_, ?_, ?_⟩
  · rw [hd, hdetail]
  · rw [htokens]
    exact ht
  · rw [hl]
    simpa using hlaunch

lemma qxStripDuplicateReceiptTail_settled (hfront : FrontFields front) (hsettled : Settled detail) :
    qxStripDuplicateReceiptTail (front ++ (fieldMarker "detail" ++ detail)) =
      front ++ (fieldMarker "detail" ++ beforeMarker (fieldMarker "detail") detail) := by
  have hcut := strip_eq_none hfront
    (hsettled.of_prefixed (beforeMarker_prefix_self (by decide) detail))
    (occurrences_beforeMarker (by decide) detail)
  rcases beforeMarker_cases ("detail".toList ++ ['=']) detail (by decide) with
    ⟨-, hsame⟩ | ⟨kept, duplicate, hsplit, hdup, hkept, -⟩
  · rw [hsame] at hcut ⊢
    exact qxStripDuplicateReceiptTail_of_none hcut
  · refine qxStripDuplicateReceiptTail_of_some ?_ hcut
    have htail := duplicateTail_append (strstr_detail_marker hfront detail) hdup
    rw [hsplit, textBefore_append, ← hsplit] at htail
    rw [qxStripDuplicateReceiptTailOnce, htail, hkept]
    rfl

/-- The normalisation of a payload: the detail up to a second `;detail=`, and nothing else is
touched. -/
theorem qxStripExternalTracePayload_settled (hfront : FrontFields front)
    (hsettled : Settled detail) :
    qxStripExternalTracePayload (front ++ (fieldMarker "detail" ++ detail)) =
      front ++ (fieldMarker "detail" ++ beforeMarker (fieldMarker "detail") detail) := by
  have hkept : Settled (beforeMarker (fieldMarker "detail") detail) :=
    hsettled.of_prefixed (beforeMarker_prefix_self (by decide) detail)
  have hdetail :
      strstr (beforeMarker (fieldMarker "detail") detail) (fieldMarker "detail") = none :=
    strstr_eq_none_iff.mpr (occurrences_beforeMarker (by decide) detail)
  have htokens :
      strstr (beforeMarker (fieldMarker "detail") detail) (fieldMarker "tokens") = none :=
    strstr_eq_none_iff.mpr hkept.tokens
  unfold qxStripExternalTracePayload
  rw [qxStripDuplicateReceiptTail_settled hfront hsettled]
  simp only [strstr_detail_marker hfront, List.drop_left, innerDetailEnd, htokens, hdetail,
    hkept.wall, ne_eq, not_true_eq_false, if_false]

end normal

/-! ## Reading a field back -/

/-- A text that goes on behind a complete field. -/
def GoesOn (rest : CString) : Prop :=
  ∀ c ∈ rest.head?, c = ';'

section Read

variable {kept : CString}

/-- A field of a trace: its value ends where the next field begins. -/
structure TraceField (field : CString × CString) : Prop where
  name_ne : field.1 ≠ []
  name_eq : '=' ∉ field.1
  name_opens : ∀ c ∈ field.1, opensField c = false
  value_closes : ∀ c ∈ field.2, closesField c = false

lemma GoesOn.takeWhile (h : GoesOn kept) : kept.takeWhile (fun c => !closesField c) = [] := by
  cases kept with
  | nil => rfl
  | cons c kept =>
    obtain rfl : c = ';' := h c rfl
    rfl

lemma GoesOn.renderRest_append (h : GoesOn kept) (fields : List (CString × CString)) :
    GoesOn (renderRest '=' ';' fields ++ kept) := by
  cases fields with
  | nil => exact h
  | cons next fields =>
    intro c hc
    exact (Option.some.inj hc).symm

lemma qxObserveTraceDetailValue_front (earlier later : List (CString × CString))
    (field : CString × CString) (hfields : ∀ other ∈ earlier ++ [field], TraceField other)
    (hnew : field.1 ∉ earlier.map Prod.fst) (hkept : GoesOn kept) :
    qxObserveTraceDetailValue (renderFields '=' ';' (earlier ++ field :: later) ++ kept) field.1 =
      some ((markShadow opensField (field.1 ++ ['=']) earlier).getD field.2) := by
  have hfield := hfields field (by simp)
  have hsplit : earlier ++ field :: later = (earlier ++ [field]) ++ later := by simp
  rw [qxObserveTraceDetailValue, if_neg hfield.name_ne, qxObserveContractValue, if_neg (by simp),
    hsplit, renderFields_append (by simp), List.append_assoc]
  apply markScan_renderFields_append rfl rfl rfl hfield.name_opens hfield.name_eq
    hfield.value_closes
  · intro other hother
    have hclean := hfields other (by simp [hother])
    exact ⟨ne_of_mem_of_not_mem (List.mem_map_of_mem hother) hnew, hclean.name_eq,
      hclean.name_opens, hclean.value_closes⟩
  · exact (hkept.renderRest_append later).takeWhile

end Read

/-! ## The fields of a payload -/

def QxExternalToolResult.payloadTexts (result : QxExternalToolResult) : List (Option CString) :=
  [ result.toolName, result.principalName, result.principalRuntime, result.providerName,
    result.providerKind, result.sandboxName, result.profileName, result.environmentMode,
    result.workdirName, result.receiptSchema, result.receiptAlg, result.receiptNonce,
    result.attestationMode, result.containerId, result.vmId ]

section fields

variable {phase : ToolPhase} {result : QxExternalToolResult}

def executionKeys : List CString :=
  (executionFields [] .initial).map Prod.fst

lemma map_fst_executionFields (phase : CString) (result : QxExternalToolResult) :
    (executionFields phase result).map Prod.fst = executionKeys := rfl

lemma executionKeys_clean :
    (∀ key ∈ executionKeys, '=' ∉ key ∧ ';' ∉ key ∧ key ≠ [] ∧
      ∀ c ∈ key, opensField c = false) ∧ executionKeys.Nodup := by
  decide +kernel

lemma executionKeys_markers :
    executionKeys.tail.countP (· == "detail".toList) = 0 ∧
      executionKeys.tail.countP (· == "tokens".toList) = 1 ∧
        executionKeys.tail.countP (· == "launch_mode".toList) = 0 := by
  decide +kernel

lemma mem_executionKeys {field : CString × CString} {phase : CString}
    (h : field ∈ executionFields phase result) : field.1 ∈ executionKeys := by
  rw [← map_fst_executionFields phase result]
  exact List.mem_map_of_mem h

lemma notMem_executionFields {c : Char} (hc : c = ';' ∨ c = '\n')
    (h : ∀ value, some value ∈ result.payloadTexts → c ∉ value) :
    ∀ field ∈ executionFields phase.name result, c ∉ field.2 := by
  have hnumber : ∀ n : Int, c ∉ formatSigned n := fun n => by
    rcases hc with rfl | rfl
    · exact notMem_formatSigned (by decide) (by decide)
    · exact notMem_formatSigned (by decide) (by decide)
  have hwords : c ∉ phase.name ∧ c ∉ "<unknown>".toList ∧ c ∉ "verified".toList ∧
      c ∉ "missing".toList := by
    rcases hc with rfl | rfl
    · cases phase <;> decide
    · cases phase <;> decide
  have htext : ∀ text ∈ result.payloadTexts, ∀ fallback, c ∉ fallback → c ∉ text.getD fallback := by
    intro text htext fallback hfallback
    cases text with
    | none => exact hfallback
    | some value => exact h value htext
  have hunknown : ∀ text ∈ result.payloadTexts, c ∉ text.getD "<unknown>".toList :=
    fun text hmem => htext text hmem _ hwords.2.1
  have hsig : c ∉ (if result.receiptSignature.isSome then "verified".toList
      else "missing".toList) := by
    split
    · exact hwords.2.2.1
    · exact hwords.2.2.2
  simp only [QxExternalToolResult.payloadTexts, List.forall_mem_cons] at hunknown htext
  simp only [executionFields, List.forall_mem_cons, hnumber, hsig, hunknown, hwords.1,
    htext, List.not_mem_nil, not_false_eq_true, true_and, IsEmpty.forall_iff, implies_true]

lemma frontFields_executionFields
    (h : ∀ value, some value ∈ result.payloadTexts → ';' ∉ value) :
    FrontFields (renderFields '=' ';' (executionFields phase.name result)) := by
  have hclean : ∀ field ∈ executionFields phase.name result,
      '=' ∉ field.1 ∧ ';' ∉ field.1 ∧ ';' ∉ field.2 := by
    intro field hfield
    have hkey := executionKeys_clean.1 _ (mem_executionKeys hfield)
    exact ⟨hkey.1, hkey.2.1, notMem_executionFields (.inl rfl) h field hfield⟩
  have hcount : ∀ key : String, '=' ∉ key.toList → occurrences (fieldMarker key)
      (renderFields '=' ';' (executionFields phase.name result)) =
      executionKeys.tail.countP (· == key.toList) := by
    intro key hkey
    have hfields := occurrences_renderFields hkey (by decide) ("phase".toList, phase.name)
      (executionFields phase.name result).tail hclean
    rw [← map_fst_executionFields phase.name result, ← List.map_tail, List.countP_map]
    exact hfields
  obtain ⟨hdetail, htokens, hlaunch⟩ := executionKeys_markers
  refine ⟨(hcount "detail" (by decide)).trans hdetail, ?_,
    (hcount "launch_mode" (by decide)).trans hlaunch⟩
  exact ((hcount "tokens" (by decide)).trans htokens).le

lemma renderFields_executionFields_concat (phase : CString) (result : QxExternalToolResult)
    (detail : CString) :
    renderFields '=' ';' (executionFields phase result ++ [("detail".toList, detail)]) =
      renderFields '=' ';' (executionFields phase result) ++ (fieldMarker "detail" ++ detail) := by
  rw [renderFields_concat (executionFields phase result) (List.cons_ne_nil _ _)]
  simp [fieldMarker]

lemma qxFormatExternalExecutionPayload_eq {payload : CString}
    (h : qxFormatExternalExecutionPayload phase.name result = some payload)
    (hfields : ∀ value, some value ∈ result.payloadTexts → ';' ∉ value) :
    ∃ detail, Settled detail ∧ occurrences (fieldMarker "detail") detail = 0 ∧
      payload = renderFields '=' ';' (executionFields phase.name result) ++
        (fieldMarker "detail" ++ detail) := by
  obtain ⟨detail, -, rfl⟩ := Option.map_eq_some_iff.mp h
  have hsettled := settled_detailForPayload detail
  refine ⟨_, hsettled.of_prefixed (beforeMarker_prefix_self (by decide) _),
    occurrences_beforeMarker (by decide) _, ?_⟩
  rw [renderFields_executionFields_concat]
  exact qxStripExternalTracePayload_settled (frontFields_executionFields hfields) hsettled

lemma qxCatalogTraceDetail_external (phase : ToolPhase) (detail : CString) :
    qxCatalogTraceDetail (externalTraceName phase) detail = qxStripExternalTracePayload detail := by
  cases phase with
  | submit => exact if_pos (.inl rfl)
  | resume => exact if_pos (.inr rfl)

/-- The normalisation in the catalog changes nothing that the runtime has formatted. -/
theorem trace_detail_eq_event_payload {record : ExecutionRecord}
    (h : recordExecution phase result = some record)
    (hfields : ∀ value, some value ∈ result.payloadTexts → ';' ∉ value) :
    record.traceDetail = record.eventPayload := by
  obtain ⟨payload, hpayload, rfl⟩ := Option.map_eq_some_iff.mp h
  obtain ⟨detail, hsettled, hdetail, rfl⟩ := qxFormatExternalExecutionPayload_eq hpayload hfields
  change qxCatalogTraceDetail (externalTraceName phase) _ = _
  rw [qxCatalogTraceDetail_external,
    qxStripExternalTracePayload_settled (frontFields_executionFields hfields) hsettled,
    beforeMarker_of_none hdetail]

lemma traceField_of_clean {field : CString × CString} (hkey : field.1 ∈ executionKeys)
    (hsemicolon : ';' ∉ field.2) (hnewline : '\n' ∉ field.2) : TraceField field := by
  obtain ⟨heq, -, hne, hopens⟩ := executionKeys_clean.1 _ hkey
  refine ⟨hne, heq, hopens, fun c hc => ?_⟩
  simp only [closesField, Bool.or_eq_false_iff, beq_eq_false_iff_ne]
  exact ⟨ne_of_mem_of_not_mem hc hsemicolon, ne_of_mem_of_not_mem hc hnewline⟩

lemma qxObserveTraceDetailValue_payload {earlier later : List (CString × CString)}
    {field : CString × CString} (hsplit : executionFields phase.name result =
      earlier ++ field :: later) (detail : CString)
    (hfields : ∀ field ∈ executionFields phase.name result, TraceField field) :
    qxObserveTraceDetailValue (renderFields '=' ';' (executionFields phase.name result) ++
        (fieldMarker "detail" ++ detail)) field.1 =
      some ((markShadow opensField (field.1 ++ ['=']) earlier).getD field.2) := by
  have hnodup : ((earlier ++ field :: later).map Prod.fst).Nodup := by
    rw [← hsplit]
    exact executionKeys_clean.2
  have hnew : field.1 ∉ earlier.map Prod.fst := by
    rw [List.map_append, List.nodup_append] at hnodup
    exact fun hmem => hnodup.2.2 _ hmem _ (by simp) rfl
  rw [hsplit] at hfields ⊢
  apply qxObserveTraceDetailValue_front earlier later field _ hnew
  · exact fun c hc => (Option.some.inj hc).symm
  · intro other hother
    apply hfields
    simp only [List.mem_append, List.mem_cons, List.not_mem_nil, or_false] at hother ⊢
    tauto

/-- Every field is read back from the trace exactly when a value that holds a later field's name
behind a space goes on with the value of that field. -/
theorem trace_fields_read_back_iff {record : ExecutionRecord}
    (h : recordExecution phase result = some record)
    (hfields : ∀ value, some value ∈ result.payloadTexts → ';' ∉ value ∧ '\n' ∉ value) :
    (∀ field ∈ executionFields phase.name result,
        qxObserveTraceDetailValue record.traceDetail field.1 = some field.2) ↔
      ∀ earlier field later, executionFields phase.name result = earlier ++ field :: later →
        ∀ text, markShadow opensField (field.1 ++ ['=']) earlier = some text → text = field.2 := by
  have hsemicolon : ∀ value, some value ∈ result.payloadTexts → ';' ∉ value := fun value hvalue =>
    (hfields value hvalue).1
  have hclean : ∀ field ∈ executionFields phase.name result, TraceField field :=
    fun field hfield => traceField_of_clean (mem_executionKeys hfield)
      (notMem_executionFields (.inl rfl) hsemicolon field hfield)
      (notMem_executionFields (.inr rfl) (fun value hvalue => (hfields value hvalue).2) field hfield)
  obtain ⟨payload, hpayload, rfl⟩ := Option.map_eq_some_iff.mp h
  obtain ⟨detail, hsettled, hdetail, rfl⟩ :=
    qxFormatExternalExecutionPayload_eq hpayload hsemicolon
  change (∀ field ∈ executionFields phase.name result, qxObserveTraceDetailValue
    (qxCatalogTraceDetail (externalTraceName phase) _) field.1 = some field.2) ↔ _
  rw [qxCatalogTraceDetail_external,
    qxStripExternalTracePayload_settled (frontFields_executionFields hsemicolon) hsettled]
  constructor
  · intro hread earlier field later hsplit text htext
    have hvalue := hread field (by simp [hsplit])
    rw [qxObserveTraceDetailValue_payload hsplit _ hclean, htext] at hvalue
    exact Option.some.inj hvalue
  · intro hshadow field hfield
    obtain ⟨earlier, later, hsplit⟩ := List.append_of_mem hfield
    rw [qxObserveTraceDetailValue_payload hsplit _ hclean]
    cases htext : markShadow opensField (field.1 ++ ['=']) earlier with
    | none => rfl
    | some text => rw [Option.getD_some, hshadow earlier field later hsplit text htext]

end fields

def demoResult (tool detail : String) : QxExternalToolResult where
  tokenCharge := 6
  costCharge := 5
  timeoutMs := 3000
  processLimit := 2
  pathPresent := false
  detail := some detail.toList
  toolName := some tool.toList
  principalName := some "ops".toList
  principalRuntime := some "host".toList
  providerName := some "local".toList
  providerKind := some "loopback".toList
  sandboxName := some "builtin".toList
  profileName := some "builtin".toList
  environmentMode := some "minimal".toList
  workdirName := some "pg_qx_runtime".toList
  receiptSchema := some "qx.receipt.v1".toList
  receiptAlg := some "hmac-sha256".toList
  receiptNonce := some ("submit:".toList ++ tool.toList ++ ":ops".toList)
  receiptSignature := some "5ec0de".toList
  attestationMode := some "optional".toList
  containerId := none
  vmId := none

def demoScheme : SignatureScheme :=
  ⟨fun _ _ => "5ec0de".toList, none⟩

def demoExpected (tool : String) : ExpectedResult where
  profile := ⟨"builtin".toList, 3000, 262144, 2⟩
  phase := some "submit".toList
  taskoid := 1
  tool := some tool.toList
  principal := some "ops".toList
  principalRuntime := some "host".toList
  provider := some "local".toList
  providerKind := some "loopback".toList
  providerEndpoint := some "local://runner".toList
  receiptSchema := some "qx.receipt.v1".toList
  receiptAlg := some "hmac-sha256".toList
  receiptNonce := some ("submit:".toList ++ tool.toList ++ ":ops".toList)
  requireAttestation := false

/-- A detail that repeats fields and holds text behind its wall time is recorded in one form. -/
theorem demoResult_recorded_once :
    ∃ record, recordExecution .submit (demoResult "extract"
        "done;detail=x;wall_ms=12s;detail=y;tokens=9") = some record ∧
      record.traceDetail = record.eventPayload := by
  have hrecord : (recordExecution .submit (demoResult "extract"
      "done;detail=x;wall_ms=12s;detail=y;tokens=9")).isSome = true := rfl
  obtain ⟨record, hrecord⟩ := Option.isSome_iff_exists.mp hrecord
  refine ⟨record, hrecord, trace_detail_eq_event_payload hrecord ?_⟩
  have htexts : ∀ text ∈ (demoResult "extract"
      "done;detail=x;wall_ms=12s;detail=y;tokens=9").payloadTexts,
      ∀ value ∈ text, ';' ∉ value := by
    decide +kernel
  intro value hvalue
  exact htexts _ hvalue value rfl

theorem demoResult_read_back :
    ∃ record, recordExecution .submit (demoResult "extract" "done") = some record ∧
      ∀ field ∈ executionFields ToolPhase.submit.name (demoResult "extract" "done"),
        qxObserveTraceDetailValue record.traceDetail field.1 = some field.2 := by
  have hrecord : (recordExecution .submit (demoResult "extract" "done")).isSome = true := rfl
  obtain ⟨record, hrecord⟩ := Option.isSome_iff_exists.mp hrecord
  have htexts : (∀ text ∈ (demoResult "extract" "done").payloadTexts,
        ∀ value ∈ text, ';' ∉ value ∧ '\n' ∉ value) ∧
      ∀ field ∈ executionFields ToolPhase.submit.name (demoResult "extract" "done"),
        ∀ c ∈ field.2, opensField c = false := by
    decide +kernel
  refine ⟨record, hrecord, (trace_fields_read_back_iff hrecord
    fun value hvalue => htexts.1 _ hvalue value rfl).mpr ?_⟩
  intro earlier field later hsplit text htext
  have hnone : markShadow opensField (field.1 ++ ['=']) earlier = none :=
    markShadow_eq_none fun other hother =>
      htexts.2 other (by rw [hsplit]; exact List.mem_append_left _ hother)
  rw [hnone] at htext
  cases htext

/-- A tool may be called `x receipt_sig=missing`. Its verified receipt is then counted as a rejected
one. -/
theorem demoResult_signature_misread :
    (qxValidateExternalResult demoScheme (demoExpected "x receipt_sig=missing") "key".toList
        (demoResult "x receipt_sig=missing" "done")).isOk = true ∧
      (∀ text ∈ (demoResult "x receipt_sig=missing" "done").payloadTexts,
        ∀ value ∈ text, ';' ∉ value ∧ '\n' ∉ value) ∧
      ("receipt_sig".toList, "verified".toList) ∈
        executionFields "submit".toList (demoResult "x receipt_sig=missing" "done") ∧
      (recordExecution .submit (demoResult "x receipt_sig=missing" "done")).map (fun record =>
        qxObserveTraceDetailValue record.traceDetail "receipt_sig".toList) =
          some (some "missing".toList) := by
  decide +kernel

end QhapaqXian
