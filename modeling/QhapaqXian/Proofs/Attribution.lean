import QhapaqXian.Attribution
import QhapaqXian.Proofs.Collector
import QhapaqXian.Proofs.Contract
import QhapaqXian.Proofs.ContractExecution
import QhapaqXian.Proofs.ExecutionTrace
import QhapaqXian.Proofs.PolicyRuns
import QhapaqXian.Proofs.ResponseLines

/-!
# Whom an execution is counted for

The trace of an execution names the provider and the principal of its contract, and the collector
looks the names up in the schema `public`.
-/

namespace QhapaqXian

open Library

/-! ## What the normalisation keeps -/

/-- A text that holds none of the markers that the normalisation looks for. -/
structure Unmarked (front : CString) : Prop where
  detail : occurrences (fieldMarker "detail") front = 0
  tokens : occurrences (fieldMarker "tokens") front = 0
  launch : occurrences (fieldMarker "launch_mode") front = 0

section Kept

variable {front rest text start pattern : CString}

lemma GoesOn.of_prefixed {kept : CString} (h : GoesOn rest) (hkept : kept <+: rest) :
    GoesOn kept := by
  obtain ⟨more, rfl⟩ := hkept
  cases kept with
  | nil => exact fun c hc => nomatch hc
  | cons d kept => exact h

lemma suffix_rest_of_strstr (hpattern : ';' ∉ pattern) (hrest : GoesOn rest)
    (hfront : occurrences (';' :: pattern) front = 0)
    (h : strstr (front ++ rest) (';' :: pattern) = some start) : start <:+ rest := by
  have hnone := strstr_eq_none_iff.mpr hfront
  cases rest with
  | nil =>
    rw [List.append_nil, hnone] at h
    cases h
  | cons c more =>
    obtain rfl : c = ';' := hrest c rfl
    rw [strstr_append_of_none hpattern more hnone] at h
    exact strstr_suffix h

def KeepsFront (front rest text : CString) : Prop :=
  ∃ kept, kept <+: rest ∧ text = front ++ kept

lemma keepsFront_textBefore (h : start <:+ rest) :
    KeepsFront front rest (textBefore (front ++ rest) start) := by
  obtain ⟨kept, rfl⟩ := h
  rw [← List.append_assoc, textBefore_append]
  exact ⟨kept, List.prefix_append _ _, rfl⟩

lemma keepsFront_duplicateTail (hpattern : ';' ∉ pattern) (hrest : GoesOn rest)
    (hfront : occurrences (';' :: pattern) front = 0)
    (h : duplicateTail (';' :: pattern) (front ++ rest) = some text) :
    KeepsFront front rest text := by
  obtain ⟨start, hfind, h⟩ := Option.bind_eq_some_iff.mp h
  obtain ⟨duplicate, hdup, htext⟩ := Option.bind_eq_some_iff.mp h
  rw [← Option.some.inj htext]
  apply keepsFront_textBefore
  exact ((strstr_suffix hdup).trans (List.drop_suffix _ _)).trans
    (suffix_rest_of_strstr hpattern hrest hfront hfind)

lemma keepsFront_once (hfront : Unmarked front) (hrest : GoesOn rest)
    (h : qxStripDuplicateReceiptTailOnce (front ++ rest) = some text) :
    KeepsFront front rest text := by
  unfold qxStripDuplicateReceiptTailOnce at h
  rw [Option.or_eq_some_iff, Option.or_eq_some_iff] at h
  rcases h with h | ⟨-, h | ⟨-, h⟩⟩
  · exact keepsFront_duplicateTail (by decide) hrest hfront.detail h
  · exact keepsFront_duplicateTail (by decide) hrest hfront.tokens h
  · exact keepsFront_duplicateTail (by decide) hrest hfront.launch h

lemma keepsFront_rounds (hfront : Unmarked front) (hrest : GoesOn rest) (rounds : Nat) :
    KeepsFront front rest (stripRounds rounds (front ++ rest)) := by
  induction rounds generalizing rest with
  | zero => exact ⟨rest, List.prefix_refl _, rfl⟩
  | succ rounds ih =>
    rw [stripRounds]
    cases hnext : qxStripDuplicateReceiptTailOnce (front ++ rest) with
    | none => exact ⟨rest, List.prefix_refl _, rfl⟩
    | some next =>
      obtain ⟨kept, hkept, rfl⟩ := keepsFront_once hfront hrest hnext
      obtain ⟨less, hless, hrounds⟩ := ih (hrest.of_prefixed hkept)
      exact ⟨less, hless.trans hkept, hrounds⟩

lemma innerDetailEnd_suffix {inner truncateAt : CString}
    (h : innerDetailEnd inner = some truncateAt) : truncateAt <:+ inner := by
  unfold innerDetailEnd at h
  cases htokens : strstr inner (fieldMarker "tokens") with
  | none =>
    simp only [htokens] at h
    exact strstr_suffix h
  | some tokens =>
    cases hdup : strstr inner (fieldMarker "detail") with
    | none =>
      simp only [htokens, hdup, Option.some.injEq] at h
      exact h ▸ strstr_suffix htokens
    | some detailDup =>
      simp only [htokens, hdup] at h
      split at h
      · exact Option.some.inj h ▸ strstr_suffix htokens
      · exact Option.some.inj h ▸ strstr_suffix hdup

/-- The normalisation cuts a payload behind its first fields. -/
theorem qxStripExternalTracePayload_keepsFront (hfront : Unmarked front) (hrest : GoesOn rest) :
    KeepsFront front rest (qxStripExternalTracePayload (front ++ rest)) := by
  obtain ⟨kept, hkept, hstripped⟩ := keepsFront_rounds hfront hrest (front ++ rest).length
  have hgoesOn := hrest.of_prefixed hkept
  unfold qxStripExternalTracePayload qxStripDuplicateReceiptTail
  simp only [hstripped]
  cases hmarker : strstr (front ++ kept) (fieldMarker "detail") with
  | none => exact ⟨kept, hkept, rfl⟩
  | some detailMarker =>
    have hdetail := suffix_rest_of_strstr (by decide) hgoesOn hfront.detail hmarker
    have hinner := (List.drop_suffix (fieldMarker "detail").length detailMarker).trans hdetail
    dsimp only
    generalize detailMarker.drop (fieldMarker "detail").length = inner at hinner
    have hbefore : ∀ start, start <:+ kept →
        KeepsFront front rest (textBefore (front ++ kept) start) := by
      intro start hstart
      obtain ⟨less, hless, htext⟩ := keepsFront_textBefore hstart
      exact ⟨less, hless.trans hkept, htext⟩
    cases hend : innerDetailEnd inner with
    | some truncateAt => exact hbefore truncateAt ((innerDetailEnd_suffix hend).trans hinner)
    | none =>
      dsimp only
      split
      · -- a detail that is cut behind its wall time is a part of the payload
        obtain ⟨before, rfl⟩ := hinner
        rw [← List.append_assoc, textBefore_append, List.append_assoc]
        exact ⟨_, ((List.prefix_append_right_inj before).mpr
          (qxTruncateDetailAfterWallMs_prefix_self inner)).trans hkept, rfl⟩
      · exact ⟨kept, hkept, rfl⟩

end Kept

/-! ## The response -/

def QxExternalToolResult.leadingTexts (result : QxExternalToolResult) : List (Option CString) :=
  [result.toolName, result.principalName, result.principalRuntime, result.providerName]

section Response

variable {result next : QxExternalToolResult} {key : ResponseKey} {value text : CString}

lemma mem_leadingTexts_assign (h : result.assign key value = .ok next)
    (htext : some text ∈ next.leadingTexts) : text = value ∨ some text ∈ result.leadingTexts := by
  have hnumber (set : Int → QxExternalToolResult)
      (h : (pgStrtoint32 value >>= fun n => pure (set n)) = .ok next)
      (hset : ∀ n, (set n).leadingTexts = result.leadingTexts) :
      text = value ∨ some text ∈ result.leadingTexts := by
    obtain ⟨n, -, hnext⟩ := bind_eq_ok_iff.mp h
    rw [← pure_eq_ok_iff.mp hnext, hset] at htext
    exact .inr htext
  cases key with
  | tokens => exact hnumber _ h fun _ => rfl
  | cost => exact hnumber _ h fun _ => rfl
  | timeoutMs => exact hnumber _ h fun _ => rfl
  | processLimit => exact hnumber _ h fun _ => rfl
  | status =>
    rw [QxExternalToolResult.assign] at h
    split at h
    · cases h
      exact .inr htext
    · cases h
  | tool | principal | principalRuntime | provider =>
    cases h
    simp only [QxExternalToolResult.leadingTexts, List.mem_cons, Option.some.injEq] at htext ⊢
    tauto
  | _ =>
    cases h
    exact .inr htext

lemma newline_notMem_cutValue (value : CString) : '\n' ∉ cutValue value := by
  intro hmem
  have hbreak := List.mem_takeWhile_imp hmem
  simp [isLineBreak] at hbreak

lemma newline_notMem_responseAssignments {lines : List CString} {detail : Option CString}
    (hdetail : ∀ text ∈ detail, '\n' ∉ text) :
    ∀ entry ∈ responseAssignments detail lines, '\n' ∉ entry.2 := by
  induction lines generalizing detail with
  | nil =>
    cases detail with
    | none => exact fun entry hentry => absurd hentry List.not_mem_nil
    | some detail =>
      intro entry hentry
      rw [responseAssignments, List.mem_singleton] at hentry
      rw [hentry]
      exact hdetail detail rfl
  | cons line lines ih =>
    have hnone := @ih none fun text htext => absurd htext (Option.not_mem_none text)
    cases detail with
    | some detail =>
      have hdetail := hdetail detail rfl
      rw [responseAssignments]
      split
      · rintro entry hentry
        rcases List.mem_cons.mp hentry with rfl | hentry
        · have hline : '\n' ∉ line.takeWhile (· ≠ '\n') := notMem_upTo '\n' line
          simp only [List.mem_append, not_or]
          exact ⟨hdetail, hline⟩
        · exact hnone entry hentry
      · rename_i hline
        apply ih
        rintro text ⟨⟩
        simp only [List.mem_append, not_or]
        exact ⟨hdetail, hline⟩
    | none =>
      cases hsplit : splitAssignment '=' line with
      | none =>
        rw [responseAssignments_of_none hsplit]
        exact hnone
      | some entry =>
        obtain ⟨name, value⟩ := entry
        rw [responseAssignments_of_some hsplit]
        split
        · rename_i hpiece
          apply ih
          rintro text ⟨⟩
          rw [← hpiece.2.2]
          exact newline_notMem_cutValue value
        · intro entry hentry
          rcases List.mem_cons.mp hentry with rfl | hentry
          · exact newline_notMem_cutValue value
          · exact hnone entry hentry

lemma newline_notMem_foldlM {entries : List (CString × CString)}
    (hentries : ∀ entry ∈ entries, '\n' ∉ entry.2)
    (h : entries.foldlM QxExternalToolResult.assignNamed result = .ok next)
    (hclean : ∀ text, some text ∈ result.leadingTexts → '\n' ∉ text) :
    ∀ text, some text ∈ next.leadingTexts → '\n' ∉ text := by
  induction entries generalizing result with
  | nil =>
    cases h
    exact hclean
  | cons entry entries ih =>
    obtain ⟨hentry, hentries⟩ := List.forall_mem_cons.mp hentries
    rw [List.foldlM_cons] at h
    obtain ⟨assigned, hassigned, h⟩ := bind_eq_ok_iff.mp h
    apply ih hentries h
    intro text htext
    unfold QxExternalToolResult.assignNamed at hassigned
    cases hname : ResponseKey.ofName? entry.1 with
    | none =>
      simp only [hname, Except.ok.injEq] at hassigned
      exact hclean text (hassigned ▸ htext)
    | some key =>
      simp only [hname] at hassigned
      rcases mem_leadingTexts_assign hassigned htext with rfl | hheld
      · exact hentry
      · exact hclean text hheld

lemma newline_notMem_leadingTexts {contents : CString}
    (h : parseExternalResult contents = .ok result) :
    ∀ text, some text ∈ result.leadingTexts → '\n' ∉ text := by
  obtain ⟨read, hread, hresult⟩ := bind_eq_ok_iff.mp h
  rw [← pure_eq_ok_iff.mp hresult]
  have hdetail : ∀ text ∈ (none : Option CString), '\n' ∉ text := fun text htext => nomatch htext
  apply newline_notMem_foldlM (newline_notMem_responseAssignments hdetail) hread
  intro text htext
  simp [QxExternalToolResult.leadingTexts, QxExternalToolResult.initial] at htext

end Response

/-! ## The trace of a call -/

namespace ContractCall

variable {call : ContractCall} {leases : Slots BackendLease} {result : QxExternalToolResult}

def contractValue (call : ContractCall) (key : String) : CString :=
  (qxContractValue (some call.contract) key.toList).getD []

def leadingFields (call : ContractCall) : List (CString × CString) :=
  [ ("phase".toList, call.phase.name),
    ("tool".toList, call.contractValue "tool"),
    ("principal".toList, call.contractValue "principal"),
    ("principal_runtime".toList, qxPrincipalRuntime call.contract),
    ("provider".toList, call.contractValue "provider") ]

/-- What is read for a field of the trace: the contract's value, or what an earlier value holds
behind the field's name. -/
def shown (call : ContractCall) (key : String) : CString :=
  let earlier := call.leadingFields.takeWhile fun field => field.1 ≠ key.toList
  (markShadow opensField (key.toList ++ ['=']) earlier).getD (call.contractValue key)

lemma accepted_of_outcome (h : (qxExecuteToolContract call leases).outcome = .ok result) :
    ∃ sandbox profile wallTimeMs response, call.Reports response ∧
      ResponseMatches (call.expected profile) response ∧
      result = qxCompleteResult call.contract sandbox profile (call.expected profile) wallTimeMs
        response := by
  have hok : (qxExecuteToolContract call leases).outcome.isOk = true := by
    rw [h]
    rfl
  rcases call.course leases with ⟨-, -, hfailed⟩ | ⟨-, -, -, hfailed⟩ |
    ⟨receiptKey, sandbox, profile, effect, response, -, -, hreports, hend⟩
  · cases hok.symm.trans hfailed
  · cases hok.symm.trans hfailed
  · rw [hend, qxFinishExecution] at h
    cases hregister : call.register response leases with
    | error error =>
      rw [hregister] at h
      cases h
    | ok registered =>
      rw [hregister] at h
      dsimp only at h
      cases hvalid : qxValidateExternalResult call.scheme (call.expected profile) receiptKey
          response with
      | error error =>
        rw [hvalid] at h
        cases h
      | ok _ =>
        rw [hvalid] at h
        exact ⟨sandbox, profile, effect.wallTimeMs, response, hreports,
          (qxValidateExternalResult_eq_ok_iff.mp hvalid).1, (Except.ok.inj h).symm⟩

/-- A contract that names its tool, its principal and its provider. -/
structure NamesAll (call : ContractCall) : Prop where
  tool : (qxContractValue (some call.contract) "tool".toList).isSome = true
  principal : (qxContractValue (some call.contract) "principal".toList).isSome = true
  provider : (qxContractValue (some call.contract) "provider".toList).isSome = true

lemma namesAll_of_toolContract {built : PolicyCatalog} {tool : ToolRow}
    (h : call.contract = toolContract built tool) : call.NamesAll where
  tool := h ▸ qxContractValue_toolContract built tool (by decide)
  principal := h ▸ qxContractValue_toolContract built tool (by decide)
  provider := h ▸ qxContractValue_toolContract built tool (by decide)

lemma qxContractValue_eq_contractValue {key : String}
    (h : (qxContractValue (some call.contract) key.toList).isSome = true) :
    qxContractValue (some call.contract) key.toList = some (call.contractValue key) := by
  obtain ⟨value, hvalue⟩ := Option.isSome_iff_exists.mp h
  rw [contractValue, hvalue]
  rfl

lemma semicolon_notMem_value (call : ContractCall) (key : String) :
    ';' ∉ call.contractValue key := by
  unfold contractValue
  cases hvalue : qxContractValue (some call.contract) key.toList with
  | none => exact List.not_mem_nil
  | some value => exact notMem_of_fieldValue hvalue

lemma semicolon_notMem_runtime (contract : CString) : ';' ∉ qxPrincipalRuntime contract := by
  have hdefault (kind : Option CString) : ';' ∉ qxDefaultRuntimeForProviderKind kind := by
    unfold qxDefaultRuntimeForProviderKind
    split_ifs <;> decide
  unfold qxPrincipalRuntime
  cases hvalue : qxContractValue (some contract) "principal_runtime".toList with
  | none => exact hdefault _
  | some value =>
    rw [nonEmptyOr_some]
    split
    · exact hdefault _
    · exact notMem_of_fieldValue hvalue

lemma leadingTexts_of_outcome (hnames : call.NamesAll)
    (h : (qxExecuteToolContract call leases).outcome = .ok result) :
    result.leadingTexts = [some (call.contractValue "tool"), some (call.contractValue "principal"),
        some (qxPrincipalRuntime call.contract), some (call.contractValue "provider")] ∧
      ∀ text, some text ∈ result.leadingTexts → '\n' ∉ text := by
  obtain ⟨sandbox, profile, wallTimeMs, response, hreports, hmatches, rfl⟩ := accepted_of_outcome h
  obtain ⟨effect, contents, -, -, -, hparsed⟩ := hreports
  have htool : response.toolName = some (call.contractValue "tool") :=
    hmatches.tool _ (qxContractValue_eq_contractValue hnames.tool)
  have hprincipal : response.principalName = some (call.contractValue "principal") :=
    hmatches.principal _ (qxContractValue_eq_contractValue hnames.principal)
  have hruntime : response.principalRuntime = some (qxPrincipalRuntime call.contract) :=
    hmatches.principalRuntime _ rfl
  have hprovider : response.providerName = some (call.contractValue "provider") :=
    hmatches.provider _ (qxContractValue_eq_contractValue hnames.provider)
  have hsame : (qxCompleteResult call.contract sandbox profile (call.expected profile) wallTimeMs
      response).leadingTexts = response.leadingTexts := by
    simp only [QxExternalToolResult.leadingTexts, qxCompleteResult, htool, hprincipal, hruntime,
      hprovider, Option.some_or]
  rw [hsame]
  refine ⟨?_, newline_notMem_leadingTexts hparsed⟩
  simp only [QxExternalToolResult.leadingTexts, htool, hprincipal, hruntime, hprovider]

lemma map_fst_leadingFields (call : ContractCall) :
    call.leadingFields.map Prod.fst = executionKeys.take 5 := rfl

lemma mem_executionKeys_of_leading {field : CString × CString} (h : field ∈ call.leadingFields) :
    field.1 ∈ executionKeys := by
  apply List.mem_of_mem_take (i := 5)
  rw [← map_fst_leadingFields call]
  exact List.mem_map_of_mem h

lemma leadingValue_clean (hnames : call.NamesAll)
    (h : (qxExecuteToolContract call leases).outcome = .ok result) :
    ∀ field ∈ call.leadingFields, ';' ∉ field.2 ∧ '\n' ∉ field.2 := by
  obtain ⟨htexts, hnewline⟩ := leadingTexts_of_outcome hnames h
  simp only [htexts, List.mem_cons, Option.some.injEq, List.not_mem_nil, or_false] at hnewline
  have hphase : ';' ∉ call.phase.name ∧ '\n' ∉ call.phase.name := by
    cases call.phase <;> decide
  simp only [leadingFields, List.forall_mem_cons]
  refine ⟨hphase, ⟨call.semicolon_notMem_value "tool", ?_⟩,
    ⟨call.semicolon_notMem_value "principal", ?_⟩, ⟨semicolon_notMem_runtime call.contract, ?_⟩,
    ⟨call.semicolon_notMem_value "provider", ?_⟩, List.forall_mem_nil _⟩
  · exact hnewline _ (.inl rfl)
  · exact hnewline _ (.inr (.inl rfl))
  · exact hnewline _ (.inr (.inr (.inl rfl)))
  · exact hnewline _ (.inr (.inr (.inr rfl)))

lemma traceField_leadingFields (hnames : call.NamesAll)
    (h : (qxExecuteToolContract call leases).outcome = .ok result) :
    ∀ field ∈ call.leadingFields, TraceField field := by
  intro field hfield
  obtain ⟨hsemicolon, hnewline⟩ := leadingValue_clean hnames h field hfield
  exact traceField_of_clean (mem_executionKeys_of_leading hfield) hsemicolon hnewline

lemma unmarked_leadingFields (hnames : call.NamesAll)
    (h : (qxExecuteToolContract call leases).outcome = .ok result) :
    Unmarked (renderFields '=' ';' call.leadingFields) := by
  have hclean : ∀ field ∈ call.leadingFields, '=' ∉ field.1 ∧ ';' ∉ field.1 ∧ ';' ∉ field.2 := by
    intro field hfield
    obtain ⟨heq, hsep, -⟩ := executionKeys_clean.1 _ (mem_executionKeys_of_leading hfield)
    exact ⟨heq, hsep, (leadingValue_clean hnames h field hfield).1⟩
  have hcount : ∀ key : String, '=' ∉ key.toList →
      (executionKeys.take 5).tail.countP (· == key.toList) = 0 →
        occurrences (fieldMarker key) (renderFields '=' ';' call.leadingFields) = 0 := by
    intro key hkey hnone
    have hfields := occurrences_renderFields hkey (by decide) ("phase".toList, call.phase.name)
      call.leadingFields.tail hclean
    rw [← map_fst_leadingFields call, ← List.map_tail, List.countP_map] at hnone
    exact hfields.trans hnone
  exact ⟨hcount "detail" (by decide) (by decide +kernel),
    hcount "tokens" (by decide) (by decide +kernel),
    hcount "launch_mode" (by decide) (by decide +kernel)⟩

lemma traceDetail_front (hnames : call.NamesAll)
    (h : (qxExecuteToolContract call leases).outcome = .ok result) {record : ExecutionRecord}
    (hrecord : recordExecution call.phase result = some record) :
    ∃ kept, GoesOn kept ∧
      record.traceDetail = renderFields '=' ';' call.leadingFields ++ kept := by
  have hunmarked := unmarked_leadingFields hnames h
  obtain ⟨htexts, -⟩ := leadingTexts_of_outcome hnames h
  obtain ⟨payload, hpayload, rfl⟩ := Option.map_eq_some_iff.mp hrecord
  obtain ⟨detail, -, rfl⟩ := Option.map_eq_some_iff.mp hpayload
  have hsplit : executionFields call.phase.name result =
      call.leadingFields ++ (executionFields call.phase.name result).drop 5 := by
    simp only [QxExternalToolResult.leadingTexts, List.cons.injEq, and_true] at htexts
    obtain ⟨htool, hprincipal, hruntime, hprovider⟩ := htexts
    simp only [executionFields, leadingFields, htool, hprincipal, hruntime, hprovider,
      Option.getD_some]
    rfl
  have hne : call.leadingFields ≠ [] := List.cons_ne_nil _ _
  rw [hsplit, List.append_assoc, renderFields_append hne]
  generalize (executionFields call.phase.name result).drop 5 ++ _ = others
  have hrest : GoesOn (renderRest '=' ';' others) := by
    have hnil : GoesOn [] := by simp [GoesOn]
    have happend := hnil.renderRest_append others
    rwa [List.append_nil] at happend
  obtain ⟨payload, hpayload, hstripped⟩ := qxStripExternalTracePayload_keepsFront hunmarked hrest
  have hgoesOn := hrest.of_prefixed hpayload
  obtain ⟨kept, hkept, hagain⟩ := qxStripExternalTracePayload_keepsFront hunmarked hgoesOn
  refine ⟨kept, hgoesOn.of_prefixed hkept, ?_⟩
  change qxCatalogTraceDetail (externalTraceName call.phase) _ = _
  rw [qxCatalogTraceDetail_external, hstripped, hagain]

lemma shown_read (hnames : call.NamesAll)
    (h : (qxExecuteToolContract call leases).outcome = .ok result) {record : ExecutionRecord}
    (hrecord : recordExecution call.phase result = some record) :
    qxObserveTraceDetailValue record.traceDetail "provider".toList = some (call.shown "provider") ∧
      qxObserveTraceDetailValue record.traceDetail "principal".toList =
        some (call.shown "principal") := by
  have hfields := traceField_leadingFields hnames h
  obtain ⟨kept, hkept, htrace⟩ := traceDetail_front hnames h hrecord
  rw [htrace]
  constructor
  · have hnew : "provider".toList ∉ executionKeys.take 4 := by decide +kernel
    exact qxObserveTraceDetailValue_front (call.leadingFields.take 4) []
      ("provider".toList, call.contractValue "provider") hfields hnew hkept
  · have hnew : "principal".toList ∉ executionKeys.take 2 := by decide +kernel
    have hfirst : ∀ other ∈ call.leadingFields.take 3, TraceField other := fun other hother =>
      hfields other (List.mem_of_mem_take hother)
    exact qxObserveTraceDetailValue_front (call.leadingFields.take 2) (call.leadingFields.drop 3)
      ("principal".toList, call.contractValue "principal") hfirst hnew hkept

end ContractCall

/-! ## The report -/

/-- The trace is counted for the provider and the principal, and for no other ones. -/
def Attributed (collector : Collector) (layout : SchemaLayout) (dboid : Oid)
    (name detail : CString) (provideroid principaloid : Oid) : Prop :=
  ∃ after, qxStatReportFromTrace collector layout dboid name detail = .ok after ∧
    (∀ key : StatKey, key.kind = .provider →
      (heldCounters after.slots key ≠ heldCounters collector.slots key ↔
        key = providerKey dboid provideroid)) ∧
    ∀ key : StatKey, key.kind = .principal →
      (heldCounters after.slots key ≠ heldCounters collector.slots key ↔
        key = principalKey dboid principaloid)

namespace SchemaLayout

def Leads (layout : SchemaLayout) (lookup : Oid → CString → Option Oid) (name : CString)
    (oid : Oid) : Prop :=
  name ≠ [] ∧ oidIsValid oid = true ∧
    ∃ namespaceoid, layout.publicNamespace = some namespaceoid ∧
      lookup namespaceoid name = some oid

def LeadsToProvider (layout : SchemaLayout) : CString → Oid → Prop :=
  layout.Leads fun namespaceoid name =>
    (layout.policy.lookupProviderByName namespaceoid name).map ProviderRow.oid

def LeadsToPrincipal (layout : SchemaLayout) : CString → Oid → Prop :=
  layout.Leads fun namespaceoid name =>
    (layout.policy.lookupPrincipalByName namespaceoid name).map PrincipalRow.oid

lemma leads_iff {layout : SchemaLayout} {lookup : Oid → CString → Option Oid} {name : CString}
    {oid : Oid} : layout.Leads lookup name oid ↔
      layout.lookupPublicOid lookup (some name) = .ok oid ∧ oidIsValid oid = true := by
  have hinvalid : oidIsValid invalidOid = false := by decide
  unfold Leads
  cases name with
  | nil =>
    simp only [lookupPublicOid, Except.ok.injEq, ne_eq, not_true_eq_false, false_and, false_iff,
      not_and]
    rintro rfl
    simp [hinvalid]
  | cons c name =>
    cases hpublic : layout.publicNamespace with
    | none => simp [lookupPublicOid, getPublicNamespace, hpublic, ereport]
    | some namespaceoid =>
      simp only [lookupPublicOid, getPublicNamespace, hpublic, pure_eq_ok_iff, bind_eq_ok_iff,
        Except.ok.injEq, exists_eq_left', ne_eq, reduceCtorEq, not_false_eq_true, true_and,
        Option.some.injEq]
      cases hfound : lookup namespaceoid (c :: name) with
      | none =>
        simp only [Option.getD_none, reduceCtorEq, and_false, false_iff, not_and]
        rintro rfl
        simp [hinvalid]
      | some found => simp [and_comm]

end SchemaLayout

section Report

variable {collector : Collector} {layout : SchemaLayout} {dboid provideroid principaloid : Oid}
  {key : StatKey}

lemma qxStatMutateProvider_ne (resume receiptVerified : Bool) (counters : StatCounters) :
    qxStatMutateProvider resume receiptVerified counters ≠ counters := by
  intro h
  have hcount := congrArg (fun counters => counters.submitCount + counters.resumeCount) h
  cases resume <;> cases receiptVerified <;>
    simp [qxStatMutateProvider, StatCounters.countPhase] at hcount

lemma qxStatMutatePrincipal_ne (resume checkpointed receiptVerified : Bool)
    (counters : StatCounters) :
    qxStatMutatePrincipal resume checkpointed receiptVerified counters ≠ counters := by
  intro h
  have hcount := congrArg (fun counters => counters.submitCount + counters.resumeCount) h
  cases resume <;> cases checkpointed <;> cases receiptVerified <;>
    simp [qxStatMutatePrincipal, StatCounters.countPhase] at hcount

/-- The report for an entity, which is made if its OID is valid. -/
def Collector.reportFor (collector : Collector) (oid : Oid) (key : StatKey)
    (mutate : StatCounters → StatCounters) : Collector :=
  if !oidIsValid oid then collector else collector.report key mutate

section ReportFor

variable {oid : Oid} {entity : StatKey} {mutate : StatCounters → StatCounters}

lemma reportFor_ne_iff (hkey : entity.stored = entity)
    (hmutate : ∀ counters, mutate counters ≠ counters) (htrack : collector.trackStats = true) :
    heldCounters (collector.reportFor oid entity mutate).slots key ≠
        heldCounters collector.slots key ↔
      (oidIsValid oid = true ∧ Accepts collector.slots entity) ∧ key = entity := by
  unfold Collector.reportFor
  cases oidIsValid oid with
  | false => simp
  | true =>
    rw [Bool.not_true, if_neg Bool.false_ne_true,
      Collector.heldCounters_report_ne_iff hkey hmutate, and_iff_right htrack]
    tauto

lemma heldCounters_reportFor (hkind : key.kind ≠ entity.kind) :
    heldCounters (collector.reportFor oid entity mutate).slots key =
      heldCounters collector.slots key := by
  unfold Collector.reportFor
  split
  · rfl
  · exact collector.heldCounters_report_of_kind hkind _

lemma trackStats_reportFor :
    (collector.reportFor oid entity mutate).trackStats = collector.trackStats := by
  unfold Collector.reportFor Collector.report
  split_ifs <;> rfl

lemma slots_reportFor (htrack : collector.trackStats = true) (hvalid : oidIsValid oid = true) :
    (collector.reportFor oid entity mutate).slots =
      qxStatWithEntry collector.slots entity mutate := by
  simp only [Collector.reportFor, hvalid, Collector.report, htrack, Bool.not_true,
    Bool.false_eq_true, if_false, if_true]

end ReportFor

lemma heldCounters_reportRuntimeClass (hkind : key.kind ≠ .runtimeClass)
    (runtimeClass : Option CString) (resume checkpointed receiptVerified : Bool) :
    heldCounters (qxStatReportRuntimeClassExecution collector dboid runtimeClass resume
      checkpointed receiptVerified).slots key = heldCounters collector.slots key := by
  unfold qxStatReportRuntimeClassExecution
  split
  · rfl
  · rfl
  · exact collector.heldCounters_report_of_kind hkind _

lemma forall_changed_iff {kind : StatKind} {changed : StatKey → Prop} {condition : Prop}
    {made wanted : StatKey} (hwanted : wanted.kind = kind)
    (h : ∀ key : StatKey, key.kind = kind → (changed key ↔ condition ∧ key = made)) :
    (∀ key : StatKey, key.kind = kind → (changed key ↔ key = wanted)) ↔
      condition ∧ made = wanted := by
  constructor
  · intro hexactly
    obtain ⟨hcondition, hmade⟩ := (h wanted hwanted).mp ((hexactly wanted hwanted).mpr rfl)
    exact ⟨hcondition, hmade.symm⟩
  · rintro ⟨hcondition, rfl⟩ key hkind
    rw [h key hkind]
    exact and_iff_right hcondition

def reported (collector : Collector) (dboid provideroid principaloid : Oid)
    (runtimeClass : Option CString) (resume checkpointed receiptVerified : Bool) : Collector :=
  let collector := collector.reportFor provideroid (providerKey dboid provideroid)
    (qxStatMutateProvider resume receiptVerified)
  let collector := collector.reportFor principaloid (principalKey dboid principaloid)
    (qxStatMutatePrincipal resume checkpointed receiptVerified)
  qxStatReportRuntimeClassExecution collector dboid runtimeClass resume checkpointed receiptVerified

section Reported

variable {runtimeClass : Option CString} {resume checkpointed receiptVerified : Bool}

lemma reported_provider_ne_iff (htrack : collector.trackStats = true)
    (hkind : key.kind = .provider) :
    heldCounters (reported collector dboid provideroid principaloid runtimeClass resume
        checkpointed receiptVerified).slots key ≠ heldCounters collector.slots key ↔
      (oidIsValid provideroid = true ∧ Accepts collector.slots (providerKey dboid provideroid)) ∧
        key = providerKey dboid provideroid := by
  have hother : key.kind ≠ (principalKey dboid principaloid).kind := by simp [hkind, principalKey]
  rw [reported, heldCounters_reportRuntimeClass (by simp [hkind]), heldCounters_reportFor hother]
  exact reportFor_ne_iff rfl (qxStatMutateProvider_ne resume receiptVerified) htrack

lemma reported_principal_ne_iff (htrack : collector.trackStats = true)
    (hkind : key.kind = .principal) :
    heldCounters (reported collector dboid provideroid principaloid runtimeClass resume
        checkpointed receiptVerified).slots key ≠ heldCounters collector.slots key ↔
      (oidIsValid principaloid = true ∧
        Accepts (collector.reportFor provideroid (providerKey dboid provideroid)
          (qxStatMutateProvider resume receiptVerified)).slots (principalKey dboid principaloid)) ∧
        key = principalKey dboid principaloid := by
  have hother : key.kind ≠ (providerKey dboid provideroid).kind := by simp [hkind, providerKey]
  rw [reported, heldCounters_reportRuntimeClass (by simp [hkind]),
    ← @heldCounters_reportFor collector _ _ _ _ hother]
  exact reportFor_ne_iff rfl (qxStatMutatePrincipal_ne resume checkpointed receiptVerified)
    (trackStats_reportFor.trans htrack)

lemma reported_attributes_iff (htrack : collector.trackStats = true) {found foundPrincipal : Oid} :
    ((∀ key : StatKey, key.kind = .provider →
        (heldCounters (reported collector dboid found foundPrincipal runtimeClass resume
          checkpointed receiptVerified).slots key ≠ heldCounters collector.slots key ↔
            key = providerKey dboid provideroid)) ∧
      ∀ key : StatKey, key.kind = .principal →
        (heldCounters (reported collector dboid found foundPrincipal runtimeClass resume
          checkpointed receiptVerified).slots key ≠ heldCounters collector.slots key ↔
            key = principalKey dboid principaloid)) ↔
      RoomFor collector.slots [providerKey dboid provideroid, principalKey dboid principaloid] ∧
        (found = provideroid ∧ oidIsValid provideroid = true) ∧
          foundPrincipal = principaloid ∧ oidIsValid principaloid = true := by
  have hne : principalKey dboid principaloid ≠ providerKey dboid provideroid := fun h =>
    nomatch congrArg StatKey.kind h
  have hkinds : (providerKey dboid provideroid).kind = .provider ∧
      (principalKey dboid principaloid).kind = .principal := ⟨rfl, rfl⟩
  refine (and_congr (forall_changed_iff hkinds.1 fun key => reported_provider_ne_iff htrack)
    (forall_changed_iff hkinds.2 fun key => reported_principal_ne_iff htrack)).trans ?_
  constructor
  · rintro ⟨⟨⟨hvalid, haccepts⟩, hfound⟩, ⟨hvalidPrincipal, hacceptsPrincipal⟩, hfoundPrincipal⟩
    obtain rfl : found = provideroid := congrArg StatKey.entityOid hfound
    obtain rfl : foundPrincipal = principaloid := congrArg StatKey.entityOid hfoundPrincipal
    rw [slots_reportFor htrack hvalid] at hacceptsPrincipal
    exact ⟨(accepts_both_iff rfl hne _).mp ⟨haccepts, hacceptsPrincipal⟩, ⟨rfl, hvalid⟩, rfl,
      hvalidPrincipal⟩
  · rintro ⟨hroom, ⟨rfl, hvalid⟩, rfl, hvalidPrincipal⟩
    rw [slots_reportFor htrack hvalid]
    obtain ⟨haccepts, hacceptsPrincipal⟩ := (accepts_both_iff rfl hne collector.slots).mpr hroom
    exact ⟨⟨⟨hvalid, haccepts⟩, rfl⟩, ⟨hvalidPrincipal, hacceptsPrincipal⟩, rfl⟩

end Reported

lemma attributed_iff {detail provider principal : CString}
    (hprovider : qxObserveTraceDetailValue detail "provider".toList = some provider)
    (hprincipal : qxObserveTraceDetailValue detail "principal".toList = some principal)
    (phase : ToolPhase) :
    Attributed collector layout dboid (externalTraceName phase) detail provideroid principaloid ↔
      collector.trackStats = true ∧
        RoomFor collector.slots [providerKey dboid provideroid, principalKey dboid principaloid] ∧
          layout.LeadsToProvider provider provideroid ∧
            layout.LeadsToPrincipal principal principaloid := by
  have hexternal : isExternalTrace (externalTraceName phase) = true := by
    cases phase <;> decide +kernel
  unfold Attributed qxStatReportFromTrace
  cases htrack : collector.trackStats with
  | false =>
    simp only [Bool.not_false, if_true, Except.ok.injEq, exists_eq_left', Bool.false_eq_true,
      false_and, iff_false, not_and]
    intro hnone
    exact absurd rfl ((hnone (providerKey dboid provideroid) rfl).mpr rfl)
  | true =>
    simp only [Bool.not_true, Bool.false_eq_true, if_false, hexternal, if_true, true_and,
      reportExecution, hprovider, hprincipal, bind_eq_ok_iff, pure_eq_ok_iff,
      SchemaLayout.LeadsToProvider, SchemaLayout.LeadsToPrincipal, SchemaLayout.leads_iff]
    constructor
    · rintro ⟨after, ⟨found, hfound, foundPrincipal, hfoundPrincipal, rfl⟩, hchanged⟩
      obtain ⟨hroom, ⟨rfl, hvalid⟩, rfl, hvalidPrincipal⟩ :=
        (reported_attributes_iff htrack).mp hchanged
      exact ⟨hroom, ⟨hfound, hvalid⟩, hfoundPrincipal, hvalidPrincipal⟩
    · rintro ⟨hroom, ⟨hfound, hvalid⟩, hfoundPrincipal, hvalidPrincipal⟩
      refine ⟨_, ⟨provideroid, hfound, principaloid, hfoundPrincipal, rfl⟩, ?_⟩
      exact (reported_attributes_iff htrack).mpr ⟨hroom, ⟨rfl, hvalid⟩, rfl, hvalidPrincipal⟩

end Report

/-- An execution is counted for the provider and the principal of its contract, and for no others,
exactly if statistics are tracked, there is room for both, and the names that the trace shows lead
to them in the schema `public`. -/
theorem execution_attributed_iff {call : ContractCall} {leases : Slots BackendLease}
    {result : QxExternalToolResult} {record : ExecutionRecord} {built : PolicyCatalog}
    {tool : ToolRow} (hcontract : call.contract = toolContract built tool)
    (hexecuted : (call.qxExecuteToolContract leases).outcome = .ok result)
    (hrecord : recordExecution call.phase result = some record) (collector : Collector)
    (layout : SchemaLayout) :
    let provideroid := (qxCatalogFillToolInfo built tool).provideroid
    Attributed collector layout call.dboid (externalTraceName call.phase) record.traceDetail
        provideroid tool.principaloid ↔
      collector.trackStats = true ∧
        RoomFor collector.slots
          [providerKey call.dboid provideroid, principalKey call.dboid tool.principaloid] ∧
        layout.LeadsToProvider (call.shown "provider") provideroid ∧
        layout.LeadsToPrincipal (call.shown "principal") tool.principaloid := by
  obtain ⟨hprovider, hprincipal⟩ := ContractCall.shown_read
    (ContractCall.namesAll_of_toolContract hcontract) hexecuted hrecord
  exact attributed_iff hprovider hprincipal call.phase

/-! ## Two schemas with the same names -/

def schemaEvents (schema : Oid) : List PolicyEvent :=
  opsCommands.map fun command =>
    ⟨{ opsSession with searchPath := [schema], creationNamespace := schema }, .counting, command⟩

def opsTwice : PolicyCatalog :=
  (schemaEvents 2200 ++ schemaEvents 3000).foldl PolicyCatalog.next (.initial [])

/-- The tool of schema 3000, whose principal and provider are the second ones of their names. -/
def schemaTool : ToolRow :=
  ⟨2, "search".toList, 3000, 10, 2, true, 4, 2, some "search".toList, some "restricted".toList, none,
    none, none, some "ops".toList, none⟩

def searchResponse : CString :=
  renderLines '=' '\n'
    [ ("TOOL".toList, "search".toList), ("PRINCIPAL".toList, "ops".toList),
      ("PRINCIPAL_RUNTIME".toList, "host".toList), ("PROVIDER".toList, "local".toList),
      ("PROVIDER_KIND".toList, "loopback".toList), ("PROFILE".toList, "restricted".toList),
      ("ENV".toList, "minimal".toList), ("WORKDIR".toList, "pg_qx_runtime".toList),
      ("TIMEOUT_MS".toList, "2000".toList), ("PROCESS_LIMIT".toList, "1".toList),
      ("RECEIPT_SCHEMA".toList, "qx.receipt.v1".toList),
      ("RECEIPT_ALG".toList, "hmac-sha256".toList),
      ("RECEIPT_NONCE".toList, "submit:search:ops".toList),
      ("ATTESTATION".toList, "optional".toList), ("RECEIPT_SIG".toList, "00".toList) ]

def schemaCall : ContractCall :=
  demoCall (toolContract opsTwice schemaTool) searchResponse

lemma schemaTool_created :
    schemaTool ∈ opsTwice.tools ∧ (qxCatalogFillToolInfo opsTwice schemaTool).provideroid = 2 := by
  decide +kernel

lemma schemaCall_recorded :
    ∃ result record, (schemaCall.qxExecuteToolContract []).outcome = .ok result ∧
      recordExecution .submit result = some record := by
  have hrecord : ((schemaCall.qxExecuteToolContract []).outcome.toOption.bind
      (recordExecution .submit)).isSome = true := by
    decide +kernel
  obtain ⟨record, hrecord⟩ := Option.isSome_iff_exists.mp hrecord
  obtain ⟨result, hresult, hrecord⟩ := Option.bind_eq_some_iff.mp hrecord
  refine ⟨result, record, ?_, hrecord⟩
  cases houtcome : (schemaCall.qxExecuteToolContract []).outcome with
  | error error =>
    rw [houtcome] at hresult
    cases hresult
  | ok executed =>
    rw [houtcome] at hresult
    rw [Option.some.inj hresult]

lemma schemaCall_shown :
    schemaCall.shown "provider" = "local".toList ∧ schemaCall.shown "principal" = "ops".toList := by
  decide +kernel

/-- Where `public` is schema 3000, the execution is counted for its own provider and principal. -/
theorem public_execution_attributed :
    ∃ result record, (schemaCall.qxExecuteToolContract []).outcome = .ok result ∧
      recordExecution .submit result = some record ∧
      Attributed ⟨true, [none, none]⟩ ⟨opsTwice, some 3000⟩ 5 (externalTraceName .submit)
        record.traceDetail (qxCatalogFillToolInfo opsTwice schemaTool).provideroid 2 := by
  obtain ⟨result, record, hexecuted, hrecord⟩ := schemaCall_recorded
  refine ⟨result, record, hexecuted, hrecord, ?_⟩
  apply (execution_attributed_iff (rfl : schemaCall.contract = _) hexecuted hrecord _ _).mpr
  rw [schemaCall_shown.1, schemaCall_shown.2, schemaTool_created.2]
  refine ⟨rfl, by decide +kernel, ⟨by decide, by decide, 3000, rfl, by decide +kernel⟩,
    ⟨by decide, by decide, 3000, rfl, by decide +kernel⟩⟩

/-- Where `public` is schema 2200, the execution is counted for the provider and the principal of
the same names there, and not for its own ones. -/
theorem other_schema_misattributed :
    schemaTool ∈ opsTwice.tools ∧ (qxCatalogFillToolInfo opsTwice schemaTool).provideroid = 2 ∧
    ∃ result record, (schemaCall.qxExecuteToolContract []).outcome = .ok result ∧
      recordExecution .submit result = some record ∧
      Attributed ⟨true, [none, none]⟩ ⟨opsTwice, some 2200⟩ 5 (externalTraceName .submit)
        record.traceDetail 1 1 ∧
      ¬ Attributed ⟨true, [none, none]⟩ ⟨opsTwice, some 2200⟩ 5 (externalTraceName .submit)
        record.traceDetail 2 2 := by
  obtain ⟨result, record, hexecuted, hrecord⟩ := schemaCall_recorded
  obtain ⟨hprovider, hprincipal⟩ := ContractCall.shown_read
    (ContractCall.namesAll_of_toolContract (rfl : schemaCall.contract = _)) hexecuted hrecord
  rw [schemaCall_shown.1] at hprovider
  rw [schemaCall_shown.2] at hprincipal
  have hfound : (opsTwice.lookupProviderByName 2200 "local".toList).map ProviderRow.oid = some 1 ∧
      (opsTwice.lookupPrincipalByName 2200 "ops".toList).map PrincipalRow.oid = some 1 := by
    decide +kernel
  refine ⟨schemaTool_created.1, schemaTool_created.2, result, record, hexecuted, hrecord, ?_, ?_⟩
  · apply (attributed_iff hprovider hprincipal .submit).mpr
    exact ⟨rfl, by decide +kernel, ⟨by decide, by decide, 2200, rfl, hfound.1⟩,
      ⟨by decide, by decide, 2200, rfl, hfound.2⟩⟩
  · intro hattributed
    obtain ⟨-, -, ⟨-, -, namespaceoid, hpublic, hlookup⟩, -⟩ :=
      (attributed_iff hprovider hprincipal .submit).mp hattributed
    cases hpublic
    cases hfound.1.symm.trans hlookup

end QhapaqXian
