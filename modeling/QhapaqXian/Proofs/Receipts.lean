import Mathlib.Logic.Equiv.Basic
import QhapaqXian.Library.Checks
import QhapaqXian.Proofs.Numbers
import QhapaqXian.ToolExecution

/-!
# What a receipt binds

`qx_validate_external_result` accepts a response when its fields are the expected ones and its
signature verifies for the payload.
-/

namespace QhapaqXian

open Library

/-! ## Reading a response -/

/-- A line of the response that is read as it was written. -/
structure CleanResponseLine (line : CString × CString) : Prop where
  key : '=' ∉ line.1 ∧ '\n' ∉ line.1
  value : ∀ c ∈ line.2, isLineBreak c = false
  fits : (renderField '=' line).length < 8191

lemma responseAssignments_renderLines {lines : List (CString × CString)}
    (hclean : ∀ line ∈ lines, CleanResponseLine line) :
    responseAssignments none (readLines '\n' 8191 [] (renderLines '=' '\n' lines)) = lines := by
  induction lines with
  | nil => rfl
  | cons line lines ih =>
    obtain ⟨hline, hlines⟩ := List.forall_mem_cons.mp hclean
    have hbreak : '\n' ∉ renderField '=' line := by
      intro h
      rcases List.mem_append.mp h with h | h
      · exact hline.key.2 h
      · rcases List.mem_cons.mp h with h | h
        · exact absurd h (by decide)
        · exact absurd (hline.value _ h) (by decide)
    have hread : readLines '\n' 8191 [] (renderLines '=' '\n' (line :: lines)) =
        (renderField '=' line ++ ['\n']) ::
          readLines '\n' 8191 [] (renderLines '=' '\n' lines) := by
      rw [renderLines, List.flatMap_cons, ← renderLines, renderLine, List.append_assoc,
        List.singleton_append, readLines_append,
        readLines_of_fits hbreak (by simpa using hline.fits)]
      rfl
    have hsplit : splitAssignment '=' (renderField '=' line ++ ['\n']) =
        some (line.1, line.2 ++ ['\n']) := by
      rw [renderField, List.append_assoc, List.cons_append]
      exact splitAssignment_renderField hline.key.1 (line.2 ++ ['\n'])
    have hvalue : (line.2 ++ ['\n']).takeWhile (fun c => !isLineBreak c) = line.2 := by
      rw [List.takeWhile_append_of_pos (by simpa using hline.value)]
      simp [isLineBreak]
    rw [hread, responseAssignments, hsplit]
    dsimp only
    rw [hvalue, if_neg (by simp), ih hlines]

namespace ResponseKey

lemma ofName?_name (key : ResponseKey) : ofName? key.name = some key := by
  cases key <;> decide

lemma name_clean (key : ResponseKey) : '=' ∉ key.name ∧ '\n' ∉ key.name ∧ key.name.length < 20 := by
  cases key <;> decide

end ResponseKey

/-- A value without line breaks that fits into the buffer behind any of the keys. -/
def CleanResponseValue (value : CString) : Prop :=
  (∀ c ∈ value, isLineBreak c = false) ∧ value.length < 8000

instance (value : CString) : Decidable (CleanResponseValue value) :=
  inferInstanceAs (Decidable (_ ∧ _))

def responseText (lines : List (ResponseKey × CString)) : CString :=
  renderLines '=' '\n' (lines.map fun line => (line.1.name, line.2))

def assignedResult (lines : List (ResponseKey × CString)) : Except QxError QxExternalToolResult :=
  lines.foldlM (fun result line => result.assign line.1 line.2) QxExternalToolResult.initial

lemma parseExternalResult_responseText {lines : List (ResponseKey × CString)}
    (hvalue : ∀ line ∈ lines, CleanResponseValue line.2) :
    parseExternalResult (responseText lines) =
      (assignedResult lines).map QxExternalToolResult.withDefaultDetail := by
  have hclean : ∀ line ∈ lines.map (fun line => (line.1.name, line.2)), CleanResponseLine line := by
    rw [List.forall_mem_map]
    intro line hline
    obtain ⟨heq, hbreak, hshort⟩ := line.1.name_clean
    refine ⟨⟨heq, hbreak⟩, (hvalue line hline).1, ?_⟩
    have hlong := (hvalue line hline).2
    simp only [renderField, List.length_append, List.length_cons]
    omega
  have hnamed : (lines.map fun line => (line.1.name, line.2)).foldlM
        QxExternalToolResult.assignNamed .initial = assignedResult lines := by
    rw [List.foldlM_map, assignedResult]
    simp only [QxExternalToolResult.assignNamed, ResponseKey.ofName?_name]
  rw [parseExternalResult, responseText, responseAssignments_renderLines hclean, hnamed]
  exact bind_pure_comp _ _

/-! ## The checks -/

/-- A value that is expected has been returned. -/
def Returned (expected found : Option CString) : Prop :=
  ∀ value, expected = some value → found = some value

/-- The fields of a response are the expected ones. -/
structure ResponseMatches (expected : ExpectedResult) (result : QxExternalToolResult) : Prop where
  tool : Returned expected.tool result.toolName
  principal : Returned expected.principal result.principalName
  principalRuntime : Returned expected.principalRuntime result.principalRuntime
  provider : Returned expected.provider result.providerName
  providerKind : Returned expected.providerKind result.providerKind
  profile : result.profileName = some expected.profile.name
  environmentMode : result.environmentMode = some "minimal".toList
  workdir : result.workdirName = some "pg_qx_runtime".toList
  timeout : result.timeoutMs = expected.profile.timeoutMs
  processLimit : result.processLimit = expected.profile.processLimit
  path : result.pathPresent = false
  receiptSchema : Returned expected.receiptSchema result.receiptSchema
  receiptAlg : Returned expected.receiptAlg result.receiptAlg
  receiptNonce : Returned expected.receiptNonce result.receiptNonce
  attestation : result.attestationMode =
    some (qxExpectedAttestationMode expected.providerKind expected.requireAttestation)

lemma returned_some_iff {value : CString} {found : Option CString} :
    Returned (some value) found ↔ found = some value := by
  simp [Returned]

lemma checkReturned_eq_ok_iff {errmsg noun : String} {expected found : Option CString} :
    checkReturned errmsg noun expected found = .ok () ↔ Returned expected found := by
  cases expected with
  | none => simp [checkReturned, Returned]
  | some value =>
    rw [returned_some_iff, checkReturned, ereportDetail, require_eq_ok_iff]
    exact and_iff_left rfl

section Accepted

variable {scheme : SignatureScheme} {expected : ExpectedResult} {receiptKey : CString}
  {result : QxExternalToolResult}

lemma receiptSignatureOf_eq_ok_iff {signature : CString} :
    receiptSignatureOf result = .ok signature ↔ result.receiptSignature = some signature := by
  unfold receiptSignatureOf
  cases result.receiptSignature with
  | none => simp [ereportDetail]
  | some found => simp

lemma checkExternalResult_eq_ok_iff {signature : CString} :
    checkExternalResult expected result = .ok signature ↔
      ResponseMatches expected result ∧ result.receiptSignature = some signature := by
  simp only [checkExternalResult, checkEnvironmentMode, checkTimeout, checkProcessLimit, checkPath,
    ereport, ereportDetail, bind_eq_ok_iff, exists_unit_iff, checkReturned_eq_ok_iff,
    returned_some_iff, require_eq_ok_iff, raise_last_eq_ok_iff, receiptSignatureOf_eq_ok_iff,
    and_true, Bool.not_eq_true]
  constructor
  · rintro ⟨h1, h2, h3, h4, h5, h6, h7, h8, h9, h10, h11, h12, h13, h14, h15, hsignature⟩
    exact ⟨⟨h1, h2, h3, h4, h5, h6, h7, h8, h9, h10, h11, h12, h13, h14, h15⟩, hsignature⟩
  · rintro ⟨h, hsignature⟩
    exact ⟨h.tool, h.principal, h.principalRuntime, h.provider, h.providerKind, h.profile,
      h.environmentMode, h.workdir, h.timeout, h.processLimit, h.path, h.receiptSchema,
      h.receiptAlg, h.receiptNonce, h.attestation, hsignature⟩

lemma qxValidateExternalResult_eq_ok_iff :
    qxValidateExternalResult scheme expected receiptKey result = .ok () ↔
      ResponseMatches expected result ∧ ∃ signature, result.receiptSignature = some signature ∧
        verifyReceipt scheme expected.receiptAlg receiptKey (qxReceiptPayload expected result)
          signature = .ok () := by
  simp only [qxValidateExternalResult, bind_eq_ok_iff, checkExternalResult_eq_ok_iff, and_assoc,
    exists_and_left]

lemma exists_rejection (h : ¬ ResponseMatches expected result) :
    ∃ error, qxValidateExternalResult scheme expected receiptKey result = .error error := by
  cases hvalid : qxValidateExternalResult scheme expected receiptKey result with
  | error error => exact ⟨error, rfl⟩
  | ok _ => exact absurd (qxValidateExternalResult_eq_ok_iff.mp hvalid).1 h

lemma checkExternalResult_isOk_iff :
    (∃ signature, checkExternalResult expected result = .ok signature) ↔
      ResponseMatches expected result ∧ result.receiptSignature.isSome := by
  simp only [checkExternalResult_eq_ok_iff, exists_and_left, Option.isSome_iff_exists]

end Accepted

/-! ## A tool and its responses -/

def receiptContract : CString :=
  renderFields '=' ';'
    [ ("tool".toList, "extract".toList), ("handler".toList, "extract".toList),
      ("tool_sandbox".toList, "builtin".toList), ("principal".toList, "ops".toList),
      ("principal_sandbox".toList, "builtin".toList), ("principal_runtime".toList, "host".toList),
      ("provider".toList, "local".toList), ("provider_oid".toList, "7".toList),
      ("provider_kind".toList, "loopback".toList),
      ("provider_endpoint".toList, "local://runner".toList),
      ("provider_attestation".toList, "optional".toList),
      ("receipt_schema".toList, "qx.receipt.v1".toList),
      ("receipt_alg".toList, "hmac-sha256".toList) ]

def receiptExpected : ExpectedResult :=
  qxExpectedResult receiptContract "submit".toList 1 ⟨"builtin".toList, 3000, 262144, 2⟩

def receiptLines (sandbox : CString) (tokens cost : Int) (detail signature : CString) :
    List (ResponseKey × CString) :=
  [ (.status, "ok".toList), (.tool, "extract".toList), (.principal, "ops".toList),
    (.principalRuntime, "host".toList), (.provider, "local".toList),
    (.providerKind, "loopback".toList), (.sandbox, sandbox), (.profile, "builtin".toList),
    (.env, "minimal".toList), (.workdir, "pg_qx_runtime".toList), (.timeoutMs, "3000".toList),
    (.processLimit, "2".toList), (.pathPresent, "false".toList),
    (.receiptSchema, "qx.receipt.v1".toList), (.receiptAlg, "hmac-sha256".toList),
    (.receiptNonce, "submit:extract:ops".toList), (.receiptSig, signature),
    (.attestation, "optional".toList), (.tokens, formatSigned tokens), (.cost, formatSigned cost),
    (.detail, detail) ]

def receiptResponse (sandbox : CString) (tokens cost : Int) (detail signature : CString) :
    QxExternalToolResult where
  tokenCharge := tokens
  costCharge := cost
  timeoutMs := 3000
  processLimit := 2
  pathPresent := false
  detail := some detail
  toolName := some "extract".toList
  principalName := some "ops".toList
  principalRuntime := some "host".toList
  providerName := some "local".toList
  providerKind := some "loopback".toList
  sandboxName := some sandbox
  profileName := some "builtin".toList
  environmentMode := some "minimal".toList
  workdirName := some "pg_qx_runtime".toList
  receiptSchema := some "qx.receipt.v1".toList
  receiptAlg := some "hmac-sha256".toList
  receiptNonce := some "submit:extract:ops".toList
  receiptSignature := some signature
  attestationMode := some "optional".toList
  containerId := none
  vmId := none

section Fixture

variable {sandbox detail signature : CString} {tokens cost : Int}

lemma assignedResult_receiptLines (htokens : InInt32 tokens) (hcost : InInt32 cost) :
    assignedResult (receiptLines sandbox tokens cost detail signature) =
      .ok (receiptResponse sandbox tokens cost detail signature) := by
  have htimeout : pgStrtoint32 "3000".toList = .ok 3000 := by decide +kernel
  have hlimit : pgStrtoint32 "2".toList = .ok 2 := by decide +kernel
  have hpath : ("false".toList == "true".toList) = false := by decide
  simp only [assignedResult, receiptLines, List.foldlM_cons, List.foldlM_nil,
    QxExternalToolResult.assign, pgStrtoint32_formatSigned htokens, pgStrtoint32_formatSigned hcost,
    htimeout, hlimit, hpath, if_true]
  rfl

lemma parseExternalResult_receiptLines (htokens : InInt32 tokens) (hcost : InInt32 cost)
    (hclean : ∀ value ∈ [sandbox, formatSigned tokens, formatSigned cost, detail, signature],
      CleanResponseValue value) :
    parseExternalResult (responseText (receiptLines sandbox tokens cost detail signature)) =
      .ok (receiptResponse sandbox tokens cost detail signature) := by
  have hlines : ∀ line ∈ receiptLines sandbox tokens cost detail signature,
      CleanResponseValue line.2 := by
    simp only [List.forall_mem_cons] at hclean
    obtain ⟨hsandbox, htokens, hcost, hdetail, hsignature, -⟩ := hclean
    simp only [receiptLines, List.forall_mem_cons, hsandbox, htokens, hcost, hdetail, hsignature]
    decide +kernel
  rw [parseExternalResult_responseText hlines, assignedResult_receiptLines htokens hcost]
  rfl

lemma receiptExpected_eq : receiptExpected =
    { profile := ⟨"builtin".toList, 3000, 262144, 2⟩
      phase := some "submit".toList
      taskoid := 1
      tool := some "extract".toList
      principal := some "ops".toList
      principalRuntime := some "host".toList
      provider := some "local".toList
      providerKind := some "loopback".toList
      providerEndpoint := some "local://runner".toList
      receiptSchema := some "qx.receipt.v1".toList
      receiptAlg := some "hmac-sha256".toList
      receiptNonce := some "submit:extract:ops".toList
      requireAttestation := false } := by
  decide +kernel

lemma receiptResponse_matches :
    ResponseMatches receiptExpected (receiptResponse sandbox tokens cost detail signature) := by
  rw [receiptExpected_eq]
  refine ⟨?_, ?_, ?_, ?_, ?_, rfl, rfl, rfl, rfl, rfl, rfl, ?_, ?_, ?_, rfl⟩
  all_goals exact returned_some_iff.mpr rfl

lemma receiptExpected_hmac : receiptExpected.receiptAlg ≠ some "ed25519".toList := by
  rw [receiptExpected_eq]
  decide

end Fixture

/-! ## What a rejection tells -/

section Rejected

variable {scheme : SignatureScheme} {expected : ExpectedResult} {receiptKey receiptKey' : CString}
  {result : QxExternalToolResult} {signature : CString} {error error' : QxError}

lemma append_text_append_left_inj {before between after : String} {s t found : CString}
    (h : before ++ text s ++ between ++ text found ++ after =
      before ++ text t ++ between ++ text found ++ after) : s = t := by
  have hchars := congrArg String.toList h
  simp only [text, String.toList_append, String.toList_ofList, List.append_assoc] at hchars
  exact List.append_cancel_right (List.append_cancel_left hchars)

lemma invalidSignatureDetail_left_inj {hmac hmac' found : CString} :
    invalidSignatureDetail hmac found = invalidSignatureDetail hmac' found ↔ hmac = hmac' :=
  ⟨append_text_append_left_inj, fun h => by rw [h]⟩

lemma qxValidateExternalResult_of_hmac (hhmac : expected.receiptAlg ≠ some "ed25519".toList)
    (hchecked : checkExternalResult expected result = .ok signature) :
    qxValidateExternalResult scheme expected receiptKey result =
      if signature = scheme.hmacHex receiptKey (qxReceiptPayload expected result) then .ok ()
      else .error ⟨.externalRoutineException,
        "principal response returned an invalid receipt signature",
        invalidSignatureDetail (scheme.hmacHex receiptKey (qxReceiptPayload expected result))
          signature⟩ := by
  rw [qxValidateExternalResult, hchecked]
  exact if_neg hhmac

/-- Two keys under which a response is rejected give the same error exactly when the response fails
a check in front of the signature, or its payload has the same HMAC under both. -/
theorem rejections_agree_iff (hhmac : expected.receiptAlg ≠ some "ed25519".toList)
    (h : qxValidateExternalResult scheme expected receiptKey result = .error error)
    (h' : qxValidateExternalResult scheme expected receiptKey' result = .error error') :
    error = error' ↔
      ¬ (ResponseMatches expected result ∧ result.receiptSignature.isSome) ∨
        scheme.hmacHex receiptKey (qxReceiptPayload expected result) =
          scheme.hmacHex receiptKey' (qxReceiptPayload expected result) := by
  rw [← checkExternalResult_isOk_iff]
  cases hchecked : checkExternalResult expected result with
  | error early =>
    rw [qxValidateExternalResult, hchecked] at h h'
    cases h
    cases h'
    simp
  | ok signature =>
    rw [qxValidateExternalResult_of_hmac hhmac hchecked] at h h'
    split_ifs at h h'
    cases h
    cases h'
    simp [invalidSignatureDetail_left_inj]

end Rejected

def keyedScheme : SignatureScheme :=
  ⟨fun receiptKey payload => receiptKey ++ payload, none⟩

/-- A response of another tool is rejected in the same way under every key. -/
theorem foreign_tool_rejected_alike :
    ∃ error,
      qxValidateExternalResult keyedScheme receiptExpected "alpha".toList
        { receiptResponse "builtin".toList 6 5 "done".toList "00".toList with
          toolName := some "other".toList } = .error error ∧
      qxValidateExternalResult keyedScheme receiptExpected "beta".toList
        { receiptResponse "builtin".toList 6 5 "done".toList "00".toList with
          toolName := some "other".toList } = .error error := by
  have htool : ¬ ResponseMatches receiptExpected
      { receiptResponse "builtin".toList 6 5 "done".toList "00".toList with
        toolName := some "other".toList } := by
    rw [receiptExpected_eq]
    exact fun h => absurd (h.tool _ rfl) (by decide)
  obtain ⟨error, h⟩ : ∃ error, qxValidateExternalResult keyedScheme receiptExpected "alpha".toList _ =
    .error error := exists_rejection htool
  obtain ⟨error', h'⟩ : ∃ error, qxValidateExternalResult keyedScheme receiptExpected "beta".toList _ =
    .error error := exists_rejection htool
  have hsame := (rejections_agree_iff receiptExpected_hmac h h').mpr
    (.inl fun hboth => htool hboth.1)
  exact ⟨error, h, by rw [hsame, h']⟩

/-- A response with the expected fields and a wrong signature: the error depends on the key, and
says which signature would have been accepted. -/
theorem rejection_shows_signature :
    ∃ error error',
      qxValidateExternalResult keyedScheme receiptExpected "alpha".toList
        (receiptResponse "builtin".toList 6 5 "done".toList "00".toList) = .error error ∧
      qxValidateExternalResult keyedScheme receiptExpected "beta".toList
        (receiptResponse "builtin".toList 6 5 "done".toList "00".toList) = .error error' ∧
      error ≠ error' ∧
      ∃ signature, error.errdetail = invalidSignatureDetail signature "00".toList ∧
        qxValidateExternalResult keyedScheme receiptExpected "alpha".toList
          (receiptResponse "builtin".toList 6 5 "done".toList signature) = .ok () := by
  have hchecked (signature : CString) : checkExternalResult receiptExpected
      (receiptResponse "builtin".toList 6 5 "done".toList signature) = .ok signature :=
    checkExternalResult_eq_ok_iff.mpr ⟨receiptResponse_matches, rfl⟩
  have hvalidate (receiptKey signature : CString) := @qxValidateExternalResult_of_hmac keyedScheme
    receiptExpected receiptKey _ signature receiptExpected_hmac (hchecked signature)
  refine ⟨_, _, (hvalidate "alpha".toList "00".toList).trans (if_neg (by decide +kernel)),
    (hvalidate "beta".toList "00".toList).trans (if_neg (by decide +kernel)), ?_, _, rfl,
    -- the signature is not part of the payload
    (hvalidate _ _).trans (if_pos rfl)⟩
  intro h
  have hsame := invalidSignatureDetail_left_inj.mp (congrArg QxError.errdetail h)
  exact absurd (List.append_cancel_right hsame) (by decide)

/-! ## What an accepted receipt binds -/

/-- Under the key, no signature verifies for two payloads. -/
def SignatureScheme.Binds (scheme : SignatureScheme) (alg : Option CString)
    (receiptKey : CString) : Prop :=
  ∀ payload payload' signature, verifyReceipt scheme alg receiptKey payload signature = .ok () →
    verifyReceipt scheme alg receiptKey payload' signature = .ok () → payload = payload'

/-- A text that can be a signature: 64 bytes in hexadecimal digits for Ed25519, any text else. -/
def SignatureForm (alg : Option CString) (signature : CString) : Prop :=
  alg = some "ed25519".toList → ((hexDecode signature).filter (·.length == 64)).isSome

/-- Two responses report the same. -/
structure SameReport (first second : QxExternalToolResult) : Prop where
  tokens : first.tokenCharge = second.tokenCharge
  cost : first.costCharge = second.costCharge
  sandbox : first.sandboxName = second.sandboxName
  detail : first.detail = second.detail

/-- Two responses have the expected fields, one signature and one payload. -/
structure OneReceipt (expected : ExpectedResult) (first second : QxExternalToolResult) : Prop where
  matchesFirst : ResponseMatches expected first
  matchesSecond : ResponseMatches expected second
  signature : ∃ signature, SignatureForm expected.receiptAlg signature ∧
    first.receiptSignature = some signature ∧ second.receiptSignature = some signature
  payload : qxReceiptPayload expected first = qxReceiptPayload expected second

section Binding

variable {scheme : SignatureScheme} {alg : Option CString}
  {receiptKey payload signature : CString}

lemma verifyReceipt_ed25519_eq_ok_iff {verify : CString → CString → List Nat → Except QxError Bool}
    (hscheme : scheme.ed25519 = some verify) :
    verifyReceipt scheme (some "ed25519".toList) receiptKey payload signature = .ok () ↔
      qxVerifyEd25519ReceiptSignature verify receiptKey payload signature = .ok true := by
  rw [verifyReceipt, if_pos rfl, hscheme]
  dsimp only
  cases qxVerifyEd25519ReceiptSignature verify receiptKey payload signature with
  | error e => simp [bind, Except.bind]
  | ok verified => cases verified <;> simp [bind, Except.bind, ereport, pure, Except.pure]

lemma verifyReceipt_hmac_eq_ok_iff (halg : alg ≠ some "ed25519".toList) :
    verifyReceipt scheme alg receiptKey payload signature = .ok () ↔
      signature = scheme.hmacHex receiptKey payload := by
  rw [verifyReceipt, if_neg halg, ereportDetail, require_eq_ok_iff]
  exact and_iff_left rfl

lemma signatureForm_of_verified
    (h : verifyReceipt scheme alg receiptKey payload signature = .ok ()) :
    SignatureForm alg signature := by
  rintro rfl
  cases hscheme : scheme.ed25519 with
  | none => simp [verifyReceipt, hscheme, ereport] at h
  | some verify =>
    rw [verifyReceipt_ed25519_eq_ok_iff hscheme, qxVerifyEd25519ReceiptSignature] at h
    split_ifs at h
    · cases h
    · cases hform : (hexDecode signature).filter (·.length == 64) with
      | none => simp [hform] at h
      | some bytes => rfl

/-- A scheme that binds and signs one payload with one signature: the HMAC exchanges the two texts,
and no other payload has an Ed25519 signature. -/
def swapScheme (payload signature : CString) : SignatureScheme where
  hmacHex _ other := Equiv.swap payload signature other
  ed25519 := some fun _ other _ => .ok (other == payload)

lemma swapScheme_binds : (swapScheme payload signature).Binds alg receiptKey := by
  intro first second found hfirst hsecond
  by_cases halg : alg = some "ed25519".toList
  · have hsigned (other : CString)
        (h : verifyReceipt (swapScheme payload signature) alg receiptKey other found = .ok ()) :
        other = payload := by
      rw [halg, verifyReceipt_ed25519_eq_ok_iff rfl, qxVerifyEd25519ReceiptSignature] at h
      split_ifs at h
      · cases h
      · cases hform : (hexDecode found).filter (·.length == 64) with
        | none => simp [hform] at h
        | some bytes => simpa [hform] using h
    rw [hsigned first hfirst, hsigned second hsecond]
  · rw [verifyReceipt_hmac_eq_ok_iff halg] at hfirst hsecond
    exact (Equiv.swap payload signature).injective (hfirst.symm.trans hsecond)

lemma swapScheme_verifies (hform : SignatureForm alg signature) (hkey : receiptKey ≠ []) :
    verifyReceipt (swapScheme payload signature) alg receiptKey payload signature = .ok () := by
  by_cases halg : alg = some "ed25519".toList
  · obtain ⟨bytes, hbytes⟩ := Option.isSome_iff_exists.mp (hform halg)
    rw [halg, verifyReceipt_ed25519_eq_ok_iff rfl, qxVerifyEd25519ReceiptSignature, if_neg hkey,
      hbytes]
    simp
  · rw [verifyReceipt_hmac_eq_ok_iff halg]
    exact (Equiv.swap_apply_left payload signature).symm

end Binding

def expectedFields (expected : ExpectedResult) : List (CString × CString) :=
  (receiptFields expected .initial).take 8

def checkedFields (expected : ExpectedResult) (schema alg nonce : CString) :
    List (CString × CString) :=
  [ ("profile".toList, expected.profile.name), ("env".toList, "minimal".toList),
    ("workdir".toList, "pg_qx_runtime".toList),
    ("timeout_ms".toList, formatSigned expected.profile.timeoutMs),
    ("process_limit".toList, formatSigned expected.profile.processLimit),
    ("path_present".toList, "false".toList), ("receipt_schema".toList, schema),
    ("receipt_alg".toList, alg), ("receipt_nonce".toList, nonce),
    ("attestation".toList,
      qxExpectedAttestationMode expected.providerKind expected.requireAttestation) ]

section Payload

variable {expected : ExpectedResult} {result first second : QxExternalToolResult}
  {schema alg nonce : CString}

lemma receiptFields_of_matches (h : ResponseMatches expected result)
    (hschema : expected.receiptSchema = some schema) (halg : expected.receiptAlg = some alg)
    (hnonce : expected.receiptNonce = some nonce) :
    receiptFields expected result = expectedFields expected ++
      ("sandbox".toList, result.sandboxName.getD "builtin".toList) ::
        (checkedFields expected schema alg nonce ++
          [ ("tokens".toList, formatSigned result.tokenCharge),
            ("cost".toList, formatSigned result.costCharge),
            ("detail".toList, result.detail.getD "<none>".toList) ]) := by
  simp only [receiptFields, h.profile, h.environmentMode, h.workdir, h.timeout, h.processLimit,
    h.path, h.receiptSchema _ hschema, h.receiptAlg _ halg, h.receiptNonce _ hnonce, h.attestation,
    Option.getD_some]
  rfl

/-- The payload determines what is reported when the sandbox names have no separator in them. -/
theorem OneReceipt.sameReport_of_plain {sandbox sandbox' detail detail' : CString}
    (h : OneReceipt expected first second)
    (hschema : expected.receiptSchema = some schema) (halg : expected.receiptAlg = some alg)
    (hnonce : expected.receiptNonce = some nonce)
    (hfirst : first.sandboxName = some sandbox) (hplain : ';' ∉ sandbox)
    (hsecond : second.sandboxName = some sandbox') (hplain' : ';' ∉ sandbox')
    (hdetail : first.detail = some detail) (hdetail' : second.detail = some detail') :
    SameReport first second := by
  have hpayload := h.payload
  have hnumber (n : Int) : ';' ∉ formatSigned n := notMem_formatSigned (by decide) (by decide)
  rw [qxReceiptPayload, qxReceiptPayload,
    receiptFields_of_matches h.matchesFirst hschema halg hnonce,
    receiptFields_of_matches h.matchesSecond hschema halg hnonce, hfirst, hsecond, hdetail,
    hdetail'] at hpayload
  obtain ⟨hsandbox, hrest⟩ := renderFields_value_inj hplain hplain'
    (renderFields_append_cancel _ hpayload)
  obtain ⟨htokens, hrest⟩ := renderFields_value_inj (hnumber _) (hnumber _)
    (renderFields_append_cancel (checkedFields expected schema alg nonce) hrest)
  obtain ⟨hcost, hrest⟩ := renderFields_value_inj (hnumber _) (hnumber _) hrest
  have hlast : detail = detail' := renderFields_last_inj hrest
  exact ⟨formatSigned_injective htokens, formatSigned_injective hcost,
    by rw [hfirst, hsecond, hsandbox], by rw [hdetail, hdetail', hlast]⟩

end Payload

def receiptMiddle (tokens cost : Int) : CString :=
  ';' :: renderFields '=' ';'
    [ ("profile".toList, "builtin".toList), ("env".toList, "minimal".toList),
      ("workdir".toList, "pg_qx_runtime".toList), ("timeout_ms".toList, "3000".toList),
      ("process_limit".toList, "2".toList), ("path_present".toList, "false".toList),
      ("receipt_schema".toList, "qx.receipt.v1".toList),
      ("receipt_alg".toList, "hmac-sha256".toList),
      ("receipt_nonce".toList, "submit:extract:ops".toList),
      ("attestation".toList, "optional".toList), ("tokens".toList, formatSigned tokens),
      ("cost".toList, formatSigned cost), ("detail".toList, []) ]

/-- Its detail looks like the end of the payload of another response. -/
def hiddenReport : QxExternalToolResult :=
  receiptResponse "x".toList 1 1 ("y".toList ++ receiptMiddle 5 6 ++ "z".toList) "00".toList

/-- Its sandbox name looks like the fields of another response. -/
def shownReport : QxExternalToolResult :=
  receiptResponse ("x".toList ++ receiptMiddle 1 1 ++ "y".toList) 5 6 "z".toList "00".toList

end QhapaqXian
