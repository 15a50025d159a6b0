import QhapaqXian.Proofs.Receipts
import QhapaqXian.Proofs.ToolRequests
import QhapaqXian.RunnerResponse

/-!
# The response of the runner and the engine

The request of a contract for a host principal, what the runner makes of it, and whether the engine
accepts its response.
-/

namespace QhapaqXian

open Library

variable {scheme : SignatureScheme}

/-! ## Texts that fit a buffer -/

def NoBreak (value : CString) : Prop :=
  ∀ c ∈ value, isLineBreak c = false

instance (value : CString) : Decidable (NoBreak value) :=
  inferInstanceAs (Decidable (∀ c ∈ value, _))

/-- A text without line breaks that fits a buffer of the size. -/
def Fits (size : Nat) (value : CString) : Prop :=
  NoBreak value ∧ value.length < size

instance (size : Nat) (value : CString) : Decidable (Fits size value) :=
  inferInstanceAs (Decidable (_ ∧ _))

section Fits

variable {value value' : CString} {size : Nat}

lemma NoBreak.append (h : NoBreak value) (h' : NoBreak value') : NoBreak (value ++ value') :=
  List.forall_mem_append.mpr ⟨h, h'⟩

lemma NoBreak.of_notMem (hnewline : '\n' ∉ value) (hreturn : '\r' ∉ value) : NoBreak value := by
  intro c hc
  by_contra hbreak
  simp only [isLineBreak, Bool.not_eq_false, Bool.or_eq_true, beq_iff_eq] at hbreak
  rcases hbreak with rfl | rfl
  · exact hreturn hc
  · exact hnewline hc

lemma noBreak_formatUnsigned (n : Nat) : NoBreak (formatUnsigned n) :=
  .of_notMem (notMem_formatUnsigned (by decide)) (notMem_formatUnsigned (by decide))

lemma noBreak_formatSigned (n : Int) : NoBreak (formatSigned n) := by
  cases n with
  | ofNat n => exact noBreak_formatUnsigned n
  | negSucc n => exact List.forall_mem_cons.mpr ⟨by decide, noBreak_formatUnsigned (n + 1)⟩

lemma Fits.mono {larger : Nat} (h : Fits size value) (hle : size ≤ larger) : Fits larger value :=
  ⟨h.1, h.2.trans_le hle⟩

lemma Fits.nonEmptyOr (h : Fits size value) (h' : Fits size value') :
    Fits size (nonEmptyOr (some value) value') := by
  cases value with
  | nil => exact h'
  | cons c value => exact h

lemma length_intoBuffer_lt (h : 0 < size) (value : CString) :
    (intoBuffer size value).length < size := by
  have hle := List.length_take_le (size - 1) value
  unfold intoBuffer
  omega

lemma fits_formatUnsigned {n : Nat} (h : n < 10 ^ 20) : Fits 21 (formatUnsigned n) :=
  ⟨noBreak_formatUnsigned n, Nat.lt_succ_of_le (length_formatUnsigned_le (by decide) h)⟩

lemma length_formatSigned_le {n : Int} (h : InInt32 n) : (formatSigned n).length ≤ 11 := by
  unfold InInt32 at h
  cases n with
  | ofNat n =>
    have hle : (formatUnsigned n).length ≤ 10 :=
      length_formatUnsigned_le (by decide) (by simp only [Int.ofNat_eq_natCast] at h; omega)
    exact hle.trans (by decide)
  | negSucc n =>
    have hle : (formatUnsigned (n + 1)).length ≤ 10 :=
      length_formatUnsigned_le (by decide) (by omega)
    exact Nat.succ_le_succ hle

lemma fits_formatSigned {n : Int} (h : InInt32 n) : Fits 12 (formatSigned n) :=
  ⟨noBreak_formatSigned n, Nat.lt_succ_of_le (length_formatSigned_le h)⟩

lemma fits_qxBoolLiteral (flag : Bool) : Fits 6 (qxBoolLiteral flag) := by
  revert flag
  decide

lemma length_renderFields_le_of_bounds {eq sep : Char} {fields : List (CString × CString)}
    {bounds : List Nat} (hkeys : ∀ field ∈ fields, field.1.length ≤ 20)
    (hbounds : List.Forall₂ (fun field bound => field.2.length ≤ bound) fields bounds) :
    (renderFields eq sep fields).length ≤ 22 * bounds.length + bounds.sum := by
  induction hbounds with
  | nil => exact Nat.zero_le _
  | @cons field bound fields bounds hbound hbounds ih =>
    obtain ⟨hkey, hkeys⟩ := List.forall_mem_cons.mp hkeys
    have hrest := ih hkeys
    cases fields with
    | nil =>
      simp only [renderFields, renderField, List.length_append, List.length_cons, List.sum_cons]
      omega
    | cons next fields =>
      rw [renderFields_cons_append]
      simp only [List.length_append, List.length_cons, List.sum_cons] at hrest ⊢
      omega

end Fits

lemma qxBoolLiteral_beq_true (flag : Bool) : (qxBoolLiteral flag == "true".toList) = flag := by
  revert flag
  decide

lemma assignNamed_key (request : RunnerRequest) (key : RequestKey) (value : CString) :
    request.assignNamed (key.name, value) = request.assign key value := by
  rw [RunnerRequest.assignNamed, key.ofName?_name]

/-! ## What the engine reads of the response -/

def hostLines (runner : RunnerRequest) (workdir detail signature : CString) :
    List (ResponseKey × CString) :=
  [ (.status, "ok".toList), (.tool, runner.tool), (.principal, runner.principal),
    (.principalRuntime, nonEmptyOr (some runner.principalRuntime) "host".toList),
    (.provider, runner.provider),
    (.providerKind, nonEmptyOr (some runner.providerKind) "loopback".toList),
    (.sandbox, runner.sandbox), (.profile, nonEmptyOr (some runner.profile) runner.sandbox),
    (.env, runner.environmentMode), (.workdir, workdir),
    (.timeoutMs, formatSigned runner.timeoutMs),
    (.processLimit, formatSigned runner.processLimit),
    (.pathPresent, qxBoolLiteral runner.pathPresent), (.receiptSchema, runner.receiptSchemaOr),
    (.receiptAlg, runner.receiptAlgOr),
    (.receiptNonce, nonEmptyOr (some runner.receiptNonce) "missing".toList),
    (.receiptSig, signature), (.attestation, runner.attestationMode),
    (.tokens, formatSigned runner.tokens), (.cost, formatSigned runner.cost),
    (.detail, detail) ]

def hostResult (runner : RunnerRequest) (workdir detail signature : CString) :
    QxExternalToolResult where
  tokenCharge := runner.tokens
  costCharge := runner.cost
  timeoutMs := runner.timeoutMs
  processLimit := runner.processLimit
  pathPresent := runner.pathPresent
  detail := some detail
  toolName := some runner.tool
  principalName := some runner.principal
  principalRuntime := some (nonEmptyOr (some runner.principalRuntime) "host".toList)
  providerName := some runner.provider
  providerKind := some (nonEmptyOr (some runner.providerKind) "loopback".toList)
  sandboxName := some runner.sandbox
  profileName := some (nonEmptyOr (some runner.profile) runner.sandbox)
  environmentMode := some runner.environmentMode
  workdirName := some workdir
  receiptSchema := some runner.receiptSchemaOr
  receiptAlg := some runner.receiptAlgOr
  receiptNonce := some (nonEmptyOr (some runner.receiptNonce) "missing".toList)
  receiptSignature := some signature
  attestationMode := some runner.attestationMode
  containerId := none
  vmId := none

section Response

variable {runner : RunnerRequest} {workdir detail signature : CString}

lemma wrapInt32_inInt32 (n : Int) : InInt32 (wrapInt32 n) := by
  unfold InInt32 wrapInt32
  omega

lemma tokens_inInt32 (runner : RunnerRequest) : InInt32 runner.tokens :=
  wrapInt32_inInt32 _

lemma cost_inInt32 (runner : RunnerRequest) : InInt32 runner.cost := by
  have htokens := tokens_inInt32 runner
  have hpart : -(2 ^ 31) ≤ runner.tokens.tdiv 5 ∧ runner.tokens.tdiv 5 ≤ 2 ^ 30 := by
    unfold InInt32 at htokens
    rcases Int.le_total 0 runner.tokens with hpos | hneg
    · rw [Int.tdiv_eq_ediv_of_nonneg hpos]
      omega
    · have hopposite : runner.tokens.tdiv 5 = -(-runner.tokens / 5) := by
        rw [← Int.tdiv_eq_ediv_of_nonneg (by omega), Int.neg_tdiv, Int.neg_neg]
      omega
  unfold RunnerRequest.cost InInt32
  split_ifs <;> omega

lemma responseLines_host :
    renderLines '=' '\n' (runner.responseLines .host workdir detail signature) =
      responseText (hostLines runner workdir detail signature) := by
  have hlines : runner.responseLines .host workdir detail signature =
      (hostLines runner workdir detail signature).map fun line => (line.1.name, line.2) := rfl
  rw [hlines, responseText]

lemma parseExternalResult_hostLines (htimeout : InInt32 runner.timeoutMs)
    (hlimit : InInt32 runner.processLimit)
    (hclean : ∀ line ∈ hostLines runner workdir detail signature, CleanResponseValue line.2) :
    parseExternalResult (responseText (hostLines runner workdir detail signature)) =
      .ok (hostResult runner workdir detail signature) := by
  rw [parseExternalResult_responseText hclean]
  simp only [assignedResult, hostLines, List.foldlM_cons, List.foldlM_nil,
    QxExternalToolResult.assign, pgStrtoint32_formatSigned htimeout,
    pgStrtoint32_formatSigned hlimit, pgStrtoint32_formatSigned (tokens_inInt32 runner),
    pgStrtoint32_formatSigned (cost_inInt32 runner), qxBoolLiteral_beq_true, if_true]
  rfl

end Response

/-! ## An execution on the host -/

/-- A request of a host principal whose texts are clean and, apart from the nonce, fit the buffers
of the runner. -/
structure ToolRequest.FitsRunner (request : ToolRequest) : Prop where
  phase : Fits 32 request.phase
  tool : Fits 128 request.tool
  handler : Fits 256 request.handler
  sandbox : Fits 64 request.sandbox
  principal : Fits 128 request.principal
  principalRuntime : request.principalRuntime = "host".toList
  provider : Fits 128 request.provider
  providerKind : Fits 64 request.providerKind
  providerEndpoint : Fits 256 request.providerEndpoint
  receiptSchema : Fits 64 request.receiptSchema
  receiptAlg : Fits 64 request.receiptAlg
  receiptNonce : Fits 300 request.receiptNonce
  hmac : request.receiptAlg ≠ "ed25519".toList
  receiptKey : Fits 256 request.receiptKey
  receiptSigner : request.receiptSigner = []
  taskoid : request.taskoid < 2 ^ 32
  goalLength : request.goalLength < 2 ^ 64

/-- The request as the runner has it: only the nonce may have been cut. -/
def hostRunner (request : ToolRequest) (profile : QxSandboxProfile) : RunnerRequest :=
  { RunnerRequest.initial with
    phase := request.phase
    taskOid := request.taskoid
    goalLength := strtol (formatUnsigned request.goalLength)
    inputPresent := request.inputPresent
    tool := request.tool
    handler := request.handler
    sandbox := request.sandbox
    principal := request.principal
    principalRuntime := request.principalRuntime
    provider := request.provider
    providerKind := request.providerKind
    providerEndpoint := request.providerEndpoint
    requireAttestation := request.requireAttestation
    receiptSchema := request.receiptSchema
    receiptAlg := request.receiptAlg
    receiptNonce := intoBuffer 256 request.receiptNonce
    receiptKey := request.receiptKey
    receiptSigner := request.receiptSigner
    profile := profile.name
    timeoutMs := profile.timeoutMs
    memoryKb := strtol (formatSigned profile.memoryKb)
    processLimit := profile.processLimit }

/-- The profile reaches the runner through its environment. -/
structure QxSandboxProfile.Plain (profile : QxSandboxProfile) : Prop where
  name : profile.name ≠ [] ∧ Fits 64 profile.name
  timeout : strtol (formatSigned profile.timeoutMs) = profile.timeoutMs ∧ InInt32 profile.timeoutMs
  processLimit : strtol (formatSigned profile.processLimit) = profile.processLimit ∧
    InInt32 profile.processLimit

section Host

variable {request : ToolRequest} (h : request.FitsRunner) {profile : QxSandboxProfile}
  (hprofile : profile.Plain)
include h

lemma runtime_fits : Fits 64 request.principalRuntime := by
  rw [h.principalRuntime]
  decide

lemma signer_fits : Fits 260 request.receiptSigner := by
  rw [h.receiptSigner]
  decide

lemma lines_clean : ∀ line ∈ request.lines, CleanLine line := by
  have hclean {key value : CString} {n : Nat} (hvalue : Fits n value) (hn : n ≤ 400) :
      CleanLine (key, value) := hvalue.mono hn
  simp only [ToolRequest.lines, List.forall_mem_cons]
  exact ⟨hclean h.phase (by decide),
    hclean (fits_formatUnsigned (h.taskoid.trans (by decide))) (by decide),
    hclean (fits_formatUnsigned (h.goalLength.trans (by decide))) (by decide),
    hclean (fits_qxBoolLiteral _) (by decide), hclean h.tool (by decide),
    hclean h.handler (by decide), hclean h.sandbox (by decide), hclean h.principal (by decide),
    hclean (runtime_fits h) (by decide), hclean h.provider (by decide),
    hclean h.providerKind (by decide), hclean h.providerEndpoint (by decide),
    hclean (fits_qxBoolLiteral _) (by decide), hclean h.receiptSchema (by decide),
    hclean h.receiptAlg (by decide), hclean h.receiptNonce (by decide),
    hclean h.receiptKey (by decide), hclean (signer_fits h) (by decide), List.forall_mem_nil _⟩

lemma parseRequestLines_eq : parseRequestLines (request.payload ⟨none, none, []⟩) =
    { hostRunner request ⟨[], 0, 0, 0⟩ with memoryKb := 0 } := by
  have hlines : (request.lines ++ BackendLines.lines ⟨none, none, []⟩) = request.lines := by
    rw [show BackendLines.lines ⟨none, none, []⟩ = [] from rfl, List.append_nil]
  have hnamed : request.lines =
      [ (RequestKey.phase.name, request.phase),
        (RequestKey.taskOid.name, formatUnsigned request.taskoid),
        (RequestKey.goalLength.name, formatUnsigned request.goalLength),
        (RequestKey.inputPresent.name, qxBoolLiteral request.inputPresent),
        (RequestKey.tool.name, request.tool), (RequestKey.handler.name, request.handler),
        (RequestKey.sandbox.name, request.sandbox),
        (RequestKey.principal.name, request.principal),
        (RequestKey.principalRuntime.name, request.principalRuntime),
        (RequestKey.provider.name, request.provider),
        (RequestKey.providerKind.name, request.providerKind),
        (RequestKey.providerEndpoint.name, request.providerEndpoint),
        (RequestKey.requireAttestation.name, qxBoolLiteral request.requireAttestation),
        (RequestKey.receiptSchema.name, request.receiptSchema),
        (RequestKey.receiptAlg.name, request.receiptAlg),
        (RequestKey.receiptNonce.name, request.receiptNonce),
        (RequestKey.receiptKey.name, request.receiptKey),
        (RequestKey.receiptSigner.name, request.receiptSigner) ] := rfl
  have htask : strtol (formatUnsigned request.taskoid) = request.taskoid :=
    strtol_formatUnsigned (h.taskoid.trans (by decide))
  rw [parseRequestLines, assignments_payload_of_clean request _ (by rw [hlines]; exact lines_clean h),
    hlines]
  simp only [hnamed, List.foldl_cons, List.foldl_nil, assignNamed_key, RunnerRequest.assign,
    qxBoolLiteral_beq_true, intoBuffer_of_lt h.phase.2, intoBuffer_of_lt h.tool.2,
    intoBuffer_of_lt h.handler.2, intoBuffer_of_lt h.sandbox.2, intoBuffer_of_lt h.principal.2,
    intoBuffer_of_lt h.provider.2, intoBuffer_of_lt h.providerKind.2,
    intoBuffer_of_lt h.providerEndpoint.2, intoBuffer_of_lt h.receiptSchema.2,
    intoBuffer_of_lt h.receiptAlg.2, intoBuffer_of_lt h.receiptKey.2,
    intoBuffer_of_lt (runtime_fits h).2, intoBuffer_of_lt (signer_fits h).2, htask]
  rfl

lemma hostRunner_summary : Fits 400 (hostRunner request profile).summary := by
  have hwords : NoBreak "tool ".toList ∧ NoBreak " via ".toList ∧ NoBreak " for ".toList ∧
      NoBreak " phase on task ".toList := by decide
  obtain ⟨hword, hvia, hfor, hon⟩ := hwords
  have hphase : Fits 32 (nonEmptyOr (some request.phase) "submit".toList) :=
    h.phase.nonEmptyOr (by decide)
  have htask := fits_formatUnsigned (h.taskoid.trans (by decide))
  have hlength {a b c d e f g k : CString} (ha : a.length ≤ 20) (hb : b.length < 128)
      (hc : c.length ≤ 20) (hd : d.length < 128) (he : e.length ≤ 20) (hf : f.length < 32)
      (hg : g.length ≤ 20) (hk : k.length < 21) :
      (a ++ b ++ c ++ d ++ e ++ f ++ g ++ k).length < 400 := by
    simp only [List.length_append]
    omega
  refine ⟨((((((hword.append h.tool.1).append hvia).append h.principal.1).append hfor).append
    hphase.1).append hon).append htask.1, ?_⟩
  exact hlength (by decide) h.tool.2 (by decide) h.principal.2 (by decide) hphase.2 (by decide)
    htask.2

include hprofile

lemma parseRequestContents_eq (files : Files) (runtimeDir : CString) :
    parseRequestContents files (qxLauncherEnviron profile runtimeDir [])
      (request.payload ⟨none, none, []⟩) = hostRunner request profile := by
  have hread : parseRequestContents files (qxLauncherEnviron profile runtimeDir [])
      (request.payload ⟨none, none, []⟩) =
        { hostRunner request profile with
          profile := intoBuffer 64 profile.name
          timeoutMs := strtol (formatSigned profile.timeoutMs)
          processLimit := strtol (formatSigned profile.processLimit) } := by
    rw [parseRequestContents, parseRequestLines_eq h]
    rfl
  rw [hread, intoBuffer_of_lt hprofile.name.2.2, hprofile.timeout.1, hprofile.processLimit.1]
  rfl

lemma receiptPayload_eq :
    (hostRunner request profile).receiptPayload "pg_qx_runtime".toList
        (hostRunner request profile).summary =
      renderFields '=' ';' ((hostRunner request profile).receiptFields "pg_qx_runtime".toList
        (hostRunner request profile).summary) := by
  have hkeys : ∀ field ∈ (hostRunner request profile).receiptFields "pg_qx_runtime".toList
      (hostRunner request profile).summary, field.1.length ≤ 20 := by
    simp only [RunnerRequest.receiptFields, List.forall_mem_cons]
    decide +kernel
  have hnumber {n : Int} (hn : InInt32 n) : (formatSigned n).length ≤ 11 :=
    length_formatSigned_le hn
  have hor {value fallback : CString} {n : Nat} (hvalue : Fits n value)
      (hfallback : Fits n fallback) : (nonEmptyOr (some value) fallback).length ≤ n :=
    (hvalue.nonEmptyOr hfallback).2.le
  have hnonce : (nonEmptyOr (some (intoBuffer 256 request.receiptNonce)) "missing".toList).length ≤
      256 := by
    rw [nonEmptyOr_some]
    split_ifs
    · decide
    · exact (length_intoBuffer_lt (by decide) _).le
  have hminimal : "minimal".toList.length ≤ 20 ∧ "false".toList.length ≤ 20 := by decide
  have hattestation : (hostRunner request profile).attestationMode.length ≤ 40 := by
    unfold RunnerRequest.attestationMode
    split_ifs <;> decide
  have hbounds : List.Forall₂ (fun (field : CString × CString) bound => field.2.length ≤ bound)
      ((hostRunner request profile).receiptFields "pg_qx_runtime".toList
        (hostRunner request profile).summary)
      [32, 20, 128, 128, 64, 128, 64, 256, 64, 64, 20, 260, 11, 11, 20, 64, 64, 256, 40, 11, 11,
        400] :=
    .cons (hor h.phase (by decide)) <|
    .cons (Nat.le_of_lt_succ (fits_formatUnsigned (h.taskoid.trans (by decide))).2) <|
    .cons (hor h.tool (by decide)) <| .cons (hor h.principal (by decide)) <|
    .cons (hor (runtime_fits h) (by decide)) <| .cons (hor h.provider (by decide)) <|
    .cons (hor h.providerKind (by decide)) <| .cons (hor h.providerEndpoint (by decide)) <|
    .cons (hor h.sandbox (by decide)) <| .cons (hor hprofile.name.2 h.sandbox) <|
    .cons hminimal.1 <| .cons (by decide) <| .cons (hnumber hprofile.timeout.2) <|
    .cons (hnumber hprofile.processLimit.2) <| .cons hminimal.2 <|
    .cons (hor h.receiptSchema (by decide)) <| .cons (hor h.receiptAlg (by decide)) <|
    .cons hnonce <| .cons hattestation <| .cons (hnumber (tokens_inInt32 _)) <|
    .cons (hnumber (cost_inInt32 _)) <| .cons (hostRunner_summary h).2.le .nil
  exact intoBuffer_of_lt ((length_renderFields_le_of_bounds hkeys hbounds).trans_lt (by decide))

lemma hostRunner_read {signature : CString} (hsignature : CleanResponseValue signature) :
    parseExternalResult (responseText (hostLines (hostRunner request profile)
        "pg_qx_runtime".toList (hostRunner request profile).summary signature)) =
      .ok (hostResult (hostRunner request profile) "pg_qx_runtime".toList
        (hostRunner request profile).summary signature) := by
  refine parseExternalResult_hostLines hprofile.timeout.2 hprofile.processLimit.2 ?_
  have hclean {value : CString} {n : Nat} (hvalue : Fits n value) (hn : n ≤ 8000) :
      CleanResponseValue value := hvalue.mono hn
  have hnumber {n : Int} (hn : InInt32 n) : CleanResponseValue (formatSigned n) :=
    (fits_formatSigned hn).mono (by decide)
  have hnonce : Fits 256 (intoBuffer 256 request.receiptNonce) :=
    ⟨fun c hc => h.receiptNonce.1 c (List.mem_of_mem_take hc), length_intoBuffer_lt (by decide) _⟩
  have hattestation : CleanResponseValue (hostRunner request profile).attestationMode := by
    unfold RunnerRequest.attestationMode
    split_ifs <;> decide
  have henv : CleanResponseValue (hostRunner request profile).environmentMode := by
    show CleanResponseValue "minimal".toList
    decide
  have hpath : CleanResponseValue (qxBoolLiteral (hostRunner request profile).pathPresent) :=
    (fits_qxBoolLiteral _).mono (by decide)
  simp only [hostLines, List.forall_mem_cons]
  exact ⟨by decide, hclean h.tool (by decide), hclean h.principal (by decide),
    hclean ((runtime_fits h).nonEmptyOr (by decide)) (by decide), hclean h.provider (by decide),
    hclean (h.providerKind.nonEmptyOr (by decide)) (by decide), hclean h.sandbox (by decide),
    hclean (hprofile.name.2.nonEmptyOr h.sandbox) (by decide), henv, by decide,
    hnumber hprofile.timeout.2, hnumber hprofile.processLimit.2, hpath,
    hclean (h.receiptSchema.nonEmptyOr (by decide)) (by decide),
    hclean (h.receiptAlg.nonEmptyOr (by decide)) (by decide),
    hclean (hnonce.nonEmptyOr (by decide)) (by decide), hsignature, hattestation,
    hnumber (tokens_inInt32 _), hnumber (cost_inInt32 _),
    hclean (hostRunner_summary h) (by decide), List.forall_mem_nil _⟩

end Host

lemma nonEmptyOr_getD_eq_iff {value : Option CString} {fallback : CString} (hne : fallback ≠ []) :
    nonEmptyOr (some (value.getD fallback)) fallback = value.getD fallback ↔ value ≠ some [] := by
  rcases value with _ | _ | ⟨c, value⟩
  · simp [nonEmptyOr_some]
  · simp [nonEmptyOr_some, hne]
  · simp [nonEmptyOr_some]

lemma nonEmptyOr_getD_nil_eq_iff {value : Option CString} {fallback : CString}
    (hne : fallback ≠ []) :
    nonEmptyOr (some (value.getD [])) fallback = value.getD fallback ↔ value ≠ some [] := by
  rcases value with _ | _ | ⟨c, value⟩
  · simp [nonEmptyOr_some]
  · simp [nonEmptyOr_some, hne]
  · simp [nonEmptyOr_some]

lemma returned_getD (value : Option CString) (fallback : CString) :
    Returned value (some (value.getD fallback)) := by
  rintro found rfl
  rfl

/-- Codes are written as 64 hexadecimal digits. -/
def SignatureScheme.Hex (scheme : SignatureScheme) : Prop :=
  ∀ receiptKey payload, (scheme.hmacHex receiptKey payload).length = 64 ∧
    ∀ c ∈ scheme.hmacHex receiptKey payload, (hexDigitValue c).isSome

lemma SignatureScheme.Hex.clean (h : scheme.Hex) (receiptKey payload : CString) :
    CleanResponseValue (scheme.hmacHex receiptKey payload) := by
  obtain ⟨hlength, hdigits⟩ := h receiptKey payload
  refine ⟨NoBreak.of_notMem (fun hmem => ?_) (fun hmem => ?_), by omega⟩
  · exact absurd (hdigits _ hmem) (by decide)
  · exact absurd (hdigits _ hmem) (by decide)

def oneCode (payload : CString) : SignatureScheme where
  hmacHex _ other := if other = payload then List.replicate 64 '1' else List.replicate 64 '0'
  ed25519 := none

lemma oneCode_hex (payload : CString) : (oneCode payload).Hex := by
  intro receiptKey other
  unfold oneCode
  dsimp only
  split_ifs <;> decide

lemma oneCode_eq {payload other receiptKey : CString} (h : (oneCode payload).hmacHex receiptKey other
    = (oneCode payload).hmacHex receiptKey payload) : other = payload := by
  by_contra hne
  simp only [oneCode, if_neg hne, if_true] at h
  exact absurd h (by decide)

lemma isNullOrEmpty_eq_false_iff {value : Option CString} :
    isNullOrEmpty value = false ↔ value.getD [] ≠ [] := by
  rcases value with _ | _ | ⟨c, value⟩ <;> simp [isNullOrEmpty]

lemma ne_some_nil_of_getD {value : Option CString} (h : value.getD [] ≠ []) :
    value ≠ some [] := by
  rintro rfl
  exact h rfl

/-- The execution of a tool contract, and the program that its request is handed to. -/
structure ToolRun where
  host : ToolHost
  contract : CString
  phase : ToolPhase
  taskoid : Oid
  goal : Option CString
  inputPresent : Bool
  receiptKey : CString
  signerPath : CString
  profile : QxSandboxProfile
  runtimeDir : CString
  requestPath : CString
  runner : RunnerHost

namespace ToolRun

def value (run : ToolRun) (key : String) : Option CString :=
  qxContractValue (some run.contract) key.toList

def request (run : ToolRun) : ToolRequest :=
  qxToolRequest run.contract run.phase.name run.taskoid run.goal run.inputPresent run.receiptKey
    run.signerPath

def expected (run : ToolRun) : ExpectedResult :=
  qxExpectedResult run.contract run.phase.name run.taskoid run.profile

/-- The runner writes a response, and it is accepted. -/
def Accepted (run : ToolRun) (scheme : SignatureScheme)
    (ed25519 : CString → CString → Option CString) : Prop :=
  ∃ response result,
    runnerMain run.runner ⟨scheme.hmacHex, ed25519⟩ run.requestPath = some response ∧
    parseExternalResult response = .ok result ∧
    qxValidateExternalResult scheme run.expected run.receiptKey result = .ok ()

/-- The texts of the contract that reach the runner, with the sizes of its buffers. -/
def contractBuffers : List (String × Nat) :=
  [("tool", 128), ("handler", 256), ("tool_sandbox", 64), ("principal", 128), ("provider", 128),
    ("provider_kind", 64), ("provider_endpoint", 256), ("receipt_schema", 64), ("receipt_alg", 64)]

/-- A host principal with an HMAC provider, fields without line breaks that fit the buffers of the
runner, and the environment that the launcher sets. -/
structure OnHost (run : ToolRun) : Prop where
  runtime : qxPrincipalRuntime run.contract = "host".toList
  hmac : run.value "receipt_alg" ≠ some "ed25519".toList
  sandbox : ∃ sandbox, qxExecutionSandbox run.contract = .ok (sandbox, run.profile)
  fields : ∀ field ∈ contractBuffers, ∀ value, run.value field.1 = some value →
    NoBreak value ∧ value.length < field.2
  receiptKey : run.receiptKey ≠ [] ∧ NoBreak run.receiptKey ∧ run.receiptKey.length < 256
  taskoid : run.taskoid < 2 ^ 32
  goal : (run.goal.getD []).length < 2 ^ 64
  file : run.runner.files run.requestPath = some (qxRequestText run.host run.contract
    run.phase.name run.taskoid run.goal run.inputPresent run.receiptKey run.signerPath)
  environment : run.runner.getenv =
    qxRunnerEnviron run.host run.contract run.profile run.runtimeDir
  workdir : pathBasename run.runner.cwd = "pg_qx_runtime".toList ∧ run.runner.cwd.length < 260

/-- The fields that the runner takes for missing when they are empty are not empty, and the nonce
fits its buffer. -/
structure Agrees (run : ToolRun) : Prop where
  tool : isNullOrEmpty (run.value "tool") = false
  principal : isNullOrEmpty (run.value "principal") = false
  provider : run.value "provider" ≠ some []
  providerKind : run.value "provider_kind" ≠ some []
  providerEndpoint : run.value "provider_endpoint" ≠ some []
  receiptSchema : run.value "receipt_schema" ≠ some []
  receiptAlg : run.value "receipt_alg" ≠ some []
  receiptNonce : run.request.receiptNonce.length < 256

def runnerRequest (run : ToolRun) : RunnerRequest :=
  hostRunner run.request run.profile

def signedFields (run : ToolRun) : List (CString × CString) :=
  run.runnerRequest.receiptFields "pg_qx_runtime".toList run.runnerRequest.summary

def result (run : ToolRun) (signature : CString) : QxExternalToolResult :=
  hostResult run.runnerRequest "pg_qx_runtime".toList run.runnerRequest.summary signature

section Request

variable {run : ToolRun} (h : run.OnHost)
include h

lemma backendLines_eq : qxBackendLines run.host run.contract = ⟨none, none, []⟩ := by
  have hcontainer : qxContainerBackendIsSupportedRuntimeClass (some "host".toList) = false := by
    decide
  have hmicrovm : qxMicrovmBackendIsSupportedRuntimeClass (some "host".toList) = false := by
    decide
  have hbackend : qxExecutionBackend run.host run.contract = .host := by
    unfold qxExecutionBackend
    dsimp only
    rw [h.runtime, hcontainer, hmicrovm, Bool.and_false, Bool.and_false]
    rfl
  rw [qxBackendLines, hbackend]

lemma getD_fits (key : String) (size : Nat) (fallback : CString)
    (hfield : (key, size) ∈ contractBuffers)
    (hfallback : Fits size fallback) :
    Fits size ((run.value key).getD fallback) := by
  cases hvalue : run.value key with
  | none => exact hfallback
  | some value => exact h.fields _ hfield value hvalue

lemma sandbox_ne_nil : (run.value "tool_sandbox").getD "builtin".toList ≠ [] := by
  obtain ⟨sandbox, hsandbox⟩ := h.sandbox
  simp only [qxExecutionSandbox, bind_eq_ok_iff] at hsandbox
  obtain ⟨rank, hrank, -⟩ := hsandbox
  unfold value
  cases hvalue : qxContractValue (some run.contract) "tool_sandbox".toList with
  | none => decide
  | some name =>
    rintro rfl
    rw [hvalue] at hrank
    simp [qxSandboxRank, ereport] at hrank

lemma profile_plain : run.profile.Plain := by
  obtain ⟨sandbox, hsandbox⟩ := h.sandbox
  simp only [qxExecutionSandbox, ereport, bind_eq_ok_iff, raise_eq_ok_iff, pure_eq_ok_iff,
    Prod.mk.injEq] at hsandbox
  obtain ⟨-, -, -, -, -, sandbox, -, profile, hlookup, -, rfl⟩ := hsandbox
  unfold qxLookupSandboxProfile at hlookup
  split_ifs at hlookup with h1 h2 h3
  · rw [← Except.ok.inj hlookup, h1]
    exact ⟨by decide, by decide +kernel, by decide +kernel⟩
  · rw [← Except.ok.inj hlookup, h2]
    exact ⟨by decide, by decide +kernel, by decide +kernel⟩
  · rw [← Except.ok.inj hlookup, h3]
    exact ⟨by decide, by decide +kernel, by decide +kernel⟩
  · cases hlookup

lemma nonce_clean : Fits 300 run.request.receiptNonce ∧ run.request.receiptNonce ≠ [] := by
  have hphase : NoBreak run.phase.name ∧ run.phase.name.length ≤ 6 ∧ run.phase.name ≠ [] := by
    cases run.phase <;> decide
  obtain ⟨htool, htoolSize⟩ := getD_fits h "tool" 128 "tool".toList (by decide) (by decide)
  obtain ⟨hprincipal, hprincipalSize⟩ :=
    getD_fits h "principal" 128 "principal".toList (by decide) (by decide)
  have hcolon : NoBreak [':'] := by decide
  have hnonce : run.request.receiptNonce = run.phase.name ++ ([':'] ++
      ((run.value "tool").getD "tool".toList ++ ([':'] ++
        (run.value "principal").getD "principal".toList))) := rfl
  rw [hnonce]
  refine ⟨⟨hphase.1.append (hcolon.append (htool.append (hcolon.append hprincipal))), ?_⟩, ?_⟩
  · simp only [List.length_append, List.length_singleton]
    omega
  · exact List.append_ne_nil_of_left_ne_nil hphase.2.2 _

lemma request_receiptKey : run.request.receiptKey = run.receiptKey := by
  have hkey : run.request.receiptKey =
      if run.value "receipt_alg" == some "ed25519".toList then [] else run.receiptKey := rfl
  rw [hkey, beq_eq_false_iff_ne.mpr h.hmac]
  rfl

lemma request_fits : run.request.FitsRunner where
  phase := by
    show Fits 32 run.phase.name
    cases run.phase <;> decide
  tool := getD_fits h "tool" 128 [] (by decide) (by decide)
  handler := getD_fits h "handler" 256 [] (by decide) (by decide)
  sandbox := getD_fits h "tool_sandbox" 64 "builtin".toList (by decide) (by decide)
  principal := getD_fits h "principal" 128 [] (by decide) (by decide)
  principalRuntime := h.runtime
  provider := getD_fits h "provider" 128 [] (by decide) (by decide)
  providerKind := getD_fits h "provider_kind" 64 "loopback".toList (by decide) (by decide)
  providerEndpoint := getD_fits h "provider_endpoint" 256 "local://qhapaqxian-tool-runner".toList
    (by decide) (by decide)
  receiptSchema := getD_fits h "receipt_schema" 64 "qx.receipt.v1".toList (by decide) (by decide)
  receiptAlg := getD_fits h "receipt_alg" 64 "hmac-sha256".toList (by decide) (by decide)
  receiptNonce := (nonce_clean h).1
  hmac := by
    show (run.value "receipt_alg").getD "hmac-sha256".toList ≠ "ed25519".toList
    have halg := h.hmac
    cases hvalue : run.value "receipt_alg" with
    | none => decide
    | some alg => exact fun heq => halg (by rw [hvalue, ← heq, Option.getD_some])
  receiptKey := (request_receiptKey h).symm ▸ h.receiptKey.2
  receiptSigner := by
    have hsigner : run.request.receiptSigner =
        if run.value "receipt_alg" == some "ed25519".toList then run.signerPath else [] := rfl
    rw [hsigner, beq_eq_false_iff_ne.mpr h.hmac]
    rfl
  taskoid := h.taskoid
  goalLength := h.goal

lemma parseRequest_eq : parseRequest run.runner.files run.runner.getenv run.requestPath =
    if run.request.tool ≠ [] ∧ run.request.principal ≠ [] then some run.runnerRequest
    else none := by
  have hfile : run.runner.files run.requestPath =
      some (run.request.payload ⟨none, none, []⟩) := by
    rw [h.file, qxRequestText, backendLines_eq h]
    rfl
  have henv : run.runner.getenv = qxLauncherEnviron run.profile run.runtimeDir [] := by
    rw [h.environment, qxRunnerEnviron, backendLines_eq h]
  have hread : parseRequestContents run.runner.files run.runner.getenv
      (run.request.payload ⟨none, none, []⟩) = run.runnerRequest := by
    rw [henv, parseRequestContents_eq (request_fits h) (profile_plain h), runnerRequest]
  rw [parseRequest, hfile, Option.bind_some]
  dsimp only
  rw [hread]
  rfl

lemma runnerMain_eq (scheme : SignatureScheme) (ed25519 : CString → CString → Option CString) :
    runnerMain run.runner ⟨scheme.hmacHex, ed25519⟩ run.requestPath =
      if run.request.tool ≠ [] ∧ run.request.principal ≠ [] then
        some (responseText (hostLines run.runnerRequest "pg_qx_runtime".toList
          run.runnerRequest.summary
          (scheme.hmacHex run.receiptKey (renderFields '=' ';' run.signedFields))))
      else none := by
  have hfits := request_fits h
  have hruntime : run.runnerRequest.principalRuntime = "host".toList := hfits.principalRuntime
  have hlaunch : runnerLaunch run.runner.getenv run.runnerRequest = .host := by
    have hwords : "host".toList ≠ "microvm".toList ∧ "host".toList ≠ "container".toList := by
      decide
    rw [runnerLaunch, if_neg, if_neg]
    · exact fun hcontainer => hwords.2 (hruntime.symm.trans hcontainer.2)
    · exact fun hmicrovm => hwords.1 (hruntime.symm.trans hmicrovm.2)
  have hworkdir : pathBasename (runnerWorkdir run.runner.cwd) = "pg_qx_runtime".toList := by
    rw [runnerWorkdir, if_pos h.workdir.2, h.workdir.1]
  have hdetail : run.runnerRequest.detail .host = run.runnerRequest.summary :=
    intoBuffer_of_lt ((hostRunner_summary hfits).2.trans (by decide))
  have hpayload : run.runnerRequest.receiptPayload "pg_qx_runtime".toList
      run.runnerRequest.summary = renderFields '=' ';' run.signedFields :=
    receiptPayload_eq hfits (profile_plain h)
  have halg : run.runnerRequest.receiptAlgOr ≠ "ed25519".toList := by
    show nonEmptyOr (some run.request.receiptAlg) "hmac-sha256".toList ≠ "ed25519".toList
    rw [nonEmptyOr_some]
    split_ifs
    · decide
    · exact hfits.hmac
  have hkey : run.runnerRequest.receiptKey = run.receiptKey := request_receiptKey h
  have hsignature : run.runnerRequest.receiptSignature ⟨scheme.hmacHex, ed25519⟩
      (renderFields '=' ';' run.signedFields) =
        some (scheme.hmacHex run.receiptKey (renderFields '=' ';' run.signedFields)) := by
    rw [RunnerRequest.receiptSignature, if_neg halg, hkey, if_neg h.receiptKey.1]
  unfold runnerMain
  rw [parseRequest_eq h]
  split_ifs with hnamed
  · simp only [Option.bind_eq_bind, Option.bind_some, hlaunch, hworkdir, hdetail, hpayload,
      hsignature, true_or, guard_true]
    exact congrArg some responseLines_host
  · rfl

lemma responseMatches_iff (signature : CString) :
    ResponseMatches run.expected (run.result signature) ↔
      run.value "provider_kind" ≠ some [] ∧ run.value "receipt_schema" ≠ some [] ∧
        run.value "receipt_alg" ≠ some [] ∧ run.request.receiptNonce.length < 256 := by
  have hruntime : nonEmptyOr (some run.request.principalRuntime) "host".toList =
      qxPrincipalRuntime run.contract := by
    rw [(request_fits h).principalRuntime, h.runtime]
    rfl
  have hprofile : nonEmptyOr (some run.profile.name) run.request.sandbox = run.profile.name := by
    rw [nonEmptyOr_some, if_neg (profile_plain h).name.1]
  have hattestation : run.runnerRequest.attestationMode = qxExpectedAttestationMode
      run.expected.providerKind run.expected.requireAttestation := by
    have hkind : run.expected.providerKind = some run.runnerRequest.providerKind := rfl
    have hrequire : run.expected.requireAttestation = run.runnerRequest.requireAttestation := rfl
    simp only [RunnerRequest.attestationMode, qxExpectedAttestationMode, hkind, hrequire,
      Option.some.injEq]
  have hnonce : nonEmptyOr (some (intoBuffer 256 run.request.receiptNonce)) "missing".toList =
      run.request.receiptNonce ↔ run.request.receiptNonce.length < 256 := by
    obtain ⟨-, hne⟩ := nonce_clean h
    constructor
    · intro hsame
      rw [← hsame, nonEmptyOr_some]
      split_ifs
      · decide
      · exact length_intoBuffer_lt (by decide) _
    · intro hlt
      rw [intoBuffer_of_lt hlt, nonEmptyOr_some, if_neg hne]
  constructor
  · intro hmatches
    refine ⟨?_, ?_, ?_, ?_⟩
    · exact (nonEmptyOr_getD_eq_iff (by decide)).mp
        (Option.some.inj (returned_some_iff.mp hmatches.providerKind))
    · exact (nonEmptyOr_getD_eq_iff (by decide)).mp
        (Option.some.inj (returned_some_iff.mp hmatches.receiptSchema))
    · exact (nonEmptyOr_getD_eq_iff (by decide)).mp
        (Option.some.inj (returned_some_iff.mp hmatches.receiptAlg))
    · exact hnonce.mp (Option.some.inj (returned_some_iff.mp hmatches.receiptNonce))
  · rintro ⟨hkind, hschema, halg, hfits⟩
    exact
      { tool := returned_getD _ _
        principal := returned_getD _ _
        principalRuntime := returned_some_iff.mpr (congrArg some hruntime)
        provider := returned_getD _ _
        providerKind := returned_some_iff.mpr
          (congrArg some ((nonEmptyOr_getD_eq_iff (by decide)).mpr hkind))
        profile := congrArg some hprofile
        environmentMode := rfl
        workdir := rfl
        timeout := rfl
        processLimit := rfl
        path := rfl
        receiptSchema := returned_some_iff.mpr
          (congrArg some ((nonEmptyOr_getD_eq_iff (by decide)).mpr hschema))
        receiptAlg := returned_some_iff.mpr
          (congrArg some ((nonEmptyOr_getD_eq_iff (by decide)).mpr halg))
        receiptNonce := returned_some_iff.mpr (congrArg some (hnonce.mpr hfits))
        attestation := congrArg some hattestation }

lemma signedFields_split (htool : run.value "tool" ≠ some [])
    (hprincipal : run.value "principal" ≠ some [])
    (hkind : run.value "provider_kind" ≠ some []) (signature : CString) :
    ∃ front kind next rest,
      run.signedFields = front ++
        ("provider".toList,
          nonEmptyOr (some ((run.value "provider").getD [])) "<unknown>".toList) :: kind ::
        ("provider_endpoint".toList,
          nonEmptyOr (some ((run.value "provider_endpoint").getD
            "local://qhapaqxian-tool-runner".toList)) "local://qhapaqxian-tool-runner".toList) ::
        next :: rest ∧
      receiptFields run.expected (run.result signature) = front ++
        ("provider".toList, (run.value "provider").getD "<unknown>".toList) :: kind ::
        ("provider_endpoint".toList,
          (run.value "provider_endpoint").getD "local://qhapaqxian-tool-runner".toList) ::
        next :: rest := by
  refine ⟨(receiptFields run.expected (run.result signature)).take 5,
    ("provider_kind".toList, (run.value "provider_kind").getD "loopback".toList),
    ("sandbox".toList, (run.value "tool_sandbox").getD "builtin".toList),
    (receiptFields run.expected (run.result signature)).drop 9, ?_, rfl⟩
  have hfits := request_fits h
  have hphase : nonEmptyOr (some run.phase.name) "submit".toList = run.phase.name := by
    cases run.phase <;> rfl
  have hsandbox : nonEmptyOr (some ((run.value "tool_sandbox").getD "builtin".toList))
      "builtin".toList = (run.value "tool_sandbox").getD "builtin".toList := by
    rw [nonEmptyOr_some, if_neg (sandbox_ne_nil h)]
  have hruntime : nonEmptyOr (some run.request.principalRuntime) "host".toList =
      qxPrincipalRuntime run.contract := by
    rw [hfits.principalRuntime, h.runtime]
    rfl
  have hsigned : run.signedFields =
      [ ("phase".toList, nonEmptyOr (some run.phase.name) "submit".toList),
        ("task".toList, formatUnsigned run.taskoid),
        ("tool".toList, nonEmptyOr (some ((run.value "tool").getD [])) "<unknown>".toList),
        ("principal".toList,
          nonEmptyOr (some ((run.value "principal").getD [])) "<unknown>".toList),
        ("principal_runtime".toList,
          nonEmptyOr (some run.request.principalRuntime) "host".toList),
        ("provider".toList,
          nonEmptyOr (some ((run.value "provider").getD [])) "<unknown>".toList),
        ("provider_kind".toList, nonEmptyOr (some ((run.value "provider_kind").getD
          "loopback".toList)) "loopback".toList),
        ("provider_endpoint".toList, nonEmptyOr (some ((run.value "provider_endpoint").getD
          "local://qhapaqxian-tool-runner".toList)) "local://qhapaqxian-tool-runner".toList),
        ("sandbox".toList, nonEmptyOr (some ((run.value "tool_sandbox").getD "builtin".toList))
          "builtin".toList) ] ++
      (receiptFields run.expected (run.result signature)).drop 9 := by
    rfl
  rw [hsigned, hphase, hsandbox, hruntime, (nonEmptyOr_getD_nil_eq_iff (by decide)).mpr htool,
    (nonEmptyOr_getD_nil_eq_iff (by decide)).mpr hprincipal,
    (nonEmptyOr_getD_eq_iff (by decide)).mpr hkind]
  rfl

lemma signedFields_eq_iff (htool : run.value "tool" ≠ some [])
    (hprincipal : run.value "principal" ≠ some [])
    (hkind : run.value "provider_kind" ≠ some []) (signature : CString) :
    renderFields '=' ';' run.signedFields =
        qxReceiptPayload run.expected (run.result signature) ↔
      run.value "provider" ≠ some [] ∧ run.value "provider_endpoint" ≠ some [] := by
  obtain ⟨front, kind, next, rest, hsigned, hchecked⟩ := signedFields_split h htool hprincipal hkind
    signature
  rw [qxReceiptPayload, hsigned, hchecked]
  constructor
  · intro heq
    have hprovider : run.value "provider" ≠ some [] := by
      intro hempty
      rw [hempty] at heq
      have hvalue := (renderFields_value_inj (by decide) (by decide)
        (renderFields_append_cancel front heq)).1
      exact absurd hvalue (by decide)
    refine ⟨hprovider, fun hempty => ?_⟩
    rw [(nonEmptyOr_getD_nil_eq_iff (by decide)).mpr hprovider, hempty] at heq
    have hafter := renderFields_append_cancel [_, _] (renderFields_append_cancel front heq)
    exact absurd (renderFields_value_inj (by decide) (by decide) hafter).1 (by decide)
  · rintro ⟨hprovider, hendpoint⟩
    rw [(nonEmptyOr_getD_nil_eq_iff (by decide)).mpr hprovider,
      (nonEmptyOr_getD_eq_iff (by decide)).mpr hendpoint]

/-- The response is accepted when its fields are the expected ones and both programs sign the same
text, or two texts of one code. -/
lemma accepted_iff (hhex : scheme.Hex) (ed25519 : CString → CString → Option CString) :
    run.Accepted scheme ed25519 ↔
      (run.request.tool ≠ [] ∧ run.request.principal ≠ []) ∧
        ResponseMatches run.expected (run.result []) ∧
        scheme.hmacHex run.receiptKey (renderFields '=' ';' run.signedFields) =
          scheme.hmacHex run.receiptKey (qxReceiptPayload run.expected (run.result [])) := by
  set signature := scheme.hmacHex run.receiptKey (renderFields '=' ';' run.signedFields)
  have hread : parseExternalResult (responseText (hostLines run.runnerRequest
      "pg_qx_runtime".toList run.runnerRequest.summary signature)) =
        .ok (run.result signature) :=
    hostRunner_read (request_fits h) (profile_plain h) (hhex.clean _ _)
  have hmatches : ResponseMatches run.expected (run.result signature) ↔
      ResponseMatches run.expected (run.result []) :=
    (responseMatches_iff h signature).trans (responseMatches_iff h []).symm
  have hvalid : qxValidateExternalResult scheme run.expected run.receiptKey
      (run.result signature) = .ok () ↔ ResponseMatches run.expected (run.result []) ∧
        signature = scheme.hmacHex run.receiptKey
          (qxReceiptPayload run.expected (run.result [])) := by
    have halg : run.expected.receiptAlg ≠ some "ed25519".toList := fun halg =>
      (request_fits h).hmac (Option.some.inj halg)
    rw [qxValidateExternalResult_eq_ok_iff, hmatches]
    constructor
    · rintro ⟨hfields, found, hfound, hverified⟩
      cases hfound
      exact ⟨hfields, (verifyReceipt_hmac_eq_ok_iff halg).mp hverified⟩
    · rintro ⟨hfields, hsame⟩
      exact ⟨hfields, signature, rfl, (verifyReceipt_hmac_eq_ok_iff halg).mpr hsame⟩
  have hmain := runnerMain_eq h scheme ed25519
  constructor
  · rintro ⟨response, result, hresponse, hparsed, haccepted⟩
    rw [hmain] at hresponse
    split_ifs at hresponse with hnamed
    cases hresponse
    rw [hread] at hparsed
    cases hparsed
    exact ⟨hnamed, hvalid.mp haccepted⟩
  · rintro ⟨hnamed, haccepted⟩
    exact ⟨_, _, hmain.trans (if_pos hnamed), hread, hvalid.mpr haccepted⟩

lemma accepted_of_agrees (hagrees : run.Agrees) (hhex : scheme.Hex)
    (ed25519 : CString → CString → Option CString) : run.Accepted scheme ed25519 := by
  have htool := isNullOrEmpty_eq_false_iff.mp hagrees.tool
  have hprincipal := isNullOrEmpty_eq_false_iff.mp hagrees.principal
  have hpayload := (signedFields_eq_iff h (ne_some_nil_of_getD htool)
    (ne_some_nil_of_getD hprincipal) hagrees.providerKind []).mpr
    ⟨hagrees.provider, hagrees.providerEndpoint⟩
  refine (accepted_iff h hhex ed25519).mpr ⟨⟨htool, hprincipal⟩, ?_, ?_⟩
  · exact (responseMatches_iff h []).mpr ⟨hagrees.providerKind, hagrees.receiptSchema,
      hagrees.receiptAlg, hagrees.receiptNonce⟩
  · rw [hpayload]

lemma agrees_of_accepted {ed25519 : CString → CString → Option CString}
    (haccepted : ∀ scheme : SignatureScheme, scheme.Hex → run.Accepted scheme ed25519) :
    run.Agrees := by
  -- a code that tells what the engine checks from everything else
  obtain ⟨⟨htool, hprincipal⟩, hmatches, hcode⟩ := (accepted_iff h (oneCode_hex _) ed25519).mp
    (haccepted (oneCode (qxReceiptPayload run.expected (run.result []))) (oneCode_hex _))
  obtain ⟨hkind, hschema, halg, hnonce⟩ := (responseMatches_iff h []).mp hmatches
  obtain ⟨hprovider, hendpoint⟩ := (signedFields_eq_iff h (ne_some_nil_of_getD htool)
    (ne_some_nil_of_getD hprincipal) hkind []).mp (oneCode_eq hcode)
  exact ⟨isNullOrEmpty_eq_false_iff.mpr htool, isNullOrEmpty_eq_false_iff.mpr hprincipal,
    hprovider, hkind, hendpoint, hschema, halg, hnonce⟩

end Request

/-- Whatever the code of a text is, the response of the runner is accepted. -/
theorem host_response_accepted_iff (run : ToolRun) (h : run.OnHost)
    (ed25519 : CString → CString → Option CString) :
    (∀ scheme : SignatureScheme, scheme.Hex → run.Accepted scheme ed25519) ↔ run.Agrees :=
  ⟨agrees_of_accepted h, fun hagrees _ hhex => accepted_of_agrees h hagrees hhex ed25519⟩

def submitted (contract : CString) (profile : QxSandboxProfile) : ToolRun :=
  let host : ToolHost := ⟨fun _ => none, [], none, []⟩
  { host := host
    contract := contract
    phase := .submit
    taskoid := 1
    goal := some "find".toList
    inputPresent := false
    receiptKey := "bootstrap-key".toList
    signerPath := []
    profile := profile
    runtimeDir := "/data/pg_qx_runtime".toList
    requestPath := "/data/pg_qx_runtime/request".toList
    runner :=
      { files := fun _ => some (qxRequestText host contract "submit".toList 1
          (some "find".toList) false "bootstrap-key".toList [])
        getenv := qxRunnerEnviron host contract profile "/data/pg_qx_runtime".toList
        cwd := "/data/pg_qx_runtime".toList
        succeeds := fun _ => true } }

abbrev HostContract (contract : CString) (profile : QxSandboxProfile) : Prop :=
  qxPrincipalRuntime contract = "host".toList ∧
    qxContractValue (some contract) "receipt_alg".toList ≠ some "ed25519".toList ∧
    (qxExecutionSandbox contract).toOption.map Prod.snd = some profile ∧
    ∀ field ∈ contractBuffers, ∀ value ∈ qxContractValue (some contract) field.1.toList,
      NoBreak value ∧ value.length < field.2

lemma HostContract.onHost {contract : CString} {profile : QxSandboxProfile}
    (h : HostContract contract profile) : (submitted contract profile).OnHost where
  runtime := h.1
  hmac := h.2.1
  sandbox := by
    have hsandbox := h.2.2.1
    cases hcalled : qxExecutionSandbox contract with
    | error e => rw [hcalled] at hsandbox; cases hsandbox
    | ok found =>
      rw [hcalled] at hsandbox
      exact ⟨found.1, hcalled.trans (congrArg Except.ok (Prod.ext rfl (Option.some.inj hsandbox)))⟩
  fields := h.2.2.2
  receiptKey := by
    show "bootstrap-key".toList ≠ [] ∧ NoBreak "bootstrap-key".toList ∧
      "bootstrap-key".toList.length < 256
    decide
  taskoid := by
    show 1 < 2 ^ 32
    decide
  goal := by
    show "find".toList.length < 2 ^ 64
    decide
  file := rfl
  environment := rfl
  workdir := by
    show pathBasename "/data/pg_qx_runtime".toList = _ ∧ "/data/pg_qx_runtime".toList.length < 260
    decide

def plainContract : CString :=
  renderFields '=' ';' [("tool".toList, "extract".toList), ("principal".toList, "ops".toList)]

theorem plainContract_accepted :
    HostContract plainContract ⟨"builtin".toList, 3000, 262144, 2⟩ ∧
      ∀ scheme : SignatureScheme, scheme.Hex →
        (submitted plainContract ⟨"builtin".toList, 3000, 262144, 2⟩).Accepted scheme
          fun _ _ => none := by
  have hcontract : HostContract plainContract ⟨"builtin".toList, 3000, 262144, 2⟩ := by
    decide +kernel
  refine ⟨hcontract, ?_⟩
  refine (host_response_accepted_iff _ hcontract.onHost _).mpr ?_
  constructor <;> decide +kernel

/-- The contract of a tool whose handler is `search;provider_endpoint=`. -/
def endpointlessContract : CString :=
  renderFields '=' ';'
    [ ("tool".toList, "search".toList), ("handler".toList, "search".toList),
      ("provider_endpoint".toList, []), ("tool_sandbox".toList, "restricted".toList),
      ("tool_sandbox_ceiling".toList, "restricted".toList),
      ("tool_capability_tags".toList, "tool:search|handler:search".toList),
      ("provider_endpoint".toList, "|sandbox:restricted|sandbox_ceiling:restricted".toList ++
        "|runtime:host|provider_kind:loopback|attestation:optional".toList ++
        "|receipt_alg:hmac-sha256".toList),
      ("principal".toList, "ops".toList), ("principal_sandbox".toList, "restricted".toList),
      ("principal_runtime".toList, "host".toList),
      ("program".toList, "qhapaqxian-tool-runner".toList), ("receipt_signer".toList, []),
      ("provider".toList, "local".toList), ("provider_oid".toList, "1".toList),
      ("provider_kind".toList, "loopback".toList),
      ("provider_endpoint".toList, "local://runner".toList),
      ("provider_attestation".toList, "optional".toList),
      ("receipt_schema".toList, "qx.receipt.v1".toList),
      ("receipt_alg".toList, "hmac-sha256".toList) ]

/-- The engine takes the empty endpoint, the runner its default. -/
theorem endpointless_rejected :
    (qxAuthorizeToolsForNamespace opsSession (opsCatalog [opsPolicy]
        [.createProvider opsProvider, .createPrincipal opsPrincipal,
          .createTool { opsTool with handler := "search;provider_endpoint=".toList }])
      7 2200 10 ["search".toList]).toOption.map (·.toolContracts) = some [endpointlessContract] ∧
    (submitted endpointlessContract ⟨"restricted".toList, 2000, 131072, 1⟩).OnHost ∧
      ¬ ∀ scheme : SignatureScheme, scheme.Hex →
        (submitted endpointlessContract ⟨"restricted".toList, 2000, 131072, 1⟩).Accepted scheme
          fun _ _ => none := by
  have hcontract : HostContract endpointlessContract ⟨"restricted".toList, 2000, 131072, 1⟩ ∧
      qxContractValue (some endpointlessContract) "provider_endpoint".toList = some [] := by
    decide +kernel
  refine ⟨by decide +kernel, hcontract.1.onHost, fun haccepted => ?_⟩
  exact (agrees_of_accepted hcontract.1.onHost haccepted).providerEndpoint hcontract.2

end ToolRun

end QhapaqXian
