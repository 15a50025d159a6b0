import QhapaqXian.Library.Markers
import QhapaqXian.ToolExecution

/-!
# The record of an external execution

The payload that `qx_runtime.c` writes into the event and the trace of an external execution, how
the catalog normalises it and how `qx_observe.c` reads single fields back.
-/

namespace QhapaqXian

open Library

/-- `;key=`. -/
abbrev fieldMarker (key : String) : CString :=
  ';' :: (key.toList ++ ['='])

def duplicateTail (marker source : CString) : Option CString := do
  let cursor ← strstr source marker
  let duplicate ← strstr (cursor.drop marker.length) marker
  return textBefore source duplicate

def qxStripDuplicateReceiptTailOnce (source : CString) : Option CString :=
  (duplicateTail (fieldMarker "detail") source).or
    ((duplicateTail (fieldMarker "tokens") source).or
      (duplicateTail (fieldMarker "launch_mode") source))

/-- The loop around it. Each round shortens the text, so the length bounds the rounds. -/
def stripRounds : Nat → CString → CString
  | 0, stripped => stripped
  | rounds + 1, stripped =>
    match qxStripDuplicateReceiptTailOnce stripped with
    | none => stripped
    | some next => stripRounds rounds next

def qxStripDuplicateReceiptTail (source : CString) : CString :=
  stripRounds source.length source

def qxTruncateDetailAfterWallMs (source : CString) : CString :=
  match strstr source (fieldMarker "wall_ms") with
  | none => source
  | some wallMs =>
    textBefore source ((wallMs.drop (fieldMarker "wall_ms").length).dropWhile Char.isDigit)

def beforeMarker (marker source : CString) : CString :=
  match strstr source marker with
  | none => source
  | some start => textBefore source start

/-- Where the inner detail ends, if another field follows it. -/
def innerDetailEnd (inner : CString) : Option CString :=
  match strstr inner (fieldMarker "tokens"), strstr inner (fieldMarker "detail") with
  | some tokens, some detailDup =>
    if tokens.length > detailDup.length then some tokens else some detailDup
  | some tokens, none => some tokens
  | none, detailDup => detailDup

def qxStripExternalTracePayload (source : CString) : CString :=
  let stripped := qxStripDuplicateReceiptTail source
  match strstr stripped (fieldMarker "detail") with
  | none => stripped
  | some detailMarker =>
    let inner := detailMarker.drop (fieldMarker "detail").length
    match innerDetailEnd inner with
    | some truncateAt => textBefore stripped truncateAt
    | none =>
      let clean := qxTruncateDetailAfterWallMs inner
      if clean ≠ inner then textBefore stripped inner ++ clean else stripped

def executionFields (phase : CString) (result : QxExternalToolResult) :
    List (CString × CString) :=
  let orUnknown (value : Option CString) := value.getD "<unknown>".toList
  [ ("phase".toList, phase),
    ("tool".toList, orUnknown result.toolName),
    ("principal".toList, orUnknown result.principalName),
    ("principal_runtime".toList, orUnknown result.principalRuntime),
    ("provider".toList, orUnknown result.providerName),
    ("provider_kind".toList, orUnknown result.providerKind),
    ("effective_sandbox".toList, orUnknown result.sandboxName),
    ("profile".toList, orUnknown result.profileName),
    ("env".toList, orUnknown result.environmentMode),
    ("cwd".toList, orUnknown result.workdirName),
    ("process_limit".toList, formatSigned result.processLimit),
    ("timeout_ms".toList, formatSigned result.timeoutMs),
    ("receipt_schema".toList, orUnknown result.receiptSchema),
    ("receipt_alg".toList, orUnknown result.receiptAlg),
    ("receipt_nonce".toList, orUnknown result.receiptNonce),
    ("receipt_sig".toList,
      if result.receiptSignature.isSome then "verified".toList else "missing".toList),
    ("attestation".toList, orUnknown result.attestationMode),
    ("container_id".toList, result.containerId.getD []),
    ("vm_id".toList, result.vmId.getD []),
    ("tokens".toList, formatSigned result.tokenCharge),
    ("cost".toList, formatSigned result.costCharge) ]

def detailForPayload (detail : CString) : CString :=
  qxTruncateDetailAfterWallMs
    (beforeMarker (fieldMarker "tokens") (qxStripDuplicateReceiptTail detail))

/-- A result without a detail ends the server process; a result that was read has one. -/
def qxFormatExternalExecutionPayload (phase : CString) (result : QxExternalToolResult) :
    Option CString :=
  result.detail.map fun detail => qxStripExternalTracePayload
    (renderFields '=' ';'
      (executionFields phase result ++ [("detail".toList, detailForPayload detail)]))

/-- `qx_observe.c` has the stripping functions of `qx_runtime.c` once more, word by word. -/
def qxObserveNormalizeExternalTraceDetail (source : CString) : CString :=
  qxStripExternalTracePayload source

def qxCatalogTraceDetail (name detail : CString) : CString :=
  if name = "runtime.external_submit".toList ∨ name = "runtime.external_resume".toList then
    qxObserveNormalizeExternalTraceDetail detail
  else detail

/-- The payload of the event `TASK_TOOL_EXECUTED` and the detail of the trace. -/
structure ExecutionRecord where
  eventPayload : CString
  traceDetail : CString
  deriving Repr, DecidableEq

def recordExecution (phase : ToolPhase) (result : QxExternalToolResult) : Option ExecutionRecord :=
  (qxFormatExternalExecutionPayload phase.name result).map fun payload =>
    ⟨payload, qxCatalogTraceDetail (externalTraceName phase) payload⟩

/-! ## Reading a field back -/

/-- A marker counts at the start of the text and behind these characters. -/
def opensField (c : Char) : Bool :=
  c == ';' || c == '\n' || c == ' '

/-- `strpbrk(value, ";\n")`. -/
def closesField (c : Char) : Bool :=
  c == ';' || c == '\n'

def qxObserveContractValue (contract marker : CString) : Option CString :=
  if marker = [] then none else markScan opensField closesField marker 0 true contract

def qxObserveTraceDetailValue (detail key : CString) : Option CString :=
  if key = [] then none else qxObserveContractValue detail (key ++ ['='])

end QhapaqXian
