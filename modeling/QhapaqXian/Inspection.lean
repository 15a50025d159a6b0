import Mathlib.Data.Prod.Lex
import QhapaqXian.ExecutionTrace
import QhapaqXian.Library.Scan
import QhapaqXian.Library.Table
import QhapaqXian.Proofs.TraceDetail

/-!
# The commands that read memory and traces

`FETCH MEMORY` of `memorycmds.c` and `qx_memory.c`, `SHOW TRACE` of `tracecmds.c`, with the rules
of the grammar for their limits. They read rows of every database.
-/

namespace QhapaqXian

open Library

/-- An integer literal of the grammar: digits without a sign that fit into an `int`. -/
abbrev Iconst := { n : Nat // n < 2 ^ 31 }

/-- `qx_opt_fetch_limit`. -/
def qxOptFetchLimit (limit : Option Iconst) : Iconst :=
  limit.getD ⟨10, by decide⟩

/-- `qx_opt_show_trace_limit`. -/
def qxOptShowTraceLimit (limit : Option Iconst) : Iconst :=
  limit.getD ⟨50, by decide⟩

inductive MemoryScope
  | working
  | episodic
  | semantic
  deriving Repr, DecidableEq

def MemoryScope.code : MemoryScope → UInt8
  | working => 'w'.toUInt8
  | episodic => 'e'.toUInt8
  | semantic => 's'.toUInt8

/-- A scope is stored as a byte, and nothing keeps other bytes out of the column. -/
structure MemoryRow where
  oid : Oid
  dbid : Oid
  agentoid : Oid
  ownerid : Oid
  scope : UInt8
  key : Option CString
  value : Option CString
  tags : Option CString
  deriving Repr, DecidableEq

instance : Identified MemoryRow := ⟨MemoryRow.oid⟩

structure StoredTrace where
  oid : Oid
  dbid : Oid
  taskoid : Oid
  stepoid : Oid
  state : UInt8
  lsn : XLogRecPtr
  name : Option CString
  detail : Option CString
  deriving Repr, DecidableEq

instance : Identified StoredTrace := ⟨StoredTrace.oid⟩

structure AgentInfo where
  oid : Oid
  namespaceoid : Oid
  ownerid : Oid
  name : CString
  deriving Repr, DecidableEq

structure InspectedRows where
  agents : List AgentInfo
  taskOwner : Oid → Option Oid
  memories : Table MemoryRow
  traces : Table StoredTrace

structure InspectionSession where
  userId : Oid
  databaseId : Oid
  searchPath : List Oid
  hasPrivsOfRole : Oid → Oid → Bool

/-! ## `FETCH MEMORY` -/

structure FetchMemoryStmt where
  agentName : CString
  scopes : List MemoryScope
  matchText : Option CString
  limitCount : Iconst
  deriving Repr, DecidableEq

structure MemoryOutput where
  scope : CString
  key : Option CString
  value : Option CString
  tags : Option CString
  deriving Repr, DecidableEq

def qxMemoryScopeLabel (scope : UInt8) : CString :=
  if scope = MemoryScope.working.code then "working".toList
  else if scope = MemoryScope.episodic.code then "episodic".toList
  else if scope = MemoryScope.semantic.code then "semantic".toList
  else "unknown".toList

def lookupAgentByName (rows : InspectedRows) (namespaceoid : Oid) (name : CString) :
    Option AgentInfo :=
  if !oidIsValid namespaceoid || name.isEmpty then none
  else rows.agents.find? fun agent => agent.namespaceoid == namespaceoid && agent.name == name

def qxLookupAgentInfo (session : InspectionSession) (rows : InspectedRows) (name : CString) :
    Option AgentInfo :=
  session.searchPath.findSome? fun namespaceoid => lookupAgentByName rows namespaceoid name

def qxScopeIsRequested (scope : UInt8) (scopes : List MemoryScope) : Bool :=
  scopes.isEmpty || scopes.any fun requested => requested.code == scope

def qxMemoryMatchesFilter (matchText key value tags : Option CString) : Bool :=
  match matchText with
  | none => true
  | some pattern => [key, value, tags].any fun column =>
      column.any fun text => (strstr text pattern).isSome

/-- The key of `pg_qx_memory_agent_scope_index`: agent, scope and identifier. The scope is compared
as an unsigned byte. -/
def MemoryRow.indexKey (row : MemoryRow) : Nat ×ₗ Nat ×ₗ Nat :=
  toLex (row.agentoid, toLex (row.scope.toNat, row.oid))

def memoryIndexLe (a b : MemoryRow) : Bool :=
  decide (a.indexKey ≤ b.indexKey)

def memoryIndexScan (rows : InspectedRows) (agentoid : Oid) : List MemoryRow :=
  (rows.memories.rows.mergeSort memoryIndexLe).filter fun row => row.agentoid == agentoid

def MemoryRow.output (row : MemoryRow) : MemoryOutput :=
  ⟨qxMemoryScopeLabel row.scope, row.key, row.value, row.tags⟩

def emitMemory (session : InspectionSession) (ownerid : Oid) (scopes : List MemoryScope)
    (matchText : Option CString) (row : MemoryRow) : Option MemoryOutput :=
  if row.dbid != session.databaseId then none
  else if !session.hasPrivsOfRole ownerid row.ownerid then none
  else if !qxScopeIsRequested row.scope scopes then none
  else if !qxMemoryMatchesFilter matchText row.key row.value row.tags then none
  else some row.output

def qxFetchMemoryRecords (session : InspectionSession) (rows : InspectedRows)
    (agentoid ownerid : Oid) (scopes : List MemoryScope) (matchText : Option CString)
    (limitCount : Nat) : List MemoryOutput :=
  emitRows (emitMemory session ownerid scopes matchText) limitCount 0
    (memoryIndexScan rows agentoid)

def fetchMemoryCommand (session : InspectionSession) (rows : InspectedRows)
    (stmt : FetchMemoryStmt) : Except QxError (List MemoryOutput) :=
  match qxLookupAgentInfo session rows stmt.agentName with
  | none => ereport .undefinedObject
      ("agent \"" ++ String.ofList stmt.agentName ++ "\" does not exist")
  | some agent =>
    let ownerid := session.userId
    if !session.hasPrivsOfRole ownerid agent.ownerid then
      ereportDetail .insufficientPrivilege
        ("permission denied to fetch memory for agent \"" ++ String.ofList stmt.agentName ++ "\"")
        ("Only the agent owner or a member of that role may inspect engine-owned memory for " ++
          "the agent.")
    else pure (qxFetchMemoryRecords session rows agent.oid ownerid stmt.scopes stmt.matchText
      stmt.limitCount.val)

/-! ## `SHOW TRACE` -/

/-- The expression for the task: an integer literal, a literal of another type, or no literal. -/
inductive IdExpr
  | integer (value : Int)
  | literal
  | expression
  deriving Repr, DecidableEq

structure ShowTraceStmt where
  taskId : IdExpr
  limitCount : Iconst
  deriving Repr, DecidableEq

structure TraceOutput where
  state : CString
  name : Option CString
  detail : Option CString
  summary : Option CString
  hasStep : Bool
  hasSemanticLsn : Bool
  deriving Repr, DecidableEq

def qxExtractOidLiteral (expr : IdExpr) (subject detail : String) : Except QxError Oid :=
  match expr with
  | .expression => ereportDetail .invalidParameterValue
      (subject ++ " currently requires a literal identifier") detail
  | .literal => ereport .invalidParameterValue
      (subject ++ " identifier must be an integer literal")
  | .integer value =>
    if value ≤ 0 then
      ereport .invalidParameterValue (subject ++ " identifier must be greater than zero")
    else pure value.toNat

def qxTraceStateLabel (state : UInt8) : CString :=
  if state = 'o'.toUInt8 then "open".toList
  else if state = 'c'.toUInt8 then "closed".toList
  else "unknown".toList

/-- Unlike the functions that write a trace, this one also knows a wall time that is replaced. -/
def qxNormalizeTraceDetailTruncateAfterWallMs (source : CString) : CString :=
  match strstr source (fieldMarker "wall_ms") with
  | none => source
  | some wallMs =>
    let cursor := wallMs.drop (fieldMarker "wall_ms").length
    textBefore source
      (if "<ms>".toList.isPrefixOf cursor then cursor.drop 4 else cursor.dropWhile Char.isDigit)

def stripTraceDetail (source : CString) : CString :=
  let stripped := qxStripDuplicateReceiptTail source
  match strstr stripped (fieldMarker "detail") with
  | none => stripped
  | some detailMarker =>
    let inner := detailMarker.drop (fieldMarker "detail").length
    match innerDetailEnd inner with
    | some truncateAt => textBefore stripped truncateAt
    | none =>
      let clean := qxNormalizeTraceDetailTruncateAfterWallMs inner
      if clean ≠ inner then textBefore stripped inner ++ clean else stripped

/-- `qx_replace_trace_delimited_value_all` with fuel enough for the text. -/
def replaceTraceValues (source key replacement : CString) (hkey : key ≠ []) : CString :=
  (qxReplaceTraceDelimitedValueAll source.length source key replacement).get
    (qxReplaceTraceDelimitedValueAll_isSome source hkey replacement)

def qxNormalizeTraceDetail (detail : CString) (taskoid : Oid) : CString :=
  let stripped := stripTraceDetail detail
  let normalized := qxReplaceTraceFragment stripped ("task ".toList ++ formatUnsigned taskoid)
    "task <task>".toList
  let rewritten := qxReplaceTraceFragment normalized ("task=".toList ++ formatUnsigned taskoid)
    "task=<task>".toList
  let microvmAccel := qxReplaceTraceDelimitedValue rewritten "microvm_accel=".toList
    "<accel>".toList
  let microvmKernel := qxReplaceTraceDelimitedValue microvmAccel "microvm_kernel=".toList
    "<kernel>".toList
  let containerId := replaceTraceValues microvmKernel "container_id=".toList
    "<container_id>".toList (by decide)
  let vmId := replaceTraceValues containerId "vm_id=".toList "<vm_id>".toList (by decide)
  let vmIdPass2 := replaceTraceValues vmId "vm_id=".toList "<vm_id>".toList (by decide)
  let restrictedIdentity := qxReplaceTraceDelimitedValue vmIdPass2 "restricted_identity=".toList
    "<identity>".toList
  let finalDetail := qxReplaceTraceNumericValue restrictedIdentity "wall_ms=".toList
    "<ms>".toList
  qxNormalizeTraceDetailTruncateAfterWallMs
    (replaceTraceValues (qxStripDuplicateReceiptTail finalDetail) "vm_id=".toList
      "<vm_id>".toList (by decide))

def summaryKeys : List String :=
  ["record_kind", "state", "phase", "tool", "scheduler_queue", "scheduler_runtime",
    "scheduler_provider", "scheduler_provider_kind", "scheduler_worker", "scheduler_retry",
    "scheduler_checkpoint", "scheduler_resume", "scheduler_heartbeat_ms",
    "scheduler_lease_ttl_ms", "principal", "principal_runtime", "provider", "provider_kind",
    "provider_endpoint", "effective_sandbox", "profile", "env", "cwd", "timeout_ms",
    "process_limit", "receipt_schema", "receipt_alg", "receipt_nonce", "receipt_sig",
    "attestation", "launch_mode", "restricted_identity", "checkpoint", "semantic_lsn", "wall_ms",
    "tokens", "cost"]

def qxObserveAppendPair (buf key value : CString) : CString :=
  (if buf.length > 0 then buf ++ [';'] else buf) ++ key ++ '=' :: value

def qxObserveSummarizeTraceDetail (name detail : Option CString) : CString :=
  summaryKeys.foldl
    (fun buf key =>
      match detail.bind fun detail => qxObserveTraceDetailValue detail key.toList with
      | none => buf
      | some value =>
        let summaryKey := if key = "effective_sandbox" then "sandbox" else key
        qxObserveAppendPair buf summaryKey.toList value)
    (qxObserveAppendPair [] "trace_name".toList (name.getD "<unknown>".toList))

/-- The entries of `pg_qx_trace_taskid_index` for one task. Entries of one key are kept in the
order of the heap. -/
def traceIndexScan (rows : InspectedRows) (taskoid : Oid) : List StoredTrace :=
  rows.traces.rows.filter fun row => row.taskoid == taskoid

def StoredTrace.output (taskoid : Oid) (row : StoredTrace) : TraceOutput :=
  let normalizedDetail := row.detail.map fun detail => qxNormalizeTraceDetail detail taskoid
  { state := qxTraceStateLabel row.state
    name := row.name
    detail := normalizedDetail
    summary := some (qxObserveSummarizeTraceDetail row.name normalizedDetail)
    hasStep := oidIsValid row.stepoid
    hasSemanticLsn := row.lsn != 0 }

def emitTrace (session : InspectionSession) (taskoid : Oid) (row : StoredTrace) :
    Option TraceOutput :=
  if row.dbid != session.databaseId then none else some (row.output taskoid)

def showTraceCommand (session : InspectionSession) (rows : InspectedRows)
    (stmt : ShowTraceStmt) : Except QxError (List TraceOutput) := do
  let taskoid ← qxExtractOidLiteral stmt.taskId "SHOW TRACE"
    ("Stage 10 exposes engine-owned trace rows directly, but task identifiers still require " ++
      "literal OID input on the utility path.")
  match rows.taskOwner taskoid with
  | none => ereport .undefinedObject ("task " ++ toString taskoid ++ " does not exist")
  | some taskOwner =>
    if !session.hasPrivsOfRole session.userId taskOwner then
      ereportDetail .insufficientPrivilege
        ("permission denied to inspect trace for task " ++ toString taskoid)
        ("Only the task owner or a member of that role may read the engine-owned trace " ++
          "stream.")
    else pure (emitRows (emitTrace session taskoid) stmt.limitCount.val 0
      (traceIndexScan rows taskoid))

end QhapaqXian
