import QhapaqXian.Catalog
import QhapaqXian.Library.Json
import QhapaqXian.OutputPlugin

/-!
# The records of the semantic log

The encoders of `qx_semantic_log.c`, with `escape_json` of `json.c`. A record is built up in a
buffer of bytes, field by field, and emitted as a logical message.
-/

namespace QhapaqXian

open Library.Json (Bytes ascii)

/-- A C string as bytes in the server encoding. -/
abbrev ByteText := { text : Bytes // 0 ∉ text }

/-- One byte of `escape_json`. -/
def escapeByte (b : UInt8) : Bytes :=
  if b = 8 then [92, 98]
  else if b = 12 then [92, 102]
  else if b = 10 then [92, 110]
  else if b = 13 then [92, 114]
  else if b = 9 then [92, 116]
  else if b = 34 then [92, 34]
  else if b = 92 then [92, 92]
  -- `\u%04x`
  else if b < 32 then 92 :: 117 :: ascii ((Nat.toDigits 16 b.toNat).leftpad 4 '0')
  else [b]

def escapeJson (text : Bytes) : Bytes :=
  34 :: (text.flatMap escapeByte ++ [34])

/-! ## Fields -/

/-- `"key":`. -/
def keyText (key : String) : Bytes :=
  34 :: (bytes key ++ [34, 58])

def withComma (trailingComma : Bool) (buf : Bytes) : Bytes :=
  if trailingComma then buf ++ [44] else buf

def qxJsonAppendStringField (buf : Bytes) (key : String) (value : Option ByteText)
    (trailingComma : Bool) : Bytes :=
  withComma trailingComma (buf ++ keyText key ++
    match value with
    | none => bytes "null"
    | some text => escapeJson text.val)

def qxJsonAppendOidField (buf : Bytes) (key : String) (value : Oid) (trailingComma : Bool) :
    Bytes :=
  withComma trailingComma (buf ++ keyText key ++ ascii (formatUnsigned value))

/-- The character is not escaped. -/
def qxJsonAppendCharField (buf : Bytes) (key : String) (value : Char) (trailingComma : Bool) :
    Bytes :=
  withComma trailingComma (buf ++ keyText key ++ 34 :: (ascii [value] ++ [34]))

def qxJsonAppendBoolField (buf : Bytes) (key : String) (value : Bool) (trailingComma : Bool) :
    Bytes :=
  withComma trailingComma (buf ++ keyText key ++ bytes (if value then "true" else "false"))

def qxJsonAppendInt32Field (buf : Bytes) (key : String) (value : Int) (trailingComma : Bool) :
    Bytes :=
  withComma trailingComma (buf ++ keyText key ++ ascii (formatSigned value))

structure QxSemanticExecutionMetadata where
  providerName : Option ByteText
  providerKind : Option ByteText
  providerEndpoint : Option ByteText
  principalName : Option ByteText
  principalRuntime : Option ByteText
  sandboxName : Option ByteText
  profileName : Option ByteText
  environmentMode : Option ByteText
  workdirName : Option ByteText
  launchMode : Option ByteText
  receiptSchema : Option ByteText
  receiptAlg : Option ByteText
  receiptNonce : Option ByteText
  attestationMode : Option ByteText
  timeoutMs : Int
  processLimit : Int
  wallTimeMs : Int
  tokenCharge : Int
  costCharge : Int
  pathPresent : Bool
  restrictedIdentity : Bool
  deriving Repr, DecidableEq

def qxJsonAppendExecutionMetadataFields (buf : Bytes) :
    Option QxSemanticExecutionMetadata → Bytes
  | none => buf
  | some metadata =>
    let buf := qxJsonAppendStringField buf "provider_name" metadata.providerName true
    let buf := qxJsonAppendStringField buf "provider_kind" metadata.providerKind true
    let buf := qxJsonAppendStringField buf "provider_endpoint" metadata.providerEndpoint true
    let buf := qxJsonAppendStringField buf "principal_name" metadata.principalName true
    let buf := qxJsonAppendStringField buf "principal_runtime" metadata.principalRuntime true
    let buf := qxJsonAppendStringField buf "sandbox_name" metadata.sandboxName true
    let buf := qxJsonAppendStringField buf "profile_name" metadata.profileName true
    let buf := qxJsonAppendStringField buf "environment_mode" metadata.environmentMode true
    let buf := qxJsonAppendStringField buf "workdir_name" metadata.workdirName true
    let buf := qxJsonAppendStringField buf "launch_mode" metadata.launchMode true
    let buf := qxJsonAppendStringField buf "receipt_schema" metadata.receiptSchema true
    let buf := qxJsonAppendStringField buf "receipt_alg" metadata.receiptAlg true
    let buf := qxJsonAppendStringField buf "receipt_nonce" metadata.receiptNonce true
    let buf := qxJsonAppendStringField buf "attestation_mode" metadata.attestationMode true
    let buf := qxJsonAppendInt32Field buf "timeout_ms" metadata.timeoutMs true
    let buf := qxJsonAppendInt32Field buf "process_limit" metadata.processLimit true
    let buf := qxJsonAppendInt32Field buf "wall_time_ms" metadata.wallTimeMs true
    let buf := qxJsonAppendInt32Field buf "token_charge" metadata.tokenCharge true
    let buf := qxJsonAppendInt32Field buf "cost_charge" metadata.costCharge true
    let buf := qxJsonAppendBoolField buf "path_present" metadata.pathPresent true
    qxJsonAppendBoolField buf "restricted_identity" metadata.restrictedIdentity true

/-! ## Records -/

def constText (text : String) (h : 0 ∉ bytes text) : ByteText :=
  ⟨bytes text, h⟩

def semanticSchemaV1 : ByteText :=
  constText "stage9.semantic.v1" (by decide +kernel)

def semanticSchemaV2 : ByteText :=
  constText "stage31.semantic.v2" (by decide +kernel)

def recordSchema (metadata : Option QxSemanticExecutionMetadata) : ByteText :=
  if metadata.isSome then semanticSchemaV2 else semanticSchemaV1

structure SemanticEvent where
  eventoid : Oid
  sessionoid : Oid
  taskoid : Oid
  stepoid : Oid
  ownerid : Oid
  kind : Option ByteText
  payload : Option ByteText
  deriving Repr, DecidableEq

inductive TraceState
  | opened
  | closed
  deriving Repr, DecidableEq

def TraceState.code : TraceState → Char
  | opened => 'o'
  | closed => 'c'

structure SemanticTrace where
  traceoid : Oid
  sessionoid : Oid
  taskoid : Oid
  stepoid : Oid
  ownerid : Oid
  state : TraceState
  name : Option ByteText
  detail : Option ByteText
  deriving Repr, DecidableEq

def CheckpointState.code : CheckpointState → Char
  | durable => 'd'

structure SemanticCheckpoint where
  checkpointoid : Oid
  sessionoid : Oid
  taskoid : Oid
  attemptoid : Oid
  stepoid : Oid
  ownerid : Oid
  checkpointState : CheckpointState
  taskState : TaskState
  nextstepseqno : Int
  label : Option ByteText
  data : Option ByteText
  deriving Repr, DecidableEq

def recordHead (schema : ByteText) (recordKind channel : ByteText) : Bytes :=
  let buf := [123]
  let buf := qxJsonAppendStringField buf "schema" (some schema) true
  let buf := qxJsonAppendStringField buf "record_kind" (some recordKind) true
  qxJsonAppendStringField buf "channel" (some channel) true

/-- The body of `QxEmitSemanticEventRecordV2`, for any text in the field of the schema. -/
def SemanticEvent.encode (event : SemanticEvent) (schema : ByteText)
    (metadata : Option QxSemanticExecutionMetadata) : Bytes :=
  let buf := recordHead schema (constText "event" (by decide +kernel))
    (constText "qx.event" (by decide +kernel))
  let buf := qxJsonAppendOidField buf "record_oid" event.eventoid true
  let buf := qxJsonAppendOidField buf "session_oid" event.sessionoid true
  let buf := qxJsonAppendOidField buf "task_oid" event.taskoid true
  let buf := qxJsonAppendOidField buf "step_oid" event.stepoid true
  let buf := qxJsonAppendOidField buf "owner_oid" event.ownerid true
  let buf := qxJsonAppendExecutionMetadataFields buf metadata
  let buf := qxJsonAppendStringField buf "kind" event.kind true
  let buf := qxJsonAppendStringField buf "payload" event.payload false
  buf ++ [125]

def SemanticTrace.encode (trace : SemanticTrace) (schema : ByteText)
    (metadata : Option QxSemanticExecutionMetadata) : Bytes :=
  let buf := recordHead schema (constText "trace" (by decide +kernel))
    (constText "qx.trace" (by decide +kernel))
  let buf := qxJsonAppendOidField buf "record_oid" trace.traceoid true
  let buf := qxJsonAppendOidField buf "session_oid" trace.sessionoid true
  let buf := qxJsonAppendOidField buf "task_oid" trace.taskoid true
  let buf := qxJsonAppendOidField buf "step_oid" trace.stepoid true
  let buf := qxJsonAppendOidField buf "owner_oid" trace.ownerid true
  let buf := qxJsonAppendCharField buf "state" trace.state.code true
  let buf := qxJsonAppendExecutionMetadataFields buf metadata
  let buf := qxJsonAppendStringField buf "name" trace.name true
  let buf := qxJsonAppendStringField buf "detail" trace.detail false
  buf ++ [125]

def SemanticCheckpoint.encode (checkpoint : SemanticCheckpoint) (schema : ByteText)
    (metadata : Option QxSemanticExecutionMetadata) : Bytes :=
  let buf := recordHead schema (constText "checkpoint" (by decide +kernel))
    (constText "qx.checkpoint" (by decide +kernel))
  let buf := qxJsonAppendOidField buf "record_oid" checkpoint.checkpointoid true
  let buf := qxJsonAppendOidField buf "session_oid" checkpoint.sessionoid true
  let buf := qxJsonAppendOidField buf "task_oid" checkpoint.taskoid true
  let buf := qxJsonAppendOidField buf "attempt_oid" checkpoint.attemptoid true
  let buf := qxJsonAppendOidField buf "step_oid" checkpoint.stepoid true
  let buf := qxJsonAppendOidField buf "owner_oid" checkpoint.ownerid true
  let buf := qxJsonAppendExecutionMetadataFields buf metadata
  let buf := qxJsonAppendCharField buf "checkpoint_state" checkpoint.checkpointState.code true
  let buf := qxJsonAppendCharField buf "task_state" checkpoint.taskState.code true
  let buf := qxJsonAppendInt32Field buf "next_step_seqno" checkpoint.nextstepseqno true
  let buf := qxJsonAppendStringField buf "label" checkpoint.label true
  let buf := qxJsonAppendStringField buf "data" checkpoint.data false
  buf ++ [125]

def qxEmitSemanticJson (buf : Bytes) : LogicalMessage :=
  ⟨"qhapaqxian".toList, buf⟩

def qxEmitSemanticEventRecordV2 (event : SemanticEvent)
    (metadata : Option QxSemanticExecutionMetadata) : LogicalMessage :=
  qxEmitSemanticJson (event.encode (recordSchema metadata) metadata)

def qxEmitSemanticEventRecord (event : SemanticEvent) : LogicalMessage :=
  qxEmitSemanticEventRecordV2 event none

def qxEmitSemanticTraceRecordV2 (trace : SemanticTrace)
    (metadata : Option QxSemanticExecutionMetadata) : LogicalMessage :=
  qxEmitSemanticJson (trace.encode (recordSchema metadata) metadata)

def qxEmitSemanticTraceRecord (trace : SemanticTrace) : LogicalMessage :=
  qxEmitSemanticTraceRecordV2 trace none

def qxEmitSemanticCheckpointRecordV2 (checkpoint : SemanticCheckpoint)
    (metadata : Option QxSemanticExecutionMetadata) : LogicalMessage :=
  qxEmitSemanticJson (checkpoint.encode (recordSchema metadata) metadata)

def qxEmitSemanticCheckpointRecord (checkpoint : SemanticCheckpoint) : LogicalMessage :=
  qxEmitSemanticCheckpointRecordV2 checkpoint none

end QhapaqXian
