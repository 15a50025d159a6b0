import QhapaqXian.Basic
import QhapaqXian.Library.Fields

/-!
# The output plugin

The callbacks of `qhapaqxian_output.c` that logical decoding calls for a stream of changes. Only
logical messages produce output.
-/

namespace QhapaqXian

open Library

structure OutputOption where
  defname : CString
  arg : Option CString
  deriving Repr, DecidableEq

/-- The options in the order they are given; the value is the prefix of the messages to write. -/
def qxDecodeStartup (options : List OutputOption) : Except QxError CString :=
  options.foldlM (fun configured option =>
    if option.defname = "prefix".toList then pure (option.arg.getD configured)
    else ereport .invalidParameterValue
      ("option \"" ++ String.ofList option.defname ++ "\" = \"" ++
        String.ofList (option.arg.getD "(null)".toList) ++ "\" is unknown"))
    "qhapaqxian".toList

/-- The content is `sz` bytes, any of which may be zero. -/
structure LogicalMessage where
  msgPrefix : CString
  content : List UInt8
  deriving Repr, DecidableEq

def bytes (text : String) : List UInt8 :=
  text.toList.map fun c => UInt8.ofNat c.toNat

def qxSchemaV1 : List UInt8 :=
  bytes "\"schema\":\"stage9.semantic.v1\""

def qxSchemaV2 : List UInt8 :=
  bytes "\"schema\":\"stage31.semantic.v2\""

/-- `pnstrdup` ends the text at the first zero byte. -/
def supportedSchema (content : List UInt8) : Bool :=
  let text := upTo 0 content
  (strstr text qxSchemaV1).isSome || (strstr text qxSchemaV2).isSome

def qxValidateSemanticSchema (content : List UInt8) : Except QxError Unit :=
  if supportedSchema content then pure ()
  else ereport .invalidParameterValue "unsupported QhapaqXian semantic schema in logical message"

def qxWriteMessage (configured : CString) (message : LogicalMessage) : List (List UInt8) :=
  if message.msgPrefix = configured then [message.content] else []

def qxDecodeMessage (configured : CString) (message : LogicalMessage) :
    Except QxError (List (List UInt8)) := do
  qxValidateSemanticSchema message.content
  pure (qxWriteMessage configured message)

/-- Has the body of `qx_decode_message`. -/
def qxDecodeStreamMessage (configured : CString) (message : LogicalMessage) :
    Except QxError (List (List UInt8)) := do
  qxValidateSemanticSchema message.content
  pure (qxWriteMessage configured message)

/-- The calls that logical decoding makes of the plugin. -/
inductive DecodeCall
  | beginTxn
  | commitTxn
  | change
  | truncate
  | message (message : LogicalMessage)
  | streamMessage (message : LogicalMessage)
  deriving Repr, DecidableEq

def DecodeCall.logicalMessage : DecodeCall → Option LogicalMessage
  | .message m | .streamMessage m => some m
  | _ => none

def DecodeCall.output (configured : CString) : DecodeCall → Except QxError (List (List UInt8))
  | .message m => qxDecodeMessage configured m
  | .streamMessage m => qxDecodeStreamMessage configured m
  | _ => pure []

/-- The messages written for a stream, and the error that stops it if there is one. -/
def decodeStream (configured : CString) : List DecodeCall → List (List UInt8) × Option QxError
  | [] => ([], none)
  | call :: calls =>
    match call.output configured with
    | .error e => ([], some e)
    | .ok written =>
      let (rest, error) := decodeStream configured calls
      (written ++ rest, error)

end QhapaqXian
