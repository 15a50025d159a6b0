import QhapaqXian.Library.Checks
import QhapaqXian.OutputPlugin

/-!
# What the output plugin writes

The schema of a message is checked before its prefix is looked at, so a message of another
application stops the stream unless it happens to hold one of the two schema texts.
-/

namespace QhapaqXian

open Library

lemma configured_of_qxDecodeStartup {options : List OutputOption} {configured : CString}
    (h : qxDecodeStartup options = .ok configured) :
    configured = (options.filterMap OutputOption.arg).getLastD "qhapaqxian".toList := by
  unfold qxDecodeStartup at h
  generalize "qhapaqxian".toList = initial at h
  induction options generalizing initial with
  | nil => exact (pure_eq_ok_iff.mp h).symm
  | cons option options ih =>
    rw [List.foldlM_cons] at h
    obtain ⟨next, hnext, h⟩ := bind_eq_ok_iff.mp h
    rw [ih next h]
    split_ifs at hnext
    · rw [← pure_eq_ok_iff.mp hnext]
      cases harg : option.arg with
      | none => rw [List.filterMap_cons_none harg, Option.getD_none]
      | some arg => rw [List.filterMap_cons_some harg, List.getLastD_cons, Option.getD_some]
    · cases hnext

def ownContents (configured : CString) (calls : List DecodeCall) : List (List UInt8) :=
  ((calls.filterMap DecodeCall.logicalMessage).filter (·.msgPrefix = configured)).map
    LogicalMessage.content

/-- Exactly the plugin's own messages are written, and none of another application raises. -/
structure WritesOwn (configured : CString) (calls : List DecodeCall) : Prop where
  written : decodeStream configured calls = (ownContents configured calls, none)
  foreign : ∀ call ∈ calls, ∀ message, call.logicalMessage = some message →
    message.msgPrefix ≠ configured → (call.output configured).isOk = true

lemma output_eq (configured : CString) (call : DecodeCall) :
    call.output configured =
      match call.logicalMessage with
      | none => .ok []
      | some message =>
        if supportedSchema message.content then .ok (qxWriteMessage configured message)
        else ereport .invalidParameterValue
          "unsupported QhapaqXian semantic schema in logical message" := by
  have hdecode : ∀ message, qxDecodeMessage configured message =
      if supportedSchema message.content then .ok (qxWriteMessage configured message)
      else ereport .invalidParameterValue
        "unsupported QhapaqXian semantic schema in logical message" := by
    intro message
    unfold qxDecodeMessage qxValidateSemanticSchema
    split_ifs <;> rfl
  cases call with
  | message m => exact hdecode m
  | streamMessage m => exact hdecode m
  | _ => rfl

lemma ownContents_cons (configured : CString) (call : DecodeCall) (calls : List DecodeCall) :
    ownContents configured (call :: calls) =
      (call.logicalMessage.elim [] (qxWriteMessage configured)) ++
        ownContents configured calls := by
  unfold ownContents
  cases hmessage : call.logicalMessage with
  | none => simp [hmessage]
  | some message =>
    by_cases hown : message.msgPrefix = configured <;> simp [hmessage, hown, qxWriteMessage]

/-- Every message of the stream has one of the schemas exactly if nothing stops it, and then its own
messages are written. -/
lemma decodeStream_eq_iff (configured : CString) (calls : List DecodeCall) :
    decodeStream configured calls = (ownContents configured calls, none) ↔
      ∀ call ∈ calls, ∀ message, call.logicalMessage = some message →
        supportedSchema message.content = true := by
  induction calls with
  | nil => simp [decodeStream, ownContents]
  | cons call calls ih =>
    rw [List.forall_mem_cons, ← ih, decodeStream, output_eq, ownContents_cons]
    cases hmessage : call.logicalMessage with
    | none => simp [Prod.ext_iff]
    | some message =>
      cases hschema : supportedSchema message.content with
      | true => simp [Prod.ext_iff, hschema]
      | false => simp [ereport, hschema]

/-- The plugin writes exactly its own messages, and messages of others pass, exactly if every
message of the stream, its own or not, holds one of the two schema texts. -/
theorem own_messages_written_iff {options : List OutputOption} {configured : CString}
    (hstartup : qxDecodeStartup options = .ok configured) (calls : List DecodeCall) :
    (configured = (options.filterMap OutputOption.arg).getLastD "qhapaqxian".toList ∧
      WritesOwn configured calls) ↔
      ∀ call ∈ calls, ∀ message, call.logicalMessage = some message →
        supportedSchema message.content = true := by
  constructor
  · rintro ⟨-, hwritten, -⟩
    exact (decodeStream_eq_iff configured calls).mp hwritten
  · intro h
    refine ⟨configured_of_qxDecodeStartup hstartup,
      (decodeStream_eq_iff configured calls).mpr h, fun call hcall message hmessage _ => ?_⟩
    rw [output_eq, hmessage]
    simp only [h call hcall message hmessage, if_true]
    rfl

/-- A slot that is configured for its own prefix, and a message of each kind. -/
theorem slot_messages_written :
    qxDecodeStartup [⟨"prefix".toList, none⟩, ⟨"prefix".toList, some "audit".toList⟩] =
      .ok "audit".toList ∧
    WritesOwn "audit".toList
      [.beginTxn, .message ⟨"audit".toList, qxSchemaV1⟩, .message ⟨"other".toList, qxSchemaV2⟩,
        .commitTxn] := by
  have hstartup : qxDecodeStartup [⟨"prefix".toList, none⟩,
      ⟨"prefix".toList, some "audit".toList⟩] = .ok "audit".toList := by decide +kernel
  refine ⟨hstartup, ((own_messages_written_iff hstartup _).mpr ?_).2⟩
  intro call hcall message hmessage
  have hall : ∀ call ∈ [DecodeCall.beginTxn, .message ⟨"audit".toList, qxSchemaV1⟩,
      .message ⟨"other".toList, qxSchemaV2⟩, .commitTxn],
      call.logicalMessage.all (fun message => supportedSchema message.content) = true := by
    decide +kernel
  have hsupported := hall call hcall
  rw [hmessage] at hsupported
  exact hsupported

/-- A message of another application stops the stream before the plugin's own message behind it. -/
theorem foreign_message_stops_stream :
    decodeStream "qhapaqxian".toList
      [.message ⟨"other".toList, bytes "hello"⟩, .message ⟨"qhapaqxian".toList, qxSchemaV1⟩] =
      ([], some ⟨.invalidParameterValue,
        "unsupported QhapaqXian semantic schema in logical message", ""⟩) := by
  decide +kernel

end QhapaqXian
