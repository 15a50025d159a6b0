import QhapaqXian.Library.JsonSearch
import QhapaqXian.Library.Markers
import QhapaqXian.SemanticLog

/-!
# What the records of the semantic log decode to

Every record is the text of a flat JSON object with the fields it was given. The output plugin
searches the bytes of a message for the schema; in a record it finds only the field of that name.
-/

namespace QhapaqXian

open Library Library.Json

variable {field : Member}

/-! ## Escaped texts -/

lemma codeUnit_control {n : Nat} (hn : n < 32) :
    codeUnit (ascii ((Nat.toDigits 16 n).leftpad 4 '0')) = some n := by
  have hall : ∀ n < 32, codeUnit (ascii ((Nat.toDigits 16 n).leftpad 4 '0')) = some n := by
    decide +kernel
  exact hall n hn

lemma utf8_control {n : Nat} (hn : n < 32) : utf8 n = [UInt8.ofNat n] := by
  have hall : ∀ n < 32, utf8 n = [UInt8.ofNat n] := by decide +kernel
  exact hall n hn

lemma spells_escapeByte (b : UInt8) {body text : Bytes} (h : Spells body text) :
    Spells (escapeByte b ++ body) (b :: text) := by
  unfold escapeByte
  split_ifs with h8 h12 h10 h13 h9 h34 h92 hcontrol
  · subst h8
    exact .escape (.simple rfl) h
  · subst h12
    exact .escape (.simple rfl) h
  · subst h10
    exact .escape (.simple rfl) h
  · subst h13
    exact .escape (.simple rfl) h
  · subst h9
    exact .escape (.simple rfl) h
  · subst h34
    exact .escape (.simple rfl) h
  · subst h92
    exact .escape (.simple rfl) h
  · have hlt : b.toNat < 32 := UInt8.lt_iff_toNat_lt.mp hcontrol
    have hhigh : isHighSurrogate b.toNat = false := by
      simp [isHighSurrogate]
      omega
    have hlow : isLowSurrogate b.toNat = false := by
      simp [isLowSurrogate]
      omega
    have hescape := Spells.escape (.unicode (codeUnit_control hlt) hhigh hlow) h
    rw [utf8_control hlt, UInt8.ofNat_toNat] at hescape
    exact hescape
  · exact .plain ⟨UInt8.not_lt.mp hcontrol, h34, h92⟩ h

lemma spells_escaped (text : Bytes) : Spells (text.flatMap escapeByte) text := by
  induction text with
  | nil => exact .nil
  | cons b text ih =>
    rw [List.flatMap_cons]
    exact spells_escapeByte b ih

lemma escapeJson_isLiteral (text : Bytes) : IsLiteral (escapeJson text) text :=
  ⟨text.flatMap escapeByte, rfl, spells_escaped text⟩

lemma escapeByte_of_plain {b : UInt8} (h : Plain b) : escapeByte b = [b] := by
  have hne : ∀ c : UInt8, ¬ Plain c → b ≠ c := by
    rintro c hc rfl
    exact hc h
  rw [escapeByte, if_neg (hne 8 (by decide)), if_neg (hne 12 (by decide)),
    if_neg (hne 10 (by decide)), if_neg (hne 13 (by decide)), if_neg (hne 9 (by decide)),
    if_neg (hne 34 (by decide)), if_neg (hne 92 (by decide)), if_neg (UInt8.not_lt.mpr h.1)]

lemma escapeJson_of_plain {plain : Bytes} (h : ∀ b ∈ plain, Plain b) :
    escapeJson plain = 34 :: (plain ++ [34]) := by
  have hbytes : plain.flatMap escapeByte = plain.flatMap fun b => [b] :=
    List.flatMap_congr fun b hb => escapeByte_of_plain (h b hb)
  rw [escapeJson, hbytes, List.flatMap_singleton']

lemma escapeJson_injective : Function.Injective escapeJson := by
  intro text other h
  have hread := readString_append (escapeJson_isLiteral text) []
  rw [h, readString_append (escapeJson_isLiteral other)] at hread
  exact (congrArg Prod.fst (Option.some.inj hread)).symm

/-! ## Fields -/

def textValue : Option ByteText → Value
  | none => .null
  | some text => .string text.val

def valueText : Value → Bytes
  | .null => ascii (word none)
  | .bool b => ascii (word (some b))
  | .number n => decimal n
  | .string text => escapeJson text

def fieldText (field : Member) : Bytes :=
  34 :: (field.1 ++ 34 :: 58 :: valueText field.2)

lemma valueText_spec (value : Value) : ValueText value (valueText value) := by
  cases value with
  | null => exact .null
  | bool b => exact .bool b
  | number n => exact .number n
  | string text => exact .string (escapeJson_isLiteral text)

lemma fieldText_spec (h : ∀ b ∈ field.1, Plain b) :
    MemberText field (fieldText field) :=
  .intro h (valueText_spec field.2)

lemma ascii_formatUnsigned (n : Nat) : ascii (formatUnsigned n) = decimal n :=
  rfl

lemma ascii_formatSigned (n : Int) : ascii (formatSigned n) = decimal n := by
  cases n with
  | ofNat n => rfl
  | negSucc n => rfl

/-- The buffer holds these fields, with a comma behind each of them. -/
def Buffered (buf : Bytes) (fields : List Member) : Prop :=
  buf = 123 :: (fields.map fieldText).flatMap (· ++ [44])

section append

variable {buf : Bytes} {fields : List Member}

lemma Buffered.concat (h : Buffered buf fields) (field : Member) :
    Buffered (buf ++ (fieldText field ++ [44])) (fields ++ [field]) := by
  rw [Buffered, h]
  simp

lemma Buffered.string (h : Buffered buf fields) (key : String) (value : Option ByteText) :
    Buffered (qxJsonAppendStringField buf key value true)
      (fields ++ [(bytes key, textValue value)]) := by
  have hnull : bytes "null" = ascii (word none) := by decide +kernel
  have hconcat := h.concat (bytes key, textValue value)
  cases value with
  | none =>
    simpa [qxJsonAppendStringField, withComma, keyText, fieldText, valueText, textValue, hnull]
      using hconcat
  | some text =>
    simpa [qxJsonAppendStringField, withComma, keyText, fieldText, valueText, textValue]
      using hconcat

lemma Buffered.oid (h : Buffered buf fields) (key : String) (value : Oid) :
    Buffered (qxJsonAppendOidField buf key value true)
      (fields ++ [(bytes key, .number value)]) := by
  simpa [qxJsonAppendOidField, withComma, keyText, fieldText, valueText, ascii_formatUnsigned]
    using h.concat (bytes key, .number value)

lemma Buffered.int32 (h : Buffered buf fields) (key : String) (value : Int) :
    Buffered (qxJsonAppendInt32Field buf key value true)
      (fields ++ [(bytes key, .number value)]) := by
  simpa [qxJsonAppendInt32Field, withComma, keyText, fieldText, valueText, ascii_formatSigned]
    using h.concat (bytes key, .number value)

lemma Buffered.bool (h : Buffered buf fields) (key : String) (value : Bool) :
    Buffered (qxJsonAppendBoolField buf key value true)
      (fields ++ [(bytes key, .bool value)]) := by
  have hword : bytes (if value then "true" else "false") = ascii (word (some value)) := by
    cases value <;> decide +kernel
  simpa [qxJsonAppendBoolField, withComma, keyText, fieldText, valueText, hword]
    using h.concat (bytes key, .bool value)

lemma Buffered.char (h : Buffered buf fields) (key : String) {value : Char}
    (hvalue : ∀ b ∈ ascii [value], Plain b) :
    Buffered (qxJsonAppendCharField buf key value true)
      (fields ++ [(bytes key, .string (ascii [value]))]) := by
  have hliteral := escapeJson_of_plain hvalue
  simpa [qxJsonAppendCharField, withComma, keyText, fieldText, valueText, hliteral]
    using h.concat (bytes key, .string (ascii [value]))

lemma Buffered.finish (h : Buffered buf fields) (key : String) (value : Option ByteText) :
    qxJsonAppendStringField buf key value false ++ [125] =
      joinMembers (fields.map fieldText) (fieldText (bytes key, textValue value)) := by
  have hnull : bytes "null" = ascii (word none) := by decide +kernel
  rw [Buffered] at h
  cases value with
  | none => simp [qxJsonAppendStringField, withComma, keyText, fieldText, valueText, textValue,
      hnull, joinMembers, h]
  | some text => simp [qxJsonAppendStringField, withComma, keyText, fieldText, valueText, textValue,
      joinMembers, h]

end append

/-! ## Records -/

def metadataFields : Option QxSemanticExecutionMetadata → List Member
  | none => []
  | some metadata =>
    [ (bytes "provider_name", textValue metadata.providerName),
      (bytes "provider_kind", textValue metadata.providerKind),
      (bytes "provider_endpoint", textValue metadata.providerEndpoint),
      (bytes "principal_name", textValue metadata.principalName),
      (bytes "principal_runtime", textValue metadata.principalRuntime),
      (bytes "sandbox_name", textValue metadata.sandboxName),
      (bytes "profile_name", textValue metadata.profileName),
      (bytes "environment_mode", textValue metadata.environmentMode),
      (bytes "workdir_name", textValue metadata.workdirName),
      (bytes "launch_mode", textValue metadata.launchMode),
      (bytes "receipt_schema", textValue metadata.receiptSchema),
      (bytes "receipt_alg", textValue metadata.receiptAlg),
      (bytes "receipt_nonce", textValue metadata.receiptNonce),
      (bytes "attestation_mode", textValue metadata.attestationMode),
      (bytes "timeout_ms", .number metadata.timeoutMs),
      (bytes "process_limit", .number metadata.processLimit),
      (bytes "wall_time_ms", .number metadata.wallTimeMs),
      (bytes "token_charge", .number metadata.tokenCharge),
      (bytes "cost_charge", .number metadata.costCharge),
      (bytes "path_present", .bool metadata.pathPresent),
      (bytes "restricted_identity", .bool metadata.restrictedIdentity) ]

lemma Buffered.metadata {buf : Bytes} {fields : List Member} (h : Buffered buf fields)
    (metadata : Option QxSemanticExecutionMetadata) :
    Buffered (qxJsonAppendExecutionMetadataFields buf metadata)
      (fields ++ metadataFields metadata) := by
  cases metadata with
  | none =>
    rw [metadataFields, List.append_nil]
    exact h
  | some metadata =>
    have hall := h
      |>.string "provider_name" metadata.providerName
      |>.string "provider_kind" metadata.providerKind
      |>.string "provider_endpoint" metadata.providerEndpoint
      |>.string "principal_name" metadata.principalName
      |>.string "principal_runtime" metadata.principalRuntime
      |>.string "sandbox_name" metadata.sandboxName
      |>.string "profile_name" metadata.profileName
      |>.string "environment_mode" metadata.environmentMode
      |>.string "workdir_name" metadata.workdirName
      |>.string "launch_mode" metadata.launchMode
      |>.string "receipt_schema" metadata.receiptSchema
      |>.string "receipt_alg" metadata.receiptAlg
      |>.string "receipt_nonce" metadata.receiptNonce
      |>.string "attestation_mode" metadata.attestationMode
      |>.int32 "timeout_ms" metadata.timeoutMs
      |>.int32 "process_limit" metadata.processLimit
      |>.int32 "wall_time_ms" metadata.wallTimeMs
      |>.int32 "token_charge" metadata.tokenCharge
      |>.int32 "cost_charge" metadata.costCharge
      |>.bool "path_present" metadata.pathPresent
      |>.bool "restricted_identity" metadata.restrictedIdentity
    simp only [List.append_assoc, List.cons_append, List.nil_append] at hall
    exact hall

inductive SemanticRecord
  | event (record : SemanticEvent)
  | trace (record : SemanticTrace)
  | checkpoint (record : SemanticCheckpoint)

namespace SemanticRecord

def encode (schema : ByteText) (metadata : Option QxSemanticExecutionMetadata) :
    SemanticRecord → Bytes
  | event e => e.encode schema metadata
  | trace t => t.encode schema metadata
  | checkpoint c => c.encode schema metadata

def emit (metadata : Option QxSemanticExecutionMetadata) : SemanticRecord → LogicalMessage
  | event e => qxEmitSemanticEventRecordV2 e metadata
  | trace t => qxEmitSemanticTraceRecordV2 t metadata
  | checkpoint c => qxEmitSemanticCheckpointRecordV2 c metadata

def head (schema : ByteText) : SemanticRecord → List Member
  | event e =>
    [ (bytes "schema", .string schema.val),
      (bytes "record_kind", .string (bytes "event")),
      (bytes "channel", .string (bytes "qx.event")),
      (bytes "record_oid", .number e.eventoid),
      (bytes "session_oid", .number e.sessionoid),
      (bytes "task_oid", .number e.taskoid),
      (bytes "step_oid", .number e.stepoid),
      (bytes "owner_oid", .number e.ownerid) ]
  | trace t =>
    [ (bytes "schema", .string schema.val),
      (bytes "record_kind", .string (bytes "trace")),
      (bytes "channel", .string (bytes "qx.trace")),
      (bytes "record_oid", .number t.traceoid),
      (bytes "session_oid", .number t.sessionoid),
      (bytes "task_oid", .number t.taskoid),
      (bytes "step_oid", .number t.stepoid),
      (bytes "owner_oid", .number t.ownerid),
      (bytes "state", .string (ascii [t.state.code])) ]
  | checkpoint c =>
    [ (bytes "schema", .string schema.val),
      (bytes "record_kind", .string (bytes "checkpoint")),
      (bytes "channel", .string (bytes "qx.checkpoint")),
      (bytes "record_oid", .number c.checkpointoid),
      (bytes "session_oid", .number c.sessionoid),
      (bytes "task_oid", .number c.taskoid),
      (bytes "attempt_oid", .number c.attemptoid),
      (bytes "step_oid", .number c.stepoid),
      (bytes "owner_oid", .number c.ownerid) ]

def middle : SemanticRecord → List Member
  | event e => [(bytes "kind", textValue e.kind)]
  | trace t => [(bytes "name", textValue t.name)]
  | checkpoint c =>
    [ (bytes "checkpoint_state", .string (ascii [c.checkpointState.code])),
      (bytes "task_state", .string (ascii [c.taskState.code])),
      (bytes "next_step_seqno", .number c.nextstepseqno),
      (bytes "label", textValue c.label) ]

def last : SemanticRecord → Member
  | event e => (bytes "payload", textValue e.payload)
  | trace t => (bytes "detail", textValue t.detail)
  | checkpoint c => (bytes "data", textValue c.data)

def front (schema : ByteText) (metadata : Option QxSemanticExecutionMetadata)
    (record : SemanticRecord) : List Member :=
  record.head schema ++ metadataFields metadata ++ record.middle

def fields (schema : ByteText) (metadata : Option QxSemanticExecutionMetadata)
    (record : SemanticRecord) : List Member :=
  record.front schema metadata ++ [record.last]

lemma plain_taskState (state : TaskState) : ∀ b ∈ ascii [state.code], Plain b :=
  List.forall_mem_singleton.mpr (by cases state <;> decide)

lemma plain_traceState (state : TraceState) : ∀ b ∈ ascii [state.code], Plain b :=
  List.forall_mem_singleton.mpr (by cases state <;> decide)

lemma plain_checkpointState (state : CheckpointState) : ∀ b ∈ ascii [state.code], Plain b :=
  List.forall_mem_singleton.mpr (by cases state; decide)

lemma buffered_recordHead (schema recordKind channel : ByteText) :
    Buffered (recordHead schema recordKind channel)
      [ (bytes "schema", .string schema.val), (bytes "record_kind", .string recordKind.val),
        (bytes "channel", .string channel.val) ] :=
  have hstart : Buffered [123] [] := rfl
  hstart
    |>.string "schema" (some schema)
    |>.string "record_kind" (some recordKind)
    |>.string "channel" (some channel)

lemma encode_eq (schema : ByteText) (metadata : Option QxSemanticExecutionMetadata)
    (record : SemanticRecord) :
    record.encode schema metadata =
      joinMembers ((record.front schema metadata).map fieldText) (fieldText record.last) := by
  cases record with
  | event e =>
    have hfront := buffered_recordHead schema (constText "event" (by decide +kernel))
        (constText "qx.event" (by decide +kernel))
      |>.oid "record_oid" e.eventoid
      |>.oid "session_oid" e.sessionoid
      |>.oid "task_oid" e.taskoid
      |>.oid "step_oid" e.stepoid
      |>.oid "owner_oid" e.ownerid
      |>.metadata metadata
      |>.string "kind" e.kind
    exact hfront.finish "payload" e.payload
  | trace t =>
    have hfront := buffered_recordHead schema (constText "trace" (by decide +kernel))
        (constText "qx.trace" (by decide +kernel))
      |>.oid "record_oid" t.traceoid
      |>.oid "session_oid" t.sessionoid
      |>.oid "task_oid" t.taskoid
      |>.oid "step_oid" t.stepoid
      |>.oid "owner_oid" t.ownerid
      |>.char "state" (plain_traceState t.state)
      |>.metadata metadata
      |>.string "name" t.name
    exact hfront.finish "detail" t.detail
  | checkpoint c =>
    have hfront := buffered_recordHead schema (constText "checkpoint" (by decide +kernel))
        (constText "qx.checkpoint" (by decide +kernel))
      |>.oid "record_oid" c.checkpointoid
      |>.oid "session_oid" c.sessionoid
      |>.oid "task_oid" c.taskoid
      |>.oid "attempt_oid" c.attemptoid
      |>.oid "step_oid" c.stepoid
      |>.oid "owner_oid" c.ownerid
      |>.metadata metadata
      |>.char "checkpoint_state" (plain_checkpointState c.checkpointState)
      |>.char "task_state" (plain_taskState c.taskState)
      |>.int32 "next_step_seqno" c.nextstepseqno
      |>.string "label" c.label
    simp only [List.append_assoc, List.cons_append, List.nil_append] at hfront
    exact hfront.finish "data" c.data

inductive Kind
  | event
  | trace
  | checkpoint

def kind : SemanticRecord → Kind
  | event _ => .event
  | trace _ => .trace
  | checkpoint _ => .checkpoint

def metadataKeys : List String :=
  ["provider_name", "provider_kind", "provider_endpoint", "principal_name", "principal_runtime",
    "sandbox_name", "profile_name", "environment_mode", "workdir_name", "launch_mode",
    "receipt_schema", "receipt_alg", "receipt_nonce", "attestation_mode", "timeout_ms",
    "process_limit", "wall_time_ms", "token_charge", "cost_charge", "path_present",
    "restricted_identity"]

def Kind.keys (withMetadata : Bool) : Kind → List String
  | event =>
    ["schema", "record_kind", "channel", "record_oid", "session_oid", "task_oid", "step_oid",
      "owner_oid"] ++ (if withMetadata then metadataKeys else []) ++ ["kind", "payload"]
  | trace =>
    ["schema", "record_kind", "channel", "record_oid", "session_oid", "task_oid", "step_oid",
      "owner_oid", "state"] ++ (if withMetadata then metadataKeys else []) ++ ["name", "detail"]
  | checkpoint =>
    ["schema", "record_kind", "channel", "record_oid", "session_oid", "task_oid", "attempt_oid",
      "step_oid", "owner_oid"] ++ (if withMetadata then metadataKeys else []) ++
      ["checkpoint_state", "task_state", "next_step_seqno", "label", "data"]

/-- The keys of all records; each record has some of them, in this order. -/
def allKeys : List String :=
  ["schema", "record_kind", "channel", "record_oid", "session_oid", "task_oid", "attempt_oid",
    "step_oid", "owner_oid", "state"] ++ metadataKeys ++
    ["kind", "payload", "name", "detail", "checkpoint_state", "task_state", "next_step_seqno",
      "label", "data"]

lemma keys_sublist (kind : Kind) (withMetadata : Bool) :
    (kind.keys withMetadata).Sublist allKeys := by
  have hmetadata : (if withMetadata then metadataKeys else []).Sublist metadataKeys := by
    cases withMetadata with
    | false => exact List.nil_sublist _
    | true => exact List.Sublist.refl _
  cases kind <;>
    refine (List.Sublist.append ?_ hmetadata).append ?_ <;>
    repeat first
      | exact List.nil_sublist _
      | apply List.Sublist.cons_cons
      | apply List.Sublist.cons

lemma nodup_keys (kind : Kind) (withMetadata : Bool) :
    ((kind.keys withMetadata).map bytes).Nodup := by
  have hall : (allKeys.map bytes).Nodup := by decide +kernel
  exact hall.sublist ((keys_sublist kind withMetadata).map bytes)

lemma plain_keys (kind : Kind) (withMetadata : Bool) :
    ∀ key ∈ (kind.keys withMetadata).map bytes, ∀ b ∈ key, Plain b := by
  have hall : ∀ key ∈ allKeys.map bytes, key.all (fun b => decide (Plain b)) = true := by
    decide +kernel
  intro key hkey
  exact plain_of_all (hall key (((keys_sublist kind withMetadata).map bytes).subset hkey))

lemma map_fst_fields (schema : ByteText) (metadata : Option QxSemanticExecutionMetadata)
    (record : SemanticRecord) :
    (record.fields schema metadata).map Prod.fst =
      (record.kind.keys metadata.isSome).map bytes := by
  cases record <;> cases metadata <;> rfl

lemma plain_fields {schema : ByteText} {metadata : Option QxSemanticExecutionMetadata}
    {record : SemanticRecord} (h : field ∈ record.fields schema metadata) :
    ∀ b ∈ field.1, Plain b := by
  apply plain_keys record.kind metadata.isSome
  rw [← map_fst_fields schema]
  exact List.mem_map_of_mem h

lemma memberText_front {schema : ByteText} {metadata : Option QxSemanticExecutionMetadata}
    {record : SemanticRecord} (h : field ∈ record.front schema metadata) :
    MemberText field (fieldText field) :=
  fieldText_spec (plain_fields (List.mem_append_left _ h))

lemma memberText_last (record : SemanticRecord) : MemberText record.last (fieldText record.last) :=
  have hmem : record.last ∈ record.fields semanticSchemaV1 none := by simp [fields]
  fieldText_spec (plain_fields hmem)

lemma forall_front (schema : ByteText) (metadata : Option QxSemanticExecutionMetadata)
    (record : SemanticRecord) :
    ∀ text ∈ (record.front schema metadata).map fieldText, ∃ member, MemberText member text := by
  intro text htext
  obtain ⟨field, hfield, rfl⟩ := List.mem_map.mp htext
  exact ⟨field, memberText_front hfield⟩

lemma schema_mem_fields (schema : ByteText) (metadata : Option QxSemanticExecutionMetadata)
    (record : SemanticRecord) :
    (bytes "schema", Value.string schema.val) ∈ record.fields schema metadata := by
  cases record <;> exact List.mem_cons_self

lemma encode_objectText (schema : ByteText) (metadata : Option QxSemanticExecutionMetadata)
    (record : SemanticRecord) :
    ObjectText (record.fields schema metadata) (record.encode schema metadata) := by
  rw [encode_eq]
  apply ObjectText.intro
  · rw [List.forall₂_map_right_iff, List.forall₂_same]
    intro field hfield
    exact memberText_front hfield
  · exact memberText_last record

end SemanticRecord

lemma fieldText_eq_searchText_iff {key value : Bytes} (hfield : ∀ b ∈ field.1, Plain b)
    (h : Searchable key value) :
    fieldText field = searchText key value ↔ field = (key, .string value) := by
  obtain ⟨name, v⟩ := field
  constructor
  · intro heq
    have htext : name ++ 34 :: 58 :: valueText v = key ++ 34 :: 58 :: 34 :: (value ++ [34]) :=
      (List.cons.inj heq).2
    have hprefix : key ++ 34 :: 58 :: 34 :: (value ++ [34]) <+: name ++ 34 :: 58 :: valueText v := by
      rw [htext]
    obtain ⟨rfl, -⟩ := (spells_plain hfield).eq_of_prefixed h.plainKey hprefix
    have hvalue : valueText v = 34 :: (value ++ [34]) := by simpa using htext
    have hquote : 34 ∈ valueText v := by
      rw [hvalue]
      exact List.mem_cons_self
    cases v with
    | null => exact absurd hquote (by decide)
    | bool b => cases b <;> exact absurd hquote (by decide)
    | number n => exact absurd hquote (notMem_decimal n rfl (by decide))
    | string text =>
      rw [← escapeJson_of_plain h.plainValue] at hvalue
      rw [escapeJson_injective hvalue]
  · rintro ⟨rfl, rfl⟩
    simp only [fieldText, valueText, escapeJson_of_plain h.plainValue, searchText]

lemma searchText_infix_encode_iff {value : Bytes} (hvalue : ∀ b ∈ value, Plain b)
    (schema : ByteText) (metadata : Option QxSemanticExecutionMetadata) (record : SemanticRecord) :
    searchText (bytes "schema") value <:+: record.encode schema metadata ↔
      schema.val = value := by
  have hsearch : Searchable (bytes "schema") value :=
    ⟨plain_of_all (by decide +kernel),
      ⟨115, by decide +kernel, by decide, by unfold Separator; decide⟩, hvalue⟩
  have hall : (record.front schema metadata).map fieldText ++ [fieldText record.last] =
      (record.fields schema metadata).map fieldText := by simp [SemanticRecord.fields]
  rw [SemanticRecord.encode_eq, hsearch.infix_joinMembers (record.forall_front schema metadata)
    ⟨_, record.memberText_last⟩, hall, List.mem_map]
  constructor
  · rintro ⟨field, hfield, htext⟩
    rw [fieldText_eq_searchText_iff (SemanticRecord.plain_fields hfield) hsearch] at htext
    subst htext
    -- there is one field of that name
    have hnodup : ((record.fields schema metadata).map Prod.fst).Nodup := by
      rw [SemanticRecord.map_fst_fields]
      exact SemanticRecord.nodup_keys _ _
    have heq := List.inj_on_of_nodup_map hnodup (record.schema_mem_fields schema metadata) hfield
      rfl
    exact Value.string.inj (congrArg Prod.snd heq)
  · rintro rfl
    refine ⟨_, record.schema_mem_fields schema metadata, ?_⟩
    rw [fieldText_eq_searchText_iff (SemanticRecord.plain_fields
      (record.schema_mem_fields schema metadata)) hsearch]

/-- A record, with any text in the field of its schema, passes the check of the output plugin
exactly if it holds the name of a version. -/
lemma qxValidateSemanticSchema_encode_iff (schema : ByteText)
    (metadata : Option QxSemanticExecutionMetadata) (record : SemanticRecord) :
    qxValidateSemanticSchema (record.encode schema metadata) = .ok () ↔
      schema = semanticSchemaV1 ∨ schema = semanticSchemaV2 := by
  have hzero : 0 ∉ record.encode schema metadata := by
    rw [SemanticRecord.encode_eq]
    exact zero_notMem_joinMembers (record.forall_front schema metadata)
      ⟨_, record.memberText_last⟩
  have hv1 : qxSchemaV1 = searchText (bytes "schema") semanticSchemaV1.val := by decide +kernel
  have hv2 : qxSchemaV2 = searchText (bytes "schema") semanticSchemaV2.val := by decide +kernel
  have hsupported : supportedSchema (record.encode schema metadata) = true ↔
      schema = semanticSchemaV1 ∨ schema = semanticSchemaV2 := by
    rw [supportedSchema, upTo_of_notMem hzero, Bool.or_eq_true, strstr_isSome_iff,
      strstr_isSome_iff, hv1, hv2, searchText_infix_encode_iff (plain_of_all (by decide +kernel)),
      searchText_infix_encode_iff (plain_of_all (by decide +kernel)), Subtype.ext_iff,
      Subtype.ext_iff]
  rw [← hsupported, qxValidateSemanticSchema]
  cases supportedSchema (record.encode schema metadata) with
  | true => exact ⟨fun _ => rfl, fun _ => rfl⟩
  | false => exact ⟨nofun, nofun⟩

/-- Every record decodes to the fields it was given, each under a key of its own, and its schema is
recognised whatever its texts hold. -/
theorem semantic_record_decodes (record : SemanticRecord)
    (metadata : Option QxSemanticExecutionMetadata) :
    readObject (record.emit metadata).content =
        some (record.fields (recordSchema metadata) metadata) ∧
      ((record.fields (recordSchema metadata) metadata).map Prod.fst).Nodup ∧
      ∀ schema, qxValidateSemanticSchema (record.encode schema metadata) = .ok () ↔
        schema = semanticSchemaV1 ∨ schema = semanticSchemaV2 := by
  have hcontent : (record.emit metadata).content =
      record.encode (recordSchema metadata) metadata := by
    cases record <;> rfl
  refine ⟨?_, ?_, ?_⟩
  · rw [hcontent]
    exact readObject_eq (record.encode_objectText (recordSchema metadata) metadata)
  · rw [SemanticRecord.map_fst_fields]
    exact SemanticRecord.nodup_keys _ _
  · intro schema
    exact qxValidateSemanticSchema_encode_iff schema metadata record

end QhapaqXian
