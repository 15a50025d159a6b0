import QhapaqXian.Security

/-!
# Reading a tool contract back

A contract is written without escaping and read by searching for `key=`. The runtime gets the
catalog's value of every field exactly when no field's text holds the separator or stands in for
a later field.
-/

namespace QhapaqXian

open Library

def contractKeys : List CString :=
  ["tool", "handler", "tool_sandbox", "tool_sandbox_ceiling", "tool_capability_tags", "principal",
    "principal_sandbox", "principal_runtime", "program", "receipt_signer", "provider",
    "provider_oid", "provider_kind", "provider_endpoint", "provider_attestation",
    "receipt_schema", "receipt_alg"].map String.toList

lemma contractFields_keys (tool : ToolInfo) (runtimeClass ceiling tags : CString) :
    (contractFields tool runtimeClass ceiling tags).map Prod.fst = contractKeys := rfl

lemma contractKeys_searchable : SearchableNames '=' ';' contractKeys where
  eq_notMem := by decide +kernel
  sep_notMem := by decide +kernel
  not_suffix := by decide +kernel

lemma toolContract_eq_renderFields (cat : PolicyCatalog) (row : ToolRow) :
    toolContract cat row = renderFields '=' ';' (toolContractFields cat row) := rfl

lemma toolContractFields_keys (cat : PolicyCatalog) (row : ToolRow) :
    (toolContractFields cat row).map Prod.fst = contractKeys :=
  contractFields_keys _ _ _ _

lemma qxContractValue_toolContract (cat : PolicyCatalog) (row : ToolRow) {key : CString}
    (hkey : key ∈ contractKeys) :
    (qxContractValue (some (toolContract cat row)) key).isSome = true := by
  have hnames : SearchableNames '=' ';' ((toolContractFields cat row).map Prod.fst) := by
    rw [toolContractFields_keys]
    exact contractKeys_searchable
  rw [← toolContractFields_keys cat row] at hkey
  obtain ⟨field, hfield, rfl⟩ := List.mem_map.mp hkey
  obtain ⟨earlier, later, hsplit⟩ := List.append_of_mem hfield
  have hread := fieldValue_of_split (by decide : '=' ≠ ';') hnames hsplit
  rw [toolContract_eq_renderFields, qxContractValue, Option.bind_some, hread]
  rfl

/-- No field text holds a `;`, and where an earlier text holds `key=` of a later field, what
follows it there is that field's own value. -/
structure ContractTextsSeparate (fields : List (CString × CString)) : Prop where
  no_separator : ∀ field ∈ fields, ';' ∉ field.2
  no_stand_in : ∀ earlier field later, fields = earlier ++ field :: later →
    ∀ value, shadow '=' field.1 earlier = some value → value = field.2

/-- The runtime reads the catalog value of every field of a tool's contract exactly when the
field texts are separate. -/
theorem toolContract_reads_catalog_iff (cat : PolicyCatalog) (row : ToolRow) :
    (∀ field ∈ toolContractFields cat row,
      qxContractValue (some (toolContract cat row)) field.1 = some field.2) ↔
      ContractTextsSeparate (toolContractFields cat row) := by
  have hnames : SearchableNames '=' ';' ((toolContractFields cat row).map Prod.fst) := by
    rw [toolContractFields_keys]
    exact contractKeys_searchable
  have hiff := fieldValue_reads_back_iff (by decide : '=' ≠ ';') _ hnames
  rw [toolContract_eq_renderFields]
  constructor
  · intro hread
    obtain ⟨hsep, hstand⟩ := hiff.mp hread
    exact ⟨hsep, hstand⟩
  · intro hclean
    exact hiff.mpr ⟨hclean.no_separator, hclean.no_stand_in⟩

/-! ## A handler that replaces the program -/

def injectionSession : PolicySession where
  userId := 10
  searchPath := [2200]
  creationNamespace := 2200
  namespaceName _ := "public"
  hasCreate _ := true
  hasPrivsOfRole _ _ := true
  useOpenSSL := true

def injectionProvider : CreateProviderStmt where
  providerName := ⟨none, "local".toList⟩
  kind := "loopback".toList
  endpoint := "local://runner".toList
  receiptAlg := none
  receiptKey := some "bootstrap-key".toList
  attestationProfile := none
  attestationVersion := none
  attestationPolicy := none
  attestationRequired := false

def injectionPrincipal : CreatePrincipalStmt where
  principalName := ⟨none, "ops".toList⟩
  program := "qhapaqxian-tool-runner".toList
  sandbox := "restricted".toList
  runtimeClass := none
  providerName := "local".toList
  receiptSigner := none
  attestationProfile := none
  attestationVersion := none
  attestationPolicy := none

def injectionTool : CreateToolStmt where
  toolName := ⟨none, "search".toList⟩
  handler := "search;program=/tmp/other".toList
  sandbox := "builtin".toList
  principalName := "ops".toList
  tokenCost := 4
  costUnits := 2
  policyName := none

def injectionCatalog : Except QxError PolicyCatalog := do
  let cat ← createProviderCommand injectionSession .counting injectionProvider ⟨[], [], [], []⟩
  let cat ← createPrincipalCommand injectionSession .counting injectionPrincipal cat
  createToolCommand injectionSession .counting injectionTool cat

/-- A tool admitted by the commands whose handler text makes the runtime execute another program
than its principal's. -/
theorem toolContract_handler_replaces_program :
    ∃ cat ∈ injectionCatalog.toOption, ∃ row ∈ cat.tools,
      ("program".toList, "qhapaqxian-tool-runner".toList) ∈ toolContractFields cat row ∧
      qxContractValue (some (toolContract cat row)) "program".toList =
        some "/tmp/other".toList := by
  decide +kernel

end QhapaqXian
