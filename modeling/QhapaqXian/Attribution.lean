import QhapaqXian.ContractExecution
import QhapaqXian.Stat

/-!
# The attribution of traces

`qx_stat_report_from_trace`: the name of a trace says what to count, and the names in its detail,
looked up in the schema `public`, for whom.
-/

namespace QhapaqXian

/-- The objects of a database and its schema `public`, if there is one. -/
structure SchemaLayout where
  policy : PolicyCatalog
  publicNamespace : Option Oid

namespace SchemaLayout

/-- `get_namespace_oid("public", false)`. -/
def getPublicNamespace (layout : SchemaLayout) : Except QxError Oid :=
  match layout.publicNamespace with
  | some namespaceoid => .ok namespaceoid
  | none => ereport .undefinedSchema "schema \"public\" does not exist"

/-- An object of the schema `public`; no name and no object give an invalid identifier. -/
def lookupPublicOid (layout : SchemaLayout) (lookup : Oid → CString → Option Oid) :
    Option CString → Except QxError Oid
  | none | some [] => .ok invalidOid
  | some name => do
    let namespaceoid ← layout.getPublicNamespace
    return (lookup namespaceoid name).getD invalidOid

def qxStatLookupProviderOid (layout : SchemaLayout) : Option CString → Except QxError Oid :=
  layout.lookupPublicOid fun namespaceoid name =>
    (layout.policy.lookupProviderByName namespaceoid name).map ProviderRow.oid

def qxStatLookupPrincipalOid (layout : SchemaLayout) : Option CString → Except QxError Oid :=
  layout.lookupPublicOid fun namespaceoid name =>
    (layout.policy.lookupPrincipalByName namespaceoid name).map PrincipalRow.oid

end SchemaLayout

def isExternalTrace (name : CString) : Bool :=
  name == externalTraceName .submit || name == externalTraceName .resume

/-- The report of an external execution: to its provider, its principal and its runtime class. -/
def reportExecution (collector : Collector) (layout : SchemaLayout) (dboid : Oid)
    (detail : CString) (resume checkpointed : Bool) : Except QxError Collector := do
  let receiptVerified :=
    qxObserveTraceDetailValue detail "receipt_sig".toList == some "verified".toList
  let provideroid ←
    layout.qxStatLookupProviderOid (qxObserveTraceDetailValue detail "provider".toList)
  let collector := qxStatReportProviderExecution collector dboid provideroid resume receiptVerified
  let principaloid ←
    layout.qxStatLookupPrincipalOid (qxObserveTraceDetailValue detail "principal".toList)
  let collector :=
    qxStatReportPrincipalExecution collector dboid principaloid resume checkpointed receiptVerified
  return qxStatReportRuntimeClassExecution collector dboid
    (qxObserveTraceDetailValue detail "principal_runtime".toList) resume checkpointed
    receiptVerified

def qxStatReportFromTrace (collector : Collector) (layout : SchemaLayout) (dboid : Oid)
    (name detail : CString) : Except QxError Collector :=
  if !collector.trackStats then .ok collector
  else
    let principalRuntime := qxObserveTraceDetailValue detail "principal_runtime".toList
    let resume := name == externalTraceName .resume
    let checkpointed := name == checkpointTraceName || name == finalCheckpointTraceName
    if isExternalTrace name then
      reportExecution collector layout dboid detail resume checkpointed
    else if checkpointed && !isNullOrEmpty principalRuntime then
      .ok (qxStatReportRuntimeClassExecution collector dboid principalRuntime false true false)
    else if name == retryDispatchTraceName then
      .ok (qxStatReportSchedulerEvent collector dboid .retryDispatch)
    else if name == deadLetterTraceName then
      .ok (qxStatReportSchedulerEvent collector dboid .deadLetter)
    else .ok collector

end QhapaqXian
