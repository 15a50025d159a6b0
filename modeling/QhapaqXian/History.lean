import QhapaqXian.Policy
import QhapaqXian.Stat

/-!
# The durable history of the statistics

`pg_qx_stat_snapshot` copies counters into rows of `pg_qx_stat_history`, `pg_qx_stat_get_history`
returns the rows of a scope and `pg_qx_stat_prune_history` deletes the old ones.
-/

namespace QhapaqXian

open Library

/-- `DT_NOBEGIN`, the earliest timestamp. -/
def dtNobegin : TimestampTz := -9223372036854775808

/-- `(int32) Min(count, INT_MAX)`. -/
def clipInt32 (count : Nat) : Nat :=
  min count 2147483647

structure HistoryCounters where
  submitCount : Nat
  resumeCount : Nat
  verifiedReceipts : Nat
  rejectedReceipts : Nat
  checkpointCount : Nat
  renewCount : Nat
  reclaimCount : Nat
  releaseCount : Nat
  retryDispatchCount : Nat
  deadLetterCount : Nat
  startupScanCount : Nat
  failoverRebuildCount : Nat
  tasksRequeued : Nat
  deriving Repr, DecidableEq

def StatCounters.clipped (counters : StatCounters) : HistoryCounters where
  submitCount := clipInt32 counters.submitCount
  resumeCount := clipInt32 counters.resumeCount
  verifiedReceipts := clipInt32 counters.verifiedReceipts
  rejectedReceipts := clipInt32 counters.rejectedReceipts
  checkpointCount := clipInt32 counters.checkpointCount
  renewCount := clipInt32 counters.renewCount
  reclaimCount := clipInt32 counters.reclaimCount
  releaseCount := clipInt32 counters.releaseCount
  retryDispatchCount := clipInt32 counters.retryDispatchCount
  deadLetterCount := clipInt32 counters.deadLetterCount
  startupScanCount := clipInt32 counters.recoveryStartupScans
  failoverRebuildCount := clipInt32 counters.recoveryFailoverRebuilds
  tasksRequeued := clipInt32 counters.recoveryTasksRequeued

inductive HistoryScope
  | provider
  | principal
  | runtimeClass
  | scheduler
  | recovery
  deriving Repr, DecidableEq

def HistoryScope.name : HistoryScope → CString
  | provider => "provider".toList
  | principal => "principal".toList
  | runtimeClass => "runtime_class".toList
  | scheduler => "scheduler".toList
  | recovery => "recovery".toList

structure HistoryRow where
  oid : Oid
  dboid : Oid
  captured : TimestampTz
  captured_ge : dtNobegin ≤ captured
  entityoid : Oid
  counters : HistoryCounters
  scope : HistoryScope
  entity : Option CString
  deriving Repr, DecidableEq

structure HistorySession where
  myDatabaseId : Oid
  clock : Nat → TimestampTz
  clock_ge : ∀ reading, dtNobegin ≤ clock reading
  newOid : List Oid → Oid

/-! ## Snapshots -/

def qxStatScopeMatches (requested candidate : CString) : Bool :=
  pgStrcaseEq requested "all".toList || pgStrcaseEq requested candidate

structure SnapshotEntry where
  scope : HistoryScope
  entityoid : Oid
  entity : CString
  counters : StatCounters

def qxStatInsertHistoryRow (session : HistorySession) (reading : Nat) (history : List HistoryRow)
    (entry : SnapshotEntry) : List HistoryRow :=
  history ++
    [{ oid := session.newOid (history.map HistoryRow.oid)
       dboid := session.myDatabaseId
       captured := session.clock reading
       captured_ge := session.clock_ge reading
       entityoid := entry.entityoid
       counters := entry.counters.clipped
       scope := entry.scope
       entity := if entry.entity = [] then none else some entry.entity }]

local instance : LawfulBEq CString := inferInstance

def qxCatalogBuildDistinctRuntimeClassList (principals : List PrincipalRow) : List CString :=
  principals.foldl (fun classes principal =>
    match principal.runtimeClass with
    | none | some [] => classes
    | some runtimeClass =>
      if runtimeClass ∈ classes then classes else classes ++ [runtimeClass]) []

def snapshotEntries (dboid : Oid) (policy : PolicyCatalog) (slots : Slots StatSlot)
    (scope : CString) : List SnapshotEntry :=
  (if qxStatScopeMatches scope (HistoryScope.name .provider) then
    policy.providers.map fun provider =>
      ⟨.provider, provider.oid, provider.name,
        heldCounters slots (providerKey dboid provider.oid)⟩
  else []) ++
  (if qxStatScopeMatches scope (HistoryScope.name .principal) then
    policy.principals.map fun principal =>
      ⟨.principal, principal.oid, principal.name,
        heldCounters slots (principalKey dboid principal.oid)⟩
  else []) ++
  (if qxStatScopeMatches scope (HistoryScope.name .runtimeClass) then
    (qxCatalogBuildDistinctRuntimeClassList policy.principals).map fun runtimeClass =>
      ⟨.runtimeClass, invalidOid, runtimeClass,
        heldCounters slots (runtimeClassKey dboid runtimeClass)⟩
  else []) ++
  (if qxStatScopeMatches scope (HistoryScope.name .scheduler) ||
      qxStatScopeMatches scope "scheduler_activity".toList then
    [⟨.scheduler, invalidOid, "scheduler_activity".toList,
      qxStatAggregateScheduler slots dboid⟩]
  else []) ++
  (if qxStatScopeMatches scope (HistoryScope.name .recovery) then
    [⟨.recovery, invalidOid, "recovery".toList, heldCounters slots (recoveryKey dboid)⟩]
  else [])

def insertHistoryRows (session : HistorySession) : Nat → List HistoryRow → List SnapshotEntry →
    List HistoryRow
  | _, history, [] => history
  | reading, history, entry :: entries =>
    insertHistoryRows session (reading + 1)
      (qxStatInsertHistoryRow session reading history entry) entries

def snapshotScopes : List CString :=
  ["all", "provider", "principal", "runtime_class", "scheduler", "scheduler_activity",
    "recovery"].map String.toList

/-- The history with the new rows, and their number. -/
def qxStatSnapshotScope (session : HistorySession) (policy : PolicyCatalog)
    (slots : Slots StatSlot) (history : List HistoryRow) (scope : CString) :
    Except QxError (List HistoryRow × Nat) :=
  let entries := snapshotEntries session.myDatabaseId policy slots scope
  if entries.length = 0 ∧ ∀ accepted ∈ snapshotScopes, pgStrcaseEq scope accepted = false then
    ereport .invalidParameterValue s!"invalid QX stat snapshot scope \"{text scope}\""
  else .ok (insertHistoryRows session 0 history entries, entries.length)

def pgQxStatSnapshot (session : HistorySession) (policy : PolicyCatalog) (slots : Slots StatSlot)
    (history : List HistoryRow) (scope : Option CString) :
    Except QxError (List HistoryRow × Nat) :=
  qxStatSnapshotScope session policy slots history (scope.getD "all".toList)

/-! ## Reading and pruning -/

def qxStatHistoryScopeMatches (requested rowScope : CString) : Bool :=
  pgStrcaseEq requested "all".toList || pgStrcaseEq requested rowScope

/-- The rows in the order of the scan. The function returns all their columns but the database. -/
def pgQxStatGetHistory (myDatabaseId : Oid) (history : List HistoryRow) (scope : Option CString)
    (since : Option TimestampTz) : List HistoryRow :=
  let scope := scope.getD "all".toList
  let since := since.getD dtNobegin
  history.filter fun row =>
    row.dboid == myDatabaseId && !(since != dtNobegin && decide (row.captured < since)) &&
      qxStatHistoryScopeMatches scope row.scope.name

/-- What is left of the history, and how many rows were deleted. -/
def pgQxStatPruneHistory (myDatabaseId : Oid) (cutoff : TimestampTz) (history : List HistoryRow) :
    List HistoryRow × Nat :=
  let deleted (row : HistoryRow) : Bool :=
    row.dboid == myDatabaseId && !decide (row.captured ≥ cutoff)
  (history.filter fun row => !deleted row, history.countP deleted)

end QhapaqXian
