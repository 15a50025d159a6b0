import QhapaqXian.Attribution
import QhapaqXian.World

/-!
# Runs of the server with its statistics

The collector listens to open transactions, and a rollback takes no report back. A report that fails
aborts its transaction.
-/

namespace QhapaqXian

open Library

/-! ## The rows of scheduler events -/

def receiptModeEvent (receiptMode : CString) : Option SchedulerEvent :=
  if receiptMode = "scheduler-renew".toList then some .renew
  else if receiptMode = "scheduler-reclaim".toList then some .reclaim
  else if receiptMode = "scheduler-release".toList then some .release
  else none

def traceNameEvent (name : CString) : Option SchedulerEvent :=
  if name = retryDispatchTraceName then some .retryDispatch
  else if name = deadLetterTraceName then some .deadLetter
  else none

def Catalog.eventRows (cat : Catalog) (event : SchedulerEvent) : Nat :=
  cat.heartbeats.rows.countP (receiptModeEvent ·.receiptMode = some event) +
    cat.traces.rows.countP (traceNameEvent ·.name = some event)

def Action.reported : Action → Option SchedulerEvent
  | .insertTrace row => traceNameEvent row.name
  | .reportSchedulerEvent event => some event
  | _ => none

/-! ## The collector -/

namespace Collector

def hear (layout : SchemaLayout) (dboid : Oid) (collector : Collector) :
    Action → Except QxError Collector
  | .insertTrace row => qxStatReportFromTrace collector layout dboid row.name row.detail
  | .reportSchedulerEvent event => .ok (qxStatReportSchedulerEvent collector dboid event)
  | _ => .ok collector

/-- The collector after the actions of a transaction. If a report fails, the transaction ends with
the action that made it: the number of actions up to then. -/
def follow (layout : SchemaLayout) (dboid : Oid) :
    Collector → List Action → Collector × Option Nat
  | collector, [] => (collector, none)
  | collector, action :: actions =>
    match collector.hear layout dboid action with
    | .error _ => (collector, some 1)
    | .ok heard =>
      let (followed, failed) := follow layout dboid heard actions
      (followed, failed.map (· + 1))

def schedulerKey (dboid : Oid) (event : SchedulerEvent) : StatKey :=
  ⟨dboid, .schedulerActivity, invalidOid, event.name⟩

def hasRoomFor (dboid : Oid) (collector : Collector) (action : Action) : Bool :=
  action.reported.all fun event =>
    (qxStatLookupEntry collector.slots (schedulerKey dboid event)).isSome ||
      collector.slots.hasRoom

def hasRoomAlong (layout : SchemaLayout) (dboid : Oid) : Collector → List Action → Bool
  | _, [] => true
  | collector, action :: actions =>
    collector.hasRoomFor dboid action &&
      match collector.hear layout dboid action with
      | .error _ => true
      | .ok heard => hasRoomAlong layout dboid heard actions

/-- The checkpoint counter of a database, summed over its runtime classes. -/
def runtimeClassCheckpoints (collector : Collector) (dboid : Oid) : Nat :=
  ((collector.slots.entries.filter fun slot =>
    slot.key.kind == .runtimeClass && slot.key.dboid == dboid).map
      (·.counters.checkpointCount)).sum

end Collector

/-! ## Runs -/

structure Server where
  world : World
  collector : Collector

/-- What happens in a run: a transaction, with the schema that its reports are looked up in, or the
report of a recovery scan. -/
inductive ServerEvent
  | transaction (event : Event) (layout : SchemaLayout)
  | recoveryScan (report : RecoveryReport) (failoverRebuild : Bool)

namespace Server

/-- The transaction as it ends: a failed report rolls it back. -/
def effective (dboid : Oid) (server : Server) (event : Event) (layout : SchemaLayout) : Event :=
  match (server.collector.follow layout dboid (server.world.carriedOut event)).2 with
  | none => event
  | some after => { event with fate := .rollback after }

def next (dboid : Oid) (server : Server) : ServerEvent → Server
  | .transaction event layout =>
    { world := server.world.next (server.effective dboid event layout)
      collector := (server.collector.follow layout dboid (server.world.carriedOut event)).1 }
  | .recoveryScan report failoverRebuild =>
    { server with
      collector := qxStatReportRecoveryScan server.collector dboid report failoverRebuild }

end Server

end QhapaqXian
