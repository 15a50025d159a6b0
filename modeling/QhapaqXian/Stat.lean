import QhapaqXian.Library.Slots
import QhapaqXian.Recovery

/-!
# The statistics collector

The counters of `qx_stat.c` live in shared memory, in a table of slots: a slot belongs to a
database, a kind of activity, an entity and a runtime class.
-/

namespace QhapaqXian

open Library

inductive StatKind
  | provider
  | principal
  | runtimeClass
  | schedulerActivity
  | recovery
  | backendSupervisor
  deriving Repr, DecidableEq

structure StatKey where
  dboid : Oid
  kind : StatKind
  entityOid : Oid
  runtimeClass : CString
  deriving Repr, DecidableEq

/-- The slots store a runtime class of at most 63 characters. -/
def qxStatRuntimeClassLen : Nat := 64

/-- The key as `strlcpy` stores it in a free slot. -/
def StatKey.stored (key : StatKey) : StatKey :=
  { key with runtimeClass := key.runtimeClass.take (qxStatRuntimeClassLen - 1) }

structure StatCounters where
  submitCount : Nat
  resumeCount : Nat
  checkpointCount : Nat
  verifiedReceipts : Nat
  rejectedReceipts : Nat
  renewCount : Nat
  reclaimCount : Nat
  releaseCount : Nat
  retryDispatchCount : Nat
  deadLetterCount : Nat
  recoveryStartupScans : Nat
  recoveryFailoverRebuilds : Nat
  recoveryTasksRequeued : Nat
  recoveryAttemptsFenced : Nat
  recoveryTasksRequeueSuppressed : Nat
  recoveryAttemptsFenceSuppressed : Nat
  deriving Repr, DecidableEq

def StatCounters.zero : StatCounters :=
  ⟨0, 0, 0, 0, 0, 0, 0, 0, 0, 0, 0, 0, 0, 0, 0, 0⟩

structure StatSlot where
  key : StatKey
  counters : StatCounters
  deriving Repr, DecidableEq

def qxStatSlotMatches (key : StatKey) (slot : StatSlot) : Bool :=
  slot.key == key

def qxStatLookupEntry (slots : Slots StatSlot) (key : StatKey) : Option StatCounters :=
  (slots.find? (qxStatSlotMatches key)).map StatSlot.counters

/-- The counters of a slot, or zeroes if the key has none. -/
def heldCounters (slots : Slots StatSlot) (key : StatKey) : StatCounters :=
  (qxStatLookupEntry slots key).getD .zero

/-- A table without a free slot only draws a warning. -/
def qxStatWithEntry (slots : Slots StatSlot) (key : StatKey)
    (mutate : StatCounters → StatCounters) : Slots StatSlot :=
  slots.upsert (qxStatSlotMatches key) (fun slot => { slot with counters := mutate slot.counters })
    ⟨key.stored, mutate .zero⟩

def qxStatMutateRecovery (failoverRebuild : Bool) (report : RecoveryReport)
    (counters : StatCounters) : StatCounters :=
  let counted :=
    if failoverRebuild then
      { counters with recoveryFailoverRebuilds := counters.recoveryFailoverRebuilds + 1 }
    else { counters with recoveryStartupScans := counters.recoveryStartupScans + 1 }
  { counted with
    recoveryTasksRequeued := counted.recoveryTasksRequeued + report.tasksRequeued
    recoveryAttemptsFenced := counted.recoveryAttemptsFenced + report.attemptsFenced
    recoveryTasksRequeueSuppressed :=
      counted.recoveryTasksRequeueSuppressed + report.tasksRequeueSuppressed
    recoveryAttemptsFenceSuppressed :=
      counted.recoveryAttemptsFenceSuppressed + report.attemptsFenceSuppressed }

def recoveryKey (dboid : Oid) : StatKey :=
  ⟨dboid, .recovery, invalidOid, []⟩

/-- The collector: whether `qhapaqxian_track_stats` is on, and its slots. -/
structure Collector where
  trackStats : Bool
  slots : Slots StatSlot
  deriving Repr, DecidableEq

namespace Collector

/-- Every report goes to the slot of a key, if statistics are tracked. -/
def report (collector : Collector) (key : StatKey) (mutate : StatCounters → StatCounters) :
    Collector :=
  if collector.trackStats then
    { collector with slots := qxStatWithEntry collector.slots key mutate }
  else collector

end Collector

def qxStatReportRecoveryScan (collector : Collector) (dboid : Oid) (report : RecoveryReport)
    (failoverRebuild : Bool) : Collector :=
  if collector.trackStats then
    { collector with
      slots := qxStatWithEntry collector.slots (recoveryKey dboid)
        (qxStatMutateRecovery failoverRebuild report) }
  else collector

/-! ## Executions and scheduler events -/

def providerKey (dboid provideroid : Oid) : StatKey :=
  ⟨dboid, .provider, provideroid, []⟩

def principalKey (dboid principaloid : Oid) : StatKey :=
  ⟨dboid, .principal, principaloid, []⟩

def runtimeClassKey (dboid : Oid) (runtimeClass : CString) : StatKey :=
  ⟨dboid, .runtimeClass, invalidOid, runtimeClass⟩

def StatCounters.countPhase (resume : Bool) (counters : StatCounters) : StatCounters :=
  if resume then { counters with resumeCount := counters.resumeCount + 1 }
  else { counters with submitCount := counters.submitCount + 1 }

def qxStatMutateProvider (resume receiptVerified : Bool) (counters : StatCounters) :
    StatCounters :=
  let counters := counters.countPhase resume
  if receiptVerified then { counters with verifiedReceipts := counters.verifiedReceipts + 1 }
  else { counters with rejectedReceipts := counters.rejectedReceipts + 1 }

def qxStatReportProviderExecution (collector : Collector) (dboid provideroid : Oid)
    (resume receiptVerified : Bool) : Collector :=
  if !oidIsValid provideroid then collector
  else collector.report (providerKey dboid provideroid)
    (qxStatMutateProvider resume receiptVerified)

/-- `qx_stat_mutate_principal` and `qx_stat_mutate_runtime_class` are the same function. -/
def qxStatMutatePrincipal (resume checkpointed receiptVerified : Bool) (counters : StatCounters) :
    StatCounters :=
  let counters := counters.countPhase resume
  let counters :=
    if checkpointed then { counters with checkpointCount := counters.checkpointCount + 1 }
    else counters
  if receiptVerified then { counters with verifiedReceipts := counters.verifiedReceipts + 1 }
  else counters

def qxStatReportPrincipalExecution (collector : Collector) (dboid principaloid : Oid)
    (resume checkpointed receiptVerified : Bool) : Collector :=
  if !oidIsValid principaloid then collector
  else collector.report (principalKey dboid principaloid)
    (qxStatMutatePrincipal resume checkpointed receiptVerified)

def qxStatReportRuntimeClassExecution (collector : Collector) (dboid : Oid)
    (runtimeClass : Option CString) (resume checkpointed receiptVerified : Bool) : Collector :=
  match runtimeClass with
  | none | some [] => collector
  | some runtimeClass =>
    collector.report (runtimeClassKey dboid runtimeClass)
      (qxStatMutatePrincipal resume checkpointed receiptVerified)

namespace SchedulerEvent

def name : SchedulerEvent → CString
  | renew => "renew".toList
  | reclaim => "reclaim".toList
  | release => "release".toList
  | retryDispatch => "retry_dispatch".toList
  | deadLetter => "dead_letter".toList

def count (counters : StatCounters) : SchedulerEvent → Nat
  | renew => counters.renewCount
  | reclaim => counters.reclaimCount
  | release => counters.releaseCount
  | retryDispatch => counters.retryDispatchCount
  | deadLetter => counters.deadLetterCount

end SchedulerEvent

def qxStatMutateScheduler (event : SchedulerEvent) (counters : StatCounters) : StatCounters :=
  match event with
  | .renew => { counters with renewCount := counters.renewCount + 1 }
  | .reclaim => { counters with reclaimCount := counters.reclaimCount + 1 }
  | .release => { counters with releaseCount := counters.releaseCount + 1 }
  | .retryDispatch => { counters with retryDispatchCount := counters.retryDispatchCount + 1 }
  | .deadLetter => { counters with deadLetterCount := counters.deadLetterCount + 1 }

/-- Each event has a slot of its own, under its name. -/
def qxStatReportSchedulerEvent (collector : Collector) (dboid : Oid) (event : SchedulerEvent) :
    Collector :=
  collector.report ⟨dboid, .schedulerActivity, invalidOid, event.name⟩
    (qxStatMutateScheduler event)

def qxStatAggregateScheduler (slots : Slots StatSlot) (dboid : Oid) : StatCounters :=
  let activity := slots.entries.filter fun slot =>
    slot.key.kind == .schedulerActivity && slot.key.dboid == dboid
  { StatCounters.zero with
    renewCount := (activity.map (·.counters.renewCount)).sum
    reclaimCount := (activity.map (·.counters.reclaimCount)).sum
    releaseCount := (activity.map (·.counters.releaseCount)).sum
    retryDispatchCount := (activity.map (·.counters.retryDispatchCount)).sum
    deadLetterCount := (activity.map (·.counters.deadLetterCount)).sum }

/-- `pg_qx_stat_get_recovery_stats`. -/
def Collector.recoveryStats (collector : Collector) (dboid : Oid) : StatCounters :=
  (qxStatLookupEntry collector.slots (recoveryKey dboid)).getD .zero

def RecoveryRequest.failoverRebuild : RecoveryRequest → Bool
  | .startup _ => false
  | .failover _ => true

/-- The report goes to the collector if the caller installs the `finish` callback. -/
def qxRuntimeRecoveryFinish (finish : Bool) (collector : Collector) (dboid : Oid)
    (request : RecoveryRequest) (report : RecoveryReport) : Collector :=
  if finish then qxStatReportRecoveryScan collector dboid report request.failoverRebuild
  else collector

end QhapaqXian
