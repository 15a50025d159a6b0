import QhapaqXian.ContractExecution

/-!
# The backend lease table

The table of `qx_stat.c` as it lies in shared memory: an array of 256 slots, each free while its
database OID is invalid. Every operation is one scan under the spinlock.
-/

namespace QhapaqXian

open Library

def qxStatBackendLeaseSlotCount : Nat := 256

def qxStatBackendInstanceIdLen : Nat := 128

/-- `MemSet(slot, 0, sizeof(*slot))`. -/
def BackendLease.zeroed : BackendLease where
  dboid := invalidOid
  taskoid := invalidOid
  kind := .container
  instanceId := []

abbrev LeaseArray := List BackendLease

namespace LeaseArray

/-- Shared memory after the start of the server. -/
def zeroed : LeaseArray :=
  List.replicate qxStatBackendLeaseSlotCount BackendLease.zeroed

/-- What the scan for a lease comes to: the lease stands in a slot, or it is not there and this is
the first free slot. -/
inductive Scan
  | held (index : Nat)
  | absent (freeSlot : Option Nat)
  deriving Repr, DecidableEq

def scan (dboid taskoid : Oid) (instanceId : CString) : Nat → Option Nat → LeaseArray → Scan
  | _, freeSlot, [] => .absent freeSlot
  | i, freeSlot, slot :: rest =>
    if !oidIsValid slot.dboid then
      scan dboid taskoid instanceId (i + 1) (freeSlot.or (some i)) rest
    else if slot.dboid == dboid && slot.taskoid == taskoid && slot.instanceId == instanceId then
      .held i
    else scan dboid taskoid instanceId (i + 1) freeSlot rest

/-- The array afterwards, and whether the lease is a new one. A full table is left as it is, with a
warning. -/
def qxStatBackendLeaseRegister (dboid taskoid : Oid) (instanceId : Option CString)
    (kind : QxBackendLeaseKind) (leases : LeaseArray) : Except QxError (LeaseArray × Bool) :=
  if !oidIsValid dboid || !oidIsValid taskoid || isNullOrEmpty instanceId then .ok (leases, false)
  else
    let instanceId := instanceId.getD []
    if instanceId.length ≥ qxStatBackendInstanceIdLen then
      ereportDetail .nameTooLong "backend instance identifier is too long"
        "Backend instance identifiers must be shorter than 128 bytes."
    else
      match scan dboid taskoid instanceId 0 none leases with
      | .held i => .ok (leases.modify i fun slot => { slot with kind := kind }, false)
      | .absent (some i) => .ok (leases.set i ⟨dboid, taskoid, kind, instanceId⟩, true)
      | .absent none => .ok (leases, false)

/-- The loop of a release: the first slot of the task that has the identifier is zeroed, any slot of
the task without an identifier. -/
def releaseLoop (dboid taskoid : Oid) (instanceId : Option CString) : LeaseArray → LeaseArray × Bool
  | [] => ([], false)
  | slot :: rest =>
    if slot.dboid != dboid || slot.taskoid != taskoid ||
        (!isNullOrEmpty instanceId && slot.instanceId != instanceId.getD []) then
      let (rest, found) := releaseLoop dboid taskoid instanceId rest
      (slot :: rest, found)
    else (BackendLease.zeroed :: rest, true)

def qxStatBackendLeaseRelease (dboid taskoid : Oid) (instanceId : Option CString)
    (leases : LeaseArray) : LeaseArray × Bool :=
  if !oidIsValid dboid || !oidIsValid taskoid then (leases, false)
  else releaseLoop dboid taskoid instanceId leases

def fenceLoop (dboid taskoid : Oid) : LeaseArray → Nat → LeaseArray × Nat
  | [], removed => ([], removed)
  | slot :: rest, removed =>
    if slot.dboid == dboid && slot.taskoid == taskoid then
      let (rest, removed) := fenceLoop dboid taskoid rest (removed + 1)
      (BackendLease.zeroed :: rest, removed)
    else
      let (rest, removed) := fenceLoop dboid taskoid rest removed
      (slot :: rest, removed)

def qxStatBackendLeaseFence (dboid taskoid : Oid) (leases : LeaseArray) : LeaseArray × Nat :=
  if !oidIsValid dboid || !oidIsValid taskoid then (leases, 0)
  else fenceLoop dboid taskoid leases 0

/-- Without a task the leases of the whole database are counted. -/
def qxStatBackendLeaseCount (dboid taskoid : Oid) (leases : LeaseArray) : Nat :=
  leases.foldl
    (fun count slot =>
      if slot.dboid == dboid && (!oidIsValid taskoid || slot.taskoid == taskoid) then count + 1
      else count) 0

end LeaseArray

structure ConnectedBackend where
  myDatabaseId : Oid
  connected : oidIsValid myDatabaseId = true

inductive LeaseCall
  | register (taskoid : Oid) (instanceId : Option CString) (kind : QxBackendLeaseKind)
  | release (taskoid : Oid) (instanceId : Option CString)
  | fenceStale (taskoid : Oid)
  | countForTask (taskoid : Oid)
  | activeCount
  deriving Repr, DecidableEq

inductive LeaseAnswer
  | flag (done : Bool)
  | number (count : Nat)
  | failure (error : QxError)
  deriving Repr, DecidableEq

def LeaseArray.next (backend : ConnectedBackend) (leases : LeaseArray) : LeaseCall → LeaseArray × LeaseAnswer
  | .register taskoid instanceId kind =>
    if !oidIsValid taskoid || isNullOrEmpty instanceId then (leases, .flag false)
    else
      match leases.qxStatBackendLeaseRegister backend.myDatabaseId taskoid instanceId kind with
      | .ok (leases, inserted) => (leases, .flag inserted)
      | .error error => (leases, .failure error)
  | .release taskoid instanceId =>
    let (leases, found) := leases.qxStatBackendLeaseRelease backend.myDatabaseId taskoid instanceId
    (leases, .flag found)
  | .fenceStale taskoid =>
    let (leases, removed) := leases.qxStatBackendLeaseFence backend.myDatabaseId taskoid
    (leases, .number removed)
  | .countForTask taskoid =>
    (leases, .number (leases.qxStatBackendLeaseCount backend.myDatabaseId taskoid))
  | .activeCount =>
    (leases, .number (leases.qxStatBackendLeaseCount backend.myDatabaseId invalidOid))

def LeaseArray.run (leases : LeaseArray) (calls : List (ConnectedBackend × LeaseCall)) : LeaseArray :=
  calls.foldl (fun leases call => (leases.next call.1 call.2).1) leases

end QhapaqXian
