import QhapaqXian.Library.Rows
import QhapaqXian.OidCounter

/-!
# The latest row of a ledger

The lookups take the matching row with the largest identifier for the latest one. That is right as
long as the identifiers grow with every insertion, which they do until the counter wraps around.
-/

namespace QhapaqXian

open Library

def Action.queueRow? : Action → Option QueueRow
  | .insertSchedulerQueue row => some row
  | _ => none

def Action.leaseRow? : Action → Option LeaseRow
  | .insertSchedulerLease row => some row
  | _ => none

namespace LedgerState

variable {s : LedgerState} {draws : List OidDraw}

lemma getNewObjectId_valid (counter : OidCounter) : counter.getNewObjectId.1 ≠ invalidOid := by
  unfold OidCounter.getNewObjectId
  dsimp only
  split
  · decide
  · rename_i hnormal
    intro hzero
    exact hnormal (hzero ▸ by decide)

lemma inserts_cases (s : LedgerState) (draw : OidDraw) :
    s.inserts draw = none ∨
      (∃ row, s.inserts draw = some (.insertSchedulerQueue row) ∧ s.catalog.queues.Admits row ∧
        row.oid = s.counter.getNewObjectId.1) ∨
      ∃ row, s.inserts draw = some (.insertSchedulerLease row) ∧ s.catalog.leases.Admits row ∧
        row.oid = s.counter.getNewObjectId.1 := by
  have hvalid := getNewObjectId_valid s.counter
  cases draw with
  | schedulerQueue row =>
    by_cases hused : s.counter.getNewObjectId.1 ∈ s.catalog.usedOids .schedulerQueue
    · exact .inl (if_pos hused)
    · exact .inr (.inl ⟨_, if_neg hused, ⟨hvalid, hused⟩, rfl⟩)
  | schedulerLease row =>
    by_cases hused : s.counter.getNewObjectId.1 ∈ s.catalog.usedOids .schedulerLease
    · exact .inl (if_pos hused)
    · exact .inr (.inr ⟨_, if_neg hused, ⟨hvalid, hused⟩, rfl⟩)
  | other => exact .inl rfl

lemma rows_next (s : LedgerState) (draw : OidDraw) :
    (s.next draw).catalog.queues.rows =
        s.catalog.queues.rows ++ ((s.inserts draw).bind Action.queueRow?).toList ∧
      (s.next draw).catalog.leases.rows =
        s.catalog.leases.rows ++ ((s.inserts draw).bind Action.leaseRow?).toList := by
  obtain hnone | ⟨row, hrow, hadmits, -⟩ | ⟨row, hrow, hadmits, -⟩ := s.inserts_cases draw
  · simp [next, hnone]
  · simp [next, hrow, Catalog.apply, Table.rows_insert hadmits, Action.queueRow?, Action.leaseRow?]
  · simp [next, hrow, Catalog.apply, Table.rows_insert hadmits, Action.queueRow?, Action.leaseRow?]

def queueHistory (s : LedgerState) (draws : List OidDraw) : List QueueRow :=
  s.catalog.queues.rows ++ (s.insertions draws).filterMap Action.queueRow?

def leaseHistory (s : LedgerState) (draws : List OidDraw) : List LeaseRow :=
  s.catalog.leases.rows ++ (s.insertions draws).filterMap Action.leaseRow?

lemma rows_run (s : LedgerState) (draws : List OidDraw) :
    (s.run draws).catalog.queues.rows = s.queueHistory draws ∧
      (s.run draws).catalog.leases.rows = s.leaseHistory draws := by
  induction draws generalizing s with
  | nil => simp [run, queueHistory, leaseHistory, insertions]
  | cons draw draws ih =>
    obtain ⟨hqueues, hleases⟩ := ih (s.next draw)
    have hrun : s.run (draw :: draws) = (s.next draw).run draws := rfl
    rw [hrun, hqueues, hleases]
    simp only [queueHistory, leaseHistory, insertions, rows_next, List.filterMap_append,
      filterMap_toList, List.append_assoc, and_self]

/-! ## Before the counter wraps around -/

/-- The identifiers of both ledgers grow, and the counter is above them. -/
structure InOrder (s : LedgerState) : Prop where
  normal : firstNormalObjectId ≤ s.counter.nextOid
  queues : s.catalog.queues.rows.Pairwise fun a b => a.oid < b.oid
  leases : s.catalog.leases.rows.Pairwise fun a b => a.oid < b.oid
  queues_lt : ∀ row ∈ s.catalog.queues.rows, row.oid < s.counter.nextOid
  leases_lt : ∀ row ∈ s.catalog.leases.rows, row.oid < s.counter.nextOid

lemma InOrder.getNewObjectId (h : s.InOrder) : s.counter.getNewObjectId.1 = s.counter.nextOid :=
  if_neg (Nat.not_lt.mpr h.normal)

lemma InOrder.nextOid_next (h : s.InOrder) (hroom : s.counter.nextOid + 1 < 2 ^ 32)
    (draw : OidDraw) : (s.next draw).counter.nextOid = s.counter.nextOid + 1 := by
  have hnext : (s.next draw).counter.nextOid = (s.counter.getNewObjectId.1 + 1) % 2 ^ 32 := rfl
  rw [hnext, h.getNewObjectId, Nat.mod_eq_of_lt hroom]

lemma oid_of_inserts (s : LedgerState) (draw : OidDraw) :
    (∀ row, (s.inserts draw).bind Action.queueRow? = some row →
        row.oid = s.counter.getNewObjectId.1) ∧
      ∀ row, (s.inserts draw).bind Action.leaseRow? = some row →
        row.oid = s.counter.getNewObjectId.1 := by
  obtain hnone | ⟨row, hrow, -, hoid⟩ | ⟨row, hrow, -, hoid⟩ := s.inserts_cases draw
  · simp [hnone]
  · simp [hrow, hoid, Action.queueRow?, Action.leaseRow?]
  · simp [hrow, hoid, Action.queueRow?, Action.leaseRow?]

theorem InOrder.next (h : s.InOrder) (hroom : s.counter.nextOid + 1 < 2 ^ 32) (draw : OidDraw) :
    (s.next draw).InOrder := by
  have hnext := h.nextOid_next hroom draw
  obtain ⟨hqueues, hleases⟩ := s.rows_next draw
  obtain ⟨hqueueOid, hleaseOid⟩ := s.oid_of_inserts draw
  rw [h.getNewObjectId] at hqueueOid hleaseOid
  obtain ⟨hqueueOrder, hqueueLt⟩ := pairwise_append_next h.queues h.queues_lt hqueueOid
  obtain ⟨hleaseOrder, hleaseLt⟩ := pairwise_append_next h.leases h.leases_lt hleaseOid
  constructor
  · rw [hnext]
    exact h.normal.trans (Nat.le_succ _)
  · rwa [hqueues]
  · rwa [hleases]
  · rwa [hqueues, hnext]
  · rwa [hleases, hnext]

theorem InOrder.run (h : s.InOrder) (hroom : s.counter.nextOid + draws.length < 2 ^ 32) :
    (s.run draws).InOrder := by
  induction draws generalizing s with
  | nil => exact h
  | cons draw draws ih =>
    rw [List.length_cons] at hroom
    have hnext : s.counter.nextOid + 1 < 2 ^ 32 := by omega
    apply ih (h.next hnext draw)
    rw [h.nextOid_next hnext]
    omega

end LedgerState

/-! ## The lookups -/

section Lookups

variable (ownerid taskoid attemptoid : Oid)

def QueueRow.isFor (row : QueueRow) : Bool :=
  row.taskoid == taskoid && row.attemptoid == attemptoid && Catalog.ownerMatches ownerid row.ownerid

def LeaseRow.isFor (row : LeaseRow) : Bool :=
  row.taskoid == taskoid && row.attemptoid == attemptoid && Catalog.ownerMatches ownerid row.ownerid

variable (cat : Catalog)

lemma lookupLatestSchedulerQueue_iff :
    cat.lookupLatestSchedulerQueue ownerid taskoid attemptoid =
        (cat.queues.rows.filter (QueueRow.isFor ownerid taskoid attemptoid)).getLast? ↔
      LastLargest QueueRow.oid
        (cat.queues.rows.filter (QueueRow.isFor ownerid taskoid attemptoid)) :=
  argmax_eq_getLast?_iff (cat.queues.nodup.sublist (List.filter_sublist.map _))

lemma lookupLatestSchedulerLease_iff :
    cat.lookupLatestSchedulerLease ownerid taskoid attemptoid =
        (cat.leases.rows.filter (LeaseRow.isFor ownerid taskoid attemptoid)).getLast? ↔
      LastLargest LeaseRow.oid
        (cat.leases.rows.filter (LeaseRow.isFor ownerid taskoid attemptoid)) :=
  argmax_eq_getLast?_iff (cat.leases.nodup.sublist (List.filter_sublist.map _))

end Lookups

/-- After every history of draws, each lookup returns the matching row that was inserted last
exactly when no other matching row of its ledger has a larger identifier. -/
theorem latest_lookups_iff (s : LedgerState) (draws : List OidDraw)
    (ownerid taskoid attemptoid : Oid) :
    (s.run draws).catalog.lookupLatestSchedulerQueue ownerid taskoid attemptoid =
          ((s.queueHistory draws).filter (QueueRow.isFor ownerid taskoid attemptoid)).getLast? ∧
        (s.run draws).catalog.lookupLatestSchedulerLease ownerid taskoid attemptoid =
          ((s.leaseHistory draws).filter (LeaseRow.isFor ownerid taskoid attemptoid)).getLast? ↔
      LastLargest QueueRow.oid
          ((s.queueHistory draws).filter (QueueRow.isFor ownerid taskoid attemptoid)) ∧
        LastLargest LeaseRow.oid
          ((s.leaseHistory draws).filter (LeaseRow.isFor ownerid taskoid attemptoid)) := by
  obtain ⟨hqueues, hleases⟩ := s.rows_run draws
  rw [← hqueues, ← hleases]
  exact and_congr (lookupLatestSchedulerQueue_iff ..) (lookupLatestSchedulerLease_iff ..)

def ledgerEntry (kind : QueueKind) : QueueRow where
  oid := invalidOid
  ownerid := 10
  namespacePolicyOid := 20
  agentoid := 30
  sessionoid := 40
  taskoid := 1
  attemptoid := 2
  queueKind := kind
  queueName := "q".toList
  agentName := "a".toList
  identityName := "i".toList
  namespacePolicyName := "n".toList
  priority := "normal".toList
  principalName := "p".toList
  providerName := "v".toList
  providerKind := "loopback".toList
  principalRuntime := "host".toList
  runnableCount := 1
  leasedCount := 0
  blockedCount := 0
  retryCount := 0
  enqueuedAt := 0
  eligibleAt := 0
  updatedAt := 0
  origin := .dispatch

/-- The last identifier before the wraparound stays the largest: the recovery row that follows it
is not found. -/
theorem wrapped_row_not_found :
    (LedgerState.run ⟨⟨4294967295, by decide⟩, .initial .empty⟩
          [.schedulerQueue (ledgerEntry .primary),
            .schedulerQueue (ledgerEntry .recovery)]).catalog.lookupLatestSchedulerQueue 10 1 2 =
        some { ledgerEntry .primary with oid := 4294967295 } ∧
      (LedgerState.queueHistory ⟨⟨4294967295, by decide⟩, .initial .empty⟩
          [.schedulerQueue (ledgerEntry .primary),
            .schedulerQueue (ledgerEntry .recovery)]).getLast? =
        some { ledgerEntry .recovery with oid := 16384 } := by
  decide +kernel

/-- The condition holds of every history in which the counter does not wrap around. -/
theorem LedgerState.InOrder.lastLargest {s : LedgerState} {draws : List OidDraw} (h : s.InOrder)
    (hroom : s.counter.nextOid + draws.length < 2 ^ 32) (ownerid taskoid attemptoid : Oid) :
    LastLargest QueueRow.oid
        ((s.queueHistory draws).filter (QueueRow.isFor ownerid taskoid attemptoid)) ∧
      LastLargest LeaseRow.oid
        ((s.leaseHistory draws).filter (LeaseRow.isFor ownerid taskoid attemptoid)) := by
  obtain ⟨hqueues, hleases⟩ := s.rows_run draws
  rw [← hqueues, ← hleases]
  have horder := h.run hroom
  exact ⟨lastLargest_of_pairwise (horder.queues.filter _),
    lastLargest_of_pairwise (horder.leases.filter _)⟩

end QhapaqXian
