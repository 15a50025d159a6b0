import QhapaqXian.Catalog

/-!
# The counter of object identifiers

`GetNewObjectId` (`varsup.c`) draws from a shared 32-bit counter, and `GetNewOidWithIndex`
(`catalog.c`) draws until the identifier is not in the index of the relation.
-/

namespace QhapaqXian

def firstNormalObjectId : Oid := 16384

/-- `TransamVariables->nextOid`. -/
structure OidCounter where
  nextOid : Nat
  nextOid_lt : nextOid < 2 ^ 32
  deriving Repr, DecidableEq

/-- The identifiers below `FirstNormalObjectId` are reserved: the counter skips them after it has
wrapped around. -/
def OidCounter.getNewObjectId (counter : OidCounter) : Oid × OidCounter :=
  let oid := if counter.nextOid < firstNormalObjectId then firstNormalObjectId else counter.nextOid
  (oid, ⟨(oid + 1) % 2 ^ 32, Nat.mod_lt _ (Nat.two_pow_pos 32)⟩)

/-- One draw of the counter: a round of the loop in `GetNewOidWithIndex`, for a row of one of the
ledgers or for anything else. The draws of other backends may fall between two rounds. -/
inductive OidDraw
  | schedulerQueue (row : QueueRow)
  | schedulerLease (row : LeaseRow)
  | other
  deriving Repr, DecidableEq

structure LedgerState where
  counter : OidCounter
  catalog : Catalog

namespace LedgerState

/-- The identifier is kept when it is not in the index; then the loop ends and the row is
inserted. -/
def inserts (s : LedgerState) (draw : OidDraw) : Option Action :=
  let oid := s.counter.getNewObjectId.1
  match draw with
  | .schedulerQueue row =>
    if oid ∈ s.catalog.usedOids .schedulerQueue then none
    else some (.insertSchedulerQueue { row with oid := oid })
  | .schedulerLease row =>
    if oid ∈ s.catalog.usedOids .schedulerLease then none
    else some (.insertSchedulerLease { row with oid := oid })
  | .other => none

def next (s : LedgerState) (draw : OidDraw) : LedgerState where
  counter := s.counter.getNewObjectId.2
  catalog := (s.inserts draw).elim s.catalog s.catalog.apply

def run (s : LedgerState) (draws : List OidDraw) : LedgerState :=
  draws.foldl next s

def insertions (s : LedgerState) : List OidDraw → List Action
  | [] => []
  | draw :: draws => (s.inserts draw).toList ++ (s.next draw).insertions draws

end LedgerState

end QhapaqXian
