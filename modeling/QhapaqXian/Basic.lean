import Mathlib.Algebra.Order.Ring.Int
import Mathlib.Data.List.Basic
import Mathlib.Tactic.Lemma

/-!
# Server types shared by the QhapaqXian model

Object identifiers, C strings, fixed-width integers and the errors that `ereport(ERROR)` raises.
A C string is a list of characters and a nullable one is an `Option`.
-/

namespace QhapaqXian

abbrev Oid := Nat

def invalidOid : Oid := 0

def oidIsValid (oid : Oid) : Bool :=
  oid != invalidOid

abbrev CString := List Char

/-- A condition on the characters of a text is decided by going through the text. -/
instance (priority := 1100) decidableForallMemText (p : Char → Prop) [DecidablePred p]
    (s : CString) : Decidable (∀ c ∈ s, p c) :=
  List.decidableBAll p s

/-- Microseconds, as the server's `TimestampTz`. -/
abbrev TimestampTz := Int

abbrev XLogRecPtr := Nat

/-- `value != NULL && value[0] != '\0' ? value : fallback`. -/
def nonEmptyOr (value : Option CString) (fallback : CString) : CString :=
  match value with
  | some (c :: cs) => c :: cs
  | _ => fallback

lemma nonEmptyOr_some (value fallback : CString) :
    nonEmptyOr (some value) fallback = if value = [] then fallback else value := by
  cases value <;> rfl

lemma nonEmptyOr_ne_nil (value : Option CString) {fallback : CString} (h : fallback ≠ []) :
    nonEmptyOr value fallback ≠ [] := by
  match value with
  | none => exact h
  | some [] => exact h
  | some (c :: cs) => exact List.cons_ne_nil c cs

/-- `value == NULL || value[0] == '\0'`. -/
def isNullOrEmpty (value : Option CString) : Bool :=
  match value with
  | some (_ :: _) => false
  | _ => true

lemma exists_of_isNullOrEmpty {value : Option CString} (h : isNullOrEmpty value = false) :
    ∃ ref, value = some ref ∧ ref ≠ [] := by
  cases value with
  | none => cases h
  | some ref =>
    cases ref with
    | nil => cases h
    | cons c ref => exact ⟨c :: ref, rfl, List.cons_ne_nil c ref⟩

/-- The decimal digits of `%u` and `%d`. -/
def formatUnsigned (n : Nat) : CString :=
  Nat.toDigits 10 n

def formatSigned : Int → CString
  | .ofNat n => formatUnsigned n
  | .negSucc n => '-' :: formatUnsigned (n + 1)

/-- Storing a wider integer in an `int16`. -/
def wrapInt16 (n : Int) : Int :=
  (n + 2 ^ 15) % 2 ^ 16 - 2 ^ 15

/-- Storing a wider integer in an `int32`. -/
def wrapInt32 (n : Int) : Int :=
  (n + 2 ^ 31) % 2 ^ 32 - 2 ^ 31

def InInt32 (n : Int) : Prop :=
  -2 ^ 31 ≤ n ∧ n < 2 ^ 31

instance (n : Int) : Decidable (InInt32 n) :=
  inferInstanceAs (Decidable (_ ∧ _))

lemma wrapInt16_of_range {n : Int} (h : -2 ^ 15 ≤ n) (h' : n < 2 ^ 15) : wrapInt16 n = n := by
  unfold wrapInt16
  omega

lemma wrapInt16_wrapInt16_add (m n : Int) : wrapInt16 (wrapInt16 m + n) = wrapInt16 (m + n) := by
  unfold wrapInt16
  omega

lemma wrapInt32_of_range {n : Int} (h : InInt32 n) : wrapInt32 n = n := by
  unfold InInt32 at h
  unfold wrapInt32
  omega

inductive ErrCode
  | syntaxError
  | invalidParameterValue
  | objectNotInPrerequisiteState
  | undefinedObject
  | undefinedSchema
  | duplicateObject
  | insufficientPrivilege
  | featureNotSupported
  | uniqueViolation
  | configurationLimitExceeded
  | numericValueOutOfRange
  | invalidTextRepresentation
  | externalRoutineException
  | fileAccess
  | queryCanceled
  | nameTooLong
  | internalError
  deriving Repr, DecidableEq

/-- What `ereport(ERROR)` carries; raising it rolls the transaction back. -/
structure QxError where
  errcode : ErrCode
  errmsg : String
  errdetail : String
  deriving Repr, DecidableEq

def ereport {α : Type} (errcode : ErrCode) (errmsg : String) : Except QxError α :=
  .error ⟨errcode, errmsg, ""⟩

def ereportDetail {α : Type} (errcode : ErrCode) (errmsg errdetail : String) :
    Except QxError α :=
  .error ⟨errcode, errmsg, errdetail⟩

/-- The catalogs that rows of the model are inserted into. -/
inductive QxRelation
  | provider
  | principal
  | tool
  | task
  | attempt
  | step
  | checkpoint
  | schedulerQueue
  | schedulerLease
  | schedulerHeartbeat
  | trace
  deriving Repr, DecidableEq

/-- `GetNewOidWithIndex`: some valid identifier that the relation does not use yet. Nothing else
is promised, in particular no order: the server's counter wraps around. -/
structure OidSource where
  next : QxRelation → List Oid → Oid
  next_valid : ∀ rel used, next rel used ≠ invalidOid
  next_fresh : ∀ rel used, next rel used ∉ used

lemma le_foldr_max {oids : List Oid} {oid : Oid} (h : oid ∈ oids) : oid ≤ oids.foldr max 0 := by
  induction oids with
  | nil => cases h
  | cons other oids ih =>
    rcases List.mem_cons.mp h with rfl | hmem
    · exact Nat.le_max_left _ _
    · exact Nat.le_trans (ih hmem) (Nat.le_max_right _ _)

/-- A counter that has not wrapped: one more than the largest identifier in use. -/
def OidSource.counting : OidSource where
  next _ used := used.foldr max 0 + 1
  next_valid _ _ := Nat.succ_ne_zero _
  next_fresh _ _ := fun h => Nat.not_succ_le_self _ (le_foldr_max h)

end QhapaqXian
