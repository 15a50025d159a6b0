import Mathlib.Data.List.Nodup
import Mathlib.Tactic.Lemma

/-!
# Scans of an index

An index holds the rows of a table in the order of its key. A scan goes through the entries,
outputs what it makes of those it selects, and may stop by a counter that it tests behind an output.
-/

namespace QhapaqXian.Library

variable {α β : Type}

/-- The loop of such a scan, with the number of rows that are output so far. -/
def emitRows (emit : α → Option β) (limit : Nat) : Nat → List α → List β
  | _, [] => []
  | emitted, row :: rows =>
    match emit row with
    | none => emitRows emit limit emitted rows
    | some output =>
      output :: if limit ≤ emitted + 1 then [] else emitRows emit limit (emitted + 1) rows

/-- The first output precedes every test of the counter. -/
lemma emitRows_eq_take (emit : α → Option β) (limit emitted : Nat) (rows : List α) :
    emitRows emit limit emitted rows =
      (rows.filterMap emit).take (max (limit - emitted) 1) := by
  induction rows generalizing emitted with
  | nil => simp [emitRows]
  | cons row rows ih =>
    rw [emitRows]
    cases hemit : emit row with
    | none => rw [List.filterMap_cons_none hemit, ih]
    | some output =>
      rw [List.filterMap_cons_some hemit]
      by_cases hstop : limit ≤ emitted + 1
      · have hone : max (limit - emitted) 1 = 1 := by omega
        simp [hstop, hone]
      · have hmore : max (limit - emitted) 1 = max (limit - (emitted + 1)) 1 + 1 := by omega
        simp [hstop, hmore, ih]

lemma emitRows_eq_take_iff (emit : α → Option β) (limit : Nat) (rows : List α) :
    emitRows emit limit 0 rows = (rows.filterMap emit).take limit ↔
      limit ≠ 0 ∨ rows.filterMap emit = [] := by
  rw [emitRows_eq_take, Nat.sub_zero]
  by_cases hlimit : limit = 0
  · subst hlimit
    cases rows.filterMap emit with
    | nil => simp
    | cons output outputs => simp
  · have hmax : max limit 1 = limit := by omega
    simp [hlimit, hmax]

/-- The selected entries of an index are the index of the selected rows, if the key tells any two
rows apart. -/
lemma filter_mergeSort {le : α → α → Bool} {rows : List α} (p : α → Bool)
    (htrans : ∀ a b c, le a b = true → le b c = true → le a c = true)
    (htotal : ∀ a b, (le a b || le b a) = true)
    (hanti : ∀ a ∈ rows, ∀ b ∈ rows, le a b = true → le b a = true → a = b) :
    (rows.mergeSort le).filter p = (rows.filter p).mergeSort le := by
  have hperm : ((rows.mergeSort le).filter p).Perm ((rows.filter p).mergeSort le) :=
    ((List.mergeSort_perm rows le).filter p).trans (List.mergeSort_perm _ le).symm
  apply hperm.eq_of_pairwise
  · intro a b ha hb hab hba
    have hrows : ∀ {c}, c ∈ (rows.mergeSort le).filter p → c ∈ rows := fun hc =>
      (List.mergeSort_perm rows le).mem_iff.mp (List.mem_filter.mp hc).1
    exact hanti a (hrows ha) b (hrows (hperm.mem_iff.mpr hb)) hab hba
  · exact (List.pairwise_mergeSort htrans htotal rows).filter p
  · exact List.pairwise_mergeSort htrans htotal _

end QhapaqXian.Library
