import Mathlib.Data.List.Nodup
import Mathlib.Tactic.Lemma

/-!
# Tables with a unique identifier

A table keeps its rows in insertion order under a unique index on their identifier. Zero is not an
identifier. A row whose identifier the index refuses is not stored.
-/

namespace QhapaqXian.Library

class Identified (ρ : Type) where
  ident : ρ → Nat

export Identified (ident)

structure Table (ρ : Type) [Identified ρ] where
  rows : List ρ
  nodup : (rows.map ident).Nodup
  valid : ∀ row ∈ rows, ident row ≠ 0

namespace Table

variable {ρ : Type} [Identified ρ]
variable {key : Nat} {table : Table ρ} {row : ρ} {f : ρ → ρ}

def empty : Table ρ :=
  ⟨[], List.nodup_nil, fun _ h => nomatch h⟩

def idents (table : Table ρ) : List Nat :=
  table.rows.map ident

/-- The unique index accepts the row. -/
def Admits (table : Table ρ) (row : ρ) : Prop :=
  ident row ≠ 0 ∧ ident row ∉ table.idents

instance (table : Table ρ) (row : ρ) : Decidable (table.Admits row) :=
  inferInstanceAs (Decidable (_ ∧ _))

def insert (table : Table ρ) (row : ρ) : Table ρ :=
  if h : table.Admits row then
    { rows := table.rows ++ [row]
      nodup := by
        rw [List.map_append, List.nodup_append]
        refine ⟨table.nodup, List.nodup_singleton _, ?_⟩
        rintro a ha b hb rfl
        rw [List.map_singleton, List.mem_singleton] at hb
        exact h.2 (hb ▸ ha)
      valid := by
        intro other hother
        rcases List.mem_append.mp hother with hold | hnew
        · exact table.valid other hold
        · rw [List.mem_singleton.mp hnew]
          exact h.1 }
  else table

lemma rows_modified (hf : ∀ row, ident (f row) = ident row) (rows : List ρ) (key : Nat) :
    (rows.map fun row => if ident row = key then f row else row).map ident =
      rows.map ident := by
  rw [List.map_map]
  refine List.map_congr_left fun row _ => ?_
  simp only [Function.comp_apply]
  split
  · exact hf row
  · rfl

def modify (table : Table ρ) (key : Nat) (f : ρ → ρ) (hf : ∀ row, ident (f row) = ident row) :
    Table ρ where
  rows := table.rows.map fun row => if ident row = key then f row else row
  nodup := by
    rw [rows_modified hf]
    exact table.nodup
  valid := by
    intro row hrow
    obtain ⟨old, hold, rfl⟩ := List.mem_map.mp hrow
    split
    · rw [hf]
      exact table.valid old hold
    · exact table.valid old hold

def find? (table : Table ρ) (key : Nat) : Option ρ :=
  table.rows.find? fun row => ident row == key

def since (old new : Table ρ) : List ρ :=
  new.rows.drop old.rows.length

lemma since_eq {old new : Table ρ} {rows : List ρ} (h : new.rows = old.rows ++ rows) :
    old.since new = rows := by
  rw [since, h, List.drop_left]

lemma rows_insert (h : table.Admits row) :
    (table.insert row).rows = table.rows ++ [row] := by
  rw [insert, dif_pos h]

lemma mem_insert_of_mem {other : ρ} (h : other ∈ table.rows) :
    other ∈ (table.insert row).rows := by
  unfold insert
  split
  · exact List.mem_append_left _ h
  · exact h

lemma mem_of_mem_insert {other : ρ} (h : other ∈ (table.insert row).rows) :
    other ∈ table.rows ∨ other = row := by
  unfold insert at h
  split at h
  · rcases List.mem_append.mp h with hold | hnew
    · exact .inl hold
    · exact .inr (List.mem_singleton.mp hnew)
  · exact .inl h

@[simp] lemma rows_modify (table : Table ρ) (key : Nat) (f : ρ → ρ)
    (hf : ∀ row, ident (f row) = ident row) :
    (table.modify key f hf).rows =
      table.rows.map fun row => if ident row = key then f row else row := rfl

@[simp] lemma idents_modify (table : Table ρ) (key : Nat) (f : ρ → ρ)
    (hf : ∀ row, ident (f row) = ident row) :
    (table.modify key f hf).idents = table.idents :=
  rows_modified hf table.rows key

lemma eq_of_ident_eq {other : ρ} (hrow : row ∈ table.rows) (hother : other ∈ table.rows)
    (h : ident row = ident other) : row = other :=
  List.inj_on_of_nodup_map table.nodup hrow hother h

lemma find?_eq_some_iff :
    table.find? key = some row ↔ row ∈ table.rows ∧ ident row = key := by
  constructor
  · intro h
    exact ⟨List.mem_of_find?_eq_some h, by simpa using List.find?_some h⟩
  · rintro ⟨hrow, rfl⟩
    cases hfind : table.find? (ident row) with
    | none =>
      have h := List.find?_eq_none.mp hfind row hrow
      simp at h
    | some other =>
      have hident : ident other = ident row := by simpa using List.find?_some hfind
      rw [eq_of_ident_eq (List.mem_of_find?_eq_some hfind) hrow hident]

lemma find?_eq_none_iff :
    table.find? key = none ↔ key ∉ table.idents := by
  simp only [find?, List.find?_eq_none, idents, List.mem_map, not_exists, not_and, beq_iff_eq]

lemma find?_insert (h : table.Admits row) (key : Nat) :
    (table.insert row).find? key = if ident row = key then some row else table.find? key := by
  split
  · rename_i hkey
    rw [find?_eq_some_iff, rows_insert h]
    exact ⟨List.mem_append_right _ (List.mem_singleton.mpr rfl), hkey⟩
  · rename_i hkey
    have hrow : [row].find? (fun other => ident other == key) = none := by simp [hkey]
    rw [find?, rows_insert h, List.find?_append, hrow, Option.or_none, find?]

lemma find?_modify (hf : ∀ row, ident (f row) = ident row) (key' : Nat) :
    (table.modify key f hf).find? key' =
      if key = key' then (table.find? key').map f else table.find? key' := by
  cases hfind : table.find? key' with
  | none =>
    have hnone : (table.modify key f hf).find? key' = none := by
      rw [find?_eq_none_iff, idents_modify]
      exact find?_eq_none_iff.mp hfind
    rw [hnone, Option.map_none, ite_self]
  | some row =>
    obtain ⟨hrow, hident⟩ := find?_eq_some_iff.mp hfind
    have hmem : (if ident row = key then f row else row) ∈ (table.modify key f hf).rows := by
      rw [rows_modify]
      exact List.mem_map_of_mem hrow
    have hsome : (table.modify key f hf).find? key' =
        some (if ident row = key then f row else row) := by
      refine find?_eq_some_iff.mpr ⟨hmem, ?_⟩
      split
      · rw [hf, hident]
      · exact hident
    rw [hsome, hident]
    by_cases hkey : key = key'
    · rw [if_pos hkey.symm, if_pos hkey, Option.map_some]
    · rw [if_neg (Ne.symm hkey), if_neg hkey]

lemma filter_insert (h : table.Admits row) (group : ρ → Nat) (key : Nat) :
    (table.insert row).rows.filter (group · == key) =
      if group row = key then table.rows.filter (group · == key) ++ [row]
      else table.rows.filter (group · == key) := by
  rw [rows_insert h, List.filter_append]
  split <;> simp [*]

lemma filter_modify (hf : ∀ row, ident (f row) = ident row) (group : ρ → Nat)
    (hgroup : ∀ row, group (f row) = group row) (key' : Nat) :
    (table.modify key f hf).rows.filter (group · == key') =
      (table.rows.filter (group · == key')).map fun row =>
        if ident row = key then f row else row := by
  rw [rows_modify, List.filter_map]
  congr 1
  refine List.filter_congr fun row _ => ?_
  simp only [Function.comp_apply]
  split
  · rw [hgroup]
  · rfl

lemma rows_modify_of_notMem {rows : List ρ} (h : ∀ row ∈ rows, ident row ≠ key) :
    (rows.map fun row => if ident row = key then f row else row) = rows := by
  conv_rhs => rw [← List.map_id rows]
  refine List.map_congr_left fun row hrow => ?_
  rw [if_neg (h row hrow), id]

end Table

end QhapaqXian.Library
