import Mathlib.Data.List.Forall2
import Mathlib.Data.List.MinMax
import Mathlib.Data.List.Nodup
import Mathlib.Tactic.Lemma

/-!
# Lists of rows

Facts about rows in insertion order: keys that stay distinct, rows written for the elements of a
list, and the row with the largest key.
-/

namespace QhapaqXian.Library

variable {rows : List α} {f : α → Nat}
variable {α β : Type}
variable {as : List α} {bs : List β} {R : α → β → Prop}

lemma nodup_map_concat {f : α → β} {a : α} (h : (as.map f).Nodup) (ha : f a ∉ as.map f) :
    ((as ++ [a]).map f).Nodup := by
  rw [List.map_append, List.map_singleton]
  exact List.nodup_append.mpr ⟨h, List.nodup_singleton _, fun x hx y hy hxy =>
    ha (List.mem_singleton.mp hy ▸ hxy ▸ hx)⟩

lemma keyFree_iff {group number : Type} [DecidableEq group] [DecidableEq number] {rows : List α}
    {f : α → group} {g : α → number} {key : group} {n : number} :
    (!rows.any fun row => f row == key && g row == n) = true ↔
      n ∉ (rows.filter (f · == key)).map g := by
  simp only [Bool.not_eq_true', List.any_eq_false, Bool.and_eq_true, beq_iff_eq, List.mem_map,
    List.mem_filter, not_exists, not_and, and_imp]

lemma filterMap_toList (f : α → Option β) (a : Option α) :
    a.toList.filterMap f = (a.bind f).toList := by
  cases a with
  | none => rfl
  | some a => cases h : f a <;> simp [h]

lemma exists_of_forall₂ (h : List.Forall₂ R as bs) {b : β} (hb : b ∈ bs) : ∃ a ∈ as, R a b := by
  induction h with
  | nil => exact absurd hb List.not_mem_nil
  | cons hr _ ih =>
    rcases List.mem_cons.mp hb with rfl | hb
    · exact ⟨_, List.mem_cons_self, hr⟩
    · obtain ⟨a, ha, hab⟩ := ih hb
      exact ⟨a, List.mem_cons_of_mem _ ha, hab⟩

lemma exists_row_of_forall₂ (h : List.Forall₂ R as bs) {a : α} (ha : a ∈ as) : ∃ b ∈ bs, R a b := by
  induction h with
  | nil => exact absurd ha List.not_mem_nil
  | cons hr _ ih =>
    rcases List.mem_cons.mp ha with rfl | ha
    · exact ⟨_, List.mem_cons_self, hr⟩
    · obtain ⟨b, hb, hab⟩ := ih ha
      exact ⟨b, List.mem_cons_of_mem _ hb, hab⟩

lemma map_eq_of_forall₂ {γ : Type} {f : α → γ} {g : β → γ} (h : List.Forall₂ R as bs)
    (hkey : ∀ a b, R a b → g b = f a) :
    bs.map g = as.map f := by
  induction h with
  | nil => rfl
  | cons hr _ ih => rw [List.map_cons, List.map_cons, hkey _ _ hr, ih]

lemma countP_listed {listed rows : List α} (hperm : listed.Perm rows) (keep : α → Bool)
    (f : α → β) (p : β → Bool) :
    ((listed.filter keep).map f).countP p = rows.countP fun row => keep row && p (f row) := by
  rw [List.countP_map, List.countP_filter, hperm.countP_eq]
  exact List.countP_congr fun row _ => by simp [and_comm]

lemma countP_eq_countP_iff {p q : α → Bool} (h : ∀ a, q a = true → p a = true) :
    as.countP p = as.countP q ↔ ∀ a ∈ as, p a = true → q a = true := by
  constructor
  · intro hcount a ha hp
    have hsub : (as.filter q).Sublist (as.filter p) := by
      rw [← List.filter_eq_self.mpr fun a ha => h a (List.mem_filter.mp ha).2]
      exact (List.filter_sublist (l := as)).filter p
    have heq := hsub.eq_of_length (by simpa only [List.countP_eq_length_filter] using hcount.symm)
    have hmem : a ∈ as.filter q := by
      rw [heq]
      exact List.mem_filter.mpr ⟨ha, hp⟩
    exact (List.mem_filter.mp hmem).2
  · intro hall
    exact List.countP_congr fun a ha => ⟨hall a ha, h a⟩

def LastLargest (f : α → Nat) (rows : List α) : Prop :=
  ∀ last, rows.getLast? = some last → ∀ row ∈ rows, f row ≤ f last

/-- Under distinct keys the row with the largest key is the last one exactly when no key is above
the last one's. -/
theorem argmax_eq_getLast?_iff (hnodup : (rows.map f).Nodup) :
    rows.argmax f = rows.getLast? ↔ LastLargest f rows := by
  constructor
  · intro hmax last hlast row hrow
    exact List.le_of_mem_argmax hrow (hmax.trans hlast)
  · intro hle
    cases hlast : rows.getLast? with
    | none => rw [List.getLast?_eq_none_iff.mp hlast, List.argmax_nil]
    | some last =>
      cases hmax : rows.argmax f with
      | none => rw [List.argmax_eq_none.mp hmax] at hlast; cases hlast
      | some best =>
        have hbest := List.argmax_mem hmax
        have hmem := List.mem_of_getLast? hlast
        have hkey := Nat.le_antisymm (hle last hlast best hbest) (List.le_of_mem_argmax hmem hmax)
        rw [List.inj_on_of_nodup_map hnodup hbest hmem hkey]

lemma lastLargest_of_pairwise (h : rows.Pairwise fun a b => f a < f b) : LastLargest f rows := by
  intro last hlast row hrow
  obtain ⟨front, rfl⟩ := List.getLast?_eq_some_iff.mp hlast
  rcases List.mem_append.mp hrow with hfront | hself
  · exact ((List.pairwise_append.mp h).2.2 row hfront last (List.mem_singleton.mpr rfl)).le
  · rw [List.mem_singleton.mp hself]

lemma pairwise_append_next {f : α → Nat} {rows : List α} {added : Option α} {n : Nat}
    (h : rows.Pairwise fun a b => f a < f b) (hlt : ∀ row ∈ rows, f row < n)
    (hadded : ∀ row, added = some row → f row = n) :
    (rows ++ added.toList).Pairwise (fun a b => f a < f b) ∧
      ∀ row ∈ rows ++ added.toList, f row < n + 1 := by
  cases added with
  | none =>
    rw [Option.toList_none, List.append_nil]
    exact ⟨h, fun row hrow => (hlt row hrow).trans (Nat.lt_succ_self n)⟩
  | some new =>
    have hnew := hadded new rfl
    rw [Option.toList_some]
    constructor
    · apply List.pairwise_append.mpr
      refine ⟨h, List.pairwise_singleton _ _, fun a ha b hb => ?_⟩
      rw [List.mem_singleton.mp hb, hnew]
      exact hlt a ha
    · intro row hrow
      rcases List.mem_append.mp hrow with hold | hself
      · exact (hlt row hold).trans (Nat.lt_succ_self n)
      · rw [List.mem_singleton.mp hself, hnew]
        exact Nat.lt_succ_self n

/-- When keys grow with every insertion, the row with the largest key is the last one. -/
theorem argmax_eq_getLast? {f : α → Nat} {rows : List α}
    (h : rows.Pairwise fun a b => f a < f b) : rows.argmax f = rows.getLast? := by
  have hnodup : (rows.map f).Nodup := List.pairwise_map.mpr (h.imp fun hlt => Nat.ne_of_lt hlt)
  exact (argmax_eq_getLast?_iff hnodup).mpr (lastLargest_of_pairwise h)

/-- New rows under growing keys: the row with the largest key among the selected ones has a property
that every new one has, if it had it before or if there is a new one. -/
lemma argmax_append_any {f : α → Nat} {rows added : List α} {p q : α → Bool}
    (h : (rows ++ added).Pairwise fun a b => f a < f b)
    (hadded : ∀ row ∈ added, p row = true → q row = true)
    (hlast : ((rows.filter p).argmax f).any q = true ∨ ∃ row ∈ added, p row = true) :
    (((rows ++ added).filter p).argmax f).any q = true := by
  have hold : (rows.filter p).Pairwise fun a b => f a < f b :=
    (List.pairwise_append.mp h).1.filter _
  rw [argmax_eq_getLast? (h.filter _), List.filter_append]
  rw [argmax_eq_getLast? hold] at hlast
  rcases List.eq_nil_or_concat (added.filter p) with hnone | ⟨init, row, hsome⟩
  · rw [hnone, List.append_nil]
    refine hlast.resolve_right ?_
    rintro ⟨row, hrow, hp⟩
    exact List.filter_eq_nil_iff.mp hnone row hrow hp
  · have hmem : row ∈ added.filter p := by
      rw [hsome, List.concat_eq_append]
      exact List.mem_append_right _ (List.mem_singleton.mpr rfl)
    obtain ⟨hrow, hp⟩ := List.mem_filter.mp hmem
    rw [hsome, List.concat_eq_append, ← List.append_assoc, List.getLast?_concat, Option.any_some]
    exact hadded row hrow hp

section Replace

variable {κ : Type} [DecidableEq κ] {key : α → κ} {rows : List α} {row : α}

lemma mem_replace {other : α}
    (h : other ∈ rows.map fun old => if key old == key row then row else old) :
    other = row ∨ other ∈ rows ∧ key other ≠ key row := by
  obtain ⟨old, hold, rfl⟩ := List.mem_map.mp h
  by_cases hkey : key old = key row
  · exact .inl (by rw [if_pos (beq_iff_eq.mpr hkey)])
  · rw [if_neg (by simpa using hkey)]
    exact .inr ⟨hold, hkey⟩

lemma mem_replace_of_ne {other : α} (h : other ∈ rows) (hkey : key other ≠ key row) :
    other ∈ rows.map fun old => if key old == key row then row else old :=
  List.mem_map.mpr ⟨other, h, if_neg (by simpa using hkey)⟩

lemma mem_replace_self {old : α} (h : old ∈ rows) (hkey : key old = key row) :
    row ∈ rows.map fun old => if key old == key row then row else old :=
  List.mem_map.mpr ⟨old, h, if_pos (by simpa using hkey)⟩

lemma map_replace {f : α → β} (h : ∀ old ∈ rows, key old = key row → f old = f row) :
    (rows.map fun old => if key old == key row then row else old).map f = rows.map f := by
  rw [List.map_map]
  refine List.map_congr_left fun old hold => ?_
  simp only [Function.comp_apply]
  split
  · next hkey => exact (h old hold (by simpa using hkey)).symm
  · rfl

lemma find?_key_eq_some (hnodup : (rows.map key).Nodup) (hrow : row ∈ rows) :
    (rows.find? fun other => key other == key row) = some row := by
  cases hfind : rows.find? fun other => key other == key row with
  | none =>
    have hnone := List.find?_eq_none.mp hfind row hrow
    simp at hnone
  | some other =>
    have hkey : key other = key row := by simpa using List.find?_some hfind
    rw [List.inj_on_of_nodup_map hnodup (List.mem_of_find?_eq_some hfind) hrow hkey]

end Replace

lemma foldl_keeps {γ : Type} {step : β → α → β} {f : β → γ} (h : ∀ b a, f (step b a) = f b)
    (as : List α) (b : β) : f (as.foldl step b) = f b := by
  induction as generalizing b with
  | nil => rfl
  | cons a as ih => rw [List.foldl_cons, ih, h]

end QhapaqXian.Library
