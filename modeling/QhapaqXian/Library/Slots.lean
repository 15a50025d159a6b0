import Mathlib.Algebra.Order.Ring.Int
import Mathlib.Data.List.Nodup
import Mathlib.Tactic.Lemma

/-!
# Tables of slots

A table in shared memory has a fixed number of slots, each free or holding an entry.
-/

namespace QhapaqXian.Library

abbrev Slots (ε : Type) := List (Option ε)

namespace Slots

variable {ε : Type}
variable {slots : Slots ε} {entry other : ε} {p : ε → Bool} {f : ε → ε}

def entries (slots : Slots ε) : List ε :=
  slots.filterMap id

def find? (p : ε → Bool) (slots : Slots ε) : Option ε :=
  slots.entries.find? p

def hasRoom (slots : Slots ε) : Bool :=
  slots.any Option.isNone

def claim (entry : ε) : Slots ε → Slots ε
  | [] => []
  | none :: slots => some entry :: slots
  | some other :: slots => some other :: claim entry slots

def alter (p : ε → Bool) (f : ε → ε) : Slots ε → Slots ε
  | [] => []
  | none :: slots => none :: alter p f slots
  | some entry :: slots =>
    if p entry then some (f entry) :: slots else some entry :: alter p f slots

/-- Change the entry that matches, or put a new one into a free slot. -/
def upsert (p : ε → Bool) (f : ε → ε) (entry : ε) (slots : Slots ε) : Slots ε :=
  if (slots.find? p).isSome then slots.alter p f else slots.claim entry

def clear (p : ε → Bool) : Slots ε → Slots ε
  | [] => []
  | none :: slots => none :: clear p slots
  | some entry :: slots => if p entry then none :: slots else some entry :: clear p slots

/-- Free the slots of all entries that match. -/
def clearAll (p : ε → Bool) (slots : Slots ε) : Slots ε :=
  slots.map (Option.filter fun entry => !p entry)

@[simp] lemma entries_append (slots others : Slots ε) :
    entries (slots ++ others) = slots.entries ++ others.entries :=
  List.filterMap_append

@[simp] lemma entries_some_cons (entry : ε) (slots : Slots ε) :
    entries (some entry :: slots) = entry :: slots.entries := rfl

@[simp] lemma entries_none_cons (slots : Slots ε) :
    entries (none :: slots) = slots.entries := rfl

@[simp] lemma mem_entries_iff :
    entry ∈ slots.entries ↔ some entry ∈ slots := by
  simp [entries]

lemma find?_eq_none_iff :
    slots.find? p = none ↔ ∀ entry, some entry ∈ slots → p entry = false := by
  simp [find?]

/-! ## How an operation changes a table -/

section Split

variable {before after : Slots ε} {held : ε}
  (hbefore : ∀ entry, some entry ∈ before → p entry = false) (hheld : p held = true)
include hbefore hheld

lemma find?_split : find? p (before ++ some held :: after) = some held := by
  have hnone : before.find? p = none := find?_eq_none_iff.mpr hbefore
  rw [find?] at hnone ⊢
  rw [entries_append, List.find?_append, hnone, entries_some_cons, List.find?_cons_of_pos hheld]
  rfl

lemma change_split (f : ε → ε) :
    alter p f (before ++ some held :: after) = before ++ some (f held) :: after ∧
      clear p (before ++ some held :: after) = before ++ none :: after := by
  induction before with
  | nil => exact ⟨if_pos hheld, if_pos hheld⟩
  | cons slot before ih =>
    obtain ⟨halter, hclear⟩ := ih fun entry hentry => hbefore entry (List.mem_cons_of_mem _ hentry)
    cases slot with
    | none => simp [alter, clear, halter, hclear]
    | some first => simp [alter, clear, hbefore first (by simp), halter, hclear]

lemma clear_split : clear p (before ++ some held :: after) = before ++ none :: after :=
  (change_split hbefore hheld id).2

end Split

/-- The first entry that matches, with what stands in front of it and behind it. -/
lemma exists_split (h : slots.find? p = some entry) :
    ∃ before after, slots = before ++ some entry :: after ∧
      (∀ other, some other ∈ before → p other = false) ∧ p entry = true := by
  induction slots with
  | nil => cases h
  | cons slot slots ih =>
    cases slot with
    | none =>
      obtain ⟨before, after, rfl, hbefore, hentry⟩ := ih h
      exact ⟨none :: before, after, rfl, by simpa using hbefore, hentry⟩
    | some first =>
      cases hfirst : p first with
      | true =>
        obtain rfl : first = entry := by simpa [find?, hfirst] using h
        exact ⟨[], slots, rfl, by simp, hfirst⟩
      | false =>
        obtain ⟨before, after, rfl, hbefore, hentry⟩ := ih (by simpa [find?, hfirst] using h)
        exact ⟨some first :: before, after, rfl, by simpa [hfirst] using hbefore, hentry⟩

/-- The first free slot, if there is one. -/
lemma claim_cases (entry : ε) (slots : Slots ε) :
    (∃ before after, slots = before ++ none :: after ∧
      slots.claim entry = before ++ some entry :: after) ∨
    slots.hasRoom = false ∧ slots.claim entry = slots := by
  induction slots with
  | nil => exact .inr ⟨rfl, rfl⟩
  | cons slot slots ih =>
    cases slot with
    | none => exact .inl ⟨[], slots, rfl, rfl⟩
    | some first =>
      obtain ⟨before, after, rfl, hclaim⟩ | ⟨hfull, hclaim⟩ := ih
      · exact .inl ⟨some first :: before, after, rfl, congrArg _ hclaim⟩
      · exact .inr ⟨hfull, congrArg _ hclaim⟩

/-- An update changes the first entry that matches, takes the first free slot or, in a full table,
changes nothing. -/
lemma upsert_cases (p : ε → Bool) (f : ε → ε) (entry : ε) (slots : Slots ε) :
    (∃ before held after, slots = before ++ some held :: after ∧
      (∀ entry, some entry ∈ before → p entry = false) ∧ p held = true ∧
      slots.upsert p f entry = before ++ some (f held) :: after) ∨
    slots.find? p = none ∧
      ((∃ before after, slots = before ++ none :: after ∧
        slots.upsert p f entry = before ++ some entry :: after) ∨
      slots.hasRoom = false ∧ slots.upsert p f entry = slots) := by
  unfold upsert
  split
  · rename_i hfound
    obtain ⟨held, hfound⟩ := Option.isSome_iff_exists.mp hfound
    obtain ⟨before, after, rfl, hbefore, hheld⟩ := exists_split hfound
    exact .inl ⟨before, held, after, rfl, hbefore, hheld, (change_split hbefore hheld f).1⟩
  · rename_i hnone
    exact .inr ⟨Option.not_isSome_iff_eq_none.mp hnone, claim_cases entry slots⟩

lemma clear_eq_self (h : slots.find? p = none) : slots.clear p = slots := by
  induction slots with
  | nil => rfl
  | cons slot slots ih =>
    have hrest : find? p slots = none := find?_eq_none_iff.mpr fun other hother =>
      find?_eq_none_iff.mp h other (List.mem_cons_of_mem _ hother)
    cases slot with
    | none => rw [clear, ih hrest]
    | some held =>
      have hheld := find?_eq_none_iff.mp h held (by simp)
      rw [clear, if_neg (by simp [hheld]), ih hrest]

lemma clear_cases (p : ε → Bool) (slots : Slots ε) :
    (∃ before held after, slots = before ++ some held :: after ∧
      (∀ entry, some entry ∈ before → p entry = false) ∧ p held = true ∧
      slots.clear p = before ++ none :: after) ∨
    slots.find? p = none ∧ slots.clear p = slots := by
  cases hfound : slots.find? p with
  | none => exact .inr ⟨rfl, clear_eq_self hfound⟩
  | some held =>
    obtain ⟨before, after, rfl, hbefore, hheld⟩ := exists_split hfound
    exact .inl ⟨before, held, after, rfl, hbefore, hheld, clear_split hbefore hheld⟩

/-! ## What a table holds -/

lemma hasRoom_append_none (before after : Slots ε) : hasRoom (before ++ none :: after) = true := by
  simp [hasRoom]

/-- What an update leaves to be found: the changed entry, the new one, or, in a full table,
nothing. -/
theorem find?_upsert (hf : ∀ other, p other = true → p (f other) = true) (hentry : p entry = true)
    (slots : Slots ε) :
    (slots.upsert p f entry).find? p =
      if (slots.find? p).isSome then (slots.find? p).map f
      else if slots.hasRoom then some entry else none := by
  obtain ⟨before, held, after, rfl, hbefore, hheld, h⟩ | ⟨hnone, hrest⟩ :=
    upsert_cases p f entry slots
  · rw [h, find?_split hbefore hheld, find?_split hbefore (hf held hheld)]
    rfl
  · rw [hnone]
    obtain ⟨before, after, rfl, h⟩ | ⟨hfull, h⟩ := hrest
    · rw [h, hasRoom_append_none]
      exact find?_split (fun other hmem => find?_eq_none_iff.mp hnone other (by simp [hmem])) hentry
    · rw [h, hfull, hnone]
      rfl

lemma mem_of_mem_clear (h : some entry ∈ slots.clear p) : some entry ∈ slots := by
  obtain ⟨before, held, after, rfl, -, -, hclear⟩ | ⟨-, hclear⟩ := clear_cases p slots
  · rw [hclear] at h
    simp only [List.mem_append, List.mem_cons, reduceCtorEq, false_or] at h ⊢
    exact h.imp_right .inr
  · rwa [hclear] at h

lemma mem_clear_of_not (hentry : p entry = false) (h : some entry ∈ slots) :
    some entry ∈ slots.clear p := by
  obtain ⟨before, held, after, rfl, -, hheld, hclear⟩ | ⟨-, hclear⟩ := clear_cases p slots
  · have hne : entry ≠ held := fun heq => by simp [heq, hheld] at hentry
    rw [hclear]
    simpa [hne] using h
  · rwa [hclear]

lemma mem_clearAll_iff :
    some entry ∈ slots.clearAll p ↔ some entry ∈ slots ∧ p entry = false := by
  simp [clearAll, Option.filter_eq_some_iff]

lemma mem_upsert (hf : ∀ other, p other = true → f other = entry)
    (h : (slots.find? p).isSome = true ∨ slots.hasRoom = true) :
    some entry ∈ slots.upsert p f entry := by
  obtain ⟨before, held, after, -, -, hheld, hupsert⟩ | ⟨hnone, hrest⟩ :=
    upsert_cases p f entry slots
  · simp [hupsert, hf held hheld]
  · obtain ⟨before, after, -, hupsert⟩ | ⟨hfull, -⟩ := hrest
    · simp [hupsert]
    · simp [hnone, hfull] at h

lemma upsert_of_full (h : slots.find? p = none) (hfull : slots.hasRoom = false) :
    slots.upsert p f entry = slots := by
  obtain ⟨before, held, after, rfl, hbefore, hheld, -⟩ | ⟨-, ⟨_, _, rfl, -⟩ | ⟨-, hupsert⟩⟩ :=
    upsert_cases p f entry slots
  · cases h.symm.trans (find?_split hbefore hheld)
  · cases hfull.symm.trans (hasRoom_append_none _ _)
  · exact hupsert

section upsert

variable (hf : ∀ other, p other = true → f other = entry)
include hf

lemma mem_of_mem_upsert (h : some other ∈ slots.upsert p f entry) :
    other = entry ∨ some other ∈ slots := by
  obtain ⟨before, held, after, rfl, -, hheld, hupsert⟩ | ⟨-, ⟨_, _, rfl, hupsert⟩ | ⟨-, hupsert⟩⟩ :=
    upsert_cases p f entry slots
  · simp only [hupsert, hf held hheld, List.mem_append, List.mem_cons, Option.some.injEq] at h ⊢
    tauto
  · simp only [hupsert, List.mem_append, List.mem_cons, Option.some.injEq] at h ⊢
    tauto
  · exact .inr (hupsert ▸ h)

/-- Clearing what was updated leaves nothing new behind. -/
theorem mem_of_mem_clear_upsert (hentry : p entry = true)
    (h : some other ∈ (slots.upsert p f entry).clear p) : some other ∈ slots := by
  obtain ⟨before, held, after, rfl, hbefore, hheld, hupsert⟩ | ⟨hnone, hrest⟩ :=
    upsert_cases p f entry slots
  · rw [hupsert, hf held hheld, clear_split hbefore hentry] at h
    simp only [List.mem_append, List.mem_cons, reduceCtorEq, false_or] at h ⊢
    exact h.imp_right .inr
  · obtain ⟨before, after, rfl, hupsert⟩ | ⟨-, hupsert⟩ := hrest
    · rwa [hupsert, clear_split (fun other hmem => find?_eq_none_iff.mp hnone other (by simp [hmem]))
        hentry] at h
    · exact mem_of_mem_clear (hupsert ▸ h)

end upsert

/-! ## Tables as maps

With a key for every entry, and each key held at most once, a table is a finite map. -/

section Keyed

variable {κ : Type} {key : ε → κ}

/-- No two entries have the same key. -/
def Unique (key : ε → κ) (slots : Slots ε) : Prop :=
  (slots.entries.map key).Nodup

lemma Unique.of_sublist {smaller : Slots ε} (h : Unique key slots)
    (hsub : smaller.entries.Sublist slots.entries) : Unique key smaller :=
  List.Nodup.sublist (hsub.map key) h

lemma Unique.ne_of_split {before after : Slots ε} {held : ε}
    (h : Unique key (before ++ some held :: after))
    (hother : some other ∈ before ∨ some other ∈ after) : key other ≠ key held := by
  have hnodup : (key held :: (before.entries ++ after.entries).map key).Nodup := by
    unfold Unique at h
    simpa [List.nodup_middle] using h
  intro heq
  refine (List.nodup_cons.mp hnodup).1 (heq ▸ List.mem_map_of_mem ?_)
  simpa using hother

lemma entries_clear_sublist (p : ε → Bool) (slots : Slots ε) :
    (slots.clear p).entries.Sublist slots.entries := by
  obtain ⟨before, held, after, rfl, -, -, hclear⟩ | ⟨-, hclear⟩ := clear_cases p slots
  · rw [hclear, entries_append, entries_append]
    exact (List.sublist_cons_self held (entries after)).append_left _
  · rw [hclear]

lemma entries_clearAll (p : ε → Bool) (slots : Slots ε) :
    (slots.clearAll p).entries = slots.entries.filter fun entry => !p entry := by
  unfold clearAll entries
  rw [List.filterMap_map, List.filter_filterMap]
  rfl

lemma hasRoom_iff :
    slots.hasRoom = true ↔ slots.entries.length < slots.length := by
  have hle : slots.entries.length ≤ slots.length := List.length_filterMap_le id slots
  rw [Nat.lt_iff_le_and_ne, and_iff_right hle, Ne, entries, List.length_filterMap_eq_countP,
    List.countP_eq_length]
  simp [hasRoom]

variable [DecidableEq κ]

lemma Unique.upsert (h : Unique key slots) (hf : ∀ other, key (f other) = key other) :
    Unique key (slots.upsert (key · = key entry) f entry) := by
  obtain ⟨before, held, after, rfl, -, -, hupsert⟩ | ⟨hnone, ⟨before, after, rfl, hupsert⟩ |
    ⟨-, hupsert⟩⟩ := upsert_cases (key · = key entry) f entry slots
  · rw [hupsert]
    simpa [Unique, hf] using h
  · rw [hupsert, Unique, entries_append, entries_some_cons, List.map_append, List.map_cons,
      List.nodup_middle, List.nodup_cons, ← List.map_append, ← entries_none_cons after,
      ← entries_append]
    refine ⟨fun hmem => ?_, h⟩
    obtain ⟨other, hother, heq⟩ := List.mem_map.mp hmem
    simpa [heq] using find?_eq_none_iff.mp hnone other (mem_entries_iff.mp hother)
  · rwa [hupsert]

lemma Unique.mem_clear_iff (h : Unique key slots) {k : κ} :
    some entry ∈ slots.clear (key · = k) ↔ some entry ∈ slots ∧ key entry ≠ k := by
  refine ⟨fun hmem => ⟨mem_of_mem_clear hmem, ?_⟩,
    fun ⟨hmem, hkey⟩ => mem_clear_of_not (by simpa using hkey) hmem⟩
  obtain ⟨before, held, after, rfl, -, hheld, hclear⟩ | ⟨hnone, hclear⟩ :=
    clear_cases (key · = k) slots
  · have hother : some entry ∈ before ∨ some entry ∈ after := by simpa [hclear] using hmem
    exact fun heq => h.ne_of_split hother (heq.trans (of_decide_eq_true hheld).symm)
  · simpa using find?_eq_none_iff.mp hnone entry (hclear ▸ hmem)

lemma Unique.clear_eq (h : Unique key slots) (hfound : slots.find? p = some entry) :
    slots.clear p = slots.clear (key · = key entry) := by
  obtain ⟨before, after, rfl, hbefore, hentry⟩ := exists_split hfound
  have hothers : ∀ other, some other ∈ before → decide (key other = key entry) = false :=
    fun other hother => decide_eq_false (h.ne_of_split (.inl hother))
  rw [clear_split hbefore hentry, clear_split hothers (by simp)]

/-- An update of a key replaces its entry, or adds it, and keeps the others. -/
theorem Unique.mem_upsert_iff (h : Unique key slots)
    (hf : ∀ held, key held = key entry → f held = entry)
    (hroom : (slots.find? (key · = key entry)).isSome = true ∨ slots.hasRoom = true) :
    some other ∈ slots.upsert (key · = key entry) f entry ↔
      other = entry ∨ some other ∈ slots ∧ key other ≠ key entry := by
  obtain ⟨before, held, after, rfl, -, hheld, hupsert⟩ | ⟨hnone, hrest⟩ :=
    upsert_cases (key · = key entry) f entry slots
  · have hkey : key held = key entry := of_decide_eq_true hheld
    have hne : some other ∈ before ∨ some other ∈ after → key other ≠ key entry :=
      fun hother => hkey ▸ h.ne_of_split hother
    have hown : other = held → key other = key entry := fun heq => heq ▸ hkey
    simp only [hupsert, hf held hkey, List.mem_append, List.mem_cons, Option.some.injEq]
    tauto
  · have hfresh := fun other hother => find?_eq_none_iff.mp hnone other hother
    simp only [decide_eq_false_iff_not] at hfresh
    obtain ⟨before, after, rfl, hupsert⟩ | ⟨hfull, -⟩ := hrest
    · have hne := hfresh other
      simp only [List.mem_append, List.mem_cons, reduceCtorEq, false_or] at hne
      simp only [hupsert, List.mem_append, List.mem_cons, Option.some.injEq, reduceCtorEq, false_or]
      tauto
    · simp [hnone, hfull] at hroom

end Keyed

/-! ## Other entries, and how much room there is -/

section Others

variable {q : ε → Bool}

theorem find?_upsert_of_not (h : ∀ other, p other = true → q other = false ∧ q (f other) = false)
    (hentry : q entry = false) (slots : Slots ε) :
    (slots.upsert p f entry).find? q = slots.find? q := by
  obtain ⟨before, held, after, rfl, -, hheld, hupsert⟩ | ⟨-, ⟨before, after, rfl, hupsert⟩ |
    ⟨-, hupsert⟩⟩ := upsert_cases p f entry slots
  · simp [hupsert, find?, List.find?_append, h held hheld]
  · simp [hupsert, find?, List.find?_append, hentry]
  · rw [hupsert]

def free (slots : Slots ε) : Nat :=
  slots.countP Option.isNone

lemma hasRoom_iff_free : slots.hasRoom = true ↔ 0 < slots.free := by
  rw [hasRoom, free, List.any_eq_true, List.countP_pos_iff]

lemma free_upsert (entry : ε) (slots : Slots ε) :
    (slots.upsert p f entry).free =
      if (slots.find? p).isSome then slots.free else slots.free - 1 := by
  obtain ⟨before, held, after, rfl, hbefore, hheld, hupsert⟩ | ⟨hnone, hrest⟩ :=
    upsert_cases p f entry slots
  · simp [hupsert, find?_split hbefore hheld, free]
  · obtain ⟨before, after, rfl, hupsert⟩ | ⟨hfull, hupsert⟩ := hrest
    · simp [hupsert, hnone, free]
    · have hnot : ¬ 0 < slots.free := hasRoom_iff_free.not.mp (by simp [hfull])
      rw [hupsert, hnone]
      simp only [Option.isSome_none, Bool.false_eq_true, if_false]
      omega

/-! ## Sums over a table -/

def total (weight : ε → Nat) (slots : Slots ε) : Nat :=
  (slots.entries.map weight).sum

/-- Every update of a table that takes it adds the same amount. -/
theorem total_upsert {weight : ε → Nat} {n : Nat}
    (h : ∀ other, p other = true → weight (f other) = weight other + n)
    (hentry : weight entry = n) (haccepts : (slots.find? p).isSome = true ∨ slots.hasRoom = true) :
    (slots.upsert p f entry).total weight = slots.total weight + n := by
  obtain ⟨before, held, after, rfl, -, hheld, hupsert⟩ | ⟨hnone, hrest⟩ :=
    upsert_cases p f entry slots
  · simp only [hupsert, total, entries_append, entries_some_cons, List.map_append, List.map_cons,
      List.sum_append, List.sum_cons, h held hheld]
    omega
  · obtain ⟨before, after, rfl, hupsert⟩ | ⟨hfull, -⟩ := hrest
    · simp only [hupsert, total, entries_append, entries_some_cons, entries_none_cons,
        List.map_append, List.map_cons, List.sum_append, List.sum_cons, hentry]
      omega
    · simp [hnone, hfull] at haccepts

end Others

end Slots

end QhapaqXian.Library
