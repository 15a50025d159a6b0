import Mathlib.Data.List.DropRight
import Mathlib.Tactic.Lemma

/-!
# Padded words

A text that is a word with filler in front of it, or on both sides of it, and what is left of the
text when the filler is dropped.
-/

namespace QhapaqXian.Library

variable {α : Type} {p : α → Bool} {word text : List α}

def Indented (p : α → Bool) (word text : List α) : Prop :=
  ∃ front, (∀ c ∈ front, p c) ∧ text = front ++ word

def Padded (p : α → Bool) (word text : List α) : Prop :=
  ∃ front back, (∀ c ∈ front, p c) ∧ (∀ c ∈ back, p c) ∧ text = front ++ (word ++ back)

lemma Indented.padded (h : Indented p word text) : Padded p word text := by
  obtain ⟨front, hfront, rfl⟩ := h
  exact ⟨front, [], hfront, by simp, by simp⟩

lemma rdropWhile_append {front : List α} (h : front.rdropWhile p = front) (back : List α) :
    (front ++ back).rdropWhile p = front ++ back.rdropWhile p := by
  induction back using List.reverseRecOn with
  | nil => rw [List.append_nil, h, List.rdropWhile_nil, List.append_nil]
  | append_singleton back c ih =>
    rw [← List.append_assoc, List.rdropWhile_concat, List.rdropWhile_concat, ih]
    split_ifs
    · rfl
    · rw [List.append_assoc]

lemma dropWhile_eq_self_iff_head? (text : List α) :
    text.dropWhile p = text ↔ text.head?.any p = false := by
  cases text with
  | nil => simp
  | cons c text =>
    cases hc : p c with
    | true =>
      have hlength := (List.dropWhile_suffix p (l := text)).length_le
      rw [List.dropWhile_cons_of_pos hc]
      constructor
      · intro heq
        rw [heq, List.length_cons] at hlength
        omega
      · intro hhead
        simp [hc] at hhead
    | false => simp [hc]

lemma dropWhile_dropWhile (text : List α) :
    (text.dropWhile p).dropWhile p = text.dropWhile p := by
  rw [dropWhile_eq_self_iff_head?]
  cases hhead : (text.dropWhile p).head? with
  | none => rfl
  | some c =>
    have hne : text.dropWhile p ≠ [] := by
      intro hnil
      simp [hnil] at hhead
    have hc := List.head_dropWhile_not p hne
    rw [List.head?_eq_some_head hne, Option.some.injEq] at hhead
    rwa [Option.any_some, ← hhead]

lemma rdropWhile_eq_self_iff_getLast? (text : List α) :
    text.rdropWhile p = text ↔ text.getLast?.any p = false := by
  rw [List.rdropWhile_eq_self_iff]
  cases htext : text.getLast? with
  | none => simp [List.getLast?_eq_none_iff.mp htext]
  | some c =>
    obtain ⟨front, rfl⟩ := List.getLast?_eq_some_iff.mp htext
    simp

lemma trim_ends (hne : word ≠ []) (h : (text.dropWhile p).rdropWhile p = word) :
    word.head?.any p = false ∧ word.getLast?.any p = false := by
  constructor
  · obtain ⟨back, hback⟩ : word <+: text.dropWhile p := h ▸ List.rdropWhile_prefix p _
    have hhead := (dropWhile_eq_self_iff_head? _).mp (dropWhile_dropWhile (p := p) text)
    rwa [← hback, List.head?_append_of_ne_nil _ hne] at hhead
  · rw [← rdropWhile_eq_self_iff_getLast?, ← h, List.rdropWhile_idempotent]

theorem dropWhile_eq_iff_indented (hstart : word.head?.any p = false) :
    text.dropWhile p = word ↔ Indented p word text := by
  have hstart := (dropWhile_eq_self_iff_head? word).mpr hstart
  constructor
  · intro h
    refine ⟨text.takeWhile p, fun c hc => List.mem_takeWhile_imp hc, ?_⟩
    rw [← h, List.takeWhile_append_dropWhile]
  · rintro ⟨front, hfront, rfl⟩
    rw [List.dropWhile_append_of_pos hfront, hstart]

lemma exists_rdropWhile_append (text : List α) :
    ∃ back, (∀ c ∈ back, p c) ∧ text = text.rdropWhile p ++ back := by
  induction text using List.reverseRecOn with
  | nil => exact ⟨[], by simp, rfl⟩
  | append_singleton text c ih =>
    obtain ⟨back, hback, htext⟩ := ih
    by_cases hc : p c = true
    · refine ⟨back ++ [c], ?_, ?_⟩
      · intro d hd
        rcases List.mem_append.mp hd with hd | hd
        · exact hback d hd
        · rw [List.mem_singleton.mp hd, hc]
      · rw [List.rdropWhile_concat_pos _ _ _ hc, ← List.append_assoc, ← htext]
    · exact ⟨[], by simp, by rw [List.rdropWhile_concat_neg _ _ _ hc, List.append_nil]⟩

theorem trim_eq_iff_padded (hne : word ≠ []) (hstart : word.head?.any p = false)
    (hend : word.getLast?.any p = false) :
    (text.dropWhile p).rdropWhile p = word ↔ Padded p word text := by
  constructor
  · intro h
    obtain ⟨back, hback, hrest⟩ := exists_rdropWhile_append (p := p) (text.dropWhile p)
    refine ⟨text.takeWhile p, back, fun c hc => List.mem_takeWhile_imp hc, hback, ?_⟩
    rw [← h, ← hrest, List.takeWhile_append_dropWhile]
  · rintro ⟨front, back, hfront, hback, rfl⟩
    have hstart : (word ++ back).dropWhile p = word ++ back := by
      rwa [dropWhile_eq_self_iff_head?, List.head?_append_of_ne_nil _ hne]
    have hback : back.rdropWhile p = [] := List.rdropWhile_eq_nil_iff.mpr hback
    rw [List.dropWhile_append_of_pos hfront, hstart,
      rdropWhile_append ((rdropWhile_eq_self_iff_getLast? word).mpr hend), hback, List.append_nil]

end QhapaqXian.Library
