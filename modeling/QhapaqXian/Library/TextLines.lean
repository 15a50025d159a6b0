import QhapaqXian.Library.Lines
import QhapaqXian.Library.Tags

/-!
# The lines of a text

The lines of a text, whatever their length, against the pieces that a reader with a buffer of fixed
size gets of them.
-/

namespace QhapaqXian.Library

variable {α : Type} [DecidableEq α] {newline : α} {limit : Nat}

/-- The lines of a text; what follows the last line break is a line unless it is empty. -/
def textLines (newline : α) (text : List α) : List (List α) :=
  let parts := text.splitOn newline
  if parts.getLast? = some [] then parts.dropLast else parts

lemma textLines_append {line : List α} (h : newline ∉ line) (rest : List α) :
    textLines newline (line ++ newline :: rest) = line :: textLines newline rest := by
  have hparts : (line ++ newline :: rest).splitOn newline = line :: rest.splitOn newline := by
    rw [List.splitOn_append_cons_self, List.splitOn_eq_singleton h, List.singleton_append]
  have hne : rest.splitOn newline ≠ [] := by
    rw [splitOn_eq_upTo_cons]
    exact List.cons_ne_nil _ _
  obtain ⟨part, parts, hcons⟩ := List.exists_cons_of_ne_nil hne
  simp only [textLines, hparts, hcons, List.getLast?_cons_cons, List.dropLast_cons_cons]
  split_ifs <;> rfl

lemma textLines_of_notMem {line : List α} (h : newline ∉ line) :
    textLines newline line = if line = [] then [] else [line] := by
  rw [textLines, List.splitOn_eq_singleton h]
  by_cases hline : line = []
  · simp [hline]
  · simp [hline]

theorem textLines_induction (newline : α) {motive : List α → Prop}
    (last : ∀ line, newline ∉ line → motive line)
    (step : ∀ line rest, newline ∉ line → motive rest → motive (line ++ newline :: rest))
    (text : List α) : motive text := by
  induction hlength : text.length using Nat.strong_induction_on generalizing text with
  | _ n ih =>
    by_cases hmem : newline ∈ text
    · obtain ⟨line, rest, rfl, hline⟩ := List.eq_append_cons_of_mem hmem
      apply step line rest hline
      apply ih rest.length _ rest rfl
      simp only [List.length_append, List.length_cons] at hlength
      omega
    · exact last text hmem

lemma notMem_of_mem_textLines {text line : List α} (h : line ∈ textLines newline text) :
    newline ∉ line := by
  induction text using textLines_induction newline with
  | last text htext =>
    rw [textLines_of_notMem htext] at h
    split_ifs at h
    · cases h
    · rwa [List.mem_singleton.mp h]
  | step first rest hfirst ih =>
    rw [textLines_append hfirst] at h
    rcases List.mem_cons.mp h with rfl | h
    · exact hfirst
    · exact ih h

lemma readLines_of_full {front : List α} (hbreak : newline ∉ front) (hfull : front.length = limit)
    (hlimit : 0 < limit) (text : List α) :
    readLines newline limit [] (front ++ text) = front :: readLines newline limit [] text := by
  rcases List.eq_nil_or_concat front with rfl | ⟨init, c, rfl⟩
  · rw [List.length_nil] at hfull
    omega
  · rw [List.concat_eq_append] at hbreak hfull ⊢
    have hinit : newline ∉ init := fun hmem => hbreak (List.mem_append_left _ hmem)
    rw [List.length_append, List.length_singleton] at hfull
    rw [List.append_assoc, readLines_front hinit (by simp; omega), List.nil_append,
      List.singleton_append, readLines, if_pos (.inr (by omega))]

lemma readLines_of_short {line : List α} (hbreak : newline ∉ line) (hfits : line.length < limit) :
    readLines newline limit [] line = if line = [] then [] else [line] := by
  have hroom : ([] : List α).length + line.length < limit := by simpa using hfits
  have hread := readLines_front hbreak hroom []
  rw [List.append_nil, List.nil_append] at hread
  rw [hread]
  cases line <;> simp [readLines]

lemma splitAssignment_eq_some_iff {eq : α} {text key value : List α} :
    splitAssignment eq text = some (key, value) ↔ text = key ++ eq :: value ∧ eq ∉ key := by
  constructor
  · intro h
    have hsplit : upTo eq text ++ text.dropWhile (· ≠ eq) = text := List.takeWhile_append_dropWhile
    unfold splitAssignment at h
    cases hdrop : text.dropWhile (· ≠ eq) with
    | nil =>
      rw [hdrop] at h
      cases h
    | cons c rest =>
      have hne : text.dropWhile (· ≠ eq) ≠ [] := by
        rw [hdrop]
        exact List.cons_ne_nil c rest
      have hc : c = eq := by
        have hhead := List.head_dropWhile_not (fun d => decide (d ≠ eq)) hne
        simpa only [hdrop, List.head_cons, decide_eq_false_iff_not, ne_eq, not_not] using hhead
      subst hc
      rw [hdrop] at h hsplit
      cases h
      exact ⟨hsplit.symm, notMem_upTo c text⟩
  · rintro ⟨rfl, hkey⟩
    exact splitAssignment_renderField hkey value

omit [DecidableEq α] in
lemma length_flatMap_le_length_flatMap {β : Type} {f g : α → List β} {items : List α}
    (h : ∀ item ∈ items, (g item).length ≤ (f item).length) :
    (items.flatMap g).length ≤ (items.flatMap f).length := by
  induction items with
  | nil => exact le_rfl
  | cons item items ih =>
    obtain ⟨hitem, hitems⟩ := List.forall_mem_cons.mp h
    rw [List.flatMap_cons, List.flatMap_cons, List.length_append, List.length_append]
    exact Nat.add_le_add hitem (ih hitems)

omit [DecidableEq α] in
/-- Two ways to take a list apart, of which one never gives less, agree only where they agree on
every element. -/
lemma flatMap_eq_flatMap_iff {β : Type} {f g : α → List β} {items : List α}
    (h : ∀ item ∈ items, (g item).length ≤ (f item).length) :
    items.flatMap f = items.flatMap g ↔ ∀ item ∈ items, f item = g item := by
  induction items with
  | nil => simp
  | cons item items ih =>
    obtain ⟨hitem, hitems⟩ := List.forall_mem_cons.mp h
    have hrest := length_flatMap_le_length_flatMap hitems
    rw [List.flatMap_cons, List.flatMap_cons, List.forall_mem_cons, ← ih hitems]
    constructor
    · intro heq
      have hlength := congrArg List.length heq
      rw [List.length_append, List.length_append] at hlength
      exact List.append_inj heq (by omega)
    · rintro ⟨hfirst, hothers⟩
      rw [hfirst, hothers]

end QhapaqXian.Library
