import QhapaqXian.Library.Fields

/-!
# Occurrences of a key in a text

A text taken apart from left to right at the occurrences of a key, each followed by a value that
reaches up to the next separator or the end. The search goes on behind the value, so occurrences in
a value do not count.
-/

namespace QhapaqXian.Library

variable {α : Type} {sep : α} {key : List α}

def rebuild (key : List α) (change : List α → List α) (pieces : List (List α × List α))
    (tail : List α) : List α :=
  (pieces.flatMap fun piece => piece.1 ++ (key ++ change piece.2)) ++ tail

lemma rebuild_cons (change : List α → List α) (piece : List α × List α)
    (pieces : List (List α × List α)) (tail : List α) :
    rebuild key change (piece :: pieces) tail =
      piece.1 ++ (key ++ (change piece.2 ++ rebuild key change pieces tail)) := by
  simp [rebuild]

variable [DecidableEq α]

lemma take_append_of_strstr {text start : List α} (h : strstr text key = some start) :
    text.take (text.length - start.length) ++ start = text := by
  obtain ⟨before, rfl⟩ := strstr_suffix h
  simp

lemma strstr_nil_pattern (text : List α) : strstr text [] = some text :=
  strstr_eq_self (List.nil_prefix)

lemma drop_length_upTo (text : List α) :
    text.drop (upTo sep text).length = text.dropWhile (· ≠ sep) := by
  have h : upTo sep text ++ text.dropWhile (· ≠ sep) = text := List.takeWhile_append_dropWhile
  have hdrop := congrArg (List.drop (upTo sep text).length) h
  rw [List.drop_left] at hdrop
  exact hdrop.symm

/-- `Scan sep key text pieces tail`: the text is the pieces, each of them text without an earlier
occurrence of the key, the key and its value, and then the tail, in which the key does not occur
any more. -/
inductive Scan (sep : α) (key : List α) :
    List α → List (List α × List α) → List α → Prop
  | stop {tail : List α} (h : tail = [] ∨ strstr tail key = none) : Scan sep key tail [] tail
  | next {before value rest tail : List α} {pieces : List (List α × List α)}
      (hne : before ++ (key ++ (value ++ rest)) ≠ [])
      (hfirst : strstr (before ++ (key ++ (value ++ rest))) key = some (key ++ (value ++ rest)))
      (hvalue : sep ∉ value) (hrest : rest = [] ∨ rest.head? = some sep)
      (h : Scan sep key rest pieces tail) :
      Scan sep key (before ++ (key ++ (value ++ rest))) ((before, value) :: pieces) tail

namespace Scan

lemma rebuild_eq {text tail : List α} {pieces : List (List α × List α)}
    (h : Scan sep key text pieces tail) : rebuild key id pieces tail = text := by
  induction h with
  | stop _ => rfl
  | next _ _ _ _ _ ih => rw [rebuild_cons, ih, id]

lemma upTo_append {value rest : List α} (hvalue : sep ∉ value)
    (hrest : rest = [] ∨ rest.head? = some sep) : upTo sep (value ++ rest) = value := by
  rcases hrest with rfl | hrest
  · rw [List.append_nil, upTo_of_notMem hvalue]
  · obtain ⟨c, rest, rfl⟩ : ∃ c rest', rest = c :: rest' := by
      cases rest with
      | nil => simp at hrest
      | cons c rest => exact ⟨c, rest, rfl⟩
    obtain rfl : c = sep := by simpa using hrest
    rw [upTo_append_cons, upTo_of_notMem hvalue]

lemma unique {text tail tail' : List α} {pieces pieces' : List (List α × List α)}
    (h : Scan sep key text pieces tail) (h' : Scan sep key text pieces' tail') :
    pieces = pieces' ∧ tail = tail' := by
  induction h generalizing pieces' tail' with
  | stop hstop =>
    cases h' with
    | stop _ => exact ⟨rfl, rfl⟩
    | next hne hfirst _ _ _ =>
      rcases hstop with hnil | hnone
      · exact absurd hnil hne
      · rw [hfirst] at hnone
        cases hnone
  | @next before value rest tail pieces hne hfirst hvalue hrest _ ih =>
    generalize htext : before ++ (key ++ (value ++ rest)) = text at h'
    cases h' with
    | stop hstop =>
      subst htext
      rcases hstop with hnil | hnone
      · exact absurd hnil hne
      · rw [hfirst] at hnone
        cases hnone
    | @next before' value' rest' _ pieces' _ hfirst' hvalue' hrest' h' =>
      rw [← htext, hfirst] at hfirst'
      have hafter : value ++ rest = value' ++ rest' :=
        List.append_cancel_left (Option.some.inj hfirst')
      rw [hafter] at htext
      have hbefore : before = before' := List.append_cancel_right htext
      have hvalues : value = value' := by
        rw [← upTo_append hvalue hrest, hafter, upTo_append hvalue' hrest']
      subst hvalues
      obtain rfl : rest = rest' := List.append_cancel_left hafter
      obtain ⟨rfl, rfl⟩ := ih h'
      exact ⟨by rw [hbefore], rfl⟩

end Scan

lemma exists_value_rest (sep : α) {text start : List α} (h : strstr text key = some start) :
    ∃ before value rest, text = before ++ (key ++ (value ++ rest)) ∧
      start = key ++ (value ++ rest) ∧ before = text.take (text.length - start.length) ∧
      value = upTo sep (start.drop key.length) ∧
      rest = (start.drop key.length).drop value.length ∧ sep ∉ value ∧
      (rest = [] ∨ rest.head? = some sep) := by
  obtain ⟨after, rfl⟩ := prefix_of_strstr h
  have hafter : upTo sep after ++ after.drop (upTo sep after).length = after := by
    rw [drop_length_upTo, upTo, List.takeWhile_append_dropWhile]
  refine ⟨_, upTo sep after, after.drop (upTo sep after).length, ?_, ?_, rfl, ?_, ?_,
    notMem_upTo sep after, ?_⟩
  · rw [hafter, take_append_of_strstr h]
  · rw [hafter]
  · rw [List.drop_left]
  · rw [List.drop_left]
  · rw [drop_length_upTo]
    cases hdrop : after.dropWhile (· ≠ sep) with
    | nil => exact .inl rfl
    | cons c rest =>
      have hc := List.head?_dropWhile_not (fun c => decide (c ≠ sep)) after
      rw [hdrop] at hc
      exact .inr (by simpa using hc)

lemma exists_scan (text : List α) (h : key = [] → sep ∉ text) :
    ∃ pieces tail, Scan sep key text pieces tail := by
  by_cases hnil : text = []
  · exact ⟨[], text, .stop (.inl hnil)⟩
  cases hfind : strstr text key with
  | none => exact ⟨[], text, .stop (.inr hfind)⟩
  | some start =>
    obtain ⟨before, value, rest, htext, hstart, -, -, -, hvalue, hrest⟩ :=
      exists_value_rest sep hfind
    have hshort : rest.length < text.length := by
      rcases hrest with rfl | hrest
      · exact List.length_pos_iff.mpr hnil
      · have hkey : key ≠ [] := fun hkey => by
          refine h hkey ?_
          rw [htext]
          cases rest with
          | nil => simp at hrest
          | cons c rest => simp [show c = sep by simpa using hrest]
        have hpos := List.length_pos_iff.mpr hkey
        rw [htext]
        simp only [List.length_append]
        omega
    have hsub : key = [] → sep ∉ rest := fun hkey hmem => h hkey (by rw [htext]; simp [hmem])
    obtain ⟨pieces, tail, hscan⟩ := exists_scan rest hsub
    subst htext
    exact ⟨_, _, .next hnil (hfind.trans (congrArg some hstart)) hvalue hrest hscan⟩
termination_by text.length

end QhapaqXian.Library
