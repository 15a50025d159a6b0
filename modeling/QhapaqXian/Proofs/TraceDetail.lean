import QhapaqXian.TraceDetail

/-!
# Rewritten trace details

The loop takes a detail apart at the occurrences of the key. The text behind the last value is
appended inside the loop and once more behind it.
-/

namespace QhapaqXian

open Library

variable {source tail : CString} {pieces : List (CString × CString)}
variable {key replacement : CString}

/-- The value that is written for a value: nothing is written where there is none. -/
def rewriteValue (replacement value : CString) : CString :=
  if value = [] then [] else replacement

/-- `result` is the source with each non-empty value of the key replaced, and every other character
kept once and in order. -/
def ReplacedAll (key replacement source result : CString) : Prop :=
  ∃ pieces tail, Scan ';' key source pieces tail ∧
    result = rebuild key (rewriteValue replacement) pieces tail

def changes (replacement : CString) (piece : CString × CString) : Bool :=
  decide (¬ (piece.2 = [] ∨ piece.2 = replacement))

lemma replaceValues_next {before value rest : CString}
    (hne : before ++ (key ++ (value ++ rest)) ≠ [])
    (hfirst : strstr (before ++ (key ++ (value ++ rest))) key = some (key ++ (value ++ rest)))
    (hvalue : ';' ∉ value) (hrest : rest = [] ∨ rest.head? = some ';') (fuel : Nat)
    (rewritten : CString) (changed : Bool) :
    replaceValues key replacement (fuel + 1) (before ++ (key ++ (value ++ rest))) rewritten
        changed =
      replaceValues key replacement fuel rest
        (rewritten ++ (before ++ (key ++ rewriteValue replacement value)))
        (changed || changes replacement (before, value)) := by
  have hbefore : (before ++ (key ++ (value ++ rest))).take
      ((before ++ (key ++ (value ++ rest))).length - (key ++ (value ++ rest)).length) =
        before := by simp
  have hupto := Scan.upTo_append hvalue hrest
  generalize htext : before ++ (key ++ (value ++ rest)) = text at hne hfirst hbefore
  obtain ⟨c, text, rfl⟩ := List.exists_cons_of_ne_nil hne
  rw [replaceValues]
  simp only [hfirst, hbefore, List.drop_left, hupto]
  by_cases hkeep : value = [] ∨ value = replacement
  · have hsame : rewriteValue replacement value = value := by
      unfold rewriteValue
      rcases hkeep with rfl | rfl <;> simp
    rw [if_pos hkeep, hsame, changes, decide_eq_false (not_not.mpr hkeep), Bool.or_false,
      List.append_assoc, List.append_assoc]
  · have hnew : rewriteValue replacement value = replacement := by
      rw [rewriteValue, if_neg fun h => hkeep (.inl h)]
    rw [if_neg hkeep, hnew, changes, decide_eq_true hkeep, Bool.or_true, List.append_assoc,
      List.append_assoc]

lemma replaceValues_of_scan (replacement : CString) (h : Scan ';' key source pieces tail)
    (rewritten : CString) (changed : Bool) :
    ∃ least, ∀ fuel, least ≤ fuel → replaceValues key replacement fuel source rewritten changed =
      some (tail, rewritten ++ rebuild key (rewriteValue replacement) pieces tail,
        changed || pieces.any (changes replacement)) := by
  induction h generalizing rewritten changed with
  | @stop tail hstop =>
    refine ⟨1, fun fuel hfuel => ?_⟩
    obtain ⟨fuel, rfl⟩ : ∃ n, fuel = n + 1 := ⟨fuel - 1, by omega⟩
    cases tail with
    | nil => simp [replaceValues, rebuild]
    | cons c tail =>
      have hnone : strstr (c :: tail) key = none := by simpa using hstop
      simp [replaceValues, hnone, rebuild]
  | @next before value rest tail pieces hne hfirst hvalue hrest _ ih =>
    obtain ⟨least, hleast⟩ := ih (rewritten ++ (before ++ (key ++ rewriteValue replacement value)))
      (changed || changes replacement (before, value))
    refine ⟨least + 1, fun fuel hfuel => ?_⟩
    obtain ⟨fuel, rfl⟩ : ∃ n, fuel = n + 1 := ⟨fuel - 1, by omega⟩
    rw [replaceValues_next hne hfirst hvalue hrest, hleast fuel (by omega), rebuild_cons,
      List.any_cons, Bool.or_assoc]
    simp only [List.append_assoc]

lemma replaceValues_nil_key (fuel : Nat) (h : ';' ∈ source) (rewritten : CString) (changed : Bool) :
    replaceValues [] replacement fuel source rewritten changed = none := by
  induction fuel generalizing source rewritten changed with
  | zero =>
    obtain ⟨c, text, rfl⟩ := List.exists_cons_of_ne_nil (List.ne_nil_of_mem h)
    rfl
  | succ fuel ih =>
    obtain ⟨c, text, rfl⟩ := List.exists_cons_of_ne_nil (List.ne_nil_of_mem h)
    have hend : ';' ∈ (c :: text).drop (upTo ';' (c :: text)).length := by
      have hsplit : upTo ';' (c :: text) ++ (c :: text).dropWhile (· ≠ ';') = c :: text :=
        List.takeWhile_append_dropWhile
      rw [← hsplit, List.mem_append] at h
      rw [drop_length_upTo]
      exact h.resolve_left (notMem_upTo ';' (c :: text))
    rw [replaceValues]
    simp only [strstr_nil_pattern, List.length_nil, List.drop_zero]
    split_ifs
    · exact ih hend _ _
    · exact ih hend _ _

lemma rebuild_rewriteValue_of_kept (h : pieces.any (changes replacement) = false) :
    rebuild key (rewriteValue replacement) pieces tail = rebuild key id pieces tail := by
  induction pieces with
  | nil => rfl
  | cons piece pieces ih =>
    rw [List.any_cons, Bool.or_eq_false_iff] at h
    have hkept : rewriteValue replacement piece.2 = piece.2 := by
      have hvalue := not_not.mp (of_decide_eq_false h.1)
      unfold rewriteValue
      rcases hvalue with hvalue | hvalue <;> simp [hvalue]
    rw [rebuild_cons, rebuild_cons, ih h.2, hkept, id]

lemma qxReplaceTraceDelimitedValueAll_of_scan (replacement : CString)
    (h : Scan ';' key source pieces tail) :
    ∃ least, ∀ fuel, least ≤ fuel →
      qxReplaceTraceDelimitedValueAll fuel source key replacement =
        some (if pieces.any (changes replacement) then
          rebuild key (rewriteValue replacement) pieces tail ++ tail else source) := by
  obtain ⟨least, hleast⟩ := replaceValues_of_scan replacement h [] false
  refine ⟨least, fun fuel hfuel => ?_⟩
  rw [qxReplaceTraceDelimitedValueAll, hleast fuel hfuel, Option.map_some, List.nil_append,
    Bool.false_or]

lemma replaceValues_mono {fuel more : Nat} (hle : fuel ≤ more) {rewritten : CString}
    {changed : Bool} {result : CString × CString × Bool}
    (h : replaceValues key replacement fuel source rewritten changed = some result) :
    replaceValues key replacement more source rewritten changed = some result := by
  induction fuel generalizing more source rewritten changed with
  | zero =>
    cases source with
    | nil => cases more <;> exact h
    | cons c text => cases h
  | succ fuel ih =>
    obtain ⟨more, rfl⟩ : ∃ n, more = n + 1 := ⟨more - 1, by omega⟩
    cases source with
    | nil => exact h
    | cons c text =>
      rw [replaceValues] at h ⊢
      cases hfind : strstr (c :: text) key with
      | none => simpa only [hfind] using h
      | some start =>
        simp only [hfind] at h ⊢
        split_ifs at h ⊢
        · exact ih (by omega) h
        · exact ih (by omega) h

/-- Each round takes a key out of the text, so its length is fuel enough. -/
lemma replaceValues_isSome (replacement : CString) (hkey : key ≠ []) {fuel : Nat}
    (hfuel : source.length ≤ fuel) (rewritten : CString) (changed : Bool) :
    (replaceValues key replacement fuel source rewritten changed).isSome = true := by
  induction fuel generalizing source rewritten changed with
  | zero =>
    obtain rfl : source = [] := List.length_eq_zero_iff.mp (Nat.le_zero.mp hfuel)
    rfl
  | succ fuel ih =>
    cases source with
    | nil => rfl
    | cons c text =>
      rw [replaceValues]
      cases hfind : strstr (c :: text) key with
      | none => rfl
      | some start =>
        have hstart := (strstr_suffix hfind).length_le
        have hpos := List.length_pos_iff.mpr hkey
        have hshorter : ((start.drop key.length).drop
            (upTo ';' (start.drop key.length)).length).length ≤ fuel := by
          rw [List.length_drop, List.length_drop]
          omega
        dsimp only
        split_ifs
        · exact ih hshorter _ _
        · exact ih hshorter _ _

lemma qxReplaceTraceDelimitedValueAll_isSome (source : CString) (hkey : key ≠ [])
    (replacement : CString) :
    (qxReplaceTraceDelimitedValueAll source.length source key replacement).isSome = true := by
  rw [qxReplaceTraceDelimitedValueAll, Option.isSome_map]
  exact replaceValues_isSome replacement hkey le_rfl [] false

/-- The function returns the source with the values replaced exactly if it gets to the end, and no
text stands behind the last value when a value is changed. -/
theorem trace_values_replaced_iff (source key replacement : CString) :
    (∃ result, (∃ fuel, qxReplaceTraceDelimitedValueAll fuel source key replacement =
        some result) ∧ ReplacedAll key replacement source result) ↔
      (key = [] → ';' ∉ source) ∧ ∀ pieces tail, Scan ';' key source pieces tail →
        tail = [] ∨ ∀ piece ∈ pieces, piece.2 = [] ∨ piece.2 = replacement := by
  have hkept : ∀ pieces : List (CString × CString), pieces.any (changes replacement) = false ↔
      ∀ piece ∈ pieces, piece.2 = [] ∨ piece.2 = replacement := by
    intro pieces
    simp [changes, List.any_eq_false, or_iff_not_imp_left]
  constructor
  · rintro ⟨result, ⟨fuel, hreturns⟩, pieces, tail, hscan, hresult⟩
    obtain ⟨stop, hstop, hend⟩ := Option.map_eq_some_iff.mp hreturns
    refine ⟨fun hkey hmem => ?_, fun pieces' tail' hscan' => ?_⟩
    · subst hkey
      rw [replaceValues_nil_key fuel hmem] at hstop
      cases hstop
    · obtain ⟨rfl, rfl⟩ := hscan.unique hscan'
      obtain ⟨least, hleast⟩ := replaceValues_of_scan replacement hscan [] false
      have hmore := replaceValues_mono (Nat.le_max_left fuel least) hstop
      rw [hleast _ (Nat.le_max_right fuel least)] at hmore
      obtain rfl := Option.some.inj hmore
      rw [← hkept]
      cases hany : pieces.any (changes replacement) with
      | false => exact .inr rfl
      | true =>
        refine .inl ?_
        simpa [hany, hresult] using hend
  · rintro ⟨hkey, htail⟩
    obtain ⟨pieces, tail, hscan⟩ := exists_scan source hkey
    obtain ⟨least, hleast⟩ := qxReplaceTraceDelimitedValueAll_of_scan replacement hscan
    refine ⟨_, ⟨least, hleast least le_rfl⟩, pieces, tail, hscan, ?_⟩
    cases hany : pieces.any (changes replacement) with
    | false =>
      rw [if_neg Bool.false_ne_true, rebuild_rewriteValue_of_kept hany, hscan.rebuild_eq]
    | true =>
      have hnil : tail = [] := (htail pieces tail hscan).resolve_right fun hall => by
        rw [(hkept pieces).mpr hall] at hany
        cases hany
      rw [if_pos rfl, hnil, List.append_nil]

/-- The text behind the replaced value is written twice. -/
theorem trace_tail_doubled :
    qxReplaceTraceDelimitedValueAll 12 "vm_id=a;cost=1".toList "vm_id=".toList "<vm_id>".toList =
      some "vm_id=<vm_id>;cost=1;cost=1".toList := by
  decide +kernel

end QhapaqXian
