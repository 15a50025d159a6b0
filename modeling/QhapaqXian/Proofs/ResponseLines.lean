import QhapaqXian.Library.TextLines
import QhapaqXian.Proofs.Receipts

/-!
# The lines of a response file

The response is read through a buffer of 8192 bytes. A line that fits is one assignment, with its
value cut at a carriage return.
-/

namespace QhapaqXian

open Library

/-- The field that a line names in front of its first `=`, and the rest of the line. -/
def fieldOf? (line : CString) : Option (ResponseKey × CString) :=
  (splitAssignment '=' line).bind fun entry => (ResponseKey.ofName? entry.1).map (·, entry.2)

def fieldPairs (entries : List (CString × CString)) : List (ResponseKey × CString) :=
  entries.filterMap fun entry => (ResponseKey.ofName? entry.1).map (·, entry.2)

/-- The fields that the reader assigns from a text, when `detail` has been read of a `DETAIL`. -/
def reads (detail : Option CString) (text : CString) : List (ResponseKey × CString) :=
  fieldPairs (responseAssignments detail (readLines '\n' 8191 [] text))

section Fields

variable {line value : CString} {key : ResponseKey}

lemma ResponseKey.name_short (key : ResponseKey) : '\r' ∉ key.name ∧ key.name.length < 20 := by
  cases key <;> decide

lemma ResponseKey.ofName?_eq_some_iff {name : CString} :
    ofName? name = some key ↔ name = key.name :=
  find?_name_eq_some_iff ResponseKey.ofName?_name

lemma fieldOf?_eq_some_iff : fieldOf? line = some (key, value) ↔ line = key.name ++ '=' :: value := by
  simp only [fieldOf?, Option.bind_eq_some_iff, Option.map_eq_some_iff, Prod.mk.injEq, Prod.exists,
    splitAssignment_eq_some_iff, ResponseKey.ofName?_eq_some_iff]
  constructor
  · rintro ⟨name, rest, ⟨rfl, -⟩, own, rfl, rfl, rfl⟩
    rfl
  · rintro rfl
    exact ⟨key.name, value, ⟨rfl, key.name_clean.1⟩, key, rfl, rfl, rfl⟩

lemma fieldOf?_take {n : Nat} (hn : 20 ≤ n) :
    fieldOf? (line.take n) = (fieldOf? line).map fun field =>
      (field.1, field.2.take (n - (field.1.name.length + 1))) := by
  cases hfield : fieldOf? line with
  | none =>
    rw [Option.map_none, Option.eq_none_iff_forall_ne_some]
    rintro ⟨key, value⟩ hpart
    have hwhole : line = key.name ++ '=' :: (value ++ line.drop n) := by
      rw [← List.cons_append, ← List.append_assoc, ← fieldOf?_eq_some_iff.mp hpart,
        List.take_append_drop]
    cases hfield.symm.trans (fieldOf?_eq_some_iff.mpr hwhole)
  | some field =>
    obtain ⟨key, value⟩ := field
    have hshort := key.name_short.2
    rw [Option.map_some, fieldOf?_eq_some_iff, fieldOf?_eq_some_iff.mp hfield]
    dsimp only
    obtain ⟨more, hmore⟩ := Nat.exists_eq_add_of_lt (show key.name.length < n by omega)
    rw [List.take_append, List.take_of_length_le (by omega), hmore,
      show key.name.length + more + 1 - key.name.length = more + 1 by omega, List.take_succ_cons,
      show key.name.length + more + 1 - (key.name.length + 1) = more by omega]

lemma fieldOf?_append_newline (line : CString) :
    fieldOf? (line ++ ['\n']) = (fieldOf? line).map fun field => (field.1, field.2 ++ ['\n']) := by
  cases hfield : fieldOf? line with
  | some field =>
    obtain ⟨key, value⟩ := field
    rw [Option.map_some, fieldOf?_eq_some_iff, fieldOf?_eq_some_iff.mp hfield]
    simp
  | none =>
    rw [Option.map_none, Option.eq_none_iff_forall_ne_some]
    rintro ⟨key, value⟩ hwhole
    have hline := fieldOf?_eq_some_iff.mp hwhole
    rcases List.eq_nil_or_concat value with rfl | ⟨init, c, rfl⟩
    · have hlast := (List.append_inj' hline rfl).2
      simp at hlast
    · rw [List.concat_eq_append, ← List.cons_append, ← List.append_assoc] at hline
      have hfront := (List.append_inj' hline rfl).1
      cases hfield.symm.trans (fieldOf?_eq_some_iff.mpr hfront)

end Fields

def cutValue (value : CString) : CString :=
  value.takeWhile fun c => !isLineBreak c

lemma cutValue_append_newline (value : CString) :
    cutValue (value ++ ['\n']) = cutValue value := by
  induction value with
  | nil => rfl
  | cons c value ih =>
    unfold cutValue at ih ⊢
    rw [List.cons_append, List.takeWhile_cons, List.takeWhile_cons, ih]

section Pieces

variable {line : CString}

lemma fieldPairs_cons (entry : CString × CString) (entries : List (CString × CString)) :
    fieldPairs (entry :: entries) =
      ((ResponseKey.ofName? entry.1).map (·, entry.2)).toList ++ fieldPairs entries := by
  rw [fieldPairs, List.filterMap_cons]
  cases ResponseKey.ofName? entry.1 <;> rfl

lemma responseAssignments_of_none {piece : CString} (h : splitAssignment '=' piece = none)
    (pieces : List CString) :
    responseAssignments none (piece :: pieces) = responseAssignments none pieces := by
  rw [responseAssignments, h]

lemma responseAssignments_of_some {piece name value : CString}
    (h : splitAssignment '=' piece = some (name, value)) (pieces : List CString) :
    responseAssignments none (piece :: pieces) =
      if name = "DETAIL".toList ∧ piece.length = 8191 ∧ cutValue value = value then
        responseAssignments (some value) pieces
      else (name, cutValue value) :: responseAssignments none pieces := by
  have hunfold : responseAssignments none (piece :: pieces) =
      if name = "DETAIL".toList ∧ piece.length = 8191 ∧ cutValue value = value then
        responseAssignments (some (cutValue value)) pieces
      else (name, cutValue value) :: responseAssignments none pieces := by
    rw [responseAssignments, h]
    rfl
  rw [hunfold]
  by_cases hpiece : name = "DETAIL".toList ∧ piece.length = 8191 ∧ cutValue value = value
  · rw [if_pos hpiece, if_pos hpiece, hpiece.2.2]
  · rw [if_neg hpiece, if_neg hpiece]

lemma fieldPairs_piece (piece : CString) (pieces : List CString) :
    fieldPairs (responseAssignments none (piece :: pieces)) =
      match fieldOf? piece with
      | none => fieldPairs (responseAssignments none pieces)
      | some (key, value) =>
        if key = .detail ∧ piece.length = 8191 ∧ cutValue value = value then
          fieldPairs (responseAssignments (some value) pieces)
        else (key, cutValue value) :: fieldPairs (responseAssignments none pieces) := by
  cases hsplit : splitAssignment '=' piece with
  | none =>
    rw [responseAssignments_of_none hsplit, fieldOf?, hsplit]
    rfl
  | some entry =>
    obtain ⟨name, value⟩ := entry
    have hdetail : name = "DETAIL".toList → ResponseKey.ofName? name = some .detail :=
      fun hname => ResponseKey.ofName?_eq_some_iff.mpr hname
    rw [responseAssignments_of_some hsplit, fieldOf?, hsplit, Option.bind_some]
    cases hname : ResponseKey.ofName? name with
    | none =>
      have hother : name ≠ "DETAIL".toList := by
        intro heq
        cases hname.symm.trans (hdetail heq)
      rw [if_neg fun hpiece => hother hpiece.1, fieldPairs_cons, hname]
      rfl
    | some key =>
      rw [Option.map_some]
      dsimp only
      by_cases hpiece : key = .detail ∧ piece.length = 8191 ∧ cutValue value = value
      · have hname : name = "DETAIL".toList :=
          ResponseKey.ofName?_eq_some_iff.mp (hpiece.1 ▸ hname)
        rw [if_pos hpiece, if_pos ⟨hname, hpiece.2⟩]
      · rw [if_neg hpiece, if_neg fun hc => hpiece
          ⟨Option.some.inj (hname.symm.trans (hdetail hc.1)), hc.2⟩, fieldPairs_cons, hname]
        rfl

lemma reads_none_nil : reads none [] = [] := rfl

lemma reads_of_short (hbreak : '\n' ∉ line) (hfits : line.length < 8191) :
    reads none line = ((fieldOf? line).map fun field => (field.1, cutValue field.2)).toList := by
  rw [reads, readLines_of_short hbreak hfits]
  split_ifs with hnil
  · rw [hnil]
    rfl
  · rw [fieldPairs_piece]
    cases fieldOf? line with
    | none => rfl
    | some field =>
      dsimp only
      rw [if_neg (by omega)]
      rfl

/-- A longer text is read up to the buffer's size; what is left is the rest of a `DETAIL`, or taken
for more lines. -/
lemma reads_of_long (hbreak : '\n' ∉ line.take 8191) (hlong : 8191 ≤ line.length) :
    reads none line =
      match fieldOf? (line.take 8191) with
      | none => reads none (line.drop 8191)
      | some (key, value) =>
        if key = .detail ∧ cutValue value = value then reads (some value) (line.drop 8191)
        else (key, cutValue value) :: reads none (line.drop 8191) := by
  have hlength : (line.take 8191).length = 8191 := by rw [List.length_take]; omega
  have hread := readLines_of_full hbreak hlength (by decide) (line.drop 8191)
  rw [List.take_append_drop] at hread
  rw [reads, hread, fieldPairs_piece]
  cases fieldOf? (line.take 8191) with
  | none => rfl
  | some field =>
    simp only [hlength, true_and]
    rfl

lemma readLines_short_line (hbreak : '\n' ∉ line) (hfits : line.length < 8191) (rest : CString) :
    readLines '\n' 8191 [] (line ++ '\n' :: rest) =
      (line ++ ['\n']) :: readLines '\n' 8191 [] rest := by
  rw [readLines_append, readLines_of_fits hbreak (by simpa using hfits)]
  rfl

lemma reads_detail (hbreak : '\n' ∉ line) (detail rest : CString) :
    reads (some detail) line = [(.detail, detail ++ line)] ∧
      reads (some detail) (line ++ '\n' :: rest) = (.detail, detail ++ line) :: reads none rest := by
  have hname : ∀ value entries, fieldPairs (("DETAIL".toList, value) :: entries) =
      (.detail, value) :: fieldPairs entries := by
    intro value entries
    have hdetail : ResponseKey.ofName? "DETAIL".toList = some .detail :=
      ResponseKey.ofName?_eq_some_iff.mpr rfl
    rw [fieldPairs_cons, hdetail]
    rfl
  induction hlength : line.length using Nat.strong_induction_on generalizing line detail with
  | _ n ih =>
    by_cases hfits : line.length < 8191
    · constructor
      · rw [reads, readLines_of_short hbreak hfits]
        split_ifs with hnil
        · rw [responseAssignments, hname, hnil, List.append_nil]
          rfl
        · rw [responseAssignments, if_neg hbreak, responseAssignments, hname]
          rfl
      · have hcut : (line ++ ['\n']).takeWhile (· ≠ '\n') = line := by
          rw [List.takeWhile_append_of_pos fun c hc => by
            simpa using ne_of_mem_of_not_mem hc hbreak]
          simp
        rw [reads, readLines_short_line hbreak hfits, responseAssignments, if_pos (by simp), hname,
          hcut]
        rfl
    · have hpart : '\n' ∉ line.take 8191 := fun hmem => hbreak (List.mem_of_mem_take hmem)
      have hrest : '\n' ∉ line.drop 8191 := fun hmem => hbreak (List.mem_of_mem_drop hmem)
      have hfull : (line.take 8191).length = 8191 := by rw [List.length_take]; omega
      have hstep : ∀ more, reads (some detail) (line ++ more) =
          reads (some (detail ++ line.take 8191)) (line.drop 8191 ++ more) := by
        intro more
        have hread := readLines_of_full hpart hfull (by decide) (line.drop 8191 ++ more)
        rw [← List.append_assoc, List.take_append_drop] at hread
        rw [reads, hread, responseAssignments, if_neg hpart]
        rfl
      obtain ⟨hend, hmore⟩ := ih (line.drop 8191).length (by rw [List.length_drop]; omega) hrest
        (detail ++ line.take 8191) rfl
      have hwhole : detail ++ line.take 8191 ++ line.drop 8191 = detail ++ line := by
        rw [List.append_assoc, List.take_append_drop]
      rw [hwhole] at hend hmore
      constructor
      · have hstep := hstep []
        rw [List.append_nil, List.append_nil] at hstep
        rw [hstep, hend]
      · rw [hstep, hmore]

lemma reads_append (hbreak : '\n' ∉ line) (rest : CString) :
    reads none (line ++ '\n' :: rest) = reads none line ++ reads none rest := by
  induction hlength : line.length using Nat.strong_induction_on generalizing line with
  | _ n ih =>
    by_cases hfits : line.length < 8191
    · rw [reads_of_short hbreak hfits, reads, readLines_short_line hbreak hfits, fieldPairs_piece,
        fieldOf?_append_newline]
      cases fieldOf? line with
      | none => rfl
      | some field =>
        have hcut := cutValue_append_newline field.2
        have hended : cutValue (field.2 ++ ['\n']) ≠ field.2 ++ ['\n'] := by
          rw [hcut]
          intro heq
          have hle := (List.takeWhile_prefix (fun c => !isLineBreak c) (l := field.2)).length_le
          have hlengths := congrArg List.length heq
          rw [List.length_append, List.length_singleton] at hlengths
          unfold cutValue at hlengths
          omega
        rw [Option.map_some]
        dsimp only
        rw [if_neg fun hc => hended hc.2.2, hcut]
        rfl
    · have hlong : 8191 ≤ line.length := Nat.not_lt.mp hfits
      have hpart : '\n' ∉ line.take 8191 := fun hmem => hbreak (List.mem_of_mem_take hmem)
      have hrest : '\n' ∉ line.drop 8191 := fun hmem => hbreak (List.mem_of_mem_drop hmem)
      have htake : (line ++ '\n' :: rest).take 8191 = line.take 8191 :=
        List.take_append_of_le_length hlong
      have hdrop : (line ++ '\n' :: rest).drop 8191 = line.drop 8191 ++ '\n' :: rest :=
        List.drop_append_of_le_length hlong
      have hmore := ih (line.drop 8191).length (by rw [List.length_drop]; omega) hrest rfl
      rw [reads_of_long (htake.symm ▸ hpart) (by simp; omega), reads_of_long hpart hlong, htake,
        hdrop]
      cases fieldOf? (line.take 8191) with
      | none => exact hmore
      | some field =>
        obtain ⟨key, value⟩ := field
        dsimp only
        split_ifs
        · obtain ⟨hend, hgoesOn⟩ := reads_detail hrest value rest
          rw [hend, hgoesOn]
          rfl
        · rw [hmore]
          rfl

end Pieces

lemma reads_eq_flatMap (contents : CString) :
    reads none contents = (textLines '\n' contents).flatMap (reads none) := by
  induction contents using textLines_induction '\n' with
  | last line hline =>
    rw [textLines_of_notMem hline]
    split_ifs with hnil
    · rw [hnil]
      rfl
    · rw [List.flatMap_singleton]
  | step line rest hline ih =>
    rw [reads_append hline, textLines_append hline, List.flatMap_cons, ih]

/-! ## The lines that are taken as they stand -/

/-- A line that names a field fits into the buffer and holds no carriage return, or is a `DETAIL`
without one in the part that fits; and a line that names none has no part, counted from the
buffer's size, that would name one. -/
def LineTaken (line : CString) : Prop :=
  match fieldOf? line with
  | some (key, value) =>
    if line.length ≤ 8191 then '\r' ∉ value else key = .detail ∧ '\r' ∉ line.take 8191
  | none => ∀ i, fieldOf? (line.drop (8191 * i)) = none

section Taken

variable {line : CString}

lemma reads_eq_nil_iff (hbreak : '\n' ∉ line) :
    reads none line = [] ↔ ∀ i, fieldOf? (line.drop (8191 * i)) = none := by
  induction hlength : line.length using Nat.strong_induction_on generalizing line with
  | _ n ih =>
    by_cases hfits : line.length < 8191
    · rw [reads_of_short hbreak hfits]
      constructor
      · intro hnone i
        cases i with
        | zero => simpa using hnone
        | succ i =>
          rw [List.drop_eq_nil_of_le (by omega)]
          decide
      · intro hnone
        have hline := hnone 0
        rw [Nat.mul_zero, List.drop_zero] at hline
        rw [hline]
        rfl
    · have hlong : 8191 ≤ line.length := Nat.not_lt.mp hfits
      have hpart : '\n' ∉ line.take 8191 := fun hmem => hbreak (List.mem_of_mem_take hmem)
      have hrest : '\n' ∉ line.drop 8191 := fun hmem => hbreak (List.mem_of_mem_drop hmem)
      have hmore := ih (line.drop 8191).length (by rw [List.length_drop]; omega) hrest rfl
      have hdrops : (∀ i, fieldOf? (line.drop (8191 * i)) = none) ↔ fieldOf? line = none ∧
          ∀ i, fieldOf? ((line.drop 8191).drop (8191 * i)) = none := by
        simp only [List.drop_drop]
        constructor
        · intro hnone
          refine ⟨by simpa using hnone 0, fun i => ?_⟩
          have hnext := hnone (i + 1)
          rwa [Nat.mul_succ, Nat.add_comm] at hnext
        · rintro ⟨hfirst, hnone⟩ i
          cases i with
          | zero => simpa using hfirst
          | succ i => rw [Nat.mul_succ, Nat.add_comm, hnone i]
      rw [hdrops, ← hmore, reads_of_long hpart hlong, fieldOf?_take (by decide)]
      cases fieldOf? line with
      | none => simp
      | some field =>
        simp only [Option.map_some, reduceCtorEq, false_and, iff_false]
        split_ifs
        · rw [(reads_detail hrest _ []).1]
          exact List.cons_ne_nil _ _
        · exact not_false

lemma cutValue_eq_self_iff {value : CString} (hbreak : '\n' ∉ value) :
    cutValue value = value ↔ '\r' ∉ value := by
  rw [cutValue, List.takeWhile_eq_self_iff]
  constructor
  · intro h hmem
    have hreturn := h '\r' hmem
    simp [isLineBreak] at hreturn
  · intro h c hc
    have hne : c ≠ '\n' ∧ c ≠ '\r' :=
      ⟨ne_of_mem_of_not_mem hc hbreak, ne_of_mem_of_not_mem hc h⟩
    simp [isLineBreak, hne]

lemma length_cutValue_le (value : CString) : (cutValue value).length ≤ value.length :=
  (List.takeWhile_prefix _).length_le

theorem reads_eq_field_iff (hbreak : '\n' ∉ line) :
    reads none line = (fieldOf? line).toList ↔ LineTaken line := by
  unfold LineTaken
  cases hfield : fieldOf? line with
  | none => exact reads_eq_nil_iff hbreak
  | some field =>
    obtain ⟨key, value⟩ := field
    have hline := fieldOf?_eq_some_iff.mp hfield
    have hvalue : '\n' ∉ value := fun hmem => hbreak (by rw [hline]; simp [hmem])
    dsimp only [Option.toList_some]
    by_cases hfits : line.length < 8191
    · rw [reads_of_short hbreak hfits, hfield, if_pos hfits.le, ← cutValue_eq_self_iff hvalue]
      simp
    · -- the first part of the line fills the buffer; `room` is what it holds of the value
      obtain ⟨room, hroom⟩ := Nat.exists_eq_add_of_le
        (show key.name.length + 1 ≤ 8191 by have := key.name_short.2; omega)
      have hlong : 8191 ≤ line.length := Nat.not_lt.mp hfits
      have hsplit : line = (key.name ++ ['=']) ++ value := by simp [hline]
      have hcount : (key.name ++ ['=']).length = key.name.length + 1 := by simp
      have htake : line.take 8191 = (key.name ++ ['=']) ++ value.take room := by
        rw [hroom, hsplit, ← hcount, List.take_length_add_append]
      have hdrop : line.drop 8191 = value.drop room := by
        rw [hroom, hsplit, ← hcount, List.drop_length_add_append]
      have hpart : '\n' ∉ line.take 8191 := fun hmem => hbreak (List.mem_of_mem_take hmem)
      have hrest : '\n' ∉ line.drop 8191 := fun hmem => hbreak (List.mem_of_mem_drop hmem)
      have hkept : '\n' ∉ value.take room := fun hmem => hvalue (List.mem_of_mem_take hmem)
      have hfirst : fieldOf? (line.take 8191) = some (key, value.take room) := by
        rw [fieldOf?_eq_some_iff, htake]
        simp
      have hreturn : '\r' ∉ line.take 8191 ↔ '\r' ∉ value.take room := by
        rw [htake]
        simp [key.name_short.1]
      rw [reads_of_long hpart hlong, hfirst]
      dsimp only
      rw [hreturn, hdrop]
      have hlengths : line.length = key.name.length + 1 + value.length := by simp [hline]; omega
      by_cases hpiece : key = .detail ∧ cutValue (value.take room) = value.take room
      · rw [if_pos hpiece, (reads_detail (hdrop ▸ hrest) (value.take room) []).1,
          List.take_append_drop, hpiece.1]
        have hclean := (cutValue_eq_self_iff hkept).mp hpiece.2
        split_ifs with hexact
        · rw [List.take_of_length_le (by omega)] at hclean
          simp [hclean]
        · simp [hclean]
      · rw [if_neg hpiece, List.cons.injEq, Prod.mk.injEq]
        by_cases hexact : line.length ≤ 8191
        · rw [if_pos hexact, List.take_of_length_le (by omega), List.drop_eq_nil_of_le (by omega),
            cutValue_eq_self_iff hvalue]
          simp [reads_none_nil]
        · -- what fits is shorter than the value
          have hshorter := length_cutValue_le (value.take room)
          rw [List.length_take] at hshorter
          rw [if_neg hexact, ← cutValue_eq_self_iff hkept]
          constructor
          · rintro ⟨⟨-, hwhole⟩, -⟩
            rw [hwhole] at hshorter
            omega
          · intro hc
            exact absurd hc hpiece

lemma length_field_le (hbreak : '\n' ∉ line) :
    (fieldOf? line).toList.length ≤ (reads none line).length := by
  cases hfield : fieldOf? line with
  | none => exact Nat.zero_le _
  | some field =>
    have hne : reads none line ≠ [] := by
      intro hnil
      have hnone := (reads_eq_nil_iff hbreak).mp hnil 0
      rw [Nat.mul_zero, List.drop_zero, hfield] at hnone
      cases hnone
    exact List.length_pos_of_ne_nil hne

end Taken

/-! ## The whole file -/

section File

variable {contents : CString}

/-- Every line is one assignment of its whole value to the field that it names, if it names one, and
nothing else is assigned. -/
def TakesLines (contents : CString) : Prop :=
  reads none contents = (textLines '\n' contents).filterMap fieldOf?

theorem takesLines_iff :
    TakesLines contents ↔ ∀ line ∈ textLines '\n' contents, LineTaken line := by
  have hflat : (textLines '\n' contents).filterMap fieldOf? =
      (textLines '\n' contents).flatMap fun line => (fieldOf? line).toList :=
    List.filterMap_eq_flatMap_toList _ _
  rw [TakesLines, reads_eq_flatMap, hflat, flatMap_eq_flatMap_iff fun line hline =>
    length_field_le (notMem_of_mem_textLines hline)]
  exact forall₂_congr fun line hline => reads_eq_field_iff (notMem_of_mem_textLines hline)

def ResponseKey.accepts (value : CString) : ResponseKey → Bool
  | .tokens | .cost | .timeoutMs | .processLimit => (pgStrtoint32 value).isOk
  | .status => value == "ok".toList
  | _ => true

lemma assign_isOk (result : QxExternalToolResult) (key : ResponseKey) (value : CString) :
    (result.assign key value).isOk = key.accepts value := by
  have hnumber (set : Int → QxExternalToolResult) :
      (pgStrtoint32 value >>= fun n => pure (set n)).isOk = (pgStrtoint32 value).isOk := by
    cases pgStrtoint32 value <;> rfl
  cases key with
  | tokens => exact hnumber _
  | cost => exact hnumber _
  | timeoutMs => exact hnumber _
  | processLimit => exact hnumber _
  | status =>
    rw [QxExternalToolResult.assign, ResponseKey.accepts]
    by_cases hok : value = "ok".toList
    · rw [if_pos hok, hok, BEq.rfl]
      rfl
    · rw [if_neg hok, beq_eq_false_iff_ne.mpr hok]
      rfl
  | _ => rfl

lemma foldlM_assignNamed (entries : List (CString × CString)) (result : QxExternalToolResult) :
    entries.foldlM QxExternalToolResult.assignNamed result =
      (fieldPairs entries).foldlM (fun result field => result.assign field.1 field.2) result := by
  induction entries generalizing result with
  | nil => rfl
  | cons entry entries ih =>
    rw [List.foldlM_cons, QxExternalToolResult.assignNamed, fieldPairs_cons]
    cases ResponseKey.ofName? entry.1 with
    | none => exact ih result
    | some key =>
      rw [Option.map_some, Option.toList_some, List.singleton_append, List.foldlM_cons]
      exact bind_congr fun result => ih result

lemma parseExternalResult_eq :
    parseExternalResult contents =
      (assignedResult (reads none contents)).map QxExternalToolResult.withDefaultDetail := by
  rw [parseExternalResult, foldlM_assignNamed]
  exact bind_pure_comp _ _

lemma foldlM_assign_isOk (fields : List (ResponseKey × CString)) (result : QxExternalToolResult) :
    (fields.foldlM (fun (result : QxExternalToolResult) field =>
      result.assign field.1 field.2) result).isOk =
      fields.all fun field => field.1.accepts field.2 := by
  induction fields generalizing result with
  | nil => rfl
  | cons field fields ih =>
    rw [List.foldlM_cons, List.all_cons, ← assign_isOk result]
    cases result.assign field.1 field.2 with
    | error => rfl
    | ok next => exact ih next

lemma parseExternalResult_isOk_iff :
    (parseExternalResult contents).isOk = true ↔
      ∀ field ∈ reads none contents, field.1.accepts field.2 = true := by
  have hmap : (parseExternalResult contents).isOk = (assignedResult (reads none contents)).isOk := by
    rw [parseExternalResult_eq]
    cases assignedResult (reads none contents) <;> rfl
  rw [hmap, assignedResult, foldlM_assign_isOk, List.all_eq_true]

/-- A result is returned only of a file that says that the call succeeded. -/
def StatusGuarded (path contents : CString) : Prop :=
  ∀ result, qxReadExternalResult path (.ok contents) = .ok result →
    "STATUS=ok".toList ∈ textLines '\n' contents

/-- Where the lines are taken, only a value that its field cannot be assigned keeps a file without
`STATUS=ok` from being returned. -/
lemma statusGuarded_iff {path : CString} (htaken : TakesLines contents) :
    StatusGuarded path contents ↔
      "STATUS=ok".toList ∈ textLines '\n' contents ∨
        ∃ line ∈ textLines '\n' contents, ∃ key value,
          fieldOf? line = some (key, value) ∧ key.accepts value = false := by
  have hrefused : (∃ line ∈ textLines '\n' contents, ∃ key value,
        fieldOf? line = some (key, value) ∧ key.accepts value = false) ↔
      (parseExternalResult contents).isOk = false := by
    rw [← Bool.not_eq_true, parseExternalResult_isOk_iff, htaken]
    simp only [List.mem_filterMap, not_forall, Bool.not_eq_true, exists_prop]
    constructor
    · rintro ⟨line, hline, key, value, hfield, hvalue⟩
      exact ⟨(key, value), ⟨line, hline, hfield⟩, hvalue⟩
    · rintro ⟨⟨key, value⟩, ⟨line, hline, hfield⟩, hvalue⟩
      exact ⟨line, hline, key, value, hfield, hvalue⟩
  rw [hrefused, StatusGuarded, qxReadExternalResult]
  cases hparse : parseExternalResult contents with
  | error reason =>
    refine iff_of_true ?_ (.inr rfl)
    intro result hresult
    cases hresult
  | ok result =>
    constructor
    · intro hguarded
      exact .inl (hguarded result rfl)
    · rintro (hstatus | hfailed) - -
      · exact hstatus
      · cases hfailed

end File

end QhapaqXian
