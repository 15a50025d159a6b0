import QhapaqXian.Library.Fields

/-!
# Lines of `key=value` text

A text of lines `key=value`, written without escaping, and a reader that gets its lines through a
buffer of fixed size: a line break in a value, or more text than the buffer holds, starts a new
line.
-/

namespace QhapaqXian.Library

variable {α : Type} [DecidableEq α] {newline eq : α} {limit : Nat}

/-- The lines that a reader gets whose buffer holds `limit` characters; `line` is what the buffer
holds already. -/
def readLines (newline : α) (limit : Nat) : List α → List α → List (List α)
  | [], [] => []
  | c :: line, [] => [c :: line]
  | line, c :: text =>
    if c = newline ∨ limit ≤ line.length + 1 then
      (line ++ [c]) :: readLines newline limit [] text
    else readLines newline limit (line ++ [c]) text

lemma readLines_append (line text rest : List α) :
    readLines newline limit line (text ++ newline :: rest) =
      readLines newline limit line (text ++ [newline]) ++ readLines newline limit [] rest := by
  induction text generalizing line with
  | nil => simp [readLines]
  | cons c text ih =>
    rw [List.cons_append, List.cons_append, readLines, readLines]
    split_ifs
    · rw [ih, List.cons_append]
    · exact ih _

lemma readLines_front {line front : List α} (hbreak : newline ∉ front)
    (hfits : line.length + front.length < limit) (text : List α) :
    readLines newline limit line (front ++ text) =
      readLines newline limit (line ++ front) text := by
  induction front generalizing line with
  | nil => rw [List.nil_append, List.append_nil]
  | cons c front ih =>
    rw [List.mem_cons, not_or] at hbreak
    rw [List.length_cons] at hfits
    have hgoes : ¬ (c = newline ∨ limit ≤ line.length + 1) := by
      rintro (rfl | hfull)
      · exact hbreak.1 rfl
      · omega
    rw [List.cons_append, readLines, if_neg hgoes, ih hbreak.2 (by simp; omega),
      List.append_assoc, List.singleton_append]

lemma readLines_of_fits {line text : List α} (hbreak : newline ∉ text)
    (hfits : line.length + text.length < limit) :
    readLines newline limit line (text ++ [newline]) = [line ++ text ++ [newline]] := by
  rw [readLines_front hbreak hfits]
  simp [readLines]

lemma subset_of_mem_readLines {line text other : List α}
    (h : other ∈ readLines newline limit line text) : other ⊆ line ++ text := by
  induction text generalizing line with
  | nil =>
    cases line with
    | nil => simp [readLines] at h
    | cons c line => simp_all [readLines]
  | cons c text ih =>
    rw [readLines] at h
    split_ifs at h
    · rcases List.mem_cons.mp h with rfl | h
      · simp
      · have hsub : other ⊆ text := ih h
        exact List.Subset.trans hsub (by simp)
    · simpa using ih h

lemma readLines_starts (newline : α) (limit : Nat) {line : List α} (hne : line ≠ [])
    (text : List α) : ∃ more rest, readLines newline limit line text = (line ++ more) :: rest ∧
      more ⊆ text ∧ ∀ other ∈ rest, other ⊆ text := by
  induction text generalizing line with
  | nil =>
    obtain ⟨c, line, rfl⟩ := List.exists_cons_of_ne_nil hne
    exact ⟨[], [], by simp [readLines], List.nil_subset _, List.forall_mem_nil _⟩
  | cons c text ih =>
    rw [readLines]
    split_ifs
    · refine ⟨[c], _, rfl, by simp, fun other hother => ?_⟩
      exact List.Subset.trans (subset_of_mem_readLines hother) (by simp)
    · obtain ⟨more, rest, h, hmore, hrest⟩ : ∃ more rest,
          readLines newline limit (line ++ [c]) text = (line ++ [c] ++ more) :: rest ∧
            more ⊆ text ∧ ∀ other ∈ rest, other ⊆ text := ih (by simp)
      refine ⟨c :: more, rest, by rw [h, List.append_assoc, List.singleton_append], ?_, ?_⟩
      · exact List.cons_subset_cons c hmore
      · exact fun other hother => List.Subset.trans (hrest other hother) (List.subset_cons_self c text)

def renderLine (eq newline : α) (field : List α × List α) : List α :=
  renderField eq field ++ [newline]

def renderLines (eq newline : α) (fields : List (List α × List α)) : List α :=
  fields.flatMap (renderLine eq newline)

/-- The assignments of a text whose lines are taken apart by `parse`. -/
def assignments (newline : α) (limit : Nat) (parse : List α → List (List α × List α))
    (text : List α) : List (List α × List α) :=
  (readLines newline limit [] text).flatMap parse

section Assignments

variable {parse : List α → List (List α × List α)}

lemma assignments_renderLines (fields : List (List α × List α)) :
    assignments newline limit parse (renderLines eq newline fields) =
      fields.flatMap fun field =>
        assignments newline limit parse (renderLine eq newline field) := by
  unfold assignments
  induction fields with
  | nil => simp [renderLines, readLines]
  | cons field fields ih =>
    have hcons : renderLines eq newline (field :: fields) =
        renderField eq field ++ newline :: renderLines eq newline fields := by
      simp [renderLines, renderLine]
    rw [hcons, readLines_append, List.flatMap_append, ih, List.flatMap_cons]
    rfl

lemma assignments_of_fits {text : List α} (hbreak : newline ∉ text) (hfits : text.length < limit) :
    assignments newline limit parse (text ++ [newline]) = parse (text ++ [newline]) := by
  rw [assignments, readLines_of_fits hbreak (by simpa using hfits), List.flatMap_singleton,
    List.nil_append]

/-- The assignments that a line makes behind its own. -/
def strays (newline : α) (limit : Nat) (parse : List α → List (List α × List α)) (eq : α)
    (field : List α × List α) : List (List α × List α) :=
  (assignments newline limit parse (renderLine eq newline field)).tail

/-- A field whose line starts with the assignment to its own key. -/
def OwnFirst (newline : α) (limit : Nat) (parse : List α → List (List α × List α)) (eq : α)
    (field : List α × List α) : Prop :=
  ∃ value, assignments newline limit parse (renderLine eq newline field) =
    (field.1, value) :: strays newline limit parse eq field

/-- A key that fits and holds neither `=` nor a line break, and lines that begin with what stands
in front of them. -/
lemma ownFirst_of_parse {key : List α} (hbreak : newline ∉ key) (hne : newline ≠ eq)
    (hfits : key.length + 1 < limit)
    (hparse : ∀ more, ∃ value rest, parse (renderField eq (key, more)) = (key, value) :: rest)
    (value : List α) : OwnFirst newline limit parse eq (key, value) := by
  have hfront : newline ∉ key ++ [eq] := by simp [hbreak, hne]
  have hne : key ++ [eq] ≠ [] := by simp
  obtain ⟨more, rest, hlines, -, -⟩ := readLines_starts newline limit hne (value ++ [newline])
  obtain ⟨own, parsed, hown⟩ := hparse more
  have htext : renderLine eq newline (key, value) = key ++ [eq] ++ (value ++ [newline]) := by
    simp [renderLine, renderField]
  have hfield : key ++ [eq] ++ more = renderField eq (key, more) := by simp [renderField]
  have hall : assignments newline limit parse (renderLine eq newline (key, value)) =
      (key, own) :: (parsed ++ rest.flatMap parse) := by
    rw [assignments, htext, readLines_front hfront (by simpa using hfits), List.nil_append, hlines,
      List.flatMap_cons, hfield, hown, List.cons_append]
  exact ⟨own, by rw [strays, hall, List.tail_cons]⟩

end Assignments

def splitAssignment (eq : α) (text : List α) : Option (List α × List α) :=
  match text.dropWhile (· ≠ eq) with
  | [] => none
  | _ :: value => some (upTo eq text, value)

lemma splitAssignment_renderField {key : List α} (hkey : eq ∉ key) (value : List α) :
    splitAssignment eq (renderField eq (key, value)) = some (key, value) := by
  have hdrop : (renderField eq (key, value)).dropWhile (· ≠ eq) = eq :: value := by
    rw [renderField, List.dropWhile_append_of_pos, List.dropWhile_cons_of_neg (by simp)]
    intro c hc
    simp only [decide_eq_true_eq]
    exact fun h => hkey (h ▸ hc)
  have hupto : upTo eq (renderField eq (key, value)) = key := by
    rw [renderField, upTo_append_cons, upTo_of_notMem hkey]
  rw [splitAssignment, hdrop, hupto]

section LastAndFirst

variable {κ β σ : Type} [DecidableEq κ] {key : κ}
variable {entries : List (κ × β)} {test : β → Bool}

/-- The value of the last assignment to the key. -/
def lastOf (key : κ) (entries : List (κ × β)) : Option β :=
  (entries.reverse.find? (·.1 == key)).map Prod.snd

lemma lastOf_append (entries more : List (κ × β)) :
    lastOf key (entries ++ more) = (lastOf key more).or (lastOf key entries) := by
  simp [lastOf, List.find?_append, Option.map_or]

lemma lastOf_singleton (entry : κ × β) :
    lastOf key [entry] = if entry.1 = key then some entry.2 else none := by
  by_cases h : entry.1 = key <;> simp [lastOf, h]

lemma lastOf_cons (entry : κ × β) (entries : List (κ × β)) :
    lastOf key (entry :: entries) =
      (lastOf key entries).or (if entry.1 = key then some entry.2 else none) := by
  rw [← List.singleton_append, lastOf_append, lastOf_singleton]

lemma mem_of_lastOf {value : β} (h : lastOf key entries = some value) :
    (key, value) ∈ entries := by
  obtain ⟨entry, hfind, rfl⟩ := Option.map_eq_some_iff.mp h
  have hkey : entry.1 = key := by simpa using List.find?_some hfind
  exact hkey ▸ List.mem_reverse.mp (List.mem_of_find?_eq_some hfind)

/-- The value of the first assignment to the key that the test accepts. -/
def firstOf (key : κ) (test : β → Bool) (entries : List (κ × β)) : Option β :=
  (entries.find? fun entry => entry.1 == key && test entry.2).map Prod.snd

lemma test_of_firstOf {value : β} (h : firstOf key test entries = some value) :
    test value = true := by
  obtain ⟨entry, hfind, rfl⟩ := Option.map_eq_some_iff.mp h
  have hentry := List.find?_some hfind
  exact (Bool.and_eq_true_iff.mp hentry).2

lemma firstOf_append (entries more : List (κ × β)) :
    firstOf key test (entries ++ more) = (firstOf key test entries).or (firstOf key test more) := by
  simp [firstOf, List.find?_append, Option.map_or]

variable {γ : Type} {step : σ → κ × β → σ} {read : σ → γ} {set : β → γ}

/-- A field that every assignment to its key sets has the value of the last one. -/
lemma foldl_eq_lastOf
    (h : ∀ s entry, read (step s entry) = if entry.1 = key then set entry.2 else read s) (s : σ)
    (entries : List (κ × β)) :
    read (entries.foldl step s) = ((lastOf key entries).map set).getD (read s) := by
  induction entries generalizing s with
  | nil => rfl
  | cons entry entries ih =>
    rw [List.foldl_cons, ih, lastOf_cons, h]
    cases lastOf key entries with
    | some value => rfl
    | none => by_cases hkey : entry.1 = key <;> simp [hkey]

/-- A field that an assignment sets only while it is unset has the value of the first one. -/
lemma foldl_eq_firstOf [DecidableEq γ] {unset : γ}
    (h : ∀ s entry, read (step s entry) =
      if entry.1 = key ∧ read s = unset then set entry.2 else read s)
    (hset : ∀ value, set value = unset ↔ test value = false) (s : σ) (entries : List (κ × β)) :
    read (entries.foldl step s) =
      if read s = unset then ((firstOf key test entries).map set).getD unset else read s := by
  induction entries generalizing s with
  | nil =>
    split_ifs with hs
    · exact hs
    · rfl
  | cons entry entries ih =>
    have hstep := h s entry
    rw [List.foldl_cons, ih]
    by_cases hs : read s = unset
    · by_cases hkey : entry.1 = key
      · rw [if_pos ⟨hkey, hs⟩] at hstep
        rw [hstep, if_pos hs]
        cases htest : test entry.2 with
        | false => simp [firstOf, htest, (hset _).mpr htest]
        | true =>
          have hne : set entry.2 ≠ unset := fun hunset => by
            rw [(hset _).mp hunset] at htest
            cases htest
          rw [if_neg hne]
          simp [firstOf, hkey, htest]
      · rw [if_neg fun hc => hkey hc.1] at hstep
        rw [hstep, if_pos hs, if_pos hs]
        simp [firstOf, hkey]
    · rw [if_neg fun hc => hs hc.2] at hstep
      rw [hstep, if_neg hs, if_neg hs]

end LastAndFirst

section Named

variable {κ σ β γ : Type} {name : κ → List α} {keys : List κ}

lemma find?_name_eq_some_iff
    (hself : ∀ key, keys.find? (fun other => name other == name key) = some key) {text : List α}
    {key : κ} : keys.find? (fun other => name other == text) = some key ↔ text = name key := by
  constructor
  · intro h
    have hname := List.find?_some h
    exact (beq_iff_eq.mp hname).symm
  · rintro rfl
    exact hself key

lemma read_assign_named {ofName? : List α → Option κ} {assign : σ → κ → β → σ} (get : σ → γ)
    {own : κ} (hof : ∀ text key, ofName? text = some key ↔ text = name key)
    (hother : ∀ s key value, key ≠ own → get (assign s key value) = get s) (s : σ)
    (entry : List α × β) :
    get ((ofName? entry.1).elim s fun key => assign s key entry.2) =
      if entry.1 = name own then get (assign s own entry.2) else get s := by
  by_cases hname : entry.1 = name own
  · rw [if_pos hname, (hof _ _).mpr hname, Option.elim_some]
  · rw [if_neg hname]
    cases hkey : ofName? entry.1 with
    | none => rfl
    | some key =>
      have hne : key ≠ own := fun h => hname (h ▸ (hof _ _).mp hkey)
      exact hother s key entry.2 hne

end Named

def linesBefore (key : List α) (fields : List (List α × List α)) : List (List α × List α) :=
  fields.takeWhile (·.1 ≠ key)

def linesBehind (key : List α) (fields : List (List α × List α)) : List (List α × List α) :=
  (fields.dropWhile (·.1 ≠ key)).tail

section OneLineEach

variable {fields before after : List (List α × List α)} {field : List α × List α}

lemma linesBefore_and_linesBehind
    (hnodup : ((before ++ field :: after).map Prod.fst).Nodup) :
    linesBefore field.1 (before ++ field :: after) = before ∧
      linesBehind field.1 (before ++ field :: after) = after ∧
      (∀ other ∈ before, other.1 ≠ field.1) ∧ ∀ other ∈ after, other.1 ≠ field.1 := by
  rw [List.map_append, List.map_cons, List.nodup_append] at hnodup
  obtain ⟨-, hafter, hbefore⟩ := hnodup
  have hne : ∀ other ∈ before, other.1 ≠ field.1 := fun other hother =>
    hbefore _ (List.mem_map_of_mem hother) _ List.mem_cons_self
  have hskip : ∀ other ∈ before, decide (other.1 ≠ field.1) = true := fun other hother =>
    decide_eq_true (hne other hother)
  refine ⟨?_, ?_, hne, fun other hother heq => ?_⟩
  · rw [linesBefore, List.takeWhile_append_of_pos hskip, List.takeWhile_cons_of_neg (by simp),
      List.append_nil]
  · rw [linesBehind, List.dropWhile_append_of_pos hskip, List.dropWhile_cons_of_neg (by simp),
      List.tail_cons]
  · exact (List.nodup_cons.mp hafter).1 (heq ▸ List.mem_map_of_mem hother)

lemma eq_linesBefore_append_linesBehind (hnodup : (fields.map Prod.fst).Nodup)
    (hfield : field ∈ fields) :
    fields = linesBefore field.1 fields ++ field :: linesBehind field.1 fields ∧
      (∀ other ∈ linesBefore field.1 fields, other.1 ≠ field.1) ∧
      ∀ other ∈ linesBehind field.1 fields, other.1 ≠ field.1 := by
  obtain ⟨before, after, rfl⟩ := List.append_of_mem hfield
  obtain ⟨hbefore, hbehind, hne⟩ := linesBefore_and_linesBehind hnodup
  rw [hbefore, hbehind]
  exact ⟨rfl, hne⟩

end OneLineEach

section OtherLines

variable {parse : List α → List (List α × List α)} {key : List α}
  {others : List (List α × List α)}

lemma lastOf_others (hown : ∀ other ∈ others, OwnFirst newline limit parse eq other)
    (hne : ∀ other ∈ others, other.1 ≠ key) :
    lastOf key (others.flatMap fun other =>
        assignments newline limit parse (renderLine eq newline other)) =
      lastOf key (others.flatMap (strays newline limit parse eq)) := by
  induction others with
  | nil => rfl
  | cons other others ih =>
    obtain ⟨hkey, hne⟩ := List.forall_mem_cons.mp hne
    obtain ⟨⟨value, hvalue⟩, hown⟩ := List.forall_mem_cons.mp hown
    rw [List.flatMap_cons, List.flatMap_cons, lastOf_append, lastOf_append, ih hown hne,
      hvalue, lastOf_cons, if_neg hkey, Option.or_none]

lemma firstOf_others {test : List α → Bool}
    (hown : ∀ other ∈ others, OwnFirst newline limit parse eq other)
    (hne : ∀ other ∈ others, other.1 ≠ key) :
    firstOf key test (others.flatMap fun other =>
        assignments newline limit parse (renderLine eq newline other)) =
      firstOf key test (others.flatMap (strays newline limit parse eq)) := by
  induction others with
  | nil => rfl
  | cons other others ih =>
    obtain ⟨hkey, hne⟩ := List.forall_mem_cons.mp hne
    obtain ⟨⟨value, hvalue⟩, hown⟩ := List.forall_mem_cons.mp hown
    have hskip : ∀ entries, firstOf key test ((other.1, value) :: entries) =
        firstOf key test entries := fun entries => by simp [firstOf, hkey]
    rw [List.flatMap_cons, List.flatMap_cons, firstOf_append, firstOf_append, ih hown hne,
      hvalue, hskip]

end OtherLines

/-- The last assignment to the key of a field: what the lines behind it assign to it besides their
own keys, and else what its own line does. -/
theorem lastOf_renderLines {parse : List α → List (List α × List α)}
    {fields : List (List α × List α)} {field : List α × List α}
    (hnodup : (fields.map Prod.fst).Nodup) (hfield : field ∈ fields)
    (hown : ∀ other ∈ fields, OwnFirst newline limit parse eq other) :
    lastOf field.1 (assignments newline limit parse (renderLines eq newline fields)) =
      (lastOf field.1 ((linesBehind field.1 fields).flatMap (strays newline limit parse eq))).or
        (lastOf field.1 (assignments newline limit parse (renderLine eq newline field))) := by
  obtain ⟨hfields, -, hafter⟩ := eq_linesBefore_append_linesBehind hnodup hfield
  have hafterOwn : ∀ other ∈ linesBehind field.1 fields, OwnFirst newline limit parse eq other :=
    fun other hother => hown other (by rw [hfields]; simp [hother])
  obtain ⟨value, hvalue⟩ := hown field hfield
  obtain ⟨last, hlast⟩ : ∃ last, lastOf field.1 (assignments newline limit parse
      (renderLine eq newline field)) = some last := by
    rw [hvalue, lastOf_cons, if_pos rfl]
    cases lastOf field.1 (strays newline limit parse eq field) with
    | none => exact ⟨value, rfl⟩
    | some last => exact ⟨last, rfl⟩
  conv_lhs => rw [hfields]
  rw [assignments_renderLines, List.flatMap_append, List.flatMap_cons, lastOf_append,
    lastOf_append, lastOf_others hafterOwn hafter, hlast]
  cases lastOf field.1 ((linesBehind field.1 fields).flatMap (strays newline limit parse eq)) <;>
    rfl

/-- The first assignment to the key of a field that the test accepts, if it accepts that of the
field's own line: what the lines in front of it assign to it, and else what its own line does. -/
theorem firstOf_renderLines {parse : List α → List (List α × List α)}
    {fields : List (List α × List α)} {field : List α × List α} {test : List α → Bool}
    {value : List α} {more : List (List α × List α)}
    (hnodup : (fields.map Prod.fst).Nodup) (hfield : field ∈ fields)
    (hown : ∀ other ∈ fields, OwnFirst newline limit parse eq other)
    (hvalue : assignments newline limit parse (renderLine eq newline field) =
      (field.1, value) :: more) (htest : test value = true) :
    firstOf field.1 test (assignments newline limit parse (renderLines eq newline fields)) =
      some ((firstOf field.1 test ((linesBefore field.1 fields).flatMap
        (strays newline limit parse eq))).getD value) := by
  obtain ⟨hfields, hbefore, -⟩ := eq_linesBefore_append_linesBehind hnodup hfield
  have hbeforeOwn : ∀ other ∈ linesBefore field.1 fields, OwnFirst newline limit parse eq other :=
    fun other hother => hown other (by rw [hfields]; simp [hother])
  have hfirst : ∀ entries, firstOf field.1 test ((field.1, value) :: entries) = some value :=
    fun entries => by simp [firstOf, htest]
  conv_lhs => rw [hfields]
  rw [assignments_renderLines, List.flatMap_append, List.flatMap_cons, firstOf_append,
    firstOf_others hbeforeOwn hbefore, hvalue, List.cons_append, hfirst]
  cases firstOf field.1 test ((linesBefore field.1 fields).flatMap
    (strays newline limit parse eq)) <;> rfl

end QhapaqXian.Library
