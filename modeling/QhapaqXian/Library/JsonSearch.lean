import QhapaqXian.Library.Json

/-!
# Searching a JSON text

A search for the text of a member without escapes, over the raw bytes of an object, finds exactly
that member: no string can imitate it, since a quote within a string is escaped and no colon follows
the quote that ends one.
-/

namespace QhapaqXian.Library.Json

variable {body text : Bytes} {member : Member}

/-- The text of a member with a string value, if neither needs escapes. -/
def searchText (key value : Bytes) : Bytes :=
  34 :: (key ++ 34 :: 58 :: 34 :: (value ++ [34]))

/-- A key that is not taken for what follows a quote elsewhere. -/
structure Searchable (key value : Bytes) : Prop where
  plainKey : ∀ b ∈ key, Plain b
  head : ∃ b, key.head? = some b ∧ b ≠ 58 ∧ ¬ Separator b
  plainValue : ∀ b ∈ value, Plain b

lemma Spells.eq_of_prefixed {plain tail rest : Bytes} (h : Spells body text)
    (hplain : ∀ b ∈ plain, Plain b) (hbegins : plain ++ 34 :: tail <+: body ++ 34 :: rest) :
    body = plain ∧ tail <+: rest := by
  induction h generalizing plain with
  | nil =>
    cases plain with
    | nil => exact ⟨rfl, (List.cons_prefix_cons.mp hbegins).2⟩
    | cons b plain =>
      have hb := (List.cons_prefix_cons.mp hbegins).1
      exact absurd hb (hplain b List.mem_cons_self).2.1
  | plain hb _ ih =>
    cases plain with
    | nil => exact absurd (List.cons_prefix_cons.mp hbegins).1.symm hb.2.1
    | cons c plain =>
      obtain ⟨rfl, hrest⟩ := List.cons_prefix_cons.mp hbegins
      obtain ⟨rfl, htail⟩ := ih (fun b hb => hplain b (List.mem_cons_of_mem c hb)) hrest
      exact ⟨rfl, htail⟩
  | escape _ _ _ =>
    cases plain with
    | nil => exact absurd (List.cons_prefix_cons.mp hbegins).1 (by decide)
    | cons c plain =>
      have hc := (List.cons_prefix_cons.mp hbegins).1
      exact absurd hc (hplain c List.mem_cons_self).2.2

section search

variable {key value rest : Bytes} {sep : UInt8}

lemma searchText_infix_skip (front : Bytes) (hfront : 34 ∉ front) :
    searchText key value <:+: front ++ rest ↔ searchText key value <:+: rest := by
  induction front with
  | nil => rfl
  | cons b front ih =>
    rw [List.mem_cons, not_or] at hfront
    rw [List.cons_append, List.infix_cons_iff, ih hfront.2]
    constructor
    · rintro (hhere | hlater)
      · exact absurd (List.cons_prefix_cons.mp hhere).1 hfront.1
      · exact hlater
    · exact .inr

lemma searchText_infix_cons (h : ¬ searchText key value <+: 34 :: rest) :
    searchText key value <:+: 34 :: rest ↔ searchText key value <:+: rest := by
  rw [List.infix_cons_iff]
  exact ⟨fun hor => hor.resolve_left h, .inr⟩

lemma Searchable.not_prefix_closing (h : Searchable key value) {b : UInt8}
    (hb : b = 58 ∨ Separator b) : ¬ searchText key value <+: 34 :: b :: rest := by
  intro hbegins
  obtain ⟨c, hhead, hcolon, hsep⟩ := h.head
  obtain ⟨tail, rfl⟩ := List.head?_eq_some_iff.mp hhead
  have hc : c = b :=
    (List.cons_prefix_cons.mp (List.cons_prefix_cons.mp hbegins).2).1
  rcases hb with hb | hb
  · exact hcolon (hc.trans hb)
  · exact hsep (hc ▸ hb)

lemma Searchable.not_prefix_body (h : Searchable key value) (hbody : Spells body text)
    (hsep : Separator sep) :
    ¬ searchText key value <+: 34 :: (body ++ 34 :: sep :: rest) := by
  intro hbegins
  have hcolon := (hbody.eq_of_prefixed h.plainKey (List.cons_prefix_cons.mp hbegins).2).2
  have heq : 58 = sep := (List.cons_prefix_cons.mp hcolon).1
  subst heq
  rcases hsep with hsep | hsep <;> cases hsep

lemma Separator.ne_quote (h : Separator sep) : sep ≠ 34 := by
  rcases h with rfl | rfl
  · decide
  · decide

lemma notMem_of_codeUnit {digits : Bytes} {code : Nat} (h : codeUnit digits = some code)
    (b : UInt8) (hb : hexValue b = none) : b ∉ digits := by
  unfold codeUnit at h
  split at h
  · rename_i a b' c d
    simp only [Option.pure_def, Option.bind_eq_bind, Option.bind_eq_some_iff] at h
    obtain ⟨x, hx, y, hy, z, hz, w, hw, -⟩ := h
    simp only [List.mem_cons, List.not_mem_nil, or_false, not_or]
    refine ⟨?_, ?_, ?_, ?_⟩ <;> rintro rfl <;> simp_all
  · cases h

lemma Escape.quote {sequence decoded : Bytes} (h : Escape sequence decoded) :
    sequence = [34] ∨ 34 ∉ sequence := by
  cases h with
  | @simple b c hb =>
    by_cases hquote : b = 34
    · exact .inl (by rw [hquote])
    · exact .inr (by simpa using Ne.symm hquote)
  | unicode hcode _ _ => exact .inr (by simp [notMem_of_codeUnit hcode 34 rfl])
  | pair hcode _ hcode' _ =>
    exact .inr (by simp [notMem_of_codeUnit hcode 34 rfl,
      notMem_of_codeUnit hcode' 34 rfl])

lemma Searchable.infix_body (h : Searchable key value) (hbody : Spells body text)
    (hsep : Separator sep) :
    searchText key value <:+: body ++ 34 :: sep :: rest ↔ searchText key value <:+: rest := by
  induction hbody with
  | nil =>
    rw [List.nil_append, searchText_infix_cons (h.not_prefix_closing (.inr hsep))]
    exact searchText_infix_skip [sep] (by simp [hsep.ne_quote.symm])
  | @plain b body text hb _ ih =>
    rw [← ih]
    exact searchText_infix_skip [b] (by simp [hb.2.1.symm])
  | @escape sequence decoded body text hsequence hbody ih =>
    rw [← ih]
    rcases hsequence.quote with rfl | hquote
    · exact (searchText_infix_skip [92] (by decide)).trans
        (searchText_infix_cons (h.not_prefix_body hbody hsep))
    · rw [List.cons_append, List.append_assoc]
      exact searchText_infix_skip (92 :: sequence) (by simp [hquote])

lemma notMem_decimal (n : Int) {b : UInt8} (hdigit : isDigit b = false) (hminus : b ≠ 45) :
    b ∉ decimal n := by
  have hdigits : ∀ n : Nat, b ∉ ascii (Nat.toDigits 10 n) := by
    intro n hmem
    obtain ⟨c, hc, rfl⟩ := List.mem_map.mp hmem
    rw [isDigit_ofNat (Nat.isDigit_of_mem_toDigits (by decide) (by decide) hc)] at hdigit
    cases hdigit
  cases n with
  | ofNat n => exact hdigits n
  | negSucc n => exact List.not_mem_cons_of_ne_of_not_mem hminus (hdigits (n + 1))

lemma ValueText.quote {v : Value} (h : ValueText v text) :
    (∃ body decoded, Spells body decoded ∧ text = 34 :: (body ++ [34])) ∨ 34 ∉ text := by
  cases h with
  | null => exact .inr (by decide)
  | bool b => exact .inr (by cases b <;> decide)
  | number n => exact .inr (notMem_decimal n rfl (by decide))
  | string hliteral =>
    obtain ⟨body, rfl, hbody⟩ := hliteral
    exact .inl ⟨body, _, hbody, rfl⟩

lemma Searchable.infix_value (h : Searchable key value) {v : Value} (hvalue : ValueText v text)
    (hsep : Separator sep) :
    searchText key value <:+: text ++ sep :: rest ↔ searchText key value <:+: rest := by
  rcases hvalue.quote with ⟨body, decoded, hbody, rfl⟩ | hquote
  · have hshape : 34 :: (body ++ [34]) ++ sep :: rest = 34 :: (body ++ 34 :: sep :: rest) := by simp
    rw [hshape, searchText_infix_cons (h.not_prefix_body hbody hsep), h.infix_body hbody hsep]
  · have hskip : searchText key value <:+: (text ++ [sep]) ++ rest ↔ _ :=
      searchText_infix_skip (text ++ [sep]) (by simp [hquote, hsep.ne_quote.symm])
    rwa [List.append_assoc, List.singleton_append] at hskip

lemma Searchable.prefix_member (h : Searchable key value) (hmember : MemberText member text)
    (hsep : Separator sep) (hbegins : searchText key value <+: text ++ sep :: rest) :
    text = searchText key value := by
  cases hmember with
  | @intro name v valueText hname hvalue =>
    rw [List.cons_append, List.append_assoc] at hbegins
    obtain ⟨rfl, htail⟩ := (spells_plain hname).eq_of_prefixed h.plainKey
      (List.cons_prefix_cons.mp hbegins).2
    have hquoted : 34 :: (value ++ [34]) <+: valueText ++ sep :: rest :=
      (List.cons_prefix_cons.mp htail).2
    rcases hvalue.quote with ⟨body, decoded, hbody, rfl⟩ | hquote
    · rw [List.cons_append, List.append_assoc] at hquoted
      obtain ⟨rfl, -⟩ := hbody.eq_of_prefixed h.plainValue (List.cons_prefix_cons.mp hquoted).2
      rfl
    · cases valueText with
      | nil => exact absurd (List.cons_prefix_cons.mp hquoted).1.symm hsep.ne_quote
      | cons b valueText =>
        obtain ⟨rfl, -⟩ := List.cons_prefix_cons.mp hquoted
        exact absurd List.mem_cons_self hquote

lemma Searchable.infix_member (h : Searchable key value) (hmember : MemberText member text)
    (hsep : Separator sep) :
    searchText key value <:+: text ++ sep :: rest ↔
      text = searchText key value ∨ searchText key value <:+: rest := by
  have hlater : text ≠ searchText key value →
      (searchText key value <:+: text ++ sep :: rest ↔ searchText key value <:+: rest) := by
    intro hne
    have hhere : ¬ searchText key value <+: text ++ sep :: rest := fun hbegins =>
      hne (h.prefix_member hmember hsep hbegins)
    cases hmember with
    | @intro name v valueText hname hvalue =>
      have hquote : 34 ∉ name := fun hmem => (hname 34 hmem).2.1 rfl
      rw [List.cons_append, List.append_assoc] at hhere ⊢
      rw [searchText_infix_cons hhere, searchText_infix_skip name hquote, List.cons_append,
        List.cons_append, searchText_infix_cons (h.not_prefix_closing (.inl rfl))]
      exact (searchText_infix_skip [58] (by decide)).trans (h.infix_value hvalue hsep)
  by_cases heq : text = searchText key value
  · constructor
    · exact fun _ => .inl heq
    · intro _
      rw [heq]
      exact (List.prefix_append _ _).isInfix
  · rw [hlater heq]
    exact ⟨.inr, fun hor => hor.resolve_left heq⟩

/-- A search in the text of an object finds a member without escapes exactly if the object has
that member, whatever its strings hold. -/
theorem Searchable.infix_joinMembers (h : Searchable key value) {texts : List Bytes}
    {lastText : Bytes} (htexts : ∀ text ∈ texts, ∃ member, MemberText member text)
    (hlast : ∃ member, MemberText member lastText) :
    searchText key value <:+: joinMembers texts lastText ↔
      searchText key value ∈ texts ++ [lastText] := by
  have hbrace : searchText key value <:+: joinMembers texts lastText ↔
      searchText key value <:+: texts.flatMap (· ++ [44]) ++ (lastText ++ [125]) :=
    searchText_infix_skip [123] (by decide)
  rw [hbrace]
  clear hbrace
  induction texts with
  | nil =>
    obtain ⟨member, hmember⟩ := hlast
    have hnil : ¬ searchText key value <:+: ([] : Bytes) := by simp [searchText]
    rw [List.flatMap_nil, List.nil_append, h.infix_member hmember (.inr rfl)]
    simp [hnil, eq_comm]
  | cons text texts ih =>
    obtain ⟨member, hmember⟩ := htexts text List.mem_cons_self
    have hrest : searchText key value <:+: texts.flatMap (· ++ [44]) ++ (lastText ++ [125]) ↔
        searchText key value ∈ texts ++ [lastText] :=
      ih fun other hother => htexts other (List.mem_cons_of_mem text hother)
    have hshape : (text :: texts).flatMap (· ++ [44]) ++ (lastText ++ [125]) =
        text ++ 44 :: (texts.flatMap (· ++ [44]) ++ (lastText ++ [125])) := by simp
    rw [hshape, h.infix_member hmember (.inl rfl), hrest]
    simp [eq_comm]

end search

/-! ## Texts without a zero byte -/

lemma Escape.zero_notMem {sequence decoded : Bytes} (h : Escape sequence decoded) :
    0 ∉ sequence := by
  cases h with
  | @simple b c hb =>
    rw [List.mem_singleton]
    rintro rfl
    cases hb
  | unicode hcode _ _ => simp [notMem_of_codeUnit hcode 0 rfl]
  | pair hcode _ hcode' _ =>
    simp [notMem_of_codeUnit hcode 0 rfl, notMem_of_codeUnit hcode' 0 rfl]

lemma Plain.ne_zero {b : UInt8} (h : Plain b) : b ≠ 0 := by
  rintro rfl
  exact absurd h (by decide)

lemma Spells.zero_notMem (h : Spells body text) : 0 ∉ body := by
  induction h with
  | nil => exact List.not_mem_nil
  | plain hb _ ih => exact List.not_mem_cons_of_ne_of_not_mem hb.ne_zero.symm ih
  | escape hsequence _ ih => simp [hsequence.zero_notMem, ih]

lemma MemberText.zero_notMem (h : MemberText member text) :
    0 ∉ text := by
  cases h with
  | @intro name v valueText hname hvalue =>
    have hkey : 0 ∉ name := fun hmem => (hname 0 hmem).ne_zero rfl
    have hzero : 0 ∉ valueText := by
      cases hvalue with
      | null => decide
      | bool b => cases b <;> decide
      | number n => exact notMem_decimal n rfl (by decide)
      | string hliteral =>
        obtain ⟨body, rfl, hbody⟩ := hliteral
        simp [hbody.zero_notMem]
    simp [hkey, hzero]

lemma zero_notMem_joinMembers {texts : List Bytes} {lastText : Bytes}
    (htexts : ∀ text ∈ texts, ∃ member, MemberText member text)
    (hlast : ∃ member, MemberText member lastText) : 0 ∉ joinMembers texts lastText := by
  obtain ⟨member, hmember⟩ := hlast
  have hfront : 0 ∉ texts.flatMap (· ++ [44]) := by
    intro hmem
    obtain ⟨text, htext, hmem⟩ := List.mem_flatMap.mp hmem
    obtain ⟨other, hother⟩ := htexts text htext
    simp [hother.zero_notMem] at hmem
  simp [joinMembers, hfront, hmember.zero_notMem]

end QhapaqXian.Library.Json
