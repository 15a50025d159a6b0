import Mathlib.Data.List.Forall2
import QhapaqXian.Library.Fields

/-!
# Flat JSON objects

JSON texts over bytes, for objects without white space whose values are strings, integers and the
literals. The grammar is a relation between values and texts; a reader gives back the value of
every text of the grammar.
-/

namespace QhapaqXian.Library.Json

variable {text : Bytes} {sep : UInt8}

abbrev Bytes := List UInt8

inductive Value
  | null
  | bool (b : Bool)
  | number (n : Int)
  | string (text : Bytes)
  deriving Repr, DecidableEq

abbrev Member := Bytes × Value

def ascii (text : List Char) : Bytes :=
  text.map fun c => UInt8.ofNat c.toNat

/-! ## The grammar -/

/-- The characters that are escaped with one letter, and what they stand for. -/
def simpleEscape (b : UInt8) : Option UInt8 :=
  [(34, 34), (92, 92), (47, 47), (98, 8), (102, 12), (110, 10), (114, 13), (116, 9)].lookup b

def hexValue (b : UInt8) : Option Nat :=
  if 48 ≤ b ∧ b ≤ 57 then some (b.toNat - 48)
  else if 97 ≤ b ∧ b ≤ 102 then some (b.toNat - 87)
  else if 65 ≤ b ∧ b ≤ 70 then some (b.toNat - 55)
  else none

def codeUnit : Bytes → Option Nat
  | [a, b, c, d] => do
    return (((← hexValue a) * 16 + (← hexValue b)) * 16 + (← hexValue c)) * 16 + (← hexValue d)
  | _ => none

def isHighSurrogate (code : Nat) : Bool :=
  0xD800 ≤ code && code < 0xDC00

def isLowSurrogate (code : Nat) : Bool :=
  0xDC00 ≤ code && code < 0xE000

def utf8 (code : Nat) : Bytes :=
  String.utf8EncodeChar (Char.ofNat code)

def surrogatePair (high low : Nat) : Bytes :=
  utf8 (0x10000 + (high - 0xD800) * 0x400 + (low - 0xDC00))

/-- What follows a backslash, and the bytes it stands for. -/
inductive Escape : Bytes → Bytes → Prop
  | simple {b c : UInt8} : simpleEscape b = some c → Escape [b] [c]
  | unicode {digits : Bytes} {code : Nat} : codeUnit digits = some code →
      isHighSurrogate code = false → isLowSurrogate code = false →
      Escape (117 :: digits) (utf8 code)
  | pair {digits digits' : Bytes} {high low : Nat} : codeUnit digits = some high →
      isHighSurrogate high = true → codeUnit digits' = some low → isLowSurrogate low = true →
      Escape (117 :: (digits ++ 92 :: 117 :: digits')) (surrogatePair high low)

/-- A byte that stands for itself within a string. -/
def Plain (b : UInt8) : Prop :=
  32 ≤ b ∧ b ≠ 34 ∧ b ≠ 92

instance (b : UInt8) : Decidable (Plain b) :=
  inferInstanceAs (Decidable (_ ∧ _))

-- bytes are finitely many, so deciding this by its quantifier may try them all
lemma plain_of_all {text : Bytes} (h : text.all (fun b => decide (Plain b)) = true) :
    ∀ b ∈ text, Plain b :=
  fun b hb => of_decide_eq_true (List.all_eq_true.mp h b hb)

/-- The body of a string literal, and the text it stands for. -/
inductive Spells : Bytes → Bytes → Prop
  | nil : Spells [] []
  | plain {b : UInt8} {body text : Bytes} : Plain b → Spells body text →
      Spells (b :: body) (b :: text)
  | escape {sequence decoded body text : Bytes} : Escape sequence decoded → Spells body text →
      Spells (92 :: (sequence ++ body)) (decoded ++ text)

/-- A string literal that decodes to the text. -/
def IsLiteral (literal text : Bytes) : Prop :=
  ∃ body, literal = 34 :: (body ++ [34]) ∧ Spells body text

def decimal : Int → Bytes
  | .ofNat n => ascii (Nat.toDigits 10 n)
  | .negSucc n => 45 :: ascii (Nat.toDigits 10 (n + 1))

def word : Option Bool → List Char
  | none => ['n', 'u', 'l', 'l']
  | some true => ['t', 'r', 'u', 'e']
  | some false => ['f', 'a', 'l', 's', 'e']

inductive ValueText : Value → Bytes → Prop
  | null : ValueText .null (ascii (word none))
  | bool (b : Bool) : ValueText (.bool b) (ascii (word (some b)))
  | number (n : Int) : ValueText (.number n) (decimal n)
  | string {text literal : Bytes} : IsLiteral literal text → ValueText (.string text) literal

/-- A member, for a key that needs no escapes. -/
inductive MemberText : Member → Bytes → Prop
  | intro {key : Bytes} {value : Value} {valueText : Bytes} : (∀ b ∈ key, Plain b) →
      ValueText value valueText → MemberText (key, value) (34 :: (key ++ 34 :: 58 :: valueText))

/-- The text of an object, from the texts of its members. -/
def joinMembers (front : List Bytes) (last : Bytes) : Bytes :=
  123 :: (front.flatMap (· ++ [44]) ++ (last ++ [125]))

inductive ObjectText : List Member → Bytes → Prop
  | intro {front : List Member} {last : Member} {texts : List Bytes} {lastText : Bytes} :
      List.Forall₂ MemberText front texts → MemberText last lastText →
      ObjectText (front ++ [last]) (joinMembers texts lastText)

/-! ## A reader -/

def readEscape : Bytes → Option (Bytes × Bytes)
  | [] => none
  | b :: rest =>
    if b = 117 then
      (codeUnit (rest.take 4)).bind fun code =>
        let rest := rest.drop 4
        if isHighSurrogate code then
          if [92, 117].isPrefixOf rest then
            (codeUnit ((rest.drop 2).take 4)).bind fun low =>
              if isLowSurrogate low then some (surrogatePair code low, rest.drop 6) else none
          else none
        else if isLowSurrogate code then none
        else some (utf8 code, rest)
    else (simpleEscape b).map fun c => ([c], rest)

/-- The rest of a string behind its opening quote; a character takes one unit of fuel. -/
def readBody : Nat → Bytes → Option (Bytes × Bytes)
  | 0, _ => none
  | _, [] => none
  | fuel + 1, b :: rest =>
    if b = 34 then some ([], rest)
    else if b = 92 then
      (readEscape rest).bind fun (decoded, rest) =>
        (readBody fuel rest).map fun (text, rest) => (decoded ++ text, rest)
    else if b < 32 then none
    else (readBody fuel rest).map fun (text, rest) => (b :: text, rest)

def readString (text : Bytes) : Option (Bytes × Bytes) :=
  if text.head? = some 34 then readBody text.length text.tail else none

def isDigit (b : UInt8) : Bool :=
  48 ≤ b && b ≤ 57

/-- An unsigned integer; a zero in front of other digits is refused. -/
def readDigits (text : Bytes) : Option (Nat × Bytes) :=
  let digits := text.takeWhile isDigit
  if digits = [] ∨ (digits.head? = some 48 ∧ digits.length ≠ 1) then none
  else some (Nat.ofDigitChars 10 (digits.map fun b => Char.ofNat b.toNat) 0,
    text.dropWhile isDigit)

def readNumber (text : Bytes) : Option (Int × Bytes) :=
  if text.head? = some 45 then (readDigits text.tail).map fun (n, rest) => (-(n : Int), rest)
  else (readDigits text).map fun (n, rest) => ((n : Int), rest)

def readWord (letters : Option Bool) (value : Value) (text : Bytes) : Option (Value × Bytes) :=
  if (ascii (word letters)).isPrefixOf text then some (value, text.drop (word letters).length)
  else none

def readValue (text : Bytes) : Option (Value × Bytes) :=
  ((readString text).map fun (string, rest) => (Value.string string, rest)).or
    (((readNumber text).map fun (n, rest) => (Value.number n, rest)).or
      ((readWord none .null text).or
        ((readWord (some true) (.bool true) text).or
          (readWord (some false) (.bool false) text))))

def readMember (text : Bytes) : Option (Member × Bytes) :=
  (readString text).bind fun (key, rest) =>
    if rest.head? = some 58 then
      (readValue rest.tail).map fun (value, rest) => ((key, value), rest)
    else none

/-- Members up to the closing brace, which ends the text; a member takes one unit of fuel. -/
def readMembers : Nat → Bytes → Option (List Member)
  | 0, _ => none
  | fuel + 1, text =>
    (readMember text).bind fun (member, rest) =>
      if rest = [125] then some [member]
      else if rest.head? = some 44 then
        (readMembers fuel rest.tail).map fun members => member :: members
      else none

def readObject (text : Bytes) : Option (List Member) :=
  if text = [123, 125] then some []
  else if text.head? = some 123 then readMembers text.length text.tail
  else none

/-! ## Texts are read back -/

lemma length_of_codeUnit {digits : Bytes} {code : Nat} (h : codeUnit digits = some code) :
    digits.length = 4 := by
  unfold codeUnit at h
  split at h
  · rfl
  · cases h

lemma readEscape_append {sequence decoded : Bytes} (h : Escape sequence decoded) (rest : Bytes) :
    readEscape (sequence ++ rest) = some (decoded, rest) := by
  cases h with
  | @simple b c hb =>
    have hne : b ≠ 117 := by
      rintro rfl
      cases hb
    simp [readEscape, hne, hb]
  | unicode hcode hhigh hlow =>
    have hlength := length_of_codeUnit hcode
    simp [readEscape, List.take_left' hlength, List.drop_left' hlength, hcode, hhigh, hlow]
  | @pair digits digits' high low hcode hhigh hcode' hlow =>
    have hlength := length_of_codeUnit hcode
    have hlength' := length_of_codeUnit hcode'
    have hsecond : (digits' ++ rest).drop 4 = rest := List.drop_left' hlength'
    simp [readEscape, List.take_left' hlength, List.drop_left' hlength, hcode, hhigh,
      List.take_left' hlength', hcode', hlow, hsecond]

lemma readBody_append {body : Bytes} (h : Spells body text) {fuel : Nat}
    (hfuel : body.length < fuel) (rest : Bytes) :
    readBody fuel (body ++ 34 :: rest) = some (text, rest) := by
  induction h generalizing fuel with
  | nil =>
    obtain ⟨fuel, rfl⟩ : ∃ n, fuel = n + 1 := ⟨fuel - 1, by omega⟩
    rfl
  | @plain b body text hb _ ih =>
    obtain ⟨fuel, rfl⟩ : ∃ n, fuel = n + 1 := ⟨fuel - 1, by omega⟩
    rw [List.length_cons] at hfuel
    rw [List.cons_append, readBody, if_neg hb.2.1, if_neg hb.2.2, if_neg (UInt8.not_lt.mpr hb.1),
      ih (by omega)]
    rfl
  | @escape sequence decoded body text hsequence _ ih =>
    obtain ⟨fuel, rfl⟩ : ∃ n, fuel = n + 1 := ⟨fuel - 1, by omega⟩
    rw [List.length_cons, List.length_append] at hfuel
    rw [List.cons_append, readBody, if_neg (by decide), if_pos rfl, List.append_assoc,
      readEscape_append hsequence, Option.bind_some]
    dsimp only
    rw [ih (by omega)]
    rfl

lemma readString_append {literal : Bytes} (h : IsLiteral literal text) (rest : Bytes) :
    readString (literal ++ rest) = some (text, rest) := by
  obtain ⟨body, rfl, hbody⟩ := h
  have hread : readBody (34 :: (body ++ [34]) ++ rest).length (body ++ 34 :: rest) = _ :=
    readBody_append hbody (by rw [List.length_append, List.length_cons, List.length_append]; omega)
      rest
  simpa [readString] using hread

section decimal

variable {c : Char}

lemma toNat_ofNat_digit (h : c.isDigit = true) : (UInt8.ofNat c.toNat).toNat = c.toNat := by
  have hc : 48 ≤ c.toNat ∧ c.toNat ≤ 57 := Char.isDigit_iff_toNat.mp h
  apply UInt8.toNat_ofNat_of_lt'
  simp only [UInt8.size]
  omega

lemma isDigit_ofNat (h : c.isDigit = true) : isDigit (UInt8.ofNat c.toNat) = true := by
  simp only [isDigit, Bool.and_eq_true, decide_eq_true_eq, UInt8.le_iff_toNat_le,
    toNat_ofNat_digit h]
  exact Char.isDigit_iff_toNat.mp h

lemma ofNat_toNat_ofNat (h : c.isDigit = true) :
    Char.ofNat (UInt8.ofNat c.toNat).toNat = c := by
  rw [toNat_ofNat_digit h, Char.ofNat_toNat]

lemma head?_toDigits {n : Nat} (hn : 0 < n) : (Nat.toDigits 10 n).head? ≠ some '0' := by
  induction n using Nat.strongRecOn with
  | ind n ih =>
    rw [Nat.toDigits_eq_if (by decide)]
    by_cases hlt : n < 10
    · have hdigit : ∀ m < 10, 0 < m → Nat.digitChar m ≠ '0' := by decide
      rw [if_pos hlt, List.head?_cons]
      exact fun h => hdigit n hlt hn (Option.some.inj h)
    · have hquotient := ih (n / 10) (by omega) (by omega)
      obtain ⟨d, ds, hds⟩ := List.exists_cons_of_ne_nil (@Nat.toDigits_ne_nil (n / 10) 10)
      rw [if_neg hlt, hds, List.cons_append, List.head?_cons]
      rwa [hds, List.head?_cons] at hquotient

lemma readDigits_append (n : Nat) (hsep : isDigit sep = false) (rest : Bytes) :
    readDigits (ascii (Nat.toDigits 10 n) ++ sep :: rest) = some (n, sep :: rest) := by
  have hchars : ∀ c ∈ Nat.toDigits 10 n, c.isDigit = true := fun c =>
    Nat.isDigit_of_mem_toDigits (by decide) (by decide)
  have hdigits : ∀ b ∈ ascii (Nat.toDigits 10 n), isDigit b = true := by
    intro b hb
    obtain ⟨c, hc, rfl⟩ := List.mem_map.mp hb
    exact isDigit_ofNat (hchars c hc)
  have hback : (ascii (Nat.toDigits 10 n)).map (fun b => Char.ofNat b.toNat) =
      Nat.toDigits 10 n := by
    rw [ascii, List.map_map]
    exact (List.map_congr_left fun c hc => ofNat_toNat_ofNat (hchars c hc)).trans (List.map_id _)
  have hzero : ¬ (ascii (Nat.toDigits 10 n) = [] ∨
      ((ascii (Nat.toDigits 10 n)).head? = some 48 ∧ (ascii (Nat.toDigits 10 n)).length ≠ 1)) := by
    rintro (hnil | ⟨hhead, hlength⟩)
    · exact Nat.toDigits_ne_nil (List.map_eq_nil_iff.mp hnil)
    · rcases Nat.eq_zero_or_pos n with rfl | hpos
      · exact hlength rfl
      · obtain ⟨c, cs, hcs⟩ := List.exists_cons_of_ne_nil (@Nat.toDigits_ne_nil n 10)
        have hc := hchars c (by simp [hcs])
        have hbyte : UInt8.ofNat c.toNat = 48 := by simpa [ascii, hcs] using hhead
        have hchar : c = '0' := by
          rw [← ofNat_toNat_ofNat hc, hbyte]
          rfl
        exact head?_toDigits hpos (by simp [hcs, hchar])
  unfold readDigits
  simp only [List.takeWhile_append_of_pos hdigits, List.dropWhile_append_of_pos hdigits,
    List.takeWhile_cons, List.dropWhile_cons, hsep, Bool.false_eq_true, if_false,
    List.append_nil, if_neg hzero, hback, Nat.ofDigitChars_ten_toDigits]

lemma readNumber_append (n : Int) (hsep : isDigit sep = false) (rest : Bytes) :
    readNumber (decimal n ++ sep :: rest) = some (n, sep :: rest) := by
  cases n with
  | ofNat n =>
    have hread := readDigits_append n hsep rest
    obtain ⟨c, cs, hcs⟩ := List.exists_cons_of_ne_nil (@Nat.toDigits_ne_nil n 10)
    have hmem : c ∈ Nat.toDigits 10 n := by simp [hcs]
    have hc : c.isDigit = true := Nat.isDigit_of_mem_toDigits (by decide) (by decide) hmem
    have hhead : (decimal (.ofNat n) ++ sep :: rest).head? ≠ some 45 := by
      intro h
      have hbyte : UInt8.ofNat c.toNat = 45 := by simpa [decimal, ascii, hcs] using h
      have hdigit := isDigit_ofNat hc
      rw [hbyte] at hdigit
      cases hdigit
    rw [readNumber, if_neg hhead]
    simp [decimal, hread]
  | negSucc n =>
    have hread := readDigits_append (n + 1) hsep rest
    simp [readNumber, decimal, hread, Int.negSucc_eq]

lemma head?_decimal (n : Int) (rest : Bytes) :
    ∃ b, (decimal n ++ rest).head? = some b ∧ (b = 45 ∨ isDigit b = true) := by
  cases n with
  | ofNat n =>
    obtain ⟨c, cs, hcs⟩ := List.exists_cons_of_ne_nil (@Nat.toDigits_ne_nil n 10)
    have hmem : c ∈ Nat.toDigits 10 n := by simp [hcs]
    refine ⟨UInt8.ofNat c.toNat, by simp [decimal, ascii, hcs], .inr ?_⟩
    exact isDigit_ofNat (Nat.isDigit_of_mem_toDigits (by decide) (by decide) hmem)
  | negSucc n => exact ⟨45, rfl, .inl rfl⟩

end decimal

def Separator (sep : UInt8) : Prop :=
  sep = 44 ∨ sep = 125

lemma Separator.isDigit_eq_false (h : Separator sep) : isDigit sep = false := by
  rcases h with rfl | rfl
  · rfl
  · rfl

lemma readWord_append (letters : Option Bool) (value : Value) (rest : Bytes) :
    readWord letters value (ascii (word letters) ++ rest) = some (value, rest) := by
  have hlength : (word letters).length = (ascii (word letters)).length := by simp [ascii]
  rw [readWord, if_pos (List.isPrefixOf_iff_prefix.mpr (List.prefix_append _ _)), hlength,
    List.drop_left]

lemma readValue_append {value : Value} (h : ValueText value text) (hsep : Separator sep)
    (rest : Bytes) :
    readValue (text ++ sep :: rest) = some (value, sep :: rest) := by
  cases h with
  | null =>
    have hnull := readWord_append none .null (sep :: rest)
    simp only [readValue, hnull]
    rfl
  | bool b =>
    have hword := readWord_append (some b) (.bool b) (sep :: rest)
    cases b with
    | true =>
      simp only [readValue, hword]
      rfl
    | false =>
      simp only [readValue, hword]
      rfl
  | number n =>
    obtain ⟨b, hhead, hb⟩ := head?_decimal n (sep :: rest)
    have hstring : readString (decimal n ++ sep :: rest) = none := by
      rw [readString, hhead, if_neg]
      rintro h
      obtain rfl := Option.some.inj h
      rcases hb with hb | hb <;> cases hb
    simp only [readValue, hstring, readNumber_append n hsep.isDigit_eq_false rest]
    rfl
  | string hliteral =>
    simp only [readValue, readString_append hliteral]
    rfl

lemma spells_plain {key : Bytes} (h : ∀ b ∈ key, Plain b) : Spells key key := by
  induction key with
  | nil => exact .nil
  | cons b key ih =>
    exact .plain (h b List.mem_cons_self) (ih fun c hc => h c (List.mem_cons_of_mem b hc))

lemma readMember_append {member : Member} (h : MemberText member text) (hsep : Separator sep)
    (rest : Bytes) :
    readMember (text ++ sep :: rest) = some (member, sep :: rest) := by
  obtain ⟨hkey, hvalue⟩ := h
  rename_i key value valueText
  have hstring := readString_append ⟨key, rfl, spells_plain hkey⟩
    (58 :: (valueText ++ sep :: rest))
  have hshape : 34 :: (key ++ 34 :: 58 :: valueText) ++ sep :: rest =
      34 :: (key ++ [34]) ++ 58 :: (valueText ++ sep :: rest) := by simp
  rw [hshape, readMember, hstring, Option.bind_some]
  simp [readValue_append hvalue hsep rest]

lemma length_le_length_flatMap {texts : List Bytes} :
    texts.length ≤ (texts.flatMap (· ++ [44])).length := by
  induction texts with
  | nil => exact le_rfl
  | cons text texts ih =>
    rw [List.flatMap_cons, List.length_cons, List.length_append, List.length_append,
      List.length_singleton]
    omega

lemma readMembers_append {front : List Member} {texts : List Bytes}
    (h : List.Forall₂ MemberText front texts) {last : Member} {lastText : Bytes}
    (hlast : MemberText last lastText) {fuel : Nat} (hfuel : texts.length < fuel) :
    readMembers fuel (texts.flatMap (· ++ [44]) ++ (lastText ++ [125])) =
      some (front ++ [last]) := by
  induction h generalizing fuel with
  | nil =>
    obtain ⟨fuel, rfl⟩ : ∃ n, fuel = n + 1 := ⟨fuel - 1, by omega⟩
    have hread := readMember_append hlast (.inr rfl) []
    rw [readMembers, List.flatMap_nil, List.nil_append, hread]
    rfl
  | @cons member memberText front texts hmember _ ih =>
    obtain ⟨fuel, rfl⟩ : ∃ n, fuel = n + 1 := ⟨fuel - 1, by omega⟩
    rw [List.length_cons] at hfuel
    have hread := readMember_append hmember (.inl rfl)
      (texts.flatMap (· ++ [44]) ++ (lastText ++ [125]))
    have hshape : (memberText :: texts).flatMap (· ++ [44]) ++ (lastText ++ [125]) =
        memberText ++ 44 :: (texts.flatMap (· ++ [44]) ++ (lastText ++ [125])) := by simp
    have hrest := @ih fuel (by omega)
    rw [hshape, readMembers, hread, Option.bind_some]
    simp [hrest]

/-- The members of an object are read from each of its texts. -/
theorem readObject_eq {members : List Member} (h : ObjectText members text) :
    readObject text = some members := by
  cases h with
  | @intro front last texts lastText htexts hlast =>
    have hfuel : texts.length < (joinMembers texts lastText).length := by
      have hlength := @length_le_length_flatMap texts
      simp only [joinMembers, List.length_cons, List.length_append] at hlength ⊢
      omega
    have hread := readMembers_append htexts hlast hfuel
    have hne : joinMembers texts lastText ≠ [123, 125] := by
      intro h
      have hlength := congrArg List.length h
      obtain ⟨hkey, hvalue⟩ := hlast
      simp [joinMembers] at hlength
      omega
    rw [readObject, if_neg hne]
    simpa [joinMembers] using hread

end QhapaqXian.Library.Json
