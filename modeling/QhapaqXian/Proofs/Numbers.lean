import QhapaqXian.Receipt

/-!
# Numbers in texts

The decimal texts that the engine and the runner write, and that the two functions which read them
give back the number that was written.
-/

namespace QhapaqXian

open Library

section Written

variable {c : Char}

lemma isDigit_of_mem_formatUnsigned {n : Nat} (h : c ∈ formatUnsigned n) : c.isDigit = true :=
  Nat.isDigit_of_mem_toDigits (by decide) (by decide) h

lemma notMem_formatUnsigned {n : Nat} (hc : c.isDigit = false) : c ∉ formatUnsigned n := by
  intro h
  rw [isDigit_of_mem_formatUnsigned h] at hc
  cases hc

lemma notMem_formatSigned {n : Int} (hc : c.isDigit = false) (hsign : c ≠ '-') :
    c ∉ formatSigned n := by
  cases n with
  | ofNat n => exact notMem_formatUnsigned hc
  | negSucc n => exact List.not_mem_cons_of_ne_of_not_mem hsign (notMem_formatUnsigned hc)

lemma formatUnsigned_injective : Function.Injective formatUnsigned := by
  intro m n h
  have hdigits := congrArg (Nat.ofDigitChars 10 · 0) h
  simpa only [formatUnsigned, Nat.ofDigitChars_ten_toDigits] using hdigits

lemma formatSigned_injective : Function.Injective formatSigned := by
  have hsign (m n : Nat) : formatUnsigned m ≠ '-' :: formatUnsigned n := by
    intro h
    have hmem : '-' ∈ formatUnsigned m := by
      rw [h]
      exact List.mem_cons_self
    exact notMem_formatUnsigned (by decide) hmem
  intro m n h
  cases m with
  | ofNat m =>
    cases n with
    | ofNat n => rw [formatUnsigned_injective h]
    | negSucc n => exact absurd h (hsign m (n + 1))
  | negSucc m =>
    cases n with
    | ofNat n => exact absurd h.symm (hsign n (m + 1))
    | negSucc n =>
      have htext : formatUnsigned (m + 1) = formatUnsigned (n + 1) := List.tail_eq_of_cons_eq h
      rw [Nat.succ.inj (formatUnsigned_injective htext)]

lemma length_formatUnsigned_le {n k : Nat} (hk : 0 < k) (h : n < 10 ^ k) :
    (formatUnsigned n).length ≤ k :=
  (Nat.length_toDigits_le_iff (by decide) hk).mpr h

end Written

/-! ## Reading them -/

section Read

variable {digits : CString} (hdigits : ∀ c ∈ digits, c.isDigit = true)
include hdigits

lemma dropWhile_isSpace_of_digits : digits.dropWhile isSpace = digits := by
  cases digits with
  | nil => rfl
  | cons c digits =>
    refine List.dropWhile_cons_of_neg ?_
    have hc : 48 ≤ c.toNat ∧ c.toNat ≤ 57 :=
      Char.isDigit_iff_toNat.mp (hdigits c List.mem_cons_self)
    simp only [isSpace, Bool.or_eq_true, beq_iff_eq]
    rintro (((((rfl | rfl) | rfl) | rfl) | h) | h)
    · exact absurd hc (by decide)
    · exact absurd hc (by decide)
    · exact absurd hc (by decide)
    · exact absurd hc (by decide)
    · omega
    · omega

lemma takeWhile_isDigit_of_digits : digits.takeWhile Char.isDigit = digits :=
  List.takeWhile_eq_self_iff.mpr hdigits

lemma scanDigits_of_digits (input : CString) {n : Nat}
    (hfits : Nat.ofDigitChars 10 digits n ≤ 2 ^ 31) :
    scanDigits input 10 digitValue n digits = .ok (Nat.ofDigitChars 10 digits n, []) := by
  induction digits generalizing n with
  | nil => rfl
  | cons c digits ih =>
    have hc := hdigits c List.mem_cons_self
    have hle (m : Nat) : m ≤ Nat.ofDigitChars 10 digits m := by
      rw [Nat.ofDigitChars_eq_ofDigitChars_zero]
      exact (Nat.le_mul_of_pos_left m (Nat.pow_pos (by decide))).trans (Nat.le_add_right _ _)
    rw [Nat.ofDigitChars_cons] at hfits ⊢
    have hstep := (hle _).trans hfits
    have hsmall : ¬ n > 2 ^ 31 / 10 := by omega
    rw [scanDigits, digitValue, if_pos hc]
    dsimp only
    rw [if_neg hsmall, Nat.mul_comm n 10]
    exact ih (fun d hd => hdigits d (List.mem_cons_of_mem c hd)) hfits

lemma numberBase_of_digits : numberBase digits = (10, digitValue, digits) := by
  unfold numberBase
  split
  all_goals first
    | rfl
    | exact absurd (hdigits _ (List.mem_cons_of_mem _ List.mem_cons_self)) (by decide)

end Read

lemma foldl_digits (digits : CString) (n : Nat) :
    digits.foldl (fun n c => n * 10 + ((c.toNat - '0'.toNat : Nat) : Int)) (n : Int) =
      Nat.ofDigitChars 10 digits n := by
  induction digits generalizing n with
  | nil => rfl
  | cons c digits ih =>
    rw [List.foldl_cons, Nat.ofDigitChars_cons, ← ih, Nat.mul_comm 10 n]
    push_cast
    rfl

lemma strtol_formatUnsigned {n : Nat} (h : n < 2 ^ 63) : strtol (formatUnsigned n) = n := by
  have hdigits : ∀ c ∈ formatUnsigned n, c.isDigit = true := fun c =>
    isDigit_of_mem_formatUnsigned
  have hvalue := foldl_digits (formatUnsigned n) 0
  rw [formatUnsigned, Nat.ofDigitChars_ten_toDigits, ← formatUnsigned] at hvalue
  unfold strtol
  rw [dropWhile_isSpace_of_digits hdigits]
  split
  · exact absurd (hdigits '-' (by simp_all)) (by decide)
  · exact absurd (hdigits '+' (by simp_all)) (by decide)
  · dsimp only
    rw [takeWhile_isDigit_of_digits hdigits, show (0 : Int) = (0 : Nat) from rfl, hvalue]
    omega

lemma pgStrtoint32_of_digits (negative : Bool) {input digits : CString} {m : Nat}
    (hspaces : input.dropWhile isSpace = if negative then '-' :: digits else digits)
    (hdigits : digits = formatUnsigned m) (hfits : m ≤ if negative then 2 ^ 31 else 2 ^ 31 - 1) :
    pgStrtoint32 input = .ok (if negative then -(m : Int) else m) := by
  have hdigit : ∀ c ∈ digits, c.isDigit = true := by
    rw [hdigits]
    exact fun c => isDigit_of_mem_formatUnsigned
  have hhead (c : Char) (hc : c.isDigit = false) : digits.head? ≠ some c := fun h => by
    rw [hdigit c (List.mem_of_mem_head? h)] at hc
    cases hc
  have hscan : scanDigits input 10 digitValue 0 digits = .ok (m, []) := by
    have hvalue : Nat.ofDigitChars 10 digits 0 = m := by
      rw [hdigits]
      exact Nat.ofDigitChars_ten_toDigits
    rw [scanDigits_of_digits hdigit input, hvalue]
    rw [hvalue]
    split_ifs at hfits <;> omega
  have hsome : ¬ 0 = digits.length := by
    rw [hdigits]
    exact Nat.length_toDigits_pos.ne
  unfold pgStrtoint32
  rw [hspaces]
  cases negative with
  | false =>
    simp only [Bool.false_eq_true, if_false] at hfits ⊢
    rw [beq_eq_false_iff_ne.mpr (hhead '-' (by decide)),
      beq_eq_false_iff_ne.mpr (hhead '+' (by decide))]
    simp [numberBase_of_digits hdigit, hhead '_' (by decide), hscan, hsome, bind, Except.bind, pure,
      Except.pure]
    omega
  | true =>
    simp only [if_true] at hfits ⊢
    simp [numberBase_of_digits hdigit, hhead '_' (by decide), hscan, hsome, bind, Except.bind, pure,
      Except.pure]
    omega

lemma pgStrtoint32_formatSigned {n : Int} (h : InInt32 n) :
    pgStrtoint32 (formatSigned n) = .ok n := by
  unfold InInt32 at h
  cases n with
  | ofNat m =>
    have hspaces : (formatSigned (.ofNat m)).dropWhile isSpace = formatUnsigned m :=
      dropWhile_isSpace_of_digits fun c => isDigit_of_mem_formatUnsigned
    have hfits : m ≤ 2 ^ 31 - 1 := by
      simp only [Int.ofNat_eq_natCast] at h
      omega
    exact pgStrtoint32_of_digits false hspaces rfl hfits
  | negSucc m =>
    have hfits : m + 1 ≤ 2 ^ 31 := by omega
    rw [Int.negSucc_eq]
    exact pgStrtoint32_of_digits true rfl rfl hfits

end QhapaqXian
