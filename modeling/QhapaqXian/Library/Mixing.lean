import Mathlib.Data.Finset.Card
import Mathlib.Data.Int.CardIntervalMod
import Mathlib.Data.Nat.Bitwise
import Mathlib.Data.Nat.ModEq
import Mathlib.Data.Nat.Prime.Basic
import Mathlib.Data.Set.Function
import Mathlib.Tactic.Lemma

/-!
# Mixing words

Steps that permute the words below a power of two, and how evenly the residues of a permuted word
are spread.
-/

namespace QhapaqXian.Library

section Steps

variable {width shift factor x y : Nat}

/-- A word determines, and is determined by, its sum with its own higher digits. -/
lemma xor_div_two_pow_injective (h : 0 < shift) :
    Function.Injective fun x : Nat => x ^^^ x / 2 ^ shift := by
  intro x y hxy
  have hsum : (x ^^^ y) ^^^ (x ^^^ y) / 2 ^ shift = 0 := by
    rw [← Nat.shiftRight_eq_div_pow, Nat.shiftRight_xor_distrib, Nat.shiftRight_eq_div_pow,
      Nat.shiftRight_eq_div_pow]
    have hxy : x ^^^ x / 2 ^ shift = y ^^^ y / 2 ^ shift := hxy
    calc (x ^^^ y) ^^^ (x / 2 ^ shift ^^^ y / 2 ^ shift)
        = (x ^^^ x / 2 ^ shift) ^^^ (y ^^^ y / 2 ^ shift) := by
          simp only [Nat.xor_assoc, Nat.xor_left_comm y]
      _ = 0 := by rw [hxy, Nat.xor_self]
  have hfixed : x ^^^ y = (x ^^^ y) / 2 ^ shift := Nat.xor_eq_zero_iff.mp hsum
  by_contra hne
  have hpos : 0 < x ^^^ y := by
    apply Nat.pos_of_ne_zero
    intro hzero
    exact hne (Nat.xor_eq_zero_iff.mp hzero)
  have hlt : (x ^^^ y) / 2 ^ shift < x ^^^ y :=
    Nat.div_lt_self hpos (Nat.one_lt_two_pow h.ne')
  omega

lemma xor_div_two_pow_lt (h : x < 2 ^ width) : x ^^^ x / 2 ^ shift < 2 ^ width :=
  Nat.xor_lt_two_pow h ((Nat.div_le_self _ _).trans_lt h)

lemma mul_mod_two_pow_inj (hodd : factor % 2 = 1) (hx : x < 2 ^ width) (hy : y < 2 ^ width)
    (h : x * factor % 2 ^ width = y * factor % 2 ^ width) : x = y := by
  have hcoprime : Nat.gcd (2 ^ width) factor = 1 :=
    Nat.Coprime.pow_left width (Nat.coprime_two_left.mpr (Nat.odd_iff.mpr hodd))
  have hmod : x ≡ y [MOD 2 ^ width] := Nat.ModEq.cancel_right_of_coprime hcoprime h
  rw [Nat.ModEq, Nat.mod_eq_of_lt hx, Nat.mod_eq_of_lt hy] at hmod
  exact hmod

end Steps

section Spread

variable {size count : Nat} {mix : Nat → Nat}

section Permutation

variable (hmaps : ∀ x < size, mix x < size) (hinj : ∀ x < size, ∀ y < size, mix x = mix y → x = y)
include hmaps hinj

lemma image_range_of_injOn : (Finset.range size).image mix = Finset.range size := by
  apply Finset.eq_of_subset_of_card_le
  · intro y hy
    obtain ⟨x, hx, rfl⟩ := Finset.mem_image.mp hy
    exact Finset.mem_range.mpr (hmaps x (Finset.mem_range.mp hx))
  · rw [Finset.card_image_of_injOn]
    intro x hx y hy hxy
    exact hinj x (by simpa using hx) y (by simpa using hy) hxy

lemma bijOn_Iio_of_injOn : Set.BijOn mix (Set.Iio size) (Set.Iio size) := by
  refine ⟨fun x hx => hmaps x hx, fun x hx y hy => hinj x hx y hy, ?_⟩
  intro y hy
  have hmem : y ∈ (Finset.range size).image mix := by
    rw [image_range_of_injOn hmaps hinj]
    exact Finset.mem_range.mpr hy
  obtain ⟨x, hx, hxy⟩ := Finset.mem_image.mp hmem
  exact ⟨x, Finset.mem_range.mp hx, hxy⟩

lemma card_filter_comp_of_injOn (p : Nat → Prop) [DecidablePred p] :
    ((Finset.range size).filter fun x => p (mix x)).card = ((Finset.range size).filter p).card := by
  conv_rhs => rw [← image_range_of_injOn hmaps hinj, Finset.filter_image]
  rw [Finset.card_image_of_injOn]
  intro x hx y hy hxy
  apply hinj x _ y _ hxy
  · simpa using (Finset.mem_filter.mp hx).1
  · simpa using (Finset.mem_filter.mp hy).1

end Permutation

lemma card_filter_mod_eq {i : Nat} (hi : i < count) :
    ((Finset.range size).filter fun x => x % count = i).card =
      size / count + if i < size % count then 1 else 0 := by
  have hcount := Nat.count_modEq_card size (Nat.zero_lt_of_lt hi) i
  rw [Nat.count_eq_card_filter_range, Nat.mod_eq_of_lt hi] at hcount
  rw [← hcount]
  congr 1
  apply Finset.filter_congr
  intro x _
  rw [Nat.ModEq, Nat.mod_eq_of_lt hi]

end Spread

end QhapaqXian.Library
