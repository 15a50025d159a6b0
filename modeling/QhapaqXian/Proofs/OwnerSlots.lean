import QhapaqXian.Envelope
import QhapaqXian.Library.Mixing

/-!
# The slot that owns a task

The workers of a database share its tasks by a hash of the task. The steps of the hash permute the
32-bit words, so the tasks are spread over the slots as evenly as their number allows.
-/

namespace QhapaqXian

open Library

def ownerMix (taskoid : Oid) : Nat :=
  let mix₁ : Nat := taskoid % 2 ^ 32 ^^^ taskoid % 2 ^ 32 / 2 ^ 16
  let mix₂ := mix₁ * 0x7feb352d % 2 ^ 32
  let mix₃ := mix₂ ^^^ mix₂ / 2 ^ 15
  let mix₄ := mix₃ * 0x846ca68b % 2 ^ 32
  mix₄ ^^^ mix₄ / 2 ^ 16

def ownedTasks (slotIndex slotCount : Int) : Finset Oid :=
  (Finset.range (2 ^ 32)).filter fun taskoid =>
    qxRuntimeSchedulerWorkerOwnsTask taskoid slotIndex slotCount

lemma ownerMix_lt (taskoid : Oid) : ownerMix taskoid < 2 ^ 32 :=
  xor_div_two_pow_lt (Nat.mod_lt _ (by decide))

lemma ownerMix_inj {x y : Oid} (hx : x < 2 ^ 32) (hy : y < 2 ^ 32)
    (h : ownerMix x = ownerMix y) : x = y := by
  simp only [ownerMix, Nat.mod_eq_of_lt hx, Nat.mod_eq_of_lt hy] at h
  have h₄ := xor_div_two_pow_injective (by decide) h
  have h₃ := mul_mod_two_pow_inj (by decide) (xor_div_two_pow_lt (Nat.mod_lt _ (by decide)))
    (xor_div_two_pow_lt (Nat.mod_lt _ (by decide))) h₄
  have h₂ := xor_div_two_pow_injective (by decide) h₃
  have h₁ := mul_mod_two_pow_inj (by decide) (xor_div_two_pow_lt hx) (xor_div_two_pow_lt hy) h₂
  exact xor_div_two_pow_injective (by decide) h₁

lemma ownerSlot_eq {slotCount : Int} (h : 0 < slotCount) (taskoid : Oid) :
    qxRuntimeSchedulerOwnerSlot taskoid slotCount = (ownerMix taskoid : Int) % slotCount := by
  unfold qxRuntimeSchedulerOwnerSlot
  by_cases hone : slotCount ≤ 1
  · have : slotCount = 1 := by omega
    subst this
    simp
  · rw [if_neg hone]
    rfl

lemma ownsTask_iff {slotCount slotIndex : Int} (hindex : 0 ≤ slotIndex)
    (hlt : slotIndex < slotCount) (taskoid : Oid) :
    qxRuntimeSchedulerWorkerOwnsTask taskoid slotIndex slotCount = true ↔
      (ownerMix taskoid : Int) % slotCount = slotIndex := by
  rw [qxRuntimeSchedulerWorkerOwnsTask, ownerSlot_eq (by omega)]
  by_cases hone : slotCount ≤ 1
  · have hcount : slotCount = 1 := by omega
    have hzero : slotIndex = 0 := by omega
    simp [hcount, hzero, Int.emod_one]
  · simp [hone]

lemma card_ownedTasks {slotCount slotIndex : Int} (hindex : 0 ≤ slotIndex)
    (hlt : slotIndex < slotCount) :
    (ownedTasks slotIndex slotCount).card = 2 ^ 32 / slotCount.toNat +
      if slotIndex.toNat < 2 ^ 32 % slotCount.toNat then 1 else 0 := by
  obtain ⟨count, rfl⟩ := Int.eq_ofNat_of_zero_le (hindex.trans hlt.le)
  obtain ⟨index, rfl⟩ := Int.eq_ofNat_of_zero_le hindex
  have hfilter : ownedTasks index count =
      (Finset.range (2 ^ 32)).filter fun taskoid => ownerMix taskoid % count = index := by
    apply Finset.filter_congr
    intro taskoid _
    rw [ownsTask_iff hindex hlt]
    omega
  rw [hfilter, card_filter_comp_of_injOn (fun x _ => ownerMix_lt x)
    (fun x hx y hy => ownerMix_inj hx hy) (fun word => word % count = index),
    card_filter_mod_eq (by omega)]
  rfl

/-- The steps permute the words, the slots share the tasks evenly, and a task has one owner. -/
theorem ownedTasks_balanced (slotCount : Int) (hpos : 0 < slotCount) :
    Set.BijOn ownerMix (Set.Iio (2 ^ 32)) (Set.Iio (2 ^ 32)) ∧
      (∀ taskoid, qxRuntimeSchedulerOwnerSlot taskoid slotCount =
        (ownerMix taskoid : Int) % slotCount) ∧
      (∀ i j, 0 ≤ i → i < slotCount → 0 ≤ j → j < slotCount →
        (ownedTasks i slotCount).card ≤ (ownedTasks j slotCount).card + 1) ∧
      ∀ taskoid < 2 ^ 32, ∃! i, (0 ≤ i ∧ i < slotCount) ∧
        qxRuntimeSchedulerWorkerOwnsTask taskoid i slotCount = true := by
  refine ⟨?_, fun taskoid => ownerSlot_eq hpos taskoid, ?_, ?_⟩
  · exact bijOn_Iio_of_injOn (fun x _ => ownerMix_lt x) fun x hx y hy => ownerMix_inj hx hy
  · intro i j hi hilt hj hjlt
    rw [card_ownedTasks hi hilt, card_ownedTasks hj hjlt]
    split_ifs <;> omega
  · intro taskoid _
    refine ⟨(ownerMix taskoid : Int) % slotCount, ⟨?_, ?_⟩, ?_⟩
    · exact ⟨Int.emod_nonneg _ hpos.ne', Int.emod_lt_of_pos _ hpos⟩
    · exact (ownsTask_iff (Int.emod_nonneg _ hpos.ne') (Int.emod_lt_of_pos _ hpos) taskoid).mpr rfl
    · rintro i ⟨⟨hi, hilt⟩, howns⟩
      exact ((ownsTask_iff hi hilt taskoid).mp howns).symm

/-- Two slots, the default of a database. -/
theorem ownedTasks_two_balanced :
    (ownedTasks 0 2).card ≤ (ownedTasks 1 2).card + 1 ∧
      (ownedTasks 1 2).card ≤ (ownedTasks 0 2).card + 1 := by
  obtain ⟨-, -, hbalanced, -⟩ := ownedTasks_balanced 2 (by decide)
  exact ⟨hbalanced 0 1 (by decide) (by decide) (by decide) (by decide),
    hbalanced 1 0 (by decide) (by decide) (by decide) (by decide)⟩

end QhapaqXian
