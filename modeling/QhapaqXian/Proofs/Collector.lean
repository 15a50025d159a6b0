import QhapaqXian.Stat

/-!
# Reports to the collector

A report changes the counters of its key and of no other one. It is lost when the key has no slot
and none is free.
-/

namespace QhapaqXian

open Library

section Entry

variable {key other : StatKey}

lemma qxStatLookupEntry_withEntry (hkey : key.stored = key) (slots : Slots StatSlot)
    (mutate : StatCounters → StatCounters) :
    qxStatLookupEntry (qxStatWithEntry slots key mutate) key =
      if (qxStatLookupEntry slots key).isSome || slots.hasRoom then
        some (mutate ((qxStatLookupEntry slots key).getD .zero))
      else none := by
  unfold qxStatLookupEntry qxStatWithEntry
  rw [Slots.find?_upsert]
  · cases hfind : slots.find? (qxStatSlotMatches key) with
    | some slot => simp
    | none =>
      cases hroom : slots.hasRoom with
      | false => simp
      | true => simp
  · intro slot hslot
    exact hslot
  · rw [hkey]
    exact beq_self_eq_true key

lemma qxStatLookupEntry_withEntry_of_ne (hother : other ≠ key) (hstored : other ≠ key.stored)
    (slots : Slots StatSlot) (mutate : StatCounters → StatCounters) :
    qxStatLookupEntry (qxStatWithEntry slots key mutate) other = qxStatLookupEntry slots other := by
  unfold qxStatLookupEntry qxStatWithEntry
  rw [Slots.find?_upsert_of_not]
  · intro slot hslot
    have hslot : slot.key = key := by simpa [qxStatSlotMatches] using hslot
    have hnot : (slot.key == other) = false := by
      rw [hslot]
      exact beq_false_of_ne hother.symm
    exact ⟨hnot, hnot⟩
  · exact beq_false_of_ne hstored.symm

end Entry

/-- The key has a slot or can get one. -/
def Accepts (slots : Slots StatSlot) (key : StatKey) : Prop :=
  (qxStatLookupEntry slots key).isSome = true ∨ slots.hasRoom = true

def RoomFor (slots : Slots StatSlot) (keys : List StatKey) : Prop :=
  keys.countP (fun key => (qxStatLookupEntry slots key).isNone) ≤ slots.free

instance (slots : Slots StatSlot) (keys : List StatKey) : Decidable (RoomFor slots keys) :=
  inferInstanceAs (Decidable (_ ≤ _))

section Changes

variable {key other : StatKey} {mutate : StatCounters → StatCounters}

lemma accepts_iff_roomFor (slots : Slots StatSlot) (key : StatKey) :
    Accepts slots key ↔ RoomFor slots [key] := by
  unfold Accepts RoomFor
  rw [Slots.hasRoom_iff_free]
  rw [List.countP_singleton]
  cases qxStatLookupEntry slots key with
  | none => simp [Nat.succ_le_iff]
  | some counters => simp

lemma free_withEntry (slots : Slots StatSlot) (key : StatKey)
    (mutate : StatCounters → StatCounters) :
    (qxStatWithEntry slots key mutate).free =
      if (qxStatLookupEntry slots key).isSome then slots.free else slots.free - 1 := by
  rw [qxStatWithEntry, Slots.free_upsert, qxStatLookupEntry, Option.isSome_map]

lemma accepts_both_iff (hkey : key.stored = key) (hne : other ≠ key) (slots : Slots StatSlot) :
    Accepts slots key ∧ Accepts (qxStatWithEntry slots key mutate) other ↔
      RoomFor slots [key, other] := by
  have hother : other ≠ key.stored := by rwa [hkey]
  rw [accepts_iff_roomFor, accepts_iff_roomFor]
  unfold RoomFor
  rw [free_withEntry]
  simp only [List.countP_cons, List.countP_nil, qxStatLookupEntry_withEntry_of_ne hne hother]
  cases qxStatLookupEntry slots key with
  | none =>
    simp only [Option.isNone_none, Option.isSome_none, if_true, Bool.false_eq_true, if_false]
    omega
  | some counters =>
    simp only [Option.isNone_some, Option.isSome_some, if_true, Bool.false_eq_true, if_false]
    omega

lemma heldCounters_withEntry_ne_iff (hkey : key.stored = key)
    (hmutate : ∀ counters, mutate counters ≠ counters) (slots : Slots StatSlot)
    (other : StatKey) :
    heldCounters (qxStatWithEntry slots key mutate) other ≠ heldCounters slots other ↔
      other = key ∧ Accepts slots key := by
  unfold heldCounters
  by_cases hother : other = key
  · subst hother
    rw [qxStatLookupEntry_withEntry hkey]
    unfold Accepts
    by_cases haccepts : ((qxStatLookupEntry slots other).isSome || slots.hasRoom) = true
    · rw [if_pos haccepts]
      simp only [Option.getD_some, ne_eq, hmutate, not_false_eq_true, true_and, true_iff]
      simpa using haccepts
    · rw [if_neg haccepts]
      cases hlookup : qxStatLookupEntry slots other with
      | none => simpa [hlookup] using haccepts
      | some counters => simp [hlookup] at haccepts
  · rw [qxStatLookupEntry_withEntry_of_ne hother (by rwa [hkey])]
    simp [hother]

lemma Collector.heldCounters_report_ne_iff (hkey : key.stored = key)
    (hmutate : ∀ counters, mutate counters ≠ counters) (collector : Collector)
    (other : StatKey) :
    heldCounters (collector.report key mutate).slots other ≠ heldCounters collector.slots other ↔
      collector.trackStats = true ∧ other = key ∧ Accepts collector.slots key := by
  unfold Collector.report
  cases htrack : collector.trackStats with
  | false => simp
  | true =>
    rw [if_pos rfl, heldCounters_withEntry_ne_iff hkey hmutate]
    simp

lemma Collector.heldCounters_report_of_kind (hkind : other.kind ≠ key.kind)
    (collector : Collector) (mutate : StatCounters → StatCounters) :
    heldCounters (collector.report key mutate).slots other = heldCounters collector.slots other := by
  unfold Collector.report heldCounters
  split
  · rw [qxStatLookupEntry_withEntry_of_ne]
    · rintro rfl
      exact hkind rfl
    · rintro rfl
      exact hkind rfl
  · rfl

end Changes

end QhapaqXian
