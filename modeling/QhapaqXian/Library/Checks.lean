import Mathlib.Tactic.Lemma

/-!
# Programs that check and raise

When a sequence of checks in `Except` succeeds, every check of it has succeeded. The lemmas take
such a program apart in the order its checks are written.
-/

namespace QhapaqXian.Library

variable {ε α β : Type} {b : β}
variable {y : Except ε β} {c : Prop}

lemma bind_eq_ok_iff {x : Except ε α} {f : α → Except ε β} :
    (x >>= f) = .ok b ↔ ∃ a, x = .ok a ∧ f a = .ok b := by
  cases x with
  | error e => simp [bind, Except.bind]
  | ok a => simp [bind, Except.bind]

lemma exists_unit_iff {p : Unit → Prop} : (∃ a, p a) ↔ p () :=
  ⟨fun ⟨_, h⟩ => h, fun h => ⟨(), h⟩⟩

lemma exists_of_isOk {x : Except ε β} (h : x.isOk = true) : ∃ b, x = .ok b := by
  cases x with
  | error e => cases h
  | ok b => exact ⟨b, rfl⟩

lemma pure_eq_ok_iff {a : β} : (pure a : Except ε β) = .ok b ↔ a = b :=
  Except.ok.injEq a b ▸ Iff.rfl

lemma when_eq_ok_iff [Decidable c] {x : Except ε Unit} :
    (if c then x >>= fun _ => y else y) = .ok b ↔ (c → x = .ok ()) ∧ y = .ok b := by
  by_cases hc : c
  · simp only [hc, if_true, bind_eq_ok_iff, exists_unit_iff, forall_const]
  · simp only [hc, if_false, false_imp_iff, true_and]

lemma raise_eq_ok_iff [Decidable c] {e : ε} {f : α → Except ε β} :
    (if c then Except.error e >>= f else y) = .ok b ↔ ¬ c ∧ y = .ok b := by
  by_cases hc : c
  · simp [hc, bind, Except.bind]
  · simp [hc]

lemma raise_last_eq_ok_iff [Decidable c] {e : ε} :
    (if c then Except.error e else y) = .ok b ↔ ¬ c ∧ y = .ok b := by
  by_cases hc : c <;> simp [hc]

lemma require_eq_ok_iff [Decidable c] {e : ε} :
    (if c then y else Except.error e) = .ok b ↔ c ∧ y = .ok b := by
  by_cases hc : c <;> simp [hc]

end QhapaqXian.Library
