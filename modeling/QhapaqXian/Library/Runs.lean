import Mathlib.Logic.Relation
import Mathlib.Tactic.Lemma

/-!
# Runs of a transition system

A system takes events one at a time. A run is a sequence of events, each of which a condition allows
in the state that it meets.
-/

namespace QhapaqXian.Library

variable {σ ε : Type} {next : σ → ε → σ} {allowed : σ → ε → Prop} {s s' : σ}

def StepsTo (next : σ → ε → σ) (allowed : σ → ε → Prop) (s s' : σ) : Prop :=
  ∃ event, allowed s event ∧ s' = next s event

/-- A state that a run of allowed events leads to. -/
def RunsTo (next : σ → ε → σ) (allowed : σ → ε → Prop) : σ → σ → Prop :=
  Relation.ReflTransGen (StepsTo next allowed)

def anyStep (_ : σ) (_ : ε) : Prop :=
  True

/-- What holds at the start and is kept by every allowed step holds in every state of a run. -/
theorem RunsTo.invariant {P : σ → Prop} (h : RunsTo next allowed s s') (hstart : P s)
    (hstep : ∀ s event, P s → allowed s event → P (next s event)) : P s' := by
  induction h with
  | refl => exact hstart
  | tail _ hlast ih =>
    obtain ⟨event, hallowed, rfl⟩ := hlast
    exact hstep _ event ih hallowed

/-- Each event of the list is allowed in the state that the events before it lead to. -/
def AllowedAlong (next : σ → ε → σ) (allowed : σ → ε → Prop) : σ → List ε → Prop
  | _, [] => True
  | s, event :: events => allowed s event ∧ AllowedAlong next allowed (next s event) events

instance decidableAllowedAlong [∀ s event, Decidable (allowed s event)] :
    ∀ (s : σ) (events : List ε), Decidable (AllowedAlong next allowed s events)
  | _, [] => .isTrue trivial
  | s, event :: events =>
    @instDecidableAnd _ _ inferInstance (decidableAllowedAlong (next s event) events)

lemma allowedAlong_append {events later : List ε} :
    AllowedAlong next allowed s (events ++ later) ↔ AllowedAlong next allowed s events ∧
      AllowedAlong next allowed (events.foldl next s) later := by
  induction events generalizing s with
  | nil => simp [AllowedAlong]
  | cons event events ih =>
    simp only [List.cons_append, AllowedAlong, ih, List.foldl_cons, and_assoc]

lemma AllowedAlong.runsTo {events : List ε} (h : AllowedAlong next allowed s events) :
    RunsTo next allowed s (events.foldl next s) := by
  induction events generalizing s with
  | nil => exact .refl
  | cons event events ih => exact .head ⟨event, h.1, rfl⟩ (ih h.2)

lemma RunsTo.foldl (s : σ) (events : List ε) : RunsTo next anyStep s (events.foldl next s) := by
  induction events generalizing s with
  | nil => exact .refl
  | cons event events ih => exact .head ⟨event, trivial, rfl⟩ (ih (next s event))

end QhapaqXian.Library
