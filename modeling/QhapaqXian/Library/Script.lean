import Mathlib.Data.List.Basic
import Mathlib.Tactic.Lemma

/-!
# Journalled scripts

A script reads the state that its own journal has reached, appends actions to the journal and
returns or fails. A failing script keeps the journal it has written so far: whoever runs the script
decides what a failure undoes.
-/

namespace QhapaqXian.Library

class Replay (σ ω : Type) where
  apply : σ → ω → σ

def replay {σ ω : Type} [Replay σ ω] (s : σ) (journal : List ω) : σ :=
  journal.foldl Replay.apply s

inductive Script (σ ω ε α : Type) : Type
  | done (a : α)
  | fail (e : ε)
  | look (next : σ → Script σ ω ε α)
  | write (w : ω) (next : Script σ ω ε α)

section replay

variable {σ ω : Type} [Replay σ ω]

@[simp] lemma replay_nil (s : σ) : replay s ([] : List ω) = s := rfl

@[simp] lemma replay_cons (s : σ) (w : ω) (journal : List ω) :
    replay s (w :: journal) = replay (Replay.apply s w) journal := rfl

lemma replay_append (s : σ) (first second : List ω) :
    replay s (first ++ second) = replay (replay s first) second :=
  List.foldl_append

end replay

namespace Script

variable {σ ω ε α β : Type}

/-- Go on with another script where this one returns. -/
def andThen (f : α → Script σ ω ε β) : Script σ ω ε α → Script σ ω ε β
  | .done a => f a
  | .fail e => .fail e
  | .look next => .look fun s => (next s).andThen f
  | .write w next => .write w (next.andThen f)

instance : Monad (Script σ ω ε) where
  pure := done
  bind x f := x.andThen f

@[simp]
lemma pure_bind (a : α) (f : α → Script σ ω ε β) : pure a >>= f = f a :=
  rfl

lemma bind_assoc {γ : Type} (x : Script σ ω ε α) (f : α → Script σ ω ε β) (g : β → Script σ ω ε γ) :
    x >>= f >>= g = x >>= fun a => f a >>= g := by
  change (x.andThen f).andThen g = x.andThen fun a => (f a).andThen g
  induction x with
  | done a => rfl
  | fail e => rfl
  | look next ih =>
    simp only [andThen]
    congr
    funext s
    exact ih s
  | write w next ih =>
    simp only [andThen]
    rw [ih]

def read : Script σ ω ε σ := .look .done

def record (w : ω) : Script σ ω ε Unit := .write w (.done ())

def ofExcept : Except ε α → Script σ ω ε α
  | .ok a => .done a
  | .error e => .fail e

def require (condition : Bool) (e : ε) : Script σ ω ε Unit :=
  if condition then .done () else .fail e

def expect (value : Option α) (e : ε) : Script σ ω ε α :=
  value.elim (.fail e) .done

def run [Replay σ ω] : Script σ ω ε α → σ → List ω × Except ε α
  | .done a, _ => ([], .ok a)
  | .fail e, _ => ([], .error e)
  | .look next, s => (next s).run s
  | .write w next, s =>
    let rest := next.run (Replay.apply s w)
    (w :: rest.1, rest.2)

/-- A loop with an accumulator over the elements of a list. -/
def fold (f : β → α → Script σ ω ε β) : List α → β → Script σ ω ε β
  | [], b => pure b
  | a :: as, b => do
    let b ← f b a
    fold f as b

def forEach (f : α → Script σ ω ε Unit) (as : List α) : Script σ ω ε Unit :=
  fold (fun _ a => f a) as ()

/-- The script, run alone, returns a value after writing a journal. -/
def Returns [Replay σ ω] (x : Script σ ω ε α) (s : σ) (journal : List ω) (a : α) : Prop :=
  x.run s = (journal, .ok a)

def Succeeds [Replay σ ω] (x : Script σ ω ε α) (s : σ) : Prop :=
  ∃ journal a, x.Returns s journal a

/-- The script never fails, whatever it reads. -/
def Unfailing : Script σ ω ε α → Prop
  | .done _ => True
  | .fail _ => False
  | .look next => ∀ s, (next s).Unfailing
  | .write _ next => next.Unfailing

/-- Every value the script may return satisfies a predicate, whatever it reads. -/
def Yields (Q : α → Prop) : Script σ ω ε α → Prop
  | .done a => Q a
  | .fail _ => True
  | .look next => ∀ s, (next s).Yields Q
  | .write _ next => next.Yields Q

/-- Every action the script may write satisfies a predicate, whatever it reads. -/
def Emits (P : ω → Prop) : Script σ ω ε α → Prop
  | .done _ => True
  | .fail _ => True
  | .look next => ∀ s, (next s).Emits P
  | .write w next => P w ∧ next.Emits P

/-- The elements that the body of a loop skips may be left out. -/
lemma fold_filter {f : β → α → Script σ ω ε β} {p : α → Bool}
    (h : ∀ b a, p a = false → f b a = pure b) (as : List α) (b : β) :
    fold f (as.filter p) b = fold f as b := by
  induction as generalizing b with
  | nil => rfl
  | cons a as ih =>
    cases hp : p a with
    | false =>
      rw [List.filter_cons_of_neg (by simp [hp]), ih, fold, h b a hp]
      rfl
    | true =>
      rw [List.filter_cons_of_pos hp, fold, fold]
      exact congrArg (f b a >>= ·) (funext ih)

variable {x : Script σ ω ε α} {f : α → Script σ ω ε β} {a : α} {b : β}

section returns

variable [Replay σ ω] {s : σ} {journal : List ω}

lemma returns_pure_iff {a b : α} :
    (pure a : Script σ ω ε α).Returns s journal b ↔ journal = [] ∧ b = a := by
  change (([], .ok a) : List ω × Except ε α) = (journal, .ok b) ↔ _
  simp only [Prod.mk.injEq, Except.ok.injEq, eq_comm]

lemma not_returns_fail {e : ε} : ¬(fail e : Script σ ω ε α).Returns s journal a := by
  simp only [Returns, run, Prod.mk.injEq, reduceCtorEq, and_false, not_false_eq_true]

lemma returns_record_iff {w : ω} {u : Unit} :
    (record w : Script σ ω ε Unit).Returns s journal u ↔ journal = [w] := by
  simp only [Returns, record, run, Prod.mk.injEq, and_true, eq_comm]

lemma returns_ofExcept_iff {result : Except ε α} :
    (ofExcept result : Script σ ω ε α).Returns s journal a ↔ journal = [] ∧ result = .ok a := by
  cases result with
  | error e => simp [ofExcept, not_returns_fail]
  | ok b =>
    rw [Except.ok.injEq, eq_comm (a := b)]
    exact returns_pure_iff

lemma returns_require_iff {condition : Bool} {e : ε} {u : Unit} :
    (require condition e : Script σ ω ε Unit).Returns s journal u ↔
      journal = [] ∧ condition = true := by
  cases condition with
  | false => simp [require, not_returns_fail]
  | true => exact returns_pure_iff.trans (and_congr_right fun _ => by simp)

lemma returns_expect_iff {value : Option α} {e : ε} :
    (expect value e : Script σ ω ε α).Returns s journal a ↔ journal = [] ∧ value = some a := by
  cases value with
  | none => simp [expect, not_returns_fail]
  | some b =>
    rw [Option.some.injEq, eq_comm (a := b)]
    exact returns_pure_iff

lemma run_bind (x : Script σ ω ε α) (f : α → Script σ ω ε β) (s : σ) :
    (x >>= f).run s = match x.run s with
      | (journal, .error e) => (journal, .error e)
      | (journal, .ok a) =>
        (journal ++ ((f a).run (replay s journal)).1, ((f a).run (replay s journal)).2) := by
  change (x.andThen f).run s = _
  induction x generalizing s with
  | done a => rfl
  | fail e => rfl
  | look next ih => exact ih s s
  | write w next ih =>
    simp only [andThen, run, ih]
    rcases next.run (Replay.apply s w) with ⟨journal, result⟩
    cases result <;> rfl

/-- A sequence returns exactly when its parts do, the second from where the first one left. -/
theorem returns_bind_iff :
    (x >>= f).Returns s journal b ↔
      ∃ first a rest, x.Returns s first a ∧ (f a).Returns (replay s first) rest b ∧
        journal = first ++ rest := by
  unfold Returns
  rw [run_bind]
  rcases x.run s with ⟨written, result⟩
  cases result with
  | error e => simp
  | ok a =>
    rcases hrest : (f a).run (replay s written) with ⟨rest, final⟩
    constructor
    · intro h
      simp only [hrest, Prod.mk.injEq] at h
      exact ⟨written, a, rest, rfl, by rw [hrest, h.2], h.1.symm⟩
    · rintro ⟨first, a', rest', hx, hf, rfl⟩
      obtain ⟨rfl, ha⟩ := Prod.mk.inj hx
      obtain rfl := Except.ok.inj ha
      rw [hrest] at hf
      obtain ⟨rfl, rfl⟩ := Prod.mk.inj hf
      simp only [hrest]

/-- Peel off the first part of a sequence, with what is known about it. -/
lemma returns_bind_of {P : List ω → α → Prop} (hx : ∀ {first a}, x.Returns s first a → P first a)
    (h : (x >>= f).Returns s journal b) :
    ∃ first a rest, journal = first ++ rest ∧ P first a ∧
      (f a).Returns (replay s first) rest b := by
  obtain ⟨first, a, rest, hfirst, hrest, hjournal⟩ := returns_bind_iff.mp h
  exact ⟨first, a, rest, hjournal, hx hfirst, hrest⟩

lemma returns_bind_of_silent {P : α → Prop}
    (hx : ∀ {first a}, x.Returns s first a ↔ first = [] ∧ P a) :
    (x >>= f).Returns s journal b ↔ ∃ a, P a ∧ (f a).Returns s journal b := by
  rw [returns_bind_iff]
  constructor
  · rintro ⟨first, a, rest, h, hf, rfl⟩
    obtain ⟨rfl, ha⟩ := hx.mp h
    exact ⟨a, ha, hf⟩
  · rintro ⟨a, ha, hf⟩
    exact ⟨[], a, journal, hx.mpr ⟨rfl, ha⟩, hf, rfl⟩

lemma returns_read_bind_iff {f : σ → Script σ ω ε β} :
    (read >>= f).Returns s journal b ↔ (f s).Returns s journal b := by
  rfl

lemma returns_require_bind_iff {condition : Bool} {e : ε} {f : Unit → Script σ ω ε β} :
    (require condition e >>= f).Returns s journal b ↔
      condition = true ∧ (f ()).Returns s journal b := by
  rw [returns_bind_of_silent returns_require_iff]
  exact ⟨fun ⟨_, h⟩ => h, fun h => ⟨(), h⟩⟩

lemma returns_expect_bind_iff {value : Option α} {e : ε} :
    (expect value e >>= f).Returns s journal b ↔
      ∃ a, value = some a ∧ (f a).Returns s journal b :=
  returns_bind_of_silent returns_expect_iff

lemma returns_ofExcept_bind_iff {result : Except ε α} :
    (ofExcept result >>= f).Returns s journal b ↔
      ∃ a, result = .ok a ∧ (f a).Returns s journal b :=
  returns_bind_of_silent returns_ofExcept_iff

lemma returns_record_bind_iff {w : ω} {f : Unit → Script σ ω ε β} :
    (record w >>= f).Returns s journal b ↔
      ∃ rest, (f ()).Returns (Replay.apply s w) rest b ∧ journal = w :: rest := by
  rw [returns_bind_iff]
  constructor
  · rintro ⟨first, a, rest, hx, hf, rfl⟩
    obtain rfl := returns_record_iff.mp hx
    exact ⟨rest, hf, rfl⟩
  · rintro ⟨rest, hf, rfl⟩
    exact ⟨[w], (), rest, returns_record_iff.mpr rfl, hf, rfl⟩

lemma forEach_silent {f : α → Script σ ω ε Unit} {as : List α} {u : Unit}
    (hf : ∀ a s journal u, (f a).Returns s journal u → journal = [])
    (h : (forEach f as).Returns s journal u) : journal = [] := by
  unfold forEach at h
  induction as generalizing s journal with
  | nil => exact (returns_pure_iff.mp h).1
  | cons a as ih =>
    obtain ⟨first, _, rest, hfirst, hrest, hjournal⟩ := returns_bind_iff.mp h
    rw [hjournal, hf a s first _ hfirst, ih hrest, List.append_nil]

/-- A loop keeps an invariant that may look at the elements still to come. -/
theorem fold_returns {f : β → α → Script σ ω ε β} {I : List α → σ → β → Prop}
    (hstep : ∀ a as s b journal b', I (a :: as) s b → (f b a).Returns s journal b' →
      I as (replay s journal) b')
    {as : List α} {b b' : β} (h : I as s b) (hr : (fold f as b).Returns s journal b') :
    I [] (replay s journal) b' := by
  induction as generalizing s b journal with
  | nil =>
    obtain ⟨rfl, rfl⟩ := returns_pure_iff.mp hr
    exact h
  | cons a as ih =>
    obtain ⟨first, c, rest, hfirst, hrest, rfl⟩ := returns_bind_iff.mp hr
    rw [replay_append]
    exact ih (hstep a as s b first c h hfirst) hrest

lemma returns_of_isOk (h : (x.run s).2.isOk = true) :
    ∃ a, x.Returns s (x.run s).1 a := by
  unfold Returns
  rcases hrun : x.run s with ⟨journal, result⟩
  rw [hrun] at h
  cases result with
  | error e => cases h
  | ok a => exact ⟨a, rfl⟩

lemma returns_of_toOption (h : (x.run s).2.toOption = some a) :
    x.Returns s (x.run s).1 a := by
  unfold Returns
  rcases hrun : x.run s with ⟨journal, result⟩
  rw [hrun] at h
  cases result with
  | error e => cases h
  | ok b =>
    obtain rfl := Option.some.inj h
    rfl

lemma succeeds_pure (a : α) : (pure a : Script σ ω ε α).Succeeds s :=
  ⟨[], a, rfl⟩

lemma succeeds_bind (hx : x.Returns s journal a) (hf : (f a).Succeeds (replay s journal)) :
    (x >>= f).Succeeds s := by
  obtain ⟨rest, b, hrest⟩ := hf
  exact ⟨journal ++ rest, b, returns_bind_iff.mpr ⟨journal, a, rest, hx, hrest, rfl⟩⟩

/-- Like `fold_returns`: a loop succeeds if its body does and keeps the invariant. -/
theorem fold_succeeds {f : β → α → Script σ ω ε β} {I : List α → σ → β → Prop}
    (hstep : ∀ a as s b, I (a :: as) s b →
      ∃ journal b', (f b a).Returns s journal b' ∧ I as (replay s journal) b')
    {as : List α} (h : I as s b) : (fold f as b).Succeeds s := by
  induction as generalizing s b with
  | nil => exact succeeds_pure b
  | cons a as ih =>
    obtain ⟨first, c, hfirst, hnext⟩ := hstep a as s b h
    exact succeeds_bind hfirst (ih hnext)

lemma Unfailing.succeeds (h : x.Unfailing) (s : σ) : x.Succeeds s := by
  induction x generalizing s with
  | done a => exact succeeds_pure a
  | fail e => exact h.elim
  | look next ih => exact ih s (h s) s
  | write w next ih =>
    obtain ⟨journal, a, hnext⟩ := ih h (Replay.apply s w)
    refine ⟨w :: journal, a, ?_⟩
    rw [Returns, run, hnext]

end returns

section unfailing

lemma unfailing_pure (a : α) : (pure a : Script σ ω ε α).Unfailing :=
  trivial

lemma unfailing_bind (hx : x.Unfailing) (hf : ∀ a, (f a).Unfailing) : (x >>= f).Unfailing := by
  change (x.andThen f).Unfailing
  induction x with
  | done a => exact hf a
  | fail e => exact hx
  | look next ih => exact fun s => ih s (hx s)
  | write w next ih => exact ih hx

lemma unfailing_read : (read : Script σ ω ε σ).Unfailing :=
  fun _ => trivial

lemma unfailing_record (w : ω) : (record w : Script σ ω ε Unit).Unfailing :=
  trivial

end unfailing

section attains

variable [Replay σ ω] {ν : Type} {observe : σ → ν} {view : ν} {Q : α → ν → Prop}
  {R : β → ν → Prop}

/-- From every state with the given view the script returns, and its value and the view it leaves
satisfy a postcondition. -/
def Attains (observe : σ → ν) (view : ν) (x : Script σ ω ε α) (Q : α → ν → Prop) : Prop :=
  ∀ s, observe s = view → ∃ journal a, x.Returns s journal a ∧ Q a (observe (replay s journal))

lemma attains_pure (h : Q a view) : (pure a : Script σ ω ε α).Attains observe view Q :=
  fun _ hs => ⟨[], a, rfl, hs ▸ h⟩

lemma attains_bind (h : x.Attains observe view fun a view' => (f a).Attains observe view' R) :
    (x >>= f).Attains observe view R := by
  intro s hs
  obtain ⟨first, a, hx, hf⟩ := h s hs
  obtain ⟨rest, b, hf, hR⟩ := hf (replay s first) rfl
  refine ⟨first ++ rest, b, returns_bind_iff.mpr ⟨first, a, rest, hx, hf, rfl⟩, ?_⟩
  rw [replay_append]
  exact hR

lemma attains_require {condition : Bool} {e : ε} {Q : Unit → ν → Prop} (hcond : condition = true)
    (h : Q () view) : (require condition e : Script σ ω ε Unit).Attains observe view Q :=
  fun _ hs => ⟨[], (), returns_require_iff.mpr ⟨rfl, hcond⟩, hs ▸ h⟩

lemma attains_expect {value : Option α} {e : ε} (hvalue : value = some a) (h : Q a view) :
    (expect value e : Script σ ω ε α).Attains observe view Q :=
  fun _ hs => ⟨[], a, returns_expect_iff.mpr ⟨rfl, hvalue⟩, hs ▸ h⟩

lemma Attains.succeeds {s : σ} (h : x.Attains observe (observe s) Q) :
    x.Succeeds s := by
  obtain ⟨journal, a, hx, -⟩ := h s rfl
  exact ⟨journal, a, hx⟩

end attains

section yields

lemma yields_pure {Q : α → Prop} (h : Q a) : (pure a : Script σ ω ε α).Yields Q :=
  h

lemma yields_bind_of {Q : α → Prop} {R : β → Prop} (hx : x.Yields Q)
    (hf : ∀ a, Q a → (f a).Yields R) :
    (x >>= f).Yields R := by
  change (x.andThen f).Yields R
  induction x with
  | done a => exact hf a hx
  | fail e => exact trivial
  | look next ih => exact fun s => ih s (hx s)
  | write w next ih => exact ih hx

lemma yields_true (x : Script σ ω ε α) : x.Yields fun _ => True := by
  induction x with
  | done a => exact trivial
  | fail e => exact trivial
  | look next ih => exact ih
  | write w next ih => exact ih

lemma yields_bind {R : β → Prop} (hf : ∀ a, (f a).Yields R) : (x >>= f).Yields R :=
  yields_bind_of (yields_true x) fun a _ => hf a

lemma Yields.mono {Q R : α → Prop} (h : x.Yields Q) (hQR : ∀ a, Q a → R a) :
    x.Yields R := by
  induction x with
  | done a => exact hQR a h
  | fail e => trivial
  | look next ih => exact fun s => ih s (h s)
  | write w next ih => exact ih h

lemma yields_require (condition : Bool) (e : ε) :
    (require condition e : Script σ ω ε Unit).Yields fun _ => condition = true := by
  cases condition with
  | false => trivial
  | true => exact rfl

lemma yields_expect (value : Option α) (e : ε) :
    (expect value e : Script σ ω ε α).Yields fun a => value = some a := by
  cases value with
  | none => trivial
  | some a => exact rfl

lemma yields_fold {Q : β → Prop} {f : β → α → Script σ ω ε β} (hf : ∀ b a, Q b → (f b a).Yields Q)
    (as : List α) (h : Q b) :
    (fold f as b).Yields Q := by
  induction as generalizing b with
  | nil => exact h
  | cons a as ih => exact yields_bind_of (hf b a h) fun b' hb' => ih hb'

lemma Yields.of_returns [Replay σ ω] {Q : α → Prop} {s : σ} {journal : List ω} (h : x.Yields Q)
    (hx : x.Returns s journal a) : Q a := by
  induction x generalizing s journal with
  | done b =>
    obtain ⟨-, rfl⟩ := returns_pure_iff.mp hx
    exact h
  | fail e => exact absurd hx not_returns_fail
  | look next ih => exact ih s (h s) hx
  | write w next ih =>
    rcases hrest : next.run (Replay.apply s w) with ⟨rest, result⟩
    simp only [Returns, run, hrest, Prod.mk.injEq] at hx
    exact ih h (show next.run (Replay.apply s w) = (rest, .ok a) by rw [hrest, hx.2])

end yields

section emits

variable {P : ω → Prop}

@[simp]
lemma emits_pure (a : α) : (pure a : Script σ ω ε α).Emits P :=
  trivial

lemma emits_bind_of {Q : α → Prop} (hQ : x.Yields Q) (hx : x.Emits P)
    (hf : ∀ a, Q a → (f a).Emits P) : (x >>= f).Emits P := by
  change (x.andThen f).Emits P
  induction x with
  | done a => exact hf a hQ
  | fail e => exact trivial
  | look next ih => exact fun s => ih s (hQ s) (hx s)
  | write w next ih => exact ⟨hx.1, ih hQ hx.2⟩

lemma emits_bind (hx : x.Emits P) (hf : ∀ a, (f a).Emits P) : (x >>= f).Emits P :=
  emits_bind_of (yields_true x) hx fun a _ => hf a

lemma emits_read : (read : Script σ ω ε σ).Emits P :=
  fun _ => trivial

lemma emits_record {w : ω} (h : P w) : (record w : Script σ ω ε Unit).Emits P :=
  ⟨h, trivial⟩

@[simp]
lemma emits_record_iff {w : ω} : (record w : Script σ ω ε Unit).Emits P ↔ P w :=
  and_iff_left trivial

@[simp]
lemma emits_ofExcept (result : Except ε α) : (ofExcept result : Script σ ω ε α).Emits P := by
  cases result <;> exact trivial

@[simp]
lemma emits_require (condition : Bool) (e : ε) :
    (require condition e : Script σ ω ε Unit).Emits P := by
  cases condition <;> exact trivial

@[simp]
lemma emits_expect (value : Option α) (e : ε) : (expect value e : Script σ ω ε α).Emits P := by
  cases value <;> exact trivial

@[simp]
lemma emits_ite_iff {p : Prop} [Decidable p] {y : Script σ ω ε α} :
    (if p then x else y).Emits P ↔ (p → x.Emits P) ∧ (¬p → y.Emits P) := by
  split <;> simp [*]

@[simp]
lemma emits_read_bind_iff {g : σ → Script σ ω ε β} : (read >>= g).Emits P ↔ ∀ s, (g s).Emits P :=
  Iff.rfl

@[simp]
lemma emits_record_bind_iff {w : ω} {g : Unit → Script σ ω ε β} :
    (record w >>= g).Emits P ↔ P w ∧ (g ()).Emits P :=
  Iff.rfl

@[simp]
lemma emits_ofExcept_bind_iff {result : Except ε α} :
    (ofExcept result >>= f).Emits P ↔ ∀ a, result = .ok a → (f a).Emits P := by
  cases result with
  | error e => exact iff_of_true trivial nofun
  | ok a => exact ⟨fun h b hb => Except.ok.inj hb ▸ h, fun h => h a rfl⟩

@[simp]
lemma emits_require_bind_iff {condition : Bool} {e : ε} {g : Unit → Script σ ω ε β} :
    (require condition e >>= g).Emits P ↔ (condition = true → (g ()).Emits P) := by
  cases condition with
  | false => exact iff_of_true trivial nofun
  | true => exact ⟨fun h _ => h, fun h => h rfl⟩

@[simp]
lemma emits_expect_bind_iff {value : Option α} {e : ε} :
    (expect value e >>= f).Emits P ↔ ∀ a, value = some a → (f a).Emits P := by
  cases value with
  | none => exact iff_of_true trivial nofun
  | some a => exact ⟨fun h b hb => Option.some.inj hb ▸ h, fun h => h a rfl⟩

lemma emits_fold {f : β → α → Script σ ω ε β} (hf : ∀ b a, (f b a).Emits P) (as : List α)
    (b : β) : (fold f as b).Emits P := by
  induction as generalizing b with
  | nil => exact trivial
  | cons a as ih => exact emits_bind (hf b a) fun b' => ih b'

lemma Emits.mem_run [Replay σ ω] (h : x.Emits P) (s : σ) :
    ∀ w ∈ (x.run s).1, P w := by
  induction x generalizing s with
  | done a => exact fun _ hw => absurd hw List.not_mem_nil
  | fail e => exact fun _ hw => absurd hw List.not_mem_nil
  | look next ih => exact ih s (h s) s
  | write w next ih => exact List.forall_mem_cons.mpr ⟨h.1, ih h.2 (Replay.apply s w)⟩

lemma Emits.mem_returns [Replay σ ω] {s : σ} {journal : List ω} (h : x.Emits P)
    (hx : x.Returns s journal a) : ∀ w ∈ journal, P w := by
  have hrun := h.mem_run s
  rw [show x.run s = (journal, .ok a) from hx] at hrun
  exact hrun

lemma Emits.mono {Q : ω → Prop} (h : x.Emits P) (hPQ : ∀ w, P w → Q w) :
    x.Emits Q := by
  induction x with
  | done a => exact trivial
  | fail e => exact trivial
  | look next ih => exact fun s => ih s (h s)
  | write w next ih => exact ⟨hPQ w h.1, ih h.2⟩

end emits

section obeys

variable [Replay σ ω] {P : σ → ω → Prop} {s : σ}

/-- Every action of the script, run from a state, satisfies a predicate in the state in which it is
written. Actions of a run that fails later count too. -/
def Obeys (P : σ → ω → Prop) : Script σ ω ε α → σ → Prop
  | .done _, _ => True
  | .fail _, _ => True
  | .look next, s => (next s).Obeys P s
  | .write w next, s => P s w ∧ next.Obeys P (Replay.apply s w)

lemma obeys_record {w : ω} (h : P s w) : (record w : Script σ ω ε Unit).Obeys P s :=
  ⟨h, trivial⟩

lemma obeys_bind (hx : x.Obeys P s)
    (hf : ∀ journal a, x.Returns s journal a → (f a).Obeys P (replay s journal)) :
    (x >>= f).Obeys P s := by
  change (x.andThen f).Obeys P s
  induction x generalizing s with
  | done a => exact hf [] a rfl
  | fail e => exact trivial
  | look next ih => exact ih s hx hf
  | write w next ih =>
    refine ⟨hx.1, ih hx.2 fun journal a hreturns => ?_⟩
    refine hf (w :: journal) a ?_
    rw [Returns] at hreturns
    simp only [Returns, run, hreturns]

/-- Actions of a kind obey a predicate that holds of them under an invariant of all actions. -/
lemma Emits.obeys_of {I : σ → Prop} {Q : ω → Prop} (h : x.Emits Q)
    (hI : ∀ s (w : ω), I s → I (Replay.apply s w)) (hP : ∀ s w, I s → Q w → P s w) (hs : I s) :
    x.Obeys P s := by
  induction x generalizing s with
  | done a => exact trivial
  | fail e => exact trivial
  | look next ih => exact ih s (h s) hs
  | write w next ih => exact ⟨hP s w hs h.1, ih h.2 (hI s w hs)⟩

lemma Emits.obeys {Q : ω → Prop} (h : x.Emits Q) (hP : ∀ s w, Q w → P s w) (s : σ) : x.Obeys P s :=
  h.obeys_of (I := fun _ => True) (fun _ _ _ => trivial) (fun s w _ => hP s w) trivial

/-- An action of the journal of a run obeys the predicate after the actions before it. -/
lemma Obeys.mem_run (h : x.Obeys P s) {before after : List ω} {w : ω}
    (hrun : (x.run s).1 = before ++ w :: after) : P (replay s before) w := by
  induction x generalizing s before with
  | done a => simp [run] at hrun
  | fail e => simp [run] at hrun
  | look next ih => exact ih s h hrun
  | write first next ih =>
    cases before with
    | nil =>
      rw [List.nil_append] at hrun
      rw [← (List.cons.inj hrun).1]
      exact h.1
    | cons action before =>
      rw [List.cons_append] at hrun
      rw [← (List.cons.inj hrun).1]
      exact ih h.2 (List.cons.inj hrun).2

end obeys

section atMost

variable [Replay σ ω] {p : ω → Bool} {P : σ → ω → Prop} {m n : Nat}

/-- From whatever state it starts, the script writes at most so many actions of a kind, and each of
them satisfies a predicate in the state in which it is written. -/
def AtMost (p : ω → Bool) (P : σ → ω → Prop) (n : Nat) (x : Script σ ω ε α) : Prop :=
  ∀ s, (x.run s).1.countP p ≤ n ∧ x.Obeys (fun s w => p w = true → P s w) s

lemma atMost_of_emits (h : x.Emits fun w => p w = false) :
    x.AtMost p P n := by
  intro s
  have hnone : (x.run s).1.countP p = 0 :=
    List.countP_eq_zero.mpr fun w hw => by simp [h.mem_run s w hw]
  refine ⟨by omega, h.obeys (fun s w hother hw => ?_) s⟩
  rw [hother] at hw
  cases hw

lemma atMost_bind_of {Q : α → Prop} (hQ : x.Yields Q) (hx : x.AtMost p P m)
    (hf : ∀ a, Q a → (f a).AtMost p P n) :
    (x >>= f).AtMost p P (m + n) := by
  intro s
  refine ⟨?_, obeys_bind (hx s).2 fun journal a h =>
    (hf a (hQ.of_returns h) (replay s journal)).2⟩
  have hfirst := (hx s).1
  rw [run_bind]
  rcases hrun : x.run s with ⟨journal, result⟩
  rw [hrun] at hfirst
  cases result with
  | error e => exact Nat.le_trans hfirst (Nat.le_add_right m n)
  | ok a =>
    have hrest := (hf a (hQ.of_returns hrun) (replay s journal)).1
    simp only [List.countP_append]
    exact Nat.add_le_add hfirst hrest

lemma atMost_emits_bind (hx : x.Emits fun w => p w = false) (hf : ∀ a, (f a).AtMost p P n) :
    (x >>= f).AtMost p P n := by
  have h := atMost_bind_of (yields_true x) (atMost_of_emits (n := 0) hx) fun a _ => hf a
  rwa [Nat.zero_add] at h

lemma atMost_look_write (w : σ → ω) (next : σ → Script σ ω ε α) (hw : ∀ s, P s (w s))
    (hnext : ∀ s, (next s).Emits fun w => p w = false) :
    (Script.look fun s => .write (w s) (next s)).AtMost p P 1 := by
  intro s
  have hrest := (atMost_of_emits (n := 0) (P := P) (hnext s)) (Replay.apply s (w s))
  refine ⟨?_, fun _ => hw s, hrest.2⟩
  have hcount := hrest.1
  simp only [run, List.countP_cons]
  split <;> omega

end atMost

end Script

end QhapaqXian.Library
