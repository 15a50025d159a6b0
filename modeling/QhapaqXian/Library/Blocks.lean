import QhapaqXian.Library.Script

/-!
# Scripts put together from blocks

A script is built from blocks if it runs one block after another, where each may depend on what the
earlier ones returned. Blocks have weights, and the weights of the blocks that a script runs one
after another add up.
-/

namespace QhapaqXian.Library.Script

variable {σ ω ε α β γ : Type} {n : Nat}
variable {x : Script σ ω ε α} {f : α → Script σ ω ε β}

/-- The script runs blocks one after another, with at most this weight in total. -/
inductive Built (Block : Nat → (α : Type) → Script σ ω ε α → Prop) :
    Nat → {α : Type} → Script σ ω ε α → Prop
  | block {n : Nat} {α : Type} {x : Script σ ω ε α} (h : Block n α x) : Built Block n x
  | pure {n : Nat} {α : Type} (a : α) : Built Block n (pure a)
  | bind_of {m n : Nat} {α β : Type} {Q : α → Prop} {x : Script σ ω ε α} {f : α → Script σ ω ε β}
      (hx : Built Block m x) (hQ : x.Yields Q) (hf : ∀ a, Q a → Built Block n (f a)) :
      Built Block (m + n) (x >>= f)

/-- Every journal of the script that starts in the state is related to it. -/
def Keeps [Replay σ ω] (R : σ → List ω → Prop) (x : Script σ ω ε α) (s : σ) : Prop :=
  ∀ journal a, x.Returns s journal a → R s journal

/-- The relation holds for an empty journal and for one journal after another. -/
structure Sequential [Replay σ ω] (R : σ → List ω → Prop) : Prop where
  nil : ∀ s, R s []
  append : ∀ {s first second}, R s first → R (replay s first) second → R s (first ++ second)

section keeps

variable [Replay σ ω] {R : σ → List ω → Prop} {s : σ}

lemma keeps_pure (hR : Sequential R) (a : α) : (pure a : Script σ ω ε α).Keeps R s := by
  intro journal b h
  rw [(returns_pure_iff.mp h).1]
  exact hR.nil s

lemma keeps_bind (hR : Sequential R) (hx : x.Keeps R s)
    (hf : ∀ journal a, x.Returns s journal a → (f a).Keeps R (replay s journal)) :
    (x >>= f).Keeps R s := by
  intro journal b h
  obtain ⟨first, a, rest, hfirst, hrest, rfl⟩ := returns_bind_iff.mp h
  exact hR.append (hx first a hfirst) (hf first a hfirst rest b hrest)

lemma keeps_silent_bind (hx : x.Emits fun _ => False)
    (hf : ∀ journal a, x.Returns s journal a → (f a).Keeps R s) :
    (x >>= f).Keeps R s := by
  intro journal b h
  obtain ⟨first, a, rest, hfirst, hrest, rfl⟩ := returns_bind_iff.mp h
  obtain rfl : first = [] := List.eq_nil_iff_forall_not_mem.mpr (hx.mem_returns hfirst)
  exact hf [] a hfirst rest b hrest

lemma keeps_fold (hR : Sequential R) {f : β → α → Script σ ω ε β}
    (hf : ∀ b a s, (f b a).Keeps R s) (as : List α) (b : β) : (fold f as b).Keeps R s := by
  induction as generalizing b s with
  | nil => exact keeps_pure hR b
  | cons a as ih => exact keeps_bind hR (hf b a s) fun _ b' _ => ih b'

end keeps

namespace Built

variable {Block : Nat → (α : Type) → Script σ ω ε α → Prop} {x : Script σ ω ε α}

lemma bind_yields {Q : α → Prop} (hx : Built Block 0 x) (hQ : x.Yields Q)
    (hf : ∀ a, Q a → Built Block n (f a)) : Built Block n (x >>= f) := by
  have h := Built.bind_of hx hQ hf
  rwa [Nat.zero_add] at h

lemma bind (hx : Built Block 0 x) (hf : ∀ a, Built Block n (f a)) :
    Built Block n (x >>= f) :=
  hx.bind_yields (yields_true x) fun a _ => hf a

lemma bind_last (hx : Built Block n x) (hf : ∀ a, Built Block 0 (f a)) :
    Built Block n (x >>= f) :=
  .bind_of hx (yields_true x) fun a _ => hf a

lemma block_bind {g : β → Script σ ω ε γ} (h : Block 0 β (x >>= f))
    (hg : ∀ b, Built Block n (g b)) : Built Block n (x >>= fun a => f a >>= g) := by
  rw [← bind_assoc]
  exact .bind (.block h) hg

lemma fold {f : β → α → Script σ ω ε β} (hf : ∀ b a, Built Block 0 (f b a)) (as : List α) (b : β) :
    Built Block 0 (Script.fold f as b) := by
  induction as generalizing b with
  | nil => exact .pure b
  | cons a as ih => exact .bind (hf b a) ih

/-- The script writes what blocks of its weight write. -/
theorem emits {P : Nat → ω → Prop} (hP : ∀ {m n w}, m ≤ n → P m w → P n w)
    (hblock : ∀ n α (x : Script σ ω ε α), Block n α x → x.Emits (P n)) (h : Built Block n x) :
    x.Emits (P n) := by
  induction h with
  | block h => exact hblock _ _ _ h
  | pure a => exact emits_pure a
  | bind_of hx hQ hf ihx ihf =>
    refine emits_bind_of hQ (ihx.mono fun w => hP (Nat.le_add_right _ _)) fun a ha => ?_
    exact (ihf a ha).mono fun w => hP (Nat.le_add_left _ _)

section replay

variable [Replay σ ω]

/-- The script keeps what its blocks keep in every state. -/
theorem keeps {R : σ → List ω → Prop} (hR : Sequential R)
    (hblock : ∀ n α (x : Script σ ω ε α), Block n α x → ∀ s, x.Keeps R s) (h : Built Block n x)
    (s : σ) : x.Keeps R s := by
  induction h generalizing s with
  | block h => exact hblock _ _ _ h s
  | pure a => exact keeps_pure hR a
  | bind_of hx hQ hf ihx ihf =>
    exact keeps_bind hR (ihx s) fun journal a h => ihf a (hQ.of_returns h) (replay s journal)

/-- The weight bounds the number of actions of a kind if it does so for every block. -/
theorem atMost {p : ω → Bool} {P : σ → ω → Prop}
    (hblock : ∀ n α (x : Script σ ω ε α), Block n α x → x.AtMost p P n) (h : Built Block n x) :
    x.AtMost p P n := by
  induction h with
  | block h => exact hblock _ _ _ h
  | pure a => exact atMost_of_emits (emits_pure a)
  | bind_of hx hQ hf ihx ihf => exact atMost_bind_of hQ ihx ihf

end replay

end Built

/-- The script only reads before it runs the opening, if it runs it at all, and is otherwise built
from blocks. -/
inductive Opened (opening : Script σ ω ε β) (Block : Nat → (α : Type) → Script σ ω ε α → Prop)
    (n : Nat) : {α : Type} → Script σ ω ε α → Prop
  | built {α : Type} {x : Script σ ω ε α} (h : Built Block n x) : Opened opening Block n x
  | opening_bind {α : Type} {f : β → Script σ ω ε α} (hf : ∀ b, Built Block n (f b)) :
      Opened opening Block n (opening >>= f)
  | read_bind {α γ : Type} {Q : α → Prop} {x : Script σ ω ε α} {f : α → Script σ ω ε γ}
      (hx : x.Emits fun _ => False) (hQ : x.Yields Q)
      (hf : ∀ a, Q a → Opened opening Block n (f a)) : Opened opening Block n (x >>= f)

namespace Opened

variable {opening : Script σ ω ε β} {Block : Nat → (α : Type) → Script σ ω ε α → Prop}
  {x : Script σ ω ε α}

lemma bind {f : α → Script σ ω ε γ} (hx : Opened opening Block n x)
    (hf : ∀ a, Built Block 0 (f a)) : Opened opening Block n (x >>= f) := by
  induction hx with
  | built h => exact .built (h.bind_last hf)
  | opening_bind hrest =>
    rw [bind_assoc]
    exact .opening_bind fun b => (hrest b).bind_last hf
  | read_bind hread hQ hrest ih =>
    rw [bind_assoc]
    exact .read_bind hread hQ fun a ha => ih a ha hf

theorem emits {P : Nat → ω → Prop} (hP : ∀ {m n w}, m ≤ n → P m w → P n w)
    (hopening : opening.Emits (P n))
    (hblock : ∀ n α (x : Script σ ω ε α), Block n α x → x.Emits (P n))
    (h : Opened opening Block n x) : x.Emits (P n) := by
  induction h with
  | built h => exact h.emits hP hblock
  | opening_bind hf => exact emits_bind hopening fun b => (hf b).emits hP hblock
  | read_bind hx hQ hf ih => exact emits_bind_of hQ (hx.mono fun _ h => h.elim) ih

section replay

variable [Replay σ ω]

/-- The opening runs in the state that the script starts in. -/
theorem keeps {R : σ → List ω → Prop} {s : σ} (hR : Sequential R) (hopening : opening.Keeps R s)
    (hblock : ∀ n α (x : Script σ ω ε α), Block n α x → ∀ s, x.Keeps R s)
    (h : Opened opening Block n x) : x.Keeps R s := by
  induction h with
  | built h => exact h.keeps hR hblock s
  | opening_bind hf =>
    exact keeps_bind hR hopening fun journal b _ => (hf b).keeps hR hblock (replay s journal)
  | read_bind hx hQ hf ih => exact keeps_silent_bind hx fun _ a h => ih a (hQ.of_returns h)

theorem atMost {p : ω → Bool} {P : σ → ω → Prop} (hopening : opening.Emits fun w => p w = false)
    (hblock : ∀ n α (x : Script σ ω ε α), Block n α x → x.AtMost p P n)
    (h : Opened opening Block n x) : x.AtMost p P n := by
  induction h with
  | built h => exact h.atMost hblock
  | opening_bind hf => exact atMost_emits_bind hopening fun b => (hf b).atMost hblock
  | read_bind hx hQ hf ih =>
    have h := atMost_bind_of (m := 0) hQ (atMost_of_emits (hx.mono fun _ h => h.elim)) ih
    rwa [Nat.zero_add] at h

end replay

end Opened

section includes

variable [Replay σ ω] {p : ω → Prop}

/-- Whenever the script returns, it has written an action of a kind. -/
def Includes (p : ω → Prop) (x : Script σ ω ε α) : Prop :=
  ∀ s journal a, x.Returns s journal a → ∃ w ∈ journal, p w

lemma includes_bind_left (hx : x.Includes p) :
    (x >>= f).Includes p := by
  intro s journal b h
  obtain ⟨first, a, rest, hfirst, -, rfl⟩ := returns_bind_iff.mp h
  obtain ⟨w, hw, hp⟩ := hx s first a hfirst
  exact ⟨w, List.mem_append_left rest hw, hp⟩

lemma includes_bind (hf : ∀ a, (f a).Includes p) :
    (x >>= f).Includes p := by
  intro s journal b h
  obtain ⟨first, a, rest, -, hrest, rfl⟩ := returns_bind_iff.mp h
  obtain ⟨w, hw, hp⟩ := hf a _ rest b hrest
  exact ⟨w, List.mem_append_right first hw, hp⟩

end includes

end QhapaqXian.Library.Script
