import Mathlib.Data.Fintype.Basic
import Mathlib.Logic.Function.Basic
import Mathlib.Logic.Relation
import QhapaqXian.Library.Script

/-!
# Interleaved transactions

Transactions that run their scripts step by step against one committed state. Each read sees the
latest committed state under the transaction's own journal.
-/

namespace QhapaqXian.Library

open Script

inductive Thread (τ ω ε α : Type)
  | active (rest : Script τ ω ε α) (journal : List ω)
  | committed
  | aborted

/-- What the transactions share: how each of them sees the committed state, what it publishes, and
the unique keys. -/
structure Shared (ι σ τ ω κ : Type) where
  view : ι → σ → τ
  publish : τ → σ
  key : ω → Option κ
  taken : σ → κ → Bool

structure System (ι σ τ ω ε α : Type) where
  store : σ
  threads : ι → Thread τ ω ε α

section steps

variable {ι σ τ ω κ ε α : Type}

/-- An unfinished transaction has written an action with the key. -/
def Thread.Holds (key : ω → Option κ) (k : κ) : Thread τ ω ε α → Prop
  | .active _ journal => ∃ w ∈ journal, key w = some k
  | _ => False

def Thread.holds [DecidableEq κ] (key : ω → Option κ) (k : κ) : Thread τ ω ε α → Bool
  | .active _ journal => journal.any (key · == some k)
  | _ => false

def Thread.isCommitted : Thread τ ω ε α → Bool
  | .committed => true
  | _ => false

lemma isCommitted_iff {thread : Thread τ ω ε α} :
    thread.isCommitted = true ↔ thread = .committed := by
  cases thread <;> simp [Thread.isCommitted]

lemma holds_iff [DecidableEq κ] {key : ω → Option κ} {k : κ} {thread : Thread τ ω ε α} :
    thread.Holds key k ↔ thread.holds key k = true := by
  cases thread <;> simp [Thread.Holds, Thread.holds]

variable [DecidableEq ι]

def System.set (sys : System ι σ τ ω ε α) (i : ι) (thread : Thread τ ω ε α) :
    System ι σ τ ω ε α :=
  { sys with threads := Function.update sys.threads i thread }

lemma System.threads_set_self (sys : System ι σ τ ω ε α) (i : ι) (thread : Thread τ ω ε α) :
    (sys.set i thread).threads i = thread := by
  rw [System.set]
  exact Function.update_self _ _ _

lemma System.threads_set_of_ne {sys : System ι σ τ ω ε α} {i j : ι} (h : j ≠ i)
    (thread : Thread τ ω ε α) : (sys.set i thread).threads j = sys.threads j := by
  rw [System.set]
  exact Function.update_of_ne h _ _

variable [Replay τ ω]

/-- One transaction takes one step. -/
inductive Shared.Step (shared : Shared ι σ τ ω κ) :
    System ι σ τ ω ε α → System ι σ τ ω ε α → Prop
  | look {sys : System ι σ τ ω ε α} {i : ι} {next : τ → Script τ ω ε α} {journal : List ω}
      (h : sys.threads i = .active (.look next) journal) :
      Step shared sys
        (sys.set i (.active (next (replay (shared.view i sys.store) journal)) journal))
  | write {sys : System ι σ τ ω ε α} {i : ι} {w : ω} {next : Script τ ω ε α} {journal : List ω}
      (h : sys.threads i = .active (.write w next) journal)
      (hfree : ∀ k, shared.key w = some k → ¬shared.taken sys.store k = true ∧
        ∀ j, j ≠ i → ¬(sys.threads j).Holds shared.key k) :
      Step shared sys (sys.set i (.active next (journal ++ [w])))
  | refuse {sys : System ι σ τ ω ε α} {i : ι} {w : ω} {next : Script τ ω ε α} {journal : List ω}
      {k : κ} (h : sys.threads i = .active (.write w next) journal) (hkey : shared.key w = some k)
      (htaken : shared.taken sys.store k = true) : Step shared sys (sys.set i .aborted)
  | abort {sys : System ι σ τ ω ε α} {i : ι} {rest : Script τ ω ε α} {journal : List ω}
      (h : sys.threads i = .active rest journal) : Step shared sys (sys.set i .aborted)
  | commit {sys : System ι σ τ ω ε α} {i : ι} {a : α} {journal : List ω}
      (h : sys.threads i = .active (.done a) journal) :
      Step shared sys
        { sys.set i .committed with
          store := shared.publish (replay (shared.view i sys.store) journal) }

def System.initial (store : σ) (scripts : ι → Script τ ω ε α) : System ι σ τ ω ε α :=
  ⟨store, fun i => .active (scripts i) []⟩

def Shared.Leads (shared : Shared ι σ τ ω κ) :
    System ι σ τ ω ε α → System ι σ τ ω ε α → Prop :=
  Relation.ReflTransGen shared.Step

def Shared.advance [Fintype ι] [DecidableEq κ] (shared : Shared ι σ τ ω κ)
    (sys : System ι σ τ ω ε α) (i : ι) : System ι σ τ ω ε α :=
  match sys.threads i with
  | .active (.look next) journal =>
    sys.set i (.active (next (replay (shared.view i sys.store) journal)) journal)
  | .active (.write w next) journal =>
    match shared.key w with
    | none => sys.set i (.active next (journal ++ [w]))
    | some k =>
      if shared.taken sys.store k = true then sys.set i .aborted
      else if ∀ j, j ≠ i → (sys.threads j).holds shared.key k = false then
        sys.set i (.active next (journal ++ [w]))
      else sys
  | .active (.fail _) _ => sys.set i .aborted
  | .active (.done _) journal =>
    { sys.set i .committed with
      store := shared.publish (replay (shared.view i sys.store) journal) }
  | _ => sys

lemma Shared.advance_leads [Fintype ι] [DecidableEq κ] (shared : Shared ι σ τ ω κ)
    (sys : System ι σ τ ω ε α) (i : ι) : shared.Leads sys (shared.advance sys i) := by
  unfold advance
  split
  · rename_i hi
    exact .single (.look hi)
  · rename_i w next journal hi
    split
    · rename_i hkey
      refine .single (.write hi fun k hk => ?_)
      exact nomatch hkey.symm.trans hk
    · rename_i k hkey
      split
      · rename_i htaken
        exact .single (.refuse hi hkey htaken)
      split
      · rename_i htaken hfree
        refine .single (.write hi fun k' hk' => ?_)
        obtain rfl := Option.some.inj (hkey.symm.trans hk')
        refine ⟨htaken, fun j hj hholds => ?_⟩
        rw [holds_iff, hfree j hj] at hholds
        cases hholds
      · exact .refl
  · rename_i hi
    exact .single (.abort hi)
  · rename_i hi
    exact .single (.commit hi)
  · exact .refl

lemma Shared.advance_all_leads [Fintype ι] [DecidableEq κ] (shared : Shared ι σ τ ω κ)
    (schedule : List ι) (sys : System ι σ τ ω ε α) :
    shared.Leads sys (schedule.foldl shared.advance sys) := by
  induction schedule generalizing sys with
  | nil => exact .refl
  | cons i schedule ih => exact (shared.advance_leads sys i).trans (ih (shared.advance sys i))

end steps

namespace Script

variable {τ ω ε α β : Type}
variable {x : Script τ ω ε α} {f : α → Script τ ω ε β}

/-- Whatever a script reads among the visible states, it writes harmless actions only, and a value
that it returns satisfies the predicate. -/
def Ensures (visible : τ → Prop) (harmless : ω → Prop) (Q : α → Prop) :
    Script τ ω ε α → Prop
  | .done a => Q a
  | .fail _ => True
  | .look next => ∀ s, visible s → (next s).Ensures visible harmless Q
  | .write w next => harmless w ∧ next.Ensures visible harmless Q

/-- A script that cannot return before it has written an action with the claim, and that writes
harmless actions only until then. -/
def Claims (visible : τ → Prop) (harmless claim : ω → Prop) : Script τ ω ε α → Prop
  | .done _ => False
  | .fail _ => True
  | .look next => ∀ s, visible s → (next s).Claims visible harmless claim
  | .write w next => claim w ∨ harmless w ∧ next.Claims visible harmless claim

variable {visible : τ → Prop} {harmless claim : ω → Prop}

lemma ensures_pure {Q : α → Prop} {a : α} (h : Q a) :
    (pure a : Script τ ω ε α).Ensures visible harmless Q :=
  h

lemma ensures_bind {P : α → Prop} {Q : β → Prop} (hx : x.Ensures visible harmless P)
    (hf : ∀ a, P a → (f a).Ensures visible harmless Q) :
    (x >>= f).Ensures visible harmless Q := by
  change (x.andThen f).Ensures visible harmless Q
  induction x with
  | done a => exact hf a hx
  | fail e => exact trivial
  | look next ih => exact fun s hs => ih s (hx s hs)
  | write w next ih => exact ⟨hx.1, ih hx.2⟩

lemma claims_bind {P : α → Prop} (hx : x.Ensures visible harmless P)
    (hf : ∀ a, P a → (f a).Claims visible harmless claim) :
    (x >>= f).Claims visible harmless claim := by
  change (x.andThen f).Claims visible harmless claim
  induction x with
  | done a => exact hf a hx
  | fail e => exact trivial
  | look next ih => exact fun s hs => ih s (hx s hs)
  | write w next ih => exact .inr ⟨hx.1, ih hx.2⟩

lemma claims_bind_left (hx : x.Claims visible harmless claim) :
    (x >>= f).Claims visible harmless claim := by
  change (x.andThen f).Claims visible harmless claim
  induction x with
  | done a => exact hx.elim
  | fail e => exact trivial
  | look next ih => exact fun s hs => ih s (hx s hs)
  | write w next ih =>
    rcases hx with hclaim | ⟨hw, hnext⟩
    · exact .inl hclaim
    · exact .inr ⟨hw, ih hnext⟩

lemma ensures_of_emits (hx : x.Emits harmless) :
    x.Ensures visible harmless fun _ => True := by
  induction x with
  | done a => exact trivial
  | fail e => exact trivial
  | look next ih => exact fun s _ => ih s (hx s)
  | write w next ih => exact ⟨hx.1, ih hx.2⟩

lemma ensures_read : (read : Script τ ω ε τ).Ensures visible harmless visible :=
  fun _ hs => hs

lemma ensures_require {condition : Bool} {e : ε} :
    (require condition e : Script τ ω ε Unit).Ensures visible harmless
      fun _ => condition = true := by
  cases condition with
  | false => exact trivial
  | true => exact rfl

lemma ensures_expect {value : Option α} {e : ε} :
    (expect value e : Script τ ω ε α).Ensures visible harmless fun a => value = some a := by
  cases value with
  | none => exact trivial
  | some a => exact rfl

end Script

section contest

variable {ι σ τ ω κ ε α : Type} [DecidableEq ι] [Replay τ ω]

def Shared.published (shared : Shared ι σ τ ω κ) (start : σ) (i : ι) (journal : List ω) : σ :=
  shared.publish (replay (shared.view i start) journal)

/-- Transactions that all need one key. The states that a transaction sees before it has the key
are visible ones, before and after the first of them commits, and the winner takes the key. -/
structure Contest (shared : Shared ι σ τ ω κ) (start : σ) (scripts : ι → Script τ ω ε α) (k : κ)
    (visible : τ → Prop) (harmless : ω → Prop) : Prop where
  claims : ∀ i, (scripts i).Claims visible harmless fun w => shared.key w = some k
  sees : ∀ i journal, (∀ w ∈ journal, harmless w) →
    visible (replay (shared.view i start) journal)
  takes : ∀ i a written, (scripts i).Returns (shared.view i start) written a →
    shared.taken (shared.published start i written) k = true
  sees_after : ∀ i a written, (scripts i).Returns (shared.view i start) written a →
    ∀ j journal, (∀ w ∈ journal, harmless w) →
      visible (replay (shared.view j (shared.published start i written)) journal)

namespace Contest

variable {shared : Shared ι σ τ ω κ} {start : σ} {scripts : ι → Script τ ω ε α} {k : κ}
  {visible : τ → Prop} {harmless : ω → Prop} {sys sys' : System ι σ τ ω ε α}

/-- A transaction that does not have the key. -/
def Waiting (shared : Shared ι σ τ ω κ) (k : κ) (visible : τ → Prop) (harmless : ω → Prop) :
    Thread τ ω ε α → Prop
  | .active rest journal => rest.Claims visible harmless (fun w => shared.key w = some k) ∧
      ∀ w ∈ journal, harmless w
  | .committed => False
  | .aborted => True

/-- Nobody has committed. Every transaction is where it would be if it ran alone, and at most one
of them has the key. -/
structure Open (shared : Shared ι σ τ ω κ) (start : σ) (scripts : ι → Script τ ω ε α) (k : κ)
    (visible : τ → Prop) (harmless : ω → Prop) (sys : System ι σ τ ω ε α) : Prop where
  store_eq : sys.store = start
  alone : ∀ i rest journal, sys.threads i = .active rest journal →
    (scripts i).run (shared.view i start) =
      (journal ++ (rest.run (replay (shared.view i start) journal)).1,
        (rest.run (replay (shared.view i start) journal)).2)
  phase : ∀ i, Waiting shared k visible harmless (sys.threads i) ∨
    (sys.threads i).Holds shared.key k
  holder : ∀ i j, (sys.threads i).Holds shared.key k → (sys.threads j).Holds shared.key k → i = j

/-- One transaction has committed what it does alone, and no other one has the key. -/
structure Closed (shared : Shared ι σ τ ω κ) (start : σ) (scripts : ι → Script τ ω ε α) (k : κ)
    (visible : τ → Prop) (harmless : ω → Prop) (sys : System ι σ τ ω ε α) (winner : ι) :
    Prop where
  result : ∃ a written, (scripts winner).Returns (shared.view winner start) written a ∧
    sys.store = shared.published start winner written
  committed : sys.threads winner = .committed
  others : ∀ i, i ≠ winner → Waiting shared k visible harmless (sys.threads i)

omit [DecidableEq ι] [Replay τ ω] in
lemma holds_write {w : ω} {next : Script τ ω ε α} {journal : List ω} :
    (Thread.active next (journal ++ [w])).Holds shared.key k ↔
      (Thread.active (.write w next) journal).Holds shared.key k ∨ shared.key w = some k := by
  simp only [Thread.Holds, List.mem_append, List.mem_singleton]
  constructor
  · rintro ⟨w', hw' | rfl, hkey⟩
    · exact .inl ⟨w', hw', hkey⟩
    · exact .inr hkey
  · rintro (⟨w', hw', hkey⟩ | hkey)
    · exact ⟨w', .inl hw', hkey⟩
    · exact ⟨w, .inr rfl, hkey⟩

omit [DecidableEq ι] in
lemma open_initial (h : Contest shared start scripts k visible harmless) :
    Open shared start scripts k visible harmless (.initial start scripts) where
  store_eq := rfl
  alone i rest journal hi := by
    cases hi
    rfl
  phase i := .inl ⟨h.claims i, fun w hw => absurd hw List.not_mem_nil⟩
  holder i j hi := by
    obtain ⟨w, hw, -⟩ := hi
    exact absurd hw List.not_mem_nil

/-- A step of one transaction that leaves the store alone, and that gives it the key only if no
other one has it. -/
lemma Open.set (h : Open shared start scripts k visible harmless sys) {i : ι}
    {thread : Thread τ ω ε α}
    (halone : ∀ rest journal, thread = .active rest journal →
      (scripts i).run (shared.view i start) =
        (journal ++ (rest.run (replay (shared.view i start) journal)).1,
          (rest.run (replay (shared.view i start) journal)).2))
    (hphase : Waiting shared k visible harmless thread ∨ thread.Holds shared.key k)
    (hholder : thread.Holds shared.key k → (sys.threads i).Holds shared.key k ∨
      ∀ j, j ≠ i → ¬(sys.threads j).Holds shared.key k) :
    Open shared start scripts k visible harmless (sys.set i thread) where
  store_eq := h.store_eq
  alone j rest journal hj := by
    by_cases hij : j = i
    · subst hij
      rw [System.threads_set_self] at hj
      exact halone rest journal hj
    · rw [System.threads_set_of_ne hij] at hj
      exact h.alone j rest journal hj
  phase j := by
    by_cases hij : j = i
    · subst hij
      rw [System.threads_set_self]
      exact hphase
    · rw [System.threads_set_of_ne hij]
      exact h.phase j
  holder j l hj hl := by
    by_cases hij : j = i <;> by_cases hil : l = i
    · rw [hij, hil]
    · subst hij
      rw [System.threads_set_self] at hj
      rw [System.threads_set_of_ne hil] at hl
      rcases hholder hj with hold | hfree
      · exact h.holder _ _ hold hl
      · exact absurd hl (hfree l hil)
    · subst hil
      rw [System.threads_set_of_ne hij] at hj
      rw [System.threads_set_self] at hl
      rcases hholder hl with hold | hfree
      · exact h.holder _ _ hj hold
      · exact absurd hj (hfree j hij)
    · rw [System.threads_set_of_ne hij] at hj
      rw [System.threads_set_of_ne hil] at hl
      exact h.holder j l hj hl

/-- Before the first commit a transaction runs as if it were alone. -/
theorem Open.step (hcontest : Contest shared start scripts k visible harmless)
    (h : Open shared start scripts k visible harmless sys) (hstep : shared.Step sys sys') :
    Open shared start scripts k visible harmless sys' ∨
      ∃ winner, Closed shared start scripts k visible harmless sys' winner := by
  cases hstep with
  | @look i next journal hi =>
    refine .inl (h.set ?_ ?_ ?_)
    · intro rest journal' heq
      cases heq
      rw [h.store_eq]
      exact h.alone i (.look next) journal hi
    · have hphase := h.phase i
      rw [hi] at hphase
      rcases hphase with ⟨hclaims, hharmless⟩ | hholds
      · refine .inl ⟨hclaims _ ?_, hharmless⟩
        rw [h.store_eq]
        exact hcontest.sees i journal hharmless
      · exact .inr hholds
    · intro hholds
      rw [hi]
      exact .inl hholds
  | @write i w next journal hi hfree =>
    refine .inl (h.set ?_ ?_ ?_)
    · intro rest journal' heq
      cases heq
      rw [h.alone i _ _ hi, replay_append]
      simp [run]
    · by_cases hkey : shared.key w = some k
      · exact .inr (holds_write.mpr (.inr hkey))
      have hphase := h.phase i
      rw [hi] at hphase
      rcases hphase with ⟨hclaims, hharmless⟩ | hholds
      · obtain ⟨hw, hclaims⟩ := hclaims.resolve_left hkey
        refine .inl ⟨hclaims, fun w' hw' => ?_⟩
        rcases List.mem_append.mp hw' with hold | hnew
        · exact hharmless w' hold
        · rw [List.mem_singleton.mp hnew]
          exact hw
      · exact .inr (holds_write.mpr (.inl hholds))
    · intro hholds
      rw [hi]
      rcases holds_write.mp hholds with hold | hkey
      · exact .inl hold
      · exact .inr (hfree k hkey).2
  | refuse hi =>
    refine .inl (h.set ?_ (.inl trivial) fun hholds => hholds.elim)
    intro rest journal' heq
    cases heq
  | abort hi =>
    refine .inl (h.set ?_ (.inl trivial) fun hholds => hholds.elim)
    intro rest journal' heq
    cases heq
  | @commit i a journal hi =>
    have halone := h.alone i _ _ hi
    simp only [run, List.append_nil] at halone
    -- A transaction that is done has the key, so no other one has it.
    have hholds : (sys.threads i).Holds shared.key k := by
      rcases h.phase i with hwaiting | hholds
      · rw [hi] at hwaiting
        exact hwaiting.1.elim
      · exact hholds
    refine .inr ⟨i, ⟨a, journal, halone, ?_⟩, System.threads_set_self sys i _, fun j hij => ?_⟩
    · change shared.publish (replay (shared.view i sys.store) journal) = _
      rw [h.store_eq]
      rfl
    · change Waiting shared k visible harmless ((sys.set i .committed).threads j)
      rw [System.threads_set_of_ne hij]
      exact (h.phase j).resolve_right fun hj => hij (h.holder j i hj hholds)

lemma Closed.set {winner : ι} (h : Closed shared start scripts k visible harmless sys winner)
    {i : ι} {thread : Thread τ ω ε α} (hi : i ≠ winner)
    (hwaiting : Waiting shared k visible harmless thread) :
    Closed shared start scripts k visible harmless (sys.set i thread) winner where
  result := h.result
  committed := by
    rw [System.threads_set_of_ne (Ne.symm hi)]
    exact h.committed
  others j hj := by
    by_cases hij : j = i
    · rw [hij, System.threads_set_self]
      exact hwaiting
    · rw [System.threads_set_of_ne hij]
      exact h.others j hj

/-- After the first commit the key is taken, so every other transaction waits for it in vain. -/
theorem Closed.step (hcontest : Contest shared start scripts k visible harmless) {winner : ι}
    (h : Closed shared start scripts k visible harmless sys winner)
    (hstep : shared.Step sys sys') :
    Closed shared start scripts k visible harmless sys' winner := by
  obtain ⟨a, written, hreturns, hstore⟩ := h.result
  have hne : ∀ {i rest journal}, sys.threads i = .active rest journal → i ≠ winner := by
    rintro i rest journal hi rfl
    exact nomatch h.committed.symm.trans hi
  cases hstep with
  | @look i next journal hi =>
    have hwaiting := h.others i (hne hi)
    rw [hi] at hwaiting
    refine h.set (hne hi) ⟨hwaiting.1 _ ?_, hwaiting.2⟩
    rw [hstore]
    exact hcontest.sees_after winner a written hreturns i journal hwaiting.2
  | @write i w next journal hi hfree =>
    have hwaiting := h.others i (hne hi)
    rw [hi] at hwaiting
    have hkey : shared.key w ≠ some k := by
      intro hkey
      have hfree := (hfree k hkey).1
      rw [hstore] at hfree
      exact hfree (hcontest.takes winner a written hreturns)
    obtain ⟨hw, hclaims⟩ := hwaiting.1.resolve_left hkey
    refine h.set (hne hi) ⟨hclaims, fun w' hw' => ?_⟩
    rcases List.mem_append.mp hw' with hold | hnew
    · exact hwaiting.2 w' hold
    · rw [List.mem_singleton.mp hnew]
      exact hw
  | refuse hi => exact h.set (hne hi) trivial
  | abort hi => exact h.set (hne hi) trivial
  | @commit i _ journal hi =>
    have hwaiting := h.others i (hne hi)
    rw [hi] at hwaiting
    exact hwaiting.1.elim

/-- Whatever the interleaving, nobody has committed or exactly one transaction has, and it has
committed what it does alone. -/
theorem outcome (hcontest : Contest shared start scripts k visible harmless)
    (h : shared.Leads (.initial start scripts) sys) :
    Open shared start scripts k visible harmless sys ∨
      ∃ winner, Closed shared start scripts k visible harmless sys winner := by
  induction h with
  | refl => exact .inl hcontest.open_initial
  | tail _ hstep ih =>
    rcases ih with hopen | ⟨winner, hclosed⟩
    · exact hopen.step hcontest hstep
    · exact .inr ⟨winner, hclosed.step hcontest hstep⟩

omit [DecidableEq ι] in
lemma Open.not_committed (h : Open shared start scripts k visible harmless sys) (i : ι) :
    sys.threads i ≠ .committed := by
  intro hi
  have hphase := h.phase i
  rw [hi] at hphase
  exact hphase.elim id id

lemma Closed.eq_winner {winner i : ι}
    (h : Closed shared start scripts k visible harmless sys winner)
    (hi : sys.threads i = .committed) : i = winner := by
  by_contra hne
  have hwaiting := h.others i hne
  rw [hi] at hwaiting
  exact hwaiting

/-- At most one transaction commits. -/
theorem commits_unique (hcontest : Contest shared start scripts k visible harmless)
    (h : shared.Leads (.initial start scripts) sys) {i j : ι}
    (hi : sys.threads i = .committed) (hj : sys.threads j = .committed) : i = j := by
  rcases hcontest.outcome h with hopen | ⟨winner, hclosed⟩
  · exact absurd hi (hopen.not_committed i)
  · rw [hclosed.eq_winner hi, hclosed.eq_winner hj]

end Contest

end contest

end QhapaqXian.Library
