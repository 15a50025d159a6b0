import Mathlib.Logic.Relation
import QhapaqXian.Library.Rows
import QhapaqXian.Lifecycle

/-!
# Invariants of the life of a task

What every step of the abstract model keeps: the pointers of a task name rows of that task,
attempts and steps are numbered without gaps, and a finished task stays as it is.
-/

namespace QhapaqXian

open Library

namespace TaskView

/-- The rows of a task fit together. -/
structure Sound (view : TaskView) : Prop where
  orphans : view.task = none → view = .empty
  current : ∀ task, view.task = some task → ∃ earlier last, view.Current task earlier last
  attempts_nodup : (view.attempts.map AttemptRow.oid).Nodup
  seqnos_nodup : (view.attempts.map AttemptRow.seqno).Nodup
  checkpoints_nodup : (view.checkpoints.map CheckpointRow.oid).Nodup
  pointer : ∀ task, view.task = some task → task.lastcheckpointid ≠ invalidOid →
    ∃ checkpoint ∈ view.checkpoints, checkpoint.oid = task.lastcheckpointid
  checkpointed : ∀ task, view.task = some task → task.state = .checkpointed →
    task.lastcheckpointid ≠ invalidOid
  owner : ∀ task, view.task = some task → ∀ attempt ∈ view.attempts,
    task.state ≠ .completed ∨ attempt.state = .running → attempt.ownerid = task.ownerid

lemma sound_empty : empty.Sound where
  orphans _ := rfl
  current _ h := nomatch h
  attempts_nodup := List.nodup_nil
  seqnos_nodup := List.nodup_nil
  checkpoints_nodup := List.nodup_nil
  pointer _ h := nomatch h
  checkpointed _ h := nomatch h
  owner _ h := nomatch h

end TaskView

namespace RecoveryStep

variable {scope : Oid → Prop} {view view' : TaskView}

lemma rows_eq (h : RecoveryStep scope view view') :
    view' = { view with queues := view'.queues, leases := view'.leases } := by
  cases h <;> rfl

lemma mono {scope' : Oid → Prop} (h : RecoveryStep scope view view')
    (hscope : ∀ ownerid, scope ownerid → scope' ownerid) : RecoveryStep scope' view view' := by
  cases h with
  | enqueue htask hin hattempt horigin hqueue =>
    exact .enqueue htask (hscope _ hin) hattempt horigin hqueue
  | fence htask hin hattempt hrunning hlease =>
    exact .fence htask (hscope _ hin) hattempt hrunning hlease

lemma task_isSome (h : RecoveryStep scope view view') : ∃ task, view.task = some task := by
  cases h with
  | enqueue htask => exact ⟨_, htask⟩
  | fence htask => exact ⟨_, htask⟩

end RecoveryStep

namespace TaskView.Sound

variable {view : TaskView}

lemma task_of_lease (h : view.Sound) {lease : LeaseRow} (hlease : lease ∈ view.leases) :
    ∃ task, view.task = some task := by
  cases htask : view.task with
  | none =>
    rw [h.orphans htask] at hlease
    cases hlease
  | some task => exact ⟨task, rfl⟩

lemma ledgers (h : view.Sound) {task : TaskRow} (htask : view.task = some task)
    (queues : List QueueRow) (leases : List LeaseRow) :
    TaskView.Sound { view with queues := queues, leases := leases } where
  orphans hnone := nomatch htask.symm.trans hnone
  current task htask := by
    obtain ⟨earlier, last, hcurrent⟩ := h.current task htask
    exact ⟨earlier, last, hcurrent.task_eq, hcurrent.attempts_eq, hcurrent.last_eq⟩
  attempts_nodup := h.attempts_nodup
  seqnos_nodup := h.seqnos_nodup
  checkpoints_nodup := h.checkpoints_nodup
  pointer := h.pointer
  checkpointed := h.checkpointed
  owner := h.owner

variable {task task' : TaskRow} {earlier : List AttemptRow} {last attempt : AttemptRow}
  {checkpoints : List CheckpointRow}

lemma settle (h : view.Sound) (hcurrent : view.Current task earlier last) {state : AttemptState}
    (hunfinished : task.state ≠ .completed) (hlast : task'.lastattemptid = last.oid)
    (howner : task'.ownerid = task.ownerid)
    (hnodup : (checkpoints.map CheckpointRow.oid).Nodup)
    (hpointer : task'.lastcheckpointid ≠ invalidOid →
      ∃ checkpoint ∈ checkpoints, checkpoint.oid = task'.lastcheckpointid)
    (hcheckpointed : task'.state = .checkpointed → task'.lastcheckpointid ≠ invalidOid)
    (steps : List StepRow) (queues : List QueueRow) (leases : List LeaseRow)
    (charges : List Charge) :
    TaskView.Sound ⟨some task', earlier ++ [last.setState state], steps, checkpoints, queues, leases,
      charges⟩ where
  orphans hnone := nomatch hnone
  current row hrow := by
    obtain rfl := Option.some.inj hrow
    exact ⟨earlier, last.setState state, rfl, rfl, hlast⟩
  attempts_nodup := by
    have hnodup := h.attempts_nodup
    rw [hcurrent.attempts_eq, List.map_append] at hnodup
    rw [List.map_append]
    exact hnodup
  seqnos_nodup := by
    have hnodup := h.seqnos_nodup
    rw [hcurrent.attempts_eq, List.map_append] at hnodup
    rw [List.map_append]
    exact hnodup
  checkpoints_nodup := hnodup
  pointer row hrow hvalid := by
    obtain rfl := Option.some.inj hrow
    exact hpointer hvalid
  checkpointed row hrow := by
    obtain rfl := Option.some.inj hrow
    exact hcheckpointed
  owner row hrow other hother _ := by
    obtain rfl := Option.some.inj hrow
    rw [howner]
    rcases List.mem_append.mp hother with hold | hnew
    · refine h.owner task hcurrent.task_eq other ?_ (.inl hunfinished)
      rw [hcurrent.attempts_eq]
      exact List.mem_append_left _ hold
    · rw [List.mem_singleton.mp hnew]
      refine h.owner task hcurrent.task_eq last ?_ (.inl hunfinished)
      rw [hcurrent.attempts_eq]
      exact List.mem_append_right _ (List.mem_singleton.mpr rfl)

lemma proceed (h : view.Sound) (hcurrent : view.Current task earlier last)
    (hfollows : attempt.Follows last view) (hlast : task'.lastattemptid = attempt.oid)
    (howner : task'.ownerid = task.ownerid)
    (hunfinished : task.state ≠ .completed)
    (hattempt : task'.state ≠ .completed ∨ attempt.state = .running →
      attempt.ownerid = task.ownerid)
    (hnodup : (checkpoints.map CheckpointRow.oid).Nodup)
    (hpointer : task'.lastcheckpointid ≠ invalidOid →
      ∃ checkpoint ∈ checkpoints, checkpoint.oid = task'.lastcheckpointid)
    (hstate : task'.state ≠ .checkpointed)
    (steps : List StepRow) (queues : List QueueRow) (leases : List LeaseRow)
    (charges : List Charge) :
    TaskView.Sound ⟨some task', view.attempts ++ [attempt], steps, checkpoints, queues, leases,
      charges⟩ where
  orphans hnone := nomatch hnone
  current row hrow := by
    obtain rfl := Option.some.inj hrow
    exact ⟨view.attempts, attempt, rfl, rfl, hlast⟩
  attempts_nodup := nodup_map_concat h.attempts_nodup hfollows.fresh
  seqnos_nodup := nodup_map_concat h.seqnos_nodup hfollows.unused
  checkpoints_nodup := hnodup
  pointer row hrow hvalid := by
    obtain rfl := Option.some.inj hrow
    exact hpointer hvalid
  checkpointed row hrow hchecked := by
    obtain rfl := Option.some.inj hrow
    exact absurd hchecked hstate
  owner row hrow other hother hopen := by
    obtain rfl := Option.some.inj hrow
    rw [howner]
    rcases List.mem_append.mp hother with hold | hnew
    · exact h.owner task hcurrent.task_eq other hold (.inl hunfinished)
    · obtain rfl := List.mem_singleton.mp hnew
      exact hattempt hopen

end TaskView.Sound

lemma RecoveryStep.sound {scope : Oid → Prop} {view view' : TaskView}
    (h : RecoveryStep scope view view') (hsound : view.Sound) : view'.Sound := by
  obtain ⟨task, htask⟩ := h.task_isSome
  rw [h.rows_eq]
  exact hsound.ledgers htask _ _

lemma TaskRow.chargeAll_eq (charges : List Charge) (row : TaskRow) :
    row.chargeAll charges =
      { row with
        consumedTokens := (row.chargeAll charges).consumedTokens
        consumedCost := (row.chargeAll charges).consumedCost } := by
  induction charges generalizing row with
  | nil => rfl
  | cons charge charges ih => exact ih (row.charge charge.tokens charge.cost)

lemma TaskRow.ownerid_chargeAll (charges : List Charge) (row : TaskRow) :
    (row.chargeAll charges).ownerid = row.ownerid := by
  rw [TaskRow.chargeAll_eq]

namespace TaskStep

variable {inputs : Inputs} {view view' : TaskView}

theorem sound (h : TaskStep inputs view view') (hsound : view.Sound) : view'.Sound := by
  cases h with
  | @launch task attempt step queue lease _ hstate hlast hcheckpoint _ _ _ _ howner _ _ _ =>
    exact {
      orphans := fun hnone => nomatch hnone
      current := fun row hrow => by
        obtain rfl := Option.some.inj hrow
        exact ⟨[], attempt, rfl, rfl, hlast⟩
      attempts_nodup := List.nodup_singleton _
      seqnos_nodup := List.nodup_singleton _
      checkpoints_nodup := List.nodup_nil
      pointer := fun row hrow hvalid => by
        obtain rfl := Option.some.inj hrow
        exact absurd hcheckpoint hvalid
      checkpointed := fun row hrow hchecked => by
        obtain rfl := Option.some.inj hrow
        rw [hstate] at hchecked
        cases hchecked
      owner := fun row hrow other hother _ => by
        obtain rfl := Option.some.inj hrow
        rw [List.mem_singleton.mp hother]
        exact howner }
  | @capture _ task earlier last steps checkpoint lease charges hcurrent hstate _ _ _ hvalid hfresh =>
    apply hsound.settle hcurrent
    · exact fun hdone => nomatch hstate.symm.trans hdone
    · rfl
    · exact TaskRow.ownerid_chargeAll charges task
    · exact nodup_map_concat hsound.checkpoints_nodup hfresh
    · intro _
      exact ⟨checkpoint, List.mem_append_right _ (List.mem_singleton.mpr rfl), rfl⟩
    · intro _
      exact hvalid
  | @reopen _ task _ _ _ _ _ hcurrent hstate _ hfollows _ howner =>
    apply hsound.proceed hcurrent hfollows
    · rfl
    · rfl
    · rcases hstate with hstate | hstate <;> exact fun hdone => nomatch hstate.symm.trans hdone
    · exact fun _ => howner
    · exact hsound.checkpoints_nodup
    · exact fun hvalid => hsound.pointer task hcurrent.task_eq hvalid
    · exact fun hchecked => nomatch hchecked
  | @resume _ task _ _ attempt checkpoint final _ _ _ _ charges hcurrent hstate _ _ hfollows
      hcompleted _ _ hfresh =>
    apply hsound.proceed hcurrent hfollows
    · rfl
    · exact TaskRow.ownerid_chargeAll charges task
    · exact fun hdone => nomatch hstate.symm.trans hdone
    · rintro (hopen | hrunning)
      · exact absurd rfl hopen
      · cases hcompleted.symm.trans hrunning
    · exact nodup_map_concat hsound.checkpoints_nodup hfresh
    · intro _
      exact ⟨final, List.mem_append_right _ (List.mem_singleton.mpr rfl), rfl⟩
    · exact fun hchecked => nomatch hchecked
  | @retry _ task _ _ _ _ _ hcurrent hstate _ _ hfollows _ howner =>
    apply hsound.proceed hcurrent hfollows
    · rfl
    · rfl
    · exact fun hdone => nomatch hstate.symm.trans hdone
    · exact fun _ => howner
    · exact hsound.checkpoints_nodup
    · exact fun hvalid => hsound.pointer task hcurrent.task_eq hvalid
    · exact fun hchecked => nomatch hchecked
  | renew hlease =>
    obtain ⟨task, htask⟩ := hsound.task_of_lease hlease
    exact hsound.ledgers htask _ _
  | @repair _ task _ _ _ _ hcurrent hstate _ hvalid =>
    apply hsound.settle hcurrent
    · exact fun hdone => nomatch hstate.symm.trans hdone
    · rfl
    · rfl
    · exact hsound.checkpoints_nodup
    · exact fun hvalid => hsound.pointer task hcurrent.task_eq hvalid
    · exact fun _ => hvalid
  | failClosed hcurrent hstate =>
    apply hsound.settle hcurrent
    · exact fun hdone => nomatch hstate.symm.trans hdone
    · rfl
    · rfl
    · exact hsound.checkpoints_nodup
    · exact fun hvalid => absurd rfl hvalid
    · exact fun hchecked => nomatch hchecked
  | deadLetter hcurrent hstate =>
    apply hsound.settle hcurrent
    · exact fun hdone => nomatch hstate.symm.trans hdone
    · rfl
    · rfl
    · exact hsound.checkpoints_nodup
    · exact fun hvalid => absurd rfl hvalid
    · exact fun hchecked => nomatch hchecked

end TaskStep

/-- Every task of the catalogs is sound, and no row belongs to a task that does not exist. -/
def Catalog.Sound (cat : Catalog) : Prop :=
  ∀ taskoid, (cat.view taskoid).Sound

/-- Every task has gone through steps of its life. -/
def Catalog.Evolves (cat : Catalog) (inputs : Inputs) (cat' : Catalog) : Prop :=
  ∀ taskoid, Relation.ReflTransGen (TaskStep inputs) (cat.view taskoid) (cat'.view taskoid)

namespace Catalog.Evolves

variable {inputs : Inputs} {cat cat' cat'' : Catalog}

lemma refl (cat : Catalog) : cat.Evolves inputs cat :=
  fun _ => .refl

lemma trans (h : cat.Evolves inputs cat') (h' : cat'.Evolves inputs cat'') :
    cat.Evolves inputs cat'' :=
  fun taskoid => (h taskoid).trans (h' taskoid)

lemma invariant {P : TaskView → Prop}
    (hstep : ∀ {view view'}, TaskStep inputs view view' → P view → P view')
    (h : cat.Evolves inputs cat') (hcat : ∀ taskoid, P (cat.view taskoid)) (taskoid : Oid) :
    P (cat'.view taskoid) := by
  have hrun := h taskoid
  generalize cat'.view taskoid = view' at hrun ⊢
  induction hrun with
  | refl => exact hcat taskoid
  | tail _ hlast ih => exact hstep hlast ih

lemma sound (h : cat.Evolves inputs cat') (hcat : cat.Sound) : cat'.Sound :=
  h.invariant TaskStep.sound hcat

end Catalog.Evolves

/-- The tasks of the owners in a scope have gone through recovery. -/
def Catalog.Recovers (cat : Catalog) (scope : Oid → Prop) (cat' : Catalog) : Prop :=
  ∀ taskoid, Relation.ReflTransGen (RecoveryStep scope) (cat.view taskoid) (cat'.view taskoid)

namespace Catalog.Recovers

variable {scope : Oid → Prop} {cat cat' : Catalog}

lemma refl (cat : Catalog) : cat.Recovers scope cat :=
  fun _ => .refl

lemma mono {scope' : Oid → Prop} (h : cat.Recovers scope cat')
    (hscope : ∀ ownerid, scope ownerid → scope' ownerid) : cat.Recovers scope' cat' :=
  fun taskoid => (h taskoid).lift id fun _ _ hstep => hstep.mono hscope

lemma invariant {P : TaskView → Prop}
    (hstep : ∀ {view view'}, RecoveryStep scope view view' → P view → P view')
    (h : cat.Recovers scope cat') (hcat : ∀ taskoid, P (cat.view taskoid)) (taskoid : Oid) :
    P (cat'.view taskoid) := by
  have hrun := h taskoid
  generalize cat'.view taskoid = view' at hrun ⊢
  induction hrun with
  | refl => exact hcat taskoid
  | tail _ hlast ih => exact hstep hlast ih

lemma sound (h : cat.Recovers scope cat') (hcat : cat.Sound) : cat'.Sound :=
  h.invariant RecoveryStep.sound hcat

lemma view_eq (h : cat.Recovers scope cat') (taskoid : Oid) :
    cat'.view taskoid = { cat.view taskoid with
      queues := (cat'.view taskoid).queues, leases := (cat'.view taskoid).leases } := by
  have hrun := h taskoid
  generalize cat'.view taskoid = view' at hrun ⊢
  induction hrun with
  | refl => rfl
  | tail _ hlast ih =>
    rw [hlast.rows_eq]
    rw [ih]

end Catalog.Recovers

def countUp (n : Nat) : List Int :=
  (List.range n).map fun i : Nat => (i : Int) + 1

lemma countUp_add (m n : Nat) :
    countUp (m + n) = countUp m ++ (List.range n).map fun i : Nat => (m : Int) + 1 + i := by
  unfold countUp
  rw [List.range_add, List.map_append, List.map_map]
  congr 1
  refine List.map_congr_left fun i _ => ?_
  simp only [Function.comp_apply]
  omega

lemma countUp_succ (n : Nat) : countUp (n + 1) = countUp n ++ [(n : Int) + 1] := by
  rw [countUp_add]
  simp

lemma foldl_max_countUp (n : Nat) : (countUp n).foldl max 0 = (n : Int) := by
  induction n with
  | zero => rfl
  | succ n ih =>
    rw [countUp_succ, List.foldl_append, ih]
    simp only [List.foldl_cons, List.foldl_nil]
    omega

namespace TaskView

/-- The numbers that a task has given out, as long as they fit into an `int16`: attempts and steps
are counted from one, and an unfinished task resumes at the number after its last step. -/
structure Numbered (view : TaskView) : Prop where
  attempts : view.attempts.length < 2 ^ 15 →
    view.attempts.map AttemptRow.seqno = countUp view.attempts.length
  steps : view.steps.length < 2 ^ 15 →
    view.steps.map StepRow.seqno = countUp view.steps.length
  next : view.steps.length + 1 < 2 ^ 15 → ∀ task, view.task = some task →
    task.state ≠ .completed → task.lastcheckpointid ≠ invalidOid →
    ∀ checkpoint ∈ view.checkpoints, checkpoint.oid = task.lastcheckpointid →
      checkpoint.nextStepSeqno = view.steps.length + 1

lemma numbered_empty : empty.Numbered where
  attempts _ := rfl
  steps _ := rfl
  next _ _ h := nomatch h

namespace Numbered

variable {view : TaskView}

lemma nextStep_eq (h : view.Numbered) (hlen : view.steps.length < 2 ^ 15) :
    view.nextStep = view.steps.length + 1 := by
  rw [nextStep, h.steps hlen, foldl_max_countUp]

lemma attempts_follow (h : view.Numbered) {earlier : List AttemptRow} {last attempt : AttemptRow}
    (hattempts : view.attempts = earlier ++ [last])
    (hseqno : attempt.seqno = wrapInt16 (last.seqno + 1))
    (hlen : (view.attempts ++ [attempt]).length < 2 ^ 15) :
    (view.attempts ++ [attempt]).map AttemptRow.seqno =
      countUp (view.attempts ++ [attempt]).length := by
  rw [List.length_append, List.length_singleton] at hlen ⊢
  have hold := h.attempts (by omega)
  have hlast : last.seqno = view.attempts.length := by
    rw [hattempts, List.map_append, List.length_append, List.length_singleton, countUp_succ] at hold
    rw [hattempts, List.length_append, List.length_singleton]
    have hsingle := List.append_inj_right' hold rfl
    simpa using hsingle
  have hnew : attempt.seqno = (view.attempts.length : Int) + 1 := by
    rw [hseqno, hlast, wrapInt16_of_range] <;> omega
  rw [List.map_append, hold, countUp_succ, List.map_singleton, hnew]

lemma attempts_settle (h : view.Numbered) {earlier : List AttemptRow} {last : AttemptRow}
    (hattempts : view.attempts = earlier ++ [last]) {state : AttemptState}
    (hlen : (earlier ++ [last.setState state]).length < 2 ^ 15) :
    (earlier ++ [last.setState state]).map AttemptRow.seqno =
      countUp (earlier ++ [last.setState state]).length := by
  have hold := h.attempts
  rw [hattempts] at hold
  simp only [List.map_append, List.length_append, List.length_singleton] at hold hlen ⊢
  exact hold hlen

lemma steps_extend (h : view.Numbered) {steps : List StepRow}
    (hsteps : NumberedFrom view.nextStep steps)
    (hlen : (view.steps ++ steps).length < 2 ^ 15) :
    (view.steps ++ steps).map StepRow.seqno = countUp (view.steps ++ steps).length := by
  rw [List.length_append] at hlen ⊢
  have hshort : view.steps.length < 2 ^ 15 := by omega
  rw [NumberedFrom, h.nextStep_eq hshort] at hsteps
  have hnumbers : steps.map StepRow.seqno =
      (List.range steps.length).map fun i : Nat => (view.steps.length : Int) + 1 + i := by
    refine hsteps.trans (List.map_congr_left fun i hi => ?_)
    have hlt := List.mem_range.mp hi
    rw [wrapInt16_of_range] <;> omega
  rw [List.map_append, h.steps hshort, hnumbers, countUp_add]

end Numbered

end TaskView

namespace TaskStep

variable {inputs : Inputs} {view view' : TaskView}

lemma resume_numbers {steps : List StepRow} {n : Nat} {next : Int} (hnext : next = n + 1)
    (hsteps : steps.map StepRow.seqno = [next, wrapInt16 (next + 1), wrapInt16 (next + 2)])
    (hlen : n + 3 < 2 ^ 15) : NumberedFrom next steps := by
  have hthree : steps.length = 3 := by
    rw [← List.length_map (f := StepRow.seqno), hsteps]
    rfl
  rw [NumberedFrom, hsteps, hthree]
  have hfirst : wrapInt16 (next + (0 : Nat)) = next := by
    rw [wrapInt16_of_range] <;> omega
  simp only [List.range_succ, List.range_zero, List.nil_append, List.cons_append, List.map_cons,
    List.map_nil, hfirst]
  rfl

theorem numbered (h : TaskStep inputs view view') (hsound : view.Sound) (hnum : view.Numbered) :
    view'.Numbered := by
  cases h with
  | @launch task attempt step queue lease _ hstate _ hcheckpoint _ hseqno _ _ _ hstep _ _ =>
    refine ⟨fun _ => ?_, fun _ => ?_, fun _ row hrow _ hvalid => ?_⟩
    · simp [countUp, hseqno]
    · simp [countUp, hstep]
    · obtain rfl := Option.some.inj hrow
      exact absurd hcheckpoint hvalid
  | @capture _ task earlier last steps checkpoint lease charges hcurrent _ _ hsteps hnext hvalid
      hfresh =>
    refine ⟨fun hlen => hnum.attempts_settle hcurrent.attempts_eq hlen,
      fun hlen => hnum.steps_extend hsteps hlen, fun hlen row hrow _ _ other hother hoid => ?_⟩
    obtain rfl := Option.some.inj hrow
    rcases List.mem_append.mp hother with hold | hnew
    · have hsame : other.oid = checkpoint.oid := hoid
      exact absurd (hsame ▸ List.mem_map_of_mem hold) hfresh
    · rw [List.length_append] at hlen ⊢
      rw [List.mem_singleton.mp hnew, hnext, hnum.nextStep_eq (by omega), wrapInt16_of_range] <;>
        omega
  | @reopen _ task _ _ _ _ _ hcurrent hstate hvalid hfollows =>
    refine ⟨fun hlen => hnum.attempts_follow hcurrent.attempts_eq hfollows.seqno hlen, hnum.steps,
      fun hlen row hrow _ _ => ?_⟩
    obtain rfl := Option.some.inj hrow
    refine hnum.next hlen task hcurrent.task_eq ?_ hvalid
    rcases hstate with hstate | hstate <;> rw [hstate] <;> decide
  | @resume _ task _ _ attempt checkpoint final steps _ _ _ charges hcurrent hstate hcheckpoint
      hpointer hfollows _ hsteps =>
    refine ⟨fun hlen => hnum.attempts_follow hcurrent.attempts_eq hfollows.seqno hlen,
      fun hlen => ?_, fun hlen row hrow hcompleted => ?_⟩
    · have hthree : steps.length = 3 := by
        rw [← List.length_map (f := StepRow.seqno), hsteps]
        rfl
      rw [List.length_append, hthree] at hlen
      have hnext := hnum.next (by omega) task hcurrent.task_eq (by rw [hstate]; decide)
        (hsound.checkpointed task hcurrent.task_eq hstate) checkpoint hcheckpoint hpointer
      refine hnum.steps_extend ?_ (by rw [List.length_append, hthree]; omega)
      rw [hnum.nextStep_eq (by omega), ← hnext]
      exact resume_numbers hnext hsteps hlen
    · obtain rfl := Option.some.inj hrow
      exact absurd rfl hcompleted
  | @retry _ task _ _ _ _ _ hcurrent _ hinvalid _ hfollows =>
    refine ⟨fun hlen => hnum.attempts_follow hcurrent.attempts_eq hfollows.seqno hlen, hnum.steps,
      fun hlen row hrow _ hvalid => ?_⟩
    obtain rfl := Option.some.inj hrow
    exact absurd hinvalid hvalid
  | renew => exact ⟨hnum.attempts, hnum.steps, hnum.next⟩
  | @repair _ task _ _ _ _ hcurrent hstate _ hvalid =>
    refine ⟨fun hlen => hnum.attempts_settle hcurrent.attempts_eq hlen, hnum.steps,
      fun hlen row hrow _ _ => ?_⟩
    obtain rfl := Option.some.inj hrow
    exact hnum.next hlen task hcurrent.task_eq (by rw [hstate]; decide) hvalid
  | failClosed hcurrent =>
    refine ⟨fun hlen => hnum.attempts_settle hcurrent.attempts_eq hlen, hnum.steps,
      fun hlen row hrow _ hvalid => ?_⟩
    obtain rfl := Option.some.inj hrow
    exact absurd rfl hvalid
  | deadLetter hcurrent =>
    refine ⟨fun hlen => hnum.attempts_settle hcurrent.attempts_eq hlen, hnum.steps,
      fun hlen row hrow _ hvalid => ?_⟩
    obtain rfl := Option.some.inj hrow
    exact absurd rfl hvalid

lemma numbered_of_recovery {scope : Oid → Prop} (h : RecoveryStep scope view view')
    (hnum : view.Numbered) : view'.Numbered := by
  rw [h.rows_eq]
  exact ⟨hnum.attempts, hnum.steps, hnum.next⟩

/-- No step starts from a finished task, except that a renewal appends to its leases. -/
theorem finished (h : TaskStep inputs view view') {task : TaskRow} (htask : view.task = some task)
    (hdone : task.state = .completed ∨ task.state = .failed) : view'.task = some task := by
  have hstate : ∀ {other : TaskRow} {state : TaskState}, view.task = some other →
      other.state = state → state ≠ .completed → state ≠ .failed → False := by
    intro other state hother hstate hcompleted hfailed
    obtain rfl := Option.some.inj (htask.symm.trans hother)
    rcases hdone with hdone | hdone
    · exact hcompleted (hstate.symm.trans hdone)
    · exact hfailed (hstate.symm.trans hdone)
  cases h with
  | launch => cases htask
  | capture hcurrent h => exact (hstate hcurrent.task_eq h (by decide) (by decide)).elim
  | reopen hcurrent h =>
    rcases h with h | h <;> exact (hstate hcurrent.task_eq h (by decide) (by decide)).elim
  | resume hcurrent h => exact (hstate hcurrent.task_eq h (by decide) (by decide)).elim
  | retry hcurrent h => exact (hstate hcurrent.task_eq h (by decide) (by decide)).elim
  | renew => exact htask
  | repair hcurrent h => exact (hstate hcurrent.task_eq h (by decide) (by decide)).elim
  | failClosed hcurrent h => exact (hstate hcurrent.task_eq h (by decide) (by decide)).elim
  | deadLetter hcurrent h => exact (hstate hcurrent.task_eq h (by decide) (by decide)).elim

end TaskStep

end QhapaqXian
