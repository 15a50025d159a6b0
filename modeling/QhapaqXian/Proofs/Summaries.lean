import QhapaqXian.Proofs.Requeue

/-!
# Recovery summaries and the order of the heap

The summary of a task is folded over the attempts and then over the checkpoints that a scan lists.
The first pass settles on the last listed attempt with the largest number.
-/

namespace QhapaqXian

open Library

variable {attempt : AttemptRow} {checkpoint : CheckpointRow} {attempts : List AttemptRow}

/-! ## The pass over the attempts -/

/-- Which attempt the pass holds after one more. The first one needs a number that is not negative,
unless the row of the task points to no attempt. -/
def settle (pointer : Oid) (chosen : Option AttemptRow) (attempt : AttemptRow) :
    Option AttemptRow :=
  match chosen with
  | none => if !oidIsValid pointer || decide (0 ≤ attempt.seqno) then some attempt else none
  | some best => if best.seqno ≤ attempt.seqno then some attempt else some best

def settledAttempt (pointer : Oid) (attempts : List AttemptRow) : Option AttemptRow :=
  attempts.foldl (settle pointer) none

/-- The attempt may be settled on: no other one in the list that may be has a larger number. -/
structure Leading (pointer : Oid) (attempts : List AttemptRow) (attempt : AttemptRow) : Prop where
  mem : attempt ∈ attempts
  counts : oidIsValid pointer = true → 0 ≤ attempt.seqno
  largest : ∀ other ∈ attempts, other.seqno ≤ attempt.seqno

section settle

variable {pointer : Oid} {attempts attempts' : List AttemptRow} {attempt : AttemptRow}

lemma settledAttempt_concat (pointer : Oid) (attempts : List AttemptRow) (attempt : AttemptRow) :
    settledAttempt pointer (attempts ++ [attempt]) =
      settle pointer (settledAttempt pointer attempts) attempt := by
  rw [settledAttempt, List.foldl_append]
  rfl

lemma settledAttempt_eq_none :
    settledAttempt pointer attempts = none →
      ∀ attempt ∈ attempts, oidIsValid pointer = true ∧ attempt.seqno < 0 := by
  induction attempts using List.reverseRecOn with
  | nil => nofun
  | append_singleton attempts last ih =>
    rw [settledAttempt_concat]
    intro h attempt hattempt
    cases hchosen : settledAttempt pointer attempts with
    | none =>
      rw [hchosen, settle] at h
      split at h
      · cases h
      rename_i hcounts
      rcases List.mem_append.mp hattempt with hold | hnew
      · exact ih hchosen attempt hold
      · rw [List.mem_singleton.mp hnew]
        simpa using hcounts
    | some best =>
      rw [hchosen, settle] at h
      split at h <;> cases h

lemma leading_of_settled {chosen : AttemptRow} :
    settledAttempt pointer attempts = some chosen → Leading pointer attempts chosen := by
  induction attempts using List.reverseRecOn generalizing chosen with
  | nil => nofun
  | append_singleton attempts last ih =>
    rw [settledAttempt_concat]
    intro h
    have hlast : last ∈ attempts ++ [last] := List.mem_append_right _ (List.mem_singleton.mpr rfl)
    cases hchosen : settledAttempt pointer attempts with
    | none =>
      have hnone := settledAttempt_eq_none hchosen
      rw [hchosen, settle] at h
      split at h
      · rename_i hcounts
        obtain rfl := Option.some.inj h
        simp only [Bool.or_eq_true, Bool.not_eq_true', decide_eq_true_eq] at hcounts
        refine ⟨hlast, fun hvalid => ?_, fun other hother => ?_⟩
        · exact hcounts.resolve_left (by simp [hvalid])
        · rcases List.mem_append.mp hother with hold | hnew
          · obtain ⟨hvalid, hneg⟩ := hnone other hold
            have hnonneg := hcounts.resolve_left (by simp [hvalid])
            omega
          · rw [List.mem_singleton.mp hnew]
      · cases h
    | some best =>
      have hbest := ih hchosen
      rw [hchosen, settle] at h
      split at h
      · rename_i hle
        obtain rfl := Option.some.inj h
        refine ⟨hlast, fun hvalid => (hbest.counts hvalid).trans hle, fun other hother => ?_⟩
        rcases List.mem_append.mp hother with hold | hnew
        · exact (hbest.largest other hold).trans hle
        · rw [List.mem_singleton.mp hnew]
      · rename_i hgt
        obtain rfl := Option.some.inj h
        refine ⟨List.mem_append_left _ hbest.mem, hbest.counts, fun other hother => ?_⟩
        rcases List.mem_append.mp hother with hold | hnew
        · exact hbest.largest other hold
        · rw [List.mem_singleton.mp hnew]
          omega

lemma settled_of_leading_last
    (h : Leading pointer (attempts ++ [attempt]) attempt) :
    settledAttempt pointer (attempts ++ [attempt]) = some attempt := by
  rw [settledAttempt_concat]
  cases hchosen : settledAttempt pointer attempts with
  | none =>
    refine if_pos ?_
    cases hvalid : oidIsValid pointer with
    | false => rfl
    | true => simpa using h.counts hvalid
  | some best =>
    have hmem := List.mem_append_left [attempt] (leading_of_settled hchosen).mem
    exact if_pos (h.largest best hmem)

lemma Leading.of_perm (h : Leading pointer attempts attempt) (hperm : attempts.Perm attempts') :
    Leading pointer attempts' attempt :=
  ⟨hperm.mem_iff.mp h.mem, h.counts, fun other hother => h.largest other (hperm.mem_iff.mpr hother)⟩

/-- With at most one leading attempt the order of the list does not matter. -/
lemma settledAttempt_perm (hperm : attempts.Perm attempts')
    (hunique : ∀ a b, Leading pointer attempts a → Leading pointer attempts b → a = b) :
    settledAttempt pointer attempts' = settledAttempt pointer attempts := by
  cases hchosen : settledAttempt pointer attempts with
  | none =>
    cases hchosen' : settledAttempt pointer attempts' with
    | none => rfl
    | some other =>
      have hother := leading_of_settled hchosen'
      obtain ⟨hvalid, hneg⟩ := settledAttempt_eq_none hchosen other (hperm.mem_iff.mpr hother.mem)
      have hcounts := hother.counts hvalid
      omega
  | some best =>
    have hbest := leading_of_settled hchosen
    cases hchosen' : settledAttempt pointer attempts' with
    | none =>
      obtain ⟨hvalid, hneg⟩ := settledAttempt_eq_none hchosen' best (hperm.mem_iff.mp hbest.mem)
      have hcounts := hbest.counts hvalid
      omega
    | some other =>
      rw [hunique other best ((leading_of_settled hchosen').of_perm hperm.symm) hbest]

end settle

/-! ## The summary of a task -/

def TaskRow.settledOn (task : TaskRow) (attempts : List AttemptRow) (chosen : Option AttemptRow) :
    TaskSummary :=
  { qxRecoveryTaskSummaryFromCatalog task with
    lastattemptoid := (chosen.map AttemptRow.oid).getD task.lastattemptid
    attemptCount := attempts.length
    nextStepSeqno := (chosen.map AttemptRow.seqno).getD 0
    needsRequeue := attempts.any (·.state == .checkpointed)
    needsFence := chosen.any (·.state == .running) }

def TaskRow.withAttempts (task : TaskRow) (attempts : List AttemptRow) : TaskSummary :=
  task.settledOn attempts (settledAttempt task.lastattemptid attempts)

def TaskSummary.withCheckpoints (summary : TaskSummary) (checkpoints : List CheckpointRow) :
    TaskSummary :=
  let last := checkpoints.getLast?
  { summary with
    checkpointCount := summary.checkpointCount + checkpoints.length
    lastcheckpointoid := (last.map CheckpointRow.oid).getD summary.lastcheckpointoid
    nextStepSeqno := (last.map CheckpointRow.nextStepSeqno).getD summary.nextStepSeqno
    hasSemanticLsn := (last.map (·.lsn != 0)).getD summary.hasSemanticLsn
    semanticLsn := (last.map CheckpointRow.lsn).getD summary.semanticLsn
    needsRequeue := summary.needsRequeue || checkpoints.any (·.taskState == .checkpointed) }

lemma withAttempt_settledOn {task : TaskRow} {chosen : Option AttemptRow}
    (hvalid : ∀ best ∈ chosen, oidIsValid best.oid = true) (htask : attempt.taskoid = task.oid) :
    (task.settledOn attempts chosen).withAttempt attempt =
      task.settledOn (attempts ++ [attempt]) (settle task.lastattemptid chosen attempt) := by
  have hcount : ((attempts ++ [attempt]).length : Int) = attempts.length + 1 := by simp
  have hany : (attempts ++ [attempt]).any (·.state == .checkpointed) =
      (attempts.any (·.state == .checkpointed) || attempt.state == .checkpointed) := by simp
  have hif : attempt.taskoid = (task.settledOn attempts chosen).taskoid := htask
  rw [TaskSummary.withAttempt, if_pos hif]
  cases chosen with
  | none =>
    rw [TaskRow.settledOn, TaskRow.settledOn, settle, hcount, hany]
    by_cases hcounts : (!oidIsValid task.lastattemptid || decide (0 ≤ attempt.seqno)) = true
    · rw [if_pos hcounts]
      exact if_pos hcounts
    · rw [if_neg hcounts]
      exact if_neg hcounts
  | some best =>
    have hbest := hvalid best rfl
    rw [TaskRow.settledOn, TaskRow.settledOn, settle, hcount, hany]
    by_cases hle : best.seqno ≤ attempt.seqno
    · rw [if_pos hle]
      exact if_pos (by simpa [hbest] using hle)
    · rw [if_neg hle]
      exact if_neg (by simpa [hbest] using hle)

lemma withAttempts_eq {task : TaskRow}
    (hvalid : ∀ attempt ∈ attempts, oidIsValid attempt.oid = true) :
    qxRecoveryUpdateTaskWithAttempts (qxRecoveryTaskSummaryFromCatalog task) attempts =
      task.withAttempts (attempts.filter fun attempt => decide (attempt.taskoid = task.oid)) := by
  unfold qxRecoveryUpdateTaskWithAttempts
  induction attempts using List.reverseRecOn with
  | nil => rfl
  | append_singleton attempts attempt ih =>
    have hearlier := fun other hother => hvalid other (List.mem_append_left _ hother)
    rw [List.foldl_append, ih hearlier, List.filter_append, List.foldl_cons, List.foldl_nil]
    by_cases htask : attempt.taskoid = task.oid
    · rw [List.filter_cons_of_pos (by simpa using htask), List.filter_nil]
      rw [TaskRow.withAttempts, TaskRow.withAttempts, settledAttempt_concat]
      refine withAttempt_settledOn (fun best hbest => ?_) htask
      exact hearlier best (List.mem_filter.mp (leading_of_settled hbest).mem).1
    · rw [List.filter_cons_of_neg (by simpa using htask), List.filter_nil, List.append_nil,
        TaskSummary.withAttempt]
      exact if_neg htask

lemma withCheckpoints_eq (summary : TaskSummary) (checkpoints : List CheckpointRow) :
    qxRecoveryUpdateTaskWithCheckpoints summary checkpoints = summary.withCheckpoints
      (checkpoints.filter fun checkpoint => decide (checkpoint.taskoid = summary.taskoid)) := by
  unfold qxRecoveryUpdateTaskWithCheckpoints
  induction checkpoints using List.reverseRecOn with
  | nil => simp [TaskSummary.withCheckpoints]
  | append_singleton checkpoints checkpoint ih =>
    rw [List.foldl_append, ih, List.filter_append, List.foldl_cons, List.foldl_nil]
    by_cases htask : checkpoint.taskoid = summary.taskoid
    · rw [List.filter_cons_of_pos (by simpa using htask), List.filter_nil,
        TaskSummary.withCheckpoint]
      refine (if_pos htask).trans ?_
      simp [TaskSummary.withCheckpoints, Bool.or_assoc, Int.add_assoc]
    · rw [List.filter_cons_of_neg (by simpa using htask), List.filter_nil, List.append_nil,
        TaskSummary.withCheckpoint]
      exact if_neg htask

/-! ## Orders of a scan -/

section orders

variable {cat : Catalog} {ownerid : Oid} {task : TaskRow} (env : Env)

def Catalog.listedAttempts (cat : Catalog) (env : Env) (ownerid taskoid : Oid) : List AttemptRow :=
  (cat.buildAttemptInfoList env ownerid).filter fun attempt => decide (attempt.taskoid = taskoid)

def Catalog.listedCheckpoints (cat : Catalog) (env : Env) (ownerid taskoid : Oid) :
    List CheckpointRow :=
  (cat.buildCheckpointInfoList env ownerid).filter fun checkpoint =>
    decide (checkpoint.taskoid = taskoid)

/-- The summary of a task, with the two passes written out. -/
theorem taskSummary_eq (cat : Catalog) (ownerid : Oid) (task : TaskRow) :
    taskSummary cat env ownerid task =
      ((task.withAttempts (cat.listedAttempts env ownerid task.oid)).withCheckpoints
        (cat.listedCheckpoints env ownerid task.oid)).withLedgers cat ownerid := by
  have hvalid : ∀ attempt ∈ cat.buildAttemptInfoList env ownerid,
      oidIsValid attempt.oid = true := by
    intro attempt hattempt
    obtain ⟨hmem, -⟩ := mem_buildAttemptInfoList.mp hattempt
    exact oidIsValid_of_mem_attempts (List.mem_map_of_mem (mem_view_attempts.mpr ⟨hmem, rfl⟩))
  dsimp only [taskSummary]
  rw [withAttempts_eq hvalid, withCheckpoints_eq]
  rfl

def Catalog.checkpointsOf (cat : Catalog) (ownerid taskoid : Oid) : List CheckpointRow :=
  (cat.view taskoid).checkpoints.filter fun checkpoint =>
    Catalog.ownerMatches ownerid checkpoint.ownerid

lemma listedAttempts_perm (cat : Catalog) (ownerid taskoid : Oid) :
    (cat.listedAttempts env ownerid taskoid).Perm (cat.attemptsOf ownerid taskoid) := by
  have hscan := env.scan.attempts_perm cat.attempts.rows
  refine ((hscan.filter _).filter _).trans (List.Perm.of_eq ?_)
  rw [Catalog.attemptsOf, Catalog.view, List.filter_filter, List.filter_filter]
  refine List.filter_congr fun attempt _ => ?_
  exact Bool.and_comm ..

lemma listedCheckpoints_perm (cat : Catalog) (ownerid taskoid : Oid) :
    (cat.listedCheckpoints env ownerid taskoid).Perm (cat.checkpointsOf ownerid taskoid) := by
  have hscan := env.scan.checkpoints_perm cat.checkpoints.rows
  refine ((hscan.filter _).filter _).trans (List.Perm.of_eq ?_)
  rw [Catalog.checkpointsOf, Catalog.view, List.filter_filter, List.filter_filter]
  refine List.filter_congr fun checkpoint _ => ?_
  exact Bool.and_comm ..

/-- A scan that meets one attempt and one checkpoint at the end of its heap. -/
def ScanOrder.ending (attemptoid checkpointoid : Oid) : ScanOrder where
  tasks := id
  tasks_perm := List.Perm.refl
  attempts rows := rows.filter (!·.oid == attemptoid) ++ rows.filter (·.oid == attemptoid)
  attempts_perm rows := by
    have hperm := List.filter_append_perm (fun row : AttemptRow => row.oid == attemptoid) rows
    exact List.perm_append_comm.trans hperm
  checkpoints rows := rows.filter (!·.oid == checkpointoid) ++ rows.filter (·.oid == checkpointoid)
  checkpoints_perm rows := by
    have hperm := List.filter_append_perm (fun row : CheckpointRow => row.oid == checkpointoid) rows
    exact List.perm_append_comm.trans hperm

lemma filter_ident_eq {ρ : Type} [Identified ρ] {table : Table ρ} {row : ρ}
    (h : row ∈ table.rows) : table.rows.filter (ident · == ident row) = [row] := by
  have hall : ∀ other ∈ table.rows.filter (ident · == ident row), other = row := by
    intro other hother
    obtain ⟨hmem, hident⟩ := List.mem_filter.mp hother
    exact Table.eq_of_ident_eq hmem h (beq_iff_eq.mp hident)
  have hrow : row ∈ table.rows.filter (ident · == ident row) :=
    List.mem_filter.mpr ⟨h, beq_self_eq_true _⟩
  have hnodup : (table.rows.filter (ident · == ident row)).Nodup :=
    (List.Nodup.of_map _ table.nodup).filter _
  rw [List.eq_replicate_of_mem hall] at hnodup hrow ⊢
  have hle := List.nodup_replicate.mp hnodup
  have hne : (table.rows.filter (ident · == ident row)).length ≠ 0 := by
    intro hzero
    rw [hzero] at hrow
    cases hrow
  rw [show (table.rows.filter (ident · == ident row)).length = 1 by omega]
  rfl

lemma listedAttempts_ending (checkpointoid : Oid) (h : attempt ∈ cat.attemptsOf ownerid task.oid) :
    ∃ before, cat.listedAttempts { env with scan := .ending attempt.oid checkpointoid } ownerid
      task.oid = before ++ [attempt] := by
  obtain ⟨hview, howner⟩ := List.mem_filter.mp h
  obtain ⟨hrow, htask⟩ := List.mem_filter.mp hview
  have hlast : cat.attempts.rows.filter (·.oid == attempt.oid) = [attempt] := filter_ident_eq hrow
  rw [Catalog.listedAttempts, Catalog.buildAttemptInfoList]
  dsimp only [ScanOrder.ending]
  rw [hlast, List.filter_append, List.filter_append, List.filter_cons_of_pos (by exact howner),
    List.filter_nil, List.filter_cons_of_pos (by exact htask), List.filter_nil]
  exact ⟨_, rfl⟩

lemma listedCheckpoints_ending (attemptoid : Oid)
    (h : checkpoint ∈ cat.checkpointsOf ownerid task.oid) :
    ∃ before, cat.listedCheckpoints { env with scan := .ending attemptoid checkpoint.oid } ownerid
      task.oid = before ++ [checkpoint] := by
  obtain ⟨hview, howner⟩ := List.mem_filter.mp h
  obtain ⟨hrow, htask⟩ := List.mem_filter.mp hview
  have hlast : cat.checkpoints.rows.filter (·.oid == checkpoint.oid) = [checkpoint] :=
    filter_ident_eq hrow
  rw [Catalog.listedCheckpoints, Catalog.buildCheckpointInfoList]
  dsimp only [ScanOrder.ending]
  rw [hlast, List.filter_append, List.filter_append, List.filter_cons_of_pos (by exact howner),
    List.filter_nil, List.filter_cons_of_pos (by exact htask), List.filter_nil]
  exact ⟨_, rfl⟩

lemma summary_lastattemptoid_ending (checkpointoid : Oid)
    (h : Leading task.lastattemptid (cat.attemptsOf ownerid task.oid) attempt) :
    (taskSummary cat { env with scan := .ending attempt.oid checkpointoid } ownerid
      task).lastattemptoid = attempt.oid := by
  obtain ⟨before, hbefore⟩ := listedAttempts_ending env checkpointoid h.mem
  have hperm := listedAttempts_perm { env with scan := .ending attempt.oid checkpointoid } cat
    ownerid task.oid
  have hleading := h.of_perm hperm.symm
  rw [hbefore] at hleading
  rw [taskSummary_eq, hbefore]
  change (((settledAttempt task.lastattemptid (before ++ [attempt])).map AttemptRow.oid).getD
    task.lastattemptid) = attempt.oid
  rw [settled_of_leading_last hleading]
  rfl

lemma summary_lastcheckpointoid_ending (attemptoid : Oid)
    (h : checkpoint ∈ cat.checkpointsOf ownerid task.oid) :
    (taskSummary cat { env with scan := .ending attemptoid checkpoint.oid } ownerid
      task).lastcheckpointoid = checkpoint.oid := by
  obtain ⟨before, hbefore⟩ := listedCheckpoints_ending env attemptoid h
  rw [taskSummary_eq, hbefore]
  change (((before ++ [checkpoint]).getLast?.map CheckpointRow.oid).getD _) = checkpoint.oid
  rw [List.getLast?_concat]
  rfl

end orders

/-! ## When the summary does not depend on the order -/

/-- The summary of a task is the same in every order of the heap, and what it says about a
checkpoint is what the checkpoint says that the row of the task points to. -/
structure SummaryFaithful (cat : Catalog) (env : Env) (ownerid : Oid) (task : TaskRow) : Prop where
  same : ∀ scan scan', taskSummary cat { env with scan := scan } ownerid task =
    taskSummary cat { env with scan := scan' } ownerid task
  pointed : ∀ scan checkpoint,
    cat.lookupCheckpointByOid task.lastcheckpointid = some checkpoint →
      (taskSummary cat { env with scan := scan } ownerid task).lastcheckpointoid =
        checkpoint.oid ∧
      (taskSummary cat { env with scan := scan } ownerid task).nextStepSeqno =
        checkpoint.nextStepSeqno ∧
      (taskSummary cat { env with scan := scan } ownerid task).hasSemanticLsn =
        (checkpoint.lsn != 0) ∧
      (taskSummary cat { env with scan := scan } ownerid task).semanticLsn = checkpoint.lsn

/-- The number that the pass over the attempts leaves. -/
def LeadingNumber (pointer : Oid) (attempts : List AttemptRow) (number : Int) : Prop :=
  (∃ attempt, Leading pointer attempts attempt ∧ attempt.seqno = number) ∨
    (∀ attempt, ¬Leading pointer attempts attempt) ∧ number = 0

/-- One attempt at most leads, one checkpoint at most is listed, and it is the one that the row of
the task points to. Where none is listed, the number of the leading attempt and a missing position
in the log have to agree with the checkpoint that the row points to. -/
structure SummaryDetermined (cat : Catalog) (ownerid : Oid) (task : TaskRow) : Prop where
  attempts : ∀ a b, Leading task.lastattemptid (cat.attemptsOf ownerid task.oid) a →
    Leading task.lastattemptid (cat.attemptsOf ownerid task.oid) b → a = b
  checkpoints : ∀ c ∈ cat.checkpointsOf ownerid task.oid,
    ∀ c' ∈ cat.checkpointsOf ownerid task.oid, c = c'
  pointer : ∀ checkpoint, cat.lookupCheckpointByOid task.lastcheckpointid = some checkpoint →
    checkpoint ∈ cat.checkpointsOf ownerid task.oid ∨
      cat.checkpointsOf ownerid task.oid = [] ∧ checkpoint.lsn = 0 ∧
        LeadingNumber task.lastattemptid (cat.attemptsOf ownerid task.oid)
          checkpoint.nextStepSeqno

section faithful

variable {cat : Catalog} {env : Env} {ownerid : Oid} {task : TaskRow}

lemma leadingNumber_settled (pointer : Oid) (attempts : List AttemptRow) :
    LeadingNumber pointer attempts
      (((settledAttempt pointer attempts).map AttemptRow.seqno).getD 0) := by
  cases hchosen : settledAttempt pointer attempts with
  | none =>
    refine .inr ⟨fun attempt hattempt => ?_, rfl⟩
    obtain ⟨hvalid, hneg⟩ := settledAttempt_eq_none hchosen attempt hattempt.mem
    have hcounts := hattempt.counts hvalid
    omega
  | some chosen => exact .inl ⟨chosen, leading_of_settled hchosen, rfl⟩

lemma LeadingNumber.unique {pointer : Oid} {m n : Int} (h : LeadingNumber pointer attempts m)
    (h' : LeadingNumber pointer attempts n) : m = n := by
  rcases h with ⟨a, ha, rfl⟩ | ⟨hnone, rfl⟩
  · rcases h' with ⟨b, hb, rfl⟩ | ⟨hnone, -⟩
    · exact le_antisymm (hb.largest a ha.mem) (ha.largest b hb.mem)
    · exact absurd ha (hnone a)
  · rcases h' with ⟨b, hb, -⟩ | ⟨-, rfl⟩
    · exact absurd hb (hnone b)
    · rfl

lemma LeadingNumber.of_perm {pointer : Oid} {attempts' : List AttemptRow} {n : Int}
    (h : LeadingNumber pointer attempts n) (hperm : attempts.Perm attempts') :
    LeadingNumber pointer attempts' n := by
  rcases h with ⟨a, ha, hn⟩ | ⟨hnone, hn⟩
  · exact .inl ⟨a, ha.of_perm hperm, hn⟩
  · exact .inr ⟨fun a ha => hnone a (ha.of_perm hperm.symm), hn⟩

lemma summary_of_no_checkpoint (env : Env) (scan : ScanOrder)
    (hnone : cat.checkpointsOf ownerid task.oid = []) :
    (taskSummary cat { env with scan := scan } ownerid task).lastcheckpointoid =
        task.lastcheckpointid ∧
      LeadingNumber task.lastattemptid (cat.attemptsOf ownerid task.oid)
        (taskSummary cat { env with scan := scan } ownerid task).nextStepSeqno ∧
      (taskSummary cat { env with scan := scan } ownerid task).hasSemanticLsn = false ∧
      (taskSummary cat { env with scan := scan } ownerid task).semanticLsn = 0 := by
  have hlisted : cat.listedCheckpoints { env with scan := scan } ownerid task.oid = [] := by
    have hperm := listedCheckpoints_perm { env with scan := scan } cat ownerid task.oid
    rw [hnone] at hperm
    exact hperm.eq_nil
  rw [taskSummary_eq, hlisted]
  refine ⟨rfl, ?_, rfl, rfl⟩
  exact (leadingNumber_settled _ _).of_perm (listedAttempts_perm _ cat ownerid task.oid)

lemma summary_of_one_checkpoint (scan : ScanOrder)
    (hone : cat.checkpointsOf ownerid task.oid = [checkpoint]) :
    (taskSummary cat { env with scan := scan } ownerid task).lastcheckpointoid = checkpoint.oid ∧
      (taskSummary cat { env with scan := scan } ownerid task).nextStepSeqno =
        checkpoint.nextStepSeqno ∧
      (taskSummary cat { env with scan := scan } ownerid task).hasSemanticLsn =
        (checkpoint.lsn != 0) ∧
      (taskSummary cat { env with scan := scan } ownerid task).semanticLsn = checkpoint.lsn := by
  have hlisted : cat.listedCheckpoints { env with scan := scan } ownerid task.oid =
      [checkpoint] := by
    have hperm := listedCheckpoints_perm { env with scan := scan } cat ownerid task.oid
    rw [hone] at hperm
    exact List.perm_singleton.mp hperm
  rw [taskSummary_eq, hlisted]
  exact ⟨rfl, rfl, rfl, rfl⟩

lemma checkpointsOf_cases (h : ∀ c ∈ cat.checkpointsOf ownerid task.oid,
      ∀ c' ∈ cat.checkpointsOf ownerid task.oid, c = c') :
    cat.checkpointsOf ownerid task.oid = [] ∨ ∃ c, cat.checkpointsOf ownerid task.oid = [c] := by
  have hnodup : (cat.checkpointsOf ownerid task.oid).Nodup :=
    ((List.Nodup.of_map _ cat.checkpoints.nodup).filter _).filter _
  cases hlist : cat.checkpointsOf ownerid task.oid with
  | nil => exact .inl rfl
  | cons c rest =>
    rw [hlist] at h hnodup
    refine .inr ⟨c, ?_⟩
    have hrest : rest = [] := by
      refine List.eq_nil_iff_forall_not_mem.mpr fun c' hc' => ?_
      have hsame := h c List.mem_cons_self c' (List.mem_cons_of_mem _ hc')
      exact (List.nodup_cons.mp hnodup).1 (hsame ▸ hc')
    rw [hrest]

lemma withAttempts_perm {attempts' : List AttemptRow} (hperm : attempts.Perm attempts')
    (hunique : ∀ a b, Leading task.lastattemptid attempts a →
      Leading task.lastattemptid attempts b → a = b) :
    task.withAttempts attempts' = task.withAttempts attempts := by
  have hany : attempts'.any (·.state == .checkpointed) =
      attempts.any (·.state == .checkpointed) := hperm.symm.any_eq
  rw [TaskRow.withAttempts, TaskRow.withAttempts, settledAttempt_perm hperm hunique,
    TaskRow.settledOn, TaskRow.settledOn, hperm.length_eq, hany]

lemma taskSummary_stored (h : SummaryDetermined cat ownerid task) (scan : ScanOrder) :
    taskSummary cat { env with scan := scan } ownerid task =
      ((task.withAttempts (cat.attemptsOf ownerid task.oid)).withCheckpoints
        (cat.checkpointsOf ownerid task.oid)).withLedgers cat ownerid := by
  have hattempts := listedAttempts_perm { env with scan := scan } cat ownerid task.oid
  have hcheckpoints := listedCheckpoints_perm { env with scan := scan } cat ownerid task.oid
  have hlisted : cat.listedCheckpoints { env with scan := scan } ownerid task.oid =
      cat.checkpointsOf ownerid task.oid := by
    rcases checkpointsOf_cases h.checkpoints with hnone | ⟨c, hone⟩
    · rw [hnone] at hcheckpoints ⊢
      exact hcheckpoints.eq_nil
    · rw [hone] at hcheckpoints ⊢
      exact List.perm_singleton.mp hcheckpoints
  rw [taskSummary_eq, hlisted, withAttempts_perm hattempts.symm h.attempts]

/-- A summary is faithful exactly when the rows listed for the task leave nothing to the order. -/
theorem summary_faithful_iff (cat : Catalog) (env : Env) (ownerid : Oid) (task : TaskRow) :
    SummaryFaithful cat env ownerid task ↔ SummaryDetermined cat ownerid task := by
  constructor
  · intro h
    have hcheckpoints : ∀ c ∈ cat.checkpointsOf ownerid task.oid,
        ∀ c' ∈ cat.checkpointsOf ownerid task.oid, c = c' := by
      intro c hc c' hc'
      have hsame := congrArg TaskSummary.lastcheckpointoid
        (h.same (.ending invalidOid c.oid) (.ending invalidOid c'.oid))
      rw [summary_lastcheckpointoid_ending env _ hc,
        summary_lastcheckpointoid_ending env _ hc'] at hsame
      have hrow := (List.mem_filter.mp (List.mem_filter.mp hc).1).1
      have hrow' := (List.mem_filter.mp (List.mem_filter.mp hc').1).1
      exact Table.eq_of_ident_eq hrow hrow' hsame
    refine ⟨?_, hcheckpoints, ?_⟩
    · intro a b ha hb
      have hsame := congrArg TaskSummary.lastattemptoid
        (h.same (.ending a.oid invalidOid) (.ending b.oid invalidOid))
      rw [summary_lastattemptoid_ending env _ ha, summary_lastattemptoid_ending env _ hb] at hsame
      have hrow := (List.mem_filter.mp (List.mem_filter.mp ha.mem).1).1
      have hrow' := (List.mem_filter.mp (List.mem_filter.mp hb.mem).1).1
      exact Table.eq_of_ident_eq hrow hrow' hsame
    · intro checkpoint hlookup
      obtain ⟨hoid, hnumber, -, hlsn⟩ := h.pointed .stored checkpoint hlookup
      rcases checkpointsOf_cases hcheckpoints with hnone | ⟨c, hone⟩
      · obtain ⟨-, hleading, -, hzero⟩ := summary_of_no_checkpoint env .stored hnone
        rw [hlsn] at hzero
        rw [hnumber] at hleading
        exact .inr ⟨hnone, hzero, hleading⟩
      · left
        have hc : c ∈ cat.checkpointsOf ownerid task.oid := by
          rw [hone]
          exact List.mem_singleton.mpr rfl
        have hrow := (List.mem_filter.mp (List.mem_filter.mp hc).1).1
        have hpointed := (Table.find?_eq_some_iff.mp hlookup).1
        rw [(summary_of_one_checkpoint .stored hone).1] at hoid
        rw [← Table.eq_of_ident_eq hrow hpointed hoid]
        exact hc
  · intro h
    refine ⟨fun scan scan' => ?_, fun scan checkpoint hlookup => ?_⟩
    · rw [taskSummary_stored h, taskSummary_stored h]
    have hpointer := (Table.find?_eq_some_iff.mp hlookup).2
    rcases h.pointer checkpoint hlookup with hmem | ⟨hnone, hlsn, hnumber⟩
    · rcases checkpointsOf_cases h.checkpoints with hnone | ⟨c, hone⟩
      · rw [hnone] at hmem
        cases hmem
      · have hc : checkpoint = c := by
          rw [hone] at hmem
          exact List.mem_singleton.mp hmem
        rw [hc]
        exact summary_of_one_checkpoint scan hone
    · obtain ⟨hoid, hleading, hflag, hzero⟩ := summary_of_no_checkpoint env scan hnone
      refine ⟨hoid.trans hpointer.symm, hleading.unique hnumber, ?_, ?_⟩
      · rw [hflag, hlsn]
        rfl
      · rw [hzero, hlsn]

end faithful

/-- A task that was run and resumed has two checkpoints; a scan that meets the older one last
reports it, although the row of the task points to the other. -/
theorem demoCompleted_summary_unfaithful :
    demoCompleted.Reachable ∧ ∃ task ∈ demoCompleted.catalog.tasks.rows,
      task.lastcheckpointid = 2 ∧
      (taskSummary demoCompleted.catalog (demoEnv 3000) 10 task).lastcheckpointoid = 2 ∧
      (taskSummary demoCompleted.catalog { demoEnv 3000 with scan := .ending 2 1 } 10
        task).lastcheckpointoid = 1 ∧
      ¬SummaryFaithful demoCompleted.catalog (demoEnv 3000) 10 task := by
  have hrun : demoCompleted.catalog.tasks.rows.map (fun task => (task.lastcheckpointid,
      (taskSummary demoCompleted.catalog (demoEnv 3000) 10 task).lastcheckpointoid,
      (taskSummary demoCompleted.catalog { demoEnv 3000 with scan := .ending 2 1 } 10
        task).lastcheckpointoid)) = [(2, 2, 1)] := by
    decide +kernel
  refine ⟨World.reachable_run demoAgents _, ?_⟩
  obtain ⟨task, htasks, hfields⟩ := List.map_eq_singleton_iff.mp hrun
  simp only [Prod.mk.injEq] at hfields
  obtain ⟨hpointer, hstored, hother⟩ := hfields
  have hmem : task ∈ demoCompleted.catalog.tasks.rows := by
    rw [htasks]
    exact List.mem_singleton.mpr rfl
  refine ⟨task, hmem, hpointer, hstored, hother, fun hfaithful => ?_⟩
  have hsame := congrArg TaskSummary.lastcheckpointoid (hfaithful.same .stored (.ending 2 1))
  rw [hother] at hsame
  exact absurd (hstored.symm.trans hsame) (by decide)

end QhapaqXian
