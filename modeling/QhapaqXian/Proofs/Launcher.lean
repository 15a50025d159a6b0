import QhapaqXian.Launcher
import QhapaqXian.Library.Runs
import QhapaqXian.Proofs.OwnerSlots

/-!
# One owner for each task

A database's tasks are split among its workers by slot, so two of its workers own a task in common
only when they hold the same slot or count the slots differently. The launcher avoids both among the
workers that it lists.
-/

namespace QhapaqXian

open Library

variable {cluster : Cluster} {slotCount slotIndex : Int}

/-- No two live workers of one database own the task. -/
def Cluster.ExclusiveOn (cluster : Cluster) (taskoid : Oid) : Prop :=
  cluster.liveWorkers.Pairwise fun worker other => worker.key.dboid = other.key.dboid →
    ¬(worker.slot.owns taskoid = true ∧ other.slot.owns taskoid = true)

instance (cluster : Cluster) (taskoid : Oid) : Decidable (cluster.ExclusiveOn taskoid) :=
  inferInstanceAs (Decidable (List.Pairwise _ _))

def Cluster.launchedKey (cluster : Cluster) : LauncherEvent → Option SchedulerWorkerKey
  | .launcherTurns true =>
    match cluster.launcher with
    | .launching slotCount ((target, slotIndex) :: _) workers =>
      if (qxRuntimeFindSchedulerDbWorker workers target.dboid slotIndex).isSome then none
      else some ⟨target.dboid, slotIndex, slotCount⟩
    | _ => none
  | _ => none

def LauncherPhase.listed : LauncherPhase → List SchedulerDbWorker
  | .down => []
  | .waiting workers => workers
  | .pruning _ _ rest aliveWorkers => rest ++ aliveWorkers
  | .launching _ _ workers => workers

/-- The keys are of different databases or of different slots in one division into slots. -/
def SchedulerWorkerKey.Apart (key other : SchedulerWorkerKey) : Prop :=
  key.dboid = other.dboid → key.slotCount = other.slotCount ∧ key.slotIndex ≠ other.slotIndex

instance (key other : SchedulerWorkerKey) : Decidable (key.Apart other) :=
  inferInstanceAs (Decidable (_ → _))

/-- A worker is registered only when the launcher lists every other registered one whose key is not
apart from the new key. -/
def Cluster.LaunchesApart (cluster : Cluster) (event : LauncherEvent) : Prop :=
  ∀ key ∈ cluster.launchedKey event, ∀ worker ∈ cluster.workers,
    (∃ listed ∈ cluster.launcher.listed, listed.handle = worker.handle) ∨ worker.key.Apart key

instance (cluster : Cluster) (event : LauncherEvent) : Decidable (cluster.LaunchesApart event) :=
  inferInstanceAs (Decidable (∀ key ∈ cluster.launchedKey event, _))

/-! ## What the steps keep -/

def BackgroundWorker.identity (worker : BackgroundWorker) : Nat × SchedulerWorkerKey :=
  (worker.handle, worker.key)

def Cluster.registered (cluster : Cluster) : List (Nat × SchedulerWorkerKey) :=
  cluster.workers.map BackgroundWorker.identity

def SchedulerDbWorker.key (worker : SchedulerDbWorker) : SchedulerWorkerKey :=
  ⟨worker.dboid, worker.slotIndex, worker.slotCount⟩

def SchedulerWorkerKey.InRange (key : SchedulerWorkerKey) : Prop :=
  0 ≤ key.slotIndex ∧ key.slotIndex < key.slotCount

/-- The workers kept in the present round have its number of slots, and it launches slots in
range. -/
def LauncherPhase.Current : LauncherPhase → Prop
  | .down | .waiting _ => True
  | .pruning _ slotCount _ aliveWorkers => ∀ worker ∈ aliveWorkers, worker.slotCount = slotCount
  | .launching slotCount rest workers =>
    (∀ slot ∈ rest, 0 ≤ slot.2 ∧ slot.2 < slotCount) ∧
      ∀ worker ∈ workers, worker.slotCount = slotCount

structure Cluster.Sound (cluster : Cluster) : Prop where
  inRange : ∀ entry ∈ cluster.registered, entry.2.InRange
  apart : cluster.registered.Pairwise fun entry other => entry.2.Apart other.2
  registered_lt : ∀ entry ∈ cluster.registered, entry.1 < cluster.nextHandle
  listed_lt : ∀ worker ∈ cluster.launcher.listed, worker.handle < cluster.nextHandle
  listed_key : ∀ worker ∈ cluster.launcher.listed, ∀ entry ∈ cluster.registered,
    worker.handle = entry.1 → worker.key = entry.2
  current : cluster.launcher.Current

lemma Cluster.Sound.of_sublist (h : cluster.Sound) {workers : List BackgroundWorker}
    (hworkers : (workers.map BackgroundWorker.identity).Sublist cluster.registered) :
    ({ cluster with workers := workers } : Cluster).Sound where
  inRange entry hentry := h.inRange entry (hworkers.subset hentry)
  apart := h.apart.sublist hworkers
  registered_lt entry hentry := h.registered_lt entry (hworkers.subset hentry)
  listed_lt := h.listed_lt
  listed_key worker hworker entry hentry :=
    h.listed_key worker hworker entry (hworkers.subset hentry)
  current := h.current

lemma Cluster.Sound.enter (h : cluster.Sound) {phase : LauncherPhase}
    (hlisted : ∀ worker ∈ phase.listed, worker ∈ cluster.launcher.listed)
    (hcurrent : phase.Current) : ({ cluster with launcher := phase } : Cluster).Sound where
  inRange := h.inRange
  apart := h.apart
  registered_lt := h.registered_lt
  listed_lt worker hworker := h.listed_lt worker (hlisted worker hworker)
  listed_key worker hworker := h.listed_key worker (hlisted worker hworker)
  current := hcurrent

lemma Cluster.Sound.changeWorker (h : cluster.Sound) (handle : Nat)
    {change : BackgroundWorker → BackgroundWorker}
    (hchange : ∀ worker, (change worker).identity = worker.identity) :
    (cluster.changeWorker handle change).Sound := by
  have hsame : (cluster.changeWorker handle change).registered = cluster.registered := by
    unfold registered Cluster.changeWorker
    rw [List.map_map]
    apply List.map_congr_left
    intro worker _
    by_cases hhandle : worker.handle = handle
    · simp [hhandle, hchange]
    · simp [hhandle]
  apply h.of_sublist
  rw [← hsame]
  exact List.Sublist.refl _

lemma Cluster.Sound.forgetWorker (h : cluster.Sound) (handle : Nat)
    (gone : BackgroundWorker → Bool) : (cluster.forgetWorker handle gone).Sound :=
  h.of_sublist (List.filter_sublist.map _)

lemma mem_slotIndices :
    slotIndex ∈ slotIndices slotCount ↔ 0 ≤ slotIndex ∧ slotIndex < slotCount := by
  simp only [slotIndices, List.mem_map, List.mem_range]
  constructor
  · rintro ⟨n, hn, rfl⟩
    have : (n : Int) < slotCount := by omega
    exact ⟨Int.natCast_nonneg n, this⟩
  · intro h
    refine ⟨slotIndex.toNat, by omega, ?_⟩
    exact Int.toNat_of_nonneg h.1

lemma SchedulerDbWorker.slotCount_of_present {worker : SchedulerDbWorker}
    {targets : List SchedulerDbTarget} (h : worker.present targets slotCount = true) :
    worker.slotCount = slotCount := by
  simp only [present, List.any_eq_true, Bool.and_eq_true, beq_iff_eq] at h
  obtain ⟨target, -, -, slotIndex, -, -, hcount⟩ := h
  exact hcount

lemma Cluster.Sound.pruneWorker (h : cluster.Sound) {targets : List SchedulerDbTarget}
    {worker : SchedulerDbWorker} {rest aliveWorkers : List SchedulerDbWorker}
    (hphase : cluster.launcher = .pruning targets slotCount (worker :: rest) aliveWorkers) :
    (cluster.pruneWorker targets slotCount worker rest aliveWorkers).Sound := by
  have hcurrent : ∀ kept ∈ aliveWorkers, kept.slotCount = slotCount := by
    simpa only [hphase, LauncherPhase.Current] using h.current
  have hrest : ∀ kept ∈ rest ++ aliveWorkers, kept ∈ cluster.launcher.listed := by
    intro kept hkept
    rw [hphase]
    exact List.mem_cons_of_mem worker hkept
  unfold Cluster.pruneWorker
  split_ifs with hstopped hpresent
  · exact h.enter hrest hcurrent
  · apply h.enter
    · intro kept hkept
      rw [LauncherPhase.listed, ← List.append_assoc, List.mem_append, List.mem_singleton] at hkept
      rcases hkept with hkept | rfl
      · exact hrest kept hkept
      · simp [hphase, LauncherPhase.listed]
    · intro kept hkept
      rw [List.mem_append, List.mem_singleton] at hkept
      rcases hkept with hkept | rfl
      · exact hcurrent kept hkept
      · exact SchedulerDbWorker.slotCount_of_present hpresent
  · have hterminated : (cluster.terminateBackgroundWorker worker.handle).Sound :=
      h.changeWorker worker.handle fun _ => rfl
    exact hterminated.enter hrest hcurrent

lemma Cluster.Sound.register (h : cluster.Sound) {worker : BackgroundWorker}
    {phase : LauncherPhase} (hhandle : worker.handle = cluster.nextHandle)
    (hrange : worker.key.InRange) (hapart : ∀ entry ∈ cluster.registered, entry.2.Apart worker.key)
    (hlisted : ∀ listed ∈ phase.listed, listed ∈ cluster.launcher.listed ∨
      listed.handle = cluster.nextHandle ∧ listed.key = worker.key)
    (hcurrent : phase.Current) :
    ({ cluster with
        workers := cluster.workers ++ [worker]
        nextHandle := cluster.nextHandle + 1
        launcher := phase } : Cluster).Sound := by
  have hregistered : (cluster.workers ++ [worker]).map BackgroundWorker.identity =
      cluster.registered ++ [(cluster.nextHandle, worker.key)] := by
    simp [registered, BackgroundWorker.identity, hhandle]
  have hmem : ∀ entry ∈ (cluster.workers ++ [worker]).map BackgroundWorker.identity,
      entry ∈ cluster.registered ∨ entry = (cluster.nextHandle, worker.key) := by
    intro entry hentry
    rw [hregistered, List.mem_append, List.mem_singleton] at hentry
    exact hentry
  constructor
  · intro entry hentry
    rcases hmem entry hentry with hold | rfl
    · exact h.inRange entry hold
    · exact hrange
  · rw [registered, hregistered, List.pairwise_append]
    refine ⟨h.apart, List.pairwise_singleton _ _, ?_⟩
    intro entry hentry other hother
    rw [List.mem_singleton.mp hother]
    exact hapart entry hentry
  · intro entry hentry
    rcases hmem entry hentry with hold | rfl
    · exact Nat.lt_succ_of_lt (h.registered_lt entry hold)
    · exact Nat.lt_succ_self _
  · intro listed hmember
    rcases hlisted listed hmember with hold | ⟨hnew, -⟩
    · exact Nat.lt_succ_of_lt (h.listed_lt listed hold)
    · exact hnew ▸ Nat.lt_succ_self _
  · intro listed hmember entry hentry hsame
    rcases hlisted listed hmember with hold | ⟨hnew, hkey⟩ <;>
      rcases hmem entry hentry with hentry | rfl
    · exact h.listed_key listed hold entry hentry hsame
    · exact absurd hsame (h.listed_lt listed hold).ne
    · exact absurd (hsame.symm.trans hnew) (h.registered_lt entry hentry).ne
    · exact hkey
  · exact hcurrent

lemma Cluster.Sound.apart_of_launch (h : cluster.Sound) {target : SchedulerDbTarget}
    {rest : List (SchedulerDbTarget × Int)} {workers : List SchedulerDbWorker}
    (hphase : cluster.launcher = .launching slotCount ((target, slotIndex) :: rest) workers)
    (hfind : qxRuntimeFindSchedulerDbWorker workers target.dboid slotIndex = none)
    (hapart : cluster.LaunchesApart (.launcherTurns true)) :
    ∀ entry ∈ cluster.registered, entry.2.Apart ⟨target.dboid, slotIndex, slotCount⟩ := by
  intro entry hentry
  obtain ⟨worker, hworker, rfl⟩ := List.mem_map.mp hentry
  have hkey : cluster.launchedKey (.launcherTurns true) =
      some ⟨target.dboid, slotIndex, slotCount⟩ := by
    simp [launchedKey, hphase, hfind]
  rcases hapart _ hkey worker hworker with ⟨listed, hlisted, hhandle⟩ | hother
  · intro hdatabase
    have hcurrent := h.current
    rw [← h.listed_key listed hlisted _ hentry hhandle] at hdatabase ⊢
    rw [hphase] at hlisted hcurrent
    have hmissing := List.find?_eq_none.mp hfind listed hlisted
    simp only [Bool.and_eq_true, beq_iff_eq, not_and] at hmissing
    exact ⟨hcurrent.2 listed hlisted, hmissing hdatabase⟩
  · exact hother

lemma Cluster.Sound.launchWorker (h : cluster.Sound) {target : SchedulerDbTarget}
    {rest : List (SchedulerDbTarget × Int)} {workers : List SchedulerDbWorker} {registered : Bool}
    (hphase : cluster.launcher = .launching slotCount ((target, slotIndex) :: rest) workers)
    (hapart : cluster.LaunchesApart (.launcherTurns registered)) :
    (cluster.launchWorker slotCount target slotIndex rest workers registered).Sound := by
  have hcurrent := h.current
  rw [hphase, LauncherPhase.Current] at hcurrent
  obtain ⟨hslots, hcounts⟩ := hcurrent
  have hlisted : cluster.launcher.listed = workers := by
    rw [hphase]
    rfl
  have hrest : ∀ slot ∈ rest, 0 ≤ slot.2 ∧ slot.2 < slotCount :=
    fun slot hslot => hslots slot (List.mem_cons_of_mem _ hslot)
  unfold Cluster.launchWorker
  split_ifs with hskip
  · apply h.enter
    · intro worker hworker
      rw [hlisted]
      exact hworker
    · exact ⟨hrest, hcounts⟩
  · simp only [Bool.or_eq_true, Bool.not_eq_true', not_or, Option.not_isSome_iff_eq_none,
      Bool.not_eq_false] at hskip
    obtain ⟨hfind, rfl⟩ := hskip
    apply h.register
    · rfl
    · exact hslots _ List.mem_cons_self
    · exact h.apart_of_launch hphase hfind hapart
    · intro listed hmember
      rw [LauncherPhase.listed, List.mem_append, List.mem_singleton] at hmember
      rw [hlisted]
      rcases hmember with hold | rfl
      · exact Or.inl hold
      · exact Or.inr ⟨rfl, rfl⟩
    · refine ⟨hrest, ?_⟩
      intro listed hmember
      rw [List.mem_append, List.mem_singleton] at hmember
      rcases hmember with hold | rfl
      · exact hcounts listed hold
      · rfl

lemma Cluster.Sound.launcherTurn (h : cluster.Sound) {registered : Bool}
    (hapart : cluster.LaunchesApart (.launcherTurns registered)) :
    (cluster.launcherTurn registered).Sound := by
  unfold Cluster.launcherTurn
  split
  case h_1 => exact h
  case h_2 => exact h
  case h_3 targets slotCount worker rest aliveWorkers hphase => exact h.pruneWorker hphase
  case h_4 targets slotCount aliveWorkers hphase =>
    apply h.enter
    · intro worker hworker
      rw [hphase]
      exact hworker
    · have hcurrent := h.current
      rw [hphase] at hcurrent
      refine ⟨?_, hcurrent⟩
      intro slot hslot
      obtain ⟨target, -, hslot⟩ := List.mem_flatMap.mp hslot
      obtain ⟨slotIndex, hindex, rfl⟩ := List.mem_map.mp hslot
      exact mem_slotIndices.mp hindex
  case h_5 slotCount target slotIndex rest workers hphase => exact h.launchWorker hphase hapart
  case h_6 slotCount workers hphase =>
    apply h.enter
    · intro worker hworker
      rw [hphase]
      exact hworker
    · trivial

lemma Cluster.Sound.stopLauncher (h : cluster.Sound) :
    ({ cluster with launcher := .down } : Cluster).Sound := by
  apply h.enter
  · exact fun _ hworker => absurd hworker List.not_mem_nil
  · trivial

lemma Cluster.Sound.next {cluster : Cluster} (h : cluster.Sound) (event : LauncherEvent)
    (hapart : cluster.LaunchesApart event) : (cluster.next event).Sound := by
  cases event with
  | launcherStarts =>
    simp only [Cluster.next]
    split
    · apply h.enter
      · exact fun _ hworker => absurd hworker List.not_mem_nil
      · trivial
    · exact h
  | launcherExits => exact h.stopLauncher
  | launcherWakes databases slotEnv =>
    simp only [Cluster.next]
    split
    case h_1 workers hphase =>
      apply h.enter
      · intro worker hworker
        rw [LauncherPhase.listed, List.append_nil] at hworker
        rw [hphase]
        exact hworker
      · exact fun _ hworker => absurd hworker List.not_mem_nil
    case h_2 => exact h
  | launcherTurns registered => exact h.launcherTurn hapart
  | workerStarts handle => exact h.changeWorker handle fun _ => rfl
  | workerFails handle =>
    apply h.changeWorker handle
    intro worker
    split <;> rfl
  | workerFinishes handle => exact h.forgetWorker handle _
  | workerForgotten handle => exact h.forgetWorker handle _
  | serverRestarts =>
    have hkept : ({ cluster with
        workers := cluster.workers.map fun worker =>
          { worker with status := .notYetStarted } } : Cluster).Sound := by
      apply h.of_sublist
      rw [List.map_map]
      exact List.Sublist.refl _
    exact hkept.stopLauncher

lemma Cluster.Sound.init (dataDir : Option CString) : (Cluster.init dataDir).Sound where
  inRange _ hentry := absurd hentry List.not_mem_nil
  apart := List.Pairwise.nil
  registered_lt _ hentry := absurd hentry List.not_mem_nil
  listed_lt _ hworker := absurd hworker List.not_mem_nil
  listed_key _ hworker := absurd hworker List.not_mem_nil
  current := trivial

/-! ## The owner of a task -/

lemma BackgroundWorker.owns_iff {worker : BackgroundWorker} (h : worker.key.InRange)
    (taskoid : Oid) : worker.slot.owns taskoid = true ↔
      (ownerMix taskoid : Int) % worker.key.slotCount = worker.key.slotIndex := by
  have hpos : worker.key.slotCount > 0 := lt_of_le_of_lt h.1 h.2
  simp only [slot, if_pos hpos, WorkerSlot.owns]
  exact ownsTask_iff h.1 h.2 taskoid

lemma Cluster.Sound.exclusiveOn (h : cluster.Sound) (taskoid : Oid) :
    cluster.ExclusiveOn taskoid := by
  have hapart : cluster.workers.Pairwise fun worker other => worker.key.Apart other.key := by
    have hentries := h.apart
    rw [registered, List.pairwise_map] at hentries
    exact hentries
  have hrange : ∀ worker ∈ cluster.workers, worker.key.InRange :=
    fun worker hworker => h.inRange _ (List.mem_map_of_mem hworker)
  apply List.Pairwise.sublist List.filter_sublist
  apply hapart.imp_of_mem
  intro worker other hworker hother hkeys hdatabase hboth
  obtain ⟨hcount, hindex⟩ := hkeys hdatabase
  have howner := (BackgroundWorker.owns_iff (hrange worker hworker) taskoid).mp hboth.1
  have hsecond := (BackgroundWorker.owns_iff (hrange other hother) taskoid).mp hboth.2
  rw [hcount] at howner
  exact hindex (howner.symm.trans hsecond)

/-- Where every worker is registered apart, no state of a run has two owners of a task. -/
theorem Cluster.exclusive_of_launchesApart (dataDir : Option CString) (cluster : Cluster)
    (h : RunsTo Cluster.next Cluster.LaunchesApart (Cluster.init dataDir) cluster) :
    ∀ taskoid, cluster.ExclusiveOn taskoid := by
  have hsound : cluster.Sound :=
    h.invariant (Cluster.Sound.init dataDir) fun _ event hold hapart => hold.next event hapart
  exact hsound.exclusiveOn

def launcherDatabases : List DatabaseRow :=
  [⟨5, "postgres".toList, true, false⟩]

def launchRound : List LauncherEvent :=
  [.launcherWakes launcherDatabases none, .launcherTurns true, .launcherTurns true,
    .launcherTurns true, .launcherTurns true]

/-- Both workers run, and the next round of the launcher keeps them. -/
def undisturbedRun : List LauncherEvent :=
  .launcherStarts :: launchRound ++ [.workerStarts 0, .workerStarts 1] ++ launchRound

/-- The launcher exits and is started again; the new one lists no worker and launches all slots. -/
def launcherRestartRun : List LauncherEvent :=
  .launcherStarts :: launchRound ++ [.workerStarts 0, .launcherExits, .launcherStarts] ++
    launchRound ++ [.workerStarts 2]

/-- A worker fails. Before its restart the launcher finds it stopped and launches its slot again. -/
def workerRestartRun : List LauncherEvent :=
  .launcherStarts :: launchRound ++ [.workerStarts 0, .workerFails 0] ++ launchRound ++
    [.launcherTurns true, .workerStarts 0, .workerStarts 2]

/-- The database refuses connections for a round. Its workers are told to terminate, and one still
runs when the next round launches them again. -/
def databaseReturnRun : List LauncherEvent :=
  .launcherStarts :: launchRound ++ [.workerStarts 0, .launcherWakes [] none] ++
    List.replicate 4 (.launcherTurns true) ++ launchRound ++ [.workerStarts 2]

def Cluster.after (run : List LauncherEvent) : Cluster :=
  run.foldl Cluster.next (Cluster.init none)

theorem undisturbedRun_exclusive :
    (Cluster.after undisturbedRun).liveWorkers.length = 2 ∧
      ∀ taskoid, (Cluster.after undisturbedRun).ExclusiveOn taskoid := by
  have hallowed : AllowedAlong Cluster.next Cluster.LaunchesApart (Cluster.init none)
      undisturbedRun := by
    decide +kernel
  exact ⟨by decide +kernel, Cluster.exclusive_of_launchesApart none _ hallowed.runsTo⟩

/-- Each of the three disturbances leaves task 16387 with two live owners. -/
theorem restarted_workers_share_task :
    (RunsTo Cluster.next anyStep (Cluster.init none) (Cluster.after launcherRestartRun) ∧
        ¬(Cluster.after launcherRestartRun).ExclusiveOn 16387) ∧
      (RunsTo Cluster.next anyStep (Cluster.init none) (Cluster.after workerRestartRun) ∧
        ¬(Cluster.after workerRestartRun).ExclusiveOn 16387) ∧
      RunsTo Cluster.next anyStep (Cluster.init none) (Cluster.after databaseReturnRun) ∧
        ¬(Cluster.after databaseReturnRun).ExclusiveOn 16387 := by
  have hruns (run : List LauncherEvent) :
      RunsTo Cluster.next anyStep (Cluster.init none) (Cluster.after run) :=
    RunsTo.foldl _ run
  refine ⟨⟨hruns _, ?_⟩, ⟨hruns _, ?_⟩, hruns _, ?_⟩
  · decide +kernel
  · decide +kernel
  · decide +kernel

end QhapaqXian
