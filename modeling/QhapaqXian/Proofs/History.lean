import QhapaqXian.History
import QhapaqXian.Library.Checks
import QhapaqXian.Library.Rows

/-!
# What the history keeps of the counters

A snapshot appends rows with the counters as the collector holds them, and reading the scope of the
snapshot returns these rows, with one exception: a snapshot of `scheduler_activity` writes its row
under the scope `scheduler`.
-/

namespace QhapaqXian

open Library

/-! ## The rows of a snapshot -/

/-- The row that is written for an entry, apart from its identifier and its time. -/
structure SnapshotEntry.WrittenAs (entry : SnapshotEntry) (dboid : Oid) (row : HistoryRow) :
    Prop where
  dboid : row.dboid = dboid
  entityoid : row.entityoid = entry.entityoid
  counters : row.counters = entry.counters.clipped
  scope : row.scope = entry.scope
  entity : row.entity.getD [] = entry.entity

lemma insertHistoryRows_spec (session : HistorySession) (entries : List SnapshotEntry)
    (reading : Nat) (history : List HistoryRow) :
    ∃ rows, insertHistoryRows session reading history entries = history ++ rows ∧
      List.Forall₂ (fun entry row => entry.WrittenAs session.myDatabaseId row) entries rows := by
  induction entries generalizing reading history with
  | nil => exact ⟨[], (List.append_nil _).symm, .nil⟩
  | cons entry entries ih =>
    obtain ⟨rows, hrows, hwritten⟩ :=
      ih (reading + 1) (qxStatInsertHistoryRow session reading history entry)
    rw [insertHistoryRows, hrows, qxStatInsertHistoryRow, List.append_assoc, List.singleton_append]
    refine ⟨_, rfl, .cons ⟨rfl, rfl, rfl, rfl, ?_⟩ hwritten⟩
    dsimp only
    by_cases hentity : entry.entity = []
    · rw [if_pos hentity, hentity, Option.getD_none]
    · rw [if_neg hentity, Option.getD_some]

def HistoryRow.held (row : HistoryRow) (slots : Slots StatSlot) : StatCounters :=
  match row.scope with
  | .provider => heldCounters slots (providerKey row.dboid row.entityoid)
  | .principal => heldCounters slots (principalKey row.dboid row.entityoid)
  | .runtimeClass => heldCounters slots (runtimeClassKey row.dboid (row.entity.getD []))
  | .scheduler => qxStatAggregateScheduler slots row.dboid
  | .recovery => heldCounters slots (recoveryKey row.dboid)

section Entries

variable {dboid : Oid} {policy : PolicyCatalog} {slots : Slots StatSlot} {scope : CString}
  {entry : SnapshotEntry}

lemma mem_snapshotEntries (h : entry ∈ snapshotEntries dboid policy slots scope) :
    (qxStatScopeMatches scope entry.scope.name = true ∨
        entry.scope = .scheduler ∧
          qxStatScopeMatches scope "scheduler_activity".toList = true) ∧
      ∀ row, entry.WrittenAs dboid row → row.counters = (row.held slots).clipped := by
  simp only [snapshotEntries, List.mem_append, List.mem_ite_nil_right, List.mem_map,
    List.mem_singleton] at h
  obtain (((⟨hscope, object, -, rfl⟩ | ⟨hscope, object, -, rfl⟩) | ⟨hscope, object, -, rfl⟩) |
    ⟨hscope, rfl⟩) | ⟨hscope, rfl⟩ := h
  · refine ⟨.inl hscope, fun row hrow => ?_⟩
    simp only [hrow.counters, HistoryRow.held, hrow.scope, hrow.dboid, hrow.entityoid]
  · refine ⟨.inl hscope, fun row hrow => ?_⟩
    simp only [hrow.counters, HistoryRow.held, hrow.scope, hrow.dboid, hrow.entityoid]
  · refine ⟨.inl hscope, fun row hrow => ?_⟩
    simp only [hrow.counters, HistoryRow.held, hrow.scope, hrow.dboid, hrow.entity]
  · rw [Bool.or_eq_true] at hscope
    refine ⟨hscope.imp_right fun hactivity => ⟨rfl, hactivity⟩, fun row hrow => ?_⟩
    simp only [hrow.counters, HistoryRow.held, hrow.scope, hrow.dboid]
  · refine ⟨.inl hscope, fun row hrow => ?_⟩
    simp only [hrow.counters, HistoryRow.held, hrow.scope, hrow.dboid]

lemma scheduler_mem_snapshotEntries
    (h : pgStrcaseEq scope "scheduler_activity".toList = true) :
    ∃ entry ∈ snapshotEntries dboid policy slots scope, entry.scope = .scheduler := by
  refine ⟨⟨.scheduler, invalidOid, "scheduler_activity".toList,
    qxStatAggregateScheduler slots dboid⟩, ?_, rfl⟩
  have hscope : qxStatScopeMatches scope "scheduler_activity".toList = true := by
    rw [qxStatScopeMatches, h, Bool.or_true]
  simp only [snapshotEntries, List.mem_append, List.mem_ite_nil_right, hscope, Bool.or_true,
    List.mem_singleton, true_and, or_true, true_or]

end Entries

/-! ## Reading it back -/

section Reading

variable {dboid : Oid} {scope : CString}

lemma not_matches_of_activity (h : pgStrcaseEq scope "scheduler_activity".toList = true) :
    qxStatHistoryScopeMatches scope (HistoryScope.name .scheduler) = false := by
  have hlower : scope.map Char.toLower = "scheduler_activity".toList.map Char.toLower := by
    simpa only [pgStrcaseEq, beq_iff_eq] using h
  rw [qxStatHistoryScopeMatches, pgStrcaseEq, pgStrcaseEq, hlower]
  decide

lemma mem_getHistory_iff {history : List HistoryRow} {row : HistoryRow}
    (requested : Option CString) (hrow : row ∈ history) (hdboid : row.dboid = dboid) :
    row ∈ pgQxStatGetHistory dboid history requested none ↔
      qxStatHistoryScopeMatches (requested.getD "all".toList) row.scope.name = true := by
  simp only [pgQxStatGetHistory, Option.getD_none, List.mem_filter, hrow, hdboid, BEq.rfl,
    bne_self_eq_false, Bool.false_and, Bool.not_false, Bool.true_and, true_and]

lemma matches_all (rowScope : CString) :
    qxStatHistoryScopeMatches "all".toList rowScope = true := by
  have hall : pgStrcaseEq "all".toList "all".toList = true := by decide
  rw [qxStatHistoryScopeMatches, hall, Bool.true_or]

/-- Pruning leaves the rows of the database that reading since the cutoff returns, and every row of
another database. -/
theorem prune_eq_getHistory (dboid : Oid) (cutoff : TimestampTz) (history : List HistoryRow) :
    (pgQxStatPruneHistory dboid cutoff history).1.filter (·.dboid == dboid) =
        pgQxStatGetHistory dboid history none (some cutoff) ∧
      (pgQxStatPruneHistory dboid cutoff history).1.filter (·.dboid != dboid) =
        history.filter (·.dboid != dboid) := by
  simp only [pgQxStatPruneHistory, pgQxStatGetHistory, Option.getD_none, Option.getD_some,
    List.filter_filter, matches_all, Bool.and_true]
  constructor
  · refine List.filter_congr fun row _ => ?_
    have hbegin := row.captured_ge
    rw [Bool.eq_iff_iff]
    simp only [Bool.and_eq_true, Bool.not_eq_true', Bool.and_eq_false_iff, beq_iff_eq,
      beq_eq_false_iff_ne, bne_eq_false_iff_eq, Bool.not_eq_false', ge_iff_le, decide_eq_true_eq,
      decide_eq_false_iff_not, not_lt]
    -- `DT_NOBEGIN` is not compared with, but no row is older
    by_cases hcutoff : cutoff = dtNobegin
    · simp [hcutoff, hbegin]
    · simp only [hcutoff, false_or]
      tauto
  · refine List.filter_congr fun row _ => ?_
    by_cases hdboid : row.dboid = dboid
    · simp [hdboid]
    · simp only [bne_iff_ne.mpr hdboid, beq_false_of_ne hdboid, Bool.false_and, Bool.not_false,
        Bool.and_self]

end Reading

lemma pgQxStatSnapshot_spec {session : HistorySession} {policy : PolicyCatalog}
    {slots : Slots StatSlot} {history history' : List HistoryRow} {scope : Option CString}
    {written : Nat}
    (h : pgQxStatSnapshot session policy slots history scope = .ok (history', written)) :
    ∃ rows, history' = history ++ rows ∧
      List.Forall₂ (fun entry row => entry.WrittenAs session.myDatabaseId row)
        (snapshotEntries session.myDatabaseId policy slots (scope.getD "all".toList)) rows := by
  rw [pgQxStatSnapshot, qxStatSnapshotScope] at h
  split at h
  · cases h
  · cases h
    exact insertHistoryRows_spec ..

/-- After every snapshot that is accepted: the rows that it wrote are returned for its scope with
the counters that were held, and pruning at any cutoff leaves what is returned since the cutoff,
exactly when the scope is not `scheduler_activity`. -/
theorem snapshot_history_iff {session : HistorySession} {policy : PolicyCatalog}
    {slots : Slots StatSlot} {history history' : List HistoryRow} {scope : Option CString}
    {written : Nat}
    (h : pgQxStatSnapshot session policy slots history scope = .ok (history', written)) :
    (∃ rows, history' = history ++ rows ∧
        (∀ row ∈ rows, row ∈ pgQxStatGetHistory session.myDatabaseId history' scope none ∧
          row.counters = (row.held slots).clipped) ∧
        ∀ cutoff,
          (pgQxStatPruneHistory session.myDatabaseId cutoff history').1.filter
              (·.dboid == session.myDatabaseId) =
            pgQxStatGetHistory session.myDatabaseId history' none (some cutoff) ∧
          (pgQxStatPruneHistory session.myDatabaseId cutoff history').1.filter
              (·.dboid != session.myDatabaseId) =
            history'.filter (·.dboid != session.myDatabaseId)) ↔
      pgStrcaseEq (scope.getD "all".toList) "scheduler_activity".toList = false := by
  obtain ⟨rows, rfl, hwritten⟩ := pgQxStatSnapshot_spec h
  have hread {row : HistoryRow} (hrow : row ∈ rows) (hdboid : row.dboid = session.myDatabaseId) :=
    mem_getHistory_iff scope (List.mem_append_right history hrow) hdboid
  constructor
  · -- the row of the scheduler would have to be returned under the other name
    rintro ⟨others, hothers, hreturned, -⟩
    obtain rfl := List.append_cancel_left hothers
    by_contra hactivity
    rw [Bool.not_eq_false] at hactivity
    obtain ⟨entry, hentry, hscope⟩ := scheduler_mem_snapshotEntries hactivity
    obtain ⟨row, hrow, hrow'⟩ := exists_row_of_forall₂ hwritten hentry
    have hmatches := (hread hrow hrow'.dboid).mp (hreturned row hrow).1
    rw [hrow'.scope, hscope, not_matches_of_activity hactivity] at hmatches
    cases hmatches
  · intro hactivity
    refine ⟨rows, rfl, fun row hrow => ?_, fun cutoff => prune_eq_getHistory ..⟩
    obtain ⟨entry, hentry, hrow'⟩ := exists_of_forall₂ hwritten hrow
    obtain ⟨hscope, hcounters⟩ := mem_snapshotEntries hentry
    refine ⟨(hread hrow hrow'.dboid).mpr ?_, hcounters row hrow'⟩
    rw [hrow'.scope]
    rcases hscope with hscope | ⟨hscheduler, hscope⟩
    · exact hscope
    · -- without its own name the branch of the scheduler is taken for all scopes only
      rw [qxStatScopeMatches, hactivity, Bool.or_false] at hscope
      rw [qxStatHistoryScopeMatches, hscope, Bool.true_or]

def demoHistorySession : HistorySession where
  myDatabaseId := 5
  clock reading := 1000 + reading
  clock_ge reading := by
    show (-9223372036854775808 : Int) ≤ 1000 + reading
    omega
  newOid used := used.foldr max 0 + 1

def demoHeld : Slots StatSlot :=
  [some ⟨providerKey 5 100, { StatCounters.zero with submitCount := 3000000000 }⟩,
    some ⟨⟨5, .schedulerActivity, invalidOid, "renew".toList⟩,
      { StatCounters.zero with renewCount := 4 }⟩, none]

def demoObserved : PolicyCatalog :=
  ⟨[⟨100, "vendor".toList, 2200, 10, true, false, none, none, none, none, none, none, none⟩], [], [],
    []⟩

/-- The row of the provider is returned with its count clipped. -/
theorem provider_snapshot_returned :
    (pgQxStatSnapshot demoHistorySession demoObserved demoHeld [] (some "Provider".toList)).isOk =
        true ∧
      ∃ rows,
        ((rows.map fun row => (row.scope, row.entityoid, row.counters.submitCount)) =
          [(.provider, 100, 2147483647)]) ∧
        ∀ row ∈ rows, row ∈ pgQxStatGetHistory 5 rows (some "Provider".toList) none ∧
          row.counters = (row.held demoHeld).clipped := by
  have hok : (pgQxStatSnapshot demoHistorySession demoObserved demoHeld []
      (some "Provider".toList)).isOk = true := by decide +kernel
  have hrows : ∀ history' written, pgQxStatSnapshot demoHistorySession demoObserved demoHeld []
      (some "Provider".toList) = .ok (history', written) →
      (history'.map fun row => (row.scope, row.entityoid, row.counters.submitCount)) =
        [(.provider, 100, 2147483647)] := by
    intro history' written h
    have hmap : (pgQxStatSnapshot demoHistorySession demoObserved demoHeld []
        (some "Provider".toList)).toOption.map (fun result => result.1.map fun row =>
          (row.scope, row.entityoid, row.counters.submitCount)) =
        some [(.provider, 100, 2147483647)] := by decide +kernel
    rw [h] at hmap
    exact Option.some.inj hmap
  obtain ⟨⟨history', written⟩, h⟩ := exists_of_isOk hok
  obtain ⟨rows, hsplit, hreturned, -⟩ := (snapshot_history_iff h).mpr (by decide)
  rw [List.nil_append] at hsplit
  subst hsplit
  exact ⟨hok, history', hrows history' written h, hreturned⟩

/-- The row that a snapshot of `scheduler_activity` writes is returned for `scheduler` only. -/
theorem activity_snapshot_not_returned :
    ((pgQxStatSnapshot demoHistorySession demoObserved demoHeld []
        (some "scheduler_activity".toList)).toOption.map fun result =>
      (result.2, pgQxStatGetHistory 5 result.1 (some "scheduler_activity".toList) none,
        (pgQxStatGetHistory 5 result.1 (some "scheduler".toList) none).map
          (·.counters.renewCount))) = some (1, [], [4]) := by
  decide +kernel

end QhapaqXian
