import QhapaqXian.Inspection

/-!
# What the reading commands return

The rows that a command should return are stated without its loop: those that satisfy every
condition, in the order of the index. The loop goes through them in that order, and tests its
counter only when it has output a row.
-/

namespace QhapaqXian

open Library

variable {session : InspectionSession} {rows : InspectedRows}

def MemoryRow.Holds (row : MemoryRow) (pattern : CString) : Prop :=
  ∃ text, some text ∈ [row.key, row.value, row.tags] ∧ pattern <:+: text

/-- The rows of an agent that a `FETCH MEMORY` of the session asks for. -/
structure MemoryRow.Requested (session : InspectionSession) (agentoid : Oid)
    (scopes : List MemoryScope) (matchText : Option CString) (row : MemoryRow) : Prop where
  agent : row.agentoid = agentoid
  database : row.dbid = session.databaseId
  owner : session.hasPrivsOfRole session.userId row.ownerid = true
  scope : scopes = [] ∨ ∃ scope ∈ scopes, scope.code = row.scope
  content : ∀ pattern, matchText = some pattern → row.Holds pattern

open Classical in
noncomputable def requestedMemory (session : InspectionSession) (rows : InspectedRows)
    (agentoid : Oid) (scopes : List MemoryScope) (matchText : Option CString) : List MemoryRow :=
  (rows.memories.rows.filter fun row =>
    decide (row.Requested session agentoid scopes matchText)).mergeSort memoryIndexLe

def requestedTraces (session : InspectionSession) (rows : InspectedRows) (taskoid : Oid) :
    List StoredTrace :=
  rows.traces.rows.filter fun row => row.taskoid = taskoid ∧ row.dbid = session.databaseId

lemma memoryIndexLe_trans (a b c : MemoryRow) (hab : memoryIndexLe a b = true)
    (hbc : memoryIndexLe b c = true) : memoryIndexLe a c = true := by
  rw [memoryIndexLe, decide_eq_true_eq] at hab hbc ⊢
  exact hab.trans hbc

lemma memoryIndexLe_total (a b : MemoryRow) :
    (memoryIndexLe a b || memoryIndexLe b a) = true := by
  rw [Bool.or_eq_true, memoryIndexLe, memoryIndexLe, decide_eq_true_eq, decide_eq_true_eq]
  exact le_total _ _

lemma memoryIndexLe_antisymm {a b : MemoryRow} (ha : a ∈ rows.memories.rows)
    (hb : b ∈ rows.memories.rows) (hab : memoryIndexLe a b = true)
    (hba : memoryIndexLe b a = true) : a = b := by
  rw [memoryIndexLe, decide_eq_true_eq] at hab hba
  have hkey : a.indexKey = b.indexKey := le_antisymm hab hba
  apply Table.eq_of_ident_eq ha hb
  exact congrArg (fun key => (ofLex (ofLex key).2).2) hkey

lemma qxScopeIsRequested_iff {scope : UInt8} {scopes : List MemoryScope} :
    qxScopeIsRequested scope scopes = true ↔
      scopes = [] ∨ ∃ requested ∈ scopes, requested.code = scope := by
  simp [qxScopeIsRequested, List.isEmpty_iff]

lemma qxMemoryMatchesFilter_iff {matchText : Option CString} {row : MemoryRow} :
    qxMemoryMatchesFilter matchText row.key row.value row.tags = true ↔
      ∀ pattern, matchText = some pattern → row.Holds pattern := by
  cases matchText with
  | none => simp [qxMemoryMatchesFilter]
  | some pattern =>
    have hcolumn : ∀ column : Option CString,
        (column.any fun text => (strstr text pattern).isSome) = true ↔
          ∃ text, column = some text ∧ pattern <:+: text := by
      intro column
      cases column with
      | none => simp
      | some text => simp [strstr_isSome_iff]
    simp only [qxMemoryMatchesFilter, List.any_eq_true, hcolumn, Option.some.injEq,
      forall_eq', MemoryRow.Holds]
    constructor
    · rintro ⟨column, hmem, text, rfl, hinfix⟩
      exact ⟨text, hmem, hinfix⟩
    · rintro ⟨text, hmem, hinfix⟩
      exact ⟨some text, hmem, text, rfl, hinfix⟩

open Classical in
lemma emitMemory_eq {agentoid : Oid} (scopes : List MemoryScope) (matchText : Option CString)
    {row : MemoryRow} (hagent : row.agentoid = agentoid) :
    emitMemory session session.userId scopes matchText row =
      if row.Requested session agentoid scopes matchText then some row.output else none := by
  unfold emitMemory
  by_cases hrequested : row.Requested session agentoid scopes matchText
  · rw [if_pos hrequested, if_neg (by simp [hrequested.database]),
      if_neg (by simp [hrequested.owner]),
      if_neg (by simp [qxScopeIsRequested_iff.mpr hrequested.scope]),
      if_neg (by simp [qxMemoryMatchesFilter_iff.mpr hrequested.content])]
  · rw [if_neg hrequested]
    split_ifs with hdatabase howner hscope hcontent
    · rfl
    · rfl
    · rfl
    · rfl
    · simp only [bne_iff_ne, ne_eq, not_not, Bool.not_eq_true', Bool.not_eq_false]
        at hdatabase howner hscope hcontent
      exact absurd ⟨hagent, hdatabase, howner, qxScopeIsRequested_iff.mp hscope,
        qxMemoryMatchesFilter_iff.mp hcontent⟩ hrequested

lemma filterMap_emitMemory (agentoid : Oid) (scopes : List MemoryScope)
    (matchText : Option CString) :
    (memoryIndexScan rows agentoid).filterMap
        (emitMemory session session.userId scopes matchText) =
      (requestedMemory session rows agentoid scopes matchText).map MemoryRow.output := by
  classical
  rw [requestedMemory, ← filter_mergeSort _ memoryIndexLe_trans memoryIndexLe_total
    (fun a ha b hb => memoryIndexLe_antisymm ha hb), memoryIndexScan]
  induction rows.memories.rows.mergeSort memoryIndexLe with
  | nil => rfl
  | cons row entries ih =>
    by_cases hagent : row.agentoid = agentoid
    · rw [List.filter_cons_of_pos (by simp [hagent])]
      by_cases hrequested : row.Requested session agentoid scopes matchText
      · rw [List.filterMap_cons_some (by rw [emitMemory_eq _ _ hagent, if_pos hrequested]),
          List.filter_cons_of_pos (by simp [hrequested]), List.map_cons, ih]
      · rw [List.filterMap_cons_none (by rw [emitMemory_eq _ _ hagent, if_neg hrequested]),
          List.filter_cons_of_neg (by simp [hrequested]), ih]
    · have hother : ¬ row.Requested session agentoid scopes matchText := fun h => hagent h.agent
      rw [List.filter_cons_of_neg (by simp [hagent]), List.filter_cons_of_neg (by simp [hother]),
        ih]

lemma filterMap_emitTrace (taskoid : Oid) :
    (traceIndexScan rows taskoid).filterMap (emitTrace session taskoid) =
      (requestedTraces session rows taskoid).map (StoredTrace.output taskoid) := by
  rw [traceIndexScan, requestedTraces]
  induction rows.traces.rows with
  | nil => rfl
  | cons row entries ih =>
    by_cases htask : row.taskoid = taskoid
    · by_cases hdatabase : row.dbid = session.databaseId
      · simp [htask, hdatabase, emitTrace, ih]
      · simp [htask, hdatabase, emitTrace, ih]
    · simp [htask, ih]

lemma fetchMemoryCommand_eq {agentName : CString} {agent : AgentInfo}
    (hagent : qxLookupAgentInfo session rows agentName = some agent)
    (hprivs : session.hasPrivsOfRole session.userId agent.ownerid = true)
    (scopes : List MemoryScope) (matchText : Option CString) (limitCount : Iconst) :
    fetchMemoryCommand session rows ⟨agentName, scopes, matchText, limitCount⟩ =
      .ok (emitRows (emitMemory session session.userId scopes matchText) limitCount.val 0
        (memoryIndexScan rows agent.oid)) := by
  simp only [fetchMemoryCommand, hagent, hprivs]
  rfl

lemma showTraceCommand_eq {taskId : Int} (hid : 0 < taskId) {taskOwner : Oid}
    (htask : rows.taskOwner taskId.toNat = some taskOwner)
    (hprivs : session.hasPrivsOfRole session.userId taskOwner = true) (limitCount : Iconst) :
    showTraceCommand session rows ⟨.integer taskId, limitCount⟩ =
      .ok (emitRows (emitTrace session taskId.toNat) limitCount.val 0
        (traceIndexScan rows taskId.toNat)) := by
  simp only [showTraceCommand, qxExtractOidLiteral, if_neg (not_le.mpr hid), pure_bind, htask,
    hprivs]
  rfl

/-- A limited scan outputs the first rows exactly if its limit is not zero or it has no row to
output. -/
lemma emitRows_first_iff {α β : Type} {emit : α → Option β} {entries requested : List α}
    {output : α → β} (h : entries.filterMap emit = requested.map output) (limit : Nat) :
    emitRows emit limit 0 entries =
        (requested.take (min limit requested.length)).map output ↔
      limit ≠ 0 ∨ requested = [] := by
  have htake : (requested.take (min limit requested.length)).map output =
      (entries.filterMap emit).take limit := by
    rw [← List.take_eq_take_min, h, List.map_take]
  rw [htake, emitRows_eq_take_iff, h, List.map_eq_nil_iff]

/-- Both commands return the first rows they are asked for, unless the limit is zero: then they
return one row, if there is one. -/
theorem inspection_returns_first_iff (session : InspectionSession) (rows : InspectedRows)
    (limit : Option Iconst) :
    (∀ agentName agent scopes matchText,
      qxLookupAgentInfo session rows agentName = some agent →
      session.hasPrivsOfRole session.userId agent.ownerid = true →
      (fetchMemoryCommand session rows ⟨agentName, scopes, matchText, qxOptFetchLimit limit⟩ =
          .ok (((requestedMemory session rows agent.oid scopes matchText).take
            (min (qxOptFetchLimit limit).val
              (requestedMemory session rows agent.oid scopes matchText).length)).map
            MemoryRow.output) ↔
        limit ≠ some ⟨0, by decide⟩ ∨
          requestedMemory session rows agent.oid scopes matchText = [])) ∧
    (∀ taskId taskOwner, 0 < taskId → rows.taskOwner taskId.toNat = some taskOwner →
      session.hasPrivsOfRole session.userId taskOwner = true →
      (showTraceCommand session rows ⟨.integer taskId, qxOptShowTraceLimit limit⟩ =
          .ok (((requestedTraces session rows taskId.toNat).take
            (min (qxOptShowTraceLimit limit).val
              (requestedTraces session rows taskId.toNat).length)).map
            (StoredTrace.output taskId.toNat)) ↔
        limit ≠ some ⟨0, by decide⟩ ∨ requestedTraces session rows taskId.toNat = [])) := by
  have hlimit : ∀ default : Iconst, default.val ≠ 0 →
      ((limit.getD default).val ≠ 0 ↔ limit ≠ some ⟨0, by decide⟩) := by
    intro default hdefault
    cases limit with
    | none => simp [hdefault]
    | some n => simp [Subtype.ext_iff]
  constructor
  · intro agentName agent scopes matchText hagent hprivs
    rw [fetchMemoryCommand_eq hagent hprivs, Except.ok.injEq,
      emitRows_first_iff (filterMap_emitMemory agent.oid scopes matchText), qxOptFetchLimit,
      hlimit _ (by decide)]
  · intro taskId taskOwner hid htask hprivs
    rw [showTraceCommand_eq hid htask hprivs, Except.ok.injEq,
      emitRows_first_iff (filterMap_emitTrace taskId.toNat), qxOptShowTraceLimit,
      hlimit _ (by decide)]

def inspector : InspectionSession where
  userId := 10
  databaseId := 5
  searchPath := [2200]
  hasPrivsOfRole member role := member == role

def inspectedRows : InspectedRows where
  agents := [⟨16400, 2200, 10, "archivist".toList⟩]
  taskOwner oid := if oid = 16500 then some 10 else none
  memories := Table.empty.insert
    ⟨16600, 5, 16400, 10, MemoryScope.semantic.code, some "topic".toList, none, none⟩
  traces := Table.empty.insert ⟨16700, 5, 16500, 0, 'o'.toUInt8, 0, none, none⟩

theorem inspection_default_limits :
    (fetchMemoryCommand inspector inspectedRows
        ⟨"archivist".toList, [], none, qxOptFetchLimit none⟩ =
      .ok (((requestedMemory inspector inspectedRows 16400 [] none).take
        (min 10 (requestedMemory inspector inspectedRows 16400 [] none).length)).map
          MemoryRow.output)) ∧
    showTraceCommand inspector inspectedRows ⟨.integer 16500, qxOptShowTraceLimit none⟩ =
      .ok (((requestedTraces inspector inspectedRows 16500).take
        (min 50 (requestedTraces inspector inspectedRows 16500).length)).map
          (StoredTrace.output 16500)) :=
  ⟨((inspection_returns_first_iff inspector inspectedRows none).1 "archivist".toList
      ⟨16400, 2200, 10, "archivist".toList⟩ [] none (by decide +kernel) rfl).mpr (.inl nofun),
    ((inspection_returns_first_iff inspector inspectedRows none).2 16500 10 (by decide) rfl
      rfl).mpr (.inl nofun)⟩

/-- `LIMIT 0` returns a row of either kind. -/
theorem limit_zero_returns_a_row :
    fetchMemoryCommand inspector inspectedRows ⟨"archivist".toList, [], none, ⟨0, by decide⟩⟩ =
        .ok [⟨"semantic".toList, some "topic".toList, none, none⟩] ∧
      showTraceCommand inspector inspectedRows ⟨.integer 16500, ⟨0, by decide⟩⟩ =
        .ok [⟨"open".toList, none, none, some "trace_name=<unknown>".toList, false, false⟩] := by
  have hentries : memoryIndexScan inspectedRows 16400 =
      [⟨16600, 5, 16400, 10, MemoryScope.semantic.code, some "topic".toList, none, none⟩] := by
    have hrows : inspectedRows.memories.rows = [⟨16600, 5, 16400, 10, MemoryScope.semantic.code,
        some "topic".toList, none, none⟩] := rfl
    rw [memoryIndexScan, hrows, List.mergeSort_singleton]
    rfl
  constructor
  · rw [@fetchMemoryCommand_eq _ _ _ ⟨16400, 2200, 10, "archivist".toList⟩ (by decide +kernel) rfl,
      hentries]
    decide +kernel
  · decide +kernel

end QhapaqXian
