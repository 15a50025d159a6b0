import QhapaqXian.ContractExecution
import QhapaqXian.Library.Checks

/-!
# What an execution leaves behind

The lease of an execution is registered when its response has been read, before the response is
validated, and released at the very end under an identifier that is chosen by another rule. Its
files are removed between the two.
-/

namespace QhapaqXian

open Library

variable {lease other : BackendLease} {receiptKey sandbox : CString} {backend : QxBackend}
  {result : QxExternalToolResult} {profile : QxSandboxProfile}

/-! ## The lease registry -/

namespace BackendLease

abbrev sameInstance (lease : BackendLease) : BackendLease → Bool :=
  names lease.dboid lease.taskoid lease.instanceId

@[simp] lemma names_iff {dboid taskoid : Oid} {instanceId : CString} :
    lease.names dboid taskoid instanceId = true ↔
      (lease.dboid = dboid ∧ lease.taskoid = taskoid) ∧ lease.instanceId = instanceId := by
  simp [names, ofTask]

lemma of_names {held : BackendLease} (h : lease.sameInstance held = true) :
    { held with kind := lease.kind } = lease := by
  obtain ⟨⟨hdboid, htaskoid⟩, hinstance⟩ := names_iff.mp h
  rw [hdboid, htaskoid, hinstance]

end BackendLease

/-- The registry takes a lease that it does not hold yet. -/
structure Stored (leases : Slots BackendLease) (lease : BackendLease) : Prop where
  dboid : lease.dboid ≠ invalidOid
  taskoid : lease.taskoid ≠ invalidOid
  short : lease.instanceId.length < 128
  fresh : some lease ∉ leases
  room : (leases.find? lease.sameInstance).isSome = true ∨ leases.hasRoom = true

/-- Every lease of the task was held before. -/
def AddsNoLease (dboid taskoid : Oid) (before after : Slots BackendLease) : Prop :=
  ∀ lease ∈ after.entries, lease.dboid = dboid → lease.taskoid = taskoid → lease ∈ before.entries

section register

variable {lease : BackendLease} {leases registered : Slots BackendLease}

lemma qxStatBackendLeaseRegister_cases
    (h : qxStatBackendLeaseRegister lease leases = .ok registered) :
    ((lease.dboid = invalidOid ∨ lease.taskoid = invalidOid ∨ lease.instanceId = []) ∧
        registered = leases) ∨
      ((lease.dboid ≠ invalidOid ∧ lease.taskoid ≠ invalidOid) ∧ lease.instanceId.length < 128 ∧
        registered = leases.upsert lease.sameInstance
          (fun held => { held with kind := lease.kind }) lease) := by
  unfold qxStatBackendLeaseRegister at h
  split at h
  · rename_i hskipped
    exact .inl ⟨hskipped, (Except.ok.inj h).symm⟩
  · rename_i hvalid
    split at h
    · cases h
    · rename_i hshort
      push Not at hvalid
      exact .inr ⟨⟨hvalid.1, hvalid.2.1⟩, Nat.lt_of_not_le hshort, (Except.ok.inj h).symm⟩

lemma qxStatBackendLeaseRegister_ok_iff (leases : Slots BackendLease)
    (hnamed : lease.instanceId ≠ []) :
    (∃ registered, qxStatBackendLeaseRegister lease leases = .ok registered) ↔
      lease.dboid = invalidOid ∨ lease.taskoid = invalidOid ∨ lease.instanceId.length < 128 := by
  constructor
  · rintro ⟨registered, h⟩
    rcases qxStatBackendLeaseRegister_cases h with ⟨hskipped, -⟩ | ⟨-, hshort, -⟩
    · rcases hskipped with h | h | h
      · exact .inl h
      · exact .inr (.inl h)
      · exact absurd h hnamed
    · exact .inr (.inr hshort)
  · intro h
    unfold qxStatBackendLeaseRegister
    split
    · exact ⟨_, rfl⟩
    · rename_i hvalid
      push Not at hvalid
      have hshort : ¬ 128 ≤ lease.instanceId.length :=
        Nat.not_le_of_lt ((h.resolve_left hvalid.1).resolve_left hvalid.2.1)
      rw [if_neg hshort]
      exact ⟨_, rfl⟩

lemma mem_of_mem_register (h : qxStatBackendLeaseRegister lease leases = .ok registered)
    (hother : some other ∈ registered) :
    other = lease ∨ some other ∈ leases := by
  rcases qxStatBackendLeaseRegister_cases h with ⟨-, rfl⟩ | ⟨-, -, rfl⟩
  · exact .inr hother
  · exact Slots.mem_of_mem_upsert (fun _ => BackendLease.of_names) hother

lemma mem_register_of_stored (h : qxStatBackendLeaseRegister lease leases = .ok registered)
    (hnamed : lease.instanceId ≠ []) (hstored : Stored leases lease) : some lease ∈ registered := by
  rcases qxStatBackendLeaseRegister_cases h with ⟨hskipped, -⟩ | ⟨-, -, rfl⟩
  · rcases hskipped with h | h | h
    · exact absurd h hstored.dboid
    · exact absurd h hstored.taskoid
    · exact absurd h hnamed
  · exact Slots.mem_upsert (fun _ => BackendLease.of_names) hstored.room

lemma register_of_not_stored (h : qxStatBackendLeaseRegister lease leases = .ok registered)
    (hfresh : some lease ∉ leases) (hstored : ¬ Stored leases lease) : registered = leases := by
  rcases qxStatBackendLeaseRegister_cases h with ⟨-, rfl⟩ | ⟨⟨hdboid, htaskoid⟩, hshort, rfl⟩
  · rfl
  · have hfull : ¬ ((leases.find? lease.sameInstance).isSome = true ∨ leases.hasRoom = true) :=
      fun hroom => hstored ⟨hdboid, htaskoid, hshort, hfresh, hroom⟩
    push Not at hfull
    exact Slots.upsert_of_full (Option.not_isSome_iff_eq_none.mp hfull.1)
      (Bool.eq_false_iff.mpr hfull.2)

lemma mem_of_mem_release_register (h : qxStatBackendLeaseRegister lease leases = .ok registered)
    (hnamed : lease.instanceId ≠ [])
    (hother : some other ∈
      qxStatBackendLeaseRelease lease.dboid lease.taskoid lease.instanceId registered) :
    some other ∈ leases := by
  have hinstance : (fun held : BackendLease => held.ofTask lease.dboid lease.taskoid &&
      (lease.instanceId == [] || held.instanceId == lease.instanceId)) = lease.sameInstance := by
    funext held
    simp [BackendLease.names, List.isEmpty_eq_false_iff.mpr hnamed]
  unfold qxStatBackendLeaseRelease at hother
  rw [hinstance] at hother
  rcases qxStatBackendLeaseRegister_cases h with ⟨-, rfl⟩ | ⟨⟨hdboid, htaskoid⟩, -, rfl⟩
  · split at hother
    · exact hother
    · exact Slots.mem_of_mem_clear hother
  · rw [if_neg (not_or.mpr ⟨hdboid, htaskoid⟩)] at hother
    exact Slots.mem_of_mem_clear_upsert (fun _ => BackendLease.of_names) (by simp) hother

end register

/-! ## The course of a call -/

namespace ContractCall

variable {call : ContractCall}

def Started (call : ContractCall) : Prop :=
  (∃ prepared, call.prepare = .ok prepared) ∧ call.writeFiles = .ok ()

def Reports (call : ContractCall) (result : QxExternalToolResult) : Prop :=
  ∃ effect contents, call.program = .ran effect ∧ effect.ending = .exited 0 ∧
    effect.response = .ok contents ∧ parseExternalResult contents = .ok result

def Accepts (call : ContractCall) (result : QxExternalToolResult) : Prop :=
  ∃ receiptKey sandbox profile, call.prepare = .ok (receiptKey, sandbox, profile) ∧
    qxValidateExternalResult call.scheme (call.expected profile) receiptKey result = .ok ()

lemma Reports.unique {other : QxExternalToolResult} (h : call.Reports result)
    (h' : call.Reports other) : result = other := by
  obtain ⟨effect, contents, hran, -, hresponse, hparsed⟩ := h
  obtain ⟨effect', contents', hran', -, hresponse', hparsed'⟩ := h'
  cases hran.symm.trans hran'
  cases hresponse.symm.trans hresponse'
  exact Except.ok.inj (hparsed.symm.trans hparsed')

lemma reports_iff {profile : QxSandboxProfile} {result : QxExternalToolResult} :
    call.Reports result ↔ ∃ effect,
      qxLaunchPrincipalProgram call.programPath profile call.program = .ok effect ∧
        qxReadExternalResult call.responsePath effect.response = .ok result := by
  constructor
  · rintro ⟨effect, contents, hran, hending, hresponse, hparsed⟩
    refine ⟨effect, ?_, ?_⟩
    · simp only [qxLaunchPrincipalProgram, hran, hending]
    · simpa only [qxReadExternalResult, hresponse] using hparsed
  · rintro ⟨effect, hlaunched, hread⟩
    unfold qxLaunchPrincipalProgram at hlaunched
    cases hran : call.program with
    | forkFailed reason => simp [hran, ereport] at hlaunched
    | ran started =>
      simp only [hran] at hlaunched
      split at hlaunched <;> cases hlaunched
      rename_i hending
      cases hresponse : effect.response with
      | error reason => simp [qxReadExternalResult, hresponse, ereport] at hread
      | ok contents =>
        rw [hresponse] at hread
        exact ⟨effect, contents, hran, hending, hresponse, hread⟩

lemma course (call : ContractCall) (leases : Slots BackendLease) :
    (¬ call.Started ∧ (qxExecuteToolContract call leases).leases = leases ∧
        (qxExecuteToolContract call leases).outcome.isOk = false) ∨
      ((∀ result, ¬ call.Reports result) ∧
        (qxExecuteToolContract call leases).leases = leases ∧
        (call.Started → (qxExecuteToolContract call leases).files = call.leftFiles) ∧
        (qxExecuteToolContract call leases).outcome.isOk = false) ∨
      ∃ receiptKey sandbox profile effect result,
        call.prepare = .ok (receiptKey, sandbox, profile) ∧ call.Started ∧ call.Reports result ∧
          qxExecuteToolContract call leases =
            qxFinishExecution call receiptKey sandbox profile effect result leases := by
  unfold qxExecuteToolContract
  cases hprepare : call.prepare with
  | error error => exact .inl ⟨fun h => by simpa [hprepare] using h.1, rfl, rfl⟩
  | ok prepared =>
    obtain ⟨receiptKey, sandbox, profile⟩ := prepared
    dsimp only
    cases hwritten : call.writeFiles with
    | error error => exact .inl ⟨fun h => by simpa [hwritten] using h.2, rfl, rfl⟩
    | ok _ =>
      dsimp only
      have hreports (result : QxExternalToolResult) : call.Reports result ↔ _ :=
        @reports_iff call (qxExecutionProfile call.backend profile) result
      cases hlaunched : qxLaunchPrincipalProgram call.programPath
          (qxExecutionProfile call.backend profile) call.program with
      | error error =>
        refine .inr (.inl ⟨fun result h => ?_, rfl, fun _ => rfl, rfl⟩)
        simp [hreports, hlaunched] at h
      | ok effect =>
        dsimp only
        cases hread : qxReadExternalResult call.responsePath effect.response with
        | error error =>
          refine .inr (.inl ⟨fun result h => ?_, rfl, fun _ => rfl, rfl⟩)
          simp [hreports, hlaunched, hread] at h
        | ok result =>
          exact .inr (.inr ⟨receiptKey, sandbox, profile, effect, result, rfl,
            ⟨⟨_, hprepare⟩, hwritten⟩, (hreports result).mpr ⟨effect, hlaunched, hread⟩, rfl⟩)

lemma accepts_iff (hprepare : call.prepare = .ok (receiptKey, sandbox, profile)) :
    call.Accepts result ↔
      qxValidateExternalResult call.scheme (call.expected profile) receiptKey result = .ok () := by
  constructor
  · rintro ⟨receiptKey', sandbox', profile', hprepare', hvalid⟩
    cases hprepare.symm.trans hprepare'
    exact hvalid
  · intro hvalid
    exact ⟨receiptKey, sandbox, profile, hprepare, hvalid⟩

/-! ## The runtime files -/

lemma hasFile_of_leftFiles {file : RuntimeFile} (h : call.leftFiles file = true) :
    call.hasFile file = true := by
  unfold leftFiles at h
  cases hprogram : call.program with
  | forkFailed reason =>
    simp only [hprogram] at h
    cases file with
    | launch => exact (Bool.and_eq_true_iff.mp h).1
    | request => rfl
    | response => rfl
  | ran effect =>
    simp only [hprogram] at h
    exact (Bool.and_eq_true_iff.mp h).1

lemma removeFiles_leftFiles (file : RuntimeFile) :
    call.removeFiles call.leftFiles file = (call.leftFiles file && !call.removes file) := by
  unfold removeFiles
  by_cases hlaunch : call.hasFile .launch = true
  · simp only [hlaunch, if_true]
    cases file <;> simp [RuntimeFiles.unlink]
  · rw [if_neg hlaunch]
    cases file with
    | launch =>
      have hnone : call.leftFiles .launch = false :=
        Bool.eq_false_iff.mpr fun h => hlaunch (hasFile_of_leftFiles h)
      simp [RuntimeFiles.unlink, hnone]
    | request => simp [RuntimeFiles.unlink]
    | response => simp [RuntimeFiles.unlink]

/-- The instance that a response reports can be registered, or the registry does not look at it. -/
def Registrable (call : ContractCall) (result : QxExternalToolResult) : Prop :=
  ∀ lease, call.reportedLease result = some lease →
    call.dboid = invalidOid ∨ call.taskoid = invalidOid ∨ lease.instanceId.length < 128

lemma reportedLease_cases (h : call.reportedLease result = some lease) :
    (lease.dboid = call.dboid ∧ lease.taskoid = call.taskoid) ∧ lease.instanceId ≠ [] ∧
      call.backend ≠ .host := by
  unfold reportedLease qxReportedLease at h
  cases hbackend : call.backend with
  | host => simp [hbackend] at h
  | container =>
    simp only [hbackend] at h
    split at h <;> cases h
    exact ⟨⟨rfl, rfl⟩, nonEmptyOr_ne_nil _ (by simp), by simp⟩
  | microvm kernelPath initrdPath =>
    simp only [hbackend] at h
    split at h <;> cases h
    exact ⟨⟨rfl, rfl⟩, nonEmptyOr_ne_nil _ (by simp), by simp⟩

lemma registrable_iff (leases : Slots BackendLease) :
    call.Registrable result ↔ ∃ registered, call.register result leases = .ok registered := by
  unfold Registrable register
  cases hlease : call.reportedLease result with
  | none => simp
  | some lease =>
    obtain ⟨⟨hdboid, htaskoid⟩, hnamed, -⟩ := reportedLease_cases hlease
    simp only [Option.some.injEq, forall_eq', qxStatBackendLeaseRegister_ok_iff leases hnamed,
      hdboid, htaskoid]

lemma none_left_iff {files removes : RuntimeFile → Bool} {removed : Prop} (h : ¬ removed) :
    (∀ file, files file = false) ↔ ∀ file, files file = true → removes file = true ∧ removed := by
  constructor
  · intro hnone file hfile
    simp [hnone file] at hfile
  · intro hremoved file
    by_contra hfile
    exact h (hremoved file (Bool.eq_true_of_not_eq_false hfile)).2

end ContractCall

def demoCall (contract response : CString) : ContractCall where
  host := ⟨fun _ => none, [], none, "launch".toList⟩
  contract := contract
  phase := .submit
  dboid := 5
  taskoid := 1
  scheme := ⟨fun _ _ => "00".toList, none⟩
  programPath := "runner".toList
  requestPath := "request".toList
  responsePath := "response".toList
  receiptKey := .ok "bootstrap-key".toList
  resolved := .ok ()
  launchWrite := .written
  requestWrite := .written
  program := .ran ⟨.exited 0, 12, fun _ => true, .ok response, fun _ _ => rfl⟩
  removes := fun _ => true

def demoResponse : CString :=
  renderLines '=' '\n'
    [ ("PRINCIPAL_RUNTIME".toList, "host".toList), ("PROVIDER_KIND".toList, "loopback".toList),
      ("PROFILE".toList, "builtin".toList), ("ENV".toList, "minimal".toList),
      ("WORKDIR".toList, "pg_qx_runtime".toList), ("TIMEOUT_MS".toList, "3000".toList),
      ("PROCESS_LIMIT".toList, "2".toList), ("RECEIPT_SCHEMA".toList, "qx.receipt.v1".toList),
      ("RECEIPT_ALG".toList, "hmac-sha256".toList),
      ("RECEIPT_NONCE".toList, "submit:tool:principal".toList),
      ("ATTESTATION".toList, "optional".toList), ("RECEIPT_SIG".toList, "00".toList) ]

lemma demoCall_reports {contract response : CString} (h : parseExternalResult response = .ok result)
    :
    (demoCall contract response).Reports result :=
  ⟨_, response, rfl, rfl, rfl, h⟩

/-! ## The leases -/

namespace ContractCall

variable {call : ContractCall} {leases registered : Slots BackendLease}

lemma mem_of_mem_releaseLeases {dboid taskoid : Oid}
    (h : some lease ∈ qxReleaseLeases backend dboid taskoid result registered) :
    some lease ∈ registered := by
  unfold qxReleaseLeases qxStatBackendLeaseRelease qxStatBackendLeaseFence at h
  split at h <;> split at h
  · exact h
  · exact Slots.mem_of_mem_clear h
  · exact h
  · split at h
    · exact h
    · exact (Slots.mem_clearAll_iff.mp h).1

lemma mem_releaseLeases_of_ne {instanceId : CString}
    (hreleased : qxReleasedInstance result = some instanceId) (hne : instanceId ≠ lease.instanceId)
    (h : some lease ∈ registered) :
    some lease ∈ qxReleaseLeases backend lease.dboid lease.taskoid result registered := by
  have hnamed : instanceId ≠ [] := by
    rintro rfl
    unfold qxReleasedInstance at hreleased
    split_ifs at hreleased with hcontainer hvm
    · simp [hreleased, isNullOrEmpty] at hvm
    · simp [hreleased, isNullOrEmpty] at hcontainer
  simp only [qxReleaseLeases, hreleased, qxStatBackendLeaseRelease]
  split_ifs
  · exact h
  · apply Slots.mem_clear_of_not _ h
    simp [List.isEmpty_eq_false_iff.mpr hnamed, hne.symm]

/-- The lease of a response is released under its own identifier, or with all of the task's. -/
def ReleasesLease (result : QxExternalToolResult) (lease : BackendLease) : Prop :=
  qxReleasedInstance result = none ∨ qxReleasedInstance result = some lease.instanceId

lemma held_of_mem_releaseLeases (hbackend : backend ≠ .host) (hnamed : lease.instanceId ≠ [])
    (hregister : qxStatBackendLeaseRegister lease leases = .ok registered)
    (hstored : Stored leases lease) (hreleases : ReleasesLease result lease)
    (htask : other.dboid = lease.dboid ∧ other.taskoid = lease.taskoid)
    (h : some other ∈ qxReleaseLeases backend lease.dboid lease.taskoid result registered) :
    some other ∈ leases := by
  rcases hreleases with hnone | hsame
  · have hvalid : ¬ (lease.dboid = invalidOid ∨ lease.taskoid = invalidOid) :=
      not_or.mpr ⟨hstored.dboid, hstored.taskoid⟩
    simp only [qxReleaseLeases, hnone, if_neg hbackend, qxStatBackendLeaseFence, if_neg hvalid,
      Slots.mem_clearAll_iff, BackendLease.ofTask, htask.1, htask.2, beq_self_eq_true,
      Bool.and_self, Bool.true_eq_false, and_false] at h
  · simp only [qxReleaseLeases, hsame] at h
    exact mem_of_mem_release_register hregister hnamed h

/-- A lease that is new to the registry is gone at the end only if the response is accepted and its
instance is the one that is released. -/
lemma accepted_of_addsNoLease
    {effect : ProgramEffect}
    (hprepare : call.prepare = .ok (receiptKey, sandbox, profile))
    (hlease : call.reportedLease result = some lease) (hstored : Stored leases lease)
    (hadds : AddsNoLease call.dboid call.taskoid leases
      (qxFinishExecution call receiptKey sandbox profile effect result leases).leases) :
    call.Accepts result ∧ ReleasesLease result lease := by
  obtain ⟨⟨hdboid, htaskoid⟩, hnamed, -⟩ := reportedLease_cases hlease
  have hgone : some lease ∉
      (qxFinishExecution call receiptKey sandbox profile effect result leases).leases := by
    intro hleft
    exact hstored.fresh
      (Slots.mem_entries_iff.mp (hadds lease (Slots.mem_entries_iff.mpr hleft) hdboid htaskoid))
  obtain ⟨registered, hregister⟩ := (qxStatBackendLeaseRegister_ok_iff leases hnamed).mpr
    (.inr (.inr hstored.short))
  have hheld := mem_register_of_stored hregister hnamed hstored
  simp only [qxFinishExecution, register, hlease, hregister] at hgone
  cases hvalid : qxValidateExternalResult call.scheme (call.expected profile) receiptKey result with
  | error error =>
    simp only [hvalid] at hgone
    exact absurd hheld hgone
  | ok _ =>
    simp only [hvalid, ← hdboid, ← htaskoid] at hgone
    refine ⟨(accepts_iff hprepare).mpr hvalid, ?_⟩
    cases hreleased : qxReleasedInstance result with
    | none => exact .inl hreleased
    | some instanceId =>
      by_cases hsame : instanceId = lease.instanceId
      · exact .inr (hsame ▸ hreleased)
      · exact absurd (mem_releaseLeases_of_ne hreleased hsame hheld) hgone

lemma addsNoLease_of_accepted
    {effect : ProgramEffect}
    (hprepare : call.prepare = .ok (receiptKey, sandbox, profile))
    (h : ∀ lease, call.reportedLease result = some lease → Stored leases lease →
      call.Accepts result ∧ ReleasesLease result lease) :
    AddsNoLease call.dboid call.taskoid leases
      (qxFinishExecution call receiptKey sandbox profile effect result leases).leases := by
  intro other hother hdboid' htaskoid'
  rw [Slots.mem_entries_iff] at hother ⊢
  cases hregister : call.register result leases with
  | error error => simpa only [qxFinishExecution, hregister] using hother
  | ok registered =>
    -- what a later error leaves in the registry, and what the end of the call leaves there
    have hkept : some other ∈ registered := by
      simp only [qxFinishExecution, hregister] at hother
      split at hother
      · exact hother
      · exact mem_of_mem_releaseLeases hother
    cases hlease : call.reportedLease result with
    | none =>
      simp only [register, hlease, Except.ok.injEq] at hregister
      exact hregister ▸ hkept
    | some lease =>
      obtain ⟨⟨hdboid, htaskoid⟩, hnamed, hbackend⟩ := reportedLease_cases hlease
      simp only [qxFinishExecution, hregister] at hother
      simp only [register, hlease] at hregister
      by_cases hfresh : some lease ∈ leases
      · rcases mem_of_mem_register hregister hkept with rfl | hheld
        · exact hfresh
        · exact hheld
      by_cases hstored : Stored leases lease
      · obtain ⟨haccepts, hreleases⟩ := h lease hlease hstored
        simp only [(accepts_iff hprepare).mp haccepts, ← hdboid, ← htaskoid] at hother
        exact held_of_mem_releaseLeases hbackend hnamed hregister hstored hreleases
          ⟨hdboid'.trans hdboid.symm, htaskoid'.trans htaskoid.symm⟩ hother
      · exact register_of_not_stored hregister hfresh hstored ▸ hkept

end ContractCall

def containerCallContract : CString :=
  renderFields '=' ';'
    [ ("provider_kind".toList, "container".toList),
      ("provider_endpoint".toList, "container://local".toList),
      ("tool_sandbox".toList, "isolated".toList), ("principal_sandbox".toList, "isolated".toList),
      ("provider_oid".toList, "1".toList) ]

end QhapaqXian
