import Mathlib.Algebra.Order.Ring.Int
import QhapaqXian.Envelope

/-!
# Delays of retries

The delay before a retry is a base that doubles with the failures up to a cap, and a jitter that
depends on the task and on the number of failures. The base is ordered by failures and priority;
the jitter is not.
-/

namespace QhapaqXian

open Library

/-! ## Base and jitter -/

def retryDoublings (retryCount : Int) : Nat :=
  min ((max retryCount 1).toNat - 1) 3

def cappedMs (base : Int) (doublings : Nat) : Int :=
  min (base * 2 ^ doublings) 60000

def jitterWindowMs (capped : Int) : Int :=
  min (max (capped / 8) 1) 1500

def jitterSeed (retryCount : Int) (taskoid : Oid) : Nat :=
  taskoid % 2 ^ 32 ^^^ (max retryCount 1).toNat * 2654435761 % 2 ^ 32

lemma qxRuntimeRetryBackoffMs_eq (priority : CString) (retryCount leaseTtlMs : Int)
    (taskoid : Oid) :
    qxRuntimeRetryBackoffMs priority retryCount leaseTtlMs taskoid =
      cappedMs (retryBaseMs priority leaseTtlMs) (retryDoublings retryCount) +
        (jitterSeed retryCount taskoid : Int) % jitterWindowMs
          (cappedMs (retryBaseMs priority leaseTtlMs) (retryDoublings retryCount)) :=
  rfl

lemma jitterWindowMs_pos (capped : Int) : 0 < jitterWindowMs capped := by
  unfold jitterWindowMs
  omega

lemma jitterWindowMs_le (capped : Int) : jitterWindowMs capped ≤ 1500 :=
  min_le_right _ _

lemma retryDoublings_le (retryCount : Int) : retryDoublings retryCount ≤ 3 :=
  min_le_right _ _

lemma retryDoublings_mono {retryCount retryCount' : Int} (h : retryCount ≤ retryCount') :
    retryDoublings retryCount ≤ retryDoublings retryCount' := by
  unfold retryDoublings
  omega

/-! ## The base that a priority is given -/

def retryDelayMs (priority : Option CString) (retryCount : Int) (taskoid : Oid) : Int :=
  qxRuntimeRetryBackoffMs (priority.getD []) retryCount (qxSchedulerDefaultLeaseTtlMs priority)
    taskoid

def retryCappedMs (priority : Option CString) (retryCount : Int) : Int :=
  cappedMs (retryBaseMs (priority.getD []) (qxSchedulerDefaultLeaseTtlMs priority))
    (retryDoublings retryCount)

def retryJitterMs (priority : Option CString) (retryCount : Int) (taskoid : Oid) : Int :=
  (jitterSeed retryCount taskoid : Int) % jitterWindowMs (retryCappedMs priority retryCount)

lemma retryDelayMs_eq (priority : Option CString) (retryCount : Int) (taskoid : Oid) :
    retryDelayMs priority retryCount taskoid =
      retryCappedMs priority retryCount + retryJitterMs priority retryCount taskoid :=
  rfl

def priorityBases : List (Int × Int) :=
  [(100, 2250), (80, 3375), (60, 9000), (50, 9000), (40, 15000), (35, 30000), (10, 72000)]

/-- The names that the scheduler tells apart. -/
inductive PriorityClass
  | urgent
  | high
  | normal
  | low
  | idle
  | other
  deriving DecidableEq

def priorityClass (name : CString) : PriorityClass :=
  if pgStrcaseEq name "urgent".toList || pgStrcaseEq name "critical".toList then .urgent
  else if pgStrcaseEq name "high".toList then .high
  else if pgStrcaseEq name "normal".toList then .normal
  else if pgStrcaseEq name "low".toList then .low
  else if pgStrcaseEq name "idle".toList then .idle
  else .other

def PriorityClass.weight : PriorityClass → Int
  | .urgent => 100
  | .high => 80
  | .normal => 60
  | .low => 35
  | .idle => 10
  | .other => 50

def PriorityClass.baseMs (base : Int) : PriorityClass → Int
  | .urgent => max (base / 2) 1000
  | .high => max (base * 3 / 4) 2000
  | .normal => max base 3000
  | .low => max (base * 2) 5000
  | .idle => max (base * 3) 8000
  | .other => base

lemma qxSchedulerPriorityWeight_cons (c : Char) (name : CString) :
    qxSchedulerPriorityWeight (c :: name) = (priorityClass (c :: name)).weight := by
  unfold qxSchedulerPriorityWeight priorityClass
  dsimp only
  split_ifs <;> rfl

lemma retryBaseMs_eq (name : CString) (leaseTtlMs : Int) :
    retryBaseMs name leaseTtlMs = (priorityClass name).baseMs (max leaseTtlMs 1000) := by
  unfold retryBaseMs priorityClass
  dsimp only
  split_ifs <;> rfl

lemma weight_base_mem (priority : Option CString) :
    (qxSchedulerPriorityWeight priority,
      retryBaseMs (priority.getD []) (qxSchedulerDefaultLeaseTtlMs priority)) ∈ priorityBases := by
  rcases priority with _ | _ | ⟨c, name⟩
  · decide
  · decide
  · unfold qxSchedulerDefaultLeaseTtlMs qxSchedulerDefaultHeartbeatIntervalMs
    rw [Option.getD_some, retryBaseMs_eq, qxSchedulerPriorityWeight_cons]
    cases priorityClass (c :: name) <;> decide

/-- More failures or less weight give a base that is no smaller, and a larger base is larger by the
whole jitter. -/
lemma cappedMs_order : ∀ first ∈ priorityBases, ∀ second ∈ priorityBases, ∀ k ≤ 3, ∀ k' ≤ 3,
    (second.1 < first.1 ∧ k = k') ∨ (first = second ∧ k ≤ k') →
      cappedMs first.2 k ≤ cappedMs second.2 k' ∧
        (cappedMs first.2 k < cappedMs second.2 k' →
          cappedMs first.2 k + jitterWindowMs (cappedMs first.2 k) ≤ cappedMs second.2 k') := by
  decide +kernel

section Order

variable {priority priority' : Option CString} {retryCount retryCount' : Int} {taskoid taskoid' : Oid}

lemma retryDelayMs_le_iff
    (h : retryCappedMs priority retryCount ≤ retryCappedMs priority' retryCount' ∧
      (retryCappedMs priority retryCount < retryCappedMs priority' retryCount' →
        retryCappedMs priority retryCount + jitterWindowMs (retryCappedMs priority retryCount) ≤
          retryCappedMs priority' retryCount')) :
    (retryDelayMs priority retryCount taskoid ≤ retryDelayMs priority' retryCount' taskoid' ↔
      retryCappedMs priority retryCount < retryCappedMs priority' retryCount' ∨
        retryJitterMs priority retryCount taskoid ≤ retryJitterMs priority' retryCount' taskoid') ∧
    retryDelayMs priority retryCount taskoid < retryDelayMs priority' retryCount' taskoid' + 1500 := by
  have hwindow := jitterWindowMs_pos (retryCappedMs priority retryCount)
  have hwindow' := jitterWindowMs_pos (retryCappedMs priority' retryCount')
  have hjitter : 0 ≤ retryJitterMs priority' retryCount' taskoid' := Int.emod_nonneg _ hwindow'.ne'
  have hlt : retryJitterMs priority retryCount taskoid <
      jitterWindowMs (retryCappedMs priority retryCount) := Int.emod_lt_of_pos _ hwindow
  have hle := jitterWindowMs_le (retryCappedMs priority retryCount)
  rw [retryDelayMs_eq, retryDelayMs_eq]
  omega

lemma retryCappedMs_order
    (h : (qxSchedulerPriorityWeight priority' < qxSchedulerPriorityWeight priority ∧
      retryCount = retryCount') ∨ (priority = priority' ∧ retryCount ≤ retryCount')) :
    retryCappedMs priority retryCount ≤ retryCappedMs priority' retryCount' ∧
      (retryCappedMs priority retryCount < retryCappedMs priority' retryCount' →
        retryCappedMs priority retryCount + jitterWindowMs (retryCappedMs priority retryCount) ≤
          retryCappedMs priority' retryCount') := by
  apply cappedMs_order _ (weight_base_mem priority) _ (weight_base_mem priority') _
    (retryDoublings_le retryCount) _ (retryDoublings_le retryCount')
  rcases h with ⟨hweight, rfl⟩ | ⟨rfl, hcount⟩
  · exact Or.inl ⟨hweight, rfl⟩
  · exact Or.inr ⟨rfl, retryDoublings_mono hcount⟩

lemma retryJitterMs_eq (h : retryCappedMs priority retryCount = retryCappedMs priority' retryCount) :
    retryJitterMs priority retryCount taskoid = retryJitterMs priority' retryCount taskoid := by
  unfold retryJitterMs
  rw [h]

end Order

/-- The base of the delay grows with the failures and shrinks with the weight of the priority; where
two bases are the same, the jitter alone orders the delays, and they are less than 1.5 s apart. -/
theorem retryDelayMs_order (priority priority' : Option CString) (retryCount retryCount' : Int)
    (taskoid taskoid' : Oid) :
    (retryCount ≤ retryCount' →
      retryCappedMs priority retryCount ≤ retryCappedMs priority retryCount' ∧
      (retryDelayMs priority retryCount taskoid ≤ retryDelayMs priority retryCount' taskoid ↔
        retryCappedMs priority retryCount < retryCappedMs priority retryCount' ∨
          retryJitterMs priority retryCount taskoid ≤ retryJitterMs priority retryCount' taskoid) ∧
      retryDelayMs priority retryCount taskoid <
        retryDelayMs priority retryCount' taskoid + 1500) ∧
    (qxSchedulerPriorityWeight priority' < qxSchedulerPriorityWeight priority →
      retryCappedMs priority retryCount ≤ retryCappedMs priority' retryCount ∧
      retryDelayMs priority retryCount taskoid ≤ retryDelayMs priority' retryCount taskoid ∧
      (retryDelayMs priority retryCount taskoid ≤ retryDelayMs priority' retryCount taskoid' ↔
        retryCappedMs priority retryCount < retryCappedMs priority' retryCount ∨
          retryJitterMs priority retryCount taskoid ≤ retryJitterMs priority' retryCount taskoid') ∧
      retryDelayMs priority retryCount taskoid <
        retryDelayMs priority' retryCount taskoid' + 1500) := by
  constructor
  · intro hcount
    have horder := retryCappedMs_order (Or.inr ⟨rfl, hcount⟩ :
      (qxSchedulerPriorityWeight priority < qxSchedulerPriorityWeight priority ∧
        retryCount = retryCount') ∨ (priority = priority ∧ retryCount ≤ retryCount'))
    exact ⟨horder.1, retryDelayMs_le_iff horder⟩
  · intro hweight
    have horder := retryCappedMs_order (Or.inl ⟨hweight, rfl⟩ :
      (qxSchedulerPriorityWeight priority' < qxSchedulerPriorityWeight priority ∧
        retryCount = retryCount) ∨ (priority = priority' ∧ retryCount ≤ retryCount))
    refine ⟨horder.1, (retryDelayMs_le_iff horder).1.mpr ?_, retryDelayMs_le_iff horder⟩
    rcases lt_or_eq_of_le horder.1 with hlt | heq
    · exact Or.inl hlt
    · exact Or.inr (retryJitterMs_eq heq).le

/-- A task of high priority waits longer after its second failure, and less long than a task of low
priority. -/
theorem retryDelayMs_high :
    retryDelayMs (some "high".toList) 1 16384 ≤ retryDelayMs (some "high".toList) 2 16384 ∧
      retryDelayMs (some "high".toList) 1 16384 ≤ retryDelayMs (some "low".toList) 1 16385 := by
  have horder := retryDelayMs_order (some "high".toList) (some "low".toList) 1 2 16384 16385
  obtain ⟨-, hcount, -⟩ := horder.1 (by decide)
  obtain ⟨-, -, hweight, -⟩ := horder.2 (by decide)
  exact ⟨hcount.mpr (Or.inl (by decide +kernel)), hweight.mpr (Or.inl (by decide +kernel))⟩

/-- A task of low priority waits less long after its third failure than after its second, and a task
of normal priority longer than one whose priority has no weight of its own. -/
theorem retryDelayMs_shrinks :
    retryDelayMs (some "low".toList) 3 16384 < retryDelayMs (some "low".toList) 2 16384 ∧
      qxSchedulerPriorityWeight (some "batch".toList) <
        qxSchedulerPriorityWeight (some "normal".toList) ∧
      retryDelayMs (some "batch".toList) 1 16385 < retryDelayMs (some "normal".toList) 1 16384 := by
  decide +kernel

/-! ## The computation in 32 bits -/

def checkedInt32 (n : Int) : Option Int :=
  if InInt32 n then some n else none

def leaseTtlMsChecked (lease : LeaseRow) : Option Int :=
  let ttl := lease.expiresAt - lease.renewedAt
  if ttl ≤ 0 then some 1 else (checkedInt32 (ttl / usecsPerMsec)).map (max · 1)

def retryBaseMsChecked (priority : CString) (leaseTtlMs : Int) : Option Int :=
  let base := max leaseTtlMs qxSchedulerWorkerNaptimeMs
  if pgStrcaseEq priority "urgent".toList || pgStrcaseEq priority "critical".toList then
    some (max (base / 2) qxSchedulerWorkerNaptimeMs)
  else if pgStrcaseEq priority "high".toList then
    (checkedInt32 (base * 3)).map fun product =>
      max (product / 4) (qxSchedulerWorkerNaptimeMs * 2)
  else if pgStrcaseEq priority "normal".toList then
    some (max base (qxSchedulerWorkerNaptimeMs * 3))
  else if pgStrcaseEq priority "low".toList then
    (checkedInt32 (base * 2)).map fun product => max product (qxSchedulerWorkerNaptimeMs * 5)
  else if pgStrcaseEq priority "idle".toList then
    (checkedInt32 (base * 3)).map fun product => max product (qxSchedulerWorkerNaptimeMs * 8)
  else some base

/-- `qx_runtime_retry_backoff_ms` with every signed operation checked; the seed is a `uint32`. -/
def retryBackoffMsChecked (priority : CString) (retryCount leaseTtlMs : Int) (taskoid : Oid) :
    Option Int := do
  let base ← retryBaseMsChecked priority leaseTtlMs
  let doublings ← checkedInt32 (max retryCount 1 - 1)
  let factor ← checkedInt32 (2 ^ (min doublings 3).toNat)
  let product ← checkedInt32 (base * factor)
  let capped := min product 60000
  let jitter ← checkedInt32 ((jitterSeed retryCount taskoid : Int) % jitterWindowMs capped)
  checkedInt32 (capped + jitter)

/-- The leases that the scheduler writes: granted for an envelope, renewed for the time they had,
released or reclaimed, and stored. -/
inductive SchedulerLease : LeaseRow → Prop
  | granted (now : TimestampTz) (request : EnvelopeRequest) (workeroid : Oid)
      (workerName : CString) :
      SchedulerLease (qxSchedulerLeaseSnapshotFromEnvelope now (qxSchedulerFillEnvelope request)
        workeroid workerName)
  | renewed (now : TimestampTz) {lease : LeaseRow} (h : SchedulerLease lease) :
      SchedulerLease (qxSchedulerRenewLeaseSnapshot now lease (qxRuntimeLeaseTtlMs lease))
  | released (now : TimestampTz) (needsRecovery : Bool) {lease : LeaseRow}
      (h : SchedulerLease lease) :
      SchedulerLease (qxSchedulerReleaseLeaseSnapshot now lease needsRecovery)
  | stored (oid queueoid : Oid) (workerName : CString) {lease : LeaseRow}
      (h : SchedulerLease lease) :
      SchedulerLease { lease with oid := oid, queueoid := queueoid, workerName := workerName }

lemma qxSchedulerDefaultLeaseTtlMs_le (priority : Option CString) :
    qxSchedulerDefaultLeaseTtlMs priority ≤ 24000 := by
  unfold qxSchedulerDefaultLeaseTtlMs qxSchedulerDefaultHeartbeatIntervalMs
  dsimp only
  split_ifs <;> decide

def LeaseRow.time (lease : LeaseRow) : Int :=
  lease.expiresAt - lease.renewedAt

lemma qxRuntimeLeaseTtlMs_bounds {lease : LeaseRow} (h : lease.time ≤ 24000000) :
    (1 ≤ qxRuntimeLeaseTtlMs lease ∧ qxRuntimeLeaseTtlMs lease ≤ 24000) ∧
      leaseTtlMsChecked lease = some (qxRuntimeLeaseTtlMs lease) := by
  change (1 ≤ (if lease.time ≤ 0 then 1 else max (wrapInt32 (lease.time / 1000)) 1) ∧
    (if lease.time ≤ 0 then 1 else max (wrapInt32 (lease.time / 1000)) 1) ≤ 24000) ∧
    (if lease.time ≤ 0 then some 1 else (checkedInt32 (lease.time / 1000)).map (max · 1)) =
      some (if lease.time ≤ 0 then 1 else max (wrapInt32 (lease.time / 1000)) 1)
  by_cases hpos : lease.time ≤ 0
  · simp [hpos]
  · have hrange : InInt32 (lease.time / 1000) := by
      unfold InInt32
      omega
    rw [if_neg hpos, if_neg hpos, wrapInt32_of_range hrange, checkedInt32, if_pos hrange]
    refine ⟨?_, rfl⟩
    omega

lemma SchedulerLease.time_le {lease : LeaseRow} (h : SchedulerLease lease) :
    lease.time ≤ 24000000 := by
  have hgiven {now ttl : Int} (hbound : ttl ≤ 24000) : now + ttl * 1000 - now ≤ 24000000 := by
    omega
  induction h with
  | granted now request workeroid workerName =>
    exact hgiven (qxSchedulerDefaultLeaseTtlMs_le (qxEffectivePriorityName request.priority))
  | @renewed now lease _ ih => exact hgiven (qxRuntimeLeaseTtlMs_bounds ih).1.2
  | released now needsRecovery _ _ =>
    show now - now ≤ 24000000
    rw [Int.sub_self]
    decide
  | stored oid queueoid workerName _ ih => exact ih

lemma checkedInt32_of_range {n : Int} (h : InInt32 n) : checkedInt32 n = some n :=
  if_pos h

lemma some_bind_eq {n : Int} {f : Int → Option Int} : (some n >>= f) = f n :=
  rfl

section Checked

variable {priority : CString} {leaseTtlMs retryCount : Int}

lemma retryBaseMs_bounds (priority : CString) (h : leaseTtlMs ≤ 24000) :
    1000 ≤ retryBaseMs priority leaseTtlMs ∧ retryBaseMs priority leaseTtlMs ≤ 72000 := by
  rw [retryBaseMs_eq]
  cases priorityClass priority <;> simp only [PriorityClass.baseMs] <;> omega

lemma retryBaseMsChecked_eq (h : leaseTtlMs ≤ 24000) :
    retryBaseMsChecked priority leaseTtlMs = some (retryBaseMs priority leaseTtlMs) := by
  have htwice : InInt32 (max leaseTtlMs 1000 * 2) := by
    unfold InInt32
    omega
  have hthrice : InInt32 (max leaseTtlMs 1000 * 3) := by
    unfold InInt32
    omega
  unfold retryBaseMsChecked retryBaseMs qxSchedulerWorkerNaptimeMs
  dsimp only
  rw [checkedInt32_of_range htwice, checkedInt32_of_range hthrice]
  split_ifs <;> rfl

lemma cappedMs_bounds {base : Int} (hbase : 1000 ≤ base) (doublings : Nat) :
    1000 ≤ cappedMs base doublings ∧ cappedMs base doublings ≤ 60000 := by
  have hpow : (1 : Int) ≤ 2 ^ doublings := one_le_pow₀ (by decide)
  have hle : base * 1 ≤ base * 2 ^ doublings := mul_le_mul_of_nonneg_left hpow (by omega)
  unfold cappedMs
  omega

lemma jitter_bounds (retryCount : Int) (taskoid : Oid) (capped : Int) :
    0 ≤ (jitterSeed retryCount taskoid : Int) % jitterWindowMs capped ∧
      (jitterSeed retryCount taskoid : Int) % jitterWindowMs capped < 1500 :=
  ⟨Int.emod_nonneg _ (jitterWindowMs_pos capped).ne',
    (Int.emod_lt_of_pos _ (jitterWindowMs_pos capped)).trans_le (jitterWindowMs_le capped)⟩

lemma qxRuntimeRetryBackoffMs_bounds (priority : CString) (retryCount : Int)
    (h : leaseTtlMs ≤ 24000) (taskoid : Oid) :
    1000 ≤ qxRuntimeRetryBackoffMs priority retryCount leaseTtlMs taskoid ∧
      qxRuntimeRetryBackoffMs priority retryCount leaseTtlMs taskoid ≤ 61499 := by
  have hcapped := cappedMs_bounds (retryBaseMs_bounds priority h).1
    (retryDoublings retryCount)
  rw [qxRuntimeRetryBackoffMs_eq]
  set capped := cappedMs (retryBaseMs priority leaseTtlMs) (retryDoublings retryCount)
  have hjitter := jitter_bounds retryCount taskoid capped
  omega

lemma retryBackoffMsChecked_eq (h : leaseTtlMs ≤ 24000) (hcount : InInt32 retryCount)
    (taskoid : Oid) :
    retryBackoffMsChecked priority retryCount leaseTtlMs taskoid =
      some (qxRuntimeRetryBackoffMs priority retryCount leaseTtlMs taskoid) := by
  have hbase := retryBaseMs_bounds priority h
  have hdoublings : InInt32 (max retryCount 1 - 1) := by
    unfold InInt32 at hcount ⊢
    omega
  have hsame : (min (max retryCount 1 - 1) 3).toNat = retryDoublings retryCount := by
    unfold retryDoublings
    omega
  have hfactor : (0 : Int) ≤ 2 ^ retryDoublings retryCount ∧
      (2 : Int) ^ retryDoublings retryCount ≤ 8 :=
    ⟨pow_nonneg (by decide) _, pow_le_pow_right₀ (by decide) (retryDoublings_le retryCount)⟩
  have hproduct : InInt32 (retryBaseMs priority leaseTtlMs * 2 ^ retryDoublings retryCount) := by
    have hle := mul_le_mul hbase.2 hfactor.2 hfactor.1 (by decide)
    have hge := mul_nonneg (a := retryBaseMs priority leaseTtlMs) (by omega) hfactor.1
    unfold InInt32
    omega
  have hcapped := cappedMs_bounds hbase.1 (retryDoublings retryCount)
  have hjitter := jitter_bounds retryCount taskoid
    (cappedMs (retryBaseMs priority leaseTtlMs) (retryDoublings retryCount))
  rw [qxRuntimeRetryBackoffMs_eq]
  generalize hseed : jitterSeed retryCount taskoid = seed at hjitter ⊢
  unfold retryBackoffMsChecked
  rw [hseed, retryBaseMsChecked_eq h, some_bind_eq, checkedInt32_of_range hdoublings, some_bind_eq,
    hsame, checkedInt32_of_range (by unfold InInt32; omega), some_bind_eq,
    checkedInt32_of_range hproduct, some_bind_eq]
  set capped := cappedMs (retryBaseMs priority leaseTtlMs) (retryDoublings retryCount) with hdef
  have hrange : InInt32 ((seed : Int) % jitterWindowMs capped) := by
    unfold InInt32
    omega
  have hsum : InInt32 (capped + (seed : Int) % jitterWindowMs capped) := by
    unfold InInt32
    omega
  change (checkedInt32 ((seed : Int) % jitterWindowMs capped) >>=
    fun jitter => checkedInt32 (capped + jitter)) = _
  rw [checkedInt32_of_range hrange, some_bind_eq, checkedInt32_of_range hsum]

end Checked

/-- Whatever lease the scheduler wrote, no signed operation on the way to the delay overflows. -/
theorem retry_delay_in_range {lease : LeaseRow} (h : SchedulerLease lease) (priority : CString)
    {retryCount : Int} (hcount : InInt32 retryCount) (taskoid : Oid) :
    ((leaseTtlMsChecked lease).bind fun leaseTtlMs =>
        retryBackoffMsChecked priority retryCount leaseTtlMs taskoid) =
      some (qxRuntimeRetryBackoffMs priority retryCount (qxRuntimeLeaseTtlMs lease) taskoid) ∧
    1000 ≤ qxRuntimeRetryBackoffMs priority retryCount (qxRuntimeLeaseTtlMs lease) taskoid ∧
    qxRuntimeRetryBackoffMs priority retryCount (qxRuntimeLeaseTtlMs lease) taskoid ≤ 61499 := by
  obtain ⟨⟨-, hle⟩, hread⟩ := qxRuntimeLeaseTtlMs_bounds h.time_le
  refine ⟨?_, qxRuntimeRetryBackoffMs_bounds priority retryCount hle taskoid⟩
  rw [hread, Option.bind_some]
  exact retryBackoffMsChecked_eq hle hcount taskoid

def urgentRequest : EnvelopeRequest :=
  ⟨10, 1, 2, 3, 4, 16384, 6, none, none, none, none, some "urgent".toList, none, none, false, true,
    true, 100, 100, 1, 1, 1, none⟩

/-- The lease of an urgent task, and the largest retry count. -/
theorem retry_delay_urgent :
    1000 ≤ qxRuntimeRetryBackoffMs "urgent".toList (2 ^ 31 - 1)
      (qxRuntimeLeaseTtlMs (qxSchedulerLeaseSnapshotFromEnvelope 0
        (qxSchedulerFillEnvelope urgentRequest) 0 [])) 16384 :=
  (retry_delay_in_range (.granted 0 urgentRequest 0 []) "urgent".toList (by decide) 16384).2.1

end QhapaqXian
