import QhapaqXian.Proofs.Receipts
import QhapaqXian.Proofs.RetryRuns

/-!
# Receipts along a run

The payload of a receipt names the phase and the task, and nothing that tells two executions of one
phase of one task apart. A receipt is therefore good for one execution in the runs that execute no
phase of a task twice.
-/

namespace QhapaqXian

open Library

def Execution.Accepts (scheme : SignatureScheme) (execution : Execution)
    (profile : QxSandboxProfile) (receiptKey : CString) (response : QxExternalToolResult) : Prop :=
  qxValidateExternalResult scheme
    (qxExpectedResult execution.contract execution.phase.name execution.taskoid profile) receiptKey
    response = .ok ()

/-- No signature verifies for two payloads, under whatever keys. -/
def SignatureScheme.BindsAlways (scheme : SignatureScheme) : Prop :=
  ∀ alg alg' receiptKey receiptKey' payload payload' signature,
    verifyReceipt scheme alg receiptKey payload signature = .ok () →
    verifyReceipt scheme alg' receiptKey' payload' signature = .ok () → payload = payload'

/-- Two executions of one phase of one task. -/
def Execution.SamePhase (first second : Execution) : Prop :=
  first.taskoid = second.taskoid ∧ first.phase = second.phase

instance (first second : Execution) : Decidable (first.SamePhase second) :=
  inferInstanceAs (Decidable (_ ∧ _))

/-- A receipt that is accepted for the first execution is not accepted for the second. -/
def Execution.Separate (scheme : SignatureScheme) (first second : Execution) : Prop :=
  ∀ profile profile' receiptKey receiptKey' response response',
    first.Accepts scheme profile receiptKey response →
    second.Accepts scheme profile' receiptKey' response' →
    response.receiptSignature ≠ response'.receiptSignature

lemma ToolPhase.name_injective : Function.Injective ToolPhase.name := by
  intro phase phase' h
  cases phase <;> cases phase' <;> first | rfl | exact absurd h (by decide)

lemma samePhase_of_payload_eq {first second : Execution} {profile profile' : QxSandboxProfile}
    {response response' : QxExternalToolResult}
    (h : qxReceiptPayload
        (qxExpectedResult first.contract first.phase.name first.taskoid profile) response =
      qxReceiptPayload
        (qxExpectedResult second.contract second.phase.name second.taskoid profile') response') :
    first.SamePhase second := by
  have hphase (phase : ToolPhase) : ';' ∉ phase.name := by
    cases phase <;> decide
  have htask (taskoid : Oid) : ';' ∉ formatUnsigned taskoid := notMem_formatUnsigned (by decide)
  obtain ⟨hname, hrest⟩ := renderFields_value_inj (hphase _) (hphase _) h
  obtain ⟨hnumber, -⟩ := renderFields_value_inj (htask _) (htask _) hrest
  exact ⟨formatUnsigned_injective hnumber, ToolPhase.name_injective hname⟩

lemma Execution.separate_of_not_samePhase {scheme : SignatureScheme} (hbinds : scheme.BindsAlways)
    {first second : Execution} (h : ¬ first.SamePhase second) : first.Separate scheme second := by
  intro profile profile' receiptKey receiptKey' response response' hfirst hsecond hsame
  obtain ⟨-, signature, hsigned, hverified⟩ := qxValidateExternalResult_eq_ok_iff.mp hfirst
  obtain ⟨-, signature', hsigned', hverified'⟩ := qxValidateExternalResult_eq_ok_iff.mp hsecond
  obtain rfl : signature = signature' :=
    Option.some.inj (hsigned.symm.trans (hsame.trans hsigned'))
  exact h (samePhase_of_payload_eq (hbinds _ _ _ _ _ _ _ hverified hverified'))

/-! ## Runs -/

/-- The event executes no phase of a task that has been executed before, and none twice. -/
def newPhases (world : World) (event : Event) : Prop :=
  (world.executed event).Pairwise (fun first second => ¬ first.SamePhase second) ∧
    ∀ earlier ∈ world.executions, ∀ execution ∈ world.executed event,
      ¬ earlier.SamePhase execution

lemma newPhases_next {world : World} {event : Event} (hallowed : newPhases world event)
    (h : world.executions.Pairwise fun first second => ¬ first.SamePhase second) :
    (world.next event).executions.Pairwise fun first second => ¬ first.SamePhase second :=
  List.pairwise_append.mpr ⟨h, hallowed.1, hallowed.2⟩

lemma World.executions_prefix_run (world : World) (events : List Event) :
    world.executions <+: (world.run events).executions := by
  induction events generalizing world with
  | nil => exact List.prefix_rfl
  | cons event events ih => exact (List.prefix_append _ _).trans (ih (world.next event))

lemma World.leads_newPhases {world : World} {events : List Event}
    (h : (world.run events).executions.Pairwise fun first second => ¬ first.SamePhase second) :
    World.Leads newPhases world (world.run events) := by
  induction events generalizing world with
  | nil => exact .refl
  | cons event events ih =>
    have hnext := h.sublist ((world.next event).executions_prefix_run events).sublist
    obtain ⟨-, hnew, hearlier⟩ := List.pairwise_append.mp hnext
    exact .head ⟨event, ⟨hnew, hearlier⟩, rfl⟩ (ih h)

/-! ## A retry and its receipt -/

def receiptAuthorization : Except QxError ToolAuthorization :=
  .ok ⟨some "standard".toList, [receiptContract], 4, 2, false⟩

def receiptReclaim : List Event :=
  [ ⟨1, demoEnv 1000, .startUncheckpointedTask 1 "normal".toList receiptAuthorization, .commit⟩,
    ⟨2, demoEnv 1000000000, .schedulerCycle demoSlot, .commit⟩,
    ⟨2, demoEnv 2000000000, .schedulerCycle demoSlot, .commit⟩ ]

def receiptRetry (now : TimestampTz) (fate : Fate) : Event :=
  ⟨2, demoEnv now, .retryCycle demoSlot, fate⟩

/-- A task that was retried and then resumed. -/
def retriedAndResumed : World :=
  (World.initial demoAgents).run (receiptReclaim ++
    [receiptRetry 3000000000 .commit, ⟨1, demoEnv 4000000000, .resumeTask ⟨1, none⟩, .commit⟩])

/-- A stand-in for a scheme that binds: the payload is its own signature. -/
def plainScheme : SignatureScheme :=
  ⟨fun _ payload => payload, none⟩

lemma plainScheme_bindsAlways : plainScheme.BindsAlways := by
  have hsigned (alg : Option CString) (receiptKey payload signature : CString)
      (h : verifyReceipt plainScheme alg receiptKey payload signature = .ok ()) :
      signature = payload := by
    by_cases halg : alg = some "ed25519".toList
    · rw [verifyReceipt, if_pos halg] at h
      cases h
    · exact (verifyReceipt_hmac_eq_ok_iff halg).mp h
  intro alg alg' receiptKey receiptKey' payload payload' signature h h'
  rw [← hsigned _ _ _ _ h, ← hsigned _ _ _ _ h']

/-- A task whose first retry is rolled back after its tool has been executed. -/
def retriedTwice : World :=
  (World.initial demoAgents).run (receiptReclaim ++
    [receiptRetry 3000000000 (.rollback 100), receiptRetry 4000000000 .commit])

end QhapaqXian
