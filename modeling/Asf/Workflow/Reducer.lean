import Asf.Lib.Trace
import Asf.Steps.Requests

/-!
# The workflow reducer (`src/application/workflow.rs`)

`WorkflowReducer::apply` moves an accepted item's workflow from stage to stage
on observed facts. Each accepted fact names the effects to run next and the
accountability anchor that answers for the item meanwhile.

`u32` and date arithmetic is taken without overflow: chrono panics where the sum
of an instant and a duration is out of range.

Results:

* `apply_takes`: what an accepted fact does, by the arms of `apply` and
  `handle_run_stop` (`Takes`).
* `workflow_step_takes`: the same for a step of a run.
-/

namespace Asf.Workflow

open Steps (EscalationCategory)

/-! ## Stages, facts and effects -/

/-- `WorkflowStage` (lines 12-27). -/
inductive WorkflowStage where
  | accepted | waitingSchedule | authorizing | dispatching | observingRun | verifyingEvidence
  | closingSource | closed | waitingRetry | waitingApproval | escalated | cancelling | cancelled
  | quarantined
deriving DecidableEq, Repr

/-- `AccountabilityKind` (accountability.rs:8-19). -/
inductive AccountabilityKind where
  | activeWorkflow | activeRun | timer | retry | approval | escalation | verifiedClosure
  | cancellation
deriving DecidableEq, Repr

/-- `AccountabilityAnchor` (accountability.rs:22-31). -/
structure AccountabilityAnchor where
  workItemId : Uuid
  kind : AccountabilityKind
  referenceId : String
  wakeOrDeadlineAt : Option DateTime
  generation : ℕ
  updatedAt : DateTime
deriving DecidableEq

/-- `ApprovalType` (approval.rs:8-19). -/
inductive ApprovalType where
  | plannerInterpretation | riskImplementation | protectedPath | pullRequestDeliveryException
  | guardedMerge | ambiguousExternalEffect | budgetIncrease | cancellation
deriving DecidableEq, Repr

/-- `WorkflowState` (lines 31-40). -/
structure WorkflowState where
  workItemId : Uuid
  stage : WorkflowStage
  generation : ℕ
  (runId evidenceId : Option Uuid)
  (attemptNumber retryCount : ℕ)
  accountability : AccountabilityAnchor
deriving DecidableEq

/-- `RunStop` (lines 62-94). -/
inductive RunStop where
  | evidenceAvailable (evidenceId : Uuid)
  | retryableFailure (reason : String)
  | approvalRequired (approvalType : ApprovalType) (reason : String)
  | budgetExhausted (reason : String)
  | providerRefused (reason : String)
  | verificationFailed (reason : String)
  | reviewBlocked (reason : String)
  | ciFailed (reason : String)
  | ambiguousRemoteEffect (reason : String)
  | quarantined (reason : String)
  | cancelled
deriving DecidableEq

/-- `WorkflowFact` (lines 43-59). -/
inductive WorkflowFact where
  | scheduleRequested
  | scheduleGranted
  | workOrderStored (digest : String)
  | submissionAccepted (runId : Uuid)
  | submissionAmbiguous
  | runStopped (stop : RunStop)
  | evidenceValidated (evidenceId : Uuid)
  | evidenceRejected (reason : String)
  | sourceCloseConfirmed
  | sourceCloseAmbiguous
  | retryDue
  | approvalGranted (approvalType : ApprovalType)
  | approvalRejected (reason : String)
  | cancelRequested
  | cancellationConfirmed
deriving DecidableEq

/-- `WorkflowEffect` (lines 98-129). -/
inductive WorkflowEffect where
  | enqueueScheduler
  | reserveAndCreateAttempt
  | signAndStoreWorkOrder
  | submitStoredWorkOrder
  | observeRun (runId : Uuid)
  | reconcileSubmission
  | fetchAndVerifyEvidence (evidenceId : Uuid)
  | scheduleRetry (at_ : DateTime) (reason : String)
  | requestApproval (approvalType : ApprovalType) (reason : String)
  | openEscalation (category : EscalationCategory) (reason : String)
  | closeSource (evidenceId : Uuid)
  | reconcileSourceClosure
  | requestRunCancellation
  | releaseReservations
  | none
deriving DecidableEq

/-- `WorkflowTransition` (lines 132-135). -/
structure WorkflowTransition where
  state : WorkflowState
  effects : List WorkflowEffect
deriving DecidableEq

/-! ## Derived `Debug` texts -/

def WorkflowStage.debugName : WorkflowStage → String
  | .accepted => "Accepted"
  | .waitingSchedule => "WaitingSchedule"
  | .authorizing => "Authorizing"
  | .dispatching => "Dispatching"
  | .observingRun => "ObservingRun"
  | .verifyingEvidence => "VerifyingEvidence"
  | .closingSource => "ClosingSource"
  | .closed => "Closed"
  | .waitingRetry => "WaitingRetry"
  | .waitingApproval => "WaitingApproval"
  | .escalated => "Escalated"
  | .cancelling => "Cancelling"
  | .cancelled => "Cancelled"
  | .quarantined => "Quarantined"

def categoryName : EscalationCategory → String
  | .needsSpec => "NeedsSpec"
  | .needsApproval => "NeedsApproval"
  | .blockedDependency => "BlockedDependency"
  | .blockedExternal => "BlockedExternal"
  | .identityUnavailable => "IdentityUnavailable"
  | .workerUnavailable => "WorkerUnavailable"
  | .verificationFailed => "VerificationFailed"
  | .reviewBlocked => "ReviewBlocked"
  | .ciFailed => "CiFailed"
  | .remoteEffectAmbiguous => "RemoteEffectAmbiguous"
  | .budgetExhausted => "BudgetExhausted"
  | .providerRefused => "ProviderRefused"
  | .policyRefused => "PolicyRefused"
  | .workflowJobExhausted => "WorkflowJobExhausted"
  | .quarantined => "Quarantined"
  | .securityIncident => "SecurityIncident"

def ApprovalType.debugName : ApprovalType → String
  | .plannerInterpretation => "PlannerInterpretation"
  | .riskImplementation => "RiskImplementation"
  | .protectedPath => "ProtectedPath"
  | .pullRequestDeliveryException => "PullRequestDeliveryException"
  | .guardedMerge => "GuardedMerge"
  | .ambiguousExternalEffect => "AmbiguousExternalEffect"
  | .budgetIncrease => "BudgetIncrease"
  | .cancellation => "Cancellation"

/-- A struct-like variant with one field. -/
def debugVariant (name field value : String) : String := s!"{name} \x7b {field}: {value} \x7d"

def RunStop.debug : RunStop → String
  | .evidenceAvailable evidenceId =>
    debugVariant "EvidenceAvailable" "evidence_id" s!"EvidenceId({evidenceId})"
  | .retryableFailure reason => debugVariant "RetryableFailure" "reason" (debugText reason)
  | .approvalRequired approvalType reason =>
    debugVariant "ApprovalRequired" "approval_type"
      s!"{approvalType.debugName}, reason: {debugText reason}"
  | .budgetExhausted reason => debugVariant "BudgetExhausted" "reason" (debugText reason)
  | .providerRefused reason => debugVariant "ProviderRefused" "reason" (debugText reason)
  | .verificationFailed reason => debugVariant "VerificationFailed" "reason" (debugText reason)
  | .reviewBlocked reason => debugVariant "ReviewBlocked" "reason" (debugText reason)
  | .ciFailed reason => debugVariant "CiFailed" "reason" (debugText reason)
  | .ambiguousRemoteEffect reason =>
    debugVariant "AmbiguousRemoteEffect" "reason" (debugText reason)
  | .quarantined reason => debugVariant "Quarantined" "reason" (debugText reason)
  | .cancelled => "Cancelled"

def WorkflowFact.debug : WorkflowFact → String
  | .scheduleRequested => "ScheduleRequested"
  | .scheduleGranted => "ScheduleGranted"
  | .workOrderStored digest => debugVariant "WorkOrderStored" "digest" (debugText digest)
  | .submissionAccepted runId => debugVariant "SubmissionAccepted" "run_id" s!"RunId({runId})"
  | .submissionAmbiguous => "SubmissionAmbiguous"
  | .runStopped stop => s!"RunStopped({stop.debug})"
  | .evidenceValidated evidenceId =>
    debugVariant "EvidenceValidated" "evidence_id" s!"EvidenceId({evidenceId})"
  | .evidenceRejected reason => debugVariant "EvidenceRejected" "reason" (debugText reason)
  | .sourceCloseConfirmed => "SourceCloseConfirmed"
  | .sourceCloseAmbiguous => "SourceCloseAmbiguous"
  | .retryDue => "RetryDue"
  | .approvalGranted approvalType =>
    debugVariant "ApprovalGranted" "approval_type" approvalType.debugName
  | .approvalRejected reason => debugVariant "ApprovalRejected" "reason" (debugText reason)
  | .cancelRequested => "CancelRequested"
  | .cancellationConfirmed => "CancellationConfirmed"

/-! ## The reducer -/

/-- `chrono::Duration`, in nanoseconds. -/
structure TimeDelta where
  nanos : ℤ
deriving DecidableEq

namespace TimeDelta

/-- `Duration::seconds`. -/
def seconds (n : ℤ) : TimeDelta := ⟨n * 1000000000⟩

/-- `now + delta`. -/
def after (delta : TimeDelta) (now : DateTime) : DateTime := ⟨now.nanos + delta.nanos⟩

/-- `delta * n`. -/
def times (delta : TimeDelta) (n : ℤ) : TimeDelta := ⟨delta.nanos * n⟩

end TimeDelta

/-- `anchor` (lines 472-489). -/
def anchor (workItemId : Uuid) (kind : AccountabilityKind) (referenceId : String)
    (wakeOrDeadlineAt : Option DateTime) (generation : ℕ) (now : DateTime) :
    AccountabilityAnchor where
  workItemId := workItemId
  kind := kind
  referenceId := referenceId
  wakeOrDeadlineAt := wakeOrDeadlineAt
  generation := generation
  updatedAt := now

/-- `WorkflowState::accepted` (lines 139-157). -/
def WorkflowState.accepted (workItemId : Uuid) (now : DateTime) : WorkflowState where
  workItemId := workItemId
  stage := .accepted
  generation := 1
  runId := none
  evidenceId := none
  attemptNumber := 0
  retryCount := 0
  accountability := anchor workItemId .activeWorkflow "workflow:accepted" none 1 now

/-- The tuple the arms of `apply` compute. -/
structure Arm where
  stage : WorkflowStage
  effects : List WorkflowEffect
  kind : AccountabilityKind
  reference : String
  wake : Option DateTime
deriving DecidableEq

/-- `escalation` (lines 451-470). -/
def escalation (stage : WorkflowStage) (category : EscalationCategory) (reason : String)
    (deadline : DateTime) : Arm where
  stage := stage
  effects := [.openEscalation category reason]
  kind := .escalation
  reference := s!"escalation:{categoryName category}"
  wake := some deadline

/-- `WorkflowReducer` (lines 161-166). -/
structure WorkflowReducer where
  (retryBackoff escalationSla approvalSla : TimeDelta)
  maxRetries : ℕ

namespace WorkflowReducer

variable (reducer : WorkflowReducer)

/-- `WorkflowReducer::default` (lines 168-177). -/
def default : WorkflowReducer where
  retryBackoff := .seconds (5 * 60)
  escalationSla := .seconds (4 * 3600)
  approvalSla := .seconds (8 * 3600)
  maxRetries := 2

/-- When the retry numbered `retryCount` is due (lines 366-367). -/
def retryAt (retryCount : ℕ) (now : DateTime) : DateTime :=
  (reducer.retryBackoff.times (min (retryCount : ℤ) i32Max)).after now

/-- `WorkflowReducer::handle_run_stop` (lines 344-448): the state with its
    counters set and the arm. -/
def handleRunStop (state : WorkflowState) (stop : RunStop) (now : DateTime) : WorkflowState × Arm :=
  let deadline := reducer.escalationSla.after now
  match stop with
  | .evidenceAvailable evidenceId =>
    (state, ⟨.verifyingEvidence, [.fetchAndVerifyEvidence evidenceId], .activeWorkflow,
      s!"evidence:{evidenceId}:verify", none⟩)
  | .retryableFailure reason =>
    if state.retryCount < reducer.maxRetries then
      let state := { state with retryCount := state.retryCount + 1 }
      let at_ := reducer.retryAt state.retryCount now
      (state, ⟨.waitingRetry, [.scheduleRetry at_ reason], .retry,
        s!"retry:{state.retryCount}:{reason}", some at_⟩)
    else
      (state, escalation .escalated .blockedExternal s!"retry limit reached: {reason}" deadline)
  | .approvalRequired approvalType reason =>
    (state, ⟨.waitingApproval, [.requestApproval approvalType reason], .approval,
      s!"approval:{approvalType.debugName}:{reason}", some (reducer.approvalSla.after now)⟩)
  | .budgetExhausted reason => (state, escalation .escalated .budgetExhausted reason deadline)
  | .providerRefused reason => (state, escalation .escalated .providerRefused reason deadline)
  | .verificationFailed reason =>
    (state, escalation .escalated .verificationFailed reason deadline)
  | .reviewBlocked reason => (state, escalation .escalated .reviewBlocked reason deadline)
  | .ciFailed reason => (state, escalation .escalated .ciFailed reason deadline)
  | .ambiguousRemoteEffect reason =>
    (state, escalation .escalated .remoteEffectAmbiguous reason deadline)
  | .quarantined reason => (state, escalation .quarantined .quarantined reason deadline)
  | .cancelled =>
    (state, ⟨.cancelled, [.releaseReservations], .cancellation, "run:cancelled", none⟩)

/-- The stages a cancellation is accepted in (lines 298-311). -/
def isCancellable : WorkflowStage → Bool
  | .accepted | .waitingSchedule | .authorizing | .dispatching | .observingRun
  | .verifyingEvidence | .waitingRetry | .waitingApproval | .escalated | .quarantined => true
  | _ => false

/-- The `match` of `WorkflowReducer::apply` (lines 191-330). -/
def arm (state : WorkflowState) (fact : WorkflowFact) (now : DateTime) :
    Result (WorkflowState × Arm) :=
  match state.stage, fact with
  | .accepted, .scheduleRequested =>
    .ok (state, ⟨.waitingSchedule, [.enqueueScheduler], .activeWorkflow, "scheduler:queued", none⟩)
  | .waitingSchedule, .scheduleGranted =>
    let state := { state with attemptNumber := state.attemptNumber + 1 }
    .ok (state, ⟨.authorizing, [.reserveAndCreateAttempt], .activeWorkflow,
      s!"attempt:{state.attemptNumber}:authorizing", none⟩)
  | .authorizing, .workOrderStored digest =>
    .ok (state, ⟨.dispatching, [.submitStoredWorkOrder], .activeWorkflow, digest, none⟩)
  | .dispatching, .submissionAccepted runId =>
    .ok ({ state with runId := some runId },
      ⟨.observingRun, [.observeRun runId], .activeRun, runId.toText, none⟩)
  | .dispatching, .submissionAmbiguous =>
    .ok (state, ⟨.dispatching, [.reconcileSubmission], .timer, "dispatch:reconcile",
      some ((TimeDelta.seconds 10).after now)⟩)
  | .observingRun, .runStopped stop => .ok (reducer.handleRunStop state stop now)
  | .verifyingEvidence, .evidenceValidated evidenceId =>
    .ok ({ state with evidenceId := some evidenceId },
      ⟨.closingSource, [.closeSource evidenceId], .activeWorkflow, s!"source-close:{evidenceId}",
        none⟩)
  | .verifyingEvidence, .evidenceRejected reason =>
    .ok (state, ⟨.quarantined, [.openEscalation .verificationFailed reason], .escalation,
      "escalation:verification-failed", some (reducer.escalationSla.after now)⟩)
  | .closingSource, .sourceCloseConfirmed =>
    .ok (state, ⟨.closed, [.releaseReservations], .verifiedClosure,
      state.evidenceId.elim "evidence:missing" Uuid.toText, none⟩)
  | .closingSource, .sourceCloseAmbiguous =>
    .ok (state, ⟨.closingSource, [.reconcileSourceClosure], .timer, "source-close:reconcile",
      some ((TimeDelta.seconds 30).after now)⟩)
  | .waitingRetry, .retryDue =>
    .ok (state, ⟨.waitingSchedule, [.enqueueScheduler], .activeWorkflow, "scheduler:retry", none⟩)
  | .waitingApproval, .approvalGranted _ =>
    .ok (state,
      ⟨.waitingSchedule, [.enqueueScheduler], .activeWorkflow, "scheduler:approved", none⟩)
  | .waitingApproval, .approvalRejected reason =>
    .ok (state, ⟨.escalated, [.openEscalation .needsApproval reason], .escalation,
      "escalation:approval-rejected", some (reducer.escalationSla.after now)⟩)
  | .cancelling, .cancellationConfirmed =>
    .ok (state, ⟨.cancelled, [.releaseReservations], .cancellation, "cancelled", none⟩)
  | current, fact =>
    if isCancellable current ∧ fact = .cancelRequested then
      .ok (state, ⟨.cancelling, [.requestRunCancellation], .activeWorkflow,
        "cancellation:requested", none⟩)
    else .error (.invalidTransition current.debugName fact.debug)

/-- The state and the effects an arm leaves (lines 331-341). -/
def finish (state : WorkflowState) (arm : Arm) (now : DateTime) : WorkflowTransition where
  state :=
    { state with
      stage := arm.stage
      accountability :=
        anchor state.workItemId arm.kind arm.reference arm.wake state.generation now }
  effects := arm.effects

/-- `WorkflowReducer::apply` (lines 180-342). -/
def apply (state : WorkflowState) (fact : WorkflowFact) (now : DateTime) :
    Result WorkflowTransition := do
  failIf (u64Max < state.generation + 1) (.conflict "workflow generation overflowed")
  let (state, arm) ← reducer.arm { state with generation := state.generation + 1 } fact now
  return finish state arm now

end WorkflowReducer

/-! ## The arms as a relation -/

/-- The stops that `handle_run_stop` turns into an escalation. -/
def RunStop.escalates : RunStop → Bool
  | .evidenceAvailable _ | .approvalRequired _ _ | .cancelled => false
  | _ => true

/-- One accepted fact: the stage it is accepted in, the state with its counters
    set, and the arm. The escalations of `handle_run_stop` are one case. -/
inductive Takes (reducer : WorkflowReducer) (now : DateTime) (state : WorkflowState) :
    WorkflowFact → WorkflowState → Arm → Prop
  | schedule (h : state.stage = .accepted) :
    Takes reducer now state .scheduleRequested state
      ⟨.waitingSchedule, [.enqueueScheduler], .activeWorkflow, "scheduler:queued", none⟩
  | grant (h : state.stage = .waitingSchedule) :
    Takes reducer now state .scheduleGranted
      { state with attemptNumber := state.attemptNumber + 1 }
      ⟨.authorizing, [.reserveAndCreateAttempt], .activeWorkflow,
        s!"attempt:{state.attemptNumber + 1}:authorizing", none⟩
  | store (digest : String) (h : state.stage = .authorizing) :
    Takes reducer now state (.workOrderStored digest) state
      ⟨.dispatching, [.submitStoredWorkOrder], .activeWorkflow, digest, none⟩
  | submit (runId : Uuid) (h : state.stage = .dispatching) :
    Takes reducer now state (.submissionAccepted runId) { state with runId := some runId }
      ⟨.observingRun, [.observeRun runId], .activeRun, runId.toText, none⟩
  | submitAmbiguous (h : state.stage = .dispatching) :
    Takes reducer now state .submissionAmbiguous state
      ⟨.dispatching, [.reconcileSubmission], .timer, "dispatch:reconcile",
        some ((TimeDelta.seconds 10).after now)⟩
  | evidence (evidenceId : Uuid) (h : state.stage = .observingRun) :
    Takes reducer now state (.runStopped (.evidenceAvailable evidenceId)) state
      ⟨.verifyingEvidence, [.fetchAndVerifyEvidence evidenceId], .activeWorkflow,
        s!"evidence:{evidenceId}:verify", none⟩
  | retry (reason : String) (at_ : DateTime) (h : state.stage = .observingRun)
      (hcount : state.retryCount < reducer.maxRetries) :
    Takes reducer now state (.runStopped (.retryableFailure reason))
      { state with retryCount := state.retryCount + 1 }
      ⟨.waitingRetry, [.scheduleRetry at_ reason], .retry,
        s!"retry:{state.retryCount + 1}:{reason}", some at_⟩
  | ask (approvalType : ApprovalType) (reason : String) (h : state.stage = .observingRun) :
    Takes reducer now state (.runStopped (.approvalRequired approvalType reason)) state
      ⟨.waitingApproval, [.requestApproval approvalType reason], .approval,
        s!"approval:{approvalType.debugName}:{reason}", some (reducer.approvalSla.after now)⟩
  | escalate (stop : RunStop) (stage : WorkflowStage) (category : EscalationCategory)
      (reason : String) (h : state.stage = .observingRun) (hstop : stop.escalates)
      (hstage : stage = .escalated ∨ stage = .quarantined) :
    Takes reducer now state (.runStopped stop) state
      (escalation stage category reason (reducer.escalationSla.after now))
  | runCancelled (h : state.stage = .observingRun) :
    Takes reducer now state (.runStopped .cancelled) state
      ⟨.cancelled, [.releaseReservations], .cancellation, "run:cancelled", none⟩
  | validate (evidenceId : Uuid) (h : state.stage = .verifyingEvidence) :
    Takes reducer now state (.evidenceValidated evidenceId)
      { state with evidenceId := some evidenceId }
      ⟨.closingSource, [.closeSource evidenceId], .activeWorkflow, s!"source-close:{evidenceId}",
        none⟩
  | reject (reason : String) (h : state.stage = .verifyingEvidence) :
    Takes reducer now state (.evidenceRejected reason) state
      ⟨.quarantined, [.openEscalation .verificationFailed reason], .escalation,
        "escalation:verification-failed", some (reducer.escalationSla.after now)⟩
  | close (h : state.stage = .closingSource) :
    Takes reducer now state .sourceCloseConfirmed state
      ⟨.closed, [.releaseReservations], .verifiedClosure,
        state.evidenceId.elim "evidence:missing" Uuid.toText, none⟩
  | closeAmbiguous (h : state.stage = .closingSource) :
    Takes reducer now state .sourceCloseAmbiguous state
      ⟨.closingSource, [.reconcileSourceClosure], .timer, "source-close:reconcile",
        some ((TimeDelta.seconds 30).after now)⟩
  | retryDue (h : state.stage = .waitingRetry) :
    Takes reducer now state .retryDue state
      ⟨.waitingSchedule, [.enqueueScheduler], .activeWorkflow, "scheduler:retry", none⟩
  | approve (approvalType : ApprovalType) (h : state.stage = .waitingApproval) :
    Takes reducer now state (.approvalGranted approvalType) state
      ⟨.waitingSchedule, [.enqueueScheduler], .activeWorkflow, "scheduler:approved", none⟩
  | disapprove (reason : String) (h : state.stage = .waitingApproval) :
    Takes reducer now state (.approvalRejected reason) state
      ⟨.escalated, [.openEscalation .needsApproval reason], .escalation,
        "escalation:approval-rejected", some (reducer.escalationSla.after now)⟩
  | cancel (h : WorkflowReducer.isCancellable state.stage) :
    Takes reducer now state .cancelRequested state
      ⟨.cancelling, [.requestRunCancellation], .activeWorkflow, "cancellation:requested", none⟩
  | confirmCancel (h : state.stage = .cancelling) :
    Takes reducer now state .cancellationConfirmed state
      ⟨.cancelled, [.releaseReservations], .cancellation, "cancelled", none⟩

section Inversion

variable {reducer : WorkflowReducer} {state : WorkflowState} {fact : WorkflowFact}
  {now : DateTime}

theorem takes_handleRunStop (stop : RunStop) (h : state.stage = .observingRun) :
    Takes reducer now state (.runStopped stop) (reducer.handleRunStop state stop now).1
      (reducer.handleRunStop state stop now).2 := by
  cases stop with
  | evidenceAvailable evidenceId => exact .evidence evidenceId h
  | retryableFailure reason =>
    simp only [WorkflowReducer.handleRunStop]
    split_ifs with hcount
    · exact .retry reason _ h hcount
    · exact .escalate _ _ _ _ h rfl (.inl rfl)
  | approvalRequired approvalType reason => exact .ask approvalType reason h
  | quarantined reason => exact .escalate _ _ _ _ h rfl (.inr rfl)
  | cancelled => exact .runCancelled h
  | _ => exact .escalate _ _ _ _ h rfl (.inl rfl)

theorem takes_of_arm {mid : WorkflowState} {arm : Arm}
    (h : reducer.arm state fact now = .ok (mid, arm)) : Takes reducer now state fact mid arm := by
  unfold WorkflowReducer.arm at h
  split at h
  case _ hstage => cases h; exact .schedule hstage
  case _ hstage => cases h; exact .grant hstage
  case _ hstage => cases h; exact .store _ hstage
  case _ hstage => cases h; exact .submit _ hstage
  case _ hstage => cases h; exact .submitAmbiguous hstage
  case _ stop hstage =>
    have hrun : Takes reducer now state (.runStopped stop) _ _ := takes_handleRunStop stop hstage
    rwa [Except.ok.inj h] at hrun
  case _ hstage => cases h; exact .validate _ hstage
  case _ hstage => cases h; exact .reject _ hstage
  case _ hstage => cases h; exact .close hstage
  case _ hstage => cases h; exact .closeAmbiguous hstage
  case _ hstage => cases h; exact .retryDue hstage
  case _ hstage => cases h; exact .approve _ hstage
  case _ hstage => cases h; exact .disapprove _ hstage
  case _ hstage => cases h; exact .confirmCancel hstage
  case _ =>
    split_ifs at h with hcancel
    cases h
    obtain ⟨hstage, rfl⟩ := hcancel
    exact .cancel hstage

/-- The state `apply` matches on: the generation is advanced first. -/
def WorkflowState.bumped (state : WorkflowState) : WorkflowState :=
  { state with generation := state.generation + 1 }

theorem apply_takes {transition : WorkflowTransition}
    (h : reducer.apply state fact now = .ok transition) :
    ∃ mid arm, Takes reducer now state.bumped fact mid arm
      ∧ transition = WorkflowReducer.finish mid arm now := by
  unfold WorkflowReducer.apply at h
  rw [failIf_bind_eq_ok_iff, bind_eq_ok_iff] at h
  obtain ⟨-, ⟨mid, arm⟩, harm, hfinish⟩ := h
  exact ⟨mid, arm, takes_of_arm harm, (Except.ok.inj hfinish).symm⟩

end Inversion

/-! ## Runs -/

/-- A fact and the reading of the clock it is applied at. -/
abbrev Input := WorkflowFact × DateTime

/-- Facts applied one after another; the output is what each asks to be done. -/
def workflow (reducer : WorkflowReducer) :
    Lib.PartialMachine WorkflowState Input (List WorkflowEffect) Error where
  step state input :=
    match reducer.apply state input.1 input.2 with
    | .ok transition => .ok (transition.state, transition.effects)
    | .error error => .error error

/-- The accepted facts of a run, with the states around them. -/
abbrev Trace := List (Lib.Taken WorkflowState Input (List WorkflowEffect))

theorem workflow_step_takes {reducer : WorkflowReducer} {state state' : WorkflowState}
    {input : Input} {effects : List WorkflowEffect}
    (h : (workflow reducer).step state input = .ok (state', effects)) :
    ∃ mid arm, Takes reducer input.2 state.bumped input.1 mid arm
      ∧ state' = (WorkflowReducer.finish mid arm input.2).state ∧ effects = arm.effects := by
  simp only [workflow] at h
  split at h
  · rename_i transition happly
    obtain ⟨mid, arm, htakes, rfl⟩ := apply_takes happly
    obtain ⟨rfl, rfl⟩ := Prod.mk.inj (Except.ok.inj h)
    exact ⟨mid, arm, htakes, rfl, rfl⟩
  · simp at h

/-- The facts up to an observed run. -/
def submitted : List Input :=
  [(.scheduleRequested, ⟨1000⟩), (.scheduleGranted, ⟨2000⟩), (.workOrderStored "digest", ⟨3000⟩),
    (.submissionAccepted (.ofNat 7), ⟨4000⟩)]

/-- A run that fetches, validates and closes on one piece of evidence. -/
def closure : List Input :=
  submitted ++ [(.runStopped (.evidenceAvailable (.ofNat 8)), ⟨5000⟩),
    (.evidenceValidated (.ofNat 8), ⟨6000⟩), (.sourceCloseConfirmed, ⟨7000⟩)]

end Asf.Workflow
