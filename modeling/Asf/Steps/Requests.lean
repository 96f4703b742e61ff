import Asf.Audit.Event
import Asf.Common.Schema
import Asf.Jobs.Model

/-!
# Workflow-step requests (`src/ledger/steps.rs`)

The fence of a claimed step, the rows a step writes, the two requests (a commit
and a failure with its dead letter) and their validation.

`Codec` is what the ledger takes from serde, chrono and the digest functions.
-/

namespace Asf.Steps

open Jobs (isValidActivityContractId)

/-! ## Enumerations of the columns -/

/-- `workflow_instances.state` (0001_initial.sql:1100-1101). -/
inductive WorkflowState where
  | active | waiting | completed | failed | cancelled
deriving DecidableEq, Repr

namespace WorkflowState

def all : List WorkflowState := [.active, .waiting, .completed, .failed, .cancelled]

/-- The text of a state. -/
def text : WorkflowState → String
  | .active => "ACTIVE"
  | .waiting => "WAITING"
  | .completed => "COMPLETED"
  | .failed => "FAILED"
  | .cancelled => "CANCELLED"

end WorkflowState

/-- `escalations.category` (0001_initial.sql:679-696). -/
inductive EscalationCategory where
  | needsSpec | needsApproval | blockedDependency | blockedExternal | identityUnavailable
  | workerUnavailable | verificationFailed | reviewBlocked | ciFailed | remoteEffectAmbiguous
  | budgetExhausted | providerRefused | policyRefused | workflowJobExhausted | quarantined
  | securityIncident
deriving DecidableEq, Repr

namespace EscalationCategory

def all : List EscalationCategory :=
  [.needsSpec, .needsApproval, .blockedDependency, .blockedExternal, .identityUnavailable,
    .workerUnavailable, .verificationFailed, .reviewBlocked, .ciFailed, .remoteEffectAmbiguous,
    .budgetExhausted, .providerRefused, .policyRefused, .workflowJobExhausted, .quarantined,
    .securityIncident]

/-- The text of a category. -/
def text : EscalationCategory → String
  | .needsSpec => "NEEDS_SPEC"
  | .needsApproval => "NEEDS_APPROVAL"
  | .blockedDependency => "BLOCKED_DEPENDENCY"
  | .blockedExternal => "BLOCKED_EXTERNAL"
  | .identityUnavailable => "IDENTITY_UNAVAILABLE"
  | .workerUnavailable => "WORKER_UNAVAILABLE"
  | .verificationFailed => "VERIFICATION_FAILED"
  | .reviewBlocked => "REVIEW_BLOCKED"
  | .ciFailed => "CI_FAILED"
  | .remoteEffectAmbiguous => "REMOTE_EFFECT_AMBIGUOUS"
  | .budgetExhausted => "BUDGET_EXHAUSTED"
  | .providerRefused => "PROVIDER_REFUSED"
  | .policyRefused => "POLICY_REFUSED"
  | .workflowJobExhausted => "WORKFLOW_JOB_EXHAUSTED"
  | .quarantined => "QUARANTINED"
  | .securityIncident => "SECURITY_INCIDENT"

end EscalationCategory

/-- `escalations.severity` (0001_initial.sql:699), from the least to the most severe. -/
inductive Severity where
  | info | low | medium | high | critical
deriving DecidableEq, Repr

namespace Severity

def all : List Severity := [.info, .low, .medium, .high, .critical]

/-- The text of a severity. -/
def text : Severity → String
  | .info => "INFO"
  | .low => "LOW"
  | .medium => "MEDIUM"
  | .high => "HIGH"
  | .critical => "CRITICAL"

end Severity

/-- `escalations.owner_type` (0001_initial.sql:701). -/
inductive OwnerType where
  | person | team | onCall
deriving DecidableEq, Repr

namespace OwnerType

def all : List OwnerType := [.person, .team, .onCall]

/-- The text of an owner type. -/
def text : OwnerType → String
  | .person => "PERSON"
  | .team => "TEAM"
  | .onCall => "ON_CALL"

end OwnerType

/-- `LedgerAccountabilityKind` (lines 458-467), `accountability_anchors.anchor_type`. -/
inductive LedgerAccountabilityKind where
  | workflow | run | timer | retry | approval | escalation | closure | cancellation
deriving DecidableEq, Repr

namespace LedgerAccountabilityKind

/-- `as_sql` (lines 470-481). -/
def asSql : LedgerAccountabilityKind → String
  | .workflow => "WORKFLOW"
  | .run => "RUN"
  | .timer => "TIMER"
  | .retry => "RETRY"
  | .approval => "APPROVAL"
  | .escalation => "ESCALATION"
  | .closure => "CLOSURE"
  | .cancellation => "CANCELLATION"

/-- `requires_deadline` (lines 483-488). -/
def requiresDeadline : LedgerAccountabilityKind → Bool
  | .timer | .retry | .approval | .escalation => true
  | .workflow | .run | .closure | .cancellation => false

end LedgerAccountabilityKind

/-! ## Requests -/

/-- `WorkflowStepFence` (lines 412-424). -/
structure WorkflowStepFence where
  (tenantId jobId workflowInstanceId workItemId : Uuid)
  leaseOwner : String
  (jobFenceToken expectedWorkItemVersion expectedWorkflowVersion expectedWorkflowFenceToken : ℤ)
  expectedAnchorGeneration : ℤ
deriving DecidableEq

/-- `AccountabilityReplacement` (lines 492-497). -/
structure AccountabilityReplacement where
  kind : LedgerAccountabilityKind
  referenceId : Uuid
  wakeOrDeadlineAt : Option DateTime
  authorityOrEffectActive : Bool
deriving DecidableEq

/-- `StepWorkflowJob` (lines 516-526). -/
structure StepWorkflowJob where
  id : Uuid
  attemptId : Option Uuid
  (jobType activityContractId : String)
  payload : Json
  idempotencyKey : String
  priority : ℤ
  availableAt : DateTime
  maxAttempts : ℤ
deriving DecidableEq

/-- `StepWorkflowTimer` (lines 529-539). -/
structure StepWorkflowTimer where
  id : Uuid
  attemptId : Option Uuid
  (workflowKey timerKey timerType activityContractId : String)
  dueAt : DateTime
  payload : Json
  generation : ℤ
deriving DecidableEq

/-- `RunmillSubmissionEffectBinding` (lines 542-545). -/
structure RunmillSubmissionEffectBinding where
  workOrderId : Uuid
  workOrderDigest : String
deriving DecidableEq

/-- `StepEffectIntent` (lines 548-562). -/
structure StepEffectIntent where
  id : Uuid
  attemptId : Option Uuid
  (provider effectType idempotencyKey : String)
  correlationMarker : Option String
  requestDigest : String
  requestPayload : Json
  runmillSubmission : Option RunmillSubmissionEffectBinding
  nextAttemptAt : DateTime
deriving DecidableEq

/-- `StepOutboxMessage` (lines 565-574). -/
structure StepOutboxMessage where
  id : Uuid
  (topic messageKey eventType : String)
  (payload headers : Json)
  idempotencyKey : String
  availableAt : DateTime
deriving DecidableEq

/-- `StepAuditEvent` (lines 577-592). -/
structure StepAuditEvent where
  id : Uuid
  attemptId : Option Uuid
  (actorType actorId action subjectType subjectId correlationId : String)
  (traceId policyDigest beforeDigest afterDigest : Option String)
  details : Json
  occurredAt : DateTime
deriving DecidableEq

/-- `WorkflowStepCommit` (lines 596-610). -/
structure WorkflowStepCommit where
  fence : WorkflowStepFence
  commitDigest : String
  jobResult : Option Json
  (workItemState workflowState : String)
  workflowEventCursor : ℤ
  accountability : AccountabilityReplacement
  jobs : List StepWorkflowJob
  timers : List StepWorkflowTimer
  effects : List StepEffectIntent
  outbox : List StepOutboxMessage
  auditEvents : List StepAuditEvent
deriving DecidableEq

/-- `DeadLetterEscalation` (lines 668-687). -/
structure DeadLetterEscalation where
  id : Uuid
  runId : Option Uuid
  (category severity reason ownerType ownerId requiredAction : String)
  evidenceReferences : Json
  deadline : DateTime
  (escalationPath retryPolicy prerequisites : Json)
  authorityOrEffectActive : Bool
  idempotencyKey : String
  openedAt : DateTime
  auditEvent : StepAuditEvent
  outboxMessage : StepOutboxMessage
deriving DecidableEq

/-- `WorkflowStepFailure` (lines 730-735). -/
structure WorkflowStepFailure where
  fence : WorkflowStepFence
  errorSummary : String
  retryAt : DateTime
  deadLetter : DeadLetterEscalation
deriving DecidableEq

/-! ## Answers -/

/-- `WorkflowStepCommitOutcome` (lines 656-664). -/
inductive WorkflowStepCommitOutcome where
  | applied (workItemVersion workflowVersion workflowFenceToken anchorGeneration : ℤ)
  | alreadyApplied
deriving DecidableEq

/-- `WorkflowStepFailureDisposition` (lines 750-753). -/
inductive WorkflowStepFailureDisposition where
  | retryScheduled | escalated
deriving DecidableEq

/-- `WorkflowStepFailureOutcome` (lines 756-760). -/
structure WorkflowStepFailureOutcome where
  disposition : WorkflowStepFailureDisposition
  newlyRecorded : Bool
  deadLetterEscalationId : Option Uuid
deriving DecidableEq

/-! ## What the crate takes from its libraries -/

/-- What `validate_effect` reads of a decoded `RunmillSignedWorkOrderV1`. -/
structure RunmillSignedWorkOrder where
  (workOrderId tenantId workItemId attemptId : String)
  /-- `sha256_digest(&envelope.canonical_bytes()?)`. -/
  canonicalDigest : Result String
  /-- `envelope.payload_digest()`. -/
  payloadDigest : Result String

/-- The functions of serde, chrono and the digests. -/
structure Codec where
  /-- `sha256_digest` of a text. -/
  textDigest : String → String
  /-- `sha256_digest` of `canonical_json` of a document. -/
  jsonDigest : Json → Result String
  /-- `sha256_digest` of `canonical_json` of an audit event. -/
  auditDigest : AuditEventContent → Result String
  /-- How serde writes an instant. -/
  timeText : DateTime → String
  /-- The `Value` that a `jsonb` column written from a `Value` is read back as. -/
  readJson : Json → Json
  /-- `serde_json::from_value::<RunmillSignedWorkOrderV1>`. -/
  signedWorkOrder : Json → Except String RunmillSignedWorkOrder

/-! ## Validation -/

/-- `validate_digest` (lines 2377-2391). -/
def validateDigest (value label : String) : Result Unit :=
  failIf (!isDigestText value) (.validation s!"{label} must be a lowercase sha256 digest")

/-- A text that is one of an enumeration's. -/
def validateText {α : Type} (all : List α) (text : α → String) (noun value : String) :
    Result Unit :=
  failIf ((parseText all text value).isNone) (.validation s!"unsupported {noun} {value}")

/-- `validate_work_item_state` (lines 2393-2426). -/
def validateWorkItemState : String → Result Unit :=
  validateText WorkItemState.all WorkItemState.text "work-item state"

/-- `validate_workflow_state` (lines 2428-2436). -/
def validateWorkflowState : String → Result Unit :=
  validateText WorkflowState.all WorkflowState.text "workflow state"

/-- `validate_escalation_category` (lines 2457-2483). -/
def validateEscalationCategory : String → Result Unit :=
  validateText EscalationCategory.all EscalationCategory.text "escalation category"

/-- `validate_escalation_severity` (lines 2485-2493). -/
def validateEscalationSeverity : String → Result Unit :=
  validateText Severity.all Severity.text "escalation severity"

/-- `validate_owner_type` (lines 2495-2503). -/
def validateOwnerType : String → Result Unit :=
  validateText OwnerType.all OwnerType.text "escalation owner type"

/-- `validate_anchor_state_compatibility` (lines 2438-2455). -/
def validateAnchorStateCompatibility (state : String) (kind : LedgerAccountabilityKind) :
    Result Unit :=
  let compatible : Bool :=
    if state = "CLOSED" then kind == .closure
    else if state = "CANCELLED" then kind == .cancellation
    else if state = "WAITING_APPROVAL" then kind == .approval
    else if state = "RETRY_SCHEDULED" then kind == .retry
    else if state = "ESCALATED" then kind == .escalation
    else true
  failIf (!compatible) (.validation
    s!"work-item state {state} is incompatible with {kind.asSql} accountability")

/-- `WorkflowStepFence::validate` (lines 427-453). -/
def WorkflowStepFence.validate (fence : WorkflowStepFence) : Result Unit := do
  failIf (fence.tenantId.isNil || fence.jobId.isNil || fence.workflowInstanceId.isNil
      || fence.workItemId.isNil)
    (.validation "workflow-step IDs must be non-nil")
  failIf (isBlank fence.leaseOwner) (.validation "workflow-step lease owner must be non-empty")
  failIf (fence.jobFenceToken ≤ 0 ∨ fence.expectedWorkItemVersion ≤ 0
      ∨ fence.expectedWorkflowVersion ≤ 0 ∨ fence.expectedWorkflowFenceToken < 0
      ∨ fence.expectedAnchorGeneration < 0)
    (.validation "workflow-step fences and aggregate versions are invalid")

/-- `AccountabilityReplacement::validate` (lines 500-512). -/
def AccountabilityReplacement.validate (replacement : AccountabilityReplacement) : Result Unit := do
  failIf replacement.referenceId.isNil (.validation "accountability reference ID must be non-nil")
  failIf (replacement.kind.requiresDeadline != replacement.wakeOrDeadlineAt.isSome)
    (.validation "accountability deadline does not match its anchor kind")

/-- `validate_job` (lines 2120-2139). -/
def StepWorkflowJob.validate (job : StepWorkflowJob) : Result Unit := do
  failIf (job.id.isNil || job.attemptId.any (·.isNil) || isBlank job.jobType
      || isBlank job.idempotencyKey || !job.payload.isObject || decide (job.maxAttempts ≤ 0))
    (.validation "workflow-step child job is invalid")
  failIf (!isValidActivityContractId job.activityContractId)
    (.validation <| s!"workflow-step child job activity contract id "
      ++ s!"{debugText job.activityContractId} is invalid")

/-- `validate_timer` (lines 2141-2159). -/
def StepWorkflowTimer.validate (timer : StepWorkflowTimer) : Result Unit := do
  failIf (timer.id.isNil || timer.attemptId.any (·.isNil) || isBlank timer.workflowKey
      || isBlank timer.timerKey || isBlank timer.timerType || !timer.payload.isObject
      || decide (timer.generation ≤ 0))
    (.validation "workflow-step timer is invalid")
  failIf (!isValidActivityContractId timer.activityContractId)
    (.validation <| s!"workflow-step timer activity contract id "
      ++ s!"{debugText timer.activityContractId} is invalid")

variable (codec : Codec) (commit : WorkflowStepCommit) (effect : StepEffectIntent)
  (tenantId workItemId : Uuid)

/-- The binding check of `validate_effect` (lines 2294-2323). The payload digest
    is only computed when the identifiers agree. -/
def validateRunmillSubmission (binding : RunmillSubmissionEffectBinding) : Result Unit := do
  failIf (binding.workOrderId.isNil || effect.attemptId.isNone)
    (.validation "Runmill submission effect requires a non-nil Work Order and attempt")
  validateDigest binding.workOrderDigest "Runmill submission Work Order digest"
  let envelope ← (codec.signedWorkOrder effect.requestPayload).mapError fun e => .validation <|
    s!"Runmill submission request is not an exact signed Work Order envelope: {e}"
  let canonicalDigest ← envelope.canonicalDigest
  let contradicts ←
    if envelope.workOrderId ≠ binding.workOrderId.toText ∨ envelope.tenantId ≠ tenantId.toText
        ∨ envelope.workItemId ≠ workItemId.toText
        ∨ some envelope.attemptId ≠ effect.attemptId.map Uuid.toText then pure true
    else do
      let payloadDigest ← envelope.payloadDigest
      pure (decide (payloadDigest ≠ binding.workOrderDigest
        ∨ canonicalDigest ≠ effect.requestDigest))
  failIf contradicts
    (.validation "Runmill submission request contradicts its immutable Work Order binding")

/-- `validate_effect` (lines 2274-2325). -/
def StepEffectIntent.validate : Result Unit := do
  failIf (effect.id.isNil || effect.attemptId.any (·.isNil) || isBlank effect.provider
      || isBlank effect.effectType || isBlank effect.idempotencyKey
      || !effect.requestPayload.isObject)
    (.validation "workflow-step effect intent is invalid")
  validateDigest effect.requestDigest "effect request digest"
  let isRunmillSubmission :=
    effect.provider == "runmill" && effect.effectType == "submit_work_order"
  failIf (isRunmillSubmission != effect.runmillSubmission.isSome)
    (.validation "only a Runmill submission effect must carry an immutable Work Order binding")
  match effect.runmillSubmission with
  | some binding => validateRunmillSubmission codec effect tenantId workItemId binding
  | none => pure ()

/-- `validate_outbox` (lines 2335-2348). -/
def StepOutboxMessage.validate (message : StepOutboxMessage) : Result Unit :=
  failIf (message.id.isNil || isBlank message.topic || isBlank message.messageKey
      || isBlank message.eventType || isBlank message.idempotencyKey
      || !message.headers.isObject)
    (.validation "workflow-step outbox message is invalid")

/-- `validate_audit` (lines 2350-2375). -/
def StepAuditEvent.validate (audit : StepAuditEvent) : Result Unit := do
  failIf (audit.id.isNil || audit.attemptId.any (·.isNil) || isBlank audit.actorType
      || isBlank audit.actorId || isBlank audit.action || isBlank audit.subjectType
      || isBlank audit.subjectId || isBlank audit.correlationId || !audit.details.isObject)
    (.validation "workflow-step audit event is invalid")
  [(audit.policyDigest, "audit policy digest"), (audit.beforeDigest, "audit before digest"),
    (audit.afterDigest, "audit after digest")].forM fun (value, label) =>
      match value with
      | some value => validateDigest value label
      | none => pure ()

/-- `WorkflowStepCommit::stored_result` (lines 613-618). -/
def WorkflowStepCommit.storedResult : Json :=
  .ofFields [("workflow_step_commit_digest", .str commit.commitDigest),
    ("result", .ofOption id commit.jobResult)]

/-- `WorkflowStepCommit::validate` (lines 620-652). -/
def WorkflowStepCommit.validate : Result Unit := do
  commit.fence.validate
  commit.accountability.validate
  validateDigest commit.commitDigest "workflow-step commit digest"
  validateWorkItemState commit.workItemState
  validateWorkflowState commit.workflowState
  failIf (commit.workflowEventCursor < 0) (.validation "workflow event cursor cannot be negative")
  failIf commit.auditEvents.isEmpty
    (.validation "a workflow-step commit must contain an audit event")
  commit.jobs.forM StepWorkflowJob.validate
  commit.timers.forM StepWorkflowTimer.validate
  commit.effects.forM fun effect =>
    effect.validate codec commit.fence.tenantId commit.fence.workItemId
  commit.outbox.forM StepOutboxMessage.validate
  commit.auditEvents.forM StepAuditEvent.validate
  validateAnchorStateCompatibility commit.workItemState commit.accountability.kind

/-- `DeadLetterEscalation::validate` (lines 690-726). -/
def DeadLetterEscalation.validate (escalation : DeadLetterEscalation) : Result Unit := do
  failIf (escalation.id.isNil || isBlank escalation.reason || isBlank escalation.ownerId
      || isBlank escalation.requiredAction || isBlank escalation.idempotencyKey)
    (.validation <| "dead-letter escalation requires an ID, reason, owner, action, "
      ++ "and idempotency key")
  validateEscalationCategory escalation.category
  failIf (escalation.category ≠ "WORKFLOW_JOB_EXHAUSTED")
    (.validation "dead-letter escalation category must be WORKFLOW_JOB_EXHAUSTED")
  validateEscalationSeverity escalation.severity
  validateOwnerType escalation.ownerType
  failIf (!escalation.evidenceReferences.isArray || !escalation.escalationPath.isArray
      || !escalation.retryPolicy.isObject || !escalation.prerequisites.isArray)
    (.validation "dead-letter escalation JSON fields have invalid shapes")
  failIf (escalation.deadline.nanos ≤ escalation.openedAt.nanos)
    (.validation "dead-letter escalation deadline must follow its opening time")
  escalation.auditEvent.validate
  escalation.outboxMessage.validate

/-- `WorkflowStepFailure::validate` (lines 738-746). -/
def WorkflowStepFailure.validate (failure : WorkflowStepFailure) : Result Unit := do
  failure.fence.validate
  failIf (isBlank failure.errorSummary)
    (.validation "workflow-step failure summary must be non-empty")
  failure.deadLetter.validate

/-! ## Errors -/

/-- `stale_step_error` (lines 2521-2525). -/
def staleStepError (jobId : Uuid) : Error :=
  .conflict s!"workflow job {jobId} lease, owner, fence, or aggregate binding is stale"

/-- `idempotency_conflict` (lines 2527-2531). -/
def idempotencyConflict (kind key : String) : Error :=
  .conflict s!"{kind} idempotency key {key} was reused for different semantics"

end Asf.Steps
