import Asf.Steps.DeadLetter

/-!
# Workflow steps (`src/ledger/steps.rs`)

`commit_workflow_step` and `fail_workflow_step` as transactions, and the
machine whose inputs are these two, the calls of the job queue and the changes
other operations make to an escalation's status.
-/

namespace Asf.Steps

open Lib (Machine atomically)
open Lib.Transaction (orFail)
open Jobs (WorkflowJob)

/-! ## The claim -/

section Claims

variable (codec : Codec) (claimWasPrelockedLive : Bool) (job : WorkflowJob)
  (leaseIsLive : Option Bool) (fence : WorkflowStepFence)

/-- `require_step_binding` (lines 1128-1138). -/
def requireStepBinding : Result Unit :=
  failIf (¬ (job.workflowInstanceId = some fence.workflowInstanceId
      ∧ job.workItemId = some fence.workItemId))
    (staleStepError fence.jobId)

/-- `require_owned_claim` (lines 1114-1126). -/
def requireOwnedClaim : Result Unit :=
  failIf (job.status ≠ .running ∨ job.leaseOwner ≠ some fence.leaseOwner
      ∨ job.fenceToken ≠ fence.jobFenceToken)
    (staleStepError fence.jobId)

/-- `require_live_claim` (lines 1105-1112). -/
def requireLiveClaim : Result Unit := do
  requireOwnedClaim job fence
  let leaseIsLive ← requiredColumn "lease_is_live" "workflow job live lease" leaseIsLive
  failIf (!leaseIsLive) (staleStepError fence.jobId)

/-- The claim check of both operations (lines 807-811, 928-932). -/
def requireClaim : Result Unit :=
  if claimWasPrelockedLive then requireOwnedClaim job fence
  else requireLiveClaim job leaseIsLive fence

/-- The row guard of the two final updates (lines 157-161, 196-200). -/
def isOwnedClaim (job : WorkflowJob) : Bool :=
  job.tenantId == fence.tenantId && job.status == .running
    && job.leaseOwner == some fence.leaseOwner && job.fenceToken == fence.jobFenceToken

/-! ## `commit_workflow_step` -/

/-- `completed_step_matches` (lines 1140-1169). The stored result is compared
    after it was read back. -/
def completedStepMatches (storedResult : Json) : Result Bool :=
  if job.status ≠ .completed then .ok false
  else if job.completedBy = some fence.leaseOwner
      ∧ job.completionFenceToken = some fence.jobFenceToken then
    if job.result.map codec.readJson = some storedResult then .ok true
    else .error (.conflict
      s!"workflow job {fence.jobId} was completed with a different semantic commit")
  else .error (staleStepError fence.jobId)

end Claims

section Commit

variable (codec : Codec) (commit : WorkflowStepCommit) (failure : WorkflowStepFailure)
  (errorSummary : String) (forceTerminal : Bool) (escalationId : Uuid) (result : Option Json)

/-- `COMPLETE_STEP_JOB_SQL` (lines 144-163, 843-854). -/
def completeStepJob (fence : WorkflowStepFence) (storedResult : Json) : Tx Db Unit := do
  let now ← clockTimestamp
  let completed ← execute "complete fenced workflow step" fun db => do
    let (row, jobs) ← db.jobs.updateOne fence.jobId (isOwnedClaim fence) fun job =>
      .ok (Jobs.completedJob fence.leaseOwner fence.jobFenceToken (some storedResult) now job)
    return (row, db.withJobs jobs)
  reject completed.isNone (staleStepError fence.jobId)

/-- The writes of a commit whose claim has been checked (lines 813-861). -/
def applyWorkflowStep : Tx Db WorkflowStepCommitOutcome := do
  let fence := commit.fence
  lockStepAggregates fence
  commit.jobs.forM (insertWorkflowJob fence)
  commit.timers.forM (insertWorkflowTimer fence)
  commit.effects.forM (insertEffectIntent fence)
  commit.outbox.forM (insertOutboxMessage fence.tenantId)
  commit.auditEvents.forM (insertAuditEvent codec fence)
  let workItemVersion ← updateWorkItem fence commit.workItemState
  let (workflowVersion, workflowFenceToken) ←
    updateWorkflow fence commit.workflowState commit.workflowEventCursor
  let anchorGeneration ← replaceAccountability fence commit.accountability
  completeStepJob fence commit.storedResult
  return .applied workItemVersion workflowVersion workflowFenceToken anchorGeneration

/-- `commit_workflow_step_inner` (lines 795-862). -/
def commitWorkflowStepInner (claimWasPrelockedLive : Bool) : Tx Db WorkflowStepCommitOutcome := do
  .ofExcept (commit.validate codec)
  let (job, leaseIsLive) ← lockStepJob commit.fence
  .ofExcept (requireStepBinding job commit.fence)
  let applied ← .ofExcept (completedStepMatches codec job commit.fence commit.storedResult)
  if applied then return .alreadyApplied
  else do
    .ofExcept (requireClaim claimWasPrelockedLive job leaseIsLive commit.fence)
    applyWorkflowStep codec commit

/-- `commit_workflow_step` (lines 774-779). -/
def commitWorkflowStep : Tx Db WorkflowStepCommitOutcome :=
  commitWorkflowStepInner codec commit false

/-- `commit_workflow_step_with_prelocked_claim` (lines 788-793). -/
def commitWorkflowStepWithPrelockedClaim : Tx Db WorkflowStepCommitOutcome :=
  commitWorkflowStepInner codec commit true

/-! ## `fail_workflow_step` -/

/-- `is_terminal` (line 936, also `$9 OR job.attempt_count >= job.max_attempts`). -/
def isTerminal (job : WorkflowJob) : Bool :=
  forceTerminal || decide (job.maxAttempts ≤ job.attemptCount)

/-- The escalation, audit, outbox and aggregate writes of an exhausted job (lines 941-998):
    the effective escalation and the result to store. -/
def deadLetterStep (attemptId : Option Uuid)
    (jobType errorDigest : String) : Tx Db (Uuid × Json) := do
  let fence := failure.fence
  lockStepAggregates fence
  let mutation ← insertDeadLetterEscalation codec failure attemptId jobType errorDigest
  let escalation := mutation.after.record
  let audit ← .ofExcept (effectiveDeadLetterAudit codec failure mutation jobType errorDigest)
  let outbox ← .ofExcept (effectiveDeadLetterOutbox codec failure mutation jobType errorDigest)
  insertOutboxMessage fence.tenantId outbox
  insertAuditEvent codec fence audit
  let _ ← updateWorkItem fence "ESCALATED"
  let workflowCursor ← currentWorkflowCursor fence
  let _ ← updateWorkflow fence "WAITING" workflowCursor
  let _ ← replaceAccountability fence {
    kind := .escalation
    referenceId := escalation.id
    wakeOrDeadlineAt := some escalation.deadline
    authorityOrEffectActive := escalation.authorityOrEffectActive }
  return (escalation.id, deadLetterResult codec failure mutation jobType errorDigest)

/-- The assignments of `FAIL_STEP_JOB_SQL` (lines 169-195). -/
def failedStepJob (forceTerminal : Bool) (now : Timestamptz) (job : WorkflowJob) : WorkflowJob :=
  let terminal := isTerminal forceTerminal job
  { job with
    status := if terminal then .dead else .retry
    availableAt := if terminal then job.availableAt else max failure.retryAt.encode now
    lastFailureBy := some failure.fence.leaseOwner
    lastFailureFenceToken := some failure.fence.jobFenceToken
    lastFailureRetryAt := some failure.retryAt.encode
    lastError := some errorSummary
    result := if terminal then result else none
    deadLetterEscalationId := if terminal then some escalationId else none
    deadLetteredAt := if terminal then some now else none
    leaseOwner := none
    leaseExpiresAt := none
    updatedAt := now }

/-- `FAIL_STEP_JOB_SQL` (lines 165-202, 1001-1014). -/
def failStepJob (forceTerminal : Bool) : Tx Db WorkflowJob := do
  let now ← clockTimestamp
  let updated ← execute "fail fenced workflow step" fun db => do
    let (row, jobs) ← db.jobs.updateOne failure.fence.jobId (isOwnedClaim failure.fence) fun job =>
      .ok (failedStepJob failure errorSummary escalationId result forceTerminal now job)
    return (row, db.withJobs jobs)
  orFail (staleStepError failure.fence.jobId) updated

/-- The disposition of the updated row (lines 1016-1025). -/
def stepFailureDisposition (terminal : Bool) (jobId : Uuid) (status : Jobs.JobStatus) :
    Result WorkflowStepFailureDisposition :=
  if status = .retry ∧ !terminal then .ok .retryScheduled
  else if status = .dead ∧ terminal then .ok .escalated
  else .error (.persistence
    s!"workflow job {jobId} returned inconsistent failure status {status.text}")

/-- The writes of a failure whose claim has been checked (lines 934-1031). -/
def recordFailure (job : WorkflowJob) : Tx Db WorkflowStepFailureOutcome := do
  let terminal := isTerminal forceTerminal job
  let deadLetter ←
    if terminal then
      some <$> deadLetterStep codec failure job.attemptId job.jobType
        (codec.textDigest failure.errorSummary)
    else pure none
  let updated ← failStepJob failure (Jobs.summarizeError failure.errorSummary)
    ((deadLetter.map Prod.fst).getD failure.deadLetter.id) (deadLetter.map Prod.snd) forceTerminal
  let disposition ← .ofExcept (stepFailureDisposition terminal failure.fence.jobId updated.status)
  return {
    disposition
    newlyRecorded := true
    deadLetterEscalationId := deadLetter.map Prod.fst }

/-- The answer to a repeated failure (lines 914-926). -/
def adoptFailure (job : WorkflowJob)
    (outcome : WorkflowStepFailureOutcome) : Tx Db WorkflowStepFailureOutcome := do
  if outcome.disposition = .escalated then
    let escalationId ← orFail (.persistence "dead job has no effective escalation identity")
      outcome.deadLetterEscalationId
    verifyDeadLetterExists failure escalationId job.jobType (codec.textDigest failure.errorSummary)
  return outcome

/-- `fail_workflow_step_inner` (lines 900-1032). -/
def failWorkflowStepInner
    (claimWasPrelockedLive forceTerminal : Bool) : Tx Db WorkflowStepFailureOutcome := do
  .ofExcept failure.validate
  let (job, leaseIsLive) ← lockStepJob failure.fence
  .ofExcept (requireStepBinding job failure.fence)
  let repeated ← .ofExcept
    (repeatedFailureOutcome job failure (Jobs.summarizeError failure.errorSummary))
  match repeated with
  | some outcome => adoptFailure codec failure job outcome
  | none => do
    .ofExcept (requireClaim claimWasPrelockedLive job leaseIsLive failure.fence)
    recordFailure codec failure forceTerminal job

/-- `fail_workflow_step` (lines 876-881). -/
def failWorkflowStep : Tx Db WorkflowStepFailureOutcome :=
  failWorkflowStepInner codec failure false false

/-- `fail_workflow_step_with_prelocked_claim_force_terminal` (lines 893-898). -/
def failWorkflowStepWithPrelockedClaimForceTerminal : Tx Db WorkflowStepFailureOutcome :=
  failWorkflowStepInner codec failure true true

end Commit

/-! ## The machine -/

/-- What other operations change in an escalation (for example
    `close_exhausted_cancellation_escalation`, src/api/postgres.rs:2617-2654). -/
structure EscalationMove where
  status : EscalationStatus
  authorityOrEffectActive : Bool
  aggregateVersion : ℤ
  (acknowledgedAt closedAt : Option Timestamptz)

/-- Another operation moves an escalation, as far as `escalations_one_open_category_idx`
    lets it. -/
def moveEscalation (id : Uuid) (change : EscalationMove) : Tx Db Unit :=
  execute "move escalation" fun db => do
    let (moved, escalations) ← db.escalations.updateOne id (fun _ => true) fun row =>
      EscalationColumns.checked { row.toEscalationColumns with
        status := change.status
        authorityOrEffectActive := change.authorityOrEffectActive
        aggregateVersion := change.aggregateVersion
        acknowledgedAt := change.acknowledgedAt
        closedAt := change.closedAt }
    if moved.any fun row => row.status.isActive && db.escalations.rows.any fun other =>
        other.id != row.id && sharesOpenCategory other row then
      .error "duplicate key value violates unique constraint \"escalations_one_open_category_idx\""
    else .ok ((), db.withEscalations escalations)

/-- A call of the job queue. The columns of `effect_intents` that a claim releases are
    not part of `Db`. -/
def callQueue (call : Jobs.Call) : Tx Db Jobs.Answer := fun s =>
  let (queue, answer) :=
    Jobs.perform s.tick.now (s.verdict "workflow_jobs") call ⟨s.db.jobs, .empty⟩
  .ok (answer, s.tick.withDb (s.db.withJobs queue.jobs))

/-- An operation with its arguments. -/
inductive Call where
  | commit (step : WorkflowStepCommit) (claimWasPrelockedLive : Bool)
  | fail (failure : WorkflowStepFailure) (claimWasPrelockedLive forceTerminal : Bool)
  | queue (call : Jobs.Call)
  | move (id : Uuid) (change : EscalationMove)

/-- What an operation returns. -/
inductive Answer where
  | commit (outcome : WorkflowStepCommitOutcome)
  | fail (outcome : WorkflowStepFailureOutcome)
  | queue (answer : Jobs.Answer)
  | done
deriving DecidableEq

/-- The transaction of a call. -/
def Call.transaction (codec : Codec) : Call → Tx Db Answer
  | .commit step claimWasPrelockedLive =>
    .commit <$> commitWorkflowStepInner codec step claimWasPrelockedLive
  | .fail failure claimWasPrelockedLive forceTerminal =>
    .fail <$> failWorkflowStepInner codec failure claimWasPrelockedLive forceTerminal
  | .queue call => .queue <$> callQueue call
  | .move id change => (fun _ => .done) <$> moveEscalation id change

/-- A call with the clock readings and verdicts it meets. -/
structure Request where
  pauses : ℕ → ℕ
  verdict : String → Option String
  call : Call

/-- The clock and the tables. -/
structure State where
  clock : Timestamptz
  db : Db

/-- The session a request opens; no step draws an identifier. -/
def Request.session (request : Request) (s : State) : Session Db where
  db := s.db
  now := s.clock
  pauses := request.pauses
  ids := fun _ => .nil
  verdict := request.verdict

/-- One request as an atomic step. -/
def perform (codec : Codec) (s : State) (request : Request) : State × Result Answer :=
  let (session, answer) := atomically (request.call.transaction codec) (request.session s)
  (⟨session.now, session.db⟩, answer)

/-- The machine of the workflow steps. -/
def ledger (codec : Codec) : Machine State Request (Result Answer) := ⟨perform codec⟩

end Asf.Steps
