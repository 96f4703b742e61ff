import Asf.Steps.Tables

/-!
# Dead letters (`src/ledger/steps.rs`)

The owned escalation of an exhausted job: the normalized proposal, the merge
into an escalation that is already active, the facts recorded about it, and the
check that a repeated failure makes against them.
-/

namespace Asf.Steps

open Lib.Transaction (orFail)
open Jobs (WorkflowJob)

/-! ## The proposal -/

variable (jobId : Uuid) (job : WorkflowJob) (proposed : DeadLetterEscalation) (text fact : String)

/-- `marker` (line 1726). -/
def jobMarker : String := s!"[workflow-job:{jobId}]"

/-- `reason_fact` (lines 1727-1728). -/
def reasonFact (jobType errorDigest : String) : String :=
  s!"{jobMarker jobId} activity {jobType} exhausted with error digest {errorDigest}."

/-- `action_fact` (lines 1729-1731). -/
def actionFact (jobType errorDigest : String) : String :=
  s!"{jobMarker jobId} reconcile activity {jobType} and error digest {errorDigest} "
    ++ "before explicit retry, replacement, or cancellation."

/-- `exact_evidence` (lines 1743-1747): the references of the job itself. -/
def exactEvidence (jobType errorDigest : String) : List String :=
  [s!"workflow-job:{jobId}", s!"workflow-job-type:{jobId}:{jobType}",
    s!"workflow-job-error:{jobId}:{errorDigest}"]

/-- One turn of the loop that adds a reference (lines 1748-1755). -/
def addReference (evidence : List Json) (reference : String) : List Json :=
  if evidence.any fun existing => existing.asStr == some reference then evidence
  else evidence ++ [.str reference]

/-- The text with the fact on a line of its own, unless it names the job already. -/
def withFact : String :=
  if containsText text (jobMarker jobId) then text else s!"{text}\n{fact}"

/-- The `retry_policy` of a dead letter (lines 1771-1776, 369-378). -/
def manualRetryPolicy (prerequisites : Json) : List (String × Json) :=
  Json.insertFields [] [("automatic", .bool false), ("max_additional_attempts", .num 0 0),
    ("backoff_seconds", .num 0 0), ("prerequisites", prerequisites)]

/-- `normalized_dead_letter` (lines 1719-1784), without the two facts it also returns. -/
def normalizedDeadLetter (jobId : Uuid)
    (jobType errorDigest : String) : Result DeadLetterEscalation := do
  validateDigest errorDigest "workflow-job error digest"
  let evidence ← okOr (.validation "dead-letter evidence must be an array")
    proposed.evidenceReferences.asArray
  let evidence := (exactEvidence jobId jobType errorDigest).foldl addReference evidence
  failIf (evidence.any fun reference => reference.asStr.all isBlank)
    (.validation "dead-letter evidence references must be non-empty strings")
  let retryPrerequisites :=
    ((proposed.retryPolicy.field "prerequisites").filter Json.isArray).getD (.arr [])
  return { proposed with
    reason := withFact jobId proposed.reason (reasonFact jobId jobType errorDigest)
    requiredAction := withFact jobId proposed.requiredAction (actionFact jobId jobType errorDigest)
    evidenceReferences := .arr evidence
    retryPolicy := .obj (manualRetryPolicy retryPrerequisites)
    severity := if proposed.severity = "CRITICAL" then "CRITICAL" else "HIGH"
    authorityOrEffectActive := true }

/-! ## The escalation a dead letter leaves -/

/-- `EffectiveDeadLetterEscalation` (lines 1538-1547). -/
structure EffectiveDeadLetterEscalation where
  (tenantId workItemId : Uuid)
  attemptId : Option Uuid
  status : String
  aggregateVersion : ℤ
  (acknowledgedAt closedAt : Option DateTime)
  record : DeadLetterEscalation
deriving DecidableEq

/-- `DeadLetterMutationDisposition` (lines 1550-1553). -/
inductive DeadLetterMutationDisposition where
  | opened | adoptedActive
deriving DecidableEq

/-- `DeadLetterMutationDisposition::as_str` (lines 1556-1561). -/
def DeadLetterMutationDisposition.asStr : DeadLetterMutationDisposition → String
  | .opened => "OPENED"
  | .adoptedActive => "ADOPTED_ACTIVE"

/-- `DeadLetterMutation` (lines 1565-1569). -/
structure DeadLetterMutation where
  disposition : DeadLetterMutationDisposition
  before : Option EffectiveDeadLetterEscalation
  after : EffectiveDeadLetterEscalation
deriving DecidableEq

/-- `effective_dead_letter_from_row` (lines 1786-1840). -/
def effectiveDeadLetterFromRow (codec : Codec) (row : Escalation)
    (escalation : DeadLetterEscalation) : EffectiveDeadLetterEscalation where
  tenantId := row.tenantId
  workItemId := row.workItemId
  attemptId := row.attemptId
  status := row.status.text
  aggregateVersion := row.aggregateVersion
  acknowledgedAt := row.acknowledgedAt.map .decode
  closedAt := row.closedAt.map .decode
  record := { escalation with
    id := row.id
    runId := row.runId
    category := row.category.text
    severity := row.severity.text
    reason := row.reason
    ownerType := row.ownerType.text
    ownerId := row.ownerId
    requiredAction := row.requiredAction
    evidenceReferences := codec.readJson (.arr row.evidenceReferences)
    deadline := .decode row.deadline
    escalationPath := codec.readJson (.arr row.escalationPath)
    retryPolicy := codec.readJson (.obj row.retryPolicy)
    prerequisites := codec.readJson (.arr row.prerequisites)
    authorityOrEffectActive := row.authorityOrEffectActive
    idempotencyKey := row.idempotencyKey
    openedAt := .decode row.openedAt }

section DeadLetters

variable (codec : Codec) (failure : WorkflowStepFailure) (attemptId : Option Uuid)
  (escalationId : Uuid) (mutation : DeadLetterMutation) (jobType errorDigest : String)
  (tenantId workItemId : Uuid)

/-- The row guard of `LOAD_ACTIVE_ESCALATION_SQL` (lines 334-338). -/
def isActiveFor (attemptId : Option Uuid) (category : String) (row : Escalation) : Bool :=
  row.tenantId == tenantId && row.workItemId == workItemId && row.attemptId == attemptId
    && row.category.text == category && row.status.isActive

/-- `load_active_dead_letter` (lines 1674-1689). -/
def loadActiveDeadLetter (attemptId : Option Uuid)
    (category : String) : Tx Db (Option Escalation) :=
  select fun db => db.escalations.rows.find? (isActiveFor tenantId workItemId attemptId category)

/-- `left || COALESCE(jsonb_agg(candidate) … WHERE NOT left @> [candidate], '[]')`
    (lines 358-367) for candidates that are strings. -/
def mergeEvidence (existing candidates : List Json) : List Json :=
  existing ++ candidates.filter fun candidate => !existing.any fun item => item.sqlEq candidate

/-- The text with the fact on a line of its own, unless it is there already
    (lines 349-357). -/
def mergeText : String :=
  if containsText text fact then text else text ++ "\n" ++ fact

/-- The assignments of `MERGE_ACTIVE_ESCALATION_SQL` (lines 344-380). -/
def mergedEscalation (reasonFact actionFact : String)
    (row : Escalation) : Except String Escalation := do
  let candidates ← okOr "cannot extract elements from a scalar" proposed.evidenceReferences.asArray
  let aggregateVersion ← increment row.aggregateVersion
  let kept := ((Json.obj row.retryPolicy).field "prerequisites").filter Json.isArray
  let prerequisites := kept.getD ((proposed.retryPolicy.field "prerequisites").getD .null)
  EscalationColumns.checked { row.toEscalationColumns with
    severity :=
      if row.severity = .critical ∨ proposed.severity = "CRITICAL" then .critical else .high
    reason := mergeText row.reason reasonFact
    requiredAction := mergeText row.requiredAction actionFact
    evidenceReferences := mergeEvidence row.evidenceReferences candidates
    deadline := min row.deadline proposed.deadline.encode
    retryPolicy := manualRetryPolicy prerequisites
    authorityOrEffectActive := true
    aggregateVersion }

/-- `merge_active_dead_letter` (lines 1691-1717). -/
def mergeActiveDeadLetter (before : EffectiveDeadLetterEscalation)
    (proposed : DeadLetterEscalation) (reasonFact actionFact : String) :
    Tx Db EffectiveDeadLetterEscalation := do
  let row ← execute "merge active workflow dead-letter escalation" fun db => do
    let (row, escalations) ← db.escalations.updateOne before.record.id
      (fun row => row.tenantId == before.tenantId && row.status.isActive)
      (mergedEscalation proposed reasonFact actionFact)
    return (row, db.withEscalations escalations)
  let row ← orFail (.conflict
    s!"active exhaustion escalation {before.record.id} advanced during adoption") row
  return effectiveDeadLetterFromRow codec row proposed

/-- The row `INSERT_ESCALATION_SQL` (lines 247-273) proposes; a text outside a
    column's list or a document of another type breaks a `CHECK`. -/
def openedEscalation (attemptId : Option Uuid)
    (escalation : DeadLetterEscalation) : Except String Escalation := do
  let violation := checkViolation "escalations"
  let category ← checkedText "escalations" EscalationCategory.all EscalationCategory.text
    escalation.category
  let severity ← checkedText "escalations" Severity.all Severity.text escalation.severity
  let ownerType ← checkedText "escalations" OwnerType.all OwnerType.text escalation.ownerType
  let evidenceReferences ← okOr violation escalation.evidenceReferences.asArray
  let escalationPath ← okOr violation escalation.escalationPath.asArray
  let retryPolicy ← okOr violation escalation.retryPolicy.asObject
  let prerequisites ← okOr violation escalation.prerequisites.asArray
  EscalationColumns.checked {
    id := escalation.id
    tenantId
    workItemId
    attemptId
    runId := escalation.runId
    category
    status := .open
    severity
    reason := escalation.reason
    ownerType
    ownerId := escalation.ownerId
    requiredAction := escalation.requiredAction
    evidenceReferences
    deadline := escalation.deadline.encode
    escalationPath
    retryPolicy
    prerequisites
    authorityOrEffectActive := escalation.authorityOrEffectActive
    idempotencyKey := escalation.idempotencyKey
    aggregateVersion := 1
    openedAt := escalation.openedAt.encode
    acknowledgedAt := none
    closedAt := none }

/-- The conflict target of `INSERT_ESCALATION_SQL` (lines 274-280,
    `escalations_one_open_category_idx`). -/
def sharesOpenCategory (row proposed : Escalation) : Bool :=
  row.status.isActive && row.tenantId == proposed.tenantId
    && row.workItemId == proposed.workItemId
    && row.attemptId.getD .nil == proposed.attemptId.getD .nil
    && row.category == proposed.category

/-- `INSERT_ESCALATION_SQL` (lines 247-306): the row, or none on a conflict. -/
def insertEscalation (attemptId : Option Uuid)
    (escalation : DeadLetterEscalation) (db : Db) : Except String (Option Escalation × Db) := do
  let row ← openedEscalation tenantId workItemId attemptId escalation
  if db.escalations.rows.any (sharesOpenCategory · row) then return (none, db)
  if db.escalations.rows.any fun other =>
      other.tenantId == row.tenantId && other.idempotencyKey == row.idempotencyKey then
    throw ("duplicate key value violates unique constraint "
      ++ "\"escalations_tenant_id_idempotency_key_key\"")
  match db.escalations.insert? row with
  | none => throw (duplicateKey "escalations")
  | some escalations => return (some row, db.withEscalations escalations)

/-- `insert_dead_letter_escalation` (lines 1571-1672). -/
def insertDeadLetterEscalation : Tx Db DeadLetterMutation := do
  let fence := failure.fence
  let escalation ← .ofExcept
    (normalizedDeadLetter failure.deadLetter fence.jobId jobType errorDigest)
  let adopt := fun (row : Escalation) => do
    let before := effectiveDeadLetterFromRow codec row escalation
    let after ← mergeActiveDeadLetter codec before escalation
      (reasonFact fence.jobId jobType errorDigest) (actionFact fence.jobId jobType errorDigest)
    return { disposition := .adoptedActive, before := some before, after }
  match ← loadActiveDeadLetter fence.tenantId fence.workItemId attemptId escalation.category with
  | some row => adopt row
  | none =>
    match ← execute "insert workflow dead-letter escalation"
        (insertEscalation fence.tenantId fence.workItemId attemptId escalation) with
    | some row => return {
        disposition := .opened
        before := none
        after := effectiveDeadLetterFromRow codec row escalation }
    | none =>
      let row ← loadActiveDeadLetter fence.tenantId fence.workItemId attemptId escalation.category
      let row ← orFail (.conflict <| s!"active exhaustion escalation for workflow job "
        ++ s!"{fence.jobId} changed during adoption") row
      adopt row

/-! ## The recorded facts -/

/-- A `Uuid` in a document. -/
def uuidJson (id : Uuid) : Json := .str id.toText

/-- `dead_letter_escalation_fact` (lines 1842-1869). -/
def deadLetterEscalationFact (escalation : EffectiveDeadLetterEscalation) : Json :=
  let record := escalation.record
  let time := fun t => Json.str (codec.timeText t)
  .ofFields [
    ("tenant_id", uuidJson escalation.tenantId),
    ("work_item_id", uuidJson escalation.workItemId),
    ("attempt_id", .ofOption uuidJson escalation.attemptId),
    ("id", uuidJson record.id),
    ("run_id", .ofOption uuidJson record.runId),
    ("category", .str record.category),
    ("status", .str escalation.status),
    ("severity", .str record.severity),
    ("reason", .str record.reason),
    ("owner_type", .str record.ownerType),
    ("owner_id", .str record.ownerId),
    ("required_action", .str record.requiredAction),
    ("evidence_references", record.evidenceReferences),
    ("deadline", time record.deadline),
    ("escalation_path", record.escalationPath),
    ("retry_policy", record.retryPolicy),
    ("prerequisites", record.prerequisites),
    ("authority_or_effect_active", .bool record.authorityOrEffectActive),
    ("idempotency_key", .str record.idempotencyKey),
    ("aggregate_version", .num escalation.aggregateVersion 0),
    ("opened_at", time record.openedAt),
    ("acknowledged_at", .ofOption time escalation.acknowledgedAt),
    ("closed_at", .ofOption time escalation.closedAt)]

/-- `dead_letter_mutation_fact` (lines 1871-1877). -/
def deadLetterMutationFact : Json :=
  .ofFields [
    ("disposition", .str mutation.disposition.asStr),
    ("before", .ofOption (deadLetterEscalationFact codec) mutation.before),
    ("after", deadLetterEscalationFact codec mutation.after)]

/-- The entries `effective_dead_letter_audit` adds to the details (lines 1892-1916). -/
def auditEntries : List (String × Json) :=
  let escalation := mutation.after.record
  [("workflow_job_id", uuidJson failure.fence.jobId),
    ("job_type", .str jobType),
    ("error_digest", .str errorDigest),
    ("escalation_id", uuidJson escalation.id),
    ("escalation", deadLetterEscalationFact codec mutation.after),
    ("escalation_mutation", deadLetterMutationFact codec mutation),
    ("deadline", .str (codec.timeText escalation.deadline)),
    ("owner_type", .str escalation.ownerType),
    ("owner_id", .str escalation.ownerId),
    ("required_action", .str escalation.requiredAction)]

/-- `effective_dead_letter_audit` (lines 1879-1928). -/
def effectiveDeadLetterAudit : Result StepAuditEvent := do
  let audit := failure.deadLetter.auditEvent
  let details ← okOr (.validation "dead-letter audit details must be a JSON object")
    audit.details.asObject
  let beforeDigest ← mutation.before.mapM fun before =>
    codec.jsonDigest (deadLetterEscalationFact codec before)
  let afterDigest ← codec.jsonDigest (deadLetterEscalationFact codec mutation.after)
  let audit := { audit with
    details :=
      .obj (Json.insertFields details (auditEntries codec failure mutation jobType errorDigest))
    subjectType := "WORKFLOW_JOB"
    subjectId := failure.fence.jobId.toText
    beforeDigest
    afterDigest := some afterDigest }
  audit.validate
  return audit

/-- The entries `effective_dead_letter_outbox` adds to the payload (lines 1943-1987). -/
def outboxEntries : List (String × Json) :=
  let escalation := mutation.after.record
  [("work_item_id", uuidJson failure.fence.workItemId),
    ("workflow_job_id", uuidJson failure.fence.jobId),
    ("job_type", .str jobType),
    ("error_digest", .str errorDigest),
    ("escalation_id", uuidJson escalation.id),
    ("escalation", deadLetterEscalationFact codec mutation.after),
    ("escalation_mutation", deadLetterMutationFact codec mutation),
    ("category", .str escalation.category),
    ("severity", .str escalation.severity),
    ("status", .str mutation.after.status),
    ("deadline", .str (codec.timeText escalation.deadline)),
    ("owner_type", .str escalation.ownerType),
    ("owner_id", .str escalation.ownerId),
    ("required_action", .str escalation.requiredAction),
    ("evidence_references", escalation.evidenceReferences)]

/-- `effective_dead_letter_outbox` (lines 1930-1990). -/
def effectiveDeadLetterOutbox : Result StepOutboxMessage := do
  let outbox := failure.deadLetter.outboxMessage
  let payload ← okOr (.validation "dead-letter outbox payload must be a JSON object")
    outbox.payload.asObject
  let outbox := { outbox with
    payload :=
      .obj (Json.insertFields payload (outboxEntries codec failure mutation jobType errorDigest)) }
  outbox.validate
  return outbox

/-- `dead_letter_result` (lines 988-998). -/
def deadLetterResult : Json :=
  .ofFields [
    ("schema", .str "asf.workflow-job-dead-letter-result/v1"),
    ("workflow_job_id", uuidJson failure.fence.jobId),
    ("job_type", .str jobType),
    ("error_digest", .str errorDigest),
    ("disposition", .str mutation.disposition.asStr),
    ("escalation", deadLetterEscalationFact codec mutation.after),
    ("escalation_mutation", deadLetterMutationFact codec mutation),
    ("audit_event_id", uuidJson failure.deadLetter.auditEvent.id),
    ("outbox_id", uuidJson failure.deadLetter.outboxMessage.id)]

/-! ## The check of a repeated failure -/

/-- `a = b` on nullable `jsonb`. -/
def sqlEqual : Option Json → Option Json → Bool
  | some a, some b => a.sqlEq b
  | _, _ => false

/-- The three members that name the job (lines 2024-2026, 2028-2030, 2035-2037). -/
def namesJob (document : Json) (jobId : Uuid) (jobType errorDigest : String) : Bool :=
  document.text "workflow_job_id" == some jobId.toText
    && document.text "job_type" == some jobType
    && document.text "error_digest" == some errorDigest

/-- The conditions on `audit.details` and `outbox.payload` (lines 2028-2041). -/
def recordsDeadLetter (document result : Json) (jobId escalationId : Uuid)
    (jobType errorDigest : String) : Bool :=
  namesJob document jobId jobType errorDigest
    && document.text "escalation_id" == some escalationId.toText
    && sqlEqual (document.field "escalation") (result.field "escalation")
    && sqlEqual (document.field "escalation_mutation") (result.field "escalation_mutation")

/-- The join with `audit_events` (lines 2009-2014). -/
def isDeadLetterAudit (result : Json) (audit : AuditRow) : Bool :=
  audit.tenantId == job.tenantId
    && result.text "audit_event_id" == some audit.id.toText
    && audit.subjectType == "WORKFLOW_JOB"
    && audit.subjectId == job.id.toText
    && audit.action == "WORKFLOW_JOB_EXHAUSTED"

/-- The join with `outbox` (lines 2015-2018). -/
def isDeadLetterOutbox (result : Json) (outbox : OutboxRow) : Bool :=
  outbox.tenantId == job.tenantId
    && result.text "outbox_id" == some outbox.id.toText
    && outbox.eventType == "workflow_job.exhausted"

/-- The join with `escalations` (lines 2004-2008) and its conditions. -/
def isDeadLetterEscalation (escalationId workItemId : Uuid) (escalation : Escalation) : Bool :=
  escalation.tenantId == job.tenantId
    && job.deadLetterEscalationId == some escalation.id
    && job.workItemId == some escalation.workItemId
    && escalation.attemptId == job.attemptId
    && escalation.id == escalationId
    && escalation.workItemId == workItemId

/-- The `EXISTS` of `verify_dead_letter_exists` (lines 2001-2042). -/
def Db.deadLetterExists (db : Db) (fence : WorkflowStepFence) (escalationId : Uuid)
    (jobType errorDigest : String) : Bool :=
  (db.jobs.find? fence.jobId).any fun job =>
    job.tenantId == fence.tenantId && job.status == .dead && job.result.any fun result =>
      namesJob result job.id jobType errorDigest
        && (db.escalations.rows.any fun escalation =>
          isDeadLetterEscalation job escalationId fence.workItemId escalation
            && ((result.field "escalation").bind (·.text "id")) == some escalation.id.toText)
        && (db.auditEvents.rows.any fun audit => isDeadLetterAudit job result audit
          && recordsDeadLetter audit.details result job.id escalationId jobType errorDigest)
        && db.outbox.rows.any fun outbox => isDeadLetterOutbox job result outbox
          && recordsDeadLetter outbox.payload result job.id escalationId jobType errorDigest

/-- `verify_dead_letter_exists` (lines 1992-2062). -/
def verifyDeadLetterExists : Tx Db Unit := do
  let exists_ ← select fun db =>
    db.deadLetterExists failure.fence escalationId jobType errorDigest
  reject (!exists_) (.conflict <| s!"dead workflow job {failure.fence.jobId} "
    ++ "has no matching owned escalation anchor")

end DeadLetters

/-- `repeated_failure_outcome` (lines 2064-2118). The stored instant is compared
    after it was read back. -/
def repeatedFailureOutcome (failure : WorkflowStepFailure)
    (errorSummary : String) : Result (Option WorkflowStepFailureOutcome) :=
  if job.status ≠ .retry ∧ job.status ≠ .dead then .ok none
  else do
    failIf (job.lastFailureBy ≠ some failure.fence.leaseOwner
        ∨ job.lastFailureFenceToken ≠ some failure.fence.jobFenceToken)
      (staleStepError failure.fence.jobId)
    failIf (job.lastFailureRetryAt.map DateTime.decode ≠ some failure.retryAt
        ∨ job.lastError ≠ some errorSummary)
      (.conflict s!"workflow job {failure.fence.jobId} failure was retried with different details")
    failIf (job.status = .dead ∧ job.deadLetterEscalationId = none)
      (.persistence s!"workflow job {failure.fence.jobId} is DEAD without a linked escalation")
    return some {
      disposition := if job.status = .dead then .escalated else .retryScheduled
      newlyRecorded := false
      deadLetterEscalationId := job.deadLetterEscalationId }

end Asf.Steps
