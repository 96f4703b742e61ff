import Asf.Common.Session
import Asf.Steps.Requests

/-!
# The tables a workflow step writes

The rows behind `src/ledger/steps.rs` and the statements on them. A `CHECK` of
`escalations` or `accountability_anchors` is carried by the row: `checked`
builds a row that keeps it or reports the violation, as the database does. The
primary keys and the conflict targets of the inserts are modelled; the other
constraints and the triggers are the session's `verdict`.
-/

namespace Asf.Steps

open Lib (Table)
open Lib.Transaction (orFail)
open Jobs (WorkflowJob)

/-! ## Rows -/

/-- The columns of `work_items` that a step reads or writes (0001_initial.sql:197-261). -/
structure WorkItem where
  (id tenantId : Uuid)
  state : WorkItemState
  aggregateVersion : ℤ
  closedAt : Option Timestamptz
  updatedAt : Timestamptz
deriving DecidableEq

/-- The columns of `workflow_instances` that a step reads or writes
    (0001_initial.sql:1095-1120). -/
structure WorkflowInstance where
  (id tenantId workItemId : Uuid)
  state : WorkflowState
  (eventCursor fenceToken aggregateVersion : ℤ)
  terminalAt : Option Timestamptz
  updatedAt : Timestamptz
deriving DecidableEq

/-- What the database reports for a row that breaks a `CHECK`. -/
def checkViolation (relation : String) : String :=
  s!"new row for relation \"{relation}\" violates check constraint"

/-- A text column whose `CHECK` lists its values. -/
def checkedText {α : Type} (relation : String) (all : List α) (text : α → String)
    (value : String) : Except String α :=
  okOr (checkViolation relation) (parseText all text value)

/-- The columns of `accountability_anchors` (0001_initial.sql:1403-1430). -/
structure AnchorColumns where
  (tenantId workItemId : Uuid)
  anchorType : LedgerAccountabilityKind
  referenceId : Uuid
  wakeOrDeadlineAt : Option Timestamptz
  authorityOrEffectActive : Bool
  generation : ℤ
  updatedAt : Timestamptz
deriving DecidableEq

/-- The `CHECK`s of `accountability_anchors` (0001_initial.sql:1419, 1424-1429). -/
def AnchorColumns.Checks (row : AnchorColumns) : Prop :=
  0 < row.generation ∧ row.anchorType.requiresDeadline = row.wakeOrDeadlineAt.isSome

instance (row : AnchorColumns) : Decidable row.Checks :=
  inferInstanceAs (Decidable (_ ∧ _))

/-- A row of `accountability_anchors`. -/
structure Anchor extends AnchorColumns where
  checks : toAnchorColumns.Checks
deriving DecidableEq

/-- `PRIMARY KEY (tenant_id, work_item_id)`. -/
def Anchor.key (row : Anchor) : Uuid × Uuid := (row.tenantId, row.workItemId)

/-- The row, or the violation of its `CHECK`s. -/
def AnchorColumns.checked (row : AnchorColumns) : Except String Anchor :=
  if h : row.Checks then .ok ⟨row, h⟩ else .error (checkViolation "accountability_anchors")

/-- `escalations.status` (0001_initial.sql:697-698). -/
inductive EscalationStatus where
  | open | acknowledged | resolved | cancelled
deriving DecidableEq, Repr

/-- The text of a status. -/
def EscalationStatus.text : EscalationStatus → String
  | .open => "OPEN"
  | .acknowledged => "ACKNOWLEDGED"
  | .resolved => "RESOLVED"
  | .cancelled => "CANCELLED"

/-- `status IN ('OPEN', 'ACKNOWLEDGED')`. -/
def EscalationStatus.isActive : EscalationStatus → Bool
  | .open | .acknowledged => true
  | .resolved | .cancelled => false

/-- The columns of `escalations` (0001_initial.sql:673-733). The `jsonb` columns
    whose `CHECK` fixes their type are a list or a list of fields. -/
structure EscalationColumns where
  (id tenantId workItemId : Uuid)
  (attemptId runId : Option Uuid)
  category : EscalationCategory
  status : EscalationStatus
  severity : Severity
  reason : String
  ownerType : OwnerType
  (ownerId requiredAction : String)
  evidenceReferences : List Json
  deadline : Timestamptz
  escalationPath : List Json
  retryPolicy : List (String × Json)
  prerequisites : List Json
  authorityOrEffectActive : Bool
  idempotencyKey : String
  aggregateVersion : ℤ
  openedAt : Timestamptz
  (acknowledgedAt closedAt : Option Timestamptz)
deriving DecidableEq

/-- The `CHECK`s of `escalations` (0001_initial.sql:714, 727-732). -/
structure EscalationColumns.Checks (row : EscalationColumns) : Prop where
  reason : btrim row.reason ≠ ""
  ownerId : btrim row.ownerId ≠ ""
  requiredAction : btrim row.requiredAction ≠ ""
  idempotencyKey : btrim row.idempotencyKey ≠ ""
  version : 0 < row.aggregateVersion
  deadline : row.openedAt < row.deadline
  closed : ∀ t ∈ row.closedAt, row.openedAt ≤ t

instance (row : EscalationColumns) : Decidable row.Checks :=
  decidable_of_iff (btrim row.reason ≠ "" ∧ btrim row.ownerId ≠ "" ∧ btrim row.requiredAction ≠ ""
      ∧ btrim row.idempotencyKey ≠ "" ∧ 0 < row.aggregateVersion ∧ row.openedAt < row.deadline
      ∧ ∀ t ∈ row.closedAt, row.openedAt ≤ t)
    ⟨fun ⟨h₁, h₂, h₃, h₄, h₅, h₆, h₇⟩ => ⟨h₁, h₂, h₃, h₄, h₅, h₆, h₇⟩,
      fun ⟨h₁, h₂, h₃, h₄, h₅, h₆, h₇⟩ => ⟨h₁, h₂, h₃, h₄, h₅, h₆, h₇⟩⟩

/-- A row of `escalations`. -/
structure Escalation extends EscalationColumns where
  checks : toEscalationColumns.Checks
deriving DecidableEq

/-- The row, or the violation of its `CHECK`s. -/
def EscalationColumns.checked (row : EscalationColumns) : Except String Escalation :=
  if h : row.Checks then .ok ⟨row, h⟩ else .error (checkViolation "escalations")

/-- The columns of `workflow_timers` that a step writes (0001_initial.sql:1215-1246). -/
structure WorkflowTimer where
  (id tenantId : Uuid)
  (workflowInstanceId workItemId attemptId : Option Uuid)
  (workflowKey timerKey timerType activityContractId : String)
  dueAt : Timestamptz
  payload : Json
  generation : ℤ
deriving DecidableEq

/-- The columns of `effect_intents` that a step writes (0001_initial.sql:1252-1288). -/
structure EffectIntent where
  (id tenantId : Uuid)
  (workItemId attemptId : Option Uuid)
  (provider effectType idempotencyKey : String)
  correlationMarker : Option String
  requestDigest : String
  requestPayload : Json
  workOrderId : Option Uuid
  workOrderDigest : Option String
  nextAttemptAt : Timestamptz
deriving DecidableEq

/-- The columns of `outbox` that a step writes (0001_initial.sql:1312-1341). -/
structure OutboxRow where
  (id tenantId : Uuid)
  (topic messageKey eventType : String)
  (payload headers : Json)
  idempotencyKey : String
  availableAt : Timestamptz
deriving DecidableEq

/-- The columns of `audit_events` that a step writes (0001_initial.sql:1351-1390). -/
structure AuditRow where
  (id tenantId : Uuid)
  (workItemId attemptId : Option Uuid)
  (actorType actorId action subjectType subjectId correlationId : String)
  (traceId policyDigest beforeDigest afterDigest previousEventHash : Option String)
  eventHash : String
  details : Json
  occurredAt : Timestamptz
deriving DecidableEq

/-- The tables of a workflow step. -/
structure Db where
  jobs : Table WorkflowJob WorkflowJob.id
  workItems : Table WorkItem WorkItem.id
  workflows : Table WorkflowInstance WorkflowInstance.id
  anchors : Table Anchor Anchor.key
  escalations : Table Escalation fun row => row.id
  timers : Table WorkflowTimer WorkflowTimer.id
  effects : Table EffectIntent EffectIntent.id
  outbox : Table OutboxRow OutboxRow.id
  auditEvents : Table AuditRow AuditRow.id
deriving DecidableEq

/-! The tables with one of them replaced. -/

variable (db : Db)

namespace Db

@[simps] def withJobs (jobs : Table WorkflowJob WorkflowJob.id) : Db :=
  { db with jobs }
@[simps] def withWorkItems (workItems : Table WorkItem WorkItem.id) : Db :=
  { db with workItems }
@[simps] def withWorkflows (workflows : Table WorkflowInstance WorkflowInstance.id) : Db :=
  { db with workflows }
@[simps] def withAnchors (anchors : Table Anchor Anchor.key) : Db :=
  { db with anchors }
@[simps] def withEscalations (escalations : Table Escalation fun row => row.id) : Db :=
  { db with escalations }
@[simps] def withTimers (timers : Table WorkflowTimer WorkflowTimer.id) : Db :=
  { db with timers }
@[simps] def withEffects (effects : Table EffectIntent EffectIntent.id) : Db :=
  { db with effects }
@[simps] def withOutbox (outbox : Table OutboxRow OutboxRow.id) : Db :=
  { db with outbox }
@[simps] def withAuditEvents (auditEvents : Table AuditRow AuditRow.id) : Db :=
  { db with auditEvents }

end Db

/-! ## Statements

`lock_step_job` reads the clock once and the other statements once each, so
that two `clock_timestamp()` of one statement agree. -/

section Writes

variable (codec : Codec) (fence : WorkflowStepFence) (effect : StepEffectIntent) (state : String)
  (eventCursor : ℤ) (timer : StepWorkflowTimer) (audit : StepAuditEvent) (tenantId : Uuid)
  (message : StepOutboxMessage) (job : StepWorkflowJob) (now : Timestamptz)

/-- What the database reports for a second row under a primary key. -/
def duplicateKey (relation : String) : String :=
  s!"duplicate key value violates unique constraint \"{relation}_pkey\""

/-- A `bigint` column that is incremented. -/
def increment (n : ℤ) : Except String ℤ :=
  if n < i64Max then .ok (n + 1) else .error "bigint out of range"

/-- `LOCK_STEP_JOB_SQL` (lines 38-64): the row and `lease_is_live`. -/
def lockStepJob : Tx Db (WorkflowJob × Option Bool) := do
  let now ← clockTimestamp
  let row ← select fun db =>
    (db.jobs.find? fence.jobId).filter fun job => job.tenantId == fence.tenantId
  let job ← orFail (.notFound s!"workflow job {fence.jobId}") row
  return (job, job.leaseExpiresAt.map fun t => decide (now < t))

/-- The row guard of the work item (lines 1055-1057). -/
def isExpectedWorkItem (row : WorkItem) : Bool :=
  row.tenantId == fence.tenantId && row.aggregateVersion == fence.expectedWorkItemVersion

/-- The row guard of the workflow (lines 1079-1083). -/
def isExpectedWorkflow (row : WorkflowInstance) : Bool :=
  row.tenantId == fence.tenantId && row.workItemId == fence.workItemId
    && row.aggregateVersion == fence.expectedWorkflowVersion
    && row.fenceToken == fence.expectedWorkflowFenceToken

/-- The error of a stale work item (lines 1069-1072, 1184-1189). -/
def staleWorkItem : Error :=
  .conflict s!"work item {fence.workItemId} aggregate version is stale"

/-- The error of a stale workflow (lines 1097-1100, 1210-1215, 1245-1250). -/
def staleWorkflow : Error :=
  .conflict s!"workflow {fence.workflowInstanceId} aggregate version or fence is stale"

/-- `lock_step_aggregates` (lines 1047-1103). -/
def lockStepAggregates : Tx Db Unit := do
  let work ← select fun db =>
    (db.workItems.find? fence.workItemId).filter (isExpectedWorkItem fence)
  reject work.isNone (staleWorkItem fence)
  let workflow ← select fun db =>
    (db.workflows.find? fence.workflowInstanceId).filter (isExpectedWorkflow fence)
  reject workflow.isNone (staleWorkflow fence)

/-- The assignments of `UPDATE_WORK_ITEM_SQL` (lines 80-86). -/
def advancedWorkItem (row : WorkItem) : Except String WorkItem := do
  let state ← checkedText "work_items" WorkItemState.all WorkItemState.text state
  let aggregateVersion ← increment row.aggregateVersion
  return { row with
    state
    aggregateVersion
    closedAt := if state = .closed then some (row.closedAt.getD now) else row.closedAt
    updatedAt := now }

/-- `update_work_item` (lines 1171-1191). -/
def updateWorkItem : Tx Db ℤ := do
  let now ← clockTimestamp
  let row ← execute "advance workflow-step work item" fun db => do
    let (row, workItems) ← db.workItems.updateOne fence.workItemId (isExpectedWorkItem fence)
      (advancedWorkItem state now)
    return (row, db.withWorkItems workItems)
  let row ← orFail (staleWorkItem fence) row
  return row.aggregateVersion

/-- The assignments of `UPDATE_WORKFLOW_SQL` (lines 95-104). -/
def advancedWorkflow (row : WorkflowInstance) : Except String WorkflowInstance := do
  let state ← checkedText "workflow_instances" WorkflowState.all WorkflowState.text state
  let fenceToken ← increment row.fenceToken
  let aggregateVersion ← increment row.aggregateVersion
  return { row with
    state
    eventCursor
    fenceToken
    aggregateVersion
    terminalAt := if state = .completed ∨ state = .failed ∨ state = .cancelled then
      some (row.terminalAt.getD now) else none
    updatedAt := now }

/-- `update_workflow` (lines 1193-1220). -/
def updateWorkflow : Tx Db (ℤ × ℤ) := do
  let now ← clockTimestamp
  let row ← execute "advance workflow-step instance" fun db => do
    let (row, workflows) ← db.workflows.updateOne fence.workflowInstanceId
      (isExpectedWorkflow fence) (advancedWorkflow state eventCursor now)
    return (row, db.withWorkflows workflows)
  let row ← orFail (staleWorkflow fence) row
  return (row.aggregateVersion, row.fenceToken)

/-- `current_workflow_cursor` (lines 1222-1251). -/
def currentWorkflowCursor : Tx Db ℤ := do
  let row ← select fun db =>
    (db.workflows.find? fence.workflowInstanceId).filter (isExpectedWorkflow fence)
  let row ← orFail (staleWorkflow fence) row
  return row.eventCursor

/-- `REPLACE_ACCOUNTABILITY_SQL` (lines 113-142): the `SELECT` proposes a row when
    the first anchor is expected or the current one has the expected generation; a
    conflict updates the row only when it has that generation. -/
def replaceAnchor (expected : ℤ) (proposed : AnchorColumns) (db : Db) :
    Except String (Option ℤ × Db) :=
  let current := db.anchors.find? (proposed.tenantId, proposed.workItemId)
  if expected = 0 ∨ current.any (fun row => row.generation == expected) then do
    let anchor ← proposed.checked
    match current with
    | none =>
      match db.anchors.insert? anchor with
      | none => throw (duplicateKey "accountability_anchors")
      | some anchors => return (some anchor.generation, db.withAnchors anchors)
    | some row =>
      if row.generation = expected then
        return (some anchor.generation, db.withAnchors (db.anchors.set anchor))
      else return (none, db)
  else .ok (none, db)

/-- `replace_accountability` (lines 1253-1281). -/
def replaceAccountability (replacement : AccountabilityReplacement) : Tx Db ℤ := do
  reject (fence.expectedAnchorGeneration + 1 > i64Max)
    (.conflict "accountability generation overflowed")
  let now ← clockTimestamp
  let generation ← execute "replace accountability anchor" <|
    replaceAnchor fence.expectedAnchorGeneration {
      tenantId := fence.tenantId
      workItemId := fence.workItemId
      anchorType := replacement.kind
      referenceId := replacement.referenceId
      wakeOrDeadlineAt := replacement.wakeOrDeadlineAt.map DateTime.encode
      authorityOrEffectActive := replacement.authorityOrEffectActive
      generation := fence.expectedAnchorGeneration + 1
      updatedAt := now }
  orFail (.conflict s!"work item {fence.workItemId} accountability generation is stale") generation

/-! ## Inserts -/

/-- The child job as the queue's insert takes it. -/
def StepWorkflowJob.request : Jobs.NewWorkflowJob where
  id := job.id
  tenantId := fence.tenantId
  workflowInstanceId := some fence.workflowInstanceId
  workItemId := some fence.workItemId
  attemptId := job.attemptId
  jobType := job.jobType
  activityContractId := job.activityContractId
  payload := job.payload
  idempotencyKey := job.idempotencyKey
  priority := job.priority
  availableAt := job.availableAt
  maxAttempts := job.maxAttempts

/-- `INSERT_STEP_JOB_SQL` (lines 204-224), `insert_workflow_job` (lines 1283-1308). -/
def insertWorkflowJob : Tx Db Unit := do
  let now ← clockTimestamp
  let inserted ← execute "insert workflow-step job" fun db => do
    let (inserted, jobs) ← db.jobs.insertOrMatch (duplicateKey "workflow_jobs")
      (fun row => row.tenantId == fence.tenantId && row.idempotencyKey == job.idempotencyKey)
      (fun row => row.id == job.id && Jobs.requestMatches row (job.request fence))
      (Jobs.insertedJob now (job.request fence))
    return (inserted, db.withJobs jobs)
  reject (!inserted) (idempotencyConflict "workflow job" job.idempotencyKey)

/-- The row `INSERT_STEP_TIMER_SQL` (lines 226-245) writes. -/
def StepWorkflowTimer.row : WorkflowTimer where
  id := timer.id
  tenantId := fence.tenantId
  workflowInstanceId := some fence.workflowInstanceId
  workItemId := some fence.workItemId
  attemptId := timer.attemptId
  workflowKey := timer.workflowKey
  timerKey := timer.timerKey
  timerType := timer.timerType
  activityContractId := timer.activityContractId
  dueAt := timer.dueAt.encode
  payload := timer.payload
  generation := timer.generation

/-- `insert_workflow_timer` (lines 1310-1338). -/
def insertWorkflowTimer : Tx Db Unit := do
  let inserted ← execute "insert workflow-step timer" fun db => do
    let (inserted, timers) ← db.timers.insertOrMatch (duplicateKey "workflow_timers")
      (fun row => row.tenantId == fence.tenantId && row.workflowKey == timer.workflowKey
        && row.timerKey == timer.timerKey)
      (fun row => row.payload.sqlEq timer.payload
        && decide ({ row with payload := timer.payload } = timer.row fence))
      (timer.row fence)
    return (inserted, db.withTimers timers)
  reject (!inserted) (idempotencyConflict "workflow timer" s!"{timer.workflowKey}:{timer.timerKey}")

/-- The row of `insert_effect_intent`'s statement (lines 1347-1366). -/
def StepEffectIntent.row : EffectIntent where
  id := effect.id
  tenantId := fence.tenantId
  workItemId := some fence.workItemId
  attemptId := effect.attemptId
  provider := effect.provider
  effectType := effect.effectType
  idempotencyKey := effect.idempotencyKey
  correlationMarker := effect.correlationMarker
  requestDigest := effect.requestDigest
  requestPayload := effect.requestPayload
  workOrderId := effect.runmillSubmission.map (·.workOrderId)
  workOrderDigest := effect.runmillSubmission.map (·.workOrderDigest)
  nextAttemptAt := effect.nextAttemptAt.encode

/-- `insert_effect_intent` (lines 1340-1402). -/
def insertEffectIntent : Tx Db Unit := do
  let inserted ← execute "insert workflow-step effect intent" fun db => do
    let (inserted, effects) ← db.effects.insertOrMatch (duplicateKey "effect_intents")
      (fun row => row.tenantId == fence.tenantId && row.idempotencyKey == effect.idempotencyKey)
      (fun row => row.requestPayload.sqlEq effect.requestPayload
        && decide ({ row with requestPayload := effect.requestPayload } = effect.row fence))
      (effect.row fence)
    return (inserted, db.withEffects effects)
  reject (!inserted) (idempotencyConflict "effect intent" effect.idempotencyKey)

/-- The row of `insert_outbox_message`'s statement (lines 1411-1425). -/
def StepOutboxMessage.row : OutboxRow where
  id := message.id
  tenantId := tenantId
  topic := message.topic
  messageKey := message.messageKey
  eventType := message.eventType
  payload := message.payload
  headers := message.headers
  idempotencyKey := message.idempotencyKey
  availableAt := message.availableAt.encode

/-- The `WHERE` clause of the outbox conflict (lines 1418-1424). -/
def outboxMatches (row proposed : OutboxRow) : Bool :=
  row.payload.sqlEq proposed.payload && row.headers.sqlEq proposed.headers
    && decide ({ row with payload := proposed.payload, headers := proposed.headers } = proposed)

/-- `insert_outbox_message` (lines 1404-1447). -/
def insertOutboxMessage : Tx Db Unit := do
  let inserted ← execute "insert workflow-step outbox message" fun db => do
    let (inserted, outbox) ← db.outbox.insertOrMatch (duplicateKey "outbox")
      (fun row => row.tenantId == tenantId && row.idempotencyKey == message.idempotencyKey)
      (fun row => outboxMatches row (message.row tenantId)) (message.row tenantId)
    return (inserted, db.withOutbox outbox)
  reject (!inserted) (idempotencyConflict "outbox message" message.idempotencyKey)

/-- `LOAD_AUDIT_CHAIN_HEAD_SQL` (lines 26-36): the first event without a successor. -/
def Db.auditChainHead : Option String :=
  (db.auditEvents.rows.find? fun event => event.tenantId == tenantId
    && !db.auditEvents.rows.any fun successor => successor.tenantId == event.tenantId
      && successor.previousEventHash == some event.eventHash).map AuditRow.eventHash

/-- `canonical_step_audit_event` (lines 1511-1535). -/
def canonicalStepAuditEvent (previousEventHash : Option String) : Result HashedAuditEvent :=
  HashedAuditEvent.create codec.auditDigest {
    id := audit.id
    tenantId := fence.tenantId
    workItemId := some fence.workItemId
    attemptId := audit.attemptId
    actorType := audit.actorType
    actorId := audit.actorId
    action := audit.action
    subjectType := audit.subjectType
    subjectId := audit.subjectId
    correlationId := audit.correlationId
    traceId := audit.traceId
    policyDigest := audit.policyDigest
    beforeDigest := audit.beforeDigest
    afterDigest := audit.afterDigest
    previousEventHash
    details := audit.details
    occurredAt := audit.occurredAt }

/-- The row of `insert_audit_event`'s statement (lines 1469-1478, 1483-1500). -/
def auditRow (event : HashedAuditEvent) : AuditRow where
  id := event.content.id
  tenantId := fence.tenantId
  workItemId := some fence.workItemId
  attemptId := event.content.attemptId
  actorType := event.content.actorType
  actorId := event.content.actorId
  action := event.content.action
  subjectType := event.content.subjectType
  subjectId := event.content.subjectId
  correlationId := event.content.correlationId
  traceId := event.content.traceId
  policyDigest := event.content.policyDigest
  beforeDigest := event.content.beforeDigest
  afterDigest := event.content.afterDigest
  previousEventHash := event.content.previousEventHash
  eventHash := event.eventHash
  details := event.content.details
  occurredAt := event.content.occurredAt.encode

/-- `insert_audit_event` (lines 1449-1509); `ON CONFLICT (tenant_id, event_hash) DO
    NOTHING` returns no row. -/
def insertAuditEvent : Tx Db Unit := do
  let previousEventHash ← select fun db => db.auditChainHead fence.tenantId
  let event ← .ofExcept (canonicalStepAuditEvent codec fence audit previousEventHash)
  .ofExcept (event.verify codec.auditDigest)
  let inserted ← execute "insert workflow-step audit event" fun db => do
    let (inserted, auditEvents) ← db.auditEvents.insertOrMatch (duplicateKey "audit_events")
      (fun row => row.tenantId == fence.tenantId && row.eventHash == event.eventHash)
      (fun _ => false) (auditRow fence event)
    return (inserted, db.withAuditEvents auditEvents)
  reject (!inserted) (idempotencyConflict "audit event" event.eventHash)

end Writes

end Asf.Steps
