import Asf.Common.Json
import Asf.Lib.Machine
import Asf.Lib.Table
import Mathlib.Data.List.Sort

/-!
# The durable job queue (`src/ledger/jobs.rs`)

The `workflow_jobs` table and the five operations on it: `enqueue_job`,
`claim_jobs`, `renew_job_lease`, `complete_job` and `fail_job`. Every statement
runs on the pool, outside a transaction: a call changes the tables as soon as
its one writing statement succeeds, whatever it returns afterwards.

`now` is the reading of `clock_timestamp()`. `verdict` is what the triggers,
checks and foreign keys that are not modelled say about the rows a statement
writes: `some e` rejects them with the text `e`. The two unique keys of the
table are modelled.

`ledger` is the machine whose inputs are the calls, each after some time has
passed.
-/

namespace Asf.Jobs

open Lib (Table Machine)

/-! ## Rows -/

/-- `workflow_jobs.status` (migrations/0001_initial.sql:1129-1130). -/
inductive JobStatus where
  | pending | running | retry | completed | dead | cancelled
deriving DecidableEq, Repr

/-- The text of a status. -/
def JobStatus.text : JobStatus → String
  | .pending => "PENDING"
  | .running => "RUNNING"
  | .retry => "RETRY"
  | .completed => "COMPLETED"
  | .dead => "DEAD"
  | .cancelled => "CANCELLED"

/-- A row of `workflow_jobs` (migrations/0001_initial.sql:1122-1155). -/
structure WorkflowJob where
  (id tenantId : Uuid)
  (workflowInstanceId workItemId attemptId : Option Uuid)
  (jobType activityContractId : String)
  status : JobStatus
  priority : ℤ
  payload : Json
  result : Option Json
  idempotencyKey : String
  availableAt : Timestamptz
  (attemptCount maxAttempts fenceToken : ℤ)
  leaseOwner : Option String
  leaseExpiresAt : Option Timestamptz
  completedBy : Option String
  completionFenceToken : Option ℤ
  completedAt : Option Timestamptz
  lastFailureBy : Option String
  lastFailureFenceToken : Option ℤ
  lastFailureRetryAt : Option Timestamptz
  lastError : Option String
  (deadLetterEscalationId deadLetterOperationalIncidentId : Option Uuid)
  deadLetteredAt : Option Timestamptz
  (createdAt updatedAt : Timestamptz)
deriving DecidableEq

/-- `effect_intents.status` (migrations/0001_initial.sql:1259-1260). -/
inductive EffectStatus where
  | pending | inFlight | observed | ambiguous | failed | cancelled
deriving DecidableEq, Repr

/-- The columns of `effect_intents` that a claim reads and writes. -/
structure EffectIntent where
  (id tenantId : Uuid)
  (provider effectType : String)
  status : EffectStatus
  owningWorkflowJobId : Option Uuid
  leaseOwner : Option String
  leaseExpiresAt : Option Timestamptz
  lastError : Option String
  updatedAt : Timestamptz
deriving DecidableEq

/-- The tables of the job queue. -/
structure Db where
  jobs : Table WorkflowJob WorkflowJob.id
  effects : Table EffectIntent EffectIntent.id
deriving DecidableEq

/-- What the database says about the rows a statement has written. -/
def accept {α β : Type} (verdict : Option String) (written : List α) (db : β) : Except String β :=
  match verdict with
  | some e => if written.isEmpty then .ok db else .error e
  | none => .ok db

/-! ## Requests and answers -/

/-- `NewWorkflowJob` (lines 131-144). -/
structure NewWorkflowJob where
  (id tenantId : Uuid)
  (workflowInstanceId workItemId attemptId : Option Uuid)
  (jobType activityContractId : String)
  payload : Json
  idempotencyKey : String
  priority : ℤ
  availableAt : DateTime
  maxAttempts : ℤ

/-- `EnqueueJobOutcome` (lines 204-207). -/
structure EnqueueJobOutcome where
  jobId : Uuid
  inserted : Bool
deriving DecidableEq

/-- `ClaimedWorkflowJob` (lines 211-228). -/
structure ClaimedWorkflowJob where
  (id tenantId : Uuid)
  (workflowInstanceId workItemId attemptId : Option Uuid)
  (jobType activityContractId : String)
  payload : Json
  idempotencyKey : String
  (priority attemptCount maxAttempts fenceToken : ℤ)
  leaseOwner : String
  (leaseExpiresAt createdAt : DateTime)
deriving DecidableEq

/-- `CompleteJobOutcome` (lines 232-235). -/
inductive CompleteJobOutcome where
  | completed | alreadyCompleted
deriving DecidableEq, Repr

/-- `FailureDisposition` (lines 238-241). -/
inductive FailureDisposition where
  | retryScheduled | dead
deriving DecidableEq, Repr

/-- `FailJobOutcome` (lines 245-248). -/
structure FailJobOutcome where
  disposition : FailureDisposition
  newlyRecorded : Bool
deriving DecidableEq, Repr

/-! ## Validation -/

/-- `MAX_JOB_ERROR_CHARACTERS`. -/
def maxJobErrorCharacters : ℕ := 8192

/-- `MAX_CLAIM_BATCH`. -/
def maxClaimBatch : ℕ := 1000

/-- `MAX_JOB_LEASE_DURATION` (mod.rs:44). -/
def maxJobLeaseDuration : Duration := .fromHours 24

/-- The loop of `is_valid_activity_contract_id`; the accumulator is
    `previous_was_separator`. -/
def contractIdScan : Bool → List UInt8 → Bool
  | previousWasSeparator, [] => !previousWasSeparator
  | previousWasSeparator, byte :: rest =>
    if (97 ≤ byte && byte ≤ 122) || (48 ≤ byte && byte ≤ 57) then contractIdScan false rest
    else if byte == 46 || byte == 47 || byte == 45 then
      if previousWasSeparator then false else contractIdScan true rest
    else false

/-- `is_valid_activity_contract_id` (lines 775-793). -/
def isValidActivityContractId (candidate : String) : Bool :=
  if candidate.isEmpty || (bytes candidate).length > 128 then false
  else contractIdScan true (bytes candidate)

/-- `NewWorkflowJob::validate` (lines 147-199). -/
def NewWorkflowJob.validate (job : NewWorkflowJob) : Result Unit := do
  failIf (job.id.isNil || job.tenantId.isNil)
    (.validation "workflow job and tenant IDs must be non-nil")
  failIf (job.workflowInstanceId.any (·.isNil) || job.workItemId.any (·.isNil)
      || job.attemptId.any (·.isNil))
    (.validation "workflow job bindings must use non-nil IDs")
  failIf (job.workflowInstanceId.isSome != job.workItemId.isSome)
    (.validation "workflow jobs must be either tenant-scoped or bind both a workflow and work item")
  failIf (job.attemptId.isSome && job.workItemId.isNone)
    (.validation "an attempt-bound job must name its work item")
  failIf (isBlank job.jobType) (.validation "workflow job type must be non-empty")
  failIf (!isValidActivityContractId job.activityContractId)
    (.validation
      s!"workflow job activity contract id {debugText job.activityContractId} is invalid")
  failIf (!job.payload.isObject) (.validation "workflow job payload must be a JSON object")
  failIf (isBlank job.idempotencyKey) (.validation "workflow job idempotency key must be non-empty")
  failIf (job.maxAttempts ≤ 0) (.validation "workflow job max_attempts must be positive")

/-- `validate_claim_request` (lines 731-748). -/
def validateClaimRequest (leaseOwner : String) (limit : ℕ) (leaseDuration : Duration) :
    Result Unit := do
  failIf (isBlank leaseOwner) (.validation "job lease owner must be non-empty")
  failIf (limit = 0 ∨ limit > maxClaimBatch)
    (.validation s!"job claim limit must be in 1..={maxClaimBatch}")
  failIf (leaseDuration.nanos = 0 ∨ leaseDuration.nanos > maxJobLeaseDuration.nanos)
    (.validation "job lease duration must be positive and at most 24 hours")

/-- `validate_job_mutation` (lines 750-760). -/
def validateJobMutation (leaseOwner : String) (fenceToken : ℤ) : Result Unit := do
  failIf (isBlank leaseOwner) (.validation "job lease owner must be non-empty")
  failIf (fenceToken ≤ 0) (.validation "job fence token must be positive")

/-- `i64::try_from(lease_duration.as_millis())`. -/
def leaseMilliseconds (leaseDuration : Duration) : Result ℤ :=
  if (leaseDuration.asMillis : ℤ) ≤ i64Max then .ok leaseDuration.asMillis
  else .error (.validation "workflow job lease duration is too large")

/-- `fenced_claim_error` (lines 762-766). -/
def fencedClaimError (jobId : Uuid) : Error :=
  .conflict s!"workflow job {jobId} claim is expired, completed, or superseded by a newer fence"

/-- `summarize_error` (lines 768-770). -/
def summarizeError (value : String) : String := takeChars maxJobErrorCharacters value

/-- `failure_disposition` (lines 721-729). -/
def failureDisposition : JobStatus → Result FailureDisposition
  | .retry => .ok .retryScheduled
  | .dead => .ok .dead
  | other => .error (.persistence s!"unexpected workflow job failure status {other.text}")

/-! ## `enqueue_job` -/

/-- The row `INSERT_JOB_SQL` (lines 94-110) writes, with the column defaults. -/
def insertedJob (now : Timestamptz) (job : NewWorkflowJob) : WorkflowJob where
  id := job.id
  tenantId := job.tenantId
  workflowInstanceId := job.workflowInstanceId
  workItemId := job.workItemId
  attemptId := job.attemptId
  jobType := job.jobType
  activityContractId := job.activityContractId
  status := .pending
  priority := job.priority
  payload := job.payload
  result := none
  idempotencyKey := job.idempotencyKey
  availableAt := job.availableAt.encode
  attemptCount := 0
  maxAttempts := job.maxAttempts
  fenceToken := 0
  leaseOwner := none
  leaseExpiresAt := none
  completedBy := none
  completionFenceToken := none
  completedAt := none
  lastFailureBy := none
  lastFailureFenceToken := none
  lastFailureRetryAt := none
  lastError := none
  deadLetterEscalationId := none
  deadLetterOperationalIncidentId := none
  deadLetteredAt := none
  createdAt := now
  updatedAt := now

section Queries

variable (tenantId : Uuid) (limit : ℕ) (now : Timestamptz) (verdict : Option String)
  (locked : Uuid → Bool) (db : Db) (effect : EffectIntent)

/-- The row `(tenant_id, idempotency_key)` names. -/
def Db.idempotentJob (tenantId : Uuid) (idempotencyKey : String) : Option WorkflowJob :=
  db.jobs.rows.find? fun r => r.tenantId == tenantId && r.idempotencyKey == idempotencyKey

/-- `insert_job` (lines 547-565): `ON CONFLICT (tenant_id, idempotency_key) DO
    NOTHING`, while a second row with the same `id` is an error. -/
def insertJob (job : NewWorkflowJob) (db : Db) : Except String (Db × Bool) :=
  match verdict with
  | some e => .error e
  | none =>
    match db.idempotentJob job.tenantId job.idempotencyKey with
    | some _ => .ok (db, false)
    | none =>
      match db.jobs.insert? (insertedJob now job) with
      | none =>
        .error "duplicate key value violates unique constraint \"workflow_jobs_pkey\""
      | some jobs => .ok ({ db with jobs }, true)

/-- `LOAD_IDEMPOTENT_JOB_SQL`'s `request_matches` (lines 113-127). -/
def requestMatches (row : WorkflowJob) (job : NewWorkflowJob) : Bool :=
  row.workflowInstanceId == job.workflowInstanceId
    && row.workItemId == job.workItemId
    && row.attemptId == job.attemptId
    && row.jobType == job.jobType
    && row.activityContractId == job.activityContractId
    && row.payload.sqlEq job.payload
    && row.priority == job.priority
    && row.availableAt == job.availableAt.encode
    && row.maxAttempts == job.maxAttempts

/-- `validate_idempotent_job` (lines 590-605). -/
def validateIdempotentJob (existing : WorkflowJob) (job : NewWorkflowJob) : Result Uuid :=
  if requestMatches existing job then .ok existing.id
  else .error (.conflict
    s!"workflow job idempotency key {job.idempotencyKey} was reused for a different request")

/-- `enqueue_job` (lines 258-271). -/
def enqueueJob (job : NewWorkflowJob) (db : Db) : Db × Result EnqueueJobOutcome :=
  match job.validate with
  | .error e => (db, .error e)
  | .ok () =>
    match insertJob now verdict job db with
    | .error e => (db, .error (persistenceError "enqueue workflow job" e))
    | .ok (db', true) => (db', .ok { jobId := job.id, inserted := true })
    | .ok (db', false) =>
      match db'.idempotentJob job.tenantId job.idempotencyKey with
      | none => (db', .error (.persistence
          "workflow job conflict was observed but the existing row was not visible"))
      | some existing =>
        match validateIdempotentJob existing job with
        | .error e => (db', .error e)
        | .ok jobId => (db', .ok { jobId, inserted := false })

/-! ## `claim_jobs` -/

/-- The `WHERE` clause of `CLAIM_JOBS_SQL`'s candidates (lines 18-29). -/
def claimable (job : WorkflowJob) : Bool :=
  job.tenantId == tenantId
    && decide (job.attemptCount < job.maxAttempts)
    && ((job.status == .pending || job.status == .retry) && decide (job.availableAt ≤ now)
      || job.status == .running && job.leaseExpiresAt.any fun t => decide (t ≤ now))

/-- `ORDER BY job.priority DESC, job.available_at, job.id`. -/
def claimBefore (a b : WorkflowJob) : Prop :=
  b.priority < a.priority ∨ a.priority = b.priority ∧
    (a.availableAt < b.availableAt ∨ a.availableAt = b.availableAt ∧ a.id ≤ b.id)

instance : DecidableRel claimBefore := fun a b =>
  inferInstanceAs (Decidable (b.priority < a.priority ∨ a.priority = b.priority ∧
    (a.availableAt < b.availableAt ∨ a.availableAt = b.availableAt ∧ a.id ≤ b.id)))

/-- The candidates (lines 15-33). `locked` says which rows other transactions
    hold locks on; `SKIP LOCKED` passes over them before `LIMIT` counts. -/
def candidates : List WorkflowJob :=
  (((db.jobs.rows.filter (claimable tenantId now)).insertionSort claimBefore).filter
    fun job => !locked job.id).take limit

/-- The effects a reclaim releases (lines 53-63). -/
def releasable (claimed : List Uuid) (effect : EffectIntent) : Bool :=
  effect.tenantId == tenantId
    && effect.owningWorkflowJobId.any (fun id => claimed.contains id)
    && effect.status == .inFlight
    && (effect.provider == "runmill"
          && (effect.effectType == "request_cancellation"
            || effect.effectType == "submit_work_order")
        || effect.provider == "linear" && effect.effectType == "close_source")

/-- `left(concat_ws('; ', NULLIF(last_error, ''), …), 8192)` (lines 44-51). -/
def releasedError (lastError : Option String) : String :=
  let reason := "owning workflow-job lease expired; exact external-effect reconciliation required"
  takeChars 8192 (match lastError with
    | some e => if e = "" then reason else e ++ "; " ++ reason
    | none => reason)

/-- The `released_external_effects` update (lines 38-52). -/
def releasedEffect : EffectIntent :=
  { effect with
    status := .ambiguous
    owningWorkflowJobId := none
    leaseOwner := none
    leaseExpiresAt := none
    lastError := some (releasedError effect.lastError)
    updatedAt := now }

@[simp] theorem releasedEffect_id :
    (releasedEffect now effect).id = effect.id := rfl

/-- The update of a claimed job (lines 66-72). -/
def claimedJob (leaseOwner : String) (milliseconds : ℤ) (now : Timestamptz)
    (job : WorkflowJob) : WorkflowJob :=
  { job with
    status := .running
    attemptCount := job.attemptCount + 1
    fenceToken := job.fenceToken + 1
    leaseOwner := some leaseOwner
    leaseExpiresAt := some (now + milliseconds * 1000)
    updatedAt := now }

@[simp] theorem claimedJob_id (leaseOwner : String) (milliseconds : ℤ) (now : Timestamptz)
    (job : WorkflowJob) : (claimedJob leaseOwner milliseconds now job).id = job.id := rfl

/-- `CLAIM_JOBS_SQL` (lines 14-92): the new tables and the returned rows. The
    two counters are bounded by their column types. -/
def claimJobsSql (leaseOwner : String) (milliseconds : ℤ) (now : Timestamptz)
    (locked : Uuid → Bool) (verdict : Option String) (db : Db) :
    Except String (Db × List WorkflowJob) :=
  let claimed := (candidates tenantId limit now locked db).map WorkflowJob.id
  let isClaimed := fun job : WorkflowJob => claimed.contains job.id
  let jobs := db.jobs.update isClaimed (claimedJob leaseOwner milliseconds now)
    (claimedJob_id leaseOwner milliseconds now)
  let effects := db.effects.update (releasable tenantId claimed) (releasedEffect now)
    (releasedEffect_id now)
  let returned := jobs.rows.filter isClaimed
  if returned.any fun job => decide (i32Max < job.attemptCount) then
    .error "integer out of range"
  else if returned.any fun job => decide (i64Max < job.fenceToken) then
    .error "bigint out of range"
  else accept verdict returned ({ jobs, effects }, returned)

end Queries

/-- `claimed_job_from_row` (lines 668-703). -/
def claimedJobFromRow (row : WorkflowJob) : Result ClaimedWorkflowJob := do
  let leaseOwner ← requiredColumn "lease_owner" "claimed workflow job lease owner" row.leaseOwner
  let leaseExpiresAt ←
    requiredColumn "lease_expires_at" "claimed workflow job lease expiry" row.leaseExpiresAt
  return {
    id := row.id
    tenantId := row.tenantId
    workflowInstanceId := row.workflowInstanceId
    workItemId := row.workItemId
    attemptId := row.attemptId
    jobType := row.jobType
    activityContractId := row.activityContractId
    payload := row.payload
    idempotencyKey := row.idempotencyKey
    priority := row.priority
    attemptCount := row.attemptCount
    maxAttempts := row.maxAttempts
    fenceToken := row.fenceToken
    leaseOwner := leaseOwner
    leaseExpiresAt := .decode leaseExpiresAt
    createdAt := .decode row.createdAt }

section Calls

variable (now : Timestamptz) (verdict : Option String) (tenantId jobId : Uuid) (leaseOwner : String)
  (fenceToken : ℤ) (leaseDuration : Duration) (result : Option Json) (db : Db)
  (p : WorkflowJob → Bool) (f : WorkflowJob → WorkflowJob) (hf : ∀ job, (f job).id = job.id)
  (errorSummary : String) (milliseconds : ℤ)

/-- `claim_jobs` (lines 280-302). -/
def claimJobs (locked : Uuid → Bool) (verdict : Option String) (tenantId : Uuid)
    (leaseOwner : String) (limit : ℕ) (leaseDuration : Duration) (db : Db) :
    Db × Result (List ClaimedWorkflowJob) :=
  match validateClaimRequest leaseOwner limit leaseDuration with
  | .error e => (db, .error e)
  | .ok () =>
    match leaseMilliseconds leaseDuration with
    | .error e => (db, .error e)
    | .ok milliseconds =>
      match claimJobsSql tenantId limit leaseOwner milliseconds now locked verdict db with
      | .error e => (db, .error (persistenceError "claim workflow jobs" e))
      | .ok (db', rows) => (db', rows.mapM claimedJobFromRow)

/-! ## `renew_job_lease`, `complete_job`, `fail_job` -/

/-- The guard the three claim-holder updates share (lines 332-338, 383-388,
    472-477): the row runs under this owner and fence and its lease is live. -/
def isLiveClaim (now : Timestamptz) (job : WorkflowJob) : Bool :=
  job.id == jobId
    && job.tenantId == tenantId
    && job.status == .running
    && job.leaseOwner == some leaseOwner
    && job.fenceToken == fenceToken
    && job.leaseExpiresAt.any fun t => decide (now < t)

/-- The tables after `UPDATE workflow_jobs SET f WHERE p`. -/
def Db.setJobs : Db :=
  { db with jobs := db.jobs.update p f hf }

/-- `UPDATE workflow_jobs SET f WHERE p RETURNING …`: the new tables and the
    updated rows. -/
def updateJobs (verdict : Option String) (db : Db) : Except String (Db × List WorkflowJob) :=
  let written := (db.jobs.rows.filter p).map f
  accept verdict written (db.setJobs p f hf, written)

/-- The update of `renew_job_lease` (lines 330-331). -/
def renewedJob (now : Timestamptz) (job : WorkflowJob) : WorkflowJob :=
  { job with leaseExpiresAt := some (now + milliseconds * 1000), updatedAt := now }

@[simp] theorem renewedJob_id (now : Timestamptz) (job : WorkflowJob) :
    (renewedJob milliseconds now job).id = job.id := rfl

/-- `renew_job_lease` (lines 310-352). -/
def renewJobLease : Db × Result DateTime :=
  match validateClaimRequest leaseOwner 1 leaseDuration with
  | .error e => (db, .error e)
  | .ok () =>
    if fenceToken ≤ 0 then (db, .error (.validation "job fence token must be positive"))
    else match leaseMilliseconds leaseDuration with
    | .error e => (db, .error e)
    | .ok milliseconds =>
      match updateJobs (isLiveClaim tenantId jobId leaseOwner fenceToken now)
          (renewedJob milliseconds now) (renewedJob_id milliseconds now) verdict db with
      | .error e => (db, .error (persistenceError "renew workflow job lease" e))
      | .ok (db', []) => (db', .error (fencedClaimError jobId))
      | .ok (db', row :: _) =>
        (db', match row.leaseExpiresAt with
          | some t => .ok (.decode t)
          | none => .error (persistenceError "decode renewed workflow job lease"
              (unexpectedNull "lease_expires_at")))

/-- The update of `complete_job` (lines 374-381). -/
def completedJob (now : Timestamptz) (job : WorkflowJob) : WorkflowJob :=
  { job with
    status := .completed
    result := result
    completedBy := some leaseOwner
    completionFenceToken := some fenceToken
    completedAt := some now
    leaseOwner := none
    leaseExpiresAt := none
    updatedAt := now }

@[simp] theorem completedJob_id (now : Timestamptz) (job : WorkflowJob) :
    (completedJob leaseOwner fenceToken result now job).id = job.id := rfl

/-- `result IS NOT DISTINCT FROM $3::jsonb` (line 654). -/
def resultMatches : Option Json → Option Json → Bool
  | none, none => true
  | some a, some b => a.sqlEq b
  | _, _ => false

/-- The row `WHERE id = $1 AND tenant_id = $2` (line 629, 656). -/
def Db.tenantJob (tenantId jobId : Uuid) : Option WorkflowJob :=
  (db.jobs.find? jobId).filter fun job => job.tenantId == tenantId

/-- `complete_job` (lines 361-427). -/
def completeJob : Db × Result CompleteJobOutcome :=
  match validateJobMutation leaseOwner fenceToken with
  | .error e => (db, .error e)
  | .ok () =>
    match updateJobs (isLiveClaim tenantId jobId leaseOwner fenceToken now)
        (completedJob leaseOwner fenceToken result now)
        (completedJob_id leaseOwner fenceToken result now) verdict db with
    | .error e => (db, .error (persistenceError "complete workflow job" e))
    | .ok (db', updated) =>
      if updated.length = 1 then (db', .ok .completed)
      else match db'.tenantJob tenantId jobId with
      | none => (db', .error (.notFound s!"workflow job {jobId}"))
      | some row =>
        if row.status = .completed ∧ row.completedBy = some leaseOwner
            ∧ row.completionFenceToken = some fenceToken then
          if !resultMatches row.result result then
            (db', .error (.conflict
              s!"workflow job {jobId} completion was retried with a different result"))
          else (db', .ok .alreadyCompleted)
        else (db', .error (fencedClaimError jobId))

/-- The update of `fail_job` (lines 462-470). -/
def failedJob (retryAt : Timestamptz) (now : Timestamptz) (job : WorkflowJob) : WorkflowJob :=
  { job with
    status := .retry
    availableAt := max retryAt now
    lastFailureBy := some leaseOwner
    lastFailureFenceToken := some fenceToken
    lastFailureRetryAt := some retryAt
    lastError := some errorSummary
    leaseOwner := none
    leaseExpiresAt := none
    updatedAt := now }

@[simp] theorem failedJob_id (retryAt now : Timestamptz) (job : WorkflowJob) :
    (failedJob leaseOwner fenceToken errorSummary retryAt now job).id = job.id := rfl

/-- The guard of `fail_job`'s update (lines 471-478). -/
def isFailable (now : Timestamptz) (job : WorkflowJob) : Bool :=
  isLiveClaim tenantId jobId leaseOwner fenceToken now job
    && decide (job.attemptCount < job.maxAttempts)

/-- `fail_job` (lines 439-544). -/
def failJob (error : String) (retryAt : DateTime) (db : Db) : Db × Result FailJobOutcome :=
  match validateJobMutation leaseOwner fenceToken with
  | .error e => (db, .error e)
  | .ok () =>
    let errorSummary := summarizeError error
    match updateJobs (isFailable tenantId jobId leaseOwner fenceToken now)
        (failedJob leaseOwner fenceToken errorSummary retryAt.encode now)
        (failedJob_id leaseOwner fenceToken errorSummary retryAt.encode now) verdict db with
    | .error e => (db, .error (persistenceError "fail workflow job" e))
    | .ok (db', row :: _) =>
      (db', (failureDisposition row.status).map fun disposition =>
        { disposition, newlyRecorded := true })
    | .ok (db', []) =>
      match db'.tenantJob tenantId jobId with
      | none => (db', .error (.notFound s!"workflow job {jobId}"))
      | some row =>
        if row.status = .running ∧ row.maxAttempts ≤ row.attemptCount
            ∧ row.leaseOwner = some leaseOwner ∧ row.fenceToken = fenceToken
            ∧ row.leaseExpiresAt.any (fun t => decide (now < t)) then
          (db', .error (.conflict <|
            s!"workflow job {jobId} exhausted its attempts; "
              ++ "use fail_workflow_step with an owned escalation"))
        else if row.lastFailureBy = some leaseOwner
            ∧ row.lastFailureFenceToken = some fenceToken then
          if row.lastError ≠ some errorSummary
              ∨ row.lastFailureRetryAt ≠ some retryAt.encode then
            (db', .error (.conflict
              s!"workflow job {jobId} failure was retried with different details"))
          else
            (db', .ok {
              disposition := if row.status = .dead then .dead else .retryScheduled
              newlyRecorded := false })
        else (db', .error (fencedClaimError jobId))

end Calls

/-! ## The machine -/

/-- A call of the queue's interface. -/
inductive Call where
  | enqueue (job : NewWorkflowJob)
  | claim (tenantId : Uuid) (leaseOwner : String) (limit : ℕ) (leaseDuration : Duration)
      (locked : Uuid → Bool)
  | renew (tenantId jobId : Uuid) (leaseOwner : String) (fenceToken : ℤ)
      (leaseDuration : Duration)
  | complete (tenantId jobId : Uuid) (leaseOwner : String) (fenceToken : ℤ)
      (result : Option Json)
  | fail (tenantId jobId : Uuid) (leaseOwner : String) (fenceToken : ℤ) (error : String)
      (retryAt : DateTime)

/-- An answer, one constructor per operation. -/
inductive Answer where
  | enqueue (outcome : Result EnqueueJobOutcome)
  | claim (claimed : Result (List ClaimedWorkflowJob))
  | renew (leaseExpiresAt : Result DateTime)
  | complete (outcome : Result CompleteJobOutcome)
  | fail (outcome : Result FailJobOutcome)
deriving DecidableEq

/-- One call, made `elapsed` microseconds after the one before. -/
structure Request where
  elapsed : ℕ
  verdict : Option String
  call : Call

/-- The database clock and the tables. -/
structure State where
  clock : Timestamptz
  db : Db

/-- One atomic call at the instant `now`. -/
def perform (now : Timestamptz) (verdict : Option String) (call : Call) (db : Db) : Db × Answer :=
  match call with
  | .enqueue job => (enqueueJob now verdict job db).map id .enqueue
  | .claim tenantId leaseOwner limit leaseDuration locked =>
    (claimJobs now locked verdict tenantId leaseOwner limit leaseDuration db).map id .claim
  | .renew tenantId jobId leaseOwner fenceToken leaseDuration =>
    (renewJobLease now verdict tenantId jobId leaseOwner fenceToken leaseDuration db).map id .renew
  | .complete tenantId jobId leaseOwner fenceToken result =>
    (completeJob now verdict tenantId jobId leaseOwner fenceToken result db).map id .complete
  | .fail tenantId jobId leaseOwner fenceToken error retryAt =>
    (failJob now verdict tenantId jobId leaseOwner fenceToken error retryAt db).map id .fail

/-- The queue under an interleaving of calls: the clock never goes back. -/
def ledger : Machine State Request Answer where
  step s r :=
    let now := s.clock + r.elapsed
    let (db, answer) := perform now r.verdict r.call s.db
    ({ clock := now, db }, answer)

@[simp] theorem ledger_next_db (s : State) (r : Request) :
    (ledger.next s r).db = (perform (s.clock + r.elapsed) r.verdict r.call s.db).1 := rfl

@[simp] theorem ledger_answer (s : State) (r : Request) :
    ledger.answer s r = (perform (s.clock + r.elapsed) r.verdict r.call s.db).2 := rfl

/-- A new queue: no jobs, and whatever effects there are. -/
def initial (clock : Timestamptz) (effects : Table EffectIntent EffectIntent.id) : State where
  clock
  db := { jobs := .empty, effects }

end Asf.Jobs
