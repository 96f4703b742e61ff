import Asf.Common.Schema
import Asf.Runtime.Handlers

/-!
# The claim scans of the reactor (`src/runtime/reactor.rs`)

`poll_once` looks at the due jobs of its tenant through four queries. This
module has the `WHERE` clause of each as a decidable predicate on a row of
`workflow_jobs`: `readyCandidate` (lines 30-338), `routeInvalidCandidate`
(358-549), `orphanedCandidate` (551-774) and `unserviceableCandidate`
(776-1166). A comparison with `NULL` is not true, so it selects nothing.

A cast of a text of digits beyond `bigint` is an error in SQL; here it makes
the condition false.
-/

namespace Asf.Runtime

open Lib (Table)
open Jobs (WorkflowJob)

/-! ## Tables -/

/-- `runmill_run_observation_streams.state` (0022:97-100). -/
inductive StreamState where
  | active | blockedGap | blockedProjection | terminalReady | escalated
deriving DecidableEq, Repr

/-- The binding columns of `runmill_run_observation_streams` (0022:70-116). -/
structure ObservationStream where
  (tenantId runId workflowInstanceId workItemId attemptId workOrderId : Uuid)
  workOrderDigest : String
  workerId : Uuid
  workerGeneration : ℤ
  runAdmissionWorkerSessionId : Uuid
  externalRunId : String
  (nextAfterSequence observationEpoch : ℤ)
  (activeJobId activeObservationId : Option Uuid)
  state : StreamState
deriving DecidableEq

/-- `runmill_run_observation_checkpoints` (0022:146-169). -/
structure ObservationCheckpoint where
  (id tenantId runId workflowJobId : Uuid)
  (afterSequence observationEpoch : ℤ)
  (observerSessionId workerId : Uuid)
  workerGeneration : ℤ
deriving DecidableEq

/-- `runmill_run_observation_results.disposition` (0022:187-189). -/
inductive ResultDisposition where
  | advanced | terminalReady | blockedGap | blockedProjection
deriving DecidableEq, Repr

/-- The columns of `runmill_run_observation_results` the scans read (0022:174-205). -/
structure ObservationResult where
  (id tenantId runId observationId : Uuid)
  nextSequence : ℤ
  (getRunSnapshotId eventPageSnapshotId : Uuid)
  disposition : ResultDisposition
deriving DecidableEq

section Scan

variable (registry : HandlerRegistry) (db : Db) (tenantId : Uuid) (now : Timestamptz)
  (job : WorkflowJob) (routes : List (String × String)) (payload : Json) (jobType : String)

/-- The tables the scans read. -/
structure Db where
  jobs : Table WorkflowJob WorkflowJob.id
  runs : Table Run Run.id
  workOrders : Table WorkOrder WorkOrder.id
  streams : Table ObservationStream fun stream => (stream.tenantId, stream.runId)
  checkpoints : Table ObservationCheckpoint ObservationCheckpoint.id
  results : Table ObservationResult ObservationResult.id
  sessions : Table WorkerSession WorkerSession.id
  workers : Table Worker Worker.id

/-! ## Clauses the scans share -/

section Rows

variable (run : Run) (order : WorkOrder) (stream : ObservationStream)
  (checkpoint : ObservationCheckpoint) (session : WorkerSession)

/-- `PENDING` or `RETRY` and available, or `RUNNING` with an expired lease. -/
def isDue : Bool :=
  (job.status == .pending || job.status == .retry) && decide (job.availableAt ≤ now)
    || job.status == .running && job.leaseExpiresAt.any fun t => decide (t ≤ now)

/-- A route on the job type. -/
def typeRoute (job : WorkflowJob) : Bool :=
  routes.any fun route => route.1 == job.jobType && route.2 == job.activityContractId

/-- A route on the worker that the payload names. -/
def workerRoute (job : WorkflowJob) : Bool :=
  routes.any fun route =>
    some route.1 == job.payload.text "worker_id" && route.2 == job.activityContractId

/-- The run is the authoritative one of the job's attempt, on the worker that
    the payload names (lines 61-70). -/
def isRouteRun : Bool :=
  run.tenantId == job.tenantId
    && some run.workItemId == job.workItemId
    && some run.attemptId == job.attemptId
    && run.authoritative
    && some run.workerId.toText == job.payload.text "worker_id"

/-- The `EXISTS` on `runs` of a cancellation (lines 61-70). -/
def cancellationRun : Bool :=
  db.runs.rows.any (isRouteRun job)

/-- The join of a run with its work order (lines 88-92). -/
def isRouteWorkOrder : Bool :=
  order.tenantId == run.tenantId
    && order.id == run.workOrderId
    && order.workItemId == run.workItemId
    && order.attemptId == run.attemptId

/-- The payload names this run, its work order and its session
    (lines 134-144). -/
def payloadBindsRun : Bool :=
  some run.id.toText == job.payload.text "run_id"
    && isRouteRun job run
    && some run.workOrderId.toText == job.payload.text "work_order_id"
    && some order.payloadDigest == job.payload.text "work_order_digest"
    && some run.workerSessionId.toText == job.payload.text "worker_session_id"
    && some run.externalRunId == job.payload.text "external_run_id"

/-- The stream is the one of this job and run (lines 93-95, 145-153). -/
def streamBindsRun : Bool :=
  stream.tenantId == run.tenantId
    && stream.runId == run.id
    && some stream.workflowInstanceId == job.workflowInstanceId
    && some stream.workItemId == job.workItemId
    && some stream.attemptId == job.attemptId
    && stream.workOrderId == run.workOrderId
    && stream.workOrderDigest == order.payloadDigest
    && stream.workerId == run.workerId
    && stream.workerGeneration == run.workerGeneration
    && stream.runAdmissionWorkerSessionId == run.workerSessionId
    && stream.externalRunId == run.externalRunId

/-- The control session is live on a worker that is not quarantined
    (lines 105-107, 163-166). -/
def isLiveObserver (worker : Worker) : Bool :=
  worker.tenantId == session.tenantId
    && worker.id == session.workerId
    && session.status == .active
    && decide (now < session.expiresAt)
    && worker.generation == stream.workerGeneration
    && worker.status != .quarantined

/-! ## `OBSERVE_RUNMILL_RUN` -/

/-- The keys of an observation payload (lines 110-119). -/
def observationKeys : List String :=
  ["schema", "observation_id", "run_id", "work_order_id", "work_order_digest", "worker_id",
    "worker_session_id", "worker_generation", "external_run_id", "after_sequence",
    "observation_epoch", "observer_session_id"]

/-- The shape of an observation payload (lines 109-133). -/
def isObservationPayload : Bool :=
  payload.kind == .object
    && payload.hasKeys observationKeys
    && payload.onlyKeys observationKeys
    && payload.text "schema" == some "asf.runmill-observation/v2"
    && payload.fieldKind "observation_id" .string
    && payload.fieldKind "run_id" .string
    && payload.fieldKind "work_order_id" .string
    && payload.fieldKind "work_order_digest" .string
    && payload.fieldKind "worker_id" .string
    && payload.fieldKind "worker_session_id" .string
    && payload.fieldKind "worker_generation" .number
    && payload.fieldKind "external_run_id" .string
    && payload.fieldKind "after_sequence" .number
    && payload.fieldKind "observation_epoch" .number
    && payload.fieldKind "observer_session_id" .string

/-- The checkpoint is the active one of the stream and belongs to this job
    (lines 96-100, 154-162). -/
def checkpointBindsStream : Bool :=
  checkpoint.tenantId == stream.tenantId
    && some checkpoint.id.toText == job.payload.text "observation_id"
    && checkpoint.runId == stream.runId
    && checkpoint.workflowJobId == job.id
    && stream.state == .active
    && stream.activeJobId == some job.id
    && stream.activeObservationId == some checkpoint.id
    && checkpoint.afterSequence == stream.nextAfterSequence
    && checkpoint.observationEpoch == stream.observationEpoch
    && some checkpoint.observerSessionId.toText == job.payload.text "observer_session_id"
    && checkpoint.workerId == stream.workerId
    && checkpoint.workerGeneration == stream.workerGeneration
    && job.payload.fieldIs "after_sequence" stream.nextAfterSequence
    && job.payload.fieldIs "observation_epoch" stream.observationEpoch

/-- The session of the checkpoint (lines 101-104). -/
def isCheckpointSession : Bool :=
  session.tenantId == checkpoint.tenantId
    && session.id == checkpoint.observerSessionId
    && session.workerId == checkpoint.workerId
    && session.workerGeneration == checkpoint.workerGeneration

end Rows

/-- The joins of an observation, with the comparison of the payload's
    generation left open: the scans write it in two ways. -/
def observationRows (sameGeneration : Run → Bool) (db : Db) (now : Timestamptz)
    (job : WorkflowJob) : Bool :=
  db.runs.rows.any fun run =>
    db.workOrders.rows.any fun order =>
      db.streams.rows.any fun stream =>
        db.checkpoints.rows.any fun checkpoint =>
          db.sessions.rows.any fun session =>
            db.workers.rows.any fun worker =>
              isRouteWorkOrder run order && payloadBindsRun job run order && sameGeneration run
                && streamBindsRun job run order stream
                && checkpointBindsStream job stream checkpoint
                && isCheckpointSession checkpoint session
                && isLiveObserver now stream session worker

/-- The `EXISTS` of an observation, the same text in three scans
    (lines 83-166, 401-484, 609-692). -/
def observationSource : Bool :=
  isObservationPayload job.payload
    && observationRows (fun run => job.payload.fieldIs "worker_generation" run.workerGeneration)
      db now job

/-! ## `RETAIN_RUNMILL_TERMINAL_EVIDENCE` -/

/-- The keys of a retention payload (lines 205-217). -/
def retentionKeys : List String :=
  ["schema", "bundle_id", "run_id", "work_order_id", "work_order_digest", "worker_id",
    "worker_session_id", "worker_generation", "observer_session_id", "external_run_id",
    "observation_id", "get_run_snapshot_id", "event_page_snapshot_id", "terminal_phase",
    "terminal_event_seq"]

/-- The shape of a retention payload (lines 204-232). -/
def isRetentionPayload : Bool :=
  payload.kind == .object
    && payload.hasKeys retentionKeys
    && payload.onlyKeys retentionKeys
    && payload.text "schema" == some "asf.runmill-terminal-evidence/v1"
    && payload.fieldKind "bundle_id" .string
    && payload.fieldKind "run_id" .string
    && payload.fieldKind "work_order_id" .string
    && payload.fieldKind "work_order_digest" .string
    && payload.fieldKind "worker_id" .string
    && payload.fieldKind "worker_session_id" .string
    && payload.fieldKind "worker_generation" .number
    && payload.fieldKind "observer_session_id" .string
    && payload.fieldKind "external_run_id" .string
    && payload.fieldKind "observation_id" .string
    && payload.fieldKind "get_run_snapshot_id" .string
    && payload.fieldKind "event_page_snapshot_id" .string
    && payload.fieldKind "terminal_phase" .string
    && payload.fieldKind "terminal_event_seq" .number

/-- The observation result whose snapshots the payload names (lines 189-192,
    252-257). -/
def resultBindsStream (stream : ObservationStream) (result : ObservationResult) : Bool :=
  result.tenantId == stream.tenantId
    && result.runId == stream.runId
    && some result.observationId.toText == job.payload.text "observation_id"
    && stream.state == .terminalReady
    && result.disposition == .terminalReady
    && some result.getRunSnapshotId.toText == job.payload.text "get_run_snapshot_id"
    && some result.eventPageSnapshotId.toText == job.payload.text "event_page_snapshot_id"
    && job.payload.fieldIs "terminal_event_seq" (result.nextSequence + 1)

/-- The control session the payload names (lines 193-196). -/
def isPayloadSession (stream : ObservationStream) (session : WorkerSession) : Bool :=
  session.tenantId == stream.tenantId
    && some session.id.toText == job.payload.text "observer_session_id"
    && session.workerId == stream.workerId
    && session.workerGeneration == stream.workerGeneration

/-- The `EXISTS` of a retention in the ready scan (lines 180-264). -/
def retentionSource : Bool :=
  isRetentionPayload job.payload
    && db.runs.rows.any fun run =>
      db.workOrders.rows.any fun order =>
        db.streams.rows.any fun stream =>
          db.results.rows.any fun result =>
            db.sessions.rows.any fun session =>
              db.workers.rows.any fun worker =>
                isRouteWorkOrder run order && payloadBindsRun job run order
                  && job.payload.fieldIs "worker_generation" run.workerGeneration
                  && streamBindsRun job run order stream
                  && resultBindsStream job stream result
                  && isPayloadSession job stream session
                  && isLiveObserver now stream session worker

/-- The `EXISTS` of a retention in the orphan scan (lines 703-712). -/
def retainedRun : Bool :=
  db.runs.rows.any fun run =>
    isRouteRun job run && some run.id.toText == job.payload.text "run_id"

/-! ## The ready scan -/

/-- `CLAIM_READY_JOBS_SQL` (lines 30-338). -/
def readyCandidate : Bool :=
  let claims := registry.readyClaimSet
  job.tenantId == tenantId
    && (typeRoute claims.unscoped job
      || job.jobType == reconcileWorker && workerRoute claims.reconcileWorker job
      || job.jobType == requestWorkItemCancellation
          && workerRoute claims.cancellationWorker job && cancellationRun db job
      || job.jobType == observeRunmillRun
          && workerRoute claims.observeRunmillRunWorker job && observationSource db now job
      || job.jobType == retainRunmillTerminalEvidence
          && workerRoute claims.retainRunmillTerminalEvidenceWorker job
          && retentionSource db now job)
    && decide (job.attemptCount < job.maxAttempts)
    && isDue now job

/-! ## The route-invalid scan -/

/-- The canonical contract of a job type, for the types that have one. -/
def hasCanonicalContract : Bool :=
  job.jobType == jobType && productionActivityContractId jobType == some job.activityContractId

/-- `CLAIM_ROUTE_INVALID_SCOPED_JOB_SQL` (lines 358-549). -/
def routeInvalidCandidate : Bool :=
  job.tenantId == tenantId
    && (hasCanonicalContract job reconcileWorker
      || hasCanonicalContract job requestWorkItemCancellation
      || hasCanonicalContract job observeRunmillRun)
    && (!job.payload.fieldKind "worker_id" .string
      || !(job.payload.text "worker_id").any isUuidText
      || job.jobType == requestWorkItemCancellation && !cancellationRun db job
      || job.jobType == observeRunmillRun && !observationSource db now job)
    && isDue now job

/-! ## The orphan scan -/

/-- `CLAIM_ORPHANED_EXHAUSTED_JOBS_SQL` (lines 551-774). -/
def orphanedCandidate : Bool :=
  let claims := registry.readyClaimSet
  job.tenantId == tenantId
    && job.status == .running
    && decide (job.maxAttempts ≤ job.attemptCount)
    && job.leaseExpiresAt.any (fun t => decide (t ≤ now))
    && (!isCanonicalWorkerScopedJobType job.jobType && typeRoute claims.unscoped job
      || job.jobType == reconcileWorker && workerRoute claims.reconcileWorker job
      || job.jobType == requestWorkItemCancellation
          && workerRoute claims.cancellationWorker job && cancellationRun db job
      || job.jobType == observeRunmillRun
          && workerRoute claims.observeRunmillRunWorker job && observationSource db now job
      || job.jobType == retainRunmillTerminalEvidence
          && workerRoute claims.retainRunmillTerminalEvidenceWorker job && retainedRun db job)

/-! ## The unserviceable scan -/

/-- `value ~ '^[0-9]+$' AND lo <= value::bigint` for a field that is a number. -/
def fieldBetween (key : String) (lo hi : ℤ) : Bool :=
  payload.fieldKind key .number
    && (payload.text key).any fun t =>
      isDigits t && (bigintOfDigits t).any fun n => decide (lo ≤ n ∧ n ≤ hi)

/-- A string field with a lower-case UUID. -/
def fieldIsUuid (key : String) : Bool :=
  payload.fieldKind key .string && (payload.text key).any isUuidText

/-- `9007199254740991`, the largest external sequence. -/
def maxExternalSequence : ℤ := 9007199254740991

/-- A known route of this type and contract, while the process has no ready
    route for the type at all (lines 809-826). -/
def isUnserved (job : WorkflowJob) : Bool :=
  hasCanonicalContract job jobType
    && routes.isEmpty
    && typeRoute registry.knownJobTypeContractPairs job
    && !workerRoute routes job

/-- The reconciliation branch (lines 827-846). -/
def unservedReconcile : Bool :=
  let keys := ["worker_id", "expected_generation", "expected_version"]
  job.payload.kind == .object
    && job.payload.hasKeys keys
    && job.payload.onlyKeys keys
    && fieldIsUuid job.payload "worker_id"
    && fieldBetween job.payload "expected_generation" 1 i64Max
    && fieldBetween job.payload "expected_version" 1 i64Max
    && job.workflowInstanceId.isNone
    && job.workItemId.isNone
    && job.attemptId.isNone
    && !(btrim job.idempotencyKey).isEmpty

/-- The cancellation branch (lines 867-900). -/
def unservedCancellation : Bool :=
  let keys := ["work_item_id", "worker_id", "expected_version", "reason", "requested_by"]
  job.payload.kind == .object
    && (job.payload.hasKeys keys || job.payload.hasKeys (keys ++ ["observe_only"]))
    && job.payload.onlyKeys (keys ++ ["observe_only"])
    && fieldIsUuid job.payload "work_item_id"
    && (job.workItemId.any fun id => job.payload.text "work_item_id" == some id.toText)
    && ((job.payload.field "observe_only").isNone
      || job.payload.fieldKind "observe_only" .boolean)
    && fieldIsUuid job.payload "worker_id"
    && fieldBetween job.payload "expected_version" 1 i64Max
    && job.payload.fieldKind "reason" .string
    && ((job.payload.text "reason").any fun t => t == btrim t && decide (t.length ≤ 2048))
    && job.payload.fieldKind "requested_by" .string
    && ((job.payload.text "requested_by").any fun t => decide (t.length ≤ 1024))
    && job.workflowInstanceId.isSome
    && job.attemptId.isSome
    && cancellationRun db job

/-- The observation branch (lines 920-1016). -/
def unservedObservation : Bool :=
  isObservationPayload job.payload
    && fieldIsUuid job.payload "observation_id"
    && fieldIsUuid job.payload "run_id"
    && fieldIsUuid job.payload "work_order_id"
    && ((job.payload.text "work_order_digest").any isDigestText)
    && fieldIsUuid job.payload "worker_id"
    && fieldIsUuid job.payload "worker_session_id"
    && fieldBetween job.payload "worker_generation" 1 i64Max
    && ((job.payload.text "external_run_id").any fun t => !t.isEmpty)
    && fieldBetween job.payload "after_sequence" 0 maxExternalSequence
    && fieldBetween job.payload "observation_epoch" 1 i64Max
    && fieldIsUuid job.payload "observer_session_id"
    && observationRows
      (fun run => ((job.payload.text "worker_generation").bind bigintOfDigits)
        == some run.workerGeneration) db now job

/-- The retention branch (lines 1037-1101). -/
def unservedRetention : Bool :=
  isRetentionPayload job.payload
    && fieldIsUuid job.payload "bundle_id"
    && fieldIsUuid job.payload "run_id"
    && fieldIsUuid job.payload "work_order_id"
    && ((job.payload.text "work_order_digest").any isDigestText)
    && fieldIsUuid job.payload "worker_id"
    && fieldIsUuid job.payload "worker_session_id"
    && fieldBetween job.payload "worker_generation" 1 i64Max
    && fieldIsUuid job.payload "observer_session_id"
    && ((job.payload.text "external_run_id").any fun t => !t.isEmpty)
    && fieldIsUuid job.payload "observation_id"
    && fieldIsUuid job.payload "get_run_snapshot_id"
    && fieldIsUuid job.payload "event_page_snapshot_id"
    && job.payload.text "get_run_snapshot_id" != job.payload.text "event_page_snapshot_id"
    && ((job.payload.text "terminal_phase").any fun t =>
      ["COMPLETED", "CANCELLED", "FAILED", "REFUSED", "QUARANTINED", "BUDGET_EXHAUSTED"].contains t)
    && fieldBetween job.payload "terminal_event_seq" 1 maxExternalSequence
    && job.workflowInstanceId.isSome
    && job.workItemId.isSome
    && job.attemptId.isSome
    && db.runs.rows.any fun run =>
      db.streams.rows.any fun stream =>
        isRouteRun job run
          && some run.id.toText == job.payload.text "run_id"
          && some run.externalRunId == job.payload.text "external_run_id"
          && stream.tenantId == run.tenantId
          && stream.runId == run.id
          && stream.state == .terminalReady

/-- `CLAIM_KNOWN_UNSERVICEABLE_DUE_JOB_SQL` (lines 776-1166). -/
def unserviceableCandidate : Bool :=
  let claims := registry.readyClaimSet
  job.tenantId == tenantId
    && isDue now job
    && (!isCanonicalWorkerScopedJobType job.jobType
          && typeRoute registry.knownJobTypeContractPairs job && !typeRoute claims.unscoped job
      || isUnserved registry claims.reconcileWorker reconcileWorker job && unservedReconcile job
      || isUnserved registry claims.cancellationWorker requestWorkItemCancellation job
          && unservedCancellation db job
      || isUnserved registry claims.observeRunmillRunWorker observeRunmillRun job
          && unservedObservation db now job
      || isUnserved registry claims.retainRunmillTerminalEvidenceWorker
            retainRunmillTerminalEvidence job
          && unservedRetention db job)

/-- The candidate predicates of `poll_once` (lines 1356-1451): at least one
    of its four scans sees the job. -/
def isVisible : Bool :=
  readyCandidate registry db tenantId now job
    || routeInvalidCandidate db tenantId now job
    || orphanedCandidate registry db tenantId now job
    || unserviceableCandidate registry db tenantId now job

end Scan

end Asf.Runtime
