import Asf.Common.Json
import Asf.Lib.Table

/-!
# Rows that several subsystems read

The columns of the tables of migrations/0001_initial.sql that the reactor's
scans, the event ingestion and the admission of work use. A `CHECK` of one
column that the code relies on is a field of the row.
-/

namespace Asf

/-- The value of an enumeration with that text. -/
def parseText {α : Type} (all : List α) (text : α → String) (value : String) : Option α :=
  all.find? fun a => text a == value

theorem text_of_parseText {α : Type} {all : List α} {text : α → String} {value : String} {a : α}
    (h : parseText all text value = some a) : text a = value := by
  simpa using List.find?_some h

/-- `work_items.state` (lines 204-228). -/
inductive WorkItemState where
  | discovered | readinessPending | needsSpec | ready | accepted | planned
  | scheduled | dispatching | running | verifyingOutcome | targetReached
  | closingSource | closed | waitingDependency | waitingApproval | retryScheduled
  | blockedExternal | budgetExhausted | refused | quarantined | cancelRequested | cancelled
  | escalated
deriving DecidableEq, Repr

namespace WorkItemState

/-- Every state, in the order of the column's `CHECK`. -/
def all : List WorkItemState :=
  [.discovered, .readinessPending, .needsSpec, .ready, .accepted, .planned, .scheduled,
    .dispatching, .running, .verifyingOutcome, .targetReached, .closingSource,
    .closed, .waitingDependency, .waitingApproval, .retryScheduled, .blockedExternal,
    .budgetExhausted, .refused, .quarantined, .cancelRequested, .cancelled, .escalated]

/-- The text of a state. -/
def text : WorkItemState → String
  | .discovered => "DISCOVERED"
  | .readinessPending => "READINESS_PENDING"
  | .needsSpec => "NEEDS_SPEC"
  | .ready => "READY"
  | .accepted => "ACCEPTED"
  | .planned => "PLANNED"
  | .scheduled => "SCHEDULED"
  | .dispatching => "DISPATCHING"
  | .running => "RUNNING"
  | .verifyingOutcome => "VERIFYING_OUTCOME"
  | .targetReached => "TARGET_REACHED"
  | .closingSource => "CLOSING_SOURCE"
  | .closed => "CLOSED"
  | .waitingDependency => "WAITING_DEPENDENCY"
  | .waitingApproval => "WAITING_APPROVAL"
  | .retryScheduled => "RETRY_SCHEDULED"
  | .blockedExternal => "BLOCKED_EXTERNAL"
  | .budgetExhausted => "BUDGET_EXHAUSTED"
  | .refused => "REFUSED"
  | .quarantined => "QUARANTINED"
  | .cancelRequested => "CANCEL_REQUESTED"
  | .cancelled => "CANCELLED"
  | .escalated => "ESCALATED"

end WorkItemState

/-- `runs.state` (lines 527-538). -/
inductive RunState where
  | adopted | running | waitingApproval | verifying | succeeded | failed | refused
  | cancelRequested | cancelled | quarantined
deriving DecidableEq, Repr

/-- A row of `runs` (lines 514-561). -/
structure Run where
  (id tenantId workItemId attemptId workOrderId workerId : Uuid)
  workerGeneration : ℤ
  workerSessionId : Uuid
  externalRunId : String
  authoritative : Bool
  state : RunState
  lastEventCursor : Option String
  (lastEventSequence aggregateVersion : ℤ)
  (adoptedAt lastObservedAt : Timestamptz)
  terminalAt : Option Timestamptz
deriving DecidableEq

/-- The columns of `work_orders` that bind an observation (lines 471-497). -/
structure WorkOrder where
  (id tenantId workItemId attemptId : Uuid)
  payloadDigest : String
deriving DecidableEq

/-- `workers.status` (lines 344-345). -/
inductive WorkerStatus where
  | registered | ready | draining | offline | quarantined
deriving DecidableEq, Repr

/-- The authority columns of `workers` (lines 339-363). -/
structure Worker where
  (id tenantId : Uuid)
  status : WorkerStatus
  (generation maxConcurrency : ℤ)
  maxConcurrency_pos : 0 < maxConcurrency
deriving DecidableEq

/-- `worker_sessions.status` (lines 374-375). -/
inductive SessionStatus where
  | active | closed | revoked
deriving DecidableEq, Repr

/-- The columns of `worker_sessions` that make a session live
    (lines 369-391). -/
structure WorkerSession where
  (id tenantId workerId : Uuid)
  workerGeneration : ℤ
  status : SessionStatus
  expiresAt : Timestamptz
deriving DecidableEq

/-- `tenants.status` (lines 92-93). -/
inductive TenantStatus where
  | active | maintenance | disabled
deriving DecidableEq, Repr

/-- The text of a status. -/
def TenantStatus.text : TenantStatus → String
  | .active => "ACTIVE"
  | .maintenance => "MAINTENANCE"
  | .disabled => "DISABLED"

/-- The columns of `tenants` that admission reads (lines 88-99). -/
structure Tenant where
  id : Uuid
  status : TenantStatus
deriving DecidableEq

/-- The capacity columns of `repositories` (lines 101-139). -/
structure Repository where
  (id tenantId : Uuid)
  active : Bool
  wipLimit : ℤ
  wipLimit_pos : 0 < wipLimit
  aggregateVersion : ℤ
deriving DecidableEq

/-- `attempts.state` (lines 406-420). -/
inductive AttemptState where
  | created | authorized | dispatching | running | verifying | waitingApproval | retryableFailed
  | succeeded | failed | refused | cancelRequested | cancelled | quarantined
deriving DecidableEq, Repr

/-- The text of a state. -/
def AttemptState.text : AttemptState → String
  | .created => "CREATED"
  | .authorized => "AUTHORIZED"
  | .dispatching => "DISPATCHING"
  | .running => "RUNNING"
  | .verifying => "VERIFYING"
  | .waitingApproval => "WAITING_APPROVAL"
  | .retryableFailed => "RETRYABLE_FAILED"
  | .succeeded => "SUCCEEDED"
  | .failed => "FAILED"
  | .refused => "REFUSED"
  | .cancelRequested => "CANCEL_REQUESTED"
  | .cancelled => "CANCELLED"
  | .quarantined => "QUARANTINED"

/-- The columns of `attempts` that admission reads (lines 401-440). -/
structure Attempt where
  (id tenantId workItemId : Uuid)
  state : AttemptState
  aggregateVersion : ℤ
deriving DecidableEq

/-- A row of `identity_capacity_limits` (lines 900-909). -/
structure IdentityCapacityLimit where
  tenantId : Uuid
  profileRef : String
  capacity : ℤ
  capacity_pos : 0 < capacity
  generation : ℤ
  enabled : Bool
deriving DecidableEq

/-- `PRIMARY KEY (tenant_id, profile_ref)`. -/
def IdentityCapacityLimit.key (row : IdentityCapacityLimit) : Uuid × String :=
  (row.tenantId, row.profileRef)

end Asf
