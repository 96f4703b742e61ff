import Asf.Common.Schema
import Asf.Common.Session
import Asf.Lib.Machine

/-!
# Run events (`src/ledger/run_events.rs`)

A worker reports what happens in a run as numbered events. `ingest_run_event`
keeps the raw event and then applies, in the order of their numbers, the stored
events that follow the run's cursor.

The statements run under the row locks of the session, the worker and the run,
so a transaction sees no other writer. Deserialising a `ProductEvent` and
reading a `jsonb` column back are parameters (`Codec`).
-/

namespace Asf.RunEvents

open Lib (Table Indexed Machine Transaction atomically)

/-! ## Rows -/

/-- The states of the list `SUCCEEDED, FAILED, REFUSED, CANCELLED, QUARANTINED`
    (line 111). -/
def isTerminal : RunState → Bool
  | .succeeded | .failed | .refused | .cancelled | .quarantined => true
  | .adopted | .running | .waitingApproval | .verifying | .cancelRequested => false

/-- `CHECK (terminal_at IS NULL OR terminal_at >= adopted_at)`
    (0001_initial.sql:560). -/
def terminalCheck (adoptedAt : Timestamptz) (terminalAt : Option Timestamptz) : Bool :=
  terminalAt.all fun t => decide (adoptedAt ≤ t)

/-- A row of `runs` with its snapshot. -/
structure RunRow extends Run where
  snapshot : Option Json
  terminal_check : terminalCheck adoptedAt terminalAt
deriving DecidableEq

/-- A row of `raw_run_events` (0001_initial.sql:567-596). -/
structure RawRunEvent where
  (id tenantId runId workerSessionId workerId : Uuid)
  workerGeneration : ℤ
  (externalEventId cursor : String)
  (sequence runAggregateVersion : ℤ)
  (schemaVersion eventType : String)
  occurredAt : Timestamptz
  payload : Json
deriving DecidableEq

variable (tenantId runId : Uuid) (current : RunState) (eventType : String)

namespace RawRunEvent

/-- The row belongs to that run. -/
def ofRun (event : RawRunEvent) : Bool :=
  event.tenantId == tenantId && event.runId == runId

/-- The two rows share a value of the primary key or of one of the unique indexes
    on the external id, the cursor and the sequence (0001_initial.sql:568-602). -/
def conflicts (a b : RawRunEvent) : Bool :=
  a.id == b.id || b.ofRun a.tenantId a.runId
    && (a.externalEventId == b.externalEventId || a.cursor == b.cursor
      || a.sequence == b.sequence)

end RawRunEvent

/-- A row of `run_event_applications` (0001_initial.sql:604-617). -/
structure RunEventApplication where
  (tenantId runEventId runId : Uuid)
  runAggregateVersion : ℤ
deriving DecidableEq

namespace RunEventApplication

/-- The two rows share the primary key. -/
def sameKey (a b : RunEventApplication) : Bool :=
  a.tenantId == b.tenantId && a.runEventId == b.runEventId

/-- The two rows share the primary key or `(tenant_id, run_id, run_aggregate_version)`. -/
def conflicts (a b : RunEventApplication) : Bool :=
  a.sameKey b || a.tenantId == b.tenantId && a.runId == b.runId
    && a.runAggregateVersion == b.runAggregateVersion

/-- The foreign key of an application (0001_initial.sql:612-614). -/
def names (a : RunEventApplication) (event : RawRunEvent) : Bool :=
  event.ofRun a.tenantId a.runId && event.id == a.runEventId
    && event.runAggregateVersion == a.runAggregateVersion

end RunEventApplication

/-- The tables that the ingestion reads and writes. -/
structure Db where
  workers : Table Worker Worker.id
  workerSessions : Table WorkerSession WorkerSession.id
  workOrders : Table WorkOrder WorkOrder.id
  runs : Table RunRow fun row => row.id
  rawRunEvents : Indexed RawRunEvent RawRunEvent.conflicts
  runEventApplications : Indexed RunEventApplication RunEventApplication.conflicts
  applications_named : ∀ a ∈ runEventApplications.rows, ∃ event ∈ rawRunEvents.rows, a.names event

namespace Db

/-- The tables with other runs. -/
def withRuns (db : Db) (runs : Table RunRow fun row => row.id) : Db := { db with runs }

/-- The tables with more raw events. -/
def withRawRunEvents (db : Db) (events : Indexed RawRunEvent RawRunEvent.conflicts)
    (h : db.rawRunEvents.rows ⊆ events.rows) : Db :=
  { db with
    rawRunEvents := events
    applications_named := fun a ha =>
      let ⟨event, hevent, hnames⟩ := db.applications_named a ha
      ⟨event, h hevent, hnames⟩ }

/-- The tables with other applications. -/
def withApplications (db : Db)
    (applications : Indexed RunEventApplication RunEventApplication.conflicts)
    (h : ∀ a ∈ applications.rows, ∃ event ∈ db.rawRunEvents.rows, a.names event) : Db :=
  { db with runEventApplications := applications, applications_named := h }

end Db

/-! ## Requests and answers -/

/-- `WorkerSessionFence` (lines 138-144). -/
structure WorkerSessionFence where
  (tenantId sessionId workerId : Uuid)
  generation : ℤ
deriving DecidableEq

/-- `WorkerSessionFence::validate` (lines 147-159). -/
def WorkerSessionFence.validate (fence : WorkerSessionFence) : Result Unit :=
  failIf (fence.tenantId.isNil || fence.sessionId.isNil || fence.workerId.isNil
      || decide (fence.generation ≤ 0))
    (.validation ("worker session requires non-nil tenant/session/worker IDs and a positive "
      ++ "generation"))

/-- `IncomingRunEvent` (lines 168-182). -/
structure IncomingRunEvent where
  (id runId : Uuid)
  (externalEventId cursor : String)
  (sequence aggregateVersion : ℤ)
  (schemaVersion eventType : String)
  occurredAt : DateTime
  rawEvent : Json
deriving DecidableEq

/-- `IncomingRunEvent::validate` (lines 185-206). -/
def IncomingRunEvent.validate (incoming : IncomingRunEvent) : Result Unit := do
  failIf (incoming.id.isNil || incoming.runId.isNil || isBlank incoming.externalEventId
      || isBlank incoming.cursor || isBlank incoming.schemaVersion || isBlank incoming.eventType
      || !incoming.rawEvent.isObject)
    (.validation "raw run event has missing identity, cursor, schema, type, or object payload")
  failIf (incoming.sequence ≤ 0 ∨ incoming.aggregateVersion ≤ 0)
    (.validation "run event sequence and aggregate version must be positive")

/-- `RunEventProjectionBlock` (lines 209-217). -/
inductive RunEventProjectionBlock where
  | sequenceGap (expected : ℤ)
  | aggregateVersionGap (expected received : ℤ)
  | unsupportedSchema (schemaVersion : String)
  | unsupportedEventType (eventType : String)
  | invalidKnownEnvelope (reason : String)
  | invalidStateTransition ( from_ to_ : RunState)
deriving DecidableEq

/-- `RunEventIngestionDisposition` (lines 219-224). -/
inductive RunEventIngestionDisposition where
  | applied
  | duplicateApplied
  | retainedUnapplied (block : RunEventProjectionBlock)
deriving DecidableEq

/-- `RunEventIngestionOutcome` (lines 226-235). -/
structure RunEventIngestionOutcome where
  eventId : Uuid
  inserted : Bool
  appliedEventCount : ℕ
  disposition : RunEventIngestionDisposition
  lastEventCursor : Option String
  (lastEventSequence runAggregateVersion : ℤ)
deriving DecidableEq

/-- The fields of `ProductEvent` (src/contracts/event.rs:9-26) that bind an event. -/
structure ProductEvent where
  schema : String
  (eventId tenantId : Uuid)
  (workItemId attemptId : Option Uuid)
  workOrderDigest : Option String
  runId : Option Uuid
  aggregateVersion : ℕ
  occurredAt : DateTime
  eventType : String
deriving DecidableEq

/-- What serde and sqlx make of a document. -/
structure Codec where
  /-- `serde_json::from_value::<ProductEvent>`. -/
  productEvent : Json → Except String ProductEvent
  /-- The `Value` that a `jsonb` column written from a `Value` is read back as. -/
  readJson : Json → Json

/-! ## Locking -/

/-- `LockedRun` (lines 237-246). -/
structure LockedRun where
  (workItemId attemptId : Uuid)
  workOrderDigest : String
  state : RunState
  lastEventCursor : Option String
  (lastEventSequence aggregateVersion : ℤ)
deriving DecidableEq

/-- `stale_generation_error` (lines 810-814). -/
def staleGenerationError (workerId : Uuid) (supplied current : ℤ) : Error :=
  .conflict (s!"worker {workerId} generation {supplied} is stale; current generation is "
    ++ s!"{current}")

/-- `LOCK_WORKER_SESSION_SQL` (lines 16-30). -/
def workerSessionRow (fence : WorkerSessionFence) (db : Db) : Option (WorkerSession × Worker) := do
  let session ← db.workerSessions.find? fence.sessionId
  let worker ← db.workers.find? fence.workerId
  if session.tenantId = fence.tenantId ∧ session.workerId = fence.workerId
      ∧ worker.tenantId = session.tenantId then some (session, worker) else none

/-- `LOCK_RUN_PROJECTION_SQL` (lines 32-52). -/
def runProjectionRow (db : Db) : Option (RunRow × WorkOrder) := do
  let run ← db.runs.find? runId
  let order ← db.workOrders.find? run.workOrderId
  if run.tenantId = tenantId ∧ order.tenantId = run.tenantId then some (run, order) else none

/-- What `LOCK_RUN_PROJECTION_SQL` found, as the ingestion keeps it. -/
def LockedRun.ofRow (run : RunRow) (order : WorkOrder) : LockedRun where
  workItemId := run.workItemId
  attemptId := run.attemptId
  workOrderDigest := order.payloadDigest
  state := run.state
  lastEventCursor := run.lastEventCursor
  lastEventSequence := run.lastEventSequence
  aggregateVersion := run.aggregateVersion

/-- The run is bound to that session of that worker in that generation. -/
def isBound (fence : WorkerSessionFence) (run : RunRow) : Bool :=
  run.workerId == fence.workerId && run.workerGeneration == fence.generation
    && run.workerSessionId == fence.sessionId

section Ingestion

variable (codec : Codec) (fence : WorkerSessionFence) (incoming : IncomingRunEvent)

/-- `lock_worker_and_run` (lines 319-395). -/
def lockWorkerAndRun (runId : Uuid) : Tx Db LockedRun := do
  let now ← clockTimestamp
  let found ← select (workerSessionRow fence)
  let (session, worker) ← Transaction.orFail (.notFound s!"worker session {fence.sessionId}") found
  reject (session.workerGeneration ≠ fence.generation ∨ worker.generation ≠ fence.generation)
    (staleGenerationError fence.workerId fence.generation worker.generation)
  reject (session.status ≠ .active ∨ session.expiresAt ≤ now)
    (.conflict s!"worker session {fence.sessionId} is closed, revoked, or expired")
  let row ← select (runProjectionRow fence.tenantId runId)
  let (run, order) ← Transaction.orFail (.notFound s!"run {runId}") row
  reject (!isBound fence run)
    (.conflict (s!"run {runId} is not bound to worker session {fence.sessionId} generation "
      ++ s!"{fence.generation}"))
  reject (!run.authoritative)
    (.conflict s!"run {runId} is not the authoritative run for its attempt")
  return .ofRow run order

/-! ## Storing -/

/-- `asf_live_worker_session`
    (0012_worker_authority_lifetime_and_closure_preservation.sql:149-173). -/
def liveWorkerSession (now : Timestamptz) (db : Db) : Bool :=
  (workerSessionRow fence db).any fun (session, worker) =>
    session.workerGeneration == fence.generation && session.status == .active
      && decide (now < session.expiresAt) && worker.generation == fence.generation
      && worker.status != .quarantined

/-- The row that `INSERT_RAW_EVENT_SQL` (lines 54-73) writes. -/
def rawRow : RawRunEvent where
  id := incoming.id
  tenantId := fence.tenantId
  runId := incoming.runId
  workerSessionId := fence.sessionId
  workerId := fence.workerId
  workerGeneration := fence.generation
  externalEventId := incoming.externalEventId
  cursor := incoming.cursor
  sequence := incoming.sequence
  runAggregateVersion := incoming.aggregateVersion
  schemaVersion := incoming.schemaVersion
  eventType := incoming.eventType
  occurredAt := incoming.occurredAt.encode
  payload := codec.readJson incoming.rawEvent

/-- `INSERT … ON CONFLICT DO NOTHING`: whether a row came back, and the tables. -/
def Db.insertRawEvent (db : Db) (row : RawRunEvent) : Bool × Db :=
  match h : db.rawRunEvents.insert? row with
  | none => (false, db)
  | some events => (true, db.withRawRunEvents events (by
      rw [(Indexed.insert?_eq_some_iff.mp h).2]
      exact List.subset_append_left _ _))

/-- `INSERT_RAW_EVENT_SQL` behind `raw_event_worker_session_guard`, which fires before
    a conflict is looked for (0001_initial.sql:1888-1906). -/
def insertRawEvent (now : Timestamptz) (row : RawRunEvent) (db : Db) : Except String (Bool × Db) :=
  if liveWorkerSession fence now db then .ok (db.insertRawEvent row)
  else .error "raw run event is bound to a closed, expired, or stale worker session"

/-- The rows with one of the identities of the incoming event (lines 426-458). -/
def identityRows (db : Db) : List RawRunEvent :=
  db.rawRunEvents.rows.filter fun row => row.ofRun fence.tenantId incoming.runId
    && (row.externalEventId == incoming.externalEventId || row.cursor == incoming.cursor
      || row.sequence == incoming.sequence)

/-- The row says what the incoming event says. -/
def sameContent (row : RawRunEvent) : Bool :=
  row.externalEventId == incoming.externalEventId && row.cursor == incoming.cursor
    && row.sequence == incoming.sequence && row.runAggregateVersion == incoming.aggregateVersion
    && row.schemaVersion == incoming.schemaVersion && row.eventType == incoming.eventType
    && DateTime.decode row.occurredAt == incoming.occurredAt && row.payload == incoming.rawEvent

/-- The stored event that the incoming one repeats (lines 459-491). -/
def deduplicate : List RawRunEvent → Result Uuid
  | [row] => do
    failIf (!(row.workerSessionId == fence.sessionId && row.workerId == fence.workerId
        && row.workerGeneration == fence.generation && sameContent incoming row))
      (.conflict (s!"run event identity {incoming.externalEventId} was reused for different "
        ++ "semantics"))
    return row.id
  | _ =>
    .error (.conflict
      s!"run event {incoming.externalEventId} collides with multiple event identities")

/-- `store_raw_event` (lines 397-492). -/
def storeRawEvent : Tx Db (Uuid × Bool) := do
  let now ← clockTimestamp
  let inserted ← execute "store raw run event"
    (insertRawEvent fence now (rawRow codec fence incoming))
  if inserted then return (incoming.id, true)
  else do
    let rows ← select (identityRows fence incoming)
    let id ← Transaction.ofExcept (deduplicate fence incoming rows)
    return (id, false)

end Ingestion

/-! ## Decoding -/

/-- The state that an event type names; `none` for `run.progressed`, which keeps the
    current one (lines 672-684). -/
def eventTargets : List (String × Option RunState) :=
  [("run.accepted", some .adopted), ("run.adopted", some .adopted),
    ("run.started", some .running), ("run.running", some .running),
    ("run.progressed", none),
    ("run.waiting_approval", some .waitingApproval),
    ("run.verifying", some .verifying),
    ("run.succeeded", some .succeeded), ("run.target_reached", some .succeeded),
    ("run.failed", some .failed),
    ("run.refused", some .refused),
    ("run.cancel_requested", some .cancelRequested),
    ("run.cancelled", some .cancelled),
    ("run.quarantined", some .quarantined)]

/-- The state an event of that type asks for. -/
def targetState : Option RunState :=
  (eventTargets.lookup eventType).map (·.getD current)

/-- `valid_run_transition` (lines 700-752). -/
def validRunTransition (current target : RunState) : Bool :=
  current == target ||
    match current with
    | .adopted =>
      [.running, .waitingApproval, .verifying, .succeeded, .failed, .refused, .cancelRequested,
        .cancelled, .quarantined].contains target
    | .running =>
      [.waitingApproval, .verifying, .succeeded, .failed, .refused, .cancelRequested, .cancelled,
        .quarantined].contains target
    | .waitingApproval =>
      [.running, .verifying, .succeeded, .failed, .refused, .cancelRequested, .cancelled,
        .quarantined].contains target
    | .verifying =>
      [.waitingApproval, .succeeded, .failed, .refused, .cancelRequested, .cancelled,
        .quarantined].contains target
    | .cancelRequested => [.cancelled, .failed, .quarantined].contains target
    | .succeeded | .failed | .refused | .cancelled | .quarantined => false

/-- `project_state` (lines 668-698). -/
def projectState : Except RunEventProjectionBlock RunState :=
  match targetState current eventType with
  | none => .error (.unsupportedEventType eventType)
  | some target =>
    if validRunTransition current target then .ok target
    else .error (.invalidStateTransition current target)

/-- `DecodedProjection` (lines 254-259). -/
structure DecodedProjection where
  state : RunState
  snapshot : Json
  aggregateVersion : ℤ
deriving DecidableEq

/-- `PRODUCT_EVENT_SCHEMA_V1` (src/ports/runmill.rs:35). -/
def productEventSchemaV1 : String := "asf.product-event.v1"

/-- `bindings_match` (lines 646-660). -/
def bindingsMatch (fence : WorkerSessionFence) (runId : Uuid) (run : LockedRun) (row : RawRunEvent)
    (event : ProductEvent) : Bool :=
  event.schema == row.schemaVersion && event.eventId.toText == row.externalEventId
    && event.tenantId == fence.tenantId && event.workItemId == some run.workItemId
    && event.attemptId == some run.attemptId
    && event.workOrderDigest == some run.workOrderDigest && event.runId == some runId
    && event.eventType == row.eventType && event.occurredAt == DateTime.decode row.occurredAt
    && decide ((event.aggregateVersion : ℤ) ≤ i64Max)
    && (event.aggregateVersion : ℤ) == row.runAggregateVersion

/-- `decode_projection` (lines 612-666). -/
def decodeProjection (codec : Codec) (fence : WorkerSessionFence) (runId : Uuid) (run : LockedRun)
    (row : RawRunEvent) : Except RunEventProjectionBlock DecodedProjection :=
  if row.schemaVersion ≠ productEventSchemaV1 then .error (.unsupportedSchema row.schemaVersion)
  else if row.workerSessionId ≠ fence.sessionId ∨ row.workerId ≠ fence.workerId
      ∨ row.workerGeneration ≠ fence.generation then
    .error (.invalidKnownEnvelope "stored event belongs to a different worker session generation")
  else
    match codec.productEvent row.payload with
    | .error error => .error (.invalidKnownEnvelope s!"invalid product event: {error}")
    | .ok event =>
      if !bindingsMatch fence runId run row event then
        .error (.invalidKnownEnvelope ("product event does not match its tenant, run, attempt, "
          ++ "Work Order, metadata, or aggregate binding"))
      else
        (projectState run.state row.eventType).map fun state =>
          ⟨state, row.payload, row.runAggregateVersion⟩

/-! ## Draining -/

/-- `value.checked_add(1)` on an `i64`. -/
def checkedSucc (value : ℤ) : Option ℤ := if value < i64Max then some (value + 1) else none

/-- `NEXT_RAW_EVENT_SQL` (lines 75-100): the event, and its application if it
    has one. -/
def nextRawEvent (sequence : ℤ) (db : Db) : Option (RawRunEvent × Option RunEventApplication) :=
  (db.rawRunEvents.rows.find? fun row => row.ofRun tenantId runId && row.sequence == sequence).map
    fun row => (row, db.runEventApplications.rows.find? fun a =>
      a.tenantId == row.tenantId && a.runEventId == row.id)

/-- One turn of the loop up to its writes (lines 501-553): the block that ends
    the loop, or the event to apply. -/
def nextProjection (codec : Codec) (fence : WorkerSessionFence) (runId : Uuid) (run : LockedRun)
    (db : Db) : Result (Except RunEventProjectionBlock (RawRunEvent × DecodedProjection)) := do
  let expectedSequence ←
    okOr (.conflict "run event sequence overflowed") (checkedSucc run.lastEventSequence)
  match nextRawEvent fence.tenantId runId expectedSequence db with
  | none => .ok (.error (.sequenceGap expectedSequence))
  | some (_, some application) =>
    .error (.persistence (s!"event sequence {expectedSequence} is already applied to run "
      ++ s!"{application.runId} at version Some({application.runAggregateVersion}), but the run "
      ++ "cursor did not advance"))
  | some (row, none) =>
    match decodeProjection codec fence runId run row with
    | .error block => .ok (.error block)
    | .ok decoded => do
      let expectedAggregate ←
        okOr (.conflict "run aggregate version overflowed") (checkedSucc run.aggregateVersion)
      if decoded.aggregateVersion ≠ expectedAggregate then
        .ok (.error (.aggregateVersionGap expectedAggregate decoded.aggregateVersion))
      else .ok (.ok (row, decoded))

/-- `terminal_at` in `UPDATE_RUN_PROJECTION_SQL` (lines 110-114). -/
def terminalAfter (state : RunState) (terminalAt : Option Timestamptz) (occurredAt : Timestamptz) :
    Option Timestamptz :=
  if isTerminal state then terminalAt.or (some occurredAt) else terminalAt

/-- The row that `UPDATE_RUN_PROJECTION_SQL` writes, as far as the `CHECK` lets it. -/
def projectedRow (now : Timestamptz) (expectedSequence : ℤ) (row : RawRunEvent)
    (decoded : DecodedProjection) (run : RunRow) : Except String RunRow :=
  if h : terminalCheck run.adoptedAt
      (terminalAfter decoded.state run.terminalAt row.occurredAt) then
    .ok { run with
      state := decoded.state
      lastEventCursor := some row.cursor
      lastEventSequence := expectedSequence
      snapshot := some decoded.snapshot
      aggregateVersion := decoded.aggregateVersion
      lastObservedAt := now
      terminalAt := terminalAfter decoded.state run.terminalAt row.occurredAt
      terminal_check := h }
  else .error "new row for relation \"runs\" violates check constraint \"runs_check\""

/-- The guard of `UPDATE_RUN_PROJECTION_SQL` (lines 115-122). -/
def isUnchanged (fence : WorkerSessionFence) (run : LockedRun) (old : RunRow) : Bool :=
  old.tenantId == fence.tenantId && isBound fence old && old.authoritative
    && old.lastEventSequence == run.lastEventSequence
    && old.aggregateVersion == run.aggregateVersion

/-- `UPDATE_RUN_PROJECTION_SQL` (lines 102-124). -/
def updateRunProjection (fence : WorkerSessionFence) (runId : Uuid) (run : LockedRun)
    (now : Timestamptz) (row : RawRunEvent) (decoded : DecodedProjection) (db : Db) :
    Except String (Option RunRow × Db) :=
  (db.runs.updateOne runId (isUnchanged fence run)
      (projectedRow now (run.lastEventSequence + 1) row decoded)).map
    fun (updated, runs) => (updated, db.withRuns runs)

/-- `INSERT_EVENT_APPLICATION_SQL` (lines 126-136): whether a row came back. -/
def insertEventApplication (application : RunEventApplication) (db : Db) :
    Except String (Bool × Db) :=
  if db.runEventApplications.rows.any (·.sameKey application) then .ok (false, db)
  else
    match h : db.runEventApplications.insert? application with
    | none =>
      .error ("duplicate key value violates unique constraint "
        ++ "\"run_event_applications_tenant_id_run_id_run_aggregate_versi_key\"")
    | some applications =>
      if hnamed : ∃ event ∈ db.rawRunEvents.rows, application.names event then
        .ok (true, db.withApplications applications (by
          intro a ha
          rw [(Indexed.insert?_eq_some_iff.mp h).2, List.mem_append, List.mem_singleton] at ha
          rcases ha with ha | rfl
          · exact db.applications_named a ha
          · exact hnamed))
      else
        .error ("insert or update on table \"run_event_applications\" violates foreign key "
          ++ "constraint")

/-- The application of an event. -/
def applicationOf (fence : WorkerSessionFence) (runId : Uuid) (row : RawRunEvent)
    (decoded : DecodedProjection) : RunEventApplication where
  tenantId := fence.tenantId
  runEventId := row.id
  runId := runId
  runAggregateVersion := decoded.aggregateVersion

/-- The writes of one turn (lines 555-609); the run as it stands after them. -/
def applyRunEvent (fence : WorkerSessionFence) (runId : Uuid) (run : LockedRun) (row : RawRunEvent)
    (decoded : DecodedProjection) : Tx Db LockedRun := do
  let now ← clockTimestamp
  let found ← execute "apply run event projection"
    (updateRunProjection fence runId run now row decoded)
  let updated ← Transaction.orFail
    (.conflict s!"run {runId} cursor, version, authority, or worker generation changed") found
  let recorded ← execute "record run event application"
    (insertEventApplication (applicationOf fence runId row decoded))
  reject (!recorded) (.conflict s!"raw run event {row.id} was concurrently applied")
  return { run with
    state := updated.state
    lastEventCursor := updated.lastEventCursor
    lastEventSequence := updated.lastEventSequence
    aggregateVersion := updated.aggregateVersion }

/-- `DrainOutcome` (lines 248-252). -/
structure DrainOutcome where
  appliedCount : ℕ
  block : Option RunEventProjectionBlock
deriving DecidableEq

/-- `applied_count.checked_add(1)` on a `u32`. -/
def countSucc (appliedCount : ℕ) : Result ℕ :=
  if appliedCount < u32Max then .ok (appliedCount + 1)
  else .error (.conflict "applied run event count overflowed")

/-- The loop of `drain_contiguous_events` for at most `fuel` turns. -/
def drainLoop (codec : Codec) (fence : WorkerSessionFence) (runId : Uuid) :
    ℕ → LockedRun → ℕ → Tx Db (LockedRun × DrainOutcome)
  | 0, _, _ => throw (.persistence "out of fuel")
  | fuel + 1, run, appliedCount => do
    let next ← select (nextProjection codec fence runId run)
    let turn ← Transaction.ofExcept next
    match turn with
    | .error block => return (run, ⟨appliedCount, some block⟩)
    | .ok (row, decoded) => do
      let run ← applyRunEvent fence runId run row decoded
      let appliedCount ← Transaction.ofExcept (countSucc appliedCount)
      drainLoop codec fence runId fuel run appliedCount

/-- `drain_contiguous_events` (lines 494-610). Every turn but the last takes
    another stored event, so there are at most as many turns and one more. -/
def drainContiguousEvents (codec : Codec) (fence : WorkerSessionFence) (runId : Uuid)
    (run : LockedRun) : Tx Db (LockedRun × DrainOutcome) := do
  let stored ← select fun db => db.rawRunEvents.rows.length
  drainLoop codec fence runId (stored + 1) run 0

/-! ## Ingesting -/

/-- `event_is_applied` (lines 754-777). -/
def eventIsApplied (tenantId runId eventId : Uuid) (db : Db) : Bool :=
  db.runEventApplications.rows.any fun a =>
    a.tenantId == tenantId && a.runId == runId && a.runEventId == eventId

/-- The disposition of a delivery (lines 291-306). -/
def disposition (targetApplied inserted : Bool) (run : LockedRun) (drain : DrainOutcome) :
    Result RunEventIngestionDisposition :=
  if targetApplied then .ok (if inserted then .applied else .duplicateApplied)
  else
    match drain.block with
    | some block => .ok (.retainedUnapplied block)
    | none => do
      let expected ←
        okOr (.conflict "run event sequence overflowed") (checkedSucc run.lastEventSequence)
      return .retainedUnapplied (.sequenceGap expected)

/-- `ingest_run_event` (lines 273-317). -/
def ingestRunEvent (codec : Codec) (fence : WorkerSessionFence) (incoming : IncomingRunEvent) :
    Tx Db RunEventIngestionOutcome := do
  Transaction.ofExcept fence.validate
  Transaction.ofExcept incoming.validate
  let run ← lockWorkerAndRun fence incoming.runId
  let (storedEventId, inserted) ← storeRawEvent codec fence incoming
  let (run, drain) ← drainContiguousEvents codec fence incoming.runId run
  let targetApplied ← select (eventIsApplied fence.tenantId incoming.runId storedEventId)
  let disposition ← Transaction.ofExcept (disposition targetApplied inserted run drain)
  return {
    eventId := storedEventId
    inserted := inserted
    appliedEventCount := drain.appliedCount
    disposition := disposition
    lastEventCursor := run.lastEventCursor
    lastEventSequence := run.lastEventSequence
    runAggregateVersion := run.aggregateVersion }

/-! ## The machine -/

/-- Other operations register workers, open sessions and close them. -/
def replaceAuthority (workers : Table Worker Worker.id)
    (workerSessions : Table WorkerSession WorkerSession.id) : Tx Db Unit :=
  execute "authority" fun db => .ok ((), { db with workers, workerSessions })

/-- An operation with its arguments. -/
inductive Call where
  | ingest (fence : WorkerSessionFence) (incoming : IncomingRunEvent)
  | authority (workers : Table Worker Worker.id)
      (workerSessions : Table WorkerSession WorkerSession.id)

/-- What an operation returns. -/
inductive Answer where
  | ingested (outcome : RunEventIngestionOutcome)
  | done
deriving DecidableEq

/-- The transaction of a call. -/
def Call.transaction (codec : Codec) : Call → Tx Db Answer
  | .ingest fence incoming => .ingested <$> ingestRunEvent codec fence incoming
  | .authority workers workerSessions =>
    (fun _ => .done) <$> replaceAuthority workers workerSessions

/-- A call with the clock readings and verdicts it meets. -/
structure Request where
  now : Timestamptz
  pauses : ℕ → ℕ
  verdict : String → Option String
  call : Call

/-- The session a request opens; an ingestion draws no identifier. -/
def Request.session (request : Request) (db : Db) : Session Db where
  db := db
  now := request.now
  pauses := request.pauses
  ids := fun _ => .nil
  verdict := request.verdict

/-- One request as an atomic step: the owner of the transaction rolls it back on an
    error (`ingest_committed`, tests/control_plane_failure_matrix.rs:314-339). -/
def perform (codec : Codec) (db : Db) (request : Request) : Db × Result Answer :=
  let (session, answer) := atomically (request.call.transaction codec) (request.session db)
  (session.db, answer)

/-- The machine of the event ingestion. -/
def ledger (codec : Codec) : Machine Db Request (Result Answer) := ⟨perform codec⟩

end Asf.RunEvents
