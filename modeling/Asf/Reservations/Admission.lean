import Asf.Common.Schema
import Asf.Common.Session
import Asf.Lib.SumWhere
import Asf.Reservations.Requests

/-!
# Admission (`acquire_admission_reservations`, src/ledger/reservations.rs)

The tables of the admission boundary and the transaction that admits a
reservation set: the context it validates, the capacity it enforces, the rows
it inserts, and the adoption of a set that a repeated key names. The advisory
locks that serialise it are modelled in `Asf.Reservations.Locks`.

The primary keys and the key of `reservation_set_events` are modelled; the other
constraints and triggers are the session's `verdict`. `Codec` is what the
ledger takes from serde and from the digest of a canonical document.
-/

namespace Asf.Reservations

open Lib (Table sumWhere)
open Lib.Transaction (orFail)
open ReservationBudgetDimension (all)

/-! ## Rows -/

/-- `reservation_sets.state` (0001_initial.sql:922-923). -/
inductive SetState where
  | active | released | expired
deriving DecidableEq, Repr

/-- The text of a state. -/
def SetState.text : SetState → String
  | .active => "ACTIVE"
  | .released => "RELEASED"
  | .expired => "EXPIRED"

/-- `terminal_state_value` (lines 2093-2098). -/
def terminalStateValue : ReservationTerminalState → SetState
  | .released => .released
  | .expired => .expired

/-- A row of `reservation_sets` (0001_initial.sql:913-975 and migrations 0010, 0017). -/
structure ReservationSet where
  (id tenantId workItemId attemptId repositoryId workerId : Uuid)
  workerSessionId : Option Uuid
  workerGeneration : Option ℤ
  (requestDigest idempotencyKey : String)
  state : SetState
  fenceToken : ℤ
  acquiredBy : String
  (acquiredAt expiresAt : Timestamptz)
  releasedAt : Option Timestamptz
  (releasedBy releaseReason transitionIdempotencyKey : Option String)
  cancellationTerminalReceiptId : Option Uuid
deriving DecidableEq

/-- A row of `reservations` (0001_initial.sql:977-1006); `CHECK (units >= 0)`. -/
structure Reservation where
  (id tenantId reservationSetId : Uuid)
  kind : ReservationKind
  resourceKey : String
  budgetDimension : Option ReservationBudgetDimension
  units : ℕ
  idempotencyKey : String
  resourceGeneration : ℤ
deriving DecidableEq

/-- `reservation_set_events.event_type` (0001_initial.sql:1023). -/
inductive SetEventType where
  | acquired | released | expired
deriving DecidableEq, Repr

/-- The event a transition to a terminal state records. -/
def terminalEventType : ReservationTerminalState → SetEventType
  | .released => .released
  | .expired => .expired

/-- A row of `reservation_set_events` (0001_initial.sql:1019-1050). -/
structure ReservationSetEvent where
  (id tenantId reservationSetId : Uuid)
  eventType : SetEventType
  (previousFenceToken fenceToken : ℤ)
  (actorId reason idempotencyKey : String)
  occurredAt : Timestamptz
deriving DecidableEq

/-- `budget_ledger.entry_type` (0001_initial.sql:1070). -/
inductive EntryType where
  | reserve | consume | release | adjust
deriving DecidableEq, Repr

/-- A row of `budget_ledger` (0001_initial.sql:1052-1090); `CHECK (amount >= 0)`. -/
structure BudgetEntry where
  (id tenantId : Uuid)
  (workItemId attemptId reservationId : Option Uuid)
  (scopeType scopeId : String)
  dimension : ReservationBudgetDimension
  entryType : EntryType
  amount : ℕ
  (unit idempotencyKey : String)
  metadata : Json
  occurredAt : Timestamptz
deriving DecidableEq

/-- The columns of `work_items` that admission reads (0001_initial.sql:197-261). -/
structure WorkItem where
  (id tenantId : Uuid)
  repositoryId : Option Uuid
  (budgetLimits identityRequirements : Option Json)
  currentAttemptId : Option Uuid
  acceptedAt : Option Timestamptz
deriving DecidableEq

/-- The rows that admission reads and other operations write. -/
structure Config where
  tenants : Table Tenant Tenant.id
  workItems : Table WorkItem WorkItem.id
  attempts : Table Attempt Attempt.id
  repositories : Table Repository Repository.id
  workers : Table Worker Worker.id
  workerSessions : Table WorkerSession WorkerSession.id
  identityCapacityLimits : Table IdentityCapacityLimit IdentityCapacityLimit.key
deriving DecidableEq

/-- The tables of the admission boundary. -/
structure Db where
  config : Config
  reservationSets : Table ReservationSet ReservationSet.id
  reservations : Table Reservation Reservation.id
  setEvents : Table ReservationSetEvent ReservationSetEvent.id
  budgetLedger : Table BudgetEntry BudgetEntry.id
deriving DecidableEq

/-- What an insert of a second row with one primary key reports. -/
def duplicateKey (constraint : String) : String :=
  s!"duplicate key value violates unique constraint \"{constraint}\""

variable (db : Db)

/-- The row with that `id` of that tenant. -/
def Db.tenantSet (tenantId setId : Uuid) : Option ReservationSet :=
  (db.reservationSets.find? setId).filter fun set => set.tenantId == tenantId

/-! ## Integers -/

/-- `i64::try_from` of an unsigned value. -/
def i64TryFrom (value : ℕ) (error : Error) : Result ℤ :=
  if (value : ℤ) ≤ i64Max then .ok value else .error error

/-- `u64::checked_add`. -/
def checkedAdd (left right : ℕ) : Option ℕ :=
  if left + right < 2 ^ 64 then some (left + right) else none

/-- `positive_u64` (lines 2118-2128). -/
def positiveU64 (value : ℤ) : Result ℕ :=
  if value < 0 then .error (.persistence "persisted positive value was negative")
  else if value = 0 then .error (.persistence "persisted positive value was zero")
  else .ok value.toNat

/-- `parse_u64` (lines 2112-2116) on the text of a sum. -/
def parseU64 (value : ℕ) (context : String) : Result ℕ :=
  if value < 2 ^ 64 then .ok value
  else .error (.persistence s!"decode {context}: number too large to fit in target type")

/-! ## The admission context -/

/-- The canonical form of a request (lines 261-274). -/
structure AdmissionSemantics where
  (tenantId workItemId attemptId repositoryId : Uuid)
  expectedRepositoryGeneration : ℕ
  (workerId workerSessionId : Uuid)
  expectedWorkerGeneration : ℕ
  identities : List IdentityCapacityRequest
  budget : BudgetReservationAmounts
  expiresAt : DateTime
  actorId : String

/-- What comes from `serde_json::from_value` and from
    `canonical_json(…).map(sha256_digest)`. -/
structure Codec where
  budgetLimits : Json → Except String BudgetLimits
  identities : Json → Except String WorkOrderIdentities
  digest : AdmissionSemantics → Result String

section Admission

variable (codec : Codec) (request : AdmissionReservationRequest) (context : AdmissionContext)
  (identities : List IdentityCapacityRequest) (tenantId workItemId : Uuid)
  (dimension : ReservationBudgetDimension) (set : ReservationSet) (now : Timestamptz)
  (entry : BudgetEntry)

/-- `request_digest` (lines 325-341). -/
def requestDigest : Result String :=
  codec.digest {
    tenantId := request.tenantId
    workItemId := request.workItemId
    attemptId := request.attemptId
    repositoryId := request.repositoryId
    expectedRepositoryGeneration := request.expectedRepositoryGeneration
    workerId := request.workerId
    workerSessionId := request.workerSessionId
    expectedWorkerGeneration := request.expectedWorkerGeneration
    identities := identities
    budget := request.budget
    expiresAt := request.expiresAt
    actorId := request.actorId }

/-- `AdmissionContext` (lines 637-645). -/
structure AdmissionContext where
  (repositoryGeneration repositoryCapacity workerGeneration workerCapacity attemptGeneration : ℕ)
  budgetLimits : BudgetLimits
  identityCapacities : List (CtxlaneProfileRef × ℕ × ℕ)

/-- `validate_requested_identities` (lines 894-919): the maps from
    profile to units, as lists in key order. `requested` is in key order and has
    no profile twice. -/
def validateRequestedIdentities (requested : List IdentityCapacityRequest)
    (required : WorkOrderIdentities) : Result Unit :=
  let roles := [required.implementer, required.localReviewer, required.prReviewer]
  let expected := (roles.dedup.insertionSort fun a b => a.value ≤ b.value).map fun profile =>
    (profile, roles.count profile)
  failIf (requested.map (fun identity => (identity.profileRef, identity.units)) ≠ expected)
    (.conflict "identity reservations do not exactly cover the accepted role requirements")

/-- The tenant check (lines 664-676). -/
def checkTenant : Tx Db Unit := do
  let tenant ← orFail (.notFound s!"tenant {request.tenantId}")
    (← select fun db => db.config.tenants.find? request.tenantId)
  reject (tenant.status ≠ .active)
    (.conflict s!"tenant {request.tenantId} is {tenant.status.text}; new admission is disabled")

/-- The row of a work item. -/
def Db.workItem : Option WorkItem :=
  (db.config.workItems.find? workItemId).filter fun row => row.tenantId == tenantId

/-- The work item's limits and the cover of its identities (lines 678-727). -/
def checkWorkItem : Tx Db BudgetLimits := do
  let workItem ← orFail (.notFound s!"work item {request.workItemId}")
    (← select fun db => db.workItem request.tenantId request.workItemId)
  reject (workItem.acceptedAt = none ∨ workItem.repositoryId ≠ some request.repositoryId
      ∨ workItem.currentAttemptId ≠ some request.attemptId)
    (.conflict <| "admission is not bound to the accepted work item's current attempt "
      ++ "and repository")
  let budgetValue ← .ofExcept
    (requiredColumn "budget_limits" "work budget limits" workItem.budgetLimits)
  let budgetLimits ← .ofExcept ((codec.budgetLimits budgetValue).mapError fun error =>
    .persistence s!"decode persisted budget limits: {error}")
  .ofExcept budgetLimits.validate
  let identityValue ← .ofExcept (requiredColumn "identity_requirements"
    "work identity requirements" workItem.identityRequirements)
  let requiredIdentities ← .ofExcept ((codec.identities identityValue).mapError fun error =>
    .persistence s!"decode persisted identity requirements: {error}")
  .ofExcept requiredIdentities.validate
  .ofExcept (validateRequestedIdentities identities requiredIdentities)
  return budgetLimits

/-- The attempt's generation (lines 729-755). -/
def checkAttempt : Tx Db ℕ := do
  let attempt ← orFail (.notFound s!"attempt {request.attemptId}")
    (← select fun db => (db.config.attempts.find? request.attemptId).filter fun row =>
      row.tenantId == request.tenantId && row.workItemId == request.workItemId)
  reject (attempt.state ≠ .created ∧ attempt.state ≠ .authorized)
    (.conflict s!"attempt {request.attemptId} is {attempt.state.text}, not admissible")
  .ofExcept (positiveU64 attempt.aggregateVersion)

/-- The repository's capacity and generation (lines 757-786). -/
def checkRepository : Tx Db (ℕ × ℕ) := do
  let repository ← orFail (.notFound s!"repository {request.repositoryId}")
    (← select fun db => (db.config.repositories.find? request.repositoryId).filter fun row =>
      row.tenantId == request.tenantId)
  let capacity ← .ofExcept (positiveU64 repository.wipLimit)
  let generation ← .ofExcept (positiveU64 repository.aggregateVersion)
  reject (!repository.active ∨ generation ≠ request.expectedRepositoryGeneration)
    (.conflict "repository is disabled or its generation changed before admission")
  return (capacity, generation)

/-- The worker's capacity and generation (lines 788-814). -/
def checkWorker : Tx Db (ℕ × ℕ) := do
  let worker ← orFail (.notFound s!"worker {request.workerId}")
    (← select fun db => (db.config.workers.find? request.workerId).filter fun row =>
      row.tenantId == request.tenantId)
  let capacity ← .ofExcept (positiveU64 worker.maxConcurrency)
  let generation ← .ofExcept (positiveU64 worker.generation)
  reject (worker.status ≠ .ready ∨ generation ≠ request.expectedWorkerGeneration)
    (.conflict "worker is not ready or its generation changed before admission")
  return (capacity, generation)

/-- The worker session (lines 816-852). -/
def checkWorkerSession : Tx Db Unit := do
  let session ← orFail (.notFound s!"worker session {request.workerSessionId}")
    (← select fun db => (db.config.workerSessions.find? request.workerSessionId).filter fun row =>
      row.tenantId == request.tenantId)
  let generation ← .ofExcept (positiveU64 session.workerGeneration)
  let now ← clockTimestamp
  reject (session.workerId ≠ request.workerId ∨ generation ≠ request.expectedWorkerGeneration
      ∨ session.status ≠ .active ∨ session.expiresAt ≤ now
      ∨ (DateTime.decode session.expiresAt).nanos < request.expiresAt.nanos)
    (.conflict <| "worker session is not active, is expired, is shorter than the reservation, "
      ++ "or does not exactly bind the requested worker generation")

/-- One identity's capacity and generation (lines 855-890). -/
def checkIdentity (identity : IdentityCapacityRequest) : Tx Db (CtxlaneProfileRef × ℕ × ℕ) := do
  let limit ← orFail (.notFound s!"identity capacity for {identity.profileRef}")
    (← select fun db => db.config.identityCapacityLimits.find?
      (request.tenantId, identity.profileRef.value))
  let capacity ← .ofExcept (positiveU64 limit.capacity)
  let generation ← .ofExcept (positiveU64 limit.generation)
  reject (!limit.enabled ∨ generation ≠ identity.expectedGeneration)
    (.conflict s!"identity capacity for {identity.profileRef} is disabled or changed generation")
  return (identity.profileRef, capacity, generation)

/-- `load_and_validate_context` (lines 659-892). -/
def loadAndValidateContext : Tx Db AdmissionContext := do
  checkTenant request
  let budgetLimits ← checkWorkItem codec request identities
  let attemptGeneration ← checkAttempt request
  let (repositoryCapacity, repositoryGeneration) ← checkRepository request
  let (workerCapacity, workerGeneration) ← checkWorker request
  checkWorkerSession request
  let identityCapacities ← identities.mapM (checkIdentity request)
  return {
    repositoryGeneration := repositoryGeneration
    repositoryCapacity := repositoryCapacity
    workerGeneration := workerGeneration
    workerCapacity := workerCapacity
    attemptGeneration := attemptGeneration
    budgetLimits := budgetLimits
    identityCapacities := identityCapacities }

/-! ## Capacity -/

/-- Whether a set is `ACTIVE` and unexpired at `now`. -/
def ReservationSet.isLive : Bool :=
  set.state == .active && decide (now < set.expiresAt)

/-- The join condition of `active_reserved_units` (lines 1014-1025). -/
def Db.countsAt (tenantId : Uuid) (kind : ReservationKind)
    (resourceKey : String) (reservation : Reservation) : Bool :=
  reservation.tenantId == tenantId && reservation.kind == kind
    && reservation.resourceKey == resourceKey
    && (db.tenantSet tenantId reservation.reservationSetId).any fun set => set.isLive now

/-- The sum of `active_reserved_units`. -/
def Db.activeUnits (tenantId : Uuid) (kind : ReservationKind) (resourceKey : String) : ℕ :=
  sumWhere (db.countsAt now tenantId kind resourceKey) Reservation.units db.reservations.rows

/-- `active_reserved_units` (lines 1007-1034). -/
def activeReservedUnits (tenantId : Uuid) (kind : ReservationKind) (resourceKey : String) :
    Tx Db ℕ := do
  let now ← clockTimestamp
  let amount ← select fun db => db.activeUnits now tenantId kind resourceKey
  .ofExcept (parseU64 amount "active reservation capacity")

/-- The rows `consumed_budget` sums (lines 1044-1049). -/
def isConsumption : Bool :=
  entry.tenantId == tenantId && entry.workItemId == some workItemId
    && entry.dimension == dimension
    && (entry.entryType == .consume || entry.entryType == .adjust)

/-- The sum of `consumed_budget`. -/
def Db.consumedUnits : ℕ :=
  sumWhere (isConsumption tenantId workItemId dimension) BudgetEntry.amount db.budgetLedger.rows

/-- `consumed_budget` (lines 1036-1059). -/
def consumedBudget : Tx Db ℕ := do
  let amount ← select fun db => db.consumedUnits tenantId workItemId dimension
  .ofExcept (parseU64 amount "consumed budget")

/-- `require_capacity` (lines 987-1005). -/
def requireCapacity (tenantId : Uuid) (kind : ReservationKind) (resourceKey : String)
    (requested capacity : ℕ) : Tx Db Unit := do
  let active ← activeReservedUnits tenantId kind resourceKey
  reject ((checkedAdd active requested).all fun total => decide (capacity < total))
    (.conflict s!"{reservationKindValue kind} capacity is exhausted for {resourceKey}")

/-- The capacity and generation that the context holds for a profile. -/
def AdmissionContext.identity (profileRef : CtxlaneProfileRef) : Tx Db (ℕ × ℕ) :=
  orFail (.persistence "locked identity capacity disappeared")
    (context.identityCapacities.lookup profileRef)

/-- The check of one identity (lines 945-959). -/
def requireIdentityCapacity (identity : IdentityCapacityRequest) : Tx Db Unit := do
  let (capacity, _) ← context.identity identity.profileRef
  requireCapacity request.tenantId .identityCapacity (identityResourceKey identity.profileRef)
    identity.units capacity

/-- The check of one budget dimension (lines 960-984). -/
def requireBudget : Tx Db Unit := do
  let requested := request.budget.amount dimension
  let limit := budgetLimit context.budgetLimits dimension
  let active ← activeReservedUnits request.tenantId .budget
    (budgetResourceKey request.workItemId dimension)
  let consumed ← consumedBudget request.tenantId request.workItemId dimension
  let committed ← orFail (.conflict "budget capacity arithmetic overflowed")
    ((checkedAdd consumed active).bind (checkedAdd · requested))
  reject (limit < committed)
    (.conflict <| s!"{dimension.databaseValue} budget is exhausted: consumed {consumed}, "
      ++ s!"active reservations {active}, requested {requested}, limit {limit}")

/-- `enforce_capacity` (lines 921-985). -/
def enforceCapacity (context : AdmissionContext) : Tx Db Unit := do
  requireCapacity request.tenantId .repositoryWip (repositoryResourceKey request.repositoryId) 1
    context.repositoryCapacity
  requireCapacity request.tenantId .workerSlot (workerResourceKey request.workerId) 1
    context.workerCapacity
  identities.forM (requireIdentityCapacity request context)
  all.forM (requireBudget request context)

/-! ## `acquire_admission_reservations` -/

/-- `reject_existing_attempt_reservation` (lines 607-634). -/
def rejectExistingAttemptReservation : Tx Db Unit := do
  match ← select fun db => db.reservationSets.rows.find? fun set =>
      set.tenantId == request.tenantId && set.attemptId == request.attemptId
        && set.state == .active with
  | some set => throw (.conflict <|
      s!"attempt {request.attemptId} already has active reservation set {set.id}; "
        ++ "adopt its idempotency key or transition it first")
  | none => pure ()

variable (requestDigest : String)

/-- The row of `insert_reservation_set` with the column defaults (lines 1066-1074). -/
def insertedSet (workerGeneration : ℤ) (acquiredAt : Timestamptz) :
    ReservationSet where
  id := request.reservationSetId
  tenantId := request.tenantId
  workItemId := request.workItemId
  attemptId := request.attemptId
  repositoryId := request.repositoryId
  workerId := request.workerId
  workerSessionId := some request.workerSessionId
  workerGeneration := some workerGeneration
  requestDigest := requestDigest
  idempotencyKey := request.idempotencyKey
  state := .active
  fenceToken := 1
  acquiredBy := request.actorId
  acquiredAt := acquiredAt
  expiresAt := request.expiresAt.encode
  releasedAt := none
  releasedBy := none
  releaseReason := none
  transitionIdempotencyKey := none
  cancellationTerminalReceiptId := none

/-- `INSERT INTO reservation_sets`. -/
def Db.insertSet : Except String (Unit × Db) :=
  match db.reservationSets.insert? set with
  | none => .error (duplicateKey "reservation_sets_pkey")
  | some reservationSets => .ok ((), { db with reservationSets })

/-- `insert_reservation_set` (lines 1061-1095). -/
def insertReservationSet : Tx Db Timestamptz := do
  let workerGeneration ← .ofExcept (i64TryFrom request.expectedWorkerGeneration
    (.validation "worker generation exceeds PostgreSQL bigint capacity"))
  let acquiredAt ← clockTimestamp
  execute "insert reservation set" fun db =>
    db.insertSet (insertedSet request requestDigest workerGeneration acquiredAt)
  return acquiredAt

/-- `INSERT INTO reservations`. -/
def Db.insertReservation (reservation : Reservation) : Except String (Unit × Db) :=
  match db.reservations.insert? reservation with
  | none => .error (duplicateKey "reservations_pkey")
  | some reservations => .ok ((), { db with reservations })

/-- `insert_resource` (lines 1174-1213). -/
def insertResource (kind : ReservationKind) (resourceKey : String)
    (budgetDimension : Option ReservationBudgetDimension) (units resourceGeneration : ℕ) :
    Tx Db Uuid := do
  let id ← nowV7
  let _ ← .ofExcept (i64TryFrom units (.validation "reservation units exceed PostgreSQL bigint"))
  let generation ← .ofExcept (i64TryFrom resourceGeneration
    (.validation "resource generation exceeds PostgreSQL bigint"))
  execute "insert capacity reservation" fun db => db.insertReservation {
    id := id
    tenantId := request.tenantId
    reservationSetId := request.reservationSetId
    kind := kind
    resourceKey := resourceKey
    budgetDimension := budgetDimension
    units := units
    idempotencyKey := s!"{request.idempotencyKey}:{reservationKindValue kind}:{resourceKey}"
    resourceGeneration := generation }
  return id

/-- `json_metadata` (lines 2100-2102). -/
def jsonMetadata (admissionIdempotencyKey : String) : Json :=
  .obj [("admission_idempotency_key", .str admissionIdempotencyKey)]

/-- `INSERT INTO budget_ledger`. -/
def Db.insertEntry : Except String (Unit × Db) :=
  match db.budgetLedger.insert? entry with
  | none => .error (duplicateKey "budget_ledger_pkey")
  | some budgetLedger => .ok ((), { db with budgetLedger })

/-- `insert_budget_entry` (lines 1216-1257). -/
def insertBudgetEntry (tenantId workItemId attemptId reservationId : Uuid)
    (dimension : ReservationBudgetDimension) (entryType : EntryType) (amount : ℕ)
    (idempotencyKey : String) (metadata : Json) (occurredAt : Timestamptz) : Tx Db Unit := do
  let _ ← .ofExcept (i64TryFrom amount (.validation "budget amount exceeds PostgreSQL bigint"))
  let id ← nowV7
  execute "insert reservation budget entry" fun db => db.insertEntry {
    id := id
    tenantId := tenantId
    workItemId := some workItemId
    attemptId := some attemptId
    reservationId := some reservationId
    scopeType := "ATTEMPT"
    scopeId := toString attemptId
    dimension := dimension
    entryType := entryType
    amount := amount
    unit := dimension.unit
    idempotencyKey := idempotencyKey
    metadata := metadata
    occurredAt := occurredAt }

/-- The reservation of one identity (lines 1124-1139). -/
def insertIdentity (identity : IdentityCapacityRequest) : Tx Db Unit := do
  let (_, generation) ← context.identity identity.profileRef
  let _ ← insertResource request .identityCapacity (identityResourceKey identity.profileRef) none
    identity.units generation

/-- The reservation and the `RESERVE` entry of one dimension (lines 1140-1170). -/
def insertBudget (occurredAt : Timestamptz) (dimension : ReservationBudgetDimension) :
    Tx Db Unit := do
  let units := request.budget.amount dimension
  let reservationId ← insertResource request .budget
    (budgetResourceKey request.workItemId dimension) (some dimension) units
    context.attemptGeneration
  insertBudgetEntry request.tenantId request.workItemId request.attemptId reservationId dimension
    .reserve units s!"{request.idempotencyKey}:budget-reserve:{dimension.databaseValue}"
    (jsonMetadata request.idempotencyKey) occurredAt

/-- `insert_resources_and_budget_ledger` (lines 1097-1172). -/
def insertResourcesAndBudgetLedger (context : AdmissionContext) (occurredAt : Timestamptz) :
    Tx Db Unit := do
  let _ ← insertResource request .repositoryWip (repositoryResourceKey request.repositoryId) none
    1 context.repositoryGeneration
  let _ ← insertResource request .workerSlot (workerResourceKey request.workerId) none 1
    context.workerGeneration
  identities.forM (insertIdentity request context)
  all.forM (insertBudget request context occurredAt)

/-- `INSERT INTO reservation_set_events`, with `UNIQUE (tenant_id, idempotency_key)`. -/
def Db.insertEvent (event : ReservationSetEvent) : Except String (Unit × Db) :=
  if db.setEvents.rows.any fun row =>
      row.tenantId == event.tenantId && row.idempotencyKey == event.idempotencyKey then
    .error (duplicateKey "reservation_set_events_tenant_id_idempotency_key_key")
  else
    match db.setEvents.insert? event with
    | none => .error (duplicateKey "reservation_set_events_pkey")
    | some setEvents => .ok ((), { db with setEvents })

/-- `insert_set_event` (lines 1941-1977). -/
def insertSetEvent (tenantId reservationSetId : Uuid) (eventType : SetEventType)
    (previousFenceToken fenceToken : ℤ) (actorId reason idempotencyKey : String)
    (occurredAt : Timestamptz) : Tx Db Uuid := do
  let id ← nowV7
  execute "insert reservation set event" fun db => db.insertEvent {
    id := id
    tenantId := tenantId
    reservationSetId := reservationSetId
    eventType := eventType
    previousFenceToken := previousFenceToken
    fenceToken := fenceToken
    actorId := actorId
    reason := reason
    idempotencyKey := idempotencyKey
    occurredAt := occurredAt }
  return id

/-- `resource_from_row` (lines 1414-1433). -/
def resourceFromRow (row : Reservation) : Result ReservedResource := do
  let resourceGeneration ← positiveU64 row.resourceGeneration
  return {
    id := row.id
    kind := row.kind
    resourceKey := row.resourceKey
    budgetDimension := row.budgetDimension
    units := row.units
    resourceGeneration := resourceGeneration }

/-- `ORDER BY kind, resource_key`. -/
def resourceBefore (a b : Reservation) : Prop :=
  reservationKindValue a.kind < reservationKindValue b.kind
    ∨ a.kind = b.kind ∧ a.resourceKey ≤ b.resourceKey

instance : DecidableRel resourceBefore := fun a b =>
  inferInstanceAs (Decidable (reservationKindValue a.kind < reservationKindValue b.kind
    ∨ a.kind = b.kind ∧ a.resourceKey ≤ b.resourceKey))

/-- The reservations of a set. -/
def Db.setReservations (tenantId reservationSetId : Uuid) : List Reservation :=
  db.reservations.rows.filter fun row =>
    row.tenantId == tenantId && row.reservationSetId == reservationSetId

/-- `load_resources` (lines 1393-1412). -/
def loadResources (tenantId reservationSetId : Uuid) : Tx Db (List ReservedResource) := do
  let rows ← select fun db =>
    (db.setReservations tenantId reservationSetId).insertionSort resourceBefore
  .ofExcept (rows.mapM resourceFromRow)

/-- The row `load_set_by_idempotency_key` reads (lines 1357-1378). -/
def Db.setByIdempotencyKey (tenantId : Uuid) (idempotencyKey : String) : Option ReservationSet :=
  db.reservationSets.rows.find? fun set =>
    set.tenantId == tenantId && set.idempotencyKey == idempotencyKey

/-- The authority `adopt_existing_set` revalidates (lines 1284-1330). -/
def checkAdoptedAuthority (expectedGeneration : ℤ) (existing : ReservationSet)
    (now : Timestamptz) : Tx Db Unit := do
  let (session, worker) ← orFail
    (.conflict "adopted reservation no longer has its exact worker-session authority")
    (← select fun db => do
      let session ← (db.config.workerSessions.find? request.workerSessionId).filter fun row =>
        row.tenantId == request.tenantId && row.workerId == request.workerId
          && row.workerGeneration == expectedGeneration
      let worker ← (db.config.workers.find? session.workerId).filter fun row =>
        row.tenantId == session.tenantId
      return (session, worker))
  reject (session.status ≠ .active ∨ session.expiresAt ≤ now
      ∨ session.expiresAt < existing.expiresAt ∨ worker.status = .quarantined
      ∨ worker.generation ≠ expectedGeneration)
    (.conflict "adopted reservation's worker-session authority is no longer live")

/-- `adopt_existing_set` (lines 1259-1355). -/
def adoptExistingSet (existing : ReservationSet) : Tx Db AdmissionReservationReceipt := do
  let expectedGeneration ← .ofExcept (i64TryFrom request.expectedWorkerGeneration
    (.validation "worker generation exceeds PostgreSQL bigint capacity"))
  reject (existing.workerSessionId ≠ some request.workerSessionId
      ∨ existing.workerGeneration ≠ some expectedGeneration
      ∨ existing.requestDigest ≠ requestDigest)
    (.conflict <| s!"reservation idempotency key {request.idempotencyKey} was reused with "
      ++ "different admission semantics")
  let now ← clockTimestamp
  reject (existing.state ≠ .active ∨ existing.expiresAt ≤ now)
    (.conflict <| s!"reservation idempotency key {request.idempotencyKey} names a reservation "
      ++ "that is no longer active")
  checkAdoptedAuthority request expectedGeneration existing now
  let event ← orFail (.persistence "active reservation has no acquisition event")
    (← select fun db => db.setEvents.rows.find? fun event =>
      event.tenantId == request.tenantId && event.reservationSetId == existing.id
        && event.eventType == .acquired && event.idempotencyKey == request.idempotencyKey)
  let fenceToken ← .ofExcept (positiveU64 existing.fenceToken)
  let resources ← loadResources request.tenantId existing.id
  return {
    reservationSetId := existing.id
    disposition := .adopted
    requestDigest := existing.requestDigest
    fenceToken := fenceToken
    acquiredAt := .decode existing.acquiredAt
    expiresAt := .decode existing.expiresAt
    acquisitionEventId := event.id
    resources := resources }

end Admission

/-- The writing path of `acquire_admission_reservations` (lines 417-473). -/
def admitNewSet (codec : Codec) (request : AdmissionReservationRequest)
    (identities : List IdentityCapacityRequest) (requestDigest : String) :
    Tx Db AdmissionReservationReceipt := do
  let now ← clockTimestamp
  reject (request.expiresAt.nanos ≤ (DateTime.decode now).nanos)
    (.validation "admission reservation expiry must be in the future")
  let context ← loadAndValidateContext codec request identities
  rejectExistingAttemptReservation request
  enforceCapacity request identities context
  let acquiredAt ← insertReservationSet request requestDigest
  insertResourcesAndBudgetLedger request identities context acquiredAt
  let acquisitionEventId ← insertSetEvent request.tenantId request.reservationSetId .acquired 0 1
    request.actorId acquisitionReason request.idempotencyKey acquiredAt
  let resources ← loadResources request.tenantId request.reservationSetId
  return {
    reservationSetId := request.reservationSetId
    disposition := .acquired
    requestDigest := requestDigest
    fenceToken := 1
    acquiredAt := .decode acquiredAt
    expiresAt := request.expiresAt
    acquisitionEventId := acquisitionEventId
    resources := resources }

/-- `acquire_admission_reservations` (lines 368-474). -/
def acquireAdmissionReservations (codec : Codec) (request : AdmissionReservationRequest) :
    Tx Db AdmissionReservationReceipt := do
  let identities ← .ofExcept request.validate
  let requestDigest ← .ofExcept (requestDigest codec request identities)
  match ← select fun db => db.setByIdempotencyKey request.tenantId request.idempotencyKey with
  | some existing => adoptExistingSet request requestDigest existing
  | none => admitNewSet codec request identities requestDigest

end Asf.Reservations
