import Asf.Lib.Machine
import Asf.Reservations.Admission

/-!
# Terminal transitions of reservation sets (src/ledger/reservations.rs)

`release_reservation_set`, `expire_reservation_set`,
`expire_elapsed_reservation_sets`, `release_active_worker_reservations` and
`release_active_attempt_reservations`: five paths into one fenced update that
also writes the `RELEASE` entries and the event.

`ledger` is the machine whose inputs are these operations and the admission,
each one transaction with its own clock readings and identifiers, between
arbitrary changes of the rows that admission only reads.
-/

namespace Asf.Reservations

open Lib (Machine atomically)
open Lib.Transaction (orFail)

/-! ## Terminal transitions -/

section Transition

variable (request : ReservationTransitionRequest) (target : ReservationTerminalState)
  (currentFence : ℤ) (workItemId attemptId : Uuid)

/-- The guard of the transition's update (lines 1565-1568). -/
def isTransitionable (expectedFence : ℤ) (set : ReservationSet) : Bool :=
  set.tenantId == request.tenantId && set.id == request.reservationSetId
    && set.state == .active && set.fenceToken == expectedFence

/-- The transition's update (lines 1558-1564). -/
def transitionedSet (nextFence : ℤ) (cancellationTerminalReceiptId : Option Uuid)
    (now : Timestamptz) (set : ReservationSet) : ReservationSet :=
  { set with
    state := terminalStateValue target
    fenceToken := nextFence
    releasedAt := some now
    releasedBy := some request.actorId
    releaseReason := some request.reason
    transitionIdempotencyKey := some request.idempotencyKey
    cancellationTerminalReceiptId := cancellationTerminalReceiptId }

@[simp] theorem transitionedSet_id (nextFence : ℤ) (receiptId : Option Uuid) (now : Timestamptz)
    (set : ReservationSet) :
    (transitionedSet request target nextFence receiptId now set).id = set.id := rfl

/-- `UPDATE reservation_sets`: how many rows it wrote, and the new tables. -/
def Db.updateSets (db : Db) (p : ReservationSet → Bool) (f : ReservationSet → ReservationSet)
    (hf : ∀ set, (f set).id = set.id) : ℕ × Db :=
  ((db.reservationSets.rows.filter p).length,
    { db with reservationSets := db.reservationSets.update p f hf })

/-- The budget reservations of a set, `ORDER BY budget_dimension` (lines 1585-1596). -/
def Db.budgetRows (db : Db) (tenantId reservationSetId : Uuid) : List Reservation :=
  ((db.setReservations tenantId reservationSetId).filter
    fun row => row.kind == .budget).insertionSort
    fun a b => (a.budgetDimension.map (·.databaseValue)).getD ""
      ≤ (b.budgetDimension.map (·.databaseValue)).getD ""

/-- The `RELEASE` entry of one budget reservation (lines 1597-1625). -/
def releaseBudget (occurredAt : Timestamptz) (row : Reservation) : Tx Db Unit := do
  let dimension ← .ofExcept
    (requiredColumn "budget_dimension" "budget dimension" row.budgetDimension)
  insertBudgetEntry request.tenantId workItemId attemptId row.id dimension .release row.units
    s!"{request.idempotencyKey}:budget-release:{dimension.databaseValue}"
    (jsonMetadata request.idempotencyKey) occurredAt

/-- `apply_active_reservation_transition` (lines 1540-1654). -/
def applyActiveReservationTransition (cancellationTerminalReceiptId : Option Uuid) :
    Tx Db ReservationTransitionReceipt := do
  reject (i64Max ≤ currentFence) (.conflict "reservation fence overflowed")
  let nextFence := currentFence + 1
  let expectedFence ← .ofExcept (i64TryFrom request.expectedFenceToken
    (.validation "reservation transition fence is too large"))
  let occurredAt ← clockTimestamp
  let updated ← execute "transition reservation set" fun db => .ok <|
    db.updateSets (isTransitionable request expectedFence)
      (transitionedSet request target nextFence cancellationTerminalReceiptId occurredAt)
      (transitionedSet_id request target nextFence cancellationTerminalReceiptId occurredAt)
  reject (updated = 0) (.conflict "reservation transition lost its fence")
  let budgetRows ← select fun db => db.budgetRows request.tenantId request.reservationSetId
  budgetRows.forM (releaseBudget request workItemId attemptId occurredAt)
  let eventId ← insertSetEvent request.tenantId request.reservationSetId (terminalEventType target)
    currentFence nextFence request.actorId request.reason request.idempotencyKey occurredAt
  let fenceToken ← .ofExcept (positiveU64 nextFence)
  return {
    reservationSetId := request.reservationSetId
    state := target
    disposition := .applied
    previousFenceToken := request.expectedFenceToken
    fenceToken := fenceToken
    actorId := request.actorId
    reason := request.reason
    idempotencyKey := request.idempotencyKey
    eventId := eventId
    occurredAt := .decode occurredAt }

/-- `load_transition_receipt` (lines 1876-1938). -/
def loadTransitionReceipt : Tx Db ReservationTransitionReceipt := do
  let event ← orFail
    (.conflict "terminal reservation cannot be adopted without the exact transition event")
    (← select fun db => db.setEvents.rows.find? fun event =>
      event.tenantId == request.tenantId && event.idempotencyKey == request.idempotencyKey)
  reject (event.reservationSetId ≠ request.reservationSetId
      ∨ event.eventType ≠ terminalEventType target
      ∨ event.previousFenceToken ≠ min (request.expectedFenceToken : ℤ) i64Max
      ∨ event.actorId ≠ request.actorId ∨ event.reason ≠ request.reason)
    (.conflict "reservation transition idempotency key was reused with different semantics")
  let previousFenceToken ← .ofExcept (positiveU64 event.previousFenceToken)
  let fenceToken ← .ofExcept (positiveU64 event.fenceToken)
  return {
    reservationSetId := event.reservationSetId
    state := target
    disposition := .adopted
    previousFenceToken := previousFenceToken
    fenceToken := fenceToken
    actorId := event.actorId
    reason := event.reason
    idempotencyKey := event.idempotencyKey
    eventId := event.id
    occurredAt := .decode event.occurredAt }

/-- `transition_reservation_set` (lines 1435-1538). -/
def transitionReservationSet : Tx Db ReservationTransitionReceipt := do
  .ofExcept request.validate
  let expectedFence ← .ofExcept (i64TryFrom request.expectedFenceToken
    (.validation "reservation transition fence is too large"))
  let set ← orFail (.notFound s!"reservation set {request.reservationSetId}")
    (← select fun db => db.tenantSet request.tenantId request.reservationSetId)
  if set.state ≠ .active then
    reject (set.state ≠ terminalStateValue target ∨ set.fenceToken ≠ min (expectedFence + 1) i64Max)
      (.conflict <| s!"reservation set {request.reservationSetId} is already {set.state.text} "
        ++ s!"at fence {set.fenceToken}")
    loadTransitionReceipt request target
  else
    reject (set.fenceToken ≠ expectedFence)
      (.conflict <| s!"reservation set {request.reservationSetId} fence is {set.fenceToken}, "
        ++ s!"expected {expectedFence}")
    if target = .expired then
      let now ← clockTimestamp
      reject (now < set.expiresAt)
        (.conflict s!"reservation set {request.reservationSetId} has not expired")
    applyActiveReservationTransition request target set.fenceToken set.workItemId set.attemptId none

/-- `release_reservation_set` (lines 477-482). -/
def releaseReservationSet : Tx Db ReservationTransitionReceipt :=
  transitionReservationSet request .released

/-- `expire_reservation_set` (lines 485-490). -/
def expireReservationSet : Tx Db ReservationTransitionReceipt :=
  transitionReservationSet request .expired

/-- The internal transition of one selected set: the key is built from the row,
    the fence is the row's own. -/
def transitionRow (actorId reason : String) (key : ReservationSet → String)
    (receiptId : Option Uuid) (row : ReservationSet) : Tx Db ReservationTransitionReceipt := do
  let expectedFenceToken ← .ofExcept (positiveU64 row.fenceToken)
  applyActiveReservationTransition
    { tenantId := row.tenantId
      reservationSetId := row.id
      expectedFenceToken := expectedFenceToken
      actorId := actorId
      reason := reason
      idempotencyKey := key row }
    target row.fenceToken row.workItemId row.attemptId receiptId

end Transition

/-- The sets the sweep looks for (lines 526-531, 558-563). -/
def isElapsed (tenantId : Uuid) (now : Timestamptz) (set : ReservationSet) : Bool :=
  set.tenantId == tenantId && set.state == .active && decide (set.expiresAt ≤ now)

/-- `ORDER BY expires_at, id`. -/
def expiryBefore (a b : ReservationSet) : Prop :=
  a.expiresAt < b.expiresAt ∨ a.expiresAt = b.expiresAt ∧ a.id ≤ b.id

instance : DecidableRel expiryBefore := fun a b =>
  inferInstanceAs (Decidable (a.expiresAt < b.expiresAt ∨ a.expiresAt = b.expiresAt ∧ a.id ≤ b.id))

/-- `expire_elapsed_reservation_sets` (lines 500-604). `locked` says
    which rows other transactions hold locks on. -/
def expireElapsedReservationSets (locked : Uuid → Bool) (tenantId : Uuid) (actorId : String)
    (limit : ℕ) : Tx Db (List ReservationTransitionReceipt) := do
  reject tenantId.isNil (.validation "reservation expiry sweep tenant ID must be non-nil")
  .ofExcept (validateSafeText "reservation expiry sweep actor" actorId)
  reject (¬ (1 ≤ limit ∧ limit ≤ maxExpirySweepBatchSize))
    (.validation s!"reservation expiry sweep limit must be in 1..={maxExpirySweepBatchSize}")
  let selectedAt ← clockTimestamp
  let candidates ← select fun db =>
    ((db.reservationSets.rows.filter (isElapsed tenantId selectedAt)).insertionSort
      expiryBefore).take limit
  let lockedAt ← clockTimestamp
  let rows ← select fun db =>
    ((db.reservationSets.rows.filter fun set => isElapsed tenantId lockedAt set
      && (candidates.map ReservationSet.id).contains set.id).insertionSort expiryBefore).filter
      fun set => !locked set.id
  rows.mapM (transitionRow .expired actorId expirySweepReason
    (fun row => expirySweepIdempotencyKey row.id row.fenceToken) none)

/-- `ORDER BY work_item_id, id`. -/
def workItemBefore (a b : ReservationSet) : Prop :=
  a.workItemId < b.workItemId ∨ a.workItemId = b.workItemId ∧ a.id ≤ b.id

instance : DecidableRel workItemBefore := fun a b =>
  inferInstanceAs (Decidable (a.workItemId < b.workItemId
    ∨ a.workItemId = b.workItemId ∧ a.id ≤ b.id))

/-- `release_active_worker_reservations` (lines 1662-1753). -/
def releaseActiveWorkerReservations (tenantId workerId : Uuid) (actorId reason : String) :
    Tx Db ℕ := do
  let rows ← select fun db =>
    (db.reservationSets.rows.filter fun set => set.tenantId == tenantId
      && set.workerId == workerId && set.state == .active).insertionSort workItemBefore
  let receipts ← rows.mapM (transitionRow .released actorId reason
    (fun row => workerRevocationIdempotencyKey row.workerSessionId row.id row.fenceToken) none)
  return receipts.length

/-- `release_active_attempt_reservations` (lines 1768-1850). -/
def releaseActiveAttemptReservations (tenantId workItemId attemptId expectedWorkerId : Uuid)
    (ns : AttemptReservationReleaseNamespace) (actorId reason : String) : Tx Db ℕ := do
  reject expectedWorkerId.isNil
    (.validation "terminal attempt reservation worker ID must be non-nil")
  let rows ← select fun db =>
    (db.reservationSets.rows.filter fun set => set.tenantId == tenantId
      && set.workItemId == workItemId && set.attemptId == attemptId
      && set.state == .active).insertionSort fun a b => a.id ≤ b.id
  rows.forM fun row => reject (row.workerId ≠ expectedWorkerId) (.conflict <|
    s!"terminal attempt reservation {row.id} belongs to worker {row.workerId}, "
      ++ s!"not authoritative worker {expectedWorkerId}")
  let receipts ← rows.mapM (transitionRow .released actorId reason
    (fun row => ns.idempotencyKey row.workItemId row.attemptId row.id row.fenceToken)
    ns.cancellationTerminalReceiptId)
  return receipts.length

/-! ## The machine -/

/-- An operation with its arguments, or a change other operations make to rows
    that admission reads. -/
inductive Call where
  | acquire (request : AdmissionReservationRequest)
  | release (request : ReservationTransitionRequest)
  | expire (request : ReservationTransitionRequest)
  | sweep (tenantId : Uuid) (actorId : String) (limit : ℕ) (locked : Uuid → Bool)
  | releaseWorker (tenantId workerId : Uuid) (actorId reason : String)
  | releaseAttempt (tenantId workItemId attemptId expectedWorkerId : Uuid)
      (ns : AttemptReservationReleaseNamespace) (actorId reason : String)
  | configure (config : Config)
  | consume (entry : BudgetEntry)

/-- What an operation returns. -/
inductive Answer where
  | admission (receipt : AdmissionReservationReceipt)
  | transition (receipt : ReservationTransitionReceipt)
  | swept (receipts : List ReservationTransitionReceipt)
  | released (count : ℕ)
  | done
deriving DecidableEq

/-- The capacity configured for one resource. -/
structure Limit where
  tenantId : Uuid
  kind : ReservationKind
  resourceKey : String
  capacity : ℤ
deriving DecidableEq

/-- The configured limits: every repository, worker and identity with its
    capacity. -/
def Config.limits (config : Config) : List Limit :=
  config.repositories.rows.map (fun row =>
      ⟨row.tenantId, .repositoryWip, repositoryResourceKey row.id, row.wipLimit⟩)
    ++ config.workers.rows.map (fun row =>
      ⟨row.tenantId, .workerSlot, workerResourceKey row.id, row.maxConcurrency⟩)
    ++ config.identityCapacityLimits.rows.map fun row =>
      ⟨row.tenantId, .identityCapacity, profileResourceKey row.profileRef, row.capacity⟩

/-- Another operation replaces the configuration; the limits stay. -/
def replaceConfig (config : Config) : Tx Db Unit :=
  execute "configure" fun db =>
    if config.limits = db.config.limits then .ok ((), { db with config }) else .error "limits"

/-- Another operation records consumption. -/
def recordConsumption (entry : BudgetEntry) : Tx Db Unit :=
  execute "consume" fun db =>
    if entry.entryType = .consume ∨ entry.entryType = .adjust then db.insertEntry entry
    else .error "entry_type"

variable (codec : Codec)

/-- The transaction of a call. -/
def Call.transaction : Call → Tx Db Answer
  | .acquire request => .admission <$> acquireAdmissionReservations codec request
  | .release request => .transition <$> releaseReservationSet request
  | .expire request => .transition <$> expireReservationSet request
  | .sweep tenantId actorId limit locked =>
    .swept <$> expireElapsedReservationSets locked tenantId actorId limit
  | .releaseWorker tenantId workerId actorId reason =>
    .released <$> releaseActiveWorkerReservations tenantId workerId actorId reason
  | .releaseAttempt tenantId workItemId attemptId expectedWorkerId ns actorId reason =>
    .released <$> releaseActiveAttemptReservations tenantId workItemId attemptId expectedWorkerId
      ns actorId reason
  | .configure config => (fun _ => .done) <$> replaceConfig config
  | .consume entry => (fun _ => .done) <$> recordConsumption entry

/-- A call with the clock readings, identifiers and verdicts it meets. -/
structure Request where
  pauses : ℕ → ℕ
  ids : ℕ → Uuid
  verdict : String → Option String
  call : Call

/-- The clock and the tables. -/
structure State where
  clock : Timestamptz
  db : Db

/-- The session a request opens. -/
def Request.session (request : Request) (s : State) : Session Db where
  db := s.db
  now := s.clock
  pauses := request.pauses
  ids := request.ids
  verdict := request.verdict

/-- One request as an atomic step. -/
def perform (s : State) (request : Request) : State × Result Answer :=
  let (session, answer) := atomically (request.call.transaction codec) (request.session s)
  (⟨session.now, session.db⟩, answer)

/-- The machine of the admission boundary. -/
def ledger : Machine State Request (Result Answer) := ⟨perform codec⟩

/-- No reservation has been made yet. -/
def initial (clock : Timestamptz) (config : Config) : State where
  clock := clock
  db := ⟨config, .empty, .empty, .empty, .empty⟩

end Asf.Reservations
