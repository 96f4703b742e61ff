import Asf.Common.Domain
import Mathlib.Data.List.Sort

/-!
# Admission and transition requests (`src/ledger/reservations.rs`)

The budget dimensions, the two kinds of requests with their validation, the
receipts, and the text of every resource key and idempotency key the ledger
builds.
-/

namespace Asf.Reservations

/-! ## Constants -/

/-- `MAX_SAFE_TEXT_BYTES`. -/
def maxSafeTextBytes : ℕ := 512

/-- `MAX_EXPIRY_SWEEP_BATCH_SIZE`. -/
def maxExpirySweepBatchSize : ℕ := 1000

/-- `ACQUISITION_REASON`. -/
def acquisitionReason : String := "atomic admission acquired"

/-- `EXPIRY_SWEEP_REASON`. -/
def expirySweepReason : String := "reservation TTL elapsed"

/-- `INTERNAL_IDEMPOTENCY_NAMESPACE_PREFIX`. -/
def internalIdempotencyNamespacePrefix : String := "asf-internal:"

/-- `EXPIRY_SWEEP_IDEMPOTENCY_PREFIX`. -/
def expirySweepIdempotencyPrefix : String := "asf-internal:reservation-expiry:v1:"

/-- `WORK_CLOSURE_IDEMPOTENCY_PREFIX`. -/
def workClosureIdempotencyPrefix : String := "work-closure:v1:"

/-- `RUNMILL_CANCELLATION_IDEMPOTENCY_PREFIX`. -/
def runmillCancellationIdempotencyPrefix : String := "runmill-cancellation:v1:"

/-! ## Budget dimensions -/

/-- `ReservationBudgetDimension` (lines 27-36). -/
inductive ReservationBudgetDimension where
  | costMicrounits | inputTokens | outputTokens | implementerInvocations | reviewerInvocations
  | fixIterations | wallTimeSeconds | externalApiCalls
deriving DecidableEq, Repr

namespace ReservationBudgetDimension

/-- `ReservationBudgetDimension::ALL`. -/
def all : List ReservationBudgetDimension :=
  [.costMicrounits, .inputTokens, .outputTokens, .implementerInvocations, .reviewerInvocations,
    .fixIterations, .wallTimeSeconds, .externalApiCalls]

/-- `database_value`. -/
def databaseValue : ReservationBudgetDimension → String
  | .costMicrounits => "COST_MICROUNITS"
  | .inputTokens => "INPUT_TOKENS"
  | .outputTokens => "OUTPUT_TOKENS"
  | .implementerInvocations => "IMPLEMENTER_INVOCATIONS"
  | .reviewerInvocations => "REVIEWER_INVOCATIONS"
  | .fixIterations => "FIX_ITERATIONS"
  | .wallTimeSeconds => "WALL_TIME_SECONDS"
  | .externalApiCalls => "EXTERNAL_API_CALLS"

/-- `unit`. -/
def unit : ReservationBudgetDimension → String
  | .costMicrounits => "microunits"
  | .inputTokens | .outputTokens => "tokens"
  | .implementerInvocations | .reviewerInvocations => "invocations"
  | .fixIterations => "iterations"
  | .wallTimeSeconds => "seconds"
  | .externalApiCalls => "calls"

theorem mem_all (d : ReservationBudgetDimension) : d ∈ all := by
  cases d <;> decide

end ReservationBudgetDimension

/-- `BudgetReservationAmounts` (lines 77-86). -/
structure BudgetReservationAmounts where
  (costMicrounits inputTokens outputTokens implementerInvocations reviewerInvocations : ℕ)
  (fixIterations wallTimeSeconds externalApiCalls : ℕ)
deriving DecidableEq

variable (budget : BudgetReservationAmounts) (label value : String)

/-- `BudgetReservationAmounts::amount` (lines 89-102). -/
def BudgetReservationAmounts.amount :
    ReservationBudgetDimension → ℕ
  | .costMicrounits => budget.costMicrounits
  | .inputTokens => budget.inputTokens
  | .outputTokens => budget.outputTokens
  | .implementerInvocations => budget.implementerInvocations
  | .reviewerInvocations => budget.reviewerInvocations
  | .fixIterations => budget.fixIterations
  | .wallTimeSeconds => budget.wallTimeSeconds
  | .externalApiCalls => budget.externalApiCalls

/-- `BudgetReservationAmounts::validate` (lines 104-114). -/
def BudgetReservationAmounts.validate : Result Unit :=
  ReservationBudgetDimension.all.forM fun dimension =>
    failIf (i64Max < budget.amount dimension)
      (.validation <| s!"budget reservation for {dimension.databaseValue} "
        ++ "exceeds PostgreSQL bigint capacity")

/-- `budget_limit` (lines 2050-2063). -/
def budgetLimit (limits : BudgetLimits) : ReservationBudgetDimension → ℕ
  | .costMicrounits => limits.maxCostMicrounits
  | .inputTokens => limits.maxInputTokens
  | .outputTokens => limits.maxOutputTokens
  | .implementerInvocations => limits.maxImplementerInvocations
  | .reviewerInvocations => limits.maxReviewerInvocations
  | .fixIterations => limits.maxFixIterations
  | .wallTimeSeconds => limits.maxWallTimeSeconds
  | .externalApiCalls => limits.maxExternalApiCalls

/-! ## Requests -/

/-- `IdentityCapacityRequest` (lines 119-123). -/
structure IdentityCapacityRequest where
  profileRef : CtxlaneProfileRef
  (units expectedGeneration : ℕ)
deriving DecidableEq

/-- `AdmissionReservationRequest` (lines 127-144). -/
structure AdmissionReservationRequest where
  (reservationSetId tenantId workItemId attemptId repositoryId : Uuid)
  expectedRepositoryGeneration : ℕ
  (workerId workerSessionId : Uuid)
  expectedWorkerGeneration : ℕ
  identities : List IdentityCapacityRequest
  budget : BudgetReservationAmounts
  expiresAt : DateTime
  (actorId idempotencyKey : String)
deriving DecidableEq

/-- `ReservationTransitionRequest` (lines 183-190). -/
structure ReservationTransitionRequest where
  (tenantId reservationSetId : Uuid)
  expectedFenceToken : ℕ
  (actorId reason idempotencyKey : String)
deriving DecidableEq

/-- `AdmissionDisposition` (lines 147-150). -/
inductive AdmissionDisposition where
  | acquired | adopted
deriving DecidableEq, Repr

/-- `ReservationKind` (lines 153-158). -/
inductive ReservationKind where
  | repositoryWip | workerSlot | identityCapacity | budget
deriving DecidableEq, Repr

/-- `reservation_kind_value` (lines 2065-2072). -/
def reservationKindValue : ReservationKind → String
  | .repositoryWip => "REPOSITORY_WIP"
  | .workerSlot => "WORKER_SLOT"
  | .identityCapacity => "IDENTITY_CAPACITY"
  | .budget => "BUDGET"

/-- `ReservedResource` (lines 161-168). -/
structure ReservedResource where
  id : Uuid
  kind : ReservationKind
  resourceKey : String
  budgetDimension : Option ReservationBudgetDimension
  (units resourceGeneration : ℕ)
deriving DecidableEq

/-- `AdmissionReservationReceipt` (lines 171-180). -/
structure AdmissionReservationReceipt where
  reservationSetId : Uuid
  disposition : AdmissionDisposition
  requestDigest : String
  fenceToken : ℕ
  (acquiredAt expiresAt : DateTime)
  acquisitionEventId : Uuid
  resources : List ReservedResource
deriving DecidableEq

/-- `ReservationTerminalState` (lines 193-196). -/
inductive ReservationTerminalState where
  | released | expired
deriving DecidableEq, Repr

/-- `ReservationTransitionDisposition` (lines 241-244). -/
inductive ReservationTransitionDisposition where
  | applied | adopted
deriving DecidableEq, Repr

/-- `ReservationTransitionReceipt` (lines 247-258). -/
structure ReservationTransitionReceipt where
  reservationSetId : Uuid
  state : ReservationTerminalState
  disposition : ReservationTransitionDisposition
  (previousFenceToken fenceToken : ℕ)
  (actorId reason idempotencyKey : String)
  eventId : Uuid
  occurredAt : DateTime
deriving DecidableEq

/-! ## Keys -/

/-- `repository_resource_key` (lines 2031-2033). -/
def repositoryResourceKey (repositoryId : Uuid) : String := s!"repository:{repositoryId}"

/-- `worker_resource_key` (lines 2035-2037). -/
def workerResourceKey (workerId : Uuid) : String := s!"worker:{workerId}"

/-- The key of the identity with that profile text. -/
def profileResourceKey (profileRef : String) : String := s!"identity:{profileRef}"

/-- `identity_resource_key` (lines 2039-2041). -/
def identityResourceKey (profileRef : CtxlaneProfileRef) : String :=
  profileResourceKey profileRef.value

/-- `budget_resource_key` (lines 2043-2048). -/
def budgetResourceKey (workItemId : Uuid) (dimension : ReservationBudgetDimension) : String :=
  s!"budget:work-item:{workItemId}:{dimension.databaseValue}"

/-- `expiry_sweep_idempotency_key` (lines 2165-2167). -/
def expirySweepIdempotencyKey (reservationSetId : Uuid) (currentFence : ℤ) : String :=
  s!"{expirySweepIdempotencyPrefix}{reservationSetId}:fence:{currentFence}"

/-- `AttemptReservationReleaseNamespace` (lines 204-207). -/
inductive AttemptReservationReleaseNamespace where
  | workClosure
  | runmillCancellation (terminalReceiptId : Uuid)
deriving DecidableEq

namespace AttemptReservationReleaseNamespace

/-- `prefix` (lines 210-215). -/
def namespacePrefix : AttemptReservationReleaseNamespace → String
  | .workClosure => "work-closure"
  | .runmillCancellation _ => "runmill-cancellation"

/-- `cancellation_terminal_receipt_id` (lines 217-224). -/
def cancellationTerminalReceiptId : AttemptReservationReleaseNamespace → Option Uuid
  | .workClosure => none
  | .runmillCancellation terminalReceiptId => some terminalReceiptId

/-- `idempotency_key` (lines 226-237). -/
def idempotencyKey (ns : AttemptReservationReleaseNamespace)
    (workItemId attemptId reservationSetId : Uuid) (currentFence : ℤ) : String :=
  s!"{ns.namespacePrefix}:v1:{workItemId}:{attemptId}:{reservationSetId}:fence:{currentFence}"

end AttemptReservationReleaseNamespace

/-- The key of a worker release (lines 1721-1733). -/
def workerRevocationIdempotencyKey (workerSessionId : Option Uuid) (reservationSetId : Uuid)
    (currentFence : ℤ) : String :=
  let sessionComponent := (workerSessionId.map toString).getD "legacy"
  s!"worker-session-revocation:v1:{sessionComponent}:{reservationSetId}:fence:{currentFence}"

/-! ## Validation -/

/-- `char::is_control`. -/
def isControl (c : Char) : Bool := c.toNat < 32 || (127 ≤ c.toNat && c.toNat < 160)

/-- `validate_safe_text` (lines 2135-2146). -/
def validateSafeText : Result Unit :=
  failIf (value.isEmpty ∨ maxSafeTextBytes < (bytes value).length ∨ trim value ≠ value
      ∨ value.toList.any isControl)
    (.validation <|
      s!"{label} must be non-empty, bounded, trimmed, and contain no control characters")

/-- `str::starts_with`. -/
def startsWith (value start : String) : Bool := start.toList.isPrefixOf value.toList

theorem startsWith_append (start rest : String) : startsWith (start ++ rest) start := by
  rw [startsWith, String.toList_append, List.isPrefixOf_iff_prefix]
  exact ⟨_, rfl⟩

/-- A text that differs from `start` in some position of its fixed part. -/
theorem startsWith_append_eq_false {text start : String}
    (h : (text.toList.zip start.toList).any fun pair => pair.1 != pair.2) (rest : String) :
    startsWith (text ++ rest) start = false := by
  rw [startsWith, String.toList_append]
  generalize text.toList = l at h
  generalize start.toList = m at h
  induction l generalizing m with
  | nil => simp at h
  | cons c l ih =>
    cases m with
    | nil => simp at h
    | cons d m =>
      simp only [List.zip_cons_cons, List.any_cons, Bool.or_eq_true, bne_iff_ne] at h
      rw [List.cons_append, List.isPrefixOf_cons_cons]
      rcases h with hne | h
      · rw [beq_eq_false_iff_ne.mpr (Ne.symm hne), Bool.false_and]
      · rw [ih m h, Bool.and_false]

/-- `validate_external_idempotency_key` (lines 2148-2163). -/
def validateExternalIdempotencyKey : Result Unit := do
  validateSafeText label value
  failIf ([internalIdempotencyNamespacePrefix, workClosureIdempotencyPrefix,
      runmillCancellationIdempotencyPrefix].any (startsWith value))
    (.validation s!"{label} uses the reserved ASF internal namespace")

/-- `identities.sort_by(…profile_ref.cmp(…))`. -/
def sortIdentities (identities : List IdentityCapacityRequest) : List IdentityCapacityRequest :=
  identities.insertionSort fun left right => left.profileRef.value ≤ right.profileRef.value

/-- The loop over the sorted identities (lines 307-321); `seen` is the
    set it fills. -/
def validateIdentities : List CtxlaneProfileRef → List IdentityCapacityRequest → Result Unit
  | _, [] => .ok ()
  | seen, identity :: rest => do
    failIf (identity.units = 0 ∨ identity.expectedGeneration = 0)
      (.validation "identity reservation units and generation must be positive")
    failIf (identity.profileRef ∈ seen)
      (.validation s!"identity profile {identity.profileRef} occurs more than once in admission")
    validateIdentities (identity.profileRef :: seen) rest

/-- `AdmissionReservationRequest::validate` (lines 277-323). -/
def AdmissionReservationRequest.validate (request : AdmissionReservationRequest) :
    Result (List IdentityCapacityRequest) := do
  [("reservation set", request.reservationSetId), ("tenant", request.tenantId),
    ("work item", request.workItemId), ("attempt", request.attemptId),
    ("repository", request.repositoryId), ("worker", request.workerId),
    ("worker session", request.workerSessionId)].forM fun (label, id) =>
      failIf id.isNil (.validation s!"admission reservation {label} ID must be non-nil")
  failIf (request.expectedRepositoryGeneration = 0 ∨ request.expectedWorkerGeneration = 0)
    (.validation "admission resource generations must be positive")
  validateSafeText "admission actor" request.actorId
  validateExternalIdempotencyKey "admission idempotency key" request.idempotencyKey
  request.budget.validate
  failIf (request.identities = [])
    (.validation "admission must reserve every required identity profile")
  let identities := sortIdentities request.identities
  validateIdentities [] identities
  return identities

/-- `ReservationTransitionRequest::validate` (lines 345-362). -/
def ReservationTransitionRequest.validate (request : ReservationTransitionRequest) :
    Result Unit := do
  failIf (request.tenantId.isNil ∨ request.reservationSetId.isNil)
    (.validation "reservation transition IDs must be non-nil")
  failIf (request.expectedFenceToken = 0)
    (.validation "reservation transition fence must be positive")
  validateSafeText "reservation transition actor" request.actorId
  validateSafeText "reservation transition reason" request.reason
  validateExternalIdempotencyKey "reservation transition idempotency key" request.idempotencyKey

end Asf.Reservations
