import Asf.Steps.Tables

/-!
# Adopting an ambiguous submission

`validate_exact_locks` (`src/ledger/runmill_submission_recovery_adoptions.rs`): seven
locked reads of one row each. `query_scalar::<_, T>` decodes the first column of the row
at `T`, which fails when the column is of another SQL type than `T`. For the effect, `T`
is a tuple, so the read fails whenever it finds the row.

Results:

* `validateExactLocks_eq_error`: how the call ends on rows that satisfy every predicate.
* `exact_recovery_refused`: the call returns `Ok` for no rows.
-/

namespace Asf.Dispatch

open Jobs (EffectStatus)
open Steps (WorkflowState EscalationCategory EscalationStatus)

/-! ## Rows -/

/-- A row of `runmill_submission_recovery_cases`, and the case that was read from it. -/
structure RunmillSubmissionRecoveryCase where
  (id tenantId effectIntentId workItemId attemptId workOrderId : Uuid)
  (payloadDigest requestDigest remoteIdempotencyKey : String)
  workerId : Uuid
  workerGeneration : ℤ
  workerSessionId : Uuid
  state : String

/-- The columns of `effect_intents` that the predicates read. -/
structure SubmissionIntent where
  (id tenantId : Uuid)
  (workItemId attemptId workOrderId : Option Uuid)
  workOrderDigest : Option String
  (requestDigest provider effectType : String)
  status : EffectStatus

/-- The columns of `work_orders`. -/
structure SubmittedOrder extends WorkOrder where
  idempotencyKey : String

/-- The columns of `workflow_instances`. -/
structure RecoveryWorkflow where
  (id tenantId : Uuid)
  workItemId : Option Uuid
  state : WorkflowState
  workflowType : String

/-- The columns of `escalations`. -/
structure RecoveryEscalation where
  (id tenantId workItemId : Uuid)
  attemptId : Option Uuid
  category : EscalationCategory
  status : EscalationStatus
  idempotencyKey : String
  authorityOrEffectActive : Bool

structure RecoveryDb where
  cases : List RunmillSubmissionRecoveryCase
  effects : List SubmissionIntent
  attempts : List Attempt
  workOrders : List SubmittedOrder
  sessions : List WorkerSession
  workflows : List RecoveryWorkflow
  escalations : List RecoveryEscalation

/-- The fields of an `AdoptionRequest` that the reads use, besides its case. -/
structure AdoptionRequest where
  (workflowInstanceId escalationId : Uuid)

/-! ## The reads -/

section Reads

variable (db : RecoveryDb) (case : RunmillSubmissionRecoveryCase) (request : AdoptionRequest)

def RecoveryDb.caseState : Option String :=
  (db.cases.find? fun row => row.tenantId = case.tenantId ∧ row.id = case.id).map (·.state)

def RecoveryDb.effect : Option Uuid :=
  (db.effects.find? fun row => row.tenantId = case.tenantId
    ∧ row.id = case.effectIntentId ∧ row.workItemId = some case.workItemId
    ∧ row.attemptId = some case.attemptId ∧ row.workOrderId = some case.workOrderId
    ∧ row.workOrderDigest = some case.payloadDigest
    ∧ row.requestDigest = case.requestDigest ∧ row.status = .ambiguous
    ∧ row.provider = "runmill" ∧ row.effectType = "submit_work_order").map (·.id)

def RecoveryDb.attempt : Option Uuid :=
  (db.attempts.find? fun row => row.tenantId = case.tenantId
    ∧ row.id = case.attemptId ∧ row.workItemId = case.workItemId).map (·.id)

def RecoveryDb.workOrder : Option Uuid :=
  (db.workOrders.find? fun row => row.tenantId = case.tenantId
    ∧ row.id = case.workOrderId ∧ row.workItemId = case.workItemId
    ∧ row.attemptId = case.attemptId ∧ row.payloadDigest = case.payloadDigest
    ∧ row.idempotencyKey = case.remoteIdempotencyKey).map (·.id)

def RecoveryDb.session : Option Uuid :=
  (db.sessions.find? fun row => row.tenantId = case.tenantId
    ∧ row.id = case.workerSessionId ∧ row.workerId = case.workerId
    ∧ row.workerGeneration = case.workerGeneration).map (·.id)

def RecoveryDb.workflow : Option Uuid :=
  (db.workflows.find? fun row => row.tenantId = case.tenantId
    ∧ row.id = request.workflowInstanceId ∧ row.state = .active
    ∧ row.workflowType = "WORK_ITEM_DELIVERY"
    ∧ row.workItemId = some case.workItemId).map (·.id)

def RecoveryDb.escalation : Option Uuid :=
  (db.escalations.find? fun row => row.tenantId = case.tenantId
    ∧ row.id = request.escalationId ∧ row.workItemId = case.workItemId
    ∧ row.attemptId = some case.attemptId ∧ row.category = .remoteEffectAmbiguous
    ∧ (row.status = .open ∨ row.status = .acknowledged)
    ∧ row.idempotencyKey = s!"runmill-submission-recovery:{case.effectIntentId.toText}"
    ∧ row.authorityOrEffectActive).map (·.id)

/-- The rows satisfy every predicate. -/
structure ExactRows : Prop where
  caseState : db.caseState case = some "PENDING_EXTERNAL_LOOKUP"
  effect : (db.effect case).isSome
  attempt : (db.attempt case).isSome
  workOrder : (db.workOrder case).isSome
  session : (db.session case).isSome
  workflow : (db.workflow case request).isSome
  escalation : (db.escalation case request).isSome

end Reads

/-- The SQL type of a column, and of the Rust type it is decoded at. -/
inductive SqlType where
  | uuid | text | record
deriving DecidableEq

/-- `query_scalar::<_, T>` with `fetch_optional`, where the first column is of type `column`
    and `T` of type `decoded`. `report` is what sqlx says of types that differ. -/
def queryScalar {α : Type} (report context : String) (column decoded : SqlType)
    (row : Option α) : Result (Option α) :=
  if row.isSome ∧ column ≠ decoded then .error (persistenceError context report) else .ok row

/-- A read of `id` that has to find a row. -/
def lockRow (report context conflict : String) (decoded : SqlType) (row : Option Uuid) :
    Result Unit := do
  let found ← queryScalar report context .uuid decoded row
  failIf found.isNone (.conflict conflict)

/-- `validate_exact_locks` (runmill_submission_recovery_adoptions.rs:402-585). -/
def validateExactLocks (report : String) (db : RecoveryDb)
    (case : RunmillSubmissionRecoveryCase) (request : AdoptionRequest) : Result Unit := do
  let caseState ← queryScalar report "lock case" .text .text (db.caseState case)
  failIf (caseState ≠ some "PENDING_EXTERNAL_LOOKUP")
    (.conflict "case is not in PENDING_EXTERNAL_LOOKUP state")
  -- `(Uuid, Uuid, Uuid, String, String, String, String, String)` is a record.
  lockRow report "lock effect" "effect not found or not in AMBIGUOUS state" .record (db.effect case)
  lockRow report "lock attempt" "attempt not found" .uuid (db.attempt case)
  lockRow report "lock work_order" "work_order not found" .uuid (db.workOrder case)
  lockRow report "lock worker_session" "worker_session not found" .uuid (db.session case)
  lockRow report "lock workflow_instance" "workflow_instance not found or not active" .uuid
    (db.workflow case request)
  lockRow report "lock escalation" "escalation not found or not in open/acknowledged state" .uuid
    (db.escalation case request)

/-! ## No recovery is exact -/

section Refused

variable {report context conflict : String} {row : Option Uuid} {db : RecoveryDb}
  {case : RunmillSubmissionRecoveryCase} {request : AdoptionRequest}

/-- An identifier is not decoded at a tuple. -/
theorem lockRow_record_eq (h : row.isSome) :
    lockRow report context conflict .record row = .error (persistenceError context report) := by
  simp [lockRow, queryScalar, h, Bind.bind, Except.bind]

theorem validateExactLocks_eq_error (h : ExactRows db case request) :
    validateExactLocks report db case request = .error (persistenceError "lock effect" report) := by
  rw [validateExactLocks, h.caseState, lockRow_record_eq h.effect]
  rfl

theorem lockRow_record_ne_ok : lockRow report context conflict .record row ≠ .ok () := by
  intro h
  cases row with
  | none => cases h
  | some id => cases h

/-- `validate_exact_locks` never returns `Ok`. -/
theorem exact_recovery_refused (report : String) (db : RecoveryDb)
    (case : RunmillSubmissionRecoveryCase) (request : AdoptionRequest) :
    validateExactLocks report db case request ≠ .ok () := by
  intro h
  simp only [validateExactLocks, bind_eq_ok_iff] at h
  obtain ⟨_, -, _, -, _, heffect, -⟩ := h
  exact lockRow_record_ne_ok heffect

end Refused

/-- Rows that match in everything, and what the call says of them. -/
theorem exact_recovery_not_adopted :
    let id := Uuid.ofNat 1
    let digest := "sha256:" ++ String.ofList (.replicate 64 '0')
    let case : RunmillSubmissionRecoveryCase :=
      ⟨id, id, id, id, id, id, digest, digest, "key", id, 1, id, "PENDING_EXTERNAL_LOOKUP"⟩
    let db : RecoveryDb :=
      { cases := [case]
        effects :=
          [⟨id, id, id, id, id, digest, digest, "runmill", "submit_work_order", .ambiguous⟩]
        attempts := [⟨id, id, id, .running, 1⟩]
        workOrders := [⟨⟨id, id, id, id, digest⟩, "key"⟩]
        sessions := [⟨id, id, id, 1, .active, 1⟩]
        workflows := [⟨id, id, id, .active, "WORK_ITEM_DELIVERY"⟩]
        escalations := [⟨id, id, id, id, .remoteEffectAmbiguous, .open,
          s!"runmill-submission-recovery:{id.toText}", true⟩] }
    ExactRows db case ⟨id, id⟩ ∧ validateExactLocks "mismatched types" db case ⟨id, id⟩
      = .error (.persistence "lock effect: mismatched types") := by
  intro id digest case db
  have hrows : ExactRows db case ⟨id, id⟩ := by constructor <;> decide +kernel
  exact ⟨hrows, validateExactLocks_eq_error hrows⟩

end Asf.Dispatch
