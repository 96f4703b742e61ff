import Asf.Jobs.Calls

/-!
# Enqueueing a job again

An enqueue under a key that a row already has compares the request with the row. The row
keeps what the request wrote, with one exception: `fail_job` moves `available_at`.

Result:

* `enqueue_repeated_iff`: a repeated enqueue is answered with the first job exactly if the
  row still has the `available_at` of the request.
-/

namespace Asf.Jobs

open Lib

section Created

variable {job : NewWorkflowJob} {db : Db}

/-- The key of the request names a row that has what the request wrote. -/
def Created (job : NewWorkflowJob) (db : Db) : Prop :=
  ∃ row, db.idempotentJob job.tenantId job.idempotencyKey = some row
    ∧ row.origin = (insertedJob 0 job).origin

/-- No call undoes what the request wrote. -/
theorem Created.perform (h : Created job db) (now : Timestamptz) (verdict : Option String)
    (call : Call) : Created job (perform now verdict call db).1 := by
  obtain ⟨row, hrow, horigin⟩ := h
  rw [Db.idempotentJob] at hrow
  obtain heq | ⟨-, ⟨other, hid, hjobs⟩ | ⟨p, f, hrows, hf⟩⟩ := perform_cases now verdict call db
  · rw [heq]
    exact ⟨row, hrow, horigin⟩
  · refine ⟨row, ?_, horigin⟩
    rw [Db.idempotentJob, hjobs, Table.rows_insert, List.find?_append, hrow, Option.some_or]
  · -- the search finds the row at the same place, since its key is not rewritten
    have hkey : ((fun row : WorkflowJob => row.tenantId == job.tenantId
        && row.idempotencyKey == job.idempotencyKey) ∘ fun row => if p row then f row else row)
        = fun row => row.tenantId == job.tenantId && row.idempotencyKey == job.idempotencyKey := by
      funext row
      have hcolumns := hf row
      simp only [WorkflowJob.origin, Prod.mk.injEq] at hcolumns
      simp only [Function.comp_apply]
      split
      · rw [hcolumns.2.1, hcolumns.2.2.2.2.2.2.2.2.1]
      · rfl
    refine ⟨if p row then f row else row, ?_, ?_⟩
    · rw [Db.idempotentJob, hrows, List.find?_map, hkey, hrow, Option.map_some]
    · split
      · rw [hf, horigin]
      · exact horigin

theorem Created.of_inserted {now : Timestamptz} {verdict : Option String}
    (h : (enqueueJob now verdict job db).2 = .ok ⟨job.id, true⟩) :
    job.validate = .ok () ∧ Created job (enqueueJob now verdict job db).1 := by
  obtain ⟨r, hr, hfalse⟩ | ⟨hid, hvalid, hnone, hr⟩ := enqueueJob_cases now verdict db job
  · rw [hr] at h
    simpa using hfalse _ h
  · rw [Db.idempotentJob] at hnone
    refine ⟨hvalid, insertedJob now job, ?_, rfl⟩
    simp [hr, Db.idempotentJob, List.find?_append, hnone, insertedJob]

/-- The answer to the request once its row is there. -/
theorem Created.enqueueJob_eq (h : Created job db) (hvalid : job.validate = .ok ())
    (now : Timestamptz) : ∃ row, db.jobs.find? job.id = some row
      ∧ enqueueJob now none job db = (db, if row.availableAt = job.availableAt.encode
        then .ok ⟨job.id, false⟩ else .error (.conflict
          s!"workflow job idempotency key {job.idempotencyKey} was reused for a different request"))
      := by
  obtain ⟨row, hrow, horigin⟩ := h
  have hmem : row ∈ db.jobs.rows := List.mem_of_find?_eq_some hrow
  simp only [WorkflowJob.origin, insertedJob, Prod.mk.injEq] at horigin
  have hmatches : requestMatches row job ↔ row.availableAt = job.availableAt.encode := by
    simp [requestMatches, horigin]
  refine ⟨row, horigin.1 ▸ Table.find?_key_of_mem hmem, ?_⟩
  simp only [enqueueJob, hvalid, insertJob, hrow, validateIdempotentJob, hmatches, horigin.1]
  split_ifs <;> rfl

/-- A repeated enqueue is answered with the first job exactly if no failure has moved the
    `available_at` of its row. -/
theorem enqueue_repeated_iff (s : State) (job : NewWorkflowJob) (r again : Request)
    (later : List Request) (hcall : r.call = .enqueue job)
    (hcreated : ledger.answer s r = .enqueue (.ok ⟨job.id, true⟩))
    (hagain : again.call = .enqueue job) (hverdict : again.verdict = none) :
    let found := ledger.run (ledger.next s r) later
    ledger.answer found again = .enqueue (.ok ⟨job.id, false⟩)
        ∧ (ledger.next found again).db = found.db
      ↔ ∃ row, found.db.jobs.find? job.id = some row
        ∧ row.availableAt = job.availableAt.encode := by
  intro found
  simp only [ledger_answer, hcall, perform, Prod.map, id, Answer.enqueue.injEq] at hcreated
  obtain ⟨hvalid, hinserted⟩ := Created.of_inserted hcreated
  have hfound : Created job found.db := ledger.run_invariant (P := fun s => Created job s.db)
    (fun s r h => h.perform _ _ _) (by simpa [hcall, perform] using hinserted) later
  obtain ⟨row, hrow, henqueue⟩ := hfound.enqueueJob_eq hvalid (found.clock + again.elapsed)
  simp only [ledger_answer, ledger_next_db, hagain, hverdict, perform, henqueue, hrow]
  split_ifs with hsame <;> simp [hsame]

end Created

/-! ## A job that is tried again -/

namespace Sample

def job : NewWorkflowJob where
  id := .ofNat 1
  tenantId := .ofNat 2
  workflowInstanceId := none
  workItemId := none
  attemptId := none
  jobType := "janitor"
  activityContractId := "asf.janitor.v1"
  payload := .obj []
  idempotencyKey := "janitor:1"
  priority := 0
  availableAt := ⟨0⟩
  maxAttempts := 3

def request (call : Call) : Request := ⟨1, none, call⟩

def empty : State := initial 0 .empty

def enqueue : Request := request (.enqueue job)

/-- Nothing happened to the job in between. -/
theorem enqueue_repeated_at_once :
    ledger.answer (ledger.next empty enqueue) enqueue = .enqueue (.ok ⟨job.id, false⟩) :=
  ((enqueue_repeated_iff empty job enqueue enqueue [] rfl (by decide +kernel) rfl rfl).mpr
    ⟨insertedJob 1 job, by decide +kernel, rfl⟩).1

/-- The job is claimed and fails, and the failure asks for a retry after a millisecond. -/
def attempt : List Request :=
  [request (.claim job.tenantId "worker" 1 ⟨1000000000⟩ fun _ => false),
    request (.fail job.tenantId job.id "worker" 1 "timeout" ⟨1000000⟩)]

/-- The job waits for its retry, and its request is taken for another one. -/
theorem enqueue_refused_after_failure :
    let retried := ledger.run (ledger.next empty enqueue) attempt
    ledger.answer empty enqueue = .enqueue (.ok ⟨job.id, true⟩)
      ∧ retried.db.jobs.rows.map (·.status) = [.retry]
      ∧ ledger.answer retried enqueue = .enqueue (.error (.conflict
          "workflow job idempotency key janitor:1 was reused for a different request")) := by
  decide +kernel

end Sample

end Asf.Jobs
