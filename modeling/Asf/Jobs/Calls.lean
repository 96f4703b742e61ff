import Asf.Jobs.Model

/-!
# What one call of the job queue does

One lemma per operation that lists everything it can do: return an error and
leave the tables alone, answer a replay, or write one row (for `claim_jobs`,
the candidate rows).

Results:

* `enqueueJob_cases`, `claimJobs_cases`, `renewJobLease_cases`,
  `completeJob_cases`, `failJob_cases`.
* `completeJob_replay`, `failJob_replay`: when the stored receipt is the one
  the arguments would leave, the call changes nothing and says so.
* `perform_of_isErr`: a call that returns an error changes nothing.
-/

namespace Asf.Jobs

open Lib (Table)

variable {tenantId jobId : Uuid} {leaseOwner : String} {job : WorkflowJob} {fenceToken : ℤ}

variable {now : Timestamptz} {verdict : Option String} {db : Db} {locked : Uuid → Bool} {limit : ℕ}

/-! ## Updates keyed by the job's identifier -/

section UpdateJobs

variable (p : WorkflowJob → Bool) (f : WorkflowJob → WorkflowJob)
  (hf : ∀ job, (f job).id = job.id) (jobId : Uuid)

theorem setJobs_eq_self (h : ∀ job ∈ db.jobs.rows, ¬ p job) : db.setJobs p f hf = db := by
  rw [Db.setJobs, Table.update_eq_self h]

/-- An update whose guard the row fails finds no row, whatever the database
    says about writes. -/
theorem updateJobs_noop (verdict : Option String) (hp : ∀ job, p job → job.id = jobId)
    (h : ∀ job, db.jobs.find? jobId = some job → ¬ p job) :
    updateJobs p f hf verdict db = .ok (db, []) := by
  have hnone : ∀ job ∈ db.jobs.rows, ¬ p job := fun job hjob hpj =>
    h job (Table.find?_eq_some_iff.mpr ⟨hjob, hp job hpj⟩) hpj
  have hrows : db.jobs.rows.filter p = [] := by
    rw [List.filter_eq_nil_iff]
    exact hnone
  unfold updateJobs
  rw [hrows, setJobs_eq_self p f hf hnone]
  cases verdict <;> simp [accept]

/-- An update of one job is rejected by the database, writes that row, or finds
    no row. -/
theorem updateJobs_cases (verdict : Option String) (db : Db) (hp : ∀ job, p job → job.id = jobId) :
    (∃ e, updateJobs p f hf verdict db = .error e) ∨
    (∃ job, db.jobs.find? jobId = some job ∧ p job ∧
      updateJobs p f hf verdict db = .ok (db.setJobs p f hf, [f job])) ∨
    updateJobs p f hf verdict db = .ok (db, []) := by
  by_cases h : ∃ job, db.jobs.find? jobId = some job ∧ p job
  · obtain ⟨job, hfind, hpj⟩ := h
    have hrows : db.jobs.rows.filter p = [job] := by
      rw [Table.filter_eq_toList jobId p hp, hfind]
      simp [Option.filter, hpj]
    unfold updateJobs
    rw [hrows]
    cases verdict with
    | none => exact .inr (.inl ⟨job, hfind, hpj, rfl⟩)
    | some e => exact .inl ⟨e, rfl⟩
  · push Not at h
    exact .inr (.inr (updateJobs_noop p f hf jobId verdict hp h))

end UpdateJobs

theorem isLiveClaim_iff :
    isLiveClaim tenantId jobId leaseOwner fenceToken now job ↔
      job.id = jobId ∧ job.tenantId = tenantId ∧ job.status = .running ∧
        job.leaseOwner = some leaseOwner ∧ job.fenceToken = fenceToken ∧
        ∃ t, job.leaseExpiresAt = some t ∧ now < t := by
  simp [isLiveClaim, Option.any_eq_true, and_assoc]

theorem id_of_isLiveClaim (job : WorkflowJob)
    (h : isLiveClaim tenantId jobId leaseOwner fenceToken now job) :
    job.id = jobId := (isLiveClaim_iff.mp h).1

theorem tenantJob_eq_some_iff :
    db.tenantJob tenantId jobId = some job ↔
      db.jobs.find? jobId = some job ∧ job.tenantId = tenantId := by
  simp [Db.tenantJob]

/-! ## `enqueue_job` -/

theorem NewWorkflowJob.maxAttempts_pos {job : NewWorkflowJob} (h : job.validate = .ok ()) :
    0 < job.maxAttempts := by
  simp only [validate, failIf_bind_eq_ok_iff, failIf_eq_ok_iff] at h
  omega

/-- An enqueue that does not insert leaves the tables alone; one that inserts
    adds a pending row under a new identifier. -/
theorem enqueueJob_cases (now : Timestamptz) (verdict : Option String) (db : Db)
    (job : NewWorkflowJob) :
    (∃ r, enqueueJob now verdict job db = (db, r) ∧ ∀ o, r = .ok o → o.inserted = false) ∨
    (∃ h : (insertedJob now job).id ∉ db.jobs.rows.map WorkflowJob.id, job.validate = .ok () ∧
      db.idempotentJob job.tenantId job.idempotencyKey = none ∧ enqueueJob now verdict job db =
        ({ db with jobs := db.jobs.insert (insertedJob now job) h },
          .ok { jobId := job.id, inserted := true })) := by
  unfold enqueueJob
  cases hv : job.validate with
  | error e => exact .inl ⟨_, rfl, by simp⟩
  | ok u =>
    unfold insertJob
    cases verdict with
    | some e => exact .inl ⟨_, rfl, by simp⟩
    | none =>
      cases hk : db.idempotentJob job.tenantId job.idempotencyKey with
      | some row =>
        simp only [hk]
        cases validateIdempotentJob row job with
        | error e => exact .inl ⟨_, rfl, by simp⟩
        | ok jobId => exact .inl ⟨_, rfl, by rintro o ⟨⟩; rfl⟩
      | none =>
        simp only
        cases hi : db.jobs.insert? (insertedJob now job) with
        | none => exact .inl ⟨_, rfl, by simp⟩
        | some jobs =>
          obtain ⟨h, rfl⟩ := Table.insert?_eq_some_iff.mp hi
          exact .inr ⟨h, trivial, trivial, rfl⟩

/-! ## `claim_jobs` -/

theorem mem_candidates (h : job ∈ candidates tenantId limit now locked db) :
    job ∈ db.jobs.rows ∧ claimable tenantId now job := by
  have h1 := List.mem_of_mem_filter (List.mem_of_mem_take h)
  rw [List.mem_insertionSort] at h1
  exact ⟨List.mem_of_mem_filter h1, List.of_mem_filter h1⟩

/-- What `claim_jobs` returns for a row that it claimed. -/
def claimReceipt (leaseOwner : String) (milliseconds : ℤ) (now : Timestamptz)
    (job : WorkflowJob) : ClaimedWorkflowJob where
  id := job.id
  tenantId := job.tenantId
  workflowInstanceId := job.workflowInstanceId
  workItemId := job.workItemId
  attemptId := job.attemptId
  jobType := job.jobType
  activityContractId := job.activityContractId
  payload := job.payload
  idempotencyKey := job.idempotencyKey
  priority := job.priority
  attemptCount := job.attemptCount + 1
  maxAttempts := job.maxAttempts
  fenceToken := job.fenceToken + 1
  leaseOwner := leaseOwner
  leaseExpiresAt := .decode (now + milliseconds * 1000)
  createdAt := .decode job.createdAt

theorem claimedJobFromRow_claimedJob (leaseOwner : String) (milliseconds : ℤ) (job : WorkflowJob) :
    claimedJobFromRow (claimedJob leaseOwner milliseconds now job) =
      .ok (claimReceipt leaseOwner milliseconds now job) := rfl

theorem mapM_claimedJobFromRow (leaseOwner : String) (milliseconds : ℤ) (jobs : List WorkflowJob) :
    (jobs.map (claimedJob leaseOwner milliseconds now)).mapM claimedJobFromRow =
      .ok (jobs.map (claimReceipt leaseOwner milliseconds now)) := by
  induction jobs with
  | nil => rfl
  | cons job jobs ih =>
    rw [List.map_cons, List.mapM_cons, ih, claimedJobFromRow_claimedJob]
    rfl

theorem accept_eq_ok {α β : Type} {written : List α} {db db' : β}
    (h : accept verdict written db = .ok db') : db' = db := by
  unfold accept at h
  split at h
  · split_ifs at h
    exact (Except.ok.inj h).symm
  · exact (Except.ok.inj h).symm

theorem claimJobsSql_eq_ok {milliseconds : ℤ} {out : Db × List WorkflowJob}
    (h : claimJobsSql tenantId limit leaseOwner milliseconds now locked verdict db = .ok out) :
    let claimed := (candidates tenantId limit now locked db).map WorkflowJob.id
    out.1.jobs = db.jobs.update (fun job => claimed.contains job.id)
        (claimedJob leaseOwner milliseconds now) (claimedJob_id leaseOwner milliseconds now) ∧
      out.2 = (db.jobs.rows.filter fun job => claimed.contains job.id).map
        (claimedJob leaseOwner milliseconds now) := by
  unfold claimJobsSql at h
  simp only at h
  split_ifs at h
  rw [accept_eq_ok h]
  exact ⟨rfl, Table.filter_update fun _ => rfl⟩

/-- A claim fails and leaves the tables alone, or claims the rows in `claimed`,
    each of which was claimable. -/
theorem claimJobs_cases (now : Timestamptz) (verdict : Option String) (db : Db)
    (locked : Uuid → Bool) (tenantId : Uuid) (leaseOwner : String)
    (limit : ℕ) (leaseDuration : Duration) :
    (∃ e, claimJobs now locked verdict tenantId leaseOwner limit leaseDuration db =
      (db, .error e)) ∨
    (∃ (milliseconds : ℤ) (claimed : List Uuid) (db' : Db),
      leaseMilliseconds leaseDuration = .ok milliseconds ∧
      (∀ job ∈ db.jobs.rows, job.id ∈ claimed → claimable tenantId now job) ∧
      db'.jobs = db.jobs.update (fun job => claimed.contains job.id)
        (claimedJob leaseOwner milliseconds now) (claimedJob_id leaseOwner milliseconds now) ∧
      claimJobs now locked verdict tenantId leaseOwner limit leaseDuration db =
        (db', .ok ((db.jobs.rows.filter fun job => claimed.contains job.id).map
          (claimReceipt leaseOwner milliseconds now)))) := by
  unfold claimJobs
  cases validateClaimRequest leaseOwner limit leaseDuration with
  | error e => exact .inl ⟨e, rfl⟩
  | ok u =>
    cases leaseMilliseconds leaseDuration with
    | error e => exact .inl ⟨e, rfl⟩
    | ok milliseconds =>
      simp only
      cases hsql : claimJobsSql tenantId limit leaseOwner milliseconds now locked verdict db with
      | error e => exact .inl ⟨_, rfl⟩
      | ok out =>
        obtain ⟨db', rows⟩ := out
        obtain ⟨hjobs, hrows⟩ := claimJobsSql_eq_ok hsql
        refine .inr ⟨milliseconds, _, db', rfl, ?_, hjobs, ?_⟩
        · intro job hjob hmem
          obtain ⟨job', hc, hid⟩ := List.mem_map.mp hmem
          obtain ⟨hrow, hclaim⟩ := mem_candidates hc
          rwa [← Table.eq_of_key_eq hrow hjob hid]
        · simp only at hrows
          rw [hrows, ← mapM_claimedJobFromRow]

/-! ## The calls of a claim's holder -/

section Holder

variable (now : Timestamptz) (verdict : Option String) (db : Db) (tenantId jobId : Uuid)
  (leaseOwner : String) (fenceToken : ℤ)

/-- A renewal fails and leaves the tables alone, or extends the live claim of
    this owner and fence. -/
theorem renewJobLease_cases (leaseDuration : Duration) :
    (∃ e, renewJobLease now verdict tenantId jobId leaseOwner fenceToken leaseDuration db =
      (db, .error e)) ∨
    (∃ milliseconds job, db.jobs.find? jobId = some job ∧
      isLiveClaim tenantId jobId leaseOwner fenceToken now job ∧
      renewJobLease now verdict tenantId jobId leaseOwner fenceToken leaseDuration db =
        (db.setJobs (isLiveClaim tenantId jobId leaseOwner fenceToken now)
            (renewedJob milliseconds now) (renewedJob_id milliseconds now),
          .ok (.decode (now + milliseconds * 1000)))) := by
  unfold renewJobLease
  cases validateClaimRequest leaseOwner 1 leaseDuration with
  | error e => exact .inl ⟨e, rfl⟩
  | ok u =>
    simp only
    split_ifs
    · exact .inl ⟨_, rfl⟩
    · cases leaseMilliseconds leaseDuration with
      | error e => exact .inl ⟨e, rfl⟩
      | ok milliseconds =>
        simp only
        obtain ⟨e, h⟩ | ⟨job, hfind, hlive, h⟩ | h :=
          updateJobs_cases (isLiveClaim tenantId jobId leaseOwner fenceToken now)
            _ (renewedJob_id milliseconds now) jobId verdict db id_of_isLiveClaim
        · exact .inl ⟨_, by rw [h]⟩
        · exact .inr ⟨milliseconds, job, hfind, hlive, by rw [h]; rfl⟩
        · exact .inl ⟨_, by rw [h]⟩

/-- A completion fails and leaves the tables alone, completes the live claim of
    this owner and fence, or finds the completion it asks for. -/
theorem completeJob_cases (result : Option Json) :
    (∃ e, completeJob now verdict tenantId jobId leaseOwner fenceToken result db = (db, .error e)) ∨
    (∃ job, db.jobs.find? jobId = some job ∧
      isLiveClaim tenantId jobId leaseOwner fenceToken now job ∧
      validateJobMutation leaseOwner fenceToken = .ok () ∧
      completeJob now verdict tenantId jobId leaseOwner fenceToken result db =
        (db.setJobs (isLiveClaim tenantId jobId leaseOwner fenceToken now)
          (completedJob leaseOwner fenceToken result now)
          (completedJob_id leaseOwner fenceToken result now), .ok .completed)) ∨
    (∃ job, db.jobs.find? jobId = some job ∧ job.status = .completed ∧
      job.completedBy = some leaseOwner ∧ job.completionFenceToken = some fenceToken ∧
      completeJob now verdict tenantId jobId leaseOwner fenceToken result db =
        (db, .ok .alreadyCompleted)) := by
  unfold completeJob
  cases validateJobMutation leaseOwner fenceToken with
  | error e => exact .inl ⟨e, rfl⟩
  | ok u =>
    simp only
    obtain ⟨e, h⟩ | ⟨job, hfind, hlive, h⟩ | h :=
      updateJobs_cases (isLiveClaim tenantId jobId leaseOwner fenceToken now) _
        (completedJob_id leaseOwner fenceToken result now) jobId verdict db id_of_isLiveClaim
    · exact .inl ⟨_, by rw [h]⟩
    · exact .inr (.inl ⟨job, hfind, hlive, trivial, by rw [h]; rfl⟩)
    · rw [h]
      simp only [List.length_nil, zero_ne_one, if_false]
      cases htenant : db.tenantJob tenantId jobId with
      | none => exact .inl ⟨_, rfl⟩
      | some row =>
        simp only
        split_ifs with hdone hres
        · exact .inl ⟨_, rfl⟩
        · exact .inr (.inr ⟨row, (tenantJob_eq_some_iff.mp htenant).1, hdone.1, hdone.2.1,
            hdone.2.2, rfl⟩)
        · exact .inl ⟨_, rfl⟩

/-- A failure is refused and leaves the tables alone, is recorded for the live
    claim of this owner and fence, or is found as recorded. -/
theorem failJob_cases (error : String) (retryAt : DateTime) :
    (∃ e, failJob now verdict tenantId jobId leaseOwner fenceToken error retryAt db =
      (db, .error e)) ∨
    (∃ job, db.jobs.find? jobId = some job ∧
      isFailable tenantId jobId leaseOwner fenceToken now job ∧
      validateJobMutation leaseOwner fenceToken = .ok () ∧
      failJob now verdict tenantId jobId leaseOwner fenceToken error retryAt db =
        (db.setJobs (isFailable tenantId jobId leaseOwner fenceToken now)
          (failedJob leaseOwner fenceToken (summarizeError error) retryAt.encode now)
          (failedJob_id leaseOwner fenceToken (summarizeError error) retryAt.encode now),
          .ok ⟨.retryScheduled, true⟩)) ∨
    (∃ disposition, failJob now verdict tenantId jobId leaseOwner fenceToken error retryAt db =
      (db, .ok ⟨disposition, false⟩)) := by
  unfold failJob
  cases validateJobMutation leaseOwner fenceToken with
  | error e => exact .inl ⟨e, rfl⟩
  | ok u =>
    simp only
    obtain ⟨e, h⟩ | ⟨job, hfind, hfail, h⟩ | h :=
      updateJobs_cases (isFailable tenantId jobId leaseOwner fenceToken now) _
        (failedJob_id leaseOwner fenceToken (summarizeError error) retryAt.encode now) jobId
        verdict db (fun job h => id_of_isLiveClaim job (Bool.and_elim_left h))
    all_goals rw [h]
    · exact .inl ⟨_, rfl⟩
    · exact .inr (.inl ⟨job, hfind, hfail, trivial, rfl⟩)
    · simp only
      cases db.tenantJob tenantId jobId with
      | none => exact .inl ⟨_, rfl⟩
      | some row =>
        simp only
        split_ifs
        · exact .inl ⟨_, rfl⟩
        · exact .inl ⟨_, rfl⟩
        · exact .inr (.inr ⟨_, rfl⟩)
        · exact .inr (.inr ⟨_, rfl⟩)
        · exact .inl ⟨_, rfl⟩

end Holder

/-! ## Replays -/

section

variable (hv : validateJobMutation leaseOwner fenceToken = .ok ())

include hv

/-- Repeating a completion that the row records. -/
theorem completeJob_replay {result : Option Json}
    (hfind : db.jobs.find? jobId = some job) (htenant : job.tenantId = tenantId)
    (hstatus : job.status = .completed) (hby : job.completedBy = some leaseOwner)
    (hfence : job.completionFenceToken = some fenceToken) (hresult : job.result = result) :
    completeJob now verdict tenantId jobId leaseOwner fenceToken result db =
      (db, .ok .alreadyCompleted) := by
  have hnoop := updateJobs_noop (isLiveClaim tenantId jobId leaseOwner fenceToken now) _
    (completedJob_id leaseOwner fenceToken result now) jobId verdict id_of_isLiveClaim (by
      intro row hrow hlive
      rw [hfind, Option.some.injEq] at hrow
      have := (isLiveClaim_iff.mp hlive).2.2.1
      rw [← hrow, hstatus] at this
      cases this)
  have hmatch : resultMatches job.result result = true := by
    subst hresult
    cases job.result <;> simp [resultMatches]
  unfold completeJob
  rw [hv, hnoop]
  simp only [List.length_nil, zero_ne_one, if_false]
  rw [tenantJob_eq_some_iff.mpr ⟨hfind, htenant⟩]
  simp [hstatus, hby, hfence, hmatch]

/-- Repeating the failure that the row records, once the row no longer runs
    under that fence. -/
theorem failJob_replay (now : Timestamptz) (verdict : Option String) {error : String}
    {retryAt : DateTime}
    (hfind : db.jobs.find? jobId = some job) (htenant : job.tenantId = tenantId)
    (hover : ¬ (job.status = .running ∧ job.fenceToken = fenceToken))
    (hby : job.lastFailureBy = some leaseOwner)
    (hfence : job.lastFailureFenceToken = some fenceToken)
    (herror : job.lastError = some (summarizeError error))
    (hretry : job.lastFailureRetryAt = some retryAt.encode) :
    ∃ disposition, failJob now verdict tenantId jobId leaseOwner fenceToken error retryAt db =
      (db, .ok ⟨disposition, false⟩) := by
  have hnoop := updateJobs_noop (isFailable tenantId jobId leaseOwner fenceToken now) _
    (failedJob_id leaseOwner fenceToken (summarizeError error) retryAt.encode now) jobId
    verdict (fun job h => id_of_isLiveClaim job (Bool.and_elim_left h)) (by
      intro row hrow hfail
      rw [hfind, Option.some.injEq] at hrow
      have hlive := isLiveClaim_iff.mp (Bool.and_elim_left hfail)
      exact hover (hrow ▸ ⟨hlive.2.2.1, hlive.2.2.2.2.1⟩))
  unfold failJob
  rw [hv]
  simp only
  rw [hnoop]
  simp only
  rw [tenantJob_eq_some_iff.mpr ⟨hfind, htenant⟩]
  simp only
  rw [if_neg (fun h => hover ⟨h.1, h.2.2.2.1⟩), if_pos ⟨hby, hfence⟩,
    if_neg (by simp [herror, hretry])]
  exact ⟨_, rfl⟩

end

/-! ## Errors -/

/-- The answer is an `Err`. -/
def Answer.isErr : Answer → Bool
  | .enqueue r => !r.toBool
  | .claim r => !r.toBool
  | .renew r => !r.toBool
  | .complete r => !r.toBool
  | .fail r => !r.toBool

/-- The columns that the request wrote and no call rewrites. -/
def WorkflowJob.origin (row : WorkflowJob) :=
  (row.id, row.tenantId, row.workflowInstanceId, row.workItemId, row.attemptId, row.jobType,
    row.activityContractId, row.payload, row.idempotencyKey, row.priority, row.maxAttempts)

/-- What a call does to the jobs: nothing, or it succeeds and inserts or rewrites rows. -/
theorem perform_cases (now : Timestamptz) (verdict : Option String) (call : Call) (db : Db) :
    (perform now verdict call db).1 = db ∨ (perform now verdict call db).2.isErr = false ∧
      ((∃ job h, (perform now verdict call db).1.jobs = db.jobs.insert (insertedJob now job) h) ∨
      ∃ (p : WorkflowJob → Bool) (f : WorkflowJob → WorkflowJob),
        (perform now verdict call db).1.jobs.rows
          = db.jobs.rows.map (fun row => if p row then f row else row)
        ∧ ∀ row, (f row).origin = row.origin) := by
  cases call with
  | enqueue job =>
    obtain ⟨r, hr, -⟩ | ⟨hid, -, -, hr⟩ := enqueueJob_cases now verdict db job <;>
      simp only [perform, hr, Prod.map, id]
    · exact .inl trivial
    · exact .inr ⟨rfl, .inl ⟨job, hid, rfl⟩⟩
  | claim tenantId leaseOwner limit leaseDuration locked =>
    obtain ⟨e, hr⟩ | ⟨ms, claimed, db', -, -, hjobs, hr⟩ := claimJobs_cases now verdict db
      locked tenantId leaseOwner limit leaseDuration <;> simp only [perform, hr, Prod.map, id]
    · exact .inl trivial
    · exact .inr ⟨rfl, .inr ⟨_, _, congrArg Table.rows hjobs, fun _ => rfl⟩⟩
  | renew tenantId jobId leaseOwner fenceToken leaseDuration =>
    obtain ⟨e, hr⟩ | ⟨ms, job, -, -, hr⟩ := renewJobLease_cases now verdict db
      tenantId jobId leaseOwner fenceToken leaseDuration <;> simp only [perform, hr, Prod.map, id]
    · exact .inl trivial
    · exact .inr ⟨rfl, .inr ⟨_, _, rfl, fun _ => rfl⟩⟩
  | complete tenantId jobId leaseOwner fenceToken result =>
    obtain ⟨e, hr⟩ | ⟨job, -, -, -, hr⟩ | ⟨job, -, -, -, -, hr⟩ := completeJob_cases now verdict db
      tenantId jobId leaseOwner fenceToken result <;> simp only [perform, hr, Prod.map, id]
    · exact .inl trivial
    · exact .inr ⟨rfl, .inr ⟨_, _, rfl, fun _ => rfl⟩⟩
    · exact .inl trivial
  | fail tenantId jobId leaseOwner fenceToken error retryAt =>
    obtain ⟨e, hr⟩ | ⟨job, -, -, -, hr⟩ | ⟨d, hr⟩ := failJob_cases now verdict db
      tenantId jobId leaseOwner fenceToken error retryAt <;> simp only [perform, hr, Prod.map, id]
    · exact .inl trivial
    · exact .inr ⟨rfl, .inr ⟨_, _, rfl, fun _ => rfl⟩⟩
    · exact .inl trivial

/-- **Errors.** A call that returns `Err` changes nothing. -/
theorem perform_of_isErr (call : Call) (h : (perform now verdict call db).2.isErr) :
    (perform now verdict call db).1 = db := by
  obtain heq | ⟨hok, -⟩ := perform_cases now verdict call db
  · exact heq
  · simp [hok] at h

end Asf.Jobs
