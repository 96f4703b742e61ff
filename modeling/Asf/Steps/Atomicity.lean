import Asf.Steps.Repeats

/-!
# Atomicity and fencing of workflow steps

What holds for every interleaving of `commit_workflow_step`,
`fail_workflow_step`, the calls of the job queue and the moves of escalations,
from any state of the tables.

A repeated call is adopted only if what it compares with was stored as it was
sent: `jsonb` may read a result back as another `Value`, and `timestamptz`
drops the nanoseconds of a retry time. A repeated dead letter must also carry
the action and the event type the check has fixed.

Results:

* `SettledOnce.step`: one move of a job settles a fence that is still open.
* `workflow_steps_atomic`: the contract of the two operations.
-/

namespace Asf.Steps

open Jobs (WorkflowJob)

variable {row : Option WorkflowJob} {prelocked : Bool} {call : Call} {answer : Result Answer}
  {before : Db} {failure : WorkflowStepFailure}

variable {codec : Codec}

/-! ## Each fence is settled once -/

/-- The fence under which a job got an outcome between two states of its row. -/
def settlement (before after : Option WorkflowJob) : Option ℤ :=
  if before = after then none
  else (after.filter fun job => isSettled job.status).map WorkflowJob.fenceToken

/-- The fences under which job `k` got an outcome, oldest first. -/
def settlements (codec : Codec) (k : Uuid) (start : State) (requests : List Request) : List ℤ :=
  (ledger codec).observe (fun s r => settlement (s.db.jobs.find? k)
    (((ledger codec).next s r).db.jobs.find? k)) start requests

/-- How the row of a job is related to the fences that were settled. -/
structure SettledOnce (row : Option WorkflowJob) (tokens : List ℤ) : Prop where
  nodup : tokens.Nodup
  bounded : ∀ token ∈ tokens, ∃ job, row = some job ∧ token ≤ job.fenceToken
  unsettled : ∀ job, row = some job → job.status = .running → job.fenceToken ∉ tokens

theorem settledOnce_nil (row : Option WorkflowJob) : SettledOnce row [] :=
  ⟨List.nodup_nil, by simp, by simp⟩

theorem settlement_self (row : Option WorkflowJob) : settlement row row = none := if_pos rfl

theorem settlement_of_not_settled {job : WorkflowJob} (h : isSettled job.status = false) :
    settlement row (some job) = none := by
  unfold settlement
  split_ifs <;> simp [h]

theorem settlement_of_settles {job job' : WorkflowJob} (hrunning : job.status = .running)
    (hsettled : isSettled job'.status) :
    settlement (some job) (some job') = some job'.fenceToken := by
  have hne : job ≠ job' := by
    rintro rfl
    simp [hrunning, isSettled] at hsettled
  simp [settlement, hne, hsettled]

/-- **One move** keeps the relation. -/
theorem SettledOnce.step {claims : Bool} {row' : Option WorkflowJob} {tokens : List ℤ}
    (h : SettledOnce row tokens) (hmove : JobMove claims row row') :
    SettledOnce row' (tokens ++ (settlement row row').toList) := by
  cases hmove with
  | keep => simpa [settlement_self] using h
  | insert now request =>
    have htokens : tokens = [] := by
      refine List.eq_nil_iff_forall_not_mem.mpr fun token htoken => ?_
      obtain ⟨job, hjob, -⟩ := h.bounded token htoken
      cases hjob
    rw [settlement_of_not_settled rfl, htokens]
    exact settledOnce_nil _
  | claim job job' asked before after token =>
    rw [settlement_of_not_settled (by simp [after, isSettled])]
    have hlt : ∀ t ∈ tokens, t < job'.fenceToken := by
      intro t ht
      obtain ⟨_, ⟨⟩, hle⟩ := h.bounded t ht
      omega
    refine ⟨by simpa using h.nodup, ?_, ?_⟩
    · simpa using fun t ht => (hlt t ht).le
    · rintro _ ⟨⟩ -
      simpa using fun hmem => absurd (hlt _ hmem) (lt_irrefl _)
  | renew job job' before after token =>
    rw [settlement_of_not_settled (by simp [after, isSettled])]
    refine ⟨by simpa using h.nodup, ?_, ?_⟩
    · simpa [token] using h.bounded
    · rintro _ ⟨⟩ -
      simpa [token] using h.unsettled job rfl before
  | settle job job' before after token =>
    rw [settlement_of_settles before after, token]
    have hnew : job.fenceToken ∉ tokens := h.unsettled job rfl before
    refine ⟨?_, ?_, ?_⟩
    · rw [Option.toList_some, List.nodup_append]
      exact ⟨h.nodup, List.nodup_singleton _,
        by simpa using fun a ha => ne_of_mem_of_not_mem ha hnew⟩
    · intro t ht
      refine ⟨job', rfl, ?_⟩
      rw [token]
      rcases List.mem_append.mp ht with ht | ht
      · obtain ⟨_, ⟨⟩, hle⟩ := h.bounded t ht
        exact hle
      · simp only [Option.toList_some, List.mem_singleton] at ht
        exact ht.le
    · rintro _ ⟨⟩ hrunning
      simp [hrunning, isSettled] at after

/-- Every run keeps it. -/
theorem run_settledOnce (k : Uuid) (start : State) (requests : List Request) :
    SettledOnce (((ledger codec).run start requests).db.jobs.find? k)
      (settlements codec k start requests) :=
  (ledger codec).observe_invariant (P := fun s tokens => SettledOnce (s.db.jobs.find? k) tokens) _
    (fun s _ r h => h.step ((perform_effect codec s r).jobMove k)) (settledOnce_nil _) requests

/-! ## The contract -/

/-- The call has newly recorded an outcome. -/
def isRecorded : Result Answer → Bool
  | .ok (.commit (.applied ..)) => true
  | .ok (.fail outcome) => outcome.newlyRecorded
  | _ => false

/-- The call was adopted as the repeat of an earlier one. -/
def isAdopted : Result Answer → Bool
  | .ok (.commit .alreadyApplied) => true
  | .ok (.fail outcome) => !outcome.newlyRecorded
  | _ => false

/-- What a call must satisfy for its repeat to be adopted: the result reads back as it
    was written; the retry time is a whole number of microseconds; and a dead letter
    names its audit event and its message as the check expects. -/
def Repeatable (codec : Codec) (db : Db) : Call → Prop
  | .commit step _ => codec.readJson step.storedResult = step.storedResult
  | .fail failure _ forceTerminal => (1000 : ℤ) ∣ failure.retryAt.nanos ∧
      ∀ job, db.jobs.find? failure.fence.jobId = some job → isTerminal forceTerminal job →
        namesExhaustion failure.deadLetter
  | .queue _ | .move .. => True

/-- What one request to the ledger in state `s` does. -/
structure StepContract (codec : Codec) (s : State) (request : Request) : Prop where
  /-- An applied commit completes its job and advances the aggregates by one. -/
  applied : ∀ step prelocked outcome, request.call = .commit step prelocked →
    (perform codec s request).2 = .ok (.commit outcome) → outcome ≠ .alreadyApplied →
    Advances step.fence step.workItemState step.workflowState step.accountability.kind
        step.accountability.referenceId s.db (perform codec s request).1.db ∧
      ∃ job job', Settles step.fence job job' s.db (perform codec s request).1.db ∧
        job'.status = .completed
  /-- A terminal failure ends its job and advances the aggregates by one. -/
  exhausted : ∀ failure prelocked forceTerminal outcome,
    request.call = .fail failure prelocked forceTerminal →
    (perform codec s request).2 = .ok (.fail outcome) → outcome.newlyRecorded →
    outcome.disposition = .escalated →
    ∃ escalationId, outcome.deadLetterEscalationId = some escalationId ∧
      Advances failure.fence "ESCALATED" "WAITING" .escalation escalationId s.db
        (perform codec s request).1.db ∧
      ∃ job job', Settles failure.fence job job' s.db (perform codec s request).1.db ∧
        job'.status = .dead
  /-- Another failure schedules a retry of its job and touches nothing else. -/
  retried : ∀ failure prelocked forceTerminal outcome,
    request.call = .fail failure prelocked forceTerminal →
    (perform codec s request).2 = .ok (.fail outcome) → outcome.newlyRecorded →
    outcome.disposition = .retryScheduled →
    (perform codec s request).1.db = s.db.withJobs (perform codec s request).1.db.jobs ∧
      ∃ job job', Settles failure.fence job job' s.db (perform codec s request).1.db ∧
        job'.status = .retry
  /-- A refused call changes nothing. -/
  refused : ∀ error, (perform codec s request).2 = .error error →
    (perform codec s request).1.db = s.db
  /-- Nor does an adopted one. -/
  adopted : isAdopted (perform codec s request).2 → (perform codec s request).1.db = s.db

variable {step : WorkflowStepCommit}

section Step

variable {s : State} {r : Request} {after : Db}

theorem Effect.of_applied {outcome : WorkflowStepCommitOutcome} (hnew : outcome ≠ .alreadyApplied)
    (h : Effect codec before (.commit step prelocked) (.ok (.commit outcome)) after) :
    Applied codec step before after := by
  cases h with
  | alreadyApplied => exact absurd rfl hnew
  | applied _ _ _ applied => exact applied

theorem Effect.db_of_error {error : Error} (h : Effect codec before call (.error error) after) :
    after = before := by
  cases h
  rfl

theorem Effect.db_of_adopted (hadopted : isAdopted answer)
    (h : Effect codec before call answer after) : after = before := by
  cases h with
  | refused | alreadyApplied | adopted => rfl
  | applied | retried | exhausted | queued | moved => simp [isAdopted,
      WorkflowStepFence.appliedOutcome] at hadopted

/-- **Every request keeps the contract.** -/
theorem stepContract (codec : Codec) (s : State) (r : Request) : StepContract codec s r := by
  have heffect := perform_effect codec s r
  constructor
  · intro step prelocked outcome hcall hanswer hnew
    rw [hcall, hanswer] at heffect
    have happlied := heffect.of_applied hnew
    obtain ⟨job, now, hsettles⟩ := happlied.settles
    exact ⟨happlied.advances, job, _, hsettles, rfl⟩
  · intro failure prelocked forceTerminal outcome hcall hanswer hnew hescalated
    rw [hcall, hanswer] at heffect
    rcases heffect.of_recordedFailure hnew with ⟨rfl, -⟩ | ⟨escalationId, rfl, hexhausted⟩
    · cases hescalated
    · obtain ⟨job, result, now, hterminal, hsettles, hletter⟩ := hexhausted.dies
      exact ⟨escalationId, rfl, hletter.advances, job, _, hsettles,
        by simp [failedStepJob, hterminal]⟩
  · intro failure prelocked forceTerminal outcome hcall hanswer hnew hretry
    rw [hcall, hanswer] at heffect
    rcases heffect.of_recordedFailure hnew with ⟨rfl, hretried⟩ | ⟨escalationId, rfl, -⟩
    · obtain ⟨job, now, hterminal, hsettles⟩ := hretried.settles
      exact ⟨hretried.unchanged, job, _, hsettles, by simp [failedStepJob, hterminal]⟩
    · cases hretry
  · intro error hanswer
    rw [hanswer] at heffect
    exact heffect.db_of_error
  · exact fun hadopted => heffect.db_of_adopted hadopted

end Step

/-! ## Repeated calls -/

section Repeat

variable {s : State} {request again : Request} {later : List Request}

theorem Effect.adoptedCommit_iff {after : Db}
    (h : Effect codec before (.commit step prelocked) answer after) :
    isAdopted answer ↔ answer = .ok (.commit .alreadyApplied) := by
  cases h <;> simp [isAdopted, WorkflowStepFence.appliedOutcome]

theorem Effect.adoptedFailure_iff {after : Db} {forceTerminal : Bool}
    (h : Effect codec before (.fail failure prelocked forceTerminal) answer after) :
    isAdopted answer ↔ ∃ outcome, answer = .ok (.fail outcome) ∧ outcome.newlyRecorded = false := by
  cases h <;> simp [isAdopted]

/-- An equal call made before the job is claimed again is adopted exactly if it was
    repeatable. -/
theorem repeat_adopted_iff (hrecorded : isRecorded (perform codec s request).2)
    (hagain : again.call = request.call) (hlater : ∀ r ∈ later, r.call.isClaim = false) :
    isAdopted (perform codec ((ledger codec).run (perform codec s request).1 later) again).2 ↔
      Repeatable codec s.db request.call := by
  have heffect := perform_effect codec s request
  have heffect' := perform_effect codec ((ledger codec).run (perform codec s request).1 later) again
  rw [hagain] at heffect'
  generalize request.call = call at heffect heffect' hagain ⊢
  generalize (perform codec s request).2 = answer at heffect hrecorded
  generalize (perform codec s request).1 = state at heffect heffect' ⊢
  obtain ⟨clock, after⟩ := state
  have hnoClaim : ∀ {status : Jobs.JobStatus}, ∀ r ∈ later, r.call.isClaim → status ≠ .retry :=
    fun r hr hclaim => absurd hclaim (by simp [hlater r hr])
  cases heffect with
  | refused | alreadyApplied | queued | moved => simp [isRecorded] at hrecorded
  | adopted _ _ _ _ adopted => simp [isRecorded, adopted] at hrecorded
  | applied step _ _ applied =>
    rw [heffect'.adoptedCommit_iff]
    obtain ⟨job, now, hsettles⟩ := applied.settles
    -- A completed job is never claimed again, so that its receipt stays for good.
    have hrow : ((ledger codec).run ⟨clock, after⟩ later).db.jobs.find? step.fence.jobId = _ :=
      settled_row_stays rfl later (fun _ _ _ => by simp [Jobs.completedJob]) hsettles.settled
    exact commit_repeated hagain applied.valid hrow hsettles.tenant hsettles.bound
  | retried failure _ _ _ retried =>
    rw [heffect'.adoptedFailure_iff]
    obtain ⟨job, now, hterminal, hsettles⟩ := retried.settles
    have hrow : ((ledger codec).run ⟨clock, after⟩ later).db.jobs.find? failure.fence.jobId = _ :=
      settled_row_stays (by simp [failedStepJob, hterminal, isSettled]) later hnoClaim
        hsettles.settled
    rw [retry_repeated hagain retried.valid hsettles.tenant hsettles.bound hterminal hrow]
    refine (and_iff_left fun job' hjob' hterminal' => ?_).symm
    obtain rfl : job = job' := Option.some.inj (hsettles.found.symm.trans hjob')
    simp [hterminal] at hterminal'
  | exhausted failure _ _ _ _ exhausted =>
    rw [heffect'.adoptedFailure_iff]
    obtain ⟨job, result, now, hterminal, hsettles, hletter⟩ := exhausted.dies
    have hrow : ((ledger codec).run ⟨clock, after⟩ later).db.jobs.find? failure.fence.jobId = _ :=
      settled_row_stays (by simp [failedStepJob, hterminal, isSettled]) later hnoClaim
        hsettles.settled
    have hkept : Kept after ((ledger codec).run ⟨clock, after⟩ later).db :=
      run_kept ⟨clock, after⟩ later
    have hfacts := hletter.facts.mono hkept
    rw [death_repeated hagain exhausted.valid hsettles.tenant hsettles.bound hterminal hrow hfacts]
    refine and_congr_right fun _ => ⟨fun h _ _ _ => h, fun h => ?_⟩
    exact h job hsettles.found hterminal

end Repeat

/-- **Atomicity and fencing.** From any state, in every interleaving: each fence of a job
    is settled at most once; every request keeps `StepContract` in the state it meets;
    and an equal call made later, before the job is claimed again, is adopted and
    changes nothing exactly when the call was `Repeatable`. -/
theorem workflow_steps_atomic (codec : Codec) (start : State) (requests : List Request) :
    (∀ k, (settlements codec k start requests).Nodup) ∧
      (∀ request, StepContract codec ((ledger codec).run start requests) request) ∧
      ∀ request later again,
        isRecorded ((ledger codec).answer ((ledger codec).run start requests) request) →
        again.call = request.call → (∀ r ∈ later, r.call.isClaim = false) →
        let found := (ledger codec).run start (requests ++ request :: later)
        isAdopted ((ledger codec).answer found again) ∧
            ((ledger codec).next found again).db = found.db ↔
          Repeatable codec ((ledger codec).run start requests).db request.call := by
  refine ⟨fun k => (run_settledOnce k start requests).nodup,
    fun request => stepContract codec _ request, ?_⟩
  intro request later again hrecorded hagain hlater found
  have hfound : found = (ledger codec).run
      (perform codec ((ledger codec).run start requests) request).1 later :=
    (ledger codec).run_append start requests (request :: later)
  refine (and_iff_left_of_imp (stepContract codec found again).adopted).trans ?_
  rw [hfound]
  exact repeat_adopted_iff hrecorded hagain hlater

/-! ## A repeated failure -/

/-- A codec that reads documents back as they were written. -/
def plainCodec : Codec where
  textDigest _ := "sha256:" ++ String.ofList (List.replicate 64 '0')
  jsonDigest _ := .ok "sha256:"
  auditDigest _ := .ok "sha256:"
  timeText _ := ""
  readJson := id
  signedWorkOrder _ := .error "missing field"

/-- A job that was claimed once. -/
def claimedOnce : WorkflowJob :=
  { Jobs.insertedJob 0 {
      id := .ofNat 2
      tenantId := .ofNat 1
      workflowInstanceId := some (.ofNat 3)
      workItemId := some (.ofNat 4)
      attemptId := none
      jobType := "build"
      activityContractId := "build.v1"
      payload := .obj []
      idempotencyKey := "key"
      priority := 0
      availableAt := ⟨0⟩
      maxAttempts := 3 } with
    status := .running
    attemptCount := 1
    fenceToken := 1
    leaseOwner := some "worker"
    leaseExpiresAt := some 10 }

/-- The ledger with that job. -/
def claimedState : State where
  clock := 0
  db := ⟨⟨[claimedOnce], by simp⟩, .empty, .empty, .empty, .empty, .empty, .empty, .empty, .empty⟩

/-- The audit event of the dead letter that is proposed with a failure. -/
def proposedAudit : StepAuditEvent where
  id := .ofNat 6
  attemptId := none
  actorType := "SYSTEM"
  actorId := "worker"
  action := "WORKFLOW_JOB_EXHAUSTED"
  subjectType := "WORKFLOW_JOB"
  subjectId := "job"
  correlationId := "correlation"
  traceId := none
  policyDigest := none
  beforeDigest := none
  afterDigest := none
  details := .obj []
  occurredAt := ⟨0⟩

/-- The failure of that claim, to be retried at `retryAt`. -/
def failing (retryAt : DateTime) : Request where
  pauses _ := 0
  verdict _ := none
  call := .fail {
    fence := ⟨.ofNat 1, .ofNat 2, .ofNat 3, .ofNat 4, "worker", 1, 1, 1, 0, 0⟩
    errorSummary := "timeout"
    retryAt
    deadLetter := {
      id := .ofNat 5
      runId := none
      category := "WORKFLOW_JOB_EXHAUSTED"
      severity := "HIGH"
      reason := "exhausted"
      ownerType := "TEAM"
      ownerId := "platform"
      requiredAction := "reconcile"
      evidenceReferences := .arr []
      deadline := ⟨1000⟩
      escalationPath := .arr []
      retryPolicy := .obj []
      prerequisites := .arr []
      authorityOrEffectActive := true
      idempotencyKey := "escalation"
      openedAt := ⟨0⟩
      auditEvent := proposedAudit
      outboxMessage := ⟨.ofNat 7, "topic", "key", "workflow_job.exhausted", .obj [], .obj [],
        "message", ⟨0⟩⟩ } } false false

theorem workflow_steps_atomic_retried :
    let found := (ledger plainCodec).run claimedState [failing ⟨1000⟩]
    isAdopted ((ledger plainCodec).answer found (failing ⟨1000⟩)) ∧
      ((ledger plainCodec).next found (failing ⟨1000⟩)).db = found.db := by
  have hrecorded : isRecorded ((ledger plainCodec).answer claimedState (failing ⟨1000⟩)) := by
    decide +kernel
  obtain ⟨-, -, hrepeat⟩ := workflow_steps_atomic plainCodec claimedState []
  exact (hrepeat (failing ⟨1000⟩) [] (failing ⟨1000⟩) hrecorded rfl (by simp)).mpr
    ⟨⟨1, rfl⟩, fun _ _ _ => ⟨rfl, rfl⟩⟩

/-- The same failure sent twice, with a retry time of one nanosecond: the second is
    refused as a different one. -/
theorem repeated_failure_refused :
    (perform plainCodec claimedState (failing ⟨1⟩)).2 =
        .ok (.fail ⟨.retryScheduled, true, none⟩) ∧
      (perform plainCodec (perform plainCodec claimedState (failing ⟨1⟩)).1 (failing ⟨1⟩)).2 =
        .error (.conflict ("workflow job 00000000-0000-0000-0000-000000000002 failure was "
          ++ "retried with different details")) := by
  decide +kernel

end Asf.Steps
