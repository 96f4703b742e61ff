import Asf.Runtime.Scans

/-!
# Which due jobs a reactor sees

A process is responsible for a due job when its registry has a ready handler
for the job's route. `isVisible_iff`: at least one of the four scans of
`poll_once` sees such a job, except a retention job
(`RETAIN_RUNMILL_TERMINAL_EVIDENCE`) whose rows no longer match, which the
route-invalid scan leaves out. `retention_job_invisible` is such a job.
-/

namespace Asf.Runtime

open Lib (Table)
open Jobs (WorkflowJob)
open HandlerRegistry (mem_of_handler)

/-- The process has a ready handler for the job's type, unscoped or for the
    worker that the payload names. -/
def IsResponsible (registry : HandlerRegistry) (job : WorkflowJob) : Prop :=
  ∃ handler, registry.handler job.jobType = some handler ∧ handler.readiness = .ready ∧
    (handler.claimScope = .unscoped ∨ ∃ w, scopeWorker job.jobType handler.claimScope = some w ∧
      job.payload.text "worker_id" = some w.toText)

/-- The ledger invariant: a job that waits has attempts left. -/
def AttemptsLeft (db : Db) : Prop :=
  ∀ job ∈ db.jobs.rows, job.status = .pending ∨ job.status = .retry →
    job.attemptCount < job.maxAttempts

/-- The rows that a retention job must match to be seen: the full binding while
    attempts are left, only the authoritative run once they are exhausted. -/
def retentionMatches (db : Db) (now : Timestamptz) (job : WorkflowJob) : Bool :=
  if job.attemptCount < job.maxAttempts then retentionSource db now job else retainedRun db job

/-! ## Routes of a responsible process -/

section Routes

variable {registry : HandlerRegistry} {job : WorkflowJob} {handler : Handler}

theorem typeRoute_iff (routes : List (String × String)) (job : WorkflowJob) :
    typeRoute routes job ↔ (job.jobType, job.activityContractId) ∈ routes := by
  simp only [typeRoute, List.any_eq_true, Bool.and_eq_true, beq_iff_eq]
  constructor
  · rintro ⟨⟨a, b⟩, hmem, rfl, rfl⟩
    exact hmem
  · intro hmem
    exact ⟨_, hmem, rfl, rfl⟩

variable (hh : registry.handler job.jobType = some handler)

include hh

/-- The unscoped routes contain the type of a handler only if it is unscoped. -/
theorem unscoped_of_typeRoute (h : typeRoute registry.readyClaimSet.unscoped job) :
    handler.claimScope = .unscoped := by
  rw [typeRoute_iff] at h
  obtain ⟨entry, hentry, -, hkind, heq⟩ := (mem_routes_iff registry .unscoped _).mp h
  have hunscoped : entry.2.claimScope = .unscoped := by
    cases hs : entry.2.claimScope <;> simp only [hs, JobClaimScope.kind, reduceCtorEq] at hkind ⊢
  rw [hunscoped, JobClaimScope.routeKey, Prod.mk.injEq] at heq
  have := Table.eq_of_key_eq hentry (mem_of_handler hh) heq.1.symm
  rw [this] at hunscoped
  exact hunscoped

variable (hready : handler.readiness = .ready)
  (hcontract : handler.activityContractId = job.activityContractId)

include hready hcontract

theorem workerRoute_of_scope {w : Uuid}
    (hscope : scopeWorker job.jobType handler.claimScope = some w)
    (hworker : job.payload.text "worker_id" = some w.toText) :
    workerRoute (registry.readyClaimSet.routes handler.claimScope.kind) job := by
  have hkey : handler.claimScope.routeKey job.jobType = w.toText := by
    cases hs : handler.claimScope <;> simp only [hs, scopeWorker] at hscope
    · cases hscope
    all_goals
      split_ifs at hscope
      cases hscope
      rfl
  simp only [workerRoute, List.any_eq_true, Bool.and_eq_true, beq_iff_eq]
  refine ⟨(w.toText, handler.activityContractId), ?_, by rw [hworker], hcontract⟩
  rw [mem_routes_iff]
  exact ⟨(job.jobType, handler), mem_of_handler hh, hready, rfl, by rw [hkey]⟩

theorem typeRoute_of_unscoped (hscope : handler.claimScope = .unscoped) :
    typeRoute registry.readyClaimSet.unscoped job := by
  rw [typeRoute_iff]
  refine (mem_routes_iff registry .unscoped _).mpr
    ⟨(job.jobType, handler), mem_of_handler hh, hready, by rw [hscope]; rfl, ?_⟩
  rw [hscope, JobClaimScope.routeKey, hcontract]

end Routes

/-- A due job has attempts left, or its last claim has expired. -/
theorem attempts_of_isDue {db : Db} {now : Timestamptz} {job : WorkflowJob}
    (hledger : AttemptsLeft db) (hjob : job ∈ db.jobs.rows) (hdue : isDue now job) :
    job.attemptCount < job.maxAttempts ∨ job.maxAttempts ≤ job.attemptCount ∧
      job.status = .running ∧ job.leaseExpiresAt.any fun t => decide (t ≤ now) := by
  by_cases hlt : job.attemptCount < job.maxAttempts
  · exact .inl hlt
  · refine .inr ⟨by omega, ?_⟩
    simp only [isDue, Bool.or_eq_true, Bool.and_eq_true, beq_iff_eq] at hdue
    rcases hdue with ⟨hwait, -⟩ | hrun
    · exact absurd (hledger job hjob hwait) hlt
    · exact hrun

/-! ## One type at a time -/

section Types

variable {registry : HandlerRegistry} {db : Db} {tenantId : Uuid} {now : Timestamptz}
  {job : WorkflowJob}

/-- Either attempts are left, or the last claim has expired without one. -/
abbrev ClaimOrRecover (now : Timestamptz) (job : WorkflowJob) : Prop :=
  job.attemptCount < job.maxAttempts ∨ job.maxAttempts ≤ job.attemptCount ∧
    job.status = .running ∧ job.leaseExpiresAt.any fun t => decide (t ≤ now)

variable (htenant : job.tenantId = tenantId) (hdue : isDue now job)
  (hattempts : ClaimOrRecover now job)

include htenant hdue hattempts

/-- The ready scan and the orphan scan ask alike for the route of every type but one. -/
theorem isVisible_of_served
    (h : (!isCanonicalWorkerScopedJobType job.jobType
          && typeRoute registry.readyClaimSet.unscoped job
        || job.jobType == reconcileWorker && workerRoute registry.readyClaimSet.reconcileWorker job
        || job.jobType == requestWorkItemCancellation
            && workerRoute registry.readyClaimSet.cancellationWorker job && cancellationRun db job
        || job.jobType == observeRunmillRun
            && workerRoute registry.readyClaimSet.observeRunmillRunWorker job
            && observationSource db now job) = true) :
    isVisible registry db tenantId now job := by
  simp only [isVisible, Bool.or_eq_true]
  rcases hattempts with hlt | ⟨hge, hrun, hexp⟩
  · refine .inl (.inl (.inl ?_))
    simp only [readyCandidate, htenant, hlt, hdue, Bool.or_eq_true, Bool.and_eq_true,
      beq_self_eq_true, decide_true] at h ⊢
    tauto
  · exact .inl (.inr (by simp [orphanedCandidate, htenant, hrun, hge, hexp, h]))

/-- A cancellation that its run no longer matches is route-invalid. -/
theorem isVisible_of_cancellation
    (hcanonical : hasCanonicalContract job requestWorkItemCancellation)
    (hroute : workerRoute registry.readyClaimSet.cancellationWorker job) :
    isVisible registry db tenantId now job := by
  have htype : job.jobType = requestWorkItemCancellation := by
    simpa using Bool.and_elim_left hcanonical
  by_cases hrows : cancellationRun db job
  · exact isVisible_of_served htenant hdue hattempts (by simp [htype, hroute, hrows])
  · simp [isVisible, routeInvalidCandidate, htenant, hcanonical, htype, hrows, hdue]

/-- An observation whose rows no longer match is route-invalid. -/
theorem isVisible_of_observation (hcanonical : hasCanonicalContract job observeRunmillRun)
    (hroute : workerRoute registry.readyClaimSet.observeRunmillRunWorker job) :
    isVisible registry db tenantId now job := by
  have htype : job.jobType = observeRunmillRun := by
    simpa using Bool.and_elim_left hcanonical
  by_cases hrows : observationSource db now job
  · exact isVisible_of_served htenant hdue hattempts (by simp [htype, hroute, hrows])
  · simp [isVisible, routeInvalidCandidate, htenant, hcanonical, htype, hrows, hdue]

/-- A retention job is seen by the ready scan or the orphan scan, or not at all:
    the route-invalid scan does not look at the type, and the unserviceable scan
    only when the process has no ready route for it. -/
theorem isVisible_retention_iff (htype : job.jobType = retainRunmillTerminalEvidence)
    (hunscoped : typeRoute registry.readyClaimSet.unscoped job = false)
    (hroute : workerRoute registry.readyClaimSet.retainRunmillTerminalEvidenceWorker job) :
    isVisible registry db tenantId now job ↔ retentionMatches db now job := by
  have hne : (job.jobType == reconcileWorker) = false ∧
      (job.jobType == requestWorkItemCancellation) = false ∧
      (job.jobType == observeRunmillRun) = false := by
    rw [htype]
    decide
  have hself : (job.jobType == retainRunmillTerminalEvidence) = true := by rw [htype]; decide
  have hinvalid : routeInvalidCandidate db tenantId now job = false := by
    simp [routeInvalidCandidate, hasCanonicalContract, hne]
  have hroutes : registry.readyClaimSet.retainRunmillTerminalEvidenceWorker.isEmpty = false := by
    obtain ⟨route, hmem, -⟩ := List.any_eq_true.mp hroute
    exact List.isEmpty_eq_false_iff_exists_mem.mpr ⟨route, hmem⟩
  have hcanonical : isCanonicalWorkerScopedJobType job.jobType = true := by
    rw [htype]
    decide
  have hserved : unserviceableCandidate registry db tenantId now job = false := by
    simp [unserviceableCandidate, hcanonical, isUnserved, hasCanonicalContract, hne, hroutes]
  have hready : readyCandidate registry db tenantId now job =
      (retentionSource db now job && decide (job.attemptCount < job.maxAttempts)) := by
    simp [readyCandidate, htenant, hunscoped, hne, hself, hroute, hdue]
  rw [isVisible, hinvalid, hserved, hready]
  unfold retentionMatches
  rcases hattempts with hlt | ⟨hge, hrun, hexp⟩
  · have horphan : orphanedCandidate registry db tenantId now job = false := by
      simp [orphanedCandidate, hlt]
    simp [hlt, horphan]
  · have horphan : orphanedCandidate registry db tenantId now job = retainedRun db job := by
      simp [orphanedCandidate, htenant, hrun, hge, hexp, hcanonical, hne, hself, hroute]
    have hlt : ¬ job.attemptCount < job.maxAttempts := by omega
    simp [hlt, horphan]

end Types

/-! ## Every type -/

/-- A known route of a production type has the canonical contract. -/
theorem hasCanonicalContract_of_known {registry : HandlerRegistry} {job : WorkflowJob}
    {handler : Handler} {jobType canonical : String}
    (hh : registry.handler job.jobType = some handler)
    (hcontract : handler.activityContractId = job.activityContractId)
    (htype : job.jobType = jobType)
    (hprod : productionActivityContractId jobType = some canonical) :
    hasCanonicalContract job jobType := by
  subst htype
  have := HandlerRegistry.contract_of_mem (mem_of_handler hh) hprod
  simp [hasCanonicalContract, hprod, ← this, hcontract]

/-- **Visibility.** A due job on a known route for which this process is
    responsible is a candidate of at least one scan, if and only if it is not a
    retention job or the rows that its payload names match. -/
theorem isVisible_iff (registry : HandlerRegistry) (db : Db) (tenantId : Uuid)
    (now : Timestamptz) (job : WorkflowJob) (hledger : AttemptsLeft db)
    (hjob : job ∈ db.jobs.rows) (htenant : job.tenantId = tenantId) (hdue : isDue now job)
    (hknown : (job.jobType, job.activityContractId) ∈ registry.knownJobTypeContractPairs)
    (hresponsible : IsResponsible registry job) :
    isVisible registry db tenantId now job ↔
      (job.jobType = retainRunmillTerminalEvidence → retentionMatches db now job) := by
  have hattempts : ClaimOrRecover now job := attempts_of_isDue hledger hjob hdue
  obtain ⟨handler, hh, hready, hscope⟩ := hresponsible
  have hcontract := HandlerRegistry.contract_of_known hknown hh
  have hmem := HandlerRegistry.scope_of_ready (mem_of_handler hh) hready
  rcases hscope with hunscoped | ⟨w, hw, hworker⟩
  · have htype : isCanonicalWorkerScopedJobType job.jobType = false := by
      by_contra hc
      rw [Bool.not_eq_false] at hc
      simp [hc, hunscoped, scopeWorker] at hmem
    have hne : job.jobType ≠ retainRunmillTerminalEvidence := by
      intro h
      rw [h] at htype
      exact absurd htype (by decide)
    have hroute := typeRoute_of_unscoped hh hready hcontract hunscoped
    have hvisible : isVisible registry db tenantId now job :=
      isVisible_of_served htenant hdue hattempts (by simp [htype, hroute])
    simp [hne, hvisible]
  · have hroute := workerRoute_of_scope hh hready hcontract hw hworker
    cases hs : handler.claimScope with
    | unscoped => simp [hs, scopeWorker] at hw
    | reconcileWorker v =>
      rw [hs] at hroute hw
      change workerRoute registry.readyClaimSet.reconcileWorker job at hroute
      have htype := (Option.ite_none_right_eq_some.mp hw).1
      have hne : job.jobType ≠ retainRunmillTerminalEvidence := by rw [htype]; decide
      have hvisible : isVisible registry db tenantId now job :=
        isVisible_of_served htenant hdue hattempts (by simp [htype, hroute])
      simp [hne, hvisible]
    | cancellationWorker v =>
      rw [hs] at hroute hw
      have htype := (Option.ite_none_right_eq_some.mp hw).1
      have hne : job.jobType ≠ retainRunmillTerminalEvidence := by rw [htype]; decide
      have hcanonical := hasCanonicalContract_of_known hh hcontract htype rfl
      simp [hne, isVisible_of_cancellation htenant hdue hattempts hcanonical hroute]
    | observeRunmillRunWorker v =>
      rw [hs] at hroute hw
      have htype := (Option.ite_none_right_eq_some.mp hw).1
      have hne : job.jobType ≠ retainRunmillTerminalEvidence := by rw [htype]; decide
      have hcanonical := hasCanonicalContract_of_known hh hcontract htype rfl
      simp [hne, isVisible_of_observation htenant hdue hattempts hcanonical hroute]
    | retainRunmillTerminalEvidenceWorker v =>
      rw [hs] at hroute hw
      have htype := (Option.ite_none_right_eq_some.mp hw).1
      have hunscoped : typeRoute registry.readyClaimSet.unscoped job = false := by
        by_contra hc
        rw [Bool.not_eq_false] at hc
        have := unscoped_of_typeRoute hh hc
        rw [hs] at this
        cases this
      rw [isVisible_retention_iff htenant hdue hattempts htype hunscoped hroute]
      simp [htype]

/-! ## A retention job that no scan sees

The observation stream is terminal and owes its evidence bundle, and the
process serves the worker, but the control session that the payload names has
expired. The payload is immutable, so the job stays where it is. -/

/-- A version 4 identifier with this low part. -/
def uuidV4 (n : ℕ) : Uuid := .ofNat (0x00000000000040008000000000000000 + n)

/-- A table with one row. -/
def oneRow {α κ : Type} {key : α → κ} (row : α) : Table α key := ⟨[row], by simp⟩

def retentionHandler : Handler where
  jobType := retainRunmillTerminalEvidence
  activityContractId := "asf.activity/retain-runmill-terminal-evidence/v1"
  readiness := .ready
  claimScope := .retainRunmillTerminalEvidenceWorker (uuidV4 6)

def retentionRegistry : HandlerRegistry where
  handlers := oneRow (retainRunmillTerminalEvidence, retentionHandler)
  valid := by
    intro entry hentry
    rw [List.mem_singleton.mp hentry]
    exact ⟨rfl, rfl⟩

def strandedJob : WorkflowJob where
  id := uuidV4 1
  tenantId := uuidV4 2
  workflowInstanceId := some (uuidV4 3)
  workItemId := some (uuidV4 4)
  attemptId := some (uuidV4 5)
  jobType := retainRunmillTerminalEvidence
  activityContractId := "asf.activity/retain-runmill-terminal-evidence/v1"
  status := .pending
  priority := 70
  payload := .obj [
    ("bundle_id", .str (uuidV4 10).toText),
    ("event_page_snapshot_id", .str (uuidV4 14).toText),
    ("external_run_id", .str "run-1"),
    ("get_run_snapshot_id", .str (uuidV4 13).toText),
    ("observation_id", .str (uuidV4 12).toText),
    ("observer_session_id", .str (uuidV4 9).toText),
    ("run_id", .str (uuidV4 7).toText),
    ("schema", .str "asf.runmill-terminal-evidence/v1"),
    ("terminal_event_seq", .num 5 0),
    ("terminal_phase", .str "COMPLETED"),
    ("work_order_digest", .str ("sha256:" ++ String.ofList (List.replicate 64 'a'))),
    ("work_order_id", .str (uuidV4 8).toText),
    ("worker_generation", .num 1 0),
    ("worker_id", .str (uuidV4 6).toText),
    ("worker_session_id", .str (uuidV4 9).toText)]
  result := none
  idempotencyKey := "runmill-terminal-evidence"
  availableAt := 50
  attemptCount := 0
  maxAttempts := 25
  fenceToken := 0
  leaseOwner := none
  leaseExpiresAt := none
  completedBy := none
  completionFenceToken := none
  completedAt := none
  lastFailureBy := none
  lastFailureFenceToken := none
  lastFailureRetryAt := none
  lastError := none
  deadLetterEscalationId := none
  deadLetterOperationalIncidentId := none
  deadLetteredAt := none
  createdAt := 50
  updatedAt := 50

def strandedRun : Run where
  id := uuidV4 7
  tenantId := uuidV4 2
  workItemId := uuidV4 4
  attemptId := uuidV4 5
  workOrderId := uuidV4 8
  workerId := uuidV4 6
  workerGeneration := 1
  workerSessionId := uuidV4 9
  externalRunId := "run-1"
  authoritative := true
  state := .succeeded
  lastEventCursor := some "4"
  lastEventSequence := 4
  aggregateVersion := 5
  adoptedAt := 10
  lastObservedAt := 40
  terminalAt := some 40

def strandedStream : ObservationStream where
  tenantId := uuidV4 2
  runId := uuidV4 7
  workflowInstanceId := uuidV4 3
  workItemId := uuidV4 4
  attemptId := uuidV4 5
  workOrderId := uuidV4 8
  workOrderDigest := "sha256:" ++ String.ofList (List.replicate 64 'a')
  workerId := uuidV4 6
  workerGeneration := 1
  runAdmissionWorkerSessionId := uuidV4 9
  externalRunId := "run-1"
  nextAfterSequence := 4
  observationEpoch := 2
  activeJobId := none
  activeObservationId := none
  state := .terminalReady

/-- The tables; the session of the payload expires at the given instant. -/
def strandedDb (expiresAt : Timestamptz) : Db where
  jobs := oneRow strandedJob
  runs := oneRow strandedRun
  workOrders := oneRow
    ⟨uuidV4 8, uuidV4 2, uuidV4 4, uuidV4 5, "sha256:" ++ String.ofList (List.replicate 64 'a')⟩
  streams := oneRow strandedStream
  checkpoints := .empty
  results := oneRow
    ⟨uuidV4 11, uuidV4 2, uuidV4 7, uuidV4 12, 4, uuidV4 13, uuidV4 14, .terminalReady⟩
  sessions := oneRow ⟨uuidV4 9, uuidV4 2, uuidV4 6, 1, .active, expiresAt⟩
  workers := oneRow ⟨uuidV4 6, uuidV4 2, .ready, 1, 1, Int.one_pos⟩

theorem attemptsLeft_strandedDb (expiresAt : Timestamptz) :
    AttemptsLeft (strandedDb expiresAt) := by
  intro job hjob _
  rw [List.mem_singleton.mp hjob]
  decide

theorem isResponsible_strandedJob : IsResponsible retentionRegistry strandedJob :=
  ⟨retentionHandler, rfl, rfl, .inr ⟨uuidV4 6, rfl, rfl⟩⟩

/-- A due retention job on a known route, for a worker that the process serves,
    is a candidate of no scan. -/
theorem retention_job_invisible :
    AttemptsLeft (strandedDb 100) ∧ strandedJob ∈ (strandedDb 100).jobs.rows ∧
      strandedJob.tenantId = uuidV4 2 ∧ isDue 100 strandedJob ∧
      (strandedJob.jobType, strandedJob.activityContractId) ∈
        retentionRegistry.knownJobTypeContractPairs ∧
      IsResponsible retentionRegistry strandedJob ∧
      isVisible retentionRegistry (strandedDb 100) (uuidV4 2) 100 strandedJob = false := by
  exact ⟨attemptsLeft_strandedDb 100, List.mem_singleton_self _, rfl, rfl,
    List.mem_singleton_self _, isResponsible_strandedJob, by decide +kernel⟩

/-- While the session is live the same job depends on its rows only. -/
theorem strandedJob_visible_iff :
    isVisible retentionRegistry (strandedDb 101) (uuidV4 2) 100 strandedJob ↔
      (strandedJob.jobType = retainRunmillTerminalEvidence →
        retentionMatches (strandedDb 101) 100 strandedJob) :=
  isVisible_iff retentionRegistry (strandedDb 101) (uuidV4 2) 100 strandedJob
    (attemptsLeft_strandedDb 101) (List.mem_singleton_self _) rfl rfl (List.mem_singleton_self _)
    isResponsible_strandedJob

end Asf.Runtime
