import Asf.Jobs.Calls
import Asf.Lib.FencedLease

/-!
# Job fencing

Every job of the queue follows the fenced-lease protocol of
`Asf.Lib.FencedLease`. A call, seen from one job, is a `RowStep`
(`perform_rowStep`); a `RowStep` is a step of the protocol
(`RowStep.lease_step`); so a run of the queue keeps `JobInv`, which ties the
job's row to the log of what callers were told about it (`run_jobInv`).

Results, for every run of the queue from an empty table:

* `fenced_jobs`: the fencing contract of the queue.
-/

namespace Asf.Jobs

open Lib Lib.FencedLease
open Prod (map)

variable {job : WorkflowJob} {now : Timestamptz} {owner : String} {fence : ℤ}
  {row' row : Option WorkflowJob} (k : Uuid)

/-! ## What callers are told about one job -/

/-- A claim, a renewal or a newly recorded outcome, with its arguments. -/
inductive JobEvent where
  | claimed (leaseOwner : String) (fenceToken : ℤ)
  | renewed (leaseOwner : String) (fenceToken : ℤ)
  | completed (tenantId : Uuid) (leaseOwner : String) (fenceToken : ℤ) (result : Option Json)
  | failed (tenantId : Uuid) (leaseOwner : String) (fenceToken : ℤ) (error : String)
      (retryAt : DateTime)

/-- The event of the lease protocol: an outcome settles the claim. -/
def JobEvent.lease : JobEvent → Event String
  | .claimed o f => .claim o f
  | .renewed o f => .renew o f
  | .completed _ o f _ => .settle o f
  | .failed _ o f _ _ => .settle o f

/-- The arguments of a recorded failure. -/
def JobEvent.failed? : JobEvent → Option (Uuid × String × ℤ × String × DateTime)
  | .failed t o f e r => some (t, o, f, e, r)
  | _ => none

/-- What the answer to a call says about job `k`. -/
def eventOf : Call → Answer → Option JobEvent
  | .claim .., .claim (.ok claimed) =>
    (claimed.find? fun c => c.id = k).map fun c => .claimed c.leaseOwner c.fenceToken
  | .renew _ jobId owner fence _, .renew (.ok _) =>
    if jobId = k then some (.renewed owner fence) else none
  | .complete tenant jobId owner fence result, .complete (.ok .completed) =>
    if jobId = k then some (.completed tenant owner fence result) else none
  | .fail tenant jobId owner fence error retryAt, .fail (.ok ⟨_, true⟩) =>
    if jobId = k then some (.failed tenant owner fence error retryAt) else none
  | _, _ => none

/-- The events of job `k` in a history. -/
def logOf (h : List (Request × Answer)) : List JobEvent :=
  h.filterMap fun e => eventOf k e.1.call e.2

/-- The claimant and the fence of the latest successful claim of `k`. -/
def latestClaimOf (h : List (Request × Answer)) : Option (String × ℤ) :=
  latestClaim ((logOf k h).map JobEvent.lease)

/-- The fences under which an outcome of `k` was newly recorded. -/
def recordedFences (h : List (Request × Answer)) : List ℤ :=
  settled ((logOf k h).map JobEvent.lease)

/-- The most recently recorded failure. -/
def lastFailure (log : List JobEvent) : Option (Uuid × String × ℤ × String × DateTime) :=
  (log.filterMap JobEvent.failed?).getLast?

/-! ## A call seen from one job -/

/-- Everything a call can do to the row of one job. -/
inductive RowStep (now : Timestamptz) :
    Option WorkflowJob → Option JobEvent → Option WorkflowJob → Prop
  | idle (row : Option WorkflowJob) : RowStep now row none row
  | enqueue (job : NewWorkflowJob) (positive : 0 < job.maxAttempts) :
      RowStep now none none (some (insertedJob now job))
  | claim (job : WorkflowJob) (tenantId : Uuid) (owner : String) (milliseconds : ℤ)
      (due : claimable tenantId now job) :
      RowStep now (some job) (some (.claimed owner (job.fenceToken + 1)))
        (some (claimedJob owner milliseconds now job))
  | renew (job : WorkflowJob) (tenantId jobId : Uuid) (owner : String) (fence milliseconds : ℤ)
      (live : isLiveClaim tenantId jobId owner fence now job) :
      RowStep now (some job) (some (.renewed owner fence)) (some (renewedJob milliseconds now job))
  | complete (job : WorkflowJob) (tenantId jobId : Uuid) (owner : String) (fence : ℤ)
      (result : Option Json) (live : isLiveClaim tenantId jobId owner fence now job)
      (valid : validateJobMutation owner fence = .ok ()) :
      RowStep now (some job) (some (.completed tenantId owner fence result))
        (some (completedJob owner fence result now job))
  | fail (job : WorkflowJob) (tenantId jobId : Uuid) (owner : String) (fence : ℤ)
      (error : String) (retryAt : DateTime)
      (live : isFailable tenantId jobId owner fence now job)
      (valid : validateJobMutation owner fence = .ok ()) :
      RowStep now (some job) (some (.failed tenantId owner fence error retryAt))
        (some (failedJob owner fence (summarizeError error) retryAt.encode now job))

/-- The row of `k` after an update keyed by the job's identifier. -/
theorem find?_setJobs {db : Db} {p : WorkflowJob → Bool} {f : WorkflowJob → WorkflowJob}
    {hf : ∀ job, (f job).id = job.id} {jobId : Uuid} (hfind : db.jobs.find? jobId = some job)
    (hpj : p job) (hp : ∀ job, p job → job.id = jobId) (k : Uuid) :
    (db.setJobs p f hf).jobs.find? k = if jobId = k then some (f job) else db.jobs.find? k := by
  rw [Db.setJobs, Table.find?_update]
  split_ifs with hk
  · subst hk
    simp [hfind, hpj]
  · cases hrow : db.jobs.find? k with
    | none => rfl
    | some row =>
      have : ¬ p row := fun h => hk ((hp row h).symm.trans (Table.key_of_find? hrow))
      simp [this]

/-- The receipt for `k` among those of a claim. -/
theorem find?_claimReceipt (db : Db) (owner : String) (milliseconds : ℤ) (now : Timestamptz)
    (claimed : List Uuid) (k : Uuid) :
    (((db.jobs.rows.filter fun job => claimed.contains job.id).map
      (claimReceipt owner milliseconds now)).find? fun c => decide (c.id = k)) =
    if claimed.contains k then (db.jobs.find? k).map (claimReceipt owner milliseconds now)
    else none := by
  have hpred : (fun job : WorkflowJob =>
      decide (claimed.contains job.id = true ∧ decide (job.id = k) = true)) =
      fun job => claimed.contains k && decide (job.id = k) := by
    funext job
    by_cases h : job.id = k <;> simp [h]
  have hcomp : (fun c : ClaimedWorkflowJob => decide (c.id = k)) ∘
      claimReceipt owner milliseconds now = fun job => decide (job.id = k) := rfl
  rw [List.find?_map, List.find?_filter, hcomp]
  beta_reduce
  rw [hpred]
  split_ifs with h
  · simp only [h, Bool.true_and]
    rfl
  · rw [Bool.not_eq_true] at h
    simp only [h, Bool.false_and]
    simp

/-- **Seen from one job.** Whatever the call and its arguments. -/
theorem perform_rowStep (now : Timestamptz) (verdict : Option String) (db : Db) (call : Call)
    (k : Uuid) :
    RowStep now (db.jobs.find? k) (eventOf k call (perform now verdict call db).2)
      ((perform now verdict call db).1.jobs.find? k) := by
  cases call with
  | enqueue job =>
    have hev : ∀ r, eventOf k (.enqueue job) (.enqueue r) = none := fun _ => rfl
    obtain ⟨r, hr, -⟩ | ⟨hid, hv, -, hr⟩ := enqueueJob_cases now verdict db job
    · simp only [perform, hr, map, id, hev]
      exact .idle _
    · simp only [perform, hr, map, id, hev, Table.find?_insert]
      by_cases hk : (insertedJob now job).id = k
      · subst hk
        rw [Table.find?_eq_none_of_notMem hid]
        simpa using .enqueue job (job.maxAttempts_pos hv)
      · simpa [hk] using .idle _
  | claim tenantId leaseOwner limit leaseDuration locked =>
    obtain ⟨e, hr⟩ | ⟨ms, claimed, db', -, hdue, hjobs, hr⟩ :=
      claimJobs_cases now verdict db locked tenantId leaseOwner limit leaseDuration
    · simp only [perform, hr, map, id]
      exact .idle _
    · simp only [perform, hr, map, id, hjobs, eventOf]
      rw [Table.find?_update, find?_claimReceipt]
      cases hrow : db.jobs.find? k with
      | none => simpa using .idle _
      | some job =>
        have hid : job.id = k := Table.key_of_find? hrow
        by_cases hk : k ∈ claimed
        · have hdue' := hdue job (Table.mem_of_find? hrow) (hid ▸ hk)
          simpa [hid, hk, claimReceipt] using .claim job tenantId leaseOwner ms hdue'
        · simpa [hid, hk] using .idle _
  | renew tenantId jobId leaseOwner fenceToken leaseDuration =>
    obtain ⟨e, hr⟩ | ⟨ms, job, hfind, hlive, hr⟩ :=
      renewJobLease_cases now verdict db tenantId jobId leaseOwner fenceToken leaseDuration
    · simp only [perform, hr, map, id]
      exact .idle _
    · simp only [perform, hr, map, id, eventOf]
      rw [find?_setJobs hfind hlive id_of_isLiveClaim]
      split_ifs with hk
      · subst hk
        rw [hfind]
        exact .renew job tenantId jobId leaseOwner fenceToken ms hlive
      · exact .idle _
  | complete tenantId jobId leaseOwner fenceToken result =>
    obtain ⟨e, hr⟩ | ⟨job, hfind, hlive, hv, hr⟩ | ⟨job, -, -, -, -, hr⟩ :=
      completeJob_cases now verdict db tenantId jobId leaseOwner fenceToken result
    · simp only [perform, hr, map, id]
      exact .idle _
    · simp only [perform, hr, map, id, eventOf]
      rw [find?_setJobs hfind hlive id_of_isLiveClaim]
      split_ifs with hk
      · subst hk
        rw [hfind]
        exact .complete job tenantId jobId leaseOwner fenceToken result hlive hv
      · exact .idle _
    · simp only [perform, hr, map, id]
      exact .idle _
  | fail tenantId jobId leaseOwner fenceToken error retryAt =>
    obtain ⟨e, hr⟩ | ⟨job, hfind, hfail, hv, hr⟩ | ⟨d, hr⟩ :=
      failJob_cases now verdict db tenantId jobId leaseOwner fenceToken error retryAt
    · simp only [perform, hr, map, id]
      exact .idle _
    · have hid : ∀ job, isFailable tenantId jobId leaseOwner fenceToken now job →
          job.id = jobId := fun job h => id_of_isLiveClaim job (Bool.and_elim_left h)
      simp only [perform, hr, map, id, eventOf]
      rw [find?_setJobs hfind hfail hid]
      split_ifs with hk
      · subst hk
        rw [hfind]
        exact .fail job tenantId jobId leaseOwner fenceToken error retryAt hfail hv
      · exact .idle _
    · simp only [perform, hr, map, id]
      exact .idle _

/-! ## One job follows the lease protocol -/

/-- The lease of a job: what its row says about it. -/
def leaseOf : Option WorkflowJob → Lease String Timestamptz
  | none => ⟨0, none⟩
  | some job =>
    ⟨job.fenceToken,
      if job.status = .running then
        job.leaseOwner.bind fun owner => job.leaseExpiresAt.map fun expiry => (owner, expiry)
      else none⟩

theorem leaseOf_of_not_running (h : job.status ≠ .running) :
    leaseOf (some job) = ⟨job.fenceToken, none⟩ := by
  simp [leaseOf, h]

theorem leaseOf_of_isLiveClaim {tenantId jobId : Uuid}
    (h : isLiveClaim tenantId jobId owner fence now job) :
    ∃ expiry, leaseOf (some job) = ⟨fence, some (owner, expiry)⟩ ∧ now < expiry := by
  obtain ⟨-, -, hrun, howner, hfence, expiry, hexpiry, hlt⟩ := isLiveClaim_iff.mp h
  exact ⟨expiry, by simp [leaseOf, hrun, howner, hfence, hexpiry], hlt⟩

/-- A claimable job is not leased, or its lease has expired. -/
theorem holder_expired_of_claimable {tenantId : Uuid} (h : claimable tenantId now job)
    (o : String) (x : Timestamptz) (hx : (leaseOf (some job)).holder = some (o, x)) : x ≤ now := by
  simp only [leaseOf] at hx
  split_ifs at hx with hrun
  obtain ⟨owner, -, hx⟩ := Option.bind_eq_some_iff.mp hx
  obtain ⟨expiry, hexp, hx⟩ := Option.map_eq_some_iff.mp hx
  cases hx
  simp only [claimable, hrun, hexp, Bool.and_eq_true, Bool.or_eq_true] at h
  simpa using h.2

variable {e : Option JobEvent} {log : List JobEvent} {ev : JobEvent} {o : String} {t : Uuid}

/-- **Simulation.** What a call does to a job is one step of the lease protocol. -/
theorem RowStep.lease_step (h : RowStep now row e row') :
    Step now (leaseOf row) (e.map JobEvent.lease) (leaseOf row') := by
  cases h with
  | idle => exact .idle _
  | enqueue job => exact .idle _
  | claim job tenantId owner milliseconds due =>
    exact .claim (leaseOf (some job)) owner _ (holder_expired_of_claimable due)
  | renew job tenantId jobId owner fence milliseconds live =>
    obtain ⟨x, hx, hlt⟩ := leaseOf_of_isLiveClaim live
    obtain ⟨-, -, hrun, howner, hfence, -⟩ := isLiveClaim_iff.mp live
    have hnew : leaseOf (some (renewedJob milliseconds now job)) =
        ⟨fence, some (owner, now + milliseconds * 1000)⟩ := by
      simp [leaseOf, renewedJob, hrun, howner, hfence]
    rw [hx, hnew]
    exact .renew ⟨fence, some (owner, x)⟩ owner x _ rfl hlt
  | complete job tenantId jobId owner fence result live valid =>
    obtain ⟨x, hx, hlt⟩ := leaseOf_of_isLiveClaim live
    have hnew : leaseOf (some (completedJob owner fence result now job)) = ⟨fence, none⟩ := by
      rw [leaseOf_of_not_running (by simp [completedJob]), completedJob,
        (isLiveClaim_iff.mp live).2.2.2.2.1]
    rw [hx, hnew]
    exact .settle ⟨fence, some (owner, x)⟩ owner x rfl hlt
  | fail job tenantId jobId owner fence error retryAt live valid =>
    have hclaim := Bool.and_elim_left live
    obtain ⟨x, hx, hlt⟩ := leaseOf_of_isLiveClaim hclaim
    have hnew : leaseOf (some (failedJob owner fence (summarizeError error) retryAt.encode now
        job)) = ⟨fence, none⟩ := by
      rw [leaseOf_of_not_running (by simp [failedJob]), failedJob,
        (isLiveClaim_iff.mp hclaim).2.2.2.2.1]
    rw [hx, hnew]
    exact .settle ⟨fence, some (owner, x)⟩ owner x rfl hlt

/-! ## The invariant -/

/-- The row of a completed job carries the receipt of the completion. -/
structure CompletionReceipt (job : WorkflowJob) (tenantId : Uuid) (owner : String) (fence : ℤ)
    (result : Option Json) : Prop where
  valid : validateJobMutation owner fence = .ok ()
  tenant : job.tenantId = tenantId
  status : job.status = .completed
  completedBy : job.completedBy = some owner
  completionFence : job.completionFenceToken = some fence
  result_eq : job.result = result

/-- The row of a job carries the receipt of its last failure. -/
structure FailureReceipt (job : WorkflowJob) (tenantId : Uuid) (owner : String) (fence : ℤ)
    (error : String) (retryAt : DateTime) : Prop where
  valid : validateJobMutation owner fence = .ok ()
  tenant : job.tenantId = tenantId
  failedBy : job.lastFailureBy = some owner
  failureFence : job.lastFailureFenceToken = some fence
  lastError : job.lastError = some (summarizeError error)
  retry : job.lastFailureRetryAt = some retryAt.encode

/-- How the row of a job is related to the log of its events. -/
structure JobInv (row : Option WorkflowJob) (log : List JobEvent) : Prop where
  tracks : Tracks (leaseOf row) (log.map JobEvent.lease)
  attempts : ∀ job ∈ row, job.attemptCount ≤ job.maxAttempts
  leased : ∀ job ∈ row, job.status = .running → (leaseOf row).holder.isSome
  unborn : row = none → log = []
  completion : ∀ t o f r, .completed t o f r ∈ log → ∃ job ∈ row, CompletionReceipt job t o f r
  completer : ∀ job ∈ row, job.status = .completed → ∃ o f, job.completedBy = some o ∧
    job.completionFenceToken = some f ∧ latestClaim (log.map JobEvent.lease) = some (o, f)
  failure : ∀ t o f e r, lastFailure log = some (t, o, f, e, r) →
    ∃ job ∈ row, FailureReceipt job t o f e r

theorem jobInv_none : JobInv none [] :=
  ⟨tracks_free 0, by simp, by simp, by simp, by simp, by simp, by simp [lastFailure]⟩

theorem lastFailure_append (log : List JobEvent) (e : JobEvent) (h : e.failed? = none) :
    lastFailure (log ++ [e]) = lastFailure log := by
  simp [lastFailure, h]

theorem lastFailure_append_failed (log : List JobEvent) (t : Uuid) (o : String) (f : ℤ)
    (e : String) (r : DateTime) :
    lastFailure (log ++ [.failed t o f e r]) = some (t, o, f, e, r) := by
  simp [lastFailure, JobEvent.failed?]

/-- A completed job has no step but the idle one. -/
theorem RowStep.of_completed (h : RowStep now (some job) e row') (hdone : job.status = .completed) :
    e = none ∧ row' = some job := by
  have hlive : ∀ tenantId jobId owner fence,
      ¬ isLiveClaim tenantId jobId owner fence now job := by
    intro tenantId jobId owner fence hc
    have := (isLiveClaim_iff.mp hc).2.2.1
    rw [hdone] at this
    cases this
  cases h with
  | idle => exact ⟨rfl, rfl⟩
  | claim _ _ _ _ due => simp [claimable, hdone] at due
  | renew _ _ _ _ _ _ live => exact absurd live (hlive _ _ _ _)
  | complete _ _ _ _ _ _ live => exact absurd live (hlive _ _ _ _)
  | fail _ _ _ _ _ _ _ live => exact absurd (Bool.and_elim_left live) (hlive _ _ _ _)

/-- While the job is not completed, only the new event can be a completion. -/
theorem JobInv.completed_last {f : ℤ} {r : Option Json}
    (h : JobInv (some job) log) (hs : job.status ≠ .completed)
    (hmem : .completed t o f r ∈ log ++ [ev]) : .completed t o f r = ev := by
  rcases List.mem_append.mp hmem with hmem | hmem
  · obtain ⟨job', hjob', hrec⟩ := h.completion t o f r hmem
    cases hjob'
    exact absurd hrec.status hs
  · exact List.mem_singleton.mp hmem

/-- What a step that records nothing keeps of the receipts: the step writes
    neither the completion nor the failure columns. -/
theorem JobInv.failure_of_columns {job' : WorkflowJob} (h : JobInv (some job) log)
    (hev : ev.failed? = none) (htenant : job'.tenantId = job.tenantId)
    (hby : job'.lastFailureBy = job.lastFailureBy)
    (hfence : job'.lastFailureFenceToken = job.lastFailureFenceToken)
    (herror : job'.lastError = job.lastError)
    (hretry : job'.lastFailureRetryAt = job.lastFailureRetryAt) (t : Uuid) (o : String) (f : ℤ)
    (e : String) (r : DateTime) (hlast : lastFailure (log ++ [ev]) = some (t, o, f, e, r)) :
    ∃ j ∈ some job', FailureReceipt j t o f e r := by
  rw [lastFailure_append log ev hev] at hlast
  obtain ⟨j, hj, hrec⟩ := h.failure t o f e r hlast
  cases hj
  exact ⟨job', rfl, hrec.valid, htenant.trans hrec.tenant, hby.trans hrec.failedBy,
    hfence.trans hrec.failureFence, herror.trans hrec.lastError, hretry.trans hrec.retry⟩

/-- **Step lemma.** -/
theorem JobInv.step (h : JobInv row log) (hs : RowStep now row e row') :
    JobInv row' (log ++ e.toList) := by
  have htracks : Tracks (leaseOf row') ((log ++ e.toList).map JobEvent.lease) := by
    have := h.tracks.step hs.lease_step
    cases e <;> simpa using this
  cases hs with
  | idle => simpa using h
  | enqueue job positive =>
    refine ⟨htracks, ?_, ?_, by simp, ?_, ?_, ?_⟩
    · rintro job' ⟨⟩
      exact le_of_lt positive
    · rintro job' ⟨⟩ hrun
      cases hrun
    · simp [h.unborn rfl]
    · rintro job' ⟨⟩ hdone
      cases hdone
    · simp [h.unborn rfl, lastFailure]
  | claim job tenantId owner milliseconds due =>
    have hdue : job.attemptCount < job.maxAttempts ∧ job.status ≠ .completed := by
      simp only [claimable, Bool.and_eq_true, decide_eq_true_eq] at due
      refine ⟨due.1.2, fun hdone => ?_⟩
      simp [hdone] at due
    refine ⟨htracks, ?_, ?_, by simp, ?_, ?_, ?_⟩
    · rintro job' ⟨⟩
      have := hdue.1
      simp only [claimedJob]
      omega
    · rintro job' ⟨⟩ -
      simp [leaseOf, claimedJob]
    · intro t o f r hmem
      cases h.completed_last hdue.2 hmem
    · rintro job' ⟨⟩ hdone
      cases hdone
    · exact h.failure_of_columns rfl rfl rfl rfl rfl rfl
  | renew job tenantId jobId owner fence milliseconds live =>
    obtain ⟨-, -, hrun, howner, -⟩ := isLiveClaim_iff.mp live
    refine ⟨htracks, ?_, ?_, by simp, ?_, ?_, ?_⟩
    · rintro job' ⟨⟩
      exact h.attempts job rfl
    · rintro job' ⟨⟩ -
      simp [leaseOf, renewedJob, hrun, howner]
    · intro t o f r hmem
      cases h.completed_last (by simp [hrun]) hmem
    · rintro job' ⟨⟩ hdone
      simp [renewedJob, hrun] at hdone
    · exact h.failure_of_columns rfl rfl rfl rfl rfl rfl
  | complete job tenantId jobId owner fence result live valid =>
    obtain ⟨-, htenant, hrun, -⟩ := isLiveClaim_iff.mp live
    refine ⟨htracks, ?_, ?_, by simp, ?_, ?_, ?_⟩
    · rintro job' ⟨⟩
      exact h.attempts job rfl
    · rintro job' ⟨⟩ hrun'
      cases hrun'
    · intro t o f r hmem
      cases h.completed_last (by simp [hrun]) hmem
      exact ⟨_, rfl, valid, htenant, rfl, rfl, rfl, rfl⟩
    · rintro job' ⟨⟩ -
      refine ⟨owner, fence, rfl, rfl, ?_⟩
      obtain ⟨x, hx, -⟩ := leaseOf_of_isLiveClaim live
      have hheld := h.tracks.held owner x (by rw [hx])
      rw [hx] at hheld
      rw [Option.toList_some, List.map_append, List.map_singleton,
        latestClaim_append_other rfl, hheld]
    · exact h.failure_of_columns rfl rfl rfl rfl rfl rfl
  | fail job tenantId jobId owner fence error retryAt live valid =>
    obtain ⟨-, htenant, hrun, -⟩ := isLiveClaim_iff.mp (Bool.and_elim_left live)
    refine ⟨htracks, ?_, ?_, by simp, ?_, ?_, ?_⟩
    · rintro job' ⟨⟩
      exact h.attempts job rfl
    · rintro job' ⟨⟩ hrun'
      cases hrun'
    · intro t o f r hmem
      cases h.completed_last (by simp [hrun]) hmem
    · rintro job' ⟨⟩ hdone
      cases hdone
    · intro t o f e r hlast
      rw [Option.toList_some, lastFailure_append_failed] at hlast
      cases hlast
      exact ⟨_, rfl, valid, htenant, rfl, rfl, rfl, rfl⟩

/-- **Run lemma.** After every run of the queue from an empty table. -/
theorem run_jobInv (clock : Timestamptz) (effects : Table EffectIntent EffectIntent.id)
    (requests : List Request) (k : Uuid) :
    JobInv ((ledger.run (initial clock effects) requests).db.jobs.find? k)
      (logOf k (ledger.history (initial clock effects) requests)) := by
  apply ledger.log_invariant (P := fun s log => JobInv (s.db.jobs.find? k) log)
    (fun r a => eventOf k r.call a)
  · intro s log r hinv
    exact hinv.step (perform_rowStep (s.clock + r.elapsed) r.verdict s.db r.call k)
  · exact jobInv_none

/-! ## The contract -/

/-- A successful renewal, completion or newly recorded failure of `k` by this
    owner under this fence. -/
def Succeeds (owner : String) (fence : ℤ) (call : Call) (answer : Answer) : Prop :=
  match call, answer with
  | .renew _ jobId o f _, .renew (.ok _) => jobId = k ∧ o = owner ∧ f = fence
  | .complete _ jobId o f _, .complete (.ok .completed) => jobId = k ∧ o = owner ∧ f = fence
  | .fail _ jobId o f _ _, .fail (.ok ⟨_, true⟩) => jobId = k ∧ o = owner ∧ f = fence
  | _, _ => False

/-- What the queue promises in a state `s` that a run with history `h` reached. -/
structure Fenced (s : State) (h : List (Request × Answer)) : Prop where
  /-- A claim takes the next fence and counts the attempt. -/
  claim_next : ∀ r claimed, ledger.answer s r = .claim (.ok claimed) → ∀ c ∈ claimed,
    ∃ job job', s.db.jobs.find? c.id = some job ∧
      (ledger.next s r).db.jobs.find? c.id = some job' ∧
      job'.fenceToken = job.fenceToken + 1 ∧ job'.attemptCount = job.attemptCount + 1 ∧
      c.fenceToken = job'.fenceToken ∧ c.attemptCount = job'.attemptCount
  attempts_le : ∀ job ∈ s.db.jobs.rows, job.attemptCount ≤ job.maxAttempts
  /-- Only the latest claimant succeeds, and only before its lease expires. -/
  latest_claimant : ∀ r k owner fence, Succeeds k owner fence r.call (ledger.answer s r) →
    latestClaimOf k h = some (owner, fence) ∧
      ∃ job expiry, s.db.jobs.find? k = some job ∧ job.leaseExpiresAt = some expiry ∧
        s.clock + r.elapsed < expiry
  one_at_a_time : ∀ r r' k owner fence owner' fence',
    Succeeds k owner fence r.call (ledger.answer s r) →
    Succeeds k owner' fence' r'.call (ledger.answer s r') → owner = owner' ∧ fence = fence'
  already_completed : ∀ elapsed verdict t k owner fence result,
    ledger.answer s ⟨elapsed, verdict, .complete t k owner fence result⟩ =
      .complete (.ok .alreadyCompleted) → latestClaimOf k h = some (owner, fence)
  one_outcome : ∀ k, (recordedFences k h).Nodup
  /-- A completed job keeps its receipt in every later state. -/
  completed_stays : ∀ job ∈ s.db.jobs.rows, job.status = .completed → ∀ later,
    ∃ job' ∈ (ledger.run s later).db.jobs.rows, job'.id = job.id ∧ job'.status = .completed ∧
      job'.result = job.result ∧ job'.completedBy = job.completedBy ∧
      job'.completionFenceToken = job.completionFenceToken
  completion_replay : ∀ k t owner fence result, .completed t owner fence result ∈ logOf k h →
    ∀ elapsed verdict, ledger.step s ⟨elapsed, verdict, .complete t k owner fence result⟩ =
      ({ s with clock := s.clock + elapsed }, .complete (.ok .alreadyCompleted))
  failure_replay : ∀ k t owner fence error retryAt,
    lastFailure (logOf k h) = some (t, owner, fence, error, retryAt) →
    ∀ elapsed verdict, ∃ disposition,
      ledger.step s ⟨elapsed, verdict, .fail t k owner fence error retryAt⟩ =
        ({ s with clock := s.clock + elapsed }, .fail (.ok ⟨disposition, false⟩))
  err_unchanged : ∀ r, (ledger.answer s r).isErr → (ledger.next s r).db = s.db

/-- A success is an event of the job under that owner and fence, and it is not
    a claim. -/
theorem Succeeds.event {k : Uuid} {call : Call} {answer : Answer}
    (h : Succeeds k owner fence call answer) :
    ∃ e, eventOf k call answer = some e ∧
      (e.lease = .renew owner fence ∨ e.lease = .settle owner fence) := by
  unfold Succeeds at h
  split at h
  · obtain ⟨rfl, rfl, rfl⟩ := h
    exact ⟨_, by simp only [eventOf, if_true]; rfl, .inl rfl⟩
  · obtain ⟨rfl, rfl, rfl⟩ := h
    exact ⟨_, by simp only [eventOf, if_true]; rfl, .inr rfl⟩
  · obtain ⟨rfl, rfl, rfl⟩ := h
    exact ⟨_, by simp only [eventOf, if_true]; rfl, .inr rfl⟩
  · cases h

theorem expiry_of_holder {x : Timestamptz} (h : (leaseOf row).holder = some (o, x)) :
    ∃ job, row = some job ∧ job.leaseExpiresAt = some x := by
  cases row with
  | none => cases h
  | some job =>
    simp only [leaseOf] at h
    split_ifs at h
    obtain ⟨owner, -, h⟩ := Option.bind_eq_some_iff.mp h
    obtain ⟨expiry, hexp, h⟩ := Option.map_eq_some_iff.mp h
    cases h
    exact ⟨job, rfl, hexp⟩

section Contract

variable {s : State} {h : List (Request × Answer)}

theorem claim_takes_next (r : Request) (claimed : List ClaimedWorkflowJob)
    (hr : ledger.answer s r = .claim (.ok claimed)) (c : ClaimedWorkflowJob) (hc : c ∈ claimed) :
    ∃ job job', s.db.jobs.find? c.id = some job ∧
      (ledger.next s r).db.jobs.find? c.id = some job' ∧
      job'.fenceToken = job.fenceToken + 1 ∧ job'.attemptCount = job.attemptCount + 1 ∧
      c.fenceToken = job'.fenceToken ∧ c.attemptCount = job'.attemptCount := by
  obtain ⟨elapsed, verdict, call⟩ := r
  simp only [ledger_answer, ledger_next_db] at hr ⊢
  cases call with
  | claim tenantId leaseOwner limit leaseDuration locked =>
    simp only [perform, map, id, Answer.claim.injEq] at hr ⊢
    obtain ⟨e, hcall⟩ | ⟨ms, ids, db', -, -, hjobs, hcall⟩ :=
      claimJobs_cases (s.clock + elapsed) verdict s.db locked tenantId leaseOwner limit
        leaseDuration
    · simp [hcall] at hr
    · rw [hcall] at hr ⊢
      cases hr
      obtain ⟨job, hjob, rfl⟩ := List.mem_map.mp hc
      obtain ⟨hrow, hid⟩ := List.mem_filter.mp hjob
      have hfind : s.db.jobs.find? job.id = some job := Table.find?_key_of_mem hrow
      refine ⟨job, claimedJob leaseOwner ms (s.clock + elapsed) job, hfind, ?_, rfl, rfl, rfl, rfl⟩
      simp only [hjobs]
      rw [Table.find?_update]
      simp only [claimReceipt, hfind, Option.map_some, hid, if_true]
  | enqueue => cases hr
  | renew => cases hr
  | complete => cases hr
  | fail => cases hr

theorem completed_row_stays (job : WorkflowJob) (hdone : job.status = .completed)
    (hjob : s.db.jobs.find? k = some job) (later : List Request) :
    (ledger.run s later).db.jobs.find? k = some job := by
  refine ledger.run_invariant (P := fun s => s.db.jobs.find? k = some job) ?_ hjob later
  intro s r hrow
  have hstep := perform_rowStep (s.clock + r.elapsed) r.verdict s.db r.call k
  rw [hrow] at hstep
  exact (hstep.of_completed hdone).2

/-- A job that runs does not run under the fence of its last failure. -/
theorem JobInv.failure_over {error : String} {retryAt : DateTime} (hinv : JobInv (some job) log)
    (hlast : lastFailure log = some (t, owner, fence, error, retryAt)) :
    ¬ (job.status = .running ∧ job.fenceToken = fence) := by
  rintro ⟨hrun, rfl⟩
  refine hinv.tracks.unsettled (hinv.leased job rfl hrun) ?_
  obtain ⟨e, he, hfailed⟩ := List.mem_filterMap.mp (List.mem_of_getLast? hlast)
  refine List.mem_filterMap.mpr ⟨e.lease, List.mem_map_of_mem he, ?_⟩
  cases e <;> cases hfailed
  rfl

variable (hinv : ∀ k, JobInv (s.db.jobs.find? k) (logOf k h))

include hinv

theorem latestClaim_of_succeeds (r : Request) (k : Uuid) (owner : String) (fence : ℤ)
    (hok : Succeeds k owner fence r.call (ledger.answer s r)) :
    latestClaimOf k h = some (owner, fence) ∧
      ∃ job expiry, s.db.jobs.find? k = some job ∧ job.leaseExpiresAt = some expiry ∧
        s.clock + r.elapsed < expiry := by
  obtain ⟨e, he, hlease⟩ := hok.event
  have hstep := (perform_rowStep (s.clock + r.elapsed) r.verdict s.db r.call k).lease_step
  rw [← ledger_answer, he, Option.map_some] at hstep
  have hclaim : latestClaimOf k h = some (owner, fence) ∧
      ∃ x, (leaseOf (s.db.jobs.find? k)).holder = some (owner, x) ∧ s.clock + r.elapsed < x := by
    rcases hlease with hlease | hlease
    · rw [hlease] at hstep
      exact (hinv k).tracks.latestClaim_of_renew hstep
    · rw [hlease] at hstep
      exact (hinv k).tracks.latestClaim_of_settle hstep
  obtain ⟨hlatest, x, hx, hlt⟩ := hclaim
  obtain ⟨job, hjob, hexp⟩ := expiry_of_holder hx
  exact ⟨hlatest, job, x, hjob, hexp, hlt⟩

theorem latestClaim_of_alreadyCompleted (elapsed : ℕ) (verdict : Option String) (t k : Uuid)
    (owner : String) (fence : ℤ) (result : Option Json)
    (hok : ledger.answer s ⟨elapsed, verdict, .complete t k owner fence result⟩ =
      .complete (.ok .alreadyCompleted)) : latestClaimOf k h = some (owner, fence) := by
  simp only [ledger_answer, perform, map, id, Answer.complete.injEq] at hok
  obtain ⟨e, hr⟩ | ⟨job, -, -, -, hr⟩ | ⟨job, hjob, hdone, hby, hfence, -⟩ :=
    completeJob_cases (s.clock + elapsed) verdict s.db t k owner fence result
  · simp [hr] at hok
  · simp [hr] at hok
  · obtain ⟨o, f, ho, hf, hlatest⟩ := (hinv k).completer job hjob hdone
    rw [hby, Option.some.injEq] at ho
    rw [hfence, Option.some.injEq] at hf
    rw [ho, hf]
    exact hlatest

theorem replay_completion (k t : Uuid) (owner : String) (fence : ℤ) (result : Option Json)
    (hmem : .completed t owner fence result ∈ logOf k h) (elapsed : ℕ) (verdict : Option String) :
    ledger.step s ⟨elapsed, verdict, .complete t k owner fence result⟩ =
      ({ s with clock := s.clock + elapsed }, .complete (.ok .alreadyCompleted)) := by
  obtain ⟨job, hjob, hrec⟩ := (hinv k).completion t owner fence result hmem
  simp only [ledger, perform]
  rw [completeJob_replay hrec.valid hjob hrec.tenant hrec.status hrec.completedBy
    hrec.completionFence hrec.result_eq]
  rfl

theorem replay_failure (k t : Uuid) (owner : String) (fence : ℤ) (error : String)
    (retryAt : DateTime)
    (hlast : lastFailure (logOf k h) = some (t, owner, fence, error, retryAt)) (elapsed : ℕ)
    (verdict : Option String) :
    ∃ disposition, ledger.step s ⟨elapsed, verdict, .fail t k owner fence error retryAt⟩ =
      ({ s with clock := s.clock + elapsed }, .fail (.ok ⟨disposition, false⟩)) := by
  have hk := hinv k
  obtain ⟨job, hjob, hrec⟩ := hk.failure t owner fence error retryAt hlast
  rw [Option.mem_def] at hjob
  rw [hjob] at hk
  obtain ⟨disposition, hcall⟩ := failJob_replay hrec.valid (s.clock + elapsed) verdict
    hjob hrec.tenant (hk.failure_over hlast) hrec.failedBy hrec.failureFence
    hrec.lastError hrec.retry
  refine ⟨disposition, ?_⟩
  simp only [ledger, perform]
  rw [hcall]
  rfl

end Contract

/-- **Job fencing.** Every state that the queue reaches from an empty table, by
    any interleaving of calls of any owners with any arguments, keeps the
    contract. -/
theorem fenced_jobs (clock : Timestamptz) (effects : Table EffectIntent EffectIntent.id)
    (requests : List Request) :
    Fenced (ledger.run (initial clock effects) requests)
      (ledger.history (initial clock effects) requests) := by
  have hinv := run_jobInv clock effects requests
  generalize ledger.run (initial clock effects) requests = s at hinv ⊢
  generalize ledger.history (initial clock effects) requests = h at hinv ⊢
  constructor
  · exact claim_takes_next
  · intro job hjob
    exact (hinv job.id).attempts job (Table.find?_key_of_mem hjob)
  · exact latestClaim_of_succeeds hinv
  · intro r r' k owner fence owner' fence' hr hr'
    have h1 := (latestClaim_of_succeeds hinv r k owner fence hr).1
    rw [(latestClaim_of_succeeds hinv r' k owner' fence' hr').1, Option.some.injEq,
      Prod.mk.injEq] at h1
    exact ⟨h1.1.symm, h1.2.symm⟩
  · exact latestClaim_of_alreadyCompleted hinv
  · exact fun k => (hinv k).tracks.settled_nodup
  · intro job hjob hdone later
    have := completed_row_stays job.id job hdone (Table.find?_key_of_mem hjob) later
    exact ⟨job, Table.mem_of_find? this, rfl, hdone, rfl, rfl, rfl⟩
  · exact replay_completion hinv
  · exact replay_failure hinv
  · intro r herr
    exact perform_of_isErr r.call herr

end Asf.Jobs
