import Asf.Jobs.Fencing
import Asf.Steps.Failures

/-!
# What one request does

Everything a request of the step ledger can have done, and from it how one job
moves (`perform_jobMove`) and what a request leaves in place (`perform_kept`),
with the same for runs.

Results:

* `perform_effect`: the cases of a request.
* `settled_row_stays`: a job with an outcome keeps its row until it is claimed.
* `run_kept`: audit events, messages and escalations are never lost.
* `nothing_lost`: nor are jobs.
-/

namespace Asf.Steps

open Lib
open Jobs (WorkflowJob)

variable {before after : Db} {job : WorkflowJob} {fence : WorkflowStepFence}
  {row' : Option WorkflowJob}

variable {codec : Codec} {s : State} {change : EscalationMove} {claims : Bool} {id : Uuid}
  {k : Uuid}

/-! ## The cases -/

/-- What a move of escalation `id` does to the table. -/
inductive Moves (id : Uuid) (change : EscalationMove)
    (before : Table Escalation fun row => row.id) : Table Escalation (fun row => row.id) → Prop
  | absent (none : before.find? id = none) : Moves id change before before
  | moved (old row : Escalation) (found : before.find? id = some old)
      (columns : row.toEscalationColumns = { old.toEscalationColumns with
        status := change.status
        authorityOrEffectActive := change.authorityOrEffectActive
        aggregateVersion := change.aggregateVersion
        acknowledgedAt := change.acknowledgedAt
        closedAt := change.closedAt })
      (alone : row.status.isActive → ∀ other ∈ before.rows, other.id ≠ row.id →
        ¬ sharesOpenCategory other row) :
      Moves id change before (before.set row)

theorem commits_moveEscalation {s s' : Session Db} {u : Unit}
    (h : Commits (moveEscalation id change) s u s') :
    ∃ escalations, s'.db = s.db.withEscalations escalations ∧
      Moves id change s.db.escalations escalations := by
  simp only [moveEscalation, commits_execute, bind_eq_ok_iff] at h
  obtain ⟨-, db, ⟨⟨moved, escalations⟩, hupdate, h⟩, rfl⟩ := h
  dsimp only at h
  split_ifs at h with hconflict
  obtain ⟨-, rfl⟩ := Prod.mk.inj (Except.ok.inj h)
  refine ⟨escalations, rfl, ?_⟩
  cases moved with
  | none =>
    obtain ⟨hnone, rfl⟩ := Table.updateOne_eq_none_iff.mp hupdate
    exact .absent (Option.eq_none_iff_forall_ne_some.mpr (by simpa using hnone))
  | some row =>
    obtain ⟨old, hold, -, hrow, rfl⟩ := Table.updateOne_eq_some_iff.mp hupdate
    refine .moved old row hold (columns_of_escalationChecked hrow)
      fun hactive other hother hid => ?_
    intro hshares
    exact hconflict (by simpa [hactive] using ⟨other, hother, hid, hshares⟩)

theorem commits_callQueue {s s' : Session Db} {call : Jobs.Call} {answer : Jobs.Answer} :
    Commits (callQueue call) s answer s' ↔
      answer = (Jobs.perform s.tick.now (s.verdict "workflow_jobs") call ⟨s.db.jobs, .empty⟩).2 ∧
      s' = s.tick.withDb (s.db.withJobs (Jobs.perform s.tick.now (s.verdict "workflow_jobs") call
        ⟨s.db.jobs, .empty⟩).1.jobs) := by
  unfold Commits callQueue
  cases Jobs.perform s.tick.now (s.verdict "workflow_jobs") call ⟨s.db.jobs, .empty⟩
  simp [eq_comm]

/-- Everything a call can have answered and done. -/
inductive Effect (codec : Codec) (before : Db) : Call → Result Answer → Db → Prop
  | refused (call : Call) (error : Error) : Effect codec before call (.error error) before
  | alreadyApplied (step : WorkflowStepCommit) (prelocked : Bool) :
      Effect codec before (.commit step prelocked) (.ok (.commit .alreadyApplied)) before
  | applied (step : WorkflowStepCommit) (prelocked : Bool) (after : Db)
      (applied : Applied codec step before after) :
      Effect codec before (.commit step prelocked) (.ok (.commit step.fence.appliedOutcome)) after
  | adopted (failure : WorkflowStepFailure) (prelocked forceTerminal : Bool)
      (outcome : WorkflowStepFailureOutcome) (adopted : outcome.newlyRecorded = false) :
      Effect codec before (.fail failure prelocked forceTerminal) (.ok (.fail outcome)) before
  | retried (failure : WorkflowStepFailure) (prelocked forceTerminal : Bool) (after : Db)
      (retried : Retried failure forceTerminal before after) :
      Effect codec before (.fail failure prelocked forceTerminal)
        (.ok (.fail ⟨.retryScheduled, true, none⟩)) after
  | exhausted (failure : WorkflowStepFailure) (prelocked forceTerminal : Bool)
      (escalationId : Uuid) (after : Db)
      (exhausted : Exhausted codec failure forceTerminal escalationId before after) :
      Effect codec before (.fail failure prelocked forceTerminal)
        (.ok (.fail ⟨.escalated, true, some escalationId⟩)) after
  | queued (call : Jobs.Call) (now : Timestamptz) (verdict : Option String) :
      Effect codec before (.queue call)
        (.ok (.queue (Jobs.perform now verdict call ⟨before.jobs, .empty⟩).2))
        (before.withJobs (Jobs.perform now verdict call ⟨before.jobs, .empty⟩).1.jobs)
  | moved (id : Uuid) (change : EscalationMove)
      (escalations : Table Escalation fun row => row.id)
      (moves : Moves id change before.escalations escalations) :
      Effect codec before (.move id change) (.ok .done) (before.withEscalations escalations)

theorem perform_effect (codec : Codec) (s : State) (r : Request) :
    Effect codec s.db r.call (perform codec s r).2 (perform codec s r).1.db := by
  simp only [perform]
  rcases atomically_cases (r.call.transaction codec) (r.session s) with
    ⟨answer, session, hcommits, heq⟩ | ⟨error, heq⟩
  · rw [heq]
    cases hcall : r.call with
    | commit step prelocked =>
      rw [hcall] at hcommits
      obtain ⟨outcome, hinner, rfl⟩ := commits_map.mp hcommits
      rcases commitWorkflowStepInner_cases hinner with ⟨rfl, hdb⟩ | ⟨rfl, happlied⟩
      · dsimp only
        rw [hdb]
        exact .alreadyApplied step prelocked
      · exact .applied step prelocked _ happlied
    | fail failure prelocked forceTerminal =>
      rw [hcall] at hcommits
      obtain ⟨outcome, hinner, rfl⟩ := commits_map.mp hcommits
      rcases failWorkflowStepInner_cases hinner with
        ⟨hadopted, hdb⟩ | ⟨rfl, hretried⟩ | ⟨escalationId, rfl, hexhausted⟩
      · dsimp only
        rw [hdb]
        exact .adopted failure prelocked forceTerminal outcome hadopted
      · exact .retried failure prelocked forceTerminal _ hretried
      · exact .exhausted failure prelocked forceTerminal escalationId _ hexhausted
    | queue call =>
      rw [hcall] at hcommits
      obtain ⟨answer, hinner, rfl⟩ := commits_map.mp hcommits
      obtain ⟨rfl, rfl⟩ := commits_callQueue.mp hinner
      exact .queued call _ _
    | move id change =>
      rw [hcall] at hcommits
      obtain ⟨u, hinner, rfl⟩ := commits_map.mp hcommits
      obtain ⟨escalations, hdb, hmoves⟩ := commits_moveEscalation hinner
      dsimp only
      rw [hdb]
      exact .moved id change escalations hmoves
  · rw [heq]
    exact .refused r.call error

/-- A newly recorded failure has retried or exhausted its job. -/
theorem Effect.of_recordedFailure {failure : WorkflowStepFailure} {prelocked forceTerminal : Bool}
    {outcome : WorkflowStepFailureOutcome} (hnew : outcome.newlyRecorded)
    (h : Effect codec before (.fail failure prelocked forceTerminal) (.ok (.fail outcome)) after) :
    outcome = ⟨.retryScheduled, true, none⟩ ∧ Retried failure forceTerminal before after ∨
      ∃ escalationId, outcome = ⟨.escalated, true, some escalationId⟩ ∧
        Exhausted codec failure forceTerminal escalationId before after := by
  cases h with
  | adopted _ _ _ _ adopted => simp [adopted] at hnew
  | retried _ _ _ _ retried => exact .inl ⟨rfl, retried⟩
  | exhausted _ _ _ escalationId _ exhausted => exact .inr ⟨escalationId, rfl, exhausted⟩

/-! ## One job -/

/-- The job has an outcome of its latest claim. -/
def isSettled : Jobs.JobStatus → Bool
  | .completed | .retry | .dead => true
  | .pending | .running | .cancelled => false

/-- The call asks the queue for claims. -/
def Call.isClaim : Call → Bool
  | .queue (.claim ..) => true
  | _ => false

/-- How a request can move one job. -/
inductive JobMove (claims : Bool) : Option WorkflowJob → Option WorkflowJob → Prop
  | keep (row : Option WorkflowJob) : JobMove claims row row
  | insert (now : Timestamptz) (request : Jobs.NewWorkflowJob) :
      JobMove claims none (some (Jobs.insertedJob now request))
  | claim (job job' : WorkflowJob) (asked : claims = true)
      (before : job.status = .pending ∨ job.status = .retry ∨ job.status = .running)
      (after : job'.status = .running) (token : job'.fenceToken = job.fenceToken + 1) :
      JobMove claims (some job) (some job')
  | renew (job job' : WorkflowJob) (before : job.status = .running)
      (after : job'.status = .running) (token : job'.fenceToken = job.fenceToken) :
      JobMove claims (some job) (some job')
  | settle (job job' : WorkflowJob) (before : job.status = .running)
      (after : isSettled job'.status) (token : job'.fenceToken = job.fenceToken) :
      JobMove claims (some job) (some job')

theorem Settles.jobMove {job' : WorkflowJob} (h : Settles fence job job' before after)
    (hsettled : isSettled job'.status) (htoken : job'.fenceToken = job.fenceToken) (claims : Bool)
    (k : Uuid) : JobMove claims (before.jobs.find? k) (after.jobs.find? k) := by
  by_cases hk : k = fence.jobId
  · subst hk
    rw [h.found, h.settled]
    exact .settle job job' h.running hsettled htoken
  · rcases h.others k hk with heq | ⟨hnone, now, request, hnew⟩
    · rw [heq]
      exact .keep _
    · rw [hnone, hnew]
      exact .insert now request

theorem isClaim_of_claimed {call : Jobs.Call} {answer : Jobs.Answer} {owner : String}
    {token : ℤ} (h : Jobs.eventOf k call answer = some (.claimed owner token)) :
    (Call.queue call).isClaim = true := by
  cases call with
  | claim => rfl
  | enqueue => simp [Jobs.eventOf] at h
  | renew | complete | fail =>
    unfold Jobs.eventOf at h
    split at h <;> first | contradiction | simp at h

/-- The queue's steps on a job are moves of it. -/
theorem jobMove_of_rowStep {now : Timestamptz} {row : Option WorkflowJob}
    {event : Option Jobs.JobEvent} (h : Jobs.RowStep now row event row')
    (hclaims : ∀ owner token, event = some (.claimed owner token) → claims = true) :
    JobMove claims row row' := by
  cases h with
  | idle => exact .keep _
  | enqueue request => exact .insert now request
  | claim job tenantId owner milliseconds due =>
    refine .claim job _ (hclaims _ _ rfl) ?_ rfl rfl
    simp only [Jobs.claimable, Bool.and_eq_true, Bool.or_eq_true, beq_iff_eq] at due
    tauto
  | renew job tenantId jobId owner fence milliseconds live =>
    have hrunning := (Jobs.isLiveClaim_iff.mp live).2.2.1
    exact .renew job _ hrunning hrunning rfl
  | complete job tenantId jobId owner fence result live =>
    exact .settle job _ (Jobs.isLiveClaim_iff.mp live).2.2.1 rfl rfl
  | fail job tenantId jobId owner fence error retryAt live =>
    exact .settle job _ (Jobs.isLiveClaim_iff.mp (Bool.and_elim_left live)).2.2.1 rfl rfl

/-- **Seen from one job.** -/
theorem Effect.jobMove {call : Call} {answer : Result Answer}
    (h : Effect codec before call answer after) (k : Uuid) :
    JobMove call.isClaim (before.jobs.find? k) (after.jobs.find? k) := by
  cases h with
  | refused | alreadyApplied | adopted | moved => exact .keep _
  | applied step prelocked after applied =>
    obtain ⟨job, now, hsettles⟩ := applied.settles
    exact hsettles.jobMove rfl rfl _ k
  | retried failure prelocked forceTerminal after retried =>
    obtain ⟨job, now, hterminal, hsettles⟩ := retried.settles
    exact hsettles.jobMove (by simp [failedStepJob, hterminal, isSettled]) rfl _ k
  | exhausted failure prelocked forceTerminal escalationId after exhausted =>
    obtain ⟨job, result, now, hterminal, hsettles, -⟩ := exhausted.dies
    exact hsettles.jobMove (by simp [failedStepJob, hterminal, isSettled]) rfl _ k
  | queued call now verdict =>
    exact jobMove_of_rowStep (Jobs.perform_rowStep now verdict ⟨before.jobs, .empty⟩ call k)
      fun owner token => isClaim_of_claimed

/-- A job with an outcome keeps its row until it is claimed; a completed or dead one
    keeps it for good. -/
theorem JobMove.row_stays (h : JobMove claims (some job) row')
    (hsettled : isSettled job.status) (hclaims : claims = true → job.status ≠ .retry) :
    row' = some job := by
  cases h with
  | keep => rfl
  | claim _ job' asked before =>
    rcases before with hstatus | hstatus | hstatus
    · simp [hstatus, isSettled] at hsettled
    · exact absurd hstatus (hclaims asked)
    · simp [hstatus, isSettled] at hsettled
  | renew _ job' before => simp [before, isSettled] at hsettled
  | settle _ job' before => simp [before, isSettled] at hsettled

theorem settled_row_stays (hsettled : isSettled job.status) (later : List Request)
    (hclaims : ∀ r ∈ later, r.call.isClaim → job.status ≠ .retry)
    (h : s.db.jobs.find? k = some job) :
    ((ledger codec).run s later).db.jobs.find? k = some job := by
  induction later generalizing s with
  | nil => exact h
  | cons r later ih =>
    refine ih (fun r' hr' => hclaims r' (List.mem_cons_of_mem r hr')) ?_
    have hmove := (perform_effect codec s r).jobMove k
    rw [h] at hmove
    exact hmove.row_stays hsettled (hclaims r (List.mem_cons_self ..))

/-! ## What stays -/

/-- The escalation is still there, for the same work item and attempt. -/
structure SameSubject (old row : Escalation) : Prop where
  tenantId : row.tenantId = old.tenantId
  workItemId : row.workItemId = old.workItemId
  attemptId : row.attemptId = old.attemptId

/-- No escalation is lost. -/
def EscalationsKept (before after : Table Escalation fun row => row.id) : Prop :=
  ∀ k old, before.find? k = some old → ∃ row, after.find? k = some row ∧ SameSubject old row

theorem escalationsKept_refl (escalations : Table Escalation fun row => row.id) :
    EscalationsKept escalations escalations := fun _ old h => ⟨old, h, rfl, rfl, rfl⟩

/-- Writing one row loses none. -/
theorem escalationsKept_set {before : Table Escalation fun row => row.id} {old row : Escalation}
    (hold : before.find? row.id = some old) (hsame : SameSubject old row) :
    EscalationsKept before (before.set row) := by
  intro k other hother
  rw [Table.find?_set]
  split_ifs with hk
  · subst hk
    obtain rfl : old = other := Option.some.inj (hold.symm.trans hother)
    exact ⟨row, by rw [hother]; rfl, hsame⟩
  · exact ⟨other, hother, rfl, rfl, rfl⟩

theorem Lands.kept {attemptId : Option Uuid} {jobType errorDigest : String}
    {proposed : DeadLetterEscalation} {before after : Table Escalation fun row => row.id}
    {row : Escalation} (h : Lands fence attemptId jobType errorDigest proposed before row after) :
    EscalationsKept before after := by
  cases h with
  | opened none_active opens alone new =>
    intro k old hold
    exact ⟨old, by rw [Table.find?_insert, hold]; rfl, rfl, rfl, rfl⟩
  | adopted old active merges =>
    have hmerged := mergedEscalation_eq_ok merges
    have hold := Table.find?_key_of_mem (List.mem_of_find?_eq_some active)
    exact escalationsKept_set (hmerged.id ▸ hold)
      ⟨hmerged.tenantId, hmerged.workItemId, hmerged.attemptId⟩

theorem Moves.kept
    {before after : Table Escalation fun row => row.id} (h : Moves id change before after) :
    EscalationsKept before after := by
  cases h with
  | absent => exact escalationsKept_refl _
  | moved old row found columns =>
    have hid : row.id = id := by
      rw [← Table.key_of_find? found, columns]
    refine escalationsKept_set (hid ▸ found) ⟨?_, ?_, ?_⟩ <;> rw [columns]

/-- Audit events and messages stay, and no escalation is lost. -/
structure Kept (before after : Db) : Prop where
  auditEvents : before.auditEvents.rows ⊆ after.auditEvents.rows
  outbox : before.outbox.rows ⊆ after.outbox.rows
  escalations : EscalationsKept before.escalations after.escalations

namespace Kept

theorem refl (db : Db) : Kept db db :=
  ⟨List.Subset.refl _, List.Subset.refl _, escalationsKept_refl _⟩

theorem trans {db db₁ db₂ : Db} (h : Kept db db₁) (h' : Kept db₁ db₂) : Kept db db₂ where
  auditEvents := List.Subset.trans h.auditEvents h'.auditEvents
  outbox := List.Subset.trans h.outbox h'.outbox
  escalations k old hold := by
    obtain ⟨row, hrow, hsame⟩ := h.escalations k old hold
    obtain ⟨row', hrow', hsame'⟩ := h'.escalations k row hrow
    exact ⟨row', hrow', hsame'.tenantId.trans hsame.tenantId,
      hsame'.workItemId.trans hsame.workItemId, hsame'.attemptId.trans hsame.attemptId⟩

end Kept

theorem Effect.kept {call : Call} {answer : Result Answer}
    (h : Effect codec before call answer after) : Kept before after := by
  cases h with
  | refused | alreadyApplied | adopted => exact .refl _
  | applied step prelocked after applied =>
    exact ⟨applied.auditEvents.subset, applied.outbox.subset,
      applied.escalations ▸ escalationsKept_refl _⟩
  | retried failure prelocked forceTerminal after retried =>
    rw [retried.unchanged]
    exact ⟨List.Subset.refl _, List.Subset.refl _, escalationsKept_refl _⟩
  | exhausted failure prelocked forceTerminal escalationId after exhausted =>
    obtain ⟨job, result, now, -, -, hletter⟩ := exhausted.dies
    obtain ⟨_, _, -, hlands, -⟩ := hletter.lands
    obtain ⟨_, _, _, _, -, -, -, -, hrows, -, -⟩ := hletter.recorded
    exact ⟨hrows ▸ List.subset_append_left _ _, hletter.outbox.subset, hlands.kept⟩
  | queued => exact ⟨List.Subset.refl _, List.Subset.refl _, escalationsKept_refl _⟩
  | moved id change escalations moves =>
    exact ⟨List.Subset.refl _, List.Subset.refl _, moves.kept⟩

theorem run_kept (s : State) (requests : List Request) :
    Kept s.db ((ledger codec).run s requests).db :=
  (ledger codec).run_rel (P := fun _ => True) (R := fun s s' => Kept s.db s'.db)
    (fun s => .refl s.db) (fun _ _ _ => .trans) (fun _ _ _ => trivial)
    (fun s r _ => (perform_effect codec s r).kept) trivial requests

/-- The job is still there, under no older fence, and as it was if it had ended. -/
def JobKept (row row' : Option WorkflowJob) : Prop :=
  ∀ job ∈ row, ∃ job' ∈ row', job.fenceToken ≤ job'.fenceToken
    ∧ (job.status = .completed ∨ job.status = .dead → job' = job)

theorem JobMove.kept {row : Option WorkflowJob} (h : JobMove claims row row') :
    JobKept row row' := by
  rintro job ⟨⟩
  cases h with
  | keep => exact ⟨job, rfl, le_rfl, fun _ => rfl⟩
  | claim _ job' _ before _ token =>
    refine ⟨job', rfl, by omega, ?_⟩
    rcases before with before | before | before <;> simp [before]
  | renew _ job' before _ token | settle _ job' before _ token =>
    exact ⟨job', rfl, token.ge, by simp [before]⟩

/-- **Nothing is lost**, from any state and in every interleaving. -/
theorem nothing_lost (codec : Codec) (s : State) (requests : List Request) (k : Uuid) :
    Kept s.db ((ledger codec).run s requests).db ∧
      JobKept (s.db.jobs.find? k) (((ledger codec).run s requests).db.jobs.find? k) := by
  refine ⟨run_kept s requests, (ledger codec).run_rel (P := fun _ => True)
    (R := fun s s' => JobKept (s.db.jobs.find? k) (s'.db.jobs.find? k))
    (fun _ job hjob => ⟨job, hjob, le_rfl, fun _ => rfl⟩) ?_ (fun _ _ _ => trivial)
    (fun s r _ => ((perform_effect codec s r).jobMove k).kept) trivial requests⟩
  intro a b c h h' job hjob
  obtain ⟨job₁, hjob₁, hle, hended⟩ := h job hjob
  obtain ⟨job₂, hjob₂, hle', hended'⟩ := h' job₁ hjob₁
  refine ⟨job₂, hjob₂, hle.trans hle', fun hend => ?_⟩
  obtain rfl := hended hend
  exact hended' hend

end Asf.Steps
