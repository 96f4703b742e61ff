import Asf.Steps.Effects

/-!
# What one failed workflow step does

The counterpart of `Asf.Steps.Effects` for `fail_workflow_step`: a dead letter
lands on an escalation, the facts about it are recorded, and the job is retried
or dead.

Results:

* `Lands`: where a dead letter lands.
* `deadLetterStep_spec`: the writes of an exhausted job.
* `failWorkflowStepInner_cases`: everything a failure can have done.
-/

namespace Asf.Steps

open Lib
open Jobs (WorkflowJob)
open Except (ok)
open Prod (mk)

variable {row : Escalation} {proposed escalation : DeadLetterEscalation} {attemptId : Option Uuid}
  {workItemId tenantId : Uuid} {failure : WorkflowStepFailure} {errorSummary : String}
  {forceTerminal : Bool} {outcome : WorkflowStepFailureOutcome} {job : WorkflowJob}

variable {codec : Codec} {s s' : Session Db} {fence : WorkflowStepFence} {reason action : String}
  {db db' : Db}

/-! ## The escalation -/

/-- The active escalation of a dead letter, if there is one. -/
def activeEscalation (escalations : Table Escalation fun row => row.id) (tenantId workItemId : Uuid)
    (attemptId : Option Uuid) (category : String) : Option Escalation :=
  escalations.rows.find? (isActiveFor tenantId workItemId attemptId category)

/-- Where the normalized dead letter `proposed` lands: on a new row, or on the
    active one. -/
inductive Lands (fence : WorkflowStepFence) (attemptId : Option Uuid)
    (jobType errorDigest : String) (proposed : DeadLetterEscalation)
    (before : Table Escalation fun row => row.id) (row : Escalation) :
    Table Escalation (fun row => row.id) → Prop
  | opened
      (none_active : activeEscalation before fence.tenantId fence.workItemId attemptId
        proposed.category = none)
      (opens : openedEscalation fence.tenantId fence.workItemId attemptId proposed = .ok row)
      (alone : ¬ before.rows.any (sharesOpenCategory · row))
      (new : row.id ∉ before.rows.map fun row => row.id) :
      Lands fence attemptId jobType errorDigest proposed before row (before.insert row new)
  | adopted (old : Escalation)
      (active : activeEscalation before fence.tenantId fence.workItemId attemptId
        proposed.category = some old)
      (merges : mergedEscalation proposed (reasonFact fence.jobId jobType errorDigest)
        (actionFact fence.jobId jobType errorDigest) old = .ok row) :
      Lands fence attemptId jobType errorDigest proposed before row (before.set row)

theorem columns_of_escalationChecked {columns : EscalationColumns} (h : columns.checked = .ok row) :
    row.toEscalationColumns = columns := by
  unfold EscalationColumns.checked at h
  split_ifs at h
  rw [← ok.inj h]

/-- What a merge keeps of the active escalation, and how it moves the rest. -/
structure Merged (proposed : DeadLetterEscalation) (old row : Escalation) : Prop where
  id : row.id = old.id
  tenantId : row.tenantId = old.tenantId
  workItemId : row.workItemId = old.workItemId
  attemptId : row.attemptId = old.attemptId
  category : row.category = old.category
  status : row.status = old.status
  ownerId : row.ownerId = old.ownerId
  severity : row.severity = if old.severity = .critical ∨ proposed.severity = "CRITICAL" then
    .critical else .high
  evidence : ∃ candidates, proposed.evidenceReferences = .arr candidates ∧
    row.evidenceReferences = mergeEvidence old.evidenceReferences candidates
  deadline : row.deadline = min old.deadline proposed.deadline.encode

theorem mergedEscalation_eq_ok {old : Escalation}
    (h : mergedEscalation proposed reason action old = .ok row) : Merged proposed old row := by
  simp only [mergedEscalation, bind_eq_ok_iff] at h
  obtain ⟨candidates, hcandidates, _, -, h⟩ := h
  have hevidence := Json.asArray_eq_some_iff.mp (okOr_eq_ok_iff.mp hcandidates)
  have hcolumns := columns_of_escalationChecked h
  constructor <;> try rw [hcolumns]
  exact ⟨candidates, hevidence, rfl⟩

/-- What a new escalation takes from the dead letter. -/
structure Opened (tenantId workItemId : Uuid) (attemptId : Option Uuid)
    (proposed : DeadLetterEscalation) (row : Escalation) : Prop where
  id : row.id = proposed.id
  tenantId : row.tenantId = tenantId
  workItemId : row.workItemId = workItemId
  attemptId : row.attemptId = attemptId
  category : row.category.text = proposed.category
  status : row.status = .open
  severity : row.severity.text = proposed.severity
  evidence : proposed.evidenceReferences = .arr row.evidenceReferences
  deadline : row.deadline = proposed.deadline.encode

theorem openedEscalation_eq_ok
    (h : openedEscalation tenantId workItemId attemptId proposed = .ok row) :
    Opened tenantId workItemId attemptId proposed row := by
  simp only [openedEscalation, bind_eq_ok_iff] at h
  obtain ⟨category, hcategory, severity, hseverity, ownerType, -, evidence, hevidence, path, -,
    policy, -, prerequisites, -, h⟩ := h
  have hcolumns := columns_of_escalationChecked h
  constructor <;> rw [hcolumns]
  · exact text_of_checkedText hcategory
  · exact text_of_checkedText hseverity
  · exact Json.asArray_eq_some_iff.mp (okOr_eq_ok_iff.mp hevidence)

theorem insertEscalation_eq_ok
    (h : insertEscalation tenantId workItemId attemptId escalation db = .ok (some row, db')) :
    openedEscalation tenantId workItemId attemptId escalation = .ok row ∧
      ¬ db.escalations.rows.any (sharesOpenCategory · row) ∧
      ∃ new, db' = db.withEscalations (db.escalations.insert row new) := by
  simp only [insertEscalation, bind_eq_ok_iff] at h
  obtain ⟨row', hrow, h⟩ := h
  split_ifs at h with halone hkey
  · cases (mk.inj (ok.inj h)).1
  · cases h
  · cases hinsert : db.escalations.insert? row' with
    | none => simp [hinsert, throw, throwThe, MonadExceptOf.throw] at h
    | some escalations =>
      simp only [hinsert] at h
      obtain ⟨⟨⟩, rfl⟩ := mk.inj (ok.inj h)
      obtain ⟨hnew, rfl⟩ := Table.insert?_eq_some_iff.mp hinsert
      exact ⟨hrow, halone, hnew, rfl⟩

theorem db_of_insertEscalation_none
    (h : insertEscalation tenantId workItemId attemptId escalation db = .ok (none, db')) :
    db' = db := by
  simp only [insertEscalation, bind_eq_ok_iff] at h
  obtain ⟨row, -, h⟩ := h
  split_ifs at h
  · exact (mk.inj (ok.inj h)).2.symm
  · cases h
  · cases hinsert : db.escalations.insert? row with
    | none => simp [hinsert, throw, throwThe, MonadExceptOf.throw] at h
    | some escalations =>
      simp only [hinsert] at h
      cases (mk.inj (ok.inj h)).1

theorem commits_mergeActiveDeadLetter {before after : EffectiveDeadLetterEscalation}
   
    (h : Commits (mergeActiveDeadLetter codec before proposed reason action) s after s') :
    ∃ old row, s.db.escalations.find? before.record.id = some old ∧
      mergedEscalation proposed reason action old = .ok row ∧
      after = effectiveDeadLetterFromRow codec row proposed ∧
      s'.db = s.db.withEscalations (s.db.escalations.set row) := by
  simp only [mergeActiveDeadLetter, commits_execute_bind, commits_orFail_bind,
    commits_pure, bind_eq_ok_iff] at h
  obtain ⟨-, _, db, ⟨⟨_, escalations⟩, hupdate, hdb⟩, row, rfl, rfl, rfl⟩ := h
  obtain ⟨rfl, rfl⟩ := mk.inj (ok.inj hdb)
  obtain ⟨old, hold, -, hmerged, rfl⟩ := Table.updateOne_eq_some_iff.mp hupdate
  exact ⟨old, row, hold, hmerged, rfl, rfl⟩

/-- **A dead letter lands on one escalation.** -/
theorem insertDeadLetterEscalation_spec {jobType errorDigest : String}
    {mutation : DeadLetterMutation}
    (h : Commits (insertDeadLetterEscalation codec failure attemptId jobType errorDigest) s
      mutation s') :
    ∃ proposed row escalations,
      normalizedDeadLetter failure.deadLetter failure.fence.jobId jobType errorDigest
        = .ok proposed ∧
      mutation.after = effectiveDeadLetterFromRow codec row proposed ∧
      s'.db = s.db.withEscalations escalations ∧
      Lands failure.fence attemptId jobType errorDigest proposed s.db.escalations row
        escalations := by
  simp only [insertDeadLetterEscalation, commits_ofExcept_bind, loadActiveDeadLetter,
    commits_select_bind] at h
  obtain ⟨proposed, hproposed, h⟩ := h
  cases hactive : s.db.escalations.rows.find? (isActiveFor failure.fence.tenantId
      failure.fence.workItemId attemptId proposed.category) with
  | some old =>
    simp only [hactive, commits_bind] at h
    obtain ⟨after, s₁, hmerge, hpure⟩ := h
    obtain ⟨rfl, rfl⟩ := commits_pure.mp hpure
    obtain ⟨old', row, hold', hmerged, rfl, hdb⟩ := commits_mergeActiveDeadLetter hmerge
    obtain rfl : old = old' := by
      have hold := Table.find?_key_of_mem (List.mem_of_find?_eq_some hactive)
      exact Option.some.inj (hold.symm.trans hold')
    exact ⟨proposed, row, _, hproposed, rfl, hdb, .adopted old hactive hmerged⟩
  | none =>
    simp only [hactive, commits_execute_bind] at h
    obtain ⟨-, inserted, db, hinsert, h⟩ := h
    cases inserted with
    | some row =>
      obtain ⟨rfl, rfl⟩ := commits_pure.mp h
      obtain ⟨hopened, halone, hnew, rfl⟩ := insertEscalation_eq_ok hinsert
      exact ⟨proposed, row, _, hproposed, rfl, rfl, .opened hactive hopened halone hnew⟩
    | none =>
      -- A conflict leaves the table as it was, so that the second read finds nothing either.
      obtain rfl := db_of_insertEscalation_none hinsert
      simp [hactive, reduceCtorEq] at h

section Landing

variable {jobType errorDigest : String} {before after : Table Escalation fun row => row.id}

section

variable (h : Lands fence attemptId jobType errorDigest proposed before row after)

include h

theorem Lands.found : after.find? row.id = some row := by
  cases h with
  | opened none_active opens alone new =>
    rw [Table.find?_insert, Table.find?_eq_none_of_notMem new, if_pos rfl]
    rfl
  | adopted old active merges =>
    have hold := Table.find?_key_of_mem (List.mem_of_find?_eq_some active)
    exact Table.find?_set_self ((mergedEscalation_eq_ok merges).id ▸ hold)

/-- The escalation is active, for the work item and the attempt of the dead letter. -/
theorem Lands.active :
    isActiveFor fence.tenantId fence.workItemId attemptId proposed.category row := by
  cases h with
  | opened none_active opens alone new =>
    have hopened := openedEscalation_eq_ok opens
    simp [isActiveFor, hopened.tenantId, hopened.workItemId, hopened.attemptId,
      hopened.category, hopened.status, EscalationStatus.isActive]
  | adopted old active merges =>
    have hmerged := mergedEscalation_eq_ok merges
    have hold : isActiveFor fence.tenantId fence.workItemId attemptId proposed.category old :=
      List.find?_some active
    simpa [isActiveFor, hmerged.tenantId, hmerged.workItemId, hmerged.attemptId, hmerged.category,
      hmerged.status] using hold

end

end Landing

/-! ## The facts about it -/

/-- What the escalation, audit, outbox and aggregate writes of an exhausted job have
    done; `result` is what the job will store. -/
structure DeadLettered (codec : Codec) (failure : WorkflowStepFailure) (attemptId : Option Uuid)
    (jobType errorDigest : String) (escalationId : Uuid) (result : Json) (before after : Db) :
    Prop where
  lands : ∃ proposed row,
    normalizedDeadLetter failure.deadLetter failure.fence.jobId jobType errorDigest = .ok proposed ∧
    Lands failure.fence attemptId jobType errorDigest proposed before.escalations row
      after.escalations ∧ row.id = escalationId
  advances : Advances failure.fence "ESCALATED" "WAITING" .escalation escalationId before after
  recorded : ∃ mutation audit event outbox,
    mutation.after.record.id = escalationId ∧
    result = deadLetterResult codec failure mutation jobType errorDigest ∧
    effectiveDeadLetterAudit codec failure mutation jobType errorDigest = .ok audit ∧
    canonicalStepAuditEvent codec failure.fence audit
      (before.auditChainHead failure.fence.tenantId) = .ok event ∧
    after.auditEvents.rows = before.auditEvents.rows ++ [auditRow failure.fence event] ∧
    effectiveDeadLetterOutbox codec failure mutation jobType errorDigest = .ok outbox ∧
    ∃ row ∈ after.outbox.rows, outboxMatches row (outbox.row failure.fence.tenantId)
  outbox : before.outbox.rows <+: after.outbox.rows

/-- The writes of an exhausted job, before the job itself. -/
theorem deadLetterStep_spec {jobType errorDigest : String} {r : Uuid × Json}
    (h : Commits (deadLetterStep codec failure attemptId jobType errorDigest) s r s') :
    s'.db.jobs = s.db.jobs ∧
      DeadLettered codec failure attemptId jobType errorDigest r.1 r.2 s.db s'.db := by
  simp only [deadLetterStep, commits_bind] at h
  obtain ⟨_, s₀, hlock, mutation, s₁, hmutation, audit, s₂, hauditOk, outbox, s₃, houtboxOk, _,
    s₄, hmessage, _, s₅, hevent, v, s₆, hwork, cursor, s₇, hcursor, ⟨w, f⟩, s₈, hflow, g, s₉,
    hreplace, hpure⟩ := h
  obtain ⟨rfl, rfl⟩ := commits_pure.mp hpure
  obtain ⟨haudit, rfl⟩ := commits_ofExcept.mp hauditOk
  obtain ⟨houtbox, rfl⟩ := commits_ofExcept.mp houtboxOk
  have hdb₀ := db_of_lockStepAggregates hlock
  obtain ⟨proposed, row, escalations, hproposed, hafter, hdb₁, hlands⟩ :=
    insertDeadLetterEscalation_spec hmutation
  obtain ⟨messages, hdb₄, hprefix, hmatch⟩ := commits_insertOutboxMessage hmessage
  obtain ⟨event, auditEvents, hcanonical, hdb₅, hrows⟩ := commits_insertAuditEvent hevent
  obtain ⟨workItems, hdb₆, rfl, hworkItem⟩ := commits_updateWorkItem hwork
  have hdb₇ := db_of_currentWorkflowCursor hcursor
  obtain ⟨workflows, hdb₈, -, hworkflow⟩ := commits_updateWorkflow hflow
  obtain ⟨anchors, hdb₉, rfl, hanchor⟩ := commits_replaceAccountability hreplace
  rw [hdb₀] at hlands hdb₁
  rw [hdb₁] at hdb₄ hprefix
  rw [hdb₄] at hdb₅ hcanonical hrows
  rw [hdb₅] at hdb₆ hworkItem
  rw [hdb₇, hdb₆] at hdb₈ hworkflow
  rw [hdb₈] at hdb₉ hanchor
  rw [hdb₉]
  refine ⟨rfl, ⟨proposed, row, hproposed, hlands, by rw [hafter]; rfl⟩,
    ⟨hworkItem, hworkflow, hanchor⟩, ?_, hprefix⟩
  exact ⟨mutation, audit, event, outbox, rfl, rfl, haudit, hcanonical, hrows, houtbox, hmatch⟩

/-! ## `fail_workflow_step` -/

@[simp] theorem failedStepJob_id (failure : WorkflowStepFailure) (errorSummary : String)
    (escalationId : Uuid) (result : Option Json) (forceTerminal : Bool) (now : Timestamptz)
    (job : WorkflowJob) :
    (failedStepJob failure errorSummary escalationId result forceTerminal now job).id = job.id :=
  rfl

theorem commits_failStepJob {escalationId : Uuid} {result : Option Json} {updated : WorkflowJob}
    (h : Commits (failStepJob failure errorSummary escalationId result forceTerminal) s
      updated s') :
    ∃ jobs job now, s'.db = s.db.withJobs jobs ∧ s.db.jobs.find? failure.fence.jobId = some job ∧
      job.status = .running ∧ job.leaseOwner = some failure.fence.leaseOwner ∧
      job.fenceToken = failure.fence.jobFenceToken ∧
      updated = failedStepJob failure errorSummary escalationId result forceTerminal now job ∧
      jobs.find? failure.fence.jobId = some updated ∧
      ∀ k, k ≠ failure.fence.jobId → jobs.find? k = s.db.jobs.find? k := by
  simp only [failStepJob, commits_clockTimestamp_bind, commits_execute_bind, commits_orFail,
    Session.tick_db, bind_eq_ok_iff] at h
  obtain ⟨-, _, db, ⟨⟨_, jobs⟩, hupdate, hdb⟩, rfl, rfl⟩ := h
  obtain ⟨rfl, rfl⟩ := mk.inj (ok.inj hdb)
  obtain ⟨job, hjob, hrunning, howner, htoken, hupdated, hfind, hothers⟩ :=
    updateOne_isOwnedClaim (failedStepJob_id failure errorSummary escalationId result
      forceTerminal _) hupdate
  exact ⟨jobs, job, _, rfl, hjob, hrunning, howner, htoken, hupdated, hfind, hothers⟩

/-- What a failure that is retried has done. -/
structure Retried (failure : WorkflowStepFailure) (forceTerminal : Bool) (before after : Db) :
    Prop where
  valid : failure.validate = .ok ()
  settles : ∃ job now, isTerminal forceTerminal job = false ∧
    Settles failure.fence job (failedStepJob failure (Jobs.summarizeError failure.errorSummary)
      failure.deadLetter.id none forceTerminal now job) before after
  unchanged : after = before.withJobs after.jobs

/-- What a failure that exhausts its job has done. -/
structure Exhausted (codec : Codec) (failure : WorkflowStepFailure) (forceTerminal : Bool)
    (escalationId : Uuid) (before after : Db) : Prop where
  valid : failure.validate = .ok ()
  dies : ∃ job result now, isTerminal forceTerminal job = true ∧
    Settles failure.fence job (failedStepJob failure (Jobs.summarizeError failure.errorSummary)
      escalationId (some result) forceTerminal now job) before after ∧
    DeadLettered codec failure job.attemptId job.jobType (codec.textDigest failure.errorSummary)
      escalationId result before after

/-- The writes of a failure. -/
theorem recordFailure_spec (hvalid : failure.validate = .ok ())
    (hjob : s.db.jobs.find? failure.fence.jobId = some job)
    (htenant : job.tenantId = failure.fence.tenantId)
    (hbound : job.workflowInstanceId = some failure.fence.workflowInstanceId ∧
      job.workItemId = some failure.fence.workItemId)
    (h : Commits (recordFailure codec failure forceTerminal job) s outcome s') :
    outcome = ⟨.retryScheduled, true, none⟩ ∧ Retried failure forceTerminal s.db s'.db ∨
      ∃ escalationId, outcome = ⟨.escalated, true, some escalationId⟩ ∧
        Exhausted codec failure forceTerminal escalationId s.db s'.db := by
  simp only [recordFailure] at h
  cases hterminal : isTerminal forceTerminal job with
  | false =>
    simp only [hterminal, Bool.false_eq_true, if_false, pure_bind, commits_bind] at h
    obtain ⟨updated, s₂, hfail, disposition, s₃, hanswer, hpure⟩ := h
    obtain ⟨rfl, rfl⟩ := commits_pure.mp hpure
    obtain ⟨hdisposition, rfl⟩ := commits_ofExcept.mp hanswer
    obtain ⟨jobs, job', now, hdb, hjob', hrunning, howner, htoken, rfl, hsettled, hothers⟩ :=
      commits_failStepJob hfail
    obtain rfl : job = job' := Option.some.inj (hjob.symm.trans hjob')
    simp only [stepFailureDisposition, failedStepJob, hterminal, Bool.false_eq_true, if_false,
      Bool.not_false, and_self, if_true] at hdisposition
    obtain rfl := ok.inj hdisposition
    refine .inl ⟨rfl, hvalid, ⟨job, now, hterminal, ?_⟩, by rw [hdb]; rfl⟩
    rw [hdb]
    exact ⟨hjob, htenant, hbound, hrunning, howner, htoken, hsettled,
      fun k hk => .inl (hothers k hk)⟩
  | true =>
    simp only [hterminal, if_true, commits_bind, commits_map] at h
    obtain ⟨_, s₁, ⟨⟨escalationId, result⟩, hdead, rfl⟩, updated, s₂, hfail, disposition, s₃,
      hanswer, hpure⟩ := h
    obtain ⟨rfl, rfl⟩ := commits_pure.mp hpure
    obtain ⟨hdisposition, rfl⟩ := commits_ofExcept.mp hanswer
    obtain ⟨hjobs, hletter⟩ := deadLetterStep_spec hdead
    obtain ⟨jobs, job', now, hdb, hjob', hrunning, howner, htoken, rfl, hsettled, hothers⟩ :=
      commits_failStepJob hfail
    rw [hjobs] at hjob' hothers
    obtain rfl : job = job' := Option.some.inj (hjob.symm.trans hjob')
    simp only [stepFailureDisposition, failedStepJob, hterminal, if_true, reduceCtorEq,
      Bool.not_true, Bool.false_eq_true, and_self, if_false] at hdisposition
    obtain rfl := ok.inj hdisposition
    refine .inr ⟨escalationId, rfl, hvalid, job, result, now, hterminal, ?_, ?_⟩
    · rw [hdb]
      exact ⟨hjob, htenant, hbound, hrunning, howner, htoken, hsettled,
        fun k hk => .inl (hothers k hk)⟩
    · rw [hdb]
      exact ⟨hletter.lands, ⟨hletter.advances.workItem, hletter.advances.workflow,
        hletter.advances.anchor⟩, hletter.recorded, hletter.outbox⟩

/-- When a failure counts as a repeated one, and the answer to it. -/
theorem repeatedFailureOutcome_eq_some_iff :
    repeatedFailureOutcome job failure errorSummary = .ok (some outcome) ↔
      (job.status = .retry ∨ job.status = .dead) ∧
        job.lastFailureBy = some failure.fence.leaseOwner ∧
        job.lastFailureFenceToken = some failure.fence.jobFenceToken ∧
        job.lastFailureRetryAt.map DateTime.decode = some failure.retryAt ∧
        job.lastError = some errorSummary ∧
        (job.status = .dead → job.deadLetterEscalationId ≠ none) ∧
        outcome = {
          disposition := if job.status = .dead then .escalated else .retryScheduled
          newlyRecorded := false
          deadLetterEscalationId := job.deadLetterEscalationId } := by
  by_cases hstatus : job.status ≠ .retry ∧ job.status ≠ .dead
  · rw [repeatedFailureOutcome, if_pos hstatus]
    simp only [ok.injEq, reduceCtorEq, false_iff, not_and]
    tauto
  · rw [repeatedFailureOutcome, if_neg hstatus]
    simp only [failIf_bind_eq_ok_iff, not_or, not_not, not_and]
    constructor
    · rintro ⟨⟨hby, htoken⟩, ⟨hretryAt, herror⟩, hdead, h⟩
      obtain rfl := Option.some.inj (ok.inj h)
      exact ⟨by tauto, hby, htoken, hretryAt, herror, hdead, rfl⟩
    · rintro ⟨-, hby, htoken, hretryAt, herror, hdead, rfl⟩
      exact ⟨⟨hby, htoken⟩, ⟨hretryAt, herror⟩, hdead, rfl⟩

theorem repeatedFailureOutcome_ne_none (hstatus : job.status = .retry ∨ job.status = .dead) :
    repeatedFailureOutcome job failure errorSummary ≠ .ok none := by
  have hsettled : ¬ (job.status ≠ .retry ∧ job.status ≠ .dead) := by tauto
  rw [repeatedFailureOutcome, if_neg hsettled]
  simp only [ne_eq, failIf_bind_eq_ok_iff, not_and]
  intro _ _ _ h
  cases ok.inj h

/-- An adopted failure changes nothing. -/
theorem commits_adoptFailure {outcome' : WorkflowStepFailureOutcome} :
    Commits (adoptFailure codec failure job outcome) s outcome' s' ↔
      outcome' = outcome ∧ s' = s ∧ (outcome.disposition = .escalated → ∃ escalationId,
        outcome.deadLetterEscalationId = some escalationId ∧
        s.db.deadLetterExists failure.fence escalationId job.jobType
          (codec.textDigest failure.errorSummary)) := by
  unfold adoptFailure
  split_ifs with hdisposition
  · simp only [verifyDeadLetterExists, commits_bind, commits_orFail, commits_select,
      commits_reject, commits_pure, hdisposition]
    constructor
    · rintro ⟨id, _, ⟨hid, rfl⟩, _, _, ⟨_, _, ⟨rfl, rfl⟩, hexists, rfl⟩, rfl, rfl⟩
      exact ⟨rfl, rfl, fun _ => ⟨id, hid, by simpa using hexists⟩⟩
    · rintro ⟨rfl, rfl, hid⟩
      obtain ⟨id, hid, hexists⟩ := hid trivial
      exact ⟨id, _, ⟨hid, rfl⟩, (), _, ⟨_, _, ⟨rfl, rfl⟩, by simpa using hexists, rfl⟩, rfl, rfl⟩
  · simp [hdisposition]

/-- **Everything a committed `fail_workflow_step` can have done.** -/
theorem failWorkflowStepInner_cases {prelocked : Bool}
    (h : Commits (failWorkflowStepInner codec failure prelocked forceTerminal) s outcome s') :
    outcome.newlyRecorded = false ∧ s'.db = s.db ∨
      outcome = ⟨.retryScheduled, true, none⟩ ∧ Retried failure forceTerminal s.db s'.db ∨
      ∃ escalationId, outcome = ⟨.escalated, true, some escalationId⟩ ∧
        Exhausted codec failure forceTerminal escalationId s.db s'.db := by
  simp only [failWorkflowStepInner, commits_ofExcept_bind] at h
  obtain ⟨_, hvalid, h⟩ := h
  obtain ⟨⟨job, live⟩, s₁, hlock, h⟩ := commits_bind.mp h
  obtain ⟨_, hjob, htenant, hr, rfl⟩ := commits_lockStepJob.mp hlock
  obtain ⟨rfl, -⟩ := mk.inj hr
  simp only [commits_ofExcept_bind] at h
  obtain ⟨_, hbound, repeated, hrepeated, h⟩ := h
  cases repeated with
  | some outcome' =>
    obtain ⟨rfl, rfl, -⟩ := commits_adoptFailure.mp h
    obtain ⟨-, -, -, -, -, -, rfl⟩ := repeatedFailureOutcome_eq_some_iff.mp hrepeated
    exact .inl ⟨rfl, rfl⟩
  | none =>
    simp only [commits_ofExcept_bind] at h
    obtain ⟨_, -, hrecord⟩ := h
    exact .inr (recordFailure_spec (s := s.tick) hvalid hjob htenant
      (requireStepBinding_eq_ok_iff.mp hbound) hrecord)

end Asf.Steps
