import Asf.Steps.Runs

/-!
# What a repeated call finds

The receipt a commit or a failure leaves in the row of its job, and the answer
of an equal call that meets it. A repeated dead letter is checked against the
escalation, the audit event and the message that were written with it.

Results:

* `commit_repeated`: a repeated commit is adopted exactly when its result reads
  back as it was written.
* `retry_repeated`, `death_repeated`: the same for a failure.
-/

namespace Asf.Steps

open Lib
open Jobs (WorkflowJob)
open Option (some)
open Json (text_of_field_str text_of_sqlEq)

variable {codec : Codec} {failure : WorkflowStepFailure} (fields : List (String × Json))

/-! ## The facts about a dead letter -/

/-- A document with the entries that name the job and its escalation. -/
structure Names (codec : Codec) (failure : WorkflowStepFailure) (mutation : DeadLetterMutation)
    (jobType errorDigest : String) (document : Json) : Prop where
  jobId : document.field "workflow_job_id" = some (uuidJson failure.fence.jobId)
  jobType : document.field "job_type" = some (.str jobType)
  errorDigest : document.field "error_digest" = some (.str errorDigest)
  escalationId : document.field "escalation_id" = some (uuidJson mutation.after.record.id)
  escalation : document.field "escalation" = some (deadLetterEscalationFact codec mutation.after)
  mutation : document.field "escalation_mutation" = some (deadLetterMutationFact codec mutation)

theorem names_audit (mutation : DeadLetterMutation) (jobType errorDigest : String) :
    Names codec failure mutation jobType errorDigest
      (.obj (Json.insertFields fields
        (auditEntries codec failure mutation jobType errorDigest))) := by
  constructor <;> exact Json.field_insertFields (by simp [auditEntries]) (by simp [auditEntries])

theorem names_outbox (mutation : DeadLetterMutation) (jobType errorDigest : String) :
    Names codec failure mutation jobType errorDigest
      (.obj (Json.insertFields fields
        (outboxEntries codec failure mutation jobType errorDigest))) := by
  constructor <;> exact Json.field_insertFields (by simp [outboxEntries]) (by simp [outboxEntries])

/-- The members of the stored result. -/
theorem field_deadLetterResult (codec : Codec) (failure : WorkflowStepFailure)
    (mutation : DeadLetterMutation) (jobType errorDigest : String) :
    let result := deadLetterResult codec failure mutation jobType errorDigest
    result.field "workflow_job_id" = some (uuidJson failure.fence.jobId) ∧
      result.field "job_type" = some (.str jobType) ∧
      result.field "error_digest" = some (.str errorDigest) ∧
      result.field "escalation" = some (deadLetterEscalationFact codec mutation.after) ∧
      result.field "escalation_mutation" = some (deadLetterMutationFact codec mutation) ∧
      result.field "audit_event_id" = some (uuidJson failure.deadLetter.auditEvent.id) ∧
      result.field "outbox_id" = some (uuidJson failure.deadLetter.outboxMessage.id) := by
  refine ⟨?_, ?_, ?_, ?_, ?_, ?_, ?_⟩ <;>
    exact Json.field_ofFields (by simp) (by simp)

theorem text_id_deadLetterEscalationFact (escalation : EffectiveDeadLetterEscalation) :
    (deadLetterEscalationFact codec escalation).text "id" = some escalation.record.id.toText :=
  text_of_field_str (Json.field_ofFields (by simp) (by simp [uuidJson]))

theorem sqlEqual_field {document proposed value : Json} (heq : document.sqlEq proposed)
    {key : String} (h : proposed.field key = some value) :
    sqlEqual (document.field key) (some value) := by
  have hfield := Json.map_normalize_field heq key
  rw [h] at hfield
  obtain ⟨v, hv, hnormal⟩ := Option.map_eq_some_iff.mp hfield
  rw [hv]
  exact decide_eq_true hnormal

/-- A document that is equal to one with the entries passes the check of a repeated
    failure. -/
theorem recordsDeadLetter_of_names {mutation : DeadLetterMutation} {jobType errorDigest : String}
    {document proposed : Json} (h : Names codec failure mutation jobType errorDigest proposed)
    (heq : document.sqlEq proposed) :
    recordsDeadLetter document (deadLetterResult codec failure mutation jobType errorDigest)
      failure.fence.jobId mutation.after.record.id jobType errorDigest := by
  obtain ⟨-, -, -, hescalation, hmutation, -⟩ :=
    field_deadLetterResult codec failure mutation jobType errorDigest
  have hescalations := sqlEqual_field heq h.escalation
  have hmutations := sqlEqual_field heq h.mutation
  simp only [recordsDeadLetter, namesJob, text_of_sqlEq heq h.jobId, text_of_sqlEq heq h.jobType,
    text_of_sqlEq heq h.errorDigest, text_of_sqlEq heq h.escalationId, hescalation, hmutation,
    hescalations, hmutations, beq_self_eq_true, Bool.and_self]

/-- The audit event of a dead letter. -/
structure AuditFact (codec : Codec) (failure : WorkflowStepFailure) (mutation : DeadLetterMutation)
    (jobType errorDigest : String) (row : AuditRow) : Prop where
  id : row.id = failure.deadLetter.auditEvent.id
  tenantId : row.tenantId = failure.fence.tenantId
  subjectType : row.subjectType = "WORKFLOW_JOB"
  subjectId : row.subjectId = failure.fence.jobId.toText
  action : row.action = failure.deadLetter.auditEvent.action
  details : Names codec failure mutation jobType errorDigest row.details

/-- The message of a dead letter. -/
structure OutboxFact (codec : Codec) (failure : WorkflowStepFailure)
    (mutation : DeadLetterMutation) (jobType errorDigest : String) (row : OutboxRow) : Prop where
  id : row.id = failure.deadLetter.outboxMessage.id
  tenantId : row.tenantId = failure.fence.tenantId
  eventType : row.eventType = failure.deadLetter.outboxMessage.eventType
  payload : ∃ proposed, Names codec failure mutation jobType errorDigest proposed ∧
    row.payload.sqlEq proposed

/-- What a dead letter has left in the tables. -/
structure DeadLetterFacts (codec : Codec) (failure : WorkflowStepFailure)
    (attemptId : Option Uuid) (jobType errorDigest : String) (escalationId : Uuid)
    (result : Json) (db : Db) : Prop where
  recorded : ∃ mutation : DeadLetterMutation, mutation.after.record.id = escalationId ∧
    result = deadLetterResult codec failure mutation jobType errorDigest ∧
    (∃ row ∈ db.auditEvents.rows, AuditFact codec failure mutation jobType errorDigest row) ∧
    ∃ row ∈ db.outbox.rows, OutboxFact codec failure mutation jobType errorDigest row
  escalation : ∃ row, db.escalations.find? escalationId = some row ∧
    row.tenantId = failure.fence.tenantId ∧ row.workItemId = failure.fence.workItemId ∧
    row.attemptId = attemptId

section Facts

variable {attemptId : Option Uuid} {jobType errorDigest : String} {escalationId : Uuid}
  {result : Json} {mutation : DeadLetterMutation} {before after : Db}

theorem auditFact_of_effective {audit : StepAuditEvent} {head : Option String}
    {event : HashedAuditEvent}
    (haudit : effectiveDeadLetterAudit codec failure mutation jobType errorDigest = .ok audit)
    (hevent : canonicalStepAuditEvent codec failure.fence audit head = .ok event) :
    AuditFact codec failure mutation jobType errorDigest (auditRow failure.fence event) := by
  simp only [effectiveDeadLetterAudit, bind_eq_ok_iff] at haudit
  obtain ⟨details, -, _, -, _, -, _, -, haudit⟩ := haudit
  obtain rfl := Except.ok.inj haudit
  simp only [canonicalStepAuditEvent, HashedAuditEvent.create, bind_eq_ok_iff] at hevent
  obtain ⟨_, -, _, -, hevent⟩ := hevent
  obtain rfl := Except.ok.inj hevent
  exact ⟨rfl, rfl, rfl, rfl, rfl, names_audit details mutation jobType errorDigest⟩

theorem outboxFact_of_effective {outbox : StepOutboxMessage} {row : OutboxRow}
    (houtbox : effectiveDeadLetterOutbox codec failure mutation jobType errorDigest = .ok outbox)
    (hmatches : outboxMatches row (outbox.row failure.fence.tenantId)) :
    OutboxFact codec failure mutation jobType errorDigest row := by
  simp only [effectiveDeadLetterOutbox, bind_eq_ok_iff] at houtbox
  obtain ⟨payload, -, _, -, houtbox⟩ := houtbox
  obtain rfl := Except.ok.inj houtbox
  simp only [outboxMatches, Bool.and_eq_true, decide_eq_true_eq] at hmatches
  obtain ⟨⟨hpayload, -⟩, hrow⟩ := hmatches
  have hcolumns := OutboxRow.mk.inj hrow
  exact ⟨hcolumns.1, hcolumns.2.1, hcolumns.2.2.2.2.1, _,
    names_outbox payload mutation jobType errorDigest, hpayload⟩

theorem DeadLettered.facts
    (h : DeadLettered codec failure attemptId jobType errorDigest escalationId result before
      after) :
    DeadLetterFacts codec failure attemptId jobType errorDigest escalationId result after where
  recorded := by
    obtain ⟨mutation, audit, event, outbox, hid, hresult, haudit, hevent, hrows, houtbox, row,
      hrow, hmatches⟩ := h.recorded
    refine ⟨mutation, hid, hresult, ⟨_, ?_, auditFact_of_effective haudit hevent⟩, row, hrow,
      outboxFact_of_effective houtbox hmatches⟩
    rw [hrows]
    exact List.mem_append_right _ (List.mem_singleton_self _)
  escalation := by
    obtain ⟨proposed, row, -, hlands, hid⟩ := h.lands
    have hactive := hlands.active
    simp only [isActiveFor, Bool.and_eq_true, beq_iff_eq] at hactive
    obtain ⟨⟨⟨⟨htenant, hworkItem⟩, hattempt⟩, -⟩, -⟩ := hactive
    exact ⟨row, hid ▸ hlands.found, htenant, hworkItem, hattempt⟩

/-- They stay. -/
theorem DeadLetterFacts.mono (hkept : Kept before after)
    (h : DeadLetterFacts codec failure attemptId jobType errorDigest escalationId result before) :
    DeadLetterFacts codec failure attemptId jobType errorDigest escalationId result after where
  recorded := by
    obtain ⟨mutation, hid, hresult, ⟨audit, haudit, hauditFact⟩, outbox, houtbox, hfact⟩ :=
      h.recorded
    exact ⟨mutation, hid, hresult, ⟨audit, hkept.auditEvents haudit, hauditFact⟩, outbox,
      hkept.outbox houtbox, hfact⟩
  escalation := by
    obtain ⟨row, hrow, htenant, hworkItem, hattempt⟩ := h.escalation
    obtain ⟨row', hrow', hsame⟩ := hkept.escalations escalationId row hrow
    exact ⟨row', hrow', hsame.tenantId.trans htenant, hsame.workItemId.trans hworkItem,
      hsame.attemptId.trans hattempt⟩

end Facts

/-- The action and the event type `verify_dead_letter_exists` looks for
    (steps.rs:2014, 2018). -/
def namesExhaustion (deadLetter : DeadLetterEscalation) : Prop :=
  deadLetter.auditEvent.action = "WORKFLOW_JOB_EXHAUSTED" ∧
    deadLetter.outboxMessage.eventType = "workflow_job.exhausted"

/-- **The check of a repeated dead letter** finds what was written exactly when the
    audit event and the message were named as it expects them. -/
theorem DeadLetterFacts.exists_iff {job : WorkflowJob} {attemptId : Option Uuid}
    {jobType errorDigest : String} {escalationId : Uuid} {result : Json} {db : Db}
    (h : DeadLetterFacts codec failure attemptId jobType errorDigest escalationId result db)
    (hjob : db.jobs.find? failure.fence.jobId = some job) (hattempt : job.attemptId = attemptId)
    (htenant : job.tenantId = failure.fence.tenantId)
    (hworkItem : job.workItemId = some failure.fence.workItemId)
    (hdead : job.status = .dead) (hresult : job.result = some result)
    (hlinked : job.deadLetterEscalationId = some escalationId) :
    db.deadLetterExists failure.fence escalationId jobType errorDigest ↔
      namesExhaustion failure.deadLetter := by
  subst hattempt
  obtain ⟨mutation, rfl, rfl, ⟨audit, haudit, hauditFact⟩, outbox, houtbox, houtboxFact⟩ :=
    h.recorded
  obtain ⟨escalation, hescalation, hsubject⟩ := h.escalation
  obtain ⟨hjobId, hjobType, hdigest, hfact, -, hauditId, houtboxId⟩ :=
    field_deadLetterResult codec failure mutation jobType errorDigest
  have hid : job.id = failure.fence.jobId := Table.key_of_find? hjob
  simp only [Db.deadLetterExists, hjob, hresult, Option.any_some, htenant, hdead,
    beq_self_eq_true, Bool.true_and, Bool.and_eq_true, List.any_eq_true, namesExhaustion]
  constructor
  · rintro ⟨⟨-, audit', haudit', hisAudit, -⟩, outbox', houtbox', hisOutbox, -⟩
    -- The stored result names the rows by their identifiers, which are unique.
    simp only [isDeadLetterAudit, text_of_field_str hauditId, Bool.and_eq_true, beq_iff_eq,
      some.injEq] at hisAudit
    simp only [isDeadLetterOutbox, text_of_field_str houtboxId, Bool.and_eq_true, beq_iff_eq,
      some.injEq] at hisOutbox
    obtain rfl : audit = audit' := Table.eq_of_key_eq haudit haudit'
      (hauditFact.id.trans (Uuid.toText_injective hisAudit.1.1.1.2))
    obtain rfl : outbox = outbox' := Table.eq_of_key_eq houtbox houtbox'
      (houtboxFact.id.trans (Uuid.toText_injective hisOutbox.1.2))
    exact ⟨hauditFact.action.symm.trans hisAudit.2, houtboxFact.eventType.symm.trans hisOutbox.2⟩
  · rintro ⟨haction, heventType⟩
    obtain ⟨proposed, hnames, hpayload⟩ := houtboxFact.payload
    refine ⟨⟨⟨?_, escalation, Table.mem_of_find? hescalation, ?_, ?_⟩, audit, haudit, ?_, ?_⟩,
      outbox, houtbox, ?_, ?_⟩
    · simp [namesJob, hid, text_of_field_str hjobId, text_of_field_str hjobType,
        text_of_field_str hdigest]
    · simp [isDeadLetterEscalation, htenant, hlinked, hworkItem, hsubject,
        Table.key_of_find? hescalation]
    · simp [hfact, text_id_deadLetterEscalationFact, Table.key_of_find? hescalation]
    · simp [isDeadLetterAudit, htenant, hid, text_of_field_str hauditId, hauditFact.id,
        hauditFact.tenantId, hauditFact.subjectType, hauditFact.subjectId, hauditFact.action,
        haction]
    · rw [hid]
      exact recordsDeadLetter_of_names hauditFact.details (Json.sqlEq_refl _)
    · simp [isDeadLetterOutbox, htenant, text_of_field_str houtboxId, houtboxFact.id,
        houtboxFact.tenantId, houtboxFact.eventType, heventType]
    · rw [hid]
      exact recordsDeadLetter_of_names hnames hpayload

/-! ## The answers -/

theorem perform_eq_ok_iff {s : State} {r : Request} {answer : Answer} :
    (perform codec s r).2 = .ok answer ↔
      ∃ session, Commits (r.call.transaction codec) (r.session s) answer session := by
  simp only [perform, atomically, Commits]
  cases r.call.transaction codec (r.session s) with
  | error e => simp
  | ok result =>
    obtain ⟨answer', session⟩ := result
    simp

section Commit

variable {s : State} {r : Request} {step : WorkflowStepCommit} {prelocked : Bool}
  {job : WorkflowJob} {now : Timestamptz}

/-- The receipt of a commit matches the commit itself when the result reads back. -/
theorem completedStepMatches_receipt {matched : Bool} :
    completedStepMatches codec (Jobs.completedJob step.fence.leaseOwner step.fence.jobFenceToken
        (some step.storedResult) now job) step.fence step.storedResult = .ok matched ↔
      matched = true ∧ codec.readJson step.storedResult = step.storedResult := by
  simp only [completedStepMatches, Jobs.completedJob, ne_eq, not_true_eq_false, if_false, and_self,
    if_true, Option.map_some, some.injEq]
  split_ifs with hread <;> simp [hread, eq_comm]

/-- **A repeated commit** is adopted exactly when its result reads back as it was
    written. -/
theorem commit_repeated (hcall : r.call = .commit step prelocked)
    (hvalid : step.validate codec = .ok ())
    (hjob : s.db.jobs.find? step.fence.jobId = some (Jobs.completedJob step.fence.leaseOwner
      step.fence.jobFenceToken (some step.storedResult) now job))
    (htenant : job.tenantId = step.fence.tenantId)
    (hbound : job.workflowInstanceId = some step.fence.workflowInstanceId ∧
      job.workItemId = some step.fence.workItemId) :
    (perform codec s r).2 = .ok (.commit .alreadyApplied) ↔
      codec.readJson step.storedResult = step.storedResult := by
  rw [perform_eq_ok_iff, hcall]
  simp only [Call.transaction, commits_map]
  constructor
  · rintro ⟨session, outcome, hcommits, -⟩
    simp only [commitWorkflowStepInner, commits_ofExcept_bind] at hcommits
    obtain ⟨_, -, hcommits⟩ := hcommits
    obtain ⟨⟨row, live⟩, s₁, hlock, hcommits⟩ := commits_bind.mp hcommits
    obtain ⟨_, hrow, -, hr, -⟩ := commits_lockStepJob.mp hlock
    obtain ⟨rfl, -⟩ := Prod.mk.inj hr
    obtain rfl := some.inj (hjob.symm.trans hrow)
    simp only [commits_ofExcept_bind] at hcommits
    obtain ⟨_, -, matched, hmatched, -⟩ := hcommits
    exact (completedStepMatches_receipt.mp hmatched).2
  · intro hread
    refine ⟨(r.session s).tick, .alreadyApplied, ?_, rfl⟩
    refine commits_ofExcept_bind.mpr ⟨(), hvalid, commits_bind.mpr
      ⟨_, _, commits_lockStepJob.mpr ⟨_, hjob, htenant, rfl, rfl⟩, ?_⟩⟩
    refine commits_ofExcept_bind.mpr ⟨(), requireStepBinding_eq_ok_iff.mpr hbound,
      commits_ofExcept_bind.mpr ⟨true, completedStepMatches_receipt.mpr ⟨rfl, hread⟩, ?_⟩⟩
    exact commits_pure.mpr ⟨rfl, rfl⟩

end Commit

section Failure

variable {s : State} {r : Request} {prelocked forceTerminal : Bool} {job row : WorkflowJob}
  {now : Timestamptz} (hcall : r.call = .fail failure prelocked forceTerminal)
  (hvalid : failure.validate = .ok ())

include hcall hvalid

/-- The answer to a failure of a job that has an outcome. -/
theorem failure_adopted_iff (hrow : s.db.jobs.find? failure.fence.jobId = some row)
    (htenant : row.tenantId = failure.fence.tenantId)
    (hbound : row.workflowInstanceId = some failure.fence.workflowInstanceId ∧
      row.workItemId = some failure.fence.workItemId)
    (hstatus : row.status = .retry ∨ row.status = .dead) :
    (∃ outcome, (perform codec s r).2 = .ok (.fail outcome) ∧ outcome.newlyRecorded = false) ↔
      ∃ outcome, repeatedFailureOutcome row failure (Jobs.summarizeError failure.errorSummary)
          = .ok (some outcome) ∧
        (outcome.disposition = .escalated → ∃ escalationId,
          outcome.deadLetterEscalationId = some escalationId ∧
          s.db.deadLetterExists failure.fence escalationId row.jobType
            (codec.textDigest failure.errorSummary)) := by
  simp only [perform_eq_ok_iff, hcall, Call.transaction, commits_map]
  constructor
  · rintro ⟨_, ⟨session, outcome, hcommits, ⟨⟩⟩, -⟩
    simp only [failWorkflowStepInner, commits_ofExcept_bind] at hcommits
    obtain ⟨_, -, hcommits⟩ := hcommits
    obtain ⟨⟨row', live⟩, s₁, hlock, hcommits⟩ := commits_bind.mp hcommits
    obtain ⟨_, hrow', -, hr, rfl⟩ := commits_lockStepJob.mp hlock
    obtain ⟨rfl, -⟩ := Prod.mk.inj hr
    obtain rfl := some.inj (hrow.symm.trans hrow')
    simp only [commits_ofExcept_bind] at hcommits
    obtain ⟨_, -, repeated, hrepeated, hcommits⟩ := hcommits
    cases repeated with
    | some outcome' => exact ⟨outcome', hrepeated, (commits_adoptFailure.mp hcommits).2.2⟩
    | none => exact absurd hrepeated (repeatedFailureOutcome_ne_none hstatus)
  · rintro ⟨outcome, hrepeated, hexists⟩
    refine ⟨outcome, ⟨(r.session s).tick, outcome, ?_, rfl⟩, ?_⟩
    · refine commits_ofExcept_bind.mpr ⟨(), hvalid, commits_bind.mpr
        ⟨_, _, commits_lockStepJob.mpr ⟨_, hrow, htenant, rfl, rfl⟩, ?_⟩⟩
      refine commits_ofExcept_bind.mpr ⟨(), requireStepBinding_eq_ok_iff.mpr hbound,
        commits_ofExcept_bind.mpr ⟨some outcome, hrepeated, ?_⟩⟩
      exact commits_adoptFailure.mpr ⟨rfl, rfl, hexists⟩
    · obtain ⟨-, -, -, -, -, -, rfl⟩ := repeatedFailureOutcome_eq_some_iff.mp hrepeated
      rfl

variable (htenant : job.tenantId = failure.fence.tenantId)
  (hbound : job.workflowInstanceId = some failure.fence.workflowInstanceId ∧
    job.workItemId = some failure.fence.workItemId)

include htenant hbound

/-- **A repeated failure of a retried job** is adopted exactly when its retry time is
    a whole number of microseconds. -/
theorem retry_repeated (hterminal : isTerminal forceTerminal job = false)
    (hrow : s.db.jobs.find? failure.fence.jobId = some (failedStepJob failure
      (Jobs.summarizeError failure.errorSummary) failure.deadLetter.id none
        forceTerminal now job)) :
    (∃ outcome, (perform codec s r).2 = .ok (.fail outcome) ∧ outcome.newlyRecorded = false) ↔
      (1000 : ℤ) ∣ failure.retryAt.nanos := by
  have hstatus : (failedStepJob failure (Jobs.summarizeError failure.errorSummary)
      failure.deadLetter.id none forceTerminal now job).status = .retry := by
    simp [failedStepJob, hterminal]
  rw [failure_adopted_iff hcall hvalid hrow htenant hbound (.inl hstatus)]
  simp only [repeatedFailureOutcome_eq_some_iff, hstatus]
  rw [← DateTime.decode_encode_iff]
  constructor
  · rintro ⟨_, ⟨-, -, -, hretryAt, -⟩, -⟩
    exact some.inj hretryAt
  · intro hretryAt
    refine ⟨_, ⟨.inl trivial, rfl, rfl, congrArg some hretryAt, rfl, by simp, rfl⟩, by simp⟩

/-- **A repeated failure of a dead job** is adopted exactly when, besides, its audit
    event and its message were named as the check expects them. -/
theorem death_repeated {escalationId : Uuid} {result : Json}
    (hterminal : isTerminal forceTerminal job = true)
    (hrow : s.db.jobs.find? failure.fence.jobId = some (failedStepJob failure
      (Jobs.summarizeError failure.errorSummary) escalationId (some result) forceTerminal now job))
    (hfacts : DeadLetterFacts codec failure job.attemptId job.jobType
      (codec.textDigest failure.errorSummary) escalationId result s.db) :
    (∃ outcome, (perform codec s r).2 = .ok (.fail outcome) ∧ outcome.newlyRecorded = false) ↔
      (1000 : ℤ) ∣ failure.retryAt.nanos ∧ namesExhaustion failure.deadLetter := by
  have hstatus : (failedStepJob failure (Jobs.summarizeError failure.errorSummary)
      escalationId (some result) forceTerminal now job).status = .dead := by
    simp [failedStepJob, hterminal]
  have hlinked : (failedStepJob failure (Jobs.summarizeError failure.errorSummary)
      escalationId (some result) forceTerminal now job).deadLetterEscalationId
        = some escalationId := by
    simp [failedStepJob, hterminal]
  have hresult : (failedStepJob failure (Jobs.summarizeError failure.errorSummary)
      escalationId (some result) forceTerminal now job).result = some result := by
    simp [failedStepJob, hterminal]
  rw [failure_adopted_iff hcall hvalid hrow htenant hbound (.inr hstatus), ← hfacts.exists_iff hrow
    rfl htenant hbound.2 hstatus hresult hlinked, ← DateTime.decode_encode_iff]
  simp only [repeatedFailureOutcome_eq_some_iff, hstatus, hlinked]
  constructor
  · rintro ⟨_, ⟨-, -, -, hretryAt, -, -, rfl⟩, hexists⟩
    obtain ⟨_, ⟨⟩, hexists⟩ := hexists (by simp)
    exact ⟨some.inj hretryAt, hexists⟩
  · rintro ⟨hretryAt, hexists⟩
    exact ⟨_, ⟨.inr trivial, rfl, rfl, congrArg some hretryAt, rfl, by simp, rfl⟩,
      fun _ => ⟨escalationId, rfl, hexists⟩⟩

end Failure

end Asf.Steps
