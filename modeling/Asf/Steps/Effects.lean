import Asf.Steps.Model

/-!
# What one workflow step does

One lemma per statement, and from them everything a committed call of
`commit_workflow_step` can have done: adopt what an equal call recorded, or
settle its job and advance the aggregates. `Asf.Steps.Failures` does the same
for `fail_workflow_step`.

Results:

* `applyWorkflowStep_spec`: the writes of a commit.
* `commitWorkflowStepInner_cases`: everything a commit can have done.
-/

namespace Asf.Steps

open Lib
open Jobs (WorkflowJob)
open Except (ok)
open Prod (mk)
open List (prefix_rfl)
open Session (tick_db)

variable {u : Unit} {job : WorkflowJob} {message : StepOutboxMessage} {state : String}
  {outcome : WorkflowStepCommitOutcome} {commit : WorkflowStepCommit}

variable {codec : Codec} {s s' : Session Db} {fence : WorkflowStepFence} {audit : StepAuditEvent}
  {now : Timestamptz} {tenantId : Uuid} {eventCursor : ℤ} {α : Type}

/-! ## Reading and inserting -/

@[simp] theorem commits_lockStepJob {r : WorkflowJob × Option Bool} :
    Commits (lockStepJob fence) s r s' ↔ ∃ job, s.db.jobs.find? fence.jobId = some job ∧
      job.tenantId = fence.tenantId ∧
      r = (job, job.leaseExpiresAt.map fun t => decide (s.tick.now < t)) ∧ s' = s.tick := by
  simp only [lockStepJob, commits_clockTimestamp_bind, commits_select_bind, commits_orFail_bind,
    commits_pure, tick_db, Option.filter_eq_some_iff, beq_iff_eq, and_assoc]

theorem db_of_lockStepAggregates (h : Commits (lockStepAggregates fence) s u s') :
    s'.db = s.db := by
  simp only [lockStepAggregates, commits_select_bind, commits_reject_bind, commits_reject] at h
  rw [h.2.2]

/-- Rows have only been added: new jobs, timers, effects, messages and audit events. -/
structure Inserts (db db' : Db) : Prop where
  jobs : ∀ k, db'.jobs.find? k = db.jobs.find? k ∨ db.jobs.find? k = none ∧
    ∃ now request, db'.jobs.find? k = some (Jobs.insertedJob now request)
  workItems : db'.workItems = db.workItems
  workflows : db'.workflows = db.workflows
  anchors : db'.anchors = db.anchors
  escalations : db'.escalations = db.escalations
  outbox : db.outbox.rows <+: db'.outbox.rows
  auditEvents : db.auditEvents.rows <+: db'.auditEvents.rows

namespace Inserts

variable {db db₁ db₂ : Db}

theorem refl (db : Db) : Inserts db db :=
  ⟨fun _ => .inl rfl, rfl, rfl, rfl, rfl, prefix_rfl, prefix_rfl⟩

theorem trans (h : Inserts db db₁) (h' : Inserts db₁ db₂) : Inserts db db₂ where
  jobs k := by
    rcases h'.jobs k with hk | ⟨hnone, hsome⟩
    · rw [hk]
      exact h.jobs k
    · rcases h.jobs k with hk | ⟨-, now, request, hk⟩
      · exact .inr ⟨hk ▸ hnone, hsome⟩
      · rw [hk] at hnone
        cases hnone
  workItems := h'.workItems.trans h.workItems
  workflows := h'.workflows.trans h.workflows
  anchors := h'.anchors.trans h.anchors
  escalations := h'.escalations.trans h.escalations
  outbox := h.outbox.trans h'.outbox
  auditEvents := h.auditEvents.trans h'.auditEvents

/-- A row that is there stays. -/
theorem find?_jobs (h : Inserts db db₁) {k : Uuid} (hjob : db.jobs.find? k = some job) :
    db₁.jobs.find? k = some job := by
  rcases h.jobs k with hk | ⟨hnone, -⟩
  · rw [hk, hjob]
  · rw [hjob] at hnone
    cases hnone

/-- A loop of inserts. -/
theorem of_forM {f : α → Tx Db Unit}
    (hf : ∀ a (s s' : Session Db) u, Commits (f a) s u s' → Inserts s.db s'.db) {l : List α}
    (h : Commits (l.forM f) s u s') : Inserts s.db s'.db :=
  forM_invariant (fun _ t => Inserts s.db t.db)
    (fun _ a t t' u ht hstep => ht.trans (hf a t t' u hstep)) (.refl s.db) h

end Inserts

theorem inserts_insertWorkflowJob {job : StepWorkflowJob}
    (h : Commits (insertWorkflowJob fence job) s u s') : Inserts s.db s'.db := by
  simp only [insertWorkflowJob, commits_clockTimestamp_bind, commits_execute_bind, commits_reject,
    tick_db, bind_eq_ok_iff] at h
  obtain ⟨-, inserted, db, ⟨⟨inserted', jobs⟩, hjobs, hdb⟩, hinserted, rfl⟩ := h
  obtain ⟨rfl, rfl⟩ := mk.inj (ok.inj hdb)
  obtain rfl : inserted' = true := by simpa using hinserted
  refine ⟨fun k => ?_, rfl, rfl, rfl, rfl, prefix_rfl, prefix_rfl⟩
  rcases Table.insertOrMatch_cases hjobs with ⟨rfl, -⟩ | ⟨hnew, rfl⟩
  · exact .inl rfl
  · simp only [Session.withDb_db, Db.withJobs_jobs, Table.find?_insert]
    cases hk : s.db.jobs.find? k with
    | some row => exact .inl rfl
    | none =>
      split_ifs with hid
      · exact .inr ⟨rfl, _, _, rfl⟩
      · exact .inl rfl

theorem inserts_insertWorkflowTimer {timer : StepWorkflowTimer}
    (h : Commits (insertWorkflowTimer fence timer) s u s') : Inserts s.db s'.db := by
  simp only [insertWorkflowTimer, commits_execute_bind, commits_reject, bind_eq_ok_iff] at h
  obtain ⟨-, inserted, db, ⟨_, -, hdb⟩, -, rfl⟩ := h
  obtain ⟨-, rfl⟩ := mk.inj (ok.inj hdb)
  exact ⟨fun _ => .inl rfl, rfl, rfl, rfl, rfl, prefix_rfl, prefix_rfl⟩

theorem inserts_insertEffectIntent {effect : StepEffectIntent}
    (h : Commits (insertEffectIntent fence effect) s u s') : Inserts s.db s'.db := by
  simp only [insertEffectIntent, commits_execute_bind, commits_reject, bind_eq_ok_iff] at h
  obtain ⟨-, inserted, db, ⟨_, -, hdb⟩, -, rfl⟩ := h
  obtain ⟨-, rfl⟩ := mk.inj (ok.inj hdb)
  exact ⟨fun _ => .inl rfl, rfl, rfl, rfl, rfl, prefix_rfl, prefix_rfl⟩

section

variable (h : Commits (insertOutboxMessage tenantId message) s u s')

include h

/-- A message that was inserted is in the outbox, as it was sent or as an equal one. -/
theorem commits_insertOutboxMessage :
    ∃ outbox, s'.db = s.db.withOutbox outbox ∧ s.db.outbox.rows <+: outbox.rows ∧
      ∃ row ∈ outbox.rows, outboxMatches row (message.row tenantId) := by
  simp only [insertOutboxMessage, commits_execute_bind, commits_reject, bind_eq_ok_iff] at h
  obtain ⟨-, inserted, db, ⟨⟨inserted', outbox⟩, hrows, hdb⟩, hinserted, rfl⟩ := h
  obtain ⟨rfl, rfl⟩ := mk.inj (ok.inj hdb)
  obtain rfl : inserted' = true := by simpa using hinserted
  refine ⟨outbox, rfl, ?_⟩
  rcases Table.insertOrMatch_cases hrows with ⟨rfl, row, hrow, -, hsame⟩ | ⟨hnew, rfl⟩
  · exact ⟨prefix_rfl, row, hrow, hsame⟩
  · refine ⟨List.prefix_append _ _, message.row tenantId, by simp, ?_⟩
    simp [outboxMatches]

theorem inserts_insertOutboxMessage : Inserts s.db s'.db := by
  obtain ⟨outbox, hdb, hrows, -⟩ := commits_insertOutboxMessage h
  rw [hdb]
  exact ⟨fun _ => .inl rfl, rfl, rfl, rfl, rfl, hrows, prefix_rfl⟩

end

section

variable (h : Commits (insertAuditEvent codec fence audit) s u s')

include h

/-- An audit event that was inserted is the last row of its table. -/
theorem commits_insertAuditEvent :
    ∃ event auditEvents, canonicalStepAuditEvent codec fence audit
        (s.db.auditChainHead fence.tenantId) = .ok event ∧
      s'.db = s.db.withAuditEvents auditEvents ∧
      auditEvents.rows = s.db.auditEvents.rows ++ [auditRow fence event] := by
  simp only [insertAuditEvent, commits_select_bind, commits_ofExcept_bind,
    commits_execute_bind, commits_reject, bind_eq_ok_iff] at h
  obtain ⟨event, hevent, -, -, -, inserted, db, ⟨⟨inserted', auditEvents⟩, hrows, hdb⟩,
    hinserted, rfl⟩ := h
  obtain ⟨rfl, rfl⟩ := mk.inj (ok.inj hdb)
  obtain rfl : inserted' = true := by simpa using hinserted
  refine ⟨event, auditEvents, hevent, rfl, ?_⟩
  rcases Table.insertOrMatch_cases hrows with ⟨-, _, -, -, hsame⟩ | ⟨hnew, rfl⟩
  · cases hsame
  · rfl

theorem inserts_insertAuditEvent : Inserts s.db s'.db := by
  obtain ⟨event, auditEvents, -, hdb, hrows⟩ := commits_insertAuditEvent h
  rw [hdb]
  exact ⟨fun _ => .inl rfl, rfl, rfl, rfl, rfl, prefix_rfl, hrows ▸ List.prefix_append _ _⟩

end

/-! ## Advancing the aggregates -/

theorem increment_eq_ok {n m : ℤ} (h : increment n = .ok m) : m = n + 1 := by
  unfold increment at h
  split_ifs at h
  exact (ok.inj h).symm

theorem text_of_checkedText {relation value : String} {all : List α}
    {text : α → String} {a : α} (h : checkedText relation all text value = .ok a) :
    text a = value :=
  text_of_parseText (okOr_eq_ok_iff.mp h)

theorem advancedWorkItem_eq_ok {row row' : WorkItem}
    (h : advancedWorkItem state now row = .ok row') :
    row'.id = row.id ∧ row'.tenantId = row.tenantId ∧ row'.state.text = state ∧
      row'.aggregateVersion = row.aggregateVersion + 1 := by
  simp only [advancedWorkItem, bind_eq_ok_iff] at h
  obtain ⟨state', hstate, version, hversion, hrow⟩ := h
  obtain rfl := ok.inj hrow
  exact ⟨rfl, rfl, text_of_checkedText hstate, increment_eq_ok hversion⟩

theorem advancedWorkflow_eq_ok {row row' : WorkflowInstance}
    (h : advancedWorkflow state eventCursor now row = .ok row') :
    row'.id = row.id ∧ row'.tenantId = row.tenantId ∧ row'.state.text = state ∧
      row'.aggregateVersion = row.aggregateVersion + 1 ∧ row'.fenceToken = row.fenceToken + 1 := by
  simp only [advancedWorkflow, bind_eq_ok_iff] at h
  obtain ⟨state', hstate, token, htoken, version, hversion, hrow⟩ := h
  obtain rfl := ok.inj hrow
  exact ⟨rfl, rfl, text_of_checkedText hstate, increment_eq_ok hversion, increment_eq_ok htoken⟩

section Advances

variable (fence : WorkflowStepFence) (state : String) (workItemState workflowState : String)
  (kind : LedgerAccountabilityKind) (referenceId : Uuid)

/-- The row of the work item has moved to `state` under the next version. -/
structure WorkItemAdvances (before after : Table WorkItem WorkItem.id) : Prop where
  row : ∃ row row', before.find? fence.workItemId = some row ∧
    after.find? fence.workItemId = some row' ∧
    row.aggregateVersion = fence.expectedWorkItemVersion ∧
    row'.aggregateVersion = row.aggregateVersion + 1 ∧ row'.tenantId = fence.tenantId ∧
    row'.state.text = state
  others : ∀ k, k ≠ fence.workItemId → after.find? k = before.find? k

/-- The row of the workflow has moved to `state` under the next version and fence. -/
structure WorkflowAdvances (before after : Table WorkflowInstance WorkflowInstance.id) : Prop where
  row : ∃ row row', before.find? fence.workflowInstanceId = some row ∧
    after.find? fence.workflowInstanceId = some row' ∧
    row.aggregateVersion = fence.expectedWorkflowVersion ∧
    row.fenceToken = fence.expectedWorkflowFenceToken ∧
    row'.aggregateVersion = row.aggregateVersion + 1 ∧ row'.fenceToken = row.fenceToken + 1 ∧
    row'.tenantId = fence.tenantId ∧ row'.state.text = state
  others : ∀ k, k ≠ fence.workflowInstanceId → after.find? k = before.find? k

/-- The generation of a work item's anchor; 0 before the first one. -/
def anchorGeneration (anchors : Table Anchor Anchor.key) (tenantId workItemId : Uuid) : ℤ :=
  (anchors.find? (tenantId, workItemId)).elim 0 (·.generation)

/-- The anchor of the work item has been replaced under the next generation. -/
structure AnchorAdvances (before after : Table Anchor Anchor.key) : Prop where
  expected : anchorGeneration before fence.tenantId fence.workItemId =
    fence.expectedAnchorGeneration
  row : ∃ row, after.find? (fence.tenantId, fence.workItemId) = some row ∧
    row.generation = anchorGeneration before fence.tenantId fence.workItemId + 1 ∧
    row.anchorType = kind ∧ row.referenceId = referenceId
  others : ∀ k, k ≠ (fence.tenantId, fence.workItemId) → after.find? k = before.find? k

/-- **The aggregates of a step have advanced by one.** -/
structure Advances (before after : Db) : Prop where
  workItem : WorkItemAdvances fence workItemState before.workItems after.workItems
  workflow : WorkflowAdvances fence workflowState before.workflows after.workflows
  anchor : AnchorAdvances fence kind referenceId before.anchors after.anchors

end Advances

theorem commits_updateWorkItem {v : ℤ} (h : Commits (updateWorkItem fence state) s v s') :
    ∃ workItems, s'.db = s.db.withWorkItems workItems ∧ v = fence.expectedWorkItemVersion + 1 ∧
      WorkItemAdvances fence state s.db.workItems workItems := by
  simp only [updateWorkItem, commits_clockTimestamp_bind, commits_execute_bind,
    commits_orFail_bind, commits_pure, tick_db, bind_eq_ok_iff] at h
  obtain ⟨-, _, db, ⟨⟨_, workItems⟩, hupdate, hdb⟩, row', rfl, rfl, rfl⟩ := h
  obtain ⟨rfl, rfl⟩ := mk.inj (ok.inj hdb)
  obtain ⟨row, hrow, hguard, hadvanced, hrow', hothers⟩ := Table.updateOne_cases hupdate
    fun _ _ h => (advancedWorkItem_eq_ok h).1
  obtain ⟨-, htenant, hstate, hversion⟩ := advancedWorkItem_eq_ok hadvanced
  simp only [isExpectedWorkItem, Bool.and_eq_true, beq_iff_eq] at hguard
  exact ⟨_, rfl, by omega, ⟨row, row', hrow, hrow', hguard.2, hversion, htenant.trans hguard.1,
    hstate⟩, hothers⟩

theorem commits_updateWorkflow {r : ℤ × ℤ}
    (h : Commits (updateWorkflow fence state eventCursor) s r s') :
    ∃ workflows, s'.db = s.db.withWorkflows workflows ∧
      r = (fence.expectedWorkflowVersion + 1, fence.expectedWorkflowFenceToken + 1) ∧
      WorkflowAdvances fence state s.db.workflows workflows := by
  simp only [updateWorkflow, commits_clockTimestamp_bind, commits_execute_bind,
    commits_orFail_bind, commits_pure, tick_db, bind_eq_ok_iff] at h
  obtain ⟨-, _, db, ⟨⟨_, workflows⟩, hupdate, hdb⟩, row', rfl, rfl, rfl⟩ := h
  obtain ⟨rfl, rfl⟩ := mk.inj (ok.inj hdb)
  obtain ⟨row, hrow, hguard, hadvanced, hrow', hothers⟩ := Table.updateOne_cases hupdate
    fun _ _ h => (advancedWorkflow_eq_ok h).1
  obtain ⟨-, htenant, hstate, hversion, htoken⟩ := advancedWorkflow_eq_ok hadvanced
  simp only [isExpectedWorkflow, Bool.and_eq_true, beq_iff_eq] at hguard
  obtain ⟨⟨⟨hguardTenant, -⟩, hguardVersion⟩, hguardToken⟩ := hguard
  exact ⟨_, rfl, by rw [hversion, htoken, hguardVersion, hguardToken],
    ⟨row, row', hrow, hrow', hguardVersion, hguardToken, hversion, htoken,
      htenant.trans hguardTenant, hstate⟩, hothers⟩

theorem db_of_currentWorkflowCursor {cursor : ℤ}
    (h : Commits (currentWorkflowCursor fence) s cursor s') : s'.db = s.db := by
  simp only [currentWorkflowCursor, commits_select_bind, commits_orFail_bind, commits_pure] at h
  obtain ⟨_, -, -, rfl⟩ := h
  rfl

theorem columns_of_checked {columns : AnchorColumns} {anchor : Anchor}
    (h : columns.checked = .ok anchor) : anchor.toAnchorColumns = columns := by
  unfold AnchorColumns.checked at h
  split_ifs at h
  obtain rfl := ok.inj h
  rfl

/-- An anchor that was replaced had the expected generation, 0 being none. -/
theorem replaceAnchor_eq_ok {expected generation : ℤ} {proposed : AnchorColumns} {db db' : Db}
    (h : replaceAnchor expected proposed db = .ok (some generation, db')) :
    ∃ anchor anchors, anchor.toAnchorColumns = proposed ∧ generation = proposed.generation ∧
      db' = db.withAnchors anchors ∧
      anchorGeneration db.anchors proposed.tenantId proposed.workItemId = expected ∧
      anchors.find? (proposed.tenantId, proposed.workItemId) = some anchor ∧
      ∀ k, k ≠ (proposed.tenantId, proposed.workItemId) → anchors.find? k = db.anchors.find? k := by
  simp only [replaceAnchor] at h
  split_ifs at h with hexpected
  · obtain ⟨anchor, hanchor, h⟩ := bind_eq_ok_iff.mp h
    have hcolumns := columns_of_checked hanchor
    have hkey : Anchor.key anchor = (proposed.tenantId, proposed.workItemId) := by
      rw [Anchor.key, hcolumns]
    cases hcurrent : db.anchors.find? (proposed.tenantId, proposed.workItemId) with
    | none =>
      simp only [hcurrent] at h
      cases hinsert : db.anchors.insert? anchor with
      | none => simp [hinsert, throw, throwThe, MonadExceptOf.throw] at h
      | some anchors =>
        simp only [hinsert] at h
        obtain ⟨⟨⟩, rfl⟩ := mk.inj (ok.inj h)
        obtain ⟨hnew, rfl⟩ := Table.insert?_eq_some_iff.mp hinsert
        refine ⟨anchor, _, hcolumns, by rw [hcolumns], rfl, ?_, ?_, ?_⟩
        · simp only [hcurrent, Option.any_none, Bool.false_eq_true, or_false] at hexpected
          simp [anchorGeneration, hcurrent, hexpected]
        · simp [Table.find?_insert, hcurrent, hkey]
        · intro k hk
          simp [Table.find?_insert, hkey, Ne.symm hk]
    | some row =>
      simp only [hcurrent] at h
      split_ifs at h with hgeneration
      · obtain ⟨⟨⟩, rfl⟩ := mk.inj (ok.inj h)
        refine ⟨anchor, _, hcolumns, by rw [hcolumns], rfl, ?_, ?_, ?_⟩
        · simp [anchorGeneration, hcurrent, hgeneration]
        · simp [Table.find?_set, hkey, hcurrent]
        · intro k hk
          rw [Table.find?_set, if_neg (hkey ▸ Ne.symm hk)]
      · cases (mk.inj (ok.inj h)).1
  · cases (mk.inj (ok.inj h)).1

theorem commits_replaceAccountability {replacement : AccountabilityReplacement} {generation : ℤ}
    (h : Commits (replaceAccountability fence replacement) s generation s') :
    ∃ anchors, s'.db = s.db.withAnchors anchors ∧
      generation = fence.expectedAnchorGeneration + 1 ∧
      AnchorAdvances fence replacement.kind replacement.referenceId s.db.anchors anchors := by
  simp only [replaceAccountability, commits_reject_bind, commits_clockTimestamp_bind,
    commits_execute_bind, commits_orFail, tick_db] at h
  obtain ⟨-, -, _, db, hdb, rfl, rfl⟩ := h
  obtain ⟨anchor, anchors, hcolumns, rfl, rfl, hexpected, hfind, hothers⟩ := replaceAnchor_eq_ok hdb
  refine ⟨anchors, rfl, rfl, hexpected, ⟨anchor, hfind, ?_, ?_, ?_⟩, hothers⟩
  · rw [hcolumns, hexpected]
  · rw [hcolumns]
  · rw [hcolumns]

/-! ## Settling the job -/

/-- The job of a step has gone from `job`, claimed under the fence, to `job'`; the
    other jobs have kept their rows and some may be new. -/
structure Settles (fence : WorkflowStepFence) (job job' : WorkflowJob) (before after : Db) :
    Prop where
  found : before.jobs.find? fence.jobId = some job
  tenant : job.tenantId = fence.tenantId
  bound : job.workflowInstanceId = some fence.workflowInstanceId ∧
    job.workItemId = some fence.workItemId
  running : job.status = .running
  owner : job.leaseOwner = some fence.leaseOwner
  token : job.fenceToken = fence.jobFenceToken
  settled : after.jobs.find? fence.jobId = some job'
  others : ∀ k, k ≠ fence.jobId → after.jobs.find? k = before.jobs.find? k ∨
    before.jobs.find? k = none ∧
      ∃ now request, after.jobs.find? k = some (Jobs.insertedJob now request)

theorem requireStepBinding_eq_ok_iff :
    requireStepBinding job fence = .ok u ↔
      job.workflowInstanceId = some fence.workflowInstanceId ∧
        job.workItemId = some fence.workItemId := by
  simp [requireStepBinding]

/-- The update of an owned job writes one row. -/
theorem updateOne_isOwnedClaim {jobs jobs' : Table WorkflowJob WorkflowJob.id} {job' : WorkflowJob}
    {f : WorkflowJob → WorkflowJob} (hf : ∀ job, (f job).id = job.id)
    (h : jobs.updateOne fence.jobId (isOwnedClaim fence)
      (fun job => (.ok (f job) : Except String WorkflowJob)) = .ok (some job', jobs')) :
    ∃ job, jobs.find? fence.jobId = some job ∧ job.status = .running ∧
      job.leaseOwner = some fence.leaseOwner ∧ job.fenceToken = fence.jobFenceToken ∧
      job' = f job ∧ jobs'.find? fence.jobId = some job' ∧
      ∀ k, k ≠ fence.jobId → jobs'.find? k = jobs.find? k := by
  obtain ⟨job, hjob, hguard, hnew, hjob', hothers⟩ := Table.updateOne_cases h
    fun job job' h => ok.inj h ▸ hf job
  simp only [isOwnedClaim, Bool.and_eq_true, beq_iff_eq] at hguard
  exact ⟨job, hjob, hguard.1.1.2, hguard.1.2, hguard.2, (ok.inj hnew).symm, hjob', hothers⟩

/-! ## `commit_workflow_step` -/

/-- What an applied commit has done. -/
structure Applied (codec : Codec) (commit : WorkflowStepCommit) (before after : Db) : Prop where
  valid : commit.validate codec = .ok ()
  settles : ∃ job now, Settles commit.fence job (Jobs.completedJob commit.fence.leaseOwner
    commit.fence.jobFenceToken (some commit.storedResult) now job) before after
  advances : Advances commit.fence commit.workItemState commit.workflowState
    commit.accountability.kind commit.accountability.referenceId before after
  escalations : after.escalations = before.escalations
  outbox : before.outbox.rows <+: after.outbox.rows
  auditEvents : before.auditEvents.rows <+: after.auditEvents.rows

/-- The answer to an applied commit. -/
def WorkflowStepFence.appliedOutcome (fence : WorkflowStepFence) : WorkflowStepCommitOutcome :=
  .applied (fence.expectedWorkItemVersion + 1) (fence.expectedWorkflowVersion + 1)
    (fence.expectedWorkflowFenceToken + 1) (fence.expectedAnchorGeneration + 1)

theorem commits_completeStepJob {result : Json}
    (h : Commits (completeStepJob fence result) s u s') :
    ∃ jobs job now, s'.db = s.db.withJobs jobs ∧ s.db.jobs.find? fence.jobId = some job ∧
      job.status = .running ∧ job.leaseOwner = some fence.leaseOwner ∧
      job.fenceToken = fence.jobFenceToken ∧
      jobs.find? fence.jobId = some
        (Jobs.completedJob fence.leaseOwner fence.jobFenceToken (some result) now job) ∧
      ∀ k, k ≠ fence.jobId → jobs.find? k = s.db.jobs.find? k := by
  simp only [completeStepJob, commits_clockTimestamp_bind, commits_execute_bind, commits_reject,
    tick_db, bind_eq_ok_iff] at h
  obtain ⟨-, _, db, ⟨⟨completed, jobs⟩, hupdate, hdb⟩, hsome, rfl⟩ := h
  obtain ⟨rfl, rfl⟩ := mk.inj (ok.inj hdb)
  cases completed with
  | none => simp at hsome
  | some job' =>
    obtain ⟨job, hjob, hrunning, howner, htoken, rfl, hjob', hothers⟩ :=
      updateOne_isOwnedClaim (Jobs.completedJob_id _ _ _ _) hupdate
    exact ⟨jobs, job, _, rfl, hjob, hrunning, howner, htoken, hjob', hothers⟩

/-- The writes of an applied commit. -/
theorem applyWorkflowStep_spec (hvalid : commit.validate codec = .ok ())
    (hjob : s.db.jobs.find? commit.fence.jobId = some job)
    (htenant : job.tenantId = commit.fence.tenantId)
    (hbound : job.workflowInstanceId = some commit.fence.workflowInstanceId ∧
      job.workItemId = some commit.fence.workItemId)
    (h : Commits (applyWorkflowStep codec commit) s outcome s') :
    outcome = commit.fence.appliedOutcome ∧ Applied codec commit s.db s'.db := by
  simp only [applyWorkflowStep, commits_bind] at h
  obtain ⟨_, s₀, hlock, _, s₁, hjobs, _, s₂, htimers, _, s₃, heffects, _, s₄, houtbox, _, s₅,
    haudit, v, s₆, hwork, ⟨w, f⟩, s₇, hflow, g, s₈, hreplace, _, s₉, hcomplete, hpure⟩ := h
  obtain ⟨rfl, rfl⟩ := commits_pure.mp hpure
  have hinserts : Inserts s.db s₅.db := by
    rw [← db_of_lockStepAggregates hlock]
    exact ((((Inserts.of_forM (fun _ _ _ _ => inserts_insertWorkflowJob) hjobs).trans
      (.of_forM (fun _ _ _ _ => inserts_insertWorkflowTimer) htimers)).trans
      (.of_forM (fun _ _ _ _ => inserts_insertEffectIntent) heffects)).trans
      (.of_forM (fun _ _ _ _ => inserts_insertOutboxMessage) houtbox)).trans
      (.of_forM (fun _ _ _ _ => inserts_insertAuditEvent) haudit)
  obtain ⟨workItems, hdb₆, rfl, hworkItem⟩ := commits_updateWorkItem hwork
  obtain ⟨workflows, hdb₇, hversions, hworkflow⟩ := commits_updateWorkflow hflow
  obtain ⟨anchors, hdb₈, rfl, hanchor⟩ := commits_replaceAccountability hreplace
  obtain ⟨jobs, job', now, hdb₉, hjob', hrunning, howner, htoken, hsettled, hothers⟩ :=
    commits_completeStepJob hcomplete
  obtain ⟨rfl, rfl⟩ := mk.inj hversions
  rw [hdb₈, hdb₇, hdb₆] at hdb₉
  simp only [hdb₈, hdb₇, hdb₆, Db.withAnchors_jobs, Db.withWorkflows_jobs, Db.withWorkItems_jobs,
    Db.withWorkflows_anchors, Db.withWorkItems_anchors, Db.withWorkItems_workflows]
    at hworkflow hanchor hjob' hothers
  obtain rfl : job = job' := by
    rw [hinserts.find?_jobs hjob] at hjob'
    exact Option.some.inj hjob'
  rw [hdb₉]
  refine ⟨rfl, hvalid, ⟨job, now, hjob, htenant, hbound, hrunning, howner, htoken, hsettled, ?_⟩,
    ⟨?_, ?_, ?_⟩, hinserts.escalations, hinserts.outbox, hinserts.auditEvents⟩
  · intro k hk
    rw [Db.withJobs_jobs, hothers k hk]
    exact hinserts.jobs k
  · exact hinserts.workItems ▸ hworkItem
  · exact hinserts.workflows ▸ hworkflow
  · exact hinserts.anchors ▸ hanchor

/-- **Everything a committed `commit_workflow_step` can have done.** -/
theorem commitWorkflowStepInner_cases {prelocked : Bool}
    (h : Commits (commitWorkflowStepInner codec commit prelocked) s outcome s') :
    outcome = .alreadyApplied ∧ s'.db = s.db ∨
      outcome = commit.fence.appliedOutcome ∧ Applied codec commit s.db s'.db := by
  simp only [commitWorkflowStepInner, commits_ofExcept_bind] at h
  obtain ⟨_, hvalid, h⟩ := h
  obtain ⟨⟨job, live⟩, s₁, hlock, h⟩ := commits_bind.mp h
  obtain ⟨_, hjob, htenant, hr, rfl⟩ := commits_lockStepJob.mp hlock
  obtain ⟨rfl, -⟩ := mk.inj hr
  simp only [commits_ofExcept_bind] at h
  obtain ⟨_, hbound, applied, -, h⟩ := h
  cases applied with
  | true =>
    obtain ⟨rfl, rfl⟩ := commits_pure.mp h
    exact .inl ⟨rfl, rfl⟩
  | false =>
    simp only [Bool.false_eq_true, if_false, commits_ofExcept_bind] at h
    obtain ⟨_, -, happly⟩ := h
    exact .inr (applyWorkflowStep_spec (s := s.tick) hvalid hjob htenant
      (requireStepBinding_eq_ok_iff.mp hbound) happly)

end Asf.Steps
