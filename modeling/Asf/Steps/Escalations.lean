import Asf.Steps.Atomicity

/-!
# Owned dead letters

A job of a work item dies together with its owned escalation, and the dead
letters of one work item and attempt merge into one escalation as long as it is
active.

Results:

* `oneOpenCategory_run`: the unique index on active escalations holds in every
  run.
* `Exhausted.owned`: what a dead job leaves behind.
* `dead_letters_owned`: both halves, for every run.
-/

namespace Asf.Steps

open Lib (Table Machine)
open Jobs (WorkflowJob)
open Option (some)

variable {row old : Escalation} {proposed : DeadLetterEscalation} {fence : WorkflowStepFence}
  {errorDigest jobType : String} {attemptId : Option Uuid} {before after : Db}
  {answer : Result Answer} {call : Call} {job : WorkflowJob} {failure : WorkflowStepFailure}

variable {codec : Codec} {table table' : Table Escalation fun row => row.id}
  {change : EscalationMove} {other : Escalation} {reference : String} {start : State} {id : Uuid}
  {k : Uuid}

/-! ## One active escalation per work item, attempt and category -/

/-- `escalations_one_open_category_idx` (0001_initial.sql:735-742). -/
def OneOpenCategory (escalations : Table Escalation fun row => row.id) : Prop :=
  ∀ row ∈ escalations.rows, ∀ other ∈ escalations.rows, row.status.isActive →
    sharesOpenCategory other row → other = row

theorem sharesOpenCategory_iff :
    sharesOpenCategory other row ↔ other.status.isActive ∧ other.tenantId = row.tenantId ∧
      other.workItemId = row.workItemId ∧
      other.attemptId.getD .nil = row.attemptId.getD .nil ∧ other.category = row.category := by
  simp [sharesOpenCategory, and_assoc]

theorem sharesOpenCategory_symm (hactive : row.status.isActive)
    (h : sharesOpenCategory other row) : sharesOpenCategory row other := by
  obtain ⟨-, htenant, hworkItem, hattempt, hcategory⟩ := sharesOpenCategory_iff.mp h
  exact sharesOpenCategory_iff.mpr
    ⟨hactive, htenant.symm, hworkItem.symm, hattempt.symm, hcategory.symm⟩

/-- Writing a row that conflicts with no other keeps the index. -/
theorem oneOpenCategory_set (h : OneOpenCategory table)
    (halone : row.status.isActive → ∀ other ∈ table.rows, other.id ≠ row.id →
      ¬ sharesOpenCategory other row) : OneOpenCategory (table.set row) := by
  intro a ha b hb hactive hshares
  rcases Table.mem_of_mem_set ha with rfl | ⟨ha₀, hida⟩
  · rcases Table.mem_of_mem_set hb with rfl | ⟨hb₀, hidb⟩
    · rfl
    · exact absurd hshares (halone hactive b hb₀ hidb)
  · rcases Table.mem_of_mem_set hb with rfl | ⟨hb₀, hidb⟩
    · have hactive' := (sharesOpenCategory_iff.mp hshares).1
      exact absurd (sharesOpenCategory_symm hactive hshares) (halone hactive' a ha₀ hida)
    · exact h a ha₀ b hb₀ hactive hshares

/-- So does adding one. -/
theorem oneOpenCategory_insert (h : OneOpenCategory table)
    (halone : ¬ table.rows.any (sharesOpenCategory · row))
    (hnew : row.id ∉ table.rows.map fun row => row.id) :
    OneOpenCategory (table.insert row hnew) := by
  simp only [List.any_eq_true, not_exists, not_and] at halone
  intro a ha b hb hactive hshares
  simp only [Table.rows_insert, List.mem_append, List.mem_singleton] at ha hb
  rcases ha with ha | rfl
  · rcases hb with hb | rfl
    · exact h a ha b hb hactive hshares
    · exact absurd (sharesOpenCategory_symm hactive hshares) (halone a ha)
  · rcases hb with hb | rfl
    · exact absurd hshares (halone b hb)
    · rfl

theorem Lands.oneOpenCategory
    (h : Lands fence attemptId jobType errorDigest proposed table row table')
    (hopen : OneOpenCategory table) : OneOpenCategory table' := by
  cases h with
  | opened none_active opens alone new => exact oneOpenCategory_insert hopen alone new
  | adopted old active merges =>
    -- The merged row has the key of the one it replaces.
    have hmerged := mergedEscalation_eq_ok merges
    refine oneOpenCategory_set hopen fun hactive other hother hid hshares => hid ?_
    rw [hmerged.id, ← hopen old (List.mem_of_find?_eq_some active) other hother
      (hmerged.status ▸ hactive)]
    simpa [sharesOpenCategory_iff, hmerged.tenantId, hmerged.workItemId, hmerged.attemptId,
      hmerged.category] using hshares

theorem Moves.oneOpenCategory (h : Moves id change table table')
    (hopen : OneOpenCategory table) : OneOpenCategory table' := by
  cases h with
  | absent => exact hopen
  | moved old row found columns alone => exact oneOpenCategory_set hopen alone

theorem Effect.oneOpenCategory (h : Effect codec before call answer after)
    (hopen : OneOpenCategory before.escalations) : OneOpenCategory after.escalations := by
  cases h with
  | refused | alreadyApplied | adopted | queued => exact hopen
  | applied _ _ _ applied => exact applied.escalations ▸ hopen
  | retried _ _ _ _ retried =>
    rw [retried.unchanged]
    exact hopen
  | exhausted _ _ _ _ _ exhausted =>
    obtain ⟨_, _, _, -, -, hletter⟩ := exhausted.dies
    obtain ⟨_, _, -, hlands, -⟩ := hletter.lands
    exact hlands.oneOpenCategory hopen
  | moved _ _ _ moves => exact moves.oneOpenCategory hopen

/-- The index holds in every run. -/
theorem oneOpenCategory_run (hopen : OneOpenCategory start.db.escalations)
    (requests : List Request) :
    OneOpenCategory ((ledger codec).run start requests).db.escalations :=
  (ledger codec).run_invariant (P := fun s => OneOpenCategory s.db.escalations)
    (fun s r h => (perform_effect codec s r).oneOpenCategory h) hopen requests

/-! ## The evidence -/

theorem subset_addReference (evidence : List Json) (reference : String) :
    evidence ⊆ addReference evidence reference := by
  unfold addReference
  split_ifs
  · exact List.Subset.refl _
  · exact List.subset_append_left _ _

theorem str_mem_addReference (evidence : List Json) (reference : String) :
    .str reference ∈ addReference evidence reference := by
  unfold addReference
  split_ifs with hany
  · obtain ⟨existing, hexisting, heq⟩ := List.any_eq_true.mp hany
    cases existing <;> simp only [Json.asStr, beq_iff_eq, reduceCtorEq, some.injEq] at heq
    exact heq ▸ hexisting
  · exact List.mem_append_right _ (List.mem_singleton_self _)

/-- The loop adds every reference. -/
theorem str_mem_foldl_addReference {references : List String}
    (h : reference ∈ references) (evidence : List Json) :
    .str reference ∈ references.foldl addReference evidence := by
  induction references generalizing evidence with
  | nil => cases h
  | cons head rest ih =>
    rw [List.foldl_cons]
    rcases List.mem_cons.mp h with rfl | hrest
    · have hmono : ∀ (l : List String) (e : List Json), e ⊆ l.foldl addReference e := by
        intro l
        induction l with
        | nil => exact fun e => List.Subset.refl e
        | cons a l ihl => exact fun e => List.Subset.trans (subset_addReference e a) (ihl _)
      exact hmono rest _ (str_mem_addReference evidence _)
    · exact ih hrest _

/-- A merge keeps the references that are there and adds the new ones. -/
theorem str_mem_mergeEvidence {existing candidates : List Json}
    (h : .str reference ∈ candidates) : .str reference ∈ mergeEvidence existing candidates := by
  unfold mergeEvidence
  by_cases hany : existing.any fun item => item.sqlEq (.str reference)
  · obtain ⟨item, hitem, heq⟩ := List.any_eq_true.mp hany
    have hnormal := of_decide_eq_true heq
    cases item <;> simp [Json.normalize, reduceCtorEq] at hnormal
    exact List.mem_append_left _ (hnormal ▸ hitem)
  · exact List.mem_append_right _ (List.mem_filter.mpr ⟨h, by simpa using hany⟩)

/-- What normalizing keeps of a dead letter, and the references it adds. -/
structure Normalized (proposed : DeadLetterEscalation) (jobId : Uuid)
    (jobType errorDigest : String) (normalized : DeadLetterEscalation) : Prop where
  category : normalized.category = proposed.category
  deadline : normalized.deadline = proposed.deadline
  evidence : ∃ evidence, normalized.evidenceReferences = .arr evidence ∧
    ∀ reference ∈ exactEvidence jobId jobType errorDigest, .str reference ∈ evidence

theorem normalizedDeadLetter_eq_ok {normalized : DeadLetterEscalation} {jobId : Uuid}
    (h : normalizedDeadLetter proposed jobId jobType errorDigest = .ok normalized) :
    Normalized proposed jobId jobType errorDigest normalized := by
  simp only [normalizedDeadLetter, bind_eq_ok_iff] at h
  obtain ⟨_, -, evidence, -, _, -, h⟩ := h
  obtain rfl := Except.ok.inj h
  exact ⟨rfl, rfl, _, rfl, fun reference hreference =>
    str_mem_foldl_addReference hreference evidence⟩

theorem Lands.evidence {deadLetter : DeadLetterEscalation}
    (h : Lands fence attemptId jobType errorDigest proposed table row table')
    (hnormal : Normalized deadLetter fence.jobId jobType errorDigest proposed) :
    ∀ reference ∈ exactEvidence fence.jobId jobType errorDigest,
      .str reference ∈ row.evidenceReferences := by
  obtain ⟨evidence, hevidence, hexact⟩ := hnormal.evidence
  intro reference hreference
  cases h with
  | opened none_active opens alone new =>
    have hrow := (openedEscalation_eq_ok opens).evidence
    rw [hevidence] at hrow
    exact Json.arr.inj hrow ▸ hexact reference hreference
  | adopted old active merges =>
    obtain ⟨candidates, hcandidates, hrow⟩ := (mergedEscalation_eq_ok merges).evidence
    rw [hevidence] at hcandidates
    rw [hrow]
    exact str_mem_mergeEvidence (Json.arr.inj hcandidates ▸ hexact reference hreference)

/-! ## What a dead job leaves behind -/

/-- The escalation that owns a dead job of `workItemId`, with the work item and its
    anchor; `errorDigest` is the digest of the job's error. -/
structure Owned (job : WorkflowJob) (workItemId : Uuid) (errorDigest : String)
    (escalation : Escalation) (before after : Db) : Prop where
  linked : job.deadLetterEscalationId = some escalation.id
  found : after.escalations.find? escalation.id = some escalation
  tenant : escalation.tenantId = job.tenantId
  workItem : escalation.workItemId = workItemId
  attempt : escalation.attemptId = job.attemptId
  /-- It is open, or it was acknowledged before and is still active. -/
  active : escalation.status = .open ∨ escalation.status = .acknowledged ∧
    ∃ old, before.escalations.find? escalation.id = some old ∧ old.status = .acknowledged
  owner : btrim escalation.ownerId ≠ ""
  evidence : ∀ reference ∈ exactEvidence job.id job.jobType errorDigest,
    .str reference ∈ escalation.evidenceReferences
  escalated : ∃ row, after.workItems.find? workItemId = some row ∧ row.state = .escalated
  anchored : ∃ row, after.anchors.find? (job.tenantId, workItemId) = some row ∧
    row.anchorType = .escalation ∧ row.referenceId = escalation.id

theorem state_of_text_escalated {state : WorkItemState} (h : state.text = "ESCALATED") :
    state = .escalated := by
  cases state <;> simp_all [WorkItemState.text]

theorem open_or_acknowledged {status : EscalationStatus} (h : status.isActive) :
    status = .open ∨ status = .acknowledged := by
  cases status <;> simp_all [EscalationStatus.isActive]

theorem Lands.status (h : Lands fence attemptId jobType errorDigest proposed table row table') :
    row.status = .open ∨ row.status = .acknowledged ∧
      ∃ old, table.find? row.id = some old ∧ old.status = .acknowledged := by
  have hactive := h.active
  cases h with
  | opened none_active opens alone new => exact .inl (openedEscalation_eq_ok opens).status
  | adopted old active merges =>
    have hmerged := mergedEscalation_eq_ok merges
    simp only [isActiveFor, Bool.and_eq_true] at hactive
    rcases open_or_acknowledged hactive.2 with hstatus | hstatus
    · exact .inl hstatus
    · have hold := Table.find?_key_of_mem (List.mem_of_find?_eq_some active)
      exact .inr ⟨hstatus, old, hmerged.id ▸ hold, hmerged.status.symm.trans hstatus⟩

/-- **A dead job is owned.** -/
theorem Exhausted.owned {forceTerminal : Bool} {escalationId : Uuid}
    (h : Exhausted codec failure forceTerminal escalationId before after)
    (hjob : after.jobs.find? failure.fence.jobId = some job) :
    ∃ escalation, Owned job failure.fence.workItemId (codec.textDigest failure.errorSummary)
      escalation before after := by
  obtain ⟨old, result, now, hterminal, hsettles, hletter⟩ := h.dies
  obtain ⟨proposed, escalation, hproposed, hlands, hid⟩ := hletter.lands
  obtain rfl := some.inj (hsettles.settled.symm.trans hjob)
  have hactive := hlands.active
  simp only [isActiveFor, Bool.and_eq_true, beq_iff_eq] at hactive
  obtain ⟨⟨⟨⟨htenant, hworkItem⟩, hattempt⟩, -⟩, -⟩ := hactive
  obtain ⟨_, workItem, -, hworkItemFound, -, -, -, hstate⟩ := hletter.advances.workItem.row
  obtain ⟨anchor, hanchorFound, -, hkind, hreference⟩ := hletter.advances.anchor.row
  have hjobId : old.id = failure.fence.jobId := Table.key_of_find? hsettles.found
  refine ⟨escalation, {
    linked := by simp [failedStepJob, hterminal, hid]
    found := hlands.found
    tenant := htenant.trans hsettles.tenant.symm
    workItem := hworkItem
    attempt := hattempt
    active := hlands.status
    owner := escalation.checks.ownerId
    evidence := ?_
    escalated := ⟨workItem, hworkItemFound, state_of_text_escalated hstate⟩
    anchored := ⟨anchor, ?_, hkind, hreference.trans hid.symm⟩ }⟩
  · have hevidence := hlands.evidence (normalizedDeadLetter_eq_ok hproposed)
    rw [← hjobId] at hevidence
    exact hevidence
  · rw [← hsettles.tenant] at hanchorFound
    exact hanchorFound

/-- A job whose row a step has changed, and did not insert, is the step's own. -/
theorem Settles.row_of_changed {job' row : WorkflowJob} (h : Settles fence job job' before after)
    (hrow : after.jobs.find? k = some row) (hchanged : before.jobs.find? k ≠ some row)
    (hstatus : row.status ≠ .pending) : k = fence.jobId ∧ row = job' := by
  by_cases hk : k = fence.jobId
  · subst hk
    exact ⟨rfl, some.inj (hrow.symm.trans h.settled)⟩
  · rcases h.others k hk with heq | ⟨-, now, request, hnew⟩
    · exact absurd (heq ▸ hrow) hchanged
    · obtain rfl := some.inj (hrow.symm.trans hnew)
      exact absurd rfl hstatus

/-- The queue ends no job. -/
theorem not_dead_of_rowStep {now : Timestamptz} {row : Option WorkflowJob}
    {event : Option Jobs.JobEvent} (h : Jobs.RowStep now row event (some job))
    (hchanged : row ≠ some job) : job.status ≠ .dead := by
  cases h with
  | idle => exact absurd rfl hchanged
  | enqueue | claim | complete | fail => simp [Jobs.insertedJob, Jobs.claimedJob,
      Jobs.completedJob, Jobs.failedJob]
  | renew job _ _ _ _ _ live =>
    simp [Jobs.renewedJob, (Jobs.isLiveClaim_iff.mp live).2.2.1]

/-- Only a terminal failure ends a job. -/
theorem Effect.exhausted_of_dead (h : Effect codec before call answer after)
    (hjob : after.jobs.find? k = some job) (hchanged : before.jobs.find? k ≠ some job)
    (hdead : job.status = .dead) :
    ∃ failure prelocked forceTerminal escalationId,
      call = .fail failure prelocked forceTerminal ∧ k = failure.fence.jobId ∧
      Exhausted codec failure forceTerminal escalationId before after := by
  have hpending : job.status ≠ .pending := by simp [hdead]
  cases h with
  | refused | alreadyApplied | adopted | moved => exact absurd hjob hchanged
  | applied _ _ _ applied =>
    obtain ⟨_, _, hsettles⟩ := applied.settles
    obtain ⟨-, rfl⟩ := hsettles.row_of_changed hjob hchanged hpending
    cases hdead
  | retried _ _ _ _ retried =>
    obtain ⟨_, _, hterminal, hsettles⟩ := retried.settles
    obtain ⟨-, rfl⟩ := hsettles.row_of_changed hjob hchanged hpending
    simp [failedStepJob, hterminal] at hdead
  | exhausted failure prelocked forceTerminal escalationId _ exhausted =>
    obtain ⟨_, _, _, -, hsettles, -⟩ := exhausted.dies
    obtain ⟨rfl, -⟩ := hsettles.row_of_changed hjob hchanged hpending
    exact ⟨failure, prelocked, forceTerminal, escalationId, rfl, rfl, exhausted⟩
  | queued call now verdict =>
    have hstep := Jobs.perform_rowStep now verdict ⟨before.jobs, .empty⟩ call k
    rw [Db.withJobs_jobs] at hjob
    rw [hjob] at hstep
    exact absurd hdead (not_dead_of_rowStep hstep hchanged)

/-! ## Merging -/

/-- From the least to the most severe. -/
def Severity.rank : Severity → ℕ
  | .info => 0
  | .low => 1
  | .medium => 2
  | .high => 3
  | .critical => 4

/-- The deadline that a newly recorded dead letter of the work item and the attempt
    asks for. -/
def deadLetterOf (tenantId workItemId : Uuid) (attemptId : Option Uuid) (before : Db) :
    Call → Result Answer → Option DateTime
  | .fail failure _ _, .ok (.fail ⟨.escalated, true, _⟩) =>
    if failure.fence.tenantId = tenantId ∧ failure.fence.workItemId = workItemId
        ∧ (before.jobs.find? failure.fence.jobId).map WorkflowJob.attemptId = some attemptId then
      some failure.deadLetter.deadline
    else none
  | _, _ => none

/-- The deadlines that the dead letters of a run ask for, oldest first. -/
def requestedDeadlines (codec : Codec) (tenantId workItemId : Uuid) (attemptId : Option Uuid)
    (start : State) (requests : List Request) : List DateTime :=
  (ledger codec).observe (fun s r => deadLetterOf tenantId workItemId attemptId s.db r.call
    ((ledger codec).answer s r)) start requests

/-- The earliest of a deadline and those that were asked for, as it is stored. -/
def earliest (deadline : Timestamptz) (requested : List DateTime) : Timestamptz :=
  requested.foldl (fun d t => min d t.encode) deadline

/-- `row` is `old` after the merges of dead letters that asked for `requested`. -/
structure MergedFrom (old : Escalation) (requested : List DateTime) (row : Escalation) :
    Prop where
  tenantId : row.tenantId = old.tenantId
  workItemId : row.workItemId = old.workItemId
  attemptId : row.attemptId = old.attemptId
  category : row.category = old.category
  severity : old.severity.rank ≤ row.severity.rank
  deadline : row.deadline = earliest old.deadline requested
  evidence : old.evidenceReferences <+: row.evidenceReferences

namespace MergedFrom

theorem refl (row : Escalation) : MergedFrom row [] row :=
  ⟨rfl, rfl, rfl, rfl, le_rfl, rfl, List.prefix_rfl⟩

theorem trans {mid : Escalation} {first second : List DateTime} (h : MergedFrom old first mid)
    (h' : MergedFrom mid second row) :
    MergedFrom old (first ++ second) row where
  tenantId := h'.tenantId.trans h.tenantId
  workItemId := h'.workItemId.trans h.workItemId
  attemptId := h'.attemptId.trans h.attemptId
  category := h'.category.trans h.category
  severity := h.severity.trans h'.severity
  deadline := by rw [h'.deadline, h.deadline, earliest, earliest, earliest, List.foldl_append]
  evidence := h.evidence.trans h'.evidence

end MergedFrom

/-- One merge raises the severity, takes the earlier deadline and adds references. -/
theorem Merged.mergedFrom (h : Merged proposed old row) :
    MergedFrom old [proposed.deadline] row where
  tenantId := h.tenantId
  workItemId := h.workItemId
  attemptId := h.attemptId
  category := h.category
  severity := by
    rw [h.severity]
    split_ifs with hcritical
    · cases old.severity <;> simp [Severity.rank]
    · have hne : old.severity ≠ .critical := fun heq => hcritical (.inl heq)
      cases hseverity : old.severity <;> simp_all [Severity.rank]
  deadline := h.deadline
  evidence := by
    obtain ⟨candidates, -, hrow⟩ := h.evidence
    rw [hrow]
    exact List.prefix_append _ _

theorem isActiveFor_iff {tenantId workItemId : Uuid} {category : String} :
    isActiveFor tenantId workItemId attemptId category row ↔ row.tenantId = tenantId ∧
      row.workItemId = workItemId ∧ row.attemptId = attemptId ∧ row.category.text = category ∧
      row.status.isActive := by
  simp [isActiveFor, and_assoc]

theorem category_text_injective {a b : EscalationCategory} (h : a.text = b.text) : a = b := by
  revert h
  cases a <;> cases b <;> decide

section Landing

variable {landed : Escalation}
  (h : Lands fence attemptId jobType errorDigest proposed table landed table')

include h

/-- A dead letter lands on the active escalation of its work item and attempt. -/
theorem Lands.merges (hopen : OneOpenCategory table) (hrow : table.find? row.id = some row)
    (hactive : isActiveFor fence.tenantId fence.workItemId attemptId proposed.category row) :
    landed.id = row.id ∧ MergedFrom row [proposed.deadline] landed := by
  have hmem := Table.mem_of_find? hrow
  cases h with
  | opened none_active opens alone new =>
    exact absurd hactive (List.find?_eq_none.mp none_active row hmem)
  | adopted old active merges =>
    have hold := isActiveFor_iff.mp (List.find?_some active)
    have hrowKey := isActiveFor_iff.mp hactive
    obtain rfl : old = row := by
      refine hopen row hmem old (List.mem_of_find?_eq_some active) hrowKey.2.2.2.2 ?_
      refine sharesOpenCategory_iff.mpr ⟨hold.2.2.2.2, hold.1.trans hrowKey.1.symm,
        hold.2.1.trans hrowKey.2.1.symm, ?_,
        category_text_injective (hold.2.2.2.1.trans hrowKey.2.2.2.1.symm)⟩
      rw [hold.2.2.1, hrowKey.2.2.1]
    have hmerged := mergedEscalation_eq_ok merges
    exact ⟨hmerged.id, hmerged.mergedFrom⟩

/-- A dead letter of another work item or attempt leaves it alone. -/
theorem Lands.keeps (hrow : table.find? row.id = some row)
    (hother : ¬ (row.tenantId = fence.tenantId ∧ row.workItemId = fence.workItemId ∧
      row.attemptId = attemptId)) : table'.find? row.id = some row := by
  cases h with
  | opened none_active opens alone new => rw [Table.find?_insert, hrow]; rfl
  | adopted old active merges =>
    have hold := isActiveFor_iff.mp (List.find?_some active)
    have hid : landed.id ≠ row.id := by
      intro heq
      rw [(mergedEscalation_eq_ok merges).id] at heq
      obtain rfl : old = row := Table.eq_of_key_eq (List.mem_of_find?_eq_some active)
        (Table.mem_of_find? hrow) heq
      exact hother ⟨hold.1, hold.2.1, hold.2.2.1⟩
    rw [Table.find?_set, if_neg hid, hrow]

theorem Lands.deadline :
    (table.find? landed.id = none → landed.deadline = proposed.deadline.encode) ∧
      ∀ old, table.find? landed.id = some old → MergedFrom old [proposed.deadline] landed := by
  cases h with
  | opened none_active opens alone new =>
    refine ⟨fun _ => (openedEscalation_eq_ok opens).deadline, fun old hold => ?_⟩
    rw [Table.find?_eq_none_of_notMem new] at hold
    cases hold
  | adopted old active merges =>
    have hmerged := mergedEscalation_eq_ok merges
    have hold := Table.find?_key_of_mem (List.mem_of_find?_eq_some active)
    rw [← hmerged.id] at hold
    refine ⟨fun hnone => ?_, fun old' hold' => ?_⟩
    · rw [hold] at hnone
      cases hnone
    · obtain rfl : old = old' := some.inj (hold.symm.trans hold')
      exact hmerged.mergedFrom

end Landing

theorem category_of_valid (h : failure.validate = .ok ()) :
    failure.deadLetter.category = "WORKFLOW_JOB_EXHAUSTED" := by
  simp only [WorkflowStepFailure.validate, DeadLetterEscalation.validate, bind_eq_ok_iff] at h
  obtain ⟨_, -, _, -, _, -, _, -, _, hcategory, -⟩ := h
  simpa using hcategory

theorem Moves.mergedFrom (h : Moves id change table table') (hrow : table.find? row.id = some row) :
    ∃ row', table'.find? row.id = some row' ∧ MergedFrom row [] row' := by
  cases h with
  | absent => exact ⟨row, hrow, .refl row⟩
  | moved old new found columns alone =>
    rw [Table.find?_set]
    split_ifs with hid
    · have hold : old = row := by
        refine Table.eq_of_key_eq (Table.mem_of_find? found) (Table.mem_of_find? hrow) ?_
        rw [← hid, columns]
      subst hold
      refine ⟨new, by rw [hrow]; rfl, ?_⟩
      constructor <;> rw [columns]
      rfl
    · exact ⟨row, hrow, .refl row⟩

section Run

variable {tenantId workItemId : Uuid}

/-- **One request** merges what it asks for into the active escalation of the work
    item and the attempt. -/
theorem Effect.mergedFrom (h : Effect codec before call answer after)
    (hopen : OneOpenCategory before.escalations) (hrow : before.escalations.find? row.id = some row)
    (hactive : isActiveFor tenantId workItemId attemptId "WORKFLOW_JOB_EXHAUSTED" row) :
    ∃ row', after.escalations.find? row.id = some row' ∧
      MergedFrom row (deadLetterOf tenantId workItemId attemptId before call answer).toList
        row' := by
  have hkey := isActiveFor_iff.mp hactive
  cases h with
  | refused call error =>
    have hnone : deadLetterOf tenantId workItemId attemptId before call (.error error) = none := by
      cases call <;> rfl
    exact ⟨row, hrow, hnone ▸ .refl row⟩
  | alreadyApplied | queued => exact ⟨row, hrow, .refl row⟩
  | adopted failure prelocked forceTerminal outcome adopted =>
    have hnone : deadLetterOf tenantId workItemId attemptId before
        (.fail failure prelocked forceTerminal) (.ok (.fail outcome)) = none := by
      obtain ⟨disposition, newlyRecorded, linked⟩ := outcome
      subst adopted
      cases disposition <;> rfl
    exact ⟨row, hrow, hnone ▸ .refl row⟩
  | applied _ _ _ applied => exact ⟨row, applied.escalations ▸ hrow, .refl row⟩
  | retried _ _ _ _ retried =>
    refine ⟨row, ?_, .refl row⟩
    rw [retried.unchanged]
    exact hrow
  | exhausted failure prelocked forceTerminal escalationId _ exhausted =>
    obtain ⟨job, result, now, hterminal, hsettles, hletter⟩ := exhausted.dies
    obtain ⟨proposed, landed, hproposed, hlands, -⟩ := hletter.lands
    have hnormal := normalizedDeadLetter_eq_ok hproposed
    have hcategory := hnormal.category.trans (category_of_valid exhausted.valid)
    simp only [deadLetterOf, hsettles.found, Option.map_some, some.injEq]
    split_ifs with hsame
    · obtain ⟨rfl, rfl, rfl⟩ := hsame
      obtain ⟨hid, hmerged⟩ := hlands.merges hopen hrow (hcategory ▸ hactive)
      rw [hnormal.deadline] at hmerged
      exact ⟨landed, hid ▸ hlands.found, hmerged⟩
    · refine ⟨row, hlands.keeps hrow ?_, .refl row⟩
      rintro ⟨htenant, hworkItem, hattempt⟩
      exact hsame ⟨htenant.symm.trans hkey.1, hworkItem.symm.trans hkey.2.1,
        hattempt.symm.trans hkey.2.2.1⟩
  | moved _ _ _ moves => exact moves.mergedFrom hrow

/-- The escalation `id` is active in `s`. -/
def ActiveAt (id : Uuid) (s : State) : Prop :=
  ∃ row, s.db.escalations.find? id = some row ∧ row.status.isActive

/-- **A run** merges what its requests ask for, as long as the escalation is active. -/
theorem run_mergedFrom (hopen : OneOpenCategory start.db.escalations)
    (hold : start.db.escalations.find? old.id = some old)
    (hactive : isActiveFor tenantId workItemId attemptId "WORKFLOW_JOB_EXHAUSTED" old)
    (requests : List Request) (hstays : ∀ prior r later, requests = prior ++ r :: later →
      ActiveAt old.id ((ledger codec).run start prior)) :
    ∃ row, ((ledger codec).run start requests).db.escalations.find? old.id = some row ∧
      MergedFrom old (requestedDeadlines codec tenantId workItemId attemptId start requests)
        row := by
  induction requests using List.reverseRecOn with
  | nil => exact ⟨old, hold, .refl old⟩
  | append_singleton requests r ih =>
    obtain ⟨row, hrow, hmerged⟩ := ih fun prior r' later heq =>
      hstays prior r' (later ++ [r]) (by simp [heq])
    obtain ⟨row', hrow', hstatus⟩ := hstays requests r [] rfl
    obtain rfl : row = row' := some.inj (hrow.symm.trans hrow')
    have hkey := isActiveFor_iff.mp hactive
    have hid : row.id = old.id := (Table.find?_eq_some_iff.mp hrow).2
    have hactive' : isActiveFor tenantId workItemId attemptId "WORKFLOW_JOB_EXHAUSTED" row :=
      isActiveFor_iff.mpr ⟨hmerged.tenantId.trans hkey.1, hmerged.workItemId.trans hkey.2.1,
        hmerged.attemptId.trans hkey.2.2.1, by rw [hmerged.category]; exact hkey.2.2.2.1, hstatus⟩
    obtain ⟨last, hlast, hstep⟩ := (perform_effect codec _ r).mergedFrom
      (oneOpenCategory_run hopen requests) (hid ▸ hrow) hactive'
    refine ⟨last, ?_, ?_⟩
    · rw [Machine.run_concat, ← hid]
      exact hlast
    · rw [requestedDeadlines, Machine.observe_concat]
      exact hmerged.trans hstep

end Run

/-! ## The contract -/

/-- What holds of the dead letters that the ledger in state `s` records. -/
structure DeadLetterContract (codec : Codec) (s : State) : Prop where
  /-- A job that dies is owned, together with its work item. -/
  owned : ∀ request k job, ((ledger codec).next s request).db.jobs.find? k = some job →
    job.status = .dead → s.db.jobs.find? k ≠ some job →
    ∃ failure prelocked forceTerminal escalation,
      request.call = .fail failure prelocked forceTerminal ∧
      job.workItemId = some failure.fence.workItemId ∧
      Owned job failure.fence.workItemId (codec.textDigest failure.errorSummary) escalation s.db
        ((ledger codec).next s request).db
  /-- A dead letter opens an escalation with its own deadline or merges into the active
      one, and so do the later ones of its work item and attempt while that stays active. -/
  merged : ∀ request failure prelocked forceTerminal escalationId,
    request.call = .fail failure prelocked forceTerminal →
    (ledger codec).answer s request = .ok (.fail ⟨.escalated, true, some escalationId⟩) →
    ∃ first, ((ledger codec).next s request).db.escalations.find? escalationId = some first ∧
      (s.db.escalations.find? escalationId = none →
        first.deadline = failure.deadLetter.deadline.encode) ∧
      (∀ old, s.db.escalations.find? escalationId = some old →
        MergedFrom old [failure.deadLetter.deadline] first) ∧
      ∀ later, (∀ prior r rest, later = prior ++ r :: rest →
          ActiveAt escalationId ((ledger codec).run ((ledger codec).next s request) prior)) →
        ∃ row, ((ledger codec).run ((ledger codec).next s request) later).db.escalations.find?
            escalationId = some row ∧
          MergedFrom first (requestedDeadlines codec first.tenantId first.workItemId
            first.attemptId ((ledger codec).next s request) later) row

/-- An escalation that is active. -/
def acknowledgedEscalation : Escalation where
  id := .ofNat 8
  tenantId := .ofNat 1
  workItemId := .ofNat 4
  attemptId := none
  runId := none
  category := .workflowJobExhausted
  status := .acknowledged
  severity := .high
  reason := "exhausted"
  ownerType := .team
  ownerId := "platform"
  requiredAction := "reconcile"
  evidenceReferences := []
  deadline := 5
  escalationPath := []
  retryPolicy := []
  prerequisites := []
  authorityOrEffectActive := true
  idempotencyKey := "first"
  aggregateVersion := 1
  openedAt := 0
  acknowledgedAt := some 1
  closedAt := none
  checks := by decide +kernel

end Asf.Steps
