import Asf.Workflow.Reducer

/-!
# Every accepted workflow has an accountable next action

An invariant of the reducer's runs: the generation counts the applied facts,
the anchor's kind goes with the stage, a wake-up time is set exactly where one
is needed, and a closed workflow names the evidence it was closed on.

Results:

* `Takes.armAccountable`: what every arm of the reducer keeps.
* `workflow_accountable`: the invariant along every run.
-/

namespace Asf.Workflow

open WorkflowState (accepted bumped)

/-! ## Texts that are not blank -/

theorem isBlank_append_left {s : String} (h : isBlank s = false) (t : String) :
    isBlank (s ++ t) = false := by
  simp only [isBlank, String.toList_append, List.all_append, Bool.and_eq_false_iff] at h ⊢
  exact .inl h

theorem not_isBlank_toText (id : Uuid) : isBlank id.toText = false := by
  have hhyphen : '-' ∈ id.toText.toList := by
    simp [Uuid.toText, Uuid.chars]
  simp only [isBlank, List.all_eq_false]
  exact ⟨'-', hhyphen, by decide⟩

/-! ## The invariant -/

/-- Which kind of anchor goes with which stage. -/
structure KindMatches (kind : AccountabilityKind) (stage : WorkflowStage) : Prop where
  verifiedClosure_iff : kind = .verifiedClosure ↔ stage = .closed
  cancellation_iff : kind = .cancellation ↔ stage = .cancelled
  escalation_iff : kind = .escalation ↔ stage = .escalated ∨ stage = .quarantined
  retry_iff : kind = .retry ↔ stage = .waitingRetry
  approval_iff : kind = .approval ↔ stage = .waitingApproval
  activeRun_iff : kind = .activeRun ↔ stage = .observingRun

/-- The kinds that wait for an instant. -/
def AccountabilityKind.isTimed : AccountabilityKind → Bool
  | .timer | .retry | .approval | .escalation => true
  | _ => false

/-- The digests of the Work Orders stored along a run are not blank. -/
def DigestsNonblank (trace : Trace) : Prop :=
  ∀ e ∈ trace, ∀ digest, e.input.1 = .workOrderStored digest → isBlank digest = false

/-- What holds of the state and the facts applied so far. -/
structure Accountable (reducer : WorkflowReducer) (state : WorkflowState) (trace : Trace) :
    Prop where
  generation_eq : state.generation = 1 + trace.length
  anchorGeneration_eq : state.accountability.generation = state.generation
  anchorWorkItem_eq : state.accountability.workItemId = state.workItemId
  kindMatches : KindMatches state.accountability.kind state.stage
  wake_iff : state.accountability.wakeOrDeadlineAt.isSome ↔ state.accountability.kind.isTimed
  closed_evidence : state.stage = .closed →
    ∃ evidenceId, state.evidenceId = some evidenceId
      ∧ state.accountability.referenceId = evidenceId.toText
  effects_nonempty : ∀ e ∈ trace, e.output ≠ []
  reference_nonblank : DigestsNonblank trace → isBlank state.accountability.referenceId = false
  final_rejects : state.stage = .closed ∨ state.stage = .cancelled →
    ∀ fact now, ∃ error, reducer.apply state fact now = .error error

/-! ## One step -/

/-- The part of the invariant an arm establishes whatever came before. -/
structure ArmAccountable (arm : Arm) : Prop where
  kindMatches : KindMatches arm.kind arm.stage
  wake_iff : arm.wake.isSome ↔ arm.kind.isTimed
  effects_nonempty : arm.effects ≠ []

section Step

variable {reducer : WorkflowReducer} {now : DateTime} {state mid : WorkflowState}
  {fact : WorkflowFact} {arm : Arm}

section

variable (h : Takes reducer now state fact mid arm)

include h

theorem Takes.armAccountable : ArmAccountable arm := by
  cases h with
  | escalate stop stage category reason h hstop hstage =>
    refine ⟨⟨?_, ?_, ?_, ?_, ?_, ?_⟩, ?_, ?_⟩ <;> rcases hstage with rfl | rfl <;>
      simp [escalation, AccountabilityKind.isTimed]
  | _ =>
    refine ⟨⟨?_, ?_, ?_, ?_, ?_, ?_⟩, ?_, ?_⟩ <;> simp [AccountabilityKind.isTimed]

/-- A stored digest is the only text an arm takes over as it is. -/
theorem Takes.reference_nonblank
    (hdigest : ∀ digest, fact = .workOrderStored digest → isBlank digest = false) :
    isBlank arm.reference = false := by
  cases h with
  | store digest h => exact hdigest digest rfl
  | submit runId h => exact not_isBlank_toText runId
  | close h =>
    cases state.evidenceId with
    | none => decide
    | some evidenceId => exact not_isBlank_toText evidenceId
  | grant | evidence | retry | ask =>
    simp only [String.append_assoc]
    exact isBlank_append_left (by decide) _
  | escalate | validate => exact isBlank_append_left (by decide) _
  | _ => dsimp only; decide

/-- A workflow that closes its source has the evidence it closes it on. -/
theorem Takes.closing_evidence
    (hstate : state.stage = .closingSource → ∃ evidenceId, state.evidenceId = some evidenceId) :
    (arm.stage = .closingSource → ∃ evidenceId, mid.evidenceId = some evidenceId)
      ∧ (arm.stage = .closed → ∃ evidenceId, mid.evidenceId = some evidenceId
        ∧ arm.reference = evidenceId.toText) := by
  cases h with
  | validate evidenceId h => exact ⟨fun _ => ⟨evidenceId, rfl⟩, by simp⟩
  | close h =>
    obtain ⟨evidenceId, hevidence⟩ := hstate h
    exact ⟨by simp, fun _ => ⟨evidenceId, hevidence, by simp [hevidence]⟩⟩
  | closeAmbiguous h => exact ⟨fun _ => hstate h, by simp⟩
  | escalate stop stage category reason h hstop hstage =>
    rcases hstage with rfl | rfl <;> simp [escalation]
  | _ => simp

/-- Only the counters, the run and the evidence are set before the anchor. -/
theorem Takes.frame : mid.workItemId = state.workItemId ∧ mid.generation = state.generation := by
  cases h <;> exact ⟨rfl, rfl⟩

theorem Takes.not_final : state.stage ≠ .closed ∧ state.stage ≠ .cancelled := by
  cases h with
  | cancel h =>
    constructor <;> rintro hstage <;> simp [hstage, WorkflowReducer.isCancellable] at h
  | _ => rename_i h; simp_all

end

/-- A finished workflow rejects every fact. -/
theorem apply_final_error (hstage : state.stage = .closed ∨ state.stage = .cancelled)
    (fact : WorkflowFact) (now : DateTime) :
    ∃ error, reducer.apply state fact now = .error error := by
  rcases happly : reducer.apply state fact now with error | transition
  · exact ⟨error, rfl⟩
  · obtain ⟨mid, arm, htakes, -⟩ := apply_takes happly
    rcases hstage with hstage | hstage
    · exact absurd hstage htakes.not_final.1
    · exact absurd hstage htakes.not_final.2

end Step

/-! ## Every run -/

/-- The invariant with what the closing of the source rests on. -/
structure AccountableRun (reducer : WorkflowReducer) (state : WorkflowState) (trace : Trace) :
    Prop extends Accountable reducer state trace where
  closing_evidence : state.stage = .closingSource → ∃ evidenceId, state.evidenceId = some evidenceId

theorem accountableRun_accepted (reducer : WorkflowReducer) (workItemId : Uuid) (now : DateTime) :
    AccountableRun reducer (.accepted workItemId now) [] where
  generation_eq := rfl
  anchorGeneration_eq := rfl
  anchorWorkItem_eq := rfl
  kindMatches := by constructor <;> simp [accepted, anchor]
  wake_iff := by simp [accepted, anchor, AccountabilityKind.isTimed]
  closed_evidence := by simp [accepted]
  effects_nonempty := by simp
  reference_nonblank := fun _ => by dsimp only [accepted, anchor]; decide
  final_rejects := by simp [accepted]
  closing_evidence := by simp [accepted]

theorem accountableRun_step {reducer : WorkflowReducer} {state state' : WorkflowState}
    {trace : Trace} {input : Input} {effects : List WorkflowEffect}
    (h : AccountableRun reducer state trace)
    (hstep : (workflow reducer).step state input = .ok (state', effects)) :
    AccountableRun reducer state' (trace ++ [⟨state, input, state', effects⟩]) := by
  obtain ⟨mid, arm, htakes, rfl, rfl⟩ := workflow_step_takes hstep
  have harm := htakes.armAccountable
  have hclosing := htakes.closing_evidence h.closing_evidence
  obtain ⟨hitem, hgeneration⟩ := htakes.frame
  exact
    { generation_eq := by
        have := h.generation_eq
        simp only [WorkflowReducer.finish, hgeneration, bumped, List.length_append,
          List.length_singleton]
        omega
      anchorGeneration_eq := rfl
      anchorWorkItem_eq := rfl
      kindMatches := harm.kindMatches
      wake_iff := harm.wake_iff
      closed_evidence := hclosing.2
      effects_nonempty := by
        intro e he
        rcases List.mem_append.mp he with he | he
        · exact h.effects_nonempty e he
        · rw [List.mem_singleton.mp he]
          exact harm.effects_nonempty
      reference_nonblank := fun hdigests =>
        htakes.reference_nonblank fun digest hdigest =>
          hdigests _ (List.mem_append_right _ (List.mem_singleton.mpr rfl)) digest hdigest
      final_rejects := apply_final_error
      closing_evidence := hclosing.1 }

/-- The invariant holds after every sequence of applied facts. -/
theorem workflow_accountable (reducer : WorkflowReducer) (workItemId : Uuid) (now : DateTime)
    {inputs : List Input} {state : WorkflowState} {trace : Trace}
    (hrun : (workflow reducer).run (.accepted workItemId now) inputs = .ok (state, trace)) :
    Accountable reducer state trace :=
  ((workflow reducer).run_invariant (P := AccountableRun reducer)
    (fun _ _ _ _ _ h hstep => accountableRun_step h hstep)
    (accountableRun_accepted reducer workItemId now) hrun).toAccountable

theorem workflow_accountable_closure :
    ∃ state trace, (workflow .default).run (.accepted (.ofNat 1) ⟨0⟩) closure = .ok (state, trace)
      ∧ state.stage = .closed ∧ Accountable .default state trace := by
  have hrun : (workflow .default).run (.accepted (.ofNat 1) ⟨0⟩) closure = .ok (_, _) := rfl
  exact ⟨_, _, hrun, rfl, workflow_accountable .default (.ofNat 1) ⟨0⟩ hrun⟩

end Asf.Workflow
