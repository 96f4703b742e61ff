import Asf.Workflow.Reducer

/-!
# Answers to what a workflow asked for

The reducer asks for evidence to be verified and for approvals, and takes the
answers as facts. It compares neither the evidence that is reported as validated
with the evidence it had fetched, nor the type of an approval with the type it
had requested.

Results:

* `closes_fetched_iff`: a workflow closes its source on the evidence it fetched
  last exactly if every validation reports that evidence.
* `grants_requested_iff`: the same for approvals.
-/

namespace Asf.Workflow

open Lib

variable {reducer : WorkflowReducer} {state : WorkflowState} {inputs : List Input} {trace : Trace}
  {start : WorkflowState} {evidenceId : Uuid}

/-! ## Evidence -/

/-- The evidence an effect fetches. -/
def WorkflowEffect.fetched : WorkflowEffect → Option Uuid
  | .fetchAndVerifyEvidence evidenceId => some evidenceId
  | _ => .none

/-- The evidence a stopped run is reported to have. -/
def WorkflowFact.available : WorkflowFact → Option Uuid
  | .runStopped (.evidenceAvailable evidenceId) => some evidenceId
  | _ => .none

/-- The evidence that is reported as validated. -/
def WorkflowFact.validated : WorkflowFact → Option Uuid
  | .evidenceValidated evidenceId => some evidenceId
  | _ => .none

theorem WorkflowFact.validated_eq_some_iff {fact : WorkflowFact} :
    fact.validated = some evidenceId ↔ fact = .evidenceValidated evidenceId := by
  cases fact <;> simp [validated]

/-- The evidence of the last `FetchAndVerifyEvidence` effect. -/
def latestFetched : Trace → Option Uuid := latest fun e => latest WorkflowEffect.fetched e.output

/-- The evidence of the last `RunStopped(EvidenceAvailable)` fact. -/
def latestAvailable : Trace → Option Uuid := latest fun e => e.input.1.available

theorem latestAvailable_concat (trace : Trace) (e : Taken WorkflowState Input _) :
    latestAvailable (trace ++ [e]) = e.input.1.available.or (latestAvailable trace) :=
  latest_concat ..

/-- Whenever `CloseSource` is emitted or the workflow is closed, it is on the
    evidence fetched last. -/
def ClosesFetched : Trace → Prop := Stepwise fun front e =>
  (∀ evidenceId, .closeSource evidenceId ∈ e.output →
      e.after.evidenceId = some evidenceId ∧ latestFetched (front ++ [e]) = some evidenceId)
    ∧ (e.after.stage = .closed → ∃ evidenceId, e.after.evidenceId = some evidenceId
      ∧ latestFetched (front ++ [e]) = some evidenceId)

/-- Every validation reports the evidence of the last stopped run. -/
def ValidatesAvailable : Trace → Prop := Stepwise fun front e =>
  ∀ evidenceId ∈ e.input.1.validated, latestAvailable front = some evidenceId

instance (trace : Trace) : Decidable (ValidatesAvailable trace) := by
  unfold ValidatesAvailable
  infer_instance

section Step

variable {now : DateTime} {mid : WorkflowState} {fact : WorkflowFact} {arm : Arm}

theorem Takes.validated (h : Takes reducer now state (.evidenceValidated evidenceId) mid arm) :
    arm.stage = .closingSource ∧ mid.evidenceId = some evidenceId := by
  cases h
  exact ⟨rfl, rfl⟩

variable (h : Takes reducer now state fact mid arm)

include h

theorem Takes.fetched_eq : latest WorkflowEffect.fetched arm.effects = fact.available := by
  cases h with
  | escalate stop => cases stop <;> first | rfl | contradiction
  | _ => rfl

theorem Takes.closeSource_iff (evidenceId : Uuid) :
    .closeSource evidenceId ∈ arm.effects ↔ fact = .evidenceValidated evidenceId := by
  cases h <;> simp [escalation, eq_comm]

/-- How a workflow comes to be closing or closed. -/
theorem Takes.closing_cases (hstage : arm.stage = .closingSource ∨ arm.stage = .closed) :
    (∃ evidenceId, fact = .evidenceValidated evidenceId ∧ mid.evidenceId = some evidenceId)
      ∨ (state.stage = .closingSource ∧ mid.evidenceId = state.evidenceId
        ∧ fact.available = none ∧ ∀ evidenceId, fact ≠ .evidenceValidated evidenceId) := by
  cases h with
  | validate evidenceId h => exact .inl ⟨evidenceId, rfl, rfl⟩
  | close h => exact .inr ⟨h, rfl, rfl, by simp⟩
  | closeAmbiguous h => exact .inr ⟨h, rfl, rfl, by simp⟩
  | escalate stop stage category reason h hstop hnext =>
    rcases hnext with rfl | rfl <;> simp [escalation] at hstage
  | _ => simp at hstage

end Step

theorem latestFetched_eq_latestAvailable
    (hrun : (workflow reducer).run start inputs = .ok (state, trace)) :
    latestFetched trace = latestAvailable trace := by
  refine (workflow reducer).run_invariant
    (P := fun _ trace => latestFetched trace = latestAvailable trace) ?_ rfl hrun
  intro state trace input state' effects ih hstep
  obtain ⟨mid, arm, htakes, -, rfl⟩ := workflow_step_takes hstep
  simp only [latestFetched, latestAvailable, latest_concat, htakes.fetched_eq] at ih ⊢
  rw [ih]

/-- What a closing or closed workflow knows of its evidence. -/
def ClosingKnown (state : WorkflowState) (trace : Trace) : Prop :=
  state.stage = .closingSource ∨ state.stage = .closed →
    ∃ evidenceId, state.evidenceId = some evidenceId ∧ latestAvailable trace = some evidenceId

theorem closingKnown_of_validates {workItemId : Uuid} {now : DateTime}
    (hrun : (workflow reducer).run (.accepted workItemId now) inputs = .ok (state, trace)) :
    ValidatesAvailable trace → ClosingKnown state trace := by
  refine (workflow reducer).run_invariant
    (P := fun state trace => ValidatesAvailable trace → ClosingKnown state trace)
    ?_ (fun _ => by simp [ClosingKnown, WorkflowState.accepted]) hrun
  intro state trace input state' effects ih hstep hvalidates hstage
  obtain ⟨mid, arm, htakes, rfl, rfl⟩ := workflow_step_takes hstep
  obtain ⟨hfront, hlast⟩ := stepwise_concat.mp hvalidates
  rw [latestAvailable_concat]
  rcases htakes.closing_cases hstage with
    ⟨evidenceId, hfact, hevidence⟩ | ⟨hclosing, hevidence, havailable, -⟩
  · exact ⟨evidenceId, hevidence, by
      rw [hfact]
      exact hlast _ (WorkflowFact.validated_eq_some_iff.mpr hfact)⟩
  · obtain ⟨evidenceId, hbefore, hlatest⟩ := ih hfront (.inl hclosing)
    exact ⟨evidenceId, hevidence.trans hbefore, by rw [havailable]; exact hlatest⟩

/-- A workflow closes its source on the evidence it fetched last, all along a
    run, exactly if every validation reports the evidence of the run that
    stopped last. -/
theorem closes_fetched_iff (reducer : WorkflowReducer) (workItemId : Uuid) (now : DateTime)
    {inputs : List Input} {state : WorkflowState} {trace : Trace}
    (hrun : (workflow reducer).run (.accepted workItemId now) inputs = .ok (state, trace)) :
    ClosesFetched trace ↔ ValidatesAvailable trace := by
  induction inputs using List.reverseRecOn generalizing state trace with
  | nil =>
    obtain ⟨-, rfl⟩ := Prod.mk.inj (Except.ok.inj hrun)
    simp [ClosesFetched, ValidatesAvailable]
  | append_singleton inputs input ih =>
    obtain ⟨before, effects, front, hfront, hstep, rfl⟩ :=
      (workflow reducer).run_concat_eq_ok_iff.mp hrun
    have hlatest := latestFetched_eq_latestAvailable hrun
    have hknown := closingKnown_of_validates hrun
    rw [ClosesFetched, ValidatesAvailable, stepwise_concat, stepwise_concat]
    rw [ClosesFetched, ValidatesAvailable] at ih
    rw [ih hfront]
    refine and_congr_right fun hvalidates => ?_
    obtain ⟨mid, arm, htakes, rfl, rfl⟩ := workflow_step_takes hstep
    constructor
    · rintro ⟨hclose, -⟩ evidenceId hvalidated
      have hfact := WorkflowFact.validated_eq_some_iff.mp hvalidated
      have heffect := (htakes.closeSource_iff evidenceId).mpr hfact
      have hafter := (hclose evidenceId heffect).2
      rw [hlatest, latestAvailable_concat, hfact] at hafter
      exact hafter
    · intro hlast
      have hall := stepwise_concat.mpr ⟨hvalidates, hlast⟩
      rw [hlatest]
      constructor
      · intro evidenceId heffect
        have hfact := (htakes.closeSource_iff evidenceId).mp heffect
        refine ⟨(hfact ▸ htakes).validated.2, ?_⟩
        rw [latestAvailable_concat, hfact]
        exact hlast evidenceId (WorkflowFact.validated_eq_some_iff.mpr hfact)
      · intro hclosed
        exact hknown hall (.inr hclosed)

theorem closes_fetched_closure :
    ∃ state trace, (workflow .default).run (.accepted (.ofNat 1) ⟨0⟩) closure = .ok (state, trace)
      ∧ state.stage = .closed ∧ ClosesFetched trace := by
  have hrun : (workflow .default).run (.accepted (.ofNat 1) ⟨0⟩) closure = .ok (_, _) := rfl
  exact ⟨_, _, hrun, rfl, (closes_fetched_iff .default (.ofNat 1) ⟨0⟩ hrun).mpr (by decide)⟩

/-- The evidence that is validated is not the evidence that was fetched. -/
theorem closes_other_evidence :
    ∃ state trace,
      (workflow .default).run (.accepted (.ofNat 1) ⟨0⟩)
          (submitted ++ [(.runStopped (.evidenceAvailable (.ofNat 8)), ⟨5000⟩),
            (.evidenceValidated (.ofNat 9), ⟨6000⟩), (.sourceCloseConfirmed, ⟨7000⟩)])
          = .ok (state, trace)
        ∧ state.stage = .closed ∧ state.evidenceId = some (.ofNat 9)
        ∧ latestFetched trace = some (.ofNat 8) ∧ ¬ ClosesFetched trace := by
  refine ⟨_, _, rfl, rfl, rfl, rfl, ?_⟩
  intro h
  obtain ⟨evidenceId, hstate, hfetched⟩ := (h [_, _, _, _, _, _] _ [] rfl).2 rfl
  have hother : some (Uuid.ofNat 9) = some (Uuid.ofNat 8) := hstate.trans hfetched.symm
  exact absurd hother (by decide)

/-! ## Approvals -/

/-- The approval an effect requests. -/
def WorkflowEffect.requested : WorkflowEffect → Option ApprovalType
  | .requestApproval approvalType _ => some approvalType
  | _ => .none

/-- The approval a stopped run is reported to need. -/
def WorkflowFact.required : WorkflowFact → Option ApprovalType
  | .runStopped (.approvalRequired approvalType _) => some approvalType
  | _ => .none

/-- The approval that is granted. -/
def WorkflowFact.granted : WorkflowFact → Option ApprovalType
  | .approvalGranted approvalType => some approvalType
  | _ => .none

/-- The type of the last `RequestApproval` effect. -/
def latestRequested : Trace → Option ApprovalType :=
  latest fun e => latest WorkflowEffect.requested e.output

/-- The type of the last `RunStopped(ApprovalRequired)` fact. -/
def latestRequired : Trace → Option ApprovalType := latest fun e => e.input.1.required

/-- Every applied grant is of the type requested last. -/
def GrantsRequested : Trace → Prop := Stepwise fun front e =>
  ∀ approvalType ∈ e.input.1.granted, latestRequested front = some approvalType

/-- Every grant is of the type the run that stopped last needs. -/
def GrantsRequired : Trace → Prop := Stepwise fun front e =>
  ∀ approvalType ∈ e.input.1.granted, latestRequired front = some approvalType

instance (trace : Trace) : Decidable (GrantsRequested trace) := by
  unfold GrantsRequested
  infer_instance

instance (trace : Trace) : Decidable (GrantsRequired trace) := by
  unfold GrantsRequired
  infer_instance

theorem Takes.requested_eq {now : DateTime} {mid : WorkflowState} {fact : WorkflowFact}
    {arm : Arm} (h : Takes reducer now state fact mid arm) :
    latest WorkflowEffect.requested arm.effects = fact.required := by
  cases h with
  | escalate stop => cases stop <;> first | rfl | contradiction
  | _ => rfl

theorem latestRequested_eq_latestRequired
    (hrun : (workflow reducer).run start inputs = .ok (state, trace)) :
    latestRequested trace = latestRequired trace := by
  refine (workflow reducer).run_invariant
    (P := fun _ trace => latestRequested trace = latestRequired trace) ?_ rfl hrun
  intro state trace input state' effects ih hstep
  obtain ⟨mid, arm, htakes, -, rfl⟩ := workflow_step_takes hstep
  simp only [latestRequested, latestRequired, latest_concat, htakes.requested_eq] at ih ⊢
  rw [ih]

/-- The type of a granted approval is the one the workflow had requested, all
    along a run, exactly if it is the one the stopped run needs. -/
theorem grants_requested_iff (reducer : WorkflowReducer) (workItemId : Uuid) (now : DateTime)
    {inputs : List Input} {state : WorkflowState} {trace : Trace}
    (hrun : (workflow reducer).run (.accepted workItemId now) inputs = .ok (state, trace)) :
    GrantsRequested trace ↔ GrantsRequired trace := by
  induction inputs using List.reverseRecOn generalizing state trace with
  | nil =>
    obtain ⟨-, rfl⟩ := Prod.mk.inj (Except.ok.inj hrun)
    simp [GrantsRequested, GrantsRequired]
  | append_singleton inputs input ih =>
    obtain ⟨before, effects, front, hfront, -, rfl⟩ :=
      (workflow reducer).run_concat_eq_ok_iff.mp hrun
    rw [GrantsRequested, GrantsRequired] at ih ⊢
    rw [stepwise_concat, stepwise_concat, ih hfront, latestRequested_eq_latestRequired hfront]

/-- A run that stops for an approval. -/
def approvalAsked : List Input :=
  submitted ++ [(.runStopped (.approvalRequired .guardedMerge "merge"), ⟨5000⟩)]

theorem grants_requested_merge :
    ∃ state trace,
      (workflow .default).run (.accepted (.ofNat 1) ⟨0⟩)
          (approvalAsked ++ [(.approvalGranted .guardedMerge, ⟨6000⟩)]) = .ok (state, trace)
        ∧ state.stage = .waitingSchedule ∧ GrantsRequested trace := by
  have hrun : (workflow .default).run (.accepted (.ofNat 1) ⟨0⟩)
      (approvalAsked ++ [(.approvalGranted .guardedMerge, ⟨6000⟩)]) = .ok (_, _) := rfl
  exact ⟨_, _, hrun, rfl, (grants_requested_iff .default (.ofNat 1) ⟨0⟩ hrun).mpr (by decide)⟩

/-- A guarded merge was asked for and a planner interpretation is granted. -/
theorem grants_other_approval :
    ∃ state trace,
      (workflow .default).run (.accepted (.ofNat 1) ⟨0⟩)
          (approvalAsked ++ [(.approvalGranted .plannerInterpretation, ⟨6000⟩)])
          = .ok (state, trace)
        ∧ state.stage = .waitingSchedule ∧ latestRequested trace = some .guardedMerge
        ∧ ¬ GrantsRequested trace :=
  ⟨_, _, rfl, rfl, rfl, by decide⟩

end Asf.Workflow
