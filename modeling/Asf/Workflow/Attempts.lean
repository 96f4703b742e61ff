import Asf.Workflow.Reducer

/-!
# Attempts of a workflow

Each grant of the scheduler starts an attempt. A retry and an approval send a
workflow back to the scheduler with the run of the attempt before still in its
state.

Results:

* `run_of_attempt_iff`: no scheduled attempt has a run of an earlier one exactly
  if nothing was rescheduled.
* `attempts_bounded`: the retries and attempts of a run are bounded by the
  configuration and the granted approvals.
-/

namespace Asf.Workflow

variable {reducer : WorkflowReducer} {state : WorkflowState} {now : DateTime} {inputs : List Input}
  {workItemId : Uuid} {trace : Trace}

/-! ## The run of an attempt -/

/-- The stages of an attempt that has no accepted run yet. -/
def WorkflowStage.isScheduling : WorkflowStage → Bool
  | .waitingSchedule | .authorizing | .dispatching => true
  | _ => false

/-- The stages of a run and of what follows it to another attempt. -/
def WorkflowStage.isAfterRun : WorkflowStage → Bool
  | .observingRun | .waitingRetry | .waitingApproval => true
  | _ => false

/-- The facts that send a workflow back to the scheduler. -/
def WorkflowFact.reschedules : WorkflowFact → Bool
  | .retryDue | .approvalGranted _ => true
  | _ => false

/-- An attempt that is being scheduled has no run, neither in a state that is
    reached nor in the state of a cancellation requested there. -/
structure RunOfAttempt (trace : Trace) : Prop where
  scheduling : ∀ e ∈ trace, e.after.stage.isScheduling → e.after.runId = none
  cancelling : ∀ e ∈ trace, e.before.stage.isScheduling → e.input.1 = .cancelRequested →
    e.after.runId = none

open WorkflowStage

section Step

variable {mid : WorkflowState} {fact : WorkflowFact} {arm : Arm}

section

variable (h : Takes reducer now state fact mid arm)

include h

theorem Takes.afterRun_runId (hstate : state.stage.isAfterRun → state.runId.isSome) :
    arm.stage.isAfterRun → mid.runId.isSome := by
  cases h with
  | submit runId h => exact fun _ => rfl
  | retry reason at_ h hcount => exact fun _ => hstate (by rw [h]; rfl)
  | ask approvalType reason h => exact fun _ => hstate (by rw [h]; rfl)
  | escalate stop stage category reason h hstop hstage =>
    rcases hstage with rfl | rfl <;> simp [escalation, isAfterRun]
  | _ => simp [isAfterRun]

theorem Takes.reschedules_effect (hfact : fact.reschedules) :
    arm.stage = .waitingSchedule ∧ mid.runId = state.runId ∧ state.stage.isAfterRun := by
  cases h with
  | retryDue h => exact ⟨rfl, rfl, by rw [h]; rfl⟩
  | approve approvalType h => exact ⟨rfl, rfl, by rw [h]; rfl⟩
  | _ => simp [WorkflowFact.reschedules] at hfact

/-- Without rescheduling, the scheduler is reached from acceptance only. -/
theorem Takes.scheduling_runId (hfact : ¬ fact.reschedules)
    (hstate : state.stage = .accepted ∨ state.stage.isScheduling → state.runId = none) :
    (arm.stage = .accepted ∨ arm.stage.isScheduling → mid.runId = none)
      ∧ (state.stage.isScheduling → fact = .cancelRequested → mid.runId = none) := by
  cases h with
  | schedule h => exact ⟨fun _ => hstate (.inl h), by simp⟩
  | grant h => exact ⟨fun _ => hstate (.inr (by rw [h]; rfl)), by simp⟩
  | store digest h => exact ⟨fun _ => hstate (.inr (by rw [h]; rfl)), by simp⟩
  | submitAmbiguous h => exact ⟨fun _ => hstate (.inr (by rw [h]; rfl)), by simp⟩
  | cancel h => exact ⟨by simp [isScheduling], fun hstage _ => hstate (.inr hstage)⟩
  | escalate stop stage category reason h hstop hstage =>
    rcases hstage with rfl | rfl <;> simp [escalation, isScheduling]
  | retryDue | approve => exact absurd rfl hfact
  | _ => simp [isScheduling]

end

end Step

section

variable (hrun : (workflow reducer).run (.accepted workItemId now) inputs = .ok (state, trace))

include hrun

/-- A rescheduled workflow still has the run of the attempt before. -/
theorem runId_of_reschedules :
    ∀ e ∈ trace, e.input.1.reschedules →
      e.after.stage = .waitingSchedule ∧ e.after.runId.isSome := by
  have htaken := ((workflow reducer).run_taken
    (P := fun state => state.stage.isAfterRun → state.runId.isSome) ?_
    (by simp [WorkflowState.accepted, isAfterRun]) hrun).2
  · intro e he hfact
    obtain ⟨hbefore, hstep⟩ := htaken e he
    obtain ⟨mid, arm, htakes, hafter, -⟩ := workflow_step_takes hstep
    obtain ⟨hstage, hrunId, hafterRun⟩ := htakes.reschedules_effect hfact
    rw [hafter]
    refine ⟨hstage, ?_⟩
    rw [WorkflowReducer.finish, hrunId]
    exact hbefore hafterRun
  · intro state input state' effects hstate hstep
    obtain ⟨mid, arm, htakes, rfl, -⟩ := workflow_step_takes hstep
    exact htakes.afterRun_runId hstate

theorem runOfAttempt_of_not_reschedules
    (hfacts : ∀ e ∈ trace, ¬ e.input.1.reschedules) : RunOfAttempt trace := by
  refine ((workflow reducer).run_invariant (P := fun state trace =>
    (∀ e ∈ trace, ¬ e.input.1.reschedules) →
      (state.stage = .accepted ∨ state.stage.isScheduling → state.runId = none)
        ∧ RunOfAttempt trace) ?_ (fun _ => ⟨fun _ => rfl, by simp, by simp⟩) hrun hfacts).2
  intro state trace input state' effects ih hstep hfacts
  obtain ⟨hstate, hfront⟩ := ih fun e he => hfacts e (List.mem_append_left _ he)
  have hfact : ¬ input.1.reschedules :=
    hfacts ⟨state, input, state', effects⟩ (List.mem_append_right _ (by simp))
  obtain ⟨mid, arm, htakes, rfl, rfl⟩ := workflow_step_takes hstep
  obtain ⟨hnext, hcancel⟩ := htakes.scheduling_runId hfact hstate
  refine ⟨hnext, ⟨?_, ?_⟩⟩
  · intro e he
    rcases List.mem_append.mp he with he | he
    · exact hfront.scheduling e he
    · rw [List.mem_singleton.mp he]
      exact fun hstage => hnext (.inr hstage)
  · intro e he
    rcases List.mem_append.mp he with he | he
    · exact hfront.cancelling e he
    · rw [List.mem_singleton.mp he]
      exact hcancel

end

/-- The attempt that is being scheduled has no run of an earlier attempt, all
    along a run, exactly if no retry came due and no approval was granted. -/
theorem run_of_attempt_iff (reducer : WorkflowReducer) (workItemId : Uuid) (now : DateTime)
    {inputs : List Input} {state : WorkflowState} {trace : Trace}
    (hrun : (workflow reducer).run (.accepted workItemId now) inputs = .ok (state, trace)) :
    RunOfAttempt trace ↔ ∀ e ∈ trace, ¬ e.input.1.reschedules := by
  constructor
  · intro h e he hfact
    obtain ⟨hstage, hrunId⟩ := runId_of_reschedules hrun e he hfact
    rw [h.scheduling e he (by rw [hstage]; rfl)] at hrunId
    exact absurd hrunId (by decide)
  · exact runOfAttempt_of_not_reschedules hrun

/-- A run, a retry and the scheduler again. -/
def retried : List Input :=
  submitted ++ [(.runStopped (.retryableFailure "io"), ⟨5000⟩), (.retryDue, ⟨6000⟩)]

theorem run_of_attempt_submitted :
    ∃ state trace, (workflow .default).run (.accepted (.ofNat 1) ⟨0⟩) submitted = .ok (state, trace)
      ∧ state.stage = .observingRun ∧ RunOfAttempt trace := by
  have hrun : (workflow .default).run (.accepted (.ofNat 1) ⟨0⟩) submitted = .ok (_, _) := rfl
  exact ⟨_, _, hrun, rfl, (run_of_attempt_iff .default (.ofNat 1) ⟨0⟩ hrun).mpr (by decide)⟩

/-- After a retry the scheduler's stage still has the run of the first attempt. -/
theorem retried_keeps_run :
    ∃ state trace, (workflow .default).run (.accepted (.ofNat 1) ⟨0⟩) retried = .ok (state, trace)
      ∧ state.stage = .waitingSchedule ∧ state.runId = some (.ofNat 7)
      ∧ ¬ RunOfAttempt trace := by
  refine ⟨_, _, rfl, rfl, rfl, ?_⟩
  intro h
  have hnone := h.scheduling _ (List.getLast_mem (List.cons_ne_nil _ _)) rfl
  exact absurd hnone (by decide)

/-! ## Counting attempts -/

/-- The effects emitted along a run, oldest first. -/
def emitted (trace : Trace) : List WorkflowEffect := trace.flatMap fun e => e.output

def WorkflowEffect.isScheduleRetry : WorkflowEffect → Bool
  | .scheduleRetry _ _ => true
  | _ => false

open WorkflowEffect (isScheduleRetry)

def WorkflowFact.isGrant : WorkflowFact → Bool
  | .approvalGranted _ => true
  | _ => false

/-- The stages on the way to an attempt that is not counted yet. -/
def WorkflowStage.pending : WorkflowStage → ℕ
  | .accepted | .waitingSchedule | .waitingRetry => 1
  | _ => 0

/-- The number of retries scheduled. -/
def retryEffects (trace : Trace) : ℕ := (emitted trace).countP isScheduleRetry

/-- The number of attempts asked for. -/
def attemptEffects (trace : Trace) : ℕ := (emitted trace).count .reserveAndCreateAttempt

/-- The number of granted approvals. -/
def grants (trace : Trace) : ℕ := trace.countP fun e => e.input.1.isGrant

/-- How one fact counts. -/
theorem Takes.counts {mid : WorkflowState} {fact : WorkflowFact} {arm : Arm}
    (h : Takes reducer now state fact mid arm) :
    mid.retryCount = state.retryCount + arm.effects.countP isScheduleRetry
      ∧ (state.retryCount ≤ reducer.maxRetries → mid.retryCount ≤ reducer.maxRetries)
      ∧ mid.attemptNumber = state.attemptNumber + arm.effects.count .reserveAndCreateAttempt
      ∧ mid.attemptNumber + arm.stage.pending + state.retryCount
        ≤ state.attemptNumber + state.stage.pending + mid.retryCount
          + (if fact.isGrant then 1 else 0) := by
  cases h with
  | escalate stop stage category reason h hstop hstage =>
    rcases hstage with rfl | rfl <;>
      simp [escalation, isScheduleRetry, pending, h]
  | cancel h =>
    simp [isScheduleRetry, pending, WorkflowFact.isGrant]
  | retry reason at_ h hcount =>
    simp [isScheduleRetry, pending, WorkflowFact.isGrant, h]
    omega
  | _ =>
    rename_i h
    simp [isScheduleRetry, pending, WorkflowFact.isGrant, h] <;> omega

/-- Retries and attempts along a run. -/
theorem attempts_bounded (reducer : WorkflowReducer) (workItemId : Uuid) (now : DateTime)
    {inputs : List Input} {state : WorkflowState} {trace : Trace}
    (hrun : (workflow reducer).run (.accepted workItemId now) inputs = .ok (state, trace)) :
    (retryEffects trace = state.retryCount ∧ state.retryCount ≤ reducer.maxRetries)
      ∧ state.attemptNumber = attemptEffects trace
      ∧ state.attemptNumber ≤ 1 + state.retryCount + grants trace := by
  have hinvariant := (workflow reducer).run_invariant (P := fun state trace =>
    retryEffects trace = state.retryCount ∧ state.retryCount ≤ reducer.maxRetries
      ∧ state.attemptNumber = attemptEffects trace
      ∧ state.attemptNumber + state.stage.pending ≤ 1 + state.retryCount + grants trace)
    ?_ ⟨rfl, Nat.zero_le _, rfl, by simp [WorkflowState.accepted, pending]⟩ hrun
  · obtain ⟨hretries, hmax, hattempts, hbound⟩ := hinvariant
    exact ⟨⟨hretries, hmax⟩, hattempts, by omega⟩
  · rintro state trace input state' effects ⟨hretries, hmax, hattempts, hbound⟩ hstep
    obtain ⟨mid, arm, htakes, rfl, rfl⟩ := workflow_step_takes hstep
    obtain ⟨hretry, hle, hattempt, hpending⟩ := htakes.counts
    simp only [WorkflowState.bumped] at hretry hle hattempt hpending
    simp only [retryEffects, attemptEffects, grants, emitted, List.flatMap_append,
      List.flatMap_singleton, List.countP_append, List.count_append, List.countP_singleton,
      WorkflowReducer.finish] at hretries hattempts hbound ⊢
    refine ⟨by omega, hle hmax, by omega, by omega⟩

theorem attempts_bounded_retried :
    ∃ state trace, (workflow .default).run (.accepted (.ofNat 1) ⟨0⟩)
        (retried ++ [(.scheduleGranted, ⟨7000⟩)]) = .ok (state, trace)
      ∧ state.retryCount = 1 ∧ state.attemptNumber = 2
      ∧ (retryEffects trace = state.retryCount
        ∧ state.retryCount ≤ WorkflowReducer.default.maxRetries)
      ∧ state.attemptNumber = attemptEffects trace
      ∧ state.attemptNumber ≤ 1 + state.retryCount + grants trace := by
  have hrun : (workflow .default).run (.accepted (.ofNat 1) ⟨0⟩)
      (retried ++ [(.scheduleGranted, ⟨7000⟩)]) = .ok (_, _) := rfl
  exact ⟨_, _, hrun, rfl, rfl, attempts_bounded .default (.ofNat 1) ⟨0⟩ hrun⟩

end Asf.Workflow
