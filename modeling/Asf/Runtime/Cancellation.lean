import Asf.Adapters.EventPages

/-!
# Observations of a cancellation (`src/runtime/cancellation.rs`)

Runmill's answer to a cancellation is compared with a first observation of the run, and
each later observation with the receipt of the one before it.

Results:

* `cancellation_neverRegresses_iff`: which accepted cancellations never go backwards.
-/

namespace Asf.Runtime

open Lib Contracts Adapters
open Instance (primitives)

/-! ## The request and its answer -/

/-- `RunmillCancellationMode` (runmill_control.rs:657-660). -/
inductive RunmillCancellationMode where
  | graceful
  | forced
deriving DecidableEq

def RunmillCancellationMode.text : RunmillCancellationMode → String
  | .graceful => "graceful"
  | .forced => "forced"

/-- `RunmillCancellationRequest` (runmill_control.rs:664-679) with its requester. -/
structure RunmillCancellationRequest where
  (schema requestId runId subject authority reason : String)
  mode : RunmillCancellationMode
  graceSeconds : ℕ

namespace RunmillCancellationRequest

def toValue (request : RunmillCancellationRequest) : Json :=
  .obj [("schema", .str request.schema), ("request_id", .str request.requestId),
    ("run_id", .str request.runId),
    ("requester", .obj [("subject", .str request.subject), ("authority", .str request.authority)]),
    ("reason", .str request.reason), ("mode", .str request.mode.text),
    ("grace_seconds", .num request.graceSeconds 0)]

/-- `validate` (runmill_control.rs:2082-2099). -/
def validate (request : RunmillCancellationRequest) : RunmillControlResult Unit :=
  requestIf
    (request.schema == "asf.cancellation-request/v1" && validIdentifier request.requestId 256 true
      && validIdentifier request.subject 256 true && request.authority == "asf:cancel"
      && !isBlank request.reason && trim request.reason == request.reason
      && decide ((bytes request.reason).length ≤ 2048)
      && (request.mode != .graceful
        || decide (1 ≤ request.graceSeconds ∧ request.graceSeconds ≤ 300))
      && (request.mode != .forced || request.graceSeconds == 0))
    "cancellation request is malformed"

/-- `digest` (runmill_control.rs:2103-2109). -/
def digest (p : Primitives) (request : RunmillCancellationRequest) :
    RunmillControlResult String := do
  request.validate
  (documentDigest p request.toValue).mapError fun _ =>
    .invalidRequest "cancellation request cannot be canonicalized"

end RunmillCancellationRequest

section Observation

variable (prior : CancellationObservationReceipt) (phase : RunmillRunPhase) (p : Primitives)
  (request : RunmillCancellationRequest) (result : RunmillCancellationResult)
  (observed : RunmillRunSnapshot)

/-- `RunmillCancellationDisposition` (runmill_control.rs:683-687). -/
inductive RunmillCancellationDisposition where
  | requested
  | existing
  | alreadyTerminal

/-- `RunmillCancellationResult` (runmill_control.rs:691-699). -/
structure RunmillCancellationResult where
  (requestId runId : String)
  disposition : RunmillCancellationDisposition
  state : RunmillRunPhase
  generation : ℕ
  requestDigest : String

/-- `RunmillRunSnapshot` (runmill_control.rs:482-486). -/
structure RunmillRunSnapshot where
  run : RunmillRunRow
  latestSequence : ℕ

/-! ## The checks -/

/-- `matches!(phase, CancelRequested | Cancelling)`. -/
def isUnderCancellation : Bool :=
  phase == .cancelRequested || phase == .cancelling

/-- `exact_identity` (lines 1977-1986). The digest is computed only if the names
    agree. -/
def exactIdentity : Result Bool :=
  if result.requestId = request.requestId ∧ result.runId = request.runId then do
    let digest ← (request.digest p).mapError fun _ =>
      .externalUnavailable "Runmill cancellation request digest could not be reproduced"
    return result.requestDigest == digest && result.runId == observed.run.runId
      && result.generation == observed.run.generation
  else return false

/-- `result_shape_valid` (lines 1960-1968). -/
def resultShapeValid : Bool :=
  match result.disposition with
  | .requested | .existing => isUnderCancellation result.state
  | .alreadyTerminal => result.state.terminal

/-- `observed_compatible` (lines 1969-1976). -/
def observedCompatible : Bool :=
  result.state == observed.run.state
    || (isUnderCancellation result.state
      && (isUnderCancellation observed.run.state || observed.run.state.terminal))

/-- `validate_result_and_observation` (lines 1955-1994). -/
def validateResultAndObservation : Result Unit := do
  let exact ← exactIdentity p request result observed
  failIf (¬ (resultShapeValid result && observedCompatible result observed && exact))
    (.externalUnavailable "Runmill cancellation result contradicted its follow-up run snapshot")

/-- The members of `CancellationObservationReceipt` (lines 778-796) that are
    compared. -/
structure CancellationObservationReceipt where
  externalPhase : RunmillRunPhase
  (externalGeneration externalStateVersion externalLatestSequence : ℕ)

/-- The receipt of an observation (lines 1772-1840). -/
def RunmillRunSnapshot.receipt : CancellationObservationReceipt :=
  ⟨observed.run.state, observed.run.generation, observed.run.stateVersion, observed.latestSequence⟩

/-- `cancellation_phase_progressed` (lines 2032-2045). -/
def cancellationPhaseProgressed (prior observed : RunmillRunPhase) : Bool :=
  match prior with
  | .cancelRequested => isUnderCancellation observed || observed.terminal
  | .cancelling => observed == .cancelling || observed.terminal
  | _ => false

/-- `cancellation_state_progressed` (lines 2018-2030). -/
def cancellationStateProgressed (priorPhase : RunmillRunPhase) (priorVersion : ℕ)
    (observedPhase : RunmillRunPhase) (observedVersion : ℕ) : Bool :=
  cancellationPhaseProgressed priorPhase observedPhase
    && if observedPhase = priorPhase then decide (observedVersion ≥ priorVersion)
      else decide (observedVersion > priorVersion)

/-- `validate_cancellation_observation_progress` (lines 1996-2016). -/
def validateCancellationObservationProgress : Result Unit :=
  failIf
    (¬ (observed.run.generation = prior.externalGeneration
      ∧ observed.latestSequence ≥ prior.externalLatestSequence
      ∧ cancellationStateProgressed prior.externalPhase prior.externalStateVersion
        observed.run.state observed.run.stateVersion))
    (.externalUnavailable ("Runmill cancellation observation regressed or contradicted its "
      ++ "durable observation chain"))

/-! ## Progress -/

/-- The order of the phases: cancel-requested, cancelling, terminal. -/
def cancellationRank : RunmillRunPhase → ℕ
  | .cancelRequested => 0
  | .cancelling => 1
  | _ => 2

/-- One of the phases that are ordered. -/
def IsCancellationPhase : Prop :=
  isUnderCancellation phase ∨ phase.terminal

end Observation

/-- From the answer on, the phases never go backwards and the generation stays; the
    versions and the sequences of the observations never decrease. -/
structure NeverRegresses (result : RunmillCancellationResult)
    (observations : List RunmillRunSnapshot) : Prop where
  ordered : ∀ phase ∈ result.state :: observations.map (·.run.state), IsCancellationPhase phase
  phases : (result.state :: observations.map (·.run.state)).Pairwise fun prior observed =>
    cancellationRank prior ≤ cancellationRank observed
  generation : ∀ observed ∈ observations, observed.run.generation = result.generation
  versions : (observations.map (·.run.stateVersion)).Pairwise (· ≤ ·)
  sequences : (observations.map (·.latestSequence)).Pairwise (· ≤ ·)

/-- Each observation is accepted after the one before it. -/
def AcceptedInTurn (observations : List RunmillRunSnapshot) : Prop :=
  observations.IsChain fun prior observed =>
    validateCancellationObservationProgress prior.receipt observed = .ok ()

section Progress

variable {p : Primitives} {request : RunmillCancellationRequest}
  {result : RunmillCancellationResult} {prior observed : RunmillRunSnapshot}

theorem cancellationRank_le_of_progressed {prior observed : RunmillRunPhase}
    (h : cancellationPhaseProgressed prior observed) :
    IsCancellationPhase observed ∧ cancellationRank prior ≤ cancellationRank observed := by
  cases prior <;> simp [cancellationPhaseProgressed] at h
  case cancelRequested => exact ⟨h, Nat.zero_le _⟩
  case cancelling =>
    rcases h with rfl | hterminal
    · exact ⟨.inl rfl, le_rfl⟩
    · refine ⟨.inr hterminal, ?_⟩
      cases observed <;> simp_all [RunmillRunPhase.terminal, cancellationRank]

/-- What an observation keeps of the one before it. -/
structure Progressed (prior observed : RunmillRunSnapshot) : Prop where
  ordered : IsCancellationPhase observed.run.state
  phase : cancellationRank prior.run.state ≤ cancellationRank observed.run.state
  generation : observed.run.generation = prior.run.generation
  version : prior.run.stateVersion ≤ observed.run.stateVersion
  sequence : prior.latestSequence ≤ observed.latestSequence

theorem progressed_of_eq_ok
    (h : validateCancellationObservationProgress prior.receipt observed = .ok ()) :
    Progressed prior observed := by
  simp only [validateCancellationObservationProgress, failIf_eq_ok_iff, not_not,
    cancellationStateProgressed, Bool.and_eq_true] at h
  obtain ⟨hgeneration, hsequence, hphase, hversion⟩ := h
  obtain ⟨hordered, hrank⟩ := cancellationRank_le_of_progressed hphase
  refine ⟨hordered, hrank, hgeneration, ?_, hsequence⟩
  split_ifs at hversion
  · exact of_decide_eq_true hversion
  · exact (of_decide_eq_true hversion).le

instance : IsTrans RunmillRunSnapshot Progressed where
  trans _ _ _ h h' :=
    ⟨h'.ordered, h.phase.trans h'.phase, h'.generation.trans h.generation,
      h.version.trans h'.version, h.sequence.trans h'.sequence⟩

theorem AcceptedInTurn.pairwise {observations : List RunmillRunSnapshot}
    (h : AcceptedInTurn observations) : observations.Pairwise Progressed :=
  (h.imp fun _ _ => progressed_of_eq_ok).pairwise

/-- What the first observation has of the answer. -/
theorem validateResultAndObservation_eq_ok
    (h : validateResultAndObservation p request result observed = .ok ()) :
    resultShapeValid result ∧ observedCompatible result observed
      ∧ observed.run.generation = result.generation := by
  simp only [validateResultAndObservation, bind_eq_ok_iff, failIf_eq_ok_iff, not_not,
    Bool.and_eq_true] at h
  obtain ⟨exact, hexact, ⟨hshape, hcompatible⟩, rfl⟩ := h
  refine ⟨hshape, hcompatible, ?_⟩
  unfold exactIdentity at hexact
  split_ifs at hexact
  · obtain ⟨digest, -, hequal⟩ := bind_eq_ok_iff.mp hexact
    simp only [pure_eq_ok_iff, Bool.and_eq_true, beq_iff_eq] at hequal
    exact hequal.2.symm
  · simp [pure, Except.pure] at hexact

/-- The first observation may be one phase behind the answer. -/
theorem cancellationRank_le_iff (hshape : resultShapeValid result)
    (h : observedCompatible result observed) :
    IsCancellationPhase result.state ∧ IsCancellationPhase observed.run.state
      ∧ (cancellationRank result.state ≤ cancellationRank observed.run.state
        ↔ ¬ (result.state = .cancelling ∧ observed.run.state = .cancelRequested)) := by
  have hresult : IsCancellationPhase result.state := by
    unfold resultShapeValid at hshape
    split at hshape
    · exact .inl hshape
    · exact .inl hshape
    · exact .inr hshape
  simp only [observedCompatible, Bool.or_eq_true, beq_iff_eq, Bool.and_eq_true] at h
  rcases h with heq | ⟨hunder, hobserved⟩
  · rw [← heq]
    refine ⟨hresult, hresult, ⟨fun _ hboth => ?_, fun _ => le_rfl⟩⟩
    exact absurd (hboth.1.symm.trans hboth.2) (by decide)
  · refine ⟨hresult, hobserved, ?_⟩
    simp only [isUnderCancellation, Bool.or_eq_true, beq_iff_eq] at hunder
    rcases hunder with hstate | hstate
    · simp [hstate, cancellationRank]
    · rw [hstate]
      cases hphase : observed.run.state <;> simp [cancellationRank]

end Progress

/-- An accepted cancellation never goes backwards, however many observations follow,
    exactly if its first observation is not a cancellation that is only requested after an
    answer that it is under way. -/
theorem cancellation_neverRegresses_iff (p : Primitives) (request : RunmillCancellationRequest)
    (result : RunmillCancellationResult) (first : RunmillRunSnapshot)
    (later : List RunmillRunSnapshot)
    (hfirst : validateResultAndObservation p request result first = .ok ())
    (hlater : AcceptedInTurn (first :: later)) :
    NeverRegresses result (first :: later)
      ↔ ¬ (result.state = .cancelling ∧ first.run.state = .cancelRequested) := by
  obtain ⟨hshape, hcompatible, hgeneration⟩ := validateResultAndObservation_eq_ok hfirst
  obtain ⟨hresult, hobserved, hrank⟩ := cancellationRank_le_iff hshape hcompatible
  have hpairwise := hlater.pairwise
  have hafter := (List.pairwise_cons.mp hpairwise).1
  constructor
  · intro h
    exact hrank.mp (List.rel_of_pairwise_cons h.phases List.mem_cons_self)
  · intro h
    have hle := hrank.mpr h
    refine ⟨?_, List.pairwise_cons.mpr ⟨?_, ?_⟩, ?_, ?_, ?_⟩
    · simp only [List.map_cons, List.forall_mem_cons, List.forall_mem_map]
      exact ⟨hresult, hobserved, fun observed hmem => (hafter observed hmem).ordered⟩
    · simp only [List.map_cons, List.forall_mem_cons, List.forall_mem_map]
      exact ⟨hle, fun observed hmem => hle.trans (hafter observed hmem).phase⟩
    · exact List.pairwise_map.mpr (hpairwise.imp Progressed.phase)
    · refine List.forall_mem_cons.mpr ⟨hgeneration, fun observed hmem => ?_⟩
      exact (hafter observed hmem).generation.trans hgeneration
    · exact List.pairwise_map.mpr (hpairwise.imp Progressed.version)
    · exact List.pairwise_map.mpr (hpairwise.imp Progressed.sequence)

/-- A request to cancel the run of the samples. -/
def cancelRequest : RunmillCancellationRequest :=
  { schema := "asf.cancellation-request/v1", requestId := "request", runId := "run"
    subject := "operator", authority := "asf:cancel", reason := "superseded", mode := .forced
    graceSeconds := 0 }

/-- The answer that the cancellation is in the given phase. -/
def cancelAnswer (state : RunmillRunPhase) : RunmillCancellationResult :=
  { requestId := "request", runId := "run", disposition := .existing, state, generation := 1
    requestDigest := sha256Digest primitives
      (bytes (String.ofList cancelRequest.toValue.canonicalText)) }

/-- The run in the given phase. -/
def cancelSnapshot (state : RunmillRunPhase) (version : ℕ) : RunmillRunSnapshot :=
  ⟨{ leasedRun with state, stateVersion := version }, version⟩

theorem cancelAnswer_accepted {state observed : RunmillRunPhase} (version : ℕ)
    (hstate : isUnderCancellation state) (hobserved : isUnderCancellation observed) :
    validateResultAndObservation primitives cancelRequest (cancelAnswer state)
      (cancelSnapshot observed version) = .ok () := by
  have hvalid : cancelRequest.validate = .ok () := by decide
  have hdigest : cancelRequest.digest primitives
      = .ok (cancelAnswer state).requestDigest := by
    rw [RunmillCancellationRequest.digest, hvalid]
    rfl
  have hexact : exactIdentity primitives cancelRequest (cancelAnswer state)
      (cancelSnapshot observed version) = .ok true := by
    rw [exactIdentity, if_pos ⟨rfl, rfl⟩, hdigest]
    simp only [Except.mapError, ok_bind, beq_self_eq_true, Bool.true_and]
    rfl
  rw [validateResultAndObservation, hexact]
  simp only [ok_bind, failIf_eq_ok_iff, not_not, Bool.and_eq_true, and_true]
  exact ⟨hstate, by simp [observedCompatible, cancelAnswer, cancelSnapshot, hstate, hobserved]⟩

theorem cancellation_neverRegresses_sample :
    NeverRegresses (cancelAnswer .cancelRequested)
      [cancelSnapshot .cancelRequested 2, cancelSnapshot .cancelling 3,
        cancelSnapshot .cancelled 4] :=
  (cancellation_neverRegresses_iff primitives cancelRequest _ _ _
    (cancelAnswer_accepted 2 rfl rfl) (by simp [AcceptedInTurn]; decide)).mpr (by decide)

/-- The run was cancelling by the answer, and the accepted observation is behind it. -/
theorem cancellation_regresses :
    validateResultAndObservation primitives cancelRequest (cancelAnswer .cancelling)
        (cancelSnapshot .cancelRequested 2) = .ok ()
      ∧ ¬ NeverRegresses (cancelAnswer .cancelling) [cancelSnapshot .cancelRequested 2] := by
  refine ⟨cancelAnswer_accepted 2 rfl rfl, fun h => ?_⟩
  have hle := List.rel_of_pairwise_cons h.phases List.mem_cons_self
  exact absurd hle (by decide)

end Asf.Runtime
