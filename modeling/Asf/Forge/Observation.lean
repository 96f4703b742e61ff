import Mathlib.Data.List.AList
import Asf.Evidence.Verify

/-!
# The forge port (`src/ports/forge.rs`)

What is asked of the forge about a pull request, what it answers, and the evidence
that is made of an answer if every required CI context is current on the exact
candidate.

`exactCandidateEvidence_lookup`: evidence is made only if every required context is
successful on the candidate, which is the head.
-/

namespace Asf.Forge

/-! ## Requests and answers -/

section Urls

variable (parseUrl : String → Except String Authority.Url) (value : String)
  (observation : PullRequestObservation) (request : ObservePullRequestRequest)
  (state : RemoteCiState)

/-- `PullRequestRef` (lines 105-111). -/
structure PullRequestRef where
  repository : String
  number : ℕ
deriving DecidableEq

/-- `ObservePullRequestRequest` (lines 136-144). -/
structure ObservePullRequestRequest where
  schema : String
  pullRequest : PullRequestRef
  (expectedBaseSha expectedCandidateSha : String)
  requiredCiContexts : Finset String

/-- `PullRequestState` (lines 189-195). -/
inductive PullRequestState
  | opened
  | closed
  | merged
deriving DecidableEq

/-- `PullRequestState::usable_for_pr_closure` (lines 198-201). -/
def PullRequestState.usableForPrClosure (state : PullRequestState) : Bool :=
  state == .opened || state == .merged

/-- `RemoteCiState` (lines 204-214). -/
inductive RemoteCiState
  | queued
  | inProgress
  | success
  | failure
  | cancelled
  | skipped
  | neutral
deriving DecidableEq

/-- `RemoteCiState::is_pending` (lines 217-220). -/
def RemoteCiState.isPending : Bool :=
  state == .queued || state == .inProgress

/-- `RemoteCiState::is_success` (lines 222-225). -/
def RemoteCiState.isSuccess : Bool := state == .success

/-- `RemoteCiObservation` (lines 228-236). -/
structure RemoteCiObservation where
  candidateSha : String
  state : RemoteCiState
deriving DecidableEq

/-- `BTreeMap<String, RemoteCiObservation>`. -/
abbrev CiMap : Type := AList fun _ : String => RemoteCiObservation

/-- `PullRequestObservation` (lines 238-251). -/
structure PullRequestObservation where
  schema : String
  pullRequest : PullRequestRef
  url : String
  state : PullRequestState
  (baseSha headSha : String)
  mergeSha : Option String
  ci : CiMap
  providerRevision : String
  observedAt : DateTime

/-- `ExactCandidateAssessment` (lines 358-368). -/
structure ExactCandidateAssessment where
  (pullRequestUsable baseMatches headMatches : Bool)
  (missingContexts staleContexts pendingContexts unsuccessfulContexts : Finset String)
deriving DecidableEq

/-- `ForgeGatewayError` (lines 383-420), as far as the functions below return it. -/
inductive ForgeGatewayError
  | invalidRequest (detail : String)
  | invalidObservation (detail : String)
  | exactCandidateNotSatisfied (assessment : ExactCandidateAssessment)

/-- `ForgeResult` (line 422). -/
abbrev ForgeResult (α : Type) : Type := Except ForgeGatewayError α

/-- A check that returns an error. -/
def refuseIf (refused : Bool) (error : ForgeGatewayError) : ForgeResult Unit :=
  if refused then .error error else .ok ()

theorem refuseIf_eq_ok_iff {refused : Bool} {error : ForgeGatewayError} :
    refuseIf refused error = .ok () ↔ refused = false := by
  cases refused <;> simp [refuseIf]

/-! ## Validation -/

/-- `valid_revision` (lines 442-444). -/
def validRevision : Bool :=
  !isBlank value && !value.toList.any isWhitespace

/-- `safe_http_url` (lines 512-519). -/
def safeHttpUrl : Bool :=
  match parseUrl value with
  | .error _ => false
  | .ok url =>
    (url.scheme == "http" || url.scheme == "https") && url.hostStr.isSome
      && url.username == "" && url.password.isNone

/-- `PullRequestRef::validate` (lines 114-134). -/
def PullRequestRef.validate (reference : PullRequestRef) : ForgeResult Unit :=
  let segments := splitSlash reference.repository
  let owner := segments.getD 0 ""
  let name := segments.getD 1 ""
  refuseIf (isBlank owner || isBlank name || owner ≠ trim owner || name ≠ trim name
      || owner.toList.any isWhitespace || name.toList.any isWhitespace
      || (segments[2]?).isSome || reference.number = 0)
    (.invalidRequest "pull-request reference requires an owner/name repository and non-zero number")

/-- `ObservePullRequestRequest::validate` (lines 163-187). -/
def ObservePullRequestRequest.validate : ForgeResult Unit := do
  refuseIf (request.schema ≠ "asf.observe-pull-request.v1")
    (.invalidRequest "unsupported pull-request observation schema")
  request.pullRequest.validate
  refuseIf (!validRevision request.expectedBaseSha || !validRevision request.expectedCandidateSha)
    (.invalidRequest "exact base and candidate revisions are required")
  refuseIf (∃ context ∈ request.requiredCiContexts, isBlank context)
    (.invalidRequest "required CI context names cannot be empty")

/-- `PullRequestObservation::validate` (lines 254-283). -/
def PullRequestObservation.validate : ForgeResult Unit := do
  refuseIf (observation.schema ≠ "asf.pull-request-observation.v1")
    (.invalidObservation "unsupported pull-request observation schema")
  observation.pullRequest.validate
  refuseIf (!safeHttpUrl parseUrl observation.url || !validRevision observation.baseSha
      || !validRevision observation.headSha
      || observation.mergeSha.any (fun revision => !validRevision revision)
      || isBlank observation.providerRevision
      || observation.ci.entries.any fun entry =>
        isBlank entry.1 || !validRevision entry.2.candidateSha)
    (.invalidObservation "pull-request observation is incomplete or unsafe")
  refuseIf ((observation.state == .merged) != observation.mergeSha.isSome)
    (.invalidObservation "merged state and merge revision must agree")

/-! ## The assessment -/

/-- The set a required context is put into (lines 301-320); none for a context
    that is current and successful. -/
inductive Shortfall
  | missing
  | stale
  | pending
  | unsuccessful
deriving DecidableEq

/-- The arms of the match on `self.ci.get(context)` (lines 301-320). -/
def shortfall (ci : CiMap) (expectedCandidateSha context : String) : Option Shortfall :=
  match ci.lookup context with
  | none => some .missing
  | some observation =>
    if observation.candidateSha ≠ expectedCandidateSha then some .stale
    else if observation.state.isPending then some .pending
    else if !observation.state.isSuccess then some .unsuccessful
    else none

/-- `PullRequestObservation::assess_exact_candidate` (lines 285-331). -/
def PullRequestObservation.assessExactCandidate : ForgeResult ExactCandidateAssessment := do
  observation.validate parseUrl
  request.validate
  refuseIf (observation.pullRequest ≠ request.pullRequest)
    (.invalidObservation "provider returned a different pull request than requested")
  let contexts (kind : Shortfall) := request.requiredCiContexts.filter fun context =>
    shortfall observation.ci request.expectedCandidateSha context = some kind
  .ok
    { pullRequestUsable := observation.state.usableForPrClosure
      baseMatches := observation.baseSha == request.expectedBaseSha
      headMatches := observation.headSha == request.expectedCandidateSha
      missingContexts := contexts .missing
      staleContexts := contexts .stale
      pendingContexts := contexts .pending
      unsuccessfulContexts := contexts .unsuccessful }

/-- `ExactCandidateAssessment::satisfied` (lines 372-380). -/
def ExactCandidateAssessment.satisfied (assessment : ExactCandidateAssessment) : Bool :=
  assessment.pullRequestUsable && assessment.baseMatches && assessment.headMatches
    && assessment.missingContexts = ∅ && assessment.staleContexts = ∅
    && assessment.pendingContexts = ∅ && assessment.unsuccessfulContexts = ∅

/-- `PullRequestObservation::exact_candidate_evidence` (lines 336-355). -/
def PullRequestObservation.exactCandidateEvidence : ForgeResult Evidence.PullRequestEvidence := do
  let assessment ← observation.assessExactCandidate parseUrl request
  refuseIf (!assessment.satisfied) (.exactCandidateNotSatisfied assessment)
  .ok
    { repository := observation.pullRequest.repository
      number := observation.pullRequest.number
      url := observation.url
      baseSha := observation.baseSha
      headSha := observation.headSha
      requiredCiContexts := request.requiredCiContexts
      successfulCiContexts := request.requiredCiContexts }

end Urls

/-! ## When evidence is made -/

/-- A context is current on the candidate exactly if its observation ran there and
    succeeded. -/
theorem shortfall_eq_none_iff {ci : CiMap} {candidate context : String} :
    shortfall ci candidate context = none ↔ ci.lookup context = some ⟨candidate, .success⟩ := by
  unfold shortfall
  cases ci.lookup context with
  | none => simp
  | some observation =>
    obtain ⟨sha, state⟩ := observation
    by_cases hsha : sha = candidate
    · cases state <;> simp [hsha, RemoteCiState.isPending, RemoteCiState.isSuccess]
    · simp [hsha]

/-- An evidence that was made has every required context successful on the
    candidate, which is the head. -/
theorem exactCandidateEvidence_lookup {parseUrl : String → Except String Authority.Url}
    {observation : PullRequestObservation} {request : ObservePullRequestRequest}
    {evidence : Evidence.PullRequestEvidence}
    (h : observation.exactCandidateEvidence parseUrl request = .ok evidence) :
    observation.headSha = request.expectedCandidateSha
      ∧ ∀ context ∈ request.requiredCiContexts,
        observation.ci.lookup context = some ⟨request.expectedCandidateSha, .success⟩ := by
  obtain ⟨assessment, hassessment, hevidence⟩ := bind_eq_ok_iff.mp h
  obtain ⟨⟨⟩, hsatisfied, -⟩ := bind_eq_ok_iff.mp hevidence
  obtain ⟨_, -, hassessment⟩ := bind_eq_ok_iff.mp hassessment
  obtain ⟨_, -, hassessment⟩ := bind_eq_ok_iff.mp hassessment
  obtain ⟨_, -, hassessment⟩ := bind_eq_ok_iff.mp hassessment
  cases hassessment
  simp only [refuseIf_eq_ok_iff, ExactCandidateAssessment.satisfied, Bool.not_eq_eq_eq_not,
    Bool.not_false, Bool.and_eq_true, beq_iff_eq, decide_eq_true_eq,
    Finset.filter_eq_empty_iff] at hsatisfied
  obtain ⟨⟨⟨⟨⟨⟨-, -⟩, hhead⟩, hmissing⟩, hstale⟩, hpending⟩, hunsuccessful⟩ := hsatisfied
  refine ⟨hhead, fun context hcontext => shortfall_eq_none_iff.mp ?_⟩
  cases hshort : shortfall observation.ci request.expectedCandidateSha context with
  | none => rfl
  | some kind =>
    cases kind with
    | missing => exact absurd hshort (hmissing hcontext)
    | stale => exact absurd hshort (hstale hcontext)
    | pending => exact absurd hshort (hpending hcontext)
    | unsuccessful => exact absurd hshort (hunsuccessful hcontext)

end Asf.Forge
