import Asf.Evidence.Grammar

/-!
# Signed Runmill evidence (`src/contracts/runmill_evidence.rs`)

The records of a bundle and the values serde writes for them.

Results:

* `plain_obj`, `plain_arr`: the filter of sensitive fields looks at each part of a
  document on its own.
-/

namespace Asf.Evidence

open Lib Contracts
open RunmillWorkOrderV1 (texts)

variable {fields : List (String × Json)} (p : Primitives) {α : Type}

/-! ## The run, its order and its policy -/

/-- `RunmillEvidenceRun` (lines 93-100). -/
structure RunmillEvidenceRun where
  runId : String
  (attemptId workOrderId : Uuid)
  completedAt : RunmillEvidenceTimestamp
deriving DecidableEq

/-- `RunmillEvidenceAlgorithm` (lines 492-495). -/
inductive RunmillEvidenceAlgorithm where
  | edDSA
deriving DecidableEq

/-- `RunmillVerifiedWorkOrderSignature` (lines 102-108). -/
structure RunmillVerifiedWorkOrderSignature where
  keyId : String
  algorithm : RunmillEvidenceAlgorithm
  verified : Bool
deriving DecidableEq

/-- `RunmillEvidenceWorkOrder` (lines 110-117). -/
structure RunmillEvidenceWorkOrder where
  (envelopeDigest payloadDigest envelopeArtifactDigest : String)
  signature : RunmillVerifiedWorkOrderSignature
deriving DecidableEq

/-- `RunmillPolicyInputs` (lines 119-126). -/
structure RunmillPolicyInputs where
  (operatorPolicyDigest workOrderPolicyDigest repositoryPolicyDigest forgePolicyDigest : String)
deriving DecidableEq

/-- `RunmillEffectivePolicyEvidence` (lines 128-138). -/
structure RunmillEffectivePolicyEvidence where
  (effectivePolicyDigest effectivePolicyArtifactDigest : String)
  inputs : RunmillPolicyInputs
  (requiredLocalChecks requiredCiContexts : List String)
  (requireLocalReview requirePullRequestReview : Bool)
deriving DecidableEq

/-- `RunmillSourceEvidence` (lines 140-154). -/
structure RunmillSourceEvidence where
  (forge repository baseRef baseSha candidateSha remoteHeadSha : String)
  mergeSha : Option String
  (treeDigest normalizedDiffDigest normalizedDiffArtifactDigest : String)
  changedPaths : List String
deriving DecidableEq

/-! ## Providers, outcomes, checks and reviews -/

/-- `RunmillProviderRole` (lines 156-164). -/
inductive RunmillProviderRole where
  | implementer
  | localReviewer
  | pullRequestReviewer
deriving DecidableEq

/-- `RunmillProviderAttribution` (lines 166-174). -/
structure RunmillProviderAttribution where
  role : RunmillProviderRole
  (provider model principalId leaseId : String)
deriving DecidableEq

/-- `RunmillRuntimeEvidence` (lines 176-186). -/
structure RunmillRuntimeEvidence where
  (harnessDigest toolPolicyDigest sandboxProfileDigest dependencyDigest runtimeDigest : String)
  runtimeManifestDigest : String
  providers : List RunmillProviderAttribution
deriving DecidableEq

/-- `RunmillRoleOutcomeConclusion` (lines 188-194). -/
inductive RunmillRoleOutcomeConclusion where
  | completed
  | passed
  | stopped
deriving DecidableEq

/-- `RunmillRoleOutcome` (lines 196-203). -/
structure RunmillRoleOutcome where
  role : RunmillProviderRole
  outcome : RunmillRoleOutcomeConclusion
  (candidateSha evidenceDigest : String)
deriving DecidableEq

/-- `RunmillLocalCheckConclusion` (lines 205-211). -/
inductive RunmillLocalCheckConclusion where
  | success
  | failure
  | error
deriving DecidableEq

/-- `RunmillCheckCoverage` (lines 213-219). -/
inductive RunmillCheckCoverage where
  | complete
  | partly
  | unknown
deriving DecidableEq

/-- `RunmillLocalCheckEvidence` (lines 221-236). -/
structure RunmillLocalCheckEvidence where
  (checkId candidateSha treeDigest commandDigest executorId toolchainDigest : String)
  sandboxProfileDigest : String
  (startedAt completedAt : RunmillEvidenceTimestamp)
  conclusion : RunmillLocalCheckConclusion
  coverage : RunmillCheckCoverage
  evidenceDigest : String
deriving DecidableEq

/-- `RunmillCiConclusion` (lines 238-248). -/
inductive RunmillCiConclusion where
  | success
  | failure
  | pending
  | cancelled
  | skipped
  | neutral
  | unknown
deriving DecidableEq

/-- `RunmillCiContextEvidence` (lines 250-258). -/
structure RunmillCiContextEvidence where
  (context candidateSha : String)
  conclusion : RunmillCiConclusion
  observedAt : RunmillEvidenceTimestamp
  evidenceDigest : String
deriving DecidableEq

/-- `RunmillVerificationEvidence` (lines 260-265). -/
structure RunmillVerificationEvidence where
  localChecks : List RunmillLocalCheckEvidence
  ciContexts : List RunmillCiContextEvidence
deriving DecidableEq

/-- `RunmillReviewStage` (lines 267-273). -/
inductive RunmillReviewStage where
  | localStage
  | pullRequest
deriving DecidableEq

/-- `RunmillReviewVerdict` (lines 275-281). -/
inductive RunmillReviewVerdict where
  | pass
  | fail
  | unknown
deriving DecidableEq

/-- `RunmillReviewEvidence` (lines 283-296). -/
structure RunmillReviewEvidence where
  reviewId : String
  stage : RunmillReviewStage
  (reviewerPrincipal reviewerProfile : String)
  independent : Bool
  (candidateSha policyDigest : String)
  verdict : RunmillReviewVerdict
  (findingsDigest evidenceDigest : String)
deriving DecidableEq

/-! ## Effects, approvals, budget and delivery -/

/-- `RunmillSideEffectKind` (lines 298-312). -/
inductive RunmillSideEffectKind where
  | branchPush
  | pullRequestCreate
  | pullRequestUpdate
  | pullRequestObserve
  | ciObserve
  | reviewObserve
deriving DecidableEq

/-- `RunmillConfirmedStatus` (lines 314-318). -/
inductive RunmillConfirmedStatus where
  | confirmed
deriving DecidableEq

/-- `RunmillSideEffectEvidence` (lines 320-332). -/
structure RunmillSideEffectEvidence where
  effectKey : String
  kind : RunmillSideEffectKind
  (candidateSha intentDigest observationDigest : String)
  reconciliationDigest : Option String
  confirmationDigest : String
  status : RunmillConfirmedStatus
  evidenceDigest : String
deriving DecidableEq

/-- `RunmillApprovalEvidence` (lines 334-349). -/
structure RunmillApprovalEvidence where
  (approvalId decisionType requestedEffect approverSubject authorityDigest : String)
  (workOrderDigest candidateSha policyDigest : String)
  (issuedAt expiresAt : RunmillEvidenceTimestamp)
  (signatureDigest evidenceDigest : String)
deriving DecidableEq

/-- `RunmillCancellationEvidence` (lines 351-358). -/
structure RunmillCancellationEvidence where
  (requesterSubject reasonCode : String)
  requestedAt : RunmillEvidenceTimestamp
  evidenceDigest : String
deriving DecidableEq

/-- `RunmillStopReason` (lines 370-374). -/
inductive RunmillStopReason where
  | pullRequestDelivered
deriving DecidableEq

/-- `RunmillBudgetEvidence` (lines 360-368). -/
structure RunmillBudgetEvidence where
  costUsd : F64
  (agentInvocations fixIterations elapsedMs : ℕ)
  stopReason : RunmillStopReason
deriving DecidableEq

/-- `RunmillPullRequestDeliveryEvidence` (lines 376-388). -/
structure RunmillPullRequestDeliveryEvidence where
  (forge repository : String)
  number : ℕ
  (url headRef baseRef headSha : String)
  observedAt : RunmillEvidenceTimestamp
  evidenceDigest : String
deriving DecidableEq

/-- `RunmillClosureTarget` (lines 390-394). -/
inductive RunmillClosureTarget where
  | pr
deriving DecidableEq

/-- `RunmillDeliveryEvidence` (lines 396-402). -/
structure RunmillDeliveryEvidence where
  closureTarget : RunmillClosureTarget
  satisfied : Bool
  pullRequest : RunmillPullRequestDeliveryEvidence
deriving DecidableEq

/-! ## Artifacts and the bundle -/

/-- `RunmillArtifactKind` (lines 404-426). -/
inductive RunmillArtifactKind where
  | workOrderEnvelope
  | effectivePolicy
  | normalizedDiff
  | agentOutcome
  | verification
  | ciObservation
  | review
  | sideEffect
  | approval
  | runtimeManifest
deriving DecidableEq

/-- `RunmillRetentionClass` (lines 428-434). -/
inductive RunmillRetentionClass where
  | portable
  | protectedClass
  | restricted
deriving DecidableEq

/-- `RunmillEvidenceArtifact` (lines 436-446). -/
structure RunmillEvidenceArtifact where
  artifactId : String
  kind : RunmillArtifactKind
  sizeBytes : ℕ
  (mediaType digest : String)
  retentionClass : RunmillRetentionClass
  locationRef : String
deriving DecidableEq

/-- `RunmillEvidencePredicate` (lines 448-466). -/
structure RunmillEvidencePredicate where
  schema : String
  run : RunmillEvidenceRun
  workOrder : RunmillEvidenceWorkOrder
  policy : RunmillEffectivePolicyEvidence
  source : RunmillSourceEvidence
  runtime : RunmillRuntimeEvidence
  roleOutcomes : List RunmillRoleOutcome
  verification : RunmillVerificationEvidence
  reviews : List RunmillReviewEvidence
  sideEffects : List RunmillSideEffectEvidence
  approvals : List RunmillApprovalEvidence
  cancellation : Option RunmillCancellationEvidence
  budget : RunmillBudgetEvidence
  delivery : RunmillDeliveryEvidence
  artifacts : List RunmillEvidenceArtifact
deriving DecidableEq

/-- `RunmillSubjectDigest` (lines 468-472). -/
structure RunmillSubjectDigest where
  sha1 : String
deriving DecidableEq

/-- `RunmillEvidenceSubject` (lines 474-479). -/
structure RunmillEvidenceSubject where
  name : String
  digest : RunmillSubjectDigest
deriving DecidableEq

/-- `RunmillEvidenceStatement` (lines 481-490). -/
structure RunmillEvidenceStatement where
  statementType : String
  subject : List RunmillEvidenceSubject
  predicateType : String
  predicate : RunmillEvidencePredicate
deriving DecidableEq

/-- `SignedRunmillEvidenceBundle` (lines 497-507). -/
structure SignedRunmillEvidenceBundle where
  (schema keyId : String)
  algorithm : RunmillEvidenceAlgorithm
  issuedAt : RunmillEvidenceTimestamp
  bundleDigest : String
  statement : RunmillEvidenceStatement
  signature : String
deriving DecidableEq

/-! ## What serde writes -/

def RunmillEvidenceAlgorithm.text : RunmillEvidenceAlgorithm → String
  | .edDSA => "EdDSA"

def RunmillProviderRole.text : RunmillProviderRole → String
  | .implementer => "implementer"
  | .localReviewer => "local-reviewer"
  | .pullRequestReviewer => "pull-request-reviewer"

def RunmillRoleOutcomeConclusion.text : RunmillRoleOutcomeConclusion → String
  | .completed => "completed"
  | .passed => "passed"
  | .stopped => "stopped"

def RunmillLocalCheckConclusion.text : RunmillLocalCheckConclusion → String
  | .success => "success"
  | .failure => "failure"
  | .error => "error"

def RunmillCheckCoverage.text : RunmillCheckCoverage → String
  | .complete => "complete"
  | .partly => "partial"
  | .unknown => "unknown"

def RunmillCiConclusion.text : RunmillCiConclusion → String
  | .success => "success"
  | .failure => "failure"
  | .pending => "pending"
  | .cancelled => "cancelled"
  | .skipped => "skipped"
  | .neutral => "neutral"
  | .unknown => "unknown"

def RunmillReviewStage.text : RunmillReviewStage → String
  | .localStage => "local"
  | .pullRequest => "pull-request"

def RunmillReviewVerdict.text : RunmillReviewVerdict → String
  | .pass => "pass"
  | .fail => "fail"
  | .unknown => "unknown"

def RunmillSideEffectKind.text : RunmillSideEffectKind → String
  | .branchPush => "branch.push"
  | .pullRequestCreate => "pull-request.create"
  | .pullRequestUpdate => "pull-request.update"
  | .pullRequestObserve => "pull-request.observe"
  | .ciObserve => "ci.observe"
  | .reviewObserve => "review.observe"

def RunmillConfirmedStatus.text : RunmillConfirmedStatus → String
  | .confirmed => "confirmed"

def RunmillStopReason.text : RunmillStopReason → String
  | .pullRequestDelivered => "pr-delivered"

def RunmillClosureTarget.text : RunmillClosureTarget → String
  | .pr => "pr"

def RunmillArtifactKind.text : RunmillArtifactKind → String
  | .workOrderEnvelope => "work-order-envelope"
  | .effectivePolicy => "effective-policy"
  | .normalizedDiff => "normalized-diff"
  | .agentOutcome => "agent-outcome"
  | .verification => "verification"
  | .ciObservation => "ci-observation"
  | .review => "review"
  | .sideEffect => "side-effect"
  | .approval => "approval"
  | .runtimeManifest => "runtime-manifest"

def RunmillRetentionClass.text : RunmillRetentionClass → String
  | .portable => "portable"
  | .protectedClass => "protected"
  | .restricted => "restricted"

/-- An `Option<String>`. -/
def optionalText (value : Option String) : Json := value.elim .null .str

def RunmillEvidenceRun.toValue (run : RunmillEvidenceRun) : Json :=
  .obj [("run_id", .str run.runId), ("attempt_id", .str run.attemptId.toText),
    ("work_order_id", .str run.workOrderId.toText), ("completed_at", .str run.completedAt.text)]

def RunmillEvidenceWorkOrder.toValue (order : RunmillEvidenceWorkOrder) : Json :=
  .obj [("envelope_digest", .str order.envelopeDigest),
    ("payload_digest", .str order.payloadDigest),
    ("envelope_artifact_digest", .str order.envelopeArtifactDigest),
    ("signature", .obj [("key_id", .str order.signature.keyId),
      ("algorithm", .str order.signature.algorithm.text),
      ("verified", .bool order.signature.verified)])]

def RunmillEffectivePolicyEvidence.toValue (policy : RunmillEffectivePolicyEvidence) : Json :=
  .obj [("effective_policy_digest", .str policy.effectivePolicyDigest),
    ("effective_policy_artifact_digest", .str policy.effectivePolicyArtifactDigest),
    ("inputs", .obj [("operator_policy_digest", .str policy.inputs.operatorPolicyDigest),
      ("work_order_policy_digest", .str policy.inputs.workOrderPolicyDigest),
      ("repository_policy_digest", .str policy.inputs.repositoryPolicyDigest),
      ("forge_policy_digest", .str policy.inputs.forgePolicyDigest)]),
    ("required_local_checks", texts policy.requiredLocalChecks),
    ("required_ci_contexts", texts policy.requiredCiContexts),
    ("require_local_review", .bool policy.requireLocalReview),
    ("require_pull_request_review", .bool policy.requirePullRequestReview)]

def RunmillSourceEvidence.toValue (source : RunmillSourceEvidence) : Json :=
  .obj [("forge", .str source.forge), ("repository", .str source.repository),
    ("base_ref", .str source.baseRef), ("base_sha", .str source.baseSha),
    ("candidate_sha", .str source.candidateSha), ("remote_head_sha", .str source.remoteHeadSha),
    ("merge_sha", optionalText source.mergeSha), ("tree_digest", .str source.treeDigest),
    ("normalized_diff_digest", .str source.normalizedDiffDigest),
    ("normalized_diff_artifact_digest", .str source.normalizedDiffArtifactDigest),
    ("changed_paths", texts source.changedPaths)]

def RunmillProviderAttribution.toValue (provider : RunmillProviderAttribution) : Json :=
  .obj [("role", .str provider.role.text), ("provider", .str provider.provider),
    ("model", .str provider.model), ("principal_id", .str provider.principalId),
    ("lease_id", .str provider.leaseId)]

def RunmillRuntimeEvidence.toValue (runtime : RunmillRuntimeEvidence) : Json :=
  .obj [("harness_digest", .str runtime.harnessDigest),
    ("tool_policy_digest", .str runtime.toolPolicyDigest),
    ("sandbox_profile_digest", .str runtime.sandboxProfileDigest),
    ("dependency_digest", .str runtime.dependencyDigest),
    ("runtime_digest", .str runtime.runtimeDigest),
    ("runtime_manifest_digest", .str runtime.runtimeManifestDigest),
    ("providers", .arr (runtime.providers.map RunmillProviderAttribution.toValue))]

def RunmillRoleOutcome.toValue (outcome : RunmillRoleOutcome) : Json :=
  .obj [("role", .str outcome.role.text), ("outcome", .str outcome.outcome.text),
    ("candidate_sha", .str outcome.candidateSha), ("evidence_digest", .str outcome.evidenceDigest)]

def RunmillLocalCheckEvidence.toValue (check : RunmillLocalCheckEvidence) : Json :=
  .obj [("check_id", .str check.checkId), ("candidate_sha", .str check.candidateSha),
    ("tree_digest", .str check.treeDigest), ("command_digest", .str check.commandDigest),
    ("executor_id", .str check.executorId), ("toolchain_digest", .str check.toolchainDigest),
    ("sandbox_profile_digest", .str check.sandboxProfileDigest),
    ("started_at", .str check.startedAt.text), ("completed_at", .str check.completedAt.text),
    ("conclusion", .str check.conclusion.text), ("coverage", .str check.coverage.text),
    ("evidence_digest", .str check.evidenceDigest)]

def RunmillCiContextEvidence.toValue (context : RunmillCiContextEvidence) : Json :=
  .obj [("context", .str context.context), ("candidate_sha", .str context.candidateSha),
    ("conclusion", .str context.conclusion.text), ("observed_at", .str context.observedAt.text),
    ("evidence_digest", .str context.evidenceDigest)]

def RunmillVerificationEvidence.toValue (verification : RunmillVerificationEvidence) : Json :=
  .obj [("local_checks", .arr (verification.localChecks.map RunmillLocalCheckEvidence.toValue)),
    ("ci_contexts", .arr (verification.ciContexts.map RunmillCiContextEvidence.toValue))]

def RunmillReviewEvidence.toValue (review : RunmillReviewEvidence) : Json :=
  .obj [("review_id", .str review.reviewId), ("stage", .str review.stage.text),
    ("reviewer_principal", .str review.reviewerPrincipal),
    ("reviewer_profile", .str review.reviewerProfile), ("independent", .bool review.independent),
    ("candidate_sha", .str review.candidateSha), ("policy_digest", .str review.policyDigest),
    ("verdict", .str review.verdict.text), ("findings_digest", .str review.findingsDigest),
    ("evidence_digest", .str review.evidenceDigest)]

def RunmillSideEffectEvidence.toValue (effect : RunmillSideEffectEvidence) : Json :=
  .obj [("effect_key", .str effect.effectKey), ("kind", .str effect.kind.text),
    ("candidate_sha", .str effect.candidateSha), ("intent_digest", .str effect.intentDigest),
    ("observation_digest", .str effect.observationDigest),
    ("reconciliation_digest", optionalText effect.reconciliationDigest),
    ("confirmation_digest", .str effect.confirmationDigest), ("status", .str effect.status.text),
    ("evidence_digest", .str effect.evidenceDigest)]

def RunmillApprovalEvidence.toValue (approval : RunmillApprovalEvidence) : Json :=
  .obj [("approval_id", .str approval.approvalId), ("decision_type", .str approval.decisionType),
    ("requested_effect", .str approval.requestedEffect),
    ("approver_subject", .str approval.approverSubject),
    ("authority_digest", .str approval.authorityDigest),
    ("work_order_digest", .str approval.workOrderDigest),
    ("candidate_sha", .str approval.candidateSha), ("policy_digest", .str approval.policyDigest),
    ("issued_at", .str approval.issuedAt.text), ("expires_at", .str approval.expiresAt.text),
    ("signature_digest", .str approval.signatureDigest),
    ("evidence_digest", .str approval.evidenceDigest)]

def RunmillCancellationEvidence.toValue (cancellation : RunmillCancellationEvidence) : Json :=
  .obj [("requester_subject", .str cancellation.requesterSubject),
    ("reason_code", .str cancellation.reasonCode),
    ("requested_at", .str cancellation.requestedAt.text),
    ("evidence_digest", .str cancellation.evidenceDigest)]

def RunmillBudgetEvidence.toValue (budget : RunmillBudgetEvidence) : Json :=
  .obj [("cost_usd", .num (p.writeF64 budget.costUsd).1 (p.writeF64 budget.costUsd).2),
    ("agent_invocations", .num budget.agentInvocations 0),
    ("fix_iterations", .num budget.fixIterations 0), ("elapsed_ms", .num budget.elapsedMs 0),
    ("stop_reason", .str budget.stopReason.text)]

def RunmillPullRequestDeliveryEvidence.toValue
    (pullRequest : RunmillPullRequestDeliveryEvidence) : Json :=
  .obj [("forge", .str pullRequest.forge), ("repository", .str pullRequest.repository),
    ("number", .num pullRequest.number 0), ("url", .str pullRequest.url),
    ("head_ref", .str pullRequest.headRef), ("base_ref", .str pullRequest.baseRef),
    ("head_sha", .str pullRequest.headSha), ("observed_at", .str pullRequest.observedAt.text),
    ("evidence_digest", .str pullRequest.evidenceDigest)]

def RunmillDeliveryEvidence.toValue (delivery : RunmillDeliveryEvidence) : Json :=
  .obj [("closure_target", .str delivery.closureTarget.text),
    ("satisfied", .bool delivery.satisfied), ("pull_request", delivery.pullRequest.toValue)]

def RunmillEvidenceArtifact.toValue (artifact : RunmillEvidenceArtifact) : Json :=
  .obj [("artifact_id", .str artifact.artifactId), ("kind", .str artifact.kind.text),
    ("size_bytes", .num artifact.sizeBytes 0), ("media_type", .str artifact.mediaType),
    ("digest", .str artifact.digest), ("retention_class", .str artifact.retentionClass.text),
    ("location_ref", .str artifact.locationRef)]

def RunmillEvidencePredicate.toValue (predicate : RunmillEvidencePredicate) : Json :=
  .obj [("schema", .str predicate.schema), ("run", predicate.run.toValue),
    ("work_order", predicate.workOrder.toValue), ("policy", predicate.policy.toValue),
    ("source", predicate.source.toValue), ("runtime", predicate.runtime.toValue),
    ("role_outcomes", .arr (predicate.roleOutcomes.map RunmillRoleOutcome.toValue)),
    ("verification", predicate.verification.toValue),
    ("reviews", .arr (predicate.reviews.map RunmillReviewEvidence.toValue)),
    ("side_effects", .arr (predicate.sideEffects.map RunmillSideEffectEvidence.toValue)),
    ("approvals", .arr (predicate.approvals.map RunmillApprovalEvidence.toValue)),
    ("cancellation", predicate.cancellation.elim .null RunmillCancellationEvidence.toValue),
    ("budget", predicate.budget.toValue p), ("delivery", predicate.delivery.toValue),
    ("artifacts", .arr (predicate.artifacts.map RunmillEvidenceArtifact.toValue))]

def RunmillEvidenceSubject.toValue (subject : RunmillEvidenceSubject) : Json :=
  .obj [("name", .str subject.name), ("digest", .obj [("sha1", .str subject.digest.sha1)])]

def RunmillEvidenceStatement.toValue (statement : RunmillEvidenceStatement) : Json :=
  .obj [("_type", .str statement.statementType),
    ("subject", .arr (statement.subject.map RunmillEvidenceSubject.toValue)),
    ("predicateType", .str statement.predicateType),
    ("predicate", statement.predicate.toValue p)]

namespace SignedRunmillEvidenceBundle

variable (bundle : SignedRunmillEvidenceBundle)

/-- The members that are signed: `UnsignedRunmillEvidenceBundle`
    (lines 509-517). -/
def unsignedFields : List (String × Json) :=
  [("schema", .str bundle.schema), ("key_id", .str bundle.keyId),
    ("algorithm", .str bundle.algorithm.text), ("issued_at", .str bundle.issuedAt.text),
    ("bundle_digest", .str bundle.bundleDigest), ("statement", bundle.statement.toValue p)]

def toValue : Json :=
  .obj (bundle.unsignedFields p ++ [("signature", .str bundle.signature)])

/-- `unsigned_canonical_bytes` (lines 572-581). -/
def unsignedCanonicalBytes : Result (List UInt8) :=
  canonicalJson p (.obj (bundle.unsignedFields p))

end SignedRunmillEvidenceBundle

/-! ## Documents without sensitive fields -/

/-- The filter of sensitive fields lets the value pass. -/
def Plain (value : Json) : Prop := rejectSensitiveFields value = .ok ()

theorem plain_iff {value : Json} :
    Plain value ↔ (∀ key ∈ value.keys, ¬ isSensitiveKey key)
      ∧ ∀ text ∈ value.strings, ¬ isCredentialShaped text :=
  rejectSensitiveFields_eq_ok_iff value

/-- A closed document, tested on bytes. -/
theorem plain_of_codes {value : Json}
    (hkeys : ∀ key ∈ value.keys, findsCode sensitiveCodes key = false)
    (htexts : ∀ text ∈ value.strings, findsCode credentialCodes text = false) : Plain value :=
  plain_iff.mpr ⟨fun key hkey => not_isSensitiveKey (hkeys key hkey),
    fun text htext => not_isCredentialShaped_of_codes (htexts text htext)⟩

theorem plain_str {text : String} : Plain (.str text) ↔ ¬ isCredentialShaped text := by
  simp [plain_iff, Json.keys, Json.strings]

theorem plain_null : Plain .null := rfl

theorem plain_arr {items : List Json} : Plain (.arr items) ↔ ∀ item ∈ items, Plain item := by
  simp only [plain_iff, Json.keys, Json.strings]
  induction items with
  | nil => simp [Json.itemKeys, Json.itemStrings]
  | cons item items ih =>
    simp only [Json.itemKeys, Json.itemStrings, List.forall_mem_append, List.forall_mem_cons]
    rw [← ih]
    tauto

theorem plain_obj :
    Plain (.obj fields) ↔ ∀ field ∈ fields, ¬ isSensitiveKey field.1 ∧ Plain field.2 := by
  simp only [plain_iff, Json.keys, Json.strings]
  induction fields with
  | nil => simp [Json.fieldKeys, Json.fieldStrings]
  | cons field fields ih =>
    simp only [Json.fieldKeys, Json.fieldStrings, List.forall_mem_append, List.forall_mem_cons]
    rw [← ih]
    tauto

/-- Where no key is sensitive, only the values are looked at. -/
theorem plain_obj_iff {keys : List String} (hkeys : fields.map Prod.fst = keys)
    (h : ∀ key ∈ keys, findsCode sensitiveCodes key = false) :
    Plain (.obj fields) ↔ ∀ value ∈ fields.map Prod.snd, Plain value := by
  rw [← hkeys, List.forall_mem_map] at h
  rw [plain_obj, List.forall_mem_map]
  exact forall₂_congr fun field hfield => and_iff_right (not_isSensitiveKey (h field hfield))

theorem plain_member (n : ℕ) {field : String × Json} (h : Plain (.obj fields))
    (hget : fields[n]? = some field) : Plain field.2 :=
  (plain_obj.mp h field (List.mem_of_getElem? hget)).2

/-- A plain object stays plain when the value of a member is replaced by a plain one. -/
theorem plain_obj_set (n : ℕ) {key : String} {old new : Json} (h : Plain (.obj fields))
    (hget : fields[n]? = some (key, old)) (hnew : Plain new) :
    Plain (.obj (fields.set n (key, new))) := by
  rw [plain_obj] at h ⊢
  intro field hfield
  rcases List.mem_or_eq_of_mem_set hfield with hmem | rfl
  · exact h field hmem
  · exact ⟨(h _ (List.mem_of_getElem? hget)).1, hnew⟩

theorem plain_map {f : α → Json} {l : List α} : Plain (.arr (l.map f)) ↔ ∀ a ∈ l, Plain (f a) := by
  rw [plain_arr, List.forall_mem_map]

/-- The items of a plain array may be changed as far as each stays plain. -/
theorem plain_map_map {f : α → Json} {g : α → α} {l : List α}
    (h : Plain (.arr (l.map f))) (hg : ∀ a, Plain (f a) → Plain (f (g a))) :
    Plain (.arr ((l.map g).map f)) := by
  rw [plain_map] at h ⊢
  exact List.forall_mem_map.mpr fun a ha => hg a (h a ha)

end Asf.Evidence
