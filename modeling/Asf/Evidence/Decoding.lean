import Asf.Contracts.RunmillDecoding
import Asf.Evidence.Shape

/-!
# Decoding signed Runmill evidence

What `serde_json::from_slice::<SignedRunmillEvidenceBundle>` takes, and `from_json`.
The structs are derived with `deny_unknown_fields`, as those of the Work Order.

Result:

* `Uuid.parseStr_toText`: an identifier is read back.
-/

namespace Asf

variable {fields : List (String × Json)} {bundle : SignedRunmillEvidenceBundle}

/-! ## `Uuid::parse_str` -/

namespace Uuid

/-- A hexadecimal digit of either case. -/
def parseDigit (c : Char) : Option (Fin 16) :=
  unhexDigit (if 'A' ≤ c && c ≤ 'F' then Char.ofNat (c.toNat + 32) else c)

/-- 32 digits. -/
def parseSimple (digits : List Char) : Option Uuid :=
  (digits.mapM parseDigit).bind fun nibbles =>
    if h : nibbles.length = 32 then some ⟨nibbles, h⟩ else none

/-- Digits in groups of 8, 4, 4, 4 and 12 with a hyphen between them. -/
def parseHyphenated (text : List Char) : Option Uuid :=
  if [8, 13, 18, 23].all fun i => text[i]? == some '-' then
    parseSimple (text.take 8 ++ ((text.drop 9).take 4 ++ ((text.drop 14).take 4
      ++ ((text.drop 19).take 4 ++ text.drop 24))))
  else none

/-- `Uuid::parse_str`: plain, hyphenated, in braces or as a URN. -/
def parseStr (text : String) : Option Uuid :=
  let chars := text.toList
  match chars.length with
  | 32 => parseSimple chars
  | 36 => parseHyphenated chars
  | 38 =>
    if chars.head? = some '{' ∧ chars.getLast? = some '}' then
      parseHyphenated (chars.tail.dropLast)
    else none
  | 45 =>
    if chars.take 9 = "urn:uuid:".toList then parseHyphenated (chars.drop 9) else none
  | _ => none

theorem parseDigit_hexDigit : ∀ d : Fin 16, parseDigit (hexDigit d) = some d := by decide

theorem parseSimple_hexDigits (u : Uuid) : parseSimple (u.nibbles.map hexDigit) = some u := by
  rw [parseSimple, mapM_map_eq_some fun d _ => parseDigit_hexDigit d, Option.bind_some,
    dif_pos u.length_eq]

theorem parseHyphenated_chars (u : Uuid) : parseHyphenated u.chars = some u := by
  have hlength : (u.nibbles.map hexDigit).length = 32 := by simp [u.length_eq]
  rw [← parseSimple_hexDigits u, ← groups_eq (u.nibbles.map hexDigit), chars]
  generalize u.nibbles.map hexDigit = d at hlength ⊢
  -- The text is cut where its groups end.
  obtain ⟨a, ha⟩ : ∃ a, d.take 8 = a := ⟨_, rfl⟩
  obtain ⟨b, hb⟩ : ∃ b, (d.drop 8).take 4 = b := ⟨_, rfl⟩
  obtain ⟨c, hc⟩ : ∃ c, (d.drop 12).take 4 = c := ⟨_, rfl⟩
  obtain ⟨e, he⟩ : ∃ e, (d.drop 16).take 4 = e := ⟨_, rfl⟩
  have hla : a.length = 8 := by rw [← ha]; simp; omega
  have hlb : b.length = 4 := by rw [← hb]; simp; omega
  have hlc : c.length = 4 := by rw [← hc]; simp; omega
  have hle : e.length = 4 := by rw [← he]; simp; omega
  rw [ha, hb, hc, he]
  simp [parseHyphenated, List.getElem?_append, List.drop_append,
    List.drop_of_length_le, hla, hlb, hlc, hle]

/-- Round trip of the text. -/
theorem parseStr_toText (u : Uuid) : parseStr u.toText = some u := by
  have hlength : u.toText.toList.length = 36 := by simp [toText]
  have hparse : parseStr u.toText = parseHyphenated u.toText.toList := by
    simp only [parseStr, hlength]
  rw [hparse, toText, String.toList_ofList, parseHyphenated_chars]

end Uuid

namespace Evidence

open Lib Contracts
open Json (asStr asU64)

/-! ## Derived readers -/

section Decoding

variable (p : Primitives) (value : Json)

/-- A `Uuid`. -/
def readUuid : Option Uuid := value.asStr.bind Uuid.parseStr

/-- A `RunmillEvidenceTimestamp`, which is transparent. -/
def readTimestamp : Option RunmillEvidenceTimestamp :=
  value.asStr.map RunmillEvidenceTimestamp.mk

/-- An enumeration of variants without data. -/
def readEnum {α : Type} (all : List α) (text : α → String) : Json → Option α :=
  readVariant (all.map fun variant => (text variant, variant))

/-- A `Vec`. -/
def readVec {α : Type} (read : Json → Option α) (value : Json) : Option (List α) := do
  let items ← value.asArray
  items.mapM read

def RunmillEvidenceAlgorithm.fromValue : Json → Option RunmillEvidenceAlgorithm :=
  readEnum [.edDSA] RunmillEvidenceAlgorithm.text

def RunmillProviderRole.fromValue : Json → Option RunmillProviderRole :=
  readEnum [.implementer, .localReviewer, .pullRequestReviewer] RunmillProviderRole.text

def RunmillRoleOutcomeConclusion.fromValue : Json → Option RunmillRoleOutcomeConclusion :=
  readEnum [.completed, .passed, .stopped] RunmillRoleOutcomeConclusion.text

def RunmillLocalCheckConclusion.fromValue : Json → Option RunmillLocalCheckConclusion :=
  readEnum [.success, .failure, .error] RunmillLocalCheckConclusion.text

def RunmillCheckCoverage.fromValue : Json → Option RunmillCheckCoverage :=
  readEnum [.complete, .partly, .unknown] RunmillCheckCoverage.text

def RunmillCiConclusion.fromValue : Json → Option RunmillCiConclusion :=
  readEnum [.success, .failure, .pending, .cancelled, .skipped, .neutral, .unknown]
    RunmillCiConclusion.text

def RunmillReviewStage.fromValue : Json → Option RunmillReviewStage :=
  readEnum [.localStage, .pullRequest] RunmillReviewStage.text

def RunmillReviewVerdict.fromValue : Json → Option RunmillReviewVerdict :=
  readEnum [.pass, .fail, .unknown] RunmillReviewVerdict.text

def RunmillSideEffectKind.fromValue : Json → Option RunmillSideEffectKind :=
  readEnum
    [.branchPush, .pullRequestCreate, .pullRequestUpdate, .pullRequestObserve, .ciObserve,
      .reviewObserve]
    RunmillSideEffectKind.text

def RunmillConfirmedStatus.fromValue : Json → Option RunmillConfirmedStatus :=
  readEnum [.confirmed] RunmillConfirmedStatus.text

def RunmillStopReason.fromValue : Json → Option RunmillStopReason :=
  readEnum [.pullRequestDelivered] RunmillStopReason.text

def RunmillClosureTarget.fromValue : Json → Option RunmillClosureTarget :=
  readEnum [.pr] RunmillClosureTarget.text

def RunmillArtifactKind.fromValue : Json → Option RunmillArtifactKind :=
  readEnum
    [.workOrderEnvelope, .effectivePolicy, .normalizedDiff, .agentOutcome, .verification,
      .ciObservation, .review, .sideEffect, .approval, .runtimeManifest]
    RunmillArtifactKind.text

def RunmillRetentionClass.fromValue : Json → Option RunmillRetentionClass :=
  readEnum [.portable, .protectedClass, .restricted] RunmillRetentionClass.text

def RunmillEvidenceRun.fromValue : Option RunmillEvidenceRun := do
  let fields ← structFields ["run_id", "attempt_id", "work_order_id", "completed_at"] value
  let runId ← readField fields "run_id" asStr
  let attemptId ← readField fields "attempt_id" readUuid
  let workOrderId ← readField fields "work_order_id" readUuid
  let completedAt ← readField fields "completed_at" readTimestamp
  return { runId, attemptId, workOrderId, completedAt }

def RunmillVerifiedWorkOrderSignature.fromValue : Option RunmillVerifiedWorkOrderSignature := do
  let fields ← structFields ["key_id", "algorithm", "verified"] value
  let keyId ← readField fields "key_id" asStr
  let algorithm ← readField fields "algorithm" RunmillEvidenceAlgorithm.fromValue
  let verified ← readField fields "verified" readBool
  return { keyId, algorithm, verified }

def RunmillEvidenceWorkOrder.fromValue : Option RunmillEvidenceWorkOrder := do
  let fields ← structFields
    ["envelope_digest", "payload_digest", "envelope_artifact_digest", "signature"] value
  let envelopeDigest ← readField fields "envelope_digest" asStr
  let payloadDigest ← readField fields "payload_digest" asStr
  let envelopeArtifactDigest ← readField fields "envelope_artifact_digest" asStr
  let signature ← readField fields "signature" RunmillVerifiedWorkOrderSignature.fromValue
  return { envelopeDigest, payloadDigest, envelopeArtifactDigest, signature }

def RunmillPolicyInputs.fromValue : Option RunmillPolicyInputs := do
  let fields ← structFields
    ["operator_policy_digest", "work_order_policy_digest", "repository_policy_digest",
      "forge_policy_digest"] value
  let operatorPolicyDigest ← readField fields "operator_policy_digest" asStr
  let workOrderPolicyDigest ← readField fields "work_order_policy_digest" asStr
  let repositoryPolicyDigest ← readField fields "repository_policy_digest" asStr
  let forgePolicyDigest ← readField fields "forge_policy_digest" asStr
  return { operatorPolicyDigest, workOrderPolicyDigest, repositoryPolicyDigest, forgePolicyDigest }

def RunmillEffectivePolicyEvidence.fromValue : Option RunmillEffectivePolicyEvidence := do
  let fields ← structFields
    ["effective_policy_digest", "effective_policy_artifact_digest", "inputs",
      "required_local_checks", "required_ci_contexts", "require_local_review",
      "require_pull_request_review"] value
  let effectivePolicyDigest ← readField fields "effective_policy_digest" asStr
  let effectivePolicyArtifactDigest ← readField fields "effective_policy_artifact_digest" asStr
  let inputs ← readField fields "inputs" RunmillPolicyInputs.fromValue
  let requiredLocalChecks ← readField fields "required_local_checks" readStrings
  let requiredCiContexts ← readField fields "required_ci_contexts" readStrings
  let requireLocalReview ← readField fields "require_local_review" readBool
  let requirePullRequestReview ← readField fields "require_pull_request_review" readBool
  return { effectivePolicyDigest, effectivePolicyArtifactDigest, inputs, requiredLocalChecks,
           requiredCiContexts, requireLocalReview, requirePullRequestReview }

def RunmillSourceEvidence.fromValue : Option RunmillSourceEvidence := do
  let fields ← structFields
    ["forge", "repository", "base_ref", "base_sha", "candidate_sha", "remote_head_sha",
      "merge_sha", "tree_digest", "normalized_diff_digest", "normalized_diff_artifact_digest",
      "changed_paths"] value
  let forge ← readField fields "forge" asStr
  let repository ← readField fields "repository" asStr
  let baseRef ← readField fields "base_ref" asStr
  let baseSha ← readField fields "base_sha" asStr
  let candidateSha ← readField fields "candidate_sha" asStr
  let remoteHeadSha ← readField fields "remote_head_sha" asStr
  let mergeSha ← readOptional fields "merge_sha"
  let treeDigest ← readField fields "tree_digest" asStr
  let normalizedDiffDigest ← readField fields "normalized_diff_digest" asStr
  let normalizedDiffArtifactDigest ← readField fields "normalized_diff_artifact_digest" asStr
  let changedPaths ← readField fields "changed_paths" readStrings
  return { forge, repository, baseRef, baseSha, candidateSha, remoteHeadSha, mergeSha,
           treeDigest, normalizedDiffDigest, normalizedDiffArtifactDigest, changedPaths }

def RunmillProviderAttribution.fromValue : Option RunmillProviderAttribution := do
  let fields ← structFields ["role", "provider", "model", "principal_id", "lease_id"] value
  let role ← readField fields "role" RunmillProviderRole.fromValue
  let provider ← readField fields "provider" asStr
  let model ← readField fields "model" asStr
  let principalId ← readField fields "principal_id" asStr
  let leaseId ← readField fields "lease_id" asStr
  return { role, provider, model, principalId, leaseId }

def RunmillRuntimeEvidence.fromValue : Option RunmillRuntimeEvidence := do
  let fields ← structFields
    ["harness_digest", "tool_policy_digest", "sandbox_profile_digest", "dependency_digest",
      "runtime_digest", "runtime_manifest_digest", "providers"] value
  let harnessDigest ← readField fields "harness_digest" asStr
  let toolPolicyDigest ← readField fields "tool_policy_digest" asStr
  let sandboxProfileDigest ← readField fields "sandbox_profile_digest" asStr
  let dependencyDigest ← readField fields "dependency_digest" asStr
  let runtimeDigest ← readField fields "runtime_digest" asStr
  let runtimeManifestDigest ← readField fields "runtime_manifest_digest" asStr
  let providers ← readField fields "providers" (readVec RunmillProviderAttribution.fromValue)
  return { harnessDigest, toolPolicyDigest, sandboxProfileDigest, dependencyDigest,
           runtimeDigest, runtimeManifestDigest, providers }

def RunmillRoleOutcome.fromValue : Option RunmillRoleOutcome := do
  let fields ← structFields ["role", "outcome", "candidate_sha", "evidence_digest"] value
  let role ← readField fields "role" RunmillProviderRole.fromValue
  let outcome ← readField fields "outcome" RunmillRoleOutcomeConclusion.fromValue
  let candidateSha ← readField fields "candidate_sha" asStr
  let evidenceDigest ← readField fields "evidence_digest" asStr
  return { role, outcome, candidateSha, evidenceDigest }

def RunmillLocalCheckEvidence.fromValue : Option RunmillLocalCheckEvidence := do
  let fields ← structFields
    ["check_id", "candidate_sha", "tree_digest", "command_digest", "executor_id",
      "toolchain_digest", "sandbox_profile_digest", "started_at", "completed_at", "conclusion",
      "coverage", "evidence_digest"] value
  let checkId ← readField fields "check_id" asStr
  let candidateSha ← readField fields "candidate_sha" asStr
  let treeDigest ← readField fields "tree_digest" asStr
  let commandDigest ← readField fields "command_digest" asStr
  let executorId ← readField fields "executor_id" asStr
  let toolchainDigest ← readField fields "toolchain_digest" asStr
  let sandboxProfileDigest ← readField fields "sandbox_profile_digest" asStr
  let startedAt ← readField fields "started_at" readTimestamp
  let completedAt ← readField fields "completed_at" readTimestamp
  let conclusion ← readField fields "conclusion" RunmillLocalCheckConclusion.fromValue
  let coverage ← readField fields "coverage" RunmillCheckCoverage.fromValue
  let evidenceDigest ← readField fields "evidence_digest" asStr
  return { checkId, candidateSha, treeDigest, commandDigest, executorId, toolchainDigest,
           sandboxProfileDigest, startedAt, completedAt, conclusion, coverage, evidenceDigest }

def RunmillCiContextEvidence.fromValue : Option RunmillCiContextEvidence := do
  let fields ← structFields
    ["context", "candidate_sha", "conclusion", "observed_at", "evidence_digest"] value
  let context ← readField fields "context" asStr
  let candidateSha ← readField fields "candidate_sha" asStr
  let conclusion ← readField fields "conclusion" RunmillCiConclusion.fromValue
  let observedAt ← readField fields "observed_at" readTimestamp
  let evidenceDigest ← readField fields "evidence_digest" asStr
  return { context, candidateSha, conclusion, observedAt, evidenceDigest }

def RunmillVerificationEvidence.fromValue : Option RunmillVerificationEvidence := do
  let fields ← structFields ["local_checks", "ci_contexts"] value
  let localChecks ← readField fields "local_checks" (readVec RunmillLocalCheckEvidence.fromValue)
  let ciContexts ← readField fields "ci_contexts" (readVec RunmillCiContextEvidence.fromValue)
  return { localChecks, ciContexts }

def RunmillReviewEvidence.fromValue : Option RunmillReviewEvidence := do
  let fields ← structFields
    ["review_id", "stage", "reviewer_principal", "reviewer_profile", "independent",
      "candidate_sha", "policy_digest", "verdict", "findings_digest", "evidence_digest"] value
  let reviewId ← readField fields "review_id" asStr
  let stage ← readField fields "stage" RunmillReviewStage.fromValue
  let reviewerPrincipal ← readField fields "reviewer_principal" asStr
  let reviewerProfile ← readField fields "reviewer_profile" asStr
  let independent ← readField fields "independent" readBool
  let candidateSha ← readField fields "candidate_sha" asStr
  let policyDigest ← readField fields "policy_digest" asStr
  let verdict ← readField fields "verdict" RunmillReviewVerdict.fromValue
  let findingsDigest ← readField fields "findings_digest" asStr
  let evidenceDigest ← readField fields "evidence_digest" asStr
  return { reviewId, stage, reviewerPrincipal, reviewerProfile, independent, candidateSha,
           policyDigest, verdict, findingsDigest, evidenceDigest }

def RunmillSideEffectEvidence.fromValue : Option RunmillSideEffectEvidence := do
  let fields ← structFields
    ["effect_key", "kind", "candidate_sha", "intent_digest", "observation_digest",
      "reconciliation_digest", "confirmation_digest", "status", "evidence_digest"] value
  let effectKey ← readField fields "effect_key" asStr
  let kind ← readField fields "kind" RunmillSideEffectKind.fromValue
  let candidateSha ← readField fields "candidate_sha" asStr
  let intentDigest ← readField fields "intent_digest" asStr
  let observationDigest ← readField fields "observation_digest" asStr
  let reconciliationDigest ← readOptional fields "reconciliation_digest"
  let confirmationDigest ← readField fields "confirmation_digest" asStr
  let status ← readField fields "status" RunmillConfirmedStatus.fromValue
  let evidenceDigest ← readField fields "evidence_digest" asStr
  return { effectKey, kind, candidateSha, intentDigest, observationDigest, reconciliationDigest,
           confirmationDigest, status, evidenceDigest }

def RunmillApprovalEvidence.fromValue : Option RunmillApprovalEvidence := do
  let fields ← structFields
    ["approval_id", "decision_type", "requested_effect", "approver_subject", "authority_digest",
      "work_order_digest", "candidate_sha", "policy_digest", "issued_at", "expires_at",
      "signature_digest", "evidence_digest"] value
  let approvalId ← readField fields "approval_id" asStr
  let decisionType ← readField fields "decision_type" asStr
  let requestedEffect ← readField fields "requested_effect" asStr
  let approverSubject ← readField fields "approver_subject" asStr
  let authorityDigest ← readField fields "authority_digest" asStr
  let workOrderDigest ← readField fields "work_order_digest" asStr
  let candidateSha ← readField fields "candidate_sha" asStr
  let policyDigest ← readField fields "policy_digest" asStr
  let issuedAt ← readField fields "issued_at" readTimestamp
  let expiresAt ← readField fields "expires_at" readTimestamp
  let signatureDigest ← readField fields "signature_digest" asStr
  let evidenceDigest ← readField fields "evidence_digest" asStr
  return { approvalId, decisionType, requestedEffect, approverSubject, authorityDigest,
           workOrderDigest, candidateSha, policyDigest, issuedAt, expiresAt, signatureDigest,
           evidenceDigest }

def RunmillCancellationEvidence.fromValue : Option RunmillCancellationEvidence := do
  let fields ← structFields
    ["requester_subject", "reason_code", "requested_at", "evidence_digest"] value
  let requesterSubject ← readField fields "requester_subject" asStr
  let reasonCode ← readField fields "reason_code" asStr
  let requestedAt ← readField fields "requested_at" readTimestamp
  let evidenceDigest ← readField fields "evidence_digest" asStr
  return { requesterSubject, reasonCode, requestedAt, evidenceDigest }

def RunmillBudgetEvidence.fromValue : Option RunmillBudgetEvidence := do
  let fields ← structFields
    ["cost_usd", "agent_invocations", "fix_iterations", "elapsed_ms", "stop_reason"] value
  let costUsd ← readField fields "cost_usd" (readNumber p)
  let agentInvocations ← readField fields "agent_invocations" asU64
  let fixIterations ← readField fields "fix_iterations" asU64
  let elapsedMs ← readField fields "elapsed_ms" asU64
  let stopReason ← readField fields "stop_reason" RunmillStopReason.fromValue
  return { costUsd, agentInvocations, fixIterations, elapsedMs, stopReason }

def RunmillPullRequestDeliveryEvidence.fromValue : Option RunmillPullRequestDeliveryEvidence := do
  let fields ← structFields
    ["forge", "repository", "number", "url", "head_ref", "base_ref", "head_sha", "observed_at",
      "evidence_digest"] value
  let forge ← readField fields "forge" asStr
  let repository ← readField fields "repository" asStr
  let number ← readField fields "number" asU64
  let url ← readField fields "url" asStr
  let headRef ← readField fields "head_ref" asStr
  let baseRef ← readField fields "base_ref" asStr
  let headSha ← readField fields "head_sha" asStr
  let observedAt ← readField fields "observed_at" readTimestamp
  let evidenceDigest ← readField fields "evidence_digest" asStr
  return { forge, repository, number, url, headRef, baseRef, headSha, observedAt, evidenceDigest }

def RunmillDeliveryEvidence.fromValue : Option RunmillDeliveryEvidence := do
  let fields ← structFields ["closure_target", "satisfied", "pull_request"] value
  let closureTarget ← readField fields "closure_target" RunmillClosureTarget.fromValue
  let satisfied ← readField fields "satisfied" readBool
  let pullRequest ← readField fields "pull_request" RunmillPullRequestDeliveryEvidence.fromValue
  return { closureTarget, satisfied, pullRequest }

def RunmillEvidenceArtifact.fromValue : Option RunmillEvidenceArtifact := do
  let fields ← structFields
    ["artifact_id", "kind", "size_bytes", "media_type", "digest", "retention_class",
      "location_ref"] value
  let artifactId ← readField fields "artifact_id" asStr
  let kind ← readField fields "kind" RunmillArtifactKind.fromValue
  let sizeBytes ← readField fields "size_bytes" asU64
  let mediaType ← readField fields "media_type" asStr
  let digest ← readField fields "digest" asStr
  let retentionClass ← readField fields "retention_class" RunmillRetentionClass.fromValue
  let locationRef ← readField fields "location_ref" asStr
  return { artifactId, kind, sizeBytes, mediaType, digest, retentionClass, locationRef }

def RunmillEvidencePredicate.fromValue : Option RunmillEvidencePredicate := do
  let fields ← structFields
    ["schema", "run", "work_order", "policy", "source", "runtime", "role_outcomes",
      "verification", "reviews", "side_effects", "approvals", "cancellation", "budget",
      "delivery", "artifacts"] value
  let schema ← readField fields "schema" asStr
  let run ← readField fields "run" RunmillEvidenceRun.fromValue
  let workOrder ← readField fields "work_order" RunmillEvidenceWorkOrder.fromValue
  let policy ← readField fields "policy" RunmillEffectivePolicyEvidence.fromValue
  let source ← readField fields "source" RunmillSourceEvidence.fromValue
  let runtime ← readField fields "runtime" RunmillRuntimeEvidence.fromValue
  let roleOutcomes ← readField fields "role_outcomes" (readVec RunmillRoleOutcome.fromValue)
  let verification ← readField fields "verification" RunmillVerificationEvidence.fromValue
  let reviews ← readField fields "reviews" (readVec RunmillReviewEvidence.fromValue)
  let sideEffects ← readField fields "side_effects" (readVec RunmillSideEffectEvidence.fromValue)
  let approvals ← readField fields "approvals" (readVec RunmillApprovalEvidence.fromValue)
  let cancellation ← readOption fields "cancellation" RunmillCancellationEvidence.fromValue
  let budget ← readField fields "budget" (RunmillBudgetEvidence.fromValue p)
  let delivery ← readField fields "delivery" RunmillDeliveryEvidence.fromValue
  let artifacts ← readField fields "artifacts" (readVec RunmillEvidenceArtifact.fromValue)
  return { schema, run, workOrder, policy, source, runtime, roleOutcomes, verification, reviews,
           sideEffects, approvals, cancellation, budget, delivery, artifacts }

def RunmillSubjectDigest.fromValue : Option RunmillSubjectDigest := do
  let fields ← structFields ["sha1"] value
  let sha1 ← readField fields "sha1" asStr
  return { sha1 }

def RunmillEvidenceSubject.fromValue : Option RunmillEvidenceSubject := do
  let fields ← structFields ["name", "digest"] value
  let name ← readField fields "name" asStr
  let digest ← readField fields "digest" RunmillSubjectDigest.fromValue
  return { name, digest }

def RunmillEvidenceStatement.fromValue : Option RunmillEvidenceStatement := do
  let fields ← structFields ["_type", "subject", "predicateType", "predicate"] value
  let statementType ← readField fields "_type" asStr
  let subject ← readField fields "subject" (readVec RunmillEvidenceSubject.fromValue)
  let predicateType ← readField fields "predicateType" asStr
  let predicate ← readField fields "predicate" (RunmillEvidencePredicate.fromValue p)
  return { statementType, subject, predicateType, predicate }

def SignedRunmillEvidenceBundle.fromValue : Option SignedRunmillEvidenceBundle := do
  let fields ← structFields
    ["schema", "key_id", "algorithm", "issued_at", "bundle_digest", "statement", "signature"] value
  let schema ← readField fields "schema" asStr
  let keyId ← readField fields "key_id" asStr
  let algorithm ← readField fields "algorithm" RunmillEvidenceAlgorithm.fromValue
  let issuedAt ← readField fields "issued_at" readTimestamp
  let bundleDigest ← readField fields "bundle_digest" asStr
  let statement ← readField fields "statement" (RunmillEvidenceStatement.fromValue p)
  let signature ← readField fields "signature" asStr
  return { schema, keyId, algorithm, issuedAt, bundleDigest, statement, signature }

/-- `from_json` (runmill_evidence.rs:549-554) on the document the bytes are parsed to.
    `report` is what serde says of a document it does not read. -/
def SignedRunmillEvidenceBundle.fromJson (report : Json → String) (document : Json) :
    Checked SignedRunmillEvidenceBundle := do
  let bundle ← Exec.lift (okOr
    (.serialization s!"decode Runmill evidence: {report document}") (fromValue p document))
  bundle.validateShape p
  return bundle

end Decoding

/-! ## Reading what was written -/

theorem readUuid_toText (id : Uuid) : readUuid (.str id.toText) = some id :=
  Uuid.parseStr_toText id

theorem readVec_map {α : Type} {read : Json → Option α} {write : α → Json} {items : List α}
    (h : ∀ item ∈ items, read (write item) = some item) :
    readVec read (.arr (items.map write)) = some items :=
  mapM_map_eq_some h

end Evidence

end Asf
