import Asf.Contracts.SignedWorkOrder
import Asf.Evidence.Verify

/-!
# Evidence of a worker (`src/contracts/evidence.rs`)

`SignedEvidenceBundle` embeds the signed Work Order it answers. `verify` compares
it with that order, and with what the control plane expects and observes.
-/

namespace Asf.WorkerEvidence

open Lib Contracts Evidence

/-! ## The document -/

/-- `IdentityRole` (identity.rs:131-135). -/
inductive IdentityRole where
  | implementer | localReviewer | prReviewer
deriving DecidableEq

/-- `Display for IdentityRole` (identity.rs:137-145), also how serde writes it. -/
def IdentityRole.text : IdentityRole → String
  | .implementer => "implementer"
  | .localReviewer => "local-reviewer"
  | .prReviewer => "pr-reviewer"

instance : ToString IdentityRole := ⟨IdentityRole.text⟩

/-- `WorkOrderIdentities::profile_for` (identity.rs:169-175). -/
def profileFor (identities : WorkOrderIdentities) : IdentityRole → CtxlaneProfileRef
  | .implementer => identities.implementer
  | .localReviewer => identities.localReviewer
  | .prReviewer => identities.prReviewer

/-- `CtxlaneProfileRef::provider` (identity.rs:46-54), as it is displayed. -/
def provider (profile : CtxlaneProfileRef) : String :=
  if startsWith profile.value "claude:" then "claude" else "codex"

/-- `CheckConclusion` (lines 25-31). -/
inductive CheckConclusion where
  | passed | failed | skipped
deriving DecidableEq

/-- `CheckEvidence` (lines 33-40). -/
structure CheckEvidence where
  (checkId candidateSha : String)
  conclusion : CheckConclusion
  artifactDigest : Option String
deriving DecidableEq

/-- `ReviewEvidence` (lines 42-51). -/
structure ReviewEvidence where
  (reviewerProfile reviewerPrincipal candidateSha : String)
  (independent approved : Bool)
  reportDigest : String
deriving DecidableEq

/-- `UsageEvidence` (lines 65-75). -/
structure UsageEvidence where
  (costMicrounits inputTokens outputTokens implementerInvocations reviewerInvocations : ℕ)
  (fixIterations wallTimeSeconds : ℕ)
deriving DecidableEq

/-- `RoleIdentityEvidence` (lines 77-87). -/
structure RoleIdentityEvidence where
  role : IdentityRole
  provider : String
  profileRef : CtxlaneProfileRef
  (principalRef leaseId model isolation : String)
deriving DecidableEq

/-- `RuntimeDigestEvidence` (lines 89-97). -/
structure RuntimeDigestEvidence where
  (harness toolPolicy sandbox dependencies runtime : String)
deriving DecidableEq

/-- `RoleOutcomeConclusion` (lines 99-105). -/
inductive RoleOutcomeConclusion where
  | completed | refused | failed
deriving DecidableEq

/-- `RoleOutcomeEvidence` (lines 107-114). -/
structure RoleOutcomeEvidence where
  role : IdentityRole
  candidateSha : Option String
  conclusion : RoleOutcomeConclusion
  summaryDigest : String
deriving DecidableEq

/-- `FindingEvidence` (lines 116-124). -/
structure FindingEvidence where
  (stableCode severity candidateSha disposition reportDigest : String)
deriving DecidableEq

/-- `SideEffectStatus` (lines 126-133). -/
inductive SideEffectStatus where
  | confirmed | reconciled | ambiguous | failed
deriving DecidableEq

/-- `SideEffectEvidence` (lines 135-144). -/
structure SideEffectEvidence where
  (effectType idempotencyKey intentDigest : String)
  status : SideEffectStatus
  (observationDigest candidateSha : Option String)
deriving DecidableEq

/-- `ApprovalEvidenceRecord` (lines 146-154). -/
structure ApprovalEvidenceRecord where
  (approvalType decision bindingDigest : String)
  candidateSha : Option String
  approverSubject : String
deriving DecidableEq

/-- `ArtifactManifestEntry` (lines 156-164). -/
structure ArtifactManifestEntry where
  (digest mediaType : String)
  size : ℕ
  (retentionClass location : String)
deriving DecidableEq

/-- A `BTreeMap<String, String>`: the entries in the order of their keys. -/
structure TextMap where
  entries : List (String × String)
  ascending : (entries.map Prod.fst).Pairwise (· < ·)
deriving DecidableEq

/-- `BTreeMap::values`. -/
def TextMap.values (map : TextMap) : List String := map.entries.map Prod.snd

/-- `EvidenceBundleV1` (lines 166-205). -/
structure EvidenceBundleV1 where
  schema : String
  (evidenceId workItemId attemptId runId workerId : Uuid)
  workerGeneration : ℕ
  workOrderDigest : String
  workOrder : SignedWorkOrder
  workOrderSignatureVerifiedByWorker : Bool
  sourceSnapshotDigest : String
  policyInputDigests : TextMap
  (repository baseRef baseSha candidateSha remoteHeadSha : String)
  mergeSha : Option String
  changedPaths : Finset String
  diffDigest : String
  identityAttribution : List RoleIdentityEvidence
  runtimeDigests : RuntimeDigestEvidence
  roleOutcomes : List RoleOutcomeEvidence
  findings : List FindingEvidence
  requestedTarget : ClosureTarget
  targetSatisfied : Bool
  checks : List CheckEvidence
  review : ReviewEvidence
  pullRequest : Option PullRequestEvidence
  sideEffects : List SideEffectEvidence
  approvals : List ApprovalEvidenceRecord
  cancellation : Option String
  artifacts : List ArtifactManifestEntry
  usage : UsageEvidence
  stopReason : String
  producedAt : DateTime
deriving DecidableEq

/-- `SignedEvidenceBundle` (lines 207-217). -/
structure SignedEvidenceBundle where
  (envelopeSchema algorithm keyId payloadDigest : String)
  payload : EvidenceBundleV1
  signature : String
deriving DecidableEq

/-! ## How serde writes it -/

def CheckConclusion.text : CheckConclusion → String
  | .passed => "passed"
  | .failed => "failed"
  | .skipped => "skipped"

def RoleOutcomeConclusion.text : RoleOutcomeConclusion → String
  | .completed => "completed"
  | .refused => "refused"
  | .failed => "failed"

def SideEffectStatus.text : SideEffectStatus → String
  | .confirmed => "confirmed"
  | .reconciled => "reconciled"
  | .ambiguous => "ambiguous"
  | .failed => "failed"

def CheckEvidence.toValue (check : CheckEvidence) : Json :=
  .obj [("check_id", .str check.checkId), ("candidate_sha", .str check.candidateSha),
    ("conclusion", .str check.conclusion.text),
    ("artifact_digest", optionalText check.artifactDigest)]

def ReviewEvidence.toValue (review : ReviewEvidence) : Json :=
  .obj [("reviewer_profile", .str review.reviewerProfile),
    ("reviewer_principal", .str review.reviewerPrincipal),
    ("candidate_sha", .str review.candidateSha), ("independent", .bool review.independent),
    ("approved", .bool review.approved), ("report_digest", .str review.reportDigest)]

def pullRequestValue (pullRequest : PullRequestEvidence) : Json :=
  .obj [("repository", .str pullRequest.repository), ("number", .num pullRequest.number 0),
    ("url", .str pullRequest.url), ("base_sha", .str pullRequest.baseSha),
    ("head_sha", .str pullRequest.headSha),
    ("required_ci_contexts", setValue pullRequest.requiredCiContexts),
    ("successful_ci_contexts", setValue pullRequest.successfulCiContexts)]

def UsageEvidence.toValue (usage : UsageEvidence) : Json :=
  .obj [("cost_microunits", .num usage.costMicrounits 0),
    ("input_tokens", .num usage.inputTokens 0), ("output_tokens", .num usage.outputTokens 0),
    ("implementer_invocations", .num usage.implementerInvocations 0),
    ("reviewer_invocations", .num usage.reviewerInvocations 0),
    ("fix_iterations", .num usage.fixIterations 0),
    ("wall_time_seconds", .num usage.wallTimeSeconds 0)]

variable (identity : RoleIdentityEvidence)

def RoleIdentityEvidence.toValue : Json :=
  .obj [("role", .str identity.role.text), ("provider", .str identity.provider),
    ("profile_ref", .str identity.profileRef.value),
    ("principal_ref", .str identity.principalRef), ("lease_id", .str identity.leaseId),
    ("model", .str identity.model), ("isolation", .str identity.isolation)]

def RuntimeDigestEvidence.toValue (digests : RuntimeDigestEvidence) : Json :=
  .obj [("harness", .str digests.harness), ("tool_policy", .str digests.toolPolicy),
    ("sandbox", .str digests.sandbox), ("dependencies", .str digests.dependencies),
    ("runtime", .str digests.runtime)]

def RoleOutcomeEvidence.toValue (outcome : RoleOutcomeEvidence) : Json :=
  .obj [("role", .str outcome.role.text), ("candidate_sha", optionalText outcome.candidateSha),
    ("conclusion", .str outcome.conclusion.text), ("summary_digest", .str outcome.summaryDigest)]

def FindingEvidence.toValue (finding : FindingEvidence) : Json :=
  .obj [("stable_code", .str finding.stableCode), ("severity", .str finding.severity),
    ("candidate_sha", .str finding.candidateSha), ("disposition", .str finding.disposition),
    ("report_digest", .str finding.reportDigest)]

def SideEffectEvidence.toValue (effect : SideEffectEvidence) : Json :=
  .obj [("effect_type", .str effect.effectType), ("idempotency_key", .str effect.idempotencyKey),
    ("intent_digest", .str effect.intentDigest), ("status", .str effect.status.text),
    ("observation_digest", optionalText effect.observationDigest),
    ("candidate_sha", optionalText effect.candidateSha)]

def ApprovalEvidenceRecord.toValue (approval : ApprovalEvidenceRecord) : Json :=
  .obj [("approval_type", .str approval.approvalType), ("decision", .str approval.decision),
    ("binding_digest", .str approval.bindingDigest),
    ("candidate_sha", optionalText approval.candidateSha),
    ("approver_subject", .str approval.approverSubject)]

def ArtifactManifestEntry.toValue (artifact : ArtifactManifestEntry) : Json :=
  .obj [("digest", .str artifact.digest), ("media_type", .str artifact.mediaType),
    ("size", .num artifact.size 0), ("retention_class", .str artifact.retentionClass),
    ("location", .str artifact.location)]

namespace EvidenceBundleV1

section Contents

variable (p : Primitives) (evidence : EvidenceBundleV1)

/-- The members of the payload. -/
def fields : List (String × Json) :=
  [("schema", .str evidence.schema), ("evidence_id", .str evidence.evidenceId.toText),
    ("work_item_id", .str evidence.workItemId.toText),
    ("attempt_id", .str evidence.attemptId.toText), ("run_id", .str evidence.runId.toText),
    ("worker_id", .str evidence.workerId.toText),
    ("worker_generation", .num evidence.workerGeneration 0),
    ("work_order_digest", .str evidence.workOrderDigest),
    ("work_order", evidence.workOrder.toValue p),
    ("work_order_signature_verified_by_worker", .bool evidence.workOrderSignatureVerifiedByWorker),
    ("source_snapshot_digest", .str evidence.sourceSnapshotDigest),
    ("policy_input_digests",
      .obj (evidence.policyInputDigests.entries.map fun entry => (entry.1, .str entry.2))),
    ("repository", .str evidence.repository), ("base_ref", .str evidence.baseRef),
    ("base_sha", .str evidence.baseSha), ("candidate_sha", .str evidence.candidateSha),
    ("remote_head_sha", .str evidence.remoteHeadSha),
    ("merge_sha", optionalText evidence.mergeSha),
    ("changed_paths", setValue evidence.changedPaths), ("diff_digest", .str evidence.diffDigest),
    ("identity_attribution", .arr (evidence.identityAttribution.map RoleIdentityEvidence.toValue)),
    ("runtime_digests", evidence.runtimeDigests.toValue),
    ("role_outcomes", .arr (evidence.roleOutcomes.map RoleOutcomeEvidence.toValue)),
    ("findings", .arr (evidence.findings.map FindingEvidence.toValue)),
    ("requested_target", .str (closureText evidence.requestedTarget)),
    ("target_satisfied", .bool evidence.targetSatisfied),
    ("checks", .arr (evidence.checks.map CheckEvidence.toValue)),
    ("review", evidence.review.toValue),
    ("pull_request", evidence.pullRequest.elim .null pullRequestValue),
    ("side_effects", .arr (evidence.sideEffects.map SideEffectEvidence.toValue)),
    ("approvals", .arr (evidence.approvals.map ApprovalEvidenceRecord.toValue)),
    ("cancellation", optionalText evidence.cancellation),
    ("artifacts", .arr (evidence.artifacts.map ArtifactManifestEntry.toValue)),
    ("usage", evidence.usage.toValue), ("stop_reason", .str evidence.stopReason),
    ("produced_at", .str (p.timeText evidence.producedAt))]

/-- `serde_json::to_value` of the payload. -/
def toValue : Json := .obj (evidence.fields p)

/-! ## `validate_payload_shape` -/

/-- `EVIDENCE_SCHEMA_V1` (line 21). -/
def schemaV1 : String := "runmill.evidence/v1"

/-- The digests that are checked in a loop (lines 434-471). -/
def digests : List String :=
  evidence.policyInputDigests.values
    ++ [evidence.runtimeDigests.harness, evidence.runtimeDigests.toolPolicy,
      evidence.runtimeDigests.sandbox, evidence.runtimeDigests.dependencies,
      evidence.runtimeDigests.runtime, evidence.review.reportDigest]
    ++ evidence.artifacts.map (·.digest) ++ evidence.roleOutcomes.map (·.summaryDigest)
    ++ evidence.findings.map (·.reportDigest) ++ evidence.checks.filterMap (·.artifactDigest)
    ++ evidence.sideEffects.flatMap (fun effect =>
      effect.intentDigest :: effect.observationDigest.toList)
    ++ evidence.approvals.map (·.bindingDigest)

/-- The roles that must be attributed (lines 491-495). -/
def allRoles : Finset IdentityRole := {.implementer, .localReviewer, .prReviewer}

/-- A path that evidence must not name (lines 478-480). -/
def isUnsafePath (path : String) : Bool :=
  path.isEmpty || startsWith path "/" || containsText path ".." || hasChar path '\x00'

/-- An attribution that is incomplete (lines 502-507). -/
def isIncompleteIdentity : Prop :=
  identity.provider ≠ provider identity.profileRef ∨ isBlank identity.principalRef
    ∨ isBlank identity.leaseId ∨ isBlank identity.model
    ∨ identity.isolation ≠ "credential-isolated"

instance (identity : RoleIdentityEvidence) : Decidable (isIncompleteIdentity identity) :=
  inferInstanceAs (Decidable (_ ∨ _))

/-- `validate_payload_shape` (lines 418-557). -/
def validatePayloadShape : Result Unit := do
  failIf (evidence.schema ≠ schemaV1 ∨ evidence.workerGeneration = 0
      ∨ isBlank evidence.repository ∨ isBlank evidence.baseRef ∨ isBlank evidence.stopReason
      ∨ ¬ isGitSha evidence.baseSha ∨ ¬ isGitSha evidence.candidateSha
      ∨ ¬ isSha256Digest evidence.workOrderDigest ∨ ¬ isSha256Digest evidence.sourceSnapshotDigest
      ∨ ¬ isSha256Digest evidence.diffDigest)
    (.validation "evidence is missing required versioned provenance fields")
  evidence.digests.forM fun digest =>
    failIf (¬ isSha256Digest digest)
      (.validation "evidence provenance digests must use lowercase sha256")
  failIf (∃ path ∈ evidence.changedPaths, isUnsafePath path)
    (.validation "evidence contains an unsafe changed path")
  let roles := (evidence.identityAttribution.map (·.role)).toFinset
  failIf (evidence.identityAttribution.length ≠ 3 ∨ roles ≠ allRoles)
    (.validation "evidence must attribute all three identity roles")
  evidence.identityAttribution.forM fun identity =>
    failIf (isIncompleteIdentity identity)
      (.validation "identity attribution is incomplete, mismatched, or not credential-isolated")
  let implementer := (evidence.identityAttribution.find? (·.role == .implementer)).map
    (·.principalRef)
  failIf (implementer = none ∨ ∃ identity ∈ evidence.identityAttribution,
      identity.role ≠ .implementer ∧ some identity.principalRef = implementer)
    (.validation "evidence does not prove reviewer principal independence")
  let outcomeRoles := (evidence.roleOutcomes.map (·.role)).toFinset
  failIf (evidence.roleOutcomes.length ≠ 3 ∨ outcomeRoles ≠ roles
      ∨ ∃ outcome ∈ evidence.roleOutcomes, outcome.conclusion ≠ .completed
        ∨ outcome.candidateSha ≠ some evidence.candidateSha)
    (.validation "successful evidence requires exact-candidate outcomes for all three roles")
  failIf (∃ finding ∈ evidence.findings, finding.candidateSha ≠ evidence.candidateSha)
    (.validation "evidence findings are not bound to the exact candidate")

/-- `identity_for` (lines 559-565). -/
def identityFor (role : IdentityRole) : Result RoleIdentityEvidence :=
  okOr (.validation s!"evidence is missing {role} attribution")
    (evidence.identityAttribution.find? (·.role == role))

/-! ## `validate_frozen_authority` -/

/-- `u32::try_from(len).unwrap_or(u32::MAX)` (line 605). -/
def externalEffects : ℕ :=
  min evidence.sideEffects.length 4294967295

/-- Usage or effects that exceed the budget (lines 606-613). -/
def exceedsBudget (budget : BudgetLimits) : Prop :=
  budget.maxCostMicrounits < evidence.usage.costMicrounits
    ∨ budget.maxInputTokens < evidence.usage.inputTokens
    ∨ budget.maxOutputTokens < evidence.usage.outputTokens
    ∨ budget.maxImplementerInvocations < evidence.usage.implementerInvocations
    ∨ budget.maxReviewerInvocations < evidence.usage.reviewerInvocations
    ∨ budget.maxFixIterations < evidence.usage.fixIterations
    ∨ budget.maxWallTimeSeconds < evidence.usage.wallTimeSeconds
    ∨ budget.maxExternalApiCalls < evidence.externalEffects

end Contents

instance (evidence : EvidenceBundleV1) (budget : BudgetLimits) :
    Decidable (evidence.exceedsBudget budget) := by
  unfold exceedsBudget
  infer_instance

/-- Whether the signed authority permits the effect (lines 620-628). -/
def authorized (evidence : EvidenceBundleV1) (effect : SideEffectEvidence) : Bool :=
  let effects := evidence.workOrder.payload.authority.effects
  if effect.effectType ∈ ["pull_request.create", "pull_request.update"] then
    effects.delivery ≠ .none ∧ effect.candidateSha = some evidence.candidateSha
  else if effect.effectType ∈ ["comment.create", "comment.update"] then effects.mayComment
  else if effect.effectType ∈ ["check.create", "check.update"] then effects.mayUpdateChecks
  else false

/-- `validate_frozen_authority` (lines 567-642). -/
def validateFrozenAuthority (evidence : EvidenceBundleV1) : Result Unit := do
  let order := evidence.workOrder.payload
  [IdentityRole.implementer, .localReviewer, .prReviewer].forM fun role => do
    let identity ← evidence.identityFor role
    failIf (identity.profileRef ≠ profileFor order.identities role)
      (.validation s!"{role} evidence used a profile outside the signed Work Order")
  failIf (∃ path ∈ evidence.changedPaths, ¬ order.authority.paths.allowsPath path)
    (.validation "evidence contains a changed path outside signed authority")
  failIf (evidence.runtimeDigests.harness ≠ order.digests.harness
      ∨ order.digests.policy ∉ evidence.policyInputDigests.values
      ∨ order.digests.repositoryPolicy ∉ evidence.policyInputDigests.values)
    (.validation "evidence runtime and policy inputs do not match the signed Work Order")
  failIf (evidence.exceedsBudget order.authority.budgets)
    (.validation "evidence usage exceeds the signed Work Order budget")
  evidence.sideEffects.forM fun effect =>
    failIf (¬ evidence.authorized effect ∨ isBlank effect.idempotencyKey
        ∨ (effect.status = .confirmed ∨ effect.status = .reconciled)
          ∧ effect.observationDigest = none)
      (.validation "evidence contains an unrecognized, unbound, or unauthorized side effect")

end EvidenceBundleV1

/-! ## `SignedEvidenceBundle` -/

/-- `EvidenceExpectation` (lines 219-238). -/
structure EvidenceExpectation where
  asfWorkOrderKey : VerifyingKey
  (asfWorkOrderKeyId workerKeyId : String)
  (workItemId attemptId runId workerId : Uuid)
  (workOrderDigest repository baseSha candidateSha : String)
  target : ClosureTarget
  (requiredLocalChecks requiredCiContexts : Finset String)
  currentWorkerGeneration : ℕ
  independentlyObservedPullRequest : Option PullRequestEvidence
deriving DecidableEq

variable (expectation : EvidenceExpectation)

/-- Evidence for something other than what is expected (lines 287-295). -/
def EvidenceExpectation.differs (evidence : EvidenceBundleV1) : Prop :=
  evidence.workItemId ≠ expectation.workItemId ∨ evidence.attemptId ≠ expectation.attemptId
    ∨ evidence.runId ≠ expectation.runId ∨ evidence.workerId ≠ expectation.workerId
    ∨ evidence.workOrderDigest ≠ expectation.workOrderDigest
    ∨ evidence.repository ≠ expectation.repository ∨ evidence.baseSha ≠ expectation.baseSha
    ∨ evidence.candidateSha ≠ expectation.candidateSha
    ∨ evidence.requestedTarget ≠ expectation.target

/-- An embedded Work Order that is not the one the evidence is for
    (lines 304-312). -/
def EvidenceExpectation.misembedded (evidence : EvidenceBundleV1) : Prop :=
  evidence.workOrder.keyId ≠ expectation.asfWorkOrderKeyId
    ∨ evidence.workOrder.payloadDigest ≠ evidence.workOrderDigest
    ∨ evidence.workOrder.payload.workItemId ≠ evidence.workItemId
    ∨ evidence.workOrder.payload.attemptId ≠ evidence.attemptId
    ∨ evidence.workOrder.payload.sourceSnapshotDigest ≠ evidence.sourceSnapshotDigest
    ∨ evidence.workOrder.payload.repository.baseSha ≠ evidence.baseSha
    ∨ evidence.workOrder.payload.repository.baseRef ≠ evidence.baseRef
    ∨ evidence.workOrder.payload.closureTarget ≠ evidence.requestedTarget
    ∨ evidence.workOrderSignatureVerifiedByWorker = false

instance (expectation : EvidenceExpectation) (evidence : EvidenceBundleV1) :
    Decidable (expectation.differs evidence) := by
  unfold EvidenceExpectation.differs
  infer_instance

instance (expectation : EvidenceExpectation) (evidence : EvidenceBundleV1) :
    Decidable (expectation.misembedded evidence) := by
  unfold EvidenceExpectation.misembedded
  infer_instance

/-- The checks that passed on the candidate (lines 341-349). -/
def EvidenceBundleV1.passedChecks (evidence : EvidenceBundleV1) : Finset String :=
  ((evidence.checks.filter fun check =>
    check.conclusion = .passed ∧ check.candidateSha = evidence.candidateSha).map
      (·.checkId)).toFinset

/-- The pull request of evidence for a pull-request target (lines 375-395). -/
def EvidenceExpectation.verifyPullRequest (evidence : EvidenceBundleV1) : Result Unit := do
  let pullRequest ← okOr (.validation "pull-request target requires pull-request evidence")
    evidence.pullRequest
  failIf (pullRequest.headSha ≠ evidence.candidateSha ∨ pullRequest.baseSha ≠ evidence.baseSha
      ∨ ¬ expectation.requiredCiContexts ⊆ pullRequest.successfulCiContexts)
    (.validation "pull request does not prove the exact candidate and required CI")
  failIf (expectation.independentlyObservedPullRequest ≠ some pullRequest)
    (.validation ("worker pull-request evidence does not match ASF's independent forge "
      ++ "observation"))

/-- What `verify` compares the payload with (lines 286-396). -/
def EvidenceExpectation.verifyPayload (p : Primitives) (expectation : EvidenceExpectation)
    (evidence : EvidenceBundleV1) : Result Unit := do
  failIf (expectation.differs evidence)
    (.validation "evidence is not bound to the expected Work Order target")
  evidence.workOrder.verifyIntegrity p expectation.asfWorkOrderKey
  failIf (expectation.misembedded evidence)
    (.validation "evidence does not faithfully embed the authorized Work Order")
  failIf (evidence.workerGeneration ≠ expectation.currentWorkerGeneration)
    (.validation "stale worker generation")
  evidence.validateFrozenAuthority
  failIf (evidence.targetSatisfied = false ∨ ¬ isGitSha evidence.candidateSha
      ∨ evidence.remoteHeadSha ≠ evidence.candidateSha)
    (.validation "evidence does not assert a concrete satisfied candidate")
  failIf (∃ effect ∈ evidence.sideEffects, effect.status = .ambiguous ∨ effect.status = .failed)
    (.validation "evidence contains an unresolved blocking external effect")
  failIf (¬ expectation.requiredLocalChecks ⊆ evidence.passedChecks)
    (.validation "not every required local check passed on the exact candidate")
  failIf (evidence.review.independent = false ∨ evidence.review.approved = false
      ∨ evidence.review.candidateSha ≠ evidence.candidateSha)
    (.validation "independent review did not approve the exact candidate")
  let prReviewer ← evidence.identityFor .prReviewer
  failIf (evidence.review.reviewerProfile ≠ prReviewer.profileRef.value
      ∨ evidence.review.reviewerPrincipal ≠ prReviewer.principalRef)
    (.validation "independent review is not bound to the authorized PR reviewer identity")
  if expectation.target = .pullRequest then expectation.verifyPullRequest evidence else .ok ()

namespace SignedEvidenceBundle

/-- `EVIDENCE_ENVELOPE_SCHEMA_V1`, also the domain of its signatures
    (lines 22-23). -/
def envelopeSchemaV1 : String := "runmill.evidence-envelope/v1"

/-- `protected_canonical_bytes` (lines 399-415). -/
def protectedCanonicalBytes (p : Primitives) (bundle : SignedEvidenceBundle) :
    Result (List UInt8) :=
  canonicalJson p <| .obj [
    ("schema", .str bundle.envelopeSchema),
    ("algorithm", .str bundle.algorithm),
    ("key_id", .str bundle.keyId),
    ("payload_digest", .str bundle.payloadDigest),
    ("payload", bundle.payload.toValue p)]

/-- `SignedEvidenceBundle::sign` (lines 241-257). -/
def sign (p : Primitives) (payload : EvidenceBundleV1) (signer : Ed25519Signer) :
    Result SignedEvidenceBundle := do
  payload.validatePayloadShape
  let canonical ← canonicalJson p (payload.toValue p)
  let envelope : SignedEvidenceBundle :=
    { envelopeSchema := envelopeSchemaV1, algorithm := "EdDSA", keyId := signer.keyId
      payloadDigest := sha256Digest p canonical, payload, signature := "" }
  let message ← envelope.protectedCanonicalBytes p
  return { envelope with signature := signer.signDomain envelopeSchemaV1 message }

/-- The envelope, the signature and the form of the payload (lines 260-284). -/
def verifyEnvelope (p : Primitives) (bundle : SignedEvidenceBundle) (key : VerifyingKey)
    (workerKeyId : String) : Result Unit := do
  failIf (bundle.envelopeSchema ≠ envelopeSchemaV1 ∨ bundle.algorithm ≠ "EdDSA"
      ∨ bundle.payload.schema ≠ EvidenceBundleV1.schemaV1)
    (.crypto "unsupported evidence envelope")
  let canonical ← canonicalJson p (bundle.payload.toValue p)
  failIf (sha256Digest p canonical ≠ bundle.payloadDigest)
    (.crypto "evidence payload digest mismatch")
  let message ← bundle.protectedCanonicalBytes p
  verifyDomainSignature p key envelopeSchemaV1 message bundle.signature
  failIf (bundle.keyId ≠ workerKeyId)
    (.validation "evidence signing key is not the authoritative worker key")
  bundle.payload.validatePayloadShape
  rejectSensitiveFields (bundle.payload.toValue p)

/-- `SignedEvidenceBundle::verify` (lines 259-397). -/
def verify (p : Primitives) (bundle : SignedEvidenceBundle) (key : VerifyingKey)
    (expectation : EvidenceExpectation) : Result Unit := do
  bundle.verifyEnvelope p key expectation.workerKeyId
  expectation.verifyPayload p bundle.payload

end SignedEvidenceBundle

end Asf.WorkerEvidence
