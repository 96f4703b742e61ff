import Asf.Evidence.Accepted

/-!
# Evidence and the ledger (`src/runtime/evidence_verification.rs`)

`VerificationBinding`: one signed bundle with the ledger rows it is verified against.

The fields of the source's `VerificationBinding` that no function below reads are left
out. Those of the evidence row are a structure of their own, so that evidence can vary
while the other rows do not.
-/

namespace Asf.Evidence

open Lib Contracts
open Exec (lift)

/-! ## Time -/

/-- The first and the last instant of `DateTime<Utc>`, in nanoseconds since 2000. -/
def minUtcNanos : ℤ := -8335547913600000000000

def maxUtcNanos : ℤ := 8209320191999999999999

/-- `instant.checked_add_signed(Duration::seconds(seconds))`. -/
def checkedAddSeconds (instant : DateTime) (seconds : ℤ) : Option DateTime :=
  let sum := instant.nanos + seconds * 1000000000
  if minUtcNanos ≤ sum ∧ sum ≤ maxUtcNanos then some ⟨sum⟩ else none

/-- `PROVIDER_CLOCK_SKEW_SECONDS` (line 49). -/
def providerClockSkewSeconds : ℤ := 300

/-- What `Utc::now()` returns: before the bundle is verified, for each approval, after
    the static checks, and twice for each artifact. -/
structure Readings where
  preflight : DateTime
  approval : Uuid → DateTime
  latest : DateTime
  (artifactCreated artifactExpires : String → DateTime)

/-! ## Rows -/

/-- `ArtifactBinding` (lines 271-284). -/
structure ArtifactBinding where
  id : Uuid
  (manifestArtifactId manifestKind relationship digest mediaType : String)
  byteSize : ℤ
  (objectKey retentionClass : String)
  createdAt : DateTime
  expiresAt : Option DateTime
deriving DecidableEq

/-- `ApprovalBinding` (lines 286-298). -/
structure ApprovalBinding where
  id : Uuid
  (approvalType status : String)
  (workOrderDigest candidateSha : Option String)
  (decisionEffectType policyDigest : String)
  decisionSubject : Option String
  (issuedAt expiresAt : DateTime)
deriving DecidableEq

/-- The fields of `VerificationBinding` (lines 300-364) that are not
    of the evidence row. -/
structure LedgerRows where
  (tenantId workItemId : Uuid)
  (sourceExternalId sourceSnapshotDigest repository policyDigest : String)
  attemptId : Uuid
  (attemptBaseRef attemptBaseSha attemptSourceSnapshotDigest attemptPolicyDigest : String)
  attemptTerminalAt : DateTime
  workOrderId : Uuid
  workOrderPayloadDigest : String
  workOrderCanonicalPayload : List UInt8
  workOrderPayload : Json
  workOrderExactEnvelope : List UInt8
  (workOrderSchema workOrderEnvelopeSchema workOrderAlgorithm workOrderKeyId : String)
  workOrderSignature : String
  (workOrderIssuedAt workOrderNotBefore workOrderExpiresAt : DateTime)
  workOrder : RunmillSignedWorkOrderV1
  externalRunId : String
  runTerminalAt : DateTime
  workerGeneration : ℤ
  workerStatus : String
  workerSessionId : Uuid
  (workerSessionStatus workerSessionSigningKeyId workerSessionSigningPublicKey : String)
  (workerSessionStartedAt workerSessionExpiresAt : DateTime)
  workerSessionClosedAt : Option DateTime
  artifacts : List ArtifactBinding
  approvals : List ApprovalBinding

/-- The evidence row, with the bundle that its envelope decodes to. -/
structure EvidenceRow where
  evidenceWorkerSessionId : Uuid
  (evidencePayloadDigest evidenceWorkOrderDigest evidenceBaseSha evidenceCandidateSha : String)
  (evidenceSchema evidenceEnvelopeSchema evidenceAlgorithm evidenceKeyId : String)
  evidenceSignature : String
  evidenceCanonicalPayload : List UInt8
  evidencePayload : Json
  evidenceExactEnvelope : List UInt8
  evidenceProducedAt : DateTime
  evidence : SignedRunmillEvidenceBundle

/-- `VerificationBinding` (lines 300-364). -/
structure VerificationBinding extends LedgerRows, EvidenceRow

namespace VerificationBinding

/-! ## `verify_approval_bindings` -/

/-- An approval row that does not stand for the candidate
    (lines 904-912). -/
def unresolved (readings : Readings) (binding : VerificationBinding)
    (approval : ApprovalBinding) : Prop :=
  approval.status ≠ "APPROVED"
    ∨ approval.workOrderDigest ≠ some binding.workOrderPayloadDigest
    ∨ approval.candidateSha ≠ some binding.evidenceCandidateSha
    ∨ approval.policyDigest ≠ binding.policyDigest
    ∨ approval.expiresAt.nanos ≤ (readings.approval approval.id).nanos

instance (readings : Readings) (binding : VerificationBinding) (approval : ApprovalBinding) :
    Decidable (unresolved readings binding approval) := by
  unfold unresolved
  infer_instance

section Authority

variable (p : Primitives) (readings : Readings) (binding : VerificationBinding)

/-- The comparison of an approval row with the signed approvals
    (lines 919-941). -/
def verifyApprovalBinding (approval : ApprovalBinding) : Result Unit :=
  match binding.evidence.statement.predicate.approvals.find? fun evidence =>
      evidence.approvalId == approval.id.toText with
  | none => .error (.validation
      s!"approved ledger decision {approval.id} is absent from signed evidence")
  | some evidence => do
    failIf (evidence.requestedEffect ≠ approval.decisionEffectType
        ∨ evidence.decisionType ≠ approval.approvalType
        ∨ approval.decisionSubject ≠ some evidence.approverSubject
        ∨ evidence.workOrderDigest ≠ binding.workOrderPayloadDigest
        ∨ evidence.candidateSha ≠ binding.evidenceCandidateSha
        ∨ evidence.policyDigest ≠ binding.policyDigest)
      (.validation s!"signed approval evidence contradicts ledger decision {approval.id}")
    let issuedAt ← evidence.issuedAt.toUtc p
    failIf (issuedAt ≠ approval.issuedAt)
      (.validation s!"signed approval evidence contradicts ledger decision {approval.id}")
    let expiresAt ← evidence.expiresAt.toUtc p
    failIf (expiresAt ≠ approval.expiresAt)
      (.validation s!"signed approval evidence contradicts ledger decision {approval.id}")

/-- `verify_approval_bindings` (lines 901-944). -/
def verifyApprovalBindings : Result Unit := do
  failIf (binding.approvals.length ≠ binding.evidence.statement.predicate.approvals.length
      ∨ ∃ approval ∈ binding.approvals, unresolved readings binding approval)
    (.validation "ledger approvals are unresolved, expired, or absent from signed evidence")
  binding.approvals.forM (verifyApprovalBinding p binding)

/-! ## `verify_static_authority` -/

/-- The comparison of the stored Work Order with its columns
    (lines 541-564). -/
def verifyStoredWorkOrder (payloadBytes : List UInt8) : Result Unit := do
  let envelopeBytes ← canonicalJson p (binding.workOrder.toValue p)
  failIf (envelopeBytes ≠ binding.workOrderExactEnvelope
      ∨ payloadBytes ≠ binding.workOrderCanonicalPayload
      ∨ (binding.workOrder.payload.toValue p.writeF64).ordered ≠ binding.workOrderPayload.ordered)
    (.persistence "stored Work Order envelope contradicts its immutable ledger projection")
  let payloadDigest ← binding.workOrder.payload.digest p
  failIf (payloadDigest ≠ binding.workOrderPayloadDigest
      ∨ binding.workOrder.schema ≠ binding.workOrderEnvelopeSchema
      ∨ binding.workOrder.payload.schema ≠ binding.workOrderSchema
      ∨ binding.workOrder.algorithm ≠ binding.workOrderAlgorithm
      ∨ binding.workOrder.keyId ≠ binding.workOrderKeyId
      ∨ binding.workOrder.signature ≠ binding.workOrderSignature
      ∨ binding.workOrder.issuedAt ≠ binding.workOrderIssuedAt
      ∨ binding.workOrder.notBefore ≠ binding.workOrderNotBefore
      ∨ binding.workOrder.expiresAt ≠ binding.workOrderExpiresAt)
    (.persistence "stored Work Order envelope contradicts its immutable ledger projection")

/-- The comparison of the stored evidence with its columns
    (lines 574-590). -/
def verifyStoredEvidence (statementBytes : List UInt8) (producedAt : DateTime) : Result Unit := do
  let envelopeBytes ← canonicalJson p (binding.evidence.toValue p)
  failIf (envelopeBytes ≠ binding.evidenceExactEnvelope
      ∨ statementBytes ≠ binding.evidenceCanonicalPayload
      ∨ (binding.evidence.statement.toValue p).ordered ≠ binding.evidencePayload.ordered
      ∨ sha256Digest p binding.evidenceCanonicalPayload ≠ binding.evidencePayloadDigest
      ∨ binding.evidence.bundleDigest ≠ binding.evidencePayloadDigest
      ∨ binding.evidence.schema ≠ binding.evidenceEnvelopeSchema
      ∨ binding.evidence.statement.predicate.schema ≠ binding.evidenceSchema
      ∨ binding.evidenceAlgorithm ≠ "EdDSA"
      ∨ binding.evidence.keyId ≠ binding.evidenceKeyId
      ∨ binding.evidence.signature ≠ binding.evidenceSignature
      ∨ producedAt ≠ binding.evidenceProducedAt)
    (.persistence "stored Runmill evidence contradicts its immutable ledger projection")

/-- The worker session, the times and the Work Order are those of the rows
    (lines 592-626). -/
@[mk_iff] structure ExactOrder (producedAt completedAt : DateTime) : Prop where
  workerGeneration : 0 < binding.workerGeneration
  workerStatus : binding.workerStatus ≠ "QUARANTINED"
  sessionStatus : binding.workerSessionStatus ≠ "REVOKED"
  session : binding.evidenceWorkerSessionId = binding.workerSessionId
  signingKey : binding.evidenceKeyId = binding.workerSessionSigningKeyId
  started : binding.workerSessionStartedAt.nanos ≤ producedAt.nanos
  notExpired : producedAt.nanos < binding.workerSessionExpiresAt.nanos
  notClosed : ∀ closedAt ∈ binding.workerSessionClosedAt, producedAt.nanos ≤ closedAt.nanos
  completed : completedAt.nanos ≤ producedAt.nanos
  runTerminal : completedAt = binding.runTerminalAt
  attemptTerminal : binding.runTerminalAt.nanos ≤ binding.attemptTerminalAt.nanos
  notBefore : binding.workOrderNotBefore.nanos ≤ completedAt.nanos
  orderNotExpired : producedAt.nanos < binding.workOrderExpiresAt.nanos
  workOrderId : binding.workOrder.payload.workOrderId = binding.workOrderId.toText
  tenantId : binding.workOrder.payload.tenantId = binding.tenantId.toText
  workItemId : binding.workOrder.payload.workItemId = binding.workItemId.toText
  attemptId : binding.workOrder.payload.attemptId = binding.attemptId.toText
  sourceSystem : binding.workOrder.payload.source.system = "linear"
  sourceExternalId : binding.workOrder.payload.source.externalId = binding.sourceExternalId
  snapshotDigest : binding.workOrder.payload.source.snapshotDigest = binding.sourceSnapshotDigest
  attemptSnapshot : binding.attemptSourceSnapshotDigest = binding.sourceSnapshotDigest
  forge : binding.workOrder.payload.repository.forge = "github"
  repository : binding.workOrder.payload.repository.repository = binding.repository
  baseRef : binding.workOrder.payload.repository.baseRef = binding.attemptBaseRef
  baseSha : binding.workOrder.payload.repository.baseSha = binding.attemptBaseSha
  policyDigest : binding.workOrder.payload.policyDigest = binding.policyDigest
  attemptPolicy : binding.attemptPolicyDigest = binding.policyDigest
  policySnapshot : binding.workOrder.payload.verification.policySnapshotDigest
    = binding.policyDigest
  closureTarget : binding.workOrder.payload.delivery.closureTarget = .pr

end Authority

instance (binding : VerificationBinding) (producedAt completedAt : DateTime) :
    Decidable (ExactOrder binding producedAt completedAt) :=
  decidable_of_iff _ (exactOrder_iff binding producedAt completedAt).symm

/-- The evidence names the rows (lines 627-640). -/
@[mk_iff] structure ExactEvidence (binding : VerificationBinding) (envelopeDigest : String) :
    Prop where
  envelopeDigest : binding.evidence.statement.predicate.workOrder.envelopeDigest = envelopeDigest
  runId : binding.evidence.statement.predicate.run.runId = binding.externalRunId
  attemptId : binding.evidence.statement.predicate.run.attemptId = binding.attemptId
  workOrderId : binding.evidence.statement.predicate.run.workOrderId = binding.workOrderId
  payloadDigest : binding.evidence.statement.predicate.workOrder.payloadDigest
    = binding.workOrderPayloadDigest
  policyDigest : binding.evidence.statement.predicate.policy.effectivePolicyDigest
    = binding.policyDigest
  forge : binding.evidence.statement.predicate.source.forge = "github"
  repository : binding.evidence.statement.predicate.source.repository = binding.repository
  baseRef : binding.evidence.statement.predicate.source.baseRef = binding.attemptBaseRef
  baseSha : binding.evidence.statement.predicate.source.baseSha = binding.attemptBaseSha
  candidateSha : binding.evidence.statement.predicate.source.candidateSha
    = binding.evidenceCandidateSha
  remoteHeadSha : binding.evidence.statement.predicate.source.remoteHeadSha
    = binding.evidenceCandidateSha
  evidenceBaseSha : binding.evidenceBaseSha = binding.attemptBaseSha
  evidenceWorkOrderDigest : binding.evidenceWorkOrderDigest = binding.workOrderPayloadDigest

instance (binding : VerificationBinding) (envelopeDigest : String) :
    Decidable (ExactEvidence binding envelopeDigest) :=
  decidable_of_iff _ (exactEvidence_iff binding envelopeDigest).symm

/-- `exact` (lines 592-646). -/
def verifyExact (p : Primitives) (binding : VerificationBinding)
    (producedAt completedAt : DateTime) : Result Unit := do
  failIf (¬ ExactOrder binding producedAt completedAt) (.validation
    ("Runmill evidence contradicts its authoritative run, Work Order, worker session, or "
      ++ "repository binding"))
  let envelopeDigest ← binding.workOrder.envelopeDigest p
  failIf (¬ ExactEvidence binding envelopeDigest) (.validation
    ("Runmill evidence contradicts its authoritative run, Work Order, worker session, or "
      ++ "repository binding"))

end VerificationBinding

/-- The signer of the worker session (lines 649-667). -/
def LedgerRows.trustedSigner (rows : LedgerRows) (key : VerifyingKey) :
    TrustedRunmillEvidenceSigner where
  keyId := rows.workerSessionSigningKeyId
  verifyingKey := key
  validFrom := rows.workerSessionStartedAt
  validUntil := rows.workerSessionClosedAt.elim rows.workerSessionExpiresAt fun closedAt =>
    if closedAt.nanos ≤ rows.workerSessionExpiresAt.nanos then closedAt
    else rows.workerSessionExpiresAt
  revoked := rows.workerSessionStatus == "REVOKED"

namespace VerificationBinding

/-- `verify_static_authority` (lines 526-678). -/
def verifyStaticAuthority (p : Primitives) (readings : Readings) (binding : VerificationBinding)
    (configuredKeyId : String) (configuredKey : VerifyingKey) : Checked Unit := do
  let payloadBytes ← lift (canonicalJson p (binding.workOrder.payload.toValue p.writeF64))
  let statementBytes ← lift (canonicalJson p (binding.evidence.statement.toValue p))
  let producedAt ← lift (binding.evidence.issuedAt.toUtc p)
  let completedAt ← lift (binding.evidence.statement.predicate.run.completedAt.toUtc p)
  lift (binding.verifyStoredWorkOrder p payloadBytes)
  Exec.failIf (binding.workOrderKeyId ≠ configuredKeyId) (.crypto
    s!"Work Order key {binding.workOrderKeyId} is not the configured ASF signing authority")
  lift (binding.workOrder.verifyIntegrity p configuredKey)
  lift (binding.verifyStoredEvidence p statementBytes producedAt)
  lift (binding.verifyExact p producedAt completedAt)
  let signerKey ← lift (decodeVerifyingKey p binding.workerSessionSigningPublicKey)
  let preflightObservedAt ← lift (okOr (.validation "evidence preflight clock bound overflowed")
    (checkedAddSeconds readings.preflight providerClockSkewSeconds))
  binding.evidence.verifySignedIntegrity p (binding.trustedSigner signerKey) preflightObservedAt
  lift (scopeAuthority binding.workOrder.payload).validate
  Exec.failIf (binding.evidence.statement.predicate.source.changedPaths.any fun path =>
      !(scopeAuthority binding.workOrder.payload).allowsPath path)
    (.validation "Runmill evidence contains a changed path outside the immutable Work Order scope")
  lift (binding.verifyApprovalBindings p readings)
  lift (rejectSensitiveFields binding.evidencePayload)

/-! ## `verify_artifact_metadata` -/

/-- A stored artifact that contradicts its signed entry
    (lines 715-730). -/
def contradicts (readings : Readings) (expected : RunmillEvidenceArtifact)
    (stored : ArtifactBinding) : Prop :=
  stored.byteSize < 0 ∨ stored.manifestKind ≠ expected.kind.text
    ∨ stored.digest ≠ expected.digest ∨ stored.byteSize ≠ expected.sizeBytes
    ∨ stored.mediaType ≠ expected.mediaType
    ∨ toAsciiLowercase stored.retentionClass ≠ expected.retentionClass.text
    ∨ stored.objectKey ≠ expected.locationRef
    ∨ (readings.artifactCreated expected.artifactId).nanos + providerClockSkewSeconds * 1000000000
      < stored.createdAt.nanos
    ∨ (∃ expiresAt ∈ stored.expiresAt,
      expiresAt.nanos ≤ (readings.artifactExpires expected.artifactId).nanos)
    ∨ isBlank stored.objectKey ∨ isBlank stored.relationship ∨ stored.id.isNil

instance (readings : Readings) (expected : RunmillEvidenceArtifact) (stored : ArtifactBinding) :
    Decidable (contradicts readings expected stored) := by
  unfold contradicts
  infer_instance

section Evidence

variable (p : Primitives) (readings : Readings) (binding : VerificationBinding)

/-- The comparison of a signed artifact with the rows
    (lines 686-735). -/
def verifyArtifact (expected : RunmillEvidenceArtifact) : Result Unit :=
  match binding.artifacts.find? fun stored => stored.manifestArtifactId == expected.artifactId with
  | none => .error (.validation
      s!"signed Runmill artifact {expected.digest} is absent from durable storage metadata")
  | some stored => failIf (contradicts readings expected stored) (.validation
      s!"durable artifact metadata contradicts signed artifact {expected.digest}")

/-- `verify_artifact_metadata` (lines 680-760). -/
def verifyArtifactMetadata : Result Unit := do
  let predicate := binding.evidence.statement.predicate
  failIf (predicate.artifacts.length ≠ binding.artifacts.length)
    (.validation "not every signed Runmill artifact has one durable ledger binding")
  predicate.artifacts.forM (binding.verifyArtifact readings)
  failIf (predicate.workOrder.envelopeArtifactDigest ≠ predicate.workOrder.envelopeDigest
      ∨ predicate.policy.effectivePolicyArtifactDigest ≠ predicate.policy.effectivePolicyDigest
      ∨ predicate.source.normalizedDiffArtifactDigest ≠ predicate.source.normalizedDiffDigest
      ∨ [predicate.workOrder.envelopeArtifactDigest, predicate.policy.effectivePolicyArtifactDigest,
          predicate.source.normalizedDiffArtifactDigest].any fun required =>
        !predicate.artifacts.any fun artifact => artifact.digest == required)
    (.validation "primary evidence artifacts are not digest-identical to their signed subjects")

/-! ## `verify_complete_evidence` -/

/-- `reviewer_principal` (lines 884-899). -/
def reviewerPrincipal (role : RunmillProviderRole) : Result String :=
  match binding.evidence.statement.predicate.runtime.providers.filter
      fun provider => provider.role == role with
  | [] => .error (.validation s!"Runmill evidence is missing the {role.debug} identity")
  | [provider] => .ok provider.principalId
  | _ => .error (.validation s!"Runmill evidence repeats the {role.debug} identity")

/-- The expectation (lines 843-879). The changed paths, the tree, the
    diff, the head and both reviewers are taken from the evidence. -/
def expectation (signerKey : VerifyingKey)
    (envelopeDigest localReviewerPrincipal pullRequestReviewerPrincipal : String)
    (observed : PullRequestEvidence) (observedAt : DateTime) : RunmillEvidenceExpectation where
  trustedSigner := binding.trustedSigner signerKey
  observedAt := observedAt
  runId := binding.externalRunId
  attemptId := binding.attemptId
  workOrderId := binding.workOrderId
  workOrderKeyId := binding.workOrderKeyId
  workOrderEnvelopeDigest := envelopeDigest
  workOrderPayloadDigest := binding.workOrderPayloadDigest
  effectivePolicyDigest := binding.policyDigest
  forge := "github"
  repository := binding.repository
  baseRef := binding.attemptBaseRef
  baseSha := binding.attemptBaseSha
  candidateSha := binding.evidenceCandidateSha
  treeDigest := binding.evidence.statement.predicate.source.treeDigest
  normalizedDiffDigest := binding.evidence.statement.predicate.source.normalizedDiffDigest
  changedPaths := binding.evidence.statement.predicate.source.changedPaths.toFinset
  requiredLocalChecks := binding.workOrder.payload.verification.requiredLocalCheckIds.toFinset
  requiredCiContexts := binding.workOrder.payload.verification.requiredRemoteChecks.toFinset
  localReviewer := some ⟨localReviewerPrincipal, binding.workOrder.payload.identities.localReviewer⟩
  pullRequestReviewer :=
    some ⟨pullRequestReviewerPrincipal, binding.workOrder.payload.identities.prReviewer⟩
  pullRequestHeadRef := binding.evidence.statement.predicate.delivery.pullRequest.headRef
  independentlyObservedPullRequest := observed

/-- `verify_complete_evidence` (lines 786-882). -/
def verifyCompleteEvidence (configuredKeyId : String) (configuredKey : VerifyingKey)
    (observed : PullRequestEvidence) (observationRequestedAt observedAt : DateTime) :
    Checked Unit := do
  binding.verifyStaticAuthority p readings configuredKeyId configuredKey
  let latestPermitted ← lift (okOr (.validation "forge clock bound overflowed")
    (checkedAddSeconds readings.latest providerClockSkewSeconds))
  let earliestPermitted ← lift (okOr (.validation "forge freshness bound overflowed")
    (checkedAddSeconds observationRequestedAt (-providerClockSkewSeconds)))
  Exec.failIf (observedAt.nanos < binding.evidenceProducedAt.nanos
      ∨ observedAt.nanos < earliestPermitted.nanos ∨ latestPermitted.nanos < observedAt.nanos)
    (.validation "forge observation time is outside the evidence verification window")
  let signerKey ← lift (decodeVerifyingKey p binding.workerSessionSigningPublicKey)
  let localReviewerPrincipal ← lift (binding.reviewerPrincipal .localReviewer)
  let pullRequestReviewerPrincipal ← lift (binding.reviewerPrincipal .pullRequestReviewer)
  validateIdentifier binding.externalRunId "Runmill run id"
  let envelopeDigest ← lift (binding.workOrder.envelopeDigest p)
  let _ ← binding.evidence.verify p (binding.expectation signerKey envelopeDigest
    localReviewerPrincipal pullRequestReviewerPrincipal observed observedAt)
  return ()

end Evidence

end VerificationBinding

end Asf.Evidence
