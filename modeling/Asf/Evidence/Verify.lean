import Asf.Evidence.Shape

/-!
# Verifying signed evidence (`src/contracts/runmill_evidence.rs`)

`verify_signed_integrity` and `verify`: the signature, the manifest of artifacts, and
the comparison of a bundle with an expectation.

Results:

* `validateExpectation_eq`: the expectation is checked as in
  `Contracts.validateExpectation`.
-/

namespace Asf.Evidence

open Lib Contracts
open Exec (expect lift)

/-! ## What evidence is compared with -/

/-- `PullRequestEvidence` (evidence.rs:52-62). -/
structure PullRequestEvidence where
  repository : String
  number : ℕ
  (url baseSha headSha : String)
  (requiredCiContexts successfulCiContexts : Finset String)
deriving DecidableEq

/-- `TrustedRunmillEvidenceSigner` (lines 584-591). -/
structure TrustedRunmillEvidenceSigner where
  keyId : String
  verifyingKey : VerifyingKey
  (validFrom validUntil : DateTime)
  revoked : Bool
deriving DecidableEq

/-- `RunmillEvidenceExpectation` (lines 599-624). -/
structure RunmillEvidenceExpectation where
  trustedSigner : TrustedRunmillEvidenceSigner
  observedAt : DateTime
  runId : String
  (attemptId workOrderId : Uuid)
  (workOrderKeyId workOrderEnvelopeDigest workOrderPayloadDigest effectivePolicyDigest : String)
  (forge repository baseRef baseSha candidateSha treeDigest normalizedDiffDigest : String)
  (changedPaths requiredLocalChecks requiredCiContexts : Finset String)
  (localReviewer pullRequestReviewer : Option AuthorizedRunmillReviewer)
  pullRequestHeadRef : String
  independentlyObservedPullRequest : PullRequestEvidence
deriving DecidableEq

namespace RunmillEvidenceExpectation

/-- The fields that `validate_expectation` reads. -/
def checked (expectation : RunmillEvidenceExpectation) : Contracts.RunmillEvidenceExpectation where
  trustedSignerKeyId := expectation.trustedSigner.keyId
  runId := expectation.runId
  workOrderKeyId := expectation.workOrderKeyId
  workOrderEnvelopeDigest := expectation.workOrderEnvelopeDigest
  workOrderPayloadDigest := expectation.workOrderPayloadDigest
  effectivePolicyDigest := expectation.effectivePolicyDigest
  forge := expectation.forge
  repository := expectation.repository
  baseRef := expectation.baseRef
  baseSha := expectation.baseSha
  candidateSha := expectation.candidateSha
  treeDigest := expectation.treeDigest
  normalizedDiffDigest := expectation.normalizedDiffDigest
  changedPaths := expectation.changedPaths
  requiredLocalChecks := expectation.requiredLocalChecks
  requiredCiContexts := expectation.requiredCiContexts
  localReviewer := expectation.localReviewer
  pullRequestReviewer := expectation.pullRequestReviewer
  pullRequestHeadRef := expectation.pullRequestHeadRef

/-- The reviewer that is authorized for a stage (lines 1227-1230). -/
def reviewer (expectation : RunmillEvidenceExpectation) :
    RunmillReviewStage → Option AuthorizedRunmillReviewer
  | .localStage => expectation.localReviewer
  | .pullRequest => expectation.pullRequestReviewer

end RunmillEvidenceExpectation

section Verification

variable (p : Primitives) (bundle : SignedRunmillEvidenceBundle)
  (predicate : RunmillEvidencePredicate) (expectation : RunmillEvidenceExpectation)
  (providers : List RunmillProviderAttribution) (trusted : TrustedRunmillEvidenceSigner)
  (observedAt : DateTime)

/-- The role of a stage's reviewer (lines 1234-1237). -/
def RunmillReviewStage.role : RunmillReviewStage → RunmillProviderRole
  | .localStage => .localReviewer
  | .pullRequest => .pullRequestReviewer

/-- `validate_expectation` (lines 1492-1544). -/
def validateExpectation : Checked Unit := do
  validateIdentifier expectation.runId "Runmill run id"
  validateIdentifier expectation.trustedSigner.keyId "trusted worker key id"
  validateIdentifier expectation.workOrderKeyId "trusted Work Order key id"
  lift (validateDigest expectation.workOrderEnvelopeDigest "expected Work Order envelope")
  lift (validateDigest expectation.workOrderPayloadDigest "expected Work Order payload")
  lift (validateDigest expectation.effectivePolicyDigest "expected effective policy")
  lift (validateDigest expectation.treeDigest "expected tree")
  lift (validateDigest expectation.normalizedDiffDigest "expected normalized diff")
  validateIdentifier expectation.forge "expected forge"
  lift (validateRepository expectation.repository)
  validateBranchRef expectation.baseRef "expected base ref"
  validateBranchRef expectation.pullRequestHeadRef "expected PR head ref"
  lift (validateGitSha expectation.baseSha "expected base SHA")
  lift (validateGitSha expectation.candidateSha "expected candidate SHA")
  (ascending expectation.changedPaths).forM fun path => lift (validatePath path)
  (ascending expectation.requiredLocalChecks ++ ascending expectation.requiredCiContexts).forM
    fun value => validateReference value "expected check requirement"
  (expectation.localReviewer.toList ++ expectation.pullRequestReviewer.toList).forM
    fun reviewer => do
      validateIdentifier reviewer.principalId "authorized reviewer principal"
      validateIdentifier reviewer.profileId "authorized reviewer profile"

/-- The check is the one of `Contracts.validateExpectation`. -/
theorem validateExpectation_eq :
    validateExpectation expectation = lift (Contracts.validateExpectation expectation.checked) := by
  simp only [validateExpectation, Contracts.validateExpectation, Exec.lift_bind, Exec.lift_forM,
    validateIdentifier_eq, validateReference_eq, validateBranchRef_eq,
    AuthorizedRunmillReviewer.validate, RunmillEvidenceExpectation.checked]

/-! ## The signature and the manifest -/

/-- `verify_trusted_signature` (lines 972-1001). -/
def verifyTrustedSignature : Result Unit := do
  failIf (trusted.revoked ∨ trusted.keyId ≠ bundle.keyId
      ∨ trusted.validUntil.nanos ≤ trusted.validFrom.nanos)
    (.crypto "Runmill evidence signer is unknown, revoked, or contradictory")
  let issuedAt ← bundle.issuedAt.toUtc p
  failIf (issuedAt.nanos < trusted.validFrom.nanos ∨ trusted.validUntil.nanos ≤ issuedAt.nanos
      ∨ observedAt.nanos < issuedAt.nanos)
    (.crypto "Runmill evidence signer was not trusted at bundle issuance")
  let encoded ← okOr (.crypto "Runmill evidence signature prefix is invalid")
    (afterStart "base64url:" bundle.signature)
  let message ← bundle.unsignedCanonicalBytes p
  verifySignature p trusted.verifyingKey message encoded

/-- The loop over the manifest (lines 1358-1381), with the sets
    `artifact_ids` and `artifact_digests`; it leaves `artifact_digests`. -/
def manifestDigests (ids digests : List String) : List RunmillEvidenceArtifact →
    Checked (List String)
  | [] => .ok digests
  | artifact :: rest => do
    Exec.failIf (artifact.artifactId ∈ ids)
      (.validation "Runmill artifact manifest contains a duplicate id")
    let hex ← expect "validated digest prefix" (afterStart "sha256:" artifact.digest)
    Exec.failIf (artifact.locationRef ≠ "cas://sha256/" ++ hex)
      (.validation "Runmill artifact location is not bound to its digest")
    Exec.failIf (artifact.digest ∈ digests)
      (.validation "Runmill artifact manifest contains a duplicate digest")
    manifestDigests (ids ++ [artifact.artifactId]) (digests ++ [artifact.digest]) rest

/-- What the predicate refers to in its manifest, each with the kind that is asked for
    (lines 1443-1484). A cancellation is not among them. -/
def RunmillEvidencePredicate.references : List (String × RunmillArtifactKind) :=
  [(predicate.workOrder.envelopeArtifactDigest, .workOrderEnvelope),
    (predicate.policy.effectivePolicyArtifactDigest, .effectivePolicy),
    (predicate.source.normalizedDiffArtifactDigest, .normalizedDiff),
    (predicate.runtime.runtimeManifestDigest, .runtimeManifest),
    (predicate.delivery.pullRequest.evidenceDigest, .sideEffect)]
    ++ predicate.roleOutcomes.map (fun outcome => (outcome.evidenceDigest, .agentOutcome))
    ++ predicate.verification.localChecks.map (fun check => (check.evidenceDigest, .verification))
    ++ predicate.verification.ciContexts.map
      (fun context => (context.evidenceDigest, .ciObservation))
    ++ predicate.reviews.flatMap
      (fun review => [(review.findingsDigest, .review), (review.evidenceDigest, .review)])
    ++ predicate.sideEffects.map (fun effect => (effect.evidenceDigest, .sideEffect))
    ++ predicate.approvals.map (fun approval => (approval.evidenceDigest, .approval))

/-- `has_kind` (lines 1437-1442). -/
def RunmillEvidencePredicate.hasKind (digest : String) (kind : RunmillArtifactKind) : Bool :=
  predicate.artifacts.any fun artifact => artifact.digest == digest && artifact.kind == kind

/-- `verify_artifact_references` (lines 1355-1490). -/
def verifyArtifactReferences : Checked Unit := do
  let digests ← manifestDigests [] [] predicate.artifacts
  Exec.failIf ((predicate.references.map Prod.fst
      ++ predicate.cancellation.toList.map (·.evidenceDigest)).any
        fun reference => !digests.contains reference)
    (.validation "Runmill evidence references an artifact absent from its manifest")
  Exec.failIf (predicate.references.any
      fun reference => !predicate.hasKind reference.1 reference.2)
    (.validation "Runmill evidence artifact kinds do not match their signed semantic references")

/-- `verify_signed_integrity` (lines 637-652). -/
def SignedRunmillEvidenceBundle.verifySignedIntegrity : Checked Unit := do
  bundle.validateShape p
  validateIdentifier trusted.keyId "trusted worker key id"
  let canonical ← lift (canonicalJson p (bundle.statement.toValue p))
  Exec.failIf (sha256Digest p canonical ≠ bundle.bundleDigest)
    (.crypto "Runmill evidence bundle digest does not match its JCS statement")
  lift (verifyTrustedSignature p bundle trusted observedAt)
  verifyArtifactReferences bundle.statement.predicate

/-! ## The comparison with the expectation -/

/-- `{role:?}` -/
def RunmillProviderRole.debug : RunmillProviderRole → String
  | .implementer => "Implementer"
  | .localReviewer => "LocalReviewer"
  | .pullRequestReviewer => "PullRequestReviewer"

/-- `unique_provider_roles` (lines 1546-1558). -/
def uniqueProviderRoles : Checked (List RunmillProviderAttribution) :=
  collect (·.role) (.error (.validation "Runmill providers contain a duplicate role"))
    (fun _ => .ok ()) [] providers

/-- `providers.get(&role)`. -/
def providerOf (role : RunmillProviderRole) : Option RunmillProviderAttribution :=
  providers.find? fun provider => provider.role == role

/-- `outcomes.get(&role).is_none_or(|outcome| outcome.outcome != conclusion)`. -/
def lacksOutcome (outcomes : List RunmillRoleOutcome) (role : RunmillProviderRole)
    (conclusion : RunmillRoleOutcomeConclusion) : Bool :=
  (outcomes.find? fun outcome => outcome.role == role).all fun outcome =>
    outcome.outcome != conclusion

/-- The check of a reviewer's provider (lines 1106-1115). -/
def verifyReviewerProvider (implementer : RunmillProviderAttribution) (role : RunmillProviderRole)
    (reviewer : AuthorizedRunmillReviewer) : Checked Unit := do
  let provider ← expect "reviewer presence checked" (providerOf providers role)
  Exec.failIf (provider.principalId ≠ reviewer.principalId
      ∨ provider.principalId = implementer.principalId)
    (.validation "Runmill reviewer provider is not the independent authorized principal")

/-- `verify_providers_and_outcomes` (lines 1077-1148). -/
def verifyProvidersAndOutcomes : Checked Unit := do
  let providers ← uniqueProviderRoles predicate.runtime.providers
  [RunmillProviderRole.implementer, .localReviewer, .pullRequestReviewer].forM fun role =>
    Exec.failIf (providerOf providers role = none)
      (.validation s!"Runmill evidence is missing {role.debug} provider attribution")
  let implementer ← expect "implementer presence checked" (providerOf providers .implementer)
  [(RunmillProviderRole.localReviewer, expectation.localReviewer),
      (.pullRequestReviewer, expectation.pullRequestReviewer)].forM fun entry =>
    entry.2.toList.forM (verifyReviewerProvider providers implementer entry.1)
  let outcomes ← collect (·.role)
    (.error (.validation "Runmill role outcomes contain a duplicate role"))
    (fun outcome => Exec.failIf (outcome.candidateSha ≠ expectation.candidateSha)
      (.validation "Runmill role outcome names a different candidate"))
    [] predicate.roleOutcomes
  Exec.failIf (lacksOutcome outcomes .implementer .completed
      ∨ expectation.localReviewer.isSome ∧ lacksOutcome outcomes .localReviewer .passed
      ∨ expectation.pullRequestReviewer.isSome ∧ lacksOutcome outcomes .pullRequestReviewer .passed)
    (.validation "Runmill role outcomes do not prove completed implementation and required reviews")

/-- The check of a local check (lines 1161-1170). -/
def verifyLocalCheck (check : RunmillLocalCheckEvidence) : Checked Unit := do
  Exec.failIf (check.candidateSha ≠ expectation.candidateSha
      ∨ check.treeDigest ≠ expectation.treeDigest ∨ check.conclusion ≠ .success
      ∨ check.coverage ≠ .complete)
    (.validation "Runmill local check is not a complete success on the exact candidate tree")
  let startedAt ← lift (check.startedAt.toUtc p)
  let completedAt ← lift (check.completedAt.toUtc p)
  Exec.failIf (completedAt.nanos < startedAt.nanos)
    (.validation "Runmill local check is not a complete success on the exact candidate tree")

/-- `verify_local_checks` (lines 1150-1182). -/
def verifyLocalChecks : Checked Unit := do
  let checks ← collect (·.checkId)
    (.error (.validation "Runmill local checks contain a duplicate id"))
    (verifyLocalCheck p expectation) [] predicate.verification.localChecks
  Exec.failIf (¬ ∀ required ∈ expectation.requiredLocalChecks, required ∈ checks.map (·.checkId))
    (.validation "Runmill evidence is missing a required local check")

/-- `verify_ci_contexts` (lines 1184-1213). -/
def verifyCiContexts : Checked Unit := do
  let contexts ← collect (·.context)
    (.error (.validation "Runmill CI evidence contains a duplicate context"))
    (fun context => Exec.failIf
      (context.candidateSha ≠ expectation.candidateSha ∨ context.conclusion ≠ .success)
      (.validation "Runmill CI context is not a non-skipped success on the exact candidate"))
    [] predicate.verification.ciContexts
  Exec.failIf (¬ ∀ required ∈ expectation.requiredCiContexts, required ∈ contexts.map (·.context))
    (.validation "Runmill evidence is missing a required CI context")

/-- The check of a review (lines 1227-1253). -/
def verifyReview (review : RunmillReviewEvidence) : Checked Unit := do
  let authorized ← lift (okOr (.validation "Runmill evidence contains an unauthorized review")
    (expectation.reviewer review.stage))
  let provider ← expect "all provider roles checked before review validation"
    (providerOf providers review.stage.role)
  Exec.failIf (¬ review.independent ∨ review.reviewerPrincipal ≠ authorized.principalId
      ∨ review.reviewerProfile ≠ authorized.profileId
      ∨ provider.principalId ≠ review.reviewerPrincipal
      ∨ review.candidateSha ≠ expectation.candidateSha
      ∨ review.policyDigest ≠ expectation.effectivePolicyDigest ∨ review.verdict ≠ .pass)
    (.validation
      "Runmill review is not an independent authorized pass on exact policy and candidate")

/-- `verify_reviews` (lines 1215-1272). -/
def verifyReviews : Checked Unit := do
  let providers ← uniqueProviderRoles predicate.runtime.providers
  let _ ← collect (·.reviewId) (.error (.validation "Runmill reviews contain a duplicate id"))
    (verifyReview expectation providers) [] predicate.reviews
  [(RunmillReviewStage.localStage, expectation.localReviewer.isSome),
      (.pullRequest, expectation.pullRequestReviewer.isSome)].forM fun entry =>
    Exec.failIf (entry.2 ∧ ¬ predicate.reviews.any fun review => review.stage == entry.1)
      (.validation "Runmill evidence is missing an authorized required review")

/-- `verify_side_effects` (lines 1274-1303). -/
def verifySideEffects : Checked Unit := do
  let _ ← collect (·.effectKey)
    (.error (.validation "Runmill side effect is duplicate or names a different candidate"))
    (fun effect => Exec.failIf (effect.candidateSha ≠ expectation.candidateSha)
      (.validation "Runmill side effect is duplicate or names a different candidate"))
    [] predicate.sideEffects
  [RunmillSideEffectKind.branchPush, .pullRequestCreate].forM fun required =>
    Exec.failIf (¬ predicate.sideEffects.any fun effect => effect.kind == required)
      (.validation "Runmill evidence is missing a required confirmed delivery effect")

/-- The check of an approval (lines 1312-1321). -/
def verifyApproval (approval : RunmillApprovalEvidence) : Checked Unit := do
  Exec.failIf (approval.workOrderDigest ≠ expectation.workOrderPayloadDigest
      ∨ approval.candidateSha ≠ expectation.candidateSha
      ∨ approval.policyDigest ≠ expectation.effectivePolicyDigest)
    (.validation "Runmill approval is duplicate, stale, expired, or incorrectly bound")
  let issuedAt ← lift (approval.issuedAt.toUtc p)
  let expiresAt ← lift (approval.expiresAt.toUtc p)
  Exec.failIf (expiresAt.nanos ≤ issuedAt.nanos ∨ expiresAt.nanos ≤ expectation.observedAt.nanos)
    (.validation "Runmill approval is duplicate, stale, expired, or incorrectly bound")

/-- `verify_approvals` (lines 1305-1324). -/
def verifyApprovals : Checked Unit := do
  let _ ← collect (·.approvalId)
    (.error (.validation "Runmill approval is duplicate, stale, expired, or incorrectly bound"))
    (verifyApproval p expectation) [] predicate.approvals
  return ()

/-- `verify_pull_request` (lines 1326-1353). -/
def verifyPullRequest : Checked Unit :=
  let delivery := predicate.delivery.pullRequest
  let observed := expectation.independentlyObservedPullRequest
  Exec.failIf (delivery.forge ≠ expectation.forge ∨ delivery.repository ≠ expectation.repository
      ∨ delivery.repository ≠ observed.repository ∨ delivery.number ≠ observed.number
      ∨ delivery.url ≠ observed.url ∨ delivery.headRef ≠ expectation.pullRequestHeadRef
      ∨ delivery.baseRef ≠ expectation.baseRef ∨ delivery.headSha ≠ expectation.candidateSha
      ∨ observed.baseSha ≠ expectation.baseSha ∨ observed.headSha ≠ expectation.candidateSha
      ∨ observed.requiredCiContexts ≠ expectation.requiredCiContexts
      ∨ ¬ expectation.requiredCiContexts ⊆ observed.successfulCiContexts)
    (.validation "Runmill PR delivery does not match ASF's independent exact-candidate observation")

/-- `same_values` (lines 1560-1562). -/
def sameValues (actual : List String) (expected : Finset String) : Bool :=
  actual.length == expected.card && actual.all fun value => decide (value ∈ expected)

/-- The fields that name what the evidence is about (lines 1010-1031). -/
def verifySource : Checked Unit :=
  Exec.failIf (predicate.run.runId ≠ expectation.runId
      ∨ predicate.run.attemptId ≠ expectation.attemptId
      ∨ predicate.run.workOrderId ≠ expectation.workOrderId
      ∨ predicate.workOrder.signature.keyId ≠ expectation.workOrderKeyId
      ∨ predicate.workOrder.envelopeDigest ≠ expectation.workOrderEnvelopeDigest
      ∨ predicate.workOrder.payloadDigest ≠ expectation.workOrderPayloadDigest
      ∨ predicate.policy.effectivePolicyDigest ≠ expectation.effectivePolicyDigest
      ∨ predicate.source.forge ≠ expectation.forge
      ∨ predicate.source.repository ≠ expectation.repository
      ∨ predicate.source.baseRef ≠ expectation.baseRef
      ∨ predicate.source.baseSha ≠ expectation.baseSha
      ∨ predicate.source.candidateSha ≠ expectation.candidateSha
      ∨ predicate.source.remoteHeadSha ≠ expectation.candidateSha
      ∨ predicate.source.treeDigest ≠ expectation.treeDigest
      ∨ predicate.source.normalizedDiffDigest ≠ expectation.normalizedDiffDigest
      ∨ predicate.source.mergeSha.isSome)
    (.validation
      "Runmill evidence is not bound to the expected run, Work Order, policy, and candidate")

/-- The requirements that the evidence repeats (lines 1040-1056). -/
def verifyRequirements : Checked Unit :=
  Exec.failIf (¬ sameValues predicate.source.changedPaths expectation.changedPaths
      ∨ ¬ sameValues predicate.policy.requiredLocalChecks expectation.requiredLocalChecks
      ∨ ¬ sameValues predicate.policy.requiredCiContexts expectation.requiredCiContexts
      ∨ predicate.policy.requireLocalReview ≠ expectation.localReviewer.isSome
      ∨ predicate.policy.requirePullRequestReview ≠ expectation.pullRequestReviewer.isSome)
    (.validation "Runmill evidence requirements do not match authoritative policy")

/-- `verify_bindings` (lines 1003-1075). -/
def verifyBindings : Checked Unit := do
  verifySource bundle.statement.predicate expectation
  let subject ← Exec.index bundle.statement.subject 0
  Exec.failIf (subject.name ≠ s!"{expectation.forge}:{expectation.repository}"
      ∨ subject.digest.sha1 ≠ expectation.candidateSha)
    (.validation "in-toto subject is not the exact expected candidate")
  verifyRequirements bundle.statement.predicate expectation
  Exec.failIf bundle.statement.predicate.cancellation.isSome
    (.validation "cancelled Runmill evidence cannot satisfy PR delivery")
  verifyProvidersAndOutcomes bundle.statement.predicate expectation
  verifyLocalChecks p bundle.statement.predicate expectation
  verifyCiContexts bundle.statement.predicate expectation
  verifyReviews bundle.statement.predicate expectation
  verifySideEffects bundle.statement.predicate expectation
  verifyApprovals p bundle.statement.predicate expectation
  verifyPullRequest bundle.statement.predicate expectation
  let issuedAt ← lift (bundle.issuedAt.toUtc p)
  let completedAt ← lift (bundle.statement.predicate.run.completedAt.toUtc p)
  Exec.failIf (issuedAt.nanos < completedAt.nanos)
    (.validation "Runmill evidence bundle predates run completion")

/-- `ValidatedRunmillEvidence` (lines 626-632). -/
structure ValidatedRunmillEvidence where
  (bundleDigest runId candidateSha workerKeyId : String)
deriving DecidableEq

/-- `verify` (lines 654-667). -/
def SignedRunmillEvidenceBundle.verify : Checked ValidatedRunmillEvidence := do
  validateExpectation expectation
  bundle.verifySignedIntegrity p expectation.trustedSigner expectation.observedAt
  verifyBindings p bundle expectation
  return ⟨bundle.bundleDigest, bundle.statement.predicate.run.runId,
    bundle.statement.predicate.source.candidateSha, bundle.keyId⟩

end Verification

end Asf.Evidence
