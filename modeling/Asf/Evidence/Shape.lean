import Asf.Evidence.Bundle

/-!
# The shape of signed evidence (`src/contracts/runmill_evidence.rs`)

`validate_shape` and what it calls, and signing.

Results:

* `validateShape_eq_ok_iff`: what holds of a bundle of the right shape
  (`SignedRunmillEvidenceBundle.Valid`).
* `validateShape_noPanic`: the check does not panic.
-/

namespace Asf.Evidence

open Lib Contracts
open Exec (lift)

variable {time : RunmillEvidenceTimestamp} {entries : List (String × String)}
  {source : RunmillSourceEvidence} {runtime : RunmillRuntimeEvidence}
  {outcomes : List RunmillRoleOutcome} {verification : RunmillVerificationEvidence}
  {reviews : List RunmillReviewEvidence} {effects : List RunmillSideEffectEvidence}
  {approvals : List RunmillApprovalEvidence} {cancellation : RunmillCancellationEvidence}
  {delivery : RunmillDeliveryEvidence} {artifacts : List RunmillEvidenceArtifact}
  {predicate : RunmillEvidencePredicate} {statement : RunmillEvidenceStatement}
  {bundle : SignedRunmillEvidenceBundle} (approval : RunmillApprovalEvidence)

/-- `RUNMILL_SIGNED_EVIDENCE_SCHEMA_V1` (line 18). -/
def runmillSignedEvidenceSchemaV1 : String := "asf.signed-evidence/v1"

/-- `RUNMILL_EVIDENCE_PREDICATE_SCHEMA_V1` (line 19). -/
def runmillEvidencePredicateSchemaV1 : String := "asf.evidence-bundle/v1"

/-- `IN_TOTO_STATEMENT_V1` (line 20). -/
def inTotoStatementV1 : String := "https://in-toto.io/Statement/v1"

/-- `RUNMILL_EVIDENCE_PREDICATE_TYPE_V1` (lines 21-22). -/
def runmillEvidencePredicateTypeV1 : String := "https://runmill.dev/attestations/asf-evidence/v1"

/-- `MAX_SAFE_JSON_INTEGER` (line 39). -/
def maxSafeJsonInteger : ℕ := 9007199254740991

/-! ## The checks -/

/-- `time.to_utc()?;` -/
def validateTime (p : Primitives) (time : RunmillEvidenceTimestamp) : Checked Unit := do
  let _ ← lift (time.toUtc p)
  return ()

/-- `for (label, digest) in [...] { validate_digest(digest, label)?; }` -/
def validateDigests (entries : List (String × String)) : Checked Unit :=
  entries.forM fun entry => lift (validateDigest entry.2 entry.1)

/-- `validate_runtime_shape` (lines 783-796). -/
def validateRuntimeShape (runtime : RunmillRuntimeEvidence) : Checked Unit := do
  Exec.failIf (3 < runtime.providers.length) (.validation "too many Runmill provider attributions")
  runtime.providers.forM fun provider => do
    validateIdentifier provider.provider "provider"
    validateReference provider.model "provider model"
    validateIdentifier provider.principalId "provider principal"
    validateIdentifier provider.leaseId "provider lease"

/-- `validate_role_outcomes_shape` (lines 798-807). -/
def validateRoleOutcomesShape (outcomes : List RunmillRoleOutcome) : Checked Unit := do
  Exec.failIf (3 < outcomes.length) (.validation "too many Runmill role outcomes")
  outcomes.forM fun outcome => do
    lift (validateGitSha outcome.candidateSha "role outcome candidate")
    lift (validateDigest outcome.evidenceDigest "role outcome evidence")

/-- The digests of a local check with their labels (lines 820-826). -/
def RunmillLocalCheckEvidence.digests (check : RunmillLocalCheckEvidence) :
    List (String × String) :=
  [("local check tree", check.treeDigest), ("local check command", check.commandDigest),
    ("local check toolchain", check.toolchainDigest),
    ("local check sandbox", check.sandboxProfileDigest),
    ("local check evidence", check.evidenceDigest)]

/-- `validate_verification_shape` (lines 809-840). -/
def validateVerificationShape (p : Primitives) (verification : RunmillVerificationEvidence) :
    Checked Unit := do
  Exec.failIf (256 < verification.localChecks.length ∨ 256 < verification.ciContexts.length)
    (.validation "too many Runmill verification records")
  verification.localChecks.forM fun check => do
    validateReference check.checkId "local check id"
    lift (validateGitSha check.candidateSha "local check candidate")
    validateDigests check.digests
    validateIdentifier check.executorId "local check executor"
    validateTime p check.startedAt
    validateTime p check.completedAt
  verification.ciContexts.forM fun context => do
    validateReference context.context "CI context"
    lift (validateGitSha context.candidateSha "CI candidate")
    validateTime p context.observedAt
    lift (validateDigest context.evidenceDigest "CI evidence")

/-- `validate_reviews_shape` (lines 842-861). -/
def validateReviewsShape (reviews : List RunmillReviewEvidence) : Checked Unit := do
  Exec.failIf (16 < reviews.length) (.validation "too many Runmill review records")
  reviews.forM fun review => do
    validateIdentifier review.reviewId "review id"
    validateIdentifier review.reviewerPrincipal "reviewer principal"
    validateIdentifier review.reviewerProfile "reviewer profile"
    Exec.failIf (¬ review.independent)
      (.validation "Runmill review evidence must assert independence")
    lift (validateGitSha review.candidateSha "review candidate")
    lift (validateDigest review.policyDigest "review policy")
    lift (validateDigest review.findingsDigest "review findings")
    lift (validateDigest review.evidenceDigest "review evidence")

/-- The digests of a side effect with their labels (lines 870-875). -/
def RunmillSideEffectEvidence.digests (effect : RunmillSideEffectEvidence) :
    List (String × String) :=
  [("side-effect intent", effect.intentDigest),
    ("side-effect observation", effect.observationDigest),
    ("side-effect confirmation", effect.confirmationDigest),
    ("side-effect evidence", effect.evidenceDigest)]

/-- `validate_side_effects_shape` (lines 863-883). -/
def validateSideEffectsShape (effects : List RunmillSideEffectEvidence) : Checked Unit := do
  Exec.failIf (1024 < effects.length) (.validation "too many Runmill side effects")
  effects.forM fun effect => do
    lift (validateDigest effect.effectKey "side-effect key")
    lift (validateGitSha effect.candidateSha "side-effect candidate")
    validateDigests effect.digests
    effect.reconciliationDigest.toList.forM fun digest =>
      lift (validateDigest digest "side-effect reconciliation")

/-- The identifiers of an approval with their labels (lines 890-895). -/
def RunmillApprovalEvidence.identifiers : List (String × String) :=
  [("approval id", approval.approvalId), ("approval decision", approval.decisionType),
    ("approval requested effect", approval.requestedEffect),
    ("approval subject", approval.approverSubject)]

/-- The digests of an approval with their labels (lines 898-904). -/
def RunmillApprovalEvidence.digests : List (String × String) :=
  [("approval authority", approval.authorityDigest),
    ("approval Work Order", approval.workOrderDigest), ("approval policy", approval.policyDigest),
    ("approval signature", approval.signatureDigest),
    ("approval evidence", approval.evidenceDigest)]

/-- `validate_approvals_shape` (lines 885-912). -/
def validateApprovalsShape (p : Primitives) (approvals : List RunmillApprovalEvidence) :
    Checked Unit := do
  Exec.failIf (256 < approvals.length) (.validation "too many Runmill approvals")
  approvals.forM fun approval => do
    approval.identifiers.forM fun entry => validateIdentifier entry.2 entry.1
    validateDigests approval.digests
    lift (validateGitSha approval.candidateSha "approval candidate")
    validateTime p approval.issuedAt
    validateTime p approval.expiresAt

/-- `x < 0.0` for a number `x`: the sign is set and the rest is not zero. -/
def isBelowZero (x : F64) : Bool := x.bits.msb && x.bits.extractLsb' 0 63 != 0

/-- `validate_budget_shape` (lines 914-930). -/
def validateBudgetShape (budget : RunmillBudgetEvidence) : Checked Unit :=
  Exec.failIf (¬ budget.costUsd.isFinite ∨ isBelowZero budget.costUsd
      ∨ [budget.agentInvocations, budget.fixIterations, budget.elapsedMs].any
        (fun value => decide (maxSafeJsonInteger < value)))
    (.validation "Runmill budget evidence is out of bounds")

/-- `validate_delivery_shape` (lines 932-952). -/
def validateDeliveryShape (p : Primitives) (delivery : RunmillDeliveryEvidence) : Checked Unit := do
  Exec.failIf (¬ delivery.satisfied) (.validation "Runmill PR delivery evidence is not satisfied")
  validateIdentifier delivery.pullRequest.forge "pull-request forge"
  lift (validateRepository delivery.pullRequest.repository)
  Exec.failIf (delivery.pullRequest.number = 0 ∨ maxSafeJsonInteger < delivery.pullRequest.number)
    (.validation "pull-request number is out of bounds")
  lift (validatePublicHttpsUrl p delivery.pullRequest.url)
  validateBranchRef delivery.pullRequest.headRef "pull-request head ref"
  validateBranchRef delivery.pullRequest.baseRef "pull-request base ref"
  lift (validateGitSha delivery.pullRequest.headSha "pull-request head SHA")
  validateTime p delivery.pullRequest.observedAt
  lift (validateDigest delivery.pullRequest.evidenceDigest "pull-request evidence")

/-- `validate_artifacts_shape` (lines 954-970). -/
def validateArtifactsShape (artifacts : List RunmillEvidenceArtifact) : Checked Unit := do
  Exec.failIf (2048 < artifacts.length) (.validation "too many Runmill evidence artifacts")
  artifacts.forM fun artifact => do
    validateIdentifier artifact.artifactId "artifact id"
    Exec.failIf (1073741824 < artifact.sizeBytes) (.validation "Runmill artifact is too large")
    validateMediaType artifact.mediaType
    lift (validateDigest artifact.digest "artifact digest")
    lift (validateCasLocation artifact.locationRef)

/-- The digests of a predicate with their labels (lines 693-736). -/
def RunmillEvidencePredicate.digests (predicate : RunmillEvidencePredicate) :
    List (String × String) :=
  [("Work Order envelope", predicate.workOrder.envelopeDigest),
    ("Work Order payload", predicate.workOrder.payloadDigest),
    ("Work Order envelope artifact", predicate.workOrder.envelopeArtifactDigest),
    ("effective policy", predicate.policy.effectivePolicyDigest),
    ("effective policy artifact", predicate.policy.effectivePolicyArtifactDigest),
    ("operator policy", predicate.policy.inputs.operatorPolicyDigest),
    ("Work Order policy", predicate.policy.inputs.workOrderPolicyDigest),
    ("repository policy", predicate.policy.inputs.repositoryPolicyDigest),
    ("forge policy", predicate.policy.inputs.forgePolicyDigest),
    ("candidate tree", predicate.source.treeDigest),
    ("normalized diff", predicate.source.normalizedDiffDigest),
    ("normalized diff artifact", predicate.source.normalizedDiffArtifactDigest),
    ("harness", predicate.runtime.harnessDigest),
    ("tool policy", predicate.runtime.toolPolicyDigest),
    ("sandbox profile", predicate.runtime.sandboxProfileDigest),
    ("dependencies", predicate.runtime.dependencyDigest),
    ("runtime", predicate.runtime.runtimeDigest),
    ("runtime manifest", predicate.runtime.runtimeManifestDigest)]

/-- The checks of `validate_predicate_shape` on the source
    (lines 756-765). -/
def validateSourceShape (source : RunmillSourceEvidence) : Checked Unit := do
  validateIdentifier source.forge "source forge"
  lift (validateRepository source.repository)
  validateBranchRef source.baseRef "source base ref"
  lift (validateGitSha source.baseSha "source base SHA")
  lift (validateGitSha source.candidateSha "source candidate SHA")
  lift (validateGitSha source.remoteHeadSha "source remote head SHA")
  source.mergeSha.toList.forM fun sha => lift (validateGitSha sha "source merge SHA")
  lift (validateSortedPaths source.changedPaths)

/-- The checks of `validate_predicate_shape` on a cancellation
    (lines 773-776). -/
def validateCancellationShape (p : Primitives) (cancellation : RunmillCancellationEvidence) :
    Checked Unit := do
  validateIdentifier cancellation.requesterSubject "cancellation requester"
  validateIdentifier cancellation.reasonCode "cancellation reason code"
  validateTime p cancellation.requestedAt
  lift (validateDigest cancellation.evidenceDigest "cancellation evidence")

/-- `validate_predicate_shape` (lines 685-781). -/
def validatePredicateShape (p : Primitives) (predicate : RunmillEvidencePredicate) :
    Checked Unit := do
  Exec.failIf (predicate.schema ≠ runmillEvidencePredicateSchemaV1)
    (.validation "unsupported Runmill evidence predicate schema")
  validateIdentifier predicate.run.runId "Runmill run id"
  validateTime p predicate.run.completedAt
  validateDigests predicate.digests
  validateIdentifier predicate.workOrder.signature.keyId "Work Order signature key id"
  Exec.failIf (¬ predicate.workOrder.signature.verified)
    (.validation "Runmill did not verify the Work Order signature")
  validateSortedReferences predicate.policy.requiredLocalChecks "required local checks"
  validateSortedReferences predicate.policy.requiredCiContexts "required CI contexts"
  validateSourceShape predicate.source
  validateRuntimeShape predicate.runtime
  validateRoleOutcomesShape predicate.roleOutcomes
  validateVerificationShape p predicate.verification
  validateReviewsShape predicate.reviews
  validateSideEffectsShape predicate.sideEffects
  validateApprovalsShape p predicate.approvals
  predicate.cancellation.toList.forM (validateCancellationShape p)
  validateBudgetShape predicate.budget
  validateDeliveryShape p predicate.delivery
  validateArtifactsShape predicate.artifacts

/-- `validate_statement_shape` (lines 670-683). -/
def validateStatementShape (p : Primitives) (statement : RunmillEvidenceStatement) :
    Checked Unit := do
  Exec.failIf (statement.statementType ≠ inTotoStatementV1
      ∨ statement.predicateType ≠ runmillEvidencePredicateTypeV1 ∨ statement.subject.length ≠ 1)
    (.validation "Runmill evidence is not an in-toto Statement v1 with one subject")
  let subject ← Exec.index statement.subject 0
  lift (validateSubjectName subject.name)
  lift (validateGitSha subject.digest.sha1 "statement subject SHA")
  validatePredicateShape p statement.predicate

namespace SignedRunmillEvidenceBundle

/-- `validate_shape` (lines 556-570). -/
def validateShape (p : Primitives) (bundle : SignedRunmillEvidenceBundle) : Checked Unit := do
  Exec.failIf (bundle.schema ≠ runmillSignedEvidenceSchemaV1)
    (.validation "unsupported Runmill signed-evidence schema")
  validateIdentifier bundle.keyId "evidence signer key id"
  validateTime p bundle.issuedAt
  lift (validateDigest bundle.bundleDigest "bundle digest")
  validateStatementShape p bundle.statement
  lift (validateSignatureEncoding bundle.signature)
  lift (rejectSensitiveFields (bundle.toValue p))

/-- `sign` (lines 520-547). -/
def sign (p : Primitives) (statement : RunmillEvidenceStatement)
    (issuedAt : RunmillEvidenceTimestamp) (signer : Ed25519Signer) :
    Checked SignedRunmillEvidenceBundle := do
  validateStatementShape p statement
  validateIdentifier signer.keyId "evidence signer key id"
  validateTime p issuedAt
  let canonical ← lift (canonicalJson p (statement.toValue p))
  let bundle : SignedRunmillEvidenceBundle :=
    { schema := runmillSignedEvidenceSchemaV1
      keyId := signer.keyId
      algorithm := .edDSA
      issuedAt := issuedAt
      bundleDigest := sha256Digest p canonical
      statement := statement
      signature := "" }
  lift (rejectSensitiveFields (bundle.toValue p))
  let message ← lift (bundle.unsignedCanonicalBytes p)
  return { bundle with signature := "base64url:" ++ signer.sign message }

end SignedRunmillEvidenceBundle

/-! ## What has the right shape -/

section Validity

variable (p : Primitives)

/-- The text is read as an instant. -/
def RunmillEvidenceTimestamp.Reads (time : RunmillEvidenceTimestamp) : Prop :=
  ∃ instant, time.toUtc p = .ok instant

/-- A list of references in strictly ascending order. -/
@[mk_iff] structure SortedReferences (values : List String) : Prop where
  bounded : values.length ≤ 2048
  references : ∀ value ∈ values, isReference value
  ascending : values.Pairwise (· < ·)

@[mk_iff] structure RunmillSourceEvidence.Valid (source : RunmillSourceEvidence) : Prop where
  forge : validIdentifier source.forge true
  repository : validateRepository source.repository = .ok ()
  baseRef : isBranchRef source.baseRef
  baseSha : isCommit source.baseSha
  candidateSha : isCommit source.candidateSha
  remoteHeadSha : isCommit source.remoteHeadSha
  mergeSha : ∀ sha ∈ source.mergeSha, isCommit sha
  changedPaths : source.changedPaths.length ≤ 2048
    ∧ (∀ path ∈ source.changedPaths, validatePath path = .ok ())
    ∧ source.changedPaths.Pairwise (· < ·)

@[mk_iff] structure RunmillProviderAttribution.Valid (provider : RunmillProviderAttribution) :
    Prop where
  name : validIdentifier provider.provider true
  model : isReference provider.model
  principalId : validIdentifier provider.principalId true
  leaseId : validIdentifier provider.leaseId true

@[mk_iff] structure RunmillRoleOutcome.Valid (outcome : RunmillRoleOutcome) : Prop where
  candidateSha : isCommit outcome.candidateSha
  evidenceDigest : isSha256Digest outcome.evidenceDigest

@[mk_iff] structure RunmillLocalCheckEvidence.Valid (check : RunmillLocalCheckEvidence) : Prop where
  checkId : isReference check.checkId
  candidateSha : isCommit check.candidateSha
  digests : ∀ entry ∈ check.digests, isSha256Digest entry.2
  executorId : validIdentifier check.executorId true
  startedAt : check.startedAt.Reads p
  completedAt : check.completedAt.Reads p

@[mk_iff] structure RunmillCiContextEvidence.Valid (context : RunmillCiContextEvidence) : Prop where
  name : isReference context.context
  candidateSha : isCommit context.candidateSha
  observedAt : context.observedAt.Reads p
  evidenceDigest : isSha256Digest context.evidenceDigest

@[mk_iff] structure RunmillReviewEvidence.Valid (review : RunmillReviewEvidence) : Prop where
  reviewId : validIdentifier review.reviewId true
  reviewerPrincipal : validIdentifier review.reviewerPrincipal true
  reviewerProfile : validIdentifier review.reviewerProfile true
  independent : review.independent
  candidateSha : isCommit review.candidateSha
  policyDigest : isSha256Digest review.policyDigest
  findingsDigest : isSha256Digest review.findingsDigest
  evidenceDigest : isSha256Digest review.evidenceDigest

@[mk_iff] structure RunmillSideEffectEvidence.Valid (effect : RunmillSideEffectEvidence) :
    Prop where
  effectKey : isSha256Digest effect.effectKey
  candidateSha : isCommit effect.candidateSha
  digests : ∀ entry ∈ effect.digests, isSha256Digest entry.2
  reconciliationDigest : ∀ digest ∈ effect.reconciliationDigest, isSha256Digest digest

@[mk_iff] structure RunmillApprovalEvidence.Valid (approval : RunmillApprovalEvidence) : Prop where
  identifiers : ∀ entry ∈ approval.identifiers, validIdentifier entry.2 true
  digests : ∀ entry ∈ approval.digests, isSha256Digest entry.2
  candidateSha : isCommit approval.candidateSha
  issuedAt : approval.issuedAt.Reads p
  expiresAt : approval.expiresAt.Reads p

@[mk_iff] structure RunmillCancellationEvidence.Valid (cancellation : RunmillCancellationEvidence) :
    Prop where
  requesterSubject : validIdentifier cancellation.requesterSubject true
  reasonCode : validIdentifier cancellation.reasonCode true
  requestedAt : cancellation.requestedAt.Reads p
  evidenceDigest : isSha256Digest cancellation.evidenceDigest

@[mk_iff] structure RunmillBudgetEvidence.Valid (budget : RunmillBudgetEvidence) : Prop where
  costUsd : budget.costUsd.isFinite ∧ ¬ isBelowZero budget.costUsd
  counts : ∀ value ∈ [budget.agentInvocations, budget.fixIterations, budget.elapsedMs],
    value ≤ maxSafeJsonInteger

@[mk_iff] structure RunmillDeliveryEvidence.Valid (delivery : RunmillDeliveryEvidence) : Prop where
  satisfied : delivery.satisfied
  forge : validIdentifier delivery.pullRequest.forge true
  repository : validateRepository delivery.pullRequest.repository = .ok ()
  number : delivery.pullRequest.number ≠ 0 ∧ delivery.pullRequest.number ≤ maxSafeJsonInteger
  url : validatePublicHttpsUrl p delivery.pullRequest.url = .ok ()
  headRef : isBranchRef delivery.pullRequest.headRef
  baseRef : isBranchRef delivery.pullRequest.baseRef
  headSha : isCommit delivery.pullRequest.headSha
  observedAt : delivery.pullRequest.observedAt.Reads p
  evidenceDigest : isSha256Digest delivery.pullRequest.evidenceDigest

@[mk_iff] structure RunmillEvidenceArtifact.Valid (artifact : RunmillEvidenceArtifact) : Prop where
  artifactId : validIdentifier artifact.artifactId true
  sizeBytes : artifact.sizeBytes ≤ 1073741824
  mediaType : isMediaType artifact.mediaType
  digest : isSha256Digest artifact.digest
  locationRef : validateCasLocation artifact.locationRef = .ok ()

@[mk_iff] structure RunmillEvidencePredicate.Valid (predicate : RunmillEvidencePredicate) :
    Prop where
  schema : predicate.schema = runmillEvidencePredicateSchemaV1
  runId : validIdentifier predicate.run.runId true
  completedAt : predicate.run.completedAt.Reads p
  digests : ∀ entry ∈ predicate.digests, isSha256Digest entry.2
  signatureKeyId : validIdentifier predicate.workOrder.signature.keyId true
  verified : predicate.workOrder.signature.verified
  requiredLocalChecks : SortedReferences predicate.policy.requiredLocalChecks
  requiredCiContexts : SortedReferences predicate.policy.requiredCiContexts
  source : predicate.source.Valid
  providers : predicate.runtime.providers.length ≤ 3
    ∧ ∀ provider ∈ predicate.runtime.providers, provider.Valid
  roleOutcomes : predicate.roleOutcomes.length ≤ 3
    ∧ ∀ outcome ∈ predicate.roleOutcomes, outcome.Valid
  localChecks : predicate.verification.localChecks.length ≤ 256
    ∧ ∀ check ∈ predicate.verification.localChecks, check.Valid p
  ciContexts : predicate.verification.ciContexts.length ≤ 256
    ∧ ∀ context ∈ predicate.verification.ciContexts, context.Valid p
  reviews : predicate.reviews.length ≤ 16 ∧ ∀ review ∈ predicate.reviews, review.Valid
  sideEffects : predicate.sideEffects.length ≤ 1024 ∧ ∀ effect ∈ predicate.sideEffects, effect.Valid
  approvals : predicate.approvals.length ≤ 256 ∧ ∀ approval ∈ predicate.approvals, approval.Valid p
  cancellation : ∀ cancellation ∈ predicate.cancellation, cancellation.Valid p
  budget : predicate.budget.Valid
  delivery : predicate.delivery.Valid p
  artifacts : predicate.artifacts.length ≤ 2048 ∧ ∀ artifact ∈ predicate.artifacts, artifact.Valid

@[mk_iff] structure RunmillEvidenceStatement.Valid (statement : RunmillEvidenceStatement) :
    Prop where
  statementType : statement.statementType = inTotoStatementV1
  predicateType : statement.predicateType = runmillEvidencePredicateTypeV1
  subject : ∃ subject, statement.subject = [subject]
    ∧ validateSubjectName subject.name = .ok () ∧ isCommit subject.digest.sha1
  predicate : statement.predicate.Valid p

/-- What `validate_shape` accepts. -/
@[mk_iff] structure SignedRunmillEvidenceBundle.Valid (bundle : SignedRunmillEvidenceBundle) :
    Prop where
  schema : bundle.schema = runmillSignedEvidenceSchemaV1
  keyId : validIdentifier bundle.keyId true
  issuedAt : bundle.issuedAt.Reads p
  bundleDigest : isSha256Digest bundle.bundleDigest
  statement : bundle.statement.Valid p
  signature : ∃ signature : Block 64, bundle.signature = "base64url:" ++ Base64.encode signature.val
  plain : Plain (bundle.toValue p)

end Validity

section Accepted

variable {p : Primitives}

attribute [local simp] seq_eq_ok_iff forM_list_eq_ok_iff Exec.failIf_eq_ok_iff Exec.lift_eq_ok_iff
  validateIdentifier_eq_ok_iff validateReference_eq_ok_iff validateGitSha_eq_ok_iff
  validateDigest_eq_ok_iff validateBranchRef_eq_ok_iff validateMediaType_eq_ok_iff
  validateSortedPaths_eq_ok_iff

@[local simp] theorem validateTime_eq_ok_iff : validateTime p time = .ok () ↔ time.Reads p := by
  simp [validateTime, bind_eq_ok_iff, RunmillEvidenceTimestamp.Reads, pure, Except.pure]

@[local simp] theorem validateDigests_eq_ok_iff :
    validateDigests entries = .ok () ↔ ∀ entry ∈ entries, isSha256Digest entry.2 := by
  simp only [validateDigests, forM_eq_ok_iff, Exec.lift_eq_ok_iff, validateDigest_eq_ok_iff]

@[local simp] theorem validateSortedReferences_iff {values : List String} {label : String} :
    validateSortedReferences values label = .ok () ↔ SortedReferences values := by
  rw [validateSortedReferences_eq_ok_iff, sortedReferences_iff]

@[local simp] theorem validateSourceShape_eq_ok_iff :
    validateSourceShape source = .ok () ↔ source.Valid := by
  simp [validateSourceShape, RunmillSourceEvidence.valid_iff]

@[local simp] theorem validateRuntimeShape_eq_ok_iff :
    validateRuntimeShape runtime = .ok ()
      ↔ runtime.providers.length ≤ 3 ∧ ∀ provider ∈ runtime.providers, provider.Valid := by
  simp [validateRuntimeShape, RunmillProviderAttribution.valid_iff]

@[local simp] theorem validateRoleOutcomesShape_eq_ok_iff :
    validateRoleOutcomesShape outcomes = .ok ()
      ↔ outcomes.length ≤ 3 ∧ ∀ outcome ∈ outcomes, outcome.Valid := by
  simp [validateRoleOutcomesShape, RunmillRoleOutcome.valid_iff]

@[local simp] theorem validateVerificationShape_eq_ok_iff :
    validateVerificationShape p verification = .ok ()
      ↔ (verification.localChecks.length ≤ 256
          ∧ ∀ check ∈ verification.localChecks, check.Valid p)
        ∧ (verification.ciContexts.length ≤ 256
          ∧ ∀ context ∈ verification.ciContexts, context.Valid p) := by
  simp only [and_and_and_comm]
  simp [validateVerificationShape, RunmillLocalCheckEvidence.valid_iff,
    RunmillCiContextEvidence.valid_iff]

@[local simp] theorem validateReviewsShape_eq_ok_iff :
    validateReviewsShape reviews = .ok ()
      ↔ reviews.length ≤ 16 ∧ ∀ review ∈ reviews, review.Valid := by
  simp [validateReviewsShape, RunmillReviewEvidence.valid_iff]

@[local simp] theorem validateSideEffectsShape_eq_ok_iff :
    validateSideEffectsShape effects = .ok ()
      ↔ effects.length ≤ 1024 ∧ ∀ effect ∈ effects, effect.Valid := by
  simp [validateSideEffectsShape, RunmillSideEffectEvidence.valid_iff]

@[local simp] theorem validateApprovalsShape_eq_ok_iff :
    validateApprovalsShape p approvals = .ok ()
      ↔ approvals.length ≤ 256 ∧ ∀ approval ∈ approvals, approval.Valid p := by
  simp [validateApprovalsShape, RunmillApprovalEvidence.valid_iff]

@[local simp] theorem validateCancellationShape_eq_ok_iff :
    validateCancellationShape p cancellation = .ok () ↔ cancellation.Valid p := by
  simp [validateCancellationShape, RunmillCancellationEvidence.valid_iff]

@[local simp] theorem validateBudgetShape_eq_ok_iff {budget : RunmillBudgetEvidence} :
    validateBudgetShape budget = .ok () ↔ budget.Valid := by
  simp [validateBudgetShape, RunmillBudgetEvidence.valid_iff, and_assoc]

@[local simp] theorem validateDeliveryShape_eq_ok_iff :
    validateDeliveryShape p delivery = .ok () ↔ delivery.Valid p := by
  simp [validateDeliveryShape, RunmillDeliveryEvidence.valid_iff]

@[local simp] theorem validateArtifactsShape_eq_ok_iff :
    validateArtifactsShape artifacts = .ok ()
      ↔ artifacts.length ≤ 2048 ∧ ∀ artifact ∈ artifacts, artifact.Valid := by
  simp [validateArtifactsShape, RunmillEvidenceArtifact.valid_iff]

theorem validatePredicateShape_eq_ok_iff :
    validatePredicateShape p predicate = .ok () ↔ predicate.Valid p := by
  simp [validatePredicateShape, RunmillEvidencePredicate.valid_iff, and_assoc]

theorem validateStatementShape_eq_ok_iff :
    validateStatementShape p statement = .ok () ↔ statement.Valid p := by
  simp only [validateStatementShape, bind_eq_ok_iff, Exec.failIf_eq_ok_iff, not_or, not_not, ne_eq,
    Exec.lift_eq_ok_iff, Exec.index, Exec.expect_eq_ok_iff, exists_unit_iff,
    validateGitSha_eq_ok_iff, validatePredicateShape_eq_ok_iff]
  constructor
  · rintro ⟨⟨htype, hpredicateType, hlength⟩, subject, hsubject, hname, hsha, hpredicate⟩
    obtain ⟨only, honly⟩ := List.length_eq_one_iff.mp hlength
    rw [honly] at hsubject
    obtain rfl : only = subject := Option.some.inj hsubject
    exact ⟨htype, hpredicateType, ⟨only, honly, hname, hsha⟩, hpredicate⟩
  · rintro ⟨htype, hpredicateType, ⟨subject, hsubject, hname, hsha⟩, hpredicate⟩
    refine ⟨⟨htype, hpredicateType, ?_⟩, subject, ?_, hname, hsha, hpredicate⟩
    · rw [hsubject]
      rfl
    · rw [hsubject]
      rfl

theorem validateShape_eq_ok_iff : bundle.validateShape p = .ok () ↔ bundle.Valid p := by
  simp only [SignedRunmillEvidenceBundle.validateShape, seq_eq_ok_iff, Exec.failIf_eq_ok_iff,
    not_not, validateIdentifier_eq_ok_iff, validateTime_eq_ok_iff, Exec.lift_eq_ok_iff,
    validateDigest_eq_ok_iff, validateStatementShape_eq_ok_iff,
    validateSignatureEncoding_eq_ok_iff, SignedRunmillEvidenceBundle.valid_iff, ne_eq, Plain]

end Accepted

/-! ## No check of the shape panics -/

section Panics

variable {p : Primitives}

attribute [local simp] validateIdentifier_noPanic validateReference_noPanic
  validateBranchRef_noPanic validateMediaType_noPanic validateSortedReferences_noPanic

@[local simp] theorem validateTime_noPanic : NoPanic (validateTime p time) :=
  .bind (.lift _) fun _ _ => .ok _

@[local simp] theorem validateDigests_noPanic : NoPanic (validateDigests entries) := by
  simp [validateDigests]

@[local simp] theorem validateSourceShape_noPanic : NoPanic (validateSourceShape source) := by
  simp [validateSourceShape]

@[local simp] theorem validateRuntimeShape_noPanic : NoPanic (validateRuntimeShape runtime) := by
  simp [validateRuntimeShape]

@[local simp] theorem validateRoleOutcomesShape_noPanic :
    NoPanic (validateRoleOutcomesShape outcomes) := by
  simp [validateRoleOutcomesShape]

@[local simp] theorem validateVerificationShape_noPanic :
    NoPanic (validateVerificationShape p verification) := by
  simp [validateVerificationShape]

@[local simp] theorem validateReviewsShape_noPanic : NoPanic (validateReviewsShape reviews) := by
  simp [validateReviewsShape]

@[local simp] theorem validateSideEffectsShape_noPanic :
    NoPanic (validateSideEffectsShape effects) := by
  simp [validateSideEffectsShape]

@[local simp] theorem validateApprovalsShape_noPanic :
    NoPanic (validateApprovalsShape p approvals) := by
  simp [validateApprovalsShape]

@[local simp] theorem validateCancellationShape_noPanic :
    NoPanic (validateCancellationShape p cancellation) := by
  simp [validateCancellationShape]

@[local simp] theorem validateDeliveryShape_noPanic :
    NoPanic (validateDeliveryShape p delivery) := by
  simp [validateDeliveryShape]

@[local simp] theorem validateArtifactsShape_noPanic :
    NoPanic (validateArtifactsShape artifacts) := by
  simp [validateArtifactsShape]

@[local simp] theorem validatePredicateShape_noPanic :
    NoPanic (validatePredicateShape p predicate) := by
  simp [validatePredicateShape, validateBudgetShape]

/-- The only subject is indexed after the subjects were counted. -/
@[local simp] theorem validateStatementShape_noPanic :
    NoPanic (validateStatementShape p statement) := by
  refine .bind (.failIf _ _) fun _ hform => .bind ?_ fun _ _ => by simp
  have hlength : statement.subject.length = 1 := by
    rw [Exec.failIf_eq_ok_iff] at hform
    tauto
  obtain ⟨subject, hsubject⟩ := List.length_eq_one_iff.mp hlength
  rw [hsubject]
  exact .ok subject

theorem validateShape_noPanic : NoPanic (bundle.validateShape p) := by
  simp [SignedRunmillEvidenceBundle.validateShape]

end Panics

end Asf.Evidence
