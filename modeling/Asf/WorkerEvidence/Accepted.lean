import Asf.WorkerEvidence.Bundle

/-!
# Accepted evidence of a worker

Results:

* `SignedEvidenceBundle.verify_eq_ok_iff`: the bundles that are accepted, by
  `Sealed` for the envelope and `Bound` for the contents.
* `exists_sealed`: the holder of the worker's key can seal contents of the right form.
-/

namespace Asf.WorkerEvidence

open Lib Contracts Evidence
open SignedEvidenceBundle (envelopeSchemaV1 sign)

/-! ## The form of the payload -/

namespace EvidenceBundleV1

/-- What `validate_payload_shape` checks. -/
@[mk_iff] structure Shape (evidence : EvidenceBundleV1) : Prop where
  schema : evidence.schema = schemaV1
  workerGeneration : evidence.workerGeneration ≠ 0
  repository : ¬ isBlank evidence.repository
  baseRef : ¬ isBlank evidence.baseRef
  stopReason : ¬ isBlank evidence.stopReason
  baseSha : isGitSha evidence.baseSha
  candidateSha : isGitSha evidence.candidateSha
  workOrderDigest : isSha256Digest evidence.workOrderDigest
  sourceSnapshotDigest : isSha256Digest evidence.sourceSnapshotDigest
  diffDigest : isSha256Digest evidence.diffDigest
  digests : ∀ digest ∈ evidence.digests, isSha256Digest digest
  paths : ∀ path ∈ evidence.changedPaths, ¬ isUnsafePath path
  identities : evidence.identityAttribution.length = 3
  roles : (evidence.identityAttribution.map (·.role)).toFinset = allRoles
  complete : ∀ identity ∈ evidence.identityAttribution, ¬ isIncompleteIdentity identity
  implementer : (evidence.identityAttribution.find? (·.role == .implementer)) ≠ none
  independent : ∀ identity ∈ evidence.identityAttribution, identity.role ≠ .implementer →
    some identity.principalRef
      ≠ (evidence.identityAttribution.find? (·.role == .implementer)).map (·.principalRef)
  outcomes : evidence.roleOutcomes.length = 3
  outcomeRoles : (evidence.roleOutcomes.map (·.role)).toFinset
    = (evidence.identityAttribution.map (·.role)).toFinset
  completed : ∀ outcome ∈ evidence.roleOutcomes, outcome.conclusion = .completed
    ∧ outcome.candidateSha = some evidence.candidateSha
  findings : ∀ finding ∈ evidence.findings, finding.candidateSha = evidence.candidateSha

theorem validatePayloadShape_eq_ok_iff {evidence : EvidenceBundleV1} :
    evidence.validatePayloadShape = .ok () ↔ evidence.Shape := by
  simp only [validatePayloadShape, seq_eq_ok_iff, failIf_eq_ok_iff, forM_eq_ok_iff, shape_iff,
    not_or, not_not, ne_eq, not_exists, not_and, Option.map_eq_none_iff, and_assoc]

/-- What `validate_frozen_authority` checks. -/
@[mk_iff] structure FrozenAuthority (evidence : EvidenceBundleV1) : Prop where
  profiles : ∀ role ∈ [IdentityRole.implementer, .localReviewer, .prReviewer], ∃ identity,
    evidence.identityFor role = .ok identity
      ∧ identity.profileRef = profileFor evidence.workOrder.payload.identities role
  paths : ∀ path ∈ evidence.changedPaths, evidence.workOrder.payload.authority.paths.allowsPath path
  harness : evidence.runtimeDigests.harness = evidence.workOrder.payload.digests.harness
  policy : evidence.workOrder.payload.digests.policy ∈ evidence.policyInputDigests.values
  repositoryPolicy :
    evidence.workOrder.payload.digests.repositoryPolicy ∈ evidence.policyInputDigests.values
  budget : ¬ evidence.exceedsBudget evidence.workOrder.payload.authority.budgets
  effects : ∀ effect ∈ evidence.sideEffects, evidence.authorized effect
    ∧ ¬ isBlank effect.idempotencyKey
    ∧ (effect.status = .confirmed ∨ effect.status = .reconciled → effect.observationDigest ≠ none)

theorem validateFrozenAuthority_eq_ok_iff {evidence : EvidenceBundleV1} :
    evidence.validateFrozenAuthority = .ok () ↔ evidence.FrozenAuthority := by
  simp only [validateFrozenAuthority, bind_eq_ok_iff, exists_unit_iff, failIf_eq_ok_iff,
    forM_eq_ok_iff, frozenAuthority_iff, not_or, not_not, ne_eq, not_exists, not_and, and_assoc]

end EvidenceBundleV1

/-! ## The contents -/

/-- What `verify` compares the payload with. -/
@[mk_iff] structure Bound (p : Primitives) (expectation : EvidenceExpectation)
    (evidence : EvidenceBundleV1) : Prop where
  expected : ¬ expectation.differs evidence
  authentic : SignedWorkOrder.Authentic p expectation.asfWorkOrderKey evidence.workOrder
  embedded : ¬ expectation.misembedded evidence
  workerGeneration : evidence.workerGeneration = expectation.currentWorkerGeneration
  frozen : evidence.FrozenAuthority
  satisfied : evidence.targetSatisfied
  candidateSha : isGitSha evidence.candidateSha
  remoteHeadSha : evidence.remoteHeadSha = evidence.candidateSha
  resolved : ∀ effect ∈ evidence.sideEffects, effect.status ≠ .ambiguous ∧ effect.status ≠ .failed
  localChecks : expectation.requiredLocalChecks ⊆ evidence.passedChecks
  independent : evidence.review.independent
  approved : evidence.review.approved
  reviewed : evidence.review.candidateSha = evidence.candidateSha
  reviewer : ∃ identity, evidence.identityFor .prReviewer = .ok identity
    ∧ evidence.review.reviewerProfile = identity.profileRef.value
    ∧ evidence.review.reviewerPrincipal = identity.principalRef
  pullRequest : expectation.target = .pullRequest → ∃ pullRequest,
    evidence.pullRequest = some pullRequest ∧ pullRequest.headSha = evidence.candidateSha
      ∧ pullRequest.baseSha = evidence.baseSha
      ∧ expectation.requiredCiContexts ⊆ pullRequest.successfulCiContexts
      ∧ expectation.independentlyObservedPullRequest = some pullRequest

theorem EvidenceExpectation.verifyPullRequest_eq_ok_iff {expectation : EvidenceExpectation}
    {evidence : EvidenceBundleV1} :
    expectation.verifyPullRequest evidence = .ok () ↔ ∃ pullRequest,
      evidence.pullRequest = some pullRequest ∧ pullRequest.headSha = evidence.candidateSha
        ∧ pullRequest.baseSha = evidence.baseSha
        ∧ expectation.requiredCiContexts ⊆ pullRequest.successfulCiContexts
        ∧ expectation.independentlyObservedPullRequest = some pullRequest := by
  simp only [verifyPullRequest, bind_eq_ok_iff, exists_unit_iff, okOr_eq_ok_iff, failIf_eq_ok_iff,
    not_or, not_not, ne_eq, and_assoc]

theorem EvidenceExpectation.verifyPayload_eq_ok_iff {p : Primitives}
    {expectation : EvidenceExpectation} {evidence : EvidenceBundleV1} :
    expectation.verifyPayload p evidence = .ok () ↔ Bound p expectation evidence := by
  have htarget : (if expectation.target = .pullRequest then expectation.verifyPullRequest evidence
      else .ok ()) = .ok () ↔ (expectation.target = .pullRequest →
        expectation.verifyPullRequest evidence = .ok ()) := by
    split_ifs with h <;> simp [h]
  simp only [verifyPayload, bind_eq_ok_iff, exists_unit_iff, failIf_eq_ok_iff, bound_iff, htarget,
    verifyPullRequest_eq_ok_iff, SignedWorkOrder.verifyIntegrity_eq_ok_iff,
    EvidenceBundleV1.validateFrozenAuthority_eq_ok_iff, not_or, not_not, ne_eq, not_exists, not_and,
    and_assoc, Bool.not_eq_false]
  simp [← and_assoc]

/-! ## The envelope -/

/-- What `verify` checks of the envelope. -/
structure Sealed (p : Primitives) (bundle : SignedEvidenceBundle) (key : VerifyingKey)
    (workerKeyId : String) : Prop where
  envelopeSchema : bundle.envelopeSchema = envelopeSchemaV1
  algorithm : bundle.algorithm = "EdDSA"
  payloadDigest : documentDigest p (bundle.payload.toValue p) = .ok bundle.payloadDigest
  signature : ∃ message, bundle.protectedCanonicalBytes p = .ok message
    ∧ verifyDomainSignature p key envelopeSchemaV1 message bundle.signature = .ok ()
  keyId : bundle.keyId = workerKeyId
  shape : bundle.payload.Shape
  plain : Plain (bundle.payload.toValue p)

namespace SignedEvidenceBundle

section Verify

variable {p : Primitives} {bundle : SignedEvidenceBundle} {key : VerifyingKey}
  {workerKeyId : String}

theorem verifyEnvelope_eq_ok_iff :
    bundle.verifyEnvelope p key workerKeyId = .ok () ↔ Sealed p bundle key workerKeyId := by
  simp only [verifyEnvelope, bind_eq_ok_iff, exists_unit_iff, failIf_eq_ok_iff, not_or, not_not,
    ne_eq, EvidenceBundleV1.validatePayloadShape_eq_ok_iff]
  constructor
  · rintro ⟨⟨hschema, halgorithm, -⟩, canonical, hcanonical, hdigest, message, hmessage,
      hsignature, hkeyId, hshape, hplain⟩
    exact ⟨hschema, halgorithm, map_eq_ok_iff.mpr ⟨canonical, hcanonical, hdigest⟩,
      ⟨message, hmessage, hsignature⟩, hkeyId, hshape, hplain⟩
  · intro h
    obtain ⟨canonical, hcanonical, hdigest⟩ := map_eq_ok_iff.mp h.payloadDigest
    obtain ⟨message, hmessage, hsignature⟩ := h.signature
    exact ⟨⟨h.envelopeSchema, h.algorithm, h.shape.schema⟩, canonical, hcanonical, hdigest, message,
      hmessage, hsignature, h.keyId, h.shape, h.plain⟩

theorem verify_eq_ok_iff {expectation : EvidenceExpectation} :
    bundle.verify p key expectation = .ok ()
      ↔ Sealed p bundle key expectation.workerKeyId ∧ Bound p expectation bundle.payload := by
  rw [verify, seq_eq_ok_iff, verifyEnvelope_eq_ok_iff, EvidenceExpectation.verifyPayload_eq_ok_iff]

end Verify

end SignedEvidenceBundle

open EvidenceBundleV1 SignedEvidenceBundle

/-- The signer has the worker's key, its signatures verify, and every document has a
    canonical form. -/
structure HoldsKey (p : Primitives) (signer : Ed25519Signer) (key : VerifyingKey)
    (workerKeyId : String) : Prop where
  keyId : signer.keyId = workerKeyId
  verifyingKey : signer.verifyingKey = key
  verifies : ∀ message, p.verify key message (signer.signingKey message)
  canonical : ∀ value, ∃ out, p.jcs value = .ok out

/-- Contents of the right form can be sealed. -/
theorem exists_sealed {p : Primitives} {signer : Ed25519Signer} {key : VerifyingKey}
    {workerKeyId : String} (hholds : HoldsKey p signer key workerKeyId)
    {payload : EvidenceBundleV1} (hshape : payload.Shape) (hplain : Plain (payload.toValue p)) :
    ∃ bundle, sign p payload signer = .ok bundle ∧ bundle.payload = payload
      ∧ Sealed p bundle key workerKeyId := by
  obtain ⟨canonical, hcanonical⟩ := hholds.canonical (payload.toValue p)
  have hcanonical := canonicalJson_eq_ok_iff.mpr hcanonical
  let envelope : SignedEvidenceBundle :=
    ⟨envelopeSchemaV1, "EdDSA", signer.keyId, sha256Digest p canonical, payload, ""⟩
  obtain ⟨message, hmessage⟩ : ∃ message, envelope.protectedCanonicalBytes p = .ok message := by
    obtain ⟨message, hmessage⟩ := hholds.canonical _
    exact ⟨message, canonicalJson_eq_ok_iff.mpr hmessage⟩
  refine ⟨{ envelope with
    signature := signer.signDomain envelopeSchemaV1 message }, ?_, rfl,
    ⟨rfl, rfl, map_eq_ok_iff.mpr ⟨canonical, hcanonical, rfl⟩, ⟨message, hmessage, ?_⟩,
      hholds.keyId, hshape, hplain⟩⟩
  · rw [sign, validatePayloadShape_eq_ok_iff.mpr hshape, hcanonical]
    show (envelope.protectedCanonicalBytes p >>= _) = _
    rw [hmessage]
    rfl
  · have hverify := hholds.verifies (domainSeparatedMessage envelopeSchemaV1 message)
    rw [← hholds.verifyingKey] at hverify ⊢
    exact verifySignature_sign hverify

/-! ## Accepted evidence -/

namespace Sample

open Instance

/-- An authority with the largest budget of external calls. -/
def authority : Authority.ExecutionAuthority :=
  { sandboxed "linux-v1" with
    budgets := ⟨1, 1, 1, 1, 1, 0, 1, 4294967295⟩
    requiredApprovalTypes := {"security"} }

def order : IdentifiedWorkOrder :=
  { identified (ordered authority) with checks := ⟨{"test"}, ∅⟩ }

theorem order_valid : order.validate primitives.parseEndpoint = .ok () := by
  decide +kernel

def candidateSha : String := String.ofList (List.replicate 40 '1')

def identity (role : IdentityRole) (profile : CtxlaneProfileRef) (principal : String) :
    RoleIdentityEvidence :=
  ⟨role, provider profile, profile, principal, "lease", "model", "credential-isolated"⟩

def outcome (role : IdentityRole) : RoleOutcomeEvidence :=
  ⟨role, some candidateSha, .completed, sampleDigest⟩

def effect : SideEffectEvidence :=
  ⟨"pull_request.update", "key", sampleDigest, .confirmed, some sampleDigest, some candidateSha⟩

def pullRequest (repository : String) : PullRequestEvidence :=
  ⟨repository, 1, "https://github.com/owner/name/pull/1", order.repository.baseSha, candidateSha, ∅,
    ∅⟩

def identities : List RoleIdentityEvidence :=
  [identity .implementer order.identities.implementer "writer",
    identity .localReviewer order.identities.localReviewer "reader",
    identity .prReviewer order.identities.prReviewer "checker"]

def outcomes : List RoleOutcomeEvidence :=
  [outcome .implementer, outcome .localReviewer, outcome .prReviewer]

/-- Evidence for the order, with a pull request in `repository`. -/
def evidence (signed : SignedWorkOrder) (repository : String) (effects : List SideEffectEvidence) :
    EvidenceBundleV1 where
  schema := schemaV1
  evidenceId := .ofNat 6
  workItemId := order.workItemId
  attemptId := order.attemptId
  runId := .ofNat 7
  workerId := .ofNat 8
  workerGeneration := 1
  workOrderDigest := signed.payloadDigest
  workOrder := signed
  workOrderSignatureVerifiedByWorker := true
  sourceSnapshotDigest := sampleDigest
  policyInputDigests := ⟨[("policy", sampleDigest)], List.pairwise_singleton _ _⟩
  repository := "owner/name"
  baseRef := order.repository.baseRef
  baseSha := order.repository.baseSha
  candidateSha := candidateSha
  remoteHeadSha := candidateSha
  mergeSha := none
  changedPaths := {"src/lib.rs"}
  diffDigest := sampleDigest
  identityAttribution := identities
  runtimeDigests := ⟨sampleDigest, sampleDigest, sampleDigest, sampleDigest, sampleDigest⟩
  roleOutcomes := outcomes
  findings := []
  requestedTarget := .pullRequest
  targetSatisfied := true
  checks := [⟨"test", candidateSha, .passed, none⟩]
  review := ⟨order.identities.prReviewer.value, "checker", candidateSha, true, true, sampleDigest⟩
  pullRequest := some (pullRequest repository)
  sideEffects := effects
  approvals := []
  cancellation := none
  artifacts := []
  usage := ⟨0, 0, 0, 0, 0, 0, 0⟩
  stopReason := "completed"
  producedAt := ⟨0⟩

def expectation (signed : SignedWorkOrder) (repository : String) : EvidenceExpectation where
  asfWorkOrderKey := key
  asfWorkOrderKeyId := "order-key"
  workerKeyId := "worker-key"
  workItemId := order.workItemId
  attemptId := order.attemptId
  runId := .ofNat 7
  workerId := .ofNat 8
  workOrderDigest := signed.payloadDigest
  repository := "owner/name"
  baseSha := order.repository.baseSha
  candidateSha := candidateSha
  target := .pullRequest
  requiredLocalChecks := {"test"}
  requiredCiContexts := ∅
  currentWorkerGeneration := 1
  independentlyObservedPullRequest := some (pullRequest repository)

section Accepted

variable {signed : SignedWorkOrder} {repository : String} {effects : List SideEffectEvidence}

/-- What `sign` returns for the order. -/
structure SignedOrder (signed : SignedWorkOrder) : Prop where
  payload : signed.payload = order
  keyId : signed.keyId = "order-key"
  authentic : SignedWorkOrder.Authentic primitives key signed
  signature : ¬ isCredentialShaped signed.signature

theorem exists_signedOrder : ∃ signed, SignedOrder signed := by
  obtain ⟨signed, hsign⟩ : ∃ signed, SignedWorkOrder.sign primitives order
      (signer "order-key") = .ok signed :=
    SignedWorkOrder.exists_sign_eq_ok order_valid fun _ => ⟨_, rfl⟩
  obtain ⟨hpayload, hkeyId, hverify⟩ := SignedWorkOrder.verifyIntegrity_sign
    (fun _ => decide_eq_true rfl) hsign
  refine ⟨signed, hpayload, hkeyId, SignedWorkOrder.verifyIntegrity_eq_ok_iff.mp hverify, ?_⟩
  simp only [SignedWorkOrder.sign, bind_eq_ok_iff, pure_eq_ok_iff] at hsign
  obtain ⟨canonical, -, message, -, rfl⟩ := hsign
  have hplain := sign_not_credentialShaped (by decide : ' ' ∉ "".toList ∧ '_' ∉ "".toList)
    "order-key" (domainSeparatedMessage workOrderEnvelopeSchemaV1 message)
  rwa [String.empty_append] at hplain

/-- Evidence in which the parts that vary are left out. -/
def blank : EvidenceBundleV1 :=
  evidence ⟨"", "", "", ⟨0⟩, ⟨0⟩, ⟨0⟩, "", order, ""⟩ "" []

theorem blank_plain : Plain (blank.toValue primitives) :=
  plain_of_codes (by decide +kernel) (by decide +kernel)

theorem effect_plain : Plain effect.toValue :=
  plain_of_codes (by decide) (by decide)

theorem holdsKey : HoldsKey primitives (signer "worker-key") key
    "worker-key" :=
  ⟨rfl, rfl, fun _ => decide_eq_true rfl, fun _ => ⟨_, rfl⟩⟩

variable (h : SignedOrder signed)

include h

theorem isSha256Digest_payloadDigest : isSha256Digest signed.payloadDigest := by
  obtain ⟨canonical, -, hdigest⟩ := map_eq_ok_iff.mp h.authentic.payloadDigest
  rw [← hdigest]
  exact isSha256Digest_sha256Digest _ _

/-- The signed order is plain. -/
theorem order_plain : Plain (signed.toValue primitives) := by
  have hblank : Plain (SignedWorkOrder.toValue primitives ⟨workOrderEnvelopeSchemaV1,
      "EdDSA", "order-key", order.issuedAt, order.notBefore, order.expiresAt, "", order, ""⟩) :=
    plain_of_codes (by decide +kernel) (by decide +kernel)
  have hsigned : signed = ⟨workOrderEnvelopeSchemaV1, "EdDSA", "order-key", order.issuedAt,
      order.notBefore, order.expiresAt, signed.payloadDigest, order, signed.signature⟩ := by
    rw [← h.payload, ← h.keyId, ← h.authentic.envelopeSchema, ← h.authentic.algorithm,
      ← h.authentic.issuedAt, ← h.authentic.notBefore, ← h.authentic.expiresAt]
  have hdigest : Plain (.str signed.payloadDigest) := by
    obtain ⟨canonical, -, hdigest⟩ := map_eq_ok_iff.mp h.authentic.payloadDigest
    rw [← hdigest]
    exact plain_str.mpr (sha256Digest_not_credentialShaped _ _)
  rw [hsigned]
  exact plain_obj_set 8 (plain_obj_set 6 hblank rfl hdigest) rfl (plain_str.mpr h.signature)

variable (heffects : ∀ e ∈ effects, e = effect)

include heffects

theorem shape : (evidence signed repository effects).Shape := by
  have hblank : (evidence ⟨"", "", "", ⟨0⟩, ⟨0⟩, ⟨0⟩, sampleDigest, order, ""⟩ "" []).Shape := by
    constructor <;> decide +kernel
  have heffect : ∀ e ∈ effects, ∀ digest ∈ e.intentDigest :: e.observationDigest.toList,
      isSha256Digest digest := by
    intro e he
    rw [heffects e he]
    simp [effect, sampleDigest_isSha256Digest]
  refine { hblank with workOrderDigest := isSha256Digest_payloadDigest h, digests := ?_ }
  have hdigests := hblank.digests
  simp only [digests, List.forall_mem_append, List.forall_mem_flatMap] at hdigests ⊢
  exact ⟨⟨hdigests.1.1, heffect⟩, hdigests.2⟩

theorem frozen : (evidence signed repository effects).FrozenAuthority := by
  have hprofiles : ∀ role ∈ [IdentityRole.implementer, .localReviewer, .prReviewer],
      ∃ i ∈ identities.find? (·.role == role), i.profileRef = profileFor order.identities role := by
    decide +kernel
  have hpath : ∀ path ∈ ({"src/lib.rs"} : Finset String),
      order.authority.paths.allowsPath path := by
    decide +kernel
  constructor
  case profiles =>
    intro role hrole
    obtain ⟨i, hi, hprofile⟩ := hprofiles role hrole
    exact ⟨i, okOr_eq_ok_iff.mpr hi, h.payload ▸ hprofile⟩
  case paths => exact fun path hmem => h.payload ▸ hpath path hmem
  case harness => exact h.payload ▸ rfl
  case policy => exact h.payload ▸ List.mem_singleton.mpr rfl
  case repositoryPolicy => exact h.payload ▸ List.mem_singleton.mpr rfl
  case budget =>
    show ¬ exceedsBudget _ signed.payload.authority.budgets
    rw [h.payload]
    simp only [exceedsBudget, externalEffects, evidence, order, identified, ordered, authority]
    omega
  case effects =>
    intro e he
    have hdelivery : signed.payload.authority.effects.delivery ≠ .none := by
      rw [h.payload]
      decide
    obtain rfl := heffects e he
    refine ⟨?_, (by decide : ¬ isBlank effect.idempotencyKey), fun _ h => by cases h⟩
    simp [authorized, effect, evidence, hdelivery]

theorem bound :
    Bound primitives (expectation signed repository) (evidence signed repository effects) where
  expected := by simp [EvidenceExpectation.differs, evidence, expectation]
  authentic := h.authentic
  embedded := by
    have hsnapshot : order.sourceSnapshotDigest = sampleDigest := rfl
    have htarget : order.closureTarget = .pullRequest := rfl
    simp [EvidenceExpectation.misembedded, evidence, expectation, h.payload, h.keyId, hsnapshot,
      htarget]
  workerGeneration := rfl
  frozen := frozen h heffects
  satisfied := rfl
  candidateSha := (by decide : isGitSha candidateSha)
  remoteHeadSha := rfl
  resolved := by
    intro e he
    rw [heffects e he]
    exact ⟨nofun, nofun⟩
  localChecks := Finset.singleton_subset_iff.mpr (by
    simp [passedChecks, evidence])
  independent := rfl
  approved := rfl
  reviewed := rfl
  reviewer := ⟨_, rfl, rfl, rfl⟩
  pullRequest := fun _ => ⟨_, rfl, rfl, rfl, Finset.empty_subset _, rfl⟩

theorem evidence_plain (hrepository : ¬ isCredentialShaped repository) :
    Plain ((evidence signed repository effects).toValue primitives) := by
  have hpullRequest : Plain (pullRequestValue (pullRequest repository)) :=
    plain_obj_set 0 (plain_member 28 blank_plain rfl) rfl (plain_str.mpr hrepository)
  have hsideEffects : Plain (.arr (effects.map SideEffectEvidence.toValue)) := by
    refine plain_map.mpr fun e he => ?_
    rw [heffects e he]
    exact effect_plain
  have hdigest : Plain (.str signed.payloadDigest) := plain_member 6 (order_plain h) rfl
  have hset : (evidence signed repository effects).fields primitives
      = ((((blank.fields primitives).set 7 ("work_order_digest",
          .str signed.payloadDigest)).set 8 ("work_order", signed.toValue primitives)).set
          28 ("pull_request", pullRequestValue (pullRequest repository))).set 29 ("side_effects",
          .arr (effects.map SideEffectEvidence.toValue)) := rfl
  rw [EvidenceBundleV1.toValue, hset]
  exact plain_obj_set 29 (plain_obj_set 28 (plain_obj_set 8 (plain_obj_set 7 blank_plain rfl
    hdigest) rfl (order_plain h)) rfl hpullRequest) rfl hsideEffects

/-- The evidence is accepted with a signature of the worker. -/
theorem exists_accepted (hrepository : ¬ isCredentialShaped repository) :
    ∃ bundle : SignedEvidenceBundle,
      bundle.verify primitives key (expectation signed repository) = .ok ()
        ∧ bundle.payload = evidence signed repository effects := by
  obtain ⟨bundle, -, hpayload, hsealed⟩ := exists_sealed holdsKey
    (shape h heffects) (evidence_plain h heffects hrepository)
  refine ⟨bundle, verify_eq_ok_iff.mpr ⟨hsealed, ?_⟩, hpayload⟩
  rw [hpayload]
  exact bound h heffects

end Accepted

theorem exists_bundle : ∃ signed, SignedOrder signed ∧ ∃ bundle : SignedEvidenceBundle,
    bundle.verify primitives key (expectation signed "owner/name") = .ok ()
      ∧ bundle.payload = evidence signed "owner/name" [effect] := by
  obtain ⟨signed, hsigned⟩ := exists_signedOrder
  have hrepository : ¬ isCredentialShaped "owner/name" :=
    not_isCredentialShaped_of_codes (by decide +kernel)
  exact ⟨signed, hsigned, exists_accepted hsigned (fun _ h => List.mem_singleton.mp h) hrepository⟩

end Sample

end Asf.WorkerEvidence
