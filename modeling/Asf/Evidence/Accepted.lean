import Asf.Evidence.Verify

/-!
# What verified evidence satisfies

Each check of `verify_signed_integrity` and `verify`
(`src/contracts/runmill_evidence.rs`) accepts exactly what one of the structures
below states.

Results:

* `verifySignedIntegrity_eq_ok_iff`: the integrity of a bundle (`Integrity`).
* `verify_eq_ok_iff`: evidence that agrees with an expectation (`Verified`).
* `verifySignedIntegrity_noPanic`, `verify_noPanic`: no bundle and no expectation make
  the verifier panic.
-/

namespace Asf.Evidence

open Lib Contracts
open SignedRunmillEvidenceBundle (verify)

variable {p : Primitives} {bundle : SignedRunmillEvidenceBundle}
  {trusted : TrustedRunmillEvidenceSigner} {observedAt : DateTime}
  {artifacts : List RunmillEvidenceArtifact} {predicate : RunmillEvidencePredicate}
  {digest : String} {providers : List RunmillProviderAttribution} {role : RunmillProviderRole}
  {expectation : RunmillEvidenceExpectation} {provider : RunmillProviderAttribution}

/-! ## The signature -/

/-- The signer was trusted when the bundle was issued, and signed it. -/
@[mk_iff] structure TrustedSignature (p : Primitives) (bundle : SignedRunmillEvidenceBundle)
    (trusted : TrustedRunmillEvidenceSigner) (observedAt : DateTime) : Prop where
  notRevoked : trusted.revoked = false
  keyId : trusted.keyId = bundle.keyId
  window : trusted.validFrom.nanos < trusted.validUntil.nanos
  issued : ∃ issuedAt, bundle.issuedAt.toUtc p = .ok issuedAt
    ∧ trusted.validFrom.nanos ≤ issuedAt.nanos ∧ issuedAt.nanos < trusted.validUntil.nanos
    ∧ issuedAt.nanos ≤ observedAt.nanos
  signature : ∃ encoded, bundle.signature = "base64url:" ++ encoded
    ∧ ∃ message, bundle.unsignedCanonicalBytes p = .ok message
      ∧ verifySignature p trusted.verifyingKey message encoded = .ok ()

theorem verifyTrustedSignature_eq_ok_iff :
    verifyTrustedSignature p bundle trusted observedAt = .ok ()
      ↔ TrustedSignature p bundle trusted observedAt := by
  simp only [verifyTrustedSignature, bind_eq_ok_iff, exists_unit_iff, failIf_eq_ok_iff, not_or,
    not_not, not_le, not_lt, Bool.not_eq_true, ne_eq, okOr_eq_ok_iff, afterStart_eq_some_iff,
    trustedSignature_iff, ← and_assoc, exists_and_right]

/-! ## The manifest -/

/-- The location of an artifact is that of its digest. -/
def RunmillEvidenceArtifact.Located (artifact : RunmillEvidenceArtifact) : Prop :=
  ∃ hex, artifact.digest = "sha256:" ++ hex ∧ artifact.locationRef = "cas://sha256/" ++ hex

/-- Ids and digests of the manifest are distinct, and what the predicate refers to is in
    the manifest with the kind that is asked for. -/
@[mk_iff] structure SoundManifest (predicate : RunmillEvidencePredicate) : Prop where
  ids : (predicate.artifacts.map (·.artifactId)).Nodup
  digests : (predicate.artifacts.map (·.digest)).Nodup
  locations : ∀ artifact ∈ predicate.artifacts, artifact.Located
  references : ∀ reference ∈ predicate.references,
    ∃ artifact ∈ predicate.artifacts, artifact.digest = reference.1 ∧ artifact.kind = reference.2
  cancellation : ∀ cancellation ∈ predicate.cancellation,
    cancellation.evidenceDigest ∈ predicate.artifacts.map (·.digest)

/-- The loop from sets with entries. -/
theorem manifestDigests_eq_ok_iff {ids digests out : List String} :
    manifestDigests ids digests artifacts = .ok out
      ↔ out = digests ++ artifacts.map (·.digest)
        ∧ (artifacts.map (·.artifactId)).Nodup ∧ (artifacts.map (·.digest)).Nodup
        ∧ (∀ artifact ∈ artifacts, artifact.Located)
        ∧ (∀ artifact ∈ artifacts, artifact.artifactId ∉ ids)
        ∧ ∀ artifact ∈ artifacts, artifact.digest ∉ digests := by
  induction artifacts generalizing ids digests with
  | nil =>
    simp only [manifestDigests, Except.ok.injEq, List.map_nil, List.append_nil, List.nodup_nil,
      List.not_mem_nil, false_implies, implies_true, and_true]
    exact eq_comm
  | cons artifact artifacts ih =>
    simp only [manifestDigests, bind_eq_ok_iff, exists_unit_iff, Exec.failIf_eq_ok_iff,
      Exec.expect_eq_ok_iff, afterStart_eq_some_iff, ih, not_not, ne_eq, List.map_cons,
      List.nodup_cons, List.forall_mem_cons, List.append_assoc, List.singleton_append,
      List.mem_append, List.mem_singleton, not_or, RunmillEvidenceArtifact.Located]
    constructor
    · rintro ⟨hid, hex, hdigest, hlocation, hnew, hout, hids, hdigests, hlocated, hfreshIds,
        hfreshDigests⟩
      refine ⟨hout, ⟨?_, hids⟩, ⟨?_, hdigests⟩, ⟨⟨hex, hdigest, hlocation⟩, hlocated⟩,
        ⟨hid, fun a ha => (hfreshIds a ha).1⟩, hnew, fun a ha => (hfreshDigests a ha).1⟩
      · intro hmem
        obtain ⟨a, ha, heq⟩ := List.mem_map.mp hmem
        exact (hfreshIds a ha).2 heq
      · intro hmem
        obtain ⟨a, ha, heq⟩ := List.mem_map.mp hmem
        exact (hfreshDigests a ha).2 heq
    · rintro ⟨hout, ⟨hidNew, hids⟩, ⟨hdigestNew, hdigests⟩, ⟨⟨hex, hdigest, hlocation⟩, hlocated⟩,
        ⟨hid, hfreshIds⟩, hnew, hfreshDigests⟩
      refine ⟨hid, hex, hdigest, hlocation, hnew, hout, hids, hdigests, hlocated, ?_, ?_⟩
      · exact fun a ha => ⟨hfreshIds a ha, fun heq => hidNew (heq ▸ List.mem_map_of_mem ha)⟩
      · exact fun a ha => ⟨hfreshDigests a ha, fun heq => hdigestNew (heq ▸ List.mem_map_of_mem ha)⟩

theorem hasKind_iff {kind : RunmillArtifactKind} :
    predicate.hasKind digest kind
      ↔ ∃ artifact ∈ predicate.artifacts, artifact.digest = digest ∧ artifact.kind = kind := by
  simp [RunmillEvidencePredicate.hasKind]

theorem verifyArtifactReferences_eq_ok_iff :
    verifyArtifactReferences predicate = .ok () ↔ SoundManifest predicate := by
  simp only [verifyArtifactReferences, bind_eq_ok_iff, exists_unit_iff, Exec.failIf_eq_ok_iff,
    manifestDigests_eq_ok_iff, List.nil_append, List.not_mem_nil, not_false_eq_true, implies_true,
    and_true, List.any_eq_true, Bool.not_eq_true', not_exists, not_and, Bool.not_eq_false,
    List.contains_iff_mem, hasKind_iff, List.forall_mem_append, List.forall_mem_map,
    soundManifest_iff, Option.mem_toList, Option.mem_def, and_assoc, exists_eq_left]
  -- A reference with the kind that is asked for is in the manifest.
  refine and_congr_right fun _ => and_congr_right fun _ => and_congr_right fun _ => ?_
  refine ⟨fun h => ⟨h.2.2, h.2.1⟩, fun h => ⟨?_, h.2, h.1⟩⟩
  intro reference hreference
  obtain ⟨artifact, hartifact, hdigest, -⟩ := h.1 reference hreference
  exact hdigest ▸ List.mem_map_of_mem hartifact

/-! ## The integrity of a bundle -/

/-- What `verify_signed_integrity` accepts. -/
@[mk_iff] structure Integrity (p : Primitives) (bundle : SignedRunmillEvidenceBundle)
    (trusted : TrustedRunmillEvidenceSigner) (observedAt : DateTime) : Prop where
  shape : bundle.Valid p
  trustedKeyId : validIdentifier trusted.keyId true
  digest : documentDigest p (bundle.statement.toValue p) = .ok bundle.bundleDigest
  signature : TrustedSignature p bundle trusted observedAt
  manifest : SoundManifest bundle.statement.predicate

theorem documentDigest_eq_ok_iff {value : Json} :
    documentDigest p value = .ok digest
      ↔ ∃ canonical, canonicalJson p value = .ok canonical ∧ sha256Digest p canonical = digest := by
  rw [documentDigest, map_eq_ok_iff]

theorem verifySignedIntegrity_eq_ok_iff :
    bundle.verifySignedIntegrity p trusted observedAt = .ok ()
      ↔ Integrity p bundle trusted observedAt := by
  simp only [SignedRunmillEvidenceBundle.verifySignedIntegrity, bind_eq_ok_iff, exists_unit_iff,
    Exec.failIf_eq_ok_iff, Exec.lift_eq_ok_iff, validateShape_eq_ok_iff,
    validateIdentifier_eq_ok_iff, verifyTrustedSignature_eq_ok_iff, not_not, ne_eq,
    verifyArtifactReferences_eq_ok_iff, integrity_iff, documentDigest_eq_ok_iff, ← and_assoc,
    exists_and_right]

/-! ## Providers and outcomes -/

theorem uniqueProviderRoles_eq_ok_iff {out : List RunmillProviderAttribution} :
    uniqueProviderRoles providers = .ok out ↔ out = providers ∧ (providers.map (·.role)).Nodup := by
  rw [uniqueProviderRoles, collect_eq_ok_iff]
  simp

theorem providerOf_eq_some_iff (h : (providers.map (·.role)).Nodup) :
    providerOf providers role = some provider ↔ provider ∈ providers ∧ provider.role = role :=
  find?_key_eq_some_iff h

theorem providerOf_ne_none_iff :
    providerOf providers role ≠ none ↔ ∃ provider ∈ providers, provider.role = role := by
  rw [providerOf, ne_eq, List.find?_eq_none]
  simp

theorem lacksOutcome_eq_false_iff {outcomes : List RunmillRoleOutcome}
    (h : (outcomes.map (·.role)).Nodup) {conclusion : RunmillRoleOutcomeConclusion} :
    lacksOutcome outcomes role conclusion = false
      ↔ ∃ outcome ∈ outcomes, outcome.role = role ∧ outcome.outcome = conclusion := by
  simp [lacksOutcome, Option.all_eq_false, find?_key_eq_some_iff h, and_assoc]

/-- Each role has one provider, the authorized reviewers are independent of the
    implementer, and the outcomes are those of a completed, reviewed run. -/
@[mk_iff] structure ProvidersAndOutcomes (predicate : RunmillEvidencePredicate)
    (expectation : RunmillEvidenceExpectation) : Prop where
  roles : (predicate.runtime.providers.map (·.role)).Nodup
  present : ∀ role, ∃ provider ∈ predicate.runtime.providers, provider.role = role
  reviewers : ∀ stage, ∀ reviewer ∈ expectation.reviewer stage,
    ∀ provider ∈ predicate.runtime.providers, provider.role = stage.role →
      provider.principalId = reviewer.principalId
        ∧ ∀ implementer ∈ predicate.runtime.providers, implementer.role = .implementer →
          provider.principalId ≠ implementer.principalId
  outcomeRoles : (predicate.roleOutcomes.map (·.role)).Nodup
  candidates : ∀ outcome ∈ predicate.roleOutcomes, outcome.candidateSha = expectation.candidateSha
  implemented : ∃ outcome ∈ predicate.roleOutcomes,
    outcome.role = .implementer ∧ outcome.outcome = .completed
  reviewed : ∀ stage, (expectation.reviewer stage).isSome →
    ∃ outcome ∈ predicate.roleOutcomes, outcome.role = stage.role ∧ outcome.outcome = .passed

theorem forall_stage_iff {P : RunmillReviewStage → Prop} :
    (∀ stage, P stage) ↔ P .localStage ∧ P .pullRequest :=
  ⟨fun h => ⟨h _, h _⟩, fun ⟨h1, h2⟩ stage => by cases stage <;> assumption⟩

theorem forall_role_iff {P : RunmillProviderRole → Prop} :
    (∀ role, P role) ↔ P .implementer ∧ P .localReviewer ∧ P .pullRequestReviewer :=
  ⟨fun h => ⟨h _, h _, h _⟩, fun ⟨h1, h2, h3⟩ role => by cases role <;> assumption⟩

/-- The provider that is looked up is the only one of its role. -/
theorem forall_providerOf_iff (h : (providers.map (·.role)).Nodup)
    (hprovider : providerOf providers role = some provider)
    {P : RunmillProviderAttribution → Prop} :
    (∀ other ∈ providers, other.role = role → P other) ↔ P provider := by
  constructor
  · intro hall
    obtain ⟨hmem, hrole⟩ := (providerOf_eq_some_iff h).mp hprovider
    exact hall provider hmem hrole
  · intro hP other hother hrole
    have hfound := (providerOf_eq_some_iff h).mpr ⟨hother, hrole⟩
    rwa [← Option.some.inj (hprovider.symm.trans hfound)]

theorem verifyReviewerProvider_eq_ok_iff (h : (providers.map (·.role)).Nodup)
    {implementer : RunmillProviderAttribution} {reviewer : AuthorizedRunmillReviewer}
    (hpresent : ∃ provider ∈ providers, provider.role = role)
    (himplementer : providerOf providers .implementer = some implementer) :
    verifyReviewerProvider providers implementer role reviewer = .ok ()
      ↔ ∀ provider ∈ providers, provider.role = role →
        provider.principalId = reviewer.principalId
          ∧ ∀ implementer ∈ providers, implementer.role = .implementer →
            provider.principalId ≠ implementer.principalId := by
  obtain ⟨provider, hprovider⟩ := hpresent
  rw [← providerOf_eq_some_iff h] at hprovider
  simp [verifyReviewerProvider, bind_eq_ok_iff, hprovider, forall_providerOf_iff h hprovider,
    forall_providerOf_iff h himplementer]

theorem verifyProvidersAndOutcomes_eq_ok_iff :
    verifyProvidersAndOutcomes predicate expectation = .ok ()
      ↔ ProvidersAndOutcomes predicate expectation := by
  simp only [verifyProvidersAndOutcomes, bind_eq_ok_iff, exists_unit_iff, Exec.failIf_eq_ok_iff,
    uniqueProviderRoles_eq_ok_iff, forM_eq_ok_iff, List.forall_mem_singleton, List.forall_mem_cons,
    Exec.expect_eq_ok_iff, collect_eq_ok_iff, Option.mem_toList, not_or, not_and, Bool.not_eq_true,
    ← ne_eq, providerOf_ne_none_iff, providersAndOutcomes_iff, forall_role_iff, forall_stage_iff,
    and_assoc, exists_eq_left]
  refine and_congr_right fun hroles => and_congr_right fun himplementing =>
    and_congr_right fun hlocal => and_congr_right fun hpr => ?_
  obtain ⟨implementer, himplementer⟩ := himplementing
  rw [← providerOf_eq_some_iff hroles] at himplementer
  -- The roles' providers are there, so the reviewers' checks can be read as statements.
  simp only [himplementer, Option.some.injEq, exists_eq_left', verifyReviewerProvider_eq_ok_iff
    hroles hlocal himplementer, verifyReviewerProvider_eq_ok_iff hroles hpr himplementer]
  refine and_congr_right fun _ => and_congr_right fun _ => and_congr_right fun houtcomes => ?_
  simp only [lacksOutcome_eq_false_iff houtcomes, ne_eq, not_not]
  rfl

/-! ## Checks, contexts and reviews -/

/-- The check is a complete success on the expected candidate and tree. -/
@[mk_iff] structure PassedLocally (p : Primitives) (expectation : RunmillEvidenceExpectation)
    (check : RunmillLocalCheckEvidence) : Prop where
  candidateSha : check.candidateSha = expectation.candidateSha
  treeDigest : check.treeDigest = expectation.treeDigest
  success : check.conclusion = .success
  complete : check.coverage = .complete
  times : ∃ startedAt completedAt, check.startedAt.toUtc p = .ok startedAt
    ∧ check.completedAt.toUtc p = .ok completedAt ∧ startedAt.nanos ≤ completedAt.nanos

@[mk_iff] structure LocalChecks (p : Primitives) (predicate : RunmillEvidencePredicate)
    (expectation : RunmillEvidenceExpectation) : Prop where
  ids : (predicate.verification.localChecks.map (·.checkId)).Nodup
  passed : ∀ check ∈ predicate.verification.localChecks, PassedLocally p expectation check
  required : ∀ required ∈ expectation.requiredLocalChecks,
    required ∈ predicate.verification.localChecks.map (·.checkId)

theorem verifyLocalCheck_eq_ok_iff {check : RunmillLocalCheckEvidence} :
    verifyLocalCheck p expectation check = .ok () ↔ PassedLocally p expectation check := by
  simp only [verifyLocalCheck, bind_eq_ok_iff, exists_unit_iff, Exec.failIf_eq_ok_iff, not_or,
    not_not, ne_eq, Exec.lift_eq_ok_iff, not_lt, passedLocally_iff, and_assoc, exists_and_left]

theorem verifyLocalChecks_eq_ok_iff :
    verifyLocalChecks p predicate expectation = .ok () ↔ LocalChecks p predicate expectation := by
  simp only [verifyLocalChecks, bind_eq_ok_iff, collect_eq_ok_iff, Exec.failIf_eq_ok_iff, not_not,
    verifyLocalCheck_eq_ok_iff, localChecks_iff, and_assoc, exists_eq_left]

@[mk_iff] structure CiContexts (predicate : RunmillEvidencePredicate)
    (expectation : RunmillEvidenceExpectation) : Prop where
  names : (predicate.verification.ciContexts.map (·.context)).Nodup
  passed : ∀ context ∈ predicate.verification.ciContexts,
    context.candidateSha = expectation.candidateSha ∧ context.conclusion = .success
  required : ∀ required ∈ expectation.requiredCiContexts,
    required ∈ predicate.verification.ciContexts.map (·.context)

theorem verifyCiContexts_eq_ok_iff :
    verifyCiContexts predicate expectation = .ok () ↔ CiContexts predicate expectation := by
  simp only [verifyCiContexts, bind_eq_ok_iff, collect_eq_ok_iff, Exec.failIf_eq_ok_iff, not_not,
    not_or, ne_eq, ciContexts_iff, and_assoc, exists_eq_left]

/-- The review is an independent pass of the reviewer that is authorized for its stage,
    on the expected candidate and policy. -/
@[mk_iff] structure AuthorizedPass (providers : List RunmillProviderAttribution)
    (expectation : RunmillEvidenceExpectation) (review : RunmillReviewEvidence) : Prop where
  authorized : ∃ authorized, expectation.reviewer review.stage = some authorized
    ∧ review.reviewerPrincipal = authorized.principalId
    ∧ review.reviewerProfile = authorized.profileId
  independent : review.independent
  provider : ∃ provider ∈ providers, provider.role = review.stage.role
    ∧ provider.principalId = review.reviewerPrincipal
  candidateSha : review.candidateSha = expectation.candidateSha
  policyDigest : review.policyDigest = expectation.effectivePolicyDigest
  pass : review.verdict = .pass

@[mk_iff] structure Reviews (predicate : RunmillEvidencePredicate)
    (expectation : RunmillEvidenceExpectation) : Prop where
  roles : (predicate.runtime.providers.map (·.role)).Nodup
  ids : (predicate.reviews.map (·.reviewId)).Nodup
  passed : ∀ review ∈ predicate.reviews,
    AuthorizedPass predicate.runtime.providers expectation review
  required : ∀ stage, (expectation.reviewer stage).isSome →
    ∃ review ∈ predicate.reviews, review.stage = stage

theorem verifyReview_eq_ok_iff (h : (providers.map (·.role)).Nodup)
    {review : RunmillReviewEvidence} :
    verifyReview expectation providers review = .ok ()
      ↔ AuthorizedPass providers expectation review := by
  simp only [verifyReview, bind_eq_ok_iff, Exec.lift_eq_ok_iff, okOr_eq_ok_iff,
    Exec.expect_eq_ok_iff, Exec.failIf_eq_ok_iff, not_or, not_not, ne_eq,
    providerOf_eq_some_iff h, authorizedPass_iff]
  constructor
  · rintro ⟨authorized, hauthorized, provider, ⟨hmem, hrole⟩, hindependent, hprincipal, hprofile,
      hprovider, hcandidate, hpolicy, hpass⟩
    exact ⟨⟨authorized, hauthorized, hprincipal, hprofile⟩, hindependent,
      ⟨provider, hmem, hrole, hprovider⟩, hcandidate, hpolicy, hpass⟩
  · rintro ⟨⟨authorized, hauthorized, hprincipal, hprofile⟩, hindependent,
      ⟨provider, hmem, hrole, hprovider⟩, hcandidate, hpolicy, hpass⟩
    exact ⟨authorized, hauthorized, provider, ⟨hmem, hrole⟩, hindependent, hprincipal, hprofile,
      hprovider, hcandidate, hpolicy, hpass⟩

theorem verifyReviews_eq_ok_iff :
    verifyReviews predicate expectation = .ok () ↔ Reviews predicate expectation := by
  simp only [verifyReviews, bind_eq_ok_iff, uniqueProviderRoles_eq_ok_iff, collect_eq_ok_iff,
    forM_eq_ok_iff, List.forall_mem_singleton, List.forall_mem_cons, Exec.failIf_eq_ok_iff, not_and,
    not_not, List.any_eq_true, beq_iff_eq, reviews_iff, forall_stage_iff, and_assoc, exists_eq_left]
  refine and_congr_right fun hroles => ?_
  simp only [verifyReview_eq_ok_iff hroles]
  rfl

/-! ## Effects, approvals and the pull request -/

@[mk_iff] structure SideEffects (predicate : RunmillEvidencePredicate)
    (expectation : RunmillEvidenceExpectation) : Prop where
  keys : (predicate.sideEffects.map (·.effectKey)).Nodup
  candidates : ∀ effect ∈ predicate.sideEffects, effect.candidateSha = expectation.candidateSha
  branchPush : ∃ effect ∈ predicate.sideEffects, effect.kind = .branchPush
  pullRequestCreate : ∃ effect ∈ predicate.sideEffects, effect.kind = .pullRequestCreate

theorem verifySideEffects_eq_ok_iff :
    verifySideEffects predicate expectation = .ok () ↔ SideEffects predicate expectation := by
  simp only [verifySideEffects, bind_eq_ok_iff, collect_eq_ok_iff, forM_eq_ok_iff,
    List.forall_mem_singleton, List.forall_mem_cons, Exec.failIf_eq_ok_iff, not_not, ne_eq,
    List.any_eq_true, beq_iff_eq, sideEffects_iff, and_assoc, exists_eq_left]

/-- The approval is bound to the order, the candidate and the policy, and has not
    expired when the pull request was observed. -/
@[mk_iff] structure BoundApproval (p : Primitives) (expectation : RunmillEvidenceExpectation)
    (approval : RunmillApprovalEvidence) : Prop where
  workOrderDigest : approval.workOrderDigest = expectation.workOrderPayloadDigest
  candidateSha : approval.candidateSha = expectation.candidateSha
  policyDigest : approval.policyDigest = expectation.effectivePolicyDigest
  times : ∃ issuedAt expiresAt, approval.issuedAt.toUtc p = .ok issuedAt
    ∧ approval.expiresAt.toUtc p = .ok expiresAt ∧ issuedAt.nanos < expiresAt.nanos
    ∧ expectation.observedAt.nanos < expiresAt.nanos

@[mk_iff] structure Approvals (p : Primitives) (predicate : RunmillEvidencePredicate)
    (expectation : RunmillEvidenceExpectation) : Prop where
  ids : (predicate.approvals.map (·.approvalId)).Nodup
  bound : ∀ approval ∈ predicate.approvals, BoundApproval p expectation approval

theorem verifyApproval_eq_ok_iff {approval : RunmillApprovalEvidence} :
    verifyApproval p expectation approval = .ok () ↔ BoundApproval p expectation approval := by
  simp only [verifyApproval, bind_eq_ok_iff, exists_unit_iff, Exec.failIf_eq_ok_iff, not_or,
    not_not, ne_eq, Exec.lift_eq_ok_iff, not_le, boundApproval_iff, and_assoc, exists_and_left]

theorem verifyApprovals_eq_ok_iff :
    verifyApprovals p predicate expectation = .ok () ↔ Approvals p predicate expectation := by
  simp [verifyApprovals, bind_eq_ok_iff, collect_eq_ok_iff, verifyApproval_eq_ok_iff, pure,
    Except.pure, approvals_iff]

@[mk_iff] structure PullRequest (predicate : RunmillEvidencePredicate)
    (expectation : RunmillEvidenceExpectation) : Prop where
  forge : predicate.delivery.pullRequest.forge = expectation.forge
  repository : predicate.delivery.pullRequest.repository = expectation.repository
  observedRepository : predicate.delivery.pullRequest.repository
    = expectation.independentlyObservedPullRequest.repository
  number : predicate.delivery.pullRequest.number
    = expectation.independentlyObservedPullRequest.number
  url : predicate.delivery.pullRequest.url = expectation.independentlyObservedPullRequest.url
  headRef : predicate.delivery.pullRequest.headRef = expectation.pullRequestHeadRef
  baseRef : predicate.delivery.pullRequest.baseRef = expectation.baseRef
  headSha : predicate.delivery.pullRequest.headSha = expectation.candidateSha
  observedBaseSha : expectation.independentlyObservedPullRequest.baseSha = expectation.baseSha
  observedHeadSha : expectation.independentlyObservedPullRequest.headSha = expectation.candidateSha
  observedRequired : expectation.independentlyObservedPullRequest.requiredCiContexts
    = expectation.requiredCiContexts
  successful : expectation.requiredCiContexts
    ⊆ expectation.independentlyObservedPullRequest.successfulCiContexts

theorem verifyPullRequest_eq_ok_iff :
    verifyPullRequest predicate expectation = .ok () ↔ PullRequest predicate expectation := by
  simp only [verifyPullRequest, Exec.failIf_eq_ok_iff, not_or, not_not, ne_eq, pullRequest_iff]

/-! ## The comparison as a whole -/

/-- The evidence is about the expected run, order, policy and candidate. -/
@[mk_iff] structure BoundSource (predicate : RunmillEvidencePredicate)
    (expectation : RunmillEvidenceExpectation) : Prop where
  runId : predicate.run.runId = expectation.runId
  attemptId : predicate.run.attemptId = expectation.attemptId
  workOrderId : predicate.run.workOrderId = expectation.workOrderId
  workOrderKeyId : predicate.workOrder.signature.keyId = expectation.workOrderKeyId
  envelopeDigest : predicate.workOrder.envelopeDigest = expectation.workOrderEnvelopeDigest
  payloadDigest : predicate.workOrder.payloadDigest = expectation.workOrderPayloadDigest
  policyDigest : predicate.policy.effectivePolicyDigest = expectation.effectivePolicyDigest
  forge : predicate.source.forge = expectation.forge
  repository : predicate.source.repository = expectation.repository
  baseRef : predicate.source.baseRef = expectation.baseRef
  baseSha : predicate.source.baseSha = expectation.baseSha
  candidateSha : predicate.source.candidateSha = expectation.candidateSha
  remoteHeadSha : predicate.source.remoteHeadSha = expectation.candidateSha
  treeDigest : predicate.source.treeDigest = expectation.treeDigest
  normalizedDiffDigest : predicate.source.normalizedDiffDigest = expectation.normalizedDiffDigest
  notMerged : predicate.source.mergeSha = none

theorem verifySource_eq_ok_iff :
    verifySource predicate expectation = .ok () ↔ BoundSource predicate expectation := by
  simp only [verifySource, Exec.failIf_eq_ok_iff, not_or, not_not, ne_eq, boundSource_iff,
    Bool.not_eq_true, Option.isSome_eq_false_iff, Option.isNone_iff_eq_none]

/-- The evidence repeats the requirements. -/
@[mk_iff] structure Requirements (predicate : RunmillEvidencePredicate)
    (expectation : RunmillEvidenceExpectation) : Prop where
  changedPaths : sameValues predicate.source.changedPaths expectation.changedPaths
  localChecks : sameValues predicate.policy.requiredLocalChecks expectation.requiredLocalChecks
  ciContexts : sameValues predicate.policy.requiredCiContexts expectation.requiredCiContexts
  localReview : predicate.policy.requireLocalReview = expectation.localReviewer.isSome
  pullRequestReview : predicate.policy.requirePullRequestReview
    = expectation.pullRequestReviewer.isSome

theorem verifyRequirements_eq_ok_iff :
    verifyRequirements predicate expectation = .ok () ↔ Requirements predicate expectation := by
  simp only [verifyRequirements, Exec.failIf_eq_ok_iff, not_or, not_not, ne_eq, requirements_iff]

/-- Without duplicates, comparing lengths and members compares sets. -/
theorem sameValues_iff {actual : List String} (h : actual.Nodup) {expected : Finset String} :
    sameValues actual expected ↔ actual.toFinset = expected := by
  simp only [sameValues, Bool.and_eq_true, beq_iff_eq, List.all_eq_true, decide_eq_true_eq]
  have hcard : actual.toFinset.card = actual.length := List.toFinset_card_of_nodup h
  constructor
  · rintro ⟨hlength, hmem⟩
    apply Finset.eq_of_subset_of_card_le
    · intro value hvalue
      exact hmem value (List.mem_toFinset.mp hvalue)
    · omega
  · rintro rfl
    exact ⟨hcard.symm, fun value hvalue => List.mem_toFinset.mpr hvalue⟩

/-- What `verify_bindings` accepts. -/
@[mk_iff] structure Bindings (p : Primitives) (bundle : SignedRunmillEvidenceBundle)
    (expectation : RunmillEvidenceExpectation) : Prop where
  source : BoundSource bundle.statement.predicate expectation
  subject : ∃ subject, bundle.statement.subject[0]? = some subject
    ∧ subject.name = s!"{expectation.forge}:{expectation.repository}"
    ∧ subject.digest.sha1 = expectation.candidateSha
  requirements : Requirements bundle.statement.predicate expectation
  notCancelled : bundle.statement.predicate.cancellation = none
  providers : ProvidersAndOutcomes bundle.statement.predicate expectation
  localChecks : LocalChecks p bundle.statement.predicate expectation
  ciContexts : CiContexts bundle.statement.predicate expectation
  reviews : Reviews bundle.statement.predicate expectation
  sideEffects : SideEffects bundle.statement.predicate expectation
  approvals : Approvals p bundle.statement.predicate expectation
  pullRequest : PullRequest bundle.statement.predicate expectation
  times : ∃ issuedAt completedAt, bundle.issuedAt.toUtc p = .ok issuedAt
    ∧ bundle.statement.predicate.run.completedAt.toUtc p = .ok completedAt
    ∧ completedAt.nanos ≤ issuedAt.nanos

theorem verifyBindings_eq_ok_iff :
    verifyBindings p bundle expectation = .ok () ↔ Bindings p bundle expectation := by
  simp only [verifyBindings, bind_eq_ok_iff, exists_unit_iff, Exec.failIf_eq_ok_iff, Exec.index,
    Exec.expect_eq_ok_iff, Exec.lift_eq_ok_iff, verifySource_eq_ok_iff,
    verifyRequirements_eq_ok_iff, verifyProvidersAndOutcomes_eq_ok_iff,
    verifyLocalChecks_eq_ok_iff, verifyCiContexts_eq_ok_iff, verifyReviews_eq_ok_iff,
    verifySideEffects_eq_ok_iff, verifyApprovals_eq_ok_iff, verifyPullRequest_eq_ok_iff, not_or,
    not_not, ne_eq, not_lt, Bool.not_eq_true, Option.isSome_eq_false_iff,
    Option.isNone_iff_eq_none, bindings_iff, exists_and_left]
  simp only [← and_assoc, exists_and_right]

/-- What `verify` accepts. -/
@[mk_iff] structure Verified (p : Primitives) (bundle : SignedRunmillEvidenceBundle)
    (expectation : RunmillEvidenceExpectation) : Prop where
  admissible : Contracts.validateExpectation expectation.checked = .ok ()
  integrity : Integrity p bundle expectation.trustedSigner expectation.observedAt
  bindings : Bindings p bundle expectation

/-- The answer of `verify`. -/
def SignedRunmillEvidenceBundle.validated (bundle : SignedRunmillEvidenceBundle) :
    ValidatedRunmillEvidence :=
  ⟨bundle.bundleDigest, bundle.statement.predicate.run.runId,
    bundle.statement.predicate.source.candidateSha, bundle.keyId⟩

theorem verify_eq_ok_iff {answer : ValidatedRunmillEvidence} :
    bundle.verify p expectation = .ok answer
      ↔ Verified p bundle expectation ∧ bundle.validated = answer := by
  simp [verify, bind_eq_ok_iff, exists_unit_iff, validateExpectation_eq,
    verifySignedIntegrity_eq_ok_iff, verifyBindings_eq_ok_iff, pure, Except.pure, verified_iff,
    and_assoc, SignedRunmillEvidenceBundle.validated]

/-! ## No panics -/

theorem uniqueProviderRoles_noPanic : NoPanic (uniqueProviderRoles providers) :=
  NoPanic.collect fun _ _ => .ok _

/-- Every provider is looked up after all roles were found. -/
theorem verifyProvidersAndOutcomes_noPanic :
    NoPanic (verifyProvidersAndOutcomes predicate expectation) := by
  refine .bind uniqueProviderRoles_noPanic fun providers _ =>
    .bind (.forM fun _ _ => .failIf _ _) fun _ hpresent => ?_
  replace hpresent := forM_eq_ok_iff.mp hpresent
  simp only [List.forall_mem_singleton, List.forall_mem_cons, Exec.failIf_eq_ok_iff] at hpresent
  obtain ⟨himplementer, hlocal, hpr⟩ := hpresent
  refine .bind (.expect himplementer _) fun implementer _ => .seq (.forM fun entry hentry => ?_) <|
    .bind (.collect fun _ _ => .failIf _ _) fun _ _ => .failIf _ _
  refine .forM fun reviewer _ => .bind (.expect ?_ _) fun _ _ => .failIf _ _
  simp only [List.mem_cons, List.not_mem_nil, or_false] at hentry
  rcases hentry with rfl | rfl
  · exact hlocal
  · exact hpr

theorem verifyLocalChecks_noPanic : NoPanic (verifyLocalChecks p predicate expectation) :=
  .bind (.collect fun _ _ => .seq (.failIf _ _) <| .bind (.lift _) fun _ _ =>
    .bind (.lift _) fun _ _ => .failIf _ _) fun _ _ => .failIf _ _

theorem verifyCiContexts_noPanic : NoPanic (verifyCiContexts predicate expectation) :=
  .bind (.collect fun _ _ => .failIf _ _) fun _ _ => .failIf _ _

/-- The reviews are looked at after the providers. -/
theorem verifyReviews_noPanic
    (h : ∀ role, ∃ provider ∈ predicate.runtime.providers, provider.role = role) :
    NoPanic (verifyReviews predicate expectation) := by
  refine .bind uniqueProviderRoles_noPanic fun providers hproviders => ?_
  obtain ⟨rfl, -⟩ := uniqueProviderRoles_eq_ok_iff.mp hproviders
  refine .bind (.collect fun review _ => ?_) fun _ _ => .forM fun _ _ => .failIf _ _
  exact .bind (.lift _) fun _ _ =>
    .bind (.expect (providerOf_ne_none_iff.mpr (h _)) _) fun _ _ => .failIf _ _

theorem verifySideEffects_noPanic : NoPanic (verifySideEffects predicate expectation) :=
  .bind (.collect fun _ _ => .failIf _ _) fun _ _ => .forM fun _ _ => .failIf _ _

theorem verifyApprovals_noPanic : NoPanic (verifyApprovals p predicate expectation) :=
  .bind (.collect fun _ _ => .seq (.failIf _ _) <| .bind (.lift _) fun _ _ =>
    .bind (.lift _) fun _ _ => .failIf _ _) fun _ _ => .ok _

theorem verifyBindings_noPanic (h : bundle.statement.subject ≠ []) :
    NoPanic (verifyBindings p bundle expectation) := by
  refine .seq (.failIf _ _) <| .bind (.expect ?_ _) fun _ _ => .seq (.failIf _ _) <|
    .seq (.failIf _ _) <| .seq (.failIf _ _) <|
    .bind verifyProvidersAndOutcomes_noPanic fun _ hproviders => .seq verifyLocalChecks_noPanic <|
    .seq verifyCiContexts_noPanic <| .seq (verifyReviews_noPanic ?_) <|
    .seq verifySideEffects_noPanic <| .seq verifyApprovals_noPanic <| .seq (.failIf _ _) <|
    .bind (.lift _) fun _ _ => .bind (.lift _) fun _ _ => .failIf _ _
  · obtain ⟨subject, rest, hsubject⟩ := List.exists_cons_of_ne_nil h
    rw [hsubject]
    exact fun hnone => nomatch hnone
  · exact (verifyProvidersAndOutcomes_eq_ok_iff.mp hproviders).present

/-- A digest of the right form has the algorithm in front. -/
theorem afterStart_sha256_ne_none (h : isSha256Digest digest) :
    afterStart "sha256:" digest ≠ none := by
  simp only [isSha256Digest, Bool.and_eq_true] at h
  rw [afterStart, if_pos h.1.1]
  exact Option.some_ne_none _

theorem manifestDigests_noPanic {ids digests : List String}
    (h : ∀ artifact ∈ artifacts, isSha256Digest artifact.digest) :
    NoPanic (manifestDigests ids digests artifacts) := by
  induction artifacts generalizing ids digests with
  | nil => exact .ok _
  | cons artifact artifacts ih =>
    rw [List.forall_mem_cons] at h
    exact .seq (.failIf _ _) <| .bind (.expect (afterStart_sha256_ne_none h.1) _) fun _ _ =>
      .seq (.failIf _ _) <| .seq (.failIf _ _) (ih h.2)

/-- The manifest is read after the shape of its digests was checked. -/
theorem verifySignedIntegrity_noPanic :
    NoPanic (bundle.verifySignedIntegrity p trusted observedAt) := by
  refine .bind validateShape_noPanic fun _ hshape => .seq validateIdentifier_noPanic <|
    .bind (.lift _) fun _ _ => .seq (.failIf _ _) <| .seq (.lift _) <|
    .bind (manifestDigests_noPanic ?_) fun _ _ => .seq (.failIf _ _) (.failIf _ _)
  have hvalid := (validateShape_eq_ok_iff.mp hshape).statement.predicate.artifacts.2
  exact fun artifact hartifact => (hvalid artifact hartifact).digest

theorem verify_noPanic : NoPanic (bundle.verify p expectation) := by
  rw [verify, validateExpectation_eq]
  refine .seq (.lift _) <| .bind verifySignedIntegrity_noPanic fun _ hintegrity =>
    .seq (verifyBindings_noPanic ?_) (.ok _)
  obtain ⟨subject, hsubject, -⟩ :=
    (verifySignedIntegrity_eq_ok_iff.mp hintegrity).shape.statement.subject
  rw [hsubject]
  exact List.cons_ne_nil subject []

end Asf.Evidence
