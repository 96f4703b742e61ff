import Asf.Evidence.Resigning

/-!
# What verified evidence guarantees

Results:

* `verify_meetsRequirements`: evidence that `verify` accepts meets every requirement
  of the expectation, if the cryptography is ideal.
* `verifySignedIntegrity_manifest`: the manifest of artifacts of a bundle with
  integrity, and that the verifier does not panic.
* `verify_approvals_iff`: approvals that were issued after the observation are
  accepted, wherever approvals are.
* `changed_paths_safe_iff`: changed paths are as `is_safe_repository_path` wants them where
  they have none of what `validate_path` does not look for.
-/

namespace Asf.Evidence

open Lib Contracts
open Sample (holds integrity primitives time toUtc_time verified)
open SignedRunmillEvidenceBundle (sign validateShape)

variable {statement : RunmillEvidenceStatement} {path : String}

/-! ## Requirements -/

/-- The requirements of an expectation, met by a bundle. `Signed` tells what the holder
    of a key signed, and `documents` are those that no digest confuses. -/
structure MeetsRequirements (p : Primitives) (Signed : VerifyingKey → List UInt8 → Prop)
    (documents : Set Json) (bundle : SignedRunmillEvidenceBundle)
    (expectation : RunmillEvidenceExpectation) : Prop where
  signed : ∃ message, bundle.unsignedCanonicalBytes p = .ok message
    ∧ Signed expectation.trustedSigner.verifyingKey message
  digest : ∀ document ∈ documents, documentDigest p document = .ok bundle.bundleDigest →
    document = bundle.statement.toValue p
  notRevoked : expectation.trustedSigner.revoked = false
  issuedAt : ∃ issuedAt, bundle.issuedAt.toUtc p = .ok issuedAt
    ∧ expectation.trustedSigner.validFrom.nanos ≤ issuedAt.nanos
    ∧ issuedAt.nanos < expectation.trustedSigner.validUntil.nanos
    ∧ issuedAt.nanos ≤ expectation.observedAt.nanos
  changedPaths : bundle.statement.predicate.source.changedPaths.toFinset = expectation.changedPaths
  requiredLocalChecks : ∀ required ∈ expectation.requiredLocalChecks, ∃ check,
    bundle.statement.predicate.verification.localChecks.filter (·.checkId == required) = [check]
  localChecks : ∀ check ∈ bundle.statement.predicate.verification.localChecks,
    check.conclusion = .success ∧ check.coverage = .complete
      ∧ check.candidateSha = expectation.candidateSha
      ∧ check.treeDigest = expectation.treeDigest
  requiredCiContexts : ∀ required ∈ expectation.requiredCiContexts, ∃ context,
    bundle.statement.predicate.verification.ciContexts.filter (·.context == required) = [context]
  ciContexts : ∀ context ∈ bundle.statement.predicate.verification.ciContexts,
    context.conclusion = .success ∧ context.candidateSha = expectation.candidateSha
  requiredReviews : ∀ stage, (expectation.reviewer stage).isSome →
    ∃ review ∈ bundle.statement.predicate.reviews, review.stage = stage
  reviews : ∀ review ∈ bundle.statement.predicate.reviews, ∃ reviewer,
    expectation.reviewer review.stage = some reviewer
      ∧ review.independent ∧ review.verdict = .pass
      ∧ review.reviewerPrincipal = reviewer.principalId
      ∧ review.reviewerProfile = reviewer.profileId
      ∧ review.candidateSha = expectation.candidateSha
      ∧ review.policyDigest = expectation.effectivePolicyDigest
  implementer : ∃ implementer ∈ bundle.statement.predicate.runtime.providers,
    implementer.role = .implementer ∧ ∀ review ∈ bundle.statement.predicate.reviews,
      review.reviewerPrincipal ≠ implementer.principalId
  pullRequest : bundle.statement.predicate.delivery.pullRequest.repository
      = expectation.independentlyObservedPullRequest.repository
    ∧ bundle.statement.predicate.delivery.pullRequest.number
      = expectation.independentlyObservedPullRequest.number
    ∧ bundle.statement.predicate.delivery.pullRequest.url
      = expectation.independentlyObservedPullRequest.url
    ∧ bundle.statement.predicate.delivery.pullRequest.headSha
      = expectation.independentlyObservedPullRequest.headSha
  observedSuccesses : expectation.requiredCiContexts
    ⊆ expectation.independentlyObservedPullRequest.successfulCiContexts
  branchPush : ∃ effect ∈ bundle.statement.predicate.sideEffects,
    effect.kind = .branchPush ∧ effect.candidateSha = expectation.candidateSha
  pullRequestCreate : ∃ effect ∈ bundle.statement.predicate.sideEffects,
    effect.kind = .pullRequestCreate ∧ effect.candidateSha = expectation.candidateSha

section Requirements

variable {p : Primitives} {bundle : SignedRunmillEvidenceBundle}
  {expectation : RunmillEvidenceExpectation}

/-- Keys that are distinct and contain the required one name one record. -/
theorem exists_filter_eq_singleton {α : Type} {l : List α} {key : α → String}
    (h : (l.map key).Nodup) {required : String} (hrequired : required ∈ l.map key) :
    ∃ a, l.filter (fun b => key b == required) = [a] := by
  obtain ⟨a, ha, rfl⟩ := List.mem_map.mp hrequired
  exact ⟨a, filter_key_eq_singleton h ha⟩

/-- The reviewer of a review is the provider of its stage, who is not the implementer. -/
theorem Verified.reviewer_ne_implementer (h : Verified p bundle expectation) :
    ∃ implementer ∈ bundle.statement.predicate.runtime.providers,
      implementer.role = .implementer ∧ ∀ review ∈ bundle.statement.predicate.reviews,
        review.reviewerPrincipal ≠ implementer.principalId := by
  obtain ⟨implementer, hmem, hrole⟩ := h.bindings.providers.present .implementer
  refine ⟨implementer, hmem, hrole, ?_⟩
  intro review hreview
  have hpass := h.bindings.reviews.passed review hreview
  obtain ⟨reviewer, hreviewer, -, -⟩ := hpass.authorized
  obtain ⟨provider, hprovider, hproviderRole, hprincipal⟩ := hpass.provider
  obtain ⟨-, hne⟩ := h.bindings.providers.reviewers review.stage reviewer hreviewer provider
    hprovider hproviderRole
  exact hprincipal ▸ hne implementer hmem hrole

/-- Evidence that is accepted meets the requirements. -/
theorem verify_meetsRequirements (p : Primitives) (Signed : VerifyingKey → List UInt8 → Prop)
    (documents : Set Json) (hideal : Ideal p Signed documents)
    (bundle : SignedRunmillEvidenceBundle) (expectation : RunmillEvidenceExpectation)
    (hstatement : bundle.statement.toValue p ∈ documents) (answer : ValidatedRunmillEvidence)
    (hverify : bundle.verify p expectation = .ok answer) :
    MeetsRequirements p Signed documents bundle expectation := by
  have h : Verified p bundle expectation := (verify_eq_ok_iff.mp hverify).1
  have hsignature := h.integrity.signature
  have hpaths : bundle.statement.predicate.source.changedPaths.Nodup :=
    h.integrity.shape.statement.predicate.source.changedPaths.2.2.imp fun hlt => ne_of_lt hlt
  have hsigned : ∃ message, bundle.unsignedCanonicalBytes p = .ok message
      ∧ Signed expectation.trustedSigner.verifyingKey message := by
    obtain ⟨encoded, -, message, hmessage, hverified⟩ := hsignature.signature
    exact ⟨message, hmessage, hideal.signed hverified⟩
  constructor
  case signed => exact hsigned
  case digest =>
    intro document hdocument hdigest
    exact hideal.collisionFree _ hdocument _ hstatement _ hdigest h.integrity.digest
  case notRevoked => exact hsignature.notRevoked
  case issuedAt => exact hsignature.issued
  case changedPaths => exact (sameValues_iff hpaths).mp h.bindings.requirements.changedPaths
  case requiredLocalChecks =>
    intro required hrequired
    exact exists_filter_eq_singleton h.bindings.localChecks.ids
      (h.bindings.localChecks.required required hrequired)
  case localChecks =>
    intro check hcheck
    have hpassed := h.bindings.localChecks.passed check hcheck
    exact ⟨hpassed.success, hpassed.complete, hpassed.candidateSha, hpassed.treeDigest⟩
  case requiredCiContexts =>
    intro required hrequired
    exact exists_filter_eq_singleton h.bindings.ciContexts.names
      (h.bindings.ciContexts.required required hrequired)
  case ciContexts =>
    intro context hcontext
    obtain ⟨hcandidate, hsuccess⟩ := h.bindings.ciContexts.passed context hcontext
    exact ⟨hsuccess, hcandidate⟩
  case requiredReviews => exact h.bindings.reviews.required
  case reviews =>
    intro review hreview
    have hpass := h.bindings.reviews.passed review hreview
    obtain ⟨reviewer, hreviewer, hprincipal, hprofile⟩ := hpass.authorized
    exact ⟨reviewer, hreviewer, hpass.independent, hpass.pass, hprincipal, hprofile,
      hpass.candidateSha, hpass.policyDigest⟩
  case implementer => exact h.reviewer_ne_implementer
  case pullRequest =>
    have hpr := h.bindings.pullRequest
    exact ⟨hpr.observedRepository, hpr.number, hpr.url, hpr.headSha.trans hpr.observedHeadSha.symm⟩
  case observedSuccesses => exact h.bindings.pullRequest.successful
  case branchPush =>
    obtain ⟨effect, hmem, hkind⟩ := h.bindings.sideEffects.branchPush
    exact ⟨effect, hmem, hkind, h.bindings.sideEffects.candidates effect hmem⟩
  case pullRequestCreate =>
    obtain ⟨effect, hmem, hkind⟩ := h.bindings.sideEffects.pullRequestCreate
    exact ⟨effect, hmem, hkind, h.bindings.sideEffects.candidates effect hmem⟩

/-- The sample, with what the holders of keys sign. -/
theorem verify_meetsRequirements_sample :
    Sample.bundle.verify primitives Sample.expectation = .ok Sample.bundle.validated
      ∧ MeetsRequirements primitives
        (fun key message => ∃ signer : Ed25519Signer, signer.verifyingKey = key
          ∧ primitives.verify key message (signer.signingKey message))
        {Sample.statement.toValue primitives} Sample.bundle Sample.expectation := by
  have hverify : Sample.bundle.verify primitives Sample.expectation
      = .ok Sample.bundle.validated :=
    verify_eq_ok_iff.mpr ⟨verified, rfl⟩
  refine ⟨hverify, verify_meetsRequirements _ _ _ ⟨?_, ?_⟩ _ _ rfl _ hverify⟩
  · intro key message signature h
    exact ⟨⟨"", key, fun _ => signature⟩, rfl, h⟩
  · rintro a rfl b rfl _ _ _
    rfl

end Requirements

/-! ## The manifest -/

/-- Distinct ids and digests, locations that are those of the digests, and references
    that are each resolved by one entry of the right kind. -/
structure ManifestIntegrity (predicate : RunmillEvidencePredicate) : Prop where
  ids : (predicate.artifacts.map (·.artifactId)).Nodup
  digests : (predicate.artifacts.map (·.digest)).Nodup
  locations : ∀ artifact ∈ predicate.artifacts, ∃ hex,
    artifact.digest = "sha256:" ++ hex ∧ artifact.locationRef = "cas://sha256/" ++ hex
  references : ∀ reference ∈ predicate.references, ∃ artifact,
    predicate.artifacts.filter (fun entry => entry.digest == reference.1) = [artifact]
      ∧ artifact.kind = reference.2

theorem SoundManifest.manifestIntegrity {predicate : RunmillEvidencePredicate}
    (h : SoundManifest predicate) : ManifestIntegrity predicate := by
  refine ⟨h.ids, h.digests, h.locations, ?_⟩
  intro reference hreference
  obtain ⟨artifact, hartifact, hdigest, hkind⟩ := h.references reference hreference
  refine ⟨artifact, ?_, hkind⟩
  rw [← hdigest]
  exact filter_key_eq_singleton h.digests hartifact

/-- The verifier does not panic, whatever it is given, and the manifest of a bundle with
    integrity resolves every reference of the predicate. -/
theorem verifySignedIntegrity_manifest (p : Primitives) (bundle : SignedRunmillEvidenceBundle)
    (trusted : TrustedRunmillEvidenceSigner) (observedAt : DateTime) :
    NoPanic (bundle.verifySignedIntegrity p trusted observedAt)
      ∧ (∀ expectation, NoPanic (bundle.verify p expectation))
      ∧ (bundle.verifySignedIntegrity p trusted observedAt = .ok () →
        ManifestIntegrity bundle.statement.predicate) := by
  refine ⟨verifySignedIntegrity_noPanic, fun _ => verify_noPanic, ?_⟩
  intro hverify
  exact (verifySignedIntegrity_eq_ok_iff.mp hverify).manifest.manifestIntegrity

theorem verifySignedIntegrity_manifest_sample : ManifestIntegrity Sample.predicate :=
  (verifySignedIntegrity_manifest primitives Sample.bundle Sample.trusted
    ⟨1000000000⟩).2.2 (verifySignedIntegrity_eq_ok_iff.mpr (integrity le_rfl))

/-! ## The times of approvals -/

/-- The approval with other times. -/
def RunmillApprovalEvidence.redated (issuedAt expiresAt : RunmillEvidenceTimestamp)
    (approval : RunmillApprovalEvidence) : RunmillApprovalEvidence :=
  { approval with issuedAt, expiresAt }

/-- The statement with other times in its approvals. -/
def RunmillEvidenceStatement.redated (statement : RunmillEvidenceStatement)
    (issuedAt expiresAt : RunmillEvidenceTimestamp) : RunmillEvidenceStatement :=
  { statement with
    predicate := { statement.predicate with
      approvals := statement.predicate.approvals.map (.redated issuedAt expiresAt) } }

/-- Two times after the observation. -/
structure Later (p : Primitives) (observedAt : DateTime)
    (issuedAt expiresAt : RunmillEvidenceTimestamp) : Prop where
  times : ∃ issued expires, issuedAt.toUtc p = .ok issued ∧ expiresAt.toUtc p = .ok expires
    ∧ observedAt.nanos < issued.nanos ∧ issued.nanos < expires.nanos
  plain : ¬ isCredentialShaped issuedAt.text ∧ ¬ isCredentialShaped expiresAt.text

section Times

variable {p : Primitives} {bundle bundle' : SignedRunmillEvidenceBundle}
  {expectation : RunmillEvidenceExpectation} {issuedAt expiresAt : RunmillEvidenceTimestamp}
  {signer : Ed25519Signer}

theorem RunmillEvidenceStatement.Valid.redated (h : statement.Valid p)
    (hissued : issuedAt.Reads p) (hexpires : expiresAt.Reads p) :
    (statement.redated issuedAt expiresAt).Valid p := by
  obtain ⟨hlength, happrovals⟩ := h.predicate.approvals
  refine { h with predicate := { h.predicate with approvals := ⟨?_, ?_⟩ } }
  · exact (List.length_map _).trans_le hlength
  · intro approval happroval
    obtain ⟨old, hold, rfl⟩ := List.mem_map.mp happroval
    exact { happrovals old hold with issuedAt := hissued, expiresAt := hexpires }

theorem plain_redated (h : Plain (statement.toValue p))
    (hissued : ¬ isCredentialShaped issuedAt.text)
    (hexpires : ¬ isCredentialShaped expiresAt.text) :
    Plain ((statement.redated issuedAt expiresAt).toValue p) := by
  have hpredicate : Plain (statement.predicate.toValue p) := plain_member 3 h rfl
  have happroval (approval : RunmillApprovalEvidence) (h : Plain approval.toValue) :
      Plain (approval.redated issuedAt expiresAt).toValue :=
    plain_obj_set 9 (plain_obj_set 8 h rfl (plain_str.mpr hissued)) rfl (plain_str.mpr hexpires)
  exact plain_obj_set 3 h rfl (plain_obj_set 10 hpredicate rfl
    (plain_map_map (plain_member 10 hpredicate rfl) happroval))

theorem references_redated (statement : RunmillEvidenceStatement) :
    (statement.redated issuedAt expiresAt).predicate.references
      = statement.predicate.references := by
  simp [RunmillEvidenceStatement.redated, RunmillEvidencePredicate.references,
    RunmillApprovalEvidence.redated]

theorem SoundManifest.redated (h : SoundManifest statement.predicate) :
    SoundManifest (statement.redated issuedAt expiresAt).predicate := by
  refine { h with references := ?_ }
  rw [references_redated]
  exact h.references

/-- The comparison with the expectation does not ask when an approval was issued, other
    than before it expires. -/
theorem Bindings.redated (h : Bindings p bundle expectation)
    (hlater : Later p expectation.observedAt issuedAt expiresAt)
    (hissuedAt : bundle'.issuedAt = bundle.issuedAt)
    (hstatement : bundle'.statement = bundle.statement.redated issuedAt expiresAt) :
    Bindings p bundle' expectation := by
  have hids : ((bundle.statement.redated issuedAt expiresAt).predicate.approvals.map
      (·.approvalId)).Nodup := by
    rw [RunmillEvidenceStatement.redated, List.map_map]
    exact h.approvals.ids
  have hbound : ∀ approval ∈ (bundle.statement.redated issuedAt expiresAt).predicate.approvals,
      BoundApproval p expectation approval := by
    intro approval happroval
    obtain ⟨old, hold, rfl⟩ := List.mem_map.mp happroval
    obtain ⟨issued, expires, hissued, hexpires, hafter, hlt⟩ := hlater.times
    exact { h.approvals.bound old hold with
      times := ⟨issued, expires, hissued, hexpires, hlt, hafter.trans hlt⟩ }
  have h' : Bindings p { bundle with statement := bundle.statement.redated issuedAt expiresAt }
      expectation :=
    { source := { h.source with }
      subject := h.subject
      requirements := { h.requirements with }
      notCancelled := h.notCancelled
      providers := { h.providers with }
      localChecks := { h.localChecks with }
      ciContexts := { h.ciContexts with }
      reviews := { h.reviews with }
      sideEffects := { h.sideEffects with }
      approvals := ⟨hids, hbound⟩
      pullRequest := { h.pullRequest with }
      times := h.times }
  rw [bindings_iff, hissuedAt, hstatement]
  exact (bindings_iff _ _ _).mp h'

theorem Verified.redated (h : Verified p bundle expectation)
    (hholds : Holds p signer expectation.trustedSigner)
    (hlater : Later p expectation.observedAt issuedAt expiresAt)
    (hsign : sign p (bundle.statement.redated issuedAt expiresAt)
      bundle.issuedAt signer = .ok bundle')
    (hsignature : ¬ isCredentialShaped bundle'.signature) : Verified p bundle' expectation := by
  obtain ⟨hissuedAt, hstatement⟩ := sign_fields hsign
  exact ⟨h.admissible, h.integrity.signed hholds hsign hsignature h.integrity.manifest.redated,
    h.bindings.redated hlater hissuedAt hstatement⟩

/-- The times of an approval contain the observation. -/
def RunmillApprovalEvidence.InForce (p : Primitives) (observedAt : DateTime)
    (approval : RunmillApprovalEvidence) : Prop :=
  ∃ issued expires, approval.issuedAt.toUtc p = .ok issued
    ∧ approval.expiresAt.toUtc p = .ok expires
    ∧ issued.nanos ≤ observedAt.nanos ∧ observedAt.nanos < expires.nanos

/-- Later times can be written into the approvals, and the signature over them is not
    taken for a credential. -/
def CanRedate (p : Primitives) (signer : Ed25519Signer) (observedAt : DateTime)
    (bundle : SignedRunmillEvidenceBundle) : Prop :=
  ∃ issuedAt expiresAt, Later p observedAt issuedAt expiresAt
    ∧ ∀ bundle', sign p (bundle.statement.redated issuedAt expiresAt)
        bundle.issuedAt signer = .ok bundle' → ¬ isCredentialShaped bundle'.signature

/-- All approvals of accepted evidence contain the observation only where no accepted
    evidence has approvals: any other bundle can be signed again with approvals of the
    future. -/
theorem verify_approvals_iff (p : Primitives) (expectation : RunmillEvidenceExpectation)
    (signer : Ed25519Signer) (hholds : Holds p signer expectation.trustedSigner)
    (hredate : ∀ bundle answer, bundle.verify p expectation = .ok answer →
      CanRedate p signer expectation.observedAt bundle) :
    (∀ (bundle : SignedRunmillEvidenceBundle) (answer : ValidatedRunmillEvidence),
        bundle.verify p expectation = .ok answer →
          ∀ approval ∈ bundle.statement.predicate.approvals,
            approval.InForce p expectation.observedAt)
      ↔ ∀ (bundle : SignedRunmillEvidenceBundle) (answer : ValidatedRunmillEvidence),
        bundle.verify p expectation = .ok answer → bundle.statement.predicate.approvals = [] := by
  constructor
  · intro hall bundle answer hverify
    by_contra hne
    obtain ⟨approval, rest, happrovals⟩ := List.exists_cons_of_ne_nil hne
    obtain ⟨issuedAt, expiresAt, hlater, hsignature⟩ := hredate bundle answer hverify
    have h : Verified p bundle expectation := (verify_eq_ok_iff.mp hverify).1
    obtain ⟨issued, expires, hissued, hexpires, hafter, hlt⟩ := hlater.times
    obtain ⟨bundle', hsign⟩ := h.integrity.exists_sign hholds
      (h.integrity.shape.statement.redated ⟨issued, hissued⟩ ⟨expires, hexpires⟩)
      (plain_redated (plain_toValue_iff.mp h.integrity.shape.plain).2.2.2.2.1 hlater.plain.1
        hlater.plain.2)
    have h' := h.redated hholds hlater hsign (hsignature bundle' hsign)
    have hmem : approval.redated issuedAt expiresAt ∈ bundle'.statement.predicate.approvals := by
      rw [(sign_fields hsign).2]
      exact List.mem_map_of_mem (happrovals ▸ List.mem_cons_self)
    -- The new approval is accepted, and it was issued after the observation.
    obtain ⟨found, _, hfound, -, hbefore, -⟩ :=
      hall bundle' bundle'.validated (verify_eq_ok_iff.mpr ⟨h', rfl⟩) _ hmem
    have heq : found = issued := Except.ok.inj (hfound.symm.trans hissued)
    rw [heq] at hbefore
    omega
  · intro hnone bundle answer hverify approval happroval
    rw [hnone bundle answer hverify] at happroval
    exact absurd happroval List.not_mem_nil

theorem Sample.later : Later primitives Sample.expectation.observedAt (time 2) (time 3) := by
  obtain ⟨-, -, hissued, hexpires⟩ := toUtc_time
  exact ⟨⟨_, _, hissued, hexpires, by decide, by decide⟩,
    not_isCredentialShaped_of_codes (by decide +kernel),
    not_isCredentialShaped_of_codes (by decide +kernel)⟩

/-- The sample has an approval, so that the property fails for its expectation. -/
theorem verify_approvals_sample :
    ¬ ∀ (bundle : SignedRunmillEvidenceBundle) (answer : ValidatedRunmillEvidence),
      bundle.verify primitives Sample.expectation = .ok answer →
        ∀ approval ∈ bundle.statement.predicate.approvals,
          approval.InForce primitives Sample.expectation.observedAt := by
  rw [verify_approvals_iff primitives Sample.expectation Sample.signer holds
    fun _ _ _ => ⟨_, _, Sample.later, fun _ => Sample.signature_not_credentialShaped⟩]
  intro hnone
  exact absurd (hnone Sample.bundle _ (verify_eq_ok_iff.mpr ⟨verified, rfl⟩)) (by decide)

/-- Evidence is accepted at second 1 with an approval that was issued at second 2. -/
theorem future_approval_accepted :
    ∃ bundle : SignedRunmillEvidenceBundle,
      bundle.verify primitives Sample.expectation = .ok bundle.validated
        ∧ Sample.expectation.observedAt = ⟨1000000000⟩
        ∧ ∃ approval ∈ bundle.statement.predicate.approvals,
          approval.issuedAt.toUtc primitives = .ok ⟨2000000000⟩ := by
  obtain ⟨-, -, hissued, hexpires⟩ := toUtc_time
  obtain ⟨bundle, hsign⟩ := verified.integrity.exists_sign holds
    (Sample.statement_valid.redated ⟨_, hissued⟩ ⟨_, hexpires⟩)
    (plain_redated Sample.statement_plain Sample.later.plain.1 Sample.later.plain.2)
  have h := verified.redated holds Sample.later hsign (Sample.signature_not_credentialShaped hsign)
  refine ⟨bundle, verify_eq_ok_iff.mpr ⟨h, rfl⟩, rfl, ?_⟩
  rw [(sign_fields hsign).2]
  exact ⟨_, List.mem_cons_self, hissued⟩

end Times

/-! ## Changed paths -/

theorem dot_mem_splitSlash (h : startsWith path "./") : "." ∈ splitSlash path := by
  obtain ⟨rest, hrest⟩ := List.isPrefixOf_iff_prefix.mp h
  have hsplit : path.toList.splitOn '/' = ['.'] :: rest.splitOn '/' := by
    rw [← hrest]
    exact List.splitOn_append_cons_self_of_not_mem (by decide : '/' ∉ ['.']) rest
  exact List.mem_map.mpr ⟨['.'], hsplit ▸ List.mem_cons_self, rfl⟩

theorem empty_mem_splitSlash (h : endsWith path "/") : "" ∈ splitSlash path := by
  obtain ⟨front, hfront⟩ := List.isSuffixOf_iff_suffix.mp h
  have hsplit : path.toList.splitOn '/' = front.splitOn '/' ++ [[]] := by
    rw [← hfront]
    exact List.splitOn_append_cons_self front []
  exact List.mem_map.mpr ⟨[], hsplit ▸ List.mem_append_right _ List.mem_cons_self, rfl⟩

/-- What `validate_path` does not look for: an empty segment, `.`, a wildcard, and a control
    character that is not ASCII. -/
def isLoosePath (path : String) : Bool :=
  (splitSlash path).any (fun segment => segment.isEmpty || segment == ".")
    || hasChar path '*' || hasChar path '?' || hasControl path

theorem isSafeRepositoryPath_iff (h : validatePath path = .ok ()) :
    Authority.isSafeRepositoryPath path ↔ isLoosePath path = false := by
  have hdot := @dot_mem_splitSlash path
  have hempty := @empty_mem_splitSlash path
  have hnil : "".isEmpty := rfl
  rw [validatePath, failIf_eq_ok_iff] at h
  simp only [isLoosePath, Authority.isSafeRepositoryPath]
  grind

theorem changed_paths_safe_iff (p : Primitives) (bundle : SignedRunmillEvidenceBundle)
    (h : bundle.validateShape p = .ok ()) :
    (∀ path ∈ bundle.statement.predicate.source.changedPaths,
        Authority.isSafeRepositoryPath path)
      ↔ ∀ path ∈ bundle.statement.predicate.source.changedPaths, isLoosePath path = false := by
  have hpaths := (validateShape_eq_ok_iff.mp h).statement.predicate.source.changedPaths.2.1
  exact forall₂_congr fun path hpath => isSafeRepositoryPath_iff (hpaths path hpath)

theorem changed_paths_safe_sample :
    Sample.bundle.statement.predicate.source.changedPaths = ["src/lib.rs"]
      ∧ ∀ path ∈ Sample.bundle.statement.predicate.source.changedPaths,
        Authority.isSafeRepositoryPath path :=
  ⟨rfl, (changed_paths_safe_iff primitives Sample.bundle
    (validateShape_eq_ok_iff.mpr (integrity le_rfl).shape)).mpr (by decide +kernel)⟩

namespace Sample

/-- The source with two spellings of one path. -/
def twiceSpelled : RunmillSourceEvidence :=
  { predicate.source with changedPaths := ["a//b", "a/b"] }

/-- `validate_shape` accepts both spellings. -/
theorem loose_path_accepted :
    validateShape primitives { bundle with
        statement := { Sample.statement with
          predicate := { predicate with source := twiceSpelled } } } = .ok ()
      ∧ Authority.isSafeRepositoryPath "a//b" = false := by
  refine ⟨validateShape_eq_ok_iff.mpr ?_, by decide +kernel⟩
  have hvalid := (integrity le_rfl).shape
  have hplain : Plain (predicate.toValue primitives) := plain_member 3 statement_plain rfl
  have hpaths : Plain (RunmillWorkOrderV1.texts twiceSpelled.changedPaths) :=
    plain_of_codes (by decide +kernel) (by decide +kernel)
  have hsource := plain_obj_set 10 (plain_member 4 hplain rfl) rfl hpaths
  refine { hvalid with
    statement := { hvalid.statement with
      predicate := { predicate_valid with
        source := { predicate_valid.source with changedPaths := by decide +kernel } } }
    plain := plain_obj_set 5 hvalid.plain rfl
      (plain_obj_set 3 statement_plain rfl (plain_obj_set 4 hplain rfl hsource)) }

end Sample

end Asf.Evidence
