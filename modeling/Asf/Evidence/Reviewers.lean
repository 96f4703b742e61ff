import Asf.Evidence.LedgerBound
import Asf.Evidence.Resigning

/-!
# The reviewers that evidence names

`verify_complete_evidence` (`src/runtime/evidence_verification.rs`) takes the principals of
both reviewers from the evidence (`reviewer_principal`) and hands them to the verifier as
the authorized ones. The worker that signs the evidence can put other names there.

Results:

* `Verified.renamed`: evidence with another reviewer, signed again, is verified against
  the expectation that names this reviewer.
* `CompleteEvidence.renamed`: the same evidence is complete with the same rows.
* `reviewers_agree_iff`: the rows determine the reviewers of accepted evidence only where
  they accept no evidence.
-/

namespace Asf.Evidence

open Lib Contracts
open SignedRunmillEvidenceBundle (sign)
open Instance (key)
open List (mem_map mem_map_of_mem)

variable {other : RunmillReviewStage} {statement : RunmillEvidenceStatement}
  {provider : RunmillProviderAttribution} {review : RunmillReviewEvidence}

/-! ## Another reviewer -/

def RunmillProviderAttribution.renamed (stage : RunmillReviewStage) (principal : String)
    (provider : RunmillProviderAttribution) : RunmillProviderAttribution :=
  { provider with
    principalId := if provider.role = stage.role then principal else provider.principalId }

def RunmillReviewEvidence.renamed (stage : RunmillReviewStage) (principal : String)
    (review : RunmillReviewEvidence) : RunmillReviewEvidence :=
  { review with
    reviewerPrincipal := if review.stage = stage then principal else review.reviewerPrincipal }

/-- The predicate with another reviewer at a stage. -/
def RunmillEvidencePredicate.renamed (predicate : RunmillEvidencePredicate)
    (stage : RunmillReviewStage) (principal : String) : RunmillEvidencePredicate :=
  { predicate with
    runtime := { predicate.runtime with
      providers := predicate.runtime.providers.map (.renamed stage principal) }
    reviews := predicate.reviews.map (.renamed stage principal) }

def RunmillEvidenceStatement.renamed (statement : RunmillEvidenceStatement)
    (stage : RunmillReviewStage) (principal : String) : RunmillEvidenceStatement :=
  { statement with predicate := statement.predicate.renamed stage principal }

/-- The expectation of another reviewer at a stage. -/
def RunmillEvidenceExpectation.renamed (expectation : RunmillEvidenceExpectation)
    (stage : RunmillReviewStage) (principal : String) : RunmillEvidenceExpectation :=
  match stage with
  | .localStage => { expectation with
      localReviewer := expectation.localReviewer.map ({ · with principalId := principal }) }
  | .pullRequest => { expectation with
      pullRequestReviewer :=
        expectation.pullRequestReviewer.map ({ · with principalId := principal }) }

theorem role_injective : Function.Injective RunmillReviewStage.role := by
  intro stage other h
  cases stage <;> cases other <;> first | rfl | exact nomatch h

theorem role_ne_implementer (stage : RunmillReviewStage) : stage.role ≠ .implementer := by
  cases stage <;> decide

section Renaming

variable {p : Primitives} {bundle bundle' : SignedRunmillEvidenceBundle}
  {predicate : RunmillEvidencePredicate} {expectation : RunmillEvidenceExpectation}
  {stage : RunmillReviewStage} {principal : String} {signer : Ed25519Signer}

theorem reviewer_renamed_self :
    (expectation.renamed stage principal).reviewer stage
      = (expectation.reviewer stage).map ({ · with principalId := principal }) := by
  cases stage <;> rfl

theorem reviewer_renamed_of_ne (h : other ≠ stage) :
    (expectation.renamed stage principal).reviewer other = expectation.reviewer other := by
  cases stage <;> cases other <;> first | rfl | exact absurd rfl h

theorem isSome_reviewer_renamed :
    ((expectation.renamed stage principal).reviewer other).isSome
      = (expectation.reviewer other).isSome := by
  by_cases h : other = stage
  · rw [h, reviewer_renamed_self, Option.isSome_map]
  · rw [reviewer_renamed_of_ne h]

/-! ## The shape of the statement -/

theorem RunmillEvidenceStatement.Valid.renamed (h : statement.Valid p)
    (hprincipal : validIdentifier principal true) :
    (statement.renamed stage principal).Valid p := by
  obtain ⟨hproviders, hprovider⟩ := h.predicate.providers
  obtain ⟨hreviews, hreview⟩ := h.predicate.reviews
  refine { h with predicate := { h.predicate with providers := ⟨?_, ?_⟩, reviews := ⟨?_, ?_⟩ } }
  · exact (List.length_map _).trans_le hproviders
  · intro provider hmem
    obtain ⟨old, hold, rfl⟩ := mem_map.mp hmem
    refine { hprovider old hold with principalId := ?_ }
    show validIdentifier (if old.role = stage.role then principal else old.principalId) true
    split
    · exact hprincipal
    · exact (hprovider old hold).principalId
  · exact (List.length_map _).trans_le hreviews
  · intro review hmem
    obtain ⟨old, hold, rfl⟩ := mem_map.mp hmem
    refine { hreview old hold with reviewerPrincipal := ?_ }
    show validIdentifier (if old.stage = stage then principal else old.reviewerPrincipal) true
    split
    · exact hprincipal
    · exact (hreview old hold).reviewerPrincipal

/-- A member that is renamed or kept. -/
theorem plain_str_ite {renames : Prop} [Decidable renames] {name : String}
    (hprincipal : ¬ isCredentialShaped principal) (h : Plain (.str name)) :
    Plain (.str (if renames then principal else name)) := by
  split
  · exact plain_str.mpr hprincipal
  · exact h

theorem plain_renamed (h : Plain (statement.toValue p))
    (hprincipal : ¬ isCredentialShaped principal) :
    Plain ((statement.renamed stage principal).toValue p) := by
  have hpredicate : Plain (statement.predicate.toValue p) := plain_member 3 h rfl
  have hruntime : Plain statement.predicate.runtime.toValue := plain_member 5 hpredicate rfl
  have hprovider (provider : RunmillProviderAttribution) (h : Plain provider.toValue) :
      Plain (provider.renamed stage principal).toValue :=
    plain_obj_set 3 h rfl (plain_str_ite hprincipal (plain_member 3 h rfl))
  have hreview (review : RunmillReviewEvidence) (h : Plain review.toValue) :
      Plain (review.renamed stage principal).toValue :=
    plain_obj_set 2 h rfl (plain_str_ite hprincipal (plain_member 2 h rfl))
  have hproviders := plain_map_map (plain_member 6 hruntime rfl) hprovider
  have hreviews := plain_map_map (plain_member 8 hpredicate rfl) hreview
  exact plain_obj_set 3 h rfl (plain_obj_set 8 (plain_obj_set 5 hpredicate rfl
    (plain_obj_set 6 hruntime rfl hproviders)) rfl hreviews)

theorem SoundManifest.renamed (h : SoundManifest predicate) :
    SoundManifest (predicate.renamed stage principal) := by
  have hreferences : (predicate.renamed stage principal).references = predicate.references := by
    simp [RunmillEvidencePredicate.renamed, RunmillEvidencePredicate.references,
      RunmillReviewEvidence.renamed, List.flatMap_map]
  refine { h with references := ?_ }
  rw [hreferences]
  exact h.references

/-! ## The comparison with the expectation -/

theorem roles_renamed (providers : List RunmillProviderAttribution) :
    (providers.map (RunmillProviderAttribution.renamed stage principal)).map (·.role)
      = providers.map (·.role) := by
  rw [List.map_map]
  rfl

theorem ProvidersAndOutcomes.renamed (h : ProvidersAndOutcomes predicate expectation)
    (hfresh : ∀ implementer ∈ predicate.runtime.providers, implementer.role = .implementer →
      principal ≠ implementer.principalId) :
    ProvidersAndOutcomes (predicate.renamed stage principal)
      (expectation.renamed stage principal) := by
  have hcandidate : (expectation.renamed stage principal).candidateSha
      = expectation.candidateSha := by
    cases stage <;> rfl
  refine {
    roles := (roles_renamed _).symm ▸ h.roles
    present := ?_
    reviewers := ?_
    outcomeRoles := h.outcomeRoles
    candidates := hcandidate ▸ h.candidates
    implemented := h.implemented
    reviewed := fun other hother => h.reviewed other (isSome_reviewer_renamed ▸ hother) }
  · intro role
    obtain ⟨provider, hmem, hrole⟩ := h.present role
    exact ⟨provider.renamed stage principal, mem_map_of_mem hmem, hrole⟩
  · rintro other reviewer hreviewer _ hmem hrole
    obtain ⟨provider, hprovider, rfl⟩ := mem_map.mp hmem
    -- Renaming does not touch the implementer.
    have himplementer : ∀ value : String, (∀ implementer ∈ predicate.runtime.providers,
        implementer.role = .implementer → value ≠ implementer.principalId) →
        ∀ implementer ∈ (predicate.renamed stage principal).runtime.providers,
          implementer.role = .implementer → value ≠ implementer.principalId := by
      intro value hvalue implementer himplementer hrole
      obtain ⟨old, hold, rfl⟩ := mem_map.mp himplementer
      have holdRole : old.role = .implementer := hrole
      have hprincipal : (old.renamed stage principal).principalId = old.principalId :=
        if_neg (holdRole ▸ (role_ne_implementer stage).symm)
      rw [hprincipal]
      exact hvalue old hold holdRole
    have hproviderRole : provider.role = other.role := hrole
    by_cases hstage : other = stage
    · subst hstage
      rw [reviewer_renamed_self, Option.mem_def, Option.map_eq_some_iff] at hreviewer
      obtain ⟨old, -, rfl⟩ := hreviewer
      have hprincipal : (provider.renamed other principal).principalId = principal :=
        if_pos hproviderRole
      rw [hprincipal]
      exact ⟨rfl, himplementer principal hfresh⟩
    · rw [reviewer_renamed_of_ne hstage] at hreviewer
      obtain ⟨heq, hne⟩ := h.reviewers other reviewer hreviewer provider hprovider hproviderRole
      have hprincipal : (provider.renamed stage principal).principalId = provider.principalId :=
        if_neg (hproviderRole ▸ fun hrole => hstage (role_injective hrole))
      rw [hprincipal]
      exact ⟨heq, himplementer _ hne⟩

theorem AuthorizedPass.renamed {providers : List RunmillProviderAttribution}
    (h : AuthorizedPass providers expectation review) :
    AuthorizedPass (providers.map (.renamed stage principal))
      (expectation.renamed stage principal) (review.renamed stage principal) := by
  obtain ⟨authorized, hauthorized, hprincipal, hprofile⟩ := h.authorized
  obtain ⟨provider, hmem, hrole, hprovider⟩ := h.provider
  have hmem' : provider.renamed stage principal ∈ providers.map (.renamed stage principal) :=
    mem_map_of_mem hmem
  have hfields : (expectation.renamed stage principal).candidateSha = expectation.candidateSha
      ∧ (expectation.renamed stage principal).effectivePolicyDigest
        = expectation.effectivePolicyDigest := by
    cases stage <;> exact ⟨rfl, rfl⟩
  refine ⟨?_, h.independent, ⟨_, hmem', hrole, ?_⟩, hfields.1 ▸ h.candidateSha,
    hfields.2 ▸ h.policyDigest, h.pass⟩
  · show ∃ authorized, (expectation.renamed stage principal).reviewer review.stage
        = some authorized
      ∧ (if review.stage = stage then principal else review.reviewerPrincipal)
        = authorized.principalId ∧ review.reviewerProfile = authorized.profileId
    by_cases hstage : review.stage = stage
    · rw [if_pos hstage, hstage, reviewer_renamed_self, ← hstage, hauthorized]
      exact ⟨_, rfl, rfl, hprofile⟩
    · rw [if_neg hstage, reviewer_renamed_of_ne hstage]
      exact ⟨authorized, hauthorized, hprincipal, hprofile⟩
  · show (if provider.role = stage.role then principal else provider.principalId)
      = if review.stage = stage then principal else review.reviewerPrincipal
    simp only [hrole, role_injective.eq_iff, hprovider]

theorem Reviews.renamed (h : Reviews predicate expectation) :
    Reviews (predicate.renamed stage principal) (expectation.renamed stage principal) := by
  refine ⟨(roles_renamed _).symm ▸ h.roles, ?_, ?_, ?_⟩
  · show ((predicate.reviews.map (RunmillReviewEvidence.renamed stage principal)).map
      (·.reviewId)).Nodup
    rw [List.map_map]
    exact h.ids
  · intro review hreview
    obtain ⟨old, hold, rfl⟩ := mem_map.mp hreview
    exact (h.passed old hold).renamed
  · intro other hother
    obtain ⟨review, hmem, hstage⟩ := h.required other (isSome_reviewer_renamed ▸ hother)
    exact ⟨review.renamed stage principal, mem_map_of_mem hmem, hstage⟩

theorem Bindings.renamed (h : Bindings p bundle expectation)
    (hfresh : ∀ implementer ∈ bundle.statement.predicate.runtime.providers,
      implementer.role = .implementer → principal ≠ implementer.principalId)
    (hissuedAt : bundle'.issuedAt = bundle.issuedAt)
    (hstatement : bundle'.statement = bundle.statement.renamed stage principal) :
    Bindings p bundle' (expectation.renamed stage principal) := by
  have hproviders : ProvidersAndOutcomes (bundle.statement.predicate.renamed stage principal)
      (expectation.renamed stage principal) := h.providers.renamed hfresh
  have hreviews : Reviews (bundle.statement.predicate.renamed stage principal)
      (expectation.renamed stage principal) := h.reviews.renamed
  have hrequired (other : RunmillReviewStage) : (expectation.reviewer other).isSome
      = ((expectation.renamed stage principal).reviewer other).isSome :=
    isSome_reviewer_renamed.symm
  rw [bindings_iff, hissuedAt, hstatement]
  -- The other checks read fields that renaming does not change, once the stage is known.
  cases stage <;>
  exact ⟨{ h.source with }, h.subject, { h.requirements with
      localReview := h.requirements.localReview.trans (hrequired .localStage)
      pullRequestReview := h.requirements.pullRequestReview.trans (hrequired .pullRequest) },
    h.notCancelled, hproviders,
    { h.localChecks with passed := fun check hcheck => { h.localChecks.passed check hcheck with } },
    { h.ciContexts with }, hreviews, { h.sideEffects with },
    { h.approvals with bound := fun approval happroval =>
        { h.approvals.bound approval happroval with } },
    { h.pullRequest with }, h.times⟩

/-- The expectation of a valid name is as admissible. -/
theorem validateExpectation_renamed (hprincipal : validIdentifier principal true)
    (h : Contracts.validateExpectation expectation.checked = .ok ()) :
    Contracts.validateExpectation (expectation.renamed stage principal).checked = .ok () := by
  have hreviewer {reviewer : AuthorizedRunmillReviewer} (hvalid : reviewer.validate = .ok ()) :
      ({ reviewer with principalId := principal } : AuthorizedRunmillReviewer).validate
        = .ok () := by
    simp only [AuthorizedRunmillReviewer.validate, seq_eq_ok_iff] at hvalid ⊢
    exact ⟨validateIdentifier_iff.mpr hprincipal, hvalid.2⟩
  have hmap {reviewer? : Option AuthorizedRunmillReviewer}
      (hvalid : ∀ reviewer ∈ reviewer?.toList, reviewer.validate = .ok ()) :
      ∀ reviewer ∈ (reviewer?.map ({ · with principalId := principal })).toList,
        AuthorizedRunmillReviewer.validate reviewer = .ok () := by
    cases reviewer? <;> simp_all
  simp only [Contracts.validateExpectation, seq_eq_ok_iff, forM_eq_ok_iff, List.forall_mem_append,
    ← and_assoc] at h ⊢
  obtain ⟨⟨hfields, hlocal⟩, hpr⟩ := h
  cases stage with
  | localStage => exact ⟨⟨hfields, hmap hlocal⟩, hpr⟩
  | pullRequest => exact ⟨⟨hfields, hlocal⟩, hmap hpr⟩

/-- Evidence with another reviewer, signed again, meets the expectation of this reviewer. -/
theorem Verified.renamed (h : Verified p bundle expectation)
    (hholds : Holds p signer expectation.trustedSigner)
    (hprincipal : validIdentifier principal true)
    (hfresh : ∀ implementer ∈ bundle.statement.predicate.runtime.providers,
      implementer.role = .implementer → principal ≠ implementer.principalId)
    (hsign : sign p (bundle.statement.renamed stage principal) bundle.issuedAt signer = .ok bundle')
    (hsignature : ¬ isCredentialShaped bundle'.signature) :
    Verified p bundle' (expectation.renamed stage principal) := by
  obtain ⟨hissuedAt, hstatement⟩ := sign_fields hsign
  have hintegrity : Integrity p bundle' expectation.trustedSigner expectation.observedAt :=
    h.integrity.signed hholds hsign hsignature h.integrity.manifest.renamed
  refine ⟨validateExpectation_renamed hprincipal h.admissible, ?_,
    h.bindings.renamed hfresh hissuedAt hstatement⟩
  cases stage <;> exact hintegrity

end Renaming

/-! ## The same rows -/

/-- The evidence row that stores another bundle. -/
def EvidenceRow.storing (row : EvidenceRow) (p : Primitives) (bundle : SignedRunmillEvidenceBundle)
    (statementBytes envelopeBytes : List UInt8) : EvidenceRow :=
  { row with
    evidencePayloadDigest := bundle.bundleDigest
    evidenceSignature := bundle.signature
    evidenceCanonicalPayload := statementBytes
    evidencePayload := bundle.statement.toValue p
    evidenceExactEnvelope := envelopeBytes
    evidence := bundle }

/-- What the worker needs to name another reviewer: a name that is neither the
    implementer's nor the present one, and a signature that is not taken for a
    credential. -/
structure CanRename (p : Primitives) (signer : Ed25519Signer)
    (bundle : SignedRunmillEvidenceBundle) (stage : RunmillReviewStage) (principal : String) :
    Prop where
  identifier : validIdentifier principal true
  plain : ¬ isCredentialShaped principal
  fresh : ∀ provider ∈ bundle.statement.predicate.runtime.providers,
    provider.role ∈ [.implementer, stage.role] → principal ≠ provider.principalId
  signature : ∀ bundle', sign p
    (bundle.statement.renamed stage principal) bundle.issuedAt signer = .ok bundle' →
      ¬ isCredentialShaped bundle'.signature

namespace VerificationBinding

section Rows

variable {p : Primitives} {readings : Readings} {rows : LedgerRows} {row : EvidenceRow}
  {configuredKeyId : String} {configuredKey : VerifyingKey} {signer : Ed25519Signer}
  {stage : RunmillReviewStage} {principal : String} {bundle' : SignedRunmillEvidenceBundle}
  {statementBytes envelopeBytes : List UInt8}

/-- Where each role has one provider, `reviewer_principal` returns its name. -/
theorem reviewerPrincipal_eq_ok (binding : VerificationBinding)
    (h : (binding.evidence.statement.predicate.runtime.providers.map (·.role)).Nodup)
    (hmem : provider ∈ binding.evidence.statement.predicate.runtime.providers) :
    binding.reviewerPrincipal provider.role = .ok provider.principalId := by
  rw [reviewerPrincipal, filter_key_eq_singleton h hmem]

/-- The names that `reviewer_principal` finds after renaming. -/
theorem reviewerPrincipal_renamed {row' : EvidenceRow}
    (hstatement : row'.evidence.statement = row.evidence.statement.renamed stage principal)
    {expectation : RunmillEvidenceExpectation}
    (h : ProvidersAndOutcomes row.evidence.statement.predicate expectation)
    (other : RunmillReviewStage) {name : String}
    (hname : reviewerPrincipal ⟨rows, row⟩ other.role = .ok name) :
    reviewerPrincipal ⟨rows, row'⟩ other.role
      = .ok (if other = stage then principal else name) := by
  obtain ⟨provider, hmem, hrole⟩ := h.present other.role
  have hold := reviewerPrincipal_eq_ok ⟨rows, row⟩ h.roles hmem
  rw [hrole, hname, Except.ok.injEq] at hold
  have hmem' : provider.renamed stage principal
      ∈ row'.evidence.statement.predicate.runtime.providers :=
    hstatement ▸ mem_map_of_mem hmem
  have hroles : (row'.evidence.statement.predicate.runtime.providers.map (·.role)).Nodup := by
    rw [hstatement]
    exact (roles_renamed _).symm ▸ h.roles
  have hnew := reviewerPrincipal_eq_ok ⟨rows, row'⟩ hroles hmem'
  have hvalue : (provider.renamed stage principal).principalId
      = if other = stage then principal else name := by
    simp only [RunmillProviderAttribution.renamed, hrole, role_injective.eq_iff, hold]
  rw [hvalue] at hnew
  exact hrole ▸ hnew

variable (hholds : ∀ key, decodeVerifyingKey p rows.workerSessionSigningPublicKey = .ok key →
    Holds p signer (rows.trustedSigner key))
  (hrename : CanRename p signer row.evidence stage principal)

include hholds hrename

theorem StaticAuthority.renamed
    (h : StaticAuthority p readings ⟨rows, row⟩ configuredKeyId configuredKey)
    (hsign : sign p (row.evidence.statement.renamed stage principal)
      row.evidence.issuedAt signer = .ok bundle')
    (hstatementBytes : canonicalJson p (bundle'.statement.toValue p) = .ok statementBytes)
    (henvelopeBytes : canonicalJson p (bundle'.toValue p) = .ok envelopeBytes) :
    StaticAuthority p readings ⟨rows, row.storing p bundle' statementBytes envelopeBytes⟩
      configuredKeyId configuredKey := by
  obtain ⟨signerKey, observedAt, hkey, hobserved, hintegrity⟩ := h.signature
  obtain ⟨oldBytes, producedAt, completedAt, -, hproduced, hcompleted, hstored, hexact⟩ :=
    h.storedEvidence
  have hstored := verifyStoredEvidence_eq_ok_iff.mp hstored
  have hsignature := hrename.signature bundle' hsign
  have hintegrity' : Integrity p bundle' (rows.trustedSigner signerKey) observedAt :=
    hintegrity.signed (hholds signerKey hkey) hsign hsignature hintegrity.manifest.renamed
  have hdigest : sha256Digest p statementBytes = bundle'.bundleDigest := by
    obtain ⟨canonical, hcanonical, heq⟩ := documentDigest_eq_ok_iff.mp hintegrity'.digest
    rw [← heq, Except.ok.inj (hstatementBytes.symm.trans hcanonical)]
  have hkeyId : bundle'.keyId = row.evidence.keyId :=
    hintegrity'.signature.keyId.symm.trans hintegrity.signature.keyId
  have hschema : bundle'.schema = row.evidence.schema :=
    hintegrity'.shape.schema.trans hintegrity.shape.schema.symm
  have hplain : Plain (bundle'.statement.toValue p) :=
    (plain_toValue_iff.mp hintegrity'.shape.plain).2.2.2.2.1
  obtain ⟨hissuedAt, hstatement⟩ := sign_fields hsign
  have hnewStored : StoredEvidence p ⟨rows, row.storing p bundle' statementBytes envelopeBytes⟩
      statementBytes producedAt :=
    ⟨henvelopeBytes, rfl, rfl, hdigest, rfl, hschema.trans hstored.envelopeSchema,
      (congrArg (·.predicate.schema) hstatement).trans hstored.schema, hstored.algorithm,
      hkeyId.trans hstored.keyId, rfl, hstored.producedAt⟩
  have hnewExact : verifyExact p ⟨rows, row.storing p bundle' statementBytes envelopeBytes⟩
      producedAt completedAt = .ok () := by
    obtain ⟨horder, digest, henvelope, hevidence⟩ := verifyExact_eq_ok_iff.mp hexact
    refine verifyExact_eq_ok_iff.mpr ⟨{ horder with }, digest, henvelope, ?_⟩
    rw [exactEvidence_iff] at hevidence ⊢
    simp only [EvidenceRow.storing, hstatement]
    exact hevidence
  refine ⟨h.storedOrder, h.keyId, h.orderIntegrity, ⟨statementBytes, producedAt, completedAt,
    hstatementBytes, hissuedAt ▸ hproduced, ?_, verifyStoredEvidence_eq_ok_iff.mpr hnewStored,
    hnewExact⟩, ⟨signerKey, observedAt, hkey, hobserved, hintegrity'⟩, h.scope, ?_, ?_, hplain⟩
  · show RunmillEvidenceTimestamp.toUtc p bundle'.statement.predicate.run.completedAt = _
    rw [hstatement]
    exact hcompleted
  · show ∀ path ∈ bundle'.statement.predicate.source.changedPaths, _
    rw [hstatement]
    exact h.paths
  · have happrovals : bundle'.statement.predicate.approvals
        = row.evidence.statement.predicate.approvals := by
      rw [hstatement]
      rfl
    have hold := verifyApprovalBindings_eq_ok_iff.mp h.approvals
    refine verifyApprovalBindings_eq_ok_iff.mpr ⟨?_, hold.2.1, ?_⟩
    · exact hold.1.trans (congrArg List.length happrovals.symm)
    · intro approval happroval
      have hbound := hold.2.2 approval happroval
      simp only [verifyApprovalBinding, EvidenceRow.storing, happrovals] at hbound ⊢
      exact hbound

variable {observed : PullRequestEvidence} {observationRequestedAt observedAt : DateTime}

/-- The evidence with another reviewer is complete with the same rows. -/
theorem CompleteEvidence.renamed
    (h : CompleteEvidence p readings ⟨rows, row⟩ configuredKeyId configuredKey observed
      observationRequestedAt observedAt) :
    ∃ row', CompleteEvidence p readings ⟨rows, row'⟩ configuredKeyId configuredKey observed
        observationRequestedAt observedAt
      ∧ reviewerPrincipal ⟨rows, row'⟩ stage.role = .ok principal := by
  obtain ⟨signerKey, localPrincipal, prPrincipal, digest, hkey, hlocal, hpr, hdigest, hverified⟩ :=
    h.verified
  have hholder := hholds signerKey hkey
  have hvalid := hverified.integrity.shape.statement
  have hplain := (plain_toValue_iff.mp hverified.integrity.shape.plain).2.2.2.2.1
  obtain ⟨bundle', hsign⟩ := hverified.integrity.exists_sign hholder
    (hvalid.renamed hrename.identifier) (plain_renamed hplain hrename.plain)
  obtain ⟨statementBytes, hjcs⟩ := hholder.canonical (bundle'.statement.toValue p)
  obtain ⟨envelopeBytes, henvelopeJcs⟩ := hholder.canonical (bundle'.toValue p)
  have hfresh : ∀ implementer ∈ row.evidence.statement.predicate.runtime.providers,
      implementer.role = .implementer → principal ≠ implementer.principalId :=
    fun implementer hmem hrole => hrename.fresh implementer hmem (by simp [hrole])
  have hrenamed := hverified.renamed hholder hrename.identifier hfresh hsign
    (hrename.signature bundle' hsign)
  have hstatic := h.static.renamed hholds hrename hsign (canonicalJson_eq_ok_iff.mpr hjcs)
    (canonicalJson_eq_ok_iff.mpr henvelopeJcs)
  have hstatement := (sign_fields hsign).2
  have hprincipal := @reviewerPrincipal_renamed rows row stage principal
    (row.storing p bundle' statementBytes envelopeBytes) hstatement _ hverified.bindings.providers
  have hexpectation : expectation
      ⟨rows, row.storing p bundle' statementBytes envelopeBytes⟩ signerKey digest
        (if .localStage = stage then principal else localPrincipal)
        (if .pullRequest = stage then principal else prPrincipal) observed observedAt
      = (expectation ⟨rows, row⟩ signerKey digest localPrincipal prPrincipal observed
        observedAt).renamed stage principal := by
    simp only [expectation, EvidenceRow.storing, hstatement]
    cases stage <;> rfl
  refine ⟨_, ⟨hstatic, h.window, h.runId, signerKey, _, _, digest, hkey,
    hprincipal .localStage hlocal, hprincipal .pullRequest hpr, hdigest, hexpectation ▸ hrenamed⟩,
    ?_⟩
  cases stage with
  | localStage => exact hprincipal .localStage hlocal
  | pullRequest => exact hprincipal .pullRequest hpr

end Rows

/-! ## Two bundles for the same rows -/

/-- Some run of `verify_complete_evidence` accepts the evidence row. -/
def Accepts (p : Primitives) (rows : LedgerRows) (configuredKeyId : String)
    (configuredKey : VerifyingKey) (observed : PullRequestEvidence)
    (observationRequestedAt observedAt : DateTime) (row : EvidenceRow) : Prop :=
  ∃ readings, verifyCompleteEvidence p readings ⟨rows, row⟩ configuredKeyId configuredKey observed
    observationRequestedAt observedAt = .ok ()

/-- The rows and the observation determine both reviewers of accepted evidence only where
    they accept no evidence: any other evidence can be signed again with another name. -/
theorem reviewers_agree_iff (p : Primitives) (rows : LedgerRows) (configuredKeyId : String)
    (configuredKey : VerifyingKey) (observed : PullRequestEvidence)
    (observationRequestedAt observedAt : DateTime) (signer : Ed25519Signer)
    (hholds : ∀ key, decodeVerifyingKey p rows.workerSessionSigningPublicKey = .ok key →
      Holds p signer (rows.trustedSigner key))
    (hrename : ∀ row, Accepts p rows configuredKeyId configuredKey observed
      observationRequestedAt observedAt row →
        ∃ stage principal, CanRename p signer row.evidence stage principal) :
    (∀ row row', Accepts p rows configuredKeyId configuredKey observed observationRequestedAt
          observedAt row →
        Accepts p rows configuredKeyId configuredKey observed observationRequestedAt observedAt
          row' →
        reviewerPrincipal ⟨rows, row⟩ .localReviewer = reviewerPrincipal ⟨rows, row'⟩ .localReviewer
          ∧ reviewerPrincipal ⟨rows, row⟩ .pullRequestReviewer
            = reviewerPrincipal ⟨rows, row'⟩ .pullRequestReviewer)
      ↔ ∀ row, ¬ Accepts p rows configuredKeyId configuredKey observed observationRequestedAt
        observedAt row := by
  constructor
  · rintro hall row ⟨readings, haccepted⟩
    obtain ⟨stage, principal, hcan⟩ := hrename row ⟨readings, haccepted⟩
    have h := verifyCompleteEvidence_eq_ok_iff.mp haccepted
    obtain ⟨row', hcomplete, hname⟩ := h.renamed hholds hcan
    obtain ⟨hlocal, hpr⟩ := hall row row' ⟨readings, haccepted⟩
      ⟨readings, verifyCompleteEvidence_eq_ok_iff.mpr hcomplete⟩
    have hsame : reviewerPrincipal ⟨rows, row⟩ stage.role = .ok principal := by
      cases stage with
      | localStage => exact hlocal.trans hname
      | pullRequest => exact hpr.trans hname
    -- The row names its present reviewer, and the new name is not that one.
    obtain ⟨_, _, _, _, -, -, -, -, hverified⟩ := h.verified
    obtain ⟨provider, hmem, hrole⟩ := hverified.bindings.providers.present stage.role
    have hold := reviewerPrincipal_eq_ok ⟨rows, row⟩ hverified.bindings.providers.roles hmem
    rw [hrole, hsame, Except.ok.injEq] at hold
    exact hcan.fresh provider hmem (by simp [hrole]) hold
  · intro hnone row row' haccepted
    exact absurd haccepted (hnone row)

/-! ### The sample -/

open Sample

theorem sample_holds {key : VerifyingKey}
    (h : decodeVerifyingKey primitives rows.workerSessionSigningPublicKey
      = .ok key) : Holds primitives signer (rows.trustedSigner key) := by
  obtain rfl := decodeVerifyingKey_rows.mp h
  exact { holds with keyId := rfl, verifyingKey := rfl }

/-- Four names are more than the providers of a valid bundle have. -/
theorem sample_canRename {bundle : SignedRunmillEvidenceBundle}
    (hproviders : bundle.statement.predicate.runtime.providers.length ≤ 3) :
    ∃ principal, CanRename primitives signer bundle .localStage principal := by
  have hnames : ∀ name ∈ ["a", "b", "c", "d"], validIdentifier name true
      ∧ ¬ isCredentialShaped name := by decide +kernel
  obtain ⟨principal, hname, hfresh⟩ : ∃ name ∈ ["a", "b", "c", "d"].toFinset,
      name ∉ (bundle.statement.predicate.runtime.providers.map (·.principalId)).toFinset := by
    apply Finset.exists_mem_notMem_of_card_lt_card
    have hcard := List.toFinset_card_le
      (bundle.statement.predicate.runtime.providers.map (·.principalId))
    rw [List.length_map] at hcard
    have hfour : ["a", "b", "c", "d"].toFinset.card = 4 := by decide
    omega
  obtain ⟨hidentifier, hplain⟩ := hnames principal (List.mem_toFinset.mp hname)
  refine ⟨principal, hidentifier, hplain, ?_, fun _ => signature_not_credentialShaped⟩
  rintro provider hprovider - rfl
  exact hfresh (List.mem_toFinset.mpr (mem_map_of_mem hprovider))

theorem sample_accepted : Accepts primitives rows "order-key" key
    observed ⟨1000000000⟩ ⟨1000000000⟩ Sample.row :=
  ⟨readings, verifyCompleteEvidence_eq_ok_iff.mpr completeEvidence⟩

/-- Evidence is accepted with the sample's rows, so that they do not determine the
    reviewers. -/
theorem reviewers_agree_sample :
    ¬ ∀ row row', Accepts primitives rows "order-key" key observed
        ⟨1000000000⟩ ⟨1000000000⟩ row →
      Accepts primitives rows "order-key" key observed ⟨1000000000⟩ ⟨1000000000⟩ row' →
      reviewerPrincipal ⟨rows, row⟩ .localReviewer
          = reviewerPrincipal ⟨rows, row'⟩ .localReviewer
        ∧ reviewerPrincipal ⟨rows, row⟩ .pullRequestReviewer
          = reviewerPrincipal ⟨rows, row'⟩ .pullRequestReviewer := by
  rw [reviewers_agree_iff primitives rows "order-key" key observed
    ⟨1000000000⟩ ⟨1000000000⟩ signer (fun _ => sample_holds) ?_]
  · exact fun hnone => hnone Sample.row sample_accepted
  · rintro row ⟨readings, haccepted⟩
    obtain ⟨_, _, _, _, -, -, -, -, hverified⟩ :=
      (verifyCompleteEvidence_eq_ok_iff.mp haccepted).verified
    obtain ⟨principal, hrename⟩ :=
      sample_canRename hverified.integrity.shape.statement.predicate.providers.1
    exact ⟨.localStage, principal, hrename⟩

/-- Two evidence rows for the same rows, with the local reviewers `reader` and `other`. -/
theorem reviewers_differ :
    ∃ row, Accepts primitives rows "order-key" key observed
        ⟨1000000000⟩ ⟨1000000000⟩ Sample.row
      ∧ Accepts primitives rows "order-key" key observed ⟨1000000000⟩ ⟨1000000000⟩ row
      ∧ reviewerPrincipal ⟨rows, Sample.row⟩ .localReviewer = .ok "reader"
      ∧ reviewerPrincipal ⟨rows, row⟩ .localReviewer = .ok "other" := by
  have hrename : CanRename primitives signer Sample.row.evidence .localStage
      "other" := by
    refine ⟨by decide +kernel, not_isCredentialShaped_of_codes (by decide +kernel), ?_,
      fun _ => signature_not_credentialShaped⟩
    decide +kernel
  obtain ⟨row, hcomplete, hname⟩ := completeEvidence.renamed (fun _ => sample_holds) hrename
  exact ⟨row, sample_accepted,
    ⟨readings, verifyCompleteEvidence_eq_ok_iff.mpr hcomplete⟩, rfl, hname⟩

end VerificationBinding

end Asf.Evidence
