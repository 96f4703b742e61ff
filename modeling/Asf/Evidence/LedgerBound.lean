import Asf.Evidence.Ledger
import Asf.Evidence.Signing

/-!
# Evidence that the ledger bears out

What `verify_static_authority`, `verify_artifact_metadata` and
`verify_complete_evidence` (`src/runtime/evidence_verification.rs`) accept.

Results:

* `verifyStaticAuthority_eq_ok_iff`, `verifyCompleteEvidence_eq_ok_iff`: check by check.
* `verified_ledgerBound`: the approvals and the artifacts of accepted evidence
  correspond one to one to rows of the ledger.
-/

namespace Asf.Evidence

open Lib Contracts

variable {p : Primitives} {approval : ApprovalBinding} {configuredKey : VerifyingKey}
  {configuredKeyId : String}

namespace VerificationBinding

/-! ## Approvals -/

/-- The signed approval repeats the row. -/
@[mk_iff] structure ApprovalAgrees (p : Primitives) (approval : ApprovalBinding)
    (evidence : RunmillApprovalEvidence) : Prop where
  id : evidence.approvalId = approval.id.toText
  decisionType : evidence.decisionType = approval.approvalType
  requestedEffect : evidence.requestedEffect = approval.decisionEffectType
  approverSubject : approval.decisionSubject = some evidence.approverSubject
  workOrderDigest : approval.workOrderDigest = some evidence.workOrderDigest
  candidateSha : approval.candidateSha = some evidence.candidateSha
  policyDigest : approval.policyDigest = evidence.policyDigest
  issuedAt : evidence.issuedAt.toUtc p = .ok approval.issuedAt
  expiresAt : evidence.expiresAt.toUtc p = .ok approval.expiresAt

variable {binding : VerificationBinding} {readings : Readings}

/-- The comparison with the signed approval that the lookup finds. -/
theorem verifyApprovalBinding_of_find {evidence : RunmillApprovalEvidence}
    (hfind : binding.evidence.statement.predicate.approvals.find?
      (fun evidence => evidence.approvalId == approval.id.toText) = some evidence) :
    binding.verifyApprovalBinding p approval = .ok ()
      ↔ evidence.requestedEffect = approval.decisionEffectType
        ∧ evidence.decisionType = approval.approvalType
        ∧ approval.decisionSubject = some evidence.approverSubject
        ∧ evidence.workOrderDigest = binding.workOrderPayloadDigest
        ∧ evidence.candidateSha = binding.evidenceCandidateSha
        ∧ evidence.policyDigest = binding.policyDigest
        ∧ evidence.issuedAt.toUtc p = .ok approval.issuedAt
        ∧ evidence.expiresAt.toUtc p = .ok approval.expiresAt := by
  unfold verifyApprovalBinding
  rw [hfind]
  simp only [bind_eq_ok_iff, exists_unit_iff, failIf_eq_ok_iff, not_or, not_not, ne_eq, and_assoc,
    exists_eq_right, and_left_comm, exists_and_left, exists_eq_left]

theorem verifyApprovalBinding_agrees (hresolved : ¬ unresolved readings binding approval)
    (h : binding.verifyApprovalBinding p approval = .ok ()) :
    ∃ evidence ∈ binding.evidence.statement.predicate.approvals,
      evidence.approvalId = approval.id.toText ∧ ApprovalAgrees p approval evidence := by
  cases hfind : binding.evidence.statement.predicate.approvals.find?
      (fun evidence => evidence.approvalId == approval.id.toText) with
  | none =>
    rw [verifyApprovalBinding, hfind] at h
    exact nomatch h
  | some evidence =>
    have hid : evidence.approvalId = approval.id.toText := by
      simpa using List.find?_some hfind
    obtain ⟨heffect, htype, hsubject, horder, hcandidate, hpolicy, hissued, hexpires⟩ :=
      (verifyApprovalBinding_of_find hfind).mp h
    simp only [unresolved, not_or, not_not, ne_eq] at hresolved
    obtain ⟨-, hledgerOrder, hledgerCandidate, hledgerPolicy, -⟩ := hresolved
    exact ⟨evidence, List.mem_of_find?_eq_some hfind, hid, hid, htype, heffect, hsubject,
      horder ▸ hledgerOrder, hcandidate ▸ hledgerCandidate, hledgerPolicy.trans hpolicy.symm,
      hissued, hexpires⟩

theorem verifyApprovalBindings_eq_ok_iff :
    binding.verifyApprovalBindings p readings = .ok ()
      ↔ binding.approvals.length = binding.evidence.statement.predicate.approvals.length
        ∧ (∀ approval ∈ binding.approvals, ¬ unresolved readings binding approval)
        ∧ ∀ approval ∈ binding.approvals, binding.verifyApprovalBinding p approval = .ok () := by
  simp only [verifyApprovalBindings, seq_eq_ok_iff, failIf_eq_ok_iff, not_or, not_not, ne_eq,
    not_exists, not_and, forM_eq_ok_iff, and_assoc]

theorem nodup_approvalTexts {approvals : List ApprovalBinding}
    (hids : (approvals.map (·.id)).Nodup) : (approvals.map (·.id.toText)).Nodup := by
  have hmap := hids.map Uuid.toText_injective
  rwa [List.map_map] at hmap

/-- Rows with distinct ids and signed approvals of the same number correspond. -/
theorem exists_approvals_agree (hids : (binding.approvals.map (·.id)).Nodup)
    (h : binding.verifyApprovalBindings p readings = .ok ()) :
    ∃ signed, signed.Perm binding.evidence.statement.predicate.approvals
      ∧ List.Forall₂ (ApprovalAgrees p) binding.approvals signed := by
  obtain ⟨hlength, hresolved, hbound⟩ := verifyApprovalBindings_eq_ok_iff.mp h
  exact exists_perm_forall₂ (nodup_approvalTexts hids) hlength fun approval happroval =>
    verifyApprovalBinding_agrees (hresolved approval happroval) (hbound approval happroval)

/-! ## Artifacts -/

/-- The stored artifact is the signed one. -/
@[mk_iff] structure ArtifactAgrees (expected : RunmillEvidenceArtifact)
    (stored : ArtifactBinding) : Prop where
  id : stored.manifestArtifactId = expected.artifactId
  digest : stored.digest = expected.digest
  kind : stored.manifestKind = expected.kind.text
  size : stored.byteSize = expected.sizeBytes
  mediaType : stored.mediaType = expected.mediaType
  retentionClass : toAsciiLowercase stored.retentionClass = expected.retentionClass.text
  location : stored.objectKey = expected.locationRef

theorem verifyArtifact_agrees {expected : RunmillEvidenceArtifact}
    (h : binding.verifyArtifact readings expected = .ok ()) :
    ∃ stored ∈ binding.artifacts, stored.manifestArtifactId = expected.artifactId
      ∧ ArtifactAgrees expected stored := by
  unfold verifyArtifact at h
  split at h
  · exact nomatch h
  · rename_i stored hfind
    have hid : stored.manifestArtifactId = expected.artifactId := by
      simpa using List.find?_some hfind
    rw [failIf_eq_ok_iff] at h
    simp only [contradicts, not_or, not_not, ne_eq] at h
    obtain ⟨-, hkind, hdigest, hsize, hmedia, hretention, hlocation, -⟩ := h
    exact ⟨stored, List.mem_of_find?_eq_some hfind, hid, hid, hdigest, hkind, hsize, hmedia,
      hretention, hlocation⟩

/-- The manifest has distinct ids, so that signed and stored artifacts correspond. -/
theorem exists_artifacts_agree
    (hids : (binding.evidence.statement.predicate.artifacts.map (·.artifactId)).Nodup)
    (h : binding.verifyArtifactMetadata readings = .ok ()) :
    ∃ stored, stored.Perm binding.artifacts
      ∧ List.Forall₂ ArtifactAgrees binding.evidence.statement.predicate.artifacts stored := by
  simp only [verifyArtifactMetadata, seq_eq_ok_iff, failIf_eq_ok_iff, not_not, ne_eq,
    forM_eq_ok_iff] at h
  obtain ⟨hlength, hartifacts, -⟩ := h
  exact exists_perm_forall₂ hids hlength fun expected hexpected =>
    verifyArtifact_agrees (hartifacts expected hexpected)

/-! ## The static checks -/

/-- The columns of the evidence row are those of the bundle. -/
@[mk_iff] structure StoredEvidence (p : Primitives) (binding : VerificationBinding)
    (statementBytes : List UInt8) (producedAt : DateTime) : Prop where
  envelope : canonicalJson p (binding.evidence.toValue p) = .ok binding.evidenceExactEnvelope
  statement : statementBytes = binding.evidenceCanonicalPayload
  payload : (binding.evidence.statement.toValue p).ordered = binding.evidencePayload.ordered
  payloadDigest : sha256Digest p binding.evidenceCanonicalPayload = binding.evidencePayloadDigest
  bundleDigest : binding.evidence.bundleDigest = binding.evidencePayloadDigest
  envelopeSchema : binding.evidence.schema = binding.evidenceEnvelopeSchema
  schema : binding.evidence.statement.predicate.schema = binding.evidenceSchema
  algorithm : binding.evidenceAlgorithm = "EdDSA"
  keyId : binding.evidence.keyId = binding.evidenceKeyId
  signature : binding.evidence.signature = binding.evidenceSignature
  producedAt : producedAt = binding.evidenceProducedAt

theorem verifyStoredEvidence_eq_ok_iff {statementBytes : List UInt8} {producedAt : DateTime} :
    binding.verifyStoredEvidence p statementBytes producedAt = .ok ()
      ↔ StoredEvidence p binding statementBytes producedAt := by
  simp only [verifyStoredEvidence, bind_eq_ok_iff, failIf_eq_ok_iff, not_or, not_not, ne_eq,
    storedEvidence_iff, and_left_comm, exists_and_left, exists_eq_left]

/-- What `verify_static_authority` accepts. -/
@[mk_iff] structure StaticAuthority (p : Primitives) (readings : Readings)
    (binding : VerificationBinding) (configuredKeyId : String) (configuredKey : VerifyingKey) :
    Prop where
  storedOrder : ∃ payloadBytes,
    canonicalJson p (binding.workOrder.payload.toValue p.writeF64) = .ok payloadBytes
      ∧ binding.verifyStoredWorkOrder p payloadBytes = .ok ()
  keyId : binding.workOrderKeyId = configuredKeyId
  orderIntegrity : binding.workOrder.verifyIntegrity p configuredKey = .ok ()
  storedEvidence : ∃ statementBytes producedAt completedAt,
    canonicalJson p (binding.evidence.statement.toValue p) = .ok statementBytes
      ∧ binding.evidence.issuedAt.toUtc p = .ok producedAt
      ∧ binding.evidence.statement.predicate.run.completedAt.toUtc p = .ok completedAt
      ∧ binding.verifyStoredEvidence p statementBytes producedAt = .ok ()
      ∧ binding.verifyExact p producedAt completedAt = .ok ()
  signature : ∃ signerKey observedAt,
    decodeVerifyingKey p binding.workerSessionSigningPublicKey = .ok signerKey
      ∧ checkedAddSeconds readings.preflight providerClockSkewSeconds = some observedAt
      ∧ Integrity p binding.evidence (binding.trustedSigner signerKey) observedAt
  scope : (scopeAuthority binding.workOrder.payload).validate = .ok ()
  paths : ∀ path ∈ binding.evidence.statement.predicate.source.changedPaths,
    (scopeAuthority binding.workOrder.payload).allowsPath path
  approvals : binding.verifyApprovalBindings p readings = .ok ()
  plain : Plain binding.evidencePayload

theorem verifyStaticAuthority_eq_ok_iff :
    binding.verifyStaticAuthority p readings configuredKeyId configuredKey = .ok ()
      ↔ StaticAuthority p readings binding configuredKeyId configuredKey := by
  simp only [verifyStaticAuthority, bind_eq_ok_iff, exists_unit_iff, Exec.lift_eq_ok_iff,
    Exec.failIf_eq_ok_iff, okOr_eq_ok_iff, verifySignedIntegrity_eq_ok_iff, not_not, ne_eq,
    List.any_eq_true, Bool.not_eq_true', not_exists, not_and, Bool.not_eq_false,
    staticAuthority_iff, Plain]
  constructor
  · rintro ⟨payload, hpayload, statement, hstatement, produced, hproduced, completed, hcompleted,
      horder, hkey, hintegrity, hevidence, hexact, signerKey, hsignerKey, observedAt, hobserved,
      hsigned, hscope, hpaths, happrovals, hplain⟩
    exact ⟨⟨payload, hpayload, horder⟩, hkey, hintegrity, ⟨statement, produced, completed,
      hstatement, hproduced, hcompleted, hevidence, hexact⟩, ⟨signerKey, observedAt, hsignerKey,
      hobserved, hsigned⟩, hscope, hpaths, happrovals, hplain⟩
  · rintro ⟨⟨payload, hpayload, horder⟩, hkey, hintegrity, ⟨statement, produced, completed,
      hstatement, hproduced, hcompleted, hevidence, hexact⟩, ⟨signerKey, observedAt, hsignerKey,
      hobserved, hsigned⟩, hscope, hpaths, happrovals, hplain⟩
    exact ⟨payload, hpayload, statement, hstatement, produced, hproduced, completed, hcompleted,
      horder, hkey, hintegrity, hevidence, hexact, signerKey, hsignerKey, observedAt, hobserved,
      hsigned, hscope, hpaths, happrovals, hplain⟩

theorem verifyExact_eq_ok_iff {producedAt completedAt : DateTime} :
    binding.verifyExact p producedAt completedAt = .ok ()
      ↔ ExactOrder binding producedAt completedAt ∧ ∃ envelopeDigest,
        binding.workOrder.envelopeDigest p = .ok envelopeDigest
          ∧ ExactEvidence binding envelopeDigest := by
  simp only [verifyExact, bind_eq_ok_iff, exists_unit_iff, failIf_eq_ok_iff, not_not]

theorem StaticAuthority.exactEvidence
    (h : StaticAuthority p readings binding configuredKeyId configuredKey) :
    ∃ envelopeDigest, binding.workOrder.envelopeDigest p = .ok envelopeDigest
      ∧ ExactEvidence binding envelopeDigest := by
  obtain ⟨_, _, _, -, -, -, -, hexact⟩ := h.storedEvidence
  exact (verifyExact_eq_ok_iff.mp hexact).2

/-! ## The complete verification -/

/-- What `verify_complete_evidence` accepts. -/
@[mk_iff] structure CompleteEvidence (p : Primitives) (readings : Readings)
    (binding : VerificationBinding) (configuredKeyId : String) (configuredKey : VerifyingKey)
    (observed : PullRequestEvidence) (observationRequestedAt observedAt : DateTime) : Prop where
  static : StaticAuthority p readings binding configuredKeyId configuredKey
  window : ∃ latest earliest,
    checkedAddSeconds readings.latest providerClockSkewSeconds = some latest
      ∧ checkedAddSeconds observationRequestedAt (-providerClockSkewSeconds) = some earliest
      ∧ binding.evidenceProducedAt.nanos ≤ observedAt.nanos
      ∧ earliest.nanos ≤ observedAt.nanos ∧ observedAt.nanos ≤ latest.nanos
  runId : validIdentifier binding.externalRunId true
  verified : ∃ signerKey localPrincipal prPrincipal envelopeDigest,
    decodeVerifyingKey p binding.workerSessionSigningPublicKey = .ok signerKey
      ∧ binding.reviewerPrincipal .localReviewer = .ok localPrincipal
      ∧ binding.reviewerPrincipal .pullRequestReviewer = .ok prPrincipal
      ∧ binding.workOrder.envelopeDigest p = .ok envelopeDigest
      ∧ Verified p binding.evidence (binding.expectation signerKey envelopeDigest localPrincipal
        prPrincipal observed observedAt)

theorem verifyCompleteEvidence_eq_ok_iff {observed : PullRequestEvidence}
    {observationRequestedAt observedAt : DateTime} :
    binding.verifyCompleteEvidence p readings configuredKeyId configuredKey observed
        observationRequestedAt observedAt = .ok ()
      ↔ CompleteEvidence p readings binding configuredKeyId configuredKey observed
        observationRequestedAt observedAt := by
  simp only [verifyCompleteEvidence, bind_eq_ok_iff, exists_unit_iff, Exec.lift_eq_ok_iff,
    Exec.failIf_eq_ok_iff, okOr_eq_ok_iff, verifyStaticAuthority_eq_ok_iff, not_or, not_lt,
    validateIdentifier_eq_ok_iff, verify_eq_ok_iff, pure, Except.pure, and_true,
    completeEvidence_iff, exists_and_left, exists_eq']
  constructor
  · rintro ⟨hstatic, latest, hlatest, earliest, hearliest, hwindow, signerKey, hsignerKey,
      principal, hlocal, prPrincipal, hpr, hrun, digest, hdigest, hverified⟩
    exact ⟨hstatic, ⟨latest, hlatest, earliest, hearliest, hwindow⟩, hrun, signerKey, hsignerKey,
      principal, hlocal, prPrincipal, hpr, digest, hdigest, hverified⟩
  · rintro ⟨hstatic, ⟨latest, hlatest, earliest, hearliest, hwindow⟩, hrun, signerKey, hsignerKey,
      principal, hlocal, prPrincipal, hpr, digest, hdigest, hverified⟩
    exact ⟨hstatic, latest, hlatest, earliest, hearliest, hwindow, signerKey, hsignerKey,
      principal, hlocal, prPrincipal, hpr, hrun, digest, hdigest, hverified⟩

/-! ## Evidence and rows -/

/-- `verify_exact`, the approvals, the artifacts and the paths, as one statement about the
    evidence and the rows. The clock is the one that `verify_approval_bindings` reads. -/
structure LedgerBound (p : Primitives) (readings : Readings) (binding : VerificationBinding) :
    Prop where
  paths : ∀ path ∈ binding.evidence.statement.predicate.source.changedPaths,
    (scopeAuthority binding.workOrder.payload).allowsPath path
  approvals : ∃ signed, signed.Perm binding.evidence.statement.predicate.approvals
    ∧ List.Forall₂ (ApprovalAgrees p) binding.approvals signed
  approvalIds : (binding.evidence.statement.predicate.approvals.map (·.approvalId)).Nodup
  approved : ∀ approval ∈ binding.approvals, approval.status = "APPROVED"
    ∧ (readings.approval approval.id).nanos < approval.expiresAt.nanos
  artifacts : ∃ stored, stored.Perm binding.artifacts
    ∧ List.Forall₂ ArtifactAgrees binding.evidence.statement.predicate.artifacts stored
  artifactIds : (binding.artifacts.map (·.manifestArtifactId)).Nodup
  run : binding.evidence.statement.predicate.run.runId = binding.externalRunId
  attempt : binding.evidence.statement.predicate.run.attemptId = binding.attemptId
  workOrder : binding.evidence.statement.predicate.run.workOrderId = binding.workOrderId
  workOrderDigest : binding.evidence.statement.predicate.workOrder.payloadDigest
    = binding.workOrderPayloadDigest
  envelope : binding.workOrder.envelopeDigest p
    = .ok binding.evidence.statement.predicate.workOrder.envelopeDigest
  repository : binding.evidence.statement.predicate.source.repository = binding.repository
  baseRef : binding.evidence.statement.predicate.source.baseRef = binding.attemptBaseRef
  baseSha : binding.evidence.statement.predicate.source.baseSha = binding.attemptBaseSha
  candidate : binding.evidence.statement.predicate.source.candidateSha
    = binding.evidenceCandidateSha
  policy : binding.evidence.statement.predicate.policy.effectivePolicyDigest = binding.policyDigest

theorem StaticAuthority.ledgerBound {readings between : Readings}
    (h : StaticAuthority p readings binding configuredKeyId configuredKey)
    (hids : (binding.approvals.map (·.id)).Nodup)
    (hmetadata : binding.verifyArtifactMetadata between = .ok ()) :
    LedgerBound p readings binding := by
  obtain ⟨envelopeDigest, henvelope, hexact⟩ := h.exactEvidence
  obtain ⟨_, _, -, -, hintegrity⟩ := h.signature
  obtain ⟨signed, hsigned, hagree⟩ := exists_approvals_agree hids h.approvals
  obtain ⟨stored, hstored, hartifacts⟩ := exists_artifacts_agree hintegrity.manifest.ids hmetadata
  have hsignedIds : (signed.map (·.approvalId)).Nodup := by
    rw [← map_eq_map_of_forall₂ (fun _ _ hab => hab.id.symm) hagree]
    exact nodup_approvalTexts hids
  have hstoredIds : (stored.map (·.manifestArtifactId)).Nodup := by
    rw [← map_eq_map_of_forall₂ (fun _ _ hab => hab.id.symm) hartifacts]
    exact hintegrity.manifest.ids
  have happroved : ∀ approval ∈ binding.approvals, approval.status = "APPROVED"
      ∧ (readings.approval approval.id).nanos < approval.expiresAt.nanos := by
    intro approval happroval
    have hresolved := (verifyApprovalBindings_eq_ok_iff.mp h.approvals).2.1 approval happroval
    simp only [unresolved, not_or, not_not, ne_eq, not_le] at hresolved
    exact ⟨hresolved.1, hresolved.2.2.2.2⟩
  exact {
    paths := h.paths
    approvals := ⟨signed, hsigned, hagree⟩
    approvalIds := (hsigned.map _).nodup_iff.mp hsignedIds
    approved := happroved
    artifacts := ⟨stored, hstored, hartifacts⟩
    artifactIds := (hstored.map _).nodup_iff.mp hstoredIds
    run := hexact.runId
    attempt := hexact.attemptId
    workOrder := hexact.workOrderId
    workOrderDigest := hexact.payloadDigest
    envelope := hexact.envelopeDigest ▸ henvelope
    repository := hexact.repository
    baseRef := hexact.baseRef
    baseSha := hexact.baseSha
    candidate := hexact.candidateSha
    policy := hexact.policyDigest }

/-- The three checks of one verification, each with its own clock, bind the evidence to the
    rows. -/
theorem verified_ledgerBound (p : Primitives) (binding : VerificationBinding)
    (early between late : Readings) (configuredKeyId : String) (configuredKey : VerifyingKey)
    (observed : PullRequestEvidence) (observationRequestedAt observedAt : DateTime)
    (hids : (binding.approvals.map (·.id)).Nodup)
    (hstatic : binding.verifyStaticAuthority p early configuredKeyId configuredKey = .ok ())
    (hmetadata : binding.verifyArtifactMetadata between = .ok ())
    (hcomplete : binding.verifyCompleteEvidence p late configuredKeyId configuredKey observed
      observationRequestedAt observedAt = .ok ()) :
    LedgerBound p early binding ∧ LedgerBound p late binding := by
  have hlate := (verifyCompleteEvidence_eq_ok_iff.mp hcomplete).static
  exact ⟨(verifyStaticAuthority_eq_ok_iff.mp hstatic).ledgerBound hids hmetadata,
    hlate.ledgerBound hids hmetadata⟩

end VerificationBinding

/-! ## Rows for the sample -/

namespace Sample

open RunmillSignedWorkOrderV1 (canonicalBytes envelopeDigest sign sign_eq_ok)

theorem digestOf_zero : digestOf 0 = sampleDigest := by decide +kernel

theorem payload_valid : payload.Valid fun _ => (0, 0) := by
  have hcodes : ∀ text ∈ (payload.toValue fun _ => (0, 0)).strings,
      findsCode credentialCodes text = false := by decide +kernel
  constructor
  case clean => exact fun text h => not_isCredentialShaped_of_codes (hcodes text h)
  all_goals decide +kernel

theorem sign_order : sign primitives payload
    (Instance.signer "order-key") ⟨0⟩ ⟨0⟩ ⟨3000000000⟩ = .ok order := by
  simp only [sign, bind_eq_ok_iff, exists_unit_iff, failIf_eq_ok_iff, not_not]
  exact ⟨RunmillWorkOrderV1.validate_eq_ok_iff.mpr payload_valid, by decide, by decide, _,
    canonicalJson_eq_ok_iff.mpr (jcs_eq_ok _), rfl⟩

/-- The row of a signed artifact. -/
def storedArtifact (entry : RunmillEvidenceArtifact) : ArtifactBinding where
  id := .ofNat 6
  manifestArtifactId := entry.artifactId
  manifestKind := entry.kind.text
  relationship := "evidence"
  digest := entry.digest
  mediaType := entry.mediaType
  byteSize := entry.sizeBytes
  objectKey := entry.locationRef
  retentionClass := entry.retentionClass.text
  createdAt := ⟨0⟩
  expiresAt := none

def rows : LedgerRows where
  tenantId := .ofNat 2
  workItemId := .ofNat 3
  sourceExternalId := "1"
  sourceSnapshotDigest := digestOf 0
  repository := "owner/name"
  policyDigest := digestOf 0
  attemptId := .ofNat 4
  attemptBaseRef := "refs/heads/main"
  attemptBaseSha := commitOf 0
  attemptSourceSnapshotDigest := digestOf 0
  attemptPolicyDigest := digestOf 0
  attemptTerminalAt := ⟨0⟩
  workOrderId := .ofNat 1
  workOrderPayloadDigest := payloadDigest
  workOrderCanonicalPayload := canonical (payload.toValue fun _ => (0, 0))
  workOrderPayload := payload.toValue fun _ => (0, 0)
  workOrderExactEnvelope := canonical (order.toValue primitives)
  workOrderSchema := payload.schema
  workOrderEnvelopeSchema := order.schema
  workOrderAlgorithm := order.algorithm
  workOrderKeyId := "order-key"
  workOrderSignature := order.signature
  workOrderIssuedAt := ⟨0⟩
  workOrderNotBefore := ⟨0⟩
  workOrderExpiresAt := ⟨3000000000⟩
  workOrder := order
  externalRunId := "run"
  runTerminalAt := ⟨0⟩
  workerGeneration := 1
  workerStatus := "ACTIVE"
  workerSessionId := .ofNat 5
  workerSessionStatus := "ACTIVE"
  workerSessionSigningKeyId := "worker-key"
  workerSessionSigningPublicKey := Base64.encode Instance.key.bytes.val
  workerSessionStartedAt := ⟨0⟩
  workerSessionExpiresAt := ⟨3000000000⟩
  workerSessionClosedAt := none
  artifacts := predicate.artifacts.map storedArtifact
  approvals :=
    [{ id := .ofNat 9, approvalType := "release", status := "APPROVED"
       workOrderDigest := some payloadDigest, candidateSha := some (commitOf 1)
       decisionEffectType := "merge", policyDigest := digestOf 0
       decisionSubject := some "approver", issuedAt := ⟨0⟩, expiresAt := ⟨3000000000⟩ }]

def row : EvidenceRow where
  evidenceWorkerSessionId := .ofNat 5
  evidencePayloadDigest := bundle.bundleDigest
  evidenceWorkOrderDigest := payloadDigest
  evidenceBaseSha := commitOf 0
  evidenceCandidateSha := commitOf 1
  evidenceSchema := runmillEvidencePredicateSchemaV1
  evidenceEnvelopeSchema := runmillSignedEvidenceSchemaV1
  evidenceAlgorithm := "EdDSA"
  evidenceKeyId := "worker-key"
  evidenceSignature := bundle.signature
  evidenceCanonicalPayload := canonical (statement.toValue primitives)
  evidencePayload := statement.toValue primitives
  evidenceExactEnvelope := canonical (bundle.toValue primitives)
  evidenceProducedAt := ⟨1000000000⟩
  evidence := bundle

def binding : VerificationBinding := ⟨rows, row⟩

/-- Every reading of the clock is second 1. -/
def readings : Readings :=
  ⟨⟨1000000000⟩, fun _ => ⟨1000000000⟩, ⟨1000000000⟩, fun _ => ⟨1000000000⟩, fun _ => ⟨1000000000⟩⟩

theorem envelopeDigest_order : order.envelopeDigest primitives
    = .ok ("sha256:" ++ String.ofList (hexText envelopeHash.val)) := by
  have hsigned := (sign_eq_ok sign_order).1
  have hwindow : validateWindow order.issuedAt order.notBefore order.expiresAt = .ok () := by
    decide
  have hvalue : order.toValue primitives = order.toValue Instance.primitives := rfl
  have hhash : primitives.sha256 (canonical (order.toValue primitives)) = envelopeHash := by
    rw [sha256_eq, if_pos (congrArg canonical hvalue)]
  simp [envelopeDigest, canonicalBytes, hsigned.validateEnvelope hwindow, ok_bind,
    canonicalJson_eq_ok_iff.mpr (jcs_eq_ok _), pure, Except.pure, sha256Digest, hhash]

theorem decodeVerifyingKey_rows {key : VerifyingKey} :
    decodeVerifyingKey primitives rows.workerSessionSigningPublicKey = .ok key
      ↔ Instance.key = key := by
  have hdecode : decodeVerifyingKey primitives rows.workerSessionSigningPublicKey
      = .ok Instance.key := decodeVerifyingKey_encode rfl
  rw [hdecode, Except.ok.injEq]

open VerificationBinding

theorem exactOrder : ExactOrder binding ⟨1000000000⟩ ⟨0⟩ := by
  have hzero := digestOf_zero
  refine ⟨by decide, by decide, by decide, rfl, rfl, by decide, by decide, fun _ h => (nomatch h),
    by decide, rfl, by decide, by decide, by decide, rfl, rfl, rfl, rfl, rfl, rfl, hzero.symm, rfl,
    rfl, rfl, rfl, by decide +kernel, hzero.symm, rfl, hzero.symm, rfl⟩

theorem exactEvidence :
    ExactEvidence binding ("sha256:" ++ String.ofList (hexText envelopeHash.val)) :=
  ⟨rfl, rfl, rfl, rfl, rfl, rfl, rfl, rfl, rfl, rfl, rfl, rfl, rfl, rfl⟩

theorem storedOrder : binding.verifyStoredWorkOrder primitives
    (canonical (payload.toValue fun _ => (0, 0))) = .ok () := by
  have hvalid : payload.validate primitives.writeF64 = .ok () :=
    RunmillWorkOrderV1.validate_eq_ok_iff.mpr payload_valid
  have hdigest : payload.digest primitives = .ok payloadDigest := by
    simp only [RunmillWorkOrderV1.digest, RunmillWorkOrderV1.canonicalBytes, hvalid, ok_bind,
      canonicalJson_eq_ok_iff.mpr (jcs_eq_ok _), pure, Except.pure]
    rfl
  simp only [verifyStoredWorkOrder, bind_eq_ok_iff, exists_unit_iff, failIf_eq_ok_iff, not_or,
    not_not, ne_eq]
  exact ⟨canonical (order.toValue primitives), canonicalJson_eq_ok_iff.mpr (jcs_eq_ok _),
    ⟨rfl, rfl, rfl⟩, payloadDigest, hdigest, rfl, rfl, rfl, rfl, rfl, rfl, rfl, rfl, rfl⟩

theorem approvalBindings : binding.verifyApprovalBindings primitives readings = .ok () := by
  obtain ⟨hissued, -, -, hexpires⟩ := toUtc_time
  refine verifyApprovalBindings_eq_ok_iff.mpr ⟨rfl, ?_, ?_⟩
  · refine List.forall_mem_singleton.mpr ?_
    rintro (h | h | h | h | h)
    · exact h rfl
    · exact h rfl
    · exact h rfl
    · exact h rfl
    · exact absurd h (by decide)
  · refine List.forall_mem_singleton.mpr ?_
    have hfind : binding.evidence.statement.predicate.approvals.find? (fun evidence =>
        evidence.approvalId == (Uuid.ofNat 9).toText) = some approval :=
      List.find?_cons_of_pos (beq_self_eq_true _)
    have hissuedAt : approval.issuedAt = time 0 := rfl
    have hexpiresAt : approval.expiresAt = time 3 := rfl
    refine (verifyApprovalBinding_of_find hfind).mpr ⟨rfl, rfl, rfl, rfl, rfl, rfl, ?_, ?_⟩
    · rw [hissuedAt, hissued]
    · rw [hexpiresAt, hexpires]

theorem staticAuthority :
    StaticAuthority primitives readings binding "order-key" Instance.key where
  storedOrder := ⟨_, canonicalJson_eq_ok_iff.mpr (jcs_eq_ok _), storedOrder⟩
  keyId := rfl
  orderIntegrity := (sign_eq_ok sign_order).1.verifyIntegrity (by decide)
    fun _ => decide_eq_true rfl
  storedEvidence := by
    refine ⟨canonical (statement.toValue primitives), _, _,
      canonicalJson_eq_ok_iff.mpr (jcs_eq_ok _), toUtc_time.2.1, toUtc_time.1,
      verifyStoredEvidence_eq_ok_iff.mpr ?_, verifyExact_eq_ok_iff.mpr
        ⟨exactOrder, _, envelopeDigest_order, exactEvidence⟩⟩
    have henvelope : canonicalJson primitives (bundle.toValue primitives)
        = .ok (canonical (bundle.toValue primitives)) :=
      canonicalJson_eq_ok_iff.mpr (jcs_eq_ok _)
    exact ⟨henvelope, rfl, rfl, rfl, rfl, rfl, rfl, rfl, rfl, rfl, rfl⟩
  signature := ⟨Instance.key, _, decodeVerifyingKey_rows.mpr rfl, rfl, integrity (by decide)⟩
  scope := by decide +kernel
  paths := by decide +kernel
  approvals := approvalBindings
  plain := statement_plain

theorem completeEvidence : CompleteEvidence primitives readings binding "order-key" Instance.key
    observed ⟨1000000000⟩ ⟨1000000000⟩ where
  static := staticAuthority
  window := ⟨_, _, rfl, rfl, le_rfl, by decide, by decide⟩
  runId := by decide
  verified := ⟨Instance.key, "reader", "checker", _, decodeVerifyingKey_rows.mpr rfl, rfl, rfl,
    envelopeDigest_order, verified⟩

theorem artifactMetadata : binding.verifyArtifactMetadata readings = .ok () := by
  decide +kernel

end Sample

/-- The sample with its rows. -/
theorem verified_ledgerBound_sample :
    VerificationBinding.LedgerBound Sample.primitives Sample.readings Sample.binding :=
  (VerificationBinding.verified_ledgerBound _ Sample.binding _ _ _ _ _ _ _ _
    (List.nodup_singleton _)
    (VerificationBinding.verifyStaticAuthority_eq_ok_iff.mpr Sample.staticAuthority)
    Sample.artifactMetadata
    (VerificationBinding.verifyCompleteEvidence_eq_ok_iff.mpr Sample.completeEvidence)).1

end Asf.Evidence
