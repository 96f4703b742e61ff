import Asf.Evidence.Accepted

/-!
# Signing evidence

What `sign` (`src/contracts/runmill_evidence.rs`) returns has the integrity that
`verify_signed_integrity` asks for.

Results:

* `sign_eq_ok_iff`: when `sign` returns a bundle, and which.
* `exists_sign_eq_ok`: the holder of a key gets a signature for every valid, plain
  statement.
* `Integrity.of_sign`: the integrity of a signed bundle.

`Sample` is a bundle that is accepted.
-/

namespace Asf.Evidence

open Lib Contracts
open SignedRunmillEvidenceBundle (sign)
open List (replicate forall_mem_singleton forall_mem_cons)
open String (ofList)

/-! ## `sign` -/

/-- The envelope of a statement before it is signed (runmill_evidence.rs:529-537). -/
def unsignedBundle (p : Primitives) (statement : RunmillEvidenceStatement)
    (issuedAt : RunmillEvidenceTimestamp) (keyId : String) (canonical : List UInt8) :
    SignedRunmillEvidenceBundle where
  schema := runmillSignedEvidenceSchemaV1
  keyId := keyId
  algorithm := .edDSA
  issuedAt := issuedAt
  bundleDigest := sha256Digest p canonical
  statement := statement
  signature := ""

variable {observedAt : DateTime}

section Sign

variable {p : Primitives} {statement : RunmillEvidenceStatement}
  {issuedAt : RunmillEvidenceTimestamp} {signer : Ed25519Signer}
  {bundle : SignedRunmillEvidenceBundle}

theorem sign_eq_ok_iff :
    sign p statement issuedAt signer = .ok bundle
      ↔ statement.Valid p ∧ validIdentifier signer.keyId true ∧ issuedAt.Reads p
        ∧ ∃ canonical, canonicalJson p (statement.toValue p) = .ok canonical
          ∧ Plain ((unsignedBundle p statement issuedAt signer.keyId canonical).toValue p)
          ∧ ∃ message,
            (unsignedBundle p statement issuedAt signer.keyId canonical).unsignedCanonicalBytes p
              = .ok message
            ∧ { unsignedBundle p statement issuedAt signer.keyId canonical with
                signature := "base64url:" ++ signer.sign message } = bundle := by
  simp [sign, bind_eq_ok_iff, exists_unit_iff, validateStatementShape_eq_ok_iff,
    validateIdentifier_eq_ok_iff, validateTime_eq_ok_iff, pure, Except.pure, unsignedBundle, Plain]

/-- What `sign` returns carries the statement and the time it was given. -/
theorem sign_fields (h : sign p statement issuedAt signer = .ok bundle) :
    bundle.issuedAt = issuedAt ∧ bundle.statement = statement := by
  obtain ⟨-, -, -, _, -, -, _, -, rfl⟩ := sign_eq_ok_iff.mp h
  exact ⟨rfl, rfl⟩

/-! ## The holder of the trusted key -/

/-- The signer holds the trusted key: its signatures verify, and every document has a
    canonical form. -/
structure Holds (p : Primitives) (signer : Ed25519Signer)
    (trusted : TrustedRunmillEvidenceSigner) : Prop where
  keyId : signer.keyId = trusted.keyId
  verifyingKey : signer.verifyingKey = trusted.verifyingKey
  verifies : ∀ message, p.verify signer.verifyingKey message (signer.signingKey message)
  canonical : ∀ value, ∃ out, p.jcs value = .ok out

theorem plain_toValue_iff :
    Plain (bundle.toValue p) ↔ Plain (.str bundle.schema) ∧ Plain (.str bundle.keyId)
      ∧ Plain (.str bundle.issuedAt.text) ∧ Plain (.str bundle.bundleDigest)
      ∧ Plain (bundle.statement.toValue p) ∧ Plain (.str bundle.signature) := by
  have halgorithm : Plain (.str bundle.algorithm.text) := by
    cases bundle.algorithm
    exact plain_str.mpr (not_isCredentialShaped_of_codes (by decide))
  have hkeys : ∀ key ∈ ["schema", "key_id", "algorithm", "issued_at", "bundle_digest", "statement",
      "signature"], findsCode sensitiveCodes key = false := by decide +kernel
  rw [SignedRunmillEvidenceBundle.toValue, SignedRunmillEvidenceBundle.unsignedFields]
  refine (plain_obj_iff ?_ hkeys).trans ?_
  · rfl
  · simp [halgorithm]

/-- What a trusted signer signs has integrity, as far as the manifest is sound. -/
theorem Integrity.of_sign {trusted : TrustedRunmillEvidenceSigner}
    (hsign : sign p statement issuedAt signer = .ok bundle)
    (hholds : Holds p signer trusted) (hnotRevoked : trusted.revoked = false)
    (hwindow : trusted.validFrom.nanos < trusted.validUntil.nanos)
    (hissued : ∃ instant, issuedAt.toUtc p = .ok instant
      ∧ trusted.validFrom.nanos ≤ instant.nanos ∧ instant.nanos < trusted.validUntil.nanos
      ∧ instant.nanos ≤ observedAt.nanos)
    (hsignature : ¬ isCredentialShaped bundle.signature)
    (hmanifest : SoundManifest statement.predicate) : Integrity p bundle trusted observedAt := by
  obtain ⟨hvalid, hkey, hreads, canonical, hcanonical, hplain, message, hmessage, rfl⟩ :=
    sign_eq_ok_iff.mp hsign
  obtain ⟨hschema, hkeyText, hissuedText, hdigestText, hstatement, -⟩ := plain_toValue_iff.mp hplain
  refine ⟨⟨rfl, hkey, hreads, isSha256Digest_sha256Digest p canonical, hvalid,
    ⟨signer.signingKey message, rfl⟩, ?_⟩, hholds.keyId ▸ hkey, ?_, ?_, hmanifest⟩
  · exact plain_toValue_iff.mpr ⟨hschema, hkeyText, hissuedText, hdigestText, hstatement,
      plain_str.mpr hsignature⟩
  · exact documentDigest_eq_ok_iff.mpr ⟨canonical, hcanonical, rfl⟩
  · refine ⟨hnotRevoked, hholds.keyId.symm, hwindow, hissued, ?_⟩
    refine ⟨signer.sign message, rfl, message, hmessage, ?_⟩
    rw [← hholds.verifyingKey]
    exact verifySignature_sign (hholds.verifies message)

/-- The holder of the key gets a signature for every valid, plain statement. -/
theorem exists_sign_eq_ok (hcanonical : ∀ value, ∃ out, p.jcs value = .ok out)
    (hkey : validIdentifier signer.keyId true) (hkeyText : ¬ isCredentialShaped signer.keyId)
    (hissued : issuedAt.Reads p) (hissuedText : ¬ isCredentialShaped issuedAt.text)
    (hvalid : statement.Valid p) (hplain : Plain (statement.toValue p)) :
    ∃ bundle, sign p statement issuedAt signer = .ok bundle := by
  obtain ⟨canonical, hjcs⟩ := hcanonical (statement.toValue p)
  obtain ⟨message, hmessage⟩ := hcanonical (.obj
    ((unsignedBundle p statement issuedAt signer.keyId canonical).unsignedFields p))
  have hschema : ¬ isCredentialShaped runmillSignedEvidenceSchemaV1 :=
    not_isCredentialShaped_of_codes (by decide)
  have hempty : ¬ isCredentialShaped "" := not_isCredentialShaped_of_codes (by decide)
  refine ⟨_, sign_eq_ok_iff.mpr ⟨hvalid, hkey, hissued, canonical,
    canonicalJson_eq_ok_iff.mpr hjcs, ?_, message, canonicalJson_eq_ok_iff.mpr hmessage, rfl⟩⟩
  exact plain_toValue_iff.mpr ⟨plain_str.mpr hschema, plain_str.mpr hkeyText,
    plain_str.mpr hissuedText, plain_str.mpr (sha256Digest_not_credentialShaped p canonical),
    hplain, plain_str.mpr hempty⟩

end Sign

/-! ## An accepted bundle -/

namespace Sample

/-! ### The signed order -/

/-- A Work Order with the ids of rows. -/
def payload : RunmillWorkOrderV1 :=
  { dispatched ["src/**"] ["ci/build"] with
    workOrderId := (Uuid.ofNat 1).toText
    tenantId := (Uuid.ofNat 2).toText
    workItemId := (Uuid.ofNat 3).toText
    attemptId := (Uuid.ofNat 4).toText
    idempotencyKey := s!"{(Uuid.ofNat 2).toText}/{(Uuid.ofNat 3).toText}/{(Uuid.ofNat 4).toText}" }

/-- Never evaluated, and therefore irreducible. -/
@[irreducible] def canonical (value : Json) : List UInt8 :=
  bytes (ofList value.canonicalText)

def unsignedOrder : RunmillSignedWorkOrderV1 where
  schema := runmillWorkOrderEnvelopeSchemaV1
  keyId := "order-key"
  algorithm := "EdDSA"
  issuedAt := ⟨0⟩
  notBefore := ⟨0⟩
  expiresAt := ⟨3000000000⟩
  payload := payload
  signature := ""

def order : RunmillSignedWorkOrderV1 :=
  { unsignedOrder with
    signature := signatureStart ++ (Instance.signer "order-key").sign
      (canonical (.obj (unsignedOrder.signedFields Instance.primitives))) }

/-- SHA-256 of the order's canonical form. -/
def envelopeHash : Block 32 :=
  ⟨[3, 92, 91, 153, 170, 158, 172, 119, 185, 229, 235, 223, 219, 77, 21, 75, 126, 101, 250, 29, 5,
    174, 234, 180, 83, 157, 242, 226, 73, 157, 120, 75], rfl⟩

def pullRequestUrl : String := "https://github.com/owner/name/pull/1"

/-- The primitives of `Instance` with one URL. The hash of the order is written down, so
    that it can be compared with other digests without evaluating it. -/
def primitives : Primitives :=
  { Instance.primitives with
    sha256 := fun message =>
      if message = canonical (order.toValue Instance.primitives) then envelopeHash
      else Instance.primitives.sha256 message
    parseUrl := fun text =>
      if text = pullRequestUrl then .ok ⟨⟨"https", some "github.com", "", none⟩, none, none⟩
      else .error "relative URL without a base" }

theorem sha256_eq (message : List UInt8) :
    primitives.sha256 message
      = if message = canonical (order.toValue Instance.primitives) then envelopeHash
        else Instance.primitives.sha256 message := rfl

/-! ### The statement -/

variable (byte : UInt8)

/-- The digest and the commit of which all bytes are `byte`. -/
@[irreducible] def digestOf : String :=
  "sha256:" ++ ofList (hexText (replicate 32 byte))

@[irreducible] def commitOf : String :=
  ofList (hexText (replicate 20 byte))

/-- The text of an instant, in seconds. -/
@[irreducible] def time (seconds : ℤ) : RunmillEvidenceTimestamp :=
  ⟨Instance.timeText ⟨seconds * 1000000000⟩⟩

def payloadDigest : String := sha256Digest primitives (canonical (payload.toValue fun _ => (0, 0)))

def artifact (id : String) (kind : RunmillArtifactKind) (hash : List UInt8) :
    RunmillEvidenceArtifact where
  artifactId := id
  kind := kind
  sizeBytes := 1
  mediaType := "application/json"
  digest := "sha256:" ++ ofList (hexText hash)
  retentionClass := .portable
  locationRef := "cas://sha256/" ++ ofList (hexText hash)

def review (id : String) (stage : RunmillReviewStage) (principal profile : String) :
    RunmillReviewEvidence :=
  ⟨id, stage, principal, profile, true, commitOf 1, digestOf 0, .pass, digestOf 5, digestOf 5⟩

def effect (key : String) (kind : RunmillSideEffectKind) : RunmillSideEffectEvidence :=
  ⟨key, kind, commitOf 1, digestOf 9, digestOf 9, none, digestOf 9, .confirmed, digestOf 6⟩

def approval : RunmillApprovalEvidence :=
  ⟨(Uuid.ofNat 9).toText, "release", "merge", "approver", digestOf 9, payloadDigest, commitOf 1,
    digestOf 0, time 0, time 3, digestOf 9, digestOf 7⟩

def predicate : RunmillEvidencePredicate where
  schema := runmillEvidencePredicateSchemaV1
  run := ⟨"run", .ofNat 4, .ofNat 1, time 0⟩
  workOrder := ⟨"sha256:" ++ ofList (hexText envelopeHash.val), payloadDigest,
    "sha256:" ++ ofList (hexText envelopeHash.val), ⟨"order-key", .edDSA, true⟩⟩
  policy := ⟨digestOf 0, digestOf 0, ⟨digestOf 9, digestOf 9, digestOf 9, digestOf 9⟩, ["test"],
    ["ci/build"], true, true⟩
  source := ⟨"github", "owner/name", "refs/heads/main", commitOf 0, commitOf 1, commitOf 1, none,
    digestOf 9, digestOf 1, digestOf 1, ["src/lib.rs"]⟩
  runtime := ⟨digestOf 9, digestOf 9, digestOf 9, digestOf 9, digestOf 9, digestOf 8,
    [⟨.implementer, "claude", "model", "writer", "lease"⟩,
      ⟨.localReviewer, "claude", "model", "reader", "lease"⟩,
      ⟨.pullRequestReviewer, "codex", "model", "checker", "lease"⟩]⟩
  roleOutcomes :=
    [⟨.implementer, .completed, commitOf 1, digestOf 2⟩,
      ⟨.localReviewer, .passed, commitOf 1, digestOf 2⟩,
      ⟨.pullRequestReviewer, .passed, commitOf 1, digestOf 2⟩]
  verification :=
    ⟨[⟨"test", commitOf 1, digestOf 9, digestOf 9, "executor", digestOf 9, digestOf 9, time 0,
        time 0, .success, .complete, digestOf 3⟩],
      [⟨"ci/build", commitOf 1, .success, time 0, digestOf 4⟩]⟩
  reviews :=
    [review "first" .localStage "reader" "claude:reviewer",
      review "second" .pullRequest "checker" "codex:reviewer"]
  sideEffects := [effect (digestOf 10) .branchPush, effect (digestOf 11) .pullRequestCreate]
  approvals := [approval]
  cancellation := none
  budget := ⟨⟨0⟩, 3, 0, 1000, .pullRequestDelivered⟩
  delivery := ⟨.pr, true, ⟨"github", "owner/name", 1, pullRequestUrl, "refs/heads/change",
    "refs/heads/main", commitOf 1, time 0, digestOf 6⟩⟩
  artifacts :=
    [artifact "order" .workOrderEnvelope envelopeHash.val,
      artifact "policy" .effectivePolicy (replicate 32 0),
      artifact "diff" .normalizedDiff (replicate 32 1),
      artifact "outcome" .agentOutcome (replicate 32 2),
      artifact "check" .verification (replicate 32 3),
      artifact "ci" .ciObservation (replicate 32 4), artifact "review" .review (replicate 32 5),
      artifact "effect" .sideEffect (replicate 32 6),
      artifact "approval" .approval (replicate 32 7),
      artifact "runtime" .runtimeManifest (replicate 32 8)]

def statement : RunmillEvidenceStatement where
  statementType := inTotoStatementV1
  subject := [⟨"github:owner/name", ⟨commitOf 1⟩⟩]
  predicateType := runmillEvidencePredicateTypeV1
  predicate := predicate

theorem isSha256Digest_digestOf : isSha256Digest (digestOf byte) := by
  rw [digestOf]
  exact isSha256Digest_hexText List.length_replicate

theorem isCommit_commitOf : isCommit (commitOf byte) := by
  obtain ⟨hlength, hhex⟩ := bytes_hexText (replicate 20 byte)
  rw [List.length_replicate] at hlength
  simp only [isCommit, commitOf, Bool.and_eq_true, beq_iff_eq, List.all_eq_true]
  exact ⟨hlength, hhex⟩

theorem toUtc_time : (time 0).toUtc primitives = .ok ⟨0⟩
    ∧ (time 1).toUtc primitives = .ok ⟨1000000000⟩
    ∧ (time 2).toUtc primitives = .ok ⟨2000000000⟩
    ∧ (time 3).toUtc primitives = .ok ⟨3000000000⟩ := by
  decide +kernel

theorem artifact_valid {id : String} (hid : validIdentifier id true) {kind : RunmillArtifactKind}
    {hash : List UInt8} (hhash : hash.length = 32) : (artifact id kind hash).Valid := by
  have hsize : 1 ≤ 1073741824 := by decide
  have hmedia : isMediaType "application/json" := by decide
  refine ⟨hid, hsize, hmedia, isSha256Digest_hexText hhash, ?_⟩
  obtain ⟨hlength, hhex⟩ := bytes_hexText hash
  refine validateCasLocation_eq_ok_iff.mpr ⟨_, rfl, by omega, ?_⟩
  exact List.all_eq_true.mpr hhex

theorem reads_time : (time 0).Reads primitives ∧ (time 1).Reads primitives
    ∧ (time 3).Reads primitives :=
  ⟨⟨_, toUtc_time.1⟩, ⟨_, toUtc_time.2.1⟩, ⟨_, toUtc_time.2.2.2⟩⟩

theorem isSha256Digest_envelope : isSha256Digest ("sha256:" ++ ofList (hexText envelopeHash.val)) :=
  isSha256Digest_hexText envelopeHash.property

theorem predicate_valid : predicate.Valid primitives := by
  constructor
  case completedAt => exact reads_time.1
  case digests =>
    simp [RunmillEvidencePredicate.digests, predicate, isSha256Digest_digestOf,
      isSha256Digest_envelope, payloadDigest, isSha256Digest_sha256Digest]
  case localChecks =>
    refine ⟨by decide, forall_mem_singleton.mpr ⟨by decide +kernel, isCommit_commitOf 1, ?_,
      by decide +kernel, reads_time.1, reads_time.1⟩⟩
    simp [RunmillLocalCheckEvidence.digests, isSha256Digest_digestOf]
  case ciContexts =>
    exact ⟨by decide, forall_mem_singleton.mpr ⟨by decide +kernel, isCommit_commitOf 1,
      reads_time.1, isSha256Digest_digestOf 4⟩⟩
  case approvals =>
    refine ⟨by decide, forall_mem_singleton.mpr ⟨by decide +kernel, ?_, isCommit_commitOf 1,
      reads_time.1, reads_time.2.2⟩⟩
    simp [RunmillApprovalEvidence.digests, approval, isSha256Digest_digestOf, payloadDigest,
      isSha256Digest_sha256Digest]
  case delivery =>
    exact ⟨rfl, by decide +kernel, by decide +kernel, by decide, by decide +kernel,
      by decide +kernel, by decide +kernel, isCommit_commitOf 1, reads_time.1,
      isSha256Digest_digestOf 6⟩
  case artifacts =>
    refine ⟨by decide, ?_⟩
    simp only [predicate, forall_mem_singleton, forall_mem_cons]
    and_intros <;> exact artifact_valid (by decide +kernel) rfl
  case cancellation => exact fun _ h => absurd h (Option.not_mem_none _)
  all_goals
    try simp only [sortedReferences_iff, RunmillSourceEvidence.valid_iff,
      RunmillProviderAttribution.valid_iff, RunmillRoleOutcome.valid_iff,
      RunmillReviewEvidence.valid_iff, RunmillSideEffectEvidence.valid_iff,
      RunmillBudgetEvidence.valid_iff]
    decide +kernel

theorem digestText_inj {a b : List UInt8} :
    "sha256:" ++ ofList (hexText a) = "sha256:" ++ ofList (hexText b) ↔ a = b := by
  rw [String.append_right_inj, String.ofList_inj, hexText_injective.eq_iff]

theorem predicate_manifest : SoundManifest predicate where
  ids := by decide
  digests := by decide +kernel
  locations := by
    simp only [predicate, forall_mem_singleton, forall_mem_cons]
    and_intros <;> exact ⟨_, rfl, rfl⟩
  references := by
    simp [predicate, RunmillEvidencePredicate.references, review, effect, approval,
      artifact, digestOf]
  cancellation := fun _ h => nomatch h

theorem statement_valid : statement.Valid primitives :=
  ⟨rfl, rfl, ⟨_, rfl, by decide, isCommit_commitOf 1⟩, predicate_valid⟩

/-- The statement without the digest that would have to be computed. -/
def blankStatement : RunmillEvidenceStatement :=
  { statement with
    predicate := { predicate with
      workOrder := { predicate.workOrder with payloadDigest := "" }
      approvals := [{ approval with workOrderDigest := "" }] } }

theorem statement_plain : Plain (statement.toValue primitives) := by
  have hpayload : ¬ isCredentialShaped payloadDigest := sha256Digest_not_credentialShaped _ _
  have hstrings : (statement.toValue primitives).strings = ((blankStatement.toValue
      primitives).strings.set 10 payloadDigest).set 121 payloadDigest := rfl
  have hblank : Plain (blankStatement.toValue primitives) :=
    plain_of_codes (by decide +kernel) (by decide +kernel)
  obtain ⟨hkeys, htexts⟩ := plain_iff.mp hblank
  refine plain_iff.mpr ⟨hkeys, ?_⟩
  rw [hstrings]
  intro text htext
  rcases List.mem_or_eq_of_mem_set htext with htext | rfl
  · rcases List.mem_or_eq_of_mem_set htext with htext | rfl
    · exact htexts text htext
    · exact hpayload
  · exact hpayload

/-! ### The bundle -/

def signer : Ed25519Signer := Instance.signer "worker-key"

def unsigned : SignedRunmillEvidenceBundle :=
  unsignedBundle primitives statement (time 1) "worker-key"
    (canonical (statement.toValue primitives))

def bundle : SignedRunmillEvidenceBundle :=
  { unsigned with
    signature := "base64url:" ++
      signer.sign (canonical (.obj (unsigned.unsignedFields primitives))) }

theorem jcs_eq_ok (value : Json) : primitives.jcs value = .ok (canonical value) := by
  unfold canonical
  rfl

theorem sign_statement : sign primitives statement (time 1) signer = .ok bundle := by
  have hempty : ¬ isCredentialShaped "" := not_isCredentialShaped_of_codes (by decide +kernel)
  refine sign_eq_ok_iff.mpr ⟨statement_valid, by decide +kernel, reads_time.2.1,
    canonical (statement.toValue primitives), canonicalJson_eq_ok_iff.mpr (jcs_eq_ok _), ?_,
    canonical (.obj (unsigned.unsignedFields primitives)),
    canonicalJson_eq_ok_iff.mpr (jcs_eq_ok _), rfl⟩
  refine plain_toValue_iff.mpr ⟨plain_str.mpr ?_, plain_str.mpr ?_, plain_str.mpr ?_,
    plain_str.mpr (sha256Digest_not_credentialShaped _ _), statement_plain, plain_str.mpr hempty⟩
  · exact not_isCredentialShaped_of_codes (by decide +kernel)
  · exact not_isCredentialShaped_of_codes (by decide +kernel)
  · exact not_isCredentialShaped_of_codes (by decide +kernel)

def trusted : TrustedRunmillEvidenceSigner :=
  ⟨"worker-key", Instance.key, ⟨0⟩, ⟨3000000000⟩, false⟩

theorem holds : Holds primitives signer trusted :=
  ⟨rfl, rfl, fun _ => decide_eq_true rfl, fun value => ⟨_, jcs_eq_ok value⟩⟩

/-- What the signer signs is not taken for a credential. -/
theorem signature_not_credentialShaped {statement : RunmillEvidenceStatement}
    {issuedAt : RunmillEvidenceTimestamp} {bundle : SignedRunmillEvidenceBundle}
    (h : sign primitives statement issuedAt signer = .ok bundle) :
    ¬ isCredentialShaped bundle.signature := by
  obtain ⟨-, -, -, _, -, -, message, -, rfl⟩ := sign_eq_ok_iff.mp h
  exact Instance.sign_not_credentialShaped (by decide) _ message

theorem integrity (h : 1000000000 ≤ observedAt.nanos) :
    Integrity primitives bundle trusted observedAt :=
  .of_sign sign_statement holds rfl (by decide) ⟨_, toUtc_time.2.1, by decide, by decide, h⟩
    (signature_not_credentialShaped sign_statement) predicate_manifest

/-- The observation of the pull request. -/
def observed : PullRequestEvidence :=
  ⟨"owner/name", 1, pullRequestUrl, commitOf 0, commitOf 1, ["ci/build"].toFinset,
    ["ci/build"].toFinset⟩

def expectation : RunmillEvidenceExpectation where
  trustedSigner := trusted
  observedAt := ⟨1000000000⟩
  runId := "run"
  attemptId := .ofNat 4
  workOrderId := .ofNat 1
  workOrderKeyId := "order-key"
  workOrderEnvelopeDigest := "sha256:" ++ ofList (hexText envelopeHash.val)
  workOrderPayloadDigest := payloadDigest
  effectivePolicyDigest := digestOf 0
  forge := "github"
  repository := "owner/name"
  baseRef := "refs/heads/main"
  baseSha := commitOf 0
  candidateSha := commitOf 1
  treeDigest := digestOf 9
  normalizedDiffDigest := digestOf 1
  changedPaths := ["src/lib.rs"].toFinset
  requiredLocalChecks := ["test"].toFinset
  requiredCiContexts := ["ci/build"].toFinset
  localReviewer := some ⟨"reader", "claude:reviewer"⟩
  pullRequestReviewer := some ⟨"checker", "codex:reviewer"⟩
  pullRequestHeadRef := "refs/heads/change"
  independentlyObservedPullRequest := observed

theorem expectation_admissible : Contracts.validateExpectation expectation.checked = .ok () := by
  have hdigest {value label : String} (h : isSha256Digest value) :
      validateDigest value label = .ok () := by
    simp [validateDigest, h]
  simp only [Contracts.validateExpectation, seq_eq_ok_iff, forM_eq_ok_iff, mem_ascending,
    List.forall_mem_append]
  refine ⟨by decide +kernel, by decide +kernel, by decide +kernel, hdigest isSha256Digest_envelope,
    hdigest (isSha256Digest_sha256Digest _ _), hdigest (isSha256Digest_digestOf 0),
    hdigest (isSha256Digest_digestOf 9), hdigest (isSha256Digest_digestOf 1), by decide +kernel,
    by decide +kernel, by decide +kernel, by decide +kernel, ?_, ?_, ?_, ⟨?_, ?_⟩, ?_, ?_⟩
  all_goals decide +kernel

theorem bindings : Bindings primitives bundle expectation where
  source := ⟨rfl, rfl, rfl, rfl, rfl, rfl, rfl, rfl, rfl, rfl, rfl, rfl, rfl, rfl, rfl, rfl⟩
  subject := ⟨_, rfl, by decide, rfl⟩
  requirements := ⟨by decide, by decide, by decide, rfl, rfl⟩
  notCancelled := rfl
  providers := by
    refine ⟨by decide, ?_, ?_, by decide, ?_, by decide, ?_⟩
    · intro role
      cases role <;> decide
    · intro stage
      cases stage <;> decide
    · exact forall_mem_cons.mpr ⟨rfl, forall_mem_cons.mpr ⟨rfl, forall_mem_singleton.mpr rfl⟩⟩
    · intro stage
      cases stage <;> decide
  localChecks := by
    refine ⟨by decide, forall_mem_singleton.mpr ?_, by decide⟩
    exact ⟨rfl, rfl, rfl, rfl, _, _, toUtc_time.1, toUtc_time.1, le_rfl⟩
  ciContexts := ⟨by decide, forall_mem_singleton.mpr ⟨rfl, rfl⟩, by decide⟩
  reviews := by
    refine ⟨by decide, by decide, forall_mem_cons.mpr ⟨?_, forall_mem_singleton.mpr ?_⟩, ?_⟩
    · exact ⟨⟨_, rfl, rfl, rfl⟩, rfl, by decide, rfl, rfl, rfl⟩
    · exact ⟨⟨_, rfl, rfl, rfl⟩, rfl, by decide, rfl, rfl, rfl⟩
    · intro stage
      cases stage <;> decide
  sideEffects := by
    have hkeys : digestOf 10 ≠ digestOf 11 := by
      rw [digestOf, digestOf, ne_eq, digestText_inj]
      decide
    refine ⟨?_, forall_mem_cons.mpr ⟨rfl, forall_mem_singleton.mpr rfl⟩,
      ⟨_, List.mem_cons_self, rfl⟩, ⟨_, List.mem_cons_of_mem _ List.mem_cons_self, rfl⟩⟩
    show [digestOf 10, digestOf 11].Nodup
    simp [hkeys]
  approvals := by
    refine ⟨List.nodup_singleton _, forall_mem_singleton.mpr ?_⟩
    exact ⟨rfl, rfl, rfl, _, _, toUtc_time.1, toUtc_time.2.2.2, by decide, by decide⟩
  pullRequest := ⟨rfl, rfl, rfl, rfl, rfl, rfl, rfl, rfl, rfl, rfl, rfl, by decide⟩
  times := ⟨_, _, toUtc_time.2.1, toUtc_time.1, by decide⟩

/-- The bundle is accepted. -/
theorem verified : Verified primitives bundle expectation :=
  ⟨expectation_admissible, integrity le_rfl, bindings⟩

end Sample

end Asf.Evidence
