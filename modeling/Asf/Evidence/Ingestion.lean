import Asf.Common.JsonSize
import Asf.Evidence.Decoding
import Asf.Evidence.Signing

/-!
# Ingestion of signed evidence (`src/ledger/runmill_evidence_ingestion.rs`)

The record that is made of a bundle and of the unsigned view it was read with.

Results:

* `fromEvidenceView_eq_ok`: what a record that was made says about its view.
* `manifest_restated_iff`: when the view lists the signed artifacts.
-/

namespace Asf.Evidence

open Lib Contracts
open SignedRunmillEvidenceBundle (fromJson fromValue sign unsignedFields)

variable {manifest : List RunmillEvidenceArtifact} (signed : RunmillEvidenceArtifact)

/-! ## What is read -/

section Record

variable (p : Primitives) (toVec : Json → Except String (List UInt8)) (report : Json → String)
  (fence : RunmillTerminalEvidenceFence) (view : RunmillEvidenceView)
  (predicate : RunmillEvidencePredicate)

/-- `RunmillRetentionClass` of the control port (runmill_control.rs:587-593). -/
inductive ControlRetentionClass where
  | portable
  | protectedClass
  | restricted
deriving DecidableEq

/-- `RunmillArtifactReference` (runmill_control.rs:595-605). -/
structure RunmillArtifactReference where
  (artifactId kind digest : String)
  sizeBytes : ℕ
  mediaType : String
  retentionClass : ControlRetentionClass
  locationRef : String
deriving DecidableEq

/-- What ingestion reads of a `RunmillEvidenceView` (runmill_control.rs:607-626). -/
structure RunmillEvidenceView where
  (candidateSha bundleDigest : Option String)
  artifacts : List RunmillArtifactReference
  signedBundle : Option Json

/-- What ingestion reads of a `RunmillTerminalEvidenceFence`
    (runmill_terminal_evidence.rs:124-142). -/
structure RunmillTerminalEvidenceFence where
  externalRunId : String
  (workOrderId attemptId : Uuid)

/-- `EvidenceRecord` (lines 103-122). -/
structure EvidenceRecord where
  (schemaVersion envelopeSchema algorithm keyId payloadDigest workOrderDigest baseSha : String)
  (candidateSha requestedTarget : String)
  targetSatisfied : Bool
  canonicalPayload : List UInt8
  payload : Json
  signature : String
  exactSignedEnvelope : List UInt8
  producedAt : DateTime
  artifacts : List RunmillEvidenceArtifact

/-! ## `from_evidence_view` -/

/-- `control_retention_database_value` (lines 586-592). -/
def controlRetentionDatabaseValue : ControlRetentionClass → String
  | .portable => "portable"
  | .protectedClass => "protected"
  | .restricted => "restricted"

/-- `retention_database_value` (lines 594-600). -/
def retentionDatabaseValue : RunmillRetentionClass → String
  | .portable => "portable"
  | .protectedClass => "protected"
  | .restricted => "restricted"

/-- `closure_target_database_value` (lines 602-606). -/
def closureTargetDatabaseValue : RunmillClosureTarget → String
  | .pr => "pull_request"

/-- `require_document_size` (lines 617-624). -/
def requireDocumentSize (length : ℕ) (description : String) : Checked Unit :=
  Exec.failIf (¬ (2 ≤ length ∧ length ≤ 2 * 1024 * 1024))
    (.validation s!"{description} must be between 2 bytes and 2 MiB")

/-- The comparison of a listed with a signed artifact
    (lines 318-326). -/
def matched (listed : RunmillArtifactReference) : Bool :=
  listed.artifactId == signed.artifactId && listed.digest == signed.digest
    && listed.sizeBytes == signed.sizeBytes && listed.mediaType == signed.mediaType
    && listed.locationRef == signed.locationRef
    && controlRetentionDatabaseValue listed.retentionClass
      == retentionDatabaseValue signed.retentionClass

/-- `assert_view_manifest_agrees` (lines 307-338). -/
def assertViewManifestAgrees (manifest : List RunmillEvidenceArtifact) : Checked Unit := do
  Exec.failIf (view.artifacts.length ≠ manifest.length) (.validation
    "Runmill evidence view lists a different artifact count than its signed manifest")
  manifest.forM fun signed =>
    Exec.failIf (¬ view.artifacts.any (matched signed)) (.validation
      s!"Runmill evidence view contradicts signed manifest artifact {signed.artifactId}")

/-- The binding of the statement to the fence and the view
    (lines 263-286). -/
def requireBinding : Checked Unit := do
  Exec.failIf (predicate.run.runId ≠ fence.externalRunId
      ∨ predicate.run.workOrderId.toText ≠ fence.workOrderId.toText
      ∨ predicate.run.attemptId.toText ≠ fence.attemptId.toText)
    (.validation
      "signed evidence bundle names a different run, Work Order, or attempt than its fence")
  Exec.failIf (view.candidateSha ≠ some predicate.source.candidateSha)
    (.validation "Runmill evidence view candidate commit contradicts its signed source")
  Exec.failIf (¬ isSha256Digest predicate.workOrder.payloadDigest)
    (.validation "signed evidence bundle carries an invalid Work Order payload digest")

/-- The columns that are retained (lines 285-303). -/
def EvidenceRecord.retained (bundle : SignedRunmillEvidenceBundle)
    (exactSignedEnvelope canonicalPayload : List UInt8) (producedAt : DateTime) :
    EvidenceRecord where
  schemaVersion := bundle.statement.predicate.schema
  envelopeSchema := bundle.schema
  algorithm := bundle.algorithm.text
  keyId := bundle.keyId
  payloadDigest := bundle.bundleDigest
  workOrderDigest := bundle.statement.predicate.workOrder.payloadDigest
  baseSha := bundle.statement.predicate.source.baseSha
  candidateSha := bundle.statement.predicate.source.candidateSha
  requestedTarget := closureTargetDatabaseValue bundle.statement.predicate.delivery.closureTarget
  targetSatisfied := bundle.statement.predicate.delivery.satisfied
  canonicalPayload := canonicalPayload
  payload := bundle.statement.toValue p
  signature := bundle.signature
  exactSignedEnvelope := exactSignedEnvelope
  producedAt := producedAt
  artifacts := bundle.statement.predicate.artifacts

/-- `EvidenceRecord::from_evidence_view` (lines 225-305). `toVec` is
    `serde_json::to_vec`; the bytes it writes are parsed to the document again. -/
def EvidenceRecord.fromEvidenceView : Checked EvidenceRecord := do
  let signedBundle ← Exec.lift (okOr
    (.validation "Runmill evidence view carries no signed evidence bundle") view.signedBundle)
  let exactSignedEnvelope ← Exec.lift ((toVec signedBundle).mapError fun error =>
    Error.serialization s!"serialize signed Runmill evidence bundle: {error}")
  requireDocumentSize exactSignedEnvelope.length "signed evidence envelope"
  let bundle ← fromJson p report signedBundle
  let bundleDigest ← Exec.lift (okOr
    (.validation "Runmill evidence view carries no evidence bundle digest") view.bundleDigest)
  Exec.failIf (¬ isSha256Digest bundleDigest ∨ bundle.bundleDigest ≠ bundleDigest)
    (.validation "signed evidence bundle digest contradicts the evidence view")
  let canonicalPayload ← Exec.lift (canonicalJson p (bundle.statement.toValue p))
  requireDocumentSize canonicalPayload.length "evidence statement"
  Exec.failIf (sha256Digest p canonicalPayload ≠ bundle.bundleDigest)
    (.validation "signed evidence bundle digest is not the digest of its own statement")
  requireBinding fence view bundle.statement.predicate
  assertViewManifestAgrees view bundle.statement.predicate.artifacts
  let producedAt ← Exec.lift (bundle.issuedAt.toUtc p)
  return .retained p bundle exactSignedEnvelope canonicalPayload producedAt

/-! ## What was checked -/

/-- The size of a document that is retained. -/
def FitsDocument (length : ℕ) : Prop := 2 ≤ length ∧ length ≤ 2 * 1024 * 1024

/-- The view lists as many artifacts as are signed, and each signed one is matched. -/
@[mk_iff] structure Agrees (manifest : List RunmillEvidenceArtifact) : Prop where
  length : view.artifacts.length = manifest.length
  listed : ∀ signed ∈ manifest, view.artifacts.any (matched signed)

/-- The statement is about the run of the fence and the commit of the view. -/
@[mk_iff] structure BoundTo : Prop where
  runId : predicate.run.runId = fence.externalRunId
  workOrderId : predicate.run.workOrderId.toText = fence.workOrderId.toText
  attemptId : predicate.run.attemptId.toText = fence.attemptId.toText
  candidateSha : view.candidateSha = some predicate.source.candidateSha
  payloadDigest : isSha256Digest predicate.workOrder.payloadDigest

/-- What was written, read and hashed on the way to a record. -/
structure Ingests (document : Json) (envelope : List UInt8)
    (bundle : SignedRunmillEvidenceBundle) (canonical : List UInt8) (producedAt : DateTime) :
    Prop where
  signedBundle : view.signedBundle = some document
  written : toVec document = .ok envelope
  envelopeSize : FitsDocument envelope.length
  decoded : fromJson p report document = .ok bundle
  bundleDigest : view.bundleDigest = some bundle.bundleDigest
  isDigest : isSha256Digest bundle.bundleDigest
  hashed : canonicalJson p (bundle.statement.toValue p) = .ok canonical
  statementSize : FitsDocument canonical.length
  digest : sha256Digest p canonical = bundle.bundleDigest
  bound : BoundTo fence view bundle.statement.predicate
  manifest : Agrees view bundle.statement.predicate.artifacts
  issuedAt : bundle.issuedAt.toUtc p = .ok producedAt

end Record

variable {view : RunmillEvidenceView}

theorem assertViewManifestAgrees_eq_ok_iff :
    assertViewManifestAgrees view manifest = .ok () ↔ Agrees view manifest := by
  simp only [assertViewManifestAgrees, seq_eq_ok_iff, Exec.failIf_eq_ok_iff,
    forM_eq_ok_iff, agrees_iff, ne_eq, not_not]

theorem requireBinding_eq_ok_iff {fence : RunmillTerminalEvidenceFence}
    {predicate : RunmillEvidencePredicate} :
    requireBinding fence view predicate = .ok () ↔ BoundTo fence view predicate := by
  simp only [requireBinding, seq_eq_ok_iff, Exec.failIf_eq_ok_iff, boundTo_iff,
    ne_eq, not_or, not_not, and_assoc]

open EvidenceRecord (fromEvidenceView)

theorem fromEvidenceView_eq_ok_iff {p : Primitives} {toVec : Json → Except String (List UInt8)}
    {report : Json → String} {fence : RunmillTerminalEvidenceFence} {record : EvidenceRecord} :
    fromEvidenceView p toVec report fence view = .ok record
      ↔ ∃ document envelope bundle canonical producedAt,
        Ingests p toVec report fence view document envelope bundle canonical producedAt
        ∧ record = .retained p bundle envelope canonical producedAt := by
  simp only [fromEvidenceView, requireDocumentSize, bind_eq_ok_iff, exists_unit_iff,
    Exec.lift_eq_ok_iff, Exec.failIf_eq_ok_iff, okOr_eq_ok_iff, mapError_eq_ok_iff,
    requireBinding_eq_ok_iff, assertViewManifestAgrees_eq_ok_iff, not_or, not_not, ne_eq]
  constructor
  · rintro ⟨document, hdocument, envelope, henvelope, hsize, bundle, hbundle, digest, hdigest,
      ⟨hsha, rfl⟩, canonical, hcanonical, hcanonicalSize, hhash, hbound, hagrees, producedAt,
      hproduced, hrecord⟩
    exact ⟨document, envelope, bundle, canonical, producedAt,
      ⟨hdocument, henvelope, hsize, hbundle, hdigest, hsha, hcanonical, hcanonicalSize, hhash,
        hbound, hagrees, hproduced⟩, (Except.ok.inj hrecord).symm⟩
  · rintro ⟨document, envelope, bundle, canonical, producedAt, h, rfl⟩
    exact ⟨document, h.signedBundle, envelope, h.written, h.envelopeSize, bundle, h.decoded,
      bundle.bundleDigest, h.bundleDigest, ⟨h.isDigest, rfl⟩, canonical, h.hashed,
      h.statementSize, h.digest, h.bound, h.manifest, producedAt, h.issuedAt, rfl⟩

/-! ## The listed and the signed artifacts -/

/-- The class of the same name in the control port. -/
def RunmillRetentionClass.listed : RunmillRetentionClass → ControlRetentionClass
  | .portable => .portable
  | .protectedClass => .protectedClass
  | .restricted => .restricted

theorem retentionDatabaseValue_eq_iff {listed : ControlRetentionClass}
    {signed : RunmillRetentionClass} :
    controlRetentionDatabaseValue listed = retentionDatabaseValue signed
      ↔ listed = signed.listed := by
  cases listed <;> cases signed <;> decide

/-- How the view lists a signed artifact, with serde's name of its kind. -/
def RunmillEvidenceArtifact.reference :
    RunmillArtifactReference where
  artifactId := signed.artifactId
  kind := signed.kind.text
  digest := signed.digest
  sizeBytes := signed.sizeBytes
  mediaType := signed.mediaType
  retentionClass := signed.retentionClass.listed
  locationRef := signed.locationRef

/-- What the comparison reads of an artifact: not its kind. -/
def RunmillArtifactReference.compared (artifact : RunmillArtifactReference) :
    String × String × ℕ × String × String × ControlRetentionClass :=
  (artifact.artifactId, artifact.digest, artifact.sizeBytes, artifact.mediaType,
    artifact.locationRef, artifact.retentionClass)

theorem matched_iff {signed : RunmillEvidenceArtifact} {listed : RunmillArtifactReference} :
    matched signed listed ↔ listed.compared = signed.reference.compared := by
  simp only [matched, Bool.and_eq_true, beq_iff_eq, retentionDatabaseValue_eq_iff,
    RunmillArtifactReference.compared, Prod.mk.injEq, and_assoc]
  rfl

/-- The entries among `artifacts` that the comparison does not tell from `fields`. -/
def alike (fields : String × String × ℕ × String × String × ControlRetentionClass)
    (artifacts : List RunmillArtifactReference) : List RunmillArtifactReference :=
  artifacts.filter fun artifact => artifact.compared = fields

open RunmillEvidenceArtifact (reference)

theorem Agrees.perm_iff (h : Agrees view manifest) :
    view.artifacts.Perm (manifest.map reference)
      ↔ (∀ listed ∈ view.artifacts, ∃ signed ∈ manifest, signed.reference = listed)
        ∧ ∀ fields, 2 ≤ (alike fields (manifest.map reference)).length →
          (alike fields view.artifacts).Perm (alike fields (manifest.map reference)) := by
  have hlength : view.artifacts.length
      = (manifest.map reference).length := by
    rw [List.length_map, h.length]
  have hfind : ∀ signed ∈ manifest.map reference,
      ∃ listed ∈ view.artifacts, listed.compared = signed.compared := by
    rw [List.forall_mem_map]
    intro signed hsigned
    obtain ⟨listed, hlisted, hmatched⟩ := List.any_eq_true.mp (h.listed signed hsigned)
    exact ⟨listed, hlisted, matched_iff.mp hmatched⟩
  rw [perm_iff_of_find RunmillArtifactReference.compared hlength hfind]
  simp [alike]

/-- The list of a view from which a record was made has the signed artifacts, each as
    often as the manifest, exactly if every listed artifact is a signed one, kind
    included, and wherever the manifest has several artifacts that agree in the fields
    that are compared, the view lists those. -/
theorem manifest_restated_iff (p : Primitives) (toVec : Json → Except String (List UInt8))
    (report : Json → String) (fence : RunmillTerminalEvidenceFence) (view : RunmillEvidenceView)
    (record : EvidenceRecord) (h : fromEvidenceView p toVec report fence view = .ok record) :
    ∃ document bundle, view.signedBundle = some document
      ∧ fromJson p report document = .ok bundle
      ∧ (view.artifacts.Perm
          (bundle.statement.predicate.artifacts.map reference)
        ↔ (∀ listed ∈ view.artifacts,
            ∃ signed ∈ bundle.statement.predicate.artifacts, signed.reference = listed)
          ∧ ∀ fields,
            2 ≤ (alike fields (bundle.statement.predicate.artifacts.map reference)).length →
            (alike fields view.artifacts).Perm
              (alike fields (bundle.statement.predicate.artifacts.map reference))) := by
  obtain ⟨document, envelope, bundle, canonical, producedAt, hingests, rfl⟩ :=
    fromEvidenceView_eq_ok_iff.mp h
  exact ⟨document, bundle, hingests.signedBundle, hingests.decoded, hingests.manifest.perm_iff⟩

/-! ## A record -/

namespace Sample

/-- A predicate with little more than what every statement has. -/
def shortPredicate : RunmillEvidencePredicate :=
  { predicate with
    workOrder := { predicate.workOrder with payloadDigest := digestOf 12 }
    runtime := { predicate.runtime with providers := [] }
    roleOutcomes := []
    verification := ⟨[], []⟩
    reviews := []
    sideEffects := []
    approvals := []
    artifacts :=
      [artifact "order" .workOrderEnvelope envelopeHash.val,
        artifact "policy" .effectivePolicy (List.replicate 32 0),
        artifact "diff" .normalizedDiff (List.replicate 32 1),
        artifact "delivery" .sideEffect (List.replicate 32 6),
        artifact "runtime" .runtimeManifest (List.replicate 32 8)] }

def shortStatement : RunmillEvidenceStatement := { statement with predicate := shortPredicate }

theorem shortStatement_plain : Plain (shortStatement.toValue primitives) :=
  plain_of_codes (by decide +kernel) (by decide +kernel)

theorem printBound_shortStatement :
    Json.printBound (shortStatement.toValue primitives) ≤ 100000
      ∧ Json.printBound (shortStatement.toValue primitives).ordered.normalize ≤ 100000 := by
  decide +kernel

theorem shortPredicate_valid : shortPredicate.Valid primitives := by
  refine { predicate_valid with
    digests := ?_, providers := ?_, roleOutcomes := ?_, localChecks := ?_, ciContexts := ?_,
    reviews := ?_, sideEffects := ?_, approvals := ?_, artifacts := ⟨by decide, ?_⟩ }
  case refine_9 =>
    simp only [shortPredicate, List.forall_mem_singleton, List.forall_mem_cons]
    and_intros <;> exact artifact_valid (by decide) rfl
  case refine_1 =>
    simp [RunmillEvidencePredicate.digests, shortPredicate, predicate, isSha256Digest_digestOf,
      isSha256Digest_envelope]
  all_goals exact ⟨by decide, by simp [shortPredicate]⟩

theorem shortPredicate_manifest : SoundManifest shortPredicate where
  ids := by decide
  digests := by decide +kernel
  locations := by
    simp only [shortPredicate, List.forall_mem_singleton, List.forall_mem_cons]
    and_intros <;> exact ⟨_, rfl, rfl⟩
  references := by
    simp [shortPredicate, predicate, RunmillEvidencePredicate.references, artifact, digestOf]
  cancellation := fun _ h => nomatch h

variable {bundle : SignedRunmillEvidenceBundle}

/-- The bundle is read back: its statement is evaluated, the rest is copied. -/
theorem fromJson_toValue (report : Json → String)
    (hstatement : bundle.statement = shortStatement) (h : bundle.Valid primitives) :
    fromJson primitives report (bundle.toValue primitives) = .ok bundle := by
  have hdecoded : fromValue primitives (bundle.toValue primitives)
      = some bundle := by
    obtain ⟨schema, keyId, ⟨⟩, issuedAt, bundleDigest, statement, signature⟩ := bundle
    subst hstatement
    have hread : RunmillEvidenceStatement.fromValue primitives (shortStatement.toValue primitives)
        = some shortStatement := rfl
    have halgorithm : RunmillEvidenceAlgorithm.fromValue (.str RunmillEvidenceAlgorithm.edDSA.text)
        = some .edDSA := rfl
    simp [fromValue, SignedRunmillEvidenceBundle.toValue, unsignedFields, structFields, readField,
      Json.field, Json.asStr, readTimestamp, halgorithm, hread]
  rw [fromJson, hdecoded]
  show (bundle.validateShape primitives >>= fun _ => .ok bundle) = .ok bundle
  rw [validateShape_eq_ok_iff.mpr h]
  rfl

/-- `serde_json::to_vec` for numbers that are printed without an exponent. -/
def toVec (value : Json) : Except String (List UInt8) := .ok (bytes (String.ofList value.print))

def fence : RunmillTerminalEvidenceFence := ⟨"run", .ofNat 1, .ofNat 4⟩

/-- A view of a bundle that lists the given artifacts. -/
def viewOf (bundle : SignedRunmillEvidenceBundle) (artifacts : List RunmillArtifactReference) :
    RunmillEvidenceView where
  candidateSha := some (commitOf 1)
  bundleDigest := some bundle.bundleDigest
  artifacts := artifacts
  signedBundle := some (bundle.toValue primitives)

theorem exists_shortBundle :
    ∃ bundle, sign primitives shortStatement (time 1) signer
        = .ok bundle
      ∧ Integrity primitives bundle trusted ⟨1000000000⟩ := by
  have hstatement : shortStatement.Valid primitives :=
    ⟨rfl, rfl, ⟨_, rfl, by decide +kernel, isCommit_commitOf 1⟩, shortPredicate_valid⟩
  obtain ⟨bundle, hbundle⟩ := exists_sign_eq_ok (fun value => ⟨_, jcs_eq_ok value⟩)
    (by decide +kernel : validIdentifier signer.keyId true)
    (not_isCredentialShaped_of_codes (by decide +kernel)) reads_time.2.1
    (not_isCredentialShaped_of_codes (by decide +kernel)) hstatement shortStatement_plain
  exact ⟨bundle, hbundle, .of_sign hbundle holds rfl (by decide)
    ⟨_, toUtc_time.2.1, by decide, by decide, by decide⟩
    (signature_not_credentialShaped hbundle) shortPredicate_manifest⟩

/-- The envelope adds little to its statement. -/
theorem printBound_toValue_le (hsign : sign primitives shortStatement (time 1) signer = .ok bundle)
    (h : bundle.Valid primitives) : Json.printBound (bundle.toValue primitives) ≤ 110000 := by
  have hdigest : bundle.bundleDigest.utf8ByteSize ≤ 71 := by
    have hvalid := h.bundleDigest
    simp only [isSha256Digest, Bool.and_eq_true, beq_iff_eq, List.length_drop] at hvalid
    rw [Json.utf8ByteSize_eq]
    omega
  have hsignature : bundle.signature.utf8ByteSize ≤ 552 := by
    obtain ⟨signature, hsignature⟩ := h.signature
    have hencoded := Base64.length_encode_le signature.val
    have hbytes := (Json.length_flatMap_utf8EncodeChar bundle.signature.toList).2
    rw [Json.utf8ByteSize_eq, bytes]
    rw [signature.property] at hencoded
    have hlength : bundle.signature.toList.length ≤ 138 := by
      rw [hsignature, String.toList_append, List.length_append]
      have hstart : "base64url:".toList.length = 10 := by decide
      omega
    omega
  obtain ⟨-, -, -, _, -, -, _, -, rfl⟩ := sign_eq_ok_iff.mp hsign
  have hstatement := printBound_shortStatement.1
  have hnames : ["schema", "key_id", "algorithm", "issued_at", "bundle_digest", "statement",
      "signature", runmillSignedEvidenceSchemaV1, signer.keyId, RunmillEvidenceAlgorithm.edDSA.text,
      (time 1).text].map String.utf8ByteSize = [6, 6, 9, 9, 13, 9, 9, 22, 10, 5, 20] := by
    decide +kernel
  simp only [List.map_cons, List.cons.injEq] at hnames
  simp only [SignedRunmillEvidenceBundle.toValue, unsignedFields,
    unsignedBundle, List.cons_append, List.nil_append, Json.printBound, Json.fieldsBound] at *
  omega

theorem fitsDocument_canonical :
    FitsDocument (canonical (shortStatement.toValue primitives)).length := by
  rw [canonical]
  obtain ⟨htwo, hfour⟩ :=
    Json.length_bytes_canonicalText (rfl : shortStatement.toValue primitives = .obj _)
  have hbound := printBound_shortStatement.2
  exact ⟨htwo, by omega⟩

/-- A view of a signed and verified bundle becomes a record if its list passes the
    comparison. -/
theorem exists_ingested (report : Json → String) {listed : List RunmillArtifactReference}
    (hlength : listed.length = shortPredicate.artifacts.length)
    (hlisted : ∀ signed ∈ shortPredicate.artifacts, listed.any (matched signed)) :
    ∃ bundle record, bundle.statement = shortStatement
      ∧ Integrity primitives bundle trusted ⟨1000000000⟩
      ∧ fromJson primitives report (bundle.toValue primitives) = .ok bundle
      ∧ fromEvidenceView primitives toVec report fence (viewOf bundle listed) = .ok record := by
  obtain ⟨bundle, hsign, hintegrity⟩ := exists_shortBundle
  obtain ⟨hissued, hstatement⟩ := sign_fields hsign
  have hdecoded := fromJson_toValue report hstatement hintegrity.shape
  obtain ⟨statementBytes, hcanonical, hdigest⟩ := documentDigest_eq_ok_iff.mp hintegrity.digest
  have henvelope : FitsDocument
      (bytes (String.ofList (bundle.toValue primitives).print)).length := by
    have hle := printBound_toValue_le hsign hintegrity.shape
    obtain ⟨htwo, hfour⟩ := Json.length_bytes_print
      (bundle.unsignedFields primitives ++ [("signature", .str bundle.signature)])
    refine ⟨htwo, hfour.trans ?_⟩
    show 4 * Json.printBound (bundle.toValue primitives) ≤ _
    omega
  have hstatementSize : FitsDocument statementBytes.length := by
    rw [canonicalJson_eq_ok_iff, hstatement, jcs_eq_ok] at hcanonical
    rw [← Except.ok.inj hcanonical]
    exact fitsDocument_canonical
  refine ⟨bundle, _, hstatement, hintegrity, hdecoded, fromEvidenceView_eq_ok_iff.mpr
    ⟨bundle.toValue primitives, bytes (String.ofList (bundle.toValue primitives).print), bundle,
      statementBytes, ⟨1000000000⟩, ?_, rfl⟩⟩
  refine ⟨rfl, rfl, henvelope, hdecoded, rfl, hintegrity.shape.bundleDigest, hcanonical,
    hstatementSize, hdigest, ?_, ?_, ?_⟩
  · rw [hstatement]
    exact ⟨rfl, rfl, rfl, rfl, isSha256Digest_digestOf 12⟩
  · rw [hstatement]
    exact ⟨hlength, hlisted⟩
  · rw [hissued]
    exact toUtc_time.2.1

/-- The list of a view that states the manifest. -/
def listing : List RunmillArtifactReference :=
  shortPredicate.artifacts.map reference

/-- The same list, where the signed order is called a review. -/
def relabelled : List RunmillArtifactReference :=
  { (artifact "order" .workOrderEnvelope envelopeHash.val).reference with kind := "review" }
    :: listing.tail

theorem listing_matches (h : signed ∈ shortPredicate.artifacts) : listing.any (matched signed) :=
  List.any_eq_true.mpr ⟨signed.reference, List.mem_map_of_mem h, matched_iff.mpr rfl⟩

end Sample

section

open Sample

/-- A view that lists the manifest of its bundle. -/
theorem manifest_restated_sample :
    ∃ bundle record,
      fromEvidenceView primitives toVec (fun _ => "") fence
          (viewOf bundle listing) = .ok record
        ∧ listing.Perm (bundle.statement.predicate.artifacts.map reference) := by
  obtain ⟨bundle, record, hstatement, -, hdecoded, hrecord⟩ :=
    exists_ingested (fun _ => "") rfl listing_matches
  obtain ⟨document, decoded, hdocument, hfromJson, hiff⟩ := manifest_restated_iff primitives toVec
    (fun _ => "") fence (viewOf bundle listing) record hrecord
  obtain rfl : bundle.toValue primitives = document := Option.some.inj hdocument
  obtain rfl : bundle = decoded := Except.ok.inj (hdecoded.symm.trans hfromJson)
  have hartifacts : bundle.statement.predicate.artifacts = shortPredicate.artifacts := by
    rw [hstatement]
    rfl
  refine ⟨bundle, record, hrecord, hiff.mpr ⟨?_, ?_⟩⟩
  · rw [hartifacts]
    intro listed hlisted
    exact List.mem_map.mp hlisted
  · rw [hartifacts]
    exact fun fields _ => List.Perm.refl _

/-- The kind of an artifact is restated and a record is made all the same, of a bundle
    that is signed and sound. -/
theorem relabelled_artifact_ingested :
    ∃ bundle record, Integrity primitives bundle trusted ⟨1000000000⟩
      ∧ fromJson primitives (fun _ => "") (bundle.toValue primitives) = .ok bundle
      ∧ fromEvidenceView primitives toVec (fun _ => "") fence
          (viewOf bundle relabelled) = .ok record
      ∧ ¬ relabelled.Perm (bundle.statement.predicate.artifacts.map reference) := by
  have hmatches : ∀ signed ∈ shortPredicate.artifacts, relabelled.any (matched signed) := by
    intro signed hsigned
    rw [List.any_eq_true]
    rcases List.mem_cons.mp hsigned with rfl | hrest
    · exact ⟨_, List.mem_cons_self, matched_iff.mpr rfl⟩
    · exact ⟨signed.reference, List.mem_cons_of_mem _ (List.mem_map_of_mem hrest),
        matched_iff.mpr rfl⟩
  obtain ⟨bundle, record, hstatement, hintegrity, hdecoded, hrecord⟩ :=
    exists_ingested (fun _ => "") rfl hmatches
  refine ⟨bundle, record, hintegrity, hdecoded, hrecord, fun hperm => ?_⟩
  rw [hstatement] at hperm
  obtain ⟨signed, hsigned, hreference⟩ := List.mem_map.mp (hperm.subset List.mem_cons_self)
  have horder : ∀ signed ∈ shortPredicate.artifacts,
      ¬ (signed.artifactId = "order" ∧ signed.kind.text = "review") := by
    decide +kernel
  rw [reference, RunmillArtifactReference.mk.injEq] at hreference
  exact horder signed hsigned ⟨hreference.1, hreference.2.1⟩

end

end Asf.Evidence
