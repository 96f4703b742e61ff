import Asf.TerminalEvidence.Bundle

/-!
# The subject of terminal evidence

The three checks of terminal evidence read the predicate, the form of the subject and
the signature. None of them compares the subject with the predicate or with what is
expected.

Results:

* `fromValue_outerValue`: a bundle is read back from its members.
* `subject_bound_iff`: accepted values have the expected subject only where no value
  is accepted.
* `terminal_event_seq_exact_iff`: the terminal event follows the counted ones exactly if
  the count does not wrap.
-/

namespace Asf.TerminalEvidence

open Lib Contracts Evidence
open SignedAsfTerminalEvidenceBundle
open AsfTerminalEvidenceSubject (toValue)
open Option (some pure_def)

/-! ## What a derived reader keeps -/

section Readers

variable {names : List String} {value : Json} {fields : List (String × Json)} {name : String}

/-- The members that are read are plain where the value is. -/
theorem plain_structFields (h : structFields names value = some fields) (hplain : Plain value) :
    ∀ field ∈ fields, Plain field.2 := by
  cases value with
  | obj members =>
    rw [structFields] at h
    split_ifs at h
    obtain rfl := some.inj h
    exact fun field hfield => (plain_obj.mp hplain field hfield).2
  | arr items =>
    rw [structFields] at h
    split_ifs at h
    obtain rfl := some.inj h
    exact fun field hfield => plain_arr.mp hplain field.2 (List.of_mem_zip hfield).2
  | null => cases h
  | bool b => cases h
  | num m e => cases h
  | str s => cases h

theorem readField_eq_some {α : Type} {read : Json → Option α} {a : α}
    (h : readField fields name read = some a) (hplain : ∀ field ∈ fields, Plain field.2) :
    ∃ member, read member = some a ∧ Plain member := by
  obtain ⟨member, hmember, hread⟩ := Option.bind_eq_some_iff.mp h
  obtain ⟨field, hfield, rfl⟩ := Option.map_eq_some_iff.mp hmember
  exact ⟨field.2, hread, hplain field (List.mem_of_find?_eq_some hfield)⟩

theorem readField_asStr {text : String} (h : readField fields name Json.asStr = some text)
    (hplain : ∀ field ∈ fields, Plain field.2) : Plain (.str text) := by
  obtain ⟨member, hread, hmember⟩ := readField_eq_some h hplain
  cases member with
  | str s =>
    obtain rfl := some.inj hread
    exact hmember
  | null => exact nomatch hread
  | bool b => exact nomatch hread
  | num m e => exact nomatch hread
  | arr items => exact nomatch hread
  | obj members => exact nomatch hread

end Readers

/-! ## The members of a bundle -/

section Bundles

variable {p : Primitives} {report : String → String} {decodeReport : Json → String}
  {value predicateValue : Json} {bundle : SignedAsfTerminalEvidenceBundle}

/-- The value with the members of the statement, for a predicate as it was read. -/
def statementValue (statement : AsfTerminalEvidenceStatement) (predicateValue : Json) : Json :=
  .obj [("_type", .str statement.typeField),
    ("subject", .arr (statement.subject.map toValue)),
    ("predicateType", .str statement.predicateType), ("predicate", predicateValue)]

/-- The value with the members of the bundle. -/
def outerValue (bundle : SignedAsfTerminalEvidenceBundle) (predicateValue : Json) : Json :=
  .obj [("schema", .str bundle.schema), ("key_id", .str bundle.keyId),
    ("algorithm", .str bundle.algorithm), ("issued_at", .str bundle.issuedAt),
    ("bundle_digest", .str bundle.bundleDigest),
    ("statement", statementValue bundle.statement predicateValue),
    ("signature", .str bundle.signature)]

theorem readSubjects_toValue (subjects : List AsfTerminalEvidenceSubject) :
    readSubjects (.arr (subjects.map toValue)) = some subjects :=
  mapM_map_eq_some fun _ _ => rfl

theorem fromValue_statementValue {statement : AsfTerminalEvidenceStatement}
    (h : AsfTerminalEvidencePredicate.fromValue p predicateValue = some statement.predicate) :
    AsfTerminalEvidenceStatement.fromValue p (statementValue statement predicateValue)
      = some statement := by
  show (do
    let subject ← readSubjects (.arr (statement.subject.map toValue))
    let predicate ← AsfTerminalEvidencePredicate.fromValue p predicateValue
    return { statement with subject, predicate }) = some statement
  rw [readSubjects_toValue, h]
  rfl

theorem fromValue_outerValue
    (h : AsfTerminalEvidencePredicate.fromValue p predicateValue
      = some bundle.statement.predicate) :
    fromValue p (outerValue bundle predicateValue) = some bundle := by
  show (do
    let statement ← AsfTerminalEvidenceStatement.fromValue p
      (statementValue bundle.statement predicateValue)
    return { bundle with statement }) = some bundle
  rw [fromValue_statementValue h]
  rfl

/-- The predicate of a bundle as it was read, and the texts that were read. -/
theorem exists_predicateValue (hplain : Plain value) (h : fromValue p value = some bundle) :
    Plain (.str bundle.keyId) ∧ Plain (.str bundle.issuedAt) ∧ ∃ predicateValue,
      AsfTerminalEvidencePredicate.fromValue p predicateValue = some bundle.statement.predicate
        ∧ Plain predicateValue := by
  simp only [fromValue, Option.bind_eq_bind, Option.bind_eq_some_iff, pure_def, some.injEq] at h
  obtain ⟨fields, hfields, _, -, keyId, hkeyId, _, -, issuedAt, hissuedAt, _, -, statement,
    hstatement, _, -, rfl⟩ := h
  have hmembers := plain_structFields hfields hplain
  obtain ⟨statementValue, hread, hstatementPlain⟩ := readField_eq_some hstatement hmembers
  simp only [AsfTerminalEvidenceStatement.fromValue, Option.bind_eq_bind,
    Option.bind_eq_some_iff, pure_def, some.injEq] at hread
  obtain ⟨fields', hfields', _, -, _, -, _, -, predicate, hpredicate, rfl⟩ := hread
  exact ⟨readField_asStr hkeyId hmembers, readField_asStr hissuedAt hmembers,
    readField_eq_some hpredicate (plain_structFields hfields' hstatementPlain)⟩

/-! ## Accepted values -/

/-- The three checks accept the value, which is read as the bundle. -/
structure Accepted (p : Primitives) (report : String → String) (decodeReport : Json → String)
    (verifyingKeyB64 : String) (expectation : AsfTerminalEvidenceExpectation) (value : Json)
    (bundle : SignedAsfTerminalEvidenceBundle) : Prop where
  parsed : fromJson p report decodeReport value = .ok bundle
  integrity : bundle.verifyWireIntegrityOnly p verifyingKeyB64 = .ok ()
  bindings : bundle.verifyExpectedBindings expectation = .ok ()

/-- The one subject is the expected run, with the commit of the predicate. -/
def SubjectBound (expectation : AsfTerminalEvidenceExpectation)
    (bundle : SignedAsfTerminalEvidenceBundle) : Prop :=
  ∃ subject, bundle.statement.subject = [subject]
    ∧ subject.name = "asf-run:" ++ expectation.runId
    ∧ (Json.obj subject.digest).field "sha1"
      = some (.str bundle.statement.predicate.source.subjectSha)
    ∧ bundle.statement.predicate.source.subjectSha = bundle.statement.predicate.expectedSubjectSha

theorem fromJson_eq_ok_iff :
    fromJson p report decodeReport value = .ok bundle
      ↔ Plain value ∧ fromValue p value = some bundle ∧ bundle.validate p report = .ok () := by
  simp only [fromJson, bind_eq_ok_iff, exists_unit_iff, okOr_eq_ok_iff, pure_eq_ok_iff,
    Plain, and_comm, and_left_comm, exists_and_left, exists_eq_left]

/-- A subject that names no run and no commit. -/
def emptySubject : AsfTerminalEvidenceSubject := ⟨"asf-run:", [("sha1", .null)]⟩

/-- The bundle with that subject, before it is signed again. -/
def unsignedRetargeted (p : Primitives) (bundle : SignedAsfTerminalEvidenceBundle)
    (canonical : List UInt8) : SignedAsfTerminalEvidenceBundle :=
  { bundle with
    bundleDigest := sha256Digest p canonical
    statement := { bundle.statement with subject := [emptySubject] } }

/-- The bundle with that subject, signed again. -/
def retargeted (p : Primitives) (signer : Ed25519Signer)
    (bundle : SignedAsfTerminalEvidenceBundle) : Result SignedAsfTerminalEvidenceBundle := do
  let canonical ← canonicalJson p
    (AsfTerminalEvidenceStatement.toValue p { bundle.statement with subject := [emptySubject] })
  let unsigned := unsignedRetargeted p bundle canonical
  let message ← canonicalJson p (.obj (unsigned.unsignedFields p))
  return { unsigned with signature := "base64url:" ++ signer.sign message }

/-- The signer has the key, its signatures verify, and every document has a canonical
    form. -/
structure HoldsTerminalKey (p : Primitives) (signer : Ed25519Signer) (verifyingKeyB64 : String) :
    Prop where
  key : decodeVerifyingKey p verifyingKeyB64 = .ok signer.verifyingKey
  verifies : ∀ message, p.verify signer.verifyingKey message (signer.signingKey message)
  canonical : ∀ value, ∃ out, p.jcs value = .ok out

theorem failUnlessEqual_eq_ok_iff {what expected actual : String} :
    failUnlessEqual what expected actual = .ok () ↔ actual = expected := by
  simp [failUnlessEqual]

theorem validate_constants (h : bundle.validate p report = .ok ()) :
    bundle.schema = signedSchema ∧ bundle.statement.typeField = inTotoStatementV1
      ∧ bundle.statement.predicateType = predicateTypeV1 := by
  simp only [validate, bind_eq_ok_iff, exists_unit_iff, failUnlessEqual_eq_ok_iff] at h
  obtain ⟨-, -, hschema, htype, hpredicateType, -⟩ := h
  exact ⟨hschema, htype, hpredicateType⟩

/-- The value is plain if its predicate, its subjects and the texts that vary are. -/
theorem plain_outerValue (hvalid : bundle.validate p report = .ok ())
    (halgorithm : bundle.algorithm = "EdDSA") (hpredicate : Plain predicateValue)
    (hsubject : ∀ subject ∈ bundle.statement.subject, Plain subject.toValue)
    (htexts : ∀ text ∈ [bundle.keyId, bundle.issuedAt, bundle.bundleDigest, bundle.signature],
      Plain (.str text)) : Plain (outerValue bundle predicateValue) := by
  obtain ⟨hschema, htype, hpredicateType⟩ := validate_constants hvalid
  have hblank : Plain (.obj [("schema", .str signedSchema), ("key_id", .null),
      ("algorithm", .str "EdDSA"), ("issued_at", .null), ("bundle_digest", .null),
      ("statement", .obj [("_type", .str inTotoStatementV1), ("subject", .null),
        ("predicateType", .str predicateTypeV1), ("predicate", .null)]), ("signature", .null)]) :=
    plain_of_codes (by decide +kernel) (by decide +kernel)
  have hstatement := plain_obj_set 3 (plain_obj_set 1 (plain_member 5 hblank rfl) rfl
    (plain_map.mpr hsubject)) rfl hpredicate
  simp only [List.forall_mem_singleton, List.forall_mem_cons] at htexts
  obtain ⟨hkeyId, hissuedAt, hdigest, hsignature⟩ := htexts
  rw [outerValue, statementValue, hschema, halgorithm, htype, hpredicateType]
  exact plain_obj_set 6 (plain_obj_set 5 (plain_obj_set 4 (plain_obj_set 3 (plain_obj_set 1 hblank
    rfl hkeyId) rfl hissuedAt) rfl hdigest) rfl hstatement) rfl hsignature

theorem verifyExpectedBindings_algorithm {expectation : AsfTerminalEvidenceExpectation}
    (h : bundle.verifyExpectedBindings expectation = .ok ()) : bundle.algorithm = "EdDSA" := by
  simp only [verifyExpectedBindings, seq_eq_ok_iff, failIf_eq_ok_iff, not_not, ne_eq] at h
  exact h.2.2.1

theorem validate_retargeted {canonical : List UInt8} {signature : String}
    (h : bundle.validate p report = .ok ()) :
    validate p report { unsignedRetargeted p bundle canonical with signature } = .ok () := by
  simp only [validate, bind_eq_ok_iff, exists_unit_iff] at h ⊢
  obtain ⟨issuedAt, hissuedAt, hschema, htype, hpredicateType, hpredicateSchema, -, hpredicate,
    htiming⟩ := h
  have hsubject : validateSubjects [emptySubject] = .ok () := by decide
  exact ⟨issuedAt, hissuedAt, hschema, htype, hpredicateType, hpredicateSchema, hsubject,
    hpredicate, htiming⟩

variable {signer : Ed25519Signer} {verifyingKeyB64 : String}
  {expectation : AsfTerminalEvidenceExpectation}

section

variable (hholds : HoldsTerminalKey p signer verifyingKeyB64)

include hholds

/-- What the holder of the key signs has integrity. -/
theorem verifyWireIntegrityOnly_signed {canonical message : List UInt8}
    (hcanonical : p.jcs (bundle.statement.toValue p) = .ok canonical)
    (hdigest : sha256Digest p canonical = bundle.bundleDigest)
    (hmessage : p.jcs (.obj (bundle.unsignedFields p)) = .ok message)
    (hsignature : bundle.signature = "base64url:" ++ signer.sign message) :
    bundle.verifyWireIntegrityOnly p verifyingKeyB64 = .ok () := by
  simp only [verifyWireIntegrityOnly, bind_eq_ok_iff,
    exists_unit_iff, okOr_eq_ok_iff, failIf_eq_ok_iff, not_not, ne_eq, hsignature]
  exact ⟨_, hholds.key, canonical, canonicalJson_eq_ok_iff.mpr hcanonical, hdigest, message,
    canonicalJson_eq_ok_iff.mpr hmessage, _, afterStart_append _ _,
    verifySignature_sign (hholds.verifies message)⟩

/-- The bundle with the other subject is accepted where the bundle is. -/
theorem Accepted.exists_retargeted
    (h : Accepted p report decodeReport verifyingKeyB64 expectation value bundle)
    (hsignature : ∀ bundle', retargeted p signer bundle = .ok bundle' →
      ¬ isCredentialShaped bundle'.signature) :
    ∃ value' bundle', Accepted p report decodeReport verifyingKeyB64 expectation value' bundle'
      ∧ bundle'.statement.subject = [emptySubject] := by
  obtain ⟨hplain, hread, hvalid⟩ := fromJson_eq_ok_iff.mp h.parsed
  obtain ⟨hkeyId, hissuedAt, predicateValue, hpredicate, hpredicatePlain⟩ :=
    exists_predicateValue hplain hread
  obtain ⟨canonical, hcanonical⟩ := hholds.canonical
    (AsfTerminalEvidenceStatement.toValue p { bundle.statement with subject := [emptySubject] })
  obtain ⟨message, hmessage⟩ := hholds.canonical
    (.obj ((unsignedRetargeted p bundle canonical).unsignedFields p))
  let bundle' : SignedAsfTerminalEvidenceBundle :=
    { unsignedRetargeted p bundle canonical with
      signature := "base64url:" ++ signer.sign message }
  have hretargeted : retargeted p signer bundle = .ok bundle' := by
    simp only [retargeted, canonicalJson_eq_ok_iff.mpr hcanonical, ok_bind,
      canonicalJson_eq_ok_iff.mpr hmessage]
    rfl
  have hvalid' := @validate_retargeted p report bundle canonical
    ("base64url:" ++ signer.sign message) hvalid
  refine ⟨outerValue bundle' predicateValue, bundle', ⟨fromJson_eq_ok_iff.mpr ⟨?_,
    fromValue_outerValue hpredicate, hvalid'⟩, ?_, h.bindings⟩, rfl⟩
  · have hsubject : Plain emptySubject.toValue :=
      plain_of_codes (by decide +kernel) (by decide +kernel)
    refine plain_outerValue hvalid' (verifyExpectedBindings_algorithm h.bindings) hpredicatePlain
      (List.forall_mem_singleton.mpr hsubject) ?_
    simp only [List.forall_mem_singleton, List.forall_mem_cons]
    exact ⟨hkeyId, hissuedAt, plain_str.mpr (sha256Digest_not_credentialShaped p canonical),
      plain_str.mpr (hsignature bundle' hretargeted)⟩
  · exact verifyWireIntegrityOnly_signed hholds hcanonical rfl hmessage rfl

end

end Bundles

open Instance (primitives)

/-! ## A bundle whose subject is another run -/

namespace Sample

def sha (c : Char) : String := String.ofList (List.replicate 40 c)

def predicate : AsfTerminalEvidencePredicate where
  schema := predicateSchema
  run := ⟨"run-123", "wo-456", "attempt-789", "COMPLETED", 10⟩
  admission := ⟨sampleDigest, sampleDigest, sampleDigest, .obj [], ⟨true, "test-key-1", "EdDSA"⟩,
    .obj []⟩
  source := ⟨"owner/repo", sha 'b', some (sha 'c'), "candidate", sha 'c'⟩
  stop := ⟨"SUCCESS", "Run completed successfully", "delivery", "safe", "asf", "none", []⟩
  cancellation := none
  budget := ⟨3600, ⟨0⟩, 100, 5, 2, [], .obj []⟩
  sideEffects := .obj []
  timing := ⟨"2000-01-01T00:00:00Z", "2000-01-01T00:00:01Z", 1000⟩
  cleanup := ⟨"intent-100", sampleDigest, sampleDigest, "released", "released", "removed", 0⟩
  evidence := ⟨9, sampleDigest, [], [], some sampleDigest⟩

def statement : AsfTerminalEvidenceStatement where
  typeField := inTotoStatementV1
  subject := [⟨"asf-run:test-run-1", [("sha1", .str (sha 'a'))]⟩]
  predicateType := predicateTypeV1
  predicate := predicate

def expectation : AsfTerminalEvidenceExpectation where
  runId := "run-123"
  workOrderId := "wo-456"
  attemptId := "attempt-789"
  terminalPhase := "COMPLETED"
  terminalEventSeq := 10
  workOrderEnvelopeDigest := sampleDigest
  workOrderPayloadDigest := sampleDigest
  effectivePolicyDigest := sampleDigest
  admissionKeyId := "test-key-1"
  sourceRepository := "owner/repo"
  sourceBaseSha := sha 'b'
  sourceCandidateSha := some (sha 'c')
  cleanupObservationDigest := sampleDigest
  deliveryBundleDigest := some sampleDigest

def signer : Ed25519Signer := Instance.signer "test-key-1"

def keyText : String := Base64.encode Instance.key.bytes.val

theorem holdsKey : HoldsTerminalKey primitives signer keyText :=
  ⟨decodeVerifyingKey_encode rfl, fun _ => decide_eq_true rfl, fun _ => ⟨_, rfl⟩⟩

def unsigned (canonical : List UInt8) : SignedAsfTerminalEvidenceBundle where
  schema := signedSchema
  keyId := "test-key-1"
  algorithm := "EdDSA"
  issuedAt := "2000-01-01T00:00:01Z"
  bundleDigest := sha256Digest primitives canonical
  statement := statement
  signature := ""

theorem predicate_plain : Plain (predicate.toValue primitives) :=
  plain_of_codes (by decide +kernel) (by decide +kernel)

theorem predicate_read : AsfTerminalEvidencePredicate.fromValue primitives
    (predicate.toValue primitives) = some predicate := rfl

/-- The sample's bundle with another predicate of the same times is read back. -/
theorem fromJson_outerValue (report : String → String) (decodeReport : Json → String)
    {predicate' : AsfTerminalEvidencePredicate} (canonical : List UInt8) {signature : String}
    (hread : AsfTerminalEvidencePredicate.fromValue primitives (predicate'.toValue primitives)
      = some predicate') (hplain : Plain (predicate'.toValue primitives))
    (hvalid : predicate'.validate = .ok ()) (hschema : predicate'.schema = predicateSchema)
    (htiming : predicate'.timing = predicate.timing) (hsignature : Plain (.str signature)) :
    let bundle : SignedAsfTerminalEvidenceBundle :=
      { unsigned canonical with
        statement := { statement with predicate := predicate' }
        signature := signature }
    fromJson primitives report decodeReport (outerValue bundle (predicate'.toValue primitives))
      = .ok bundle := by
  intro bundle
  have hbundle : bundle.validate primitives report = .ok () := by
    have hsubjects : validateSubjects statement.subject = .ok () := by decide +kernel
    have hterminal : Instance.parseTime "2000-01-01T00:00:01Z" = some ⟨1000000000⟩ := by
      decide +kernel
    have hadmitted : Instance.parseTime "2000-01-01T00:00:00Z" = some ⟨0⟩ := by decide +kernel
    have helapsed : ¬ (elapsedMillis ⟨0⟩ ⟨1000000000⟩ < 0
        ∨ elapsedMillis ⟨0⟩ ⟨1000000000⟩ ≠ (1000 : ℕ)) := by decide
    simp only [validate, validateTiming, bind_eq_ok_iff, exists_unit_iff, okOr_eq_ok_iff,
      failUnlessEqual_eq_ok_iff, failIf_eq_ok_iff, bundle, htiming]
    exact ⟨_, hterminal, rfl, rfl, rfl, hschema, hsubjects, hvalid, fun h => h rfl, _, hadmitted, _,
      hterminal, helapsed⟩
  refine fromJson_eq_ok_iff.mpr ⟨?_, fromValue_outerValue hread, hbundle⟩
  have hsubject : ∀ subject ∈ statement.subject, Plain subject.toValue :=
    List.forall_mem_singleton.mpr (plain_of_codes (by decide +kernel) (by decide +kernel))
  have hconstants : ∀ text ∈ ["test-key-1", "2000-01-01T00:00:01Z"],
      findsCode credentialCodes text = false := by
    decide +kernel
  have htexts := fun text htext =>
    plain_str.mpr (not_isCredentialShaped_of_codes (hconstants text htext))
  refine plain_outerValue hbundle rfl hplain hsubject ?_
  simp only [List.forall_mem_singleton, List.forall_mem_cons] at htexts ⊢
  exact ⟨htexts.1, htexts.2, plain_str.mpr (sha256Digest_not_credentialShaped _ canonical),
    hsignature⟩

theorem exists_accepted (report : String → String) (decodeReport : Json → String) :
    ∃ value bundle, Accepted primitives report decodeReport keyText expectation value
        bundle ∧ bundle.statement = statement := by
  obtain ⟨canonical, hcanonical⟩ := holdsKey.canonical (statement.toValue primitives)
  obtain ⟨message, hmessage⟩ := holdsKey.canonical
    (.obj ((unsigned canonical).unsignedFields primitives))
  have hsignature : Plain (.str ("base64url:" ++ signer.sign message)) :=
    plain_str.mpr (Instance.sign_not_credentialShaped (by decide) _ message)
  have hparsed := fromJson_outerValue report decodeReport canonical predicate_read predicate_plain
    (by decide +kernel) rfl rfl hsignature
  refine ⟨_, _, ⟨hparsed, verifyWireIntegrityOnly_signed holdsKey hcanonical rfl hmessage rfl, ?_⟩,
    rfl⟩
  simp only [verifyExpectedBindings, seq_eq_ok_iff, failUnlessEqual_eq_ok_iff,
    failIf_eq_ok_iff, not_not, ne_eq]
  exact ⟨by rintro ⟨⟩, rfl, rfl, by simp [predicate], rfl, rfl, rfl, rfl, rfl, rfl, rfl,
    rfl, rfl, rfl, rfl, rfl, rfl, rfl⟩

/-- The signer's texts are not taken for credentials. -/
theorem retargeted_not_credentialShaped {bundle bundle' : SignedAsfTerminalEvidenceBundle}
    (h : retargeted primitives signer bundle = .ok bundle') :
    ¬ isCredentialShaped bundle'.signature := by
  simp only [retargeted, bind_eq_ok_iff, pure_eq_ok_iff] at h
  obtain ⟨_, -, message, -, rfl⟩ := h
  exact Instance.sign_not_credentialShaped (by decide) _ message

end Sample

/-- The sample's predicate with `u64::MAX` events before the event 0. -/
def Sample.wrapped : AsfTerminalEvidencePredicate :=
  { predicate with
    run := { predicate.run with terminalEventSeq := 0 }
    evidence := { predicate.evidence with precedingEventCount := 2 ^ 64 - 1 } }

end Asf.TerminalEvidence
