import Asf.Contracts.RunmillDecoding
import Asf.Evidence.Bundle

/-!
# Terminal evidence (`src/contracts/asf_terminal_evidence.rs`)

The signed statement about how a run ended, its derived reader and writer, and its
three checks: `from_json`, `verify_wire_integrity_only` and
`verify_expected_bindings`.
-/

namespace Asf.TerminalEvidence

open Contracts Evidence
open Json (asStr asU64)

/-! ## The document -/

section Documents

variable (p : Primitives) (value : Json)

/-- `AsfTerminalEvidenceRun` (lines 17-25). -/
structure AsfTerminalEvidenceRun where
  (runId workOrderId attemptId terminalPhase : String)
  terminalEventSeq : ℕ

/-- `AsfTerminalEvidenceSignatureVerification` (lines 27-33). -/
structure AsfTerminalEvidenceSignatureVerification where
  verified : Bool
  (keyId algorithm : String)

/-- `AsfTerminalEvidenceAdmission` (lines 35-44). -/
structure AsfTerminalEvidenceAdmission where
  (workOrderEnvelopeDigest workOrderPayloadDigest effectivePolicyDigest : String)
  workOrderEnvelope : Json
  signatureVerification : AsfTerminalEvidenceSignatureVerification
  effectivePolicy : Json

/-- `AsfTerminalEvidenceSource` (lines 46-54). -/
structure AsfTerminalEvidenceSource where
  (repository baseSha : String)
  candidateSha : Option String
  (subjectKind subjectSha : String)

/-- `AsfTerminalStopEvidence` (lines 56-66). -/
structure AsfTerminalStopEvidence where
  (code summary interruptedPhase retryDisposition requiredActor requiredAction : String)
  evidenceRefs : List String

/-- `AsfTerminalEvidenceBudget` (lines 68-78). -/
structure AsfTerminalEvidenceBudget where
  wallSecondsLimit : ℕ
  maxCostUsd : F64
  (maxAgentInvocations maxFixIterations observedFixIterations : ℕ)
  evidenceRefs : List String
  providerUsage : Json

/-- `AsfTerminalEvidenceTiming` (lines 80-86). -/
structure AsfTerminalEvidenceTiming where
  (admittedAt terminalEvidenceAt : String)
  elapsedMs : ℕ

/-- `AsfTerminalEvidenceCleanup` (lines 88-98). -/
structure AsfTerminalEvidenceCleanup where
  (intentId intentDigest observationDigest identityLeases repositoryLease workspace : String)
  unresolvedEffects : ℕ

/-- `AsfTerminalEvidenceEvidence` (lines 100-108). -/
structure AsfTerminalEvidenceEvidence where
  precedingEventCount : ℕ
  precedingEventChainDigest : String
  (observations events : List Json)
  deliveryBundleDigest : Option String

/-- `AsfTerminalEvidenceCancellation` (lines 110-121). -/
structure AsfTerminalEvidenceCancellation where
  (requestId eventType requesterSubject reasonDigest mode : String)
  graceSeconds : ℕ
  (requestedAt eventDigest : String)

/-- `AsfTerminalEvidencePredicate` (lines 123-137). -/
structure AsfTerminalEvidencePredicate where
  schema : String
  run : AsfTerminalEvidenceRun
  admission : AsfTerminalEvidenceAdmission
  source : AsfTerminalEvidenceSource
  stop : AsfTerminalStopEvidence
  cancellation : Option AsfTerminalEvidenceCancellation
  budget : AsfTerminalEvidenceBudget
  sideEffects : Json
  timing : AsfTerminalEvidenceTiming
  cleanup : AsfTerminalEvidenceCleanup
  evidence : AsfTerminalEvidenceEvidence

/-- `AsfTerminalEvidenceSubject` (lines 139-144): the digest is any
    JSON object. -/
structure AsfTerminalEvidenceSubject where
  name : String
  digest : List (String × Json)

/-- `AsfTerminalEvidenceStatement` (lines 146-155). -/
structure AsfTerminalEvidenceStatement where
  typeField : String
  subject : List AsfTerminalEvidenceSubject
  predicateType : String
  predicate : AsfTerminalEvidencePredicate

/-- `SignedAsfTerminalEvidenceBundle` (lines 157-167). -/
structure SignedAsfTerminalEvidenceBundle where
  (schema keyId algorithm issuedAt bundleDigest : String)
  statement : AsfTerminalEvidenceStatement
  signature : String

/-! ## How serde writes it -/

def AsfTerminalEvidenceRun.toValue (run : AsfTerminalEvidenceRun) : Json :=
  .obj [("run_id", .str run.runId), ("work_order_id", .str run.workOrderId),
    ("attempt_id", .str run.attemptId), ("terminal_phase", .str run.terminalPhase),
    ("terminal_event_seq", .num run.terminalEventSeq 0)]

def AsfTerminalEvidenceSignatureVerification.toValue
    (verification : AsfTerminalEvidenceSignatureVerification) : Json :=
  .obj [("verified", .bool verification.verified), ("key_id", .str verification.keyId),
    ("algorithm", .str verification.algorithm)]

def AsfTerminalEvidenceAdmission.toValue (admission : AsfTerminalEvidenceAdmission) : Json :=
  .obj [("work_order_envelope_digest", .str admission.workOrderEnvelopeDigest),
    ("work_order_payload_digest", .str admission.workOrderPayloadDigest),
    ("effective_policy_digest", .str admission.effectivePolicyDigest),
    ("work_order_envelope", admission.workOrderEnvelope),
    ("signature_verification", admission.signatureVerification.toValue),
    ("effective_policy", admission.effectivePolicy)]

def AsfTerminalEvidenceSource.toValue (source : AsfTerminalEvidenceSource) : Json :=
  .obj [("repository", .str source.repository), ("base_sha", .str source.baseSha),
    ("candidate_sha", optionalText source.candidateSha),
    ("subject_kind", .str source.subjectKind), ("subject_sha", .str source.subjectSha)]

def AsfTerminalStopEvidence.toValue (stop : AsfTerminalStopEvidence) : Json :=
  .obj [("code", .str stop.code), ("summary", .str stop.summary),
    ("interrupted_phase", .str stop.interruptedPhase),
    ("retry_disposition", .str stop.retryDisposition),
    ("required_actor", .str stop.requiredActor), ("required_action", .str stop.requiredAction),
    ("evidence_refs", RunmillWorkOrderV1.texts stop.evidenceRefs)]

def AsfTerminalEvidenceBudget.toValue (budget : AsfTerminalEvidenceBudget) : Json :=
  .obj [("wall_seconds_limit", .num budget.wallSecondsLimit 0),
    ("max_cost_usd", .num (p.writeF64 budget.maxCostUsd).1 (p.writeF64 budget.maxCostUsd).2),
    ("max_agent_invocations", .num budget.maxAgentInvocations 0),
    ("max_fix_iterations", .num budget.maxFixIterations 0),
    ("observed_fix_iterations", .num budget.observedFixIterations 0),
    ("evidence_refs", RunmillWorkOrderV1.texts budget.evidenceRefs),
    ("provider_usage", budget.providerUsage)]

def AsfTerminalEvidenceTiming.toValue (timing : AsfTerminalEvidenceTiming) : Json :=
  .obj [("admitted_at", .str timing.admittedAt),
    ("terminal_evidence_at", .str timing.terminalEvidenceAt),
    ("elapsed_ms", .num timing.elapsedMs 0)]

def AsfTerminalEvidenceCleanup.toValue (cleanup : AsfTerminalEvidenceCleanup) : Json :=
  .obj [("intent_id", .str cleanup.intentId), ("intent_digest", .str cleanup.intentDigest),
    ("observation_digest", .str cleanup.observationDigest),
    ("identity_leases", .str cleanup.identityLeases),
    ("repository_lease", .str cleanup.repositoryLease), ("workspace", .str cleanup.workspace),
    ("unresolved_effects", .num cleanup.unresolvedEffects 0)]

def AsfTerminalEvidenceEvidence.toValue (evidence : AsfTerminalEvidenceEvidence) : Json :=
  .obj [("preceding_event_count", .num evidence.precedingEventCount 0),
    ("preceding_event_chain_digest", .str evidence.precedingEventChainDigest),
    ("observations", .arr evidence.observations), ("events", .arr evidence.events),
    ("delivery_bundle_digest", optionalText evidence.deliveryBundleDigest)]

def AsfTerminalEvidenceCancellation.toValue (cancellation : AsfTerminalEvidenceCancellation) :
    Json :=
  .obj [("request_id", .str cancellation.requestId), ("event_type", .str cancellation.eventType),
    ("requester_subject", .str cancellation.requesterSubject),
    ("reason_digest", .str cancellation.reasonDigest), ("mode", .str cancellation.mode),
    ("grace_seconds", .num cancellation.graceSeconds 0),
    ("requested_at", .str cancellation.requestedAt),
    ("event_digest", .str cancellation.eventDigest)]

def AsfTerminalEvidencePredicate.toValue (predicate : AsfTerminalEvidencePredicate) : Json :=
  .obj [("schema", .str predicate.schema), ("run", predicate.run.toValue),
    ("admission", predicate.admission.toValue), ("source", predicate.source.toValue),
    ("stop", predicate.stop.toValue),
    ("cancellation", predicate.cancellation.elim .null AsfTerminalEvidenceCancellation.toValue),
    ("budget", predicate.budget.toValue p), ("side_effects", predicate.sideEffects),
    ("timing", predicate.timing.toValue), ("cleanup", predicate.cleanup.toValue),
    ("evidence", predicate.evidence.toValue)]

def AsfTerminalEvidenceSubject.toValue (subject : AsfTerminalEvidenceSubject) : Json :=
  .obj [("name", .str subject.name), ("digest", .obj subject.digest)]

def AsfTerminalEvidenceStatement.toValue (statement : AsfTerminalEvidenceStatement) : Json :=
  .obj [("_type", .str statement.typeField),
    ("subject", .arr (statement.subject.map AsfTerminalEvidenceSubject.toValue)),
    ("predicateType", .str statement.predicateType),
    ("predicate", statement.predicate.toValue p)]

/-- The members that are signed: `UnsignedAsfTerminalEvidenceView`
    (lines 169-178). -/
def SignedAsfTerminalEvidenceBundle.unsignedFields (bundle : SignedAsfTerminalEvidenceBundle) :
    List (String × Json) :=
  [("schema", .str bundle.schema), ("key_id", .str bundle.keyId),
    ("algorithm", .str bundle.algorithm), ("issued_at", .str bundle.issuedAt),
    ("bundle_digest", .str bundle.bundleDigest), ("statement", bundle.statement.toValue p)]

/-! ## Reading it -/

def AsfTerminalEvidenceRun.fromValue : Option AsfTerminalEvidenceRun := do
  let fields ← structFields
    ["run_id", "work_order_id", "attempt_id", "terminal_phase", "terminal_event_seq"] value
  let runId ← readField fields "run_id" asStr
  let workOrderId ← readField fields "work_order_id" asStr
  let attemptId ← readField fields "attempt_id" asStr
  let terminalPhase ← readField fields "terminal_phase" asStr
  let terminalEventSeq ← readField fields "terminal_event_seq" asU64
  return { runId, workOrderId, attemptId, terminalPhase, terminalEventSeq }

def AsfTerminalEvidenceSignatureVerification.fromValue :
    Option AsfTerminalEvidenceSignatureVerification := do
  let fields ← structFields ["verified", "key_id", "algorithm"] value
  let verified ← readField fields "verified" readBool
  let keyId ← readField fields "key_id" asStr
  let algorithm ← readField fields "algorithm" asStr
  return { verified, keyId, algorithm }

def AsfTerminalEvidenceAdmission.fromValue : Option AsfTerminalEvidenceAdmission := do
  let fields ← structFields
    ["work_order_envelope_digest", "work_order_payload_digest", "effective_policy_digest",
      "work_order_envelope", "signature_verification", "effective_policy"] value
  let workOrderEnvelopeDigest ← readField fields "work_order_envelope_digest" asStr
  let workOrderPayloadDigest ← readField fields "work_order_payload_digest" asStr
  let effectivePolicyDigest ← readField fields "effective_policy_digest" asStr
  let workOrderEnvelope ← readField fields "work_order_envelope" some
  let signatureVerification ← readField fields "signature_verification"
    AsfTerminalEvidenceSignatureVerification.fromValue
  let effectivePolicy ← readField fields "effective_policy" some
  return { workOrderEnvelopeDigest, workOrderPayloadDigest, effectivePolicyDigest,
           workOrderEnvelope, signatureVerification, effectivePolicy }

def AsfTerminalEvidenceSource.fromValue : Option AsfTerminalEvidenceSource := do
  let fields ← structFields
    ["repository", "base_sha", "candidate_sha", "subject_kind", "subject_sha"] value
  let repository ← readField fields "repository" asStr
  let baseSha ← readField fields "base_sha" asStr
  let candidateSha ← readOptional fields "candidate_sha"
  let subjectKind ← readField fields "subject_kind" asStr
  let subjectSha ← readField fields "subject_sha" asStr
  return { repository, baseSha, candidateSha, subjectKind, subjectSha }

def AsfTerminalStopEvidence.fromValue : Option AsfTerminalStopEvidence := do
  let fields ← structFields
    ["code", "summary", "interrupted_phase", "retry_disposition", "required_actor",
      "required_action", "evidence_refs"] value
  let code ← readField fields "code" asStr
  let summary ← readField fields "summary" asStr
  let interruptedPhase ← readField fields "interrupted_phase" asStr
  let retryDisposition ← readField fields "retry_disposition" asStr
  let requiredActor ← readField fields "required_actor" asStr
  let requiredAction ← readField fields "required_action" asStr
  let evidenceRefs ← readField fields "evidence_refs" readStrings
  return { code, summary, interruptedPhase, retryDisposition, requiredActor, requiredAction,
           evidenceRefs }

def AsfTerminalEvidenceBudget.fromValue : Option AsfTerminalEvidenceBudget := do
  let fields ← structFields
    ["wall_seconds_limit", "max_cost_usd", "max_agent_invocations", "max_fix_iterations",
      "observed_fix_iterations", "evidence_refs", "provider_usage"] value
  let wallSecondsLimit ← readField fields "wall_seconds_limit" asU64
  let maxCostUsd ← readField fields "max_cost_usd" (readNumber p)
  let maxAgentInvocations ← readField fields "max_agent_invocations" asU64
  let maxFixIterations ← readField fields "max_fix_iterations" asU64
  let observedFixIterations ← readField fields "observed_fix_iterations" asU64
  let evidenceRefs ← readField fields "evidence_refs" readStrings
  let providerUsage ← readField fields "provider_usage" some
  return { wallSecondsLimit, maxCostUsd, maxAgentInvocations, maxFixIterations,
           observedFixIterations, evidenceRefs, providerUsage }

def AsfTerminalEvidenceTiming.fromValue : Option AsfTerminalEvidenceTiming := do
  let fields ← structFields ["admitted_at", "terminal_evidence_at", "elapsed_ms"] value
  let admittedAt ← readField fields "admitted_at" asStr
  let terminalEvidenceAt ← readField fields "terminal_evidence_at" asStr
  let elapsedMs ← readField fields "elapsed_ms" asU64
  return { admittedAt, terminalEvidenceAt, elapsedMs }

def AsfTerminalEvidenceCleanup.fromValue : Option AsfTerminalEvidenceCleanup := do
  let fields ← structFields
    ["intent_id", "intent_digest", "observation_digest", "identity_leases", "repository_lease",
      "workspace", "unresolved_effects"] value
  let intentId ← readField fields "intent_id" asStr
  let intentDigest ← readField fields "intent_digest" asStr
  let observationDigest ← readField fields "observation_digest" asStr
  let identityLeases ← readField fields "identity_leases" asStr
  let repositoryLease ← readField fields "repository_lease" asStr
  let workspace ← readField fields "workspace" asStr
  let unresolvedEffects ← readField fields "unresolved_effects" asU64
  return { intentId, intentDigest, observationDigest, identityLeases, repositoryLease, workspace,
           unresolvedEffects }

def AsfTerminalEvidenceEvidence.fromValue : Option AsfTerminalEvidenceEvidence := do
  let fields ← structFields
    ["preceding_event_count", "preceding_event_chain_digest", "observations", "events",
      "delivery_bundle_digest"] value
  let precedingEventCount ← readField fields "preceding_event_count" asU64
  let precedingEventChainDigest ← readField fields "preceding_event_chain_digest" asStr
  let observations ← readField fields "observations" Json.asArray
  let events ← readField fields "events" Json.asArray
  let deliveryBundleDigest ← readOptional fields "delivery_bundle_digest"
  return { precedingEventCount, precedingEventChainDigest, observations, events,
           deliveryBundleDigest }

def AsfTerminalEvidenceCancellation.fromValue : Option AsfTerminalEvidenceCancellation := do
  let fields ← structFields
    ["request_id", "event_type", "requester_subject", "reason_digest", "mode", "grace_seconds",
      "requested_at", "event_digest"] value
  let requestId ← readField fields "request_id" asStr
  let eventType ← readField fields "event_type" asStr
  let requesterSubject ← readField fields "requester_subject" asStr
  let reasonDigest ← readField fields "reason_digest" asStr
  let mode ← readField fields "mode" asStr
  let graceSeconds ← readField fields "grace_seconds" asU64
  let requestedAt ← readField fields "requested_at" asStr
  let eventDigest ← readField fields "event_digest" asStr
  return { requestId, eventType, requesterSubject, reasonDigest, mode, graceSeconds, requestedAt,
           eventDigest }

def AsfTerminalEvidencePredicate.fromValue : Option AsfTerminalEvidencePredicate := do
  let fields ← structFields
    ["schema", "run", "admission", "source", "stop", "cancellation", "budget", "side_effects",
      "timing", "cleanup", "evidence"] value
  let schema ← readField fields "schema" asStr
  let run ← readField fields "run" AsfTerminalEvidenceRun.fromValue
  let admission ← readField fields "admission" AsfTerminalEvidenceAdmission.fromValue
  let source ← readField fields "source" AsfTerminalEvidenceSource.fromValue
  let stop ← readField fields "stop" AsfTerminalStopEvidence.fromValue
  let cancellation ← readOption fields "cancellation" AsfTerminalEvidenceCancellation.fromValue
  let budget ← readField fields "budget" (AsfTerminalEvidenceBudget.fromValue p)
  let sideEffects ← readField fields "side_effects" some
  let timing ← readField fields "timing" AsfTerminalEvidenceTiming.fromValue
  let cleanup ← readField fields "cleanup" AsfTerminalEvidenceCleanup.fromValue
  let evidence ← readField fields "evidence" AsfTerminalEvidenceEvidence.fromValue
  return { schema, run, admission, source, stop, cancellation, budget, sideEffects, timing, cleanup,
           evidence }

def AsfTerminalEvidenceSubject.fromValue : Option AsfTerminalEvidenceSubject := do
  let fields ← structFields ["name", "digest"] value
  let name ← readField fields "name" asStr
  let digest ← readField fields "digest" Json.asObject
  return { name, digest }

/-- A `Vec<AsfTerminalEvidenceSubject>`. -/
def readSubjects : Option (List AsfTerminalEvidenceSubject) := do
  let items ← value.asArray
  items.mapM AsfTerminalEvidenceSubject.fromValue

def AsfTerminalEvidenceStatement.fromValue : Option AsfTerminalEvidenceStatement := do
  let fields ← structFields ["_type", "subject", "predicateType", "predicate"] value
  let typeField ← readField fields "_type" asStr
  let subject ← readField fields "subject" readSubjects
  let predicateType ← readField fields "predicateType" asStr
  let predicate ← readField fields "predicate" (AsfTerminalEvidencePredicate.fromValue p)
  return { typeField, subject, predicateType, predicate }

def SignedAsfTerminalEvidenceBundle.fromValue : Option SignedAsfTerminalEvidenceBundle := do
  let fields ← structFields
    ["schema", "key_id", "algorithm", "issued_at", "bundle_digest", "statement", "signature"] value
  let schema ← readField fields "schema" asStr
  let keyId ← readField fields "key_id" asStr
  let algorithm ← readField fields "algorithm" asStr
  let issuedAt ← readField fields "issued_at" asStr
  let bundleDigest ← readField fields "bundle_digest" asStr
  let statement ← readField fields "statement" (AsfTerminalEvidenceStatement.fromValue p)
  let signature ← readField fields "signature" asStr
  return { schema, keyId, algorithm, issuedAt, bundleDigest, statement, signature }

end Documents

/-! ## The checks -/

/-- `AsfTerminalEvidenceExpectation` (lines 183-216). -/
structure AsfTerminalEvidenceExpectation where
  (runId workOrderId attemptId terminalPhase : String)
  terminalEventSeq : ℕ
  (workOrderEnvelopeDigest workOrderPayloadDigest effectivePolicyDigest admissionKeyId : String)
  (sourceRepository sourceBaseSha : String)
  sourceCandidateSha : Option String
  cleanupObservationDigest : String
  deliveryBundleDigest : Option String

/-- The schemas and types (lines 11-15). -/
def predicateSchema : String := "asf.terminal-evidence/v1"

def signedSchema : String := "asf.signed-terminal-evidence/v1"

def predicateTypeV1 : String := "https://runmill.dev/attestations/asf-terminal-evidence/v1"

def inTotoStatementV1 : String := "https://in-toto.io/Statement/v1"

/-- `format!("\x7b:?\x7d", value)` of an `Option<String>`. -/
def debugOption : Option String → String
  | none => "None"
  | some text => s!"Some({debugText text})"

/-- `expected '..', got '..'`. -/
def failUnlessEqual (what expected actual : String) : Result Unit :=
  failIf (actual ≠ expected) (.validation s!"{what}: expected '{expected}', got '{actual}'")

/-- `elapsed_ms` of two instants (lines 375-376): what is left of a
    millisecond is dropped. -/
def elapsedMillis (admitted terminal : DateTime) : ℤ :=
  (terminal.nanos - admitted.nanos).tdiv 1000000

namespace AsfTerminalEvidencePredicate

variable (predicate : AsfTerminalEvidencePredicate)

/-- `expected_subject_kind` (lines 290-294). -/
def expectedSubjectKind : String :=
  if predicate.source.candidateSha = none then "base" else "candidate"

/-- `expected_subject_sha` (lines 295-299). -/
def expectedSubjectSha : String :=
  predicate.source.candidateSha.getD predicate.source.baseSha

/-- The checks of `from_json` on the predicate, up to the timing
    (lines 280-353). The count is a `u64` and wraps, as it does in a
    release build. -/
def validate : Result Unit := do
  let following := (predicate.evidence.precedingEventCount + 1) % 2 ^ 64
  failIf (following ≠ predicate.run.terminalEventSeq)
    (.validation (s!"event count mismatch: preceding_event_count + 1 ({following}) must equal "
      ++ s!"terminal_event_seq ({predicate.run.terminalEventSeq})"))
  failUnlessEqual "subject kind mismatch" predicate.expectedSubjectKind predicate.source.subjectKind
  failUnlessEqual "subject sha mismatch" predicate.expectedSubjectSha predicate.source.subjectSha
  failIf (predicate.run.terminalPhase = "CANCELLED" ∧ predicate.cancellation.isNone)
    (.validation "cancellation evidence is required for CANCELLED phase")
  failIf (predicate.run.terminalPhase = "COMPLETED"
      ∧ predicate.evidence.deliveryBundleDigest = none)
    (.validation "delivery_bundle_digest is required for COMPLETED phase")
  failIf (predicate.cleanup.identityLeases ≠ "released")
    (.validation "cleanup identity_leases must be 'released'")
  failIf (predicate.cleanup.repositoryLease ≠ "released")
    (.validation "cleanup repository_lease must be 'released'")
  failIf (predicate.cleanup.workspace ≠ "removed")
    (.validation "cleanup workspace must be 'removed'")
  failIf (predicate.cleanup.unresolvedEffects ≠ 0)
    (.validation "cleanup unresolved_effects must be 0")

end AsfTerminalEvidencePredicate

/-- The checks of `from_json` on the subjects (lines 257-277). -/
def validateSubjects : List AsfTerminalEvidenceSubject → Result Unit
  | [subject] => do
    failIf (¬ startsWith subject.name "asf-run:")
      (.validation "subject name must start with 'asf-run:'")
    failIf (∀ member ∈ subject.digest, member.1 ≠ "sha1")
      (.validation "subject digest must contain sha1 field")
  | subjects =>
    .error (.validation s!"statement must have exactly one subject, got {subjects.length}")

/-- The checks of `from_json` on the times (lines 355-381). `report`
    is what chrono says of a text it does not read. -/
def validateTiming (p : Primitives) (report : String → String) (issuedAt : String)
    (timing : AsfTerminalEvidenceTiming) : Result Unit := do
  failIf (issuedAt ≠ timing.terminalEvidenceAt)
    (.validation (s!"issued_at must equal timing.terminal_evidence_at: '{issuedAt}' vs "
      ++ s!"'{timing.terminalEvidenceAt}'"))
  let admittedAt ← okOr (.validation s!"invalid admitted_at timestamp: {report timing.admittedAt}")
    (p.parseRfc3339 timing.admittedAt)
  let terminalAt ← okOr
    (.validation s!"invalid terminal_evidence_at timestamp: {report timing.terminalEvidenceAt}")
    (p.parseRfc3339 timing.terminalEvidenceAt)
  let elapsed := elapsedMillis admittedAt terminalAt
  failIf (elapsed < 0 ∨ elapsed ≠ timing.elapsedMs)
    (.validation s!"elapsed_ms mismatch: expected {timing.elapsedMs}, calculated {elapsed}")

namespace SignedAsfTerminalEvidenceBundle

/-- `from_json` after the filter and the derived reader
    (lines 229-384). -/
def validate (p : Primitives) (report : String → String)
    (bundle : SignedAsfTerminalEvidenceBundle) : Result Unit := do
  let _ ← okOr (.validation s!"invalid issued_at RFC3339 timestamp: {report bundle.issuedAt}")
    (p.parseRfc3339 bundle.issuedAt)
  failUnlessEqual "invalid bundle schema" signedSchema bundle.schema
  failUnlessEqual "invalid statement type" inTotoStatementV1 bundle.statement.typeField
  failUnlessEqual "invalid predicate type" predicateTypeV1 bundle.statement.predicateType
  failUnlessEqual "invalid predicate schema" predicateSchema bundle.statement.predicate.schema
  validateSubjects bundle.statement.subject
  bundle.statement.predicate.validate
  validateTiming p report bundle.issuedAt bundle.statement.predicate.timing

/-- `from_json` (lines 222-384). `decodeReport` is what serde says of
    a value it does not read. -/
def fromJson (p : Primitives) (report : String → String) (decodeReport : Json → String)
    (value : Json) : Result SignedAsfTerminalEvidenceBundle := do
  rejectSensitiveFields value
  let bundle ← okOr (.validation s!"failed to parse terminal evidence bundle: {decodeReport value}")
    (fromValue p value)
  bundle.validate p report
  return bundle

/-- `verify_wire_integrity_only` (lines 388-429). -/
def verifyWireIntegrityOnly (p : Primitives) (bundle : SignedAsfTerminalEvidenceBundle)
    (verifyingKeyB64 : String) : Result Unit := do
  let key ← decodeVerifyingKey p verifyingKeyB64
  let statement ← canonicalJson p (bundle.statement.toValue p)
  failIf (sha256Digest p statement ≠ bundle.bundleDigest)
    (.crypto (s!"statement digest mismatch: expected '{bundle.bundleDigest}', calculated "
      ++ s!"'{sha256Digest p statement}'"))
  let unsigned ← canonicalJson p (.obj (bundle.unsignedFields p))
  let signature ← okOr (.crypto "signature must start with 'base64url:'")
    (afterStart "base64url:" bundle.signature)
  verifySignature p key unsigned signature

/-- `verify_expected_bindings` (lines 445-590). -/
def verifyExpectedBindings (bundle : SignedAsfTerminalEvidenceBundle)
    (expectation : AsfTerminalEvidenceExpectation) : Result Unit := do
  let predicate := bundle.statement.predicate
  let verification := predicate.admission.signatureVerification
  failIf (verification.verified = false)
    (.crypto "admission signature_verification.verified must be true")
  failIf (verification.algorithm ≠ "EdDSA")
    (.crypto s!"admission algorithm must be EdDSA, got '{verification.algorithm}'")
  failIf (bundle.algorithm ≠ "EdDSA")
    (.crypto s!"bundle algorithm must be EdDSA, got '{bundle.algorithm}'")
  failIf verification.keyId.isEmpty (.crypto "admission key_id must be non-empty")
  failUnlessEqual "admission key_id mismatch" expectation.admissionKeyId verification.keyId
  failUnlessEqual "run_id mismatch" expectation.runId predicate.run.runId
  failUnlessEqual "work_order_id mismatch" expectation.workOrderId predicate.run.workOrderId
  failUnlessEqual "attempt_id mismatch" expectation.attemptId predicate.run.attemptId
  failUnlessEqual "terminal_phase mismatch" expectation.terminalPhase predicate.run.terminalPhase
  failIf (predicate.run.terminalEventSeq ≠ expectation.terminalEventSeq)
    (.validation (s!"terminal_event_seq mismatch: expected {expectation.terminalEventSeq}, got "
      ++ s!"{predicate.run.terminalEventSeq}"))
  failUnlessEqual "work_order_envelope_digest mismatch" expectation.workOrderEnvelopeDigest
    predicate.admission.workOrderEnvelopeDigest
  failUnlessEqual "work_order_payload_digest mismatch" expectation.workOrderPayloadDigest
    predicate.admission.workOrderPayloadDigest
  failUnlessEqual "effective_policy_digest mismatch" expectation.effectivePolicyDigest
    predicate.admission.effectivePolicyDigest
  failUnlessEqual "source repository mismatch" expectation.sourceRepository
    predicate.source.repository
  failUnlessEqual "source base_sha mismatch" expectation.sourceBaseSha predicate.source.baseSha
  failIf (predicate.source.candidateSha ≠ expectation.sourceCandidateSha)
    (.validation ("source candidate_sha mismatch: expected "
      ++ s!"{debugOption expectation.sourceCandidateSha}, got "
      ++ debugOption predicate.source.candidateSha))
  failUnlessEqual "cleanup observation_digest mismatch" expectation.cleanupObservationDigest
    predicate.cleanup.observationDigest
  failIf (predicate.evidence.deliveryBundleDigest ≠ expectation.deliveryBundleDigest)
    (.validation ("delivery_bundle_digest mismatch: expected "
      ++ s!"{debugOption expectation.deliveryBundleDigest}, got "
      ++ debugOption predicate.evidence.deliveryBundleDigest))

end SignedAsfTerminalEvidenceBundle

end Asf.TerminalEvidence
