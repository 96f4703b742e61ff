import Asf.Contracts.Crypto
import Asf.Contracts.RunmillEvidence

/-!
# Signed Runmill Work Orders (`src/contracts/runmill_work_order.rs`)

The envelope that is signed for Runmill, its check, and its digests.

Results:

* `sign_eq_ok`: what is known of an envelope that was signed.
* `SignedBy.verifyIntegrity`: an envelope that was signed is accepted.
* `order_identity_and_window`: what a key identifies, and when an order is accepted.
-/

namespace Asf.Contracts

open Lib
open RunmillWorkOrderV1 (texts)

variable {payload : RunmillWorkOrderV1} {signer : Ed25519Signer} {p : Primitives}

/-- `RUNMILL_WORK_ORDER_ENVELOPE_SCHEMA_V1` (line 18). -/
def runmillWorkOrderEnvelopeSchemaV1 : String := "asf.work-order-envelope/v1"

/-- `SIGNATURE_PREFIX` (line 20). -/
def signatureStart : String := "base64url:"

/-- `value.strip_prefix(start)`. -/
def afterStart (start value : String) : Option String :=
  if startsWith value start then some (String.ofList (value.toList.drop start.length)) else none

theorem afterStart_append (start rest : String) : afterStart start (start ++ rest) = some rest := by
  have hstart : startsWith (start ++ rest) start := by
    rw [startsWith, List.isPrefixOf_iff_prefix, String.toList_append]
    exact List.prefix_append _ _
  have hdrop : (start ++ rest).toList.drop start.length = rest.toList := by
    rw [String.toList_append, ← String.length_toList, List.drop_left]
  rw [afterStart, if_pos hstart, hdrop, String.ofList_toList]

theorem afterStart_eq_some_iff {start value rest : String} :
    afterStart start value = some rest ↔ value = start ++ rest := by
  constructor
  · intro h
    unfold afterStart at h
    split_ifs at h with hstart
    obtain ⟨suffix, hsuffix⟩ := List.isPrefixOf_iff_prefix.mp hstart
    rw [← hsuffix, ← String.length_toList, List.drop_left] at h
    apply String.toList_inj.mp
    rw [String.toList_append, ← Option.some.inj h, String.toList_ofList, hsuffix]
  · rintro rfl
    exact afterStart_append start rest

/-! ## The members of a payload -/

namespace Payload

variable (writeF64 : F64 → ℤ × ℕ) (order : RunmillWorkOrderV1)

def source : List (String × Json) :=
  [("system", .str order.source.system),
    ("external_id", .str order.source.externalId),
    ("snapshot_digest", .str order.source.snapshotDigest)]

def repository : List (String × Json) :=
  [("forge", .str order.repository.forge),
    ("repository", .str order.repository.repository),
    ("base_ref", .str order.repository.baseRef),
    ("base_sha", .str order.repository.baseSha)]

def objective : List (String × Json) :=
  [("title", .str order.objective.title),
    ("description", .str order.objective.description),
    ("acceptance_criteria", texts order.objective.acceptanceCriteria),
    ("non_goals", texts order.objective.nonGoals)]

def scope : List (String × Json) :=
  [("allowed_paths", texts order.scope.allowedPaths),
    ("forbidden_paths", texts order.scope.forbiddenPaths),
    ("risk_class", .str order.scope.riskClass.text)]

def verification : List (String × Json) :=
  [("required_local_check_ids",
      texts order.verification.requiredLocalCheckIds),
    ("required_remote_checks", texts order.verification.requiredRemoteChecks),
    ("policy_snapshot_digest", .str order.verification.policySnapshotDigest)]

def identities : List (String × Json) :=
  [("implementer", .str order.identities.implementer),
    ("local_reviewer", .str order.identities.localReviewer),
    ("pr_reviewer", .str order.identities.prReviewer)]

def runtime : List (String × Json) :=
  [("sandbox_profile", .str order.runtime.sandboxProfile),
    ("tool_policy", .str order.runtime.toolPolicy),
    ("network_policy", .str order.runtime.networkPolicy)]

def budgets : List (String × Json) :=
  [("wall_seconds", .num order.budgets.wallSeconds 0),
    ("max_cost_usd",
      .num (writeF64 order.budgets.maxCostUsd).1 (writeF64 order.budgets.maxCostUsd).2),
    ("max_agent_invocations", .num order.budgets.maxAgentInvocations 0),
    ("max_fix_iterations", .num order.budgets.maxFixIterations 0)]

def delivery : List (String × Json) :=
  [("closure_target", .str order.delivery.closureTarget.text),
    ("draft_pr", .bool order.delivery.draftPr),
    ("merge_policy_ref", order.delivery.mergePolicyRef.elim .null .str)]

def fields : List (String × Json) :=
  [("schema", .str order.schema),
    ("work_order_id", .str order.workOrderId),
    ("tenant_id", .str order.tenantId),
    ("work_item_id", .str order.workItemId),
    ("attempt_id", .str order.attemptId),
    ("idempotency_key", .str order.idempotencyKey),
    ("source", .obj (source order)),
    ("repository", .obj (repository order)),
    ("objective", .obj (objective order)),
    ("scope", .obj (scope order)),
    ("verification", .obj (verification order)),
    ("identities", .obj (identities order)),
    ("runtime", .obj (runtime order)),
    ("budgets", .obj (budgets writeF64 order)),
    ("delivery", .obj (delivery order)),
    ("policy_digest", .str order.policyDigest),
    ("harness_digest", .str order.harnessDigest)]

theorem toValue_eq : order.toValue writeF64 = .obj (fields writeF64 order) := rfl

end Payload

/-! ## Envelopes -/

/-- `RunmillSignedWorkOrderV1` (lines 292-304). -/
structure RunmillSignedWorkOrderV1 where
  (schema keyId algorithm : String)
  (issuedAt notBefore expiresAt : DateTime)
  payload : RunmillWorkOrderV1
  signature : String
deriving DecidableEq

/-- chrono writes the instant in at most 64 bytes and reads it back. -/
def WritesTime (p : Primitives) (instant : DateTime) : Prop :=
  (bytes (p.timeText instant)).length ≤ 64 ∧ p.parseUtc (p.timeText instant) = some instant

/-- serde_json writes the float such that it is read back. -/
def WritesF64 (p : Primitives) (x : F64) : Prop :=
  p.readF64 (p.writeF64 x).1 (p.writeF64 x).2 = x

/-- `validate_window` (lines 433-444). -/
def validateWindow (issuedAt notBefore expiresAt : DateTime) : Result Unit :=
  failIf (notBefore.nanos < issuedAt.nanos ∨ expiresAt.nanos ≤ notBefore.nanos)
    (.validation "Runmill Work Order requires issued_at <= not_before < expires_at")

namespace RunmillWorkOrderV1

/-- `RunmillWorkOrderV1::canonical_bytes` (lines 282-285). -/
def canonicalBytes (p : Primitives) (order : RunmillWorkOrderV1) : Result (List UInt8) := do
  order.validate p.writeF64
  canonicalJson p (order.toValue p.writeF64)

/-- `RunmillWorkOrderV1::digest` (lines 287-289). -/
def digest (p : Primitives) (order : RunmillWorkOrderV1) : Result String := do
  let canonical ← order.canonicalBytes p
  return sha256Digest p canonical

end RunmillWorkOrderV1

open RunmillWorkOrderV1 (validate_eq_ok_iff)

variable {envelope : RunmillSignedWorkOrderV1}

namespace RunmillSignedWorkOrderV1

section Envelope

variable (p : Primitives) (envelope : RunmillSignedWorkOrderV1) (key : VerifyingKey)

/-- The members of the envelope that are signed. -/
def signedFields : List (String × Json) :=
  [("schema", .str envelope.schema),
    ("key_id", .str envelope.keyId),
    ("algorithm", .str envelope.algorithm),
    ("issued_at", .str (p.timeText envelope.issuedAt)),
    ("not_before", .str (p.timeText envelope.notBefore)),
    ("expires_at", .str (p.timeText envelope.expiresAt)),
    ("payload", envelope.payload.toValue p.writeF64)]

/-- `serde_json::to_value(self)`. -/
def toValue : Json :=
  .obj (envelope.signedFields p ++ [("signature", .str envelope.signature)])

/-- `signing_bytes` (lines 409-430). -/
def signingBytes : Result (List UInt8) :=
  canonicalJson p (.obj (envelope.signedFields p))

/-- The bytes of a signature text (lines 397-401). -/
def isSignatureByte (byte : UInt8) : Bool :=
  isAsciiAlphanumeric byte || byte == 95 || byte == 45

/-- `validate_envelope` (lines 380-407). -/
def validateEnvelope : Result Unit := do
  failIf (envelope.schema ≠ runmillWorkOrderEnvelopeSchemaV1 ∨ envelope.algorithm ≠ "EdDSA"
      ∨ ¬ validIdentifier envelope.keyId false)
    (.validation "Runmill Work Order envelope is unsupported or malformed")
  validateWindow envelope.issuedAt envelope.notBefore envelope.expiresAt
  envelope.payload.validate p.writeF64
  let signature ← okOr (.validation "Runmill Work Order signature must use base64url prefix")
    (afterStart signatureStart envelope.signature)
  failIf (signature.isEmpty ∨ ¬ (bytes signature).all isSignatureByte)
    (.validation "Runmill Work Order signature is not canonical base64url")

/-- `verify_integrity` (lines 351-365). -/
def verifyIntegrity : Result Unit := do
  envelope.validateEnvelope p
  let signature ← okOr (.crypto "Runmill Work Order signature lacks base64url prefix")
    (afterStart signatureStart envelope.signature)
  failIf signature.isEmpty (.crypto "Runmill Work Order signature is empty")
  let message ← envelope.signingBytes p
  verifySignature p key message signature

/-- `verify` (lines 338-349). -/
def verify (now : DateTime) : Result Unit := do
  envelope.verifyIntegrity p key
  failIf (now.nanos < envelope.notBefore.nanos) (.validation "Runmill Work Order is not active yet")
  failIf (envelope.expiresAt.nanos ≤ now.nanos) (.validation "Runmill Work Order has expired")

/-- `canonical_bytes` (lines 367-370). -/
def canonicalBytes : Result (List UInt8) := do
  envelope.validateEnvelope p
  canonicalJson p (envelope.toValue p)

/-- `envelope_digest` (lines 372-374). -/
def envelopeDigest : Result String := do
  let canonical ← envelope.canonicalBytes p
  return sha256Digest p canonical

/-- `payload_digest` (lines 376-378). -/
def payloadDigest : Result String :=
  envelope.payload.digest p

end Envelope

/-- `RunmillSignedWorkOrderV1::sign` (lines 307-336). -/
def sign (p : Primitives) (payload : RunmillWorkOrderV1) (signer : Ed25519Signer)
    (issuedAt notBefore expiresAt : DateTime) : Result RunmillSignedWorkOrderV1 := do
  payload.validate p.writeF64
  validateWindow issuedAt notBefore expiresAt
  failIf (¬ validIdentifier signer.keyId false)
    (.validation "Runmill Work Order signing key ID is invalid")
  let envelope : RunmillSignedWorkOrderV1 :=
    { schema := runmillWorkOrderEnvelopeSchemaV1, keyId := signer.keyId, algorithm := "EdDSA"
      issuedAt, notBefore, expiresAt, payload, signature := "" }
  let message ← envelope.signingBytes p
  return { envelope with signature := signatureStart ++ signer.sign message }

/-- What is known of an envelope that was signed. -/
structure SignedBy (p : Primitives) (signer : Ed25519Signer) (payload : RunmillWorkOrderV1)
    (envelope : RunmillSignedWorkOrderV1) : Prop where
  payload_eq : envelope.payload = payload
  valid : payload.validate p.writeF64 = .ok ()
  schema : envelope.schema = runmillWorkOrderEnvelopeSchemaV1
  algorithm : envelope.algorithm = "EdDSA"
  keyId : validIdentifier envelope.keyId false
  signature : ∃ message, envelope.signingBytes p = .ok message
    ∧ envelope.signature = signatureStart ++ signer.sign message

variable {issuedAt notBefore expiresAt : DateTime}

theorem sign_eq_ok (h : sign p payload signer issuedAt notBefore expiresAt = .ok envelope) :
    SignedBy p signer payload envelope ∧ envelope.issuedAt = issuedAt
      ∧ envelope.notBefore = notBefore ∧ envelope.expiresAt = expiresAt
      ∧ validateWindow issuedAt notBefore expiresAt = .ok () := by
  simp only [sign, bind_eq_ok_iff, failIf_eq_ok_iff, not_not, pure_eq_ok_iff] at h
  obtain ⟨⟨⟩, hvalid, ⟨⟩, hwindow, ⟨⟩, hkey, message, hmessage, rfl⟩ := h
  exact ⟨⟨rfl, hvalid, rfl, rfl, hkey, message, hmessage, rfl⟩, rfl, rfl, rfl, hwindow⟩

theorem exists_sign_eq_ok (hvalid : payload.validate p.writeF64 = .ok ())
    (hwindow : validateWindow issuedAt notBefore expiresAt = .ok ())
    (hkey : validIdentifier signer.keyId false) (hjcs : ∀ value, ∃ out, p.jcs value = .ok out) :
    ∃ envelope, sign p payload signer issuedAt notBefore expiresAt = .ok envelope := by
  obtain ⟨message, hmessage⟩ := hjcs (.obj (signedFields p
    { schema := runmillWorkOrderEnvelopeSchemaV1, keyId := signer.keyId, algorithm := "EdDSA"
      issuedAt, notBefore, expiresAt, payload, signature := "" }))
  simp only [sign, bind_eq_ok_iff, failIf_eq_ok_iff, not_not]
  exact ⟨_, (), hvalid, (), hwindow, (), hkey, message, canonicalJson_eq_ok_iff.mpr hmessage, rfl⟩

/-! ### What is signed is accepted -/

/-- The text of a signature has the bytes that `validate_envelope` asks for. -/
theorem sign_isSignature (signer : Ed25519Signer) (message : List UInt8) :
    (signer.sign message).isEmpty = false ∧ (bytes (signer.sign message)).all isSignatureByte := by
  have hdigit : ∀ n < 64, (String.utf8EncodeChar (Base64.digit n)).all isSignatureByte := by
    decide +kernel
  have hne : (signer.sign message).toList ≠ [] := by
    intro hnil
    have hdecode := Base64.decode_encode (signer.signingKey message).val
    rw [Base64.decode, show (Base64.encode (signer.signingKey message).val).toList = [] from hnil]
      at hdecode
    have hempty : (signer.signingKey message).val = [] := (Option.some.inj hdecode).symm
    have hlength := (signer.signingKey message).property
    rw [hempty] at hlength
    exact absurd hlength (by decide)
  refine ⟨?_, ?_⟩
  · rw [Bool.eq_false_iff, ne_eq, String.isEmpty_iff, ← String.toList_eq_nil_iff]
    exact hne
  · rw [bytes, Ed25519Signer.sign, Base64.encode, String.toList_ofList, List.all_eq_true]
    intro byte hbyte
    obtain ⟨c, hc, hbyte⟩ := List.mem_flatMap.mp hbyte
    obtain ⟨n, hn, rfl⟩ := List.mem_map.mp hc
    exact List.all_eq_true.mp (hdigit n (Base64.sextets_lt _ n hn)) byte hbyte

section

variable (h : SignedBy p signer payload envelope)
  (hwindow : validateWindow envelope.issuedAt envelope.notBefore envelope.expiresAt = .ok ())

include h hwindow

theorem SignedBy.validateEnvelope : envelope.validateEnvelope p = .ok () := by
  obtain ⟨message, -, hsignature⟩ := h.signature
  obtain ⟨hnonempty, hbytes⟩ := sign_isSignature signer message
  simp only [RunmillSignedWorkOrderV1.validateEnvelope, bind_eq_ok_iff, exists_unit_iff,
    failIf_eq_ok_iff, not_or, not_not, okOr_eq_ok_iff, afterStart_eq_some_iff, ne_eq]
  exact ⟨⟨h.schema, h.algorithm, h.keyId⟩, hwindow, h.payload_eq ▸ h.valid, signer.sign message,
    hsignature, Bool.eq_false_iff.mp hnonempty, hbytes⟩

/-- What is signed is accepted under the key of its signer. -/
theorem SignedBy.verifyIntegrity
    (hverifies : ∀ message, p.verify signer.verifyingKey message (signer.signingKey message)) :
    envelope.verifyIntegrity p signer.verifyingKey = .ok () := by
  obtain ⟨message, hmessage, hsignature⟩ := h.signature
  simp only [RunmillSignedWorkOrderV1.verifyIntegrity, bind_eq_ok_iff, exists_unit_iff,
    failIf_eq_ok_iff, okOr_eq_ok_iff, afterStart_eq_some_iff]
  exact ⟨h.validateEnvelope hwindow, signer.sign message, hsignature,
    Bool.eq_false_iff.mp (sign_isSignature signer message).1, message, hmessage,
    verifySignature_sign (hverifies message)⟩

end

/-- Orders with one key have one tenant, work item and attempt, and a signed order is
    accepted under the key of its signer while it is active. -/
theorem order_identity_and_window (p : Primitives) :
    (∀ order other : RunmillWorkOrderV1, order.validate p.writeF64 = .ok () →
      other.validate p.writeF64 = .ok () → order.idempotencyKey = other.idempotencyKey →
      order.tenantId = other.tenantId ∧ order.workItemId = other.workItemId
        ∧ order.attemptId = other.attemptId)
    ∧ ∀ (signer : Ed25519Signer) (payload : RunmillWorkOrderV1)
      (issuedAt notBefore expiresAt now : DateTime) (envelope : RunmillSignedWorkOrderV1),
      (∀ message, p.verify signer.verifyingKey message (signer.signingKey message)) →
      sign p payload signer issuedAt notBefore expiresAt = .ok envelope →
      (envelope.verify p signer.verifyingKey now = .ok ()
        ↔ envelope.notBefore.nanos ≤ now.nanos ∧ now.nanos < envelope.expiresAt.nanos) := by
  refine ⟨?_, ?_⟩
  · intro order other hvalid hother hkey
    have hsplit := (validate_eq_ok_iff.mp hvalid).splitSlash_idempotencyKey
    rw [hkey, (validate_eq_ok_iff.mp hother).splitSlash_idempotencyKey] at hsplit
    simpa [eq_comm] using hsplit
  · intro signer payload issuedAt notBefore expiresAt now envelope hverifies hsign
    obtain ⟨hsigned, rfl, rfl, rfl, hwindow⟩ := sign_eq_ok hsign
    rw [verify, hsigned.verifyIntegrity hwindow hverifies]
    simp [seq_eq_ok_iff]

theorem order_identity_and_window_sample : ∃ envelope,
    sign Instance.primitives (dispatched ["src/**"] ["ci/build"]) (Instance.signer "signer")
        ⟨0⟩ ⟨0⟩ ⟨1000000000⟩ = .ok envelope
      ∧ envelope.verify Instance.primitives Instance.key ⟨0⟩ = .ok () := by
  obtain ⟨envelope, hsign⟩ := exists_sign_eq_ok (p := Instance.primitives)
    (validate_eq_ok_iff.mpr dispatched_valid)
    (by decide : validateWindow ⟨0⟩ ⟨0⟩ ⟨1000000000⟩ = .ok ())
    (by decide +kernel : validIdentifier (Instance.signer "signer").keyId false)
    fun _ => ⟨_, rfl⟩
  obtain ⟨-, -, hnotBefore, hexpires, -⟩ := sign_eq_ok hsign
  refine ⟨envelope, hsign, ((order_identity_and_window Instance.primitives).2 _ _ _ _ _ ⟨0⟩
    envelope (fun _ => decide_eq_true rfl) hsign).mpr ?_⟩
  rw [hnotBefore, hexpires]
  decide

end RunmillSignedWorkOrderV1

end Asf.Contracts
