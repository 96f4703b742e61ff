import Asf.Contracts.Crypto

/-!
# Signed Work Orders of the control plane (`src/contracts/work_order.rs`)

The Work Order with its identifiers as it is serialized, the envelope that is
signed around it, and the check of its origin and contents.

Results:

* `SignedWorkOrder.verifyIntegrity_eq_ok_iff`: the envelopes that are accepted.
* `SignedWorkOrder.verifyIntegrity_sign`: an order that was signed is accepted.
* `SignedWorkOrder.signed_work_orders`: which orders are signed, when they are accepted, and that a
  signature belongs to one envelope.
-/

namespace Asf.Contracts

open Authority

/-! ## The document -/

/-- `SourceSystem` (source.rs:13-17). -/
inductive SourceSystem where
  | linear | api | github
deriving DecidableEq

def SourceSystem.text : SourceSystem → String
  | .linear => "linear"
  | .api => "api"
  | .github => "github"

/-- `WorkOrderV1` (lines 50-76): what its check reads, and its identifiers. -/
structure IdentifiedWorkOrder extends WorkOrderV1 where
  (workOrderId tenantId workItemId attemptId : Uuid)
  sourceSystem : SourceSystem
  repositoryId : Uuid
deriving DecidableEq

/-- A `BTreeSet<String>`. -/
def setValue (items : Finset String) : Json := .arr ((ascending items).map .str)

/-- A `Vec<String>`. -/
def listValue (items : List String) : Json := .arr (items.map .str)

def riskText : RiskClass → String
  | .low => "low"
  | .medium => "medium"
  | .high => "high"
  | .critical => "critical"
  | .unknown => "unknown"

def closureText : ClosureTarget → String
  | .pullRequest => "pr"
  | .merge => "merge"
  | .deploy => "deploy"
  | .observe => "observe"

def deliveryText : DeliveryPermission → String
  | .none => "none"
  | .pullRequest => "pull_request"
  | .mergeQueue => "merge_queue"
  | .directMerge => "direct_merge"

/-- `serde_json::to_value` of an `ExecutionAuthority`. -/
def authorityValue (authority : ExecutionAuthority) : Json :=
  .obj [
    ("paths", .obj [
      ("allowed", setValue authority.paths.allowed),
      ("forbidden", setValue authority.paths.forbidden)]),
    ("tools", .obj [
      ("allowed_tools", setValue authority.tools.allowedTools),
      ("allowed_commands", setValue authority.tools.allowedCommands),
      ("network_destinations", setValue authority.tools.networkDestinations)]),
    ("effects", .obj [
      ("delivery", .str (deliveryText authority.effects.delivery)),
      ("may_comment", .bool authority.effects.mayComment),
      ("may_update_checks", .bool authority.effects.mayUpdateChecks),
      ("deployment_environment", authority.effects.deploymentEnvironment.elim .null .str)]),
    ("budgets", .obj [
      ("max_cost_microunits", .num authority.budgets.maxCostMicrounits 0),
      ("max_input_tokens", .num authority.budgets.maxInputTokens 0),
      ("max_output_tokens", .num authority.budgets.maxOutputTokens 0),
      ("max_implementer_invocations", .num authority.budgets.maxImplementerInvocations 0),
      ("max_reviewer_invocations", .num authority.budgets.maxReviewerInvocations 0),
      ("max_fix_iterations", .num authority.budgets.maxFixIterations 0),
      ("max_wall_time_seconds", .num authority.budgets.maxWallTimeSeconds 0),
      ("max_external_api_calls", .num authority.budgets.maxExternalApiCalls 0)]),
    ("required_approval_types", setValue authority.requiredApprovalTypes),
    ("sandbox_policy_ref", .str authority.sandboxPolicyRef)]

namespace IdentifiedWorkOrder

/-- `serde_json::to_value` of a `WorkOrderV1`. -/
def toValue (p : Primitives) (order : IdentifiedWorkOrder) : Json :=
  .obj [
    ("schema", .str order.schema),
    ("work_order_id", .str order.workOrderId.toText),
    ("tenant_id", .str order.tenantId.toText),
    ("work_item_id", .str order.workItemId.toText),
    ("attempt_id", .str order.attemptId.toText),
    ("idempotency_key", .str order.idempotencyKey),
    ("source_system", .str order.sourceSystem.text),
    ("source_external_id", .str order.sourceExternalId),
    ("source_snapshot_digest", .str order.sourceSnapshotDigest),
    ("source_reference", .str order.sourceReference),
    ("repository", .obj [
      ("repository_id", .str order.repositoryId.toText),
      ("forge", .str order.repository.forge),
      ("owner", .str order.repository.owner),
      ("name", .str order.repository.name),
      ("base_ref", .str order.repository.baseRef),
      ("base_sha", .str order.repository.baseSha)]),
    ("objective", .str order.objective),
    ("acceptance_criteria", listValue order.acceptanceCriteria),
    ("non_goals", listValue order.nonGoals),
    ("checks", .obj [
      ("local_check_ids", setValue order.checks.localCheckIds),
      ("remote_ci_contexts", setValue order.checks.remoteCiContexts)]),
    ("risk", .obj [
      ("class", .str (riskText order.risk.riskClass)),
      ("reasons", listValue order.risk.reasons),
      ("matched_rules", setValue order.risk.matchedRules)]),
    ("identities", .obj [
      ("implementer", .str order.identities.implementer.value),
      ("local_reviewer", .str order.identities.localReviewer.value),
      ("pr_reviewer", .str order.identities.prReviewer.value)]),
    ("authority", authorityValue order.authority),
    ("closure_target", .str (closureText order.closureTarget)),
    ("digests", .obj [
      ("policy", .str order.digests.policy),
      ("repository_policy", .str order.digests.repositoryPolicy),
      ("planner", .str order.digests.planner),
      ("harness", .str order.digests.harness)]),
    ("issued_at", .str (p.timeText order.issuedAt)),
    ("not_before", .str (p.timeText order.notBefore)),
    ("expires_at", .str (p.timeText order.expiresAt))]

/-- `WorkOrderV1::canonical_bytes` (lines 186-189). -/
def canonicalBytes (p : Primitives) (order : IdentifiedWorkOrder) : Result (List UInt8) := do
  order.validate p.parseEndpoint
  canonicalJson p (order.toValue p)

end IdentifiedWorkOrder

/-! ## No two Work Orders are written alike -/

theorem setValue_inj {a b : Finset String} : setValue a = setValue b ↔ a = b := by
  refine ⟨fun h => ?_, congrArg _⟩
  simp only [setValue, Json.arr.injEq] at h
  have hsort := (List.map_injective_iff.mpr fun _ _ => Json.str.inj) h
  ext value
  rw [← mem_ascending, hsort, mem_ascending]

theorem listValue_inj {a b : List String} : listValue a = listValue b ↔ a = b := by
  rw [listValue, listValue, Json.arr.injEq]
  exact (List.map_injective_iff.mpr fun _ _ => Json.str.inj).eq_iff

theorem authorityValue_inj {a b : ExecutionAuthority} :
    authorityValue a = authorityValue b ↔ a = b := by
  refine ⟨fun h => ?_, congrArg _⟩
  have hdelivery : Function.Injective deliveryText := by
    intro a b
    cases a <;> cases b <;> simp [deliveryText]
  rcases a with ⟨⟨⟩, ⟨⟩, ⟨_, _, _, environment⟩, ⟨⟩, _, _⟩
  rcases b with ⟨⟨⟩, ⟨⟩, ⟨_, _, _, environment'⟩, ⟨⟩, _, _⟩
  cases environment <;> cases environment' <;>
    simp_all [authorityValue, setValue_inj, hdelivery.eq_iff, Int.natCast_inj]

/-- Every field of a Work Order is written. -/
theorem IdentifiedWorkOrder.toValue_inj {p : Primitives} {a b : IdentifiedWorkOrder}
    (hissued : a.issuedAt = b.issuedAt) (hnotBefore : a.notBefore = b.notBefore)
    (hexpires : a.expiresAt = b.expiresAt) (h : a.toValue p = b.toValue p) : a = b := by
  have hrisk : Function.Injective riskText := by
    intro a b
    cases a <;> cases b <;> simp [riskText]
  have hclosure : Function.Injective closureText := by
    intro a b
    cases a <;> cases b <;> simp [closureText]
  have hsource : Function.Injective SourceSystem.text := by
    intro a b
    cases a <;> cases b <;> simp [SourceSystem.text]
  rcases a with ⟨⟨_, _, _, _, _, ⟨⟩, _, _, _, ⟨⟩, ⟨⟩, ⟨⟨⟩, ⟨⟩, ⟨⟩⟩, _, _, ⟨⟩, _, _, _⟩⟩
  rcases b with ⟨⟨_, _, _, _, _, ⟨⟩, _, _, _, ⟨⟩, ⟨⟩, ⟨⟨⟩, ⟨⟩, ⟨⟩⟩, _, _, ⟨⟩, _, _, _⟩⟩
  simp_all [toValue, setValue_inj, listValue_inj, authorityValue_inj, hrisk.eq_iff, hclosure.eq_iff,
    hsource.eq_iff, Uuid.toText_injective.eq_iff]

/-! ## The envelope -/

/-- `WORK_ORDER_ENVELOPE_SCHEMA_V1`, also the domain of its signatures
    (lines 20-21). -/
def workOrderEnvelopeSchemaV1 : String := "asf.work-order-envelope/v1"

/-- `SignedWorkOrder` (lines 203-216). -/
structure SignedWorkOrder where
  (envelopeSchema algorithm keyId : String)
  (issuedAt notBefore expiresAt : DateTime)
  payloadDigest : String
  payload : IdentifiedWorkOrder
  signature : String
deriving DecidableEq

namespace SignedWorkOrder

section Order

variable (p : Primitives) (order : SignedWorkOrder) (key : VerifyingKey)

/-- `serde_json::to_value` of a `SignedWorkOrder`. -/
def toValue : Json :=
  .obj [
    ("schema", .str order.envelopeSchema),
    ("algorithm", .str order.algorithm),
    ("key_id", .str order.keyId),
    ("issued_at", .str (p.timeText order.issuedAt)),
    ("not_before", .str (p.timeText order.notBefore)),
    ("expires_at", .str (p.timeText order.expiresAt)),
    ("payload_digest", .str order.payloadDigest),
    ("payload", order.payload.toValue p),
    ("signature", .str order.signature)]

/-- `protected_canonical_bytes` (lines 277-300). -/
def protectedCanonicalBytes : Result (List UInt8) :=
  canonicalJson p <| .obj [
    ("schema", .str order.envelopeSchema),
    ("key_id", .str order.keyId),
    ("algorithm", .str order.algorithm),
    ("issued_at", .str (p.timeText order.issuedAt)),
    ("not_before", .str (p.timeText order.notBefore)),
    ("expires_at", .str (p.timeText order.expiresAt)),
    ("payload_digest", .str order.payloadDigest),
    ("payload", order.payload.toValue p)]

/-- The `ProtectedEnvelope` that is written there. -/
def protectedEnvelope : Json :=
  .obj [
    ("schema", .str order.envelopeSchema),
    ("key_id", .str order.keyId),
    ("algorithm", .str order.algorithm),
    ("issued_at", .str (p.timeText order.issuedAt)),
    ("not_before", .str (p.timeText order.notBefore)),
    ("expires_at", .str (p.timeText order.expiresAt)),
    ("payload_digest", .str order.payloadDigest),
    ("payload", order.payload.toValue p)]

/-- `SignedWorkOrder::sign` (lines 219-237). -/
def sign (payload : IdentifiedWorkOrder) (signer : Ed25519Signer) : Result SignedWorkOrder := do
  let canonical ← payload.canonicalBytes p
  let envelope : SignedWorkOrder :=
    { envelopeSchema := workOrderEnvelopeSchemaV1, algorithm := "EdDSA", keyId := signer.keyId
      issuedAt := payload.issuedAt, notBefore := payload.notBefore
      expiresAt := payload.expiresAt, payloadDigest := sha256Digest p canonical, payload
      signature := "" }
  let message ← envelope.protectedCanonicalBytes p
  return { envelope with signature := signer.signDomain workOrderEnvelopeSchemaV1 message }

/-- `SignedWorkOrder::verify_integrity` (lines 252-275). -/
def verifyIntegrity : Result Unit := do
  failIf (order.envelopeSchema ≠ workOrderEnvelopeSchemaV1 ∨ order.algorithm ≠ "EdDSA")
    (.crypto "unsupported signed envelope")
  let canonical ← order.payload.canonicalBytes p
  failIf (sha256Digest p canonical ≠ order.payloadDigest)
    (.crypto "Work Order payload digest mismatch")
  failIf (order.issuedAt ≠ order.payload.issuedAt ∨ order.notBefore ≠ order.payload.notBefore
      ∨ order.expiresAt ≠ order.payload.expiresAt)
    (.crypto "Work Order envelope and payload validity windows differ")
  let message ← order.protectedCanonicalBytes p
  verifyDomainSignature p key workOrderEnvelopeSchemaV1 message order.signature

/-- `SignedWorkOrder::verify` (lines 239-248). -/
def verify (now : DateTime) : Result Unit := do
  order.verifyIntegrity p key
  failIf (now.nanos < order.notBefore.nanos) (.validation "Work Order is not active yet")
  failIf (order.expiresAt.nanos ≤ now.nanos) (.validation "Work Order has expired")

/-- What is known of an envelope of accepted origin and contents. -/
@[mk_iff] structure Authentic (order : SignedWorkOrder) : Prop where
  envelopeSchema : order.envelopeSchema = workOrderEnvelopeSchemaV1
  algorithm : order.algorithm = "EdDSA"
  valid : order.payload.validate p.parseEndpoint = .ok ()
  payloadDigest : documentDigest p (order.payload.toValue p) = .ok order.payloadDigest
  issuedAt : order.issuedAt = order.payload.issuedAt
  notBefore : order.notBefore = order.payload.notBefore
  expiresAt : order.expiresAt = order.payload.expiresAt
  signature : ∃ message, order.protectedCanonicalBytes p = .ok message
    ∧ verifyDomainSignature p key workOrderEnvelopeSchemaV1 message order.signature = .ok ()

end Order

variable {p : Primitives} {payload : IdentifiedWorkOrder} {signer : Ed25519Signer}
  {order : SignedWorkOrder} {key : VerifyingKey}

theorem verifyIntegrity_eq_ok_iff :
    order.verifyIntegrity p key = .ok () ↔ Authentic p key order := by
  simp only [verifyIntegrity, IdentifiedWorkOrder.canonicalBytes, bind_eq_ok_iff, exists_unit_iff,
    failIf_eq_ok_iff, not_or, not_not, ne_eq, authentic_iff, documentDigest, map_eq_ok_iff,
    and_assoc, exists_and_left]
  simp only [← and_assoc, exists_and_right]

/-- What is signed is accepted under the key of its signer. -/
theorem verifyIntegrity_sign
    (hverify : ∀ message, p.verify signer.verifyingKey message (signer.signingKey message))
    (h : sign p payload signer = .ok order) :
    order.payload = payload ∧ order.keyId = signer.keyId
      ∧ order.verifyIntegrity p signer.verifyingKey = .ok () := by
  simp only [sign, IdentifiedWorkOrder.canonicalBytes, bind_eq_ok_iff, pure_eq_ok_iff] at h
  obtain ⟨canonical, ⟨⟨⟩, hvalid, hcanonical⟩, message, hmessage, rfl⟩ := h
  refine ⟨rfl, rfl, verifyIntegrity_eq_ok_iff.mpr ?_⟩
  have hdocument : documentDigest p (payload.toValue p) = .ok (sha256Digest p canonical) := by
    rw [documentDigest, hcanonical]
    rfl
  exact ⟨rfl, rfl, hvalid, hdocument, rfl, rfl, rfl, message, hmessage,
    verifySignature_sign (hverify _)⟩

theorem exists_sign_eq_ok (hvalid : payload.validate p.parseEndpoint = .ok ())
    (hjcs : ∀ value, ∃ out, p.jcs value = .ok out) :
    ∃ order, sign p payload signer = .ok order := by
  obtain ⟨canonical, hcanonical⟩ := hjcs (payload.toValue p)
  simp only [sign, IdentifiedWorkOrder.canonicalBytes, bind_eq_ok_iff]
  obtain ⟨message, hmessage⟩ := hjcs _
  exact ⟨_, canonical, ⟨(), hvalid, canonicalJson_eq_ok_iff.mpr hcanonical⟩, message,
    canonicalJson_eq_ok_iff.mpr hmessage, rfl⟩

/-! ## What a signature binds -/

theorem verify_eq_ok_iff {now : DateTime} :
    order.verify p key now = .ok () ↔ order.verifyIntegrity p key = .ok ()
      ∧ order.notBefore.nanos ≤ now.nanos ∧ now.nanos < order.expiresAt.nanos := by
  simp [verify, seq_eq_ok_iff]

/-- What is assumed of serde, JCS and Ed25519 for some envelopes: no two instants are written
    alike, and no signature is accepted for the canonical bytes of two documents. -/
structure WrittenApart (p : Primitives) (orders : Set SignedWorkOrder) : Prop where
  times : ∀ a ∈ orders, ∀ b ∈ orders, ∀ t ∈ [a.issuedAt, a.notBefore, a.expiresAt],
    ∀ u ∈ [b.issuedAt, b.notBefore, b.expiresAt], p.timeText t = p.timeText u → t = u
  documents : ∀ a ∈ orders, ∀ b ∈ orders, ∀ key signature message message',
    p.jcs (a.protectedEnvelope p) = .ok message → p.jcs (b.protectedEnvelope p) = .ok message' →
    p.verify key (domainSeparatedMessage workOrderEnvelopeSchemaV1 message) signature →
    p.verify key (domainSeparatedMessage workOrderEnvelopeSchemaV1 message') signature →
    a.protectedEnvelope p = b.protectedEnvelope p

/-- The signature covers every field of an accepted envelope but itself. -/
theorem WrittenApart.eq_of_signature {orders : Set SignedWorkOrder} (h : WrittenApart p orders)
    {a b : SignedWorkOrder} (ha : a ∈ orders) (hb : b ∈ orders) (hauthentic : Authentic p key a)
    (hauthentic' : Authentic p key b) (hsignature : a.signature = b.signature) : a = b := by
  obtain ⟨message, hmessage, hverify⟩ := hauthentic.signature
  obtain ⟨message', hmessage', hverify'⟩ := hauthentic'.signature
  obtain ⟨signature, hdecode, hvalid⟩ := verifySignature_eq_ok_iff.mp hverify
  obtain ⟨signature', hdecode', hvalid'⟩ := verifySignature_eq_ok_iff.mp hverify'
  rw [hsignature, hdecode', Option.some.injEq, Subtype.val_inj] at hdecode
  subst hdecode
  have hsame := h.documents a ha b hb key _ _ _ (canonicalJson_eq_ok_iff.mp hmessage)
    (canonicalJson_eq_ok_iff.mp hmessage') hvalid hvalid'
  have htimes := h.times a ha b hb
  simp only [protectedEnvelope, Json.obj.injEq, List.cons.injEq, Prod.mk.injEq, Json.str.injEq,
    true_and, and_true, List.forall_mem_cons] at hsame htimes
  obtain ⟨hschema, hkeyId, halgorithm, hissuedText, hnotBeforeText, hexpiresText, hdigest,
    hpayload⟩ := hsame
  have hissued := htimes.1.1 hissuedText
  have hnotBefore := htimes.2.1.2.1 hnotBeforeText
  have hexpires := htimes.2.2.1.2.2.1 hexpiresText
  have hequal := IdentifiedWorkOrder.toValue_inj
    (hauthentic.issuedAt.symm.trans (hissued.trans hauthentic'.issuedAt))
    (hauthentic.notBefore.symm.trans (hnotBefore.trans hauthentic'.notBefore))
    (hauthentic.expiresAt.symm.trans (hexpires.trans hauthentic'.expiresAt)) hpayload
  cases a
  cases b
  rw [mk.injEq]
  exact ⟨hschema, halgorithm, hkeyId, hissued, hnotBefore, hexpires, hdigest, hequal, hsignature⟩

/-- An order is signed exactly if it is valid, and the envelope is accepted in its window
    alone. Two envelopes that are accepted with one signature are the same. -/
theorem signed_work_orders (p : Primitives) (signer : Ed25519Signer)
    (hverify : ∀ message, p.verify signer.verifyingKey message (signer.signingKey message))
    (hjcs : ∀ value, ∃ out, p.jcs value = .ok out) (orders : Set SignedWorkOrder)
    (hapart : WrittenApart p orders) :
    (∀ payload : IdentifiedWorkOrder, (∃ order, sign p payload signer = .ok order)
      ↔ payload.validate p.parseEndpoint = .ok ())
    ∧ (∀ payload order, sign p payload signer = .ok order → ∀ now,
      order.verify p signer.verifyingKey now = .ok ()
        ↔ order.notBefore.nanos ≤ now.nanos ∧ now.nanos < order.expiresAt.nanos)
    ∧ ∀ key, ∀ a ∈ orders, ∀ b ∈ orders, a.verifyIntegrity p key = .ok () →
      b.verifyIntegrity p key = .ok () → a.signature = b.signature → a = b := by
  refine ⟨fun payload => ⟨?_, fun hvalid => exists_sign_eq_ok hvalid hjcs⟩,
    fun payload order hsign now => ?_, fun key a ha b hb hintegrity hintegrity' hsignature => ?_⟩
  · rintro ⟨order, hsign⟩
    obtain ⟨rfl, -, hintegrity⟩ := verifyIntegrity_sign hverify hsign
    exact (verifyIntegrity_eq_ok_iff.mp hintegrity).valid
  · rw [verify_eq_ok_iff]
    exact and_iff_right (verifyIntegrity_sign hverify hsign).2.2
  · exact hapart.eq_of_signature ha hb (verifyIntegrity_eq_ok_iff.mp hintegrity)
      (verifyIntegrity_eq_ok_iff.mp hintegrity') hsignature

end SignedWorkOrder

open Instance

/-- A Work Order with identifiers. -/
def identified (order : WorkOrderV1) : IdentifiedWorkOrder where
  toWorkOrderV1 := { order with expiresAt := ⟨1000000000⟩ }
  workOrderId := .ofNat 1
  tenantId := .ofNat 2
  workItemId := .ofNat 3
  attemptId := .ofNat 4
  sourceSystem := .linear
  repositoryId := .ofNat 5

theorem identified_validate : (identified (ordered (sandboxed "linux-v1"))).validate
    primitives.parseEndpoint = .ok () := by
  decide +kernel

/-- An envelope that is accepted when it starts and no longer when it expires. -/
theorem signed_work_orders_sample : ∃ order,
    SignedWorkOrder.sign primitives (identified (ordered (sandboxed "linux-v1")))
        (signer "asf") = .ok order
      ∧ order.verify primitives key ⟨0⟩ = .ok ()
      ∧ order.verify primitives key ⟨1000000000⟩ ≠ .ok () := by
  have hjcs : ∀ value, ∃ out, primitives.jcs value = .ok out := fun _ => ⟨_, rfl⟩
  have hverify : ∀ message, primitives.verify key message
      ((signer "asf").signingKey message) := fun _ => decide_eq_true rfl
  obtain ⟨order, hsign⟩ := SignedWorkOrder.exists_sign_eq_ok identified_validate hjcs
  obtain ⟨hpayload, -, hintegrity⟩ := SignedWorkOrder.verifyIntegrity_sign hverify hsign
  obtain ⟨-, -, -, -, hissued, hnotBefore, hexpires, -⟩ :=
    SignedWorkOrder.verifyIntegrity_eq_ok_iff.mp hintegrity
  rw [hpayload] at hissued hnotBefore hexpires
  have hapart : SignedWorkOrder.WrittenApart primitives {order} := by
    refine ⟨?_, ?_⟩ <;> rintro _ rfl _ rfl
    · rw [hissued, hnotBefore, hexpires]
      decide
    · exact fun _ _ _ _ _ _ _ _ => rfl
  have hwindow := (SignedWorkOrder.signed_work_orders primitives (signer "asf")
    hverify hjcs {order} hapart).2.1 _ order hsign
  rw [hnotBefore, hexpires] at hwindow
  exact ⟨order, hsign, (hwindow _).mpr (by decide), mt (hwindow _).mp (by decide)⟩

end Asf.Contracts
