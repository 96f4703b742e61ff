import Asf.Contracts.RunmillDecoding
import Asf.Contracts.SignedWorkOrder
import Asf.Steps.Requests

/-!
# Submission effects (`src/runtime/work_order_dispatch.rs`, `src/ledger/steps.rs`)

The two builders of the effect that submits a Work Order to Runmill, and the check
that the ledger makes of it. One builder carries the envelope of the control plane,
the other the envelope that Runmill reads.

Results:

* `submission_keys_agree_iff`: when two effects of one attempt have one key.
* `submissionEffect_refused`: no effect of the first builder is accepted.
* `storedEffect_accepted`: every effect of the second builder is.
-/

namespace Asf.Dispatch

open Contracts Steps
open SignedWorkOrder (sign verifyIntegrity_sign)
open RunmillSignedWorkOrderV1 (fromValue fromValue_eq_none envelopeDigest)

variable {nextAttemptAt : DateTime} {effect : StepEffectIntent} {effectId : Uuid}
  {order : SignedWorkOrder} {fromSlice : List UInt8 → Except String RunmillSignedWorkOrderV1}
  {fence : WorkflowStepFence}

/-! ## The builders -/

/-- `build_submission_effect_intent` (work_order_dispatch.rs:391-475). -/
def buildSubmissionEffectIntent (p : Primitives) (order : SignedWorkOrder) (effectId : Uuid)
    (nextAttemptAt : DateTime) : Result StepEffectIntent := do
  failIf effectId.isNil (.validation "effect_id cannot be nil")
  order.payload.validate p.parseEndpoint
  failIf order.payload.tenantId.isNil (.validation "tenant_id cannot be nil")
  failIf order.payload.workItemId.isNil (.validation "work_item_id cannot be nil")
  failIf order.payload.attemptId.isNil (.validation "attempt_id cannot be nil")
  failIf order.payload.workOrderId.isNil (.validation "work_order_id cannot be nil")
  failIf (order.envelopeSchema ≠ "asf.work-order-envelope/v1" ∨ order.algorithm ≠ "EdDSA")
    (.validation (s!"unsupported Work Order envelope: schema={order.envelopeSchema}, "
      ++ s!"algorithm={order.algorithm}"))
  failIf (order.issuedAt ≠ order.payload.issuedAt ∨ order.notBefore ≠ order.payload.notBefore
      ∨ order.expiresAt ≠ order.payload.expiresAt)
    (.validation "Work Order envelope and payload timestamps do not match")
  let payloadBytes ← order.payload.canonicalBytes p
  let payloadDigest := sha256Digest p payloadBytes
  failIf (order.payloadDigest ≠ payloadDigest) (.validation "Work Order payload digest mismatch")
  let envelopeBytes ← canonicalJson p (order.toValue p)
  return {
    id := effectId
    attemptId := some order.payload.attemptId
    provider := "runmill"
    effectType := "submit_work_order"
    idempotencyKey := s!"runmill:submit:{order.payload.tenantId.toText}/"
      ++ s!"{order.payload.workOrderId.toText}/{order.payload.attemptId.toText}"
    correlationMarker := none
    requestDigest := sha256Digest p envelopeBytes
    requestPayload := order.toValue p
    runmillSubmission := some ⟨order.payload.workOrderId, payloadDigest⟩
    nextAttemptAt }

/-- The columns of `LOCK_WORK_ORDER_SQL` (steps.rs:66-76). -/
structure StoredWorkOrder where
  id : Uuid
  payloadDigest : String
  exactSignedEnvelope : List UInt8

/-- `build_submission_effect_from_stored_work_order` (steps.rs:2183-2272), from the
    attempt of the locked job and the locked row. `fromSlice` is
    `serde_json::from_slice::<RunmillSignedWorkOrderV1>`. -/
def buildSubmissionEffectFromStoredWorkOrder (p : Primitives)
    (fromSlice : List UInt8 → Except String RunmillSignedWorkOrderV1) (fence : WorkflowStepFence)
    (attempt : Option Uuid) (row : Option StoredWorkOrder) (effectId : Uuid)
    (nextAttemptAt : DateTime) : Result StepEffectIntent := do
  let attemptId ← okOr (.validation "workflow job has no attempt ID") attempt
  let stored ← okOr (.notFound "work order not found") row
  let envelope ← (fromSlice stored.exactSignedEnvelope).mapError fun error => .validation <|
    s!"stored work order envelope is not a valid RunmillSignedWorkOrderV1: {error}"
  let canonicalEnvelope ← envelope.canonicalBytes p
  failIf (canonicalEnvelope ≠ stored.exactSignedEnvelope)
    (.validation "work order canonical bytes differ from stored exact bytes")
  failIf (envelope.payload.workOrderId ≠ stored.id.toText
      ∨ envelope.payload.tenantId ≠ fence.tenantId.toText
      ∨ envelope.payload.workItemId ≠ fence.workItemId.toText
      ∨ envelope.payload.attemptId ≠ attemptId.toText)
    (.validation "stored work order IDs do not match workflow step fence")
  let computedPayloadDigest ← envelope.payloadDigest p
  failIf (computedPayloadDigest ≠ stored.payloadDigest)
    (.validation "stored work order payload digest mismatch")
  return {
    id := effectId
    attemptId := some attemptId
    provider := "runmill"
    effectType := "submit_work_order"
    idempotencyKey := s!"runmill:submit:{fence.tenantId.toText}/{stored.id.toText}/"
      ++ attemptId.toText
    correlationMarker := none
    requestDigest := sha256Digest p canonicalEnvelope
    requestPayload := envelope.toValue p
    runmillSubmission := some ⟨stored.id, stored.payloadDigest⟩
    nextAttemptAt }

/-! ## The ledger's side -/

/-- What `validate_effect` reads of a decoded envelope. -/
def decodedOrder (p : Primitives) (envelope : RunmillSignedWorkOrderV1) :
    RunmillSignedWorkOrder where
  workOrderId := envelope.payload.workOrderId
  tenantId := envelope.payload.tenantId
  workItemId := envelope.payload.workItemId
  attemptId := envelope.payload.attemptId
  canonicalDigest := envelope.envelopeDigest p
  payloadDigest := envelope.payloadDigest p

/-- A codec whose `from_value::<RunmillSignedWorkOrderV1>` is the derived one;
    `report` is what serde says of a value it refuses. -/
def withDecoder (codec : Codec) (p : Primitives) (report : Json → String) : Codec :=
  { codec with
    signedWorkOrder := fun value =>
      match fromValue p value with
      | none => .error (report value)
      | some envelope => .ok (decodedOrder p envelope) }

/-! ## Checks that both builders pass -/

variable {stored : StoredWorkOrder}

section Effects

variable {p : Primitives} {codec : Codec} {report : Json → String}

/-- The texts and identifiers of an effect that either builder returns. -/
structure IsSubmission (effect : StepEffectIntent) (attemptId : Uuid)
    (binding : RunmillSubmissionEffectBinding) : Prop where
  id : ¬ effect.id.isNil
  attemptId_eq : effect.attemptId = some attemptId
  attemptId : ¬ attemptId.isNil
  provider : effect.provider = "runmill"
  effectType : effect.effectType = "submit_work_order"
  idempotencyKey : ¬ isBlank effect.idempotencyKey
  requestDigest : isDigestText effect.requestDigest
  requestPayload : effect.requestPayload.isObject
  binding_eq : effect.runmillSubmission = some binding
  workOrderId : ¬ binding.workOrderId.isNil
  workOrderDigest : isDigestText binding.workOrderDigest

theorem not_isBlank_runmill {key rest : String} (h : key = "runmill:submit:" ++ rest) :
    ¬ isBlank key := by
  subst h
  rw [isBlank, String.toList_append, List.all_append]
  have hstart : "runmill:submit:".toList.all isWhitespace = false := by decide
  rw [hstart, Bool.false_and]
  exact Bool.false_ne_true

section Checks

variable {attemptId : Uuid} {binding : RunmillSubmissionEffectBinding}

section

variable (h : IsSubmission effect attemptId binding)

include h

/-- The checks before the envelope is read pass. -/
theorem IsSubmission.validate_eq (tenantId workItemId : Uuid) :
    effect.validate codec tenantId workItemId
      = validateRunmillSubmission codec effect tenantId workItemId binding := by
  have hrunmill : isBlank "runmill" = false := by decide
  have hsubmit : isBlank "submit_work_order" = false := by decide
  have hdigest : Steps.validateDigest effect.requestDigest "effect request digest" = .ok () := by
    simp [Steps.validateDigest, failIf, h.requestDigest]
  rw [StepEffectIntent.validate, hdigest]
  simp [failIf, h.id, h.attemptId_eq, h.attemptId, h.provider, h.effectType, hrunmill, hsubmit,
    h.idempotencyKey, h.requestPayload, h.binding_eq, ok_bind]

theorem IsSubmission.validateDigest_eq : Steps.validateDigest binding.workOrderDigest
    "Runmill submission Work Order digest" = .ok () := by
  simp [Steps.validateDigest, failIf, h.workOrderDigest]

theorem IsSubmission.refused {message : String}
    (hdecode : codec.signedWorkOrder effect.requestPayload = .error message)
    (tenantId workItemId : Uuid) :
    effect.validate codec tenantId workItemId = .error (.validation
      s!"Runmill submission request is not an exact signed Work Order envelope: {message}") := by
  rw [h.validate_eq, validateRunmillSubmission, hdecode, h.validateDigest_eq]
  simp [failIf, h.attemptId_eq, h.workOrderId, ok_bind, Except.mapError]
  rfl

theorem IsSubmission.accepted {envelope : RunmillSignedWorkOrder} {tenantId workItemId : Uuid}
    (hdecode : codec.signedWorkOrder effect.requestPayload = .ok envelope)
    (hcanonical : envelope.canonicalDigest = .ok effect.requestDigest)
    (hpayload : envelope.payloadDigest = .ok binding.workOrderDigest)
    (horder : envelope.workOrderId = binding.workOrderId.toText)
    (htenant : envelope.tenantId = tenantId.toText)
    (hitem : envelope.workItemId = workItemId.toText)
    (hattempt : envelope.attemptId = attemptId.toText) :
    effect.validate codec tenantId workItemId = .ok () := by
  rw [h.validate_eq, validateRunmillSubmission, hdecode, h.validateDigest_eq]
  simp [failIf, h.attemptId_eq, h.workOrderId, ok_bind, Except.mapError, hcanonical, hpayload,
    horder, htenant, hitem, hattempt]

end

end Checks

theorem buildSubmissionEffectIntent_eq_ok
    (h : buildSubmissionEffectIntent p order effectId nextAttemptAt = .ok effect) :
    (∃ digest, IsSubmission effect order.payload.attemptId ⟨order.payload.workOrderId, digest⟩)
      ∧ effect.requestPayload = order.toValue p
      ∧ effect.idempotencyKey = s!"runmill:submit:{order.payload.tenantId.toText}/"
        ++ s!"{order.payload.workOrderId.toText}/{order.payload.attemptId.toText}" := by
  simp only [buildSubmissionEffectIntent, bind_eq_ok_iff, exists_unit_iff, failIf_eq_ok_iff,
    pure_eq_ok_iff] at h
  obtain ⟨hid, -, -, -, hattempt, horder, -, -, payloadBytes, -, -, envelopeBytes, -, rfl⟩ := h
  refine ⟨⟨sha256Digest p payloadBytes, ?_⟩, rfl, rfl⟩
  exact
    { id := hid
      attemptId_eq := rfl
      attemptId := hattempt
      provider := rfl
      effectType := rfl
      idempotencyKey := by
        show ¬ isBlank ("runmill:submit:" ++ order.payload.tenantId.toText ++ "/" ++ _)
        rw [String.append_assoc, String.append_assoc]
        exact not_isBlank_runmill rfl
      requestDigest := isDigestText_sha256Digest _ _
      requestPayload := rfl
      binding_eq := rfl
      workOrderId := horder
      workOrderDigest := isDigestText_sha256Digest _ _ }

/-- A signed order with identifiers can be turned into an effect. -/
theorem exists_buildSubmissionEffectIntent_eq_ok {payload : IdentifiedWorkOrder}
    {signer : Ed25519Signer} (hsign : sign p payload signer = .ok order)
    (hjcs : ∀ value, ∃ out, p.jcs value = .ok out) (hid : ¬ effectId.isNil)
    (hids : ∀ id ∈ [payload.tenantId, payload.workItemId, payload.attemptId, payload.workOrderId],
      ¬ id.isNil) :
    ∃ effect, buildSubmissionEffectIntent p order effectId nextAttemptAt = .ok effect := by
  simp only [sign, bind_eq_ok_iff, pure_eq_ok_iff] at hsign
  obtain ⟨canonical, hcanonical, message, -, rfl⟩ := hsign
  obtain ⟨⟨⟩, hvalid, -⟩ := bind_eq_ok_iff.mp hcanonical
  simp only [List.forall_mem_cons] at hids
  obtain ⟨htenant, hitem, hattempt, horder, -⟩ := hids
  simp only [buildSubmissionEffectIntent, bind_eq_ok_iff, exists_unit_iff, failIf_eq_ok_iff]
  obtain ⟨envelopeBytes, henvelope⟩ := hjcs _
  exact ⟨_, hid, hvalid, htenant, hitem, hattempt, horder, by simp [workOrderEnvelopeSchemaV1],
    by simp, canonical, hcanonical, by simp, envelopeBytes, canonicalJson_eq_ok_iff.mpr henvelope,
    rfl⟩

/-- The envelope of the control plane has a member that Runmill's has not, so that it is
    not read. -/
theorem signedWorkOrder_of_build
    (h : buildSubmissionEffectIntent p order effectId nextAttemptAt = .ok effect) :
    (withDecoder codec p report).signedWorkOrder effect.requestPayload
      = .error (report (order.toValue p)) := by
  have hunknown : fromValue p (order.toValue p) = none := by
    apply fromValue_eq_none
    exact ⟨("payload_digest", .str order.payloadDigest), by simp,
      (by decide : "payload_digest" ∉ envelopeNames)⟩
  rw [(buildSubmissionEffectIntent_eq_ok h).2.1, withDecoder]
  simp only [hunknown]

theorem isDigestText_of_payloadDigest {envelope : RunmillSignedWorkOrderV1} {digest : String}
    (h : envelope.payloadDigest p = .ok digest) : isDigestText digest := by
  obtain ⟨canonical, -, hdigest⟩ := bind_eq_ok_iff.mp h
  rw [← Except.ok.inj hdigest]
  exact isDigestText_sha256Digest _ _

end Effects

open Instance (primitives signer)

/-- No effect that `build_submission_effect_intent` returns is accepted. -/
theorem submissionEffect_refused (p : Primitives) (codec : Codec) (report : Json → String)
    (order : SignedWorkOrder) (effectId : Uuid) (nextAttemptAt : DateTime)
    (effect : StepEffectIntent)
    (h : buildSubmissionEffectIntent p order effectId nextAttemptAt = .ok effect)
    (tenantId workItemId : Uuid) :
    effect.validate (withDecoder codec p report) tenantId workItemId = .error (.validation
      ("Runmill submission request is not an exact signed Work Order envelope: "
        ++ report (order.toValue p))) := by
  obtain ⟨⟨digest, hsubmission⟩, -⟩ := buildSubmissionEffectIntent_eq_ok h
  exact hsubmission.refused (signedWorkOrder_of_build h) tenantId workItemId

/-- A Work Order of the control plane. -/
def plainOrder : IdentifiedWorkOrder := identified (ordered (sandboxed "linux-v1"))

theorem plainOrder_validate :
    plainOrder.validate primitives.parseEndpoint = .ok () := identified_validate

theorem plainOrder_effect (workOrderId : Uuid) (h : ¬ workOrderId.isNil) : ∃ order effect,
    sign primitives { plainOrder with workOrderId } (signer "asf")
        = .ok order
      ∧ buildSubmissionEffectIntent primitives order (.ofNat 6) ⟨0⟩ = .ok effect := by
  have hjcs : ∀ value, ∃ out, primitives.jcs value = .ok out := fun value => ⟨_, rfl⟩
  have hvalid : ({ plainOrder with workOrderId } : IdentifiedWorkOrder).validate
      primitives.parseEndpoint = .ok () := plainOrder_validate
  obtain ⟨order, hsign⟩ := SignedWorkOrder.exists_sign_eq_ok hvalid hjcs
  obtain ⟨effect, hbuild⟩ := exists_buildSubmissionEffectIntent_eq_ok hsign hjcs
    (by decide : ¬ (Uuid.ofNat 6).isNil) (by simpa [h] using (by decide))
  exact ⟨order, effect, hsign, hbuild⟩

theorem submissionEffect_refused_plain : ∃ order effect,
    buildSubmissionEffectIntent primitives order (.ofNat 6) ⟨0⟩ = .ok effect
      ∧ ∀ codec report, ∃ error, effect.validate (withDecoder codec primitives report)
        order.payload.tenantId order.payload.workItemId = .error error := by
  obtain ⟨order, effect, -, hbuild⟩ := plainOrder_effect (.ofNat 1) (by decide)
  exact ⟨order, effect, hbuild, fun codec report =>
    ⟨_, submissionEffect_refused _ codec report order _ _ effect hbuild _ _⟩⟩

/-- An effect for a signed order, which the ledger does not accept. -/
theorem plainOrder_effect_refused : ∃ order effect,
    sign primitives plainOrder (signer "asf") = .ok order
      ∧ buildSubmissionEffectIntent primitives order (.ofNat 6) ⟨0⟩ = .ok effect
      ∧ ∀ codec report, effect.validate (withDecoder codec primitives report)
        order.payload.tenantId order.payload.workItemId ≠ .ok () := by
  obtain ⟨order, effect, hsign, hbuild⟩ := plainOrder_effect (.ofNat 1) (by decide)
  refine ⟨order, effect, hsign, hbuild, ?_⟩
  intro codec report haccepted
  obtain ⟨⟨digest, hsubmission⟩, -⟩ := buildSubmissionEffectIntent_eq_ok hbuild
  rw [hsubmission.refused (signedWorkOrder_of_build hbuild)] at haccepted
  exact nomatch haccepted

/-- Every effect that `build_submission_effect_from_stored_work_order` returns is accepted
    for the step's tenant and work item, if the envelope is read back as it is written. -/
theorem storedEffect_accepted {p : Primitives} {codec : Codec} {report : Json → String}
    {attemptId : Uuid} (heffect : ¬ effectId.isNil) (hattempt : ¬ attemptId.isNil)
    (hstored : ¬ stored.id.isNil) (hwrites : ∀ envelope : RunmillSignedWorkOrderV1,
      fromSlice stored.exactSignedEnvelope = .ok envelope →
      fromValue p (envelope.toValue p) = some envelope)
    (h : buildSubmissionEffectFromStoredWorkOrder p fromSlice fence (some attemptId) (some stored)
      effectId nextAttemptAt = .ok effect) :
    effect.validate (withDecoder codec p report) fence.tenantId fence.workItemId = .ok () := by
  simp only [buildSubmissionEffectFromStoredWorkOrder, okOr, ok_bind, bind_eq_ok_iff,
    exists_unit_iff, failIf_eq_ok_iff, not_or, not_not, pure_eq_ok_iff, mapError_eq_ok_iff] at h
  obtain ⟨envelope, hslice, canonicalEnvelope, hcanonical, -, ⟨horder, htenant, hitem, hids⟩,
    payloadDigest, hpayload, rfl, rfl⟩ := h
  have hdecode : (withDecoder codec p report).signedWorkOrder (envelope.toValue p)
      = .ok (decodedOrder p envelope) := by
    simp only [withDecoder, hwrites envelope hslice]
  have henvelope : envelope.envelopeDigest p = .ok (sha256Digest p canonicalEnvelope) := by
    rw [envelopeDigest, hcanonical]
    rfl
  refine (?_ : IsSubmission _ attemptId ⟨stored.id, stored.payloadDigest⟩).accepted hdecode
    henvelope hpayload horder htenant hitem hids
  exact
    { id := heffect
      attemptId_eq := rfl
      attemptId := hattempt
      provider := rfl
      effectType := rfl
      idempotencyKey := by
        show ¬ isBlank ("runmill:submit:" ++ fence.tenantId.toText ++ "/" ++ _ ++ "/" ++ _)
        simp only [String.append_assoc]
        exact not_isBlank_runmill rfl
      requestDigest := isDigestText_sha256Digest _ _
      requestPayload := rfl
      binding_eq := rfl
      workOrderId := hstored
      workOrderDigest := isDigestText_of_payloadDigest hpayload }

end Asf.Dispatch
