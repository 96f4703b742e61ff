import Asf.Adapters.RunmillControl
import Asf.Contracts.RunmillEvidence

/-!
# Signed Work Orders at the control adapter

The adapter checks the JSON of an envelope with its own limits. Where they agree
with the check before signing and where they are tighter.

Results:

* `parse_signed_iff`: the signed orders whose envelope the adapter takes.
-/

namespace Asf.Adapters

open Contracts Lib RunmillSignedWorkOrderV1
open RunmillWorkOrderEnvelope (parse)

/-! ## The texts -/

theorem validRepository_eq (value : String) :
    validRepository value = Contracts.validRepository value := by
  rw [Contracts.validRepository, splitSlash_eq_of_splitOnce, validRepository]
  cases hfirst : splitOnce '/' value with
  | none => rfl
  | some parts =>
    obtain ⟨owner, rest⟩ := parts
    rw [Option.any_some]
    dsimp only
    rw [splitSlash_eq_of_splitOnce]
    cases hsecond : splitOnce '/' rest with
    | none =>
      rw [splitOnce_eq_none_iff.mp hsecond]
      simp only [validRepositoryComponent, Bool.not_false, Bool.and_true]
      ac_rfl
    | some parts =>
      have hslash : hasChar rest '/' = true := by
        rw [← Bool.not_eq_false, ← splitOnce_eq_none_iff, hsecond]
        simp
      have hmore := splitSlash_ne_nil parts.2
      cases hlast : splitSlash parts.2 with
      | nil => exact absurd hlast hmore
      | cons => simp [hslash, hlast]

theorem validBranchRef_eq (value : String) : validBranchRef value = validBaseRef value := by
  rw [validBranchRef, validBaseRef]
  cases branchOf value with
  | none => rfl
  | some branch =>
    simp only [List.all_eq_not_any_not, Bool.not_and, Bool.not_not]
    ac_rfl

theorem validGitSha_eq (value : String) : validGitSha value true = Contracts.validGitSha value := by
  rfl

/-- A control character has a byte that no identifier has. -/
theorem exists_byte_of_isControl {c : Char} (h : isControl c) :
    ∃ byte ∈ String.utf8EncodeChar c, ¬ isIdentifierByte true byte := by
  have hall : ∀ n < 160, isControl (Char.ofNat n) →
      ∃ byte ∈ String.utf8EncodeChar (Char.ofNat n), ¬ isIdentifierByte true byte := by
    decide +kernel
  have hlt : c.toNat < 160 := by
    simp only [isControl, Bool.or_eq_true, Bool.and_eq_true, decide_eq_true_eq] at h
    omega
  have hc := hall c.toNat hlt
  rw [Char.ofNat_toNat] at hc
  exact hc h

variable {value : String} (description : String)

theorem validPublicString_of_identifier {allowColon : Bool} {bound : ℕ}
    (h : validIdentifier value 256 allowColon) (hbound : 256 ≤ bound) :
    validPublicString value bound := by
  simp only [validIdentifier, isToken, Bool.and_eq_true, Bool.not_eq_true', decide_eq_true_eq,
    List.all_eq_true] at h
  obtain ⟨⟨⟨hne, hlength⟩, -⟩, hall⟩ := h
  have hclean : ∀ c ∈ value.toList, ¬ isHiddenControl c := by
    intro c hc hhidden
    simp only [isHiddenControl, Bool.and_eq_true] at hhidden
    obtain ⟨byte, hbyte, hforbidden⟩ := exists_byte_of_isControl hhidden.1.1
    have hallowed := hall byte (List.mem_flatMap.mpr ⟨c, hc, hbyte⟩)
    apply hforbidden
    simp only [isIdentifierByte, Bool.or_eq_true, Bool.and_eq_true] at hallowed ⊢
    exact hallowed.imp_right fun hcolon => ⟨trivial, hcolon.2⟩
  have hnonempty : value.isEmpty = false := by
    rw [Bool.eq_false_iff]
    intro hempty
    rw [String.isEmpty_iff.mp hempty] at hne
    exact absurd hne (by decide)
  simp only [validPublicString, hnonempty, Bool.not_false, Bool.true_and, Bool.and_eq_true,
    decide_eq_true_eq, Bool.not_eq_true', List.any_eq_false]
  exact ⟨hlength.trans hbound, hclean⟩

theorem validPublicString_of_remoteCheck (h : validRemoteCheck value) :
    validPublicString value 512 := by
  simp only [validRemoteCheck, hasControl, Bool.and_eq_true, Bool.not_eq_true', beq_iff_eq,
    List.any_eq_false] at h
  obtain ⟨⟨⟨hne, hlength⟩, -⟩, hclean⟩ := h
  simp only [validPublicString, hne, hlength, Bool.not_false, Bool.and_true, Bool.true_and,
    Bool.not_eq_true', List.any_eq_false]
  intro c hc hhidden
  simp only [isHiddenControl, Bool.and_eq_true] at hhidden
  exact hclean c hc hhidden.1.1

/-! ## What the adapter asks for beyond the check before signing -/

/-- No control character but line feeds and tabs. -/
def isPlain (text : String) : Bool := !text.toList.any isHiddenControl

/-- The limits of the adapter that the check before signing does not have. -/
@[mk_iff] structure Submittable (order : RunmillWorkOrderV1) : Prop where
  title : isPlain order.objective.title
  description : isPlain order.objective.description
  description_length : (bytes order.objective.description).length ≤ runmillMaxControlBytes
  texts : ∀ text ∈ order.objective.acceptanceCriteria ++ order.objective.nonGoals,
    isPlain text ∧ (bytes text).length ≤ 1024
  paths : ∀ path ∈ order.scope.allowedPaths ++ order.scope.forbiddenPaths, isPlain path
  wallSeconds : order.budgets.wallSeconds ≤ maxSafeInteger
  agentInvocations : order.budgets.maxAgentInvocations ≤ maxSafeInteger
  fixIterations : order.budgets.maxFixIterations ≤ maxSafeInteger

theorem validPublicString_iff {max : ℕ} :
    validPublicString value max ↔ ¬ value.isEmpty ∧ (bytes value).length ≤ max ∧ isPlain value := by
  rw [validPublicString, isPlain]
  simp only [Bool.and_eq_true, Bool.not_eq_true', decide_eq_true_eq, Bool.not_eq_true, and_assoc]

section Objects

variable {p : Primitives} {order : RunmillWorkOrderV1}

theorem texts_ordered (texts : List String) :
    (RunmillWorkOrderV1.texts texts).ordered = .arr (texts.map .str) := by
  rw [RunmillWorkOrderV1.texts, Json.ordered, Json.orderedItems_eq_map, List.map_map]
  rfl

/-- The payload as the adapter reads it. -/
def payloadMap (p : Primitives) (order : RunmillWorkOrderV1) : Map :=
  orderedMap (Payload.fields p.writeF64 order)

theorem ordered_str (text : String) : (Json.str text).ordered = .str text := by
  rw [Json.ordered]

theorem ordered_num (m : ℤ) (e : ℕ) : (Json.num m e).ordered = .num m e := by
  rw [Json.ordered]

theorem payloadMap_get_eq (key : String) :
    (payloadMap p order).get key
      = ((Json.obj (Payload.fields p.writeF64 order)).field key).map Json.ordered :=
  orderedMap_get_eq (by simp [Payload.fields]) key

/-- The checks of one object of the payload. -/
theorem nested_eq_ok_iff {key : String} {keys : List String}
    {next : Map → RunmillControlResult Unit} (fields : List (String × Json))
    (h : (key, .obj fields) ∈ Payload.fields p.writeF64 order)
    (hkeys : fields.map Prod.fst = keys) (hnodup : keys.Nodup) :
    (nestedExact (payloadMap p order) key keys >>= next) = .ok ()
      ↔ next (orderedMap fields) = .ok () := by
  have hnames : ((Payload.fields p.writeF64 order).map Prod.fst).Nodup := by simp [Payload.fields]
  rw [payloadMap, nestedExact_ordered hkeys (orderedMap_get h hnames) hnodup]
  rfl

section

variable (h : order.Valid p.writeF64)

include h

theorem identifiers_valid :
    ∀ value ∈ order.identifiers.map Prod.snd, validIdentifier value 256 false := by
  intro value hvalue
  obtain ⟨entry, hentry, rfl⟩ := List.mem_map.mp hvalue
  exact h.identifiers entry hentry

/-! Each check is run on the members that the payload has. -/

attribute [local simp] requireIdentifierField requireRequestDigest requireString requireLiteral
  orderedMap_get_eq payloadMap_get_eq Json.field ordered_str ordered_num texts_ordered Json.asStr
  okOr ok_bind seq_eq_ok_iff RunmillWorkOrderV1.identifiers Payload.fields Payload.source
  Payload.repository Payload.verification Payload.identities Payload.runtime Payload.objective
  Payload.scope Payload.budgets Payload.delivery

theorem validatePayloadFields_ok : validatePayloadFields (payloadMap p order) = .ok () := by
  have hidentifiers := identifiers_valid h
  simp at hidentifiers
  simp [validatePayloadFields, hidentifiers]
  exact ⟨h.schema, h.idempotencyKey, h.policyDigest, h.harnessDigest⟩

theorem validateSource_ok : validateSource (payloadMap p order) = .ok () := by
  have hidentifiers := identifiers_valid h
  simp at hidentifiers
  refine (nested_eq_ok_iff (Payload.source order) (by simp) rfl (by simp)).mpr ?_
  simp [hidentifiers]
  exact h.snapshotDigest

theorem validateRepositoryBinding_ok : validateRepositoryBinding (payloadMap p order) = .ok () := by
  have hidentifiers := identifiers_valid h
  simp at hidentifiers
  refine (nested_eq_ok_iff (Payload.repository order) (by simp) rfl (by simp)).mpr ?_
  simp [hidentifiers, validRepository_eq, validBranchRef_eq, validGitSha_eq]
  exact ⟨h.repository, h.baseRef, h.baseSha⟩

theorem validateVerification_ok : validateVerification (payloadMap p order) = .ok () := by
  have hlocal : ∀ check ∈ order.verification.requiredLocalCheckIds, validPublicString check 512 :=
    fun check hcheck => validPublicString_of_identifier (h.localChecks check hcheck) (by omega)
  have hremote : ∀ check ∈ order.verification.requiredRemoteChecks, validPublicString check 512 :=
    fun check hcheck => validPublicString_of_remoteCheck (h.remoteChecks check hcheck)
  refine (nested_eq_ok_iff (Payload.verification order) (by simp) rfl (by simp)).mpr ?_
  simp [requireStringArray, Json.asArray]
  exact ⟨hlocal, hremote, h.policySnapshotDigest⟩

theorem validateIdentities_ok : validateIdentities (payloadMap p order) = .ok () := by
  have hidentities := h.identities
  simp only [RunmillWorkOrderV1.labelledIdentities, List.forall_mem_cons] at hidentities
  obtain ⟨himplementer, hlocal, hpr, -⟩ := hidentities
  refine (nested_eq_ok_iff (Payload.identities order) (by simp) rfl (by simp)).mpr ?_
  simp
  exact ⟨himplementer, hlocal, hpr⟩

theorem validateRuntime_ok : validateRuntime (payloadMap p order) = .ok () := by
  have hidentifiers := identifiers_valid h
  simp at hidentifiers
  refine (nested_eq_ok_iff (Payload.runtime order) (by simp) rfl (by simp)).mpr ?_
  simp [hidentifiers]

theorem validateObjective_iff :
    validateObjective (payloadMap p order) = .ok ()
      ↔ isPlain order.objective.title
        ∧ ((bytes order.objective.description).length ≤ runmillMaxControlBytes
          ∧ isPlain order.objective.description)
        ∧ ∀ text ∈ order.objective.acceptanceCriteria ++ order.objective.nonGoals,
          isPlain text ∧ (bytes text).length ≤ 1024 := by
  have hlist : ∀ text ∈ order.objective.acceptanceCriteria ++ order.objective.nonGoals,
      (validPublicString text 1024 ↔ isPlain text ∧ (bytes text).length ≤ 1024) := by
    intro text htext
    rw [validPublicString_iff, and_iff_right (h.texts_ne_empty text htext), and_comm]
  refine (nested_eq_ok_iff (Payload.objective order) (by simp) rfl (by simp)).trans ?_
  rw [← forall₂_congr hlist, List.forall_mem_append]
  simp [requireStringArray, Json.asArray, h.criteria_ne_nil]
  rw [validPublicString_iff, validPublicString_iff, and_iff_right h.title_ne_empty, and_iff_right
    h.title_length, and_iff_right h.description_ne_empty]

theorem validateScope_iff :
    validateScope (payloadMap p order) = .ok ()
      ↔ ∀ path ∈ order.scope.allowedPaths ++ order.scope.forbiddenPaths, isPlain path := by
  have hclass : ["low", "medium", "high", "critical"].contains order.scope.riskClass.text := by
    cases order.scope.riskClass <;> decide
  simp at hclass
  have hlist : ∀ path ∈ order.scope.allowedPaths ++ order.scope.forbiddenPaths,
      (validPublicString path 1024 ↔ isPlain path) := by
    intro path hpath
    rw [validPublicString_iff, and_iff_right (h.paths path hpath).1,
      and_iff_right (h.paths path hpath).2]
  refine (nested_eq_ok_iff (Payload.scope order) (by simp) rfl (by simp)).trans ?_
  rw [← forall₂_congr hlist, List.forall_mem_append]
  simp [requireStringArray, Json.asArray, h.allowed_ne_nil, hclass]

theorem validateBudgets_iff
    (hcost : p.readF64 (p.writeF64 order.budgets.maxCostUsd).1
      (p.writeF64 order.budgets.maxCostUsd).2 = order.budgets.maxCostUsd) :
    validateBudgets p (payloadMap p order) = .ok ()
      ↔ order.budgets.wallSeconds ≤ maxSafeInteger
        ∧ order.budgets.maxAgentInvocations ≤ maxSafeInteger
        ∧ order.budgets.maxFixIterations ≤ maxSafeInteger := by
  have hnumber : isNonnegative order.budgets.maxCostUsd := by
    rw [isNonnegative, h.cost_finite, Bool.eq_false_iff.mpr h.cost_nonnegative]
    rfl
  refine (nested_eq_ok_iff (Payload.budgets p.writeF64 order) (by simp) rfl (by simp)).trans ?_
  simp [requirePositiveSafeInteger, requireNonnegativeNumber, requireNonnegativeSafeInteger, asF64,
    hcost, hnumber, any_asU64_num]
  rw [and_iff_right (Nat.one_le_iff_ne_zero.mpr h.wallSeconds),
    and_iff_right (Nat.one_le_iff_ne_zero.mpr h.agentInvocations)]

theorem validateDelivery_ok (hpr : order.delivery.closureTarget = .pr) :
    validateDelivery (payloadMap p order) = .ok () := by
  refine (nested_eq_ok_iff (Payload.delivery order) (by simp) rfl (by simp)).mpr ?_
  simp [hpr, RunmillWorkOrderClosureTarget.text, h.mergePolicy_of_pr hpr, Json.ordered, isBoolean]

end

end Objects

/-! ## Envelopes -/

section Envelopes

variable {p : Primitives} {signer : Ed25519Signer} {payload : RunmillWorkOrderV1}
  {envelope : RunmillSignedWorkOrderV1}

/-- All members of an envelope. -/
def envelopeFields (p : Primitives) (envelope : RunmillSignedWorkOrderV1) : List (String × Json) :=
  envelope.signedFields p ++ [("signature", .str envelope.signature)]

/-- The envelope as the adapter reads it. -/
def envelopeMap (p : Primitives) (envelope : RunmillSignedWorkOrderV1) : Map :=
  orderedMap (envelopeFields p envelope)

theorem envelopeMap_keys (p : Primitives) (envelope : RunmillSignedWorkOrderV1) :
    (envelopeFields p envelope).map Prod.fst
      = ["schema", "key_id", "algorithm", "issued_at", "not_before", "expires_at", "payload",
        "signature"] := rfl

theorem envelopeMap_get_eq (key : String) :
    (envelopeMap p envelope).get key
      = ((Json.obj (envelopeFields p envelope)).field key).map Json.ordered :=
  orderedMap_get_eq (by rw [envelopeMap_keys]; decide) key

attribute [local simp] requireIdentifierField requireString requireLiteral Json.field ordered_str
  Json.asStr okOr ok_bind seq_eq_ok_iff envelopeMap_get_eq envelopeFields signedFields

variable (h : SignedBy p signer payload envelope)

include h

theorem validateSignature_ok : validateSignature (envelopeMap p envelope) = .ok () := by
  obtain ⟨message, -, hsignature⟩ := h.signature
  have hstrip : afterStart "base64url:" (signatureStart ++ signer.sign message)
      = some (signer.sign message) := afterStart_append _ _
  have hdecode : Base64.decode (signer.sign message)
      = some (signer.signingKey message).val := Base64.decode_encode _
  have hne : (signer.signingKey message).val ≠ [] := by
    intro hnil
    have hlength := (signer.signingKey message).property
    rw [hnil] at hlength
    exact absurd hlength (by decide)
  simp [validateSignature, hsignature, hstrip, hdecode, hne]
  rfl

variable (htimes : ∀ instant ∈ [envelope.issuedAt, envelope.notBefore, envelope.expiresAt],
  WritesTime p instant)

include htimes

theorem validateEnvelopeFields_ok : validateEnvelopeFields p (envelopeMap p envelope) = .ok () := by
  have hwritten : ∀ {instant}, WritesTime p instant → validTimestamp p (p.timeText instant) := by
    rintro instant ⟨hlength, hparse⟩
    simp [validTimestamp, hlength, hparse]
  simp only [List.forall_mem_cons] at htimes
  obtain ⟨hissued, hnotBefore, hexpires, -⟩ := htimes
  simp [validateEnvelopeFields, requireTimestampField, validateSignature_ok h, hwritten hissued,
    hwritten hnotBefore, hwritten hexpires]
  exact ⟨h.schema, h.algorithm, h.keyId⟩

theorem validateWorkOrderEnvelope_iff (hpr : payload.delivery.closureTarget = .pr)
    (hcost : WritesF64 p payload.budgets.maxCostUsd) :
    validateWorkOrderEnvelope p (envelope.toValue p).ordered = .ok () ↔ Submittable payload := by
  have hvalid := RunmillWorkOrderV1.validate_eq_ok_iff.mp h.valid
  have henvelope : requireExactObject (envelope.toValue p).ordered
      ["schema", "key_id", "algorithm", "issued_at", "not_before", "expires_at", "payload",
        "signature"] = .ok (envelopeMap p envelope) :=
    requireExactObject_ordered (envelopeMap_keys p envelope) (by decide)
  have hdocument : (envelopeMap p envelope).get "payload"
      = some (Json.obj (Payload.fields p.writeF64 payload)).ordered := by
    rw [← h.payload_eq, envelopeMap_get_eq]
    simp [Payload.toValue_eq]
  have hpayload : requireExactObject (Json.obj (Payload.fields p.writeF64 payload)).ordered
      ["schema", "work_order_id", "tenant_id", "work_item_id", "attempt_id", "idempotency_key",
        "source", "repository", "objective", "scope", "verification", "identities", "runtime",
        "budgets", "delivery", "policy_digest", "harness_digest"] = .ok (payloadMap p payload) :=
    requireExactObject_ordered rfl (by decide)
  rw [validateWorkOrderEnvelope, henvelope]
  simp only [ok_bind, validateEnvelopeFields_ok h htimes, hdocument, okOr, hpayload, seq_eq_ok_iff,
    validatePayloadFields_ok hvalid, validateSource_ok hvalid, validateRepositoryBinding_ok hvalid,
    validateObjective_iff hvalid, validateScope_iff hvalid, validateVerification_ok hvalid,
    validateIdentities_ok hvalid, validateRuntime_ok hvalid, validateBudgets_iff hvalid hcost,
    validateDelivery_ok hvalid hpr, and_true, submittable_iff, and_assoc]
  exact and_congr_right fun _ => and_left_comm

end Envelopes

open Instance

/-- The adapter takes the envelope of a pull-request order exactly if the order also
    keeps the adapter's own limits. -/
theorem parse_signed_iff (p : Primitives) (payload : RunmillWorkOrderV1) (signer : Ed25519Signer)
    (issuedAt notBefore expiresAt : DateTime) (envelope : RunmillSignedWorkOrderV1)
    (hsign : sign p payload signer issuedAt notBefore expiresAt = .ok envelope)
    (hpr : payload.delivery.closureTarget = .pr)
    (htimes : ∀ instant ∈ [issuedAt, notBefore, expiresAt], WritesTime p instant)
    (hcost : WritesF64 p payload.budgets.maxCostUsd) :
    (∃ parsed, parse p (envelope.toValue p).ordered = .ok parsed) ↔ Submittable payload := by
  obtain ⟨hsigned, rfl, rfl, rfl, -⟩ := sign_eq_ok hsign
  rw [← validateWorkOrderEnvelope_iff hsigned htimes hpr hcost]
  constructor
  · rintro ⟨parsed, hparse⟩
    obtain ⟨⟨⟩, hvalidate, -⟩ := bind_eq_ok_iff.mp hparse
    exact hvalidate
  · intro hvalidate
    refine ⟨⟨(envelope.toValue p).ordered⟩, ?_⟩
    rw [parse, hvalidate]
    rfl

/-- A Work Order with another description. -/
def described (order : RunmillWorkOrderV1) (description : String) : RunmillWorkOrderV1 :=
  { order with objective := { order.objective with description } }

theorem described_valid {writeF64 : F64 → ℤ × ℕ} {order : RunmillWorkOrderV1} {description : String}
    (h : order.Valid writeF64) (hne : ¬ description.isEmpty)
    (hclean : ¬ isCredentialShaped description) : (described order description).Valid writeF64 := by
  have htexts := h.clean
  simp only [RunmillWorkOrderV1.toValue, RunmillWorkOrderV1.texts, Json.strings, Json.fieldStrings,
    Json.itemStrings_map_str, List.forall_mem_append, List.forall_mem_cons] at htexts
  obtain ⟨h1, h2, h3, h4, h5, h6, hsource, hrepository, ⟨htitle, ⟨-, hnil⟩, hlists⟩, hrest⟩ :=
    htexts
  refine
    { h with
      description_ne_empty := hne
      clean := ?_ }
  simp only [RunmillWorkOrderV1.toValue, RunmillWorkOrderV1.texts, Json.strings, Json.fieldStrings,
    Json.itemStrings_map_str, described, List.forall_mem_append, List.forall_mem_cons]
  exact ⟨h1, h2, h3, h4, h5, h6, hsource, hrepository, ⟨htitle, ⟨hclean, hnil⟩, hlists⟩, hrest⟩

/-- The sample order with the given description. -/
def describedOrder : RunmillWorkOrderV1 :=
  described (dispatched ["src/**"] ["ci/build"]) description

theorem describedOrder_sign (hne : ¬ description.isEmpty)
    (hclean : ¬ isCredentialShaped description) :
    ∃ envelope, sign primitives (describedOrder description) (signer "signer")
      ⟨0⟩ ⟨0⟩ ⟨1000000000⟩ = .ok envelope := by
  have hvalid := described_valid dispatched_valid hne hclean
  exact exists_sign_eq_ok (RunmillWorkOrderV1.validate_eq_ok_iff.mpr hvalid) (by decide)
    (by decide +kernel) fun value => ⟨_, rfl⟩

theorem writesTime_instants :
    ∀ instant ∈ [(⟨0⟩ : DateTime), ⟨0⟩, ⟨1000000000⟩], WritesTime primitives instant := by
  simp only [WritesTime, primitives]
  decide +kernel

theorem parse_signed_plain :
    ∃ envelope, sign primitives (describedOrder "description") (signer "signer")
        ⟨0⟩ ⟨0⟩ ⟨1000000000⟩ = .ok envelope
      ∧ ∃ parsed, parse primitives (envelope.toValue primitives).ordered = .ok parsed := by
  obtain ⟨envelope, hsign⟩ := describedOrder_sign "description" (by decide) (by decide +kernel)
  have hsubmittable : Submittable (describedOrder "description") := by
    constructor <;> decide +kernel
  exact ⟨envelope, hsign, (parse_signed_iff _ _ _ _ _ _ _ hsign rfl writesTime_instants rfl).mpr
    hsubmittable⟩

/-- A description with a carriage return is signed, and the adapter refuses it. -/
theorem sign_carriageReturn_refused :
    ∃ envelope, sign primitives (describedOrder "first\r\nsecond")
        (signer "signer") ⟨0⟩ ⟨0⟩ ⟨1000000000⟩ = .ok envelope
      ∧ (describedOrder "first\r\nsecond").delivery.closureTarget = .pr
      ∧ ∀ parsed, parse primitives (envelope.toValue primitives).ordered ≠ .ok parsed := by
  obtain ⟨envelope, hsign⟩ := describedOrder_sign "first\r\nsecond" (by decide) (by decide +kernel)
  obtain ⟨hsigned, hissued, hnotBefore, hexpires, -⟩ := sign_eq_ok hsign
  refine ⟨envelope, hsign, rfl, ?_⟩
  intro parsed hparse
  obtain ⟨⟨⟩, hvalidate, -⟩ := bind_eq_ok_iff.mp hparse
  have htimes : ∀ instant ∈ [envelope.issuedAt, envelope.notBefore, envelope.expiresAt],
      WritesTime primitives instant := by
    rw [hissued, hnotBefore, hexpires]
    exact writesTime_instants
  have hplain := ((validateWorkOrderEnvelope_iff hsigned htimes rfl rfl).mp hvalidate).description
  exact absurd hplain (by decide)

end Asf.Adapters
