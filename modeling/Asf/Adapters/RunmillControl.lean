import Asf.Contracts.RunmillSigned

/-!
# The Work Order envelope at the control adapter (`src/adapters/runmill_control.rs`)

`RunmillWorkOrderEnvelope::parse` checks the JSON of an envelope before it is sent
to Runmill, member by member and without the types of the contract.
-/

namespace Asf.Adapters

open Contracts Lib
open Prod (fst)

variable {fields : List (String × Json)} {keys : List String} (payload : Map) (value : String)

/-- The errors of `RunmillControlError` that the check returns. -/
inductive RunmillControlError where
  | invalidRequest (message : String)
  | malformedResponse
deriving DecidableEq

/-- `RunmillControlResult`. -/
abbrev RunmillControlResult (α : Type) := Except RunmillControlError α

/-- `serde_json::Map`. -/
abbrev Map := List (String × Json)

/-- `object.get(key)`. -/
def Map.get (object : Map) (key : String) : Option Json := (Json.obj object).field key

/-- `RUNMILL_MAX_CONTROL_BYTES` (line 37). -/
def runmillMaxControlBytes : ℕ := 2 * 1024 * 1024

/-- `MAX_SAFE_INTEGER` (line 47). -/
def maxSafeInteger : ℕ := 9007199254740991

/-! ## Texts -/

/-- `valid_identifier` (lines 4204-4216). -/
def validIdentifier (max : ℕ) (allowColon : Bool) : Bool :=
  isToken max (isIdentifierByte allowColon) value

/-- `valid_idempotency_key` (lines 4218-4228). -/
def validIdempotencyKey : Bool :=
  isToken 768
    (fun byte => isAsciiAlphanumeric byte || byte == 46 || byte == 95 || byte == 47 || byte == 45)
    value

/-- A control character other than a line feed and a tab. -/
def isHiddenControl (c : Char) : Bool := isControl c && c != '\n' && c != '\t'

/-- `valid_public_string` (lines 4230-4236). -/
def validPublicString (max : ℕ) : Bool :=
  !value.isEmpty && decide ((bytes value).length ≤ max) && !value.toList.any isHiddenControl

/-- `valid_timestamp` (lines 4238-4240). -/
def validTimestamp (p : Primitives) (value : String) : Bool :=
  decide ((bytes value).length ≤ 64) && (p.parseUtc value).isSome

/-- `valid_digest` (lines 4242-4252), the test of `is_sha256_digest`. -/
def validDigest : Bool := isSha256Digest value

/-- `valid_git_sha` (lines 4254-4261). -/
def validGitSha (allowUppercase : Bool) : Bool :=
  (bytes value).length == 40
    && (bytes value).all fun byte =>
      isLowerHexByte byte || (allowUppercase && (65 ≤ byte && byte ≤ 70))

/-- `valid_repository` (lines 4263-4271). -/
def validRepository : Bool :=
  (splitOnce '/' value).any fun (owner, name) =>
    !owner.isEmpty && !name.isEmpty && !hasChar name '/' && !owner.toList.any isWhitespace
      && !name.toList.any isWhitespace

/-- `valid_branch_ref` (lines 4273-4292). -/
def validBranchRef : Bool :=
  match branchOf value with
  | none => false
  | some branch =>
    !branch.isEmpty && !containsText branch ".." && !containsText branch "@\x7b"
      && !containsText branch "//" && !(endsWith branch "/" || endsWith branch ".")
      && !((splitSlash branch).any fun component =>
        component.isEmpty || startsWith component "." || endsWith component ".lock")
      && !(bytes branch).any isForbiddenRefByte

/-! ## Members -/

/-- `Value::as_f64`. -/
def asF64 (p : Primitives) : Json → Option F64
  | .num m e => some (p.readF64 m e)
  | _ => none

/-- `Value::is_boolean`. -/
def isBoolean : Json → Bool
  | .bool _ => true
  | _ => false

/-- `number.is_finite() && number >= 0.0`. -/
def isNonnegative (number : F64) : Bool :=
  number.isFinite && (!number.isSignNegative || number.bits.extractLsb' 0 63 == 0)

/-- `if !accepted { return invalid_request(message) }`. -/
def requestIf (accepted : Bool) (message : String) : RunmillControlResult Unit :=
  if accepted then .ok () else .error (.invalidRequest message)

/-- `exact_keys` (lines 4060-4062). -/
def exactKeys (object : Map) (keys : List String) : Bool :=
  object.length == keys.length && keys.all fun key => (object.get key).isSome

/-- `require_exact_object` (lines 4033-4044). -/
def requireExactObject (value : Json) (keys : List String) : RunmillControlResult Map :=
  match value.asObject with
  | none => .error .malformedResponse
  | some object => if exactKeys object keys then .ok object else .error .malformedResponse

section Members

variable (p : Primitives) (envelope : Map) (object : Map) (key : String)

/-- `nested_exact` (lines 4046-4058). -/
def nestedExact (keys : List String) : RunmillControlResult Map :=
  match object.get key with
  | none => .error (.invalidRequest "Work Order field is missing")
  | some value =>
    (requireExactObject value keys).mapError fun _ =>
      .invalidRequest "Work Order object shape is malformed"

/-- `require_literal` (lines 4075-4085). -/
def requireLiteral (key expected : String) : RunmillControlResult Unit :=
  requestIf ((object.get key).bind Json.asStr == some expected)
    "Runmill Work Order schema or algorithm is incompatible"

/-- `require_string` (lines 4087-4094). -/
def requireString : RunmillControlResult String :=
  okOr (.invalidRequest "Runmill Work Order string field is malformed")
    ((object.get key).bind Json.asStr)

/-- `require_identifier_field` (lines 4096-4107). -/
def requireIdentifierField (max : ℕ) (allowColon : Bool) : RunmillControlResult Unit := do
  let value ← requireString object key
  requestIf (validIdentifier value max allowColon) "Runmill Work Order identifier is malformed"

/-- `require_timestamp_field` (lines 4109-4115). -/
def requireTimestampField : RunmillControlResult Unit := do
  let value ← requireString object key
  requestIf (validTimestamp p value) "Runmill Work Order timestamp is malformed"

/-- `require_string_array` (lines 4117-4140). -/
def requireStringArray (nonempty : Bool) (maxItem : ℕ) : RunmillControlResult Unit := do
  let values ← okOr (.invalidRequest "Runmill Work Order array is malformed")
    ((object.get key).bind Json.asArray)
  requestIf (!(nonempty && values.isEmpty)
      && values.all fun value => value.asStr.any (validPublicString · maxItem))
    "Runmill Work Order array is malformed"

/-- `require_positive_safe_integer` (lines 4142-4155). -/
def requirePositiveSafeInteger : RunmillControlResult Unit :=
  requestIf (((object.get key).bind Json.asU64).any fun number =>
      decide (1 ≤ number ∧ number ≤ maxSafeInteger))
    "Runmill Work Order budget is malformed"

/-- `require_nonnegative_safe_integer` (lines 4157-4170). -/
def requireNonnegativeSafeInteger : RunmillControlResult Unit :=
  requestIf (((object.get key).bind Json.asU64).any fun number => decide (number ≤ maxSafeInteger))
    "Runmill Work Order budget is malformed"

/-- `require_nonnegative_number` (lines 4172-4182). -/
def requireNonnegativeNumber : RunmillControlResult Unit :=
  requestIf (((object.get key).bind (asF64 p)).any isNonnegative)
    "Runmill Work Order budget is malformed"

/-- `require_request_digest(require_string(object, key)?)` (lines 4192-4198). -/
def requireRequestDigest : RunmillControlResult Unit := do
  let value ← requireString object key
  requestIf (validDigest value) "digest is malformed"

/-! ## The check, one object after another -/

/-- The signature (lines 2188-2198). -/
def validateSignature : RunmillControlResult Unit := do
  let signature ← requireString envelope "signature"
  let encoded ← okOr (.invalidRequest "Runmill Work Order signature is malformed")
    (afterStart "base64url:" signature)
  let decoded ← okOr (.invalidRequest "Runmill Work Order signature is malformed")
    (Base64.decode encoded)
  requestIf (!decoded.isEmpty && Base64.encode decoded == encoded)
    "Runmill Work Order signature is malformed"

/-- The members of the envelope but the payload (lines 2182-2198). -/
def validateEnvelopeFields : RunmillControlResult Unit := do
  requireLiteral envelope "schema" "asf.work-order-envelope/v1"
  requireLiteral envelope "algorithm" "EdDSA"
  requireIdentifierField envelope "key_id" 256 false
  ["issued_at", "not_before", "expires_at"].forM (requireTimestampField p envelope)
  validateSignature envelope

end Members

/-- The texts of the payload (lines 2225-2235). -/
def validatePayloadFields : RunmillControlResult Unit := do
  requireLiteral payload "schema" "asf.work-order/v1"
  ["work_order_id", "tenant_id", "work_item_id", "attempt_id"].forM fun key =>
    requireIdentifierField payload key 256 false
  let idempotencyKey ← requireString payload "idempotency_key"
  requestIf (validIdempotencyKey idempotencyKey) "Runmill Work Order idempotency key is malformed"
  ["policy_digest", "harness_digest"].forM (requireRequestDigest payload)

/-- The source (lines 2237-2244). -/
def validateSource : RunmillControlResult Unit := do
  let source ← nestedExact payload "source" ["system", "external_id", "snapshot_digest"]
  requireIdentifierField source "system" 256 false
  requireIdentifierField source "external_id" 256 false
  requireRequestDigest source "snapshot_digest"

/-- The repository (lines 2246-2257). -/
def validateRepositoryBinding : RunmillControlResult Unit := do
  let repository ← nestedExact payload "repository" ["forge", "repository", "base_ref", "base_sha"]
  requireIdentifierField repository "forge" 256 false
  let name ← requireString repository "repository"
  requestIf (validRepository name) "Runmill Work Order repository binding is malformed"
  let baseRef ← requireString repository "base_ref"
  requestIf (validBranchRef baseRef) "Runmill Work Order repository binding is malformed"
  let baseSha ← requireString repository "base_sha"
  requestIf (validGitSha baseSha true) "Runmill Work Order repository binding is malformed"

/-- The objective (lines 2259-2273). -/
def validateObjective : RunmillControlResult Unit := do
  let objective ← nestedExact payload "objective"
    ["title", "description", "acceptance_criteria", "non_goals"]
  let title ← requireString objective "title"
  requestIf (validPublicString title 1024) "Runmill Work Order objective is malformed"
  let description ← requireString objective "description"
  requestIf (validPublicString description runmillMaxControlBytes)
    "Runmill Work Order objective is malformed"
  requireStringArray objective "acceptance_criteria" true 1024
  requireStringArray objective "non_goals" false 1024

/-- The scope (lines 2275-2287). -/
def validateScope : RunmillControlResult Unit := do
  let scope ← nestedExact payload "scope" ["allowed_paths", "forbidden_paths", "risk_class"]
  requireStringArray scope "allowed_paths" true 1024
  requireStringArray scope "forbidden_paths" false 1024
  let riskClass ← requireString scope "risk_class"
  requestIf (["low", "medium", "high", "critical"].contains riskClass)
    "Runmill Work Order risk class is malformed"

/-- The verification requirements (lines 2289-2300). -/
def validateVerification : RunmillControlResult Unit := do
  let verification ← nestedExact payload "verification"
    ["required_local_check_ids", "required_remote_checks", "policy_snapshot_digest"]
  requireStringArray verification "required_local_check_ids" false 512
  requireStringArray verification "required_remote_checks" false 512
  requireRequestDigest verification "policy_snapshot_digest"

/-- The identities (lines 2302-2309). -/
def validateIdentities : RunmillControlResult Unit := do
  let identities ← nestedExact payload "identities" ["implementer", "local_reviewer", "pr_reviewer"]
  ["implementer", "local_reviewer", "pr_reviewer"].forM fun key =>
    requireIdentifierField identities key 256 true

/-- The runtime policy (lines 2311-2318). -/
def validateRuntime : RunmillControlResult Unit := do
  let runtime ← nestedExact payload "runtime" ["sandbox_profile", "tool_policy", "network_policy"]
  ["sandbox_profile", "tool_policy", "network_policy"].forM fun key =>
    requireIdentifierField runtime key 256 false

/-- The budgets (lines 2320-2333). -/
def validateBudgets (p : Primitives) (payload : Map) : RunmillControlResult Unit := do
  let budgets ← nestedExact payload "budgets"
    ["wall_seconds", "max_cost_usd", "max_agent_invocations", "max_fix_iterations"]
  requirePositiveSafeInteger budgets "wall_seconds"
  requireNonnegativeNumber p budgets "max_cost_usd"
  requirePositiveSafeInteger budgets "max_agent_invocations"
  requireNonnegativeSafeInteger budgets "max_fix_iterations"

/-- The delivery authority (lines 2335-2353). -/
def validateDelivery : RunmillControlResult Unit := do
  let delivery ← nestedExact payload "delivery" ["closure_target", "draft_pr", "merge_policy_ref"]
  let closureTarget ← requireString delivery "closure_target"
  requestIf (["pr", "merge", "deploy", "observe"].contains closureTarget
      && (delivery.get "draft_pr").any isBoolean
      && (delivery.get "merge_policy_ref").any fun value =>
        value == .null || value.asStr.any (validPublicString · 512))
    "Runmill Work Order delivery is malformed"

/-- `validate_work_order_envelope` (lines 2168-2355). -/
def validateWorkOrderEnvelope (p : Primitives) (value : Json) : RunmillControlResult Unit := do
  let envelope ← requireExactObject value
    ["schema", "key_id", "algorithm", "issued_at", "not_before", "expires_at", "payload",
      "signature"]
  validateEnvelopeFields p envelope
  let document ← okOr (.invalidRequest "Work Order payload is missing") (envelope.get "payload")
  let payload ← requireExactObject document
    ["schema", "work_order_id", "tenant_id", "work_item_id", "attempt_id", "idempotency_key",
      "source", "repository", "objective", "scope", "verification", "identities", "runtime",
      "budgets", "delivery", "policy_digest", "harness_digest"]
  validatePayloadFields payload
  validateSource payload
  validateRepositoryBinding payload
  validateObjective payload
  validateScope payload
  validateVerification payload
  validateIdentities payload
  validateRuntime payload
  validateBudgets p payload
  validateDelivery payload

/-- `RunmillWorkOrderEnvelope` (lines 270-273): a document that passed. -/
structure RunmillWorkOrderEnvelope where
  value : Json

/-- `RunmillWorkOrderEnvelope::parse` (lines 276-279). -/
def RunmillWorkOrderEnvelope.parse (p : Primitives) (value : Json) :
    RunmillControlResult RunmillWorkOrderEnvelope := do
  validateWorkOrderEnvelope p value
  return ⟨value⟩

/-! ## Reading members -/

@[simp] theorem requestIf_eq_ok_iff {accepted : Bool} {message : String} :
    requestIf accepted message = .ok () ↔ accepted = true := by
  cases accepted <;> simp [requestIf]

theorem any_asU64_num {number : ℕ} {test : ℕ → Bool} (h : ∀ n, test n → n ≤ maxSafeInteger) :
    (Json.num number 0).asU64.any test ↔ test number := by
  rw [Option.any_eq_true]
  constructor
  · rintro ⟨number', hread, htest⟩
    rwa [Json.asU64_num_eq_some hread] at htest
  · intro htest
    exact ⟨number, Json.asU64_num ((h _ htest).trans (by decide)), htest⟩

/-! ## Canonical objects -/

/-- The map of a canonical object. -/
def orderedMap (fields : List (String × Json)) : Map :=
  Json.insertFields [] (Json.orderedFields fields)

theorem ordered_obj (fields : List (String × Json)) :
    (Json.obj fields).ordered = .obj (orderedMap fields) := by
  rw [Json.ordered]
  rfl

theorem keys_orderedFields (fields : List (String × Json)) :
    (Json.orderedFields fields).map fst = fields.map fst := by
  rw [Json.orderedFields_eq_map, List.map_map]
  rfl

theorem orderedMap_get {key : String} {value : Json} (hmem : (key, value) ∈ fields)
    (h : (fields.map fst).Nodup) : (orderedMap fields).get key = some value.ordered := by
  have hordered : (key, value.ordered) ∈ Json.orderedFields fields := by
    rw [Json.orderedFields_eq_map]
    exact List.mem_map.mpr ⟨(key, value), hmem, rfl⟩
  exact Json.field_insertFields ((keys_orderedFields fields).symm ▸ h) hordered

/-- What the map of a canonical object has under a key. -/
theorem orderedMap_get_eq (h : (fields.map fst).Nodup) (key : String) :
    (orderedMap fields).get key = ((Json.obj fields).field key).map Json.ordered := by
  rw [Map.get, ← ordered_obj, Json.field_ordered h]

section

variable (hkeys : fields.map fst = keys)

include hkeys

theorem exactKeys_orderedMap (h : keys.Nodup) : exactKeys (orderedMap fields) keys := by
  subst hkeys
  have hlength : (orderedMap fields).length = (fields.map fst).length := by
    rw [orderedMap, Json.length_insertFields ((keys_orderedFields fields).symm ▸ h) (by simp),
      ← keys_orderedFields, List.length_map, List.length_nil, Nat.zero_add]
  have hpresent : ∀ key ∈ fields.map fst, ((orderedMap fields).get key).isSome := by
    intro key hkey
    obtain ⟨entry, hentry, rfl⟩ := List.mem_map.mp hkey
    rw [orderedMap_get hentry h]
    rfl
  simp only [exactKeys, hlength, beq_self_eq_true, Bool.true_and, List.all_eq_true]
  exact hpresent

theorem requireExactObject_ordered (h : keys.Nodup) :
    requireExactObject (Json.obj fields).ordered keys = .ok (orderedMap fields) := by
  rw [ordered_obj]
  exact if_pos (exactKeys_orderedMap hkeys h)

theorem nestedExact_ordered {object : Map} {key : String}
    (hget : object.get key = some (Json.obj fields).ordered)
    (h : keys.Nodup) : nestedExact object key keys = .ok (orderedMap fields) := by
  rw [nestedExact, hget]
  simp only [requireExactObject_ordered hkeys h]
  rfl

end

end Asf.Adapters
