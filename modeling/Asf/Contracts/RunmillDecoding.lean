import Asf.Lib.Collect
import Asf.Contracts.RunmillSigned

/-!
# Decoding Runmill Work Orders

What `serde_json::from_value::<RunmillSignedWorkOrderV1>` takes. The structs are
derived with `deny_unknown_fields`: a struct is read from an object with no other
member or from an array with one item per field, and an optional field that is
missing is `None`.

Result:

* `RunmillSignedWorkOrderV1.fromValue_eq_none`: an unknown member is refused.
-/

namespace Asf.Contracts

open Json (asStr asU64)

variable {fields : List (String × Json)}

/-! ## Derived readers -/

/-- The members of a struct with the given fields. -/
def structFields (names : List String) : Json → Option (List (String × Json))
  | .obj fields => if fields.all fun field => names.contains field.1 then some fields else none
  | .arr items => if items.length = names.length then some (names.zip items) else none
  | _ => none

/-- A field that must be there. -/
def readField {α : Type} (fields : List (String × Json)) (name : String)
    (read : Json → Option α) : Option α :=
  ((Json.obj fields).field name).bind read

/-- An `Option<String>`. -/
def readOptional (fields : List (String × Json)) (name : String) : Option (Option String) :=
  match (Json.obj fields).field name with
  | none => some none
  | some .null => some none
  | some value => value.asStr.map some

/-- An `Option<T>`. -/
def readOption {α : Type} (fields : List (String × Json)) (name : String)
    (read : Json → Option α) : Option (Option α) :=
  match (Json.obj fields).field name with
  | none => some none
  | some .null => some none
  | some value => (read value).map some

section Decoding

variable (p : Primitives) (value : Json)

/-- A `Vec<String>`. -/
def readStrings : Option (List String) := do
  let items ← value.asArray
  items.mapM asStr

/-- A `bool`. -/
def readBool : Json → Option Bool
  | .bool b => some b
  | _ => none

/-- An `f64`. -/
def readNumber : Json → Option F64
  | .num m e => some (p.readF64 m e)
  | _ => none

/-- A `DateTime<Utc>`. -/
def readTime : Option DateTime := value.asStr.bind p.parseUtc

/-- A variant without data: its name, or an object with the name and `null`. -/
def readVariant {α : Type} (variants : List (String × α)) : Json → Option α
  | .str name => (variants.find? fun variant => variant.1 == name).map Prod.snd
  | .obj [(name, .null)] => (variants.find? fun variant => variant.1 == name).map Prod.snd
  | _ => none

def RunmillWorkOrderSourceV1.fromValue : Option RunmillWorkOrderSourceV1 := do
  let fields ← structFields ["system", "external_id", "snapshot_digest"] value
  let system ← readField fields "system" asStr
  let externalId ← readField fields "external_id" asStr
  let snapshotDigest ← readField fields "snapshot_digest" asStr
  return { system, externalId, snapshotDigest }

def RunmillRepositoryTargetV1.fromValue : Option RunmillRepositoryTargetV1 := do
  let fields ← structFields ["forge", "repository", "base_ref", "base_sha"] value
  let forge ← readField fields "forge" asStr
  let repository ← readField fields "repository" asStr
  let baseRef ← readField fields "base_ref" asStr
  let baseSha ← readField fields "base_sha" asStr
  return { forge, repository, baseRef, baseSha }

def RunmillObjectiveV1.fromValue : Option RunmillObjectiveV1 := do
  let fields ← structFields ["title", "description", "acceptance_criteria", "non_goals"] value
  let title ← readField fields "title" asStr
  let description ← readField fields "description" asStr
  let acceptanceCriteria ← readField fields "acceptance_criteria" readStrings
  let nonGoals ← readField fields "non_goals" readStrings
  return { title, description, acceptanceCriteria, nonGoals }

def riskClasses : List (String × RunmillRiskClass) :=
  [("low", .low), ("medium", .medium), ("high", .high), ("critical", .critical)]

def RunmillWorkScopeV1.fromValue : Option RunmillWorkScopeV1 := do
  let fields ← structFields ["allowed_paths", "forbidden_paths", "risk_class"] value
  let allowedPaths ← readField fields "allowed_paths" readStrings
  let forbiddenPaths ← readField fields "forbidden_paths" readStrings
  let riskClass ← readField fields "risk_class" (readVariant riskClasses)
  return { allowedPaths, forbiddenPaths, riskClass }

def RunmillVerificationRequirementsV1.fromValue : Option RunmillVerificationRequirementsV1 := do
  let fields ← structFields
    ["required_local_check_ids", "required_remote_checks", "policy_snapshot_digest"] value
  let requiredLocalCheckIds ← readField fields "required_local_check_ids" readStrings
  let requiredRemoteChecks ← readField fields "required_remote_checks" readStrings
  let policySnapshotDigest ← readField fields "policy_snapshot_digest" asStr
  return { requiredLocalCheckIds, requiredRemoteChecks, policySnapshotDigest }

def RunmillIdentityRequirementsV1.fromValue : Option RunmillIdentityRequirementsV1 := do
  let fields ← structFields ["implementer", "local_reviewer", "pr_reviewer"] value
  let implementer ← readField fields "implementer" asStr
  let localReviewer ← readField fields "local_reviewer" asStr
  let prReviewer ← readField fields "pr_reviewer" asStr
  return { implementer, localReviewer, prReviewer }

def RunmillRuntimePolicyV1.fromValue : Option RunmillRuntimePolicyV1 := do
  let fields ← structFields ["sandbox_profile", "tool_policy", "network_policy"] value
  let sandboxProfile ← readField fields "sandbox_profile" asStr
  let toolPolicy ← readField fields "tool_policy" asStr
  let networkPolicy ← readField fields "network_policy" asStr
  return { sandboxProfile, toolPolicy, networkPolicy }

def RunmillBudgetLimitsV1.fromValue : Option RunmillBudgetLimitsV1 := do
  let fields ← structFields
    ["wall_seconds", "max_cost_usd", "max_agent_invocations", "max_fix_iterations"] value
  let wallSeconds ← readField fields "wall_seconds" asU64
  let maxCostUsd ← readField fields "max_cost_usd" (readNumber p)
  let maxAgentInvocations ← readField fields "max_agent_invocations" asU64
  let maxFixIterations ← readField fields "max_fix_iterations" asU64
  return { wallSeconds, maxCostUsd, maxAgentInvocations, maxFixIterations }

def closureTargets : List (String × RunmillWorkOrderClosureTarget) :=
  [("pr", .pr), ("merge", .merge), ("deploy", .deploy), ("observe", .observe)]

def RunmillDeliveryAuthorityV1.fromValue : Option RunmillDeliveryAuthorityV1 := do
  let fields ← structFields ["closure_target", "draft_pr", "merge_policy_ref"] value
  let closureTarget ← readField fields "closure_target" (readVariant closureTargets)
  let draftPr ← readField fields "draft_pr" readBool
  let mergePolicyRef ← readOptional fields "merge_policy_ref"
  return { closureTarget, draftPr, mergePolicyRef }

def RunmillWorkOrderV1.fromValue : Option RunmillWorkOrderV1 := do
  let fields ← structFields
    ["schema", "work_order_id", "tenant_id", "work_item_id", "attempt_id", "idempotency_key",
      "source", "repository", "objective", "scope", "verification", "identities", "runtime",
      "budgets", "delivery", "policy_digest", "harness_digest"] value
  let schema ← readField fields "schema" asStr
  let workOrderId ← readField fields "work_order_id" asStr
  let tenantId ← readField fields "tenant_id" asStr
  let workItemId ← readField fields "work_item_id" asStr
  let attemptId ← readField fields "attempt_id" asStr
  let idempotencyKey ← readField fields "idempotency_key" asStr
  let source ← readField fields "source" RunmillWorkOrderSourceV1.fromValue
  let repository ← readField fields "repository" RunmillRepositoryTargetV1.fromValue
  let objective ← readField fields "objective" RunmillObjectiveV1.fromValue
  let scope ← readField fields "scope" RunmillWorkScopeV1.fromValue
  let verification ← readField fields "verification" RunmillVerificationRequirementsV1.fromValue
  let identities ← readField fields "identities" RunmillIdentityRequirementsV1.fromValue
  let runtime ← readField fields "runtime" RunmillRuntimePolicyV1.fromValue
  let budgets ← readField fields "budgets" (RunmillBudgetLimitsV1.fromValue p)
  let delivery ← readField fields "delivery" RunmillDeliveryAuthorityV1.fromValue
  let policyDigest ← readField fields "policy_digest" asStr
  let harnessDigest ← readField fields "harness_digest" asStr
  return { schema, workOrderId, tenantId, workItemId, attemptId, idempotencyKey, source,
           repository, objective, scope, verification, identities, runtime, budgets, delivery,
           policyDigest, harnessDigest }

/-- The fields of `RunmillSignedWorkOrderV1`. -/
def envelopeNames : List String :=
  ["schema", "key_id", "algorithm", "issued_at", "not_before", "expires_at", "payload", "signature"]

def RunmillSignedWorkOrderV1.fromValue : Option RunmillSignedWorkOrderV1 := do
  let fields ← structFields envelopeNames value
  let schema ← readField fields "schema" asStr
  let keyId ← readField fields "key_id" asStr
  let algorithm ← readField fields "algorithm" asStr
  let issuedAt ← readField fields "issued_at" (readTime p)
  let notBefore ← readField fields "not_before" (readTime p)
  let expiresAt ← readField fields "expires_at" (readTime p)
  let payload ← readField fields "payload" (RunmillWorkOrderV1.fromValue p)
  let signature ← readField fields "signature" asStr
  return { schema, keyId, algorithm, issuedAt, notBefore, expiresAt, payload, signature }

end Decoding

/-! ## Reading what was written -/

theorem readField_of {α : Type} {name : String} {value : Json} {read : Json → Option α}
    (h : (Json.obj fields).field name = some value) : readField fields name read = read value := by
  rw [readField, h, Option.bind_some]

namespace RunmillSignedWorkOrderV1

/-- An object with a member that is not a field is refused. -/
theorem fromValue_eq_none {p : Primitives} (h : ∃ field ∈ fields, field.1 ∉ envelopeNames) :
    fromValue p (.obj fields) = none := by
  obtain ⟨field, hfield, hunknown⟩ := h
  have hrefused : structFields envelopeNames (.obj fields) = none := by
    rw [structFields, if_neg]
    rw [List.all_eq_true]
    intro hall
    exact hunknown (List.contains_iff_mem.mp (hall field hfield))
  rw [fromValue, hrefused]
  rfl

end RunmillSignedWorkOrderV1

end Asf.Contracts
