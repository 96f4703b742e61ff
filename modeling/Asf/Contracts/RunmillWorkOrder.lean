import Asf.Audit.Event
import Asf.Contracts.WorkOrder

/-!
# Runmill Work Orders (`src/contracts/runmill_work_order.rs`)

The payload that is signed for dispatch and its check. `max_cost_usd` is an
`f64`, kept as its 64 bits; the decimal that is printed for it is a parameter.

Results:

* `RunmillWorkOrderV1.validate_eq_ok_iff`: the payloads that are accepted.
-/

namespace Asf.Contracts

/-! ## The payload -/

/-- An `f64`. -/
structure F64 where
  bits : BitVec 64
deriving DecidableEq

/-- `f64::is_finite`: the exponent is not all ones. -/
def F64.isFinite (x : F64) : Bool := x.bits.extractLsb' 52 11 != BitVec.allOnes 11

/-- `f64::is_sign_negative`. -/
def F64.isSignNegative (x : F64) : Bool := x.bits.msb

/-- `RunmillWorkOrderSourceV1` (lines 24-30). -/
structure RunmillWorkOrderSourceV1 where
  (system externalId snapshotDigest : String)
deriving DecidableEq

/-- `RunmillRepositoryTargetV1` (lines 32-39). -/
structure RunmillRepositoryTargetV1 where
  (forge repository baseRef baseSha : String)
deriving DecidableEq

/-- `RunmillObjectiveV1` (lines 41-48). -/
structure RunmillObjectiveV1 where
  (title description : String)
  (acceptanceCriteria nonGoals : List String)
deriving DecidableEq

/-- `RunmillRiskClass` (lines 50-57). -/
inductive RunmillRiskClass where
  | low | medium | high | critical
deriving DecidableEq

def RunmillRiskClass.text : RunmillRiskClass → String
  | .low => "low"
  | .medium => "medium"
  | .high => "high"
  | .critical => "critical"

/-- `RunmillWorkScopeV1` (lines 59-65). -/
structure RunmillWorkScopeV1 where
  (allowedPaths forbiddenPaths : List String)
  riskClass : RunmillRiskClass
deriving DecidableEq

/-- `RunmillVerificationRequirementsV1` (lines 67-73). -/
structure RunmillVerificationRequirementsV1 where
  (requiredLocalCheckIds requiredRemoteChecks : List String)
  policySnapshotDigest : String
deriving DecidableEq

/-- `RunmillIdentityRequirementsV1` (lines 75-81). -/
structure RunmillIdentityRequirementsV1 where
  (implementer localReviewer prReviewer : String)
deriving DecidableEq

/-- `RunmillRuntimePolicyV1` (lines 83-89). -/
structure RunmillRuntimePolicyV1 where
  (sandboxProfile toolPolicy networkPolicy : String)
deriving DecidableEq

/-- `RunmillBudgetLimitsV1` (lines 91-98). -/
structure RunmillBudgetLimitsV1 where
  wallSeconds : ℕ
  maxCostUsd : F64
  (maxAgentInvocations maxFixIterations : ℕ)
deriving DecidableEq

/-- `RunmillWorkOrderClosureTarget` (lines 100-107). -/
inductive RunmillWorkOrderClosureTarget where
  | pr | merge | deploy | observe
deriving DecidableEq

def RunmillWorkOrderClosureTarget.text : RunmillWorkOrderClosureTarget → String
  | .pr => "pr"
  | .merge => "merge"
  | .deploy => "deploy"
  | .observe => "observe"

/-- `RunmillDeliveryAuthorityV1` (lines 109-115). -/
structure RunmillDeliveryAuthorityV1 where
  closureTarget : RunmillWorkOrderClosureTarget
  draftPr : Bool
  mergePolicyRef : Option String
deriving DecidableEq

/-- `RunmillWorkOrderV1` (lines 118-138). -/
structure RunmillWorkOrderV1 where
  (schema workOrderId tenantId workItemId attemptId idempotencyKey : String)
  source : RunmillWorkOrderSourceV1
  repository : RunmillRepositoryTargetV1
  objective : RunmillObjectiveV1
  scope : RunmillWorkScopeV1
  verification : RunmillVerificationRequirementsV1
  identities : RunmillIdentityRequirementsV1
  runtime : RunmillRuntimePolicyV1
  budgets : RunmillBudgetLimitsV1
  delivery : RunmillDeliveryAuthorityV1
  (policyDigest harnessDigest : String)
deriving DecidableEq

/-! ## Texts -/

/-- A text of the bytes `allowed`, of at most `bound` bytes, that starts with a
    letter or a digit: the shape of the identifier checks on both sides. -/
def isToken (bound : ℕ) (allowed : UInt8 → Bool) (value : String) : Bool :=
  !(bytes value).isEmpty && decide ((bytes value).length ≤ bound)
    && (bytes value).head?.any isAsciiAlphanumeric && (bytes value).all allowed

/-- The bytes of an identifier: letters, digits, `.`, `_` and `-`, and `:` where
    it is allowed. -/
def isIdentifierByte (allowColon : Bool) (byte : UInt8) : Bool :=
  isAsciiAlphanumeric byte || byte == 46 || byte == 95 || byte == 45 || (allowColon && byte == 58)

variable (value : String)

/-- `valid_identifier` (lines 446-455). -/
def validIdentifier (allowColon : Bool) : Bool :=
  isToken 256 (isIdentifierByte allowColon) value

/-- `valid_idempotency_key` (lines 457-464). -/
def validIdempotencyKey : Bool :=
  isToken 768
    (fun byte => isAsciiAlphanumeric byte || byte == 46 || byte == 95 || byte == 47 || byte == 45)
    value

/-- A component of a repository name (lines 468-470). -/
def validRepositoryComponent (component : String) : Bool :=
  !component.isEmpty && !component.toList.any isWhitespace

/-- `valid_repository` (lines 466-473). -/
def validRepository : Bool :=
  match splitSlash value with
  | [owner, name] => validRepositoryComponent owner && validRepositoryComponent name
  | _ => false

/-- `value.strip_prefix("refs/heads/")`. -/
def branchOf : Option String :=
  if startsWith value "refs/heads/" then some (String.ofList (value.toList.drop 11)) else none

/-- The bytes no branch name has (lines 484-488). -/
def isForbiddenRefByte (byte : UInt8) : Bool :=
  byte ≤ 0x20 || byte == 0x7f || byte == 126 || byte == 94 || byte == 58 || byte == 63 || byte == 42
    || byte == 91 || byte == 92

/-- `valid_base_ref` (lines 475-494). -/
def validBaseRef : Bool :=
  match branchOf value with
  | none => false
  | some branch =>
    !branch.isEmpty && !containsText branch ".." && !containsText branch "@\x7b"
      && !containsText branch "//" && !(endsWith branch "/" || endsWith branch ".")
      && !(bytes branch).any isForbiddenRefByte
      && (splitSlash branch).all fun component =>
        !component.isEmpty && !startsWith component "." && !endsWith component ".lock"

/-- `byte.is_ascii_hexdigit()`. -/
def isHexByte (byte : UInt8) : Bool := isLowerHexByte byte || (65 ≤ byte && byte ≤ 70)

/-- `valid_git_sha` (lines 496-498). -/
def validGitSha : Bool :=
  (bytes value).length == 40 && (bytes value).all isHexByte

/-- `valid_remote_check` (lines 500-505). -/
def validRemoteCheck : Bool :=
  !value.isEmpty && decide ((bytes value).length ≤ 512) && trim value == value && !hasControl value

/-! ## The check -/

namespace RunmillWorkOrderV1

section Order

variable (writeF64 : F64 → ℤ × ℕ) (order : RunmillWorkOrderV1)

/-- An array of texts. -/
def texts (values : List String) : Json := .arr (values.map .str)

/-- `serde_json::to_value(self)`, the members in the order of the declaration;
    `writeF64` are the digits and the scale that are printed for an `f64`. -/
def toValue : Json :=
  .obj [
    ("schema", .str order.schema),
    ("work_order_id", .str order.workOrderId),
    ("tenant_id", .str order.tenantId),
    ("work_item_id", .str order.workItemId),
    ("attempt_id", .str order.attemptId),
    ("idempotency_key", .str order.idempotencyKey),
    ("source", .obj [
      ("system", .str order.source.system),
      ("external_id", .str order.source.externalId),
      ("snapshot_digest", .str order.source.snapshotDigest)]),
    ("repository", .obj [
      ("forge", .str order.repository.forge),
      ("repository", .str order.repository.repository),
      ("base_ref", .str order.repository.baseRef),
      ("base_sha", .str order.repository.baseSha)]),
    ("objective", .obj [
      ("title", .str order.objective.title),
      ("description", .str order.objective.description),
      ("acceptance_criteria", texts order.objective.acceptanceCriteria),
      ("non_goals", texts order.objective.nonGoals)]),
    ("scope", .obj [
      ("allowed_paths", texts order.scope.allowedPaths),
      ("forbidden_paths", texts order.scope.forbiddenPaths),
      ("risk_class", .str order.scope.riskClass.text)]),
    ("verification", .obj [
      ("required_local_check_ids", texts order.verification.requiredLocalCheckIds),
      ("required_remote_checks", texts order.verification.requiredRemoteChecks),
      ("policy_snapshot_digest", .str order.verification.policySnapshotDigest)]),
    ("identities", .obj [
      ("implementer", .str order.identities.implementer),
      ("local_reviewer", .str order.identities.localReviewer),
      ("pr_reviewer", .str order.identities.prReviewer)]),
    ("runtime", .obj [
      ("sandbox_profile", .str order.runtime.sandboxProfile),
      ("tool_policy", .str order.runtime.toolPolicy),
      ("network_policy", .str order.runtime.networkPolicy)]),
    ("budgets", .obj [
      ("wall_seconds", .num order.budgets.wallSeconds 0),
      ("max_cost_usd",
        .num (writeF64 order.budgets.maxCostUsd).1 (writeF64 order.budgets.maxCostUsd).2),
      ("max_agent_invocations", .num order.budgets.maxAgentInvocations 0),
      ("max_fix_iterations", .num order.budgets.maxFixIterations 0)]),
    ("delivery", .obj [
      ("closure_target", .str order.delivery.closureTarget.text),
      ("draft_pr", .bool order.delivery.draftPr),
      ("merge_policy_ref", order.delivery.mergePolicyRef.elim .null .str)]),
    ("policy_digest", .str order.policyDigest),
    ("harness_digest", .str order.harnessDigest)]

/-- The keys of a payload's fields, in the order they are printed. -/
def payloadKeys : List String :=
  ["schema", "work_order_id", "tenant_id", "work_item_id", "attempt_id", "idempotency_key",
    "source", "system", "external_id", "snapshot_digest",
    "repository", "forge", "repository", "base_ref", "base_sha",
    "objective", "title", "description", "acceptance_criteria", "non_goals",
    "scope", "allowed_paths", "forbidden_paths", "risk_class",
    "verification", "required_local_check_ids", "required_remote_checks",
    "policy_snapshot_digest",
    "identities", "implementer", "local_reviewer", "pr_reviewer",
    "runtime", "sandbox_profile", "tool_policy", "network_policy",
    "budgets", "wall_seconds", "max_cost_usd", "max_agent_invocations", "max_fix_iterations",
    "delivery", "closure_target", "draft_pr", "merge_policy_ref",
    "policy_digest", "harness_digest"]

theorem keys_toValue : (order.toValue writeF64).keys = payloadKeys := by
  cases hpolicy : order.delivery.mergePolicyRef <;>
    simp [toValue, payloadKeys, texts, Json.keys, Json.fieldKeys, Json.itemKeys_map_str, hpolicy]

theorem payloadKeys_not_sensitive : ∀ key ∈ payloadKeys, ¬ isSensitiveKey key := by
  have hkeys : ∀ key ∈ payloadKeys, findsCode sensitiveCodes key = false := by decide +kernel
  exact fun key hkey => not_isSensitiveKey (hkeys key hkey)

/-- No field of a payload has a sensitive name, so that only the texts it carries
    are scanned. -/
theorem rejectSensitiveFields_toValue_iff :
    rejectSensitiveFields (order.toValue writeF64) = .ok () ↔
      ∀ text ∈ (order.toValue writeF64).strings, ¬ isCredentialShaped text := by
  rw [rejectSensitiveFields_eq_ok_iff, keys_toValue]
  exact and_iff_right payloadKeys_not_sensitive

/-- The identifiers with their labels (lines 148-158). -/
def identifiers : List (String × String) :=
  [("work-order ID", order.workOrderId), ("tenant ID", order.tenantId),
    ("work-item ID", order.workItemId), ("attempt ID", order.attemptId),
    ("source system", order.source.system), ("source external ID", order.source.externalId),
    ("forge", order.repository.forge), ("sandbox profile", order.runtime.sandboxProfile),
    ("tool policy", order.runtime.toolPolicy), ("network policy", order.runtime.networkPolicy)]

/-- The identities with their labels (lines 166-173). -/
def labelledIdentities : List (String × String) :=
  [("implementer identity", order.identities.implementer),
    ("local-reviewer identity", order.identities.localReviewer),
    ("PR-reviewer identity", order.identities.prReviewer)]

/-- `RunmillWorkOrderV1::validate` (lines 141-280). -/
def validate : Result Unit := do
  failIf (order.schema ≠ workOrderSchemaV1) (.validation "unsupported Runmill Work Order schema")
  order.identifiers.forM fun (label, value) =>
    failIf (¬ validIdentifier value false)
      (.validation s!"Runmill {label} is not a valid identifier")
  order.labelledIdentities.forM fun (label, value) =>
    failIf (¬ validIdentifier value true) (.validation s!"Runmill {label} is not a valid identity")
  failIf (order.idempotencyKey ≠ s!"{order.tenantId}/{order.workItemId}/{order.attemptId}"
      ∨ ¬ validIdempotencyKey order.idempotencyKey)
    (.validation "Runmill idempotency key must exactly bind tenant, work item, and attempt")
  failIf (¬ isSha256Digest order.source.snapshotDigest
      ∨ ¬ isSha256Digest order.verification.policySnapshotDigest
      ∨ ¬ isSha256Digest order.policyDigest ∨ ¬ isSha256Digest order.harnessDigest)
    (.validation "Runmill Work Order digests must be tagged lowercase SHA-256 values")
  failIf (¬ validRepository order.repository.repository ∨ ¬ validBaseRef order.repository.baseRef
      ∨ ¬ validGitSha order.repository.baseSha)
    (.validation "Runmill repository target is malformed or not bound to an exact branch SHA")
  failIf (order.objective.title.isEmpty ∨ 1024 < (bytes order.objective.title).length
      ∨ order.objective.description.isEmpty ∨ order.objective.acceptanceCriteria = []
      ∨ (order.objective.acceptanceCriteria ++ order.objective.nonGoals).any String.isEmpty)
    (.validation "Runmill objective and acceptance criteria must be complete")
  failIf (order.scope.allowedPaths = []
      ∨ (order.scope.allowedPaths ++ order.scope.forbiddenPaths).any fun path =>
        path.isEmpty || decide (1024 < (bytes path).length))
    (.validation "Runmill path scope must have bounded non-empty allow patterns")
  failIf ((order.verification.requiredLocalCheckIds.any fun check => !validIdentifier check false)
      ∨ order.verification.requiredRemoteChecks.any fun check => !validRemoteCheck check)
    (.validation "Runmill verification requirements contain an invalid check")
  failIf (order.budgets.wallSeconds = 0 ∨ ¬ order.budgets.maxCostUsd.isFinite
      ∨ order.budgets.maxCostUsd.isSignNegative ∨ order.budgets.maxAgentInvocations = 0)
    (.validation ("Runmill budgets require positive wall/invocation limits and finite "
      ++ "nonnegative cost"))
  failIf (order.delivery.closureTarget = .pr ∧ order.delivery.mergePolicyRef ≠ none)
    (.validation "a PR-only Runmill Work Order cannot carry merge authority")
  failIf (order.delivery.mergePolicyRef.any fun value =>
      value.isEmpty || decide (512 < (bytes value).length))
    (.validation "Runmill merge-policy reference is invalid")
  rejectSensitiveFields (order.toValue writeF64)

/-- Everything a payload is checked for. -/
@[mk_iff] structure Valid : Prop where
  schema : order.schema = workOrderSchemaV1
  identifiers : ∀ entry ∈ order.identifiers, validIdentifier entry.2 false
  identities : ∀ entry ∈ order.labelledIdentities, validIdentifier entry.2 true
  idempotencyKey_eq :
    order.idempotencyKey = s!"{order.tenantId}/{order.workItemId}/{order.attemptId}"
  idempotencyKey : validIdempotencyKey order.idempotencyKey
  snapshotDigest : isSha256Digest order.source.snapshotDigest
  policySnapshotDigest : isSha256Digest order.verification.policySnapshotDigest
  policyDigest : isSha256Digest order.policyDigest
  harnessDigest : isSha256Digest order.harnessDigest
  repository : validRepository order.repository.repository
  baseRef : validBaseRef order.repository.baseRef
  baseSha : validGitSha order.repository.baseSha
  title_ne_empty : ¬ order.objective.title.isEmpty
  title_length : (bytes order.objective.title).length ≤ 1024
  description_ne_empty : ¬ order.objective.description.isEmpty
  criteria_ne_nil : order.objective.acceptanceCriteria ≠ []
  texts_ne_empty : ∀ text ∈ order.objective.acceptanceCriteria ++ order.objective.nonGoals,
    ¬ text.isEmpty
  allowed_ne_nil : order.scope.allowedPaths ≠ []
  paths : ∀ path ∈ order.scope.allowedPaths ++ order.scope.forbiddenPaths,
    ¬ path.isEmpty ∧ (bytes path).length ≤ 1024
  localChecks : ∀ check ∈ order.verification.requiredLocalCheckIds, validIdentifier check false
  remoteChecks : ∀ check ∈ order.verification.requiredRemoteChecks, validRemoteCheck check
  wallSeconds : order.budgets.wallSeconds ≠ 0
  cost_finite : order.budgets.maxCostUsd.isFinite
  cost_nonnegative : ¬ order.budgets.maxCostUsd.isSignNegative
  agentInvocations : order.budgets.maxAgentInvocations ≠ 0
  mergePolicy_of_pr : order.delivery.closureTarget = .pr → order.delivery.mergePolicyRef = none
  mergePolicy : ∀ value ∈ order.delivery.mergePolicyRef,
    ¬ value.isEmpty ∧ (bytes value).length ≤ 512
  clean : ∀ text ∈ (order.toValue writeF64).strings, ¬ isCredentialShaped text

theorem validate_eq_ok_iff {writeF64 : F64 → ℤ × ℕ} {order : RunmillWorkOrderV1} :
    order.validate writeF64 = .ok () ↔ order.Valid writeF64 := by
  have hmerge : (¬ order.delivery.mergePolicyRef.any fun value =>
        value.isEmpty || decide (512 < (bytes value).length))
      ↔ ∀ value ∈ order.delivery.mergePolicyRef, ¬ value.isEmpty ∧ (bytes value).length ≤ 512 := by
    cases order.delivery.mergePolicyRef <;> simp
  simp only [validate, seq_eq_ok_iff, forM_eq_ok_iff, failIf_eq_ok_iff, hmerge,
    rejectSensitiveFields_toValue_iff]
  simp only [valid_iff, not_or, not_not, not_and, ne_eq, List.any_eq_true, not_exists,
    Bool.or_eq_true, Bool.not_eq_true', Bool.not_eq_false, decide_eq_true_eq, not_lt, and_assoc]

theorem slash_notMem_of_validIdentifier {value : String} {allowColon : Bool}
    (h : validIdentifier value allowColon) : '/' ∉ value.toList := by
  intro hmem
  have hbyte : (47 : UInt8) ∈ bytes value := List.mem_flatMap.mpr ⟨'/', hmem, by decide⟩
  simp only [validIdentifier, isToken, Bool.and_eq_true, List.all_eq_true] at h
  exact absurd (h.2 47 hbyte) (by cases allowColon <;> decide)

/-- The key of a valid payload is split into the three identifiers it was made of. -/
theorem Valid.splitSlash_idempotencyKey {writeF64 : F64 → ℤ × ℕ} {order : RunmillWorkOrderV1}
    (h : order.Valid writeF64) :
    splitSlash order.idempotencyKey = [order.tenantId, order.workItemId, order.attemptId] := by
  have hslash : ∀ entry ∈ order.identifiers, '/' ∉ entry.2.toList := fun entry hentry =>
    slash_notMem_of_validIdentifier (h.identifiers entry hentry)
  simp only [RunmillWorkOrderV1.identifiers, List.forall_mem_cons] at hslash
  obtain ⟨-, htenant, hitem, hattempt, -⟩ := hslash
  have hkey : order.idempotencyKey.toList = order.tenantId.toList ++ '/' ::
      (order.workItemId.toList ++ '/' :: order.attemptId.toList) := by
    rw [h.idempotencyKey_eq]
    simp [toString]
  rw [splitSlash, hkey, List.splitOn_append_cons_self_of_not_mem htenant,
    List.splitOn_append_cons_self_of_not_mem hitem, List.splitOn_eq_singleton hattempt]
  simp

/-- What a valid payload is known to satisfy where its evidence is checked
    later. -/
structure Checked : Prop where
  localReviewer : validIdentifier order.identities.localReviewer true
  prReviewer : validIdentifier order.identities.prReviewer true
  repository : validRepository order.repository.repository
  baseRef : validBaseRef order.repository.baseRef
  baseSha : validGitSha order.repository.baseSha
  allowed_ne_nil : order.scope.allowedPaths ≠ []
  paths_ne_empty : ∀ path ∈ order.scope.allowedPaths ++ order.scope.forbiddenPaths, path ≠ ""
  localChecks : ∀ check ∈ order.verification.requiredLocalCheckIds, validIdentifier check false
  remoteChecks : ∀ check ∈ order.verification.requiredRemoteChecks, validRemoteCheck check

end Order

theorem validate_checked {writeF64 : F64 → ℤ × ℕ} {order : RunmillWorkOrderV1}
    (h : order.validate writeF64 = .ok ()) : order.Checked := by
  have hvalid := validate_eq_ok_iff.mp h
  have hidentities := hvalid.identities
  simp only [labelledIdentities, List.forall_mem_cons] at hidentities
  exact
    { localReviewer := hidentities.2.1
      prReviewer := hidentities.2.2.1
      repository := hvalid.repository
      baseRef := hvalid.baseRef
      baseSha := hvalid.baseSha
      allowed_ne_nil := hvalid.allowed_ne_nil
      paths_ne_empty := fun path hpath hempty => (hvalid.paths path hpath).1 (by simp [hempty])
      localChecks := hvalid.localChecks
      remoteChecks := hvalid.remoteChecks }

end RunmillWorkOrderV1

end Asf.Contracts
