import Asf.Authority.Model

/-!
# Work Orders of the control plane (`src/contracts/work_order.rs`)

`WorkOrderV1::validate` checks a Work Order before it is signed, the authority it
carries last. `intersect_authority` marks mismatched sandbox policies by a
reference that the check of an authority takes for an ordinary one.

Results:

* `validate_authority`: a valid Work Order carries a valid authority.
* `sandbox_mismatch_refused_iff`: when an authority composed from mismatched
  sandbox policies is refused.
-/

namespace Asf.Contracts

open Authority

/-! ## The Work Order -/

/-- `CheckRequirements` (lines 23-28). -/
structure CheckRequirements where
  (localCheckIds remoteCiContexts : Finset String)
deriving DecidableEq

/-- `RepositoryTarget` (lines 30-39). -/
structure RepositoryTarget where
  (forge owner name baseRef baseSha : String)
deriving DecidableEq

/-- `ContractDigests` (lines 41-48). -/
structure ContractDigests where
  (policy repositoryPolicy planner harness : String)
deriving DecidableEq

/-- `WorkOrderV1` (lines 50-76), the fields its check reads. -/
structure WorkOrderV1 where
  (schema idempotencyKey sourceExternalId sourceSnapshotDigest sourceReference : String)
  repository : RepositoryTarget
  objective : String
  (acceptanceCriteria nonGoals : List String)
  checks : CheckRequirements
  risk : RiskAssessment
  identities : WorkOrderIdentities
  authority : ExecutionAuthority
  closureTarget : ClosureTarget
  digests : ContractDigests
  (issuedAt notBefore expiresAt : DateTime)
deriving DecidableEq

/-- `WORK_ORDER_SCHEMA_V1` (line 19). -/
def workOrderSchemaV1 : String := "asf.work-order/v1"

/-- `byte.is_ascii_hexdigit() && !byte.is_ascii_uppercase()`. -/
def isLowerHexByte (byte : UInt8) : Bool :=
  (48 ≤ byte && byte ≤ 57) || (97 ≤ byte && byte ≤ 102)

/-- `is_git_sha` (lines 196-201). -/
def isGitSha (value : String) : Bool :=
  ((bytes value).length == 40 || (bytes value).length == 64) && (bytes value).all isLowerHexByte

/-- `is_sha256_digest` (crypto.rs:18-25). -/
def isSha256Digest (value : String) : Bool :=
  startsWith value "sha256:" && ((bytes value).drop 7).length == 64
    && ((bytes value).drop 7).all isLowerHexByte

/-- Whether an item of the set is blank. -/
def anyBlank (items : Finset String) : Prop := ∃ item ∈ items, isBlank item

instance (items : Finset String) : Decidable (anyBlank items) :=
  inferInstanceAs (Decidable (∃ item ∈ items, _))

namespace WorkOrderV1

variable (order : WorkOrderV1)

/-- The fields that must not be blank (lines 86-111). -/
def isIncomplete : Prop :=
  isBlank order.idempotencyKey ∨ isBlank order.sourceExternalId ∨ isBlank order.sourceReference
    ∨ isBlank order.objective ∨ order.acceptanceCriteria = []
    ∨ order.acceptanceCriteria.any isBlank ∨ order.nonGoals.any isBlank
    ∨ anyBlank order.checks.localCheckIds ∨ anyBlank order.checks.remoteCiContexts
    ∨ isBlank order.repository.baseRef ∨ isBlank order.repository.baseSha

instance (order : WorkOrderV1) : Decidable order.isIncomplete := by
  unfold isIncomplete
  infer_instance

/-- The digests of a Work Order with their names (lines 123-129). -/
def namedDigests : List (String × String) :=
  [("source snapshot", order.sourceSnapshotDigest), ("policy", order.digests.policy),
    ("repository policy", order.digests.repositoryPolicy), ("planner", order.digests.planner),
    ("harness", order.digests.harness)]

/-- The checks before the identities and the authority (lines 80-181). -/
def validateFields : Result Unit := do
  failIf (order.schema ≠ workOrderSchemaV1)
    (.validation s!"unsupported Work Order schema: {order.schema}")
  failIf order.isIncomplete
    (.validation ("Work Order identity, source, objective, criteria, checks, and exact base must "
      ++ "be complete"))
  failIf (512 < (bytes order.idempotencyKey).length)
    (.validation "Work Order idempotency key exceeds 512 bytes")
  order.namedDigests.forM fun (name, digest) =>
    failIf (¬ isSha256Digest digest)
      (.validation s!"{name} digest must be a lowercase sha256 digest")
  failIf (order.repository.forge ≠ "github" ∨ isBlank order.repository.owner
      ∨ isBlank order.repository.name ∨ ¬ isGitSha order.repository.baseSha)
    (.validation "Work Order requires a GitHub repository and exact 40/64-hex base SHA")
  failIf (¬ order.closureTarget.productionSupportedV1)
    (.validation "only pull-request closure can be dispatched in V1")
  failIf (order.authority.effects.delivery ≠ .pullRequest
      ∨ order.authority.effects.deploymentEnvironment ≠ none)
    (.validation ("V1 pull-request Work Orders require exactly pull-request delivery authority "
      ++ "and no deployment scope"))
  failIf (order.risk.riskClass = .critical ∨ order.risk.riskClass = .unknown
      ∨ order.risk.reasons = [] ∨ order.risk.matchedRules = ∅ ∨ order.risk.reasons.any isBlank
      ∨ anyBlank order.risk.matchedRules)
    (.validation "V1 Work Order risk must be automatable and carry non-empty policy rationale")
  failIf (order.risk.riskClass = .high ∧ order.authority.requiredApprovalTypes = ∅)
    (.validation "high-risk V1 Work Orders require an explicit bound approval type")
  failIf (order.notBefore.nanos < order.issuedAt.nanos
      ∨ order.expiresAt.nanos ≤ order.notBefore.nanos)
    (.validation "Work Order timestamps must satisfy issued <= not-before < expiration")

/-- `WorkOrderV1::validate` (lines 79-184). -/
def validate (parseUrl : String → Except String Url) (order : WorkOrderV1) : Result Unit := do
  order.validateFields
  order.identities.validate
  order.authority.validate parseUrl

theorem validate_authority {parseUrl : String → Except String Url} {order : WorkOrderV1}
    (h : order.validate parseUrl = .ok ()) : order.authority.validate parseUrl = .ok () := by
  rw [validate, seq_eq_ok_iff, seq_eq_ok_iff] at h
  exact h.2.2

end WorkOrderV1

/-! ## Mismatched sandbox policies -/

/-- The check finds nothing to refuse in a composition, its sandbox policy aside,
    in terms of the three authorities. -/
@[mk_iff] structure Composable (parseUrl : String → Except String Url)
    (tenant repository workOrder : ExecutionAuthority) : Prop where
  /-- Some pattern is allowed by all three. -/
  allowed : ∃ path, path ∈ tenant.paths.allowed ∧ path ∈ repository.paths.allowed
    ∧ path ∈ workOrder.paths.allowed
  /-- The patterns all three allow and the patterns one of them forbids are safe. -/
  patterns : ∀ path, (path ∈ tenant.paths.allowed ∧ path ∈ repository.paths.allowed
      ∧ path ∈ workOrder.paths.allowed) ∨ path ∈ tenant.paths.forbidden
      ∨ path ∈ repository.paths.forbidden ∨ path ∈ workOrder.paths.forbidden →
    isUnsafePattern path = false
  /-- No budget that must be positive is zero. -/
  budgets : ∀ authority ∈ [tenant, repository, workOrder],
    authority.budgets.maxWallTimeSeconds ≠ 0 ∧ authority.budgets.maxImplementerInvocations ≠ 0
      ∧ authority.budgets.maxReviewerInvocations ≠ 0
  /-- The common tools and commands and all the approval types are readable. -/
  texts : ∀ value, (value ∈ tenant.tools.allowedTools ∧ value ∈ repository.tools.allowedTools
      ∧ value ∈ workOrder.tools.allowedTools)
      ∨ (value ∈ tenant.tools.allowedCommands ∧ value ∈ repository.tools.allowedCommands
        ∧ value ∈ workOrder.tools.allowedCommands)
      ∨ value ∈ tenant.requiredApprovalTypes ∨ value ∈ repository.requiredApprovalTypes
      ∨ value ∈ workOrder.requiredApprovalTypes →
    isUnreadable value = false
  /-- A deployment environment all three name is readable. -/
  environment : ∀ environment, tenant.effects.deploymentEnvironment = some environment →
    repository.effects.deploymentEnvironment = some environment →
    workOrder.effects.deploymentEnvironment = some environment → isUnreadable environment = false
  /-- The common network destinations are free of credentials. -/
  destinations : ∀ destination, destination ∈ tenant.tools.networkDestinations →
    destination ∈ repository.tools.networkDestinations →
    destination ∈ workOrder.tools.networkDestinations → IsCredentialFree parseUrl destination

section Mismatch

variable {parseUrl : String → Except String Url} {tenant repository workOrder : ExecutionAuthority}

theorem wellFormed_composition_iff
    (hmismatch : ¬ (tenant.sandboxPolicyRef = repository.sandboxPolicyRef
      ∧ repository.sandboxPolicyRef = workOrder.sandboxPolicyRef)) :
    WellFormed parseUrl (intersectAuthority tenant repository workOrder)
      ↔ Composable parseUrl tenant repository workOrder := by
  have hsandbox : isUnreadable (intersectAuthority tenant repository workOrder).sandboxPolicyRef
      = false := by
    have hmarked : (intersectAuthority tenant repository workOrder).sandboxPolicyRef
        = mismatchedSandboxPolicy := if_neg hmismatch
    rw [hmarked]
    decide
  have hbudgets : (∀ authority ∈ [tenant, repository, workOrder],
      authority.budgets.maxWallTimeSeconds ≠ 0 ∧ authority.budgets.maxImplementerInvocations ≠ 0
        ∧ authority.budgets.maxReviewerInvocations ≠ 0)
      ↔ let budgets := (intersectAuthority tenant repository workOrder).budgets
        budgets.maxWallTimeSeconds ≠ 0 ∧ budgets.maxImplementerInvocations ≠ 0
          ∧ budgets.maxReviewerInvocations ≠ 0 := by
    simp only [List.forall_mem_singleton, List.forall_mem_cons, intersectAuthority, restrictBudgets]
    omega
  rw [wellFormed_iff, composable_iff, hbudgets, and_iff_right hsandbox]
  simp only [intersectAuthority, PathAuthority.intersect, ToolAuthority.intersect, Finset.Nonempty,
    Finset.mem_inter, Finset.mem_union, and_assoc, or_assoc, Option.mem_def, agreed_eq_some_iff,
    and_imp]

/-- An authority composed from mismatched sandbox policies is refused exactly if
    it is not composable for another reason; then no Work Order that carries it
    is valid. -/
theorem sandbox_mismatch_refused_iff (parseUrl : String → Except String Url)
    (tenant repository workOrder : ExecutionAuthority)
    (hmismatch : ¬ (tenant.sandboxPolicyRef = repository.sandboxPolicyRef
      ∧ repository.sandboxPolicyRef = workOrder.sandboxPolicyRef)) :
    ((∃ error, (intersectAuthority tenant repository workOrder).validate parseUrl = .error error)
        ↔ ¬ Composable parseUrl tenant repository workOrder)
      ∧ (¬ Composable parseUrl tenant repository workOrder →
        ∀ order : WorkOrderV1, order.authority = intersectAuthority tenant repository workOrder →
          ∃ error, order.validate parseUrl = .error error) := by
  have hrefused {x : Result Unit} : (∃ error, x = .error error) ↔ ¬ x = .ok () := by
    cases x <;> simp
  have hcomposition : WellFormed parseUrl (intersectAuthority tenant repository workOrder) ↔ _ :=
    wellFormed_composition_iff hmismatch
  refine ⟨?_, ?_⟩
  · rw [hrefused, ExecutionAuthority.validate_eq_ok_iff, hcomposition]
  · intro hcomposable order hauthority
    rw [hrefused]
    intro hvalid
    have hwell := ExecutionAuthority.validate_eq_ok_iff.mp (WorkOrderV1.validate_authority hvalid)
    rw [hauthority, hcomposition] at hwell
    exact hcomposable hwell

end Mismatch

/-- An authority for the sandbox policy `reference`. -/
def sandboxed (reference : String) : ExecutionAuthority where
  paths := ⟨{"src/**"}, ∅⟩
  tools := ⟨{"shell"}, {"cargo test"}, ∅⟩
  effects := ⟨.pullRequest, false, false, none⟩
  budgets := ⟨1, 1, 1, 1, 1, 0, 1, 0⟩
  requiredApprovalTypes := ∅
  sandboxPolicyRef := reference

/-- The same without a common path. -/
def elsewhere (reference : String) : ExecutionAuthority :=
  { sandboxed reference with paths := ⟨{"docs/**"}, ∅⟩ }

theorem sandbox_mismatch_refused_disjoint :
    (sandboxed "linux-v1").sandboxPolicyRef ≠ (elsewhere "linux-v2").sandboxPolicyRef
      ∧ ∃ error, (intersectAuthority (sandboxed "linux-v1") (elsewhere "linux-v2")
        (sandboxed "linux-v1")).validate (fun _ => .error "relative URL without a base")
          = .error error := by
  refine ⟨by decide, ?_⟩
  refine (sandbox_mismatch_refused_iff _ _ _ _ (by decide)).1.mpr ?_
  rintro ⟨⟨path, ht, hr, -⟩, -⟩
  simp only [sandboxed, elsewhere, Finset.mem_singleton] at ht hr
  rw [ht] at hr
  exact absurd hr (by decide)

/-- A digest. -/
def sampleDigest : String := "sha256:" ++ String.ofList (List.replicate 64 '0')

theorem sampleDigest_isSha256Digest : isSha256Digest sampleDigest := by decide +kernel

/-- A Work Order that carries `authority`. -/
def ordered (authority : ExecutionAuthority) : WorkOrderV1 where
  schema := "asf.work-order/v1"
  idempotencyKey := "key"
  sourceExternalId := "1"
  sourceSnapshotDigest := sampleDigest
  sourceReference := "issue"
  repository := ⟨"github", "owner", "name", "main", String.ofList (List.replicate 40 '0')⟩
  objective := "objective"
  acceptanceCriteria := ["criterion"]
  nonGoals := []
  checks := ⟨∅, ∅⟩
  risk := ⟨.low, ["reason"], {"rule"}⟩
  identities :=
    ⟨⟨"claude:writer", by decide⟩, ⟨"claude:reviewer", by decide⟩, ⟨"codex:reviewer", by decide⟩⟩
  authority := authority
  closureTarget := .pullRequest
  digests := ⟨sampleDigest, sampleDigest, sampleDigest, sampleDigest⟩
  issuedAt := ⟨0⟩
  notBefore := ⟨0⟩
  expiresAt := ⟨1⟩

/-- Two sandbox policies are composed, and the result is accepted, also in a
    Work Order. -/
theorem mismatched_sandbox_accepted :
    let composed := intersectAuthority (sandboxed "linux-v1") (sandboxed "linux-v2")
      (sandboxed "linux-v1")
    (sandboxed "linux-v1").sandboxPolicyRef ≠ (sandboxed "linux-v2").sandboxPolicyRef
      ∧ composed.sandboxPolicyRef = "refused:mismatched-sandbox-policy"
      ∧ ∀ parseUrl, composed.validate parseUrl = .ok ()
        ∧ (ordered composed).validate parseUrl = .ok () := by
  intro composed
  refine ⟨by decide, by decide, fun parseUrl => ?_⟩
  have hcomposable : Composable parseUrl (sandboxed "linux-v1") (sandboxed "linux-v2")
      (sandboxed "linux-v1") :=
    { allowed := ⟨"src/**", by decide⟩
      patterns := by
        intro path hpath
        simp only [sandboxed, Finset.mem_singleton, Finset.notMem_empty, or_false,
          and_self] at hpath
        rw [hpath]
        decide
      budgets := by decide
      texts := by
        intro value hvalue
        simp only [sandboxed, Finset.mem_singleton, Finset.notMem_empty, or_false, and_self]
          at hvalue
        rcases hvalue with rfl | rfl <;> decide
      environment := fun _ h => nomatch h
      destinations := fun _ h => absurd h (Finset.notMem_empty _) }
  have hvalid : composed.validate parseUrl = .ok () :=
    ExecutionAuthority.validate_eq_ok_iff.mpr
      ((wellFormed_composition_iff (by decide)).mpr hcomposable)
  have hfields : (ordered composed).validateFields = .ok () := by
    decide +kernel
  refine ⟨hvalid, ?_⟩
  rw [WorkOrderV1.validate, seq_eq_ok_iff, seq_eq_ok_iff]
  exact ⟨hfields, by decide, hvalid⟩

end Asf.Contracts
