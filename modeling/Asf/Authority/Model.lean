import Asf.Common.Domain
import Asf.Common.Text

/-!
# Execution authority (`src/domain/authority.rs`, `src/application/policy.rs`)

What a tenant, a repository and a Work Order allow an execution to do, the check
of one authority, and `intersect_authority`, which composes three of them. A
`BTreeSet<String>` is a finite set; where the code iterates over it, in
ascending order. `Url::parse` is a parameter.

Results:

* `PathAuthority.validate_eq_ok_iff`, `ExecutionAuthority.validate_eq_ok_iff`:
  what the two checks accept.
-/

namespace Asf.Authority

/-! ## Paths -/

/-- `PathAuthority` (lines 10-15). -/
structure PathAuthority where
  (allowed forbidden : Finset String)
deriving DecidableEq

variable (path : String) (pattern value : List UInt8) (reachable : Reachable)

/-- The condition of `validate_repo_path_pattern` (lines 61-71). -/
def isUnsafePattern : Bool :=
  path.isEmpty || startsWith path "/" || startsWith path "./" || endsWith path "/"
    || (splitSlash path).any (fun segment => segment.isEmpty || segment == "..")
    || hasChar path '\x00' || hasChar path '\\' || hasControl path

/-- `validate_repo_path_pattern` (lines 60-77). -/
def validateRepoPathPattern : Result Unit :=
  failIf (isUnsafePattern path) (.validation s!"unsafe repository path pattern: {debugText path}")

/-- `is_safe_repository_path` (lines 79-91). -/
def isSafeRepositoryPath : Bool :=
  !path.isEmpty && !startsWith path "/" && !startsWith path "./" && !endsWith path "/"
    && !hasChar path '*' && !hasChar path '?' && !hasChar path '\\' && !hasControl path
    && (splitSlash path).all fun segment => !segment.isEmpty && segment != "." && segment != ".."

/-- `reachable[pattern_index][value_index]` of `wildcard_matches`. -/
abbrev Reachable := List (List Bool)

/-- `reachable[i][j]`. -/
def Reachable.at_ (i j : ℕ) : Bool :=
  ((reachable[i]?.getD [])[j]?).getD false

/-- `reachable[i][j] = true`. -/
def Reachable.mark (i j : ℕ) : Reachable :=
  reachable.modify i fun row => row.set j true

/-- The body of the loops of `wildcard_matches` (lines 98-121). The bytes
    42, 47 and 63 are `*`, `/` and `?`. -/
def wildcardBody (i : ℕ) (reachable : Reachable) (j : ℕ) : Reachable :=
  if !reachable.at_ i j then reachable
  else if pattern[i]? = some 42 ∧ pattern[i + 1]? = some 42 then
    let reachable := reachable.mark (i + 2) j
    if j < value.length then reachable.mark i (j + 1) else reachable
  else if pattern[i]? = some 42 then
    let reachable := reachable.mark (i + 1) j
    if value[j]?.any (· ≠ 47) then reachable.mark i (j + 1) else reachable
  else if pattern[i]? = some 63 ∧ value[j]?.any (· ≠ 47) then reachable.mark (i + 1) (j + 1)
  else if pattern[i]? ≠ none ∧ value[j]? = pattern[i]? then reachable.mark (i + 1) (j + 1)
  else reachable

/-- `wildcard_matches` (lines 93-124). -/
def wildcardMatches : Bool :=
  let empty := List.replicate (pattern.length + 1) (List.replicate (value.length + 1) false)
  let reachable := (List.range pattern.length).foldl
    (fun reachable i =>
      (List.range (value.length + 1)).foldl (wildcardBody pattern value i) reachable)
    (Reachable.mark empty 0 0)
  reachable.at_ pattern.length value.length

/-- Whether the path matches one of the patterns. -/
def matchesAny (patterns : Finset String) (path : String) : Prop :=
  ∃ pattern ∈ patterns, wildcardMatches (bytes pattern) (bytes path)

instance (patterns : Finset String) (path : String) : Decidable (matchesAny patterns path) :=
  inferInstanceAs (Decidable (∃ pattern ∈ patterns, _))

namespace PathAuthority

/-- `PathAuthority::validate` (lines 18-26). -/
def validate (authority : PathAuthority) : Result Unit := do
  failIf (authority.allowed = ∅) (.validation "allowed path scope is empty")
  (ascending authority.allowed ++ ascending authority.forbidden).forM validateRepoPathPattern

/-- `PathAuthority::intersect` (lines 30-42). -/
def intersect (authority restriction : PathAuthority) : PathAuthority where
  allowed := authority.allowed ∩ restriction.allowed
  forbidden := authority.forbidden ∪ restriction.forbidden

/-- `PathAuthority::allows_path` (lines 48-57). -/
def allowsPath (authority : PathAuthority) (path : String) : Bool :=
  isSafeRepositoryPath path && decide (matchesAny authority.allowed path)
    && !decide (matchesAny authority.forbidden path)

theorem validate_eq_ok_iff {authority : PathAuthority} :
    authority.validate = .ok () ↔ authority.allowed.Nonempty
      ∧ ∀ path, path ∈ authority.allowed ∨ path ∈ authority.forbidden →
        isUnsafePattern path = false := by
  rw [validate, failIf_bind_eq_ok_iff, forM_eq_ok_iff, Finset.nonempty_iff_ne_empty]
  simp [validateRepoPathPattern]

end PathAuthority

/-! ## Tools, effects and budgets -/

/-- `ToolAuthority` (lines 126-132). -/
structure ToolAuthority where
  (allowedTools allowedCommands networkDestinations : Finset String)
deriving DecidableEq

/-- `ToolAuthority::intersect` (lines 136-154). -/
def ToolAuthority.intersect (authority restriction : ToolAuthority) : ToolAuthority where
  allowedTools := authority.allowedTools ∩ restriction.allowedTools
  allowedCommands := authority.allowedCommands ∩ restriction.allowedCommands
  networkDestinations := authority.networkDestinations ∩ restriction.networkDestinations

/-- `DeliveryPermission` (lines 157-164). -/
inductive DeliveryPermission where
  | none | pullRequest | mergeQueue | directMerge
deriving DecidableEq

namespace DeliveryPermission

/-- `DeliveryPermission::restrict` (lines 168-177). -/
def restrict : DeliveryPermission → DeliveryPermission → DeliveryPermission
  | .none, _ => .none
  | _, .none => .none
  | .pullRequest, _ => .pullRequest
  | _, .pullRequest => .pullRequest
  | .mergeQueue, _ => .mergeQueue
  | _, .mergeQueue => .mergeQueue
  | .directMerge, .directMerge => .directMerge

/-- How much a permission allows. -/
def rank : DeliveryPermission → ℕ
  | .none => 0
  | .pullRequest => 1
  | .mergeQueue => 2
  | .directMerge => 3

theorem rank_injective : Function.Injective rank := by
  intro a b
  cases a <;> cases b <;> simp [rank]

/-- `None < PullRequest < MergeQueue < DirectMerge`. -/
instance : LinearOrder DeliveryPermission := LinearOrder.lift' rank rank_injective

theorem restrict_eq_min (a b : DeliveryPermission) : a.restrict b = min a b := by
  cases a <;> cases b <;> decide

end DeliveryPermission

/-- `EffectAuthority` (lines 180-187). -/
structure EffectAuthority where
  delivery : DeliveryPermission
  (mayComment mayUpdateChecks : Bool)
  deploymentEnvironment : Option String
deriving DecidableEq

/-- `BudgetLimits::restrict` (lines 222-240). -/
def restrictBudgets (limits other : BudgetLimits) : BudgetLimits where
  maxCostMicrounits := min limits.maxCostMicrounits other.maxCostMicrounits
  maxInputTokens := min limits.maxInputTokens other.maxInputTokens
  maxOutputTokens := min limits.maxOutputTokens other.maxOutputTokens
  maxImplementerInvocations := min limits.maxImplementerInvocations other.maxImplementerInvocations
  maxReviewerInvocations := min limits.maxReviewerInvocations other.maxReviewerInvocations
  maxFixIterations := min limits.maxFixIterations other.maxFixIterations
  maxWallTimeSeconds := min limits.maxWallTimeSeconds other.maxWallTimeSeconds
  maxExternalApiCalls := min limits.maxExternalApiCalls other.maxExternalApiCalls

/-! ## The whole authority -/

/-- `ExecutionAuthority` (lines 243-252). -/
structure ExecutionAuthority where
  paths : PathAuthority
  tools : ToolAuthority
  effects : EffectAuthority
  budgets : BudgetLimits
  requiredApprovalTypes : Finset String
  sandboxPolicyRef : String
deriving DecidableEq

/-- What the check reads of a parsed `url::Url`. -/
structure Url where
  scheme : String
  hostStr : Option String
  username : String
  password : Option String
deriving DecidableEq

variable (parseUrl : String → Except String Url) (destination : String)

/-- The check of one network destination (lines 295-312). -/
def validateDestination : Result Unit :=
  match parseUrl destination with
  | .error error =>
    .error (.validation s!"invalid network destination {debugText destination}: {error}")
  | .ok url =>
    failIf (¬ (url.scheme = "https" ∨ url.scheme = "ssh") ∨ url.hostStr = none
        ∨ url.username ≠ "" ∨ url.password ≠ none)
      (.validation ("network destination must be a credential-free https or ssh endpoint: "
        ++ destination))

/-- The check of one named text (lines 274-279). -/
def validateLabelled (label value : String) : Result Unit :=
  failIf (isUnreadable value)
    (.validation s!"authority {label} must be non-empty and contain no control characters")

namespace ExecutionAuthority

/-- `ExecutionAuthority::validate` (lines 255-315). -/
def validate (authority : ExecutionAuthority) : Result Unit := do
  authority.paths.validate
  authority.budgets.validate
  (ascending authority.tools.allowedTools).forM (validateLabelled "tool")
  (ascending authority.tools.allowedCommands).forM (validateLabelled "command")
  (ascending authority.requiredApprovalTypes).forM (validateLabelled "approval type")
  failIf (isUnreadable authority.sandboxPolicyRef)
    (.validation "sandbox policy reference must be non-empty and contain no control characters")
  failIf (authority.effects.deploymentEnvironment.any isUnreadable)
    (.validation "deployment environment must be non-empty and contain no control characters")
  (ascending authority.tools.networkDestinations).forM (validateDestination parseUrl)

end ExecutionAuthority

/-! ## What the check accepts -/

/-- The destinations `validate` accepts. -/
def IsCredentialFree : Prop :=
  validateDestination parseUrl destination = .ok ()

/-- What `ExecutionAuthority::validate` accepts. -/
@[mk_iff] structure WellFormed (parseUrl : String → Except String Url)
    (authority : ExecutionAuthority) : Prop where
  allowed_nonempty : authority.paths.allowed.Nonempty
  patterns_safe : ∀ path, path ∈ authority.paths.allowed ∨ path ∈ authority.paths.forbidden →
    isUnsafePattern path = false
  budgets_positive : authority.budgets.maxWallTimeSeconds ≠ 0
    ∧ authority.budgets.maxImplementerInvocations ≠ 0
    ∧ authority.budgets.maxReviewerInvocations ≠ 0
  texts_readable : ∀ value, value ∈ authority.tools.allowedTools
    ∨ value ∈ authority.tools.allowedCommands ∨ value ∈ authority.requiredApprovalTypes →
      isUnreadable value = false
  sandbox_readable : isUnreadable authority.sandboxPolicyRef = false
  environment_readable : ∀ environment ∈ authority.effects.deploymentEnvironment,
    isUnreadable environment = false
  destinations_free : ∀ destination ∈ authority.tools.networkDestinations,
    IsCredentialFree parseUrl destination

theorem ExecutionAuthority.validate_eq_ok_iff {parseUrl : String → Except String Url}
    {authority : ExecutionAuthority} :
    authority.validate parseUrl = .ok () ↔ WellFormed parseUrl authority := by
  have hbudgets : authority.budgets.validate = .ok () ↔ authority.budgets.maxWallTimeSeconds ≠ 0
      ∧ authority.budgets.maxImplementerInvocations ≠ 0
      ∧ authority.budgets.maxReviewerInvocations ≠ 0 := by
    simp [BudgetLimits.validate]
  have henvironment : ¬ authority.effects.deploymentEnvironment.any isUnreadable
      ↔ ∀ environment ∈ authority.effects.deploymentEnvironment,
        isUnreadable environment = false := by
    cases authority.effects.deploymentEnvironment <;> simp
  simp only [validate, seq_eq_ok_iff, forM_eq_ok_iff, mem_ascending, failIf_eq_ok_iff,
    PathAuthority.validate_eq_ok_iff, validateLabelled, hbudgets, henvironment, wellFormed_iff,
    IsCredentialFree, Bool.not_eq_true, or_imp, forall_and, and_assoc]

/-! ## Composition -/

/-- The reference that marks mismatched sandbox policies (policy.rs:60). -/
def mismatchedSandboxPolicy : String := "refused:mismatched-sandbox-policy"

/-- `if a == b && b == c { a } else { otherwise }`. -/
def agreed {α : Type} [DecidableEq α] (a b c otherwise : α) : α :=
  if a = b ∧ b = c then a else otherwise

theorem agreed_eq_some_iff {α : Type} [DecidableEq α] {a b c : Option α} {x : α} :
    agreed a b c none = some x ↔ a = some x ∧ b = some x ∧ c = some x := by
  unfold agreed
  constructor
  · intro h
    split_ifs at h with heq
    obtain ⟨rfl, rfl⟩ := heq
    exact ⟨h, h, h⟩
  · rintro ⟨rfl, rfl, rfl⟩
    simp

/-- `intersect_authority` (policy.rs:5-63). -/
def intersectAuthority (tenant repository workOrder : ExecutionAuthority) :
    ExecutionAuthority where
  paths := (tenant.paths.intersect repository.paths).intersect workOrder.paths
  tools := (tenant.tools.intersect repository.tools).intersect workOrder.tools
  effects :=
    { delivery := (tenant.effects.delivery.restrict repository.effects.delivery).restrict
        workOrder.effects.delivery
      mayComment := tenant.effects.mayComment && repository.effects.mayComment
        && workOrder.effects.mayComment
      mayUpdateChecks := tenant.effects.mayUpdateChecks && repository.effects.mayUpdateChecks
        && workOrder.effects.mayUpdateChecks
      deploymentEnvironment :=
        agreed tenant.effects.deploymentEnvironment repository.effects.deploymentEnvironment
          workOrder.effects.deploymentEnvironment none }
  budgets := restrictBudgets (restrictBudgets tenant.budgets repository.budgets) workOrder.budgets
  requiredApprovalTypes := tenant.requiredApprovalTypes ∪ repository.requiredApprovalTypes
    ∪ workOrder.requiredApprovalTypes
  sandboxPolicyRef :=
    agreed tenant.sandboxPolicyRef repository.sandboxPolicyRef workOrder.sandboxPolicyRef
      mismatchedSandboxPolicy

end Asf.Authority
