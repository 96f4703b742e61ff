import Mathlib.Data.Finset.Basic
import Asf.Common.Basic

/-!
# Identity profiles, budgets, closure targets and risk (`src/domain/identity.rs`,
`src/domain/authority.rs`, `src/domain/work_item.rs`)
-/

namespace Asf

/-- `MAX_PROFILE_NAME_BYTES` (identity.rs:10). -/
def maxProfileNameBytes : ℕ := 64

/-- `u8::is_ascii_alphanumeric`. -/
def isAsciiAlphanumeric (byte : UInt8) : Bool :=
  (48 ≤ byte && byte ≤ 57) || (65 ≤ byte && byte ≤ 90) || (97 ≤ byte && byte ≤ 122)

/-- `validate_profile_name` (identity.rs:110-127). -/
def isProfileName (name : List UInt8) : Bool :=
  !name.isEmpty && decide (name.length ≤ maxProfileNameBytes)
    && name.all (fun byte => isAsciiAlphanumeric byte || byte == 45 || byte == 95)
    && name.head?.any isAsciiAlphanumeric

/-- `CtxlaneProfileRef::from_str` (identity.rs:68-90): a provider, a colon and a
    name, which has no colon because `isProfileName` admits none. -/
def isProfileRef (value : String) : Bool :=
  let provider := (bytes value).takeWhile (· ≠ 58)
  (provider == bytes "claude" || provider == bytes "codex")
    && isProfileName ((bytes value).drop (provider.length + 1))

/-- `CtxlaneProfileRef` (identity.rs:37): only `from_str` builds one. -/
structure CtxlaneProfileRef where
  value : String
  valid : isProfileRef value
deriving DecidableEq

instance : ToString CtxlaneProfileRef := ⟨CtxlaneProfileRef.value⟩

/-- `WorkOrderIdentities` (identity.rs:150-154). -/
structure WorkOrderIdentities where
  (implementer localReviewer prReviewer : CtxlaneProfileRef)
deriving DecidableEq

/-- `WorkOrderIdentities::validate` (identity.rs:157-166). -/
def WorkOrderIdentities.validate (identities : WorkOrderIdentities) : Result Unit :=
  failIf (identities.implementer = identities.localReviewer
      ∨ identities.implementer = identities.prReviewer)
    (.validation "implementer and reviewer ctxlane profile references must differ")

/-- `BudgetLimits` (authority.rs:192-201). -/
structure BudgetLimits where
  (maxCostMicrounits maxInputTokens maxOutputTokens maxImplementerInvocations : ℕ)
  (maxReviewerInvocations maxFixIterations maxWallTimeSeconds maxExternalApiCalls : ℕ)
deriving DecidableEq

/-- `BudgetLimits::validate` (authority.rs:204-214). -/
def BudgetLimits.validate (limits : BudgetLimits) : Result Unit :=
  failIf (limits.maxWallTimeSeconds = 0 ∨ limits.maxImplementerInvocations = 0
      ∨ limits.maxReviewerInvocations = 0)
    (.validation "wall time and role invocation budgets must be positive")

/-- `ClosureTarget` (work_item.rs:13-23). -/
inductive ClosureTarget where
  | pullRequest | merge | deploy | observe
deriving DecidableEq

/-- `ClosureTarget::production_supported_v1` (work_item.rs:27-29). -/
def ClosureTarget.productionSupportedV1 (target : ClosureTarget) : Bool := target == .pullRequest

/-- `RiskClass` (work_item.rs:34-40). -/
inductive RiskClass where
  | low | medium | high | critical | unknown
deriving DecidableEq

/-- `RiskAssessment` (work_item.rs:217-223). -/
structure RiskAssessment where
  riskClass : RiskClass
  reasons : List String
  matchedRules : Finset String
deriving DecidableEq

end Asf
