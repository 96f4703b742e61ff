import Mathlib.Data.Fin.VecNotation
import Mathlib.Data.Fintype.Perm
import Asf.Authority.Model

/-!
# Composition of authorities only removes powers

`intersect_authority` composes the authorities of a tenant, a repository and a
Work Order. The result is within each of the three, does not depend on their
order, and gives an authority back from three copies of it.

Results:

* `allowsPath_mono`: fewer allowed and more forbidden patterns allow fewer
  paths, whatever the patterns match.
* `composition_narrows`: the composition of three authorities.
-/

namespace Asf.Authority

open Finset (inter_right_comm inter_subset_left subset_union_left)
open DeliveryPermission (restrict_eq_min)

/-- `inner` grants nothing that `outer` does not. -/
structure Within (inner outer : ExecutionAuthority) : Prop where
  paths : ∀ path, inner.paths.allowsPath path → outer.paths.allowsPath path
  tools : inner.tools.allowedTools ⊆ outer.tools.allowedTools
  commands : inner.tools.allowedCommands ⊆ outer.tools.allowedCommands
  destinations : inner.tools.networkDestinations ⊆ outer.tools.networkDestinations
  cost : inner.budgets.maxCostMicrounits ≤ outer.budgets.maxCostMicrounits
  inputTokens : inner.budgets.maxInputTokens ≤ outer.budgets.maxInputTokens
  outputTokens : inner.budgets.maxOutputTokens ≤ outer.budgets.maxOutputTokens
  implementers : inner.budgets.maxImplementerInvocations ≤ outer.budgets.maxImplementerInvocations
  reviewers : inner.budgets.maxReviewerInvocations ≤ outer.budgets.maxReviewerInvocations
  fixIterations : inner.budgets.maxFixIterations ≤ outer.budgets.maxFixIterations
  wallTime : inner.budgets.maxWallTimeSeconds ≤ outer.budgets.maxWallTimeSeconds
  apiCalls : inner.budgets.maxExternalApiCalls ≤ outer.budgets.maxExternalApiCalls
  delivery : inner.effects.delivery ≤ outer.effects.delivery
  mayComment : inner.effects.mayComment → outer.effects.mayComment
  mayUpdateChecks : inner.effects.mayUpdateChecks → outer.effects.mayUpdateChecks
  approvals : outer.requiredApprovalTypes ⊆ inner.requiredApprovalTypes
  environment : ∀ environment, inner.effects.deploymentEnvironment = some environment →
    outer.effects.deploymentEnvironment = some environment

/-! ## Paths -/

theorem matchesAny_mono {patterns more : Finset String} (h : patterns ⊆ more) {path : String}
    (hmatch : matchesAny patterns path) : matchesAny more path := by
  obtain ⟨pattern, hmem, hmatches⟩ := hmatch
  exact ⟨pattern, h hmem, hmatches⟩

/-- Deny rules win, so more of them allow less. -/
theorem allowsPath_mono {inner outer : PathAuthority} (hallowed : inner.allowed ⊆ outer.allowed)
    (hforbidden : outer.forbidden ⊆ inner.forbidden) {path : String}
    (h : inner.allowsPath path) : outer.allowsPath path := by
  simp only [PathAuthority.allowsPath, Bool.and_eq_true, Bool.not_eq_true', decide_eq_true_eq,
    decide_eq_false_iff_not] at h ⊢
  obtain ⟨⟨hsafe, hmatch⟩, hdeny⟩ := h
  exact ⟨⟨hsafe, matchesAny_mono hallowed hmatch⟩,
    fun hmatches => hdeny (matchesAny_mono hforbidden hmatches)⟩

/-! ## The parts of a composition -/

theorem PathAuthority.intersect_comm (a b : PathAuthority) : a.intersect b = b.intersect a := by
  simp [intersect, Finset.inter_comm, Finset.union_comm]

theorem PathAuthority.intersect_right_comm (a b c : PathAuthority) :
    (a.intersect b).intersect c = (a.intersect c).intersect b := by
  simp [intersect, inter_right_comm _ b.allowed, Finset.union_right_comm _ b.forbidden]

@[simp] theorem PathAuthority.intersect_self (a : PathAuthority) : a.intersect a = a := by
  simp [intersect]

theorem ToolAuthority.intersect_comm (a b : ToolAuthority) : a.intersect b = b.intersect a := by
  simp [intersect, Finset.inter_comm]

theorem ToolAuthority.intersect_right_comm (a b c : ToolAuthority) :
    (a.intersect b).intersect c = (a.intersect c).intersect b := by
  simp [intersect, inter_right_comm _ b.allowedTools,
    inter_right_comm _ b.allowedCommands, inter_right_comm _ b.networkDestinations]

@[simp] theorem ToolAuthority.intersect_self (a : ToolAuthority) : a.intersect a = a := by
  simp [intersect]

theorem restrictBudgets_comm (a b : BudgetLimits) : restrictBudgets a b = restrictBudgets b a := by
  simp [restrictBudgets, min_comm]

theorem restrictBudgets_right_comm (a b c : BudgetLimits) :
    restrictBudgets (restrictBudgets a b) c = restrictBudgets (restrictBudgets a c) b := by
  simp [restrictBudgets, min_right_comm _ b.maxCostMicrounits, min_right_comm _ b.maxInputTokens,
    min_right_comm _ b.maxOutputTokens, min_right_comm _ b.maxImplementerInvocations,
    min_right_comm _ b.maxReviewerInvocations, min_right_comm _ b.maxFixIterations,
    min_right_comm _ b.maxWallTimeSeconds, min_right_comm _ b.maxExternalApiCalls]

@[simp] theorem restrictBudgets_self (a : BudgetLimits) : restrictBudgets a a = a := by
  simp [restrictBudgets]

section Agreed

variable {α : Type} [DecidableEq α] (a b c otherwise : α)

theorem agreed_swap_left : agreed b a c otherwise = agreed a b c otherwise := by
  unfold agreed
  by_cases h : a = b
  · simp [h]
  · simp [h, Ne.symm h]

theorem agreed_swap_right : agreed a c b otherwise = agreed a b c otherwise := by
  unfold agreed
  by_cases h : b = c
  · simp [h]
  · simp [h, Ne.symm h]

@[simp] theorem agreed_self : agreed a a a otherwise = a := by simp [agreed]

end Agreed

/-! ## The order of the three does not matter -/

section Order

variable (a b c : ExecutionAuthority)

theorem intersectAuthority_swap_left : intersectAuthority b a c = intersectAuthority a b c := by
  simp [intersectAuthority, a.paths.intersect_comm b.paths, a.tools.intersect_comm b.tools,
    restrictBudgets_comm a.budgets, restrict_eq_min, min_comm a.effects.delivery,
    Bool.and_comm a.effects.mayComment, Bool.and_comm a.effects.mayUpdateChecks,
    Finset.union_comm a.requiredApprovalTypes, agreed_swap_left a.effects.deploymentEnvironment,
    agreed_swap_left a.sandboxPolicyRef]

theorem intersectAuthority_swap_right : intersectAuthority a c b = intersectAuthority a b c := by
  simp [intersectAuthority, PathAuthority.intersect_right_comm _ b.paths,
    ToolAuthority.intersect_right_comm _ b.tools, restrictBudgets_right_comm _ b.budgets,
    restrict_eq_min, min_right_comm _ b.effects.delivery,
    Bool.and_right_comm _ b.effects.mayComment, Bool.and_right_comm _ b.effects.mayUpdateChecks,
    Finset.union_right_comm _ b.requiredApprovalTypes,
    agreed_swap_right _ b.effects.deploymentEnvironment, agreed_swap_right _ b.sandboxPolicyRef]

/-- Every order of three is reached by swapping neighbours. -/
theorem intersectAuthority_perm (σ : Equiv.Perm (Fin 3))
    (authorities : Fin 3 → ExecutionAuthority) :
    intersectAuthority (authorities (σ 0)) (authorities (σ 1)) (authorities (σ 2))
      = intersectAuthority (authorities 0) (authorities 1) (authorities 2) := by
  have horders : ∀ σ : Equiv.Perm (Fin 3), (σ 0 = 0 ∧ σ 1 = 1 ∧ σ 2 = 2)
      ∨ (σ 0 = 0 ∧ σ 1 = 2 ∧ σ 2 = 1) ∨ (σ 0 = 1 ∧ σ 1 = 0 ∧ σ 2 = 2)
      ∨ (σ 0 = 1 ∧ σ 1 = 2 ∧ σ 2 = 0) ∨ (σ 0 = 2 ∧ σ 1 = 0 ∧ σ 2 = 1)
      ∨ (σ 0 = 2 ∧ σ 1 = 1 ∧ σ 2 = 0) := by decide
  rcases horders σ with ⟨h0, h1, h2⟩ | ⟨h0, h1, h2⟩ | ⟨h0, h1, h2⟩ | ⟨h0, h1, h2⟩ | ⟨h0, h1, h2⟩
    | ⟨h0, h1, h2⟩ <;> rw [h0, h1, h2]
  · rw [intersectAuthority_swap_right]
  · rw [intersectAuthority_swap_left]
  · rw [intersectAuthority_swap_right, intersectAuthority_swap_left]
  · rw [intersectAuthority_swap_left, intersectAuthority_swap_right]
  · rw [intersectAuthority_swap_left, intersectAuthority_swap_right, intersectAuthority_swap_left]

theorem intersectAuthority_self : intersectAuthority a a a = a := by
  simp [intersectAuthority, restrict_eq_min]

/-! ## The result is within each of the three -/

theorem within_tenant : Within (intersectAuthority a b c) a where
  paths path := allowsPath_mono (inter_subset_left.trans inter_subset_left)
    (subset_union_left.trans subset_union_left)
  tools := inter_subset_left.trans inter_subset_left
  commands := inter_subset_left.trans inter_subset_left
  destinations := inter_subset_left.trans inter_subset_left
  cost := (min_le_left _ _).trans (min_le_left _ _)
  inputTokens := (min_le_left _ _).trans (min_le_left _ _)
  outputTokens := (min_le_left _ _).trans (min_le_left _ _)
  implementers := (min_le_left _ _).trans (min_le_left _ _)
  reviewers := (min_le_left _ _).trans (min_le_left _ _)
  fixIterations := (min_le_left _ _).trans (min_le_left _ _)
  wallTime := (min_le_left _ _).trans (min_le_left _ _)
  apiCalls := (min_le_left _ _).trans (min_le_left _ _)
  delivery := by
    simp only [intersectAuthority, restrict_eq_min]
    exact (min_le_left _ _).trans (min_le_left _ _)
  mayComment h := by
    simp only [intersectAuthority, Bool.and_eq_true] at h
    exact h.1.1
  mayUpdateChecks h := by
    simp only [intersectAuthority, Bool.and_eq_true] at h
    exact h.1.1
  approvals := subset_union_left.trans subset_union_left
  environment _ h := (agreed_eq_some_iff.mp h).1

theorem within_repository : Within (intersectAuthority a b c) b := by
  rw [← intersectAuthority_swap_left]
  exact within_tenant b a c

theorem within_workOrder : Within (intersectAuthority a b c) c := by
  rw [← intersectAuthority_swap_right]
  exact within_repository a c b

end Order

/-- Composition never widens an authority. -/
theorem composition_narrows (tenant repository workOrder : ExecutionAuthority) :
    (Within (intersectAuthority tenant repository workOrder) tenant
        ∧ Within (intersectAuthority tenant repository workOrder) repository
        ∧ Within (intersectAuthority tenant repository workOrder) workOrder)
      ∧ (∀ σ : Equiv.Perm (Fin 3),
        let authorities := ![tenant, repository, workOrder]
        intersectAuthority (authorities (σ 0)) (authorities (σ 1)) (authorities (σ 2))
          = intersectAuthority tenant repository workOrder)
      ∧ ∀ authority, intersectAuthority authority authority authority = authority :=
  ⟨⟨within_tenant .., within_repository .., within_workOrder ..⟩,
    fun σ => intersectAuthority_perm σ ![tenant, repository, workOrder], intersectAuthority_self⟩

end Asf.Authority
