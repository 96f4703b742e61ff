import Asf.WorkerEvidence.Accepted

/-!
# What accepted evidence of a worker guarantees

Results:

* `verify_followsOrder`: accepted evidence keeps to the embedded Work Order and to what
  the control plane expects, if the cryptography is ideal.
* `approvals_present_iff`, `checks_uncontradicted_iff`: what the Work Order requires of
  approvals and local checks is in accepted evidence only where it requires nothing.
* `repositories_agree_iff`: when the three repositories of accepted evidence agree.
-/

namespace Asf.WorkerEvidence

open Lib Contracts Evidence EvidenceBundleV1 SignedEvidenceBundle
open Contracts.Instance (primitives)

/-! ## The embedded order -/

/-- The effect is of a kind that the authority permits. -/
def Permits (authority : Authority.EffectAuthority) (candidateSha : String)
    (effect : SideEffectEvidence) : Prop :=
  effect.effectType ∈ ["pull_request.create", "pull_request.update"]
      ∧ authority.delivery ≠ .none ∧ effect.candidateSha = some candidateSha
    ∨ effect.effectType ∈ ["comment.create", "comment.update"] ∧ authority.mayComment
    ∨ effect.effectType ∈ ["check.create", "check.update"] ∧ authority.mayUpdateChecks

/-- Usage within a budget. The count of effects saturates, so that the largest budget
    does not bound it. -/
@[mk_iff] structure WithinBudget (evidence : EvidenceBundleV1) (budget : BudgetLimits) : Prop where
  cost : evidence.usage.costMicrounits ≤ budget.maxCostMicrounits
  inputTokens : evidence.usage.inputTokens ≤ budget.maxInputTokens
  outputTokens : evidence.usage.outputTokens ≤ budget.maxOutputTokens
  implementer : evidence.usage.implementerInvocations ≤ budget.maxImplementerInvocations
  reviewer : evidence.usage.reviewerInvocations ≤ budget.maxReviewerInvocations
  fixIterations : evidence.usage.fixIterations ≤ budget.maxFixIterations
  wallTime : evidence.usage.wallTimeSeconds ≤ budget.maxWallTimeSeconds
  effects : evidence.sideEffects.length ≤ budget.maxExternalApiCalls
    ∨ 4294967295 ≤ budget.maxExternalApiCalls

/-- Evidence that keeps to the Work Order it embeds and to what is expected. `Signed`
    tells what the holder of a key signed; `payloads` and `orders` are the documents that
    no digest confuses. -/
structure FollowsOrder (p : Primitives) (Signed : VerifyingKey → List UInt8 → Prop)
    (payloads orders : Set Json) (bundle : SignedEvidenceBundle) (key : VerifyingKey)
    (expectation : EvidenceExpectation) : Prop where
  signed : ∃ message, bundle.protectedCanonicalBytes p = .ok message
    ∧ Signed key (domainSeparatedMessage SignedEvidenceBundle.envelopeSchemaV1 message)
  payloadDigest : ∀ document ∈ payloads, documentDigest p document = .ok bundle.payloadDigest →
    document = bundle.payload.toValue p
  orderSigned : ∃ message, bundle.payload.workOrder.protectedCanonicalBytes p = .ok message
    ∧ Signed expectation.asfWorkOrderKey (domainSeparatedMessage workOrderEnvelopeSchemaV1 message)
  orderDigest : ∀ document ∈ orders,
    documentDigest p document = .ok expectation.workOrderDigest →
      document = bundle.payload.workOrder.payload.toValue p
  candidateSha : bundle.payload.candidateSha = expectation.candidateSha
  paths : ∀ path ∈ bundle.payload.changedPaths,
    bundle.payload.workOrder.payload.authority.paths.allowsPath path
  budget : WithinBudget bundle.payload bundle.payload.workOrder.payload.authority.budgets
  identities : ∀ role, ∃ identity,
    bundle.payload.identityAttribution.filter (·.role == role) = [identity]
      ∧ identity.profileRef = profileFor bundle.payload.workOrder.payload.identities role
  outcomes : ∀ role, ∃ outcome, bundle.payload.roleOutcomes.filter (·.role == role) = [outcome]
    ∧ outcome.conclusion = .completed ∧ outcome.candidateSha = some expectation.candidateSha
  independence : ∃ implementer ∈ bundle.payload.identityAttribution,
    implementer.role = .implementer ∧ ∀ identity ∈ bundle.payload.identityAttribution,
      identity.role ≠ .implementer → identity.principalRef ≠ implementer.principalRef
  localChecks : ∀ required ∈ expectation.requiredLocalChecks, ∃ check ∈ bundle.payload.checks,
    check.checkId = required ∧ check.conclusion = .passed
      ∧ check.candidateSha = expectation.candidateSha
  review : ∃ reviewer ∈ bundle.payload.identityAttribution, reviewer.role = .prReviewer
    ∧ bundle.payload.review.reviewerProfile = reviewer.profileRef.value
    ∧ bundle.payload.review.reviewerPrincipal = reviewer.principalRef
    ∧ bundle.payload.review.candidateSha = expectation.candidateSha
    ∧ bundle.payload.review.independent ∧ bundle.payload.review.approved
  effects : ∀ effect ∈ bundle.payload.sideEffects,
    Permits bundle.payload.workOrder.payload.authority.effects expectation.candidateSha effect
      ∧ (effect.status = .confirmed ∨ effect.status = .reconciled)
      ∧ effect.observationDigest.isSome
  pullRequest : expectation.target = .pullRequest → ∃ pullRequest,
    bundle.payload.pullRequest = some pullRequest
      ∧ expectation.independentlyObservedPullRequest = some pullRequest

section FollowsOrder

variable {p : Primitives} {evidence : EvidenceBundleV1} {expectation : EvidenceExpectation}

theorem EvidenceBundleV1.authorized_iff {effect : SideEffectEvidence} :
    evidence.authorized effect
      ↔ Permits evidence.workOrder.payload.authority.effects evidence.candidateSha effect := by
  unfold authorized Permits
  simp only [List.mem_cons, List.not_mem_nil, or_false]
  split_ifs with hpull hcomment hcheck
  · rcases hpull with h | h <;> simp [h]
  · rcases hcomment with h | h <;> simp [h]
  · rcases hcheck with h | h <;> simp [h]
  · simp [hpull, hcomment, hcheck]

theorem EvidenceBundleV1.not_exceedsBudget_iff {budget : BudgetLimits} :
    ¬ evidence.exceedsBudget budget ↔ WithinBudget evidence budget := by
  simp only [exceedsBudget, externalEffects, not_or, not_lt, min_le_iff, withinBudget_iff]

/-- Three records that name all three roles name each of them once. -/
theorem exists_filter_role_eq {α : Type} {l : List α} {role : α → IdentityRole}
    (hlength : l.length = 3) (hroles : (l.map role).toFinset = EvidenceBundleV1.allRoles)
    (r : IdentityRole) : ∃ a ∈ l, l.filter (fun b => role b == r) = [a] := by
  have hnodup : (l.map role).Nodup := by
    rw [← Multiset.coe_nodup, ← Multiset.toFinset_card_eq_card_iff_nodup, Multiset.coe_card,
      List.length_map, hlength]
    exact congrArg Finset.card hroles
  have hmem : r ∈ (l.map role).toFinset := by
    rw [hroles]
    cases r <;> decide
  obtain ⟨a, ha, rfl⟩ := List.mem_map.mp (List.mem_toFinset.mp hmem)
  exact ⟨a, ha, filter_key_eq_singleton hnodup ha⟩

theorem EvidenceBundleV1.mem_passedChecks {required : String} :
    required ∈ evidence.passedChecks ↔ ∃ check ∈ evidence.checks, check.checkId = required
      ∧ check.conclusion = .passed ∧ check.candidateSha = evidence.candidateSha := by
  simp only [passedChecks, List.mem_toFinset, List.mem_map, List.mem_filter, decide_eq_true_eq,
    and_comm, and_assoc]

theorem EvidenceBundleV1.identityFor_eq_ok {role : IdentityRole} {identity : RoleIdentityEvidence}
    (h : evidence.identityFor role = .ok identity) :
    identity ∈ evidence.identityAttribution ∧ identity.role = role := by
  rw [identityFor, okOr_eq_ok_iff] at h
  exact ⟨List.mem_of_find?_eq_some h, by simpa using List.find?_some h⟩

/-- The identity of each role is the only one, and has the profile of the order. -/
theorem exists_identity (hshape : evidence.Shape) (hfrozen : evidence.FrozenAuthority)
    (role : IdentityRole) : ∃ identity,
      evidence.identityAttribution.filter (·.role == role) = [identity]
        ∧ identity.profileRef = profileFor evidence.workOrder.payload.identities role := by
  obtain ⟨identity, -, hfilter⟩ := exists_filter_role_eq hshape.identities hshape.roles role
  obtain ⟨found, hfound, hprofile⟩ := hfrozen.profiles role (by cases role <;> decide)
  obtain ⟨hmem, hrole⟩ := identityFor_eq_ok hfound
  have hsame : found ∈ [identity] := hfilter ▸ List.mem_filter.mpr ⟨hmem, by simp [hrole]⟩
  exact ⟨identity, hfilter, List.mem_singleton.mp hsame ▸ hprofile⟩

theorem exists_implementer (h : evidence.Shape) :
    ∃ implementer ∈ evidence.identityAttribution, implementer.role = .implementer
      ∧ ∀ identity ∈ evidence.identityAttribution,
        identity.role ≠ .implementer → identity.principalRef ≠ implementer.principalRef := by
  obtain ⟨implementer, hfind⟩ := Option.ne_none_iff_exists'.mp h.implementer
  refine ⟨implementer, List.mem_of_find?_eq_some hfind, by simpa using List.find?_some hfind, ?_⟩
  intro identity hmem hrole heq
  have hne := h.independent identity hmem hrole
  rw [hfind, Option.map_some, heq] at hne
  exact hne rfl

/-- Accepted evidence keeps to the embedded order. -/
theorem verify_followsOrder (p : Primitives) (Signed : VerifyingKey → List UInt8 → Prop)
    (payloads orders : Set Json) (hpayloads : Ideal p Signed payloads)
    (horders : Ideal p Signed orders) (bundle : SignedEvidenceBundle) (key : VerifyingKey)
    (expectation : EvidenceExpectation) (hpayload : bundle.payload.toValue p ∈ payloads)
    (horder : bundle.payload.workOrder.payload.toValue p ∈ orders)
    (hverify : bundle.verify p key expectation = .ok ()) :
    FollowsOrder p Signed payloads orders bundle key expectation := by
  obtain ⟨hsealed, hbound⟩ := verify_eq_ok_iff.mp hverify
  have hexpected := hbound.expected
  have hembedded := hbound.embedded
  simp only [EvidenceExpectation.differs, not_or, not_not, ne_eq] at hexpected
  simp only [EvidenceExpectation.misembedded, not_or, not_not, ne_eq] at hembedded
  obtain ⟨-, -, -, -, hdigest, -, -, hcandidate, -⟩ := hexpected
  obtain ⟨-, horderDigest, -⟩ := hembedded
  constructor
  case signed =>
    obtain ⟨message, hmessage, hsignature⟩ := hsealed.signature
    exact ⟨message, hmessage, hpayloads.signed hsignature⟩
  case payloadDigest =>
    intro document hdocument hsame
    exact hpayloads.collisionFree _ hdocument _ hpayload _ hsame hsealed.payloadDigest
  case orderSigned =>
    obtain ⟨message, hmessage, hsignature⟩ := hbound.authentic.signature
    exact ⟨message, hmessage, horders.signed hsignature⟩
  case orderDigest =>
    intro document hdocument hsame
    rw [← hdigest, ← horderDigest] at hsame
    exact horders.collisionFree _ hdocument _ horder _ hsame hbound.authentic.payloadDigest
  case candidateSha => exact hcandidate
  case paths => exact hbound.frozen.paths
  case budget => exact not_exceedsBudget_iff.mp hbound.frozen.budget
  case identities => exact exists_identity hsealed.shape hbound.frozen
  case outcomes =>
    intro role
    obtain ⟨outcome, hmem, hfilter⟩ := exists_filter_role_eq hsealed.shape.outcomes
      (hsealed.shape.outcomeRoles.trans hsealed.shape.roles) role
    obtain ⟨hcompleted, hsha⟩ := hsealed.shape.completed outcome hmem
    exact ⟨outcome, hfilter, hcompleted, hcandidate ▸ hsha⟩
  case independence => exact exists_implementer hsealed.shape
  case localChecks =>
    intro required hrequired
    rw [← hcandidate]
    exact mem_passedChecks.mp (hbound.localChecks hrequired)
  case review =>
    obtain ⟨reviewer, hfound, hprofile, hprincipal⟩ := hbound.reviewer
    obtain ⟨hmem, hrole⟩ := identityFor_eq_ok hfound
    exact ⟨reviewer, hmem, hrole, hprofile, hprincipal, hbound.reviewed.trans hcandidate,
      hbound.independent, hbound.approved⟩
  case effects =>
    intro effect heffect
    obtain ⟨hauthorized, -, hobserved⟩ := hbound.frozen.effects effect heffect
    obtain ⟨hambiguous, hfailed⟩ := hbound.resolved effect heffect
    have hstatus : effect.status = .confirmed ∨ effect.status = .reconciled := by
      cases hcase : effect.status with
      | confirmed => exact .inl rfl
      | reconciled => exact .inr rfl
      | ambiguous => exact absurd hcase hambiguous
      | failed => exact absurd hcase hfailed
    exact ⟨hcandidate ▸ authorized_iff.mp hauthorized, hstatus,
      Option.isSome_iff_ne_none.mpr (hobserved hstatus)⟩
  case pullRequest =>
    intro htarget
    obtain ⟨pullRequest, hsome, -, -, -, hobserved⟩ := hbound.pullRequest htarget
    exact ⟨pullRequest, hsome, hobserved⟩

/-- What the witnesses take for the signatures of a key's holder. -/
def SignedByHolder (key : VerifyingKey) (message : List UInt8) : Prop :=
  ∃ signature, primitives.verify key message signature

theorem ideal_singleton (document : Json) : Ideal primitives SignedByHolder {document} := by
  refine ⟨fun _ _ signature h => ⟨signature, h⟩, ?_⟩
  rintro a rfl b rfl _ _ _
  rfl

/-- The sample keeps to its order. -/
theorem verify_followsOrder_sample : ∃ (signed : SignedWorkOrder) (bundle : SignedEvidenceBundle),
    bundle.verify primitives Instance.key (Sample.expectation signed "owner/name") = .ok ()
      ∧ FollowsOrder primitives SignedByHolder {bundle.payload.toValue primitives}
        {bundle.payload.workOrder.payload.toValue primitives} bundle Instance.key
        (Sample.expectation signed "owner/name") := by
  obtain ⟨signed, -, bundle, hverify, -⟩ := Sample.exists_bundle
  exact ⟨signed, bundle, hverify, verify_followsOrder _ _ _ _ (ideal_singleton _)
    (ideal_singleton _) bundle _ _ rfl rfl hverify⟩

/-- With the largest budget of external calls, evidence of one effect more is accepted. -/
theorem effects_exceed_budget : ∃ (signed : SignedWorkOrder) (bundle : SignedEvidenceBundle),
    bundle.verify primitives Instance.key (Sample.expectation signed "owner/name") = .ok ()
      ∧ bundle.payload.workOrder.payload.authority.budgets.maxExternalApiCalls
        < bundle.payload.sideEffects.length := by
  obtain ⟨signed, hsigned⟩ := Sample.exists_signedOrder
  obtain ⟨bundle, hverify, hpayload⟩ := Sample.exists_accepted hsigned
    (fun _ h => List.eq_of_mem_replicate h : ∀ e ∈ List.replicate 4294967296 Sample.effect,
      e = Sample.effect)
    (not_isCredentialShaped_of_codes (by decide +kernel) : ¬ isCredentialShaped "owner/name")
  refine ⟨signed, bundle, hverify, ?_⟩
  have hbudget : bundle.payload.workOrder.payload.authority.budgets.maxExternalApiCalls
      = 4294967295 := by
    rw [hpayload]
    show signed.payload.authority.budgets.maxExternalApiCalls = _
    rw [hsigned.payload]
    rfl
  have heffects : bundle.payload.sideEffects.length = 4294967296 := by
    rw [hpayload]
    exact List.length_replicate
  rw [hbudget, heffects]
  decide

end FollowsOrder

/-! ## Requirements that are not compared -/

section Resealed

variable {p : Primitives} {key : VerifyingKey} {expectation : EvidenceExpectation}
  {signer : Ed25519Signer} {bundle : SignedEvidenceBundle} {checkId : String}

/-- Contents that stay bound are accepted again with a new signature. -/
theorem exists_verify_eq_ok (hholds : HoldsKey p signer key expectation.workerKeyId)
    {payload : EvidenceBundleV1} (hshape : payload.Shape) (hplain : Plain (payload.toValue p))
    (hbound : Bound p expectation payload) :
    ∃ bundle : SignedEvidenceBundle, bundle.verify p key expectation = .ok ()
      ∧ bundle.payload = payload := by
  obtain ⟨bundle, -, rfl, hsealed⟩ := exists_sealed hholds hshape hplain
  exact ⟨bundle, verify_eq_ok_iff.mpr ⟨hsealed, hbound⟩, rfl⟩

/-- What no accepted bundle has to state of a name holds only where nothing is asked of it. -/
theorem forall_accepted_iff {β : Type} {names : Finset String} {A B : β → Prop}
    {Q : β → String → Prop}
    (hbreak : ∀ b, A b → B b → ∀ name ∈ names, ∃ b', A b' ∧ B b' ∧ ¬ Q b' name) :
    (∀ b, A b → B b → ∀ name ∈ names, Q b name) ↔ names = ∅ ∨ ∀ b, A b → ¬ B b := by
  constructor
  · intro hall
    rw [or_iff_not_imp_right]
    intro haccepted
    push Not at haccepted
    obtain ⟨b, hA, hB⟩ := haccepted
    rw [Finset.eq_empty_iff_forall_notMem]
    intro name hname
    obtain ⟨b', hA', hB', hQ⟩ := hbreak b hA hB name hname
    exact hQ (hall b' hA' hB' name hname)
  · rintro (hempty | hnone) b hA hB name hname
    · rw [hempty] at hname
      exact absurd hname (Finset.notMem_empty _)
    · exact absurd hB (hnone b hA)

/-- The same contents without approvals. -/
def EvidenceBundleV1.unapproved (evidence : EvidenceBundleV1) : EvidenceBundleV1 :=
  { evidence with approvals := [] }

theorem exists_unapproved (hholds : HoldsKey p signer key expectation.workerKeyId)
    (h : bundle.verify p key expectation = .ok ()) :
    ∃ bundle' : SignedEvidenceBundle, bundle'.verify p key expectation = .ok ()
      ∧ bundle'.payload = bundle.payload.unapproved := by
  obtain ⟨hsealed, hbound⟩ := verify_eq_ok_iff.mp h
  have hdigests : ∀ digest ∈ bundle.payload.unapproved.digests, isSha256Digest digest := by
    intro digest hdigest
    apply hsealed.shape.digests
    simp only [digests, List.mem_append] at hdigest ⊢
    rcases hdigest with hdigest | hdigest
    · exact .inl hdigest
    · exact absurd hdigest List.not_mem_nil
  refine exists_verify_eq_ok hholds { hsealed.shape with digests := hdigests } ?_
    { hbound with frozen := { hbound.frozen with } }
  have hset : bundle.payload.unapproved.fields p
      = (bundle.payload.fields p).set 30 ("approvals", .arr []) := rfl
  rw [EvidenceBundleV1.toValue, hset]
  exact plain_obj_set 30 hsealed.plain rfl (plain_arr.mpr fun _ h => absurd h List.not_mem_nil)

/-- Where a Work Order requires approvals, evidence without them is accepted. -/
theorem approvals_present_iff (p : Primitives) (key : VerifyingKey)
    (expectation : EvidenceExpectation) (signer : Ed25519Signer)
    (hholds : HoldsKey p signer key expectation.workerKeyId) (order : SignedWorkOrder) :
    (∀ bundle : SignedEvidenceBundle, bundle.verify p key expectation = .ok () →
        bundle.payload.workOrder = order →
        ∀ required ∈ order.payload.authority.requiredApprovalTypes,
          ∃ approval ∈ bundle.payload.approvals, approval.approvalType = required
            ∧ approval.decision = "approved"
            ∧ approval.candidateSha = some bundle.payload.candidateSha)
      ↔ order.payload.authority.requiredApprovalTypes = ∅
        ∨ ∀ bundle : SignedEvidenceBundle, bundle.verify p key expectation = .ok () →
          bundle.payload.workOrder ≠ order := by
  refine forall_accepted_iff fun bundle hverify horder required _ => ?_
  obtain ⟨bundle', hverify', hpayload⟩ := exists_unapproved hholds hverify
  refine ⟨bundle', hverify', by rw [hpayload]; exact horder, ?_⟩
  rintro ⟨approval, happroval, -⟩
  rw [hpayload] at happroval
  exact absurd happroval List.not_mem_nil

/-- The sample's order requires an approval, so that evidence without it is accepted. -/
theorem approvals_present_sample : ∃ signed : SignedWorkOrder,
    ¬ ∀ bundle : SignedEvidenceBundle, bundle.verify primitives Instance.key
        (Sample.expectation signed "owner/name") = .ok () → bundle.payload.workOrder = signed →
      ∀ required ∈ signed.payload.authority.requiredApprovalTypes,
        ∃ approval ∈ bundle.payload.approvals, approval.approvalType = required
          ∧ approval.decision = "approved"
          ∧ approval.candidateSha = some bundle.payload.candidateSha := by
  obtain ⟨signed, hsigned, bundle, hverify, hpayload⟩ := Sample.exists_bundle
  refine ⟨signed, ?_⟩
  rw [approvals_present_iff _ _ _ _ Sample.holdsKey]
  rintro (hempty | hnone)
  · rw [hsigned.payload] at hempty
    exact absurd hempty (by decide)
  · exact hnone bundle hverify (hpayload ▸ rfl)

/-- Evidence without the approval that its order requires. -/
theorem missing_approval_accepted :
    ∃ (signed : SignedWorkOrder) (bundle : SignedEvidenceBundle),
      bundle.verify primitives Instance.key (Sample.expectation signed "owner/name")
          = .ok ()
        ∧ bundle.payload.workOrder.payload.authority.requiredApprovalTypes = {"security"}
        ∧ bundle.payload.approvals = [] := by
  obtain ⟨signed, hsigned, bundle, hverify, hpayload⟩ := Sample.exists_bundle
  refine ⟨signed, bundle, hverify, ?_, hpayload ▸ rfl⟩
  rw [hpayload]
  show signed.payload.authority.requiredApprovalTypes = _
  rw [hsigned.payload]
  rfl

/-- The same contents with one more record: the check failed. -/
def EvidenceBundleV1.contradicted (evidence : EvidenceBundleV1) (checkId : String) :
    EvidenceBundleV1 :=
  { evidence with
    checks := evidence.checks ++ [⟨checkId, evidence.candidateSha, .failed, none⟩] }

/-- A check that the embedded order names is not taken for a credential. -/
theorem localCheck_not_credentialShaped {evidence : EvidenceBundleV1}
    (h : Plain (evidence.toValue p))
    (hmem : checkId ∈ evidence.workOrder.payload.checks.localCheckIds) :
    ¬ isCredentialShaped checkId := by
  have horder : Plain (evidence.workOrder.toValue p) := plain_member 8 h rfl
  have hpayload : Plain (evidence.workOrder.payload.toValue p) := plain_member 7 horder rfl
  have hchecks := plain_member 14 hpayload rfl
  have hids : Plain (setValue evidence.workOrder.payload.checks.localCheckIds) :=
    plain_member 0 hchecks rfl
  exact plain_str.mp (plain_map.mp hids checkId (mem_ascending.mpr hmem))

theorem exists_contradicted (hholds : HoldsKey p signer key expectation.workerKeyId)
    (h : bundle.verify p key expectation = .ok ())
    (hmem : checkId ∈ bundle.payload.workOrder.payload.checks.localCheckIds) :
    ∃ bundle' : SignedEvidenceBundle, bundle'.verify p key expectation = .ok ()
      ∧ bundle'.payload = bundle.payload.contradicted checkId := by
  obtain ⟨hsealed, hbound⟩ := verify_eq_ok_iff.mp h
  have hdigests : (bundle.payload.contradicted checkId).digests = bundle.payload.digests := by
    simp [digests, EvidenceBundleV1.contradicted]
  have hpassed : bundle.payload.passedChecks
      ⊆ (bundle.payload.contradicted checkId).passedChecks := by
    intro required hrequired
    obtain ⟨check, hcheck, hrest⟩ := mem_passedChecks.mp hrequired
    exact mem_passedChecks.mpr ⟨check, List.mem_append_left _ hcheck, hrest⟩
  refine exists_verify_eq_ok hholds
    { hsealed.shape with digests := hdigests ▸ hsealed.shape.digests } ?_
    { hbound with
      frozen := { hbound.frozen with }
      localChecks := hbound.localChecks.trans hpassed }
  have hset : (bundle.payload.contradicted checkId).fields p = (bundle.payload.fields p).set 26
      ("checks", .arr ((bundle.payload.contradicted checkId).checks.map
        CheckEvidence.toValue)) := rfl
  have hcandidate : Plain (.str bundle.payload.candidateSha) := plain_member 15 hsealed.plain rfl
  have hchecks : Plain (.arr (bundle.payload.checks.map CheckEvidence.toValue)) :=
    plain_member 26 hsealed.plain rfl
  have hfailed : ¬ isCredentialShaped "failed" :=
    not_isCredentialShaped_of_codes (by decide +kernel)
  have hcodes : ∀ key ∈ ["check_id", "candidate_sha", "conclusion", "artifact_digest"],
      findsCode sensitiveCodes key = false := by decide +kernel
  have hid := localCheck_not_credentialShaped hsealed.plain hmem
  rw [EvidenceBundleV1.toValue, hset]
  refine plain_obj_set 26 hsealed.plain rfl (plain_map.mpr ?_)
  refine List.forall_mem_append.mpr ⟨plain_map.mp hchecks, List.forall_mem_singleton.mpr ?_⟩
  refine (plain_obj_iff ?_ hcodes).mpr ?_
  · rfl
  simp only [List.map_cons, List.map_nil, List.forall_mem_singleton, List.forall_mem_cons]
  exact ⟨plain_str.mpr hid, hcandidate, plain_str.mpr hfailed, plain_null⟩

/-- Where a Work Order names local checks, evidence that one of them failed is accepted. -/
theorem checks_uncontradicted_iff (p : Primitives) (key : VerifyingKey)
    (expectation : EvidenceExpectation) (signer : Ed25519Signer)
    (hholds : HoldsKey p signer key expectation.workerKeyId) (order : SignedWorkOrder) :
    (∀ bundle : SignedEvidenceBundle, bundle.verify p key expectation = .ok () →
        bundle.payload.workOrder = order → ∀ checkId ∈ order.payload.checks.localCheckIds,
          (∃ check ∈ bundle.payload.checks, check.checkId = checkId
              ∧ check.candidateSha = bundle.payload.candidateSha ∧ check.conclusion = .passed)
            ∧ ∀ check ∈ bundle.payload.checks, check.checkId = checkId →
              check.candidateSha = bundle.payload.candidateSha →
                check.conclusion ≠ .failed ∧ check.conclusion ≠ .skipped)
      ↔ order.payload.checks.localCheckIds = ∅
        ∨ ∀ bundle : SignedEvidenceBundle, bundle.verify p key expectation = .ok () →
          bundle.payload.workOrder ≠ order := by
  refine forall_accepted_iff ?_
  rintro bundle hverify rfl checkId hmem
  obtain ⟨bundle', hverify', hpayload⟩ := exists_contradicted hholds hverify hmem
  refine ⟨bundle', hverify', by rw [hpayload]; rfl, ?_⟩
  rintro ⟨-, hnone⟩
  rw [hpayload] at hnone
  have hrecord := hnone _ (List.mem_append_right _ List.mem_cons_self) rfl rfl
  exact hrecord.1 rfl

/-- The sample's order names a local check, so that evidence that it failed is
    accepted. -/
theorem checks_uncontradicted_sample : ∃ signed : SignedWorkOrder,
    ¬ ∀ bundle : SignedEvidenceBundle, bundle.verify primitives Instance.key
        (Sample.expectation signed "owner/name") = .ok () → bundle.payload.workOrder = signed →
      ∀ checkId ∈ signed.payload.checks.localCheckIds,
        (∃ check ∈ bundle.payload.checks, check.checkId = checkId
            ∧ check.candidateSha = bundle.payload.candidateSha ∧ check.conclusion = .passed)
          ∧ ∀ check ∈ bundle.payload.checks, check.checkId = checkId →
            check.candidateSha = bundle.payload.candidateSha →
              check.conclusion ≠ .failed ∧ check.conclusion ≠ .skipped := by
  obtain ⟨signed, hsigned, bundle, hverify, hpayload⟩ := Sample.exists_bundle
  refine ⟨signed, ?_⟩
  rw [checks_uncontradicted_iff _ _ _ _ Sample.holdsKey]
  rintro (hempty | hnone)
  · rw [hsigned.payload] at hempty
    exact absurd hempty (by decide)
  · exact hnone bundle hverify (hpayload ▸ rfl)

/-- Evidence that a check of the order failed on the candidate. -/
theorem failed_check_accepted :
    ∃ (signed : SignedWorkOrder) (bundle : SignedEvidenceBundle),
      bundle.verify primitives Instance.key (Sample.expectation signed "owner/name")
          = .ok ()
        ∧ "test" ∈ bundle.payload.workOrder.payload.checks.localCheckIds
        ∧ ⟨"test", bundle.payload.candidateSha, .failed, none⟩ ∈ bundle.payload.checks := by
  obtain ⟨signed, hsigned, bundle, hverify, hpayload⟩ := Sample.exists_bundle
  have hmem : "test" ∈ bundle.payload.workOrder.payload.checks.localCheckIds := by
    rw [hpayload]
    show "test" ∈ signed.payload.checks.localCheckIds
    rw [hsigned.payload]
    decide
  obtain ⟨bundle', hverify', hpayload'⟩ := exists_contradicted Sample.holdsKey hverify hmem
  refine ⟨signed, bundle', hverify', ?_⟩
  rw [hpayload']
  exact ⟨hmem, List.mem_append_right _ (List.mem_singleton.mpr rfl)⟩

end Resealed

/-! ## Repositories -/

/-- The repository of a Work Order. -/
def orderedRepository (order : SignedWorkOrder) : String :=
  s!"{order.payload.repository.owner}/{order.payload.repository.name}"

/-- The repositories of accepted evidence agree exactly if the caller's agree with each
    other and with the embedded order, which `verify` compares with neither. -/
theorem repositories_agree_iff (p : Primitives) (bundle : SignedEvidenceBundle)
    (key : VerifyingKey) (expectation : EvidenceExpectation)
    (htarget : expectation.target = .pullRequest)
    (hverify : bundle.verify p key expectation = .ok ()) :
    (∃ pullRequest, bundle.payload.pullRequest = some pullRequest
        ∧ orderedRepository bundle.payload.workOrder = bundle.payload.repository
        ∧ bundle.payload.repository = pullRequest.repository)
      ↔ expectation.repository = orderedRepository bundle.payload.workOrder
        ∧ ∃ observed, expectation.independentlyObservedPullRequest = some observed
          ∧ observed.repository = expectation.repository := by
  obtain ⟨-, hbound⟩ := verify_eq_ok_iff.mp hverify
  have hexpected := hbound.expected
  simp only [EvidenceExpectation.differs, not_or, not_not, ne_eq] at hexpected
  obtain ⟨-, -, -, -, -, hrepository, -⟩ := hexpected
  obtain ⟨pullRequest, hsome, -, -, -, hobserved⟩ := hbound.pullRequest htarget
  rw [hrepository]
  constructor
  · rintro ⟨other, hother, horder, hsame⟩
    obtain rfl := Option.some.inj (hsome.symm.trans hother)
    exact ⟨horder.symm, pullRequest, hobserved, hsame.symm⟩
  · rintro ⟨horder, observed, hother, hsame⟩
    obtain rfl := Option.some.inj (hobserved.symm.trans hother)
    exact ⟨pullRequest, hsome, horder.symm, hsame.symm⟩

theorem repositories_agree_sample : ∃ (signed : SignedWorkOrder) (bundle : SignedEvidenceBundle),
    bundle.verify primitives Instance.key (Sample.expectation signed "owner/name") = .ok ()
      ∧ ∃ pullRequest, bundle.payload.pullRequest = some pullRequest
        ∧ orderedRepository bundle.payload.workOrder = bundle.payload.repository
        ∧ bundle.payload.repository = pullRequest.repository := by
  obtain ⟨signed, hsigned, bundle, hverify, hpayload⟩ := Sample.exists_bundle
  refine ⟨signed, bundle, hverify, (repositories_agree_iff _ bundle _ _ rfl hverify).mpr
    ⟨?_, _, rfl, rfl⟩⟩
  rw [hpayload]
  show "owner/name" = orderedRepository signed
  rw [orderedRepository, hsigned.payload]
  decide

/-- Evidence for `owner/name` with a pull request of another repository. -/
theorem other_repository_accepted :
    ∃ (signed : SignedWorkOrder) (bundle : SignedEvidenceBundle)
      (pullRequest : PullRequestEvidence),
      bundle.verify primitives Instance.key (Sample.expectation signed "other/name")
          = .ok ()
        ∧ bundle.payload.pullRequest = some pullRequest
        ∧ bundle.payload.repository = "owner/name" ∧ pullRequest.repository = "other/name" := by
  obtain ⟨signed, hsigned⟩ := Sample.exists_signedOrder
  obtain ⟨bundle, hverify, hpayload⟩ := Sample.exists_accepted hsigned
    (fun _ h => absurd h List.not_mem_nil)
    (not_isCredentialShaped_of_codes (by decide +kernel) : ¬ isCredentialShaped "other/name")
  refine ⟨signed, bundle, Sample.pullRequest "other/name", hverify, ?_⟩
  rw [hpayload]
  exact ⟨rfl, rfl, rfl⟩

end Asf.WorkerEvidence
