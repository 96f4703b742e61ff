import Asf.Contracts.RunmillWorkOrder

/-!
# What evidence a dispatched Work Order can be verified with

`validate_expectation` (`src/contracts/runmill_evidence.rs`) checks the
expectation that `verify_complete_evidence`
(`src/runtime/evidence_verification.rs`) builds from a Work Order before any
evidence is compared with it. Its text grammars are not the ones the Work Order
was checked with.

Results:

* `validateReference_of_identifier`, `validateIdentifier_iff`: the grammars of
  local checks and of reviewers agree.
* `validateRepository_iff`, `validateBranchRef_iff`, `validateGitSha_iff`,
  `validateReference_iff`, `isUnsafePattern_iff`: what is asked beyond the check of
  the Work Order for repositories, branches, commits, remote checks and paths.
* `dispatchable_verifiable_iff`: which valid Work Orders can be verified.
-/

namespace Asf.Contracts

open Authority
open Bool (and_eq_true not_eq_true')

variable {value label : String} {order : RunmillWorkOrderV1} (byte : UInt8)
  (context : VerificationContext)

/-! ## The grammars of the evidence -/

/-- `validate_identifier` (lines 1582-1595). -/
def validateIdentifier (value label : String) : Result Unit :=
  failIf (¬ isToken 256 (isIdentifierByte true) value)
    (.validation s!"{label} is not a Runmill identifier")

/-- Letters, digits, `.`, `_`, `:`, `/`, `@`, `+` and `-`. -/
def isReferenceByte : Bool :=
  isAsciiAlphanumeric byte || byte == 46 || byte == 95 || byte == 58 || byte == 47 || byte == 64
    || byte == 43 || byte == 45

/-- `validate_reference` (lines 1597-1611). -/
def validateReference (value label : String) : Result Unit :=
  failIf (¬ isToken 512 isReferenceByte value) (.validation s!"{label} is not a Runmill reference")

/-- Letters, digits, `_`, `.` and `-`. -/
def isRepositoryByte : Bool :=
  isAsciiAlphanumeric byte || byte == 95 || byte == 46 || byte == 45

/-- `valid_part` (lines 1620-1625). -/
def validPart (part : String) : Bool := !part.isEmpty && (bytes part).all isRepositoryByte

/-- `validate_repository` (lines 1613-1635). -/
def validateRepository (value : String) : Result Unit := do
  failIf ((bytes value).length < 3 ∨ 512 < (bytes value).length)
    (.validation "Runmill repository slug is out of bounds")
  match splitSlash value with
  | [owner, name] =>
    failIf (¬ (validPart owner ∧ validPart name))
      (.validation "Runmill repository must be an owner/name slug")
  | _ => .error (.validation "Runmill repository must be an owner/name slug")

/-- Letters, digits, `.`, `_`, `/` and `-`. -/
def isBranchByte : Bool :=
  isAsciiAlphanumeric byte || byte == 46 || byte == 95 || byte == 47 || byte == 45

/-- `validate_branch_ref` (lines 1637-1654). -/
def validateBranchRef (value label : String) : Result Unit :=
  match branchOf value with
  | none => .error (.validation s!"{label} is not a branch ref")
  | some branch =>
    failIf ((bytes value).length < 12 ∨ 512 < (bytes value).length ∨ branch.isEmpty
        ∨ ¬ (bytes branch).head?.any isAsciiAlphanumeric ∨ ¬ (bytes branch).all isBranchByte)
      (.validation s!"{label} is not a safe branch ref")

/-- `validate_path` (lines 1656-1671). -/
def validatePath (value : String) : Result Unit :=
  failIf (value.isEmpty ∨ 1024 < (bytes value).length ∨ startsWith value "/" ∨ hasChar value '\\'
      ∨ (splitSlash value).any (· == "..")
      ∨ (bytes value).any fun byte => byte < 32 || byte == 127)
    (.validation "Runmill changed path is not normalized and repository-relative")

/-- `validate_digest` (lines 1705-1713). -/
def validateDigest (value label : String) : Result Unit :=
  failIf (¬ isSha256Digest value)
    (.validation s!"Runmill {label} must be a lowercase sha256 digest")

/-- `validate_git_sha` (lines 1715-1727). -/
def validateGitSha (value label : String) : Result Unit :=
  failIf (¬ ((bytes value).length = 40 ∧ (bytes value).all isLowerHexByte))
    (.validation s!"Runmill {label} must be a lowercase 40-hex Git SHA")

/-! ## The expectation -/

/-- `AuthorizedRunmillReviewer`. -/
structure AuthorizedRunmillReviewer where
  (principalId profileId : String)
deriving DecidableEq

/-- `RunmillEvidenceExpectation` (lines 600-624), the fields its check
    reads. -/
structure RunmillEvidenceExpectation where
  (trustedSignerKeyId runId workOrderKeyId workOrderEnvelopeDigest : String)
  (workOrderPayloadDigest effectivePolicyDigest forge repository baseRef baseSha : String)
  (candidateSha treeDigest normalizedDiffDigest : String)
  (changedPaths requiredLocalChecks requiredCiContexts : Finset String)
  (localReviewer pullRequestReviewer : Option AuthorizedRunmillReviewer)
  pullRequestHeadRef : String
deriving DecidableEq

/-- The check of an authorized reviewer (lines 1540-1541). -/
def AuthorizedRunmillReviewer.validate (reviewer : AuthorizedRunmillReviewer) : Result Unit := do
  validateIdentifier reviewer.principalId "authorized reviewer principal"
  validateIdentifier reviewer.profileId "authorized reviewer profile"

/-- `validate_expectation` (lines 1492-1544). -/
def validateExpectation (expectation : RunmillEvidenceExpectation) : Result Unit := do
  validateIdentifier expectation.runId "Runmill run id"
  validateIdentifier expectation.trustedSignerKeyId "trusted worker key id"
  validateIdentifier expectation.workOrderKeyId "trusted Work Order key id"
  validateDigest expectation.workOrderEnvelopeDigest "expected Work Order envelope"
  validateDigest expectation.workOrderPayloadDigest "expected Work Order payload"
  validateDigest expectation.effectivePolicyDigest "expected effective policy"
  validateDigest expectation.treeDigest "expected tree"
  validateDigest expectation.normalizedDiffDigest "expected normalized diff"
  validateIdentifier expectation.forge "expected forge"
  validateRepository expectation.repository
  validateBranchRef expectation.baseRef "expected base ref"
  validateBranchRef expectation.pullRequestHeadRef "expected PR head ref"
  validateGitSha expectation.baseSha "expected base SHA"
  validateGitSha expectation.candidateSha "expected candidate SHA"
  (ascending expectation.changedPaths).forM validatePath
  (ascending expectation.requiredLocalChecks ++ ascending expectation.requiredCiContexts).forM
    fun value => validateReference value "expected check requirement"
  (expectation.localReviewer.toList ++ expectation.pullRequestReviewer.toList).forM
    AuthorizedRunmillReviewer.validate

/-- What `verify_complete_evidence` takes from elsewhere than the Work Order. -/
structure VerificationContext where
  (trustedSignerKeyId runId workOrderKeyId workOrderEnvelopeDigest : String)
  (workOrderPayloadDigest effectivePolicyDigest candidateSha treeDigest : String)
  normalizedDiffDigest : String
  changedPaths : Finset String
  (localReviewerPrincipal pullRequestReviewerPrincipal pullRequestHeadRef : String)

/-- The expectation of `verify_complete_evidence` (evidence_verification.rs:840-880).
    The repository and the base it names are bound to the Work Order's before
    (evidence_verification.rs:602-604). -/
def expectationOf (order : RunmillWorkOrderV1) :
    RunmillEvidenceExpectation where
  trustedSignerKeyId := context.trustedSignerKeyId
  runId := context.runId
  workOrderKeyId := context.workOrderKeyId
  workOrderEnvelopeDigest := context.workOrderEnvelopeDigest
  workOrderPayloadDigest := context.workOrderPayloadDigest
  effectivePolicyDigest := context.effectivePolicyDigest
  forge := "github"
  repository := order.repository.repository
  baseRef := order.repository.baseRef
  baseSha := order.repository.baseSha
  candidateSha := context.candidateSha
  treeDigest := context.treeDigest
  normalizedDiffDigest := context.normalizedDiffDigest
  changedPaths := context.changedPaths
  requiredLocalChecks := order.verification.requiredLocalCheckIds.toFinset
  requiredCiContexts := order.verification.requiredRemoteChecks.toFinset
  localReviewer := some ⟨context.localReviewerPrincipal, order.identities.localReviewer⟩
  pullRequestReviewer := some ⟨context.pullRequestReviewerPrincipal, order.identities.prReviewer⟩
  pullRequestHeadRef := context.pullRequestHeadRef

/-- The `PathAuthority` of a Work Order's scope (evidence_verification.rs:660-663). -/
def scopeAuthority (order : RunmillWorkOrderV1) : PathAuthority where
  allowed := order.scope.allowedPaths.toFinset
  forbidden := order.scope.forbiddenPaths.toFinset

/-- The fields that are not from the Work Order pass their checks. -/
structure VerificationContext.Valid : Prop where
  runId : validateIdentifier context.runId "Runmill run id" = .ok ()
  signer : validateIdentifier context.trustedSignerKeyId "trusted worker key id" = .ok ()
  workOrderKey : validateIdentifier context.workOrderKeyId "trusted Work Order key id" = .ok ()
  digests : ∀ digest ∈ [context.workOrderEnvelopeDigest, context.workOrderPayloadDigest,
    context.effectivePolicyDigest, context.treeDigest, context.normalizedDiffDigest],
    isSha256Digest digest
  candidateSha : validateGitSha context.candidateSha "expected candidate SHA" = .ok ()
  changedPaths : ∀ path ∈ context.changedPaths, validatePath path = .ok ()
  principals : ∀ principal ∈ [context.localReviewerPrincipal, context.pullRequestReviewerPrincipal],
    validateIdentifier principal "authorized reviewer principal" = .ok ()
  headRef : validateBranchRef context.pullRequestHeadRef "expected PR head ref" = .ok ()

/-! ## Comparing the grammars -/

theorem isToken_mono {bound bound' : ℕ} {allowed allowed' : UInt8 → Bool}
    (hbound : bound ≤ bound') (hallowed : ∀ byte, allowed byte → allowed' byte)
    (h : isToken bound allowed value) : isToken bound' allowed' value := by
  simp only [isToken, and_eq_true, decide_eq_true_eq, List.all_eq_true] at h ⊢
  obtain ⟨⟨⟨hempty, hlength⟩, hhead⟩, hall⟩ := h
  exact ⟨⟨⟨hempty, hlength.trans hbound⟩, hhead⟩, fun byte hbyte => hallowed byte (hall byte hbyte)⟩

/-- A check identifier of a Work Order is a reference of the evidence. -/
theorem validateReference_of_identifier (h : validIdentifier value false) :
    validateReference value label = .ok () := by
  rw [validateReference, failIf_eq_ok_iff, not_not]
  refine isToken_mono (by decide) ?_ h
  intro byte hbyte
  simp only [isIdentifierByte, isReferenceByte, Bool.or_eq_true, Bool.false_and,
    Bool.false_eq_true, or_false] at hbyte ⊢
  tauto

theorem validateIdentifier_iff :
    validateIdentifier value label = .ok () ↔ validIdentifier value true := by
  rw [validateIdentifier, failIf_eq_ok_iff, not_not, validIdentifier]

theorem bytes_append (s t : String) : bytes (s ++ t) = bytes s ++ bytes t := by
  simp [bytes]

theorem bytes_length_pos (h : value.isEmpty = false) : 0 < (bytes value).length := by
  have hlist : value.toList ≠ [] := by
    intro hnil
    have : value = "" := String.toList_inj.mp (by simpa using hnil)
    rw [this] at h
    exact absurd h (by decide)
  obtain ⟨c, rest, hcons⟩ := List.exists_cons_of_ne_nil hlist
  rw [bytes, hcons, List.flatMap_cons, List.length_append, String.length_utf8EncodeChar]
  have := c.utf8Size_pos
  omega

/-- The components of a text with one slash. -/
theorem eq_of_splitSlash {owner name : String} (h : splitSlash value = [owner, name]) :
    value = owner ++ "/" ++ name := by
  have hsplit : value.toList.splitOn '/' = [owner.toList, name.toList] := by
    have hlists := congrArg (List.map String.toList) h
    simpa [splitSlash, Function.comp_def] using hlists
  have hjoin : ['/'].intercalate (value.toList.splitOn '/') = value.toList :=
    List.intercalate_splitOn '/'
  rw [hsplit] at hjoin
  apply String.toList_inj.mp
  simpa [List.intercalate] using hjoin.symm

/-- Beyond the Work Order's check: a bound and ASCII components. -/
theorem validateRepository_iff (h : validRepository value) :
    validateRepository value = .ok () ↔ (bytes value).length ≤ 512
      ∧ ∀ component ∈ splitSlash value, (bytes component).all isRepositoryByte := by
  unfold validRepository at h
  split at h
  · rename_i owner name hsplit
    simp only [validRepositoryComponent, and_eq_true, not_eq_true'] at h
    obtain ⟨⟨howner, -⟩, hname, -⟩ := h
    have hlength : 3 ≤ (bytes value).length := by
      have := bytes_length_pos howner
      have := bytes_length_pos hname
      rw [eq_of_splitSlash hsplit, bytes_append, bytes_append, List.length_append,
        List.length_append]
      have : (bytes "/").length = 1 := rfl
      omega
    rw [validateRepository, failIf_bind_eq_ok_iff, hsplit]
    simp only [failIf_eq_ok_iff, not_not, validPart, howner, hname, Bool.not_false, Bool.true_and,
      List.forall_mem_singleton, List.forall_mem_cons]
    constructor
    · rintro ⟨hbound, hparts⟩
      exact ⟨by omega, hparts⟩
    · rintro ⟨hbound, hparts⟩
      exact ⟨by omega, hparts⟩
  · exact absurd h (by decide)

/-- A branch name within the evidence's alphabet and bound. -/
def isPortableRef (value : String) : Bool :=
  decide ((bytes value).length ≤ 512) && (branchOf value).all fun branch =>
    (bytes branch).head?.any isAsciiAlphanumeric && (bytes branch).all isBranchByte

theorem bytes_of_branchOf {branch : String} (h : branchOf value = some branch) :
    (bytes value).length = 11 + (bytes branch).length := by
  unfold branchOf at h
  split_ifs at h with hstart
  obtain rfl := Option.some.inj h
  obtain ⟨rest, hrest⟩ := List.isPrefixOf_iff_prefix.mp hstart
  have hvalue : value = "refs/heads/" ++ String.ofList (value.toList.drop 11) := by
    apply String.toList_inj.mp
    simp [← hrest]
  conv_lhs => rw [hvalue, bytes_append, List.length_append]
  rfl

/-- Beyond the Work Order's check: a bound and an ASCII branch name. -/
theorem validateBranchRef_iff (h : validBaseRef value) :
    validateBranchRef value label = .ok () ↔ isPortableRef value := by
  unfold validBaseRef at h
  split at h
  · exact absurd h (by decide)
  · rename_i branch hbranch
    have hempty : branch.isEmpty = false := by
      simp only [and_eq_true, not_eq_true'] at h
      tauto
    have hlength := bytes_of_branchOf hbranch
    have hpos := bytes_length_pos hempty
    simp only [validateBranchRef, hbranch, failIf_eq_ok_iff, isPortableRef, hempty, not_or, not_not,
      Option.all_some, and_eq_true, decide_eq_true_eq]
    constructor
    · rintro ⟨-, hbound, -, hhead, hall⟩
      exact ⟨by omega, hhead, hall⟩
    · rintro ⟨hbound, hhead, hall⟩
      exact ⟨by omega, by omega, by decide, hhead, hall⟩

/-- `byte.is_ascii_uppercase()`. -/
def isUpperByte : Bool := 65 ≤ byte && byte ≤ 90

theorem isLowerHexByte_iff {byte : UInt8} (h : isHexByte byte) :
    isLowerHexByte byte ↔ isUpperByte byte = false := by
  simp only [isHexByte, isLowerHexByte, isUpperByte, Bool.or_eq_true, and_eq_true,
    decide_eq_true_eq, Bool.and_eq_false_iff, decide_eq_false_iff_not, UInt8.le_iff_toNat_le,
    UInt8.reduceToNat] at h ⊢
  omega

/-- Beyond the Work Order's check: lower case. -/
theorem validateGitSha_iff (h : validGitSha value) :
    validateGitSha value label = .ok () ↔ ¬ (bytes value).any isUpperByte := by
  simp only [validGitSha, and_eq_true, beq_iff_eq, List.all_eq_true] at h
  obtain ⟨hlength, hhex⟩ := h
  simp only [validateGitSha, failIf_eq_ok_iff, not_not, hlength, true_and, List.all_eq_true,
    List.any_eq_true, not_exists, not_and, Bool.not_eq_true]
  exact forall₂_congr fun byte hbyte => isLowerHexByte_iff (hhex byte hbyte)

/-- Beyond the Work Order's check: a first letter or digit and the alphabet of
    references. -/
theorem validateReference_iff (h : validRemoteCheck value) :
    validateReference value label = .ok ()
      ↔ (bytes value).head?.any isAsciiAlphanumeric ∧ (bytes value).all isReferenceByte := by
  simp only [validRemoteCheck, and_eq_true, not_eq_true', decide_eq_true_eq] at h
  obtain ⟨⟨⟨hempty, hbound⟩, -⟩, -⟩ := h
  have hpos := bytes_length_pos hempty
  have hnil : (bytes value).isEmpty = false := by
    rw [List.isEmpty_eq_false_iff]
    exact List.ne_nil_of_length_pos hpos
  simp [validateReference, isToken, hnil, hbound]

/-- A pattern that is repository-relative, normalized and free of backslashes and
    control characters. -/
def isPortablePattern (path : String) : Bool :=
  !startsWith path "/" && !startsWith path "./" && !endsWith path "/"
    && (splitSlash path).all (fun segment => !segment.isEmpty && segment != "..")
    && !hasChar path '\\' && !hasControl path

/-- Beyond the Work Order's check of a pattern: everything but that it is not empty. -/
theorem isUnsafePattern_iff {path : String} (h : path ≠ "") :
    isUnsafePattern path = false ↔ isPortablePattern path := by
  have hempty : path.isEmpty = false := by simpa using h
  have hnul : hasControl path = false → hasChar path '\x00' = false := by
    simp only [hasControl, hasChar, List.any_eq_false, List.contains_eq_mem,
      decide_eq_false_iff_not]
    exact fun hcontrol hmem => hcontrol _ hmem (by decide)
  simp only [isUnsafePattern, isPortablePattern, hempty, Bool.or_eq_false_iff, and_eq_true,
    not_eq_true', List.any_eq_false, List.all_eq_true, Bool.or_eq_true, not_or,
    Bool.not_eq_true, bne_iff_ne, beq_eq_false_iff_ne, true_and, ne_eq]
  tauto

/-! ## Which Work Orders can be verified -/

/-- What the check of the evidence asks of a Work Order beyond its own check. -/
structure Verifiable (order : RunmillWorkOrderV1) : Prop where
  patterns : ∀ path ∈ order.scope.allowedPaths ++ order.scope.forbiddenPaths, isPortablePattern path
  repository : (bytes order.repository.repository).length ≤ 512
    ∧ ∀ component ∈ splitSlash order.repository.repository, (bytes component).all isRepositoryByte
  baseRef : isPortableRef order.repository.baseRef
  baseSha : ¬ (bytes order.repository.baseSha).any isUpperByte
  remoteChecks : ∀ check ∈ order.verification.requiredRemoteChecks,
    (bytes check).head?.any isAsciiAlphanumeric ∧ (bytes check).all isReferenceByte

theorem scopeAuthority_validate_iff (h : order.Checked) :
    (scopeAuthority order).validate = .ok ()
      ↔ ∀ path ∈ order.scope.allowedPaths ++ order.scope.forbiddenPaths,
        isPortablePattern path := by
  have hnonempty : (scopeAuthority order).allowed.Nonempty := by
    simpa [scopeAuthority] using h.allowed_ne_nil
  rw [PathAuthority.validate_eq_ok_iff, and_iff_right hnonempty]
  simp only [scopeAuthority, List.mem_toFinset, ← List.mem_append]
  exact forall₂_congr fun path hpath => isUnsafePattern_iff (h.paths_ne_empty path hpath)

theorem validateExpectation_iff (h : order.Checked) {context : VerificationContext}
    (hcontext : context.Valid) :
    validateExpectation (expectationOf context order) = .ok ()
      ↔ validateRepository order.repository.repository = .ok ()
        ∧ validateBranchRef order.repository.baseRef "expected base ref" = .ok ()
        ∧ validateGitSha order.repository.baseSha "expected base SHA" = .ok ()
        ∧ ∀ check ∈ order.verification.requiredRemoteChecks,
          validateReference check "expected check requirement" = .ok () := by
  have hdigest {value label : String} (hvalue : isSha256Digest value) :
      validateDigest value label = .ok () := by
    simp [validateDigest, hvalue]
  have hdigests := hcontext.digests
  have hprincipals := hcontext.principals
  simp only [List.forall_mem_cons] at hdigests hprincipals
  obtain ⟨henvelope, hpayload, hpolicy, htree, hdiff, -⟩ := hdigests
  obtain ⟨hlocal, hpr, -⟩ := hprincipals
  have hforge : validateIdentifier "github" "expected forge" = .ok () := by decide
  have hreviewers : validateIdentifier order.identities.localReviewer "authorized reviewer profile"
        = .ok () ∧ validateIdentifier order.identities.prReviewer "authorized reviewer profile"
        = .ok () :=
    ⟨validateIdentifier_iff.mpr h.localReviewer, validateIdentifier_iff.mpr h.prReviewer⟩
  have hlocalChecks : ∀ check ∈ order.verification.requiredLocalCheckIds,
      validateReference check "expected check requirement" = .ok () :=
    fun check hcheck => validateReference_of_identifier (h.localChecks check hcheck)
  simp only [validateExpectation, expectationOf, seq_eq_ok_iff, forM_eq_ok_iff, mem_ascending,
    List.mem_append, List.mem_toFinset, or_imp, forall_and, hcontext.runId, hcontext.signer,
    hcontext.workOrderKey, hdigest henvelope, hdigest hpayload, hdigest hpolicy, hdigest htree,
    hdigest hdiff, hforge, hcontext.headRef, hcontext.candidateSha, true_and, Option.toList_some,
    List.cons_append, List.nil_append, List.forall_mem_singleton, List.forall_mem_cons,
    AuthorizedRunmillReviewer.validate, hlocal, hpr, hreviewers, and_true]
  rw [and_iff_right hcontext.changedPaths, and_iff_right hlocalChecks]

/-- A valid Work Order, whatever it closes, can be verified exactly if its texts
    are also within the grammars of the evidence. -/
theorem dispatchable_verifiable_iff (writeF64 : F64 → ℤ × ℕ) (order : RunmillWorkOrderV1)
    (hvalid : order.validate writeF64 = .ok ()) (context : VerificationContext)
    (hcontext : context.Valid) :
    ((scopeAuthority order).validate = .ok ()
        ∧ validateExpectation (expectationOf context order) = .ok ())
      ↔ Verifiable order := by
  have h := RunmillWorkOrderV1.validate_checked hvalid
  rw [scopeAuthority_validate_iff h, validateExpectation_iff h hcontext, validateRepository_iff
    h.repository, validateBranchRef_iff h.baseRef, validateGitSha_iff h.baseSha]
  have hchecks : (∀ check ∈ order.verification.requiredRemoteChecks,
      validateReference check "expected check requirement" = .ok ())
      ↔ ∀ check ∈ order.verification.requiredRemoteChecks,
        (bytes check).head?.any isAsciiAlphanumeric ∧ (bytes check).all isReferenceByte :=
    forall₂_congr fun check hcheck => validateReference_iff (h.remoteChecks check hcheck)
  rw [hchecks]
  exact ⟨fun ⟨hpatterns, hrepository, href, hsha, hremote⟩ =>
      ⟨hpatterns, hrepository, href, hsha, hremote⟩,
    fun ⟨hpatterns, hrepository, href, hsha, hremote⟩ =>
      ⟨hpatterns, hrepository, href, hsha, hremote⟩⟩

/-- A pull-request Work Order with the given patterns and remote checks. -/
def dispatched (paths checks : List String) : RunmillWorkOrderV1 where
  schema := "asf.work-order/v1"
  workOrderId := "w"
  tenantId := "t"
  workItemId := "i"
  attemptId := "a"
  idempotencyKey := "t/i/a"
  source := ⟨"linear", "1", sampleDigest⟩
  repository := ⟨"github", "owner/name", "refs/heads/main", String.ofList (List.replicate 40 '0')⟩
  objective := ⟨"title", "description", ["criterion"], []⟩
  scope := ⟨paths, [], .low⟩
  verification := ⟨["test"], checks, sampleDigest⟩
  identities := ⟨"claude:writer", "claude:reviewer", "codex:reviewer"⟩
  runtime := ⟨"linux", "tools", "network"⟩
  budgets := ⟨1, ⟨0⟩, 1, 0⟩
  delivery := ⟨.pr, false, none⟩
  policyDigest := sampleDigest
  harnessDigest := sampleDigest

/-- A context with valid fields. -/
def verificationContext : VerificationContext where
  trustedSignerKeyId := "signer"
  runId := "run"
  workOrderKeyId := "key"
  workOrderEnvelopeDigest := sampleDigest
  workOrderPayloadDigest := sampleDigest
  effectivePolicyDigest := sampleDigest
  candidateSha := String.ofList (List.replicate 40 '0')
  treeDigest := sampleDigest
  normalizedDiffDigest := sampleDigest
  changedPaths := ∅
  localReviewerPrincipal := "reviewer"
  pullRequestReviewerPrincipal := "reviewer"
  pullRequestHeadRef := "refs/heads/change"

theorem verificationContext_valid : verificationContext.Valid where
  runId := by decide
  signer := by decide
  workOrderKey := by decide
  digests := by simp [verificationContext, sampleDigest_isSha256Digest]
  candidateSha := by decide
  changedPaths := by simp [verificationContext]
  principals := by decide
  headRef := by decide

theorem dispatched_valid : (dispatched ["src/**"] ["ci/build"]).Valid fun _ => (0, 0) := by
  have hcodes : ∀ text ∈ ((dispatched ["src/**"] ["ci/build"]).toValue fun _ => (0, 0)).strings,
      findsCode credentialCodes text = false := by decide +kernel
  constructor
  case clean => exact fun text h => not_isCredentialShaped_of_codes (hcodes text h)
  all_goals decide +kernel

theorem dispatchable_verifiable_plain :
    (dispatched ["src/**"] ["ci/build"]).validate (fun _ => (0, 0)) = .ok ()
      ∧ verificationContext.Valid
      ∧ (scopeAuthority (dispatched ["src/**"] ["ci/build"])).validate = .ok ()
      ∧ validateExpectation (expectationOf verificationContext (dispatched ["src/**"] ["ci/build"]))
        = .ok () := by
  have hvalid : (dispatched ["src/**"] ["ci/build"]).validate (fun _ => (0, 0)) = .ok () :=
    RunmillWorkOrderV1.validate_eq_ok_iff.mpr dispatched_valid
  have hverifiable : Verifiable (dispatched ["src/**"] ["ci/build"]) := by
    constructor <;> decide +kernel
  exact ⟨hvalid, verificationContext_valid,
    (dispatchable_verifiable_iff _ _ hvalid _ verificationContext_valid).mpr hverifiable⟩

/-- An absolute pattern and a remote check with a blank are accepted for dispatch,
    and then neither the scope nor the expectation is. -/
theorem dispatched_not_verifiable :
    (dispatched ["/src"] ["ci build"]).validate (fun _ => (0, 0)) = .ok ()
      ∧ (dispatched ["/src"] ["ci build"]).delivery.closureTarget = .pr
      ∧ verificationContext.Valid
      ∧ (scopeAuthority (dispatched ["/src"] ["ci build"])).validate
        = .error (.validation "unsafe repository path pattern: \"/src\"")
      ∧ validateExpectation (expectationOf verificationContext (dispatched ["/src"] ["ci build"]))
        = .error (.validation "expected check requirement is not a Runmill reference") := by
  have hcodes : ∀ text ∈ ((dispatched ["/src"] ["ci build"]).toValue fun _ => (0, 0)).strings,
      findsCode credentialCodes text = false := by decide +kernel
  refine ⟨RunmillWorkOrderV1.validate_eq_ok_iff.mpr ?_, rfl, verificationContext_valid, ?_, ?_⟩
  · constructor
    case clean => exact fun text h => not_isCredentialShaped_of_codes (hcodes text h)
    all_goals decide +kernel
  · decide +kernel
  · have hdigest (label : String) : validateDigest sampleDigest label = .ok () :=
      failIf_eq_ok_iff.mpr (by simp [sampleDigest_isSha256Digest])
    simp only [validateExpectation, expectationOf, dispatched, verificationContext, hdigest,
      ok_bind]
    decide +kernel

end Asf.Contracts
