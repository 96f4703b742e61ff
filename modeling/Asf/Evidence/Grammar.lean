import Asf.Contracts.RunmillEvidence
import Asf.Contracts.RunmillSigned
import Asf.Lib.Collect

/-!
# The grammars of signed evidence

The text checks of `src/contracts/runmill_evidence.rs`, with the places where they
index bytes. `Contracts.validateIdentifier` and its siblings are the same checks
without the indexing.

Results:

* `validateToken_eq`, `validateBranchRef_eq`, `validateMediaType_eq`: no check
  indexes the bytes of an empty text.
* `validateLexicallySortedUnique_eq_ok_iff`: lists in strictly ascending order.
* `validateSignatureEncoding_eq_ok_iff`: the texts of 64-byte signatures.
-/

namespace Asf.Evidence

open Lib Contracts

/-- What a check of the verifier returns, or a panic. -/
abbrev Checked (α : Type) := Exec Error α

/-! ## Identifiers and references -/

/-- The checks of `validate_identifier` (lines 1581-1594) and of
    `validate_reference` (lines 1596-1610), which differ in the bound,
    in the bytes and in the error. -/
def validateToken (bound : ℕ) (allowed : UInt8 → Bool) (error : Error) (value : String) :
    Checked Unit := do
  Exec.failIf (value.isEmpty ∨ bound < (bytes value).length) error
  let first ← Exec.index (bytes value) 0
  Exec.failIf (¬ isAsciiAlphanumeric first ∨ ¬ (bytes value).all allowed) error

/-- `validate_identifier` (lines 1581-1594). -/
def validateIdentifier (value label : String) : Checked Unit :=
  validateToken 256 (isIdentifierByte true) (.validation s!"{label} is not a Runmill identifier")
    value

/-- `validate_reference` (lines 1596-1610). -/
def validateReference (value label : String) : Checked Unit :=
  validateToken 512 isReferenceByte (.validation s!"{label} is not a Runmill reference") value

theorem bytes_eq_nil_iff {value : String} : bytes value = [] ↔ value.isEmpty := by
  constructor
  · intro hnil
    by_contra hempty
    have hpos := bytes_length_pos (Bool.eq_false_iff.mpr hempty)
    rw [hnil] at hpos
    exact absurd hpos (by decide)
  · intro hempty
    have hvalue : value = "" := by simpa using hempty
    rw [hvalue]
    rfl

/-- A text that is not empty has a first byte. -/
theorem index_bytes_zero {value : String} {first : UInt8} {rest : List UInt8}
    (h : bytes value = first :: rest) :
    (Exec.index (bytes value) 0 : Checked UInt8) = .ok first := by
  rw [h]
  rfl

theorem lift_failIf {rejected : Prop} [Decidable rejected] (error : Error) :
    Exec.lift (failIf rejected error) = Exec.failIf rejected error := by
  unfold failIf Exec.failIf
  split_ifs <;> rfl

theorem validateToken_eq (bound : ℕ) (allowed : UInt8 → Bool) (error : Error) (value : String) :
    validateToken bound allowed error value
      = Exec.lift (failIf (¬ isToken bound allowed value) error) := by
  rw [lift_failIf, validateToken]
  cases hbytes : bytes value with
  | nil =>
    have hempty : value.isEmpty := bytes_eq_nil_iff.mp hbytes
    rw [Exec.failIf_of (.inl hempty), Exec.failIf_of (by simp [isToken, hbytes])]
    rfl
  | cons first rest =>
    have hempty : value.isEmpty = false := by
      rw [Bool.eq_false_iff, ne_eq, ← bytes_eq_nil_iff, hbytes]
      exact List.cons_ne_nil first rest
    rw [← hbytes, index_bytes_zero hbytes]
    show (_ >>= fun _ => Exec.failIf _ _) = _
    rw [Exec.failIf_bind_failIf]
    apply Exec.failIf_congr
    simp only [isToken, hempty, hbytes, Bool.and_eq_true, decide_eq_true_eq, List.head?_cons,
      Option.any_some, List.isEmpty_cons, Bool.not_false, true_and, not_and_or, not_le,
      Bool.false_eq_true, false_or, or_assoc]

theorem validateIdentifier_eq (value label : String) :
    validateIdentifier value label = Exec.lift (Contracts.validateIdentifier value label) :=
  validateToken_eq _ _ _ _

theorem validateReference_eq (value label : String) :
    validateReference value label = Exec.lift (Contracts.validateReference value label) :=
  validateToken_eq _ _ _ _

/-! ## Branches and media types -/

/-- `validate_branch_ref` (lines 1636-1653). -/
def validateBranchRef (value label : String) : Checked Unit :=
  match branchOf value with
  | none => .error (.error (.validation s!"{label} is not a branch ref"))
  | some branch => do
    Exec.failIf ((bytes value).length < 12 ∨ 512 < (bytes value).length ∨ branch.isEmpty)
      (.validation s!"{label} is not a safe branch ref")
    let first ← Exec.index (bytes branch) 0
    Exec.failIf (¬ isAsciiAlphanumeric first ∨ ¬ (bytes branch).all isBranchByte)
      (.validation s!"{label} is not a safe branch ref")

theorem validateBranchRef_eq (value label : String) :
    validateBranchRef value label = Exec.lift (Contracts.validateBranchRef value label) := by
  unfold validateBranchRef Contracts.validateBranchRef
  cases branchOf value with
  | none => rfl
  | some branch =>
    show _ = Exec.lift (failIf _ _)
    rw [lift_failIf]
    cases hbytes : bytes branch with
    | nil =>
      have hempty : branch.isEmpty := bytes_eq_nil_iff.mp hbytes
      rw [Exec.failIf_of (by simp [hempty])]
      show (Exec.failIf _ _ >>= _) = _
      rw [Exec.failIf_of (by simp [hempty])]
      rfl
    | cons first rest =>
      show (Exec.failIf _ _ >>= fun _ => Exec.index _ 0 >>= _) = _
      rw [← hbytes, index_bytes_zero hbytes]
      show (_ >>= fun _ => Exec.failIf _ _) = _
      rw [Exec.failIf_bind_failIf]
      apply Exec.failIf_congr
      simp [hbytes, or_assoc]

/-- Lower-case letters, digits and `!#$&^_.+-`. -/
def isMediaByte (byte : UInt8) : Bool :=
  (97 ≤ byte && byte ≤ 122) || (48 ≤ byte && byte ≤ 57) || byte == 33 || byte == 35 || byte == 36
    || byte == 38 || byte == 94 || byte == 95 || byte == 46 || byte == 43 || byte == 45

variable (part : String)

/-- `valid` (lines 1753-1764). -/
def validMediaPart : Checked Bool :=
  if part.isEmpty then .ok false
  else do
    let first ← Exec.index (bytes part) 0
    return (97 ≤ first && first ≤ 122) && (bytes part).all isMediaByte

/-- `validate_media_type` (lines 1747-1771). -/
def validateMediaType (value : String) : Checked Unit :=
  match splitOnce '/' value with
  | none => .error (.error (.validation "Runmill artifact media type is malformed"))
  | some (kind, subtype) => do
    Exec.failIf ((bytes value).length < 3 ∨ 256 < (bytes value).length)
      (.validation "Runmill artifact media type is malformed")
    let validKind ← validMediaPart kind
    Exec.failIf (¬ validKind) (.validation "Runmill artifact media type is malformed")
    let validSubtype ← validMediaPart subtype
    Exec.failIf (¬ validSubtype) (.validation "Runmill artifact media type is malformed")

/-- A part of a media type. -/
def isMediaPart : Bool :=
  (bytes part).head?.any (fun first => 97 ≤ first && first ≤ 122) && (bytes part).all isMediaByte

/-- A media type. -/
def isMediaType (value : String) : Bool :=
  match splitOnce '/' value with
  | none => false
  | some (kind, subtype) =>
    decide (3 ≤ (bytes value).length) && decide ((bytes value).length ≤ 256) && isMediaPart kind
      && isMediaPart subtype

theorem validMediaPart_eq : validMediaPart part = .ok (isMediaPart part) := by
  unfold validMediaPart isMediaPart
  cases hbytes : bytes part with
  | nil =>
    rw [if_pos (bytes_eq_nil_iff.mp hbytes)]
    rfl
  | cons first rest =>
    have hempty : ¬ part.isEmpty := by
      rw [← bytes_eq_nil_iff, hbytes]
      exact List.cons_ne_nil first rest
    rw [if_neg hempty]
    rfl

theorem validateMediaType_eq (value : String) :
    validateMediaType value = Exec.lift
      (failIf (¬ isMediaType value) (.validation "Runmill artifact media type is malformed")) := by
  rw [lift_failIf]
  unfold validateMediaType isMediaType
  split
  · rw [Exec.failIf_of (by decide)]
  · rename_i kind subtype _
    simp only [validMediaPart_eq, ok_bind, Exec.failIf_bind_failIf]
    apply Exec.failIf_congr
    simp only [Bool.and_eq_true, decide_eq_true_eq, not_and_or, not_le, or_assoc]

/-! ## What the checks accept -/

/-- A reference. -/
def isReference (value : String) : Bool := isToken 512 isReferenceByte value

/-- A branch. -/
def isBranchRef (value : String) : Bool :=
  (branchOf value).any fun branch =>
    decide (12 ≤ (bytes value).length) && decide ((bytes value).length ≤ 512)
      && isToken 512 isBranchByte branch

/-- A commit: 40 lower-case hexadecimal digits. -/
def isCommit (value : String) : Bool :=
  (bytes value).length == 40 && (bytes value).all isLowerHexByte

section Accepted

variable {value label : String}

theorem validateIdentifier_eq_ok_iff :
    validateIdentifier value label = .ok () ↔ validIdentifier value true := by
  rw [validateIdentifier_eq, Exec.lift_eq_ok_iff, validateIdentifier_iff]

theorem validateReference_eq_ok_iff :
    validateReference value label = .ok () ↔ isReference value := by
  rw [validateReference_eq, Exec.lift_eq_ok_iff, Contracts.validateReference, failIf_eq_ok_iff,
    not_not, isReference]

theorem validateBranchRef_eq_ok_iff :
    validateBranchRef value label = .ok () ↔ isBranchRef value := by
  rw [validateBranchRef_eq, Exec.lift_eq_ok_iff]
  unfold Contracts.validateBranchRef isBranchRef
  cases hbranch : branchOf value with
  | none => simp
  | some branch =>
    have hlength := bytes_of_branchOf hbranch
    have hempty : branch.isEmpty ↔ bytes branch = [] := bytes_eq_nil_iff.symm
    simp only [failIf_eq_ok_iff, hempty, isToken, Option.any_some, Bool.and_eq_true,
      decide_eq_true_eq, Bool.not_eq_true', List.isEmpty_eq_false_iff, not_or, not_not, not_lt]
    constructor
    · rintro ⟨hmin, hmax, hne, hfirst, hall⟩
      exact ⟨⟨hmin, hmax⟩, ⟨⟨hne, by omega⟩, hfirst⟩, hall⟩
    · rintro ⟨⟨hmin, hmax⟩, ⟨⟨hne, -⟩, hfirst⟩, hall⟩
      exact ⟨hmin, hmax, hne, hfirst, hall⟩

theorem validateMediaType_eq_ok_iff : validateMediaType value = .ok () ↔ isMediaType value := by
  rw [validateMediaType_eq, Exec.lift_eq_ok_iff, failIf_eq_ok_iff, not_not]

theorem validateDigest_eq_ok_iff : validateDigest value label = .ok () ↔ isSha256Digest value := by
  rw [validateDigest, failIf_eq_ok_iff, not_not]

theorem validateGitSha_eq_ok_iff : validateGitSha value label = .ok () ↔ isCommit value := by
  simp only [validateGitSha, failIf_eq_ok_iff, not_not, isCommit, Bool.and_eq_true, beq_iff_eq]

theorem validateIdentifier_noPanic : NoPanic (validateIdentifier value label) := by
  rw [validateIdentifier_eq]
  exact NoPanic.lift _

theorem validateReference_noPanic : NoPanic (validateReference value label) := by
  rw [validateReference_eq]
  exact NoPanic.lift _

theorem validateBranchRef_noPanic : NoPanic (validateBranchRef value label) := by
  rw [validateBranchRef_eq]
  exact NoPanic.lift _

theorem validateMediaType_noPanic : NoPanic (validateMediaType value) := by
  rw [validateMediaType_eq]
  exact NoPanic.lift _

end Accepted

/-! ## Lists, signatures, subjects, URLs and locations -/

/-- `validate_lexically_sorted_unique` (lines 1696-1703). -/
def validateLexicallySortedUnique (values : List String) (label : String) : Result Unit :=
  failIf ((values.zip values.tail).any fun pair => decide (pair.2 ≤ pair.1))
    (.validation s!"Runmill {label} must be unique and lexically sorted")

/-- `validate_sorted_references` (lines 1672-1682). -/
def validateSortedReferences (values : List String) (label : String) : Checked Unit := do
  Exec.failIf (2048 < values.length) (.validation s!"{label} exceeds the Runmill bound")
  values.forM fun value => validateReference value label
  Exec.lift (validateLexicallySortedUnique values label)

/-- `validate_sorted_paths` (lines 1684-1694). -/
def validateSortedPaths (values : List String) : Result Unit := do
  failIf (2048 < values.length) (.validation "Runmill changed paths exceed the manifest bound")
  values.forM validatePath
  validateLexicallySortedUnique values "changed paths"

/-- `validate_signature_encoding` (lines 1564-1579). -/
def validateSignatureEncoding (value : String) : Result Unit := do
  let encoded ← okOr (.validation "Runmill signature must have the base64url prefix")
    (afterStart "base64url:" value)
  let decoded ← okOr (.validation "Runmill signature is not base64url") (Base64.decode encoded)
  failIf (decoded.length ≠ 64 ∨ Base64.encode decoded ≠ encoded)
    (.validation "Runmill signature is not canonical 64-byte Ed25519 base64url")

/-- `validate_subject_name` (lines 1729-1745). -/
def validateSubjectName (value : String) : Result Unit :=
  match splitOnce ':' value with
  | none => .error (.validation "Runmill statement subject is malformed")
  | some (forge, repository) => do
    failIf (forge.isEmpty ∨ ¬ (bytes forge).all isRepositoryByte)
      (.validation "Runmill statement forge is malformed")
    validateRepository repository

/-- `validate_public_https_url` (lines 1773-1789). -/
def validatePublicHttpsUrl (p : Primitives) (value : String) : Result Unit :=
  match p.parseUrl value with
  | .error _ => .error (.validation "Runmill pull-request URL is malformed")
  | .ok url => failIf (url.scheme ≠ "https" ∨ url.hostStr = none ∨ ¬ url.username.isEmpty
      ∨ url.password ≠ none ∨ url.query ≠ none ∨ url.fragment ≠ none)
    (.validation ("Runmill pull-request URL must be public HTTPS without credentials, query, or "
      ++ "fragment"))

/-- `validate_cas_location` (lines 1791-1807). -/
def validateCasLocation (value : String) : Result Unit := do
  let digest ← okOr (.validation "Runmill artifact location is not CAS")
    (afterStart "cas://sha256/" value)
  failIf ((bytes digest).length ≠ 64 ∨ ¬ (bytes digest).all isLowerHexByte)
    (.validation "Runmill artifact CAS location is malformed")

section AcceptedLists

variable {values : List String} {value label : String}

theorem zip_tail_any_eq_false_iff :
    (values.zip values.tail).any (fun pair => decide (pair.2 ≤ pair.1)) = false
      ↔ values.Pairwise (· < ·) := by
  rw [← List.isChain_iff_pairwise]
  induction values with
  | nil => simp
  | cons first rest ih =>
    cases rest with
    | nil => simp
    | cons second rest =>
      rw [List.isChain_cons_cons, ← ih]
      simp

theorem validateLexicallySortedUnique_eq_ok_iff :
    validateLexicallySortedUnique values label = .ok () ↔ values.Pairwise (· < ·) := by
  rw [validateLexicallySortedUnique, failIf_eq_ok_iff, Bool.not_eq_true, zip_tail_any_eq_false_iff]

theorem validateSortedReferences_eq_ok_iff :
    validateSortedReferences values label = .ok ()
      ↔ values.length ≤ 2048 ∧ (∀ value ∈ values, isReference value) ∧ values.Pairwise (· < ·) := by
  simp only [validateSortedReferences, seq_eq_ok_iff, Exec.failIf_eq_ok_iff, not_lt, forM_eq_ok_iff,
    validateReference_eq_ok_iff, Exec.lift_eq_ok_iff, validateLexicallySortedUnique_eq_ok_iff]

theorem validateSortedPaths_eq_ok_iff :
    validateSortedPaths values = .ok ()
      ↔ values.length ≤ 2048 ∧ (∀ value ∈ values, validatePath value = .ok ())
        ∧ values.Pairwise (· < ·) := by
  simp only [validateSortedPaths, seq_eq_ok_iff, failIf_eq_ok_iff, not_lt, forM_eq_ok_iff,
    validateLexicallySortedUnique_eq_ok_iff]

theorem validateSortedReferences_noPanic : NoPanic (validateSortedReferences values label) := by
  simp [validateSortedReferences, validateReference_noPanic]

/-- The texts are those of 64 bytes, without other spellings of them. -/
theorem validateSignatureEncoding_eq_ok_iff :
    validateSignatureEncoding value = .ok ()
      ↔ ∃ signature : Block 64, value = "base64url:" ++ Base64.encode signature.val := by
  simp only [validateSignatureEncoding, bind_eq_ok_iff, okOr_eq_ok_iff, afterStart_eq_some_iff,
    failIf_eq_ok_iff, not_or, not_not]
  constructor
  · rintro ⟨encoded, rfl, decoded, -, hlength, rfl⟩
    exact ⟨⟨decoded, hlength⟩, rfl⟩
  · rintro ⟨signature, rfl⟩
    exact ⟨_, rfl, signature.val, Base64.decode_encode _, signature.property, rfl⟩

theorem validateCasLocation_eq_ok_iff :
    validateCasLocation value = .ok ()
      ↔ ∃ digest, value = "cas://sha256/" ++ digest ∧ (bytes digest).length = 64
        ∧ (bytes digest).all isLowerHexByte := by
  simp only [validateCasLocation, bind_eq_ok_iff, okOr_eq_ok_iff, afterStart_eq_some_iff,
    failIf_eq_ok_iff, not_or, not_not]

end AcceptedLists

/-! ## Times -/

/-- `RunmillEvidenceTimestamp` (lines 63-67): the text that was signed. -/
structure RunmillEvidenceTimestamp where
  text : String
deriving DecidableEq

/-- `RunmillEvidenceTimestamp::to_utc` (lines 81-90). -/
def RunmillEvidenceTimestamp.toUtc (p : Primitives) (time : RunmillEvidenceTimestamp) :
    Result DateTime := do
  failIf (64 < (bytes time.text).length ∨ ¬ hasChar time.text 'T')
    (.validation "Runmill evidence timestamp is not bounded RFC 3339")
  okOr (.validation "Runmill evidence timestamp is not RFC 3339") (p.parseRfc3339 time.text)

end Asf.Evidence
