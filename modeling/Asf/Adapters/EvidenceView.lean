import Asf.Adapters.EventPages
import Asf.Evidence.Ingestion

/-!
# Evidence views at the control adapter (`src/adapters/runmill_control.rs`)

`RunmillEvidenceView::validate` checks the view of a run's evidence that Runmill
answers with. An artifact is listed with a digest and with a location, and the check
reads each of the two by itself.

Results:

* `validate_relocate_iff`: an accepted view stays accepted with other locations of the
  right form.
* `locations_bound_iff`: only a view without artifacts has its locations bound to the
  digests by the check.
-/

namespace Asf.Adapters

open Contracts Lib
open Evidence (RunmillArtifactReference isMediaByte)
open Json (asStr)
open Exec (lift)

variable {p : Primitives} {validateEventPayload : RunmillRunEvent → RunmillControlResult Unit}
  (artifact : RunmillArtifactReference) (location : String)

/-! ## The view -/

/-- `RunmillEvidenceStatus` (lines 578-585). -/
inductive RunmillEvidenceStatus where
  | current | stopped | finalizing | final
deriving DecidableEq

/-- `RunmillEvidenceView` (lines 607-626). -/
structure RunmillEvidenceView where
  (schema runId workOrderId attemptId : String)
  phase : RunmillRunPhase
  candidateSha : Option String
  policyDigest : String
  latestSequence : ℕ
  status : RunmillEvidenceStatus
  complete : Bool
  bundleDigest : Option String
  artifacts : List RunmillArtifactReference
  latestEvent : Option RunmillRunEvent
  signedBundle : Option Json
  terminalBundleDigest : Option String
  signedTerminalBundle : Option Json

/-! ## The checks -/

/-- `if rejected { return Err(RunmillControlError::MalformedResponse) }`. -/
def malformedIf (rejected : Prop) [Decidable rejected] : Exec RunmillControlError Unit :=
  Exec.failIf rejected .malformedResponse

/-- `valid_media_type` (lines 4294-4307). -/
def validMediaType (value : String) : Bool :=
  (splitOnce '/' value).any fun (kind, subtype) =>
    !kind.isEmpty && !subtype.isEmpty
      && (bytes value).all fun byte => isMediaByte byte || byte == 47

/-- The test of a location (lines 1894-1899). -/
def validLocation : Bool :=
  (afterStart "cas://sha256/" location).any fun digest =>
    (bytes digest).length == 64 && (bytes digest).all isLowerHexByte

/-- `RunmillArtifactReference::validate` (lines 1885-1901). -/
def validateArtifact : Exec RunmillControlError Unit := do
  malformedIf (¬ validIdentifier artifact.artifactId 256 true
    ∨ ¬ validPublicString artifact.kind 256
    ∨ artifact.sizeBytes > 1073741824 ∨ ¬ validMediaType artifact.mediaType)
  malformedIf (¬ validDigest artifact.digest)
  malformedIf (¬ validLocation artifact.locationRef)

/-- `validate_signed_evidence` (lines 3470-3537). -/
def validateSignedEvidence (p : Primitives) (value : Json) (expectedDigest : Option String) :
    Exec RunmillControlError Unit := do
  let bundle ← lift (requireExactObject value
    ["schema", "key_id", "algorithm", "issued_at", "bundle_digest", "statement", "signature"])
  malformedIf ((bundle.get "schema").bind asStr ≠ some "asf.signed-evidence/v1"
    ∨ (bundle.get "algorithm").bind asStr ≠ some "EdDSA"
    ∨ ¬ ((bundle.get "key_id").bind asStr).any (validIdentifier · 256 true)
    ∨ ¬ ((bundle.get "issued_at").bind asStr).any (validTimestamp p))
  let digest ← lift (okOr .malformedResponse ((bundle.get "bundle_digest").bind asStr))
  malformedIf (¬ validDigest digest)
  malformedIf (expectedDigest ≠ some digest)
  let signature ← lift (okOr .malformedResponse ((bundle.get "signature").bind asStr))
  malformedIf (¬ (afterStart "base64url:" signature).any fun encoded =>
    !encoded.isEmpty && (Base64.decode encoded).isSome)
  let document ← lift (okOr .malformedResponse (bundle.get "statement"))
  let statement ← lift (requireExactObject document
    ["_type", "subject", "predicateType", "predicate"])
  malformedIf ((statement.get "_type").bind asStr ≠ some "https://in-toto.io/Statement/v1"
    ∨ (statement.get "predicateType").bind asStr
      ≠ some "https://runmill.dev/attestations/asf-evidence/v1"
    ∨ ((statement.get "subject").bind Json.asArray).isNone
    ∨ ((((statement.get "predicate").bind Json.asObject).bind (Map.get · "schema")).bind asStr)
      ≠ some "asf.evidence-bundle/v1")

/-- The check of a terminal bundle (lines 1856-1867). -/
def validateTerminalBundle (bundle : Json) : Exec RunmillControlError Unit := do
  lift ((rejectSensitiveFields bundle).mapError fun _ => .malformedResponse)
  let object ← lift (okOr .malformedResponse bundle.asObject)
  malformedIf (object = [])

namespace RunmillEvidenceView

variable (view : RunmillEvidenceView) (locate : RunmillArtifactReference → String)

/-- What the status of a view rules out (lines 1799-1830). -/
def contradictsStatus : Bool :=
  match view.status with
  | .current =>
    view.complete || view.bundleDigest.isSome || !view.artifacts.isEmpty || view.signedBundle.isSome
  | .stopped =>
    view.bundleDigest.isSome || !view.artifacts.isEmpty || view.signedBundle.isSome
      || (!view.phase.terminal && view.complete)
  | .finalizing => view.complete || view.bundleDigest.isNone || view.signedBundle.isNone
  | .final => !view.complete || view.bundleDigest.isNone || view.signedBundle.isNone

/-- The checks before the artifacts (lines 1769-1839). -/
def validateState : Exec RunmillControlError Unit := do
  malformedIf (view.schema ≠ "asf.evidence-view/v1" ∨ ¬ validPublicString view.workOrderId 1024
    ∨ ¬ validPublicString view.attemptId 1024 ∨ view.latestSequence > maxSafeInteger)
  malformedIf (¬ validDigest view.policyDigest)
  malformedIf (view.candidateSha.any fun sha => !validGitSha sha false)
  malformedIf (view.terminalBundleDigest.isSome ≠ view.signedTerminalBundle.isSome)
  if view.phase.terminal then
    malformedIf (¬ view.complete ∨ view.terminalBundleDigest.isNone
      ∨ view.signedTerminalBundle.isNone)
  else malformedIf (view.terminalBundleDigest.isSome ∨ view.signedTerminalBundle.isSome)
  malformedIf view.contradictsStatus
  malformedIf (view.phase.terminal ∧ view.status = .current)
  (view.bundleDigest.toList ++ view.terminalBundleDigest.toList).forM fun digest =>
    malformedIf (¬ validDigest digest)

/-- The checks after the artifacts (lines 1843-1867). -/
def validateDocuments (p : Primitives)
    (validateEventPayload : RunmillRunEvent → RunmillControlResult Unit) :
    Exec RunmillControlError Unit := do
  view.latestEvent.toList.forM fun event => do
    event.validate validateEventPayload
    malformedIf (event.runId ≠ view.runId ∨ event.workOrderId ≠ view.workOrderId
      ∨ event.attemptId ≠ view.attemptId ∨ event.seq ≠ view.latestSequence)
  view.signedBundle.toList.forM (validateSignedEvidence p · view.bundleDigest)
  view.signedTerminalBundle.toList.forM validateTerminalBundle

/-- `RunmillEvidenceView::validate` (lines 1768-1869). -/
def validate (p : Primitives) (validateEventPayload : RunmillRunEvent → RunmillControlResult Unit) :
    Exec RunmillControlError Unit := do
  view.validateState
  view.artifacts.forM validateArtifact
  view.validateDocuments p validateEventPayload

/-! ## Other locations -/

/-- The view with other locations. -/
def relocate : RunmillEvidenceView :=
  { view with
    artifacts := view.artifacts.map fun artifact =>
      { artifact with locationRef := locate artifact } }

variable {view}

theorem validate_eq_ok_iff :
    view.validate p validateEventPayload = .ok ()
      ↔ view.validateState = .ok ()
        ∧ (∀ artifact ∈ view.artifacts, validateArtifact artifact = .ok ())
        ∧ view.validateDocuments p validateEventPayload = .ok () := by
  rw [validate, seq_eq_ok_iff, seq_eq_ok_iff, forM_eq_ok_iff]

theorem validateState_relocate : (view.relocate locate).validateState = view.validateState := by
  have hstatus : (view.relocate locate).contradictsStatus = view.contradictsStatus := by
    simp only [contradictsStatus, relocate, List.isEmpty_map]
  simp only [validateState, hstatus]
  rfl

/-- The digest of an artifact has no part in the check of its location. -/
theorem validateArtifact_relocated_iff {artifact : RunmillArtifactReference} {location : String}
    (h : validateArtifact artifact = .ok ()) :
    validateArtifact { artifact with locationRef := location } = .ok ()
      ↔ validLocation location := by
  simp only [validateArtifact, malformedIf, seq_eq_ok_iff, Exec.failIf_eq_ok_iff] at h ⊢
  simp only [h.1, h.2.1, true_and, not_not, not_false_eq_true]

theorem validate_relocate_iff (h : view.validate p validateEventPayload = .ok ())
    (locate : RunmillArtifactReference → String) :
    (view.relocate locate).validate p validateEventPayload = .ok ()
      ↔ ∀ artifact ∈ view.artifacts, validLocation (locate artifact) := by
  obtain ⟨hstate, hartifacts, hdocuments⟩ := validate_eq_ok_iff.mp h
  have hsame : (view.relocate locate).validateDocuments p validateEventPayload
      = view.validateDocuments p validateEventPayload := rfl
  rw [validate_eq_ok_iff, validateState_relocate, hsame, and_iff_right hstate,
    and_iff_left hdocuments, relocate, List.forall_mem_map]
  exact forall₂_congr fun artifact hartifact =>
    validateArtifact_relocated_iff (hartifacts artifact hartifact)

end RunmillEvidenceView

/-- The location of an artifact is that of its digest. -/
def isAddressed : Bool :=
  (afterStart "sha256:" artifact.digest).map ("cas://sha256/" ++ ·) == some artifact.locationRef

/-- The location that repeats a digit. -/
def locationOf (digit : Char) : String :=
  "cas://sha256/" ++ String.ofList (List.replicate 64 digit)

theorem validLocation_locationOf :
    validLocation (locationOf '0') ∧ validLocation (locationOf '1') := by
  decide +kernel

theorem locations_bound_iff (p : Primitives)
    (validateEventPayload : RunmillRunEvent → RunmillControlResult Unit)
    (view : RunmillEvidenceView) (h : view.validate p validateEventPayload = .ok ()) :
    (∀ locate, (view.relocate locate).validate p validateEventPayload = .ok () →
        ∀ artifact ∈ (view.relocate locate).artifacts, isAddressed artifact)
      ↔ view.artifacts = [] := by
  constructor
  · intro hbound
    rw [List.eq_nil_iff_forall_not_mem]
    intro artifact hartifact
    -- Two locations of the right form cannot both be that of the digest.
    have hlocated {digit : Char} (hdigit : validLocation (locationOf digit)) :
        (afterStart "sha256:" artifact.digest).map ("cas://sha256/" ++ ·)
          = some (locationOf digit) :=
      beq_iff_eq.mp (hbound (fun _ => locationOf digit)
        ((RunmillEvidenceView.validate_relocate_iff h _).mpr fun _ _ => hdigit) _
        (List.mem_map_of_mem hartifact))
    have hsame := (hlocated validLocation_locationOf.1).symm.trans
      (hlocated validLocation_locationOf.2)
    exact absurd (Option.some.inj hsame) (by decide +kernel)
  · intro hnil locate _ artifact hartifact
    simp [RunmillEvidenceView.relocate, hnil] at hartifact

/-- A view that is finalized and lists one artifact, the digest of which is all zeros. -/
def finalizingView : RunmillEvidenceView where
  schema := "asf.evidence-view/v1"
  runId := "run"
  workOrderId := "order"
  attemptId := "attempt"
  phase := .prDelivered
  candidateSha := none
  policyDigest := sampleDigest
  latestSequence := 1
  status := .finalizing
  complete := false
  bundleDigest := some sampleDigest
  artifacts := [⟨"artifact", "log", sampleDigest, 1, "text/plain", .portable, location⟩]
  latestEvent := none
  signedBundle := some (.obj
    [("schema", .str "asf.signed-evidence/v1"), ("key_id", .str "key"), ("algorithm", .str "EdDSA"),
      ("issued_at", .str "2000-01-01T00:00:00Z"), ("bundle_digest", .str sampleDigest),
      ("statement", .obj [("_type", .str "https://in-toto.io/Statement/v1"), ("subject", .arr []),
        ("predicateType", .str "https://runmill.dev/attestations/asf-evidence/v1"),
        ("predicate", .obj [("schema", .str "asf.evidence-bundle/v1")])]),
      ("signature", .str "base64url:AAAA")])
  terminalBundleDigest := none
  signedTerminalBundle := none

theorem locations_bound_finalizing :
    ¬ ∀ locate, ((finalizingView (locationOf '0')).relocate locate).validate Instance.primitives
        leasePayload = .ok () →
      ∀ artifact ∈ ((finalizingView (locationOf '0')).relocate locate).artifacts,
        isAddressed artifact := by
  rw [locations_bound_iff Instance.primitives leasePayload _ (by decide +kernel)]
  exact List.cons_ne_nil _ _

/-- The artifact with the digest of zeros is listed at the location of ones. -/
theorem location_unbound :
    (finalizingView (locationOf '1')).validate Instance.primitives leasePayload = .ok ()
      ∧ ¬ ∀ artifact ∈ (finalizingView (locationOf '1')).artifacts, isAddressed artifact := by
  decide +kernel

end Asf.Adapters
