import Asf.Contracts.SignedWorkOrder

/-!
# Closed Linear issues (`src/adapters/linear.rs`)

An issue that ASF closed carries a signed marker in a comment. Two calls read it:
`observe_source` says what the issue is now, and `reconcile_source_close` whether a
given close was applied.

Result:

* `closure_views_agree_iff`: when the two calls agree. `reconcile_source_close` asks only
  for the completed state, which an archived or canceled issue keeps.
-/

namespace Asf.Adapters.Linear

open Contracts (SourceSystem)

/-! ## The port (`src/ports/source.rs`) -/

inductive SourceGatewayError where
  | invalidRequest (message : String)
  | unsupportedContract (detail : String)
  | invalidProviderResponse
  | sourceStateConflict
  | idempotencyConflict (idempotencyKey existingDigest submittedDigest : String)

abbrev SourceResult := Except SourceGatewayError

/-- `if rejected { return Err(error) }`. -/
def refuseIf (rejected : Prop) [Decidable rejected] (error : SourceGatewayError) :
    SourceResult Unit :=
  if rejected then .error error else .ok ()

@[simp] theorem refuseIf_eq_ok_iff {rejected : Prop} [Decidable rejected]
    {error : SourceGatewayError} {u : Unit} : refuseIf rejected error = .ok u ↔ ¬ rejected := by
  unfold refuseIf
  split_ifs with h <;> simp [h]

structure SourceItemRef where
  tenantId : Uuid
  source : SourceSystem
  externalId : String
deriving DecidableEq

/-- `SourceItemRef::validate` (source.rs:34-41). -/
def SourceItemRef.validate (item : SourceItemRef) : SourceResult Unit :=
  refuseIf (isBlank item.externalId) (.invalidRequest "source external ID is required")

structure ObserveSourceRequest where
  schema : String
  item : SourceItemRef

/-- `ObserveSourceRequest::validate` (source.rs:138-146). -/
def ObserveSourceRequest.validate (request : ObserveSourceRequest) : SourceResult Unit := do
  refuseIf (request.schema ≠ "asf.observe-source-request.v1")
    (.invalidRequest "unsupported source-observation request schema")
  request.item.validate

structure ReconcileSourceCloseRequest where
  schema : String
  item : SourceItemRef
  (idempotencyKey effectDigest correlationMarker : String)

/-- `ReconcileSourceCloseRequest::validate` (source.rs:368-384). -/
def ReconcileSourceCloseRequest.validate (request : ReconcileSourceCloseRequest) :
    SourceResult Unit := do
  refuseIf (request.schema ≠ "asf.reconcile-source-close-request.v1")
    (.invalidRequest "unsupported source-close reconciliation schema")
  request.item.validate
  refuseIf (isBlank request.idempotencyKey ∨ isBlank request.effectDigest
      ∨ isBlank request.correlationMarker)
    (.invalidRequest "source-close reconciliation identity is incomplete")

inductive SourceLifecycle where
  | active | completed | canceled | deleted
deriving DecidableEq

/-- `SourceCloseReceipt` without its schema, and with the one disposition that is used
    here, `Reconciled`. -/
structure SourceCloseReceipt where
  item : SourceItemRef
  (idempotencyKey effectDigest correlationMarker providerRevision : String)
  recordedAt : DateTime

structure SourceObservation (Snapshot : Type) where
  item : SourceItemRef
  lifecycle : SourceLifecycle
  currentSnapshot : Option Snapshot
  appliedClosure : Option SourceCloseReceipt
  observedAt : DateTime

inductive SourceCloseReconciliation where
  | applied (receipt : SourceCloseReceipt)
  | notObserved

def SourceCloseReconciliation.IsApplied (outcome : SourceCloseReconciliation) : Prop :=
  ∃ receipt, outcome = .applied receipt

/-- The closure in the observation is the one of the request. -/
def SourceObservation.ReportsClose {Snapshot : Type} (observation : SourceObservation Snapshot)
    (request : ReconcileSourceCloseRequest) : Prop :=
  observation.lifecycle = .completed
    ∧ ∃ receipt ∈ observation.appliedClosure, receipt.idempotencyKey = request.idempotencyKey
      ∧ receipt.effectDigest = request.effectDigest
      ∧ receipt.correlationMarker = request.correlationMarker

/-! ## The adapter -/

/-- What is read of a `LinearIssue` (lines 1567-1590). -/
structure LinearIssue where
  updatedAt : DateTime
  (archivedAt canceledAt : Option DateTime)
  (stateId stateKind teamId : String)

/-- The issue is archived or canceled. -/
def LinearIssue.IsWithdrawn (issue : LinearIssue) : Prop :=
  issue.archivedAt.isSome ∨ issue.canceledAt.isSome ∨ toAsciiLowercase issue.stateKind = "canceled"

structure LinearComment where
  (id body : String)
  createdAt : DateTime

structure ObservedIssue where
  core : LinearIssue
  comments : List LinearComment

structure LinearCloseMarker where
  version : ℕ
  (tenantId externalId idempotencyKey effectDigest correlationMarker : String)
deriving DecidableEq

structure ObservedMarker where
  payload : LinearCloseMarker
  commentId : String
  recordedAt : DateTime

/-- What is read of a `LinearApiConfig`: the completed state of each mapped team. -/
structure LinearApiConfig where
  tenantId : Uuid
  completedStateId : String → Option String

/-- The adapter. What is not looked into is a parameter: the reader of signed markers in a
    text, the normal form of an issue and the text of a revision. -/
structure LinearApiAdapter (Snapshot : Type) where
  configured : Option LinearApiConfig
  decodeMarkers : LinearApiConfig → String → List LinearCloseMarker
  normalizeIssue : Uuid → LinearIssue → SourceResult Snapshot
  providerRevision : DateTime → String

/-- `team_mapping` (lines 1027-1037). -/
def teamMapping (config : LinearApiConfig) (teamId : String) : SourceResult String :=
  okOr .invalidProviderResponse (config.completedStateId teamId)

/-- `source_lifecycle` (lines 1039-1054). -/
def sourceLifecycle (config : LinearApiConfig) (issue : LinearIssue) :
    SourceResult SourceLifecycle := do
  let completedStateId ← teamMapping config issue.teamId
  if issue.archivedAt.isSome then return .deleted
  else if issue.canceledAt.isSome ∨ toAsciiLowercase issue.stateKind = "canceled" then
    return .canceled
  else if issue.stateId = completedStateId then return .completed
  else return .active

/-- `is_trusted_completed` (lines 1056-1058). -/
def isTrustedCompleted (config : LinearApiConfig) (issue : LinearIssue) : SourceResult Bool := do
  let completedStateId ← teamMapping config issue.teamId
  return issue.stateId = completedStateId

theorem sourceLifecycle_completed_iff {config : LinearApiConfig} {issue : LinearIssue}
    {lifecycle : SourceLifecycle} (h : sourceLifecycle config issue = .ok lifecycle) :
    lifecycle = .completed
      ↔ ¬ issue.IsWithdrawn ∧ config.completedStateId issue.teamId = some issue.stateId := by
  simp only [sourceLifecycle, teamMapping, bind_eq_ok_iff, okOr_eq_ok_iff] at h
  obtain ⟨completed, hcompleted, hreturn⟩ := h
  rw [hcompleted, Option.some.injEq, eq_comm (a := completed), LinearIssue.IsWithdrawn]
  split_ifs at hreturn <;> cases hreturn <;> simp_all

theorem isTrustedCompleted_iff {config : LinearApiConfig} {issue : LinearIssue} {trusted : Bool}
    (h : isTrustedCompleted config issue = .ok trusted) :
    trusted ↔ config.completedStateId issue.teamId = some issue.stateId := by
  simp only [isTrustedCompleted, teamMapping, bind_eq_ok_iff, okOr_eq_ok_iff] at h
  obtain ⟨completed, hcompleted, hreturn⟩ := h
  cases hreturn
  simp [hcompleted, eq_comm]

namespace LinearApiAdapter

variable {Snapshot : Type} (adapter : LinearApiAdapter Snapshot) {markers : List ObservedMarker}
  {item : SourceItemRef} (queried : SourceResult (Option ObservedIssue))

/-- `configured` (lines 287-293). -/
def requireConfigured : SourceResult LinearApiConfig :=
  okOr (.unsupportedContract
    "Linear tenant, team mappings, completed states, and authentication are not configured")
    adapter.configured

/-- `require_linear_item` (lines 435-443), with `require_tenant`. -/
def requireLinearItem (item : SourceItemRef) : SourceResult LinearApiConfig := do
  item.validate
  refuseIf (item.source ≠ .linear) (.invalidRequest "Linear adapter requires a Linear source item")
  let config ← adapter.requireConfigured
  refuseIf (config.tenantId ≠ item.tenantId)
    (.invalidRequest "source tenant is outside this Linear connector boundary")
  return config

/-- `signed_markers` (lines 494-511). -/
def signedMarkers (observed : ObservedIssue) : SourceResult (List ObservedMarker) := do
  let config ← adapter.requireConfigured
  refuseIf (∃ comment ∈ observed.comments, isBlank comment.id) .invalidProviderResponse
  return observed.comments.flatMap fun comment =>
    (adapter.decodeMarkers config comment.body).map (⟨·, comment.id, comment.createdAt⟩)

/-- The marker is for another item. -/
def isForeign (item : SourceItemRef) (payload : LinearCloseMarker) : Prop :=
  payload.tenantId ≠ item.tenantId.toText ∨ payload.externalId ≠ item.externalId

instance (item : SourceItemRef) (payload : LinearCloseMarker) :
    Decidable (isForeign item payload) :=
  inferInstanceAs (Decidable (_ ∨ _))

/-- One turn of the loop of `marker_for_reconciliation` (lines 562-588). -/
def reconcileMarker (request : ReconcileSourceCloseRequest) (exact : Option ObservedMarker)
    (marker : ObservedMarker) : SourceResult (Option ObservedMarker) := do
  let conflict := SourceGatewayError.idempotencyConflict request.idempotencyKey
    marker.payload.effectDigest request.effectDigest
  refuseIf (isForeign request.item marker.payload) .sourceStateConflict
  if marker.payload.idempotencyKey = request.idempotencyKey then do
    refuseIf (marker.payload.effectDigest ≠ request.effectDigest) conflict
    refuseIf (marker.payload.correlationMarker ≠ request.correlationMarker) .sourceStateConflict
    return exact.or (some marker)
  else do
    refuseIf (marker.payload.correlationMarker = request.correlationMarker) conflict
    return exact

/-- `marker_for_reconciliation` (lines 556-591). -/
def markerForReconciliation (observed : ObservedIssue) (request : ReconcileSourceCloseRequest) :
    SourceResult (Option ObservedMarker) := do
  (← adapter.signedMarkers observed).foldlM (reconcileMarker request) none

/-- One turn of the loop of `observed_applied_marker` (lines 599-615). -/
def observeMarker (item : SourceItemRef) (unique : Option ObservedMarker)
    (marker : ObservedMarker) : SourceResult (Option ObservedMarker) := do
  refuseIf (isForeign item marker.payload) .sourceStateConflict
  match unique with
  | none => return some marker
  | some current => do
    refuseIf (current.payload ≠ marker.payload) .sourceStateConflict
    return some (if marker.recordedAt.nanos < current.recordedAt.nanos
      ∨ marker.recordedAt.nanos = current.recordedAt.nanos ∧ marker.commentId < current.commentId
      then marker else current)

/-- `observed_applied_marker` (lines 593-618). -/
def observedAppliedMarker (item : SourceItemRef) (observed : ObservedIssue) :
    SourceResult (Option ObservedMarker) := do
  (← adapter.signedMarkers observed).foldlM (observeMarker item) none

/-- `receipt` (lines 620-636). -/
def receipt (item : SourceItemRef) (marker : ObservedMarker) (providerRevision : String) :
    SourceCloseReceipt where
  item := item
  idempotencyKey := marker.payload.idempotencyKey
  effectDigest := marker.payload.effectDigest
  correlationMarker := marker.payload.correlationMarker
  providerRevision := providerRevision
  recordedAt := marker.recordedAt

/-- `observe_source` (lines 715-755) on what `query_issue` answers. -/
def observeSource (observedAt : DateTime)
    (request : ObserveSourceRequest) : SourceResult (SourceObservation Snapshot) := do
  request.validate
  let _ ← adapter.requireLinearItem request.item
  match ← queried with
  | none => return ⟨request.item, .deleted, none, none, observedAt⟩
  | some observed => do
    let snapshot ← adapter.normalizeIssue request.item.tenantId observed.core
    let config ← adapter.requireConfigured
    let lifecycle ← sourceLifecycle config observed.core
    let marker ← adapter.observedAppliedMarker request.item observed
    return ⟨request.item, lifecycle, some snapshot,
      if lifecycle = .completed then marker.map (receipt request.item ·
        (adapter.providerRevision observed.core.updatedAt)) else none, observedAt⟩

/-- `reconcile_source_close` (lines 863-885) on what `query_issue` answers. -/
def reconcileSourceClose
    (request : ReconcileSourceCloseRequest) : SourceResult SourceCloseReconciliation := do
  request.validate
  let config ← adapter.requireLinearItem request.item
  match ← queried with
  | none => return .notObserved
  | some observed => do
    match ← adapter.markerForReconciliation observed request with
    | none => return .notObserved
    | some marker => do
      if ← isTrustedCompleted config observed.core then
        return .applied (receipt request.item marker
          (adapter.providerRevision observed.core.updatedAt))
      else return .notObserved

/-! ## The markers that the loops return -/

/-- The loop of `observed_applied_marker` returns a marker with the one payload there is. -/
theorem foldlM_observeMarker {unique result : Option ObservedMarker}
    (h : markers.foldlM (observeMarker item) unique = .ok result) (payload : LinearCloseMarker) :
    (∃ marker ∈ result, marker.payload = payload)
      ↔ ∃ marker ∈ unique.toList ++ markers, marker.payload = payload := by
  induction markers generalizing unique with
  | nil => cases h; simp
  | cons marker markers ih =>
    rw [List.foldlM_cons, bind_eq_ok_iff] at h
    obtain ⟨next, hstep, hrest⟩ := h
    rw [ih hrest]
    simp only [observeMarker, bind_eq_ok_iff, exists_unit_iff, refuseIf_eq_ok_iff] at hstep
    cases unique with
    | none => cases hstep.2; simp
    | some current =>
      simp only [bind_eq_ok_iff, exists_unit_iff, refuseIf_eq_ok_iff, not_not] at hstep
      obtain ⟨-, hsame, hnext⟩ := hstep
      cases hnext
      split_ifs <;> simp [hsame]

/-- The loop of `marker_for_reconciliation` returns a marker if there is one with the
    request's key, and such a marker is for the request's effect. -/
theorem foldlM_reconcileMarker {request : ReconcileSourceCloseRequest}
    {exact result : Option ObservedMarker}
    (h : markers.foldlM (reconcileMarker request) exact = .ok result) :
    (result.isSome ↔ exact.isSome
        ∨ ∃ marker ∈ markers, marker.payload.idempotencyKey = request.idempotencyKey)
      ∧ ∀ marker ∈ markers, marker.payload.idempotencyKey = request.idempotencyKey →
        marker.payload.effectDigest = request.effectDigest
          ∧ marker.payload.correlationMarker = request.correlationMarker := by
  induction markers generalizing exact with
  | nil => cases h; simp
  | cons marker markers ih =>
    rw [List.foldlM_cons, bind_eq_ok_iff] at h
    obtain ⟨next, hstep, hrest⟩ := h
    obtain ⟨hsome, hall⟩ := ih hrest
    simp only [reconcileMarker, bind_eq_ok_iff, exists_unit_iff, refuseIf_eq_ok_iff] at hstep
    rw [List.forall_mem_cons, hsome]
    by_cases hkey : marker.payload.idempotencyKey = request.idempotencyKey
    · simp only [hkey, if_true, bind_eq_ok_iff, exists_unit_iff, refuseIf_eq_ok_iff,
        not_not] at hstep
      obtain ⟨-, hdigest, hmarker, hnext⟩ := hstep
      cases hnext
      simpa [hkey, hdigest, hmarker] using hall
    · simp only [hkey, if_false, bind_eq_ok_iff, exists_unit_iff, refuseIf_eq_ok_iff] at hstep
      obtain ⟨-, -, hnext⟩ := hstep
      cases hnext
      simpa [hkey] using hall

/-! ## The two views -/

/-- A signed marker in a comment has the payload. -/
def Carries (config : LinearApiConfig) (observed : ObservedIssue) (payload : LinearCloseMarker) :
    Prop :=
  ∃ comment ∈ observed.comments, payload ∈ adapter.decodeMarkers config comment.body

/-- The issue is in its team's completed state and carries a marker with the key. -/
def IsClosedWith (observed : ObservedIssue) (key : String) : Prop :=
  ∃ config, adapter.configured = some config
    ∧ config.completedStateId observed.core.teamId = some observed.core.stateId
    ∧ ∃ payload, adapter.Carries config observed payload ∧ payload.idempotencyKey = key

variable {adapter} {config : LinearApiConfig} {observed : ObservedIssue}
  {observeRequest : ObserveSourceRequest} {request : ReconcileSourceCloseRequest}
  {observedAt : DateTime} {observation : SourceObservation Snapshot}
  {outcome : SourceCloseReconciliation}

theorem exists_signedMarkers_iff (hconfig : adapter.configured = some config)
    (h : adapter.signedMarkers observed = .ok markers) (payload : LinearCloseMarker) :
    (∃ marker ∈ markers, marker.payload = payload) ↔ adapter.Carries config observed payload := by
  simp only [signedMarkers, requireConfigured, hconfig, okOr, bind_eq_ok_iff, Except.ok.injEq,
    exists_eq_left', exists_unit_iff, refuseIf_eq_ok_iff] at h
  cases h.2
  simp [Carries]

theorem configured_of_requireLinearItem
    (h : adapter.requireLinearItem item = .ok config) : adapter.configured = some config := by
  simp only [requireLinearItem, requireConfigured, bind_eq_ok_iff, exists_unit_iff,
    refuseIf_eq_ok_iff, okOr_eq_ok_iff] at h
  obtain ⟨-, -, found, hfound, -, hconfig⟩ := h
  cases hconfig
  exact hfound

/-- `reconcile_source_close` reports the close exactly if the issue is closed with the key. -/
theorem isApplied_iff
    (h : adapter.reconcileSourceClose (.ok (some observed)) request = .ok outcome) :
    (outcome.IsApplied ↔ adapter.IsClosedWith observed request.idempotencyKey)
      ∧ ∀ config ∈ adapter.configured, ∀ payload, adapter.Carries config observed payload →
        payload.idempotencyKey = request.idempotencyKey →
        payload.effectDigest = request.effectDigest
          ∧ payload.correlationMarker = request.correlationMarker := by
  simp only [reconcileSourceClose, bind_eq_ok_iff, exists_unit_iff, Except.ok.injEq,
    exists_eq_left', markerForReconciliation] at h
  obtain ⟨-, config, hitem, result, ⟨markers, hmarkers, hfold⟩, houtcome⟩ := h
  have hconfig := configured_of_requireLinearItem hitem
  have hcarries := exists_signedMarkers_iff hconfig hmarkers
  obtain ⟨hsome, hall⟩ := foldlM_reconcileMarker hfold
  have hkeys : (∃ payload, adapter.Carries config observed payload
      ∧ payload.idempotencyKey = request.idempotencyKey) ↔ result.isSome := by
    simp [hsome, ← hcarries]
  simp only [IsClosedWith, hconfig, Option.some.injEq, exists_eq_left', Option.mem_def, forall_eq',
    hkeys]
  refine ⟨?_, fun payload hpayload hkey => ?_⟩
  · cases result with
    | none =>
      cases houtcome
      simp [SourceCloseReconciliation.IsApplied]
    | some marker =>
      obtain ⟨trusted, htrusted, hreturn⟩ := bind_eq_ok_iff.mp houtcome
      rw [← isTrustedCompleted_iff htrusted]
      cases trusted <;> cases hreturn <;> simp [SourceCloseReconciliation.IsApplied]
  · obtain ⟨marker, hmem, rfl⟩ := (hcarries payload).mpr hpayload
    exact hall marker hmem hkey

/-- `observe_source` reports the close only if the issue is not withdrawn as well. -/
theorem reportsClose_iff
    (h : adapter.observeSource (.ok (some observed)) observedAt observeRequest = .ok observation) :
    observation.ReportsClose request ↔ ¬ observed.core.IsWithdrawn
      ∧ ∃ config, adapter.configured = some config
        ∧ config.completedStateId observed.core.teamId = some observed.core.stateId
        ∧ ∃ payload, adapter.Carries config observed payload
          ∧ payload.idempotencyKey = request.idempotencyKey
          ∧ payload.effectDigest = request.effectDigest
          ∧ payload.correlationMarker = request.correlationMarker := by
  simp only [observeSource, bind_eq_ok_iff, exists_unit_iff, Except.ok.injEq, exists_eq_left',
    observedAppliedMarker, requireConfigured, okOr_eq_ok_iff] at h
  obtain ⟨-, -, -, snapshot, -, config, hconfig, lifecycle, hlifecycle, result,
    ⟨markers, hmarkers, hfold⟩, hreturn⟩ := h
  cases hreturn
  have hcarries payload := (foldlM_observeMarker hfold payload).trans
    (exists_signedMarkers_iff hconfig hmarkers payload)
  simp only [SourceObservation.ReportsClose, hconfig, Option.some.injEq, exists_eq_left',
    ← hcarries]
  rw [← and_assoc, ← sourceLifecycle_completed_iff hlifecycle]
  refine and_congr_right fun hcompleted => ?_
  simp [hcompleted, receipt]

/-- Where both calls return on one issue, they agree unless the issue is archived or canceled
    while it is in the completed state and carries a marker with the request's key. That the
    markers have one payload is what lets `observe_source` return. -/
theorem closure_views_agree_iff
    (hobserve : adapter.observeSource (.ok (some observed)) observedAt observeRequest
      = .ok observation)
    (hreconcile : adapter.reconcileSourceClose (.ok (some observed)) request = .ok outcome) :
    (outcome.IsApplied ↔ observation.ReportsClose request)
      ↔ ¬ (observed.core.IsWithdrawn ∧ adapter.IsClosedWith observed request.idempotencyKey) := by
  obtain ⟨happlied, heffect⟩ := isApplied_iff hreconcile
  have hreports : observation.ReportsClose request
      ↔ ¬ observed.core.IsWithdrawn ∧ adapter.IsClosedWith observed request.idempotencyKey := by
    refine (reportsClose_iff hobserve).trans (and_congr_right fun _ => ?_)
    refine exists_congr fun config => and_congr_right fun hconfig => and_congr_right fun _ =>
      exists_congr fun payload => and_congr_right fun hcarries => ?_
    exact and_iff_left_of_imp (heffect config hconfig payload hcarries)
  rw [happlied, hreports]
  tauto

end LinearApiAdapter

namespace Sample

def request : ReconcileSourceCloseRequest where
  schema := "asf.reconcile-source-close-request.v1"
  item := ⟨.ofNat 1, .linear, "issue"⟩
  idempotencyKey := "key"
  effectDigest := "digest"
  correlationMarker := "marker"

/-- An adapter that finds the marker of the request in every comment. -/
def adapter : LinearApiAdapter Unit where
  configured := some ⟨.ofNat 1, fun _ => some "done"⟩
  decodeMarkers _ _ := [⟨1, (Uuid.ofNat 1).toText, "issue", "key", "digest", "marker"⟩]
  normalizeIssue _ _ := .ok ()
  providerRevision _ := "revision"

variable (archivedAt : Option DateTime)

/-- A completed issue with one comment. -/
def issue : ObservedIssue :=
  ⟨⟨⟨0⟩, archivedAt, none, "done", "completed", "team"⟩, [⟨"comment", "", ⟨0⟩⟩]⟩

def observe : SourceResult (SourceObservation Unit) :=
  adapter.observeSource (.ok (some (issue archivedAt))) ⟨1⟩
    ⟨"asf.observe-source-request.v1", request.item⟩

def reconcile : SourceResult SourceCloseReconciliation :=
  adapter.reconcileSourceClose (.ok (some (issue archivedAt))) request

theorem views_agree_on_open_issue : ∃ observation outcome,
    observe none = .ok observation ∧ reconcile none = .ok outcome
      ∧ ((outcome.IsApplied ↔ observation.ReportsClose request)
        ↔ ¬ ((issue none).core.IsWithdrawn ∧ adapter.IsClosedWith (issue none) "key")) := by
  have hok : (observe none).toBool := by decide +kernel
  cases hobserve : observe none with
  | error e => simp [hobserve, Except.toBool] at hok
  | ok observation =>
    exact ⟨observation, _, rfl, rfl, LinearApiAdapter.closure_views_agree_iff hobserve rfl⟩

/-- The close of an archived issue is applied for one call and the issue deleted for the
    other. -/
theorem archived_issue_applied : ∃ observation receipt,
    observe (some ⟨0⟩) = .ok observation ∧ reconcile (some ⟨0⟩) = .ok (.applied receipt)
      ∧ observation.lifecycle = .deleted ∧ observation.appliedClosure = none :=
  ⟨_, _, rfl, rfl, rfl, rfl⟩

end Sample

end Asf.Adapters.Linear
