import Asf.Common.Domain
import Asf.Common.Schema
import Asf.Lib.Trace

/-!
# The work item lifecycle (`src/domain/work_item.rs`) and its database guard

`WorkItem::transition` moves an item along the edges of `can_transition_to` and
records when it was accepted; the trigger `asf_guard_work_item_update`
(migrations/0001_initial.sql) checks each update of the row a second time.

Results:

* `WorkItem.transition_cases`: everything a transition does.
* `WorkItem.failed_transition_atomic_iff`: when a failed transition changes nothing.
* `unaccepted_stays_early`: the states an item without `accepted_at` can be in
  along a run that leaves `WaitingDependency` only for readiness.
* `canTransitionTo_eq_guardAllows`: the trigger's edges are the domain's.
* `guard_transition_iff`: which transitions the trigger accepts.
-/

namespace Asf.WorkItems

open Lib

variable {next : WorkItemState} {now : DateTime}

/-! ## The states -/

/-- `Display for WorkItemState` (lines 69-73), the derived `Debug` name. -/
def debugName : WorkItemState → String
  | .discovered => "Discovered"
  | .readinessPending => "ReadinessPending"
  | .needsSpec => "NeedsSpec"
  | .ready => "Ready"
  | .accepted => "Accepted"
  | .planned => "Planned"
  | .scheduled => "Scheduled"
  | .dispatching => "Dispatching"
  | .running => "Running"
  | .verifyingOutcome => "VerifyingOutcome"
  | .targetReached => "TargetReached"
  | .closingSource => "ClosingSource"
  | .closed => "Closed"
  | .waitingDependency => "WaitingDependency"
  | .waitingApproval => "WaitingApproval"
  | .retryScheduled => "RetryScheduled"
  | .blockedExternal => "BlockedExternal"
  | .budgetExhausted => "BudgetExhausted"
  | .refused => "Refused"
  | .quarantined => "Quarantined"
  | .cancelRequested => "CancelRequested"
  | .cancelled => "Cancelled"
  | .escalated => "Escalated"

/-- `WorkItemState::can_transition_to` (lines 95-213), the states after one. -/
def successors : WorkItemState → List WorkItemState
  | .discovered => [.readinessPending]
  | .readinessPending => [.needsSpec, .ready, .refused, .waitingDependency]
  | .needsSpec => [.readinessPending, .refused]
  | .ready => [.accepted, .readinessPending, .refused]
  | .accepted =>
    [.planned, .scheduled, .waitingApproval, .waitingDependency, .cancelRequested, .escalated]
  | .planned => [.scheduled, .waitingApproval, .waitingDependency, .cancelRequested, .escalated]
  | .scheduled =>
    [.dispatching, .waitingApproval, .waitingDependency, .retryScheduled, .cancelRequested,
      .escalated]
  | .dispatching =>
    [.running, .retryScheduled, .blockedExternal, .cancelRequested, .escalated, .quarantined]
  | .running =>
    [.verifyingOutcome, .waitingApproval, .retryScheduled, .blockedExternal, .budgetExhausted,
      .cancelRequested, .escalated, .quarantined]
  | .verifyingOutcome =>
    [.targetReached, .retryScheduled, .blockedExternal, .waitingApproval, .escalated, .quarantined]
  | .targetReached => [.closingSource, .quarantined]
  | .closingSource => [.closed, .blockedExternal, .escalated]
  | .waitingDependency => [.scheduled, .readinessPending, .cancelRequested, .escalated]
  | .waitingApproval =>
    [.scheduled, .dispatching, .running, .verifyingOutcome, .cancelRequested, .escalated, .refused]
  | .retryScheduled => [.scheduled, .readinessPending, .cancelRequested, .escalated]
  | .blockedExternal =>
    [.retryScheduled, .running, .closingSource, .cancelRequested, .escalated, .quarantined]
  | .budgetExhausted => [.waitingApproval, .retryScheduled, .cancelRequested, .escalated]
  | .quarantined => [.retryScheduled, .cancelRequested, .escalated]
  | .cancelRequested => [.cancelled, .blockedExternal, .escalated]
  | .escalated => [.readinessPending, .scheduled, .retryScheduled, .cancelRequested, .cancelled]
  | .closed | .refused | .cancelled => []

/-- `WorkItemState::can_transition_to` (lines 95-213). -/
def canTransitionTo (state next : WorkItemState) : Bool := (successors state).contains next

/-! ## The aggregate -/

/-- `WorkItem` (lines 225-246). -/
structure WorkItem where
  (id tenantId sourceSnapshotId : Uuid)
  repositoryId : Option Uuid
  state : WorkItemState
  closureTarget : Option ClosureTarget
  risk : Option RiskAssessment
  policyDigest : Option String
  budgets : Option BudgetLimits
  identityRequirements : Option WorkOrderIdentities
  ownerFallback : Option String
  activeAttemptId : Option Uuid
  priority : UInt8
  version : ℕ
  discoveredAt : DateTime
  (readyAt acceptedAt : Option DateTime)
  updatedAt : DateTime
deriving DecidableEq

variable {item : WorkItem} {item' : WorkItem}

namespace WorkItem

section Moves

variable (item : WorkItem) (next : WorkItemState) (now : DateTime)

/-- `WorkItem::discovered` (lines 249-276); `id` is the fresh identifier. -/
def discovered (id tenantId sourceSnapshotId : Uuid) (priority : UInt8) (now : DateTime) :
    WorkItem where
  id := id
  tenantId := tenantId
  sourceSnapshotId := sourceSnapshotId
  repositoryId := none
  state := .discovered
  closureTarget := none
  risk := none
  policyDigest := none
  budgets := none
  identityRequirements := none
  ownerFallback := none
  activeAttemptId := none
  priority := priority
  version := 1
  discoveredAt := now
  readyAt := none
  acceptedAt := none
  updatedAt := now

/-- `WorkItem::validate_acceptance_fields` (lines 304-341). -/
def validateAcceptanceFields : Result Unit := do
  failIf (item.repositoryId = none ∨ item.closureTarget = none ∨ item.risk = none
      ∨ item.policyDigest = none ∨ item.budgets = none ∨ item.identityRequirements = none
      ∨ item.ownerFallback.all isBlank)
    (.validation ("accepted work requires repository, closure target, risk, policy, budgets, "
      ++ "identity requirements, and owner fallback"))
  item.identityRequirements.elim (.ok ()) WorkOrderIdentities.validate
  failIf (¬ item.closureTarget.any ClosureTarget.productionSupportedV1)
    (.validation "only pull-request closure is production-supported in V1")
  failIf (item.risk.any fun risk => risk.riskClass == .critical || risk.riskClass == .unknown)
    (.validation "critical or unknown-risk work cannot be accepted for unattended V1 execution")
  item.budgets.elim (.ok ()) BudgetLimits.validate

/-- The item a successful transition leaves. -/
def moved : WorkItem :=
  { item with
    state := next
    version := item.version + 1
    updatedAt := now
    readyAt := if next = .ready then some now else item.readyAt
    acceptedAt := if next = .accepted then some now else item.acceptedAt }

/-- `WorkItem::transition` (lines 278-302): the item left behind and the
    result. The version is advanced after the state is set, so an overflow
    leaves the new state with the old version. -/
def transition : WorkItem × Result Unit :=
  if ¬ canTransitionTo item.state next then
    (item, .error (.invalidTransition (debugName item.state) (debugName next)))
  else
    match if next = .accepted then item.validateAcceptanceFields else .ok () with
    | .error error => (item, .error error)
    | .ok () =>
      if u64Max < item.version + 1 then
        ({ item with state := next }, .error (.conflict "work item aggregate version overflowed"))
      else (item.moved next now, .ok ())

/-- The checks a transition makes before it writes. -/
def MayMove : Prop :=
  canTransitionTo item.state next ∧ (next = .accepted → item.validateAcceptanceFields = .ok ())

/-- Everything a transition can do. -/
theorem transition_cases :
    (¬ item.MayMove next ∧ ∃ error, item.transition next now = (item, .error error)) ∨
    (item.MayMove next ∧ u64Max ≤ item.version ∧ item.transition next now =
      ({ item with state := next }, .error (.conflict "work item aggregate version overflowed"))) ∨
    (item.MayMove next ∧ item.version < u64Max
      ∧ item.transition next now = (item.moved next now, .ok ())) := by
  have hfields : (if next = .accepted then item.validateAcceptanceFields else .ok ()) = .ok ()
      ↔ (next = .accepted → item.validateAcceptanceFields = .ok ()) := by
    split_ifs with hnext <;> simp [hnext]
  unfold transition MayMove
  rw [← hfields]
  generalize (if next = .accepted then item.validateAcceptanceFields else .ok ()) = fields
  by_cases hedge : canTransitionTo item.state next
  · rcases fields with error | ⟨⟩
    · simp [hedge]
    · rcases Nat.lt_or_ge item.version u64Max with hlt | hge
      · simp [hedge, hlt, Nat.not_lt.mpr hlt]
      · simp [hedge, hge, Nat.lt_succ_of_le hge, Nat.not_lt.mpr hge]
  · simp [hedge]

end Moves

theorem transition_eq_ok_iff :
    item.transition next now = (item', .ok ()) ↔ canTransitionTo item.state next
      ∧ (next = .accepted → item.validateAcceptanceFields = .ok ())
      ∧ item.version < u64Max ∧ item' = item.moved next now := by
  rw [← and_assoc]
  change _ ↔ item.MayMove next ∧ _
  obtain ⟨hmay, error, heq⟩ | ⟨hmay, hmax, heq⟩ | ⟨hmay, hlt, heq⟩ := transition_cases item next now
  · simp [heq, hmay]
  · simp [heq, Nat.not_lt.mpr hmax]
  · simp [heq, hmay, hlt, eq_comm]

/-- A transition that fails leaves the item as it was, unless it fails for its version:
    the state is written first. -/
theorem failed_transition_atomic_iff (item : WorkItem) (next : WorkItemState) (now : DateTime) :
    (∀ error, (item.transition next now).2 = .error error → (item.transition next now).1 = item)
      ↔ item.version < u64Max ∨ ¬ item.MayMove next := by
  obtain ⟨hmay, error, heq⟩ | ⟨hmay, hmax, heq⟩ | ⟨hmay, hlt, heq⟩ := transition_cases item next now
  · simp [heq, hmay]
  · have hchanged : { item with state := next } ≠ item := by
      intro h
      have hself : canTransitionTo item.state item.state := congrArg WorkItem.state h ▸ hmay.1
      exact absurd hself (by cases item.state <;> decide)
    simp [heq, hmay, hmax, hchanged]
  · simp [heq, hlt]

/-- An item at the last version moves although the call returns an error. -/
theorem overflowed_transition_moves :
    let item := { discovered (.ofNat 1) (.ofNat 2) (.ofNat 3) 50 ⟨0⟩ with version := u64Max }
    item.transition .readinessPending ⟨1⟩ = ({ item with state := .readinessPending },
      .error (.conflict "work item aggregate version overflowed")) := by
  decide +kernel

end WorkItem

/-! ## Runs -/

/-- What happens to an item between and at its transitions: a caller sets the
    other public fields to those of `fields`, or calls `transition`. -/
inductive Input where
  | edit (fields : WorkItem)
  | transition (next : WorkItemState) (now : DateTime)
deriving DecidableEq

/-- Setting every public field but the state, the version and the acceptance. -/
def WorkItem.edited (item fields : WorkItem) : WorkItem :=
  { fields with state := item.state, version := item.version, acceptedAt := item.acceptedAt }

/-- Edits and successful transitions, one after another. -/
def lifecycle : PartialMachine WorkItem Input Unit Error where
  step item
    | .edit fields => .ok (item.edited fields, ())
    | .transition next now =>
      match item.transition next now with
      | (moved, .ok ()) => .ok (moved, ())
      | (_, .error error) => .error error

theorem lifecycle_step_cases {input : Input} {o : Unit}
    (h : lifecycle.step item input = .ok (item', o)) :
    (∃ fields, input = .edit fields ∧ item' = item.edited fields)
      ∨ ∃ next now, input = .transition next now ∧ canTransitionTo item.state next
        ∧ (next = .accepted → item.validateAcceptanceFields = .ok ())
        ∧ item.version < u64Max ∧ item' = item.moved next now := by
  cases input with
  | edit fields => exact .inl ⟨fields, rfl, (Prod.mk.inj (Except.ok.inj h)).1.symm⟩
  | transition next now =>
    simp only [lifecycle] at h
    split at h
    · rename_i moved hmoved
      obtain ⟨rfl, -⟩ := Prod.mk.inj (Except.ok.inj h)
      exact .inr ⟨next, now, rfl, WorkItem.transition_eq_ok_iff.mp hmoved⟩
    · simp at h

/-! ## Acceptance before execution -/

/-- The states of a running, verified or closed item. -/
def isExecuting : WorkItemState → Bool
  | .scheduled | .dispatching | .running | .verifyingOutcome | .targetReached | .closingSource
  | .closed => true
  | _ => false

/-- The states before acceptance. -/
def isEarly : WorkItemState → Bool
  | .discovered | .readinessPending | .needsSpec | .ready | .waitingDependency | .refused => true
  | _ => false

/-- An item that was never accepted leaves `WaitingDependency` only for
    readiness. -/
def ReturnsToReadiness (item : WorkItem) : Input → Prop
  | .edit _ => True
  | .transition next _ =>
    item.state = .waitingDependency → item.acceptedAt = none → next = .readinessPending

instance (item : WorkItem) (input : Input) : Decidable (ReturnsToReadiness item input) := by
  cases input <;> unfold ReturnsToReadiness <;> infer_instance

theorem mem_all (state : WorkItemState) : state ∈ WorkItemState.all := by
  cases state <;> decide

theorem isEarly_of_edge {state : WorkItemState} (hedge : canTransitionTo state next)
    (hearly : isEarly state) (hwait : state = .waitingDependency → next = .readinessPending) :
    next = .accepted ∨ isEarly next := by
  have table : ∀ state ∈ WorkItemState.all, isEarly state → ∀ next ∈ successors state,
      (state = .waitingDependency → next = .readinessPending) →
        next = .accepted ∨ isEarly next := by decide
  exact table state (mem_all state) hearly next (by simpa [canTransitionTo] using hedge) hwait

variable {trace : List (Taken WorkItem Input Unit)} {inputs : List Input}

theorem unaccepted_stays_early {id tenantId snapshotId : Uuid} {priority : UInt8}
   
    (hrun : lifecycle.run (.discovered id tenantId snapshotId priority now) inputs
      = .ok (item, trace)) (hwait : ∀ e ∈ trace, ReturnsToReadiness e.before e.input) :
    item.acceptedAt = none → isEarly item.state := by
  refine lifecycle.run_respecting (C := ReturnsToReadiness)
    (P := fun item => item.acceptedAt = none → isEarly item.state) ?_ (fun _ => rfl) hrun hwait
  intro before input after o hbefore hinput hstep hnone
  obtain ⟨fields, rfl, rfl⟩ | ⟨next, now, rfl, hedge, -, -, rfl⟩ := lifecycle_step_cases hstep
  · exact hbefore hnone
  · by_cases hnext : next = .accepted
    · simp [WorkItem.moved, hnext] at hnone
    · have hbeforeNone : before.acceptedAt = none := by simpa [WorkItem.moved, hnext] using hnone
      exact (isEarly_of_edge hedge (hbefore hbeforeNone)
        (fun h => hinput h hbeforeNone)).resolve_left hnext

/-- Every running item was accepted, if unaccepted items leave
    `WaitingDependency` only for readiness. -/
theorem executing_items_accepted {id tenantId snapshotId : Uuid} {priority : UInt8}
    {now : DateTime} {inputs : List Input} {item : WorkItem}
    {trace : List (Taken WorkItem Input Unit)}
    (hrun : lifecycle.run (.discovered id tenantId snapshotId priority now) inputs
      = .ok (item, trace))
    (hwait : ∀ e ∈ trace, ReturnsToReadiness e.before e.input) :
    isExecuting item.state → item.acceptedAt.isSome := by
  intro hexecuting
  rcases haccepted : item.acceptedAt with _ | accepted
  · have hearly := unaccepted_stays_early hrun hwait haccepted
    revert hexecuting hearly
    cases item.state <;> decide
  · rfl

/-- An item as it is discovered. -/
def newItem : WorkItem := .discovered (.ofNat 1) (.ofNat 2) (.ofNat 3) 50 ⟨0⟩

/-- The fields acceptance asks for. -/
def readyFields : WorkItem :=
  { newItem with
    repositoryId := some (.ofNat 4)
    closureTarget := some .pullRequest
    risk := some ⟨.low, [], ∅⟩
    policyDigest := some "policy"
    budgets := some ⟨1, 1, 1, 1, 1, 1, 1, 1⟩
    identityRequirements := some
      ⟨⟨"claude:author", by decide⟩, ⟨"claude:checker", by decide⟩, ⟨"codex:checker", by decide⟩⟩
    ownerFallback := some "team" }

/-- Up to the acceptance of an item. -/
def acceptance : List Input :=
  [.edit readyFields, .transition .readinessPending ⟨1000⟩, .transition .ready ⟨2000⟩,
    .transition .accepted ⟨3000⟩]

theorem executing_items_accepted_scheduled :
    ∃ item trace,
      lifecycle.run newItem (acceptance ++ [.transition .scheduled ⟨4000⟩]) = .ok (item, trace)
        ∧ (∀ e ∈ trace, ReturnsToReadiness e.before e.input)
        ∧ isExecuting item.state ∧ item.acceptedAt.isSome := by
  have hrun : lifecycle.run newItem (acceptance ++ [.transition .scheduled ⟨4000⟩]) = .ok (_, _) :=
    rfl
  exact ⟨_, _, hrun, by decide, by decide, executing_items_accepted hrun (by decide) (by decide)⟩

/-- A dependency wait before acceptance ends in `Scheduled`: nothing on the way
    looks at `accepted_at`. -/
theorem waiting_item_scheduled_unaccepted :
    ∃ item trace,
      lifecycle.run newItem [.transition .readinessPending ⟨1000⟩,
          .transition .waitingDependency ⟨2000⟩, .transition .scheduled ⟨3000⟩] = .ok (item, trace)
        ∧ item.state = .scheduled ∧ isExecuting item.state ∧ item.acceptedAt = none :=
  ⟨_, _, rfl, rfl, rfl, rfl⟩

/-! ## The database guard -/

/-- The columns of `work_items` that the guard reads. -/
structure Row where
  state : WorkItemState
  aggregateVersion : ℤ
  acceptedAt : Option Timestamptz
deriving DecidableEq

/-- The row of an item. -/
def WorkItem.row (item : WorkItem) : Row where
  state := item.state
  aggregateVersion := item.version
  acceptedAt := item.acceptedAt.map DateTime.encode

/-- The `CASE` of `asf_guard_work_item_update` (0001_initial.sql:1982-2042). -/
def guardSuccessors : WorkItemState → List WorkItemState
  | .discovered => [.readinessPending]
  | .readinessPending => [.needsSpec, .ready, .refused, .waitingDependency]
  | .needsSpec => [.readinessPending, .refused]
  | .ready => [.accepted, .readinessPending, .refused]
  | .accepted =>
    [.planned, .scheduled, .waitingApproval, .waitingDependency, .cancelRequested, .escalated]
  | .planned => [.scheduled, .waitingApproval, .waitingDependency, .cancelRequested, .escalated]
  | .scheduled =>
    [.dispatching, .waitingApproval, .waitingDependency, .retryScheduled, .cancelRequested,
      .escalated]
  | .dispatching =>
    [.running, .retryScheduled, .blockedExternal, .cancelRequested, .escalated, .quarantined]
  | .running =>
    [.verifyingOutcome, .waitingApproval, .retryScheduled, .blockedExternal, .budgetExhausted,
      .cancelRequested, .escalated, .quarantined]
  | .verifyingOutcome =>
    [.targetReached, .retryScheduled, .blockedExternal, .waitingApproval, .escalated, .quarantined]
  | .targetReached => [.closingSource, .quarantined]
  | .closingSource => [.closed, .blockedExternal, .escalated]
  | .waitingDependency => [.scheduled, .readinessPending, .cancelRequested, .escalated]
  | .waitingApproval =>
    [.scheduled, .dispatching, .running, .verifyingOutcome, .cancelRequested, .escalated, .refused]
  | .retryScheduled => [.scheduled, .readinessPending, .cancelRequested, .escalated]
  | .blockedExternal =>
    [.retryScheduled, .running, .closingSource, .cancelRequested, .escalated, .quarantined]
  | .budgetExhausted => [.waitingApproval, .retryScheduled, .cancelRequested, .escalated]
  | .quarantined => [.retryScheduled, .cancelRequested, .escalated]
  | .cancelRequested => [.cancelled, .blockedExternal, .escalated]
  | .escalated => [.readinessPending, .scheduled, .retryScheduled, .cancelRequested, .cancelled]
  | _ => []

/-- `asf_guard_work_item_update` (0001_initial.sql:1958-2050). -/
def asfGuardWorkItemUpdate (old new : Row) : Except String Unit :=
  if old.acceptedAt ≠ none ∧ new.acceptedAt ≠ old.acceptedAt then
    .error "work item acceptance is durable and cannot be changed or cleared"
  else if i64Max < old.aggregateVersion + 1 then .error "bigint out of range"
  else if new.aggregateVersion ≠ old.aggregateVersion + 1 then
    .error (s!"work item aggregate_version must advance by exactly one (expected "
      ++ s!"{old.aggregateVersion + 1}, got {new.aggregateVersion})")
  else if new.state = old.state then .ok ()
  else if (guardSuccessors old.state).contains new.state then .ok ()
  else .error s!"invalid work item transition from {old.state.text} to {new.state.text}"

/-- The two transition tables agree. -/
theorem canTransitionTo_eq_guardAllows (state next : WorkItemState) :
    canTransitionTo state next = (guardSuccessors state).contains next := by
  cases state <;> rfl

/-- An item that is accepted again is accepted at the instant already stored. -/
def KeepsAcceptance (item : WorkItem) : Input → Prop
  | .edit _ => True
  | .transition next now =>
    next = .accepted → ∀ accepted ∈ item.acceptedAt, now.encode = accepted.encode

instance (item : WorkItem) (input : Input) : Decidable (KeepsAcceptance item input) := by
  cases input <;> unfold KeepsAcceptance <;> infer_instance

theorem guard_moved_iff (hedge : canTransitionTo item.state next)
    (hlimit : (item.version : ℤ) + 1 ≤ i64Max) :
    asfGuardWorkItemUpdate item.row (item.moved next now).row = .ok ()
      ↔ KeepsAcceptance item (.transition next now) := by
  rw [canTransitionTo_eq_guardAllows] at hedge
  have hrest : asfGuardWorkItemUpdate item.row (item.moved next now).row = .ok ()
      ↔ ¬ (item.row.acceptedAt ≠ none
        ∧ (item.moved next now).row.acceptedAt ≠ item.row.acceptedAt) := by
    unfold asfGuardWorkItemUpdate
    split_ifs <;> simp_all [WorkItem.row, WorkItem.moved]
    omega
  rw [hrest]
  simp only [KeepsAcceptance, WorkItem.row, WorkItem.moved]
  rcases item.acceptedAt with _ | accepted
  · simp
  · by_cases hnext : next = .accepted <;> simp [hnext]

/-- The updates of the row along a run: one for each transition. -/
def rowUpdates (trace : List (Taken WorkItem Input Unit)) : List (Row × Row) :=
  trace.filterMap fun e =>
    match e.input with
    | .edit _ => none
    | .transition _ _ => some (e.before.row, e.after.row)

theorem version_le_of_mem_trace {item₀ : WorkItem}
    (hrun : lifecycle.run item₀ inputs = .ok (item, trace)) :
    ∀ e ∈ trace, e.after.version ≤ item.version := by
  refine lifecycle.run_invariant (P := fun item trace =>
    ∀ e ∈ trace, e.after.version ≤ item.version) ?_ (by simp) hrun
  intro before trace input after o ih hstep e he
  have hle : before.version ≤ after.version := by
    obtain ⟨_, -, rfl⟩ | ⟨_, _, -, -, -, -, rfl⟩ := lifecycle_step_cases hstep
    · exact le_rfl
    · exact Nat.le_succ _
  rcases List.mem_append.mp he with he | he
  · exact (ih e he).trans hle
  · rw [List.mem_singleton.mp he]

/-- The guard accepts every update of a run exactly if no transition of the run
    accepts an item again at another stored instant. -/
theorem lifecycle_passes_guard_iff {id tenantId snapshotId : Uuid} {priority : UInt8}
    {now : DateTime} {inputs : List Input} {item : WorkItem}
    {trace : List (Taken WorkItem Input Unit)}
    (hrun : lifecycle.run (.discovered id tenantId snapshotId priority now) inputs
      = .ok (item, trace))
    (hlimit : (item.version : ℤ) ≤ i64Max) :
    (∀ update ∈ rowUpdates trace, asfGuardWorkItemUpdate update.1 update.2 = .ok ())
      ↔ ∀ e ∈ trace, KeepsAcceptance e.before e.input := by
  have hsteps := (lifecycle.run_taken (P := fun _ => True) (fun _ _ _ _ _ _ => trivial)
    trivial hrun).2
  have hversion := version_le_of_mem_trace hrun
  have hentry : ∀ e ∈ trace, (∀ update, (match e.input with
      | .edit _ => none
      | .transition _ _ => some (e.before.row, e.after.row)) = some update →
        asfGuardWorkItemUpdate update.1 update.2 = .ok ()) ↔ KeepsAcceptance e.before e.input := by
    intro e he
    obtain ⟨fields, hinput, -⟩ | ⟨next, now, hinput, hedge, -, -, hafter⟩ :=
      lifecycle_step_cases (hsteps e he).2
    · simp [hinput, KeepsAcceptance]
    · have hlast := hversion e he
      rw [hafter] at hlast
      rw [hinput, ← guard_moved_iff hedge (by simp only [WorkItem.moved] at hlast; omega), hafter]
      simp
  simp only [rowUpdates, List.mem_filterMap]
  constructor
  · intro h e he
    exact (hentry e he).mp fun update hupdate => h update ⟨e, he, hupdate⟩
  · rintro h update ⟨e, he, hupdate⟩
    exact (hentry e he).mpr (h e he) update hupdate

theorem lifecycle_passes_guard_accepted :
    ∃ item trace, lifecycle.run newItem acceptance = .ok (item, trace)
      ∧ (item.version : ℤ) ≤ i64Max ∧ (∀ e ∈ trace, KeepsAcceptance e.before e.input)
      ∧ ∀ update ∈ rowUpdates trace, asfGuardWorkItemUpdate update.1 update.2 = .ok () := by
  have hrun : lifecycle.run newItem acceptance = .ok (_, _) := rfl
  have hkeeps := (lifecycle_passes_guard_iff hrun (by decide)).mpr (by decide)
  exact ⟨_, _, hrun, by decide, by decide, hkeeps⟩

/-- An escalated item that becomes ready again is accepted at a second instant,
    which the guard refuses to store. -/
theorem reacceptance_fails_guard :
    ∃ item trace,
      lifecycle.run newItem (acceptance ++ [.transition .escalated ⟨4000⟩,
          .transition .readinessPending ⟨5000⟩, .transition .ready ⟨6000⟩,
          .transition .accepted ⟨7000⟩]) = .ok (item, trace)
        ∧ (item.version : ℤ) ≤ i64Max
        ∧ ∃ update ∈ rowUpdates trace, asfGuardWorkItemUpdate update.1 update.2
          = .error "work item acceptance is durable and cannot be changed or cleared" :=
  ⟨_, _, rfl, by decide, by decide +kernel⟩

end Asf.WorkItems
