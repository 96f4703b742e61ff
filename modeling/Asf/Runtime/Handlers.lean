import Asf.Jobs.Model

/-!
# The handler registry (`src/runtime/handlers.rs`)

A registry maps a job type to one handler. What registration checks is a field
of `HandlerRegistry`: the claim scope of a ready handler fits its job type and
a production job type has its canonical activity contract.

Results:

* `mem_routes_iff`: the routes of `ready_claim_set` are those of the ready
  handlers.
* `HandlerRegistry.scope_of_ready`, `HandlerRegistry.contract_of_mem`: what the
  checks of registration say about a registered handler.
-/

namespace Asf.Runtime

open Lib (Table)

/-! ## Job types and contracts -/

/-- `RECONCILE_WORKER`. -/
def reconcileWorker : String := "RECONCILE_WORKER"

/-- `REQUEST_WORK_ITEM_CANCELLATION`. -/
def requestWorkItemCancellation : String := "REQUEST_WORK_ITEM_CANCELLATION"

/-- `OBSERVE_RUNMILL_RUN`. -/
def observeRunmillRun : String := "OBSERVE_RUNMILL_RUN"

/-- `RETAIN_RUNMILL_TERMINAL_EVIDENCE`. -/
def retainRunmillTerminalEvidence : String := "RETAIN_RUNMILL_TERMINAL_EVIDENCE"

/-- `VERIFY_EVIDENCE`. -/
def verifyEvidence : String := "VERIFY_EVIDENCE"

/-- `CLOSE_SOURCE`. -/
def closeSource : String := "CLOSE_SOURCE"

/-- `production_activity_contract_id` (lines 53-69): the nine production
    job types with their contracts. -/
def productionActivityContracts : List (String × String) :=
  [("INTAKE_SYNC", "asf.activity/intake-sync/v1"),
    ("ADVANCE_ACCEPTED_WORK_ITEM", "asf.activity/advance-accepted-work-item/v1"),
    (requestWorkItemCancellation, "asf.activity/request-work-item-cancellation/v1"),
    ("APPLY_SIGNED_APPROVAL_DECISION", "asf.activity/apply-signed-approval-decision/v1"),
    (reconcileWorker, "asf.activity/reconcile-worker/v1"),
    (observeRunmillRun, "asf.activity/observe-runmill-run/v2"),
    (retainRunmillTerminalEvidence, "asf.activity/retain-runmill-terminal-evidence/v1"),
    (verifyEvidence, "asf.activity/verify-evidence/v1"),
    (closeSource, "asf.activity/close-source/v1")]

/-- `production_activity_contract_id`. -/
def productionActivityContractId (jobType : String) : Option String :=
  productionActivityContracts.lookup jobType

/-- `is_canonical_worker_scoped_job_type` (lines 648-656). -/
def isCanonicalWorkerScopedJobType (jobType : String) : Bool :=
  jobType == reconcileWorker || jobType == requestWorkItemCancellation
    || jobType == observeRunmillRun || jobType == retainRunmillTerminalEvidence

/-! ## Handlers -/

/-- `HandlerReadiness` (lines 195-198). -/
inductive HandlerReadiness where
  | ready
  | unavailable (reason : String)
deriving DecidableEq

/-- `JobClaimScope` (lines 206-212). -/
inductive JobClaimScope where
  | unscoped
  | reconcileWorker (workerId : Uuid)
  | cancellationWorker (workerId : Uuid)
  | observeRunmillRunWorker (workerId : Uuid)
  | retainRunmillTerminalEvidenceWorker (workerId : Uuid)
deriving DecidableEq

/-- What the registry reads of a `JobHandler` (lines 291-307). -/
structure Handler where
  (jobType activityContractId : String)
  readiness : HandlerReadiness
  claimScope : JobClaimScope
deriving DecidableEq

/-- The worker that a scope made for this job type names. -/
def scopeWorker (jobType : String) : JobClaimScope → Option Uuid
  | .unscoped => none
  | .reconcileWorker w => if jobType = reconcileWorker then some w else none
  | .cancellationWorker w => if jobType = requestWorkItemCancellation then some w else none
  | .observeRunmillRunWorker w => if jobType = observeRunmillRun then some w else none
  | .retainRunmillTerminalEvidenceWorker w =>
    if jobType = retainRunmillTerminalEvidence then some w else none

/-- `validate_claim_scope` (lines 658-708). -/
def validateClaimScope (jobType : String) (handler : Handler) : Result Unit :=
  if isCanonicalWorkerScopedJobType jobType ∧ handler.readiness = .ready then
    failIf (¬ (scopeWorker jobType handler.claimScope).any fun w => !w.isNil)
      (.validation s!"a ready {jobType} handler must declare one non-nil worker claim scope")
  else
    failIf (handler.claimScope ≠ .unscoped)
      (.validation s!"worker claim scope is invalid for reactor job type {jobType}")

/-- `validate_activity_contract_id` (lines 716-734). -/
def validateActivityContractId (jobType : String) (handler : Handler) : Result Unit := do
  failIf (!Jobs.isValidActivityContractId handler.activityContractId)
    (.validation <|
      s!"reactor handler for job type {jobType} declares an invalid activity contract id "
        ++ debugText handler.activityContractId)
  match productionActivityContractId jobType with
  | none => .ok ()
  | some canonical =>
    failIf (handler.activityContractId ≠ canonical)
      (.validation <|
        s!"reactor handler for production job type {jobType} must declare the canonical "
          ++ s!"activity contract id {debugText canonical}, found "
          ++ debugText handler.activityContractId)

/-! ## The registry -/

/-- `HandlerRegistry` (lines 318-320). The order of the map is not
    observable by the claim scans, so the rows stand in the order of
    registration. -/
structure HandlerRegistry where
  handlers : Table (String × Handler) Prod.fst
  valid : ∀ entry ∈ handlers.rows,
    validateClaimScope entry.1 entry.2 = .ok () ∧
      validateActivityContractId entry.1 entry.2 = .ok ()

namespace HandlerRegistry

/-- `HandlerRegistry::new`. -/
def new : HandlerRegistry := ⟨.empty, by simp [Table.empty]⟩

/-- `HandlerRegistry::handler` (lines 504-506). -/
def handler (registry : HandlerRegistry) (jobType : String) : Option Handler :=
  (registry.handlers.find? jobType).map Prod.snd

/-- `validate_activity_dependencies` (lines 627-643). -/
def validateActivityDependencies (registry : HandlerRegistry) (jobType : String)
    (handler : Handler) : Result Unit :=
  failIf (jobType = verifyEvidence ∧ handler.readiness = .ready
      ∧ ¬ (registry.handler closeSource).any fun h => h.readiness = .ready)
    (.validation <| "a ready VERIFY_EVIDENCE handler requires a ready CLOSE_SOURCE handler "
      ++ "in the same registry")

/-- `register` (lines 427-444). -/
def register (registry : HandlerRegistry) (handler : Handler) : Result HandlerRegistry :=
  let jobType := trim handler.jobType
  if jobType = "" then .error (.validation "reactor handler job type must be non-empty")
  else if hnew : jobType ∈ registry.handlers.rows.map Prod.fst then
    .error (.conflict s!"reactor handler for job type {jobType} is already registered")
  else
    match hscope : validateClaimScope jobType handler with
    | .error e => .error e
    | .ok () =>
      match hcontract : validateActivityContractId jobType handler with
      | .error e => .error e
      | .ok () =>
        match registry.validateActivityDependencies jobType handler with
        | .error e => .error e
        | .ok () => .ok {
            handlers := registry.handlers.insert (jobType, handler) hnew
            valid := by
              intro entry hentry
              rcases List.mem_append.mp hentry with h | h
              · exact registry.valid entry h
              · rw [List.mem_singleton] at h
                exact h ▸ ⟨hscope, hcontract⟩ }

/-- `replace_unavailable` (lines 453-484). -/
def replaceUnavailable (registry : HandlerRegistry) (handler : Handler) : Result HandlerRegistry :=
  let jobType := trim handler.jobType
  if jobType = "" then .error (.validation "reactor handler job type must be non-empty")
  else if (productionActivityContractId jobType).isNone then
    .error (.validation s!"reactor job type {jobType} is not a recognized production activity")
  else if handler.readiness ≠ .ready then
    .error (.validation s!"replacement reactor handler for {jobType} is not ready")
  else
    match hscope : validateClaimScope jobType handler with
    | .error e => .error e
    | .ok () =>
      match hcontract : validateActivityContractId jobType handler with
      | .error e => .error e
      | .ok () =>
        match registry.validateActivityDependencies jobType handler with
        | .error e => .error e
        | .ok () =>
          match registry.handler jobType with
          | none => .error (.conflict <|
              s!"reactor handler for production job type {jobType} was not pre-registered")
          | some current =>
            if current.readiness = .ready then
              .error (.conflict s!"ready reactor handler for job type {jobType} cannot be replaced")
            else .ok {
              handlers := registry.handlers.update (fun entry => entry.1 == jobType)
                (fun entry => (entry.1, handler)) (fun _ => rfl)
              valid := by
                intro entry hentry
                obtain ⟨old, hold, rfl⟩ := Table.mem_update.mp hentry
                split_ifs with h
                · rw [beq_iff_eq] at h
                  exact h ▸ ⟨hscope, hcontract⟩
                · exact registry.valid old hold }

/-- `known_job_type_contract_pairs` (lines 577-584). -/
def knownJobTypeContractPairs (registry : HandlerRegistry) : List (String × String) :=
  registry.handlers.rows.map fun entry => (entry.1, entry.2.activityContractId)

end HandlerRegistry

/-! ## Ready routes -/

/-- `ReadyClaimSet` (lines 334-340). -/
structure ReadyClaimSet where
  (unscoped reconcileWorker cancellationWorker observeRunmillRunWorker : List (String × String))
  retainRunmillTerminalEvidenceWorker : List (String × String)
deriving DecidableEq

/-- The five route lists. -/
inductive RouteKind where
  | unscoped | reconcile | cancellation | observation | retention
deriving DecidableEq

variable (claims : ReadyClaimSet)

/-- One of the route lists. -/
def ReadyClaimSet.routes : RouteKind → List (String × String)
  | .unscoped => claims.unscoped
  | .reconcile => claims.reconcileWorker
  | .cancellation => claims.cancellationWorker
  | .observation => claims.observeRunmillRunWorker
  | .retention => claims.retainRunmillTerminalEvidenceWorker

/-- The list a scope belongs to. -/
def JobClaimScope.kind : JobClaimScope → RouteKind
  | .unscoped => .unscoped
  | .reconcileWorker _ => .reconcile
  | .cancellationWorker _ => .cancellation
  | .observeRunmillRunWorker _ => .observation
  | .retainRunmillTerminalEvidenceWorker _ => .retention

/-- The route key: the job type, or the text of the worker. -/
def JobClaimScope.routeKey (jobType : String) : JobClaimScope → String
  | .unscoped => jobType
  | .reconcileWorker w | .cancellationWorker w | .observeRunmillRunWorker w
  | .retainRunmillTerminalEvidenceWorker w => w.toText

/-- One turn of the loop of `ready_claim_set` (lines 534-568). -/
def pushReadyClaim (entry : String × Handler) : ReadyClaimSet :=
  if entry.2.readiness ≠ .ready then claims
  else
    let route := (entry.2.claimScope.routeKey entry.1, entry.2.activityContractId)
    match entry.2.claimScope with
    | .unscoped => { claims with unscoped := claims.unscoped ++ [route] }
    | .reconcileWorker _ => { claims with reconcileWorker := claims.reconcileWorker ++ [route] }
    | .cancellationWorker _ =>
      { claims with cancellationWorker := claims.cancellationWorker ++ [route] }
    | .observeRunmillRunWorker _ =>
      { claims with observeRunmillRunWorker := claims.observeRunmillRunWorker ++ [route] }
    | .retainRunmillTerminalEvidenceWorker _ =>
      { claims with
        retainRunmillTerminalEvidenceWorker :=
          claims.retainRunmillTerminalEvidenceWorker ++ [route] }

/-- `ready_claim_set` (lines 532-570). -/
def HandlerRegistry.readyClaimSet (registry : HandlerRegistry) : ReadyClaimSet :=
  registry.handlers.rows.foldl pushReadyClaim ⟨[], [], [], [], []⟩

variable (kind : RouteKind)

/-- The route an entry adds to a list. -/
def routeOf (entry : String × Handler) : Option (String × String) :=
  if entry.2.readiness = .ready ∧ entry.2.claimScope.kind = kind then
    some (entry.2.claimScope.routeKey entry.1, entry.2.activityContractId)
  else none

theorem routes_pushReadyClaim (entry : String × Handler) :
    (pushReadyClaim claims entry).routes kind =
      claims.routes kind ++ (routeOf kind entry).toList := by
  obtain ⟨jobType, ⟨_, contract, readiness, scope⟩⟩ := entry
  by_cases hready : readiness = .ready
  · subst hready
    cases scope <;> cases kind <;>
      simp [pushReadyClaim, routeOf, ReadyClaimSet.routes, JobClaimScope.kind]
  · simp [pushReadyClaim, routeOf, hready]

theorem routes_foldl (entries : List (String × Handler)) (claims : ReadyClaimSet) :
    (entries.foldl pushReadyClaim claims).routes kind =
      claims.routes kind ++ entries.filterMap (routeOf kind) := by
  induction entries generalizing claims with
  | nil => simp
  | cons entry entries ih =>
    rw [List.foldl_cons, ih, routes_pushReadyClaim]
    cases h : routeOf kind entry <;> simp [h]

/-- The routes of a list are those of the ready handlers with that scope. -/
theorem mem_routes_iff (registry : HandlerRegistry) (kind : RouteKind) (route : String × String) :
    route ∈ registry.readyClaimSet.routes kind ↔
      ∃ entry ∈ registry.handlers.rows, entry.2.readiness = .ready ∧
        entry.2.claimScope.kind = kind ∧
        route = (entry.2.claimScope.routeKey entry.1, entry.2.activityContractId) := by
  have hnil : (⟨[], [], [], [], []⟩ : ReadyClaimSet).routes kind = [] := by cases kind <;> rfl
  rw [HandlerRegistry.readyClaimSet, routes_foldl, hnil, List.nil_append, List.mem_filterMap]
  constructor
  · rintro ⟨entry, hentry, hroute⟩
    unfold routeOf at hroute
    split_ifs at hroute with h
    exact ⟨entry, hentry, h.1, h.2, (Option.some.inj hroute).symm⟩
  · rintro ⟨entry, hentry, hready, hkind, rfl⟩
    exact ⟨entry, hentry, by simp [routeOf, hready, hkind]⟩

/-! ## What registration guarantees -/

namespace HandlerRegistry

variable {registry : HandlerRegistry} {jobType : String} {handler : Handler}

theorem mem_of_handler (h : registry.handler jobType = some handler) :
    (jobType, handler) ∈ registry.handlers.rows := by
  obtain ⟨entry, hentry, rfl⟩ := Option.map_eq_some_iff.mp h
  obtain ⟨hmem, rfl⟩ := Table.find?_eq_some_iff.mp hentry
  exact hmem

section

variable (h : (jobType, handler) ∈ registry.handlers.rows)

include h

/-- A ready handler of a worker-scoped type names its worker; any other ready
    handler is unscoped. -/
theorem scope_of_ready (hready : handler.readiness = .ready) :
    if isCanonicalWorkerScopedJobType jobType then
      ∃ w, scopeWorker jobType handler.claimScope = some w
    else handler.claimScope = .unscoped := by
  have hvalid := (registry.valid _ h).1
  unfold validateClaimScope at hvalid
  split_ifs with hc
  · simp only [hc, hready, and_self, if_true, failIf_eq_ok_iff, not_not] at hvalid
    obtain ⟨w, hw, -⟩ := (Option.any_eq_true _ _).mp hvalid
    exact ⟨w, hw⟩
  · simpa [hc] using hvalid

/-- A handler of a production job type serves the canonical contract. -/
theorem contract_of_mem {canonical : String}
    (hc : productionActivityContractId jobType = some canonical) :
    handler.activityContractId = canonical := by
  have hvalid := (registry.valid _ h).2
  simp only [validateActivityContractId, hc, failIf_bind_eq_ok_iff, failIf_eq_ok_iff,
    not_not] at hvalid
  exact hvalid.2

end

/-- A known route is the contract of the handler of that type. -/
theorem contract_of_known {contract : String}
    (h : (jobType, contract) ∈ registry.knownJobTypeContractPairs)
    (hh : registry.handler jobType = some handler) : handler.activityContractId = contract := by
  obtain ⟨entry, hentry, heq⟩ := List.mem_map.mp h
  cases heq
  have := Table.eq_of_key_eq hentry (mem_of_handler hh) rfl
  rw [this]

end HandlerRegistry
end Asf.Runtime
