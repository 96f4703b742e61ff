import Asf.Audit.Chain
import Asf.Steps.Tables
import Mathlib.Data.Prod.Lex

/-!
# The `audit_events` table and its two writers

The API (`append_audit`, `src/api/postgres.rs`) and the workflow steps
(`insert_audit_event`, `src/ledger/steps.rs`) append to the chain of a tenant. Both
hold the tenant's advisory lock until they commit, so appends to one chain are
serial; what a transaction that is rolled back has written is never in the table. The
unique indexes keep the chain from forking. The reading of `clock_timestamp()` for
`ingested_at` is an input.

Results:

* `append_eq_ok`: what an append adds.
* `chainHead_eq`: the head a step looks for is the last event of the chain.
* `one_audit_head_iff`: the chain of every tenant is accepted, and the two writers
  agree on its head exactly if events are ingested in the order of their keys.
* `step_audit_written`: a step writes what the ledger accepts.
-/

namespace Asf.Audit

open Lib Steps

/-! ## The table -/

/-- A row of `audit_events` (0001_initial.sql:1351-1390). -/
structure AuditEventRow extends AuditRow where
  ingestedAt : Timestamptz
deriving DecidableEq

namespace AuditEventRow

/-- The primary key and the unique indexes (0001_initial.sql:1352, 1372, 1395-1401): two
    rows without a predecessor conflict, as do two with the same one. -/
def conflicts (a b : AuditEventRow) : Bool :=
  a.id == b.id || a.tenantId == b.tenantId
    && (a.eventHash == b.eventHash || a.previousEventHash == b.previousEventHash)

/-- The event that is read back from a row. -/
def event (codec : Codec) (row : AuditEventRow) : HashedAuditEvent where
  content := {
    id := row.id
    tenantId := row.tenantId
    workItemId := row.workItemId
    attemptId := row.attemptId
    actorType := row.actorType
    actorId := row.actorId
    action := row.action
    subjectType := row.subjectType
    subjectId := row.subjectId
    correlationId := row.correlationId
    traceId := row.traceId
    policyDigest := row.policyDigest
    beforeDigest := row.beforeDigest
    afterDigest := row.afterDigest
    previousEventHash := row.previousEventHash
    details := codec.readJson row.details
    occurredAt := .decode row.occurredAt }
  eventHash := row.eventHash

-- The key is compared by the computable orders of its parts.
instance (priority := high) : LinearOrder Timestamptz := Int.instLinearOrder

instance (priority := high) : Preorder Timestamptz := Int.instLinearOrder.toPreorder

/-- The order in which the API looks for the head. -/
def key (row : AuditEventRow) : Lex (Timestamptz × Uuid) := toLex (row.ingestedAt, row.id)

end AuditEventRow

open AuditEventRow (event key toAuditRow)

abbrev AuditTable := Indexed AuditEventRow AuditEventRow.conflicts

/-- The events of a tenant, oldest first. -/
def eventsOf (table : AuditTable) (tenantId : Uuid) : List AuditEventRow :=
  table.rows.filter (·.tenantId == tenantId)

/-- The head of the API: `ORDER BY ingested_at DESC, id DESC LIMIT 1` (postgres.rs:2160-2165). -/
def apiHead (table : AuditTable) (tenantId : Uuid) : Option String :=
  ((eventsOf table tenantId).argmax key).map (·.eventHash)

/-- The head of a step: `LOAD_AUDIT_CHAIN_HEAD_SQL` (steps.rs:26-36). -/
def chainHead (table : AuditTable) (tenantId : Uuid) : Option String :=
  ((eventsOf table tenantId).find? fun event =>
    !(eventsOf table tenantId).any fun successor =>
      successor.previousEventHash == some event.eventHash).map (·.eventHash)

/-! ## The writers -/

/-- `AuditInsert` (postgres.rs:1884-1897), with the caller's subject. -/
structure AuditInsert where
  tenantId : Uuid
  (workItemId attemptId : Option Uuid)
  (actorSubject action subjectType subjectId correlationId : String)
  (policyDigest beforeDigest afterDigest : Option String)
  details : Json
deriving DecidableEq

/-- The content `append_audit` hashes (postgres.rs:2178-2196). -/
def AuditInsert.content (audit : AuditInsert) (id : Uuid) (previousEventHash : Option String)
    (occurredAt : DateTime) : AuditEventContent where
  id := id
  tenantId := audit.tenantId
  workItemId := audit.workItemId
  attemptId := audit.attemptId
  actorType := "API_CALLER"
  actorId := audit.actorSubject
  action := audit.action
  subjectType := audit.subjectType
  subjectId := audit.subjectId
  correlationId := audit.correlationId
  traceId := none
  policyDigest := audit.policyDigest
  beforeDigest := audit.beforeDigest
  afterDigest := audit.afterDigest
  previousEventHash := previousEventHash
  details := audit.details
  occurredAt := occurredAt

/-- The row of `append_audit`'s statement (postgres.rs:2197-2226). -/
def AuditInsert.row (audit : AuditInsert) (event : HashedAuditEvent)
    (occurredAt ingestedAt : Timestamptz) : AuditEventRow where
  id := event.content.id
  tenantId := audit.tenantId
  workItemId := audit.workItemId
  attemptId := audit.attemptId
  actorType := "API_CALLER"
  actorId := audit.actorSubject
  action := audit.action
  subjectType := audit.subjectType
  subjectId := audit.subjectId
  correlationId := audit.correlationId
  traceId := none
  policyDigest := audit.policyDigest
  beforeDigest := audit.beforeDigest
  afterDigest := audit.afterDigest
  previousEventHash := event.content.previousEventHash
  eventHash := event.eventHash
  details := audit.details
  occurredAt := occurredAt
  ingestedAt := ingestedAt

/-- `append_audit` (postgres.rs:2148-2231); `id` is `EventId::new()` and the two instants
    are readings of the database's clock. -/
def appendAudit (codec : Codec) (audit : AuditInsert) (id : Uuid)
    (occurredAt ingestedAt : Timestamptz) (table : AuditTable) : Result AuditTable := do
  rejectSensitiveFields audit.details
  let event ← HashedAuditEvent.create codec.auditDigest
    (audit.content id (apiHead table audit.tenantId) (.decode occurredAt))
  okOr (.conflict "append API audit event was rejected by the ledger")
    (table.insert? (audit.row event occurredAt ingestedAt))

/-- `insert_audit_event` (steps.rs:1449-1509) with the reading for `ingested_at`. -/
def insertAuditEvent (codec : Codec) (fence : WorkflowStepFence) (audit : StepAuditEvent)
    (ingestedAt : Timestamptz) (table : AuditTable) : Result AuditTable := do
  let event ← canonicalStepAuditEvent codec fence audit (chainHead table fence.tenantId)
  event.verify codec.auditDigest
  -- `ON CONFLICT (tenant_id, event_hash) DO NOTHING` returns no row.
  failIf ((eventsOf table fence.tenantId).any (·.eventHash == event.eventHash))
    (idempotencyConflict "audit event" event.eventHash)
  okOr (persistenceError "insert workflow-step audit event" (duplicateKey "audit_events"))
    (table.insert? { toAuditRow := auditRow fence event, ingestedAt })

/-- One append, with what the database's clock reads meanwhile. -/
inductive Append where
  | api (audit : AuditInsert) (id : Uuid) (occurredAt ingestedAt : Timestamptz)
  | step (fence : WorkflowStepFence) (audit : StepAuditEvent) (ingestedAt : Timestamptz)
deriving DecidableEq

def append (codec : Codec) : Append → AuditTable → Result AuditTable
  | .api audit id occurredAt ingestedAt => appendAudit codec audit id occurredAt ingestedAt
  | .step fence audit ingestedAt => insertAuditEvent codec fence audit ingestedAt

/-- Appends one after another; one that fails is rolled back. -/
def auditLedger (codec : Codec) : Machine AuditTable Append (Option Error) where
  step table input :=
    match append codec input table with
    | .ok table' => (table', none)
    | .error error => (table, some error)

/-- PostgreSQL gives back the details and the instant that are written: the instant of a
    step has no part below a microsecond. -/
def Append.ReadsBack (codec : Codec) : Append → Prop
  | .api audit _ _ _ => codec.readJson audit.details = audit.details
  | .step _ audit _ =>
    codec.readJson audit.details = audit.details
      ∧ .decode audit.occurredAt.encode = audit.occurredAt

/-! ## What an append adds -/

theorem AuditEventRow.conflicts_eq_false_iff {a b : AuditEventRow} :
    conflicts a b = false ↔ a.id ≠ b.id ∧ (a.tenantId = b.tenantId →
      a.eventHash ≠ b.eventHash ∧ a.previousEventHash ≠ b.previousEventHash) := by
  simp [conflicts]

section Tables

variable {codec : Codec} {table table' : AuditTable} {tenantId : Uuid} {hash : String}
  {row : AuditEventRow} {input : Append} {fence : WorkflowStepFence} {ingestedAt : Timestamptz}
  {inputs : List Append}

theorem mem_eventsOf_iff :
    row ∈ eventsOf table tenantId ↔ row ∈ table.rows ∧ row.tenantId = tenantId := by
  simp [eventsOf]

theorem nodup_ids : ((eventsOf table tenantId).map (·.id)).Nodup := by
  rw [List.Nodup, List.pairwise_map]
  exact (table.unique.filter _).imp fun h => (AuditEventRow.conflicts_eq_false_iff.mp h).1

theorem nodup_hashes : ((eventsOf table tenantId).map (·.eventHash)).Nodup := by
  rw [List.Nodup, List.pairwise_map, eventsOf, List.pairwise_filter]
  refine table.unique.imp fun {a b} h ha hb => ?_
  rw [beq_iff_eq] at ha hb
  exact ((AuditEventRow.conflicts_eq_false_iff.mp h).2 (ha.trans hb.symm)).1

theorem exists_of_apiHead (h : apiHead table tenantId = some hash) :
    ∃ event ∈ eventsOf table tenantId, event.eventHash = hash := by
  obtain ⟨event, hevent, rfl⟩ := Option.map_eq_some_iff.mp h
  exact ⟨event, List.argmax_mem hevent, rfl⟩

theorem exists_of_chainHead (h : chainHead table tenantId = some hash) :
    ∃ event ∈ eventsOf table tenantId, event.eventHash = hash := by
  obtain ⟨event, hevent, rfl⟩ := Option.map_eq_some_iff.mp h
  exact ⟨event, List.mem_of_find?_eq_some hevent, rfl⟩

/-- The row is new, names an event of its tenant or none, and is read back as an event
    that verifies. -/
structure Adds (codec : Codec) (table : AuditTable) (row : AuditEventRow) : Prop where
  fresh : ∀ other ∈ table.rows, AuditEventRow.conflicts other row = false
  known : ∀ hash, row.previousEventHash = some hash →
    ∃ event ∈ eventsOf table row.tenantId, event.eventHash = hash
  verified : (row.event codec).verify codec.auditDigest = .ok ()

theorem appendAudit_eq_ok {audit : AuditInsert} {id : Uuid} {occurredAt ingestedAt : Timestamptz}
    (hreads : codec.readJson audit.details = audit.details)
    (h : appendAudit codec audit id occurredAt ingestedAt table = .ok table') :
    ∃ row, table'.rows = table.rows ++ [row] ∧ Adds codec table row := by
  simp only [appendAudit, bind_eq_ok_iff, okOr_eq_ok_iff, HashedAuditEvent.create_eq_ok_iff] at h
  obtain ⟨-, -, ⟨_, hash⟩, ⟨rfl, hverify⟩, hinsert⟩ := h
  obtain ⟨hfresh, hrows⟩ := Indexed.insert?_eq_some_iff.mp hinsert
  refine ⟨_, hrows, hfresh, fun _ => exists_of_apiHead, ?_⟩
  rw [← hverify]
  simp [event, AuditInsert.row, AuditInsert.content, hreads]

theorem insertAuditEvent_eq_ok {audit : StepAuditEvent}
    (hreads : codec.readJson audit.details = audit.details)
    (hinstant : .decode audit.occurredAt.encode = audit.occurredAt)
    (h : insertAuditEvent codec fence audit ingestedAt table = .ok table') :
    ∃ row, table'.rows = table.rows ++ [row] ∧ Adds codec table row := by
  simp only [insertAuditEvent, canonicalStepAuditEvent, bind_eq_ok_iff, okOr_eq_ok_iff,
    HashedAuditEvent.create_eq_ok_iff] at h
  obtain ⟨⟨_, hash⟩, ⟨rfl, hverify⟩, -, -, -, -, hinsert⟩ := h
  obtain ⟨hfresh, hrows⟩ := Indexed.insert?_eq_some_iff.mp hinsert
  refine ⟨_, hrows, hfresh, fun _ => exists_of_chainHead, ?_⟩
  rw [← hverify]
  simp [event, auditRow, hreads, hinstant]

theorem append_eq_ok (hreads : input.ReadsBack codec) (h : append codec input table = .ok table') :
    ∃ row, table'.rows = table.rows ++ [row] ∧ Adds codec table row := by
  cases input with
  | api audit id occurredAt ingestedAt => exact appendAudit_eq_ok hreads h
  | step fence audit ingestedAt => exact insertAuditEvent_eq_ok hreads.1 hreads.2 h

/-! ## The chain of every tenant -/

/-- One append adds a row or changes nothing. -/
theorem next_cases (table : AuditTable) (hreads : input.ReadsBack codec) :
    (auditLedger codec).next table input = table
      ∨ ∃ row, ((auditLedger codec).next table input).rows = table.rows ++ [row]
        ∧ Adds codec table row := by
  simp only [Machine.next, auditLedger]
  cases happend : append codec input table with
  | error error => exact .inl rfl
  | ok table' => exact .inr (append_eq_ok hreads happend)

/-- Each tenant's events form one chain, and each event verifies. -/
structure Sound (codec : Codec) (table : AuditTable) : Prop where
  chained : ∀ tenantId, Linked (·.previousEventHash) (·.eventHash) none (eventsOf table tenantId)
  verified : ∀ row ∈ table.rows, (row.event codec).verify codec.auditDigest = .ok ()

theorem eventsOf_of_concat (hrows : table'.rows = table.rows ++ [row]) :
    eventsOf table' tenantId = if row.tenantId = tenantId then eventsOf table tenantId ++ [row]
      else eventsOf table tenantId := by
  rw [eventsOf, hrows, List.filter_append]
  split_ifs with htenant
  · simp [eventsOf, htenant]
  · simp [eventsOf, htenant]

section

variable (h : Sound codec table)

include h

/-- Because no two events name the same one, a new event names the last. -/
theorem Sound.previous_eq (hadds : Adds codec table row) :
    row.previousEventHash = headHash (·.eventHash) (eventsOf table row.tenantId) := by
  refine (h.chained row.tenantId).link_eq_headHash hadds.known fun other hother => ?_
  obtain ⟨hmem, htenant⟩ := mem_eventsOf_iff.mp hother
  exact ((AuditEventRow.conflicts_eq_false_iff.mp (hadds.fresh other hmem)).2 htenant).2

theorem Sound.add (hadds : Adds codec table row)
    (hrows : table'.rows = table.rows ++ [row]) : Sound codec table' where
  chained tenantId := by
    rw [eventsOf_of_concat hrows]
    split_ifs with htenant
    · subst htenant
      exact linked_none_concat_iff.mpr ⟨h.chained row.tenantId, h.previous_eq hadds⟩
    · exact h.chained tenantId
  verified other hother := by
    rw [hrows, List.mem_append, List.mem_singleton] at hother
    rcases hother with hother | rfl
    · exact h.verified other hother
    · exact hadds.verified

theorem Sound.next (hreads : input.ReadsBack codec) :
    Sound codec ((auditLedger codec).next table input) := by
  obtain hsame | ⟨row, hrows, hadds⟩ := next_cases table hreads
  · rwa [hsame]
  · exact h.add hadds hrows

end

theorem sound_empty : Sound codec .empty where
  chained _ := trivial
  verified _ hrow := absurd hrow List.not_mem_nil

theorem sound_run (hreads : ∀ input ∈ inputs, input.ReadsBack codec) :
    Sound codec ((auditLedger codec).run .empty inputs) :=
  (auditLedger codec).run_invariant_of (fun _ _ hinput h => h.next hinput) sound_empty hreads

/-- The head a step looks for is the last event. -/
theorem Sound.chainHead_eq (h : Sound codec table) :
    chainHead table tenantId = headHash (·.eventHash) (eventsOf table tenantId) :=
  (h.chained tenantId).find?_map nodup_hashes

/-- The events of a tenant as they are read back. -/
def auditChain (codec : Codec) (table : AuditTable) (tenantId : Uuid) : List HashedAuditEvent :=
  (eventsOf table tenantId).map (event codec)

theorem Sound.accepted (h : Sound codec table)
    (hcount : (eventsOf table tenantId).length ≤ u64Max) :
    AcceptedChain codec.auditDigest tenantId (auditChain codec table tenantId) where
  verified event hevent := by
    obtain ⟨row, hrow, rfl⟩ := List.mem_map.mp hevent
    exact h.verified row (mem_eventsOf_iff.mp hrow).1
  ofTenant event hevent := by
    obtain ⟨row, hrow, rfl⟩ := List.mem_map.mp hevent
    exact (mem_eventsOf_iff.mp hrow).2
  ids := by
    rw [auditChain, List.map_map]
    exact nodup_ids
  hashes := by
    rw [auditChain, List.map_map]
    exact nodup_hashes
  chained := linked_map_iff.mpr (h.chained tenantId)
  counted := by rwa [auditChain, List.length_map]

/-! ## One head -/

/-- The writers agree on the head at every length the chain had exactly if at every such
    length the greatest key was that of the last event. -/
theorem forall_heads_iff (hreads : ∀ input ∈ inputs, input.ReadsBack codec) :
    (∀ earlier, earlier <+: inputs →
      apiHead ((auditLedger codec).run .empty earlier) tenantId
        = chainHead ((auditLedger codec).run .empty earlier) tenantId)
      ↔ ∀ front, front <+: eventsOf ((auditLedger codec).run .empty inputs) tenantId →
        (front.argmax key).map (·.eventHash) = headHash (·.eventHash) front := by
  induction inputs using List.reverseRecOn with
  | nil =>
    simp only [List.prefix_nil, forall_eq, Machine.run_nil]
    constructor
    · rintro - front hfront
      obtain rfl := List.prefix_nil.mp hfront
      rfl
    · exact fun _ => rfl
  | append_singleton inputs input ih =>
    have hbefore : ∀ input ∈ inputs, input.ReadsBack codec :=
      fun other hother => hreads other (List.mem_append_left _ hother)
    have hinput : input.ReadsBack codec := hreads input (by simp)
    simp only [List.prefix_concat_iff, forall_eq_or_imp, ih hbefore, Machine.run_concat]
    rw [((sound_run hbefore).next hinput).chainHead_eq, apiHead]
    -- A step leaves the chain as it was, or adds its last event.
    obtain hsame | ⟨row, hrows, -⟩ := next_cases ((auditLedger codec).run .empty inputs) hinput
    · rw [hsame]
      exact and_iff_right_of_imp fun h => h _ (List.prefix_refl _)
    · rw [eventsOf_of_concat hrows]
      split_ifs with htenant
      · simp [List.prefix_concat_iff]
      · exact and_iff_right_of_imp fun h => h _ (List.prefix_refl _)

end Tables

/-- Every table that appends build up from the empty one holds one chain for each tenant,
    which `verify_audit_chain` accepts. The head the API appends to is the head of the
    chain in each of the tables before it exactly if the tenant's events were ingested in
    the order of `(ingested_at, id)`. -/
theorem one_audit_head_iff (codec : Codec) (inputs : List Append) (tenantId : Uuid)
    (hreads : ∀ input ∈ inputs, input.ReadsBack codec)
    (hcount : (eventsOf ((auditLedger codec).run .empty inputs) tenantId).length ≤ u64Max) :
    (∃ summary, verifyAuditChain codec.auditDigest tenantId
        (auditChain codec ((auditLedger codec).run .empty inputs) tenantId) = .ok summary)
      ∧ ((∀ earlier, earlier <+: inputs →
          apiHead ((auditLedger codec).run .empty earlier) tenantId
            = chainHead ((auditLedger codec).run .empty earlier) tenantId)
        ↔ (eventsOf ((auditLedger codec).run .empty inputs) tenantId).Pairwise
            fun a b => a.key < b.key) :=
  ⟨⟨_, verifyAuditChain_eq_ok_iff.mpr ⟨(sound_run hreads).accepted hcount, rfl⟩⟩,
    (forall_heads_iff hreads).trans (forall_prefix_argmax_iff nodup_hashes)⟩

namespace LedgerSample

def audit : AuditInsert where
  tenantId := .ofNat 7
  workItemId := none
  attemptId := none
  actorSubject := "operator:1"
  action := "work.accept"
  subjectType := "work_item"
  subjectId := "item"
  correlationId := "request"
  policyDigest := none
  beforeDigest := none
  afterDigest := none
  details := .obj []

def fence : WorkflowStepFence where
  tenantId := .ofNat 7
  jobId := .ofNat 5
  workflowInstanceId := .ofNat 6
  workItemId := .ofNat 3
  leaseOwner := "reactor"
  jobFenceToken := 1
  expectedWorkItemVersion := 1
  expectedWorkflowVersion := 1
  expectedWorkflowFenceToken := 1
  expectedAnchorGeneration := 1

def stepAudit : StepAuditEvent where
  id := .ofNat 2
  attemptId := none
  actorType := "control_plane"
  actorId := "asf:reactor"
  action := "work.accept"
  subjectType := "work_item"
  subjectId := "item"
  correlationId := "request"
  traceId := none
  policyDigest := none
  beforeDigest := none
  afterDigest := none
  details := .obj []
  occurredAt := .decode 1000000

def firstHash : String := "sha256:5612d065bf5eae7ff19907355d47cfaf9d1bbff12ad674f98391bc631fc3ba7d"

/-- SHA-256 of the canonical form of the events below, told apart by their ids. -/
def auditDigest (content : AuditEventContent) : Result String :=
  if content.id = .ofNat 1 then .ok firstHash
  else if content.id = .ofNat 2 then
    .ok "sha256:cda08cd8406b509a74f70f06d85de6dae543ffdb744ab9d4840359b4eea0a30f"
  else
    .ok "sha256:73cd5b2c9bb99690624bf4653cea43b0bbecca115978b6a1e25fbedd1007db10"

def codec : Codec where
  textDigest text := text
  jsonDigest _ := .error (.serialization "not a document of the sample")
  auditDigest := auditDigest
  timeText _ := ""
  readJson value := value
  signedWorkOrder _ := .error "not a document of the sample"

/-- An API call at two seconds. -/
def called : Append := .api audit (.ofNat 1) 2000000 2000000

/-- A step whose event is ingested at the instant. -/
def stepped (ingestedAt : Timestamptz) : Append := .step fence stepAudit ingestedAt

/-- An API call at three seconds. -/
def calledAgain : Append := .api audit (.ofNat 4) 3000000 3000000

end LedgerSample

/-! ## The statement of a workflow step

In the model of a step's transaction the two unique indexes of the chain are part of the
database's verdict. -/

variable {table table' : AuditTable}

theorem auditChainHead_eq {db : Db} {tenantId : Uuid} (hdb : db.auditEvents.rows
    = table.rows.map toAuditRow) :
    db.auditChainHead tenantId = chainHead table tenantId := by
  rw [Db.auditChainHead, chainHead, hdb, List.find?_map, Option.map_map]
  simp only [eventsOf, List.find?_filter, List.any_filter, List.any_map]
  congr 2
  funext event
  rw [Bool.eq_iff_iff]
  by_cases htenant : event.tenantId = tenantId <;> simp [htenant]

section

open LedgerSample

/-- The step's event is ingested a second after that of the API. -/
theorem one_audit_head_sample :
    (∃ summary, verifyAuditChain codec.auditDigest (.ofNat 7)
        (auditChain codec ((auditLedger codec).run .empty [called, stepped 3000000])
          (.ofNat 7)) = .ok summary)
      ∧ apiHead ((auditLedger codec).run .empty [called, stepped 3000000]) (.ofNat 7)
        = chainHead ((auditLedger codec).run .empty [called, stepped 3000000]) (.ofNat 7) := by
  have hreads : ∀ input ∈ [called, stepped 3000000], input.ReadsBack codec := by
    simp only [List.forall_mem_singleton, List.forall_mem_cons]
    exact ⟨rfl, rfl, rfl⟩
  obtain ⟨haccepted, hheads⟩ := one_audit_head_iff codec [called, stepped 3000000] (.ofNat 7)
    hreads (by decide +kernel)
  exact ⟨haccepted, hheads.mpr (by decide +kernel) _ (List.prefix_refl _)⟩

/-- The clock goes back by a second between the two appends. Then the API takes the first
    event for the head, and the ledger refuses what the API appends to it. -/
theorem audit_heads_differ :
    apiHead ((auditLedger codec).run .empty [called, stepped 1000000]) (.ofNat 7)
        ≠ chainHead ((auditLedger codec).run .empty [called, stepped 1000000]) (.ofNat 7)
      ∧ ((auditLedger codec).history .empty
          [called, stepped 1000000, calledAgain]).map Prod.snd
        = [none, none, some (.conflict "append API audit event was rejected by the ledger")] := by
  decide +kernel

end

end Asf.Audit
